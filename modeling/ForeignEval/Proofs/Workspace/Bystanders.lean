import ForeignEval.Proofs.Workspace.Lifetime

/-!
# States that are left alone

Runners work with the states of their sessions. A state that no runner has is left alone by whatever
they do, and no runner gets hold of it later: the states of new sessions have numbers of their own.
What is done with modules, handles and bindings touches no state at all.

* **Traces** — `Trace.Outside`: a state has not been made in between.
* **Opening** — `Session.spares_new`, `Pool.spares_new`.
* **Workspaces** — `Workspace.Apart`: no runner has a state; `Workspace.Spares`: it is left alone.
* **Step** — `Workspace.Apart.act` and `Workspace.Apart.move`: only calls on a state itself touch it.
-/

namespace ForeignEval

open Foreign (Call Ending Event Failure Source StateId Table Trace)
open Workspace (Name Request StateCall Step)

/-! ## Traces -/

namespace Foreign

variable {id : StateId} {before middle after : Trace}

/-- An event is not a call on a state. -/
def Event.IsApart (id : StateId) (event : Event) : Prop := event.on? id = none

theorem Event.isApart_called {table : Table} {call : Call} (other : table.idOf call.state ≠ id)
    (ending : Ending) : Event.IsApart id (.called table.source table.library call ending) := by
  refine if_neg fun same => other ?_
  obtain ⟨source, library, number⟩ := id
  obtain ⟨rfl, rfl, rfl⟩ := same
  rfl

namespace Trace

theorem Grows.lifeOf_eq (grows : Grows (Event.IsApart id) before after) :
    after.lifeOf id = before.lifeOf id := by
  obtain ⟨events, rfl, apart⟩ := grows
  rw [lifeOf_append, show lifeOf events id = [] from List.filterMap_eq_nil_iff.2 apart,
    List.append_nil]

theorem Grows.created_le {P : Event → Prop} (grows : Grows P before after) (source : Source) :
    before.created source ≤ after.created source := by
  obtain ⟨events, rfl, -⟩ := grows
  exact created_le_append _ _ _

theorem Grows.events {table : Table} {made : List (Call × Ending)}
    (other : ∀ entry ∈ made, table.idOf entry.1.state ≠ id) :
    Grows (Event.IsApart id) before (before ++ table.events made) := by
  refine ⟨_, rfl, fun event mem => ?_⟩
  obtain ⟨entry, there, rfl⟩ := List.mem_map.1 mem
  exact Event.isApart_called (other entry there) entry.2

theorem Quiet.grows (quiet : Quiet before after) : Grows (Event.IsApart id) before after := by
  obtain ⟨events, rfl, none⟩ := quiet
  refine ⟨events, rfl, fun event mem => ?_⟩
  cases event with
  | opened | closed | stuck => rfl
  | called => cases none _ mem

/-- A state has not been made in between: it had been made before, or it has not been made yet. -/
def Outside (id : StateId) (before after : Trace) : Prop :=
  id.number < before.created id.source ∨ after.created id.source ≤ id.number

namespace Outside

theorem first (outside : Outside id before after)
    (later : middle.created id.source ≤ after.created id.source) : Outside id before middle :=
  outside.imp_right later.trans

theorem rest (outside : Outside id before after)
    (earlier : before.created id.source ≤ middle.created id.source) : Outside id middle after :=
  outside.imp_left fun low => Nat.lt_of_lt_of_le low earlier

/-- The state that a binding makes in between is another one. -/
theorem ne_nextId {binding : Binding} {made : List (Call × Ending)} {ending : Ending}
    (outside : Outside id before (before ++ binding.table.events
      ((.create (binding.nextId before).number, ending) :: made))) :
    binding.nextId before ≠ id := by
  rintro rfl
  have used : before.created binding.table.source < created (before ++ binding.table.events
      ((.create (binding.nextId before).number, ending) :: made)) binding.table.source :=
    created_lt_append_events before
  rcases outside with low | high
  · exact Nat.lt_irrefl _ low
  · exact Nat.not_le.2 used high

end Outside

end Trace

end Foreign

/-- What a binding calls on a state of its own is nothing to another state. -/
theorem Binding.admits_apart {id : StateId} {binding : Binding} {state : State}
    (other : binding.owns state = true → binding.table.idOf state.number ≠ id) :
    binding.Admits (Event.IsApart id) state := by
  intro own call ending same
  refine Event.isApart_called ?_ ending
  rw [same]
  exact other own

/-- A state is made, or the foreign code refuses to. -/
theorem Binding.createState_cases (binding : Binding) (trace : Trace) :
    (binding.createState trace = (.ok ⟨binding.id, (binding.nextId trace).number⟩,
      trace ++ binding.table.events [(.create (binding.nextId trace).number, .returned)])) ∨
    ∃ failure, binding.createState trace =
      (.error (.stateCreation binding.function failure.message),
        trace ++ binding.table.events
          [(.create (binding.nextId trace).number, .failed failure)]) := by
  unfold createState Table.create nextId
  cases binding.table.onCreate trace with
  | ok => exact .inl rfl
  | error failure => exact .inr ⟨failure, rfl⟩

/-! ## Sessions -/

namespace Session

variable {id : StateId} {session : Session}

/-- What is called on the state of a session is nothing to another state. -/
theorem admits_apart (other : session.id ≠ id) : session.Admits (Event.IsApart id) := by
  intro call ending same
  refine Event.isApart_called ?_ ending
  rw [same]
  exact other

/-- The state of a new session has a number that nobody had. -/
theorem spares_new (binding : Binding) (trace : Trace)
    (outside : Trace.Outside id trace (new binding trace).2) :
    (∀ session, (new binding trace).1 = .ok session → session.id ≠ id) ∧
      trace.Grows (Event.IsApart id) (new binding trace).2 := by
  -- whatever comes of it, the state's first call is the one that makes it
  have numbered {ending : Ending} {made : List (Call × Ending)}
      (outside : Trace.Outside id trace (trace ++ binding.table.events
        ((.create (binding.nextId trace).number, ending) :: made)))
      (own : ∀ entry ∈ (.create (binding.nextId trace).number, ending) :: made,
        entry.1.state = (binding.nextId trace).number) :
      binding.nextId trace ≠ id ∧ trace.Grows (Event.IsApart id) (trace ++ binding.table.events
        ((.create (binding.nextId trace).number, ending) :: made)) := by
    have other : binding.nextId trace ≠ id := outside.ne_nextId
    refine ⟨other, .events fun entry mem => ?_⟩
    rw [own entry mem]
    exact other
  have ended (answer : Except Failure Unit) :
      ∀ entry ∈ ending (binding.nextId trace).number answer,
        entry.1.state = (binding.nextId trace).number := by
    simp [ending, Call.state]
  rcases new_cases binding trace with
    ⟨failure, refused⟩ | ⟨failure, answer, refused⟩ | ⟨info, made⟩
  · rw [refused] at outside ⊢
    exact ⟨fun _ ok => absurd ok (by simp), (numbered outside (by simp [Call.state])).2⟩
  · rw [refused] at outside ⊢
    refine ⟨fun _ ok => absurd ok (by simp), (numbered outside ?_).2⟩
    exact List.forall_mem_cons.2 ⟨rfl, List.forall_mem_cons.2 ⟨rfl, ended answer⟩⟩
  · rw [made] at outside ⊢
    obtain ⟨other, grown⟩ := numbered outside (by simp [Call.state])
    refine ⟨fun session ok => ?_, grown⟩
    cases ok
    exact other

end Session

/-! ## Pools -/

namespace Pool

variable {id : StateId}

theorem spares_openSessions (binding : Binding) (count : Nat) (trace : Trace)
    (outside : Trace.Outside id trace (openSessions binding count trace).2.2) :
    (∀ session ∈ (openSessions binding count trace).1, session.id ≠ id) ∧
      trace.Grows (Event.IsApart id) (openSessions binding count trace).2.2 := by
  induction count generalizing trace with
  | zero => exact ⟨fun _ mem => absurd mem List.not_mem_nil, .refl _ trace⟩
  | succ count ih =>
    have made : Trace.Outside id trace (Session.new binding trace).2 → _ :=
      Session.spares_new binding trace
    have earlier := (Session.calls_new binding trace).2.created_le id.source
    unfold openSessions at outside ⊢
    rcases opened : Session.new binding trace with ⟨e | session, after⟩
    · rw [opened] at made outside
      exact ⟨fun _ mem => absurd mem List.not_mem_nil, (made outside).2⟩
    · rw [opened] at made outside earlier
      have later := (calls_openSessions binding count after).2.created_le id.source
      obtain ⟨apart, grown⟩ := made (outside.first later)
      obtain ⟨others, rest⟩ := ih after (outside.rest earlier)
      exact ⟨List.forall_mem_cons.2 ⟨apart session rfl, others⟩, grown.trans rest⟩

theorem spares_new (binding : Binding) (workers : Nat) (cache : Cache) (schedule : Schedule)
    (trace : Trace)
    (outside : Trace.Outside id trace (new binding workers cache schedule trace).2) :
    (∀ pool, (new binding workers cache schedule trace).1 = .ok pool →
        ∀ worker ∈ pool.workers, worker.session.id ≠ id) ∧
      trace.Grows (Event.IsApart id) (new binding workers cache schedule trace).2 := by
  have opened : Trace.Outside id trace (openSessions binding (max workers 1) trace).2.2 → _ :=
    spares_openSessions binding (max workers 1) trace
  obtain ⟨seated, -⟩ := calls_openSessions binding (max workers 1) trace
  unfold new at outside ⊢
  rcases made : openSessions binding (max workers 1) trace with ⟨sessions, _ | e, after⟩
  · rw [made] at opened outside
    obtain ⟨apart, grown⟩ := opened outside
    refine ⟨fun pool ok worker mem => ?_, grown⟩
    cases ok
    obtain ⟨session, there, rfl⟩ := List.mem_map.1 mem
    exact apart session there
  · rw [made] at opened outside seated
    have later := (grows_closeSessions (fun session mem => .isIn (seated session mem))
      after).created_le id.source
    obtain ⟨apart, grown⟩ := opened (outside.first later)
    exact ⟨fun _ ok => absurd ok (by simp), grown.trans
      (grows_closeSessions (fun session mem => session.admits_apart (apart session mem)) after)⟩

end Pool

/-! ## Workspaces -/

namespace Workspace

variable {id : StateId} {w later : Workspace} {name : Name} {runner : Runner}

/-- No runner has a state. -/
def Apart (id : StateId) (w : Workspace) : Prop :=
  ∀ session ∈ sessionsOf w.runners, session.id ≠ id

/-- A step calls a binding on a state that is its own. -/
def Step.Touches (id : StateId) (w : Workspace) : Step → Prop
  | .onState state user _ => ∃ found owned, w.bindings.lookup user = some found ∧
      w.states.lookup state = some owned ∧ found.owns owned = true ∧
      found.table.idOf owned.number = id
  | _ => False

/-- What is done with a workspace calls a binding on a state that is its own. -/
def Move.Touches (id : StateId) (w : Workspace) : Move → Prop
  | .step what => what.Touches id w
  | _ => False

/-- A state is left alone, and no runner has it afterwards. -/
structure Spares (id : StateId) (before : Trace) (later : Workspace) : Prop where
  grows : before.Grows (Event.IsApart id) later.trace
  apart : Apart id later

namespace Apart

theorem of_lookup (apart : Apart id w) (found : w.runners.lookup name = some runner) :
    ∀ session ∈ runner.sessions, session.id ≠ id :=
  fun session mem => apart session (List.mem_flatMap.2 ⟨_, mem_of_lookup found, mem⟩)

theorem without (apart : Apart id w) (name : Name) :
    ∀ session ∈ sessionsOf (without w.runners name), session.id ≠ id := by
  intro session mem
  obtain ⟨entry, there, own⟩ := List.mem_flatMap.1 mem
  exact apart session (List.mem_flatMap.2 ⟨entry, List.mem_of_mem_filter there, own⟩)

theorem withName (apart : Apart id w) (name : Name)
    (own : ∀ session ∈ runner.sessions, session.id ≠ id) :
    ∀ session ∈ sessionsOf (withName w.runners name runner), session.id ≠ id := by
  rw [sessionsOf_withName]
  exact List.forall_mem_append.2 ⟨own, apart.without name⟩

theorem quiet (apart : Apart id w) (quiet : Quiet w later) : Spares id w.trace later where
  grows := quiet.trace.grows
  apart := by
    unfold Apart
    rw [quiet.runners]
    exact apart

end Apart

namespace Spares

variable {before : Trace} {middle : Workspace}

protected theorem refl (apart : Apart id w) : Spares id w.trace w := ⟨.refl _ w.trace, apart⟩

theorem trans (first : Spares id before middle) (second : Spares id middle.trace later) :
    Spares id before later :=
  ⟨first.grows.trans second.grows, second.apart⟩

theorem quiet (first : Spares id before middle) (quiet : Quiet middle later) :
    Spares id before later :=
  first.trans (first.apart.quiet quiet)

end Spares

namespace Apart

theorem endRunner (apart : Apart id w) (own : ∀ session ∈ runner.sessions, session.id ≠ id) :
    Spares id w.trace (w.endRunner runner).2 := by
  have ended : Spares id w.trace { w with trace := (shutDown runner w.trace).2 } :=
    ⟨runner.grows_shutDown (fun session mem => session.admits_apart (own session mem)) w.trace,
      apart⟩
  exact ended.quiet (quiet_releaseBinding _ runner.binding)

theorem putRunner (apart : Apart id w) (name : Name)
    (own : ∀ session ∈ runner.sessions, session.id ≠ id) :
    Spares id w.trace (w.putRunner name runner) := by
  have named : Spares id w.trace
      ({ w with runners := Workspace.withName w.runners name runner }.retainBinding
        runner.binding) :=
    ⟨.refl _ w.trace, apart.withName name own⟩
  unfold Workspace.putRunner
  cases found : w.runners.lookup name with
  | none => exact named
  | some old => exact named.trans (named.apart.endRunner (apart.of_lookup found))

theorem closeRunner (apart : Apart id w) (name : Name) : Spares id w.trace (w.closeRunner name).2 := by
  unfold Workspace.closeRunner
  cases found : w.runners.lookup name with
  | none => exact .refl apart
  | some runner =>
    have taken : Spares id w.trace (w.takeRunner name) := ⟨.refl _ w.trace, apart.without name⟩
    exact taken.trans (taken.apart.endRunner (apart.of_lookup found))

theorem close (apart : Apart id w) (name : Name) : Spares id w.trace (Workspace.close name w).2 := by
  have closed := apart.closeRunner name
  unfold Workspace.close
  generalize w.closeRunner name = result at closed ⊢
  obtain ⟨none | ended, later⟩ := result
  · exact closed
  · exact closed

theorem drop (apart : Apart id w) (name : Name) : Spares id w.trace (Workspace.drop name w).2 := by
  have closed := apart.closeRunner name
  unfold Workspace.drop
  generalize w.closeRunner name = result at closed ⊢
  obtain ⟨none | ended, later⟩ := result
  · exact closed
  · exact closed

theorem evaluateOn (apart : Apart id w) (name : Name) (what : Request) :
    Spares id w.trace (Workspace.evaluateOn name what w).2 := by
  unfold Workspace.evaluateOn
  cases found : w.runners.lookup name with
  | none => exact .refl apart
  | some runner =>
    have own := apart.of_lookup found
    have grown := runner.grows_request (fun session mem => session.admits_apart (own session mem))
      w what
    have still : ∀ session ∈ (w.request runner what).2.1.sessions, session.id ≠ id := by
      refine runner.staff_request (fun same other => ?_) own w what
      rw [same.id]
      exact other
    have stored : Spares id w.trace
        ((w.request runner what).2.2.setRunner name (w.request runner what).2.1) := by
      refine ⟨grown, ?_⟩
      unfold Apart setRunner
      rw [Kept.runners_request]
      exact apart.withName name still
    dsimp only
    cases (w.request runner what).1 with
    | ok | error | panic => exact stored

theorem evaluateBatch (apart : Apart id w) (name : Name) (dimension : Nat) (rows : List Point) :
    Spares id w.trace (Workspace.evaluateBatch name dimension rows w).2 := by
  unfold Workspace.evaluateBatch
  cases Sample.ofRows dimension rows with
  | ok batch => exact apart.evaluateOn name (.batch batch)
  | error index =>
    dsimp only
    split
    · exact .refl apart
    · exact .refl apart

theorem fromSession (apart : Apart id w) (name session : Name) (cache : Option Name) :
    Spares id w.trace (Workspace.fromSession name session cache w).2 := by
  unfold Workspace.fromSession
  cases found : w.runners.lookup session with
  | none => exact .refl apart
  | some runner =>
    have taken : Spares id w.trace (w.takeRunner session) := ⟨.refl _ w.trace, apart.without session⟩
    have own := apart.of_lookup found
    obtain ⟨binding, kind⟩ := runner
    cases kind with
    | evaluator | pool => exact taken.trans (taken.apart.endRunner own)
    | session owner =>
      dsimp only
      have cached := taken.quiet
        ((w.takeRunner session).quiet_cacheFor cache (Cache.new Cache.standardSize))
      generalize (w.takeRunner session).cacheFor cache (Cache.new Cache.standardSize) = result
        at cached ⊢
      obtain ⟨number, later⟩ := result
      have named : Spares id w.trace (later.nameCache (cacheNameOf name) number) :=
        cached.quiet ⟨rfl, .refl _⟩
      have evaluator : ∀ session ∈ Runner.sessions ⟨binding, .evaluator owner number⟩,
          session.id ≠ id := own
      exact (named.trans (named.apart.putRunner name evaluator)).quiet
        (quiet_releaseBinding _ binding)

/-! ## Opening -/

/-- What has been opened in the meantime leaves a state alone and does not have it. -/
def Opened (id : StateId) (before : Trace) (binding : Binding)
    (result : Except Error RunnerKind × Workspace) : Prop :=
  Spares id before result.2 ∧
    ∀ kind, result.1 = .ok kind → ∀ session ∈ Runner.sessions ⟨binding, kind⟩, session.id ≠ id

theorem opened_new (apart : Apart id w) {binding : Binding} {make : Session → RunnerKind}
    (one : ∀ session, Runner.sessions ⟨binding, make session⟩ = [session])
    (outside : Trace.Outside id w.trace (Session.new binding w.trace).2) :
    Opened id w.trace binding ((Session.new binding w.trace).1.map make,
      { w with trace := (Session.new binding w.trace).2 }) := by
  obtain ⟨other, grown⟩ := Session.spares_new binding w.trace outside
  refine ⟨⟨grown, apart⟩, fun kind ok => ?_⟩
  cases made : (Session.new binding w.trace).1 with
  | error e =>
    rw [made] at ok
    cases ok
  | ok session =>
    rw [made] at ok
    cases ok
    rw [one session]
    exact List.forall_mem_singleton.2 (other session made)

theorem openSession (apart : Apart id w) (binding : Binding)
    (outside : Trace.Outside id w.trace (Workspace.openSession binding w).2.trace) :
    Opened id w.trace binding (Workspace.openSession binding w) :=
  apart.opened_new (fun _ => rfl) outside

theorem openEvaluatorOn (apart : Apart id w) (cache : Nat) (binding : Binding)
    (outside : Trace.Outside id w.trace (Workspace.openEvaluatorOn cache binding w).2.trace) :
    Opened id w.trace binding (Workspace.openEvaluatorOn cache binding w) :=
  apart.opened_new (fun _ => rfl) outside

theorem openPoolOn (apart : Apart id w) (cache workers : Nat) (binding : Binding)
    (outside : Trace.Outside id w.trace (Workspace.openPoolOn cache workers binding w).2.trace) :
    Opened id w.trace binding (Workspace.openPoolOn cache workers binding w) := by
  obtain ⟨other, grown⟩ :=
    Pool.spares_new binding workers (w.cacheAt cache) w.machine.schedule w.trace outside
  refine ⟨⟨grown, apart⟩, fun kind ok => ?_⟩
  unfold Workspace.openPoolOn at ok
  dsimp only at ok
  cases made : (Pool.new binding workers (w.cacheAt cache) w.machine.schedule w.trace).1 with
  | error e =>
    rw [made] at ok
    cases ok
  | ok pool =>
    rw [made] at ok
    cases ok
    exact List.forall_mem_map.2 (other pool made)

theorem openEvaluator (apart : Apart id w) (cache : Option Name) (changes : List Change)
    (binding : Binding)
    (outside : Trace.Outside id w.trace
      (Workspace.openEvaluator cache changes binding w).2.trace) :
    Opened id w.trace binding (Workspace.openEvaluator cache changes binding w) := by
  unfold Workspace.openEvaluator Workspace.cacheFor at outside ⊢
  cases found : cache.bind fun name => w.cacheNames.lookup name with
  | some number =>
    rw [found] at outside
    exact apart.openEvaluatorOn number binding outside
  | none =>
    rw [found] at outside
    have added : Apart id (w.addCache (w.configured changes).newCache).2 := apart
    exact added.openEvaluatorOn _ binding outside

theorem openPool (apart : Apart id w) (cache : Option Name) (workers : Nat)
    (changes : List Change) (binding : Binding)
    (outside : Trace.Outside id w.trace
      (Workspace.openPool cache workers changes binding w).2.trace) :
    Opened id w.trace binding (Workspace.openPool cache workers changes binding w) := by
  unfold Workspace.openPool at outside ⊢
  cases found : cache.bind fun name => w.cacheNames.lookup name with
  | some number =>
    rw [found] at outside
    exact apart.openPoolOn number workers binding outside
  | none =>
    rw [found] at outside
    have added : Apart id (w.addCache (w.configured changes).newCache).2 := apart
    exact added.openPoolOn _ _ binding outside

theorem created_le_endRunner (w : Workspace) (runner : Runner) (source : Source) :
    w.trace.created source ≤ (w.endRunner runner).2.trace.created source := by
  have ended : w.trace.Grows (fun _ => True) (shutDown runner w.trace).2 :=
    runner.grows_shutDown (fun _ _ _ _ _ => trivial) w.trace
  have released : Trace.Grows (·.call? = none) (shutDown runner w.trace).2
      (w.endRunner runner).2.trace := (quiet_releaseBinding _ runner.binding).trace
  exact Nat.le_trans (ended.created_le source) (released.created_le source)

theorem created_le_putRunner (w : Workspace) (name : Name) (runner : Runner) (source : Source) :
    w.trace.created source ≤ (w.putRunner name runner).trace.created source := by
  unfold Workspace.putRunner
  cases w.runners.lookup name with
  | none => exact Nat.le_refl _
  | some old =>
    exact created_le_endRunner
      ({ w with runners := Workspace.withName w.runners name runner }.retainBinding runner.binding)
      old source

theorem openRunner (apart : Apart id w)
    {make : Binding → Workspace → Except Error RunnerKind × Workspace}
    (opened : ∀ binding, Trace.Outside id w.trace (make binding w).2.trace →
      Opened id w.trace binding (make binding w)) (name binding : Name)
    (outside : Trace.Outside id w.trace (Workspace.openRunner name binding make w).2.trace) :
    Spares id w.trace (Workspace.openRunner name binding make w).2 := by
  unfold Workspace.openRunner at outside ⊢
  cases found : w.bindings.lookup binding with
  | none => exact .refl apart
  | some binding =>
    have opened := opened binding
    rw [found] at outside
    dsimp only at outside ⊢
    generalize make binding w = result at opened outside ⊢
    obtain ⟨_ | kind, after⟩ := result
    · exact (opened outside).1
    · have put {later : Workspace} (runners : later.runners = after.runners)
          (same : later.trace = after.trace)
          (outside : Trace.Outside id w.trace (later.putRunner name ⟨binding, kind⟩).trace) :
          Spares id w.trace (later.putRunner name ⟨binding, kind⟩) := by
        -- the runner is opened before anything is done with its name
        have opening : Trace.Outside id w.trace after.trace := by
          rw [← same]
          exact outside.first (created_le_putRunner later name _ _)
        obtain ⟨spared, own⟩ := opened opening
        have named := spared.quiet ⟨runners, same ▸ .refl after.trace⟩
        exact named.trans (named.apart.putRunner name (own kind rfl))
      cases kind with
      | session | evaluator | pool => exact put rfl rfl outside

/-! ## States -/

/-- A new state has a number that nobody had. -/
theorem createState (apart : Apart id w) (name binding : Name)
    (outside : Trace.Outside id w.trace (Workspace.createState name binding w).2.trace) :
    Spares id w.trace (Workspace.createState name binding w).2 := by
  unfold Workspace.createState at outside ⊢
  cases found : w.bindings.lookup binding with
  | none => exact .refl apart
  | some binding =>
    rw [found] at outside
    have spared {ending : Ending} (outside : Trace.Outside id w.trace
        (w.trace ++ binding.table.events [(.create (binding.nextId w.trace).number, ending)])) :
        w.trace.Grows (Event.IsApart id) (w.trace ++ binding.table.events
          [(.create (binding.nextId w.trace).number, ending)]) :=
      .events (List.forall_mem_singleton.2 outside.ne_nextId)
    dsimp only at outside ⊢
    rcases binding.createState_cases w.trace with made | ⟨failure, made⟩
    · rw [made] at outside ⊢
      exact ⟨spared outside, apart⟩
    · rw [made] at outside ⊢
      exact ⟨spared outside, apart⟩

theorem onState (apart : Apart id w) {state binding : Name}
    (other : ∀ found owned, w.bindings.lookup binding = some found →
      w.states.lookup state = some owned → found.owns owned = true →
      found.table.idOf owned.number ≠ id) (call : StateCall) :
    Spares id w.trace (Workspace.onState state binding call w).2 := by
  unfold Workspace.onState
  cases bound : w.bindings.lookup binding with
  | none => exact .refl apart
  | some found =>
    cases named : w.states.lookup state with
    | none => exact .refl apart
    | some owned =>
      have admits := Binding.admits_apart (other found owned bound named)
      obtain ⟨trace, same, grown⟩ := grows_callState admits state call w
      dsimp only
      rw [same]
      exact ⟨grown, apart⟩

/-! ## Steps -/

/-- **Step**: a state is left alone by a step that does not call a binding on it. -/
theorem act (apart : Apart id w) {step : Step}
    (outside : Trace.Outside id w.trace (Workspace.act step w).2.trace)
    (other : ¬step.Touches id w) : Spares id w.trace (Workspace.act step w).2 := by
  cases step with
  | load name module => exact apart.quiet (w.quiet_load name module)
  | resolvePath module => exact apart.quiet ⟨rfl, .refl w.trace⟩
  | resolveSymbol name symbol another => exact apart.quiet (w.quiet_resolveSymbol name symbol another)
  | unload path => exact apart.quiet ⟨rfl, w.registry.quiet_unload w.trace path⟩
  | teardown => exact apart.quiet ⟨rfl, w.registry.quiet_teardown w.trace⟩
  | dropHandle name => exact apart.quiet (w.quiet_dropHandle name)
  | bind name module function => exact apart.quiet (w.quiet_bind name module function)
  | bindLocal name function script => exact apart.quiet (w.quiet_bindLocal name function script)
  | binding name => exact apart.quiet (w.quiet_describeBinding name)
  | dropBinding name => exact apart.quiet (w.quiet_dropBinding name)
  | createState name binding => exact apart.createState name binding outside
  | onState state binding call =>
    refine apart.onState (fun found owned bound named own same => other ?_) call
    exact ⟨found, owned, bound, named, own, same⟩
  | session name binding => exact apart.openRunner apart.openSession name binding outside
  | evaluator name binding cache changes =>
    exact apart.openRunner (apart.openEvaluator cache changes) name binding outside
  | pool name binding cache workers changes =>
    exact apart.openRunner (apart.openPool cache workers changes) name binding outside
  | fromSession name session cache => exact apart.fromSession name session cache
  | evaluate name point => exact apart.evaluateOn name (.point point)
  | evaluateBatch name dimension rows => exact apart.evaluateBatch name dimension rows
  | inspect name => exact apart.quiet (w.quiet_inspect name)
  | close name => exact apart.close name
  | drop name => exact apart.drop name
  | cache name call => exact apart.quiet (w.quiet_onCache name call)
  | locate | locateCalls | isLoaded | loaded | registryRecord => exact .refl apart

theorem move (apart : Apart id w) {move : Move}
    (outside : Trace.Outside id w.trace (w.move move).trace) (other : ¬move.Touches id w) :
    Spares id w.trace (w.move move) := by
  cases move with
  | step step => exact apart.act outside other
  | cloneHandle name source =>
    dsimp only [Workspace.move]
    cases w.handles.lookup source with
    | none => exact .refl apart
    | some handle =>
      have retained : Quiet w { w with registry := w.registry.retain handle.library } :=
        ⟨rfl, .refl w.trace⟩
      exact apart.quiet (retained.trans (quiet_putHandle _ name handle))
  | shareBinding name source =>
    dsimp only [Workspace.move]
    cases w.bindings.lookup source with
    | none => exact .refl apart
    | some binding => exact apart.quiet (w.quiet_putBinding name binding)
  | dropRegistry => exact apart.quiet ⟨rfl, w.registry.quiet_teardown w.trace⟩

end Apart

end Workspace

end ForeignEval

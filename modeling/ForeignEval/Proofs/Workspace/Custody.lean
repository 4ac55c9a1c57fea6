import ForeignEval.Proofs.Pool.Custody
import ForeignEval.Proofs.Workspace.Names
import ForeignEval.Proofs.Workspace.Quiet

/-!
# Custody in a workspace

A workspace whose callers leave states to the runners is **kept**: the names of runners are
distinct, and all states are in the custody of the runners' sessions. Steps that make or call states
by hand aside, every step keeps it so.

* **Runners** — `Kept.takeRunner`, `Kept.endRunner`, `Kept.putRunner`; a runner without a name is
  loose for a while.
* **Step** — `Kept.act`.
* **Run** — `Kept.run`; `Kept.finish` leaves no runner.
-/

namespace ForeignEval

open Foreign (Call Event Stage StateId Trace)
open Workspace (Name Request Step Value)
open scoped List

/-- The sessions of a runner. -/
def Runner.sessions (runner : Runner) : List Session :=
  match runner.kind with
  | .session session | .evaluator session _ => [session]
  | .pool pool _ => pool.workers.map (·.session)

namespace Workspace

/-- The sessions of named runners. -/
def sessionsOf (named : List (Name × Runner)) : List Session :=
  named.flatMap fun named => named.2.sessions

/-- Steps that leave making and calling states to the runners. -/
def Step.Managed : Step → Prop
  | .createState _ _ | .onState _ _ _ => False
  | _ => True

/-! ## Names -/

section Names

variable {named : List (Name × Runner)} {id : Name} {runner : Runner}

theorem sessionsOf_withName :
    sessionsOf (withName named id runner) = runner.sessions ++ sessionsOf (without named id) := rfl

theorem perm_sessionsOf (names : (named.map (·.1)).Nodup)
    (found : named.lookup id = some runner) :
    (sessionsOf named).Perm (runner.sessions ++ sessionsOf (without named id)) :=
  (perm_without names found).flatMap_right _

end Names

/-! ## Runners -/

/-- The names of runners are distinct, and all states are in the custody of runners or of these
loose sessions. -/
structure Kept (loose : List Session) (w : Workspace) : Prop where
  names : (w.runners.map (·.1)).Nodup
  custody : Custody none (loose ++ sessionsOf w.runners) w.trace

end Workspace

namespace Custody

variable {sessions : List Session} {trace : Trace}

/-- What is not a call does not matter. -/
theorem quiet {later : Trace} (custody : Custody none sessions trace)
    (quiet : Trace.Quiet trace later) : Custody none sessions later := by
  obtain ⟨events, rfl, none⟩ := quiet
  have life (id : StateId) : Trace.lifeOf (trace ++ events) id = trace.lifeOf id := by
    have unseen : Trace.lifeOf events id = [] := by
      refine List.filterMap_eq_nil_iff.2 fun event mem => ?_
      cases event with
      | opened | closed | stuck => rfl
      | called => cases none _ mem
    rw [Trace.lifeOf_append, unseen, List.append_nil]
  refine ⟨custody.owned, fun session mem => ?_, custody.distinct, fun id other => ?_,
    fun id other high => ?_⟩
  · rw [life]
    exact custody.held session mem
  · rw [life]
    exact custody.settled id other
  · rw [life]
    exact custody.numbered id other (Nat.le_trans (Trace.created_le_append _ _ _) high)

/-- Shutting a runner down leaves nothing of its states. -/
theorem shutDown {runner : Runner} (custody : Custody none (runner.sessions ++ sessions) trace) :
    Custody none sessions (Workspace.shutDown runner trace).2 := by
  obtain ⟨binding, kind⟩ := runner
  cases kind with
  | session session => exact custody.close
  | evaluator session cache => exact custody.close
  | pool pool cache => exact custody.closeSessions

/-- Whatever a runner is asked to evaluate, its sessions keep their states. -/
theorem request {w : Workspace} {runner : Runner}
    (custody : Custody none (runner.sessions ++ sessions) w.trace) (what : Request) :
    Custody none ((w.request runner what).2.1.sessions ++ sessions)
      (w.request runner what).2.2.trace := by
  obtain ⟨binding, kind⟩ := runner
  cases kind with
  | session session =>
    cases what with
    | point point => exact custody.evaluate point
    | batch batch => exact custody.evaluateBatch batch
  | evaluator session number =>
    have evaluator : Custody none
        ((⟨session, w.cacheAt number⟩ : Evaluator).session :: sessions) w.trace := custody
    have served := evaluator.evaluator_serve what
    cases what with
    | point | batch => exact served
  | pool pool number =>
    have cached : Custody none (({ pool with cache := w.cacheAt number } : Pool).workers.map
        (·.session) ++ sessions) w.trace := custody
    cases what with
    | point point => exact cached.evaluatePool point
    | batch batch => exact cached.evaluatePoolBatch batch

end Custody

namespace Workspace.Kept

variable {w later : Workspace} {loose : List Session} {id : Name} {runner : Runner}

theorem quiet (kept : w.Kept loose) (quiet : Quiet w later) : later.Kept loose where
  names := by
    rw [quiet.runners]
    exact kept.names
  custody := by
    rw [quiet.runners]
    exact kept.custody.quiet quiet.trace

theorem takeRunner (kept : w.Kept loose) (found : w.runners.lookup id = some runner) :
    (w.takeRunner id).Kept (runner.sessions ++ loose) where
  names := nodup_without kept.names
  custody := by
    refine kept.custody.perm (((perm_sessionsOf kept.names found).append_left loose).trans ?_)
    rw [List.append_assoc]
    exact List.perm_append_comm_assoc _ _ _

theorem endRunner (kept : w.Kept (runner.sessions ++ loose)) :
    (w.endRunner runner).2.Kept loose := by
  have custody := kept.custody
  rw [List.append_assoc] at custody
  have ended : Kept loose { w with trace := (shutDown runner w.trace).2 } :=
    ⟨kept.names, custody.shutDown⟩
  exact ended.quiet (quiet_releaseBinding _ runner.binding)

theorem putRunner (kept : w.Kept (runner.sessions ++ loose)) :
    (w.putRunner id runner).Kept loose := by
  have custody := kept.custody
  unfold Workspace.putRunner
  cases found : w.runners.lookup id with
  | none =>
    refine ⟨nodup_withName kept.names, ?_⟩
    show Custody none (loose ++ sessionsOf (withName w.runners id runner)) w.trace
    rw [sessionsOf_withName, without_of_absent (absent_of_lookup found), ← List.append_assoc]
    exact custody.perm (List.perm_append_comm.append_right _)
  | some old =>
    -- the runner that had the name becomes loose, and is ended
    refine endRunner ⟨nodup_withName kept.names, ?_⟩
    show Custody none (old.sessions ++ loose ++ sessionsOf (withName w.runners id runner)) w.trace
    refine custody.perm ?_
    rw [sessionsOf_withName, List.append_assoc, List.append_assoc]
    calc runner.sessions ++ (loose ++ sessionsOf w.runners)
        ~ runner.sessions ++ (loose ++ (old.sessions ++ sessionsOf (without w.runners id))) :=
          ((perm_sessionsOf kept.names found).append_left loose).append_left runner.sessions
      _ ~ runner.sessions ++ (old.sessions ++ (loose ++ sessionsOf (without w.runners id))) :=
          (List.perm_append_comm_assoc _ _ _).append_left runner.sessions
      _ ~ old.sessions ++ (runner.sessions ++ (loose ++ sessionsOf (without w.runners id))) :=
          List.perm_append_comm_assoc _ _ _
      _ ~ old.sessions ++ (loose ++ (runner.sessions ++ sessionsOf (without w.runners id))) :=
          (List.perm_append_comm_assoc _ _ _).append_left old.sessions

/-! ## Requests -/

theorem runners_request (runner : Runner) (what : Request) :
    (w.request runner what).2.2.runners = w.runners := by
  obtain ⟨binding, kind⟩ := runner
  cases kind with
  | session | evaluator | pool => rfl

theorem evaluateOn (kept : w.Kept []) (id : Name) (what : Request) :
    (Workspace.evaluateOn id what w).2.Kept [] := by
  unfold Workspace.evaluateOn
  cases found : w.runners.lookup id with
  | none => exact kept
  | some runner =>
    have custody := kept.custody.perm (perm_sessionsOf kept.names found)
    have stored :
        ((w.request runner what).2.2.setRunner id (w.request runner what).2.1).Kept [] := by
      unfold setRunner
      rw [runners_request]
      exact ⟨nodup_withName kept.names, custody.request what⟩
    dsimp only
    cases (w.request runner what).1 with
    | ok | error | panic => exact stored

/-! ## Opening -/

/-- What has been opened is loose; an error leaves nothing loose. -/
def Opened (binding : Binding) : Except Error RunnerKind × Workspace → Prop
  | (.error _, later) => later.Kept []
  | (.ok kind, later) => later.Kept (Runner.sessions ⟨binding, kind⟩)

/-- A new session, or what is made of it, is loose. -/
theorem opened_new (kept : w.Kept []) {binding : Binding} {make : Session → RunnerKind}
    (one : ∀ session, Runner.sessions ⟨binding, make session⟩ = [session]) :
    Opened binding ((Session.new binding w.trace).1.map make,
      { w with trace := (Session.new binding w.trace).2 }) := by
  have opened := kept.custody.new binding
  generalize Session.new binding w.trace = result at opened ⊢
  obtain ⟨e | session, after⟩ := result
  · exact ⟨kept.names, opened⟩
  · refine ⟨kept.names, ?_⟩
    rw [one session]
    exact opened

theorem openSession (kept : w.Kept []) (binding : Binding) :
    Opened binding (Workspace.openSession binding w) :=
  kept.opened_new fun _ => rfl

theorem openEvaluatorOn (kept : w.Kept []) (cache : Nat) (binding : Binding) :
    Opened binding (Workspace.openEvaluatorOn cache binding w) :=
  kept.opened_new fun _ => rfl

theorem openPoolOn (kept : w.Kept []) (cache workers : Nat) (binding : Binding) :
    Opened binding (Workspace.openPoolOn cache workers binding w) := by
  have opened := kept.custody.newPool binding workers (w.cacheAt cache) w.machine.schedule
  unfold Workspace.openPoolOn
  generalize Pool.new binding workers (w.cacheAt cache) w.machine.schedule w.trace = result
    at opened ⊢
  obtain ⟨_ | pool, after⟩ := result
  · exact ⟨kept.names, opened⟩
  · simp only [Except.toOption, Option.toList, List.flatMap_cons, List.flatMap_nil,
      List.append_nil] at opened
    exact ⟨kept.names, opened⟩

theorem openEvaluator (kept : w.Kept []) (cache : Option Name) (changes : List Workspace.Change)
    (binding : Binding) : Opened binding (Workspace.openEvaluator cache changes binding w) :=
  (kept.quiet (w.quiet_cacheFor cache (w.configured changes).newCache)).openEvaluatorOn _ binding

theorem openPool (kept : w.Kept []) (cache : Option Name) (workers : Nat)
    (changes : List Workspace.Change) (binding : Binding) :
    Opened binding (Workspace.openPool cache workers changes binding w) := by
  unfold Workspace.openPool
  cases cache.bind fun name => w.cacheNames.lookup name with
  | some number => exact kept.openPoolOn number workers binding
  | none =>
    have added : Quiet w (w.addCache (w.configured changes).newCache).2 := ⟨rfl, .refl w.trace⟩
    exact (kept.quiet added).openPoolOn _ _ binding

theorem openRunner (kept : w.Kept [])
    {make : Binding → Workspace → Except Error RunnerKind × Workspace}
    (opened : ∀ binding, Opened binding (make binding w)) (id binding : Name) :
    (Workspace.openRunner id binding make w).2.Kept [] := by
  unfold Workspace.openRunner
  cases w.bindings.lookup binding with
  | none => exact kept
  | some binding =>
    have opened := opened binding
    dsimp only
    generalize make binding w = result at opened ⊢
    obtain ⟨_ | kind, after⟩ := result
    · exact opened
    · have loose : after.Kept (Runner.sessions ⟨binding, kind⟩ ++ []) := by
        rw [List.append_nil]
        exact opened
      cases kind with
      | session session => exact loose.putRunner
      | evaluator session cache =>
        have named : Quiet after (after.nameCache (cacheNameOf id) cache) := ⟨rfl, .refl _⟩
        exact (loose.quiet named).putRunner
      | pool pool cache =>
        have named : Quiet after (after.nameCache (cacheNameOf id) cache) := ⟨rfl, .refl _⟩
        exact (loose.quiet named).putRunner

theorem fromSession (kept : w.Kept []) (id session : Name) (cache : Option Name) :
    (Workspace.fromSession id session cache w).2.Kept [] := by
  unfold Workspace.fromSession
  cases found : w.runners.lookup session with
  | none => exact kept
  | some runner =>
    have loose := kept.takeRunner found
    obtain ⟨binding, kind⟩ := runner
    cases kind with
    | evaluator | pool => exact loose.endRunner
    | session owner =>
      dsimp only
      have cached := loose.quiet
        ((w.takeRunner session).quiet_cacheFor cache (Cache.new Cache.standardSize))
      generalize (w.takeRunner session).cacheFor cache (Cache.new Cache.standardSize) = result
        at cached ⊢
      obtain ⟨number, later⟩ := result
      -- the session is loose until the evaluator gets its name
      have named : Quiet later (later.nameCache (cacheNameOf id) number) := ⟨rfl, .refl _⟩
      have evaluator : later.Kept (Runner.sessions ⟨binding, .evaluator owner number⟩ ++ []) :=
        cached
      exact (evaluator.quiet named).putRunner.quiet (quiet_releaseBinding _ binding)

theorem closeRunner (kept : w.Kept []) (id : Name) : (w.closeRunner id).2.Kept [] := by
  unfold Workspace.closeRunner
  cases found : w.runners.lookup id with
  | none => exact kept
  | some runner => exact (kept.takeRunner found).endRunner

/-! ## Steps -/

theorem evaluateBatch (kept : w.Kept []) (id : Name) (dimension : Nat) (rows : List Point) :
    (Workspace.evaluateBatch id dimension rows w).2.Kept [] := by
  unfold Workspace.evaluateBatch
  cases Sample.ofRows dimension rows with
  | ok batch => exact kept.evaluateOn id (.batch batch)
  | error index =>
    dsimp only
    split
    · exact kept
    · exact kept

theorem close (kept : w.Kept []) (id : Name) : (Workspace.close id w).2.Kept [] := by
  have closed := kept.closeRunner id
  unfold Workspace.close
  generalize w.closeRunner id = result at closed ⊢
  obtain ⟨none | ended, later⟩ := result
  · exact closed
  · exact closed

theorem drop (kept : w.Kept []) (id : Name) : (Workspace.drop id w).2.Kept [] := by
  have closed := kept.closeRunner id
  unfold Workspace.drop
  generalize w.closeRunner id = result at closed ⊢
  obtain ⟨none | ended, later⟩ := result
  · exact closed
  · exact closed

/-- **Step**: a step that leaves states to the runners keeps the workspace. -/
theorem act (kept : w.Kept []) {step : Step} (managed : step.Managed) :
    (Workspace.act step w).2.Kept [] := by
  cases step with
  | createState | onState => exact managed.elim
  | load id name => exact kept.quiet (w.quiet_load id name)
  | resolvePath name => exact kept.quiet ⟨rfl, .refl w.trace⟩
  | resolveSymbol id name other => exact kept.quiet (w.quiet_resolveSymbol id name other)
  | unload path => exact kept.quiet ⟨rfl, w.registry.quiet_unload w.trace path⟩
  | teardown => exact kept.quiet ⟨rfl, w.registry.quiet_teardown w.trace⟩
  | dropHandle id => exact kept.quiet (w.quiet_dropHandle id)
  | bind id module function => exact kept.quiet (w.quiet_bind id module function)
  | bindLocal id function script => exact kept.quiet (w.quiet_bindLocal id function script)
  | binding id => exact kept.quiet (w.quiet_describeBinding id)
  | dropBinding id => exact kept.quiet (w.quiet_dropBinding id)
  | session id binding => exact kept.openRunner kept.openSession id binding
  | evaluator id binding cache changes =>
    exact kept.openRunner (kept.openEvaluator cache changes) id binding
  | pool id binding cache workers changes =>
    exact kept.openRunner (kept.openPool cache workers changes) id binding
  | fromSession id session cache => exact kept.fromSession id session cache
  | evaluate id point => exact kept.evaluateOn id (.point point)
  | evaluateBatch id dimension rows => exact kept.evaluateBatch id dimension rows
  | inspect id => exact kept.quiet (w.quiet_inspect id)
  | close id => exact kept.close id
  | drop id => exact kept.drop id
  | cache name call => exact kept.quiet (w.quiet_onCache name call)
  | locate | locateCalls | isLoaded | loaded | registryRecord => exact kept

/-- **Run**: so do steps in order. -/
theorem run (kept : w.Kept []) {steps : List Step} (managed : ∀ step ∈ steps, step.Managed) :
    (w.run steps).2.Kept [] := by
  induction steps generalizing w with
  | nil => exact kept
  | cons step steps ih =>
    obtain ⟨first, others⟩ := List.forall_mem_cons.1 managed
    exact ih (kept.act first) others

/-! ## Ending -/

theorem endAll (kept : w.Kept []) {named : List (Name × Runner)} (all : named ~ w.runners) :
    (w.endAll named).Kept [] ∧ (w.endAll named).runners = [] := by
  induction named generalizing w with
  | nil => exact ⟨kept, all.symm.eq_nil⟩
  | cons entry named ih =>
    obtain ⟨id, runner⟩ := entry
    have found := lookup_of_mem kept.names (all.subset List.mem_cons_self)
    have ended := (kept.takeRunner found).endRunner
    have others : named ~ without w.runners id :=
      (all.trans (perm_without kept.names found)).cons_inv
    refine ih ended ?_
    rw [show ((w.takeRunner id).endRunner runner).2.runners = without w.runners id from
      (quiet_releaseBinding _ runner.binding).runners]
    exact others

/-- Dropping everything ends all runners. -/
theorem finish (kept : w.Kept []) : w.finish.2.Kept [] ∧ w.finish.2.runners = [] := by
  have all : inOrder w.runners ~ w.runners := List.mergeSort_perm w.runners _
  obtain ⟨ended, none⟩ := kept.endAll all
  exact ⟨ended.quiet w.quiet_finish, w.quiet_finish.runners.trans none⟩

end Workspace.Kept

end ForeignEval

import ForeignEval.Proofs.Pool.Growth
import ForeignEval.Proofs.Pool.Sound
import ForeignEval.Proofs.Workspace.Custody

/-!
# Where calls go

What a binding can call on a state is known in advance (`Binding.Admits`): calls into the library of
its function, on a state of its own. Whatever holds of all these events holds of everything that is
done with the state, with a session on it, and with a runner of such sessions. A runner is **seated**
when all of its sessions are on its binding, so it calls into that library and no other.

* **Bindings** — one lemma for each operation: `Binding.grows_info` … `Binding.grows_deleteState`.
* **Sessions** — `Session.calls_new` and `Session.grows_shutDown`; evaluations stay on the binding.
* **Pools** — `Pool.staff_evaluate` and `Pool.staff_evaluateBatch`: workers keep what sessions keep.
* **Runners** — `Runner.grows_request`, `Runner.grows_shutDown` and, from these, `Runner.Seated`.
* **States** — `callState_owned`, `callState_idle` and `callState_foreign`: what comes of a call.
-/

namespace ForeignEval

open Foreign (Call Ending Event Table Trace)
open Workspace (Name Request StateCall)

variable {P : Event → Prop}

/-- A trace has grown by calls into the library of a binding. -/
abbrev Binding.Calls (binding : Binding) (before after : Trace) : Prop :=
  before.Grows (Event.IsIn binding.table.library) after

/-! ## Bindings -/

namespace Binding

variable (binding : Binding) (state : State) (trace : Trace)

/-- All calls of a binding on a state are events of a kind; there are none if it is the state of
another one. -/
def Admits (P : Event → Prop) (binding : Binding) (state : State) : Prop :=
  binding.owns state = true → ∀ call ending, call.state = state.number →
    P (.called binding.table.source binding.table.library call ending)

/-- All calls of a binding are into its library. -/
theorem admits_isIn : binding.Admits (Event.IsIn binding.table.library) state :=
  fun _ _ _ _ => ⟨_, _, _, rfl⟩

variable {binding state}

theorem Admits.record (admits : binding.Admits P state) (own : binding.owns state = true)
    {call : Call} (same : call.state = state.number) (ending : Ending) :
    trace.Grows P (binding.table.record trace call ending) :=
  .one (admits own call ending same) trace

theorem calls_createState (binding : Binding) :
    binding.Calls trace (binding.createState trace).2 := by
  have recorded : binding.Calls trace (binding.table.record trace
      (.create (trace.created binding.table.source))
      (Foreign.endingOf (binding.table.onCreate trace))) := .one ⟨_, _, _, rfl⟩ trace
  unfold createState
  split <;> (rename_i same; rwa [← congrArg Prod.snd same])

theorem grows_info (admits : binding.Admits P state) :
    trace.Grows P (binding.info state trace).2 := by
  unfold info
  split
  · rename_i own
    split <;> (rename_i same; rw [← congrArg Prod.snd same]; exact admits.record trace own rfl _)
  · exact .refl _ trace

theorem grows_init (admits : binding.Admits P state) :
    trace.Grows P (binding.init state trace).2 := by
  unfold init
  split
  · rename_i own
    split <;> (rename_i same; rw [← congrArg Prod.snd same]; exact admits.record trace own rfl _)
  · exact .refl _ trace

theorem grows_execute (admits : binding.Admits P state) (point : Point) (outputs : Nat) :
    trace.Grows P (binding.execute state point outputs trace).2 := by
  unfold execute
  split
  · rename_i own
    split <;> (rename_i same; rw [← congrArg Prod.snd same]; exact admits.record trace own rfl _)
  · exact .refl _ trace

theorem grows_executeBatch (admits : binding.Admits P state) (batch : Sample) (outputs : Nat) :
    trace.Grows P (binding.executeBatch state batch outputs trace).2 := by
  unfold executeBatch
  split
  · rename_i own
    dsimp only
    split <;> (rename_i same; rw [← congrArg Prod.snd same]; exact admits.record trace own rfl _)
  · exact .refl _ trace

theorem grows_finalize (admits : binding.Admits P state) :
    trace.Grows P (binding.finalize state trace).2 := by
  unfold finalize
  split
  · rename_i own
    split <;> (rename_i same; rw [← congrArg Prod.snd same]; exact admits.record trace own rfl _)
  · exact .refl _ trace

theorem grows_deleteState (admits : binding.Admits P state) :
    trace.Grows P (binding.deleteState state trace).2 := by
  unfold deleteState
  split
  · rename_i own
    exact admits.record trace own rfl _
  · exact .refl _ trace

end Binding

/-! ## Sessions -/

namespace Session

theorem grows_shutDown {binding : Binding} {state : State} (admits : binding.Admits P state)
    (trace : Trace) : trace.Grows P (shutDown binding state trace).2 :=
  (Binding.grows_finalize trace admits).trans (Binding.grows_deleteState _ admits)

/-- A new session is on its binding. -/
theorem calls_new (binding : Binding) (trace : Trace) :
    (∀ session, (new binding trace).1 = .ok session → session.binding = binding) ∧
      binding.Calls trace (new binding trace).2 := by
  have created := Binding.calls_createState trace binding
  unfold new
  rcases made : binding.createState trace with ⟨e | state, after⟩
  · rw [made] at created
    exact ⟨fun _ ok => (nomatch ok), created⟩
  · rw [made] at created
    have asked := Binding.grows_info after (binding.admits_isIn state)
    dsimp only
    rcases told : binding.info state after with ⟨e | info, later⟩
    · rw [told] at asked
      exact ⟨fun _ ok => (nomatch ok),
        (created.trans asked).trans (grows_shutDown (binding.admits_isIn state) later)⟩
    · rw [told] at asked
      refine ⟨fun session ok => ?_, created.trans asked⟩
      cases ok
      rfl

/-- All calls on the state of a session are events of a kind. -/
def Admits (P : Event → Prop) (session : Session) : Prop :=
  ∀ call ending, call.state = session.state.number →
    P (.called session.binding.table.source session.binding.table.library call ending)

namespace Admits

variable {session : Session}

theorem allows (admits : session.Admits P) {call : Call}
    (own : call.state = session.state.number) : session.Allows P call := by
  intro made mem ending
  rcases List.mem_pair.1 mem with rfl | rfl
  · exact admits _ ending rfl
  · exact admits _ ending own

theorem isIn {binding : Binding} (on : session.binding = binding) :
    session.Admits (Event.IsIn binding.table.library) := by
  rintro call ending -
  rw [on]
  exact ⟨_, _, _, rfl⟩

theorem close (admits : session.Admits P) (trace : Trace) :
    trace.Grows P (session.close trace).2 :=
  grows_shutDown (fun _ => admits) trace

end Admits

end Session

/-! ## Pools -/

namespace Pool

variable {binding : Binding}

/-- All workers of a pool are on a binding. -/
def SeatedOn (binding : Binding) (pool : Pool) : Prop :=
  ∀ worker ∈ pool.workers, worker.session.binding = binding

theorem grows_closeSessions {sessions : List Session}
    (admits : ∀ session ∈ sessions, session.Admits P) (trace : Trace) :
    trace.Grows P (closeSessions sessions trace).2 := by
  induction sessions generalizing trace with
  | nil => exact .refl _ trace
  | cons session sessions ih =>
    obtain ⟨first, others⟩ := List.forall_mem_cons.1 admits
    exact (first.close trace).trans (ih others _)

theorem calls_openSessions (binding : Binding) (count : Nat) (trace : Trace) :
    (∀ session ∈ (openSessions binding count trace).1, session.binding = binding) ∧
      binding.Calls trace (openSessions binding count trace).2.2 := by
  induction count generalizing trace with
  | zero => exact ⟨fun _ mem => absurd mem List.not_mem_nil, .refl _ trace⟩
  | succ count ih =>
    obtain ⟨seated, made⟩ := Session.calls_new binding trace
    unfold openSessions
    rcases opened : Session.new binding trace with ⟨e | session, after⟩
    · rw [opened] at made
      exact ⟨fun _ mem => absurd mem List.not_mem_nil, made⟩
    · rw [opened] at made seated
      obtain ⟨others, rest⟩ := ih after
      exact ⟨List.forall_mem_cons.2 ⟨seated session rfl, others⟩, made.trans rest⟩

/-- The workers of a new pool are on its binding. -/
theorem calls_new (binding : Binding) (workers : Nat) (cache : Cache) (schedule : Schedule)
    (trace : Trace) :
    (∀ pool, (new binding workers cache schedule trace).1 = .ok pool → pool.SeatedOn binding) ∧
      binding.Calls trace (new binding workers cache schedule trace).2 := by
  obtain ⟨seated, opened⟩ := calls_openSessions binding (max workers 1) trace
  unfold new
  rcases made : openSessions binding (max workers 1) trace with ⟨sessions, _ | e, after⟩
  · rw [made] at opened seated
    refine ⟨fun pool ok worker mem => ?_, opened⟩
    cases ok
    obtain ⟨session, there, rfl⟩ := List.mem_map.1 mem
    exact seated session there
  · rw [made] at opened seated
    exact ⟨fun _ ok => (nomatch ok), opened.trans
      (grows_closeSessions (fun session mem => .isIn (seated session mem)) after)⟩

/-! What is a matter of owners goes on to hold of all workers. -/

section Staff

variable {Q : Session → Prop} {pool : Pool}
  (owners : ∀ {session later : Session}, session.SameOwner later → Q session → Q later)

include owners

theorem staff_evaluate (staff : ∀ worker ∈ pool.workers, Q worker.session) (point : Point)
    (trace : Trace) : ∀ worker ∈ (pool.evaluate point trace).2.1.workers, Q worker.session := by
  rcases pool.evaluate_cases with ⟨-, same⟩ | ⟨before, worker, others, whole, -, -, same⟩
  · rw [same]
    exact staff
  · rw [whole] at staff
    obtain ⟨first, rest⟩ := List.forall_mem_append.1 staff
    obtain ⟨here, rest⟩ := List.forall_mem_cons.1 rest
    rw [same]
    refine List.forall_mem_append.2 ⟨first, List.forall_mem_cons.2 ⟨?_, rest⟩⟩
    rw [session_after]
    exact owners ((Evaluator.mk worker.session pool.cache).sameOwner_serve trace (.point point))
      here

/-- Evaluating a chunk leaves its worker with its state. -/
theorem settles_staff (function : String) {jobs : List Job}
    (staff : ∀ job ∈ jobs, Q job.worker.session) :
    Settles function (fun _ outcome => Q outcome.worker.session) jobs where
  evaluated job mem trace := by
    have here := staff job mem
    unfold Job.evaluate
    split
    · exact here
    · rw [session_after]
      exact owners (job.worker.session.sameOwner_evaluateBatch trace job.chunk) here
  givenUp _ _ _ _ _ other mem := staff other mem

theorem staff_evaluateBatch (staff : ∀ worker ∈ pool.workers, Q worker.session) (batch : Sample)
    (trace : Trace) :
    ∀ worker ∈ (pool.evaluateBatch batch trace).2.1.workers, Q worker.session := by
  by_cases declared : batch.dimension = pool.info.inputDimension
  · have evaluated : ∀ worker ∈ (pool.evaluateUnknown batch trace).2.1.workers,
        Q worker.session := by
      refine forall_workers_evaluateChunks staff fun outcome mem => ?_
      have settles : Settles pool.function (fun _ outcome => Q outcome.worker.session)
          (jobsOf pool.workers (pool.chunksFor (Plan.make batch pool.cache).1.unknown)) :=
        settles_staff owners pool.function fun job there =>
          staff job.worker (mem_of_mem_jobsOf there).1
      obtain ⟨job, -, on⟩ := exists_job (forall₂_evaluateJobs settles pool.schedule trace) mem
      exact on
    rw [evaluateBatch_eq declared]
    generalize collect _ _ _ = collected
    cases collected with
    | ok | error | panic => exact evaluated
  · rw [evaluateBatch_of_wrong declared]
    exact staff

end Staff

theorem SeatedOn.evaluate {pool : Pool} (seated : pool.SeatedOn binding) (point : Point)
    (trace : Trace) : (pool.evaluate point trace).2.1.SeatedOn binding :=
  staff_evaluate (fun same on => same.binding.trans on) seated point trace

theorem SeatedOn.evaluateBatch {pool : Pool} (seated : pool.SeatedOn binding) (batch : Sample)
    (trace : Trace) : (pool.evaluateBatch batch trace).2.1.SeatedOn binding :=
  staff_evaluateBatch (fun same on => same.binding.trans on) seated batch trace

end Pool

/-! ## Runners -/

namespace Runner

/-- All sessions of a runner are on its binding. -/
def Seated (runner : Runner) : Prop :=
  ∀ session ∈ runner.sessions, session.binding = runner.binding

variable {runner : Runner}

theorem grows_shutDown (admits : ∀ session ∈ runner.sessions, session.Admits P) (trace : Trace) :
    trace.Grows P (Workspace.shutDown runner trace).2 := by
  obtain ⟨binding, kind⟩ := runner
  cases kind with
  | session session | evaluator session =>
    exact (admits session (List.mem_singleton.2 rfl)).close trace
  | pool pool => exact Pool.grows_closeSessions admits trace

/-- A runner evaluates with the states of its sessions. -/
theorem grows_request (admits : ∀ session ∈ runner.sessions, session.Admits P) (w : Workspace)
    (what : Request) : w.trace.Grows P (w.request runner what).2.2.trace := by
  obtain ⟨binding, kind⟩ := runner
  cases kind with
  | session session =>
    have admits := admits session (List.mem_singleton.2 rfl)
    cases what with
    | point point => exact session.grows_evaluate w.trace (admits.allows rfl)
    | batch batch => exact session.grows_evaluateBatch w.trace fun _ => admits.allows rfl
  | evaluator session number =>
    have admits := admits session (List.mem_singleton.2 rfl)
    let evaluator : Evaluator := ⟨session, w.cacheAt number⟩
    cases what with
    | point point => exact evaluator.grows_evaluate w.trace fun _ => admits.allows rfl
    | batch batch => exact evaluator.grows_evaluateBatch w.trace fun _ => admits.allows rfl
  | pool pool number =>
    have admits (worker : Worker) (mem : worker ∈ pool.workers) : worker.session.Admits P :=
      admits worker.session (List.mem_map_of_mem mem)
    cases what with
    | point point =>
      exact Pool.grows_evaluate w.trace fun _ worker mem => (admits worker mem).allows rfl
    | batch batch =>
      exact Pool.grows_evaluateBatch w.trace fun worker mem _ _ _ =>
        (admits worker mem).allows rfl

/-- Whatever a runner evaluates, its sessions keep their states. -/
theorem staff_request {Q : Session → Prop}
    (owners : ∀ {session later : Session}, session.SameOwner later → Q session → Q later)
    (staff : ∀ session ∈ runner.sessions, Q session) (w : Workspace) (what : Request) :
    ∀ session ∈ (w.request runner what).2.1.sessions, Q session := by
  obtain ⟨binding, kind⟩ := runner
  cases kind with
  | session session =>
    have here := staff session (List.mem_singleton.2 rfl)
    refine List.forall_mem_singleton.2 ?_
    cases what with
    | point point => exact owners (session.sameOwner_evaluate w.trace point) here
    | batch batch => exact owners (session.sameOwner_evaluateBatch w.trace batch) here
  | evaluator session number =>
    have here := staff session (List.mem_singleton.2 rfl)
    have owner := owners ((Evaluator.mk session (w.cacheAt number)).sameOwner_serve w.trace what)
      here
    cases what with
    | point | batch => exact List.forall_mem_singleton.2 owner
  | pool pool number =>
    let cached : Pool := { pool with cache := w.cacheAt number }
    have staff : ∀ worker ∈ cached.workers, Q worker.session :=
      fun worker mem => staff worker.session (List.mem_map_of_mem mem)
    cases what with
    | point point =>
      exact List.forall_mem_map.2 (Pool.staff_evaluate owners staff point w.trace)
    | batch batch =>
      exact List.forall_mem_map.2 (Pool.staff_evaluateBatch owners staff batch w.trace)

namespace Seated

variable (seated : runner.Seated)

include seated

theorem admits (session : Session) (mem : session ∈ runner.sessions) :
    session.Admits (Event.IsIn runner.binding.table.library) :=
  .isIn (seated session mem)

/-- Shutting a runner down calls into its library. -/
theorem shutDown (trace : Trace) :
    runner.binding.Calls trace (Workspace.shutDown runner trace).2 :=
  grows_shutDown seated.admits trace

/-- Whatever a runner evaluates, it calls into its library and stays on its binding. -/
theorem request (w : Workspace) (what : Request) :
    (w.request runner what).2.1.binding = runner.binding ∧
      (w.request runner what).2.1.Seated ∧
      runner.binding.Calls w.trace (w.request runner what).2.2.trace := by
  have same : (w.request runner what).2.1.binding = runner.binding := by
    obtain ⟨binding, kind⟩ := runner
    cases kind with
    | session | evaluator | pool => rfl
  refine ⟨same, ?_, grows_request seated.admits w what⟩
  unfold Seated
  rw [same]
  exact staff_request (fun owner on => owner.binding.trans on) seated w what

end Seated

end Runner

/-! ## States -/

namespace Workspace

/-- The foreign call for a call on a state of this number, if one is made. -/
def StateCall.call? (number : Nat) : StateCall → Option Call
  | .info | .inputDimension | .outputDimension | .description => some (.info number)
  | .init => some (.init number)
  | .finalize => some (.finalize number)
  | .execute point outputs => some (.exec number point outputs)
  | .executeBatch dimension rows outputs =>
    match Sample.ofRows dimension rows with
    | .ok batch =>
      some (.execBatch number batch.size batch.dimension batch.flat outputs (batch.size * outputs))
    | .error _ => none
  | .delete => some (.delete number)
  | .drop => none

/-- What is left of named things after a call on the state of that name: it may use the state
up. -/
def StateCall.left {α : Type} (id : Name) (named : List (Name × α)) : StateCall → List (Name × α)
  | .delete | .drop => without named id
  | _ => named

theorem StateCall.left_sublist {α : Type} (call : StateCall) (id : Name)
    (named : List (Name × α)) : (call.left id named).Sublist named := by
  cases call with
  | delete | drop => exact List.filter_sublist
  | _ => exact List.Sublist.refl named

/-- Of the calls that are made only freeing a state uses it up. -/
theorem StateCall.left_eq {α : Type} {call : StateCall} {number : Nat} {made : Call}
    (asked : call.call? number = some made) (kept : call ≠ .delete) (id : Name)
    (named : List (Name × α)) : call.left id named = named := by
  cases call with
  | delete => exact absurd rfl kept
  | drop => cases asked
  | _ => rfl

theorem StateCall.state_of_call? {call : StateCall} {number : Nat} {made : Call}
    (asked : call.call? number = some made) : made.state = number := by
  cases call with
  | executeBatch dimension rows outputs =>
    unfold call? at asked
    dsimp only at asked
    generalize Sample.ofRows dimension rows = checked at asked
    cases checked with
    | error index => cases asked
    | ok batch =>
      cases asked
      rfl
  | drop => cases asked
  | _ =>
    cases asked
    rfl

/-- Only freeing a state frees it. -/
theorem StateCall.ne_delete_of_call? {call : StateCall} {number : Nat} {made : Call}
    (asked : call.call? number = some made) (kept : call ≠ .delete) : made ≠ .delete number := by
  rintro rfl
  cases call with
  | executeBatch dimension rows outputs =>
    unfold call? at asked
    dsimp only at asked
    generalize Sample.ofRows dimension rows = checked at asked
    cases checked with
    | error | ok => cases asked
  | delete => exact kept rfl
  | _ => cases asked

section CallState

variable {binding : Binding} {state : State}

/-- A call on a state changes the trace, and perhaps which states have names. -/
theorem grows_callState (admits : binding.Admits P state) (id : Name) (call : StateCall)
    (w : Workspace) :
    ∃ trace, (callState id binding state call w).2 =
        { w with trace, states := call.left id w.states } ∧ w.trace.Grows P trace := by
  cases call with
  | info | inputDimension | outputDimension | description =>
    exact ⟨_, rfl, Binding.grows_info w.trace admits⟩
  | init => exact ⟨_, rfl, Binding.grows_init w.trace admits⟩
  | finalize => exact ⟨_, rfl, Binding.grows_finalize w.trace admits⟩
  | execute point outputs => exact ⟨_, rfl, Binding.grows_execute w.trace admits point outputs⟩
  | executeBatch dimension rows outputs =>
    unfold callState
    dsimp only
    cases Sample.ofRows dimension rows with
    | error index => exact ⟨w.trace, rfl, .refl _ w.trace⟩
    | ok batch => exact ⟨_, rfl, Binding.grows_executeBatch w.trace admits batch outputs⟩
  | delete => exact ⟨_, rfl, Binding.grows_deleteState w.trace admits⟩
  | drop => exact ⟨w.trace, rfl, .refl _ w.trace⟩

/-- A binding makes the call that it is asked for on a state of its own, and no other. -/
theorem callState_owned (own : binding.owns state = true) {call : StateCall} {made : Call}
    (asked : call.call? state.number = some made) (id : Name) (w : Workspace) :
    ∃ ending, (callState id binding state call w).2.trace =
      w.trace ++ binding.table.events [(made, ending)] := by
  cases call with
  | info | inputDimension | outputDimension | description =>
    cases asked
    simp only [callState, askInfo, Binding.info, if_pos own, Table.info]
    cases binding.table.onInfo w.trace state.number with
    | ok | error => exact ⟨_, rfl⟩
  | init =>
    cases asked
    simp only [callState, Binding.init, if_pos own, Table.init]
    cases binding.table.onInit w.trace state.number with
    | value | failed | panicked => exact ⟨_, rfl⟩
  | finalize =>
    cases asked
    simp only [callState, Binding.finalize, if_pos own, Table.finalize]
    cases binding.table.onFinalize w.trace state.number with
    | ok | error => exact ⟨_, rfl⟩
  | execute point outputs =>
    cases asked
    simp only [callState, Binding.execute, if_pos own, Table.exec]
    cases binding.table.onExec w.trace state.number point outputs with
    | value | failed | panicked => exact ⟨_, rfl⟩
  | executeBatch dimension rows outputs =>
    unfold StateCall.call? at asked
    unfold callState
    dsimp only at asked ⊢
    generalize Sample.ofRows dimension rows = checked at asked ⊢
    cases checked with
    | error index => cases asked
    | ok batch =>
      cases asked
      simp only [Binding.executeBatch, if_pos own, Table.execBatch]
      cases binding.table.onExecBatch w.trace state.number batch.size batch.dimension batch.flat
        outputs (batch.size * outputs) with
      | value | failed | panicked => exact ⟨_, rfl⟩
  | delete =>
    cases asked
    simp only [callState, Binding.deleteState, if_pos own, Table.delete]
    exact ⟨_, rfl⟩
  | drop => cases asked

/-- Otherwise nothing is called. -/
theorem callState_idle {call : StateCall} (idle : call.call? state.number = none) (id : Name)
    (w : Workspace) : (callState id binding state call w).2.trace = w.trace := by
  cases call with
  | executeBatch dimension rows outputs =>
    unfold StateCall.call? at idle
    unfold callState
    dsimp only at idle ⊢
    generalize Sample.ofRows dimension rows = checked at idle ⊢
    cases checked with
    | error index => rfl
    | ok batch => cases idle
  | drop => rfl
  | _ => cases idle

/-- A binding refuses a state of another one without a call. -/
theorem callState_foreign (foreign : ¬binding.owns state = true) {call : StateCall} {made : Call}
    (asked : call.call? state.number = some made) (id : Name) (w : Workspace) :
    callState id binding state call w =
      (.reply (.error binding.foreignState), { w with states := call.left id w.states }) := by
  cases call with
  | info | inputDimension | outputDimension | description =>
    simp only [callState, askInfo, Binding.info, if_neg foreign]
    rfl
  | init =>
    simp only [callState, Binding.init, if_neg foreign]
    rfl
  | finalize =>
    simp only [callState, Binding.finalize, if_neg foreign]
    rfl
  | execute point outputs =>
    simp only [callState, Binding.execute, if_neg foreign]
    rfl
  | executeBatch dimension rows outputs =>
    unfold StateCall.call? at asked
    unfold callState
    dsimp only at asked ⊢
    generalize Sample.ofRows dimension rows = checked at asked ⊢
    cases checked with
    | error index => cases asked
    | ok batch =>
      simp only [Binding.executeBatch, if_neg foreign]
      rfl
  | delete =>
    simp only [callState, Binding.deleteState, if_neg foreign]
    rfl
  | drop => cases asked

end CallState

end Workspace

end ForeignEval

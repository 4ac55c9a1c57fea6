import ForeignEval.Proofs.Batch.Memo
import ForeignEval.Proofs.Pool.Sound
import ForeignEval.Proofs.Session.Custody
import Mathlib.Data.List.Perm.Basic

/-!
# Custody in evaluators and pools

Evaluators and pools have nothing to do with states but through their sessions. Whatever they do, be
it opening some workers and failing at the next, evaluating some chunks and giving up others, or
closing workers of which some cannot be closed: each state stays in the custody of its session, or
nothing is left of it.

* **Evaluators** — `Evaluator.serve_cases`: the session serves one request or none;
  `Custody.evaluator_serve`.
* **Opening** — `Custody.newPool`: the workers opened before one that fails are closed again.
* **Evaluation** — `Custody.evaluateJobs`, `Custody.evaluatePool`, `Custody.evaluatePoolBatch`.
* **Closing** — `Custody.closeSessions`.
-/

namespace ForeignEval

open Foreign (Failure Trace)
open Workspace (Request Value)

/-! ## Evaluators -/

namespace Evaluator

variable (evaluator : Evaluator) (trace : Trace) (request : Request)

/-- The session of an evaluator serves one request or none, and the evaluator unwinds if that
does. -/
theorem serve_cases :
    ((server.serve (evaluator, trace) request).2.1.session = evaluator.session ∧
      (server.serve (evaluator, trace) request).2.2 = trace ∧
      (server.serve (evaluator, trace) request).1.panic? = none) ∨
    ∃ asked, (server.serve (evaluator, trace) request).2.1.session =
        (evaluator.session.serve asked trace).2.1 ∧
      (server.serve (evaluator, trace) request).2.2 = (evaluator.session.serve asked trace).2.2 ∧
      (server.serve (evaluator, trace) request).1.panic? =
        (evaluator.session.serve asked trace).1.panic? := by
  cases request with
  | point point =>
    simp only [server, Reply.panic?_map]
    unfold evaluate Cache.lookup
    cases evaluator.session.checkPoint point with
    | some e => exact .inl ⟨rfl, rfl, rfl⟩
    | none =>
      dsimp only
      cases evaluator.cache.peek point with
      | some value => exact .inl ⟨rfl, rfl, rfl⟩
      | none =>
        refine .inr ⟨.point point, ?_⟩
        simp only [Session.serve, Reply.panic?_map]
        rcases evaluator.session.evaluate point trace with ⟨_ | _ | text, later, after⟩
        · exact ⟨rfl, rfl, rfl⟩
        · exact ⟨rfl, rfl, rfl⟩
        · exact ⟨rfl, rfl, rfl⟩
  | batch batch =>
    simp only [server, Reply.panic?_map]
    unfold evaluateBatch
    cases evaluator.session.checkBatch batch with
    | some e => exact .inl ⟨rfl, rfl, rfl⟩
    | none =>
      refine .inr ⟨.batch (Plan.make batch evaluator.cache).1.unknown, ?_⟩
      simp only [Session.serve, Reply.panic?_map]
      rcases evaluator.session.evaluateBatch (Plan.make batch evaluator.cache).1.unknown trace with
        ⟨_ | _ | text, later, after⟩
      · exact ⟨rfl, rfl, Reply.panic?_ofExcept _⟩
      · exact ⟨rfl, rfl, rfl⟩
      · exact ⟨rfl, rfl, rfl⟩

theorem sameOwner_serve :
    evaluator.session.SameOwner (server.serve (evaluator, trace) request).2.1.session := by
  obtain ⟨same, -⟩ | ⟨asked, same, -⟩ := evaluator.serve_cases trace request
  · rw [same]
    exact .refl _
  · rw [same]
    exact Session.sameOwner_serve asked trace

end Evaluator

namespace Custody

variable {sessions rest : List Session} {session : Session} {trace : Trace}

theorem evaluator_serve {evaluator : Evaluator}
    (custody : Custody none (evaluator.session :: sessions) trace) (request : Request) :
    Custody none ((Evaluator.server.serve (evaluator, trace) request).2.1.session :: sessions)
      (Evaluator.server.serve (evaluator, trace) request).2.2 := by
  obtain ⟨same, still, -⟩ | ⟨asked, same, grown, -⟩ := evaluator.serve_cases trace request
  · rw [same, still]
    exact custody
  · rw [same, grown]
    exact custody.serve asked

/-! ## Opening and closing -/

theorem openSessions (custody : Custody none sessions trace) (binding : Binding) (count : Nat) :
    Custody none ((Pool.openSessions binding count trace).1 ++ sessions)
      (Pool.openSessions binding count trace).2.2 := by
  induction count generalizing sessions trace with
  | zero => exact custody
  | succ count ih =>
    have opened := custody.new binding
    unfold Pool.openSessions
    rcases made : Session.new binding trace with ⟨_ | session, after⟩
    · rw [made] at opened
      exact opened
    · rw [made] at opened
      exact (ih opened).perm List.perm_middle

theorem closeSessions (custody : Custody none (sessions ++ rest) trace) :
    Custody none rest (Pool.closeSessions sessions trace).2 := by
  induction sessions generalizing trace with
  | nil => exact custody
  | cons session sessions ih => exact ih custody.close

theorem newPool (custody : Custody none sessions trace) (binding : Binding) (workers : Nat)
    (cache : Cache) (schedule : Schedule) :
    Custody none (((Pool.new binding workers cache schedule trace).1.toOption.toList.flatMap
        fun pool => pool.workers.map (·.session)) ++ sessions)
      (Pool.new binding workers cache schedule trace).2 := by
  have opened := custody.openSessions binding (max workers 1)
  unfold Pool.new
  rcases made : Pool.openSessions binding (max workers 1) trace with ⟨owners, _ | e, after⟩
  · rw [made] at opened
    simpa [Except.toOption, Function.comp_def] using opened
  · rw [made] at opened
    exact opened.closeSessions

/-! ## Points -/

theorem evaluatePool {pool : Pool}
    (custody : Custody none (pool.workers.map (·.session) ++ sessions) trace) (point : Point) :
    Custody none ((pool.evaluate point trace).2.1.workers.map (·.session) ++ sessions)
      (pool.evaluate point trace).2.2 := by
  rcases pool.evaluate_cases with ⟨-, same⟩ | ⟨before, worker, others, staff, -, -, same⟩
  · rw [same]
    exact custody
  · -- the worker that evaluates comes first, and afterwards back to its place
    have front (middle : Worker) : ((before ++ middle :: others).map (·.session) ++ sessions).Perm
        (middle.session :: ((before ++ others).map (·.session) ++ sessions)) := by
      have moved : (before ++ middle :: others).Perm (middle :: (before ++ others)) :=
        List.perm_middle
      exact (moved.map (·.session)).append_right sessions
    rw [staff] at custody
    have evaluator : Custody none ((⟨worker.session, pool.cache⟩ : Evaluator).session ::
        ((before ++ others).map (·.session) ++ sessions)) trace :=
      custody.perm (front worker)
    have evaluated := evaluator.evaluator_serve (.point point)
    rw [same]
    refine Custody.perm ?_ (front _).symm
    rw [Pool.session_after]
    exact evaluated

/-! ## Chunks -/

/-- The sessions of the workers of some jobs. -/
def owners (jobs : List Pool.Job) : List Session := jobs.map (·.worker.session)

/-- The sessions of the workers after their jobs. -/
def ownersAfter (outcomes : List Pool.Outcome) : List Session := outcomes.map (·.worker.session)

/-- The sessions of the workers in between. -/
def ownersIn (slots : List Pool.Slot) : List Session := slots.map (·.worker.session)

theorem ownersIn_waiting (jobs : List Pool.Job) : ownersIn (jobs.map .waiting) = owners jobs :=
  List.map_map

theorem ownersAfter_outcome (text : String) (slots : List Pool.Slot) :
    ownersAfter (slots.map (Pool.Slot.outcome text)) = ownersIn slots := by
  have same := congrArg (List.map Worker.session) (Pool.workers_outcome text slots)
  simp only [List.map_map] at same
  unfold ownersAfter
  rw [List.map_map]
  exact same

/-- The session of one worker is put before those of the others. -/
theorem perm_ownersIn (before after : List Pool.Slot) (slot : Pool.Slot) :
    (ownersIn (before ++ slot :: after) ++ rest).Perm
      (slot.worker.session :: (ownersIn (before ++ after) ++ rest)) := by
  have moved : (before ++ slot :: after).Perm (slot :: (before ++ after)) := List.perm_middle
  exact (moved.map _).append_right rest

theorem evaluateJob {job : Pool.Job}
    (custody : Custody none (job.worker.session :: sessions) trace) (function : String) :
    Custody none ((job.evaluate function trace).1.worker.session :: sessions)
      (job.evaluate function trace).2 := by
  unfold Pool.Job.evaluate
  split
  · exact custody
  · rw [Pool.session_after]
    exact custody.evaluateBatch job.chunk

/-- One turn: the worker whose turn it is comes first, and afterwards back among the others. -/
theorem turn {before after : List Pool.Slot} {job : Pool.Job}
    (custody : Custody none (ownersIn (before ++ .waiting job :: after) ++ rest) trace)
    (function : String) :
    Custody none (ownersIn (before ++ .done (job.evaluate function trace).1 :: after) ++ rest)
      (job.evaluate function trace).2 :=
  (evaluateJob (custody.perm (perm_ownersIn before after _)) function).perm
    (perm_ownersIn before after (.done _)).symm

theorem advances {function : String} {slots last : List Pool.Slot} {later : Trace}
    (advances : Pool.Advances function slots trace last later)
    (custody : Custody none (ownersIn slots ++ rest) trace) :
    Custody none (ownersIn last ++ rest) later := by
  induction advances with
  | refl => exact custody
  | turn _ ih => exact ih (custody.turn function)

theorem evaluateJobs {jobs : List Pool.Job} (custody : Custody none (owners jobs ++ rest) trace)
    (schedule : Schedule) (function : String) :
    Custody none (ownersAfter (Pool.evaluateJobs schedule function jobs trace).1 ++ rest)
      (Pool.evaluateJobs schedule function jobs trace).2 := by
  obtain ⟨slots, later, text, turns, -, same⟩ :=
    Pool.evaluateJobs_eq schedule function jobs trace
  rw [same, ownersAfter_outcome]
  rw [← ownersIn_waiting] at custody
  exact advances turns custody

theorem owners_jobsOf (workers : List Worker) (chunks : List Sample) :
    owners (Pool.jobsOf workers chunks) ++ (workers.drop chunks.length).map (·.session) =
      workers.map (·.session) := by
  have staff := congrArg (List.map Worker.session) (Pool.workers_jobsOf workers chunks)
  rw [List.map_append, List.map_map] at staff
  exact staff

theorem evaluateChunks (pool : Pool)
    (custody : Custody none (pool.workers.map (·.session) ++ sessions) trace)
    (chunks : List Sample) :
    Custody none ((pool.evaluateChunks chunks trace).2.1.workers.map (·.session) ++ sessions)
      (pool.evaluateChunks chunks trace).2.2 := by
  rw [← owners_jobsOf pool.workers chunks, List.append_assoc] at custody
  have evaluated := custody.evaluateJobs pool.schedule pool.function
  rw [← List.append_assoc] at evaluated
  rw [Pool.workers_evaluateChunks, List.map_append, List.map_map]
  exact evaluated

/-! ## Batches -/

theorem evaluatePoolBatch {pool : Pool}
    (custody : Custody none (pool.workers.map (·.session) ++ sessions) trace) (batch : Sample) :
    Custody none ((pool.evaluateBatch batch trace).2.1.workers.map (·.session) ++ sessions)
      (pool.evaluateBatch batch trace).2.2 := by
  by_cases declared : batch.dimension = pool.info.inputDimension
  · rw [Pool.evaluateBatch_eq declared]
    have evaluated : Custody none
        ((pool.evaluateUnknown batch trace).2.1.workers.map (·.session) ++ sessions)
        (pool.evaluateUnknown batch trace).2.2 :=
      custody.evaluateChunks { pool with cache := (Plan.make batch pool.cache).2 } _
    generalize Pool.collect _ _ _ = collected
    cases collected with
    | ok | error | panic => exact evaluated
  · rw [Pool.evaluateBatch_of_wrong declared]
    exact custody

end Custody

/-! ## Closing in order -/

namespace Pool

/-- The error that finalizing a session's state came to, if it came to one. -/
def closingError? (closed : Session × Except Failure Unit) : Option Error :=
  match closed.2 with
  | .ok _ => none
  | .error failure => some (closed.1.binding.callError .finalize failure)

/-- What is called when sessions are closed one after the other, finalizing ending as told. -/
def closingEvents (closed : List (Session × Except Failure Unit)) : Trace :=
  closed.flatMap fun (session, answer) =>
    session.binding.table.events (Session.ending session.state.number answer)

/-- All sessions are closed in order, and the first error counts. -/
theorem closeSessions_eq {sessions : List Session}
    (owned : ∀ session ∈ sessions, session.binding.owns session.state = true) (trace : Trace) :
    ∃ closed : List (Session × Except Failure Unit), closed.map (·.1) = sessions ∧
      closeSessions sessions trace =
        (match closed.findSome? closingError? with
          | none => .ok ()
          | some e => .error e,
        trace ++ closingEvents closed) := by
  induction sessions generalizing trace with
  | nil => exact ⟨[], rfl, by simp [closeSessions, closingEvents]⟩
  | cons session sessions ih =>
    obtain ⟨first, others⟩ := List.forall_mem_cons.1 owned
    obtain ⟨answer, closed⟩ := Session.shutDown_cases first trace
    obtain ⟨rest, same, after⟩ := ih others
      (trace ++ session.binding.table.events (Session.ending session.state.number answer))
    refine ⟨(session, answer) :: rest, by rw [List.map_cons, same], ?_⟩
    unfold closeSessions Session.close
    rw [closed]
    dsimp only
    rw [after]
    cases answer with
    | ok | error =>
      simp [List.findSome?_cons, Session.closingError, Except.bind, closingError?, closingEvents]

end Pool

end ForeignEval

import ForeignEval.Proofs.Foreign.Growth
import ForeignEval.Proofs.Pool.Jobs

/-!
# What evaluating adds to the trace

An evaluation calls foreign code for what it has to compute and for nothing else: a session for its
point or batch, an evaluator for what its cache does not have, and a pool for the chunks of that. If
all these calls are of a kind, so is all that is added to the trace.

* **Sessions** — `Session.Allows`; `Session.grows_evaluate` and `Session.grows_evaluateBatch`.
* **Evaluators** — `Evaluator.grows_evaluate` and `Evaluator.grows_evaluateBatch`.
* **Pools** — `Pool.grows_evaluateJobs`, whatever the schedule; `Pool.grows_evaluate` and
  `Pool.grows_evaluateBatch`.
-/

namespace ForeignEval

open Foreign (Call Event Table Trace)

variable {P : Event → Prop}

/-! ## Sessions -/

namespace Session

/-- Preparing the state and making this call, however they end, are events of a kind. -/
def Allows (P : Event → Prop) (session : Session) (call : Call) : Prop :=
  ∀ made ∈ [.init session.state.number, call], ∀ ending,
    P (.called session.binding.table.source session.binding.table.library made ending)

variable (session : Session) (trace : Trace)

/-- The call by which a session has a point evaluated. -/
def pointCall (point : Point) : Call :=
  .exec session.state.number point session.info.outputDimension

theorem extends_execute (point : Point) :
    session.binding.table.Extends [session.pointCall point] trace
      (session.binding.execute session.state point session.info.outputDimension trace).2 := by
  have recorded := Table.Extends.record session.binding.table trace (session.pointCall point)
    (session.binding.table.onExec trace session.state.number point
      session.info.outputDimension).ending
  unfold Binding.execute
  split
  · split <;> (rename_i same; rwa [← congrArg Prod.snd same])
  · exact .refl _ _ trace

/-- A point makes a session prepare and evaluate it, each at most once. -/
theorem extends_evaluate (point : Point) :
    session.binding.table.Extends [.init session.state.number, session.pointCall point] trace
      (session.evaluate point trace).2.2 := by
  unfold evaluate
  split
  · exact .refl _ _ trace
  · refine session.extends_evaluateWith trace 1 _ fun ready later owner => ?_
    have made := ready.extends_execute later point
    unfold pointCall at made
    rw [owner.binding, owner.state, owner.info] at made
    rw [owner.binding, owner.state, owner.info]
    exact made

variable {session}

theorem grows_evaluate {point : Point} (allows : session.Allows P (session.pointCall point)) :
    trace.Grows P (session.evaluate point trace).2.2 :=
  (session.extends_evaluate trace point).grows allows

/-- A batch without rows makes no call. -/
theorem grows_evaluateBatch {batch : Sample}
    (allows : ¬batch.isEmpty = true → session.Allows P (session.batchCall batch)) :
    trace.Grows P (session.evaluateBatch batch trace).2.2 := by
  by_cases right : batch.dimension = session.info.inputDimension
  · by_cases empty : batch.isEmpty = true
    · rw [session.evaluateBatch_of_isEmpty trace right empty]
      exact .refl P trace
    · exact (session.extends_evaluateBatch trace batch).grows (allows empty)
  · rw [session.evaluateBatch_of_wrong trace right]
    exact .refl P trace

end Session

/-! ## Evaluators -/

namespace Evaluator

variable {evaluator : Evaluator} (trace : Trace)

theorem grows_evaluate {point : Point} (allows : evaluator.cache.peek point = none →
    evaluator.session.Allows P (evaluator.session.pointCall point)) :
    trace.Grows P (evaluator.evaluate point trace).2.2 := by
  unfold Evaluator.evaluate Cache.lookup
  cases evaluator.session.checkPoint point with
  | some e => exact .refl P trace
  | none =>
    dsimp only
    cases found : evaluator.cache.peek point with
    | some value => exact .refl P trace
    | none =>
      have grown := evaluator.session.grows_evaluate trace (allows found)
      cases evaluated : evaluator.session.evaluate point trace with
      | mk reply rest =>
        rw [evaluated] at grown
        cases reply with
        | ok | error | panic => exact grown

theorem grows_evaluateBatch {batch : Sample}
    (allows : ¬(Plan.make batch evaluator.cache).1.unknown.isEmpty = true →
      evaluator.session.Allows P
        (evaluator.session.batchCall (Plan.make batch evaluator.cache).1.unknown)) :
    trace.Grows P (evaluator.evaluateBatch batch trace).2.2 := by
  unfold Evaluator.evaluateBatch
  cases evaluator.session.checkBatch batch with
  | some e => exact .refl P trace
  | none =>
    have grown := Session.grows_evaluateBatch trace allows
    dsimp only
    cases evaluated :
        evaluator.session.evaluateBatch (Plan.make batch evaluator.cache).1.unknown trace with
    | mk reply rest =>
      rw [evaluated] at grown
      cases reply with
      | ok | error | panic => exact grown

end Evaluator

/-! ## Pools -/

namespace Pool

/-- The worker of a job may have its chunk evaluated. -/
def Job.Allows (P : Event → Prop) (job : Job) : Prop :=
  ¬job.chunk.isEmpty = true → job.worker.session.Allows P (job.worker.session.batchCall job.chunk)

theorem grows_evaluateJob {job : Job} (allows : job.Allows P) (function : String) (trace : Trace) :
    trace.Grows P (job.evaluate function trace).2 := by
  unfold Job.evaluate
  split
  · exact .refl P trace
  · exact job.worker.session.grows_evaluateBatch trace allows

theorem Advances.grows {function : String} {slots last : List Slot} {trace later : Trace}
    (advances : Advances function slots trace last later)
    (allows : ∀ job, .waiting job ∈ slots → job.Allows P) : trace.Grows P later := by
  induction advances with
  | refl => exact .refl P _
  | @turn before after last job trace later rest ih =>
    refine (grows_evaluateJob (allows job (by simp)) function trace).trans (ih ?_)
    -- a job that still waits has waited before
    exact fun other waits => allows other (mem_of_turn waits nofun)

theorem grows_evaluateJobs {jobs : List Job} (allows : ∀ job ∈ jobs, job.Allows P)
    (schedule : Schedule) (function : String) (trace : Trace) :
    trace.Grows P (evaluateJobs schedule function jobs trace).2 := by
  obtain ⟨slots, later, text, advances, -, same⟩ :=
    evaluateJobs_eq schedule function jobs trace
  rw [same]
  exact advances.grows fun job waits => by simpa using allows job (by simpa using waits)

variable {pool : Pool} (trace : Trace)

/-- A point is evaluated by one of the workers, if the cache does not have it. -/
theorem grows_evaluate {point : Point} (allows : pool.cache.peek point = none →
    ∀ worker ∈ pool.workers, worker.session.Allows P (worker.session.pointCall point)) :
    trace.Grows P (pool.evaluate point trace).2.2 := by
  rcases pool.evaluate_cases with ⟨-, same⟩ | ⟨before, worker, others, staff, -, -, same⟩
  · rw [same]
    exact .refl P trace
  · have mem : worker ∈ pool.workers := by simp [staff]
    rw [same]
    exact Evaluator.grows_evaluate trace fun absent => allows absent worker mem

theorem grows_evaluateBatch {batch : Sample}
    (allows : ∀ worker ∈ pool.workers,
      ∀ chunk ∈ pool.chunksFor (Plan.make batch pool.cache).1.unknown, ¬chunk.isEmpty = true →
        worker.session.Allows P (worker.session.batchCall chunk)) :
    trace.Grows P (pool.evaluateBatch batch trace).2.2 := by
  by_cases declared : batch.dimension = pool.info.inputDimension
  · rw [evaluateBatch_eq declared]
    refine grows_evaluateJobs (fun job mem rows => ?_) pool.schedule pool.function trace
    obtain ⟨worker, chunk⟩ := mem_of_mem_jobsOf mem
    exact allows job.worker worker job.chunk chunk rows
  · rw [evaluateBatch_of_wrong declared]
    exact .refl P trace

end Pool

end ForeignEval

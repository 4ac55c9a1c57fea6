import ForeignEval.Proofs.Batch.Answer
import ForeignEval.Proofs.Cache.Faithful
import ForeignEval.Proofs.Pool.Jobs
import ForeignEval.Proofs.Session.Computing

/-!
# Evaluators and pools of a computed function

An evaluator or a pool is **sound** when its sessions compute a function and its cache is faithful
to it. Whatever fails, it stays sound, and what it returns are values of the function: outputs
never get to the wrong rows, neither through the cache nor between the chunks.

* **Evaluators** — `Evaluator.Sound.evaluate` and `Evaluator.Sound.evaluateBatch`.
* **Chunks** — `Pool.faithful_gather`: outputs of chunks come to a faithful cache.
* **Pools** — `Pool.Sound.evaluate` and `Pool.Sound.evaluateBatch`.
-/

namespace ForeignEval

open Foreign (Trace)

variable {inputs outputs : Nat} {F : Point → Point}

/-! ## Evaluators -/

namespace Evaluator

/-- An evaluator whose session computes what its cache is faithful to. -/
structure Sound (inputs outputs : Nat) (F : Point → Point) (evaluator : Evaluator) : Prop where
  /-- The session computes the function. -/
  computes : evaluator.session.Computes inputs outputs F
  /-- The cache is faithful to it. -/
  faithful : evaluator.cache.Faithful F

namespace Sound

variable {evaluator : Evaluator} (sound : evaluator.Sound inputs outputs F)

include sound

/-- A point gets its value, if it gets one. -/
theorem evaluate (point : Point) (trace : Trace) :
    (∀ value, (evaluator.evaluate point trace).1 = .ok value → value = F point) ∧
      (evaluator.evaluate point trace).2.1.Sound inputs outputs F := by
  have counted := sound.faithful.count point
  have same := evaluator.session.sameOwner_evaluate trace point
  have computes := sound.computes.later same
  unfold Evaluator.evaluate
  cases evaluator.session.checkPoint point with
  | some e => exact ⟨fun _ ok => (nomatch ok), sound⟩
  | none =>
    unfold Cache.lookup
    dsimp only
    cases found : evaluator.cache.peek point with
    | some value =>
      refine ⟨fun other ok => ?_, sound.computes, counted⟩
      cases ok
      exact sound.faithful.value_of_peek found
    | none =>
      -- only an output that the session returned is inserted
      cases evaluated : evaluator.session.evaluate point trace with
      | mk reply rest =>
        rw [evaluated] at computes
        cases reply with
        | error | panic => exact ⟨fun _ ok => (nomatch ok), computes, counted⟩
        | ok value =>
          have right := sound.computes.evaluate (congrArg Prod.fst evaluated)
          refine ⟨fun other ok => ?_, computes, counted.insert right⟩
          cases ok
          exact right

/-- The rows of a batch get their values, if they get any. -/
theorem evaluateBatch (batch : Sample) (trace : Trace) :
    (∀ output, (evaluator.evaluateBatch batch trace).1 = .ok output →
        output.rows = batch.rows.map F) ∧
      (evaluator.evaluateBatch batch trace).2.1.Sound inputs outputs F := by
  by_cases declared : batch.dimension = evaluator.info.inputDimension
  · have linked := sound.faithful.toLinked
    have same := evaluator.session.sameOwner_evaluateBatch trace (evaluator.cache.missing batch)
    have computes := sound.computes.later same
    have counted := sound.faithful.countAll batch.rows
    rw [evaluateBatch_eq linked declared]
    -- an output of the session makes a faithful cache, which is all that the plan reads
    cases evaluated : (evaluator.evaluateMissing batch trace).1 with
    | error | panic => exact ⟨fun _ ok => (nomatch ok), computes, counted⟩
    | ok outputs =>
      have rows := sound.computes.evaluateBatch evaluated
      have fresh : (Cache.ofOutputs (evaluator.cache.missing batch).rows
          outputs.rows).Faithful F := by
        rw [rows]
        exact Cache.faithful_ofOutputs _
      refine ⟨fun output ok => ?_, computes, counted.assemble fresh _⟩
      have ok := Reply.ofExcept_eq_ok_iff.1 ok
      have plan : (Plan.make batch evaluator.cache).1 =
          ⟨batch, batch.rows.map evaluator.cache.peek, evaluator.cache.missing batch⟩ :=
        congrArg Prod.fst (Plan.make_eq linked batch)
      unfold assembled at ok
      rw [← plan] at ok
      exact sound.faithful.rows_assemble fresh ok
  · have wrong : evaluator.session.checkBatch batch = some (Session.mismatch _ _ _ _) :=
      if_neg declared
    unfold Evaluator.evaluateBatch
    rw [wrong]
    exact ⟨fun _ ok => (nomatch ok), sound⟩

end Sound

end Evaluator

/-! ## Chunks -/

namespace Pool

/-- What holds of the outcomes of jobs holds of the chunks and outcomes in the same places. -/
theorem forall_zip_of_jobsOf {R : Sample → Outcome → Prop} {workers : List Worker}
    {chunks : List Sample} {outcomes : List Outcome}
    (settled : List.Forall₂ (fun job outcome => R job.chunk outcome) (jobsOf workers chunks)
      outcomes) : ∀ pair ∈ chunks.zip outcomes, R pair.1 pair.2 := by
  induction chunks generalizing workers outcomes with
  | nil => exact fun _ mem => absurd mem List.not_mem_nil
  | cons chunk chunks ih =>
    cases workers with
    | nil =>
      cases settled
      rw [List.zip_nil_right]
      exact fun _ mem => absurd mem List.not_mem_nil
    | cons worker workers =>
      cases settled with
      | cons first others => exact List.forall_mem_cons.2 ⟨first, ih others⟩

/-- The outputs of a chunk, if there are any, are the values of its rows. -/
def ValuesOf (F : Point → Point) (chunk : Sample) (outcome : Outcome) : Prop :=
  ∀ sample, outcome.reply = .ok sample → sample.rows = chunk.rows.map F

/-- Outputs that are values of their chunks' rows come to a faithful cache. -/
theorem faithful_gather {chunks : List Sample} {outcomes : List Outcome} {fresh filled : Cache}
    (values : ∀ pair ∈ chunks.zip outcomes, ValuesOf F pair.1 pair.2)
    (faithful : fresh.Faithful F) (gathered : gather fresh chunks outcomes = .ok filled) :
    filled.Faithful F := by
  induction chunks generalizing outcomes fresh with
  | nil =>
    unfold gather at gathered
    cases gathered
    exact faithful
  | cons chunk chunks ih =>
    cases outcomes with
    | nil =>
      unfold gather at gathered
      cases gathered
      exact faithful
    | cons outcome outcomes =>
      obtain ⟨first, others⟩ := List.forall_mem_cons.1 values
      unfold gather at gathered
      cases replied : outcome.reply with
      | error | panic =>
        rw [replied] at gathered
        cases gathered
      | ok sample =>
        rw [replied] at gathered
        have rows := first sample replied
        refine ih others (faithful.merge ?_) gathered
        rw [rows]
        exact Cache.faithful_ofOutputs chunk.rows

/-! ## Pools -/

/-- A pool whose workers compute what its cache is faithful to. -/
structure Sound (inputs outputs : Nat) (F : Point → Point) (pool : Pool) : Prop where
  /-- The workers compute the function. -/
  computes : ∀ worker ∈ pool.workers, worker.session.Computes inputs outputs F
  /-- The cache is faithful to it. -/
  faithful : pool.cache.Faithful F

theorem session_after {α : Type} (session : Session) (reply : Reply α) :
    (Worker.after session reply).session = session := by
  cases reply with
  | ok | error | panic => rfl

/-- A worker computes the function, and outputs are the values of its chunk's rows. -/
structure Computed (inputs outputs : Nat) (F : Point → Point) (job : Job) (outcome : Outcome) :
    Prop where
  /-- The worker computes the function afterwards. -/
  computes : outcome.worker.session.Computes inputs outputs F
  /-- Outputs are values. -/
  values : ValuesOf F job.chunk outcome

theorem settles_computed (function : String) {jobs : List Job}
    (computes : ∀ job ∈ jobs, job.worker.session.Computes inputs outputs F) :
    Settles function (Computed inputs outputs F) jobs where
  evaluated job mem trace := by
    have session := computes job mem
    unfold Job.evaluate
    split
    · exact ⟨session, fun _ ok => (nomatch ok)⟩
    · refine ⟨?_, fun sample ok => session.evaluateBatch ok⟩
      rw [session_after]
      exact session.later (job.worker.session.sameOwner_evaluateBatch trace job.chunk)
  givenUp _ _ _ _ _ other mem := ⟨computes other mem, fun _ ok => (nomatch ok)⟩

namespace Sound

variable {pool : Pool} (sound : pool.Sound inputs outputs F)

include sound

/-- A point gets its value, if it gets one. -/
theorem evaluate (point : Point) (trace : Trace) :
    (∀ value, (pool.evaluate point trace).1 = .ok value → value = F point) ∧
      (pool.evaluate point trace).2.1.Sound inputs outputs F := by
  rcases pool.evaluate_cases with ⟨-, same⟩ | ⟨before, worker, others, staff, -, -, same⟩
  · rw [same]
    exact ⟨fun _ ok => (nomatch ok), sound⟩
  · obtain ⟨early, late⟩ := List.forall_mem_append.1 (staff ▸ sound.computes)
    obtain ⟨here, later⟩ := List.forall_mem_cons.1 late
    have evaluator : Evaluator.Sound inputs outputs F ⟨worker.session, pool.cache⟩ :=
      ⟨here, sound.faithful⟩
    obtain ⟨right, after⟩ := evaluator.evaluate point trace
    rw [same]
    refine ⟨right, List.forall_mem_append.2 ⟨early, List.forall_mem_cons.2 ⟨?_, later⟩⟩,
      after.faithful⟩
    rw [session_after]
    exact after.computes

/-- The workers compute the unknown rows of a batch. -/
theorem evaluateUnknown (batch : Sample) (trace : Trace) :
    (∀ filled, collect (Plan.make batch pool.cache).1.unknown
        (pool.chunksFor (Plan.make batch pool.cache).1.unknown)
        (pool.evaluateUnknown batch trace).1 = .ok filled → filled.Faithful F) ∧
      (pool.evaluateUnknown batch trace).2.1.Sound inputs outputs F := by
  have settles : Settles pool.function (Computed inputs outputs F)
      (jobsOf pool.workers (pool.chunksFor (Plan.make batch pool.cache).1.unknown)) :=
    settles_computed _ fun job mem => sound.computes _ (mem_of_mem_jobsOf mem).1
  have computed : List.Forall₂ (Computed inputs outputs F)
      (jobsOf pool.workers (pool.chunksFor (Plan.make batch pool.cache).1.unknown))
      (pool.evaluateUnknown batch trace).1 :=
    forall₂_evaluateJobs settles pool.schedule trace
  refine ⟨fun filled collected => ?_, ?_, ?_⟩
  · unfold collect at collected
    split at collected
    · cases collected
    · have values := forall_zip_of_jobsOf (R := ValuesOf F)
        (computed.imp fun _ _ settled => settled.values)
      exact faithful_gather values (Cache.faithful_new _) collected
  · refine forall_workers_evaluateChunks sound.computes fun outcome mem => ?_
    obtain ⟨job, -, settled⟩ := exists_job computed mem
    exact settled.computes
  · show (Plan.make batch pool.cache).2.Faithful F
    rw [Plan.make_eq sound.faithful.toLinked]
    exact sound.faithful.countAll batch.rows

/-- The rows of a batch get their values, if they get any. -/
theorem evaluateBatch (batch : Sample) (trace : Trace) :
    (∀ output, (pool.evaluateBatch batch trace).1 = .ok output →
        output.rows = batch.rows.map F) ∧
      (pool.evaluateBatch batch trace).2.1.Sound inputs outputs F := by
  by_cases declared : batch.dimension = pool.info.inputDimension
  · obtain ⟨filled, after⟩ := sound.evaluateUnknown batch trace
    rw [Pool.evaluateBatch_eq declared]
    cases collected : collect (Plan.make batch pool.cache).1.unknown
        (pool.chunksFor (Plan.make batch pool.cache).1.unknown)
        (pool.evaluateUnknown batch trace).1 with
    | error | panic => exact ⟨fun _ ok => (nomatch ok), after⟩
    | ok fresh =>
      have faithful := filled fresh collected
      refine ⟨fun output ok => ?_, after.computes, after.faithful.assemble faithful _⟩
      exact sound.faithful.rows_assemble faithful (Reply.ofExcept_eq_ok_iff.1 ok)
  · rw [Pool.evaluateBatch_of_wrong declared]
    exact ⟨fun _ ok => (nomatch ok), sound⟩

end Sound

end Pool

end ForeignEval

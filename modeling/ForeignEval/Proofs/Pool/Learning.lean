import ForeignEval.Proofs.Cache.Learning
import ForeignEval.Proofs.Pool.Sound

/-!
# Evaluators and pools that forget nothing

On a cache with room for what they are asked, evaluators and pools only learn. What they answer is
what the cache serves afterwards, through whatever session and in whatever chunk it was computed;
what fails is not learned.

* **Evaluators** — `Evaluator.learned_evaluate` and `Evaluator.recalls_evaluateBatch`.
* **Chunks** — `Pool.within_gather`: outputs of chunks are outputs of the rows they were cut from.
* **Pools** — `Pool.learned_evaluate` and `Pool.recalls_evaluateBatch`.
-/

namespace ForeignEval

open Foreign (Trace)

/-! ## Evaluators -/

namespace Evaluator

variable {evaluator : Evaluator} (trace : Trace)

/-- A point is learned with the output that is answered for it. -/
theorem learned_evaluate {point : Point} (hasRoom : evaluator.cache.HasRoom [point]) :
    evaluator.cache.Learned [point] (evaluator.evaluate point trace).2.1.cache ∧
      ∀ value, (evaluator.evaluate point trace).1 = .ok value →
        (evaluator.evaluate point trace).2.1.cache.peek point = some value := by
  have sound := hasRoom.toWellFormed
  have counted : evaluator.cache.Learned [point] (evaluator.cache.count point) :=
    Cache.learned_countAll sound [point] [point]
  have same := evaluator.cache.peek_count point point
  unfold Evaluator.evaluate Cache.lookup
  cases evaluator.session.checkPoint point with
  | some e => exact ⟨Cache.learned_countAll sound [point] [], fun _ ok => (nomatch ok)⟩
  | none =>
    dsimp only
    cases found : evaluator.cache.peek point with
    | some value =>
      refine ⟨counted, fun other ok => ?_⟩
      cases ok
      exact same.trans found
    | none =>
      cases evaluated : evaluator.session.evaluate point trace with
      | mk reply rest =>
        cases reply with
        | error | panic => exact ⟨counted, fun _ ok => (nomatch ok)⟩
        | ok value =>
          have hasRoom' := hasRoom.of_learned counted (List.Subset.refl _)
          obtain ⟨learned, served⟩ := hasRoom'.learned_insert (same.trans found) value
          refine ⟨counted.trans learned, fun other ok => ?_⟩
          cases ok
          exact served

/-- A batch is learned with the outputs that are answered for it. -/
theorem recalls_evaluateBatch {batch : Sample} (hasRoom : evaluator.cache.HasRoom batch.rows) :
    Recalls evaluator.info batch evaluator.cache (evaluator.evaluateBatch batch trace).2.1.cache
      (evaluator.evaluateBatch batch trace).1 := by
  have sound := hasRoom.toWellFormed
  by_cases declared : batch.dimension = evaluator.info.inputDimension
  · have counted := Cache.learned_countAll sound batch.rows batch.rows
    -- an evaluation that fails had something to evaluate
    have unknown : (∀ outputs, (evaluator.evaluateMissing batch trace).1 ≠ .ok outputs) →
        ¬∀ row ∈ batch.rows, (evaluator.cache.peek row).isSome = true := by
      intro failed known
      have none := Cache.missing_of_known hasRoom.toLinked known
      have silent : evaluator.evaluateMissing batch trace =
          (.ok (Session.emptyOutput evaluator.session.info), evaluator.session, trace) :=
        evaluator.session.evaluateBatch_of_isEmpty trace declared (List.isEmpty_iff.2 none)
      exact failed _ (congrArg Prod.fst silent)
    rw [evaluateBatch_eq hasRoom.toLinked declared]
    cases evaluated : (evaluator.evaluateMissing batch trace).1 with
    | ok outputs =>
      exact Plan.recalls_assemble hasRoom (.ofOutputs (List.Subset.refl _) outputs.rows) declared
    | error | panic =>
      rw [evaluated] at unknown
      exact recalls_of_failed counted (fun _ ok => (nomatch ok))
        fun _ => unknown fun _ ok => (nomatch ok)
  · have wrong : evaluator.session.checkBatch batch = some (Session.mismatch _ _ _ _) :=
      if_neg declared
    unfold Evaluator.evaluateBatch
    rw [wrong]
    exact recalls_of_failed (Cache.learned_countAll sound batch.rows [])
      (fun _ ok => (nomatch ok)) fun right => absurd right declared

end Evaluator

/-! ## Chunks -/

namespace Pool

theorem within_gather {rows : List Point} {chunks : List Sample} {outcomes : List Outcome}
    {fresh filled : Cache} (sub : ∀ chunk ∈ chunks, chunk.rows ⊆ rows)
    (within : fresh.Within rows) (gathered : gather fresh chunks outcomes = .ok filled) :
    filled.Within rows := by
  induction chunks generalizing outcomes fresh with
  | nil =>
    unfold gather at gathered
    cases gathered
    exact within
  | cons chunk chunks ih =>
    cases outcomes with
    | nil =>
      unfold gather at gathered
      cases gathered
      exact within
    | cons outcome outcomes =>
      obtain ⟨first, others⟩ := List.forall_mem_cons.1 sub
      unfold gather at gathered
      cases replied : outcome.reply with
      | error | panic =>
        rw [replied] at gathered
        cases gathered
      | ok outputs =>
        rw [replied] at gathered
        have computed := Cache.Within.ofOutputs first outputs.rows
        exact ih others (within.insertAll computed.asked) gathered

/-! ## Pools -/

variable {pool : Pool} (trace : Trace)

/-- A point is learned with the output that is answered for it. -/
theorem learned_evaluate {point : Point} (hasRoom : pool.cache.HasRoom [point]) :
    pool.cache.Learned [point] (pool.evaluate point trace).2.1.cache ∧
      ∀ value, (pool.evaluate point trace).1 = .ok value →
        (pool.evaluate point trace).2.1.cache.peek point = some value := by
  have idle := Cache.learned_countAll hasRoom.toWellFormed [point] []
  rcases pool.evaluate_cases with ⟨-, same⟩ | ⟨before, worker, others, -, -, -, same⟩
  · rw [same]
    exact ⟨idle, fun _ ok => (nomatch ok)⟩
  · let evaluator : Evaluator := ⟨worker.session, pool.cache⟩
    rw [same]
    exact evaluator.learned_evaluate trace hasRoom

/-- What the chunks come to are outputs of the rows that were unknown. -/
theorem within_collect {unknown : Sample} {outcomes : List Outcome} {fresh : Cache}
    (collected : collect unknown (pool.chunksFor unknown) outcomes = .ok fresh) :
    fresh.Within unknown.rows := by
  unfold collect at collected
  split at collected
  · cases collected
  · exact within_gather (fun _ => Sample.subset_of_mem_chunks) (Cache.within_new _ _) collected

theorem evaluateJobs_nil (schedule : Schedule) (function : String) (trace : Trace) :
    evaluateJobs schedule function [] trace = ([], trace) := rfl

/-- Without unknown rows nobody is asked and nothing fails. -/
theorem collect_of_nil {batch : Sample}
    (none : (Plan.make batch pool.cache).1.unknown.rows = []) :
    ∃ fresh, collect (Plan.make batch pool.cache).1.unknown
      (pool.chunksFor (Plan.make batch pool.cache).1.unknown)
      (pool.evaluateUnknown batch trace).1 = .ok fresh := by
  have chunks : pool.chunksFor (Plan.make batch pool.cache).1.unknown = [] := by
    rw [← List.map_eq_nil_iff (f := Sample.rows)]
    unfold chunksFor
    rw [Sample.rows_chunks, none, chunksOf]
  have outcomes : (pool.evaluateUnknown batch trace).1 = [] := by
    unfold evaluateUnknown evaluateChunks
    rw [chunks, List.zipWith_nil_right, evaluateJobs_nil]
  rw [outcomes, chunks]
  exact ⟨_, rfl⟩

/-- A batch is learned with the outputs that are answered for it. -/
theorem recalls_evaluateBatch {batch : Sample} (hasRoom : pool.cache.HasRoom batch.rows) :
    Recalls pool.info batch pool.cache (pool.evaluateBatch batch trace).2.1.cache
      (pool.evaluateBatch batch trace).1 := by
  have sound := hasRoom.toWellFormed
  by_cases declared : batch.dimension = pool.info.inputDimension
  · have counted := Cache.learned_countAll sound batch.rows batch.rows
    have plan := Plan.make_eq hasRoom.toLinked batch
    have unknown : (∀ fresh, collect (Plan.make batch pool.cache).1.unknown
        (pool.chunksFor (Plan.make batch pool.cache).1.unknown)
        (pool.evaluateUnknown batch trace).1 ≠ .ok fresh) →
        ¬∀ row ∈ batch.rows, (pool.cache.peek row).isSome = true := by
      intro failed known
      have none := Cache.missing_of_known hasRoom.toLinked known
      have none' : (Plan.make batch pool.cache).1.unknown.rows = [] := by
        rw [plan]
        exact none
      obtain ⟨fresh, ok⟩ := collect_of_nil trace none'
      exact failed fresh ok
    have after : (pool.evaluateUnknown batch trace).2.1.cache = pool.cache.countAll batch.rows :=
      congrArg Prod.snd plan
    rw [evaluateBatch_eq declared]
    cases collected : collect (Plan.make batch pool.cache).1.unknown
        (pool.chunksFor (Plan.make batch pool.cache).1.unknown)
        (pool.evaluateUnknown batch trace).1 with
    | ok fresh =>
      have within := within_collect collected
      rw [plan] at within ⊢
      unfold settled
      dsimp only
      rw [after]
      exact Plan.recalls_assemble hasRoom within declared
    | error | panic =>
      rw [collected] at unknown
      refine recalls_of_failed ?_ (fun _ ok => (nomatch ok))
        fun _ => unknown fun _ ok => (nomatch ok)
      unfold settled
      rw [after]
      exact counted
  · rw [evaluateBatch_of_wrong declared]
    exact recalls_of_failed (Cache.learned_countAll sound batch.rows [])
      (fun _ ok => (nomatch ok)) fun right => absurd right declared

end Pool

end ForeignEval

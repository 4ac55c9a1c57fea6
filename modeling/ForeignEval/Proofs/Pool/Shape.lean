import ForeignEval.Proofs.Pool.Failure
import ForeignEval.Proofs.Pool.Learning

/-!
# The shape of outputs

What a session computes has the declared number of values. A cache may be shared by functions of
different dimensions, though, so what it serves for a point may have been computed by another one.
Batches are put together with a check of every row; a single point is answered with what the cache
serves, whatever its length.

* **Points** — `RecallsUnchecked`: points are answered in the declared shape exactly when the cache
  suits the function (`RecallsUnchecked.shaped_iff`).
* **Batches** — `ChecksRows`: batches are always answered in the declared shape.
-/

namespace ForeignEval

open Foreign (Trace)

/-! ## What is answered -/

/-- What a cache serves for points of a function has the dimension of its outputs. -/
def Cache.Suits (cache : Cache) (info : FunctionInfo) : Prop :=
  ∀ point value, point.length = info.inputDimension → cache.peek point = some value →
    value.length = info.outputDimension

/-- Points are answered with the declared number of values. -/
def ShapesPoints (info : FunctionInfo) (answer : Point → Reply Point) : Prop :=
  ∀ point value, answer point = .ok value → value.length = info.outputDimension

/-- Points are answered with what a cache serves or with values of the declared dimension. -/
structure RecallsUnchecked (info : FunctionInfo) (cache : Cache) (answer : Point → Reply Point) :
    Prop where
  declared : ∀ point value, answer point = .ok value → point.length = info.inputDimension
  recalled : ∀ point value, point.length = info.inputDimension → cache.peek point = some value →
    answer point = .ok value
  computed : ∀ point value, cache.peek point = none → answer point = .ok value →
    value.length = info.outputDimension

/-- Batches are answered with rows of the declared dimension, one for each of theirs, or not at
all. -/
structure ChecksRows (function : String) (info : FunctionInfo) (cache : Cache)
    (answer : Sample → Reply Sample) : Prop where
  dimension : ∀ batch output, answer batch = .ok output →
    output.dimension = info.outputDimension ∧ output.size = batch.size
  length : ∀ batch output, answer batch = .ok output →
    ∀ row ∈ output.rows, row.length = info.outputDimension
  /-- What the cache serves in another dimension is not answered. -/
  refused : ∀ batch row value, row ∈ batch.rows → cache.peek row = some value →
    value.length ≠ info.outputDimension → ∀ output, answer batch ≠ .ok output
  /-- If it serves all rows, the first one in another dimension is reported. -/
  reported : ∀ (batch : Sample) before row rest value, batch.dimension = info.inputDimension →
    (∀ other ∈ batch.rows, (cache.peek other).isSome = true) →
    batch.rows = before ++ row :: rest →
    (∀ other ∈ before, ∀ value, cache.peek other = some value →
      value.length = info.outputDimension) →
    cache.peek row = some value → value.length ≠ info.outputDimension →
    answer batch = .error (Plan.wrongLength function before.length value.length
      info.outputDimension)

/-- Points are answered in the declared shape exactly when the cache suits the function. -/
theorem RecallsUnchecked.shaped_iff {info : FunctionInfo} {cache : Cache}
    {answer : Point → Reply Point} (recalls : RecallsUnchecked info cache answer) :
    ShapesPoints info answer ↔ cache.Suits info := by
  constructor
  · intro shaped point value declared found
    exact shaped point value (recalls.recalled point value declared found)
  · intro suits point value answered
    cases found : cache.peek point with
    | none => exact recalls.computed point value found answered
    | some other =>
      have declared := recalls.declared point value answered
      have same := recalls.recalled point other declared found
      rw [answered] at same
      cases same
      exact suits point value declared found

/-! ## Plans -/

namespace Plan

variable {function : String} {info : FunctionInfo} {fresh cache : Cache} {batch : Sample}

theorem make_known (batch : Sample) (cache : Cache) :
    (make batch cache).1.batch = batch ∧
      (make batch cache).1.known = batch.rows.map cache.peek :=
  ⟨rfl, congrArg Prod.fst (cache.lookupAll_eq batch.rows)⟩

/-- A cache that serves all rows leaves none to be computed. -/
theorem unknown_of_served (served : ∀ row ∈ batch.rows, (cache.peek row).isSome = true) :
    (make batch cache).1.unknown.rows = [] := by
  have none : notFound batch.rows (cache.lookupAll batch.rows).1 = [] := by
    rw [cache.lookupAll_eq, notFound_map, List.filter_eq_nil_iff]
    intro row mem
    simpa [Option.isSome_iff_ne_none] using served row mem
  show distinct (notFound batch.rows (cache.lookupAll batch.rows).1) = []
  rw [none]
  rfl

theorem size_of_assemble {output : Sample}
    (ok : ((make batch cache).1.assemble function info fresh (make batch cache).2).1 =
      .ok output) : output.dimension = info.outputDimension ∧ output.size = batch.size := by
  obtain ⟨dimension, -, rows, -⟩ := assemble_ok ok
  rw [(make_known batch cache).1, (make_known batch cache).2, zip_map_self] at rows
  refine ⟨dimension, ?_⟩
  have length := congrArg List.length rows
  rwa [List.length_map, List.length_map, List.length_map] at length

/-- A row that is served in another dimension keeps the plan from being completed. -/
theorem assemble_ne_ok {row value : Point} (mem : row ∈ batch.rows)
    (found : cache.peek row = some value) (wrong : value.length ≠ info.outputDimension)
    (merged : Cache) (output : Sample) :
    ((make batch cache).1.assemble function info fresh merged).1 ≠ .ok output := by
  intro ok
  have resolved := assemble_ok_iff.1 ⟨output, ok⟩
  rw [(make_known batch cache).1, (make_known batch cache).2, zip_map_self] at resolved
  obtain ⟨other, same⟩ := resolved _ (List.mem_map_of_mem mem)
  dsimp only at same
  rw [found, Option.some_or] at same
  cases same
  exact wrong other.2

/-- The first row that is served in another dimension is reported. -/
theorem assemble_wrongLength {before rest : List Point} {row value : Point}
    (served : ∀ other ∈ batch.rows, (cache.peek other).isSome = true)
    (rows : batch.rows = before ++ row :: rest)
    (fits : ∀ other ∈ before, ∀ value, cache.peek other = some value →
      value.length = info.outputDimension)
    (found : cache.peek row = some value) (wrong : value.length ≠ info.outputDimension)
    (merged : Cache) :
    ((make batch cache).1.assemble function info fresh merged).1 =
      .error (wrongLength function before.length value.length info.outputDimension) := by
  refine congrArg Prod.fst (assemble_of_error ?_)
  rw [(make_known batch cache).1, (make_known batch cache).2, zip_map_self, rows, List.map_append,
    List.map_cons]
  refine outputsOf_eq_error ?_ ?_
  · rw [List.forall_mem_map]
    intro other mem
    have there : other ∈ batch.rows := rows ▸ List.mem_append_left _ mem
    obtain ⟨known, same⟩ := Option.isSome_iff_exists.1 (served other there)
    refine ⟨⟨known, fits other mem known same⟩, ?_⟩
    dsimp only
    rw [same, Option.some_or]
  · unfold outputOf
    rw [found, Option.some_or, List.length_map, Nat.zero_add]
    exact dif_neg wrong

end Plan

/-! ## Sessions -/

theorem Session.length_of_evaluate (session : Session) (trace : Trace) {point value : Point}
    (ok : (session.evaluate point trace).1 = .ok value) :
    value.length = session.info.outputDimension := by
  by_cases right : point.length = session.info.inputDimension
  · rw [session.evaluate_of_length trace right] at ok
    obtain ⟨later, called, -⟩ := session.evaluateWith_ok trace ok
    obtain ⟨values, -, rfl, -⟩ := execute_ok later called
    exact length_written _ _
  · unfold evaluate checkPoint at ok
    rw [if_neg right] at ok
    cases ok

/-! ## Evaluators -/

namespace Evaluator

variable (evaluator : Evaluator) (trace : Trace)

theorem recallsUnchecked : RecallsUnchecked evaluator.info evaluator.cache
    fun point => (evaluator.evaluate point trace).1 where
  declared point value ok := by
    by_contra wrong
    have refused : evaluator.session.checkPoint point = some (Session.mismatch _ _ _ _) :=
      if_neg wrong
    unfold evaluate at ok
    rw [refused] at ok
    cases ok
  recalled point value right found := by
    have passed : evaluator.session.checkPoint point = none := if_pos right
    unfold evaluate Cache.lookup
    simp only [passed, found]
  computed point value absent ok := by
    show value.length = evaluator.session.info.outputDimension
    suffices evaluated : (evaluator.session.evaluate point trace).1 = .ok value from
      evaluator.session.length_of_evaluate trace evaluated
    unfold evaluate Cache.lookup at ok
    cases passed : evaluator.session.checkPoint point with
    | some e =>
      simp only [passed] at ok
      cases ok
    | none =>
      simp only [passed, absent] at ok
      generalize evaluator.session.evaluate point trace = result at ok ⊢
      rcases result with ⟨_ | _ | _, later, after⟩
      · exact ok
      · cases ok
      · cases ok

/-- A batch that is answered has been put together by its plan. -/
theorem exists_assemble {batch output : Sample}
    (ok : (evaluator.evaluateBatch batch trace).1 = .ok output) :
    ∃ fresh, ((Plan.make batch evaluator.cache).1.assemble evaluator.session.function
      evaluator.info fresh (Plan.make batch evaluator.cache).2).1 = .ok output := by
  unfold evaluateBatch at ok
  cases passed : evaluator.session.checkBatch batch with
  | some e =>
    rw [passed] at ok
    cases ok
  | none =>
    have owner := evaluator.session.sameOwner_evaluateBatch trace
      (Plan.make batch evaluator.cache).1.unknown
    rw [passed] at ok
    dsimp only at ok
    generalize evaluator.session.evaluateBatch (Plan.make batch evaluator.cache).1.unknown trace =
      result at owner ok
    obtain ⟨_ | _ | _, later, after⟩ := result
    · dsimp only at owner ok
      rw [owner.function, owner.info] at ok
      exact ⟨_, Reply.ofExcept_eq_ok_iff.1 ok⟩
    · cases ok
    · cases ok

/-- A batch that the cache serves needs nothing but its plan. -/
theorem evaluateBatch_of_served {batch : Sample}
    (declared : batch.dimension = evaluator.info.inputDimension)
    (served : ∀ row ∈ batch.rows, (evaluator.cache.peek row).isSome = true) :
    ∃ fresh, (evaluator.evaluateBatch batch trace).1 =
      .ofExcept ((Plan.make batch evaluator.cache).1.assemble evaluator.session.function
        evaluator.info fresh (Plan.make batch evaluator.cache).2).1 := by
  have passed : evaluator.session.checkBatch batch = none := if_pos declared
  have empty : (Plan.make batch evaluator.cache).1.unknown.isEmpty = true :=
    List.isEmpty_iff.2 (Plan.unknown_of_served served)
  have quiet : evaluator.session.evaluateBatch (Plan.make batch evaluator.cache).1.unknown trace =
      (.ok (Session.emptyOutput evaluator.session.info), evaluator.session, trace) :=
    evaluator.session.evaluateBatch_of_isEmpty trace declared empty
  unfold evaluateBatch
  rw [passed]
  dsimp only
  rw [quiet]
  exact ⟨_, rfl⟩

theorem checksRows : ChecksRows evaluator.session.function evaluator.info evaluator.cache
    fun batch => (evaluator.evaluateBatch batch trace).1 where
  dimension batch output ok := by
    obtain ⟨fresh, complete⟩ := evaluator.exists_assemble trace ok
    exact Plan.size_of_assemble complete
  length batch output ok := by
    obtain ⟨fresh, complete⟩ := evaluator.exists_assemble trace ok
    rw [← (Plan.size_of_assemble complete).1]
    exact output.length_of_mem
  refused batch row value mem found wrong output ok := by
    obtain ⟨fresh, complete⟩ := evaluator.exists_assemble trace ok
    exact Plan.assemble_ne_ok mem found wrong _ output complete
  reported batch before row rest value declared served rows fits found wrong := by
    obtain ⟨fresh, settled⟩ := evaluator.evaluateBatch_of_served trace declared served
    rw [settled, Plan.assemble_wrongLength served rows fits found wrong]
    rfl

end Evaluator

/-! ## Pools -/

namespace Pool

variable (pool : Pool) (trace : Trace)

theorem recallsUnchecked (uniform : ∀ worker ∈ pool.workers, worker.session.info = pool.info)
    (staffed : ∃ worker ∈ pool.workers, worker.poisoned = false) :
    RecallsUnchecked pool.info pool.cache fun point => (pool.evaluate point trace).1 := by
  rcases pool.evaluate_cases with ⟨all, -⟩ | ⟨before, worker, others, staff, -, -, same⟩
  · obtain ⟨worker, mem, sane⟩ := staffed
    rw [all worker mem] at sane
    cases sane
  · have mem : worker ∈ pool.workers := by
      rw [staff]
      exact List.mem_append_right _ List.mem_cons_self
    simp only [same]
    rw [← uniform worker mem]
    exact Evaluator.recallsUnchecked ⟨worker.session, pool.cache⟩ trace

/-- A batch that is answered has been put together by its plan. -/
theorem exists_assemble {batch output : Sample}
    (ok : (pool.evaluateBatch batch trace).1 = .ok output) :
    ∃ fresh, ((Plan.make batch pool.cache).1.assemble pool.function pool.info fresh
      (Plan.make batch pool.cache).2).1 = .ok output := by
  by_cases declared : batch.dimension = pool.info.inputDimension
  · rw [evaluateBatch_eq declared] at ok
    generalize collect _ _ _ = collected at ok
    cases collected with
    | ok fresh => exact ⟨fresh, Reply.ofExcept_eq_ok_iff.1 ok⟩
    | error | panic => cases ok
  · rw [evaluateBatch_of_wrong declared] at ok
    cases ok

theorem checksRows : ChecksRows pool.function pool.info pool.cache
    fun batch => (pool.evaluateBatch batch trace).1 where
  dimension batch output ok := by
    obtain ⟨fresh, complete⟩ := pool.exists_assemble trace ok
    exact Plan.size_of_assemble complete
  length batch output ok := by
    obtain ⟨fresh, complete⟩ := pool.exists_assemble trace ok
    rw [← (Plan.size_of_assemble complete).1]
    exact output.length_of_mem
  refused batch row value mem found wrong output ok := by
    obtain ⟨fresh, complete⟩ := pool.exists_assemble trace ok
    exact Plan.assemble_ne_ok mem found wrong _ output complete
  reported batch before row rest value declared served rows fits found wrong := by
    obtain ⟨fresh, nothing⟩ := collect_of_nil trace (Plan.unknown_of_served served)
    rw [evaluateBatch_eq declared, nothing]
    show Reply.ofExcept ((Plan.make batch pool.cache).1.assemble pool.function pool.info fresh
      (Plan.make batch pool.cache).2).1 = _
    rw [Plan.assemble_wrongLength served rows fits found wrong]
    rfl

end Pool

/-! ## Shapes -/

/-- **The shape of outputs.** Whatever is in the cache of an evaluator or a pool: batches are answered
in the declared shape or not at all, and a row that the cache serves in another dimension is
reported. Points are answered in the declared shape exactly when the cache suits the function; for
the workers of a pool that is to say, if they were told the same dimensions. -/
theorem outputs_shaped_iff_cache_suits (evaluator : Evaluator) (pool : Pool) (trace : Trace) :
    (ChecksRows evaluator.session.function evaluator.info evaluator.cache
        (fun batch => (evaluator.evaluateBatch batch trace).1) ∧
      RecallsUnchecked evaluator.info evaluator.cache
        (fun point => (evaluator.evaluate point trace).1) ∧
      (ShapesPoints evaluator.info (fun point => (evaluator.evaluate point trace).1) ↔
        evaluator.cache.Suits evaluator.info)) ∧
    ChecksRows pool.function pool.info pool.cache
        (fun batch => (pool.evaluateBatch batch trace).1) ∧
      ((∀ worker ∈ pool.workers, worker.session.info = pool.info) →
        (∃ worker ∈ pool.workers, worker.poisoned = false) →
        RecallsUnchecked pool.info pool.cache (fun point => (pool.evaluate point trace).1) ∧
        (ShapesPoints pool.info (fun point => (pool.evaluate point trace).1) ↔
          pool.cache.Suits pool.info)) := by
  constructor
  · have recalls := evaluator.recallsUnchecked trace
    exact ⟨evaluator.checksRows trace, recalls, recalls.shaped_iff⟩
  · refine ⟨pool.checksRows trace, fun uniform staffed => ?_⟩
    have recalls := pool.recallsUnchecked trace uniform staffed
    exact ⟨recalls, recalls.shaped_iff⟩

/-- A session of a function of one input and one output. -/
def narrow : Session :=
  ⟨.ofTable 2 "narrow" (Foreign.Script.standard.table (.inProcess 2)), ⟨2, 0⟩, ⟨1, 1, none⟩,
    .created, 0⟩

/-- The cache after another function has computed two values for a point. -/
def widened : Cache := (Evaluator.doubling.evaluate [⟨3⟩] []).2.1.cache

/-- A pool of that function on a cache that does not suit it. -/
theorem outputs_shaped_iff_cache_suits_narrow :
    (∀ worker ∈ [(⟨narrow, false⟩ : Worker)], worker.session.info = ⟨1, 1, none⟩) ∧
      ¬ShapesPoints ⟨1, 1, none⟩ (fun point =>
        (Pool.evaluate ⟨[⟨narrow, false⟩], widened, ⟨1, 1, none⟩, "narrow", .inOrder⟩ point
          []).1) := by
  have uniform : ∀ worker ∈ [(⟨narrow, false⟩ : Worker)], worker.session.info = ⟨1, 1, none⟩ := by
    simp [narrow]
  refine ⟨uniform, fun shaped => ?_⟩
  have suits := ((outputs_shaped_iff_cache_suits ⟨narrow, widened⟩
    ⟨[⟨narrow, false⟩], widened, ⟨1, 1, none⟩, "narrow", .inOrder⟩ []).2.2 uniform
      (by simp)).2.1 shaped
  have two : widened.peek [⟨3⟩] = some [⟨3⟩, ⟨3⟩] := by decide +kernel
  have one := suits [⟨3⟩] _ rfl two
  cases one

/-- One value is declared and two are answered, by an evaluator and by a pool, where a batch of the
same point is refused. -/
theorem recalled_point_of_two_values :
    narrow.info.outputDimension = 1 ∧
      (Evaluator.evaluate ⟨narrow, widened⟩ [⟨3⟩] []).1 = .ok [⟨3⟩, ⟨3⟩] ∧
      (Pool.evaluate ⟨[⟨narrow, false⟩], widened, narrow.info, "narrow", .inOrder⟩ [⟨3⟩] []).1 =
        .ok [⟨3⟩, ⟨3⟩] ∧
      (Evaluator.evaluateBatch ⟨narrow, widened⟩ ⟨1, [[⟨3⟩]], none, by simp⟩ []).1 =
        .error (Plan.wrongLength "narrow" 0 2 1) ∧
      (Pool.evaluateBatch ⟨[⟨narrow, false⟩], widened, narrow.info, "narrow", .inOrder⟩
        ⟨1, [[⟨3⟩]], none, by simp⟩ []).1 = .error (Plan.wrongLength "narrow" 0 2 1) := by
  refine ⟨rfl, ?_, ?_, ?_, ?_⟩ <;> with_unfolding_all rfl

end ForeignEval

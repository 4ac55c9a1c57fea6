import ForeignEval.Proofs.Batch.Idle
import ForeignEval.Proofs.Cache.Learning
import ForeignEval.Proofs.Session.Evaluating

/-!
# Evaluating a batch again

A memo of a function that has a value for every row answers a batch with the values, as often as it
is asked. How many points the function is asked for depends on the cache: a disabled one knows
nothing each time, and one with room for all rows knows everything after the first time.

* **Values** — `Memo.answered_of_faithful`: one evaluation.
* **Repeats** — `Memo.calls_again_of_disabled` and `Memo.calls_again_of_hasRoom`: the calls of many.
-/

namespace ForeignEval

open Foreign (Failure valued)

namespace Cache

variable {cache : Cache} {batch : Sample}

/-- Without entries to serve, each distinct row is missing. -/
theorem size_missing_of_served_nil (none : cache.served = []) :
    (cache.missing batch).size = batch.rows.dedup.length := by
  refine List.Perm.length_eq ((List.perm_ext_iff_of_nodup (cache.nodup_missing batch)
    (List.nodup_dedup _)).2 fun row => ?_)
  rw [mem_missing, none, List.mem_dedup]
  exact and_iff_left rfl

end Cache

namespace Memo

variable {binding : Binding} {info : FunctionInfo} {f : Point → Point} {batch : Sample}
  {memo : Memo}

/-- The cache of the values of the missing rows. -/
def computed (memo : Memo) (f : Point → Point) (batch : Sample) : Cache :=
  .ofOutputs (memo.cache.missing batch).rows ((memo.cache.missing batch).rows.map f)

/-- What is put together from the cache and the values of the missing rows. -/
def assembled (memo : Memo) (binding : Binding) (info : FunctionInfo) (f : Point → Point)
    (batch : Sample) : Except Error Sample × Cache :=
  Plan.assemble ⟨batch, batch.rows.map memo.cache.peek, memo.cache.missing batch⟩ binding.function
    info (memo.computed f batch) (memo.cache.countAll batch.rows)

theorem evaluateBatch_eq (linked : memo.cache.Linked)
    (right : batch.dimension = info.inputDimension) :
    memo.evaluateBatch binding info (valued f) batch =
      (.ofExcept (memo.assembled binding info f batch).1,
        ⟨(memo.assembled binding info f batch).2,
          memo.calls + (memo.cache.missing batch).size⟩) := by
  unfold Memo.evaluateBatch
  rw [if_pos right, Plan.make_eq linked]
  dsimp only
  rw [Foreign.mapM_valued]
  rfl

/-- A row that the cache does not serve is a missing one, so its value is computed. -/
theorem peek_or_computed (faithful : memo.cache.Faithful f) {row : Point} (mem : row ∈ batch.rows) :
    (memo.cache.peek row).or ((memo.computed f batch).peek row) = some (f row) := by
  cases found : memo.cache.peek row with
  | some value =>
    rw [faithful.value_of_peek found]
    rfl
  | none =>
    rw [faithful.toLinked.peek_eq_lookup] at found
    have missing := (memo.cache.mem_missing batch row).2 ⟨mem, found⟩
    have place := List.getElem?_idxOf missing
    have distinct := memo.cache.nodup_missing batch
    rw [Option.none_or]
    refine (Cache.peek_ofOutputs distinct (List.length_map f) row).trans ?_
    rw [List.getElem?_map, place]
    rfl

/-- If values have the declared dimension, the output is complete and consists of them. -/
theorem assembled_ok (binding : Binding) (faithful : memo.cache.Faithful f)
    (length : ∀ row ∈ batch.rows, (f row).length = info.outputDimension) :
    ∃ output, (memo.assembled binding info f batch).1 = .ok output ∧
      output.rows = batch.rows.map f := by
  have complete := @Plan.assemble_ok_iff binding.function info (memo.computed f batch)
    ⟨batch, batch.rows.map memo.cache.peek, memo.cache.missing batch⟩
    (memo.cache.countAll batch.rows)
  obtain ⟨output, ok⟩ := complete.2 <| by
    rw [zip_map_self, List.forall_mem_map]
    exact fun row mem => ⟨⟨f row, length row mem⟩, peek_or_computed faithful mem⟩
  have planned : ((Plan.make batch memo.cache).1.assemble binding.function info
      (memo.computed f batch) (memo.cache.countAll batch.rows)).1 = .ok output := by
    rw [Plan.make_eq faithful.toLinked]
    exact ok
  exact ⟨output, ok, faithful.rows_assemble (Cache.faithful_ofOutputs _) planned⟩

/-- What comes of a batch of which each row has a value. -/
structure Answered (binding : Binding) (info : FunctionInfo) (f : Point → Point) (batch : Sample)
    (memo : Memo) : Prop where
  output : ∃ output, (memo.evaluateBatch binding info (valued f) batch).1 = .ok output ∧
    output.rows = batch.rows.map f
  calls : (memo.evaluateBatch binding info (valued f) batch).2.calls =
    memo.calls + (memo.cache.missing batch).size
  faithful : (memo.evaluateBatch binding info (valued f) batch).2.cache.Faithful f
  disabled : memo.cache.enabled = false →
    (memo.evaluateBatch binding info (valued f) batch).2.cache = memo.cache
  recalls : memo.cache.HasRoom batch.rows → Recalls info batch memo.cache
    (memo.evaluateBatch binding info (valued f) batch).2.cache
    (memo.evaluateBatch binding info (valued f) batch).1

variable (right : batch.dimension = info.inputDimension)
  (length : ∀ row ∈ batch.rows, (f row).length = info.outputDimension)

include right length

/-- A memo answers the values, and asks the function for what the cache does not have. -/
theorem answered_of_faithful (binding : Binding) (faithful : memo.cache.Faithful f) :
    Answered binding info f batch memo := by
  have evaluated : memo.evaluateBatch binding info (valued f) batch = _ :=
    evaluateBatch_eq faithful.toLinked right
  have computed : (memo.computed f batch).Faithful f := Cache.faithful_ofOutputs _
  obtain ⟨output, ok, rows⟩ := assembled_ok binding faithful length
  constructor
  case output =>
    rw [evaluated]
    exact ⟨output, Reply.ofExcept_eq_ok_iff.2 ok, rows⟩
  case calls => rw [evaluated]
  case faithful =>
    rw [evaluated]
    exact (faithful.countAll batch.rows).assemble computed _
  case disabled =>
    intro disabled
    obtain ⟨-, -, -, merged⟩ := Plan.assemble_ok ok
    rw [evaluated]
    refine merged.trans ?_
    rw [Cache.countAll_of_disabled disabled]
    exact (Cache.idle_of_disabled disabled).merge _
  case recalls =>
    intro hasRoom
    have within : (memo.computed f batch).Within (memo.cache.missing batch).rows :=
      .ofOutputs (List.Subset.refl _) _
    rw [evaluated]
    exact Plan.recalls_assemble hasRoom within right

/-! ## Repeats -/

omit right length in
/-- The memo after a batch was evaluated so often. -/
def again (binding : Binding) (info : FunctionInfo) (F : Point → Except Failure Point)
    (batch : Sample) : (times : Nat) → Memo → Memo
  | 0, memo => memo
  | times + 1, memo => again binding info F batch times (memo.evaluateBatch binding info F batch).2

/-- With a disabled cache all distinct rows are asked for each time. -/
theorem calls_again_of_disabled (faithful : memo.cache.Faithful f)
    (disabled : memo.cache.enabled = false) (times : Nat) :
    (again binding info (valued f) batch times memo).calls =
      memo.calls + times * batch.rows.dedup.length := by
  induction times generalizing memo with
  | zero => rw [again, Nat.zero_mul, Nat.add_zero]
  | succ times ih =>
    have answered := answered_of_faithful right length binding faithful
    have kept := answered.disabled disabled
    have none : memo.cache.served = [] := by
      unfold Cache.served
      rw [disabled]
      rfl
    have rest := ih answered.faithful (kept ▸ disabled)
    rw [again, rest, answered.calls, Cache.size_missing_of_served_nil none, Nat.succ_mul]
    omega

/-- A batch whose rows are all known is not asked for any more. -/
theorem calls_again_of_known (binding : Binding) (faithful : memo.cache.Faithful f)
    (hasRoom : memo.cache.HasRoom batch.rows)
    (known : ∀ row ∈ batch.rows, (memo.cache.peek row).isSome = true) (times : Nat) :
    (again binding info (valued f) batch times memo).calls = memo.calls := by
  induction times generalizing memo with
  | zero => rfl
  | succ times ih =>
    have answered := answered_of_faithful right length binding faithful
    have learned := (answered.recalls hasRoom).learned
    have none := Cache.missing_of_known hasRoom.toLinked known
    have size : (memo.cache.missing batch).size = 0 := congrArg List.length none
    have known' : ∀ row ∈ batch.rows, ((memo.evaluateBatch binding info (valued f)
        batch).2.cache.peek row).isSome = true := by
      intro row mem
      obtain ⟨value, found⟩ := Option.isSome_iff_exists.1 (known row mem)
      rw [learned.kept row value found]
      rfl
    have rest := ih answered.faithful (hasRoom.of_learned learned (List.Subset.refl _)) known'
    rw [again, rest, answered.calls, size, Nat.add_zero]

/-- With room for all rows they are asked for the first time only, and only those which are
missing. -/
theorem calls_again_of_hasRoom (faithful : memo.cache.Faithful f)
    (hasRoom : memo.cache.HasRoom batch.rows) (more : Nat) :
    (again binding info (valued f) batch (more + 1) memo).calls =
      memo.calls + (memo.cache.missing batch).size := by
  have answered := answered_of_faithful right length binding faithful
  have recalls := answered.recalls hasRoom
  obtain ⟨output, ok, -⟩ := answered.output
  obtain ⟨-, -, served⟩ := recalls.served output ok
  -- the output consists of what the cache serves
  have known : ∀ row ∈ batch.rows, ((memo.evaluateBatch binding info (valued f)
      batch).2.cache.peek row).isSome = true := by
    intro row mem
    have there := List.mem_map_of_mem (f := (memo.evaluateBatch binding info (valued f)
      batch).2.cache.peek) mem
    rw [← served] at there
    obtain ⟨value, -, same⟩ := List.mem_map.1 there
    rw [← same]
    rfl
  have rest := calls_again_of_known right length binding answered.faithful
    (hasRoom.of_learned recalls.learned (List.Subset.refl _)) known more
  rw [again, rest, answered.calls]

end Memo

end ForeignEval

import ForeignEval.Foreign.Demonstration
import ForeignEval.Proofs.Foreign.RowWise
import ForeignEval.Proofs.Foreign.Stage

/-!
# Functions that evaluate rows

A foreign function **evaluates** rows if it never fails with a state that is used in order, and
answers each of the rows with its value. Nothing is said about other rows or calls out of order: a
function may refuse to evaluate with a state that was not prepared, or to prepare one twice.

* **Stages** — `Table.At`: how far a state has come.
* **Evaluating** — `Table.Evaluates`: what such a function answers at each stage.
* **Rows** — `Table.AnswersTogether` and `Table.AnswersRows` are about evaluations only: of rows
  together, and of each of them alone as well.
* **Demonstration** — `Demonstration.evaluates_sum`: the sum, which does check that states have been
  prepared.
-/

namespace ForeignEval.Foreign

/-- A state has come to a stage. -/
def Table.At (table : Table) (trace : Trace) (state : Nat) (stage : Stage) : Prop :=
  Stage.Run state .unborn (trace.lifeOf (table.idOf state)) stage

/-- A function that works with every state that is used in order, and answers these rows with their
values. -/
structure Table.Evaluates (table : Table) (info : FunctionInfo) (f : Point → Point)
    (rows : List Point) : Prop where
  created : ∀ trace, table.onCreate trace = .ok ()
  /-- Every state is told the same dimensions. -/
  told : ∀ trace state, table.At trace state .born → table.onInfo trace state = .ok info
  prepared : ∀ trace state, table.At trace state (.fresh info) →
    table.onInit trace state = .value ()
  /-- Of any of the rows, in any order, the buffer holds the values afterwards; what is not written
  stays zero. -/
  batch : ∀ trace state chunk, table.At trace state (.ready info) → chunk ≠ [] → chunk ⊆ rows →
    ∃ values, table.onExecBatch trace state chunk.length info.inputDimension chunk.flatten
        info.outputDimension (chunk.length * info.outputDimension) = .value values ∧
      written (info.outputDimension * chunk.length) values = (chunk.map f).flatten
  length : ∀ row ∈ rows, (f row).length = info.outputDimension
  finalized : ∀ trace state stage, table.At trace state stage → stage.IsOpen →
    table.onFinalize trace state = .ok ()

/-! ## Rows -/

/-- A function that can be prepared and answers any of these rows, together, with their values. -/
structure Table.AnswersTogether (table : Table) (info : FunctionInfo) (f : Point → Point)
    (rows : List Point) : Prop where
  prepared : ∀ trace state, table.At trace state (.fresh info) →
    table.onInit trace state = .value ()
  batch : ∀ trace state chunk, table.At trace state (.ready info) → chunk ≠ [] → chunk ⊆ rows →
    ∃ values, table.onExecBatch trace state chunk.length info.inputDimension chunk.flatten
        info.outputDimension (chunk.length * info.outputDimension) = .value values ∧
      written (info.outputDimension * chunk.length) values = (chunk.map f).flatten
  length : ∀ row ∈ rows, (f row).length = info.outputDimension

theorem Table.Evaluates.together {table : Table} {info : FunctionInfo} {f : Point → Point}
    {rows : List Point} (evaluates : table.Evaluates info f rows) :
    table.AnswersTogether info f rows :=
  ⟨evaluates.prepared, evaluates.batch, evaluates.length⟩

/-- A function that can be prepared and answers each of these rows with its value, alone or together
with others. -/
structure Table.AnswersRows (table : Table) (info : FunctionInfo) (f : Point → Point)
    (rows : List Point) : Prop extends table.AnswersTogether info f rows where
  point : ∀ trace state, table.At trace state (.ready info) → ∀ row ∈ rows,
    ∃ values, table.onExec trace state row info.outputDimension = .value values ∧
      written info.outputDimension values = f row

/-- A row-wise function answers the rows at which it does not fail. -/
theorem Table.RowWise.answersRows {table : Table} {info : FunctionInfo}
    {F : Point → Except Failure Point} (rowWise : table.RowWise info F) {f : Point → Point}
    {rows : List Point} (right : ∀ row ∈ rows, row.length = info.inputDimension)
    (fine : ∀ row ∈ rows, F row = .ok (f row)) : table.AnswersRows info f rows where
  prepared trace state _ := rowWise.prepared trace state
  length row mem := rowWise.length row (f row) (right row mem) (fine row mem)
  batch trace state chunk _ some sub := by
    have answered := rowWise.batch trace state chunk some fun row mem => right row (sub mem)
    have outputs : chunk.mapM F = .ok (chunk.map f) := by
      clear some answered
      induction chunk with
      | nil => rfl
      | cons row chunk ih =>
        obtain ⟨first, others⟩ := List.cons_subset.1 sub
        rw [List.mapM_cons, fine row first, ih others]
        rfl
    have lengths : ∀ value ∈ chunk.map f, value.length = info.outputDimension :=
      List.forall_mem_map.2 fun row mem =>
        rowWise.length row (f row) (right row (sub mem)) (fine row (sub mem))
    rw [outputs] at answered
    refine ⟨(chunk.map f).flatten, answered, written_of_length_eq ?_⟩
    rw [length_flatten_rows lengths, List.length_map]
  point trace state _ row mem := by
    have answered := rowWise.point trace state row (right row mem)
    rw [fine row mem] at answered
    exact ⟨f row, answered, written_of_length_eq
      (rowWise.length row (f row) (right row mem) (fine row mem))⟩

/-! ## Demonstration -/

namespace Demonstration

/-- The sum of a point's first two values, as a point. -/
def sumRow (point : Point) : Point :=
  [((point[0]?).getD Double.zero).add ((point[1]?).getD Double.zero)]

/-- A state that is ready has been prepared under its source. -/
theorem isPrepared_of_at {table : Table} {trace : Trace} {state : Nat} {info : FunctionInfo}
    (ready : table.At trace state (.ready info)) :
    isPrepared trace table.source state = true := by
  obtain ⟨work, life, -, prepared⟩ := Stage.Run.shape ready
  have mem : (Call.init state, Ending.returned) ∈ trace.lifeOf (table.idOf state) :=
    life ▸ List.mem_append_right _ prepared
  obtain ⟨called, -⟩ := Trace.mem_lifeOf.1 mem
  unfold isPrepared Trace.callsOf
  refine List.any_eq_true.2 ⟨.init state, List.mem_filterMap.2 ⟨_, called, ?_⟩, beq_self_eq_true _⟩
  exact if_pos rfl

theorem sumOf_of_numbers {row : Point} (right : row.length = 2)
    (numbers : ∀ x ∈ row, x.isNaN = false) :
    sumOf true row =
      .ok (((row[0]?).getD Double.zero).add ((row[1]?).getD Double.zero)) := by
  match row, right with
  | [a, b], _ =>
    have first : a.isNaN = false := numbers a List.mem_cons_self
    have second : b.isNaN = false := numbers b (List.mem_cons_of_mem _ List.mem_cons_self)
    simp [sumOf, first, second]

theorem sumsOf_of_numbers {rows : List Point} (right : ∀ row ∈ rows, row.length = 2)
    (numbers : ∀ row ∈ rows, ∀ x ∈ row, x.isNaN = false) :
    sumsOf true rows = (.fine, (rows.map sumRow).flatten) := by
  induction rows with
  | nil => rfl
  | cons row rows ih =>
    obtain ⟨first, others⟩ := List.forall_mem_cons.1 right
    obtain ⟨first', others'⟩ := List.forall_mem_cons.1 numbers
    rw [sumsOf, sumOf_of_numbers first first', ih others others']
    rfl

theorem text_encode_description : CString.text (Text.Utf8.encode "a + b") = "a + b" := by
  decide +kernel

/-- The demonstration's sum evaluates rows in which all values are numbers. -/
theorem evaluates_sum (source : Source) (library : Nat) {rows : List Point}
    (right : ∀ row ∈ rows, row.length = 2)
    (numbers : ∀ row ∈ rows, ∀ x ∈ row, x.isNaN = false) :
    ((sum source).table source library).Evaluates ⟨2, 1, some "a + b"⟩ sumRow rows where
  created _ := rfl
  told _ _ _ := by
    show Except.ok (FunctionInfo.mk 2 1 (some (CString.text (Text.Utf8.encode "a + b")))) = _
    rw [text_encode_description]
  prepared _ _ _ := rfl
  batch trace state chunk ready _ sub := by
    have right' : ∀ row ∈ chunk, row.length = 2 := fun row mem => right row (sub mem)
    have prepared : isPrepared trace source state = true := isPrepared_of_at ready
    have sums : sumsOf true chunk = (.fine, (chunk.map sumRow).flatten) :=
      sumsOf_of_numbers right' fun row mem => numbers row (sub mem)
    have lengths : ∀ value ∈ chunk.map sumRow, value.length = 1 :=
      List.forall_mem_map.2 fun _ _ => rfl
    refine ⟨(chunk.map sumRow).flatten, ?_, ?_⟩
    · show (sumsOf (isPrepared trace source state)
          (splitRows 2 chunk.length chunk.flatten)).1.answer
        (sumsOf (isPrepared trace source state) (splitRows 2 chunk.length chunk.flatten)).2 = _
      rw [prepared, splitRows_flatten right', sums]
      rfl
    · refine written_of_length_eq ?_
      rw [length_flatten_rows lengths, List.length_map]
  length _ _ := rfl
  finalized _ _ _ _ _ := rfl

end Demonstration

end ForeignEval.Foreign

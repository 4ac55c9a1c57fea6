import ForeignEval.Proofs.Foreign.RowWise
import ForeignEval.Proofs.Session.Frame

/-!
# Sessions that compute a function

A table **computes** a function on points when every answer that it gives is right, whether or not
it gives one. A session on it may be in any phase and may fail at any time; an output that it
returns is right.

* **Tables** — `RowWise.computes`: a row-wise table computes what its rows are mapped to.
* **Invariant** — `Session.Computes.later`: a session computes the same function for all time.
* **Outputs** — `Session.Computes.evaluate` and `Session.Computes.evaluateBatch`.
-/

namespace ForeignEval

open Foreign (Failure Table Trace)

/-- What a table writes for points of a dimension are the values of a function. -/
structure Foreign.Table.Computes (table : Table) (inputs outputs : Nat) (F : Point → Point) :
    Prop where
  /-- Values have the output dimension. -/
  length : ∀ point, point.length = inputs → (F point).length = outputs
  /-- The buffer for a point holds its value. -/
  point : ∀ trace state point values, point.length = inputs →
    table.onExec trace state point outputs = .value values → written outputs values = F point
  /-- The buffer for rows holds their values in order. -/
  batch : ∀ trace state rows values, rows ≠ [] → (∀ row ∈ rows, row.length = inputs) →
    table.onExecBatch trace state rows.length inputs rows.flatten outputs
      (rows.length * outputs) = .value values →
    written (outputs * rows.length) values = (rows.map F).flatten

/-- A row-wise table computes the function with which its rows agree. -/
theorem Foreign.Table.RowWise.computes {table : Table} {info : FunctionInfo}
    {rowOf : Point → Except Failure Point} (rowWise : table.RowWise info rowOf)
    {F : Point → Point} (agree : ∀ point value, rowOf point = .ok value → value = F point)
    (length : ∀ point, point.length = info.inputDimension →
      (F point).length = info.outputDimension) :
    table.Computes info.inputDimension info.outputDimension F where
  length := length
  point trace state point values right answered := by
    rw [rowWise.point trace state point right] at answered
    cases answer : rowOf point with
    | error failure =>
      rw [answer] at answered
      cases answered
    | ok value =>
      rw [answer] at answered
      cases answered
      rw [written_of_length_eq (rowWise.length point values right answer)]
      exact agree point values answer
  batch trace state rows values some right answered := by
    rw [rowWise.batch trace state rows some right] at answered
    cases answer : rows.mapM rowOf with
    | error failure =>
      rw [answer] at answered
      cases answered
    | ok outputs =>
      rw [answer] at answered
      cases answered
      have belong := Foreign.forall₂_of_mapM_ok answer
      have values : rows.map F = outputs := by
        have same := List.forall₂_map_left_iff.2 (belong.imp fun row output ok =>
          (agree row output ok).symm)
        exact List.forall₂_eq_eq_eq ▸ same
      have shape : ∀ output ∈ rows.map F, output.length = info.outputDimension := by
        rw [List.forall_mem_map]
        exact fun row mem => length row (right row mem)
      rw [← values, ← List.length_map F, written_of_length_eq (length_flatten_rows shape)]

theorem Foreign.Script.computes_table {script : Foreign.Script} (steady : script.Steady)
    (source : Foreign.Source) :
    (script.table source).Computes script.inputs script.outputs
      fun point => script.output 0 point script.outputs := by
  refine (Foreign.Script.rowWise_table steady source).computes ?_ ?_
  · intro point value ok
    unfold Foreign.Script.rowOf at ok
    split at ok <;> cases ok
    rfl
  · exact fun point _ => (List.length_map _).trans List.length_range

namespace Session

variable {inputs outputs : Nat} {F : Point → Point} {session : Session}

/-- A session whose table computes a function of the dimensions that the session was told. -/
structure Computes (inputs outputs : Nat) (F : Point → Point) (session : Session) : Prop where
  /-- The table computes the function. -/
  table : session.binding.table.Computes inputs outputs F
  /-- The input dimension is that of the function, -/
  input_eq : session.info.inputDimension = inputs
  /-- and so is the output dimension. -/
  output_eq : session.info.outputDimension = outputs

namespace Computes

variable (computes : session.Computes inputs outputs F)

include computes

/-- What a session computes depends on its owner only. -/
theorem later {later : Session} (same : session.SameOwner later) :
    later.Computes inputs outputs F where
  table := by
    rw [same.binding]
    exact computes.table
  input_eq := by rw [same.info, computes.input_eq]
  output_eq := by rw [same.info, computes.output_eq]

/-- An output for a point is its value. -/
theorem evaluate {point value : Point} {trace : Trace}
    (ok : (session.evaluate point trace).1 = .ok value) : value = F point := by
  by_cases right : point.length = session.info.inputDimension
  · rw [session.evaluate_of_length trace right] at ok
    obtain ⟨later, called, -⟩ := session.evaluateWith_ok trace ok
    obtain ⟨values, answered, rfl, -⟩ := execute_ok later called
    have length : point.length = inputs := right.trans computes.input_eq
    rw [show ({ session with phase := .ready } : Session).info.outputDimension = outputs from
      computes.output_eq] at answered ⊢
    exact computes.table.point later _ point values length answered
  · have wrong : session.checkPoint point =
        some (mismatch session.function session.info point.length point) := if_neg right
    unfold Session.evaluate at ok
    rw [wrong] at ok
    cases ok

theorem evaluateBatch {batch output : Sample} {trace : Trace}
    (ok : (session.evaluateBatch batch trace).1 = .ok output) :
    output.rows = batch.rows.map F := by
  by_cases right : batch.dimension = session.info.inputDimension
  · by_cases empty : batch.isEmpty = true
    · rw [session.evaluateBatch_of_isEmpty trace right empty] at ok
      cases ok
      rw [List.isEmpty_iff.1 empty]
      rfl
    · rw [session.evaluateBatch_of_rows trace right empty] at ok
      cases evaluated : (session.evaluateRows batch trace).1 with
      | error | panic =>
        rw [evaluated] at ok
        cases ok
      | ok raw =>
        rw [evaluated] at ok
        cases ok
        obtain ⟨later, values, answered, rfl, -⟩ := session.evaluateRows_ok trace evaluated
        have lengths : ∀ row ∈ batch.rows, row.length = inputs := fun row mem =>
          (batch.length_of_mem row mem).trans (right.trans computes.input_eq)
        rw [right.trans computes.input_eq, computes.output_eq] at answered
        have buffer := computes.table.batch later _ batch.rows values
          (mt List.isEmpty_iff.2 empty) lengths answered
        have shape : ∀ value ∈ batch.rows.map F, value.length = outputs := by
          rw [List.forall_mem_map]
          exact fun row mem => computes.table.length row (lengths row mem)
        show splitRows session.info.outputDimension batch.size (written _ values) = _
        rw [computes.output_eq]
        show splitRows outputs batch.rows.length (written (outputs * batch.rows.length) values) = _
        rw [buffer, ← List.length_map F, splitRows_flatten shape]
  · rw [session.evaluateBatch_of_wrong trace right] at ok
    cases ok

end Computes

end Session

end ForeignEval

import ForeignEval.Binding
import ForeignEval.Foreign.Script
import Mathlib.Data.List.Forall2

/-!
# Functions that work row by row

A foreign function is **row-wise** when its answer for a point depends on the point alone, and its
answer for a batch is made of the answers for its rows: all outputs, or the first failure. It does
not matter then in which state, when, and together with which other rows a point is evaluated.

* **Rows** — `forall₂_of_mapM_ok`: outputs belong to the rows one by one;
  `exists_of_mapM_error`: a failure is that of a row.
* **Scripts** — `Script.rowWise_table`: a script is row-wise unless it counts points, cannot be
  prepared or asked, or unwinds.
-/

namespace ForeignEval.Foreign

/-- An answer that does not unwind. -/
def Answer.ofExcept {α : Type} : Except Failure α → Answer α
  | .ok result => .value result
  | .error failure => .failed failure

/-- A table answers for each row by itself. -/
structure Table.RowWise (table : Table) (info : FunctionInfo)
    (F : Point → Except Failure Point) : Prop where
  /-- Every state is told the same dimensions. -/
  told : ∀ trace state, table.onInfo trace state = .ok info
  /-- Every state can be prepared. -/
  prepared : ∀ trace state, table.onInit trace state = .value ()
  /-- A point is answered by the function. -/
  point : ∀ trace state point, point.length = info.inputDimension →
    table.onExec trace state point info.outputDimension = .ofExcept (F point)
  /-- Rows are answered by the function, one after the other. -/
  batch : ∀ trace state rows, rows ≠ [] → (∀ row ∈ rows, row.length = info.inputDimension) →
    table.onExecBatch trace state rows.length info.inputDimension rows.flatten
      info.outputDimension (rows.length * info.outputDimension) =
        .ofExcept ((rows.mapM F).map List.flatten)
  /-- Outputs have the declared dimension. -/
  length : ∀ point value, point.length = info.inputDimension → F point = .ok value →
    value.length = info.outputDimension
  /-- A failure leaves the state usable. -/
  usable : ∀ point failure, point.length = info.inputDimension → F point = .error failure →
    failure.status ≠ .stateCorrupted

/-! ## Rows -/

section Rows

variable {α β ε : Type} {f : α → Except ε β}

theorem forall₂_of_mapM_ok {l : List α} {values : List β} (ok : l.mapM f = .ok values) :
    List.Forall₂ (fun a value => f a = .ok value) l values := by
  induction l generalizing values with
  | nil =>
    cases ok
    exact .nil
  | cons a l ih =>
    rw [List.mapM_cons] at ok
    cases first : f a with
    | error e =>
      rw [first] at ok
      cases ok
    | ok value =>
      cases rest : l.mapM f with
      | error e =>
        rw [first, rest] at ok
        cases ok
      | ok others =>
        rw [first, rest] at ok
        cases ok
        exact .cons first (ih rest)

theorem exists_of_mapM_error {l : List α} {e : ε} (failed : l.mapM f = .error e) :
    ∃ a ∈ l, f a = .error e := by
  induction l with
  | nil => cases failed
  | cons a l ih =>
    rw [List.mapM_cons] at failed
    cases first : f a with
    | error e' =>
      rw [first] at failed
      cases failed
      exact ⟨a, List.mem_cons_self, first⟩
    | ok value =>
      cases rest : l.mapM f with
      | error e' =>
        rw [first, rest] at failed
        cases failed
        obtain ⟨b, mem, failed⟩ := ih rest
        exact ⟨b, List.mem_cons_of_mem a mem, failed⟩
      | ok others =>
        rw [first, rest] at failed
        cases failed

end Rows

/-! ## Scripts -/

namespace Script

variable (script : Script)

/-- What a script that does not count points answers for one. -/
def rowOf (point : Point) : Except Failure Point :=
  match script.refusal? point with
  | some (.report report) => .error (failureOf report)
  | some (.panic text) => .error ⟨.panic, text⟩
  | none => .ok (script.output 0 point script.outputs)

/-- A script answers for each row by itself. -/
structure Steady : Prop where
  /-- Outputs do not depend on how many points were evaluated before. -/
  formula : script.formula ≠ .count
  /-- Dimensions are always told. -/
  info : script.info = []
  /-- States can always be prepared. -/
  init : script.init = []
  /-- Rules do not unwind and leave the state usable. -/
  rules : ∀ rule ∈ script.rules, ∃ report, rule.effect = .report report ∧
    CallStatus.ofCode report.code ≠ .stateCorrupted

variable {script} (steady : script.Steady)

include steady

theorem output_eq (before : Nat) (point : Point) (outputs : Nat) :
    script.output before point outputs = script.output 0 point outputs := by
  unfold output
  refine List.map_congr_left fun index _ => ?_
  unfold value
  cases formula : script.formula with
  | count => exact absurd formula steady.formula
  | sum | echo | nothing => rfl

/-- A point is refused with a report after which the state is usable. -/
theorem refusal?_cases (point : Point) :
    script.refusal? point = none ∨
      ∃ report, script.refusal? point = some (.report report) ∧
        CallStatus.ofCode report.code ≠ .stateCorrupted := by
  unfold refusal?
  cases found : script.rules.find? (·.appliesTo point) with
  | none => exact .inl rfl
  | some rule =>
    obtain ⟨report, effect, usable⟩ := steady.rules rule (List.mem_of_find?_eq_some found)
    refine .inr ⟨report, ?_, usable⟩
    rw [Option.map_some, effect]

/-- The outputs for rows are those of the rows, up to the first that is refused. -/
theorem outputsFor_eq (before : Nat) (rows : List Point) :
    match rows.mapM script.rowOf with
    | .ok values => script.outputsFor script.outputs before rows = (values.flatten, none)
    | .error failure => ∃ values report, failureOf report = failure ∧
        script.outputsFor script.outputs before rows = (values, some (.report report)) := by
  induction rows generalizing before with
  | nil => rfl
  | cons row rows ih =>
    rw [List.mapM_cons, outputsFor]
    rcases refusal?_cases steady row with fine | ⟨report, refused, -⟩
    · have first : script.rowOf row = .ok (script.output 0 row script.outputs) := by
        rw [rowOf, fine]
      have rest := ih (before + 1)
      rw [fine, first, output_eq steady before]
      cases others : rows.mapM script.rowOf with
      | error failure =>
        rw [others] at rest
        obtain ⟨values, report, same, later⟩ := rest
        rw [later]
        exact ⟨_, report, same, rfl⟩
      | ok values =>
        rw [others] at rest
        rw [show script.outputsFor script.outputs (before + 1) rows = _ from rest]
        rfl
    · have first : script.rowOf row = .error (failureOf report) := by
        rw [rowOf, refused]
      rw [refused, first]
      exact ⟨[], report, rfl, rfl⟩

theorem answerOf_outputsFor (before : Nat) (rows : List Point) :
    answerOf (script.outputsFor script.outputs before rows).1
        (script.outputsFor script.outputs before rows).2 =
      .ofExcept ((rows.mapM script.rowOf).map List.flatten) := by
  have outputs := outputsFor_eq steady before rows
  cases answered : rows.mapM script.rowOf with
  | error failure =>
    rw [answered] at outputs
    obtain ⟨values, report, rfl, same⟩ := outputs
    rw [same]
    rfl
  | ok values =>
    rw [answered] at outputs
    rw [show script.outputsFor script.outputs before rows = _ from outputs]
    rfl

/-- A steady script is row-wise. -/
theorem rowWise_table (source : Source) :
    (script.table source).RowWise
      ⟨script.inputs, script.outputs, script.description.map Text.Utf8.decodeLossy⟩
      script.rowOf where
  told trace state := by
    simp only [table, steady.info]
    rfl
  prepared trace state := by
    simp only [table, steady.init]
    rfl
  point trace state point _ := by
    have answer := answerOf_outputsFor steady (script.evaluated trace source state) [point]
    refine Eq.trans ?_ (answer.trans ?_)
    · rfl
    · rw [List.mapM_cons]
      cases script.rowOf point with
      | error failure => rfl
      | ok value =>
        show Answer.ofExcept (.ok [value].flatten) = _
        rw [List.flatten_singleton]
  batch trace state rows _ right := by
    have answer := answerOf_outputsFor steady (script.evaluated trace source state) rows
    show answerOf (script.outputsFor _ _ (splitRows script.inputs rows.length rows.flatten)).1
      (script.outputsFor _ _ (splitRows script.inputs rows.length rows.flatten)).2 = _
    rw [splitRows_flatten right]
    exact answer
  length point value _ ok := by
    unfold rowOf at ok
    split at ok
    · cases ok
    · cases ok
    · cases ok
      exact (List.length_map _).trans List.length_range
  usable point failure _ failed := by
    unfold rowOf at failed
    rcases refusal?_cases steady point with fine | ⟨report, refused, usable⟩
    · rw [fine] at failed
      cases failed
    · rw [refused] at failed
      cases failed
      exact usable

/-- A script that writes its input twice and refuses one point. -/
def choosy : Script :=
  { standard with
    outputs := 2
    formula := .echo
    rules := [⟨some ⟨7⟩, .report (.failing (-1) "seven")⟩] }

omit steady in
theorem steady_choosy : choosy.Steady where
  formula := by decide
  info := rfl
  init := rfl
  rules rule mem := by
    rw [List.mem_singleton.1 mem]
    exact ⟨_, rfl, by decide⟩

end Script

end ForeignEval.Foreign

namespace ForeignEval

/-- That function, bound in this process. -/
def choosyBinding : Binding :=
  .ofTable 1 "choosy" (Foreign.Script.choosy.table (.inProcess 1))

end ForeignEval

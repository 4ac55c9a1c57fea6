import ForeignEval.Proofs.Batch.Appending
import ForeignEval.Proofs.Json.Samples

/-!
# The shape of samples

Whatever storage comes about, however it came about, has as many values as its rows need: by the
operations that are open to all, from a text, by planning, assembly and chunking. Planning and
assembly append what they do not measure, chunks are cut out without looking at rows, and a text
says a number of rows that need not be the right one; still nothing is ever read from where there
are no values. Numbers do not wrap around here, so this is about dimensions and numbers of rows whose
product fits into 64 bits.

* **Texts** — `Storage.reader`, and `Storage.readDocument_of_isTyped` for objects of the right kinds.
* **Obtained** — `Storage.Obtained`; `Storage.Obtained.exists_sample`, one case per operation.
* **Shape** — `Storage.Shaped`: what a storage that fits gives; `Sample.shaped_stored`.
* **Together** — `storage_shape`.
-/

namespace ForeignEval

namespace Storage

/-! ## Texts -/

/-- What the members that were read are stored as. -/
def build (parts : Sample.Parts) : Except Json.ReadError Storage :=
  let dimension := parts.dimension.getD 0
  let size := parts.size.getD 0
  let values := parts.values.getD []
  match ofFlat? dimension size values with
  | some st => .ok (st.withDescription (parts.description.getD none))
  | none => .error (.wrongCount values.length size dimension)

/-- Reads a sample into its storage. -/
def reader : Json.Reader Storage := (Sample.shape.rebuild build).read

theorem build_eq (parts : Sample.Parts) :
    build parts = (Sample.shape.build parts).map Sample.stored := by
  unfold build Sample.shape
  dsimp only
  rw [ofFlat?_eq]
  cases Sample.ofFlat? _ _ _ <;> rfl

/-- What is read from a text is the storage of the sample that is read from it. -/
theorem readDocument_eq (text : String) :
    Json.readDocument reader text = (Json.readDocument Sample.reader text).map Sample.stored :=
  Json.Shape.readDocument_rebuild build_eq text

/-- An object whose members are of the right kinds is accepted if there are as many values as its
rows need. -/
theorem readDocument_of_isTyped {dimension size : Nat} {values : List Double}
    {description : Option (Option String)} {text : String}
    (typed : Sample.shape.IsTyped ⟨some dimension, some size, some values, description⟩ text) :
    Json.readDocument reader text =
      if values.length = dimension * size then
        .ok ⟨dimension, size, values, description.getD none⟩
      else .error (.wrongCount values.length size dimension) := by
  rw [readDocument_eq, Sample.reader, typed.readDocument, ← build_eq]
  unfold build ofFlat?
  dsimp only [Option.getD_some]
  by_cases fits : values.length = dimension * size
  · rw [if_neg (not_not_intro fits), if_pos fits]
    rfl
  · rw [if_pos fits, if_neg fits]

/-! ## Obtained -/

/-- The storages that come about. -/
inductive Obtained : Storage → Prop
  | empty (dimension : Nat) : Obtained (empty dimension)
  | withCapacity (dimension rows : Nat) : Obtained (withCapacity dimension rows)
  | ofFlat {dimension size : Nat} {values : List Double} {st : Storage}
      (accepted : ofFlat? dimension size values = some st) : Obtained st
  | ofRows {dimension : Nat} {rows : List Point} {st : Storage}
      (accepted : ofRows dimension rows = .ok st) : Obtained st
  | withDescription {st : Storage} (obtained : Obtained st) (description : Option String) :
      Obtained (st.withDescription description)
  | read {text : String} {st : Storage} (accepted : Json.readDocument reader text = .ok st) :
      Obtained st
  /-- The rows of a batch that a plan has to compute. -/
  | planned {batch unknown : Storage} {known : List (Option Point)} {cache later : Cache}
      (obtained : Obtained batch) (planned : batch.plan? cache = some (known, unknown, later)) :
      Obtained unknown
  /-- The output of a batch, whatever was known of its rows and whatever was computed. -/
  | assembled {batch output : Storage} {known : List (Option Point)} {function : String}
      {info : FunctionInfo} {fresh cache later : Cache} (obtained : Obtained batch)
      (assembled : batch.assemble? function info fresh known cache = some (.ok output, later)) :
      Obtained output
  | piece {st piece : Storage} {rows : Nat} (obtained : Obtained st) (mem : piece ∈ st.pieces rows) :
      Obtained piece

/-- Each of them is the storage of a sample. -/
theorem Obtained.exists_sample {st : Storage} (obtained : Obtained st) :
    ∃ s : Sample, s.stored = st := by
  induction obtained with
  | empty dimension => exact ⟨Sample.empty dimension, rfl⟩
  | withCapacity dimension rows => exact ⟨Sample.empty dimension, rfl⟩
  | ofFlat accepted =>
    rw [ofFlat?_eq] at accepted
    obtain ⟨s, -, same⟩ := Option.map_eq_some_iff.1 accepted
    exact ⟨s, same⟩
  | @ofRows dimension rows st accepted =>
    rw [ofRows_eq] at accepted
    cases made : Sample.ofRows dimension rows with
    | error index => rw [made] at accepted; cases accepted
    | ok s => rw [made] at accepted; exact ⟨s, Except.ok.inj accepted⟩
  | withDescription _ description ih =>
    obtain ⟨s, rfl⟩ := ih
    exact ⟨s.withDescription description, rfl⟩
  | @read text st accepted =>
    rw [readDocument_eq] at accepted
    cases found : Json.readDocument Sample.reader text with
    | error e => rw [found] at accepted; cases accepted
    | ok s => rw [found] at accepted; exact ⟨s, Except.ok.inj accepted⟩
  | planned _ planned ih =>
    obtain ⟨batch, rfl⟩ := ih
    rw [plan?_stored] at planned
    exact ⟨_, congrArg (·.2.1) (Option.some.inj planned)⟩
  | @assembled _ output known function info fresh cache later _ assembled ih =>
    obtain ⟨batch, rfl⟩ := ih
    -- which rows were unknown does not matter any more
    have whole := assemble?_stored function info fresh ⟨batch, known, batch⟩ cache
    rw [assembled] at whole
    have reply := congrArg Prod.fst (Option.some.inj whole)
    cases made : (Plan.assemble ⟨batch, known, batch⟩ function info fresh cache).1 with
    | error e => rw [made] at reply; cases reply
    | ok s => rw [made] at reply; exact ⟨s, (Except.ok.inj reply).symm⟩
  | @piece _ piece rows _ mem ih =>
    obtain ⟨s, rfl⟩ := ih
    rw [Sample.pieces_stored] at mem
    obtain ⟨part, -, same⟩ := List.mem_map.1 mem
    exact ⟨part, same⟩

/-! ## Shape -/

/-- What a storage gives whose values are as many as its rows need. -/
structure Shaped (st : Storage) : Prop where
  values : st.values.length = st.dimension * st.size
  /-- All rows are found, each of the dimension; and they make the storage again. -/
  rows : ∃ rows, st.rows? = some rows ∧ rows.length = st.size ∧
    (∀ row ∈ rows, row.length = st.dimension) ∧ (∀ index, st.row? index = some rows[index]?) ∧
    ofRows st.dimension rows = .ok (st.withDescription none)
  /-- So do the values. -/
  flat : ofFlat? st.dimension st.size st.values = some (st.withDescription none)
  /-- The values of rows that follow each other are found. -/
  between : ∀ start stop, start ≤ stop → stop ≤ st.size →
    ∃ part, st.between? start stop = some part

theorem shaped_stored (s : Sample) : s.stored.Shaped where
  values := s.length_values_stored
  rows := by
    refine ⟨s.rows, s.rows?_stored, rfl, s.length_of_mem, s.row?_stored, ?_⟩
    exact ofRows_of_uniform s.length_of_mem
  flat := by
    rw [ofFlat?, if_neg (not_not_intro s.length_values_stored)]
    rfl
  between start stop forth inside := by
    rw [s.between?_stored, s.between?_eq forth inside]
    exact ⟨_, rfl⟩

/-- The outcomes of storing rows: all of them as their concatenation would be stored, or the index
of the first that has another dimension. -/
structure OutcomeOfRows (dimension : Nat) (rows : List Point) : Prop where
  accepted : (∃ st, ofRows dimension rows = .ok st) ↔ ∀ row ∈ rows, row.length = dimension
  flat : ∀ st, ofRows dimension rows = .ok st →
    ofFlat? dimension rows.length rows.flatten = some st
  refused : ∀ index, ofRows dimension rows = .error index ↔
    ∃ before row after, rows = before ++ row :: after ∧ before.length = index ∧
      (∀ other ∈ before, other.length = dimension) ∧ row.length ≠ dimension

theorem outcome_ofRows (dimension : Nat) (rows : List Point) : OutcomeOfRows dimension rows := by
  rcases uniform_or_first_other dimension rows with
    uniform | ⟨before, row, after, rfl, uniform, wrong⟩
  · have made := ofRows_of_uniform uniform
    refine ⟨⟨fun _ => uniform, fun _ => ⟨_, made⟩⟩, fun st accepted => ?_, fun index => ⟨?_, ?_⟩⟩
    · rw [ofFlat?, if_neg (not_not_intro (length_flatten_rows uniform))]
      rw [made] at accepted
      exact congrArg some (Except.ok.inj accepted)
    · intro refused
      rw [made] at refused
      cases refused
    · rintro ⟨before, row, after, rfl, -, -, wrong⟩
      exact absurd (uniform row (List.mem_append_right _ List.mem_cons_self)) wrong
  · have refused := ofRows_of_other uniform wrong after
    refine ⟨⟨?_, fun all => ?_⟩, fun st accepted => ?_, fun index => ⟨?_, ?_⟩⟩
    · rintro ⟨st, accepted⟩
      rw [refused] at accepted
      cases accepted
    · exact absurd (all row (List.mem_append_right _ List.mem_cons_self)) wrong
    · rw [refused] at accepted
      cases accepted
    · intro index
      rw [refused] at index
      exact ⟨before, row, after, rfl, Except.error.inj index, uniform, wrong⟩
    · rintro ⟨first, other, others, same, rfl, right, off⟩
      rw [same]
      exact ofRows_of_other right off others

/-! ## Together -/

/-- What is done with samples is done with their storages. -/
structure Mirrored : Prop where
  empty : ∀ dimension, (Sample.empty dimension).stored = Storage.empty dimension
  ofFlat : ∀ dimension size values,
    ofFlat? dimension size values = (Sample.ofFlat? dimension size values).map Sample.stored
  ofRows : ∀ dimension rows,
    Storage.ofRows dimension rows = (Sample.ofRows dimension rows).map Sample.stored
  description : ∀ (s : Sample) description,
    s.stored.withDescription description = (s.withDescription description).stored
  read : ∀ text,
    Json.readDocument reader text = (Json.readDocument Sample.reader text).map Sample.stored
  push : ∀ (s : Sample) point right, s.stored.push point = (s.push point right).stored
  row : ∀ (s : Sample) index, s.stored.row? index = some (s.row? index)
  rows : ∀ s : Sample, s.stored.rows? = some s.rows
  plan : ∀ (batch : Sample) cache, batch.stored.plan? cache =
    some ((Plan.make batch cache).1.known, (Plan.make batch cache).1.unknown.stored,
      (Plan.make batch cache).2)
  assemble : ∀ (plan : Plan) function info fresh cache,
    plan.batch.stored.assemble? function info fresh plan.known cache =
      some ((plan.assemble function info fresh cache).1.map Sample.stored,
        (plan.assemble function info fresh cache).2)
  pieces : ∀ (s : Sample) rows, s.stored.pieces rows = (s.pieces rows).map Sample.stored

theorem mirrored : Mirrored where
  empty _ := rfl
  ofFlat := ofFlat?_eq
  ofRows := ofRows_eq
  description _ _ := rfl
  read := readDocument_eq
  push := Sample.stored_push
  row := Sample.row?_stored
  rows := Sample.rows?_stored
  plan := plan?_stored
  assemble plan function info fresh cache := assemble?_stored function info fresh plan cache
  pieces := Sample.pieces_stored

end Storage

/-- **Samples keep their shape.** Every storage that comes about is that of a sample: it has as many
values as its rows need, gives each of its rows and no other, and is made again from its rows and
from its values, but for the description; and so is the sample. Rows are stored exactly if all have
the dimension, as their concatenation is, and otherwise the first of another dimension is reported.
An object in a text is accepted exactly if it has as many values as its rows need. What runs on
samples does the same with their storages. -/
theorem storage_shape :
    (∀ st : Storage, st.Obtained → st.Shaped ∧ ∃ s : Sample, s.stored = st) ∧
    (∀ s : Sample, s.flat.length = s.dimension * s.size ∧
      Sample.ofRows s.dimension s.rows = .ok (s.withDescription none) ∧
      Sample.ofFlat? s.dimension s.size s.flat = some (s.withDescription none)) ∧
    (∀ dimension rows, Storage.OutcomeOfRows dimension rows) ∧
    (∀ (text : String) (dimension size : Nat) (values : List Double)
      (description : Option (Option String)),
      Sample.shape.IsTyped ⟨some dimension, some size, some values, description⟩ text →
        Json.readDocument Storage.reader text =
          if values.length = dimension * size then
            .ok ⟨dimension, size, values, description.getD none⟩
          else .error (.wrongCount values.length size dimension)) ∧
    Storage.Mirrored := by
  refine ⟨fun st obtained => ?_, fun s => ⟨s.length_flat, ?_, s.ofFlat?_flat⟩,
    Storage.outcome_ofRows, fun _ _ _ _ _ typed => Storage.readDocument_of_isTyped typed,
    Storage.mirrored⟩
  · obtain ⟨s, rfl⟩ := obtained.exists_sample
    exact ⟨Storage.shaped_stored s, s, rfl⟩
  · rw [Sample.ofRows, dif_pos s.length_of_mem]
    rfl

open Json (Document) in
/-- A sample of one row of two values that has but one of them, among other things. -/
def shortDocument : Document := .object [
  ("rows", .natural 1), ("unit", .object [("rows", .null)]), ("dimension", .natural 2),
  ("values", .array [.double ⟨0x3fe0000000000000⟩])]

theorem isTyped_shortDocument :
    Sample.shape.IsTyped ⟨some 2, some 1, some [⟨0x3fe0000000000000⟩], none⟩
      shortDocument.render := by
  obtain ⟨inside, rest, gap, entries, last⟩ :=
    @Json.isObject_render Sample.shape.names [("rows", .natural 1),
      ("unit", .object [("rows", .null)]), ("dimension", .natural 2),
      ("values", .array [.double ⟨0x3fe0000000000000⟩])]
  refine ⟨⟨inside, rest, gap, Sample.learns.typed entries ?_, last⟩, by decide⟩
  with_unfolding_all rfl

/-- Three rows without values are planned as one, rows of two lengths are refused, and so is the
text. -/
theorem storage_shape_unmeasured :
    (∃ known unknown later, (⟨0, 3, [], none⟩ : Storage).plan? (Cache.new 8) =
      some (known, unknown, later) ∧ unknown.size = 1 ∧ unknown.Shaped) ∧
    Storage.ofRows 2 [[⟨1⟩, ⟨2⟩], [⟨3⟩], []] = .error 1 ∧
    Json.readDocument Storage.reader shortDocument.render = .error (.wrongCount 1 1 2) := by
  obtain ⟨shaped, -, rows, texts, -⟩ := storage_shape
  have batch : (⟨0, 3, [], none⟩ : Storage).Obtained :=
    @Storage.Obtained.ofRows 0 [[], [], []] _ rfl
  have planned := Storage.plan?_stored ⟨0, [[], [], []], none, by decide⟩ (Cache.new 8)
  have computed := (shaped _ (.planned batch planned)).1
  refine ⟨⟨_, _, _, planned, by with_unfolding_all rfl, computed⟩, ?_, ?_⟩
  · exact ((rows 2 _).refused 1).2 ⟨[[⟨1⟩, ⟨2⟩]], [⟨3⟩], [[]], rfl, rfl, by decide, by decide⟩
  · exact texts _ _ _ _ _ isTyped_shortDocument

end ForeignEval

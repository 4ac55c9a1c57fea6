import ForeignEval.Proofs.Sample.Pieces

/-!
# How samples are stored

A sample is stored as its values, row after row, beside a dimension and a number of rows. Nothing but
the care of those who write keeps the three in step: a row that is appended is not measured, and a
row that is read is cut out from where it should be. Every operation on stored samples is the
operation of the same name on samples, whose rows have the dimension once and for all; so no row is
ever looked for where there are no values.

* **Layout** — `Storage`, and `Sample.stored`: the storage of a sample.
* **Writing** — `Storage.ofFlat?_eq`, `Storage.ofRows_eq`, `Sample.stored_push`.
* **Reading** — `Sample.row?_stored`, `Sample.rows?_stored`, `Sample.pieces_stored`.
-/

namespace ForeignEval

/-- A sample as it is stored. -/
structure Storage where
  /-- How many values each row has. -/
  dimension : Nat
  /-- How many rows there are. -/
  size : Nat
  /-- The values, row after row. -/
  values : List Double
  /-- What the values are, in words. -/
  description : Option String

namespace Storage

/-! ## Writing -/

/-- The storage of a dimension without rows. -/
def empty (dimension : Nat) : Storage := ⟨dimension, 0, [], none⟩

/-- Such a storage, for so many rows to come; the room for them is not part of it. -/
def withCapacity (dimension _rows : Nat) : Storage := ⟨dimension, 0, [], none⟩

/-- The storage of so many rows whose values are given row after row. -/
def ofFlat? (dimension size : Nat) (values : List Double) : Option Storage :=
  if values.length ≠ dimension * size then none else some ⟨dimension, size, values, none⟩

/-- Appends a row, of whatever length. -/
def push (st : Storage) (row : Point) : Storage :=
  { st with values := st.values ++ row, size := st.size + 1 }

/-- Appends rows, the first of which has an index, up to the first of another dimension. -/
def pushAll (st : Storage) : (index : Nat) → List Point → Except Nat Storage
  | _, [] => .ok st
  | index, row :: rows =>
    if row.length ≠ st.dimension then .error index else (st.push row).pushAll (index + 1) rows

/-- The storage of these rows, or the index of the first row of another dimension. -/
def ofRows (dimension : Nat) (rows : List Point) : Except Nat Storage :=
  (withCapacity dimension rows.length).pushAll 0 rows

/-- The storage with another description. -/
def withDescription (st : Storage) (description : Option String) : Storage :=
  { st with description }

/-! ## Reading -/

/-- The row of an index, if its values are where they should be. -/
def rowAt? (st : Storage) (index : Nat) : Option Point :=
  slice? (index * st.dimension) (index * st.dimension + st.dimension) st.values

/-- The row of an index, or that there is none; nothing if its values are not where they should
be. -/
def row? (st : Storage) (index : Nat) : Option (Option Point) :=
  if st.size ≤ index then some none else (st.rowAt? index).map some

/-- All rows in order; nothing if the values of one are not where they should be. -/
def rows? (st : Storage) : Option (List Point) := (List.range st.size).mapM st.rowAt?

/-- The rows from one index up to another; nothing if their values are not there. -/
def between? (st : Storage) (start stop : Nat) : Option Storage := do
  let values ← slice? (start * st.dimension) (stop * st.dimension) st.values
  ofFlat? st.dimension (stop - start) values

/-- The storage in pieces of so many rows, one at least. -/
def pieces (st : Storage) (rows : Nat) : List Storage :=
  (List.range' 0 (ceilDiv st.size rows) rows).filterMap fun start =>
    st.between? start (min (start + rows) st.size)

/-! ## Appending rows -/

/-- The storage with more rows, of whatever length. -/
def append (st : Storage) (rows : List Point) : Storage :=
  { st with values := st.values ++ rows.flatten, size := st.size + rows.length }

theorem append_nil (st : Storage) : st.append [] = st := by
  unfold append
  rw [List.flatten_nil, List.append_nil, List.length_nil, Nat.add_zero]

theorem append_cons (st : Storage) (row : Point) (rows : List Point) :
    (st.push row).append rows = st.append (row :: rows) := by
  unfold append push
  rw [List.flatten_cons, List.append_assoc, List.length_cons, Nat.add_assoc, Nat.add_comm 1]

/-- Rows appended to a storage without any. -/
theorem append_empty (dimension : Nat) (rows : List Point) :
    (empty dimension).append rows = ⟨dimension, rows.length, rows.flatten, none⟩ := by
  rw [append, empty, List.nil_append, Nat.zero_add]

variable {dimension : Nat} {rows : List Point}

theorem pushAll_of_uniform (st : Storage) (uniform : ∀ row ∈ rows, row.length = st.dimension)
    (index : Nat) : st.pushAll index rows = .ok (st.append rows) := by
  induction rows generalizing st index with
  | nil => rw [pushAll, append_nil]
  | cons row rows ih =>
    obtain ⟨first, others⟩ := List.forall_mem_cons.1 uniform
    rw [pushAll, if_neg (not_not_intro first), ih (st.push row) others, append_cons]

theorem pushAll_of_other (st : Storage) {before after : List Point} {row : Point}
    (uniform : ∀ other ∈ before, other.length = st.dimension) (wrong : row.length ≠ st.dimension)
    (index : Nat) : st.pushAll index (before ++ row :: after) = .error (index + before.length) := by
  induction before generalizing st index with
  | nil => exact if_pos wrong
  | cons first before ih =>
    obtain ⟨right, others⟩ := List.forall_mem_cons.1 uniform
    rw [List.cons_append, pushAll, if_neg (not_not_intro right), ih (st.push first) others wrong,
      List.length_cons]
    congr 1
    omega

/-- Rows of the dimension are stored one after the other. -/
theorem ofRows_of_uniform (uniform : ∀ row ∈ rows, row.length = dimension) :
    ofRows dimension rows = .ok ⟨dimension, rows.length, rows.flatten, none⟩ := by
  rw [ofRows, pushAll_of_uniform _ uniform]
  exact congrArg Except.ok (append_empty dimension rows)

/-- The first row of another dimension is reported. -/
theorem ofRows_of_other {before : List Point} {row : Point}
    (uniform : ∀ other ∈ before, other.length = dimension) (wrong : row.length ≠ dimension)
    (after : List Point) :
    ofRows dimension (before ++ row :: after) = .error before.length := by
  rw [ofRows, pushAll_of_other _ uniform wrong, Nat.zero_add]

/-- Rows have one dimension, or there is a first one that has another. -/
theorem uniform_or_first_other (dimension : Nat) (rows : List Point) :
    (∀ row ∈ rows, row.length = dimension) ∨
      ∃ before row after, rows = before ++ row :: after ∧
        (∀ other ∈ before, other.length = dimension) ∧ row.length ≠ dimension := by
  cases chosen : rows.find? (·.length ≠ dimension) with
  | none => exact .inl (by simpa using List.find?_eq_none.1 chosen)
  | some row =>
    obtain ⟨wrong, before, after, same, right⟩ := List.find?_eq_some_iff_append.1 chosen
    exact .inr ⟨before, row, after, same, by simpa using right, by simpa using wrong⟩

end Storage

/-! ## Samples -/

namespace Sample

/-- How a sample is stored. -/
def stored (s : Sample) : Storage := ⟨s.dimension, s.size, s.flat, s.description⟩

variable (s : Sample)

theorem length_values_stored : s.stored.values.length = s.stored.dimension * s.stored.size :=
  s.length_flat

theorem stored_push (point : Point) (right : point.length = s.dimension) :
    s.stored.push point = (s.push point right).stored := by
  unfold stored Storage.push push flat size
  rw [List.flatten_append, List.length_append, List.flatten_singleton, List.length_singleton]

/-- The values of a row are where they should be. -/
theorem rowAt?_stored {index : Nat} (inside : index < s.size) :
    s.stored.rowAt? index = s.rows[index]? := by
  have cut := slice?_flatten s.length_of_mem (Nat.le_add_right index 1) inside
  have one : s.rows.extract index (index + 1) = [s.rows[index]] := by
    rw [List.extract_eq_take_drop, Nat.add_sub_cancel_left, List.drop_eq_getElem_cons inside]
    rfl
  rw [Nat.succ_mul, one, List.flatten_singleton] at cut
  rw [List.getElem?_eq_getElem inside]
  exact cut

theorem row?_stored (index : Nat) : s.stored.row? index = some (s.row? index) := by
  unfold Storage.row? row?
  by_cases beyond : s.stored.size ≤ index
  · rw [if_pos beyond, List.getElem?_eq_none beyond]
  · have inside : index < s.rows.length := Nat.lt_of_not_le beyond
    rw [if_neg beyond, s.rowAt?_stored inside, List.getElem?_eq_getElem inside]
    rfl

/-- Rows found at so many places one after the other, up to the end, are all rows from the first. -/
theorem mapM_rowAt?_stored {start count : Nat} (all : start + count = s.size) :
    (List.range' start count).mapM s.stored.rowAt? = some (s.rows.drop start) := by
  induction count generalizing start with
  | zero =>
    rw [List.drop_of_length_le (i := start) (Nat.le_of_eq all.symm)]
    rfl
  | succ count ih =>
    have inside : start < s.rows.length := by
      show start < s.size
      omega
    rw [List.range'_succ, List.mapM_cons, s.rowAt?_stored inside, ih (by omega),
      List.getElem?_eq_getElem inside, List.drop_eq_getElem_cons inside]
    rfl

/-- All rows are found. -/
theorem rows?_stored : s.stored.rows? = some s.rows := by
  show (List.range s.size).mapM s.stored.rowAt? = some s.rows
  rw [List.range_eq_range', s.mapM_rowAt?_stored (Nat.zero_add _), List.drop_zero]

end Sample

/-! ## Storages and samples -/

namespace Storage

/-- A list of values is accepted as the rows of a storage if it is accepted as those of a sample. -/
theorem ofFlat?_eq (dimension size : Nat) (values : List Double) :
    ofFlat? dimension size values = (Sample.ofFlat? dimension size values).map Sample.stored := by
  unfold ofFlat? Sample.ofFlat?
  by_cases fits : values.length = dimension * size
  · rw [if_neg (not_not_intro fits), dif_pos fits, Option.map_some]
    unfold Sample.stored Sample.size Sample.flat
    rw [length_splitRows, flatten_splitRows fits]
  · rw [if_pos fits, dif_neg fits]
    rfl

/-- Rows are accepted for a storage if they are accepted for a sample, and otherwise the same row is
reported. -/
theorem ofRows_eq (dimension : Nat) (rows : List Point) :
    ofRows dimension rows = (Sample.ofRows dimension rows).map Sample.stored := by
  rcases uniform_or_first_other dimension rows with
    uniform | ⟨before, row, after, rfl, uniform, wrong⟩
  · rw [ofRows_of_uniform uniform, Sample.ofRows, dif_pos uniform]
    rfl
  · have bad : Sample.badRow? dimension (before ++ row :: after) = some before.length := by
      have none : before.findIdx? (·.length ≠ dimension) = none :=
        List.findIdx?_eq_none_iff.2 fun other mem => by simpa using uniform other mem
      unfold Sample.badRow?
      rw [List.findIdx?_append, none, List.findIdx?_cons, decide_eq_true wrong]
      simp
    have mixed : ¬∀ other ∈ before ++ row :: after, other.length = dimension :=
      fun all => wrong (all row (List.mem_append_right _ List.mem_cons_self))
    rw [ofRows_of_other uniform wrong after, Sample.ofRows, dif_neg mixed, bad]
    rfl

end Storage

namespace Sample

variable (s : Sample)

theorem between?_stored (start stop : Nat) :
    s.stored.between? start stop = (s.between? start stop).map stored := by
  show (slice? _ _ s.flat).bind (Storage.ofFlat? s.dimension (stop - start)) =
    ((slice? _ _ s.flat).bind (ofFlat? s.dimension (stop - start))).map stored
  rw [Option.map_bind]
  exact congrArg _ (funext fun values => Storage.ofFlat?_eq _ _ values)

/-- The pieces of a storage are those of the sample. -/
theorem pieces_stored (rows : Nat) : s.stored.pieces rows = (s.pieces rows).map stored := by
  unfold Storage.pieces pieces
  rw [List.map_filterMap]
  exact congrArg (List.filterMap · _) (funext fun start => s.between?_stored start _)

end Sample

end ForeignEval

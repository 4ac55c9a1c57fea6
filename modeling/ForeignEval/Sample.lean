import ForeignEval.Point

/-!
# Samples

A sample is a list of points of one dimension, with an optional description. The dimension is kept
apart from the rows, so that a sample without rows has one too.

* **Flat form** — `Sample.flat` holds `dimension * size` values (`Sample.length_flat`);
  `Sample.ofFlat?` cuts such a list into rows and undoes `flat` (`Sample.ofFlat?_flat`).
* **Rows** — `Sample.ofRows` accepts rows of the dimension and names the first other one.
-/

namespace ForeignEval

/-- Points of one dimension. -/
structure Sample where
  /-- How many values each row has. -/
  dimension : Nat
  rows : List Point
  /-- What the values are, in words. -/
  description : Option String := none
  /-- Every row has the dimension. -/
  length_of_mem : ∀ row ∈ rows, row.length = dimension := by simp

namespace Sample

/-- Samples are equal when their dimensions, rows and descriptions are. -/
@[ext] theorem ext {a b : Sample} (hd : a.dimension = b.dimension) (hr : a.rows = b.rows)
    (ht : a.description = b.description) : a = b := by
  cases a
  cases b
  simp_all

/-- The sample of a dimension without rows. -/
def empty (dimension : Nat) : Sample := ⟨dimension, [], none, by simp⟩

/-- How many rows there are. -/
def size (s : Sample) : Nat := s.rows.length

/-- Whether there are no rows. -/
def isEmpty (s : Sample) : Bool := s.rows.isEmpty

/-- The row at an index. -/
def row? (s : Sample) (index : Nat) : Option Point := s.rows[index]?

/-- All values, row after row. -/
def flat (s : Sample) : List Double := s.rows.flatten

/-- The sample with another description. -/
def withDescription (s : Sample) (description : Option String) : Sample :=
  { s with description }

/-- The sample with one more row, for a point of its dimension. -/
def push (s : Sample) (point : Point) (h : point.length = s.dimension) : Sample where
  dimension := s.dimension
  rows := s.rows ++ [point]
  description := s.description
  length_of_mem row mem := by
    rcases List.mem_append.1 mem with mem | mem
    · exact s.length_of_mem row mem
    · simp_all

/-- The sample of `size` rows whose values are given row after row. -/
def ofFlat? (dimension size : Nat) (values : List Double) : Option Sample :=
  if h : values.length = dimension * size then
    some ⟨dimension, splitRows dimension size values, none, fun _ => length_of_mem_splitRows h⟩
  else none

/-- The index of the first row that is not of the dimension. -/
def badRow? (dimension : Nat) (rows : List Point) : Option Nat :=
  rows.findIdx? (·.length ≠ dimension)

/-- The sample of these rows, or the index of the first row of another dimension. -/
def ofRows (dimension : Nat) (rows : List Point) : Except Nat Sample :=
  if h : ∀ row ∈ rows, row.length = dimension then .ok ⟨dimension, rows, none, h⟩
  else .error ((badRow? dimension rows).getD rows.length)

/-- Whether two samples have the same shape, description and, as numbers, the same values: zeros of
both signs are the same, and a NaN is no number at all. -/
def sameNumbers (a b : Sample) : Bool :=
  a.dimension = b.dimension && a.size = b.size && a.description = b.description &&
    (a.flat.zip b.flat).all fun (x, y) => x.sameNumber y

/-! ## Sizes -/

/-- A sample holds as many values as its rows have together. -/
theorem length_flat (s : Sample) : s.flat.length = s.dimension * s.size :=
  length_flatten_rows s.length_of_mem

/-- Cutting the flat form gives the rows back; the description is not part of it. -/
theorem ofFlat?_flat (s : Sample) :
    ofFlat? s.dimension s.size s.flat = some (s.withDescription none) := by
  rw [ofFlat?, dif_pos s.length_flat]
  exact congrArg some (Sample.ext rfl (splitRows_flatten s.length_of_mem) rfl)

@[simp] theorem size_empty (dimension : Nat) : (empty dimension).size = 0 := rfl

@[simp] theorem isEmpty_empty (dimension : Nat) : (empty dimension).isEmpty = true := rfl

end Sample

end ForeignEval

import ForeignEval.Double

/-!
# Points

A point is a vector of doubles: the input or the output of one evaluation. Points travel to and
from foreign code through flat buffers, which this module cuts and fills.

* **Writing** — `written size values` always has `size` values (`length_written`), and is `values`
  itself when the sizes agree (`written_of_length_eq`).
* **Cutting** — `splitRows` undoes the concatenation of rows of one length (`splitRows_flatten`),
  and concatenating its pieces gives the values back (`flatten_splitRows`); `slice?` takes out what
  stands between two places, if there are such places.
-/

namespace ForeignEval

/-- A vector of doubles: the input or the output of one evaluation. -/
abbrev Point := List Double

/-! ## Output buffers -/

/-- What a caller's buffer of `size` zeros holds once foreign code has written `values` into it
from its start: no value lands outside, and slots left alone stay zero. -/
def written (size : Nat) (values : Point) : Point :=
  values.take size ++ List.replicate (size - values.length) Double.zero

@[simp] theorem length_written (size : Nat) (values : Point) :
    (written size values).length = size := by
  simp [written]
  omega

/-- A result of the buffer's own size is read back as it is. -/
theorem written_of_length_eq {size : Nat} {values : Point} (h : values.length = size) :
    written size values = values := by
  simp [written, ← h]

/-! ## Rows of a flat buffer -/

/-- The values from one place up to another; nothing if the buffer has no such places. -/
def slice? (start stop : Nat) (values : List Double) : Option (List Double) :=
  if start ≤ stop ∧ stop ≤ values.length then some (values.extract start stop) else none

/-- Consecutive pieces of `dimension` values, `count` of them. -/
def splitRows (dimension : Nat) : (count : Nat) → List Double → List Point
  | 0, _ => []
  | count + 1, values => values.take dimension :: splitRows dimension count (values.drop dimension)

@[simp] theorem length_splitRows (dimension count : Nat) (values : List Double) :
    (splitRows dimension count values).length = count := by
  induction count generalizing values with
  | zero => rfl
  | succ count ih => simp [splitRows, ih]

/-- With as many values as asked for, every piece has the dimension. -/
theorem length_of_mem_splitRows {dimension count : Nat} {values : List Double}
    (h : values.length = dimension * count) {row : Point}
    (mem : row ∈ splitRows dimension count values) : row.length = dimension := by
  induction count generalizing values with
  | zero => simp [splitRows] at mem
  | succ count ih =>
    simp only [splitRows, List.mem_cons] at mem
    rw [Nat.mul_succ] at h
    rcases mem with rfl | mem
    · simp [h]
    · exact ih (by simp [h]) mem

/-- The pieces in order are the values. -/
theorem flatten_splitRows {dimension count : Nat} {values : List Double}
    (h : values.length = dimension * count) :
    (splitRows dimension count values).flatten = values := by
  induction count generalizing values with
  | zero => simp_all [splitRows]
  | succ count ih =>
    rw [Nat.mul_succ] at h
    have rest := @ih (values.drop dimension) (by simp [h])
    simp [splitRows, rest]

/-- Rows of one length are found again in their concatenation. -/
theorem splitRows_flatten {dimension : Nat} {rows : List Point}
    (h : ∀ row ∈ rows, row.length = dimension) :
    splitRows dimension rows.length rows.flatten = rows := by
  induction rows with
  | nil => rfl
  | cons row rows ih =>
    have hrow : row.length = dimension := h row (by simp)
    simp [splitRows, ← hrow]
    simpa [hrow] using ih fun r hr => (h r (by simp [hr]))

/-- The length of the concatenation of rows of one length. -/
theorem length_flatten_rows {dimension : Nat} {rows : List Point}
    (h : ∀ row ∈ rows, row.length = dimension) : rows.flatten.length = dimension * rows.length := by
  induction rows with
  | nil => rfl
  | cons row rows ih =>
    simp [ih fun r hr => h r (by simp [hr]), h row (by simp), Nat.mul_succ, Nat.add_comm]

end ForeignEval

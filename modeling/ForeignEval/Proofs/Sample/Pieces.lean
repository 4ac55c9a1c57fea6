import ForeignEval.Chunks
import Mathlib.Algebra.GroupWithZero.Nat
import Mathlib.Data.List.Basic

/-!
# Pieces of samples

The pieces of a sample are cut out of its values, between places that are computed from row numbers,
and what does not make a sample is left out. They are the pieces into which its list of rows is cut,
so nothing is ever out of range or left out.

* **Lists** — `chunksOf` cuts a list into pieces of a size, of which the last may be shorter;
  `map_extract_starts`: these are the parts between every so manyth element and the next.
* **Places** — `slice?_flatten`: the rows between two indices are the values between two places.
* **Samples** — `Sample.chunks`, which together are the sample (`Sample.flatten_chunks`);
  `Sample.pieces_eq`: the pieces are the chunks.
-/

namespace ForeignEval

/-! ## Lists -/

/-- The pieces of `size + 1` elements that a list consists of, the last one perhaps shorter. -/
def chunksOf {α : Type} (size : Nat) : List α → List (List α)
  | [] => []
  | a :: rest => (a :: rest.take size) :: chunksOf size (rest.drop size)
termination_by l => l.length
decreasing_by simp only [List.length_drop, List.length_cons]; omega

/-- The pieces in order are the list. -/
theorem flatten_chunksOf {α : Type} (size : Nat) (l : List α) : (chunksOf size l).flatten = l := by
  fun_induction chunksOf size l with
  | case1 => rfl
  | case2 a rest ih => simp [ih]

/-- What is in a piece is in the list. -/
theorem mem_of_mem_chunksOf {α : Type} {size : Nat} {l piece : List α} {a : α}
    (hp : piece ∈ chunksOf size l) (ha : a ∈ piece) : a ∈ l := by
  rw [← flatten_chunksOf size l]
  exact List.mem_flatten.2 ⟨piece, hp, ha⟩

/-- No piece is empty or too long. -/
theorem length_of_mem_chunksOf {α : Type} {size : Nat} {l piece : List α}
    (mem : piece ∈ chunksOf size l) : 0 < piece.length ∧ piece.length ≤ size + 1 := by
  fun_induction chunksOf size l with
  | case1 => cases mem
  | case2 a rest ih =>
    rcases List.mem_cons.1 mem with rfl | later
    · rw [List.length_cons, List.length_take]
      omega
    · exact ih later

/-- So many pieces have room for the elements of a list. -/
theorem length_chunksOf_le {α : Type} {size count : Nat} {l : List α}
    (room : l.length ≤ count * (size + 1)) : (chunksOf size l).length ≤ count := by
  induction count generalizing l with
  | zero =>
    rw [Nat.zero_mul] at room
    rw [List.eq_nil_of_length_eq_zero (Nat.le_zero.1 room), chunksOf]
    exact Nat.le_refl 0
  | succ count ih =>
    cases l with
    | nil =>
      rw [chunksOf]
      exact Nat.zero_le _
    | cons a rest =>
      rw [chunksOf, List.length_cons]
      refine Nat.succ_le_succ (ih ?_)
      rw [List.length_cons, Nat.succ_mul] at room
      rw [List.length_drop]
      omega

/-- Rounding a quotient up leaves nothing over. -/
theorem le_mul_ceilDiv (n : Nat) {d : Nat} (positive : 0 < d) : n ≤ d * ceilDiv n d := by
  have parts := Nat.div_add_mod (n + (d - 1)) d
  have rest := Nat.mod_lt (n + (d - 1)) positive
  unfold ceilDiv
  omega

/-- A quotient rounded up is one more than that of what is left after the first part. -/
theorem ceilDiv_sub {n d : Nat} (some : 0 < n) (positive : 0 < d) :
    ceilDiv n d = ceilDiv (n - d) d + 1 := by
  unfold ceilDiv
  by_cases more : d ≤ n
  · have whole : n + (d - 1) = n - d + (d - 1) + d := by omega
    rw [whole, Nat.add_div_right _ positive]
  · have none : n - d = 0 := by omega
    have first : n + (d - 1) = n - 1 + d := by omega
    rw [none, Nat.zero_add, Nat.div_eq_of_lt (Nat.sub_lt positive Nat.one_pos), first,
      Nat.add_div_right _ positive, Nat.div_eq_of_lt (by omega)]

/-- Beyond the end of a list there is nothing to cut off. -/
theorem extract_min {α : Type} (l : List α) (start size : Nat) :
    l.extract start (min (start + size) l.length) = (l.drop start).take size := by
  rw [List.extract_eq_take_drop, List.take_eq_take_iff, List.length_drop]
  omega

/-- The pieces of a list are its parts between every so manyth element and the next. -/
theorem map_extract_starts {α : Type} (size : Nat) (l : List α) :
    (List.range' 0 (ceilDiv l.length (size + 1)) (size + 1)).map
        (fun start => l.extract start (min (start + (size + 1)) l.length)) = chunksOf size l := by
  simp only [extract_min]
  fun_induction chunksOf size l with
  | case1 =>
    have none : ceilDiv 0 (size + 1) = 0 := Nat.div_eq_of_lt (by omega)
    rw [List.length_nil, none]
    rfl
  | case2 a rest ih =>
    have left : rest.length + 1 - (size + 1) = (rest.drop size).length := by
      rw [List.length_drop]
      omega
    rw [List.length_cons, ceilDiv_sub (Nat.succ_pos _) (Nat.succ_pos _), left, List.range'_succ,
      List.map_cons, Nat.add_comm 0, ← List.map_add_range', List.map_map, ← ih]
    -- what comes after the first piece is cut in the same way
    refine congrArg (_ :: ·) (List.map_congr_left fun start _ => ?_)
    rw [Function.comp_apply, List.drop_drop, Nat.add_right_comm, List.drop_succ_cons]

/-! ## Places -/

section Places

variable {dimension : Nat} {rows : List Point} (uniform : ∀ row ∈ rows, row.length = dimension)

include uniform

theorem drop_flatten (count : Nat) :
    rows.flatten.drop (count * dimension) = (rows.drop count).flatten := by
  induction count generalizing rows with
  | zero => rw [Nat.zero_mul, List.drop_zero, List.drop_zero]
  | succ count ih =>
    cases rows with
    | nil => rw [List.flatten_nil, List.drop_nil, List.drop_nil, List.flatten_nil]
    | cons row rows =>
      obtain ⟨first, others⟩ := List.forall_mem_cons.1 uniform
      rw [List.flatten_cons, Nat.succ_mul, Nat.add_comm, ← List.drop_drop, ← first,
        List.drop_left, first, ih others, List.drop_succ_cons]

theorem take_flatten (count : Nat) :
    rows.flatten.take (count * dimension) = (rows.take count).flatten := by
  induction count generalizing rows with
  | zero => rw [Nat.zero_mul, List.take_zero, List.take_zero, List.flatten_nil]
  | succ count ih =>
    cases rows with
    | nil => rw [List.flatten_nil, List.take_nil, List.take_nil, List.flatten_nil]
    | cons row rows =>
      obtain ⟨first, others⟩ := List.forall_mem_cons.1 uniform
      rw [List.flatten_cons, Nat.succ_mul, Nat.add_comm, ← first, List.take_length_add_append,
        first, ih others, List.take_succ_cons, List.flatten_cons]

/-- The rows between two indices are the values between two places, which there are. -/
theorem slice?_flatten {start stop : Nat} (forth : start ≤ stop) (inside : stop ≤ rows.length) :
    slice? (start * dimension) (stop * dimension) rows.flatten =
      some (rows.extract start stop).flatten := by
  have there : start * dimension ≤ stop * dimension ∧ stop * dimension ≤ rows.flatten.length := by
    rw [length_flatten_rows uniform, Nat.mul_comm dimension]
    exact ⟨Nat.mul_le_mul_right _ forth, Nat.mul_le_mul_right _ inside⟩
  rw [slice?, if_pos there, List.extract_eq_take_drop, List.extract_eq_take_drop,
    ← Nat.sub_mul, drop_flatten uniform,
    take_flatten fun row mem => uniform row (List.mem_of_mem_drop mem)]

end Places

/-! ## Samples -/

namespace Sample

variable (s : Sample)

/-- A sample in pieces of `size + 1` rows, the last one perhaps shorter. -/
def chunks (size : Nat) : List Sample :=
  (chunksOf size s.rows).attach.map fun ⟨piece, hp⟩ =>
    ⟨s.dimension, piece, none, fun row mem => s.length_of_mem row (mem_of_mem_chunksOf hp mem)⟩

theorem rows_chunks (size : Nat) :
    (s.chunks size).map (·.rows) = chunksOf size s.rows := by
  unfold chunks
  rw [List.map_map]
  exact List.attach_map_subtype_val _

theorem flatten_chunks (size : Nat) :
    ((s.chunks size).map (·.rows)).flatten = s.rows := by
  rw [s.rows_chunks, flatten_chunksOf]

theorem dimension_of_mem_chunks {s chunk : Sample} {size : Nat}
    (mem : chunk ∈ s.chunks size) : chunk.dimension = s.dimension := by
  obtain ⟨piece, -, rfl⟩ := List.mem_map.1 mem
  rfl

theorem subset_of_mem_chunks {s chunk : Sample} {size : Nat} (mem : chunk ∈ s.chunks size) :
    chunk.rows ⊆ s.rows := by
  intro row there
  rw [← s.flatten_chunks size]
  exact List.mem_flatten.2 ⟨chunk.rows, List.mem_map_of_mem mem, there⟩

/-- No piece of a sample is empty or too long. -/
theorem size_of_mem_chunks {s chunk : Sample} {size : Nat} (mem : chunk ∈ s.chunks size) :
    0 < chunk.size ∧ chunk.size ≤ size + 1 := by
  refine length_of_mem_chunksOf (l := s.rows) ?_
  rw [← s.rows_chunks]
  exact List.mem_map_of_mem mem

/-- Rows of a sample as a sample of their own, without the description. -/
def part (rows : List Point) (sub : rows ⊆ s.rows) : Sample :=
  ⟨s.dimension, rows, none, fun row mem => s.length_of_mem row (sub mem)⟩

theorem extract_subset (start stop : Nat) : s.rows.extract start stop ⊆ s.rows := by
  rw [List.extract_eq_take_drop]
  exact fun row mem => List.mem_of_mem_drop (List.mem_of_mem_take mem)

/-- Between two indices there are rows, and they are found. -/
theorem between?_eq {start stop : Nat} (forth : start ≤ stop) (inside : stop ≤ s.size) :
    s.between? start stop = some (s.part (s.rows.extract start stop) (s.extract_subset _ _)) := by
  have count : (s.rows.extract start stop).length = stop - start := by
    have inside : stop ≤ s.rows.length := inside
    rw [List.extract_eq_take_drop, List.length_take, List.length_drop]
    omega
  have cut := (s.part (s.rows.extract start stop) (s.extract_subset _ _)).ofFlat?_flat
  unfold between?
  rw [flat, slice?_flatten s.length_of_mem forth inside, Option.bind_eq_bind, Option.bind_some,
    ← count]
  exact cut

/-- Pieces start at the multiples of their number of rows. -/
theorem mem_starts {rows start : Nat} (positive : 0 < rows) :
    start ∈ s.starts rows ↔ start < s.size ∧ rows ∣ start := by
  have below : ∀ count, count < ceilDiv s.size rows ↔ rows * count < s.size := by
    intro count
    unfold ceilDiv
    rw [Nat.lt_iff_add_one_le, Nat.le_div_iff_mul_le positive, Nat.add_mul, Nat.mul_comm]
    omega
  unfold starts
  rw [List.mem_range']
  constructor
  · rintro ⟨count, few, rfl⟩
    rw [Nat.zero_add]
    exact ⟨(below count).1 few, Nat.dvd_mul_right _ _⟩
  · rintro ⟨inside, count, rfl⟩
    exact ⟨count, (below count).2 inside, (Nat.zero_add _).symm⟩

/-- Wherever a piece starts, its rows are found. -/
theorem between?_of_mem_starts {rows start : Nat} (positive : 0 < rows)
    (mem : start ∈ s.starts rows) :
    s.between? start (min (start + rows) s.size) =
      some (s.part (s.rows.extract start (min (start + rows) s.size)) (s.extract_subset _ _)) := by
  have inside := ((s.mem_starts positive).1 mem).1
  exact s.between?_eq (by omega) (Nat.min_le_right _ _)

/-- A sample is known by its dimension, its rows and its description. -/
theorem injective_fields :
    Function.Injective fun s : Sample => (s.dimension, s.rows, s.description) := by
  intro s t same
  simp only [Prod.mk.injEq] at same
  exact Sample.ext same.1 same.2.1 same.2.2

/-- The pieces are those into which the list of rows is cut. -/
theorem pieces_eq (size : Nat) : s.pieces (size + 1) = s.chunks size := by
  have cut : s.pieces (size + 1) = (s.starts (size + 1)).map fun start =>
      s.part (s.rows.extract start (min (start + (size + 1)) s.size)) (s.extract_subset _ _) := by
    unfold pieces
    rw [← List.filterMap_eq_map]
    exact List.filterMap_congr fun start mem => s.between?_of_mem_starts (Nat.succ_pos size) mem
  have fields : (s.chunks size).map (fun s => (s.dimension, s.rows, s.description)) =
      (chunksOf size s.rows).map (s.dimension, ·, none) := by
    unfold chunks
    rw [List.map_map]
    exact List.attach_map_val (f := fun rows => (s.dimension, rows, none))
  refine List.map_injective_iff.2 injective_fields ?_
  rw [fields, cut, List.map_map, ← map_extract_starts, List.map_map]
  rfl

end Sample

end ForeignEval

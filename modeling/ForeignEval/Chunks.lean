import ForeignEval.Sample

/-!
# Regrouping rows

Two ways in which the rows of a batch are regrouped before they are evaluated: repeated rows are
dropped, and what is left is cut into chunks.

* **Distinct** — `distinct` keeps first appearances, in order.
* **Chunks** — `Sample.pieces` cuts a sample into pieces of so many rows, of which the last may be
  shorter.
-/

namespace ForeignEval

/-- The elements of a list in the order of their first appearance, each once. -/
def distinct {α : Type} [DecidableEq α] : List α → List α
  | [] => []
  | a :: rest => a :: (distinct rest).filter (· ≠ a)

@[simp] theorem mem_distinct {α : Type} [DecidableEq α] {a : α} {l : List α} :
    a ∈ distinct l ↔ a ∈ l := by
  induction l with
  | nil => simp [distinct]
  | cons b rest ih =>
    by_cases h : a = b <;> simp [distinct, ih, h]

theorem nodup_distinct {α : Type} [DecidableEq α] (l : List α) : (distinct l).Nodup := by
  induction l with
  | nil => simp [distinct]
  | cons b rest ih =>
    exact List.nodup_cons.2 ⟨by simp, ih.filter _⟩

/-- The quotient of two numbers, rounded up. -/
def ceilDiv (n d : Nat) : Nat := (n + (d - 1)) / d

namespace Sample

/-- The rows from one index up to another, found by their places among the values; nothing if these
values do not make so many rows. -/
def between? (s : Sample) (start stop : Nat) : Option Sample := do
  let values ← slice? (start * s.dimension) (stop * s.dimension) s.flat
  ofFlat? s.dimension (stop - start) values

/-- The indices at which pieces of so many rows start. -/
def starts (s : Sample) (rows : Nat) : List Nat := List.range' 0 (ceilDiv s.size rows) rows

/-- The sample in pieces of so many rows, one at least, of which the last may be shorter. -/
def pieces (s : Sample) (rows : Nat) : List Sample :=
  (s.starts rows).filterMap fun start => s.between? start (min (start + rows) s.size)

end Sample

end ForeignEval

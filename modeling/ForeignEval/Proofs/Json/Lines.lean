import ForeignEval.Json.Document
import Mathlib.Data.Nat.Digits.Defs

/-!
# Compact documents stand on one line

Digits are no line breaks, a string escapes those that it holds, and the compact text of a document
adds none. So what a program writes as a line of JSON is one line, whatever is in it.

* **Numbers** — `Decimal.Layout.newline_not_mem_text`, for every layout whose own texts are lines.
* **Documents** — `Json.Document.newline_not_mem_compact`.
-/

namespace ForeignEval

/-! ## Numbers -/

theorem newline_not_mem_toDigitsCore (base fuel n : Nat) {digits : List Char}
    (clean : '\n' ∉ digits) : '\n' ∉ Nat.toDigitsCore base fuel n digits := by
  induction fuel generalizing n digits with
  | zero => exact clean
  | succ fuel ih =>
    have next : '\n' ∉ Nat.digitChar (n % base) :: digits :=
      List.not_mem_cons_of_ne_of_not_mem (Nat.digitChar_ne '\n' rfl).symm clean
    unfold Nat.toDigitsCore
    dsimp only
    split
    · exact next
    · exact ih _ next

theorem newline_not_mem_toDigits (base n : Nat) : '\n' ∉ Nat.toDigits base n :=
  newline_not_mem_toDigitsCore base _ n List.not_mem_nil

theorem newline_not_mem_repr (n : Nat) : '\n' ∉ (Nat.repr n).toList := by
  simpa [Nat.repr] using newline_not_mem_toDigits 10 n

theorem newline_not_mem_toString (n : Int) : '\n' ∉ (toString n).toList := by
  cases n with
  | ofNat m => exact newline_not_mem_repr m
  | negSucc m =>
    show '\n' ∉ ("-" ++ Nat.repr m.succ).toList
    have digits := newline_not_mem_repr m.succ
    simpa using digits

namespace Decimal

theorem newline_not_mem_digits (d : Decimal) : '\n' ∉ d.digits := newline_not_mem_toDigits 10 _

namespace Layout

theorem newline_not_mem_positional (d : Decimal) : '\n' ∉ (positional d).toList := by
  have digits := newline_not_mem_digits d
  unfold positional
  dsimp only
  split
  · simp [digits]
  · -- a part of the padded digits is as clean as all of them
    have padded (count : Nat) : '\n' ∉ List.replicate count '0' ++ d.digits := by
      simp [digits]
    simp only [String.toList_ofList, List.mem_append, List.mem_cons, not_or]
    exact ⟨fun mem => padded _ (List.mem_of_mem_take mem), by decide,
      fun mem => padded _ (List.mem_of_mem_drop mem)⟩

theorem newline_not_mem_scientific (layout : Layout) (d : Decimal) :
    '\n' ∉ (layout.scientific d).toList := by
  have digits := newline_not_mem_digits d
  have leading := newline_not_mem_toString d.leading
  have sign : '\n' ∉ (if 0 ≤ d.leading ∧ layout.signedExponent then "+" else "").toList := by
    split <;> decide
  unfold scientific
  simp only [String.toList_append, String.toList_ofList, List.mem_append, not_or]
  refine ⟨⟨⟨?_, by decide⟩, sign⟩, leading⟩
  -- the mantissa has the digits, and perhaps a point
  cases found : d.digits with
  | nil => exact List.not_mem_nil
  | cons digit others =>
    rw [found] at digits
    cases others with
    | nil => exact digits
    | cons other others => simpa using digits

/-- No number breaks a line, unless a layout's own texts do. -/
theorem newline_not_mem_text {layout : Layout} (nan : '\n' ∉ layout.nan.toList)
    (infinity : '\n' ∉ layout.infinity.toList)
    (negativeInfinity : '\n' ∉ layout.negativeInfinity.toList) (x : Double) :
    '\n' ∉ (layout.text x).toList := by
  have sign : '\n' ∉ (if x.isNegative then "-" else "").toList := by
    split <;> decide
  have decimal (d : Decimal) : '\n' ∉ (layout.decimal d).toList := by
    unfold decimal
    split
    · exact newline_not_mem_positional d
    · exact layout.newline_not_mem_scientific d
  unfold text
  split
  · exact nan
  · split
    · split
      · exact negativeInfinity
      · exact infinity
    · dsimp only
      split
      · simp_all
      · simp only [String.toList_append, List.mem_append, not_or]
        exact ⟨sign, decimal _⟩

end Layout

end Decimal

/-! ## Documents -/

namespace Json

theorem newline_not_mem_escapedChar (c : Char) : '\n' ∉ escapedChar c := by
  have hex := newline_not_mem_toDigits 16 c.toNat
  by_cases newline : c = '\n'
  · subst newline
    decide
  · have other : '\n' ≠ c := Ne.symm newline
    unfold escapedChar
    repeat' split
    all_goals simp [controlEscape, hex, other]

theorem newline_not_mem_escaped (text : List Char) : '\n' ∉ escaped text := by
  unfold escaped
  rw [List.mem_flatMap]
  rintro ⟨c, -, mem⟩
  exact newline_not_mem_escapedChar c mem

namespace Document

theorem newline_not_mem_quotedText (text : String) : '\n' ∉ quotedText text := by
  simp [quotedText, newline_not_mem_escaped]

theorem newline_not_mem_double (x : Double) : '\n' ∉ (Decimal.Layout.json.text x).toList :=
  Decimal.Layout.newline_not_mem_text (by decide) (by decide) (by decide) x

mutual

/-- A compact document stands on one line. -/
theorem newline_not_mem_compact : ∀ document : Document, '\n' ∉ document.compact
  | null => by decide
  | truth value => by cases value <;> decide
  | natural value => newline_not_mem_repr value
  | double value => newline_not_mem_double value
  | text value => newline_not_mem_quotedText value
  | array [] => by decide
  | array (element :: elements) => by
    simp [compact, newline_not_mem_compact element, newline_not_mem_compactElements elements]
  | object [] => by decide
  | object ((name, value) :: members) => by
    simp [compact, newline_not_mem_quotedText, newline_not_mem_compact value,
      newline_not_mem_compactMembers members]

theorem newline_not_mem_compactElements : ∀ elements : List Document,
    '\n' ∉ compactElements elements
  | [] => by decide
  | element :: elements => by
    simp [compactElements, newline_not_mem_compact element,
      newline_not_mem_compactElements elements]

theorem newline_not_mem_compactMembers : ∀ members : List (String × Document),
    '\n' ∉ compactMembers members
  | [] => by decide
  | (name, value) :: members => by
    simp [compactMembers, newline_not_mem_quotedText, newline_not_mem_compact value,
      newline_not_mem_compactMembers members]

end

end Document

end Json

end ForeignEval

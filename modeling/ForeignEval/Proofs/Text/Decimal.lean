import ForeignEval.Text.Blank
import ForeignEval.Text.Numeral

/-!
# Reading decimals back

The decimal text of a natural number is a numeral: it is read back as that number if it is below the
bound, and is too large otherwise, at the first digit with which it gets there.

* **Digits** — `le_ofDigitChars`: a number only grows when digits are appended to it.
* **Numerals** — `readNumeral_toDigits`; there is nothing to trim at a decimal, `trimmed_toDigits`.
-/

namespace ForeignEval.Text

variable {c : Char} {digits : List Char} {bound number n : Nat}

/-! ## Digits -/

theorem toNat_of_isDigit (digit : c.isDigit = true) : 48 ≤ c.toNat ∧ c.toNat ≤ 57 := by
  unfold Char.isDigit at digit
  rw [Bool.and_eq_true, decide_eq_true_iff, decide_eq_true_iff] at digit
  exact digit

theorem digit?_of_isDigit (digit : c.isDigit = true) : digit? c = some (c.toNat - '0'.toNat) :=
  if_pos (toNat_of_isDigit digit)

theorem isBlank_of_isDigit (digit : c.isDigit = true) : isBlank c = false := by
  obtain ⟨least, greatest⟩ := toNat_of_isDigit digit
  unfold isBlank
  simp
  omega

theorem isDigit_of_mem_toDigits (mem : c ∈ Nat.toDigits 10 n) : c.isDigit = true :=
  Nat.isDigit_of_mem_toDigits (by decide) (by decide) mem

/-- A number only grows when digits are appended to it. -/
theorem le_ofDigitChars (digits : List Char) (number : Nat) :
    number ≤ Nat.ofDigitChars 10 digits number := by
  induction digits generalizing number with
  | nil => exact Nat.le_refl _
  | cons c digits ih =>
    have grown := ih (10 * number + (c.toNat - '0'.toNat))
    rw [Nat.ofDigitChars_cons]
    omega

/-! ## Numerals -/

/-- Digits are read onto a number as long as it stays below the bound. -/
theorem readDigits_eq (plain : ∀ c ∈ digits, c.isDigit = true) (below : number < bound) :
    readDigits bound number digits =
      if Nat.ofDigitChars 10 digits number < bound then .ok (Nat.ofDigitChars 10 digits number)
      else .error .tooLarge := by
  induction digits generalizing number with
  | nil =>
    rw [Nat.ofDigitChars_nil, if_pos below]
    rfl
  | cons c digits ih =>
    obtain ⟨first, others⟩ := List.forall_mem_cons.1 plain
    rw [readDigits, digit?_of_isDigit first, Nat.ofDigitChars_cons, Nat.mul_comm 10 number]
    dsimp only
    by_cases fits : number * 10 + (c.toNat - '0'.toNat) < bound
    · rw [if_pos fits, ih others fits]
    · have grown := le_ofDigitChars digits (number * 10 + (c.toNat - '0'.toNat))
      rw [if_neg fits, if_neg (by omega)]

/-- The decimal of a number is read as that number, if it is below the bound. -/
theorem readNumeral_toDigits (positive : 0 < bound) (n : Nat) :
    readNumeral bound (Nat.toDigits 10 n) = if n < bound then .ok n else .error .tooLarge := by
  have plain : ∀ c ∈ Nat.toDigits 10 n, c.isDigit = true := fun c mem => isDigit_of_mem_toDigits mem
  have digits := readDigits_eq plain positive
  rw [Nat.ofDigitChars_ten_toDigits] at digits
  rw [← digits]
  cases written : Nat.toDigits 10 n with
  | nil => exact absurd written Nat.toDigits_ne_nil
  | cons c others =>
    rw [written] at plain
    have unsigned : c ≠ '+' := by
      rintro rfl
      exact absurd (plain '+' List.mem_cons_self) (by decide)
    unfold readNumeral
    split
    · next empty => exact absurd empty (List.cons_ne_nil _ _)
    · next sign => exact absurd (List.cons.inj sign).1 unsigned
    · next rest _ signed => exact absurd (List.cons.inj signed).1 unsigned
    · rfl

/-! ## Trimming -/

theorem trimmed_of_forall {s : List Char} (clean : ∀ c ∈ s, isBlank c = false) : trimmed s = s := by
  have keep {s : List Char} (clean : ∀ c ∈ s, isBlank c = false) : s.dropWhile isBlank = s := by
    cases s with
    | nil => rfl
    | cons c s =>
      rw [List.dropWhile_cons_of_neg]
      rw [clean c List.mem_cons_self]
      exact Bool.false_ne_true
  have back : ∀ c ∈ s.reverse, isBlank c = false := fun c mem => clean c (List.mem_reverse.1 mem)
  unfold trimmed
  rw [keep clean, keep back, List.reverse_reverse]

/-- There is nothing to trim at a decimal. -/
theorem trimmed_toDigits (n : Nat) : trimmed (Nat.toDigits 10 n) = Nat.toDigits 10 n :=
  trimmed_of_forall fun _ mem => isBlank_of_isDigit (isDigit_of_mem_toDigits mem)

end ForeignEval.Text

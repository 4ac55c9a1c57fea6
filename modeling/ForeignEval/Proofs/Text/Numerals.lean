import ForeignEval.Proofs.Text.Decimal
import Mathlib.Data.List.TakeWhile

/-!
# What numerals are

The texts that are read as natural numbers, and the texts of which trimming leaves a given one. A
reader of numerals accepts exactly the texts of its grammar whose number is below the bound.

* **Numerals** — `Numeral`: digits with or without a plus sign; `readNumeral_eq_ok_iff`.
* **Truth values** — `readTruth_eq_some_iff`.
* **Trimming** — `Amid`: a text with white space around it; `amid_trimmed` and `trimmed_of_amid`.
-/

namespace ForeignEval.Text

variable {s core digits : List Char} {bound number n : Nat}

/-! ## Numerals -/

/-- A numeral and its number: decimal digits, of which there is one at least, and perhaps a plus
sign before them. -/
inductive Numeral : List Char → Nat → Prop
  | plain {digits : List Char} (some : digits ≠ []) (decimal : ∀ c ∈ digits, c.isDigit = true) :
      Numeral digits (Nat.ofDigitChars 10 digits 0)
  | signed {digits : List Char} (some : digits ≠ []) (decimal : ∀ c ∈ digits, c.isDigit = true) :
      Numeral ('+' :: digits) (Nat.ofDigitChars 10 digits 0)

theorem digit?_eq_none (other : c.isDigit = false) : digit? c = none := by
  refine if_neg ?_
  rintro ⟨least, greatest⟩
  have digit : c.isDigit = true := by
    unfold Char.isDigit
    rw [Bool.and_eq_true, decide_eq_true_iff, decide_eq_true_iff]
    exact ⟨least, greatest⟩
  rw [digit] at other
  cases other

/-- Digits are read if all of them are digits and the number stays below the bound. -/
theorem readDigits_eq_ok_iff (some : digits ≠ []) :
    readDigits bound number digits = .ok n ↔
      (∀ c ∈ digits, c.isDigit = true) ∧ Nat.ofDigitChars 10 digits number = n ∧ n < bound := by
  induction digits generalizing number with
  | nil => exact absurd rfl some
  | cons c digits ih =>
    rw [readDigits, List.forall_mem_cons, Nat.ofDigitChars_cons, Nat.mul_comm 10 number]
    cases digit : c.isDigit with
    | false =>
      rw [digit?_eq_none digit]
      simp
    | true =>
      rw [digit?_of_isDigit digit]
      have grown := le_ofDigitChars digits (number * 10 + (c.toNat - '0'.toNat))
      by_cases fits : number * 10 + (c.toNat - '0'.toNat) < bound
      · dsimp only
        rw [if_pos fits]
        cases digits with
        | nil =>
          rw [Nat.ofDigitChars_nil, readDigits, Except.ok.injEq]
          constructor
          · rintro rfl
            exact ⟨⟨rfl, fun _ mem => absurd mem List.not_mem_nil⟩, rfl, fits⟩
          · exact fun all => all.2.1
        | cons d digits => simp [ih (List.cons_ne_nil d digits)]
      · dsimp only
        rw [if_neg fits]
        constructor
        · intro accepted
          cases accepted
        · rintro ⟨-, rfl, small⟩
          omega

/-- The reader accepts the numerals of the numbers below the bound. -/
theorem readNumeral_eq_ok_iff : readNumeral bound s = .ok n ↔ Numeral s n ∧ n < bound := by
  have plus : ('+' : Char).isDigit = false := by decide
  unfold readNumeral
  split
  · constructor
    · exact nofun
    · rintro ⟨numeral, -⟩
      cases numeral with
      | plain some _ => exact absurd rfl some
  · constructor
    · exact nofun
    · rintro ⟨numeral, -⟩
      cases numeral with
      | plain _ decimal => rw [decimal '+' List.mem_cons_self] at plus; cases plus
      | signed some _ => exact absurd rfl some
  · next digits other =>
    have some : digits ≠ [] := by
      rintro rfl
      exact other rfl
    rw [readDigits_eq_ok_iff some]
    constructor
    · rintro ⟨decimal, rfl, small⟩
      exact ⟨.signed some decimal, small⟩
    · rintro ⟨numeral, small⟩
      cases numeral with
      | plain _ decimal => rw [decimal '+' List.mem_cons_self] at plus; cases plus
      | signed _ decimal => exact ⟨decimal, rfl, small⟩
  · next some _ unsigned =>
    rw [readDigits_eq_ok_iff some]
    constructor
    · rintro ⟨decimal, rfl, small⟩
      exact ⟨.plain some decimal, small⟩
    · rintro ⟨numeral, small⟩
      cases numeral with
      | plain _ decimal => exact ⟨decimal, rfl, small⟩
      | signed => exact absurd rfl (unsigned _)

/-- A numeral has one number. -/
theorem Numeral.unique {m : Nat} (first : Numeral s m) (second : Numeral s n) : m = n := by
  have read := readNumeral_eq_ok_iff.2 ⟨first, Nat.lt_succ_of_le (Nat.le_max_left m n)⟩
  rw [readNumeral_eq_ok_iff.2 ⟨second, Nat.lt_succ_of_le (Nat.le_max_right m n)⟩] at read
  exact (Except.ok.inj read).symm

/-- There is no white space in a numeral. -/
theorem Numeral.isBlank_eq_false (numeral : Numeral s n) : ∀ c ∈ s, isBlank c = false := by
  cases numeral with
  | plain _ decimal => exact fun c mem => isBlank_of_isDigit (decimal c mem)
  | signed _ decimal =>
    exact List.forall_mem_cons.2 ⟨by decide, fun c mem => isBlank_of_isDigit (decimal c mem)⟩

/-! ## Truth values -/

theorem readTruth_eq_some_iff {text : String} {value : Bool} :
    readTruth text = some value ↔ text = toString value := by
  unfold readTruth
  cases value with
  | true =>
    show _ ↔ text = "true"
    by_cases yes : text = "true"
    · simp [yes]
    · by_cases no : text = "false" <;> simp [yes, no]
  | false =>
    show _ ↔ text = "false"
    by_cases yes : text = "true"
    · simp [yes]
    · by_cases no : text = "false" <;> simp [yes, no]

theorem isBlank_truth (value : Bool) : ∀ c ∈ (toString value).toList, isBlank c = false := by
  have none : (toString value).toList.any isBlank = false := by cases value <;> decide
  exact fun c mem => Bool.eq_false_iff.2 (List.any_eq_false.1 none c mem)

/-! ## Trimming -/

/-- A text stands amid white space: there is nothing else before and after it. -/
def Amid (s core : List Char) : Prop :=
  ∃ before after, (∀ c ∈ before, isBlank c = true) ∧ (∀ c ∈ after, isBlank c = true) ∧
    s = before ++ core ++ after

/-- Only white space is trimmed. -/
theorem amid_trimmed (s : List Char) : Amid s (trimmed s) := by
  have front := List.takeWhile_append_dropWhile (p := isBlank) (l := s)
  have back := List.takeWhile_append_dropWhile (p := isBlank) (l := (s.dropWhile isBlank).reverse)
  refine ⟨s.takeWhile isBlank, ((s.dropWhile isBlank).reverse.takeWhile isBlank).reverse,
    fun c mem => List.mem_takeWhile_imp mem,
    fun c mem => List.mem_takeWhile_imp (List.mem_reverse.1 mem), ?_⟩
  unfold trimmed
  rw [List.append_assoc, ← List.reverse_append, back, List.reverse_reverse, front]

/-- Of a text without white space amid some, that text is left. -/
theorem trimmed_of_amid (clean : ∀ c ∈ core, isBlank c = false) (amid : Amid s core) :
    trimmed s = core := by
  obtain ⟨before, after, blank, blank', rfl⟩ := amid
  have keep {t : List Char} (clean : ∀ c ∈ t, isBlank c = false) {u : List Char}
      (blank : ∀ c ∈ u, isBlank c = true) :
      ((t ++ u).dropWhile isBlank).reverse.dropWhile isBlank = t.reverse := by
    cases t with
    | nil =>
      rw [List.nil_append, List.dropWhile_eq_nil_iff.2 blank]
      rfl
    | cons c t =>
      have dark : ¬isBlank c = true := by
        rw [clean c List.mem_cons_self]
        exact Bool.false_ne_true
      rw [List.cons_append, List.dropWhile_cons_of_neg dark, ← List.cons_append,
        List.reverse_append, List.dropWhile_append_of_pos fun c mem => blank c (List.mem_reverse.1 mem)]
      have clean' : ∀ c' ∈ (c :: t).reverse, isBlank c' = false :=
        fun c' mem => clean c' (List.mem_reverse.1 mem)
      cases reversed : (c :: t).reverse with
      | nil => rfl
      | cons d others =>
        rw [reversed] at clean'
        rw [List.dropWhile_cons_of_neg]
        rw [clean' d List.mem_cons_self]
        exact Bool.false_ne_true
  unfold trimmed
  rw [List.append_assoc, List.dropWhile_append_of_pos blank, keep clean blank',
    List.reverse_reverse]

end ForeignEval.Text

import ForeignEval.Proofs.Json.Written

/-!
# Numbers of any form

A number after its sign: digits without a zero in front, perhaps a point and more digits, perhaps an
exponent. All such texts are passed as numbers. Those that have a fraction or an exponent are read
as doubles: what counts is the number of all digits together and the power of ten of the last one.

* **Forms** — `NumberForm`, with its digits and its exponent.
* **Passing** — `skipNumber_of_numberForm`.
* **Reading** — `readNumber_of_fraction`, `readNumber_of_exponent`, for digits that make a number of
  64 bits.
-/

namespace ForeignEval.Json

/-! ## Forms -/

/-- Decimal digits, of which there is one at least. -/
structure Digits (digits : List Char) : Prop where
  some : digits ≠ []
  plain : ∀ c ∈ digits, isDigit c = true

/-- The digits before the point: a zero stands there alone. -/
structure Whole (digits : List Char) : Prop extends Digits digits where
  bare : ∀ c others, digits ≠ '0' :: c :: others

/-- An exponent after its letter, and what follows. -/
inductive Exponent : Int → List Char → List Char → Prop
  | unsigned {digits rest : List Char} (decimal : Digits digits) (ends : DigitsEnd rest) :
      Exponent (Nat.ofDigitChars 10 digits 0) (digits ++ rest) rest
  | up {digits rest : List Char} (decimal : Digits digits) (ends : DigitsEnd rest) :
      Exponent (Nat.ofDigitChars 10 digits 0) ('+' :: (digits ++ rest)) rest
  | down {digits rest : List Char} (decimal : Digits digits) (ends : DigitsEnd rest) :
      Exponent (-Nat.ofDigitChars 10 digits 0) ('-' :: (digits ++ rest)) rest

/-- What follows the digits of a number: an exponent or nothing of it, and then something else. -/
inductive Scale : Int → List Char → List Char → Prop
  | none {rest : List Char} (ends : NumberEnds rest) : Scale 0 rest rest
  | some {letter : Char} {e : Int} {s rest : List Char} (mark : letter = 'e' ∨ letter = 'E')
      (exponent : Exponent e s rest) : Scale e (letter :: s) rest

/-- A number after its sign, by its digits before and after the point and its exponent, and what
follows. -/
inductive NumberForm : (whole fraction : List Char) → Int → List Char → List Char → Prop
  | whole {whole s rest : List Char} {e : Int} (front : Whole whole) (scale : Scale e s rest) :
      NumberForm whole [] e (whole ++ s) rest
  | fraction {whole fraction s rest : List Char} {e : Int} (front : Whole whole)
      (back : Digits fraction) (scale : Scale e s rest) :
      NumberForm whole fraction e (whole ++ '.' :: (fraction ++ s)) rest

variable {whole fraction s rest : List Char} {e : Int} {letter : Char}

theorem Scale.digitsEnd (scale : Scale e s rest) : DigitsEnd s := by
  cases scale with
  | none ends => exact ends.digitsEnd
  | some mark exponent =>
    refine digitsEnd_cons ?_
    rcases mark with rfl | rfl <;> decide

theorem Scale.ne_point (scale : Scale e s rest) (others : List Char) : s ≠ '.' :: others := by
  cases scale with
  | none ends =>
    rintro rfl
    exact (ends _ _ rfl).2.1 rfl
  | some mark exponent =>
    rintro same
    cases same
    rcases mark with same | same <;> exact absurd same (by decide)

theorem length_le_of_exponent (exponent : Exponent e s rest) : rest.length ≤ s.length := by
  cases exponent <;> simp only [List.length_cons, List.length_append] <;> omega

theorem length_le_of_scale (scale : Scale e s rest) : rest.length ≤ s.length := by
  cases scale with
  | none => exact Nat.le_refl _
  | some mark exponent => exact Nat.le_succ_of_le (length_le_of_exponent exponent)

theorem length_lt_of_numberForm (form : NumberForm whole fraction e s rest) :
    rest.length < s.length := by
  cases form with
  | whole front scale =>
    have shorter := length_le_of_scale scale
    have some := List.length_pos_iff.2 front.some
    rw [List.length_append]
    omega
  | fraction front back scale =>
    have shorter := length_le_of_scale scale
    rw [List.length_append, List.length_cons, List.length_append]
    omega

/-- A number starts with a digit. -/
theorem NumberForm.exists_cons (form : NumberForm whole fraction e s rest) :
    ∃ c others, s = c :: others ∧ isDigit c = true := by
  have start {digits others : List Char} (front : Whole digits) :
      ∃ c others', digits ++ others = c :: others' ∧ isDigit c = true := by
    cases digits with
    | nil => exact absurd rfl front.some
    | cons c digits => exact ⟨c, digits ++ others, rfl, front.plain c List.mem_cons_self⟩
  cases form with
  | whole front => exact start front
  | fraction front => exact start front

/-! ## Passing -/

theorem skipExponent_of_exponent (exponent : Exponent e s rest) : skipExponent s = .ok rest := by
  have pass {c : Char} {digits : List Char} (decimal : Digits (c :: digits)) (ends : DigitsEnd rest) :
      (if isDigit c then Except.ok ((digits ++ rest).dropWhile isDigit)
        else .error ReadError.invalidNumber) = .ok rest := by
    have others : ∀ c ∈ digits, isDigit c = true :=
      fun c mem => decimal.plain c (List.mem_cons_of_mem _ mem)
    rw [if_pos (decimal.plain c List.mem_cons_self), dropWhile_digits others ends]
  cases exponent with
  | up decimal ends =>
    obtain ⟨c, digits, rfl⟩ := List.exists_cons_of_ne_nil decimal.some
    exact pass decimal ends
  | down decimal ends =>
    obtain ⟨c, digits, rfl⟩ := List.exists_cons_of_ne_nil decimal.some
    exact pass decimal ends
  | unsigned decimal ends =>
    obtain ⟨c, digits, rfl⟩ := List.exists_cons_of_ne_nil decimal.some
    have first := decimal.plain c List.mem_cons_self
    have same := pass decimal ends
    unfold skipExponent
    split
    · next signed => exact absurd (List.cons.inj signed).1 (ne_of_isDigit first (by decide))
    · next signed => exact absurd (List.cons.inj signed).1 (ne_of_isDigit first (by decide))
    · exact same

theorem skipScale_of_scale (scale : Scale e s rest) : skipScale s = .ok rest := by
  cases scale with
  | none ends =>
    unfold skipScale
    split
    · next others => exact absurd rfl (ends _ _ rfl).2.2.1
    · next others => exact absurd rfl (ends _ _ rfl).2.2.2
    · rfl
  | some mark exponent =>
    have passed := skipExponent_of_exponent exponent
    rcases mark with rfl | rfl <;> exact passed

/-- A number is passed. -/
theorem skipNumber_of_numberForm (form : NumberForm whole fraction e s rest) :
    skipNumber s = .ok rest := by
  cases form with
  | whole front scale =>
    unfold skipNumber
    rw [takeWhile_digits front.plain scale.digitsEnd, dropWhile_digits front.plain scale.digitsEnd]
    split
    · exact absurd rfl front.some
    · exact absurd rfl (front.bare _ _)
    · split
      · exact absurd rfl (scale.ne_point _)
      · exact skipScale_of_scale scale
  | @fraction _ t _ _ front back scale =>
    have point : DigitsEnd ('.' :: (fraction ++ t)) := digitsEnd_cons (by decide)
    unfold skipNumber
    rw [takeWhile_digits front.plain point, dropWhile_digits front.plain point]
    split
    · exact absurd rfl front.some
    · exact absurd rfl (front.bare _ _)
    · have tail := dropWhile_digits back.plain scale.digitsEnd
      cases digits : fraction ++ t with
      | nil => exact absurd (List.append_eq_nil_iff.1 digits).1 back.some
      | cons c others =>
        have first : isDigit c = true := by
          cases fraction with
          | nil => exact absurd rfl back.some
          | cons d fraction =>
            obtain ⟨rfl, -⟩ := List.cons.inj digits
            exact back.plain d List.mem_cons_self
        show (if isDigit c then skipScale ((c :: others).dropWhile isDigit)
          else .error .invalidNumber) = .ok rest
        rw [if_pos first, ← digits, tail, skipScale_of_scale scale]

/-! ## Reading -/

theorem foldl_digitValue (digits : List Char) (n : Nat) :
    digits.foldl (fun n c => n * 10 + digitValue c) n = Nat.ofDigitChars 10 digits n := by
  induction digits generalizing n with
  | nil => rw [Nat.ofDigitChars_nil, List.foldl_nil]
  | cons c digits ih =>
    rw [List.foldl_cons, ih, Nat.ofDigitChars_cons, Nat.mul_comm 10 n]
    rfl

/-- An exponent is read and added. -/
theorem readExponent_of_exponent (exponent : Exponent e s rest) (small : e.natAbs < Nat.pow 2 31)
    (positive : Bool) (significand : Nat) (start : Int) :
    readExponent positive significand start s =
      (do return (.floating (← scaled positive significand (start + e)), rest)) := by
  -- what is done with the digits, once it is known whether a minus stands before them
  have finish (down : Bool) {c : Char} {digits : List Char} (decimal : Digits (c :: digits))
      (ends : DigitsEnd rest) (few : Nat.ofDigitChars 10 (c :: digits) 0 < Nat.pow 2 31) :
      (if isDigit c then
        let size := ((c :: digits ++ rest).takeWhile isDigit).foldl
          (fun n c => n * 10 + digitValue c) 0
        if size < Nat.pow 2 31 then (do
          let x ← scaled positive significand (if down then start - size else start + size)
          return (Number.floating x, (c :: digits ++ rest).dropWhile isDigit))
        else if significand ≠ 0 && !down then .error .outOfRange
        else .ok (Number.floating (if positive then Double.zero else Double.zero.neg),
          (c :: digits ++ rest).dropWhile isDigit)
      else .error .invalidNumber) =
        (do return (Number.floating (← scaled positive significand
          (if down then start - Nat.ofDigitChars 10 (c :: digits) 0
            else start + Nat.ofDigitChars 10 (c :: digits) 0)), rest)) := by
    rw [if_pos (decimal.plain c List.mem_cons_self), takeWhile_digits decimal.plain ends,
      dropWhile_digits decimal.plain ends, foldl_digitValue]
    dsimp only
    rw [if_pos few]
  cases exponent with
  | up decimal ends =>
    obtain ⟨c, digits, rfl⟩ := List.exists_cons_of_ne_nil decimal.some
    exact finish false decimal ends small
  | down decimal ends =>
    obtain ⟨c, digits, rfl⟩ := List.exists_cons_of_ne_nil decimal.some
    rw [Int.natAbs_neg] at small
    exact finish true decimal ends small
  | unsigned decimal ends =>
    obtain ⟨c, digits, rfl⟩ := List.exists_cons_of_ne_nil decimal.some
    have first := decimal.plain c List.mem_cons_self
    have same := finish false decimal ends small
    unfold readExponent
    split
    next down t found =>
    split at found
    · next signed => exact absurd (List.cons.inj signed).1 (ne_of_isDigit first (by decide))
    · next signed => exact absurd (List.cons.inj signed).1 (ne_of_isDigit first (by decide))
    · obtain ⟨rfl, rfl⟩ := Prod.mk.inj found
      exact same

theorem readScale_of_scale (scale : Scale e s rest) (small : e.natAbs < Nat.pow 2 31)
    (positive : Bool) (significand : Nat) (start : Int) :
    readScale positive significand start s =
      (do return (.floating (← scaled positive significand (start + e)), rest)) := by
  cases scale with
  | none ends => rw [readScale_of_ends ends, Int.add_zero]
  | some mark exponent =>
    have read := readExponent_of_exponent exponent small positive significand start
    rcases mark with rfl | rfl <;> exact read

section

variable (fits : Nat.ofDigitChars 10 (whole ++ fraction) 0 < UInt64.size)
include fits

/-- The digits before the point are gathered, and those after it as well. -/
theorem gather_append :
    gather 0 whole = (Nat.ofDigitChars 10 whole 0, []) ∧
      gather (Nat.ofDigitChars 10 whole 0) fraction =
        (Nat.ofDigitChars 10 (whole ++ fraction) 0, []) := by
  rw [Nat.ofDigitChars_append] at fits ⊢
  have grown := Text.le_ofDigitChars fraction (Nat.ofDigitChars 10 whole 0)
  exact ⟨gather_of_lt (by omega), gather_of_lt fits⟩

/-- A number with a fraction is the number of all its digits, scaled. -/
theorem readNumber_of_fraction (front : Whole whole) (back : Digits fraction)
    (scale : Scale e s rest) (small : e.natAbs < Nat.pow 2 31) (positive : Bool) :
    readNumber positive (whole ++ '.' :: (fraction ++ s)) =
      (do
        let x ← scaled positive (Nat.ofDigitChars 10 (whole ++ fraction) 0) (e - fraction.length)
        return (.floating x, rest)) := by
  obtain ⟨gathered, gathered'⟩ := gather_append fits
  have point : DigitsEnd ('.' :: (fraction ++ s)) := digitsEnd_cons (by decide)
  have read : readFraction positive (Nat.ofDigitChars 10 whole 0) 0 (fraction ++ s) =
      (do
        let x ← scaled positive (Nat.ofDigitChars 10 (whole ++ fraction) 0) (e - fraction.length)
        return (.floating x, rest)) := by
    have some : ¬fraction.isEmpty = true := by
      rw [List.isEmpty_iff]
      exact back.some
    unfold readFraction
    rw [takeWhile_digits back.plain scale.digitsEnd, dropWhile_digits back.plain scale.digitsEnd]
    dsimp only
    rw [if_neg some, gathered']
    dsimp only
    rw [readScale_of_scale scale small]
    have power : (0 : Int) - (fraction.length - ([] : List Char).length) + e =
        e - fraction.length := by
      rw [List.length_nil]
      omega
    rw [power]
  unfold readNumber
  rw [takeWhile_digits front.plain point, dropWhile_digits front.plain point]
  dsimp only
  split
  · exact absurd rfl front.some
  · exact absurd rfl (front.bare _ _)
  · rw [gathered]
    exact read

end

/-- A number with an exponent is the number of its digits, scaled. -/
theorem readNumber_of_exponent (fits : Nat.ofDigitChars 10 whole 0 < UInt64.size)
    (front : Whole whole) (exponent : Exponent e s rest) (small : e.natAbs < Nat.pow 2 31)
    (positive : Bool) :
    readNumber positive (whole ++ 'e' :: s) =
      (do return (.floating (← scaled positive (Nat.ofDigitChars 10 whole 0) e), rest)) := by
  have mark : DigitsEnd ('e' :: s) := digitsEnd_cons (by decide)
  have read := readExponent_of_exponent exponent small positive (Nat.ofDigitChars 10 whole 0) 0
  rw [Int.zero_add] at read
  unfold readNumber
  rw [takeWhile_digits front.plain mark, dropWhile_digits front.plain mark]
  dsimp only
  split
  · exact absurd rfl front.some
  · exact absurd rfl (front.bare _ _)
  · rw [gather_of_lt fits]
    exact read

end ForeignEval.Json

import ForeignEval.Proofs.Decimal.Shortest
import ForeignEval.Proofs.Json.Numbers

/-!
# Doubles in JSON

A double is written with a fraction or an exponent, so that it is read as a double again, from all
its digits as one number and the power of ten of the last one. Whole numbers that are written
positionally have one digit more than they need, the zero behind the point.

* **Forms** — `Floating`: numbers with a fraction or an exponent; `readNumber_of_floating`.
* **Writing** — `floating_decimal`, for the three layouts of a decimal; `written` is the decimal
  that its text spells.
* **Texts** — `floating_text` and `readDouble_of_text`, for `spelledDecimal`.
-/

namespace ForeignEval.Json

/-! ## Forms -/

/-- A number with a fraction or an exponent, as a decimal, and what follows. -/
inductive Floating : Decimal → List Char → List Char → Prop
  | fraction {whole fraction s rest : List Char} {e : Int} (front : Whole whole)
      (back : Digits fraction) (scale : Scale e s rest) (small : e.natAbs < Nat.pow 2 31) :
      Floating ⟨Nat.ofDigitChars 10 (whole ++ fraction) 0, e - fraction.length⟩
        (whole ++ '.' :: (fraction ++ s)) rest
  | exponent {whole s rest : List Char} {e : Int} (front : Whole whole)
      (exponent : Exponent e s rest) (small : e.natAbs < Nat.pow 2 31) :
      Floating ⟨Nat.ofDigitChars 10 whole 0, e⟩ (whole ++ 'e' :: s) rest

variable {d : Decimal} {s rest : List Char}

theorem Floating.numberForm (floating : Floating d s rest) :
    ∃ whole fraction e, NumberForm whole fraction e s rest := by
  cases floating with
  | fraction front back scale => exact ⟨_, _, _, .fraction front back scale⟩
  | exponent front exponent => exact ⟨_, _, _, .whole front (.some (.inl rfl) exponent)⟩

/-- Its digits are scaled by the power of ten. -/
theorem readNumber_of_floating (floating : Floating d s rest) (fits : d.significand < UInt64.size)
    (positive : Bool) : readNumber positive s =
      (do return (.floating (← scaled positive d.significand d.exponent), rest)) := by
  cases floating with
  | fraction front back scale small => exact readNumber_of_fraction fits front back scale small positive
  | exponent front exponent small => exact readNumber_of_exponent fits front exponent small positive

/-! ## Digits -/

/-- The decimal of a positive number starts with another digit than zero. -/
theorem toDigits_eq_cons {n : Nat} (some : 0 < n) :
    ∃ c others, Nat.toDigits 10 n = c :: others ∧ c ≠ '0' := by
  cases digits : Nat.toDigits 10 n with
  | nil => exact absurd digits Nat.toDigits_ne_nil
  | cons c others =>
    refine ⟨c, others, rfl, ?_⟩
    rintro rfl
    cases others with
    | cons d others => exact toDigits_ne_zero_cons n d others digits
    | nil =>
      have value := @Nat.ofDigitChars_ten_toDigits n
      rw [digits] at value
      have zero : Nat.ofDigitChars 10 ['0'] 0 = 0 := by decide
      omega

theorem ofDigitChars_zeros (k n : Nat) :
    Nat.ofDigitChars 10 (List.replicate k '0') n = n * 10 ^ k := by
  induction k generalizing n with
  | zero => rw [List.replicate_zero, Nat.ofDigitChars_nil, Nat.pow_zero, Nat.mul_one]
  | succ k ih =>
    rw [List.replicate_succ, Nat.ofDigitChars_cons, ih, Nat.sub_self, Nat.add_zero, Nat.pow_succ]
    ring

theorem isDigit_of_mem_zeros {k : Nat} {c : Char} (mem : c ∈ List.replicate k '0') :
    isDigit c = true := by
  rw [List.eq_of_mem_replicate mem]
  decide

theorem digits_zero : Digits ['0'] := by
  refine ⟨List.cons_ne_nil _ _, fun c mem => ?_⟩
  rw [List.mem_singleton.1 mem]
  rfl

/-! ## Writing -/

/-- The digits of a decimal, with zeros in front if they do not reach before the point. -/
def padded (d : Decimal) (places : Nat) : List Char :=
  List.replicate (places + 1 - d.digits.length) '0' ++ d.digits

theorem length_padded (d : Decimal) (places : Nat) :
    (padded d places).length = max (places + 1) d.digits.length := by
  unfold padded
  rw [List.length_append, List.length_replicate]
  omega

theorem isDigit_of_mem_padded {places : Nat} {c : Char} (mem : c ∈ padded d places) :
    isDigit c = true := by
  rcases List.mem_append.1 mem with mem | mem
  · exact isDigit_of_mem_zeros mem
  · exact isDigit_of_mem_toDigits mem

theorem ofDigitChars_padded (d : Decimal) (places : Nat) :
    Nat.ofDigitChars 10 (padded d places) 0 = d.significand := by
  unfold padded Decimal.digits
  rw [Nat.ofDigitChars_append, ofDigitChars_zeros, Nat.zero_mul, Nat.ofDigitChars_ten_toDigits]

/-- There are zeros in front only if there is just the one before the point. -/
theorem whole_padded (some : 0 < d.significand) (places : Nat) :
    Whole ((padded d places).take ((padded d places).length - places)) := by
  have length := length_padded d places
  refine ⟨⟨?_, fun c mem => isDigit_of_mem_padded (List.mem_of_mem_take mem)⟩, ?_⟩
  · intro empty
    have none := congrArg List.length empty
    rw [List.length_take, List.length_nil] at none
    omega
  · intro c others same
    by_cases short : d.digits.length ≤ places
    · have two := congrArg List.length same
      rw [List.length_take, List.length_cons, List.length_cons] at two
      omega
    · have bare : padded d places = d.digits := by
        unfold padded
        rw [Nat.sub_eq_zero_of_le (by omega), List.replicate_zero, List.nil_append]
      obtain ⟨c', others', digits, other⟩ := toDigits_eq_cons some
      obtain ⟨k, k_eq⟩ : ∃ k, (padded d places).length - places = k + 1 :=
        Nat.exists_eq_add_one_of_ne_zero (by omega)
      unfold Decimal.digits at bare
      rw [k_eq, bare, digits, List.take_succ_cons] at same
      exact other (List.cons.inj same).1

theorem digits_padded (d : Decimal) {places : Nat} (some : 0 < places) :
    Digits ((padded d places).drop ((padded d places).length - places)) := by
  have length := length_padded d places
  refine ⟨?_, fun c mem => isDigit_of_mem_padded (List.mem_of_mem_drop mem)⟩
  intro empty
  have none := congrArg List.length empty
  rw [List.length_drop, List.length_nil] at none
  omega

theorem positional_eq (d : Decimal) : Decimal.Layout.positional d =
    if 0 ≤ d.exponent then
      String.ofList (d.digits ++ List.replicate d.exponent.toNat '0' ++ ['.', '0'])
    else
      let places := (-d.exponent).toNat
      String.ofList ((padded d places).take ((padded d places).length - places) ++
        '.' :: (padded d places).drop ((padded d places).length - places)) := rfl

/-- A whole number gets zeros up to the point, and one behind it. -/
theorem floating_positional_whole (some : 0 < d.significand) (whole : 0 ≤ d.exponent)
    (ends : NumberEnds rest) :
    Floating ⟨d.significand * 10 ^ (d.exponent.toNat + 1), -1⟩
      ((Decimal.Layout.positional d).toList ++ rest) rest := by
  obtain ⟨c, others, digits, other⟩ := toDigits_eq_cons some
  have front : Whole (d.digits ++ List.replicate d.exponent.toNat '0') := by
    refine ⟨⟨?_, ?_⟩, ?_⟩
    · unfold Decimal.digits
      rw [digits]
      exact List.cons_ne_nil _ _
    · intro c mem
      rcases List.mem_append.1 mem with mem | mem
      · exact isDigit_of_mem_toDigits mem
      · exact isDigit_of_mem_zeros mem
    · intro c' others' same
      unfold Decimal.digits at same
      rw [digits] at same
      exact other (List.cons.inj same).1
  have back := digits_zero
  have form := Floating.fraction front back (.none ends) (by decide)
  have value : Nat.ofDigitChars 10 (d.digits ++ List.replicate d.exponent.toNat '0' ++ ['0']) 0 =
      d.significand * 10 ^ (d.exponent.toNat + 1) := by
    have last : (['0'] : List Char) = List.replicate 1 '0' := rfl
    unfold Decimal.digits
    rw [List.append_assoc, last, List.replicate_append_replicate, Nat.ofDigitChars_append,
      Nat.ofDigitChars_ten_toDigits, ofDigitChars_zeros]
  rw [value] at form
  rw [positional_eq, if_pos whole, String.toList_ofList, List.append_assoc]
  exact form

/-- Digits that reach behind the point are padded with zeros up to it. -/
theorem floating_positional_broken (some : 0 < d.significand) (broken : ¬0 ≤ d.exponent)
    (ends : NumberEnds rest) :
    Floating d ((Decimal.Layout.positional d).toList ++ rest) rest := by
  obtain ⟨places, places_eq⟩ : ∃ places, places = (-d.exponent).toNat := ⟨_, rfl⟩
  have behind : 0 < places := by omega
  have form := Floating.fraction (whole_padded some places) (digits_padded d behind) (.none ends)
    (by decide)
  have last : (0 : Int) - ((padded d places).drop ((padded d places).length - places)).length =
      d.exponent := by
    have length := length_padded d places
    rw [List.length_drop]
    omega
  rw [List.take_append_drop, ofDigitChars_padded, last] at form
  rw [positional_eq, if_neg broken]
  dsimp only
  rw [← places_eq, String.toList_ofList, List.append_assoc]
  exact form

/-- The decimal of an exponent, with its sign. -/
theorem exponent_toString (e : Int) (ends : DigitsEnd rest) :
    Exponent e ((if 0 ≤ e then "+" else "").toList ++ (toString e).toList ++ rest) rest := by
  have digits (n : Nat) : Digits (Nat.toDigits 10 n) :=
    ⟨Nat.toDigits_ne_nil, fun c mem => isDigit_of_mem_toDigits mem⟩
  cases e with
  | ofNat n =>
    have up := Exponent.up (digits n) ends
    rw [Nat.ofDigitChars_ten_toDigits] at up
    have text : (toString (Int.ofNat n)).toList = Nat.toDigits 10 n := Nat.toList_repr
    rw [if_pos (show 0 ≤ Int.ofNat n from Int.natCast_nonneg n), text]
    exact up
  | negSucc n =>
    have down := Exponent.down (digits (n + 1)) ends
    rw [Nat.ofDigitChars_ten_toDigits] at down
    have text : (toString (Int.negSucc n)).toList = '-' :: Nat.toDigits 10 (n + 1) := by
      show ("-" ++ Nat.repr (n + 1)).toList = _
      rw [String.toList_append, Nat.toList_repr]
      rfl
    rw [if_neg (by omega), text]
    exact down

/-- One digit stands before the point, if there are others, and the exponent is the one of that. -/
theorem floating_scientific (some : 0 < d.significand) (small : d.leading.natAbs < Nat.pow 2 31)
    (ends : NumberEnds rest) :
    Floating d ((Decimal.Layout.json.scientific d).toList ++ rest) rest := by
  have exponent := exponent_toString d.leading ends.digitsEnd
  have plain : ∀ c ∈ d.digits, isDigit c = true := fun c mem => isDigit_of_mem_toDigits mem
  have value : Nat.ofDigitChars 10 d.digits 0 = d.significand := Nat.ofDigitChars_ten_toDigits
  obtain ⟨c, others, digits, -⟩ := toDigits_eq_cons some
  have digits' : d.digits = c :: others := digits
  rw [digits'] at plain value
  have front : Whole [c] :=
    ⟨⟨List.cons_ne_nil _ _, fun c' mem => plain c' (by
      rw [List.mem_singleton.1 mem]
      exact List.mem_cons_self)⟩, fun c' others' same => by cases same⟩
  have leading_eq : d.leading = d.exponent + others.length := by
    unfold Decimal.leading
    rw [digits', List.length_cons]
    omega
  have signed : (0 ≤ d.leading ∧ Decimal.Layout.json.signedExponent = true) = (0 ≤ d.leading) :=
    propext (and_iff_left rfl)
  unfold Decimal.Layout.scientific
  dsimp only
  rw [digits']
  simp only [signed, String.toList_append, String.toList_ofList, List.append_assoc] at exponent ⊢
  cases others with
  | nil =>
    have form := Floating.exponent front exponent small
    have same : (⟨d.significand, d.leading⟩ : Decimal) = d := by
      rw [leading_eq, List.length_nil, Nat.cast_zero, Int.add_zero]
    rw [value, same] at form
    exact form
  | cons c' others =>
    have back : Digits (c' :: others) :=
      ⟨List.cons_ne_nil _ _, fun c mem => plain c (List.mem_cons_of_mem _ mem)⟩
    have form := Floating.fraction front back (.some (.inl rfl) exponent) small
    have last : d.leading - (c' :: others).length = d.exponent := by omega
    rw [List.singleton_append, value, last] at form
    exact form

/-- The decimal that the text of a decimal spells: a whole number that is written positionally gets a
zero behind the point. -/
def written (d : Decimal) : Decimal :=
  if (-5 ≤ d.leading ∧ d.leading ≤ 15) ∧ 0 ≤ d.exponent then
    ⟨d.significand * 10 ^ (d.exponent.toNat + 1), -1⟩
  else d

theorem decimal_eq (d : Decimal) : Decimal.Layout.json.decimal d =
    if -5 ≤ d.leading ∧ d.leading ≤ 15 then Decimal.Layout.positional d
    else Decimal.Layout.json.scientific d := rfl

/-- Every decimal is written as a number with a fraction or an exponent. -/
theorem floating_decimal (some : 0 < d.significand) (small : d.leading.natAbs < Nat.pow 2 31)
    (ends : NumberEnds rest) :
    Floating (written d) ((Decimal.Layout.json.decimal d).toList ++ rest) rest := by
  rw [decimal_eq]
  unfold written
  by_cases near : -5 ≤ d.leading ∧ d.leading ≤ 15
  · rw [if_pos near]
    by_cases whole : 0 ≤ d.exponent
    · rw [if_pos ⟨near, whole⟩]
      exact floating_positional_whole some whole ends
    · rw [if_neg fun both => whole both.2]
      exact floating_positional_broken some whole ends
  · rw [if_neg near, if_neg fun both => near both.1]
    exact floating_scientific some small ends

/-! ## Texts -/

section

variable {x : Double}

theorem magnitude_lt (finite : x.isFinite = true) : x.magnitude < Double.infinite :=
  of_decide_eq_true finite

theorem text_of_isFinite (finite : x.isFinite = true) :
    (Decimal.Layout.json.text x).toList =
      (if x.isNegative then ['-'] else []) ++
        if x.magnitude = 0 then ['0', '.', '0']
        else (Decimal.Layout.json.decimal ((Binary.ofDouble x).shortest false)).toList := by
  have less := magnitude_lt finite
  have number : x.isNaN = false := by
    unfold Double.isNaN
    unfold Double.infinite at less
    rw [decide_eq_false_iff_not]
    omega
  have bounded : x.isInfinite = false := by
    unfold Double.isInfinite
    unfold Double.infinite at less
    rw [decide_eq_false_iff_not]
    omega
  unfold Decimal.Layout.text
  rw [number, bounded, if_neg Bool.false_ne_true, if_neg Bool.false_ne_true]
  dsimp only
  cases x.isNegative <;> split <;> rw [String.toList_append] <;> rfl

theorem text_of_not_isFinite (infinite : x.isFinite = false) : Decimal.Layout.json.text x = "null" := by
  unfold Double.isFinite at infinite
  rw [decide_eq_false_iff_not] at infinite
  unfold Decimal.Layout.text Double.isNaN Double.isInfinite
  split
  · rfl
  · next number =>
    rw [decide_eq_true_iff] at number
    rw [if_pos (by rw [decide_eq_true_iff]; omega)]
    cases x.isNegative <;> rfl

/-- The decimal that the text of a double spells, its sign left aside. -/
def spelledDecimal (x : Double) : Decimal :=
  if x.magnitude = 0 then ⟨0, -1⟩ else written ((Binary.ofDouble x).shortest false)

/-- The shortest decimal of a finite number other than zero has a short exponent. -/
theorem natAbs_leading_lt {d : Decimal} (few : d.significand ≤ 10 ^ 17) (least : -324 ≤ d.exponent)
    (greatest : d.exponent ≤ 308) : d.leading.natAbs < Nat.pow 2 31 := by
  have digits : d.digits.length ≤ 18 :=
    (Nat.length_toDigits_le_iff (by decide) (by decide)).2 (by omega)
  have power : Nat.pow 2 31 = 2147483648 := rfl
  unfold Decimal.leading
  omega

/-- The text of a finite double is its sign and a number with a fraction or an exponent. -/
theorem floating_text (finite : x.isFinite = true) (ends : NumberEnds rest) :
    ∃ s, (Decimal.Layout.json.text x).toList ++ rest = (if x.isNegative then '-' :: s else s) ∧
      Floating (spelledDecimal x) s rest := by
  have split {s : List Char} : (if x.isNegative then ['-'] else []) ++ s ++ rest =
      if x.isNegative then '-' :: (s ++ rest) else s ++ rest := by
    cases x.isNegative <;> rfl
  rw [text_of_isFinite finite, split]
  refine ⟨_, rfl, ?_⟩
  unfold spelledDecimal
  by_cases zero : x.magnitude = 0
  · rw [if_pos zero, if_pos zero]
    have front : Whole ['0'] := ⟨digits_zero, fun c others same => by cases same⟩
    exact .fraction front front.toDigits (.none ends) (by decide)
  · have less := magnitude_lt finite
    have positive := Nat.pos_of_ne_zero zero
    obtain ⟨some, few, least, rounds⟩ :=
      Binary.shortest_spec (Binary.isOf_ofDouble x) positive less false
    have greatest := Decimal.exponent_le some rounds less
    rw [if_neg zero, if_neg zero]
    exact floating_decimal some (natAbs_leading_lt few least greatest) ends

theorem written_rational (d : Decimal) : (written d).rational = d.rational := by
  unfold written
  split
  · next near =>
    obtain ⟨k, k_eq⟩ := Int.eq_ofNat_of_zero_le near.2
    have exponent : d.exponent.toNat = k := by omega
    unfold Decimal.rational
    rw [exponent, k_eq, zpow_natCast]
    push_cast
    rw [pow_succ, zpow_neg_one]
    field_simp
  · rfl

theorem written_spec {d : Decimal} (some : 0 < d.significand) (few : d.significand ≤ 10 ^ 17)
    (least : -324 ≤ d.exponent) (greatest : d.exponent ≤ 308) :
    0 < (written d).significand ∧ (written d).significand ≤ 10 ^ 17 ∧
      -324 ≤ (written d).exponent ∧ (written d).exponent ≤ 308 := by
  unfold written
  split
  · next near =>
    have digits : d.significand < 10 ^ d.digits.length :=
      (Nat.length_toDigits_le_iff (by decide) Nat.length_toDigits_pos).1 (Nat.le_refl _)
    have long : d.digits.length + (d.exponent.toNat + 1) ≤ 17 := by
      have leading := near.1.2
      unfold Decimal.leading at leading
      omega
    refine ⟨Nat.mul_pos some (Nat.pow_pos (by decide)), ?_, show (-324 : Int) ≤ -1 by decide,
      show (-1 : Int) ≤ 308 by decide⟩
    calc d.significand * 10 ^ (d.exponent.toNat + 1)
        ≤ 10 ^ d.digits.length * 10 ^ (d.exponent.toNat + 1) := Nat.mul_le_mul_right _ digits.le
      _ = 10 ^ (d.digits.length + (d.exponent.toNat + 1)) := (Nat.pow_add _ _ _).symm
      _ ≤ 10 ^ 17 := Nat.pow_le_pow_right (by decide) long
  · exact ⟨some, few, least, greatest⟩

/-- The decimal that is spelled rounds to the double, and its digits make a number of 64 bits. -/
theorem spelledDecimal_spec (finite : x.isFinite = true) (nonzero : x.magnitude ≠ 0) :
    0 < (spelledDecimal x).significand ∧ (spelledDecimal x).significand ≤ 10 ^ 17 ∧
      -324 ≤ (spelledDecimal x).exponent ∧ (spelledDecimal x).exponent ≤ 308 ∧
      Double.Rounds (spelledDecimal x).rational x.magnitude := by
  obtain ⟨some, few, least, rounds⟩ := Binary.shortest_spec (Binary.isOf_ofDouble x)
    (Nat.pos_of_ne_zero nonzero) (magnitude_lt finite) false
  have greatest := Decimal.exponent_le some rounds (magnitude_lt finite)
  obtain ⟨some', few', least', greatest'⟩ := written_spec some few least greatest
  unfold spelledDecimal
  rw [if_neg nonzero, written_rational]
  exact ⟨some', few', least', greatest', rounds⟩

theorem spelledDecimal_fits (finite : x.isFinite = true) :
    (spelledDecimal x).significand < UInt64.size := by
  have size : UInt64.size = 18446744073709551616 := rfl
  by_cases zero : x.magnitude = 0
  · unfold spelledDecimal
    rw [if_pos zero]
    decide
  · obtain ⟨-, few, -⟩ := spelledDecimal_spec finite zero
    omega

/-- The text of a finite double is read by scaling what it spells. -/
theorem readDouble_of_text (finite : x.isFinite = true) (ends : NumberEnds rest)
    (gap : Gap s ((Decimal.Layout.json.text x).toList ++ rest)) :
    readDouble s =
      (do
        let y ← scaled (!x.isNegative) (spelledDecimal x).significand (spelledDecimal x).exponent
        return (y, rest)) := by
  obtain ⟨t, text, floating⟩ := floating_text finite ends
  have read := readNumber_of_floating floating (spelledDecimal_fits finite)
  have number : readAnyNumber "f64" s = readNumber (!x.isNegative) t := by
    rw [text] at gap
    cases negative : x.isNegative with
    | true =>
      rw [negative, if_pos rfl] at gap
      unfold readAnyNumber
      rw [skipSpace_of_gap gap (by decide)]
      rfl
    | false =>
      rw [negative, if_neg Bool.false_ne_true] at gap
      obtain ⟨whole, fraction, e, form⟩ := floating.numberForm
      obtain ⟨c, others, rfl, digit⟩ := form.exists_cons
      exact readAnyNumber_of_isDigit gap digit "f64"
  unfold readDouble
  rw [number, read]
  cases scaled (!x.isNegative) (spelledDecimal x).significand (spelledDecimal x).exponent <;> rfl

end

end ForeignEval.Json

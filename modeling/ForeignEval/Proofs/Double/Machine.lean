import ForeignEval.Proofs.Double.Grid

/-!
# Arithmetic of machine numbers

Products and quotients of machine numbers, and machine numbers of natural numbers, are what the exact
number rounds to. Their model cuts significands to fifty-three bits and keeps two bits on what was
cut off; here these are related to the exact number.

* **Cutting** — `Marks`: what the two bits say is true, and stays so when one more bit is cut off;
  `Nearest`: what they are rounded to.
* **Rounding** — `roundWithAccuracy_rounds`.
* **Packing** — `machine`: the machine number of a magnitude; `toNat_toBits_machine` and
  `unpack_machine`.
* **Operations** — `machine_mul`, `machine_div`, `ofNat_eq_machine`.
-/

namespace ForeignEval.Double

open Float.Model Float.Model.UnpackedFloat

/-! ## Cutting significands -/

/-- A number, in units of the last bit of a significand that it was cut to: what the two bits behind
it say about the rest is true. -/
def Marks (cut : ExtendedMantissa) (v : ℚ) : Prop :=
  match cut.roundBit, cut.stickyBit with
  | false, false => v = cut.mantissa
  | false, true => cut.mantissa < v ∧ v < cut.mantissa + 1 / 2
  | true, false => v = cut.mantissa + 1 / 2
  | true, true => cut.mantissa + 1 / 2 < v ∧ v < cut.mantissa + 1

/-- Half of the number is cut one bit shorter: the last bit of the significand is the round bit then,
and the two bits behind it stick. -/
theorem Marks.shiftRightOne {cut : ExtendedMantissa} {v : ℚ} (marks : Marks cut v) :
    Marks cut.shiftRightOne (v / 2) := by
  obtain ⟨m, round, sticky⟩ := cut
  have halves : (m : ℚ) = 2 * (m / 2 : Nat) + (m % 2 : Nat) := by
    exact_mod_cast (Nat.div_add_mod m 2).symm
  have zero : ((0 : Nat) != 0) = false := rfl
  have one : ((1 : Nat) != 0) = true := rfl
  rcases Nat.mod_two_eq_zero_or_one m with low | low <;> rw [low] at halves <;>
    push_cast at halves <;> cases round <;> cases sticky <;>
    simp only [Marks, ExtendedMantissa.shiftRightOne, low, zero, one, Bool.or_self, Bool.or_true,
      Bool.or_false] at marks ⊢ <;>
    first
    | linarith
    | constructor <;> linarith

theorem Marks.shiftRight {cut : ExtendedMantissa} {v : ℚ} (marks : Marks cut v) (n : Nat) :
    Marks (cut >>> n) (v / 2 ^ n) := by
  induction n with
  | zero =>
    rw [pow_zero, div_one]
    exact marks
  | succ n ih =>
    rw [pow_succ, ← div_div]
    exact ih.shiftRightOne

theorem Marks.bounds {cut : ExtendedMantissa} {v : ℚ} (marks : Marks cut v) :
    (cut.mantissa : ℚ) ≤ v ∧ v < cut.mantissa + 1 := by
  obtain ⟨m, round, sticky⟩ := cut
  cases round <;> cases sticky <;> simp only [Marks] at marks <;> constructor <;> linarith

/-- A natural number is nearest to a number, and even if another one is as near. -/
structure Nearest (v : ℚ) (m : Nat) : Prop where
  below : (m : ℚ) - 1 / 2 ≤ v
  above : v ≤ m + 1 / 2
  evenBelow : v = m - 1 / 2 → m % 2 = 0
  evenAbove : v = m + 1 / 2 → m % 2 = 0

theorem Marks.nearest {cut : ExtendedMantissa} {v : ℚ} (marks : Marks cut v) :
    Nearest v cut.roundedMantissa := by
  obtain ⟨m, round, sticky⟩ := cut
  cases round <;> cases sticky <;>
    simp only [Marks, ExtendedMantissa.roundedMantissa, ExtendedMantissa.accuracy,
      Accuracy.roundToNearestEven] at marks ⊢
  · exact ⟨by linarith, by linarith, fun tie => by linarith, fun tie => by linarith⟩
  · exact ⟨by linarith, by linarith, fun tie => by linarith, fun tie => by linarith⟩
  · rcases Nat.mod_two_eq_zero_or_one m with even | odd
    · rw [even, Nat.add_zero]
      exact ⟨by linarith, by linarith, fun _ => even, fun _ => even⟩
    · rw [odd]
      exact ⟨by push_cast; linarith, by push_cast; linarith, fun _ => by omega, fun _ => by omega⟩
  · exact ⟨by push_cast; linarith, by push_cast; linarith, fun tie => by push_cast at tie; linarith,
      fun tie => by push_cast at tie; linarith⟩

theorem marks_exact (m : Nat) : Marks (.ofMantissaAndAccuracy m .exact) m := rfl

/-- A quotient is cut to its whole part. -/
theorem marks_quotient (m : Nat) {d : Nat} (some : 0 < d) :
    Marks (.ofMantissaAndAccuracy (m / d) (accuracyOfFraction (m % d) d)) (m / d : ℚ) := by
  have positive : (0 : ℚ) < d := by exact_mod_cast some
  have parts : (m : ℚ) / d = (m / d : Nat) + (m % d : Nat) / d := by
    have whole : (m : ℚ) = d * (m / d : Nat) + (m % d : Nat) := by
      exact_mod_cast (Nat.div_add_mod m d).symm
    field_simp
    linarith
  have small : ((m % d : Nat) : ℚ) < d := by exact_mod_cast Nat.mod_lt m some
  unfold accuracyOfFraction
  by_cases zero : m % d = 0
  · rw [if_pos zero]
    rw [zero, Nat.cast_zero, zero_div, add_zero] at parts
    exact parts
  · have positive' : (0 : ℚ) < (m % d : Nat) := by exact_mod_cast Nat.pos_of_ne_zero zero
    have rest : 0 < ((m % d : Nat) : ℚ) / d := div_pos positive' positive
    rw [if_neg zero]
    rcases Nat.lt_trichotomy (2 * (m % d)) d with less | same | greater
    · have half : ((m % d : Nat) : ℚ) / d < 1 / 2 := by
        rw [div_lt_iff₀ positive]
        have less' : (2 : ℚ) * (m % d : Nat) < d := by exact_mod_cast less
        linarith
      rw [Nat.compare_eq_lt.2 less]
      show ((m / d : Nat) : ℚ) < m / d ∧ (m : ℚ) / d < (m / d : Nat) + 1 / 2
      constructor <;> linarith
    · have half : ((m % d : Nat) : ℚ) / d = 1 / 2 := by
        rw [div_eq_iff positive.ne']
        have same' : (2 : ℚ) * (m % d : Nat) = d := by exact_mod_cast same
        linarith
      rw [Nat.compare_eq_eq.2 same]
      show (m : ℚ) / d = _
      rw [parts, half]
      rfl
    · have half : 1 / 2 < ((m % d : Nat) : ℚ) / d := by
        rw [lt_div_iff₀ positive]
        have greater' : (d : ℚ) < 2 * (m % d : Nat) := by exact_mod_cast greater
        linarith
      have less : ((m % d : Nat) : ℚ) / d < 1 := (div_lt_one positive).2 small
      rw [Nat.compare_eq_gt.2 greater]
      show ((m / d : Nat) : ℚ) + 1 / 2 < m / d ∧ (m : ℚ) / d < (m / d : Nat) + 1
      constructor <;> linarith

/-! ## Rounding -/

/-- The parts of a magnitude, with exponents without end. -/
def partsOf (n : Nat) : UnpackedFloat :=
  if h : significand n = 0 then .zero .positive
  else .finite .positive (significand n) ((doublings n : ℤ) - 1074) (Nat.pos_of_ne_zero h)

theorem partsOf_eq {n m : Nat} {e : ℤ} (some : 0 < m) (front : significand n = m)
    (exponent : (doublings n : ℤ) - 1074 = e) : partsOf n = .finite .positive m e some := by
  subst front exponent
  exact dif_neg some.ne'

theorem partsOf_add {m k : Nat} (some : 0 < m) (normal : k = 0 ∨ 2 ^ 52 ≤ m) (small : m < 2 ^ 53) :
    partsOf (m + k * 2 ^ 52) = .finite .positive m ((k : ℤ) - 1074) some :=
  partsOf_eq some (significand_eq normal small) (by rw [doublings_eq normal small])

/-- What a number is near to has as many bits as the number, or is the power of two behind it. -/
theorem Nearest.range {v : ℚ} {m k : Nat} (nearest : Nearest v m) (low : k = 0 ∨ 2 ^ 52 ≤ v)
    (high : v < 2 ^ 53) : (k = 0 ∨ 2 ^ 52 ≤ m) ∧ m ≤ 2 ^ 53 := by
  have least := nearest.below
  have greatest := nearest.above
  constructor
  · refine low.imp_right fun low => ?_
    have less : ((2 ^ 52 : Nat) : ℚ) < (m + 1 : Nat) := by
      push_cast
      linarith
    exact Nat.le_of_lt_succ (by exact_mod_cast less)
  · have less : (m : ℚ) < (2 ^ 53 + 1 : Nat) := by
      push_cast
      linarith
    exact Nat.le_of_lt_succ (by exact_mod_cast less)

/-- What is near to a number in units of the last bit is what it rounds to. -/
theorem Nearest.rounds {v : ℚ} {m k : Nat} (nearest : Nearest v m) (low : k = 0 ∨ 2 ^ 52 ≤ v)
    (high : v < 2 ^ 53) : Rounds (v * 2 ^ ((k : ℤ) - 1074)) (m + k * 2 ^ 52) := by
  have unit : (0 : ℚ) < 2 ^ ((k : ℤ) - 1074) := zpow_pos (by norm_num) _
  obtain ⟨normal, small⟩ := nearest.range low high
  have scale {a b : ℚ} (le : a ≤ b) : a * 2 ^ ((k : ℤ) - 1074) ≤ b * 2 ^ ((k : ℤ) - 1074) :=
    mul_le_mul_of_nonneg_right le unit.le
  have cancel {a b : ℚ} (same : a * 2 ^ ((k : ℤ) - 1074) = b * 2 ^ ((k : ℤ) - 1074)) : a = b :=
    mul_right_cancel₀ unit.ne' same
  -- the middle above is half a unit away, but for the power of two that ends the exponent's range
  have aboveCases : v * 2 ^ ((k : ℤ) - 1074) < middle (m + k * 2 ^ 52) ∨
      middle (m + k * 2 ^ 52) = (m + 1 / 2) * 2 ^ ((k : ℤ) - 1074) := by
    rcases Nat.lt_or_eq_of_le small with less | rfl
    · exact .inr (middle_eq normal less)
    · left
      refine lt_trans ?_ (rational_lt_middle _)
      rw [rational_eq normal small]
      push_cast
      exact mul_lt_mul_of_pos_right high unit
  -- and so is the one below, but for the power of two that starts it
  have belowCases (j : Nat) (next : m + k * 2 ^ 52 = j + 1) :
      middle j < v * 2 ^ ((k : ℤ) - 1074) ∨ middle j = (m - 1 / 2) * 2 ^ ((k : ℤ) - 1074) := by
    by_cases inside : k = 0 ∨ 2 ^ 52 < m
    · exact .inr (middle_pred inside small next)
    · left
      have power : m = 2 ^ 52 := by omega
      have least := scale (low.resolve_left fun zero => inside (.inl zero))
      refine lt_of_lt_of_le (middle_lt_rational j) ?_
      rw [← next, rational_eq normal small, power]
      push_cast
      exact least
  have parity : (m + k * 2 ^ 52) % 2 = m % 2 := by omega
  refine ⟨fun j next => ?_, ?_, fun j next tie => ?_, fun tie => ?_⟩
  · rcases belowCases j next with less | same
    · exact less.le
    · rw [same]
      exact scale nearest.below
  · rcases aboveCases with less | same
    · exact less.le
    · rw [same]
      exact scale nearest.above
  · rw [parity]
    rcases belowCases j next with less | same
    · exact absurd tie less.ne'
    · exact nearest.evenBelow (cancel (tie.trans same))
  · rw [parity]
    rcases aboveCases with less | same
    · exact absurd tie less.ne
    · exact nearest.evenAbove (cancel (tie.trans same))

theorem shiftToTargetExponent_eq {m s : Nat} {e : ℤ} {accuracy : Accuracy}
    (shift : (max ((m.log2 : ℤ) + 1 + e - 53) (-1074) - e).toNat = s) :
    shiftToTargetExponent Format.binary64 m e accuracy =
      (ExtendedMantissa.ofMantissaAndAccuracy m accuracy >>> s, e + s) := by
  subst shift
  rfl

/-- A rounded significand is brought to its exponent: only one of all ones that was rounded up is
still too long. -/
theorem shiftToTargetExponent_rounded {m k : Nat} (small : m ≤ 2 ^ 53) :
    shiftToTargetExponent Format.binary64 m ((k : ℤ) - 1074) .exact =
      if m = 2 ^ 53 then (⟨2 ^ 52, false, false⟩, ((k + 1 : Nat) : ℤ) - 1074)
      else (⟨m, false, false⟩, (k : ℤ) - 1074) := by
  by_cases ones : m = 2 ^ 53
  · have log : Nat.log2 (2 ^ 53) = 53 := Nat.log2_two_pow
    have shift : (max (((2 ^ 53 : Nat).log2 : ℤ) + 1 + ((k : ℤ) - 1074) - 53) (-1074) -
        ((k : ℤ) - 1074)).toNat = 1 := by
      rw [log]
      omega
    rw [if_pos ones, ones, shiftToTargetExponent_eq shift]
    refine Prod.ext rfl ?_
    show (k : ℤ) - 1074 + (1 : Nat) = _
    push_cast
    ring
  · have log : m.log2 ≤ 52 := by
      by_cases zero : m = 0
      · rw [zero]
        decide
      · have less := (Nat.log2_lt zero).2 (show m < 2 ^ 53 by omega)
        omega
    have shift : (max ((m.log2 : ℤ) + 1 + ((k : ℤ) - 1074) - 53) (-1074) -
        ((k : ℤ) - 1074)).toNat = 0 := by omega
    rw [if_neg ones, shiftToTargetExponent_eq shift]
    refine Prod.ext rfl ?_
    show (k : ℤ) - 1074 + (0 : Nat) = _
    push_cast
    ring

/-- The parts that are rounded to, from what the significand is cut to. -/
theorem roundWithAccuracy_eq {m k : Nat} {e : ℤ} {accuracy : Accuracy} {cut : ExtendedMantissa}
    (first : shiftToTargetExponent Format.binary64 m e accuracy = (cut, (k : ℤ) - 1074))
    (normal : k = 0 ∨ 2 ^ 52 ≤ cut.roundedMantissa) (small : cut.roundedMantissa ≤ 2 ^ 53) :
    roundWithAccuracy Format.binary64 .positive m e accuracy =
      partsOf (cut.roundedMantissa + k * 2 ^ 52) := by
  unfold roundWithAccuracy
  rw [first]
  dsimp only
  rw [shiftToTargetExponent_rounded small]
  by_cases ones : cut.roundedMantissa = 2 ^ 53
  · have next : cut.roundedMantissa + k * 2 ^ 52 = 2 ^ 52 + (k + 1) * 2 ^ 52 := by omega
    rw [if_pos ones, next, partsOf_add (by norm_num) (.inr (Nat.le_refl _)) (by norm_num)]
    rfl
  · rw [if_neg ones]
    by_cases zero : cut.roundedMantissa = 0
    · have start : k = 0 := by omega
      rw [zero, start]
      rfl
    · rw [partsOf_add (Nat.pos_of_ne_zero zero) normal (by omega)]
      exact dif_neg zero

theorem mantissa_ofMantissaAndAccuracy (m : Nat) (accuracy : Accuracy) :
    (ExtendedMantissa.ofMantissaAndAccuracy m accuracy).mantissa = m := by
  cases accuracy with
  | exact => rfl
  | inexact order => cases order <;> rfl

/-- A number is cut below the power of two behind its bits. -/
theorem Marks.cut_lt {m s : Nat} {accuracy : Accuracy} {v : ℚ}
    (marks : Marks (.ofMantissaAndAccuracy m accuracy) v) (short : m.log2 ≤ 52 + s) :
    v / 2 ^ s < 2 ^ 53 := by
  have greatest := marks.bounds.2
  rw [mantissa_ofMantissaAndAccuracy] at greatest
  have power : ((m + 1 : Nat) : ℚ) ≤ (2 ^ (53 + s) : Nat) := by
    have bits : m < 2 ^ (m.log2 + 1) := Nat.lt_log2_self
    have more : 2 ^ (m.log2 + 1) ≤ 2 ^ (53 + s) := Nat.pow_le_pow_right (by decide) (by omega)
    exact_mod_cast Nat.lt_of_lt_of_le bits more
  rw [div_lt_iff₀ (pow_pos (by norm_num) s), ← pow_add]
  push_cast at power
  linarith

/-- And not below the power of two that its bits start with. -/
theorem Marks.le_cut {m s : Nat} {accuracy : Accuracy} {v : ℚ}
    (marks : Marks (.ofMantissaAndAccuracy m accuracy) v) (bits : m.log2 = 52 + s) :
    2 ^ 52 ≤ v / 2 ^ s := by
  have least := marks.bounds.1
  rw [mantissa_ofMantissaAndAccuracy] at least
  have some : m ≠ 0 := by
    rintro rfl
    have log : Nat.log2 0 = 0 := by decide
    omega
  have power : ((2 ^ (52 + s) : Nat) : ℚ) ≤ m := by
    rw [← bits]
    exact_mod_cast Nat.log2_self_le some
  rw [le_div_iff₀ (pow_pos (by norm_num) s), ← pow_add]
  push_cast at power
  linarith

/-- A significand with what is known of the rest is rounded as the number is, if it either has bits
enough or starts below all last bits. -/
theorem roundWithAccuracy_rounds {m : Nat} {e : ℤ} {accuracy : Accuracy} {v : ℚ}
    (marks : Marks (.ofMantissaAndAccuracy m accuracy) v) (wide : 52 ≤ m.log2 ∨ e ≤ -1074) :
    ∃ n, roundWithAccuracy Format.binary64 .positive m e accuracy = partsOf n ∧
      Rounds (v * 2 ^ e) n := by
  obtain ⟨k, k_eq⟩ : ∃ k : Nat, max ((m.log2 : ℤ) + 1 + e - 53) (-1074) = (k : ℤ) - 1074 :=
    ⟨(max ((m.log2 : ℤ) + 1 + e - 53) (-1074) + 1074).toNat, by omega⟩
  obtain ⟨s, s_eq⟩ : ∃ s : Nat, (k : ℤ) - 1074 = e + s :=
    ⟨((k : ℤ) - 1074 - e).toNat, by omega⟩
  have first : shiftToTargetExponent Format.binary64 m e accuracy =
      (ExtendedMantissa.ofMantissaAndAccuracy m accuracy >>> s, (k : ℤ) - 1074) := by
    have shift : (max ((m.log2 : ℤ) + 1 + e - 53) (-1074) - e).toNat = s := by omega
    rw [shiftToTargetExponent_eq shift, s_eq]
  have low : k = 0 ∨ (2 : ℚ) ^ 52 ≤ v / 2 ^ s := by
    by_cases start : k = 0
    · exact .inl start
    · exact .inr (marks.le_cut (by omega))
  have high : v / 2 ^ s < (2 : ℚ) ^ 53 := marks.cut_lt (by omega)
  have nearest := (marks.shiftRight s).nearest
  have rounds := nearest.rounds low high
  have scaled : v / 2 ^ s * 2 ^ ((k : ℤ) - 1074) = v * 2 ^ e := by
    rw [s_eq, zpow_add₀ (by norm_num), zpow_natCast]
    field_simp
  rw [scaled] at rounds
  obtain ⟨normal, small⟩ := nearest.range low high
  exact ⟨_, roundWithAccuracy_eq first normal small, rounds⟩

/-! ## Packing -/

theorem toNat_packComponents (exponent : BitVec 11) (fraction : BitVec 52) :
    (packComponents Format.binary64 .positive exponent fraction).toNat =
      exponent.toNat * 2 ^ 52 + fraction.toNat := by
  have sign : Sign.positive.toBitVec.toNat = 0 := rfl
  unfold packComponents
  rw [BitVec.toNat_append, BitVec.toNat_append, ← Nat.shiftLeft_add_eq_or_of_lt fraction.isLt,
    Nat.shiftLeft_eq, sign, Nat.zero_shiftLeft, Nat.zero_or]

theorem toNat_packedInfinity : (packedInfinity Format.binary64 .positive).toNat = infinite := by
  unfold packedInfinity
  rw [toNat_packComponents]
  rfl

theorem toNat_pack_partsOf (n : Nat) :
    (UnpackedFloat.pack Format.binary64 (partsOf n)).toNat = min n infinite := by
  obtain ⟨m, k, rfl, normal, small⟩ := exists_parts n
  by_cases zero : m = 0
  · have start : k = 0 := by omega
    rw [zero, start]
    decide
  · rw [partsOf_add (Nat.pos_of_ne_zero zero) normal small]
    have biased : ((k : ℤ) - 1074 + Format.binary64.exponentBias +
        Format.binary64.mantissaBitsWithoutImplicit).toNat = k + 1 := by
      show ((k : ℤ) - 1074 + (1023 : Nat) + (52 : Nat)).toNat = k + 1
      omega
    unfold UnpackedFloat.pack
    dsimp only
    rw [biased]
    by_cases large : 2 ^ 11 ≤ k + 1 + 1
    · rw [if_pos large, toNat_packedInfinity]
      unfold infinite
      omega
    · have log : m.log2 + 1 = Format.binary64.mantissaBits ↔ 2 ^ 52 ≤ m := by
        show m.log2 + 1 = 53 ↔ _
        rw [← Nat.le_log2 zero]
        have less := (Nat.log2_lt zero).2 small
        omega
      rw [if_neg large]
      by_cases leading : 2 ^ 52 ≤ m
      · rw [if_pos (log.2 leading), toNat_packComponents, BitVec.toNat_ofNat, BitVec.toNat_ofNat]
        unfold infinite
        omega
      · rw [if_neg (leading ∘ log.1), toNat_packComponents, BitVec.toNat_ofNat, BitVec.toNat_ofNat]
        unfold infinite
        omega

theorem toNat_unpackMantissa (bits : BitVec 64) :
    (@unpackMantissa Format.binary64 bits).toNat = bits.toNat % 2 ^ 52 := by
  unfold unpackMantissa
  simp

theorem toNat_unpackExponent (bits : BitVec 64) :
    (@unpackExponent Format.binary64 bits).toNat = bits.toNat / 2 ^ 52 % 2 ^ 11 := by
  unfold unpackExponent
  simp [Nat.shiftRight_eq_div_pow]

theorem toNat_unpackSign (bits : BitVec 64) :
    (@unpackSign Format.binary64 bits).toNat = bits.toNat / 2 ^ 63 % 2 := by
  unfold unpackSign
  simp [Nat.shiftRight_eq_div_pow]

theorem unpackSign_eq {bits : BitVec 64} (finite : bits.toNat < infinite) :
    @unpackSign Format.binary64 bits = 0#1 := by
  apply BitVec.eq_of_toNat_eq
  rw [toNat_unpackSign]
  show _ = 0
  unfold infinite at finite
  omega

theorem unpackExponent_eq_iff {bits : BitVec 64} (finite : bits.toNat < infinite)
    (exponent : BitVec 11) :
    @unpackExponent Format.binary64 bits = exponent ↔ bits.toNat / 2 ^ 52 = exponent.toNat := by
  have short : bits.toNat / 2 ^ 52 < 2 ^ 11 := by
    unfold infinite at finite
    omega
  rw [← BitVec.toNat_inj, toNat_unpackExponent, Nat.mod_eq_of_lt short]

theorem unpackMantissa_eq_iff {bits : BitVec 64} (fraction : BitVec 52) :
    @unpackMantissa Format.binary64 bits = fraction ↔ bits.toNat % 2 ^ 52 = fraction.toNat := by
  rw [← BitVec.toNat_inj, toNat_unpackMantissa]

/-- The significand of a normal number starts with a one that is not kept. -/
theorem toNat_leading (bits : BitVec 64) :
    (1#1 ++ @unpackMantissa Format.binary64 bits).toNat = 2 ^ 52 + bits.toNat % 2 ^ 52 := by
  rw [BitVec.toNat_append, ← Nat.shiftLeft_add_eq_or_of_lt (BitVec.isLt _), toNat_unpackMantissa]
  rfl

theorem unpack_eq {bits : BitVec 64} (finite : bits.toNat < infinite) :
    UnpackedFloat.unpack Format.binary64 bits = partsOf bits.toNat := by
  have exponent := unpackExponent_eq_iff finite
  have field : bits.toNat / 2 ^ 52 < 2047 := by
    unfold infinite at finite
    omega
  have notOnes : @unpackExponent Format.binary64 bits ≠ -1#11 := by
    intro ones
    exact absurd ((exponent _).1 ones) field.ne
  have kept : (@unpackExponent Format.binary64 bits).toNat = bits.toNat / 2 ^ 52 :=
    ((exponent _).1 rfl).symm
  unfold UnpackedFloat.unpack
  dsimp only
  rw [unpackSign_eq finite, if_neg notOnes, kept]
  by_cases start : bits.toNat / 2 ^ 52 = 0
  · rw [if_pos ((exponent 0#11).2 start)]
    by_cases zero : bits.toNat = 0
    · have empty : bits.toNat % 2 ^ 52 = 0 := by omega
      rw [dif_pos ((unpackMantissa_eq_iff 0#52).2 empty), zero]
      rfl
    · have some : bits.toNat % 2 ^ 52 ≠ 0 := by omega
      rw [dif_neg (some ∘ (unpackMantissa_eq_iff 0#52).1)]
      refine (partsOf_eq _ ?_ ?_).symm
      · rw [toNat_unpackMantissa]
        unfold significand doublings
        omega
      · unfold doublings
        rw [start]
        rfl
  · rw [if_neg (start ∘ (exponent 0#11).1)]
    refine (partsOf_eq _ ?_ ?_).symm
    · rw [toNat_leading]
      unfold significand doublings
      omega
    · show ((doublings bits.toNat : Nat) : ℤ) - 1074 =
        ((bits.toNat / 2 ^ 52 : Nat) : ℤ) - ((1023 : Nat) + (52 : Nat))
      unfold doublings
      omega

/-! ## Machine numbers -/

/-- The machine number of a magnitude, which is infinite from `infinite` on. -/
def machine (n : Nat) : Float := .ofModel (.pack (partsOf n))

theorem toNat_toBits_machine (n : Nat) : (machine n).toBits.toNat = min n infinite :=
  toNat_pack_partsOf n

theorem unpack_machine {n : Nat} (finite : n < infinite) : (machine n).toModel.unpack = partsOf n := by
  have bits : (machine n).toBits.toBitVec.toNat = n := by
    show (machine n).toBits.toNat = n
    rw [toNat_toBits_machine]
    exact Nat.min_eq_left finite.le
  have unpacked := unpack_eq (bits.symm ▸ finite)
  rw [bits] at unpacked
  exact unpacked

theorem partsOf_cases (n : Nat) :
    partsOf n = .zero .positive ∨ ∃ m e h, partsOf n = .finite .positive m e h := by
  by_cases zero : significand n = 0
  · exact .inl (dif_pos zero)
  · exact .inr ⟨_, _, Nat.pos_of_ne_zero zero, dif_neg zero⟩

theorem isNaN_machine {n : Nat} (finite : n < infinite) : (machine n).isNaN = false := by
  show (machine n).toModel.unpack.isNaN = false
  rw [unpack_machine finite]
  rcases partsOf_cases n with same | ⟨m, e, h, same⟩ <;> rw [same] <;> rfl

theorem isInf_machine (n : Nat) : (machine n).isInf = decide (infinite ≤ n) := by
  by_cases finite : n < infinite
  · rw [decide_eq_false (Nat.not_le.2 finite)]
    show (machine n).toModel.unpack.isInf = false
    rw [unpack_machine finite]
    rcases partsOf_cases n with same | ⟨m, e, h, same⟩ <;> rw [same] <;> rfl
  · have large := Nat.not_lt.1 finite
    rw [decide_eq_true large]
    -- all magnitudes from here on are packed alike
    have packed : UnpackedFloat.pack Format.binary64 (partsOf n) =
        packedInfinity Format.binary64 .positive := by
      apply BitVec.eq_of_toNat_eq
      rw [toNat_pack_partsOf, toNat_packedInfinity]
      exact Nat.min_eq_right large
    show (UnpackedFloat.unpack Format.binary64
      (UnpackedFloat.pack Format.binary64 (partsOf n))).isInf = true
    rw [packed]
    decide

theorem machine_zero : (0.0 : Float) = machine 0 := by
  decide +kernel

theorem machine_beq_zero {n : Nat} (some : 0 < n) (finite : n < infinite) :
    (machine n == 0.0) = false := by
  rw [machine_zero]
  show UnpackedFloat.beq (machine n).toModel.unpack (machine 0).toModel.unpack = false
  rw [unpack_machine finite, unpack_machine (by decide), partsOf_eq (significand_pos some) rfl rfl]
  rfl

/-- A finite machine number is the double of its magnitude. -/
theorem ofFloat_machine {n : Nat} (finite : n < infinite) :
    ofFloat (machine n) = ⟨UInt64.ofNat n⟩ := by
  unfold ofFloat
  rw [isNaN_machine finite, if_neg Bool.false_ne_true]
  congr 1
  apply UInt64.toNat_inj.1
  rw [toNat_toBits_machine, Nat.min_eq_left finite.le, UInt64.toNat_ofNat']
  unfold infinite at finite
  omega

/-! ## Operations -/

theorem normal_or_start (n : Nat) : 2 ^ 52 ≤ significand n ∨ doublings n = 0 := by
  unfold significand doublings
  omega

/-- The product of two machine numbers is what the product of the two numbers rounds to. -/
theorem machine_mul {a b : Nat} (someA : 0 < a) (finiteA : a < infinite) (someB : 0 < b)
    (finiteB : b < infinite) :
    ∃ n, machine a * machine b = machine n ∧ Rounds (rational a * rational b) n := by
  have wide : 52 ≤ (significand a * significand b).log2 ∨
      ((doublings a : ℤ) - 1074) + ((doublings b : ℤ) - 1074) ≤ -1074 := by
    have pos := Nat.mul_pos (significand_pos someA) (significand_pos someB)
    rw [Nat.le_log2 pos.ne']
    rcases normal_or_start a with normal | start
    · exact .inl (Nat.le_trans normal (Nat.le_mul_of_pos_right _ (significand_pos someB)))
    · rcases normal_or_start b with normal | start'
      · exact .inl (Nat.le_trans normal (Nat.le_mul_of_pos_left _ (significand_pos someA)))
      · right
        omega
  obtain ⟨n, same, rounds⟩ :=
    roundWithAccuracy_rounds (marks_exact (significand a * significand b)) wide
  refine ⟨n, ?_, ?_⟩
  · show Float.ofModel (.pack (UnpackedFloat.mul Format.binary64 (machine a).toModel.unpack
      (machine b).toModel.unpack)) = _
    rw [unpack_machine finiteA, unpack_machine finiteB, partsOf_eq (significand_pos someA) rfl rfl,
      partsOf_eq (significand_pos someB) rfl rfl]
    exact congrArg (fun parts => Float.ofModel (.pack parts)) same
  · have product : ((significand a * significand b : Nat) : ℚ) *
        2 ^ (((doublings a : ℤ) - 1074) + ((doublings b : ℤ) - 1074)) =
          rational a * rational b := by
      unfold rational gap
      rw [zpow_add₀ (by norm_num)]
      push_cast
      ring
    rw [product] at rounds
    exact rounds

/-- A quotient is prepared with bits enough for a significand. -/
theorem divCore_wide {m₁ m₂ : Nat} {e₁ e₂ : ℤ} (some₁ : 0 < m₁) (some₂ : 0 < m₂) :
    ∃ s : Nat, ∃ e : ℤ, e₁ - e₂ = e + s ∧
      divCore Format.binary64 m₁ e₁ m₂ e₂ =
        (m₁ * 2 ^ s / m₂, e, accuracyOfFraction (m₁ * 2 ^ s % m₂) m₂) ∧
      (52 ≤ (m₁ * 2 ^ s / m₂).log2 ∨ e ≤ -1074) := by
  obtain ⟨e, e_eq⟩ : ∃ e : ℤ, e = min (e₁ - e₂)
      (max ((m₁.log2 : ℤ) + 1 + e₁ - (m₂.log2 + 1 + e₂) - 53) (-1074)) := ⟨_, rfl⟩
  refine ⟨(e₁ - e₂ - e).toNat, e, by omega, ?_, ?_⟩
  · rw [e_eq, ← Nat.shiftLeft_eq]
    rfl
  · by_cases start : e ≤ -1074
    · exact .inr start
    · left
      have upper : m₂ < 2 ^ (m₂.log2 + 1) := Nat.lt_log2_self
      have lower : 2 ^ m₁.log2 ≤ m₁ := Nat.log2_self_le some₁.ne'
      have bits : 2 ^ 52 * m₂ ≤ m₁ * 2 ^ (e₁ - e₂ - e).toNat :=
        calc 2 ^ 52 * m₂ ≤ 2 ^ 52 * 2 ^ (m₂.log2 + 1) := Nat.mul_le_mul_left _ upper.le
          _ = 2 ^ (52 + (m₂.log2 + 1)) := (Nat.pow_add _ _ _).symm
          _ ≤ 2 ^ (m₁.log2 + (e₁ - e₂ - e).toNat) := Nat.pow_le_pow_right (by decide) (by omega)
          _ = 2 ^ m₁.log2 * 2 ^ (e₁ - e₂ - e).toNat := Nat.pow_add _ _ _
          _ ≤ m₁ * 2 ^ (e₁ - e₂ - e).toNat := Nat.mul_le_mul_right _ lower
      have quotient := (Nat.le_div_iff_mul_le some₂).2 bits
      exact (Nat.le_log2 (by omega)).2 quotient

theorem div_finite {m₁ m₂ : Nat} {e₁ e₂ : ℤ} (some₁ : 0 < m₁) (some₂ : 0 < m₂) :
    UnpackedFloat.div Format.binary64 (.finite .positive m₁ e₁ some₁) (.finite .positive m₂ e₂ some₂) =
      let quotient := divCore Format.binary64 m₁ e₁ m₂ e₂
      roundWithAccuracy Format.binary64 .positive quotient.1 quotient.2.1 quotient.2.2 := rfl

/-- The quotient of two machine numbers is what the quotient of the two numbers rounds to. -/
theorem machine_div {a b : Nat} (someA : 0 < a) (finiteA : a < infinite) (someB : 0 < b)
    (finiteB : b < infinite) :
    ∃ n, machine a / machine b = machine n ∧ Rounds (rational a / rational b) n := by
  obtain ⟨s, e, sum, core, wide⟩ := @divCore_wide _ _ ((doublings a : ℤ) - 1074)
    ((doublings b : ℤ) - 1074) (significand_pos someA) (significand_pos someB)
  obtain ⟨n, same, rounds⟩ := roundWithAccuracy_rounds
    (marks_quotient (significand a * 2 ^ s) (significand_pos someB)) wide
  refine ⟨n, ?_, ?_⟩
  · show Float.ofModel (.pack (UnpackedFloat.div Format.binary64 (machine a).toModel.unpack
      (machine b).toModel.unpack)) = _
    rw [unpack_machine finiteA, unpack_machine finiteB, partsOf_eq (significand_pos someA) rfl rfl,
      partsOf_eq (significand_pos someB) rfl rfl, div_finite, core]
    exact congrArg (fun parts => Float.ofModel (.pack parts)) same
  · have quotient : ((significand a * 2 ^ s : Nat) : ℚ) / significand b * 2 ^ e =
        rational a / rational b := by
      have front : (significand b : ℚ) ≠ 0 := by exact_mod_cast (significand_pos someB).ne'
      have power : gap a / gap b = 2 ^ s * 2 ^ e := by
        unfold gap
        rw [← zpow_sub₀ (by norm_num), sum, zpow_add₀ (by norm_num), zpow_natCast]
        ring
      unfold rational
      rw [mul_div_mul_comm, power]
      push_cast
      ring
    rw [quotient] at rounds
    exact rounds

/-- A natural number that has no more bits than a significand is lengthened first. -/
theorem ofNat_rounds {n : Nat} (some : 0 < n) (small : n < 2 ^ 53) :
    ∃ k, UnpackedFloat.ofNat Format.binary64 n = partsOf k ∧ Rounds n k := by
  obtain ⟨s, s_eq⟩ : ∃ s : Nat, s = (0 - max ((n.log2 : ℤ) + 1 + 0 - 53) (-1074)).toNat := ⟨_, rfl⟩
  have less : n.log2 < 53 := (Nat.log2_lt some.ne').2 small
  have bits : 2 ^ 52 ≤ n * 2 ^ s :=
    calc 2 ^ 52 = 2 ^ (n.log2 + s) := by
          rw [s_eq]
          congr 1
          omega
      _ = 2 ^ n.log2 * 2 ^ s := Nat.pow_add _ _ _
      _ ≤ n * 2 ^ s := Nat.mul_le_mul_right _ (Nat.log2_self_le some.ne')
  have wide : 52 ≤ (n * 2 ^ s).log2 ∨ (0 : ℤ) - s ≤ -1074 := .inl ((Nat.le_log2 (by omega)).2 bits)
  obtain ⟨k, same, rounds⟩ := roundWithAccuracy_rounds (marks_exact (n * 2 ^ s)) wide
  refine ⟨k, ?_, ?_⟩
  · rw [← same, s_eq, ← Nat.shiftLeft_eq]
    have positive : compare (n : ℤ) 0 = .gt := Int.compare_eq_gt.2 (by omega)
    unfold UnpackedFloat.ofNat UnpackedFloat.ofInt UnpackedFloat.normalize
    rw [positive]
    rfl
  · have number : ((n * 2 ^ s : Nat) : ℚ) * 2 ^ ((0 : ℤ) - s) = n := by
      rw [zero_sub, zpow_neg, zpow_natCast]
      push_cast
      field_simp
    rw [number] at rounds
    exact rounds

/-- One of more bits is cut as a product with one. -/
theorem ofScientific_rounds {n : Nat} (some : 0 < n) :
    ∃ k, UnpackedFloat.ofScientific Format.binary64 n 0 = partsOf k ∧ Rounds n k := by
  have bits : 2 ^ 52 ≤ n * 2 ^ 53 := by omega
  have wide : 52 ≤ (n * 2 ^ 53).log2 ∨ (-53 : ℤ) ≤ -1074 := .inl ((Nat.le_log2 (by omega)).2 bits)
  obtain ⟨k, same, rounds⟩ := roundWithAccuracy_rounds (marks_exact (n * 2 ^ 53)) wide
  refine ⟨k, ?_, ?_⟩
  · have small : ¬(0 : ℤ) < -((2 ^ Format.binary64.exponentBits : ℤ) + n.log2) := by
      show ¬(0 : ℤ) < -((2 ^ 11 : ℤ) + n.log2)
      omega
    rw [← same, ← Nat.shiftLeft_eq]
    unfold UnpackedFloat.ofScientific
    rw [dif_neg some.ne', if_neg (by decide), if_neg small, if_pos (Int.le_refl 0)]
    show roundWithAccuracy Format.binary64 .positive (n <<< 53 * 1) (-53 + 0) .exact = _
    rw [Nat.mul_one, Int.add_zero]
  · have number : ((n * 2 ^ 53 : Nat) : ℚ) * 2 ^ (-53 : ℤ) = n := by
      have power : (2 : ℚ) ^ (-53 : ℤ) = 1 / 2 ^ 53 := by norm_num
      rw [power, Nat.cast_mul, Nat.cast_pow, Nat.cast_ofNat, mul_assoc, mul_one_div_cancel
        (by norm_num), mul_one]
    rw [number] at rounds
    exact rounds

theorem float_ofNat_eq (n : Nat) : Float.ofNat n =
    if n < 2 ^ 53 then n.toUInt64.toFloat * Float.ofBits 0x3FF0000000000000
    else .ofModel (Float.Model.ofScientific n 0) := by
  unfold Float.ofNat
  show Float.ofScientific n false 0 = _
  unfold Float.ofScientific
  by_cases small : n < 2 ^ 53
  · rw [if_pos small, dif_pos ⟨small, by decide⟩]
    rfl
  · rw [if_neg small, dif_neg (fun both => small both.1)]
    rfl

/-- The magnitude of one. -/
def one : Nat := 2 ^ 52 + 1022 * 2 ^ 52

theorem one_eq_machine : Float.ofBits 0x3FF0000000000000 = machine one := by
  decide +kernel

theorem rational_one : rational one = 1 := by
  unfold one
  rw [rational_two_pow]
  norm_num

/-- Up to a half of the greatest power of two that counts, numbers are rounded to finite ones. -/
theorem Rounds.finite {v : ℚ} {n : Nat} (rounds : Rounds v n) (small : v ≤ 2 ^ 1023) :
    n < infinite := by
  have power : rational (2 ^ 52 + 2045 * 2 ^ 52) = 2 ^ 1023 := by
    rw [rational_two_pow]
    exact zpow_natCast 2 1023
  have le := rounds.mono (rounds_rational _) (power.symm ▸ small)
  unfold infinite
  omega

/-- From the least positive double on, numbers are rounded to positive ones. -/
theorem Rounds.positive {v : ℚ} {n : Nat} (rounds : Rounds v n) (large : 2 ^ (-1074 : ℤ) ≤ v) :
    0 < n := by
  have least : rational (1 + 0 * 2 ^ 52) = 2 ^ (-1074 : ℤ) := by
    rw [rational_eq (.inl rfl) (by norm_num), Nat.cast_one, one_mul]
    rfl
  exact (rounds_rational (1 + 0 * 2 ^ 52)).mono rounds (least.symm ▸ large)

/-- The machine number of a natural number is what that rounds to. -/
theorem ofNat_eq_machine {n : Nat} (some : 0 < n) :
    ∃ k, Float.ofNat n = machine k ∧ Rounds n k := by
  rw [float_ofNat_eq]
  by_cases small : n < 2 ^ 53
  · obtain ⟨k, same, rounds⟩ := ofNat_rounds some small
    have most : (n : ℚ) ≤ 2 ^ 53 := by exact_mod_cast small.le
    have least : (1 : ℚ) ≤ n := by exact_mod_cast some
    have finite := rounds.finite (most.trans (pow_le_pow_right₀ (by norm_num) (by norm_num)))
    have positive := rounds.positive ((zpow_le_one_of_nonpos₀ (by norm_num) (by norm_num)).trans least)
    have number : n.toUInt64.toFloat = machine k := by
      have bits : n.toUInt64.toNat = n := by
        rw [Nat.toUInt64_eq, UInt64.toNat_ofNat']
        omega
      show Float.ofModel (.pack (UnpackedFloat.ofNat Format.binary64 n.toUInt64.toNat)) = _
      rw [bits, same]
      rfl
    obtain ⟨k', product, rounds'⟩ := machine_mul positive finite (show 0 < one by decide)
      (show one < infinite by decide)
    rw [rational_one, mul_one] at rounds'
    obtain rfl := rounds'.unique (rounds_rational k)
    rw [if_pos small, number, one_eq_machine, product]
    exact ⟨k', rfl, rounds⟩
  · obtain ⟨k, same, rounds⟩ := ofScientific_rounds some
    rw [if_neg small]
    exact ⟨k, congrArg (fun parts => Float.ofModel (.pack parts)) same, rounds⟩

end ForeignEval.Double

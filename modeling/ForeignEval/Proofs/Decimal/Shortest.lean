import ForeignEval.Decimal.Shortest
import ForeignEval.Proofs.Double.Grid

/-!
# Shortest decimals round back

The decimal that is written for a double rounds to that double, and has seventeen digits at most:
the grid of the seventeenth digit is finer than the gaps between doubles, so that one of the two
neighbours of the double on it, if not on a coarser grid already, is near enough.

* **Parts** — `Binary.isOf_ofDouble`: the significand and the power of two of a double's magnitude.
* **Grids** — `Binary.holds_iff`: what the comparisons of natural numbers say about rational ones.
* **Leading digit** — `Binary.leading_spec`, from a table of all powers of two.
* **Search** — `Binary.neighbour_isSome`: on which grids there is a hit; `Binary.shortest_spec`.
-/

namespace ForeignEval

open Double

/-- The number of a decimal. -/
def Decimal.rational (d : Decimal) : ℚ := d.significand * 10 ^ d.exponent

namespace Binary

/-! ## Parts -/

/-- A number is the one of a magnitude. -/
structure IsOf (b : Binary) (n : Nat) : Prop where
  m_eq : b.m = significand n
  q_eq : b.q = (doublings n : ℤ) - 1074
  narrow_iff : b.narrowBelow = true ↔ n % 2 ^ 52 = 0 ∧ 1 < n / 2 ^ 52

theorem isOf_ofDouble (x : Double) : (ofDouble x).IsOf x.magnitude := by
  have power : Nat.pow 2 52 = 2 ^ 52 := rfl
  unfold ofDouble
  dsimp only
  rw [power]
  by_cases start : x.magnitude / 2 ^ 52 = 0
  · rw [if_pos start]
    refine ⟨?_, ?_, ?_⟩
    · show x.magnitude % 2 ^ 52 = significand x.magnitude
      unfold significand doublings
      omega
    · show (-1074 : ℤ) = (doublings x.magnitude : ℤ) - 1074
      unfold doublings
      omega
    · show false = true ↔ _
      rw [start]
      simp
  · rw [if_neg start]
    refine ⟨?_, ?_, ?_⟩
    · show 2 ^ 52 + x.magnitude % 2 ^ 52 = significand x.magnitude
      unfold significand doublings
      omega
    · show ((x.magnitude / 2 ^ 52 : Nat) : ℤ) - 1075 = (doublings x.magnitude : ℤ) - 1074
      unfold doublings
      omega
    · exact decide_eq_true_iff

variable {b : Binary} {n : Nat}

namespace IsOf

variable (isOf : b.IsOf n)
include isOf

theorem gap_eq : gap n = 4 * 2 ^ (b.q - 2) := by
  unfold gap
  rw [← isOf.q_eq, zpow_sub₀ (by norm_num)]
  ring

theorem value_eq : (b.value : ℚ) * 2 ^ (b.q - 2) = Double.rational n := by
  unfold value Double.rational
  rw [isOf.m_eq, isOf.gap_eq]
  push_cast
  ring

theorem upper_eq : (b.upper : ℚ) * 2 ^ (b.q - 2) = middle n := by
  unfold upper middle Double.rational
  rw [isOf.m_eq, isOf.gap_eq]
  push_cast
  ring

/-- The gap below a power of two is half as wide. -/
theorem lower_eq {k : Nat} (next : n = k + 1) : (b.lower : ℚ) * 2 ^ (b.q - 2) = middle k := by
  have some : 0 < b.m := by
    rw [isOf.m_eq]
    unfold significand doublings
    omega
  have number : middle k = significand n * gap n - gap k / 2 := by
    rw [middle_eq_sub, ← next]
    rfl
  have wide := isOf.gap_eq
  unfold lower
  by_cases narrow : b.narrowBelow = true
  · obtain ⟨start, later⟩ := isOf.narrow_iff.1 narrow
    have half : gap n = 2 * gap k := by
      have twice := gap_two_pow (doublings k)
      unfold gap
      rw [← twice]
      congr 1
      unfold doublings
      omega
    have gap_k : gap k = 2 * 2 ^ (b.q - 2) := by linarith
    rw [if_pos narrow, number, ← isOf.m_eq, wide, gap_k, Nat.cast_sub (by omega)]
    push_cast
    ring
  · have same : gap k = gap n := by
      have outside : ¬(n % 2 ^ 52 = 0 ∧ 1 < n / 2 ^ 52) := fun both => narrow (isOf.narrow_iff.2 both)
      unfold gap
      congr 1
      unfold doublings
      omega
    rw [if_neg narrow, number, ← isOf.m_eq, same, wide, Nat.cast_sub (by omega)]
    push_cast
    ring

/-- The end below is half a gap away, but for a power of two. -/
theorem lower_eq_of_wide (some : 0 < b.m) (wide : ¬b.narrowBelow = true) :
    (b.lower : ℚ) * 2 ^ (b.q - 2) = Double.rational n - gap n / 2 := by
  rw [← isOf.value_eq, isOf.gap_eq]
  unfold lower value
  rw [if_neg wide, Nat.cast_sub (by omega)]
  push_cast
  ring

theorem lower_lt (some : 0 < b.m) : (b.lower : ℚ) * 2 ^ (b.q - 2) < Double.rational n := by
  rw [← isOf.value_eq]
  refine mul_lt_mul_of_pos_right ?_ (zpow_pos (by norm_num) _)
  have less : b.lower < b.value := by
    unfold lower value
    split <;> omega
  exact_mod_cast less

theorem m_pos (positive : 0 < Double.rational n) : 0 < b.m := by
  refine Nat.pos_of_ne_zero fun zero => positive.ne ?_
  rw [← isOf.value_eq]
  unfold value
  rw [zero, Nat.mul_zero, Nat.cast_zero, zero_mul]

end IsOf

/-! ## Grids -/

theorem pow_toNat (a : ℚ) (nonzero : a ≠ 0) (z : ℤ) :
    a ^ z.toNat = a ^ z * a ^ (-z).toNat := by
  rcases Int.le_total 0 z with le | le
  · obtain ⟨k, rfl⟩ := Int.eq_ofNat_of_zero_le le
    have none : (-(k : ℤ)).toNat = 0 := by omega
    rw [none, pow_zero, mul_one, Int.toNat_natCast, zpow_natCast]
  · obtain ⟨k, k_eq⟩ := Int.eq_ofNat_of_zero_le (Int.neg_nonneg.2 le)
    have none : z.toNat = 0 := by omega
    have negative : z = -(k : ℤ) := by omega
    rw [none, pow_zero, k_eq, Int.toNat_natCast, negative, zpow_neg, zpow_natCast,
      inv_mul_cancel₀ (pow_ne_zero _ nonzero)]

/-- The factor that makes natural numbers of both sides of a comparison. -/
def common (b : Binary) (k : ℤ) : ℚ := 2 ^ (2 - b.q).toNat * 10 ^ (-k).toNat

theorem common_pos (b : Binary) (k : ℤ) : 0 < b.common k := by
  unfold common
  positivity

theorem quarterScale_eq (b : Binary) (k : ℤ) :
    (b.quarterScale k : ℚ) = 2 ^ (b.q - 2) * b.common k := by
  have power := pow_toNat 2 (by norm_num) (b.q - 2)
  rw [neg_sub] at power
  unfold quarterScale common
  rw [Nat.pow_eq, Nat.pow_eq]
  push_cast
  rw [power]
  ring

theorem gridScale_eq (b : Binary) (k : ℤ) : (b.gridScale k : ℚ) = 10 ^ k * b.common k := by
  unfold gridScale common
  rw [Nat.pow_eq, Nat.pow_eq]
  push_cast
  rw [pow_toNat 10 (by norm_num) k]
  ring

/-- Quarters of the last bit are compared with multiples of a power of ten. -/
theorem le_iff (b : Binary) (k : ℤ) (c v : Nat) :
    c * b.gridScale k ≤ v * b.quarterScale k ↔ (c : ℚ) * 10 ^ k ≤ v * 2 ^ (b.q - 2) := by
  have cast : c * b.gridScale k ≤ v * b.quarterScale k ↔
      ((c * b.gridScale k : Nat) : ℚ) ≤ (v * b.quarterScale k : Nat) := Nat.cast_le.symm
  rw [cast, Nat.cast_mul, Nat.cast_mul, quarterScale_eq, gridScale_eq, ← mul_assoc, ← mul_assoc]
  exact mul_le_mul_iff_left₀ (b.common_pos k)

theorem le_iff' (b : Binary) (k : ℤ) (c v : Nat) :
    v * b.quarterScale k ≤ c * b.gridScale k ↔ (v : ℚ) * 2 ^ (b.q - 2) ≤ c * 10 ^ k := by
  have cast : v * b.quarterScale k ≤ c * b.gridScale k ↔
      ((v * b.quarterScale k : Nat) : ℚ) ≤ (c * b.gridScale k : Nat) := Nat.cast_le.symm
  rw [cast, Nat.cast_mul, Nat.cast_mul, quarterScale_eq, gridScale_eq, ← mul_assoc, ← mul_assoc]
  exact mul_le_mul_iff_left₀ (b.common_pos k)

/-- A decimal is held if it is not outside, and not at the ends if the significand is odd. -/
theorem holds_iff (isOf : b.IsOf n) (k : ℤ) (c : Nat) :
    b.holds k c = true ↔ 0 < c ∧
      if n % 2 = 0 then (b.lower : ℚ) * 2 ^ (b.q - 2) ≤ c * 10 ^ k ∧ (c : ℚ) * 10 ^ k ≤ middle n
      else (b.lower : ℚ) * 2 ^ (b.q - 2) < c * 10 ^ k ∧ (c : ℚ) * 10 ^ k < middle n := by
  have parity : b.m % 2 = n % 2 := by
    rw [isOf.m_eq]
    unfold significand doublings
    omega
  unfold holds
  dsimp only
  rw [Bool.and_eq_true, decide_eq_true_iff, parity, ← isOf.upper_eq]
  refine and_congr_right fun _ => ?_
  by_cases even : n % 2 = 0
  · rw [if_pos even, if_pos even, Bool.and_eq_true, decide_eq_true_iff, decide_eq_true_iff,
      b.le_iff', b.le_iff]
  · rw [if_neg even, if_neg even, Bool.and_eq_true, decide_eq_true_iff, decide_eq_true_iff,
      ← Nat.not_le, ← Nat.not_le, b.le_iff', b.le_iff, not_le, not_le]

/-- A decimal that is held rounds to the number. -/
theorem rounds_of_holds (isOf : b.IsOf n) {k : ℤ} {c : Nat} (held : b.holds k c = true) :
    0 < c ∧ Rounds (c * 10 ^ k) n := by
  obtain ⟨some, between⟩ := (holds_iff isOf k c).1 held
  refine ⟨some, ?_⟩
  by_cases even : n % 2 = 0
  · rw [if_pos even] at between
    exact ⟨fun j next => (isOf.lower_eq next).symm ▸ between.1, between.2, fun _ _ _ => even,
      fun _ => even⟩
  · rw [if_neg even] at between
    exact ⟨fun j next => (isOf.lower_eq next).symm ▸ between.1.le, between.2.le,
      fun j next tie => absurd tie ((isOf.lower_eq next).symm ▸ between.1).ne',
      fun tie => absurd tie between.2.ne⟩

theorem holds_of_lt (isOf : b.IsOf n) {k : ℤ} {c : Nat} (some : 0 < c)
    (below : (b.lower : ℚ) * 2 ^ (b.q - 2) < c * 10 ^ k) (above : (c : ℚ) * 10 ^ k < middle n) :
    b.holds k c = true := by
  refine (holds_iff isOf k c).2 ⟨some, ?_⟩
  split
  · exact ⟨below.le, above.le⟩
  · exact ⟨below, above⟩

/-- The number lies between its two neighbours on a grid. -/
theorem floorOn_spec (isOf : b.IsOf n) (k : ℤ) :
    (b.floorOn k : ℚ) * 10 ^ k ≤ Double.rational n ∧
      Double.rational n < (b.floorOn k + 1 : Nat) * 10 ^ k := by
  have some : 0 < b.gridScale k := by
    unfold gridScale
    rw [Nat.pow_eq, Nat.pow_eq]
    positivity
  rw [← isOf.value_eq, ← b.le_iff, ← not_le, ← b.le_iff, Nat.not_le]
  unfold floorOn
  refine ⟨Nat.div_mul_le_self _ _, ?_⟩
  rw [Nat.mul_comm (_ + 1)]
  exact Nat.lt_mul_div_succ _ some

/-! ## Leading digit -/

/-- The guess of the power of ten below a power of two is right, or one too small for the next power
of two. -/
def guessFits (t : ℤ) : Bool :=
  let guess := t * 78913 / Nat.pow 2 18
  decide (Nat.pow 10 guess.toNat * Nat.pow 2 (-t).toNat ≤
    Nat.pow 2 t.toNat * Nat.pow 10 (-guess).toNat) &&
  decide (Nat.pow 2 (t + 1).toNat * Nat.pow 10 (-(guess + 2)).toNat ≤
    Nat.pow 10 (guess + 2).toNat * Nat.pow 2 (-(t + 1)).toNat)

theorem guessFits_all : ∀ i : Nat, i < 2098 → guessFits ((i : ℤ) - 1074) = true := by
  decide +kernel

theorem pow_le_pow_iff (a b : ℚ) (some : 0 < a) (some' : 0 < b) (y z : ℤ) :
    a ^ y.toNat * b ^ (-z).toNat ≤ b ^ z.toNat * a ^ (-y).toNat ↔ a ^ y ≤ b ^ z := by
  rw [pow_toNat a some.ne' y, pow_toNat b some'.ne' z]
  have positive : 0 < a ^ (-y).toNat * b ^ (-z).toNat := by positivity
  have left : a ^ y * a ^ (-y).toNat * b ^ (-z).toNat =
      a ^ y * (a ^ (-y).toNat * b ^ (-z).toNat) := by ring
  have right : b ^ z * b ^ (-z).toNat * a ^ (-y).toNat =
      b ^ z * (a ^ (-y).toNat * b ^ (-z).toNat) := by ring
  rw [left, right]
  exact mul_le_mul_iff_left₀ positive

theorem guess_spec {t : ℤ} (low : -1074 ≤ t) (high : t < 1024) :
    (10 : ℚ) ^ (t * 78913 / 2 ^ 18) ≤ 2 ^ t ∧ (2 : ℚ) ^ (t + 1) ≤ 10 ^ (t * 78913 / 2 ^ 18 + 2) := by
  have fits := guessFits_all (t + 1074).toNat (by omega)
  have same : ((t + 1074).toNat : ℤ) - 1074 = t := by omega
  rw [same] at fits
  unfold guessFits at fits
  rw [Bool.and_eq_true, decide_eq_true_iff, decide_eq_true_iff] at fits
  obtain ⟨below, above⟩ := fits
  constructor
  · rw [← pow_le_pow_iff 10 2 (by norm_num) (by norm_num)]
    exact_mod_cast below
  · rw [← pow_le_pow_iff 2 10 (by norm_num) (by norm_num)]
    exact_mod_cast above

theorem floorOn_pos_iff (isOf : b.IsOf n) (k : ℤ) :
    0 < b.floorOn k ↔ (10 : ℚ) ^ k ≤ Double.rational n := by
  have unit : (0 : ℚ) < 10 ^ k := zpow_pos (by norm_num) k
  obtain ⟨below, above⟩ := floorOn_spec isOf k
  constructor
  · intro some
    have one : (1 : ℚ) ≤ b.floorOn k := by exact_mod_cast some
    calc (10 : ℚ) ^ k = 1 * 10 ^ k := (one_mul _).symm
      _ ≤ b.floorOn k * 10 ^ k := mul_le_mul_of_nonneg_right one unit.le
      _ ≤ Double.rational n := below
  · intro large
    refine Nat.pos_of_ne_zero fun zero => ?_
    rw [zero, Nat.zero_add, Nat.cast_one, one_mul] at above
    exact absurd large (not_le.2 above)

/-- The leading power of ten is the one of the number's first digit. -/
theorem leading_spec (isOf : b.IsOf n) (some : 0 < n) (finite : n < infinite) :
    (10 : ℚ) ^ b.leading ≤ Double.rational n ∧ Double.rational n < 10 ^ (b.leading + 1) := by
  have m_pos : b.m ≠ 0 := by
    rw [isOf.m_eq]
    exact (significand_pos some).ne'
  have lower : 2 ^ b.m.log2 ≤ b.m := Nat.log2_self_le m_pos
  have upper : b.m < 2 ^ (b.m.log2 + 1) := Nat.lt_log2_self
  have bits : b.m.log2 < 53 := (Nat.log2_lt m_pos).2 (by rw [isOf.m_eq]; exact significand_lt n)
  have most := doublings_le finite
  have q_eq := isOf.q_eq
  have number : Double.rational n = b.m * 2 ^ b.q := by
    unfold Double.rational gap
    rw [isOf.m_eq, isOf.q_eq]
  have unit : (0 : ℚ) < 2 ^ b.q := zpow_pos (by norm_num) _
  have least : (2 : ℚ) ^ ((b.m.log2 : ℤ) + b.q) ≤ Double.rational n := by
    rw [number, zpow_add₀ (by norm_num), zpow_natCast]
    exact mul_le_mul_of_nonneg_right (by exact_mod_cast lower) unit.le
  have greatest : Double.rational n < (2 : ℚ) ^ ((b.m.log2 : ℤ) + b.q + 1) := by
    have power : (2 : ℚ) ^ ((b.m.log2 : ℤ) + b.q + 1) = 2 ^ (b.m.log2 + 1) * 2 ^ b.q := by
      rw [← zpow_natCast, ← zpow_add₀ (by norm_num)]
      congr 1
      push_cast
      ring
    rw [number, power]
    exact mul_lt_mul_of_pos_right (by exact_mod_cast upper) unit
  obtain ⟨below, above⟩ := @guess_spec ((b.m.log2 : ℤ) + b.q) (by omega) (by omega)
  have leading_eq : b.leading = if 0 < b.floorOn (((b.m.log2 : ℤ) + b.q) * 78913 / 2 ^ 18 + 1) then
      ((b.m.log2 : ℤ) + b.q) * 78913 / 2 ^ 18 + 1 else ((b.m.log2 : ℤ) + b.q) * 78913 / 2 ^ 18 := rfl
  rw [leading_eq]
  split
  · next large =>
    rw [floorOn_pos_iff isOf] at large
    have sum : ((b.m.log2 : ℤ) + b.q) * 78913 / 2 ^ 18 + 2 =
        ((b.m.log2 : ℤ) + b.q) * 78913 / 2 ^ 18 + 1 + 1 := by ring
    exact ⟨large, greatest.trans_le (sum ▸ above)⟩
  · next small =>
    rw [floorOn_pos_iff isOf, not_le] at small
    exact ⟨below.trans least, small⟩

/-! ## Search -/

/-- On a grid that is finer than the gaps around the number, one of its two neighbours is held. -/
theorem holds_floorOn_or_succ (isOf : b.IsOf n) {k : ℤ} (some : 0 < b.floorOn k)
    (fine : (10 : ℚ) ^ k < gap n) (fineBelow : b.narrowBelow = true → (10 : ℚ) ^ k < gap n / 2) :
    b.holds k (b.floorOn k) = true ∨ b.holds k (b.floorOn k + 1) = true := by
  have unit : (0 : ℚ) < 10 ^ k := zpow_pos (by norm_num) k
  obtain ⟨below, above⟩ := floorOn_spec isOf k
  rw [Nat.cast_add, Nat.cast_one, add_mul, one_mul] at above
  have positive := isOf.m_pos (unit.trans_le ((floorOn_pos_iff isOf k).1 some))
  have less := isOf.lower_lt positive
  have top : middle n = Double.rational n + gap n / 2 := rfl
  by_cases narrow : b.narrowBelow = true
  · -- the upper one is less than a grid's step away, which is short
    right
    have short := fineBelow narrow
    refine holds_of_lt isOf (Nat.succ_pos _) ?_ ?_ <;>
    · push_cast
      linarith
  · -- the nearer one is half a step away at most
    have bottom := isOf.lower_eq_of_wide positive narrow
    rcases lt_or_ge (Double.rational n - b.floorOn k * 10 ^ k) (gap n / 2) with near | far
    · left
      refine holds_of_lt isOf some ?_ ?_ <;> linarith [gap_pos n]
    · right
      refine holds_of_lt isOf (Nat.succ_pos _) ?_ ?_ <;>
      · push_cast
        linarith

theorem neighbour_isSome (isOf : b.IsOf n) (tieUp : Bool) {k : ℤ} (some : 0 < b.floorOn k)
    (fine : (10 : ℚ) ^ k < gap n) (fineBelow : b.narrowBelow = true → (10 : ℚ) ^ k < gap n / 2) :
    (b.neighbour tieUp k).isSome = true := by
  unfold neighbour
  dsimp only
  rcases holds_floorOn_or_succ isOf some fine fineBelow with held | held <;> rw [held] <;> split <;>
    first | rfl | contradiction

theorem holds_of_neighbour {tieUp : Bool} {k : ℤ} {c : Nat} (hit : b.neighbour tieUp k = some c) :
    b.holds k c = true ∧ c ≤ b.floorOn k + 1 := by
  unfold neighbour at hit
  dsimp only at hit
  split at hit
  · next below above =>
    obtain rfl := Option.some.inj hit
    split
    · exact ⟨above, Nat.le_refl _⟩
    · exact ⟨below, Nat.le_succ _⟩
  · next below _ =>
    obtain rfl := Option.some.inj hit
    exact ⟨below, Nat.le_succ _⟩
  · next _ above =>
    obtain rfl := Option.some.inj hit
    exact ⟨above, Nat.le_refl _⟩
  · cases hit

/-- If there is a hit on a grid within reach, the search ends there or before. -/
theorem shortestFrom_spec {tieUp : Bool} {fine : ℤ} (hit : (b.neighbour tieUp fine).isSome = true)
    {grids : Nat} {k : ℤ} (le : fine ≤ k) (near : k < fine + grids) :
    ∃ j c, fine ≤ j ∧ j ≤ k ∧ b.neighbour tieUp j = some c ∧
      b.shortestFrom tieUp grids k = Decimal.trimmed 20 ⟨c, j⟩ := by
  induction grids generalizing k with
  | zero => omega
  | succ grids ih =>
    rw [shortestFrom]
    cases here : b.neighbour tieUp k with
    | some c => exact ⟨k, c, le, Int.le_refl k, here, rfl⟩
    | none =>
      have other : k ≠ fine := by
        rintro rfl
        rw [here] at hit
        cases hit
      obtain ⟨j, c, least, most, found, same⟩ := @ih (k - 1) (by omega) (by omega)
      exact ⟨j, c, least, by omega, found, same⟩

end Binary

namespace Decimal

/-- Zeros at the end of a significand do not matter. -/
theorem trimmed_spec (fuel : Nat) (d : Decimal) :
    (trimmed fuel d).rational = d.rational ∧ (trimmed fuel d).significand ≤ d.significand ∧
      (0 < d.significand → 0 < (trimmed fuel d).significand) ∧
      d.exponent ≤ (trimmed fuel d).exponent := by
  induction fuel generalizing d with
  | zero => exact ⟨rfl, Nat.le_refl _, id, Int.le_refl _⟩
  | succ fuel ih =>
    rw [trimmed]
    split
    · next zero =>
      obtain ⟨same, smaller, positive, greater⟩ := ih ⟨d.significand / 10, d.exponent + 1⟩
      refine ⟨same.trans ?_, smaller.trans (Nat.div_le_self _ _), fun some => positive ?_, ?_⟩
      · have tenfold : (d.significand : ℚ) = 10 * (d.significand / 10 : Nat) := by
          have parts : d.significand = 10 * (d.significand / 10) := by omega
          exact_mod_cast parts
        unfold rational
        rw [zpow_add_one₀ (by norm_num), tenfold]
        ring
      · show 0 < d.significand / 10
        omega
      · show d.exponent ≤ _
        have greater' : d.exponent + 1 ≤ _ := greater
        omega
    · exact ⟨rfl, Nat.le_refl _, id, Int.le_refl _⟩

end Decimal

namespace Binary

variable {b : Binary} {n : Nat}

/-- No gap is narrower than twice the last power of ten that digits are needed of. -/
theorem two_mul_ten_zpow_lt (n : Nat) : 2 * (10 : ℚ) ^ (-324 : ℤ) < gap n := by
  have powers : (2 : ℚ) * 2 ^ 1074 < 10 ^ 324 := by
    have natural : 2 * 2 ^ 1074 < 10 ^ 324 := by decide +kernel
    exact_mod_cast natural
  have least : 2 * (10 : ℚ) ^ (-324 : ℤ) < 2 ^ (-1074 : ℤ) := by
    rw [zpow_neg, zpow_neg, zpow_ofNat, zpow_ofNat, ← div_eq_mul_inv, ← one_div,
      div_lt_div_iff₀ (by positivity) (by positivity), one_mul]
    exact powers
  refine least.trans_le (zpow_le_zpow_right₀ (by norm_num) ?_)
  omega

/-- Sixteen digits after the first one reach below the gap above a number, and below the gap under a
power of two. -/
theorem leading_sub_lt (isOf : b.IsOf n) (some : 0 < n) (finite : n < infinite) :
    (10 : ℚ) ^ (b.leading - 16) < gap n ∧
      (b.narrowBelow = true → (10 : ℚ) ^ (b.leading - 16) < gap n / 2) := by
  have wide := gap_pos n
  obtain ⟨below, -⟩ := leading_spec isOf some finite
  have power : (10 : ℚ) ^ (b.leading - 16) * 10 ^ 16 = 10 ^ b.leading := by
    rw [← zpow_natCast, ← zpow_add₀ (by norm_num)]
    congr 1
    push_cast
    ring
  have number : Double.rational n = significand n * gap n := rfl
  constructor
  · have m_lt : (significand n : ℚ) < 10 ^ 16 := by
      have less := significand_lt n
      exact_mod_cast (show significand n < 10 ^ 16 by omega)
    have product := mul_lt_mul_of_pos_right m_lt wide
    have cancel : (10 : ℚ) ^ (b.leading - 16) * 10 ^ 16 < gap n * 10 ^ 16 := by linarith
    exact lt_of_mul_lt_mul_right cancel (by norm_num)
  · intro narrow
    have m_eq : (significand n : ℚ) = 2 ^ 52 := by
      have start := (isOf.narrow_iff.1 narrow)
      have exact_eq : significand n = 2 ^ 52 := by
        unfold significand doublings
        omega
      exact_mod_cast exact_eq
    have cancel : (10 : ℚ) ^ (b.leading - 16) * 10 ^ 16 < gap n / 2 * 10 ^ 16 := by
      rw [m_eq] at number
      linarith
    exact lt_of_mul_lt_mul_right cancel (by norm_num)

theorem leading_ge (isOf : b.IsOf n) (some : 0 < n) (finite : n < infinite) : -324 ≤ b.leading := by
  obtain ⟨-, above⟩ := leading_spec isOf some finite
  have least : gap n ≤ Double.rational n := by
    have one : (1 : ℚ) ≤ significand n := by exact_mod_cast significand_pos some
    exact le_mul_of_one_le_left (gap_pos n).le one
  have unit : (0 : ℚ) < 10 ^ (-324 : ℤ) := zpow_pos (by norm_num) _
  have less : (10 : ℚ) ^ (-324 : ℤ) < 10 ^ (b.leading + 1) := by
    have last := two_mul_ten_zpow_lt n
    linarith
  have exponents := (zpow_lt_zpow_iff_right₀ (by norm_num)).1 less
  omega

/-- One of two grids is the finest that can be needed. -/
theorem finest_isSome (isOf : b.IsOf n) (some : 0 < n) (finite : n < infinite) (tieUp : Bool) :
    (b.neighbour tieUp (max (b.leading - 16) (-324))).isSome = true := by
  have least := leading_ge isOf some finite
  obtain ⟨below, -⟩ := leading_spec isOf some finite
  have reach : 0 < b.floorOn (max (b.leading - 16) (-324)) := by
    rw [floorOn_pos_iff isOf]
    exact (zpow_le_zpow_right₀ (by norm_num) (by omega)).trans below
  rcases max_cases (b.leading - 16) (-324) with ⟨same, -⟩ | ⟨same, -⟩
  · rw [same] at reach ⊢
    obtain ⟨fine, fineBelow⟩ := leading_sub_lt isOf some finite
    exact neighbour_isSome isOf tieUp reach fine fineBelow
  · rw [same] at reach ⊢
    have last := two_mul_ten_zpow_lt n
    have unit : (0 : ℚ) < 10 ^ (-324 : ℤ) := zpow_pos (by norm_num) _
    exact neighbour_isSome isOf tieUp reach (by linarith) fun _ => by linarith

/-- Sixteen places behind the leading digit, the number has seventeen digits. -/
theorem floorOn_lt (isOf : b.IsOf n) (some : 0 < n) (finite : n < infinite) {k : ℤ}
    (near : b.leading - 16 ≤ k) : b.floorOn k < 10 ^ 17 := by
  obtain ⟨-, above⟩ := leading_spec isOf some finite
  obtain ⟨floor_le, -⟩ := floorOn_spec isOf k
  have power : (10 : ℚ) ^ (b.leading + 1) ≤ 10 ^ 17 * 10 ^ k := by
    rw [← zpow_natCast, ← zpow_add₀ (by norm_num)]
    refine zpow_le_zpow_right₀ (by norm_num) ?_
    push_cast
    omega
  have less : (b.floorOn k : ℚ) * 10 ^ k < 10 ^ 17 * 10 ^ k := by linarith
  have digits : (b.floorOn k : ℚ) < (10 ^ 17 : Nat) := by
    push_cast
    exact lt_of_mul_lt_mul_right less (zpow_pos (by norm_num) k).le
  exact_mod_cast digits

/-- The decimal that is found has seventeen digits at most, none of them beyond the 324th place, and
rounds to the number. -/
theorem shortest_spec (isOf : b.IsOf n) (some : 0 < n) (finite : n < infinite) (tieUp : Bool) :
    0 < (b.shortest tieUp).significand ∧ (b.shortest tieUp).significand ≤ 10 ^ 17 ∧
      -324 ≤ (b.shortest tieUp).exponent ∧ Rounds (b.shortest tieUp).rational n := by
  have above := leading_ge isOf some finite
  obtain ⟨j, c, least, most, found, same⟩ :=
    @shortestFrom_spec _ _ _ (finest_isSome isOf some finite tieUp) 17 b.leading (by omega) (by omega)
  obtain ⟨held, c_le⟩ := holds_of_neighbour found
  obtain ⟨positive, rounds⟩ := rounds_of_holds isOf held
  have few : c ≤ 10 ^ 17 := by
    have digits := floorOn_lt isOf some finite (show b.leading - 16 ≤ j by omega)
    omega
  obtain ⟨value, smaller, some', greater⟩ := Decimal.trimmed_spec 20 ⟨c, j⟩
  have shortest_eq : b.shortest tieUp = Decimal.trimmed 20 ⟨c, j⟩ := same
  rw [shortest_eq, value]
  refine ⟨some' positive, smaller.trans few, le_trans ?_ greater, rounds⟩
  show -324 ≤ j
  omega

end Binary

/-- No decimal that rounds to a finite number needs a greater power of ten than these have. -/
theorem Decimal.exponent_le {d : Decimal} {n : Nat} (some : 0 < d.significand)
    (rounds : Rounds d.rational n) (finite : n < infinite) : d.exponent ≤ 308 := by
  have unit : (0 : ℚ) < 10 ^ d.exponent := zpow_pos (by norm_num) _
  have one : (1 : ℚ) ≤ d.significand := by exact_mod_cast some
  have least : (10 : ℚ) ^ d.exponent ≤ d.rational := le_mul_of_one_le_left unit.le one
  have powers : (2 : ℚ) ^ (1024 : ℤ) < 10 ^ (309 : ℤ) := by
    have natural : 2 ^ 1024 < 10 ^ 309 := by decide +kernel
    exact_mod_cast natural
  have less : (10 : ℚ) ^ d.exponent < 10 ^ (309 : ℤ) :=
    calc (10 : ℚ) ^ d.exponent ≤ d.rational := least
      _ ≤ middle n := rounds.above
      _ < 2 ^ (1024 : ℤ) := middle_lt finite
      _ < 10 ^ (309 : ℤ) := powers
  have exponents := (zpow_lt_zpow_iff_right₀ (by norm_num)).1 less
  omega

end ForeignEval

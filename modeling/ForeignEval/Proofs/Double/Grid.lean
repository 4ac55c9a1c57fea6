import Mathlib.Algebra.Order.Field.Basic
import Mathlib.Algebra.Order.Field.Power
import Mathlib.Data.Rat.Cast.Order
import Mathlib.Tactic.Linarith
import Mathlib.Tactic.Ring
import Mathlib.Tactic.NormNum
import Mathlib.Tactic.Positivity
import Mathlib.Tactic.FieldSimp
import ForeignEval.Double

/-!
# Doubles as rational numbers

The magnitudes of doubles count the nonnegative ones from zero on, each a rational number. Between a
magnitude and the next one lies a gap, which doubles from one power of two to the next. A rational
number rounds to the nearest magnitude, and to the even one if it is just in the middle of a gap.

* **Numbers** — `rational`, `gap`, `middle`, all of them strictly increasing or increasing.
* **Rounding** — `Rounds`; there is one magnitude at most that a number rounds to
  (`Rounds.unique`), and comparisons with the middles of gaps bound it (`Rounds.le_of_lt`,
  `Rounds.lt_of_lt`).
-/

namespace ForeignEval.Double

/-! ## Numbers -/

/-- How often the gaps have doubled before this magnitude. -/
def doublings (n : Nat) : Nat := n / 2 ^ 52 - 1

/-- The significand of a magnitude. -/
def significand (n : Nat) : Nat := n - doublings n * 2 ^ 52

/-- The distance of a magnitude to the next one. -/
def gap (n : Nat) : ℚ := 2 ^ ((doublings n : ℤ) - 1074)

/-- The number of a magnitude; exponents have no end here. -/
def rational (n : Nat) : ℚ := significand n * gap n

/-- The middle between a magnitude and the next one. -/
def middle (n : Nat) : ℚ := rational n + gap n / 2

/-- The first magnitude that is no finite number. -/
def infinite : Nat := 2047 * 2 ^ 52

theorem significand_pos {n : Nat} (some : 0 < n) : 0 < significand n := by
  unfold significand doublings
  omega

theorem significand_lt (n : Nat) : significand n < 2 ^ 53 := by
  unfold significand doublings
  omega

theorem doublings_le {n : Nat} (finite : n < infinite) : doublings n ≤ 2045 := by
  unfold infinite at finite
  unfold doublings
  omega

theorem gap_pos (n : Nat) : 0 < gap n := zpow_pos (by norm_num) _

theorem doublings_eq {m k : Nat} (normal : k = 0 ∨ 2 ^ 52 ≤ m) (small : m < 2 ^ 53) :
    doublings (m + k * 2 ^ 52) = k := by
  unfold doublings
  omega

theorem significand_eq {m k : Nat} (normal : k = 0 ∨ 2 ^ 52 ≤ m) (small : m < 2 ^ 53) :
    significand (m + k * 2 ^ 52) = m := by
  unfold significand
  rw [doublings_eq normal small, Nat.add_sub_cancel]

theorem gap_eq {m k : Nat} (normal : k = 0 ∨ 2 ^ 52 ≤ m) (small : m < 2 ^ 53) :
    gap (m + k * 2 ^ 52) = 2 ^ ((k : ℤ) - 1074) := by
  unfold gap
  rw [doublings_eq normal small]

theorem gap_two_pow (k : Nat) : (2 : ℚ) ^ (((k + 1 : Nat) : ℤ) - 1074) = 2 * 2 ^ ((k : ℤ) - 1074) := by
  have sum : ((k + 1 : Nat) : ℤ) - 1074 = 1 + ((k : ℤ) - 1074) := by omega
  rw [sum, zpow_add₀ (by norm_num), zpow_one]

/-- A magnitude by its significand and its exponent; a significand of all ones may be followed by
one more. -/
theorem rational_eq {m k : Nat} (normal : k = 0 ∨ 2 ^ 52 ≤ m) (small : m ≤ 2 ^ 53) :
    rational (m + k * 2 ^ 52) = m * 2 ^ ((k : ℤ) - 1074) := by
  rcases Nat.lt_or_eq_of_le small with small | rfl
  · unfold rational
    rw [gap_eq normal small, significand_eq normal small]
  · -- the next power of two, where the gap doubles
    have next : 2 ^ 53 + k * 2 ^ 52 = 2 ^ 52 + (k + 1) * 2 ^ 52 := by omega
    unfold rational
    rw [next, gap_eq (.inr (Nat.le_refl _)) (by norm_num),
      significand_eq (.inr (Nat.le_refl _)) (by norm_num), gap_two_pow]
    norm_num
    ring

/-- Every magnitude has a significand and an exponent. -/
theorem exists_parts (n : Nat) :
    ∃ m k, n = m + k * 2 ^ 52 ∧ (k = 0 ∨ 2 ^ 52 ≤ m) ∧ m < 2 ^ 53 :=
  ⟨significand n, doublings n, by unfold significand doublings; omega,
    by unfold significand doublings; omega, significand_lt n⟩

theorem rational_nonneg (n : Nat) : 0 ≤ rational n :=
  mul_nonneg (Nat.cast_nonneg _) (gap_pos n).le

theorem rational_zero : rational 0 = 0 := by
  unfold rational significand
  rw [Nat.zero_sub, Nat.cast_zero, zero_mul]

theorem rational_succ (n : Nat) : rational (n + 1) = rational n + gap n := by
  obtain ⟨m, k, rfl, normal, small⟩ := exists_parts n
  have next : m + k * 2 ^ 52 + 1 = (m + 1) + k * 2 ^ 52 := by omega
  rw [next, rational_eq (by omega) (by omega), rational_eq normal small.le, gap_eq normal small]
  push_cast
  ring

theorem rational_strictMono : StrictMono rational := by
  refine strictMono_nat_of_lt_succ fun n => ?_
  rw [rational_succ]
  exact lt_add_of_pos_right _ (gap_pos n)

theorem gap_monotone : Monotone gap := by
  intro n n' le
  refine zpow_le_zpow_right₀ (by norm_num) ?_
  unfold doublings
  omega

theorem middle_strictMono : StrictMono middle := by
  refine strictMono_nat_of_lt_succ fun n => ?_
  have first := gap_pos n
  have second := gap_pos (n + 1)
  unfold middle
  rw [rational_succ]
  linarith

/-- The middle of a gap, from above. -/
theorem middle_eq_sub (n : Nat) : middle n = rational (n + 1) - gap n / 2 := by
  unfold middle
  rw [rational_succ]
  ring

theorem rational_lt_middle (n : Nat) : rational n < middle n := by
  have wide := gap_pos n
  unfold middle
  linarith

theorem middle_lt_rational (n : Nat) : middle n < rational (n + 1) := by
  have wide := gap_pos n
  rw [middle_eq_sub]
  linarith

/-- The middle above a magnitude is half a unit away. -/
theorem middle_eq {m k : Nat} (normal : k = 0 ∨ 2 ^ 52 ≤ m) (small : m < 2 ^ 53) :
    middle (m + k * 2 ^ 52) = (m + 1 / 2) * 2 ^ ((k : ℤ) - 1074) := by
  unfold middle
  rw [rational_eq normal small.le, gap_eq normal small]
  ring

/-- So is the one below, but for a power of two. -/
theorem middle_pred {m k j : Nat} (inside : k = 0 ∨ 2 ^ 52 < m) (small : m ≤ 2 ^ 53)
    (next : m + k * 2 ^ 52 = j + 1) : middle j = (m - 1 / 2) * 2 ^ ((k : ℤ) - 1074) := by
  have here : j = (m - 1) + k * 2 ^ 52 := by omega
  rw [middle_eq_sub, ← next, rational_eq (by omega) small, here, gap_eq (by omega) (by omega)]
  ring

/-- Powers of two, from the least normal one on. -/
theorem rational_two_pow (k : Nat) : rational (2 ^ 52 + k * 2 ^ 52) = 2 ^ ((k : ℤ) - 1022) := by
  rw [rational_eq (.inr (Nat.le_refl _)) (by norm_num), Nat.cast_pow, Nat.cast_ofNat, ← zpow_natCast,
    ← zpow_add₀ (by norm_num)]
  congr 1
  push_cast
  ring

/-- All finite numbers are below a power of two. -/
theorem middle_lt {n : Nat} (finite : n < infinite) : middle n < 2 ^ (1024 : ℤ) := by
  have power := rational_two_pow 2046
  have last : 2 ^ 52 + 2046 * 2 ^ 52 = infinite := rfl
  rw [last] at power
  have le := rational_strictMono.monotone finite
  rw [power] at le
  exact (middle_lt_rational n).trans_le le

/-! ## Rounding -/

/-- A number rounds to a magnitude: it lies between the middles of the gaps on both sides, and may
be one of them if the magnitude is even. -/
structure Rounds (v : ℚ) (n : Nat) : Prop where
  below : ∀ k, n = k + 1 → middle k ≤ v
  above : v ≤ middle n
  evenBelow : ∀ k, n = k + 1 → v = middle k → n % 2 = 0
  evenAbove : v = middle n → n % 2 = 0

namespace Rounds

variable {v w : ℚ} {n n' k : Nat}

theorem le_of_lt (rounds : Rounds v n) (less : v < middle k) : n ≤ k := by
  by_contra greater
  obtain ⟨j, rfl⟩ : ∃ j, n = j + 1 := Nat.exists_eq_add_one_of_ne_zero (by omega)
  have between := middle_strictMono.monotone (show k ≤ j by omega)
  linarith [rounds.below j rfl]

theorem lt_of_lt (rounds : Rounds v n) (less : middle k < v) : k < n := by
  by_contra greater
  have between := middle_strictMono.monotone (show n ≤ k by omega)
  linarith [rounds.above]

/-- A number rounds to one magnitude at most. -/
theorem unique (rounds : Rounds v n) (rounds' : Rounds v n') : n = n' := by
  have one {n n' : Nat} (rounds : Rounds v n) (rounds' : Rounds v n') (less : n < n') : False := by
    obtain ⟨j, rfl⟩ : ∃ j, n' = j + 1 := Nat.exists_eq_add_one_of_ne_zero (by omega)
    have between := middle_strictMono.monotone (show n ≤ j by omega)
    have low := rounds'.below j rfl
    have high := rounds.above
    -- only the middle of the one gap between them is left, and one of the two is odd
    have same : middle n = middle j := by linarith
    have here : n = j := middle_strictMono.injective same
    have even := rounds.evenAbove (by linarith)
    have even' := rounds'.evenBelow j rfl (by linarith)
    omega
  rcases Nat.lt_trichotomy n n' with less | same | less
  · exact absurd less fun less => one rounds rounds' less
  · exact same
  · exact absurd less fun less => one rounds' rounds less

theorem mono (rounds : Rounds v n) (rounds' : Rounds w n') (le : v ≤ w) : n ≤ n' := by
  by_contra greater
  obtain ⟨j, rfl⟩ : ∃ j, n = j + 1 := Nat.exists_eq_add_one_of_ne_zero (by omega)
  have between := middle_strictMono.monotone (show n' ≤ j by omega)
  have low := rounds.below j rfl
  have high := rounds'.above
  have same : v = w := by linarith
  have here := rounds.unique (same ▸ rounds')
  omega

end Rounds

/-- A magnitude rounds to itself. -/
theorem rounds_rational (n : Nat) : Rounds (rational n) n where
  below k same := same ▸ (middle_lt_rational k).le
  above := (rational_lt_middle n).le
  evenBelow k same here := by
    subst same
    exact absurd here (middle_lt_rational k).ne'
  evenAbove here := absurd here (rational_lt_middle n).ne

end ForeignEval.Double

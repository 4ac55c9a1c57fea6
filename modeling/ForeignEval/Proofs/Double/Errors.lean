import ForeignEval.Proofs.Double.Grid
import Mathlib.Tactic.Qify

/-!
# Errors of roundings

A rounding moves a number that is not too small by a certain part of it at most. Numbers that were
rounded and then multiplied or divided are off by twice as much, and then lie two magnitudes apart
at most from where the exact result does.

* **One rounding** — `Once`, and `Rounds.once`.
* **Two roundings** — `Twice`, `Once.mul` and `Once.div`.
* **Magnitudes** — `Beside`, `Twice.beside` and `beside_of_close`.
* **Exact numbers** — natural numbers and powers of ten that are doubles themselves.
* **Two quotients** — `Rounds.beside_greatPower`: there is a third rounding where a number is divided
  by the greatest power of ten and then by another one.
-/

namespace ForeignEval.Double

variable {v v' r r' w x y z d p : ℚ} {n n' : Nat}

/-! ## One rounding -/

/-- Half the gap behind one. -/
def unit : ℚ := 1 / 2 ^ 53

theorem unit_pos : 0 < unit := by
  unfold unit
  positivity

/-- A number is another one up to the error of a rounding. -/
structure Once (r v : ℚ) : Prop where
  below : v ≤ (1 + unit) * r
  above : (1 + unit) * r ≤ (1 + 2 * unit) * v

theorem Once.pos (once : Once r v) (positive : 0 < v) : 0 < r := by
  have small := unit_pos
  have below := once.below
  by_contra negative
  nlinarith

theorem Once.ge (once : Once r v) (positive : 0 < v) : (1 - unit) * v ≤ r := by
  have small := unit_pos
  have front := once.pos positive
  have least : unit ≤ 1 := by norm_num [unit]
  have scaled := mul_le_mul_of_nonneg_left once.below (show 0 ≤ 1 - unit by linarith)
  have part : 0 ≤ unit ^ 2 * r := by positivity
  linarith

theorem Once.div_right {c : ℚ} (once : Once r v) (positive : 0 < c) : Once (r / c) (v / c) where
  below := by
    rw [← mul_div_assoc]
    exact div_le_div_of_nonneg_right once.below positive.le
  above := by
    rw [← mul_div_assoc, ← mul_div_assoc]
    exact div_le_div_of_nonneg_right once.above positive.le

/-- The gap behind a normal magnitude is a small part of it. -/
theorem gap_le (normal : 2 ^ 52 ≤ n) : gap n / 2 ≤ unit * rational n := by
  obtain ⟨m, k, rfl, start, small⟩ := exists_parts n
  have high : 2 ^ 52 ≤ m := by omega
  have wide : (0 : ℚ) < 2 ^ ((k : ℤ) - 1074) := zpow_pos (by norm_num) _
  have large : (2 : ℚ) ^ 52 ≤ m := by exact_mod_cast high
  rw [gap_eq (.inr high) small, rational_eq (.inr high) small.le]
  unfold unit
  nlinarith

/-- Normal numbers are rounded with a small error. -/
theorem Rounds.once (rounds : Rounds v n) (normal : 2 ^ (-1022 : ℤ) ≤ v) : Once (rational n) v := by
  have least : rational (2 ^ 52 + 0 * 2 ^ 52) = 2 ^ (-1022 : ℤ) := rational_two_pow 0
  have large := (rounds_rational _).mono rounds (least.symm ▸ normal)
  have small := unit_pos
  constructor
  · have half := gap_le (show 2 ^ 52 ≤ n by omega)
    have above := rounds.above
    unfold middle at above
    linarith
  · obtain ⟨j, rfl⟩ : ∃ j, n = j + 1 := Nat.exists_eq_add_one_of_ne_zero (by omega)
    by_cases first : 2 ^ 52 ≤ j
    · have half := gap_le first
      have below := rounds.below j rfl
      have scaled := mul_le_mul_of_nonneg_left below (show 0 ≤ 1 + 2 * unit by linarith)
      rw [rational_succ]
      unfold middle at scaled
      linarith
    · -- the least normal number lies below all others
      have same : j + 1 = 2 ^ 52 + 0 * 2 ^ 52 := by omega
      have positive : (0 : ℚ) < 2 ^ (-1022 : ℤ) := zpow_pos (by norm_num) _
      calc (1 + unit) * rational (j + 1)
          = (1 + unit) * 2 ^ (-1022 : ℤ) := by rw [same, least]
        _ ≤ (1 + 2 * unit) * v :=
          mul_le_mul (by linarith) normal positive.le (by linarith)

/-! ## Two roundings -/

/-- A number is another one up to the errors of two roundings. -/
structure Twice (z d : ℚ) : Prop where
  below : (1 - 2 * unit) * d ≤ z
  above : z ≤ (1 + 2 * unit) * d

/-- As `1 + 2 * unit` is less than the square of `1 + unit`. -/
theorem le_of_sq_mul_le (nonneg : 0 ≤ d) (le : (1 + unit) ^ 2 * z ≤ (1 + 2 * unit) ^ 2 * d) :
    z ≤ (1 + 2 * unit) * d := by
  have small := unit_pos
  have part : 0 ≤ unit ^ 2 * (1 + 2 * unit) * d := by positivity
  have scaled : (1 + unit) ^ 2 * z ≤ (1 + unit) ^ 2 * ((1 + 2 * unit) * d) := by linarith
  exact le_of_mul_le_mul_left scaled (by positivity)

/-- A product of rounded numbers. -/
theorem Once.mul (once : Once r v) (once' : Once r' v') (positive : 0 < v) (positive' : 0 < v') :
    Twice (r * r') (v * v') := by
  have small := unit_pos
  have front := once.pos positive
  have front' := once'.pos positive'
  have below : v * v' ≤ ((1 + unit) * r) * ((1 + unit) * r') :=
    mul_le_mul once.below once'.below positive'.le (by positivity)
  have above : ((1 + unit) * r) * ((1 + unit) * r') ≤ ((1 + 2 * unit) * v) * ((1 + 2 * unit) * v') :=
    mul_le_mul once.above once'.above (by positivity) (by positivity)
  have product := mul_pos front front'
  have exact := mul_pos positive positive'
  constructor
  · -- `(1 - 2 * unit) * (1 + unit) ^ 2 ≤ 1`
    have least : unit ≤ 1 / 2 := by norm_num [unit]
    have scaled := mul_le_mul_of_nonneg_left below (show 0 ≤ 1 - 2 * unit by linarith)
    have part : 0 ≤ unit ^ 2 * (3 + 2 * unit) * (r * r') := by positivity
    linarith
  · refine le_of_sq_mul_le exact.le ?_
    linarith

/-- A quotient of rounded numbers. -/
theorem Once.div (once : Once r v) (once' : Once r' v') (positive : 0 < v) (positive' : 0 < v') :
    Twice (r / r') (v / v') := by
  have small := unit_pos
  have front := once.pos positive
  have front' := once'.pos positive'
  constructor
  · have upper : v / v' ≤ (1 + 2 * unit) * (r / r') := by
      rw [← mul_div_assoc, div_le_div_iff₀ positive' front']
      have scaled : (1 + unit) * (v * r') ≤ (1 + unit) * ((1 + 2 * unit) * r * v') :=
        calc (1 + unit) * (v * r') = v * ((1 + unit) * r') := by ring
          _ ≤ ((1 + unit) * r) * ((1 + 2 * unit) * v') :=
            mul_le_mul once.below once'.above (by positivity) (by positivity)
          _ = _ := by ring
      exact le_of_mul_le_mul_left scaled (by positivity)
    have least : unit ≤ 1 / 2 := by norm_num [unit]
    have scaled := mul_le_mul_of_nonneg_left upper (show 0 ≤ 1 - 2 * unit by linarith)
    have part : 0 ≤ unit ^ 2 * (r / r') := by positivity
    linarith
  · rw [← mul_div_assoc, div_le_div_iff₀ front' positive']
    have scaled : (1 + unit) * (r * v') ≤ (1 + unit) * ((1 + 2 * unit) * v * r') :=
      calc (1 + unit) * (r * v') = ((1 + unit) * r) * v' := by ring
        _ ≤ ((1 + 2 * unit) * v) * ((1 + unit) * r') :=
          mul_le_mul once.above once'.below positive'.le (by positivity)
        _ = _ := by ring
    exact le_of_mul_le_mul_left scaled (by positivity)

/-! ## Magnitudes -/

/-- Magnitudes lie two apart at most. -/
structure Beside (n n' : Nat) : Prop where
  above : n' ≤ n + 2
  below : n ≤ n' + 2

theorem middle_lt_gap (n : Nat) : middle n < 2 ^ 53 * gap n := by
  have wide := gap_pos n
  have small : (significand n : ℚ) + 1 ≤ 2 ^ 53 := by exact_mod_cast significand_lt n
  unfold middle rational
  nlinarith

theorem middle_add_two (n : Nat) : middle (n + 2) = middle n + gap n / 2 + gap (n + 1) + gap (n + 2) / 2 := by
  unfold middle
  rw [rational_succ, rational_succ]
  ring

/-- Two roundings do not reach behind the second magnitude above. -/
theorem lt_middle_add_two (n : Nat) : (1 + 2 * unit) * middle n < middle (n + 2) := by
  have first := gap_monotone (Nat.le_add_right n 1)
  have second := gap_monotone (Nat.le_add_right n 2)
  have small := unit_pos
  have scaled := mul_lt_mul_of_pos_left (middle_lt_gap n) small
  have whole : unit * (2 ^ 53 * gap n) = gap n := by
    unfold unit
    ring
  rw [middle_add_two]
  linarith

/-- Nor behind the second one below, also where the gaps double. -/
theorem middle_lt_add_two (n : Nat) : middle n < (1 - 2 * unit) * middle (n + 2) := by
  have wide := gap_pos n
  have first := gap_monotone (Nat.le_add_right n 1)
  have moved : 2 * unit * middle (n + 2) < gap n / 2 + gap (n + 1) + gap (n + 2) / 2 := by
    by_cases same : doublings (n + 2) = doublings n
    · have scaled := mul_lt_mul_of_pos_left (middle_lt_gap (n + 2)) unit_pos
      have whole : unit * (2 ^ 53 * gap (n + 2)) = gap (n + 2) := by
        unfold unit
        ring
      have equal : gap (n + 2) = gap n := by
        unfold gap
        rw [same]
      linarith
    · -- the first magnitudes behind a power of two
      have next : doublings (n + 2) = doublings n + 1 := by
        unfold doublings at same ⊢
        omega
      have few : significand (n + 2) ≤ 2 ^ 52 + 1 := by
        unfold significand doublings at *
        omega
      have few' : (significand (n + 2) : ℚ) ≤ 2 ^ 52 + 1 := by exact_mod_cast few
      have double : gap (n + 2) = 2 * gap n := by
        unfold gap
        rw [next, gap_two_pow]
      have small := unit_pos
      calc 2 * unit * middle (n + 2)
          = 2 * unit * ((significand (n + 2) + 1 / 2) * (2 * gap n)) := by
            unfold middle rational
            rw [double]
            ring
        _ ≤ 2 * unit * ((2 ^ 52 + 1 + 1 / 2) * (2 * gap n)) := by gcongr
        _ = (2 + 6 * unit) * gap n := by
            unfold unit
            ring
        _ < _ := by
            rw [double]
            have little : unit ≤ 1 / 24 := by norm_num [unit]
            nlinarith
  have sum := middle_add_two n
  linarith

/-- What two roundings make of a number is rounded two magnitudes apart at most. -/
theorem Twice.beside (twice : Twice z d) (rounds : Rounds d n) (rounds' : Rounds z n') :
    Beside n n' := by
  have small := unit_pos
  constructor
  · refine rounds'.le_of_lt ?_
    calc z ≤ (1 + 2 * unit) * d := twice.above
      _ ≤ (1 + 2 * unit) * middle n := by
        have above := rounds.above
        gcongr
      _ < middle (n + 2) := lt_middle_add_two n
  · by_contra greater
    obtain ⟨j, rfl⟩ : ∃ j, n = j + 3 := ⟨n - 3, by omega⟩
    have least : 0 ≤ 1 - 2 * unit := by norm_num [unit]
    have less : middle j < z :=
      calc middle j < (1 - 2 * unit) * middle (j + 2) := middle_lt_add_two j
        _ ≤ (1 - 2 * unit) * d := by
          have below := rounds.below (j + 2) rfl
          gcongr
        _ ≤ z := twice.below
    have between := rounds'.lt_of_lt less
    omega

/-- So is a number that is closer than the least gap. -/
theorem beside_of_close (close : |z - d| ≤ 2 ^ (-1074 : ℤ)) (rounds : Rounds d n)
    (rounds' : Rounds z n') : Beside n n' := by
  have least (k : Nat) : 2 ^ (-1074 : ℤ) ≤ gap k :=
    zpow_le_zpow_right₀ (by norm_num) (by omega)
  obtain ⟨low, high⟩ := abs_le.1 close
  constructor
  · refine rounds'.le_of_lt ?_
    have above := rounds.above
    have wide := gap_pos n
    have next := least (n + 1)
    have last := gap_pos (n + 2)
    rw [middle_add_two]
    linarith
  · by_contra greater
    obtain ⟨j, rfl⟩ : ∃ j, n = j + 3 := ⟨n - 3, by omega⟩
    have below := rounds.below (j + 2) rfl
    have wide := gap_pos j
    have next := least (j + 1)
    have last := gap_pos (j + 2)
    rw [middle_add_two] at below
    have between := rounds'.lt_of_lt (show middle j < z by linarith)
    omega

/-! ## Exact numbers -/

/-- A number of 53 bits with zeros behind them is one of the doubles. -/
theorem exists_rational {m : Nat} (some : 0 < m) (small : m ≤ 2 ^ 53) (e : Nat) :
    ∃ n, rational n = m * 2 ^ e := by
  obtain ⟨t, most, front, last⟩ : ∃ t, t ≤ 52 ∧ 2 ^ 52 ≤ m * 2 ^ t ∧ m * 2 ^ t ≤ 2 ^ 53 := by
    rcases Nat.lt_or_eq_of_le small with small | rfl
    · have log : m.log2 < 53 := (Nat.log2_lt some.ne').2 small
      have front : 2 ^ m.log2 * 2 ^ (52 - m.log2) ≤ m * 2 ^ (52 - m.log2) :=
        Nat.mul_le_mul_right _ (Nat.log2_self_le some.ne')
      have last : m * 2 ^ (52 - m.log2) ≤ 2 ^ (m.log2 + 1) * 2 ^ (52 - m.log2) :=
        Nat.mul_le_mul_right _ Nat.lt_log2_self.le
      rw [← Nat.pow_add, show m.log2 + (52 - m.log2) = 52 by omega] at front
      rw [← Nat.pow_add, show m.log2 + 1 + (52 - m.log2) = 53 by omega] at last
      exact ⟨52 - m.log2, by omega, front, last⟩
    · exact ⟨0, by decide, by decide, by decide⟩
  refine ⟨m * 2 ^ t + (e + 1074 - t) * 2 ^ 52, ?_⟩
  have exponent : ((e + 1074 - t : Nat) : ℤ) - 1074 = (e : ℤ) - t := by omega
  rw [rational_eq (.inr front) last, exponent, zpow_sub₀ (by norm_num), zpow_natCast, zpow_natCast]
  push_cast
  field_simp

theorem Rounds.exact_natCast {m : Nat} (some : 0 < m) (small : m ≤ 2 ^ 53) (rounds : Rounds m n) :
    rational n = m := by
  obtain ⟨k, same⟩ := exists_rational some small 0
  rw [pow_zero, mul_one] at same
  rw [← same] at rounds
  rw [rounds.unique (rounds_rational k), same]

/-- The powers of ten of up to 22 zeros. -/
theorem Rounds.exact_powerOfTen {k : Nat} (few : k ≤ 22) (rounds : Rounds (10 ^ k) n) :
    rational n = 10 ^ k := by
  have small : 5 ^ k ≤ 2 ^ 53 := (Nat.pow_le_pow_right (by decide) few).trans (by decide)
  obtain ⟨j, same⟩ := exists_rational (Nat.pow_pos (by decide)) small k
  have product : ((5 ^ k : Nat) : ℚ) * 2 ^ k = 10 ^ k := by
    rw [Nat.cast_pow, ← mul_pow]
    norm_num
  rw [product] at same
  rw [← same] at rounds
  rw [rounds.unique (rounds_rational j), same]

/-! ## Two quotients -/

/-- Rounding a number up to a power of two takes half the gap below that at most. -/
theorem Rounds.error {k : Nat} (rounds : Rounds v n) (nonneg : 0 ≤ v)
    (small : v ≤ 2 ^ ((k : ℤ) - 1021)) :
    |rational n - v| ≤ 2 ^ ((k : ℤ) - 1075) := by
  obtain ⟨last, last_eq⟩ : ∃ last, last = 2 ^ 53 - 1 + k * 2 ^ 52 := ⟨_, rfl⟩
  have power : rational (last + 1) = 2 ^ ((k : ℤ) - 1021) := by
    have next : last + 1 = 2 ^ 52 + (k + 1) * 2 ^ 52 := by omega
    rw [next, rational_two_pow]
    congr 1
    omega
  have half : gap last / 2 = 2 ^ ((k : ℤ) - 1075) := by
    rw [last_eq, gap_eq (by omega) (by omega), div_eq_mul_inv, ← zpow_neg_one,
      ← zpow_add₀ (by norm_num)]
    congr 1
    ring
  have most := rounds.mono (rounds_rational (last + 1)) (power.symm ▸ small)
  rw [← half]
  refine abs_le.2 ⟨?_, ?_⟩
  · rcases Nat.lt_or_eq_of_le most with less | same
    · have above := rounds.above
      have between := gap_monotone (show n ≤ last by omega)
      unfold middle at above
      linarith
    · have wide := gap_pos last
      rw [same, power]
      linarith
  · cases n with
    | zero =>
      have wide := gap_pos last
      rw [rational_zero]
      linarith
    | succ i =>
      have below := rounds.below i rfl
      have between := gap_monotone (show i ≤ last by omega)
      rw [middle_eq_sub] at below
      linarith

/-- The magnitude of the greatest power of ten. -/
def greatPower : Nat := 5010420900022432 + 2045 * 2 ^ 52

theorem rational_greatPower : rational greatPower = 5010420900022432 * 2 ^ 971 := by
  unfold greatPower
  rw [rational_eq (.inr (by norm_num)) (by norm_num), ← zpow_natCast]
  norm_num

/-- The greatest power of ten is rounded up, by a small part of an error. -/
theorem greatPower_close :
    10 ^ 308 ≤ rational greatPower ∧ rational greatPower ≤ (1 + unit / 10) * 10 ^ 308 := by
  have least : 10 ^ 308 ≤ 5010420900022432 * 2 ^ 971 := by decide +kernel
  have most : 10 * 2 ^ 53 * (5010420900022432 * 2 ^ 971) ≤ (10 * 2 ^ 53 + 1) * 10 ^ 308 := by
    decide +kernel
  qify at least most
  rw [rational_greatPower]
  unfold unit
  generalize (2 : ℚ) ^ 971 = power at *
  generalize (10 : ℚ) ^ 308 = ten at *
  exact ⟨least, by linarith⟩

theorem reciprocal_greatPower : 2 ^ (-1024 : ℤ) ≤ 1 / rational greatPower := by
  have split : (2 : ℚ) ^ (1024 : ℕ) = 2 ^ 53 * 2 ^ 971 := (pow_add 2 53 971)
  have most : rational greatPower ≤ 2 ^ (1024 : ℕ) := by
    rw [rational_greatPower, split]
    exact mul_le_mul_of_nonneg_right (by norm_num) (by positivity)
  have positive : 0 < rational greatPower :=
    (show (0 : ℚ) < 10 ^ 308 by positivity).trans_le greatPower_close.1
  have exponent : (-1024 : ℤ) = -((1024 : ℕ) : ℤ) := rfl
  rw [exponent, zpow_neg, zpow_natCast, ← one_div]
  exact one_div_le_one_div_of_le positive most

theorem rounds_greatPower : Rounds (10 ^ 308) greatPower := by
  have wide : gap (greatPower - 1) = 2 ^ 971 := by
    have before : greatPower - 1 = 5010420900022431 + 2045 * 2 ^ 52 := rfl
    rw [before, gap_eq (.inr (by norm_num)) (by norm_num), ← zpow_natCast]
    norm_num
  have above := greatPower_close.1.trans_lt (rational_lt_middle greatPower)
  have below : middle (greatPower - 1) < 10 ^ 308 := by
    have less : 2 * 5010420900022432 * 2 ^ 971 < 2 * 10 ^ 308 + 2 ^ 971 := by decide +kernel
    have next : greatPower - 1 + 1 = greatPower := rfl
    qify at less
    rw [middle_eq_sub, wide, next, rational_greatPower]
    generalize (2 : ℚ) ^ 971 = power at *
    generalize (10 : ℚ) ^ 308 = ten at *
    linarith
  refine ⟨?_, above.le, ?_, fun same => absurd same above.ne⟩
  · intro k same
    rw [same] at below
    exact below.le
  · intro k next same
    rw [next] at below
    exact absurd same below.ne'

/-- The greatest power of ten lies a little above a power of two. -/
theorem div_power_bounds (nonneg : 0 ≤ r) : 8 / 9 * (r / 2 ^ 1023) ≤ r / 10 ^ 308 ∧
    r / 10 ^ 308 ≤ 80 / 89 * (r / 2 ^ 1023) := by
  have most : 8 * 10 ^ 308 ≤ 9 * 2 ^ 1023 := by decide +kernel
  have least : 89 * 2 ^ 1023 ≤ 80 * 10 ^ 308 := by decide +kernel
  have power : (0 : ℚ) < 2 ^ 1023 := by positivity
  have ten : (0 : ℚ) < 10 ^ 308 := by positivity
  qify at least most
  generalize (2 : ℚ) ^ 1023 = power' at *
  generalize (10 : ℚ) ^ 308 = ten' at *
  rw [← mul_div_assoc, ← mul_div_assoc, div_le_div_iff₀ power ten, div_le_div_iff₀ ten power]
  constructor <;> nlinarith

/-- A natural number loses less than it might when it is rounded, but for those that are little more
than a power of two. -/
theorem Rounds.ge_or_near {s : Nat} (some : 0 < s) (rounds : Rounds s n) :
    (1 - 9 / 10 * unit) * s ≤ rational n ∨
      ∃ i : Nat, (2 : ℚ) ^ (53 + i) ≤ s ∧ (s : ℚ) ≤ 10 / 9 * 2 ^ (53 + i) := by
  by_cases small : s ≤ 2 ^ 53
  · refine .inl ?_
    have positive : (0 : ℚ) < s := by exact_mod_cast some
    have part := mul_pos unit_pos positive
    rw [rounds.exact_natCast some small]
    linarith
  · have bits : 53 ≤ s.log2 := (Nat.le_log2 some.ne').2 (by omega)
    obtain ⟨i, log⟩ := Nat.exists_eq_add_of_le bits
    have front : (2 : ℚ) ^ (53 + i) ≤ s := by
      rw [← log]
      exact_mod_cast Nat.log2_self_le some.ne'
    by_cases near : (s : ℚ) ≤ 10 / 9 * 2 ^ (53 + i)
    · exact .inr ⟨i, front, near⟩
    · refine .inl ?_
      have last : (s : ℚ) ≤ 2 ^ (((i + 1075 : Nat) : ℤ) - 1021) := by
        have less : s < 2 ^ (53 + i + 1) := log ▸ Nat.lt_log2_self
        have exponent : ((i + 1075 : Nat) : ℤ) - 1021 = (53 + i + 1 : Nat) := by omega
        rw [exponent, zpow_natCast]
        exact_mod_cast less.le
      have error := (abs_le.1 (rounds.error (Nat.cast_nonneg s) last)).1
      have exponent : ((i + 1075 : Nat) : ℤ) - 1075 = i := by omega
      rw [exponent, zpow_natCast] at error
      rw [pow_add] at near
      unfold unit
      linarith

/-- The greatest power of ten takes only little of a quotient. -/
theorem div_greatPower (positive : 0 < r) : r / rational greatPower ≤ r / 10 ^ 308 ∧
    (1 - unit / 10) * (r / 10 ^ 308) ≤ r / rational greatPower := by
  obtain ⟨least, most⟩ := greatPower_close
  have ten : (0 : ℚ) < 10 ^ 308 := by positivity
  have small := unit_pos
  generalize rational greatPower = great at *
  generalize (10 : ℚ) ^ 308 = ten' at *
  have great_pos : 0 < great := ten.trans_le least
  refine ⟨div_le_div_of_nonneg_left positive.le ten least, ?_⟩
  rw [← mul_div_assoc, div_le_div_iff₀ ten great_pos]
  have little : unit / 10 ≤ 1 := by norm_num [unit]
  have scaled := mul_le_mul_of_nonneg_left most (show 0 ≤ (1 - unit / 10) * r by
    exact mul_nonneg (by linarith) positive.le)
  have part : 0 ≤ unit ^ 2 * (r * ten') := by positivity
  linarith

/-- Three roundings are no worse than two if the first takes less than it might and the second one
only little. -/
theorem le_of_three_roundings (positive : 0 < y) (first : (1 - 9 / 10 * unit) * y ≤ x)
    (second : (1 - unit / 10) * x ≤ w) (third : (1 - unit) * w ≤ z) : (1 - 2 * unit) * y ≤ z := by
  have small := unit_pos
  have little : unit ≤ 1 / 10000 := by norm_num [unit]
  have square : 0 ≤ unit ^ 2 * y := by positivity
  have cubic : 0 ≤ unit ^ 2 * (1 - unit) * y :=
    mul_nonneg (mul_nonneg (by positivity) (by linarith)) positive.le
  calc (1 - 2 * unit) * y
      ≤ (1 - unit) * ((1 - unit / 10) * ((1 - 9 / 10 * unit) * y)) := by linarith
    _ ≤ (1 - unit) * ((1 - unit / 10) * x) :=
      mul_le_mul_of_nonneg_left (mul_le_mul_of_nonneg_left first (by linarith)) (by linarith)
    _ ≤ (1 - unit) * w := mul_le_mul_of_nonneg_left second (by linarith)
    _ ≤ z := third

/-- Nor if the last one takes no more than the half gap below `p`, which is little more than the
number. -/
theorem le_of_three_roundings_below (positive : 0 < y) (first : (1 - unit) * y ≤ x)
    (second : (1 - unit / 10) * x ≤ w) (third : w - unit / 2 * p ≤ z) (near : 8 / 9 * p ≤ y) :
    (1 - 2 * unit) * y ≤ z := by
  have small := unit_pos
  have little : unit ≤ 1 / 10000 := by norm_num [unit]
  have square : 0 ≤ unit ^ 2 * y := by positivity
  have taken := mul_le_mul_of_nonneg_left near small.le
  have kept := (mul_le_mul_of_nonneg_left first (show 0 ≤ 1 - unit / 10 by linarith)).trans second
  have part := mul_pos small positive
  linarith

/-- Rounding a number up to a power of two, in terms of the power. -/
theorem Rounds.ge_sub {i : Nat} (rounds : Rounds v n) (nonneg : 0 ≤ v)
    (power : p = 2 ^ (53 + i) / 2 ^ 1023) (below : v ≤ p) : v - unit / 2 * p ≤ rational n := by
  have bound : (2 : ℚ) ^ (((i + 51 : Nat) : ℤ) - 1021) = p := by
    have exponent : ((i + 51 : Nat) : ℤ) - 1021 = (53 + i : Nat) - (1023 : Nat) := by omega
    rw [power, exponent, zpow_sub₀ (by norm_num), zpow_natCast, zpow_natCast]
  have half : (2 : ℚ) ^ (((i + 51 : Nat) : ℤ) - 1075) = unit / 2 * p := by
    have exponent : ((i + 51 : Nat) : ℤ) - 1075 = ((i + 51 : Nat) : ℤ) - 1021 - (54 : Nat) := by
      omega
    rw [exponent, zpow_sub₀ (by norm_num), bound, zpow_natCast]
    unfold unit
    ring
  have error := (abs_le.1 (rounds.error nonneg (bound.symm ▸ below))).1
  rw [half] at error
  linarith

/-- From three on, natural numbers divided by the greatest power of ten are normal, also if a fourth
of them is taken away. -/
theorem normal_of_three {s : Nat} (some : 3 ≤ s) (kept : 3 / 4 * (s / 10 ^ 308) ≤ w) :
    2 ^ (-1022 : ℤ) ≤ w := by
  have natural : (3 : ℚ) ≤ s := by exact_mod_cast some
  have unfolded : (2 : ℚ) ^ (-1022 : ℤ) = 2 / 3 * (3 / 2 ^ 1023) := by
    have exponent : (-1022 : ℤ) = 1 - (1023 : Nat) := rfl
    rw [exponent, zpow_sub₀ (by norm_num), zpow_natCast, zpow_one]
    generalize (2 : ℚ) ^ 1023 = power
    ring
  have three := (div_power_bounds (show (0 : ℚ) ≤ 3 by norm_num)).1
  have least := div_le_div_of_nonneg_right natural (show (0 : ℚ) ≤ 10 ^ 308 by positivity)
  rw [unfolded]
  generalize (3 : ℚ) / 2 ^ 1023 = third at *
  generalize (3 : ℚ) / 10 ^ 308 = third' at *
  generalize (s : ℚ) / 10 ^ 308 = y at *
  linarith

/-- A natural number divided by the greatest power of ten: of the three roundings, the one of the
power takes only little, and the two others are not both at their worst. -/
theorem Rounds.twice_greatPower {s a q : Nat} (some : 3 ≤ s) (rounds : Rounds s a)
    (rounds' : Rounds (rational a / rational greatPower) q) :
    Twice (rational q) (s / 10 ^ 308) := by
  have natural : (3 : ℚ) ≤ s := by exact_mod_cast some
  have once := rounds.once ((zpow_le_one_of_nonpos₀ (by norm_num) (by norm_num)).trans
    ((by norm_num : (1 : ℚ) ≤ 3).trans natural))
  have ten : (0 : ℚ) < 10 ^ 308 := by positivity
  have small := unit_pos
  have little : unit ≤ 1 / 10000 := by norm_num [unit]
  have scaled := once.div_right ten
  have positive : 0 < (s : ℚ) / 10 ^ 308 := div_pos (by linarith) ten
  have large := scaled.ge positive
  obtain ⟨upper, lower⟩ := div_greatPower (once.pos (by linarith))
  have part := mul_le_mul_of_nonneg_right little positive.le
  have square : 0 ≤ unit ^ 2 * ((s : ℚ) / 10 ^ 308) := by positivity
  have kept : 3 / 4 * (s / 10 ^ 308) ≤ rational a / rational greatPower := by
    have both := (mul_le_mul_of_nonneg_left large (show 0 ≤ 1 - unit / 10 by linarith)).trans lower
    generalize (s : ℚ) / 10 ^ 308 = y at *
    linarith
  have once' := rounds'.once (normal_of_three some kept)
  have positive' : 0 < rational a / rational greatPower := lt_of_lt_of_le (by positivity) kept
  constructor
  · rcases rounds.ge_or_near (by omega) with most | ⟨i, first, near⟩
    · have quotient := div_le_div_of_nonneg_right most ten.le
      rw [mul_div_assoc] at quotient
      exact le_of_three_roundings positive quotient lower (once'.ge positive')
    · -- then the quotient lies below a power of two, and is less than that just as little
      obtain ⟨p, power⟩ : ∃ p : ℚ, p = 2 ^ (53 + i) / 2 ^ 1023 := ⟨_, rfl⟩
      obtain ⟨low, high⟩ := div_power_bounds (show (0 : ℚ) ≤ 2 ^ (53 + i) by positivity)
      have least := low.trans (div_le_div_of_nonneg_right first ten.le)
      have most := div_le_div_of_nonneg_right near ten.le
      rw [mul_div_assoc] at most
      rw [← power] at high least
      have below : rational a / rational greatPower ≤ p := by
        have product := mul_nonneg small.le (scaled.pos positive).le
        have before := scaled.above
        generalize (s : ℚ) / 10 ^ 308 = y at *
        generalize rational a / 10 ^ 308 = x at *
        generalize (2 : ℚ) ^ (53 + i) / 10 ^ 308 = p' at *
        linarith
      exact le_of_three_roundings_below positive large lower
        (rounds'.ge_sub positive'.le power below) least
  · -- both roundings reach as far as in a product, and the power of ten is rounded up
    refine le_of_sq_mul_le positive.le ?_
    have reach := mul_le_mul_of_nonneg_left once'.above (show 0 ≤ 1 + unit by linarith)
    have reach' := mul_le_mul_of_nonneg_left upper
      (show 0 ≤ (1 + 2 * unit) * (1 + unit) by positivity)
    have reach'' := mul_le_mul_of_nonneg_left scaled.above (show 0 ≤ 1 + 2 * unit by linarith)
    generalize (s : ℚ) / 10 ^ 308 = y at *
    generalize rational a / 10 ^ 308 = x at *
    linarith

/-- One and two leave the normal numbers, and lose less than the least gap. -/
theorem Rounds.close_greatPower {s a q : Nat} (some : 0 < s) (few : s ≤ 2) (rounds : Rounds s a)
    (rounds' : Rounds (rational a / rational greatPower) q) :
    |rational q - s / 10 ^ 308| ≤ 2 ^ (-1074 : ℤ) := by
  have natural : (s : ℚ) ≤ 2 := by exact_mod_cast few
  have positive : (0 : ℚ) < s := by exact_mod_cast some
  have same := rounds.exact_natCast some (few.trans (by norm_num))
  rw [same] at rounds'
  obtain ⟨upper, lower⟩ := div_greatPower positive
  have ten : (0 : ℚ) < 10 ^ 308 := by positivity
  have power : (0 : ℚ) < 2 ^ 1023 := by positivity
  have bounds := (div_power_bounds positive.le).2
  have most : (s : ℚ) / 2 ^ 1023 ≤ 2 ^ (-1022 : ℤ) := by
    have exponent : (-1022 : ℤ) = 1 - (1023 : Nat) := rfl
    rw [exponent, zpow_sub₀ (by norm_num), zpow_natCast, zpow_one]
    exact div_le_div_of_nonneg_right natural power.le
  have double : (2 : ℚ) ^ (((0 : Nat) : ℤ) - 1021) = 2 * 2 ^ (-1022 : ℤ) :=
    zpow_one_add₀ (by norm_num) (-1022)
  have half : (2 : ℚ) ^ (-1074 : ℤ) = 2 * 2 ^ (((0 : Nat) : ℤ) - 1075) :=
    zpow_one_add₀ (by norm_num) (-1075)
  have least : unit * 2 ^ (-1022 : ℤ) = 2 ^ (((0 : Nat) : ℤ) - 1075) := by
    have exponent : ((0 : Nat) : ℤ) - 1075 = -1022 - (53 : Nat) := rfl
    rw [exponent, zpow_sub₀ (by norm_num), zpow_natCast]
    unfold unit
    ring
  have small := unit_pos
  have wide : (0 : ℚ) < 2 ^ (-1022 : ℤ) := zpow_pos (by norm_num) _
  have whole : 0 ≤ (s : ℚ) / 2 ^ 1023 := div_nonneg positive.le power.le
  have inside : 0 ≤ (s : ℚ) / rational greatPower :=
    div_nonneg positive.le (rational_nonneg greatPower)
  generalize (s : ℚ) / 2 ^ 1023 = x at *
  generalize (s : ℚ) / 10 ^ 308 = y at *
  have error := rounds'.error inside (by rw [double]; linarith)
  have part := mul_le_mul_of_nonneg_left (bounds.trans
    (mul_le_mul_of_nonneg_left most (by norm_num))) small.le
  rw [half]
  generalize (2 : ℚ) ^ (((0 : Nat) : ℤ) - 1075) = gap at *
  generalize (2 : ℚ) ^ (-1022 : ℤ) = normal at *
  obtain ⟨low, high⟩ := abs_le.1 error
  refine abs_le.2 ⟨?_, ?_⟩ <;> linarith

/-- A natural number that is divided by the greatest power of ten and then by a number from one on
is rounded two magnitudes apart at most. -/
theorem Rounds.beside_greatPower {s a q : Nat} {t : ℚ} (some : 0 < s) (rounds : Rounds s a)
    (rounds' : Rounds (rational a / rational greatPower) q) (large : 1 ≤ t)
    (exact : Rounds (s / 10 ^ 308 / t) n) (last : Rounds (rational q / t) n') : Beside n n' := by
  have positive : 0 < t := by linarith
  by_cases few : s ≤ 2
  · refine beside_of_close ?_ exact last
    have close := rounds.close_greatPower some few rounds'
    rw [← sub_div, abs_div, abs_of_pos positive]
    exact (div_le_self (abs_nonneg _) large).trans close
  · obtain ⟨below, above⟩ := rounds.twice_greatPower (by omega) rounds'
    have twice : Twice (rational q / t) (s / 10 ^ 308 / t) := by
      constructor
      · rw [← mul_div_assoc]
        exact div_le_div_of_nonneg_right below positive.le
      · rw [← mul_div_assoc]
        exact div_le_div_of_nonneg_right above positive.le
    exact twice.beside exact last

end ForeignEval.Double

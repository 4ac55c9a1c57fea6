import ForeignEval.Proofs.Double.Errors
import ForeignEval.Proofs.Double.Machine
import ForeignEval.Proofs.Json.Doubles

/-!
# Scaling by powers of ten

A decimal becomes a double by rounding its significand and a power of ten, and then their product or
quotient. That is off by two magnitudes at most, and not at all where the significand and the power
are doubles themselves.

* **Signs** — `Double.signed`.
* **Scaling** — `scaledBy_beside`, for the decimals that doubles are written as, and
  `scaledBy_exact` for short ones.
* **Reading doubles back** — `Reread`, and `scaled_spelledDecimal` for every finite double.
-/

namespace ForeignEval

/-! ## Signs -/

namespace Double

/-- The double of a magnitude and a sign. -/
def signed (positive : Bool) (n : Nat) : Double :=
  if positive then ⟨UInt64.ofNat n⟩ else Double.neg ⟨UInt64.ofNat n⟩

variable {n : Nat}

theorem toNat_signed (small : n < 2 ^ 63) (positive : Bool) :
    (signed positive n).bits.toNat = if positive then n else n + 2 ^ 63 := by
  have bits : (UInt64.ofNat n).toNat = n := by
    rw [UInt64.toNat_ofNat']
    omega
  cases positive with
  | true => exact bits
  | false =>
    show (UInt64.ofNat n ^^^ 0x8000000000000000).toNat = n + 2 ^ 63
    have sign : (0x8000000000000000 : UInt64).toNat = 2 ^ 63 := rfl
    have low := @Nat.xor_mod_two_pow n (2 ^ 63) 63
    have high := @Nat.xor_div_two_pow n (2 ^ 63) 63
    rw [Nat.mod_eq_of_lt small, Nat.mod_self, Nat.xor_zero] at low
    rw [Nat.div_eq_of_lt small, Nat.div_self (by norm_num), Nat.zero_xor] at high
    rw [UInt64.toNat_xor, bits, sign]
    omega

theorem magnitude_signed (small : n < 2 ^ 63) (positive : Bool) :
    (signed positive n).magnitude = n := by
  have power : Nat.pow 2 63 = 2 ^ 63 := rfl
  unfold magnitude
  rw [toNat_signed small, power]
  cases positive <;> simp <;> omega

theorem isNegative_signed (small : n < 2 ^ 63) (positive : Bool) :
    (signed positive n).isNegative = !positive := by
  have power : Nat.pow 2 63 = 2 ^ 63 := rfl
  unfold isNegative
  rw [toNat_signed small, power]
  cases positive <;> simp
  omega

theorem signed_magnitude (x : Double) : signed (!x.isNegative) x.magnitude = x := by
  have small : x.magnitude < 2 ^ 63 := Nat.mod_lt _ (by norm_num)
  have bits : (signed (!x.isNegative) x.magnitude).bits = x.bits := by
    apply UInt64.toNat_inj.1
    have bound := x.bits.toNat_lt
    have power : Nat.pow 2 63 = 2 ^ 63 := rfl
    rw [toNat_signed small]
    unfold isNegative magnitude
    rw [power]
    split
    · next positive =>
      simp at positive
      omega
    · next negative =>
      simp at negative
      omega
  cases x
  exact congrArg Double.mk bits

end Double

namespace Json

open Double (machine Rounds Once Beside)

variable {s n : Nat} {e : ℤ}

/-! ## Scaling -/

/-- A machine number stands for a number: up to one rounding, and it is neither zero nor infinite. -/
structure Stands (f : Float) (v : ℚ) (a : Nat) : Prop where
  same : f = machine a
  rounds : Rounds v a
  once : Once (Double.rational a) v
  some : 0 < a
  finite : a < Double.infinite

/-- Natural numbers up to the greatest power of ten become machine numbers. -/
theorem ofNat_stands {m : Nat} (some : 0 < m) (few : (m : ℚ) ≤ 10 ^ 308) :
    ∃ a, Stands (Float.ofNat m) m a := by
  obtain ⟨a, same, rounds⟩ := Double.ofNat_eq_machine some
  have least : (1 : ℚ) ≤ m := by exact_mod_cast some
  have large (e : ℤ) (negative : e ≤ 0) : (2 : ℚ) ^ e ≤ m :=
    (zpow_le_one_of_nonpos₀ (by norm_num) negative).trans least
  exact ⟨a, same, rounds, rounds.once (large _ (by norm_num)), rounds.positive (large _ (by norm_num)),
    (rounds.mono Double.rounds_greatPower few).trans_lt (by decide)⟩

theorem significand_stands (some : 0 < s) (few : s ≤ 10 ^ 17) :
    ∃ a, Stands (Float.ofNat s) s a := by
  have few' : (s : ℚ) ≤ 10 ^ 17 := by exact_mod_cast few
  exact ofNat_stands some (few'.trans (pow_le_pow_right₀ (by norm_num) (by norm_num)))

theorem powerOfTen_stands {k : Nat} (few : k ≤ 308) : ∃ b, Stands (powerOfTen k) (10 ^ k) b := by
  have cast : ((10 ^ k : Nat) : ℚ) = 10 ^ k := by rw [Nat.cast_pow, Nat.cast_ofNat]
  have stands := ofNat_stands (Nat.pow_pos (show 0 < 10 by decide))
    (cast.trans_le (pow_le_pow_right₀ (by norm_num) few))
  rw [cast] at stands
  exact stands

theorem scaledBy_up {steps k : Nat} (few : k ≤ 308) (f : Float) : scaledBy (steps + 1) f k =
    if (f * powerOfTen k).isInf then none else some (f * powerOfTen k) := by
  unfold scaledBy
  have size : (k : ℤ).natAbs = k := Int.natAbs_natCast k
  rw [size, if_pos few, if_pos (Int.natCast_nonneg k)]

theorem scaledBy_down {steps k : Nat} (some : 0 < k) (few : k ≤ 308) (f : Float) :
    scaledBy (steps + 1) f (-k) = Option.some (f / powerOfTen k) := by
  unfold scaledBy
  have size : (-k : ℤ).natAbs = k := by omega
  rw [size, if_pos few, if_neg (by omega)]

theorem scaledBy_far {steps : Nat} (far : e < -308) {f : Float} (nonzero : (f == 0.0) = false) :
    scaledBy (steps + 1) f e = scaledBy steps (f / powerOfTen 308) (e + 308) := by
  conv_lhs => unfold scaledBy
  rw [if_neg (by omega), nonzero, if_neg Bool.false_ne_true, if_neg (by omega)]

/-- Exponents from zero on. -/
theorem scaledBy_beside_up {steps k : Nat} (some : 0 < s) (few : s ≤ 10 ^ 17) (small : k ≤ 308)
    (rounds : Rounds (s * 10 ^ k) n) (room : n + 2 < Double.infinite) :
    ∃ n', scaledBy (steps + 1) (Float.ofNat s) k = Option.some (machine n') ∧ Beside n n' := by
  obtain ⟨a, front⟩ := significand_stands some few
  obtain ⟨b, back⟩ := powerOfTen_stands small
  obtain ⟨n', product, rounds'⟩ := Double.machine_mul front.some front.finite back.some back.finite
  have beside := (front.once.mul back.once (Nat.cast_pos.2 some) (by positivity)).beside rounds rounds'
  have finite : ¬Double.infinite ≤ n' := by
    have above := beside.above
    omega
  refine ⟨n', ?_, beside⟩
  rw [scaledBy_up small, front.same, back.same, product, Double.isInf_machine,
    decide_eq_false finite, if_neg Bool.false_ne_true]

/-- Exponents below zero that are powers of ten themselves. -/
theorem scaledBy_beside_down {steps k : Nat} (some : 0 < s) (few : s ≤ 10 ^ 17) (down : 0 < k)
    (small : k ≤ 308) (rounds : Rounds (s / 10 ^ k) n) :
    ∃ n', scaledBy (steps + 1) (Float.ofNat s) (-k) = Option.some (machine n') ∧ Beside n n' := by
  obtain ⟨a, front⟩ := significand_stands some few
  obtain ⟨b, back⟩ := powerOfTen_stands small
  obtain ⟨n', quotient, rounds'⟩ := Double.machine_div front.some front.finite back.some back.finite
  have twice := front.once.div back.once (Nat.cast_pos.2 some) (by positivity)
  refine ⟨n', ?_, twice.beside rounds rounds'⟩
  rw [scaledBy_down down small, front.same, back.same, quotient]

/-- Exponents that take two quotients. -/
theorem scaledBy_beside_far {steps k : Nat} (some : 0 < s) (few : s ≤ 10 ^ 17) (down : 0 < k)
    (small : k ≤ 22) (rounds : Rounds (s / 10 ^ 308 / 10 ^ k) n) :
    ∃ n', scaledBy (steps + 2) (Float.ofNat s) (-(308 + k : Nat)) = Option.some (machine n') ∧
      Beside n n' := by
  obtain ⟨a, front⟩ := significand_stands some few
  obtain ⟨b, great⟩ := powerOfTen_stands (Nat.le_refl 308)
  obtain ⟨c, back⟩ := powerOfTen_stands (show k ≤ 308 by omega)
  obtain ⟨q, quotient, roundsQ⟩ :=
    Double.machine_div front.some front.finite great.some great.finite
  obtain rfl := great.rounds.unique Double.rounds_greatPower
  have power : (1 : ℚ) ≤ 10 ^ k := one_le_pow₀ (by norm_num)
  have large : 1 ≤ Double.rational a := by
    have natural : (1 : ℚ) ≤ s := by exact_mod_cast some
    have first :=
      (Double.rounds_rational Double.one).mono front.rounds (Double.rational_one ▸ natural)
    rw [← Double.rational_one]
    exact Double.rational_strictMono.monotone first
  have finiteQ : q < Double.infinite := by
    have one : (1 : ℚ) ≤ 10 ^ 308 := one_le_pow₀ (by norm_num)
    have less := div_le_self (Double.rational_nonneg a) (one.trans Double.greatPower_close.1)
    exact (roundsQ.mono (Double.rounds_rational a) less).trans_lt front.finite
  have someQ : 0 < q := by
    refine roundsQ.positive (le_trans ?_ (Double.reciprocal_greatPower.trans
      (div_le_div_of_nonneg_right large (Double.rational_nonneg _))))
    exact zpow_le_zpow_right₀ (by norm_num) (by norm_num)
  obtain ⟨n', last, rounds'⟩ := Double.machine_div someQ finiteQ back.some back.finite
  rw [back.rounds.exact_powerOfTen small] at rounds'
  refine ⟨n', ?_, front.rounds.beside_greatPower some roundsQ power rounds rounds'⟩
  have rest : (-(308 + k : Nat) : ℤ) + 308 = -k := by omega
  rw [front.same, scaledBy_far (by omega) (Double.machine_beq_zero front.some front.finite),
    great.same, quotient, rest, scaledBy_down down (by omega), back.same, last]

theorem rational_up (s k : Nat) : Decimal.rational ⟨s, k⟩ = s * 10 ^ k := by
  unfold Decimal.rational
  rw [zpow_natCast]

theorem rational_down (s k : Nat) : Decimal.rational ⟨s, -k⟩ = s / 10 ^ k := by
  unfold Decimal.rational
  rw [zpow_neg, zpow_natCast, div_eq_mul_inv]

/-- Decimals with the significands and exponents of shortest ones are scaled to where they round, but
for two magnitudes at most. -/
theorem scaledBy_beside (some : 0 < s) (few : s ≤ 10 ^ 17) (least : -324 ≤ e) (greatest : e ≤ 308)
    (rounds : Rounds (Decimal.rational ⟨s, e⟩) n) (room : n + 2 < Double.infinite) :
    ∃ n', scaledBy 8 (Float.ofNat s) e = Option.some (machine n') ∧ Beside n n' := by
  rcases lt_or_ge e 0 with down | up
  · obtain ⟨k, rfl⟩ : ∃ k : Nat, e = -k := ⟨e.natAbs, by omega⟩
    rw [rational_down] at rounds
    by_cases small : k ≤ 308
    · exact scaledBy_beside_down some few (by omega) small rounds
    · obtain ⟨j, rfl⟩ : ∃ j, k = 308 + j := Nat.exists_eq_add_of_le (by omega)
      rw [pow_add, ← div_div] at rounds
      exact scaledBy_beside_far some few (by omega) (by omega) rounds
  · obtain ⟨k, rfl⟩ := Int.eq_ofNat_of_zero_le up
    rw [rational_up] at rounds
    exact scaledBy_beside_up some few (by omega) rounds room

/-- A short significand and a short exponent are scaled in one rounding, to what the decimal rounds
to. -/
theorem scaledBy_exact (some : 0 < s) (few : s ≤ 2 ^ 53) (near : e.natAbs ≤ 22)
    (rounds : Rounds (Decimal.rational ⟨s, e⟩) n) (finite : n < Double.infinite) :
    scaledBy 8 (Float.ofNat s) e = Option.some (machine n) := by
  obtain ⟨a, front⟩ := significand_stands some (few.trans (by norm_num))
  have exact := front.rounds.exact_natCast some few
  obtain ⟨b, back⟩ := powerOfTen_stands (show e.natAbs ≤ 308 by omega)
  have exact' := back.rounds.exact_powerOfTen near
  rcases lt_or_ge e 0 with down | up
  · obtain ⟨k, rfl⟩ : ∃ k : Nat, e = -k := ⟨e.natAbs, by omega⟩
    rw [Int.natAbs_neg, Int.natAbs_natCast] at near back exact'
    obtain ⟨n', quotient, rounds'⟩ :=
      Double.machine_div front.some front.finite back.some back.finite
    rw [exact, exact', ← rational_down] at rounds'
    rw [scaledBy_down (by omega) (by omega), front.same, back.same, quotient,
      rounds.unique rounds']
  · obtain ⟨k, rfl⟩ := Int.eq_ofNat_of_zero_le up
    rw [Int.natAbs_natCast] at near back exact'
    obtain ⟨n', product, rounds'⟩ :=
      Double.machine_mul front.some front.finite back.some back.finite
    rw [exact, exact', ← rational_up] at rounds'
    obtain rfl := rounds.unique rounds'
    rw [scaledBy_up (by omega), front.same, back.same, product, Double.isInf_machine,
      decide_eq_false (Nat.not_le.2 finite), if_neg Bool.false_ne_true]

/-! ## Reading doubles back -/

/-- The text of a double has few digits, and its last digit is not far from the point. -/
def IsShort (x : Double) : Prop :=
  (spelledDecimal x).significand ≤ 2 ^ 53 ∧ (spelledDecimal x).exponent.natAbs ≤ 22

instance (x : Double) : Decidable (IsShort x) := inferInstanceAs (Decidable (_ ∧ _))

/-- A double that is read back from the text of another one: it has its sign, lies two magnitudes
apart at most, and is the same one if the text is short. -/
structure Reread (x y : Double) : Prop where
  finite : y.isFinite = true
  sign : y.isNegative = x.isNegative
  beside : Beside x.magnitude y.magnitude
  exact : IsShort x → y = x

variable {x : Double}

theorem scaled_eq (same : scaledBy 8 (Float.ofNat s) e = Option.some (machine n))
    (finite : n < Double.infinite) (positive : Bool) :
    scaled positive s e = .ok (Double.signed positive n) := by
  unfold scaled
  rw [same]
  dsimp only
  rw [Double.ofFloat_machine finite]
  rfl

theorem reread_refl (finite : x.isFinite = true) : Reread x x :=
  ⟨finite, rfl, ⟨by omega, by omega⟩, fun _ => rfl⟩

/-- The text of zero. -/
theorem scaledBy_zero : scaledBy 8 (Float.ofNat 0) (-1) = Option.some (machine 0) := by
  decide +kernel

/-- The two greatest doubles are both read as the greatest one. -/
theorem scaledBy_greatest (last : n = Double.infinite - 1 ∨ n = Double.infinite - 2)
    (positive : Bool) :
    scaledBy 8 (Float.ofNat (spelledDecimal (Double.signed positive n)).significand)
      (spelledDecimal (Double.signed positive n)).exponent =
        Option.some (machine (Double.infinite - 1)) := by
  rcases last with rfl | rfl <;> cases positive <;> decide +kernel

/-- A double of the sign and of a magnitude beside is one that is reread, if the text is not short. -/
theorem reread_signed (finite : n < Double.infinite) (beside : Beside x.magnitude n)
    (long : ¬IsShort x) : Reread x (Double.signed (!x.isNegative) n) := by
  have small : n < 2 ^ 63 := finite.trans (by decide)
  refine ⟨?_, ?_, ?_, fun short => absurd short long⟩
  · unfold Double.isFinite
    rw [Double.magnitude_signed small]
    exact decide_eq_true finite
  · rw [Double.isNegative_signed small, Bool.not_not]
  · rw [Double.magnitude_signed small]
    exact beside

/-- What is spelled of a finite double is scaled to a double that is reread from it. -/
theorem scaled_spelledDecimal (finite : x.isFinite = true) :
    ∃ y, scaled (!x.isNegative) (spelledDecimal x).significand (spelledDecimal x).exponent = .ok y ∧
      Reread x y := by
  have small := magnitude_lt finite
  have itself (same : scaledBy 8 (Float.ofNat (spelledDecimal x).significand)
      (spelledDecimal x).exponent = Option.some (machine x.magnitude)) :
      ∃ y, scaled (!x.isNegative) (spelledDecimal x).significand (spelledDecimal x).exponent =
        .ok y ∧ Reread x y := by
    refine ⟨x, ?_, reread_refl finite⟩
    rw [scaled_eq same small, Double.signed_magnitude]
  by_cases zero : x.magnitude = 0
  · refine itself ?_
    unfold spelledDecimal
    rw [if_pos zero, zero]
    exact scaledBy_zero
  obtain ⟨some, few, least, greatest, rounds⟩ := spelledDecimal_spec finite zero
  by_cases short : IsShort x
  · exact itself (scaledBy_exact some short.1 short.2 rounds small)
  by_cases room : x.magnitude + 2 < Double.infinite
  · obtain ⟨n, same, beside⟩ := scaledBy_beside some few least greatest rounds room
    have finite' : n < Double.infinite := beside.above.trans_lt room
    exact ⟨_, scaled_eq same finite' _, reread_signed finite' beside short⟩
  · have same := @scaledBy_greatest x.magnitude (by omega) (!x.isNegative)
    rw [Double.signed_magnitude] at same
    have finite' : Double.infinite - 1 < Double.infinite := by decide
    have beside : Beside x.magnitude (Double.infinite - 1) := ⟨by omega, by omega⟩
    exact ⟨_, scaled_eq same finite' _, reread_signed finite' beside short⟩

end Json

end ForeignEval

import ForeignEval.Double

/-!
# Shortest decimals

Every finite double has a shortest decimal that reads back as it: of all decimals inside the
interval of reals that round to the double, one with the fewest digits, and of those the nearest.
The interval holds its ends exactly when the double's significand is even. All arithmetic is on
natural numbers: a double is `m * 2 ^ q`, and a decimal is compared with it by cross
multiplication.

* **Digits** — `Binary.shortest` tries one digit, then two, up to seventeen, and on each decimal
  grid the value's two neighbours.
-/

namespace ForeignEval

/-- The number `significand * 10 ^ exponent`. -/
structure Decimal where
  /-- All digits, without the zeros at their end. -/
  significand : Nat
  /-- The power of ten of the last digit. -/
  exponent : Int
deriving DecidableEq, Inhabited

namespace Decimal

/-- The digits, the most significant first. -/
def digits (d : Decimal) : List Char := Nat.toDigits 10 d.significand

/-- The same number with the zeros at the end of its significand moved to its exponent. -/
def trimmed : (fuel : Nat) → Decimal → Decimal
  | 0, d => d
  | fuel + 1, d =>
    if d.significand ≠ 0 ∧ d.significand % 10 = 0 then
      trimmed fuel ⟨d.significand / 10, d.exponent + 1⟩
    else d

/-- The power of ten of the first digit, as in scientific notation. -/
def leading (d : Decimal) : Int := d.exponent + d.digits.length - 1

end Decimal

/-- A positive number `m * 2 ^ q`, with how far the reals that round to it reach. -/
structure Binary where
  /-- The significand. -/
  m : Nat
  /-- The power of two of its last bit. -/
  q : Int
  /-- Whether the gap below is half of the gap above: the significand is a power of two. -/
  narrowBelow : Bool
deriving DecidableEq, Inhabited

namespace Binary

/-- The parts of a finite double other than zero, its sign left aside. -/
def ofDouble (x : Double) : Binary :=
  let fraction : Nat := x.magnitude % Nat.pow 2 52
  let exponent : Nat := x.magnitude / Nat.pow 2 52
  if exponent = 0 then ⟨fraction, -1074, false⟩
  else ⟨Nat.pow 2 52 + fraction, (exponent : Int) - 1075, fraction = 0 ∧ 1 < exponent⟩

/-- Four times the significand: the value, in quarters of its last bit. -/
def value (b : Binary) : Nat := 4 * b.m

/-- The upper end of the interval, in quarters of the last bit. -/
def upper (b : Binary) : Nat := 4 * b.m + 2

/-- The lower end of the interval, in quarters of the last bit. -/
def lower (b : Binary) : Nat := if b.narrowBelow then 4 * b.m - 1 else 4 * b.m - 2

/-- What a number of quarters of the last bit is multiplied by to be compared with a multiple of
`10 ^ k`, which is multiplied by `gridScale`. -/
def quarterScale (b : Binary) (k : Int) : Nat := Nat.pow 2 (b.q - 2).toNat * Nat.pow 10 (-k).toNat

/-- What a multiple of `10 ^ k` is multiplied by in that comparison. -/
def gridScale (b : Binary) (k : Int) : Nat := Nat.pow 2 (2 - b.q).toNat * Nat.pow 10 k.toNat

/-- The greatest multiple of `10 ^ k` that does not exceed the value, as its factor. -/
def floorOn (b : Binary) (k : Int) : Nat := b.value * b.quarterScale k / b.gridScale k

/-- Whether `c * 10 ^ k` rounds to the value. -/
def holds (b : Binary) (k : Int) (c : Nat) : Bool :=
  let low := b.lower * b.quarterScale k
  let high := b.upper * b.quarterScale k
  let point := c * b.gridScale k
  0 < c && if b.m % 2 = 0 then low ≤ point && point ≤ high else low < point && point < high

/-- The nearer of the two neighbours on the grid of `10 ^ k` that rounds to the value; `tieUp` says
which of two equally near ones is taken. -/
def neighbour (b : Binary) (tieUp : Bool) (k : Int) : Option Nat :=
  let below := b.floorOn k
  let target := b.value * b.quarterScale k
  let toBelow := target - below * b.gridScale k
  let toAbove := (below + 1) * b.gridScale k - target
  let up := toAbove < toBelow || toAbove = toBelow && (tieUp || below % 2 = 1)
  match b.holds k below, b.holds k (below + 1) with
  | true, true => some (if up then below + 1 else below)
  | true, false => some below
  | false, true => some (below + 1)
  | false, false => none

/-- The power of ten of the value's first digit. The value is at least `2 ^ t` and below
`2 ^ (t + 1)`, and `78913 / 2 ^ 18` is a little below the logarithm of two, so the guess is that
power or the one before. -/
def leading (b : Binary) : Int :=
  let t := b.m.log2 + b.q
  let guess := t * 78913 / Nat.pow 2 18
  if 0 < b.floorOn (guess + 1) then guess + 1 else guess

/-- The first grid with a hit, from `10 ^ k` down. -/
def shortestFrom (b : Binary) (tieUp : Bool) : (grids : Nat) → (k : Int) → Decimal
  | 0, k => ⟨b.floorOn k, k⟩
  | grids + 1, k =>
    match b.neighbour tieUp k with
    | some c => Decimal.trimmed 20 ⟨c, k⟩
    | none => shortestFrom b tieUp grids (k - 1)

/-- The shortest decimal that reads back as the value: at most seventeen digits are needed. -/
def shortest (b : Binary) (tieUp : Bool) : Decimal := b.shortestFrom tieUp 17 b.leading

end Binary

/-! ## Examples -/

/-- Five digits of `0.3` are not needed. -/
example : (Binary.ofDouble ⟨0x3fd3333333333333⟩).shortest true = ⟨3, -1⟩ := by decide +kernel

/-- The least positive double is nearer to `5e-324` than to `4e-324`. -/
example : (Binary.ofDouble ⟨1⟩).shortest true = ⟨5, -324⟩ := by decide +kernel

end ForeignEval

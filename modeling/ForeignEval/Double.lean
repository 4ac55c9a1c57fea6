import Std.Data.TreeMap

/-!
# Doubles

A `Double` is a binary64 number kept as its 64 bits, and two of them are equal when they agree
bit for bit: `0.0` and `-0.0` differ, and a NaN equals only a NaN of the same payload.

* **Order** — doubles are ordered by their bits, which makes vectors of them keys of search trees.
* **Arithmetic** — `Double.add` rounds to nearest and has a single NaN as its only invalid result.
-/

namespace ForeignEval

/-- A binary64 number, held as its bits. -/
structure Double where
  /-- Sign, exponent and fraction, from the highest bit down. -/
  bits : UInt64
deriving DecidableEq, Inhabited

namespace Double

/-! ## Order -/

instance : Ord Double := ⟨fun a b => compare a.bits b.bits⟩

instance : Std.TransOrd Double where
  eq_swap {a b} := Std.OrientedOrd.eq_swap (a := a.bits) (b := b.bits)
  isLE_trans {a b c} hab hbc :=
    @Std.TransCmp.isLE_trans _ (compare : UInt64 → UInt64 → Ordering) _ a.bits b.bits c.bits hab hbc

instance : Std.LawfulEqOrd Double where
  compare_self {a} := Std.ReflOrd.compare_self (a := a.bits)
  eq_of_compare {a b} h := by
    cases a
    cases b
    exact congrArg Double.mk (Std.LawfulEqOrd.eq_of_compare h)

/-! ## Parts -/

/-- The number `0.0`. -/
def zero : Double := ⟨0⟩

/-- The NaN that arithmetic answers. -/
def nan : Double := ⟨0x7ff8000000000000⟩

/-- Whether the sign bit is set. -/
def isNegative (x : Double) : Bool := Nat.pow 2 63 ≤ x.bits.toNat

/-- The number with its sign bit cleared, as a natural number. -/
def magnitude (x : Double) : Nat := x.bits.toNat % Nat.pow 2 63

/-- Whether the number is a NaN of any payload. -/
def isNaN (x : Double) : Bool := 0x7ff0000000000000 < x.magnitude

/-- Whether the number is one of the two infinities. -/
def isInfinite (x : Double) : Bool := x.magnitude = 0x7ff0000000000000

/-- Whether the number is neither infinite nor a NaN. -/
def isFinite (x : Double) : Bool := x.magnitude < 0x7ff0000000000000

/-- The number with the other sign. -/
def neg (x : Double) : Double := ⟨x.bits ^^^ 0x8000000000000000⟩

/-! ## Arithmetic -/

/-- The machine number of these bits. -/
def toFloat (x : Double) : Float := Float.ofBits x.bits

/-- The double of a machine number, with every NaN taken to `nan`. -/
def ofFloat (x : Float) : Double := if x.isNaN then nan else ⟨x.toBits⟩

/-- The nearest double to a natural number, a tie going to the even neighbour. -/
def ofNat (n : Nat) : Double := ofFloat (Float.ofNat n)

/-- The nearest double to an integer. -/
def ofInt (n : Int) : Double :=
  if n < 0 then (ofNat n.natAbs).neg else ofNat n.natAbs

/-- Whether two doubles are the same number: zeros of both signs are, and no NaN is. -/
def sameNumber (x y : Double) : Bool := x.toFloat == y.toFloat

/-- The sum, rounded to nearest. -/
def add (x y : Double) : Double := ofFloat (x.toFloat + y.toFloat)

end Double

end ForeignEval

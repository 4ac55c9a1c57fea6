import ForeignEval.Decimal.Shortest

/-!
# Decimal text of doubles

Writes a double with its shortest digits. What is not settled by the digits is the choice of a
`Layout`: from which to which power of ten the positional form is used, how an exponent is
written, which way a tie goes, and the texts of NaN and the infinities.

* **Layouts** — `Layout.plain` is the text of values inside messages, `Layout.json` that of numbers
  inside JSON.
-/

namespace ForeignEval.Decimal

/-- How a double is written once its digits are known. -/
structure Layout where
  /-- The least power of ten of a first digit that is written positionally. -/
  least : Int
  /-- The greatest power of ten of a first digit that is written positionally. -/
  greatest : Int
  /-- Whether a positive exponent carries its sign. -/
  signedExponent : Bool
  /-- Whether the greater of two equally near decimals is taken, and not the even one. -/
  tieUp : Bool
  /-- The text of every NaN. -/
  nan : String
  /-- The text of positive infinity. -/
  infinity : String
  /-- The text of negative infinity. -/
  negativeInfinity : String

/-- Values inside messages: positional from `0.0001` to below `1e16`, always with a fraction. -/
def Layout.plain : Layout := ⟨-4, 15, false, true, "NaN", "inf", "-inf"⟩

/-- Numbers inside JSON: positional from `0.00001` to below `1e16`; what is not finite is null. -/
def Layout.json : Layout := ⟨-5, 15, true, false, "null", "null", "null"⟩

namespace Layout

/-- Digits with a point, and zeros where the digits do not reach it. -/
def positional (d : Decimal) : String :=
  let digits := d.digits
  if 0 ≤ d.exponent then
    String.ofList (digits ++ List.replicate d.exponent.toNat '0' ++ ['.', '0'])
  else
    let places := (-d.exponent).toNat
    let padded := List.replicate (places + 1 - digits.length) '0' ++ digits
    let whole := padded.length - places
    String.ofList (padded.take whole ++ '.' :: padded.drop whole)

/-- One digit before the point, the others after it, and the exponent. -/
def scientific (layout : Layout) (d : Decimal) : String :=
  let mantissa := match d.digits with
    | [] => []
    | [digit] => [digit]
    | digit :: others => digit :: '.' :: others
  let sign := if 0 ≤ d.leading ∧ layout.signedExponent then "+" else ""
  String.ofList mantissa ++ "e" ++ sign ++ toString d.leading

/-- The text of a positive decimal. -/
def decimal (layout : Layout) (d : Decimal) : String :=
  if layout.least ≤ d.leading ∧ d.leading ≤ layout.greatest then positional d
  else layout.scientific d

/-- The text of a double. -/
def text (layout : Layout) (x : Double) : String :=
  if x.isNaN then layout.nan
  else if x.isInfinite then
    if x.isNegative then layout.negativeInfinity else layout.infinity
  else
    let sign := if x.isNegative then "-" else ""
    if x.magnitude = 0 then sign ++ "0.0"
    else sign ++ layout.decimal ((Binary.ofDouble x).shortest layout.tieUp)

end Layout

end ForeignEval.Decimal

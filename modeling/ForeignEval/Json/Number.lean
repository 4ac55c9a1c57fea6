import ForeignEval.Json.ReadError
import ForeignEval.Text.Numeral

/-!
# Numbers in JSON

Reads a number after its sign. Digits are gathered into a significand below `2 ^ 64`; from the
first digit on that does not fit, all further ones are dropped. A number without fraction and
exponent whose digits all fit stays an integer. Any other becomes a double in two roundings: the
significand to a double, and its product with, or quotient by, a power of ten.

* **Significand** — `gather` keeps the longest run of digits whose number fits.
* **Scaling** — `scaled` is `none` when the product is infinite.
-/

namespace ForeignEval.Json

/-- A number as it was written. -/
inductive Number where
  /-- A natural number below `2 ^ 64`. -/
  | natural (n : Nat)
  /-- The negative of a number from `1` to `2 ^ 63`. -/
  | negative (n : Nat)
  /-- Everything else. -/
  | floating (x : Double)
deriving DecidableEq

/-- The number as something found in a text. -/
def Number.found : Number → Found
  | natural n => .integer n
  | negative n => .integer (-n)
  | floating x => .floating x

/-- The nearest double. -/
def Number.double : Number → Double
  | natural n => Double.ofNat n
  | negative n => (Double.ofNat n).neg
  | floating x => x

/-- Whether a character is a decimal digit. -/
def isDigit (c : Char) : Bool := '0' ≤ c && c ≤ '9'

/-- The value of a decimal digit. -/
def digitValue (c : Char) : Nat := c.toNat - '0'.toNat

/-- Appends digits to a significand while it stays below `2 ^ 64`; the digits from the first that
does not fit on are left over. -/
def gather : (significand : Nat) → List Char → Nat × List Char
  | significand, [] => (significand, [])
  | significand, c :: rest =>
    let next := significand * 10 + digitValue c
    if next < UInt64.size then gather next rest else (significand, c :: rest)

/-- The double nearest to a power of ten, up to the greatest that is finite. -/
def powerOfTen (k : Nat) : Float := Float.ofNat (Nat.pow 10 k)

/-- A significand times a power of ten: exponents below `-308` are reached by steps of `308`, of
which four are enough to arrive at zero. -/
def scaledBy : (steps : Nat) → Float → Int → Option Float
  | 0, f, _ => some f
  | steps + 1, f, e =>
    if e.natAbs ≤ 308 then
      if 0 ≤ e then
        let product := f * powerOfTen e.natAbs
        if product.isInf then none else some product
      else some (f / powerOfTen e.natAbs)
    else if f == 0.0 then some f
    else if 0 ≤ e then none
    else scaledBy steps (f / powerOfTen 308) (e + 308)

/-- The double for a significand and a power of ten. -/
def scaled (positive : Bool) (significand : Nat) (e : Int) : Except ReadError Double :=
  match scaledBy 8 (Float.ofNat significand) e with
  | none => .error .outOfRange
  | some f => .ok (if positive then Double.ofFloat f else (Double.ofFloat f).neg)

/-- Reads an exponent, whose letter has been read, and scales. -/
def readExponent (positive : Bool) (significand : Nat) (start : Int) : Reader Number := fun s =>
  let (down, s) := match s with
    | '+' :: rest => (false, rest)
    | '-' :: rest => (true, rest)
    | s => (false, s)
  match s with
  | [] => .error .endInValue
  | c :: _ =>
    if isDigit c then
      let rest := s.dropWhile isDigit
      let size := (s.takeWhile isDigit).foldl (fun n c => n * 10 + digitValue c) 0
      if size < Nat.pow 2 31 then do
        let x ← scaled positive significand (if down then start - size else start + size)
        return (.floating x, rest)
      else if significand ≠ 0 && !down then .error .outOfRange
      else .ok (.floating (if positive then Double.zero else Double.zero.neg), rest)
    else .error .invalidNumber

/-- Ends a number that is no integer: reads its exponent, if there is one, and scales. -/
def readScale (positive : Bool) (significand : Nat) (e : Int) : Reader Number
  | 'e' :: rest | 'E' :: rest => readExponent positive significand e rest
  | rest => do return (.floating (← scaled positive significand e), rest)

/-- Reads a fraction, whose point has been read, and what follows it. -/
def readFraction (positive : Bool) (significand : Nat) (start : Int) : Reader Number := fun s =>
  let digits := s.takeWhile isDigit
  let rest := s.dropWhile isDigit
  if digits.isEmpty then
    if rest.isEmpty then .error .endInValue else .error .invalidNumber
  else
    let (significand, dropped) := gather significand digits
    readScale positive significand (start - (digits.length - dropped.length)) rest

/-- Reads a number whose sign has been read. -/
def readNumber (positive : Bool) : Reader Number := fun s =>
  let digits := s.takeWhile isDigit
  let rest := s.dropWhile isDigit
  match digits with
  | [] => if s.isEmpty then .error .endInValue else .error .invalidNumber
  | '0' :: _ :: _ => .error .invalidNumber
  | _ =>
    let (significand, dropped) := gather 0 digits
    match rest with
    | '.' :: rest => readFraction positive significand dropped.length rest
    | 'e' :: rest | 'E' :: rest => readExponent positive significand dropped.length rest
    | rest =>
      if !dropped.isEmpty then readScale positive significand dropped.length rest
      else if positive then .ok (.natural significand, rest)
      else if 0 < significand ∧ significand ≤ Nat.pow 2 63 then .ok (.negative significand, rest)
      else .ok (.floating (Double.ofNat significand).neg, rest)

/-! ## Numbers that are only skipped -/

/-- Skips an exponent whose letter has been read. -/
def skipExponent : List Char → Except ReadError (List Char) := fun s =>
  let s := match s with
    | '+' :: rest | '-' :: rest => rest
    | s => s
  match s with
  | c :: rest => if isDigit c then .ok (rest.dropWhile isDigit) else .error .invalidNumber
  | [] => .error .invalidNumber

/-- Skips the exponent of a number, if there is one. -/
def skipScale : List Char → Except ReadError (List Char)
  | 'e' :: rest | 'E' :: rest => skipExponent rest
  | rest => .ok rest

/-- Skips a number whose sign has been read; only its form matters. -/
def skipNumber (s : List Char) : Except ReadError (List Char) :=
  match s.takeWhile isDigit with
  | [] | '0' :: _ :: _ => .error .invalidNumber
  | _ =>
    match s.dropWhile isDigit with
    | '.' :: rest =>
      match rest with
      | c :: _ => if isDigit c then skipScale (rest.dropWhile isDigit) else .error .invalidNumber
      | [] => .error .invalidNumber
    | rest => skipScale rest

end ForeignEval.Json

/-!
# Numerals and truth values

Reads natural numbers below a bound and truth values from whole texts.

* **Numerals** — an optional plus sign and decimal digits, read from left to right; the first
  problem met is the one reported.
* **Truth values** — exactly `true` or `false`.
-/

namespace ForeignEval.Text

/-- Why a text is no number of the wanted range. -/
inductive NumeralError where
  /-- There is no text. -/
  | empty
  /-- A character is no digit, or there is only a sign. -/
  | invalidDigit
  /-- The number reaches the bound. -/
  | tooLarge
deriving DecidableEq

/-- The wording of a numeral error. -/
def NumeralError.message : NumeralError → String
  | .empty => "cannot parse integer from empty string"
  | .invalidDigit => "invalid digit found in string"
  | .tooLarge => "number too large to fit in target type"

/-- The value of a decimal digit. -/
def digit? (c : Char) : Option Nat :=
  if '0' ≤ c ∧ c ≤ '9' then some (c.toNat - '0'.toNat) else none

/-- Reads digits onto a number that stays below the bound. -/
def readDigits (bound : Nat) : (number : Nat) → List Char → Except NumeralError Nat
  | number, [] => .ok number
  | number, c :: rest =>
    match digit? c with
    | none => .error .invalidDigit
    | some d =>
      if number * 10 + d < bound then readDigits bound (number * 10 + d) rest
      else .error .tooLarge

/-- Reads a natural number below the bound. -/
def readNumeral (bound : Nat) : List Char → Except NumeralError Nat
  | [] => .error .empty
  | ['+'] => .error .invalidDigit
  | '+' :: digits => readDigits bound 0 digits
  | digits => readDigits bound 0 digits

/-- Reads a truth value. -/
def readTruth (s : String) : Option Bool :=
  if s = "true" then some true else if s = "false" then some false else none

/-- The wording for a text that is no truth value. -/
def truthMessage : String := "provided string was not `true` or `false`"

end ForeignEval.Text

import ForeignEval.Json.Number
import ForeignEval.Json.String

/-!
# Skipping JSON values

Passes over a value that nobody asked for. It has to be well-formed, but numbers may be out of
range, halves of surrogate pairs may stand alone, and what follows a comma is not looked at more
closely than the value or key that has to stand there.

* **Budget** — every value, element and member uses up part of the text, so a budget above its
  length never runs out.
-/

namespace ForeignEval.Json

/-- Passes the rest of a literal. -/
def skipLiteral : (expected : List Char) → List Char → Except ReadError (List Char)
  | [], s => .ok s
  | _ :: _, [] => .error .endInValue
  | e :: expected, c :: rest =>
    if c = e then skipLiteral expected rest else .error .expectedIdentifier

/-- Passes the colon after a key. -/
def skipColon (s : List Char) : Except ReadError (List Char) :=
  match skipSpace s with
  | ':' :: rest => .ok rest
  | [] => .error .endInObject
  | _ => .error .expectedColon

/-- Passes a key with its colon. -/
def skipKey (s : List Char) : Except ReadError (List Char) :=
  match skipSpace s with
  | '"' :: rest => do skipColon (← skipString rest)
  | [] => .error .endInObject
  | _ => .error .keyMustBeString

mutual

/-- Passes a value. -/
def skipValueWithin : (budget : Nat) → List Char → Except ReadError (List Char)
  | 0, _ => .error .endInValue
  | budget + 1, s =>
    match skipSpace s with
    | [] => .error .endInValue
    | 'n' :: rest => skipLiteral ['u', 'l', 'l'] rest
    | 't' :: rest => skipLiteral ['r', 'u', 'e'] rest
    | 'f' :: rest => skipLiteral ['a', 'l', 's', 'e'] rest
    | '-' :: rest => skipNumber rest
    | '"' :: rest => skipString rest
    | '[' :: rest =>
      match skipSpace rest with
      | ']' :: rest => .ok rest
      | [] => .error .endInList
      | rest => do skipElements budget (← skipValueWithin budget rest)
    | '{' :: rest =>
      match skipSpace rest with
      | '}' :: rest => .ok rest
      | [] => .error .endInObject
      | rest => do skipMembers budget (← skipValueWithin budget (← skipKey rest))
    | c :: rest => if isDigit c then skipNumber (c :: rest) else .error .expectedValue

/-- Passes what follows an element of an array. -/
def skipElements : (budget : Nat) → List Char → Except ReadError (List Char)
  | 0, _ => .error .endInList
  | budget + 1, s =>
    match skipSpace s with
    | ',' :: rest => do skipElements budget (← skipValueWithin budget rest)
    | ']' :: rest => .ok rest
    | [] => .error .endInList
    | _ => .error .expectedListEnd

/-- Passes what follows a member of an object. -/
def skipMembers : (budget : Nat) → List Char → Except ReadError (List Char)
  | 0, _ => .error .endInObject
  | budget + 1, s =>
    match skipSpace s with
    | ',' :: rest => do skipMembers budget (← skipValueWithin budget (← skipKey rest))
    | '}' :: rest => .ok rest
    | [] => .error .endInObject
    | _ => .error .expectedObjectEnd

end

/-- Passes a value. -/
def skipValue (s : List Char) : Except ReadError (List Char) := skipValueWithin (s.length + 1) s

end ForeignEval.Json

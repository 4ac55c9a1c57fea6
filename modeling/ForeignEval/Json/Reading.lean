import ForeignEval.Json.Skip

/-!
# Reading JSON by shape

Readers for the values that a caller wants at a place: naturals below a bound, doubles, truth
values, strings, optional values, arrays, and structures of named members. A reader meets the text
from left to right and reports the first problem, be it one of form or of kind.

* **Structures** — a `Shape` lists members in their order. A structure is read from an object,
  whose members may come in any order and among unknown ones, or from an array of the members'
  values in their order.
-/

namespace ForeignEval.Json

/-- What stands at the front of a text, for a message that says it is not what was wanted. The
value is read far enough to be shown. -/
def readFound (s : List Char) : Except ReadError Found :=
  match s with
  | 'n' :: rest => do
    let _ ← skipLiteral ['u', 'l', 'l'] rest
    return .null
  | 't' :: rest => do
    let _ ← skipLiteral ['r', 'u', 'e'] rest
    return .truth true
  | 'f' :: rest => do
    let _ ← skipLiteral ['a', 'l', 's', 'e'] rest
    return .truth false
  | '-' :: rest => do return (← readNumber false rest).1.found
  | '"' :: rest => do return .text (← readString rest).1
  | '[' :: _ => .ok .sequence
  | '{' :: _ => .ok .map
  | c :: rest =>
    if isDigit c then do return (← readNumber true (c :: rest)).1.found else .error .expectedValue
  | [] => .error .expectedValue

/-- The error for a value of another kind than wanted. -/
def unexpected {α : Type} (expected : String) (s : List Char) : Except ReadError α := do
  .error (.invalidType (← readFound s) expected)

/-! ## Single values -/

/-- Reads a number; `expected` names what is wanted. -/
def readAnyNumber (expected : String) : Reader Number := fun s =>
  match skipSpace s with
  | [] => .error .endInValue
  | '-' :: rest => readNumber false rest
  | c :: rest =>
    if isDigit c then readNumber true (c :: rest) else unexpected expected (c :: rest)

/-- Reads a natural number below a bound. -/
def readNatural (bound : Nat) (expected : String) : Reader Nat := fun s => do
  match ← readAnyNumber expected s with
  | (.natural n, rest) =>
    if n < bound then return (n, rest) else .error (.invalidValue n expected)
  | (.negative n, _) => .error (.invalidValue (-n) expected)
  | (.floating x, _) => .error (.invalidType (.floating x) expected)

/-- Reads a size: a natural number of 64 bits. -/
def readSize : Reader Nat := readNatural UInt64.size "usize"

/-- Reads a natural number of 64 bits. -/
def readLong : Reader Nat := readNatural UInt64.size "u64"

/-- Reads a natural number of 32 bits. -/
def readShort : Reader Nat := readNatural UInt32.size "u32"

/-- Reads a double, from any number. -/
def readDouble : Reader Double := fun s => do
  let (number, rest) ← readAnyNumber "f64" s
  return (number.double, rest)

/-- Reads a truth value. -/
def readTruth : Reader Bool := fun s =>
  match skipSpace s with
  | [] => .error .endInValue
  | 't' :: rest => do return (true, ← skipLiteral ['r', 'u', 'e'] rest)
  | 'f' :: rest => do return (false, ← skipLiteral ['a', 'l', 's', 'e'] rest)
  | s => unexpected "a boolean" s

/-- Reads a string. -/
def readText : Reader String := fun s =>
  match skipSpace s with
  | [] => .error .endInValue
  | '"' :: rest => readString rest
  | s => unexpected "a string" s

/-- Reads a value or `null`. -/
def readOption {α : Type} (read : Reader α) : Reader (Option α) := fun s =>
  match skipSpace s with
  | 'n' :: rest => do return (none, ← skipLiteral ['u', 'l', 'l'] rest)
  | s => do
    let (value, rest) ← read s
    return (some value, rest)

/-! ## Arrays -/

/-- Goes to the next element of an array, or past its end. -/
def nextElement (first : Bool) (s : List Char) : Except ReadError (Bool × List Char) :=
  match skipSpace s with
  | [] => .error .endInList
  | ']' :: rest => .ok (false, ']' :: rest)
  | c :: rest =>
    if first then .ok (true, c :: rest)
    else if c = ',' then
      match skipSpace rest with
      | ']' :: _ => .error .trailingComma
      | [] => .error .endInValue
      | rest => .ok (true, rest)
    else .error .expectedListEnd

/-- Passes the end of an array whose wanted elements have all been read. -/
def endOfList (s : List Char) : Except ReadError (List Char) :=
  match skipSpace s with
  | ']' :: rest => .ok rest
  | ',' :: rest =>
    match skipSpace rest with
    | ']' :: _ => .error .trailingComma
    | _ => .error .trailingCharacters
  | [] => .error .endInList
  | _ => .error .trailingCharacters

/-- Reads elements up to the end of an array. -/
def readElements {α : Type} (read : Reader α) :
    (budget : Nat) → (first : Bool) → Reader (List α)
  | 0, _, _ => .error .endInList
  | budget + 1, first, s => do
    match ← nextElement first s with
    | (false, rest) => return ([], ← endOfList rest)
    | (true, rest) =>
      let (value, rest) ← read rest
      let (more, rest) ← readElements read budget false rest
      return (value :: more, rest)

/-- Reads an array. -/
def readList {α : Type} (read : Reader α) : Reader (List α) := fun s =>
  match skipSpace s with
  | [] => .error .endInValue
  | '[' :: rest => readElements read (rest.length + 1) true rest
  | s => unexpected "a sequence" s

/-! ## Structures -/

/-- A named part of a structure that is being read into `σ`. -/
structure Member (σ : Type) where
  /-- The name in an object. -/
  name : String
  /-- Whether the member has been read. -/
  isSet : σ → Bool
  /-- Reads the member's value. -/
  read : σ → Reader σ
  /-- Whether an object without the member is refused. -/
  inObject : Bool
  /-- Whether an array that ends before the member is refused. -/
  inArray : Bool

/-- The members of a structure and what is made of them. -/
structure Shape (σ α : Type) where
  /-- The name of the structure in messages. -/
  name : String
  /-- The members in their order. -/
  members : List (Member σ)
  /-- The state in which no member has been read. -/
  start : σ
  /-- The structure once its members have been read. -/
  build : σ → Except ReadError α

namespace Shape

variable {σ α : Type}

/-- How messages call the structure. -/
def title (shape : Shape σ α) : String := "struct " ++ shape.name

/-- Reads the members' values from an array; `count` of them have been read. -/
def readPositions (shape : Shape σ α) :
    List (Member σ) → (count : Nat) → σ → Reader σ
  | [], _, parts, s => .ok (parts, s)
  | member :: members, count, parts, s => do
    match ← nextElement (count = 0) s with
    | (true, rest) =>
      let (parts, rest) ← member.read parts rest
      readPositions shape members (count + 1) parts rest
    | (false, rest) =>
      if member.inArray then
        .error (.invalidLength count
          (shape.title ++ " with " ++ toString shape.members.length ++ " elements"))
      else readPositions shape members count parts rest

/-- Goes to the next key of an object, past its opening quote, or to the object's end. -/
def nextKey (first : Bool) (s : List Char) : Except ReadError (Option (List Char)) :=
  match skipSpace s with
  | [] => .error .endInObject
  | '}' :: _ => .ok none
  | c :: rest =>
    if first then
      if c = '"' then .ok (some rest) else .error .keyMustBeString
    else if c = ',' then
      match skipSpace rest with
      | '"' :: rest => .ok (some rest)
      | '}' :: _ => .error .trailingComma
      | [] => .error .endInValue
      | _ => .error .keyMustBeString
    else .error .expectedObjectEnd

/-- Reads the value of the member with this key, or passes it if there is no such member. -/
def readMember (shape : Shape σ α) (key : String) (parts : σ) : Reader σ := fun s =>
  match shape.members.find? (·.name == key) with
  | some member =>
    if member.isSet parts then .error (.duplicateField key)
    else do member.read parts (← skipColon s)
  | none => do return (parts, ← skipValue (← skipColon s))

/-- Reads members up to the end of an object. -/
def readMembers (shape : Shape σ α) : (budget : Nat) → (first : Bool) → σ → Reader σ
  | 0, _, _, _ => .error .endInObject
  | budget + 1, first, parts, s => do
    match ← nextKey first s with
    | none => return (parts, (skipSpace s).tail)
    | some rest =>
      let (key, rest) ← readString rest
      let (parts, rest) ← readMember shape key parts rest
      readMembers shape budget false parts rest

/-- The first member that an object has to have and has not. -/
def missing? (shape : Shape σ α) (parts : σ) : Option String :=
  (shape.members.find? fun member => member.inObject && !member.isSet parts).map (·.name)

/-- Reads the structure. -/
def read (shape : Shape σ α) : Reader α := fun s =>
  match skipSpace s with
  | [] => .error .endInValue
  | '[' :: rest => do
    let (parts, rest) ← shape.readPositions shape.members 0 shape.start rest
    let rest ← endOfList rest
    return (← shape.build parts, rest)
  | '{' :: rest => do
    let (parts, rest) ← shape.readMembers (rest.length + 1) true shape.start rest
    match shape.missing? parts with
    | some name => .error (.missingField name)
    | none => return (← shape.build parts, rest)
  | s => unexpected shape.title s

end Shape

/-! ## Documents -/

/-- Reads a text that holds one value and nothing else. -/
def readDocument {α : Type} (read : Reader α) (text : String) : Except ReadError α := do
  let (value, rest) ← read text.toList
  if (skipSpace rest).isEmpty then return value else .error .trailingCharacters

end ForeignEval.Json

import ForeignEval.Json.ReadError

/-!
# Strings in JSON

Reads and writes what stands between the quotes of a string.

* **Writing** — `escaped` writes quotes, backslashes and controls as escapes and all else as it is.
* **Reading** — `readString` undoes escapes; the two halves of a surrogate pair become one
  character.
* **Skipping** — `skipString` checks the form of escapes but lets halves of pairs stand alone.
-/

namespace ForeignEval.Json

/-! ## Writing -/

/-- The escape for a control character without a short one. -/
def controlEscape (c : Char) : List Char :=
  let digits := Nat.toDigits 16 c.toNat
  '\\' :: 'u' :: List.replicate (4 - digits.length) '0' ++ digits

/-- A character as it stands inside a string. -/
def escapedChar (c : Char) : List Char :=
  if c = '"' then ['\\', '"']
  else if c = '\\' then ['\\', '\\']
  else if c = '\x08' then ['\\', 'b']
  else if c = '\x0c' then ['\\', 'f']
  else if c = '\n' then ['\\', 'n']
  else if c = '\r' then ['\\', 'r']
  else if c = '\t' then ['\\', 't']
  else if c.toNat < 0x20 then controlEscape c
  else [c]

/-- A text as it stands inside a string. -/
def escaped (s : List Char) : List Char := s.flatMap escapedChar

/-! ## Escapes -/

/-- The value of a hexadecimal digit. -/
def hexDigit? (c : Char) : Option Nat :=
  if '0' ≤ c ∧ c ≤ '9' then some (c.toNat - '0'.toNat)
  else if 'a' ≤ c ∧ c ≤ 'f' then some (c.toNat - 'a'.toNat + 10)
  else if 'A' ≤ c ∧ c ≤ 'F' then some (c.toNat - 'A'.toNat + 10)
  else none

/-- Reads four hexadecimal digits; four bytes of text are needed, whatever they are. -/
def readHex : Reader Nat := fun s =>
  -- four bytes may be fewer characters, of which one is no digit then
  if ((s.take 4).flatMap String.utf8EncodeChar).length < 4 then .error .endInString
  else
    match s with
    | a :: b :: c :: d :: rest =>
      match hexDigit? a, hexDigit? b, hexDigit? c, hexDigit? d with
      | some a, some b, some c, some d => .ok (((a * 16 + b) * 16 + c) * 16 + d, rest)
      | _, _, _, _ => .error .invalidEscape
    | _ => .error .invalidEscape

/-- The short escapes, by their letters. -/
def shortEscape? (c : Char) : Option Char :=
  if c = '"' then some '"'
  else if c = '\\' then some '\\'
  else if c = '/' then some '/'
  else if c = 'b' then some '\x08'
  else if c = 'f' then some '\x0c'
  else if c = 'n' then some '\n'
  else if c = 'r' then some '\r'
  else if c = 't' then some '\t'
  else none

/-- Whether a code unit is the first half of a surrogate pair. -/
def isHighSurrogate (n : Nat) : Bool := 0xd800 ≤ n && n ≤ 0xdbff

/-- Whether a code unit is the second half of a surrogate pair. -/
def isLowSurrogate (n : Nat) : Bool := 0xdc00 ≤ n && n ≤ 0xdfff

/-- Reads the escape of the second half of a surrogate pair. -/
def readLowSurrogate (high : Nat) : Reader Char
  | [] => .error .endInString
  | '\\' :: [] => .error .endInString
  | '\\' :: 'u' :: rest => do
    let (low, rest) ← readHex rest
    if isLowSurrogate low then
      return (Char.ofNat ((high - 0xd800) * 0x400 + (low - 0xdc00) + 0x10000), rest)
    else .error .loneSurrogate
  | _ => .error .endOfHexEscape

/-- Reads an escape whose backslash has been read. -/
def readEscape : Reader Char
  | [] => .error .endInString
  | 'u' :: rest => do
    let (unit, rest) ← readHex rest
    if isLowSurrogate unit then .error .loneSurrogate
    else if isHighSurrogate unit then readLowSurrogate unit rest
    else return (Char.ofNat unit, rest)
  | c :: rest =>
    match shortEscape? c with
    | some c => .ok (c, rest)
    | none => .error .invalidEscape

/-! ## Reading -/

/-- Reads characters up to the closing quote; every step uses up part of the text, so a budget of
its length is enough. -/
def readCharacters : (budget : Nat) → Reader (List Char)
  | 0, _ => .error .endInString
  | _ + 1, [] => .error .endInString
  | _ + 1, '"' :: rest => .ok ([], rest)
  | budget + 1, '\\' :: rest => do
    let (c, rest) ← readEscape rest
    let (more, rest) ← readCharacters budget rest
    return (c :: more, rest)
  | budget + 1, c :: rest =>
    if c.toNat < 0x20 then .error .controlCharacter
    else do
      let (more, rest) ← readCharacters budget rest
      return (c :: more, rest)

/-- Reads a string whose opening quote has been read. -/
def readString : Reader String := fun s => do
  let (characters, rest) ← readCharacters (s.length + 1) s
  return (String.ofList characters, rest)

/-! ## Skipping -/

/-- Skips an escape whose backslash has been read. -/
def skipEscape : List Char → Except ReadError (List Char)
  | [] => .error .endInString
  | 'u' :: rest => do return (← readHex rest).2
  | c :: rest => if (shortEscape? c).isSome then .ok rest else .error .invalidEscape

/-- Skips characters up to the closing quote. -/
def skipCharacters : (budget : Nat) → List Char → Except ReadError (List Char)
  | 0, _ => .error .endInString
  | _ + 1, [] => .error .endInString
  | _ + 1, '"' :: rest => .ok rest
  | budget + 1, '\\' :: rest => do skipCharacters budget (← skipEscape rest)
  | budget + 1, c :: rest =>
    if c.toNat < 0x20 then .error .controlCharacter else skipCharacters budget rest

/-- Skips a string whose opening quote has been read. -/
def skipString (s : List Char) : Except ReadError (List Char) := skipCharacters (s.length + 1) s

end ForeignEval.Json

import ForeignEval.Text.Hidden

/-!
# Quoted text

A text in double quotes, the way messages show it: what a reader could not see or would take for
the end of the text is written as an escape.

* **Escapes** — a quote, a backslash and the usual controls have short escapes; every other
  character that is unseen or combining is written by its code point.
-/

namespace ForeignEval.Text

/-- A number in hexadecimal, in lower case and without padding. -/
def hexadecimal (n : Nat) : List Char := Nat.toDigits 16 n

/-- The escape for a character that has none of its own. -/
def codePointEscape (c : Char) : List Char :=
  '\\' :: 'u' :: '\x7b' :: hexadecimal c.toNat ++ ['\x7d']

/-- A character as it stands between the quotes. -/
def quotedChar (c : Char) : List Char :=
  if c = '"' then ['\\', '"']
  else if c = '\\' then ['\\', '\\']
  else if c = '\t' then ['\\', 't']
  else if c = '\r' then ['\\', 'r']
  else if c = '\n' then ['\\', 'n']
  else if c = '\x00' then ['\\', '0']
  else if ' ' ≤ c ∧ c ≤ '~' then [c]
  else if isUnseen c || isCombining c then codePointEscape c
  else [c]

/-- The text in double quotes. -/
def quoted (s : String) : String := String.ofList ('"' :: s.toList.flatMap quotedChar ++ ['"'])

/-- Texts one after the other, with a comma and a space between two. -/
def listed (parts : List String) : String := "[" ++ ", ".intercalate parts ++ "]"

end ForeignEval.Text

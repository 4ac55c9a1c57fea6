import ForeignEval.Json.String
import ForeignEval.Decimal.Layout

/-!
# JSON documents

Documents as data, and their two texts: compact, and with one element or member per line. Members
stand in the order in which they were given.

* **Compact** — `Document.compact` writes no space at all.
* **Pretty** — `Document.pretty` indents by two spaces and leaves empty arrays and objects closed.
-/

namespace ForeignEval.Json

/-- A JSON value. -/
inductive Document where
  /-- The literal `null`. -/
  | null
  | truth (value : Bool)
  /-- A natural number. -/
  | natural (value : Nat)
  /-- A double; one that is not finite is written `null`. -/
  | double (value : Double)
  | text (value : String)
  | array (elements : List Document)
  | object (members : List (String × Document))

namespace Document

/-- An optional text. -/
def ofOption : Option String → Document
  | none => null
  | some value => text value

/-- A string between its quotes. -/
def quotedText (s : String) : List Char := '"' :: escaped s.toList ++ ['"']

mutual

/-- The compact text of a document. -/
def compact : Document → List Char
  | null => "null".toList
  | truth value => (if value then "true" else "false").toList
  | natural value => (Nat.repr value).toList
  | double value => (Decimal.Layout.json.text value).toList
  | text value => quotedText value
  | array [] => ['[', ']']
  | array (element :: elements) => '[' :: compact element ++ compactElements elements
  | object [] => ['{', '}']
  | object ((name, value) :: members) =>
    '{' :: quotedText name ++ ':' :: compact value ++ compactMembers members

/-- The elements after the first, with the end of the array. -/
def compactElements : List Document → List Char
  | [] => [']']
  | element :: elements => ',' :: compact element ++ compactElements elements

/-- The members after the first, with the end of the object. -/
def compactMembers : List (String × Document) → List Char
  | [] => ['}']
  | (name, value) :: members =>
    ',' :: quotedText name ++ ':' :: compact value ++ compactMembers members

end

/-- A new line at a depth of nesting. -/
def lineAt (depth : Nat) : List Char := '\n' :: List.replicate (2 * depth) ' '

mutual

/-- The text of a document at a depth of nesting, one element or member per line. -/
def prettyAt (depth : Nat) : Document → List Char
  | null => "null".toList
  | truth value => (if value then "true" else "false").toList
  | natural value => (Nat.repr value).toList
  | double value => (Decimal.Layout.json.text value).toList
  | text value => quotedText value
  | array [] => ['[', ']']
  | array (element :: elements) =>
    '[' :: lineAt (depth + 1) ++ prettyAt (depth + 1) element ++ prettyElements depth elements
  | object [] => ['{', '}']
  | object ((name, value) :: members) =>
    '{' :: lineAt (depth + 1) ++ quotedText name ++ ':' :: ' ' :: prettyAt (depth + 1) value ++
      prettyMembers depth members

/-- The elements after the first, with the end of the array. -/
def prettyElements (depth : Nat) : List Document → List Char
  | [] => lineAt depth ++ [']']
  | element :: elements =>
    ',' :: lineAt (depth + 1) ++ prettyAt (depth + 1) element ++ prettyElements depth elements

/-- The members after the first, with the end of the object. -/
def prettyMembers (depth : Nat) : List (String × Document) → List Char
  | [] => lineAt depth ++ ['}']
  | (name, value) :: members =>
    ',' :: lineAt (depth + 1) ++ quotedText name ++ ':' :: ' ' :: prettyAt (depth + 1) value ++
      prettyMembers depth members

end

/-- The compact text of a document. -/
def render (document : Document) : String := String.ofList document.compact

/-- The text of a document with one element or member per line. -/
def pretty (document : Document) : String := String.ofList (document.prettyAt 0)

end Document

end ForeignEval.Json

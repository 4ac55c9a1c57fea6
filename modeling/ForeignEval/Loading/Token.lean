/-!
# Tokens in paths

A loader replaces certain words in a path, each of which follows a dollar sign, bare or in braces,
by something of the system. A dollar sign before anything else stands for itself.

* **Recognition** — `Token.after?`: a bare word ends where no letter, digit or underscore follows.
* **Replacement** — `Token.expand`: a path with a token for which there is nothing is of no use.
-/

namespace ForeignEval.Loading

/-- A word that a loader replaces. -/
inductive Token where
  /-- The directory of the program. -/
  | origin
  /-- The kind of processor. -/
  | platform
  /-- The directory for libraries. -/
  | library
deriving DecidableEq

namespace Token

/-- All tokens. -/
def all : List Token := [origin, platform, library]

/-- The word of a token. -/
def word : Token → List Char
  | origin => "ORIGIN".toList
  | platform => "PLATFORM".toList
  | library => "LIB".toList

/-- Whether a character goes on with a bare word. -/
def goesOn (c : Char) : Bool := c.isAlphanum || c = '_'

/-- Whether a text starts with a word that no character goes on with. -/
def startsBare (word s : List Char) : Bool :=
  word.isPrefixOf s && !((s.drop word.length).head?.any goesOn)

/-- Whether a text starts with a word in braces. -/
def startsBraced (word s : List Char) : Bool := ('\x7b' :: word ++ ['\x7d']).isPrefixOf s

/-- How many characters a token takes up at the start of a text that follows a dollar sign, if it is
there. -/
def size? (token : Token) (s : List Char) : Option Nat :=
  if startsBraced token.word s then some (token.word.length + 2)
  else if startsBare token.word s then some token.word.length
  else none

/-- The token at the start of a text that follows a dollar sign, and its size. -/
def after? (s : List Char) : Option (Token × Nat) :=
  all.findSome? fun token => (token.size? s).map (token, ·)

/-- A text with its tokens replaced, if there is something for each of them. -/
def expand (value : Token → Option String) : List Char → Option (List Char)
  | [] => some []
  | c :: rest =>
    match if c = '$' then after? rest else none with
    | none => (expand value rest).map (c :: ·)
    | some (token, size) => do
      let start := (← value token).toList
      return start ++ (← expand value (rest.drop size))
termination_by s => s.length
decreasing_by
  · simp only [List.length_cons]; omega
  · simp only [List.length_drop, List.length_cons]; omega

/-- Bare words end before what is no letter, digit or underscore, and in braces anywhere. -/
example : after? "LIB.so".toList = some (library, 3) ∧ after? "LIBX".toList = none ∧
    after? "\x7bLIB\x7dX".toList = some (library, 5) := by decide +kernel

end Token

end ForeignEval.Loading

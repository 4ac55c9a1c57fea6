/-!
# Terminated text

Foreign code takes a text up to its first NUL. A text handed to it may bring the NUL that ends it,
but cannot hold another one.
-/

namespace ForeignEval.Text

/-- The text that foreign code sees: a NUL at the end is only its end, and a text with any other NUL
cannot be handed over. -/
def terminated? (s : String) : Option String :=
  let characters := s.toList
  let seen := if characters.getLast? = some '\x00' then characters.dropLast else characters
  if seen.contains '\x00' then none else some (String.ofList seen)

/-- One NUL is dropped, a second one is in the way. -/
example : terminated? "a\x00" = some "a" ∧ terminated? "\x00" = some "" ∧
    terminated? "a\x00\x00" = none := by decide +kernel

end ForeignEval.Text

/-!
# White space

The characters of Unicode's `White_Space` property, and trimming by them.

* **Trimming** — `trim` removes them at both ends and leaves the inside alone.
-/

namespace ForeignEval.Text

/-- Whether a character has the property `White_Space`. -/
def isBlank (c : Char) : Bool :=
  let code := c.toNat
  (9 ≤ code && code ≤ 13) || code = 0x20 || code = 0x85 || code = 0xa0 || code = 0x1680 ||
  (0x2000 ≤ code && code ≤ 0x200a) || code = 0x2028 || code = 0x2029 || code = 0x202f ||
  code = 0x205f || code = 0x3000

/-- The characters between the first and the last that are not blank. -/
def trimmed (s : List Char) : List Char :=
  ((s.dropWhile isBlank).reverse.dropWhile isBlank).reverse

/-- The text without white space at its ends. -/
def trim (s : String) : String := String.ofList (trimmed s.toList)

/-- A zero-width space is no white space, an ideographic one is. -/
example : isBlank '\u200b' = false ∧ isBlank '\u3000' = true := by decide

end ForeignEval.Text

/-!
# UTF-8

Decoding of byte strings. A byte string is cut into pieces: a well-formed character each, or a
maximal run of bytes that begins one and does not end it.

* **Strict** — `decode?` refuses a byte string with an ill-formed piece.
* **Lossy** — `decodeLossy` writes U+FFFD for each ill-formed piece.
-/

namespace ForeignEval.Text.Utf8

/-- What a first byte of several announces: how many bytes follow, the range of the first of them,
and the bits that it contributes. -/
structure Lead where
  /-- How many bytes follow. -/
  tails : Nat
  /-- The least second byte. -/
  least : Nat
  /-- The greatest second byte. -/
  greatest : Nat
  /-- The bits of the code point that the first byte holds. -/
  bits : Nat

/-- The first bytes of sequences of more than one byte. -/
def lead? (b : Nat) : Option Lead :=
  if b < 0xc2 then none
  else if b < 0xe0 then some ⟨1, 0x80, 0xbf, b - 0xc0⟩
  else if b = 0xe0 then some ⟨2, 0xa0, 0xbf, 0⟩
  else if b = 0xed then some ⟨2, 0x80, 0x9f, 0xd⟩
  else if b < 0xf0 then some ⟨2, 0x80, 0xbf, b - 0xe0⟩
  else if b = 0xf0 then some ⟨3, 0x90, 0xbf, 0⟩
  else if b < 0xf4 then some ⟨3, 0x80, 0xbf, b - 0xf0⟩
  else if b = 0xf4 then some ⟨3, 0x80, 0x8f, 4⟩
  else none

/-- Reads the bytes that follow a first one: the code point if all of them are there, and how many
were read. -/
def tails : (missing : Nat) → (least greatest code : Nat) → List UInt8 → Option Nat × Nat
  | 0, _, _, code, _ => (some code, 0)
  | _ + 1, _, _, _, [] => (none, 0)
  | missing + 1, least, greatest, code, b :: rest =>
    if least ≤ b.toNat ∧ b.toNat ≤ greatest then
      let (result, count) := tails missing 0x80 0xbf (code * 64 + b.toNat % 64) rest
      (result, count + 1)
    else (none, 0)

/-- The piece that starts with a byte: its character if it is well-formed, and how many of the
bytes after the first belong to it. -/
def piece (b : UInt8) (rest : List UInt8) : Option Char × Nat :=
  if b.toNat < 0x80 then (some (Char.ofNat b.toNat), 0)
  else
    match lead? b.toNat with
    | none => (none, 0)
    | some lead =>
      let (code, count) := tails lead.tails lead.least lead.greatest lead.bits rest
      (code.map Char.ofNat, count)

/-- All pieces of a byte string; an ill-formed one is `none`. -/
def pieces : List UInt8 → List (Option Char)
  | [] => []
  | b :: rest =>
    let (c, count) := piece b rest
    c :: pieces (rest.drop count)
termination_by bytes => bytes.length
decreasing_by simp only [List.length_drop, List.length_cons]; omega

/-- The text of a well-formed byte string. -/
def decode? (bytes : List UInt8) : Option String := ((pieces bytes).mapM id).map String.ofList

/-- The text of a byte string, with U+FFFD for each ill-formed piece. -/
def decodeLossy (bytes : List UInt8) : String :=
  String.ofList ((pieces bytes).map (·.getD '\ufffd'))

/-- The bytes of a text. -/
def encode (s : String) : List UInt8 := s.toUTF8.data.toList

/-- The first byte of a sequence that is cut short is a piece, and so is a stray one. -/
example : pieces [0x61, 0xe2, 0x82, 0x62, 0xff] = [some 'a', none, some 'b', none] := by
  simp [pieces, piece, lead?, tails]

end ForeignEval.Text.Utf8

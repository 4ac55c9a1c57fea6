import ForeignEval.Json.Document
import ForeignEval.Json.Reading
import ForeignEval.Proofs.Text.Decimal

/-!
# JSON as it may be written

The texts of a document: there may be space between its parts, and the characters of a string may
be escaped. Each relation says what stands at the front of a text and what follows it, as a reader
takes it. Documents of truth values, natural numbers and objects are covered, and strings whose
characters need no pair of escapes.

* **Grammar** — `Gap`, `Quoted`, `Written`: space, the inside of strings, and documents.
* **Escapes** — `readEscape_short` and `readEscape_unit`.
* **Numbers** — `readNumber_of_lt` and `readNumber_of_le`: a decimal is read as the number if that has
  64 bits, and as no integer otherwise.
* **Readers** — `Reads` says what a reader makes of all texts of a document: `reads_natural`,
  `reads_truth`.
-/

namespace ForeignEval.Json

/-! ## Grammar -/

/-- There is some space, and then the other text. -/
def Gap (s t : List Char) : Prop := ∃ space, (∀ c ∈ space, isSpace c = true) ∧ s = space ++ t

/-- No character follows that could belong to a number. -/
def NumberEnds (rest : List Char) : Prop :=
  ∀ c others, rest = c :: others → isDigit c = false ∧ c ≠ '.' ∧ c ≠ 'e' ∧ c ≠ 'E'

/-- Four hexadecimal digits, and what follows. -/
inductive FourDigits : Nat → List Char → List Char → Prop
  | mk {a b c d : Char} {w x y z : Nat} {rest : List Char} (first : hexDigit? a = some w)
      (second : hexDigit? b = some x) (third : hexDigit? c = some y)
      (fourth : hexDigit? d = some z) :
      FourDigits (((w * 16 + x) * 16 + y) * 16 + z) (a :: b :: c :: d :: rest) rest

/-- The characters of a string up to the closing quote, and what follows. -/
inductive Quoted : List Char → List Char → List Char → Prop
  /-- The closing quote. -/
  | close {rest : List Char} : Quoted [] ('"' :: rest) rest
  /-- A character that stands for itself. -/
  | plain {c : Char} {more s rest : List Char} (quote : c ≠ '"') (backslash : c ≠ '\\')
      (control : ¬c.toNat < 0x20) (others : Quoted more s rest) : Quoted (c :: more) (c :: s) rest
  /-- A short escape. -/
  | short {letter c : Char} {more s rest : List Char} (escape : shortEscape? letter = some c)
      (others : Quoted more s rest) : Quoted (c :: more) ('\\' :: letter :: s) rest
  /-- An escape by the code unit of a character. -/
  | unit {c : Char} {more s t rest : List Char} (digits : FourDigits c.toNat s t)
      (others : Quoted more t rest) : Quoted (c :: more) ('\\' :: 'u' :: s) rest

/-- The next key of an object is opened: after a comma, unless it is the first. -/
inductive OpensKey : (first : Bool) → List Char → List Char → Prop
  | first {s t : List Char} (quote : Gap s ('"' :: t)) : OpensKey true s t
  | later {s t u : List Char} (comma : Gap s (',' :: t)) (quote : Gap t ('"' :: u)) :
      OpensKey false s u

mutual

/-- A document, and what follows. -/
inductive Written : Document → List Char → List Char → Prop
  | truth {value : Bool} {rest : List Char} :
      Written (.truth value) ((toString value).toList ++ rest) rest
  | natural {n : Nat} {rest : List Char} (ends : NumberEnds rest) :
      Written (.natural n) (Nat.toDigits 10 n ++ rest) rest
  | object {members : List (String × Document)} {s rest : List Char}
      (inside : WrittenMembers true members s rest) : Written (.object members) ('{' :: s) rest

/-- The members of an object up to its end, and what follows. -/
inductive WrittenMembers : (first : Bool) → List (String × Document) → List Char → List Char → Prop
  | close {first : Bool} {s rest : List Char} (gap : Gap s ('}' :: rest)) :
      WrittenMembers first [] s rest
  | member {first : Bool} {key : String} {value : Document} {members : List (String × Document)}
      {s quoted named colon valued after rest : List Char} (opens : OpensKey first s quoted)
      (name : Quoted key.toList quoted named) (gap : Gap named (':' :: colon))
      (gap' : Gap colon valued) (here : Written value valued after)
      (others : WrittenMembers false members after rest) :
      WrittenMembers first ((key, value) :: members) s rest

end

/-- A text of a document. -/
def Document.IsText (document : Document) (text : String) : Prop :=
  ∃ s rest, Gap text.toList s ∧ Written document s rest ∧ Gap rest []

variable {s t rest : List Char} {c : Char}

theorem numberEnds_cons (other : isDigit c = false ∧ c ≠ '.' ∧ c ≠ 'e' ∧ c ≠ 'E') :
    NumberEnds (c :: rest) := by
  intro c' others same
  cases same
  exact other

/-- A string may be written with every character for itself that can stand so. -/
theorem quoted_of_plain {characters : List Char}
    (plain : ∀ c ∈ characters, c ≠ '"' ∧ c ≠ '\\' ∧ ¬c.toNat < 0x20) :
    Quoted characters (characters ++ '"' :: rest) rest := by
  induction characters with
  | nil => exact .close
  | cons c characters ih =>
    obtain ⟨⟨quote, backslash, control⟩, others⟩ := List.forall_mem_cons.1 plain
    exact .plain quote backslash control (ih others)

/-! ## Space -/

theorem gap_refl (s : List Char) : Gap s s := ⟨[], fun _ mem => absurd mem List.not_mem_nil, rfl⟩

theorem gap_cons (blank : isSpace c = true) (gap : Gap s t) : Gap (c :: s) t := by
  obtain ⟨space, others, rfl⟩ := gap
  exact ⟨c :: space, List.forall_mem_cons.2 ⟨blank, others⟩, rfl⟩

theorem skipSpace_of_gap (gap : Gap s (c :: t)) (some : isSpace c = false) :
    skipSpace s = c :: t := by
  obtain ⟨space, blank, rfl⟩ := gap
  unfold skipSpace
  rw [List.dropWhile_append_of_pos blank, List.dropWhile_cons_of_neg]
  rw [some]
  exact Bool.false_ne_true

theorem skipSpace_of_blank (gap : Gap s []) : skipSpace s = [] := by
  obtain ⟨space, blank, rfl⟩ := gap
  unfold skipSpace
  rw [List.dropWhile_append_of_pos blank]
  rfl

theorem length_le_of_gap (gap : Gap s t) : t.length ≤ s.length := by
  obtain ⟨space, -, rfl⟩ := gap
  rw [List.length_append]
  omega

/-! ## Escapes -/

/-- Four characters have at least four bytes. -/
theorem four_le_length_flatMap (a b c d : Char) :
    4 ≤ (([a, b, c, d] : List Char).flatMap String.utf8EncodeChar).length := by
  have one (c : Char) : 1 ≤ (String.utf8EncodeChar c).length := by
    rw [String.length_utf8EncodeChar]
    exact Char.utf8Size_pos c
  calc 4 = 1 + (1 + (1 + (1 + 0))) := rfl
    _ ≤ (String.utf8EncodeChar a).length + ((String.utf8EncodeChar b).length +
        ((String.utf8EncodeChar c).length + ((String.utf8EncodeChar d).length + 0))) :=
      Nat.add_le_add (one a) (Nat.add_le_add (one b) (Nat.add_le_add (one c)
        (Nat.add_le_add (one d) (Nat.le_refl 0))))
    _ = (([a, b, c, d] : List Char).flatMap String.utf8EncodeChar).length := by
      simp only [List.flatMap_cons, List.flatMap_nil, List.length_append, List.length_nil]

theorem readHex_of_fourDigits {n : Nat} (digits : FourDigits n s rest) :
    readHex s = .ok (n, rest) := by
  cases digits with
  | @mk a b c d w x y z _ first second third fourth =>
    have enough : ¬(((a :: b :: c :: d :: rest).take 4).flatMap String.utf8EncodeChar).length < 4 :=
      Nat.not_lt.2 (four_le_length_flatMap a b c d)
    unfold readHex
    rw [if_neg enough]
    simp only [first, second, third, fourth]

theorem length_lt_of_fourDigits {n : Nat} (digits : FourDigits n s rest) :
    rest.length < s.length := by
  cases digits
  simp only [List.length_cons]
  omega

/-- A character is no half of a surrogate pair. -/
theorem not_surrogate (c : Char) :
    isHighSurrogate c.toNat = false ∧ isLowSurrogate c.toNat = false := by
  have valid : c.toNat < 0xd800 ∨ 0xdfff < c.toNat ∧ c.toNat < 0x110000 := c.valid
  unfold isHighSurrogate isLowSurrogate
  simp
  omega

theorem readEscape_unit (digits : FourDigits c.toNat s rest) :
    readEscape ('u' :: s) = .ok (c, rest) := by
  obtain ⟨high, low⟩ := not_surrogate c
  rw [readEscape, readHex_of_fourDigits digits]
  simp [bind, Except.bind, high, low, pure, Except.pure]

theorem readEscape_short {letter : Char} (escape : shortEscape? letter = some c) :
    readEscape (letter :: s) = .ok (c, s) := by
  have other : letter ≠ 'u' := by
    rintro rfl
    cases escape
  rw [readEscape.eq_3 _ _ other, escape]

/-! ## Numbers -/

section

variable {digits : List Char} {n : Nat}

theorem isDigit_eq (c : Char) : isDigit c = c.isDigit := by
  unfold isDigit Char.isDigit
  rfl

/-- A decimal does not start with a zero, unless it is that. -/
theorem toDigits_ne_zero_cons (n : Nat) (c : Char) (others : List Char) :
    Nat.toDigits 10 n ≠ '0' :: c :: others := by
  induction n using Nat.strongRecOn generalizing c others with
  | ind n ih =>
    rw [Nat.toDigits_eq_if (by decide)]
    by_cases small : n < 10
    · rw [if_pos small]
      simp
    · rw [if_neg small]
      cases front : Nat.toDigits 10 (n / 10) with
      | nil => exact absurd front Nat.toDigits_ne_nil
      | cons first more =>
        cases more with
        | cons second more =>
          intro same
          have start : first = '0' := (List.cons.inj same).1
          exact ih (n / 10) (by omega) second more (start ▸ front)
        | nil =>
          intro same
          have start : first = '0' := (List.cons.inj same).1
          -- all digits but the last are a zero alone, so that there is just one
          have value := @Nat.ofDigitChars_ten_toDigits (n / 10)
          rw [front, start] at value
          have zero : Nat.ofDigitChars 10 ['0'] 0 = 0 := by decide
          omega

theorem gather_of_lt (fits : Nat.ofDigitChars 10 digits n < UInt64.size) :
    gather n digits = (Nat.ofDigitChars 10 digits n, []) := by
  induction digits generalizing n with
  | nil => rfl
  | cons c digits ih =>
    rw [Nat.ofDigitChars_cons] at fits ⊢
    have grown := Text.le_ofDigitChars digits (10 * n + (c.toNat - '0'.toNat))
    rw [gather]
    unfold digitValue
    rw [Nat.mul_comm n 10, if_pos (by omega), ih fits]

theorem gather_snd_ne_nil (start : n < UInt64.size)
    (large : UInt64.size ≤ Nat.ofDigitChars 10 digits n) : (gather n digits).2 ≠ [] := by
  induction digits generalizing n with
  | nil =>
    rw [Nat.ofDigitChars_nil] at large
    omega
  | cons c digits ih =>
    rw [Nat.ofDigitChars_cons] at large
    rw [gather]
    unfold digitValue
    rw [Nat.mul_comm n 10]
    by_cases fits : 10 * n + (c.toNat - '0'.toNat) < UInt64.size
    · rw [if_pos fits]
      exact ih fits large
    · rw [if_neg fits]
      exact List.cons_ne_nil _ _

end

/-- No digit follows. -/
def DigitsEnd (rest : List Char) : Prop := ∀ c others, rest = c :: others → isDigit c = false

theorem NumberEnds.digitsEnd (ends : NumberEnds rest) : DigitsEnd rest :=
  fun c others same => (ends c others same).1

theorem digitsEnd_cons (other : isDigit c = false) : DigitsEnd (c :: rest) := by
  intro c' others same
  cases same
  exact other

theorem takeWhile_digits {digits : List Char} (plain : ∀ c ∈ digits, isDigit c = true)
    (ends : DigitsEnd rest) : (digits ++ rest).takeWhile isDigit = digits := by
  rw [List.takeWhile_append_of_pos plain]
  cases rest with
  | nil => exact List.append_nil _
  | cons c others =>
    rw [List.takeWhile_cons_of_neg, List.append_nil]
    rw [ends c others rfl]
    exact Bool.false_ne_true

theorem dropWhile_digits {digits : List Char} (plain : ∀ c ∈ digits, isDigit c = true)
    (ends : DigitsEnd rest) : (digits ++ rest).dropWhile isDigit = rest := by
  rw [List.dropWhile_append_of_pos plain]
  cases rest with
  | nil => rfl
  | cons c others =>
    rw [List.dropWhile_cons_of_neg]
    rw [ends c others rfl]
    exact Bool.false_ne_true

theorem isDigit_of_mem_toDigits {n : Nat} (mem : c ∈ Nat.toDigits 10 n) : isDigit c = true := by
  rw [isDigit_eq]
  exact Text.isDigit_of_mem_toDigits mem

/-- The digits of a number that ends are gathered, and what is gathered decides. -/
theorem readNumber_toDigits_eq (ends : NumberEnds rest) (n : Nat) :
    readNumber true (Nat.toDigits 10 n ++ rest) =
      if (gather 0 (Nat.toDigits 10 n)).2 = [] then
        .ok (.natural (gather 0 (Nat.toDigits 10 n)).1, rest)
      else
        readScale true (gather 0 (Nat.toDigits 10 n)).1 (gather 0 (Nat.toDigits 10 n)).2.length
          rest := by
  have plain : ∀ c ∈ Nat.toDigits 10 n, isDigit c = true := fun _ mem => isDigit_of_mem_toDigits mem
  unfold readNumber
  rw [takeWhile_digits plain ends.digitsEnd, dropWhile_digits plain ends.digitsEnd]
  dsimp only
  split
  · next empty => exact absurd empty Nat.toDigits_ne_nil
  · next c others zero => exact absurd zero (toDigits_ne_zero_cons n c others)
  · next =>
    split
    · next others => exact absurd rfl (ends _ _ rfl).2.1
    · next others => exact absurd rfl (ends _ _ rfl).2.2.1
    · next others => exact absurd rfl (ends _ _ rfl).2.2.2
    · next =>
      cases (gather 0 (Nat.toDigits 10 n)).2 with
      | nil => rfl
      | cons c dropped => rfl

theorem readScale_of_ends (ends : NumberEnds rest) (positive : Bool) (significand : Nat) (e : Int) :
    readScale positive significand e rest =
      (do return (.floating (← scaled positive significand e), rest)) := by
  unfold readScale
  split
  · next others => exact absurd rfl (ends _ _ rfl).2.2.1
  · next others => exact absurd rfl (ends _ _ rfl).2.2.2
  · rfl

/-- The decimal of a number of 64 bits is read as that number. -/
theorem readNumber_of_lt {n : Nat} (ends : NumberEnds rest) (fits : n < UInt64.size) :
    readNumber true (Nat.toDigits 10 n ++ rest) = .ok (.natural n, rest) := by
  have value : Nat.ofDigitChars 10 (Nat.toDigits 10 n) 0 = n := Nat.ofDigitChars_ten_toDigits
  have gathered : gather 0 (Nat.toDigits 10 n) = (n, []) := by
    have all := @gather_of_lt (Nat.toDigits 10 n) 0
    rw [value] at all
    exact all fits
  rw [readNumber_toDigits_eq ends, gathered, if_pos rfl]

/-- The decimal of a greater number is read as a double, if it is read at all. -/
theorem readNumber_of_le {n : Nat} (ends : NumberEnds rest) (large : UInt64.size ≤ n) :
    (∃ x, readNumber true (Nat.toDigits 10 n ++ rest) = .ok (.floating x, rest)) ∨
      ∃ e, readNumber true (Nat.toDigits 10 n ++ rest) = .error e := by
  have value : Nat.ofDigitChars 10 (Nat.toDigits 10 n) 0 = n := Nat.ofDigitChars_ten_toDigits
  have dropped : (gather 0 (Nat.toDigits 10 n)).2 ≠ [] := by
    refine gather_snd_ne_nil (by decide) ?_
    rw [value]
    exact large
  rw [readNumber_toDigits_eq ends, if_neg dropped, readScale_of_ends ends]
  cases scaled true (gather 0 (Nat.toDigits 10 n)).1 (gather 0 (Nat.toDigits 10 n)).2.length with
  | ok x => exact .inl ⟨x, rfl⟩
  | error e => exact .inr ⟨e, rfl⟩

/-- A digit is neither space nor a sign nor the start of anything else. -/
theorem ne_of_isDigit {c d : Char} (digit : isDigit c = true) (other : isDigit d = false) :
    c ≠ d := by
  rintro rfl
  rw [digit] at other
  cases other

theorem isSpace_of_isDigit {c : Char} (digit : isDigit c = true) : isSpace c = false := by
  unfold isSpace
  simp only [Bool.or_eq_false_iff, decide_eq_false_iff_not]
  exact ⟨⟨⟨ne_of_isDigit digit (by decide), ne_of_isDigit digit (by decide)⟩,
    ne_of_isDigit digit (by decide)⟩, ne_of_isDigit digit (by decide)⟩

/-- A number that starts with a digit is read without a sign. -/
theorem readAnyNumber_of_isDigit {c : Char} {others : List Char} (gap : Gap s (c :: others))
    (digit : isDigit c = true) (expected : String) :
    readAnyNumber expected s = readNumber true (c :: others) := by
  have unsigned : c ≠ '-' := ne_of_isDigit digit (by decide)
  unfold readAnyNumber
  rw [skipSpace_of_gap gap (isSpace_of_isDigit digit)]
  split
  · next empty => cases empty
  · next minus => exact absurd (List.cons.inj minus).1 unsigned
  · next c' others' _ same =>
    obtain ⟨rfl, rfl⟩ := List.cons.inj same
    rw [if_pos digit]

theorem readAnyNumber_toDigits {n : Nat} (gap : Gap s (Nat.toDigits 10 n ++ rest))
    (expected : String) :
    readAnyNumber expected s = readNumber true (Nat.toDigits 10 n ++ rest) := by
  have plain : ∀ c ∈ Nat.toDigits 10 n, isDigit c = true := fun _ mem => isDigit_of_mem_toDigits mem
  cases digits : Nat.toDigits 10 n with
  | nil => exact absurd digits Nat.toDigits_ne_nil
  | cons c others =>
    rw [digits] at gap plain
    exact readAnyNumber_of_isDigit gap (plain c List.mem_cons_self) expected

/-! ## Readers -/

/-- On every text of a document, a reader takes it for this value and leaves what follows it; if
there is no value, it refuses the text. -/
def Reads {α : Type} (read : Reader α) (document : Document) (value : Option α) : Prop :=
  ∀ s t rest, Gap s t → Written document t rest →
    (read s).toOption = value.map fun value => (value, rest)

/-- A natural number is read if it is below the bound. -/
theorem reads_natural {bound : Nat} (long : bound ≤ UInt64.size) (expected : String) (n : Nat) :
    Reads (readNatural bound expected) (.natural n) (if n < bound then some n else none) := by
  intro s t rest gap written
  cases written with
  | natural ends =>
    unfold readNatural
    rw [readAnyNumber_toDigits gap]
    by_cases fits : n < UInt64.size
    · rw [readNumber_of_lt ends fits]
      by_cases small : n < bound
      · simp [small, bind, Except.bind, pure, Except.pure, Except.toOption]
      · simp [small, bind, Except.bind, Except.toOption]
    · have large : ¬n < bound := by omega
      rw [if_neg large]
      rcases readNumber_of_le ends (Nat.not_lt.1 fits) with ⟨x, floating⟩ | ⟨e, failed⟩
      · rw [floating]
        rfl
      · rw [failed]
        rfl

/-- A truth value is read. -/
theorem reads_truth (value : Bool) : Reads readTruth (.truth value) (some value) := by
  intro s t rest gap written
  cases written with
  | truth =>
    cases value with
    | true =>
      have start : skipSpace s = 't' :: 'r' :: 'u' :: 'e' :: rest :=
        skipSpace_of_gap gap (by decide)
      unfold readTruth
      rw [start]
      rfl
    | false =>
      have start : skipSpace s = 'f' :: 'a' :: 'l' :: 's' :: 'e' :: rest :=
        skipSpace_of_gap gap (by decide)
      unfold readTruth
      rw [start]
      rfl

end ForeignEval.Json

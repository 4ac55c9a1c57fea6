import ForeignEval.Proofs.Json.Written

/-!
# Strings of any spelling

A character of a string may be written in several ways: as it is, by a short escape, by its code
unit, or by two code units if it has no single one. All of them are read as that character. Where a
string is only passed, any four hexadecimal digits will do, so that code units need not make
characters.

* **Spellings** — `Spells` for a character, `Spelled` for a string; `readString_of_spelled`.
* **Forms** — `StringForm`: what is passed as a string; `skipString_of_stringForm`.
* **Writing** — `spelled_escaped`: what is written of a text spells it.
-/

namespace ForeignEval.Json

/-! ## Spellings -/

/-- A character of a string, and what follows. -/
inductive Spells : Char → List Char → List Char → Prop
  /-- A character that stands for itself. -/
  | plain {c : Char} {rest : List Char} (quote : c ≠ '"') (backslash : c ≠ '\\')
      (control : ¬c.toNat < 0x20) : Spells c (c :: rest) rest
  /-- A short escape. -/
  | short {letter c : Char} {rest : List Char} (escape : shortEscape? letter = some c) :
      Spells c ('\\' :: letter :: rest) rest
  /-- An escape by the code unit of a character. -/
  | unit {c : Char} {s rest : List Char} (digits : FourDigits c.toNat s rest) :
      Spells c ('\\' :: 'u' :: s) rest
  /-- Two escapes by the halves of a surrogate pair. -/
  | pair {c : Char} {high low : Nat} {s t rest : List Char}
      (first : FourDigits high s ('\\' :: 'u' :: t)) (isHigh : isHighSurrogate high = true)
      (second : FourDigits low t rest) (isLow : isLowSurrogate low = true)
      (both : c.toNat = (high - 0xd800) * 0x400 + (low - 0xdc00) + 0x10000) :
      Spells c ('\\' :: 'u' :: s) rest

/-- The characters of a string up to the closing quote, and what follows. -/
inductive Spelled : List Char → List Char → List Char → Prop
  | close {rest : List Char} : Spelled [] ('"' :: rest) rest
  | char {c : Char} {more s t rest : List Char} (here : Spells c s t)
      (others : Spelled more t rest) : Spelled (c :: more) s rest

variable {c : Char} {characters s t rest : List Char}

theorem spelled_of_quoted (quoted : Quoted characters s rest) : Spelled characters s rest := by
  induction quoted with
  | close => exact .close
  | plain quote backslash control _ ih => exact .char (.plain quote backslash control) ih
  | short escape _ ih => exact .char (.short escape) ih
  | unit digits _ ih => exact .char (.unit digits) ih

theorem readEscape_pair {high low : Nat} (first : FourDigits high s ('\\' :: 'u' :: t))
    (isHigh : isHighSurrogate high = true) (second : FourDigits low t rest)
    (isLow : isLowSurrogate low = true)
    (both : c.toNat = (high - 0xd800) * 0x400 + (low - 0xdc00) + 0x10000) :
    readEscape ('u' :: s) = .ok (c, rest) := by
  have notLow : isLowSurrogate high = false := by
    unfold isHighSurrogate at isHigh
    unfold isLowSurrogate
    simp at isHigh ⊢
    omega
  rw [readEscape, readHex_of_fourDigits first]
  simp only [bind, Except.bind, notLow, isHigh, Bool.false_eq_true, if_false, if_true]
  rw [readLowSurrogate, readHex_of_fourDigits second]
  simp only [bind, Except.bind, isLow, if_true, pure, Except.pure]
  rw [← both, Char.ofNat_toNat]

theorem length_lt_of_spells (spells : Spells c s rest) : rest.length < s.length := by
  cases spells with
  | plain => exact Nat.lt_succ_self _
  | short => simp only [List.length_cons]; omega
  | unit digits =>
    have shorter := length_lt_of_fourDigits digits
    simp only [List.length_cons]
    omega
  | pair first _ second _ _ =>
    have shorter := length_lt_of_fourDigits first
    have shorter' := length_lt_of_fourDigits second
    simp only [List.length_cons] at shorter ⊢
    omega

theorem length_lt_of_spelled (spelled : Spelled characters s rest) : rest.length < s.length := by
  induction spelled with
  | close => exact Nat.lt_succ_self _
  | char here _ ih => exact Nat.lt_trans ih (length_lt_of_spells here)

/-- One character is read, and then the others. -/
theorem readCharacters_of_spells {budget : Nat} (spells : Spells c s rest) :
    readCharacters (budget + 1) s =
      readCharacters budget rest >>= fun found => pure (c :: found.1, found.2) := by
  cases spells with
  | plain quote backslash control =>
    rw [readCharacters.eq_5 _ _ _ quote backslash, if_neg control]
  | short escape =>
    rw [readCharacters, readEscape_short escape]
    rfl
  | unit digits =>
    rw [readCharacters, readEscape_unit digits]
    rfl
  | pair first isHigh second isLow both =>
    rw [readCharacters, readEscape_pair first isHigh second isLow both]
    rfl

/-- What a string stands for is read, and the text goes on after the closing quote. -/
theorem readCharacters_of_spelled {budget : Nat} (spelled : Spelled characters s rest)
    (enough : s.length < budget) : readCharacters budget s = .ok (characters, rest) := by
  induction spelled generalizing budget with
  | close =>
    obtain ⟨budget, rfl⟩ := Nat.exists_eq_add_one_of_ne_zero (Nat.ne_zero_of_lt enough)
    rw [readCharacters]
  | char here others ih =>
    obtain ⟨budget, rfl⟩ := Nat.exists_eq_add_one_of_ne_zero (Nat.ne_zero_of_lt enough)
    have shorter := length_lt_of_spells here
    rw [readCharacters_of_spells here, ih (by omega)]
    rfl

theorem readString_of_spelled {text : String} (spelled : Spelled text.toList s rest) :
    readString s = .ok (text, rest) := by
  unfold readString
  rw [readCharacters_of_spelled spelled (Nat.lt_succ_self _)]
  show Except.ok (String.ofList text.toList, rest) = _
  rw [String.ofList_toList]

/-! ## Forms -/

/-- What is passed as a string, up to the closing quote, and what follows. -/
inductive StringForm : List Char → List Char → Prop
  | close {rest : List Char} : StringForm ('"' :: rest) rest
  | plain {c : Char} {s rest : List Char} (quote : c ≠ '"') (backslash : c ≠ '\\')
      (control : ¬c.toNat < 0x20) (others : StringForm s rest) : StringForm (c :: s) rest
  | short {letter : Char} {s rest : List Char} (escape : (shortEscape? letter).isSome = true)
      (others : StringForm s rest) : StringForm ('\\' :: letter :: s) rest
  /-- An escape by four digits, whatever they stand for. -/
  | unit {n : Nat} {s t rest : List Char} (digits : FourDigits n s t)
      (others : StringForm t rest) : StringForm ('\\' :: 'u' :: s) rest

theorem stringForm_of_spelled (spelled : Spelled characters s rest) : StringForm s rest := by
  induction spelled with
  | close => exact .close
  | char here _ ih =>
    cases here with
    | plain quote backslash control => exact .plain quote backslash control ih
    | short escape => exact .short (Option.isSome_iff_exists.2 ⟨_, escape⟩) ih
    | unit digits => exact .unit digits ih
    | pair first _ second _ _ => exact .unit first (.unit second ih)

theorem length_lt_of_stringForm (form : StringForm s rest) : rest.length < s.length := by
  induction form with
  | close => exact Nat.lt_succ_self _
  | plain _ _ _ _ ih => exact Nat.lt_succ_of_lt ih
  | short _ _ ih => exact Nat.lt_succ_of_lt (Nat.lt_succ_of_lt ih)
  | unit digits _ ih =>
    have shorter := length_lt_of_fourDigits digits
    simp only [List.length_cons]
    omega

/-- What has the form of a string is passed. -/
theorem skipCharacters_of_stringForm {budget : Nat} (form : StringForm s rest)
    (enough : s.length < budget) : skipCharacters budget s = .ok rest := by
  induction form generalizing budget with
  | close =>
    obtain ⟨budget, rfl⟩ := Nat.exists_eq_add_one_of_ne_zero (Nat.ne_zero_of_lt enough)
    rw [skipCharacters]
  | plain quote backslash control others ih =>
    obtain ⟨budget, rfl⟩ := Nat.exists_eq_add_one_of_ne_zero (Nat.ne_zero_of_lt enough)
    rw [List.length_cons] at enough
    rw [skipCharacters.eq_5 _ _ _ quote backslash, if_neg control, ih (by omega)]
  | @short letter s rest escape others ih =>
    obtain ⟨budget, rfl⟩ := Nat.exists_eq_add_one_of_ne_zero (Nat.ne_zero_of_lt enough)
    have other : letter ≠ 'u' := by
      rintro rfl
      cases escape
    rw [List.length_cons, List.length_cons] at enough
    rw [skipCharacters, skipEscape.eq_3 _ _ other, if_pos escape]
    exact ih (by omega)
  | unit digits others ih =>
    obtain ⟨budget, rfl⟩ := Nat.exists_eq_add_one_of_ne_zero (Nat.ne_zero_of_lt enough)
    have shorter := length_lt_of_fourDigits digits
    rw [List.length_cons, List.length_cons] at enough
    rw [skipCharacters, skipEscape, readHex_of_fourDigits digits]
    exact ih (by omega)

theorem skipString_of_stringForm (form : StringForm s rest) : skipString s = .ok rest :=
  skipCharacters_of_stringForm form (Nat.lt_succ_self _)

/-! ## Writing -/

/-- The four digits of a control character. -/
theorem fourDigits_control {n : Nat} (control : n < 0x20) (rest : List Char) :
    FourDigits n (List.replicate (4 - (Nat.toDigits 16 n).length) '0' ++ Nat.toDigits 16 n ++ rest)
      rest := by
  have digits : ∀ n < 0x20,
      List.replicate (4 - (Nat.toDigits 16 n).length) '0' ++ Nat.toDigits 16 n =
          ['0', '0', Nat.digitChar (n / 16), Nat.digitChar (n % 16)] ∧
        hexDigit? (Nat.digitChar (n / 16)) = some (n / 16) ∧
        hexDigit? (Nat.digitChar (n % 16)) = some (n % 16) := by decide
  obtain ⟨padded, upper, lower⟩ := digits n control
  have zero : hexDigit? '0' = some 0 := by decide
  have four : FourDigits _ ('0' :: '0' :: Nat.digitChar (n / 16) :: Nat.digitChar (n % 16) :: rest)
      rest := .mk zero zero upper lower
  have value : ((0 * 16 + 0) * 16 + n / 16) * 16 + n % 16 = n := by omega
  rw [value] at four
  rw [padded]
  exact four

/-- What is written for a character spells it. -/
theorem spells_escapedChar (c : Char) (rest : List Char) : Spells c (escapedChar c ++ rest) rest := by
  unfold escapedChar
  by_cases quote : c = '"'
  · subst quote
    exact .short (by decide)
  by_cases backslash : c = '\\'
  · subst backslash
    exact .short (by decide)
  by_cases back : c = '\x08'
  · subst back
    exact .short (by decide)
  by_cases feed : c = '\x0c'
  · subst feed
    exact .short (by decide)
  by_cases newline : c = '\n'
  · subst newline
    exact .short (by decide)
  by_cases start : c = '\r'
  · subst start
    exact .short (by decide)
  by_cases tab : c = '\t'
  · subst tab
    exact .short (by decide)
  rw [if_neg quote, if_neg backslash, if_neg back, if_neg feed, if_neg newline, if_neg start,
    if_neg tab]
  by_cases control : c.toNat < 0x20
  · rw [if_pos control]
    exact .unit (fourDigits_control control rest)
  · rw [if_neg control]
    exact .plain quote backslash control

/-- What is written of a text between its quotes spells it. -/
theorem spelled_escaped (characters rest : List Char) :
    Spelled characters (escaped characters ++ '"' :: rest) rest := by
  unfold escaped
  induction characters with
  | nil => exact .close
  | cons c characters ih =>
    rw [List.flatMap_cons, List.append_assoc]
    exact .char (spells_escapedChar c _) ih

end ForeignEval.Json

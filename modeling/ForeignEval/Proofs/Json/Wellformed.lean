import ForeignEval.Proofs.Json.Numbers
import ForeignEval.Proofs.Json.Strings

/-!
# Well-formed JSON

The texts of all values, whatever they mean: numbers of any size, strings whose code units need not
make characters, arrays and objects of any depth, with space between all parts. A value that nobody
asked for is passed if it is well-formed.

* **Grammar** — `Wellformed`, with `WellformedElements` and `WellformedMembers`.
* **Passing** — `skipValue_of_wellformed`, by induction on the budget.
-/

namespace ForeignEval.Json

/-! ## Grammar -/

/-- The next element of an array is opened: after a comma, unless it is the first. -/
inductive OpensElement : (first : Bool) → List Char → List Char → Prop
  | first {s t : List Char} (gap : Gap s t) : OpensElement true s t
  | later {s t u : List Char} (comma : Gap s (',' :: t)) (gap : Gap t u) : OpensElement false s u

mutual

/-- A value, and what follows. -/
inductive Wellformed : List Char → List Char → Prop
  | null {rest : List Char} : Wellformed ('n' :: 'u' :: 'l' :: 'l' :: rest) rest
  | truth {value : Bool} {rest : List Char} : Wellformed ((toString value).toList ++ rest) rest
  | number {whole fraction s rest : List Char} {e : Int}
      (form : NumberForm whole fraction e s rest) : Wellformed s rest
  | negative {whole fraction s rest : List Char} {e : Int}
      (form : NumberForm whole fraction e s rest) : Wellformed ('-' :: s) rest
  | string {s rest : List Char} (form : StringForm s rest) : Wellformed ('"' :: s) rest
  | array {s rest : List Char} (inside : WellformedElements true s rest) : Wellformed ('[' :: s) rest
  | object {s rest : List Char} (inside : WellformedMembers true s rest) : Wellformed ('{' :: s) rest

/-- The elements of an array up to its end, and what follows. -/
inductive WellformedElements : (first : Bool) → List Char → List Char → Prop
  | close {first : Bool} {s rest : List Char} (gap : Gap s (']' :: rest)) :
      WellformedElements first s rest
  | element {first : Bool} {s valued after rest : List Char} (opens : OpensElement first s valued)
      (here : Wellformed valued after) (others : WellformedElements false after rest) :
      WellformedElements first s rest

/-- The members of an object up to its end, and what follows. -/
inductive WellformedMembers : (first : Bool) → List Char → List Char → Prop
  | close {first : Bool} {s rest : List Char} (gap : Gap s ('}' :: rest)) :
      WellformedMembers first s rest
  | member {first : Bool} {s quoted named colon valued after rest : List Char}
      (opens : OpensKey first s quoted) (name : StringForm quoted named)
      (gap : Gap named (':' :: colon)) (gap' : Gap colon valued) (here : Wellformed valued after)
      (others : WellformedMembers false after rest) : WellformedMembers first s rest

end

variable {s t rest : List Char} {first : Bool}

/-! ## First characters -/

/-- A value starts with something that neither is space nor ends an array or an object. -/
theorem Wellformed.exists_cons (value : Wellformed s rest) :
    ∃ c others, s = c :: others ∧ isSpace c = false ∧ c ≠ ']' ∧ c ≠ '}' := by
  cases value with
  | null => exact ⟨_, _, rfl, by decide⟩
  | @truth value => cases value <;> exact ⟨_, _, rfl, by decide⟩
  | number form =>
    obtain ⟨c, others, rfl, digit⟩ := form.exists_cons
    exact ⟨c, others, rfl, isSpace_of_isDigit digit, ne_of_isDigit digit (by decide),
      ne_of_isDigit digit (by decide)⟩
  | negative => exact ⟨_, _, rfl, by decide⟩
  | string => exact ⟨_, _, rfl, by decide⟩
  | array => exact ⟨_, _, rfl, by decide⟩
  | object => exact ⟨_, _, rfl, by decide⟩

/-! ## Lengths -/

theorem length_lt_of_opensKey (opens : OpensKey first s t) : t.length < s.length := by
  cases opens with
  | first quote =>
    have shorter := length_le_of_gap quote
    rw [List.length_cons] at shorter
    omega
  | later comma quote =>
    have before := length_le_of_gap comma
    have shorter := length_le_of_gap quote
    rw [List.length_cons] at before shorter
    omega

theorem length_le_of_opensElement (opens : OpensElement first s t) : t.length ≤ s.length := by
  cases opens with
  | first gap => exact length_le_of_gap gap
  | later comma gap =>
    have before := length_le_of_gap comma
    have shorter := length_le_of_gap gap
    rw [List.length_cons] at before
    omega

mutual

/-- What follows a value is shorter than the text. -/
theorem length_lt_of_wellformed {s rest : List Char} :
    Wellformed s rest → rest.length < s.length
  | .null => by simp only [List.length_cons]; omega
  | @Wellformed.truth value _ => by
    rw [List.length_append]
    have some : 0 < (toString value).toList.length := by cases value <;> decide
    omega
  | .number form => length_lt_of_numberForm form
  | .negative form => Nat.lt_succ_of_lt (length_lt_of_numberForm form)
  | .string form => Nat.lt_succ_of_lt (length_lt_of_stringForm form)
  | .array inside => Nat.lt_succ_of_lt (length_lt_of_wellformedElements inside)
  | .object inside => Nat.lt_succ_of_lt (length_lt_of_wellformedMembers inside)

/-- What follows the elements is shorter than the text. -/
theorem length_lt_of_wellformedElements {first : Bool} {s rest : List Char} :
    WellformedElements first s rest → rest.length < s.length
  | .close gap => length_le_of_gap gap
  | .element opens here others => by
    have opened := length_le_of_opensElement opens
    have after := length_lt_of_wellformed here
    have shorter := length_lt_of_wellformedElements others
    omega

/-- What follows the members is shorter than the text. -/
theorem length_lt_of_wellformedMembers {first : Bool} {s rest : List Char} :
    WellformedMembers first s rest → rest.length < s.length
  | .close gap => length_le_of_gap gap
  | .member opens name gap gap' here others => by
    have opened := length_lt_of_opensKey opens
    have named := length_lt_of_stringForm name
    have colon := length_le_of_gap gap
    have valued := length_le_of_gap gap'
    have after := length_lt_of_wellformed here
    have shorter := length_lt_of_wellformedMembers others
    rw [List.length_cons] at colon
    omega

end

/-! ## Passing -/

theorem skipColon_of_gap (gap : Gap s (':' :: rest)) : skipColon s = .ok rest := by
  unfold skipColon
  rw [skipSpace_of_gap gap (by decide)]
  rfl

/-- A key is passed with its colon. -/
theorem skipKey_of_stringForm {named : List Char} (quote : Gap s ('"' :: t))
    (name : StringForm t named) (gap : Gap named (':' :: rest)) : skipKey s = .ok rest := by
  unfold skipKey
  rw [skipSpace_of_gap quote (by decide)]
  show skipString t >>= skipColon = _
  rw [skipString_of_stringForm name]
  exact skipColon_of_gap gap

/-- A number is passed by its digits: a digit starts none of the other values. -/
theorem skipValueWithin_of_isDigit {c : Char} {budget : Nat} (gap : Gap s (c :: t))
    (digit : isDigit c = true) : skipValueWithin (budget + 1) s = skipNumber (c :: t) := by
  rw [skipValueWithin, skipSpace_of_gap gap (isSpace_of_isDigit digit)]
  split
  case h_9 c' others _ _ _ _ _ _ _ same =>
    obtain ⟨rfl, rfl⟩ := List.cons.inj same
    rw [if_pos digit]
  case h_1 same => cases same
  all_goals
    obtain ⟨rfl, -⟩ := List.cons.inj (by assumption)
    exact absurd digit (by decide)

theorem skipValueWithin_of_array {budget : Nat} (gap : Gap s ('[' :: t)) :
    skipValueWithin (budget + 1) s =
      match skipSpace t with
      | ']' :: rest => .ok rest
      | [] => .error .endInList
      | rest => skipValueWithin budget rest >>= skipElements budget := by
  rw [skipValueWithin, skipSpace_of_gap gap (by decide)]
  rfl

theorem skipValueWithin_of_object {budget : Nat} (gap : Gap s ('{' :: t)) :
    skipValueWithin (budget + 1) s =
      match skipSpace t with
      | '}' :: rest => .ok rest
      | [] => .error .endInObject
      | rest => skipKey rest >>= fun rest => skipValueWithin budget rest >>= skipMembers budget := by
  rw [skipValueWithin, skipSpace_of_gap gap (by decide)]
  rfl

/-- Whatever is shorter than the budget and well-formed is passed. -/
structure PassesWithin (budget : Nat) : Prop where
  value : ∀ {s t rest}, Gap s t → Wellformed t rest → t.length < budget →
    skipValueWithin budget s = .ok rest
  /-- What follows an element is passed up to the end of the array. -/
  elements : ∀ {s rest}, WellformedElements false s rest → s.length < budget →
    skipElements budget s = .ok rest
  /-- What follows a member is passed up to the end of the object. -/
  members : ∀ {s rest}, WellformedMembers false s rest → s.length < budget →
    skipMembers budget s = .ok rest

namespace PassesWithin

variable {budget : Nat} (passes : PassesWithin budget)
include passes

theorem array_succ (gap : Gap s ('[' :: t)) (inside : WellformedElements true t rest)
    (enough : t.length < budget) : skipValueWithin (budget + 1) s = .ok rest := by
  rw [skipValueWithin_of_array gap]
  cases inside with
  | close gap' =>
    rw [skipSpace_of_gap gap' (by decide)]
    rfl
  | element opens here others =>
    obtain ⟨c, more, rfl, dark, some, -⟩ := here.exists_cons
    have opened := length_le_of_opensElement opens
    have after := length_lt_of_wellformed here
    cases opens with
    | first gap' =>
      rw [skipSpace_of_gap gap' dark]
      split
      · next same => exact absurd (List.cons.inj same).1 some
      · next same => cases same
      · rw [passes.value (gap_refl _) here (by omega)]
        exact passes.elements others (by omega)

theorem elements_succ (inside : WellformedElements false s rest) (enough : s.length < budget + 1) :
    skipElements (budget + 1) s = .ok rest := by
  cases inside with
  | close gap =>
    rw [skipElements, skipSpace_of_gap gap (by decide)]
    rfl
  | element opens here others =>
    cases opens with
    | later comma gap =>
      have before := length_le_of_gap comma
      have valued := length_le_of_gap gap
      have after := length_lt_of_wellformed here
      rw [List.length_cons] at before
      rw [skipElements, skipSpace_of_gap comma (by decide)]
      show skipValueWithin budget _ >>= skipElements budget = _
      rw [passes.value gap here (by omega)]
      exact passes.elements others (by omega)

/-- A member is passed from its key on, and so are the others. -/
theorem member {quoted named colon valued after : List Char} (quote : Gap s ('"' :: quoted))
    (name : StringForm quoted named) (gap : Gap named (':' :: colon)) (gap' : Gap colon valued)
    (here : Wellformed valued after) (others : WellformedMembers false after rest)
    (enough : s.length ≤ budget) :
    (skipKey s >>= fun rest => skipValueWithin budget rest >>= skipMembers budget) = .ok rest := by
  have start := length_le_of_gap quote
  have closed := length_lt_of_stringForm name
  have before := length_le_of_gap gap
  have behind := length_le_of_gap gap'
  have passed := length_lt_of_wellformed here
  rw [List.length_cons] at start before
  rw [skipKey_of_stringForm quote name gap]
  show skipValueWithin budget colon >>= skipMembers budget = _
  rw [passes.value gap' here (by omega)]
  exact passes.members others (by omega)

theorem object_succ (gap : Gap s ('{' :: t)) (inside : WellformedMembers true t rest)
    (enough : t.length < budget) : skipValueWithin (budget + 1) s = .ok rest := by
  rw [skipValueWithin_of_object gap]
  cases inside with
  | close gap' =>
    rw [skipSpace_of_gap gap' (by decide)]
    rfl
  | member opens name colon gap' here others =>
    cases opens with
    | first quote =>
      have start := length_le_of_gap quote
      rw [skipSpace_of_gap quote (by decide)]
      exact passes.member (gap_refl _) name colon gap' here others (by omega)

theorem members_succ (inside : WellformedMembers false s rest) (enough : s.length < budget + 1) :
    skipMembers (budget + 1) s = .ok rest := by
  cases inside with
  | close gap =>
    rw [skipMembers, skipSpace_of_gap gap (by decide)]
    rfl
  | member opens name colon gap' here others =>
    cases opens with
    | later comma quote =>
      have before := length_le_of_gap comma
      rw [List.length_cons] at before
      rw [skipMembers, skipSpace_of_gap comma (by decide)]
      exact passes.member quote name colon gap' here others (by omega)

theorem value_succ (gap : Gap s t) (value : Wellformed t rest) (enough : t.length < budget + 1) :
    skipValueWithin (budget + 1) s = .ok rest := by
  cases value with
  | null =>
    rw [skipValueWithin, skipSpace_of_gap gap (by decide)]
    rfl
  | @truth value =>
    cases value <;>
    · rw [skipValueWithin, skipSpace_of_gap gap (by decide)]
      rfl
  | number form =>
    obtain ⟨c, others, rfl, digit⟩ := form.exists_cons
    rw [skipValueWithin_of_isDigit gap digit, skipNumber_of_numberForm form]
  | negative form =>
    rw [skipValueWithin, skipSpace_of_gap gap (by decide)]
    exact skipNumber_of_numberForm form
  | string form =>
    rw [skipValueWithin, skipSpace_of_gap gap (by decide)]
    exact skipString_of_stringForm form
  | array inside => exact passes.array_succ gap inside (Nat.lt_of_succ_lt_succ enough)
  | object inside => exact passes.object_succ gap inside (Nat.lt_of_succ_lt_succ enough)

end PassesWithin

/-- Every value, element and member uses up part of the text, so that a budget above its length is
enough; the induction is on the budget, which all three ways of passing share. -/
theorem passesWithin (budget : Nat) : PassesWithin budget := by
  induction budget with
  | zero =>
    exact ⟨fun _ _ enough => absurd enough (Nat.not_lt_zero _),
      fun _ enough => absurd enough (Nat.not_lt_zero _),
      fun _ enough => absurd enough (Nat.not_lt_zero _)⟩
  | succ budget ih => exact ⟨ih.value_succ, ih.elements_succ, ih.members_succ⟩

/-- A well-formed value is passed, whatever follows it. -/
theorem skipValue_of_wellformed (gap : Gap s t) (value : Wellformed t rest) :
    skipValue s = .ok rest :=
  (passesWithin _).value gap value (Nat.lt_succ_of_le (length_le_of_gap gap))

end ForeignEval.Json

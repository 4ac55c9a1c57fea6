import ForeignEval.Proofs.Json.Doubles
import ForeignEval.Proofs.Json.Wellformed

/-!
# All texts of a document

Every document has many texts: space may stand between all parts, and strings may be spelled in many
ways. The compact text and the one with one element or member per line are two of them.

* **Grammar** — `Rendered`, with `RenderedElements` and `RenderedMembers`.
* **Writing** — `rendered_compact` and `rendered_prettyAt`, by induction on the document.
-/

namespace ForeignEval.Json

/-! ## Grammar -/

mutual

/-- A text of a document, and what follows. -/
inductive Rendered : Document → List Char → List Char → Prop
  | null {rest : List Char} : Rendered .null ('n' :: 'u' :: 'l' :: 'l' :: rest) rest
  | truth {value : Bool} {rest : List Char} :
      Rendered (.truth value) ((toString value).toList ++ rest) rest
  | natural {n : Nat} {rest : List Char} (ends : NumberEnds rest) :
      Rendered (.natural n) (Nat.toDigits 10 n ++ rest) rest
  | double {x : Double} {rest : List Char} (ends : NumberEnds rest) :
      Rendered (.double x) ((Decimal.Layout.json.text x).toList ++ rest) rest
  | text {value : String} {s rest : List Char} (spelled : Spelled value.toList s rest) :
      Rendered (.text value) ('"' :: s) rest
  | array {elements : List Document} {s rest : List Char}
      (inside : RenderedElements true elements s rest) : Rendered (.array elements) ('[' :: s) rest
  | object {members : List (String × Document)} {s rest : List Char}
      (inside : RenderedMembers true members s rest) : Rendered (.object members) ('{' :: s) rest

/-- The elements of an array up to its end, and what follows. -/
inductive RenderedElements : (first : Bool) → List Document → List Char → List Char → Prop
  | close {first : Bool} {s rest : List Char} (gap : Gap s (']' :: rest)) :
      RenderedElements first [] s rest
  | element {first : Bool} {value : Document} {elements : List Document}
      {s valued after rest : List Char} (opens : OpensElement first s valued)
      (here : Rendered value valued after) (others : RenderedElements false elements after rest) :
      RenderedElements first (value :: elements) s rest

/-- The members of an object up to its end, and what follows. -/
inductive RenderedMembers :
    (first : Bool) → List (String × Document) → List Char → List Char → Prop
  | close {first : Bool} {s rest : List Char} (gap : Gap s ('}' :: rest)) :
      RenderedMembers first [] s rest
  | member {first : Bool} {key : String} {value : Document} {members : List (String × Document)}
      {s quoted named colon valued after rest : List Char} (opens : OpensKey first s quoted)
      (name : Spelled key.toList quoted named) (gap : Gap named (':' :: colon))
      (gap' : Gap colon valued) (here : Rendered value valued after)
      (others : RenderedMembers false members after rest) :
      RenderedMembers first ((key, value) :: members) s rest

end

/-! ## Form -/

theorem whole_toDigits (n : Nat) : Whole (Nat.toDigits 10 n) :=
  ⟨⟨Nat.toDigits_ne_nil, fun _ mem => isDigit_of_mem_toDigits mem⟩, toDigits_ne_zero_cons n⟩

/-- Every double is written as a number or `null`. -/
theorem wellformed_double {x : Double} {rest : List Char} (ends : NumberEnds rest) :
    Wellformed ((Decimal.Layout.json.text x).toList ++ rest) rest := by
  cases finite : x.isFinite with
  | false =>
    rw [text_of_not_isFinite finite]
    exact .null
  | true =>
    obtain ⟨s, text, floating⟩ := floating_text finite ends
    obtain ⟨whole, fraction, e, form⟩ := floating.numberForm
    rw [text]
    cases x.isNegative with
    | true => exact .negative form
    | false => exact .number form

mutual

/-- A text of a document is well-formed. -/
theorem wellformed_of_rendered {document : Document} {s rest : List Char} :
    Rendered document s rest → Wellformed s rest
  | .null => .null
  | .truth => .truth
  | @Rendered.natural n rest ends => by
    have form := NumberForm.whole (whole_toDigits n) (.none ends)
    exact .number form
  | .double ends => wellformed_double ends
  | .text spelled => .string (stringForm_of_spelled spelled)
  | .array inside => .array (wellformed_of_renderedElements inside)
  | .object inside => .object (wellformed_of_renderedMembers inside)

theorem wellformed_of_renderedElements {first : Bool} {elements : List Document}
    {s rest : List Char} :
    RenderedElements first elements s rest → WellformedElements first s rest
  | .close gap => .close gap
  | .element opens here others =>
    .element opens (wellformed_of_rendered here) (wellformed_of_renderedElements others)

theorem wellformed_of_renderedMembers {first : Bool} {members : List (String × Document)}
    {s rest : List Char} :
    RenderedMembers first members s rest → WellformedMembers first s rest
  | .close gap => .close gap
  | .member opens name gap gap' here others =>
    .member opens (stringForm_of_spelled name) gap gap' (wellformed_of_rendered here)
      (wellformed_of_renderedMembers others)

end

/-! ## Writing -/

section

variable {rest : List Char}

theorem rendered_truth (value : Bool) :
    Rendered (.truth value) ((if value then "true" else "false").toList ++ rest) rest := by
  cases value with
  | true => exact @Rendered.truth true rest
  | false => exact @Rendered.truth false rest

theorem rendered_natural (n : Nat) (ends : NumberEnds rest) :
    Rendered (.natural n) ((Nat.repr n).toList ++ rest) rest := by
  rw [Nat.toList_repr]
  exact .natural ends

/-- A string is written between quotes. -/
theorem rendered_text (value : String) :
    Rendered (.text value) (Document.quotedText value ++ rest) rest := by
  have spelled := spelled_escaped value.toList rest
  rw [List.append_cons] at spelled
  exact .text spelled

/-- A new line is space. -/
theorem gap_lineAt (depth : Nat) (s : List Char) : Gap (Document.lineAt depth ++ s) s := by
  refine ⟨Document.lineAt depth, ?_, rfl⟩
  intro c mem
  unfold Document.lineAt at mem
  rcases List.mem_cons.1 mem with rfl | mem
  · decide
  · rw [List.eq_of_mem_replicate mem]
    decide

theorem gap_space (s : List Char) : Gap (' ' :: s) s := gap_cons (by decide) (gap_refl s)

/-- One more member is written, with space around it. -/
theorem rendered_member {first : Bool} (name : String) {value : Document}
    {members : List (String × Document)} {s colon valued after : List Char}
    (opens : OpensKey first s (escaped name.toList ++ '"' :: ':' :: colon))
    (gap : Gap colon valued) (here : Rendered value valued after)
    (others : RenderedMembers false members after rest) :
    RenderedMembers first ((name, value) :: members) s rest :=
  .member opens (spelled_escaped name.toList _) (gap_refl _) gap here others

end

theorem numberEnds_compactElements (elements : List Document) (rest : List Char) :
    NumberEnds (Document.compactElements elements ++ rest) := by
  cases elements <;> exact numberEnds_cons (by decide)

theorem numberEnds_compactMembers (members : List (String × Document)) (rest : List Char) :
    NumberEnds (Document.compactMembers members ++ rest) := by
  rcases members with _ | ⟨⟨name, value⟩, members⟩ <;> exact numberEnds_cons (by decide)

mutual

/-- The compact text of a document is a text of it, unless it is a number and more of that
follows. -/
theorem rendered_compact (document : Document) {rest : List Char} (ends : NumberEnds rest) :
    Rendered document (document.compact ++ rest) rest :=
  match document with
  | .null => .null
  | .truth value => rendered_truth value
  | .natural n => rendered_natural n ends
  | .double _ => .double ends
  | .text value => rendered_text value
  | .array [] => .array (.close (gap_refl _))
  | .array (element :: elements) => by
    have here := rendered_compact element (numberEnds_compactElements elements rest)
    rw [← List.append_assoc] at here
    exact .array (.element (.first (gap_refl _)) here (rendered_compactElements elements))
  | .object [] => .object (.close (gap_refl _))
  | .object ((name, value) :: members) => by
    have here := rendered_compact value (numberEnds_compactMembers members rest)
    have inside := rendered_member name (.first (gap_refl _)) (gap_refl _) here
      (rendered_compactMembers members)
    simp only [Document.compact, Document.quotedText, List.cons_append, List.append_assoc,
      List.nil_append] at inside ⊢
    exact .object inside

theorem rendered_compactElements (elements : List Document) {rest : List Char} :
    RenderedElements false elements (Document.compactElements elements ++ rest) rest :=
  match elements with
  | [] => .close (gap_refl _)
  | element :: elements => by
    have here := rendered_compact element (numberEnds_compactElements elements rest)
    rw [← List.append_assoc] at here
    exact .element (.later (gap_refl _) (gap_refl _)) here (rendered_compactElements elements)

theorem rendered_compactMembers (members : List (String × Document)) {rest : List Char} :
    RenderedMembers false members (Document.compactMembers members ++ rest) rest :=
  match members with
  | [] => .close (gap_refl _)
  | (name, value) :: members => by
    have here := rendered_compact value (numberEnds_compactMembers members rest)
    have inside := rendered_member name (.later (gap_refl _) (gap_refl _)) (gap_refl _) here
      (rendered_compactMembers members)
    simp only [Document.compactMembers, Document.quotedText, List.cons_append, List.append_assoc,
      List.nil_append] at inside ⊢
    exact inside

end

theorem numberEnds_prettyElements (depth : Nat) (elements : List Document) (rest : List Char) :
    NumberEnds (Document.prettyElements depth elements ++ rest) := by
  cases elements <;> exact numberEnds_cons (by decide)

theorem numberEnds_prettyMembers (depth : Nat) (members : List (String × Document))
    (rest : List Char) : NumberEnds (Document.prettyMembers depth members ++ rest) := by
  rcases members with _ | ⟨⟨name, value⟩, members⟩ <;> exact numberEnds_cons (by decide)

mutual

/-- The text of a document with one element or member per line is a text of it at every depth. -/
theorem rendered_prettyAt (depth : Nat) (document : Document) {rest : List Char}
    (ends : NumberEnds rest) : Rendered document (document.prettyAt depth ++ rest) rest :=
  match document with
  | .null => .null
  | .truth value => rendered_truth value
  | .natural n => rendered_natural n ends
  | .double _ => .double ends
  | .text value => rendered_text value
  | .array [] => .array (.close (gap_refl _))
  | .array (element :: elements) => by
    have here := rendered_prettyAt (depth + 1) element
      (numberEnds_prettyElements depth elements rest)
    have inside := RenderedElements.element (.first (gap_lineAt (depth + 1) _)) here
      (rendered_prettyElements depth elements)
    simp only [Document.prettyAt, List.cons_append, List.append_assoc] at inside ⊢
    exact .array inside
  | .object [] => .object (.close (gap_refl _))
  | .object ((name, value) :: members) => by
    have here := rendered_prettyAt (depth + 1) value (numberEnds_prettyMembers depth members rest)
    have inside := rendered_member name (.first (gap_lineAt (depth + 1) _))
      (gap_space _) here (rendered_prettyMembers depth members)
    simp only [Document.prettyAt, Document.quotedText, List.cons_append, List.append_assoc,
      List.nil_append] at inside ⊢
    exact .object inside

theorem rendered_prettyElements (depth : Nat) (elements : List Document) {rest : List Char} :
    RenderedElements false elements (Document.prettyElements depth elements ++ rest) rest :=
  match elements with
  | [] => by
    have gap := gap_lineAt depth (']' :: rest)
    rw [List.append_cons] at gap
    exact .close gap
  | element :: elements => by
    have here := rendered_prettyAt (depth + 1) element
      (numberEnds_prettyElements depth elements rest)
    have inside := RenderedElements.element (.later (gap_refl _) (gap_lineAt (depth + 1) _)) here
      (rendered_prettyElements depth elements)
    simp only [Document.prettyElements, List.cons_append, List.append_assoc] at inside ⊢
    exact inside

theorem rendered_prettyMembers (depth : Nat) (members : List (String × Document))
    {rest : List Char} :
    RenderedMembers false members (Document.prettyMembers depth members ++ rest) rest :=
  match members with
  | [] => by
    have gap := gap_lineAt depth ('}' :: rest)
    rw [List.append_cons] at gap
    exact .close gap
  | (name, value) :: members => by
    have here := rendered_prettyAt (depth + 1) value (numberEnds_prettyMembers depth members rest)
    have inside := rendered_member name (.later (gap_refl _) (gap_lineAt (depth + 1) _))
      (gap_space _) here (rendered_prettyMembers depth members)
    simp only [Document.prettyMembers, Document.quotedText, List.cons_append, List.append_assoc,
      List.nil_append] at inside ⊢
    exact inside

end

end ForeignEval.Json

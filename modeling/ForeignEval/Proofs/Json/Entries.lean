import ForeignEval.Proofs.Json.Rendering
import ForeignEval.Proofs.Json.Typed

/-!
# Objects among whose members others stand

A structure is read from an object that holds its members in some order and any well-formed values
under other names in between. The others are passed, whatever they are and however often a name
occurs, so that what is read is made of the known members alone.

* **Grammar** — `Entries`: the members of an object, of which only some are known; `isObject_render`
  and `isObject_pretty` for the texts that are written.
* **Values** — `ReadsEvery`: what a reader makes of all texts of a document, for numbers, optional
  texts and lists.
* **Reading** — `Shape.Learns`: what one more known member makes of what has been read;
  `Shape.Learns.typed`, by induction on the members; `Shape.Learns.readDocument`.
-/

namespace ForeignEval.Json

/-! ## Grammar -/

/-- The members of an object up to its end, and what follows: those of the list in their order, and
among them others, whose names are not of the known ones. -/
inductive Entries (known : List String) :
    (first : Bool) → List (String × Document) → List Char → List Char → Prop
  | close {first : Bool} {s rest : List Char} (gap : Gap s ('}' :: rest)) :
      Entries known first [] s rest
  | member {first : Bool} {key : String} {value : Document} {members : List (String × Document)}
      {s quoted named colon valued after rest : List Char} (isKnown : key ∈ known)
      (opens : OpensKey first s quoted) (name : Spelled key.toList quoted named)
      (gap : Gap named (':' :: colon)) (gap' : Gap colon valued)
      (here : Rendered value valued after) (others : Entries known false members after rest) :
      Entries known first ((key, value) :: members) s rest
  | other {first : Bool} {key : String} {members : List (String × Document)}
      {s quoted named colon valued after rest : List Char} (unknown : key ∉ known)
      (opens : OpensKey first s quoted) (name : Spelled key.toList quoted named)
      (gap : Gap named (':' :: colon)) (gap' : Gap colon valued)
      (here : Wellformed valued after) (others : Entries known false members after rest) :
      Entries known first members s rest

/-- A text of an object that holds these members in their order, among others of other names. -/
def IsObject (known : List String) (members : List (String × Document)) (text : String) : Prop :=
  ∃ inside rest, Gap text.toList ('{' :: inside) ∧ Entries known true members inside rest ∧
    Gap rest []

variable {known : List String} {members : List (String × Document)} {first : Bool}
  {s t rest : List Char}

/-- In a text of an object, the known members stand in their order among the others. -/
theorem entries_of_rendered (rendered : RenderedMembers first members s rest) :
    Entries known first (members.filter fun member => member.1 ∈ known) s rest := by
  induction members generalizing first s with
  | nil =>
    cases rendered with
    | close gap => exact .close gap
  | cons member members ih =>
    cases rendered with
    | @member _ key value _ _ _ _ _ _ _ _ opens name gap gap' here others =>
      by_cases isKnown : key ∈ known
      · rw [List.filter_cons_of_pos (by exact decide_eq_true isKnown)]
        exact .member isKnown opens name gap gap' here (ih others)
      · rw [List.filter_cons_of_neg (by simpa using isKnown)]
        exact .other isKnown opens name gap gap' (wellformed_of_rendered here) (ih others)

theorem isObject_of_rendered {document : List Char} (gap : Gap document s)
    (rendered : Rendered (.object members) s rest) (gap' : Gap rest []) :
    IsObject known (members.filter fun member => member.1 ∈ known) (String.ofList document) := by
  cases rendered with
  | object inside =>
    refine ⟨_, _, ?_, entries_of_rendered inside, gap'⟩
    rw [String.toList_ofList]
    exact gap

theorem numberEnds_nil : NumberEnds [] := fun _ _ same => by cases same

/-- The compact text of an object holds its members. -/
theorem isObject_render (members : List (String × Document)) :
    IsObject known (members.filter fun member => member.1 ∈ known) (Document.object members).render := by
  have rendered := rendered_compact (.object members) numberEnds_nil
  rw [List.append_nil] at rendered
  exact isObject_of_rendered (gap_refl _) rendered (gap_refl _)

/-- So does the text with one member per line. -/
theorem isObject_pretty (members : List (String × Document)) :
    IsObject known (members.filter fun member => member.1 ∈ known) (Document.object members).pretty := by
  have rendered := rendered_prettyAt 0 (.object members) numberEnds_nil
  rw [List.append_nil] at rendered
  exact isObject_of_rendered (gap_refl _) rendered (gap_refl _)

/-! ## Values -/

/-- A reader takes every text of a document that has a value for that value. -/
def ReadsEvery {α : Type} (read : Reader α) (value? : Document → Option α) : Prop :=
  ∀ document value, value? document = some value →
    ∀ s t rest, Gap s t → Rendered document t rest → read s = .ok (value, rest)

/-- The number of 64 bits that a document is. -/
def Document.size? : Document → Option Nat
  | .natural n => if n < UInt64.size then some n else none
  | _ => none

/-- The text that a document is, or that it is none. -/
def Document.optionalText? : Document → Option (Option String)
  | .null => some none
  | .text value => some (some value)
  | _ => none

theorem optionalText?_ofOption (text : Option String) :
    (Document.ofOption text).optionalText? = some text := by
  cases text <;> rfl

theorem readsEvery_size : ReadsEvery readSize Document.size? := by
  intro document n isSize s t rest gap rendered
  cases rendered <;> try cases isSize
  case natural k ends =>
    have sized : (if k < UInt64.size then some k else none) = some n := isSize
    by_cases small : k < UInt64.size
    · rw [if_pos small] at sized
      obtain rfl := Option.some.inj sized
      have number : readAnyNumber "usize" s = .ok (.natural k, rest) := by
        rw [readAnyNumber_toDigits gap, readNumber_of_lt ends small]
      unfold readSize readNatural
      rw [number]
      exact if_pos small
    · rw [if_neg small] at sized
      cases sized

theorem readsEvery_optionalText : ReadsEvery (readOption readText) Document.optionalText? := by
  intro document text isText s t rest gap rendered
  cases rendered <;> try cases isText
  case null =>
    unfold readOption
    rw [skipSpace_of_gap gap (by decide)]
    rfl
  case text value u spelled =>
    have string : readText ('"' :: u) = .ok (value, rest) := by
      unfold readText
      rw [skipSpace_of_gap (gap_refl _) (by decide)]
      exact readString_of_spelled spelled
    unfold readOption
    rw [skipSpace_of_gap gap (by decide)]
    show (readText ('"' :: u) >>= fun found => pure (some found.1, found.2)) = _
    rw [string]
    rfl

theorem nextElement_of_opensElement (opens : OpensElement first s t) (value : Wellformed t rest) :
    nextElement first s = .ok (true, t) := by
  obtain ⟨c, others, rfl, visible, noEnd, -⟩ := value.exists_cons
  cases opens with
  | first gap =>
    unfold nextElement
    rw [skipSpace_of_gap gap visible]
    split <;> simp_all
  | later comma gap =>
    have element := skipSpace_of_gap gap visible
    unfold nextElement
    rw [skipSpace_of_gap comma (by decide)]
    simp [element, noEnd]

/-- The elements of an array are read one after the other. -/
theorem readElements_of_rendered {α : Type} {read : Reader α} {value? : Document → Option α}
    (reads : ReadsEvery read value?) {elements : List Document} {values : List α} {budget : Nat}
    (rendered : RenderedElements first elements s rest)
    (told : elements.mapM value? = some values) (enough : s.length < budget) :
    readElements read budget first s = .ok (values, rest) := by
  induction elements generalizing first s values budget with
  | nil =>
    obtain ⟨budget, rfl⟩ := Nat.exists_eq_add_one_of_ne_zero (Nat.ne_zero_of_lt enough)
    cases rendered with
    | close gap =>
      obtain rfl := Option.some.inj told
      have last : nextElement first s = .ok (false, ']' :: rest) := by
        unfold nextElement
        rw [skipSpace_of_gap gap (by decide)]
        rfl
      unfold readElements
      rw [last]
      show (endOfList (']' :: rest) >>= fun rest => pure ([], rest)) = _
      unfold endOfList
      rw [skipSpace_of_gap (gap_refl _) (by decide)]
      rfl
  | cons document elements ih =>
    obtain ⟨budget, rfl⟩ := Nat.exists_eq_add_one_of_ne_zero (Nat.ne_zero_of_lt enough)
    rw [List.mapM_cons] at told
    obtain ⟨value, one, told⟩ := Option.bind_eq_some_iff.1 told
    obtain ⟨others, more, told⟩ := Option.bind_eq_some_iff.1 told
    obtain rfl := Option.some.inj told
    cases rendered with
    | @element _ _ _ _ valued after _ opens here rest' =>
      have shorter := length_le_of_opensElement opens
      have passed := length_lt_of_wellformed (wellformed_of_rendered here)
      unfold readElements
      rw [nextElement_of_opensElement opens (wellformed_of_rendered here)]
      show (read valued >>= fun found => readElements read budget false found.2 >>= fun more =>
        pure (found.1 :: more.1, more.2)) = _
      rw [reads document value one _ _ _ (gap_refl _) here]
      show (readElements read budget false after >>= fun more => pure (value :: more.1, more.2)) = _
      rw [ih rest' more (by omega)]
      rfl

/-- The list that an array is, if all its elements have values. -/
def Document.list? {α : Type} (value? : Document → Option α) : Document → Option (List α)
  | .array elements => elements.mapM value?
  | _ => none

theorem ReadsEvery.list {α : Type} {read : Reader α} {value? : Document → Option α}
    (reads : ReadsEvery read value?) : ReadsEvery (readList read) (Document.list? value?) := by
  intro document values told s t rest gap rendered
  cases rendered <;> try cases told
  case array elements inside rendered =>
    unfold readList
    rw [skipSpace_of_gap gap (by decide)]
    exact readElements_of_rendered reads rendered told (Nat.lt_succ_self _)

/-- A reader that makes something of what another reads. -/
theorem ReadsEvery.put {α σ : Type} {read : Reader α} {value? : Document → Option α}
    (reads : ReadsEvery read value?) (put : α → σ) :
    ReadsEvery (fun s => do
      let (value, rest) ← read s
      return (put value, rest)) (fun document => (value? document).map put) := by
  intro document parts told s t rest gap rendered
  obtain ⟨value, found, rfl⟩ := Option.map_eq_some_iff.1 told
  show (read s >>= fun found => pure (put found.1, found.2)) = _
  rw [reads document value found s t rest gap rendered]
  rfl

/-! ## Reading -/

namespace Shape

variable {σ α : Type} {shape : Shape σ α} {makes : List (σ → Document → Option σ)}

/-- What is made of one more member, by what belongs to its name: nothing if it is none of the
structure or has been read before. -/
def next (shape : Shape σ α) (makes : List (σ → Document → Option σ)) (parts : σ) (key : String)
    (document : Document) : Option σ :=
  match (shape.members.zip makes).find? (·.1.name == key) with
  | some (member, make) => if member.isSet parts then none else make parts document
  | none => none

/-- What is made of the members, each in its place, is what reading them makes of what has been
read. -/
def Learns (shape : Shape σ α) (makes : List (σ → Document → Option σ)) : Prop :=
  List.Forall₂ (fun member make => ∀ parts, ReadsEvery (member.read parts) (make parts))
    shape.members makes

theorem find?_zip {members : List (Member σ)}
    (reads : List.Forall₂ (fun member make => ∀ parts, ReadsEvery (member.read parts) (make parts))
      members makes) {key : String} {member : Member σ} {make : σ → Document → Option σ}
    (found : (members.zip makes).find? (·.1.name == key) = some (member, make)) :
    members.find? (·.name == key) = some member ∧
      ∀ parts, ReadsEvery (member.read parts) (make parts) := by
  induction reads with
  | nil => cases found
  | @cons first here members makes read _ ih =>
    rw [List.zip_cons_cons, List.find?_cons] at found
    rw [List.find?_cons]
    cases same : first.name == key with
    | true =>
      simp only [same, Option.some.injEq, Prod.mk.injEq] at found
      obtain ⟨rfl, rfl⟩ := found
      exact ⟨rfl, read⟩
    | false =>
      simp only [same] at found
      exact ih found

/-- What something is made of is a member that has not been read, and reading it makes the same. -/
theorem Learns.exists_member (learns : shape.Learns makes) {parts parts' : σ} {key : String}
    {document : Document} (told : shape.next makes parts key document = some parts') :
    ∃ member, shape.members.find? (·.name == key) = some member ∧ member.isSet parts = false ∧
      ∀ s t rest, Gap s t → Rendered document t rest → member.read parts s = .ok (parts', rest) := by
  unfold next at told
  cases found : (shape.members.zip makes).find? (·.1.name == key) with
  | none =>
    rw [found] at told
    cases told
  | some both =>
    obtain ⟨member, make⟩ := both
    obtain ⟨here, reads⟩ := find?_zip learns found
    rw [found] at told
    dsimp only at told
    cases unset : member.isSet parts with
    | true =>
      rw [unset, if_pos rfl] at told
      cases told
    | false =>
      rw [unset, if_neg Bool.false_ne_true] at told
      exact ⟨member, here, unset, reads parts document parts' told⟩

/-- An object whose known members have values, one after the other, is one of the right kinds. -/
theorem Learns.typed (learns : shape.Learns makes) {parts last : σ}
    (entries : Entries shape.names first members s rest)
    (told : members.foldlM (fun parts member => shape.next makes parts member.1 member.2) parts =
      some last) : shape.Typed first parts last s rest := by
  induction entries generalizing parts with
  | close gap =>
    obtain rfl := Option.some.inj told
    exact .close gap
  | member _ opens name gap gap' here _ ih =>
    rw [List.foldlM_cons, Option.bind_eq_bind, Option.bind_eq_some_iff] at told
    obtain ⟨parts', one, told⟩ := told
    obtain ⟨member, found, unset, reads⟩ := learns.exists_member one
    exact .member opens name gap gap' (wellformed_of_rendered here) found unset
      (reads _ _ _ gap' here) (ih told)
  | other unknown opens name gap gap' here _ ih =>
    exact .other unknown opens name gap gap' here (ih told)

/-- A structure is read from an object that holds its members, in the order in which they stand. -/
theorem Learns.readDocument (learns : shape.Learns makes) {parts : σ} {text : String}
    (isObject : IsObject shape.names members text)
    (told : members.foldlM (fun parts member => shape.next makes parts member.1 member.2)
      shape.start = some parts)
    (complete : shape.missing? parts = none) :
    Json.readDocument shape.read text = shape.build parts := by
  obtain ⟨inside, rest, gap, entries, last⟩ := isObject
  exact IsTyped.readDocument ⟨⟨inside, rest, gap, learns.typed entries told, last⟩, complete⟩

end Shape

end ForeignEval.Json

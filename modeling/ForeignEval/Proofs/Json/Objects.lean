import ForeignEval.Proofs.Json.Wellformed

/-!
# Reading the members of an object

A structure is read from an object member by member. If what is kept of a member does not depend on
the members around it, what is read in the end is a function of the members alone, and every member
has to fit for anything to be read.

* **Members** — `Shape.Follows`: what reading one more member does to what has been read.
* **Objects** — `Shape.Follows.readMembers`, by induction on the members;
  `Shape.Follows.reads_object`.
* **Documents** — `readDocument_of_isText`.
-/

namespace ForeignEval

theorem toOption_bind {ε α β : Type} (first : Except ε α) (next : α → Except ε β) :
    (first >>= next).toOption = first.toOption >>= fun value => (next value).toOption := by
  cases first with
  | error e => rfl
  | ok value => rfl

namespace Json

variable {s t rest : List Char}

/-! ## Lengths -/

mutual

/-- What follows a document is no longer than the text. -/
theorem length_le_of_written {document : Document} {s rest : List Char} :
    Written document s rest → rest.length ≤ s.length
  | .truth => by
    rw [List.length_append]
    omega
  | .natural _ => by
    rw [List.length_append]
    omega
  | .object inside => by
    have shorter := length_le_of_writtenMembers inside
    rw [List.length_cons]
    omega

/-- What follows the members is no longer than the text. -/
theorem length_le_of_writtenMembers {first : Bool} {members : List (String × Document)}
    {s rest : List Char} : WrittenMembers first members s rest → rest.length ≤ s.length
  | .close gap => by
    have shorter := length_le_of_gap gap
    rw [List.length_cons] at shorter
    omega
  | .member opens name gap gap' here others => by
    have opened := length_lt_of_opensKey opens
    have named := length_lt_of_spelled (spelled_of_quoted name)
    have colon := length_le_of_gap gap
    have valued := length_le_of_gap gap'
    have after := length_le_of_written here
    have shorter := length_le_of_writtenMembers others
    rw [List.length_cons] at colon
    omega

end

/-! ## Members -/

namespace Shape

variable {σ α : Type} {shape : Shape σ α} {first : Bool}

theorem nextKey_of_opensKey (opens : OpensKey first s t) : nextKey first s = .ok (some t) := by
  cases opens with
  | first quote =>
    unfold nextKey
    rw [skipSpace_of_gap quote (by decide)]
    rfl
  | later comma quote =>
    have key := skipSpace_of_gap quote (by decide)
    unfold nextKey
    rw [skipSpace_of_gap comma (by decide)]
    simp [key]

theorem nextKey_of_close (gap : Gap s ('}' :: rest)) : nextKey first s = .ok none := by
  unfold nextKey
  rw [skipSpace_of_gap gap (by decide)]
  rfl

/-- An object that ends is read. -/
theorem readMembers_of_close {budget : Nat} {parts : σ} (gap : Gap s ('}' :: rest)) :
    shape.readMembers (budget + 1) first parts s = .ok (parts, rest) := by
  rw [readMembers, nextKey_of_close gap, skipSpace_of_gap gap (by decide)]
  rfl

/-- The next member of an object is read by its key, and then the others. -/
theorem readMembers_of_spelled {budget : Nat} {parts : σ} {key : String}
    {quoted named : List Char} (opens : OpensKey first s quoted)
    (name : Spelled key.toList quoted named) :
    shape.readMembers (budget + 1) first parts s =
      shape.readMember key parts named >>= fun found =>
        shape.readMembers budget false found.1 found.2 := by
  rw [readMembers, nextKey_of_opensKey opens]
  show (readString quoted >>= fun found => shape.readMember found.1 parts found.2 >>= fun found =>
    shape.readMembers budget false found.1 found.2) = _
  rw [readString_of_spelled name]
  rfl

/-- What is kept of the members that have been read, the last one first, is a function of them: a
member that is taken and has not been read is read onto it if it fits, and refused otherwise. -/
structure Follows (shape : Shape σ α) (state : List (String × Document) → σ)
    (Takes : String → Document → Prop) (fits : String → Document → Bool) : Prop where
  start : state [] = shape.start
  step : ∀ read key value, Takes key value → key ∉ read.map (·.1) →
    ∃ member, shape.members.find? (·.name == key) = some member ∧
      member.isSet (state read) = false ∧
      Reads (member.read (state read)) value
        (if fits key value then some (state ((key, value) :: read)) else none)

variable {state : List (String × Document) → σ} {Takes : String → Document → Prop}
  {fits : String → Document → Bool} {members read : List (String × Document)}

theorem Follows.readMember (follows : shape.Follows state Takes fits) {key : String}
    {value : Document} {named colon valued after : List Char} (takes : Takes key value)
    (fresh : key ∉ read.map (·.1)) (gap : Gap named (':' :: colon)) (gap' : Gap colon valued)
    (written : Written value valued after) :
    (shape.readMember key (state read) named).toOption =
      if fits key value then some (state ((key, value) :: read), after) else none := by
  obtain ⟨member, found, unset, reads⟩ := follows.step read key value takes fresh
  unfold Shape.readMember
  rw [found]
  dsimp only
  rw [unset, if_neg Bool.false_ne_true, skipColon_of_gap gap]
  show (member.read (state read) colon).toOption = _
  rw [reads colon valued after gap' written]
  cases fits key value <;> rfl

/-- Members are read one after the other, if all of them fit. -/
theorem Follows.readMembers (follows : shape.Follows state Takes fits) {budget : Nat}
    (written : WrittenMembers first members s rest)
    (takes : ∀ member ∈ members, Takes member.1 member.2)
    (distinct : (members.map (·.1)).Nodup)
    (fresh : ∀ member ∈ members, member.1 ∉ read.map (·.1)) (enough : s.length < budget) :
    (shape.readMembers budget first (state read) s).toOption =
      if members.all fun member => fits member.1 member.2 then
        some (state (members.reverse ++ read), rest)
      else none := by
  induction members generalizing first s read budget with
  | nil =>
    obtain ⟨budget, rfl⟩ := Nat.exists_eq_add_one_of_ne_zero (Nat.ne_zero_of_lt enough)
    cases written with
    | close gap =>
      rw [readMembers_of_close gap]
      rfl
  | cons member members ih =>
    obtain ⟨budget, rfl⟩ := Nat.exists_eq_add_one_of_ne_zero (Nat.ne_zero_of_lt enough)
    cases written with
    | @member _ key value _ _ quoted named colon valued after _ opens name gap gap' here others =>
      obtain ⟨taken, takes⟩ := List.forall_mem_cons.1 takes
      obtain ⟨new, fresh⟩ := List.forall_mem_cons.1 fresh
      rw [List.map_cons, List.nodup_cons] at distinct
      obtain ⟨apart, distinct⟩ := distinct
      have here' := follows.readMember taken new gap gap' here
      have later : ∀ member ∈ members, member.1 ∉ ((key, value) :: read).map (·.1) := by
        intro member mem
        rw [List.map_cons, List.mem_cons]
        rintro (same | old)
        · exact apart (same ▸ List.mem_map_of_mem mem)
        · exact fresh member mem old
      have shorter : after.length < s.length := by
        have opened := length_lt_of_opensKey opens
        have closed := length_lt_of_spelled (spelled_of_quoted name)
        have before := length_le_of_gap gap
        have behind := length_le_of_gap gap'
        have passed := length_le_of_written here
        rw [List.length_cons] at before
        omega
      rw [readMembers_of_spelled opens (spelled_of_quoted name)]
      rw [toOption_bind, here', List.all_cons]
      cases fits key value with
      | false => rfl
      | true =>
        show (shape.readMembers budget false (state ((key, value) :: read)) after).toOption = _
        rw [ih others takes distinct later (by omega), List.reverse_cons, List.append_assoc]
        rfl

theorem missing?_eq_none (optional : ∀ member ∈ shape.members, member.inObject = false)
    (parts : σ) : shape.missing? parts = none := by
  have none : shape.members.find? (fun member => member.inObject && !member.isSet parts) =
      none := by
    rw [List.find?_eq_none]
    intro member mem
    rw [optional member mem, Bool.false_and]
    exact Bool.false_ne_true
  unfold missing?
  rw [none]
  rfl

/-- An object is read by its members, none of which has to be there. -/
theorem read_eq_of_object (optional : ∀ member ∈ shape.members, member.inObject = false)
    (gap : Gap s ('{' :: t)) :
    shape.read s = shape.readMembers (t.length + 1) true shape.start t >>=
      fun found => do return (← shape.build found.1, found.2) := by
  unfold Shape.read
  rw [skipSpace_of_gap gap (by decide)]
  refine congrArg (shape.readMembers (t.length + 1) true shape.start t >>= ·)
    (funext fun found => ?_)
  obtain ⟨parts, rest⟩ := found
  dsimp only
  rw [missing?_eq_none optional]

/-- A structure is read from an object if all its members fit and the structure can be made. -/
theorem Follows.reads_object (follows : shape.Follows state Takes fits)
    (optional : ∀ member ∈ shape.members, member.inObject = false)
    (takes : ∀ member ∈ members, Takes member.1 member.2)
    (distinct : (members.map (·.1)).Nodup) :
    Reads shape.read (.object members)
      (if members.all fun member => fits member.1 member.2 then
        (shape.build (state members.reverse)).toOption
      else none) := by
  intro s t rest gap written
  cases written with
  | @object _ inner _ inside =>
    have fresh : ∀ member ∈ members, member.1 ∉ ([] : List (String × Document)).map (·.1) :=
      fun _ _ => List.not_mem_nil
    have whole := follows.readMembers inside takes distinct fresh (Nat.lt_succ_self inner.length)
    rw [follows.start, List.append_nil] at whole
    rw [read_eq_of_object optional gap, toOption_bind, whole]
    cases members.all fun member => fits member.1 member.2 with
    | false => rfl
    | true =>
      show (do return (← shape.build (state members.reverse), rest) : Except _ _).toOption = _
      cases shape.build (state members.reverse) <;> rfl

end Shape

/-! ## Documents -/

/-- A text of a document is read as what its reader takes the document for. -/
theorem readDocument_of_isText {α : Type} {read : Reader α} {document : Document}
    {value : Option α} {text : String} (reads : Reads read document value)
    (isText : document.IsText text) : (readDocument read text).toOption = value := by
  obtain ⟨s, rest, gap, written, last⟩ := isText
  unfold readDocument
  rw [toOption_bind, reads _ _ _ gap written]
  cases value with
  | none => rfl
  | some value =>
    show (if (skipSpace rest).isEmpty then pure value
      else Except.error ReadError.trailingCharacters).toOption = _
    rw [skipSpace_of_blank last]
    rfl

end Json

end ForeignEval

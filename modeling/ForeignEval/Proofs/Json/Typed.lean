import ForeignEval.Proofs.Json.Objects

/-!
# Objects of the right kinds

A structure is read from every object in which each of its members stands at most once, with a value
that the member's own reader takes, and in which all other names have well-formed values. What is
then made of the members is another matter: only building looks at them together.

* **Grammar** — `Shape.Typed`, and `Shape.IsTyped` for whole texts.
* **Reading** — `Shape.Typed.readMembers`, by induction on the members; `Shape.IsTyped.readDocument`.
* **Building** — `Shape.rebuild` makes something else of the same members; `Shape.read_rebuild`.
-/

namespace ForeignEval.Json.Shape

variable {σ α β : Type} {shape : Shape σ α} {first : Bool} {s t rest : List Char}

/-- The names of the members. -/
def names (shape : Shape σ α) : List String := shape.members.map (·.name)

/-! ## Grammar -/

/-- The members of an object up to its end, from what has been read before them to what has been
read after them, and what follows. Values of the structure's members are taken by their readers. -/
inductive Typed (shape : Shape σ α) : (first : Bool) → σ → σ → List Char → List Char → Prop
  | close {first : Bool} {parts : σ} {s rest : List Char} (gap : Gap s ('}' :: rest)) :
      Typed shape first parts parts s rest
  | member {first : Bool} {key : String} {member : Member σ} {parts parts' last : σ}
      {s quoted named colon valued after rest : List Char}
      (opens : OpensKey first s quoted) (name : Spelled key.toList quoted named)
      (gap : Gap named (':' :: colon)) (gap' : Gap colon valued) (here : Wellformed valued after)
      (found : shape.members.find? (·.name == key) = some member)
      (unset : member.isSet parts = false) (read : member.read parts colon = .ok (parts', after))
      (others : Typed shape false parts' last after rest) : Typed shape first parts last s rest
  | other {first : Bool} {key : String} {parts last : σ}
      {s quoted named colon valued after rest : List Char} (unknown : key ∉ shape.names)
      (opens : OpensKey first s quoted) (name : Spelled key.toList quoted named)
      (gap : Gap named (':' :: colon)) (gap' : Gap colon valued) (here : Wellformed valued after)
      (others : Typed shape false parts last after rest) : Typed shape first parts last s rest

/-- A text of an object whose members, each taken by its reader, are read to these parts, of which
none that an object has to have is missing. -/
def IsTyped (shape : Shape σ α) (parts : σ) (text : String) : Prop :=
  (∃ inside rest, Gap text.toList ('{' :: inside) ∧
    Typed shape true shape.start parts inside rest ∧ Gap rest []) ∧ shape.missing? parts = none

/-! ## Reading -/

theorem length_lt_of_member {characters quoted named colon valued : List Char}
    (opens : OpensKey first s quoted) (name : Spelled characters quoted named)
    (gap : Gap named (':' :: colon)) (gap' : Gap colon valued) (here : Wellformed valued rest) :
    rest.length < s.length := by
  have opened := length_lt_of_opensKey opens
  have closed := length_lt_of_spelled name
  have before := length_le_of_gap gap
  have behind := length_le_of_gap gap'
  have passed := length_lt_of_wellformed here
  rw [List.length_cons] at before
  omega

theorem readMember_of_unknown {key : String} (unknown : key ∉ shape.names) (parts : σ)
    {colon valued : List Char} (gap : Gap s (':' :: colon)) (gap' : Gap colon valued)
    (here : Wellformed valued rest) : shape.readMember key parts s = .ok (parts, rest) := by
  have none : shape.members.find? (·.name == key) = none := by
    rw [List.find?_eq_none]
    intro member mem same
    exact unknown (List.mem_map.2 ⟨member, mem, eq_of_beq same⟩)
  unfold readMember
  rw [none]
  dsimp only
  rw [skipColon_of_gap gap]
  show skipValue colon >>= (fun rest => pure (parts, rest)) = _
  rw [skipValue_of_wellformed gap' here]
  rfl

theorem readMember_of_found {key : String} {member : Member σ} {parts : σ} {colon : List Char}
    (found : shape.members.find? (·.name == key) = some member)
    (unset : member.isSet parts = false) (gap : Gap s (':' :: colon)) :
    shape.readMember key parts s = member.read parts colon := by
  unfold readMember
  rw [found]
  dsimp only
  rw [unset, if_neg Bool.false_ne_true, skipColon_of_gap gap]
  rfl

/-- Members are read one after the other. -/
theorem Typed.readMembers {parts last : σ} {budget : Nat}
    (typed : shape.Typed first parts last s rest) (enough : s.length < budget) :
    shape.readMembers budget first parts s = .ok (last, rest) := by
  obtain ⟨budget, rfl⟩ := Nat.exists_eq_add_one_of_ne_zero (Nat.ne_zero_of_lt enough)
  induction typed generalizing budget with
  | close gap => exact readMembers_of_close gap
  | member opens name gap gap' here found unset read others ih =>
    have shorter := length_lt_of_member opens name gap gap' here
    obtain ⟨budget, rfl⟩ := Nat.exists_eq_add_one_of_ne_zero (n := budget) (by omega)
    rw [readMembers_of_spelled opens name, readMember_of_found found unset gap, read]
    exact ih budget (by omega)
  | other unknown opens name gap gap' here others ih =>
    have shorter := length_lt_of_member opens name gap gap' here
    obtain ⟨budget, rfl⟩ := Nat.exists_eq_add_one_of_ne_zero (n := budget) (by omega)
    rw [readMembers_of_spelled opens name, readMember_of_unknown unknown _ gap gap' here]
    exact ih budget (by omega)

/-- What is read from an object of the right kinds is what is built of its members. -/
theorem IsTyped.readDocument {parts : σ} {text : String} (typed : shape.IsTyped parts text) :
    Json.readDocument shape.read text = shape.build parts := by
  obtain ⟨⟨inside, rest, gap, members, last⟩, complete⟩ := typed
  have read : shape.read text.toList =
      shape.build parts >>= fun value => pure (value, rest) := by
    unfold Shape.read
    rw [skipSpace_of_gap gap (by decide)]
    refine (congrArg (· >>= _) (members.readMembers (Nat.lt_succ_self _))).trans ?_
    dsimp only [bind, Except.bind]
    rw [complete]
  unfold Json.readDocument
  rw [read]
  cases shape.build parts with
  | error e => rfl
  | ok value =>
    show (if (skipSpace rest).isEmpty then pure value
      else Except.error ReadError.trailingCharacters) = _
    rw [skipSpace_of_blank last]
    rfl

/-! ## Building -/

/-- The structure of the same members of which something else is built. -/
def rebuild (shape : Shape σ α) (build : σ → Except ReadError β) : Shape σ β where
  name := shape.name
  members := shape.members
  start := shape.start
  build := build

variable (build : σ → Except ReadError β)

theorem readPositions_rebuild (members : List (Member σ)) (count : Nat) (parts : σ) :
    (shape.rebuild build).readPositions members count parts s =
      shape.readPositions members count parts s := by
  induction members generalizing count parts s with
  | nil => rfl
  | cons member members ih =>
    unfold readPositions
    refine congrArg (nextElement _ s >>= ·) (funext fun next => ?_)
    obtain ⟨more, rest⟩ := next
    cases more with
    | true => exact congrArg (member.read parts rest >>= ·) (funext fun found => ih _ _)
    | false =>
      dsimp only
      rw [ih]
      rfl

theorem readMembers_rebuild (budget : Nat) (parts : σ) :
    (shape.rebuild build).readMembers budget first parts s =
      shape.readMembers budget first parts s := by
  induction budget generalizing first parts s with
  | zero => rfl
  | succ budget ih =>
    unfold readMembers
    refine congrArg (nextKey first s >>= ·) (funext fun next => ?_)
    cases next with
    | none => rfl
    | some quoted =>
      refine congrArg (readString quoted >>= ·) (funext fun named => ?_)
      exact congrArg (shape.readMember named.1 parts named.2 >>= ·) (funext fun found => ih _)

variable {build} {f : α → β} (same : ∀ parts, build parts = (shape.build parts).map f)

theorem map_unexpected (expected : String) :
    (unexpected expected s : Except ReadError (α × List Char)).map (Prod.map f id) =
      unexpected expected s := by
  unfold unexpected
  cases readFound s <;> rfl

include same in
/-- Something else is built of what is read all the same. -/
theorem read_rebuild (s : List Char) :
    (shape.rebuild build).read s = (shape.read s).map (Prod.map f id) := by
  have built : ∀ (parts : σ) (rest : List Char),
      (build parts >>= fun value => pure (value, rest)) =
        (shape.build parts >>= fun value => pure (value, rest)).map (Prod.map f id) := by
    intro parts rest
    rw [same]
    cases shape.build parts <;> rfl
  unfold read
  split
  · rfl
  · rename_i inside _
    rw [readPositions_rebuild]
    change (shape.readPositions shape.members 0 shape.start inside >>= _) = _
    cases shape.readPositions shape.members 0 shape.start inside with
    | error e => rfl
    | ok found =>
      dsimp only [bind, Except.bind]
      cases endOfList found.2 with
      | error e => rfl
      | ok rest => exact built found.1 rest
  · rename_i inside _
    rw [readMembers_rebuild]
    change (shape.readMembers (inside.length + 1) true shape.start inside >>= _) = _
    cases shape.readMembers (inside.length + 1) true shape.start inside with
    | error e => rfl
    | ok found =>
      dsimp only [bind, Except.bind]
      have missing : (shape.rebuild build).missing? found.1 = shape.missing? found.1 := rfl
      rw [missing]
      cases shape.missing? found.1 with
      | some name => rfl
      | none => exact built found.1 found.2
  · exact (map_unexpected _).symm

include same in
theorem readDocument_rebuild (text : String) :
    Json.readDocument (shape.rebuild build).read text = (Json.readDocument shape.read text).map f := by
  unfold Json.readDocument
  rw [read_rebuild same]
  cases shape.read text.toList with
  | error e => rfl
  | ok found =>
    show (if (skipSpace found.2).isEmpty then pure (f found.1)
      else Except.error ReadError.trailingCharacters) = _
    dsimp only [bind, Except.bind]
    cases (skipSpace found.2).isEmpty <;> rfl

end ForeignEval.Json.Shape

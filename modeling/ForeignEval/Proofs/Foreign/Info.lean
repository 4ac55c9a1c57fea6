import ForeignEval.FunctionInfo
import ForeignEval.Proofs.Json.Entries
import ForeignEval.Proofs.Tables

/-!
# Information about a function survives JSON

What a function declares about itself is read back from each of its texts in JSON: with any space
between the parts, with the members in any order, and among well-formed members of other names. So
the texts of different informations differ.

* **Members** — `FunctionInfo.learns`: what is made of one more member;
  `FunctionInfo.foldlM_of_subset`, by induction on the members, and `FunctionInfo.foldlM_members`:
  what is made of all of them, in any order.
* **Texts** — `FunctionInfo.IsText`; `FunctionInfo.readDocument_of_isText`, and
  `FunctionInfo.survives_json` of the texts that are written.
-/

namespace ForeignEval.FunctionInfo

open Json (Document)

/-! ## Members -/

/-- What is made of each member. -/
def makes : List (Parts → Document → Option Parts) := [
  fun parts document => document.size?.map fun n => { parts with input := some n },
  fun parts document => document.size?.map fun n => { parts with output := some n },
  fun parts document => document.optionalText?.map fun text =>
    { parts with description := some text }]

/-- Each member is read as what is made of it. -/
theorem learns : shape.Learns makes :=
  .cons (fun _ => Json.readsEvery_size.put _)
    (.cons (fun _ => Json.readsEvery_size.put _)
      (.cons (fun _ => Json.readsEvery_optionalText.put _) .nil))

/-- The members of an information. -/
def members (info : FunctionInfo) : List (String × Document) := [
  ("input_dimension", .natural info.inputDimension),
  ("output_dimension", .natural info.outputDimension),
  ("description", .ofOption info.description)]

/-- The dimensions are numbers of 64 bits. -/
structure Sized (info : FunctionInfo) : Prop where
  input : info.inputDimension < UInt64.size
  output : info.outputDimension < UInt64.size

/-- What has been read of an information, by its members, the last one first. -/
def Parts.ofMembers (read : List (String × Document)) : Parts where
  input := (read.lookup "input_dimension").bind Document.size?
  output := (read.lookup "output_dimension").bind Document.size?
  description := (read.lookup "description").bind Document.optionalText?

variable {info : FunctionInfo} {read members : List (String × Document)}

theorem size?_input (sized : info.Sized) :
    (Document.natural info.inputDimension).size? = some info.inputDimension :=
  if_pos sized.input

theorem size?_output (sized : info.Sized) :
    (Document.natural info.outputDimension).size? = some info.outputDimension :=
  if_pos sized.output

/-- One more member of the information is put to those that have been read. -/
theorem next_ofMembers (sized : info.Sized) {member : String × Document}
    (mem : member ∈ info.members) (fresh : member.1 ∉ read.map (·.1)) :
    shape.next makes (Parts.ofMembers read) member.1 member.2 =
      some (Parts.ofMembers (member :: read)) := by
  have absent := lookup_eq_none_of_not_mem fresh
  simp only [FunctionInfo.members, List.mem_cons, List.not_mem_nil, or_false] at mem
  rcases mem with rfl | rfl | rfl
  · simp [Json.Shape.next, makes, shape, Parts.ofMembers, absent, List.lookup_cons,
      size?_input sized]
  · simp [Json.Shape.next, makes, shape, Parts.ofMembers, absent, List.lookup_cons,
      size?_output sized]
  · simp [Json.Shape.next, makes, shape, Parts.ofMembers, absent, List.lookup_cons,
      Json.optionalText?_ofOption]

/-- Some members of the information, none of them twice, are put to those that have been read. -/
theorem foldlM_of_subset (sized : info.Sized) (sub : ∀ member ∈ members, member ∈ info.members)
    (distinct : ((members ++ read).map (·.1)).Nodup) :
    members.foldlM (fun parts member => shape.next makes parts member.1 member.2)
        (Parts.ofMembers read) =
      some (Parts.ofMembers (members.reverse ++ read)) := by
  induction members generalizing read with
  | nil => rfl
  | cons member members ih =>
    obtain ⟨here, others⟩ := List.forall_mem_cons.1 sub
    have moved : (members ++ member :: read).Perm (member :: members ++ read) :=
      List.perm_middle
    have fresh : member.1 ∉ read.map (·.1) := by
      rw [List.cons_append, List.map_cons, List.nodup_cons, List.map_append] at distinct
      exact fun mem => distinct.1 (List.mem_append_right _ mem)
    rw [List.foldlM_cons, next_ofMembers sized here fresh]
    show members.foldlM _ (Parts.ofMembers (member :: read)) = _
    rw [ih others ((moved.map _).nodup_iff.2 distinct), List.reverse_cons, List.append_assoc]
    rfl

/-- The members make the information in whichever order they stand. -/
theorem foldlM_members (sized : info.Sized) (order : members.Perm info.members) :
    members.foldlM (fun parts member => shape.next makes parts member.1 member.2) shape.start =
      some ⟨some info.inputDimension, some info.outputDimension, some info.description⟩ := by
  have names : (info.members.map (·.1)).Nodup := by simp [FunctionInfo.members]
  have distinct : (members.map (·.1)).Nodup := (order.map _).nodup_iff.2 names
  have found (key : String) : members.reverse.lookup key = info.members.lookup key := by
    rw [lookup_reverse distinct]
    refine lookup_eq_of_mem_iff distinct fun value => ?_
    rw [order.mem_iff]
    exact ⟨lookup_of_mem names, mem_of_lookup⟩
  have read : members.foldlM (fun parts member => shape.next makes parts member.1 member.2)
      (Parts.ofMembers []) = some (Parts.ofMembers (members.reverse ++ [])) :=
    foldlM_of_subset sized (fun member mem => order.subset mem) (by rwa [List.append_nil])
  rw [List.append_nil] at read
  refine Eq.trans read (congrArg some ?_)
  unfold Parts.ofMembers
  rw [found, found, found]
  simp [FunctionInfo.members, List.lookup_cons, size?_input sized, size?_output sized,
    Json.optionalText?_ofOption]

/-! ## Texts -/

/-- A text of an information: an object that holds its members, in any order and among others. -/
def IsText (info : FunctionInfo) (text : String) : Prop :=
  ∃ members, members.Perm info.members ∧ Json.IsObject shape.names members text

/-- Every text of an information is read as the information. -/
theorem readDocument_of_isText (sized : info.Sized) {text : String} (isText : info.IsText text) :
    Json.readDocument reader text = .ok info := by
  obtain ⟨members, order, isObject⟩ := isText
  exact learns.readDocument isObject (foldlM_members sized order) rfl

/-- An object among whose members are those of an information is written as a text of it. -/
theorem isText_of_members {members : List (String × Document)}
    (order : (members.filter fun member => member.1 ∈ shape.names).Perm info.members) :
    info.IsText (Document.object members).render ∧ info.IsText (Document.object members).pretty :=
  ⟨⟨_, order, Json.isObject_render members⟩, ⟨_, order, Json.isObject_pretty members⟩⟩

theorem isText_document (info : FunctionInfo) :
    info.IsText info.document.render ∧ info.IsText info.document.pretty :=
  isText_of_members (List.Perm.refl _)

/-- An information is read back from each of its texts, be they written compactly or over several
lines, with the members in any order and among others. So no text of it is one of another, and the
texts that are written for the two differ. -/
theorem survives_json (info : FunctionInfo) (sized : info.Sized) :
    (∀ text, info.IsText text → Json.readDocument reader text = .ok info) ∧
    (∀ members : List (String × Document),
      (members.filter fun member => member.1 ∈ shape.names).Perm info.members →
      info.IsText (Document.object members).render ∧
        info.IsText (Document.object members).pretty) ∧
    (info.IsText info.document.render ∧ info.IsText info.document.pretty) ∧
    ∀ other : FunctionInfo, other.Sized → other ≠ info →
      (∀ text, info.IsText text → ¬ other.IsText text) ∧
      other.document.render ≠ info.document.render ∧
      other.document.pretty ≠ info.document.pretty ∧
      other.document.render ≠ info.document.pretty := by
  refine ⟨fun text isText => readDocument_of_isText sized isText,
    fun members order => isText_of_members order, isText_document info, ?_⟩
  intro other sized' differs
  have apart : ∀ text, info.IsText text → ¬ other.IsText text := by
    intro text isText isText'
    have read := readDocument_of_isText sized isText
    rw [readDocument_of_isText sized' isText'] at read
    exact differs (Except.ok.inj read)
  have texts := isText_document info
  have texts' := isText_document other
  refine ⟨apart, ?_, ?_, ?_⟩
  · intro same
    exact apart _ texts.1 (same ▸ texts'.1)
  · intro same
    exact apart _ texts.2 (same ▸ texts'.2)
  · intro same
    exact apart _ texts.2 (same ▸ texts'.1)

/-- The members of a sum in reverse, with one more among them, on lines of their own. -/
theorem survives_json_reversed :
    Json.readDocument reader (Document.object [
      ("description", .text "Sum of \"both\" values"),
      ("unit", .array [.null, .object []]),
      ("output_dimension", .natural 1),
      ("input_dimension", .natural 2)]).pretty =
    .ok ⟨2, 1, some "Sum of \"both\" values"⟩ := by
  let info : FunctionInfo := ⟨2, 1, some "Sum of \"both\" values"⟩
  have survives := survives_json info ⟨by decide, by decide⟩
  refine survives.1 _ (survives.2.1 _ ?_).2
  exact List.reverse_perm info.members

end ForeignEval.FunctionInfo

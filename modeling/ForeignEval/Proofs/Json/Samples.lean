import ForeignEval.Proofs.Json.Entries
import ForeignEval.Proofs.Json.Scaling
import ForeignEval.Sample.Json

/-!
# Samples that are read back

A sample is read back from its text in JSON with its shape and its description, and with values that
differ from those that were written by two magnitudes at most. Values whose texts are short are the
same again, bit for bit; others need not be.

* **Values** — `Json.reread`, and `Json.readsEvery_double`.
* **Samples** — `Sample.learns` and `Sample.readDocument_render`.
-/

namespace ForeignEval

/-! ## Values -/

namespace Json

/-- The double that is read back from the text of a finite one. -/
def reread (x : Double) : Double :=
  match scaled (!x.isNegative) (spelledDecimal x).significand (spelledDecimal x).exponent with
  | .ok y => y
  | .error _ => x

variable {x : Double}

theorem scaled_reread (finite : x.isFinite = true) :
    scaled (!x.isNegative) (spelledDecimal x).significand (spelledDecimal x).exponent =
      .ok (reread x) ∧ Reread x (reread x) := by
  obtain ⟨y, same, close⟩ := scaled_spelledDecimal finite
  have found : reread x = y := by
    unfold reread
    rw [same]
  rw [found]
  exact ⟨same, close⟩

/-- What is read of a double, if it is finite. -/
def Document.double? : Document → Option Double
  | .double x => if x.isFinite then some (reread x) else none
  | _ => none

theorem readsEvery_double : ReadsEvery readDouble Document.double? := by
  intro document y told s t rest gap rendered
  cases rendered <;> try cases told
  case double x ends =>
    cases finite : x.isFinite with
    | false => simp [Document.double?, finite] at told
    | true =>
      have found : Document.double? (.double x) = some (reread x) := by
        simp [Document.double?, finite]
      rw [found] at told
      obtain rfl := Option.some.inj told
      rw [readDouble_of_text finite ends gap, (scaled_reread finite).1]
      rfl

/-- The values of a list are read one by one. -/
theorem mapM_double? {values : List Double} (finite : ∀ x ∈ values, x.isFinite = true) :
    (values.map Document.double).mapM Document.double? = some (values.map reread) := by
  induction values with
  | nil => rfl
  | cons x values ih =>
    have found : Document.double? (.double x) = some (reread x) := by
      simp [Document.double?, finite x List.mem_cons_self]
    rw [List.map_cons, List.mapM_cons, found, ih fun y mem => finite y (List.mem_cons_of_mem _ mem)]
    rfl

end Json

/-! ## Samples -/

namespace Sample

open Json (Document)

/-- What is made of each member. -/
def makes : List (Parts → Document → Option Parts) := [
  fun parts document => document.size?.map fun n => { parts with dimension := some n },
  fun parts document => document.size?.map fun n => { parts with size := some n },
  fun parts document => (document.list? Document.double?).map fun values =>
    { parts with values := some values },
  fun parts document => document.optionalText?.map fun text =>
    { parts with description := some text }]

/-- Each member is read as what is made of it. -/
theorem learns : shape.Learns makes :=
  .cons (fun _ => Json.readsEvery_size.put _)
    (.cons (fun _ => Json.readsEvery_size.put _)
      (.cons (fun _ => Json.readsEvery_double.list.put _)
        (.cons (fun _ => Json.readsEvery_optionalText.put _) .nil)))

/-- The members of a sample. -/
def members (s : Sample) : List (String × Document) := [
  ("dimension", .natural s.dimension),
  ("rows", .natural s.size),
  ("values", .array (s.flat.map .double)),
  ("description", .ofOption s.description)]

/-- The dimension and the number of rows are numbers of 64 bits. -/
structure Sized (s : Sample) : Prop where
  dimension : s.dimension < UInt64.size
  size : s.size < UInt64.size

variable {s : Sample}

theorem foldlM_members (sized : s.Sized) (finite : ∀ x ∈ s.flat, x.isFinite = true) :
    s.members.foldlM (fun parts member => shape.next makes parts member.1 member.2) shape.start =
      some ⟨some s.dimension, some s.size, some (s.flat.map Json.reread), some s.description⟩ := by
  have dimension : (Document.natural s.dimension).size? = some s.dimension := if_pos sized.dimension
  have size : (Document.natural s.size).size? = some s.size := if_pos sized.size
  have values : (Document.array (s.flat.map .double)).list? Document.double? =
      some (s.flat.map Json.reread) := Json.mapM_double? finite
  have text := Json.optionalText?_ofOption s.description
  simp [members, Json.Shape.next, makes, shape, dimension, size, values, text]

/-- The sample with other values. -/
def mapValues (s : Sample) (f : Double → Double) : Sample where
  dimension := s.dimension
  rows := s.rows.map fun row => row.map f
  description := s.description
  length_of_mem row mem := by
    obtain ⟨row', mem', rfl⟩ := List.mem_map.1 mem
    rw [List.length_map, s.length_of_mem row' mem']

theorem flat_mapValues (s : Sample) (f : Double → Double) : (s.mapValues f).flat = s.flat.map f :=
  List.map_flatten.symm

theorem size_mapValues (s : Sample) (f : Double → Double) : (s.mapValues f).size = s.size :=
  List.length_map _

/-- A sample is read from every text of it with the values that are read back. -/
theorem readDocument_of_isObject (sized : s.Sized) (finite : ∀ x ∈ s.flat, x.isFinite = true)
    {text : String} (isObject : Json.IsObject shape.names s.members text) :
    Json.readDocument reader text = .ok (s.mapValues Json.reread) := by
  have cut : ofFlat? s.dimension s.size (s.flat.map Json.reread) =
      some ((s.mapValues Json.reread).withDescription none) := by
    rw [← flat_mapValues, ← size_mapValues s Json.reread]
    exact ofFlat?_flat (s.mapValues Json.reread)
  refine (learns.readDocument isObject (foldlM_members sized finite) rfl).trans ?_
  unfold shape
  dsimp only [Option.getD_some]
  rw [cut]
  rfl

theorem mapValues_eq_iff (s : Sample) (f : Double → Double) :
    s.mapValues f = s ↔ ∀ x ∈ s.flat, f x = x := by
  constructor
  · intro same x mem
    have flat := flat_mapValues s f
    rw [same] at flat
    have fixed : s.flat.map f = s.flat.map id := flat.symm.trans (List.map_id _).symm
    exact List.map_inj_left.1 fixed x mem
  · intro fixed
    refine Sample.ext rfl ?_ rfl
    refine (List.map_congr_left fun row mem => ?_).trans (List.map_id _)
    refine (List.map_congr_left fun x mem' => ?_).trans (List.map_id _)
    exact fixed x (List.mem_flatten.2 ⟨row, mem, mem'⟩)

/-- A sample of finite values is read back from its text, with its dimension, number of rows and
description. Each value keeps its sign and moves by two magnitudes at most, and those of short texts
do not move at all; the sample is the same one exactly if no value moves. -/
theorem readDocument_render (s : Sample) (sized : s.Sized)
    (finite : ∀ x ∈ s.flat, x.isFinite = true) :
    ∃ t, Json.readDocument reader s.document.render = .ok t ∧ t.dimension = s.dimension ∧
      t.size = s.size ∧ t.description = s.description ∧ List.Forall₂ Json.Reread s.flat t.flat ∧
      (t = s ↔ ∀ x ∈ s.flat, Json.reread x = x) := by
  refine ⟨s.mapValues Json.reread,
    readDocument_of_isObject sized finite (Json.isObject_render s.members), rfl, size_mapValues s _,
    rfl, ?_, mapValues_eq_iff s _⟩
  rw [flat_mapValues, List.forall₂_map_right_iff, List.forall₂_same]
  exact fun x mem => (Json.scaled_reread (finite x mem)).2

/-- A row of zeros of both signs and a half. -/
theorem readDocument_render_short :
    Json.readDocument reader (document ⟨3, [[⟨0⟩, ⟨0x8000000000000000⟩, ⟨0x3fe0000000000000⟩]],
      some "\"\\", by decide⟩).render =
    .ok ⟨3, [[⟨0⟩, ⟨0x8000000000000000⟩, ⟨0x3fe0000000000000⟩]], some "\"\\", by decide⟩ := by
  let s : Sample := ⟨3, [[⟨0⟩, ⟨0x8000000000000000⟩, ⟨0x3fe0000000000000⟩]], some "\"\\", by decide⟩
  obtain ⟨t, read, -, -, -, -, exact⟩ := readDocument_render s ⟨by decide, by decide⟩ (by decide)
  rw [exact.2 (by decide +kernel)] at read
  exact read

/-- The double next to `1e-23`, above it, is read for it. -/
theorem readDocument_render_moved :
    Json.readDocument reader (document ⟨1, [[⟨0x3b282db34012b251⟩]], none, by decide⟩).render =
      .ok ⟨1, [[⟨0x3b282db34012b252⟩]], none, by decide⟩ := by
  let s : Sample := ⟨1, [[⟨0x3b282db34012b251⟩]], none, by decide⟩
  have moved : Json.reread ⟨0x3b282db34012b251⟩ = ⟨0x3b282db34012b252⟩ := by decide +kernel
  have read := @readDocument_of_isObject s ⟨by decide, by decide⟩ (by decide) _
    (Json.isObject_render s.members)
  refine read.trans (congrArg Except.ok (Sample.ext rfl ?_ rfl))
  show [[Json.reread ⟨0x3b282db34012b251⟩]] = [[⟨0x3b282db34012b252⟩]]
  rw [moved]

end Sample

end ForeignEval

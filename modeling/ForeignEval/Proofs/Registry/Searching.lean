import ForeignEval.Search

/-!
# What a search finds

A search tries its candidates in order and passes those that do not exist or are no files. The first
that it does not pass decides: if it is a file, its canonical path is the answer, and otherwise the
fault is. So more directories can only be of use where nothing decided before.

* **Trying** — `SearchPath.Tries` lists the ways in which trying paths can end, and
  `SearchPath.firstFile_eq_iff` says that there are no others.
* **Candidates** — `Path.hasDirectory_of_plain`, `Path.hasExtension_of_plain`: names without a slash
  are looked for in the directories, and a dot after their first byte starts an extension.
* **Result** — `SearchPath.locate_first_decides`.
-/

namespace ForeignEval

open Files (Disk Fault Name)

/-! ## Names without a slash -/

namespace Files.Path

variable {name : Path}

theorem names_of_plain (plain : slash ∉ name.bytes) :
    name.names = if name.bytes = [] then [] else [name.bytes] := by
  have whole : name.bytes.splitOn slash = [name.bytes] := List.splitOn_eq_singleton plain
  unfold names
  rw [whole]
  by_cases empty : name.bytes = []
  · simp [empty]
  · simp [empty]

theorem isAbsolute_of_plain (plain : slash ∉ name.bytes) : name.isAbsolute = false := by
  unfold isAbsolute
  rw [decide_eq_false_iff_not]
  intro start
  exact plain (List.mem_of_head? start)

theorem components_of_plain (plain : slash ∉ name.bytes) :
    name.components =
      if name.bytes = [] then [] else (Component.ofName? true name.bytes).toList := by
  unfold components
  rw [isAbsolute_of_plain plain, names_of_plain plain]
  by_cases empty : name.bytes = []
  · simp [empty]
  · simp [empty]

/-- A name without a slash does not say in which directory it is. -/
theorem hasDirectory_of_plain (plain : slash ∉ name.bytes) : name.hasDirectory = false := by
  unfold hasDirectory
  rw [isAbsolute_of_plain plain, components_of_plain plain]
  split
  · rfl
  · cases Component.ofName? true name.bytes with
    | none => rfl
    | some component => rfl

/-- Its extension starts with a dot that is not its first byte; two dots have none. -/
theorem hasExtension_of_plain (plain : slash ∉ name.bytes) :
    name.hasExtension = true ↔ Name.dot ∈ name.bytes.tail ∧ name.bytes ≠ Name.up := by
  unfold hasExtension
  rw [components_of_plain plain]
  by_cases empty : name.bytes = []
  · simp [empty]
  · rw [if_neg empty]
    unfold Component.ofName?
    by_cases here : name.bytes = Name.here
    · simp [here, Name.here]
    · by_cases up : name.bytes = Name.up
      · simp [up, Name.up, Name.here]
      · simp [here, up, Name.hasExtension]

end Files.Path

/-! ## Trying paths -/

/-- Whether a search goes on after a path: nothing is there, or something that is no file. -/
def Files.Disk.Passes (disk : Disk) (path : Files.Path) : Prop :=
  disk.kind path = .error .notFound ∨ disk.kind path = .ok .other

namespace SearchPath

/-- How trying paths in order can end. -/
inductive Tries (disk : Disk) (searched : Nat) (candidates : List Files.Path) : Located → Prop
  /-- All are passed. -/
  | nothing (passed : ∀ path ∈ candidates, disk.Passes path) :
      Tries disk searched candidates (.notFound searched)
  /-- The first that is not passed is a file. -/
  | file {before after : List Files.Path} {candidate : Files.Path} {path : String}
      (parts : candidates = before ++ candidate :: after)
      (passed : ∀ path ∈ before, disk.Passes path) (file : disk.kind candidate = .ok .file)
      (canonical : disk.canonical candidate = .ok path) :
      Tries disk searched candidates (.found path)
  /-- It is a file, but its canonical path cannot be told. -/
  | unnamed {before after : List Files.Path} {candidate : Files.Path} {fault : Fault}
      (parts : candidates = before ++ candidate :: after)
      (passed : ∀ path ∈ before, disk.Passes path) (file : disk.kind candidate = .ok .file)
      (failed : disk.canonical candidate = .error fault) :
      Tries disk searched candidates (.failed fault)
  /-- What it is cannot be told. -/
  | unknown {before after : List Files.Path} {candidate : Files.Path} {fault : Fault}
      (parts : candidates = before ++ candidate :: after)
      (passed : ∀ path ∈ before, disk.Passes path)
      (failed : disk.kind candidate = .error fault) (other : fault ≠ .notFound) :
      Tries disk searched candidates (.failed fault)

variable {search : SearchPath} {disk : Disk} {searched : Nat} {candidate : Files.Path}
  {before candidates : List Files.Path} {name : Files.Path} {answer : Located}

theorem firstFile_cons_of_passes (passed : disk.Passes candidate) :
    firstFile disk searched (candidate :: candidates) = firstFile disk searched candidates := by
  rcases passed with absent | other
  · rw [firstFile, absent]
    exact if_pos rfl
  · rw [firstFile, other]

theorem firstFile_append_of_passes (passed : ∀ path ∈ before, disk.Passes path) :
    firstFile disk searched (before ++ candidates) = firstFile disk searched candidates := by
  induction before with
  | nil => rfl
  | cons path before ih =>
    obtain ⟨first, others⟩ := List.forall_mem_cons.1 passed
    rw [List.cons_append, firstFile_cons_of_passes first, ih others]

/-- One more path in front that is passed changes nothing. -/
theorem Tries.cons (passed : disk.Passes candidate)
    (tries : Tries disk searched candidates answer) :
    Tries disk searched (candidate :: candidates) answer := by
  cases tries with
  | nothing others => exact .nothing (List.forall_mem_cons.2 ⟨passed, others⟩)
  | file parts others file canonical =>
    exact .file (congrArg (candidate :: ·) parts) (List.forall_mem_cons.2 ⟨passed, others⟩) file
      canonical
  | unnamed parts others file failed =>
    exact .unnamed (congrArg (candidate :: ·) parts) (List.forall_mem_cons.2 ⟨passed, others⟩) file
      failed
  | unknown parts others failed other =>
    exact .unknown (congrArg (candidate :: ·) parts) (List.forall_mem_cons.2 ⟨passed, others⟩)
      failed other

theorem tries_firstFile (disk : Disk) (searched : Nat) (candidates : List Files.Path) :
    Tries disk searched candidates (firstFile disk searched candidates) := by
  induction candidates with
  | nil => exact .nothing fun path mem => absurd mem List.not_mem_nil
  | cons candidate candidates ih =>
    have passed_nil : ∀ path ∈ ([] : List Files.Path), disk.Passes path :=
      fun path mem => absurd mem List.not_mem_nil
    cases kind : disk.kind candidate with
    | error fault =>
      by_cases absent : fault = .notFound
      · subst absent
        rw [firstFile_cons_of_passes (.inl kind)]
        exact ih.cons (.inl kind)
      · rw [firstFile, kind]
        show Tries disk searched _ (if fault = .notFound then _ else _)
        rw [if_neg absent]
        exact .unknown rfl passed_nil kind absent
    | ok found =>
      cases found with
      | other =>
        rw [firstFile_cons_of_passes (.inr kind)]
        exact ih.cons (.inr kind)
      | file =>
        rw [firstFile, kind]
        dsimp only
        cases canonical : disk.canonical candidate with
        | ok path => exact .file rfl passed_nil kind canonical
        | error fault => exact .unnamed rfl passed_nil kind canonical

/-- The first path that is not passed decides, and nothing else does. -/
theorem firstFile_eq_iff :
    firstFile disk searched candidates = answer ↔ Tries disk searched candidates answer := by
  constructor
  · intro same
    exact same ▸ tries_firstFile disk searched candidates
  · intro tries
    cases tries with
    | nothing passed =>
      rw [← List.append_nil candidates, firstFile_append_of_passes passed]
      rfl
    | file parts passed file canonical =>
      rw [parts, firstFile_append_of_passes passed, firstFile, file]
      dsimp only
      rw [canonical]
    | unnamed parts passed file failed =>
      rw [parts, firstFile_append_of_passes passed, firstFile, file]
      dsimp only
      rw [failed]
    | unknown parts passed failed other =>
      rw [parts, firstFile_append_of_passes passed, firstFile, failed]
      exact if_neg other

/-! ## Candidates -/

theorem candidates_of_hasDirectory (direct : name.hasDirectory = true) :
    search.candidates name = [name] := by
  unfold candidates
  rw [if_pos direct]

theorem candidates_of_bare (bare : name.hasDirectory = false) :
    search.candidates name =
      search.directories.flatMap fun directory => (namesFor name).map directory.join := by
  unfold candidates
  rw [bare]
  rfl

/-- The candidates of more directories come after the others. -/
theorem exists_candidates_append (search : SearchPath) (more : List Files.Path)
    (name : Files.Path) :
    ∃ others, (⟨search.directories ++ more⟩ : SearchPath).candidates name =
      search.candidates name ++ others := by
  cases bare : name.hasDirectory with
  | true =>
    refine ⟨[], ?_⟩
    rw [candidates_of_hasDirectory bare, candidates_of_hasDirectory bare]
    rfl
  | false =>
    refine ⟨more.flatMap fun directory => (namesFor name).map directory.join, ?_⟩
    rw [candidates_of_bare bare, candidates_of_bare bare]
    exact List.flatMap_append

/-! ## Result -/

/-- What a search on a disk makes of a name. -/
structure FirstDecides (search : SearchPath) (disk : Disk) (name : Files.Path) : Prop where
  /-- A name that starts at the root or says in which directory it is is the only candidate. -/
  direct : name.isAbsolute = true ∨ name.components.dropLast ≠ [] → search.candidates name = [name]
  /-- Any other is looked for in each directory, in order: as it is, and then, if it is a text
  without an extension, as a library. -/
  bare : ¬(name.isAbsolute = true ∨ name.components.dropLast ≠ []) →
    search.candidates name = search.directories.flatMap fun directory =>
      directory.join name ::
        if name.hasExtension then []
        else (name.text?.map fun text => directory.join (.ofText ("lib" ++ text ++ ".so"))).toList
  /-- Such are the names without a slash; their extension starts with a dot that is not their first
  byte. -/
  plain : Files.Path.slash ∉ name.bytes →
    ¬(name.isAbsolute = true ∨ name.components.dropLast ≠ []) ∧
      (name.hasExtension = true ↔ Name.dot ∈ name.bytes.tail ∧ name.bytes ≠ Name.up)
  /-- The first candidate that is not passed decides. -/
  located : ∀ answer, search.locate disk name = answer ↔
    Tries disk search.directories.length (search.candidates name) answer
  /-- More directories after the others do not change what was found. -/
  appended : ∀ more path, search.locate disk name = .found path →
    (⟨search.directories ++ more⟩ : SearchPath).locate disk name = .found path

theorem hasDirectory_iff :
    name.hasDirectory = true ↔ name.isAbsolute = true ∨ name.components.dropLast ≠ [] := by
  unfold Files.Path.hasDirectory
  simp only [Bool.or_eq_true, Bool.not_eq_true', List.isEmpty_eq_false_iff]

theorem map_namesFor (directory : Files.Path) (name : Files.Path) :
    (namesFor name).map directory.join =
      directory.join name ::
        if name.hasExtension then []
        else
          (name.text?.map fun text => directory.join (.ofText ("lib" ++ text ++ ".so"))).toList := by
  unfold namesFor
  cases name.text? with
  | none => cases name.hasExtension <;> rfl
  | some text => cases name.hasExtension <;> rfl

/-- **The first candidate that is not passed decides.** On every disk, and for every name, the
candidates of a search are tried in order; the first that is a file is found, unless the disk fails
before, and it stays found when directories are added. -/
theorem locate_first_decides (search : SearchPath) (disk : Disk) (name : Files.Path) :
    search.FirstDecides disk name where
  direct direct := candidates_of_hasDirectory (hasDirectory_iff.2 direct)
  bare bare := by
    rw [← hasDirectory_iff, Bool.not_eq_true] at bare
    rw [candidates_of_bare bare]
    simp only [map_namesFor]
  plain plain := by
    rw [← hasDirectory_iff, Files.Path.hasDirectory_of_plain plain]
    exact ⟨Bool.false_ne_true, Files.Path.hasExtension_of_plain plain⟩
  located answer := firstFile_eq_iff
  appended more path found := by
    obtain ⟨others, candidates⟩ := search.exists_candidates_append more name
    unfold locate at found ⊢
    rw [firstFile_eq_iff] at found ⊢
    cases found with
    | @file before after candidate path parts passed file canonical =>
      have parts' : (⟨search.directories ++ more⟩ : SearchPath).candidates name =
          before ++ candidate :: (after ++ others) := by
        rw [candidates, parts, List.append_assoc, List.cons_append]
      exact .file parts' passed file canonical

end SearchPath

end ForeignEval

import ForeignEval.Proofs.Files.Walks
import ForeignEval.Proofs.Registry.Searching

/-!
# What stops a search

On a file tree in which probing fails only because something does not exist, or is no directory and
used as one, the second alone stops a search. A directory of the search path that does not exist
stops nothing, since nothing is there below it either. But where a regular file stands in place of a
directory, everything below it is a fault that the search does not pass, and the directories after
it are not looked at, whatever they hold.

* **Probes** — `Disk.FaultFree` limits the faults to those two; `Disk.Clear` says of a path that it
  is neither a file nor met by the second.
* **Directories** — `SearchPath.locate_iff_of_missing` and `SearchPath.locate_of_inPlace`: what a
  search makes of a directory that does not exist, and of a file in place of one.
* **Result** — `SearchPath.only_obstacles_stop_a_search`.
-/

namespace ForeignEval

open Files (Disk Fault)

/-! ## Probes -/

namespace Files

/-- Probing these paths fails only because something does not exist or is no directory. -/
def Disk.FaultFree (disk : Disk) (paths : List Path) : Prop :=
  ∀ path ∈ paths, ∀ fault, disk.kind path = .error fault →
    fault = .notFound ∨ fault = .notADirectory

/-- A path is no file, and nothing is in the way to it that is no directory. -/
def Disk.Clear (disk : Disk) (path : Path) : Prop :=
  disk.kind path ≠ .ok .file ∧ disk.kind path ≠ .error .notADirectory

section

variable {disk : Disk} {paths others : List Path} {path : Path}

/-- Where probing fails in no other way, a search passes just the paths that are clear. -/
theorem Disk.passes_iff_clear (calm : disk.FaultFree paths) (mem : path ∈ paths) :
    disk.Passes path ↔ disk.Clear path := by
  unfold Passes Clear
  cases kind : disk.kind path with
  | ok found => cases found <;> simp
  | error fault =>
    rcases calm path mem fault kind with rfl | rfl
    · simp [Fault.notFound, Fault.notADirectory]
    · simp [Fault.notFound, Fault.notADirectory]

theorem Disk.FaultFree.passes_iff_clear_of_append (calm : disk.FaultFree (paths ++ others)) :
    (∀ path ∈ paths, disk.Passes path) ↔ ∀ path ∈ paths, disk.Clear path := by
  refine forall_congr' fun path => forall_congr' fun mem => ?_
  exact passes_iff_clear calm (List.mem_append_left others mem)

end

/-! ## Directories -/

namespace Tree

variable {tree : Tree} {path : Path}

/-- A file of a tree has a canonical path. -/
theorem exists_canonical_of_file (file : tree.disk.kind path = .ok .file) :
    ∃ text, tree.disk.canonical path = .ok text := by
  unfold disk at file ⊢
  dsimp only at file ⊢
  cases resolved : tree.resolve path with
  | error fault =>
    rw [resolved] at file
    cases file
  | ok reached => exact ⟨reached.1.path, rfl⟩

/-- The empty path leads nowhere. -/
theorem bytes_ne_nil_of_file (file : tree.disk.kind path = .ok .file) : path.bytes ≠ [] := by
  intro empty
  have refused : tree.disk.kind path = .error .notFound := by
    unfold disk resolve
    dsimp only
    rw [empty]
    rfl
  rw [refused] at file
  cases file

end Tree

end Files

/-! ## Names below directories -/

theorem Text.Utf8.encode_append (front back : String) :
    encode (front ++ back) = encode front ++ encode back := by
  unfold encode
  rw [String.toUTF8_eq_toByteArray, String.toByteArray_append, ByteArray.data_append,
    Array.toList_append]
  rfl

namespace SearchPath

variable {tree : Files.Tree} {search : SearchPath} {name form directory : Files.Path}
  {fault : Fault}

theorem isAbsolute_decorated (text : String) :
    (Files.Path.ofText (decorated text)).isAbsolute = false := by
  have start : Text.Utf8.encode "lib" = [0x6c, 0x69, 0x62] := by decide
  unfold Files.Path.isAbsolute Files.Path.ofText decorated
  rw [Text.Utf8.encode_append, Text.Utf8.encode_append, start]
  rfl

/-- A bare name is relative in each of its forms. -/
theorem isAbsolute_of_mem_namesFor (bare : name.hasDirectory = false)
    (mem : form ∈ namesFor name) : form.isAbsolute = false := by
  have relative : name.isAbsolute = false := by
    unfold Files.Path.hasDirectory at bare
    exact (Bool.or_eq_false_iff.1 bare).1
  unfold namesFor at mem
  split at mem
  · split at mem
    · rw [List.mem_singleton.1 mem, relative]
    · rcases List.mem_cons.1 mem with rfl | last
      · exact relative
      · rw [List.mem_singleton.1 last, isAbsolute_decorated]
  · rw [List.mem_singleton.1 mem, relative]

/-- A name is looked for in one form at least. -/
theorem exists_namesFor_eq_cons (name : Files.Path) :
    ∃ form forms, namesFor name = form :: forms := by
  unfold namesFor
  split
  · split
    · exact ⟨_, _, rfl⟩
    · exact ⟨_, _, rfl⟩
  · exact ⟨_, _, rfl⟩

theorem candidates_append (bare : name.hasDirectory = false) (before after : List Files.Path) :
    (⟨before ++ after⟩ : SearchPath).candidates name =
      (⟨before⟩ : SearchPath).candidates name ++ (⟨after⟩ : SearchPath).candidates name := by
  rw [candidates_of_bare bare, candidates_of_bare bare, candidates_of_bare bare,
    List.flatMap_append]

theorem candidates_cons (bare : name.hasDirectory = false) (directory : Files.Path)
    (directories : List Files.Path) :
    (⟨directory :: directories⟩ : SearchPath).candidates name =
      (namesFor name).map directory.join ++ (⟨directories⟩ : SearchPath).candidates name := by
  rw [candidates_of_bare bare, candidates_of_bare bare, List.flatMap_cons]

/-- What is in the way of a directory is in the way of all forms of a name below it. -/
theorem kind_of_blocked (bare : name.hasDirectory = false)
    (calm : tree.disk.FaultFree (search.candidates name)) (listed : directory ∈ search.directories)
    (written : directory.bytes ≠ [])
    (blocked : Files.Tree.inTheWay? (tree.disk.kind directory) = some fault)
    (ordinary : fault = .notFound ∨ fault = .notADirectory) :
    ∀ path ∈ (namesFor name).map directory.join, tree.disk.kind path = .error fault := by
  intro path mem
  have candidate : path ∈ search.candidates name := by
    rw [candidates_of_bare bare]
    exact List.mem_flatMap.2 ⟨directory, listed, mem⟩
  obtain ⟨form, named, rfl⟩ := List.mem_map.1 mem
  refine Files.Tree.kind_join_of_blocked (isAbsolute_of_mem_namesFor bare named) written blocked
    ordinary ?_ ?_
  · intro nul
    rcases calm _ candidate _ nul with same | same <;> exact absurd same (by decide)
  · intro long
    rcases calm _ candidate _ long with same | same <;> exact absurd same (by decide)

/-! ## Searches -/

/-- What is found does not depend on the number of directories that a vain search reports. -/
theorem firstFile_eq_of_searched {disk : Disk} {candidates : List Files.Path} {answer : Located}
    {searched : Nat} (decided : ∀ count, answer ≠ .notFound count)
    (ends : firstFile disk searched candidates = answer) (reported : Nat) :
    firstFile disk reported candidates = answer := by
  rw [firstFile_eq_iff] at ends ⊢
  cases ends with
  | nothing passed => exact absurd rfl (decided searched)
  | file parts passed file canonical => exact .file parts passed file canonical
  | unnamed parts passed file failed => exact .unnamed parts passed file failed
  | unknown parts passed failed other => exact .unknown parts passed failed other

/-- Paths that are passed can be left out. -/
theorem firstFile_eq_of_omitted {disk : Disk} {passed others : List Files.Path} {searched : Nat}
    (pass : ∀ path ∈ passed, disk.Passes path) (before : List Files.Path) :
    firstFile disk searched (before ++ (passed ++ others)) =
      firstFile disk searched (before ++ others) := by
  induction before with
  | nil => exact firstFile_append_of_passes pass
  | cons path before ih =>
    rw [List.cons_append, List.cons_append, firstFile, firstFile, ih]

/-- The search fails just where something that is no directory is in the way. -/
theorem locate_failed_iff (calm : tree.disk.FaultFree (search.candidates name)) :
    search.locate tree.disk name = .failed fault ↔ fault = .notADirectory ∧
      ∃ before candidate after, search.candidates name = before ++ candidate :: after ∧
        (∀ path ∈ before, tree.disk.Clear path) ∧
        tree.disk.kind candidate = .error .notADirectory := by
  unfold locate
  rw [firstFile_eq_iff]
  constructor
  · intro tries
    cases tries with
    | unnamed parts passed file failed =>
      obtain ⟨path, canonical⟩ := Files.Tree.exists_canonical_of_file file
      rw [canonical] at failed
      cases failed
    | @unknown before after candidate _ parts passed failed other =>
      rw [parts] at calm
      have mem : candidate ∈ before ++ candidate :: after :=
        List.mem_append_right before List.mem_cons_self
      have clear := calm.passes_iff_clear_of_append.1 passed
      rcases calm candidate mem fault failed with rfl | rfl
      · exact absurd rfl other
      · exact ⟨rfl, before, candidate, after, parts, clear, failed⟩
  · rintro ⟨rfl, before, candidate, after, parts, clear, failed⟩
    rw [parts] at calm
    exact .unknown parts (calm.passes_iff_clear_of_append.2 clear) failed (by decide)

section

variable {before after : List Files.Path}

theorem mem_directories_of_eq (parts : search.directories = before ++ directory :: after) :
    directory ∈ search.directories := by
  rw [parts]
  exact List.mem_append_right before List.mem_cons_self

theorem candidates_of_eq (bare : name.hasDirectory = false)
    (parts : search.directories = before ++ directory :: after) :
    search.candidates name = (⟨before⟩ : SearchPath).candidates name ++
      ((namesFor name).map directory.join ++ (⟨after⟩ : SearchPath).candidates name) := by
  rw [← candidates_cons bare, ← candidates_append bare, ← parts]

/-- A directory that does not exist may be left out. -/
theorem locate_iff_of_missing (bare : name.hasDirectory = false)
    (calm : tree.disk.FaultFree (search.candidates name))
    (parts : search.directories = before ++ directory :: after) (written : directory.bytes ≠ [])
    (missing : tree.disk.kind directory = .error .notFound) {answer : Located}
    (decided : ∀ searched, answer ≠ .notFound searched) :
    search.locate tree.disk name = answer ↔
      (⟨before ++ after⟩ : SearchPath).locate tree.disk name = answer := by
  have blocked : Files.Tree.inTheWay? (tree.disk.kind directory) = some .notFound := by
    rw [missing]
    rfl
  have passed : ∀ path ∈ (namesFor name).map directory.join, tree.disk.Passes path := by
    intro path mem
    have listed := mem_directories_of_eq parts
    exact .inl (kind_of_blocked bare calm listed written blocked (.inl rfl) path mem)
  unfold locate
  rw [candidates_of_eq bare parts, candidates_append bare, firstFile_eq_of_omitted passed]
  constructor
  · intro ends
    exact firstFile_eq_of_searched decided ends _
  · intro ends
    exact firstFile_eq_of_searched decided ends _

/-- A file in place of a directory hides all that comes after it. -/
theorem locate_of_inPlace (bare : name.hasDirectory = false)
    (calm : tree.disk.FaultFree (search.candidates name))
    (parts : search.directories = before ++ directory :: after)
    (file : tree.disk.kind directory = .ok .file)
    (clear : ∀ path ∈ (⟨before⟩ : SearchPath).candidates name, tree.disk.Clear path) :
    search.locate tree.disk name = .failed .notADirectory := by
  have blocked : Files.Tree.inTheWay? (tree.disk.kind directory) = some .notADirectory := by
    rw [file]
    rfl
  have written : directory.bytes ≠ [] := Files.Tree.bytes_ne_nil_of_file file
  have listed := mem_directories_of_eq parts
  have stuck := kind_of_blocked bare calm listed written blocked (.inr rfl)
  have whole := candidates_of_eq bare parts
  obtain ⟨form, forms, named⟩ := exists_namesFor_eq_cons name
  rw [named, List.map_cons, List.cons_append] at whole
  rw [named, List.map_cons] at stuck
  exact (locate_failed_iff calm).2
    ⟨rfl, _, directory.join form, _, whole, clear, stuck _ List.mem_cons_self⟩

end

/-- What a search for a name makes of directories, missing ones and files in place of others. -/
structure StoppedOnlyByObstacles (tree : Files.Tree) (search : SearchPath) (name : Files.Path) :
    Prop where
  /-- The first file is found if everything before it is clear. -/
  found : ∀ {before after candidate}, search.candidates name = before ++ candidate :: after →
    (∀ path ∈ before, tree.disk.Clear path) → tree.disk.kind candidate = .ok .file →
    ∃ path, tree.disk.canonical candidate = .ok path ∧
      search.locate tree.disk name = .found path
  /-- If everything is clear, nothing is found. -/
  absent : (∀ path ∈ search.candidates name, tree.disk.Clear path) →
    search.locate tree.disk name = .notFound search.directories.length
  /-- The search fails just where something that is no directory is in the way to a candidate
  before the first file. -/
  stopped : ∀ fault, search.locate tree.disk name = .failed fault ↔ fault = .notADirectory ∧
    ∃ before candidate after, search.candidates name = before ++ candidate :: after ∧
      (∀ path ∈ before, tree.disk.Clear path) ∧ tree.disk.kind candidate = .error .notADirectory
  /-- A directory that does not exist may be left out. -/
  missing : ∀ {before after directory}, search.directories = before ++ directory :: after →
    directory.bytes ≠ [] → tree.disk.kind directory = .error .notFound →
    ∀ answer, (∀ searched, answer ≠ .notFound searched) →
      (search.locate tree.disk name = answer ↔
        (⟨before ++ after⟩ : SearchPath).locate tree.disk name = answer)
  /-- A file in place of a directory hides all that comes after it. -/
  hidden : ∀ {before after directory}, search.directories = before ++ directory :: after →
    tree.disk.kind directory = .ok .file →
    (∀ path ∈ (⟨before⟩ : SearchPath).candidates name, tree.disk.Clear path) →
    search.locate tree.disk name = .failed .notADirectory

/-- **Only files in place of directories stop a search.** In a tree where probing the candidates of
a bare name fails only because something does not exist or is no directory, a search finds the first
file, or nothing if there is none, unless it meets something that is no directory in the way to a
candidate before. -/
theorem only_obstacles_stop_a_search (bare : name.hasDirectory = false)
    (calm : tree.disk.FaultFree (search.candidates name)) :
    StoppedOnlyByObstacles tree search name where
  found parts clear file := by
    obtain ⟨path, canonical⟩ := Files.Tree.exists_canonical_of_file file
    refine ⟨path, canonical, firstFile_eq_iff.2 (.file parts ?_ file canonical)⟩
    rw [parts] at calm
    exact calm.passes_iff_clear_of_append.2 clear
  absent clear := by
    refine firstFile_eq_iff.2 (.nothing fun path mem => ?_)
    exact (Disk.passes_iff_clear calm mem).2 (clear path mem)
  stopped fault := locate_failed_iff calm
  missing parts written missing answer decided :=
    locate_iff_of_missing bare calm parts written missing decided
  hidden parts file clear := locate_of_inPlace bare calm parts file clear

/-! ## A file in place of a directory -/

/-- A tree with a file where a directory may be looked for, and a module in another directory. -/
def strayFile : Files.Tree where
  entries := [(["plain"], .file []), (["mods"], .directory), (["mods", "m.so"], .file [])]
  workingDirectory := []

/-- A search path with the file, a directory that does not exist, and the one with the module. -/
def strayFirst : SearchPath := .ofTexts ["/plain", "/none", "/mods"]

theorem kind_plain : strayFile.disk.kind (.ofText "/plain/m.so") = .error .notADirectory := by
  have readable : Text.Utf8.decode? [112, 108, 97, 105, 110] = some "plain" := by
    simp [Text.Utf8.decode?, Text.Utf8.pieces, Text.Utf8.piece]
  have steps : Files.Tree.steps (.ofText "/plain/m.so") =
      [112, 108, 97, 105, 110] :: [[109, 46, 115, 111]] := by
    decide +kernel
  rw [Files.Tree.kind_eq_kindOf (by decide +kernel) (by decide +kernel) (by decide +kernel), steps,
    Files.Tree.walk_named (by decide) (by decide) (by decide) readable]
  rfl

theorem kind_none : strayFile.disk.kind (.ofText "/none/m.so") = .error .notFound := by
  have readable : Text.Utf8.decode? [110, 111, 110, 101] = some "none" := by
    simp [Text.Utf8.decode?, Text.Utf8.pieces, Text.Utf8.piece]
  have steps : Files.Tree.steps (.ofText "/none/m.so") =
      [110, 111, 110, 101] :: [[109, 46, 115, 111]] := by
    decide +kernel
  rw [Files.Tree.kind_eq_kindOf (by decide +kernel) (by decide +kernel) (by decide +kernel), steps,
    Files.Tree.walk_named (by decide) (by decide) (by decide) readable]
  rfl

theorem kind_mods : strayFile.disk.kind (.ofText "/mods/m.so") = .ok .file := by
  have directory : Text.Utf8.decode? [109, 111, 100, 115] = some "mods" := by
    simp [Text.Utf8.decode?, Text.Utf8.pieces, Text.Utf8.piece]
  have file : Text.Utf8.decode? [109, 46, 115, 111] = some "m.so" := by
    simp [Text.Utf8.decode?, Text.Utf8.pieces, Text.Utf8.piece]
  have steps : Files.Tree.steps (.ofText "/mods/m.so") =
      [109, 111, 100, 115] :: [[109, 46, 115, 111]] := by
    decide +kernel
  have origin : strayFile.origin (.ofText "/mods/m.so") = [] := by decide +kernel
  have entered (names : List Files.Name) : strayFile.walk Files.Tree.linkLimit []
      ([109, 111, 100, 115] :: names) = strayFile.walk Files.Tree.linkLimit ["mods"] names := by
    rw [Files.Tree.walk_named (by decide) (by decide) (by decide) directory]
    rfl
  rw [Files.Tree.kind_eq_kindOf (by decide +kernel) (by decide +kernel) (by decide +kernel), steps,
    origin, entered, Files.Tree.walk_named (by decide) (by decide) (by decide) file]
  rfl

theorem candidates_strayFirst : strayFirst.candidates (.ofText "m.so") =
    [.ofText "/plain/m.so", .ofText "/none/m.so", .ofText "/mods/m.so"] := by
  decide +kernel

theorem faultFree_strayFile :
    strayFile.disk.FaultFree (strayFirst.candidates (.ofText "m.so")) := by
  rw [candidates_strayFirst]
  intro path mem fault failed
  simp only [List.mem_cons, List.not_mem_nil, or_false] at mem
  rcases mem with rfl | rfl | rfl
  · rw [kind_plain] at failed
    exact .inr (Except.error.inj failed).symm
  · rw [kind_none] at failed
    exact .inl (Except.error.inj failed).symm
  · rw [kind_mods] at failed
    cases failed

theorem only_obstacles_stop_a_search_stray :
    (Files.Path.ofText "m.so").hasDirectory = false ∧
      strayFile.disk.FaultFree (strayFirst.candidates (.ofText "m.so")) ∧
      StoppedOnlyByObstacles strayFile strayFirst (.ofText "m.so") := by
  have bare : (Files.Path.ofText "m.so").hasDirectory = false := by decide +kernel
  exact ⟨bare, faultFree_strayFile, only_obstacles_stop_a_search bare faultFree_strayFile⟩

/-- The directory holds the module, and the search ends with a fault before it gets there. -/
theorem stray_file_hides_module :
    (Files.Path.ofText "m.so").hasDirectory = false ∧
      strayFile.disk.FaultFree (strayFirst.candidates (.ofText "m.so")) ∧
      (∃ directory ∈ strayFirst.directories,
        strayFile.disk.kind (directory.join (.ofText "m.so")) = .ok .file) ∧
      strayFirst.locate strayFile.disk (.ofText "m.so") = .failed .notADirectory := by
  refine ⟨by decide +kernel, faultFree_strayFile, ⟨.ofText "/mods", ?_, ?_⟩, ?_⟩
  · simp [strayFirst, ofTexts]
  · have below : (Files.Path.ofText "/mods").join (.ofText "m.so") = .ofText "/mods/m.so" := by
      decide +kernel
    rw [below, kind_mods]
  · unfold locate
    rw [candidates_strayFirst, firstFile, kind_plain]
    exact if_neg (by decide)

end SearchPath

end ForeignEval

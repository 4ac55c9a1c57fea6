import ForeignEval.Config
import ForeignEval.Files.Disk
import ForeignEval.Files.Path

/-!
# The search for modules

A module is named by a path or by a bare name. A path is taken as it is; a bare name is looked for
in a list of directories, as it is and, if it is a text without an extension, as a library file.

* **Candidates** — `SearchPath.candidates` lists the paths in the order in which they are tried.
* **Location** — `locate` answers with the canonical path of the first candidate that is a file.
-/

namespace ForeignEval

open Files (Disk Fault Kind)

/-- The outcome of looking for a module. -/
inductive Located where
  /-- The canonical path of a file. -/
  | found (path : String)
  /-- No candidate is a file; so many directories were searched. -/
  | notFound (searched : Nat)
  /-- The file system failed, perhaps in passing. -/
  | failed (fault : Fault)
deriving DecidableEq

/-- The directories in which modules are looked for, in order. -/
structure SearchPath where
  directories : List Files.Path
deriving DecidableEq

namespace SearchPath

/-- The search path over directories named by texts. -/
def ofTexts (directories : List String) : SearchPath := ⟨directories.map .ofText⟩

/-- The search path with one more directory, searched after the others. -/
def push (search : SearchPath) (directory : Files.Path) : SearchPath :=
  ⟨search.directories ++ [directory]⟩

/-- The variable that lists directories, divided by colons. -/
def listVariable : String := "NECTAR_MODULE_PATH"

/-- The byte of a colon. -/
def colon : UInt8 := 0x3a

/-- The directories that the value of a variable lists, the empty ones included. -/
def listed (value : List UInt8) : List Files.Path := (value.splitOn colon).map (⟨·⟩)

/-- The user's home directory: that of the environment, unless it is empty, or else the one that the
system has on record. -/
def home? (environment : Environment) (recorded : Option Files.Path) : Option Files.Path :=
  match (environment "HOME").filter (! ·.isEmpty) with
  | some home => some ⟨home⟩
  | none => recorded

/-- The directory for the user's data. -/
def userData? (environment : Environment) (recorded : Option Files.Path) : Option Files.Path :=
  match ((environment "XDG_DATA_HOME").map Files.Path.mk).filter (·.isAbsolute) with
  | some directory => some directory
  | none => (home? environment recorded).map (·.join (.ofText ".local/share"))

/-- The directories that the environment names: those of the variable, then the user's own. -/
def ofEnvironment (environment : Environment) (recorded : Option Files.Path) : SearchPath :=
  let own := (userData? environment recorded).map fun data =>
    (data.join (.ofText "nectar")).join (.ofText "modules")
  ⟨((environment listVariable).map listed).getD [] ++ own.toList⟩

/-- A bare name as the file name of a library. -/
def decorated (name : String) : String := "lib" ++ name ++ ".so"

/-- The names under which a bare name is looked for in a directory. -/
def namesFor (name : Files.Path) : List Files.Path :=
  match name.text? with
  | some text => if name.hasExtension then [name] else [name, .ofText (decorated text)]
  | none => [name]

/-- The paths to try for a name, in order. -/
def candidates (search : SearchPath) (name : Files.Path) : List Files.Path :=
  if name.hasDirectory then [name]
  else search.directories.flatMap fun directory => (namesFor name).map directory.join

/-- Tries paths in order: the first that is a file ends the search, and so does a fault other than
that nothing is there. -/
def firstFile (disk : Disk) (searched : Nat) : List Files.Path → Located
  | [] => .notFound searched
  | candidate :: rest =>
    match disk.kind candidate with
    | .ok .file =>
      match disk.canonical candidate with
      | .ok path => .found path
      | .error fault => .failed fault
    | .ok .other => firstFile disk searched rest
    | .error fault =>
      if fault = .notFound then firstFile disk searched rest else .failed fault

/-- Looks for a module. -/
def locate (search : SearchPath) (disk : Disk) (name : Files.Path) : Located :=
  firstFile disk search.directories.length (search.candidates name)

end SearchPath

end ForeignEval

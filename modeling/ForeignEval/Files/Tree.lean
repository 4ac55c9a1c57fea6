import ForeignEval.Files.Disk
import ForeignEval.Files.Path
import ForeignEval.Text.Utf8

/-!
# File trees

A file system held as data: directories, files and symbolic links by their absolute place, and a
working directory. Paths are walked name by name the way an operating system does.

* **Walking** — `Tree.walk` follows links, each of which uses up one of forty; it ends because every
  step uses up a link or a name.
* **Writing** — `Tree.put` makes the directories above an entry and follows links like any walk.
* **Answers** — `Tree.disk` tells kinds and canonical paths, `Tree.readText` the text of a file.
-/

namespace ForeignEval.Files

/-- What a tree holds at a place. -/
inductive Entry where
  | directory
  /-- A regular file with its bytes. -/
  | file (bytes : List UInt8)
  /-- A symbolic link with the path it stands for. -/
  | link (target : Path)
deriving DecidableEq

/-- A place in a tree: the names from the root down. -/
abbrev Place := List String

/-- A file system. -/
structure Tree where
  /-- What there is, by place; the root needs no entry. -/
  entries : List (Place × Entry)
  /-- Where relative paths start. -/
  workingDirectory : Place

/-- The absolute path of a place. -/
def Place.path (place : Place) : String := "/" ++ "/".intercalate place

namespace Tree

/-- What there is at a place. -/
def entry? (tree : Tree) (place : Place) : Option Entry :=
  if place = [] then some .directory else tree.entries.lookup place

/-- The tree with an entry at a place. -/
def set (tree : Tree) (place : Place) (entry : Entry) : Tree :=
  { tree with entries := (place, entry) :: tree.entries }

/-- The tree that holds a working directory and the directories above it. -/
def new (workingDirectory : Place) : Tree where
  entries := (List.range workingDirectory.length).map fun depth =>
    (workingDirectory.take (depth + 1), .directory)
  workingDirectory := workingDirectory

/-- The names to walk for a path; a slash at the end asks for a directory, like a dot there. -/
def steps (path : Path) : List Name := path.names ++ if path.endsInSlash then [Name.here] else []

/-- What a directory holds under a name, links not being followed. A tree holds nothing under a name
that is no text. -/
def below? (tree : Tree) (directory : Place) (name : Name) : Option Entry := do
  tree.entry? (directory ++ [← Text.Utf8.decode? name])

/-- How many bytes a name may have. -/
def nameLimit : Nat := 255

/-- How many bytes a path has to stay below. -/
def pathLimit : Nat := 4096

/-- How many links are followed. -/
def linkLimit : Nat := 40

/-- Walks names from a directory: the place arrived at and what is there. There may be nothing under
the last name. -/
def walk (tree : Tree) : (links : Nat) → (directory : Place) → List Name →
    Except Fault (Place × Option Entry)
  | _, directory, [] => .ok (directory, some .directory)
  | links, directory, name :: names =>
    if name = Name.here then walk tree links directory names
    else if name = Name.up then walk tree links directory.dropLast names
    else if nameLimit < name.length then .error .nameTooLong
    else
      match Text.Utf8.decode? name with
      | none => .error .notFound
      | some text =>
        let place := directory ++ [text]
        match tree.entry? place with
        | none => if names.isEmpty then .ok (place, none) else .error .notFound
        | some .directory => walk tree links place names
        | some (.file bytes) =>
          if names.isEmpty then .ok (place, some (.file bytes)) else .error .notADirectory
        | some (.link target) =>
          match links with
          | 0 => .error .tooManyLinks
          | links + 1 =>
            walk tree links (if target.isAbsolute then [] else directory) (steps target ++ names)
termination_by links _ names => (links, names.length)

/-! ## Reading -/

/-- The place that a path leads to and what is there, links being followed. -/
def resolve (tree : Tree) (path : Path) : Except Fault (Place × Entry) :=
  if path.bytes.contains 0 then .error .nulInPath
  else if path.bytes.isEmpty then .error .notFound
  else if pathLimit ≤ path.bytes.length then .error .nameTooLong
  else
    match tree.walk linkLimit (if path.isAbsolute then [] else tree.workingDirectory) (steps path)
    with
    | .ok (place, some entry) => .ok (place, entry)
    | .ok (_, none) => .error .notFound
    | .error fault => .error fault

/-- The tree's answers by path. -/
def disk (tree : Tree) : Disk where
  kind path :=
    match tree.resolve path with
    | .ok (_, .file _) => .ok .file
    | .ok _ => .ok .other
    | .error fault => .error fault
  canonical path := (tree.resolve path).map (·.1.path)

/-- The bytes of the file that a path leads to. -/
def readBytes (tree : Tree) (path : Path) : Except Fault (List UInt8) :=
  match tree.resolve path with
  | .ok (_, .file bytes) => .ok bytes
  | .ok _ => .error .isADirectory
  | .error fault => .error fault

/-- The text of the file that a path leads to. -/
def readText (tree : Tree) (path : Path) : Except Fault String := do
  match Text.Utf8.decode? (← tree.readBytes path) with
  | some text => return text
  | none => .error .notText

/-! ## Writing -/

/-- Walks names from a directory and makes the directories that are missing: the place arrived at
and the tree with the new directories. A link to nothing is in the way. -/
def makeDirectories (tree : Tree) (directory : Place) : List Name → Option (Place × Tree)
  | [] => some (directory, tree)
  | name :: names =>
    match tree.walk linkLimit directory [name] with
    | .ok (place, some .directory) => tree.makeDirectories place names
    | .ok (place, none) =>
      if (tree.below? directory name).isSome then none
      else (tree.set place .directory).makeDirectories place names
    | _ => none

/-- Puts an entry where a path from a directory leads, and makes the directories above it: the place
of the entry and the tree with it, unless something is in the way. A file is written over the file
that is there, links being followed; a link takes only a free name. -/
def put (tree : Tree) (directory : Place) (path : Path) (entry : Entry) : Option (Place × Tree) :=
  let names := path.names.filter (· ≠ Name.here)
  match entry, names.getLast? with
  | .directory, _ => tree.makeDirectories directory names
  | _, none => none
  | entry, some last => do
    let (above, tree) ← tree.makeDirectories directory names.dropLast
    match entry, tree.walk linkLimit above [last], tree.below? above last with
    | .file _, .ok (place, none), _ => some (place, tree.set place entry)
    | .file _, .ok (place, some (.file _)), _ => some (place, tree.set place entry)
    | .link _, .ok (place, none), none => some (place, tree.set place entry)
    | _, _, _ => none

end Tree

end ForeignEval.Files

import ForeignEval.Text.Utf8

/-!
# Paths

A path is kept as it was given, and taken apart only to answer questions about it. The file system
takes paths as bytes, which are usually, but not always, those of a text. Slashes divide a path; a
slash at the start makes it absolute.

* **Texts** — `Path.ofText` is the path that a text names; `Path.text?` is that text again, and
  `Path.shown` a text for every path.
* **Components** — `components` leaves out what does not matter: repeated slashes, a slash at the
  end, and single dots other than one at the start of a relative path.
* **Order** — `Path.compare` goes by components: the root comes before dots, and dots before names.
* **Joining** — `join` sets one slash between a directory and a name unless there is one already.
-/

namespace ForeignEval.Files

/-- A name in a path, as bytes. -/
abbrev Name := List UInt8

namespace Name

/-- The byte of a dot. -/
def dot : UInt8 := 0x2e

/-- The name of the directory itself. -/
def here : Name := [dot]

/-- The name of the directory above. -/
def up : Name := [dot, dot]

/-- Whether a name has an extension: there is a dot in it that is not its first character. -/
def hasExtension (name : Name) : Bool := name.tail.contains dot

end Name

/-- A part of a path that matters. -/
inductive Component where
  /-- The root, at the start of an absolute path. -/
  | root
  /-- A single dot at the start of a relative path. -/
  | here
  /-- Two dots. -/
  | up
  /-- Any other name. -/
  | named (name : Name)
deriving DecidableEq

/-- The component that a name stands for, at the start of a relative path or not. -/
def Component.ofName? (atStart : Bool) (name : Name) : Option Component :=
  if name = Name.here then if atStart then some .here else none
  else if name = Name.up then some .up
  else some (.named name)

/-- The order of components: the root, a single dot, two dots, then the names by their bytes. -/
def Component.compare : Component → Component → Ordering
  | .root, .root | .here, .here | .up, .up => .eq
  | .root, _ => .lt
  | _, .root => .gt
  | .here, _ => .lt
  | _, .here => .gt
  | .up, _ => .lt
  | _, .up => .gt
  | .named a, .named b => Ord.compare a b

/-- A path, as bytes. -/
structure Path where
  /-- The bytes, none of which is changed. -/
  bytes : List UInt8
deriving DecidableEq, Inhabited

namespace Path

/-- The path that a text names. -/
def ofText (text : String) : Path := ⟨Text.Utf8.encode text⟩

/-- The text that names a path, if there is one. -/
def text? (path : Path) : Option String := Text.Utf8.decode? path.bytes

/-- The path as a text, with U+FFFD for what is no text in it. -/
def shown (path : Path) : String := Text.Utf8.decodeLossy path.bytes

/-- The byte of a slash. -/
def slash : UInt8 := 0x2f

/-- The names in a path, without empty ones. -/
def names (path : Path) : List Name := (path.bytes.splitOn slash).filter (! ·.isEmpty)

/-- Whether a path starts at the root. -/
def isAbsolute (path : Path) : Bool := path.bytes.head? = some slash

/-- Whether a path ends in a slash. -/
def endsInSlash (path : Path) : Bool := path.bytes.getLast? = some slash

/-- The components of a path. -/
def components (path : Path) : List Component :=
  if path.isAbsolute then .root :: path.names.filterMap (Component.ofName? false)
  else
    match path.names with
    | [] => []
    | first :: names =>
      (Component.ofName? true first).toList ++ names.filterMap (Component.ofName? false)

/-- The order of paths, by their components from left to right. -/
def compare (a b : Path) : Ordering := List.compareLex Component.compare a.components b.components

/-- Whether a path says in which directory its last component is. -/
def hasDirectory (path : Path) : Bool :=
  path.isAbsolute || !path.components.dropLast.isEmpty

/-- Whether the last component of a path is a name with an extension. -/
def hasExtension (path : Path) : Bool :=
  match path.components.getLast? with
  | some (.named name) => name.hasExtension
  | _ => false

/-- A name below a directory. An absolute name stands alone, and so does a name below the empty
path. -/
def join (directory name : Path) : Path :=
  if name.isAbsolute then name
  else if directory.bytes.isEmpty || directory.endsInSlash then ⟨directory.bytes ++ name.bytes⟩
  else ⟨directory.bytes ++ slash :: name.bytes⟩

end Path

/-- Whether two texts name the same path, component by component. -/
def samePath (a b : String) : Bool := (Path.ofText a).components = (Path.ofText b).components

end ForeignEval.Files

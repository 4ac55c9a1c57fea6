import ForeignEval.Files.Tree
import ForeignEval.Loading.System
import ForeignEval.Registry
import ForeignEval.Text.Terminated

/-!
# Loading modules from files

A file tree in which some files are known to be modules, and a loader over it.

* **Writing** — what is written over a module is a module only if it is one itself.
* **Paths** — a path without a slash names no file of the tree: loaders look such names up among the
  libraries of the system. In any other path they replace tokens.
-/

namespace ForeignEval

open Files (Entry Place Tree)
open Foreign (Image)

/-- A file tree in which some files are modules. -/
structure ModuleTree where
  tree : Tree
  /-- The modules, by the places of their files. -/
  modules : List (Place × Image)

namespace ModuleTree

/-- The tree that holds a working directory. -/
def new (workingDirectory : Place) : ModuleTree := ⟨.new workingDirectory, []⟩

/-- Puts an entry where a path from a directory leads, unless something is in the way. -/
def put (files : ModuleTree) (directory : Place) (path : Files.Path) (entry : Entry) :
    ModuleTree :=
  match files.tree.put directory path entry with
  | none => files
  | some (place, tree) => ⟨tree, files.modules.filter (·.1 ≠ place)⟩

/-- Puts a module where a path from a directory leads, unless something is in the way; what it is
may depend on the path of its file. -/
def putModule (files : ModuleTree) (directory : Place) (path : Files.Path)
    (image : String → Image) : ModuleTree :=
  match files.tree.put directory path (.file Image.bytes) with
  | none => files
  | some (place, tree) =>
    ⟨tree, (place, image place.path) :: files.modules.filter (·.1 ≠ place)⟩

/-- What a loader opens for a path: the program itself for the empty one, a library of the system
for a bare name, and a module for any other path, in which tokens are replaced first. -/
def imageAt? (files : ModuleTree) (system : Loading.System) (path : String) : Option Image := do
  let name ← Text.terminated? path
  if name = "" then some (.library "")
  else if name.toList.contains '/' then
    let file := String.ofList (← Loading.Token.expand system.token name.toList)
    match files.tree.resolve (.ofText file) with
    | .ok (place, .file _) => files.modules.lookup place
    | _ => none
  else if system.libraries.contains name then some (.library name)
  else none

/-- Opens modules and refuses everything else for one reason. What it has opened can be closed. -/
def loader (files : ModuleTree) (system : Loading.System) (reason : String) : Loader where
  load _ path :=
    match files.imageAt? system path with
    | some image => .ok image
    | none => .error reason
  close _ := .ok ()

end ModuleTree

end ForeignEval

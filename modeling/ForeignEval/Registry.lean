import ForeignEval.Error
import ForeignEval.Foreign.Exported
import ForeignEval.Retry
import ForeignEval.Search

/-!
# The module registry

Loads modules at most once per path and hands out handles to them. A library stays open while it
has handles; the catalog holds one handle itself. Taking a module out of the catalog closes its
library only if no other handle is alive; otherwise the last handle to go closes it. A library that
cannot be closed stays open, and nobody tries again.

* **Handles** — `Registry.retain` and `Registry.release` count the handles of a library, and
  `release` has the library closed with the last one.
* **Loading** — `Registry.load` finds the path of a name, answers from the catalog if it can, and
  opens the library otherwise.
* **Unloading** — `Registry.unload` and `Registry.teardown` empty the catalog and report the modules
  that others still use or that cannot be closed.
-/

namespace ForeignEval

open Foreign (Image Trace Event)

/-- A handle to a loaded module. -/
structure Handle where
  /-- The serial number of the opened library. -/
  library : Nat
  /-- The path under which the module was loaded. -/
  path : String
  /-- What the module holds. -/
  image : Image

/-- An open library with the number of its live handles. -/
structure OpenLibrary where
  /-- The serial number of the opening. -/
  serial : Nat
  /-- How many handles are alive, the catalog's included. -/
  handles : Nat
deriving DecidableEq

/-- Finds the file of a module name, told how often it has been asked before. -/
abbrev Locator := Nat → String → Located

/-- Opens and closes libraries. -/
structure Loader where
  /-- Opens a file as a module or says why it cannot, told how often it has been asked before. -/
  load : Nat → String → Except String Image
  /-- Closes a library or says why it cannot, told the serial number of the opening. -/
  close : Nat → Except String Unit

/-- What happens when a library is to be closed. -/
def Loader.closing (loader : Loader) (library : Nat) : Event :=
  match loader.close library with
  | .ok _ => .closed library
  | .error reason => .stuck library reason

/-- The registry of modules. -/
structure Registry where
  /-- Finds files. -/
  locator : Locator
  /-- Opens and closes files. -/
  loader : Loader
  /-- How files are looked for when the file system fails. -/
  retry : RetryPolicy
  /-- How often the locator has been asked. -/
  located : Nat
  /-- How often the loader has been asked. -/
  attempted : Nat
  /-- How many libraries have been opened. -/
  opened : Nat
  /-- The handles that the registry holds itself, one per path, in the order of loading. -/
  catalog : List Handle
  libraries : List OpenLibrary

namespace Handle

/-- Whether two handles are of the same opened library. -/
def sameModule (a b : Handle) : Bool := a.library == b.library

/-- The handle as a record. -/
def recordText (handle : Handle) : String :=
  "ModuleHandle \x7b path: " ++ Text.quoted handle.path ++ " \x7d"

/-- The address of an exported symbol. -/
def resolveSymbol (handle : Handle) (name : String) : Except Error (String × String) :=
  match handle.image.address? name with
  | some address => .ok address
  | none => .error (.symbolNotFound handle.path name)

end Handle

namespace Registry

/-- A registry without modules. -/
def new (locator : Locator) (loader : Loader) (retry : RetryPolicy) : Registry :=
  ⟨locator, loader, retry, 0, 0, 0, [], []⟩

/-! ## Handles -/

/-- How many handles of a library are alive. -/
def handlesOf (registry : Registry) (library : Nat) : Nat :=
  ((registry.libraries.find? (·.serial == library)).map (·.handles)).getD 0

/-- The registry after one more handle of a library was made. -/
def retain (registry : Registry) (library : Nat) : Registry :=
  { registry with
    libraries := registry.libraries.map fun open_ =>
      if open_.serial = library then { open_ with handles := open_.handles + 1 } else open_ }

/-- The registry after a handle of a library was dropped; with the last one the library is to be
closed. -/
def release (registry : Registry) (library : Nat) (trace : Trace) : Registry × Trace :=
  if registry.handlesOf library ≤ 1 then
    ({ registry with libraries := registry.libraries.filter (·.serial ≠ library) },
      trace ++ [registry.loader.closing library])
  else
    ({ registry with
        libraries := registry.libraries.map fun open_ =>
          if open_.serial = library then { open_ with handles := open_.handles - 1 } else open_ },
      trace)

/-! ## Looking modules up -/

/-- One attempt at finding the file of a name. -/
def attempt (registry : Registry) (name : String) (number : Nat) : Attempt String Nat :=
  match registry.locator (registry.located + (number - 1)) name with
  | .found path => .done path
  | .notFound searched => .fatal searched
  | .failed fault => .transient fault

/-- The path of a name's file, faults of the file system being met by further attempts. -/
def resolvePath (registry : Registry) (name : String) : Except Error String × Registry :=
  let run := registry.retry.run (registry.attempt name)
  let registry := { registry with located := registry.located + run.attempts.length }
  match run.result with
  | .done path => (.ok path, registry)
  | .fatal searched => (.error (.moduleNotFound name searched), registry)
  | .exhausted attempts fault => (.error (.retryExhausted name attempts fault), registry)

/-- The catalog's handle for a path. -/
def find? (registry : Registry) (path : String) : Option Handle :=
  registry.catalog.find? fun handle => Files.samePath handle.path path

/-- Whether the catalog has a module of this path. -/
def isLoaded (registry : Registry) (path : String) : Bool := (registry.find? path).isSome

/-- How many modules the catalog has. -/
def size (registry : Registry) : Nat := registry.catalog.length

/-! ## Loading -/

/-- Opens the library at a path and puts it into the catalog; the handle answered is a second
one. -/
def openAt (registry : Registry) (path : String) (trace : Trace) :
    Except Error Handle × Registry × Trace :=
  let answer := registry.loader.load registry.attempted path
  let registry := { registry with attempted := registry.attempted + 1 }
  match answer with
  | .error reason => (.error (.moduleLoad path reason), registry, trace)
  | .ok image =>
    let handle : Handle := ⟨registry.opened, path, image⟩
    (.ok handle,
      { registry with
        opened := registry.opened + 1
        catalog := registry.catalog ++ [handle]
        libraries := registry.libraries ++ [⟨handle.library, 2⟩] },
      trace ++ [.opened handle.library path])

/-- A handle to the module of a name, which is loaded if the catalog does not have it. -/
def load (registry : Registry) (name : String) (trace : Trace) :
    Except Error Handle × Registry × Trace :=
  match registry.resolvePath name with
  | (.error e, registry) => (.error e, registry, trace)
  | (.ok path, registry) =>
    match registry.find? path with
    | some handle => (.ok handle, registry.retain handle.library, trace)
    | none => registry.openAt path trace

/-! ## Unloading -/

/-- Why a module could not be closed: so many handles other than the catalog's are alive. -/
def sharedReason (others : Nat) : String :=
  "still referenced by " ++ toString others ++ " live handle(s)"

/-- Why a library stays open when a handle of it is dropped, given how many others are alive. -/
def reason? (loader : Loader) (library others : Nat) : Option String :=
  if others = 0 then
    match loader.close library with
    | .ok _ => none
    | .error reason => some reason
  else some (sharedReason others)

/-- Drops a handle that was taken out of the catalog. The failure, if the library stays open, is the
path and the reason. -/
def closeModule (registry : Registry) (handle : Handle) (trace : Trace) :
    Option (String × String) × Registry × Trace :=
  let others := registry.handlesOf handle.library - 1
  let reason := reason? registry.loader handle.library others
  let (registry, trace) := registry.release handle.library trace
  (reason.map (handle.path, ·), registry, trace)

/-- Takes the module of a path out of the catalog and drops the catalog's handle; a path that the
catalog does not have is passed over. -/
def unload (registry : Registry) (path : String) (trace : Trace) :
    Except Error Unit × Registry × Trace :=
  match registry.find? path with
  | none => (.ok (), registry, trace)
  | some handle =>
    let registry := { registry with
      catalog := registry.catalog.filter fun other => !Files.samePath other.path path }
    let (failure, registry, trace) := registry.closeModule handle trace
    (match failure with
      | none => .ok ()
      | some failure => .error (.moduleUnload [failure]), registry, trace)

/-- Drops handles that were taken out of the catalog, one after the other. -/
def closeAll (registry : Registry) (trace : Trace) :
    List Handle → List (String × String) × Registry × Trace
  | [] => ([], registry, trace)
  | handle :: rest =>
    let (failure, registry, trace) := registry.closeModule handle trace
    let (failures, registry, trace) := closeAll registry trace rest
    (failure.toList ++ failures, registry, trace)

/-- Whether a failure is listed before another: by path, then by reason. -/
def failureBefore (a b : String × String) : Bool :=
  (((Files.Path.ofText a.1).compare (.ofText b.1)).then (compare a.2 b.2)).isLE

/-- Takes all modules out of the catalog and drops the catalog's handles. -/
def teardown (registry : Registry) (trace : Trace) : Except Error Unit × Registry × Trace :=
  let (failures, registry, trace) :=
    { registry with catalog := [] }.closeAll trace registry.catalog
  (if failures.isEmpty then .ok ()
    else .error (.moduleUnload (failures.mergeSort failureBefore)), registry, trace)

/-! ## Text -/

/-- The registry as a record. -/
def recordText (registry : Registry) : String :=
  "ModuleRegistry \x7b modules: " ++
    Text.listed (registry.catalog.map fun handle => Text.quoted handle.path) ++
    ", retry: " ++ registry.retry.recordText ++ " \x7d"

end Registry

end ForeignEval

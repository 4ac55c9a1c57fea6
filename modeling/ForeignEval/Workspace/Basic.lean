import ForeignEval.Workspace.Step

/-!
# Workspaces

A workspace holds named handles, bindings, states, caches and runners over one registry. A module
stays loaded while something in the workspace needs it: a named handle, or a binding that has a
name or is used by a runner. Caches may be shared by several evaluators, so runners refer to them
by number.

* **Users of bindings** — `Workspace.retainBinding` and `Workspace.releaseBinding` count them; the
  last user to go drops the binding's handle.
* **Runners** — `Workspace.putRunner` and `Workspace.endRunner` keep the count right and shut
  sessions down.
-/

namespace ForeignEval

open Foreign (Call Event Trace)
open Workspace (Name SessionView RunnerView Value)

/-- Something that evaluates. An evaluator or pool has its cache in the workspace; the one in its
own record is filled in when it is used. -/
inductive RunnerKind where
  | session (session : Session)
  | evaluator (session : Session) (cache : Nat)
  /-- Several sessions with a cache. -/
  | pool (pool : Pool) (cache : Nat)

/-- A runner and the binding that it uses. -/
structure Runner where
  binding : Binding
  /-- What it is. -/
  kind : RunnerKind

/-- Named things over one registry. -/
structure Workspace where
  /-- The registry of modules. -/
  registry : Registry
  /-- The directories in which modules are looked for. -/
  search : SearchPath
  /-- The file system. -/
  disk : Files.Disk
  /-- The machine that evaluations run on. -/
  machine : Machine
  /-- Whether the registry asks a locator of its own and not the search path. -/
  ownLocator : Bool
  /-- What has happened so far. -/
  trace : Trace
  /-- The number of the next binding. -/
  nextBinding : Nat
  /-- How many users each live binding has, by identity. -/
  users : List (Nat × Nat)
  handles : List (Name × Handle)
  bindings : List (Name × Binding)
  states : List (Name × State)
  caches : List Cache
  /-- The numbers of the named caches. -/
  cacheNames : List (Name × Nat)
  runners : List (Name × Runner)

namespace Workspace

/-! ## Names -/

/-- The named things without a name. -/
def without {α : Type} (named : List (Name × α)) (id : Name) : List (Name × α) :=
  named.filter fun (name, _) => name ≠ id

/-- The named things with a name given to a thing. -/
def withName {α : Type} (named : List (Name × α)) (id : Name) (thing : α) : List (Name × α) :=
  (id, thing) :: without named id

/-- Named things in the order of their names. -/
def inOrder {α : Type} (named : List (Name × α)) : List (Name × α) :=
  named.mergeSort fun a b => a.1 ≤ b.1

/-! ## Handles and bindings -/

/-- The workspace after a handle was dropped. -/
def releaseHandle (w : Workspace) (handle : Handle) : Workspace :=
  let (registry, trace) := w.registry.release handle.library w.trace
  { w with registry, trace }

/-- How many users a binding has. -/
def usersOf (w : Workspace) (binding : Binding) : Nat := (w.users.lookup binding.id).getD 0

/-- The workspace after a binding got one more user. -/
def retainBinding (w : Workspace) (binding : Binding) : Workspace :=
  { w with
    users := (binding.id, w.usersOf binding + 1) :: w.users.filter fun (id, _) => id ≠ binding.id }

/-- The workspace after a binding lost a user; with the last one goes the handle that the binding
keeps. -/
def releaseBinding (w : Workspace) (binding : Binding) : Workspace :=
  let others := w.users.filter fun (id, _) => id ≠ binding.id
  if w.usersOf binding ≤ 1 then
    let w := { w with users := others }
    match binding.module? with
    | some handle => w.releaseHandle handle
    | none => w
  else { w with users := (binding.id, w.usersOf binding - 1) :: others }

/-- Gives a name to a handle; the handle that had the name is dropped. -/
def putHandle (w : Workspace) (id : Name) (handle : Handle) : Workspace :=
  let old := w.handles.lookup id
  let w := { w with handles := withName w.handles id handle }
  match old with
  | some old => w.releaseHandle old
  | none => w

/-- Drops the handle of a name, if there is one. -/
def dropHandle (w : Workspace) (id : Name) : Workspace :=
  match w.handles.lookup id with
  | some handle => { w with handles := without w.handles id }.releaseHandle handle
  | none => w

/-- Gives a name to a binding; the binding that had the name loses a user. -/
def putBinding (w : Workspace) (id : Name) (binding : Binding) : Workspace :=
  let old := w.bindings.lookup id
  let w := { w with bindings := withName w.bindings id binding }.retainBinding binding
  match old with
  | some old => w.releaseBinding old
  | none => w

/-- Takes a name away from its binding, if it has one. -/
def dropBinding (w : Workspace) (id : Name) : Workspace :=
  match w.bindings.lookup id with
  | some binding => { w with bindings := without w.bindings id }.releaseBinding binding
  | none => w

/-! ## Caches -/

/-- The cache of a number. -/
def cacheAt (w : Workspace) (number : Nat) : Cache := (w.caches[number]?).getD default

/-- The workspace with a cache replaced. -/
def setCache (w : Workspace) (number : Nat) (cache : Cache) : Workspace :=
  { w with caches := w.caches.set number cache }

/-- The workspace with one more cache, which has no name, and its number. -/
def addCache (w : Workspace) (cache : Cache) : Nat × Workspace :=
  (w.caches.length, { w with caches := w.caches ++ [cache] })

/-- The name under which the cache of a runner can be reached. -/
def cacheNameOf (id : Name) : Name := "@" ++ id

/-- The workspace with a name given to the cache of a number. -/
def nameCache (w : Workspace) (name : Name) (number : Nat) : Workspace :=
  { w with cacheNames := withName w.cacheNames name number }

/-! ## Runners -/

/-- Ends the sessions of a runner. -/
def shutDown (runner : Runner) (trace : Trace) : Except Error Unit × Trace :=
  match runner.kind with
  | .session session | .evaluator session _ => session.close trace
  | .pool pool _ => pool.close trace

/-- Ends a runner that has lost its name: its sessions are shut down and its binding loses a
user. -/
def endRunner (w : Workspace) (runner : Runner) : Except Error Unit × Workspace :=
  let (closed, trace) := shutDown runner w.trace
  (closed, { w with trace }.releaseBinding runner.binding)

/-- Gives a name to a new runner; the runner that had the name is ended. -/
def putRunner (w : Workspace) (id : Name) (runner : Runner) : Workspace :=
  let old := w.runners.lookup id
  let w := { w with runners := withName w.runners id runner }.retainBinding runner.binding
  match old with
  | some old => (w.endRunner old).2
  | none => w

/-- Replaces the runner of a name by what has become of it. -/
def setRunner (w : Workspace) (id : Name) (runner : Runner) : Workspace :=
  { w with runners := withName w.runners id runner }

/-- Takes the name away from a runner, which is left to the caller. -/
def takeRunner (w : Workspace) (id : Name) : Workspace :=
  { w with runners := without w.runners id }

/-- Closes the runner of a name, if there is one. -/
def closeRunner (w : Workspace) (id : Name) : Option (Except Error Unit) × Workspace :=
  match w.runners.lookup id with
  | some runner =>
    let (closed, w) := (w.takeRunner id).endRunner runner
    (some closed, w)
  | none => (none, w)

/-! ## Views -/

/-- What there is to say about a session. -/
def viewOf (session : Session) : SessionView :=
  ⟨session.function, session.info, session.phase, session.evaluations⟩

/-- What there is to say about a runner. -/
def view (w : Workspace) (runner : Runner) : RunnerView :=
  match runner.kind with
  | .session session => .session (viewOf session)
  | .evaluator session cache =>
    .evaluator (viewOf session) session.evaluations (w.cacheAt cache).stats
  | .pool pool cache => .pool pool.workers.length pool.info pool.calls (w.cacheAt cache).stats

/-- A runner as a record. -/
def recordOf (w : Workspace) (runner : Runner) : String :=
  match runner.kind with
  | .session session => session.recordText
  | .evaluator session cache => (Evaluator.mk session (w.cacheAt cache)).recordText
  | .pool pool _ => pool.recordText

end Workspace

end ForeignEval

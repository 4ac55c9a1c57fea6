import ForeignEval.Proofs.Registry.Owners
import ForeignEval.Proofs.Workspace.Calls
import Mathlib.Data.List.Dedup

/-!
# What keeps libraries open

In a workspace a library is kept open by the catalog, by handles that have a name, and by bindings.
A binding keeps one handle, however many names and runners use it, and drops it with the last of
them. A workspace is **housed** when its counts are those of what is there: handles, bindings and
runners may be loose for a while, between losing one name and getting another or being dropped.

* **Users** — `Workspace.Enrolled`: the users of bindings are counted by identity.
* **Invariant** — `Workspace.Housed`, and `Housed.rearrange` for things that change hands.
* **Handles** — `Housed.putHandle` and `Housed.dropHandle`.
* **Bindings** — `Housed.retainBinding` and `Housed.releaseBinding`, and names for bindings.
* **Runners** — `Housed.endRunner`, `Housed.putRunner` and `Housed.closeRunner`.
-/

namespace ForeignEval

open Foreign (Event Trace)
open Workspace (Name)
open scoped List

/-- The handle that a binding keeps: its own identity and the library. -/
def Binding.stake? (binding : Binding) : Option (Nat × Nat) :=
  binding.module?.map fun handle => (binding.id, handle.library)

namespace Workspace

/-- The libraries that bindings keep open; each binding keeps one handle, however often it is
listed. -/
def keptBy (holders : List Binding) : List Nat :=
  (holders.filterMap Binding.stake?).dedup.map (·.2)

section KeptBy

variable {binding : Binding} {holders others : List Binding} {library : Nat}

theorem perm_keptBy (same : holders ~ others) : keptBy holders ~ keptBy others :=
  (same.filterMap _).dedup.map _

theorem keptBy_cons_of_mem (mem : binding ∈ holders) :
    keptBy (binding :: holders) = keptBy holders := by
  unfold keptBy
  rw [List.filterMap_cons]
  cases stake : binding.stake? with
  | none => rfl
  | some pair =>
    have there : pair ∈ holders.filterMap Binding.stake? :=
      List.mem_filterMap.2 ⟨binding, mem, stake⟩
    dsimp only
    rw [List.dedup_cons_of_mem there]

/-- A binding of another identity keeps a handle of its own. -/
theorem keptBy_cons_of_fresh (fresh : ∀ other ∈ holders, other.id ≠ binding.id) :
    keptBy (binding :: holders) = (binding.module?.map (·.library)).toList ++ keptBy holders := by
  unfold keptBy
  rw [List.filterMap_cons]
  cases kept : binding.module? with
  | none => simp [Binding.stake?, kept]
  | some handle =>
    have absent : (binding.id, handle.library) ∉ holders.filterMap Binding.stake? := by
      intro mem
      obtain ⟨other, there, stake⟩ := List.mem_filterMap.1 mem
      obtain ⟨_, -, same⟩ := Option.map_eq_some_iff.1 stake
      exact fresh other there (congrArg Prod.fst same)
    have stake : binding.stake? = some (binding.id, handle.library) := by
      rw [Binding.stake?, kept]
      rfl
    simp only [stake]
    rw [List.dedup_cons_of_notMem absent]
    rfl

theorem mem_keptBy (mem : binding ∈ holders) (keeps : library ∈ binding.module?.map (·.library)) :
    library ∈ keptBy holders := by
  obtain ⟨handle, kept, rfl⟩ := Option.map_eq_some_iff.1 keeps
  refine List.mem_map.2 ⟨(binding.id, handle.library), List.mem_dedup.2 ?_, rfl⟩
  refine List.mem_filterMap.2 ⟨binding, mem, ?_⟩
  rw [Binding.stake?, kept]
  rfl

end KeptBy

/-! ## Users -/

/-- These are the users of bindings: each binding has as many as it is listed, under its
identity. -/
structure Enrolled (holders : List Binding) (users : List (Nat × Nat)) (next : Nat) : Prop where
  /-- Users are counted. -/
  counted : ∀ id, (users.lookup id).getD 0 = holders.countP (·.id = id)
  /-- Identities have been given out. -/
  numbered : ∀ binding ∈ holders, binding.id < next
  /-- Bindings of one identity are the same. -/
  identified : ∀ a ∈ holders, ∀ b ∈ holders, a.id = b.id → a = b
  /-- A binding calls into the library of which it keeps a handle. -/
  homed : ∀ binding ∈ holders, binding.table.library = binding.module?.map (·.library)

namespace Enrolled

variable {binding : Binding} {holders others : List Binding} {users : List (Nat × Nat)} {next : Nat}

theorem perm (enrolled : Enrolled holders users next) (same : holders ~ others) :
    Enrolled others users next where
  counted id := (enrolled.counted id).trans (same.countP_eq _)
  numbered binding mem := enrolled.numbered binding (same.mem_iff.2 mem)
  identified a mem b mem' := enrolled.identified a (same.mem_iff.2 mem) b (same.mem_iff.2 mem')
  homed binding mem := enrolled.homed binding (same.mem_iff.2 mem)

theorem mono (enrolled : Enrolled holders users next) : Enrolled holders users (next + 1) :=
  ⟨enrolled.counted, fun binding mem => Nat.lt_succ_of_lt (enrolled.numbered binding mem),
    enrolled.identified, enrolled.homed⟩

/-- One user more, of a binding that is there or of a new one. -/
theorem retain (enrolled : Enrolled holders users next) (below : binding.id < next)
    (known : ∀ other ∈ holders, other.id = binding.id → other = binding)
    (homed : binding.table.library = binding.module?.map (·.library)) :
    Enrolled (binding :: holders) ((binding.id, (users.lookup binding.id).getD 0 + 1) ::
      users.filter fun (id, _) => id ≠ binding.id) next where
  counted id := by
    rw [List.lookup_cons, List.countP_cons, ← enrolled.counted]
    by_cases same : id = binding.id
    · simp [same]
    · rw [beq_false_of_ne same, lookup_filter_ne]
      simp [same, Ne.symm same]
  numbered := List.forall_mem_cons.2 ⟨below, enrolled.numbered⟩
  identified a mem b mem' same := by
    rcases List.mem_cons.1 mem with rfl | there
    · rcases List.mem_cons.1 mem' with rfl | there'
      · rfl
      · exact (known b there' same.symm).symm
    · rcases List.mem_cons.1 mem' with rfl | there'
      · exact known a there same
      · exact enrolled.identified a there b there' same
  homed := List.forall_mem_cons.2 ⟨homed, enrolled.homed⟩

/-- A user less, however the count of the binding is kept. -/
theorem release (enrolled : Enrolled (binding :: holders) users next) {left : List (Nat × Nat)}
    (other : ∀ id, id ≠ binding.id → left.lookup id = users.lookup id)
    (one : (left.lookup binding.id).getD 0 = (users.lookup binding.id).getD 0 - 1) :
    Enrolled holders left next where
  counted id := by
    have before := enrolled.counted id
    rw [List.countP_cons] at before
    by_cases same : id = binding.id
    · subst same
      rw [one, before]
      simp
    · rw [other id same, before]
      simp [Ne.symm same]
  numbered := (List.forall_mem_cons.1 enrolled.numbered).2
  identified a mem b mem' := enrolled.identified a (List.mem_cons_of_mem _ mem) b
    (List.mem_cons_of_mem _ mem')
  homed := (List.forall_mem_cons.1 enrolled.homed).2

end Enrolled

/-! ## Invariant -/

/-- The bindings of all users: those that have a name and those of runners. -/
def holders (w : Workspace) : List Binding :=
  w.bindings.map (·.2) ++ w.runners.map (·.2.binding)

/-- Everything is counted, when these bindings have a user more than the workspace shows, and a
handle of each of these libraries is in nobody's hands. This loader opens and closes libraries. -/
structure Housed (loader : Loader) (loose : List Binding) (spare : List Nat) (w : Workspace) :
    Prop where
  handleNames : (w.handles.map (·.1)).Nodup
  bindingNames : (w.bindings.map (·.1)).Nodup
  runnerNames : (w.runners.map (·.1)).Nodup
  /-- The sessions of runners are on their bindings. -/
  seated : ∀ named ∈ w.runners, named.2.Seated
  enrolled : Enrolled (loose ++ w.holders) w.users w.nextBinding
  accounted : w.registry.Accounted loader
    (spare ++ w.handles.map (·.2.library) ++ keptBy (loose ++ w.holders)) w.trace

namespace Housed

variable {w later : Workspace} {loose loose' : List Binding} {spare spare' : List Nat}
  {id : Name} {binding : Binding} {handle : Handle} {runner : Runner} {loader : Loader}

/-- Handles and bindings change hands. -/
theorem rearrange (housed : w.Housed loader loose spare) (registry : later.registry = w.registry)
    (trace : later.trace = w.trace) (users : later.users = w.users)
    (next : later.nextBinding = w.nextBinding) (handleNames : (later.handles.map (·.1)).Nodup)
    (bindingNames : (later.bindings.map (·.1)).Nodup)
    (runnerNames : (later.runners.map (·.1)).Nodup)
    (seated : ∀ named ∈ later.runners, named.2.Seated)
    (holders : loose ++ w.holders ~ loose' ++ later.holders)
    (owners : spare ++ w.handles.map (·.2.library) ~ spare' ++ later.handles.map (·.2.library)) :
    later.Housed loader loose' spare' where
  handleNames := handleNames
  bindingNames := bindingNames
  runnerNames := runnerNames
  seated := seated
  enrolled := by
    rw [users, next]
    exact housed.enrolled.perm holders
  accounted := by
    rw [registry, trace]
    exact housed.accounted.perm (owners.append (perm_keptBy holders))

/-- Caches and states keep nothing open. -/
theorem others (housed : w.Housed loader loose spare) (caches : List Cache)
    (cacheNames : List (Name × Nat)) (states : List (Name × State)) :
    Housed loader loose spare { w with caches, cacheNames, states } :=
  housed.rearrange rfl rfl rfl rfl housed.handleNames housed.bindingNames housed.runnerNames
    housed.seated (.refl _) (.refl _)

/-- Calls are made through a binding that has a user. -/
theorem calls (housed : w.Housed loader loose spare) (mem : binding ∈ loose ++ w.holders)
    {trace : Trace} (calls : binding.Calls w.trace trace) :
    Housed loader loose spare { w with trace } where
  handleNames := housed.handleNames
  bindingNames := housed.bindingNames
  runnerNames := housed.runnerNames
  seated := housed.seated
  enrolled := housed.enrolled
  accounted := by
    refine housed.accounted.calls (fun library place => ?_) calls
    rw [housed.enrolled.homed binding mem] at place
    exact List.mem_append_right _ (mem_keptBy mem place)

/-- The registry has been used; the handles that came of it are in nobody's hands. -/
theorem withRegistry (housed : w.Housed loader loose spare) {registry : Registry} {trace : Trace}
    (accounted : registry.Accounted loader
      (spare' ++ w.handles.map (·.2.library) ++ keptBy (loose ++ w.holders)) trace) :
    Housed loader loose spare' { w with registry, trace } where
  handleNames := housed.handleNames
  bindingNames := housed.bindingNames
  runnerNames := housed.runnerNames
  seated := housed.seated
  enrolled := housed.enrolled
  accounted := accounted

/-! ## Handles -/

theorem releaseHandle (housed : w.Housed loader loose (handle.library :: spare)) :
    (w.releaseHandle handle).Housed loader loose spare :=
  housed.withRegistry housed.accounted.release

theorem putHandle (housed : w.Housed loader loose (handle.library :: spare)) :
    (w.putHandle id handle).Housed loader loose spare := by
  have swapped : handle :: w.handles.map (·.2) ~
      (w.handles.lookup id).toList ++ (withName w.handles id handle).map (·.2) :=
    perm_withName housed.handleNames
  have owners := swapped.map (·.library)
  rw [List.map_cons, List.map_append, List.map_map, List.map_map] at owners
  have named : Housed loader loose ((w.handles.lookup id).toList.map (·.library) ++ spare)
      { w with handles := withName w.handles id handle } :=
    housed.rearrange rfl rfl rfl rfl (nodup_withName housed.handleNames) housed.bindingNames
      housed.runnerNames housed.seated (.refl _) (perm_exchange owners spare)
  unfold Workspace.putHandle
  cases found : w.handles.lookup id with
  | none =>
    rw [found] at named
    exact named
  | some old =>
    rw [found] at named
    exact named.releaseHandle

theorem dropHandle (housed : w.Housed loader loose spare) :
    (w.dropHandle id).Housed loader loose spare := by
  unfold Workspace.dropHandle
  cases found : w.handles.lookup id with
  | none => exact housed
  | some handle =>
    have owners : spare ++ w.handles.map (·.2.library) ~
        handle.library :: spare ++ (without w.handles id).map (·.2.library) :=
      (((perm_without housed.handleNames found).map (·.2.library)).append_left spare).trans
        List.perm_middle
    have unnamed : Housed loader loose (handle.library :: spare)
        { w with handles := without w.handles id } :=
      housed.rearrange rfl rfl rfl rfl (nodup_without housed.handleNames) housed.bindingNames
        housed.runnerNames housed.seated (.refl _) owners
    exact unnamed.releaseHandle

/-! ## Bindings -/

/-- A handle passes from nobody's hands to a binding. -/
theorem perm_handover (kept spare handles rest : List Nat) :
    kept ++ spare ++ handles ++ rest ~ spare ++ handles ++ (kept ++ rest) := by
  rw [List.append_assoc kept, List.append_assoc kept]
  exact List.perm_append_comm_assoc _ _ _

/-- A binding that is in use gets one more user. -/
theorem retainBinding (housed : w.Housed loader loose spare) (mem : binding ∈ loose ++ w.holders) :
    (w.retainBinding binding).Housed loader (binding :: loose) spare where
  handleNames := housed.handleNames
  bindingNames := housed.bindingNames
  runnerNames := housed.runnerNames
  seated := housed.seated
  enrolled := housed.enrolled.retain (housed.enrolled.numbered binding mem)
    (fun other there same => housed.enrolled.identified other there binding mem same)
    (housed.enrolled.homed binding mem)
  accounted := by
    show w.registry.Accounted loader (_ ++ keptBy (binding :: (loose ++ w.holders))) w.trace
    rw [keptBy_cons_of_mem mem]
    exact housed.accounted

/-- A new binding gets its first user and takes over the handle that it keeps. -/
theorem retainNew
    (housed : w.Housed loader loose ((binding.module?.map (·.library)).toList ++ spare))
    (new : binding.id = w.nextBinding) (homed : binding.table.library = binding.module?.map (·.library)) :
    Housed loader (binding :: loose) spare
      ({ w with nextBinding := w.nextBinding + 1 }.retainBinding binding) := by
  have fresh : ∀ other ∈ loose ++ w.holders, other.id ≠ binding.id := fun other mem => by
    rw [new]
    exact Nat.ne_of_lt (housed.enrolled.numbered other mem)
  refine ⟨housed.handleNames, housed.bindingNames, housed.runnerNames, housed.seated, ?_, ?_⟩
  · refine housed.enrolled.mono.retain ?_ (fun other mem same => absurd same (fresh other mem))
      homed
    rw [new]
    exact Nat.lt_succ_self _
  · show w.registry.Accounted loader
      (spare ++ w.handles.map (·.2.library) ++ keptBy (binding :: (loose ++ w.holders))) w.trace
    rw [keptBy_cons_of_fresh fresh]
    refine housed.accounted.perm ?_
    exact perm_handover _ _ _ _

/-- A binding loses a user, and its handle with the last one. -/
theorem releaseBinding (housed : w.Housed loader (binding :: loose) spare) :
    (w.releaseBinding binding).Housed loader loose spare := by
  have enrolled : Enrolled (binding :: (loose ++ w.holders)) w.users w.nextBinding :=
    housed.enrolled
  have users : w.usersOf binding = (loose ++ w.holders).countP (·.id = binding.id) + 1 := by
    have counted := enrolled.counted binding.id
    rw [List.countP_cons_of_pos (by simp)] at counted
    exact counted
  have apart (id : Nat) (other : id ≠ binding.id) :
      (w.users.filter fun (id, _) => id ≠ binding.id).lookup id = w.users.lookup id := by
    rw [lookup_filter_ne, if_neg other]
  unfold Workspace.releaseBinding
  by_cases last : w.usersOf binding ≤ 1
  · rw [if_pos last]
    have fresh : ∀ other ∈ loose ++ w.holders, other.id ≠ binding.id := by
      have none : (loose ++ w.holders).countP (·.id = binding.id) = 0 := by omega
      intro other mem
      simpa using List.countP_eq_zero.1 none other mem
    have left : Housed loader loose ((binding.module?.map (·.library)).toList ++ spare)
        { w with users := w.users.filter fun (id, _) => id ≠ binding.id } := by
      refine ⟨housed.handleNames, housed.bindingNames, housed.runnerNames, housed.seated,
        enrolled.release apart ?_, housed.accounted.perm ?_⟩
      · rw [lookup_filter_ne, if_pos rfl]
        have one : (w.users.lookup binding.id).getD 0 ≤ 1 := last
        show 0 = _
        omega
      · show spare ++ w.handles.map (·.2.library) ++ keptBy (binding :: (loose ++ w.holders)) ~ _
        rw [keptBy_cons_of_fresh fresh]
        exact (perm_handover _ _ _ _).symm
    cases kept : binding.module? with
    | none =>
      rw [kept] at left
      exact left
    | some handle =>
      rw [kept] at left
      exact left.releaseHandle
  · rw [if_neg last]
    have more : 0 < (loose ++ w.holders).countP (·.id = binding.id) := by omega
    obtain ⟨other, mem, same⟩ := List.countP_pos_iff.1 more
    have same : other = binding := enrolled.identified other (List.mem_cons_of_mem _ mem) binding
      List.mem_cons_self (by simpa using same)
    subst same
    refine ⟨housed.handleNames, housed.bindingNames, housed.runnerNames, housed.seated,
      enrolled.release (fun id different => ?_) ?_, ?_⟩
    · rw [List.lookup_cons, beq_false_of_ne different]
      exact apart id different
    · rw [List.lookup_cons_self]
      rfl
    · have accounted := housed.accounted
      rw [List.cons_append, keptBy_cons_of_mem mem] at accounted
      exact accounted

/-- A name is given to a binding, and the binding that had it becomes loose. -/
theorem nameBinding (housed : w.Housed loader (binding :: loose) spare) (id : Name) :
    Housed loader ((w.bindings.lookup id).toList ++ loose) spare
      { w with bindings := withName w.bindings id binding } := by
  have swapped : binding :: w.bindings.map (·.2) ~
      (w.bindings.lookup id).toList ++ (withName w.bindings id binding).map (·.2) :=
    perm_withName housed.bindingNames
  have holders := swapped.append_right (w.runners.map (·.2.binding))
  rw [List.append_assoc] at holders
  exact housed.rearrange rfl rfl rfl rfl housed.handleNames (nodup_withName housed.bindingNames)
    housed.runnerNames housed.seated (perm_exchange holders loose) (.refl _)

/-- A binding that has got a user for it gets a name. -/
theorem putBinding {before : Workspace}
    (retained : (before.retainBinding binding).Housed loader (binding :: loose) spare) (id : Name) :
    (before.putBinding id binding).Housed loader loose spare := by
  have named := retained.nameBinding id
  unfold Workspace.putBinding
  cases found : before.bindings.lookup id with
  | none =>
    have found' : (before.retainBinding binding).bindings.lookup id = none := found
    rw [found'] at named
    exact named
  | some old =>
    have found' : (before.retainBinding binding).bindings.lookup id = some old := found
    rw [found'] at named
    exact named.releaseBinding

theorem dropBinding (housed : w.Housed loader loose spare) :
    (w.dropBinding id).Housed loader loose spare := by
  unfold Workspace.dropBinding
  cases found : w.bindings.lookup id with
  | none => exact housed
  | some binding =>
    have parts := (perm_without housed.bindingNames found).map (·.2)
    have holders : loose ++ w.holders ~ binding :: loose ++
        ((without w.bindings id).map (·.2) ++ w.runners.map (·.2.binding)) :=
      ((parts.append_right _).append_left loose).trans List.perm_middle
    have unnamed : Housed loader (binding :: loose) spare
        { w with bindings := without w.bindings id } :=
      housed.rearrange rfl rfl rfl rfl housed.handleNames (nodup_without housed.bindingNames)
        housed.runnerNames housed.seated holders (.refl _)
    exact unnamed.releaseBinding

/-! ## Runners -/

theorem takeRunner (housed : w.Housed loader loose spare)
    (found : w.runners.lookup id = some runner) :
    (w.takeRunner id).Housed loader (runner.binding :: loose) spare := by
  have parts := (perm_without housed.runnerNames found).map (·.2.binding)
  have holders : loose ++ w.holders ~ runner.binding :: loose ++
      (w.bindings.map (·.2) ++ (without w.runners id).map (·.2.binding)) :=
    calc loose ++ w.holders
        ~ loose ++ (w.bindings.map (·.2) ++
            runner.binding :: (without w.runners id).map (·.2.binding)) :=
          (parts.append_left _).append_left loose
      _ ~ loose ++ runner.binding ::
            (w.bindings.map (·.2) ++ (without w.runners id).map (·.2.binding)) :=
          List.perm_middle.append_left loose
      _ ~ _ := List.perm_middle
  exact housed.rearrange rfl rfl rfl rfl housed.handleNames housed.bindingNames
    (nodup_without housed.runnerNames)
    (fun named mem => housed.seated named (List.mem_filter.1 mem).1) holders (.refl _)

/-- A name is given to a runner, and the runner that had it becomes loose. -/
theorem nameRunner (housed : w.Housed loader (runner.binding :: loose) spare)
    (seated : runner.Seated) (id : Name) :
    Housed loader ((w.runners.lookup id).toList.map (·.binding) ++ loose) spare
      { w with runners := withName w.runners id runner } := by
  have swapped : runner :: w.runners.map (·.2) ~
      (w.runners.lookup id).toList ++ (withName w.runners id runner).map (·.2) :=
    perm_withName housed.runnerNames
  have holders := swapped.map (·.binding)
  rw [List.map_cons, List.map_append, List.map_map, List.map_map] at holders
  have exchanged := perm_exchange holders (loose ++ w.bindings.map (·.2))
  refine housed.rearrange rfl rfl rfl rfl housed.handleNames housed.bindingNames
    (nodup_withName housed.runnerNames) ?_ ?_ (.refl _)
  · refine List.forall_mem_cons.2 ⟨seated, fun named mem => ?_⟩
    exact housed.seated named (List.mem_filter.1 mem).1
  · unfold Workspace.holders
    rw [← List.append_assoc, ← List.append_assoc, List.append_assoc _ loose]
    exact exchanged

/-- A runner that has lost its name is shut down, and its binding loses a user. -/
theorem endRunner (housed : w.Housed loader (runner.binding :: loose) spare)
    (seated : runner.Seated) : (w.endRunner runner).2.Housed loader loose spare :=
  (housed.calls List.mem_cons_self (seated.shutDown w.trace)).releaseBinding

/-- A new runner on a binding that is in use. -/
theorem putRunner (housed : w.Housed loader loose spare) (mem : runner.binding ∈ loose ++ w.holders)
    (seated : runner.Seated) (id : Name) : (w.putRunner id runner).Housed loader loose spare := by
  have named := (housed.retainBinding mem).nameRunner seated id
  unfold Workspace.putRunner
  cases found : w.runners.lookup id with
  | none =>
    have found' : (w.retainBinding runner.binding).runners.lookup id = none := found
    rw [found'] at named
    exact named
  | some old =>
    have found' : (w.retainBinding runner.binding).runners.lookup id = some old := found
    rw [found'] at named
    exact named.endRunner (housed.seated _ (mem_of_lookup found))

theorem closeRunner (housed : w.Housed loader loose spare) (id : Name) :
    (w.closeRunner id).2.Housed loader loose spare := by
  unfold Workspace.closeRunner
  cases found : w.runners.lookup id with
  | none => exact housed
  | some runner =>
    exact (housed.takeRunner found).endRunner (housed.seated _ (mem_of_lookup found))

/-- A runner is replaced by what has become of it. -/
theorem setRunner (housed : w.Housed loader loose spare) {old : Runner}
    (found : w.runners.lookup id = some old) (same : runner.binding = old.binding)
    (seated : runner.Seated) : (w.setRunner id runner).Housed loader loose spare := by
  have parts := (perm_without housed.runnerNames found).map (·.2.binding)
  rw [List.map_cons, ← same] at parts
  refine housed.rearrange rfl rfl rfl rfl housed.handleNames housed.bindingNames
    (nodup_withName housed.runnerNames) ?_ ((parts.append_left _).append_left loose) (.refl _)
  refine List.forall_mem_cons.2 ⟨seated, fun named mem => ?_⟩
  exact housed.seated named (List.mem_filter.1 mem).1

end Housed

end Workspace

end ForeignEval

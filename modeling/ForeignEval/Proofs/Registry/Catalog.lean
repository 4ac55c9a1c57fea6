import ForeignEval.Registry
import Mathlib.Data.List.Nodup
import Mathlib.Data.List.Pairwise

/-!
# The catalog of a registry

Whatever is loaded and unloaded, the catalog has one module for each path at most, and the modules
in it are libraries that were opened under their paths, each a library of its own.

* **Paths** — `Registry.find?_of_mem`: a module is found under its path, and under no other.
* **Loading** — `Registry.Loads` lists the ways in which loading a module can end.
* **Invariant** — `Registry.Cataloged`, kept by loading, unloading and tearing down.
-/

namespace ForeignEval

open Foreign (Event Image Trace)

/-! ## Traces -/

namespace Foreign

/-- The library that an event opens, with its path. -/
def Event.opening? : Event → Option (Nat × String)
  | opened library path => some (library, path)
  | _ => none

/-- The libraries opened so far, with their paths. -/
def Trace.openings (trace : Trace) : List (Nat × String) := trace.filterMap Event.opening?

@[simp] theorem Trace.openings_append (before after : Trace) :
    openings (before ++ after) = openings before ++ openings after :=
  List.filterMap_append

@[simp] theorem Trace.openings_opened (trace : Trace) (library : Nat) (path : String) :
    openings (trace ++ [.opened library path]) = openings trace ++ [(library, path)] := by
  simp [openings, Event.opening?]

end Foreign

/-- Closing a library opens none, whether or not it can be closed. -/
@[simp] theorem Foreign.Trace.openings_closing (trace : Trace) (loader : Loader) (library : Nat) :
    openings (trace ++ [loader.closing library]) = openings trace := by
  unfold Loader.closing
  cases loader.close library with
  | ok | error => simp [openings, Event.opening?]

/-! ## Paths -/

section Paths

variable {a b c : String}

theorem Files.samePath_iff :
    samePath a b = true ↔ (Path.ofText a).components = (Path.ofText b).components :=
  decide_eq_true_iff

theorem Files.samePath_refl (a : String) : samePath a a = true := samePath_iff.2 rfl

theorem Files.samePath_symm (same : samePath a b = true) : samePath b a = true :=
  samePath_iff.2 (samePath_iff.1 same).symm

theorem Files.samePath_trans (first : samePath a b = true) (second : samePath b c = true) :
    samePath a c = true :=
  samePath_iff.2 ((samePath_iff.1 first).trans (samePath_iff.1 second))

theorem Files.samePath_congr (same : samePath a b = true) (c : String) :
    samePath c a = samePath c b := by
  unfold samePath
  rw [samePath_iff.1 same]

end Paths

namespace Registry

/-! ## Entries -/

/-- At most one module for each path. -/
def OnePerPath (catalog : List Handle) : Prop :=
  catalog.Pairwise fun a b => Files.samePath a.path b.path = false

section Entries

variable {registry : Registry} {handle other : Handle} {path : String}

theorem mem_of_find? (found : registry.find? path = some handle) :
    handle ∈ registry.catalog ∧ Files.samePath handle.path path = true := by
  unfold find? at found
  exact ⟨List.mem_of_find?_eq_some found, by simpa using List.find?_some found⟩

theorem other_of_find?_none (none : registry.find? path = none) (mem : handle ∈ registry.catalog) :
    Files.samePath handle.path path = false := by
  simpa using List.find?_eq_none.1 none handle mem

/-- Modules of one path are one entry. -/
theorem OnePerPath.eq_of_samePath {catalog : List Handle} (one : OnePerPath catalog)
    (mem : handle ∈ catalog) (mem' : other ∈ catalog)
    (same : Files.samePath handle.path other.path = true) : handle = other := by
  have : Std.Symm fun a b : Handle => Files.samePath a.path b.path = false :=
    ⟨fun a b apart => Bool.eq_false_iff.2 fun same =>
      Bool.eq_false_iff.1 apart (Files.samePath_symm same)⟩
  by_contra different
  have apart := List.Pairwise.forall one mem mem' different
  rw [apart] at same
  cases same

theorem find?_of_mem (one : OnePerPath registry.catalog) (mem : handle ∈ registry.catalog)
    (same : Files.samePath handle.path path = true) : registry.find? path = some handle := by
  cases found : registry.find? path with
  | none =>
    have apart := other_of_find?_none found mem
    rw [apart] at same
    cases same
  | some other =>
    obtain ⟨there, same'⟩ := mem_of_find? found
    have entry := one.eq_of_samePath there mem
      (Files.samePath_trans same' (Files.samePath_symm same))
    rw [entry]

/-- A module and those of other paths are the catalog. -/
theorem OnePerPath.perm_filter {catalog : List Handle} (one : OnePerPath catalog)
    (found : catalog.find? (fun handle => Files.samePath handle.path path) = some handle) :
    catalog.Perm (handle :: catalog.filter fun other => !Files.samePath other.path path) := by
  induction catalog with
  | nil => cases found
  | cons first rest ih =>
    obtain ⟨apart, one⟩ := List.pairwise_cons.1 one
    cases same : Files.samePath first.path path with
    | true =>
      rw [List.find?_cons, same] at found
      cases found
      have others : rest.filter (fun other => !Files.samePath other.path path) = rest := by
        refine List.filter_eq_self.2 fun other mem => ?_
        rw [← Files.samePath_congr same, Bool.not_eq_true', Bool.eq_false_iff]
        exact fun same' => Bool.eq_false_iff.1 (apart other mem) (Files.samePath_symm same')
      simp [same, others]
    | false =>
      rw [List.find?_cons, same] at found
      rw [List.filter_cons_of_pos (by simp [same])]
      exact ((ih one found).cons first).trans (List.Perm.swap _ _ _)

end Entries

/-! ## Loading -/

theorem resolvePath_snd (registry : Registry) (name : String) :
    ∃ located, (registry.resolvePath name).2 = { registry with located } := by
  unfold resolvePath
  dsimp only
  split
  · exact ⟨_, rfl⟩
  · exact ⟨_, rfl⟩
  · exact ⟨_, rfl⟩

/-- What comes of loading the module of a name. -/
inductive Loads (registry : Registry) (name : String) (trace : Trace) :
    Except Error Handle × Registry × Trace → Prop
  /-- The name has no path. -/
  | unresolved {e : Error} {located : Nat} (failed : (registry.resolvePath name).1 = .error e) :
      Loads registry name trace (.error e, { registry with located }, trace)
  /-- The module is in the catalog. -/
  | known {path : String} {handle : Handle} {located : Nat}
      (resolved : (registry.resolvePath name).1 = .ok path)
      (found : registry.find? path = some handle) :
      Loads registry name trace
        (.ok handle, { registry with located }.retain handle.library, trace)
  /-- The file cannot be opened as a module. -/
  | refused {path reason : String} {located : Nat}
      (resolved : (registry.resolvePath name).1 = .ok path)
      (absent : registry.find? path = none) :
      Loads registry name trace
        (.error (.moduleLoad path reason),
          { registry with located, attempted := registry.attempted + 1 }, trace)
  /-- The file is opened as a new library. -/
  | opened {path : String} {image : Image} {located : Nat}
      (resolved : (registry.resolvePath name).1 = .ok path)
      (absent : registry.find? path = none) :
      Loads registry name trace
        (.ok ⟨registry.opened, path, image⟩,
          { registry with
            located, attempted := registry.attempted + 1
            opened := registry.opened + 1
            catalog := registry.catalog ++ [⟨registry.opened, path, image⟩]
            libraries := registry.libraries ++ [⟨registry.opened, 2⟩] },
          trace ++ [.opened registry.opened path])

theorem loads_load (registry : Registry) (name : String) (trace : Trace) :
    registry.Loads name trace (registry.load name trace) := by
  obtain ⟨located, asked⟩ := registry.resolvePath_snd name
  cases resolved : registry.resolvePath name with
  | mk answer after =>
    rw [resolved] at asked
    subst asked
    have answered := congrArg Prod.fst resolved
    unfold load
    rw [resolved]
    cases answer with
    | error e => exact .unresolved answered
    | ok path =>
      dsimp only
      cases found : find? { registry with located } path with
      | some handle => exact .known answered found
      | none =>
        dsimp only [openAt]
        cases registry.loader.load registry.attempted path with
        | error reason => exact .refused answered found
        | ok image => exact .opened answered found

/-! ## Invariant -/

/-- The modules of the catalog are opened libraries of their paths, and each library was opened
once. -/
structure Cataloged (registry : Registry) (trace : Trace) : Prop where
  /-- No path has two modules. -/
  onePerPath : OnePerPath registry.catalog
  /-- A module in the catalog was opened under its path. -/
  opened : ∀ handle ∈ registry.catalog, (handle.library, handle.path) ∈ trace.openings
  /-- No library has two entries. -/
  libraries : (registry.catalog.map (·.library)).Nodup
  /-- Libraries are numbered as they are opened. -/
  numbered : trace.openings.map (·.1) = List.range registry.opened

namespace Cataloged

variable {registry later : Registry} {trace after : Trace} {library : Nat} {path other : String}

theorem new (locator : Locator) (loader : Loader) (retry : RetryPolicy) :
    (Registry.new locator loader retry).Cataloged [] where
  onePerPath := .nil
  opened := by simp [Registry.new]
  libraries := .nil
  numbered := rfl

/-- Modules may be taken out. -/
theorem shrink (cataloged : registry.Cataloged trace)
    (catalog : later.catalog.Sublist registry.catalog) (opened : later.opened = registry.opened)
    (openings : after.openings = trace.openings) : later.Cataloged after where
  onePerPath := cataloged.onePerPath.sublist catalog
  opened handle mem := by
    rw [openings]
    exact cataloged.opened handle (catalog.subset mem)
  libraries := (catalog.map _).nodup cataloged.libraries
  numbered := by
    rw [openings, opened]
    exact cataloged.numbered

theorem lt_opened (cataloged : registry.Cataloged trace)
    (mem : (library, path) ∈ trace.openings) : library < registry.opened := by
  rw [← List.mem_range, ← cataloged.numbered]
  exact List.mem_map.2 ⟨_, mem, rfl⟩

/-- A library is opened under one path. -/
theorem path_unique (cataloged : registry.Cataloged trace)
    (mem : (library, path) ∈ trace.openings) (mem' : (library, other) ∈ trace.openings) :
    path = other := by
  have once : (trace.openings.map (·.1)).Nodup := by
    rw [cataloged.numbered]
    exact List.nodup_range
  exact congrArg Prod.snd (List.inj_on_of_nodup_map once mem mem' rfl)

/-- A module of a path that the catalog does not have is added under the next number. -/
theorem add (cataloged : registry.Cataloged trace) {image : Image}
    (absent : registry.find? path = none)
    (catalog : later.catalog = registry.catalog ++ [⟨registry.opened, path, image⟩])
    (opened : later.opened = registry.opened + 1) :
    later.Cataloged (trace ++ [.opened registry.opened path]) where
  onePerPath := by
    rw [catalog]
    refine List.pairwise_append.2 ⟨cataloged.onePerPath, List.pairwise_singleton _ _, ?_⟩
    intro handle mem added new
    rw [List.mem_singleton.1 new]
    exact other_of_find?_none absent mem
  opened := by
    rw [catalog, Foreign.Trace.openings_opened]
    intro handle mem
    rcases List.mem_append.1 mem with old | new
    · exact List.mem_append_left _ (cataloged.opened handle old)
    · rw [List.mem_singleton.1 new]
      exact List.mem_append_right _ (List.mem_singleton.2 rfl)
  libraries := by
    rw [catalog, List.map_append]
    refine List.nodup_append.2 ⟨cataloged.libraries, List.nodup_singleton _, ?_⟩
    intro library mem added new
    obtain ⟨handle, there, rfl⟩ := List.mem_map.1 mem
    rw [List.mem_singleton.1 new]
    exact Nat.ne_of_lt (cataloged.lt_opened (cataloged.opened handle there))
  numbered := by
    rw [opened, Foreign.Trace.openings_opened, List.map_append, cataloged.numbered,
      List.range_succ]
    rfl

end Cataloged

/-! ## Operations -/

@[simp] theorem catalog_retain (registry : Registry) (library : Nat) :
    (registry.retain library).catalog = registry.catalog := rfl

@[simp] theorem opened_retain (registry : Registry) (library : Nat) :
    (registry.retain library).opened = registry.opened := rfl

section Release

variable (registry : Registry) (library : Nat) (trace : Trace)

@[simp] theorem catalog_release :
    (registry.release library trace).1.catalog = registry.catalog := by
  unfold release
  split
  · rfl
  · rfl

@[simp] theorem loader_release :
    (registry.release library trace).1.loader = registry.loader := by
  unfold release
  split
  · rfl
  · rfl

@[simp] theorem opened_release :
    (registry.release library trace).1.opened = registry.opened := by
  unfold release
  split
  · rfl
  · rfl

@[simp] theorem openings_release :
    (registry.release library trace).2.openings = trace.openings := by
  unfold release
  split
  · exact trace.openings_closing registry.loader library
  · rfl

@[simp] theorem catalog_closeAll (handles : List Handle) :
    (registry.closeAll trace handles).2.1.catalog = registry.catalog := by
  induction handles generalizing registry trace with
  | nil => rfl
  | cons handle handles ih =>
    exact (ih _ _).trans (registry.catalog_release handle.library trace)

@[simp] theorem opened_closeAll (handles : List Handle) :
    (registry.closeAll trace handles).2.1.opened = registry.opened := by
  induction handles generalizing registry trace with
  | nil => rfl
  | cons handle handles ih =>
    exact (ih _ _).trans (registry.opened_release handle.library trace)

@[simp] theorem openings_closeAll (handles : List Handle) :
    (registry.closeAll trace handles).2.2.openings = trace.openings := by
  induction handles generalizing registry trace with
  | nil => rfl
  | cons handle handles ih =>
    exact (ih _ _).trans (registry.openings_release handle.library trace)

end Release

theorem catalog_unload (registry : Registry) (path : String) (trace : Trace) :
    (registry.unload path trace).2.1.catalog =
      registry.catalog.filter fun handle => !Files.samePath handle.path path := by
  unfold unload
  cases found : registry.find? path with
  | none =>
    refine (List.filter_eq_self.2 fun handle mem => ?_).symm
    rw [other_of_find?_none found mem]
    rfl
  | some handle => exact catalog_release _ handle.library trace

@[simp] theorem opened_unload (registry : Registry) (path : String) (trace : Trace) :
    (registry.unload path trace).2.1.opened = registry.opened := by
  unfold unload
  cases registry.find? path with
  | none => rfl
  | some handle => exact opened_release _ handle.library trace

@[simp] theorem openings_unload (registry : Registry) (path : String) (trace : Trace) :
    (registry.unload path trace).2.2.openings = trace.openings := by
  unfold unload
  cases registry.find? path with
  | none => rfl
  | some handle => exact openings_release _ handle.library trace

theorem catalog_teardown (registry : Registry) (trace : Trace) :
    (registry.teardown trace).2.1.catalog = [] :=
  catalog_closeAll { registry with catalog := [] } trace registry.catalog

@[simp] theorem opened_teardown (registry : Registry) (trace : Trace) :
    (registry.teardown trace).2.1.opened = registry.opened :=
  opened_closeAll { registry with catalog := [] } trace registry.catalog

@[simp] theorem openings_teardown (registry : Registry) (trace : Trace) :
    (registry.teardown trace).2.2.openings = trace.openings :=
  openings_closeAll { registry with catalog := [] } trace registry.catalog

namespace Cataloged

variable {registry : Registry} {trace : Trace} (cataloged : registry.Cataloged trace)

include cataloged

theorem retain (library : Nat) : (registry.retain library).Cataloged trace :=
  cataloged.shrink (.refl _) rfl rfl

theorem release (library : Nat) :
    (registry.release library trace).1.Cataloged (registry.release library trace).2 :=
  cataloged.shrink (by rw [catalog_release]) (by rw [opened_release]) (by rw [openings_release])

/-- Whatever comes of a load, the catalog is right. -/
theorem load (name : String) :
    (registry.load name trace).2.1.Cataloged (registry.load name trace).2.2 := by
  have loads := registry.loads_load name trace
  generalize registry.load name trace = result at loads ⊢
  cases loads with
  | unresolved | known | refused => exact cataloged.shrink (.refl _) rfl rfl
  | opened resolved absent => exact cataloged.add absent rfl rfl

theorem unload (path : String) :
    (registry.unload path trace).2.1.Cataloged (registry.unload path trace).2.2 := by
  refine cataloged.shrink ?_ (opened_unload registry path trace)
    (openings_unload registry path trace)
  rw [catalog_unload]
  exact List.filter_sublist

theorem teardown : (registry.teardown trace).2.1.Cataloged (registry.teardown trace).2.2 := by
  refine cataloged.shrink ?_ (opened_teardown registry trace) (openings_teardown registry trace)
  rw [catalog_teardown]
  exact List.nil_sublist _

end Cataloged

end Registry

end ForeignEval

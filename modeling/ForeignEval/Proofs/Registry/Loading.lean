import ForeignEval.Proofs.Registry.Catalog

/-!
# Loading is idempotent

However files are found and opened, a path that is in the catalog is never opened again: loading it
answers the module that is there until the path is unloaded. The reason is a balance that all
requests keep but those which remove the path: a library of the path is opened when the path comes
into the catalog, and at no other time.

* **One load** — `Registry.load_ok`, `Registry.load_failed` and `Registry.load_of_mem`.
* **Removal-free stretches** — `Registry.mem_serveAll`: a module stays;
  `Registry.openingsOf_serveAll`: its path is opened once at most.
* **Result** — `Registry.loads_once`.
-/

namespace ForeignEval

open Foreign (Image Trace)

namespace Registry

/-- What can be asked of a registry. -/
inductive Request where
  | load (name : String)
  | unload (path : String)
  | teardown

/-- The registry and the trace after a request. -/
def serve (registry : Registry) (trace : Trace) : Request → Registry × Trace
  | .load name => (registry.load name trace).2
  | .unload path => (registry.unload path trace).2
  | .teardown => (registry.teardown trace).2

/-- The registry and the trace after requests in order. -/
def serveAll (registry : Registry) (trace : Trace) : List Request → Registry × Trace
  | [] => (registry, trace)
  | request :: rest =>
    (registry.serve trace request).1.serveAll (registry.serve trace request).2 rest

/-- Requests that do not remove the module of a path. -/
def Request.Spares (path : String) : Request → Prop
  | load _ => True
  | unload other => Files.samePath other path = false
  | teardown => False

/-- How often a library was opened under a path. -/
def openingsOf (path : String) (trace : Trace) : Nat :=
  trace.openings.countP fun opening => Files.samePath opening.2 path

/-! ## One load -/

section Load

variable {registry : Registry} {trace : Trace} {name path : String} {handle : Handle}

/-- A load that succeeds answers the catalog's module of the path. -/
theorem load_ok (ok : (registry.load name trace).1 = .ok handle) :
    ∃ path, (registry.resolvePath name).1 = .ok path ∧ Files.samePath handle.path path = true ∧
      handle ∈ (registry.load name trace).2.1.catalog := by
  have loads := registry.loads_load name trace
  generalize registry.load name trace = result at loads ok ⊢
  cases loads with
  | unresolved | refused => cases ok
  | known resolved found =>
    cases ok
    obtain ⟨mem, same⟩ := mem_of_find? found
    exact ⟨_, resolved, same, mem⟩
  | opened resolved absent =>
    cases ok
    exact ⟨_, resolved, Files.samePath_refl _, List.mem_append_right _ (List.mem_singleton.2 rfl)⟩

/-- The ways in which loading the module of a name fails. -/
def IsLoadError (name : String) (e : Error) : Prop :=
  (∃ searched, e = .moduleNotFound name searched) ∨
    (∃ attempts fault, e = .retryExhausted name attempts fault) ∨
    ∃ path reason, e = .moduleLoad path reason

theorem isLoadError_resolvePath {e : Error} (failed : (registry.resolvePath name).1 = .error e) :
    IsLoadError name e := by
  unfold resolvePath at failed
  dsimp only at failed
  split at failed
  · cases failed
  · cases failed
    exact .inl ⟨_, rfl⟩
  · cases failed
    exact .inr (.inl ⟨_, _, rfl⟩)

/-- A load that fails leaves the catalog and the libraries as they were. -/
theorem load_failed {e : Error} (failed : (registry.load name trace).1 = .error e) :
    IsLoadError name e ∧ (registry.load name trace).2.1.catalog = registry.catalog ∧
      (registry.load name trace).2.2 = trace := by
  have loads := registry.loads_load name trace
  generalize registry.load name trace = result at loads failed ⊢
  cases loads with
  | known | opened => cases failed
  | unresolved unresolved =>
    cases failed
    exact ⟨isLoadError_resolvePath unresolved, rfl, rfl⟩
  | refused =>
    cases failed
    exact ⟨.inr (.inr ⟨_, _, rfl⟩), rfl, rfl⟩

/-- A module of the catalog is answered to every load of its path. -/
theorem load_of_mem (one : OnePerPath registry.catalog) (mem : handle ∈ registry.catalog)
    (resolved : (registry.resolvePath name).1 = .ok path)
    (same : Files.samePath handle.path path = true) :
    (registry.load name trace).1 = .ok handle := by
  have there := find?_of_mem one mem same
  have loads := registry.loads_load name trace
  generalize registry.load name trace = result at loads ⊢
  cases loads with
  | unresolved failed =>
    rw [resolved] at failed
    cases failed
  | known resolved' found =>
    rw [resolved] at resolved'
    cases resolved'
    rw [there] at found
    cases found
    rfl
  | refused resolved' absent | opened resolved' absent =>
    rw [resolved] at resolved'
    cases resolved'
    rw [there] at absent
    cases absent

end Load

/-! ## Removal-free stretches -/

theorem isLoaded_iff {registry : Registry} {path : String} :
    registry.isLoaded path = true ↔
      ∃ handle ∈ registry.catalog, Files.samePath handle.path path = true := by
  unfold isLoaded find?
  rw [List.find?_isSome]

section Stretch

variable {registry : Registry} {trace : Trace} {path : String} {handle : Handle}

theorem Cataloged.serve (cataloged : registry.Cataloged trace) (request : Request) :
    (registry.serve trace request).1.Cataloged (registry.serve trace request).2 := by
  cases request with
  | load name => exact cataloged.load name
  | unload path => exact cataloged.unload path
  | teardown => exact cataloged.teardown

theorem Cataloged.serveAll (cataloged : registry.Cataloged trace) (requests : List Request) :
    (registry.serveAll trace requests).1.Cataloged (registry.serveAll trace requests).2 := by
  induction requests generalizing registry trace with
  | nil => exact cataloged
  | cons request requests ih => exact ih (cataloged.serve request)

theorem catalog_load_subset (name : String) :
    registry.catalog ⊆ (registry.load name trace).2.1.catalog := by
  have loads := registry.loads_load name trace
  generalize registry.load name trace = result at loads ⊢
  cases loads with
  | unresolved | known | refused => exact List.Subset.refl _
  | opened => exact List.subset_append_left _ _

/-- A module of another path survives an unload. -/
theorem mem_catalog_unload {other : String} (spares : Files.samePath other path = false)
    (same : Files.samePath handle.path path = true) :
    handle ∈ (registry.unload other trace).2.1.catalog ↔ handle ∈ registry.catalog := by
  have apart : Files.samePath handle.path other = false := by
    refine Bool.eq_false_iff.2 fun same' => Bool.eq_false_iff.1 spares ?_
    exact Files.samePath_trans (Files.samePath_symm same') same
  rw [catalog_unload, List.mem_filter, apart]
  exact and_iff_left rfl

theorem mem_serve {request : Request} (spares : request.Spares path)
    (same : Files.samePath handle.path path = true) (mem : handle ∈ registry.catalog) :
    handle ∈ (registry.serve trace request).1.catalog := by
  cases request with
  | load name => exact catalog_load_subset name mem
  | unload other => exact (mem_catalog_unload spares same).2 mem
  | teardown => exact spares.elim

/-- A module stays in the catalog while its path is not removed. -/
theorem mem_serveAll {requests : List Request} (spare : ∀ request ∈ requests, request.Spares path)
    (same : Files.samePath handle.path path = true) (mem : handle ∈ registry.catalog) :
    handle ∈ (registry.serveAll trace requests).1.catalog := by
  induction requests generalizing registry trace with
  | nil => exact mem
  | cons request requests ih =>
    obtain ⟨first, others⟩ := List.forall_mem_cons.1 spare
    exact ih others (mem_serve first same mem)

/-- How often the path has been opened, less what is in the catalog, is the same in two states. -/
def Balanced (path : String) (registry : Registry) (trace : Trace)
    (later : Registry × Trace) : Prop :=
  openingsOf path later.2 + (registry.isLoaded path).toNat =
    openingsOf path trace + (later.1.isLoaded path).toNat

theorem balanced_of_catalog {later : Registry} (same : later.catalog = registry.catalog) :
    Balanced path registry trace (later, trace) := by
  unfold Balanced isLoaded find?
  rw [same]

theorem balanced_load (name : String) :
    Balanced path registry trace (registry.load name trace).2 := by
  have loads := registry.loads_load name trace
  generalize registry.load name trace = result at loads ⊢
  cases loads with
  | unresolved | known | refused => exact balanced_of_catalog rfl
  | @opened path' image located resolved absent =>
    unfold Balanced openingsOf isLoaded find?
    rw [Foreign.Trace.openings_opened, List.countP_append, List.find?_append]
    unfold find? at absent
    cases same : Files.samePath path' path with
    | true =>
      -- the path comes into the catalog
      have fresh : registry.catalog.find? (fun handle => Files.samePath handle.path path) =
          none := by
        rw [← absent]
        simp only [Files.samePath_congr same]
      simp [fresh, same]
    | false => simp [same]

theorem balanced_unload {other : String} (spares : Files.samePath other path = false) :
    Balanced path registry trace (registry.unload other trace).2 := by
  have kept : (registry.unload other trace).2.1.isLoaded path = registry.isLoaded path := by
    rw [Bool.eq_iff_iff, isLoaded_iff, isLoaded_iff]
    refine exists_congr fun handle => and_congr_left fun same => ?_
    exact mem_catalog_unload spares same
  unfold Balanced openingsOf
  rw [kept, openings_unload]

theorem balanced_serve {request : Request} (spares : request.Spares path) :
    Balanced path registry trace (registry.serve trace request) := by
  cases request with
  | load name => exact balanced_load name
  | unload other => exact balanced_unload spares
  | teardown => exact spares.elim

theorem balanced_serveAll {requests : List Request}
    (spare : ∀ request ∈ requests, request.Spares path) :
    Balanced path registry trace (registry.serveAll trace requests) := by
  induction requests generalizing registry trace with
  | nil => exact rfl
  | cons request requests ih =>
    obtain ⟨first, others⟩ := List.forall_mem_cons.1 spare
    have now : Balanced path registry trace (registry.serve trace request) := balanced_serve first
    have rest : Balanced path (registry.serve trace request).1 (registry.serve trace request).2
        (registry.serveAll trace (request :: requests)) := ih others
    unfold Balanced at now rest ⊢
    omega

/-- While a path is not removed, a library is opened under it at most once, and not if the catalog
has it. -/
theorem openingsOf_serveAll {requests : List Request}
    (spare : ∀ request ∈ requests, request.Spares path) :
    openingsOf path (registry.serveAll trace requests).2 ≤
      openingsOf path trace + if registry.isLoaded path then 0 else 1 := by
  have balanced : Balanced path registry trace (registry.serveAll trace requests) :=
    balanced_serveAll spare
  have loaded := Bool.toNat_le ((registry.serveAll trace requests).1.isLoaded path)
  unfold Balanced at balanced
  cases before : registry.isLoaded path with
  | true =>
    rw [before, Bool.toNat_true] at balanced
    simp only [if_true]
    omega
  | false =>
    rw [before, Bool.toNat_false] at balanced
    simp only [Bool.false_eq_true, if_false]
    omega

/-- What has been opened stays in the trace. -/
theorem openings_subset_serve (request : Request) :
    trace.openings ⊆ (registry.serve trace request).2.openings := by
  cases request with
  | load name =>
    show trace.openings ⊆ (registry.load name trace).2.2.openings
    have loads := registry.loads_load name trace
    generalize registry.load name trace = result at loads ⊢
    cases loads with
    | unresolved | known | refused => exact List.Subset.refl _
    | opened =>
      rw [Foreign.Trace.openings_opened]
      exact List.subset_append_left _ _
  | unload path => exact fun _ mem => (openings_unload registry path trace).symm ▸ mem
  | teardown => exact fun _ mem => (openings_teardown registry trace).symm ▸ mem

theorem openings_subset_serveAll (requests : List Request) :
    trace.openings ⊆ (registry.serveAll trace requests).2.openings := by
  induction requests generalizing registry trace with
  | nil => exact List.Subset.refl _
  | cons request requests ih => exact List.Subset.trans (openings_subset_serve request) ih

end Stretch

/-! ## Result -/

/-- Loading is idempotent per path, from some state on. -/
structure LoadsOnce (registry : Registry) (trace : Trace) : Prop where
  /-- The catalog has at most one module for each path. -/
  onePerPath : OnePerPath registry.catalog
  /-- Its modules are found under their own paths. -/
  keyed : ∀ handle path, registry.find? path = some handle ↔
    handle ∈ registry.catalog ∧ Files.samePath handle.path path = true
  /-- A path that is loaded, not removed, and loaded again answers the same module. -/
  again : ∀ name path handle, (registry.resolvePath name).1 = .ok path →
    (registry.load name trace).1 = .ok handle →
    ∀ between : List Request, (∀ request ∈ between, request.Spares path) →
      let later := registry.serveAll trace (.load name :: between)
      ∀ name' path', (later.1.resolvePath name').1 = .ok path' →
        Files.samePath path' path = true → (later.1.load name' later.2).1 = .ok handle
  /-- Between removals, a path is opened once, and not while the catalog has it. -/
  once : ∀ path (requests : List Request), (∀ request ∈ requests, request.Spares path) →
    openingsOf path (registry.serveAll trace requests).2 ≤
      openingsOf path trace + if registry.isLoaded path then 0 else 1
  /-- Loads of different paths answer different modules, whatever happens in between. -/
  apart : ∀ name path handle, (registry.resolvePath name).1 = .ok path →
    (registry.load name trace).1 = .ok handle →
    ∀ between : List Request,
      let later := registry.serveAll trace (.load name :: between)
      ∀ name' path' handle', (later.1.resolvePath name').1 = .ok path' →
        (later.1.load name' later.2).1 = .ok handle' →
        Files.samePath path' path = false → handle'.library ≠ handle.library
  /-- A load that fails leaves the catalog as it was. -/
  failed : ∀ name e, (registry.load name trace).1 = .error e →
    IsLoadError name e ∧ (registry.load name trace).2.1.catalog = registry.catalog

namespace Cataloged

variable {registry : Registry} {trace : Trace} (cataloged : registry.Cataloged trace)

include cataloged

theorem load_again {name path : String} {handle : Handle}
    (resolved : (registry.resolvePath name).1 = .ok path)
    (ok : (registry.load name trace).1 = .ok handle) {between : List Request}
    (spare : ∀ request ∈ between, request.Spares path) {name' path' : String}
    (resolved' : ((registry.serveAll trace (.load name :: between)).1.resolvePath name').1 =
      .ok path')
    (same : Files.samePath path' path = true) (trace' : Trace) :
    ((registry.serveAll trace (.load name :: between)).1.load name' trace').1 = .ok handle := by
  obtain ⟨path₁, resolved₁, same₁, mem⟩ := load_ok ok
  rw [resolved] at resolved₁
  cases resolved₁
  have stays : handle ∈ ((registry.load name trace).2.1.serveAll (registry.load name trace).2.2
      between).1.catalog := mem_serveAll spare same₁ mem
  have one := (cataloged.serveAll (.load name :: between)).onePerPath
  exact load_of_mem one stays resolved' (Files.samePath_trans same₁ (Files.samePath_symm same))

theorem load_apart {name path : String} {handle : Handle}
    (resolved : (registry.resolvePath name).1 = .ok path)
    (ok : (registry.load name trace).1 = .ok handle) (between : List Request)
    {name' path' : String} {handle' : Handle}
    (resolved' : ((registry.serveAll trace (.load name :: between)).1.resolvePath name').1 =
      .ok path')
    (ok' : ((registry.serveAll trace (.load name :: between)).1.load name'
      (registry.serveAll trace (.load name :: between)).2).1 = .ok handle')
    (apart : Files.samePath path' path = false) : handle'.library ≠ handle.library := by
  intro library
  obtain ⟨path₁, resolved₁, same₁, mem₁⟩ := load_ok ok
  obtain ⟨path₂, resolved₂, same₂, mem₂⟩ := load_ok ok'
  rw [resolved] at resolved₁
  rw [resolved'] at resolved₂
  cases resolved₁
  cases resolved₂
  -- both modules have been opened by the end, each under its path
  have last := (cataloged.serveAll (.load name :: between)).load name'
  have opened₂ := last.opened handle' mem₂
  have opened₁ : (handle.library, handle.path) ∈
      ((registry.serveAll trace (.load name :: between)).1.load name'
        (registry.serveAll trace (.load name :: between)).2).2.2.openings :=
    openings_subset_serve (.load name')
      (openings_subset_serveAll between ((cataloged.load name).opened handle mem₁))
  rw [← library] at opened₁
  have path := last.path_unique opened₁ opened₂
  rw [← path] at same₂
  have same := Files.samePath_trans (Files.samePath_symm same₂) same₁
  rw [apart] at same
  cases same

theorem loadsOnce : registry.LoadsOnce trace where
  onePerPath := cataloged.onePerPath
  keyed _ _ :=
    ⟨mem_of_find?, fun there => find?_of_mem cataloged.onePerPath there.1 there.2⟩
  again _ _ _ resolved ok _ spare _ _ resolved' same :=
    cataloged.load_again resolved ok spare resolved' same _
  once _ _ spare := openingsOf_serveAll spare
  apart _ _ _ resolved ok between _ _ _ resolved' ok' different :=
    cataloged.load_apart resolved ok between resolved' ok' different
  failed _ _ failed := ⟨(load_failed failed).1, (load_failed failed).2.1⟩

end Cataloged

/-- **Loading is idempotent.** However names are located, attempts retried and files refused, and
whatever has been loaded, unloaded and torn down so far: the catalog has one module for each path,
loads of one path answer one module until the path is removed, and the path is opened once for all
of them. -/
theorem loads_once (locator : Locator) (loader : Loader) (retry : RetryPolicy)
    (requests : List Request) :
    let reached := (Registry.new locator loader retry).serveAll [] requests
    reached.1.LoadsOnce reached.2 :=
  ((Cataloged.new locator loader retry).serveAll requests).loadsOnce

end Registry

end ForeignEval

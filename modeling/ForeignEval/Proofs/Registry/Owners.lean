import ForeignEval.Proofs.Foreign.Growth
import ForeignEval.Proofs.Registry.Catalog
import Mathlib.Data.List.Count

/-!
# Owners of libraries

A library is open as long as it has an owner: a handle in the catalog or another one. The registry
keeps only a count, so what has to be shown is that the count is that of the owners, whatever is
loaded, retained and released, and that a library is to be closed when the last owner goes: once,
and after every call into it. Whether it then is closed is up to the loader.

* **Closing** — `Foreign.Trace.closings`: the libraries that were to be closed;
  `Loader.Closes`: they are.
* **Counting** — `Registry.handlesOf_retain` and `Registry.handlesOf_release`;
  `Registry.closings_release`: the last handle of a library has it closed.
* **Owners** — `Registry.Owned` lists all owners; a handle is made with `Owned.retain` and dropped
  with `Owned.release`.
* **Catalog** — `Registry.Accounted` lists the owners besides the catalog; `Accounted.unload` and
  `Accounted.teardown` say how many there are when a module could not be closed.
-/

namespace ForeignEval

open Foreign (Call Ending Event Source Trace)

/-! ## Traces -/

namespace Foreign

/-- The library that an event was to close. -/
def Event.closing? : Event → Option Nat
  | closed library | stuck library _ => some library
  | _ => none

/-- The libraries that were to be closed so far, be they closed or not. -/
def Trace.closings (trace : Trace) : List Nat := trace.filterMap Event.closing?

@[simp] theorem Trace.closings_append (before after : Trace) :
    closings (before ++ after) = closings before ++ closings after :=
  List.filterMap_append

@[simp] theorem Event.closing?_closing (loader : Loader) (library : Nat) :
    (loader.closing library).closing? = some library := by
  unfold Loader.closing
  cases loader.close library with
  | ok | error => rfl

/-- Calls into libraries are made while they are open: before anybody tries to close them. -/
def Trace.Sheltered (trace : Trace) : Prop :=
  ∀ (before after : Trace) source library call ending,
    trace = before ++ .called source (some library) call ending :: after →
      library ∈ before.openings.map (·.1) ∧ library ∉ before.closings

theorem Trace.sheltered_concat {trace : Trace} {event : Event} (sheltered : trace.Sheltered)
    (last : ∀ source library call ending, event = .called source (some library) call ending →
      library ∈ trace.openings.map (·.1) ∧ library ∉ trace.closings) :
    Sheltered (trace ++ [event]) := by
  intro before after source library call ending parts
  rcases List.eq_nil_or_concat after with rfl | ⟨after, x, rfl⟩
  · obtain ⟨rfl, same⟩ := List.append_inj' parts rfl
    exact last source library call ending (List.cons.inj same).1
  · rw [List.concat_eq_append, ← List.cons_append, ← List.append_assoc] at parts
    exact sheltered before after source library call ending (List.append_inj' parts rfl).1

theorem Trace.sheltered_closing {trace : Trace} (sheltered : trace.Sheltered) (loader : Loader)
    (library : Nat) : Sheltered (trace ++ [loader.closing library]) :=
  sheltered_concat sheltered fun source library' call ending same => by
    have closes := Event.closing?_closing loader library
    rw [same] at closes
    cases closes

end Foreign

/-- Every library can be closed. -/
def Loader.Closes (loader : Loader) : Prop := ∀ library, loader.close library = .ok ()

theorem Loader.closing_of_ok {loader : Loader} {library : Nat}
    (closes : loader.close library = .ok ()) : loader.closing library = .closed library := by
  unfold closing
  rw [closes]

namespace Registry

variable {loader : Loader} {registry : Registry} {trace : Trace} {library : Nat}

/-! ## Counting -/

theorem serial_recount (f : Nat → Nat) (library : Nat) (entry : OpenLibrary) :
    (if entry.serial = library then { entry with handles := f entry.handles } else entry).serial =
      entry.serial := by
  split
  · rfl
  · rfl

/-- Changing the count of one library changes it where that library is looked up. -/
theorem find?_recount (f : Nat → Nat) (libraries : List OpenLibrary) (library other : Nat) :
    (libraries.map fun entry =>
        if entry.serial = library then { entry with handles := f entry.handles } else entry).find?
        (·.serial == other) =
      (libraries.find? (·.serial == other)).map fun entry =>
        if other = library then { entry with handles := f entry.handles } else entry := by
  induction libraries with
  | nil => rfl
  | cons entry libraries ih =>
    rw [List.map_cons, List.find?_cons, List.find?_cons, serial_recount, ih]
    cases here : entry.serial == other with
    | true =>
      rw [beq_iff_eq] at here
      simp [here]
    | false => rfl

theorem handlesOf_retain (open_ : 0 < registry.handlesOf library) (other : Nat) :
    (registry.retain library).handlesOf other =
      registry.handlesOf other + if other = library then 1 else 0 := by
  unfold handlesOf retain
  dsimp only
  rw [find?_recount (· + 1)]
  cases found : registry.libraries.find? (·.serial == other) with
  | none =>
    have different : other ≠ library := by
      rintro rfl
      unfold handlesOf at open_
      rw [found] at open_
      exact absurd open_ (Nat.lt_irrefl 0)
    rw [if_neg different]
    rfl
  | some entry =>
    by_cases same : other = library
    · simp [same]
    · simp [same]

theorem handlesOf_release (other : Nat) :
    (registry.release library trace).1.handlesOf other =
      registry.handlesOf other - if other = library then 1 else 0 := by
  unfold release
  split
  · rename_i last
    by_cases same : other = library
    · subst same
      have none : (registry.libraries.filter (·.serial ≠ other)).find? (·.serial == other) =
          none := by
        refine List.find?_eq_none.2 fun entry mem => ?_
        simpa using (List.mem_filter.1 mem).2
      rw [if_pos rfl, Nat.sub_eq_zero_of_le last]
      unfold handlesOf
      dsimp only
      rw [none]
      rfl
    · have others : (registry.libraries.filter (·.serial ≠ library)).find? (·.serial == other) =
          registry.libraries.find? (·.serial == other) := by
        rw [List.find?_filter]
        congr 1
        funext entry
        by_cases here : entry.serial = other
        · simp [here, same]
        · simp [here]
      rw [if_neg same]
      unfold handlesOf
      dsimp only
      rw [others]
      rfl
  · unfold handlesOf
    dsimp only
    rw [find?_recount (· - 1)]
    cases registry.libraries.find? (·.serial == other) with
    | none => simp
    | some entry =>
      by_cases same : other = library
      · simp [same]
      · simp [same]

/-- With its last handle, a library is to be closed. -/
theorem closings_release :
    (registry.release library trace).2.closings =
      trace.closings ++ if registry.handlesOf library ≤ 1 then [library] else [] := by
  unfold release
  split
  · rw [Foreign.Trace.closings_append]
    exact congrArg (trace.closings ++ ·)
      (List.filterMap_cons_some (Event.closing?_closing registry.loader library))
  · exact (List.append_nil _).symm

/-! ## Owners -/

/-- One more or one less handle of a library that has others makes no other owner. -/
theorem mem_cons_iff_of_mem {owners : List Nat} (mem : library ∈ owners) (other : Nat) :
    other ∈ library :: owners ↔ other ∈ owners := by
  rw [List.mem_cons, or_iff_right_of_imp]
  rintro rfl
  exact mem

/-- These are the libraries of all handles that are alive, if this loader opens and closes them. -/
structure Owned (loader : Loader) (owners : List Nat) (registry : Registry) (trace : Trace) :
    Prop where
  /-- The registry counts the owners of each library. -/
  counted : ∀ library, registry.handlesOf library = owners.count library
  /-- Open libraries have been numbered. -/
  bounded : ∀ entry ∈ registry.libraries, entry.serial < registry.opened
  /-- Libraries are numbered as they are opened. -/
  numbered : trace.openings.map (·.1) = List.range registry.opened
  /-- A library is to be closed once it has lost all owners, and only once. -/
  closed : ∀ library, trace.closings.count library =
    if library < registry.opened ∧ library ∉ owners then 1 else 0
  /-- The loader has always been the same. -/
  loader_eq : registry.loader = loader
  /-- What comes of closing a library is up to the loader. -/
  ended : ∀ event ∈ trace, ∀ library, event.closing? = some library →
    event = loader.closing library
  /-- Calls are made into open libraries. -/
  sheltered : trace.Sheltered

namespace Owned

variable {owners others : List Nat} (owned : Owned loader owners registry trace)

theorem new (locator : Locator) (loader : Loader) (retry : RetryPolicy) :
    Owned loader [] (Registry.new locator loader retry) [] where
  counted _ := rfl
  bounded _ mem := absurd mem List.not_mem_nil
  numbered := rfl
  closed _ := by simp [Registry.new, Trace.closings]
  loader_eq := rfl
  ended _ mem := absurd mem List.not_mem_nil
  sheltered before after source library call ending parts := by simp at parts

include owned

theorem perm (same : owners.Perm others) : Owned loader others registry trace where
  counted library := by
    rw [owned.counted, same.count_eq]
  bounded := owned.bounded
  numbered := owned.numbered
  closed library := by
    rw [owned.closed]
    simp only [same.mem_iff]
  loader_eq := owned.loader_eq
  ended := owned.ended
  sheltered := owned.sheltered

theorem lt_opened (mem : library ∈ owners) : library < registry.opened := by
  have positive : 0 < registry.handlesOf library := by
    rw [owned.counted]
    exact List.count_pos_iff.2 mem
  unfold handlesOf at positive
  cases found : registry.libraries.find? (·.serial == library) with
  | none =>
    rw [found] at positive
    exact absurd positive (Nat.lt_irrefl 0)
  | some entry =>
    have serial : entry.serial = library := by simpa using List.find?_some found
    rw [← serial]
    exact owned.bounded entry (List.mem_of_find?_eq_some found)

/-- A library with an owner has been opened, and nobody has tried to close it. -/
theorem open_of_mem (mem : library ∈ owners) :
    library ∈ trace.openings.map (·.1) ∧ library ∉ trace.closings := by
  constructor
  · rw [owned.numbered, List.mem_range]
    exact owned.lt_opened mem
  · rw [← List.count_eq_zero, owned.closed, if_neg]
    exact fun closed => closed.2 mem

theorem mem_closings_iff (opened : library < registry.opened) :
    library ∈ trace.closings ↔ library ∉ owners := by
  rw [← List.count_pos_iff, owned.closed]
  by_cases mem : library ∈ owners
  · simp [mem]
  · simp [mem, opened]

/-- A library that can be closed is closed as often as it is to be. -/
theorem count_closed (closes : loader.close library = .ok ()) :
    trace.count (.closed library) = trace.closings.count library := by
  unfold Foreign.Trace.closings
  rw [List.count_filterMap]
  refine List.countP_congr fun event mem => ?_
  rw [beq_iff_eq, beq_iff_eq]
  constructor
  · rintro rfl
    rfl
  · intro closing
    rw [owned.ended event mem library closing, Loader.closing_of_ok closes]

/-- Such a library is closed exactly if it has lost all owners. -/
theorem closed_iff (closes : loader.close library = .ok ()) (opened : library < registry.opened) :
    Event.closed library ∈ trace ↔ library ∉ owners := by
  rw [← List.count_pos_iff, owned.count_closed closes, List.count_pos_iff,
    owned.mem_closings_iff opened]

/-- One more handle of a library that has an owner. -/
theorem retain (mem : library ∈ owners) :
    Owned loader (library :: owners) (registry.retain library) trace where
  counted other := by
    have positive : 0 < registry.handlesOf library := by
      rw [owned.counted]
      exact List.count_pos_iff.2 mem
    rw [handlesOf_retain positive, owned.counted, List.count_cons]
    by_cases same : other = library
    · simp [same]
    · simp [same, Ne.symm same]
  bounded entry there := by
    obtain ⟨old, mem', rfl⟩ := List.mem_map.1 there
    rw [serial_recount (· + 1)]
    exact owned.bounded old mem'
  numbered := owned.numbered
  closed other := by
    rw [owned.closed, opened_retain]
    simp only [mem_cons_iff_of_mem mem]
  loader_eq := owned.loader_eq
  ended := owned.ended
  sheltered := owned.sheltered

omit owned in
/-- One handle less; with the last one of a library it is to be closed. -/
theorem release (owned : Owned loader (library :: owners) registry trace) :
    Owned loader owners (registry.release library trace).1 (registry.release library trace).2 where
  counted other := by
    rw [handlesOf_release, owned.counted, List.count_cons]
    by_cases same : other = library
    · simp [same]
    · simp [same, Ne.symm same]
  bounded entry there := by
    rw [opened_release]
    unfold Registry.release at there
    split at there
    · exact owned.bounded entry (List.mem_filter.1 there).1
    · obtain ⟨old, mem', rfl⟩ := List.mem_map.1 there
      rw [serial_recount (· - 1)]
      exact owned.bounded old mem'
  numbered := by
    rw [openings_release, opened_release]
    exact owned.numbered
  closed other := by
    have below := owned.lt_opened List.mem_cons_self
    have counted := owned.counted library
    rw [List.count_cons_self] at counted
    rw [opened_release, closings_release, List.count_append, owned.closed]
    by_cases stays : library ∈ owners
    · have others := List.count_pos_iff.2 stays
      rw [if_neg (by omega : ¬registry.handlesOf library ≤ 1)]
      simp only [mem_cons_iff_of_mem stays, List.count_nil, Nat.add_zero]
    · -- the last owner has gone
      rw [List.count_eq_zero.2 stays] at counted
      rw [if_pos (Nat.le_of_eq counted)]
      by_cases same : other = library
      · subst same
        simp [below, stays]
      · simp [same, Ne.symm same]
  loader_eq := (loader_release _ _ _).trans owned.loader_eq
  ended event mem other closing := by
    unfold Registry.release at mem
    split at mem
    · rcases List.mem_append.1 mem with old | new
      · exact owned.ended event old other closing
      · obtain rfl := List.mem_singleton.1 new
        rw [Event.closing?_closing] at closing
        cases closing
        rw [owned.loader_eq]
    · exact owned.ended event mem other closing
  sheltered := by
    unfold Registry.release
    split
    · exact Foreign.Trace.sheltered_closing owned.sheltered registry.loader library
    · exact owned.sheltered

/-- A new library comes with two handles. -/
theorem open_ {later : Registry} (path : String)
    (libraries : later.libraries = registry.libraries ++ [⟨registry.opened, 2⟩])
    (opened : later.opened = registry.opened + 1) (same : later.loader = registry.loader) :
    Owned loader (registry.opened :: registry.opened :: owners) later
      (trace ++ [.opened registry.opened path]) := by
  have fresh : registry.opened ∉ owners := fun mem => Nat.lt_irrefl _ (owned.lt_opened mem)
  have unknown : ∀ entry ∈ registry.libraries, entry.serial ≠ registry.opened :=
    fun entry mem => Nat.ne_of_lt (owned.bounded entry mem)
  refine ⟨fun other => ?_, fun entry mem => ?_, ?_, fun other => ?_, same.trans owned.loader_eq,
    fun event mem => ?_, ?_⟩
  · have before := owned.counted other
    unfold handlesOf at before ⊢
    rw [libraries, List.find?_append, List.count_cons, List.count_cons]
    by_cases same : other = registry.opened
    · subst same
      have none : registry.libraries.find? (·.serial == registry.opened) = none := by
        refine List.find?_eq_none.2 fun entry mem => ?_
        simpa using unknown entry mem
      simp [none, List.count_eq_zero.2 fresh]
    · have other' : registry.opened ≠ other := Ne.symm same
      simp only [beq_iff_eq, other', if_false, Nat.add_zero]
      rw [← before]
      simp [other']
  · rw [libraries] at mem
    rw [opened]
    rcases List.mem_append.1 mem with old | new
    · exact Nat.lt_succ_of_lt (owned.bounded entry old)
    · rw [List.mem_singleton.1 new]
      exact Nat.lt_succ_self _
  · rw [opened, Foreign.Trace.openings_opened, List.map_append, owned.numbered, List.range_succ]
    rfl
  · have unclosed : Foreign.Trace.closings [.opened registry.opened path] = [] := rfl
    rw [Foreign.Trace.closings_append, unclosed, List.append_nil, owned.closed, opened]
    refine if_congr ?_ rfl rfl
    rw [List.mem_cons, List.mem_cons]
    constructor
    · rintro ⟨below, out⟩
      exact ⟨by omega, by rintro (rfl | rfl | mem) <;> first | omega | exact out mem⟩
    · rintro ⟨below, out⟩
      have different : other ≠ registry.opened := fun same => out (.inl same)
      exact ⟨by omega, fun mem => out (.inr (.inr mem))⟩
  · rcases List.mem_append.1 mem with old | new
    · exact owned.ended event old
    · obtain rfl := List.mem_singleton.1 new
      exact nofun
  · exact Foreign.Trace.sheltered_concat owned.sheltered fun _ _ _ _ call => (nomatch call)

/-- Calls into a library with an owner. -/
theorem calls {place : Option Nat} {after : Trace} (held : ∀ library ∈ place, library ∈ owners)
    (grown : trace.Grows (Event.IsIn place) after) : Owned loader owners registry after := by
  obtain ⟨events, rfl, kind⟩ := grown
  induction events generalizing trace with
  | nil => rwa [List.append_nil]
  | cons event events ih =>
    obtain ⟨⟨source, call, ending, rfl⟩, others⟩ := List.forall_mem_cons.1 kind
    rw [List.append_cons]
    refine ih ⟨owned.counted, owned.bounded, ?_, fun library => ?_, owned.loader_eq,
      fun event mem => ?_, ?_⟩ others
    · rw [Foreign.Trace.openings_append, List.map_append, owned.numbered]
      exact List.append_nil _
    · rw [Foreign.Trace.closings_append, List.count_append, owned.closed]
      rfl
    · rcases List.mem_append.1 mem with old | new
      · exact owned.ended event old
      · obtain rfl := List.mem_singleton.1 new
        exact nofun
    · refine Foreign.Trace.sheltered_concat owned.sheltered fun _ library _ _ same => ?_
      cases same
      exact owned.open_of_mem (held library rfl)

end Owned

/-! ## Closing modules -/

/-- What is reported of a module that is taken out of the catalog when it has these other
owners. -/
def blocked (loader : Loader) (others : List Nat) (handle : Handle) : Option (String × String) :=
  (reason? loader handle.library (others.count handle.library)).map (handle.path, ·)

/-- A library that can be closed stays open only because of its other owners. -/
theorem reason?_of_closes (closes : loader.close library = .ok ()) (others : Nat) :
    reason? loader library others = if others = 0 then none else some (sharedReason others) := by
  unfold reason?
  rw [closes]

/-- A module without other owners is not reported if its library can be closed. -/
theorem blocked_of_free {others : List Nat} {handle : Handle}
    (closes : loader.close handle.library = .ok ()) (free : others.count handle.library = 0) :
    blocked loader others handle = none := by
  unfold blocked
  rw [reason?_of_closes closes, if_pos free]
  rfl

/-- The answer to an unload, given what there is to report. -/
def unloaded : Option (String × String) → Except Error Unit
  | none => .ok ()
  | some failure => .error (.moduleUnload [failure])

theorem blocked_append {libraries : List Nat} {handle : Handle}
    (none : handle.library ∉ libraries) (others : List Nat) :
    blocked loader (libraries ++ others) handle = blocked loader others handle := by
  unfold blocked
  rw [List.count_append, List.count_eq_zero.2 none, Nat.zero_add]

namespace Owned

variable {owners others : List Nat} {handle : Handle}

/-- The owners of libraries have nothing to do with the catalog. -/
theorem frame {later : Registry} (owned : Owned loader owners registry trace)
    (libraries : later.libraries = registry.libraries) (opened : later.opened = registry.opened)
    (same : later.loader = registry.loader) : Owned loader owners later trace where
  counted library := by
    unfold handlesOf
    rw [libraries]
    exact owned.counted library
  bounded := by
    rw [libraries, opened]
    exact owned.bounded
  numbered := by
    rw [opened]
    exact owned.numbered
  closed := by
    rw [opened]
    exact owned.closed
  loader_eq := same.trans owned.loader_eq
  ended := owned.ended
  sheltered := owned.sheltered

theorem closeModule (owned : Owned loader (handle.library :: others) registry trace) :
    (registry.closeModule handle trace).1 = blocked loader others handle ∧
      Owned loader others (registry.closeModule handle trace).2.1
        (registry.closeModule handle trace).2.2 := by
  refine ⟨?_, owned.release⟩
  unfold Registry.closeModule blocked
  dsimp only
  rw [owned.counted, List.count_cons_self, Nat.add_sub_cancel, owned.loader_eq]

theorem closeAll_cons (handles : List Handle) :
    registry.closeAll trace (handle :: handles) =
      ((registry.closeModule handle trace).1.toList ++
          ((registry.closeModule handle trace).2.1.closeAll
            (registry.closeModule handle trace).2.2 handles).1,
        ((registry.closeModule handle trace).2.1.closeAll
          (registry.closeModule handle trace).2.2 handles).2) := rfl

/-- Each module is reported by the number of its other owners. -/
theorem closeAll {handles : List Handle}
    (owned : Owned loader (handles.map (·.library) ++ others) registry trace)
    (distinct : (handles.map (·.library)).Nodup) :
    (registry.closeAll trace handles).1 = handles.filterMap (blocked loader others) ∧
      Owned loader others (registry.closeAll trace handles).2.1
        (registry.closeAll trace handles).2.2 := by
  induction handles generalizing registry trace with
  | nil => exact ⟨rfl, owned⟩
  | cons handle handles ih =>
    obtain ⟨fresh, distinct⟩ := List.nodup_cons.1 distinct
    have next : Owned loader (handle.library :: (handles.map (·.library) ++ others)) registry
        trace := owned
    obtain ⟨failure, first⟩ := next.closeModule
    obtain ⟨failures, rest⟩ := ih first distinct
    refine ⟨?_, rest⟩
    rw [closeAll_cons, failure, blocked_append fresh, failures, List.filterMap_cons]
    cases blocked loader others handle with
    | none | some => rfl

end Owned

/-! ## The catalog's part -/

/-- The catalog is right, these are the libraries of the handles besides the catalog's, and this
loader opens and closes them. -/
structure Accounted (loader : Loader) (others : List Nat) (registry : Registry) (trace : Trace) :
    Prop where
  cataloged : registry.Cataloged trace
  owned : Owned loader (registry.catalog.map (·.library) ++ others) registry trace

namespace Accounted

variable {others more : List Nat}

theorem new (locator : Locator) (loader : Loader) (retry : RetryPolicy) :
    Accounted loader [] (Registry.new locator loader retry) [] :=
  ⟨.new locator loader retry, .new locator loader retry⟩

theorem perm (accounted : Accounted loader others registry trace) (same : others.Perm more) :
    Accounted loader more registry trace :=
  ⟨accounted.cataloged, accounted.owned.perm (same.append_left _)⟩

/-- Calls into a library that one of the handles keeps open. -/
theorem calls (accounted : Accounted loader others registry trace) {place : Option Nat}
    {after : Trace} (held : ∀ library ∈ place, library ∈ others)
    (grown : trace.Grows (Event.IsIn place) after) : Accounted loader others registry after := by
  have owned := accounted.owned.calls
    (fun library mem => List.mem_append_right _ (held library mem)) grown
  refine ⟨accounted.cataloged.shrink (.refl _) rfl ?_, owned⟩
  obtain ⟨events, rfl, kind⟩ := grown
  have none : Foreign.Trace.openings events = [] := by
    refine List.filterMap_eq_nil_iff.2 fun event mem => ?_
    obtain ⟨source, call, ending, rfl⟩ := kind event mem
    rfl
  rw [Foreign.Trace.openings_append, none, List.append_nil]

theorem retain (accounted : Accounted loader others registry trace)
    (mem : library ∈ registry.catalog.map (·.library) ++ others) :
    Accounted loader (library :: others) (registry.retain library) trace :=
  ⟨accounted.cataloged.retain library, (accounted.owned.retain mem).perm List.perm_middle.symm⟩

theorem release (accounted : Accounted loader (library :: others) registry trace) :
    Accounted loader others (registry.release library trace).1
      (registry.release library trace).2 := by
  refine ⟨accounted.cataloged.release library, ?_⟩
  rw [catalog_release]
  exact (accounted.owned.perm List.perm_middle).release

/-- Looking for a file makes no difference. -/
theorem asked (accounted : Accounted loader others registry trace) (located attempted : Nat) :
    Accounted loader others { registry with located, attempted } trace :=
  ⟨accounted.cataloged.shrink (.refl _) rfl rfl, accounted.owned.frame rfl rfl rfl⟩

/-- A load that succeeds answers a handle that is in nobody's hands yet. -/
def Loaded (loader : Loader) (others : List Nat) : Except Error Handle × Registry × Trace → Prop
  | (.error _, registry, trace) => Accounted loader others registry trace
  | (.ok handle, registry, trace) => Accounted loader (handle.library :: others) registry trace

theorem load (accounted : Accounted loader others registry trace) (name : String) :
    Loaded loader others (registry.load name trace) := by
  have cataloged := accounted.cataloged.load name
  have loads := registry.loads_load name trace
  generalize registry.load name trace = result at loads cataloged ⊢
  cases loads with
  | unresolved => exact accounted.asked _ _
  | refused => exact accounted.asked _ _
  | known resolved found =>
    refine (accounted.asked _ _).retain (List.mem_append_left _ ?_)
    exact List.mem_map_of_mem (mem_of_find? found).1
  | @opened path image located resolved absent =>
    refine ⟨cataloged, ?_⟩
    refine Owned.perm (accounted.owned.open_ path rfl rfl rfl) ?_
    -- one of the two handles is the catalog's
    rw [List.map_append, List.append_assoc]
    exact (List.perm_middle.symm.cons _).trans List.perm_middle.symm

/-- A module that is unloaded is reported if it has other owners or cannot be closed. -/
theorem unload (accounted : Accounted loader others registry trace) (path : String) :
    (registry.unload path trace).1 =
        unloaded ((registry.find? path).bind (blocked loader others)) ∧
      Accounted loader others (registry.unload path trace).2.1
        (registry.unload path trace).2.2 := by
  have cataloged := accounted.cataloged.unload path
  unfold Registry.unload at cataloged ⊢
  cases found : registry.find? path with
  | none => exact ⟨rfl, accounted⟩
  | some handle =>
    rw [found] at cataloged
    -- the catalog's handle is the one that is dropped
    let rest := registry.catalog.filter fun other => !Files.samePath other.path path
    have parts : registry.catalog.Perm (handle :: rest) :=
      accounted.cataloged.onePerPath.perm_filter found
    have distinct := (parts.map (·.library)).nodup accounted.cataloged.libraries
    have owned : Owned loader (handle.library :: (rest.map (·.library) ++ others)) registry trace :=
      accounted.owned.perm ((parts.map _).append_right others)
    have removed : Owned loader (handle.library :: (rest.map (·.library) ++ others))
        { registry with catalog := rest } trace := owned.frame rfl rfl rfl
    obtain ⟨failure, closed⟩ := removed.closeModule
    rw [blocked_append (List.nodup_cons.1 distinct).1] at failure
    refine ⟨?_, cataloged, ?_⟩
    · show unloaded (Registry.closeModule { registry with catalog := rest } handle trace).1 = _
      rw [failure]
      rfl
    · show Owned loader (List.map _ (Registry.release _ _ _).1.catalog ++ others) _ _
      rw [catalog_release]
      exact closed

/-- Modules that are torn down are reported if they have other owners or cannot be closed. -/
theorem teardown (accounted : Accounted loader others registry trace) :
    (registry.teardown trace).1 =
        (if (registry.catalog.filterMap (blocked loader others)).isEmpty then .ok ()
        else .error (.moduleUnload
          ((registry.catalog.filterMap (blocked loader others)).mergeSort failureBefore))) ∧
      Accounted loader others (registry.teardown trace).2.1 (registry.teardown trace).2.2 := by
  have cataloged := accounted.cataloged.teardown
  have emptied : Owned loader (registry.catalog.map (·.library) ++ others)
      { registry with catalog := [] } trace := accounted.owned.frame rfl rfl rfl
  obtain ⟨failures, closed⟩ := emptied.closeAll accounted.cataloged.libraries
  refine ⟨?_, cataloged, ?_⟩
  · unfold Registry.teardown
    dsimp only
    rw [failures]
  · rw [catalog_teardown]
    exact closed

end Accounted

end Registry

end ForeignEval

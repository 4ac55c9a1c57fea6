import ForeignEval.Proofs.Cache.View

/-!
# Histories of caches

What any number of caches answer to any calls, in any order, is what bounded queues answer: a
workspace that only has caches **shows** a shelf of machines, and every call keeps it that way.

* **Step** — `Shows.onCache`: a call is answered as the shelf answers it, without foreign calls.
* **Run** — `Shows.run`: so are calls in order.
* **Arrivals** — `keys_after`, `lookup_inserted`: under insertions and lookups a cache holds the
  points that arrived last, each with the value inserted last.
* **Everything** — `run_caches_eq_run_shelf` puts these together for caches made by `Cache.new`.
-/

namespace ForeignEval

open Workspace (CacheCall Name Outcome Step Value callCache)

/-! ## Insertions and lookups -/

/-- Whether a call inserts an entry or looks a point up. -/
def Workspace.CacheCall.isAccess : CacheCall → Bool
  | .insert _ _ | .lookup _ => true
  | _ => false

/-- The entry that a call inserts, if it does. -/
def Workspace.CacheCall.inserted? : CacheCall → Option (Point × Point)
  | .insert point value => some (point, value)
  | _ => none

namespace Cache

/-- The cache after calls in order; a merge reads the cache itself. -/
def after (cache : Cache) (calls : List CacheCall) : Cache :=
  calls.foldl (fun cache call => (callCache cache cache call).2) cache

/-- The points of the insertions that found no entry of theirs, in order. -/
def arrivals (cache : Cache) : List CacheCall → List Point
  | [] => []
  | call :: calls =>
    let later := arrivals (callCache cache cache call).2 calls
    match call.inserted? with
    | some (point, _) => if cache.contains point then later else point :: later
    | none => later

/-- What comes before the last elements does not matter once something follows. -/
theorem rtake_rtake_append {α : Type} (size : Nat) (l r : List α) (more : 0 < r.length) :
    (l.rtake (size - 1) ++ r).rtake size = (l ++ r).rtake size := by
  have cut : l.rtake (size - 1) ++ r = (l ++ r).drop (l.length - (size - 1)) := by
    rw [List.rtake, List.drop_append_of_le_length (Nat.sub_le _ _)]
  rw [cut, List.rtake, List.rtake, List.drop_drop, List.length_drop, List.length_append]
  congr 1
  omega

theorem view_count_fields (cache : Cache) (point : Point) :
    (cache.count point).entries = cache.entries ∧ (cache.count point).maxSize = cache.maxSize ∧
      (cache.count point).enabled = cache.enabled := by
  obtain ⟨table, order, size, enabled⟩ := count_fields cache point
  refine ⟨?_, size, enabled⟩
  rw [entries_eq_listed, entries_eq_listed, table, order]

theorem arrivals_insert (cache : Cache) (point value : Point) (calls : List CacheCall) :
    cache.arrivals (.insert point value :: calls) =
      if cache.contains point then (cache.insert point value).arrivals calls
      else point :: (cache.insert point value).arrivals calls := rfl

/-- A cache that is enabled and has a capacity takes insertions. -/
structure Effective (cache : Cache) : Prop where
  /-- Entries are recorded. -/
  enabled : cache.enabled = true
  /-- There may be one. -/
  positive : 0 < cache.maxSize

namespace WellFormed

variable {cache : Cache} (sound : cache.WellFormed) (effective : cache.Effective)

include sound effective

theorem view_insert_of_effective (point value : Point) :
    (cache.insert point value).view =
      { cache.view with entries := cache.view.put point value } := by
  have taken : cache.view.enabled = true ∧ 0 < cache.view.capacity :=
    ⟨effective.enabled, effective.positive⟩
  rw [sound.view_insert, Fifo.insert, if_pos taken]

theorem effective_insert (point value : Point) : (cache.insert point value).Effective := by
  have view := sound.view_insert_of_effective effective point value
  have enabled : (cache.insert point value).enabled = cache.enabled := congrArg Fifo.enabled view
  have size : (cache.insert point value).maxSize = cache.maxSize := congrArg Fifo.capacity view
  exact ⟨enabled.trans effective.enabled, size ▸ effective.positive⟩

omit sound in
theorem effective_count (point : Point) : (cache.count point).Effective := by
  obtain ⟨-, size, enabled⟩ := view_count_fields cache point
  exact ⟨enabled.trans effective.enabled, size ▸ effective.positive⟩

/-- **Arrivals**: the points that a cache has are the last that arrived, those that it had at first
being the earliest. -/
theorem keys_after {calls : List CacheCall} (accesses : ∀ call ∈ calls, call.isAccess = true) :
    (cache.after calls).entries.map (·.1) =
      (cache.view.keys ++ cache.arrivals calls).rtake cache.maxSize := by
  induction calls generalizing cache with
  | nil =>
    have fits : cache.view.keys.length - cache.maxSize = 0 := by
      have := sound.length_le
      rw [sound.keys_view]
      omega
    show cache.view.keys = (cache.view.keys ++ []).rtake cache.maxSize
    rw [List.append_nil, List.rtake, fits, List.drop_zero]
  | cons call calls ih =>
    have rest : ∀ call ∈ calls, call.isAccess = true :=
      fun other mem => accesses other (List.mem_cons_of_mem _ mem)
    cases call with
    | insert point value =>
      have view := sound.view_insert_of_effective effective point value
      have size : (cache.insert point value).maxSize = cache.maxSize := congrArg Fifo.capacity view
      have keys : (cache.insert point value).view.keys = (cache.view.put point value).map (·.1) :=
        congrArg Fifo.keys view
      have served : cache.contains point = true ↔ point ∈ cache.view.keys :=
        sound.isSome_peek_iff effective.enabled point
      show ((cache.insert point value).after calls).entries.map (·.1) = _
      rw [ih (sound.insert point value) (sound.effective_insert effective point value) rest, keys,
        Fifo.keys_put, size, arrivals_insert]
      -- a known point keeps its place, a new one arrives behind the others
      by_cases known : point ∈ cache.view.keys
      · rw [if_pos known, if_pos (served.2 known)]
      · rw [if_neg known, if_neg (mt served.1 known), List.append_assoc]
        exact rtake_rtake_append _ _ _ (Nat.succ_pos _)
    | lookup point =>
      obtain ⟨entries, size, -⟩ := view_count_fields cache point
      have keys : (cache.count point).view.keys = cache.view.keys := congrArg (List.map _) entries
      show ((cache.count point).after calls).entries.map (·.1) = _
      rw [ih (sound.count point) (effective_count effective point) rest, keys, size]
      rfl
    | contains | merge | clear | setMaxSize | enable | disable | entries | counts | record =>
      exact absurd (accesses _ List.mem_cons_self) Bool.false_ne_true

/-- **Values**: each entry holds the value that was inserted last for its point, or else the one
that it had at first. -/
theorem lookup_inserted {calls : List CacheCall}
    (accesses : ∀ call ∈ calls, call.isAccess = true) {entry : Point × Point}
    (mem : entry ∈ (cache.after calls).entries) :
    ((calls.filterMap CacheCall.inserted?).reverse ++ cache.entries).lookup entry.1 =
      some entry.2 := by
  induction calls generalizing cache with
  | nil => exact lookup_of_mem sound.nodup_keys mem
  | cons call calls ih =>
    have rest : ∀ call ∈ calls, call.isAccess = true :=
      fun other mem => accesses other (List.mem_cons_of_mem _ mem)
    cases call with
    | insert point value =>
      have found := ih (sound.insert point value) (sound.effective_insert effective point value)
        rest mem
      have entries : (cache.insert point value).entries = cache.view.put point value :=
        congrArg Fifo.entries (sound.view_insert_of_effective effective point value)
      have inserted : (CacheCall.insert point value :: calls).filterMap CacheCall.inserted? =
        (point, value) :: calls.filterMap CacheCall.inserted? := rfl
      rw [inserted, List.reverse_cons, List.append_assoc]
      rw [List.lookup_append] at found ⊢
      cases latest : (calls.filterMap CacheCall.inserted?).reverse.lookup entry.1 with
      | some value' =>
        rw [latest] at found
        exact found
      | none =>
        rw [latest, Option.none_or, entries] at found
        rw [Option.none_or]
        -- nothing later: the entry is the new one, or an old one of another point
        rcases cache.view.mem_put (mem_of_lookup found) with same | ⟨old, other⟩
        · rw [Prod.mk.injEq] at same
          rw [same.1, same.2]
          exact List.lookup_cons_self
        · show ((point, value) :: cache.entries).lookup entry.1 = some entry.2
          rw [List.lookup_cons, beq_eq_false_iff_ne.2 other]
          exact lookup_of_mem sound.nodup_keys old
    | lookup point =>
      have found := ih (sound.count point) (effective_count effective point) rest mem
      rw [(view_count_fields cache point).1] at found
      exact found
    | contains | merge | clear | setMaxSize | enable | disable | entries | counts | record =>
      exact absurd (accesses _ List.mem_cons_self) Bool.false_ne_true

end WellFormed

end Cache

/-! ## Caches in a workspace -/

namespace Workspace

/-- The caches of a workspace are well-formed, each named one has a single name, and under that
name it is a machine of the shelf. -/
structure Shows (w : Workspace) (shelf : Shelf) : Prop where
  /-- All caches are well-formed. -/
  sound : ∀ cache ∈ w.caches, cache.WellFormed
  /-- A name stands for a cache that is there. -/
  valid : ∀ {name number}, w.cacheNames.lookup name = some number → number < w.caches.length
  /-- Two names do not share a cache. -/
  apart : ∀ {a b number}, w.cacheNames.lookup a = some number →
    w.cacheNames.lookup b = some number → a = b
  /-- The machine of a name is the view of its cache. -/
  shown : ∀ name, shelf name = (w.cacheNames.lookup name).map fun number => (w.cacheAt number).view

/-- The cache that a call reads besides the one that it is made on. -/
def sourceNumber (w : Workspace) (number : Nat) : CacheCall → Option Nat
  | .merge other => w.cacheNames.lookup other
  | _ => some number

/-- What a call does to the cache of a number. -/
def callOn (w : Workspace) (number : Nat) (call : CacheCall) : Outcome × Workspace :=
  match w.sourceNumber number call with
  | none => (.missing .cache, w)
  | some other =>
    let result := callCache (w.cacheAt number) (w.cacheAt other) call
    (.cached result.1 result.2.stats, w.setCache number result.2)

theorem onCache_eq (name : Name) (call : CacheCall) (w : Workspace) :
    onCache name call w =
      match w.cacheNames.lookup name with
      | none => (.missing .cache, w)
      | some number => w.callOn number call := rfl

theorem cacheAt_setCache (w : Workspace) {number : Nat} (valid : number < w.caches.length)
    (cache : Cache) (other : Nat) :
    (w.setCache number cache).cacheAt other =
      if number = other then cache else w.cacheAt other := by
  unfold cacheAt setCache
  rw [List.getElem?_set]
  by_cases same : number = other
  · subst same
    rw [if_pos rfl, if_pos rfl, if_pos valid]
    rfl
  · rw [if_neg same, if_neg same]

namespace Shows

variable {w : Workspace} {shelf : Shelf} (shows : Shows w shelf)

include shows

theorem wellFormed_cacheAt (number : Nat) : (w.cacheAt number).WellFormed := by
  unfold cacheAt
  cases found : w.caches[number]? with
  | none => exact Cache.wellFormed_new 0
  | some cache => exact shows.sound cache (List.mem_of_getElem? found)

theorem source_eq {name : Name} {number : Nat} (named : w.cacheNames.lookup name = some number)
    (call : CacheCall) :
    shelf.source name call =
      (w.sourceNumber number call).map fun other => (w.cacheAt other).view := by
  cases call with
  | merge other => exact shows.shown other
  | insert | lookup | contains | clear | setMaxSize | enable | disable | entries | counts
  | record =>
    show shelf name = some (w.cacheAt number).view
    rw [shows.shown, named]
    rfl

theorem setCache {name : Name} {number : Nat} (named : w.cacheNames.lookup name = some number)
    {cache : Cache} (sound : cache.WellFormed) :
    Shows (w.setCache number cache) (Function.update shelf name (some cache.view)) where
  sound other mem := by
    rcases List.mem_or_eq_of_mem_set mem with old | rfl
    · exact shows.sound other old
    · exact sound
  valid {_ _} lookup := by
    show _ < (w.caches.set number cache).length
    rw [List.length_set]
    exact shows.valid lookup
  apart := shows.apart
  shown other := by
    show _ = (w.cacheNames.lookup other).map _
    by_cases same : other = name
    · rw [same, Function.update_self, named, Option.map_some,
        cacheAt_setCache w (shows.valid named), if_pos rfl]
    · rw [Function.update_of_ne same, shows.shown]
      refine Option.map_congr fun number' lookup => ?_
      rw [cacheAt_setCache w (shows.valid named), if_neg]
      rintro rfl
      exact same (shows.apart lookup named)

/-- **Step**: a call on a named cache is answered by the shelf, and nothing else changes. -/
theorem onCache (name : Name) (call : CacheCall) :
    (Workspace.onCache name call w).1 = (shelf.answer name call).1 ∧
      Shows (Workspace.onCache name call w).2 (shelf.answer name call).2 ∧
      (Workspace.onCache name call w).2.trace = w.trace := by
  rw [onCache_eq]
  unfold Shelf.answer
  cases named : w.cacheNames.lookup name with
  | none =>
    have absent : shelf name = none := by
      rw [shows.shown, named]
      rfl
    rw [absent]
    exact ⟨rfl, shows, rfl⟩
  | some number =>
    have present : shelf name = some (w.cacheAt number).view := by
      rw [shows.shown, named]
      rfl
    rw [present, shows.source_eq named]
    simp only
    unfold callOn
    -- a merge may name a cache that is not there
    cases w.sourceNumber number call with
    | none => exact ⟨rfl, shows, rfl⟩
    | some other =>
      have sound := shows.wellFormed_cacheAt number
      have after : (callCache (w.cacheAt number) (w.cacheAt other) call).2.WellFormed :=
        sound.callCache call
      have view := sound.call_view (w.cacheAt other) call
      simp only [Option.map_some, view]
      refine ⟨?_, shows.setCache named after, rfl⟩
      rw [after.stats_eq]

/-- Such a step makes no foreign call. -/
theorem step (name : Name) (call : CacheCall) :
    w.step (.cache name call) =
      ((shelf.answer name call).1, [], (Workspace.onCache name call w).2) := by
  obtain ⟨answer, -, trace⟩ := shows.onCache name call
  have events : (Workspace.onCache name call w).2.trace.drop w.trace.length = [] := by
    rw [trace, List.drop_length]
  show ((Workspace.onCache name call w).1,
    callsIn ((Workspace.onCache name call w).2.trace.drop w.trace.length),
    (Workspace.onCache name call w).2) = _
  rw [answer, events]
  rfl

/-- **Run**: calls on named caches are answered by the shelf. -/
theorem run (calls : List (Name × CacheCall)) :
    (w.run (calls.map fun call => Step.cache call.1 call.2)).1 =
        (shelf.run calls).1.map (·, []) ∧
      Shows (w.run (calls.map fun call => Step.cache call.1 call.2)).2 (shelf.run calls).2 := by
  induction calls generalizing w shelf with
  | nil => exact ⟨rfl, shows⟩
  | cons call calls ih =>
    obtain ⟨-, after, -⟩ := shows.onCache call.1 call.2
    obtain ⟨answers, rest⟩ := ih after
    rw [List.map_cons, Workspace.run, shows.step]
    exact ⟨congrArg ((_, []) :: ·) answers, rest⟩

end Shows

/-! ## Beginning -/

/-- Numbering names finds the size that a name has. -/
theorem lookup_zipIdx (sizes : List (Name × Nat)) (start : Nat) (name : Name) :
    match ((sizes.map (·.1)).zipIdx start).lookup name with
    | none => sizes.lookup name = none
    | some number => ∃ index size, number = start + index ∧ sizes[index]? = some (name, size) ∧
        sizes.lookup name = some size := by
  induction sizes generalizing start with
  | nil => rfl
  | cons head sizes ih =>
    rw [List.map_cons, List.zipIdx_cons, List.lookup_cons, List.lookup_cons]
    by_cases same : name = head.1
    · rw [beq_iff_eq.2 same]
      exact ⟨0, head.2, rfl, by rw [same]; rfl, rfl⟩
    · rw [beq_eq_false_iff_ne.2 same]
      have later := ih (start + 1)
      cases found : ((sizes.map (·.1)).zipIdx (start + 1)).lookup name with
      | none =>
        rw [found] at later
        exact later
      | some number =>
        rw [found] at later
        obtain ⟨index, size, place, there, lookup⟩ := later
        exact ⟨index + 1, size, by omega, there, lookup⟩

/-- A new workspace shows the new machines of the same capacities. -/
theorem shows_new (machine : Machine) (locator : Option Locator) (search : SearchPath)
    (disk : Files.Disk) (loader : Loader) (retry : RetryPolicy) (sizes : List (Name × Nat)) :
    Shows (.new machine locator search disk loader retry
      (sizes.map fun size => (size.1, Cache.new size.2))) (Shelf.new sizes) := by
  have names : (Workspace.new machine locator search disk loader retry
      (sizes.map fun size => (size.1, Cache.new size.2))).cacheNames =
        (sizes.map (·.1)).zipIdx := by
    show ((sizes.map fun size => (size.1, Cache.new size.2)).map Prod.fst).zipIdx = _
    rw [List.map_map]
    rfl
  have caches : (Workspace.new machine locator search disk loader retry
      (sizes.map fun size => (size.1, Cache.new size.2))).caches =
        sizes.map fun size => Cache.new size.2 := by
    show (sizes.map fun size => (size.1, Cache.new size.2)).map Prod.snd = _
    rw [List.map_map]
    rfl
  -- a number stands for the first size of its name
  have numbered : ∀ {name number}, (sizes.map (·.1)).zipIdx.lookup name = some number →
      ∃ size, sizes[number]? = some (name, size) ∧ sizes.lookup name = some size := by
    intro name number lookup
    have found := lookup_zipIdx sizes 0 name
    rw [lookup] at found
    obtain ⟨index, size, rfl, there, named⟩ := found
    rw [Nat.zero_add]
    exact ⟨size, there, named⟩
  refine ⟨?_, ?_, ?_, ?_⟩
  · rw [caches]
    intro cache mem
    obtain ⟨size, -, rfl⟩ := List.mem_map.1 mem
    exact Cache.wellFormed_new _
  · rw [names, caches, List.length_map]
    intro name number lookup
    obtain ⟨size, there, -⟩ := numbered lookup
    exact (List.getElem?_eq_some_iff.1 there).1
  · rw [names]
    intro a b number lookup lookup'
    obtain ⟨size, there, -⟩ := numbered lookup
    obtain ⟨size', there', -⟩ := numbered lookup'
    rw [there, Option.some.injEq, Prod.mk.injEq] at there'
    exact there'.1
  · rw [names]
    intro name
    unfold Shelf.new
    cases lookup : (sizes.map (·.1)).zipIdx.lookup name with
    | none =>
      have found := lookup_zipIdx sizes 0 name
      rw [lookup] at found
      rw [show sizes.lookup name = none from found]
      rfl
    | some number =>
      obtain ⟨size, there, named⟩ := numbered lookup
      rw [named, Option.map_some, Option.map_some]
      unfold cacheAt
      rw [caches, List.getElem?_map, there]
      rfl

end Workspace

/-! ## Everything -/

/-- **Caches are bounded queues.** Whatever is called on any number of new caches, in any order, the
answers are those of machines of the same capacities, whose keys stay distinct and within the
capacity; merging a cache into itself changes nothing. In particular insertions and lookups on a
cache with a capacity leave the points that arrived last, each with the value inserted last. -/
theorem run_caches_eq_run_shelf (machine : Machine) (locator : Option Locator)
    (search : SearchPath) (disk : Files.Disk) (loader : Loader) (retry : RetryPolicy)
    (sizes : List (Name × Nat)) (calls : List (Name × CacheCall)) :
    (((Workspace.new machine locator search disk loader retry
        (sizes.map fun size => (size.1, Cache.new size.2))).run
          (calls.map fun call => Step.cache call.1 call.2)).1 =
      ((Shelf.new sizes).run calls).1.map (·, [])) ∧
    (∀ name fifo, ((Shelf.new sizes).run calls).2 name = some fifo →
      fifo.keys.Nodup ∧ fifo.entries.length ≤ fifo.capacity) ∧
    (∀ cache : Cache, cache.Reachable → (cache.merge cache).view = cache.view) ∧
    (∀ (capacity : Nat) (accesses : List CacheCall), 0 < capacity →
      (∀ call ∈ accesses, call.isAccess = true) →
      ((Cache.new capacity).after accesses).entries.map (·.1) =
          ((Cache.new capacity).arrivals accesses).rtake capacity ∧
        ∀ entry ∈ ((Cache.new capacity).after accesses).entries,
          (accesses.filterMap CacheCall.inserted?).reverse.lookup entry.1 = some entry.2) := by
  obtain ⟨answers, shows⟩ :=
    (Workspace.shows_new machine locator search disk loader retry sizes).run calls
  refine ⟨answers, ?_, ?_, ?_⟩
  · intro name fifo found
    rw [shows.shown, Option.map_eq_some_iff] at found
    obtain ⟨number, -, rfl⟩ := found
    have sound := shows.wellFormed_cacheAt number
    refine ⟨sound.nodup_keys, ?_⟩
    show (Cache.entries _).length ≤ _
    rw [sound.length_entries]
    exact sound.length_le
  · intro cache reachable
    have sound := reachable.wellFormed
    show (cache.insertAll cache.entries).view = cache.view
    rw [sound.view_insertAll]
    exact cache.view.insertAll_self sound.nodup_keys
  · intro capacity accesses positive allowed
    have sound := Cache.wellFormed_new capacity
    have effective : (Cache.new capacity).Effective := ⟨rfl, positive⟩
    refine ⟨sound.keys_after effective allowed, fun entry mem => ?_⟩
    have found := sound.lookup_inserted effective allowed mem
    rwa [show (Cache.new capacity).entries = [] from rfl, List.append_nil] at found

/-- Two points, another value for the first, and a third point. -/
def overwriting : List CacheCall :=
  [.insert [⟨1⟩] [⟨10⟩], .insert [⟨2⟩] [⟨20⟩], .lookup [⟨1⟩], .insert [⟨1⟩] [⟨11⟩],
    .insert [⟨3⟩] [⟨30⟩]]

/-- The law at work: of two places, the overwritten point still leaves the older one. -/
theorem overwriting_does_not_refresh :
    (((Shelf.new [("a", 2)]).run []).2 "a" = some (Fifo.new 2) ∧ (Fifo.new 2).keys.Nodup) ∧
    ((Cache.new 2).Reachable ∧ ((Cache.new 2).merge (Cache.new 2)).view = (Cache.new 2).view) ∧
    0 < 2 ∧ (∀ call ∈ overwriting, call.isAccess = true) ∧
    ((Cache.new 2).after overwriting).entries.map (·.1) = [[⟨2⟩], [⟨3⟩]] := by
  obtain ⟨-, distinct, itself, last⟩ := run_caches_eq_run_shelf ⟨none, .inOrder⟩ none ⟨[]⟩
    ⟨fun _ => .ok .other, fun _ => .error (.system 2)⟩ ⟨fun _ _ => .error "", fun _ => .ok ()⟩ .once
    [("a", 2)] []
  have accesses : ∀ call ∈ overwriting, call.isAccess = true := by decide
  have arrived : ((Cache.new 2).arrivals overwriting).rtake 2 = [[⟨2⟩], [⟨3⟩]] := by decide
  obtain ⟨keys, -⟩ := last 2 overwriting (by decide) accesses
  exact ⟨⟨rfl, (distinct "a" _ rfl).1⟩, ⟨.new 2, itself _ (.new 2)⟩, by decide, accesses,
    keys.trans arrived⟩

end ForeignEval

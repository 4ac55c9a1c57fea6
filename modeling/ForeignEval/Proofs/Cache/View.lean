import ForeignEval.Proofs.Cache.Entries
import ForeignEval.Proofs.Cache.Fifo

/-!
# Caches as bounded queues

Every operation on a well-formed cache is the operation of the same name on its **view**, the
bounded queue of its entries; what it answers is what the queue answers.

* **Invariant** — `WellFormed.callCache`: a call on well-formed caches leaves a well-formed one.
* **Refinement** — `WellFormed.call_view`: answer and view of a call are those of `Fifo.call`.
* **Reachable** — `Reachable.wellFormed`: the caches that calls make out of new ones are
  well-formed.
-/

namespace ForeignEval

open Workspace (CacheCall Value callCache)

namespace Cache

/-- A cache as a bounded queue of its entries. -/
def view (cache : Cache) : Fifo where
  entries := cache.entries
  capacity := cache.maxSize
  enabled := cache.enabled
  hits := cache.hits
  misses := cache.misses

/-- The caches that calls make out of new ones; a merge may read any other such cache. -/
inductive Reachable : Cache → Prop
  | new (maxSize : Nat) : Reachable (.new maxSize)
  | call {cache other : Cache} (call : CacheCall) :
      Reachable cache → Reachable other → Reachable (callCache cache other call).2

/-! ## Eviction and settings -/

theorem settings_evictOldest (cache : Cache) :
    cache.evictOldest.maxSize = cache.maxSize ∧ cache.evictOldest.enabled = cache.enabled ∧
      cache.evictOldest.hits = cache.hits ∧ cache.evictOldest.misses = cache.misses := by
  unfold evictOldest
  split <;> exact ⟨rfl, rfl, rfl, rfl⟩

theorem settings_evictWithin (steps bound : Nat) (cache : Cache) :
    (evictWithin steps bound cache).maxSize = cache.maxSize ∧
      (evictWithin steps bound cache).enabled = cache.enabled ∧
      (evictWithin steps bound cache).hits = cache.hits ∧
      (evictWithin steps bound cache).misses = cache.misses := by
  induction steps generalizing cache with
  | zero => exact ⟨rfl, rfl, rfl, rfl⟩
  | succ steps ih =>
    unfold evictWithin
    split
    · obtain ⟨size, enabled, hits, misses⟩ := ih cache.evictOldest
      obtain ⟨size', enabled', hits', misses'⟩ := settings_evictOldest cache
      exact ⟨size.trans size', enabled.trans enabled', hits.trans hits', misses.trans misses'⟩
    · exact ⟨rfl, rfl, rfl, rfl⟩

theorem Linked.view_evictTo {cache : Cache} (linked : cache.Linked) (bound : Nat) :
    (cache.evictTo bound).view = { cache.view with entries := cache.entries.rtake bound } := by
  obtain ⟨size, enabled, hits, misses⟩ := settings_evictWithin cache.order.length bound cache
  have entries := linked.entries_evictTo bound
  unfold view
  rw [entries]
  unfold Cache.evictTo
  rw [size, enabled, hits, misses]

/-! ## Reading -/

namespace Linked

variable {cache : Cache} (linked : cache.Linked)

include linked

theorem keys_view : cache.view.keys = cache.order := linked.keys_entries

theorem mem_keys (point : Point) : point ∈ cache.view.keys ↔ point ∈ cache.table := by
  rw [linked.keys_view, linked.mem_table]

/-- What a cache serves for a point is what its queue finds. -/
theorem peek_eq (point : Point) : cache.peek point = cache.view.find? point := by
  unfold peek Fifo.find?
  rw [← linked.lookup_entries]
  rfl

theorem isSome_peek_iff (enabled : cache.enabled = true) (point : Point) :
    (cache.peek point).isSome = true ↔ point ∈ cache.view.keys := by
  unfold peek
  rw [if_pos enabled, linked.mem_keys, Std.TreeMap.mem_iff_isSome_getElem?]

theorem view_count (point : Point) : (cache.count point).view = cache.view.count point := by
  unfold count Fifo.count
  by_cases enabled : cache.enabled = true
  · have served : cache.view.enabled = true := enabled
    rw [if_pos enabled, if_pos served]
    by_cases found : point ∈ cache.view.keys
    · rw [if_pos found, if_pos ((linked.isSome_peek_iff enabled point).2 found)]
      rfl
    · rw [if_neg found, if_neg (mt (linked.isSome_peek_iff enabled point).1 found)]
      rfl
  · have served : ¬cache.view.enabled = true := enabled
    rw [if_neg enabled, if_neg served]

theorem stats_eq : cache.stats = cache.view.stats := by
  unfold stats Fifo.stats
  rw [linked.size_eq, ← linked.length_entries]
  rfl

theorem recordText_eq : cache.recordText = cache.view.stats.recordText := by
  rw [← linked.stats_eq]
  rfl

/-! ## Writing -/

theorem insert_table {point : Point} (known : point ∈ cache.table) (value : Point) :
    Linked { cache with table := cache.table.insert point value } := by
  refine ⟨linked.nodup, fun other => ?_⟩
  rw [mem_insert, linked.mem_table]
  constructor
  · rintro (rfl | mem)
    · exact (linked.mem_table _).1 known
    · exact mem
  · exact .inr

theorem append {point : Point} (new : point ∉ cache.table) (value : Point) :
    (cache.append point value).Linked := by
  have absent : point ∉ cache.order := mt (linked.mem_table point).2 new
  refine ⟨?_, fun other => ?_⟩
  · exact List.Nodup.append linked.nodup (List.nodup_singleton point)
      (List.disjoint_singleton.2 absent)
  · show other ∈ cache.table.insert point value ↔ other ∈ cache.order ++ [point]
    rw [mem_insert, linked.mem_table, List.mem_append, List.mem_singleton]
    constructor
    · rintro (rfl | mem)
      · exact .inr rfl
      · exact .inl mem
    · rintro (mem | rfl)
      · exact .inr mem
      · exact .inl rfl

theorem entries_append {point : Point} (new : point ∉ cache.table) (value : Point) :
    (cache.append point value).entries = cache.entries ++ [(point, value)] := by
  have absent : point ∉ cache.order := mt (linked.mem_table point).2 new
  have others : listed (cache.table.insert point value) cache.order = cache.entries :=
    listed_congr fun other mem => by
      rw [getElem?_insert, if_neg (fun same : point = other => absent (same ▸ mem))]
  have last : listed (cache.table.insert point value) [point] = [(point, value)] := by
    have found : (cache.table.insert point value)[point]? = some value := by simp
    rw [listed_cons found]
    rfl
  calc (cache.append point value).entries
      = listed (cache.table.insert point value) (cache.order ++ [point]) := rfl
    _ = listed (cache.table.insert point value) cache.order ++
          listed (cache.table.insert point value) [point] := List.filterMap_append
    _ = cache.entries ++ [(point, value)] := by rw [others, last]

theorem view_append {point : Point} (new : point ∉ cache.table) (value : Point) :
    (cache.append point value).view =
      { cache.view with entries := cache.entries ++ [(point, value)] } := by
  have entries := linked.entries_append new value
  unfold view
  rw [entries]
  rfl

/-- Eviction brings no point into the table. -/
theorem not_mem_evictTo {point : Point} (new : point ∉ cache.table) (bound : Nat) :
    point ∉ (cache.evictTo bound).table := by
  have evicted := linked.evictTo bound
  rw [evicted.mem_table, ← evicted.keys_entries, linked.entries_evictTo, List.rtake, List.map_drop,
    linked.keys_entries]
  exact fun mem => new ((linked.mem_table point).2 (List.mem_of_mem_drop mem))

end Linked

/-! ## Operations on well-formed caches -/

theorem wellFormed_new (maxSize : Nat) : (new maxSize).WellFormed where
  nodup := List.nodup_nil
  mem_table point := by
    constructor
    · intro mem
      exact absurd mem Std.TreeMap.not_mem_emptyc
    · intro mem
      cases mem
  length_le := Nat.zero_le _

theorem count_fields (cache : Cache) (point : Point) :
    (cache.count point).table = cache.table ∧ (cache.count point).order = cache.order ∧
      (cache.count point).maxSize = cache.maxSize ∧
      (cache.count point).enabled = cache.enabled := by
  unfold count
  split
  · split <;> exact ⟨rfl, rfl, rfl, rfl⟩
  · exact ⟨rfl, rfl, rfl, rfl⟩

namespace WellFormed

variable {cache : Cache} (sound : cache.WellFormed)

include sound

theorem count (point : Point) : (cache.count point).WellFormed := by
  obtain ⟨table, order, size, -⟩ := count_fields cache point
  refine ⟨⟨?_, fun other => ?_⟩, ?_⟩
  · rw [order]
    exact sound.nodup
  · rw [table, order]
    exact sound.mem_table other
  · rw [order, size]
    exact sound.length_le

theorem insert (point value : Point) : (cache.insert point value).WellFormed := by
  unfold Cache.insert
  split
  · rename_i effective
    split
    · rename_i known
      exact ⟨sound.insert_table known value, sound.length_le⟩
    · rename_i new
      have new := mt Std.TreeMap.contains_iff_mem.2 new
      -- evicting to one below the capacity leaves room for the new entry
      have absent := sound.not_mem_evictTo new (cache.maxSize - 1)
      refine ⟨(sound.evictTo _).append absent value, ?_⟩
      show ((cache.evictTo (cache.maxSize - 1)).order ++ [point]).length ≤
        (cache.evictTo (cache.maxSize - 1)).maxSize
      have size : (cache.evictTo (cache.maxSize - 1)).maxSize = cache.maxSize :=
        (settings_evictWithin _ _ cache).1
      rw [List.length_append, sound.length_order_evictTo, size, List.length_singleton]
      omega
  · exact sound

/-- Inserting is inserting into the queue. -/
theorem view_insert (point value : Point) :
    (cache.insert point value).view = cache.view.insert point value := by
  unfold Cache.insert Fifo.insert
  by_cases effective : cache.enabled = true ∧ 0 < cache.maxSize
  · have effective' : cache.view.enabled = true ∧ 0 < cache.view.capacity := effective
    rw [if_pos effective, if_pos effective']
    unfold Fifo.put
    by_cases known : point ∈ cache.table
    · rw [if_pos (Std.TreeMap.contains_iff_mem.2 known), if_pos ((sound.mem_keys point).2 known)]
      have entries := listed_insert (fun other mem => (sound.mem_table other).2 mem) point value
      unfold view
      rw [entries_eq_listed, entries]
      rfl
    · rw [if_neg (mt Std.TreeMap.contains_iff_mem.1 known),
        if_neg (mt (sound.mem_keys point).1 known)]
      have absent := sound.not_mem_evictTo known (cache.maxSize - 1)
      rw [(sound.evictTo _).view_append absent, sound.view_evictTo, sound.entries_evictTo]
      rfl
  · have effective' : ¬(cache.view.enabled = true ∧ 0 < cache.view.capacity) := effective
    rw [if_neg effective, if_neg effective']

theorem insertAll (entries : List (Point × Point)) : (cache.insertAll entries).WellFormed := by
  induction entries generalizing cache with
  | nil => exact sound
  | cons entry entries ih => exact ih (sound.insert entry.1 entry.2)

theorem view_insertAll (entries : List (Point × Point)) :
    (cache.insertAll entries).view = cache.view.insertAll entries := by
  induction entries generalizing cache with
  | nil => rfl
  | cons entry entries ih =>
    calc (cache.insertAll (entry :: entries)).view
        = ((cache.insert entry.1 entry.2).insertAll entries).view := rfl
      _ = (cache.insert entry.1 entry.2).view.insertAll entries := ih (sound.insert _ _)
      _ = cache.view.insertAll (entry :: entries) := by rw [sound.view_insert]; rfl

omit sound in
theorem clear : cache.clear.WellFormed where
  nodup := List.nodup_nil
  mem_table := (wellFormed_new 0).mem_table
  length_le := Nat.zero_le _

theorem setMaxSize (maxSize : Nat) : (cache.setMaxSize maxSize).WellFormed := by
  refine ⟨⟨(sound.evictTo maxSize).nodup, (sound.evictTo maxSize).mem_table⟩, ?_⟩
  show (cache.evictTo maxSize).order.length ≤ maxSize
  rw [sound.length_order_evictTo]
  exact Nat.min_le_left _ _

theorem view_setMaxSize (maxSize : Nat) :
    (cache.setMaxSize maxSize).view = cache.view.setCapacity maxSize := by
  have evicted := sound.view_evictTo maxSize
  calc (cache.setMaxSize maxSize).view
      = { (cache.evictTo maxSize).view with capacity := maxSize } := rfl
    _ = cache.view.setCapacity maxSize := by rw [evicted]; rfl

/-- A call on well-formed caches leaves a well-formed one. -/
theorem callCache {other : Cache} (call : CacheCall) :
    (Workspace.callCache cache other call).2.WellFormed := by
  cases call with
  | insert point value => exact sound.insert point value
  | lookup point => exact sound.count point
  | merge name => exact sound.insertAll other.entries
  | clear => exact clear
  | setMaxSize size => exact sound.setMaxSize size
  | enable | disable => exact ⟨⟨sound.nodup, sound.mem_table⟩, sound.length_le⟩
  | contains | entries | counts | record => exact sound

/-- **Refinement**: a call on a cache is the call on its queue, in answer and effect. -/
theorem call_view (other : Cache) (call : CacheCall) :
    cache.view.call other.view call =
      ((Workspace.callCache cache other call).1,
        (Workspace.callCache cache other call).2.view) := by
  have length : cache.size = cache.view.entries.length := by
    rw [sound.size_eq, ← sound.length_entries]
    rfl
  cases call with
  | insert point value => exact Prod.ext rfl (sound.view_insert point value).symm
  | lookup point =>
    exact Prod.ext (congrArg Value.point (sound.peek_eq point).symm) (sound.view_count point).symm
  | contains point =>
    have served := sound.peek_eq point
    exact Prod.ext (congrArg (fun found : Option Point => Value.flag found.isSome) served.symm) rfl
  | merge name => exact Prod.ext rfl (sound.view_insertAll other.entries).symm
  | setMaxSize size => exact Prod.ext rfl (sound.view_setMaxSize size).symm
  | clear | enable | disable | entries => rfl
  | counts =>
    refine Prod.ext ?_ rfl
    show Value.counts _ _ _ _ _ = Value.counts cache.size (cache.size = 0) _ _ _
    rw [length]
    rfl
  | record =>
    exact Prod.ext (congrArg (fun text => Value.text (some text)) sound.recordText_eq.symm) rfl

end WellFormed

/-- Reachable caches are well-formed. -/
theorem Reachable.wellFormed {cache : Cache} (reachable : cache.Reachable) : cache.WellFormed := by
  induction reachable with
  | new maxSize => exact wellFormed_new maxSize
  | call call _ _ ih _ => exact ih.callCache call

end Cache

end ForeignEval

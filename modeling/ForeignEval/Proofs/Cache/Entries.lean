import ForeignEval.Cache
import Mathlib.Data.List.DropRight
import Mathlib.Data.List.Nodup

/-!
# The entries of a cache

A cache keeps a table and a queue. They are **linked** when the queue lists the points of the table,
each once, and the cache is **well-formed** when it has room for them as well. In a linked cache the
list `Cache.entries` says everything about the two:

* **Keys** — `Linked.keys_entries`: its points are the queue, so they are distinct.
* **Reading** — `Linked.lookup_entries`: looking a point up in it is looking it up in the table.
* **Eviction** — `Linked.evictTo`, `Linked.entries_evictTo`: evicting to a bound keeps the link and
  leaves the last entries.
-/

namespace ForeignEval

namespace Cache

/-- The entries that a queue and a table make up together. -/
def listed (table : Std.TreeMap Point Point) (order : List Point) : List (Point × Point) :=
  order.filterMap fun point => table[point]?.map (point, ·)

/-! ## Tables and queues -/

theorem getElem?_insert (table : Std.TreeMap Point Point) (point value other : Point) :
    (table.insert point value)[other]? = if point = other then some value else table[other]? := by
  rw [Std.TreeMap.getElem?_insert]
  simp only [Std.LawfulEqCmp.compare_eq_iff_eq]

theorem getElem?_erase (table : Std.TreeMap Point Point) (point other : Point) :
    (table.erase point)[other]? = if point = other then none else table[other]? := by
  rw [Std.TreeMap.getElem?_erase]
  simp only [Std.LawfulEqCmp.compare_eq_iff_eq]

theorem mem_insert (table : Std.TreeMap Point Point) (point value other : Point) :
    other ∈ table.insert point value ↔ point = other ∨ other ∈ table := by
  rw [Std.TreeMap.mem_insert, Std.LawfulEqCmp.compare_eq_iff_eq]

theorem mem_erase (table : Std.TreeMap Point Point) (point other : Point) :
    other ∈ table.erase point ↔ point ≠ other ∧ other ∈ table := by
  rw [Std.TreeMap.mem_erase, Ne, Std.LawfulEqCmp.compare_eq_iff_eq]

theorem exists_value {table : Std.TreeMap Point Point} {point : Point} (known : point ∈ table) :
    ∃ value, table[point]? = some value :=
  Option.isSome_iff_exists.1 (Std.TreeMap.mem_iff_isSome_getElem?.1 known)

/-- What a table says about a point that is not queued does not show. -/
theorem listed_congr {table table' : Std.TreeMap Point Point} {order : List Point}
    (same : ∀ point ∈ order, table'[point]? = table[point]?) :
    listed table' order = listed table order := by
  unfold listed
  refine List.filterMap_congr fun point mem => ?_
  rw [same point mem]

theorem listed_cons {table : Std.TreeMap Point Point} {point value : Point}
    (found : table[point]? = some value) (order : List Point) :
    listed table (point :: order) = (point, value) :: listed table order := by
  unfold listed
  rw [List.filterMap_cons, found]
  rfl

/-- With every queued point in the table, no entry is missing. -/
theorem keys_listed {table : Std.TreeMap Point Point} {order : List Point}
    (known : ∀ point ∈ order, point ∈ table) : (listed table order).map (·.1) = order := by
  induction order with
  | nil => rfl
  | cons point order ih =>
    obtain ⟨value, found⟩ := exists_value (known point List.mem_cons_self)
    have rest := ih fun other mem => known other (List.mem_cons_of_mem _ mem)
    rw [listed_cons found, List.map_cons, rest]

theorem lookup_listed (table : Std.TreeMap Point Point) (order : List Point) (point : Point) :
    (listed table order).lookup point = if point ∈ order then table[point]? else none := by
  induction order with
  | nil => rfl
  | cons other order ih =>
    cases found : table[other]? with
    | none =>
      have skip : listed table (other :: order) = listed table order := by
        unfold listed
        rw [List.filterMap_cons, found]
        rfl
      rw [skip, ih]
      by_cases same : point = other
      · subst same
        simp [found]
      · simp [same]
    | some value =>
      rw [listed_cons found, List.lookup_cons, ih]
      by_cases same : point = other
      · subst same
        simp [found]
      · have differ : (point == other) = false := beq_eq_false_iff_ne.2 same
        simp [same, differ]

/-- Another value for a point changes its entry where it stands. -/
theorem listed_insert {table : Std.TreeMap Point Point} {order : List Point}
    (known : ∀ point ∈ order, point ∈ table) (point value : Point) :
    listed (table.insert point value) order =
      (listed table order).map fun entry => if entry.1 = point then (point, value) else entry := by
  induction order with
  | nil => rfl
  | cons other order ih =>
    obtain ⟨old, found⟩ := exists_value (known other List.mem_cons_self)
    have rest := ih fun p mem => known p (List.mem_cons_of_mem _ mem)
    have found' := getElem?_insert table point value other
    by_cases same : point = other
    · subst same
      rw [if_pos rfl] at found'
      rw [listed_cons found', listed_cons found, rest]
      simp
    · rw [if_neg same, found] at found'
      rw [listed_cons found', listed_cons found, rest]
      simp [Ne.symm same]

/-! ## Linked caches -/

/-- The queue of a cache lists the points of its table, each once. -/
structure Linked (cache : Cache) : Prop where
  /-- No point is queued twice. -/
  nodup : cache.order.Nodup
  /-- The points of the table are the queued ones. -/
  mem_table : ∀ point, point ∈ cache.table ↔ point ∈ cache.order

/-- A linked cache that keeps to its size. -/
structure WellFormed (cache : Cache) : Prop extends Linked cache where
  /-- There are no more entries than there may be. -/
  length_le : cache.order.length ≤ cache.maxSize

theorem entries_eq_listed (cache : Cache) : cache.entries = listed cache.table cache.order := rfl

namespace Linked

variable {cache : Cache} (linked : cache.Linked)

include linked

theorem size_eq : cache.size = cache.order.length := by
  unfold Cache.size
  rw [← Std.TreeMap.length_keys]
  refine List.Perm.length_eq ((List.perm_ext_iff_of_nodup Std.TreeMap.nodup_keys linked.nodup).2 ?_)
  intro point
  rw [Std.TreeMap.mem_keys, linked.mem_table]

theorem keys_entries : cache.entries.map (·.1) = cache.order :=
  keys_listed fun point mem => (linked.mem_table point).2 mem

theorem nodup_keys : (cache.entries.map (·.1)).Nodup := by
  rw [linked.keys_entries]
  exact linked.nodup

theorem length_entries : cache.entries.length = cache.order.length := by
  rw [← linked.keys_entries, List.length_map]

theorem lookup_entries (point : Point) : cache.entries.lookup point = cache.table[point]? := by
  rw [entries_eq_listed, lookup_listed]
  by_cases queued : point ∈ cache.order
  · rw [if_pos queued]
  · rw [if_neg queued]
    exact (Std.TreeMap.getElem?_eq_none fun mem => queued ((linked.mem_table point).1 mem)).symm

/-- The oldest entry leaves the table and the queue together. -/
theorem evictOldest : cache.evictOldest.Linked := by
  unfold Cache.evictOldest
  split
  · exact linked
  · rename_i oldest order queue
    have nodup := linked.nodup
    rw [queue, List.nodup_cons] at nodup
    refine ⟨nodup.2, fun point => ?_⟩
    have mem := linked.mem_table point
    rw [queue, List.mem_cons] at mem
    rw [mem_erase, mem]
    constructor
    · rintro ⟨other, rfl | later⟩
      · exact absurd rfl other
      · exact later
    · intro later
      exact ⟨fun same => nodup.1 (same ▸ later), .inr later⟩

omit linked in
theorem order_evictOldest : cache.evictOldest.order = cache.order.tail := by
  unfold Cache.evictOldest
  split
  · rename_i queue
    rw [queue, List.tail_nil]
  · rename_i queue
    rw [queue, List.tail_cons]

theorem entries_evictOldest : cache.evictOldest.entries = cache.entries.tail := by
  unfold Cache.evictOldest
  split
  · rename_i queue
    rw [entries_eq_listed, queue]
    rfl
  · rename_i oldest order queue
    have nodup := linked.nodup
    rw [queue, List.nodup_cons] at nodup
    obtain ⟨value, found⟩ :=
      exists_value ((linked.mem_table oldest).2 (queue ▸ List.mem_cons_self))
    -- the erased point is queued nowhere else
    have others : listed (cache.table.erase oldest) order = listed cache.table order :=
      listed_congr fun point mem => by
        rw [getElem?_erase, if_neg (fun same : oldest = point => nodup.1 (same ▸ mem))]
    rw [entries_eq_listed cache, queue, listed_cons found, List.tail_cons]
    exact others

/-- Evicting keeps the link, however many steps it may take. -/
theorem evictWithin (steps bound : Nat) : (Cache.evictWithin steps bound cache).Linked := by
  induction steps generalizing cache with
  | zero => exact linked
  | succ steps ih =>
    unfold Cache.evictWithin
    split
    · exact ih linked.evictOldest
    · exact linked

/-- With enough steps, the last entries up to the bound are left. -/
theorem entries_evictWithin {steps bound : Nat} (enough : cache.order.length ≤ bound + steps) :
    (Cache.evictWithin steps bound cache).entries = cache.entries.rtake bound := by
  induction steps generalizing cache with
  | zero =>
    -- without steps left, nothing is over the bound
    have all : cache.entries.length - bound = 0 := by
      rw [linked.length_entries]
      omega
    rw [List.rtake, all, List.drop_zero]
    rfl
  | succ steps ih =>
    unfold Cache.evictWithin
    by_cases full : bound < cache.size
    · rw [if_pos full]
      rw [linked.size_eq] at full
      have shorter : cache.evictOldest.order.length ≤ bound + steps := by
        rw [order_evictOldest, List.length_tail]
        omega
      rw [ih linked.evictOldest shorter, linked.entries_evictOldest, List.rtake, List.rtake,
        List.length_tail, ← List.drop_one, List.drop_drop, linked.length_entries]
      congr 1
      omega
    · rw [if_neg full]
      rw [linked.size_eq] at full
      have all : cache.entries.length - bound = 0 := by
        rw [linked.length_entries]
        omega
      rw [List.rtake, all, List.drop_zero]

theorem evictTo (bound : Nat) : (cache.evictTo bound).Linked := linked.evictWithin _ _

/-- The steps that the queue allows are enough. -/
theorem entries_evictTo (bound : Nat) :
    (cache.evictTo bound).entries = cache.entries.rtake bound :=
  linked.entries_evictWithin (Nat.le_add_left _ _)

theorem length_order_evictTo (bound : Nat) :
    (cache.evictTo bound).order.length = min bound cache.order.length := by
  rw [← (linked.evictTo bound).length_entries, linked.entries_evictTo, ← linked.length_entries,
    List.rtake, List.length_drop]
  omega

end Linked

end Cache

end ForeignEval

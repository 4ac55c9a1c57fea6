import ForeignEval.Proofs.Tables
import ForeignEval.Workspace.Run
import Mathlib.Data.List.DropRight
import Mathlib.Logic.Function.Basic

/-!
# Bounded queues of entries

A `Fifo` is a cache without a table: the entries in the order in which they came, a capacity, a
flag and two counters. It is the machine by which caches are judged, and each of its operations is
one line on the list of entries.

* **Inserting** — `Fifo.put` overwrites a point that is there where it stands; in front of a new
  point the oldest entries leave until fewer than the capacity remain.
* **Distinct keys** — `Fifo.mem_put` says what an insertion leaves, `Fifo.keys_put` in which order;
  `Fifo.insertAll_self` leaves a machine as it is.
* **Calls** — `Fifo.call` answers the calls that can be made on a cache.
* **Shelves** — a `Shelf` has a machine for some names; `Shelf.run` answers calls by name, and a
  name may be merged into itself.
-/

namespace ForeignEval

open Workspace (CacheCall Name Outcome Value)

/-- The text of a snapshot as the record of a cache. -/
def CacheStats.recordText (stats : CacheStats) : String :=
  "ResultCache(CacheStats \x7b entries: " ++ toString stats.entries ++
    ", max_size: " ++ toString stats.maxSize ++
    ", hits: " ++ toString stats.hits ++
    ", misses: " ++ toString stats.misses ++
    ", enabled: " ++ toString stats.enabled ++ " \x7d)"

/-- A bounded queue of entries. -/
structure Fifo where
  /-- The points with their outputs, oldest first. -/
  entries : List (Point × Point)
  /-- How many entries there may be. -/
  capacity : Nat
  /-- Whether entries are served and recorded. -/
  enabled : Bool
  /-- How many lookups found an entry. -/
  hits : Nat
  /-- How many lookups found none. -/
  misses : Nat
deriving DecidableEq

namespace Fifo

/-- An enabled machine without entries. -/
def new (capacity : Nat) : Fifo := ⟨[], capacity, true, 0, 0⟩

/-- The points of the entries, oldest first. -/
def keys (fifo : Fifo) : List Point := fifo.entries.map (·.1)

/-- The output for a point, if there is an entry and entries are served. -/
def find? (fifo : Fifo) (point : Point) : Option Point :=
  if fifo.enabled then fifo.entries.lookup point else none

/-- The machine after a lookup has been counted, as one hit or one miss while it is enabled. -/
def count (fifo : Fifo) (point : Point) : Fifo :=
  if fifo.enabled then
    if point ∈ fifo.keys then { fifo with hits := fifo.hits + 1 }
    else { fifo with misses := fifo.misses + 1 }
  else fifo

/-- The machine after lookups of points: while it is enabled, each of them is a hit or a miss. -/
def counting (fifo : Fifo) (points : List Point) : Fifo :=
  if fifo.enabled then
    { fifo with
      hits := fifo.hits + points.countP (· ∈ fifo.keys)
      misses := fifo.misses + points.countP (· ∉ fifo.keys) }
  else fifo

/-- The entries after an insertion that takes effect. -/
def put (fifo : Fifo) (point value : Point) : List (Point × Point) :=
  if point ∈ fifo.keys then
    fifo.entries.map fun entry => if entry.1 = point then (point, value) else entry
  else fifo.entries.rtake (fifo.capacity - 1) ++ [(point, value)]

/-- An insertion takes effect on an enabled machine with a capacity. -/
def insert (fifo : Fifo) (point value : Point) : Fifo :=
  if fifo.enabled ∧ 0 < fifo.capacity then { fifo with entries := fifo.put point value } else fifo

/-- Inserts a list of entries from front to back. -/
def insertAll (fifo : Fifo) (entries : List (Point × Point)) : Fifo :=
  entries.foldl (fun fifo entry => fifo.insert entry.1 entry.2) fifo

/-- The machine with another capacity, and the last entries for which there is room. -/
def setCapacity (fifo : Fifo) (capacity : Nat) : Fifo :=
  { fifo with entries := fifo.entries.rtake capacity, capacity }

/-- The counters. -/
def stats (fifo : Fifo) : CacheStats :=
  ⟨fifo.entries.length, fifo.capacity, fifo.hits, fifo.misses, fifo.enabled⟩

/-- What a call answers and leaves; `other` is the machine that a merge reads. -/
def call (fifo other : Fifo) : CacheCall → Value × Fifo
  | .insert point value => (.unit, fifo.insert point value)
  | .lookup point => (.point (fifo.find? point), fifo.count point)
  | .contains point => (.flag (fifo.find? point).isSome, fifo)
  | .merge _ => (.unit, fifo.insertAll other.entries)
  | .clear => (.unit, { fifo with entries := [] })
  | .setMaxSize size => (.unit, fifo.setCapacity size)
  | .enable => (.unit, { fifo with enabled := true })
  | .disable => (.unit, { fifo with enabled := false })
  | .entries => (.entries fifo.entries, fifo)
  | .counts =>
    (.counts fifo.entries.length (fifo.entries.length = 0) fifo.hits fifo.capacity fifo.enabled,
      fifo)
  | .record => (.text (some fifo.stats.recordText), fifo)

/-! ## Distinct keys -/

variable (fifo : Fifo)

/-- An insertion leaves the new entry and old ones of other points. -/
theorem mem_put {point value : Point} {entry : Point × Point} (mem : entry ∈ fifo.put point value) :
    entry = (point, value) ∨ entry ∈ fifo.entries ∧ entry.1 ≠ point := by
  unfold put at mem
  split at mem
  · obtain ⟨old, there, rfl⟩ := List.mem_map.1 mem
    by_cases same : old.1 = point
    · rw [if_pos same]
      exact .inl rfl
    · rw [if_neg same]
      exact .inr ⟨there, same⟩
  · rename_i absent
    rcases List.mem_append.1 mem with old | new
    · have old := List.mem_of_mem_drop old
      exact .inr ⟨old, fun same => absent (same ▸ List.mem_map_of_mem old)⟩
    · exact .inl (List.mem_singleton.1 new)

/-- An insertion leaves the keys as they are, or puts a new one behind the last ones. -/
theorem keys_put (point value : Point) :
    (fifo.put point value).map (·.1) =
      if point ∈ fifo.keys then fifo.keys else fifo.keys.rtake (fifo.capacity - 1) ++ [point] := by
  unfold put
  split
  · rw [List.map_map]
    refine List.map_congr_left fun entry _ => ?_
    show (if entry.1 = point then (point, value) else entry).1 = entry.1
    split
    · rename_i same
      exact same.symm
    · rfl
  · unfold keys
    rw [List.map_append, List.rtake, List.rtake, List.map_drop, List.length_map]
    rfl

theorem insert_of_mem (distinct : fifo.keys.Nodup) {entry : Point × Point}
    (mem : entry ∈ fifo.entries) : fifo.insert entry.1 entry.2 = fifo := by
  have known : entry.1 ∈ fifo.keys := List.mem_map_of_mem mem
  have same : fifo.put entry.1 entry.2 = fifo.entries := by
    unfold put
    rw [if_pos known]
    refine (List.map_congr_left fun other there => ?_).trans (List.map_id _)
    show (if other.1 = entry.1 then (entry.1, entry.2) else other) = other
    split
    · -- an entry of the same point is the same entry
      rename_i key
      have found := lookup_of_mem distinct there
      rw [key, lookup_of_mem distinct mem, Option.some.injEq] at found
      exact Prod.ext key.symm found
    · rfl
  unfold insert
  rw [same]
  split <;> rfl

/-- Inserting its own entries into a machine changes nothing. -/
theorem insertAll_self (distinct : fifo.keys.Nodup) : fifo.insertAll fifo.entries = fifo := by
  suffices part : ∀ entries, (∀ entry ∈ entries, entry ∈ fifo.entries) →
      fifo.insertAll entries = fifo from part _ fun _ mem => mem
  intro entries own
  induction entries with
  | nil => rfl
  | cons entry rest ih =>
    show (fifo.insert entry.1 entry.2).insertAll rest = fifo
    rw [fifo.insert_of_mem distinct (own entry List.mem_cons_self)]
    exact ih fun other mem => own other (List.mem_cons_of_mem _ mem)

/-- Where there is room, entries of new points are put at the end. -/
theorem insertAll_of_room {fifo : Fifo} (enabled : fifo.enabled = true)
    {added : List (Point × Point)}
    (distinct : (fifo.keys ++ added.map (·.1)).Nodup)
    (room : fifo.entries.length + added.length ≤ fifo.capacity) :
    fifo.insertAll added = { fifo with entries := fifo.entries ++ added } := by
  induction added generalizing fifo with
  | nil =>
    rw [List.append_nil]
    rfl
  | cons entry added ih =>
    rw [List.length_cons] at room
    rw [List.map_cons, List.append_cons] at distinct
    have absent : entry.1 ∉ fifo.keys := fun known =>
      (List.nodup_append.1 (List.nodup_append.1 distinct).1).2.2 _ known _
        (List.mem_singleton_self _) rfl
    have effective : fifo.enabled = true ∧ 0 < fifo.capacity := ⟨enabled, by omega⟩
    have kept : fifo.entries.length - (fifo.capacity - 1) = 0 := by omega
    have inserted : fifo.insert entry.1 entry.2 =
        { fifo with entries := fifo.entries ++ [entry] } := by
      rw [insert, if_pos effective, put, if_neg absent, List.rtake, kept, List.drop_zero]
    have keys : ({ fifo with entries := fifo.entries ++ [entry] } : Fifo).keys =
        fifo.keys ++ [entry.1] := List.map_append
    show (fifo.insert entry.1 entry.2).insertAll added = _
    rw [inserted, ih]
    · show Fifo.mk _ _ _ _ _ = Fifo.mk _ _ _ _ _
      rw [List.append_assoc]
      rfl
    · exact enabled
    · rw [keys]
      exact distinct
    · show (fifo.entries ++ [entry]).length + added.length ≤ fifo.capacity
      rw [List.length_append, List.length_singleton]
      omega

end Fifo

/-- Machines by name. -/
abbrev Shelf := Name → Option Fifo

namespace Shelf

/-- New machines of these capacities; a name given twice stands for the first. -/
def new (sizes : List (Name × Nat)) : Shelf := fun name => (sizes.lookup name).map Fifo.new

/-- The machine that a call reads besides the one that it is made on. -/
def source (shelf : Shelf) (name : Name) : CacheCall → Option Fifo
  | .merge other => shelf other
  | _ => shelf name

/-- The answer to a call on the machine of a name, with the counters afterwards. -/
def answer (shelf : Shelf) (name : Name) (call : CacheCall) : Outcome × Shelf :=
  match shelf name, shelf.source name call with
  | some fifo, some other =>
    let result := fifo.call other call
    (.cached result.1 result.2.stats, Function.update shelf name (some result.2))
  | _, _ => (.missing .cache, shelf)

/-- The answers to calls in order, and the machines afterwards. -/
def run (shelf : Shelf) : List (Name × CacheCall) → List Outcome × Shelf
  | [] => ([], shelf)
  | (name, call) :: rest =>
    let (outcome, shelf) := shelf.answer name call
    let (outcomes, shelf) := shelf.run rest
    (outcome :: outcomes, shelf)

end Shelf

end ForeignEval

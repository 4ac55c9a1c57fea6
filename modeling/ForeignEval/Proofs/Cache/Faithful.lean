import ForeignEval.Proofs.Batch.Plan

/-!
# Caches that know a function

A cache is **faithful** to a function on points when each of its entries is a point with its value.
Then it can only serve values of the function, and every operation keeps it faithful as long as
nothing else is inserted: eviction, settings and counters do not matter.

* **Serving** — `Faithful.value_of_peek`: what is served for a point is its value.
* **Invariant** — `Faithful.callCache`: calls that insert values keep a cache faithful.
* **Batches** — `Faithful.rows_assemble`: an output that is put together from faithful caches
  consists of the rows' values.
-/

namespace ForeignEval

open Workspace (CacheCall)

theorem Fifo.mem_insert {fifo : Fifo} {point value : Point} {entry : Point × Point}
    (mem : entry ∈ (fifo.insert point value).entries) :
    entry = (point, value) ∨ entry ∈ fifo.entries := by
  unfold insert at mem
  split at mem
  · rcases fifo.mem_put mem with new | ⟨old, -⟩
    · exact .inl new
    · exact .inr old
  · exact .inr mem

namespace Cache

variable {F : Point → Point} {cache other : Cache}

/-- A well-formed cache whose entries are points with their values. -/
structure Faithful (F : Point → Point) (cache : Cache) : Prop extends WellFormed cache where
  /-- Each entry holds the value of its point. -/
  value_eq : ∀ entry ∈ cache.entries, entry.2 = F entry.1

theorem faithful_new (maxSize : Nat) : (Cache.new maxSize).Faithful F :=
  ⟨wellFormed_new maxSize, fun _ mem => absurd mem List.not_mem_nil⟩

namespace Faithful

variable (faithful : cache.Faithful F)

include faithful

/-- A cache with fewer entries is faithful too. -/
theorem of_entries (sound : other.WellFormed)
    (sub : ∀ entry ∈ other.entries, entry ∈ cache.entries) : other.Faithful F :=
  ⟨sound, fun entry mem => faithful.value_eq entry (sub entry mem)⟩

theorem value_of_peek {point value : Point} (found : cache.peek point = some value) :
    value = F point := by
  have sound := faithful.toWellFormed
  rw [sound.peek_eq] at found
  unfold Fifo.find? at found
  split at found
  · exact faithful.value_eq _ (mem_of_lookup found)
  · cases found

theorem count (point : Point) : (cache.count point).Faithful F := by
  obtain ⟨table, order, -, -⟩ := count_fields cache point
  refine faithful.of_entries (faithful.toWellFormed.count point) fun entry mem => ?_
  rwa [entries_eq_listed, table, order] at mem

theorem countAll (points : List Point) : (cache.countAll points).Faithful F := by
  induction points generalizing cache with
  | nil => exact faithful
  | cons point points ih => exact ih (faithful.count point)

theorem insert {point value : Point} (right : value = F point) :
    (cache.insert point value).Faithful F := by
  have sound := faithful.toWellFormed
  refine ⟨sound.insert point value, fun entry mem => ?_⟩
  have view := sound.view_insert point value
  have mem' : entry ∈ (cache.view.insert point value).entries := view ▸ mem
  rcases Fifo.mem_insert mem' with rfl | old
  · exact right
  · exact faithful.value_eq entry old

theorem insertAll {entries : List (Point × Point)}
    (right : ∀ entry ∈ entries, entry.2 = F entry.1) : (cache.insertAll entries).Faithful F := by
  induction entries generalizing cache with
  | nil => exact faithful
  | cons entry entries ih =>
    obtain ⟨first, others⟩ := List.forall_mem_cons.1 right
    exact ih (faithful.insert first) others

theorem merge (faithful' : other.Faithful F) : (cache.merge other).Faithful F :=
  faithful.insertAll faithful'.value_eq

/-- Calls that insert values only leave a faithful cache. -/
theorem callCache (faithful' : other.Faithful F) {call : CacheCall}
    (right : ∀ point value, call = .insert point value → value = F point) :
    (Workspace.callCache cache other call).2.Faithful F := by
  have sound := faithful.toWellFormed
  cases call with
  | insert point value => exact faithful.insert (right point value rfl)
  | lookup point => exact faithful.count point
  | merge name => exact faithful.merge faithful'
  | clear =>
    exact faithful.of_entries WellFormed.clear fun _ mem => absurd mem List.not_mem_nil
  | setMaxSize size =>
    refine faithful.of_entries (sound.setMaxSize size) fun entry mem => ?_
    have view := sound.view_setMaxSize size
    have mem' : entry ∈ (cache.view.setCapacity size).entries := view ▸ mem
    exact List.mem_of_mem_drop mem'
  | enable | disable =>
    exact faithful.of_entries ⟨⟨sound.nodup, sound.mem_table⟩, sound.length_le⟩ fun _ mem => mem
  | contains | entries | counts | record => exact faithful

end Faithful

/-! ## Batches -/

/-- The cache of values for points is faithful. -/
theorem faithful_ofOutputs (inputs : List Point) :
    (ofOutputs inputs (inputs.map F)).Faithful F := by
  refine (faithful_new inputs.length).insertAll fun entry mem => ?_
  rw [zip_map_self] at mem
  obtain ⟨point, -, rfl⟩ := List.mem_map.1 mem
  rfl

namespace Faithful

variable (faithful : cache.Faithful F) {fresh : Cache} (faithful' : fresh.Faithful F)
  {function : String} {info : FunctionInfo} {batch : Sample}

include faithful faithful'

/-- An output that is put together from faithful caches consists of the rows' values. -/
theorem rows_assemble {current : Cache} {output : Sample}
    (ok : ((Plan.make batch cache).1.assemble function info fresh current).1 = .ok output) :
    output.rows = batch.rows.map F := by
  obtain ⟨-, -, rows, -⟩ := Plan.assemble_ok ok
  rw [Plan.make_eq faithful.toLinked, zip_map_self, List.map_map] at rows
  have values : ∀ row ∈ batch.rows, (cache.peek row).or (fresh.peek row) = some (F row) := by
    intro row mem
    have resolved : (cache.peek row).or (fresh.peek row) ∈ output.rows.map some :=
      rows ▸ List.mem_map.2 ⟨row, mem, rfl⟩
    obtain ⟨value, -, same⟩ := List.mem_map.1 resolved
    rw [← same]
    rcases Option.or_eq_some_iff.1 same.symm with known | ⟨-, computed⟩
    · rw [faithful.value_of_peek known]
    · rw [faithful'.value_of_peek computed]
  have all : output.rows.map some = (batch.rows.map F).map some := by
    rw [rows, List.map_map]
    exact List.map_congr_left values
  exact List.map_injective_iff.2 (fun _ _ => Option.some.inj) all

/-- Whatever comes of putting an output together, the cache stays faithful. -/
theorem assemble (plan : Plan) : (plan.assemble function info fresh cache).2.Faithful F := by
  by_cases complete : ∃ output, (plan.assemble function info fresh cache).1 = .ok output
  · obtain ⟨output, ok⟩ := complete
    obtain ⟨-, -, -, merged⟩ := Plan.assemble_ok ok
    rw [merged]
    exact faithful.merge faithful'
  · rw [Plan.assemble_kept (not_exists.1 complete)]
    exact faithful

end Faithful

end Cache

end ForeignEval

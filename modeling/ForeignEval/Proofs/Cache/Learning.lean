import ForeignEval.Proofs.Batch.Answer
import ForeignEval.Proofs.Cache.Faithful
import Mathlib.Data.List.Dedup
import Mathlib.Data.List.Perm.Subperm

/-!
# Caches that forget nothing

As long as a cache has room for all points that it will be asked for, it only **learns**: what it
served it goes on serving, and new entries are outputs of points that were asked for.

* **Room** — `Cache.HasRoom`: the entries and all points to come fit together. Learning some of them
  leaves room for all (`HasRoom.of_learned`).
* **Learning** — `Cache.Learned` is transitive; `HasRoom.learned_insertAll` and
  `HasRoom.peek_insertAll`: outputs for new points are learned, and served from then on.
* **Outputs** — `Cache.Within`: a cache of outputs for some rows.
* **Batches** — `Plan.recalls_assemble`: an output that was put together is what the cache serves
  afterwards.
-/

namespace ForeignEval

namespace Cache

/-- An enabled cache in which no entry has to leave for outputs of these points. -/
structure HasRoom (points : List Point) (cache : Cache) : Prop extends WellFormed cache where
  /-- Entries are served and recorded. -/
  enabled : cache.enabled = true
  /-- There is room for the entries and these points together. -/
  room : (cache.view.keys ++ points).dedup.length ≤ cache.maxSize

/-- A cache after outputs for some of these points were recorded, and nothing else. -/
structure Learned (points : List Point) (cache later : Cache) : Prop where
  /-- It is well-formed. -/
  wellFormed : later.WellFormed
  /-- Its settings are the same. -/
  settings : later.enabled = cache.enabled ∧ later.maxSize = cache.maxSize
  /-- What was served is served. -/
  kept : ∀ point value, cache.peek point = some value → later.peek point = some value
  /-- Entries that are new are of these points. -/
  new : ∀ point ∈ later.view.keys, point ∈ cache.view.keys ∨ point ∈ points

variable {points others : List Point} {cache middle later : Cache}

/-! ## Learning -/

theorem Learned.trans (first : cache.Learned points middle) (second : middle.Learned points later) :
    cache.Learned points later where
  wellFormed := second.wellFormed
  settings := ⟨second.settings.1.trans first.settings.1, second.settings.2.trans first.settings.2⟩
  kept point value found := second.kept point value (first.kept point value found)
  new point mem := by
    rcases second.new point mem with old | asked
    · exact first.new point old
    · exact .inr asked

theorem peek_countAll (cache : Cache) (asked : List Point) (point : Point) :
    (cache.countAll asked).peek point = cache.peek point := by
  rw [cache.countAll_eq asked]
  split <;> rfl

theorem learned_countAll (sound : cache.WellFormed) (points asked : List Point) :
    cache.Learned points (cache.countAll asked) := by
  have sound' := sound.countAll asked
  have fields := cache.countAll_eq asked
  refine ⟨sound', ?_, fun point value found => ?_, fun point mem => .inl ?_⟩
  · rw [fields]
    split <;> exact ⟨rfl, rfl⟩
  · rwa [cache.peek_countAll]
  · rw [sound'.keys_view, fields] at mem
    rw [sound.keys_view]
    split at mem <;> exact mem

/-- A list has at most as many distinct elements as one that has all its elements. -/
theorem length_dedup_le_of_subset {l l' : List Point} (sub : l ⊆ l') :
    l.dedup.length ≤ l'.dedup.length := by
  have inside : l.dedup ⊆ l'.dedup := fun point mem =>
    List.mem_dedup.2 (sub (List.mem_dedup.1 mem))
  exact ((List.nodup_dedup l).subperm inside).length_le

namespace HasRoom

theorem mono (hasRoom : cache.HasRoom points) (sub : others ⊆ points) : cache.HasRoom others where
  toWellFormed := hasRoom.toWellFormed
  enabled := hasRoom.enabled
  room := by
    have inside : cache.view.keys ++ others ⊆ cache.view.keys ++ points :=
      List.append_subset.2 ⟨List.subset_append_left _ _,
        fun point mem => List.mem_append_right _ (sub mem)⟩
    exact (length_dedup_le_of_subset inside).trans hasRoom.room

/-- A cache that has learned some of the points still has room for all of them. -/
theorem of_learned (hasRoom : cache.HasRoom points) (learned : cache.Learned others later)
    (sub : others ⊆ points) : later.HasRoom points where
  toWellFormed := learned.wellFormed
  enabled := learned.settings.1.trans hasRoom.enabled
  room := by
    have inside : later.view.keys ++ points ⊆ cache.view.keys ++ points := by
      refine List.append_subset.2 ⟨fun point mem => ?_, List.subset_append_right _ _⟩
      rcases learned.new point mem with old | new
      · exact List.mem_append_left _ old
      · exact List.mem_append_right _ (sub new)
    rw [learned.settings.2]
    exact (length_dedup_le_of_subset inside).trans hasRoom.room

/-- A cache with so many entries below its size has room for so many points. -/
theorem of_size (sound : cache.WellFormed) (enabled : cache.enabled = true)
    (room : cache.size + points.dedup.length ≤ cache.maxSize) : cache.HasRoom points where
  toWellFormed := sound
  enabled := enabled
  room := by
    have inside : cache.view.keys ++ points ⊆ cache.view.keys ++ points.dedup :=
      List.append_subset.2 ⟨List.subset_append_left _ _,
        fun point mem => List.mem_append_right _ (List.mem_dedup.2 mem)⟩
    have length : (cache.view.keys ++ points.dedup).length = cache.size + points.dedup.length := by
      rw [List.length_append, sound.keys_view, sound.size_eq]
    calc (cache.view.keys ++ points).dedup.length
        ≤ (cache.view.keys ++ points.dedup).dedup.length := length_dedup_le_of_subset inside
      _ ≤ (cache.view.keys ++ points.dedup).length := (List.dedup_sublist _).length_le
      _ ≤ cache.maxSize := length ▸ room

variable (hasRoom : cache.HasRoom points) {added : List (Point × Point)}
  (distinct : (cache.view.keys ++ added.map (·.1)).Nodup)
  (asked : ∀ entry ∈ added, entry.1 ∈ points)

include hasRoom distinct asked

/-- Entries of new points for which there is room go to the end. -/
theorem view_insertAll :
    (cache.insertAll added).view = { cache.view with entries := cache.entries ++ added } := by
  have inside : cache.view.keys ++ added.map (·.1) ⊆ cache.view.keys ++ points := by
    refine List.append_subset.2 ⟨List.subset_append_left _ _, fun point mem => ?_⟩
    obtain ⟨entry, there, rfl⟩ := List.mem_map.1 mem
    exact List.mem_append_right _ (asked entry there)
  have keys : cache.view.keys.length = cache.entries.length := List.length_map _
  have room : cache.entries.length + added.length ≤ cache.maxSize :=
    calc cache.entries.length + added.length
        = (cache.view.keys ++ added.map (·.1)).dedup.length := by
          rw [distinct.dedup, List.length_append, List.length_map, keys]
      _ ≤ cache.maxSize := (length_dedup_le_of_subset inside).trans hasRoom.room
  exact hasRoom.toWellFormed.view_insertAll_of_room hasRoom.enabled distinct room

/-- Outputs for new points are served besides what was served. -/
theorem peek_insertAll (point : Point) :
    (cache.insertAll added).peek point = (cache.peek point).or (added.lookup point) := by
  have served : cache.view.enabled = true := hasRoom.enabled
  rw [(hasRoom.insertAll added).peek_eq, hasRoom.view_insertAll distinct asked,
    hasRoom.toWellFormed.peek_eq]
  unfold Fifo.find?
  rw [if_pos served, if_pos served, List.lookup_append]
  rfl

/-- Outputs for new points are learned. -/
theorem learned_insertAll : cache.Learned points (cache.insertAll added) := by
  have view := hasRoom.view_insertAll distinct asked
  refine ⟨hasRoom.insertAll added, ⟨congrArg Fifo.enabled view, congrArg Fifo.capacity view⟩,
    fun point value found => ?_, fun point mem => ?_⟩
  · rw [hasRoom.peek_insertAll distinct asked, found]
    rfl
  · rw [view] at mem
    obtain ⟨entry, there, rfl⟩ := List.mem_map.1 mem
    rcases List.mem_append.1 there with old | new
    · exact .inl (List.mem_map_of_mem old)
    · exact .inr (asked entry new)

omit hasRoom distinct asked in
/-- A point that is not served is not among those of the entries. -/
theorem nodup_keys_append {point : Point} (hasRoom : cache.HasRoom points)
    (absent : cache.peek point = none) (value : Point) :
    (cache.view.keys ++ [(point, value)].map (·.1)).Nodup := by
  have new : point ∉ cache.view.keys := by
    intro known
    have served := (hasRoom.toLinked.isSome_peek_iff hasRoom.enabled point).2 known
    rw [absent] at served
    cases served
  refine List.nodup_append.2 ⟨hasRoom.nodup_keys, List.nodup_singleton point, ?_⟩
  rintro other known _ mem rfl
  have same : other = point := List.mem_singleton.1 mem
  exact new (same ▸ known)

omit hasRoom distinct asked in
/-- An output for a point that is not served is learned and served. -/
theorem learned_insert {point : Point} (hasRoom : cache.HasRoom [point])
    (absent : cache.peek point = none) (value : Point) :
    cache.Learned [point] (cache.insert point value) ∧
      (cache.insert point value).peek point = some value := by
  have distinct := hasRoom.nodup_keys_append absent value
  have asked : ∀ entry ∈ [(point, value)], entry.1 ∈ [point] :=
    List.forall_mem_singleton.2 (List.mem_singleton_self point)
  refine ⟨hasRoom.learned_insertAll distinct asked, ?_⟩
  refine (hasRoom.peek_insertAll distinct asked point).trans ?_
  rw [absent, Option.none_or, List.lookup_cons_self]

end HasRoom

/-! ## Outputs -/

/-- An enabled cache that has outputs for some of these rows only. -/
structure Within (rows : List Point) (cache : Cache) : Prop extends WellFormed cache where
  /-- Entries are served and recorded. -/
  enabled : cache.enabled = true
  /-- Its entries are of these rows. -/
  asked : ∀ entry ∈ cache.entries, entry.1 ∈ rows

theorem within_new (rows : List Point) (maxSize : Nat) : (new maxSize).Within rows :=
  ⟨wellFormed_new maxSize, rfl, fun _ mem => absurd mem List.not_mem_nil⟩

namespace Within

variable {rows : List Point} (within : cache.Within rows)

include within

theorem insert {point : Point} (asked : point ∈ rows) (value : Point) :
    (cache.insert point value).Within rows := by
  have view := within.view_insert point value
  refine ⟨within.toWellFormed.insert point value, ?_, fun entry mem => ?_⟩
  · have same : (cache.insert point value).enabled = (cache.view.insert point value).enabled :=
      congrArg Fifo.enabled view
    rw [same]
    unfold Fifo.insert
    split <;> exact within.enabled
  · have mem' : entry ∈ (cache.view.insert point value).entries := view ▸ mem
    rcases Fifo.mem_insert mem' with rfl | old
    · exact asked
    · exact within.asked entry old

theorem insertAll {entries : List (Point × Point)} (asked : ∀ entry ∈ entries, entry.1 ∈ rows) :
    (cache.insertAll entries).Within rows := by
  induction entries generalizing cache with
  | nil => exact within
  | cons entry entries ih =>
    obtain ⟨first, others⟩ := List.forall_mem_cons.1 asked
    exact ih (within.insert first entry.2) others

theorem lookup_entries (point : Point) : cache.entries.lookup point = cache.peek point := by
  rw [within.toWellFormed.lookup_entries]
  unfold peek
  rw [if_pos within.enabled]

omit within in
theorem ofOutputs {inputs : List Point} (sub : inputs ⊆ rows) (outputs : List Point) :
    (Cache.ofOutputs inputs outputs).Within rows := by
  refine (within_new rows inputs.length).insertAll ?_
  rintro ⟨input, output⟩ mem
  exact sub (List.of_mem_zip mem).1

end Within

end Cache

/-! ## Batches -/

/-- What comes of a batch at a cache that has room for it. -/
structure Recalls (info : FunctionInfo) (batch : Sample) (cache later : Cache)
    (reply : Reply Sample) : Prop where
  /-- The cache learns. -/
  learned : cache.Learned batch.rows later
  /-- Only a batch of the declared dimension has an output. -/
  declared : ∀ output, reply = .ok output → batch.dimension = info.inputDimension
  /-- An output has the declared shape and, for each row, what the cache serves for it. -/
  served : ∀ output, reply = .ok output →
    output.dimension = info.outputDimension ∧ output.description = info.description ∧
      output.rows.map some = batch.rows.map later.peek
  /-- There is one if the cache had the right outputs for all rows. -/
  repeated : batch.dimension = info.inputDimension →
    (∀ row ∈ batch.rows, ∃ value : Plan.Output info, cache.peek row = some value.1) →
      ∃ output, reply = .ok output

/-- With outputs for all rows there are no missing ones. -/
theorem Cache.missing_of_known {cache : Cache} (linked : cache.Linked) {batch : Sample}
    (known : ∀ row ∈ batch.rows, (cache.peek row).isSome = true) :
    (cache.missing batch).rows = [] := by
  refine List.eq_nil_iff_forall_not_mem.2 fun row mem => ?_
  obtain ⟨asked, absent⟩ := (cache.mem_missing batch row).1 mem
  have found := known row asked
  rw [linked.peek_eq_lookup, absent] at found
  cases found

/-- A batch that fails has a row that the cache did not know, or is of a wrong dimension. -/
theorem recalls_of_failed {info : FunctionInfo} {batch : Sample} {cache later : Cache}
    {reply : Reply Sample} (learned : cache.Learned batch.rows later)
    (failed : ∀ output, reply ≠ .ok output)
    (unknown : batch.dimension = info.inputDimension →
      ¬∀ row ∈ batch.rows, (cache.peek row).isSome = true) :
    Recalls info batch cache later reply where
  learned := learned
  declared output ok := absurd ok (failed output)
  served output ok := absurd ok (failed output)
  repeated declared known := by
    refine absurd (fun row mem => ?_) (unknown declared)
    obtain ⟨value, found⟩ := known row mem
    rw [found]
    rfl

namespace Plan

variable {function : String} {info : FunctionInfo} {batch : Sample} {cache fresh : Cache}
  (hasRoom : cache.HasRoom batch.rows) (within : fresh.Within (cache.missing batch).rows)

include hasRoom within

/-- What was computed for missing rows can be merged without loss. -/
theorem distinct_merge :
    ((cache.countAll batch.rows).view.keys ++ fresh.entries.map (·.1)).Nodup := by
  have linked := hasRoom.toLinked
  have counted := Cache.learned_countAll hasRoom.toWellFormed [] batch.rows
  refine List.nodup_append.2 ⟨?_, within.nodup_keys, ?_⟩
  · rw [counted.wellFormed.keys_view]
    exact counted.wellFormed.nodup
  · rintro point known other mem rfl
    -- a missing row has no entry
    obtain ⟨entry, there, rfl⟩ := List.mem_map.1 mem
    obtain ⟨-, absent⟩ := (cache.mem_missing batch entry.1).1 (within.asked entry there)
    rcases counted.new _ known with old | none
    · have found := (linked.isSome_peek_iff hasRoom.enabled _).2 old
      rw [linked.peek_eq_lookup, absent] at found
      cases found
    · cases none

/-- An output that is put together is what the cache serves afterwards. -/
theorem recalls_assemble (declared : batch.dimension = info.inputDimension) :
    Recalls info batch cache
      (Plan.assemble ⟨batch, batch.rows.map cache.peek, cache.missing batch⟩ function info fresh
        (cache.countAll batch.rows)).2
      (.ofExcept (Plan.assemble ⟨batch, batch.rows.map cache.peek, cache.missing batch⟩ function
        info fresh (cache.countAll batch.rows)).1) := by
  have counted := Cache.learned_countAll hasRoom.toWellFormed batch.rows batch.rows
  have asked : ∀ entry ∈ fresh.entries, entry.1 ∈ batch.rows := fun entry mem =>
    ((cache.mem_missing batch entry.1).1 (within.asked entry mem)).1
  have hasRoom' : (cache.countAll batch.rows).HasRoom batch.rows :=
    hasRoom.of_learned counted (List.Subset.refl _)
  have distinct := distinct_merge hasRoom within
  constructor
  case learned =>
    by_cases complete : ∃ output, (Plan.assemble ⟨batch, batch.rows.map cache.peek,
        cache.missing batch⟩ function info fresh (cache.countAll batch.rows)).1 = .ok output
    · obtain ⟨output, ok⟩ := complete
      obtain ⟨-, -, -, merged⟩ := assemble_ok ok
      rw [merged]
      exact counted.trans (hasRoom'.learned_insertAll distinct asked)
    · rw [assemble_kept (not_exists.1 complete)]
      exact counted
  case declared => exact fun _ _ => declared
  case served =>
    intro output ok
    obtain ⟨dimension, text, rows, merged⟩ := assemble_ok (Reply.ofExcept_eq_ok_iff.1 ok)
    refine ⟨dimension, text, ?_⟩
    rw [rows, merged, zip_map_self, List.map_map]
    refine List.map_congr_left fun row _ => ?_
    show (cache.peek row).or (fresh.peek row) = ((cache.countAll batch.rows).merge fresh).peek row
    unfold Cache.merge
    rw [hasRoom'.peek_insertAll distinct asked, within.lookup_entries, Cache.peek_countAll]
  case repeated =>
    intro _ known
    have complete := @assemble_ok_iff function info fresh
      ⟨batch, batch.rows.map cache.peek, cache.missing batch⟩ (cache.countAll batch.rows)
    obtain ⟨output, ok⟩ := complete.2 <| by
      rw [zip_map_self, List.forall_mem_map]
      intro row mem
      obtain ⟨value, found⟩ := known row mem
      refine ⟨value, ?_⟩
      show (cache.peek row).or (fresh.peek row) = some value.1
      rw [found, Option.some_or]
    exact ⟨output, Reply.ofExcept_eq_ok_iff.2 ok⟩

end Plan

end ForeignEval

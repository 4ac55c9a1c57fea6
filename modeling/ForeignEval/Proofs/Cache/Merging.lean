import ForeignEval.Proofs.Cache.History
import ForeignEval.Proofs.Cache.Learning

/-!
# Merged caches

A merge inserts the entries of another cache one by one: a point that is there keeps its place and
gets another value, a new point is put at the end and may push the oldest entry out, even one that
the same merge has just overwritten. What is left in the end needs no account of the order of these
events.

* **Step** — `Fifo.mem_put` and `Fifo.keys_put` say what one insertion leaves.
* **Run** — `Fifo.mem_insertAll`: an entry is one of the added ones, or an old one of another point;
  `Fifo.entries_insertAll_of_new`: entries of new points follow the old ones, and the last for which
  there is room stay; `Fifo.entries_insertAll_of_union`: with room for all points, known ones are
  overwritten in place and new ones follow.
* **Concatenation** — `Cache.foldl_merge`: merging caches one after another is inserting their
  entries one after another.
* **Everything** — `Cache.merge_decided_by_entries`.
-/

namespace ForeignEval

open Workspace (Name)

namespace Fifo

variable (fifo : Fifo) {added : List (Point × Point)}

/-- An enabled machine with a capacity takes insertions. -/
def Effective (fifo : Fifo) : Prop := fifo.enabled = true ∧ 0 < fifo.capacity

theorem insert_of_effective (effective : fifo.Effective) (point value : Point) :
    fifo.insert point value = { fifo with entries := fifo.put point value } := if_pos effective

/-- Insertions change the entries only. -/
theorem insertAll_eq (added : List (Point × Point)) :
    fifo.insertAll added = { fifo with entries := (fifo.insertAll added).entries } := by
  induction added generalizing fifo with
  | nil => rfl
  | cons entry added ih =>
    have first : fifo.insert entry.1 entry.2 =
        { fifo with entries := (fifo.insert entry.1 entry.2).entries } := by
      unfold insert
      split <;> rfl
    have rest := ih (fifo.insert entry.1 entry.2)
    rw [first] at rest
    show (fifo.insert entry.1 entry.2).insertAll added =
      { fifo with entries := ((fifo.insert entry.1 entry.2).insertAll added).entries }
    rw [first]
    exact rest

/-! ## Whatever the room -/

/-- **Values**: after insertions there are added entries, and old ones of other points. -/
theorem mem_insertAll (effective : fifo.Effective) {entry : Point × Point}
    (mem : entry ∈ (fifo.insertAll added).entries) :
    entry ∈ added ∨ entry ∈ fifo.entries ∧ entry.1 ∉ added.map (·.1) := by
  induction added generalizing fifo with
  | nil => exact .inr ⟨mem, List.not_mem_nil⟩
  | cons first added ih =>
    have inserted := fifo.insert_of_effective effective first.1 first.2
    have mem' : entry ∈ ((fifo.insert first.1 first.2).insertAll added).entries := mem
    rw [inserted] at mem'
    rcases ih { fifo with entries := fifo.put first.1 first.2 } effective mem' with
      later | ⟨earlier, other⟩
    · exact .inl (List.mem_cons_of_mem _ later)
    · rcases fifo.mem_put earlier with rfl | ⟨old, apart⟩
      · exact .inl List.mem_cons_self
      · refine .inr ⟨old, ?_⟩
        rw [List.map_cons, List.mem_cons]
        exact not_or.2 ⟨apart, other⟩

/-- **New points**: of the old entries followed by the added ones, the last for which there is room
are left. -/
theorem entries_insertAll_of_new (effective : fifo.Effective)
    (bounded : fifo.entries.length ≤ fifo.capacity)
    (distinct : (fifo.keys ++ added.map (·.1)).Nodup) :
    (fifo.insertAll added).entries = (fifo.entries ++ added).rtake fifo.capacity := by
  induction added generalizing fifo with
  | nil =>
    show fifo.entries = (fifo.entries ++ []).rtake fifo.capacity
    rw [List.append_nil, List.rtake, Nat.sub_eq_zero_of_le bounded, List.drop_zero]
  | cons entry added ih =>
    rw [List.map_cons, List.append_cons] at distinct
    have absent : entry.1 ∉ fifo.keys := fun known =>
      (List.nodup_append.1 (List.nodup_append.1 distinct).1).2.2 _ known _
        (List.mem_singleton_self _) rfl
    have put : fifo.put entry.1 entry.2 = fifo.entries.rtake (fifo.capacity - 1) ++ [entry] :=
      if_neg absent
    have room : 0 < fifo.capacity := effective.2
    show ((fifo.insert entry.1 entry.2).insertAll added).entries = _
    rw [fifo.insert_of_effective effective,
      ih { fifo with entries := fifo.put entry.1 entry.2 } effective]
    · -- entries that left for the new one would have left anyway
      show (fifo.put entry.1 entry.2 ++ added).rtake fifo.capacity = _
      rw [put, List.append_assoc]
      exact Cache.rtake_rtake_append _ _ _ (Nat.succ_pos _)
    · show (fifo.put entry.1 entry.2).length ≤ fifo.capacity
      rw [put, List.length_append, List.rtake, List.length_drop, List.length_singleton]
      omega
    · show ((fifo.put entry.1 entry.2).map (·.1) ++ added.map (·.1)).Nodup
      rw [fifo.keys_put, if_neg absent]
      have fewer : (fifo.keys.rtake (fifo.capacity - 1) ++ [entry.1]).Sublist
          (fifo.keys ++ [entry.1]) := (List.drop_sublist _ _).append_right _
      exact distinct.sublist (fewer.append_right _)

/-! ## Room for all points -/

/-- Entries with the values that a table has for their points, and behind them what the table has
for other points. -/
def united (entries added : List (Point × Point)) : List (Point × Point) :=
  entries.map (fun entry => (entry.1, (added.lookup entry.1).getD entry.2)) ++
    added.filter fun entry => !(entries.map (·.1)).contains entry.1

theorem united_eq (entries added : List (Point × Point)) :
    united entries added =
      entries.map (fun entry => (entry.1, (added.lookup entry.1).getD entry.2)) ++
        added.filter (·.1 ∉ entries.map (·.1)) :=
  congrArg (_ ++ ·) (List.filter_congr fun entry _ => by simp)

theorem united_nil (entries : List (Point × Point)) : united entries [] = entries := by
  rw [united, List.filter_nil, List.append_nil]
  exact List.map_id _

section Step

variable {entries : List (Point × Point)} {entry : Point × Point}
  (fresh : entry.1 ∉ added.map (·.1))

include fresh

/-- A value for a known point can be given first, if the rest of the table has none for it. -/
theorem united_cons_of_known (known : entry.1 ∈ entries.map (·.1)) :
    united entries (entry :: added) =
      united (entries.map fun old => if old.1 = entry.1 then (entry.1, entry.2) else old) added := by
  have keys : (entries.map fun old => if old.1 = entry.1 then (entry.1, entry.2) else old).map
      (·.1) = entries.map (·.1) := by
    rw [List.map_map]
    refine List.map_congr_left fun old _ => ?_
    rw [Function.comp_apply]
    split
    · rename_i same
      exact same.symm
    · rfl
  unfold united
  rw [keys, List.filter_cons_of_neg (by simpa using known), List.map_map]
  congr 1
  refine List.map_congr_left fun old _ => ?_
  rw [Function.comp_apply, List.lookup_cons]
  by_cases same : old.1 = entry.1
  · rw [if_pos same, beq_iff_eq.2 same, same, lookup_eq_none_of_not_mem fresh]
    rfl
  · rw [if_neg same, beq_eq_false_iff_ne.2 same]

/-- An entry of a new point can be put at the end first. -/
theorem united_cons_of_new (new : entry.1 ∉ entries.map (·.1)) :
    united entries (entry :: added) = united (entries ++ [entry]) added := by
  have others : (added.filter fun other => !((entries ++ [entry]).map (·.1)).contains other.1) =
      added.filter fun other => !(entries.map (·.1)).contains other.1 := by
    refine List.filter_congr fun other mem => ?_
    have apart : other.1 ≠ entry.1 := by
      intro same
      rw [← same] at fresh
      exact fresh (List.mem_map_of_mem mem)
    rw [List.map_append, List.map_singleton, List.contains_append]
    simp [apart]
  have untouched : ∀ old ∈ entries, (entry :: added).lookup old.1 = added.lookup old.1 := by
    intro old mem
    have apart : old.1 ≠ entry.1 := by
      intro same
      rw [← same] at new
      exact new (List.mem_map_of_mem mem)
    rw [List.lookup_cons, beq_eq_false_iff_ne.2 apart]
  unfold united
  rw [others, List.filter_cons_of_pos (by simpa using new), List.append_cons, List.map_append,
    List.map_singleton, lookup_eq_none_of_not_mem fresh]
  congr 2
  exact List.map_congr_left fun old mem => by rw [untouched old mem]

end Step

/-- **Room**: with room for all points, known ones are overwritten where they are, and new ones
follow in order. -/
theorem entries_insertAll_of_union (enabled : fifo.enabled = true) (distinct : fifo.keys.Nodup)
    (distinct' : (added.map (·.1)).Nodup)
    (room : (fifo.keys ++ added.map (·.1)).dedup.length ≤ fifo.capacity) :
    (fifo.insertAll added).entries = united fifo.entries added := by
  induction added generalizing fifo with
  | nil => exact (united_nil fifo.entries).symm
  | cons entry added ih =>
    obtain ⟨fresh, rest⟩ := List.nodup_cons.1 distinct'
    rw [List.map_cons] at room
    have effective : fifo.Effective := by
      have asked : entry.1 ∈ (fifo.keys ++ entry.1 :: added.map (·.1)).dedup :=
        List.mem_dedup.2 (List.mem_append_right _ List.mem_cons_self)
      exact ⟨enabled, Nat.lt_of_lt_of_le (List.length_pos_of_mem asked) room⟩
    have keys := fifo.keys_put entry.1 entry.2
    show ((fifo.insert entry.1 entry.2).insertAll added).entries = _
    rw [fifo.insert_of_effective effective]
    by_cases known : entry.1 ∈ fifo.keys
    · have put : fifo.put entry.1 entry.2 = fifo.entries.map fun old =>
          if old.1 = entry.1 then (entry.1, entry.2) else old := if_pos known
      rw [if_pos known] at keys
      rw [united_cons_of_known fresh known, ← put]
      refine ih { fifo with entries := fifo.put entry.1 entry.2 } enabled ?_ rest ?_
      · show ((fifo.put entry.1 entry.2).map (·.1)).Nodup
        rw [keys]
        exact distinct
      · show ((fifo.put entry.1 entry.2).map (·.1) ++ added.map (·.1)).dedup.length ≤ fifo.capacity
        have fewer : fifo.keys ++ added.map (·.1) ⊆ fifo.keys ++ entry.1 :: added.map (·.1) :=
          List.append_subset.2 ⟨List.subset_append_left _ _,
            fun _ mem => List.mem_append_right _ (List.mem_cons_of_mem _ mem)⟩
        rw [keys]
        exact (Cache.length_dedup_le_of_subset fewer).trans room
    · have grown : (fifo.keys ++ [entry.1]).Nodup :=
        List.Nodup.append distinct (List.nodup_singleton _) (List.disjoint_singleton.2 known)
      -- the old points and the new one are among all points, so nothing has to leave
      have kept : fifo.entries.length - (fifo.capacity - 1) = 0 := by
        have inside : fifo.keys ++ [entry.1] ⊆ fifo.keys ++ entry.1 :: added.map (·.1) :=
          List.append_subset.2 ⟨List.subset_append_left _ _,
            fun _ mem => List.mem_append_right _ (List.mem_singleton.1 mem ▸ List.mem_cons_self)⟩
        have length := (Cache.length_dedup_le_of_subset inside).trans room
        rw [grown.dedup, List.length_append, List.length_singleton, Fifo.keys,
          List.length_map] at length
        omega
      have put : fifo.put entry.1 entry.2 = fifo.entries ++ [entry] := by
        rw [Fifo.put, if_neg known, List.rtake, kept, List.drop_zero]
      have keys : (fifo.entries ++ [entry]).map (·.1) = fifo.keys ++ [entry.1] := List.map_append
      rw [united_cons_of_new fresh known, ← put]
      refine ih { fifo with entries := fifo.put entry.1 entry.2 } enabled ?_ rest ?_
      · show ((fifo.put entry.1 entry.2).map (·.1)).Nodup
        rw [put, keys]
        exact grown
      · show ((fifo.put entry.1 entry.2).map (·.1) ++ added.map (·.1)).dedup.length ≤ fifo.capacity
        rw [put, keys, ← List.append_cons]
        exact room

end Fifo

/-! ## Merging -/

namespace Cache

theorem insertAll_of_ineffective {cache : Cache} (ineffective : ¬cache.Effective)
    (added : List (Point × Point)) : cache.insertAll added = cache := by
  induction added with
  | nil => rfl
  | cons entry added ih =>
    have refused : ¬(cache.enabled = true ∧ 0 < cache.maxSize) :=
      fun taken => ineffective ⟨taken.1, taken.2⟩
    have same : cache.insert entry.1 entry.2 = cache := if_neg refused
    show (cache.insert entry.1 entry.2).insertAll added = cache
    rw [same, ih]

/-- Merging caches one after another is inserting their entries one after another. -/
theorem foldl_merge (target : Cache) (sources : List Cache) :
    sources.foldl merge target = target.insertAll (sources.flatMap entries) := by
  induction sources generalizing target with
  | nil => rfl
  | cons source sources ih =>
    calc (source :: sources).foldl merge target
        = (target.insertAll source.entries).insertAll (sources.flatMap entries) := ih _
      _ = target.insertAll (source.entries ++ sources.flatMap entries) :=
        List.foldl_append.symm
      _ = target.insertAll ((source :: sources).flatMap entries) := by rw [List.flatMap_cons]

/-- Entries of distinct points fill a new cache that has room for them. -/
theorem entries_filled {added : List (Point × Point)} (distinct : (added.map (·.1)).Nodup)
    {size : Nat} (room : added.length ≤ size) : ((new size).insertAll added).entries = added := by
  have sound := wellFormed_new size
  have fits : (new size).entries.length + added.length ≤ (new size).maxSize :=
    (Nat.zero_add added.length).trans_le room
  exact congrArg Fifo.entries (sound.view_insertAll_of_room rfl distinct fits)

/-- What a merge makes of a cache. -/
structure Merged (target source merged : Cache) : Prop where
  /-- Nothing, if the target is disabled or has no capacity. -/
  refused : target.enabled = false ∨ target.maxSize = 0 → merged = target
  /-- Its settings and counters stay. -/
  settings : merged.maxSize = target.maxSize ∧ merged.enabled = target.enabled ∧
    merged.hits = target.hits ∧ merged.misses = target.misses
  /-- There are no more entries than it may have. -/
  bounded : merged.entries.length ≤ target.maxSize
  /-- Points of the source have the source's values, and all others are old with their old ones. -/
  values : target.Effective → ∀ entry ∈ merged.entries,
    if entry.1 ∈ source.view.keys then entry ∈ source.entries else entry ∈ target.entries
  /-- Without common points, the last entries of both together are left. -/
  apart : target.Effective → target.view.keys.Disjoint source.view.keys →
    merged.entries = (target.entries ++ source.entries).rtake target.maxSize
  /-- With room for all points, those of the target keep their places and those that only the source
  has follow in order. -/
  roomy : target.Effective →
    (target.view.keys ++ source.view.keys).dedup.length ≤ target.maxSize →
    merged.entries =
      target.entries.map (fun entry => (entry.1, (source.entries.lookup entry.1).getD entry.2)) ++
        source.entries.filter (·.1 ∉ target.view.keys)

theorem WellFormed.merged {target source : Cache} (sound : target.WellFormed)
    (sound' : source.WellFormed) : Merged target source (target.merge source) := by
  have view : (target.merge source).view = target.view.insertAll source.entries :=
    sound.view_insertAll source.entries
  have entries : (target.merge source).entries = (target.view.insertAll source.entries).entries :=
    congrArg Fifo.entries view
  rw [target.view.insertAll_eq source.entries] at view
  have size : (target.merge source).maxSize = target.maxSize := congrArg Fifo.capacity view
  have fits : target.view.entries.length ≤ target.view.capacity :=
    sound.length_entries.trans_le sound.length_le
  refine ⟨?refused, ?settings, ?bounded, ?values, ?apart, ?roomy⟩
  case refused =>
    intro off
    refine insertAll_of_ineffective (fun effective => ?_) source.entries
    rcases off with disabled | none
    · rw [effective.enabled] at disabled
      cases disabled
    · exact absurd effective.positive (none ▸ Nat.lt_irrefl 0)
  case settings =>
    exact ⟨size, congrArg Fifo.enabled view, congrArg Fifo.hits view, congrArg Fifo.misses view⟩
  case bounded =>
    have after : (target.merge source).WellFormed := sound.insertAll source.entries
    rw [← size, after.length_entries]
    exact after.length_le
  case values =>
    intro effective entry mem
    rw [entries] at mem
    have taken : target.view.Effective := ⟨effective.enabled, effective.positive⟩
    rcases target.view.mem_insertAll taken mem with added | ⟨old, other⟩
    · rw [if_pos (show entry.1 ∈ source.view.keys from List.mem_map_of_mem added)]
      exact added
    · rw [if_neg (show entry.1 ∉ source.view.keys from other)]
      exact old
  case apart =>
    intro effective disjoint
    have distinct : (target.view.keys ++ source.view.keys).Nodup :=
      List.Nodup.append sound.nodup_keys sound'.nodup_keys disjoint
    rw [entries]
    exact target.view.entries_insertAll_of_new ⟨effective.enabled, effective.positive⟩ fits distinct
  case roomy =>
    intro effective room
    rw [entries, target.view.entries_insertAll_of_union effective.enabled sound.nodup_keys
      sound'.nodup_keys room]
    exact Fifo.united_eq target.entries source.entries

/-- **Merging.** A disabled target and one without capacity stay as they are. Any other ends with at
most as many entries as it may have, those of the source's points with the source's values and all
others as they were; without common points the last entries of both together are left, and with
room for all points the known ones keep their places and the new ones follow. In a workspace nothing
but the target's entries changes. So caches without common points can be merged one after another,
or as one cache that was filled with the entries of all. -/
theorem merge_decided_by_entries :
    (∀ target source : Cache, target.Reachable → source.Reachable →
      Merged target source (target.merge source)) ∧
    (∀ (w : Workspace) (name source : Name) (number other : Nat),
      w.cacheNames.lookup name = some number → w.cacheNames.lookup source = some other →
      number < w.caches.length → other ≠ number →
      (Workspace.onCache name (.merge source) w).2 =
          w.setCache number ((w.cacheAt number).merge (w.cacheAt other)) ∧
        (Workspace.onCache name (.merge source) w).2.cacheAt number =
          (w.cacheAt number).merge (w.cacheAt other) ∧
        ∀ bystander, bystander ≠ number →
          (Workspace.onCache name (.merge source) w).2.cacheAt bystander = w.cacheAt bystander) ∧
    (∀ (target : Cache) (sources : List Cache) (size : Nat),
      (∀ source ∈ sources, source.Reachable) →
      sources.Pairwise (fun source later => source.view.keys.Disjoint later.view.keys) →
      (sources.flatMap entries).length ≤ size →
      ((new size).insertAll (sources.flatMap entries)).entries = sources.flatMap entries ∧
        sources.foldl merge target =
          target.merge ((new size).insertAll (sources.flatMap entries))) := by
  refine ⟨fun target source reached reached' => reached.wellFormed.merged reached'.wellFormed,
    ?shelved, ?joined⟩
  case shelved =>
    intro w name source number other named named' valid apart
    have after : (Workspace.onCache name (.merge source) w).2 =
        w.setCache number ((w.cacheAt number).merge (w.cacheAt other)) := by
      rw [Workspace.onCache_eq, named]
      show (w.callOn number (.merge source)).2 = _
      unfold Workspace.callOn
      rw [show w.sourceNumber number (.merge source) = some other from named']
      rfl
    refine ⟨after, ?_, fun bystander elsewhere => ?_⟩
    · rw [after, w.cacheAt_setCache valid, if_pos rfl]
    · rw [after, w.cacheAt_setCache valid, if_neg elsewhere.symm]
  case joined =>
    intro target sources size reached disjoint room
    have distinct : ((sources.flatMap entries).map (·.1)).Nodup := by
      rw [List.map_flatMap]
      refine List.nodup_flatMap.2 ⟨fun source mem => ?_, disjoint⟩
      exact (reached source mem).wellFormed.nodup_keys
    have filled := entries_filled distinct room
    refine ⟨filled, ?_⟩
    rw [foldl_merge, merge, filled]

/-- A full cache of two points. -/
def older : Cache := (new 2).insertAll [([⟨1⟩], [⟨10⟩]), ([⟨2⟩], [⟨20⟩])]

/-- A cache with another value for one of them and a third point, which serves neither. -/
def newer : Cache := ((new 4).insertAll [([⟨1⟩], [⟨11⟩]), ([⟨3⟩], [⟨30⟩])]).disable

/-- A cache of a point that the others lack. -/
def newest : Cache := (new 1).insertAll [([⟨4⟩], [⟨40⟩])]

/-- A workspace with these caches. -/
def mergers : Workspace :=
  .new ⟨none, .inOrder⟩ none ⟨[]⟩ ⟨fun _ => .ok .other, fun _ => .error (.system 2)⟩
    ⟨fun _ _ => .error "", fun _ => .ok ()⟩ .once
    [("older", older), ("newer", newer), ("newest", newest)]

/-- The law at work: a point is overwritten and then has to leave within the same merge. -/
theorem merge_decided_by_entries_overwritten :
    (Merged older newer (older.merge newer) ∧
      (older.merge newer).entries = [([⟨2⟩], [⟨20⟩]), ([⟨3⟩], [⟨30⟩])]) ∧
    ((Workspace.onCache "older" (.merge "newer") mergers).2.cacheAt 1 = newer ∧
      (Workspace.onCache "older" (.merge "newer") mergers).2.cacheAt 0 = older.merge newer) ∧
    (newer.view.keys.Disjoint newest.view.keys ∧
      [newer, newest].foldl merge older =
        older.merge ((new 3).insertAll ([newer, newest].flatMap entries))) := by
  obtain ⟨merged, shelved, joined⟩ := merge_decided_by_entries
  have reached : newer.Reachable := .call .disable ((Reachable.new 4).insertAll _) (.new 0)
  have reached' : newest.Reachable := (Reachable.new 1).insertAll _
  have disjoint : newer.view.keys.Disjoint newest.view.keys := by
    rw [show newer.view.keys = [[⟨1⟩], [⟨3⟩]] by with_unfolding_all rfl,
      show newest.view.keys = [[⟨4⟩]] by with_unfolding_all rfl]
    exact List.disjoint_singleton.2 (by decide)
  refine ⟨⟨merged older newer ((Reachable.new 2).insertAll _) reached, by with_unfolding_all rfl⟩,
    ?_, disjoint, ?_⟩
  · obtain ⟨-, target, others⟩ :=
      shelved mergers "older" "newer" 0 1 rfl rfl (by decide) (by decide)
    exact ⟨others 1 (by decide), target⟩
  · refine (joined older [newer, newest] 3 ?reached ?disjoint ?room).2
    case reached =>
      exact List.forall_mem_cons.2 ⟨reached, List.forall_mem_singleton.2 reached'⟩
    case disjoint => exact List.pairwise_pair.2 disjoint
    case room => exact (show _ = 3 by with_unfolding_all rfl).le

end Cache

end ForeignEval

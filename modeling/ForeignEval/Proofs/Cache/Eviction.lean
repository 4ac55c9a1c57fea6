import ForeignEval.Proofs.Cache.View
import Mathlib.Computability.StateTransition

/-!
# Eviction loops

A cache makes room by a loop that evicts the oldest entry for as long as there are too many. An
eviction without a queued point changes nothing, so such a loop may well go on forever, and only
what links the queue to the table makes it end. Here loops run for as long as they take, and calls
whose loops never end have no answer.

* **Loops** — `Linked.evictWhile_eq`: in a linked cache a loop ends, where `Cache.evictTo` does.
* **Turns** — `Linked.sheds`: every turn removes the oldest entry and keeps the link.
* **Drift** — `evictWhile_eq_none`: a loop that runs out of queued points goes on forever.
* **Calls** — `WellFormed.callByLoops_eq`: a call on a well-formed cache ends, and is the call that
  counts its turns; `arises_iff`: so both kinds of calls lead to the same caches.
* **Everything** — `queue_never_drifts`.
-/

namespace ForeignEval

open StateTransition (Reaches)
open Workspace (CacheCall Value callCache)

namespace Cache

/-! ## Loops -/

section Loops

variable (tooMany : Nat → Prop) [DecidablePred tooMany]

/-- One turn of a loop that evicts the oldest entry while there are too many. -/
def turn (cache : Cache) : Option Cache :=
  if tooMany cache.size then some cache.evictOldest else none

/-- The loop: it ends when there is no turn left, and has no result if there always is one. -/
def evictWhile (cache : Cache) : Part Cache := StateTransition.eval (turn tooMany) cache

/-- What a loop does that starts with a cache. -/
structure Sheds (cache : Cache) : Prop where
  /-- All the time, the queue lists the points of the table, each once. -/
  linked : ∀ during, Reaches (turn tooMany) cache during → during.Linked
  /-- A turn removes one entry, the oldest, from the table and from the queue. -/
  one : ∀ during next, Reaches (turn tooMany) cache during → turn tooMany during = some next →
    (∃ oldest, during.entries = oldest :: next.entries) ∧ during.size = next.size + 1 ∧
      during.order.length = next.order.length + 1
  /-- The loop ends. -/
  ends : (cache.evictWhile tooMany).Dom

end Loops

/-! ## Calls that loop -/

/-- Inserts an entry; a new point waits for the loop that makes room for it. -/
def insertByLoop (cache : Cache) (point value : Point) : Part Cache :=
  if cache.enabled ∧ 0 < cache.maxSize then
    if cache.table.contains point then
      .some { cache with table := cache.table.insert point value }
    else (cache.evictWhile (cache.maxSize ≤ ·)).map (·.append point value)
  else .some cache

/-- Inserts a list of entries, each with a loop of its own. -/
def insertAllByLoops (cache : Cache) (entries : List (Point × Point)) : Part Cache :=
  entries.foldlM (fun cache entry => cache.insertByLoop entry.1 entry.2) cache

/-- The cache with another size, and all of its entries. -/
def resized (cache : Cache) (maxSize : Nat) : Cache := { cache with maxSize }

/-- Changes how many entries there may be, and then loops over those beyond it. -/
def setMaxSizeByLoop (cache : Cache) (maxSize : Nat) : Part Cache :=
  (cache.resized maxSize).evictWhile (maxSize < ·)

/-- A call whose loops run for as long as they take. -/
def callByLoops (cache other : Cache) : CacheCall → Part (Value × Cache)
  | .insert point value => (cache.insertByLoop point value).map (.unit, ·)
  | .merge _ => (cache.insertAllByLoops other.entries).map (.unit, ·)
  | .setMaxSize size => (cache.setMaxSizeByLoop size).map (.unit, ·)
  | call => .some (callCache cache other call)

/-- The caches that calls with such loops make out of new ones; a merge may read any other such
cache. -/
inductive Arises : Cache → Prop
  | new (maxSize : Nat) : Arises (.new maxSize)
  | call {cache other later : Cache} {call : CacheCall} {value : Value} :
      Arises cache → Arises other → (value, later) ∈ cache.callByLoops other call → Arises later

/-! ## Turns -/

section Turns

variable {tooMany : Nat → Prop} [DecidablePred tooMany] {cache during next : Cache}

theorem turn_eq_some_iff :
    turn tooMany cache = some next ↔ tooMany cache.size ∧ cache.evictOldest = next := by
  unfold turn
  split <;> simp_all

theorem turn_eq_none_iff : turn tooMany cache = none ↔ ¬tooMany cache.size := by
  unfold turn
  split <;> simp_all

/-- The first turns of a loop, as many as are asked for at most. -/
theorem reaches_evictWithin {bound : Nat} (tooMany_iff : ∀ n, tooMany n ↔ bound < n) (steps : Nat)
    (cache : Cache) : Reaches (turn tooMany) cache (evictWithin steps bound cache) := by
  induction steps generalizing cache with
  | zero => exact .refl
  | succ steps ih =>
    unfold evictWithin
    split
    · rename_i full
      have first : turn tooMany cache = some cache.evictOldest :=
        turn_eq_some_iff.2 ⟨(tooMany_iff _).2 full, rfl⟩
      exact (ih cache.evictOldest).head first
    · exact .refl

namespace Linked

variable (linked : cache.Linked)

include linked

/-- A loop keeps the link. -/
theorem of_reaches (reaches : Reaches (turn tooMany) cache during) : during.Linked := by
  induction reaches with
  | refl => exact linked
  | tail _ step ih =>
    obtain ⟨-, rfl⟩ := turn_eq_some_iff.1 step
    exact ih.evictOldest

theorem count_order (point : Point) :
    cache.order.count point = if point ∈ cache.table then 1 else 0 := by
  simp only [linked.mem_table, linked.nodup.count]

/-- The oldest entry is the first of them. -/
theorem exists_oldest (filled : 0 < cache.size) :
    ∃ oldest, cache.entries = oldest :: cache.evictOldest.entries := by
  rw [linked.entries_evictOldest]
  cases entries : cache.entries with
  | nil =>
    have none := linked.length_entries
    rw [entries, ← linked.size_eq, List.length_nil] at none
    omega
  | cons oldest rest => exact ⟨oldest, rfl⟩

theorem size_evictTo (bound : Nat) : (cache.evictTo bound).size = min bound cache.size := by
  rw [(linked.evictTo bound).size_eq, linked.length_order_evictTo, linked.size_eq]

variable {bound : Nat} (tooMany_iff : ∀ n, tooMany n ↔ bound < n)

include tooMany_iff

/-- **Loops**: the loop ends, and where it does nothing is left to evict. -/
theorem evictWhile_eq : cache.evictWhile tooMany = .some (cache.evictTo bound) := by
  have done : turn tooMany (cache.evictTo bound) = none := by
    rw [turn_eq_none_iff, tooMany_iff, linked.size_evictTo]
    omega
  have reached : Reaches (turn tooMany) cache (cache.evictTo bound) :=
    reaches_evictWithin tooMany_iff cache.order.length cache
  exact Part.eq_some_iff.2 (StateTransition.mem_eval.2 ⟨reached, done⟩)

/-- **Turns**: one entry at a time, and the queue follows the table. -/
theorem sheds : cache.Sheds tooMany where
  linked _ reaches := linked.of_reaches reaches
  one during next reaches step := by
    obtain ⟨full, rfl⟩ := turn_eq_some_iff.1 step
    have now := linked.of_reaches reaches
    have filled : 0 < during.size := Nat.zero_lt_of_lt ((tooMany_iff _).1 full)
    have shorter : during.order.length = during.evictOldest.order.length + 1 := by
      rw [now.size_eq] at filled
      rw [order_evictOldest, List.length_tail]
      omega
    refine ⟨now.exists_oldest filled, ?_, shorter⟩
    rw [now.size_eq, now.evictOldest.size_eq, shorter]
  ends := by
    rw [linked.evictWhile_eq tooMany_iff]
    trivial

end Linked

end Turns

/-! ## Drift -/

/-- An eviction takes at most one entry, and one queued point if there is any. -/
theorem size_add_length_evictOldest (cache : Cache) :
    cache.size + cache.evictOldest.order.length ≤ cache.evictOldest.size + cache.order.length := by
  unfold evictOldest
  split
  · rename_i queue
    rw [queue]
  · rename_i oldest order queue
    have left : cache.table.size ≤ (cache.table.erase oldest).size + 1 :=
      Std.TreeMap.size_le_size_erase
    show cache.table.size + order.length ≤ (cache.table.erase oldest).size + cache.order.length
    rw [queue, List.length_cons]
    omega

/-- **Drift**: a loop for which there are too many entries even when all queued points are evicted
goes on forever. -/
theorem evictWhile_eq_none {tooMany : Nat → Prop} [DecidablePred tooMany] {cache : Cache}
    (endless : ∀ n, cache.size ≤ n + cache.order.length → tooMany n) :
    cache.evictWhile tooMany = .none := by
  refine Part.eq_none_iff.2 fun last ended => ?_
  obtain ⟨reaches, done⟩ := StateTransition.mem_eval.1 ended
  have drift : cache.size + last.order.length ≤ last.size + cache.order.length := by
    clear ended done
    induction reaches with
    | refl => exact Nat.le_refl _
    | @tail during next _ step ih =>
      obtain ⟨-, rfl⟩ := turn_eq_some_iff.1 step
      have turned := during.size_add_length_evictOldest
      omega
  exact turn_eq_none_iff.1 done (endless _ (by omega))

/-! ## Calls -/

theorem evictOldest_resized (cache : Cache) (maxSize : Nat) :
    (cache.resized maxSize).evictOldest = cache.evictOldest.resized maxSize := by
  rcases cache with ⟨table, _ | ⟨oldest, order⟩, size, enabled, hits, misses⟩
  · rfl
  · rfl

/-- How many entries there may be plays no part in evictions. -/
theorem evictWithin_resized (steps bound maxSize : Nat) (cache : Cache) :
    evictWithin steps bound (cache.resized maxSize) =
      (evictWithin steps bound cache).resized maxSize := by
  induction steps generalizing cache with
  | zero => rfl
  | succ steps ih =>
    unfold evictWithin
    by_cases full : bound < cache.size
    · rw [if_pos full, if_pos (show bound < (cache.resized maxSize).size from full),
        evictOldest_resized, ih]
    · rw [if_neg full, if_neg (show ¬bound < (cache.resized maxSize).size from full)]

/-- An insertion evicts down to one entry less than there may be. -/
theorem maxSize_le_iff {cache : Cache} (positive : 0 < cache.maxSize) (n : Nat) :
    cache.maxSize ≤ n ↔ cache.maxSize - 1 < n := by
  omega

theorem Linked.resized {cache : Cache} (linked : cache.Linked) (maxSize : Nat) :
    (cache.resized maxSize).Linked := ⟨linked.nodup, linked.mem_table⟩

namespace WellFormed

variable {cache : Cache} (sound : cache.WellFormed)

include sound

theorem insertByLoop_eq (point value : Point) :
    cache.insertByLoop point value = .some (cache.insert point value) := by
  unfold insertByLoop Cache.insert
  split
  · rename_i effective
    split
    · rfl
    · rw [sound.evictWhile_eq (maxSize_le_iff effective.2), Part.map_some]
  · rfl

theorem insertAllByLoops_eq (entries : List (Point × Point)) :
    cache.insertAllByLoops entries = .some (cache.insertAll entries) := by
  induction entries generalizing cache with
  | nil => rfl
  | cons entry entries ih =>
    have first := sound.insertByLoop_eq entry.1 entry.2
    have rest := ih (sound.insert entry.1 entry.2)
    unfold insertAllByLoops at rest ⊢
    rw [List.foldlM_cons, first]
    exact (Part.bind_some _ _).trans rest

theorem setMaxSizeByLoop_eq (maxSize : Nat) :
    cache.setMaxSizeByLoop maxSize = .some (cache.setMaxSize maxSize) := by
  have resized := sound.resized maxSize
  have evicted : (cache.resized maxSize).evictTo maxSize = cache.setMaxSize maxSize :=
    evictWithin_resized cache.order.length maxSize maxSize cache
  unfold setMaxSizeByLoop
  rw [resized.evictWhile_eq fun _ => Iff.rfl, evicted]

/-- **Calls**: a call ends, and is the call that counts its turns. -/
theorem callByLoops_eq (other : Cache) (call : CacheCall) :
    cache.callByLoops other call = .some (Workspace.callCache cache other call) := by
  cases call with
  | insert point value =>
    show (cache.insertByLoop point value).map _ = _
    rw [sound.insertByLoop_eq, Part.map_some]
    rfl
  | merge name =>
    show (cache.insertAllByLoops other.entries).map _ = _
    rw [sound.insertAllByLoops_eq, Part.map_some]
    rfl
  | setMaxSize size =>
    show (cache.setMaxSizeByLoop size).map _ = _
    rw [sound.setMaxSizeByLoop_eq, Part.map_some]
    rfl
  | lookup | contains | clear | enable | disable | entries | counts | record => rfl

end WellFormed

/-- Calls with loops make the same caches as calls that count their turns. -/
theorem arises_iff {cache : Cache} : cache.Arises ↔ cache.Reachable := by
  constructor
  · intro arises
    induction arises with
    | new maxSize => exact .new maxSize
    | @call cache other later call value _ _ answered ih ih' =>
      rw [ih.wellFormed.callByLoops_eq, Part.mem_some_iff] at answered
      have same : later = (callCache cache other call).2 := congrArg Prod.snd answered
      rw [same]
      exact .call call ih ih'
  · intro reachable
    induction reachable with
    | new maxSize => exact .new maxSize
    | @call cache other call reached _ ih ih' =>
      have answered : callCache cache other call ∈ cache.callByLoops other call := by
        rw [reached.wellFormed.callByLoops_eq]
        exact Part.mem_some _
      exact .call ih ih' answered

/-! ## Everything -/

/-- **The queue never drifts from the table.** In a cache that any calls have made, with loops that
run for as long as they take, the queue lists each point of the table once and nothing else, and
there are no more entries than there may be. Therefore the loops of insertions, which are made only
where there may be entries, and of changes of the size end, whatever they are asked for: every turn
removes one entry, the oldest, and the queue stays as long as the table is large. So every further
call ends, and is the one that counts its turns. In itself no loop ends: where too many entries are
left when all queued points are evicted, it goes on forever. -/
theorem queue_never_drifts :
    (∀ cache : Cache, cache.Arises →
      (∀ point, cache.order.count point = if point ∈ cache.table then 1 else 0) ∧
      cache.order.length = cache.size ∧ cache.size ≤ cache.maxSize ∧
      (0 < cache.maxSize → cache.Sheds (cache.maxSize ≤ ·)) ∧
      (∀ maxSize, (cache.resized maxSize).Sheds (maxSize < ·)) ∧
      ∀ (other : Cache) (call : CacheCall),
        cache.callByLoops other call = .some (callCache cache other call)) ∧
    ∀ (tooMany : Nat → Prop) [DecidablePred tooMany] (cache : Cache),
      (∀ n, cache.size ≤ n + cache.order.length → tooMany n) →
      cache.evictWhile tooMany = .none := by
  refine ⟨fun cache arises => ?_, fun tooMany _ cache endless => evictWhile_eq_none endless⟩
  have sound := (arises_iff.1 arises).wellFormed
  refine ⟨sound.count_order, sound.size_eq.symm, ?_, ?_, ?_, sound.callByLoops_eq⟩
  · rw [sound.size_eq]
    exact sound.length_le
  · intro positive
    exact sound.sheds (maxSize_le_iff positive)
  · intro maxSize
    exact (sound.resized maxSize).sheds fun _ => Iff.rfl

/-- A full cache of two points. -/
def filled : Cache := ((new 2).insert [⟨1⟩] [⟨10⟩]).insert [⟨2⟩] [⟨20⟩]

/-- The same cache without its queue. -/
def drifted : Cache := { filled with order := [] }

/-- The law at work: an insertion waits for one turn, a change of the size to nothing for two.
Without the queue, and in a cache that may have no entries, an insertion would wait forever. -/
theorem queue_never_drifts_filled :
    (filled.Arises ∧ 0 < filled.maxSize ∧ filled.Sheds (filled.maxSize ≤ ·)) ∧
    filled.callByLoops filled (.insert [⟨3⟩] [⟨30⟩]) =
      .some (.unit, filled.insert [⟨3⟩] [⟨30⟩]) ∧
    filled.callByLoops filled (.setMaxSize 0) = .some (.unit, filled.setMaxSize 0) ∧
    ((filled.insert [⟨3⟩] [⟨30⟩]).entries = [([⟨2⟩], [⟨20⟩]), ([⟨3⟩], [⟨30⟩])] ∧
      (filled.setMaxSize 0).entries = []) ∧
    drifted.evictWhile (drifted.maxSize ≤ ·) = .none ∧
    (new 0).evictWhile ((new 0).maxSize ≤ ·) = .none := by
  obtain ⟨ends, forever⟩ := queue_never_drifts
  have arises : filled.Arises :=
    arises_iff.2 (.call (.insert [⟨2⟩] [⟨20⟩]) (.call (.insert [⟨1⟩] [⟨10⟩]) (.new 2) (.new 2))
      (.new 2))
  have positive : 0 < filled.maxSize := by with_unfolding_all decide
  obtain ⟨-, -, -, sheds, -, calls⟩ := ends filled arises
  refine ⟨⟨arises, positive, sheds positive⟩, calls _ _, calls _ _, ⟨?_, ?_⟩, ?_, ?_⟩
  · with_unfolding_all rfl
  · with_unfolding_all rfl
  · exact forever _ drifted fun n left => left
  · exact forever _ (new 0) fun n _ => Nat.zero_le n

end Cache

end ForeignEval

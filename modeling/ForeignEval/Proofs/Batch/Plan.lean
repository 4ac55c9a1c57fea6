import ForeignEval.Plan
import ForeignEval.Proofs.Cache.View

/-!
# What a plan holds and makes

A plan splits the rows of a batch into those that the cache serves and the distinct others, its
**missing** rows. The outputs of the missing rows go into a cache of their own, and the output of
the batch is put together from both.

* **Counting** — `Cache.lookupAll_eq`: lookups answer what `peek` does and change counters only.
* **Missing** — `Plan.make_eq`: the unknown rows of a plan are the missing ones.
* **Fresh** — `Cache.entries_ofOutputs`, `Cache.peek_ofOutputs`: the cache of computed outputs has
  each of them, in order.
* **Merging** — `Cache.Awaits`: there is room for the outputs of rows; `Cache.Awaits.view_merge` and
  `Cache.Awaits.merge` for some of them that come in.
* **Assembly** — `Plan.outputsOf_ok_iff`, `Plan.map_outputsOf`: when outputs can be put together,
  and what comes out.
-/

namespace ForeignEval

/-! ## Lookups -/

namespace Cache

/-- The entries that a cache serves. -/
def served (cache : Cache) : List (Point × Point) := if cache.enabled then cache.entries else []

/-- The cache after lookups of points have been counted. -/
def countAll (cache : Cache) (points : List Point) : Cache := points.foldl count cache

theorem peek_count (cache : Cache) (point other : Point) :
    (cache.count point).peek other = cache.peek other := by
  obtain ⟨table, -, -, enabled⟩ := count_fields cache point
  unfold peek
  rw [table, enabled]

theorem lookupAll_eq (cache : Cache) (points : List Point) :
    cache.lookupAll points = (points.map cache.peek, cache.countAll points) := by
  induction points generalizing cache with
  | nil => rfl
  | cons point points ih =>
    have same : points.map (cache.count point).peek = points.map cache.peek :=
      List.map_congr_left fun other _ => peek_count cache point other
    show (cache.peek point :: ((cache.count point).lookupAll points).1,
      ((cache.count point).lookupAll points).2) = _
    rw [ih, same]
    rfl

/-- Lookups change the counters of an enabled cache and nothing else. -/
theorem countAll_eq (cache : Cache) (points : List Point) :
    cache.countAll points =
      if cache.enabled then
        { cache with
          hits := cache.hits + points.countP fun point => (cache.peek point).isSome
          misses := cache.misses + points.countP fun point => (cache.peek point).isNone }
      else cache := by
  induction points generalizing cache with
  | nil =>
    show cache = _
    split <;> rfl
  | cons point points ih =>
    show (cache.count point).countAll points = _
    have same : (cache.count point).peek = cache.peek := funext (peek_count cache point)
    rw [ih, same, List.countP_cons, List.countP_cons]
    by_cases enabled : cache.enabled = true
    · cases found : cache.peek point with
      | none => simp [count, enabled, found]; omega
      | some value => simp [count, enabled, found]; omega
    · simp [count, enabled]

theorem WellFormed.countAll {cache : Cache} (sound : cache.WellFormed) (points : List Point) :
    (cache.countAll points).WellFormed := by
  induction points generalizing cache with
  | nil => exact sound
  | cons point points ih => exact ih (sound.count point)

theorem Linked.peek_eq_lookup {cache : Cache} (linked : cache.Linked) (point : Point) :
    cache.peek point = cache.served.lookup point := by
  unfold peek served
  rw [← linked.lookup_entries]
  split <;> rfl

end Cache

/-! ## Missing rows -/

theorem distinct_filter {α : Type} [DecidableEq α] (p : α → Bool) (l : List α) :
    distinct (l.filter p) = (distinct l).filter p := by
  induction l with
  | nil => rfl
  | cons a l ih =>
    rw [List.filter_cons, distinct, List.filter_cons]
    by_cases keep : p a = true
    · rw [if_pos keep, if_pos keep, distinct, ih, List.filter_filter, List.filter_filter]
      simp only [Bool.and_comm]
    · rw [if_neg keep, if_neg keep, ih, List.filter_filter]
      refine List.filter_congr fun b _ => ?_
      -- what is kept is not `a`
      by_cases kept : p b = true
      · have other : b ≠ a := fun same => keep (same ▸ kept)
        simp [kept, other]
      · simp [kept]

/-- Keeping first appearances is erasing later repetitions. -/
theorem distinct_eq_eraseDups {α : Type} [DecidableEq α] [BEq α] [LawfulBEq α] :
    ∀ l : List α, distinct l = l.eraseDups
  | [] => rfl
  | a :: l => by
    have others : (l.filter fun b => b ≠ a) = l.filter fun b => !b == a :=
      List.filter_congr fun b _ => by
        by_cases same : b = a
        · simp [same]
        · simp [same, beq_eq_false_iff_ne.2 same]
    rw [List.eraseDups_cons, ← distinct_eq_eraseDups (l.filter _), distinct, ← distinct_filter,
      others]
termination_by l => l.length
decreasing_by exact Nat.lt_succ_of_le (List.length_filter_le _ _)

namespace Cache

/-- The rows of a batch that a cache does not serve, each once, in the order of first appearance. -/
def missing (cache : Cache) (batch : Sample) : Sample where
  dimension := batch.dimension
  rows := (batch.rows.filter fun row => (cache.served.lookup row).isNone).eraseDups
  length_of_mem row mem :=
    batch.length_of_mem row (List.mem_of_mem_filter (List.mem_eraseDups.1 mem))

theorem nodup_missing (cache : Cache) (batch : Sample) : (cache.missing batch).rows.Nodup := by
  show (List.eraseDups _).Nodup
  rw [← distinct_eq_eraseDups]
  exact nodup_distinct _

theorem mem_missing (cache : Cache) (batch : Sample) (row : Point) :
    row ∈ (cache.missing batch).rows ↔ row ∈ batch.rows ∧ cache.served.lookup row = none := by
  show row ∈ List.eraseDups _ ↔ _
  rw [List.mem_eraseDups, List.mem_filter, Option.isNone_iff_eq_none]

end Cache

/-- Rows that lookups did not find are the rows for which there is no answer. -/
theorem notFound_map (points : List Point) (f : Point → Option Point) :
    notFound points (points.map f) = points.filter fun point => (f point).isNone := by
  induction points with
  | nil => rfl
  | cons point points ih =>
    unfold notFound at *
    rw [List.map_cons, List.zip_cons_cons, List.filter_cons, List.filter_cons]
    by_cases absent : (f point).isNone = true
    · rw [if_pos absent, if_pos absent, List.map_cons]
      exact congrArg (point :: ·) ih
    · rw [if_neg absent, if_neg absent]
      exact ih

theorem zip_map_self {α β : Type} (l : List α) (f : α → β) :
    l.zip (l.map f) = l.map fun a => (a, f a) :=
  calc l.zip (l.map f)
      = (l.map id).zip (l.map f) := by rw [List.map_id]
    _ = l.map fun a => (a, f a) := List.zip_map'

namespace Plan

theorem make_counts (batch : Sample) (cache : Cache) :
    (make batch cache).2 = cache.countAll batch.rows :=
  congrArg Prod.snd (cache.lookupAll_eq batch.rows)

/-- A plan knows what the cache answers, and its unknown rows are the missing ones. -/
theorem make_eq {cache : Cache} (linked : cache.Linked) (batch : Sample) :
    make batch cache =
      (⟨batch, batch.rows.map cache.peek, cache.missing batch⟩, cache.countAll batch.rows) := by
  have known : (cache.lookupAll batch.rows).1 = batch.rows.map cache.peek :=
    congrArg Prod.fst (cache.lookupAll_eq batch.rows)
  have unknown : distinct (notFound batch.rows (cache.lookupAll batch.rows).1) =
      (cache.missing batch).rows := by
    rw [known, notFound_map, distinct_eq_eraseDups]
    have same : (batch.rows.filter fun row => (cache.peek row).isNone) =
        batch.rows.filter fun row => (cache.served.lookup row).isNone :=
      List.filter_congr fun row _ => by rw [linked.peek_eq_lookup]
    rw [same]
    rfl
  refine Prod.ext ?_ (make_counts batch cache)
  -- the proofs inside two samples need not agree, only their data
  show Plan.mk _ _ _ = Plan.mk _ _ _
  rw [Plan.mk.injEq]
  exact ⟨rfl, known, Sample.ext rfl unknown rfl⟩

theorem nodup_unknown (batch : Sample) (cache : Cache) :
    (make batch cache).1.unknown.rows.Nodup := nodup_distinct _

theorem unknown_subset (batch : Sample) (cache : Cache) :
    (make batch cache).1.unknown.rows ⊆ batch.rows :=
  fun _ mem => mem_of_mem_notFound (mem_distinct.1 mem)

end Plan

/-! ## Fresh outputs -/

theorem lookup_zip {inputs outputs : List Point} (length : outputs.length = inputs.length)
    (point : Point) : (inputs.zip outputs).lookup point = outputs[inputs.idxOf point]? := by
  induction inputs generalizing outputs with
  | nil =>
    rw [List.eq_nil_of_length_eq_zero length]
    rfl
  | cons input inputs ih =>
    cases outputs with
    | nil => cases length
    | cons output outputs =>
      have rest := ih (Nat.succ.inj length)
      rw [List.zip_cons_cons, List.lookup_cons, List.idxOf_cons]
      by_cases same : point = input
      · subst same
        simp
      · rw [beq_eq_false_iff_ne.2 same, beq_eq_false_iff_ne.2 (Ne.symm same)]
        exact rest

namespace Cache

/-- Entries of new points for which there is room go to the end. -/
theorem WellFormed.view_insertAll_of_room {cache : Cache} (sound : cache.WellFormed)
    (enabled : cache.enabled = true) {added : List (Point × Point)}
    (distinct : (cache.entries.map (·.1) ++ added.map (·.1)).Nodup)
    (room : cache.entries.length + added.length ≤ cache.maxSize) :
    (cache.insertAll added).view = { cache.view with entries := cache.entries ++ added } := by
  rw [sound.view_insertAll]
  exact Fifo.insertAll_of_room enabled distinct room

variable {inputs : List Point} (distinct : inputs.Nodup) (outputs : List Point)

theorem wellFormed_ofOutputs (inputs outputs : List Point) :
    (ofOutputs inputs outputs).WellFormed :=
  (wellFormed_new _).insertAll _

include distinct in
theorem nodup_keys_zip : ((inputs.zip outputs).map (·.1)).Nodup := by
  induction inputs generalizing outputs with
  | nil => exact List.nodup_nil
  | cons input inputs ih =>
    cases outputs with
    | nil => exact List.nodup_nil
    | cons output outputs =>
      rw [List.nodup_cons] at distinct
      rw [List.zip_cons_cons, List.map_cons, List.nodup_cons]
      refine ⟨fun again => ?_, ih distinct.2 outputs⟩
      obtain ⟨⟨point, value⟩, mem, rfl⟩ := List.mem_map.1 again
      exact distinct.1 (List.of_mem_zip mem).1

include distinct in
theorem view_ofOutputs :
    (ofOutputs inputs outputs).view =
      { Fifo.new inputs.length with entries := inputs.zip outputs } := by
  have room : 0 + (inputs.zip outputs).length ≤ inputs.length := by
    rw [List.length_zip]
    omega
  exact (wellFormed_new inputs.length).view_insertAll_of_room rfl
    (nodup_keys_zip distinct outputs) room

include distinct in
/-- The cache of computed outputs lists them in order. -/
theorem entries_ofOutputs : (ofOutputs inputs outputs).entries = inputs.zip outputs :=
  congrArg Fifo.entries (view_ofOutputs distinct outputs)

/-- A cache has room for the outputs of distinct rows, of which it has none yet. -/
structure Awaits (cache : Cache) (rows : List Point) : Prop where
  sound : cache.WellFormed
  enabled : cache.enabled = true
  distinct : (cache.view.keys ++ rows).Nodup
  room : cache.view.keys.length + rows.length ≤ cache.maxSize

theorem awaits_new {rows : List Point} (distinct : rows.Nodup) :
    (new rows.length).Awaits rows where
  sound := wellFormed_new rows.length
  enabled := rfl
  distinct := distinct
  room := Nat.le_of_eq (Nat.zero_add rows.length)

namespace Awaits

variable {cache : Cache} {rest : List Point} {outputs : List Point}
  (awaits : cache.Awaits (inputs ++ rest)) (length : outputs.length = inputs.length)

include awaits length

/-- Outputs of rows that are awaited go to the end of the cache. -/
theorem view_merge :
    (cache.merge (ofOutputs inputs outputs)).view =
      { cache.view with entries := cache.entries ++ inputs.zip outputs } := by
  have distinct := awaits.distinct
  have room := awaits.room
  rw [← List.append_assoc, List.nodup_append] at distinct
  rw [List.length_append] at room
  have keys : (inputs.zip outputs).map (·.1) = inputs := List.map_fst_zip length.ge
  have size : (inputs.zip outputs).length = inputs.length := by
    rw [List.length_zip, length, Nat.min_self]
  have entries : cache.view.keys.length = cache.entries.length := List.length_map _
  unfold merge
  rw [entries_ofOutputs (List.nodup_append.1 distinct.1).2.1]
  refine awaits.sound.view_insertAll_of_room awaits.enabled ?_ (by omega)
  rw [keys]
  exact distinct.1

theorem keys_merge :
    (cache.merge (ofOutputs inputs outputs)).view.keys = cache.view.keys ++ inputs := by
  rw [awaits.view_merge length]
  show (cache.entries ++ inputs.zip outputs).map (·.1) = _
  rw [List.map_append, List.map_fst_zip length.ge]
  rfl

/-- The other rows are still awaited. -/
theorem merge : (cache.merge (ofOutputs inputs outputs)).Awaits rest where
  sound := awaits.sound.insertAll _
  enabled := (congrArg Fifo.enabled (awaits.view_merge length)).trans awaits.enabled
  distinct := by
    rw [awaits.keys_merge length, List.append_assoc]
    exact awaits.distinct
  room := by
    have capacity : (cache.merge (ofOutputs inputs outputs)).maxSize = cache.maxSize :=
      congrArg Fifo.capacity (awaits.view_merge length)
    have room := awaits.room
    rw [List.length_append] at room
    rw [awaits.keys_merge length, capacity, List.length_append]
    omega

end Awaits

include distinct in
/-- The cache of computed outputs serves the output at a point's place. -/
theorem peek_ofOutputs {outputs : List Point} (length : outputs.length = inputs.length)
    (point : Point) : (ofOutputs inputs outputs).peek point = outputs[inputs.idxOf point]? := by
  rw [(wellFormed_ofOutputs inputs outputs).peek_eq, view_ofOutputs distinct, ← lookup_zip length]
  rfl

end Cache

/-! ## Assembly -/

namespace Plan

variable {function : String} {info : FunctionInfo} {fresh : Cache}

theorem outputOf_ok_iff {index : Nat} {row : Point} {found : Option Point} {value : Output info} :
    outputOf function info fresh index row found = .ok value ↔
      found.or (fresh.peek row) = some value.1 := by
  unfold outputOf
  cases resolved : found.or (fresh.peek row) with
  | none => simp
  | some point =>
    by_cases right : point.length = info.outputDimension
    · simp only [dif_pos right, Except.ok.injEq, Option.some.injEq]
      exact Subtype.ext_iff
    · simp only [dif_neg right, Option.some.injEq, reduceCtorEq, false_iff]
      rintro rfl
      exact right value.2

theorem outputsOf_cons (index : Nat) (pair : Point × Option Point)
    (pairs : List (Point × Option Point)) :
    outputsOf function info fresh index (pair :: pairs) = (do
      let value ← outputOf function info fresh index pair.1 pair.2
      let others ← outputsOf function info fresh (index + 1) pairs
      return value :: others) := rfl

/-- Outputs come out as they were found or computed. -/
theorem map_outputsOf {index : Nat} {pairs : List (Point × Option Point)}
    {values : List (Output info)}
    (ok : outputsOf function info fresh index pairs = .ok values) :
    values.map (fun value => some value.1) =
      pairs.map fun pair => pair.2.or (fresh.peek pair.1) := by
  induction pairs generalizing index values with
  | nil =>
    cases ok
    rfl
  | cons pair pairs ih =>
    rw [outputsOf_cons] at ok
    cases first : outputOf function info fresh index pair.1 pair.2 with
    | error e =>
      rw [first] at ok
      cases ok
    | ok value =>
      cases rest : outputsOf function info fresh (index + 1) pairs with
      | error e =>
        rw [first, rest] at ok
        cases ok
      | ok others =>
        rw [first, rest] at ok
        cases ok
        rw [List.map_cons, List.map_cons, ih rest, outputOf_ok_iff.1 first]

/-- Outputs can be put together exactly when each is there and has the right length. -/
theorem outputsOf_ok_iff {index : Nat} {pairs : List (Point × Option Point)} :
    (∃ values, outputsOf function info fresh index pairs = .ok values) ↔
      ∀ pair ∈ pairs, ∃ value : Output info, pair.2.or (fresh.peek pair.1) = some value.1 := by
  induction pairs generalizing index with
  | nil => exact ⟨fun _ _ mem => absurd mem List.not_mem_nil, fun _ => ⟨[], rfl⟩⟩
  | cons pair pairs ih =>
    have rest := @ih (index + 1)
    rw [List.forall_mem_cons, ← rest, outputsOf_cons]
    constructor
    · rintro ⟨values, ok⟩
      -- neither the first output nor the others can have failed
      cases first : outputOf function info fresh index pair.1 pair.2 with
      | error e =>
        rw [first] at ok
        cases ok
      | ok value =>
        refine ⟨⟨value, outputOf_ok_iff.1 first⟩, ?_⟩
        cases later : outputsOf function info fresh (index + 1) pairs with
        | error e =>
          rw [first, later] at ok
          cases ok
        | ok others => exact ⟨others, rfl⟩
    · rintro ⟨⟨value, found⟩, others, later⟩
      rw [outputOf_ok_iff.2 found, later]
      exact ⟨value :: others, rfl⟩

/-- The first output that cannot be put together decides about the error. -/
theorem outputsOf_eq_error {index : Nat} {before after : List (Point × Option Point)}
    {pair : Point × Option Point} {e : Error}
    (fine : ∀ pair ∈ before, ∃ value : Output info,
      pair.2.or (fresh.peek pair.1) = some value.1)
    (bad : outputOf function info fresh (index + before.length) pair.1 pair.2 = .error e) :
    outputsOf function info fresh index (before ++ pair :: after) = .error e := by
  induction before generalizing index with
  | nil =>
    rw [List.length_nil, Nat.add_zero] at bad
    rw [List.nil_append, outputsOf_cons, bad]
    rfl
  | cons first before ih =>
    obtain ⟨⟨value, found⟩, others⟩ := List.forall_mem_cons.1 fine
    rw [List.length_cons, Nat.add_comm before.length, ← Nat.add_assoc] at bad
    rw [List.cons_append, outputsOf_cons, outputOf_ok_iff.2 found, ih others bad]
    rfl

variable {plan : Plan} {cache : Cache}

/-- A complete output consists of what was found or computed, and what was computed is merged. -/
theorem assemble_ok {output : Sample}
    (ok : (plan.assemble function info fresh cache).1 = .ok output) :
    output.dimension = info.outputDimension ∧ output.description = info.description ∧
      output.rows.map some =
        (plan.batch.rows.zip plan.known).map (fun pair => pair.2.or (fresh.peek pair.1)) ∧
      (plan.assemble function info fresh cache).2 = cache.merge fresh := by
  unfold assemble at ok ⊢
  cases outputs : outputsOf function info fresh 0 (plan.batch.rows.zip plan.known) with
  | error e =>
    rw [outputs] at ok
    cases ok
  | ok values =>
    rw [outputs] at ok
    cases ok
    refine ⟨rfl, rfl, ?_, rfl⟩
    rw [← map_outputsOf outputs, List.map_map]
    rfl

theorem assemble_ok_iff :
    (∃ output, (plan.assemble function info fresh cache).1 = .ok output) ↔
      ∀ pair ∈ plan.batch.rows.zip plan.known,
        ∃ value : Output info, pair.2.or (fresh.peek pair.1) = some value.1 := by
  have complete := @outputsOf_ok_iff function info fresh 0 (plan.batch.rows.zip plan.known)
  rw [← complete]
  unfold assemble
  cases outputsOf function info fresh 0 (plan.batch.rows.zip plan.known) with
  | error e => exact ⟨fun ⟨_, ok⟩ => (nomatch ok), fun ⟨_, ok⟩ => (nomatch ok)⟩
  | ok values => exact ⟨fun _ => ⟨values, rfl⟩, fun _ => ⟨_, rfl⟩⟩

theorem assemble_of_error {e : Error}
    (bad : outputsOf function info fresh 0 (plan.batch.rows.zip plan.known) = .error e) :
    plan.assemble function info fresh cache = (.error e, cache) := by
  unfold assemble
  rw [bad]

theorem assemble_kept
    (none : ∀ output, (plan.assemble function info fresh cache).1 ≠ .ok output) :
    (plan.assemble function info fresh cache).2 = cache := by
  cases outputs : outputsOf function info fresh 0 (plan.batch.rows.zip plan.known) with
  | error e => rw [assemble_of_error outputs]
  | ok values =>
    unfold assemble at none
    rw [outputs] at none
    exact absurd rfl (none _)

/-- Whether or not an output comes of it, assembling does nothing to a cache but inserting. -/
theorem assemble_inserts :
    ∃ added, (plan.assemble function info fresh cache).2 = cache.insertAll added := by
  unfold assemble
  split
  · exact ⟨[], rfl⟩
  · exact ⟨fresh.entries, rfl⟩

/-- Of the cache of computed outputs, what it shows is all that matters. -/
theorem assemble_congr {fresh other : Cache} (sound : fresh.WellFormed) (sound' : other.WellFormed)
    (same : fresh.view = other.view) :
    plan.assemble function info fresh cache = plan.assemble function info other cache := by
  have peek : fresh.peek = other.peek := by
    funext point
    rw [sound.peek_eq, sound'.peek_eq, same]
  have entries : fresh.entries = other.entries := congrArg Fifo.entries same
  have output : outputOf function info fresh = outputOf function info other := by
    unfold outputOf
    rw [peek]
  have outputs : ∀ index pairs,
      outputsOf function info fresh index pairs = outputsOf function info other index pairs := by
    intro index pairs
    induction pairs generalizing index with
    | nil => rfl
    | cons pair pairs ih => rw [outputsOf_cons, outputsOf_cons, output, ih]
  unfold assemble Cache.merge
  rw [outputs, entries]

end Plan

end ForeignEval

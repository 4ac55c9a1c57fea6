import ForeignEval.Proofs.Batch.Answer
import ForeignEval.Proofs.Cache.Learning
import ForeignEval.Proofs.Session.Evaluating

/-!
# A batch is the fold of its points

A batch is planned against the cache as it is at the start, its missing rows are evaluated in one
call, and what was computed is recorded at the end. Points that are evaluated one after the other
each see what the ones before have recorded. With room for all of them it makes no difference: a row
that comes again is answered by the cache in one case and left out of the plan in the other.

* **Rows** — `Cache.lacking` are the rows that have to be evaluated, and `Cache.valueOf` is what a
  row comes to. Recording a row takes it off the list (`Cache.Records.lacking_cons`).
* **Points** — `Evaluator.evaluateEach` evaluates points one by one;
  `Evaluator.filled_evaluateEach`.
* **Batches** — `Evaluator.filled_evaluateBatch`.
* **Result** — `batch_is_fold`.
-/

namespace ForeignEval

open Foreign (Trace)

/-! ## Rows -/

namespace Cache

variable {cache : Cache}

/-- The points of a list that a cache does not serve, each once, in the order of first
appearance. -/
def lacking (cache : Cache) (points : List Point) : List Point :=
  distinct (points.filter fun point => (cache.peek point).isNone)

/-- What a point comes to: what the cache serves, or else the value. -/
def valueOf (cache : Cache) (f : Point → Point) (point : Point) : Point :=
  (cache.peek point).getD (f point)

theorem rows_missing (linked : cache.Linked) (batch : Sample) :
    (cache.missing batch).rows = cache.lacking batch.rows := by
  have same : (batch.rows.filter fun row => (cache.served.lookup row).isNone) =
      batch.rows.filter fun row => (cache.peek row).isNone :=
    List.filter_congr fun row _ => by rw [linked.peek_eq_lookup]
  show (batch.rows.filter fun row => (cache.served.lookup row).isNone).eraseDups = _
  rw [← distinct_eq_eraseDups, same]
  rfl

theorem mem_lacking {points : List Point} {point : Point} :
    point ∈ cache.lacking points ↔ point ∈ points ∧ cache.peek point = none := by
  unfold lacking
  rw [mem_distinct, List.mem_filter, Option.isNone_iff_eq_none]

theorem lacking_congr {other : Cache} (same : cache.peek = other.peek) (points : List Point) :
    cache.lacking points = other.lacking points := by
  unfold lacking
  rw [same]

theorem lacking_cons_of_known {point value : Point} (known : cache.peek point = some value)
    (points : List Point) : cache.lacking (point :: points) = cache.lacking points := by
  unfold lacking
  rw [List.filter_cons_of_neg]
  rw [known]
  exact Bool.false_ne_true

/-- What a cache serves after a value was recorded for a point that it did not serve. -/
def Records (cache : Cache) (point value : Point) (later : Cache) : Prop :=
  ∀ other, later.peek other = if other = point then some value else cache.peek other

namespace Records

variable {later : Cache} {point : Point} {f : Point → Point}

/-- Once a point is served, it is no longer lacking. -/
theorem lacking_cons {value : Point} (records : cache.Records point value later)
    (absent : cache.peek point = none) (points : List Point) :
    cache.lacking (point :: points) = point :: later.lacking points := by
  have others (other : Point) : (later.peek other).isNone =
      (decide (other ≠ point) && (cache.peek other).isNone) := by
    rw [records]
    by_cases same : other = point
    · simp [same]
    · simp [same]
  unfold lacking
  rw [List.filter_cons_of_pos (by rw [absent]; rfl), distinct, ← distinct_filter,
    List.filter_filter]
  simp only [others]

/-- If what is recorded is the value of the point, nothing comes to anything else. -/
theorem valueOf (records : cache.Records point (f point) later) (absent : cache.peek point = none) :
    later.valueOf f = cache.valueOf f := by
  funext other
  unfold Cache.valueOf
  rw [records]
  split
  · rename_i same
    rw [same, absent]
    rfl
  · rfl

end Records

theorem entries_count (cache : Cache) (point : Point) :
    (cache.count point).entries = cache.entries := by
  obtain ⟨table, order, -, -⟩ := cache.count_fields point
  unfold entries
  rw [table, order]

/-- A value that is recorded after a lookup found nothing becomes the youngest entry. -/
theorem HasRoom.count_insert {points : List Point} {point : Point} (hasRoom : cache.HasRoom points)
    (asked : point ∈ points) (absent : cache.peek point = none) (value : Point) :
    ((cache.count point).insert point value).HasRoom points ∧
      cache.Records point value ((cache.count point).insert point value) ∧
      ((cache.count point).insert point value).entries = cache.entries ++ [(point, value)] := by
  have counted := hasRoom.of_learned (learned_countAll hasRoom.toWellFormed [] [point])
    (List.nil_subset _)
  have counted : (cache.count point).HasRoom points := counted
  have absent' : (cache.count point).peek point = none :=
    (cache.peek_count point point).trans absent
  have distinct := counted.nodup_keys_append absent' value
  have asked' : ∀ entry ∈ [(point, value)], entry.1 ∈ points := List.forall_mem_singleton.2 asked
  refine ⟨counted.of_learned (counted.learned_insertAll distinct asked') (List.Subset.refl _),
    fun other => ?_, ?_⟩
  · refine (counted.peek_insertAll distinct asked' other).trans ?_
    rw [cache.peek_count]
    split
    · rename_i same
      rw [same, absent, Option.none_or, List.lookup_cons_self]
    · rename_i other'
      rw [List.lookup_cons, beq_eq_false_iff_ne.2 other']
      exact Option.or_none
  · have view := congrArg Fifo.entries (counted.view_insertAll distinct asked')
    rw [← cache.entries_count point]
    exact view

/-- The values of lacking points become the youngest entries after they were looked up. -/
theorem HasRoom.entries_insertAll_lacking {points : List Point}
    (hasRoom : cache.HasRoom (cache.lacking points)) (asked : List Point) (f : Point → Point) :
    ((cache.countAll asked).insertAll ((cache.lacking points).map fun point =>
      (point, f point))).entries =
        cache.entries ++ (cache.lacking points).map fun point => (point, f point) := by
  have learned := learned_countAll hasRoom.toWellFormed (cache.lacking points) asked
  have counted : (cache.countAll asked).HasRoom (cache.lacking points) :=
    hasRoom.of_learned learned (List.Subset.refl _)
  have keys : ((cache.lacking points).map fun point => (point, f point)).map (·.1) =
      cache.lacking points := by
    rw [List.map_map]
    exact List.map_id _
  have distinct : ((cache.countAll asked).view.keys ++
      ((cache.lacking points).map fun point => (point, f point)).map (·.1)).Nodup := by
    rw [keys]
    refine List.nodup_append.2 ⟨counted.nodup_keys, nodup_distinct _, ?_⟩
    -- what has an entry is served, and what is lacking is not
    rintro point known _ lacks rfl
    have served := (counted.toLinked.isSome_peek_iff counted.enabled point).2 known
    rw [peek_countAll, (mem_lacking.1 lacks).2] at served
    cases served
  have view := congrArg Fifo.entries (counted.view_insertAll distinct (List.forall_mem_map.2
    fun _ lacks => lacks))
  have same : (cache.countAll asked).entries = cache.entries := by
    rw [countAll_eq]
    split <;> rfl
  rw [same] at view
  exact view

end Cache

/-! ## Points -/

namespace Evaluator

/-- Evaluates points one after the other. -/
def evaluateEach : List Point → Evaluator → Trace → List (Reply Point) × Evaluator × Trace
  | [], evaluator, trace => ([], evaluator, trace)
  | point :: points, evaluator, trace =>
    let (reply, evaluator, trace) := evaluator.evaluate point trace
    let (replies, evaluator, trace) := evaluateEach points evaluator trace
    (reply :: replies, evaluator, trace)

/-- An evaluator after some points were evaluated: those which its cache lacked were handed over,
and their values are the youngest entries. -/
structure Filled (f : Point → Point) (points : List Point) (evaluator later : Evaluator) :
    Prop where
  entries : later.cache.entries = evaluator.cache.entries ++
    (evaluator.cache.lacking points).map fun point => (point, f point)
  phase : later.session.phase =
    if evaluator.cache.lacking points = [] then evaluator.session.phase else .ready
  calls : later.calls = evaluator.calls + (evaluator.cache.lacking points).length

variable {binding : Binding} {info : FunctionInfo} {f : Point → Point} {rows points : List Point}
  {evaluator : Evaluator} {trace : Trace}

/-- A point that the cache serves is answered from there. -/
theorem evaluate_of_known {point value : Point}
    (right : point.length = evaluator.session.info.inputDimension)
    (known : evaluator.cache.peek point = some value) :
    evaluator.evaluate point trace =
      (.ok value, { evaluator with cache := evaluator.cache.count point }, trace) := by
  unfold evaluate Session.checkPoint Cache.lookup
  rw [if_pos right, known]

/-- A point that the cache does not serve is evaluated by the session, and recorded. -/
theorem evaluate_of_absent {point value : Point} {session : Session} {later : Trace}
    (right : point.length = evaluator.session.info.inputDimension)
    (absent : evaluator.cache.peek point = none)
    (evaluated : evaluator.session.evaluate point trace = (.ok value, session, later)) :
    evaluator.evaluate point trace =
      (.ok value, ⟨session, (evaluator.cache.count point).insert point value⟩, later) := by
  unfold evaluate Session.checkPoint Cache.lookup
  rw [if_pos right, absent]
  dsimp only
  rw [evaluated]

theorem Filled.of_known {later : Evaluator} {point value : Point}
    (known : evaluator.cache.peek point = some value)
    (filled : Filled f points { evaluator with cache := evaluator.cache.count point } later) :
    Filled f (point :: points) evaluator later := by
  obtain ⟨entries, phase, calls⟩ := filled
  have fewer : (evaluator.cache.count point).lacking points =
      evaluator.cache.lacking (point :: points) := by
    rw [Cache.lacking_cons_of_known known]
    exact Cache.lacking_congr (funext (evaluator.cache.peek_count point)) points
  dsimp only at entries phase calls
  rw [evaluator.cache.entries_count, fewer] at entries
  rw [fewer] at phase calls
  exact ⟨entries, phase, calls⟩

theorem Filled.of_absent {later : Evaluator} {cache : Cache} {point : Point}
    (absent : evaluator.cache.peek point = none)
    (records : evaluator.cache.Records point (f point) cache)
    (recorded : cache.entries = evaluator.cache.entries ++ [(point, f point)])
    (filled : Filled f points ⟨evaluator.session.counted 1, cache⟩ later) :
    Filled f (point :: points) evaluator later := by
  obtain ⟨entries, phase, calls⟩ := filled
  dsimp only at entries phase calls
  have more := records.lacking_cons absent points
  constructor
  · rw [entries, recorded, more, List.append_assoc]
    rfl
  · rw [phase, more]
    exact ite_self _
  · rw [calls, more, List.length_cons]
    show evaluator.session.evaluations + 1 + _ = evaluator.session.evaluations + _
    omega

/-- Points that are evaluated one by one come to their values, and the lacking ones are filled
in. -/
theorem filled_evaluateEach (answers : binding.table.AnswersRows info f rows)
    (healthy : evaluator.session.Healthy binding info)
    (held : binding.table.At trace evaluator.session.state.number
      (evaluator.session.phase.stage info))
    (right : ∀ point ∈ points, point.length = info.inputDimension)
    (hasRoom : evaluator.cache.HasRoom (evaluator.cache.lacking points))
    (sub : evaluator.cache.lacking points ⊆ rows) :
    (evaluateEach points evaluator trace).1 =
        points.map (fun point => .ok (evaluator.cache.valueOf f point)) ∧
      Filled f points evaluator (evaluateEach points evaluator trace).2.1 := by
  induction points generalizing evaluator trace with
  | nil => exact ⟨rfl, (List.append_nil _).symm, rfl, rfl⟩
  | cons point points ih =>
    obtain ⟨first, others⟩ := List.forall_mem_cons.1 right
    have declared : point.length = evaluator.session.info.inputDimension :=
      healthy.info_eq ▸ first
    unfold evaluateEach
    cases known : evaluator.cache.peek point with
    | some value =>
      -- only counters change, so the same points are lacking afterwards
      have counted : (evaluator.cache.count point).peek = evaluator.cache.peek :=
        funext (evaluator.cache.peek_count point)
      have fewer := Cache.lacking_congr counted points
      have learned := Cache.learned_countAll hasRoom.toWellFormed [] [point]
      rw [Cache.lacking_cons_of_known known, ← fewer] at hasRoom sub
      obtain ⟨replies, filled⟩ :=
        @ih ⟨evaluator.session, evaluator.cache.count point⟩ trace healthy held others
          (hasRoom.of_learned learned (List.nil_subset _)) sub
      rw [evaluate_of_known declared known]
      refine ⟨?_, filled.of_known known⟩
      dsimp only
      rw [replies, List.map_cons]
      unfold Cache.valueOf
      dsimp only
      rw [counted, known]
      rfl
    | none =>
      have lacks : point ∈ evaluator.cache.lacking (point :: points) :=
        Cache.mem_lacking.2 ⟨List.mem_cons_self, known⟩
      obtain ⟨later, evaluated, ready⟩ := healthy.evaluate_of_at held answers first (sub lacks)
      obtain ⟨hasRoom', records, recorded⟩ := hasRoom.count_insert lacks known (f point)
      -- the point heads the list of those that are lacking, and is off it for the ones to come
      have more := records.lacking_cons known points
      rw [more] at hasRoom' sub
      obtain ⟨replies, filled⟩ :=
        @ih ⟨evaluator.session.counted 1, (evaluator.cache.count point).insert point (f point)⟩
          later (healthy.counted 1) ready others (hasRoom'.mono (List.subset_cons_self _ _))
          (List.cons_subset.1 sub).2
      rw [evaluate_of_absent declared known evaluated]
      refine ⟨?_, filled.of_absent known records recorded⟩
      dsimp only
      rw [replies, List.map_cons]
      dsimp only
      rw [records.valueOf known]
      unfold Cache.valueOf
      rw [known]
      rfl

/-! ## Batches -/

/-- A session answers the lacking rows of a batch, in one call if there are any. -/
theorem evaluateMissing_eq {batch : Sample} (answers : binding.table.AnswersRows info f rows)
    (healthy : evaluator.session.Healthy binding info)
    (held : binding.table.At trace evaluator.session.state.number
      (evaluator.session.phase.stage info))
    (right : batch.dimension = info.inputDimension)
    (sub : (evaluator.cache.missing batch).rows ⊆ rows) :
    ∃ outputs session later,
      evaluator.evaluateMissing batch trace = (.ok outputs, session, later) ∧
      outputs.rows = (evaluator.cache.missing batch).rows.map f ∧
      session.phase = (if (evaluator.cache.missing batch).rows = [] then evaluator.session.phase
        else .ready) ∧
      session.evaluations = evaluator.session.evaluations +
        (evaluator.cache.missing batch).rows.length := by
  by_cases empty : (evaluator.cache.missing batch).isEmpty = true
  · have none : (evaluator.cache.missing batch).rows = [] := List.isEmpty_iff.1 empty
    have declared : (evaluator.cache.missing batch).dimension =
        evaluator.session.info.inputDimension := by rw [healthy.info_eq, ← right]; rfl
    refine ⟨_, _, _, evaluator.session.evaluateBatch_of_isEmpty trace declared empty, ?_, ?_, ?_⟩
    · rw [none]
      rfl
    · rw [if_pos none]
    · rw [none]
      rfl
  · have some : (evaluator.cache.missing batch).rows ≠ [] := mt List.isEmpty_iff.2 empty
    obtain ⟨outputs, later, evaluated, values⟩ :=
      healthy.evaluateBatch_rows_of_at held answers.toAnswersTogether
        (show (evaluator.cache.missing batch).dimension = _ from right) empty sub
    refine ⟨outputs, _, later, evaluated, values, ?_, rfl⟩
    rw [if_neg some]
    rfl

/-- With the values of the missing rows, a row is served its value. -/
theorem served_eq_valueOf {batch outputs : Sample} (linked : evaluator.cache.Linked)
    (values : outputs.rows = (evaluator.cache.missing batch).rows.map f) {row : Point}
    (mem : row ∈ batch.rows) :
    evaluator.served batch outputs row = some (evaluator.cache.valueOf f row) := by
  unfold served Cache.valueOf
  rw [← linked.peek_eq_lookup]
  cases found : evaluator.cache.peek row with
  | some value => rfl
  | none =>
    rw [linked.peek_eq_lookup] at found
    have place := List.getElem?_idxOf ((evaluator.cache.mem_missing batch row).2 ⟨mem, found⟩)
    rw [Option.none_or, Sample.row?, values, List.getElem?_map, place]
    rfl

/-- A batch comes to the values of its rows, and the lacking ones are filled in. -/
theorem filled_evaluateBatch {batch : Sample} (answers : binding.table.AnswersRows info f rows)
    (healthy : evaluator.session.Healthy binding info)
    (held : binding.table.At trace evaluator.session.state.number
      (evaluator.session.phase.stage info))
    (right : batch.dimension = info.inputDimension)
    (fits : ∀ row ∈ batch.rows, evaluator.Fits row)
    (hasRoom : evaluator.cache.HasRoom (evaluator.cache.lacking batch.rows))
    (sub : evaluator.cache.lacking batch.rows ⊆ rows) :
    (∃ output, (evaluator.evaluateBatch batch trace).1 = .ok output ∧
        output.rows = batch.rows.map (evaluator.cache.valueOf f)) ∧
      Filled f batch.rows evaluator (evaluator.evaluateBatch batch trace).2.1 := by
  have linked := hasRoom.toLinked
  have missing := Cache.rows_missing linked batch
  rw [← missing] at sub
  have declared : batch.dimension = evaluator.info.inputDimension := by
    rw [right]
    exact congrArg FunctionInfo.inputDimension healthy.info_eq.symm
  obtain ⟨outputs, session, later, evaluated, values, phase, calls⟩ :=
    evaluateMissing_eq answers healthy held right sub
  obtain ⟨dimension, size, -⟩ :=
    evaluator.session.evaluateBatch_ok trace (congrArg Prod.fst evaluated)
  obtain ⟨output, ok⟩ := (assembled_ok_iff size linked dimension).2 fits
  obtain ⟨-, -, shown, merged⟩ := assembled_ok size linked ok
  rw [evaluateBatch_eq linked declared, evaluated]
  refine ⟨⟨output, Reply.ofExcept_eq_ok_iff.2 ok, ?_⟩, ?_, ?_, ?_⟩
  · refine List.map_injective_iff.2 (fun _ _ => Option.some.inj) (shown.trans ?_)
    rw [List.map_map]
    exact List.map_congr_left fun row mem => served_eq_valueOf linked values mem
  · show (evaluator.assembled batch outputs).2.entries = _
    rw [merged, values, zip_map_self, missing]
    exact hasRoom.entries_insertAll_lacking batch.rows f
  · rw [← missing]
    exact phase
  · rw [← missing]
    exact calls

end Evaluator

/-- **A batch is the fold of its points.** Let an evaluator be usable and have its state in custody
like all others are in that of theirs, let its cache be enabled, with values of the declared
dimension and with room for the missing rows, and let the function answer these rows with values,
alone and together. Then a batch of the declared dimension and its rows one after the other get the
same values, and leave the same entries in the same order, the session in the same phase, and the
missing rows counted. -/
theorem batch_is_fold {evaluator : Evaluator} {batch : Sample} {trace : Trace}
    {others : List Session} {f : Point → Point}
    (custody : Custody none (evaluator.session :: others) trace)
    (phase : evaluator.session.phase = .created ∨ evaluator.session.phase = .ready)
    (sound : evaluator.cache.WellFormed) (enabled : evaluator.cache.enabled = true)
    (fits : ∀ entry ∈ evaluator.cache.entries, entry.2.length = evaluator.info.outputDimension)
    (declared : batch.dimension = evaluator.info.inputDimension)
    (room : evaluator.cache.size + (evaluator.cache.missing batch).size ≤ evaluator.cache.maxSize)
    (answers : evaluator.session.binding.table.AnswersRows evaluator.info f
      (evaluator.cache.missing batch).rows) :
    (∃ output, (evaluator.evaluateBatch batch trace).1 = .ok output ∧
        (Evaluator.evaluateEach batch.rows evaluator trace).1 = output.rows.map .ok) ∧
      (evaluator.evaluateBatch batch trace).2.1.cache.entries =
        (Evaluator.evaluateEach batch.rows evaluator trace).2.1.cache.entries ∧
      (evaluator.evaluateBatch batch trace).2.1.session.phase =
        (Evaluator.evaluateEach batch.rows evaluator trace).2.1.session.phase ∧
      (evaluator.evaluateBatch batch trace).2.1.calls =
        evaluator.calls + (evaluator.cache.missing batch).size ∧
      (Evaluator.evaluateEach batch.rows evaluator trace).2.1.calls =
        evaluator.calls + (evaluator.cache.missing batch).size := by
  have usable : evaluator.session.phase.isUsable = true := by
    rcases phase with created | ready
    · rw [created]
      rfl
    · rw [ready]
      rfl
  have healthy : evaluator.session.Healthy evaluator.session.binding evaluator.info :=
    ⟨rfl, custody.owned _ List.mem_cons_self, rfl, usable⟩
  have held := healthy.at_of_custody custody List.mem_cons_self
  have missing := Cache.rows_missing sound.toLinked batch
  have hasRoom : evaluator.cache.HasRoom (evaluator.cache.lacking batch.rows) := by
    refine .of_size sound enabled ?_
    rw [← missing, (evaluator.cache.nodup_missing batch).dedup]
    exact room
  have sub : evaluator.cache.lacking batch.rows ⊆ (evaluator.cache.missing batch).rows :=
    missing ▸ List.Subset.refl _
  have size : (evaluator.cache.missing batch).size = (evaluator.cache.lacking batch.rows).length :=
    congrArg List.length missing
  have shaped : ∀ row ∈ batch.rows, evaluator.Fits row := by
    intro row _ value found
    unfold Cache.served at found
    rw [if_pos enabled] at found
    exact fits _ (mem_of_lookup found)
  obtain ⟨⟨output, ok, values⟩, together⟩ :=
    Evaluator.filled_evaluateBatch answers healthy held declared shaped hasRoom sub
  obtain ⟨replies, alone⟩ := Evaluator.filled_evaluateEach answers healthy held
    (fun row mem => (batch.length_of_mem row mem).trans declared) hasRoom sub
  rw [size]
  refine ⟨⟨output, ok, ?_⟩, together.entries.trans alone.entries.symm,
    together.phase.trans alone.phase.symm, together.calls, alone.calls⟩
  rw [values, List.map_map]
  exact replies

/-- An evaluator of a function that writes its input twice, just opened, with an entry that somebody
else has put into its cache. -/
def Evaluator.seeded : Evaluator where
  session := .opened choosyBinding 0 ⟨1, 2, none⟩
  cache := (Cache.new 3).insert [⟨1⟩] [⟨9⟩, ⟨9⟩]

/-- One row comes twice and one is known; the entry's value is answered, the others are computed. -/
theorem batch_is_fold_seeded :
    (∃ output,
      (Evaluator.seeded.evaluateBatch Evaluator.overfull (Session.new choosyBinding []).2).1 =
        .ok output ∧ output.rows = [[⟨3⟩, ⟨3⟩], [⟨9⟩, ⟨9⟩], [⟨3⟩, ⟨3⟩], [⟨4⟩, ⟨4⟩]] ∧
      (Evaluator.evaluateEach Evaluator.overfull.rows .seeded
        (Session.new choosyBinding []).2).1 = output.rows.map .ok) ∧
      (Evaluator.evaluateEach Evaluator.overfull.rows .seeded
        (Session.new choosyBinding []).2).2.1.calls = 2 := by
  have custody : Custody none (Evaluator.seeded.session :: []) (Session.new choosyBinding []).2 :=
    Custody.nil.new choosyBinding
  have rowWise : choosyBinding.table.RowWise _ Foreign.Script.choosy.rowOf :=
    Foreign.Script.rowWise_table Foreign.Script.steady_choosy (.inProcess 1)
  have answers : choosyBinding.table.AnswersRows ⟨1, 2, none⟩
      (fun row => Foreign.Script.choosy.output 0 row 2)
      (Evaluator.seeded.cache.missing Evaluator.overfull).rows :=
    rowWise.answersRows (by decide) (by decide)
  obtain ⟨⟨output, ok, replies⟩, -, -, -, calls⟩ := batch_is_fold custody (.inl rfl)
    ((Cache.wellFormed_new 3).insert _ _) rfl (by decide)
    (rfl : Evaluator.overfull.dimension = Evaluator.seeded.info.inputDimension) (by decide) answers
  have computed : ∃ output, (Evaluator.seeded.evaluateBatch Evaluator.overfull
      (Session.new choosyBinding []).2).1 = .ok output ∧
      output.rows = [[⟨3⟩, ⟨3⟩], [⟨9⟩, ⟨9⟩], [⟨3⟩, ⟨3⟩], [⟨4⟩, ⟨4⟩]] := ⟨_, rfl, by decide⟩
  obtain ⟨same, ok', rows⟩ := computed
  obtain rfl : output = same := Reply.ok.inj (ok.symm.trans ok')
  exact ⟨⟨output, ok, rows, replies⟩, calls⟩

end ForeignEval

import ForeignEval.Evaluator
import ForeignEval.Proofs.Batch.Plan
import ForeignEval.Proofs.Foreign.RowWise
import ForeignEval.Proofs.Session.Frame

/-!
# What an evaluator answers to a batch

An evaluator hands the missing rows of a batch to its session and puts the outputs together with
what its cache serves. `Evaluator.BatchSpec` says which calls that makes, when there is an output
and which one, and what is left in the cache.

* **Counting** — `Cache.WellFormed.view_countAll`: each row of a batch is one hit or one miss.
* **Calls** — `Session.extends_evaluateBatch` bounds them; none is made when no row is missing.
* **Assembly** — `Evaluator.evaluateBatch_eq`: the answer, given the session's outputs.
* **Batches** — `Evaluator.evaluateBatch_spec`: every batch of the declared dimension is answered
  as specified.
-/

namespace ForeignEval

open Foreign (Answer Failure Table Trace)

/-! ## Counting -/

namespace Cache

theorem WellFormed.view_countAll {cache : Cache} (sound : cache.WellFormed)
    (points : List Point) : (cache.countAll points).view = cache.view.counting points := by
  unfold Fifo.counting
  rw [countAll_eq]
  by_cases enabled : cache.enabled = true
  · have served : cache.view.enabled = true := enabled
    rw [if_pos enabled, if_pos served]
    have hit : (points.countP fun point => (cache.peek point).isSome) =
        points.countP (· ∈ cache.view.keys) :=
      List.countP_congr fun point _ => by
        rw [sound.isSome_peek_iff enabled, decide_eq_true_iff]
    have miss : (points.countP fun point => (cache.peek point).isNone) =
        points.countP (· ∉ cache.view.keys) :=
      List.countP_congr fun point _ => by
        rw [decide_eq_true_iff, ← sound.isSome_peek_iff enabled, Option.isNone_iff_eq_none,
          Option.not_isSome_iff_eq_none]
    rw [hit, miss]
    rfl
  · have unserved : ¬cache.view.enabled = true := enabled
    rw [if_neg enabled, if_neg unserved]

namespace Reachable

variable {cache : Cache} (reachable : cache.Reachable)

include reachable

theorem countAll (points : List Point) : (cache.countAll points).Reachable := by
  induction points generalizing cache with
  | nil => exact reachable
  | cons point points ih => exact ih (.call (.lookup point) reachable reachable)

theorem insertAll (entries : List (Point × Point)) : (cache.insertAll entries).Reachable := by
  induction entries generalizing cache with
  | nil => exact reachable
  | cons entry entries ih => exact ih (.call (.insert entry.1 entry.2) reachable reachable)

end Reachable

end Cache

namespace Evaluator

/-! ## The answer, given the session's outputs -/

/-- What the session makes of the rows of a batch that the cache does not serve. -/
def evaluateMissing (evaluator : Evaluator) (batch : Sample) (trace : Trace) :
    Reply Sample × Session × Trace :=
  evaluator.session.evaluateBatch (evaluator.cache.missing batch) trace

/-- What an evaluator serves for a row: its cache's entry, or else the output at the row's place
among the missing ones. -/
def served (evaluator : Evaluator) (batch outputs : Sample) (row : Point) : Option Point :=
  (evaluator.cache.served.lookup row).or
    (outputs.row? ((evaluator.cache.missing batch).rows.idxOf row))

/-- A row's entry in the cache has the declared number of values, if there is one. -/
def Fits (evaluator : Evaluator) (row : Point) : Prop :=
  ∀ value, evaluator.cache.served.lookup row = some value →
    value.length = evaluator.info.outputDimension

variable {evaluator : Evaluator} {batch : Sample} {trace : Trace}

/-- What is put together from outputs for the missing rows. -/
def assembled (evaluator : Evaluator) (batch outputs : Sample) : Except Error Sample × Cache :=
  Plan.assemble ⟨batch, batch.rows.map evaluator.cache.peek, evaluator.cache.missing batch⟩
    evaluator.session.function evaluator.info
    (.ofOutputs (evaluator.cache.missing batch).rows outputs.rows)
    (evaluator.cache.countAll batch.rows)

/-- The answer and the cache that follow from the session's reply. -/
def settled (evaluator : Evaluator) (batch : Sample) : Reply Sample → Reply Sample × Cache
  | .ok outputs =>
    (.ofExcept (evaluator.assembled batch outputs).1, (evaluator.assembled batch outputs).2)
  | .error e => (.error e, evaluator.cache.countAll batch.rows)
  | .panic text => (.panic text, evaluator.cache.countAll batch.rows)

/-- An evaluator asks its session for the missing rows and settles the reply. -/
theorem evaluateBatch_eq (linked : evaluator.cache.Linked)
    (declared : batch.dimension = evaluator.info.inputDimension) :
    evaluator.evaluateBatch batch trace =
      ((evaluator.settled batch (evaluator.evaluateMissing batch trace).1).1,
        ⟨(evaluator.evaluateMissing batch trace).2.1,
          (evaluator.settled batch (evaluator.evaluateMissing batch trace).1).2⟩,
        (evaluator.evaluateMissing batch trace).2.2) := by
  have checked : evaluator.session.checkBatch batch = none := if_pos declared
  have owner : evaluator.session.SameOwner (evaluator.evaluateMissing batch trace).2.1 :=
    evaluator.session.sameOwner_evaluateBatch trace _
  unfold evaluateMissing at owner ⊢
  unfold evaluateBatch
  rw [checked, Plan.make_eq linked]
  dsimp only
  cases result : evaluator.session.evaluateBatch (evaluator.cache.missing batch) trace with
  | mk reply rest =>
    rw [result] at owner
    cases reply with
    | error | panic => rfl
    | ok outputs =>
      show (_, Evaluator.mk rest.1 (Plan.assemble _ rest.1.function rest.1.info _ _).2, _) = _
      rw [owner.function, owner.info]
      rfl

section Outputs

variable {outputs : Sample} (size : outputs.size = (evaluator.cache.missing batch).size)

include size in
/-- What is found or computed for a row. -/
theorem served_eq (linked : evaluator.cache.Linked) (row : Point) :
    (evaluator.cache.peek row).or
        ((Cache.ofOutputs (evaluator.cache.missing batch).rows outputs.rows).peek row) =
      evaluator.served batch outputs row := by
  have distinct := evaluator.cache.nodup_missing batch
  rw [linked.peek_eq_lookup, Cache.peek_ofOutputs distinct size]
  rfl

include size in
/-- With outputs for the missing rows, a row has an output of the declared length exactly when its
entry in the cache fits. -/
theorem exists_output_iff_fits (dimension : outputs.dimension = evaluator.info.outputDimension)
    {row : Point} (mem : row ∈ batch.rows) :
    (∃ value : Plan.Output evaluator.info, evaluator.served batch outputs row = some value.1) ↔
      evaluator.Fits row := by
  unfold served Fits
  cases found : evaluator.cache.served.lookup row with
  | some value =>
    rw [Option.some_or]
    constructor
    · rintro ⟨output, same⟩ other again
      rw [← Option.some.inj again, Option.some.inj same]
      exact output.2
    · intro fits
      exact ⟨⟨value, fits value rfl⟩, rfl⟩
  | none =>
    -- the row is missing, so it has a place and an output there
    have missing := (evaluator.cache.mem_missing batch row).2 ⟨mem, found⟩
    have place := List.idxOf_lt_length_of_mem missing
    have bound : (evaluator.cache.missing batch).rows.idxOf row < outputs.rows.length :=
      Nat.lt_of_lt_of_eq place size.symm
    have there : outputs.row? ((evaluator.cache.missing batch).rows.idxOf row) =
        some outputs.rows[(evaluator.cache.missing batch).rows.idxOf row] :=
      List.getElem?_eq_getElem bound
    have length := outputs.length_of_mem _ (List.getElem_mem bound)
    rw [Option.none_or, there]
    exact ⟨fun _ _ again => (nomatch again), fun _ => ⟨⟨_, length.trans dimension⟩, rfl⟩⟩

variable (linked : evaluator.cache.Linked)
  (dimension : outputs.dimension = evaluator.info.outputDimension)

include size linked dimension in
/-- With outputs for the missing rows, the batch has one exactly when all entries fit. -/
theorem assembled_ok_iff :
    (∃ output, (evaluator.assembled batch outputs).1 = .ok output) ↔
      ∀ row ∈ batch.rows, evaluator.Fits row := by
  unfold assembled
  rw [Plan.assemble_ok_iff, zip_map_self, List.forall_mem_map]
  refine forall₂_congr fun row mem => ?_
  rw [← exists_output_iff_fits size dimension mem, ← served_eq size linked]

include size linked in
/-- The output has the declared shape and what is served for each row; the outputs of the missing
rows go into the cache. -/
theorem assembled_ok {output : Sample}
    (ok : (evaluator.assembled batch outputs).1 = .ok output) :
    output.dimension = evaluator.info.outputDimension ∧
      output.description = evaluator.info.description ∧
      output.rows.map some = batch.rows.map (evaluator.served batch outputs) ∧
      (evaluator.assembled batch outputs).2 = (evaluator.cache.countAll batch.rows).insertAll
        ((evaluator.cache.missing batch).rows.zip outputs.rows) := by
  obtain ⟨shape, text, rows, merged⟩ := Plan.assemble_ok ok
  refine ⟨shape, text, ?_, ?_⟩
  · rw [rows, zip_map_self, List.map_map]
    exact List.map_congr_left fun row _ => served_eq size linked row
  · refine merged.trans ?_
    unfold Cache.merge
    rw [Cache.entries_ofOutputs (evaluator.cache.nodup_missing batch)]

include size linked dimension in
/-- The first row whose entry does not fit is reported, and nothing is merged. -/
theorem assembled_of_unfit {before rest : List Point} {row value : Point}
    (rows : batch.rows = before ++ row :: rest) (fits : ∀ row ∈ before, evaluator.Fits row)
    (found : evaluator.cache.served.lookup row = some value)
    (unfit : value.length ≠ evaluator.info.outputDimension) :
    evaluator.assembled batch outputs =
      (.error (Plan.wrongLength evaluator.session.function before.length value.length
        evaluator.info.outputDimension), evaluator.cache.countAll batch.rows) := by
  refine Plan.assemble_of_error ?_
  show Plan.outputsOf _ _ _ 0 (batch.rows.zip (batch.rows.map evaluator.cache.peek)) = _
  rw [zip_map_self, rows, List.map_append, List.map_cons]
  refine Plan.outputsOf_eq_error ?_ ?_
  · rw [List.forall_mem_map]
    intro earlier mem
    have mem' : earlier ∈ batch.rows := rows ▸ List.mem_append_left _ mem
    rw [served_eq size linked]
    exact (exists_output_iff_fits size dimension mem').2 (fits earlier mem)
  · unfold Plan.outputOf
    rw [linked.peek_eq_lookup, found, Option.some_or, List.length_map, Nat.zero_add]
    exact dif_neg unfit

end Outputs

section Settling

variable (linked : evaluator.cache.Linked) {reply : Reply Sample}
  (shaped : ∀ outputs, reply = .ok outputs →
    outputs.dimension = evaluator.info.outputDimension ∧
      outputs.size = (evaluator.cache.missing batch).size)

include linked shaped in
theorem settled_ok_iff :
    (∃ output, (evaluator.settled batch reply).1 = .ok output) ↔
      (∃ outputs, reply = .ok outputs) ∧ ∀ row ∈ batch.rows, evaluator.Fits row := by
  cases reply with
  | error | panic =>
    constructor
    · rintro ⟨_, ok⟩
      cases ok
    · rintro ⟨⟨_, ok⟩, -⟩
      cases ok
  | ok outputs =>
    obtain ⟨dimension, size⟩ := shaped outputs rfl
    rw [← assembled_ok_iff size linked dimension]
    have settled : ∀ output, (evaluator.settled batch (.ok outputs)).1 = .ok output ↔
        (evaluator.assembled batch outputs).1 = .ok output :=
      fun _ => Reply.ofExcept_eq_ok_iff
    simp only [settled]
    exact ⟨fun complete => ⟨⟨outputs, rfl⟩, complete⟩, fun ⟨_, complete⟩ => complete⟩

/-- Without an output the cache is the one after the lookups. -/
theorem settled_kept (none : ∀ output, (evaluator.settled batch reply).1 ≠ .ok output) :
    (evaluator.settled batch reply).2 = evaluator.cache.countAll batch.rows := by
  cases reply with
  | error | panic => rfl
  | ok outputs =>
    exact Plan.assemble_kept fun output ok => none output (Reply.ofExcept_eq_ok_iff.2 ok)

include linked shaped in
/-- Settling a reply leaves a cache that calls can make. -/
theorem settled_reachable (reachable : evaluator.cache.Reachable) :
    (evaluator.settled batch reply).2.Reachable := by
  have counted := reachable.countAll batch.rows
  by_cases complete : ∃ output, (evaluator.settled batch reply).1 = .ok output
  · obtain ⟨⟨outputs, rfl⟩, -⟩ := (settled_ok_iff linked shaped).1 complete
    obtain ⟨output, ok⟩ := complete
    obtain ⟨-, -, -, merged⟩ :=
      assembled_ok (shaped outputs rfl).2 linked (Reply.ofExcept_eq_ok_iff.1 ok)
    show (evaluator.assembled batch outputs).2.Reachable
    rw [merged]
    exact counted.insertAll _
  · rw [settled_kept (not_exists.1 complete)]
    exact counted

end Settling

/-! ## Specification -/

/-- **What an evaluator does with a batch**: `reply` is its answer, `after` what becomes of it and
`later` of the trace. -/
structure BatchSpec (evaluator : Evaluator) (batch : Sample) (trace : Trace)
    (reply : Reply Sample) (after : Evaluator) (later : Trace) : Prop where
  /-- The session sees the missing rows, and nothing else touches it or the trace. -/
  session : (after.session, later) = (evaluator.evaluateMissing batch trace).2
  /-- Foreign code is asked to prepare the state and to evaluate exactly the missing rows, each at
  most once, -/
  calls : evaluator.session.binding.table.Extends
    [.init evaluator.session.state.number,
      evaluator.session.batchCall (evaluator.cache.missing batch)] trace later
  /-- not at all if there are none, whatever the phase of the session, -/
  silent : (evaluator.cache.missing batch).rows = [] →
    after.session = evaluator.session ∧ later = trace
  /-- and once if there are some and an output comes out; the session counts them. -/
  called : (evaluator.cache.missing batch).rows ≠ [] → (∃ output, reply = .ok output) →
    after.session = evaluator.session.counted (evaluator.cache.missing batch).size ∧
      later.getLast? = some (.called evaluator.session.binding.table.source
        evaluator.session.binding.table.library
        (evaluator.session.batchCall (evaluator.cache.missing batch)) .returned)
  /-- An output comes out exactly when the session evaluates the missing rows and the entries of
  all others fit. -/
  ok_iff : (∃ output, reply = .ok output) ↔
    (∃ outputs, (evaluator.evaluateMissing batch trace).1 = .ok outputs) ∧
      ∀ row ∈ batch.rows, evaluator.Fits row
  /-- It has the declared shape and a row for each row of the batch, in order; what was computed
  has been inserted after all lookups were counted. -/
  output : ∀ output outputs, reply = .ok output →
    (evaluator.evaluateMissing batch trace).1 = .ok outputs →
      output.dimension = evaluator.info.outputDimension ∧
      output.description = evaluator.info.description ∧
      output.rows.map some = batch.rows.map (evaluator.served batch outputs) ∧
      after.cache.view = (evaluator.cache.view.counting batch.rows).insertAll
        ((evaluator.cache.missing batch).rows.zip outputs.rows)
  /-- Without an output only the lookups count. -/
  kept : (∀ output, reply ≠ .ok output) →
    after.cache.view = evaluator.cache.view.counting batch.rows
  /-- An error of the session is the answer, -/
  error : ∀ e, (evaluator.evaluateMissing batch trace).1 = .error e → reply = .error e
  /-- and so is unwinding; -/
  panic : ∀ text, (evaluator.evaluateMissing batch trace).1 = .panic text → reply = .panic text
  /-- otherwise the first row whose entry does not fit is reported. -/
  unfit : ∀ before row rest value, batch.rows = before ++ row :: rest →
    (∃ outputs, (evaluator.evaluateMissing batch trace).1 = .ok outputs) →
    (∀ row ∈ before, evaluator.Fits row) → evaluator.cache.served.lookup row = some value →
    value.length ≠ evaluator.info.outputDimension →
    reply = .error (Plan.wrongLength evaluator.session.function before.length value.length
      evaluator.info.outputDimension)
  /-- The cache is again one that calls on caches make. -/
  reachable : after.cache.Reachable

/-- **Batches**: whatever its cache and its session's phase, an evaluator does with a batch of the
declared dimension what is specified. -/
theorem evaluateBatch_spec (evaluator : Evaluator) (batch : Sample) (trace : Trace)
    (reachable : evaluator.cache.Reachable)
    (declared : batch.dimension = evaluator.info.inputDimension) :
    BatchSpec evaluator batch trace (evaluator.evaluateBatch batch trace).1
      (evaluator.evaluateBatch batch trace).2.1 (evaluator.evaluateBatch batch trace).2.2 := by
  have sound := reachable.wellFormed
  have linked := sound.toLinked
  have counted := sound.view_countAll batch.rows
  have shaped : ∀ outputs, (evaluator.evaluateMissing batch trace).1 = .ok outputs →
      outputs.dimension = evaluator.info.outputDimension ∧
        outputs.size = (evaluator.cache.missing batch).size := fun outputs ok => by
    obtain ⟨dimension, size, -⟩ := evaluator.session.evaluateBatch_ok trace ok
    exact ⟨dimension, size⟩
  rw [evaluateBatch_eq linked declared]
  constructor
  case session => rfl
  case calls => exact evaluator.session.extends_evaluateBatch trace _
  case silent =>
    intro none
    have same : evaluator.evaluateMissing batch trace =
        (.ok (Session.emptyOutput evaluator.session.info), evaluator.session, trace) :=
      evaluator.session.evaluateBatch_of_isEmpty trace declared (List.isEmpty_iff.2 none)
    rw [same]
    exact ⟨rfl, rfl⟩
  case called =>
    intro some complete
    obtain ⟨⟨outputs, ok⟩, -⟩ := (settled_ok_iff linked shaped).1 complete
    obtain ⟨-, -, -, last⟩ := evaluator.session.evaluateBatch_ok trace ok
    exact last some
  case ok_iff => exact settled_ok_iff linked shaped
  case output =>
    intro output outputs ok evaluated
    rw [evaluated] at ok ⊢
    obtain ⟨shape, text, rows, merged⟩ :=
      assembled_ok (shaped outputs evaluated).2 linked (Reply.ofExcept_eq_ok_iff.1 ok)
    refine ⟨shape, text, rows, ?_⟩
    show (evaluator.assembled batch outputs).2.view = _
    rw [merged, (sound.countAll batch.rows).view_insertAll, counted]
  case kept =>
    intro none
    exact (congrArg Cache.view (settled_kept none)).trans counted
  case error =>
    intro e failed
    rw [failed]
    rfl
  case panic =>
    intro text unwound
    rw [unwound]
    rfl
  case unfit =>
    intro before row rest value rows ⟨outputs, ok⟩ fits found unfit
    obtain ⟨dimension, size⟩ := shaped outputs ok
    rw [ok]
    show Reply.ofExcept (evaluator.assembled batch outputs).1 = _
    rw [assembled_of_unfit size linked dimension rows fits found unfit]
    rfl
  case reachable => exact settled_reachable linked shaped reachable

/-- An evaluator of a function that writes its input twice, with a full cache of two entries. -/
def doubling : Evaluator where
  session := ⟨choosyBinding, ⟨1, 0⟩, ⟨1, 2, none⟩, .created, 0⟩
  cache := ((Cache.new 2).insert [⟨1⟩] [⟨1⟩, ⟨1⟩]).insert [⟨2⟩] [⟨2⟩, ⟨2⟩]

/-- Two new rows, one of them twice, around one that the cache has. -/
def overfull : Sample := ⟨1, [[⟨3⟩], [⟨1⟩], [⟨3⟩], [⟨4⟩]], none, by decide⟩

/-- The specification at work: the two missing rows push the known one out of the cache, and the
output has it all the same. -/
theorem evaluateBatch_spec_doubling :
    doubling.cache.Reachable ∧ overfull.dimension = doubling.info.inputDimension ∧
      BatchSpec doubling overfull [] (doubling.evaluateBatch overfull []).1
        (doubling.evaluateBatch overfull []).2.1 (doubling.evaluateBatch overfull []).2.2 ∧
      (doubling.cache.missing overfull).rows = [[⟨3⟩], [⟨4⟩]] ∧
      (doubling.evaluateBatch overfull []).2.1.cache.view.keys = [[⟨3⟩], [⟨4⟩]] ∧
      ∃ output, (doubling.evaluateBatch overfull []).1 = .ok output ∧
        output.rows = [[⟨3⟩, ⟨3⟩], [⟨1⟩, ⟨1⟩], [⟨3⟩, ⟨3⟩], [⟨4⟩, ⟨4⟩]] := by
  have reachable : doubling.cache.Reachable :=
    .call (.insert _ _) (.call (.insert _ _) (.new 2) (.new 2)) (.new 2)
  have declared : overfull.dimension = doubling.info.inputDimension := rfl
  refine ⟨reachable, declared, evaluateBatch_spec doubling overfull [] reachable declared,
    by decide, by decide, ?_⟩
  exact ⟨_, rfl, by decide⟩

end Evaluator

end ForeignEval

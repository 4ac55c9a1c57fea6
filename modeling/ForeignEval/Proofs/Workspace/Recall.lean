import ForeignEval.Proofs.Pool.Learning
import ForeignEval.Proofs.Workspace.Calls
import ForeignEval.Proofs.Workspace.Coherence

/-!
# Requests at a cache with room

What a request does to a workspace when it goes to a runner whose cache has room for its points:
the cache learns, the answer is what the cache serves afterwards, and foreign code is called only if
a point of the request has no output yet, and then only for such points.

* **Calls** — `Event.NeededFor`; `Evaluator.needed_evaluate` … `Pool.needed_evaluateBatch`.
* **Requests** — `Workspace.recalled_request`: all of this for a runner.
* **Steps** — `Workspace.recalled_act`: and for the steps that evaluate.
-/

namespace ForeignEval

open Foreign (Call Event Trace)
open Workspace (Name Outcome Request Step Value)

/-! ## Calls -/

/-- The points that a call hands over. -/
def Foreign.Call.points : Call → List Point
  | .exec _ input _ => [input]
  | .execBatch _ rows dimension input _ _ => splitRows dimension rows input
  | _ => []

/-- An event that only points without an output explain: there are some among these points, and if
it is a call, it hands over no others. -/
def Foreign.Event.NeededFor (points : List Point) (cache : Cache) (event : Event) : Prop :=
  (∃ point ∈ points, cache.peek point = none) ∧
    ∀ call, event.call? = some call → ∀ point ∈ call.points, cache.peek point = none

section Calls

variable {cache : Cache} {points : List Point} {batch : Sample}

namespace Session

variable (session : Session)

theorem points_batchCall (batch : Sample) : (session.batchCall batch).points = batch.rows :=
  splitRows_flatten batch.length_of_mem

theorem allows_needed {call : Call} (some : ∃ point ∈ points, cache.peek point = none)
    (unknown : ∀ point ∈ call.points, cache.peek point = none) :
    session.Allows (Event.NeededFor points cache) call := by
  intro made mem ending
  refine ⟨some, fun other same => ?_⟩
  obtain rfl : made = other := Option.some.inj same
  rcases List.mem_cons.1 mem with rfl | mem
  · exact fun _ none => absurd none List.not_mem_nil
  · rw [List.mem_singleton.1 mem]
    exact unknown

theorem allows_point {point : Point} (absent : cache.peek point = none) :
    session.Allows (Event.NeededFor [point] cache) (session.pointCall point) :=
  session.allows_needed ⟨point, List.mem_singleton_self point, absent⟩
    (List.forall_mem_singleton.2 absent)

/-- Rows that are missing are needed. -/
theorem allows_missing (linked : cache.Linked) {chunk : Sample}
    (sub : chunk.rows ⊆ (cache.missing batch).rows) (rows : ¬chunk.isEmpty = true) :
    session.Allows (Event.NeededFor batch.rows cache) (session.batchCall chunk) := by
  have absent : ∀ row ∈ chunk.rows, row ∈ batch.rows ∧ cache.peek row = none := by
    intro row mem
    rw [linked.peek_eq_lookup]
    exact (cache.mem_missing batch row).1 (sub mem)
  obtain ⟨row, mem⟩ := List.exists_mem_of_ne_nil chunk.rows (mt List.isEmpty_iff.2 rows)
  refine session.allows_needed ⟨row, absent row mem⟩ fun point there => ?_
  rw [session.points_batchCall] at there
  exact (absent point there).2

end Session

theorem Evaluator.needed_evaluate (evaluator : Evaluator) (point : Point) (trace : Trace) :
    trace.Grows (Event.NeededFor [point] evaluator.cache) (evaluator.evaluate point trace).2.2 :=
  evaluator.grows_evaluate trace evaluator.session.allows_point

theorem Evaluator.needed_evaluateBatch {evaluator : Evaluator} (linked : evaluator.cache.Linked)
    (batch : Sample) (trace : Trace) :
    trace.Grows (Event.NeededFor batch.rows evaluator.cache)
      (evaluator.evaluateBatch batch trace).2.2 := by
  refine evaluator.grows_evaluateBatch trace fun rows => ?_
  rw [Plan.make_eq linked] at rows ⊢
  exact evaluator.session.allows_missing linked (List.Subset.refl _) rows

theorem Pool.needed_evaluate (pool : Pool) (point : Point) (trace : Trace) :
    trace.Grows (Event.NeededFor [point] pool.cache) (pool.evaluate point trace).2.2 :=
  pool.grows_evaluate trace fun absent worker _ => worker.session.allows_point absent

theorem Pool.needed_evaluateBatch {pool : Pool} (linked : pool.cache.Linked) (batch : Sample)
    (trace : Trace) :
    trace.Grows (Event.NeededFor batch.rows pool.cache) (pool.evaluateBatch batch trace).2.2 := by
  refine pool.grows_evaluateBatch trace fun worker _ chunk mem rows => ?_
  rw [Plan.make_eq linked] at mem
  exact worker.session.allows_missing linked (Sample.subset_of_mem_chunks mem) rows

end Calls

/-! ## Requests -/

/-- What stays of a runner whatever it evaluates: which cache it uses, if any, and what its function
declares. -/
def Runner.profile (runner : Runner) : Option Nat × FunctionInfo :=
  match runner.kind with
  | .session session => (none, session.info)
  | .evaluator session cache => (some cache, session.info)
  | .pool pool cache => (some cache, pool.info)

namespace Pool

variable (pool : Pool) (trace : Trace)

theorem info_evaluate (point : Point) : (pool.evaluate point trace).2.1.info = pool.info := by
  unfold Pool.evaluate
  split
  · rfl
  · split <;> rfl

theorem info_evaluateBatch (batch : Sample) :
    (pool.evaluateBatch batch trace).2.1.info = pool.info := by
  by_cases declared : batch.dimension = pool.info.inputDimension
  · rw [evaluateBatch_eq declared]
    generalize collect _ _ _ = collected
    cases collected with
    | ok | error | panic => rfl
  · rw [evaluateBatch_of_wrong declared]

end Pool

namespace Workspace

/-- The points of a request. -/
def Request.points : Request → List Point
  | .point input => [input]
  | .batch sample => sample.rows

/-- A value is a sample of the declared shape of what is served for some rows. -/
def Value.OutputsOf (info : FunctionInfo) (served : Point → Option Point) (rows : List Point)
    (value : Value) : Prop :=
  ∃ output, value = .sample output ∧ output.dimension = info.outputDimension ∧
    output.description = info.description ∧ output.rows.map some = rows.map served

/-- There is one such value at most. -/
theorem Value.OutputsOf.unique {info : FunctionInfo} {served : Point → Option Point}
    {rows : List Point} {a b : Value} (first : a.OutputsOf info served rows)
    (second : b.OutputsOf info served rows) : a = b := by
  obtain ⟨output, rfl, dimension, text, same⟩ := first
  obtain ⟨output', rfl, dimension', text', same'⟩ := second
  have rows := List.map_injective_iff.2 (fun _ _ => Option.some.inj) (same.trans same'.symm)
  rw [Sample.ext (dimension.trans dimension'.symm) rows (text.trans text'.symm)]

/-- All rows have outputs of the declared length. -/
theorem Value.OutputsOf.known {info : FunctionInfo} {served : Point → Option Point}
    {rows : List Point} {value : Value} (outputs : value.OutputsOf info served rows) :
    ∀ row ∈ rows, ∃ value : Plan.Output info, served row = some value.1 := by
  obtain ⟨output, -, dimension, -, same⟩ := outputs
  intro row mem
  have found : served row ∈ output.rows.map some := same ▸ List.mem_map_of_mem mem
  obtain ⟨value, there, same⟩ := List.mem_map.1 found
  exact ⟨⟨value, (output.length_of_mem value there).trans dimension⟩, same.symm⟩

/-- A request is answered with what a cache serves, in the declared shape. -/
def Request.ServedBy (info : FunctionInfo) (cache : Cache) : Request → Value → Prop
  | .point input, value =>
    ∃ output, value = .point (some output) ∧ cache.peek input = some output
  | .batch sample, value =>
    sample.dimension = info.inputDimension ∧ value.OutputsOf info cache.peek sample.rows

/-- A batch of the declared dimension of which a cache has the right outputs for all rows. -/
def Request.KnownTo (info : FunctionInfo) (cache : Cache) : Request → Prop
  | .point _ => False
  | .batch sample => sample.dimension = info.inputDimension ∧
      ∀ row ∈ sample.rows, ∃ value : Plan.Output info, cache.peek row = some value.1

/-- What comes of a request at a cache that has room for it. -/
structure Request.Recalled (info : FunctionInfo) (request : Request) (cache later : Cache)
    (reply : Reply Value) : Prop where
  /-- The cache learns. -/
  learned : cache.Learned request.points later
  /-- A value is what the cache serves afterwards. -/
  served : ∀ value, reply = .ok value → request.ServedBy info later value
  /-- A batch that the cache knows gets a value. -/
  repeated : request.KnownTo info cache → ∃ value, reply = .ok value

theorem Request.recalled_point {info : FunctionInfo} {point : Point} {cache later : Cache}
    {reply : Reply Point}
    (learned : cache.Learned [point] later ∧
      ∀ value, reply = .ok value → later.peek point = some value) :
    Request.Recalled info (.point point) cache later
      (reply.map fun point => .point (some point)) where
  learned := learned.1
  served value ok := by
    obtain ⟨output, same, rfl⟩ := Reply.map_eq_ok_iff.1 ok
    exact ⟨output, rfl, learned.2 output same⟩
  repeated known := absurd known not_false

theorem Request.recalled_batch {info : FunctionInfo} {batch : Sample} {cache later : Cache}
    {reply : Reply Sample} (recalls : Recalls info batch cache later reply) :
    Request.Recalled info (.batch batch) cache later (reply.map .sample) where
  learned := recalls.learned
  served value ok := by
    obtain ⟨output, same, rfl⟩ := Reply.map_eq_ok_iff.1 ok
    exact ⟨recalls.declared output same, output, rfl, recalls.served output same⟩
  repeated known := by
    obtain ⟨output, ok⟩ := recalls.repeated known.1 known.2
    exact ⟨.sample output, Reply.map_eq_ok_iff.2 ⟨output, ok, rfl⟩⟩

/-- What stays of the runner of a name. -/
def profileOf (w : Workspace) (id : Name) : Option (Option Nat × FunctionInfo) :=
  (w.runners.lookup id).map Runner.profile

/-- A workspace after a request for these points at the cache of a number. -/
structure Advanced (number : Nat) (points : List Point) (w later : Workspace) : Prop where
  /-- The cache learns. -/
  learned : (w.cacheAt number).Learned points (later.cacheAt number)
  /-- There are as many caches. -/
  caches : later.caches.length = w.caches.length
  /-- What was called for was needed. -/
  needed : w.trace.Grows (Event.NeededFor points (w.cacheAt number)) later.trace
  /-- All runners use their caches and declare what they declared. -/
  profiles : later.profileOf = w.profileOf

variable {w : Workspace} {number : Nat} {info : FunctionInfo}

/-- A runner whose cache has room for a request recalls it. -/
theorem recalled_request {runner : Runner} (uses : runner.profile = (some number, info))
    (inside : number < w.caches.length) {what : Request}
    (hasRoom : (w.cacheAt number).HasRoom what.points) :
    what.Recalled info (w.cacheAt number) ((w.request runner what).2.2.cacheAt number)
        (w.request runner what).1 ∧
      (w.request runner what).2.1.profile = (some number, info) ∧
      Advanced number what.points w (w.request runner what).2.2 := by
  have linked := hasRoom.toLinked
  have stored (trace : Trace) (cache : Cache) :
      (({ w with trace } : Workspace).setCache number cache).cacheAt number = cache :=
    (cacheAt_setCache { w with trace } inside cache number).trans (if_pos rfl)
  -- with its request recalled, the rest is what calls are made and what the runner keeps
  suffices done : ∀ (reply : Reply Value) (trace : Trace) (cache : Cache),
      what.Recalled info (w.cacheAt number) cache reply →
      w.trace.Grows (Event.NeededFor what.points (w.cacheAt number)) trace →
      what.Recalled info (w.cacheAt number)
          ((({ w with trace } : Workspace).setCache number cache).cacheAt number) reply ∧
        Advanced number what.points w (({ w with trace } : Workspace).setCache number cache) by
    obtain ⟨binding, kind⟩ := runner
    cases kind with
    | session session => cases uses
    | evaluator session number' =>
      obtain ⟨rfl, rfl⟩ : number' = number ∧ session.info = info := by
        cases uses
        exact ⟨rfl, rfl⟩
      let evaluator : Evaluator := ⟨session, w.cacheAt number'⟩
      cases what with
      | point point =>
        have same := evaluator.sameOwner_serve w.trace (.point point)
        obtain ⟨recalled, advanced⟩ := done _ _ _
          (Request.recalled_point (evaluator.learned_evaluate w.trace hasRoom))
          (evaluator.needed_evaluate point w.trace)
        exact ⟨recalled, congrArg (some number', ·) same.info, advanced⟩
      | batch batch =>
        have same := evaluator.sameOwner_serve w.trace (.batch batch)
        obtain ⟨recalled, advanced⟩ := done _ _ _
          (Request.recalled_batch (evaluator.recalls_evaluateBatch w.trace hasRoom))
          (evaluator.needed_evaluateBatch linked batch w.trace)
        exact ⟨recalled, congrArg (some number', ·) same.info, advanced⟩
    | pool pool number' =>
      obtain ⟨rfl, rfl⟩ : number' = number ∧ pool.info = info := by
        cases uses
        exact ⟨rfl, rfl⟩
      let pool' : Pool := { pool with cache := w.cacheAt number' }
      cases what with
      | point point =>
        have same := pool'.info_evaluate w.trace point
        obtain ⟨recalled, advanced⟩ := done _ _ _
          (Request.recalled_point (pool'.learned_evaluate w.trace hasRoom))
          (pool'.needed_evaluate point w.trace)
        exact ⟨recalled, congrArg (some number', ·) same, advanced⟩
      | batch batch =>
        have same := pool'.info_evaluateBatch w.trace batch
        obtain ⟨recalled, advanced⟩ := done _ _ _
          (Request.recalled_batch (pool'.recalls_evaluateBatch w.trace hasRoom))
          (pool'.needed_evaluateBatch linked batch w.trace)
        exact ⟨recalled, congrArg (some number', ·) same, advanced⟩
  intro reply trace cache recalled needed
  rw [stored]
  exact ⟨recalled, by rw [stored]; exact recalled.learned, List.length_set, needed, rfl⟩

/-- A request to a name that stands for no runner but on the cache of this number. -/
theorem recalled_evaluateOn {id : Name} {what : Request}
    (uses : ∀ used info, w.profileOf id = some (used, info) → used = some number)
    (inside : number < w.caches.length) (hasRoom : (w.cacheAt number).HasRoom what.points) :
    Advanced number what.points w (evaluateOn id what w).2 ∧
      (∀ value, (evaluateOn id what w).1.value? = some value →
        ∃ used info, w.profileOf id = some (used, info) ∧
          what.ServedBy info ((evaluateOn id what w).2.cacheAt number) value) ∧
      ∀ used info, w.profileOf id = some (used, info) → what.KnownTo info (w.cacheAt number) →
        ∃ value, (evaluateOn id what w).1.value? = some value := by
  unfold evaluateOn
  cases found : w.runners.lookup id with
  | none =>
    have none : w.profileOf id = none := congrArg (Option.map Runner.profile) found
    refine ⟨⟨Cache.learned_countAll hasRoom.toWellFormed _ [], rfl, .refl _ _, rfl⟩,
      fun _ ok => (nomatch ok), fun used info same => ?_⟩
    rw [none] at same
    cases same
  | some runner =>
    have profile : w.profileOf id = some runner.profile :=
      congrArg (Option.map Runner.profile) found
    have on : runner.profile = (some number, runner.profile.2) :=
      Prod.ext (uses _ _ profile) rfl
    obtain ⟨recalled, kept, advanced⟩ := recalled_request on inside hasRoom
    have stored : Advanced number what.points w
        ((w.request runner what).2.2.setRunner id (w.request runner what).2.1) := by
      refine ⟨advanced.learned, advanced.caches, advanced.needed, funext fun other => ?_⟩
      show ((withName _ id _).lookup other).map Runner.profile = _
      rw [lookup_withName]
      by_cases same : other = id
      · rw [if_pos same, same, profile, on, Option.map_some, kept]
      · rw [if_neg same]
        exact congrFun advanced.profiles other
    dsimp only
    cases reply : (w.request runner what).1 with
    | ok value =>
      refine ⟨stored, fun other ok => ?_, fun _ _ _ _ => ⟨value, rfl⟩⟩
      cases ok
      exact ⟨some number, runner.profile.2, profile.trans (congrArg some on),
        recalled.served value reply⟩
    | error | panic =>
      refine ⟨stored, fun _ ok => (nomatch ok), fun used info same known => ?_⟩
      obtain rfl : runner.profile.2 = info :=
        congrArg Prod.snd (Option.some.inj (profile.symm.trans same))
      obtain ⟨value, ok⟩ := recalled.repeated known
      rw [reply] at ok
      cases ok

/-! ## Steps -/

/-- The points that a step asks for. -/
def Step.points : Step → List Point
  | .evaluate _ input => [input]
  | .evaluateBatch _ _ rows => rows
  | _ => []

/-- The points of a step with the outputs that a value gives them. -/
def Step.outputs : Step → Value → List (Point × Point)
  | .evaluate _ input, .point (some output) => [(input, output)]
  | .evaluateBatch _ _ rows, .sample output => rows.zip output.rows
  | _, _ => []

/-- A step that evaluates with a runner on the cache of this number. -/
def Step.Uses (w : Workspace) (number : Nat) : Step → Prop
  | .evaluate id _ | .evaluateBatch id _ _ =>
    ∀ used info, w.profileOf id = some (used, info) → used = some number
  | _ => False

theorem served_of_mem_zip {served : Point → Option Point} {rows outputs : List Point}
    (same : outputs.map some = rows.map served) :
    ∀ entry ∈ rows.zip outputs, served entry.1 = some entry.2 := by
  induction rows generalizing outputs with
  | nil => exact fun _ mem => absurd mem List.not_mem_nil
  | cons row rows ih =>
    cases outputs with
    | nil => cases same
    | cons output outputs =>
      obtain ⟨head, tail⟩ := List.cons.inj same
      exact List.forall_mem_cons.2 ⟨head.symm, ih tail⟩

/-- What comes of a step at a cache that has room for it. -/
structure Recalled (number : Nat) (step : Step) (w : Workspace) (outcome : Outcome)
    (later : Workspace) : Prop where
  /-- The cache learns, and what was called for was needed. -/
  advanced : Advanced number step.points w later
  /-- A value has an output for each point, -/
  whole : ∀ value, outcome.value? = some value → (step.outputs value).map (·.1) = step.points
  /-- which the cache serves afterwards. -/
  served : ∀ value, outcome.value? = some value →
    ∀ entry ∈ step.outputs value, (later.cacheAt number).peek entry.1 = some entry.2
  /-- The value of a batch has the declared shape. -/
  shaped : ∀ value, outcome.value? = some value → ∀ id dimension rows,
    step = .evaluateBatch id dimension rows → (∀ row ∈ rows, row.length = dimension) ∧
      ∃ used info, w.profileOf id = some (used, info) ∧ dimension = info.inputDimension ∧
        value.OutputsOf info (later.cacheAt number).peek rows
  /-- A batch that the cache knows gets a value. -/
  repeated : ∀ id dimension rows, step = .evaluateBatch id dimension rows →
    (∀ row ∈ rows, row.length = dimension) →
    ∀ used info, w.profileOf id = some (used, info) → dimension = info.inputDimension →
      (∀ row ∈ rows, ∃ value : Plan.Output info, (w.cacheAt number).peek row = some value.1) →
        ∃ value, outcome.value? = some value

/-- **Step**: a step at a cache with room for it recalls. -/
theorem recalled_act {step : Step} (uses : step.Uses w number) (inside : number < w.caches.length)
    (hasRoom : (w.cacheAt number).HasRoom step.points) :
    Recalled number step w (act step w).1 (act step w).2 := by
  cases step with
  | evaluate id input =>
    have hasRoom' : (w.cacheAt number).HasRoom (Request.point input).points := hasRoom
    obtain ⟨advanced, served, -⟩ := recalled_evaluateOn uses inside hasRoom'
    refine ⟨advanced, fun value ok => ?_, fun value ok => ?_, ?_, ?_⟩
    · obtain ⟨-, -, -, output, rfl, -⟩ := served value ok
      rfl
    · obtain ⟨-, -, -, output, rfl, found⟩ := served value ok
      exact List.forall_mem_singleton.2 found
    · rintro _ _ _ _ _ ⟨⟩
    · rintro _ _ _ ⟨⟩
  | evaluateBatch id dimension rows =>
    show Recalled number _ w (Workspace.evaluateBatch id dimension rows w).1
      (Workspace.evaluateBatch id dimension rows w).2
    unfold Workspace.evaluateBatch Sample.ofRows
    by_cases right : ∀ row ∈ rows, row.length = dimension
    · rw [dif_pos right]
      dsimp only
      have hasRoom' : (w.cacheAt number).HasRoom
          (Request.batch ⟨dimension, rows, none, right⟩).points := hasRoom
      obtain ⟨advanced, served, repeated⟩ := recalled_evaluateOn uses inside hasRoom'
      refine ⟨advanced, fun value ok => ?_, fun value ok => ?_, fun value ok => ?_, ?_⟩
      · obtain ⟨-, -, -, -, output, rfl, -, -, same⟩ := served value ok
        have length : output.rows.length = rows.length := by
          rw [← List.length_map some, same, List.length_map]
        exact List.map_fst_zip (Nat.le_of_eq length.symm)
      · obtain ⟨-, -, -, -, output, rfl, -, -, same⟩ := served value ok
        exact served_of_mem_zip same
      · rintro _ _ _ ⟨⟩
        exact ⟨right, served value ok⟩
      · rintro _ _ _ ⟨⟩ - used info profile declared known
        exact repeated used info profile ⟨declared, known⟩
    · -- rows of several lengths are no batch, and nothing happens
      have refused : ∀ outcome : Outcome, outcome.value? = none →
          Recalled number (.evaluateBatch id dimension rows) w outcome w := by
        intro outcome none
        refine ⟨⟨Cache.learned_countAll hasRoom.toWellFormed _ [], rfl, .refl _ _, rfl⟩, ?_, ?_, ?_,
          ?_⟩
        · intro value ok
          rw [none] at ok
          cases ok
        · intro value ok
          rw [none] at ok
          cases ok
        · intro value ok
          rw [none] at ok
          cases ok
        · rintro _ _ _ ⟨⟩ right'
          exact absurd right' right
      rw [dif_neg right]
      dsimp only
      split
      · exact refused _ rfl
      · exact refused _ rfl
  | _ => exact absurd uses not_false

end Workspace

end ForeignEval

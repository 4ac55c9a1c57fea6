import ForeignEval.Proofs.Pool.Simulation

/-!
# Idle caches

A cache is **idle** when it serves nothing and takes nothing: it is disabled, or it has neither
entries nor room for any. Whatever works with an idle cache works as with an empty cache of
capacity 0, and leaves the idle cache as if some lookups had been counted. A disabled one does not
count, so it stays what it is.

* **Caches** — `Cache.Idle`; `Cache.Idle.insertAll`, `Cache.countAll_of_disabled`.
* **Plans** — `Cache.Idle.make_eq`, `Cache.Idle.assemble_eq`.
* **Evaluators and pools** — `Evaluator.evaluate_of_idle` … `Pool.evaluateBatch_of_idle`.
-/

namespace ForeignEval

open Foreign (Trace)
open Workspace (CacheCall Request Value callCache)

/-! ## Caches -/

/-- A call that looks a point up, asks for it, inserts an entry or merges another cache. -/
def Workspace.CacheCall.isUse : CacheCall → Bool
  | .lookup _ | .contains _ | .insert _ _ | .merge _ => true
  | _ => false

/-- What such a call answers when nothing is served. -/
def Workspace.CacheCall.idleValue : CacheCall → Value
  | .lookup _ => .point none
  | .contains _ => .flag false
  | _ => .unit

namespace Cache

/-- A cache that serves nothing and takes nothing. -/
structure Idle (cache : Cache) : Prop where
  /-- No entry is served. -/
  silent : ∀ point, cache.peek point = none
  /-- No entry is recorded. -/
  closed : ¬(cache.enabled ∧ 0 < cache.maxSize)

variable {cache : Cache}

theorem idle_of_disabled (disabled : cache.enabled = false) : cache.Idle where
  silent point := by
    unfold peek
    rw [disabled]
    rfl
  closed both := by
    rw [disabled] at both
    exact Bool.false_ne_true both.1

theorem idle_new_zero : (new 0).Idle where
  silent point := by
    show (∅ : Std.TreeMap Point Point)[point]? = none
    exact Std.TreeMap.getElem?_emptyc
  closed both := absurd both.2 (Nat.lt_irrefl 0)

theorem countAll_of_disabled (disabled : cache.enabled = false) (points : List Point) :
    cache.countAll points = cache := by
  rw [countAll_eq, disabled]
  rfl

namespace Idle

variable (idle : cache.Idle)

include idle

theorem count (point : Point) : (cache.count point).Idle where
  silent other := by
    rw [peek_count]
    exact idle.silent other
  closed := by
    obtain ⟨-, -, size, enabled⟩ := count_fields cache point
    rw [size, enabled]
    exact idle.closed

theorem countAll (points : List Point) : (cache.countAll points).Idle := by
  induction points generalizing cache with
  | nil => exact idle
  | cons point points ih => exact ih (idle.count point)

theorem insert (point value : Point) : cache.insert point value = cache := if_neg idle.closed

theorem insertAll (entries : List (Point × Point)) : cache.insertAll entries = cache := by
  induction entries with
  | nil => rfl
  | cons entry entries ih =>
    show (cache.insert entry.1 entry.2).insertAll entries = cache
    rw [idle.insert, ih]

theorem merge (other : Cache) : cache.merge other = cache := idle.insertAll other.entries

theorem callCache (other : Cache) {call : CacheCall} (use : call.isUse = true) :
    ∃ points, Workspace.callCache cache other call = (call.idleValue, cache.countAll points) := by
  cases call with
  | lookup point => exact ⟨[point], congrArg (Value.point ·, cache.count point) (idle.silent point)⟩
  | contains point =>
    refine ⟨[], congrArg (Value.flag ·, cache) ?_⟩
    unfold contains
    rw [idle.silent point]
    rfl
  | insert point value => exact ⟨[], congrArg (Value.unit, ·) (idle.insert point value)⟩
  | merge => exact ⟨[], congrArg (Value.unit, ·) (idle.merge other)⟩
  | clear | setMaxSize | enable | disable | entries | counts | record =>
    exact absurd use Bool.false_ne_true

/-! ## Plans -/

/-- A plan at an idle cache knows nothing. -/
theorem make_eq (batch : Sample) :
    Plan.make batch cache = ((Plan.make batch (new 0)).1, cache.countAll batch.rows) := by
  have known : (cache.lookupAll batch.rows).1 = ((new 0).lookupAll batch.rows).1 := by
    rw [lookupAll_eq, lookupAll_eq]
    exact List.map_congr_left fun row _ =>
      (idle.silent row).trans (idle_new_zero.silent row).symm
  refine Prod.ext ?_ (Plan.make_counts batch cache)
  show Plan.mk _ _ _ = Plan.mk _ _ _
  rw [Plan.mk.injEq]
  exact ⟨rfl, known,
    Sample.ext rfl (congrArg (fun found => distinct (notFound batch.rows found)) known) rfl⟩

/-- What is computed is not kept. -/
theorem assemble_eq (plan : Plan) (function : String) (info : FunctionInfo) (fresh : Cache) :
    plan.assemble function info fresh cache =
      ((plan.assemble function info fresh (new 0)).1, cache) := by
  have kept := idle.merge fresh
  unfold Plan.assemble
  cases Plan.outputsOf function info fresh 0 (plan.batch.rows.zip plan.known) with
  | error e => rfl
  | ok values => rw [kept]

end Idle

end Cache

/-! ## Evaluators -/

namespace Evaluator

variable {cache : Cache} (session : Session) (trace : Trace)

/-- A point is evaluated as with an empty cache of capacity 0. -/
theorem evaluate_of_idle (idle : cache.Idle) (point : Point) :
    ∃ points, evaluate ⟨session, cache⟩ point trace =
      ((evaluate ⟨session, .new 0⟩ point trace).1,
        ⟨(evaluate ⟨session, .new 0⟩ point trace).2.1.session, cache.countAll points⟩,
        (evaluate ⟨session, .new 0⟩ point trace).2.2) := by
  have silent := idle.silent point
  have silent' := Cache.idle_new_zero.silent point
  unfold evaluate Cache.lookup
  dsimp only
  rw [silent, silent']
  cases session.checkPoint point with
  | some e => exact ⟨[], rfl⟩
  | none =>
    refine ⟨[point], ?_⟩
    dsimp only
    generalize session.evaluate point trace = result
    obtain ⟨reply, session', later⟩ := result
    cases reply with
    | ok value =>
      dsimp only
      rw [(idle.count point).insert]
      rfl
    | error | panic => rfl

/-- And so is a batch. -/
theorem evaluateBatch_of_idle (idle : cache.Idle) (batch : Sample) :
    ∃ points, evaluateBatch ⟨session, cache⟩ batch trace =
      ((evaluateBatch ⟨session, .new 0⟩ batch trace).1,
        ⟨(evaluateBatch ⟨session, .new 0⟩ batch trace).2.1.session, cache.countAll points⟩,
        (evaluateBatch ⟨session, .new 0⟩ batch trace).2.2) := by
  unfold evaluateBatch
  dsimp only
  cases session.checkBatch batch with
  | some e => exact ⟨[], rfl⟩
  | none =>
    refine ⟨batch.rows, ?_⟩
    rw [idle.make_eq, Cache.idle_new_zero.make_eq]
    dsimp only
    generalize session.evaluateBatch (Plan.make batch (.new 0)).1.unknown trace = result
    obtain ⟨reply, session', later⟩ := result
    cases reply with
    | ok outputs =>
      dsimp only
      rw [(idle.countAll batch.rows).assemble_eq,
        (Cache.idle_new_zero.countAll batch.rows).assemble_eq]
    | error | panic => rfl

theorem serve_of_idle (idle : cache.Idle) (what : Request) :
    ∃ points, server.serve (⟨session, cache⟩, trace) what =
      ((server.serve (⟨session, .new 0⟩, trace) what).1,
        ⟨(server.serve (⟨session, .new 0⟩, trace) what).2.1.session, cache.countAll points⟩,
        (server.serve (⟨session, .new 0⟩, trace) what).2.2) := by
  cases what with
  | point point =>
    obtain ⟨points, same⟩ := evaluate_of_idle session trace idle point
    exact ⟨points, congrArg
      (fun served => (served.1.map fun point => Value.point (some point), served.2)) same⟩
  | batch batch =>
    obtain ⟨points, same⟩ := evaluateBatch_of_idle session trace idle batch
    exact ⟨points, congrArg (fun served => (served.1.map Value.sample, served.2)) same⟩

end Evaluator

/-! ## Pools -/

namespace Pool

variable {cache : Cache} (pool : Pool) (trace : Trace)

/-- A point is evaluated as with an empty cache of capacity 0. -/
theorem evaluate_of_idle (idle : cache.Idle) (point : Point) :
    ∃ points, evaluate { pool with cache } point trace =
      ((evaluate { pool with cache := .new 0 } point trace).1,
        { (evaluate { pool with cache := .new 0 } point trace).2.1 with
          cache := cache.countAll points },
        (evaluate { pool with cache := .new 0 } point trace).2.2) := by
  unfold evaluate
  dsimp only
  cases pool.workers.findIdx? (! ·.poisoned) with
  | none => exact ⟨[], rfl⟩
  | some index =>
    dsimp only
    cases pool.workers[index]? with
    | none => exact ⟨[], rfl⟩
    | some worker =>
      obtain ⟨points, same⟩ := Evaluator.evaluate_of_idle worker.session trace idle point
      refine ⟨points, ?_⟩
      dsimp only
      rw [same]

/-- And so is a batch. -/
theorem evaluateBatch_of_idle (idle : cache.Idle) (batch : Sample) :
    ∃ points, evaluateBatch { pool with cache } batch trace =
      ((evaluateBatch { pool with cache := .new 0 } batch trace).1,
        { (evaluateBatch { pool with cache := .new 0 } batch trace).2.1 with
          cache := cache.countAll points },
        (evaluateBatch { pool with cache := .new 0 } batch trace).2.2) := by
  unfold evaluateBatch
  dsimp only
  cases Session.checkBatchOf pool.function pool.info batch with
  | some e => exact ⟨[], rfl⟩
  | none =>
    refine ⟨batch.rows, ?_⟩
    rw [idle.make_eq, Cache.idle_new_zero.make_eq]
    unfold evaluateChunks
    dsimp only
    generalize evaluateJobs pool.schedule pool.function _ trace = result
    obtain ⟨outcomes, later⟩ := result
    dsimp only
    generalize collect _ _ outcomes = collected
    cases collected with
    | ok fresh =>
      dsimp only
      rw [(idle.countAll batch.rows).assemble_eq,
        (Cache.idle_new_zero.countAll batch.rows).assemble_eq]
    | error | panic => rfl

theorem serve_of_idle (idle : cache.Idle) (what : Request) :
    ∃ points, server.serve ({ pool with cache }, trace) what =
      ((server.serve ({ pool with cache := .new 0 }, trace) what).1,
        { (server.serve ({ pool with cache := .new 0 }, trace) what).2.1 with
          cache := cache.countAll points },
        (server.serve ({ pool with cache := .new 0 }, trace) what).2.2) := by
  cases what with
  | point point =>
    obtain ⟨points, same⟩ := evaluate_of_idle pool trace idle point
    exact ⟨points, congrArg
      (fun served => (served.1.map fun point => Value.point (some point), served.2)) same⟩
  | batch batch =>
    obtain ⟨points, same⟩ := evaluateBatch_of_idle pool trace idle batch
    exact ⟨points, congrArg (fun served => (served.1.map Value.sample, served.2)) same⟩

end Pool

end ForeignEval

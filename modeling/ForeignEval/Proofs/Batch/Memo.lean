import ForeignEval.Proofs.Batch.Answer
import ForeignEval.Proofs.Session.Healthy
import ForeignEval.Workspace.Run

/-!
# Memoised functions

A cache in front of a row-wise function answers requests without sessions, states or a trace. This
**memo** is what evaluators and pools come down to; it says which answer a request gets, what is in
the cache afterwards, and how many points the function was asked for.

* **Servers** — a `Server` answers requests; `Server.Refines.observations_eq`: two of them in
  related states show the same to every sequence of requests.
* **Memo** — `Memo.evaluate` and `Memo.evaluateBatch` answer from a cache and a function.
* **Evaluators** — `Evaluator.refines_memo`: an evaluator of a row-wise function is its memo.
-/

namespace ForeignEval

open Foreign (EntryPoint Failure Table Trace)
open Workspace (Request Value)

/-! ## Servers -/

/-- What a caller sees of a system after a request. -/
structure Observation where
  /-- The reply. -/
  reply : Reply Value
  /-- The cache: its entries in order, its settings and its counters. -/
  cache : Fifo
  /-- How many points have been handed to the foreign code. -/
  calls : Except Error Nat

/-- A system with a cache that serves requests. -/
structure Server (σ : Type) where
  /-- The reply to a request and the state afterwards. -/
  serve : σ → Request → Reply Value × σ
  /-- The cache. -/
  cache : σ → Cache
  /-- How many points have been handed to the foreign code. -/
  calls : σ → Except Error Nat

namespace Server

variable {σ τ : Type}

/-- What is seen of a system after each of some requests. -/
def observations (server : Server σ) (state : σ) : List Request → List Observation
  | [] => []
  | request :: requests =>
    let (reply, state) := server.serve state request
    ⟨reply, (server.cache state).view, server.calls state⟩ :: server.observations state requests

/-- Related states show the same and stay related, with the same replies. -/
structure Refines (server : Server σ) (other : Server τ) (R : σ → τ → Prop) : Prop where
  /-- Caches are the same. -/
  cache : ∀ {state state'}, R state state' → server.cache state = other.cache state'
  /-- As many points have been handed over. -/
  calls : ∀ {state state'}, R state state' → server.calls state = other.calls state'
  /-- A request gets the same reply and leaves related states. -/
  step : ∀ {state state'} (request : Request), R state state' →
    (server.serve state request).1 = (other.serve state' request).1 ∧
      R (server.serve state request).2 (other.serve state' request).2

/-- Related states show the same for all times. -/
theorem Refines.observations_eq {server : Server σ} {other : Server τ} {R : σ → τ → Prop}
    (refines : server.Refines other R) {state : σ} {state' : τ} (related : R state state')
    (requests : List Request) :
    server.observations state requests = other.observations state' requests := by
  induction requests generalizing state state' with
  | nil => rfl
  | cons request requests ih =>
    obtain ⟨reply, after⟩ := refines.step request related
    show Observation.mk (server.serve state request).1 _ _ :: server.observations _ requests =
      Observation.mk (other.serve state' request).1 _ _ :: other.observations _ requests
    rw [reply, refines.cache after, refines.calls after, ih after]

end Server

/-! ## Memo -/

/-- A cache and how many points the function behind it was asked for. -/
structure Memo where
  /-- The cache. -/
  cache : Cache
  /-- How many points the function was asked for. -/
  calls : Nat

namespace Memo

variable (binding : Binding) (info : FunctionInfo) (F : Point → Except Failure Point) (memo : Memo)

/-- Evaluates a point, from the cache if it has it. -/
def evaluate (point : Point) : Reply Point × Memo :=
  if point.length = info.inputDimension then
    match memo.cache.peek point with
    | some value => (.ok value, ⟨memo.cache.count point, memo.calls⟩)
    | none =>
      match F point with
      | .ok value =>
        (.ok value, ⟨(memo.cache.count point).insert point value, memo.calls + 1⟩)
      | .error failure =>
        (binding.sessionReply .exec (.error failure), ⟨memo.cache.count point, memo.calls + 1⟩)
  else (.error (Session.mismatch binding.function info point.length point), memo)

/-- Evaluates a batch by a plan. -/
def evaluateBatch (batch : Sample) : Reply Sample × Memo :=
  if batch.dimension = info.inputDimension then
    let planned := Plan.make batch memo.cache
    let calls := memo.calls + planned.1.unknown.size
    match planned.1.unknown.rows.mapM F with
    | .ok outputs =>
      let assembled := planned.1.assemble binding.function info
        (.ofOutputs planned.1.unknown.rows outputs) planned.2
      (.ofExcept assembled.1, ⟨assembled.2, calls⟩)
    | .error failure => (binding.sessionReply .execBatch (.error failure), ⟨planned.2, calls⟩)
  else
    (.error (Session.mismatch binding.function info batch.dimension ((batch.row? 0).getD [])), memo)

/-- Calls that were made before are only counted along. -/
theorem evaluate_add (cache : Cache) (calls more : Nat) (point : Point) :
    evaluate binding info F ⟨cache, calls + more⟩ point =
      ((evaluate binding info F ⟨cache, calls⟩ point).1,
        ⟨(evaluate binding info F ⟨cache, calls⟩ point).2.cache,
          (evaluate binding info F ⟨cache, calls⟩ point).2.calls + more⟩) := by
  unfold evaluate
  split
  · dsimp only
    cases cache.peek point with
    | some value => rfl
    | none =>
      dsimp only
      rw [Nat.add_right_comm]
      cases F point with
      | ok | error => rfl
  · rfl

theorem panic?_evaluate (point : Point) : (memo.evaluate binding info F point).1.panic? = none := by
  unfold evaluate
  split
  · cases memo.cache.peek point with
    | some value => rfl
    | none =>
      cases F point with
      | ok | error => rfl
  · rfl

/-- A memo as a server. -/
def server : Server Memo where
  serve memo
    | .point point =>
      let (reply, memo) := memo.evaluate binding info F point
      (reply.map fun point => .point (some point), memo)
    | .batch batch =>
      let (reply, memo) := memo.evaluateBatch binding info F batch
      (reply.map .sample, memo)
  cache := cache
  calls memo := .ok memo.calls

end Memo

/-! ## Evaluators -/

namespace Evaluator

/-- An evaluator as a server. -/
def server : Server (Evaluator × Trace) where
  serve state
    | .point point =>
      let (reply, state) := state.1.evaluate point state.2
      (reply.map fun point => .point (some point), state)
    | .batch batch =>
      let (reply, state) := state.1.evaluateBatch batch state.2
      (reply.map .sample, state)
  cache state := state.1.cache
  calls state := .ok state.1.calls

variable {binding : Binding} {info : FunctionInfo} {F : Point → Except Failure Point}

/-- An evaluator with a healthy session has the cache and the count of a memo. -/
structure Shows (binding : Binding) (info : FunctionInfo) (evaluator : Evaluator) (memo : Memo) :
    Prop where
  /-- The session is healthy. -/
  healthy : evaluator.session.Healthy binding info
  /-- The caches are the same. -/
  cache : evaluator.cache = memo.cache
  /-- The session has counted the memo's calls. -/
  calls : evaluator.session.evaluations = memo.calls

namespace Shows

variable {evaluator : Evaluator} {memo : Memo} (shows : Shows binding info evaluator memo)

include shows

theorem evaluate (rowWise : binding.table.RowWise info F) (point : Point) (trace : Trace) :
    (evaluator.evaluate point trace).1 = (memo.evaluate binding info F point).1 ∧
      Shows binding info (evaluator.evaluate point trace).2.1
        (memo.evaluate binding info F point).2 := by
  have healthy := shows.healthy
  unfold Evaluator.evaluate Memo.evaluate Session.checkPoint
  rw [healthy.info_eq, healthy.function_eq, ← shows.cache, ← shows.calls]
  by_cases right : point.length = info.inputDimension
  · rw [if_pos right, if_pos right]
    unfold Cache.lookup
    dsimp only
    -- both count the lookup; only a miss reaches the session
    cases found : evaluator.cache.peek point with
    | some value => exact ⟨rfl, healthy, rfl, rfl⟩
    | none =>
      obtain ⟨later, evaluated⟩ := healthy.evaluate rowWise right trace
      dsimp only
      rw [evaluated]
      cases F point with
      | ok | error => exact ⟨rfl, healthy.counted 1, rfl, rfl⟩
  · rw [if_neg right, if_neg right]
    exact ⟨rfl, shows⟩

/-- A batch gets the memo's reply if the session answers the unknown rows. -/
theorem evaluateBatch_of_answers {batch : Sample} {trace : Trace}
    (answers : batch.dimension = info.inputDimension →
      evaluator.session.Answers binding info F (Plan.make batch evaluator.cache).1.unknown
        (evaluator.session.evaluateBatch (Plan.make batch evaluator.cache).1.unknown trace)) :
    (evaluator.evaluateBatch batch trace).1 = (memo.evaluateBatch binding info F batch).1 ∧
      Shows binding info (evaluator.evaluateBatch batch trace).2.1
        (memo.evaluateBatch binding info F batch).2 := by
  have healthy := shows.healthy
  unfold Evaluator.evaluateBatch Memo.evaluateBatch Session.checkBatch Session.checkBatchOf
  rw [healthy.info_eq, healthy.function_eq, ← shows.cache, ← shows.calls]
  by_cases right : batch.dimension = info.inputDimension
  · rw [if_pos right, if_pos right]
    dsimp only
    obtain ⟨replied, healthy', counted⟩ := answers right
    unfold Binding.RowsReply at replied
    cases evaluated : evaluator.session.evaluateBatch (Plan.make batch evaluator.cache).1.unknown
        trace with
    | mk reply rest =>
      rw [evaluated] at replied healthy' counted
      cases answered : (Plan.make batch evaluator.cache).1.unknown.rows.mapM F with
      | ok outputs =>
        rw [answered] at replied
        obtain ⟨sample, same, rows⟩ := replied
        dsimp only at same
        subst same rows
        dsimp only
        rw [healthy'.function_eq, healthy'.info_eq]
        exact ⟨rfl, healthy', rfl, counted⟩
      | error failure =>
        rw [answered] at replied
        dsimp only at replied
        subst replied
        exact ⟨rfl, healthy', rfl, counted⟩
  · rw [if_neg right, if_neg right]
    exact ⟨rfl, shows⟩

theorem evaluateBatch (rowWise : binding.table.RowWise info F) (batch : Sample) (trace : Trace) :
    (evaluator.evaluateBatch batch trace).1 = (memo.evaluateBatch binding info F batch).1 ∧
      Shows binding info (evaluator.evaluateBatch batch trace).2.1
        (memo.evaluateBatch binding info F batch).2 := by
  refine shows.evaluateBatch_of_answers fun right => ?_
  have declared : (Plan.make batch evaluator.cache).1.unknown.dimension = info.inputDimension :=
    right
  exact shows.healthy.evaluateBatch rowWise declared trace

end Shows

/-- **Evaluators**: an evaluator of a row-wise function is its memo. -/
theorem refines_memo (rowWise : binding.table.RowWise info F) :
    server.Refines (Memo.server binding info F) fun state memo =>
      Shows binding info state.1 memo where
  cache shows := shows.cache
  calls shows := congrArg Except.ok shows.calls
  step {state memo} request shows := by
    cases request with
    | point point =>
      obtain ⟨reply, after⟩ := shows.evaluate rowWise point state.2
      exact ⟨congrArg (Reply.map fun point => Value.point (some point)) reply, after⟩
    | batch batch =>
      obtain ⟨reply, after⟩ := shows.evaluateBatch rowWise batch state.2
      exact ⟨congrArg (Reply.map Value.sample) reply, after⟩

/-- A new evaluator is a new memo with its cache. -/
theorem shows_new (rowWise : binding.table.RowWise info F) {cache : Cache} {before after : Trace}
    {evaluator : Evaluator} (opened : new binding cache before = (.ok evaluator, after)) :
    Shows binding info evaluator ⟨cache, 0⟩ := by
  unfold new at opened
  cases session : Session.new binding before with
  | mk result rest =>
    rw [session] at opened
    cases result with
    | error e => cases opened
    | ok session =>
      cases opened
      obtain ⟨healthy, fresh⟩ := Session.healthy_new rowWise ‹_›
      exact ⟨healthy, rfl, fresh⟩

end Evaluator

end ForeignEval

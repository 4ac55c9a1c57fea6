import ForeignEval.Proofs.Pool.Simulation

/-!
# Failed evaluations

An evaluation that fails has looked its points up, and perhaps some chunks of a batch were computed,
but nothing of that gets into the cache: the entries stay what they were, in their order. An
evaluation that fails because of a wrong dimension does nothing at all.

* **Errors** — `Session.honest_evaluateBatch`: a session that is asked for the right dimension does
  not complain of a wrong one.
* **Evaluators** — `Evaluator.failed_evaluate`, `Evaluator.failed_evaluateBatch`.
* **Pools** — `Pool.failed_evaluate`, `Pool.failed_evaluateBatch`.
-/

namespace ForeignEval

open Foreign (Trace)
open Workspace (Request Value)

/-! ## Errors -/

/-- Whether an error is about a point or batch of a wrong dimension. -/
def Error.IsMismatch : Error → Prop
  | .dimensionMismatch _ _ _ _ => True
  | _ => False

/-- A reply that does not complain of a wrong dimension. -/
def Reply.Honest {α : Type} (reply : Reply α) : Prop :=
  ∀ e, reply = .error e → ¬e.IsMismatch

theorem Reply.map_eq_error_iff {α β : Type} {f : α → β} {reply : Reply α} {e : Error} :
    reply.map f = .error e ↔ reply = .error e := by
  cases reply with
  | ok | error | panic => simp [Reply.map]

theorem Reply.ofExcept_eq_error_iff {α : Type} {result : Except Error α} {e : Error} :
    Reply.ofExcept result = .error e ↔ result = .error e := by
  cases result with
  | ok | error => simp [Reply.ofExcept]

theorem Reply.honest_error {α : Type} {e : Error} (other : ¬e.IsMismatch) :
    (Reply.error e : Reply α).Honest := by
  rintro _ ⟨⟩
  exact other

/-! ## Sessions -/

namespace Session

variable (session : Session) (trace : Trace)

/-- The errors of a session that did not get to answer: what went wrong in foreign code, wrapped, or
that the session cannot be used. -/
def Fails (function : String) (e : Error) : Prop :=
  (∃ source, e = .wrap function source) ∨ ∃ reason, e = .sessionUnusable function reason

theorem prepare_error {e : Error} (failed : (session.prepare trace).1 = .error e) :
    Fails session.function e := by
  unfold prepare at failed
  split at failed
  · cases failed
  · cases failed
    exact .inr ⟨_, rfl⟩
  · cases failed
    exact .inr ⟨_, rfl⟩
  · split at failed <;> cases failed
    exact .inl ⟨_, rfl⟩

theorem evaluateWith_error {α : Type} {points : Nat} {call : Session → Trace → Reply α × Trace}
    {e : Error} (failed : (session.evaluateWith points call trace).1 = .error e) :
    Fails session.function e := by
  have prepared := @prepare_error session trace
  have owner := session.sameOwner_prepare trace
  unfold evaluateWith at failed
  generalize session.prepare trace = result at prepared owner failed
  obtain ⟨reply, ready, later⟩ := result
  cases reply with
  | error e' =>
    cases failed
    exact prepared rfl
  | panic text => cases failed
  | ok =>
    rw [← owner.function]
    dsimp only at failed
    cases called : (call ready later).1 with
    | ok | panic =>
      rw [called] at failed
      cases failed
    | error source =>
      rw [called] at failed
      cases failed
      exact .inl ⟨source, rfl⟩

theorem Fails.not_isMismatch {function : String} {e : Error} (fails : Fails function e) :
    ¬e.IsMismatch := by
  rcases fails with ⟨source, rfl⟩ | ⟨reason, rfl⟩
  · exact not_false
  · exact not_false

theorem evaluate_error {point : Point} {e : Error}
    (failed : (session.evaluate point trace).1 = .error e) :
    e.IsMismatch ∨ Fails session.function e := by
  by_cases right : point.length = session.info.inputDimension
  · rw [session.evaluate_of_length trace right] at failed
    exact .inr (session.evaluateWith_error trace failed)
  · unfold evaluate checkPoint at failed
    rw [if_neg right] at failed
    cases failed
    exact .inl trivial

theorem honest_evaluateWith {α : Type} (points : Nat) (call : Session → Trace → Reply α × Trace) :
    (session.evaluateWith points call trace).1.Honest :=
  fun _ failed => (session.evaluateWith_error trace failed).not_isMismatch

theorem honest_evaluate {point : Point} (right : point.length = session.info.inputDimension) :
    (session.evaluate point trace).1.Honest := by
  rw [session.evaluate_of_length trace right]
  exact session.honest_evaluateWith trace 1 _

/-- A session that is asked for the right dimension does not complain of a wrong one. -/
theorem honest_evaluateBatch {batch : Sample}
    (right : batch.dimension = session.info.inputDimension) :
    (session.evaluateBatch batch trace).1.Honest := by
  by_cases empty : batch.isEmpty = true
  · rw [session.evaluateBatch_of_isEmpty trace right empty]
    simp [Reply.Honest]
  · rw [session.evaluateBatch_of_rows trace right empty]
    intro e failed
    exact session.honest_evaluateWith trace batch.size _ e (Reply.map_eq_error_iff.1 failed)

end Session

namespace Plan

variable {function : String} {info : FunctionInfo} {fresh : Cache}

theorem outputOf_error {index : Nat} {row : Point} {found : Option Point} {e : Error}
    (failed : outputOf function info fresh index row found = .error e) :
    ∃ message, e = .internal function message := by
  unfold outputOf at failed
  split at failed
  · cases failed
    exact ⟨_, rfl⟩
  · split at failed
    · cases failed
    · cases failed
      exact ⟨_, rfl⟩

theorem outputsOf_error {index : Nat} {pairs : List (Point × Option Point)} {e : Error}
    (failed : outputsOf function info fresh index pairs = .error e) :
    ∃ message, e = .internal function message := by
  induction pairs generalizing index with
  | nil => cases failed
  | cons pair pairs ih =>
    rw [outputsOf_cons] at failed
    cases first : outputOf function info fresh index pair.1 pair.2 with
    | error e' =>
      rw [first] at failed
      cases failed
      exact outputOf_error first
    | ok value =>
      rw [first] at failed
      cases others : outputsOf function info fresh (index + 1) pairs with
      | error e' =>
        rw [others] at failed
        cases failed
        exact ih others
      | ok values =>
        rw [others] at failed
        cases failed

/-- A plan fails without touching the cache, and as an internal failure. -/
theorem assemble_failed {plan : Plan} {cache : Cache} {e : Error}
    (failed : (plan.assemble function info fresh cache).1 = .error e) :
    (plan.assemble function info fresh cache).2 = cache ∧
      ∃ message, e = .internal function message := by
  unfold assemble at failed ⊢
  cases outputs : outputsOf function info fresh 0 (plan.batch.rows.zip plan.known) with
  | error e' =>
    rw [outputs] at failed
    cases failed
    exact ⟨rfl, outputsOf_error outputs⟩
  | ok values =>
    rw [outputs] at failed
    cases failed

end Plan

/-! ## Counters -/

/-- A cache is the same but for its counters. -/
def Cache.Recounted (cache later : Cache) : Prop :=
  ∃ hits misses, later = { cache with hits, misses }

namespace Cache

variable (cache : Cache)

theorem recounted_self : cache.Recounted cache := ⟨cache.hits, cache.misses, rfl⟩

theorem recounted_countAll (points : List Point) : cache.Recounted (cache.countAll points) := by
  rw [cache.countAll_eq points]
  split
  · exact ⟨_, _, rfl⟩
  · exact cache.recounted_self

theorem recounted_count (point : Point) : cache.Recounted (cache.count point) :=
  cache.recounted_countAll [point]

theorem recounted_make (batch : Sample) : cache.Recounted (Plan.make batch cache).2 := by
  rw [Plan.make_counts]
  exact cache.recounted_countAll batch.rows

end Cache

/-! ## Evaluators -/

namespace Evaluator

variable {evaluator : Evaluator} {trace : Trace} {e : Error}

/-- Without an output only the lookup counts. -/
theorem kept_evaluate {point : Point}
    (none : ∀ value, (evaluator.evaluate point trace).1 ≠ .ok value) :
    evaluator.cache.Recounted (evaluator.evaluate point trace).2.1.cache := by
  unfold evaluate Cache.lookup at none ⊢
  cases passed : evaluator.session.checkPoint point with
  | some e => exact evaluator.cache.recounted_self
  | none =>
    rw [passed] at none
    dsimp only at none ⊢
    cases found : evaluator.cache.peek point with
    | some value =>
      rw [found] at none
      exact absurd rfl (none value)
    | none =>
      rw [found] at none
      generalize evaluator.session.evaluate point trace = result at none ⊢
      obtain ⟨value | _ | _, session, after⟩ := result
      · exact absurd rfl (none value)
      · exact evaluator.cache.recounted_count point
      · exact evaluator.cache.recounted_count point

/-- Without an output only the lookups count. -/
theorem kept_evaluateBatch {batch : Sample}
    (none : ∀ output, (evaluator.evaluateBatch batch trace).1 ≠ .ok output) :
    evaluator.cache.Recounted (evaluator.evaluateBatch batch trace).2.1.cache := by
  have recounted := evaluator.cache.recounted_make batch
  unfold evaluateBatch at none ⊢
  cases passed : evaluator.session.checkBatch batch with
  | some e => exact evaluator.cache.recounted_self
  | none =>
    rw [passed] at none
    dsimp only at none ⊢
    generalize evaluator.session.evaluateBatch (Plan.make batch evaluator.cache).1.unknown trace =
      result at none ⊢
    obtain ⟨outputs | _ | _, session, after⟩ := result
    · -- the session did its part, and it is the plan that fails
      dsimp only at none ⊢
      rw [Plan.assemble_kept fun output ok => none output (Reply.ofExcept_eq_ok_iff.2 ok)]
      exact recounted
    · exact recounted
    · exact recounted

/-- An evaluator fails at a point only as its session does. -/
theorem evaluate_error {point : Point} (failed : (evaluator.evaluate point trace).1 = .error e) :
    (evaluator.session.evaluate point trace).1 = .error e := by
  unfold evaluate Cache.lookup at failed
  cases passed : evaluator.session.checkPoint point with
  | some e' =>
    rw [passed] at failed
    cases failed
    unfold Session.evaluate
    rw [passed]
  | none =>
    rw [passed] at failed
    dsimp only at failed
    cases found : evaluator.cache.peek point with
    | some value =>
      rw [found] at failed
      cases failed
    | none =>
      rw [found] at failed
      generalize evaluator.session.evaluate point trace = result at failed ⊢
      obtain ⟨_ | _ | _, session, after⟩ := result
      · cases failed
      · exact failed
      · cases failed

theorem failed_evaluate {point : Point} (failed : (evaluator.evaluate point trace).1 = .error e) :
    evaluator.cache.Recounted (evaluator.evaluate point trace).2.1.cache ∧
      (e.IsMismatch → (evaluator.evaluate point trace).2 = (evaluator, trace)) := by
  constructor
  · refine kept_evaluate fun value ok => ?_
    rw [failed] at ok
    cases ok
  · intro mismatch
    by_cases right : point.length = evaluator.session.info.inputDimension
    · have fine := evaluator.session.honest_evaluate trace right
      exact absurd mismatch (fine e (evaluate_error failed))
    · have wrong : evaluator.session.checkPoint point = some (Session.mismatch _ _ _ _) :=
        if_neg right
      unfold evaluate
      rw [wrong]

theorem failed_evaluateBatch {batch : Sample}
    (failed : (evaluator.evaluateBatch batch trace).1 = .error e) :
    evaluator.cache.Recounted (evaluator.evaluateBatch batch trace).2.1.cache ∧
      (e.IsMismatch → (evaluator.evaluateBatch batch trace).2 = (evaluator, trace)) := by
  constructor
  · refine kept_evaluateBatch fun output ok => ?_
    rw [failed] at ok
    cases ok
  · intro mismatch
    by_cases right : batch.dimension = evaluator.session.info.inputDimension
    · have fine : (evaluator.session.evaluateBatch (Plan.make batch evaluator.cache).1.unknown
          trace).1.Honest := evaluator.session.honest_evaluateBatch trace right
      have passed : evaluator.session.checkBatch batch = none := if_pos right
      unfold evaluateBatch at failed
      rw [passed] at failed
      dsimp only at failed
      generalize evaluator.session.evaluateBatch (Plan.make batch evaluator.cache).1.unknown
        trace = result at fine failed
      obtain ⟨outputs | e' | _, session, after⟩ := result
      · obtain ⟨-, message, rfl⟩ := Plan.assemble_failed (Reply.ofExcept_eq_error_iff.1 failed)
        exact mismatch.elim
      · cases failed
        exact absurd mismatch (fine e rfl)
      · cases failed
    · have wrong : evaluator.session.checkBatch batch = some (Session.mismatch _ _ _ _) :=
        if_neg right
      unfold evaluateBatch
      rw [wrong]

end Evaluator

/-! ## Pools -/

namespace Pool

variable {pool : Pool} {trace : Trace} {e : Error}

theorem kept_evaluate {point : Point}
    (none : ∀ value, (pool.evaluate point trace).1 ≠ .ok value) :
    pool.cache.Recounted (pool.evaluate point trace).2.1.cache := by
  rcases pool.evaluate_cases with ⟨-, same⟩ | ⟨before, worker, others, -, -, -, same⟩
  · rw [same]
    exact pool.cache.recounted_self
  · rw [same] at none ⊢
    exact Evaluator.kept_evaluate none

theorem kept_evaluateBatch {batch : Sample}
    (none : ∀ output, (pool.evaluateBatch batch trace).1 ≠ .ok output) :
    pool.cache.Recounted (pool.evaluateBatch batch trace).2.1.cache := by
  by_cases right : batch.dimension = pool.info.inputDimension
  · have recounted := pool.cache.recounted_make batch
    rw [evaluateBatch_eq right] at none ⊢
    generalize collect _ _ _ = collected at none ⊢
    cases collected with
    | error | panic => exact recounted
    | ok fresh =>
      -- all chunks were computed, and it is the plan that fails
      show pool.cache.Recounted (Plan.assemble _ _ _ _ _).2
      rw [Plan.assemble_kept fun output ok => none output (Reply.ofExcept_eq_ok_iff.2 ok)]
      exact recounted
  · rw [evaluateBatch_of_wrong right]
    exact pool.cache.recounted_self

theorem failed_evaluate {point : Point} (failed : (pool.evaluate point trace).1 = .error e) :
    pool.cache.Recounted (pool.evaluate point trace).2.1.cache ∧
      (e.IsMismatch → (pool.evaluate point trace).2 = (pool, trace)) := by
  constructor
  · refine kept_evaluate fun value ok => ?_
    rw [failed] at ok
    cases ok
  · intro mismatch
    rcases pool.evaluate_cases with ⟨-, same⟩ | ⟨before, worker, others, staff, -, sane, same⟩
    · rw [same]
    · rw [same] at failed ⊢
      have unchanged := (Evaluator.failed_evaluate failed).2 mismatch
      rw [failed, unchanged]
      -- a worker that is not poisoned is put back as it was
      have put : Worker.after worker.session (.error e : Reply Point) = worker := by
        show (⟨worker.session, false⟩ : Worker) = _
        rw [← sane]
      dsimp only
      rw [put, ← staff]

/-- A chunk of the declared dimension fails for other reasons than that. -/
theorem settles_honest (function : String) {jobs : List Job}
    (right : ∀ job ∈ jobs, job.chunk.dimension = job.worker.session.info.inputDimension) :
    Settles function (fun _ outcome => outcome.reply.Honest) jobs where
  evaluated job mem trace := by
    unfold Job.evaluate
    split
    · exact Reply.honest_error not_false
    · exact job.worker.session.honest_evaluateBatch trace (right job mem)
  givenUp _ _ _ _ _ _ _ := by simp [Reply.Honest]

/-- Chunks come to an error only if one of them does. -/
theorem exists_of_gather_error {fresh : Cache} {chunks : List Sample} {outcomes : List Outcome}
    (failed : gather fresh chunks outcomes = .error e) :
    ∃ outcome ∈ outcomes, outcome.reply = .error e := by
  induction chunks generalizing fresh outcomes with
  | nil => cases failed
  | cons chunk chunks ih =>
    cases outcomes with
    | nil => cases failed
    | cons outcome outcomes =>
      unfold gather at failed
      cases replied : outcome.reply with
      | ok outputs =>
        rw [replied] at failed
        obtain ⟨other, mem, same⟩ := ih failed
        exact ⟨other, List.mem_cons_of_mem _ mem, same⟩
      | error e' =>
        rw [replied] at failed
        cases failed
        exact ⟨outcome, List.mem_cons_self, replied⟩
      | panic text =>
        rw [replied] at failed
        cases failed

theorem exists_of_collect_error {unknown : Sample} {chunks : List Sample} {outcomes : List Outcome}
    (failed : collect unknown chunks outcomes = .error e) :
    ∃ outcome ∈ outcomes, outcome.reply = .error e := by
  unfold collect at failed
  split at failed
  · cases failed
  · exact exists_of_gather_error failed

theorem failed_evaluateBatch {batch : Sample}
    (failed : (pool.evaluateBatch batch trace).1 = .error e) :
    pool.cache.Recounted (pool.evaluateBatch batch trace).2.1.cache ∧
      (e.IsMismatch → (∀ worker ∈ pool.workers, worker.session.info = pool.info) →
        (pool.evaluateBatch batch trace).2 = (pool, trace)) := by
  constructor
  · refine kept_evaluateBatch fun output ok => ?_
    rw [failed] at ok
    cases ok
  · intro mismatch uniform
    by_cases right : batch.dimension = pool.info.inputDimension
    · rw [evaluateBatch_eq right] at failed
      cases collected : collect (Plan.make batch pool.cache).1.unknown
          (pool.chunksFor (Plan.make batch pool.cache).1.unknown)
          (pool.evaluateUnknown batch trace).1 with
      | panic text =>
        rw [collected] at failed
        cases failed
      | ok fresh =>
        rw [collected] at failed
        obtain ⟨-, message, rfl⟩ := Plan.assemble_failed (Reply.ofExcept_eq_error_iff.1 failed)
        exact mismatch.elim
      | error e' =>
        rw [collected] at failed
        cases failed
        have settles : Settles pool.function (fun _ outcome => outcome.reply.Honest)
            (jobsOf pool.workers (pool.chunksFor (Plan.make batch pool.cache).1.unknown)) := by
          refine settles_honest _ fun job mem => ?_
          obtain ⟨staff, chunk⟩ := mem_of_mem_jobsOf mem
          rw [uniform _ staff, Sample.dimension_of_mem_chunks chunk]
          exact right
        have honest : List.Forall₂ (fun _ outcome => outcome.reply.Honest)
            (jobsOf pool.workers (pool.chunksFor (Plan.make batch pool.cache).1.unknown))
            (pool.evaluateUnknown batch trace).1 :=
          forall₂_evaluateJobs settles pool.schedule trace
        obtain ⟨outcome, mem, replied⟩ := exists_of_collect_error collected
        obtain ⟨job, -, fine⟩ := exists_job honest mem
        exact absurd mismatch (fine e replied)
    · rw [evaluateBatch_of_wrong right]

end Pool

/-! ## Servers -/

/-- Errors leave the entries of a server's cache, their order and its settings alone, and an error
about a wrong dimension leaves all alone in states of this kind. -/
structure Server.FailsCleanly {σ : Type} (server : Server σ) (uniform : σ → Prop) : Prop where
  cache : ∀ state request e, (server.serve state request).1 = .error e →
    (server.cache state).Recounted (server.cache (server.serve state request).2)
  mismatch : ∀ state request e, uniform state → (server.serve state request).1 = .error e →
    e.IsMismatch → (server.serve state request).2 = state

/-- **Failed evaluations leave the cache alone.** Whatever fails in an evaluator or a pool, be it
preparing a state, a point, a batch, some chunks of it or the plan: the cache has the same entries
in the same order and the same settings as before. If a point or batch is of a wrong dimension,
nothing is called or counted at all, given that the workers of a pool were told the same
dimensions. -/
theorem failed_evaluations_keep_cache :
    Evaluator.server.FailsCleanly (fun _ => True) ∧
      Pool.server.FailsCleanly fun state =>
        ∀ worker ∈ state.1.workers, worker.session.info = state.1.info := by
  refine ⟨⟨?_, ?_⟩, ⟨?_, ?_⟩⟩
  · rintro ⟨evaluator, trace⟩ (point | batch) e failed
    · exact (Evaluator.failed_evaluate (Reply.map_eq_error_iff.1 failed)).1
    · exact (Evaluator.failed_evaluateBatch (Reply.map_eq_error_iff.1 failed)).1
  · rintro ⟨evaluator, trace⟩ (point | batch) e - failed mismatch
    · exact (Evaluator.failed_evaluate (Reply.map_eq_error_iff.1 failed)).2 mismatch
    · exact (Evaluator.failed_evaluateBatch (Reply.map_eq_error_iff.1 failed)).2 mismatch
  · rintro ⟨pool, trace⟩ (point | batch) e failed
    · exact (Pool.failed_evaluate (Reply.map_eq_error_iff.1 failed)).1
    · exact (Pool.failed_evaluateBatch (Reply.map_eq_error_iff.1 failed)).1
  · rintro ⟨pool, trace⟩ (point | batch) e uniform failed mismatch
    · exact (Pool.failed_evaluate (Reply.map_eq_error_iff.1 failed)).2 mismatch
    · exact (Pool.failed_evaluateBatch (Reply.map_eq_error_iff.1 failed)).2 mismatch uniform

/-- A batch with a point that the function of `choosyBinding` refuses. -/
def refusedBatch : Sample := ⟨1, [[⟨1⟩], [⟨2⟩], [⟨7⟩], [⟨4⟩]], none, by simp⟩

/-- What an evaluation of that batch comes to. -/
def refusal : Error :=
  .wrap "choosy" (.foreignExecution "choosy" "choosy_exec_batch" .executionError "seven")

/-- Of two workers the first one computes its chunk, and the other one is refused. -/
theorem failed_evaluations_keep_cache_choosy :
    ∃ pool after,
      Pool.new choosyBinding 2 (Cache.new 8) .inOrder [] = (.ok pool, after) ∧
      (Pool.server.serve (pool, after) (.batch refusedBatch)).1 = .error refusal ∧
      .called (.inProcess 1) none (.execBatch 0 2 1 [⟨1⟩, ⟨2⟩] 2 4) .returned ∈
        (Pool.server.serve (pool, after) (.batch refusedBatch)).2.2 ∧
      (Cache.new 8).Recounted
        (Pool.server.cache (Pool.server.serve (pool, after) (.batch refusedBatch)).2) := by
  refine ⟨_, _, rfl, ?refused, ?computed, ?kept⟩
  case refused => with_unfolding_all rfl
  case computed => decide +kernel
  case kept =>
    refine failed_evaluations_keep_cache.2.cache _ _ refusal ?_
    with_unfolding_all rfl

end ForeignEval

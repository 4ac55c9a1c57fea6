import ForeignEval.Proofs.Pool.Custody
import ForeignEval.Proofs.Pool.Simulation
import ForeignEval.Proofs.Session.Tally

/-!
# Points handed over by evaluators and pools

An evaluator counts with its session, and a pool with the sessions of all its workers. Whatever a
request comes to, be it answered by the cache, refused by foreign code or failed in some of its
chunks: unless something unwinds, the count keeps up with the trace.

* **Evaluators** — `Evaluator.tallies_serve`.
* **Chunks** — `Pool.tallies_evaluateJobs`, whatever the schedule.
* **Pools** — `Pool.Fit`: no worker is poisoned and each has its state; `Pool.Fit.serve`.
-/

namespace ForeignEval

open Foreign (StateId Trace)
open Foreign.Trace (Tallies)
open Workspace (Request)

variable {ids : List StateId} {trace : Trace}

/-! ## Evaluators -/

namespace Evaluator

variable {evaluator : Evaluator} {request : Request}

/-- **Evaluators**: what an evaluator counts is what its state was handed. -/
theorem tallies_serve (own : evaluator.session.binding.owns evaluator.session.state = true)
    (mem : evaluator.session.id ∈ ids)
    (calm : (server.serve (evaluator, trace) request).1.panic? = none) :
    Tallies ids evaluator.calls (server.serve (evaluator, trace) request).2.1.calls trace
      (server.serve (evaluator, trace) request).2.2 := by
  unfold calls
  obtain ⟨same, still, -⟩ | ⟨asked, same, grown, unwinds⟩ := evaluator.serve_cases trace request
  · rw [same, still]
    exact .refl ids _ trace
  · rw [unwinds] at calm
    rw [same, grown]
    exact Session.tallies_serve trace own mem calm

end Evaluator

/-! ## Chunks -/

/-- A worker that is not poisoned and has one of these states. -/
structure Worker.Fit (ids : List StateId) (worker : Worker) : Prop where
  sane : worker.poisoned = false
  own : worker.session.binding.owns worker.session.state = true
  listed : worker.session.id ∈ ids

/-- A worker that still has its state and is not poisoned. -/
def Worker.Stays (worker later : Worker) : Prop :=
  later.poisoned = false ∧ worker.session.SameOwner later.session

namespace Worker.Fit

variable {worker later : Worker}

theorem stays_self (fit : worker.Fit ids) : worker.Stays worker := ⟨fit.sane, .refl _⟩

theorem of_stays (fit : worker.Fit ids) (stays : worker.Stays later) : later.Fit ids := by
  obtain ⟨sane, same⟩ := stays
  refine ⟨sane, ?_, ?_⟩
  · rw [same.binding, same.state]
    exact fit.own
  · rw [same.id]
    exact fit.listed

theorem forall_of_stays {workers later : List Worker} (fit : ∀ worker ∈ workers, worker.Fit ids)
    (stays : List.Forall₂ Worker.Stays workers later) : ∀ worker ∈ later, worker.Fit ids := by
  induction stays with
  | nil => exact fit
  | cons first _ ih =>
    obtain ⟨here, others⟩ := List.forall_mem_cons.1 fit
    exact List.forall_mem_cons.2 ⟨here.of_stays first, ih others⟩

end Worker.Fit

namespace Pool

/-- How many points some workers have counted. -/
def counted (workers : List Worker) : Nat := (workers.map (·.session.evaluations)).sum

theorem counted_append (workers others : List Worker) :
    counted (workers ++ others) = counted workers + counted others := by
  simp [counted]

variable {function : String}

theorem tallies_evaluateJob {job : Job} (fit : job.worker.Fit ids)
    (calm : (job.evaluate function trace).1.reply.panic? = none) :
    Tallies ids job.worker.session.evaluations
      (job.evaluate function trace).1.worker.session.evaluations trace
      (job.evaluate function trace).2 := by
  unfold Job.evaluate at calm ⊢
  rw [fit.sane, if_neg Bool.false_ne_true] at calm ⊢
  dsimp only at calm ⊢
  rw [session_after]
  have calm' : (job.worker.session.serve (.batch job.chunk) trace).1.panic? = none := by
    unfold Session.serve
    rw [Reply.panic?_map]
    exact calm
  exact Session.tallies_serve trace fit.own fit.listed calm'

/-- One of the workers is counted before the others. -/
theorem counted_middle (before after : List Slot) (slot : Slot) :
    counted ((before ++ slot :: after).map Slot.worker) =
      slot.worker.session.evaluations + counted ((before ++ after).map Slot.worker) := by
  have moved : (before ++ slot :: after).Perm (slot :: (before ++ after)) := List.perm_middle
  exact ((moved.map Slot.worker).map _).sum_nat

theorem Advances.tallies {slots last : List Slot} {later : Trace}
    (advances : Advances function slots trace last later)
    (fit : ∀ job, .waiting job ∈ slots → job.worker.Fit ids)
    (calm : ∀ outcome, .done outcome ∈ last → outcome.reply.panic? = none) :
    Tallies ids (counted (slots.map Slot.worker)) (counted (last.map Slot.worker)) trace later := by
  induction advances with
  | refl => exact .refl ids _ _
  | @turn before after last job trace later rest ih =>
    have ended := rest.mem_done (List.mem_append_right before List.mem_cons_self)
    have here := (tallies_evaluateJob (fit job (by simp)) (calm _ ended)).add
      (counted ((before ++ after).map Slot.worker))
    have others := ih (fun other waits => fit other (mem_of_turn waits nofun)) calm
    rw [counted_middle] at others ⊢
    exact here.trans others

theorem tallies_evaluateJobs (schedule : Schedule) {jobs : List Job}
    (fit : ∀ job ∈ jobs, job.worker.Fit ids)
    (calm : ∀ outcome ∈ (evaluateJobs schedule function jobs trace).1,
      outcome.reply.panic? = none) :
    Tallies ids (counted (jobs.map (·.worker)))
      (counted ((evaluateJobs schedule function jobs trace).1.map (·.worker))) trace
      (evaluateJobs schedule function jobs trace).2 := by
  obtain ⟨slots, later, text, advances, -, same⟩ :=
    evaluateJobs_eq schedule function jobs trace
  rw [same] at calm ⊢
  rw [workers_outcome, ← workers_waiting]
  refine advances.tallies (fun job waits => fit job (by simpa using waits)) fun outcome mem => ?_
  exact calm outcome (List.mem_map.2 ⟨_, mem, rfl⟩)

/-- A job that does not unwind leaves its worker in its place. -/
theorem settles_stays (function : String) {jobs : List Job}
    (fit : ∀ job ∈ jobs, job.worker.Fit ids) :
    Settles function
      (fun job outcome => outcome.reply.panic? = none → job.worker.Stays outcome.worker) jobs where
  evaluated job mem trace := by
    unfold Job.evaluate
    rw [(fit job mem).sane, if_neg Bool.false_ne_true]
    intro calm
    dsimp only at calm ⊢
    rw [after_of_panic?_eq_none _ calm]
    exact ⟨rfl, job.worker.session.sameOwner_evaluateBatch trace job.chunk⟩
  givenUp _ _ _ _ _ _ _ calm := by cases calm

/-- Chunks that come to an answer or an error have not unwound. -/
theorem calm_of_settled {pool : Pool} {plan : Plan} {unknown : Sample} {chunks : List Sample}
    {outcomes : List Outcome}
    (calm : (pool.settled plan (collect unknown chunks outcomes)).1.panic? = none) :
    ∀ outcome ∈ outcomes, outcome.reply.panic? = none := by
  cases first : firstPanic outcomes with
  | none => exact List.findSome?_eq_none_iff.1 first
  | some text =>
    unfold collect at calm
    rw [first] at calm
    cases calm

/-! ## Pools -/

/-- A pool that was told the dimensions by its first worker, with workers of which each is fit. -/
structure Fit (ids : List StateId) (pool : Pool) : Prop where
  told : ∃ first others, pool.workers = first :: others ∧ first.session.info = pool.info
  staff : ∀ worker ∈ pool.workers, worker.Fit ids

/-- A pool whose workers stay in their places. -/
structure Stays (pool later : Pool) : Prop where
  staff : List.Forall₂ Worker.Stays pool.workers later.workers
  info : later.info = pool.info

namespace Fit

variable {pool later : Pool} (fit : pool.Fit ids)

include fit

theorem stays_self : pool.Stays pool where
  staff := List.forall₂_same.2 fun worker mem => (fit.staff worker mem).stays_self
  info := rfl

theorem of_stays (stays : pool.Stays later) : later.Fit ids where
  told := by
    obtain ⟨first, others, staff, told⟩ := fit.told
    have stay := stays.staff
    rw [staff] at stay
    obtain ⟨now, rest, ⟨-, same⟩, -, here⟩ := List.forall₂_cons_left_iff.1 stay
    refine ⟨now, rest, here, ?_⟩
    rw [same.info, told, stays.info]
  staff := Worker.Fit.forall_of_stays fit.staff stays.staff

theorem evaluate {point : Point} (calm : (pool.evaluate point trace).1.panic? = none) :
    pool.Stays (pool.evaluate point trace).2.1 ∧
      Tallies ids (counted pool.workers) (counted (pool.evaluate point trace).2.1.workers) trace
        (pool.evaluate point trace).2.2 := by
  obtain ⟨first, others, staff, -⟩ := fit.told
  obtain ⟨here, rest⟩ := List.forall_mem_cons.1 (staff ▸ fit.staff)
  rw [evaluate_of_cons staff here.sane] at calm ⊢
  rw [after_of_panic?_eq_none _ calm]
  let evaluator : Evaluator := ⟨first.session, pool.cache⟩
  have owner := evaluator.sameOwner_serve trace (.point point)
  have calm' : (Evaluator.server.serve (evaluator, trace) (.point point)).1.panic? = none := by
    rw [← calm]
    exact Reply.panic?_map _ _
  have counts := (Evaluator.tallies_serve here.own here.listed calm').add (counted others)
  refine ⟨⟨?_, rfl⟩, ?_⟩
  · rw [staff]
    exact .cons ⟨rfl, owner⟩ (List.forall₂_same.2 fun worker mem => (rest worker mem).stays_self)
  · rw [staff]
    exact counts

theorem evaluateChunks {chunks : List Sample}
    (calm : ∀ outcome ∈ (pool.evaluateChunks chunks trace).1, outcome.reply.panic? = none) :
    pool.Stays (pool.evaluateChunks chunks trace).2.1 ∧
      Tallies ids (counted pool.workers) (counted (pool.evaluateChunks chunks trace).2.1.workers)
        trace (pool.evaluateChunks chunks trace).2.2 := by
  have busy : ∀ job ∈ jobsOf pool.workers chunks, job.worker.Fit ids :=
    fun job mem => fit.staff job.worker (mem_of_mem_jobsOf mem).1
  have parts := workers_jobsOf pool.workers chunks
  rw [workers_evaluateChunks]
  constructor
  · have settled := forall₂_evaluateJobs (settles_stays pool.function busy) pool.schedule trace
    refine ⟨?_, rfl⟩
    rw [workers_evaluateChunks]
    nth_rewrite 1 [← parts]
    refine List.rel_append ?_ ?_
    · rw [List.forall₂_map_left_iff, List.forall₂_map_right_iff]
      have both := ((List.forall₂_and_left _ _).2 ⟨calm, settled.flip⟩).flip
      exact both.imp fun _ _ ⟨calm, stays⟩ => stays calm
    · exact List.forall₂_same.2 fun worker mem =>
        (fit.staff worker (List.mem_of_mem_drop mem)).stays_self
  · have counts := tallies_evaluateJobs pool.schedule busy calm
    nth_rewrite 1 [← parts]
    rw [counted_append, counted_append]
    exact counts.add _

/-- **Pools**: what the workers of a pool count together is what their states were handed. -/
theorem serve {request : Request} (calm : (server.serve (pool, trace) request).1.panic? = none) :
    pool.Stays (server.serve (pool, trace) request).2.1 ∧
      Tallies ids (counted pool.workers)
        (counted (server.serve (pool, trace) request).2.1.workers) trace
        (server.serve (pool, trace) request).2.2 := by
  cases request with
  | point point =>
    simp only [server, Reply.panic?_map] at calm ⊢
    exact fit.evaluate calm
  | batch batch =>
    simp only [server, Reply.panic?_map] at calm ⊢
    by_cases declared : batch.dimension = pool.info.inputDimension
    · rw [evaluateBatch_eq declared] at calm ⊢
      have looked : Fit ids { pool with cache := (Plan.make batch pool.cache).2 } := ⟨fit.1, fit.2⟩
      obtain ⟨stays, counts⟩ := looked.evaluateChunks (calm_of_settled calm)
      generalize collect _ _ _ = collected
      cases collected with
      | ok | error | panic => exact ⟨⟨stays.staff, stays.info⟩, counts⟩
    · rw [evaluateBatch_of_wrong declared]
      exact ⟨fit.stays_self, .refl ids _ trace⟩

end Fit

/-- The states of a pool. -/
def stateIds (pool : Pool) : List StateId := pool.workers.map (·.session.id)

/-- A new pool is fit, and its states have been handed nothing. -/
theorem fit_new {binding : Binding} {workers : Nat} {cache : Cache} {schedule : Schedule}
    {before after : Trace} {pool : Pool}
    (opened : new binding workers cache schedule before = (.ok pool, after)) :
    pool.Fit pool.stateIds ∧ Tallies pool.stateIds 0 (counted pool.workers) before after := by
  obtain ⟨sessions, found, rfl⟩ := new_ok opened
  obtain ⟨length, fresh, handed⟩ := openSessions_ok
    (P := fun session => session.binding.owns session.state = true ∧ session.evaluations = 0)
    (R := fun before after => ∀ ids, Tallies ids 0 0 before after)
    (fun first => and_assoc.2 (Session.new_ok first))
    (fun trace ids => .refl ids 0 trace) (fun made more ids => (made ids).trans (more ids)) found
  refine ⟨⟨?_, ?_⟩, ?_⟩
  · cases sessions with
    | nil => exact absurd length (by simp; omega)
    | cons session others => exact ⟨_, _, rfl, rfl⟩
  · refine List.forall_mem_map.2 fun session mem => ⟨rfl, (fresh session mem).1, ?_⟩
    exact List.mem_map_of_mem (List.mem_map_of_mem mem)
  · have none : counted (sessions.map (⟨·, false⟩)) = 0 := by
      unfold counted
      rw [List.sum_eq_zero_iff_forall_eq_nat, List.map_map, List.forall_mem_map]
      exact fun session mem => (fresh session mem).2
    rw [none]
    exact handed _

end Pool

end ForeignEval

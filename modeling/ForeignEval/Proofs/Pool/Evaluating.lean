import ForeignEval.Proofs.Pool.Custody
import ForeignEval.Proofs.Pool.Simulation
import ForeignEval.Proofs.Session.Evaluating

/-!
# Pools on functions that evaluate rows

Workers take turns at the trace, but each has a state of its own, and custody tells how far it has
come when it is the worker's turn. On a function that evaluates rows all workers can therefore be
opened, all chunks are answered with the values of their rows, and all workers can be closed.

* **Opening** — `Pool.openSessions_of_custody`.
* **Chunks** — `Pool.forall₂_answers_of_custody`: jobs are answered one by one, whatever the
  schedule, and with them the unknown rows of a batch (`Pool.Shows.answers_of_custody`).
* **Closing** — `Pool.closeSessions_of_custody`.
-/

namespace ForeignEval

open Foreign (Table Trace valued)
open Custody (owners ownersIn)

namespace Pool

variable {binding : Binding} {info : FunctionInfo} {f : Point → Point} {rows : List Point}
  {sessions rest : List Session} {trace : Trace}

/-- A chunk of the rows with a healthy worker for it. -/
structure Job.Suits (binding : Binding) (info : FunctionInfo) (rows : List Point) (job : Job) :
    Prop where
  sane : job.worker.poisoned = false
  healthy : job.worker.session.Healthy binding info
  right : job.chunk.dimension = info.inputDimension
  sub : job.chunk.rows ⊆ rows

variable (evaluates : binding.table.Evaluates info f rows)

include evaluates

/-! ## Opening and closing -/

theorem openSessions_of_custody (custody : Custody none sessions trace) (count : Nat) :
    ∃ opened after, openSessions binding count trace = (opened, none, after) ∧
      opened.length = count ∧
      ∀ session ∈ opened, session.Healthy binding info ∧ session.evaluations = 0 := by
  induction count generalizing sessions trace with
  | zero => exact ⟨[], trace, rfl, rfl, fun _ mem => absurd mem List.not_mem_nil⟩
  | succ count ih =>
    have made := Session.new_of_custody evaluates custody
    have next := custody.new binding
    rw [made] at next
    obtain ⟨opened, after, others, length, healthy⟩ := ih next
    have first : (Session.opened binding (binding.nextId trace).number info).Healthy binding info :=
      ⟨rfl, decide_eq_true rfl, rfl, rfl⟩
    refine ⟨_ :: opened, after, ?_, congrArg (· + 1) length,
      List.forall_mem_cons.2 ⟨⟨first, rfl⟩, healthy⟩⟩
    rw [openSessions, made]
    dsimp only
    rw [others]

theorem closeSessions_of_custody (custody : Custody none (sessions ++ rest) trace)
    (healthy : ∀ session ∈ sessions, session.Healthy binding info) :
    (closeSessions sessions trace).1 = .ok () := by
  induction sessions generalizing trace with
  | nil => rfl
  | cons session sessions ih =>
    obtain ⟨first, others⟩ := List.forall_mem_cons.1 healthy
    have closed := first.close_of_at evaluates (first.at_of_custody custody List.mem_cons_self)
    have later := ih custody.close others
    unfold closeSessions
    dsimp only
    rw [closed, later]
    rfl

/-! ## Chunks -/

theorem answers_of_custody (function : String) {job : Job} (suits : job.Suits binding info rows)
    (custody : Custody none (job.worker.session :: rest) trace) :
    Answers binding info (valued f) job (job.evaluate function trace).1 :=
  answers_evaluate suits.sane
    (suits.healthy.evaluateBatch_of_at (suits.healthy.at_of_custody custody List.mem_cons_self)
      evaluates.together suits.right suits.sub)
    function

/-- Suitable workers answer the chunks whose turn it is. -/
theorem Advances.forall₂_answers {function : String} {jobs : List Job} {slots last : List Slot}
    {later : Trace} (advances : Advances function slots trace last later)
    (suits : ∀ job ∈ jobs, job.Suits binding info rows)
    (custody : Custody none (ownersIn slots ++ rest) trace)
    (held : List.Forall₂ (Slot.Holds (Answers binding info (valued f))) jobs slots) :
    List.Forall₂ (Slot.Holds (Answers binding info (valued f))) jobs last := by
  induction advances with
  | refl => exact held
  | @turn before after last job trace later _ ih =>
    refine ih (custody.turn function) (forall₂_done held fun mem => ?_)
    exact answers_of_custody evaluates function (suits job mem)
      (custody.perm (Custody.perm_ownersIn before after (.waiting job)))

/-- Suitable workers answer their chunks, whatever the schedule. -/
theorem forall₂_answers_of_custody (schedule : Schedule) (function : String) {jobs : List Job}
    (suits : ∀ job ∈ jobs, job.Suits binding info rows)
    (custody : Custody none (owners jobs ++ rest) trace) :
    List.Forall₂ (Answers binding info (valued f)) jobs
      (evaluateJobs schedule function jobs trace).1 := by
  obtain ⟨slots, later, text, advances, ends, same⟩ :=
    evaluateJobs_eq schedule function jobs trace
  rw [← Custody.ownersIn_waiting] at custody
  have held := advances.forall₂_answers evaluates suits custody (forall₂_waiting jobs)
  rw [same]
  refine forall₂_outcome held fun job mem waits => ?_
  -- nothing has unwound for which it could be given up
  obtain ⟨outcome, there, unwound⟩ := ends job waits
  obtain ⟨other, -, answers⟩ := exists_of_done held there
  have calm := panic?_of_rowsReply answers.replied
  rw [unwound] at calm
  cases calm

/-- The workers of a pool answer the unknown rows of a batch. -/
theorem Shows.answers_of_custody {pool : Pool} {memo : Memo}
    (shows : Shows binding info pool memo)
    (custody : Custody none (pool.workers.map (·.session) ++ rest) trace) {batch : Sample}
    (right : batch.dimension = info.inputDimension) (sub : batch.rows ⊆ rows) :
    List.Forall₂ (Answers binding info (valued f))
      (jobsOf pool.workers (pool.chunksFor (Plan.make batch pool.cache).1.unknown))
      (pool.evaluateUnknown batch trace).1 := by
  have unknown := Plan.unknown_subset batch pool.cache
  rw [← Custody.owners_jobsOf pool.workers
    (pool.chunksFor (Plan.make batch pool.cache).1.unknown), List.append_assoc] at custody
  refine forall₂_answers_of_custody evaluates pool.schedule pool.function ?_ custody
  intro job mem
  obtain ⟨worker, chunk⟩ := mem_of_mem_jobsOf mem
  obtain ⟨sane, healthy⟩ := shows.healthy _ worker
  have declared := Sample.dimension_of_mem_chunks chunk
  have part := Sample.subset_of_mem_chunks chunk
  exact ⟨sane, healthy, declared.trans right, fun row mem => sub (unknown (part mem))⟩

end Pool

end ForeignEval

import ForeignEval.Proofs.Pool.Custody
import ForeignEval.Proofs.Session.Lifecycle

/-!
# Attempts to prepare a state

A session prepares its state before the first evaluation. If preparing fails, it is not tried again.
If it unwinds, the session is as it was before, and the next evaluation tries again. So a state sees
attempts that unwind, then at most one that does not, and evaluations only if that one succeeds.

* **Use** — `Server.Run`: any requests, whatever unwinds, with anything else going on in between.
* **Attempts** — `Attempts` are the lives of states in use; `Attempts.retried` and
  `Attempts.evaluated` say when a state is prepared again and when it is evaluated with.
* **Sessions** — `Session.Attempted`: the phase of a session tells how the attempts have ended.
-/

namespace ForeignEval

open Foreign (Call Ending Failure StateId Trace)
open Workspace (Request Value)

/-- What becomes of a system with states of its own while it is in use, whatever unwinds. It serves
requests; its cache is changed by others; and meanwhile things happen that have nothing to do with
its states. -/
inductive Server.Run {σ : Type} (serve : σ × Trace → Request → Reply Value × σ × Trace)
    (recache : σ → Cache → σ) (ids : List StateId) (start : σ × Trace) : σ × Trace → Prop
  | start : Run serve recache ids start start
  | request {now : σ × Trace} (request : Request) (before : Run serve recache ids start now) :
      Run serve recache ids start (serve now request).2
  | recache {now : σ × Trace} (cache : Cache) (before : Run serve recache ids start now) :
      Run serve recache ids start (recache now.1 cache, now.2)
  | elsewhere {now : σ × Trace} (events : Trace) (before : Run serve recache ids start now)
      (apart : ∀ id ∈ ids, events.lifeOf id = []) :
      Run serve recache ids start (now.1, now.2 ++ events)

/-- A session in use; it has no cache. -/
abbrev Session.Run (ids : List StateId) : Session × Trace → Session × Trace → Prop :=
  Server.Run (fun now request => now.1.serve request now.2) (fun session _ => session) ids

/-- An evaluator in use. -/
abbrev Evaluator.Run (ids : List StateId) : Evaluator × Trace → Evaluator × Trace → Prop :=
  Server.Run Evaluator.server.serve (fun evaluator cache => { evaluator with cache }) ids

/-! ## Attempts -/

namespace Foreign

/-- Whether a call evaluates points. -/
def Call.Evaluates : Call → Prop
  | .exec _ _ _ | .execBatch _ _ _ _ _ _ => True
  | _ => False

theorem Call.Fits.evaluates {info : FunctionInfo} {call : Call} (fits : call.Fits info) :
    call.Evaluates := by
  cases call with
  | exec | execBatch => trivial
  | create | info | init | finalize | delete => exact fits.elim

/-- Attempts to prepare a state that all unwound. -/
def Unwound (number : Nat) (made : List (Call × Ending)) : Prop :=
  ∀ entry ∈ made, ∃ text, entry = (.init number, .panicked text)

/-- What is called on a state until it is given up: preparing it, again and again while that unwinds,
and evaluations after that has succeeded. -/
inductive Attempts (number : Nat) : List (Call × Ending) → Prop
  | none : Attempts number []
  | unwound {made : List (Call × Ending)} (text : String) (others : Attempts number made) :
      Attempts number ((.init number, .panicked text) :: made)
  | failed (failure : Failure) : Attempts number [(.init number, .failed failure)]
  | prepared {made : List (Call × Ending)} (evaluations : ∀ entry ∈ made, entry.1.Evaluates) :
      Attempts number ((.init number, .returned) :: made)

namespace Attempts

variable {number : Nat} {made first rest : List (Call × Ending)} {call : Call} {ending : Ending}

theorem append (unwound : Unwound number first) (others : Attempts number made) :
    Attempts number (first ++ made) := by
  induction first with
  | nil => exact others
  | cons entry first ih =>
    obtain ⟨⟨text, rfl⟩, later⟩ := List.forall_mem_cons.1 unwound
    exact .unwound text (ih later)

/-- A state is prepared again only after all attempts before have unwound. -/
theorem retried (attempts : Attempts number (first ++ (.init number, ending) :: rest)) :
    Unwound number first := by
  induction first with
  | nil => simp [Unwound]
  | cons entry first ih =>
    rw [List.cons_append] at attempts
    generalize same : first ++ (.init number, ending) :: rest = others at attempts ih
    cases attempts with
    | unwound text attempts => exact List.forall_mem_cons.2 ⟨⟨text, rfl⟩, ih attempts⟩
    | failed failure => simp at same
    | prepared evaluations =>
      -- preparing is not among the evaluations
      subst same
      exact (evaluations (.init number, ending) (by simp)).elim

/-- A state is evaluated with only after an attempt has succeeded. -/
theorem evaluated (attempts : Attempts number (first ++ (call, ending) :: rest))
    (other : call ≠ .init number) : (.init number, .returned) ∈ first := by
  induction first with
  | nil =>
    cases attempts with
    | unwound | failed | prepared => exact absurd rfl other
  | cons entry first ih =>
    rw [List.cons_append] at attempts
    generalize same : first ++ (call, ending) :: rest = others at attempts ih
    cases attempts with
    | unwound text attempts => exact List.mem_cons_of_mem _ (ih attempts)
    | failed failure => simp at same
    | prepared evaluations => exact List.mem_cons_self

/-- How often a state was to be prepared. -/
def count (number : Nat) (made : List (Call × Ending)) : Nat :=
  made.countP fun entry => entry.1 = .init number

theorem count_of_evaluates (evaluations : ∀ entry ∈ made, entry.1.Evaluates) :
    count number made = 0 := by
  unfold count
  rw [List.countP_eq_zero]
  intro entry mem init
  have evaluates := evaluations entry mem
  rw [of_decide_eq_true init] at evaluates
  exact evaluates.elim

/-- A state is prepared at most once exactly when nothing is called after an attempt that unwound. -/
theorem count_le_one_iff (attempts : Attempts number made) :
    count number made ≤ 1 ↔
      ∀ first text rest, made = first ++ (.init number, .panicked text) :: rest → rest = [] := by
  constructor
  · rintro once first text rest rfl
    cases rest with
    | nil => rfl
    | cons entry rest =>
      obtain ⟨call, ending⟩ := entry
      by_cases again : call = .init number
      · subst again
        simp [count, List.countP_append] at once
        omega
      · -- a success before the evaluation would be one before the attempt as well
        have split : first ++ (.init number, .panicked text) :: (call, ending) :: rest =
            (first ++ [(.init number, .panicked text)]) ++ (call, ending) :: rest := by simp
        have success := evaluated (split ▸ attempts) again
        have before : (.init number, .returned) ∈ first := by simpa using success
        obtain ⟨text', same⟩ := attempts.retried _ before
        cases same
  · intro last
    cases attempts with
    | none => simp [count]
    | unwound text others =>
      rw [last [] text _ rfl]
      simp [count]
    | failed failure => simp [count]
    | prepared evaluations =>
      have none : count number _ = 0 := count_of_evaluates evaluations
      unfold count at none ⊢
      simp [none]

end Attempts

end Foreign

open Foreign (Attempts Unwound)

/-! ## Sessions -/

namespace Session

variable {session : Session} {number : Nat} {made more : List (Call × Ending)}
  {phase next : Phase} {opened : Trace} {now : Session × Trace}

/-- An attempt has succeeded, and the state has been evaluated with since. -/
def Prepared (number : Nat) (made : List (Call × Ending)) : Prop :=
  ∃ tries evaluations, made = tries ++ (.init number, .returned) :: evaluations ∧
    Unwound number tries ∧ ∀ entry ∈ evaluations, entry.1.Evaluates

/-- What has been called on the state of a session, by its phase. -/
def Attempted (number : Nat) (made : List (Call × Ending)) : Phase → Prop
  | .created => Unwound number made
  | .failed _ => ∃ tries failure, made = tries ++ [(.init number, .failed failure)] ∧
      Unwound number tries
  | .ready | .corrupted _ => Prepared number made

namespace Attempted

theorem attempts (attempted : Attempted number made phase) : Attempts number made := by
  cases phase with
  | created =>
    rw [← List.append_nil made]
    exact .append attempted .none
  | failed reason =>
    obtain ⟨tries, failure, rfl, unwound⟩ := attempted
    exact .append unwound (.failed failure)
  | ready | corrupted =>
    obtain ⟨tries, evaluations, rfl, unwound, evaluates⟩ := attempted
    exact .append unwound (.prepared evaluates)

/-- However an evaluation ends, the state stays prepared. -/
theorem after (prepared : Prepared number made) (ending : Ending) :
    Attempted number made (.after ending) := by
  unfold Phase.after
  split
  · exact prepared
  · exact prepared

/-- What a session does next goes with its phase. -/
theorem progress {binding : Binding} {call : Call} (attempted : Attempted number made phase)
    (evaluates : call.Evaluates) (progress : Progress binding number call phase more next) :
    Attempted number (made ++ more) next := by
  cases progress with
  | refused =>
    rw [List.append_nil]
    exact attempted
  | spoiled failure => exact ⟨made, failure, rfl, attempted⟩
  | interrupted text =>
    intro entry mem
    rcases List.mem_append.1 mem with old | new
    · exact attempted entry old
    · exact ⟨text, List.mem_singleton.1 new⟩
  | prepared ending =>
    exact after ⟨made, [(call, ending)], rfl, attempted, by simpa using evaluates⟩ ending
  | evaluated ending =>
    obtain ⟨tries, evaluations, rfl, unwound, others⟩ := attempted
    refine after ⟨tries, evaluations ++ [(call, ending)], by simp, unwound, ?_⟩ ending
    intro entry mem
    rcases List.mem_append.1 mem with old | new
    · exact others entry old
    · rw [List.mem_singleton.1 new]
      exact evaluates

end Attempted

/-- A session at a later moment, with what has been called on its state since it was opened. -/
structure Watched (session : Session) (opened : Trace) (now : Session × Trace) : Prop where
  own : session.binding.owns session.state = true
  same : SameOwner session now.1
  life : ∃ events, now.2 = opened ++ events ∧
    Attempted session.state.number (events.lifeOf session.id) now.1.phase

namespace Watched

theorem opening {binding : Binding} {before : Trace}
    (opens : Session.new binding before = (.ok session, opened)) :
    Watched session opened (session, opened) := by
  obtain ⟨info, rfl, rfl⟩ := new_eq_ok opens
  refine ⟨owns_opened _ _ _, .refl _, [], by simp, ?_⟩
  simp [Session.opened, Attempted, Unwound, Trace.lifeOf]

theorem serve (watched : Watched session opened now) (request : Request) :
    Watched session opened (now.1.serve request now.2).2 := by
  obtain ⟨own, same, events, grown, attempted⟩ := watched
  cases due : now.1.due request with
  | none =>
    rw [serve_of_none due]
    exact ⟨own, same, events, grown, attempted⟩
  | some call =>
    have still : now.1.binding.owns now.1.state = true := by
      rw [same.binding, same.state]
      exact own
    obtain ⟨more, progress, made, -⟩ := progress_serve still due now.2
    obtain ⟨state, fits⟩ := fits_of_due due
    have ours : Trace.lifeOf (now.1.binding.table.events more) session.id = more := by
      rw [← same.id]
      exact Trace.lifeOf_events (progress.run state fits).forall_state
    refine ⟨own, same.trans (sameOwner_serve request now.2),
      events ++ now.1.binding.table.events more, ?_, ?_⟩
    · rw [made, grown, List.append_assoc]
    · rw [Trace.lifeOf_append, ours]
      rw [same.state] at progress
      exact attempted.progress fits.evaluates progress

theorem elsewhere (watched : Watched session opened now) {events : Trace}
    (apart : events.lifeOf session.id = []) :
    Watched session opened (now.1, now.2 ++ events) := by
  obtain ⟨own, same, before, grown, attempted⟩ := watched
  refine ⟨own, same, before ++ events, ?_, ?_⟩
  · rw [grown, List.append_assoc]
  · rw [Trace.lifeOf_append, apart, List.append_nil]
    exact attempted

theorem run {start : Session × Trace} (watched : Watched session opened start)
    (run : Session.Run [session.id] start now) : Watched session opened now := by
  induction run with
  | start => exact watched
  | request request _ ih => exact ih.serve request
  | recache _ _ ih => exact ih
  | elsewhere events _ apart ih => exact ih.elsewhere (apart session.id (by simp))

/-- The session of an evaluator is used by it and by nobody else. -/
theorem evaluator {cache : Cache} {later : Evaluator × Trace} (watched : Watched session opened now)
    (run : Evaluator.Run [session.id] (⟨now.1, cache⟩, now.2) later) :
    Watched session opened (later.1.session, later.2) := by
  induction run with
  | start => exact watched
  | @request now request _ ih =>
    rcases now.1.serve_cases now.2 request with ⟨same, still, -⟩ | ⟨asked, same, grown, -⟩
    · rw [same, still]
      exact ih
    · rw [same, grown]
      exact ih.serve asked
  | recache _ _ ih => exact ih
  | elsewhere events _ apart ih => exact ih.elsewhere (apart session.id (by simp))

end Watched

end Session

/-! ## Retries -/

/-- Until a state is given up, it is prepared again only after all attempts before have unwound, and
it is evaluated with only after one has succeeded. It is prepared at most once exactly when nothing
is called on it after an attempt that unwound. -/
structure Foreign.Retried (number : Nat) (made : List (Call × Ending)) : Prop where
  again : ∀ first ending rest, made = first ++ (.init number, ending) :: rest →
    Unwound number first
  evaluated : ∀ first call ending rest, made = first ++ (call, ending) :: rest →
    call ≠ .init number → (.init number, .returned) ∈ first
  once_iff : Attempts.count number made ≤ 1 ↔
    ∀ first text rest, made = first ++ (.init number, .panicked text) :: rest → rest = []

theorem Foreign.Attempts.law {number : Nat} {made : List (Call × Ending)}
    (attempts : Attempts number made) : Retried number made where
  again _ _ _ same := (same ▸ attempts).retried
  evaluated _ _ _ _ same := (same ▸ attempts).evaluated
  once_iff := attempts.count_le_one_iff

/-- **Preparing is tried again only after it unwound.** A session is opened, used by itself and then
by an evaluator with any cache, whatever unwinds in the meantime. At every moment, what has been
called on its state is attempts to prepare it that unwound, then perhaps one that did not, and
evaluations only if that one succeeded. -/
theorem init_retried_only_after_unwinding {binding : Binding} {before opened : Trace}
    {session : Session} (opens : Session.new binding before = (.ok session, opened))
    {used : Session × Trace} (alone : Session.Run [session.id] (session, opened) used) :
    (∃ events, used.2 = opened ++ events ∧
      Foreign.Retried session.state.number (events.lifeOf session.id)) ∧
    ∀ (cache : Cache) (now : Evaluator × Trace),
      Evaluator.Run [session.id] (⟨used.1, cache⟩, used.2) now →
      ∃ events, now.2 = opened ++ events ∧
        Foreign.Retried session.state.number (events.lifeOf session.id) := by
  have watched := (Session.Watched.opening opens).run alone
  constructor
  · obtain ⟨events, grown, attempted⟩ := watched.life
    exact ⟨events, grown, attempted.attempts.law⟩
  · intro cache now run
    have later : session.Watched opened (now.1.session, now.2) := watched.evaluator run
    obtain ⟨events, grown, attempted⟩ := later.life
    exact ⟨events, grown, attempted.attempts.law⟩

/-- A function that unwinds whenever a state of it is to be prepared. -/
def skittishBinding : Binding :=
  .ofTable 1 "skittish" (Foreign.Script.table
    { Foreign.Script.standard with init := [some (.panic "unprepared")] } (.inProcess 1))

/-- A session of that function is asked for a point, and then an evaluator for another one. -/
theorem init_retried_only_after_unwinding_skittish :
    ∃ session opened now,
      Session.new skittishBinding [] = (.ok session, opened) ∧
      (Evaluator.server.serve (⟨(session.serve (.point [⟨1⟩]) opened).2.1, Cache.new 8⟩,
        (session.serve (.point [⟨1⟩]) opened).2.2) (.point [⟨2⟩])).2 = now ∧
      ∃ events, now.2 = opened ++ events ∧
        Foreign.Retried session.state.number (events.lifeOf session.id) := by
  have opens : Session.new skittishBinding [] = (.ok _, _) := rfl
  refine ⟨_, _, _, opens, rfl, ?_⟩
  exact (init_retried_only_after_unwinding opens (.request (.point [⟨1⟩]) .start)).2 (Cache.new 8) _
    (.request (.point [⟨2⟩]) .start)

/-- That state was to be prepared twice. -/
theorem init_called_twice :
    ∃ session opened, Session.new skittishBinding [] = (.ok session, opened) ∧
      Attempts.count session.state.number
        ((session.serveAll [⟨[], .point [⟨1⟩]⟩, ⟨[], .point [⟨1⟩]⟩] opened).2.2.lifeOf session.id) =
        2 := by
  refine ⟨_, _, rfl, ?_⟩
  decide +kernel

end ForeignEval

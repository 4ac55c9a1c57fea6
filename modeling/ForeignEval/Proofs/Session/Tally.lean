import ForeignEval.Proofs.Session.Custody
import Mathlib.Algebra.GroupWithZero.Nat

/-!
# Points handed over

The trace shows how many points are handed over to a state: one with each call for a point, and as
many as there are rows with each call for a batch. A session counts them too. However its
evaluations end, short of unwinding, the two numbers grow by the same amount.

* **Traces** — `Trace.handed` counts, and `Trace.Tallies` compares a counter with a trace.
* **Sessions** — `Session.tallies_serve`; `Session.new_ok` for a session that was just opened.
-/

namespace ForeignEval

open Foreign (Call Ending Event EntryPoint Stage StateId Table Trace)
open Workspace (Request Value)

/-! ## Traces -/

namespace Foreign

/-- How many points a call hands over. -/
def Call.handed : Call → Nat
  | exec _ _ _ => 1
  | execBatch _ rows _ _ _ _ => rows
  | _ => 0

/-- How many points an event hands over to one of these states. -/
def Event.handed (ids : List StateId) : Event → Nat
  | called source library call _ => if ⟨source, library, call.state⟩ ∈ ids then call.handed else 0
  | _ => 0

namespace Trace

/-- How many points are handed over to these states in a trace. -/
def handed (trace : Trace) (ids : List StateId) : Nat := (trace.map (Event.handed ids)).sum

variable {ids : List StateId} {before middle after : Trace} {table : Table}

theorem handed_append (before after : Trace) (ids : List StateId) :
    handed (before ++ after) ids = before.handed ids + after.handed ids := by
  simp [handed]

theorem handed_call (call : Call) (ending : Ending) (mem : table.idOf call.state ∈ ids) :
    handed (table.events [(call, ending)]) ids = call.handed := by
  unfold Table.idOf at mem
  simp [handed, Event.handed, mem]

theorem handed_of_silent {made : List (Call × Ending)}
    (silent : ∀ entry ∈ made, entry.1.handed = 0) : handed (table.events made) ids = 0 := by
  induction made with
  | nil => rfl
  | cons entry made ih =>
    obtain ⟨first, others⟩ := List.forall_mem_cons.1 silent
    have rest := ih others
    simp only [handed] at rest
    simp [handed, Event.handed, first, rest]

/-- A counter has kept up with a trace: both have grown by as many points. -/
def Tallies (ids : List StateId) (count later : Nat) (before after : Trace) : Prop :=
  ∃ events : Trace, after = before ++ events ∧ later = count + events.handed ids

protected theorem Tallies.refl (ids : List StateId) (count : Nat) (trace : Trace) :
    Tallies ids count count trace trace :=
  ⟨[], (List.append_nil trace).symm, rfl⟩

theorem Tallies.trans {count middling later : Nat}
    (first : Tallies ids count middling before middle)
    (second : Tallies ids middling later middle after) : Tallies ids count later before after := by
  obtain ⟨events, rfl, counted⟩ := first
  obtain ⟨more, rfl, counted'⟩ := second
  refine ⟨events ++ more, List.append_assoc _ _ _, ?_⟩
  rw [handed_append]
  omega

theorem Tallies.append_silent {count later : Nat} {events : Trace}
    (tallies : Tallies ids count later before after) (silent : events.handed ids = 0) :
    Tallies ids count later before (after ++ events) :=
  tallies.trans ⟨events, rfl, by rw [silent, Nat.add_zero]⟩

/-- What others have counted is added to both sides. -/
theorem Tallies.add {count later : Nat} (tallies : Tallies ids count later before after)
    (others : Nat) : Tallies ids (count + others) (later + others) before after := by
  obtain ⟨events, grown, counted⟩ := tallies
  exact ⟨events, grown, by omega⟩

end Trace

end Foreign

/-! ## Sessions -/

namespace Session

variable {session : Session} {ids : List StateId} {call : Call} {points : Nat} (trace : Trace)

theorem tallies_prepare (session : Session) (ids : List StateId) :
    Trace.Tallies ids session.evaluations (session.prepare trace).2.1.evaluations trace
      (session.prepare trace).2.2 := by
  obtain ⟨made, some, grown⟩ := session.extends_prepare trace
  have silent : ∀ entry ∈ made, entry.1.handed = 0 := by
    intro entry mem
    have init := some.subset (List.mem_map_of_mem mem)
    rw [List.mem_singleton.1 init]
    rfl
  have kept : (session.prepare trace).2.1.evaluations = session.evaluations := by
    unfold prepare
    split
    · rfl
    · rfl
    · rfl
    · split <;> rfl
  refine ⟨session.binding.table.events made, grown, ?_⟩
  rw [kept, Trace.handed_of_silent silent, Nat.add_zero]

theorem evaluations_conclude {α : Type} {reply : Reply α}
    (calm : (session.conclude points reply).1.panic? = none) :
    (session.conclude points reply).2.evaluations = session.evaluations + points := by
  cases reply with
  | ok | error => rfl
  | panic => cases calm

/-- An evaluation that does not unwind counts the points of its call if it makes the call, and
none otherwise. -/
theorem tallies_evaluateWith {α : Type} (entry : EntryPoint)
    {make : Session → Trace → Reply α × Trace} (mem : session.id ∈ ids)
    (own : call.state = session.state.number) (handed : call.handed = points)
    (makes : ∀ ready later, SameOwner session ready →
      session.binding.Makes entry call later (make ready later))
    (calm : (session.evaluateWith points make trace).1.panic? = none) :
    Trace.Tallies ids session.evaluations
      (session.evaluateWith points make trace).2.1.evaluations trace
      (session.evaluateWith points make trace).2.2 := by
  have first := session.tallies_prepare trace ids
  have owner := session.sameOwner_prepare trace
  obtain ⟨ready, later, prepared, same⟩ | ⟨-, same⟩ :=
    session.evaluateWith_cases trace points make
  · rw [prepared] at first owner
    rw [same] at calm ⊢
    obtain ⟨ending, -, grown, -⟩ := makes ready later owner
    refine first.trans ⟨session.binding.table.events [(call, ending)], grown, ?_⟩
    have here : session.binding.table.idOf call.state ∈ ids := by
      rw [own]
      exact mem
    rw [evaluations_conclude calm, Trace.handed_call call ending here, handed]
  · -- the call was not reached
    rw [same]
    exact first

/-- **Sessions**: what a session counts is what its state was handed. -/
theorem tallies_serve (own : session.binding.owns session.state = true) (mem : session.id ∈ ids)
    {request : Request} (calm : (session.serve request trace).1.panic? = none) :
    Trace.Tallies ids session.evaluations (session.serve request trace).2.1.evaluations trace
      (session.serve request trace).2.2 := by
  cases due : session.due request with
  | none =>
    rw [serve_of_none due]
    exact .refl ids _ trace
  | some call =>
    obtain ⟨number, -⟩ := fits_of_due due
    cases request with
    | point point =>
      simp only [Session.due, Option.ite_none_right_eq_some, Option.some.injEq] at due
      obtain ⟨right, rfl⟩ := due
      simp only [serve, Reply.panic?_map, session.evaluate_of_length trace right] at calm ⊢
      refine tallies_evaluateWith trace .exec mem number rfl (fun ready later owner => ?_) calm
      rw [← owner.binding, ← owner.state] at own
      rw [← owner.binding, ← owner.state, ← owner.info]
      exact ready.binding.makes_execute own later point ready.info.outputDimension
    | batch batch =>
      simp only [Session.due, Option.ite_none_right_eq_some, Option.some.injEq] at due
      obtain ⟨⟨right, rows⟩, rfl⟩ := due
      have full : ¬batch.isEmpty = true := fun empty => rows (List.isEmpty_iff.1 empty)
      simp only [serve, Reply.panic?_map, session.evaluateBatch_of_rows trace right full,
        evaluateRows] at calm ⊢
      refine tallies_evaluateWith trace .execBatch mem number rfl (fun ready later owner => ?_) calm
      rw [← owner.binding, ← owner.state] at own
      unfold batchCall
      rw [← owner.binding, ← owner.state, ← owner.info]
      exact ready.binding.makes_executeBatch own later batch ready.info.outputDimension

variable {trace}

/-- A session that was just opened has its own state, which was handed nothing. -/
theorem new_ok {binding : Binding} {opened : Trace}
    (ok : new binding trace = (.ok session, opened)) :
    session.binding.owns session.state = true ∧ session.evaluations = 0 ∧
      ∀ ids, Trace.Tallies ids 0 0 trace opened := by
  obtain ⟨info, rfl, rfl⟩ := new_eq_ok ok
  refine ⟨owns_opened _ _ _, rfl, fun ids => ⟨_, rfl, ?_⟩⟩
  rw [Trace.handed_of_silent (by simp [Stage.opening, Call.handed])]

end Session

end ForeignEval

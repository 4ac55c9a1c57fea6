import ForeignEval.Proofs.Session.Progress
import Mathlib.Data.List.Nodup

/-!
# Who answers for which state

A state is in the **custody** of the session that owns it: how far the state has come is what the
session's phase says. A state that no session owns was never made, or nothing is left of it. For a
while a state may be in transit, between the sessions before and after something was called on it.

* **Transit** — `Custody.setAside` and `Custody.reserve` take a state out of custody,
  `Custody.grow` is what is called on it, `Custody.takeBack` and `Custody.release` end the transit.
* **Sessions** — `Custody.serve`, `Custody.close` and `Custody.new`.
-/

namespace ForeignEval

open Foreign (Call Ending Event Failure Stage StateId Table Trace)
open Workspace (Request Value)

/-- The state that a session owns. -/
def Session.id (session : Session) : StateId := session.binding.table.idOf session.state.number

theorem Session.SameOwner.id {session later : Session} (same : SameOwner session later) :
    later.id = session.id := by
  unfold Session.id
  rw [same.binding, same.state]

/-- All states are in the custody of these sessions, but for one in transit. -/
structure Custody (transit : Option StateId) (sessions : List Session) (trace : Trace) : Prop where
  owned : ∀ session ∈ sessions, session.binding.owns session.state = true
  /-- The phases tell how far the states have come. -/
  held : ∀ session ∈ sessions, Stage.Run session.state.number .unborn (trace.lifeOf session.id)
    (session.phase.stage session.info)
  distinct : (transit.toList ++ sessions.map Session.id).Nodup
  /-- Nothing is left of other states. -/
  settled : ∀ id ∉ transit.toList ++ sessions.map Session.id,
    ∃ stage : Stage, stage.IsSettled ∧ Stage.Run id.number .unborn (trace.lifeOf id) stage
  /-- Numbers are given out in order. -/
  numbered : ∀ id ∉ transit.toList, trace.created id.source ≤ id.number → trace.lifeOf id = []

namespace Custody

variable {sessions rest : List Session} {session : Session} {trace : Trace} {id : StateId}

/-- Before anything happens there are no states. -/
protected theorem nil : Custody none [] [] where
  owned := by simp
  held := by simp
  distinct := by simp
  settled := fun _ _ => ⟨.unborn, trivial, rfl⟩
  numbered := fun _ _ _ => rfl

theorem perm (custody : Custody none sessions trace) (same : sessions.Perm rest) :
    Custody none rest trace where
  owned session mem := custody.owned session (same.mem_iff.2 mem)
  held session mem := custody.held session (same.mem_iff.2 mem)
  distinct := (same.map _).nodup_iff.1 custody.distinct
  settled id other := custody.settled id fun mem => other ((same.map _).mem_iff.1 mem)
  numbered := custody.numbered

/-- A state that a session owns has a number that was given out. -/
theorem number_lt (custody : Custody none sessions trace) (mem : session ∈ sessions) :
    session.state.number < trace.created session.binding.table.source := by
  -- otherwise nothing was called on it, but every phase has been reached by a call
  by_contra high
  have held := custody.held session mem
  rw [custody.numbered session.id (by simp) (Nat.le_of_not_lt high), Stage.run_nil] at held
  cases phase : session.phase with
  | created | ready | failed | corrupted =>
    rw [phase] at held
    cases held

/-! ## Transit -/

theorem setAside (custody : Custody none (session :: sessions) trace) :
    Custody (some session.id) sessions trace where
  owned other mem := custody.owned other (List.mem_cons_of_mem _ mem)
  held other mem := custody.held other (List.mem_cons_of_mem _ mem)
  distinct := custody.distinct
  settled := custody.settled
  numbered id _ := custody.numbered id (by simp)

/-- The state that a binding makes next belongs to no session. -/
theorem reserve (custody : Custody none sessions trace) (binding : Binding) :
    Custody (some (binding.nextId trace)) sessions trace where
  owned := custody.owned
  held := custody.held
  distinct := by
    refine List.nodup_cons.2 ⟨fun mem => ?_, custody.distinct⟩
    obtain ⟨session, there, same⟩ := List.mem_map.1 mem
    -- the numbers of states in custody have been given out, and the next one has not
    have low := custody.number_lt there
    have source : session.id.source = binding.table.source := congrArg StateId.source same
    have number : session.id.number = trace.created binding.table.source :=
      congrArg StateId.number same
    change session.id.number < trace.created session.id.source at low
    rw [source, number] at low
    exact Nat.lt_irrefl _ low
  settled id other := custody.settled id fun mem => other (List.mem_cons_of_mem _ mem)
  numbered id _ := custody.numbered id (by simp)

section Growth

variable {table : Table} {number : Nat} {made : List (Call × Ending)}

/-- What is called on a state in transit does not matter to the others. -/
theorem grow (custody : Custody (some (table.idOf number)) sessions trace)
    (own : ∀ entry ∈ made, entry.1.state = number) :
    Custody (some (table.idOf number)) sessions (trace ++ table.events made) where
  owned := custody.owned
  held session mem := by
    have other : session.id ≠ table.idOf number := by
      intro same
      refine (List.nodup_cons.1 custody.distinct).1 ?_
      rw [← same]
      exact List.mem_map_of_mem mem
    rw [Trace.lifeOf_append_events_of_ne trace own other]
    exact custody.held session mem
  distinct := custody.distinct
  settled id other := by
    have apart : id ≠ table.idOf number := by
      rintro rfl
      exact other List.mem_cons_self
    rw [Trace.lifeOf_append_events_of_ne trace own apart]
    exact custody.settled id other
  numbered id other high := by
    have apart : id ≠ table.idOf number := by
      rintro rfl
      exact other List.mem_cons_self
    rw [Trace.lifeOf_append_events_of_ne trace own apart]
    exact custody.numbered id other (Nat.le_trans (Trace.created_le_append _ _ _) high)

end Growth

/-- A session takes a state over. -/
theorem takeBack (custody : Custody (some session.id) sessions trace)
    (owned : session.binding.owns session.state = true)
    (held : Stage.Run session.state.number .unborn (trace.lifeOf session.id)
      (session.phase.stage session.info))
    (low : session.state.number < trace.created session.binding.table.source) :
    Custody none (session :: sessions) trace where
  owned := List.forall_mem_cons.2 ⟨owned, custody.owned⟩
  held := List.forall_mem_cons.2 ⟨held, custody.held⟩
  distinct := custody.distinct
  settled := custody.settled
  numbered id _ high := by
    by_cases same : id = session.id
    · rw [same] at high
      exact absurd low (Nat.not_lt.2 high)
    · exact custody.numbered id (by simpa using same) high

/-- Nothing is left of a state. -/
theorem release (custody : Custody (some id) sessions trace) {stage : Stage}
    (settled : stage.IsSettled) (run : Stage.Run id.number .unborn (trace.lifeOf id) stage)
    (low : id.number < trace.created id.source) : Custody none sessions trace where
  owned := custody.owned
  held := custody.held
  distinct := (List.nodup_cons.1 custody.distinct).2
  settled other apart := by
    by_cases same : other = id
    · rw [same]
      exact ⟨stage, settled, run⟩
    · refine custody.settled other fun mem => ?_
      rcases List.mem_cons.1 mem with here | there
      · exact same here
      · exact apart there
  numbered other _ high := by
    by_cases same : other = id
    · rw [same] at high
      exact absurd low (Nat.not_lt.2 high)
    · exact custody.numbered other (by simpa using same) high

/-! ## Sessions -/

section Sessions

variable {made : List (Call × Ending)}

theorem held_append {stage : Stage} (custody : Custody none (session :: sessions) trace)
    (run : Stage.Run session.state.number (session.phase.stage session.info) made stage) :
    Stage.Run session.state.number .unborn
      (Trace.lifeOf (trace ++ session.binding.table.events made) session.id) stage := by
  have life : Trace.lifeOf (trace ++ session.binding.table.events made) session.id =
      trace.lifeOf session.id ++ made := Trace.lifeOf_append_events trace run.forall_state
  rw [life]
  exact (custody.held session List.mem_cons_self).append run

theorem advance {later : Session} (custody : Custody none (session :: sessions) trace)
    (same : Session.SameOwner session later)
    (run : Stage.Run session.state.number (session.phase.stage session.info) made
      (later.phase.stage session.info)) :
    Custody none (later :: sessions) (trace ++ session.binding.table.events made) := by
  have grown : Custody (some later.id) sessions (trace ++ session.binding.table.events made) := by
    rw [same.id]
    exact custody.setAside.grow run.forall_state
  refine grown.takeBack ?_ ?_ ?_
  · rw [same.binding, same.state]
    exact custody.owned session List.mem_cons_self
  · rw [same.id, same.state, same.info]
    exact custody.held_append run
  · rw [same.binding, same.state]
    exact Nat.lt_of_lt_of_le (custody.number_lt List.mem_cons_self)
      (Trace.created_le_append _ _ _)

theorem retire (custody : Custody none (session :: sessions) trace) {stage : Stage}
    (run : Stage.Run session.state.number (session.phase.stage session.info) made stage)
    (settled : stage.IsSettled) :
    Custody none sessions (trace ++ session.binding.table.events made) :=
  (custody.setAside.grow run.forall_state).release settled (custody.held_append run)
    (Nat.lt_of_lt_of_le (custody.number_lt List.mem_cons_self) (Trace.created_le_append _ _ _))

/-- Serving a request keeps the custody of the session. -/
theorem serve (custody : Custody none (session :: sessions) trace) (request : Request) :
    Custody none ((session.serve request trace).2.1 :: sessions)
      (session.serve request trace).2.2 := by
  have owned := custody.owned session List.mem_cons_self
  cases due : session.due request with
  | none =>
    rw [Session.serve_of_none due]
    exact custody
  | some call =>
    obtain ⟨made, progress, grown, -⟩ := Session.progress_serve owned due trace
    obtain ⟨own, fits⟩ := Session.fits_of_due due
    rw [grown]
    exact custody.advance (Session.sameOwner_serve request trace) (progress.run own fits)

theorem evaluate (custody : Custody none (session :: sessions) trace) (point : Point) :
    Custody none ((session.evaluate point trace).2.1 :: sessions)
      (session.evaluate point trace).2.2 :=
  custody.serve (.point point)

theorem evaluateBatch (custody : Custody none (session :: sessions) trace) (batch : Sample) :
    Custody none ((session.evaluateBatch batch trace).2.1 :: sessions)
      (session.evaluateBatch batch trace).2.2 :=
  custody.serve (.batch batch)

/-- Closing a session leaves nothing of its state. -/
theorem close (custody : Custody none (session :: sessions) trace) :
    Custody none sessions (session.close trace).2 := by
  have owned := custody.owned session List.mem_cons_self
  obtain ⟨answer, closed⟩ := Session.shutDown_cases owned trace
  unfold Session.close
  rw [closed]
  exact custody.retire (Session.run_ending (Phase.isOpen_stage _ _) answer) trivial

/-- What is called on a state that has just been reserved is its whole life. -/
theorem grow_reserved (custody : Custody none sessions trace) (binding : Binding) {stage : Stage}
    (run : Stage.Run (binding.nextId trace).number .unborn made stage) :
    Custody (some (binding.nextId trace)) sessions (trace ++ binding.table.events made) ∧
      Stage.Run (binding.nextId trace).number .unborn
        (Trace.lifeOf (trace ++ binding.table.events made) (binding.nextId trace)) stage := by
  refine ⟨(custody.reserve binding).grow run.forall_state, ?_⟩
  have life : Trace.lifeOf (trace ++ binding.table.events made) (binding.nextId trace) =
      trace.lifeOf (binding.nextId trace) ++ made :=
    Trace.lifeOf_append_events trace run.forall_state
  rw [life, custody.numbered _ (by simp) (Nat.le_refl _)]
  exact run

/-- Nothing is left of a state that was asked for. -/
theorem dismiss (custody : Custody none sessions trace) (binding : Binding) {ending : Ending}
    {stage : Stage} (settled : stage.IsSettled)
    (run : Stage.Run (binding.nextId trace).number .unborn
      ((.create (binding.nextId trace).number, ending) :: made) stage) :
    Custody none sessions (trace ++ binding.table.events
      ((.create (binding.nextId trace).number, ending) :: made)) := by
  obtain ⟨grown, life⟩ := custody.grow_reserved binding run
  exact grown.release settled life (Trace.created_lt_append_events trace)

/-- Opening a session takes a new state into custody, or leaves nothing of it. -/
theorem new (custody : Custody none sessions trace) (binding : Binding) :
    Custody none ((Session.new binding trace).1.toOption.toList ++ sessions)
      (Session.new binding trace).2 := by
  rcases Session.new_cases binding trace with
    ⟨failure, refused⟩ | ⟨failure, answer, refused⟩ | ⟨info, made⟩
  · rw [refused]
    have settled : Stage.denied.IsSettled := trivial
    exact custody.dismiss binding settled (Stage.Step.deny failure).run
  · rw [refused]
    have settled : Stage.freed.IsSettled := trivial
    have isOpen : Stage.mute.IsOpen := trivial
    exact custody.dismiss binding settled
      ⟨_, .create, _, .keepMute failure, Session.run_ending isOpen answer⟩
  · rw [made]
    have run : Stage.Run (binding.nextId trace).number .unborn
        (Stage.opening (binding.nextId trace).number info) (.fresh info) :=
      ⟨_, .create, _, .tell info, rfl⟩
    obtain ⟨grown, life⟩ := custody.grow_reserved binding run
    have same : (Session.opened binding (binding.nextId trace).number info).id =
      binding.nextId trace := rfl
    rw [← same] at grown
    exact grown.takeBack (by simp [Session.opened, Binding.owns]) life
      (Trace.created_lt_append_events trace)

end Sessions

end Custody

end ForeignEval

import ForeignEval.Proofs.Session.Progress

/-!
# The life of a session

A session is opened, serves requests and is closed. What is called on its state in all that time is
one of few words: the state is not made; or it does not tell its dimensions and is given up; or the
session does some **work** and the state is finalized and freed. Which work that is depends on the
due requests alone and on how the calls end.

* **Steps** — `Session.Course` strings together what single requests make of a session.
* **Words** — `Session.Work`: nothing; a failed preparation; or a preparation and evaluations, up to
  the first that leaves a corrupted state.
* **Life** — `Session.lifecycle`.
-/

namespace ForeignEval

open Foreign (Call Ending Failure Stage StateId Table Trace)
open Workspace (Request Value)

namespace Session

/-! ## Requests in order -/

/-- A request, and what others have done since the one before it. -/
structure Turn where
  meanwhile : Trace
  request : Request

/-- Has a session serve requests in order. -/
def serveAll (session : Session) : List Turn → Trace → List (Reply Value) × Session × Trace
  | [], trace => ([], session, trace)
  | turn :: turns, trace =>
    let (reply, session, trace) := session.serve turn.request (trace ++ turn.meanwhile)
    let (replies, session, trace) := session.serveAll turns trace
    (reply :: replies, session, trace)

/-- The calls that are due for requests. -/
def dueOf (session : Session) (turns : List Turn) : List Call :=
  turns.filterMap fun turn => session.due turn.request

/-- What happens to a state when calls are due one after the other. -/
inductive Course (binding : Binding) (number : Nat) :
    Phase → List Call → List (Call × Ending) → Phase → Prop
  | done (phase : Phase) : Course binding number phase [] [] phase
  | next {phase middle last : Phase} {call : Call} {calls : List Call}
      {made more : List (Call × Ending)} (first : Progress binding number call phase made middle)
      (others : Course binding number middle calls more last) :
      Course binding number phase (call :: calls) (made ++ more) last

section Turns

variable {session later : Session} {turns : List Turn} {trace : Trace}

theorem SameOwner.due (same : SameOwner session later) (request : Request) :
    later.due request = session.due request := by
  cases request with
  | point => simp only [Session.due, same.state, same.info]
  | batch => simp only [Session.due, batchCall, same.state, same.info]

theorem SameOwner.dueOf (same : SameOwner session later) (turns : List Turn) :
    later.dueOf turns = session.dueOf turns := by
  simp only [Session.dueOf, same.due]

theorem sameOwner_serveAll (session : Session) (turns : List Turn) (trace : Trace) :
    SameOwner session (session.serveAll turns trace).2.1 := by
  induction turns generalizing session trace with
  | nil => exact .refl session
  | cons turn turns ih =>
    exact (session.sameOwner_serve turn.request (trace ++ turn.meanwhile)).trans (ih _ _)

/-- A phase in which a session cannot be used is never left. -/
theorem serveAll_of_reason {reason : String} (unusable : session.phase.reason? = some reason)
    (turns : List Turn) (trace : Trace) : (session.serveAll turns trace).2.1 = session := by
  induction turns generalizing trace with
  | nil => rfl
  | cons turn turns ih =>
    have stays : (session.serve turn.request (trace ++ turn.meanwhile)).2 =
        (session, trace ++ turn.meanwhile) := by
      cases due : session.due turn.request with
      | none => exact serve_of_none due
      | some call => rw [serve_of_reason due unusable]
    simp only [serveAll, stays]
    exact ih _

/-- **Run**: the requests that are due take their course, and nothing else is called on the
state. -/
theorem course_serveAll (session : Session) (own : session.binding.owns session.state = true)
    (apart : ∀ turn ∈ turns,
      turn.meanwhile.lifeOf (session.binding.table.idOf session.state.number) = [])
    (trace : Trace) :
    ∃ made grown, Course session.binding session.state.number session.phase (session.dueOf turns)
        made (session.serveAll turns trace).2.1.phase ∧
      (session.serveAll turns trace).2.2 = trace ++ grown ∧
      Trace.lifeOf grown (session.binding.table.idOf session.state.number) = made ∧
      (session.binding.table.Calm → ∀ entry ∈ made, ∀ text, entry.2 ≠ .panicked text) := by
  induction turns generalizing session trace with
  | nil => exact ⟨[], [], .done _, by simp [serveAll], rfl, by simp⟩
  | cons turn turns ih =>
    obtain ⟨quiet, apart⟩ := List.forall_mem_cons.1 apart
    cases due : session.due turn.request with
    | none =>
      obtain ⟨made, grown, course, grew, life, calm⟩ :=
        ih session own apart (trace ++ turn.meanwhile)
      refine ⟨made, turn.meanwhile ++ grown, ?_, ?_, ?_, calm⟩
      · simpa [serveAll, serve_of_none due, dueOf, due] using course
      · simp [serveAll, serve_of_none due, grew]
      · rw [Trace.lifeOf_append, quiet, life, List.nil_append]
    | some call =>
      have same := session.sameOwner_serve turn.request (trace ++ turn.meanwhile)
      obtain ⟨made, progress, began, calm, -⟩ := progress_serve own due (trace ++ turn.meanwhile)
      obtain ⟨own', fits⟩ := fits_of_due due
      have first : Trace.lifeOf (session.binding.table.events made)
          (session.binding.table.idOf session.state.number) = made :=
        Trace.lifeOf_events (progress.run own' fits).forall_state
      -- the session that goes on has the same state and binding, and what is due for it is the same
      have stays := own
      rw [← same.binding, ← same.state] at stays apart
      obtain ⟨more, grown, course, grew, life, calm'⟩ :=
        ih _ stays apart (session.serve turn.request (trace ++ turn.meanwhile)).2.2
      rw [same.dueOf, same.binding, same.state] at course
      rw [same.binding, same.state] at life
      rw [same.binding] at calm'
      refine ⟨made ++ more, turn.meanwhile ++ session.binding.table.events made ++ grown,
        ?_, ?_, ?_, ?_⟩
      · rw [show session.dueOf (turn :: turns) = call :: session.dueOf turns by simp [dueOf, due]]
        exact .next progress course
      · rw [show (session.serveAll (turn :: turns) trace).2.2 = _ from grew, began]
        simp only [List.append_assoc]
      · rw [Trace.lifeOf_append, Trace.lifeOf_append, quiet, first, life, List.nil_append]
      · intro never entry mem
        rcases List.mem_append.1 mem with old | new
        · exact calm never entry old
        · exact calm' never entry new

end Turns

/-! ## Words -/

/-- The evaluations of a prepared state: for each call that is due, up to and including the first
that leaves a corrupted state. -/
inductive Evaluations : List Call → List (Call × Ending) → Phase → Prop
  | done : Evaluations [] [] .ready
  | next {call : Call} {ending : Ending} {calls : List Call} {made : List (Call × Ending)}
      {phase : Phase} (sane : ending.corrupts = false) (others : Evaluations calls made phase) :
      Evaluations (call :: calls) ((call, ending) :: made) phase
  | corrupted (call : Call) (message : String) (calls : List Call) :
      Evaluations (call :: calls) [(call, .failed ⟨.stateCorrupted, message⟩)] (.corrupted message)

/-- What a session does with its state when calls are due, and the phase to which that leads. -/
inductive Work (binding : Binding) (number : Nat) :
    List Call → List (Call × Ending) → Phase → Prop
  | idle : Work binding number [] [] .created
  | spoiled (call : Call) (calls : List Call) (failure : Failure) :
      Work binding number (call :: calls) [(.init number, .failed failure)]
        (.failed (binding.callError .init failure).message)
  | prepared {call : Call} {calls : List Call} {made : List (Call × Ending)} {phase : Phase}
      (evaluations : Evaluations (call :: calls) made phase) :
      Work binding number (call :: calls) ((.init number, .returned) :: made) phase

section Courses

variable {binding : Binding} {number : Nat} {calls : List Call} {made : List (Call × Ending)}
  {phase last : Phase}

theorem Course.of_reason {reason : String} (unusable : phase.reason? = some reason)
    (course : Course binding number phase calls made last) : made = [] ∧ last = phase := by
  induction course with
  | done => exact ⟨rfl, rfl⟩
  | next first others ih =>
    cases first with
    | refused => exact ih unusable
    | spoiled | interrupted | prepared | evaluated => cases unusable

/-- After one evaluation come the others, unless it has left a corrupted state. -/
theorem Course.evaluations_cons {call : Call} {ending : Ending}
    (course : Course binding number (.after ending) calls made last)
    (others : Phase.after ending = .ready → Evaluations calls made last) :
    Evaluations (call :: calls) ((call, ending) :: made) last := by
  cases corrupts : ending.corrupts with
  | false => exact .next corrupts (others (Phase.after_of_sane corrupts))
  | true =>
    obtain ⟨message, rfl⟩ := Ending.eq_of_corrupts corrupts
    obtain ⟨rfl, rfl⟩ := course.of_reason rfl
    exact .corrupted call message calls

theorem Course.evaluations (ready : phase = .ready)
    (course : Course binding number phase calls made last) : Evaluations calls made last := by
  induction course with
  | done phase =>
    rw [ready]
    exact .done
  | next first others ih =>
    cases first with
    | refused unusable =>
      rw [ready] at unusable
      cases unusable
    | spoiled | interrupted | prepared => cases ready
    | evaluated ending => exact others.evaluations_cons ih

/-- Without unwinding, the course of a session from the start is one of the words. -/
theorem Course.work (course : Course binding number .created calls made last)
    (calm : ∀ entry ∈ made, ∀ text, entry.2 ≠ .panicked text) :
    Work binding number calls made last := by
  cases course with
  | done => exact .idle
  | next first others =>
    cases first with
    | refused unusable => cases unusable
    | interrupted text => exact absurd rfl (calm _ List.mem_cons_self text)
    | spoiled failure =>
      -- after that nothing is called any more
      obtain ⟨rfl, rfl⟩ := others.of_reason rfl
      exact .spoiled _ _ failure
    | prepared ending =>
      exact .prepared (others.evaluations_cons fun ready => others.evaluations ready)

end Courses

/-! ## Life -/

theorem lifeOf_ending (table : Table) (number : Nat) (answer : Except Failure Unit) :
    Trace.lifeOf (table.events (ending number answer)) (table.idOf number) =
      ending number answer :=
  Trace.lifeOf_events (by simp [ending, Call.state])

/-- Requests and then closing, seen from the state. -/
theorem course_close (session : Session) (own : session.binding.owns session.state = true)
    {turns : List Turn} {last : Trace}
    (apart : ∀ turn ∈ turns,
      turn.meanwhile.lifeOf (session.binding.table.idOf session.state.number) = [])
    (apart_last : last.lifeOf (session.binding.table.idOf session.state.number) = [])
    (trace : Trace) :
    ∃ replies later served made answer grown,
      session.serveAll turns trace = (replies, later, served) ∧ SameOwner session later ∧
      Course session.binding session.state.number session.phase (session.dueOf turns) made
        later.phase ∧
      later.close (served ++ last) = (closingError session.binding answer, trace ++ grown) ∧
      Trace.lifeOf grown (session.binding.table.idOf session.state.number) =
        made ++ ending session.state.number answer ∧
      (session.binding.table.Calm → ∀ entry ∈ made, ∀ text, entry.2 ≠ .panicked text) := by
  have same := session.sameOwner_serveAll turns trace
  obtain ⟨made, grown, course, grew, life, calm⟩ := session.course_serveAll own apart trace
  rcases served : session.serveAll turns trace with ⟨replies, later, after⟩
  rw [served] at same course grew
  obtain ⟨answer, closed⟩ := shutDown_cases own (after ++ last)
  refine ⟨replies, later, after, made, answer,
    grown ++ last ++ session.binding.table.events (ending session.state.number answer),
    rfl, same, course, ?_, ?_, calm⟩
  · unfold close
    rw [same.binding, same.state, closed, show after = _ from grew]
    simp only [List.append_assoc]
  · rw [Trace.lifeOf_append, Trace.lifeOf_append, life, apart_last, lifeOf_ending,
      List.append_nil]

/-- What it comes to when a session is opened, serves requests and is closed. -/
inductive Life (binding : Binding) (before : Trace) (turns : List Turn) (last : Trace) : Prop
  /-- No state is made, and that is all. -/
  | unmade {e : Error} (failure : Failure)
      (refused : new binding before = (.error e, before ++ binding.table.events
        [(.create (binding.nextId before).number, .failed failure)]))
  /-- The state does not tell its dimensions, and is given up. -/
  | mute {e : Error} (failure : Failure) (answer : Except Failure Unit)
      (refused : new binding before = (.error e, before ++ binding.table.events
        ([(.create (binding.nextId before).number, .returned),
          (.info (binding.nextId before).number, .failed failure)] ++
          ending (binding.nextId before).number answer)))
  /-- The session does its work. If it becomes unusable it stays so, and refuses what is due without
  a call. -/
  | served {session later : Session} {opened after : Trace} {replies : List (Reply Value)}
      {made : List (Call × Ending)} (answer : Except Failure Unit) (grown : Trace)
      (opens : new binding before = (.ok session, opened)) (starts : session.phase = .created)
      (serves : session.serveAll turns opened = (replies, later, after))
      (work : Work binding (binding.nextId before).number (session.dueOf turns) made later.phase)
      (closes : later.close (after ++ last) = (closingError binding answer, before ++ grown))
      (life : grown.lifeOf (binding.nextId before) =
        Stage.opening (binding.nextId before).number session.info ++ made ++
          ending (binding.nextId before).number answer)
      (stays : ∀ reason, later.phase.reason? = some reason →
        ∀ more trace, (later.serveAll more trace).2.1 = later)
      (refuses : ∀ reason, later.phase.reason? = some reason →
        ∀ request call trace, session.due request = some call → later.serve request trace =
          (.error (.sessionUnusable binding.function reason), later, trace))

/-- **The life of a session.** Whatever the foreign code answers short of unwinding, and whatever
others do in the meantime: the state is asked for and not made; or it is made, does not tell its
dimensions, and is finalized and freed; or it is made, tells them, is worked with, and is finalized
and freed. -/
theorem lifecycle (binding : Binding) (calm : binding.table.Calm) (before : Trace)
    (turns : List Turn) (last : Trace)
    (apart : ∀ turn ∈ turns, turn.meanwhile.lifeOf (binding.nextId before) = [])
    (apart_last : last.lifeOf (binding.nextId before) = []) :
    Life binding before turns last := by
  rcases new_cases binding before with
    ⟨failure, none⟩ | ⟨failure, answer, none⟩ | ⟨info, made⟩
  · exact .unmade failure none
  · exact .mute failure answer none
  · have own : binding.owns ⟨binding.id, (binding.nextId before).number⟩ = true := by
      simp [Binding.owns]
    have first : Trace.lifeOf (binding.table.events
        (Stage.opening (binding.nextId before).number info)) (binding.nextId before) =
        Stage.opening (binding.nextId before).number info :=
      Trace.lifeOf_events (by simp [Stage.opening, Call.state, Binding.nextId, Table.idOf])
    obtain ⟨replies, later, after, work, answer, grown, serves, same, course, closed, life,
        never⟩ :=
      (opened binding (binding.nextId before).number info).course_close own apart apart_last
        (before ++ binding.table.events (Stage.opening (binding.nextId before).number info))
    refine .served answer
      (binding.table.events (Stage.opening (binding.nextId before).number info) ++ grown)
      made rfl serves (course.work (never calm)) ?closes ?life ?stays ?refuses
    case closes =>
      rw [closed, List.append_assoc]
      rfl
    case life =>
      rw [Trace.lifeOf_append, first, List.append_assoc]
      exact congrArg _ life
    case stays => exact fun reason unusable => serveAll_of_reason unusable
    case refuses =>
      intro reason unusable request call trace due
      rw [← same.due] at due
      have refused := serve_of_reason due unusable trace
      rwa [same.function] at refused

/-- A function that refuses one point and is corrupted by another. -/
def moodyBinding : Binding :=
  .ofTable 1 "moody" (Foreign.Script.table
    { Foreign.Script.standard with
      rules := [⟨some ⟨3⟩, .report (.failing (-1) "three")⟩,
        ⟨some ⟨7⟩, .report (.failing (-2) "seven")⟩] } (.inProcess 1))

/-- Requests of all kinds, the last of which come too late, while another state is finalized. -/
def moodyTurns : List Turn :=
  [⟨[], .batch (.empty 1)⟩, ⟨[], .point [⟨1⟩, ⟨2⟩]⟩, ⟨[], .point [⟨3⟩]⟩,
    ⟨[.called (.inProcess 1) none (.finalize 0) .returned],
      .batch ⟨1, [[⟨1⟩], [⟨2⟩]], none, by simp⟩⟩,
    ⟨[], .point [⟨7⟩]⟩, ⟨[], .point [⟨1⟩]⟩]

/-- The second session of that function, up to its corruption and beyond. -/
theorem lifecycle_moody :
    moodyBinding.table.Calm ∧
      Life moodyBinding [.called (.inProcess 1) none (.create 0) .returned] moodyTurns
        [.called (.inProcess 1) none (.delete 0) .returned] := by
  have calm : moodyBinding.table.Calm := Foreign.Script.calm_table (by simp) _
  exact ⟨calm, lifecycle moodyBinding calm _ moodyTurns _ (by decide) (by decide)⟩

end Session

end ForeignEval

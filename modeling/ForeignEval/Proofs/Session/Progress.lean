import ForeignEval.Proofs.Foreign.Stage
import ForeignEval.Proofs.Session.Frame
import ForeignEval.Workspace.Run

/-!
# What a request makes of a session

A request that is not of the input dimension, or has no rows, never gets past the session. Any other
one is **due**: it stands for one evaluation, which the session makes if its phase lets it, after
preparing the state if that has not been done.

* **Opening and closing** — `Session.new_cases` and `Session.shutDown_cases` list the calls.
* **Requests** — `Session.Progress` says what happens by phase, and `Session.progress_serve` that
  nothing else does.
* **Stages** — `Session.Progress.run`: the calls are those that may be made on the state.
-/

namespace ForeignEval

open Foreign (Answer Call Effect Ending EntryPoint Failure Script Source Stage StateId Table Trace
  endingOf)
open Workspace (Request Value)

/-- Foreign code that never unwinds. -/
structure Foreign.Table.Calm (table : Table) : Prop where
  init : ∀ trace state text, table.onInit trace state ≠ .panicked text
  exec : ∀ trace state point outputs text,
    table.onExec trace state point outputs ≠ .panicked text
  execBatch : ∀ trace state rows dimension values outputs buffer text,
    table.onExecBatch trace state rows dimension values outputs buffer ≠ .panicked text

namespace Foreign.Script

variable {script : Script} {text : String}
  (reports : ∀ rule ∈ script.rules, rule.effect ≠ .panic text)

include reports

theorem refusal?_ne_panic (point : Point) : script.refusal? point ≠ some (.panic text) := by
  intro refused
  obtain ⟨rule, found, same⟩ := Option.map_eq_some_iff.1 refused
  exact reports rule (List.mem_of_find?_eq_some found) same

theorem outputsFor_ne_panic (outputs before : Nat) (rows : List Point) :
    (script.outputsFor outputs before rows).2 ≠ some (.panic text) := by
  induction rows generalizing before with
  | nil => simp [outputsFor]
  | cons row rows ih =>
    have fine := refusal?_ne_panic reports row
    unfold outputsFor
    cases refused : script.refusal? row with
    | none => exact ih (before + 1)
    | some effect =>
      rw [refused] at fine
      exact fine

omit reports in
theorem answerOf_ne_panicked {α : Type} (result : α) {effect : Option Effect}
    (fine : effect ≠ some (.panic text)) : answerOf result effect ≠ .panicked text := by
  rcases effect with _ | report | text'
  · simp [answerOf]
  · simp [answerOf]
  · intro same
    cases same
    exact fine rfl

omit reports in
/-- A script unwinds by its rules and its preparations only. -/
theorem calm_table
    (reports : ∀ text, (∀ rule ∈ script.rules, rule.effect ≠ .panic text) ∧
      some (.panic text) ∉ script.init)
    (source : Source) : (script.table source).Calm where
  init _ _ text :=
    answerOf_ne_panicked () fun unwinds => (reports text).2 (mem_of_scripted unwinds)
  exec _ _ point outputs text :=
    answerOf_ne_panicked _ (outputsFor_ne_panic (reports text).1 outputs _ [point])
  execBatch _ _ rows dimension values outputs _ text :=
    answerOf_ne_panicked _
      (outputsFor_ne_panic (reports text).1 outputs _ (splitRows dimension rows values))

end Foreign.Script

/-! ## Calls on a state of one's own -/

namespace Binding

/-- What a binding replies when a call through an entry point has ended so. -/
inductive Answers (binding : Binding) (entry : EntryPoint) {α : Type} : Reply α → Ending → Prop
  | value (result : α) : Answers binding entry (.ok result) .returned
  | failed (failure : Failure) :
      Answers binding entry (.error (binding.callError entry failure)) (.failed failure)
  | panicked (text : String) : Answers binding entry (.panic text) (.panicked text)

/-- A reply and a trace that come of one call through an entry point. -/
def Makes {α : Type} (binding : Binding) (entry : EntryPoint) (call : Call) (trace : Trace)
    (result : Reply α × Trace) : Prop :=
  ∃ ending, binding.Answers entry result.1 ending ∧
    result.2 = trace ++ binding.table.events [(call, ending)] ∧
    (binding.table.Calm → ∀ text, ending ≠ .panicked text)

section Own

variable (binding : Binding) {state : State} (own : binding.owns state = true) (trace : Trace)

include own

theorem makes_init : binding.Makes .init (.init state.number) trace (binding.init state trace) := by
  unfold Binding.init Table.init
  rw [if_pos own]
  cases answered : binding.table.onInit trace state.number with
  | value => exact ⟨_, .value (), rfl, by simp⟩
  | failed failure => exact ⟨_, .failed failure, rfl, by simp⟩
  | panicked text => exact ⟨_, .panicked text, rfl, fun calm => (calm.init _ _ _ answered).elim⟩

theorem makes_execute (point : Point) (outputs : Nat) :
    binding.Makes .exec (.exec state.number point outputs) trace
      (binding.execute state point outputs trace) := by
  unfold Binding.execute Table.exec
  rw [if_pos own]
  cases answered : binding.table.onExec trace state.number point outputs with
  | value values => exact ⟨_, .value _, rfl, by simp⟩
  | failed failure => exact ⟨_, .failed failure, rfl, by simp⟩
  | panicked text => exact ⟨_, .panicked text, rfl, fun calm => (calm.exec _ _ _ _ _ answered).elim⟩

theorem makes_executeBatch (batch : Sample) (outputs : Nat) :
    binding.Makes .execBatch
      (.execBatch state.number batch.size batch.dimension batch.flat outputs
        (batch.size * outputs)) trace (binding.executeBatch state batch outputs trace) := by
  unfold Binding.executeBatch Table.execBatch
  rw [if_pos own]
  cases answered : binding.table.onExecBatch trace state.number batch.size batch.dimension
      batch.flat outputs (batch.size * outputs) with
  | value values =>
    simp only [answered, binding.readRows_written]
    exact ⟨_, .value _, rfl, by simp⟩
  | failed failure =>
    simp only [answered]
    exact ⟨_, .failed failure, rfl, by simp⟩
  | panicked text =>
    simp only [answered]
    exact ⟨_, .panicked text, rfl, fun calm => (calm.execBatch _ _ _ _ _ _ _ _ answered).elim⟩

end Own

/-- The state that a binding makes next. -/
def nextId (binding : Binding) (trace : Trace) : StateId :=
  binding.table.idOf (trace.created binding.table.source)

end Binding

namespace Session

/-! ## Opening and closing -/

/-- The calls that end the use of a state, the first one ending as told. -/
def ending (number : Nat) (finalized : Except Failure Unit) : List (Call × Ending) :=
  [(.finalize number, endingOf finalized), (.delete number, .returned)]

/-- What is left of finalizing for the caller. -/
def closingError (binding : Binding) : Except Failure Unit → Except Error Unit
  | .ok _ => .ok ()
  | .error failure => .error (binding.callError .finalize failure)

theorem shutDown_cases {binding : Binding} {state : State} (own : binding.owns state = true)
    (trace : Trace) :
    ∃ finalized, shutDown binding state trace =
      (closingError binding finalized,
        trace ++ binding.table.events (ending state.number finalized)) := by
  refine ⟨binding.table.onFinalize trace state.number, ?_⟩
  unfold shutDown Binding.finalize Binding.deleteState Table.finalize
  rw [if_pos own]
  cases binding.table.onFinalize trace state.number with
  | ok =>
    dsimp only
    rw [if_pos own]
    simp [closingError, ending, Except.bind, Table.delete, Table.record_eq, endingOf]
  | error failure =>
    dsimp only
    rw [if_pos own]
    simp [closingError, ending, Except.bind, Table.delete, Table.record_eq, endingOf]

/-- The session of a state that has just told its dimensions. -/
def opened (binding : Binding) (number : Nat) (info : FunctionInfo) : Session :=
  ⟨binding, ⟨binding.id, number⟩, info, .created, 0⟩

/-- No state is made; or it does not tell its dimensions and is given up; or there is a session. -/
theorem new_cases (binding : Binding) (trace : Trace) :
    (∃ failure, new binding trace =
      (.error (.stateCreation binding.function failure.message), trace ++ binding.table.events
        [(.create (binding.nextId trace).number, .failed failure)])) ∨
    (∃ failure answer, new binding trace =
      (.error (binding.callError .info failure), trace ++ binding.table.events
        ([(.create (binding.nextId trace).number, .returned),
          (.info (binding.nextId trace).number, .failed failure)] ++
          ending (binding.nextId trace).number answer))) ∨
    (∃ info, new binding trace =
      (.ok (opened binding (binding.nextId trace).number info),
        trace ++ binding.table.events (Stage.opening (binding.nextId trace).number info))) := by
  unfold new Binding.createState Table.create Binding.nextId
  cases binding.table.onCreate trace with
  | error failure => exact .inl ⟨failure, rfl⟩
  | ok =>
    right
    have own : binding.owns ⟨binding.id, trace.created binding.table.source⟩ = true := by
      simp [Binding.owns]
    dsimp only [Except.map, Table.idOf]
    unfold Binding.info Table.info
    rw [if_pos own]
    cases binding.table.onInfo (binding.table.record trace
      (.create (trace.created binding.table.source)) (endingOf (.ok ())))
      (trace.created binding.table.source) with
    | ok info =>
      refine .inr ⟨info, ?_⟩
      simp [opened, Stage.opening, Table.record_eq, endingOf]
    | error failure =>
      left
      -- the state is shut down before the error is passed on
      obtain ⟨answer, closed⟩ := shutDown_cases own (binding.table.record
        (binding.table.record trace (.create (trace.created binding.table.source))
          (endingOf (.ok ())))
        (.info (trace.created binding.table.source)) (.failed failure))
      refine ⟨failure, answer, ?_⟩
      dsimp only
      rw [closed]
      simp [Table.record_eq, endingOf]

/-- A session that could be opened is of a state that has just told its dimensions. -/
theorem new_eq_ok {binding : Binding} {trace after : Trace} {session : Session}
    (ok : new binding trace = (.ok session, after)) :
    ∃ info, session = opened binding (binding.nextId trace).number info ∧
      after = trace ++ binding.table.events
        (Stage.opening (binding.nextId trace).number info) := by
  rcases new_cases binding trace with
    ⟨failure, refused⟩ | ⟨failure, answer, refused⟩ | ⟨info, made⟩
  · rw [refused] at ok
    cases ok
  · rw [refused] at ok
    cases ok
  · rw [made] at ok
    cases ok
    exact ⟨info, rfl, rfl⟩

theorem owns_opened (binding : Binding) (number : Nat) (info : FunctionInfo) :
    (opened binding number info).binding.owns (opened binding number info).state = true := by
  simp [opened, Binding.owns]

/-! ## Requests -/

end Session

/-- The phase of a prepared session after an evaluation that ended so. -/
def Phase.after : Ending → Phase
  | .failed ⟨.stateCorrupted, message⟩ => .corrupted message
  | _ => .ready

/-- Why a session in this phase cannot be used. -/
def Phase.reason? : Phase → Option String
  | failed reason | corrupted reason => some reason
  | created | ready => none

/-- How far a session in a phase has come with a state of these dimensions. -/
def Phase.stage (info : FunctionInfo) : Phase → Stage
  | created => .fresh info
  | ready => .ready info
  | failed _ | corrupted _ => .spent info

theorem Phase.isOpen_stage (info : FunctionInfo) (phase : Phase) : (phase.stage info).IsOpen := by
  cases phase with
  | created | ready | failed | corrupted => trivial

theorem Phase.after_of_sane {ending : Ending} (sane : ending.corrupts = false) :
    after ending = .ready := by
  cases ending with
  | failed failure =>
    obtain ⟨status, message⟩ := failure
    cases status with
    | stateCorrupted => cases sane
    | _ => rfl
  | returned | reported | panicked => rfl

/-- The text with which a call unwound, if it did. -/
def Foreign.Ending.panic? : Ending → Option String
  | .panicked text => some text
  | _ => none

theorem Reply.panic?_map {α β : Type} (f : α → β) (reply : Reply α) :
    (reply.map f).panic? = reply.panic? := by
  cases reply with
  | ok | error | panic => rfl

theorem Reply.panic?_ofExcept {α : Type} (result : Except Error α) :
    (ofExcept result).panic? = none := by
  cases result with
  | ok | error => rfl

namespace Session

/-- The call for which a request stands, unless the session answers it by itself. -/
def due (session : Session) : Request → Option Call
  | .point point =>
    if point.length = session.info.inputDimension then
      some (.exec session.state.number point session.info.outputDimension)
    else none
  | .batch batch =>
    if batch.dimension = session.info.inputDimension ∧ batch.rows ≠ [] then
      some (session.batchCall batch)
    else none

/-- Has a session evaluate something. -/
def serve (session : Session) : Request → Trace → Reply Value × Session × Trace
  | .point point, trace =>
    ((session.evaluate point trace).1.map fun point => .point (some point),
      (session.evaluate point trace).2)
  | .batch batch, trace =>
    ((session.evaluateBatch batch trace).1.map .sample, (session.evaluateBatch batch trace).2)

/-- What happens to a state when a call is due in a phase: the calls that are made, and the next
phase. -/
inductive Progress (binding : Binding) (number : Nat) (call : Call) :
    Phase → List (Call × Ending) → Phase → Prop
  | refused {phase : Phase} {reason : String} (unusable : phase.reason? = some reason) :
      Progress binding number call phase [] phase
  | spoiled (failure : Failure) : Progress binding number call .created
      [(.init number, .failed failure)] (.failed (binding.callError .init failure).message)
  | interrupted (text : String) : Progress binding number call .created
      [(.init number, .panicked text)] .created
  | prepared (ending : Ending) : Progress binding number call .created
      [(.init number, .returned), (call, ending)] (.after ending)
  | evaluated (ending : Ending) : Progress binding number call .ready [(call, ending)]
      (.after ending)

section Serve

variable {session : Session} {call : Call} {request : Request} {trace : Trace}

theorem sameOwner_serve (request : Request) (trace : Trace) :
    SameOwner session (session.serve request trace).2.1 := by
  cases request with
  | point point => exact session.sameOwner_evaluate trace point
  | batch batch => exact session.sameOwner_evaluateBatch trace batch

/-- A request without a call is answered at once. -/
theorem answered_of_none (none : session.due request = none) (trace : Trace) :
    ∃ result, session.serve request trace = (.ofExcept result, session, trace) := by
  cases request with
  | point point =>
    simp only [due, ite_eq_right_iff, reduceCtorEq, imp_false] at none
    refine ⟨.error (mismatch session.function session.info point.length point), ?_⟩
    simp [serve, evaluate, checkPoint, none, Reply.map, Reply.ofExcept]
  | batch batch =>
    by_cases right : batch.dimension = session.info.inputDimension
    · have empty : batch.rows = [] := by
        by_contra rows
        simp [due, right, rows] at none
      refine ⟨.ok (.sample (emptyOutput session.info)), ?_⟩
      simp [serve, session.evaluateBatch_of_isEmpty trace right (List.isEmpty_iff.2 empty),
        Reply.map, Reply.ofExcept]
    · refine ⟨.error (mismatch session.function session.info batch.dimension
        ((batch.row? 0).getD [])), ?_⟩
      simp [serve, session.evaluateBatch_of_wrong trace right, Reply.map, Reply.ofExcept]

/-- A request without a call does nothing. -/
theorem serve_of_none (none : session.due request = none) :
    (session.serve request trace).2 = (session, trace) := by
  obtain ⟨result, answered⟩ := answered_of_none none trace
  rw [answered]

/-- A session that cannot be used any more does nothing either. -/
theorem evaluateWith_of_reason {α : Type} {reason : String}
    (unusable : session.phase.reason? = some reason) (points : Nat)
    (make : Session → Trace → Reply α × Trace) :
    session.evaluateWith points make trace =
      (.error (.sessionUnusable session.function reason), session, trace) := by
  unfold evaluateWith prepare
  cases phase : session.phase with
  | created | ready =>
    rw [phase] at unusable
    cases unusable
  | failed | corrupted =>
    rw [phase] at unusable
    cases unusable
    rfl

theorem serve_of_reason {reason : String} (due : session.due request = some call)
    (unusable : session.phase.reason? = some reason) (trace : Trace) :
    session.serve request trace =
      (.error (.sessionUnusable session.function reason), session, trace) := by
  cases request with
  | point point =>
    simp only [Session.due, Option.ite_none_right_eq_some] at due
    simp only [serve, session.evaluate_of_length trace due.1, evaluateWith_of_reason unusable]
    rfl
  | batch batch =>
    simp only [Session.due, Option.ite_none_right_eq_some] at due
    have rows : ¬batch.isEmpty = true := fun empty => due.1.2 (List.isEmpty_iff.1 empty)
    simp only [serve, session.evaluateBatch_of_rows trace due.1.1 rows, evaluateRows,
      evaluateWith_of_reason unusable]
    rfl

/-- The phase of a prepared session after an evaluation. -/
theorem phase_conclude {α : Type} {entry : EntryPoint} {reply : Reply α} {ending : Ending}
    (ready : session.phase = .ready) (answers : session.binding.Answers entry reply ending)
    (points : Nat) : (session.conclude points reply).2.phase = .after ending := by
  cases answers with
  | value => exact ready
  | panicked => exact ready
  | failed failure =>
    obtain ⟨status, message⟩ := failure
    show session.phaseAfter _ = _
    unfold phaseAfter Binding.callError
    rw [ready]
    cases status <;> rfl

/-- An evaluation unwinds if its call does. -/
theorem panic?_conclude {α : Type} {entry : EntryPoint} {reply : Reply α} {ending : Ending}
    (answers : session.binding.Answers entry reply ending) (points : Nat) :
    (session.conclude points reply).1.panic? = ending.panic? := by
  cases answers with
  | value | failed | panicked => rfl

/-- Once the state is prepared, an evaluation is one call. -/
theorem evaluateWith_of_ready {α : Type} {entry : EntryPoint} {ready : Session} {later : Trace}
    {make : Session → Trace → Reply α × Trace}
    (prepared : session.prepare trace = (.ok (), ready, later)) (phase : ready.phase = .ready)
    (same : ready.binding = session.binding)
    (makes : session.binding.Makes entry call later (make ready later)) (points : Nat) :
    ∃ ending, (session.evaluateWith points make trace).2.1.phase = .after ending ∧
      (session.evaluateWith points make trace).2.2 =
        later ++ session.binding.table.events [(call, ending)] ∧
      (session.binding.table.Calm → ∀ text, ending ≠ .panicked text) ∧
      (session.evaluateWith points make trace).1.panic? = ending.panic? := by
  obtain ⟨ending, answers, grown, calm⟩ := makes
  rw [session.evaluateWith_of_prepared trace prepared]
  rw [← same] at answers
  exact ⟨ending, phase_conclude phase answers points, grown, calm, panic?_conclude answers points⟩

/-- An evaluation of points prepares the state if that is due and possible, and then makes its
call. -/
theorem progress_evaluateWith {α : Type} (entry : EntryPoint)
    {make : Session → Trace → Reply α × Trace} (own : session.binding.owns session.state = true)
    (makes : ∀ ready later, SameOwner session ready →
      session.binding.Makes entry call later (make ready later)) (points : Nat) :
    ∃ made, Progress session.binding session.state.number call session.phase made
        (session.evaluateWith points make trace).2.1.phase ∧
      (session.evaluateWith points make trace).2.2 = trace ++ session.binding.table.events made ∧
      (session.binding.table.Calm → ∀ entry ∈ made, ∀ text, entry.2 ≠ .panicked text) ∧
      (session.evaluateWith points make trace).1.panic? = made.findSome? (·.2.panic?) := by
  cases phase : session.phase with
  | failed reason | corrupted reason =>
    rw [evaluateWith_of_reason (by rw [phase]; rfl)]
    refine ⟨[], ?_, by simp, by simp, rfl⟩
    rw [phase]
    exact .refused rfl
  | ready =>
    have prepared : session.prepare trace = (.ok (), session, trace) := by
      simp [prepare, phase]
    obtain ⟨ending, next, grown, calm, unwinds⟩ :=
      evaluateWith_of_ready prepared phase rfl (makes session trace (.refl session)) points
    rw [next, unwinds]
    refine ⟨[(call, ending)], .evaluated ending, grown, by simpa using calm, ?_⟩
    simp [List.findSome?_singleton]
  | created =>
    -- the evaluation is reached only if the preparation, a call of its own, succeeds
    obtain ⟨first, answers, begun, calm⟩ := session.binding.makes_init own trace
    rcases initialized : session.binding.init session.state trace with ⟨reply, later⟩
    rw [initialized] at answers begun
    obtain rfl : later = _ := begun
    cases answers with
    | failed failure =>
      refine ⟨[(.init session.state.number, .failed failure)], ?_, ?_, by simp, ?_⟩
      · simp only [evaluateWith, prepare, phase, initialized]
        exact .spoiled failure
      · simp [evaluateWith, prepare, phase, initialized]
      · simp [evaluateWith, prepare, phase, initialized, Reply.panic?, Ending.panic?]
    | panicked text =>
      refine ⟨[(.init session.state.number, .panicked text)], ?_, ?_, by simpa using calm, ?_⟩
      · simp only [evaluateWith, prepare, phase, initialized]
        exact .interrupted text
      · simp [evaluateWith, prepare, phase, initialized]
      · simp [evaluateWith, prepare, phase, initialized, Reply.panic?, Ending.panic?]
    | value =>
      have prepared : session.prepare trace = (.ok (), { session with phase := .ready },
          trace ++ session.binding.table.events [(.init session.state.number, .returned)]) := by
        simp [prepare, phase, initialized]
      obtain ⟨ending, next, grown, calm', unwinds⟩ :=
        evaluateWith_of_ready prepared rfl rfl (makes _ _ ⟨rfl, rfl, rfl⟩) points
      rw [next, unwinds]
      refine ⟨[(.init session.state.number, .returned), (call, ending)], .prepared ending,
        ?_, ?_, ?_⟩
      · rw [grown, List.append_assoc]
        rfl
      · simpa using calm'
      · cases ending <;> rfl

/-- **Progress**: a call that is due is made, after preparing the state, as the phase has it; the
session unwinds if the foreign code does. -/
theorem progress_serve (own : session.binding.owns session.state = true)
    (due : session.due request = some call) (trace : Trace) :
    ∃ made, Progress session.binding session.state.number call session.phase made
        (session.serve request trace).2.1.phase ∧
      (session.serve request trace).2.2 = trace ++ session.binding.table.events made ∧
      (session.binding.table.Calm → ∀ entry ∈ made, ∀ text, entry.2 ≠ .panicked text) ∧
      (session.serve request trace).1.panic? = made.findSome? (·.2.panic?) := by
  cases request with
  | point point =>
    simp only [Session.due, Option.ite_none_right_eq_some, Option.some.injEq] at due
    obtain ⟨right, rfl⟩ := due
    simp only [serve, session.evaluate_of_length trace right, Reply.panic?_map]
    refine progress_evaluateWith .exec own (fun ready later owner => ?_) 1
    rw [← owner.binding, ← owner.state] at own
    rw [← owner.binding, ← owner.state, ← owner.info]
    exact ready.binding.makes_execute own later point ready.info.outputDimension
  | batch batch =>
    simp only [Session.due, Option.ite_none_right_eq_some, Option.some.injEq] at due
    obtain ⟨⟨right, rows⟩, rfl⟩ := due
    have full : ¬batch.isEmpty = true := fun empty => rows (List.isEmpty_iff.1 empty)
    simp only [serve, session.evaluateBatch_of_rows trace right full, evaluateRows,
      Reply.panic?_map]
    refine progress_evaluateWith .execBatch own (fun ready later owner => ?_) batch.size
    rw [← owner.binding, ← owner.state] at own
    unfold batchCall
    rw [← owner.binding, ← owner.state, ← owner.info]
    exact ready.binding.makes_executeBatch own later batch ready.info.outputDimension

end Serve

/-! ## Stages -/

theorem run_ending {number : Nat} {stage : Stage} (isOpen : stage.IsOpen)
    (answer : Except Failure Unit) : Stage.Run number stage (ending number answer) .freed :=
  ⟨.finalized, .finalize isOpen _, .freed, .delete, rfl⟩

theorem fits_of_due {session : Session} {request : Request} {call : Call}
    (due : session.due request = some call) :
    call.state = session.state.number ∧ call.Fits session.info := by
  cases request with
  | point point =>
    simp only [Session.due, Option.ite_none_right_eq_some, Option.some.injEq] at due
    obtain ⟨right, rfl⟩ := due
    exact ⟨rfl, right, rfl⟩
  | batch batch =>
    simp only [Session.due, Option.ite_none_right_eq_some, Option.some.injEq] at due
    obtain ⟨⟨right, rows⟩, rfl⟩ := due
    refine ⟨rfl, List.length_pos_iff.2 rows, right, rfl, ?_, rfl⟩
    rw [batch.length_flat, Nat.mul_comm]

/-- The calls that are made are those that may be made on the state. -/
theorem Progress.run {binding : Binding} {number : Nat} {info : FunctionInfo} {call : Call}
    {phase next : Phase} {made : List (Call × Ending)}
    (progress : Progress binding number call phase made next) (own : call.state = number)
    (fits : call.Fits info) : Stage.Run number (phase.stage info) made (next.stage info) := by
  -- a session is spent by an evaluation exactly when the foreign code says so
  have evaluation (ending : Ending) :
      Stage.Step number (.ready info) call ending ((Phase.after ending).stage info) := by
    cases corrupts : ending.corrupts with
    | true =>
      obtain ⟨message, rfl⟩ := Ending.eq_of_corrupts corrupts
      exact .corrupt own fits corrupts
    | false =>
      rw [Phase.after_of_sane corrupts]
      exact .evaluate own fits corrupts
  cases progress with
  | refused => rfl
  | spoiled failure => exact (Stage.Step.spoil info failure).run
  | interrupted text => exact (Stage.Step.interrupt info text).run
  | prepared ending => exact ⟨_, .prepare info, (evaluation ending).run⟩
  | evaluated ending => exact (evaluation ending).run

end Session

end ForeignEval

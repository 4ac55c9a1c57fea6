import ForeignEval.Binding

/-!
# Sessions

A session owns one state of a foreign function for the state's whole life and keeps to the order of
calls: the state is made and asked for its dimensions, prepared before the first evaluation, and in
the end finalized and freed.

* **Phases** — a session is created, becomes ready when it has been prepared, and fails for good
  when preparing fails or the state is corrupted.
* **Evaluations** — `Session.evaluate` and `Session.evaluateBatch` refuse inputs of another
  dimension before anything else, and answer an empty batch without any call.
* **Unwinding** — when foreign code unwinds, the session stays in the phase in which it was.
-/

namespace ForeignEval

open Foreign (CallStatus Trace)

/-- Where a session is in its life. -/
inductive Phase where
  /-- The state has been made and not been prepared. -/
  | created
  /-- The state has been prepared. -/
  | ready
  /-- Preparing the state failed. -/
  | failed (reason : String)
  /-- The foreign code said that the state is corrupted. -/
  | corrupted (reason : String)
deriving DecidableEq

namespace Phase

/-- Whether a session in this phase accepts evaluations. -/
def isUsable : Phase → Bool
  | created | ready => true
  | failed _ | corrupted _ => false

/-- The phase as a value. -/
def text : Phase → String
  | created => "Created"
  | ready => "Ready"
  | failed reason => "Failed(" ++ Text.quoted reason ++ ")"
  | corrupted reason => "Corrupted(" ++ Text.quoted reason ++ ")"

end Phase

/-- The owner of one state. -/
structure Session where
  /-- The function. -/
  binding : Binding
  state : State
  /-- What the function declares for the state. -/
  info : FunctionInfo
  /-- Where the session is in its life. -/
  phase : Phase
  /-- How many points have been handed to the foreign code. -/
  evaluations : Nat

namespace Session

/-! ## Opening and closing -/

/-- Finalizes and frees a state; the first error counts. -/
def shutDown (binding : Binding) (state : State) (trace : Trace) : Except Error Unit × Trace :=
  let (finalized, trace) := binding.finalize state trace
  let (deleted, trace) := binding.deleteState state trace
  (finalized.bind fun _ => deleted, trace)

/-- Makes a state and asks for its dimensions. A state that does not tell them is shut down
again. -/
def new (binding : Binding) (trace : Trace) : Except Error Session × Trace :=
  match binding.createState trace with
  | (.error e, trace) => (.error e, trace)
  | (.ok state, trace) =>
    match binding.info state trace with
    | (.ok info, trace) => (.ok ⟨binding, state, info, .created, 0⟩, trace)
    | (.error e, trace) => (.error e, (shutDown binding state trace).2)

/-- Ends the session. -/
def close (session : Session) (trace : Trace) : Except Error Unit × Trace :=
  shutDown session.binding session.state trace

/-! ## Checks -/

/-- The name of the function. -/
def function (session : Session) : String := session.binding.function

/-- The error for a value of another dimension than a function wants. -/
def mismatch (function : String) (info : FunctionInfo) (actual : Nat) (value : Point) : Error :=
  .dimensionMismatch function info.inputDimension actual value

/-- The error for a point that is not of the input dimension. -/
def checkPoint (session : Session) (point : Point) : Option Error :=
  if point.length = session.info.inputDimension then none
  else some (mismatch session.function session.info point.length point)

/-- The error for a batch that is not of the input dimension of a function; the first row is
shown. -/
def checkBatchOf (function : String) (info : FunctionInfo) (batch : Sample) : Option Error :=
  if batch.dimension = info.inputDimension then none
  else some (mismatch function info batch.dimension ((batch.row? 0).getD []))

/-- The error for a batch that is not of the input dimension. -/
def checkBatch (session : Session) (batch : Sample) : Option Error :=
  checkBatchOf session.function session.info batch

/-! ## Evaluation -/

/-- Prepares the state unless that has been done. -/
def prepare (session : Session) (trace : Trace) : Reply Unit × Session × Trace :=
  match session.phase with
  | .ready => (.ok (), session, trace)
  | .failed reason | .corrupted reason =>
    (.error (.sessionUnusable session.function reason), session, trace)
  | .created =>
    match session.binding.init session.state trace with
    | (.ok (), trace) => (.ok (), { session with phase := .ready }, trace)
    | (.error e, trace) =>
      (.error (e.wrap session.function), { session with phase := .failed e.message }, trace)
    -- the phase stays, so the next evaluation prepares again
    | (.panic text, trace) => (.panic text, session, trace)

/-- The phase after an evaluation failed: an error that reports a corrupted state ends the
session. -/
def phaseAfter (session : Session) : Error → Phase
  | .foreignExecution _ _ .stateCorrupted message => .corrupted message
  | _ => session.phase

/-- The reply and the session after an evaluation of `points` points has ended. -/
def conclude {α : Type} (session : Session) (points : Nat) : Reply α → Reply α × Session
  | .ok value => (.ok value, { session with evaluations := session.evaluations + points })
  | .error e =>
    (.error (e.wrap session.function),
      { session with
        evaluations := session.evaluations + points
        phase := session.phaseAfter e })
  -- what unwinds is not counted
  | .panic text => (.panic text, session)

/-- Prepares the state if needed and makes an evaluation of `points` points with it. -/
def evaluateWith {α : Type} (session : Session) (points : Nat)
    (call : Session → Trace → Reply α × Trace) (trace : Trace) : Reply α × Session × Trace :=
  match session.prepare trace with
  | (.error e, session, trace) => (.error e, session, trace)
  | (.panic text, session, trace) => (.panic text, session, trace)
  | (.ok (), session, trace) =>
    let (reply, trace) := call session trace
    let (reply, session) := session.conclude points reply
    (reply, session, trace)

/-- Evaluates a point. -/
def evaluate (session : Session) (point : Point) (trace : Trace) : Reply Point × Session × Trace :=
  match session.checkPoint point with
  | some e => (.error e, session, trace)
  | none =>
    session.evaluateWith 1
      (fun session => session.binding.execute session.state point session.info.outputDimension)
      trace

/-- The outputs of an empty batch. -/
def emptyOutput (info : FunctionInfo) : Sample :=
  (Sample.empty info.outputDimension).withDescription info.description

/-- Evaluates a batch in one call. -/
def evaluateBatch (session : Session) (batch : Sample) (trace : Trace) :
    Reply Sample × Session × Trace :=
  match session.checkBatch batch with
  | some e => (.error e, session, trace)
  | none =>
    -- no rows, no call: the phase is not asked either
    if batch.isEmpty then (.ok (emptyOutput session.info), session, trace)
    else
      let (reply, session, trace) :=
        session.evaluateWith batch.size
          (fun session =>
            session.binding.executeBatch session.state batch session.info.outputDimension)
          trace
      (reply.map (·.withDescription session.info.description), session, trace)

/-! ## Text -/

/-- The session as a record. -/
def recordText (session : Session) : String :=
  "ExecutionSession \x7b function: " ++ Text.quoted session.function ++
    ", phase: " ++ session.phase.text ++
    ", evaluations: " ++ toString session.evaluations ++ " \x7d"

end Session

end ForeignEval

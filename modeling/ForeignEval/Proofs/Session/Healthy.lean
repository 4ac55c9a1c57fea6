import ForeignEval.Proofs.Foreign.RowWise
import ForeignEval.Proofs.Session.Frame

/-!
# Sessions of row-wise functions

A session of a row-wise function never fails for good: it can always be prepared, and no evaluation
corrupts its state. What it answers does not depend on the trace, so all sessions of the function
answer alike.

* **Invariant** — `Session.Healthy`: the session owns its state and is usable.
* **Points** — `Session.Healthy.evaluate`: the answer is that of the function.
* **Batches** — `Session.Healthy.evaluateBatch`: so it is, row by row.
-/

namespace ForeignEval

open Foreign (Answer EntryPoint Failure Table Trace)

/-- The reply of a binding to what the function answered at an entry point. -/
def Binding.callReply {α : Type} (binding : Binding) (entry : EntryPoint) :
    Except Failure α → Reply α
  | .ok value => .ok value
  | .error failure => .error (binding.callError entry failure)

/-- The reply of a session to the same. -/
def Binding.sessionReply {α : Type} (binding : Binding) (entry : EntryPoint) :
    Except Failure α → Reply α
  | .ok value => .ok value
  | .error failure => .error ((binding.callError entry failure).wrap binding.function)

/-- A reply to rows: the function's outputs for all of them, or its first failure. -/
def Binding.RowsReply (binding : Binding) (F : Point → Except Failure Point) (rows : List Point)
    (reply : Reply Sample) : Prop :=
  match rows.mapM F with
  | .ok outputs => ∃ sample, reply = .ok sample ∧ sample.rows = outputs
  | .error failure => reply = binding.sessionReply .execBatch (.error failure)

/-- Outputs for rows are read back from the buffer as they are. -/
theorem Foreign.Table.RowWise.rows_outputSample {table : Table} {info : FunctionInfo}
    {F : Point → Except Failure Point} (rowWise : table.RowWise info F) {rows outputs : List Point}
    (right : ∀ row ∈ rows, row.length = info.inputDimension) (ok : rows.mapM F = .ok outputs) :
    (Binding.outputSample info.outputDimension rows.length outputs.flatten).rows = outputs := by
  have belong := Foreign.forall₂_of_mapM_ok ok
  have size := belong.length_eq
  have shape : ∀ output ∈ outputs, output.length = info.outputDimension := by
    intro output mem
    obtain ⟨place, bound, rfl⟩ := List.getElem_of_mem mem
    exact rowWise.length _ _ (right _ (List.getElem_mem (size ▸ bound)))
      (belong.get (size ▸ bound) bound)
  show splitRows info.outputDimension rows.length (written _ outputs.flatten) = outputs
  rw [size, written_of_length_eq (length_flatten_rows shape), splitRows_flatten shape]

namespace Session

/-- A usable session on a binding that was told certain dimensions. -/
structure Healthy (binding : Binding) (info : FunctionInfo) (session : Session) : Prop where
  /-- The binding is that of the session, -/
  binding_eq : session.binding = binding
  /-- which made the state. -/
  own : binding.owns session.state = true
  /-- The dimensions are those of the session. -/
  info_eq : session.info = info
  /-- Evaluations are accepted. -/
  usable : session.phase.isUsable = true

/-- What comes of a batch when a session answers it as the function answers its rows, and counts
them. -/
structure Answers (binding : Binding) (info : FunctionInfo) (F : Point → Except Failure Point)
    (session : Session) (batch : Sample) (result : Reply Sample × Session × Trace) : Prop where
  replied : binding.RowsReply F batch.rows result.1
  /-- The session is as healthy as before. -/
  healthy : result.2.1.Healthy binding info
  counted : result.2.1.evaluations = session.evaluations + batch.size

variable {binding : Binding} {info : FunctionInfo} {F : Point → Except Failure Point}
  {session : Session}

theorem healthy_new (rowWise : binding.table.RowWise info F) {before after : Trace}
    (opened : Session.new binding before = (.ok session, after)) :
    session.Healthy binding info ∧ session.evaluations = 0 := by
  unfold Session.new at opened
  cases created : binding.createState before with
  | mk result rest =>
    rw [created] at opened
    cases result with
    | error e => cases opened
    | ok state =>
      have own : binding.owns state = true := by
        unfold Binding.createState at created
        split at created <;> cases created
        exact decide_eq_true rfl
      have told : binding.info state rest = (.ok info, (binding.info state rest).2) := by
        unfold Binding.info Table.info
        rw [if_pos own, rowWise.told]
      dsimp only at opened
      rw [told] at opened
      cases opened
      exact ⟨⟨rfl, own, rfl, rfl⟩, rfl⟩

namespace Healthy

variable (healthy : session.Healthy binding info)

include healthy

theorem counted (points : Nat) : (session.counted points).Healthy binding info :=
  ⟨healthy.binding_eq, healthy.own, healthy.info_eq, rfl⟩

theorem function_eq : session.function = binding.function :=
  congrArg Binding.function healthy.binding_eq

theorem prepare (rowWise : binding.table.RowWise info F) (trace : Trace) :
    ∃ later, session.prepare trace = (.ok (), { session with phase := .ready }, later) := by
  have own := healthy.own
  have usable := healthy.usable
  unfold Session.prepare
  split
  · rename_i phase
    refine ⟨trace, ?_⟩
    rw [← phase]
  · rename_i phase
    rw [phase] at usable
    cases usable
  · rename_i phase
    rw [phase] at usable
    cases usable
  · rw [healthy.binding_eq]
    have prepared : binding.init session.state trace =
        (.ok (), (binding.init session.state trace).2) := by
      unfold Binding.init Table.init
      rw [if_pos own, rowWise.prepared]
    rw [prepared]
    exact ⟨_, rfl⟩

omit healthy in
/-- A failure that leaves the state usable does not end a session. -/
theorem phaseAfter_callError {entry : EntryPoint} {failure : Failure}
    (usable : failure.status ≠ .stateCorrupted) :
    session.phaseAfter (binding.callError entry failure) = session.phase := by
  obtain ⟨status, message⟩ := failure
  cases status with
  | stateCorrupted => exact absurd rfl usable
  | success | executionError | panic => rfl

/-- An evaluation ends as the call does, and its points are counted. -/
theorem evaluateWith {α : Type} (rowWise : binding.table.RowWise info F) (points : Nat)
    {call : Session → Trace → Reply α × Trace} {entry : EntryPoint} {answer : Except Failure α}
    (usable : ∀ failure, answer = .error failure → failure.status ≠ .stateCorrupted)
    (called : ∀ later, (call { session with phase := .ready } later).1 =
      binding.callReply entry answer) (trace : Trace) :
    ∃ later, session.evaluateWith points call trace =
      (binding.sessionReply entry answer, session.counted points, later) := by
  obtain ⟨middle, prepared⟩ := healthy.prepare rowWise trace
  refine ⟨(call { session with phase := .ready } middle).2, ?_⟩
  rw [session.evaluateWith_of_prepared trace prepared, called middle]
  cases answer with
  | ok value => rfl
  | error failure =>
    have name : ({ session with phase := .ready } : Session).function = binding.function :=
      healthy.function_eq
    have stays : ({ session with phase := .ready } : Session).phaseAfter
        (binding.callError entry failure) = .ready :=
      phaseAfter_callError (usable failure rfl)
    show (Reply.error (Error.wrap (Session.function _) _),
      ({ session with evaluations := _, phase := Session.phaseAfter _ _ } : Session), _) = _
    rw [stays, name]
    rfl

/-- A point is answered by the function. -/
theorem evaluate (rowWise : binding.table.RowWise info F) {point : Point}
    (right : point.length = info.inputDimension) (trace : Trace) :
    ∃ later, session.evaluate point trace =
      (binding.sessionReply .exec (F point), session.counted 1, later) := by
  have declared : point.length = session.info.inputDimension := by rw [healthy.info_eq, right]
  rw [session.evaluate_of_length trace declared]
  refine healthy.evaluateWith rowWise 1 (fun failure => rowWise.usable point failure right) ?_ trace
  intro later
  show (session.binding.execute session.state point session.info.outputDimension later).1 = _
  rw [healthy.binding_eq, healthy.info_eq]
  unfold Binding.execute Table.exec
  rw [if_pos healthy.own, rowWise.point later _ point right]
  cases answer : F point with
  | error failure => rfl
  | ok value =>
    show Reply.ok (written _ value) = _
    rw [written_of_length_eq (rowWise.length point value right answer)]
    rfl

/-- Without rows there is nothing to answer. -/
theorem evaluateBatch_of_isEmpty {batch : Sample} (right : batch.dimension = info.inputDimension)
    (empty : batch.isEmpty = true) (trace : Trace) :
    session.Answers binding info F batch (session.evaluateBatch batch trace) := by
  have declared : batch.dimension = session.info.inputDimension := by rw [healthy.info_eq, right]
  have none : batch.rows = [] := List.isEmpty_iff.1 empty
  have size : batch.size = 0 := congrArg List.length none
  rw [session.evaluateBatch_of_isEmpty trace declared empty]
  refine ⟨?_, healthy, ?_⟩
  · rw [none]
    exact ⟨_, rfl, rfl⟩
  · rw [size]
    rfl

/-- Rows are answered by the function, one after the other; they are counted either way. -/
theorem evaluateBatch (rowWise : binding.table.RowWise info F) {batch : Sample}
    (right : batch.dimension = info.inputDimension) (trace : Trace) :
    session.Answers binding info F batch (session.evaluateBatch batch trace) := by
  have declared : batch.dimension = session.info.inputDimension := by rw [healthy.info_eq, right]
  by_cases empty : batch.isEmpty = true
  · exact healthy.evaluateBatch_of_isEmpty right empty trace
  · have some : batch.rows ≠ [] := mt List.isEmpty_iff.2 empty
    have lengths : ∀ row ∈ batch.rows, row.length = info.inputDimension :=
      fun row mem => (batch.length_of_mem row mem).trans right
    -- what the call answers; the description is added to it later
    let answer : Except Failure Sample := (batch.rows.mapM F).map fun outputs =>
      Binding.outputSample info.outputDimension batch.size outputs.flatten
    have usable : ∀ failure, answer = .error failure → failure.status ≠ .stateCorrupted := by
      intro failure failed
      cases answered : batch.rows.mapM F with
      | ok outputs =>
        simp only [answer, answered] at failed
        cases failed
      | error failure' =>
        simp only [answer, answered] at failed
        cases failed
        obtain ⟨row, mem, failed⟩ := Foreign.exists_of_mapM_error answered
        exact rowWise.usable row failure (lengths row mem) failed
    have called : ∀ later, (session.binding.executeBatch session.state batch
        session.info.outputDimension later).1 = binding.callReply .execBatch answer := by
      intro later
      rw [healthy.binding_eq, healthy.info_eq]
      have answers : binding.table.onExecBatch later session.state.number batch.size
          batch.dimension batch.flat info.outputDimension (batch.size * info.outputDimension) =
            .ofExcept ((batch.rows.mapM F).map List.flatten) := by
        rw [right]
        exact rowWise.batch later session.state.number batch.rows some lengths
      unfold Binding.executeBatch Table.execBatch
      simp only [if_pos healthy.own, answers, answer]
      cases batch.rows.mapM F with
      | ok outputs => exact binding.readRows_written _ _ _
      | error failure => rfl
    obtain ⟨later, evaluated⟩ : ∃ later, session.evaluateRows batch trace =
        (binding.sessionReply .execBatch answer, session.counted batch.size, later) :=
      healthy.evaluateWith rowWise batch.size usable called trace
    rw [session.evaluateBatch_of_rows trace declared empty, evaluated]
    refine ⟨?_, healthy.counted batch.size, rfl⟩
    unfold Binding.RowsReply
    cases answered : batch.rows.mapM F with
    | error failure =>
      simp only [answer, answered]
      rfl
    | ok outputs =>
      simp only [answer, answered]
      exact ⟨_, rfl, rowWise.rows_outputSample lengths answered⟩

end Healthy

end Session

end ForeignEval

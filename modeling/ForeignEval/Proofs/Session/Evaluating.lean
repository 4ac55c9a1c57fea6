import ForeignEval.Proofs.Foreign.Evaluates
import ForeignEval.Proofs.Session.Custody
import ForeignEval.Proofs.Session.Healthy

/-!
# Sessions on functions that evaluate rows

A session uses its state in order. On a function that evaluates rows it can therefore be opened, it
answers the rows with their values, and it can be closed. Custody is what says how far the state has
come.

* **Opening** — `Session.new_of_custody`.
* **Points** — `Session.Healthy.evaluate_of_at`.
* **Batches** — `Session.Healthy.evaluateBatch_of_at`.
* **Closing** — `Session.Healthy.close_of_at`.
-/

namespace ForeignEval

open Foreign (Ending Failure Stage Table Trace endingOf)

/-- Every point is answered with its value. -/
def Foreign.valued (f : Point → Point) : Point → Except Failure Point := fun point => .ok (f point)

theorem Foreign.mapM_valued (f : Point → Point) (rows : List Point) :
    rows.mapM (valued f) = .ok (rows.map f) := List.mapM_pure

namespace Session

variable {binding : Binding} {info : FunctionInfo} {f : Point → Point} {rows : List Point}
  {session : Session} {sessions : List Session} {trace : Trace}
  (evaluates : binding.table.Evaluates info f rows)

include evaluates

theorem new_of_custody (custody : Custody none sessions trace) :
    new binding trace = (.ok (opened binding (binding.nextId trace).number info),
      trace ++ binding.table.events (Stage.opening (binding.nextId trace).number info)) := by
  have own : binding.owns ⟨binding.id, (binding.nextId trace).number⟩ = true := decide_eq_true rfl
  have step : Stage.Step (binding.nextId trace).number .unborn (.create _) .returned .born :=
    .create
  obtain ⟨-, born⟩ := custody.grow_reserved binding step.run
  have created : binding.createState trace = (.ok ⟨binding.id, (binding.nextId trace).number⟩,
      trace ++ binding.table.events [(.create (binding.nextId trace).number, .returned)]) := by
    unfold Binding.createState Table.create
    rw [evaluates.created]
    rfl
  have told := evaluates.told _ _ born
  unfold new Binding.info Table.info
  rw [created]
  dsimp only
  rw [if_pos own, told, Table.record_eq, List.append_assoc]
  rfl

omit evaluates in
/-- Custody says how far the state of a healthy session has come. -/
theorem Healthy.at_of_custody (healthy : session.Healthy binding info)
    (custody : Custody none sessions trace) (mem : session ∈ sessions) :
    binding.table.At trace session.state.number (session.phase.stage info) := by
  have held := custody.held session mem
  unfold Session.id at held
  rw [healthy.binding_eq, healthy.info_eq] at held
  exact held

namespace Healthy

variable (healthy : session.Healthy binding info)
  (held : binding.table.At trace session.state.number (session.phase.stage info))

include healthy held

theorem close_of_at : (session.close trace).1 = .ok () := by
  have finalized := evaluates.finalized trace _ _ held (Phase.isOpen_stage info session.phase)
  unfold Session.close shutDown Binding.finalize Table.finalize Binding.deleteState
  rw [healthy.binding_eq, if_pos healthy.own, finalized]
  dsimp only
  rw [if_pos healthy.own]
  rfl

omit evaluates

variable (answers : binding.table.AnswersTogether info f rows)

include answers

/-- A usable session can be prepared, and its state is ready then. -/
theorem prepare_of_at :
    ∃ later, session.prepare trace = (.ok (), { session with phase := .ready }, later) ∧
      binding.table.At later session.state.number (.ready info) := by
  have own := healthy.own
  have usable := healthy.usable
  unfold Session.prepare
  split
  · rename_i phase
    rw [phase] at held
    refine ⟨trace, ?_, held⟩
    rw [← phase]
  · rename_i phase
    rw [phase] at usable
    cases usable
  · rename_i phase
    rw [phase] at usable
    cases usable
  · rename_i phase
    rw [phase] at held
    have prepared := answers.prepared trace _ held
    have step : Stage.Step session.state.number (.fresh info) (.init _) .returned (.ready info) :=
      .prepare info
    have life : Trace.lifeOf (trace ++ binding.table.events [(.init _, .returned)])
        (binding.table.idOf session.state.number) = _ :=
      Trace.lifeOf_append_events trace step.run.forall_state
    refine ⟨trace ++ binding.table.events [(.init session.state.number, .returned)], ?_, ?_⟩
    · rw [healthy.binding_eq]
      unfold Binding.init Table.init
      rw [if_pos own, prepared]
      rfl
    · unfold Table.At
      rw [life]
      exact Stage.Run.append held step.run

omit answers in
/-- A row is answered with its value, in a call that leaves the state ready. -/
theorem evaluate_of_at (answers : binding.table.AnswersRows info f rows) {row : Point}
    (right : row.length = info.inputDimension) (mem : row ∈ rows) :
    ∃ later, session.evaluate row trace = (.ok (f row), session.counted 1, later) ∧
      binding.table.At later session.state.number (.ready info) := by
  have declared : row.length = session.info.inputDimension := by rw [healthy.info_eq, right]
  obtain ⟨middle, prepared, ready⟩ := healthy.prepare_of_at held answers.toAnswersTogether
  obtain ⟨values, answered, buffer⟩ := answers.point middle _ ready row mem
  have step : Stage.Step session.state.number (.ready info)
      (.exec session.state.number row info.outputDimension) .returned (.ready info) :=
    .evaluate rfl ⟨right, rfl⟩ rfl
  have called : session.binding.execute session.state row session.info.outputDimension middle =
      (.ok (f row), middle ++ binding.table.events
        [(.exec session.state.number row info.outputDimension, .returned)]) := by
    rw [healthy.binding_eq, healthy.info_eq]
    unfold Binding.execute Table.exec
    rw [if_pos healthy.own, answered]
    dsimp only
    rw [buffer]
    rfl
  have life : Trace.lifeOf (middle ++ binding.table.events [(.exec _ row _, .returned)])
      (binding.table.idOf session.state.number) = _ :=
    Trace.lifeOf_append_events middle step.run.forall_state
  refine ⟨middle ++ binding.table.events
    [(.exec session.state.number row info.outputDimension, .returned)], ?_, ?_⟩
  · rw [session.evaluate_of_length trace declared,
      session.evaluateWith_of_prepared trace prepared]
    dsimp only
    rw [called]
    rfl
  · unfold Table.At
    rw [life]
    exact Stage.Run.append ready step.run

/-- Rows are answered with their values, in one call that leaves the state ready. -/
theorem evaluateBatch_rows_of_at {batch : Sample} (right : batch.dimension = info.inputDimension)
    (some : ¬batch.isEmpty = true) (sub : batch.rows ⊆ rows) :
    ∃ output later, session.evaluateBatch batch trace =
        (.ok output, session.counted batch.size, later) ∧ output.rows = batch.rows.map f := by
  have declared : batch.dimension = session.info.inputDimension := by rw [healthy.info_eq, right]
  have full : batch.rows ≠ [] := mt List.isEmpty_iff.2 some
  obtain ⟨middle, prepared, ready⟩ := healthy.prepare_of_at held answers
  obtain ⟨values, answered, buffer⟩ := answers.batch middle _ batch.rows ready full sub
  have lengths : ∀ value ∈ batch.rows.map f, value.length = info.outputDimension :=
    List.forall_mem_map.2 fun row mem => answers.length row (sub mem)
  have called : session.binding.executeBatch session.state batch session.info.outputDimension
      middle = (.ok (Binding.outputSample info.outputDimension batch.size values),
        (binding.table.execBatch middle session.state.number batch.size batch.dimension batch.flat
          info.outputDimension (batch.size * info.outputDimension)).2) := by
    rw [healthy.binding_eq, healthy.info_eq]
    unfold Binding.executeBatch Table.execBatch
    rw [if_pos healthy.own, right]
    dsimp only
    rw [show binding.table.onExecBatch middle session.state.number batch.size _ batch.flat _
      (batch.size * info.outputDimension) = .value values from answered]
    dsimp only
    rw [binding.readRows_written]
  have evaluated : session.evaluateRows batch trace =
      (.ok (Binding.outputSample info.outputDimension batch.size values),
        session.counted batch.size, (binding.table.execBatch middle session.state.number
          batch.size batch.dimension batch.flat info.outputDimension
          (batch.size * info.outputDimension)).2) := by
    unfold evaluateRows
    rw [session.evaluateWith_of_prepared trace prepared]
    dsimp only
    rw [called]
    rfl
  rw [session.evaluateBatch_of_rows trace declared some, evaluated]
  refine ⟨_, _, rfl, ?_⟩
  show splitRows info.outputDimension batch.rows.length (written _ values) = batch.rows.map f
  rw [show written (info.outputDimension * batch.size) values = _ from buffer,
    ← List.length_map f, splitRows_flatten lengths]

/-- A batch is answered with the values of its rows, without a call if there are none. -/
theorem evaluateBatch_of_at {batch : Sample} (right : batch.dimension = info.inputDimension)
    (sub : batch.rows ⊆ rows) :
    session.Answers binding info (Foreign.valued f) batch (session.evaluateBatch batch trace) := by
  by_cases empty : batch.isEmpty = true
  · exact healthy.evaluateBatch_of_isEmpty right empty trace
  · obtain ⟨output, later, evaluated, values⟩ :=
      healthy.evaluateBatch_rows_of_at held answers right empty sub
    rw [evaluated]
    refine ⟨?_, healthy.counted batch.size, rfl⟩
    unfold Binding.RowsReply
    rw [Foreign.mapM_valued]
    exact ⟨output, rfl, values⟩

end Healthy

end Session

end ForeignEval

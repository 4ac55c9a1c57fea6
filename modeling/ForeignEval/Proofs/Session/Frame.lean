import ForeignEval.Session

/-!
# What an evaluation does to a session

An evaluation prepares the state if that is due and then makes one call. Whatever comes of it, the
session keeps its function, its state and the declared dimensions, and the trace grows by those two
calls at most.

* **Frame** — `Session.sameOwner_evaluate`, `Session.sameOwner_evaluateBatch`.
* **Calls** — `Session.extends_evaluateBatch`: at most a preparation and one batch call.
* **Outputs** — `Session.evaluateWith_ok`: a value is what the call returned, after preparing;
  `Session.evaluateBatch_ok` gives its shape.
-/

namespace ForeignEval

open Foreign (Answer Call Ending Event Table Trace)

theorem Reply.ofExcept_eq_ok_iff {α : Type} {result : Except Error α} {value : α} :
    Reply.ofExcept result = .ok value ↔ result = .ok value := by
  cases result with
  | ok | error => simp [Reply.ofExcept]

theorem Reply.map_eq_ok_iff {α β : Type} {f : α → β} {reply : Reply α} {value : β} :
    reply.map f = .ok value ↔ ∃ result, reply = .ok result ∧ f result = value := by
  cases reply with
  | ok | error | panic => simp [Reply.map]

/-! ## Traces -/

/-- A trace has grown by some of these calls on a function, in this order. -/
def Foreign.Table.Extends (table : Table) (calls : List Call) (before after : Trace) : Prop :=
  ∃ made : List (Call × Ending), (made.map (·.1)).Sublist calls ∧
    after = before ++ made.map fun call => .called table.source table.library call.1 call.2

namespace Foreign.Table.Extends

variable {table : Table} {calls more : List Call} {before middle after : Trace}

protected theorem refl (table : Table) (calls : List Call) (trace : Trace) :
    table.Extends calls trace trace :=
  ⟨[], List.nil_sublist _, (List.append_nil _).symm⟩

theorem record (table : Table) (trace : Trace) (call : Call) (ending : Ending) :
    table.Extends [call] trace (table.record trace call ending) :=
  ⟨[(call, ending)], List.Sublist.refl _, rfl⟩

theorem append (first : table.Extends calls before middle)
    (second : table.Extends more middle after) : table.Extends (calls ++ more) before after := by
  obtain ⟨made, some, rfl⟩ := first
  obtain ⟨made', some', rfl⟩ := second
  refine ⟨made ++ made', ?_, ?_⟩
  · rw [List.map_append]
    exact some.append some'
  · rw [List.map_append, List.append_assoc]

theorem weaken (extends_ : table.Extends calls before after) (sub : calls.Sublist more) :
    table.Extends more before after := by
  obtain ⟨made, some, grown⟩ := extends_
  exact ⟨made, some.trans sub, grown⟩

end Foreign.Table.Extends

namespace Session

/-! ## Frame -/

/-- Two sessions are one owner at two times. -/
structure SameOwner (session later : Session) : Prop where
  /-- The function is the same. -/
  binding : later.binding = session.binding
  /-- The state is the same. -/
  state : later.state = session.state
  /-- The declared dimensions are the same. -/
  info : later.info = session.info

namespace SameOwner

variable {session middle later : Session}

protected theorem refl (session : Session) : SameOwner session session := ⟨rfl, rfl, rfl⟩

theorem trans (first : SameOwner session middle) (second : SameOwner middle later) :
    SameOwner session later where
  binding := second.binding.trans first.binding
  state := second.state.trans first.state
  info := second.info.trans first.info

theorem function (same : SameOwner session later) : later.function = session.function :=
  congrArg Binding.function same.binding

end SameOwner

/-! ## Cases -/

variable (session : Session) (trace : Trace)

theorem evaluateWith_of_prepared {α : Type} {ready : Session} {later : Trace}
    (prepared : session.prepare trace = (.ok (), ready, later)) (points : Nat)
    (call : Session → Trace → Reply α × Trace) :
    session.evaluateWith points call trace =
      ((ready.conclude points (call ready later).1).1,
        (ready.conclude points (call ready later).1).2, (call ready later).2) := by
  unfold evaluateWith
  rw [prepared]

/-- An evaluation makes its call on the prepared session, or ends as preparing did. -/
theorem evaluateWith_cases {α : Type} (points : Nat) (call : Session → Trace → Reply α × Trace) :
    (∃ ready later, session.prepare trace = (.ok (), ready, later) ∧
      session.evaluateWith points call trace =
        ((ready.conclude points (call ready later).1).1,
          (ready.conclude points (call ready later).1).2, (call ready later).2)) ∨
    (∀ value, (session.evaluateWith points call trace).1 ≠ .ok value) ∧
      (session.evaluateWith points call trace).2 = (session.prepare trace).2 := by
  cases prepared : session.prepare trace with
  | mk reply rest =>
    cases reply with
    | ok =>
      have same := session.evaluateWith_of_prepared trace prepared points call
      exact .inl ⟨rest.1, rest.2, rfl, same⟩
    | error | panic =>
      unfold evaluateWith
      rw [prepared]
      exact .inr ⟨fun _ ok => (nomatch ok), rfl⟩

theorem evaluate_of_length {point : Point} (right : point.length = session.info.inputDimension) :
    session.evaluate point trace = session.evaluateWith 1
      (fun session => session.binding.execute session.state point session.info.outputDimension)
      trace := by
  unfold evaluate checkPoint
  rw [if_pos right]

/-- The evaluation of a batch that has rows. -/
def evaluateRows (batch : Sample) (trace : Trace) : Reply Sample × Session × Trace :=
  session.evaluateWith batch.size
    (fun session => session.binding.executeBatch session.state batch session.info.outputDimension)
    trace

theorem evaluateBatch_of_wrong {batch : Sample}
    (wrong : batch.dimension ≠ session.info.inputDimension) :
    session.evaluateBatch batch trace =
      (.error (mismatch session.function session.info batch.dimension
        ((batch.row? 0).getD [])), session, trace) := by
  unfold evaluateBatch checkBatch checkBatchOf
  rw [if_neg wrong]

/-- A batch without rows leaves the session as it is. -/
theorem evaluateBatch_of_isEmpty {batch : Sample}
    (right : batch.dimension = session.info.inputDimension) (empty : batch.isEmpty = true) :
    session.evaluateBatch batch trace = (.ok (emptyOutput session.info), session, trace) := by
  unfold evaluateBatch checkBatch checkBatchOf
  rw [if_pos right]
  exact if_pos empty

theorem evaluateBatch_of_rows {batch : Sample}
    (right : batch.dimension = session.info.inputDimension) (rows : ¬batch.isEmpty = true) :
    session.evaluateBatch batch trace =
      ((session.evaluateRows batch trace).1.map
          (·.withDescription (session.evaluateRows batch trace).2.1.info.description),
        (session.evaluateRows batch trace).2.1, (session.evaluateRows batch trace).2.2) := by
  unfold evaluateBatch checkBatch checkBatchOf
  rw [if_pos right]
  exact if_neg rows

/-! ## Owners stay -/

theorem sameOwner_prepare : SameOwner session (session.prepare trace).2.1 := by
  unfold prepare
  split
  · exact .refl session
  · exact .refl session
  · exact .refl session
  · split
    · exact ⟨rfl, rfl, rfl⟩
    · exact ⟨rfl, rfl, rfl⟩
    · exact .refl session

theorem sameOwner_conclude {α : Type} (points : Nat) (reply : Reply α) :
    SameOwner session (session.conclude points reply).2 := by
  cases reply with
  | ok | error => exact ⟨rfl, rfl, rfl⟩
  | panic => exact .refl session

theorem sameOwner_evaluateWith {α : Type} (points : Nat)
    (call : Session → Trace → Reply α × Trace) :
    SameOwner session (session.evaluateWith points call trace).2.1 := by
  have owner := session.sameOwner_prepare trace
  rcases session.evaluateWith_cases trace points call with
    ⟨ready, later, prepared, same⟩ | ⟨-, same⟩
  · rw [prepared] at owner
    rw [same]
    exact owner.trans (ready.sameOwner_conclude points _)
  · rw [same]
    exact owner

theorem sameOwner_evaluate (point : Point) :
    SameOwner session (session.evaluate point trace).2.1 := by
  unfold evaluate
  split
  · exact .refl session
  · exact session.sameOwner_evaluateWith trace 1 _

theorem sameOwner_evaluateBatch (batch : Sample) :
    SameOwner session (session.evaluateBatch batch trace).2.1 := by
  unfold evaluateBatch
  split
  · exact .refl session
  · split
    · exact .refl session
    · exact session.sameOwner_evaluateWith trace batch.size _

/-! ## Calls -/

theorem extends_init (binding : Binding) (state : State) :
    binding.table.Extends [.init state.number] trace (binding.init state trace).2 := by
  have recorded := Table.Extends.record binding.table trace (.init state.number)
    (binding.table.onInit trace state.number).ending
  unfold Binding.init
  split
  · split <;> (rename_i same; rwa [← congrArg Prod.snd same])
  · exact .refl _ _ trace

/-- The call by which a session has a batch evaluated. -/
def batchCall (batch : Sample) : Call :=
  .execBatch session.state.number batch.size batch.dimension batch.flat
    session.info.outputDimension (batch.size * session.info.outputDimension)

theorem extends_executeBatch (batch : Sample) :
    session.binding.table.Extends [session.batchCall batch] trace
      (session.binding.executeBatch session.state batch session.info.outputDimension trace).2 := by
  have recorded := Table.Extends.record session.binding.table trace (session.batchCall batch)
    (session.binding.table.onExecBatch trace session.state.number batch.size batch.dimension
      batch.flat session.info.outputDimension (batch.size * session.info.outputDimension)).ending
  unfold Binding.executeBatch
  split
  · dsimp only
    split <;> (rename_i same; rwa [← congrArg Prod.snd same])
  · exact .refl _ _ trace

theorem extends_prepare :
    session.binding.table.Extends [.init session.state.number] trace
      (session.prepare trace).2.2 := by
  have made := extends_init trace session.binding session.state
  unfold prepare
  split
  · exact .refl _ _ trace
  · exact .refl _ _ trace
  · exact .refl _ _ trace
  · split <;> (rename_i same; rwa [same] at made)

/-- A session makes the call of an evaluation after preparing. -/
theorem extends_evaluateWith {α : Type} (points : Nat) (call : Session → Trace → Reply α × Trace)
    {calls : List Call}
    (made : ∀ ready later, SameOwner session ready →
      session.binding.table.Extends calls later (call ready later).2) :
    session.binding.table.Extends (.init session.state.number :: calls) trace
      (session.evaluateWith points call trace).2.2 := by
  have owner := session.sameOwner_prepare trace
  have first := session.extends_prepare trace
  rcases session.evaluateWith_cases trace points call with
    ⟨ready, later, prepared, same⟩ | ⟨-, same⟩
  · rw [prepared] at owner first
    rw [same]
    exact first.append (made ready later owner)
  · rw [same]
    exact first.weaken ((List.nil_sublist calls).cons_cons _)

/-- A batch makes a session prepare and evaluate it, each at most once. -/
theorem extends_evaluateBatch (batch : Sample) :
    session.binding.table.Extends [.init session.state.number, session.batchCall batch] trace
      (session.evaluateBatch batch trace).2.2 := by
  by_cases right : batch.dimension = session.info.inputDimension
  · by_cases empty : batch.isEmpty = true
    · rw [session.evaluateBatch_of_isEmpty trace right empty]
      exact .refl _ _ trace
    · rw [session.evaluateBatch_of_rows trace right empty]
      refine session.extends_evaluateWith trace batch.size _ fun ready later owner => ?_
      have made := ready.extends_executeBatch later batch
      unfold batchCall at made
      rw [owner.binding, owner.state, owner.info] at made
      rw [owner.binding, owner.state, owner.info]
      exact made
  · rw [session.evaluateBatch_of_wrong trace right]
    exact .refl _ _ trace

/-! ## Values -/

/-- A session that can be evaluated is the same, in its ready phase. -/
theorem prepare_ok {ready : Session} {later : Trace}
    (ok : session.prepare trace = (.ok (), ready, later)) :
    ready = { session with phase := .ready } := by
  unfold prepare at ok
  split at ok
  · rename_i phase
    cases ok
    rw [← phase]
  · cases ok
  · cases ok
  · split at ok <;> cases ok
    rfl

/-- The session after points have been evaluated. -/
def counted (points : Nat) : Session :=
  { session with phase := .ready, evaluations := session.evaluations + points }

/-- A value is what the call returned for the prepared session. -/
theorem evaluateWith_ok {α : Type} {points : Nat} {call : Session → Trace → Reply α × Trace}
    {value : α} (ok : (session.evaluateWith points call trace).1 = .ok value) :
    ∃ later, (call { session with phase := .ready } later).1 = .ok value ∧
      (session.evaluateWith points call trace).2 =
        (session.counted points, (call { session with phase := .ready } later).2) := by
  rcases session.evaluateWith_cases trace points call with
    ⟨ready, later, prepared, same⟩ | ⟨none, -⟩
  · obtain rfl := session.prepare_ok trace prepared
    rw [same] at ok ⊢
    refine ⟨later, ?_⟩
    cases called : (call { session with phase := .ready } later).1 with
    | ok result =>
      rw [called] at ok
      exact ⟨ok, rfl⟩
    | error | panic =>
      rw [called] at ok
      cases ok
  · exact absurd ok (none value)

theorem execute_ok {binding : Binding} {state : State} {point value : Point} {outputs : Nat}
    (ok : (binding.execute state point outputs trace).1 = .ok value) :
    ∃ values, binding.table.onExec trace state.number point outputs = .value values ∧
      value = written outputs values ∧ (binding.execute state point outputs trace).2 =
        binding.table.record trace (.exec state.number point outputs) .returned := by
  unfold Binding.execute at ok ⊢
  split at ok
  · rename_i own
    rw [if_pos own]
    cases answered : binding.table.onExec trace state.number point outputs with
    | value values =>
      simp only [Table.exec, answered] at ok
      cases ok
      refine ⟨values, rfl, rfl, ?_⟩
      simp only [Table.exec, answered]
      rfl
    | failed | panicked =>
      simp only [Table.exec, answered] at ok
      cases ok
  · cases ok

/-- The outputs of a batch are what the function wrote, cut into rows. -/
theorem executeBatch_ok {binding : Binding} {state : State} {batch output : Sample} {outputs : Nat}
    (ok : (binding.executeBatch state batch outputs trace).1 = .ok output) :
    ∃ values, binding.table.onExecBatch trace state.number batch.size batch.dimension batch.flat
        outputs (batch.size * outputs) = .value values ∧
      output = Binding.outputSample outputs batch.size values ∧
      (binding.executeBatch state batch outputs trace).2 = binding.table.record trace
        (.execBatch state.number batch.size batch.dimension batch.flat outputs
          (batch.size * outputs)) .returned := by
  unfold Binding.executeBatch at ok ⊢
  split at ok
  · rename_i own
    rw [if_pos own]
    cases answered : binding.table.onExecBatch trace state.number batch.size batch.dimension
        batch.flat outputs (batch.size * outputs) with
    | value values =>
      simp only [Table.execBatch, answered, binding.readRows_written] at ok ⊢
      cases ok
      exact ⟨values, rfl, rfl, rfl⟩
    | failed | panicked =>
      simp only [Table.execBatch, answered] at ok
      cases ok
  · cases ok

/-- The outputs of a batch with rows are what the function wrote in one call. -/
theorem evaluateRows_ok {batch outputs : Sample}
    (ok : (session.evaluateRows batch trace).1 = .ok outputs) :
    ∃ later values, session.binding.table.onExecBatch later session.state.number batch.size
        batch.dimension batch.flat session.info.outputDimension
        (batch.size * session.info.outputDimension) = .value values ∧
      outputs = Binding.outputSample session.info.outputDimension batch.size values ∧
      (session.evaluateRows batch trace).2 = (session.counted batch.size,
        session.binding.table.record later (session.batchCall batch) .returned) := by
  obtain ⟨later, called, rest⟩ := session.evaluateWith_ok trace ok
  obtain ⟨values, answered, rfl, recorded⟩ := executeBatch_ok later called
  exact ⟨later, values, answered, rfl, rest.trans (congrArg (Prod.mk _) recorded)⟩

/-- The outputs of a batch have a row for each input, of the declared dimension; if there are any,
the session counted them and the last thing that happened is the call that computed them. -/
theorem evaluateBatch_ok {batch outputs : Sample}
    (ok : (session.evaluateBatch batch trace).1 = .ok outputs) :
    outputs.dimension = session.info.outputDimension ∧ outputs.size = batch.size ∧
      outputs.description = session.info.description ∧
      (batch.rows ≠ [] →
        (session.evaluateBatch batch trace).2.1 = session.counted batch.size ∧
        (session.evaluateBatch batch trace).2.2.getLast? =
          some (.called session.binding.table.source session.binding.table.library
            (session.batchCall batch) .returned)) := by
  by_cases right : batch.dimension = session.info.inputDimension
  · by_cases empty : batch.isEmpty = true
    · rw [session.evaluateBatch_of_isEmpty trace right empty] at ok ⊢
      cases ok
      have none : batch.rows = [] := List.isEmpty_iff.1 empty
      have size : batch.size = 0 := congrArg List.length none
      exact ⟨rfl, size.symm, rfl, fun some => absurd none some⟩
    · rw [session.evaluateBatch_of_rows trace right empty] at ok ⊢
      cases evaluated : (session.evaluateRows batch trace).1 with
      | error | panic =>
        rw [evaluated] at ok
        cases ok
      | ok raw =>
        obtain ⟨later, values, -, rfl, rest⟩ := session.evaluateRows_ok trace evaluated
        rw [evaluated, rest] at ok
        cases ok
        rw [rest]
        exact ⟨rfl, length_splitRows _ _ _, rfl, fun _ => ⟨rfl, List.getLast?_concat⟩⟩
  · rw [session.evaluateBatch_of_wrong trace right] at ok
    cases ok

end Session

end ForeignEval

import ForeignEval.Proofs.Workspace.Custody

/-!
# The contract of the entry points

Foreign functions rely on being called right, and nothing checks that at the call: states must be
alive, evaluations need a prepared state, and buffers must be of the sizes that the state told. Here
this is read off the life of each state, as far as the custody of the runners has brought it.

* **Contract** — `Trace.Allows` is what a call requires of what happened before;
  `Stage.Step.allows`: the steps of a state's life meet it.
* **Release** — `Trace.Released`: states that were made have been finalized and freed.
* **Runs** — `entry_points_respected` and `states_released`, for workspaces used in any order.
-/

namespace ForeignEval

namespace Foreign

variable {past : Trace} {id : StateId}

/-! ## Contract -/

/-- How many values the buffer has that foreign code is handed for the outputs of a call. For a
point its size is all that foreign code is told. -/
def Call.buffer : Call → Nat
  | .exec _ _ buffer => buffer
  | .execBatch _ _ _ _ _ buffer => buffer
  | _ => 0

namespace Trace

/-- A call was made on a state and ended so. -/
def Shows (past : Trace) (id : StateId) (call : Call) (ending : Ending) : Prop :=
  .called id.source id.library call ending ∈ past

/-- A state was made and has not been freed. -/
def Alive (past : Trace) (id : StateId) : Prop :=
  past.Shows id (.create id.number) .returned ∧
    ∀ ending, ¬past.Shows id (.delete id.number) ending

/-- A state has been prepared with success. -/
def Prepared (past : Trace) (id : StateId) : Prop :=
  past.Shows id (.init id.number) .returned

/-- A state has told these dimensions and no others. -/
def Told (past : Trace) (id : StateId) (info : FunctionInfo) : Prop :=
  ∀ other, past.Shows id (.info id.number) (.reported other) ↔ other = info

/-- What a call on a state requires of what happened before. -/
def Allows (past : Trace) (id : StateId) (call : Call) : Prop :=
  match call with
  | .create _ => True
  | .info _ | .init _ | .finalize _ | .delete _ => past.Alive id
  | .exec _ input _ => past.Alive id ∧ past.Prepared id ∧ ∃ info, past.Told id info ∧
      input.length = info.inputDimension ∧ call.buffer = info.outputDimension
  | .execBatch _ rows dimension input outputs _ => past.Alive id ∧ past.Prepared id ∧
      ∃ info, past.Told id info ∧ 1 ≤ rows ∧ dimension = info.inputDimension ∧
        outputs = info.outputDimension ∧ input.length = rows * dimension ∧
        call.buffer = rows * outputs

/-- Every call was allowed when it was made. -/
def Lawful (trace : Trace) : Prop :=
  ∀ (past : Trace) source library call ending rest,
    trace = past ++ .called source library call ending :: rest →
      past.Allows ⟨source, library, call.state⟩ call

end Trace

namespace Stage

variable {info : FunctionInfo} {stage next : Stage} {call : Call} {ending : Ending}

theorem InUse.alive (inUse : InUse id.number (past.lifeOf id)) : past.Alive id := by
  refine ⟨(Trace.mem_lifeOf.1 inUse.made).1, fun ending shown => ?_⟩
  exact inUse.undeleted (.delete id.number, ending) (Trace.mem_lifeOf.2 ⟨shown, rfl⟩) rfl

theorem Shape.alive (shape : Shape id.number (past.lifeOf id) stage) (isOpen : stage.IsOpen) :
    past.Alive id :=
  (shape.inUse isOpen).alive

/-- A prepared state has told its dimensions once. -/
theorem Shape.told (shape : Shape id.number (past.lifeOf id) (.ready info)) :
    past.Told id info ∧ past.Prepared id := by
  obtain ⟨work, life, worked, prepared⟩ := shape
  constructor
  · intro other
    have seen : past.Shows id (.info id.number) (.reported other) ↔
        (.info id.number, .reported other) ∈ opening id.number info ++ work := by
      rw [← life, Trace.mem_lifeOf]
      simp [Trace.Shows, Call.state]
    rw [seen]
    constructor
    · intro mem
      rcases List.mem_append.1 mem with first | later
      · simpa [opening] using first
      · exact (worked _ later).elim
    · rintro rfl
      simp [opening]
  · refine (Trace.mem_lifeOf.1 ?_).1
    rw [life]
    exact List.mem_append_right _ prepared

theorem allows_of_fits (shape : Shape id.number (past.lifeOf id) (.ready info))
    (fits : call.Fits info) : past.Allows id call := by
  have alive := shape.alive trivial
  obtain ⟨told, prepared⟩ := shape.told
  cases call with
  | exec state input outputs => exact ⟨alive, prepared, info, told, fits⟩
  | execBatch state rows dimension input outputs buffer =>
    exact ⟨alive, prepared, info, told, fits⟩
  | create | info | init | finalize | delete => exact fits.elim

/-- The steps of a state's life are allowed. -/
theorem Step.allows (shape : Shape id.number (past.lifeOf id) stage)
    (step : Step id.number stage call ending next) : past.Allows id call := by
  cases step with
  | create | deny => trivial
  | tell | keepMute =>
    have life : past.lifeOf id = [(.create id.number, .returned)] := shape
    refine ⟨(Trace.mem_lifeOf.1 ?_).1, fun ending shown => ?_⟩
    · rw [life]
      exact List.mem_cons_self
    · have mem : (Call.delete id.number, ending) ∈ past.lifeOf id :=
        Trace.mem_lifeOf.2 ⟨shown, rfl⟩
      simp [life] at mem
  | prepare | spoil | interrupt => exact shape.alive trivial
  | evaluate own fits | corrupt own fits => exact allows_of_fits shape fits
  | finalize isOpen => exact shape.alive isOpen
  | delete =>
    obtain ⟨others, answer, life, inUse⟩ := shape
    refine ⟨(Trace.mem_lifeOf.1 ?_).1, fun ending shown => ?_⟩
    · rw [life]
      exact List.mem_append_left _ inUse.made
    · have mem : (Call.delete id.number, ending) ∈ past.lifeOf id :=
        Trace.mem_lifeOf.2 ⟨shown, rfl⟩
      rw [life] at mem
      rcases List.mem_append.1 mem with old | last
      · exact inUse.undeleted _ old rfl
      · simp at last

end Stage

/-- A trace in which every state lives as it may is lawful. -/
theorem Trace.lawful_of_runs {trace : Trace}
    (runs : ∀ id : StateId, ∃ stage, Stage.Run id.number .unborn (trace.lifeOf id) stage) :
    trace.Lawful := by
  rintro past source library call ending rest rfl
  -- the life of the call's state is cut where the trace is cut; the call is the next step there
  obtain ⟨stage, run⟩ := runs ⟨source, library, call.state⟩
  rw [lifeOf_append] at run
  obtain ⟨middle, before, later⟩ := Stage.run_append.1 run
  have here : lifeOf (.called source library call ending :: rest) ⟨source, library, call.state⟩ =
      (call, ending) :: lifeOf rest ⟨source, library, call.state⟩ := by
    simp [lifeOf, Event.on?]
  rw [here] at later
  obtain ⟨next, step, -⟩ := later
  exact step.allows before.shape

/-! ## Release -/

namespace Trace

/-- Every state that was made has been finalized once and then freed once, after all else. -/
def Released (trace : Trace) : Prop :=
  ∀ id : StateId, trace.Shows id (.create id.number) .returned →
    ∃ others answer, trace.lifeOf id =
        others ++ [(.finalize id.number, answer), (.delete id.number, .returned)] ∧
      ∀ entry ∈ others, entry.1 ≠ .finalize id.number ∧ entry.1 ≠ .delete id.number

theorem released_of_settled {trace : Trace}
    (settled : ∀ id : StateId, ∃ stage : Stage, stage.IsSettled ∧
      Stage.Run id.number .unborn (trace.lifeOf id) stage) : trace.Released := by
  intro id shown
  have made := mem_lifeOf.2 ⟨shown, show (Call.create id.number).state = id.number from rfl⟩
  obtain ⟨stage, settled, run⟩ := settled id
  have shape := run.shape
  cases stage with
  | unborn =>
    rw [show trace.lifeOf id = [] from shape] at made
    cases made
  | denied =>
    obtain ⟨failure, life⟩ := shape
    rw [life] at made
    simp at made
  | freed =>
    obtain ⟨others, answer, life, inUse⟩ := shape
    exact ⟨others, answer, life,
      fun entry mem => ⟨inUse.unfinalized entry mem, inUse.undeleted entry mem⟩⟩
  | born | mute | fresh | ready | spent | finalized => exact settled.elim

end Trace

end Foreign

/-! ## Buffers -/

open Foreign (Call Trace)

namespace Binding

/-- What a binding returns for an evaluation is what foreign code has left in the buffer of the call
that was made. -/
structure ReadsBuffer (binding : Binding) : Prop where
  point : ∀ (state : State) (point : Point) (outputs : Nat) (trace : Trace) (value : Point),
    (binding.execute state point outputs trace).1 = .ok value →
      ∃ call values, (binding.execute state point outputs trace).2 =
          binding.table.record trace call .returned ∧
        value = written call.buffer values
  batch : ∀ (state : State) (batch : Sample) (outputs : Nat) (trace : Trace) (output : Sample),
    (binding.executeBatch state batch outputs trace).1 = .ok output →
      ∃ call values, (binding.executeBatch state batch outputs trace).2 =
          binding.table.record trace call .returned ∧
        output.flat = written call.buffer values

theorem readsBuffer (binding : Binding) : binding.ReadsBuffer where
  point state point outputs trace value ok := by
    obtain ⟨values, -, same, recorded⟩ := Session.execute_ok trace ok
    exact ⟨_, values, recorded, same⟩
  batch state batch outputs trace output ok := by
    obtain ⟨values, -, rfl, recorded⟩ := Session.executeBatch_ok trace ok
    refine ⟨_, values, recorded, ?_⟩
    show (splitRows outputs batch.size (written (outputs * batch.size) values)).flatten =
      written (batch.size * outputs) values
    rw [flatten_splitRows (length_written _ _), Nat.mul_comm]

end Binding

/-! ## Runs -/

open Workspace (Name Step)

namespace Workspace

variable {w : Workspace}

/-- Nothing has happened yet. -/
structure Fresh (w : Workspace) : Prop where
  trace : w.trace = []
  runners : w.runners = []

theorem Fresh.kept (fresh : w.Fresh) : w.Kept [] where
  names := by
    rw [fresh.runners]
    exact List.nodup_nil
  custody := by
    rw [fresh.runners, fresh.trace]
    exact .nil

theorem Kept.exists_run {loose : List Session} (kept : w.Kept loose) (id : Foreign.StateId) :
    ∃ stage, Foreign.Stage.Run id.number .unborn (w.trace.lifeOf id) stage := by
  by_cases mem : id ∈ (loose ++ sessionsOf w.runners).map Session.id
  · obtain ⟨session, there, rfl⟩ := List.mem_map.1 mem
    exact ⟨_, kept.custody.held session there⟩
  · obtain ⟨stage, -, run⟩ := kept.custody.settled id mem
    exact ⟨stage, run⟩

theorem Kept.lawful {loose : List Session} (kept : w.Kept loose) : w.trace.Lawful :=
  Trace.lawful_of_runs kept.exists_run

theorem Kept.released (kept : w.Kept []) (ended : w.runners = []) : w.trace.Released := by
  refine Trace.released_of_settled fun id => kept.custody.settled id ?_
  rw [ended]
  exact List.not_mem_nil

end Workspace

/-- A pool closes all of its workers in order, and the first error counts. -/
def Pool.ClosesInOrder (pool : Pool) : Prop :=
  ∀ trace, ∃ closed, closed.map (·.1) = pool.workers.map (·.session) ∧
    pool.close trace =
      (match closed.findSome? Pool.closingError? with
        | none => .ok ()
        | some e => .error e,
      trace ++ Pool.closingEvents closed)

theorem Workspace.Kept.closesInOrder {w : Workspace} (kept : w.Kept []) {name : Name}
    {binding : Binding} {pool : Pool} {cache : Nat}
    (mem : (name, ⟨binding, .pool pool cache⟩) ∈ w.runners) : pool.ClosesInOrder := by
  refine Pool.closeSessions_eq fun session there => kept.custody.owned session ?_
  exact List.mem_flatMap.2 ⟨_, mem, there⟩

section Runs

variable {w : Workspace} (fresh : w.Fresh) {steps : List Step}
  (managed : ∀ step ∈ steps, step.Managed)

include fresh managed

/-- **The entry points are called right.** Sessions, evaluators and pools are opened, used and
closed in any order on any functions. Every call is on a state that the function made and that has
not been freed; every evaluation is on a prepared state, with points and a buffer of the dimensions
that the state told, and with a point at least. -/
theorem entry_points_respected :
    (w.run steps).2.trace.Lawful ∧ (w.run steps).2.finish.2.trace.Lawful ∧
      ∀ binding : Binding, binding.ReadsBuffer := by
  have kept := fresh.kept.run managed
  exact ⟨kept.lawful, kept.finish.1.lawful, Binding.readsBuffer⟩

/-- **No state is left behind.** Once all sessions, evaluators and pools have been closed, be it one
by one or all together, every state that was made has been finalized once and then freed once, after
all else: also those of pools that could not be opened, and those that did not tell their
dimensions. Pools close their workers in order and answer the first error. -/
theorem states_released :
    ((w.run steps).2.runners = [] → (w.run steps).2.trace.Released) ∧
      (w.run steps).2.finish.2.trace.Released ∧
      ∀ name binding pool cache, (name, ⟨binding, .pool pool cache⟩) ∈ (w.run steps).2.runners →
        pool.ClosesInOrder := by
  have kept := fresh.kept.run managed
  obtain ⟨finished, none⟩ := kept.finish
  exact ⟨kept.released, finished.released none, fun _ _ _ _ mem => kept.closesInOrder mem⟩

end Runs

/-- A function of which three states can be made; the second one is not told dimensions, and the
first one cannot be finalized. -/
def Foreign.Script.scarce : Foreign.Script :=
  { standard with
    create := [none, none, none, some (.failing (-1) "full")]
    info := [none, some (.failing (-1) "mute"), none]
    finalize := [some (.failing (-1) "stuck"), none] }

/-- Nothing but a few names of caches. -/
def bare : Workspace :=
  Workspace.new ⟨none, .inOrder⟩ none ⟨[]⟩ ⟨fun _ => .ok .other, fun _ => .error (.system 2)⟩
    ⟨fun _ _ => .error "", fun _ => .ok ()⟩ .once []

/-- A session, an evaluator that cannot be opened, a pool that gets one worker of two, and the end
of all. -/
def hardship : List Step :=
  [.bindLocal "b" "scarce" .scarce, .session "s" "b", .evaluate "s" [⟨1⟩],
    .evaluator "e" "b" none [], .pool "p" "b" none 2 [.workers 2], .evaluate "s" [⟨1⟩, ⟨2⟩],
    .close "s"]

theorem hardship_managed : ∀ step ∈ hardship, step.Managed := by
  simp [hardship, Step.Managed]

/-- Calls that go wrong in every way are still allowed. -/
theorem entry_points_respected_hardship :
    bare.Fresh ∧ (∀ step ∈ hardship, step.Managed) ∧ (bare.run hardship).2.trace.Lawful :=
  ⟨⟨rfl, rfl⟩, hardship_managed, (entry_points_respected ⟨rfl, rfl⟩ hardship_managed).1⟩

/-- Nothing is left of the three states. -/
theorem states_released_hardship :
    bare.Fresh ∧ (∀ step ∈ hardship, step.Managed) ∧ (bare.run hardship).2.runners = [] ∧
      (bare.run hardship).2.trace.Released := by
  have ended : (bare.run hardship).2.runners = [] := rfl
  exact ⟨⟨rfl, rfl⟩, hardship_managed, ended, (states_released ⟨rfl, rfl⟩ hardship_managed).1 ended⟩

end ForeignEval

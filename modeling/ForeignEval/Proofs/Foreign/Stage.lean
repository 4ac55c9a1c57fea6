import ForeignEval.Foreign.Table
import Mathlib.Data.List.Induction

/-!
# The life of a state

A state is made, asked for its dimensions, prepared, evaluated with, finalized and freed. Its
**stage** says how far it has come, and which calls may be made on it next.

* **Steps** — `Stage.Step` is one call and how it ends; `Stage.Run` is a list of them.
* **Lives** — `Trace.lifeOf` picks the calls on one state out of a trace. Calls on other states and
  the coming and going of libraries leave it alone (`Trace.lifeOf_append_events_of_ne`).
* **Shape** — `Stage.Run.shape`: the stage tells which calls there have been, and in which order.
-/

namespace ForeignEval.Foreign

/-- A state of a foreign function, together with the library in which the function lives. -/
structure StateId where
  source : Source
  library : Option Nat
  number : Nat
deriving DecidableEq

/-- Where a state is in its life. -/
inductive Stage where
  | unborn
  /-- It was asked for and not made. -/
  | denied
  | born
  /-- It was asked for its dimensions and did not tell them. -/
  | mute
  /-- It told its dimensions and has not been prepared. -/
  | fresh (info : FunctionInfo)
  | ready (info : FunctionInfo)
  /-- It could not be prepared, or it is corrupted. -/
  | spent (info : FunctionInfo)
  | finalized
  | freed

/-- Whether a call that ended so left a corrupted state. -/
def Ending.corrupts : Ending → Bool
  | .failed failure => failure.status = .stateCorrupted
  | _ => false

theorem Ending.eq_of_corrupts {ending : Ending} (corrupts : ending.corrupts = true) :
    ∃ message, ending = .failed ⟨.stateCorrupted, message⟩ := by
  cases ending with
  | failed failure =>
    obtain ⟨status, message⟩ := failure
    exact ⟨message, by rw [show status = .stateCorrupted from of_decide_eq_true corrupts]⟩
  | returned | reported | panicked => cases corrupts

namespace Call

/-- Whether a call evaluates points of the declared dimensions, into rows of the declared dimension
for which there is a buffer of the right size. -/
def Fits (info : FunctionInfo) : Call → Prop
  | .exec _ input outputs =>
    input.length = info.inputDimension ∧ outputs = info.outputDimension
  | .execBatch _ rows dimension input outputs buffer =>
    0 < rows ∧ dimension = info.inputDimension ∧ outputs = info.outputDimension ∧
      input.length = rows * dimension ∧ buffer = rows * outputs
  | _ => False

/-- Whether a call is one that is made between asking for the dimensions and finalizing. -/
def IsWork : Call → Prop
  | .init _ | .exec _ _ _ | .execBatch _ _ _ _ _ _ => True
  | _ => False

theorem Fits.isWork {info : FunctionInfo} {call : Call} (fits : call.Fits info) : call.IsWork := by
  cases call with
  | exec | execBatch => trivial
  | create | info | init | finalize | delete => exact fits.elim

end Call

namespace Stage

/-- Whether a state is there and has not been finalized. -/
def IsOpen : Stage → Prop
  | mute | fresh _ | ready _ | spent _ => True
  | _ => False

/-- Whether nothing of a state is left: it was never made or has been freed. -/
def IsSettled : Stage → Prop
  | unborn | denied | freed => True
  | _ => False

/-! ## Steps -/

/-- The calls that may be made on a state, by its stage, and what they make of it. -/
inductive Step (number : Nat) : Stage → Call → Ending → Stage → Prop
  | create : Step number .unborn (.create number) .returned .born
  | deny (failure : Failure) : Step number .unborn (.create number) (.failed failure) .denied
  | tell (info : FunctionInfo) : Step number .born (.info number) (.reported info) (.fresh info)
  | keepMute (failure : Failure) : Step number .born (.info number) (.failed failure) .mute
  | prepare (info : FunctionInfo) :
      Step number (.fresh info) (.init number) .returned (.ready info)
  | spoil (info : FunctionInfo) (failure : Failure) :
      Step number (.fresh info) (.init number) (.failed failure) (.spent info)
  /-- Preparing that unwinds may be tried again. -/
  | interrupt (info : FunctionInfo) (text : String) :
      Step number (.fresh info) (.init number) (.panicked text) (.fresh info)
  | evaluate {info : FunctionInfo} {call : Call} {ending : Ending} (own : call.state = number)
      (fits : call.Fits info) (sane : ending.corrupts = false) :
      Step number (.ready info) call ending (.ready info)
  | corrupt {info : FunctionInfo} {call : Call} {ending : Ending} (own : call.state = number)
      (fits : call.Fits info) (corrupts : ending.corrupts = true) :
      Step number (.ready info) call ending (.spent info)
  | finalize {stage : Stage} (isOpen : stage.IsOpen) (ending : Ending) :
      Step number stage (.finalize number) ending .finalized
  | delete : Step number .finalized (.delete number) .returned .freed

/-- Calls in order, each of which may be made when it is its turn. -/
def Run (number : Nat) : Stage → List (Call × Ending) → Stage → Prop
  | stage, [], after => after = stage
  | stage, (call, ending) :: rest, after =>
    ∃ next, Step number stage call ending next ∧ Run number next rest after

section Runs

variable {number : Nat} {stage middle after : Stage} {first rest : List (Call × Ending)}

@[simp] theorem run_nil : Run number stage [] after ↔ after = stage := Iff.rfl

theorem run_append :
    Run number stage (first ++ rest) after ↔
      ∃ middle, Run number stage first middle ∧ Run number middle rest after := by
  induction first generalizing stage with
  | nil => simp
  | cons entry first ih =>
    constructor
    · rintro ⟨next, step, run⟩
      obtain ⟨middle, before, later⟩ := ih.1 run
      exact ⟨middle, ⟨next, step, before⟩, later⟩
    · rintro ⟨middle, ⟨next, step, before⟩, later⟩
      exact ⟨next, step, ih.2 ⟨middle, before, later⟩⟩

theorem Run.append (before : Run number stage first middle) (later : Run number middle rest after) :
    Run number stage (first ++ rest) after :=
  run_append.2 ⟨middle, before, later⟩

theorem Step.run {call : Call} {ending : Ending} (step : Step number stage call ending after) :
    Run number stage [(call, ending)] after :=
  ⟨after, step, rfl⟩

theorem Step.state_eq {call : Call} {ending : Ending} (step : Step number stage call ending after) :
    call.state = number := by
  cases step with
  | evaluate own | corrupt own => exact own
  | _ => rfl

/-- The calls of a run are all on one state. -/
theorem Run.forall_state (run : Run number stage first after) :
    ∀ entry ∈ first, entry.1.state = number := by
  induction first generalizing stage with
  | nil => simp
  | cons entry first ih =>
    obtain ⟨next, step, later⟩ := run
    exact List.forall_mem_cons.2 ⟨step.state_eq, ih later⟩

end Runs

/-! ## Shape -/

/-- The calls with which every state that tells its dimensions begins. -/
def opening (number : Nat) (info : FunctionInfo) : List (Call × Ending) :=
  [(.create number, .returned), (.info number, .reported info)]

/-- Calls that made a state and have not begun to give it up. -/
structure InUse (number : Nat) (life : List (Call × Ending)) : Prop where
  made : (Call.create number, Ending.returned) ∈ life
  unfinalized : ∀ entry ∈ life, entry.1 ≠ .finalize number
  undeleted : ∀ entry ∈ life, entry.1 ≠ .delete number

/-- Which calls a state in a stage has seen. -/
def Shape (number : Nat) (life : List (Call × Ending)) : Stage → Prop
  | unborn => life = []
  | denied => ∃ failure, life = [(.create number, .failed failure)]
  | born => life = [(.create number, .returned)]
  | mute => ∃ failure, life = [(.create number, .returned), (.info number, .failed failure)]
  | fresh info | spent info =>
    ∃ work, life = opening number info ++ work ∧ ∀ entry ∈ work, entry.1.IsWork
  | ready info =>
    ∃ work, life = opening number info ++ work ∧ (∀ entry ∈ work, entry.1.IsWork) ∧
      (Call.init number, Ending.returned) ∈ work
  | finalized => ∃ others ending, life = others ++ [(.finalize number, ending)] ∧
      InUse number others
  | freed => ∃ others ending,
      life = others ++ [(.finalize number, ending), (.delete number, .returned)] ∧
        InUse number others

section Shapes

variable {number : Nat} {life work : List (Call × Ending)} {stage : Stage}

/-- After the opening there is nothing but work. -/
theorem forall_ne_of_worked {info : FunctionInfo} {call : Call}
    (worked : ∀ entry ∈ work, entry.1.IsWork) (idle : ¬call.IsWork)
    (other : call ≠ .create number ∧ call ≠ .info number) :
    ∀ entry ∈ opening number info ++ work, entry.1 ≠ call := by
  rintro entry mem rfl
  simp only [opening, List.cons_append, List.nil_append, List.mem_cons] at mem
  rcases mem with rfl | rfl | mem
  · exact other.1 rfl
  · exact other.2 rfl
  · exact idle (worked entry mem)

theorem inUse_opening {info : FunctionInfo} (worked : ∀ entry ∈ work, entry.1.IsWork) :
    InUse number (opening number info ++ work) where
  made := by simp [opening]
  unfinalized := forall_ne_of_worked worked (by simp [Call.IsWork]) (by simp)
  undeleted := forall_ne_of_worked worked (by simp [Call.IsWork]) (by simp)

theorem Shape.inUse (isOpen : stage.IsOpen) (shape : Shape number life stage) :
    InUse number life := by
  cases stage with
  | mute =>
    obtain ⟨failure, rfl⟩ := shape
    constructor <;> simp
  | fresh info | spent info =>
    obtain ⟨work, rfl, worked⟩ := shape
    exact inUse_opening worked
  | ready info =>
    obtain ⟨work, rfl, worked, -⟩ := shape
    exact inUse_opening worked
  | unborn | denied | born | finalized | freed => exact isOpen.elim

/-- One more call of work keeps the shape of work. -/
theorem forall_isWork_concat {call : Call} {ending : Ending}
    (worked : ∀ entry ∈ work, entry.1.IsWork) (isWork : call.IsWork) :
    ∀ entry ∈ work ++ [(call, ending)], entry.1.IsWork := by
  intro entry mem
  rcases List.mem_append.1 mem with old | new
  · exact worked entry old
  · rw [List.mem_singleton.1 new]
    exact isWork

theorem Shape.step {call : Call} {ending : Ending} {next : Stage}
    (shape : Shape number life stage) (step : Step number stage call ending next) :
    Shape number (life ++ [(call, ending)]) next := by
  cases step with
  | create =>
    rw [show life = [] from shape]
    rfl
  | deny failure =>
    rw [show life = [] from shape]
    exact ⟨failure, rfl⟩
  | tell info =>
    rw [show life = _ from shape]
    exact ⟨[], rfl, by simp⟩
  | keepMute failure =>
    rw [show life = _ from shape]
    exact ⟨failure, rfl⟩
  | prepare info =>
    obtain ⟨work, rfl, worked⟩ := shape
    exact ⟨_, List.append_assoc _ _ _, forall_isWork_concat worked trivial, by simp⟩
  | spoil info failure =>
    obtain ⟨work, rfl, worked⟩ := shape
    exact ⟨_, List.append_assoc _ _ _, forall_isWork_concat worked trivial⟩
  | interrupt info text =>
    obtain ⟨work, rfl, worked⟩ := shape
    exact ⟨_, List.append_assoc _ _ _, forall_isWork_concat worked trivial⟩
  | evaluate own fits sane =>
    obtain ⟨work, rfl, worked, prepared⟩ := shape
    exact ⟨_, List.append_assoc _ _ _, forall_isWork_concat worked fits.isWork,
      List.mem_append_left _ prepared⟩
  | corrupt own fits corrupts =>
    obtain ⟨work, rfl, worked, -⟩ := shape
    exact ⟨_, List.append_assoc _ _ _, forall_isWork_concat worked fits.isWork⟩
  -- from here on only the order of the last calls matters
  | finalize isOpen ending => exact ⟨life, ending, rfl, shape.inUse isOpen⟩
  | delete =>
    obtain ⟨others, ending, rfl, inUse⟩ := shape
    exact ⟨others, ending, List.append_assoc _ _ _, inUse⟩

/-- The stage that a life has led to tells its calls. -/
theorem Run.shape (run : Run number .unborn life stage) : Shape number life stage := by
  induction life using List.reverseRecOn generalizing stage with
  | nil =>
    rw [run_nil.1 run]
    rfl
  | append_singleton life entry ih =>
    -- the last call is taken off, since a shape speaks of all calls before it
    obtain ⟨before, run, next, step, same⟩ := run_append.1 run
    rw [run_nil.1 same]
    exact (ih run).step step

end Shapes

end Stage

/-! ## Lives -/

/-- The call of an event and how it ended, if it was made on this state. -/
def Event.on? (id : StateId) : Event → Option (Call × Ending)
  | .called source library call ending =>
    if source = id.source ∧ library = id.library ∧ call.state = id.number then some (call, ending)
    else none
  | _ => none

/-- The calls on a state and how they ended. -/
def Trace.lifeOf (trace : Trace) (id : StateId) : List (Call × Ending) :=
  trace.filterMap (Event.on? id)

namespace Table

variable (table : Table)

/-- A state of a table by its number. -/
def idOf (number : Nat) : StateId := ⟨table.source, table.library, number⟩

/-- What the trace shows of calls through a table. -/
def events (made : List (Call × Ending)) : Trace :=
  made.map fun entry => .called table.source table.library entry.1 entry.2

@[simp] theorem events_nil : table.events [] = [] := rfl

@[simp] theorem events_cons (entry : Call × Ending) (made : List (Call × Ending)) :
    table.events (entry :: made) =
      .called table.source table.library entry.1 entry.2 :: table.events made := rfl

@[simp] theorem events_append (made more : List (Call × Ending)) :
    table.events (made ++ more) = table.events made ++ table.events more := List.map_append

theorem record_eq (trace : Trace) (call : Call) (ending : Ending) :
    table.record trace call ending = trace ++ table.events [(call, ending)] := rfl

end Table

namespace Trace

variable {table : Table} {number : Nat} {made : List (Call × Ending)}

@[simp] theorem lifeOf_append (before after : Trace) (id : StateId) :
    lifeOf (before ++ after) id = before.lifeOf id ++ after.lifeOf id := List.filterMap_append

theorem lifeOf_events (own : ∀ entry ∈ made, entry.1.state = number) :
    lifeOf (table.events made) (table.idOf number) = made := by
  induction made with
  | nil => rfl
  | cons entry made ih =>
    obtain ⟨first, others⟩ := List.forall_mem_cons.1 own
    have seen : Event.on? (table.idOf number)
        (.called table.source table.library entry.1 entry.2) = some entry := by
      simp [Event.on?, Table.idOf, first]
    rw [Table.events_cons, lifeOf, List.filterMap_cons_some seen]
    exact congrArg _ (ih others)

theorem lifeOf_events_of_ne (own : ∀ entry ∈ made, entry.1.state = number) {id : StateId}
    (other : id ≠ table.idOf number) : lifeOf (table.events made) id = [] := by
  induction made with
  | nil => rfl
  | cons entry made ih =>
    obtain ⟨first, others⟩ := List.forall_mem_cons.1 own
    have unseen : Event.on? id (.called table.source table.library entry.1 entry.2) = none := by
      refine if_neg fun same => other ?_
      cases id
      simp_all [Table.idOf]
    rw [Table.events_cons, lifeOf, List.filterMap_cons_none unseen]
    exact ih others

/-- Calls on a state go to the end of its life. -/
theorem lifeOf_append_events (before : Trace) (own : ∀ entry ∈ made, entry.1.state = number) :
    lifeOf (before ++ table.events made) (table.idOf number) =
      before.lifeOf (table.idOf number) ++ made := by
  rw [lifeOf_append, lifeOf_events own]

theorem lifeOf_append_events_of_ne (before : Trace)
    (own : ∀ entry ∈ made, entry.1.state = number) {id : StateId}
    (other : id ≠ table.idOf number) :
    lifeOf (before ++ table.events made) id = before.lifeOf id := by
  rw [lifeOf_append, lifeOf_events_of_ne own other, List.append_nil]

theorem mem_lifeOf {trace : Trace} {id : StateId} {call : Call} {ending : Ending} :
    (call, ending) ∈ trace.lifeOf id ↔
      .called id.source id.library call ending ∈ trace ∧ call.state = id.number := by
  unfold lifeOf
  rw [List.mem_filterMap]
  constructor
  · rintro ⟨event, mem, seen⟩
    cases event with
    | opened | closed | stuck => cases seen
    | called source library call' ending' =>
      simp only [Event.on?, Option.ite_none_right_eq_some, Option.some.injEq,
        Prod.mk.injEq] at seen
      obtain ⟨⟨rfl, rfl, number⟩, rfl, rfl⟩ := seen
      exact ⟨mem, number⟩
  · rintro ⟨mem, number⟩
    exact ⟨_, mem, by simp [Event.on?, number]⟩

/-! ## Numbers -/

theorem created_append (before after : Trace) (source : Source) :
    created (before ++ after) source = before.created source + after.created source := by
  simp [created, callsOf, List.filterMap_append]

theorem created_le_append (before after : Trace) (source : Source) :
    before.created source ≤ created (before ++ after) source := by
  rw [created_append]
  exact Nat.le_add_right _ _

/-- Asking for a state uses up its number. -/
theorem created_lt_append_events (before : Trace) {ending : Ending} :
    before.created table.source <
      created (before ++ table.events ((.create number, ending) :: made)) table.source := by
  rw [created_append]
  simp [created, callsOf, Event.callOf?]

end Trace

end ForeignEval.Foreign

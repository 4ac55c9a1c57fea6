import ForeignEval.Foreign.Trace

/-!
# Tables of entry points

A table is one foreign function as this library sees it: what it answers to each of its calls. The
answers are arbitrary and may depend on all that has happened so far. Calling through the table
records the call in the trace.

* **Calls** — `Table.create` … `Table.finalize` make a call and append exactly one event.
-/

namespace ForeignEval.Foreign

/-- How an evaluation in foreign code ends. -/
inductive Answer (α : Type) where
  | value (result : α)
  | failed (failure : Failure)
  /-- By unwinding. -/
  | panicked (text : String)

/-- How an answer shows in the trace. -/
def Answer.ending {α : Type} : Answer α → Ending
  | value _ => .returned
  | failed failure => .failed failure
  | panicked text => .panicked text

/-- A foreign function: its answers to the calls, given what has happened before each. Only
preparing and evaluating may unwind. -/
structure Table where
  /-- The function. -/
  source : Source
  /-- The library that it lives in, if any. -/
  library : Option Nat
  /-- Whether a state is made. -/
  onCreate : Trace → Except Failure Unit
  /-- The dimensions told for a state. -/
  onInfo : Trace → Nat → Except Failure FunctionInfo
  /-- The outcome of preparing a state. -/
  onInit : Trace → Nat → Answer Unit
  /-- The values written for a point, given the size of the output buffer. -/
  onExec : Trace → Nat → Point → Nat → Answer Point
  /-- The values written for `rows` points of a dimension in flat form, given the output dimension
  and the size of the output buffer. -/
  onExecBatch : Trace → Nat → (rows dimension : Nat) → List Double → (outputs buffer : Nat) →
    Answer (List Double)
  /-- The outcome of ending the use of a state. -/
  onFinalize : Trace → Nat → Except Failure Unit

/-- How the outcome of a call without a result shows in the trace. -/
def endingOf : Except Failure Unit → Ending
  | .ok _ => .returned
  | .error failure => .failed failure

namespace Table

variable (table : Table)

/-- The trace after one more call. -/
def record (trace : Trace) (call : Call) (ending : Ending) : Trace :=
  trace ++ [.called table.source table.library call ending]

/-- Asks for a state; the answer is its number. -/
def create (trace : Trace) : Except Failure Nat × Trace :=
  let state := trace.created table.source
  let answer := table.onCreate trace
  (answer.map fun _ => state, table.record trace (.create state) (endingOf answer))

/-- Asks for the dimensions. -/
def info (trace : Trace) (state : Nat) : Except Failure FunctionInfo × Trace :=
  let answer := table.onInfo trace state
  let ending := match answer with
    | .ok info => Ending.reported info
    | .error failure => .failed failure
  (answer, table.record trace (.info state) ending)

/-- Has a state prepared. -/
def init (trace : Trace) (state : Nat) : Answer Unit × Trace :=
  let answer := table.onInit trace state
  (answer, table.record trace (.init state) answer.ending)

/-- Has a point evaluated. -/
def exec (trace : Trace) (state : Nat) (input : Point) (outputs : Nat) : Answer Point × Trace :=
  let answer := table.onExec trace state input outputs
  (answer, table.record trace (.exec state input outputs) answer.ending)

/-- Has points in flat form evaluated. -/
def execBatch (trace : Trace) (state rows dimension : Nat) (input : List Double)
    (outputs buffer : Nat) : Answer (List Double) × Trace :=
  let answer := table.onExecBatch trace state rows dimension input outputs buffer
  (answer, table.record trace (.execBatch state rows dimension input outputs buffer) answer.ending)

/-- Ends the use of a state. -/
def finalize (trace : Trace) (state : Nat) : Except Failure Unit × Trace :=
  let answer := table.onFinalize trace state
  (answer, table.record trace (.finalize state) (endingOf answer))

/-- Frees a state. -/
def delete (trace : Trace) (state : Nat) : Trace :=
  table.record trace (.delete state) .returned

end Table

end ForeignEval.Foreign

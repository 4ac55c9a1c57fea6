import ForeignEval.FunctionInfo
import ForeignEval.Foreign.Status
import ForeignEval.Point

/-!
# The trace of foreign calls

All that happens between this library and foreign code, in order: libraries are opened and closed,
and calls are made, each on behalf of one foreign function. States are numbered per function by the
calls that were to make them, so a number is never used twice.

* **Calls** — `Call` says what was asked and `Ending` how the call ended.
* **Trace** — `Trace` is the list of events so far; foreign code may let its answers depend on it.
-/

namespace ForeignEval.Foreign

/-- A foreign function of the process. -/
inductive Source where
  /-- A function that lives in this process, by a serial number. -/
  | inProcess (serial : Nat)
  /-- A function that the module at a path exports. -/
  | exported (path function : String)
deriving DecidableEq, Inhabited

/-- A failure that foreign code reports. -/
structure Failure where
  /-- What kind of failure it is. -/
  status : CallStatus
  /-- What the foreign code has to say about it. -/
  message : String
deriving DecidableEq, Inhabited

/-- What was asked of a foreign function. -/
inductive Call where
  /-- To make the state of this number. -/
  | create (state : Nat)
  /-- To tell its dimensions. -/
  | info (state : Nat)
  /-- To prepare the state for evaluations. -/
  | init (state : Nat)
  /-- To evaluate a point into a buffer of so many values. -/
  | exec (state : Nat) (input : Point) (outputs : Nat)
  /-- To evaluate points, given in flat form, into rows of so many values, for which there is a
  buffer of so many values. -/
  | execBatch (state rows dimension : Nat) (input : List Double) (outputs buffer : Nat)
  /-- To end the use of the state. -/
  | finalize (state : Nat)
  /-- To free the state. -/
  | delete (state : Nat)
deriving DecidableEq

/-- The state that a call is about. -/
def Call.state : Call → Nat
  | create state | info state | init state | exec state _ _ | execBatch state _ _ _ _ _
  | finalize state | delete state => state

/-- How a call ended. -/
inductive Ending where
  /-- It did its work. -/
  | returned
  /-- It told these dimensions. -/
  | reported (info : FunctionInfo)
  | failed (failure : Failure)
  /-- It unwound instead of returning. -/
  | panicked (text : String)
deriving DecidableEq

/-- Something that happened between this library and foreign code. -/
inductive Event where
  /-- A library was opened; the serial number tells openings apart. -/
  | opened (library : Nat) (path : String)
  | closed (library : Nat)
  /-- A library was to be closed and could not be, for a reason. -/
  | stuck (library : Nat) (reason : String)
  /-- A foreign function was called, in this library if it lives in one. -/
  | called (source : Source) (library : Option Nat) (call : Call) (ending : Ending)
deriving DecidableEq

/-- What has happened so far, the earliest event first. -/
abbrev Trace := List Event

/-- The call of an event, if it is one. -/
def Event.call? : Event → Option Call
  | called _ _ call _ => some call
  | _ => none

/-- The call of an event, if it went to this function. -/
def Event.callOf? (source : Source) : Event → Option Call
  | called caller _ call _ => if caller = source then some call else none
  | _ => none

/-- The calls of a trace that went to a function. -/
def Trace.callsOf (trace : Trace) (source : Source) : List Call :=
  trace.filterMap (Event.callOf? source)

/-- How often a function was asked for a state: the number of the next one. -/
def Trace.created (trace : Trace) (source : Source) : Nat :=
  ((trace.callsOf source).filter fun call => call matches .create _).length

end ForeignEval.Foreign

/-!
# Status codes of foreign calls

Foreign code ends each call with a number. Four numbers have a meaning of their own; every other
one counts as a failed execution.
-/

namespace ForeignEval.Foreign

/-- How a foreign call ended, as the foreign code reports it. -/
inductive CallStatus where
  /-- The call did its work. -/
  | success
  /-- The call failed, and the state can still be used. -/
  | executionError
  /-- The call failed and left its state unusable. -/
  | stateCorrupted
  /-- The foreign code gave up in the middle of the call. -/
  | panic
deriving DecidableEq, Inhabited

namespace CallStatus

/-- The meaning of a status number. -/
def ofCode (code : Int) : CallStatus :=
  if code = 0 then success
  else if code = -2 then stateCorrupted
  else if code = -4 then panic
  else executionError

/-- The name of a status in messages. -/
def name : CallStatus → String
  | success => "Success"
  | executionError => "ExecutionError"
  | stateCorrupted => "StateCorrupted"
  | panic => "Panic"

end CallStatus

end ForeignEval.Foreign

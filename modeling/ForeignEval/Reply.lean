import ForeignEval.Error

/-!
# Replies

How an operation that may reach foreign code ends: with a value, with an error, or by the foreign
code unwinding through it.
-/

namespace ForeignEval

/-- The end of an operation that may reach foreign code. -/
inductive Reply (α : Type) where
  | ok (value : α)
  | error (error : Error)
  /-- By unwinding. -/
  | panic (text : String)

namespace Reply

variable {α β : Type}

/-- The reply of an operation that cannot unwind. -/
def ofExcept : Except Error α → Reply α
  | .ok value => ok value
  | .error e => error e

/-- The reply with its value changed. -/
def map (f : α → β) : Reply α → Reply β
  | ok value => ok (f value)
  | error e => error e
  | panic text => panic text

/-- The text with which the operation unwound, if it did. -/
def panic? : Reply α → Option String
  | panic text => some text
  | _ => none

end Reply

end ForeignEval

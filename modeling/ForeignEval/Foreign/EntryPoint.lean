/-!
# Entry points

A foreign function is exported as seven symbols, its name followed by an underscore and a suffix.

* **Order** — `EntryPoint.all` is the order in which the symbols of a function are resolved.
-/

namespace ForeignEval.Foreign

/-- One of the seven calls that a foreign function consists of. -/
inductive EntryPoint where
  /-- Makes a state. -/
  | stateCreate
  /-- Frees a state. -/
  | stateDelete
  /-- Tells the dimensions. -/
  | info
  /-- Prepares a state for evaluations. -/
  | init
  /-- Evaluates one point. -/
  | exec
  /-- Evaluates many points. -/
  | execBatch
  /-- Ends the use of a state. -/
  | finalize
deriving DecidableEq, Inhabited

namespace EntryPoint

/-- All entry points, in the order of resolution. -/
def all : List EntryPoint :=
  [stateCreate, stateDelete, info, init, exec, execBatch, finalize]

/-- The end of the entry point's symbol. -/
def suffix : EntryPoint → String
  | stateCreate => "state_create"
  | stateDelete => "state_delete"
  | info => "info"
  | init => "init"
  | exec => "exec"
  | execBatch => "exec_batch"
  | finalize => "finalize"

/-- The name of the entry point itself. -/
def name : EntryPoint → String
  | stateCreate => "StateCreate"
  | stateDelete => "StateDelete"
  | info => "Info"
  | init => "Init"
  | exec => "Exec"
  | execBatch => "ExecBatch"
  | finalize => "Finalize"

/-- The symbol that a function exports for the entry point. -/
def symbolName (entry : EntryPoint) (function : String) : String :=
  function ++ "_" ++ entry.suffix

/-- The function whose symbol for the entry point this is. -/
def functionOf? (entry : EntryPoint) (symbol : String) : Option String :=
  let ending := '_' :: entry.suffix.toList
  let characters := symbol.toList
  if ending.isSuffixOf characters then
    some (String.ofList (characters.take (characters.length - ending.length)))
  else none

/-- No entry point is left out of the list. -/
theorem mem_all (entry : EntryPoint) : entry ∈ all := by
  cases entry <;> decide

end EntryPoint

end ForeignEval.Foreign

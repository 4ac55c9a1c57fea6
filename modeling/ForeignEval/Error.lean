import ForeignEval.Decimal.Layout
import ForeignEval.Files.Fault
import ForeignEval.Foreign.Status
import ForeignEval.Point
import ForeignEval.Text.Quoted

/-!
# Errors

Everything that can go wrong when a foreign function is found, bound and evaluated, as causes. The
wording stands in one function, and so does the advice that a command line adds to it.

* **Wording** — `Error.message`.
* **Causes** — an internal failure may carry the error that led to it; `Error.causes` lists the
  chain.
* **Advice** — `Error.withHint` appends a line to the errors that a user can do something about.
-/

namespace ForeignEval

open Files (Fault)
open Foreign (CallStatus)

/-- What went wrong. -/
inductive Error where
  /-- No candidate file of this name exists in the directories searched. -/
  | moduleNotFound (name : String) (searched : Nat)
  /-- The file cannot be loaded as a module. -/
  | moduleLoad (path reason : String)
  /-- Some modules could not be closed; each comes with the reason. -/
  | moduleUnload (failures : List (String × String))
  /-- The module does not export the symbol. -/
  | symbolNotFound (path symbol : String)
  /-- The module does not export one of the function's entry points. -/
  | bindingIncomplete (path function entryPoint : String)
  /-- The foreign code made no state. -/
  | stateCreation (function message : String)
  /-- A point or batch is not of the function's input dimension. -/
  | dimensionMismatch (function : String) (expected actual : Nat) (value : Point)
  /-- A foreign call failed. -/
  | foreignExecution (function entryPoint : String) (status : CallStatus) (message : String)
  /-- The evaluation machinery itself failed. -/
  | internal (function message : String)
  /-- The evaluation machinery failed because of another error. -/
  | internalFrom (function message : String) (source : Error)
  /-- The session cannot evaluate any more. -/
  | sessionUnusable (function reason : String)
  /-- All attempts at locating a module met a fault. -/
  | retryExhausted (name : String) (attempts : Nat) (source : Fault)
  /-- A setting has a value that cannot be used. -/
  | invalidConfig (key message : String)
  /-- A file operation failed. -/
  | io (fault : Fault)
deriving DecidableEq, Inhabited

/-- The values of a point in brackets. -/
def Point.text (point : Point) : String := Text.listed (point.map Decimal.Layout.plain.text)

namespace Error

/-- One module that could not be closed, with the reason in parentheses. -/
def unloadFailure : String × String → String
  | (path, reason) => path ++ " (" ++ reason ++ ")"

/-- The wording of an error. -/
def message : Error → String
  | moduleNotFound name searched =>
    "module not found: " ++ name ++ " (searched " ++ toString searched ++ " directories)"
  | moduleLoad path reason => "failed to load module " ++ path ++ ": " ++ reason
  | moduleUnload failures =>
    "failed to unload " ++ toString failures.length ++ " module(s): " ++
      ", ".intercalate (failures.map unloadFailure)
  | symbolNotFound path symbol => "symbol `" ++ symbol ++ "` not found in " ++ path
  | bindingIncomplete path function entryPoint =>
    "binding for `" ++ function ++ "` is incomplete: missing entry point `" ++ entryPoint ++
      "` in " ++ path
  | stateCreation function message =>
    "failed to create state for `" ++ function ++ "`: " ++ message
  | dimensionMismatch function expected actual value =>
    "dimension mismatch for `" ++ function ++ "`: expected " ++ toString expected ++ ", got " ++
      toString actual ++ " (value: " ++ value.text ++ ")"
  | foreignExecution function entryPoint status message =>
    "`" ++ function ++ "` failed in `" ++ entryPoint ++ "` (" ++ status.name ++ "): " ++ message
  | internal function message | internalFrom function message _ =>
    "internal execution error for `" ++ function ++ "`: " ++ message
  | sessionUnusable function reason => "session for `" ++ function ++ "` is unusable: " ++ reason
  | retryExhausted name attempts source =>
    "giving up on " ++ name ++ " after " ++ toString attempts ++ " attempt(s): " ++ source.message
  | invalidConfig key message => "invalid configuration value for `" ++ key ++ "`: " ++ message
  | io fault => "IO error: " ++ fault.message

/-- An internal failure that another error led to, in that error's words. -/
def wrap (function : String) (source : Error) : Error :=
  internalFrom function source.message source

/-- The texts of the errors behind an error, the nearest first. -/
def causes : Error → List String
  | internalFrom _ _ source => source.message :: causes source
  | retryExhausted _ _ source => [source.message]
  | io fault => [fault.message]
  | _ => []

/-- What a user can do about an error. -/
def hint? : Error → Option String
  | moduleNotFound .. =>
    some "add the module's directory with --search-dir or NECTAR_MODULE_PATH"
  | moduleLoad .. =>
    some "check that the module was built for this platform and its dependencies resolve"
  | bindingIncomplete .. | symbolNotFound .. =>
    some ("the module must export NAME_state_create, NAME_state_delete, NAME_info, NAME_init, " ++
      "NAME_exec, NAME_exec_batch and NAME_finalize")
  | dimensionMismatch .. => some "fix the input vector length"
  | sessionUnusable .. => some "discard this evaluator and build a new one"
  | retryExhausted .. =>
    some "raise retry.max_attempts or retry.backoff_ms for slow filesystems"
  | _ => none

/-- The wording, followed by the advice on a line of its own where there is any. -/
def withHint (e : Error) : String :=
  match e.hint? with
  | some hint => e.message ++ "\n  hint: " ++ hint
  | none => e.message

end Error

end ForeignEval

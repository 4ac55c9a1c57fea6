import ForeignEval.Command.Ended
import ForeignEval.Command.Engine
import ForeignEval.Command.Host
import ForeignEval.Json.Reading

/-!
# Running commands

A command makes a registry, binds the function, uses it, and gives everything back: sessions are
closed before the binding's handle goes, and the handle goes before the registry is emptied. That
holds however the command ends.

* **Bracket** — `withBinding` builds the binding and takes everything down after its use.
* **Commands** — `describe` tells what a function declares; `evaluate` reads rows and writes the
  outputs.
* **Program** — `program` reads the arguments and runs the command.
-/

namespace ForeignEval.Command

open Foreign (Trace)

/-! ## Bindings -/

/-- Drops the handle that a binding keeps, and empties the registry. -/
def takeDown (registry : Registry) (binding : Binding) (trace : Trace) :
    Except Error Unit × Trace :=
  let (registry, trace) :=
    match binding.module? with
    | some handle => registry.release handle.library trace
    | none => (registry, trace)
  let (result, _, trace) := registry.teardown trace
  (result, trace)

/-- Binds a function for one use and takes everything down afterwards. -/
def withBinding (registry : Registry) (module function : String)
    (use : Binding → Trace → Ended × Trace) : Ended × Trace :=
  match Binding.build registry 1 module function [] with
  | (.error e, registry, trace) => (.failed (.error e), (registry.teardown trace).2.2)
  | (.ok binding, registry, trace) =>
    let (ended, trace) := use binding trace
    let (result, trace) := takeDown registry binding trace
    (ended.andThen result, trace)

/-! ## Describing a function -/

/-- What a function declares, line by line. -/
def infoLines (function : String) (path : Option String) (info : FunctionInfo) : List String :=
  ["function:    " ++ function] ++
    (path.map ("module:      " ++ ·)).toList ++
    ["inputs:      " ++ toString info.inputDimension,
      "outputs:     " ++ toString info.outputDimension,
      "description: " ++ info.description.getD "(none)"]

/-- What a function declares, in lines or in JSON. -/
def infoText (options : InfoOptions) (path : Option String) (info : FunctionInfo) : String :=
  if options.json then info.document.pretty ++ "\n"
  else String.join ((infoLines options.function path info).map (· ++ "\n"))

/-- Asks a function what it declares. -/
def describeBound (options : InfoOptions) (binding : Binding) (trace : Trace) : Ended × Trace :=
  match Session.new binding trace with
  | (.error e, trace) => (.failed (.error e), trace)
  | (.ok session, trace) =>
    match session.close trace with
    | (.error e, trace) => (.failed (.error e), trace)
    | (.ok _, trace) => ({ output := infoText options binding.modulePath? session.info }, trace)

/-- Describes a function. -/
def describe (host : Host) (options : InfoOptions) : Ended × Trace :=
  match Config.ofEnvironment host.machine.processors host.environment with
  | .error e => (.failed (.error e), [])
  | .ok config =>
    withBinding (host.registry options.searchDirectories config.retry) options.module
      options.function (describeBound options)

/-! ## Evaluating a batch -/

/-- The configuration of an evaluation. -/
def EvalOptions.configOn (options : EvalOptions) (host : Host) : Except Error Config := do
  let config ← match options.config with
    | some path => Config.ofFile host.machine.processors path (host.textOf path)
    | none => Config.ofEnvironment host.machine.processors host.environment
  return match options.workers with
    | some workers => config.withWorkers workers
    | none => config

/-- The batch that a text holds. -/
def batchOf (dimension : Nat) (text : String) : Except Failure Sample :=
  match Json.readDocument (Json.readList (Json.readList Json.readDouble)) text with
  | .error e => .error (.noRows e)
  | .ok rows =>
    match Sample.ofRows dimension rows with
    | .ok batch => .ok batch
    | .error index => .error (.badRow index ((rows[index]?).getD []).length dimension)

/-- The batch that the command is to evaluate. -/
def EvalOptions.batchOn (options : EvalOptions) (host : Host) (dimension : Nat) :
    Except Failure Sample :=
  match host.readInput options.input with
  | .error (place, fault) => .error (.unreadable place fault)
  | .ok text => batchOf dimension text

/-- Rows in JSON on a line. -/
def rowsText (rows : List Point) : String :=
  (Json.Document.array (rows.map fun row => .array (row.map .double))).render ++ "\n"

/-- How often a batch is evaluated at least. -/
def EvalOptions.times (options : EvalOptions) : Nat := max options.repetitions 1

/-- The end of a command whose batch has been evaluated. -/
def evaluated (options : EvalOptions) (batch output : Sample) (engine : Engine) : Ended :=
  let text := rowsText output.rows
  match engine.calls with
  | .error e => { output := text, failure := some (.error e) }
  | .ok calls =>
    { output := text, summary := some ⟨batch.size, options.times, calls, engine.stats⟩ }

/-- Reads the batch and evaluates it. -/
def evaluateWith (host : Host) (options : EvalOptions) (engine : Engine) (trace : Trace) :
    Ended × Engine × Trace :=
  match options.batchOn host engine.info.inputDimension with
  | .error failure => (.failed failure, engine, trace)
  | .ok batch =>
    match Engine.evaluateAgain batch (options.times - 1) engine trace with
    | (.error e, engine, trace) => (.failed (.error e), engine, trace)
    | (.panic text, engine, trace) => (.failed (.unwound text), engine, trace)
    | (.ok output, engine, trace) => (evaluated options batch output engine, engine, trace)

/-- Opens an engine, has it evaluate the batch, and closes it. -/
def evaluateBound (host : Host) (options : EvalOptions) (config : Config) (binding : Binding)
    (trace : Trace) : Ended × Trace :=
  match Engine.new binding config options.workers host.machine.schedule trace with
  | (.error e, trace) => (.failed (.error e), trace)
  | (.ok engine, trace) =>
    let (ended, engine, trace) := evaluateWith host options engine trace
    let (closed, trace) := engine.close trace
    (ended.andThen closed, trace)

/-- Evaluates a batch. -/
def evaluate (host : Host) (options : EvalOptions) : Ended × Trace :=
  match options.configOn host with
  | .error e => (.failed (.error e), [])
  | .ok config =>
    withBinding (host.registry options.searchDirectories config.retry) options.module
      options.function (evaluateBound host options config)

/-! ## The program -/

/-- Runs a command. -/
def run (host : Host) : Command → Ended × Trace
  | .info options => describe host options
  | .eval options => evaluate host options

/-- The name and the version of the program. -/
def versionText : String := "nectar 0.1.0\n"

/-- How the program is used. -/
def helpText : String :=
  "Usage: nectar [-v] info -m MODULE -f FUNCTION [--search-dir DIR]... [--json]\n" ++
    "       nectar [-v] eval -m MODULE -f FUNCTION [--search-dir DIR]... [-i FILE] [-c FILE]\n" ++
    "                        [-w WORKERS] [--repeat TIMES]\n"

/-- Runs the program on its arguments. -/
def program (host : Host) (arguments : List String) : Ended × Trace :=
  match ofArguments arguments with
  | .ok command => run host command
  | .error .help => ({ output := helpText }, [])
  | .error .version => ({ output := versionText }, [])
  | .error (.refused reason) => (.failed (.refused reason), [])

end ForeignEval.Command

import ForeignEval.Command.Flag
import ForeignEval.Text.Numeral

/-!
# Arguments

Reads the arguments of the program, from left to right, into a command. The first thing that
settles the matter counts: a problem, or a request for help or for the version.

* **Words** — `Word.ofArgument` tells flags by their hyphens; a lone hyphen is an ordinary word.
* **Values** — a value follows its flag as the next argument, which must not look like a flag, or
  within the same argument. A value given within the argument may be empty, or start with a hyphen.
* **Once** — all flags but the search directory may be given once. A flag before the command does
  not count as one after it.
-/

namespace ForeignEval

namespace Command

/-! ## Commands -/

/-- What to describe: a function of a module. -/
structure InfoOptions where
  /-- The name or the path of the module. -/
  module : String
  /-- The name of the function. -/
  function : String
  /-- The directories searched before all others. -/
  searchDirectories : List String
  /-- Whether the description is wanted in JSON. -/
  json : Bool
deriving DecidableEq

/-- What to evaluate, and how. -/
structure EvalOptions where
  /-- The name or the path of the module. -/
  module : String
  /-- The name of the function. -/
  function : String
  /-- The directories searched before all others. -/
  searchDirectories : List String
  /-- The file of the input rows, unless they are read from the standard input. -/
  input : Option String
  /-- The file of the configuration, unless the environment defines it. -/
  config : Option String
  /-- The number of workers, if there is to be a pool of them. -/
  workers : Option Nat
  /-- How often the batch is to be evaluated; none counts as once. -/
  repetitions : Nat
deriving DecidableEq

end Command

/-- What the command line asks for. -/
inductive Command where
  /-- To describe a function. -/
  | info (options : Command.InfoOptions)
  /-- To evaluate a batch. -/
  | eval (options : Command.EvalOptions)
deriving DecidableEq

namespace Command

/-- Why arguments are refused. -/
inductive Refusal where
  /-- No flag or command of this name is accepted here. -/
  | unknown (argument : String)
  /-- A value is wanted. -/
  | valueMissing (parameter : Parameter)
  /-- No value is wanted. -/
  | valueUnneeded (switch : Switch)
  /-- The flag has been given before. -/
  | givenTwice (flag : Flag)
  /-- A path has no characters. -/
  | emptyPath (parameter : Parameter)
  /-- The value is no number of the wanted range. -/
  | invalidNumber (parameter : Parameter) (value : String) (reason : Text.NumeralError)
  /-- A flag is needed. -/
  | flagMissing (parameter : Parameter)
  /-- A command is needed. -/
  | commandMissing
deriving DecidableEq

/-- The wording of a refusal. -/
def Refusal.message : Refusal → String
  | unknown argument => "unexpected argument '" ++ argument ++ "'"
  | valueMissing parameter => "a value is required for '--" ++ parameter.long ++ "'"
  | valueUnneeded switch => "no value is wanted for '--" ++ switch.long ++ "'"
  | givenTwice flag => "'--" ++ flag.long ++ "' cannot be given more than once"
  | emptyPath parameter => "the path for '--" ++ parameter.long ++ "' is empty"
  | invalidNumber parameter value reason =>
    "invalid value '" ++ value ++ "' for '--" ++ parameter.long ++ "': " ++ reason.message
  | flagMissing parameter => "'--" ++ parameter.long ++ "' is required"
  | commandMissing => "a command is required"

/-- What ends the reading of arguments before there is a command. -/
inductive Stop where
  /-- A request for help. -/
  | help
  /-- A request for the version. -/
  | version
  /-- A problem. -/
  | refused (reason : Refusal)
deriving DecidableEq

/-! ## Flags given -/

/-- The flags given so far. -/
structure Given where
  /-- Whether more log output was asked for. -/
  verbose : Bool := false
  /-- Whether JSON was asked for. -/
  json : Bool := false
  module : Option String := none
  function : Option String := none
  searchDirectories : List String := []
  /-- The file of the input. -/
  input : Option String := none
  /-- The file of the configuration. -/
  config : Option String := none
  /-- The number of workers. -/
  workers : Option Nat := none
  /-- The number of repetitions. -/
  repetitions : Option Nat := none

namespace Given

/-- A value that has not been given before. -/
def once {α : Type} (parameter : Parameter) (before : Option α) (value : α) :
    Except Stop (Option α) :=
  if before.isSome then .error (.refused (.givenTwice (.parameter parameter)))
  else .ok (some value)

/-- A path, which has one character at least. -/
def path (parameter : Parameter) (value : String) : Except Stop String :=
  if value.isEmpty then .error (.refused (.emptyPath parameter)) else .ok value

/-- A number of 64 bits. -/
def number (parameter : Parameter) (value : String) : Except Stop Nat :=
  match Text.readNumeral UInt64.size value.toList with
  | .ok n => .ok n
  | .error reason => .error (.refused (.invalidNumber parameter value reason))

/-- The flags with one more switch. -/
def turn (given : Given) : Switch → Except Stop Given
  | .verbose =>
    if given.verbose then .error (.refused (.givenTwice (.switch .verbose)))
    else .ok { given with verbose := true }
  | .json =>
    if given.json then .error (.refused (.givenTwice (.switch .json)))
    else .ok { given with json := true }
  | .help => .error .help
  | .version => .error .version

/-- The flags with one more parameter. -/
def set (given : Given) (parameter : Parameter) (value : String) : Except Stop Given :=
  match parameter with
  | .module => return { given with module := ← once parameter given.module value }
  | .function => return { given with function := ← once parameter given.function value }
  | .searchDirectory =>
    return { given with searchDirectories := given.searchDirectories ++ [← path parameter value] }
  | .input => return { given with input := ← once parameter given.input (← path parameter value) }
  | .config =>
    return { given with config := ← once parameter given.config (← path parameter value) }
  | .workers =>
    return { given with workers := ← once parameter given.workers (← number parameter value) }
  | .repetitions =>
    return { given with
      repetitions := ← once parameter given.repetitions (← number parameter value) }

end Given

/-! ## Words -/

/-- An argument by its hyphens. -/
inductive Word where
  /-- Two hyphens and nothing else: no flag follows. -/
  | flagsEnd
  /-- Two hyphens and a name, with the value after an equals sign. -/
  | long (name : String) (value : Option String)
  /-- One hyphen and letters. -/
  | letters (letters : List Char)
  /-- Anything else. -/
  | plain
deriving DecidableEq

namespace Word

/-- The text before the first equals sign, and the text after it. -/
def splitEquals (s : List Char) : List Char × Option (List Char) :=
  match s.dropWhile (· ≠ '=') with
  | [] => (s, none)
  | _ :: value => (s.takeWhile (· ≠ '='), some value)

/-- What an argument is. -/
def ofArgument (argument : String) : Word :=
  match argument.toList with
  | ['-', '-'] => flagsEnd
  | '-' :: '-' :: rest =>
    let (name, value) := splitEquals rest
    long (String.ofList name) (value.map String.ofList)
  | '-' :: letter :: rest => letters (letter :: rest)
  | _ => plain

end Word

/-! ## Reading flags -/

/-- Reads letters that stand behind one hyphen. The rest behind the letter of a parameter is its
value, an equals sign at its start left out; without a rest the parameter waits for its value. -/
def readLetters (flags : List Flag) : Given → List Char → Except Stop (Given × Option Parameter)
  | given, [] => .ok (given, none)
  | given, letter :: rest =>
    match Flag.ofLetter? flags letter with
    | none => .error (.refused (.unknown (String.ofList ['-', letter])))
    | some (.switch switch) => do readLetters flags (← given.turn switch) rest
    | some (.parameter parameter) =>
      match rest with
      | [] => .ok (given, some parameter)
      | '=' :: value => return (← given.set parameter (String.ofList value), none)
      | value => return (← given.set parameter (String.ofList value), none)

/-- Reads a long flag; a parameter without a value waits for it. -/
def readLong (flags : List Flag) (given : Given) (name : String) (value : Option String) :
    Except Stop (Given × Option Parameter) :=
  match Flag.ofLong? flags name, value with
  | none, _ => .error (.refused (.unknown ("--" ++ name)))
  | some (.switch switch), none => return (← given.turn switch, none)
  | some (.switch switch), some _ => .error (.refused (.valueUnneeded switch))
  | some (.parameter parameter), some value => return (← given.set parameter value, none)
  | some (.parameter parameter), none => return (given, some parameter)

/-- Reads flags up to the first argument that is neither a flag nor the value of one; that argument
and those behind it are left. `waiting` is a parameter whose value has to come next. -/
def readFlags (flags : List Flag) :
    Given → (waiting : Option Parameter) → List String → Except Stop (Given × List String)
  | _, some parameter, [] => .error (.refused (.valueMissing parameter))
  | given, none, [] => .ok (given, [])
  | given, some parameter, argument :: rest =>
    match Word.ofArgument argument with
    | .plain => do readFlags flags (← given.set parameter argument) none rest
    | _ => .error (.refused (.valueMissing parameter))
  | given, none, argument :: rest =>
    match Word.ofArgument argument with
    | .long name value => do
      let (given, waiting) ← readLong flags given name value
      readFlags flags given waiting rest
    | .letters letters => do
      let (given, waiting) ← readLetters flags given letters
      readFlags flags given waiting rest
    | .plain | .flagsEnd => .ok (given, argument :: rest)

/-! ## Reading commands -/

/-- Reads the flags of a command, behind which nothing may stand but two hyphens. -/
def readAll (flags : List Flag) (arguments : List String) : Except Stop Given := do
  match ← readFlags flags {} none arguments with
  | (given, []) | (given, ["--"]) => return given
  | (_, "--" :: argument :: _) | (_, argument :: _) => throw (.refused (.unknown argument))

/-- A flag that is needed. -/
def needed (parameter : Parameter) (value : Option String) : Except Stop String :=
  match value with
  | some value => .ok value
  | none => .error (.refused (.flagMissing parameter))

/-- Reads the arguments of the command that describes a function. -/
def InfoOptions.ofArguments (arguments : List String) : Except Stop InfoOptions := do
  let given ← readAll Flag.ofInfo arguments
  return {
    module := ← needed .module given.module
    function := ← needed .function given.function
    searchDirectories := given.searchDirectories
    json := given.json }

/-- Reads the arguments of the command that evaluates a batch. -/
def EvalOptions.ofArguments (arguments : List String) : Except Stop EvalOptions := do
  let given ← readAll Flag.ofEval arguments
  return {
    module := ← needed .module given.module
    function := ← needed .function given.function
    searchDirectories := given.searchDirectories
    input := given.input
    config := given.config
    workers := given.workers
    repetitions := given.repetitions.getD 1 }

/-- Reads a request for help on at most one command. -/
def readHelp : List String → Stop
  | [] | ["info"] | ["eval"] | ["help"] => .help
  | "info" :: argument :: _ | "eval" :: argument :: _ | "help" :: argument :: _ | argument :: _ =>
    .refused (.unknown argument)

/-- Reads the arguments of the program. -/
def ofArguments (arguments : List String) : Except Stop Command := do
  match ← readFlags Flag.ofProgram {} none arguments with
  | (_, "info" :: rest) => return .info (← InfoOptions.ofArguments rest)
  | (_, "eval" :: rest) => return .eval (← EvalOptions.ofArguments rest)
  | (_, "help" :: rest) => throw (readHelp rest)
  | (_, []) | (_, ["--"]) => throw (.refused .commandMissing)
  | (_, "--" :: argument :: _) | (_, argument :: _) => throw (.refused (.unknown argument))

end Command

end ForeignEval

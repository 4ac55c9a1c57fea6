/-!
# Flags of the command line

The flags that the commands accept. A switch stands alone; a parameter comes with a value.

* **Spelling** — every flag has a long name, and some have a letter.
* **Acceptance** — `Flag.ofProgram`, `Flag.ofInfo` and `Flag.ofEval` list the flags that may stand
  before a command and after each command.
-/

namespace ForeignEval.Command

/-- A flag without a value. -/
inductive Switch where
  /-- Asks for more log output. -/
  | verbose
  /-- Asks for JSON. -/
  | json
  /-- Asks for advice on the command line. -/
  | help
  /-- Asks for the version of the program. -/
  | version
deriving DecidableEq

/-- A flag with a value. -/
inductive Parameter where
  /-- The name or the path of a module. -/
  | module
  /-- The name of a function. -/
  | function
  /-- A directory in which modules are looked for before all others; it may be given often. -/
  | searchDirectory
  /-- The file of the input rows. -/
  | input
  /-- The file of the configuration. -/
  | config
  /-- The number of workers. -/
  | workers
  /-- How often the batch is evaluated. -/
  | repetitions
deriving DecidableEq

/-- The long name of a switch. -/
def Switch.long : Switch → String
  | verbose => "verbose"
  | json => "json"
  | help => "help"
  | version => "version"

/-- The letter of a switch. -/
def Switch.letter? : Switch → Option Char
  | verbose => some 'v'
  | json => none
  | help => some 'h'
  | version => some 'V'

/-- The long name of a parameter. -/
def Parameter.long : Parameter → String
  | module => "module"
  | function => "function"
  | searchDirectory => "search-dir"
  | input => "input"
  | config => "config"
  | workers => "workers"
  | repetitions => "repeat"

/-- The letter of a parameter. -/
def Parameter.letter? : Parameter → Option Char
  | module => some 'm'
  | function => some 'f'
  | searchDirectory => none
  | input => some 'i'
  | config => some 'c'
  | workers => some 'w'
  | repetitions => none

/-- A flag. -/
inductive Flag where
  /-- A flag without a value. -/
  | switch (switch : Switch)
  /-- A flag with a value. -/
  | parameter (parameter : Parameter)
deriving DecidableEq

namespace Flag

/-- The long name. -/
def long : Flag → String
  | switch s => s.long
  | parameter p => p.long

/-- The letter. -/
def letter? : Flag → Option Char
  | switch s => s.letter?
  | parameter p => p.letter?

/-- The flags before a command. -/
def ofProgram : List Flag := [.switch .verbose, .switch .help, .switch .version]

/-- The flags of the command that describes a function. -/
def ofInfo : List Flag :=
  [.parameter .module, .parameter .function, .parameter .searchDirectory, .switch .json,
    .switch .verbose, .switch .help]

/-- The flags of the command that evaluates a batch. -/
def ofEval : List Flag :=
  [.parameter .module, .parameter .function, .parameter .searchDirectory, .parameter .input,
    .parameter .config, .parameter .workers, .parameter .repetitions, .switch .verbose,
    .switch .help]

/-- The flag of a long name. -/
def ofLong? (flags : List Flag) (name : String) : Option Flag := flags.find? (·.long == name)

/-- The flag of a letter. -/
def ofLetter? (flags : List Flag) (letter : Char) : Option Flag :=
  flags.find? (·.letter? == some letter)

end Flag

end ForeignEval.Command

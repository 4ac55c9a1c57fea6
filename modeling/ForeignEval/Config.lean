import ForeignEval.Cache
import ForeignEval.Error
import ForeignEval.Machine
import ForeignEval.Retry
import ForeignEval.Text.Blank
import ForeignEval.Text.Numeral
import ForeignEval.Text.Uppercase
import ForeignEval.Text.Utf8

/-!
# Configuration

The configuration of evaluators and of the search for modules. It comes from named settings, which
may be held by environment variables, or from a JSON file. What a source does not define has its
standard value; that of the number of workers is the number of processors.

* **Settings** — `Config.ofSettings` reads the seven settings in the order of `Setting.all` and
  reports the first that cannot be used.
* **Files** — `Config.ofFile` reads the content of a JSON file.
-/

namespace ForeignEval

open Files (Fault)

/-! ## Settings -/

/-- A value that a source of settings can define. -/
inductive Setting where
  /-- The greatest number of cached results. -/
  | cacheMaxSize
  /-- Whether new caches are enabled. -/
  | cacheEnabled
  /-- How often a module is looked for. -/
  | retryMaxAttempts
  /-- The short wait in between. -/
  | retryWait
  /-- The long wait in between. -/
  | retryBackoff
  /-- How many failures come before the long wait. -/
  | retryBackoffAfter
  /-- The number of workers of a parallel evaluator. -/
  | parallelWorkers
deriving DecidableEq

namespace Setting

/-- All settings, in the order in which they are read. -/
def all : List Setting :=
  [cacheMaxSize, cacheEnabled, retryMaxAttempts, retryWait, retryBackoff, retryBackoffAfter,
    parallelWorkers]

/-- The key of a setting. -/
def key : Setting → String
  | cacheMaxSize => "cache.max_size"
  | cacheEnabled => "cache.enabled"
  | retryMaxAttempts => "retry.max_attempts"
  | retryWait => "retry.wait_ms"
  | retryBackoff => "retry.backoff_ms"
  | retryBackoffAfter => "retry.backoff_after"
  | parallelWorkers => "parallel.workers"

end Setting

/-- A source of settings: the text under a key, if there is one. -/
abbrev Settings := String → Option String

/-- The variable that holds the setting of a key: the prefix, an underscore and the key with
underscores for its dots, all in upper case. -/
def variableName (start key : String) : String :=
  Text.uppercase (start ++ "_" ++ key.map fun c => if c = '.' then '_' else c)

/-- How the variables of this program start. -/
def standardPrefix : String := "NECTAR"

/-- Environment variables: the bytes of a variable's value, if it is set. -/
abbrev Environment := String → Option (List UInt8)

/-- What is found under a name among variables that are kept as texts of the form `name=value`. An
equals sign in the name that is looked for may be the one of such a text, so that the rest of the
name is the start of a value. -/
def Environment.find? (environment : Environment) (name : String) : Option (List UInt8) :=
  let known := String.ofList (name.toList.takeWhile (· ≠ '='))
  match name.toList.dropWhile (· ≠ '=') with
  | [] => environment known
  | _ :: rest => do
    (Text.Utf8.encode (String.ofList (rest ++ ['=']))).isPrefixOf? (← environment known)

/-- The settings that environment variables define; a value that is no text counts as unset. -/
def Settings.ofEnvironment (start : String) (environment : Environment) : Settings :=
  fun key => (environment.find? (variableName start key)).bind Text.Utf8.decode?

/-! ## Configurations -/

/-- The configuration of evaluators and of the search for modules. -/
structure Config where
  /-- The greatest number of cached results. -/
  cacheMaxSize : Nat
  /-- Whether new caches are enabled. -/
  cacheEnabled : Bool
  /-- How a module is looked for when the file system fails. -/
  retry : RetryPolicy
  /-- The number of workers of a parallel evaluator. -/
  workers : Nat
deriving DecidableEq, Inhabited

namespace Config

/-- How many workers a parallel evaluator has if nobody says how many: as many as can run at once,
or one if the system does not tell. -/
def standardWorkers : Option Processors → Nat
  | some processors => processors.count
  | none => 1

theorem standardWorkers_pos (processors : Option Processors) : 0 < standardWorkers processors := by
  cases processors with
  | none => exact Nat.one_pos
  | some processors => exact processors.positive

/-- The configuration in which everything has its standard value. -/
def standard (processors : Option Processors) : Config :=
  ⟨Cache.standardSize, true, .standard, standardWorkers processors⟩

/-- The error for a setting whose text cannot be used. -/
def invalid (setting : Setting) (raw reason : String) : Error :=
  .invalidConfig setting.key (Text.quoted raw ++ ": " ++ reason)

/-- Reads a number below a bound, if the setting is there. -/
def numberSetting (source : Settings) (setting : Setting) (bound : Nat) :
    Except Error (Option Nat) :=
  match source setting.key with
  | none => .ok none
  | some raw =>
    match Text.readNumeral bound (Text.trimmed raw.toList) with
    | .ok n => .ok (some n)
    | .error e => .error (invalid setting raw e.message)

/-- Reads a truth value, if the setting is there. -/
def truthSetting (source : Settings) (setting : Setting) : Except Error (Option Bool) :=
  match source setting.key with
  | none => .ok none
  | some raw =>
    match Text.readTruth (Text.trim raw) with
    | some value => .ok (some value)
    | none => .error (invalid setting raw Text.truthMessage)

/-- Reads the number of workers, of which there has to be one at least. -/
def workersSetting (source : Settings) : Except Error (Option Nat) :=
  match numberSetting source .parallelWorkers UInt64.size with
  | .ok (some 0) => .error (.invalidConfig Setting.parallelWorkers.key "must be at least 1")
  | result => result

/-- The standard configuration with the values that a source defines. -/
def ofSettings (processors : Option Processors) (source : Settings) : Except Error Config := do
  let standard := standard processors
  let size ← numberSetting source .cacheMaxSize UInt64.size
  let enabled ← truthSetting source .cacheEnabled
  let attempts ← numberSetting source .retryMaxAttempts UInt32.size
  let wait ← numberSetting source .retryWait UInt64.size
  let backoff ← numberSetting source .retryBackoff UInt64.size
  let after ← numberSetting source .retryBackoffAfter UInt32.size
  let workers ← workersSetting source
  return {
    cacheMaxSize := size.getD standard.cacheMaxSize
    cacheEnabled := enabled.getD standard.cacheEnabled
    retry := {
      maxAttempts := attempts.getD standard.retry.maxAttempts
      wait := wait.getD standard.retry.wait
      backoff := backoff.getD standard.retry.backoff
      backoffAfter := after.getD standard.retry.backoffAfter }
    workers := workers.getD standard.workers }

/-- The configuration that the environment defines. -/
def ofEnvironment (processors : Option Processors) (environment : Environment) :
    Except Error Config :=
  ofSettings processors (.ofEnvironment standardPrefix environment)

/-! ## JSON files -/

/-- The members of a configuration that have been read so far. -/
structure Parts where
  cacheMaxSize : Option Nat := none
  /-- Whether caches are enabled. -/
  cacheEnabled : Option Bool := none
  retry : Option RetryPolicy := none
  /-- The number of workers. -/
  workers : Option Nat := none

/-- The members in JSON; each one left out has its standard value. -/
def shape (processors : Option Processors) : Json.Shape Parts Config where
  name := "EvaluatorConfig"
  members := [
    { name := "cache_max_size"
      isSet := fun parts => parts.cacheMaxSize.isSome
      read := fun parts s => do
        let (n, rest) ← Json.readSize s
        return ({ parts with cacheMaxSize := some n }, rest)
      inObject := false
      inArray := false },
    { name := "cache_enabled"
      isSet := fun parts => parts.cacheEnabled.isSome
      read := fun parts s => do
        let (b, rest) ← Json.readTruth s
        return ({ parts with cacheEnabled := some b }, rest)
      inObject := false
      inArray := false },
    { name := "retry"
      isSet := fun parts => parts.retry.isSome
      read := fun parts s => do
        let (policy, rest) ← RetryPolicy.reader s
        return ({ parts with retry := some policy }, rest)
      inObject := false
      inArray := false },
    { name := "workers"
      isSet := fun parts => parts.workers.isSome
      read := fun parts s => do
        let (n, rest) ← Json.readSize s
        return ({ parts with workers := some n }, rest)
      inObject := false
      inArray := false }]
  start := {}
  build := fun parts => .ok {
    cacheMaxSize := parts.cacheMaxSize.getD (standard processors).cacheMaxSize
    cacheEnabled := parts.cacheEnabled.getD (standard processors).cacheEnabled
    retry := parts.retry.getD (standard processors).retry
    workers := parts.workers.getD (standard processors).workers }

/-- Reads a configuration. -/
def reader (processors : Option Processors) : Json.Reader Config := (shape processors).read

/-- The configuration that a JSON text defines; `path` names it in errors. -/
def ofJson (processors : Option Processors) (path text : String) : Except Error Config :=
  match Json.readDocument (reader processors) text with
  | .ok config => .ok config
  | .error e => .error (.invalidConfig path e.message)

/-- The configuration that a file defines, from the outcome of reading the file's text. -/
def ofFile (processors : Option Processors) (path : String) (content : Except Fault String) :
    Except Error Config :=
  match content with
  | .ok text => ofJson processors path text
  | .error fault => .error (.io fault)

/-! ## Changes -/

/-- The configuration with another size of caches. -/
def withCacheMaxSize (config : Config) (size : Nat) : Config := { config with cacheMaxSize := size }

/-- The configuration with caches enabled or disabled. -/
def withCacheEnabled (config : Config) (enabled : Bool) : Config :=
  { config with cacheEnabled := enabled }

/-- The configuration with another retry policy. -/
def withRetry (config : Config) (retry : RetryPolicy) : Config := { config with retry }

/-- The configuration with another number of workers; none counts as one. -/
def withWorkers (config : Config) (workers : Nat) : Config :=
  { config with workers := max workers 1 }

/-! ## Caches -/

/-- A cache without entries, of the configured size, enabled as configured. -/
def newCache (config : Config) : Cache :=
  let cache := Cache.new config.cacheMaxSize
  if config.cacheEnabled then cache else cache.disable

end Config

end ForeignEval

import ForeignEval.Config
import ForeignEval.Registry
import ForeignEval.Search

/-!
# Hosts

What a command finds around it: environment variables, files, its standard input, a way to open
modules, and the machine that it runs on.

* **Search** — `Host.searchPath` puts the directories that were given before those that the
  environment names.
* **Registry** — `Host.registry` looks for modules there.
-/

namespace ForeignEval.Command

open Files (Disk Fault)

/-- What a command finds around it. -/
structure Host where
  /-- The environment variables. -/
  environment : Environment
  /-- The user's home directory that the system has on record. -/
  home : Option Files.Path
  /-- What is at a path. -/
  disk : Disk
  /-- The text of the file at a path. -/
  textOf : String → Except Fault String
  /-- The bytes of the standard input. -/
  input : List UInt8
  /-- Opens and closes modules. -/
  loader : Loader
  /-- The machine that evaluations run on. -/
  machine : Machine

namespace Host

/-- The directories given, then those that the environment names. -/
def searchPath (host : Host) (directories : List String) : SearchPath :=
  (SearchPath.ofEnvironment host.environment host.home).directories.foldl SearchPath.push
    (.ofTexts directories)

/-- A registry without modules that looks for them in the directories given and in those that the
environment names. -/
def registry (host : Host) (directories : List String) (retry : RetryPolicy) : Registry :=
  .new (fun _ name => (host.searchPath directories).locate host.disk (.ofText name)) host.loader
    retry

/-- The text of a file, or of the standard input if there is none. -/
def readInput (host : Host) (file : Option String) : Except (String × Fault) String :=
  match file with
  | some path => (host.textOf path).mapError (path, ·)
  | none =>
    match Text.Utf8.decode? host.input with
    | some text => .ok text
    | none => .error ("stdin", .notText)

end Host

end ForeignEval.Command

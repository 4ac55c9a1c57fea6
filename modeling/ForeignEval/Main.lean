import ForeignEval.Command.Run
import ForeignEval.Foreign.Demonstration

/-!
# The program

Takes a picture of the environment, of the files that the command line may ask about and of the
standard input, runs the program on it, and prints what it leaves behind.

Machine code cannot be run from here, so the one module that can be loaded is the demonstration
module. A file that holds `demonstrationText` stands for it.
-/

namespace ForeignEval.Program

open Command (Host)
open Files (Fault Kind)

/-! ## Pictures -/

/-- The fault of an error number, which may come with a minus sign. -/
def faultOf (code : UInt32) : Fault := .system (min code.toNat (UInt32.size - code.toNat))

/-- The outcome of an action on the system. -/
def attempt {α : Type} (action : IO α) : IO (Except Fault α) := do
  try return .ok (← action)
  catch
    | .noFileOrDirectory _ code _ | .permissionDenied _ code _ | .inappropriateType _ code _
    | .invalidArgument _ code _ | .resourceExhausted _ code _ | .hardwareFault code _
    | .otherError code _ => return .error (faultOf code)
    | e => return .error (.words (toString e))

/-- What is known about a path. -/
structure Picture where
  /-- What the path leads to. -/
  kind : Except Fault Kind
  /-- The canonical path. -/
  canonical : Except Fault String
  /-- The bytes of the file. -/
  bytes : Except Fault (List UInt8)

/-- Looks at a path; what is there shows when it is opened as a file. Nothing is seen at a path that
is no text. -/
def look (path : Files.Path) : IO Picture := do
  let some text := path.text? | return ⟨.error .notFound, .error .notFound, .error .notFound⟩
  let bytes ← attempt (IO.FS.readBinFile text)
  let canonical ← attempt (IO.FS.realPath text)
  let kind := match bytes with
    | .ok _ => .ok Kind.file
    | .error fault => if fault = .isADirectory then .ok .other else .error fault
  return ⟨kind, canonical.map (·.toString), bytes.map (·.toList)⟩

/-- Things with what an action finds out about each. -/
def survey {α β : Type} (action : α → IO β) (things : List α) : IO (List (α × β)) :=
  things.mapM fun thing => return (thing, ← action thing)

/-! ## Hosts -/

/-- The variables that are looked at. -/
def watchedVariables : List String :=
  Setting.all.map (variableName standardPrefix ·.key) ++
    [SearchPath.listVariable, "XDG_DATA_HOME", "HOME"]

/-- The content of a file that stands for the demonstration module. -/
def demonstrationText : String := "demonstration module\n"

/-- Opens the demonstration module. -/
def loaderOf (pictures : List (Files.Path × Picture)) : Loader where
  load _ path :=
    match pictures.find? fun (_, picture) => picture.canonical.toOption = some path with
    | some (_, ⟨_, _, .ok bytes⟩) =>
      if bytes = Text.Utf8.encode demonstrationText then .ok (Foreign.Demonstration.image path)
      else .error "no module of this program"
    | _ => .error "no such file"
  close _ := .ok ()

/-- The machine as this program uses it: by itself it evaluates chunks one after the other, and no
command asks how many processors there are. -/
def machine : Machine := ⟨none, .inOrder⟩

/-- The host that pictures, variables and an input show. -/
def hostOf (values : List (String × Option String)) (pictures : List (Files.Path × Picture))
    (input : List UInt8) : Host where
  environment name := (values.lookup name).join.map Text.Utf8.encode
  home := none
  disk := {
    kind := fun path => ((pictures.lookup path).map (·.kind)).getD (.error .notFound)
    canonical := fun path => ((pictures.lookup path).map (·.canonical)).getD (.error .notFound) }
  textOf path := do
    let bytes ← ((pictures.lookup (.ofText path)).map (·.bytes)).getD (.error .notFound)
    match Text.Utf8.decode? bytes with
    | some text => return text
    | none => throw .notText
  input := input
  loader := loaderOf pictures
  machine := machine

/-- The paths that a command may ask about. -/
def pathsOf (host : Host) : Command → List Files.Path
  | .info options =>
    (host.searchPath options.searchDirectories).candidates (.ofText options.module)
  | .eval options =>
    (host.searchPath options.searchDirectories).candidates (.ofText options.module) ++
      (options.input.toList ++ options.config.toList).map .ofText

/-- Whether a command reads the standard input. -/
def readsInput : Command → Bool
  | .info _ => false
  | .eval options => options.input.isNone

/-- The host for the arguments of the program. -/
def hostFor (arguments : List String) : IO Host := do
  let values ← survey (fun name => IO.getEnv name) watchedVariables
  match Command.ofArguments arguments with
  | .error _ => return hostOf values [] []
  | .ok command =>
    let pictures ← survey look (pathsOf (hostOf values [] []) command)
    let input ← if readsInput command then (← IO.getStdin).readBinToEnd else pure .empty
    return hostOf values pictures input.toList

end ForeignEval.Program

open ForeignEval in
/-- Runs the program. -/
def main (arguments : List String) : IO UInt32 := do
  let started ← IO.monoMsNow
  let (ended, _) := Command.program (← Program.hostFor arguments) arguments
  IO.print ended.output
  if let some summary := ended.summary then
    IO.eprintln (summary.document ((← IO.monoMsNow) - started)).render
  if let some failure := ended.failure then
    IO.eprintln failure.text
  return UInt32.ofNat ended.status

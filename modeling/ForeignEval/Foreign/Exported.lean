import ForeignEval.Foreign.CLibrary
import ForeignEval.Foreign.EntryPoint
import ForeignEval.Foreign.Table
import ForeignEval.Text.Terminated
import ForeignEval.Text.Utf8

/-!
# Functions exported by modules

A module's entry points do not answer in this library's terms: they return a status number and may
leave a message, which is a string of bytes up to the first NUL. An `Exported` function is what the
module's code does; `Exported.table` is the function as this library sees it.

* **Messages** — `CString.text` ends at the first NUL and replaces what is no text.
* **Failures** — any number but zero is a failure, and one without a message gets a standard one.
-/

namespace ForeignEval.Foreign

/-! ## Messages -/

/-- The bytes that foreign code leaves behind for a text, if it leaves any. -/
abbrev CString := Option (List UInt8)

namespace CString

/-- The text up to the first NUL. -/
def text (bytes : List UInt8) : String := Text.Utf8.decodeLossy (bytes.takeWhile (· ≠ 0))

/-- Takes the text out of the place where foreign code left it: the place is empty afterwards. -/
def take (slot : CString) : Option String × CString := (slot.map text, none)

end CString

/-! ## Reports -/

/-- How an entry point of a module ends: with a status number and perhaps a message. -/
structure Report where
  /-- The status number; zero is a success. -/
  code : Int
  /-- The message left behind. -/
  message : CString

namespace Report

/-- The report of a call that did its work. -/
def fine : Report := ⟨0, none⟩

/-- The report of a failed call. -/
def failing (code : Int) (message : String) : Report := ⟨code, some (Text.Utf8.encode message)⟩

/-- The failure reported, unless the number is zero. -/
def failure? (report : Report) : Option Failure :=
  match CallStatus.ofCode report.code with
  | .success => none
  | status => some ⟨status, report.message.take.1.getD "no diagnostic supplied"⟩

/-- The outcome of a call without a result. -/
def outcome (report : Report) : Except Failure Unit :=
  match report.failure? with
  | none => .ok ()
  | some failure => .error failure

/-- The outcome of a call that has left a result behind. -/
def answer {α : Type} (report : Report) (result : α) : Answer α :=
  match report.failure? with
  | none => .value result
  | some failure => .failed failure

end Report

/-- What an exported function tells about itself: its dimensions, and bytes for a description. -/
structure Declaration where
  /-- The input dimension. -/
  inputs : Nat
  /-- The output dimension. -/
  outputs : Nat
  /-- The description left behind. -/
  description : CString

/-- What a module's code does in the seven entry points of a function. -/
structure Exported where
  /-- Makes a state, or none and perhaps a message. -/
  create : Trace → Option CString
  /-- Tells the dimensions. -/
  info : Trace → Nat → Report × Declaration
  /-- Prepares a state. -/
  init : Trace → Nat → Report
  /-- Evaluates a point; the values are those written before the end of the call. -/
  exec : Trace → Nat → Point → Nat → Report × Point
  /-- Evaluates points in flat form; likewise. -/
  execBatch : Trace → Nat → (rows dimension : Nat) → List Double → Nat → Report × List Double
  /-- Ends the use of a state. -/
  finalize : Trace → Nat → Report

/-- A function that is not there. It makes no state, so that nothing else of it is called. -/
def Exported.absent : Exported where
  create _ := some none
  info _ _ := (.fine, ⟨0, 0, none⟩)
  init _ _ := .fine
  exec _ _ _ _ := (.fine, [])
  execBatch _ _ _ _ _ _ := (.fine, [])
  finalize _ _ := .fine

/-- The failure of a call that made no state. -/
def nullState (message : CString) : Failure :=
  ⟨.executionError, message.take.1.getD "state-create returned a null state"⟩

/-- The exported function as a table, in an opened library. -/
def Exported.table (exported : Exported) (source : Source) (library : Nat) : Table where
  source := source
  library := some library
  onCreate trace :=
    match exported.create trace with
    | none => .ok ()
    | some message => .error (nullState message)
  onInfo trace state :=
    let (report, declaration) := exported.info trace state
    match report.failure? with
    | none => .ok ⟨declaration.inputs, declaration.outputs, declaration.description.take.1⟩
    | some failure => .error failure
  onInit trace state := (exported.init trace state).answer ()
  onExec trace state input outputs :=
    let (report, values) := exported.exec trace state input outputs
    report.answer values
  onExecBatch trace state rows dimension input outputs _ :=
    let (report, values) := exported.execBatch trace state rows dimension input outputs
    report.answer values
  onFinalize trace state := (exported.finalize trace state).outcome

/-! ## Modules -/

/-- What a module file holds: the symbols it exports, and what its functions do. A function is told
under which source it is called, by which it finds its own calls in the trace. -/
structure Image where
  /-- The file, which tells modules apart. -/
  file : String
  /-- The exported symbols. -/
  symbols : List String
  /-- The behaviour of a function by its name. -/
  function : String → Source → Exported

namespace Image

/-- The first bytes of a module file, which are no text. -/
def bytes : List UInt8 := [0x7f, 0x45, 0x4c, 0x46, 0xff]

/-- The exported symbol that a name stands for. -/
def resolve? (image : Image) (name : String) : Option String :=
  (Text.terminated? name).filter image.symbols.contains

/-- The address of a symbol: the file and the symbol. What the module does not export may be found
in the C library. -/
def address? (image : Image) (name : String) : Option (String × String) :=
  match image.resolve? name with
  | some symbol => some (image.file, symbol)
  | none => ((Text.terminated? name).filter CLibrary.symbols.contains).map (CLibrary.file, ·)

/-- A library in which there are no functions of ours. -/
def library (file : String) : Image where
  file := file
  symbols := []
  function _ _ := .absent

/-- The symbols of all entry points of these functions. -/
def symbolsOf (functions : List String) : List String :=
  functions.flatMap fun function => EntryPoint.all.map (·.symbolName function)

end Image

end ForeignEval.Foreign

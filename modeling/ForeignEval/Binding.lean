import ForeignEval.Foreign.EntryPoint
import ForeignEval.Foreign.Resolution
import ForeignEval.Registry
import ForeignEval.Reply
import ForeignEval.Sample

/-!
# Bindings

A binding is one foreign function ready to be called: a table of entry points with an identity.
Each of its operations makes one foreign call and turns a failure into an error that names the
entry point. A state belongs to the binding that made it; every other binding refuses it before any
foreign call.

* **Building** — `Binding.build` loads a module and needs all entry points of the function.
* **Ownership** — `Binding.owns` compares identities; two bindings of one function do not share
  states.
* **Calls** — `Binding.createState`, `Binding.info`, `Binding.init`, `Binding.execute`,
  `Binding.executeBatch`, `Binding.finalize` and `Binding.deleteState`.
-/

namespace ForeignEval

open Foreign (EntryPoint Failure Table Trace)

/-- A foreign function ready to be called. -/
structure Binding where
  /-- The identity of the binding. -/
  id : Nat
  /-- The name of the function. -/
  function : String
  /-- The handle that keeps the function's module loaded, if it lives in one. -/
  module? : Option Handle
  /-- The entry points. -/
  table : Table

/-- A state of a foreign function. -/
structure State where
  /-- The identity of the binding that made the state. -/
  binding : Nat
  /-- The number of the state. -/
  number : Nat
deriving DecidableEq

namespace Binding

/-! ## Building -/

/-- The binding of a function of this process. -/
def ofTable (id : Nat) (function : String) (table : Table) : Binding :=
  ⟨id, function, none, table⟩

/-- The binding of a function of a loaded module, which takes over the handle; or the first entry
point that the module lacks. -/
def ofHandle (id : Nat) (handle : Handle) (function : String) : Except Error Binding :=
  match handle.image.entryPoints function with
  | .error entry => .error (.bindingIncomplete handle.path function (entry.symbolName function))
  | .ok symbols =>
    .ok ⟨id, function, some handle, symbols.table handle.image function handle.library⟩

/-- Loads a module and binds a function of it. If an entry point is missing, the handle is dropped
again; the module stays in the catalog. -/
def build (registry : Registry) (id : Nat) (module function : String) (trace : Trace) :
    Except Error Binding × Registry × Trace :=
  match registry.load module trace with
  | (.error e, registry, trace) => (.error e, registry, trace)
  | (.ok handle, registry, trace) =>
    match ofHandle id handle function with
    | .ok binding => (.ok binding, registry, trace)
    | .error e =>
      let (registry, trace) := registry.release handle.library trace
      (.error e, registry, trace)

/-- The path of the function's module. -/
def modulePath? (binding : Binding) : Option String := binding.module?.map (·.path)

/-! ## Ownership -/

/-- Whether a state was made by the binding. -/
def owns (binding : Binding) (state : State) : Bool := state.binding = binding.id

/-- The error for a state that another binding made; its address is not shown. -/
def foreignState (binding : Binding) : Error :=
  .internal binding.function "state <ptr> does not belong to this binding"

/-- The error for a failed call. -/
def callError (binding : Binding) (entry : EntryPoint) (failure : Failure) : Error :=
  .foreignExecution binding.function (entry.symbolName binding.function) failure.status
    failure.message

/-! ## Calls -/

variable (binding : Binding)

/-- Makes a state. -/
def createState (trace : Trace) : Except Error State × Trace :=
  match binding.table.create trace with
  | (.ok number, trace) => (.ok ⟨binding.id, number⟩, trace)
  | (.error failure, trace) => (.error (.stateCreation binding.function failure.message), trace)

/-- Asks for the dimensions. -/
def info (state : State) (trace : Trace) : Except Error FunctionInfo × Trace :=
  if binding.owns state then
    match binding.table.info trace state.number with
    | (.ok info, trace) => (.ok info, trace)
    | (.error failure, trace) => (.error (binding.callError .info failure), trace)
  else (.error binding.foreignState, trace)

/-- Prepares a state for evaluations. -/
def init (state : State) (trace : Trace) : Reply Unit × Trace :=
  if binding.owns state then
    match binding.table.init trace state.number with
    | (.value (), trace) => (.ok (), trace)
    | (.failed failure, trace) => (.error (binding.callError .init failure), trace)
    | (.panicked text, trace) => (.panic text, trace)
  else (.error binding.foreignState, trace)

/-- Evaluates a point into a buffer of so many values. -/
def execute (state : State) (point : Point) (outputs : Nat) (trace : Trace) :
    Reply Point × Trace :=
  if binding.owns state then
    match binding.table.exec trace state.number point outputs with
    | (.value values, trace) => (.ok (written outputs values), trace)
    | (.failed failure, trace) => (.error (binding.callError .exec failure), trace)
    | (.panicked text, trace) => (.panic text, trace)
  else (.error binding.foreignState, trace)

/-- The sample of the rows that foreign code wrote into a buffer of `size` rows. -/
def outputSample (outputs size : Nat) (values : List Double) : Sample where
  dimension := outputs
  rows := splitRows outputs size (written (outputs * size) values)
  length_of_mem _ := length_of_mem_splitRows (length_written _ _)

/-- The sample of the rows that are left in a buffer. -/
def readRows (outputs size : Nat) (buffer : List Double) : Reply Sample :=
  match Sample.ofFlat? outputs size buffer with
  | some output => .ok output
  | none => .error (.internal binding.function "batch output has the wrong length")

/-- A buffer for so many rows is always read. -/
theorem readRows_written (outputs size : Nat) (values : List Double) :
    binding.readRows outputs size (written (size * outputs) values) =
      .ok (outputSample outputs size values) := by
  have length : (written (size * outputs) values).length = outputs * size := by
    rw [length_written, Nat.mul_comm]
  unfold readRows outputSample
  rw [Sample.ofFlat?, dif_pos length]
  dsimp only
  congr 3
  rw [Nat.mul_comm]

/-- Evaluates a batch in one call, into rows of so many values. -/
def executeBatch (state : State) (batch : Sample) (outputs : Nat) (trace : Trace) :
    Reply Sample × Trace :=
  if binding.owns state then
    let buffer := batch.size * outputs
    match binding.table.execBatch trace state.number batch.size batch.dimension batch.flat
      outputs buffer with
    | (.value values, trace) =>
      (binding.readRows outputs batch.size (written buffer values), trace)
    | (.failed failure, trace) => (.error (binding.callError .execBatch failure), trace)
    | (.panicked text, trace) => (.panic text, trace)
  else (.error binding.foreignState, trace)

/-- Ends the use of a state. -/
def finalize (state : State) (trace : Trace) : Except Error Unit × Trace :=
  if binding.owns state then
    match binding.table.finalize trace state.number with
    | (.ok (), trace) => (.ok (), trace)
    | (.error failure, trace) => (.error (binding.callError .finalize failure), trace)
  else (.error binding.foreignState, trace)

/-- Frees a state, which is used up even if it is refused. -/
def deleteState (state : State) (trace : Trace) : Except Error Unit × Trace :=
  if binding.owns state then (.ok (), binding.table.delete trace state.number)
  else (.error binding.foreignState, trace)

/-! ## Text -/

/-- The path of the module, or that there is none. -/
def modulePathText : String :=
  match binding.modulePath? with
  | none => "None"
  | some path => "Some(" ++ Text.quoted path ++ ")"

/-- The binding as a record. -/
def recordText : String :=
  "Binding \x7b function: " ++ Text.quoted binding.function ++
    ", module_path: " ++ binding.modulePathText ++ " \x7d"

end Binding

end ForeignEval

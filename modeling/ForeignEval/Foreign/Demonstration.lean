import ForeignEval.Foreign.Exported

/-!
# A demonstration module

A small module with functions of two inputs and one output.

* **`sum`** — adds its inputs and refuses NaN.
* **`broken`** — can never be prepared.
* **`refused`** — never makes a state.
* **`partial`** — exports three of its entry points only.
-/

namespace ForeignEval.Foreign.Demonstration

/-- Whether a state has been prepared. -/
def isPrepared (trace : Trace) (source : Source) (state : Nat) : Bool :=
  (trace.callsOf source).any fun call => call == .init state

/-- The sum of a point's first two values, or the report that refuses the point. -/
def sumOf (prepared : Bool) (input : Point) : Except Report Double :=
  let a := (input[0]?).getD Double.zero
  let b := (input[1]?).getD Double.zero
  if !prepared then .error (.failing (-2) "exec before init")
  else if a.isNaN || b.isNaN then .error (.failing (-1) "nan input")
  else .ok (a.add b)

/-- The sums of points in order, up to the first that is refused. -/
def sumsOf (prepared : Bool) : List Point → Report × List Double
  | [] => (.fine, [])
  | row :: rows =>
    match sumOf prepared row with
    | .error report => (report, [])
    | .ok value =>
      let (report, values) := sumsOf prepared rows
      (report, value :: values)

/-- A function that tells its description and does nothing else. -/
def described (text : String) : Exported where
  create _ := none
  info _ _ := (.fine, ⟨2, 1, some (Text.Utf8.encode text)⟩)
  init _ _ := .fine
  exec _ _ _ _ := (.failing (-1) "not initialized", [])
  execBatch _ _ _ _ _ _ := (.failing (-1) "not initialized", [])
  finalize _ _ := .fine

/-- Adds two numbers. -/
def sum (source : Source) : Exported :=
  { described "a + b" with
    exec := fun trace state input outputs =>
      if input.length ≠ 2 ∨ outputs ≠ 1 then (.failing (-1) "bad dimensions", [])
      else sumsOf (isPrepared trace source state) [input]
    execBatch := fun trace state rows dimension input outputs =>
      if dimension ≠ 2 ∨ outputs ≠ 1 then (.failing (-1) "bad dimensions", [])
      else sumsOf (isPrepared trace source state) (splitRows dimension rows input) }

/-- Cannot be prepared. -/
def broken : Exported :=
  { described "always fails" with
    init := fun _ _ => .failing (-1) "missing calibration table" }

/-- Makes no state. -/
def refused : Exported :=
  { described "never created" with
    create := fun _ => some (some (Text.Utf8.encode "license server unreachable")) }

/-- The demonstration module, in a file. -/
def image (file : String) : Image where
  file := file
  symbols :=
    Image.symbolsOf ["sum", "broken", "refused"] ++
      [EntryPoint.stateCreate, EntryPoint.stateDelete, EntryPoint.info].map
        (·.symbolName "partial") ++
      ["fixture_counters"]
  function name source :=
    if name = "sum" then sum source
    else if name = "broken" then broken
    else if name = "refused" then refused
    else described "incomplete"

end ForeignEval.Foreign.Demonstration

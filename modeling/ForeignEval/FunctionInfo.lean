import ForeignEval.Json.Document
import ForeignEval.Json.Reading

/-!
# What a function declares about itself

The dimensions of a foreign function and its description, with their form in JSON.

* **Reading** — `FunctionInfo.reader` takes members in any order among unknown ones, or an array of
  all three.
* **Writing** — `FunctionInfo.document` lists the members in their order.
-/

namespace ForeignEval

/-- The shape that a foreign function declares. -/
structure FunctionInfo where
  /-- How many values a point has. -/
  inputDimension : Nat
  /-- How many values an output has. -/
  outputDimension : Nat
  /-- What the function computes, in words. -/
  description : Option String
deriving DecidableEq, Inhabited

namespace FunctionInfo

/-- The members of an information that have been read so far. -/
structure Parts where
  /-- The input dimension. -/
  input : Option Nat := none
  /-- The output dimension. -/
  output : Option Nat := none
  /-- The description, `null` included. -/
  description : Option (Option String) := none

/-- The members in JSON; the description may be left out of an object. -/
def shape : Json.Shape Parts FunctionInfo where
  name := "FunctionInfo"
  members := [
    { name := "input_dimension"
      isSet := fun parts => parts.input.isSome
      read := fun parts s => do
        let (n, rest) ← Json.readSize s
        return ({ parts with input := some n }, rest)
      inObject := true
      inArray := true },
    { name := "output_dimension"
      isSet := fun parts => parts.output.isSome
      read := fun parts s => do
        let (n, rest) ← Json.readSize s
        return ({ parts with output := some n }, rest)
      inObject := true
      inArray := true },
    { name := "description"
      isSet := fun parts => parts.description.isSome
      read := fun parts s => do
        let (text, rest) ← Json.readOption Json.readText s
        return ({ parts with description := some text }, rest)
      inObject := false
      inArray := true }]
  start := {}
  build := fun parts =>
    .ok ⟨parts.input.getD 0, parts.output.getD 0, parts.description.getD none⟩

/-- Reads an information. -/
def reader : Json.Reader FunctionInfo := shape.read

/-- The information in JSON. -/
def document (info : FunctionInfo) : Json.Document :=
  .object [
    ("input_dimension", .natural info.inputDimension),
    ("output_dimension", .natural info.outputDimension),
    ("description", .ofOption info.description)]

end FunctionInfo

end ForeignEval

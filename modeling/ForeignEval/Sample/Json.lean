import ForeignEval.Json.Document
import ForeignEval.Json.Reading
import ForeignEval.Sample

/-!
# Samples in JSON

A sample is written as its dimension, its number of rows, its values in flat form and its
description. Reading checks that the values fill the rows.

* **Writing** — `Sample.document`; values that are not finite are written `null`.
* **Reading** — `Sample.reader` refuses values that do not fill the rows.
-/

namespace ForeignEval.Sample

/-- The members of a sample that have been read so far. -/
structure Parts where
  dimension : Option Nat := none
  /-- The number of rows. -/
  size : Option Nat := none
  /-- The values in flat form. -/
  values : Option (List Double) := none
  /-- The description, `null` included. -/
  description : Option (Option String) := none

/-- The members in JSON; the description may be left out. -/
def shape : Json.Shape Parts Sample where
  name := "RawSample"
  members := [
    { name := "dimension"
      isSet := fun parts => parts.dimension.isSome
      read := fun parts s => do
        let (n, rest) ← Json.readSize s
        return ({ parts with dimension := some n }, rest)
      inObject := true
      inArray := true },
    { name := "rows"
      isSet := fun parts => parts.size.isSome
      read := fun parts s => do
        let (n, rest) ← Json.readSize s
        return ({ parts with size := some n }, rest)
      inObject := true
      inArray := true },
    { name := "values"
      isSet := fun parts => parts.values.isSome
      read := fun parts s => do
        let (values, rest) ← Json.readList Json.readDouble s
        return ({ parts with values := some values }, rest)
      inObject := true
      inArray := true },
    { name := "description"
      isSet := fun parts => parts.description.isSome
      read := fun parts s => do
        let (text, rest) ← Json.readOption Json.readText s
        return ({ parts with description := some text }, rest)
      inObject := false
      inArray := false }]
  start := {}
  build := fun parts =>
    let dimension := parts.dimension.getD 0
    let size := parts.size.getD 0
    let values := parts.values.getD []
    match ofFlat? dimension size values with
    | some sample => .ok (sample.withDescription (parts.description.getD none))
    | none => .error (.wrongCount values.length size dimension)

/-- Reads a sample. -/
def reader : Json.Reader Sample := shape.read

/-- The sample in JSON. -/
def document (s : Sample) : Json.Document :=
  .object [
    ("dimension", .natural s.dimension),
    ("rows", .natural s.size),
    ("values", .array (s.flat.map .double)),
    ("description", .ofOption s.description)]

end ForeignEval.Sample

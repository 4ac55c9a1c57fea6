import ForeignEval.Cache
import ForeignEval.Chunks
import ForeignEval.Error
import ForeignEval.FunctionInfo

/-!
# Batch plans

A batch is evaluated by a plan: every row is looked up in the cache, the distinct rows that were
not found are computed once, and the outputs are put together in the order of the rows, from the
cache and from what was computed. Only a complete output changes the entries of the cache.

* **Planning** — `Plan.make` looks the rows up and gathers the distinct unknown ones.
* **Assembly** — `Plan.assemble` builds the output and merges what was computed into the cache.
-/

namespace ForeignEval

/-- The outputs for points in order, with the cache after all lookups have been counted. -/
def Cache.lookupAll (cache : Cache) : List Point → List (Option Point) × Cache
  | [] => ([], cache)
  | point :: points =>
    let (found, cache) := cache.lookup point
    let (others, cache) := cache.lookupAll points
    (found :: others, cache)

/-- The cache of computed outputs, large enough for all of them. -/
def Cache.ofOutputs (inputs outputs : List Point) : Cache :=
  (Cache.new inputs.length).insertAll (inputs.zip outputs)

/-- The points at which a list of lookups found nothing. -/
def notFound (points : List Point) (known : List (Option Point)) : List Point :=
  ((points.zip known).filter fun (_, found) => found.isNone).map (·.1)

theorem mem_of_mem_notFound {points : List Point} {known : List (Option Point)} {point : Point}
    (h : point ∈ notFound points known) : point ∈ points := by
  obtain ⟨⟨p, found⟩, hp, rfl⟩ := List.mem_map.1 h
  exact (List.of_mem_zip (List.mem_filter.1 hp).1).1

/-- How a batch will be answered. -/
structure Plan where
  batch : Sample
  /-- The output of each row that the cache has. -/
  known : List (Option Point)
  /-- The distinct rows that it does not have, in the order of first appearance. -/
  unknown : Sample

namespace Plan

/-- Looks the rows of a batch up; the cache is the one after counting the lookups. -/
def make (batch : Sample) (cache : Cache) : Plan × Cache :=
  let (known, cache) := cache.lookupAll batch.rows
  let unknown : Sample := {
    dimension := batch.dimension
    rows := distinct (notFound batch.rows known)
    length_of_mem := fun row mem =>
      batch.length_of_mem row (mem_of_mem_notFound (mem_distinct.1 mem)) }
  (⟨batch, known, unknown⟩, cache)

/-- The error for a row that nobody computed. -/
def unresolved (function : String) (index : Nat) (row : Point) : Error :=
  .internal function
    ("row " ++ toString index ++ " (" ++ row.text ++ ") was resolved by neither cache")

/-- The error for an output of another dimension than declared. -/
def wrongLength (function : String) (index length expected : Nat) : Error :=
  .internal function
    ("row " ++ toString index ++ " has " ++ toString length ++ " output values, expected " ++
      toString expected)

/-- An output of the declared dimension. -/
abbrev Output (info : FunctionInfo) := { value : Point // value.length = info.outputDimension }

/-- The output of a row, which the cache has or which was computed. -/
def outputOf (function : String) (info : FunctionInfo) (fresh : Cache) (index : Nat) (row : Point)
    (found : Option Point) : Except Error (Output info) :=
  match found.or (fresh.peek row) with
  | none => .error (unresolved function index row)
  | some value =>
    if h : value.length = info.outputDimension then .ok ⟨value, h⟩
    else .error (wrongLength function index value.length info.outputDimension)

/-- The outputs of rows in order, or the first error; `index` is that of the first row. -/
def outputsOf (function : String) (info : FunctionInfo) (fresh : Cache) :
    (index : Nat) → List (Point × Option Point) → Except Error (List (Output info))
  | _, [] => .ok []
  | index, (row, found) :: rest => do
    let value ← outputOf function info fresh index row found
    let others ← outputsOf function info fresh (index + 1) rest
    return value :: others

/-- The output of the batch, from what the cache had and what was computed, with the cache after
the merge. An error leaves the cache alone. -/
def assemble (plan : Plan) (function : String) (info : FunctionInfo) (fresh cache : Cache) :
    Except Error Sample × Cache :=
  match outputsOf function info fresh 0 (plan.batch.rows.zip plan.known) with
  | .error e => (.error e, cache)
  | .ok values =>
    (.ok {
        dimension := info.outputDimension
        rows := values.map (·.1)
        description := info.description
        length_of_mem := by simp +contextual },
      cache.merge fresh)

end Plan

end ForeignEval

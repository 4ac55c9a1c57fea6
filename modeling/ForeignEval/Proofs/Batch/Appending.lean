import ForeignEval.Proofs.Batch.Plan
import ForeignEval.Proofs.Sample.Storage

/-!
# Planning and assembly row by row

The rows of a batch are taken one by one. Planning keeps what it has seen in a set and appends each
row that it sees for the first time; assembly appends one output after the other. Neither is what a
`Plan` says of the whole batch, and neither measures what it appends to a storage. Both come to what
the plan says.

* **Planning** — `Storage.plan?` is the loop; `Storage.planFrom_eq` says what is left of it from any
  row on, by induction on the rows; `Storage.plan?_stored`: it makes the plan.
* **Assembly** — `Storage.assemble?`, with `Storage.assembleFrom_eq` and `Storage.assemble?_stored`
  in the same way.
-/

namespace ForeignEval

/-! ## Rows that are not found -/

theorem notFound_cons_some (row value : Point) (rows : List Point) (known : List (Option Point)) :
    notFound (row :: rows) (some value :: known) = notFound rows known := rfl

theorem notFound_cons_none (row : Point) (rows : List Point) (known : List (Option Point)) :
    notFound (row :: rows) (none :: known) = row :: notFound rows known := rfl

section Seen

variable {row : Point} {seen : List Point}

/-- A repetition adds nothing to what is seen for the first time. -/
theorem distinct_cons_of_seen (before : row ∈ seen) (rows : List Point) :
    (distinct (row :: rows)).filter (· ∉ seen) = (distinct rows).filter (· ∉ seen) := by
  rw [distinct, List.filter_cons_of_neg (by simpa using before), List.filter_filter]
  refine List.filter_congr fun other _ => ?_
  -- what has not been seen is another row
  by_cases old : other ∈ seen
  · simp [old]
  · have differs : other ≠ row := fun same => old (same ▸ before)
    simp [old, differs]

theorem distinct_cons_of_new (new : row ∉ seen) (rows : List Point) :
    (distinct (row :: rows)).filter (· ∉ seen) =
      row :: (distinct rows).filter (· ∉ row :: seen) := by
  rw [distinct, List.filter_cons_of_pos (by simpa using new), List.filter_filter]
  refine congrArg (row :: ·) (List.filter_congr fun other _ => ?_)
  rw [Bool.eq_iff_iff]
  simp [and_comm]

end Seen

namespace Storage

/-! ## Planning -/

/-- Looks rows up one after the other. A row that is not found is appended unless it was seen
before. -/
def planFrom (known : List (Option Point)) (seen : List Point) (unknown : Storage) (cache : Cache) :
    List Point → List (Option Point) × Storage × Cache
  | [] => (known, unknown, cache)
  | row :: rows =>
    match cache.lookup row with
    | (some value, cache) => planFrom (known ++ [some value]) seen unknown cache rows
    | (none, cache) =>
      if seen.contains row then planFrom (known ++ [none]) seen unknown cache rows
      else planFrom (known ++ [none]) (row :: seen) (unknown.push row) cache rows

/-- What is known of the rows of a batch, the distinct ones that are not, and the cache after the
lookups; nothing if the values of a row are not where they should be. -/
def plan? (batch : Storage) (cache : Cache) : Option (List (Option Point) × Storage × Cache) := do
  let rows ← batch.rows?
  return planFrom [] [] (empty batch.dimension) cache rows

/-- From any row on, the rows that are not found are appended, but for those seen before. -/
theorem planFrom_eq (known : List (Option Point)) (seen : List Point) (unknown : Storage)
    (cache : Cache) (rows : List Point) :
    planFrom known seen unknown cache rows =
      (known ++ (cache.lookupAll rows).1,
        unknown.append
          ((distinct (notFound rows (cache.lookupAll rows).1)).filter (· ∉ seen)),
        (cache.lookupAll rows).2) := by
  induction rows generalizing known seen unknown cache with
  | nil =>
    show (known, unknown, cache) = (known ++ [], unknown.append [], cache)
    rw [List.append_nil, append_nil]
  | cons row rows ih =>
    have all : cache.lookupAll (row :: rows) =
        ((cache.lookup row).1 :: ((cache.lookup row).2.lookupAll rows).1,
          ((cache.lookup row).2.lookupAll rows).2) := rfl
    rw [all, planFrom]
    obtain ⟨found, cache⟩ := cache.lookup row
    cases found with
    | some value =>
      dsimp only
      rw [ih, notFound_cons_some, List.append_assoc]
      rfl
    | none =>
      dsimp only
      rw [notFound_cons_none]
      by_cases before : row ∈ seen
      · rw [if_pos (List.contains_iff_mem.2 before), ih, distinct_cons_of_seen before,
          List.append_assoc]
        rfl
      · rw [if_neg (mt List.contains_iff_mem.1 before), ih, distinct_cons_of_new before,
          append_cons, List.append_assoc]
        rfl

/-- Row by row, the plan of the batch is made. -/
theorem plan?_stored (batch : Sample) (cache : Cache) :
    batch.stored.plan? cache =
      some ((Plan.make batch cache).1.known, (Plan.make batch cache).1.unknown.stored,
        (Plan.make batch cache).2) := by
  unfold plan?
  rw [batch.rows?_stored]
  refine congrArg some ((planFrom_eq _ _ _ _ _).trans ?_)
  have all : (distinct (notFound batch.rows (cache.lookupAll batch.rows).1)).filter (· ∉ []) =
      distinct (notFound batch.rows (cache.lookupAll batch.rows).1) :=
    List.filter_eq_self.2 fun row _ => by simp
  rw [all, append_empty]
  rfl

/-! ## Assembly -/

variable (function : String) (info : FunctionInfo) (fresh : Cache)

/-- Appends the outputs of rows, the first of which has an index, each after it has been
measured. -/
def assembleFrom :
    (output : Storage) → (index : Nat) → List (Point × Option Point) → Except Error Storage
  | output, _, [] => .ok output
  | output, index, (row, found) :: rest =>
    match found.or (fresh.peek row) with
    | none => .error (Plan.unresolved function index row)
    | some value =>
      if value.length ≠ info.outputDimension then
        .error (Plan.wrongLength function index value.length info.outputDimension)
      else assembleFrom (output.push value) (index + 1) rest

/-- The output of a batch of whose rows this is known, with the cache after the merge; nothing if
the values of a row are not where they should be. -/
def assemble? (batch : Storage) (known : List (Option Point)) (cache : Cache) :
    Option (Except Error Storage × Cache) := do
  let rows ← batch.rows?
  let start := withCapacity info.outputDimension batch.size
  match assembleFrom function info fresh start 0 (rows.zip known) with
  | .error e => return (.error e, cache)
  | .ok output => return (.ok (output.withDescription info.description), cache.merge fresh)

theorem assembleFrom_eq (output : Storage) (index : Nat) (rows : List (Point × Option Point)) :
    assembleFrom function info fresh output index rows =
      (Plan.outputsOf function info fresh index rows).map fun values =>
        output.append (values.map (·.1)) := by
  induction rows generalizing output index with
  | nil => exact congrArg Except.ok output.append_nil.symm
  | cons row rows ih =>
    obtain ⟨row, found⟩ := row
    unfold assembleFrom Plan.outputsOf Plan.outputOf
    cases found.or (fresh.peek row) with
    | none => rfl
    | some value =>
      dsimp only
      by_cases right : value.length = info.outputDimension
      · rw [if_neg (not_not_intro right), dif_pos right, ih]
        show _ = Except.map _ (Plan.outputsOf function info fresh (index + 1) rows >>= _)
        cases Plan.outputsOf function info fresh (index + 1) rows with
        | error e => rfl
        | ok values => exact congrArg Except.ok (output.append_cons value _)
      · rw [if_pos right, dif_neg right]
        rfl

/-- Output by output, the batch is assembled as the plan says. -/
theorem assemble?_stored (plan : Plan) (cache : Cache) :
    plan.batch.stored.assemble? function info fresh plan.known cache =
      some ((plan.assemble function info fresh cache).1.map Sample.stored,
        (plan.assemble function info fresh cache).2) := by
  unfold assemble? Plan.assemble
  rw [plan.batch.rows?_stored]
  dsimp only [bind, Option.bind]
  rw [assembleFrom_eq]
  cases Plan.outputsOf function info fresh 0 (plan.batch.rows.zip plan.known) with
  | error e => rfl
  | ok values =>
    have output := append_empty info.outputDimension (values.map (·.1))
    exact congrArg (fun output => some (Except.ok (withDescription output info.description),
      cache.merge fresh)) output

end Storage

end ForeignEval

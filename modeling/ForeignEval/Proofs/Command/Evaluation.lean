import ForeignEval.Command.Run
import ForeignEval.Proofs.Command.Engine
import ForeignEval.Proofs.Foreign.Resolution
import ForeignEval.Proofs.Json.Lines
import ForeignEval.Proofs.Workspace.Lifetime
import ForeignEval.Proofs.Workspace.Custody

/-!
# The result of an evaluation from the command line

How a batch is evaluated is a matter of options: with a cache of any size or with none, by one
session or by some workers, once or again and again. What is printed are the values of its rows, in
every case; the options show in the number of calls only.

* **Bindings** — `takeDown_of_build`: a binding that was built is taken down without an error, if
  its library can be closed.
* **Batches** — `evaluateBound_of_evaluates`: an engine evaluates what was read and is closed.
* **Result** — `run_eval_values`.
-/

namespace ForeignEval

/-! ## New caches -/

namespace Config

variable (config : Config)

theorem faithful_newCache (f : Point → Point) : config.newCache.Faithful f := by
  have new : (Cache.new config.cacheMaxSize).Faithful f := Cache.faithful_new _
  unfold newCache
  dsimp only
  split
  · exact new
  · exact new.of_entries ⟨⟨new.nodup, new.mem_table⟩, new.length_le⟩ fun _ mem => mem

theorem enabled_newCache : config.newCache.enabled = config.cacheEnabled := by
  unfold newCache
  dsimp only
  cases config.cacheEnabled with
  | true | false => rfl

theorem served_newCache : config.newCache.served = [] := by
  unfold newCache Cache.served
  dsimp only
  cases config.cacheEnabled with
  | true | false => rfl

/-- An enabled cache that may have as many entries as there are distinct points has room for all
of them. -/
theorem hasRoom_newCache {points : List Point} (enabled : config.cacheEnabled = true)
    (room : points.dedup.length ≤ config.cacheMaxSize) : config.newCache.HasRoom points := by
  have same : config.newCache = Cache.new config.cacheMaxSize := by
    unfold newCache
    exact if_pos enabled
  rw [same]
  refine Cache.HasRoom.of_size (Cache.wellFormed_new _) rfl ?_
  show 0 + points.dedup.length ≤ config.cacheMaxSize
  rwa [Nat.zero_add]

end Config

namespace Command

open Foreign (Trace valued)

/-! ## Bindings -/

/-- The only module of a registry, with a binding as its only user, is taken down completely. -/
theorem takeDown_of_build {locator : Locator} {loader : Loader} (closes : loader.Closes)
    {retry : RetryPolicy} {module function : String} {binding : Binding} {registry : Registry}
    {opened : Trace}
    (built : Binding.build (.new locator loader retry) 1 module function [] =
      (.ok binding, registry, opened)) (trace : Trace) :
    (takeDown registry binding trace).1 = .ok () := by
  have loads := (Registry.new locator loader retry).loads_load module []
  have builds := Binding.builds_build (.new locator loader retry) 1 module function []
  rw [built] at builds
  cases builds with
  | complete loaded =>
    rw [loaded] at loads
    cases loads with
    | known resolved found => cases found
    | @opened path =>
      -- there is one library, and the catalog's handle of it is the last one
      have reported : Registry.reason? loader 0 0 = none := Registry.reason?_of_closes (closes 0) 0
      show (if (((Registry.reason? loader 0 0).map (path, ·)).toList ++ []).isEmpty then _
        else _) = _
      rw [reported]
      rfl

/-! ## Batches -/

theorem dimension_of_batchOn {host : Host} {options : EvalOptions} {dimension : Nat}
    {batch : Sample} (read : options.batchOn host dimension = .ok batch) :
    batch.dimension = dimension := by
  unfold EvalOptions.batchOn batchOf Sample.ofRows at read
  repeat' split at read
  all_goals cases read
  rename_i rows _ _ sample made
  split at made
  · cases made
    rfl
  · cases made

theorem times_eq (options : EvalOptions) : options.times - 1 + 1 = options.times := by
  unfold EvalOptions.times
  omega

/-- An engine on a function that evaluates the rows of a batch evaluates it and is closed. -/
theorem evaluateBound_of_evaluates {host : Host} {options : EvalOptions} {binding : Binding}
    {info : FunctionInfo} {f : Point → Point} {batch : Sample} {trace : Trace} (config : Config)
    (custody : Custody none [] trace)
    (read : options.batchOn host info.inputDimension = .ok batch)
    (evaluates : binding.table.Evaluates info f batch.rows) :
    ∃ output engine, output.rows = batch.rows.map f ∧
      engine.calls = .ok (Memo.again binding info (valued f) batch options.times
        ⟨config.newCache, 0⟩).calls ∧
      (evaluateBound host options config binding trace).1 =
        evaluated options batch output engine := by
  obtain ⟨engine, after, opened, serves⟩ :=
    Engine.serves_new evaluates custody config options.workers host.machine.schedule
  obtain ⟨output, engine', after', again, values, serves'⟩ :=
    serves.evaluateAgain evaluates (dimension_of_batchOn read) (List.Subset.refl _)
      (config.faithful_newCache f) (options.times - 1)
  rw [times_eq] at serves'
  have closed := serves'.close evaluates
  refine ⟨output, engine', values, serves'.shows.calls_eq, ?_⟩
  unfold evaluateBound evaluateWith
  rw [opened]
  dsimp only
  rw [serves.shows.info_eq, read]
  dsimp only
  rw [again]
  dsimp only
  rw [closed]
  rfl

/-! ## Result -/

/-- Rows as an array of arrays of numbers. -/
def rowsLine (rows : List Point) : String :=
  (Json.Document.array (rows.map fun row => .array (row.map .double))).render

theorem rowsText_eq (rows : List Point) : rowsText rows = rowsLine rows ++ "\n" := rfl

theorem newline_not_mem_rowsLine (rows : List Point) : '\n' ∉ (rowsLine rows).toList := by
  unfold rowsLine Json.Document.render
  rw [String.toList_ofList]
  exact Json.Document.newline_not_mem_compact _

section Result

variable {host : Host} {options : EvalOptions} {config : Config} {binding : Binding}
  {registry : Registry} {opened : Trace} {info : FunctionInfo} {f : Point → Point} {batch : Sample}
  (configured : options.configOn host = .ok config)
  (built : Binding.build (host.registry options.searchDirectories config.retry) 1
    options.module options.function [] = (.ok binding, registry, opened))
  (read : options.batchOn host info.inputDimension = .ok batch)
  (evaluates : binding.table.Evaluates info f batch.rows)

include configured built read evaluates

/-- The evaluation succeeds, and tells as many calls as the memo of its configuration. The command
fails afterwards only if a library cannot be closed. -/
theorem run_eval_of_evaluates :
    ∃ stats failure, (run host (.eval options)).1 =
        { output := rowsLine (batch.rows.map f) ++ "\n"
          summary := some ⟨batch.size, options.times,
            (Memo.again binding info (valued f) batch options.times ⟨config.newCache, 0⟩).calls,
            stats⟩
          failure } ∧
      (host.loader.Closes → failure = none) := by
  have quiet := Binding.quiet_build (host.registry options.searchDirectories config.retry) 1
    options.module options.function []
  rw [built] at quiet
  have custody : Custody none [] opened := Custody.nil.quiet quiet
  obtain ⟨output, engine, values, calls, ended⟩ :=
    evaluateBound_of_evaluates config custody read evaluates
  have result : (run host (.eval options)).1 = (evaluated options batch output engine).andThen
      (takeDown registry binding (evaluateBound host options config binding opened).2).1 := by
    show (evaluate host options).1 = _
    unfold evaluate
    rw [configured]
    dsimp only
    unfold withBinding
    rw [built]
    dsimp only
    rw [ended]
  unfold evaluated at result
  rw [calls, values, rowsText_eq] at result
  cases down : (takeDown registry binding
      (evaluateBound host options config binding opened).2).1 with
  | ok =>
    rw [down] at result
    exact ⟨engine.stats, none, result, fun _ => rfl⟩
  | error e =>
    rw [down] at result
    refine ⟨engine.stats, some (.error e), result, fun closes => ?_⟩
    rw [takeDown_of_build closes built] at down
    cases down

end Result

/-- **The result does not depend on how the command is run.** Let the configuration be any, the
function bound, the input a batch of its dimension, and let it evaluate the rows of the batch. Then
the output is one line with the values of the rows in their order, and the command fails at most
because a library cannot be closed. The calls are as many as there
are distinct rows if the cache has room for them, and as many for each repetition if there is no
cache. -/
theorem run_eval_values {host : Host} {options : EvalOptions} {config : Config}
    {binding : Binding} {registry : Registry} {opened : Trace} {info : FunctionInfo}
    {f : Point → Point} {batch : Sample} (configured : options.configOn host = .ok config)
    (built : Binding.build (host.registry options.searchDirectories config.retry) 1
      options.module options.function [] = (.ok binding, registry, opened))
    (read : options.batchOn host info.inputDimension = .ok batch)
    (evaluates : binding.table.Evaluates info f batch.rows) :
    ∃ summary failure, (run host (.eval options)).1 =
        { output := rowsLine (batch.rows.map f) ++ "\n", summary := some summary, failure } ∧
      (host.loader.Closes → failure = none) ∧ '\n' ∉ (rowsLine (batch.rows.map f)).toList ∧
      summary.rows = batch.size ∧ summary.repetitions = max options.repetitions 1 ∧
      (config.cacheEnabled = true → batch.rows.dedup.length ≤ config.cacheMaxSize →
        summary.foreignCalls = batch.rows.dedup.length) ∧
      (config.cacheEnabled = false →
        summary.foreignCalls = max options.repetitions 1 * batch.rows.dedup.length) := by
  obtain ⟨stats, failure, result, closed⟩ := run_eval_of_evaluates configured built read evaluates
  have right := dimension_of_batchOn read
  have faithful := config.faithful_newCache f
  refine ⟨_, failure, result, closed, newline_not_mem_rowsLine _, rfl, rfl,
    fun enabled room => ?_, fun disabled => ?_⟩
  · have hasRoom := config.hasRoom_newCache enabled room
    have missing : (config.newCache.missing batch).size = batch.rows.dedup.length :=
      Cache.size_missing_of_served_nil config.served_newCache
    have counted : (Memo.again binding info (valued f) batch (options.times - 1 + 1)
        ⟨config.newCache, 0⟩).calls = _ :=
      Memo.calls_again_of_hasRoom right evaluates.length faithful hasRoom (options.times - 1)
    rw [times_eq, missing, Nat.zero_add] at counted
    exact counted
  · have none : config.newCache.enabled = false := config.enabled_newCache.trans disabled
    have counted : (Memo.again binding info (valued f) batch options.times
        ⟨config.newCache, 0⟩).calls = _ :=
      Memo.calls_again_of_disabled right evaluates.length faithful none options.times
    rw [Nat.zero_add] at counted
    exact counted

/-- A host with the demonstration module, a configuration and three rows of zeros, of which the
first and the last are the same. -/
def Host.demonstration : Host where
  environment _ := none
  home := none
  disk := ⟨fun _ => .ok .file, fun _ => .ok "/modules/demonstration.so"⟩
  textOf path := .ok <|
    if path = "config.json" then "\x7b\"cache_max_size\": 2\x7d"
    else "[[0e9999999999, -0e9999999999], [-0e9999999999, 0e9999999999], " ++
      "[0e9999999999, -0e9999999999]]"
  input := []
  loader := .demonstration
  machine := ⟨none, .inOrder⟩

/-- Two workers are to add the values of each row, three times. -/
def EvalOptions.demonstration : EvalOptions where
  module := "/modules/demonstration.so"
  function := "sum"
  searchDirectories := []
  input := some "rows.json"
  config := some "config.json"
  workers := some 2
  repetitions := 3

/-- Zeros of both signs make two distinct rows of the three, and the cache has room for two. -/
theorem run_eval_values_demonstration :
    ∃ batch summary, EvalOptions.demonstration.batchOn .demonstration 2 = .ok batch ∧
      batch.rows = [[.zero, Double.zero.neg], [Double.zero.neg, .zero],
        [.zero, Double.zero.neg]] ∧
      (run .demonstration (.eval .demonstration)).1 =
        { output := rowsLine (batch.rows.map Foreign.Demonstration.sumRow) ++ "\n",
          summary := some summary } ∧
      summary.repetitions = 3 ∧ summary.foreignCalls = 2 := by
  have configured : EvalOptions.demonstration.configOn .demonstration =
      .ok { Config.standard none with cacheMaxSize := 2, workers := 2 } := rfl
  obtain ⟨batch, read, rows⟩ : ∃ batch,
      EvalOptions.demonstration.batchOn .demonstration 2 = .ok batch ∧
      batch.rows = [[.zero, Double.zero.neg], [Double.zero.neg, .zero],
        [.zero, Double.zero.neg]] := ⟨_, rfl, rfl⟩
  have distinct : batch.rows.dedup.length = 2 := by
    rw [rows]
    decide
  have evaluates : (Foreign.EntryPoints.table (.named "sum")
      (Foreign.Demonstration.image "/modules/demonstration.so") "sum" 0).Evaluates
      ⟨2, 1, some "a + b"⟩ Foreign.Demonstration.sumRow batch.rows := by
    rw [Foreign.EntryPoints.table_named]
    refine Foreign.Demonstration.evaluates_sum _ 0 ?_ ?_
    · rw [rows]
      decide
    · rw [rows]
      decide
  obtain ⟨summary, failure, result, closed, -, -, repetitions, counted, -⟩ :=
    run_eval_values configured rfl read evaluates
  rw [closed fun _ => rfl] at result
  refine ⟨batch, summary, read, rows, result, repetitions, ?_⟩
  rw [← distinct]
  exact counted rfl (Nat.le_of_eq distinct)

end Command

end ForeignEval

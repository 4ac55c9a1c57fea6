import ForeignEval.Proofs.Pool.Shape
import ForeignEval.Proofs.Text.Decimal

/-!
# No row of a batch is forgotten

The rows of a batch that a pool's cache does not serve are cut into chunks by their places among the
values, one chunk for each worker at most. If all chunks are evaluated, there is an output for every
row, whatever the cache served and whatever the outputs are.

* **Chunks** — `Pool.spread_pieces`: together they are the missing rows, and nothing is left out.
* **Outputs** — `Pool.forall₂_sized`: a chunk that is evaluated has an output for each of its rows.
* **Step** — `Cache.Awaits.merge`: the outputs of a chunk go to the end of what was computed, and
  there is still room for the others.
* **Run** — `Pool.gather_sized`: after all chunks the rows with outputs are the missing ones.
* **Assembly** — `Plan.outputsOf_of_resolved`: only a wrong number of values is left to be reported.
* **Everything** — `Pool.missing_rows_covered`.
-/

namespace ForeignEval

open Foreign (Trace)

/-! ## Texts -/

namespace Plan

/-- A row that has an output, though of another length, is not reported like one without any. -/
theorem wrongLength_ne_unresolved (function other : String) (index length expected index' : Nat)
    (row : Point) :
    wrongLength function index length expected ≠ unresolved other index' row := by
  intro same
  have text := (Error.internal.inj same).2
  -- one text ends in a digit, the other in a letter
  have last := congrArg (fun text => text.toList.getLast?) text
  simp only [String.toList_append, List.getLast?_append] at last
  have letter : ") was resolved by neither cache".toList.getLast? = some 'e' := by decide
  cases digit : (toString expected).toList.getLast? with
  | none =>
    have none := List.getLast?_eq_none_iff.1 digit
    exact Nat.toDigits_ne_nil (Nat.toList_repr.symm.trans none)
  | some c =>
    have isDigit : c.isDigit = true := by
      have mem := List.mem_of_getLast? digit
      rw [show (toString expected).toList = Nat.toDigits 10 expected from Nat.toList_repr] at mem
      exact Text.isDigit_of_mem_toDigits mem
    rw [digit, letter, Option.some_or, Option.some_or, Option.some.injEq] at last
    subst last
    cases isDigit

/-! ## Assembly -/

variable {function : String} {info : FunctionInfo} {fresh : Cache}

/-- If all rows have outputs, the only error is one of another length than declared. -/
theorem outputsOf_of_resolved {index : Nat} {pairs : List (Point × Option Point)} {e : Error}
    (resolved : ∀ pair ∈ pairs, (pair.2.or (fresh.peek pair.1)).isSome = true)
    (failed : outputsOf function info fresh index pairs = .error e) :
    ∃ place length, length ≠ info.outputDimension ∧
      e = wrongLength function place length info.outputDimension := by
  induction pairs generalizing index with
  | nil => cases failed
  | cons pair pairs ih =>
    obtain ⟨here, others⟩ := List.forall_mem_cons.1 resolved
    obtain ⟨value, found⟩ := Option.isSome_iff_exists.1 here
    rw [outputsOf_cons] at failed
    have first : outputOf function info fresh index pair.1 pair.2 =
        if h : value.length = info.outputDimension then .ok ⟨value, h⟩
        else .error (wrongLength function index value.length info.outputDimension) := by
      unfold outputOf
      rw [found]
    by_cases right : value.length = info.outputDimension
    · rw [first, dif_pos right] at failed
      cases rest : outputsOf function info fresh (index + 1) pairs with
      | error other =>
        rw [rest] at failed
        cases failed
        exact ih others rest
      | ok values =>
        rw [rest] at failed
        cases failed
    · rw [first, dif_neg right] at failed
      cases failed
      exact ⟨index, value.length, right, rfl⟩

/-- Every row of a batch was found or is one of the unknown rows. -/
theorem known_or_unknown {batch : Sample} {cache : Cache} {row : Point} (mem : row ∈ batch.rows) :
    (cache.peek row).isSome = true ∨ row ∈ (make batch cache).1.unknown.rows := by
  cases found : cache.peek row with
  | some value => exact .inl rfl
  | none =>
    refine .inr ?_
    show row ∈ distinct (notFound batch.rows (cache.lookupAll batch.rows).1)
    rw [mem_distinct, cache.lookupAll_eq, notFound_map, List.mem_filter, found]
    exact ⟨mem, rfl⟩

end Plan

namespace Pool

/-! ## Chunks -/

/-- The chunks of a sample for so many workers. -/
structure Spread (s : Sample) (workers : Nat) (chunks : List Sample) : Prop where
  /-- From wherever a chunk starts to its end there are values, and they make its rows. -/
  found : ∀ start ∈ s.starts (chunkRows s.size workers),
    ∃ values, slice? (start * s.dimension)
        (min (start + chunkRows s.size workers) s.size * s.dimension) s.flat = some values ∧
      (Sample.ofFlat? s.dimension (min (start + chunkRows s.size workers) s.size - start)
        values).isSome = true
  /-- So no chunk is left out. -/
  kept : chunks.length = (s.starts (chunkRows s.size workers)).length
  /-- There is a worker for each. -/
  few : chunks.length ≤ workers
  /-- None is empty or larger than its share. -/
  sized : ∀ chunk ∈ chunks, 0 < chunk.size ∧ chunk.size ≤ ceilDiv s.size workers
  /-- All have the dimension of the sample. -/
  dimension : ∀ chunk ∈ chunks, chunk.dimension = s.dimension
  /-- Together they are the sample. -/
  whole : (chunks.map (·.rows)).flatten = s.rows

theorem pieces_eq_chunks (s : Sample) (workers : Nat) :
    s.pieces (chunkRows s.size workers) = s.chunks (chunkSize s.size workers) := by
  rw [← s.pieces_eq, chunkSize_add_one]

theorem spread_pieces (s : Sample) {workers : Nat} (staffed : 0 < workers) :
    Spread s workers (s.pieces (chunkRows s.size workers)) := by
  have positive : 0 < chunkRows s.size workers := Nat.le_max_right _ 1
  have chunks := pieces_eq_chunks s workers
  refine ⟨fun start mem => ?found, ?kept, ?few, fun chunk mem => ?sized, fun chunk mem => ?dimension,
    ?whole⟩
  case found =>
    have cut := s.between?_of_mem_starts positive mem
    unfold Sample.between? at cut
    obtain ⟨values, there, makes⟩ := Option.bind_eq_some_iff.1 cut
    exact ⟨values, there, Option.isSome_iff_exists.2 ⟨_, makes⟩⟩
  case kept =>
    have all := List.filterMap_congr fun start mem => s.between?_of_mem_starts positive mem
    rw [Sample.pieces, all, List.filterMap_eq_map', List.length_map]
  case few =>
    rw [chunks]
    exact length_chunks_le s staffed
  case sized =>
    rw [chunks] at mem
    obtain ⟨some, most⟩ := Sample.size_of_mem_chunks mem
    rw [chunkSize_add_one] at most
    -- where there is a chunk there are rows, so a share is not empty
    obtain ⟨row, there⟩ := List.exists_mem_of_length_pos some
    have rows : 0 < s.size := List.length_pos_of_mem (Sample.subset_of_mem_chunks mem there)
    have share := le_mul_ceilDiv s.size staffed
    have positive : 0 < ceilDiv s.size workers := by
      rcases Nat.eq_zero_or_pos (ceilDiv s.size workers) with none | positive
      · rw [none, Nat.mul_zero] at share
        omega
      · exact positive
    unfold chunkRows at most
    omega
  case dimension =>
    rw [chunks] at mem
    exact Sample.dimension_of_mem_chunks mem
  case whole =>
    rw [chunks]
    exact s.flatten_chunks _

/-! ## Outputs -/

/-- An evaluation that succeeds has an output for each row of its chunk. -/
def Sized (job : Job) (outcome : Outcome) : Prop :=
  ∀ outputs, outcome.reply = .ok outputs → outputs.size = job.chunk.size

theorem sized_evaluate (function : String) (job : Job) (trace : Trace) :
    Sized job (job.evaluate function trace).1 := by
  intro outputs ok
  unfold Job.evaluate at ok
  split at ok
  · cases ok
  · exact (job.worker.session.evaluateBatch_ok trace ok).2.1

/-- Evaluations of chunks have an output for each row, if they succeed. -/
theorem forall₂_sized (pool : Pool) (chunks : List Sample) (trace : Trace) :
    List.Forall₂ Sized (jobsOf pool.workers chunks) (pool.evaluateChunks chunks trace).1 :=
  forall₂_evaluateJobs
    ⟨fun job _ trace => sized_evaluate pool.function job trace,
      fun _ _ _ _ _ _ _ _ ok => (nomatch ok)⟩ pool.schedule trace

/-- Outputs for all chunks come to a cache of their rows. -/
theorem gather_sized {chunks : List Sample} {outcomes : List Outcome} {fresh : Cache}
    (evaluated : List.Forall₂ (fun chunk outcome =>
      ∃ outputs, outcome.reply = .ok outputs ∧ outputs.size = chunk.size) chunks outcomes)
    (awaits : fresh.Awaits (chunks.map (·.rows)).flatten) :
    ∃ filled, gather fresh chunks outcomes = .ok filled ∧ filled.Awaits [] ∧
      filled.view.keys = fresh.view.keys ++ (chunks.map (·.rows)).flatten := by
  induction evaluated generalizing fresh with
  | nil =>
    refine ⟨fresh, rfl, awaits, ?_⟩
    rw [List.map_nil, List.flatten_nil, List.append_nil]
  | @cons chunk outcome chunks outcomes first others ih =>
    obtain ⟨outputs, ok, size⟩ := first
    rw [List.map_cons, List.flatten_cons] at awaits ⊢
    have length : outputs.rows.length = chunk.rows.length := size
    rw [gather, ok, ← List.append_assoc, ← awaits.keys_merge length]
    exact ih (awaits.merge length)

/-! ## Batches -/

variable {pool : Pool} {batch : Sample} {trace : Trace}

/-- If all chunks are evaluated, what was computed serves the missing rows. -/
theorem collect_sized (staffed : pool.workers ≠ [])
    (evaluated : ∀ outcome ∈ (pool.evaluateUnknown batch trace).1,
      ∃ outputs, outcome.reply = .ok outputs) :
    ∃ filled, collect (Plan.make batch pool.cache).1.unknown
        (pool.chunksFor (Plan.make batch pool.cache).1.unknown)
        (pool.evaluateUnknown batch trace).1 = .ok filled ∧
      ∀ row ∈ (Plan.make batch pool.cache).1.unknown.rows, (filled.peek row).isSome = true := by
  let unknown := (Plan.make batch pool.cache).1.unknown
  let chunks := pool.chunksFor unknown
  have enough : chunks.length ≤ pool.workers.length :=
    length_chunks_le unknown (List.length_pos_iff.2 staffed)
  have rows : (chunks.map (·.rows)).flatten = unknown.rows := unknown.flatten_chunks _
  have sized : List.Forall₂ (fun chunk outcome =>
      ∃ outputs, outcome.reply = .ok outputs ∧ outputs.size = chunk.size) chunks
      (pool.evaluateUnknown batch trace).1 := by
    have each := forall₂_sized { pool with cache := (Plan.make batch pool.cache).2 } chunks trace
    rw [← chunks_jobsOf enough, List.forall₂_map_left_iff]
    refine ((List.forall₂_and_left _ _).2 ⟨evaluated, each.flip⟩).flip.imp ?_
    rintro job outcome ⟨⟨outputs, ok⟩, fits⟩
    exact ⟨outputs, ok, fits outputs ok⟩
  have calm : firstPanic (pool.evaluateUnknown batch trace).1 = none := by
    unfold firstPanic
    rw [List.findSome?_eq_none_iff]
    intro outcome mem
    obtain ⟨outputs, ok⟩ := evaluated outcome mem
    rw [ok]
    rfl
  have awaits : (Cache.new unknown.size).Awaits (chunks.map (·.rows)).flatten := by
    rw [rows]
    exact Cache.awaits_new (Plan.nodup_unknown batch pool.cache)
  obtain ⟨filled, gathered, served, keys⟩ := gather_sized sized awaits
  refine ⟨filled, ?_, fun row mem => ?_⟩
  · unfold collect
    rw [calm]
    exact gathered
  · rw [served.sound.isSome_peek_iff served.enabled, keys, rows]
    exact List.mem_append_right _ mem

/-- If all chunks are evaluated, an output that has another length than declared is the only thing
that can be wrong with a batch of the declared dimension. -/
theorem evaluateBatch_of_evaluated (staffed : pool.workers ≠ [])
    (declared : batch.dimension = pool.info.inputDimension)
    (evaluated : ∀ outcome ∈ (pool.evaluateUnknown batch trace).1,
      ∃ outputs, outcome.reply = .ok outputs) :
    (∃ output, (pool.evaluateBatch batch trace).1 = .ok output) ∨
      ∃ index length, length ≠ pool.info.outputDimension ∧
        (pool.evaluateBatch batch trace).1 =
          .error (Plan.wrongLength pool.function index length pool.info.outputDimension) := by
  obtain ⟨filled, collected, served⟩ := collect_sized staffed evaluated
  have resolved : ∀ pair ∈ (Plan.make batch pool.cache).1.batch.rows.zip
      (Plan.make batch pool.cache).1.known, (pair.2.or (filled.peek pair.1)).isSome = true := by
    rw [(Plan.make_known batch pool.cache).1, (Plan.make_known batch pool.cache).2, zip_map_self,
      List.forall_mem_map]
    intro row mem
    rcases Plan.known_or_unknown mem with known | unknown
    · rw [Option.isSome_or, known, Bool.true_or]
    · rw [Option.isSome_or, served row unknown, Bool.or_true]
  rw [evaluateBatch_eq declared, collected]
  show (∃ output, Reply.ofExcept (Plan.assemble _ pool.function pool.info filled _).1 = .ok output) ∨
    ∃ index length, length ≠ pool.info.outputDimension ∧
      Reply.ofExcept (Plan.assemble _ pool.function pool.info filled _).1 = .error _
  cases outputs : Plan.outputsOf pool.function pool.info filled 0
      ((Plan.make batch pool.cache).1.batch.rows.zip (Plan.make batch pool.cache).1.known) with
  | error e =>
    obtain ⟨index, length, wrong, rfl⟩ := Plan.outputsOf_of_resolved resolved outputs
    rw [Plan.assemble_of_error outputs]
    exact .inr ⟨index, length, wrong, rfl⟩
  | ok values =>
    unfold Plan.assemble
    rw [outputs]
    exact .inl ⟨_, rfl⟩

/-- **Chunks lose nothing.** A sample is spread over any number of workers in chunks of at most its
share each, of which there are no more than workers and which together are the sample. A pool gives
each chunk to the worker in its place. If all chunks of the missing rows of a batch are evaluated,
then, whatever the cache served and whatever the outputs are, no row is found to be without output:
there is an output, or a row of it has another length than declared. -/
theorem missing_rows_covered :
    (∀ (s : Sample) (workers : Nat), 0 < workers →
      Spread s workers (s.pieces (chunkRows s.size workers))) ∧
    ∀ (pool : Pool) (batch : Sample) (trace : Trace) (chunks : List Sample), pool.workers ≠ [] →
      chunks = (Plan.make batch pool.cache).1.unknown.pieces
        (chunkRows (Plan.make batch pool.cache).1.unknown.size pool.workers.length) →
      (pool.workers.zipWith Job.mk chunks).map (·.chunk) = chunks ∧
      (pool.workers.zipWith Job.mk chunks).map (·.worker) = pool.workers.take chunks.length ∧
      ((∀ outcome ∈ ({ pool with cache := (Plan.make batch pool.cache).2 }.evaluateChunks
          chunks trace).1, ∃ outputs, outcome.reply = .ok outputs) →
        (∀ function index row,
          (pool.evaluateBatch batch trace).1 ≠ .error (Plan.unresolved function index row)) ∧
        (batch.dimension = pool.info.inputDimension →
          (∃ output, (pool.evaluateBatch batch trace).1 = .ok output) ∨
            ∃ index length, length ≠ pool.info.outputDimension ∧
              (pool.evaluateBatch batch trace).1 = .error
                (Plan.wrongLength pool.function index length pool.info.outputDimension))) := by
  refine ⟨fun s workers staffed => spread_pieces s staffed, ?_⟩
  intro pool batch trace chunks staffed cut
  rw [pieces_eq_chunks] at cut
  have enough : chunks.length ≤ pool.workers.length := by
    rw [cut]
    exact length_chunks_le _ (List.length_pos_iff.2 staffed)
  refine ⟨chunks_jobsOf enough, workers_take_jobsOf enough, fun evaluated => ?_⟩
  have evaluated : ∀ outcome ∈ (pool.evaluateUnknown batch trace).1,
      ∃ outputs, outcome.reply = .ok outputs := by
    rw [cut] at evaluated
    exact evaluated
  refine ⟨fun function index row unresolved => ?_,
    fun declared => evaluateBatch_of_evaluated staffed declared evaluated⟩
  by_cases declared : batch.dimension = pool.info.inputDimension
  · rcases evaluateBatch_of_evaluated staffed declared evaluated with
      ⟨output, ok⟩ | ⟨place, length, -, wrong⟩
    · rw [ok] at unresolved
      cases unresolved
    · rw [wrong] at unresolved
      exact Plan.wrongLength_ne_unresolved _ _ _ _ _ _ _ (Reply.error.inj unresolved)
  · rw [evaluateBatch_of_wrong declared] at unresolved
    cases unresolved

/-- Three points, one of them twice. -/
def repeatedBatch : Sample := ⟨1, [[⟨1⟩], [⟨2⟩], [⟨1⟩], [⟨3⟩]], none, by decide⟩

/-- Two workers share the three points as two and one, and evaluate them all. -/
theorem evaluated_repeatedBatch :
    ∃ pool opened, Pool.new choosyBinding 2 (Cache.new 8) .inOrder [] = (.ok pool, opened) ∧
      pool.workers ≠ [] ∧
      ∃ chunks, chunks = (Plan.make repeatedBatch pool.cache).1.unknown.pieces
          (chunkRows (Plan.make repeatedBatch pool.cache).1.unknown.size pool.workers.length) ∧
        chunks.map (·.rows) = [[[⟨1⟩], [⟨2⟩]], [[⟨3⟩]]] ∧
        ∀ outcome ∈ ({ pool with cache := (Plan.make repeatedBatch pool.cache).2 }.evaluateChunks
          chunks opened).1, ∃ outputs, outcome.reply = .ok outputs := by
  refine ⟨_, _, rfl, List.cons_ne_nil _ _, _, rfl, by with_unfolding_all rfl, ?_⟩
  intro outcome mem
  have reply := List.mem_map_of_mem (f := Outcome.reply) mem
  rw [show List.map Outcome.reply _ =
    [.ok ⟨2, [[⟨1⟩, ⟨1⟩], [⟨2⟩, ⟨2⟩]], none, by decide⟩, .ok ⟨2, [[⟨3⟩, ⟨3⟩]], none, by decide⟩]
    by with_unfolding_all rfl] at reply
  rcases List.mem_pair.1 reply with ok | ok
  · exact ⟨_, ok⟩
  · exact ⟨_, ok⟩

/-- The law at work for that batch. -/
theorem missing_rows_covered_repeated :
    ∃ pool opened chunks, Pool.new choosyBinding 2 (Cache.new 8) .inOrder [] = (.ok pool, opened) ∧
      chunks.map (·.rows) = [[[⟨1⟩], [⟨2⟩]], [[⟨3⟩]]] ∧
      (pool.workers.zipWith Job.mk chunks).map (·.chunk) = chunks ∧
      Spread repeatedBatch 2 (repeatedBatch.pieces (chunkRows repeatedBatch.size 2)) ∧
      ∀ function index row,
        (pool.evaluateBatch repeatedBatch opened).1 ≠ .error (Plan.unresolved function index row) := by
  obtain ⟨pool, opened, ok, staffed, chunks, cut, rows, evaluated⟩ := evaluated_repeatedBatch
  obtain ⟨spread, covered⟩ := missing_rows_covered
  obtain ⟨each, -, complete⟩ := covered pool repeatedBatch opened chunks staffed cut
  exact ⟨pool, opened, chunks, ok, rows, each, spread repeatedBatch 2 (by decide),
    (complete evaluated).1⟩

end Pool

end ForeignEval

import ForeignEval.Proofs.Batch.Memo
import ForeignEval.Proofs.Pool.Jobs

/-!
# Pools answer what evaluators answer

A pool of a row-wise function comes down to the memo that an evaluator comes down to: the chunks of
a batch are answered one by one as the whole would be, and their outputs meet in one cache.

* **Invariant** — `Pool.Shows`: all workers are healthy, and together they have counted the memo's
  calls.
* **Chunks** — `Pool.gather_spec`: replies to chunks come to the reply to all their rows.
* **Refinement** — `Pool.refines_memo`: a pool is its memo.
* **Simulation** — `pool_simulates_evaluator`: nobody can tell a pool from an evaluator.
-/

namespace ForeignEval

open Foreign (EntryPoint Failure Table Trace)
open Workspace (Request Value)

namespace Pool

variable {binding : Binding} {info : FunctionInfo} {F : Point → Except Failure Point}

/-! ## Chunks -/

/-- Replies to chunks of distinct rows come to the reply to all their rows: the outputs, in a cache
that has room for them, or the first failure. -/
theorem gather_spec {chunks : List Sample} {outcomes : List Outcome} {fresh : Cache}
    (replied : List.Forall₂ (fun chunk outcome => binding.RowsReply F chunk.rows outcome.reply)
      chunks outcomes)
    (awaits : fresh.Awaits (chunks.map (·.rows)).flatten) :
    match (chunks.map (·.rows)).flatten.mapM F with
    | .ok outputs => ∃ filled, gather fresh chunks outcomes = .ok filled ∧ filled.WellFormed ∧
        filled.view = { fresh.view with
          entries := fresh.entries ++ (chunks.map (·.rows)).flatten.zip outputs }
    | .error failure =>
      gather fresh chunks outcomes = binding.sessionReply .execBatch (.error failure) := by
  induction replied generalizing fresh with
  | nil =>
    refine ⟨fresh, rfl, awaits.sound, ?_⟩
    rw [List.map_nil, List.flatten_nil, List.zip_nil_left, List.append_nil]
    rfl
  | @cons chunk outcome chunks outcomes first others ih =>
    rw [List.map_cons, List.flatten_cons] at awaits ⊢
    rw [List.mapM_append]
    unfold Binding.RowsReply at first
    cases answered : chunk.rows.mapM F with
    | error failure =>
      rw [answered] at first
      show gather fresh (chunk :: chunks) (outcome :: outcomes) = _
      unfold gather
      rw [show outcome.reply = _ from first]
      rfl
    | ok outputs =>
      rw [answered] at first
      obtain ⟨sample, same, rfl⟩ := first
      have length := (Foreign.forall₂_of_mapM_ok answered).length_eq
      -- the outputs of the first chunk go to the end of the cache
      have view := awaits.view_merge length.symm
      have grown : (fresh.merge (Cache.ofOutputs chunk.rows sample.rows)).entries =
          fresh.entries ++ chunk.rows.zip sample.rows := congrArg Fifo.entries view
      have rest := ih (awaits.merge length.symm)
      have step : gather fresh (chunk :: chunks) (outcome :: outcomes) =
          gather (fresh.merge (Cache.ofOutputs chunk.rows sample.rows)) chunks outcomes := by
        rw [gather, same]
      cases later : (chunks.map (·.rows)).flatten.mapM F with
      | error failure =>
        rw [later] at rest
        exact step.trans rest
      | ok others =>
        rw [later] at rest
        obtain ⟨filled, gathered, filled_sound, shown⟩ := rest
        refine ⟨filled, step.trans gathered, filled_sound, ?_⟩
        rw [shown, view, grown, List.append_assoc, ← List.zip_append length]

/-! ## Invariant -/

/-- A pool of healthy workers has the cache of a memo, and its workers together the count. -/
structure Shows (binding : Binding) (info : FunctionInfo) (pool : Pool) (memo : Memo) : Prop where
  /-- There is a worker. -/
  staffed : pool.workers ≠ []
  /-- No worker is poisoned, and their sessions are healthy. -/
  healthy : ∀ worker ∈ pool.workers,
    worker.poisoned = false ∧ worker.session.Healthy binding info
  /-- The dimensions are those that the workers were told. -/
  info_eq : pool.info = info
  /-- The function is that of the binding. -/
  function_eq : pool.function = binding.function
  /-- The caches are the same. -/
  cache : pool.cache = memo.cache
  /-- The workers have counted the memo's calls. -/
  calls : (pool.workers.map (·.session.evaluations)).sum = memo.calls

theorem callsOf_eq (function : String) {workers : List Worker}
    (sane : ∀ worker ∈ workers, worker.poisoned = false) :
    callsOf function workers = .ok (workers.map (·.session.evaluations)).sum := by
  induction workers with
  | nil => rfl
  | cons worker workers ih =>
    obtain ⟨first, others⟩ := List.forall_mem_cons.1 sane
    rw [callsOf, first, ih others]
    rfl

theorem after_of_panic?_eq_none {α : Type} (session : Session) {reply : Reply α}
    (calm : reply.panic? = none) : Worker.after session reply = ⟨session, false⟩ := by
  cases reply with
  | ok | error => rfl
  | panic => cases calm

/-- A point goes to the first worker if that is not poisoned. -/
theorem evaluate_of_cons {pool : Pool} {worker : Worker} {others : List Worker}
    (staff : pool.workers = worker :: others) (sane : worker.poisoned = false) (point : Point)
    (trace : Trace) :
    pool.evaluate point trace =
      ((Evaluator.evaluate ⟨worker.session, pool.cache⟩ point trace).1,
        { pool with
          workers := Worker.after
            (Evaluator.evaluate ⟨worker.session, pool.cache⟩ point trace).2.1.session
            (Evaluator.evaluate ⟨worker.session, pool.cache⟩ point trace).1 :: others
          cache := (Evaluator.evaluate ⟨worker.session, pool.cache⟩ point trace).2.1.cache },
        (Evaluator.evaluate ⟨worker.session, pool.cache⟩ point trace).2.2) := by
  have first : pool.workers = [] ++ worker :: others := staff
  exact evaluate_of_first first (by simp) sane point trace

namespace Shows

variable {pool : Pool} {memo : Memo} (shows : Shows binding info pool memo)

include shows

theorem calls_eq : pool.calls = .ok memo.calls := by
  unfold Pool.calls
  rw [callsOf_eq _ fun worker mem => (shows.healthy worker mem).1, shows.calls]

/-- A point gets the memo's reply from the first worker. -/
theorem evaluate (rowWise : binding.table.RowWise info F) (point : Point) (trace : Trace) :
    (pool.evaluate point trace).1 = (memo.evaluate binding info F point).1 ∧
      Shows binding info (pool.evaluate point trace).2.1
        (memo.evaluate binding info F point).2 := by
  obtain ⟨worker, others, staff⟩ := List.exists_cons_of_ne_nil shows.staffed
  obtain ⟨⟨sane, healthy⟩, rest⟩ := List.forall_mem_cons.1 (staff ▸ shows.healthy)
  have calls : worker.session.evaluations + (others.map (·.session.evaluations)).sum =
      memo.calls := by
    rw [← shows.calls, staff]
    rfl
  -- the first worker is an evaluator, whose memo has counted its own calls only
  have evaluator : Evaluator.Shows binding info ⟨worker.session, pool.cache⟩
      ⟨memo.cache, worker.session.evaluations⟩ := ⟨healthy, shows.cache, rfl⟩
  obtain ⟨reply, after⟩ := evaluator.evaluate rowWise point trace
  have calm : (Evaluator.evaluate ⟨worker.session, pool.cache⟩ point trace).1.panic? = none := by
    rw [reply, Memo.panic?_evaluate]
  have whole : memo = ⟨memo.cache,
      worker.session.evaluations + (others.map (·.session.evaluations)).sum⟩ := by rw [calls]
  rw [whole, Memo.evaluate_add, evaluate_of_cons staff sane, after_of_panic?_eq_none _ calm]
  refine ⟨reply, List.cons_ne_nil _ _, ?_, shows.info_eq, shows.function_eq, after.cache, ?_⟩
  · exact List.forall_mem_cons.2 ⟨⟨rfl, after.healthy⟩, rest⟩
  · rw [List.map_cons, List.sum_cons, after.calls]

end Shows

/-! ## Batches -/

theorem panic?_of_rowsReply {rows : List Point} {reply : Reply Sample}
    (replied : binding.RowsReply F rows reply) : reply.panic? = none := by
  unfold Binding.RowsReply at replied
  cases answered : rows.mapM F with
  | error failure =>
    rw [answered] at replied
    exact congrArg Reply.panic? replied
  | ok outputs =>
    rw [answered] at replied
    obtain ⟨sample, same, -⟩ := replied
    exact congrArg Reply.panic? same

/-- A healthy worker has answered its chunk and counted the rows. -/
structure Answers (binding : Binding) (info : FunctionInfo) (F : Point → Except Failure Point)
    (job : Job) (outcome : Outcome) : Prop where
  /-- The rows are answered. -/
  replied : binding.RowsReply F job.chunk.rows outcome.reply
  /-- The worker is as healthy as before. -/
  healthy : outcome.worker.poisoned = false ∧ outcome.worker.session.Healthy binding info
  /-- The rows are counted. -/
  counted : outcome.worker.session.evaluations =
    job.worker.session.evaluations + job.chunk.size

/-- A worker answers its chunk if its session does. -/
theorem answers_evaluate {job : Job} {trace : Trace} (sane : job.worker.poisoned = false)
    (answers : job.worker.session.Answers binding info F job.chunk
      (job.worker.session.evaluateBatch job.chunk trace)) (function : String) :
    Answers binding info F job (job.evaluate function trace).1 := by
  unfold Job.evaluate
  rw [sane, if_neg Bool.false_ne_true]
  dsimp only
  rw [after_of_panic?_eq_none _ (panic?_of_rowsReply answers.replied)]
  exact ⟨answers.replied, ⟨rfl, answers.healthy⟩, answers.counted⟩

/-- Healthy workers answer their chunks, whatever happened before. -/
theorem settles_answers (rowWise : binding.table.RowWise info F) (function : String)
    {jobs : List Job} (healthy : ∀ job ∈ jobs, job.worker.poisoned = false ∧
      job.worker.session.Healthy binding info)
    (right : ∀ job ∈ jobs, job.chunk.dimension = info.inputDimension) :
    Settles function (Answers binding info F) jobs := by
  have answers : ∀ job ∈ jobs, ∀ trace,
      Answers binding info F job (job.evaluate function trace).1 := by
    intro job mem trace
    obtain ⟨sane, session⟩ := healthy job mem
    exact answers_evaluate sane (session.evaluateBatch rowWise (right job mem) trace) function
  -- no job unwinds, so none is given up
  refine ⟨answers, fun job mem trace text unwound => ?_⟩
  have calm := panic?_of_rowsReply (answers job mem trace).replied
  rw [unwound] at calm
  cases calm

/-- Together the workers have counted all rows of their chunks. -/
theorem sum_evaluations {jobs : List Job} {outcomes : List Outcome}
    (answers : List.Forall₂ (Answers binding info F) jobs outcomes) :
    (outcomes.map (·.worker.session.evaluations)).sum =
      (jobs.map (·.worker.session.evaluations)).sum + (jobs.map (·.chunk.size)).sum := by
  induction answers with
  | nil => rfl
  | cons first _ ih =>
    simp only [List.map_cons, List.sum_cons, first.counted, ih]
    omega

theorem firstPanic_eq_none {jobs : List Job} {outcomes : List Outcome}
    (answers : List.Forall₂ (Answers binding info F) jobs outcomes) :
    firstPanic outcomes = none := by
  unfold firstPanic
  rw [List.findSome?_eq_none_iff]
  intro outcome mem
  obtain ⟨job, -, answered⟩ := exists_job answers mem
  exact panic?_of_rowsReply answered.replied

/-- Replies to the chunks of a sample come to a cache that shows the outputs of its rows, or to the
first failure. -/
theorem collect_spec {unknown : Sample} (distinct : unknown.rows.Nodup) {size : Nat}
    {outcomes : List Outcome}
    (replied : List.Forall₂ (fun chunk outcome => binding.RowsReply F chunk.rows outcome.reply)
      (unknown.chunks size) outcomes) (calm : firstPanic outcomes = none) :
    match unknown.rows.mapM F with
    | .ok outputs => ∃ filled,
        collect unknown (unknown.chunks size) outcomes = .ok filled ∧ filled.WellFormed ∧
          filled.view = (Cache.ofOutputs unknown.rows outputs).view
    | .error failure => collect unknown (unknown.chunks size) outcomes =
        binding.sessionReply .execBatch (.error failure) := by
  have awaits : (Cache.new unknown.size).Awaits
      ((unknown.chunks size).map (·.rows)).flatten := by
    rw [unknown.flatten_chunks]
    exact Cache.awaits_new distinct
  have gathered := gather_spec replied awaits
  rw [unknown.flatten_chunks] at gathered
  have collected : collect unknown (unknown.chunks size) outcomes =
      gather (Cache.new unknown.size) (unknown.chunks size) outcomes := by
    unfold collect
    rw [calm]
  rw [collected]
  cases answered : unknown.rows.mapM F with
  | error failure =>
    rw [answered] at gathered
    exact gathered
  | ok outputs =>
    rw [answered] at gathered
    obtain ⟨filled, same, sound, view⟩ := gathered
    exact ⟨filled, same, sound, view.trans (Cache.view_ofOutputs distinct outputs).symm⟩

namespace Shows

variable {pool : Pool} {memo : Memo} (shows : Shows binding info pool memo)

include shows

/-- The workers of a row-wise function answer chunks of its dimension. -/
theorem forall₂_answers (rowWise : binding.table.RowWise info F) {chunks : List Sample}
    (right : ∀ chunk ∈ chunks, chunk.dimension = info.inputDimension) (trace : Trace) :
    List.Forall₂ (Answers binding info F) (jobsOf pool.workers chunks)
      (pool.evaluateChunks chunks trace).1 := by
  have settles : Settles pool.function (Answers binding info F) (jobsOf pool.workers chunks) := by
    refine settles_answers rowWise _ ?_ ?_
    · exact fun job mem => shows.healthy _ (mem_of_mem_jobsOf mem).1
    · exact fun job mem => right _ (mem_of_mem_jobsOf mem).2
  exact forall₂_evaluateJobs settles pool.schedule trace

/-- Workers that answer the chunks of a sample count its rows. -/
theorem evaluateChunks {unknown : Sample} {size : Nat} {trace : Trace}
    (enough : (unknown.chunks size).length ≤ pool.workers.length)
    (answers : List.Forall₂ (Answers binding info F) (jobsOf pool.workers (unknown.chunks size))
      (pool.evaluateChunks (unknown.chunks size) trace).1) :
    List.Forall₂ (fun chunk outcome => binding.RowsReply F chunk.rows outcome.reply)
        (unknown.chunks size) (pool.evaluateChunks (unknown.chunks size) trace).1 ∧
      firstPanic (pool.evaluateChunks (unknown.chunks size) trace).1 = none ∧
      Shows binding info (pool.evaluateChunks (unknown.chunks size) trace).2.1
        ⟨memo.cache, memo.calls + unknown.size⟩ := by
  have staff := workers_jobsOf pool.workers (unknown.chunks size)
  refine ⟨?_, firstPanic_eq_none answers, ?_, ?_, shows.info_eq, shows.function_eq, shows.cache, ?_⟩
  · rw [← chunks_jobsOf enough, List.forall₂_map_left_iff, chunks_jobsOf enough]
    exact answers.imp fun _ _ answered => answered.replied
  · -- there are as many workers as before
    have before := congrArg List.length staff
    have many := List.length_pos_iff.2 shows.staffed
    rw [List.length_append, List.length_map, answers.length_eq] at before
    rw [workers_evaluateChunks, ← List.length_pos_iff, List.length_append, List.length_map]
    omega
  · refine forall_workers_evaluateChunks shows.healthy fun outcome mem => ?_
    obtain ⟨job, -, answered⟩ := exists_job answers mem
    exact answered.healthy
  · have before := shows.calls
    rw [← staff, List.map_append, List.sum_append, List.map_map] at before
    have counted := sum_evaluations answers
    have rows := sum_size_jobsOf enough
    rw [workers_evaluateChunks, List.map_append, List.sum_append, List.map_map]
    show ((pool.evaluateChunks _ trace).1.map (·.worker.session.evaluations)).sum + _ =
      memo.calls + unknown.size
    rw [counted, rows, ← before]
    exact Nat.add_right_comm _ _ _

/-- The lookups of a batch are counted before anything is evaluated. -/
theorem lookups (batch : Sample) :
    Shows binding info { pool with cache := (Plan.make batch pool.cache).2 }
      ⟨(Plan.make batch pool.cache).2, memo.calls⟩ :=
  ⟨shows.staffed, shows.healthy, shows.info_eq, shows.function_eq, rfl, shows.calls⟩

/-- Workers that answer their chunks answer the unknown rows of a batch as a whole. -/
theorem evaluateUnknown {batch : Sample} {trace : Trace}
    (answers : List.Forall₂ (Answers binding info F)
      (jobsOf pool.workers (pool.chunksFor (Plan.make batch pool.cache).1.unknown))
      (pool.evaluateUnknown batch trace).1) :
    (match (Plan.make batch pool.cache).1.unknown.rows.mapM F with
      | .ok outputs => ∃ filled, collect (Plan.make batch pool.cache).1.unknown
          (pool.chunksFor (Plan.make batch pool.cache).1.unknown)
          (pool.evaluateUnknown batch trace).1 = .ok filled ∧ filled.WellFormed ∧
            filled.view =
              (Cache.ofOutputs (Plan.make batch pool.cache).1.unknown.rows outputs).view
      | .error failure => collect (Plan.make batch pool.cache).1.unknown
          (pool.chunksFor (Plan.make batch pool.cache).1.unknown)
          (pool.evaluateUnknown batch trace).1 =
            binding.sessionReply .execBatch (.error failure)) ∧
      Shows binding info (pool.evaluateUnknown batch trace).2.1
        ⟨(Plan.make batch pool.cache).2,
          memo.calls + (Plan.make batch pool.cache).1.unknown.size⟩ := by
  have enough := length_chunks_le (Plan.make batch pool.cache).1.unknown
    (List.length_pos_iff.2 shows.staffed)
  obtain ⟨replied, calm, after⟩ := (shows.lookups batch).evaluateChunks enough answers
  exact ⟨collect_spec (Plan.nodup_unknown batch pool.cache) replied calm, after⟩

/-- A batch gets the memo's reply, however it is cut into chunks, if the workers answer them. -/
theorem evaluateBatch_of_answers {batch : Sample} {trace : Trace}
    (answers : batch.dimension = info.inputDimension → List.Forall₂ (Answers binding info F)
      (jobsOf pool.workers (pool.chunksFor (Plan.make batch pool.cache).1.unknown))
      (pool.evaluateUnknown batch trace).1) :
    (pool.evaluateBatch batch trace).1 = (memo.evaluateBatch binding info F batch).1 ∧
      Shows binding info (pool.evaluateBatch batch trace).2.1
        (memo.evaluateBatch binding info F batch).2 := by
  by_cases right : batch.dimension = info.inputDimension
  · obtain ⟨collected, after⟩ := shows.evaluateUnknown (answers right)
    rw [Pool.evaluateBatch_eq (shows.info_eq ▸ right)]
    unfold Memo.evaluateBatch
    rw [if_pos right, ← shows.cache]
    dsimp only
    cases answered : (Plan.make batch pool.cache).1.unknown.rows.mapM F with
    | error failure =>
      rw [answered] at collected
      dsimp only at collected
      rw [collected]
      exact ⟨rfl, after⟩
    | ok outputs =>
      rw [answered] at collected
      obtain ⟨filled, same, sound, view⟩ := collected
      have sound' := Cache.wellFormed_ofOutputs
        (Plan.make batch pool.cache).1.unknown.rows outputs
      rw [same]
      unfold Pool.settled
      dsimp only
      rw [after.function_eq, after.info_eq, after.cache, Plan.assemble_congr sound sound' view]
      exact ⟨rfl, after.staffed, after.healthy, rfl, rfl, rfl, after.calls⟩
  · rw [Pool.evaluateBatch_of_wrong (shows.info_eq ▸ right)]
    unfold Memo.evaluateBatch
    rw [if_neg right, shows.info_eq, shows.function_eq]
    exact ⟨rfl, shows⟩

theorem evaluateBatch (rowWise : binding.table.RowWise info F) (batch : Sample) (trace : Trace) :
    (pool.evaluateBatch batch trace).1 = (memo.evaluateBatch binding info F batch).1 ∧
      Shows binding info (pool.evaluateBatch batch trace).2.1
        (memo.evaluateBatch binding info F batch).2 := by
  refine shows.evaluateBatch_of_answers fun right => ?_
  have declared : ∀ chunk ∈ pool.chunksFor (Plan.make batch pool.cache).1.unknown,
      chunk.dimension = info.inputDimension :=
    fun chunk mem => (Sample.dimension_of_mem_chunks mem).trans right
  exact (shows.lookups batch).forall₂_answers rowWise declared trace

end Shows

/-! ## Refinement -/

/-- A pool as a server. -/
def server : Server (Pool × Trace) where
  serve state
    | .point point =>
      let (reply, state) := state.1.evaluate point state.2
      (reply.map fun point => .point (some point), state)
    | .batch batch =>
      let (reply, state) := state.1.evaluateBatch batch state.2
      (reply.map .sample, state)
  cache state := state.1.cache
  calls state := state.1.calls

/-- **Pools**: a pool of a row-wise function is its memo. -/
theorem refines_memo (rowWise : binding.table.RowWise info F) :
    server.Refines (Memo.server binding info F) fun state memo =>
      Shows binding info state.1 memo where
  cache shows := shows.cache
  calls shows := shows.calls_eq
  step {state memo} request shows := by
    cases request with
    | point point =>
      obtain ⟨reply, after⟩ := shows.evaluate rowWise point state.2
      exact ⟨congrArg (Reply.map fun point => Value.point (some point)) reply, after⟩
    | batch batch =>
      obtain ⟨reply, after⟩ := shows.evaluateBatch rowWise batch state.2
      exact ⟨congrArg (Reply.map Value.sample) reply, after⟩

/-! ## Opening -/

/-- What holds of every session that is opened, and of what opening one does to the trace, holds of
all sessions of a pool and of the trace. -/
theorem openSessions_ok {P : Session → Prop} {R : Trace → Trace → Prop}
    (one : ∀ {before after session}, Session.new binding before = (.ok session, after) →
      P session ∧ R before after)
    (refl : ∀ trace, R trace trace)
    (trans : ∀ {before middle after}, R before middle → R middle after → R before after)
    {count : Nat} {before after : Trace} {sessions : List Session}
    (opened : openSessions binding count before = (sessions, none, after)) :
    sessions.length = count ∧ (∀ session ∈ sessions, P session) ∧ R before after := by
  induction count generalizing before sessions with
  | zero =>
    cases opened
    exact ⟨rfl, fun _ mem => absurd mem List.not_mem_nil, refl _⟩
  | succ count ih =>
    unfold openSessions at opened
    cases first : Session.new binding before with
    | mk result rest =>
      rw [first] at opened
      cases result with
      | error e => cases opened
      | ok session =>
        cases others : openSessions binding count rest with
        | mk later tail =>
          obtain ⟨failed, trace⟩ := tail
          dsimp only at opened
          rw [others] at opened
          cases opened
          obtain ⟨fine, made⟩ := one first
          obtain ⟨length, all, more⟩ := ih others
          exact ⟨congrArg (· + 1) length, List.forall_mem_cons.2 ⟨fine, all⟩, trans made more⟩

/-- A pool that has been opened. -/
theorem new_ok {workers : Nat} {cache : Cache} {schedule : Schedule} {before after : Trace}
    {pool : Pool} (opened : new binding workers cache schedule before = (.ok pool, after)) :
    ∃ sessions, openSessions binding (max workers 1) before = (sessions, none, after) ∧
      pool = ⟨sessions.map (⟨·, false⟩), cache, (sessions.head?.map (·.info)).getD default,
        binding.function, schedule⟩ := by
  unfold new at opened
  cases found : openSessions binding (max workers 1) before with
  | mk sessions rest =>
    obtain ⟨failed, trace⟩ := rest
    rw [found] at opened
    cases failed with
    | some e => cases opened
    | none =>
      cases opened
      exact ⟨sessions, rfl, rfl⟩

/-- A pool of healthy sessions that have counted nothing is a new memo with its cache. -/
theorem shows_of_sessions {sessions : List Session} (staffed : sessions ≠ [])
    (healthy : ∀ session ∈ sessions, session.Healthy binding info ∧ session.evaluations = 0)
    (cache : Cache) (schedule : Schedule) :
    Shows binding info ⟨sessions.map (⟨·, false⟩), cache,
      (sessions.head?.map (·.info)).getD default, binding.function, schedule⟩ ⟨cache, 0⟩ where
  staffed := mt List.map_eq_nil_iff.1 staffed
  healthy := List.forall_mem_map.2 fun session mem => ⟨rfl, (healthy session mem).1⟩
  info_eq := by
    cases sessions with
    | nil => exact absurd rfl staffed
    | cons session others => exact (healthy session List.mem_cons_self).1.info_eq
  function_eq := rfl
  cache := rfl
  calls := by
    rw [List.sum_eq_zero_iff_forall_eq_nat, List.map_map, List.forall_mem_map]
    exact fun session mem => (healthy session mem).2

/-- A new pool is a new memo with its cache. -/
theorem shows_new (rowWise : binding.table.RowWise info F) {workers : Nat} {cache : Cache}
    {schedule : Schedule} {before after : Trace} {pool : Pool}
    (opened : new binding workers cache schedule before = (.ok pool, after)) :
    Shows binding info pool ⟨cache, 0⟩ := by
  obtain ⟨sessions, found, rfl⟩ := new_ok opened
  obtain ⟨length, healthy, -⟩ := openSessions_ok (R := fun _ _ => True)
    (fun first => ⟨Session.healthy_new rowWise first, trivial⟩) (fun _ => trivial)
    (fun _ _ => trivial) found
  refine shows_of_sessions ?_ healthy cache schedule
  rw [← List.length_pos_iff, length]
  omega

end Pool

/-! ## Simulation -/

/-- **Pools answer what evaluators answer.** For a function that works row by row, a pool of any
number of workers, on whatever schedule, and an evaluator, opened on copies of a cache, give the same
reply to every request, and after each of them have the same cache and the same number of calls. -/
theorem pool_simulates_evaluator {binding : Binding} {info : FunctionInfo}
    {F : Point → Except Failure Point} (rowWise : binding.table.RowWise info F) (workers : Nat)
    (cache : Cache) (schedule : Schedule) {before before' after after' : Trace} {pool : Pool}
    {evaluator : Evaluator}
    (opened : Pool.new binding workers cache schedule before = (.ok pool, after))
    (opened' : Evaluator.new binding cache before' = (.ok evaluator, after'))
    (requests : List Request) :
    Pool.server.observations (pool, after) requests =
      Evaluator.server.observations (evaluator, after') requests := by
  calc Pool.server.observations (pool, after) requests
      = (Memo.server binding info F).observations ⟨cache, 0⟩ requests :=
        (Pool.refines_memo rowWise).observations_eq (Pool.shows_new rowWise opened) requests
    _ = Evaluator.server.observations (evaluator, after') requests :=
        ((Evaluator.refines_memo rowWise).observations_eq
          (Evaluator.shows_new rowWise opened') requests).symm

/-- The simulation at work: two workers and an evaluator of that function, on a cache of two
entries. -/
theorem pool_simulates_evaluator_choosy :
    ∃ pool evaluator after after',
      Pool.new choosyBinding 2 (Cache.new 2) .inOrder [] = (.ok pool, after) ∧
      Evaluator.new choosyBinding (Cache.new 2) [] = (.ok evaluator, after') ∧
      pool.workers.length = 2 ∧
      ∀ requests, Pool.server.observations (pool, after) requests =
        Evaluator.server.observations (evaluator, after') requests := by
  have rowWise : choosyBinding.table.RowWise _ Foreign.Script.choosy.rowOf :=
    Foreign.Script.rowWise_table Foreign.Script.steady_choosy (.inProcess 1)
  refine ⟨_, _, _, _, rfl, rfl, rfl, fun requests => ?_⟩
  exact pool_simulates_evaluator rowWise 2 (Cache.new 2) .inOrder rfl rfl requests

end ForeignEval

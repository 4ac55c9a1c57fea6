import ForeignEval.Pool
import ForeignEval.Proofs.Sample.Pieces
import Mathlib.Algebra.GroupWithZero.Nat
import Mathlib.Data.List.Forall2

/-!
# Who evaluates what in a pool

A point is for the first worker that is not poisoned. The unknown rows of a batch are cut into
chunks, each of which becomes the job of a worker. In which order jobs are evaluated, and which are
given up once foreign code has unwound, is up to the schedule, and what each of them sees of the
trace depends on those before it; what holds of every job by itself holds of all of them.

* **Points** — `Pool.evaluate_of_first`, `Pool.evaluate_of_poisoned`.
* **Chunks** — `Pool.length_chunks_le`: there is one for each worker at most.
* **Turns** — `Pool.Advances`: some of the jobs have been evaluated, in any order;
  `Pool.evaluateJobs_eq`: that is what a schedule comes to, and jobs are given up only for one that
  has unwound.
* **Outcomes** — `Pool.forall₂_evaluateJobs`: outcomes belong to the jobs, one by one.
-/

namespace ForeignEval

open Foreign (Trace)

namespace Pool

/-! ## Chunks -/

/-- How many rows a chunk has at most, less one. -/
def chunkSize (rows workers : Nat) : Nat := chunkRows rows workers - 1

theorem chunkSize_add_one (rows workers : Nat) :
    chunkSize rows workers + 1 = chunkRows rows workers :=
  Nat.sub_add_cancel (Nat.le_max_right _ 1)

theorem length_chunks_le (s : Sample) {workers : Nat} (positive : 0 < workers) :
    (s.chunks (chunkSize s.size workers)).length ≤ workers := by
  rw [← List.length_map Sample.rows, s.rows_chunks]
  refine length_chunksOf_le ?_
  have enough := le_mul_ceilDiv s.size positive
  have rounded : ceilDiv s.size workers ≤ chunkSize s.size workers + 1 := by
    rw [chunkSize_add_one]
    exact Nat.le_max_left _ 1
  exact Nat.le_trans enough (Nat.mul_le_mul_left workers rounded)

/-! ## Points -/

/-- No worker that could take a point is left. -/
theorem evaluate_of_poisoned {pool : Pool}
    (all : ∀ worker ∈ pool.workers, worker.poisoned = true) (point : Point) (trace : Trace) :
    pool.evaluate point trace = (.error (poisonedWorker pool.function), pool, trace) := by
  have nobody : pool.workers.findIdx? (! ·.poisoned) = none :=
    List.findIdx?_eq_none_iff.2 fun worker mem => by rw [all worker mem, Bool.not_true]
  unfold Pool.evaluate
  rw [nobody]

/-- A point goes to the first worker that is not poisoned. -/
theorem evaluate_of_first {pool : Pool} {before others : List Worker} {worker : Worker}
    (staff : pool.workers = before ++ worker :: others)
    (poisoned : ∀ other ∈ before, other.poisoned = true) (sane : worker.poisoned = false)
    (point : Point) (trace : Trace) :
    pool.evaluate point trace =
      ((Evaluator.evaluate ⟨worker.session, pool.cache⟩ point trace).1,
        { pool with
          workers := before ++ Worker.after
            (Evaluator.evaluate ⟨worker.session, pool.cache⟩ point trace).2.1.session
            (Evaluator.evaluate ⟨worker.session, pool.cache⟩ point trace).1 :: others
          cache := (Evaluator.evaluate ⟨worker.session, pool.cache⟩ point trace).2.1.cache },
        (Evaluator.evaluate ⟨worker.session, pool.cache⟩ point trace).2.2) := by
  have index : pool.workers.findIdx? (! ·.poisoned) = some before.length := by
    have nobody : before.findIdx? (! ·.poisoned) = none :=
      List.findIdx?_eq_none_iff.2 fun other mem => by rw [poisoned other mem, Bool.not_true]
    rw [staff, List.findIdx?_append, nobody, List.findIdx?_cons, sane]
    simp
  have found : pool.workers[before.length]? = some worker := by
    rw [staff]
    simp
  unfold Pool.evaluate
  rw [index]
  simp only [found]
  rw [staff, List.set_append_right _ _ (Nat.le_refl _), Nat.sub_self, List.set_cons_zero]

/-- There is a first worker that is not poisoned, or all are. -/
theorem poisoned_or_first (workers : List Worker) :
    (∀ worker ∈ workers, worker.poisoned = true) ∨
      ∃ before worker others, workers = before ++ worker :: others ∧
        (∀ other ∈ before, other.poisoned = true) ∧ worker.poisoned = false := by
  cases chosen : workers.find? (! ·.poisoned) with
  | none => exact .inl (by simpa using List.find?_eq_none.1 chosen)
  | some worker =>
    obtain ⟨sane, before, others, staff, poisoned⟩ := List.find?_eq_some_iff_append.1 chosen
    exact .inr ⟨before, worker, others, staff, by simpa using poisoned, by simpa using sane⟩

/-- Points go to the first worker that is not poisoned, and to nobody if there is none. -/
theorem evaluate_cases (pool : Pool) :
    ((∀ worker ∈ pool.workers, worker.poisoned = true) ∧ ∀ point trace,
      pool.evaluate point trace = (.error (poisonedWorker pool.function), pool, trace)) ∨
    ∃ before worker others, pool.workers = before ++ worker :: others ∧
      (∀ other ∈ before, other.poisoned = true) ∧ worker.poisoned = false ∧ ∀ point trace,
      pool.evaluate point trace =
        ((Evaluator.evaluate ⟨worker.session, pool.cache⟩ point trace).1,
          { pool with
            workers := before ++ Worker.after
              (Evaluator.evaluate ⟨worker.session, pool.cache⟩ point trace).2.1.session
              (Evaluator.evaluate ⟨worker.session, pool.cache⟩ point trace).1 :: others
            cache := (Evaluator.evaluate ⟨worker.session, pool.cache⟩ point trace).2.1.cache },
          (Evaluator.evaluate ⟨worker.session, pool.cache⟩ point trace).2.2) := by
  rcases poisoned_or_first pool.workers with
    all | ⟨before, worker, others, staff, poisoned, sane⟩
  · exact .inl ⟨all, evaluate_of_poisoned all⟩
  · exact .inr ⟨before, worker, others, staff, poisoned, sane,
      evaluate_of_first staff poisoned sane⟩

/-! ## Turns -/

variable {function : String} {slots last : List Slot} {trace later : Trace}

/-- Chunks before and after some of those that wait have been evaluated, one after the other and in
any order. -/
inductive Advances (function : String) : List Slot → Trace → List Slot → Trace → Prop
  | refl (slots : List Slot) (trace : Trace) : Advances function slots trace slots trace
  | turn {before after last : List Slot} {job : Job} {trace later : Trace}
      (rest : Advances function (before ++ .done (job.evaluate function trace).1 :: after)
        (job.evaluate function trace).2 last later) :
      Advances function (before ++ .waiting job :: after) trace last later

/-- A turn leaves all chunks but its own as they are. -/
theorem mem_of_turn {before after : List Slot} {slot old new : Slot}
    (mem : slot ∈ before ++ old :: after) (other : slot ≠ old) : slot ∈ before ++ new :: after := by
  rcases List.mem_append.1 mem with front | back
  · exact List.mem_append_left _ front
  · exact List.mem_append_right before (List.mem_cons_of_mem new (List.mem_of_ne_of_mem other back))

/-- A chunk that has been evaluated stays as it is. -/
theorem Advances.mem_done {outcome : Outcome} (advances : Advances function slots trace last later)
    (mem : .done outcome ∈ slots) : .done outcome ∈ last := by
  induction advances with
  | refl => exact mem
  | turn rest ih => exact ih (mem_of_turn mem nofun)

theorem Slot.eq_waiting_of_standing {slot : Slot} (waits : slot.standing = .waiting) :
    ∃ job, slot = .waiting job := by
  cases slot with
  | waiting job => exact ⟨job, rfl⟩
  | done outcome =>
    simp only [standing] at waits
    split at waits <;> cases waits

theorem Slot.panic?_of_standing {slot : Slot} (unwound : slot.standing = .unwound) :
    slot.panic?.isSome = true := by
  cases slot with
  | waiting job => cases unwound
  | done outcome =>
    simp only [standing, ite_eq_left_iff, reduceCtorEq, imp_false, not_not] at unwound
    exact unwound

theorem Slot.eq_done_of_panic? {slot : Slot} {text : String} (unwound : slot.panic? = some text) :
    ∃ outcome, slot = .done outcome ∧ outcome.reply = .panic text := by
  cases slot with
  | waiting job => cases unwound
  | done outcome =>
    obtain ⟨worker, reply⟩ := outcome
    cases reply with
    | ok | error => cases unwound
    | panic text =>
      cases unwound
      exact ⟨_, rfl, rfl⟩

/-- The chunk in a place that a schedule may choose waits. -/
theorem exists_waiting {place : Nat}
    (found : (slots.map Slot.standing)[place]? = some .waiting) :
    ∃ job, slots[place]? = some (.waiting job) := by
  rw [List.getElem?_map, Option.map_eq_some_iff] at found
  obtain ⟨slot, there, waits⟩ := found
  obtain ⟨job, rfl⟩ := Slot.eq_waiting_of_standing waits
  exact ⟨job, there⟩

/-- One turn evaluates the chunk in its place. -/
theorem evaluateAt_of_waiting {place : Nat} {job : Job}
    (found : slots[place]? = some (.waiting job)) (function : String) (trace : Trace) :
    ∃ before after, slots = before ++ .waiting job :: after ∧
      evaluateAt function slots place trace =
        (before ++ .done (job.evaluate function trace).1 :: after,
          (job.evaluate function trace).2) := by
  obtain ⟨bound, there⟩ := List.getElem?_eq_some_iff.1 found
  refine ⟨slots.take place, slots.drop (place + 1), ?_, ?_⟩
  · rw [← there, List.getElem_cons_drop, List.take_append_drop]
  · unfold evaluateAt
    rw [found]
    dsimp only
    rw [List.set_eq_take_append_cons_drop, if_pos bound]

/-- How many chunks wait. -/
def waitingIn (slots : List Slot) : Nat := (slots.map Slot.standing).count .waiting

theorem waitingIn_middle (before after : List Slot) (slot : Slot) :
    waitingIn (before ++ slot :: after) = waitingIn (slot :: (before ++ after)) :=
  (List.perm_middle.map Slot.standing).count_eq .waiting

theorem waitingIn_waiting (job : Job) (slots : List Slot) :
    waitingIn (.waiting job :: slots) = waitingIn slots + 1 :=
  List.count_cons_self

theorem waitingIn_done (outcome : Outcome) (slots : List Slot) :
    waitingIn (.done outcome :: slots) = waitingIn slots := by
  refine List.count_cons_of_ne fun waits => ?_
  obtain ⟨job, same⟩ := Slot.eq_waiting_of_standing waits
  cases same

theorem waitingIn_map_waiting (jobs : List Job) : waitingIn (jobs.map .waiting) = jobs.length := by
  induction jobs with
  | nil => rfl
  | cons job jobs ih => rw [List.map_cons, waitingIn_waiting, ih, List.length_cons]

/-- Turns evaluate chunks that wait; when there have been enough of them and a chunk still waits,
foreign code has unwound in another one. -/
theorem advances_evaluateTurns (schedule : Schedule) (function : String) (turns : Nat)
    (slots : List Slot) (trace : Trace) :
    Advances function slots trace (evaluateTurns schedule function turns slots trace).1
        (evaluateTurns schedule function turns slots trace).2 ∧
      (waitingIn slots ≤ turns →
        .waiting ∈ (evaluateTurns schedule function turns slots trace).1.map Slot.standing →
        .unwound ∈ (evaluateTurns schedule function turns slots trace).1.map Slot.standing) := by
  induction turns generalizing slots trace with
  | zero =>
    refine ⟨.refl slots trace, fun none waits => ?_⟩
    exact absurd waits (List.count_eq_zero.1 (Nat.le_zero.1 none))
  | succ turns ih =>
    unfold evaluateTurns
    cases next : schedule.next trace (slots.map Slot.standing) with
    | none => exact ⟨.refl slots trace, fun _ waits => schedule.givesUp next waits⟩
    | some place =>
      obtain ⟨job, found⟩ := exists_waiting (schedule.waits next)
      obtain ⟨before, after, rfl, evaluated⟩ := evaluateAt_of_waiting found function trace
      obtain ⟨advances, ends⟩ := ih (before ++ .done (job.evaluate function trace).1 :: after)
        (job.evaluate function trace).2
      dsimp only
      rw [evaluated]
      refine ⟨.turn advances, fun enough => ends ?_⟩
      rw [waitingIn_middle, waitingIn_waiting] at enough
      rw [waitingIn_middle, waitingIn_done]
      omega

/-- What comes of jobs by a schedule: some have been evaluated, and if the others are given up, it
is for one of them that has unwound. -/
theorem evaluateJobs_eq (schedule : Schedule) (function : String) (jobs : List Job)
    (trace : Trace) :
    ∃ slots later text, Advances function (jobs.map .waiting) trace slots later ∧
      (∀ job, .waiting job ∈ slots →
        ∃ outcome, .done outcome ∈ slots ∧ outcome.reply = .panic text) ∧
      evaluateJobs schedule function jobs trace = (slots.map (Slot.outcome text), later) := by
  obtain ⟨advances, ends⟩ :=
    advances_evaluateTurns schedule function jobs.length (jobs.map .waiting) trace
  refine ⟨_, _, _, advances, fun job waits => ?_, rfl⟩
  have unwound := ends (Nat.le_of_eq (waitingIn_map_waiting jobs)) (List.mem_map.2 ⟨_, waits, rfl⟩)
  generalize (evaluateTurns _ _ _ _ _).1 = slots at unwound ⊢
  -- the text is that of the first one that has unwound
  have some : (slots.findSome? Slot.panic?).isSome = true := by
    obtain ⟨slot, mem, standing⟩ := List.mem_map.1 unwound
    exact List.findSome?_isSome_iff.2 ⟨slot, mem, Slot.panic?_of_standing standing⟩
  obtain ⟨text, first⟩ := Option.isSome_iff_exists.1 some
  obtain ⟨slot, mem, panic⟩ := List.exists_of_findSome?_eq_some first
  obtain ⟨outcome, rfl, reply⟩ := Slot.eq_done_of_panic? panic
  rw [first]
  exact ⟨outcome, mem, reply⟩

theorem workers_waiting (jobs : List Job) :
    (jobs.map Slot.waiting).map Slot.worker = jobs.map (·.worker) :=
  List.map_map

/-- Nobody else gets a chunk that is given up. -/
theorem workers_outcome (text : String) (slots : List Slot) :
    (slots.map (Slot.outcome text)).map (·.worker) = slots.map Slot.worker := by
  rw [List.map_map]
  refine List.map_congr_left fun slot _ => ?_
  cases slot with
  | waiting | done => rfl

/-! ## Outcomes of jobs -/

/-- What has been paired off with jobs belongs to one of them. -/
theorem exists_job {α : Type} {R : Job → α → Prop} {jobs : List Job} {results : List α}
    (paired : List.Forall₂ R jobs results) {result : α} (mem : result ∈ results) :
    ∃ job ∈ jobs, R job result := by
  induction paired with
  | nil => cases mem
  | cons first others ih =>
    rcases List.mem_cons.1 mem with rfl | later
    · exact ⟨_, List.mem_cons_self, first⟩
    · obtain ⟨job, there, belongs⟩ := ih later
      exact ⟨job, List.mem_cons_of_mem _ there, belongs⟩

variable {R : Job → Outcome → Prop}

/-- A chunk waits for its job to be evaluated, or has an outcome that belongs to the job. -/
inductive Slot.Holds (R : Job → Outcome → Prop) (job : Job) : Slot → Prop
  | waiting : Holds R job (.waiting job)
  | done {outcome : Outcome} (belongs : R job outcome) : Holds R job (.done outcome)

theorem forall₂_waiting (jobs : List Job) :
    List.Forall₂ (Slot.Holds R) jobs (jobs.map .waiting) := by
  rw [List.forall₂_map_right_iff, List.forall₂_same]
  exact fun _ _ => .waiting

/-- If the outcome of a chunk belongs to its job, so do all that did before. -/
theorem forall₂_done {jobs : List Job} {before after : List Slot} {job : Job} {outcome : Outcome}
    (held : List.Forall₂ (Slot.Holds R) jobs (before ++ .waiting job :: after))
    (belongs : job ∈ jobs → R job outcome) :
    List.Forall₂ (Slot.Holds R) jobs (before ++ .done outcome :: after) := by
  induction before generalizing jobs with
  | nil =>
    cases held with
    | cons here back =>
      cases here
      exact .cons (.done (belongs List.mem_cons_self)) back
  | cons slot before ih =>
    cases held with
    | cons first rest =>
      exact .cons first (ih rest fun mem => belongs (List.mem_cons_of_mem _ mem))

theorem exists_of_done {jobs : List Job} {outcome : Outcome}
    (held : List.Forall₂ (Slot.Holds R) jobs slots) (mem : .done outcome ∈ slots) :
    ∃ job ∈ jobs, R job outcome := by
  obtain ⟨job, there, holds⟩ := exists_job held mem
  cases holds with
  | done belongs => exact ⟨job, there, belongs⟩

/-- All outcomes belong to their jobs, if those do that are given up. -/
theorem forall₂_outcome {jobs : List Job} {text : String}
    (held : List.Forall₂ (Slot.Holds R) jobs slots)
    (givenUp : ∀ job ∈ jobs, .waiting job ∈ slots → R job ⟨job.worker, .panic text⟩) :
    List.Forall₂ R jobs (slots.map (Slot.outcome text)) := by
  induction held with
  | nil => exact .nil
  | cons first _ ih =>
    obtain ⟨here, others⟩ := List.forall_mem_cons.1 givenUp
    refine .cons ?_ (ih fun job mem waits => others job mem (List.mem_cons_of_mem _ waits))
    cases first with
    | waiting => exact here List.mem_cons_self
    | done belongs => exact belongs

/-- Jobs of which one unwinds are given up; all others are evaluated. -/
structure Settles (function : String) (R : Job → Outcome → Prop) (jobs : List Job) : Prop where
  /-- What holds of a job and its outcome. -/
  evaluated : ∀ job ∈ jobs, ∀ trace, R job (job.evaluate function trace).1
  /-- What holds of the jobs when one of them unwinds. -/
  givenUp : ∀ job ∈ jobs, ∀ trace text, (job.evaluate function trace).1.reply = .panic text →
    ∀ other ∈ jobs, R other ⟨other.worker, .panic text⟩

/-- What holds of jobs and their outcomes by themselves holds of them after any turns. -/
theorem Advances.forall₂_holds {jobs : List Job}
    (advances : Advances function slots trace last later)
    (held : List.Forall₂ (Slot.Holds R) jobs slots)
    (evaluated : ∀ job ∈ jobs, ∀ trace, R job (job.evaluate function trace).1) :
    List.Forall₂ (Slot.Holds R) jobs last := by
  induction advances with
  | refl => exact held
  | turn rest ih => exact ih (forall₂_done held fun mem => evaluated _ mem _)

/-- Each outcome belongs to the job in its place, whatever the schedule. -/
theorem forall₂_evaluateJobs {jobs : List Job} (settles : Settles function R jobs)
    (schedule : Schedule) (trace : Trace) :
    List.Forall₂ R jobs (evaluateJobs schedule function jobs trace).1 := by
  obtain ⟨slots, later, text, advances, ends, same⟩ :=
    evaluateJobs_eq schedule function jobs trace
  have belong := advances.forall₂_holds (forall₂_waiting jobs) settles.evaluated
  rw [same]
  refine forall₂_outcome belong fun job mem waits => ?_
  -- what has unwound is one of the jobs
  obtain ⟨outcome, there, unwound⟩ := ends job waits
  have evaluations : List.Forall₂ (Slot.Holds fun other outcome =>
      ∃ trace, outcome = (other.evaluate function trace).1) jobs slots :=
    advances.forall₂_holds (forall₂_waiting jobs) fun _ _ trace => ⟨trace, rfl⟩
  obtain ⟨other, mem', trace', rfl⟩ := exists_of_done evaluations there
  exact settles.givenUp other mem' trace' text unwound job mem

/-! ## Jobs of a pool -/

/-- Each worker with the chunk in its place. -/
def jobsOf (workers : List Worker) (chunks : List Sample) : List Job :=
  workers.zipWith Job.mk chunks

theorem mem_of_mem_jobsOf {workers : List Worker} {chunks : List Sample} {job : Job}
    (mem : job ∈ jobsOf workers chunks) : job.worker ∈ workers ∧ job.chunk ∈ chunks := by
  unfold jobsOf at mem
  rw [← List.map_uncurry_zip_eq_zipWith] at mem
  obtain ⟨⟨worker, chunk⟩, pair, rfl⟩ := List.mem_map.1 mem
  exact List.of_mem_zip pair

/-- With a worker for each chunk, no chunk is left out. -/
theorem chunks_jobsOf {workers : List Worker} {chunks : List Sample}
    (enough : chunks.length ≤ workers.length) :
    (jobsOf workers chunks).map (·.chunk) = chunks := by
  unfold jobsOf
  rw [← List.map_uncurry_zip_eq_zipWith, List.map_map]
  exact List.map_snd_zip enough

/-- The workers of the jobs and those without a chunk are all workers. -/
theorem workers_jobsOf (workers : List Worker) (chunks : List Sample) :
    (jobsOf workers chunks).map (·.worker) ++ workers.drop chunks.length = workers := by
  induction chunks generalizing workers with
  | nil =>
    unfold jobsOf
    rw [List.zipWith_nil_right]
    rfl
  | cons chunk chunks ih =>
    cases workers with
    | nil => rfl
    | cons worker workers => exact congrArg (worker :: ·) (ih workers)

/-- With a worker for each chunk, each chunk is for the worker in its place. -/
theorem workers_take_jobsOf {workers : List Worker} {chunks : List Sample}
    (enough : chunks.length ≤ workers.length) :
    (jobsOf workers chunks).map (·.worker) = workers.take chunks.length := by
  have length := congrArg List.length (chunks_jobsOf enough)
  rw [List.length_map] at length
  refine List.append_inj_left ((workers_jobsOf workers chunks).trans
    (List.take_append_drop chunks.length workers).symm) ?_
  rw [List.length_map, length, List.length_take, Nat.min_eq_left enough]

theorem workers_evaluateChunks (pool : Pool) (chunks : List Sample) (trace : Trace) :
    (pool.evaluateChunks chunks trace).2.1.workers =
      (pool.evaluateChunks chunks trace).1.map (·.worker) ++ pool.workers.drop chunks.length := rfl

/-- The chunks of a sample have its rows, in total. -/
theorem sum_size_jobsOf {workers : List Worker} {s : Sample} {size : Nat}
    (enough : (s.chunks size).length ≤ workers.length) :
    ((jobsOf workers (s.chunks size)).map (·.chunk.size)).sum = s.size :=
  calc ((jobsOf workers (s.chunks size)).map (·.chunk.size)).sum
      = (((jobsOf workers (s.chunks size)).map (·.chunk)).map Sample.size).sum := by
        rw [List.map_map]
        rfl
    _ = (((s.chunks size).map (·.rows)).map List.length).sum := by
        rw [chunks_jobsOf enough, List.map_map]
        rfl
    _ = s.size := by
        rw [← List.length_flatten, s.flatten_chunks]
        rfl

/-- What holds of all workers and of those of all outcomes holds of all workers afterwards. -/
theorem forall_workers_evaluateChunks {pool : Pool} {chunks : List Sample} {trace : Trace}
    {P : Worker → Prop} (before : ∀ worker ∈ pool.workers, P worker)
    (ended : ∀ outcome ∈ (pool.evaluateChunks chunks trace).1, P outcome.worker) :
    ∀ worker ∈ (pool.evaluateChunks chunks trace).2.1.workers, P worker := by
  intro worker mem
  rcases List.mem_append.1 mem with evaluated | idle
  · obtain ⟨outcome, there, rfl⟩ := List.mem_map.1 evaluated
    exact ended outcome there
  · exact before worker (List.mem_of_mem_drop idle)

/-! ## Batches -/

/-- The chunks into which a pool cuts unknown rows. -/
def chunksFor (pool : Pool) (unknown : Sample) : List Sample :=
  unknown.chunks (chunkSize unknown.size pool.workers.length)

/-- What a pool makes of the rows of a batch that its cache does not have; the lookups have been
counted. -/
def evaluateUnknown (pool : Pool) (batch : Sample) (trace : Trace) :
    List Outcome × Pool × Trace :=
  { pool with cache := (Plan.make batch pool.cache).2 }.evaluateChunks
    (pool.chunksFor (Plan.make batch pool.cache).1.unknown) trace

/-- The answer of a pool to a batch and the pool afterwards, given what the chunks came to. -/
def settled (pool : Pool) (plan : Plan) : Reply Cache → Reply Sample × Pool
  | .ok fresh =>
    (.ofExcept (plan.assemble pool.function pool.info fresh pool.cache).1,
      { pool with cache := (plan.assemble pool.function pool.info fresh pool.cache).2 })
  | .error e => (.error e, pool)
  | .panic text => (.panic text, pool)

/-- A pool has the unknown rows evaluated in chunks and settles what they come to. -/
theorem evaluateBatch_eq {pool : Pool} {batch : Sample}
    (declared : batch.dimension = pool.info.inputDimension) (trace : Trace) :
    pool.evaluateBatch batch trace =
      (((pool.evaluateUnknown batch trace).2.1.settled (Plan.make batch pool.cache).1
          (collect (Plan.make batch pool.cache).1.unknown
            (pool.chunksFor (Plan.make batch pool.cache).1.unknown)
            (pool.evaluateUnknown batch trace).1)).1,
        ((pool.evaluateUnknown batch trace).2.1.settled (Plan.make batch pool.cache).1
          (collect (Plan.make batch pool.cache).1.unknown
            (pool.chunksFor (Plan.make batch pool.cache).1.unknown)
            (pool.evaluateUnknown batch trace).1)).2,
        (pool.evaluateUnknown batch trace).2.2) := by
  have checked : Session.checkBatchOf pool.function pool.info batch = none := if_pos declared
  unfold evaluateBatch evaluateUnknown chunksFor
  rw [checked, ← Sample.pieces_eq, chunkSize_add_one]
  dsimp only
  generalize collect _ _ _ = collected
  cases collected with
  | ok | error | panic => rfl

theorem evaluateBatch_of_wrong {pool : Pool} {batch : Sample}
    (wrong : batch.dimension ≠ pool.info.inputDimension) (trace : Trace) :
    pool.evaluateBatch batch trace =
      (.error (Session.mismatch pool.function pool.info batch.dimension
        ((batch.row? 0).getD [])), pool, trace) := by
  have checked : Session.checkBatchOf pool.function pool.info batch =
      some (Session.mismatch pool.function pool.info batch.dimension
        ((batch.row? 0).getD [])) := if_neg wrong
  unfold evaluateBatch
  rw [checked]

end Pool

end ForeignEval

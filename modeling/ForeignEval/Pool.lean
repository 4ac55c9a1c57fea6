import ForeignEval.Evaluator
import ForeignEval.Machine

/-!
# Pools of workers

A pool evaluates with several sessions on one function and one cache. The unknown rows of a batch
are cut into as many chunks as there are workers, at most, and each chunk is evaluated by a worker
of its own. All chunks are evaluated even if one fails; the first error in their order is the
answer.

A worker in which foreign code unwound is poisoned: it is never asked to evaluate again, but it is
closed like the others. The other chunks are then evaluated or given up, as the schedule of the
machine has it; in any case the batch unwinds.

* **Opening** — `Pool.new` opens the sessions in order and shuts them down again if one fails.
* **Points** — `Pool.evaluate` uses the first worker that is not poisoned.
* **Chunks** — `Pool.evaluateJobs` has a schedule take them up one after the other.
* **Batches** — `Pool.evaluateBatch` follows a plan.
* **Closing** — `Pool.close` closes every worker and answers the first error.
-/

namespace ForeignEval

open Foreign (Trace)

/-- A session of a pool. -/
structure Worker where
  session : Session
  /-- Whether foreign code unwound in the worker. -/
  poisoned : Bool

/-- A worker after an operation: an operation that unwinds poisons it. -/
def Worker.after {α : Type} (session : Session) : Reply α → Worker
  | .panic _ => ⟨session, true⟩
  | _ => ⟨session, false⟩

/-- Several sessions on one function that share a cache. -/
structure Pool where
  /-- The workers, in the order in which they were opened. -/
  workers : List Worker
  cache : Cache
  /-- What the function declared to the first worker. -/
  info : FunctionInfo
  /-- The name of the function. -/
  function : String
  /-- How chunks are shared out. -/
  schedule : Schedule

namespace Pool

/-! ## Opening and closing -/

/-- Opens so many sessions, in order, or stops at the first that fails; the sessions opened before
come with the error. -/
def openSessions (binding : Binding) : (count : Nat) → Trace →
    List Session × Option Error × Trace
  | 0, trace => ([], none, trace)
  | count + 1, trace =>
    match Session.new binding trace with
    | (.error e, trace) => ([], some e, trace)
    | (.ok session, trace) =>
      let (sessions, e, trace) := openSessions binding count trace
      (session :: sessions, e, trace)

/-- Closes sessions in order; the first error counts. -/
def closeSessions : List Session → Trace → Except Error Unit × Trace
  | [], trace => (.ok (), trace)
  | session :: sessions, trace =>
    let (closed, trace) := session.close trace
    let (others, trace) := closeSessions sessions trace
    (closed.bind fun _ => others, trace)

/-- Opens a pool of so many workers, one at least, that uses a cache. -/
def new (binding : Binding) (workers : Nat) (cache : Cache) (schedule : Schedule) (trace : Trace) :
    Except Error Pool × Trace :=
  match openSessions binding (max workers 1) trace with
  | (sessions, some e, trace) => (.error e, (closeSessions sessions trace).2)
  | (sessions, none, trace) =>
    let info := (sessions.head?.map (·.info)).getD default
    (.ok ⟨sessions.map (⟨·, false⟩), cache, info, binding.function, schedule⟩, trace)

/-- Closes every worker. -/
def close (pool : Pool) (trace : Trace) : Except Error Unit × Trace :=
  closeSessions (pool.workers.map (·.session)) trace

/-! ## Workers -/

/-- The error for a worker that is poisoned. -/
def poisonedWorker (function : String) : Error :=
  .internal function ("worker session lock poisoned (thread panicked): " ++
    "poisoned lock: another task failed inside")

/-- The sum of the workers' evaluations; a poisoned worker cannot tell. -/
def callsOf (function : String) : List Worker → Except Error Nat
  | [] => .ok 0
  | worker :: workers =>
    if worker.poisoned then .error (poisonedWorker function)
    else (callsOf function workers).map (worker.session.evaluations + ·)

/-- How many points have been handed to the foreign code. -/
def calls (pool : Pool) : Except Error Nat := callsOf pool.function pool.workers

/-! ## Points -/

/-- Evaluates a point with the first worker that is not poisoned. -/
def evaluate (pool : Pool) (point : Point) (trace : Trace) : Reply Point × Pool × Trace :=
  match pool.workers.findIdx? (! ·.poisoned) with
  | none => (.error (poisonedWorker pool.function), pool, trace)
  | some index =>
    match pool.workers[index]? with
    -- cannot be: the index was found
    | none => (.error (poisonedWorker pool.function), pool, trace)
    | some worker =>
      let (reply, evaluator, trace) := Evaluator.evaluate ⟨worker.session, pool.cache⟩ point trace
      (reply,
        { pool with
          workers := pool.workers.set index (Worker.after evaluator.session reply)
          cache := evaluator.cache },
        trace)

/-! ## Batches -/

/-- How many rows a chunk has at most when so many rows are spread over so many workers. -/
def chunkRows (rows workers : Nat) : Nat := max (ceilDiv rows workers) 1

/-- A worker and the chunk that it is to evaluate. -/
structure Job where
  worker : Worker
  chunk : Sample

/-- A worker and how the evaluation of its chunk ended. -/
structure Outcome where
  /-- The worker afterwards. -/
  worker : Worker
  /-- The end of the evaluation; one that was given up ends like the one for which it was. -/
  reply : Reply Sample

/-- The text with which the first of some evaluations unwound. -/
def firstPanic (outcomes : List Outcome) : Option String :=
  outcomes.findSome? (·.reply.panic?)

/-- Has a chunk evaluated by its worker, unless that is poisoned. -/
def Job.evaluate (function : String) (job : Job) (trace : Trace) : Outcome × Trace :=
  if job.worker.poisoned then (⟨job.worker, .error (poisonedWorker function)⟩, trace)
  else
    let (reply, session, trace) := job.worker.session.evaluateBatch job.chunk trace
    (⟨Worker.after session reply, reply⟩, trace)

/-- A chunk of a batch: its job waits to be evaluated, or has been. -/
inductive Slot where
  | waiting (job : Job)
  | done (outcome : Outcome)

namespace Slot

/-- The worker of a chunk. -/
def worker : Slot → Worker
  | waiting job => job.worker
  | done outcome => outcome.worker

/-- The text with which foreign code unwound in a chunk. -/
def panic? : Slot → Option String
  | waiting _ => none
  | done outcome => outcome.reply.panic?

/-- How far a chunk has come. -/
def standing : Slot → Standing
  | waiting _ => .waiting
  | done outcome => if outcome.reply.panic?.isSome then .unwound else .ended

/-- The outcome for a chunk, which if it waits in vain is to end by unwinding with a text. -/
def outcome (text : String) : Slot → Outcome
  | waiting job => ⟨job.worker, .panic text⟩
  | done outcome => outcome

end Slot

/-- Has the job in a place evaluated. -/
def evaluateAt (function : String) (slots : List Slot) (place : Nat) (trace : Trace) :
    List Slot × Trace :=
  match slots[place]? with
  | some (.waiting job) =>
    let (outcome, trace) := job.evaluate function trace
    (slots.set place (.done outcome), trace)
  -- cannot be: only jobs that wait are taken up
  | _ => (slots, trace)

/-- Has the jobs evaluated that a schedule takes up in so many turns. -/
def evaluateTurns (schedule : Schedule) (function : String) :
    (turns : Nat) → List Slot → Trace → List Slot × Trace
  | 0, slots, trace => (slots, trace)
  | turns + 1, slots, trace =>
    match schedule.next trace (slots.map Slot.standing) with
    | none => (slots, trace)
    | some place =>
      let (slots, trace) := evaluateAt function slots place trace
      evaluateTurns schedule function turns slots trace

/-- Evaluates chunks as a schedule takes them up, each once. The ones that it gives up end like the
first of those in which foreign code has unwound. -/
def evaluateJobs (schedule : Schedule) (function : String) (jobs : List Job) (trace : Trace) :
    List Outcome × Trace :=
  let (slots, trace) := evaluateTurns schedule function jobs.length (jobs.map .waiting) trace
  -- there is such a text wherever a chunk is given up
  let text := (slots.findSome? Slot.panic?).getD ""
  (slots.map (Slot.outcome text), trace)

/-- Evaluates chunks, each with the worker of its place; workers without a chunk stay as they
are. -/
def evaluateChunks (pool : Pool) (chunks : List Sample) (trace : Trace) :
    List Outcome × Pool × Trace :=
  let (outcomes, trace) :=
    evaluateJobs pool.schedule pool.function (pool.workers.zipWith Job.mk chunks) trace
  let workers := outcomes.map (·.worker) ++ pool.workers.drop chunks.length
  (outcomes, { pool with workers }, trace)

/-- The cache of everything that was computed, or the first error. -/
def gather (fresh : Cache) : List Sample → List Outcome → Reply Cache
  | chunk :: chunks, outcome :: outcomes =>
    match outcome.reply with
    | .ok outputs => gather (fresh.merge (Cache.ofOutputs chunk.rows outputs.rows)) chunks outcomes
    | .error e => .error e
    | .panic text => .panic text
  | _, _ => .ok fresh

/-- What the outcomes for the chunks come to. -/
def collect (unknown : Sample) (chunks : List Sample) (outcomes : List Outcome) : Reply Cache :=
  -- unwinding goes before any error, of earlier chunks too
  match firstPanic outcomes with
  | some text => .panic text
  | none => gather (Cache.new unknown.size) chunks outcomes

/-- Evaluates a batch; the workers see the distinct rows that the cache does not have, in chunks. -/
def evaluateBatch (pool : Pool) (batch : Sample) (trace : Trace) : Reply Sample × Pool × Trace :=
  match Session.checkBatchOf pool.function pool.info batch with
  | some e => (.error e, pool, trace)
  | none =>
    let (plan, cache) := Plan.make batch pool.cache
    let chunks := plan.unknown.pieces (chunkRows plan.unknown.size pool.workers.length)
    let (outcomes, pool, trace) := { pool with cache }.evaluateChunks chunks trace
    match collect plan.unknown chunks outcomes with
    | .panic text => (.panic text, pool, trace)
    | .error e => (.error e, pool, trace)
    | .ok fresh =>
      let (output, cache) := plan.assemble pool.function pool.info fresh pool.cache
      (.ofExcept output, { pool with cache }, trace)

/-! ## Text -/

/-- The pool as a record. -/
def recordText (pool : Pool) : String :=
  "ParallelEvaluator \x7b function: " ++ Text.quoted pool.function ++
    ", workers: " ++ toString pool.workers.length ++ " \x7d"

end Pool

end ForeignEval

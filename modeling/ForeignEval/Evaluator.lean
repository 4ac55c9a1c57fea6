import ForeignEval.Config
import ForeignEval.Plan
import ForeignEval.Session

/-!
# Evaluators

An evaluator is a session with a result cache, which others may share. Points that the cache has
never reach the foreign code, and neither do repetitions within a batch.

* **Points** — `Evaluator.evaluate` asks the cache, then the session, and records the output.
* **Batches** — `Evaluator.evaluateBatch` follows a plan; the session evaluates all unknown rows in
  one call.
-/

namespace ForeignEval

open Foreign (Trace)

/-- A session with a result cache. -/
structure Evaluator where
  session : Session
  cache : Cache

namespace Evaluator

/-- Opens a session that uses a cache. -/
def new (binding : Binding) (cache : Cache) (trace : Trace) : Except Error Evaluator × Trace :=
  match Session.new binding trace with
  | (.ok session, trace) => (.ok ⟨session, cache⟩, trace)
  | (.error e, trace) => (.error e, trace)

/-- What the function declares. -/
def info (evaluator : Evaluator) : FunctionInfo := evaluator.session.info

/-- How many points have been handed to the foreign code. -/
def calls (evaluator : Evaluator) : Nat := evaluator.session.evaluations

/-- Evaluates a point, from the cache if it has it. -/
def evaluate (evaluator : Evaluator) (point : Point) (trace : Trace) :
    Reply Point × Evaluator × Trace :=
  match evaluator.session.checkPoint point with
  | some e => (.error e, evaluator, trace)
  | none =>
    -- the lookup counts, whatever comes of the evaluation
    match evaluator.cache.lookup point with
    | (some value, cache) => (.ok value, { evaluator with cache }, trace)
    | (none, cache) =>
      match evaluator.session.evaluate point trace with
      | (.ok value, session, trace) => (.ok value, ⟨session, cache.insert point value⟩, trace)
      | (.error e, session, trace) => (.error e, ⟨session, cache⟩, trace)
      | (.panic text, session, trace) => (.panic text, ⟨session, cache⟩, trace)

/-- Evaluates a batch; the session sees the distinct rows that the cache does not have. -/
def evaluateBatch (evaluator : Evaluator) (batch : Sample) (trace : Trace) :
    Reply Sample × Evaluator × Trace :=
  match evaluator.session.checkBatch batch with
  | some e => (.error e, evaluator, trace)
  | none =>
    let (plan, cache) := Plan.make batch evaluator.cache
    -- without unknown rows the session answers whatever its phase is
    match evaluator.session.evaluateBatch plan.unknown trace with
    | (.ok outputs, session, trace) =>
      let fresh := Cache.ofOutputs plan.unknown.rows outputs.rows
      let (output, cache) := plan.assemble session.function session.info fresh cache
      (.ofExcept output, ⟨session, cache⟩, trace)
    | (.error e, session, trace) => (.error e, ⟨session, cache⟩, trace)
    | (.panic text, session, trace) => (.panic text, ⟨session, cache⟩, trace)

/-- Ends the session. -/
def close (evaluator : Evaluator) (trace : Trace) : Except Error Unit × Trace :=
  evaluator.session.close trace

/-- The evaluator as a record. -/
def recordText (evaluator : Evaluator) : String :=
  "CachedEvaluator \x7b session: " ++ evaluator.session.recordText ++
    ", cache: " ++ evaluator.cache.recordText ++ " \x7d"

end Evaluator

end ForeignEval

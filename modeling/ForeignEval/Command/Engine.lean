import ForeignEval.Pool

/-!
# Engines

An engine evaluates the batches of a command: an evaluator, or a pool where a number of workers was
asked for. A command uses both the same way.
-/

namespace ForeignEval.Command

open Foreign (Trace)

/-- Something that evaluates batches. -/
inductive Engine where
  /-- One session with a cache. -/
  | evaluator (evaluator : Evaluator)
  /-- Several sessions with a cache. -/
  | pool (pool : Pool)

namespace Engine

/-- Opens a pool if a number of workers was asked for, and an evaluator otherwise. The number
itself stands in the configuration. -/
def new (binding : Binding) (config : Config) (workers : Option Nat) (schedule : Schedule)
    (trace : Trace) : Except Error Engine × Trace :=
  match workers with
  | some _ =>
    let (opened, trace) := Pool.new binding config.workers config.newCache schedule trace
    (opened.map .pool, trace)
  | none =>
    let (opened, trace) := Evaluator.new binding config.newCache trace
    (opened.map .evaluator, trace)

/-- What the function declares. -/
def info : Engine → FunctionInfo
  | evaluator e => e.info
  | pool p => p.info

/-- Evaluates a batch. -/
def evaluateBatch (engine : Engine) (batch : Sample) (trace : Trace) :
    Reply Sample × Engine × Trace :=
  match engine with
  | evaluator e =>
    let (reply, e, trace) := e.evaluateBatch batch trace
    (reply, evaluator e, trace)
  | pool p =>
    let (reply, p, trace) := p.evaluateBatch batch trace
    (reply, pool p, trace)

/-- Evaluates a batch once and so many times more; the last output counts, and so does the first
failure. -/
def evaluateAgain (batch : Sample) : (more : Nat) → Engine → Trace →
    Reply Sample × Engine × Trace
  | 0, engine, trace => engine.evaluateBatch batch trace
  | more + 1, engine, trace =>
    match engine.evaluateBatch batch trace with
    | (.ok _, engine, trace) => evaluateAgain batch more engine trace
    | failed => failed

/-- How many points have been handed to the foreign code. -/
def calls : Engine → Except Error Nat
  | evaluator e => .ok e.calls
  | pool p => p.calls

/-- The counters of the cache. -/
def stats : Engine → CacheStats
  | evaluator e => e.cache.stats
  | pool p => p.cache.stats

/-- Ends all sessions. -/
def close (engine : Engine) (trace : Trace) : Except Error Unit × Trace :=
  match engine with
  | evaluator e => e.close trace
  | pool p => p.close trace

end Engine

end ForeignEval.Command

import ForeignEval.Command.Engine
import ForeignEval.Proofs.Batch.Repeats
import ForeignEval.Proofs.Pool.Evaluating

/-!
# Engines of functions that evaluate rows

An engine is an evaluator or a pool, and either comes down to a memo. On a function that evaluates
rows the engine of a command can be opened, it answers the batch as often as it is asked, and it can
be closed; the memo tells how many points it has handed over.

* **Invariant** — `Engine.Serves`: an engine with the custody of its states and the cache of a memo.
* **Batches** — `Engine.Serves.evaluateBatch`, and `Engine.Serves.evaluateAgain` for repeats.
* **Opening and closing** — `Engine.serves_new` and `Engine.Serves.close`.
-/

namespace ForeignEval.Command.Engine

open Foreign (Trace valued)

/-- The sessions of an engine. -/
def sessions : Engine → List Session
  | evaluator e => [e.session]
  | pool p => p.workers.map (·.session)

/-- An engine comes down to a memo, as an evaluator or as a pool. -/
def Shows (binding : Binding) (info : FunctionInfo) (memo : Memo) : Engine → Prop
  | evaluator e => Evaluator.Shows binding info e memo
  | pool p => Pool.Shows binding info p memo

/-- An engine that comes down to a memo and has all states in its custody. -/
structure Serves (binding : Binding) (info : FunctionInfo) (memo : Memo) (engine : Engine)
    (trace : Trace) : Prop where
  shows : engine.Shows binding info memo
  custody : Custody none engine.sessions trace

variable {binding : Binding} {info : FunctionInfo} {f : Point → Point} {rows : List Point}
  {memo : Memo} {engine : Engine} {trace : Trace}

namespace Shows

variable (shows : engine.Shows binding info memo)

include shows

theorem info_eq : engine.info = info := by
  cases engine with
  | evaluator e => exact shows.healthy.info_eq
  | pool p => exact shows.info_eq

theorem calls_eq : engine.calls = .ok memo.calls := by
  cases engine with
  | evaluator e => exact congrArg Except.ok shows.calls
  | pool p => exact Pool.Shows.calls_eq shows

theorem healthy : ∀ session ∈ engine.sessions, session.Healthy binding info := by
  cases engine with
  | evaluator e => exact List.forall_mem_singleton.2 (Evaluator.Shows.healthy shows)
  | pool p => exact List.forall_mem_map.2 fun worker mem => (Pool.Shows.healthy shows worker mem).2

end Shows

variable (evaluates : binding.table.Evaluates info f rows)

include evaluates

namespace Serves

variable (serves : engine.Serves binding info memo trace)

include serves

/-! ## Batches -/

/-- A batch gets the memo's reply. -/
theorem evaluateBatch {batch : Sample} (sub : batch.rows ⊆ rows) :
    (engine.evaluateBatch batch trace).1 =
        (memo.evaluateBatch binding info (valued f) batch).1 ∧
      (engine.evaluateBatch batch trace).2.1.Serves binding info
        (memo.evaluateBatch binding info (valued f) batch).2
        (engine.evaluateBatch batch trace).2.2 := by
  cases engine with
  | evaluator e =>
    have shows : Evaluator.Shows binding info e memo := serves.shows
    have custody : Custody none (e.session :: []) trace := serves.custody
    have held := shows.healthy.at_of_custody custody List.mem_cons_self
    have unknown := Plan.unknown_subset batch e.cache
    obtain ⟨reply, after⟩ := shows.evaluateBatch_of_answers fun declared =>
      shows.healthy.evaluateBatch_of_at held evaluates.together declared
        fun row mem => sub (unknown mem)
    exact ⟨reply, after, custody.evaluator_serve (.batch batch)⟩
  | pool p =>
    have shows : Pool.Shows binding info p memo := serves.shows
    have custody : Custody none (p.workers.map (·.session) ++ []) trace := by
      rw [List.append_nil]
      exact serves.custody
    obtain ⟨reply, after⟩ := shows.evaluateBatch_of_answers fun declared =>
      shows.answers_of_custody evaluates custody declared sub
    have later := custody.evaluatePoolBatch batch
    rw [List.append_nil] at later
    exact ⟨reply, after, later⟩

/-- A batch that is evaluated again and again gets the values each time. -/
theorem evaluateAgain {batch : Sample} (right : batch.dimension = info.inputDimension)
    (sub : batch.rows ⊆ rows) (faithful : memo.cache.Faithful f) (more : Nat) :
    ∃ output engine' trace',
      evaluateAgain batch more engine trace = (.ok output, engine', trace') ∧
      output.rows = batch.rows.map f ∧
      engine'.Serves binding info (memo.again binding info (valued f) batch (more + 1)) trace' := by
  have length : ∀ row ∈ batch.rows, (f row).length = info.outputDimension :=
    fun row mem => evaluates.length row (sub mem)
  induction more generalizing memo engine trace with
  | zero =>
    have answered := Memo.answered_of_faithful right length binding faithful
    obtain ⟨output, ok, values⟩ := answered.output
    obtain ⟨reply, after⟩ := serves.evaluateBatch evaluates sub
    exact ⟨output, _, _, Prod.ext (reply.trans ok) rfl, values, after⟩
  | succ more ih =>
    have answered := Memo.answered_of_faithful right length binding faithful
    obtain ⟨value, ok, -⟩ := answered.output
    obtain ⟨reply, after⟩ := serves.evaluateBatch evaluates sub
    obtain ⟨output, engine', trace', rest, values, last⟩ := ih after answered.faithful
    refine ⟨output, engine', trace', ?_, values, last⟩
    rw [ok] at reply
    unfold Engine.evaluateAgain
    cases evaluated : engine.evaluateBatch batch trace with
    | mk first later =>
      rw [evaluated] at reply rest
      cases reply
      exact rest

/-! ## Opening and closing -/

theorem close : (engine.close trace).1 = .ok () := by
  have healthy := serves.shows.healthy
  have custody := serves.custody
  cases engine with
  | evaluator e =>
    have session := healthy e.session List.mem_cons_self
    exact session.close_of_at evaluates (session.at_of_custody custody List.mem_cons_self)
  | pool p =>
    have custody : Custody none (p.workers.map (·.session) ++ []) trace := by
      rw [List.append_nil]
      exact custody
    exact Pool.closeSessions_of_custody evaluates custody healthy

end Serves

/-- An engine can be opened with any number of workers, and starts with a new cache. -/
theorem serves_new (custody : Custody none [] trace) (config : Config) (workers : Option Nat)
    (schedule : Schedule) :
    ∃ engine after, new binding config workers schedule trace = (.ok engine, after) ∧
      engine.Serves binding info ⟨config.newCache, 0⟩ after := by
  cases workers with
  | none =>
    have made := Session.new_of_custody evaluates custody
    have later := custody.new binding
    have healthy : (Session.opened binding (binding.nextId trace).number info).Healthy binding
        info := ⟨rfl, decide_eq_true rfl, rfl, rfl⟩
    rw [made] at later
    refine ⟨.evaluator ⟨_, config.newCache⟩, _, ?_, ⟨healthy, rfl, rfl⟩, later⟩
    unfold new Evaluator.new
    rw [made]
    rfl
  | some count =>
    have later := custody.openSessions binding (max config.workers 1)
    obtain ⟨sessions, after, found, length, healthy⟩ :=
      Pool.openSessions_of_custody evaluates custody (max config.workers 1)
    have staffed : sessions ≠ [] := by
      rw [← List.length_pos_iff, length]
      omega
    have shows := Pool.shows_of_sessions staffed healthy config.newCache schedule
    rw [found, List.append_nil] at later
    refine ⟨.pool _, after, ?_, shows, ?_⟩
    · unfold new Pool.new
      dsimp only
      rw [found]
      rfl
    · show Custody none ((sessions.map (⟨·, false⟩)).map Worker.session) after
      rw [List.map_map]
      exact (List.map_id sessions).symm ▸ later

end ForeignEval.Command.Engine

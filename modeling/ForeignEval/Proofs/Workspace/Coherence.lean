import ForeignEval.Proofs.Cache.History
import ForeignEval.Proofs.Pool.Sound

/-!
# Caching never changes a result

A workspace is **coherent** with a function when all of its runners compute the function and all of
its caches are faithful to it. Runners may share caches, fail, and be used in any order; caches may
be cleared, resized, switched off and on, and merged. As long as only values of the function are
inserted, the workspace stays coherent, and every result is a value of the function.

* **Invariant** — `Workspace.Coherent`.
* **Step** — `Workspace.Coherent.act`: a step of the kind leaves a coherent workspace and is
  answered right.
* **Run** — `run_coherent`: so are steps in order.
-/

namespace ForeignEval

open Foreign (Trace)
open Workspace (CacheCall Name Outcome Request Step Value)

variable {inputs outputs : Nat} {F : Point → Point}

/-- The sessions of a runner compute a function. -/
def Runner.Computes (inputs outputs : Nat) (F : Point → Point) (runner : Runner) : Prop :=
  match runner.kind with
  | .session session | .evaluator session _ => session.Computes inputs outputs F
  | .pool pool _ => ∀ worker ∈ pool.workers, worker.session.Computes inputs outputs F

namespace Workspace

/-- Steps that evaluate with a runner or call a cache, and insert values of a function only. -/
def Step.Honest (F : Point → Point) : Step → Prop
  | .evaluate _ _ | .evaluateBatch _ _ _ => True
  | .cache _ (.insert point value) => value = F point
  | .cache _ _ => True
  | _ => False

/-- The value of an outcome that is neither an error nor unwinding. -/
def Outcome.value? : Outcome → Option Value
  | .reply (.ok value) | .evaluated (.ok value) _ | .cached value _ => some value
  | _ => none

/-- What is answered to a request are values of a function. -/
def Request.Answered (F : Point → Point) : Request → Value → Prop
  | .point input, value => value = .point (some (F input))
  | .batch sample, value => ∃ output, value = .sample output ∧ output.rows = sample.rows.map F

/-- What is answered to a step are values of a function. -/
def Step.Answered (F : Point → Point) : Step → Value → Prop
  | .evaluate _ point, value => value = .point (some (F point))
  | .evaluateBatch _ _ rows, value => ∃ output, value = .sample output ∧ output.rows = rows.map F
  | .cache _ (.lookup point), value => ∀ found, value = .point (some found) → found = F point
  | .cache _ .entries, value => ∀ entries, value = .entries entries →
      ∀ entry ∈ entries, entry.2 = F entry.1
  | _, _ => True

/-- All runners compute a function, and all caches are faithful to it. -/
structure Coherent (inputs outputs : Nat) (F : Point → Point) (w : Workspace) : Prop where
  /-- The runners compute the function. -/
  computes : ∀ named ∈ w.runners, named.2.Computes inputs outputs F
  /-- The caches are faithful to it. -/
  faithful : ∀ cache ∈ w.caches, cache.Faithful F

namespace Coherent

variable {w : Workspace} (coherent : w.Coherent inputs outputs F)

include coherent

theorem faithful_cacheAt (number : Nat) : (w.cacheAt number).Faithful F := by
  unfold cacheAt
  cases found : w.caches[number]? with
  | none => exact Cache.faithful_new 0
  | some cache => exact coherent.faithful cache (List.mem_of_getElem? found)

theorem setCache (number : Nat) {cache : Cache} (faithful : cache.Faithful F) :
    (w.setCache number cache).Coherent inputs outputs F where
  computes := coherent.computes
  faithful other mem := by
    rcases List.mem_or_eq_of_mem_set mem with old | rfl
    · exact coherent.faithful other old
    · exact faithful

theorem setRunner (id : Name) {runner : Runner} (computes : runner.Computes inputs outputs F) :
    (w.setRunner id runner).Coherent inputs outputs F where
  computes named mem := by
    rcases List.mem_cons.1 mem with rfl | old
    · exact computes
    · exact coherent.computes named (List.mem_of_mem_filter old)
  faithful := coherent.faithful

omit coherent in
theorem withTrace (coherent : w.Coherent inputs outputs F) (trace : Trace) :
    ({ w with trace } : Workspace).Coherent inputs outputs F :=
  ⟨coherent.computes, coherent.faithful⟩

/-! ## Requests -/

omit coherent in
theorem answered_point {point : Point} {reply : Reply Point}
    (right : ∀ value, reply = .ok value → value = F point) :
    ∀ value, (reply.map fun point => Value.point (some point)) = .ok value →
      Request.Answered F (.point point) value := by
  intro value ok
  obtain ⟨output, same, rfl⟩ := Reply.map_eq_ok_iff.1 ok
  exact congrArg (fun point => Value.point (some point)) (right output same)

omit coherent in
theorem answered_batch {batch : Sample} {reply : Reply Sample}
    (right : ∀ output, reply = .ok output → output.rows = batch.rows.map F) :
    ∀ value, reply.map Value.sample = .ok value → Request.Answered F (.batch batch) value := by
  intro value ok
  obtain ⟨output, same, rfl⟩ := Reply.map_eq_ok_iff.1 ok
  exact ⟨output, rfl, right output same⟩

/-- Whatever a runner is, what it replies are values, and the workspace stays coherent. -/
theorem request {runner : Runner} (computes : runner.Computes inputs outputs F)
    (request : Request) :
    (∀ value, (w.request runner request).1 = .ok value → request.Answered F value) ∧
      (w.request runner request).2.1.Computes inputs outputs F ∧
      (w.request runner request).2.2.Coherent inputs outputs F := by
  obtain ⟨binding, kind⟩ := runner
  cases kind with
  | session session =>
    have session_computes : session.Computes inputs outputs F := computes
    cases request with
    | point point =>
      have later := session_computes.later (session.sameOwner_evaluate w.trace point)
      exact ⟨answered_point fun value ok => session_computes.evaluate ok, later,
        coherent.withTrace _⟩
    | batch batch =>
      have later := session_computes.later (session.sameOwner_evaluateBatch w.trace batch)
      exact ⟨answered_batch fun output ok => session_computes.evaluateBatch ok, later,
        coherent.withTrace _⟩
  | evaluator session number =>
    have sound : Evaluator.Sound inputs outputs F ⟨session, w.cacheAt number⟩ :=
      ⟨computes, coherent.faithful_cacheAt number⟩
    cases request with
    | point point =>
      obtain ⟨right, after⟩ := sound.evaluate point w.trace
      exact ⟨answered_point right, after.computes,
        (coherent.withTrace _).setCache number after.faithful⟩
    | batch batch =>
      obtain ⟨right, after⟩ := sound.evaluateBatch batch w.trace
      exact ⟨answered_batch right, after.computes,
        (coherent.withTrace _).setCache number after.faithful⟩
  | pool pool number =>
    have sound : Pool.Sound inputs outputs F { pool with cache := w.cacheAt number } :=
      ⟨computes, coherent.faithful_cacheAt number⟩
    cases request with
    | point point =>
      obtain ⟨right, after⟩ := sound.evaluate point w.trace
      exact ⟨answered_point right, after.computes,
        (coherent.withTrace _).setCache number after.faithful⟩
    | batch batch =>
      obtain ⟨right, after⟩ := sound.evaluateBatch batch w.trace
      exact ⟨answered_batch right, after.computes,
        (coherent.withTrace _).setCache number after.faithful⟩

theorem evaluateOn (id : Name) (what : Request) :
    (∀ value, (Workspace.evaluateOn id what w).1.value? = some value → what.Answered F value) ∧
      (Workspace.evaluateOn id what w).2.Coherent inputs outputs F := by
  unfold Workspace.evaluateOn
  cases found : w.runners.lookup id with
  | none => exact ⟨fun _ ok => (nomatch ok), coherent⟩
  | some runner =>
    obtain ⟨before, after, parts, -⟩ := List.lookup_eq_some_iff.1 found
    have mem : (id, runner) ∈ w.runners := by
      rw [parts]
      exact List.mem_append_right _ List.mem_cons_self
    obtain ⟨right, computes, coherent'⟩ := coherent.request (coherent.computes _ mem) what
    -- whatever was replied, the runner is stored as it is now
    have stored := coherent'.setRunner id computes
    dsimp only
    cases reply : (w.request runner what).1 with
    | ok value =>
      refine ⟨fun other ok => ?_, stored⟩
      cases ok
      exact right value reply
    | error | panic => exact ⟨fun _ ok => (nomatch ok), stored⟩

/-! ## Steps -/

/-- Rows of one dimension are evaluated as a batch; all others are refused. -/
theorem evaluateBatch (id : Name) (dimension : Nat) (rows : List Point) :
    (∀ value, (Workspace.evaluateBatch id dimension rows w).1.value? = some value →
        (Step.evaluateBatch id dimension rows).Answered F value) ∧
      (Workspace.evaluateBatch id dimension rows w).2.Coherent inputs outputs F := by
  unfold Workspace.evaluateBatch Sample.ofRows
  by_cases right : ∀ row ∈ rows, row.length = dimension
  · rw [dif_pos right]
    exact coherent.evaluateOn id (.batch ⟨dimension, rows, none, right⟩)
  · rw [dif_neg right]
    dsimp only
    split
    · exact ⟨fun _ ok => (nomatch ok), coherent⟩
    · exact ⟨fun _ ok => (nomatch ok), coherent⟩

omit coherent in
theorem answered_callCache {cache other : Cache} (faithful : cache.Faithful F) (name : Name)
    (call : CacheCall) : (Step.cache name call).Answered F (callCache cache other call).1 := by
  cases call with
  | lookup point =>
    intro found same
    exact faithful.value_of_peek (Value.point.inj same)
  | entries =>
    intro entries same
    exact Value.entries.inj same ▸ faithful.value_eq
  | insert | contains | merge | clear | setMaxSize | enable | disable | counts | record =>
    trivial

/-- A call on a named cache that inserts values only is answered with values. -/
theorem onCache {name : Name} {call : CacheCall} (honest : (Step.cache name call).Honest F) :
    (∀ value, (Workspace.onCache name call w).1.value? = some value →
        (Step.cache name call).Answered F value) ∧
      (Workspace.onCache name call w).2.Coherent inputs outputs F := by
  have inserted : ∀ point value, call = .insert point value → value = F point := by
    rintro point value rfl
    exact honest
  rw [onCache_eq]
  cases w.cacheNames.lookup name with
  | none => exact ⟨fun _ ok => (nomatch ok), coherent⟩
  | some number =>
    dsimp only
    unfold callOn
    cases w.sourceNumber number call with
    | none => exact ⟨fun _ ok => (nomatch ok), coherent⟩
    | some other =>
      have faithful := coherent.faithful_cacheAt number
      have faithful' := coherent.faithful_cacheAt other
      refine ⟨fun value ok => ?_, coherent.setCache number (faithful.callCache faithful' inserted)⟩
      cases ok
      exact answered_callCache faithful name call

/-- **Step**: an honest step is answered with values, and the workspace stays coherent. -/
theorem act {step : Step} (honest : step.Honest F) :
    (∀ value, (Workspace.act step w).1.value? = some value → step.Answered F value) ∧
      (Workspace.act step w).2.Coherent inputs outputs F := by
  cases step with
  | evaluate id point => exact coherent.evaluateOn id (.point point)
  | evaluateBatch id dimension rows => exact coherent.evaluateBatch id dimension rows
  | cache name call => exact coherent.onCache honest
  | _ => exact absurd honest not_false

end Coherent

end Workspace

/-- **Caching never changes a result.** Evaluators, pools and sessions that compute a function, on
caches that are faithful to it, are used in any order, while the caches are emptied, resized,
switched and merged, and values are inserted. Every result is a value of the function, and all
caches stay faithful. -/
theorem run_coherent {w : Workspace} (coherent : w.Coherent inputs outputs F) {steps : List Step}
    (honest : ∀ step ∈ steps, step.Honest F) :
    List.Forall₂ (fun step answer => ∀ value, answer.1.value? = some value →
        step.Answered F value) steps (w.run steps).1 ∧
      (w.run steps).2.Coherent inputs outputs F := by
  induction steps generalizing w with
  | nil => exact ⟨.nil, coherent⟩
  | cons step steps ih =>
    obtain ⟨first, others⟩ := List.forall_mem_cons.1 honest
    obtain ⟨answered, after⟩ := coherent.act first
    obtain ⟨answers, last⟩ := ih after others
    exact ⟨.cons answered answers, last⟩

/-- An evaluator and a pool of two workers that share a cache with room for one entry. -/
def shared : Workspace :=
  { Workspace.new ⟨none, .inOrder⟩ none ⟨[]⟩
      ⟨fun _ => .ok .other, fun _ => .error (.system 2)⟩
      ⟨fun _ _ => .error "", fun _ => .ok ()⟩ .once [("c", Cache.new 1)] with
    runners := [
      ("e", ⟨choosyBinding,
        .evaluator ⟨choosyBinding, ⟨1, 0⟩, ⟨1, 2, none⟩, .created, 0⟩ 0⟩),
      ("p", ⟨choosyBinding, .pool ⟨[
        ⟨⟨choosyBinding, ⟨1, 1⟩, ⟨1, 2, none⟩, .created, 0⟩, false⟩,
        ⟨⟨choosyBinding, ⟨1, 2⟩, ⟨1, 2, none⟩, .ready, 4⟩, false⟩],
        Cache.new 1, ⟨1, 2, none⟩, "choosy", .inOrder⟩ 0⟩)] }

/-- Points, a batch with a point that is refused, and a batch after the cache was made larger. -/
def sharing : List Step :=
  [.evaluate "e" [⟨1⟩], .evaluateBatch "p" 1 [[⟨1⟩], [⟨7⟩]], .cache "c" (.setMaxSize 3),
    .cache "c" (.insert [⟨5⟩] [⟨5⟩, ⟨5⟩]), .evaluateBatch "p" 1 [[⟨5⟩], [⟨2⟩], [⟨1⟩], [⟨3⟩]]]

/-- A point written twice, as the function does it. -/
def twice (point : Point) : Point := Foreign.Script.choosy.output 0 point 2

/-- The law at work: all results are inputs written twice. -/
theorem run_coherent_shared :
    shared.Coherent 1 2 twice ∧ (∀ step ∈ sharing, step.Honest twice) ∧
      List.Forall₂ (fun step answer => ∀ value, answer.1.value? = some value →
        step.Answered twice value) sharing (shared.run sharing).1 ∧
      (shared.run sharing).2.Coherent 1 2 twice := by
  have table : choosyBinding.table.Computes 1 2 twice :=
    Foreign.Script.computes_table Foreign.Script.steady_choosy (.inProcess 1)
  have coherent : shared.Coherent 1 2 twice := by
    constructor
    · intro named mem
      rcases List.mem_cons.1 mem with rfl | mem
      · exact ⟨table, rfl, rfl⟩
      · rw [List.mem_singleton.1 mem]
        intro worker there
        rcases List.mem_cons.1 there with rfl | there
        · exact ⟨table, rfl, rfl⟩
        · rw [List.mem_singleton.1 there]
          exact ⟨table, rfl, rfl⟩
    · intro cache mem
      rw [List.mem_singleton.1 mem]
      exact Cache.faithful_new 1
  have honest : ∀ step ∈ sharing, step.Honest twice := by
    intro step mem
    simp only [sharing, List.mem_cons, List.not_mem_nil, or_false] at mem
    rcases mem with rfl | rfl | rfl | rfl | rfl
    · trivial
    · trivial
    · trivial
    · show [⟨5⟩, ⟨5⟩] = twice [⟨5⟩]
      decide
    · trivial
  exact ⟨coherent, honest, run_coherent coherent honest⟩

end ForeignEval

import ForeignEval.Proofs.Batch.Idle
import ForeignEval.Proofs.Workspace.Memory

/-!
# A disabled period is invisible

While a cache is disabled it may be looked into, written to and evaluated with as one likes: it
stays what it is, and nobody can tell it from an empty cache of capacity 0.

A workspace with an idle cache is compared with its **bare** one, in which that cache is
`Cache.new 0`. Both give the same answers to steps that use the cache or evaluate, but for the
counters of caches, and stay each other's like.

* **Bare workspaces** — `Workspace.bare`; `request_bare`: requests, for all kinds of runners.
* **Steps** — `step_bare`, and `step_of_disabled` for a disabled cache.
* **Runs** — `turns_bare`, `turns_filter`, and `disabled_period_invisible`.
-/

namespace ForeignEval

open Foreign (Call Trace)
open Workspace (CacheCall Name Outcome Request RunnerView Step Turn Value)

/-- A runner without the cache that the record of a pool has from its last use. -/
def Runner.bare (runner : Runner) : Runner :=
  match runner.kind with
  | .pool pool number => { runner with kind := .pool { pool with cache := .new 0 } number }
  | _ => runner

namespace Workspace

/-! ## Bare workspaces -/

/-- The workspace with an empty cache of capacity 0 for the cache of a number. -/
def bare (w : Workspace) (number : Nat) : Workspace :=
  { w with
    caches := w.caches.set number (.new 0)
    runners := w.runners.map fun (id, runner) => (id, runner.bare) }

/-- A view without the counters of the cache. -/
def RunnerView.plain : RunnerView → RunnerView
  | .session view => .session view
  | .evaluator view calls _ => .evaluator view calls default
  | .pool workers info calls _ => .pool workers info calls default

/-- An outcome without the counters of caches. -/
def Outcome.plain : Outcome → Outcome
  | .evaluated answer view => .evaluated answer view.plain
  | .cached value _ => .cached value default
  | outcome => outcome

/-- A turn without the counters of caches. -/
def Turn.plain (turn : Turn) : Turn := { turn with outcome := turn.outcome.plain }

/-- Whether a step looks into the cache of a number or writes to it; caches have these names. -/
def Step.isUse (names : List (Name × Nat)) (number : Nat) : Step → Bool
  | .cache name call => names.lookup name == some number && call.isUse
  | _ => false

/-- Whether a step has a runner evaluate something. -/
def Step.isRequest : Step → Bool
  | .evaluate _ _ | .evaluateBatch _ _ _ => true
  | _ => false

/-- A step that uses the cache of a number, or has some runner evaluate. -/
def Step.Ordinary (names : List (Name × Nat)) (number : Nat) (step : Step) : Prop :=
  step.isUse names number = true ∨ step.isRequest = true

variable {w : Workspace} {number : Nat} {name : Name} {step : Step} {steps : List Step}

theorem cacheAt_bare_self (w : Workspace) (number : Nat) :
    (w.bare number).cacheAt number = .new 0 := by
  unfold bare cacheAt
  rw [List.getElem?_set_self']
  cases w.caches[number]? <;> rfl

theorem cacheAt_bare_of_ne {other : Nat} (apart : other ≠ number) :
    (w.bare number).cacheAt other = w.cacheAt other := by
  unfold bare cacheAt
  rw [List.getElem?_set_ne apart.symm]

theorem bare_setCache (w : Workspace) (number : Nat) (cache : Cache) :
    (w.setCache number cache).bare number = w.bare number := by
  unfold bare setCache
  simp only [List.set_set]

theorem bare_setCache_of_ne {other : Nat} (apart : other ≠ number) (cache : Cache) :
    (w.setCache other cache).bare number = (w.bare number).setCache other cache := by
  unfold bare setCache
  simp only [List.set_comm _ _ apart]

theorem bare_bare (w : Workspace) (number : Nat) : (w.bare number).bare number = w.bare number := by
  have same : ∀ runner : Runner, runner.bare.bare = runner.bare := by
    rintro ⟨binding, kind⟩
    cases kind <;> rfl
  simp [bare, same]

/-- Another trace and any two caches of the number make no difference. -/
theorem bare_stored (w : Workspace) (number : Nat) (trace : Trace) (cache cache' : Cache) :
    (({ w with trace } : Workspace).setCache number cache).bare number =
      (({ w.bare number with trace } : Workspace).setCache number cache').bare number := by
  rw [bare_setCache, bare_setCache]
  exact congrArg (fun v : Workspace => { v with trace }) (w.bare_bare number).symm

theorem bare_stored_of_ne {other : Nat} (apart : other ≠ number) (trace : Trace) (cache : Cache) :
    (({ w with trace } : Workspace).setCache other cache).bare number =
      (({ w.bare number with trace } : Workspace).setCache other cache).bare number := by
  rw [bare_setCache_of_ne apart, bare_setCache_of_ne apart]
  exact congrArg (fun v : Workspace => ({ v with trace } : Workspace).setCache other cache)
    (w.bare_bare number).symm

theorem cacheAt_setCache_of_ne {other : Nat} (apart : other ≠ number) (cache : Cache) :
    (w.setCache other cache).cacheAt number = w.cacheAt number := by
  unfold setCache cacheAt
  rw [List.getElem?_set_ne apart]

/-- Whatever lookups have been counted, a cache that is not there stays away. -/
theorem exists_cacheAt_setCache (w : Workspace) (number : Nat) (points : List Point) :
    ∃ counted, (w.setCache number ((w.cacheAt number).countAll points)).cacheAt number =
      (w.cacheAt number).countAll counted := by
  by_cases there : number < w.caches.length
  · exact ⟨points, (cacheAt_setCache w there _ _).trans (if_pos rfl)⟩
  · refine ⟨[], ?_⟩
    unfold setCache
    rw [List.set_eq_of_length_le (Nat.le_of_not_lt there)]
    rfl

theorem idle_setCache (idle : (w.cacheAt number).Idle) {cache : Cache} (idle' : cache.Idle) :
    ((w.setCache number cache).cacheAt number).Idle := by
  by_cases there : number < w.caches.length
  · rw [cacheAt_setCache w there, if_pos rfl]
    exact idle'
  · unfold setCache
    rw [List.set_eq_of_length_le (Nat.le_of_not_lt there)]
    exact idle

/-- A cache that is not there counts as enabled. -/
theorem inside_of_disabled (disabled : (w.cacheAt number).enabled = false) :
    number < w.caches.length := by
  by_contra outside
  unfold cacheAt at disabled
  rw [List.getElem?_eq_none (Nat.le_of_not_lt outside)] at disabled
  cases disabled

theorem setCache_cacheAt (w : Workspace) (number : Nat) :
    w.setCache number (w.cacheAt number) = w := by
  have same : w.caches.set number (w.cacheAt number) = w.caches := by
    by_cases there : number < w.caches.length
    · unfold cacheAt
      rw [List.getElem?_eq_getElem there]
      exact List.set_getElem_self there
    · exact List.set_eq_of_length_le (Nat.le_of_not_lt there)
  unfold setCache
  rw [same]

/-! ## Requests -/

theorem request_evaluator (w : Workspace) (binding : Binding) (session : Session) (cache : Nat)
    (what : Request) :
    w.request ⟨binding, .evaluator session cache⟩ what =
      let served := Evaluator.server.serve (⟨session, w.cacheAt cache⟩, w.trace) what
      (served.1, ⟨binding, .evaluator served.2.1.session cache⟩,
        ({ w with trace := served.2.2 } : Workspace).setCache cache served.2.1.cache) := by
  cases what <;> rfl

theorem request_pool (w : Workspace) (binding : Binding) (pool : Pool) (cache : Nat)
    (what : Request) :
    w.request ⟨binding, .pool pool cache⟩ what =
      let served := Pool.server.serve ({ pool with cache := w.cacheAt cache }, w.trace) what
      (served.1, ⟨binding, .pool served.2.1 cache⟩,
        ({ w with trace := served.2.2 } : Workspace).setCache cache served.2.1.cache) := by
  cases what <;> rfl

/-- A request is answered alike in the bare workspace. -/
theorem request_bare (idle : (w.cacheAt number).Idle) (runner : Runner) (what : Request) :
    (w.request runner what).1 = ((w.bare number).request runner.bare what).1 ∧
      (w.request runner what).2.1.bare = ((w.bare number).request runner.bare what).2.1.bare ∧
      (w.request runner what).2.2.bare number =
        ((w.bare number).request runner.bare what).2.2.bare number ∧
      ∃ points, (w.request runner what).2.2.cacheAt number =
        (w.cacheAt number).countAll points := by
  obtain ⟨binding, kind⟩ := runner
  cases kind with
  | session session =>
    have bare (trace : Trace) : ({ w with trace } : Workspace).bare number =
        ({ w.bare number with trace } : Workspace).bare number :=
      congrArg (fun v : Workspace => { v with trace }) (w.bare_bare number).symm
    cases what with
    | point | batch => exact ⟨rfl, rfl, bare _, [], rfl⟩
  | evaluator session cache =>
    simp only [Runner.bare, request_evaluator]
    by_cases same : cache = number
    · subst same
      obtain ⟨points, served⟩ := Evaluator.serve_of_idle session w.trace idle what
      rw [cacheAt_bare_self, served]
      exact ⟨rfl, rfl, bare_stored .., exists_cacheAt_setCache { w with trace := _ } cache points⟩
    · rw [cacheAt_bare_of_ne same]
      exact ⟨rfl, rfl, bare_stored_of_ne same .., [], cacheAt_setCache_of_ne same _⟩
  | pool pool cache =>
    simp only [Runner.bare, request_pool]
    by_cases same : cache = number
    · subst same
      obtain ⟨points, served⟩ := Pool.serve_of_idle pool w.trace idle what
      rw [cacheAt_bare_self, served]
      exact ⟨rfl, rfl, bare_stored .., exists_cacheAt_setCache { w with trace := _ } cache points⟩
    · rw [cacheAt_bare_of_ne same]
      exact ⟨rfl, rfl, bare_stored_of_ne same .., [], cacheAt_setCache_of_ne same _⟩

theorem cacheNames_request (w : Workspace) (runner : Runner) (what : Request) :
    (w.request runner what).2.2.cacheNames = w.cacheNames := by
  obtain ⟨binding, kind⟩ := runner
  cases kind <;> cases what <;> rfl

/-! ## Steps -/

theorem plain_view (w v : Workspace) {runner runner' : Runner} (same : runner.bare = runner'.bare) :
    (w.view runner).plain = (v.view runner').plain := by
  have shown : ∀ (w : Workspace) (runner : Runner),
      (w.view runner).plain = (({ w with caches := [] } : Workspace).view runner.bare).plain := by
    rintro w ⟨binding, kind⟩
    cases kind <;> rfl
  rw [shown w, shown v, same]
  generalize runner'.bare = bare
  obtain ⟨binding, kind⟩ := bare
  cases kind <;> rfl

theorem lookup_bare (w : Workspace) (number : Nat) (id : Name) :
    (w.bare number).runners.lookup id = (w.runners.lookup id).map Runner.bare := by
  show List.lookup id (w.runners.map _) = _
  induction w.runners with
  | nil => rfl
  | cons entry runners ih =>
    rw [List.map_cons, List.lookup_cons, List.lookup_cons, ih]
    cases id == entry.1 <;> rfl

theorem bare_setRunner (w : Workspace) (number : Nat) (id : Name) (runner : Runner) :
    (w.setRunner id runner).bare number = (w.bare number).setRunner id runner.bare := by
  unfold bare setRunner withName without
  simp only [List.map_cons, List.filter_map]
  rfl

theorem isPool_bare (w : Workspace) (number : Nat) (id : Name) :
    (w.bare number).isPool id = w.isPool id := by
  unfold isPool
  rw [lookup_bare]
  cases w.runners.lookup id with
  | none => rfl
  | some runner =>
    obtain ⟨binding, kind⟩ := runner
    cases kind <;> rfl

/-- What a step comes to in a workspace with an idle cache and in the bare one. -/
structure Alike (number : Nat) (w : Workspace) (result result' : Outcome × Workspace) : Prop where
  plain : result.1.plain = result'.1.plain
  bare : result.2.bare number = result'.2.bare number
  counted : ∃ points, result.2.cacheAt number = (w.cacheAt number).countAll points
  names : result.2.cacheNames = w.cacheNames

theorem alike_refused (w : Workspace) (number : Nat) (outcome : Outcome) :
    Alike number w (outcome, w) (outcome, w.bare number) :=
  ⟨rfl, (w.bare_bare number).symm, ⟨[], rfl⟩, rfl⟩

theorem alike_evaluateOn (idle : (w.cacheAt number).Idle) (id : Name) (what : Request) :
    Alike number w (evaluateOn id what w) (evaluateOn id what (w.bare number)) := by
  unfold evaluateOn
  rw [lookup_bare]
  cases found : w.runners.lookup id with
  | none => exact w.alike_refused number _
  | some runner =>
    obtain ⟨reply, runner', after, counted⟩ := request_bare idle runner what
    have names := w.cacheNames_request runner what
    rw [Option.map_some]
    dsimp only
    rw [← reply]
    have stored := congrArg
      (fun v : Workspace => v.setRunner id (w.request runner what).2.1.bare) after
    rw [← bare_setRunner, runner', ← bare_setRunner] at stored
    cases (w.request runner what).1 with
    | panic text => exact ⟨rfl, stored, counted, names⟩
    | ok | error =>
      exact ⟨congrArg (Outcome.evaluated _) (plain_view _ _ runner'), stored, counted, names⟩

theorem alike_onCache (idle : (w.cacheAt number).Idle)
    (named : w.cacheNames.lookup name = some number) {call : CacheCall}
    (use : call.isUse = true) :
    Alike number w (onCache name call w) (onCache name call (w.bare number)) := by
  have idle' : ((w.bare number).cacheAt number).Idle := by
    rw [cacheAt_bare_self]
    exact Cache.idle_new_zero
  have named' : (w.bare number).cacheNames.lookup name = some number := named
  have sources : (w.bare number).sourceNumber number call = w.sourceNumber number call := by
    cases call <;> rfl
  rw [onCache_eq, onCache_eq, named, named']
  dsimp only
  unfold callOn
  rw [sources]
  cases w.sourceNumber number call with
  | none => exact w.alike_refused number _
  | some other =>
    obtain ⟨points, called⟩ := idle.callCache (w.cacheAt other) use
    obtain ⟨points', called'⟩ := idle'.callCache ((w.bare number).cacheAt other) use
    dsimp only
    rw [called, called']
    refine ⟨rfl, ?_, exists_cacheAt_setCache w number points, rfl⟩
    rw [bare_setCache, bare_setCache, bare_bare]

/-- **Step**: a step is answered alike in the bare workspace. -/
theorem alike_act (idle : (w.cacheAt number).Idle) (ordinary : step.Ordinary w.cacheNames number) :
    Alike number w (act step w) (act step (w.bare number)) := by
  cases step with
  | cache name call =>
    obtain use | request := ordinary
    · simp only [Step.isUse, Bool.and_eq_true, beq_iff_eq] at use
      exact alike_onCache idle use.1 use.2
    · cases request
  | evaluate id point => exact alike_evaluateOn idle id (.point point)
  | evaluateBatch id dimension rows =>
    show Alike number w (Workspace.evaluateBatch id dimension rows w)
      (Workspace.evaluateBatch id dimension rows (w.bare number))
    unfold Workspace.evaluateBatch
    cases Sample.ofRows dimension rows with
    | ok batch => exact alike_evaluateOn idle id (.batch batch)
    | error index =>
      dsimp only
      rw [lookup_bare, Option.isNone_map]
      split
      · exact w.alike_refused number _
      · exact w.alike_refused number _
  | _ => simp [Step.Ordinary, Step.isUse, Step.isRequest] at ordinary

/-- What is listed as the calls of a step does not depend on caches. -/
theorem callsOf_congr {after after' : Workspace} (same : after.bare number = after'.bare number)
    (events : Trace) : callsOf step after events = callsOf step after' events := by
  have pools : ∀ id, after.isPool id = after'.isPool id := by
    intro id
    rw [← isPool_bare after number, same, isPool_bare]
  unfold callsOf
  cases step.id? with
  | none => rfl
  | some id => simp only [pools id]

theorem turn_eq (w : Workspace) (step : Step) :
    w.turn step = ⟨step, (act step w).1,
      callsOf step (act step w).2 ((act step w).2.trace.drop w.trace.length)⟩ := rfl

theorem step_bare (idle : (w.cacheAt number).Idle) (ordinary : step.Ordinary w.cacheNames number) :
    (w.turn step).plain = ((w.bare number).turn step).plain ∧
      (w.step step).2.2.bare number = ((w.bare number).step step).2.2.bare number ∧
      ((w.step step).2.2.cacheAt number).Idle ∧ (w.step step).2.2.cacheNames = w.cacheNames := by
  obtain ⟨plain, bare, ⟨points, counted⟩, names⟩ := alike_act idle ordinary
  have trace : ((act step w).2.bare number).trace =
      ((act step (w.bare number)).2.bare number).trace :=
    congrArg Workspace.trace bare
  refine ⟨?_, bare, ?_, names⟩
  · rw [turn_eq, turn_eq]
    unfold Turn.plain
    dsimp only
    rw [plain, callsOf_congr bare]
    exact congrArg (fun later : Trace => Turn.mk step _ (callsOf step _ (later.drop _))) trace
  · show ((act step w).2.cacheAt number).Idle
    rw [counted]
    exact idle.countAll points

/-! ## Disabled caches -/

theorem step_of_disabled (disabled : (w.cacheAt number).enabled = false)
    (ordinary : step.Ordinary w.cacheNames number) :
    (w.step step).2.2.cacheAt number = w.cacheAt number ∧
      (w.step step).2.2.cacheNames = w.cacheNames := by
  obtain ⟨-, -, ⟨points, counted⟩, names⟩ :=
    alike_act (Cache.idle_of_disabled disabled) ordinary
  exact ⟨counted.trans (Cache.countAll_of_disabled disabled points), names⟩

/-- A use of a disabled cache finds nothing and leaves the workspace as it is. -/
theorem onCache_of_disabled (disabled : (w.cacheAt number).enabled = false)
    (named : w.cacheNames.lookup name = some number) {call : CacheCall}
    (use : call.isUse = true) :
    onCache name call w =
      ((w.sourceNumber number call).elim (.missing .cache) fun _ =>
        .cached call.idleValue (w.cacheAt number).stats, w) := by
  rw [onCache_eq, named]
  dsimp only
  unfold callOn
  cases w.sourceNumber number call with
  | none => rfl
  | some other =>
    obtain ⟨points, called⟩ :=
      (Cache.idle_of_disabled disabled).callCache (w.cacheAt other) use
    dsimp only
    rw [called, Cache.countAll_of_disabled disabled, setCache_cacheAt]
    rfl

theorem step_of_isUse (disabled : (w.cacheAt number).enabled = false)
    (use : step.isUse w.cacheNames number = true) : (w.step step).2.2 = w := by
  cases step with
  | cache name call =>
    simp only [Step.isUse, Bool.and_eq_true, beq_iff_eq] at use
    exact congrArg Prod.snd (onCache_of_disabled disabled use.1 use.2)
  | _ => cases use

/-! ## Runs -/

theorem run_append (w : Workspace) (earlier later : List Step) :
    (w.run (earlier ++ later)).2 = ((w.run earlier).2.run later).2 := by
  induction earlier generalizing w with
  | nil => rfl
  | cons step earlier ih => exact ih (w.step step).2.2

/-- Turns in a workspace with an idle cache are those in the bare one. -/
theorem turns_bare (idle : (w.cacheAt number).Idle)
    (ordinary : ∀ step ∈ steps, step.Ordinary w.cacheNames number) :
    (w.turns steps).map Turn.plain = ((w.bare number).turns steps).map Turn.plain := by
  induction steps generalizing w with
  | nil => rfl
  | cons step steps ih =>
    have idle' : ((w.bare number).cacheAt number).Idle := by
      rw [cacheAt_bare_self]
      exact Cache.idle_new_zero
    have first := ordinary step List.mem_cons_self
    obtain ⟨turn, bare, after, names⟩ := step_bare idle first
    obtain ⟨-, -, after', names'⟩ := step_bare (w := w.bare number) idle' first
    have others : ∀ step' ∈ steps, step'.Ordinary w.cacheNames number :=
      fun step' mem => ordinary step' (List.mem_cons_of_mem _ mem)
    rw [turns_cons, turns_cons, List.map_cons, List.map_cons, turn]
    -- both runs go on in workspaces with the same bare one
    rw [ih after (names ▸ others), bare, ← ih after' (names' ▸ others)]

theorem run_of_disabled (disabled : (w.cacheAt number).enabled = false)
    (ordinary : ∀ step ∈ steps, step.Ordinary w.cacheNames number) :
    (w.run steps).2.cacheAt number = w.cacheAt number ∧
      (w.run steps).2.cacheNames = w.cacheNames := by
  induction steps generalizing w with
  | nil => exact ⟨rfl, rfl⟩
  | cons step steps ih =>
    obtain ⟨cache, names⟩ := step_of_disabled disabled (ordinary step List.mem_cons_self)
    have others : ∀ step' ∈ steps, step'.Ordinary w.cacheNames number :=
      fun step' mem => ordinary step' (List.mem_cons_of_mem _ mem)
    obtain ⟨cache', names'⟩ := ih (cache.symm ▸ disabled) (names ▸ others)
    exact ⟨cache'.trans cache, names'.trans names⟩

/-- Without the uses of a disabled cache, the other steps have the same turns and leave the same
workspace. -/
theorem turns_filter {names : List (Name × Nat)} (named : w.cacheNames = names)
    (disabled : (w.cacheAt number).enabled = false)
    (ordinary : ∀ step ∈ steps, step.Ordinary names number) :
    w.turns (steps.filter fun step => !step.isUse names number) =
        (w.turns steps).filter (fun turn => !turn.step.isUse names number) ∧
      (w.run (steps.filter fun step => !step.isUse names number)).2 = (w.run steps).2 := by
  induction steps generalizing w with
  | nil => exact ⟨rfl, rfl⟩
  | cons step steps ih =>
    subst named
    have others : ∀ step' ∈ steps, step'.Ordinary w.cacheNames number :=
      fun step' mem => ordinary step' (List.mem_cons_of_mem _ mem)
    rw [turns_cons, List.filter_cons, List.filter_cons]
    by_cases use : step.isUse w.cacheNames number = true
    · have idle : (w.step step).2.2 = w := step_of_isUse disabled use
      have rest := ih rfl disabled others
      have last : (w.run (step :: steps)).2 = ((w.step step).2.2.run steps).2 := rfl
      rw [if_neg (by simp [use]), if_neg (by simp [turn, use]), last, idle]
      exact rest
    · obtain ⟨cache, names⟩ := step_of_disabled disabled (ordinary step List.mem_cons_self)
      obtain ⟨turns, last⟩ := ih names (cache.symm ▸ disabled) others
      rw [if_pos (by simp [use]), if_pos (by simp [turn, use]), turns_cons, turns]
      exact ⟨rfl, last⟩

theorem outcome_of_mem_turns (disabled : (w.cacheAt number).enabled = false)
    (ordinary : ∀ step ∈ steps, step.Ordinary w.cacheNames number) {turn : Turn}
    (mem : turn ∈ w.turns steps) {call : CacheCall} (same : turn.step = .cache name call)
    (alone : ∀ source, call ≠ .merge source) :
    turn.outcome = .cached call.idleValue (w.cacheAt number).stats := by
  induction steps generalizing w with
  | nil => cases mem
  | cons step steps ih =>
    have first := ordinary step List.mem_cons_self
    rw [turns_cons] at mem
    obtain rfl | later := List.mem_cons.1 mem
    · obtain rfl : step = .cache name call := same
      obtain use | request := first
      · simp only [Step.isUse, Bool.and_eq_true, beq_iff_eq] at use
        have source : w.sourceNumber number call = some number := by
          cases call with
          | merge other => exact absurd rfl (alone other)
          | _ => rfl
        show (onCache name call w).1 = _
        rw [onCache_of_disabled disabled use.1 use.2, source]
        rfl
      · cases request
    · obtain ⟨cache, names⟩ := step_of_disabled disabled first
      have others : ∀ step' ∈ steps, step'.Ordinary w.cacheNames number :=
        fun step' mem => ordinary step' (List.mem_cons_of_mem _ mem)
      have answered := ih (cache.symm ▸ disabled) (names ▸ others) later
      rwa [cache] at answered

/-- What it means that a period in which a cache is disabled is invisible: the cache, of a name and
a number, is disabled in a workspace, and then used, and evaluated with, in some steps. -/
structure Invisible (w : Workspace) (name : Name) (number : Nat) (period : List Step) : Prop where
  /-- At each moment of the period the cache is the one that was disabled: it has the same entries
  in the same order, the same counters and the same capacity. -/
  unchanged : ∀ earlier rest, period = earlier ++ rest →
    (w.run (.cache name .disable :: earlier)).2.cacheAt number = (w.cacheAt number).disable
  /-- Every lookup misses, -/
  missed : ∀ turn ∈ w.turns (.cache name .disable :: period), ∀ other point,
    turn.step = .cache other (.lookup point) →
      turn.outcome = .cached (.point none) (w.cacheAt number).disable.stats
  /-- and no point has an output. -/
  absent : ∀ turn ∈ w.turns (.cache name .disable :: period), ∀ other point,
    turn.step = .cache other (.contains point) →
      turn.outcome = .cached (.flag false) (w.cacheAt number).disable.stats
  /-- From any moment on, answers and foreign calls are those that there were if the cache were
  then replaced by an empty one of capacity 0; only counters of caches can tell the two apart. -/
  alike : ∀ earlier rest, period = earlier ++ rest →
    ((w.run (.cache name .disable :: earlier)).2.turns rest).map Turn.plain =
      (((w.run (.cache name .disable :: earlier)).2.setCache number (.new 0)).turns rest).map
        Turn.plain
  /-- If the uses of the cache are deleted, all other turns of the period stay, -/
  others : w.turns (.cache name .disable ::
        period.filter fun step => !step.isUse w.cacheNames number) =
      (w.turns (.cache name .disable :: period)).filter fun turn =>
        !turn.step.isUse w.cacheNames number
  /-- and so does everything from the next enabling on. -/
  deleted : ∀ after,
    (w.run (.cache name .disable ::
        period.filter fun step => !step.isUse w.cacheNames number)).2.turns
          (.cache name .enable :: after) =
      (w.run (.cache name .disable :: period)).2.turns (.cache name .enable :: after)
  /-- Then the cache serves what it had before. -/
  restored : (w.run (.cache name .disable :: period ++ [.cache name .enable])).2.cacheAt number =
    (w.cacheAt number).enable

/-- Enabling and disabling reach the cache of the name. -/
theorem step_cache_eq (named : w.cacheNames.lookup name = some number) {call : CacheCall}
    (alone : ∀ source, call ≠ .merge source) :
    (w.step (.cache name call)).2.2 =
      w.setCache number (callCache (w.cacheAt number) (w.cacheAt number) call).2 := by
  show (onCache name call w).2 = _
  rw [onCache_eq, named]
  cases call with
  | merge source => exact absurd rfl (alone source)
  | _ => rfl

/-- A run that begins with disabling the cache of the name. -/
theorem begins_of_disable (named : w.cacheNames.lookup name = some number)
    (there : number < w.caches.length) :
    ∃ d : Workspace, d.cacheAt number = (w.cacheAt number).disable ∧
      d.cacheNames = w.cacheNames ∧
      (∀ steps, (w.run (.cache name .disable :: steps)).2 = (d.run steps).2) ∧
      ∀ steps, w.turns (.cache name .disable :: steps) =
        w.turn (.cache name .disable) :: d.turns steps := by
  have set : (w.step (.cache name .disable)).2.2 = w.setCache number (w.cacheAt number).disable :=
    step_cache_eq named nofun
  refine ⟨w.setCache number (w.cacheAt number).disable, ?_, rfl, fun steps => ?_,
    fun steps => ?_⟩
  · exact (cacheAt_setCache w there _ _).trans (if_pos rfl)
  · rw [← set]
    rfl
  · rw [← set]
    rfl

end Workspace

/-- **A disabled period is invisible.** Whatever has happened to a cache: once it is disabled, any
number of lookups, insertions and merges into it, and of evaluations by sessions, evaluators and
pools, change nothing about it until it is enabled again. Meanwhile it serves as an empty cache of
capacity 0 does, and without those lookups, insertions and merges all later answers are the same. -/
theorem disabled_period_invisible {w : Workspace} {name : Name} {number : Nat}
    (named : w.cacheNames.lookup name = some number) (there : number < w.caches.length)
    {period : List Step} (ordinary : ∀ step ∈ period, step.Ordinary w.cacheNames number) :
    w.Invisible name number period := by
  -- `d` is the workspace when the period begins
  obtain ⟨d, cache, names, run, opened⟩ := Workspace.begins_of_disable named there
  have disabled : (d.cacheAt number).enabled = false := by
    rw [cache]
    rfl
  rw [← names] at named ordinary
  have early : ∀ earlier rest, period = earlier ++ rest →
      (d.run earlier).2.cacheAt number = d.cacheAt number ∧
        (d.run earlier).2.cacheNames = d.cacheNames := by
    rintro earlier rest rfl
    exact Workspace.run_of_disabled disabled
      fun step mem => ordinary step (List.mem_append_left _ mem)
  have used : ∀ turn ∈ w.turns (.cache name .disable :: period), ∀ other call,
      turn.step = .cache other call → call ≠ .disable → (∀ source, call ≠ .merge source) →
        turn.outcome = .cached call.idleValue (w.cacheAt number).disable.stats := by
    intro turn mem other call same later alone
    rw [opened] at mem
    obtain rfl | mem := List.mem_cons.1 mem
    · cases same
      exact absurd rfl later
    · rw [← cache]
      exact Workspace.outcome_of_mem_turns disabled ordinary mem same alone
  obtain ⟨turns, last⟩ := Workspace.turns_filter rfl disabled ordinary
  constructor
  case unchanged =>
    intro earlier rest parts
    rw [run, (early earlier rest parts).1, cache]
  case missed => exact fun turn mem other point same => used turn mem other _ same nofun nofun
  case absent => exact fun turn mem other point same => used turn mem other _ same nofun nofun
  case alike =>
    intro earlier rest parts
    obtain ⟨kept, names⟩ := early earlier rest parts
    have idle : ((d.run earlier).2.cacheAt number).Idle := by
      rw [kept]
      exact Cache.idle_of_disabled disabled
    have idle' := Workspace.idle_setCache idle Cache.idle_new_zero
    have later : ∀ step ∈ rest, step.Ordinary (d.run earlier).2.cacheNames number := by
      rw [names]
      exact fun step mem => ordinary step (parts ▸ List.mem_append_right _ mem)
    rw [run, Workspace.turns_bare idle later, Workspace.turns_bare idle' later,
      Workspace.bare_setCache]
  case others =>
    have kept : (!(w.turn (.cache name .disable)).step.isUse d.cacheNames number) = true := by
      simp [Workspace.turn, Step.isUse, CacheCall.isUse]
    rw [opened, opened, ← names, List.filter_cons, if_pos kept, turns]
  case deleted =>
    intro after
    rw [run, run, ← names, last]
  case restored =>
    obtain ⟨kept, names⟩ := early period [] (List.append_nil _).symm
    have inside := Workspace.inside_of_disabled (kept ▸ disabled)
    have enabled := Workspace.step_cache_eq (names ▸ named)
      fun source => (nofun : CacheCall.enable ≠ .merge source)
    rw [List.cons_append, run, Workspace.run_append]
    refine (congrArg (Workspace.cacheAt · number) enabled).trans ?_
    rw [Workspace.cacheAt_setCache _ inside, if_pos rfl, kept, cache]
    rfl

/-- The evaluator and the pool of `shared`, on a cache with an entry. -/
def stocked : Workspace := { shared with caches := [(Cache.new 2).insert [⟨1⟩] [⟨1⟩, ⟨1⟩]] }

/-- Uses of that cache, a batch with its point twice, and a batch that fails. -/
def unheeded : List Step :=
  [.cache "c" (.lookup [⟨1⟩]), .evaluateBatch "e" 1 [[⟨1⟩], [⟨2⟩], [⟨1⟩]],
    .cache "c" (.insert [⟨3⟩] [⟨0⟩]), .evaluateBatch "p" 1 [[⟨1⟩], [⟨7⟩]], .cache "c" (.merge "c")]

theorem unheeded_ordinary : ∀ step ∈ unheeded, step.Ordinary stocked.cacheNames 0 := by
  simp [unheeded, stocked, shared, Workspace.new, Step.Ordinary, Step.isUse, Step.isRequest,
    CacheCall.isUse]

/-- The law at work: a known point of a batch is computed like the others, once. -/
theorem disabled_period_invisible_stocked :
    stocked.cacheNames.lookup "c" = some 0 ∧ 0 < stocked.caches.length ∧
      (∀ step ∈ unheeded, step.Ordinary stocked.cacheNames 0) ∧
      stocked.Invisible "c" 0 unheeded ∧
      ((stocked.turns (.cache "c" .disable :: unheeded)).take 3).map
        (fun turn => (turn.calls.flatMap Call.points).length) = [0, 0, 2] := by
  have named : stocked.cacheNames.lookup "c" = some 0 := rfl
  have there : 0 < stocked.caches.length := Nat.zero_lt_one
  exact ⟨named, there, unheeded_ordinary,
    disabled_period_invisible named there unheeded_ordinary, by decide⟩

end ForeignEval

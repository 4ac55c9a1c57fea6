import ForeignEval.Proofs.Command.Engine
import ForeignEval.Proofs.Command.Failure
import ForeignEval.Proofs.Workspace.Lifetime
import ForeignEval.Proofs.Workspace.Contract

/-!
# Commands give everything back

A command opens a module, binds a function of it and makes states. Many things can go wrong on the
way, and whatever does, all of it is given back in order: the states are finalized and freed, the
binding drops its handle, and then the registry, which has the only handle left, is emptied. Only
the loader can keep it from closing the library.

* **Registry** — `Registry.Complete`: nothing has been taken out of the catalog, so the catalog has
  every library that was opened; `Registry.Stuck`: those of its modules that cannot be closed.
* **Engines** — `Engine.Keeps`: the sessions of an engine have all states in their custody, and all
  calls have been into the library of the binding.
* **Bracket** — `Tidy` is a use of a binding that leaves no state behind; `beforeTakeDown` is where
  a command is when it has only the registry left, and `run_eq` says what it does then.
* **Result** — `everything_given_back`.
-/

namespace ForeignEval

open Foreign (Event StateId Trace)

/-! ## Registry -/

namespace Registry

variable {loader : Loader} {registry : Registry} {trace : Trace}

/-- The libraries that were opened are those that have been numbered. -/
theorem Owned.opened_iff {owners : List Nat} (owned : Owned loader owners registry trace)
    {library : Nat} :
    (∃ path, Event.opened library path ∈ trace) ↔ library < registry.opened := by
  rw [← List.mem_range, ← owned.numbered]
  constructor
  · rintro ⟨path, mem⟩
    exact List.mem_map_of_mem (List.mem_filterMap.2 ⟨_, mem, rfl⟩ : (library, path) ∈ _)
  · intro mem
    obtain ⟨⟨_, path⟩, there, rfl⟩ := List.mem_map.1 mem
    obtain ⟨event, mem, opening⟩ := List.mem_filterMap.1 there
    cases event with
    | called | closed | stuck => cases opening
    | opened library path =>
      cases opening
      exact ⟨path, mem⟩

/-- The catalog has every library that was opened. -/
def Complete (registry : Registry) : Prop :=
  registry.catalog.map (·.library) = List.range registry.opened

/-- Some modules are reported, all of which are in the catalog and cannot be closed. -/
def Stuck (registry : Registry) (loader : Loader) (failures : List (String × String)) : Prop :=
  failures ≠ [] ∧ ∀ failure ∈ failures, ∃ handle ∈ registry.catalog,
    failure.1 = handle.path ∧ loader.close handle.library = .error failure.2

theorem complete_new (locator : Locator) (loader : Loader) (retry : RetryPolicy) :
    (Registry.new locator loader retry).Complete := rfl

namespace Complete

variable (complete : registry.Complete)

include complete

theorem release (library : Nat) : (registry.release library trace).1.Complete := by
  unfold Complete
  rw [catalog_release, opened_release]
  exact complete

theorem load (name : String) : (registry.load name trace).2.1.Complete := by
  have loads := registry.loads_load name trace
  generalize registry.load name trace = result at loads ⊢
  cases loads with
  | unresolved | refused | known => exact complete
  | opened =>
    show List.map _ (registry.catalog ++ [_]) = List.range (registry.opened + 1)
    rw [List.map_append, show registry.catalog.map _ = _ from complete, List.range_succ]
    rfl

theorem build (id : Nat) (module function : String) :
    (Binding.build registry id module function trace).2.1.Complete := by
  have listed : (registry.load module trace).2.1.Complete := complete.load module
  have builds := Binding.builds_build registry id module function trace
  generalize Binding.build registry id module function trace = result at builds ⊢
  cases builds with
  | failed loaded | complete loaded =>
    rw [loaded] at listed
    exact listed
  | @incomplete handle _ _ _ loaded =>
    rw [loaded] at listed
    exact Complete.release listed handle.library

variable (accounted : registry.Accounted loader [] trace)

include accounted

/-- If the catalog has the only handles, each library has one and none was to be closed. -/
theorem sole : (∀ handle ∈ registry.catalog, registry.handlesOf handle.library = 1) ∧
    trace.closings = [] := by
  have owners : registry.catalog.map (·.library) ++ [] = List.range registry.opened := by
    rw [List.append_nil]
    exact complete
  have owned := accounted.owned
  rw [owners] at owned
  constructor
  · intro handle mem
    have there : handle.library ∈ List.range registry.opened := by
      rw [← show _ = List.range registry.opened from complete]
      exact List.mem_map_of_mem mem
    rw [owned.counted, List.count_eq_one_of_mem List.nodup_range there]
  · refine List.eq_nil_iff_forall_not_mem.2 fun library => ?_
    rw [← List.count_eq_zero, owned.closed, if_neg]
    rintro ⟨below, out⟩
    exact out (List.mem_range.2 below)

end Complete

namespace Accounted

variable (accounted : registry.Accounted loader [] trace)

include accounted

/-- A registry that has the only handles keeps none. -/
theorem owned_teardown :
    Owned loader [] (registry.teardown trace).2.1 (registry.teardown trace).2.2 := by
  have owned := accounted.teardown.2.owned
  rwa [catalog_teardown] at owned

/-- It is emptied without a failure if all libraries can be closed. -/
theorem emptied (closes : loader.Closes) : (registry.teardown trace).1 = .ok () := by
  have nobody : registry.catalog.filterMap (blocked loader []) = [] :=
    List.filterMap_eq_nil_iff.2 fun handle _ => blocked_of_free (closes handle.library) rfl
  rw [accounted.teardown.1, nobody]
  rfl

/-- If it fails, that is because of libraries that cannot be closed. -/
theorem stuck_of_teardown {failures : List (String × String)}
    (failed : (registry.teardown trace).1 = .error (.moduleUnload failures)) :
    registry.Stuck loader failures := by
  rw [accounted.teardown.1] at failed
  split at failed
  · cases failed
  · rename_i some
    cases failed
    constructor
    · intro none
      rw [← List.length_eq_zero_iff, List.length_mergeSort, List.length_eq_zero_iff] at none
      exact some (List.isEmpty_iff.2 none)
    · intro failure mem
      obtain ⟨handle, there, blocks⟩ := List.mem_filterMap.1 (List.mem_mergeSort.1 mem)
      obtain ⟨reason, stuck, rfl⟩ := Option.map_eq_some_iff.1 blocks
      refine ⟨handle, there, rfl, ?_⟩
      unfold reason? at stuck
      rw [if_pos List.count_nil] at stuck
      cases ended : loader.close handle.library with
      | ok =>
        rw [ended] at stuck
        cases stuck
      | error e =>
        rw [ended] at stuck
        cases stuck
        rfl

end Accounted

end Registry

namespace Command

/-! ## Engines -/

namespace Engine

/-- The sessions of an engine have all states in their custody, and since `before` all calls have
been into the library of the binding. -/
structure Keeps (binding : Binding) (before : Trace) (engine : Engine) (trace : Trace) : Prop where
  seated : ∀ session ∈ engine.sessions, session.binding = binding
  custody : Custody none engine.sessions trace
  calls : binding.Calls before trace

variable {binding : Binding} {before trace : Trace} {engine : Engine}

namespace Keeps

theorem evaluateBatch (keeps : engine.Keeps binding before trace) (batch : Sample) :
    (engine.evaluateBatch batch trace).2.1.Keeps binding before
      (engine.evaluateBatch batch trace).2.2 := by
  obtain ⟨seated, custody, calls⟩ := keeps
  cases engine with
  | evaluator e =>
    obtain rfl : e.session.binding = binding := seated e.session List.mem_cons_self
    have custody : Custody none (e.session :: []) trace := custody
    have same := (e.sameOwner_serve trace (.batch batch)).binding
    exact ⟨List.forall_mem_singleton.2 same, custody.evaluator_serve (.batch batch),
      calls.trans (e.grows_evaluateBatch trace fun _ => (Session.Admits.isIn rfl).allows rfl)⟩
  | pool p =>
    have on : p.SeatedOn binding := fun worker mem => seated _ (List.mem_map_of_mem mem)
    have custody : Custody none (p.workers.map (·.session) ++ []) trace := by
      rw [List.append_nil]
      exact custody
    have later := custody.evaluatePoolBatch batch
    rw [List.append_nil] at later
    refine ⟨List.forall_mem_map.2 (on.evaluateBatch batch trace), later, calls.trans ?_⟩
    refine p.grows_evaluateBatch trace fun worker mem chunk _ _ => ?_
    exact (Session.Admits.isIn (on worker mem)).allows rfl

theorem evaluateAgain (keeps : engine.Keeps binding before trace) (batch : Sample) (more : Nat) :
    (evaluateAgain batch more engine trace).2.1.Keeps binding before
      (Engine.evaluateAgain batch more engine trace).2.2 := by
  induction more generalizing engine trace with
  | zero => exact keeps.evaluateBatch batch
  | succ more ih =>
    have once := keeps.evaluateBatch batch
    unfold Engine.evaluateAgain
    split
    · rename_i same
      rw [same] at once
      exact ih once
    · exact once

/-- Closing an engine leaves nothing of its states. -/
theorem close (keeps : engine.Keeps binding before trace) :
    Custody none [] (engine.close trace).2 ∧ binding.Calls before (engine.close trace).2 := by
  obtain ⟨seated, custody, calls⟩ := keeps
  cases engine with
  | evaluator e =>
    obtain rfl : e.session.binding = binding := seated e.session List.mem_cons_self
    have custody : Custody none (e.session :: []) trace := custody
    exact ⟨custody.close,
      calls.trans ((Session.Admits.isIn rfl).close trace)⟩
  | pool p =>
    have custody : Custody none (p.workers.map (·.session) ++ []) trace := by
      rw [List.append_nil]
      exact custody
    exact ⟨custody.closeSessions, calls.trans
      (Pool.grows_closeSessions (fun session mem => .isIn (seated session mem)) trace)⟩

end Keeps

/-- An engine that cannot be opened leaves nothing behind. -/
theorem keeps_new (custody : Custody none [] trace) (binding : Binding) (config : Config)
    (workers : Option Nat) (schedule : Schedule) :
    match new binding config workers schedule trace with
    | (.ok engine, after) => engine.Keeps binding trace after
    | (.error _, after) => Custody none [] after ∧ binding.Calls trace after := by
  cases workers with
  | none =>
    have opened := custody.new binding
    obtain ⟨seated, calls⟩ := Session.calls_new binding trace
    unfold new Evaluator.new
    rcases made : Session.new binding trace with ⟨e | session, after⟩
    · rw [made] at opened calls
      exact ⟨opened, calls⟩
    · rw [made] at opened seated calls
      exact ⟨List.forall_mem_singleton.2 (seated session rfl), opened, calls⟩
  | some count =>
    have opened := custody.newPool binding config.workers config.newCache schedule
    obtain ⟨seated, calls⟩ := Pool.calls_new binding config.workers config.newCache schedule trace
    unfold new
    rcases made : Pool.new binding config.workers config.newCache schedule trace with
      ⟨e | pool, after⟩
    · rw [made] at opened calls
      exact ⟨opened, calls⟩
    · rw [made] at opened seated calls
      refine ⟨List.forall_mem_map.2 (seated pool rfl), ?_, calls⟩
      have owned : Custody none (pool.workers.map (·.session)) after := by
        simpa [Except.toOption] using opened
      exact owned

end Engine

/-! ## Uses of a binding -/

/-- A use of a binding that leaves no state behind, calls into the library of the binding only, and
fails because of what it does with the function. -/
structure Tidy (use : Binding → Trace → Ended × Trace) : Prop where
  back : ∀ binding trace, Custody none [] trace →
    Custody none [] (use binding trace).2 ∧ binding.Calls trace (use binding trace).2
  failure : ∀ binding trace, (use binding trace).1.FailsBy Error.OfUse

theorem tidy_describeBound (options : InfoOptions) : Tidy (describeBound options) where
  back binding trace custody := by
    have opened := custody.new binding
    obtain ⟨seated, calls⟩ := Session.calls_new binding trace
    unfold describeBound
    rcases made : Session.new binding trace with ⟨e | session, after⟩
    · rw [made] at opened calls
      exact ⟨opened, calls⟩
    · rw [made] at opened seated calls
      obtain rfl : session.binding = binding := seated session rfl
      have opened : Custody none (session :: []) after := opened
      have closed : Custody none [] (session.close after).2 := opened.close
      have all : session.binding.Calls trace (session.close after).2 :=
        calls.trans ((Session.Admits.isIn rfl).close after)
      dsimp only
      generalize session.close after = result at closed all ⊢
      obtain ⟨_ | _, later⟩ := result
      · exact ⟨closed, all⟩
      · exact ⟨closed, all⟩
  failure := ofUse_describeBound options

theorem keeps_evaluateWith {binding : Binding} {before trace : Trace} {engine : Engine}
    (keeps : engine.Keeps binding before trace) (host : Host) (options : EvalOptions) :
    (evaluateWith host options engine trace).2.1.Keeps binding before
      (evaluateWith host options engine trace).2.2 := by
  unfold evaluateWith
  cases options.batchOn host engine.info.inputDimension with
  | error failure => exact keeps
  | ok batch =>
    have again := keeps.evaluateAgain batch (options.times - 1)
    dsimp only
    generalize Engine.evaluateAgain batch (options.times - 1) engine trace = result at again ⊢
    obtain ⟨reply, later, after⟩ := result
    cases reply with
    | ok | error | panic => exact again

theorem tidy_evaluateBound (host : Host) (options : EvalOptions) (config : Config) :
    Tidy (evaluateBound host options config) where
  back binding trace custody := by
    have opened := Engine.keeps_new custody binding config options.workers host.machine.schedule
    unfold evaluateBound
    rcases made : Engine.new binding config options.workers host.machine.schedule trace with
      ⟨e | engine, after⟩
    · rw [made] at opened
      exact opened
    · rw [made] at opened
      have opened : engine.Keeps binding trace after := opened
      exact (keeps_evaluateWith opened host options).close
  failure := ofUse_evaluateBound host options config

/-! ## Bracket -/

/-- Where a command is when it has given back all but the registry: how it has ended so far, the
registry, and what has happened. -/
def beforeTakeDown (registry : Registry) (module function : String)
    (use : Binding → Trace → Ended × Trace) : Ended × Registry × Trace :=
  match Binding.build registry 1 module function [] with
  | (.error e, registry, trace) => (.failed (.error e), registry, trace)
  | (.ok binding, registry, trace) =>
    let (ended, trace) := use binding trace
    match binding.module? with
    | some handle => (ended, registry.release handle.library trace)
    | none => (ended, registry, trace)

/-- Emptying the registry is the last that a command does. -/
theorem withBinding_eq (registry : Registry) (module function : String)
    (use : Binding → Trace → Ended × Trace) :
    withBinding registry module function use =
      ((beforeTakeDown registry module function use).1.andThen
          ((beforeTakeDown registry module function use).2.1.teardown
            (beforeTakeDown registry module function use).2.2).1,
        ((beforeTakeDown registry module function use).2.1.teardown
          (beforeTakeDown registry module function use).2.2).2.2) := by
  unfold withBinding beforeTakeDown takeDown
  rcases Binding.build registry 1 module function [] with ⟨e | binding, registry, trace⟩
  · dsimp only
    cases (registry.teardown trace).1 with
    | ok | error => rfl
  · dsimp only
    cases binding.module? with
    | none | some => rfl

/-- A command has given back all but its registry, of which this is the loader. -/
structure Settled (loader : Loader) (before : Ended × Registry × Trace) : Prop where
  /-- Nothing is left of any state. -/
  custody : Custody none [] before.2.2
  /-- The catalog has the only handles. -/
  accounted : before.2.1.Accounted loader [] before.2.2
  complete : before.2.1.Complete
  failure : before.1.FailsBy fun e => e.OfSettings ∨ e.OfBinding ∨ e.OfUse

theorem settled_of_settings {e : Error} (ofSettings : e.OfSettings) (locator : Locator)
    (loader : Loader) (retry : RetryPolicy) :
    Settled loader (.failed (.error e), .new locator loader retry, []) where
  custody := .nil
  accounted := .new locator loader retry
  complete := Registry.complete_new locator loader retry
  failure := .failed (.inl ofSettings)

theorem settled_beforeTakeDown {use : Binding → Trace → Ended × Trace} (tidy : Tidy use)
    (locator : Locator) (loader : Loader) (retry : RetryPolicy) (module function : String) :
    Settled loader (beforeTakeDown (.new locator loader retry) module function use) := by
  have complete : (Binding.build (.new locator loader retry) 1 module function []).2.1.Complete :=
    (Registry.complete_new locator loader retry).build 1 module function
  have built := (Registry.Accounted.new locator loader retry).build 1 module function
  have quiet := Binding.quiet_build (.new locator loader retry) 1 module function []
  unfold beforeTakeDown
  rcases made : Binding.build (.new locator loader retry) 1 module function [] with
    ⟨e | binding, registry, trace⟩
  · rw [made] at complete built quiet
    exact ⟨Custody.nil.quiet quiet, built, complete,
      .failed (.inr (.inl (Binding.ofBinding_build (congrArg Prod.fst made))))⟩
  · rw [made] at complete built quiet
    obtain ⟨-, place, accounted⟩ := built
    obtain ⟨custody, calls⟩ := tidy.back binding trace (Custody.nil.quiet quiet)
    -- the binding's own handle, if it has one, is the only one besides that of the catalog
    have failure : (use binding trace).1.FailsBy fun e => e.OfSettings ∨ e.OfBinding ∨ e.OfUse :=
      (tidy.failure binding trace).mono fun _ ofUse => .inr (.inr ofUse)
    unfold Binding.Calls at calls
    rw [place] at calls
    dsimp only
    cases housed : binding.module? with
    | none =>
      rw [housed] at accounted calls
      exact ⟨custody, accounted.calls (by rintro _ ⟨⟩) calls, complete, failure⟩
    | some handle =>
      rw [housed] at accounted calls
      have held : registry.Accounted loader [handle.library] trace := accounted
      have used : registry.Accounted loader [handle.library] (use binding trace).2 :=
        held.calls (by rintro _ ⟨⟩; exact List.mem_cons_self) calls
      have released := registry.quiet_release (use binding trace).2 handle.library
      exact ⟨custody.quiet released, used.release, complete.release handle.library, failure⟩

/-- Where a command is when it has given back all but its registry. A command whose configuration
cannot be read has not come to load anything. -/
def beforeLast (host : Host) : Command → Ended × Registry × Trace
  | .info options =>
    match Config.ofEnvironment host.machine.processors host.environment with
    | .error e =>
      (.failed (.error e), host.registry options.searchDirectories RetryPolicy.standard, [])
    | .ok config =>
      beforeTakeDown (host.registry options.searchDirectories config.retry) options.module
        options.function (describeBound options)
  | .eval options =>
    match options.configOn host with
    | .error e =>
      (.failed (.error e), host.registry options.searchDirectories RetryPolicy.standard, [])
    | .ok config =>
      beforeTakeDown (host.registry options.searchDirectories config.retry) options.module
        options.function (evaluateBound host options config)

theorem run_eq (host : Host) (command : Command) :
    run host command =
      ((beforeLast host command).1.andThen
          ((beforeLast host command).2.1.teardown (beforeLast host command).2.2).1,
        ((beforeLast host command).2.1.teardown (beforeLast host command).2.2).2.2) := by
  cases command with
  | info options =>
    unfold run describe beforeLast
    dsimp only
    cases Config.ofEnvironment host.machine.processors host.environment with
    | error e => rfl
    | ok config => exact withBinding_eq _ _ _ _
  | eval options =>
    unfold run evaluate beforeLast
    dsimp only
    cases options.configOn host with
    | error e => rfl
    | ok config => exact withBinding_eq _ _ _ _

theorem settled_beforeLast (host : Host) (command : Command) :
    Settled host.loader (beforeLast host command) := by
  cases command with
  | info options =>
    unfold beforeLast
    dsimp only
    cases configured : Config.ofEnvironment host.machine.processors host.environment with
    | error e => exact settled_of_settings (Config.ofSettings_ofSettings e configured) _ _ _
    | ok config => exact settled_beforeTakeDown (tidy_describeBound options) _ _ _ _ _
  | eval options =>
    unfold beforeLast
    dsimp only
    cases configured : options.configOn host with
    | error e => exact settled_of_settings (EvalOptions.ofSettings_configOn configured) _ _ _
    | ok config => exact settled_beforeTakeDown (tidy_evaluateBound host options config) _ _ _ _ _

/-! ## Result -/

/-- A command that was somewhere with only its registry left and gave everything back. -/
structure GivesBack (loader : Loader) (before : Ended × Registry × Trace)
    (result : Ended × Trace) : Prop where
  /-- What is left to do is to empty the registry. -/
  last : result = (before.1.andThen (before.2.1.teardown before.2.2).1,
    (before.2.1.teardown before.2.2).2.2)
  /-- By then every state that was made has been finalized once and then freed once. -/
  released : before.2.2.Released
  /-- Nobody has tried to close a library by then. -/
  unclosed : before.2.2.closings = []
  /-- The registry has the only handle of each of its modules. -/
  sole : ∀ handle ∈ before.2.1.catalog, before.2.1.handlesOf handle.library = 1
  /-- So it is emptied without a failure if all libraries can be closed, -/
  emptied (closes : loader.Closes) : (before.2.1.teardown before.2.2).1 = .ok ()
  /-- and without a call in any case. -/
  quiet : before.2.2.Quiet result.2
  /-- Every library that was opened is to be closed, and only once. -/
  tried : ∀ library path, Event.opened library path ∈ result.2 →
    result.2.closings.count library = 1
  /-- It is closed if it can be. -/
  closed (library : Nat) (closes : loader.close library = .ok ()) :
    ∀ path, Event.opened library path ∈ result.2 → result.2.count (.closed library) = 1
  /-- No library is to be closed that was not opened. -/
  opened : ∀ library ∈ result.2.closings, ∃ path, Event.opened library path ∈ result.2
  /-- All calls into a library are made after it was opened and before it is to be closed. -/
  sheltered : result.2.Sheltered
  /-- If the command fails because of modules that stay open, that is because they cannot be
  closed. -/
  stuck : ∀ failures, result.1.failure = some (.error (.moduleUnload failures)) →
    before.2.1.Stuck loader failures
  /-- So it does not if all libraries can be closed. -/
  failure (closes : loader.Closes) :
    ∀ failures, result.1.failure ≠ some (.error (.moduleUnload failures))

theorem Settled.givesBack {loader : Loader} {before : Ended × Registry × Trace}
    (settled : Settled loader before) {result : Ended × Trace} (last : result = (before.1.andThen
      (before.2.1.teardown before.2.2).1, (before.2.1.teardown before.2.2).2.2)) :
    GivesBack loader before result := by
  obtain ⟨ended, registry, worked⟩ := before
  obtain ⟨custody, accounted, complete, failure⟩ := settled
  obtain ⟨sole, unclosed⟩ := complete.sole accounted
  have owned := accounted.owned_teardown
  have stuck : ∀ failures, (ended.andThen (registry.teardown worked).1).failure =
      some (.error (.moduleUnload failures)) → registry.Stuck loader failures := by
    intro failures failed
    rcases Ended.failure_andThen failed with first | ⟨e, emptied, same⟩
    · -- no other part of a command complains of modules
      rcases failure _ first with never | never | never
      · exact never.elim
      · exact never.elim
      · exact never.elim
    · cases same
      exact accounted.stuck_of_teardown emptied
  have tried : ∀ library path, Event.opened library path ∈ (registry.teardown worked).2.2 →
      (registry.teardown worked).2.2.closings.count library = 1 := by
    intro library path mem
    rw [owned.closed, if_pos ⟨owned.opened_iff.1 ⟨path, mem⟩, List.not_mem_nil⟩]
  subst last
  exact {
    last := rfl
    released := Trace.released_of_settled fun id => custody.settled id List.not_mem_nil
    unclosed := unclosed
    sole := sole
    emptied := accounted.emptied
    quiet := registry.quiet_teardown worked
    tried := tried
    closed := fun library closes path mem =>
      (owned.count_closed closes).trans (tried library path mem)
    opened := fun library mem => by
      -- a library with a number that was never given out was never to be closed
      rw [owned.opened_iff]
      by_contra above
      have never := owned.closed library
      rw [if_neg fun both => above both.1, List.count_eq_zero] at never
      exact never mem
    sheltered := owned.sheltered
    stuck := stuck
    failure := fun closes failures failed => by
      obtain ⟨some, reasons⟩ := stuck failures failed
      obtain ⟨failure, mem⟩ := List.exists_mem_of_ne_nil failures some
      obtain ⟨handle, -, -, ended⟩ := reasons failure mem
      rw [closes handle.library] at ended
      cases ended }

/-- **Commands give everything back.** Whatever the command, the files, the variables and the input
are, whatever the module holds and its functions do, and wherever the command fails, if it does: by
the time that only the registry is left, every state that was made has been finalized and freed,
and no library has been closed. The registry then has the library closed if one was opened, since it
has the only handle of it, so the command fails because of a module only if that cannot be
closed. -/
theorem everything_given_back (host : Host) (command : Command) :
    GivesBack host.loader (beforeLast host command) (run host command) :=
  (settled_beforeLast host command).givesBack (run_eq host command)

end Command

end ForeignEval

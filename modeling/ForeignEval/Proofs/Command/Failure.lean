import ForeignEval.Command.Run
import ForeignEval.Proofs.Foreign.Resolution
import ForeignEval.Proofs.Pool.Failure
import ForeignEval.Proofs.Registry.Loading
import ForeignEval.Proofs.Session.Progress

/-!
# Why commands fail

An error tells which part of a command failed: reading the configuration, finding and binding the
function, or using it. Only the registry complains of modules that it could not unload, so an error
of one of the other parts is never such a complaint.

* **Use** — `Error.OfUse` are the errors of making, asking, evaluating and ending states:
  `Session.ofUse_evaluateBatch`, `Pool.ofUse_evaluateBatch`, `Engine.ofUse_evaluateAgain`.
* **Settings** — `Error.OfSettings` are the errors of a configuration:
  `EvalOptions.ofSettings_configOn`.
* **Binding** — `Error.OfBinding` are the errors of a binding that cannot be built:
  `Binding.ofBinding_build`.
-/

namespace ForeignEval

open Foreign (Trace)

/-! ## Kinds of errors -/

namespace Error

/-- Whether an error comes of using a function that is bound. -/
def OfUse : Error → Prop
  | .stateCreation _ _ | .dimensionMismatch _ _ _ _ | .foreignExecution _ _ _ _ | .internal _ _
  | .internalFrom _ _ _ | .sessionUnusable _ _ => True
  | _ => False

/-- Whether an error comes of reading a configuration. -/
def OfSettings : Error → Prop
  | .invalidConfig _ _ | .io _ => True
  | _ => False

/-- Whether an error comes of finding a module and binding a function of it. -/
def OfBinding : Error → Prop
  | .moduleNotFound _ _ | .moduleLoad _ _ | .retryExhausted _ _ _ | .bindingIncomplete _ _ _ => True
  | _ => False

end Error

variable {trace : Trace} {e : Error}

/-! ## Sessions -/

namespace Session

variable {session : Session}

theorem ofUse_shutDown {binding : Binding} {state : State}
    (failed : (shutDown binding state trace).1 = .error e) : e.OfUse := by
  unfold shutDown Binding.finalize Binding.deleteState at failed
  by_cases own : binding.owns state = true
  · simp only [if_pos own] at failed
    split at failed
    · cases failed
    · cases failed
      trivial
  · simp only [if_neg own] at failed
    cases failed
    trivial

theorem ofUse_new {binding : Binding} (failed : (new binding trace).1 = .error e) : e.OfUse := by
  rcases new_cases binding trace with ⟨_, made⟩ | ⟨_, _, made⟩ | ⟨_, made⟩
  · rw [made] at failed
    cases failed
    trivial
  · rw [made] at failed
    cases failed
    trivial
  · rw [made] at failed
    cases failed

theorem ofUse_prepare (failed : (session.prepare trace).1 = .error e) : e.OfUse := by
  unfold prepare at failed
  split at failed
  · cases failed
  · cases failed
    trivial
  · cases failed
    trivial
  · split at failed
    · cases failed
    · cases failed
      trivial
    · cases failed

theorem ofUse_evaluateWith {α : Type} {points : Nat} {call : Session → Trace → Reply α × Trace}
    (failed : (session.evaluateWith points call trace).1 = .error e) : e.OfUse := by
  have preparing {e : Error} (failed : (session.prepare trace).1 = .error e) : e.OfUse :=
    session.ofUse_prepare failed
  unfold evaluateWith at failed
  generalize session.prepare trace = result at preparing failed
  obtain ⟨reply, ready, later⟩ := result
  cases reply with
  | error e' =>
    cases failed
    exact preparing rfl
  | panic text => cases failed
  | ok =>
    dsimp only at failed
    generalize (call ready later).1 = answer at failed
    cases answer with
    | ok | panic => cases failed
    | error e' =>
      cases failed
      trivial

theorem ofUse_checkBatchOf {function : String} {info : FunctionInfo} {batch : Sample}
    (wrong : checkBatchOf function info batch = some e) : e.OfUse := by
  unfold checkBatchOf at wrong
  split at wrong
  · cases wrong
  · cases wrong
    trivial

theorem ofUse_evaluateBatch {batch : Sample}
    (failed : (session.evaluateBatch batch trace).1 = .error e) : e.OfUse := by
  unfold evaluateBatch at failed
  split at failed
  · rename_i wrong
    cases failed
    exact ofUse_checkBatchOf wrong
  · split at failed
    · cases failed
    · exact ofUse_evaluateWith (Reply.map_eq_error_iff.1 failed)

end Session

/-! ## Evaluators and pools -/

theorem Evaluator.ofUse_evaluateBatch {evaluator : Evaluator} {batch : Sample}
    (failed : (evaluator.evaluateBatch batch trace).1 = .error e) : e.OfUse := by
  have evaluating {e : Error} (failed : (evaluator.session.evaluateBatch
      (Plan.make batch evaluator.cache).1.unknown trace).1 = .error e) : e.OfUse :=
    evaluator.session.ofUse_evaluateBatch failed
  unfold evaluateBatch at failed
  cases checked : evaluator.session.checkBatch batch with
  | some e' =>
    rw [checked] at failed
    cases failed
    exact Session.ofUse_checkBatchOf checked
  | none =>
    rw [checked] at failed
    dsimp only at failed
    generalize evaluator.session.evaluateBatch (Plan.make batch evaluator.cache).1.unknown trace =
      result at evaluating failed
    obtain ⟨reply, later, after⟩ := result
    cases reply with
    | panic text => cases failed
    | error e' =>
      cases failed
      exact evaluating rfl
    | ok outputs =>
      obtain ⟨-, message, rfl⟩ := Plan.assemble_failed (Reply.ofExcept_eq_error_iff.1 failed)
      trivial

namespace Pool

theorem ofUse_closeSessions {sessions : List Session}
    (failed : (closeSessions sessions trace).1 = .error e) : e.OfUse := by
  induction sessions generalizing trace with
  | nil => cases failed
  | cons session sessions ih =>
    unfold closeSessions Session.close at failed
    cases closed : (Session.shutDown session.binding session.state trace).1 with
    | error e' =>
      simp only [closed] at failed
      cases failed
      exact Session.ofUse_shutDown closed
    | ok =>
      simp only [closed] at failed
      exact ih failed

theorem ofUse_openSessions {binding : Binding} {count : Nat}
    (failed : (openSessions binding count trace).2.1 = some e) : e.OfUse := by
  induction count generalizing trace with
  | zero => cases failed
  | succ count ih =>
    unfold openSessions at failed
    rcases made : Session.new binding trace with ⟨e' | session, after⟩
    · rw [made] at failed
      cases failed
      exact Session.ofUse_new (congrArg Prod.fst made)
    · rw [made] at failed
      exact ih failed

theorem ofUse_new {binding : Binding} {workers : Nat} {cache : Cache} {schedule : Schedule}
    (failed : (new binding workers cache schedule trace).1 = .error e) : e.OfUse := by
  unfold new at failed
  rcases opened : openSessions binding (max workers 1) trace with ⟨sessions, _ | e', after⟩
  · rw [opened] at failed
    cases failed
  · rw [opened] at failed
    cases failed
    exact ofUse_openSessions (congrArg (·.2.1) opened)

theorem ofUse_callsOf {function : String} {workers : List Worker}
    (failed : callsOf function workers = .error e) : e.OfUse := by
  induction workers with
  | nil => cases failed
  | cons worker workers ih =>
    unfold callsOf at failed
    split at failed
    · cases failed
      trivial
    · cases others : callsOf function workers with
      | error e' =>
        rw [others] at failed
        cases failed
        exact ih others
      | ok count =>
        rw [others] at failed
        cases failed

theorem settles_ofUse (function : String) (jobs : List Job) :
    Settles function (fun _ outcome => ∀ e, outcome.reply = .error e → e.OfUse) jobs where
  evaluated job _ trace := by
    unfold Job.evaluate
    split
    · rintro _ ⟨⟩
      trivial
    · exact fun e => Session.ofUse_evaluateBatch
  givenUp _ _ _ _ _ _ _ _ error := (nomatch error)

theorem ofUse_evaluateBatch {pool : Pool} {batch : Sample}
    (failed : (pool.evaluateBatch batch trace).1 = .error e) : e.OfUse := by
  by_cases declared : batch.dimension = pool.info.inputDimension
  · rw [evaluateBatch_eq declared] at failed
    cases collected : collect (Plan.make batch pool.cache).1.unknown
        (pool.chunksFor (Plan.make batch pool.cache).1.unknown)
        (pool.evaluateUnknown batch trace).1 with
    | panic text =>
      rw [collected] at failed
      cases failed
    | ok fresh =>
      rw [collected] at failed
      obtain ⟨-, message, rfl⟩ := Plan.assemble_failed (Reply.ofExcept_eq_error_iff.1 failed)
      trivial
    | error e' =>
      rw [collected] at failed
      cases failed
      obtain ⟨outcome, mem, replied⟩ := exists_of_collect_error collected
      obtain ⟨job, -, fine⟩ := exists_job
        (forall₂_evaluateJobs (settles_ofUse pool.function _) pool.schedule trace) mem
      exact fine e replied
  · rw [evaluateBatch_of_wrong declared] at failed
    cases failed
    trivial

end Pool

/-! ## Settings -/

/-- One operation after another fails by an error of a kind if each of them does. -/
theorem forall_error_bind {α β : Type} {kind : Error → Prop} {first : Except Error α}
    {next : α → Except Error β} (here : ∀ e, first = .error e → kind e)
    (after : ∀ value e, next value = .error e → kind e) (e : Error)
    (failed : (first >>= next) = .error e) : kind e := by
  cases first with
  | error e' =>
    cases failed
    exact here e rfl
  | ok value => exact after value e failed

namespace Config

variable {source : Settings} {setting : Setting}

theorem ofSettings_numberSetting {bound : Nat} (e : Error)
    (failed : numberSetting source setting bound = .error e) : e.OfSettings := by
  unfold numberSetting at failed
  split at failed
  · cases failed
  · split at failed
    · cases failed
    · cases failed
      trivial

theorem ofSettings_truthSetting (e : Error) (failed : truthSetting source setting = .error e) :
    e.OfSettings := by
  unfold truthSetting at failed
  split at failed
  · cases failed
  · split at failed
    · cases failed
    · cases failed
      trivial

theorem ofSettings_workersSetting (e : Error) (failed : workersSetting source = .error e) :
    e.OfSettings := by
  unfold workersSetting at failed
  split at failed
  · cases failed
    trivial
  · exact ofSettings_numberSetting e failed

theorem ofSettings_ofSettings {processors : Option Processors} (e : Error)
    (failed : ofSettings processors source = .error e) : e.OfSettings := by
  revert e
  unfold ofSettings
  refine forall_error_bind ofSettings_numberSetting fun size => ?_
  refine forall_error_bind ofSettings_truthSetting fun enabled => ?_
  refine forall_error_bind ofSettings_numberSetting fun attempts => ?_
  refine forall_error_bind ofSettings_numberSetting fun wait => ?_
  refine forall_error_bind ofSettings_numberSetting fun backoff => ?_
  refine forall_error_bind ofSettings_numberSetting fun start => ?_
  exact forall_error_bind ofSettings_workersSetting fun workers e failed => (nomatch failed)

theorem ofSettings_ofFile {processors : Option Processors} {path : String}
    {content : Except Files.Fault String} (e : Error)
    (failed : ofFile processors path content = .error e) : e.OfSettings := by
  unfold ofFile ofJson at failed
  split at failed
  · split at failed
    · cases failed
    · cases failed
      trivial
  · cases failed
    trivial

end Config

/-! ## Bindings -/

theorem Binding.ofBinding_build {registry : Registry} {id : Nat} {module function : String}
    (failed : (build registry id module function trace).1 = .error e) : e.OfBinding := by
  have builds := builds_build registry id module function trace
  generalize build registry id module function trace = result at builds failed
  cases builds with
  | failed unloaded =>
    cases failed
    obtain ⟨⟨searched, rfl⟩ | ⟨attempts, fault, rfl⟩ | ⟨path, reason, rfl⟩, -⟩ :=
      Registry.load_failed (congrArg Prod.fst unloaded)
    · trivial
    · trivial
    · trivial
  | incomplete =>
    cases failed
    trivial
  | complete => cases failed

namespace Command

/-! ## Engines -/

namespace Engine

theorem ofUse_new {binding : Binding} {config : Config} {workers : Option Nat}
    {schedule : Schedule} (failed : (new binding config workers schedule trace).1 = .error e) :
    e.OfUse := by
  cases workers with
  | some count =>
    cases opened : (Pool.new binding config.workers config.newCache schedule trace).1 with
    | error e' =>
      simp only [new, opened] at failed
      cases failed
      exact Pool.ofUse_new opened
    | ok pool =>
      simp only [new, opened] at failed
      cases failed
  | none =>
    rcases made : Session.new binding trace with ⟨e' | session, after⟩
    · simp only [new, Evaluator.new, made] at failed
      cases failed
      exact Session.ofUse_new (congrArg Prod.fst made)
    · simp only [new, Evaluator.new, made] at failed
      cases failed

theorem ofUse_evaluateBatch {engine : Engine} {batch : Sample}
    (failed : (engine.evaluateBatch batch trace).1 = .error e) : e.OfUse := by
  cases engine with
  | evaluator evaluator => exact evaluator.ofUse_evaluateBatch failed
  | pool pool => exact pool.ofUse_evaluateBatch failed

theorem ofUse_evaluateAgain {engine : Engine} {batch : Sample} {more : Nat}
    (failed : (evaluateAgain batch more engine trace).1 = .error e) : e.OfUse := by
  induction more generalizing engine trace with
  | zero => exact ofUse_evaluateBatch failed
  | succ more ih =>
    unfold evaluateAgain at failed
    split at failed
    · exact ih failed
    · exact ofUse_evaluateBatch failed

theorem ofUse_calls {engine : Engine} (failed : engine.calls = .error e) : e.OfUse := by
  cases engine with
  | evaluator evaluator => cases failed
  | pool pool => exact Pool.ofUse_callsOf failed

theorem ofUse_close {engine : Engine} (failed : (engine.close trace).1 = .error e) : e.OfUse := by
  cases engine with
  | evaluator evaluator => exact Session.ofUse_shutDown failed
  | pool pool => exact Pool.ofUse_closeSessions failed

end Engine

/-! ## Commands -/

/-- A command fails by what it failed by before the last operation, or else by that. -/
theorem Ended.failure_andThen {ended : Ended} {result : Except Error Unit} {failure : Failure}
    (failed : (ended.andThen result).failure = some failure) :
    ended.failure = some failure ∨ ∃ e, result = .error e ∧ failure = .error e := by
  cases result with
  | ok => exact .inl failed
  | error e =>
    rcases Option.or_eq_some_iff.1 failed with first | ⟨-, last⟩
    · exact .inl first
    · cases last
      exact .inr ⟨e, rfl, rfl⟩

/-- If a command failed by an error of the library, the error is of a kind. -/
def Ended.FailsBy (kind : Error → Prop) (ended : Ended) : Prop :=
  ∀ e, ended.failure = some (.error e) → kind e

namespace Ended.FailsBy

variable {kind other : Error → Prop} {ended : Ended}

theorem mono (fails : ended.FailsBy kind) (weaker : ∀ e, kind e → other e) :
    ended.FailsBy other :=
  fun e failed => weaker e (fails e failed)

theorem failed (here : kind e) : (Ended.failed (.error e)).FailsBy kind := by
  rintro _ ⟨⟩
  exact here

theorem andThen (fails : ended.FailsBy kind) {result : Except Error Unit}
    (later : ∀ e, result = .error e → kind e) : (ended.andThen result).FailsBy kind := by
  intro e failed
  rcases failure_andThen failed with first | ⟨e', last, same⟩
  · exact fails e first
  · cases same
    exact later e last

end Ended.FailsBy

/-- What is wrong with the input is no error of the library. -/
theorem EvalOptions.batchOn_ne_error {host : Host} {options : EvalOptions} {dimension : Nat} :
    options.batchOn host dimension ≠ .error (.error e) := by
  intro failed
  unfold batchOn batchOf at failed
  repeat' split at failed
  all_goals cases failed

theorem EvalOptions.ofSettings_configOn {host : Host} {options : EvalOptions}
    (failed : options.configOn host = .error e) : e.OfSettings := by
  have rest {config : Config} {e : Error} (never : (pure config : Except Error Config) = .error e) :
      e.OfSettings := by
    cases never
  unfold configOn at failed
  cases file : options.config with
  | some path =>
    rw [file] at failed
    exact forall_error_bind Config.ofSettings_ofFile (fun _ _ => rest) e failed
  | none =>
    rw [file] at failed
    exact forall_error_bind Config.ofSettings_ofSettings (fun _ _ => rest) e failed

theorem ofUse_describeBound (options : InfoOptions) (binding : Binding) (trace : Trace) :
    (describeBound options binding trace).1.FailsBy Error.OfUse := by
  unfold describeBound
  rcases made : Session.new binding trace with ⟨e | session, opened⟩
  · exact .failed (Session.ofUse_new (congrArg Prod.fst made))
  · dsimp only
    rcases closed : session.close opened with ⟨e | _, after⟩
    · exact .failed (Session.ofUse_shutDown (congrArg Prod.fst closed))
    · exact fun _ failed => (nomatch failed)

theorem ofUse_evaluateWith (host : Host) (options : EvalOptions) (engine : Engine)
    (trace : Trace) : (evaluateWith host options engine trace).1.FailsBy Error.OfUse := by
  unfold evaluateWith
  cases read : options.batchOn host engine.info.inputDimension with
  | error failure =>
    rintro e ⟨⟩
    exact absurd read EvalOptions.batchOn_ne_error
  | ok batch =>
    dsimp only
    rcases again : Engine.evaluateAgain batch (options.times - 1) engine trace with
      ⟨output | e | text, later, after⟩
    · dsimp only
      unfold evaluated
      cases counted : later.calls with
      | error e =>
        rintro _ ⟨⟩
        exact Engine.ofUse_calls counted
      | ok => exact fun _ failed => (nomatch failed)
    · exact .failed (Engine.ofUse_evaluateAgain (congrArg Prod.fst again))
    · exact fun _ failed => (nomatch failed)

theorem ofUse_evaluateBound (host : Host) (options : EvalOptions) (config : Config)
    (binding : Binding) (trace : Trace) :
    (evaluateBound host options config binding trace).1.FailsBy Error.OfUse := by
  unfold evaluateBound
  rcases made : Engine.new binding config options.workers host.machine.schedule trace with
    ⟨e | engine, opened⟩
  · exact .failed (Engine.ofUse_new (congrArg Prod.fst made))
  · exact (ofUse_evaluateWith host options engine opened).andThen fun e => Engine.ofUse_close

end Command

end ForeignEval

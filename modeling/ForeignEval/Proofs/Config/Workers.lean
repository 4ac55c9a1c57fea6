import ForeignEval.Proofs.Config.Agreement
import ForeignEval.Proofs.Config.Fields

/-!
# How many workers a configuration has

A configuration comes from somewhere and may then be changed. Only a file can make one without a
worker: it is taken at its word, where settings that ask for no worker are refused, a change to no
worker counts as one, and a machine has a processor at least.

* **Ways** — `Config.Origin`: where configurations come from; `Config.Change`: what may be done to
  them.
* **Changes** — `Config.workers_changed_eq_zero_iff`, by induction on the changes.
* **Result** — `Config.workers_missing_only_by_files`.
-/

namespace ForeignEval.Config

open Files (Fault)
open Json (Document)

/-! ## Ways -/

/-- Where a configuration comes from. -/
inductive Origin where
  /-- It has the standard values. -/
  | standard
  /-- From a source of settings. -/
  | settings (source : Settings)
  /-- From the variables of an environment. -/
  | environment (held : Environment)
  /-- From a file, by the outcome of reading the file's text. -/
  | file (path : String) (content : Except Fault String)

/-- What comes from there on a machine with so many processors. -/
def Origin.outcome (processors : Option Processors) : Origin → Except Error Config
  | .standard => .ok (Config.standard processors)
  | .settings source => ofSettings processors source
  | .environment held => ofEnvironment processors held
  | .file path content => ofFile processors path content

/-- The settings that are read there, if any are. -/
def Origin.source? : Origin → Option Settings
  | .settings source => some source
  | .environment held => some (.ofEnvironment standardPrefix held)
  | .standard | .file _ _ => none

/-- A change of a configuration. -/
inductive Change where
  | cacheMaxSize (size : Nat)
  | cacheEnabled (enabled : Bool)
  | retry (policy : RetryPolicy)
  /-- Of the number of workers. -/
  | workers (count : Nat)

/-- The configuration after a change. -/
def apply (config : Config) : Change → Config
  | .cacheMaxSize size => config.withCacheMaxSize size
  | .cacheEnabled enabled => config.withCacheEnabled enabled
  | .retry policy => config.withRetry policy
  | .workers count => config.withWorkers count

/-- The configuration after some changes, one after the other. -/
def changed (config : Config) (changes : List Change) : Config := changes.foldl apply config

/-- A source of settings asks for no worker: there is a zero amid white space. -/
def AsksForNone (source : Settings) : Prop :=
  ∃ raw core, source Setting.parallelWorkers.key = some raw ∧ Text.Amid raw.toList core ∧
    Text.Numeral core 0

variable {processors : Option Processors} {source : Settings} {config : Config}

/-! ## Changes -/

/-- One change: the workers stay as they are, or there is one at least. -/
theorem workers_apply_eq_zero_iff (config : Config) (change : Change) :
    (config.apply change).workers = 0 ↔ config.workers = 0 ∧ ∀ count, change ≠ .workers count := by
  cases change with
  | cacheMaxSize size => exact ⟨fun none => ⟨none, nofun⟩, And.left⟩
  | cacheEnabled enabled => exact ⟨fun none => ⟨none, nofun⟩, And.left⟩
  | retry policy => exact ⟨fun none => ⟨none, nofun⟩, And.left⟩
  | workers count =>
    show max count 1 = 0 ↔ _
    constructor
    · intro none
      omega
    · rintro ⟨-, other⟩
      exact absurd rfl (other count)

/-- Changes leave a configuration without a worker only if it was so before and none of them is one
of the workers. -/
theorem workers_changed_eq_zero_iff (config : Config) (changes : List Change) :
    (config.changed changes).workers = 0 ↔
      config.workers = 0 ∧ ∀ count, Change.workers count ∉ changes := by
  unfold changed
  induction changes generalizing config with
  | nil => simp
  | cons change changes ih =>
    rw [List.foldl_cons, ih, workers_apply_eq_zero_iff, and_assoc]
    refine and_congr_right fun _ => ?_
    rw [← forall_and]
    refine forall_congr' fun count => ?_
    rw [List.mem_cons, not_or, ne_comm]

/-! ## Settings -/

/-- Settings define configurations with a worker. -/
theorem workers_ofSettings_ne_zero (defined : ofSettings processors source = .ok config) :
    config.workers ≠ 0 := by
  have follows := ofSettings_follows defined .parallelWorkers
  unfold Follows at follows
  cases present : source Setting.parallelWorkers.key with
  | none =>
    rw [present] at follows
    have usual : config.workers = standardWorkers processors := Setting.Value.number.inj follows
    have positive := standardWorkers_pos processors
    omega
  | some raw =>
    rw [present] at follows
    intro none
    exact follows.1.busy rfl (congrArg Setting.Value.number none)

/-- A zero means nothing as the number of workers. -/
theorem AsksForNone.offends (asks : AsksForNone source) :
    Setting.parallelWorkers.Offends source := by
  obtain ⟨raw, core, present, amid, zero⟩ := asks
  refine ⟨raw, present, ?_⟩
  rintro ⟨value, means⟩
  obtain ⟨admits, spelled⟩ := Setting.means_iff.1 means
  rw [Text.trimmed_of_amid zero.isBlank_eq_false amid] at spelled
  cases spelled with
  | number numeral =>
    rw [numeral.unique zero] at admits
    exact admits.busy rfl rfl
  | truth value => exact absurd admits.takes nofun

theorem Origin.outcome_eq_ofSettings {origin : Origin} (read : origin.source? = some source) :
    origin.outcome processors = ofSettings processors source := by
  cases origin with
  | settings source' => exact congrArg (ofSettings processors) (Option.some.inj read)
  | environment held => exact congrArg (ofSettings processors) (Option.some.inj read)
  | standard => cases read
  | file path content => cases read

/-- Settings that ask for no worker are refused. -/
theorem AsksForNone.refused (asks : AsksForNone source) :
    ∃ key reason, ofSettings processors source = .error (.invalidConfig key reason) := by
  rcases ofSettings_ends processors source with ⟨clean, -⟩ | ⟨setting, reason, -, refused⟩
  · exact absurd asks.offends (clean _ (mem_all _))
  · exact ⟨setting.key, reason, refused⟩

/-- Only a file makes a configuration without a worker. -/
theorem Origin.eq_file_of_workers_eq_zero {origin : Origin}
    (obtained : origin.outcome processors = .ok config) (none : config.workers = 0) :
    ∃ path text, origin = .file path (.ok text) := by
  cases origin with
  | standard =>
    have usual : Config.standard processors = config := Except.ok.inj obtained
    subst usual
    exact absurd none (Nat.ne_zero_of_lt (standardWorkers_pos processors))
  | settings source =>
    have defined : ofSettings processors source = .ok config := obtained
    exact absurd none (workers_ofSettings_ne_zero defined)
  | environment held =>
    have defined : ofSettings processors (.ofEnvironment standardPrefix held) = .ok config :=
      obtained
    exact absurd none (workers_ofSettings_ne_zero defined)
  | file path content =>
    cases content with
    | error fault =>
      have refused : Except.error (Error.io fault) = Except.ok config := obtained
      cases refused
    | ok text => exact ⟨path, text, rfl⟩

/-! ## Files -/

/-- The number of workers that a file shows is the one of its configuration, zero as well. -/
theorem workers_ofFile_of_shownBy {choices : Choices} {document : Document} {text : String} {n : Nat}
    (shown : choices.ShownBy document) (isText : document.IsText text) (fit : choices.Fit)
    (chosen : choices.number? .parallelWorkers = some n) (path : String) :
    ∃ config, ofFile processors path (.ok text) = .ok config ∧ config.workers = n := by
  rcases Choices.ofFile_of_shownBy shown isText processors path with ⟨-, defined⟩ | ⟨unfit, -⟩
  · refine ⟨choices.config processors, defined, ?_⟩
    show (choices.number? .parallelWorkers).getD (standard processors).workers = n
    rw [chosen]
    rfl
  · exact absurd fit unfit

/-! ## Result -/

/-- **Only files make configurations without a worker.** On a machine with any number of processors,
a configuration that comes from anywhere and was then changed in any way has no worker exactly if it
comes from a file, has none from the start, and no change was one of the workers. Settings that ask
for no worker are refused; a file that shows a number of workers, and other values that fit, is taken
at its word even if that number is zero. -/
theorem workers_missing_only_by_files (processors : Option Processors) (origin : Origin)
    (changes : List Change) :
    (∀ config, origin.outcome processors = .ok config →
      ((config.changed changes).workers = 0 ↔
        (∃ path text, origin = .file path (.ok text)) ∧ config.workers = 0 ∧
          ∀ count, Change.workers count ∉ changes)) ∧
    (∀ source, origin.source? = some source → AsksForNone source →
      ∃ key reason, origin.outcome processors = .error (.invalidConfig key reason)) ∧
    ∀ (choices : Choices) (document : Document) (path text : String) (n : Nat),
      origin = .file path (.ok text) → choices.ShownBy document → document.IsText text →
        choices.Fit → choices.number? .parallelWorkers = some n →
          ∃ config, origin.outcome processors = .ok config ∧ config.workers = n := by
  refine ⟨?_, ?_, ?_⟩
  · intro config obtained
    rw [workers_changed_eq_zero_iff]
    constructor
    · rintro ⟨none, others⟩
      exact ⟨Origin.eq_file_of_workers_eq_zero obtained none, none, others⟩
    · exact And.right
  · intro source read asks
    rw [Origin.outcome_eq_ofSettings read]
    exact asks.refused
  · intro choices document path text n same shown isText fit chosen
    subst same
    exact workers_ofFile_of_shownBy shown isText fit chosen path

/-- A file that asks for no worker is accepted, on a machine that does not tell its processors. -/
theorem idle_file_accepted :
    (ofFile none "config.json" (.ok "\x7b\"workers\": 0\x7d")).map Config.workers = .ok 0 := by
  decide +kernel

end ForeignEval.Config

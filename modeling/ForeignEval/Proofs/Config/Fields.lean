import ForeignEval.Proofs.Config.Choices
import ForeignEval.Proofs.Text.Numerals

/-!
# Settings one by one

What a source of settings defines is decided setting by setting. A setting whose text has a meaning
for it gets that value, a setting without a text its standard value, and the first setting whose
text has no meaning is named in the complaint.

* **Texts** — `Setting.Means`: what the text of a setting means; `Setting.Offends`: it means
  nothing.
* **Reading one setting** — `Config.Settles`: what comes of it, for numbers, truth values and the
  number of workers.
* **Reading one after the other** — `Config.Ends`: the first complaint ends the reading.
* **Result** — `Config.ofSettings_decided_by_fields`.
-/

namespace ForeignEval

/-! ## Texts -/

namespace Setting

/-- The texts of a value that have nothing around them. -/
inductive Value.SpelledBy : Value → List Char → Prop
  | number {core : List Char} {n : Nat} (numeral : Text.Numeral core n) : SpelledBy (.number n) core
  | truth (value : Bool) : SpelledBy (.truth value) (toString value).toList

/-- The values that may be chosen for a setting: numbers below its bound, and no number of workers
that is zero. -/
structure Admits (setting : Setting) (value : Value) : Prop where
  takes : setting.Takes value
  small : ∀ n, value = .number n → n < setting.bound
  busy : setting = parallelWorkers → value ≠ .number 0

/-- What the text of a setting means: a value that the setting admits, amid white space. -/
def Means (setting : Setting) (raw : String) (value : Value) : Prop :=
  setting.Admits value ∧ ∃ core, Text.Amid raw.toList core ∧ value.SpelledBy core

/-- A source has a text for a setting that means nothing. -/
def Offends (setting : Setting) (source : Settings) : Prop :=
  ∃ raw, source setting.key = some raw ∧ ¬∃ value, setting.Means raw value

end Setting

/-- Every text that a source has for a setting means something. -/
def Settings.Meaningful (source : Settings) : Prop :=
  ∀ (setting : Setting) (raw : String), source setting.key = some raw →
    ∃ value, setting.Means raw value

theorem meaningful_iff {source : Settings} :
    source.Meaningful ↔ ∀ setting : Setting, ¬setting.Offends source := by
  constructor
  · rintro meaningful setting ⟨raw, present, nothing⟩
    exact nothing (meaningful setting raw present)
  · intro clean setting raw present
    by_contra nothing
    exact clean setting ⟨raw, present, nothing⟩

namespace Setting

variable {setting : Setting} {raw : String} {value : Value}

/-- There is no white space in the text of a value. -/
theorem Value.SpelledBy.isBlank_eq_false {core : List Char} (spelled : value.SpelledBy core) :
    ∀ c ∈ core, Text.isBlank c = false := by
  cases spelled with
  | number numeral => exact numeral.isBlank_eq_false
  | truth value => exact Text.isBlank_truth value

/-- The text that means something is what is left of the whole when it is trimmed. -/
theorem means_iff :
    setting.Means raw value ↔
      setting.Admits value ∧ value.SpelledBy (Text.trimmed raw.toList) := by
  constructor
  · rintro ⟨admits, core, amid, spelled⟩
    rw [Text.trimmed_of_amid spelled.isBlank_eq_false amid]
    exact ⟨admits, spelled⟩
  · rintro ⟨admits, spelled⟩
    exact ⟨admits, _, Text.amid_trimmed _, spelled⟩

/-- For a setting of numbers, that is a numeral of a number that it admits. -/
theorem means_number_iff (numeric : setting ≠ cacheEnabled) :
    setting.Means raw value ↔ ∃ n, value = .number n ∧
      Text.readNumeral setting.bound (Text.trimmed raw.toList) = .ok n ∧
        (setting = parallelWorkers → n ≠ 0) := by
  rw [means_iff]
  constructor
  · rintro ⟨admits, spelled⟩
    generalize Text.trimmed raw.toList = core at spelled ⊢
    cases spelled with
    | @number _ n numeral =>
      refine ⟨n, rfl, Text.readNumeral_eq_ok_iff.2 ⟨numeral, admits.small n rfl⟩, ?_⟩
      rintro workers rfl
      exact admits.busy workers rfl
    | truth value => exact absurd admits.takes numeric
  · rintro ⟨n, rfl, read, busy⟩
    obtain ⟨numeral, small⟩ := Text.readNumeral_eq_ok_iff.1 read
    refine ⟨⟨numeric, ?_, ?_⟩, .number numeral⟩
    · intro m same
      cases same
      exact small
    · rintro workers same
      cases same
      exact busy workers rfl

/-- For the setting that is a truth value, it is one of two words. -/
theorem means_truth_iff :
    cacheEnabled.Means raw value ↔ ∃ b, value = .truth b ∧
      Text.readTruth (Text.trim raw) = some b := by
  rw [means_iff]
  have word (b : Bool) : Text.readTruth (Text.trim raw) = some b ↔
      Text.trimmed raw.toList = (toString b).toList := by
    rw [Text.readTruth_eq_some_iff, ← String.toList_inj, Text.trim, String.toList_ofList]
  constructor
  · rintro ⟨admits, spelled⟩
    generalize left : Text.trimmed raw.toList = core at spelled
    cases spelled with
    | number numeral => exact absurd rfl admits.takes
    | truth b => exact ⟨b, rfl, (word b).2 left⟩
  · rintro ⟨b, rfl, read⟩
    rw [(word b).1 read]
    exact ⟨⟨rfl, nofun, nofun⟩, .truth b⟩

/-- A text means one value at most. -/
theorem Means.unique {other : Value} (first : setting.Means raw value)
    (second : setting.Means raw other) : value = other := by
  by_cases numeric : setting = cacheEnabled
  · subst numeric
    obtain ⟨b, rfl, read⟩ := means_truth_iff.1 first
    obtain ⟨b', rfl, read'⟩ := means_truth_iff.1 second
    rw [read] at read'
    exact congrArg Value.truth (Option.some.inj read')
  · obtain ⟨n, rfl, read, -⟩ := (means_number_iff numeric).1 first
    obtain ⟨n', rfl, read', -⟩ := (means_number_iff numeric).1 second
    rw [read] at read'
    exact congrArg Value.number (Except.ok.inj read')

end Setting

namespace Config

variable {processors : Option Processors} {source : Settings} {setting : Setting}

/-! ## Reading one setting -/

/-- What is known of a setting after it has been read: nothing if there is no text, and else what
the text means. -/
def Learns {α : Type} (source : Settings) (setting : Setting) (value : α → Setting.Value)
    (found : Option α) : Prop :=
  match source setting.key with
  | none => found = none
  | some raw => ∃ a, found = some a ∧ setting.Means raw (value a)

/-- What comes of reading a setting: something that is known of it, or a complaint that names it if
its text means nothing. -/
def Settles {α : Type} (source : Settings) (setting : Setting) (value : α → Setting.Value)
    (outcome : Except Error (Option α)) : Prop :=
  (¬setting.Offends source ∧ ∃ found, outcome = .ok found ∧ Learns source setting value found) ∨
    (setting.Offends source ∧ ∃ reason, outcome = .error (.invalidConfig setting.key reason))

/-- A setting without a text is settled. -/
theorem settles_none {α : Type} {value : α → Setting.Value}
    (absent : source setting.key = none) : Settles source setting value (.ok none) := by
  refine .inl ⟨?_, none, rfl, ?_⟩
  · rintro ⟨raw, present, -⟩
    rw [absent] at present
    cases present
  · unfold Learns
    rw [absent]

/-- A setting whose text means something is settled. -/
theorem settles_some {α : Type} {value : α → Setting.Value} {raw : String} {a : α}
    (present : source setting.key = some raw) (means : setting.Means raw (value a)) :
    Settles source setting value (.ok (some a)) := by
  refine .inl ⟨?_, some a, rfl, ?_⟩
  · rintro ⟨raw', present', nothing⟩
    rw [present] at present'
    cases present'
    exact nothing ⟨_, means⟩
  · unfold Learns
    rw [present]
    exact ⟨a, rfl, means⟩

/-- There is a complaint about a setting whose text means nothing. -/
theorem settles_error {α : Type} {value : α → Setting.Value} {raw : String}
    (present : source setting.key = some raw) (nothing : ¬∃ v, setting.Means raw v)
    (reason : String) :
    Settles source setting value (.error (.invalidConfig setting.key reason)) :=
  .inr ⟨⟨raw, present, nothing⟩, reason, rfl⟩

/-- Reading a number other than that of the workers. -/
theorem numberSetting_settles (setting : Setting) (numeric : setting ≠ .cacheEnabled)
    (other : setting ≠ .parallelWorkers) :
    Settles source setting Setting.Value.number (numberSetting source setting setting.bound) := by
  unfold numberSetting
  cases present : source setting.key with
  | none => exact settles_none present
  | some raw =>
    dsimp only
    cases read : Text.readNumeral setting.bound (Text.trimmed raw.toList) with
    | ok n =>
      exact settles_some present ((Setting.means_number_iff numeric).2
        ⟨n, rfl, read, fun workers => absurd workers other⟩)
    | error e =>
      refine settles_error present ?_ _
      rintro ⟨value, means⟩
      obtain ⟨n, -, read', -⟩ := (Setting.means_number_iff numeric).1 means
      rw [read] at read'
      cases read'

theorem truthSetting_settles :
    Settles source .cacheEnabled Setting.Value.truth (truthSetting source .cacheEnabled) := by
  unfold truthSetting
  cases present : source Setting.cacheEnabled.key with
  | none => exact settles_none present
  | some raw =>
    dsimp only
    cases read : Text.readTruth (Text.trim raw) with
    | some b => exact settles_some present (Setting.means_truth_iff.2 ⟨b, rfl, read⟩)
    | none =>
      refine settles_error present ?_ _
      rintro ⟨value, means⟩
      obtain ⟨b, -, read'⟩ := Setting.means_truth_iff.1 means
      rw [read] at read'
      cases read'

/-- Reading the number of workers, of which zero means nothing. -/
theorem workersSetting_settles :
    Settles source .parallelWorkers Setting.Value.number (workersSetting source) := by
  have means_iff (raw : String) (value : Setting.Value) :
      Setting.parallelWorkers.Means raw value ↔ ∃ n, value = .number n ∧
        Text.readNumeral UInt64.size (Text.trimmed raw.toList) = .ok n ∧ n ≠ 0 := by
    rw [Setting.means_number_iff (by decide)]
    simp only [true_implies]
    rfl
  unfold workersSetting numberSetting
  cases present : source Setting.parallelWorkers.key with
  | none => exact settles_none present
  | some raw =>
    dsimp only
    cases read : Text.readNumeral UInt64.size (Text.trimmed raw.toList) with
    | error e =>
      refine settles_error present ?_ _
      rintro ⟨value, means⟩
      obtain ⟨n, -, read', -⟩ := (means_iff _ _).1 means
      rw [read] at read'
      cases read'
    | ok n =>
      cases n with
      | zero =>
        refine settles_error present ?_ _
        rintro ⟨value, means⟩
        obtain ⟨n, -, read', busy⟩ := (means_iff _ _).1 means
        rw [read] at read'
        cases read'
        exact busy rfl
      | succ n =>
        exact settles_some present ((means_iff _ _).2 ⟨n + 1, rfl, read, Nat.succ_ne_zero n⟩)

/-! ## Reading one after the other -/

/-- The first of some settings that offends. -/
def FirstOffence (source : Settings) (settings : List Setting) (setting : Setting) : Prop :=
  ∃ before after, settings = before ++ setting :: after ∧
    (∀ other ∈ before, ¬other.Offends source) ∧ setting.Offends source

/-- How reading some settings ends: with a value of which something holds if none of them offends,
and else with a complaint that names the first one that does. -/
def Ends {α : Type} (source : Settings) (settings : List Setting) (outcome : Except Error α)
    (holds : α → Prop) : Prop :=
  ((∀ setting ∈ settings, ¬setting.Offends source) ∧ ∃ value, outcome = .ok value ∧ holds value) ∨
    ∃ setting reason, FirstOffence source settings setting ∧
      outcome = .error (.invalidConfig setting.key reason)

/-- One more setting is read before the others. -/
theorem Settles.bind {α β : Type} {value : α → Setting.Value} {first : Except Error (Option α)}
    {next : Option α → Except Error β} {settings : List Setting} {holds : β → Prop}
    (here : Settles source setting value first)
    (later : ∀ found, Learns source setting value found →
      Ends source settings (next found) holds) :
    Ends source (setting :: settings) (first >>= next) holds := by
  rcases here with ⟨fine, found, rfl, learns⟩ | ⟨offends, reason, rfl⟩
  · rcases later found learns with ⟨others, result⟩ | ⟨other, reason, first, refused⟩
    · exact .inl ⟨List.forall_mem_cons.2 ⟨fine, others⟩, result⟩
    · obtain ⟨before, after, rfl, clean, offends⟩ := first
      exact .inr ⟨other, reason,
        ⟨setting :: before, after, rfl, List.forall_mem_cons.2 ⟨fine, clean⟩, offends⟩, refused⟩
  · exact .inr ⟨setting, reason,
      ⟨[], settings, rfl, fun _ mem => absurd mem List.not_mem_nil, offends⟩, rfl⟩

/-- The value of a setting in a configuration. -/
def value (config : Config) : Setting → Setting.Value
  | .cacheMaxSize => .number config.cacheMaxSize
  | .cacheEnabled => .truth config.cacheEnabled
  | .retryMaxAttempts => .number config.retry.maxAttempts
  | .retryWait => .number config.retry.wait
  | .retryBackoff => .number config.retry.backoff
  | .retryBackoffAfter => .number config.retry.backoffAfter
  | .parallelWorkers => .number config.workers

/-- A configuration has the value of a setting that its text means, or the standard value on a
machine with so many processors if there is no text. -/
def Follows (processors : Option Processors) (config : Config) (source : Settings)
    (setting : Setting) : Prop :=
  match source setting.key with
  | none => config.value setting = (standard processors).value setting
  | some raw => setting.Means raw (config.value setting)

/-- What has been learned of a setting, or else its standard value, is the value that it has to
have. -/
theorem Learns.follows {α : Type} {value : α → Setting.Value} {found : Option α} {default : α}
    {config : Config} (learns : Learns source setting value found)
    (usual : (standard processors).value setting = value default)
    (kept : config.value setting = value (found.getD default)) :
    Follows processors config source setting := by
  unfold Learns at learns
  unfold Follows
  cases present : source setting.key with
  | none =>
    rw [present] at learns
    rw [kept, learns, usual]
    rfl
  | some raw =>
    rw [present] at learns
    obtain ⟨a, rfl, means⟩ := learns
    rw [kept]
    exact means

/-- The seven settings are read in their order, and each decides its own value. -/
theorem ofSettings_ends (processors : Option Processors) (source : Settings) :
    Ends source Setting.all (ofSettings processors source) fun config =>
      ∀ setting, Follows processors config source setting := by
  refine (numberSetting_settles .cacheMaxSize (by decide) (by decide)).bind fun size learnsSize => ?_
  refine truthSetting_settles.bind fun enabled learnsEnabled => ?_
  refine (numberSetting_settles .retryMaxAttempts (by decide) (by decide)).bind fun attempts learnsAttempts => ?_
  refine (numberSetting_settles .retryWait (by decide) (by decide)).bind fun wait learnsWait => ?_
  refine (numberSetting_settles .retryBackoff (by decide) (by decide)).bind fun backoff learnsBackoff => ?_
  refine (numberSetting_settles .retryBackoffAfter (by decide) (by decide)).bind fun start learnsStart => ?_
  refine workersSetting_settles.bind fun workers learnsWorkers => ?_
  refine .inl ⟨fun _ mem => absurd mem List.not_mem_nil, _, rfl, fun setting => ?_⟩
  cases setting with
  | cacheMaxSize => exact learnsSize.follows rfl rfl
  | cacheEnabled => exact learnsEnabled.follows rfl rfl
  | retryMaxAttempts => exact learnsAttempts.follows rfl rfl
  | retryWait => exact learnsWait.follows rfl rfl
  | retryBackoff => exact learnsBackoff.follows rfl rfl
  | retryBackoffAfter => exact learnsStart.follows rfl rfl
  | parallelWorkers => exact learnsWorkers.follows rfl rfl

/-! ## Result -/

/-- Every setting is among those that are read. -/
theorem mem_all (setting : Setting) : setting ∈ Setting.all := by
  cases setting <;> decide

theorem Follows.not_offends {config : Config}
    (follows : Follows processors config source setting) : ¬setting.Offends source := by
  rintro ⟨raw, present, nothing⟩
  unfold Follows at follows
  rw [present] at follows
  exact nothing ⟨_, follows⟩

theorem FirstOffence.offends {settings : List Setting}
    (first : FirstOffence source settings setting) : setting.Offends source := by
  obtain ⟨_, _, _, _, offends⟩ := first
  exact offends

/-- A configuration is determined by what the source says of each setting. -/
theorem Follows.value_eq {source' : Settings} {config config' : Config}
    (follows : Follows processors config source setting)
    (follows' : Follows processors config' source' setting)
    (same : source' setting.key = source setting.key) :
    config'.value setting = config.value setting := by
  unfold Follows at follows follows'
  rw [same] at follows'
  cases present : source setting.key with
  | none =>
    rw [present] at follows follows'
    exact follows'.trans follows.symm
  | some raw =>
    rw [present] at follows follows'
    exact follows'.unique follows

theorem ofSettings_follows {config : Config} (defined : ofSettings processors source = .ok config)
    (setting : Setting) : Follows processors config source setting := by
  rcases ofSettings_ends processors source with ⟨-, value, ok, follows⟩ | ⟨_, _, _, refused⟩
  · rw [defined] at ok
    cases ok
    exact follows setting
  · rw [defined] at refused
    cases refused

/-- **Settings decide one by one.** On a machine with any number of processors, a source of settings
defines a configuration exactly if every setting that it has a text for means something by it: a
truth value, or a number below the bound of the setting that is not zero for the workers, amid white
space. Each value of the configuration is then the one that the text of its setting means, and the
standard one of the machine if there is no text; so it depends on this text alone. Otherwise there is
a complaint about the configuration that names the first setting, in the order of reading, whose text
means nothing. -/
theorem ofSettings_decided_by_fields (processors : Option Processors) (source : Settings) :
    ((∃ config, ofSettings processors source = .ok config) ↔ source.Meaningful) ∧
    (∀ config, ofSettings processors source = .ok config →
      ∀ setting, Follows processors config source setting ∧
        ∀ source' config', ofSettings processors source' = .ok config' →
          source' setting.key = source setting.key →
            config'.value setting = config.value setting) ∧
    (¬source.Meaningful → ∃ setting reason, FirstOffence source Setting.all setting ∧
      ofSettings processors source = .error (.invalidConfig setting.key reason)) := by
  refine ⟨⟨?_, ?_⟩, ?_, ?_⟩
  · rintro ⟨config, defined⟩
    exact meaningful_iff.2 fun setting => (ofSettings_follows defined setting).not_offends
  · intro meaningful
    rcases ofSettings_ends processors source with ⟨-, config, defined, -⟩ | ⟨setting, _, first, -⟩
    · exact ⟨config, defined⟩
    · exact absurd first.offends (meaningful_iff.1 meaningful setting)
  · intro config defined setting
    refine ⟨ofSettings_follows defined setting, fun source' config' defined' same => ?_⟩
    exact (ofSettings_follows defined setting).value_eq (ofSettings_follows defined' setting) same
  · intro meaningless
    rcases ofSettings_ends processors source with ⟨clean, -⟩ | ⟨setting, reason, first, refused⟩
    · exact absurd (meaningful_iff.2 fun setting => clean setting (mem_all setting)) meaningless
    · exact ⟨setting, reason, first, refused⟩

end Config

end ForeignEval

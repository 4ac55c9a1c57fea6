import ForeignEval.Config
import ForeignEval.Proofs.Text.Decimal

/-!
# Chosen values

Values chosen for some of the settings, and the configuration with these values. A source of
settings that holds their texts defines that configuration if every number fits, and no
configuration if one does not.

* **Choices** — `Choices` are the chosen values; `Choices.Fit` says that none is too large.
* **Outcomes** — `Decides`: an outcome is this value if a condition holds, and a complaint about the
  configuration if not. `Decides.bind` puts conditions together.
* **Settings** — `Choices.ofSettings_of_heldBy`.
-/

namespace ForeignEval

/-! ## Choices -/

/-- A value of a setting. -/
inductive Setting.Value where
  | number (n : Nat)
  | truth (value : Bool)
deriving DecidableEq

/-- The text of a value. -/
def Setting.Value.text : Setting.Value → String
  | number n => Nat.repr n
  | truth value => toString value

namespace Setting

/-- Whether caches are enabled is a truth value; all else is numbers. -/
def Takes (setting : Setting) : Value → Prop
  | .number _ => setting ≠ cacheEnabled
  | .truth _ => setting = cacheEnabled

/-- The least number that is too large for a setting. -/
def bound : Setting → Nat
  | retryMaxAttempts | retryBackoffAfter => UInt32.size
  | _ => UInt64.size

end Setting

/-- Values chosen for some of the settings. -/
structure Choices where
  /-- The value chosen for a setting, if there is one. -/
  value? : Setting → Option Setting.Value
  /-- Every value is one of its setting. -/
  takes : ∀ setting value, value? setting = some value → setting.Takes value

namespace Choices

/-- The number chosen for a setting. -/
def number? (choices : Choices) (setting : Setting) : Option Nat :=
  match choices.value? setting with
  | some (.number n) => some n
  | _ => none

/-- The truth value chosen for a setting. -/
def truth? (choices : Choices) (setting : Setting) : Option Bool :=
  match choices.value? setting with
  | some (.truth value) => some value
  | _ => none

/-- The retry policy with the chosen values. -/
def policy (choices : Choices) : RetryPolicy where
  maxAttempts := (choices.number? .retryMaxAttempts).getD RetryPolicy.standard.maxAttempts
  wait := (choices.number? .retryWait).getD RetryPolicy.standard.wait
  backoff := (choices.number? .retryBackoff).getD RetryPolicy.standard.backoff
  backoffAfter := (choices.number? .retryBackoffAfter).getD RetryPolicy.standard.backoffAfter

/-- The configuration with the chosen values, on a machine with so many processors. -/
def config (choices : Choices) (processors : Option Processors) : Config where
  cacheMaxSize := (choices.number? .cacheMaxSize).getD (Config.standard processors).cacheMaxSize
  cacheEnabled := (choices.truth? .cacheEnabled).getD (Config.standard processors).cacheEnabled
  retry := choices.policy
  workers := (choices.number? .parallelWorkers).getD (Config.standard processors).workers

/-- A number chosen for the setting is not too large. -/
def FitsAt (choices : Choices) (setting : Setting) : Prop :=
  ∀ n, choices.value? setting = some (.number n) → n < setting.bound

/-- No chosen number is too large. -/
def Fit (choices : Choices) : Prop := ∀ setting, choices.FitsAt setting

/-- A source holds the texts of the chosen values, and nothing for the other settings. -/
def HeldBy (choices : Choices) (source : Settings) : Prop :=
  ∀ setting : Setting, source setting.key = (choices.value? setting).map Setting.Value.text

end Choices

/-! ## Outcomes -/

/-- There is a complaint about the configuration. -/
def Refused {α : Type} (outcome : Except Error α) : Prop :=
  ∃ key reason, outcome = .error (.invalidConfig key reason)

/-- The outcome is a value or a complaint about the configuration, by whether something holds. -/
def Decides {α : Type} (fits : Prop) (outcome : Except Error α) (value : α) : Prop :=
  (fits ∧ outcome = .ok value) ∨ (¬fits ∧ Refused outcome)

section

variable {α β : Type} {fits rest : Prop} {first : Except Error α} {value : α}
  {next : α → Except Error β} {result : β}

/-- What comes next only counts if the first outcome is a value. -/
theorem Decides.bind (here : Decides fits first value) (later : Decides rest (next value) result) :
    Decides (fits ∧ rest) (first >>= next) result := by
  rcases here with ⟨fit, rfl⟩ | ⟨unfit, key, reason, rfl⟩
  · rcases later with ⟨fit', same⟩ | ⟨unfit', refused⟩
    · exact .inl ⟨⟨fit, fit'⟩, same⟩
    · exact .inr ⟨fun both => unfit' both.2, refused⟩
  · exact .inr ⟨fun both => unfit both.1, key, reason, rfl⟩

theorem Decides.congr {fits' : Prop} {outcome : Except Error α} (same : fits ↔ fits')
    (decides : Decides fits outcome value) : Decides fits' outcome value := by
  rcases decides with ⟨fit, ok⟩ | ⟨unfit, refused⟩
  · exact .inl ⟨same.1 fit, ok⟩
  · exact .inr ⟨fun fit => unfit (same.2 fit), refused⟩

end

/-! ## Settings -/

namespace Choices

variable {choices : Choices} {source : Settings} {setting : Setting}

theorem numberSetting_of_heldBy (held : choices.HeldBy source) (numeric : setting ≠ .cacheEnabled) :
    Decides (choices.FitsAt setting) (Config.numberSetting source setting setting.bound)
      (choices.number? setting) := by
  unfold Config.numberSetting number? FitsAt
  rw [held setting]
  cases chosen : choices.value? setting with
  | none => exact .inl ⟨fun n same => (nomatch same), rfl⟩
  | some value =>
    cases value with
    | truth value => exact absurd (choices.takes setting _ chosen) numeric
    | number n =>
      have positive : 0 < setting.bound := by cases setting <;> decide
      have read : Text.readNumeral setting.bound (Text.trimmed (Nat.repr n).toList) =
          if n < setting.bound then .ok n else .error .tooLarge := by
        rw [Nat.toList_repr, Text.trimmed_toDigits, Text.readNumeral_toDigits positive]
      dsimp only [Option.map_some, Setting.Value.text]
      rw [read]
      by_cases fits : n < setting.bound
      · rw [if_pos fits]
        refine .inl ⟨?_, rfl⟩
        intro n' same
        cases same
        exact fits
      · rw [if_neg fits]
        exact .inr ⟨fun fit => fits (fit n rfl), _, _, rfl⟩

theorem truthSetting_of_heldBy (held : choices.HeldBy source) :
    Decides (choices.FitsAt .cacheEnabled) (Config.truthSetting source .cacheEnabled)
      (choices.truth? .cacheEnabled) := by
  unfold Config.truthSetting truth? FitsAt
  rw [held .cacheEnabled]
  cases chosen : choices.value? .cacheEnabled with
  | none => exact .inl ⟨fun n same => (nomatch same), rfl⟩
  | some value =>
    cases value with
    | number n => exact absurd rfl (choices.takes .cacheEnabled _ chosen)
    | truth value =>
      refine .inl ⟨fun n same => (nomatch same), ?_⟩
      have read : Text.readTruth (Text.trim (toString value)) = some value := by
        cases value <;> decide
      dsimp only [Option.map_some, Setting.Value.text]
      rw [read]

/-- The number of workers may be anything but zero. -/
theorem workersSetting_of_heldBy (held : choices.HeldBy source)
    (busy : choices.number? .parallelWorkers ≠ some 0) :
    Decides (choices.FitsAt .parallelWorkers) (Config.workersSetting source)
      (choices.number? .parallelWorkers) := by
  have number : Decides (choices.FitsAt .parallelWorkers)
      (Config.numberSetting source .parallelWorkers UInt64.size)
      (choices.number? .parallelWorkers) := numberSetting_of_heldBy held (by decide)
  unfold Config.workersSetting
  rcases number with ⟨fit, read⟩ | ⟨unfit, key, reason, refused⟩
  · refine .inl ⟨fit, ?_⟩
    rw [read]
    cases chosen : choices.number? .parallelWorkers with
    | none => rfl
    | some workers =>
      cases workers with
      | zero => exact absurd chosen busy
      | succ workers => rfl
  · refine .inr ⟨unfit, key, reason, ?_⟩
    rw [refused]

/-- A source that holds the chosen values defines the configuration with them, if all of them
fit. -/
theorem ofSettings_of_heldBy (held : choices.HeldBy source)
    (busy : choices.number? .parallelWorkers ≠ some 0) (processors : Option Processors) :
    Decides choices.Fit (Config.ofSettings processors source) (choices.config processors) := by
  have all : choices.Fit ↔ choices.FitsAt .cacheMaxSize ∧ choices.FitsAt .cacheEnabled ∧
      choices.FitsAt .retryMaxAttempts ∧ choices.FitsAt .retryWait ∧
      choices.FitsAt .retryBackoff ∧ choices.FitsAt .retryBackoffAfter ∧
      choices.FitsAt .parallelWorkers ∧ True := by
    constructor
    · intro fit
      exact ⟨fit _, fit _, fit _, fit _, fit _, fit _, fit _, trivial⟩
    · rintro ⟨size, enabled, attempts, wait, backoff, start, workers, -⟩ setting
      cases setting <;> assumption
  refine Decides.congr all.symm ?_
  unfold Config.ofSettings
  refine (numberSetting_of_heldBy held (by decide)).bind ?_
  refine (truthSetting_of_heldBy held).bind ?_
  refine (numberSetting_of_heldBy held (by decide)).bind ?_
  refine (numberSetting_of_heldBy held (by decide)).bind ?_
  refine (numberSetting_of_heldBy held (by decide)).bind ?_
  refine (numberSetting_of_heldBy held (by decide)).bind ?_
  refine (workersSetting_of_heldBy held busy).bind ?_
  exact .inl ⟨trivial, rfl⟩

end Choices

end ForeignEval

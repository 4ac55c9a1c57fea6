import ForeignEval.Proofs.Config.Members
import Mathlib.Data.List.Nodup

/-!
# Settings and files agree

Values chosen for some of the settings can be held by a source of settings or shown by a JSON file.
On each machine both define the same configuration, and both are refused if a number is too large.

* **Files** — `Choices.ShownBy`: the documents that show chosen values, their members in any order.
* **Members** — `Choices.Members`: what can be looked up in members that show the chosen values.
* **Configurations** — `Choices.Complete`: members of which the reader makes the configuration.
* **Result** — `Choices.sources_agree`.
-/

namespace ForeignEval

open Json (Document Reads)

/-! ## Files -/

namespace Choices

/-- Members, in any order, that show the chosen values of the policy or all others. -/
structure Members (choices : Choices) (inPolicy : Bool) (members : List (String × Document)) :
    Prop where
  distinct : (members.map (·.1)).Nodup
  mem_iff : ∀ key document, (key, document) ∈ members ↔ ∃ setting value,
    setting.inPolicy = inPolicy ∧ choices.value? setting = some value ∧
      key = setting.member ∧ document = value.document

/-- A document shows the chosen values. -/
inductive ShownBy (choices : Choices) : Document → Prop
  /-- The policy is one of the members. -/
  | nested {policy before after : List (String × Document)} (inside : choices.Members true policy)
      (outside : choices.Members false (before ++ after)) :
      ShownBy choices (.object (before ++ ("retry", .object policy) :: after))
  /-- No value of the policy is chosen, and there is none. -/
  | plain {members : List (String × Document)}
      (none : ∀ setting : Setting, setting.inPolicy = true → choices.value? setting = none)
      (outside : choices.Members false members) : ShownBy choices (.object members)

/-! ## Members -/

variable {choices : Choices} {inPolicy : Bool} {members : List (String × Document)}
  {setting : Setting} {processors : Option Processors}

theorem Members.mem_member_iff (shown : choices.Members inPolicy members)
    (within : setting.inPolicy = inPolicy) (document : Document) :
    (setting.member, document) ∈ members ↔
      (choices.value? setting).map Setting.Value.document = some document := by
  rw [shown.mem_iff, Option.map_eq_some_iff]
  constructor
  · rintro ⟨other, value, -, chosen, same, rfl⟩
    obtain rfl := Setting.member_injective same
    exact ⟨value, chosen, rfl⟩
  · rintro ⟨value, chosen, rfl⟩
    exact ⟨setting, value, within, chosen, rfl, rfl⟩

/-- Under the member of a setting stands the value that is chosen for it. -/
theorem Members.lookup_member (shown : choices.Members inPolicy members)
    (within : setting.inPolicy = inPolicy) :
    members.reverse.lookup setting.member =
      (choices.value? setting).map Setting.Value.document := by
  rw [lookup_reverse shown.distinct]
  exact lookup_eq_of_mem_iff shown.distinct (shown.mem_member_iff within)

theorem bind_natural? (choices : Choices) (setting : Setting) :
    ((choices.value? setting).map Setting.Value.document).bind Document.natural? =
      choices.number? setting := by
  unfold number?
  cases choices.value? setting with
  | none => rfl
  | some value => cases value <;> rfl

theorem bind_truth? (choices : Choices) (setting : Setting) :
    ((choices.value? setting).map Setting.Value.document).bind Document.truth? =
      choices.truth? setting := by
  unfold truth?
  cases choices.value? setting with
  | none => rfl
  | some value => cases value <;> rfl

/-- The members fit if the numbers chosen for them do. -/
theorem Members.all_numberFits (shown : choices.Members inPolicy members) :
    (members.all fun member => numberFits member.1 member.2) = true ↔
      ∀ setting : Setting, setting.inPolicy = inPolicy → choices.FitsAt setting := by
  rw [List.all_eq_true]
  constructor
  · intro fits setting within n chosen
    have mem : (setting.member, Document.natural n) ∈ members :=
      (shown.mem_iff _ _).2 ⟨setting, .number n, within, chosen, rfl, rfl⟩
    have small := fits _ mem
    unfold numberFits at small
    rw [← memberBound_member]
    exact of_decide_eq_true small
  · rintro fits ⟨key, document⟩ mem
    obtain ⟨setting, value, within, chosen, rfl, rfl⟩ := (shown.mem_iff _ _).1 mem
    cases value with
    | truth value => rfl
    | number n =>
      have small := fits setting within n chosen
      rw [← memberBound_member] at small
      exact decide_eq_true small

/-- The members of a policy make the policy with the chosen values. -/
theorem Members.ofMembers_reverse (shown : choices.Members true members) :
    RetryPolicy.ofMembers members.reverse = choices.policy := by
  have read (setting : Setting) (within : setting.inPolicy = true) :
      (members.reverse.lookup setting.member).bind Document.natural? = choices.number? setting := by
    rw [shown.lookup_member within, bind_natural?]
  have attempts := read .retryMaxAttempts rfl
  have wait := read .retryWait rfl
  have backoff := read .retryBackoff rfl
  have start := read .retryBackoffAfter rfl
  unfold Setting.member at attempts wait backoff start
  unfold RetryPolicy.ofMembers RetryPolicy.Parts.ofMembers policy
  dsimp only
  rw [attempts, wait, backoff, start]

/-! ## Configurations -/

/-- What the members of a configuration say, wherever they stand. -/
structure Complete (choices : Choices) (members : List (String × Document)) : Prop where
  takes : ∀ member ∈ members, Config.Takes member.1 member.2
  distinct : (members.map (·.1)).Nodup
  lookup : ∀ setting : Setting, setting.inPolicy = false →
    members.reverse.lookup setting.member = (choices.value? setting).map Setting.Value.document
  policy : ((members.reverse.lookup "retry").bind Config.policy?).getD .standard = choices.policy
  fits : (members.all fun member => Config.memberFits member.1 member.2) = true ↔ choices.Fit

/-- Such members are read as the configuration with the chosen values, if these fit. -/
theorem Complete.reads (complete : choices.Complete members) :
    Reads (Config.reader processors) (.object members)
      (if members.all fun member => Config.memberFits member.1 member.2 then
        some (choices.config processors)
      else none) := by
  have size := complete.lookup .cacheMaxSize rfl
  have enabled := complete.lookup .cacheEnabled rfl
  have workers := complete.lookup .parallelWorkers rfl
  unfold Setting.member at size enabled workers
  have built :
      ((Config.shape processors).build (Config.Parts.ofMembers members.reverse)).toOption =
        some (choices.config processors) := by
    unfold Config.Parts.ofMembers config
    rw [size, enabled, workers, bind_natural?, bind_truth?, bind_natural?, ← complete.policy]
    rfl
  have reads := Config.reads_members processors complete.takes complete.distinct
  rw [built] at reads
  exact reads

theorem Members.takes_policy (shown : choices.Members true members) :
    ∀ member ∈ members, RetryPolicy.Takes member.1 member.2 := by
  rintro ⟨key, document⟩ mem
  obtain ⟨setting, value, within, chosen, rfl, rfl⟩ := (shown.mem_iff _ _).1 mem
  have takes := choices.takes setting value chosen
  cases value with
  | number n => exact ⟨setting, n, within, rfl, rfl⟩
  | truth value =>
    cases takes
    cases within

theorem Members.takes_config (shown : choices.Members false members) :
    ∀ member ∈ members, Config.Takes member.1 member.2 := by
  rintro ⟨key, document⟩ mem
  obtain ⟨setting, value, within, chosen, rfl, rfl⟩ := (shown.mem_iff _ _).1 mem
  exact .value within (choices.takes setting value chosen)

/-- Shown values leave the member of the policy free. -/
theorem Members.retry_not_mem (shown : choices.Members inPolicy members) :
    "retry" ∉ members.map (·.1) := by
  intro mem
  obtain ⟨⟨key, document⟩, there, same⟩ := List.mem_map.1 mem
  obtain ⟨setting, value, -, -, named, -⟩ := (shown.mem_iff _ _).1 there
  exact setting.member_ne_retry (named.symm.trans same)

/-- A member that is no policy fits if its number does. -/
theorem Members.all_memberFits (shown : choices.Members inPolicy members) :
    (members.all fun member => Config.memberFits member.1 member.2) =
      members.all fun member => numberFits member.1 member.2 := by
  rw [Bool.eq_iff_iff, List.all_eq_true, List.all_eq_true]
  refine forall_congr' fun member => forall_congr' fun mem => ?_
  obtain ⟨key, document⟩ := member
  obtain ⟨setting, value, -, -, rfl, rfl⟩ := (shown.mem_iff _ _).1 mem
  cases value <;> exact Iff.rfl

theorem fit_iff : choices.Fit ↔
    (∀ setting : Setting, setting.inPolicy = true → choices.FitsAt setting) ∧
      ∀ setting : Setting, setting.inPolicy = false → choices.FitsAt setting := by
  constructor
  · intro fit
    exact ⟨fun setting _ => fit setting, fun setting _ => fit setting⟩
  · rintro ⟨inside, outside⟩ setting
    cases place : setting.inPolicy with
    | true => exact inside setting place
    | false => exact outside setting place

/-- Members without a policy leave the standard one, if no value of it is chosen. -/
theorem complete_plain
    (none : ∀ setting : Setting, setting.inPolicy = true → choices.value? setting = none)
    (outside : choices.Members false members) : choices.Complete members where
  takes := outside.takes_config
  distinct := outside.distinct
  lookup setting place := outside.lookup_member place
  policy := by
    have absent : members.reverse.lookup "retry" = Option.none := by
      rw [lookup_reverse outside.distinct]
      exact lookup_eq_none_of_not_mem outside.retry_not_mem
    have unset (setting : Setting) (within : setting.inPolicy = true) :
        choices.number? setting = Option.none := by
      unfold number?
      rw [none setting within]
    unfold policy
    rw [absent, unset .retryMaxAttempts rfl, unset .retryWait rfl, unset .retryBackoff rfl,
      unset .retryBackoffAfter rfl]
    rfl
  fits := by
    rw [outside.all_memberFits, outside.all_numberFits, fit_iff]
    constructor
    · intro fits
      refine ⟨fun setting within n chosen => ?_, fits⟩
      rw [none setting within] at chosen
      cases chosen
    · exact fun fit => fit.2

section

variable {policy before after : List (String × Document)} {member : String × Document}

theorem mem_nested_iff :
    member ∈ before ++ ("retry", Document.object policy) :: after ↔
      member = ("retry", .object policy) ∨ member ∈ before ++ after := by
  rw [List.mem_append, List.mem_cons, List.mem_append]
  exact or_left_comm

theorem Members.distinct_nested (outside : choices.Members false (before ++ after)) :
    ((before ++ ("retry", Document.object policy) :: after).map (·.1)).Nodup := by
  have apart := outside.retry_not_mem
  have others := outside.distinct
  rw [List.map_append] at apart others
  rw [List.map_append, List.map_cons, List.nodup_middle, List.nodup_cons]
  exact ⟨apart, others⟩

/-- A policy among the members fits if its own members do. -/
theorem all_memberFits_nested :
    ((before ++ ("retry", Document.object policy) :: after).all fun member =>
      Config.memberFits member.1 member.2) = true ↔
        (policy.all fun member => numberFits member.1 member.2) = true ∧
          ((before ++ after).all fun member => Config.memberFits member.1 member.2) = true := by
  rw [List.all_eq_true, List.all_eq_true, List.all_eq_true]
  constructor
  · intro fits
    refine ⟨?_, fun member mem => fits member (mem_nested_iff.2 (.inr mem))⟩
    have nested := fits ("retry", Document.object policy) (mem_nested_iff.2 (.inl rfl))
    exact List.all_eq_true.1 nested
  · rintro ⟨nested, others⟩ member mem
    rcases mem_nested_iff.1 mem with rfl | other
    · exact List.all_eq_true.2 nested
    · exact others member other

/-- The policy stands anywhere among the members. -/
theorem complete_nested (inside : choices.Members true policy)
    (outside : choices.Members false (before ++ after)) :
    choices.Complete (before ++ ("retry", .object policy) :: after) where
  takes member mem := by
    rcases mem_nested_iff.1 mem with rfl | other
    · exact .policy inside.takes_policy inside.distinct
    · exact outside.takes_config member other
  distinct := outside.distinct_nested
  lookup setting place := by
    rw [lookup_reverse outside.distinct_nested]
    refine lookup_eq_of_mem_iff outside.distinct_nested fun document => ?_
    rw [mem_nested_iff, ← outside.mem_member_iff place]
    constructor
    · rintro (same | other)
      · exact absurd (congrArg Prod.fst same) setting.member_ne_retry
      · exact other
    · exact .inr
  policy := by
    have found : (before ++ ("retry", Document.object policy) :: after).reverse.lookup "retry" =
        some (.object policy) := by
      rw [lookup_reverse outside.distinct_nested]
      exact lookup_of_mem outside.distinct_nested (mem_nested_iff.2 (.inl rfl))
    rw [found]
    exact inside.ofMembers_reverse
  fits := by
    rw [all_memberFits_nested, outside.all_memberFits, inside.all_numberFits,
      outside.all_numberFits, fit_iff]

end

/-- A document that shows the chosen values is read as the configuration with them, if all of them
fit. -/
theorem ofFile_of_shownBy {document : Document} {text : String} (shown : choices.ShownBy document)
    (isText : document.IsText text) (processors : Option Processors) (path : String) :
    Decides choices.Fit (Config.ofFile processors path (.ok text))
      (choices.config processors) := by
  have complete : ∃ members, document = .object members ∧ choices.Complete members := by
    cases shown with
    | nested inside outside => exact ⟨_, rfl, complete_nested inside outside⟩
    | plain none outside => exact ⟨_, rfl, complete_plain none outside⟩
  obtain ⟨members, rfl, complete⟩ := complete
  have reads : Reads (Config.reader processors) (.object members) _ := complete.reads
  have read := Json.readDocument_of_isText reads isText
  show Decides _ (Config.ofJson processors path text) _
  unfold Config.ofJson
  by_cases fits : (members.all fun member => Config.memberFits member.1 member.2) = true
  · rw [if_pos fits] at read
    refine .inl ⟨complete.fits.1 fits, ?_⟩
    cases outcome : Json.readDocument (Config.reader processors) text with
    | ok config =>
      rw [outcome] at read
      cases read
      rfl
    | error e =>
      rw [outcome] at read
      cases read
  · rw [if_neg fits] at read
    refine .inr ⟨fun fit => fits (complete.fits.2 fit), ?_⟩
    cases outcome : Json.readDocument (Config.reader processors) text with
    | ok config =>
      rw [outcome] at read
      cases read
    | error e => exact ⟨path, e.message, rfl⟩

/-! ## Result -/

/-- **Settings and files agree.** For all values chosen for some of the settings, with one worker at
least if their number is chosen, and on a machine with any number of processors: a source of settings
that holds their texts and every text of a document that shows them define the same configuration,
the one with these values, if all numbers fit, and are both refused as configurations if one does
not. -/
theorem sources_agree {source : Settings} {document : Document} {text : String}
    (busy : choices.number? .parallelWorkers ≠ some 0) (held : choices.HeldBy source)
    (shown : choices.ShownBy document) (isText : document.IsText text)
    (processors : Option Processors) (path : String) :
    (choices.Fit → Config.ofSettings processors source = .ok (choices.config processors) ∧
      Config.ofFile processors path (.ok text) = .ok (choices.config processors)) ∧
    (¬choices.Fit →
      (∃ key reason, Config.ofSettings processors source = .error (.invalidConfig key reason)) ∧
      ∃ key reason,
        Config.ofFile processors path (.ok text) = .error (.invalidConfig key reason)) := by
  have settings := ofSettings_of_heldBy held busy processors
  have file := ofFile_of_shownBy shown isText processors path
  constructor
  · intro fit
    rcases settings with ⟨-, settings⟩ | ⟨unfit, -⟩
    · rcases file with ⟨-, file⟩ | ⟨unfit, -⟩
      · exact ⟨settings, file⟩
      · exact absurd fit unfit
    · exact absurd fit unfit
  · intro unfit
    rcases settings with ⟨fit, -⟩ | ⟨-, settings⟩
    · exact absurd fit unfit
    · rcases file with ⟨fit, -⟩ | ⟨-, file⟩
      · exact absurd fit unfit
      · exact ⟨settings, file⟩

/-- A short wait of five milliseconds, and nothing else. -/
def shortWait : Choices where
  value?
    | .retryWait => some (.number 5)
    | _ => none
  takes := by
    intro setting value chosen
    cases setting <;> cases chosen
    exact nofun

/-- The settings with it. -/
def shortWaitSettings : Settings := fun key => if key = "retry.wait_ms" then some "5" else none

/-- The document with it. -/
def shortWaitDocument : Document := .object [("retry", .object [("wait", .natural 5)])]

/-- A text of that document. -/
def shortWaitText : String := " \x7b\"retry\": \x7b\"wait\" :5 \x7d\x7d"

theorem heldBy_shortWait : shortWait.HeldBy shortWaitSettings := by
  intro setting
  cases setting <;> decide

theorem shownBy_shortWait : shortWait.ShownBy shortWaitDocument := by
  have inside : shortWait.Members true [("wait", .natural 5)] := by
    refine ⟨by decide, fun key document => ?_⟩
    rw [List.mem_singleton, Prod.mk.injEq]
    constructor
    · rintro ⟨rfl, rfl⟩
      exact ⟨.retryWait, .number 5, rfl, rfl, rfl, rfl⟩
    · rintro ⟨setting, value, within, chosen, rfl, rfl⟩
      cases setting <;> cases chosen
      exact ⟨rfl, rfl⟩
  have outside : shortWait.Members false ([] ++ []) := by
    refine ⟨by decide, fun key document => ?_⟩
    constructor
    · exact nofun
    · rintro ⟨setting, value, within, chosen, rfl, rfl⟩
      cases setting <;> cases chosen
      cases within
  exact .nested inside outside

theorem isText_shortWait : shortWaitDocument.IsText shortWaitText := by
  have number : Json.Written (.natural 5) ('5' :: ' ' :: '}' :: ['}']) (' ' :: '}' :: ['}']) :=
    .natural (Json.numberEnds_cons (by decide))
  have wait : Json.WrittenMembers true [("wait", .natural 5)]
      ('"' :: 'w' :: 'a' :: 'i' :: 't' :: '"' :: ' ' :: ':' :: '5' :: ' ' :: '}' :: ['}']) ['}'] :=
    .member (.first (Json.gap_refl _)) (Json.quoted_of_plain (by simp))
      (Json.gap_cons (by decide) (Json.gap_refl _)) (Json.gap_refl _) number
      (.close (Json.gap_cons (by decide) (Json.gap_refl _)))
  have retry : Json.WrittenMembers true [("retry", .object [("wait", .natural 5)])]
      ('"' :: 'r' :: 'e' :: 't' :: 'r' :: 'y' :: '"' :: ':' :: ' ' :: '{' :: '"' :: 'w' :: 'a' ::
        'i' :: 't' :: '"' :: ' ' :: ':' :: '5' :: ' ' :: '}' :: ['}']) [] :=
    .member (.first (Json.gap_refl _)) (Json.quoted_of_plain (by simp)) (Json.gap_refl _)
      (Json.gap_cons (by decide) (Json.gap_refl _)) (.object wait) (.close (Json.gap_refl _))
  exact ⟨_, [], Json.gap_cons (by decide) (Json.gap_refl _), .object retry, Json.gap_refl _⟩

/-- Eight processors. -/
def eightProcessors : Processors := ⟨8, by decide⟩

theorem sources_agree_shortWait :
    shortWait.number? .parallelWorkers ≠ some 0 ∧ shortWait.HeldBy shortWaitSettings ∧
      shortWait.ShownBy shortWaitDocument ∧ shortWaitDocument.IsText shortWaitText ∧
      Config.ofSettings (some eightProcessors) shortWaitSettings =
        .ok (shortWait.config (some eightProcessors)) ∧
      Config.ofFile (some eightProcessors) "config.json" (.ok shortWaitText) =
        .ok (shortWait.config (some eightProcessors)) := by
  have busy : shortWait.number? .parallelWorkers ≠ some 0 := by decide
  have fit : shortWait.Fit := by
    intro setting n chosen
    cases setting <;> cases chosen
    decide
  exact ⟨busy, heldBy_shortWait, shownBy_shortWait, isText_shortWait,
    (sources_agree busy heldBy_shortWait shownBy_shortWait isText_shortWait (some eightProcessors)
      "config.json").1 fit⟩

end Choices

end ForeignEval

import ForeignEval.Proofs.Config.Choices
import ForeignEval.Proofs.Json.Objects
import ForeignEval.Proofs.Tables

/-!
# Members of a configuration file

What the reader of configuration files keeps of the members of an object is a function of these
members; it refuses a number that is too large for its member. A number of more than 64 bits is read
as a double, which is no number for it either.

* **Values** — `Setting.member`: where a file shows a setting.
* **Policies** — `RetryPolicy.follows`: what is kept of the members of a policy.
* **Configurations** — `Config.follows`: the same for a configuration.
-/

namespace ForeignEval

open Json (Document Reads)

/-! ## Values -/

namespace Setting

/-- The member of a file that shows a setting. -/
def member : Setting → String
  | cacheMaxSize => "cache_max_size"
  | cacheEnabled => "cache_enabled"
  | retryMaxAttempts => "max_attempts"
  | retryWait => "wait"
  | retryBackoff => "backoff"
  | retryBackoffAfter => "backoff_after"
  | parallelWorkers => "workers"

/-- Whether that member is one of the retry policy. -/
def inPolicy : Setting → Bool
  | retryMaxAttempts | retryWait | retryBackoff | retryBackoffAfter => true
  | _ => false

/-- A value in a file. -/
def Value.document : Value → Document
  | number n => .natural n
  | truth value => .truth value

theorem member_injective {a b : Setting} (same : a.member = b.member) : a = b := by
  cases a <;> cases b <;> first | rfl | exact absurd same (by decide)

/-- No setting is shown by the member of the policy. -/
theorem member_ne_retry (setting : Setting) : setting.member ≠ "retry" := by
  cases setting <;> decide

end Setting

/-- The number that a document is. -/
def Json.Document.natural? : Document → Option Nat
  | .natural n => some n
  | _ => none

/-- The truth value that a document is. -/
def Json.Document.truth? : Document → Option Bool
  | .truth value => some value
  | _ => none

/-- The least number that is too large for a member. -/
def memberBound (key : String) : Nat :=
  if key = "max_attempts" ∨ key = "backoff_after" then UInt32.size else UInt64.size

/-- A number is not too large for a member. -/
def numberFits (key : String) (document : Document) : Bool :=
  match document with
  | .natural n => n < memberBound key
  | _ => true

/-- A reader that makes something of what another reads. -/
theorem Json.Reads.map {α β : Type} {read : Json.Reader α} {document : Document} {value : Option α}
    (reads : Reads read document value) (f : α → β) :
    Reads (fun s => do
      let (value, rest) ← read s
      return (f value, rest)) document (value.map f) := by
  intro s t rest gap written
  show (read s >>= fun found => pure (f found.1, found.2)).toOption = _
  rw [toOption_bind, reads s t rest gap written]
  cases value <;> rfl

theorem memberBound_member (setting : Setting) : memberBound setting.member = setting.bound := by
  cases setting <;> decide

/-- The reader of a member that is a number. -/
theorem reads_numberMember {σ : Type} {key : String} {bound n : Nat} {parts : σ}
    (limit : memberBound key = bound) (expected : String) (put : Nat → σ) (kept : put n = parts) :
    Reads (fun s => do
      let (n, rest) ← Json.readNatural bound expected s
      return (put n, rest)) (.natural n)
      (if numberFits key (.natural n) then some parts else none) := by
  have long : bound ≤ UInt64.size := by
    rw [← limit]
    unfold memberBound
    split <;> decide
  have reads := (Json.reads_natural long expected n).map put
  have same : (if n < bound then some n else none).map put =
      if numberFits key (.natural n) then some parts else none := by
    unfold numberFits
    rw [limit]
    by_cases fits : n < bound <;> simp [fits, kept]
  rw [← same]
  exact reads

/-! ## Policies -/

namespace RetryPolicy

/-- What has been read of a policy, by its members. -/
def Parts.ofMembers (read : List (String × Document)) : Parts where
  maxAttempts := (read.lookup "max_attempts").bind Document.natural?
  wait := (read.lookup "wait").bind Document.natural?
  backoff := (read.lookup "backoff").bind Document.natural?
  backoffAfter := (read.lookup "backoff_after").bind Document.natural?

/-- The members of a policy. -/
def Takes (key : String) (document : Document) : Prop :=
  ∃ (setting : Setting) (n : Nat), setting.inPolicy = true ∧ key = setting.member ∧
    document = .natural n

/-- What is kept of a policy's members is a function of them. -/
theorem follows : shape.Follows Parts.ofMembers Takes numberFits where
  start := rfl
  step := by
    rintro read key document ⟨setting, n, inside, rfl, rfl⟩ fresh
    have absent := lookup_eq_none_of_not_mem fresh
    have unset : ((read.lookup setting.member).bind Document.natural?).isSome = false := by
      rw [absent]
      rfl
    have limit := memberBound_member setting
    cases setting with
    | cacheMaxSize | cacheEnabled | parallelWorkers => cases inside
    | retryMaxAttempts =>
      exact ⟨_, rfl, unset, reads_numberMember limit "u32"
        (fun n => ({ Parts.ofMembers read with maxAttempts := some n } : Parts)) rfl⟩
    | retryWait =>
      exact ⟨_, rfl, unset, reads_numberMember limit "u64"
        (fun n => ({ Parts.ofMembers read with wait := some n } : Parts)) rfl⟩
    | retryBackoff =>
      exact ⟨_, rfl, unset, reads_numberMember limit "u64"
        (fun n => ({ Parts.ofMembers read with backoff := some n } : Parts)) rfl⟩
    | retryBackoffAfter =>
      exact ⟨_, rfl, unset, reads_numberMember limit "u32"
        (fun n => ({ Parts.ofMembers read with backoffAfter := some n } : Parts)) rfl⟩

/-- The policy that members make. -/
def ofMembers (members : List (String × Document)) : RetryPolicy where
  maxAttempts := (Parts.ofMembers members).maxAttempts.getD standard.maxAttempts
  wait := (Parts.ofMembers members).wait.getD standard.wait
  backoff := (Parts.ofMembers members).backoff.getD standard.backoff
  backoffAfter := (Parts.ofMembers members).backoffAfter.getD standard.backoffAfter

/-- A policy is read from its members if all of them fit. -/
theorem reads_members {members : List (String × Document)}
    (takes : ∀ member ∈ members, Takes member.1 member.2)
    (distinct : (members.map (·.1)).Nodup) :
    Reads reader (.object members)
      (if members.all fun member => numberFits member.1 member.2 then
        some (ofMembers members.reverse)
      else none) :=
  follows.reads_object (by decide) takes distinct

end RetryPolicy

/-! ## Configurations -/

namespace Config

/-- The policy that a document is. -/
def policy? : Document → Option RetryPolicy
  | .object members => some (RetryPolicy.ofMembers members.reverse)
  | _ => none

/-- What has been read of a configuration, by its members. -/
def Parts.ofMembers (read : List (String × Document)) : Parts where
  cacheMaxSize := (read.lookup "cache_max_size").bind Document.natural?
  cacheEnabled := (read.lookup "cache_enabled").bind Document.truth?
  retry := (read.lookup "retry").bind policy?
  workers := (read.lookup "workers").bind Document.natural?

/-- The members of a configuration. -/
inductive Takes : String → Document → Prop
  | value {setting : Setting} {value : Setting.Value} (outside : setting.inPolicy = false)
      (takes : setting.Takes value) : Takes setting.member value.document
  | policy {members : List (String × Document)}
      (takes : ∀ member ∈ members, RetryPolicy.Takes member.1 member.2)
      (distinct : (members.map (·.1)).Nodup) : Takes "retry" (.object members)

/-- No number in a member is too large. -/
def memberFits (key : String) (document : Document) : Bool :=
  match document with
  | .object members => members.all fun member => numberFits member.1 member.2
  | document => numberFits key document

/-- What is kept of a configuration's members is a function of them. -/
theorem follows (processors : Option Processors) :
    (shape processors).Follows Parts.ofMembers Takes memberFits where
  start := rfl
  step := by
    intro read key document takes fresh
    have absent := lookup_eq_none_of_not_mem fresh
    have unset {α : Type} (get : Document → Option α) :
        ((read.lookup key).bind get).isSome = false := by
      rw [absent]
      rfl
    cases takes with
    | @value setting value outside takes =>
      have limit := memberBound_member setting
      cases setting with
      | retryMaxAttempts | retryWait | retryBackoff | retryBackoffAfter => cases outside
      | cacheMaxSize =>
        cases value with
        | truth value => cases takes
        | number n =>
          exact ⟨_, rfl, unset Document.natural?, reads_numberMember limit "usize"
            (fun n => ({ Parts.ofMembers read with cacheMaxSize := some n } : Parts)) rfl⟩
      | parallelWorkers =>
        cases value with
        | truth value => cases takes
        | number n =>
          exact ⟨_, rfl, unset Document.natural?, reads_numberMember limit "usize"
            (fun n => ({ Parts.ofMembers read with workers := some n } : Parts)) rfl⟩
      | cacheEnabled =>
        cases value with
        | number n => exact absurd rfl takes
        | truth value =>
          exact ⟨_, rfl, unset Document.truth?, (Json.reads_truth value).map
            fun value => ({ Parts.ofMembers read with cacheEnabled := some value } : Parts)⟩
    | @policy members takes distinct =>
      let put (policy : RetryPolicy) : Parts := { Parts.ofMembers read with retry := some policy }
      have kept : put (RetryPolicy.ofMembers members.reverse) =
          Parts.ofMembers (("retry", .object members) :: read) := rfl
      have reads := (RetryPolicy.reads_members takes distinct).map put
      have same : (if members.all fun member => numberFits member.1 member.2 then
          some (RetryPolicy.ofMembers members.reverse) else none).map put =
            if memberFits "retry" (.object members) then
              some (Parts.ofMembers (("retry", .object members) :: read))
            else none := by
        by_cases fits : (members.all fun member => numberFits member.1 member.2) = true
        · have fits' : memberFits "retry" (.object members) = true := fits
          rw [if_pos fits, if_pos fits']
          exact congrArg some kept
        · have unfit : ¬memberFits "retry" (.object members) = true := fits
          rw [if_neg fits, if_neg unfit]
          rfl
      rw [same] at reads
      exact ⟨_, rfl, unset policy?, reads⟩

/-- A configuration is read from its members if all of them fit. -/
theorem reads_members (processors : Option Processors) {members : List (String × Document)}
    (takes : ∀ member ∈ members, Takes member.1 member.2)
    (distinct : (members.map (·.1)).Nodup) :
    Reads (reader processors) (.object members)
      (if members.all fun member => memberFits member.1 member.2 then
        ((shape processors).build (Parts.ofMembers members.reverse)).toOption
      else none) :=
  (follows processors).reads_object (by simp [shape]) takes distinct

end Config

end ForeignEval

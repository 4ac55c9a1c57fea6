import ForeignEval.Retry
import Mathlib.Data.ENat.Lattice

/-!
# Runs of attempts

An operation is attempted until an attempt is **final**, which a transient one is not, or until no
attempt is left. Every attempt but the last is followed by one wait. So a run is known once the
number of its last attempt is, and that is the first final attempt or the last one allowed,
whichever comes first.

* **Final attempts** — `Attempt.firstFinal` is the number of the first, `⊤` if none ever is.
* **Steps** — `RetryPolicy.runFrom_of_final`, `RetryPolicy.runFrom_of_transient`: one attempt ends a
  run, or is followed by a wait and the rest of it.
* **Runs** — `RetryPolicy.runFrom_eq`: what happens up to the last attempt, and how the run ends.
* **Result** — `RetryPolicy.run_ends_with_first_final`.
-/

namespace ForeignEval

variable {α ε : Type}

/-! ## Final attempts -/

namespace Attempt

/-- Whether a run ends with this attempt, however many are left. -/
def isFinal : Attempt α ε → Bool
  | done _ | fatal _ => true
  | transient _ => false

/-- How a run ends whose last attempt has this number. -/
def conclude (number : Nat) : Attempt α ε → RetryResult α ε
  | done value => .done value
  | fatal error => .fatal error
  | transient fault => .exhausted number fault

/-- The number of the first attempt that is final, among attempts counted from one. -/
noncomputable def firstFinal (op : Nat → Attempt α ε) : ℕ∞ :=
  sInf ((fun number : Nat => (number : ℕ∞)) '' {number | 1 ≤ number ∧ (op number).isFinal = true})

variable {op : Nat → Attempt α ε} {number : Nat}

theorem eq_transient_of_not_final {attempt : Attempt α ε} (passing : attempt.isFinal = false) :
    ∃ fault, attempt = transient fault := by
  cases attempt with
  | done value => exact absurd passing Bool.true_eq_false_eq_False
  | fatal error => exact absurd passing Bool.true_eq_false_eq_False
  | transient fault => exact ⟨fault, rfl⟩

theorem not_final_of_lt_firstFinal (positive : 1 ≤ number)
    (before : (number : ℕ∞) < firstFinal op) : (op number).isFinal = false := by
  rw [Bool.eq_false_iff]
  intro final
  have first : firstFinal op ≤ number := sInf_le ⟨number, ⟨positive, final⟩, rfl⟩
  exact absurd before (not_lt.2 first)

theorem final_of_eq_firstFinal (first : firstFinal op = number) :
    1 ≤ number ∧ (op number).isFinal = true := by
  have some : ((fun number : Nat => (number : ℕ∞)) ''
      {number | 1 ≤ number ∧ (op number).isFinal = true}).Nonempty := by
    rw [Set.nonempty_iff_ne_empty]
    intro none
    unfold firstFinal at first
    rw [none, sInf_empty] at first
    exact ENat.top_ne_natCast number first
  obtain ⟨k, final, same⟩ := csInf_mem some
  have same : k = number := by
    have cast : (k : ℕ∞) = number := same.trans first
    exact_mod_cast cast
  subst same
  exact final

end Attempt

/-! ## Steps and runs -/

namespace RetryPolicy

variable {policy : RetryPolicy} {op : Nat → Attempt α ε} {left attempt last : Nat}

theorem runFrom_of_final (final : (op attempt).isFinal = true) :
    policy.runFrom op left attempt = ⟨(op attempt).conclude attempt, [.attempted attempt]⟩ := by
  unfold runFrom
  cases outcome : op attempt with
  | done value => rfl
  | fatal error => rfl
  | transient fault =>
    rw [outcome] at final
    cases final

theorem runFrom_zero :
    policy.runFrom op 0 attempt = ⟨(op attempt).conclude attempt, [.attempted attempt]⟩ := by
  unfold runFrom
  cases op attempt with
  | done value => rfl
  | fatal error => rfl
  | transient fault => rfl

theorem runFrom_of_transient (passing : (op attempt).isFinal = false) :
    policy.runFrom op (left + 1) attempt =
      ⟨(policy.runFrom op left (attempt + 1)).result,
        .attempted attempt :: .waited (policy.delayAfter attempt) ::
          (policy.runFrom op left (attempt + 1)).events⟩ := by
  obtain ⟨fault, outcome⟩ := Attempt.eq_transient_of_not_final passing
  conv_lhs => unfold runFrom
  rw [outcome]

/-- What happens from one attempt on to the last one. -/
def eventsUpTo (policy : RetryPolicy) (attempt last : Nat) : List RetryEvent :=
  ((List.range' attempt (last - attempt)).flatMap fun number =>
    [.attempted number, .waited (policy.delayAfter number)]) ++ [.attempted last]

theorem eventsUpTo_self : policy.eventsUpTo attempt attempt = [.attempted attempt] := by
  simp [eventsUpTo]

theorem eventsUpTo_of_lt (before : attempt < last) :
    policy.eventsUpTo attempt last =
      .attempted attempt :: .waited (policy.delayAfter attempt) ::
        policy.eventsUpTo (attempt + 1) last := by
  have one_less : last - attempt = (last - (attempt + 1)) + 1 := by omega
  unfold eventsUpTo
  rw [one_less, List.range'_succ]
  rfl

/-- A run goes on to the first attempt that is final or the last one allowed. -/
theorem runFrom_eq (start : attempt ≤ last) (allowed : last ≤ attempt + left)
    (passing : ∀ number, attempt ≤ number → number < last → (op number).isFinal = false)
    (ends : (op last).isFinal = true ∨ last = attempt + left) :
    policy.runFrom op left attempt =
      ⟨(op last).conclude last, policy.eventsUpTo attempt last⟩ := by
  induction left generalizing attempt with
  | zero =>
    have here : last = attempt := by omega
    subst here
    rw [runFrom_zero, eventsUpTo_self]
  | succ left ih =>
    by_cases here : attempt = last
    · subst here
      -- more attempts are allowed, so the run ends because this one is final
      have final : (op attempt).isFinal = true := by
        rcases ends with final | spent
        · exact final
        · omega
      rw [runFrom_of_final final, eventsUpTo_self]
    · have before : attempt < last := by omega
      have rest : policy.runFrom op left (attempt + 1) =
          ⟨(op last).conclude last, policy.eventsUpTo (attempt + 1) last⟩ := by
        refine ih before (by omega) ?_ (ends.imp_right fun spent => by omega)
        intro number from_next to_last
        exact passing number (by omega) to_last
      rw [runFrom_of_transient (passing attempt le_rfl before), rest, eventsUpTo_of_lt before]

theorem attempts_eventsUpTo (start : attempt ≤ last) :
    (policy.eventsUpTo attempt last).filterMap RetryEvent.attempt? =
      List.range' attempt (last + 1 - attempt) := by
  have one_more : last + 1 - attempt = last - attempt + 1 := by omega
  have at_end : attempt + (last - attempt) = last := by omega
  have each : ∀ numbers : List Nat,
      (numbers.flatMap fun number =>
        [RetryEvent.attempted number, .waited (policy.delayAfter number)]).filterMap
          RetryEvent.attempt? = numbers := by
    intro numbers
    induction numbers with
    | nil => rfl
    | cons number numbers ih => exact congrArg (number :: ·) ih
  unfold eventsUpTo
  rw [List.filterMap_append, each, one_more, List.range'_concat, one_mul, at_end]
  rfl

theorem one_le_budget (policy : RetryPolicy) : 1 ≤ policy.budget := le_max_right _ _

/-! ## Result -/

/-- The number of the last attempt that a policy makes: the first final one or the last one that is
allowed. -/
noncomputable def lastAttempt (policy : RetryPolicy) (op : Nat → Attempt α ε) : Nat :=
  (min (Attempt.firstFinal op) (max 1 policy.maxAttempts : Nat)).toNat

/-- What a policy makes of an operation. -/
structure EndsWithFirstFinal (policy : RetryPolicy) (op : Nat → Attempt α ε) : Prop where
  /-- The attempts are numbered from one on, without a gap. -/
  attempts : (policy.run op).attempts = List.range' 1 (policy.lastAttempt op)
  /-- Each attempt but the last is followed by one wait, the last one by none. -/
  events : (policy.run op).events =
    ((List.range' 1 (policy.lastAttempt op - 1)).flatMap fun number =>
      [.attempted number,
        .waited (if number < policy.backoffAfter then policy.wait else policy.backoff)]) ++
      [.attempted (policy.lastAttempt op)]
  /-- The numbers stay within 32 bits. -/
  counted : ∀ number ∈ (policy.run op).attempts, number < UInt32.size
  /-- The first final attempt is answered if it is done within the limit. -/
  done : ∀ (number : Nat) (value : α), Attempt.firstFinal op = number →
    number ≤ max 1 policy.maxAttempts → op number = .done value →
      policy.lastAttempt op = number ∧ (policy.run op).result = .done value
  /-- So it is if it is fatal. -/
  fatal : ∀ (number : Nat) (error : ε), Attempt.firstFinal op = number →
    number ≤ max 1 policy.maxAttempts → op number = .fatal error →
      policy.lastAttempt op = number ∧ (policy.run op).result = .fatal error
  /-- Without a final attempt within the limit, the run ends with the fault of the last one. -/
  exhausted : ((max 1 policy.maxAttempts : Nat) : ℕ∞) < Attempt.firstFinal op →
    ∃ fault, op (max 1 policy.maxAttempts) = .transient fault ∧
      policy.lastAttempt op = max 1 policy.maxAttempts ∧
      (policy.run op).result = .exhausted (max 1 policy.maxAttempts) fault

theorem lastAttempt_of_le {number : Nat} (first : Attempt.firstFinal op = number)
    (within : number ≤ max 1 policy.maxAttempts) : policy.lastAttempt op = number := by
  have least : min (number : ℕ∞) (max 1 policy.maxAttempts : Nat) = number :=
    min_eq_left (by exact_mod_cast within)
  unfold lastAttempt
  rw [first, least]
  rfl

theorem lastAttempt_of_lt
    (beyond : ((max 1 policy.maxAttempts : Nat) : ℕ∞) < Attempt.firstFinal op) :
    policy.lastAttempt op = max 1 policy.maxAttempts := by
  unfold lastAttempt
  rw [min_eq_right beyond.le]
  rfl

theorem coe_lastAttempt (policy : RetryPolicy) (op : Nat → Attempt α ε) :
    (policy.lastAttempt op : ℕ∞) =
      min (Attempt.firstFinal op) (max 1 policy.maxAttempts : Nat) := by
  refine ENat.natCast_toNat ?_
  exact ne_top_of_le_ne_top (ENat.natCast_ne_top _) (min_le_right _ _)

theorem lastAttempt_le (policy : RetryPolicy) (op : Nat → Attempt α ε) :
    policy.lastAttempt op ≤ max 1 policy.maxAttempts := by
  have least : (policy.lastAttempt op : ℕ∞) ≤ (max 1 policy.maxAttempts : Nat) := by
    rw [coe_lastAttempt]
    exact min_le_right _ _
  exact_mod_cast least

theorem one_le_lastAttempt (policy : RetryPolicy) (op : Nat → Attempt α ε) :
    1 ≤ policy.lastAttempt op := by
  rcases lt_or_ge ((max 1 policy.maxAttempts : Nat) : ℕ∞) (Attempt.firstFinal op) with
    beyond | within
  · rw [lastAttempt_of_lt beyond]
    exact le_max_left _ _
  · obtain ⟨number, first, within⟩ := ENat.le_natCast_iff.1 within
    rw [lastAttempt_of_le first within]
    exact (Attempt.final_of_eq_firstFinal first).1

/-- A run is what its last attempt makes of it. -/
theorem run_eq (policy : RetryPolicy) (op : Nat → Attempt α ε) :
    policy.run op =
      ⟨(op (policy.lastAttempt op)).conclude (policy.lastAttempt op),
        policy.eventsUpTo 1 (policy.lastAttempt op)⟩ := by
  have positive := policy.one_le_budget
  have same : policy.budget = max 1 policy.maxAttempts := max_comm _ _
  have limit := policy.lastAttempt_le op
  refine runFrom_eq (policy.one_le_lastAttempt op) (by omega) ?_ ?_
  · intro number from_one before
    refine Attempt.not_final_of_lt_firstFinal from_one ?_
    have cast : (number : ℕ∞) < policy.lastAttempt op := by exact_mod_cast before
    rw [coe_lastAttempt] at cast
    exact lt_of_lt_of_le cast (min_le_left _ _)
  · rcases lt_or_ge ((max 1 policy.maxAttempts : Nat) : ℕ∞) (Attempt.firstFinal op) with
      beyond | within
    · right
      rw [lastAttempt_of_lt beyond]
      omega
    · left
      obtain ⟨number, first, within⟩ := ENat.le_natCast_iff.1 within
      rw [lastAttempt_of_le first within]
      exact (Attempt.final_of_eq_firstFinal first).2

/-- **A run ends with its first final attempt.** Whatever the outcomes, and for every limit that
fits into 32 bits, zero and the greatest included: the attempts are numbered without a gap, one wait
stands between two of them, the short one before the backoff sets in, and the run ends with the
first final attempt, or with the fault of the last attempt that is allowed. -/
theorem run_ends_with_first_final (policy : RetryPolicy) (op : Nat → Attempt α ε)
    (fits : policy.maxAttempts < UInt32.size) : policy.EndsWithFirstFinal op where
  attempts := by
    rw [run_eq]
    exact attempts_eventsUpTo (policy.one_le_lastAttempt op)
  events := by
    rw [run_eq]
    rfl
  counted := by
    intro number made
    have limit := policy.lastAttempt_le op
    rw [run_eq] at made
    have numbered : number ∈ List.range' 1 (policy.lastAttempt op) :=
      attempts_eventsUpTo (policy.one_le_lastAttempt op) ▸ made
    have small : 1 < UInt32.size := by decide
    rw [List.mem_range'_1] at numbered
    omega
  done number value first within outcome := by
    have last := lastAttempt_of_le first within
    refine ⟨last, ?_⟩
    rw [run_eq, last, outcome]
    rfl
  fatal number error first within outcome := by
    have last := lastAttempt_of_le first within
    refine ⟨last, ?_⟩
    rw [run_eq, last, outcome]
    rfl
  exhausted beyond := by
    have last := lastAttempt_of_lt beyond
    obtain ⟨fault, outcome⟩ :=
      Attempt.eq_transient_of_not_final
        (Attempt.not_final_of_lt_firstFinal (le_max_left _ _) beyond)
    refine ⟨fault, outcome, last, ?_⟩
    rw [run_eq, last, outcome]
    rfl

/-- An operation that succeeds at its fourth attempt. -/
def fourthTime (number : Nat) : Attempt String Unit :=
  if number < 4 then .transient (.words "stale handle") else .done "found"

/-- A policy with as many attempts as can be counted makes four of them, with two lengths of
waits. -/
theorem run_ends_with_first_final_fourth :
    let policy : RetryPolicy := ⟨4294967295, 10, 500, 2⟩
    policy.maxAttempts < UInt32.size ∧ policy.EndsWithFirstFinal fourthTime ∧
      (policy.run fourthTime).events =
        [.attempted 1, .waited 10, .attempted 2, .waited 500, .attempted 3, .waited 500,
          .attempted 4] ∧
      (policy.run fourthTime).result = .done "found" :=
  ⟨by decide, run_ends_with_first_final _ _ (by decide), rfl, rfl⟩

end RetryPolicy

end ForeignEval

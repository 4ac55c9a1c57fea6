import ForeignEval.Files.Fault
import ForeignEval.Json.Reading

/-!
# Retrying

File systems that are slow or shared may fail for a moment. A retry policy says how often an
operation is attempted and how long to wait in between: a short wait at first, a longer backoff
once some attempts in a row have failed.

* **Runs** — `RetryPolicy.run` attempts an operation until it ends or the attempts are used up, and
  lists the attempts and the waits it made.
-/

namespace ForeignEval

open Files (Fault)

/-- How often to attempt an operation, and how long to wait in between. -/
structure RetryPolicy where
  /-- How many attempts are made at most; none counts as one. -/
  maxAttempts : Nat
  /-- The wait after an early failure, in milliseconds. -/
  wait : Nat
  /-- The wait after `backoffAfter` failures in a row, in milliseconds. -/
  backoff : Nat
  /-- After how many failures the backoff replaces the short wait. -/
  backoffAfter : Nat
deriving DecidableEq, Inhabited

/-- How one attempt ends. -/
inductive Attempt (α ε : Type) where
  | done (value : α)
  /-- With an error that another attempt would meet again. -/
  | fatal (error : ε)
  /-- With a fault that may pass. -/
  | transient (fault : Fault)

/-- How a run of attempts ends. -/
inductive RetryResult (α ε : Type) where
  | done (value : α)
  /-- With an error that is not worth another attempt. -/
  | fatal (error : ε)
  /-- With the fault of the last of so many attempts. -/
  | exhausted (attempts : Nat) (fault : Fault)

/-- What is done in a run of attempts. -/
inductive RetryEvent where
  /-- The attempt of this number was made. -/
  | attempted (number : Nat)
  /-- So many milliseconds were waited. -/
  | waited (milliseconds : Nat)
deriving DecidableEq

/-- The number of an attempt. -/
def RetryEvent.attempt? : RetryEvent → Option Nat
  | attempted number => some number
  | waited _ => none

/-- The length of a wait. -/
def RetryEvent.wait? : RetryEvent → Option Nat
  | attempted _ => none
  | waited milliseconds => some milliseconds

/-- A run of attempts. -/
structure RetryRun (α ε : Type) where
  /-- How the run ended. -/
  result : RetryResult α ε
  /-- The attempts and the waits, in order. -/
  events : List RetryEvent

/-- The numbers of the attempts, in order. -/
def RetryRun.attempts {α ε : Type} (run : RetryRun α ε) : List Nat :=
  run.events.filterMap RetryEvent.attempt?

/-- The waits between them, in milliseconds. -/
def RetryRun.sleeps {α ε : Type} (run : RetryRun α ε) : List Nat :=
  run.events.filterMap RetryEvent.wait?

namespace RetryPolicy

/-- The policy in use where nothing else is set. -/
def standard : RetryPolicy := ⟨3, 100, 1000, 2⟩

/-- One attempt, and no wait. -/
def once : RetryPolicy := ⟨1, 0, 0, 1⟩

/-- The wait after so many failures in a row. -/
def delayAfter (policy : RetryPolicy) (failed : Nat) : Nat :=
  if failed < policy.backoffAfter then policy.wait else policy.backoff

/-- How many attempts are made at most. -/
def budget (policy : RetryPolicy) : Nat := max policy.maxAttempts 1

variable {α ε : Type}

/-- Makes the attempt of this number and, while it fails in passing, up to `left` more. -/
def runFrom (policy : RetryPolicy) (op : Nat → Attempt α ε) :
    (left attempt : Nat) → RetryRun α ε
  | left, attempt =>
    match op attempt, left with
    | .done value, _ => ⟨.done value, [.attempted attempt]⟩
    | .fatal error, _ => ⟨.fatal error, [.attempted attempt]⟩
    | .transient fault, 0 => ⟨.exhausted attempt fault, [.attempted attempt]⟩
    | .transient _, left + 1 =>
      let rest := policy.runFrom op left (attempt + 1)
      ⟨rest.result, .attempted attempt :: .waited (policy.delayAfter attempt) :: rest.events⟩

/-- Attempts an operation, which is told the number of the attempt, counted from one. -/
def run (policy : RetryPolicy) (op : Nat → Attempt α ε) : RetryRun α ε :=
  policy.runFrom op (policy.budget - 1) 1

/-! ## In JSON -/

/-- The members of a policy that have been read so far. -/
structure Parts where
  /-- The number of attempts. -/
  maxAttempts : Option Nat := none
  /-- The short wait. -/
  wait : Option Nat := none
  backoff : Option Nat := none
  /-- The number of failures before the backoff. -/
  backoffAfter : Option Nat := none

/-- The members in JSON; each one left out has its standard value. -/
def shape : Json.Shape Parts RetryPolicy where
  name := "RetryPolicy"
  members := [
    { name := "max_attempts"
      isSet := fun parts => parts.maxAttempts.isSome
      read := fun parts s => do
        let (n, rest) ← Json.readShort s
        return ({ parts with maxAttempts := some n }, rest)
      inObject := false
      inArray := false },
    { name := "wait"
      isSet := fun parts => parts.wait.isSome
      read := fun parts s => do
        let (n, rest) ← Json.readLong s
        return ({ parts with wait := some n }, rest)
      inObject := false
      inArray := false },
    { name := "backoff"
      isSet := fun parts => parts.backoff.isSome
      read := fun parts s => do
        let (n, rest) ← Json.readLong s
        return ({ parts with backoff := some n }, rest)
      inObject := false
      inArray := false },
    { name := "backoff_after"
      isSet := fun parts => parts.backoffAfter.isSome
      read := fun parts s => do
        let (n, rest) ← Json.readShort s
        return ({ parts with backoffAfter := some n }, rest)
      inObject := false
      inArray := false }]
  start := {}
  build := fun parts => .ok {
    maxAttempts := parts.maxAttempts.getD standard.maxAttempts
    wait := parts.wait.getD standard.wait
    backoff := parts.backoff.getD standard.backoff
    backoffAfter := parts.backoffAfter.getD standard.backoffAfter }

/-- Reads a policy. -/
def reader : Json.Reader RetryPolicy := shape.read

/-! ## Text -/

/-- The digits of thousandths after a point, without the zeros at their end. -/
def fractionText (thousandths : Nat) : String :=
  if thousandths = 0 then ""
  else
    let digits := Nat.toDigits 10 thousandths
    let padded := List.replicate (3 - digits.length) '0' ++ digits
    String.ofList ('.' :: (padded.reverse.dropWhile (· = '0')).reverse)

/-- A time in milliseconds, in the greatest unit of which it has at least one. -/
def durationText (milliseconds : Nat) : String :=
  if milliseconds = 0 then "0ns"
  else if milliseconds < 1000 then toString milliseconds ++ "ms"
  else toString (milliseconds / 1000) ++ fractionText (milliseconds % 1000) ++ "s"

/-- The policy as a record. -/
def recordText (policy : RetryPolicy) : String :=
  "RetryPolicy \x7b max_attempts: " ++ toString policy.maxAttempts ++
    ", wait: " ++ durationText policy.wait ++
    ", backoff: " ++ durationText policy.backoff ++
    ", backoff_after: " ++ toString policy.backoffAfter ++ " \x7d"

end RetryPolicy

end ForeignEval

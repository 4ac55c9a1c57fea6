import ForeignEval.Cache
import ForeignEval.Command.Arguments
import ForeignEval.Error
import ForeignEval.Json.Document
import ForeignEval.Json.ReadError

/-!
# How commands end

What a command leaves behind: its output, for an evaluation a summary, and a failure if there was
one. The output may be there although the command failed afterwards.

* **Failures** — `Failure.text` gives an error with the advice for it, or the command's own words
  with the cause behind them.
* **Status** — `Ended.status` is the number that the program hands to its caller.
-/

namespace ForeignEval.Command

open Files (Fault)

/-! ## Failures -/

/-- Why a command failed. -/
inductive Failure where
  /-- An operation of the library failed. -/
  | error (e : Error)
  /-- The input cannot be read from where it is. -/
  | unreadable (place : String) (fault : Fault)
  /-- The input is no array of rows of numbers. -/
  | noRows (e : Json.ReadError)
  /-- A row of the input has not as many values as the function wants. -/
  | badRow (index length expected : Nat)
  /-- Foreign code unwound. -/
  | unwound (text : String)
  /-- The arguments are refused. -/
  | refused (reason : Refusal)
deriving DecidableEq

namespace Failure

/-- What failed. -/
def headline : Failure → String
  | error e => e.withHint
  | unreadable place _ => "failed to read " ++ place
  | noRows _ => "input must be a JSON array of numeric rows"
  | badRow index length expected =>
    "row " ++ toString index ++ " has " ++ toString length ++ " value(s), expected " ++
      toString expected
  | unwound text => text
  | refused reason => reason.message

/-- What led to it, where the headline does not say so. -/
def cause? : Failure → Option String
  | unreadable _ fault => some fault.message
  | noRows e => some e.message
  | _ => none

/-- The text for the user. -/
def text (failure : Failure) : String :=
  "Error: " ++ failure.headline ++
    match failure.cause? with
    | none => ""
    | some cause => "\n\nCaused by:\n    " ++ cause

/-- The status of a program that fails this way. -/
def status : Failure → Nat
  | refused _ => 2
  | unwound _ => 101
  | _ => 1

end Failure

/-! ## Ends -/

/-- What is told about an evaluation. -/
structure Summary where
  /-- How many rows the batch has. -/
  rows : Nat
  /-- How often it was evaluated. -/
  repetitions : Nat
  /-- How many points have been handed to the foreign code. -/
  foreignCalls : Nat
  /-- The counters of the cache. -/
  cache : CacheStats
deriving DecidableEq

/-- The counters of a cache in JSON. -/
def statsDocument (stats : CacheStats) : Json.Document :=
  .object [
    ("entries", .natural stats.entries),
    ("max_size", .natural stats.maxSize),
    ("hits", .natural stats.hits),
    ("misses", .natural stats.misses),
    ("enabled", .truth stats.enabled)]

/-- The summary in JSON, with the time that the command took in milliseconds. -/
def Summary.document (summary : Summary) (elapsed : Nat) : Json.Document :=
  .object [
    ("rows", .natural summary.rows),
    ("repeat", .natural summary.repetitions),
    ("foreign_calls", .natural summary.foreignCalls),
    ("cache", statsDocument summary.cache),
    ("elapsed_ms", .natural elapsed)]

/-- What a command leaves behind. -/
structure Ended where
  /-- The text on the standard output. -/
  output : String := ""
  /-- What is told about an evaluation. -/
  summary : Option Summary := none
  /-- Why the command failed, if it did. -/
  failure : Option Failure := none
deriving DecidableEq

namespace Ended

/-- The end of a command that did nothing but fail. -/
def failed (failure : Failure) : Ended := { failure := some failure }

/-- The end of a command after which one more operation ended; the first failure counts. -/
def andThen (ended : Ended) : Except Error Unit → Ended
  | .ok _ => ended
  | .error e => { ended with failure := ended.failure.or (some (.error e)) }

/-- The status that the program hands to its caller. -/
def status (ended : Ended) : Nat := (ended.failure.map (·.status)).getD 0

end Ended

end ForeignEval.Command

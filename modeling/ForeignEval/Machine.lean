import ForeignEval.Foreign.Trace

/-!
# Machines

What evaluations depend on of the machine that they run on: how many threads can run at once, and
which of the chunks of a batch a thread that has nothing to do takes up next.

* **Processors** — `Processors`: there is one at least.
* **Schedules** — `Schedule`: chunks may be taken up in any order, and are given up only if foreign
  code has unwound.
* **Halves** — `Schedule.inHalves`: chunks are taken up in order, and in halves of halves of which
  each is given up by itself.
-/

namespace ForeignEval

open Foreign (Trace)

/-! ## Processors -/

/-- How many threads can run at once. -/
structure Processors where
  count : Nat
  /-- There is one at least. -/
  positive : 0 < count

/-! ## Schedules -/

/-- How far the evaluation of a chunk has come. -/
inductive Standing where
  /-- It has not begun. -/
  | waiting
  /-- It has come to outputs or to an error. -/
  | ended
  /-- Foreign code has unwound in it. -/
  | unwound
deriving DecidableEq

/-- A way to share out the chunks of a batch among threads. -/
structure Schedule where
  /-- The place of the chunk that is evaluated next, given what has happened so far and how far each
  chunk has come; nothing if the chunks that still wait are given up. -/
  next : Trace → List Standing → Option Nat
  /-- Only a chunk that waits is evaluated. -/
  waits : ∀ {trace chunks place}, next trace chunks = some place →
    chunks[place]? = some .waiting
  /-- Chunks are given up only if foreign code has unwound. -/
  givesUp : ∀ {trace chunks}, next trace chunks = none → .waiting ∈ chunks → .unwound ∈ chunks

namespace Schedule

/-! ## Halves -/

/-- The place of the first chunk that waits, unless foreign code has unwound in one before it. -/
def nextInOrder : List Standing → Option Nat
  | [] => none
  | .waiting :: _ => some 0
  | .ended :: chunks => (nextInOrder chunks).map (· + 1)
  | .unwound :: _ => none

/-- The place of the first chunk that waits when a list of chunks is halved so many times, and what
is left of a part is given up once foreign code has unwound in it. After a first half in which it
has, the second half is halved as often as told for that. -/
def nextInHalves (afterUnwinding halvings : Nat) (chunks : List Standing) : Option Nat :=
  match halvings with
  | 0 => nextInOrder chunks
  | halvings + 1 =>
    if chunks.length < 2 then nextInOrder chunks
    else
      let half := chunks.length / 2
      let first := chunks.take half
      match nextInHalves afterUnwinding halvings first with
      | some place => some place
      | none =>
        let halvings := if .unwound ∈ first then afterUnwinding else halvings
        (nextInHalves afterUnwinding halvings (chunks.drop half)).map (half + ·)
termination_by chunks.length
decreasing_by
  · simp only [List.length_take]; omega
  · simp only [List.length_drop]; omega

theorem waits_nextInOrder {chunks : List Standing} {place : Nat}
    (next : nextInOrder chunks = some place) : chunks[place]? = some .waiting := by
  induction chunks generalizing place with
  | nil => cases next
  | cons chunk chunks ih =>
    cases chunk with
    | waiting =>
      cases next
      rfl
    | unwound => cases next
    | ended =>
      obtain ⟨later, found, rfl⟩ := Option.map_eq_some_iff.1 next
      exact ih found

theorem givesUp_nextInOrder {chunks : List Standing} (stopped : nextInOrder chunks = none)
    (waiting : .waiting ∈ chunks) : .unwound ∈ chunks := by
  induction chunks with
  | nil => cases waiting
  | cons chunk chunks ih =>
    cases chunk with
    | waiting => cases stopped
    | unwound => exact List.mem_cons_self
    | ended =>
      have others : .waiting ∈ chunks := by simpa using waiting
      exact List.mem_cons_of_mem _ (ih (Option.map_eq_none_iff.1 stopped) others)

theorem waits_nextInHalves (afterUnwinding halvings : Nat) (chunks : List Standing) :
    ∀ {place : Nat}, nextInHalves afterUnwinding halvings chunks = some place →
      chunks[place]? = some .waiting := by
  fun_induction nextInHalves afterUnwinding halvings chunks with
  | case1 chunks => exact waits_nextInOrder
  | case2 chunks halvings few => exact waits_nextInOrder
  | case3 chunks halvings many half first place taken =>
    rename_i ih
    rintro _ ⟨⟩
    have found := ih taken
    -- the place is one of the first half
    rw [List.getElem?_take] at found
    split at found
    · exact found
    · cases found
  | case4 chunks halvings many half first stopped halvings' ih =>
    rename_i ih'
    intro place taken
    obtain ⟨later, found, rfl⟩ := Option.map_eq_some_iff.1 taken
    rw [← List.getElem?_drop]
    exact ih' found

theorem givesUp_nextInHalves (afterUnwinding halvings : Nat) (chunks : List Standing) :
    nextInHalves afterUnwinding halvings chunks = none → .waiting ∈ chunks →
      .unwound ∈ chunks := by
  fun_induction nextInHalves afterUnwinding halvings chunks with
  | case1 chunks => exact givesUp_nextInOrder
  | case2 chunks halvings few => exact givesUp_nextInOrder
  | case3 chunks halvings many half first place taken => exact fun stopped => nomatch stopped
  | case4 chunks halvings many half first stopped halvings' ih =>
    rename_i ih'
    intro stopped' waiting
    rw [← List.take_append_drop half chunks] at waiting
    rcases List.mem_append.1 waiting with lower | upper
    · exact List.mem_of_mem_take (ih stopped lower)
    · exact List.mem_of_mem_drop (ih' (Option.map_eq_none_iff.1 stopped') upper)

/-- Chunks in order, in halves of halves: halved so many times at first, and so many times where a
thread takes over after foreign code has unwound. -/
def inHalves (halvings afterUnwinding : Nat) : Schedule where
  next _ := nextInHalves afterUnwinding halvings
  waits := waits_nextInHalves afterUnwinding halvings _
  givesUp := givesUp_nextInHalves afterUnwinding halvings _

/-- Chunks in order, until foreign code unwinds. -/
def inOrder : Schedule where
  next _ := nextInOrder
  waits := waits_nextInOrder
  givesUp := givesUp_nextInOrder

end Schedule

/-! ## Machines -/

/-- What evaluations depend on of the machine that they run on. -/
structure Machine where
  /-- How many threads can run at once, if the system tells. -/
  processors : Option Processors
  /-- How chunks are shared out among threads. -/
  schedule : Schedule

end ForeignEval

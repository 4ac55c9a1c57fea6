import ForeignEval.Proofs.Workspace.Recall

/-!
# Resolved points are never computed again

Evaluators and pools share a cache that has room for all points that they will be asked for. Once a
request for a point has been answered, the point is never handed to foreign code again, and it is
answered with the same output ever after, whatever fails in between.

* **Turns** — a `Turn` is a step of a run with its outcome and its calls; `Turn.Respects` says what
  it owes to outputs that the cache served before.
* **Invariant** — `Workspace.Sharing`; `Sharing.recalled`: a step recalls and keeps it;
  `Recalled.respects`: its turn respects what the cache served before.
* **Run** — `Sharing.respects_run`, and `resolved_points_stay` for all pairs of turns.
-/

namespace ForeignEval

open Foreign (Call Trace)
open Workspace (Name Outcome Step Value)

namespace Workspace

/-- A step of a run with what came of it. -/
structure Turn where
  /-- What was asked. -/
  step : Step
  /-- The answer. -/
  outcome : Outcome
  /-- The foreign calls that were made. -/
  calls : List Call

/-- The turns of a run. -/
def turns (w : Workspace) (steps : List Step) : List Turn :=
  steps.zipWith (fun step answer => ⟨step, answer.1, answer.2⟩) (w.run steps).1

/-- The value that a turn was answered with. -/
def Turn.value? (turn : Turn) : Option Value := turn.outcome.value?

/-- A turn that respects outputs that were known before it; `infoOf` tells what the functions of
runners declare. -/
structure Turn.Respects (infoOf : Name → Option FunctionInfo) (known : Point → Option Point)
    (turn : Turn) : Prop where
  /-- Points with an output are not handed over. -/
  spared : ∀ call ∈ turn.calls, ∀ point ∈ call.points, known point = none
  /-- If all points have an output, nothing is called. -/
  silent : (∀ point ∈ turn.step.points, known point ≠ none) → turn.calls = []
  /-- Points with an output are answered with it. -/
  same : ∀ value, turn.value? = some value → ∀ entry ∈ turn.step.outputs value,
    ∀ output, known entry.1 = some output → entry.2 = output
  /-- A batch of which all rows have an output of the declared length is answered. -/
  repeated : ∀ id dimension rows, turn.step = .evaluateBatch id dimension rows →
    (∀ row ∈ rows, row.length = dimension) →
    ∀ info, infoOf id = some info → dimension = info.inputDimension →
      (∀ row ∈ rows, ∃ value : Plan.Output info, known row = some value.1) →
        ∃ value, turn.value? = some value ∧ value.OutputsOf info known rows

namespace Turn.Respects

variable {infoOf : Name → Option FunctionInfo} {known later : Point → Option Point} {turn : Turn}

/-- Outputs that are known early are respected if all that are known later are. -/
theorem of_kept (respects : turn.Respects infoOf later)
    (kept : ∀ point value, known point = some value → later point = some value) :
    turn.Respects infoOf known where
  spared call made point mem := by
    have absent := respects.spared call made point mem
    refine Option.eq_none_iff_forall_ne_some.2 fun value found => ?_
    rw [kept point value found] at absent
    cases absent
  silent all := by
    refine respects.silent fun point mem absent => ?_
    obtain ⟨value, found⟩ := Option.ne_none_iff_exists'.1 (all point mem)
    rw [kept point value found] at absent
    cases absent
  same value ok entry mem output found :=
    respects.same value ok entry mem output (kept entry.1 output found)
  repeated id dimension rows step right info declares declared all := by
    have same : ∀ row ∈ rows, later row = known row := by
      intro row mem
      obtain ⟨value, found⟩ := all row mem
      rw [found, kept row value.1 found]
    have all' : ∀ row ∈ rows, ∃ value : Plan.Output info, later row = some value.1 := by
      intro row mem
      rw [same row mem]
      exact all row mem
    obtain ⟨value, ok, output, rfl, dimension, text, served⟩ :=
      respects.repeated id dimension rows step right info declares declared all'
    exact ⟨_, ok, output, rfl, dimension, text, served.trans (List.map_congr_left same)⟩

end Turn.Respects

/-! ## Steps -/

variable {w : Workspace} {number : Nat} {pending : List Point} {step : Step}

/-- What the function of the runner of a name declares. -/
def infoOf (w : Workspace) (id : Name) : Option FunctionInfo := (w.profileOf id).map (·.2)

theorem mem_callsOf {after : Workspace} {events : Trace} {call : Call} :
    call ∈ callsOf step after events ↔ call ∈ callsIn events := by
  unfold callsOf
  split
  · split
    · exact List.mem_mergeSort
    · exact Iff.rfl
  · exact Iff.rfl

/-- What holds of all that was added to the trace holds of the calls of a step. -/
theorem exists_event_of_call {P : Foreign.Event → Prop} {later : Workspace}
    (grows : w.trace.Grows P later.trace) {call : Call}
    (mem : call ∈ callsOf step later (later.trace.drop w.trace.length)) :
    ∃ event, event.call? = some call ∧ P event := by
  obtain ⟨events, same, kind⟩ := grows
  rw [mem_callsOf, same, List.drop_left] at mem
  obtain ⟨event, there, called⟩ := List.mem_filterMap.1 mem
  exact ⟨event, called, kind event there⟩

/-- The turn of a step. -/
def turn (w : Workspace) (step : Step) : Turn := ⟨step, (w.step step).1, (w.step step).2.1⟩

theorem turns_cons (w : Workspace) (step : Step) (steps : List Step) :
    w.turns (step :: steps) = w.turn step :: (w.step step).2.2.turns steps := rfl

/-- A workspace with an enabled cache that has room for points to come. -/
structure Sharing (number : Nat) (pending : List Point) (w : Workspace) : Prop where
  /-- There is a cache of this number. -/
  inside : number < w.caches.length
  /-- It has room. -/
  hasRoom : (w.cacheAt number).HasRoom pending

/-- A turn respects what the cache knew before it. -/
theorem Recalled.respects
    (recalled : Recalled number step w (w.step step).1 (w.step step).2.2) :
    (w.turn step).Respects w.infoOf (w.cacheAt number).peek where
  spared call made point mem := by
    obtain ⟨event, called, -, unknown⟩ := exists_event_of_call recalled.advanced.needed made
    exact unknown call called point mem
  silent all := by
    refine List.eq_nil_iff_forall_not_mem.2 fun call made => ?_
    obtain ⟨-, -, ⟨point, mem, absent⟩, -⟩ := exists_event_of_call recalled.advanced.needed made
    exact all point mem absent
  same value ok entry mem output found := by
    have served := recalled.served value ok entry mem
    rw [recalled.advanced.learned.kept entry.1 output found] at served
    exact (Option.some.inj served).symm
  repeated id dimension rows same right info declares declared all := by
    obtain ⟨profile, found, rfl⟩ := Option.map_eq_some_iff.1 declares
    obtain ⟨value, ok⟩ :=
      recalled.repeated id dimension rows same right profile.1 profile.2 found declared all
    obtain ⟨-, used, info, found', -, output, rfl, shape, text, served⟩ :=
      recalled.shaped value ok id dimension rows same
    obtain rfl : profile = (used, info) := Option.some.inj (found.symm.trans found')
    refine ⟨_, ok, output, rfl, shape, text, served.trans (List.map_congr_left fun row mem => ?_)⟩
    obtain ⟨value, known⟩ := all row mem
    rw [known, recalled.advanced.learned.kept row value.1 known]

/-- **Step**: a step at a cache with room leaves room for the others. -/
theorem Sharing.recalled (sharing : w.Sharing number pending) (uses : step.Uses w number)
    (sub : step.points ⊆ pending) :
    Recalled number step w (w.step step).1 (w.step step).2.2 ∧
      (w.step step).2.2.Sharing number pending := by
  have recalled := recalled_act uses sharing.inside (sharing.hasRoom.mono sub)
  exact ⟨recalled, recalled.advanced.caches ▸ sharing.inside,
    sharing.hasRoom.of_learned recalled.advanced.learned sub⟩

theorem Advanced.uses {points : List Point} {later : Workspace}
    (advanced : Advanced number points w later) (uses : step.Uses w number) :
    step.Uses later number := by
  cases step with
  | evaluate id | evaluateBatch id =>
    intro used info found
    rw [advanced.profiles] at found
    exact uses used info found
  | _ => exact uses

/-! ## Runs -/

namespace Sharing

variable {steps : List Step}

/-- All turns of a run respect what the cache knew before it. -/
theorem respects_run (sharing : w.Sharing number pending)
    (uses : ∀ step ∈ steps, step.Uses w number) (sub : ∀ step ∈ steps, step.points ⊆ pending) :
    ∀ turn ∈ w.turns steps, turn.Respects w.infoOf (w.cacheAt number).peek := by
  induction steps generalizing w with
  | nil => exact fun _ mem => absurd mem List.not_mem_nil
  | cons step steps ih =>
    obtain ⟨use, others⟩ := List.forall_mem_cons.1 uses
    obtain ⟨asked, rest⟩ := List.forall_mem_cons.1 sub
    obtain ⟨recalled, after⟩ := sharing.recalled use asked
    have uses' : ∀ step' ∈ steps, step'.Uses (w.step step).2.2 number := fun step' mem =>
      recalled.advanced.uses (others step' mem)
    rw [turns_cons]
    refine List.forall_mem_cons.2 ⟨recalled.respects, fun turn mem => ?_⟩
    -- the cache knows more after the first step, and the others respect that
    have respects := ih after uses' rest turn mem
    unfold infoOf at respects ⊢
    rw [recalled.advanced.profiles] at respects
    exact respects.of_kept recalled.advanced.learned.kept

end Sharing

/-- What an answered turn means for a later one. -/
structure Turn.Remembered (infoOf : Name → Option FunctionInfo) (earlier : Turn) (value : Value)
    (later : Turn) : Prop where
  /-- Its points are not handed over again. -/
  spared : ∀ point ∈ earlier.step.points, ∀ call ∈ later.calls, point ∉ call.points
  /-- If the later turn asks for such points only, it calls nothing. -/
  silent : later.step.points ⊆ earlier.step.points → later.calls = []
  /-- Its points are answered with the same outputs. -/
  same : ∀ value', later.value? = some value' → ∀ point output output',
    (point, output) ∈ earlier.step.outputs value →
      (point, output') ∈ later.step.outputs value' → output' = output
  /-- The same batch, on a runner with the same declaration, is answered with the same value. -/
  repeated : ∀ id id' dimension rows, earlier.step = .evaluateBatch id dimension rows →
    later.step = .evaluateBatch id' dimension rows → infoOf id' = infoOf id →
      later.value? = some value

/-- The outputs of a turn, once they are in the cache, are remembered by all turns that respect
it. -/
theorem Recalled.remembered
    (recalled : Recalled number step w (w.step step).1 (w.step step).2.2) {value : Value}
    (ok : (w.turn step).value? = some value) {later : Turn}
    (respects : later.Respects w.infoOf ((w.step step).2.2.cacheAt number).peek) :
    Turn.Remembered w.infoOf (w.turn step) value later := by
  have known : ∀ point ∈ step.points, ((w.step step).2.2.cacheAt number).peek point ≠ none := by
    intro point mem absent
    rw [← recalled.whole value ok] at mem
    obtain ⟨entry, there, rfl⟩ := List.mem_map.1 mem
    rw [recalled.served value ok entry there] at absent
    cases absent
  constructor
  case spared =>
    intro point mem call made there
    exact known point mem (respects.spared call made point there)
  case silent => exact fun sub => respects.silent fun point mem => known point (sub mem)
  case same =>
    intro value' ok' point output output' mem mem'
    exact respects.same value' ok' (point, output') mem' output
      (recalled.served value ok (point, output) mem)
  case repeated =>
    intro id id' dimension rows same same' declares
    obtain ⟨right, used, info, found, declared, outputs⟩ :=
      recalled.shaped value ok id dimension rows same
    have info' : w.infoOf id' = some info := by
      rw [declares, infoOf, found]
      rfl
    obtain ⟨value', ok', outputs'⟩ :=
      respects.repeated id' dimension rows same' right info info' declared outputs.known
    rw [ok', outputs'.unique outputs]

/-- The turns of a run leave their outputs to those after them. -/
theorem Sharing.remembered_run {steps : List Step} (sharing : w.Sharing number pending)
    (uses : ∀ step ∈ steps, step.Uses w number) (sub : ∀ step ∈ steps, step.points ⊆ pending) :
    (∀ turn ∈ w.turns steps, ∀ value, turn.value? = some value →
        (turn.step.outputs value).map (·.1) = turn.step.points) ∧
      (w.turns steps).Pairwise fun earlier later => ∀ value, earlier.value? = some value →
        Turn.Remembered w.infoOf earlier value later := by
  induction steps generalizing w with
  | nil => exact ⟨fun _ mem => absurd mem List.not_mem_nil, .nil⟩
  | cons step steps ih =>
    obtain ⟨use, others⟩ := List.forall_mem_cons.1 uses
    obtain ⟨asked, rest⟩ := List.forall_mem_cons.1 sub
    obtain ⟨recalled, after⟩ := sharing.recalled use asked
    have uses' : ∀ step' ∈ steps, step'.Uses (w.step step).2.2 number := fun step' mem =>
      recalled.advanced.uses (others step' mem)
    have same : (w.step step).2.2.infoOf = w.infoOf := by
      unfold infoOf
      rw [recalled.advanced.profiles]
    have respects := after.respects_run uses' rest
    obtain ⟨whole, remembered⟩ := ih after uses' rest
    rw [same] at respects remembered
    rw [turns_cons]
    refine ⟨List.forall_mem_cons.2 ⟨recalled.whole, whole⟩, List.pairwise_cons.2
      ⟨fun later mem value ok => ?_, remembered⟩⟩
    exact recalled.remembered ok (respects later mem)

end Workspace

/-- **Resolved points are never computed again.** Evaluators and pools share an enabled cache, of
which the size is no less than its entries and the points that will be asked for, together. Each
answered request has an output for each of its points. After it, none of these points is handed to
foreign code again, and they are answered with the same outputs; the same batch is answered with
the same value and without any call. -/
theorem resolved_points_stay {w : Workspace} {number : Nat} {steps : List Step}
    (inside : number < w.caches.length) (sound : (w.cacheAt number).WellFormed)
    (enabled : (w.cacheAt number).enabled = true) (uses : ∀ step ∈ steps, step.Uses w number)
    (room : (w.cacheAt number).size + (steps.flatMap Step.points).dedup.length ≤
      (w.cacheAt number).maxSize) :
    (∀ turn ∈ w.turns steps, ∀ value, turn.value? = some value →
        (turn.step.outputs value).map (·.1) = turn.step.points) ∧
      (w.turns steps).Pairwise fun earlier later => ∀ value, earlier.value? = some value →
        Workspace.Turn.Remembered w.infoOf earlier value later := by
  have sharing : w.Sharing number (steps.flatMap Step.points) :=
    ⟨inside, .of_size sound enabled room⟩
  exact sharing.remembered_run uses fun step mem point there =>
    List.mem_flatMap.2 ⟨step, mem, there⟩

/-- The evaluator and the pool of `shared`, on a cache with one entry that has room for four. -/
def spacious : Workspace := { shared with caches := [(Cache.new 5).insert [⟨5⟩] [⟨5⟩, ⟨5⟩]] }

/-- A point; a batch that fails, since one of its points is refused; a batch that does not; and a
batch of known points and a new one for the pool. -/
def asking : List Step :=
  [.evaluate "p" [⟨1⟩], .evaluateBatch "e" 1 [[⟨1⟩], [⟨2⟩], [⟨7⟩]],
    .evaluateBatch "e" 1 [[⟨2⟩], [⟨1⟩], [⟨2⟩]], .evaluateBatch "p" 1 [[⟨2⟩], [⟨3⟩], [⟨1⟩]]]

theorem asking_uses : ∀ step ∈ asking, step.Uses spacious 0 := by
  intro step mem
  simp only [asking, List.mem_cons, List.not_mem_nil, or_false] at mem
  rcases mem with rfl | rfl | rfl | rfl
  all_goals
    intro used info found
    cases found
    rfl

/-- The law at work, after a failure too: the first and the third request are answered. -/
theorem resolved_points_stay_spacious :
    0 < spacious.caches.length ∧ (spacious.cacheAt 0).WellFormed ∧
      (spacious.cacheAt 0).enabled = true ∧ (∀ step ∈ asking, step.Uses spacious 0) ∧
      (spacious.cacheAt 0).size + (asking.flatMap Step.points).dedup.length ≤
        (spacious.cacheAt 0).maxSize ∧
      ((spacious.turns asking).take 3).map (·.value?.isSome) = [true, false, true] ∧
      (∀ turn ∈ spacious.turns asking, ∀ value, turn.value? = some value →
        (turn.step.outputs value).map (·.1) = turn.step.points) ∧
      (spacious.turns asking).Pairwise fun earlier later => ∀ value,
        earlier.value? = some value →
          Workspace.Turn.Remembered spacious.infoOf earlier value later := by
  have inside : 0 < spacious.caches.length := Nat.zero_lt_one
  have sound : (spacious.cacheAt 0).WellFormed := (Cache.wellFormed_new 5).insert _ _
  have room : (spacious.cacheAt 0).size + (asking.flatMap Step.points).dedup.length ≤
      (spacious.cacheAt 0).maxSize := by decide
  exact ⟨inside, sound, rfl, asking_uses, room, by decide,
    resolved_points_stay inside sound rfl asking_uses room⟩

end ForeignEval

import ForeignEval.Proofs.Workspace.Books
import ForeignEval.Proofs.Workspace.Bystanders
import ForeignEval.Proofs.Workspace.Contract

/-!
# Whose states are called

A binding accepts the states that it has made itself and no others, which is decided by identities:
each binding gets one of its own, and its states carry it. Whatever is done with a workspace, states
that have names are alive, each with one maker among all bindings there have been, and nothing is
called on them but by their makers.

* **History** — `Workspace.bound` and `Workspace.made`: what has been bound and made in a run.
* **Bindings** — `Workspace.Numbered`: identities are given out in order.
* **States** — `Workspace.Tends`: a state is alive and no runner has it; `Workspace.Owned`: every
  named state is tended to and has a maker. `Owned.after` is the step, `Owned.moves` the run.
* **Result** — `states_stay_with_makers`.
-/

namespace ForeignEval

open Foreign (Call Ending StateId Table Trace)
open Workspace (Name Request StateCall Step Move)

namespace Foreign.Trace

variable {id : StateId} {before after : Trace}

/-- Whether a state is alive can be told from its life. -/
theorem alive_iff : before.Alive id ↔ (.create id.number, .returned) ∈ before.lifeOf id ∧
    ∀ ending, (.delete id.number, ending) ∉ before.lifeOf id := by
  simp [Alive, Shows, mem_lifeOf, Call.state]

theorem Alive.of_lifeOf_eq (alive : before.Alive id) (same : after.lifeOf id = before.lifeOf id) :
    after.Alive id := by
  rw [alive_iff] at alive ⊢
  rw [same]
  exact alive

/-- Only freeing it ends the life of a state. -/
theorem Alive.called {table : Table} {number : Nat} (alive : before.Alive (table.idOf number))
    {call : Call} (own : call.state = number) (kept : call ≠ .delete number) (ending : Ending) :
    Alive (before ++ table.events [(call, ending)]) (table.idOf number) := by
  have life : lifeOf (before ++ table.events [(call, ending)]) (table.idOf number) =
      before.lifeOf (table.idOf number) ++ [(call, ending)] :=
    lifeOf_append_events before (List.forall_mem_singleton.2 own)
  rw [alive_iff] at alive ⊢
  obtain ⟨made, undeleted⟩ := alive
  rw [life]
  refine ⟨List.mem_append_left _ made, fun ending mem => ?_⟩
  rcases List.mem_append.1 mem with old | new
  · exact undeleted ending old
  · exact kept (congrArg Prod.fst (List.mem_singleton.1 new)).symm

end Foreign.Trace

namespace Workspace

variable {w : Workspace}

/-! ## History -/

/-- What is bound when something is done with a workspace. -/
def boundBy (w : Workspace) : Move → Option Binding
  | .step (.bind _ module function) =>
    (Binding.build w.registry w.nextBinding module function w.trace).1.toOption
  | .step (.bindLocal _ function script) =>
    some (.ofTable w.nextBinding function (script.table (.inProcess w.nextBinding)))
  | _ => none

/-- The state that is made by hand when something is done with a workspace, and its maker. -/
def madeBy (w : Workspace) : Move → Option (Binding × State)
  | .step (.createState _ maker) => do
    let binding ← w.bindings.lookup maker
    let state ← (binding.createState w.trace).1.toOption
    return (binding, state)
  | _ => none

/-- What comes of the things that are done with a workspace in order. -/
def history {α : Type} (f : Workspace → Move → Option α) (w : Workspace) : List Move → List α
  | [] => []
  | first :: rest => (f w first).toList ++ history f (w.move first) rest

/-- All bindings there have been. -/
def bound (w : Workspace) (moves : List Move) : List Binding := w.history boundBy moves

/-- All states that have been made by hand, with their makers. -/
def made (w : Workspace) (moves : List Move) : List (Binding × State) := w.history madeBy moves

/-! ## Bindings -/

/-- A binding that has been built has the identity that it was to get. -/
theorem id_build {registry : Registry} {id : Nat} {module function : String} {trace : Trace}
    {binding : Binding}
    (built : (Binding.build registry id module function trace).1 = .ok binding) :
    binding.id = id := by
  have builds := Binding.builds_build registry id module function trace
  generalize Binding.build registry id module function trace = result at builds built
  cases builds with
  | failed | incomplete => cases built
  | complete =>
    cases built
    rfl

/-- These are all bindings there have been, with identities in order. -/
structure Numbered (all : List Binding) (w : Workspace) : Prop where
  next : w.nextBinding = all.length + 1
  identities : all.map (·.id) = List.range' 1 all.length
  named : ∀ entry ∈ w.bindings, entry.2 ∈ all

namespace Numbered

variable {all : List Binding} {later : Workspace}

theorem id_inj (numbered : w.Numbered all) {a b : Binding} (mem : a ∈ all) (mem' : b ∈ all)
    (same : a.id = b.id) : a = b := by
  have distinct : (all.map (·.id)).Nodup := by
    rw [numbered.identities]
    exact List.nodup_range'
  exact List.inj_on_of_nodup_map distinct mem mem' same

/-- Nothing is bound, but bindings may have got other names. -/
theorem of_books {bindings : List (Name × Binding)} {states : List (Name × State)}
    (numbered : w.Numbered all) (same : later.books = (w.nextBinding, bindings, states))
    (known : ∀ entry ∈ bindings, entry.2 ∈ all) : later.Numbered (all ++ []) := by
  injection same with counted rest
  injection rest with kept
  rw [List.append_nil]
  refine ⟨counted.trans numbered.next, numbered.identities, ?_⟩
  rw [kept]
  exact known

/-- A new binding gets the next identity. -/
theorem bind (numbered : w.Numbered all) {binding : Binding} (new : binding.id = w.nextBinding)
    {states : List (Name × State)} {id : Name}
    (same : later.books = (w.nextBinding + 1, withName w.bindings id binding, states)) :
    later.Numbered (all ++ [binding]) := by
  injection same with counted rest
  injection rest with kept
  refine ⟨?_, ?_, ?_⟩
  · rw [counted, numbered.next, List.length_append, List.length_singleton]
  · rw [List.map_append, numbered.identities, List.length_append, List.length_singleton,
      List.range'_concat, List.map_singleton, new, numbered.next]
    simp [Nat.add_comm]
  · rw [kept]
    refine List.forall_mem_cons.2 ⟨by simp, fun entry mem => ?_⟩
    exact List.mem_append_left _ (numbered.named entry (List.mem_of_mem_filter mem))

theorem step (numbered : w.Numbered all) (step : Step) :
    (Workspace.act step w).2.Numbered (all ++ (w.boundBy (.step step)).toList) := by
  have still (other : ¬step.Books) : (Workspace.act step w).2.Numbered (all ++ []) :=
    numbered.of_books (w.books_act other) numbered.named
  cases step with
  | bind id module function =>
    have built {binding : Binding} := @id_build w.registry w.nextBinding module function w.trace
      binding
    show (Workspace.bind id module function w).2.Numbered
      (all ++ (Binding.build w.registry w.nextBinding module function w.trace).1.toOption.toList)
    unfold Workspace.bind
    generalize Binding.build w.registry w.nextBinding module function w.trace = result at built ⊢
    obtain ⟨e | binding, registry, trace⟩ := result
    · exact numbered.of_books rfl numbered.named
    · exact numbered.bind (built rfl) (books_putBinding _ id binding)
  | bindLocal id function script =>
    have counted := ({ w with nextBinding := w.nextBinding + 1 }).books_putBinding id
      (.ofTable w.nextBinding function (script.table (.inProcess w.nextBinding)))
    exact numbered.bind rfl counted
  | dropBinding id =>
    exact numbered.of_books (w.books_dropBinding id) fun entry mem =>
      numbered.named entry (List.mem_of_mem_filter mem)
  | createState id binding =>
    obtain ⟨states, same⟩ := w.books_createState id binding
    exact numbered.of_books same numbered.named
  | onState state binding call =>
    obtain ⟨states, same⟩ := w.books_onState state binding call
    exact numbered.of_books same numbered.named
  | _ => exact still not_false

theorem move (numbered : w.Numbered all) (move : Move) :
    (w.move move).Numbered (all ++ (w.boundBy move).toList) := by
  cases move with
  | step step => exact numbered.step step
  | cloneHandle id source =>
    dsimp only [Workspace.move]
    cases w.handles.lookup source with
    | none => exact numbered.of_books rfl numbered.named
    | some handle => exact numbered.of_books (books_putHandle _ id handle) numbered.named
  | shareBinding id source =>
    dsimp only [Workspace.move]
    cases found : w.bindings.lookup source with
    | none => exact numbered.of_books rfl numbered.named
    | some binding =>
      refine numbered.of_books (w.books_putBinding id binding) ?_
      refine List.forall_mem_cons.2 ⟨numbered.named (source, binding) (mem_of_lookup found),
        fun entry mem => ?_⟩
      exact numbered.named entry (List.mem_of_mem_filter mem)
  | dropRegistry => exact numbered.step .teardown

end Numbered

/-! ## States -/

/-- A state is alive, and no runner has it. -/
structure Tends (id : StateId) (w : Workspace) : Prop where
  given : id.number < w.trace.created id.source
  apart : Apart id w
  alive : w.trace.Alive id

/-- A state by what its maker's function knows it by. -/
def idOf (entry : Binding × State) : StateId := entry.1.table.idOf entry.2.number

/-- Named states with their makers. -/
abbrev Held := List (Name × Binding × State)

/-- Numbers that have not been given out belong to no state. -/
def Unmade (w : Workspace) : Prop :=
  ∀ id : StateId, w.trace.created id.source ≤ id.number → Apart id w ∧ w.trace.lifeOf id = []

theorem without_map (held : Held) (id : Name) :
    without (held.map fun entry => (entry.1, entry.2.2)) id =
      (without held id).map fun entry => (entry.1, entry.2.2) := by
  unfold without
  rw [List.filter_map]
  rfl

/-- These are all bindings there have been, all states that were made by hand, and those of them
that have names. -/
structure Owned (bound : List Binding) (made : List (Binding × State)) (held : Held)
    (w : Workspace) : Prop where
  numbered : w.Numbered bound
  makers : ∀ entry ∈ made, entry.1 ∈ bound ∧ entry.1.owns entry.2 = true
  states : w.states = held.map fun entry => (entry.1, entry.2.2)
  names : (held.map (·.1)).Nodup
  listed : ∀ entry ∈ held, entry.2 ∈ made
  distinct : (held.map fun entry => idOf entry.2).Nodup
  tends : ∀ entry ∈ held, w.Tends (idOf entry.2)
  unmade : w.Unmade

namespace Owned

variable {bound : List Binding} {made : List (Binding × State)} {held : Held} {name : Name}
  {state : State} {id : StateId} {move : Move}

/-- A state with a name has a maker, which is the only binding that accepts it. -/
theorem maker (owned : w.Owned bound made held) (found : w.states.lookup name = some state) :
    ∃ binding, (name, binding, state) ∈ held ∧
      ∀ other ∈ bound, other.owns state = true → other = binding := by
  have there := mem_of_lookup found
  rw [owned.states] at there
  obtain ⟨⟨name, binding, state⟩, mem, same⟩ := List.mem_map.1 there
  cases same
  refine ⟨binding, mem, fun other known accepts => ?_⟩
  obtain ⟨there, own⟩ := owned.makers _ (owned.listed _ mem)
  refine owned.numbered.id_inj known there ?_
  unfold Binding.owns at own accepts
  rw [← of_decide_eq_true own, ← of_decide_eq_true accepts]

/-- Only states with names are touched, by their makers. -/
theorem touched (owned : w.Owned bound made held) (touches : move.Touches id w) :
    ∃ name user call entry, move = .step (.onState name user call) ∧ (name, entry) ∈ held ∧
      idOf entry = id ∧ w.bindings.lookup user = some entry.1 ∧
      w.states.lookup name = some entry.2 := by
  cases move with
  | cloneHandle | shareBinding | dropRegistry => exact touches.elim
  | step step =>
    cases step with
    | onState name user call =>
      obtain ⟨binding, state, bound', found, own, same⟩ := touches
      obtain ⟨maker, mem, only⟩ := owned.maker found
      obtain rfl := only binding (owned.numbered.named _ (mem_of_lookup bound')) own
      exact ⟨name, user, call, (binding, state), rfl, mem, same, bound', found⟩
    | _ => exact touches.elim

/-- States that have not been made are not touched. -/
theorem not_touches (owned : w.Owned bound made held)
    (high : w.trace.created id.source ≤ id.number) : ¬move.Touches id w := by
  intro touches
  obtain ⟨name, user, call, entry, -, mem, rfl, -⟩ := owned.touched touches
  exact absurd high (Nat.not_le.2 (owned.tends _ mem).given)

theorem created_le (owned : w.Owned bound made held) (move : Move) (source : Foreign.Source) :
    w.trace.created source ≤ (w.move move).trace.created source := by
  -- a number beyond all that are given out belongs to a state that is left alone
  let id : StateId := ⟨source, none,
    max (w.trace.created source) ((w.move move).trace.created source)⟩
  have high : w.trace.created id.source ≤ id.number := Nat.le_max_left _ _
  have outside : Trace.Outside id w.trace (w.move move).trace := .inr (Nat.le_max_right _ _)
  exact ((owned.unmade id high).1.move outside (owned.not_touches high)).grows.created_le source

theorem unmade_move (owned : w.Owned bound made held) (move : Move) : (w.move move).Unmade := by
  intro id high
  have before : w.trace.created id.source ≤ id.number :=
    Nat.le_trans (owned.created_le move id.source) high
  obtain ⟨apart, life⟩ := owned.unmade id before
  have spared := apart.move (.inr high) (owned.not_touches before)
  exact ⟨spared.apart, spared.grows.lifeOf_eq.trans life⟩

theorem tends_move (owned : w.Owned bound made held) {entry : Name × Binding × State}
    (mem : entry ∈ held) (other : ¬move.Touches (idOf entry.2) w) :
    (w.move move).Tends (idOf entry.2) := by
  obtain ⟨given, apart, alive⟩ := owned.tends entry mem
  have spared := apart.move (.inl given) other
  exact ⟨Nat.lt_of_lt_of_le given (owned.created_le move _), spared.apart,
    alive.of_lifeOf_eq spared.grows.lifeOf_eq⟩

/-- Nothing is made, and no state with a name is called. -/
theorem still (owned : w.Owned bound made held) (idle : ∀ id, ¬move.Touches id w)
    (none : w.madeBy move = none) (same : (w.move move).states = w.states) :
    (w.move move).Owned (bound ++ (w.boundBy move).toList) (made ++ (w.madeBy move).toList)
      held where
  numbered := owned.numbered.move move
  makers := by
    rw [none]
    intro entry mem
    obtain ⟨known, own⟩ := owned.makers entry (by simpa using mem)
    exact ⟨List.mem_append_left _ known, own⟩
  states := same.trans owned.states
  names := owned.names
  listed entry mem := List.mem_append_left _ (owned.listed entry mem)
  distinct := owned.distinct
  tends entry mem := owned.tends_move mem (idle _)
  unmade := owned.unmade_move move

/-- The state that is made gets a name, which another one may lose. -/
theorem createState (owned : w.Owned bound made held) (name user : Name) :
    ∃ held, (w.move (.step (.createState name user))).Owned
      (bound ++ (w.boundBy (.step (.createState name user))).toList)
      (made ++ (w.madeBy (.step (.createState name user))).toList) held := by
  have idle (id : StateId) : ¬Move.Touches id w (.step (.createState name user)) := not_false
  cases found : w.bindings.lookup user with
  | none =>
    refine ⟨held, owned.still idle ?_ ?_⟩
    · simp [madeBy, found]
    · simp [Workspace.move, act, Workspace.createState, found]
  | some binding =>
    have known := owned.numbered.named _ (mem_of_lookup found)
    rcases binding.createState_cases w.trace with created | ⟨failure, refused⟩
    · let state : State := ⟨binding.id, (binding.nextId w.trace).number⟩
      have after : w.move (.step (.createState name user)) =
          { w with
            trace := w.trace ++ binding.table.events [(.create state.number, .returned)]
            states := withName w.states name state } := by
        simp [Workspace.move, act, Workspace.createState, found, created, state]
      have makes : w.madeBy (.step (.createState name user)) = some (binding, state) := by
        simp [madeBy, found, created, Except.toOption, state]
      refine ⟨withName held name (binding, state), owned.numbered.move _, ?makers, ?states,
        nodup_withName owned.names, ?listed, ?distinct, ?tends, owned.unmade_move _⟩
      case makers =>
        rw [makes]
        refine List.forall_mem_append.2 ⟨fun entry mem => ?_, List.forall_mem_singleton.2 ?_⟩
        · obtain ⟨there, own⟩ := owned.makers entry mem
          exact ⟨List.mem_append_left _ there, own⟩
        · exact ⟨List.mem_append_left _ known, by simp [Binding.owns, state]⟩
      case states =>
        rw [after, withName, withName, owned.states, without_map]
        rfl
      case listed =>
        rw [makes]
        refine List.forall_mem_cons.2 ⟨by simp, fun entry mem => ?_⟩
        exact List.mem_append_left _ (owned.listed entry (List.mem_of_mem_filter mem))
      case distinct =>
        refine List.nodup_cons.2 ⟨fun again => ?_, ?_⟩
        · obtain ⟨entry, mem, same⟩ := List.mem_map.1 again
          have given := (owned.tends entry (List.mem_of_mem_filter mem)).given
          rw [same] at given
          exact Nat.lt_irrefl _ given
        · exact (List.filter_sublist.map _).nodup owned.distinct
      case tends =>
        refine List.forall_mem_cons.2 ⟨?_, fun entry mem => ?_⟩
        · obtain ⟨apart, life⟩ := owned.unmade (binding.nextId w.trace) (Nat.le_refl _)
          rw [after]
          refine ⟨Trace.created_lt_append_events w.trace, apart, Trace.alive_iff.2 ?_⟩
          have born : Trace.lifeOf (w.trace ++ binding.table.events
              [(.create state.number, .returned)]) (idOf (binding, state)) =
              w.trace.lifeOf (binding.nextId w.trace) ++ [(.create state.number, .returned)] :=
            Trace.lifeOf_append_events w.trace (by simp [Call.state, state])
          rw [born, life]
          simp [idOf, Foreign.Table.idOf]
        · exact owned.tends_move (List.mem_of_mem_filter mem) (idle _)
    · refine ⟨held, owned.still idle ?_ ?_⟩
      · simp [madeBy, found, refused, Except.toOption]
      · simp [Workspace.move, act, Workspace.createState, found, refused]

/-- A call that does not free a state leaves it alive. -/
theorem tends_callState {binding : Binding} (tends : w.Tends (idOf (binding, state)))
    (own : binding.owns state = true) {call : StateCall} (kept : call ≠ .delete) (name : Name) :
    (callState name binding state call w).2.Tends (idOf (binding, state)) := by
  obtain ⟨given, apart, alive⟩ := tends
  obtain ⟨trace, same, -⟩ := grows_callState (binding.admits_isIn state) name call w
  cases asked : call.call? state.number with
  | none =>
    have idle : (callState name binding state call w).2.trace = w.trace := callState_idle asked name w
    rw [same] at idle ⊢
    obtain rfl : trace = w.trace := idle
    exact ⟨given, apart, alive⟩
  | some made =>
    obtain ⟨ending, grown⟩ := callState_owned own asked name w
    rw [same] at grown ⊢
    obtain rfl : trace = _ := grown
    exact ⟨Nat.lt_of_lt_of_le given (Trace.created_le_append _ _ _), apart,
      alive.called (StateCall.state_of_call? asked) (StateCall.ne_delete_of_call? asked kept) ending⟩

/-- Whether a binding is called on a state or refuses it, the state may be used up. -/
theorem onState (owned : w.Owned bound made held) (name user : Name) (call : StateCall) :
    ∃ held, (w.move (.step (.onState name user call))).Owned
      (bound ++ (w.boundBy (.step (.onState name user call))).toList)
      (made ++ (w.madeBy (.step (.onState name user call))).toList) held := by
  cases known : w.bindings.lookup user with
  | none =>
    refine ⟨held, owned.still (fun id touches => ?_) rfl ?_⟩
    · obtain ⟨binding, state, found, -⟩ := touches
      rw [known] at found
      cases found
    · simp [Workspace.move, act, Workspace.onState, known]
  | some binding =>
    cases found : w.states.lookup name with
    | none =>
      refine ⟨held, owned.still (fun id touches => ?_) rfl ?_⟩
      · obtain ⟨binding, state, -, found', -⟩ := touches
        rw [found] at found'
        cases found'
      · simp [Workspace.move, act, Workspace.onState, known, found]
    | some state =>
      have after : w.move (.step (.onState name user call)) =
          (callState name binding state call w).2 := by
        simp [Workspace.move, act, Workspace.onState, known, found]
      obtain ⟨trace, same, -⟩ := grows_callState (binding.admits_isIn state) name call w
      have kept : (call.left name held).Sublist held := call.left_sublist name held
      refine ⟨call.left name held, owned.numbered.move _, ?_, ?states,
        (kept.map _).nodup owned.names, fun entry mem => ?_, (kept.map _).nodup owned.distinct,
        fun entry mem => ?tends, owned.unmade_move _⟩
      · intro entry mem
        obtain ⟨there, own⟩ := owned.makers entry (by simpa [madeBy] using mem)
        exact ⟨List.mem_append_left _ there, own⟩
      case states =>
        rw [after, same, owned.states]
        cases call with
        | delete | drop => exact without_map held name
        | _ => rfl
      · exact List.mem_append_left _ (owned.listed entry (kept.subset mem))
      case tends =>
        by_cases touches : Move.Touches (idOf entry.2) w (.step (.onState name user call))
        · -- it is the state that is called, so the call does not free it
          obtain ⟨name', user', call', entry', same', mem', id, known', found'⟩ :=
            owned.touched touches
          cases same'
          obtain rfl := List.inj_on_of_nodup_map owned.distinct mem' (kept.subset mem) id
          rw [known] at known'
          rw [found] at found'
          cases known'
          cases found'
          have freed : call ≠ .delete := by
            rintro rfl
            simp [StateCall.left, without] at mem
          obtain ⟨-, own⟩ := owned.makers entry' (owned.listed _ mem')
          rw [after]
          exact tends_callState (owned.tends _ mem') own freed name
        · exact owned.tends_move (kept.subset mem) touches

/-- **Step**: what has been bound and made, and which states have names, is kept track of. -/
theorem after (owned : w.Owned bound made held) (move : Move) :
    ∃ held, (w.move move).Owned (bound ++ (w.boundBy move).toList)
      (made ++ (w.madeBy move).toList) held := by
  cases move with
  | cloneHandle id source =>
    refine ⟨held, owned.still (fun _ => not_false) rfl ?_⟩
    dsimp only [Workspace.move]
    cases w.handles.lookup source with
    | none => rfl
    | some handle => exact congrArg (·.2.2) (books_putHandle _ id handle)
  | shareBinding id source =>
    refine ⟨held, owned.still (fun _ => not_false) rfl ?_⟩
    dsimp only [Workspace.move]
    cases w.bindings.lookup source with
    | none => rfl
    | some binding => exact congrArg (·.2.2) (w.books_putBinding id binding)
  | dropRegistry => exact ⟨held, owned.still (fun _ => not_false) rfl rfl⟩
  | step step =>
    have still (other : ¬step.Books) : (act step w).2.states = w.states :=
      congrArg (·.2.2) (w.books_act other)
    cases step with
    | createState name user => exact owned.createState name user
    | onState name user call => exact owned.onState name user call
    | bind id module function =>
      refine ⟨held, owned.still (fun _ => not_false) rfl ?_⟩
      show (Workspace.bind id module function w).2.states = w.states
      unfold Workspace.bind
      rcases Binding.build w.registry w.nextBinding module function w.trace with
        ⟨e | binding, registry, trace⟩
      · rfl
      · exact congrArg (·.2.2) (books_putBinding _ id binding)
    | bindLocal id function script =>
      exact ⟨held, owned.still (fun _ => not_false) rfl
        (congrArg (·.2.2) (books_putBinding _ id _))⟩
    | dropBinding id =>
      exact ⟨held, owned.still (fun _ => not_false) rfl
        (congrArg (·.2.2) (w.books_dropBinding id))⟩
    | _ => exact ⟨held, owned.still (fun _ => not_false) rfl (still not_false)⟩

/-- **Run**. -/
theorem moves (owned : w.Owned bound made held) (all : List Move) :
    ∃ held, (w.moves all).Owned (bound ++ w.history boundBy all) (made ++ w.history madeBy all)
      held := by
  induction all generalizing w bound made held with
  | nil =>
    refine ⟨held, ?_⟩
    rw [history, history, List.append_nil, List.append_nil]
    exact owned
  | cons first rest ih =>
    obtain ⟨later, after⟩ := owned.after first
    rw [history, history, ← List.append_assoc, ← List.append_assoc]
    exact ih after

theorem new (machine : Machine) (locator : Option Locator) (search : SearchPath)
    (disk : Files.Disk) (loader : Loader) (retry : RetryPolicy) (caches : List (Name × Cache)) :
    (Workspace.new machine locator search disk loader retry caches).Owned [] [] [] where
  numbered := ⟨rfl, rfl, fun _ mem => absurd mem List.not_mem_nil⟩
  makers _ mem := absurd mem List.not_mem_nil
  states := rfl
  names := .nil
  listed _ mem := absurd mem List.not_mem_nil
  distinct := .nil
  tends _ mem := absurd mem List.not_mem_nil
  unmade _ _ := ⟨fun _ mem => absurd mem List.not_mem_nil, rfl⟩

end Owned

/-! ## Result -/

/-- What becomes of calls on states, given all bindings there have been and all states that were
made by hand. -/
structure KeepsToMakers (bound : List Binding) (made : List (Binding × State)) (w : Workspace) :
    Prop where
  /-- No identity is given out twice. -/
  identities : bound.map (·.id) = List.range' 1 bound.length
  /-- Identities are numbers of 64 bits unless there are too many bindings for that. -/
  fits : bound.length < 2 ^ 64 → ∀ binding ∈ bound, binding.id < 2 ^ 64
  bindings : ∀ user binding, w.bindings.lookup user = some binding → binding ∈ bound
  /-- A state has one maker, and no other binding accepts it. -/
  maker : ∀ name state, w.states.lookup name = some state → ∃ maker ∈ bound,
    (maker, state) ∈ made ∧ ∀ binding ∈ bound, binding.owns state = true ↔ binding = maker
  /-- Its maker makes the call that is asked for, and the state is alive then. -/
  own : ∀ user binding name state, w.bindings.lookup user = some binding →
    w.states.lookup name = some state → (binding, state) ∈ made →
    w.trace.Alive (idOf (binding, state)) ∧
      ∀ call made, call.call? state.number = some made →
        ∃ ending, (act (.onState name user call) w).2.trace =
          w.trace ++ binding.table.events [(made, ending)]
  /-- Any other binding refuses the state, and nothing happens. -/
  foreign : ∀ user binding name state, w.bindings.lookup user = some binding →
    w.states.lookup name = some state → (binding, state) ∉ made →
    ∀ call made, call.call? state.number = some made → call ≠ .delete →
      act (.onState name user call) w = (.reply (.error binding.foreignState), w)
  /-- A state that is to be freed loses its name even then. -/
  freed : ∀ user binding name state, w.bindings.lookup user = some binding →
    w.states.lookup name = some state → (binding, state) ∉ made →
      act (.onState name user .delete) w =
        (.reply (.error binding.foreignState), { w with states := without w.states name })
  /-- Nothing else that is done calls anything on it. -/
  alone : ∀ name state maker, w.states.lookup name = some state → (maker, state) ∈ made →
    ∀ move, (∀ user call, move ≠ .step (.onState name user call)) →
      (w.move move).trace.lifeOf (idOf (maker, state)) = w.trace.lifeOf (idOf (maker, state))

theorem Owned.keepsToMakers {bound : List Binding} {made : List (Binding × State)} {held : Held}
    (owned : w.Owned bound made held) : w.KeepsToMakers bound made := by
  have sole {name : Name} {binding : Binding} {state : State}
      (found : w.states.lookup name = some state) (own : binding.owns state = true)
      (known : binding ∈ bound) : (name, binding, state) ∈ held := by
    obtain ⟨maker, mem, only⟩ := owned.maker found
    obtain rfl := only binding known own
    exact mem
  have called {user name : Name} {binding : Binding} {state : State}
      (known : w.bindings.lookup user = some binding) (found : w.states.lookup name = some state)
      (call : StateCall) :
      act (.onState name user call) w = callState name binding state call w := by
    simp [act, Workspace.onState, known, found]
  have refused {user name : Name} {binding : Binding} {state : State}
      (known : w.bindings.lookup user = some binding) (found : w.states.lookup name = some state)
      (stranger : (binding, state) ∉ made) : ¬binding.owns state = true := by
    intro own
    have mem := sole found own (owned.numbered.named _ (mem_of_lookup known))
    exact stranger (owned.listed _ mem)
  refine ⟨owned.numbered.identities, ?fits, ?bindings, ?maker, ?own, ?foreign, ?freed, ?alone⟩
  case fits =>
    intro few binding mem
    have listed : binding.id ∈ bound.map (·.id) := List.mem_map_of_mem mem
    rw [owned.numbered.identities, List.mem_range'_1] at listed
    omega
  case bindings => exact fun user binding known => owned.numbered.named _ (mem_of_lookup known)
  case maker =>
    intro name state found
    obtain ⟨maker, mem, only⟩ := owned.maker found
    obtain ⟨there, own⟩ := owned.makers _ (owned.listed _ mem)
    refine ⟨maker, there, owned.listed _ mem, fun binding known => ⟨only binding known, ?_⟩⟩
    rintro rfl
    exact own
  case own =>
    intro user binding name state known found listed
    obtain ⟨there, own⟩ := owned.makers _ listed
    refine ⟨(owned.tends _ (sole found own there)).alive, fun call made asked => ?_⟩
    rw [called known found]
    exact callState_owned own asked name w
  case foreign =>
    intro user binding name state known found stranger call made asked kept
    rw [called known found, callState_foreign (refused known found stranger) asked,
      StateCall.left_eq asked kept]
  case freed =>
    intro user binding name state known found stranger
    rw [called known found]
    exact callState_foreign (refused known found stranger) rfl name w
  case alone =>
    intro name state maker found listed move other
    obtain ⟨there, own⟩ := owned.makers _ listed
    have mem := sole found own there
    obtain ⟨given, apart, -⟩ := owned.tends _ mem
    refine (apart.move (.inl given) fun touches => ?_).grows.lifeOf_eq
    obtain ⟨name', user, call, entry, rfl, mem', same, -⟩ := owned.touched touches
    cases List.inj_on_of_nodup_map owned.distinct mem' mem same
    exact other user call rfl

end Workspace

/-- **States stay with their makers.** Whatever is done with a workspace, with any number of
bindings of whatever functions: identities of bindings are never given out twice; a binding calls
its function on a state only if it has made that state and the state has not been freed; and any
other binding refuses the state without a call and leaves everything as it is, but that a state
that is to be freed is used up. -/
theorem states_stay_with_makers (machine : Machine) (locator : Option Locator)
    (search : SearchPath) (disk : Files.Disk) (loader : Loader) (retry : RetryPolicy)
    (caches : List (Name × Cache)) (moves : List Move) :
    ((Workspace.new machine locator search disk loader retry caches).moves moves).KeepsToMakers
      ((Workspace.new machine locator search disk loader retry caches).bound moves)
      ((Workspace.new machine locator search disk loader retry caches).made moves) := by
  obtain ⟨held, owned⟩ :=
    (Workspace.Owned.new machine locator search disk loader retry caches).moves moves
  exact owned.keepsToMakers

/-- Of two bindings of one function, the second one refuses a state of the first. -/
example (machine : Machine) (locator : Option Locator) (search : SearchPath) (disk : Files.Disk)
    (loader : Loader) (retry : RetryPolicy) (caches : List (Name × Cache)) :
    let w := (Workspace.new machine locator search disk loader retry caches).moves
      [.step (.bindLocal "a" "f" .standard), .step (.bindLocal "b" "f" .standard),
        .step (.createState "s" "a")]
    (Workspace.act (.onState "s" "b" .init) w).1 =
        .reply (.error (.internal "f" "state <ptr> does not belong to this binding")) ∧
      (Workspace.act (.onState "s" "a" .init) w).1 = .reply (.ok .unit) := ⟨rfl, rfl⟩

end ForeignEval

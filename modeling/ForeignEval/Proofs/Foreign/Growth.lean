import ForeignEval.Proofs.Session.Frame

/-!
# What operations add to the trace

A trace only ever grows. What an operation adds to it is often known only by its kind: calls into
one library, say, or calls that hand over no point that is known already.

* **Growth** — `Trace.Grows` is a preorder; `Table.Extends.grows` weakens a list of calls to a kind.
* **Places** — `Event.IsIn` is the kind of the calls into one library.
-/

namespace ForeignEval.Foreign

/-- A trace has grown, by events of a kind only. -/
def Trace.Grows (P : Event → Prop) (before after : Trace) : Prop :=
  ∃ events : Trace, after = before ++ events ∧ ∀ event ∈ events, P event

namespace Trace.Grows

variable {P : Event → Prop} {before middle after : Trace}

protected theorem refl (P : Event → Prop) (trace : Trace) : Grows P trace trace :=
  ⟨[], (List.append_nil trace).symm, by simp⟩

theorem trans (first : Grows P before middle) (second : Grows P middle after) :
    Grows P before after := by
  obtain ⟨events, rfl, kind⟩ := first
  obtain ⟨more, rfl, kind'⟩ := second
  exact ⟨events ++ more, List.append_assoc _ _ _, List.forall_mem_append.2 ⟨kind, kind'⟩⟩

theorem one {event : Event} (kind : P event) (trace : Trace) : Grows P trace (trace ++ [event]) :=
  ⟨[event], rfl, List.forall_mem_singleton.2 kind⟩

end Trace.Grows

/-- Whether an event is a call into this library, or into none. -/
def Event.IsIn (library : Option Nat) (event : Event) : Prop :=
  ∃ source call ending, event = .called source library call ending

/-- Calls of which each is of a kind, however it ends, make the trace grow by events of the kind. -/
theorem Table.Extends.grows {table : Table} {calls : List Call} {P : Event → Prop}
    {before after : Trace} (extends_ : table.Extends calls before after)
    (kind : ∀ call ∈ calls, ∀ ending, P (.called table.source table.library call ending)) :
    Trace.Grows P before after := by
  obtain ⟨made, some, rfl⟩ := extends_
  refine ⟨_, rfl, fun event mem => ?_⟩
  obtain ⟨call, there, rfl⟩ := List.mem_map.1 mem
  exact kind call.1 (some.subset (List.mem_map_of_mem there)) call.2

end ForeignEval.Foreign

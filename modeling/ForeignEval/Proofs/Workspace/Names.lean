import ForeignEval.Proofs.Tables
import ForeignEval.Workspace.Basic

/-!
# Named things

A workspace names handles, bindings, states, caches and runners alike: a name has one thing at most,
and giving it to another thing takes it away from the first.
-/

namespace ForeignEval.Workspace

open scoped List

/-- What is left of a table without a key. -/
theorem lookup_filter_ne {κ α : Type} [DecidableEq κ] (table : List (κ × α)) (key other : κ) :
    (table.filter fun (key', _) => key' ≠ key).lookup other =
      if other = key then none else table.lookup other := by
  induction table with
  | nil => simp
  | cons entry table ih =>
    obtain ⟨head, thing⟩ := entry
    by_cases here : head = key
    · subst here
      rw [List.filter_cons_of_neg (by simp), ih]
      by_cases same : other = head
      · simp [same]
      · simp [same, List.lookup_cons, beq_false_of_ne same]
    · rw [List.filter_cons_of_pos (by simpa using here), List.lookup_cons, List.lookup_cons, ih]
      by_cases same : other = head
      · subst same
        simp [here]
      · simp [beq_false_of_ne same]

section Names

variable {α : Type} {named : List (Name × α)} {id : Name} {thing : α}

theorem without_of_absent (absent : id ∉ named.map (·.1)) : without named id = named := by
  refine List.filter_eq_self.2 fun entry mem => ?_
  have other : entry.1 ≠ id := by
    rintro rfl
    exact absent (List.mem_map_of_mem mem)
  simpa using other

theorem absent_of_lookup (none : named.lookup id = none) : id ∉ named.map (·.1) := by
  intro mem
  obtain ⟨entry, there, rfl⟩ := List.mem_map.1 mem
  have other := List.lookup_eq_none_iff.1 none entry there
  simp at other

/-- A named thing and the others are all things. -/
theorem perm_without (names : (named.map (·.1)).Nodup) (found : named.lookup id = some thing) :
    named.Perm ((id, thing) :: without named id) := by
  induction named with
  | nil => cases found
  | cons entry named ih =>
    obtain ⟨name, other⟩ := entry
    obtain ⟨fresh, names⟩ := List.nodup_cons.1 names
    by_cases same : id = name
    · subst same
      rw [List.lookup_cons_self] at found
      cases found
      have others : without ((id, thing) :: named) id = without named id := by simp [without]
      rw [others, without_of_absent fresh]
    · have others : without ((name, other) :: named) id = (name, other) :: without named id := by
        simp [without, Ne.symm same]
      rw [List.lookup_cons, beq_false_of_ne same] at found
      rw [others]
      exact ((ih names found).cons _).trans (List.Perm.swap _ _ _)

theorem lookup_withName (named : List (Name × α)) (id : Name) (thing : α) (other : Name) :
    (withName named id thing).lookup other =
      if other = id then some thing else named.lookup other := by
  unfold withName without
  rw [List.lookup_cons, lookup_filter_ne]
  by_cases same : other = id
  · simp [same]
  · simp [same, beq_false_of_ne same]

theorem nodup_without (names : (named.map (·.1)).Nodup) :
    ((without named id).map (·.1)).Nodup :=
  (List.filter_sublist.map _).nodup names

theorem nodup_withName (names : (named.map (·.1)).Nodup) :
    ((withName named id thing).map (·.1)).Nodup := by
  refine List.nodup_cons.2 ⟨fun mem => ?_, nodup_without names⟩
  obtain ⟨entry, there, same⟩ := List.mem_map.1 mem
  have other := (List.mem_filter.1 there).2
  simp [same] at other

/-- Giving a name to a thing takes it away from the thing that had it, if there is one. -/
theorem perm_withName (names : (named.map (·.1)).Nodup) :
    (thing :: named.map (·.2)).Perm
      ((named.lookup id).toList ++ (withName named id thing).map (·.2)) := by
  cases found : named.lookup id with
  | none =>
    unfold withName
    rw [without_of_absent (absent_of_lookup found)]
    exact .refl _
  | some old =>
    have others := ((perm_without names found).map (·.2)).cons thing
    exact others.trans (List.Perm.swap _ _ _)

/-- The same among other things. -/
theorem perm_exchange {β : Type} {b : β} {old before after : List β}
    (swapped : (b :: before).Perm (old ++ after)) (others : List β) :
    (b :: others ++ before).Perm (old ++ others ++ after) :=
  calc b :: others ++ before
      ~ others ++ b :: before := List.perm_middle.symm
    _ ~ others ++ (old ++ after) := swapped.append_left others
    _ ~ old ++ (others ++ after) := List.perm_append_comm_assoc _ _ _
    _ = old ++ others ++ after := (List.append_assoc _ _ _).symm

end Names

end ForeignEval.Workspace

/-!
# Tables

Lists of keys with their values, in which the first entry of a key counts. If no key occurs twice,
every entry counts.

* **Lookups** — `mem_of_lookup`, `lookup_of_mem`: what is found is an entry, and every entry is
  found if keys are distinct; `lookup_eq_of_mem_iff` tells what is found from what the entries are,
  in any order, so that `lookup_reverse` may turn a table around.
-/

namespace ForeignEval

variable {κ α : Type} [BEq κ] [LawfulBEq κ] {table : List (κ × α)} {key : κ} {value : α}

theorem mem_of_lookup (found : table.lookup key = some value) : (key, value) ∈ table := by
  obtain ⟨before, after, rfl, -⟩ := List.lookup_eq_some_iff.1 found
  exact List.mem_append_right _ List.mem_cons_self

theorem lookup_of_mem (distinct : (table.map (·.1)).Nodup) (mem : (key, value) ∈ table) :
    table.lookup key = some value := by
  induction table with
  | nil => cases mem
  | cons entry table ih =>
    obtain ⟨fresh, distinct⟩ := List.nodup_cons.1 distinct
    rcases List.mem_cons.1 mem with rfl | there
    · exact List.lookup_cons_self
    · have other : key ≠ entry.1 := by
        rintro rfl
        exact fresh (List.mem_map.2 ⟨_, there, rfl⟩)
      rw [List.lookup_cons, beq_false_of_ne other]
      exact ih distinct there

theorem lookup_eq_none_of_not_mem (absent : key ∉ table.map (·.1)) : table.lookup key = none := by
  rw [List.lookup_eq_none_iff]
  intro entry mem
  rw [bne_iff_ne]
  rintro rfl
  exact absent (List.mem_map_of_mem mem)

/-- What is found under a key is what the entries say, wherever they stand. -/
theorem lookup_eq_of_mem_iff (distinct : (table.map (·.1)).Nodup) {found : Option α}
    (exactly : ∀ value, (key, value) ∈ table ↔ found = some value) : table.lookup key = found := by
  cases found with
  | some value => exact lookup_of_mem distinct ((exactly value).2 rfl)
  | none =>
    refine lookup_eq_none_of_not_mem fun mem => ?_
    obtain ⟨entry, there, rfl⟩ := List.mem_map.1 mem
    cases (exactly entry.2).1 there

theorem lookup_reverse (distinct : (table.map (·.1)).Nodup) :
    table.reverse.lookup key = table.lookup key := by
  have reversed : (table.reverse.map (·.1)).Nodup :=
    ((List.reverse_perm table).map _).nodup_iff.2 distinct
  refine lookup_eq_of_mem_iff reversed fun value => ?_
  rw [List.mem_reverse]
  exact ⟨lookup_of_mem distinct, mem_of_lookup⟩

end ForeignEval

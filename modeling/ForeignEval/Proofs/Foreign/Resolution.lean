import ForeignEval.Binding
import Mathlib.Logic.Basic

/-!
# What resolving entry points finds

The order in which symbols are looked up is written out call by call, and so is the entry point for
which each of them is used. Both agree with the list of all entry points: the first symbol that is
missing is the first of the list, and what is found is called for what it is.

* **Names** — `EntryPoint.functionOf?_symbolName`: a symbol tells its function;
  `Image.resolve?_symbolName`: and it is found under its name if there is no NUL in it.
* **Lookup** — `Image.entryPoints_eq`, with `Image.entryPoints_ok_iff` and
  `Image.entryPoints_error_iff`.
* **Calls** — `EntryPoints.table_named`.
* **Building** — `Binding.builds_build`: what comes of building a binding.
-/

namespace ForeignEval

/-! ## Names -/

/-- Of a text that does not end with a NUL, foreign code sees everything or nothing. -/
theorem Text.terminated?_of_last {s : String} (last : s.toList.getLast? ≠ some '\x00') :
    terminated? s = if '\x00' ∈ s.toList then none else some s := by
  unfold terminated?
  dsimp only
  rw [if_neg last, String.ofList_toList]
  simp only [List.contains_iff_mem]

namespace Foreign

namespace EntryPoint

variable (entry : EntryPoint) (function : String)

theorem toList_symbolName :
    (entry.symbolName function).toList = function.toList ++ '_' :: entry.suffix.toList := by
  unfold symbolName
  rw [String.toList_append, String.toList_append, List.append_assoc]
  rfl

/-- The symbol of a function tells the function. -/
theorem functionOf?_symbolName : entry.functionOf? (entry.symbolName function) = some function := by
  unfold functionOf?
  rw [toList_symbolName]
  dsimp only
  rw [if_pos (List.isSuffixOf_iff_suffix.2 (List.suffix_append _ _)), List.length_append,
    Nat.add_sub_cancel, List.take_left, String.ofList_toList]

theorem getLast?_symbolName : (entry.symbolName function).toList.getLast? ≠ some '\x00' := by
  rw [toList_symbolName, List.getLast?_append]
  cases entry <;> simp [suffix]

theorem nul_mem_symbolName :
    '\x00' ∈ (entry.symbolName function).toList ↔ '\x00' ∈ function.toList := by
  have clean : '\x00' ∉ '_' :: entry.suffix.toList := by cases entry <;> decide
  rw [toList_symbolName, List.mem_append, or_iff_left clean]

/-- Foreign code sees a symbol as it is, if at all. -/
theorem eq_of_terminated? {entry : EntryPoint} {function symbol : String}
    (seen : Text.terminated? (entry.symbolName function) = some symbol) :
    symbol = entry.symbolName function := by
  rw [Text.terminated?_of_last (entry.getLast?_symbolName function)] at seen
  split at seen
  · cases seen
  · exact (Option.some.inj seen).symm

end EntryPoint

namespace Image

variable {image : Image} {function : String} {entry : EntryPoint}

/-- A symbol is found under its own name, if at all. -/
theorem eq_of_resolve? {symbol : String}
    (found : image.resolve? (entry.symbolName function) = some symbol) :
    symbol = entry.symbolName function :=
  EntryPoint.eq_of_terminated? (Option.eq_some_of_filter_eq_some found)

/-- Whether the symbol of an entry point is not found. -/
def lacks (image : Image) (function : String) (entry : EntryPoint) : Bool :=
  (image.resolve? (entry.symbolName function)).isNone

/-- The symbols of a name without a NUL are found exactly if they are exported. -/
theorem lacks_iff (clean : '\x00' ∉ function.toList) (entry : EntryPoint) :
    image.lacks function entry = true ↔ entry.symbolName function ∉ image.symbols := by
  have whole : '\x00' ∉ (entry.symbolName function).toList :=
    fun mem => clean ((entry.nul_mem_symbolName function).1 mem)
  unfold lacks resolve?
  rw [Text.terminated?_of_last (entry.getLast?_symbolName function), if_neg whole]
  simp

end Image

/-! ## Lookup -/

namespace EntryPoints

/-- The symbols of a function, each under its name. -/
def named (function : String) : EntryPoints where
  stateCreate := EntryPoint.stateCreate.symbolName function
  stateDelete := EntryPoint.stateDelete.symbolName function
  info := EntryPoint.info.symbolName function
  init := EntryPoint.init.symbolName function
  exec := EntryPoint.exec.symbolName function
  execBatch := EntryPoint.execBatch.symbolName function
  finalize := EntryPoint.finalize.symbolName function

end EntryPoints

namespace Image

variable {image : Image} {function : String} {entry : EntryPoint}

theorem require_bind {α : Type} (next : String → Except EntryPoint α) :
    (image.require function entry >>= next) =
      if image.lacks function entry then .error entry else next (entry.symbolName function) := by
  unfold require lacks
  cases found : image.resolve? (entry.symbolName function) with
  | none => rfl
  | some symbol =>
    rw [eq_of_resolve? found]
    rfl

theorem elim_find?_cons {α β : Type} (p : α → Bool) (a : α) (l : List α) (x : β) (f : α → β) :
    ((a :: l).find? p).elim x f = if p a then f a else (l.find? p).elim x f := by
  rw [List.find?_cons]
  cases p a <;> rfl

/-- Lookups come to the first missing entry point of the list, or to all symbols. -/
theorem entryPoints_eq (image : Image) (function : String) :
    image.entryPoints function =
      (EntryPoint.all.find? (image.lacks function)).elim (.ok (.named function)) .error := by
  unfold entryPoints EntryPoint.all
  simp only [require_bind, elim_find?_cons]
  rfl

/-- All symbols are found if all are exported, each under its name. -/
theorem entryPoints_ok_iff (clean : '\x00' ∉ function.toList) {symbols : EntryPoints} :
    image.entryPoints function = .ok symbols ↔
      (∀ entry : EntryPoint, entry.symbolName function ∈ image.symbols) ∧
        symbols = .named function := by
  have complete : EntryPoint.all.find? (image.lacks function) = none ↔
      ∀ entry : EntryPoint, entry.symbolName function ∈ image.symbols := by
    rw [List.find?_eq_none]
    simp only [lacks_iff clean, not_not, EntryPoint.mem_all, true_imp_iff]
  rw [entryPoints_eq, ← complete]
  cases EntryPoint.all.find? (image.lacks function) with
  | none =>
    constructor
    · rintro ⟨⟩
      exact ⟨rfl, rfl⟩
    · rintro ⟨-, rfl⟩
      rfl
  | some entry =>
    constructor
    · rintro ⟨⟩
    · rintro ⟨⟨⟩, -⟩

/-- At the symbol of a function, the function is called. -/
theorem code_symbolName (entry : EntryPoint) (function : String) (source : Source) :
    image.code entry (entry.symbolName function) source = image.function function source := by
  unfold code
  rw [entry.functionOf?_symbolName]

end Image

/-- The symbols of a function make the function as a table. -/
theorem EntryPoints.table_named (image : Image) (function : String) (library : Nat) :
    (named function).table image function library =
      (image.function function (.exported image.file function)).table
        (.exported image.file function) library := by
  unfold table linked named
  simp only [Image.code_symbolName]

end Foreign

/-! ## Building -/

namespace Binding

open Foreign (EntryPoint EntryPoints Trace)

/-- What comes of building a binding. -/
inductive Builds (registry : Registry) (id : Nat) (module function : String) (trace : Trace) :
    Except Error Binding × Registry × Trace → Prop
  /-- The module is not loaded. -/
  | failed {e : Error} {later : Registry} {after : Trace}
      (failed : registry.load module trace = (.error e, later, after)) :
      Builds registry id module function trace (.error e, later, after)
  /-- It lacks an entry point, and the handle is dropped. -/
  | incomplete {handle : Handle} {later : Registry} {after : Trace} {entry : EntryPoint}
      (loaded : registry.load module trace = (.ok handle, later, after))
      (lacking : handle.image.entryPoints function = .error entry) :
      Builds registry id module function trace
        (.error (.bindingIncomplete handle.path function (entry.symbolName function)),
          later.release handle.library after)
  /-- It has all of them, and the binding keeps the handle. -/
  | complete {handle : Handle} {later : Registry} {after : Trace} {symbols : EntryPoints}
      (loaded : registry.load module trace = (.ok handle, later, after))
      (found : handle.image.entryPoints function = .ok symbols) :
      Builds registry id module function trace
        (.ok ⟨id, function, some handle, symbols.table handle.image function handle.library⟩,
          later, after)

theorem builds_build (registry : Registry) (id : Nat) (module function : String) (trace : Trace) :
    Builds registry id module function trace (build registry id module function trace) := by
  unfold build
  rcases loaded : registry.load module trace with ⟨e | handle, later, after⟩
  · exact .failed loaded
  · dsimp only [ofHandle]
    cases found : handle.image.entryPoints function with
    | error entry => exact .incomplete loaded found
    | ok symbols => exact .complete loaded found

end Binding

end ForeignEval

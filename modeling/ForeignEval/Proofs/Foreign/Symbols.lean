import ForeignEval.Proofs.Foreign.Resolution
import Mathlib.Data.List.Nodup

/-!
# Symbols of functions

The name of a function is arbitrary: it may have underscores in it, and may itself end like a
symbol. A symbol still belongs to one function and one entry point, because no entry point's ending
is the end of another one's.

* **Endings** — `EntryPoint.eq_of_ending_suffix`.
* **Symbols** — `EntryPoint.symbolName_inj`, with `EntryPoint.functionOf?_symbolName_of_ne`: at a
  symbol, no other entry point of any function is found.
* **Modules** — `Image.mem_symbolsOf`, `Image.nodup_symbolsOf`: a module that exports functions
  exports the symbols of these, each once.
* **Lookup** — `Image.symbol_of_entryPoints`, `Image.symbol_of_address?`: what is found for an entry
  point of a function is its symbol.
* **Everything** — `symbols_never_collide`.
-/

namespace ForeignEval

namespace Foreign

namespace EntryPoint

variable {a b : EntryPoint} {f g : String}

/-! ## Endings -/

/-- What the symbols of an entry point end with. -/
def ending (entry : EntryPoint) : List Char := '_' :: entry.suffix.toList

/-- No ending is the end of another one. -/
theorem eq_of_ending_suffix (ends : a.ending <:+ b.ending) : a = b := by
  have apart : ∀ a ∈ all, ∀ b ∈ all, a.ending <:+ b.ending → a = b := by decide
  exact apart a a.mem_all b b.mem_all ends

/-! ## Symbols -/

/-- A symbol has one function and one entry point. -/
theorem symbolName_inj : a.symbolName f = b.symbolName g ↔ f = g ∧ a = b := by
  constructor
  · intro same
    have texts : f.toList ++ a.ending = g.toList ++ b.ending := by
      rw [ending, ending, ← toList_symbolName, ← toList_symbolName, same]
    have ends : a.ending <:+ g.toList ++ b.ending := ⟨f.toList, texts⟩
    have ends' : b.ending <:+ g.toList ++ b.ending := List.suffix_append _ _
    have entries : a = b := by
      -- of two ends of one text, the shorter one is an end of the other
      cases List.suffix_or_suffix_of_suffix ends ends' with
      | inl shorter => exact eq_of_ending_suffix shorter
      | inr shorter => exact (eq_of_ending_suffix shorter).symm
    subst entries
    exact ⟨String.toList_inj.1 (List.append_cancel_right texts), rfl⟩
  · rintro ⟨rfl, rfl⟩
    rfl

theorem symbolName_of_functionOf? {symbol : String} (found : a.functionOf? symbol = some f) :
    a.symbolName f = symbol := by
  unfold functionOf? at found
  dsimp only at found
  split at found
  · rename_i ends
    obtain ⟨name, text⟩ := List.isSuffixOf_iff_suffix.1 ends
    rw [← text, List.length_append, Nat.add_sub_cancel, List.take_left] at found
    apply String.toList_inj.1
    rw [toList_symbolName, ← text, ← Option.some.inj found, String.toList_ofList]
  · cases found

/-- A symbol is a symbol of its own entry point only. -/
theorem functionOf?_symbolName_of_ne (other : a ≠ b) (f : String) :
    b.functionOf? (a.symbolName f) = none := by
  cases found : b.functionOf? (a.symbolName f) with
  | none => rfl
  | some g => exact absurd (symbolName_inj.1 (symbolName_of_functionOf? found)).2 other.symm

end EntryPoint

/-! ## Modules -/

namespace Image

variable {functions : List String} {image : Image}

/-- Only functions that are there have symbols. -/
theorem mem_symbolsOf {entry : EntryPoint} {function : String} :
    entry.symbolName function ∈ symbolsOf functions ↔ function ∈ functions := by
  unfold symbolsOf
  simp only [List.mem_flatMap, List.mem_map]
  constructor
  · rintro ⟨other, there, entry', -, same⟩
    obtain ⟨rfl, -⟩ := EntryPoint.symbolName_inj.1 same
    exact there
  · intro there
    exact ⟨function, there, entry, entry.mem_all, rfl⟩

/-- Functions share no symbol, and none has a symbol for two entry points. -/
theorem nodup_symbolsOf : (symbolsOf functions).Nodup ↔ functions.Nodup := by
  have own : ∀ function ∈ functions, (EntryPoint.all.map (·.symbolName function)).Nodup := by
    intro function _
    have distinct : EntryPoint.all.Nodup := by decide
    exact List.Nodup.map (fun a b same => (EntryPoint.symbolName_inj.1 same).2) distinct
  have shared : ∀ f g : String, List.Disjoint (EntryPoint.all.map (·.symbolName f))
      (EntryPoint.all.map (·.symbolName g)) ↔ f ≠ g := by
    intro f g
    constructor
    · rintro disjoint rfl
      exact disjoint List.mem_cons_self List.mem_cons_self
    · intro other symbol mem mem'
      obtain ⟨a, -, rfl⟩ := List.mem_map.1 mem
      obtain ⟨b, -, same⟩ := List.mem_map.1 mem'
      exact other (EntryPoint.symbolName_inj.1 same).1.symm
  unfold symbolsOf
  rw [List.nodup_flatMap, and_iff_right own]
  exact List.Pairwise.iff shared

end Image

/-! ## Lookup -/

/-- The symbol that was found for an entry point. -/
def EntryPoints.symbol (symbols : EntryPoints) : EntryPoint → String
  | .stateCreate => symbols.stateCreate
  | .stateDelete => symbols.stateDelete
  | .info => symbols.info
  | .init => symbols.init
  | .exec => symbols.exec
  | .execBatch => symbols.execBatch
  | .finalize => symbols.finalize

namespace Image

variable {image : Image} {function : String}

/-- For each entry point, its own symbol is found. -/
theorem symbol_of_entryPoints {symbols : EntryPoints}
    (found : image.entryPoints function = .ok symbols) (entry : EntryPoint) :
    symbols.symbol entry = entry.symbolName function := by
  rw [entryPoints_eq] at found
  cases missing : EntryPoint.all.find? (image.lacks function) with
  | none =>
    rw [missing] at found
    obtain rfl := Except.ok.inj found
    cases entry <;> rfl
  | some other =>
    rw [missing] at found
    cases found

/-- What is found at an address goes by the name it was looked up by, even in the C library. -/
theorem symbol_of_address? {entry : EntryPoint} {address : String × String}
    (found : image.address? (entry.symbolName function) = some address) :
    address.2 = entry.symbolName function := by
  unfold address? at found
  cases own : image.resolve? (entry.symbolName function) with
  | some symbol =>
    rw [own] at found
    obtain rfl := Option.some.inj found
    exact eq_of_resolve? own
  | none =>
    rw [own] at found
    obtain ⟨symbol, seen, rfl⟩ := Option.map_eq_some_iff.1 found
    exact EntryPoint.eq_of_terminated? (Option.eq_some_of_filter_eq_some seen)

/-- At a symbol, only its own entry point of its own function is called. -/
theorem code_symbolName_eq (called entry : EntryPoint) (function : String) (source : Source) :
    image.code called (entry.symbolName function) source =
      if entry = called then image.function function source else .absent := by
  by_cases same : entry = called
  · rw [if_pos same, ← same, code_symbolName]
  · rw [if_neg same, code, EntryPoint.functionOf?_symbolName_of_ne same]

/-- Of a module that exports functions, these can be used and no others. -/
theorem exists_entryPoints_iff {functions : List String}
    (exported : image.symbols = symbolsOf functions) (clean : '\x00' ∉ function.toList) :
    (∃ symbols, image.entryPoints function = .ok symbols) ↔ function ∈ functions := by
  simp only [entryPoints_ok_iff clean, exported, mem_symbolsOf]
  constructor
  · rintro ⟨-, there, -⟩
    exact there .info
  · intro there
    exact ⟨_, fun _ => there, rfl⟩

end Image

end Foreign

open Foreign (EntryPoint EntryPoints Exported Image Source)

theorem Handle.symbol_of_resolveSymbol {handle : Handle} {entry : EntryPoint} {function : String}
    {address : String × String}
    (found : handle.resolveSymbol (entry.symbolName function) = .ok address) :
    address.2 = entry.symbolName function := by
  unfold resolveSymbol at found
  cases there : handle.image.address? (entry.symbolName function) with
  | none =>
    rw [there] at found
    cases found
  | some other =>
    rw [there] at found
    obtain rfl := Except.ok.inj found
    exact Image.symbol_of_address? there

/-! ## Everything -/

/-- **Symbols never collide.** Whatever functions are called, two symbols are the same only if they
are of one function and one entry point. So functions of one module share no symbol, those found for
one function are never among those found for another one, no address is found for two of them, and
at a symbol no other entry point and no other function is called. Of the names without a NUL, a
module that exports some functions can be used for just these. -/
theorem symbols_never_collide :
    (∀ (a b : EntryPoint) (f g : String), a.symbolName f = b.symbolName g ↔ f = g ∧ a = b) ∧
    (∀ functions : List String, (Image.symbolsOf functions).Nodup ↔ functions.Nodup) ∧
    (∀ (image : Image) (f g : String) (symbols others : EntryPoints),
      image.entryPoints f = .ok symbols → image.entryPoints g = .ok others →
      ∀ a b, symbols.symbol a = others.symbol b ↔ f = g ∧ a = b) ∧
    (∀ (handle : Handle) (a b : EntryPoint) (f g : String) (address : String × String),
      handle.resolveSymbol (a.symbolName f) = .ok address →
      handle.resolveSymbol (b.symbolName g) = .ok address → f = g ∧ a = b) ∧
    (∀ (image : Image) (called entry : EntryPoint) (f : String) (source : Source),
      image.code called (entry.symbolName f) source =
        if entry = called then image.function f source else Exported.absent) ∧
    ∀ (image : Image) (functions : List String) (f : String),
      image.symbols = Image.symbolsOf functions → '\x00' ∉ f.toList →
      ((∃ symbols, image.entryPoints f = .ok symbols) ↔ f ∈ functions) := by
  refine ⟨fun _ _ _ _ => EntryPoint.symbolName_inj, fun _ => Image.nodup_symbolsOf, ?found,
    ?addresses, fun image => image.code_symbolName_eq, fun _ _ _ => Image.exists_entryPoints_iff⟩
  case found =>
    intro image f g symbols others found found' a b
    rw [Image.symbol_of_entryPoints found, Image.symbol_of_entryPoints found']
    exact EntryPoint.symbolName_inj
  case addresses =>
    intro handle a b f g address found found'
    have same : a.symbolName f = b.symbolName g :=
      (Handle.symbol_of_resolveSymbol found).symm.trans (Handle.symbol_of_resolveSymbol found')
    exact EntryPoint.symbolName_inj.1 same

/-- A module with a function that is called like the evaluation of another one. -/
def Foreign.nestedNames : Image where
  file := "/nested.so"
  symbols := Image.symbolsOf ["f", "f_exec"]
  function _ _ := .absent

/-- The law at work: the two share nothing, a symbol is found for one of them only, and the batch
evaluation of one, being a symbol, is no function. -/
theorem symbols_never_collide_nested :
    (Foreign.nestedNames.entryPoints "f" = .ok (.named "f") ∧
      Foreign.nestedNames.entryPoints "f_exec" = .ok (.named "f_exec") ∧
      ∀ a b, (EntryPoints.named "f").symbol a ≠ (EntryPoints.named "f_exec").symbol b) ∧
    (Handle.resolveSymbol ⟨1, "/nested.so", Foreign.nestedNames⟩
        (EntryPoint.exec.symbolName "f_exec") = .ok ("/nested.so", "f_exec_exec") ∧
      ∀ entry function, Handle.resolveSymbol ⟨1, "/nested.so", Foreign.nestedNames⟩
          (EntryPoint.symbolName entry function) = .ok ("/nested.so", "f_exec_exec") →
        function = "f_exec" ∧ entry = .exec) ∧
    EntryPoint.execBatch.symbolName "f" = "f_exec_batch" ∧ '\x00' ∉ "f_exec_batch".toList ∧
    ¬∃ symbols, Foreign.nestedNames.entryPoints "f_exec_batch" = .ok symbols := by
  obtain ⟨-, -, found, addresses, -, usable⟩ := symbols_never_collide
  have first : Foreign.nestedNames.entryPoints "f" = .ok (.named "f") := rfl
  have second : Foreign.nestedNames.entryPoints "f_exec" = .ok (.named "f_exec") := rfl
  have evaluation : Handle.resolveSymbol ⟨1, "/nested.so", Foreign.nestedNames⟩
      (EntryPoint.exec.symbolName "f_exec") = .ok ("/nested.so", "f_exec_exec") := rfl
  have clean : '\x00' ∉ "f_exec_batch".toList := by decide
  refine ⟨⟨first, second, fun a b same => ?_⟩, ⟨evaluation, fun entry function other => ?_⟩, rfl,
    clean, fun used => ?_⟩
  · obtain ⟨names, -⟩ := (found _ _ _ _ _ first second a b).1 same
    exact absurd names (by decide)
  · exact addresses _ _ _ _ _ _ other evaluation
  · exact absurd ((usable _ _ _ rfl clean).1 used) (by decide)

end ForeignEval

import ForeignEval.Foreign.Exported

/-!
# Resolving entry points

The symbols of a function are looked up in its module one after the other, and each call is made at
the symbol that was found for it.

* **Lookup** — `Image.entryPoints` stops at the first symbol that the module does not export.
* **Calls** — `Image.code` is what is called at a symbol, and `EntryPoints.table` calls each entry
  point at its own.
-/

namespace ForeignEval.Foreign

/-- The symbols of a function, as they were found. -/
structure EntryPoints where
  stateCreate : String
  stateDelete : String
  info : String
  init : String
  exec : String
  execBatch : String
  finalize : String

namespace Image

/-! ## Lookup -/

/-- The symbol of an entry point, or that the module does not export it. -/
def require (image : Image) (function : String) (entry : EntryPoint) : Except EntryPoint String :=
  match image.resolve? (entry.symbolName function) with
  | some symbol => .ok symbol
  | none => .error entry

/-- The symbols of a function, or the first entry point whose symbol is missing. -/
def entryPoints (image : Image) (function : String) : Except EntryPoint EntryPoints := do
  let stateCreate ← image.require function .stateCreate
  let stateDelete ← image.require function .stateDelete
  let info ← image.require function .info
  let init ← image.require function .init
  let exec ← image.require function .exec
  let execBatch ← image.require function .execBatch
  let finalize ← image.require function .finalize
  return { stateCreate, stateDelete, info, init, exec, execBatch, finalize }

/-! ## Calls -/

/-- The function that is called at a symbol as this entry point; there is none if the symbol is not
one of the entry point. -/
def code (image : Image) (entry : EntryPoint) (symbol : String) (source : Source) : Exported :=
  match entry.functionOf? symbol with
  | some function => image.function function source
  | none => .absent

end Image

namespace EntryPoints

variable (symbols : EntryPoints) (image : Image)

/-- What is called at the symbols. -/
def linked (source : Source) : Exported where
  create := (image.code .stateCreate symbols.stateCreate source).create
  info := (image.code .info symbols.info source).info
  init := (image.code .init symbols.init source).init
  exec := (image.code .exec symbols.exec source).exec
  execBatch := (image.code .execBatch symbols.execBatch source).execBatch
  finalize := (image.code .finalize symbols.finalize source).finalize

/-- The symbols of a function as a table, in an opened library. -/
def table (function : String) (library : Nat) : Table :=
  let source := Source.exported image.file function
  (symbols.linked image source).table source library

end EntryPoints

end ForeignEval.Foreign

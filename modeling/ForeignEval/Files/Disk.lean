import ForeignEval.Files.Fault
import ForeignEval.Files.Path

/-!
# Disks

What can be asked about the file system by path: what kind of thing is there, symbolic links being
followed, and what its canonical path is.
-/

namespace ForeignEval.Files

/-- What a path leads to. -/
inductive Kind where
  /-- A regular file. -/
  | file
  /-- Anything else. -/
  | other
deriving DecidableEq

/-- The answers of a file system, by path. -/
structure Disk where
  /-- What the path leads to. -/
  kind : Path → Except Fault Kind
  /-- The path without links and detours, as a text. -/
  canonical : Path → Except Fault String

end ForeignEval.Files

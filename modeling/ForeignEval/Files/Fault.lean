import ForeignEval.Files.ErrorNumber

/-!
# Faults of the file system

Why the file system refused an operation: an error number of the operating system, or a reason in
words where no number applies.

* **Texts** — `Fault.message` gives the system's description with the number, or the words.
-/

namespace ForeignEval.Files

/-- Why a file operation failed. -/
inductive Fault where
  /-- The operating system's error number. -/
  | system (number : Int)
  /-- A reason in words. -/
  | words (text : String)
deriving DecidableEq, Inhabited

namespace Fault

/-- A component of the path does not exist. -/
def notFound : Fault := system 2

/-- Something that is no directory is used as one. -/
def notADirectory : Fault := system 20

/-- A directory is read as a file. -/
def isADirectory : Fault := system 21

/-- A component, or the whole path, is too long. -/
def nameTooLong : Fault := system 36

/-- Too many symbolic links were followed. -/
def tooManyLinks : Fault := system 40

/-- The path contains a NUL character. -/
def nulInPath : Fault := words "file name contained an unexpected NUL byte"

/-- The file's bytes are no text. -/
def notText : Fault := words "stream did not contain valid UTF-8"

/-- The text of a fault. -/
def message : Fault → String
  | system number => ErrorNumber.description number ++ " (os error " ++ toString number ++ ")"
  | words text => text

end Fault

end ForeignEval.Files

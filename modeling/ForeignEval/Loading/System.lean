import ForeignEval.Loading.Token

/-!
# Systems

What a loader finds on the system apart from the files that it is asked for.
-/

namespace ForeignEval.Loading

/-- A system on which modules are loaded. -/
structure System where
  /-- The libraries that are found by their bare names. -/
  libraries : List String
  /-- What stands for a token in a path. -/
  token : Token → Option String

/-- The usual system: it has the C library and what belongs to it, and of all tokens only the
directory for libraries can lead to a module. -/
def System.standard : System where
  libraries := ["libc.so.6", "libm.so.6", "libpthread.so.0", "libdl.so.2", "librt.so.1",
    "libutil.so.1", "libresolv.so.2", "libanl.so.1", "libgcc_s.so.1", "ld-linux-x86-64.so.2",
    "linux-vdso.so.1"]
  token
    | .library => some "lib/x86_64-linux-gnu"
    | _ => none

end ForeignEval.Loading

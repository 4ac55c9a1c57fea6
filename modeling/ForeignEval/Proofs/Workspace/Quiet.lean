import ForeignEval.Proofs.Foreign.Resolution
import ForeignEval.Workspace.Run

/-!
# Steps without foreign calls

Looking modules up, opening and closing libraries, and keeping count of handles and bindings never
call a foreign function. Such an operation is **quiet**: it leaves the runners alone, and what it
adds to the trace are libraries that come and go.

* **Registry** — `Registry.quiet_load`, `Registry.quiet_unload`, `Registry.quiet_teardown`.
* **Workspace** — `Workspace.Quiet`, for the bookkeeping of handles, bindings and caches.
-/

namespace ForeignEval

open Foreign (Event Trace)

/-- A trace has grown, but not by calls. -/
def Foreign.Trace.Quiet (before after : Trace) : Prop :=
  ∃ events : Trace, after = before ++ events ∧ ∀ event ∈ events, event.call? = none

namespace Foreign.Trace.Quiet

variable {before middle after : Trace}

protected theorem refl (trace : Trace) : Quiet trace trace :=
  ⟨[], (List.append_nil trace).symm, by simp⟩

theorem trans (first : Quiet before middle) (second : Quiet middle after) : Quiet before after := by
  obtain ⟨events, rfl, none⟩ := first
  obtain ⟨more, rfl, none'⟩ := second
  refine ⟨events ++ more, List.append_assoc _ _ _, fun event mem => ?_⟩
  rcases List.mem_append.1 mem with mem | mem
  · exact none event mem
  · exact none' event mem

theorem one {event : Event} (none : event.call? = none) (trace : Trace) :
    Quiet trace (trace ++ [event]) :=
  ⟨[event], rfl, by simpa using none⟩

end Foreign.Trace.Quiet

/-! ## Registry -/

theorem Loader.call?_closing (loader : Loader) (library : Nat) :
    (loader.closing library).call? = none := by
  unfold closing
  cases loader.close library with
  | ok | error => rfl

namespace Registry

variable (registry : Registry) (trace : Trace)

theorem quiet_release (library : Nat) : Trace.Quiet trace (registry.release library trace).2 := by
  unfold release
  split
  · exact .one (registry.loader.call?_closing library) trace
  · exact .refl trace

theorem quiet_openAt (path : String) : Trace.Quiet trace (registry.openAt path trace).2.2 := by
  unfold openAt
  cases registry.loader.load registry.attempted path with
  | error reason => exact .refl trace
  | ok image => exact .one rfl trace

theorem quiet_load (name : String) : Trace.Quiet trace (registry.load name trace).2.2 := by
  unfold load
  rcases registry.resolvePath name with ⟨e | path, registry⟩
  · exact .refl trace
  · dsimp only
    cases registry.find? path with
    | some handle => exact .refl trace
    | none => exact registry.quiet_openAt trace path

theorem quiet_unload (path : String) : Trace.Quiet trace (registry.unload path trace).2.2 := by
  unfold unload
  cases registry.find? path with
  | none => exact .refl trace
  | some handle => exact quiet_release _ trace _

theorem quiet_closeAll (handles : List Handle) :
    Trace.Quiet trace (registry.closeAll trace handles).2.2 := by
  induction handles generalizing registry trace with
  | nil => exact .refl trace
  | cons handle handles ih => exact (registry.quiet_release trace handle.library).trans (ih _ _)

theorem quiet_teardown : Trace.Quiet trace (registry.teardown trace).2.2 :=
  quiet_closeAll _ trace _

end Registry

theorem Binding.quiet_build (registry : Registry) (id : Nat) (module function : String)
    (trace : Trace) :
    Trace.Quiet trace (Binding.build registry id module function trace).2.2 := by
  have quiet := registry.quiet_load trace module
  have builds := Binding.builds_build registry id module function trace
  generalize Binding.build registry id module function trace = result at builds ⊢
  cases builds with
  | failed loaded | complete loaded =>
    rw [loaded] at quiet
    exact quiet
  | @incomplete handle later after _ loaded =>
    rw [loaded] at quiet
    exact quiet.trans (later.quiet_release after handle.library)

/-! ## Workspace -/

namespace Workspace

/-- A workspace has changed, but for its runners, and without a call. -/
structure Quiet (w later : Workspace) : Prop where
  runners : later.runners = w.runners
  trace : Trace.Quiet w.trace later.trace

namespace Quiet

variable {w middle later : Workspace}

protected theorem refl (w : Workspace) : Quiet w w := ⟨rfl, .refl w.trace⟩

theorem trans (first : Quiet w middle) (second : Quiet middle later) : Quiet w later :=
  ⟨second.runners.trans first.runners, first.trace.trans second.trace⟩

end Quiet

variable (w : Workspace)

theorem quiet_releaseHandle (handle : Handle) : Quiet w (w.releaseHandle handle) :=
  ⟨rfl, w.registry.quiet_release w.trace handle.library⟩

theorem quiet_releaseBinding (binding : Binding) : Quiet w (w.releaseBinding binding) := by
  unfold releaseBinding
  split
  · cases binding.module? with
    | none => exact ⟨rfl, .refl w.trace⟩
    | some handle =>
      have recounted (users : List (Nat × Nat)) : Quiet w { w with users } := ⟨rfl, .refl w.trace⟩
      exact (recounted _).trans (quiet_releaseHandle _ handle)
  · exact ⟨rfl, .refl w.trace⟩

theorem quiet_putHandle (id : Name) (handle : Handle) : Quiet w (w.putHandle id handle) := by
  unfold putHandle
  have named : Quiet w { w with handles := withName w.handles id handle } := ⟨rfl, .refl w.trace⟩
  cases w.handles.lookup id with
  | none => exact named
  | some old => exact named.trans (quiet_releaseHandle _ old)

theorem quiet_dropHandle (id : Name) : Quiet w (w.dropHandle id) := by
  unfold dropHandle
  cases w.handles.lookup id with
  | none => exact .refl w
  | some handle =>
    have unnamed : Quiet w { w with handles := without w.handles id } := ⟨rfl, .refl w.trace⟩
    exact unnamed.trans (quiet_releaseHandle _ handle)

theorem quiet_putBinding (id : Name) (binding : Binding) : Quiet w (w.putBinding id binding) := by
  unfold putBinding
  have named : Quiet w
      ({ w with bindings := withName w.bindings id binding }.retainBinding binding) :=
    ⟨rfl, .refl w.trace⟩
  cases w.bindings.lookup id with
  | none => exact named
  | some old => exact named.trans (quiet_releaseBinding _ old)

theorem quiet_dropBinding (id : Name) : Quiet w (w.dropBinding id) := by
  unfold dropBinding
  cases w.bindings.lookup id with
  | none => exact .refl w
  | some binding =>
    have unnamed : Quiet w { w with bindings := without w.bindings id } := ⟨rfl, .refl w.trace⟩
    exact unnamed.trans (quiet_releaseBinding _ binding)

theorem quiet_cacheFor (name : Option Name) (new : Cache) : Quiet w (w.cacheFor name new).2 := by
  unfold cacheFor
  cases name.bind fun name => w.cacheNames.lookup name with
  | some number => exact .refl w
  | none => exact ⟨rfl, .refl w.trace⟩

theorem quiet_foldl {α : Type} {f : Workspace → α → Workspace} (quiet : ∀ w a, Quiet w (f w a))
    (l : List α) : Quiet w (l.foldl f w) := by
  induction l generalizing w with
  | nil => exact .refl w
  | cons a l ih => exact (quiet w a).trans (ih _)

/-! ## Steps -/

theorem quiet_load (id : Name) (name : String) : Quiet w (load id name w).2 := by
  have loaded := w.registry.quiet_load w.trace name
  unfold load
  generalize w.registry.load name w.trace = result at loaded ⊢
  obtain ⟨e | handle, registry, after⟩ := result
  · exact ⟨rfl, loaded⟩
  · have kept : Quiet w { w with registry, trace := after } := ⟨rfl, loaded⟩
    exact kept.trans (quiet_putHandle _ id handle)

theorem quiet_resolveSymbol (id : Name) (name : String) (other : Option (Name × String)) :
    Quiet w (resolveSymbol id name other w).2 := by
  unfold resolveSymbol
  cases w.handles.lookup id with
  | none => exact .refl w
  | some handle =>
    dsimp only
    cases handle.resolveSymbol name with
    | error | ok => exact .refl w

theorem quiet_bind (id : Name) (module function : String) :
    Quiet w (bind id module function w).2 := by
  have built := Binding.quiet_build w.registry w.nextBinding module function w.trace
  unfold bind
  generalize Binding.build w.registry w.nextBinding module function w.trace = result at built ⊢
  obtain ⟨e | binding, registry, after⟩ := result
  · exact ⟨rfl, built⟩
  · have bound : Quiet w
        { w with registry, trace := after, nextBinding := w.nextBinding + 1 } := ⟨rfl, built⟩
    exact bound.trans (quiet_putBinding _ id binding)

theorem quiet_bindLocal (id : Name) (function : String) (script : Foreign.Script) :
    Quiet w (bindLocal id function script w).2 := by
  have counted : Quiet w { w with nextBinding := w.nextBinding + 1 } := ⟨rfl, .refl w.trace⟩
  exact counted.trans (quiet_putBinding _ id _)

theorem quiet_describeBinding (id : Name) : Quiet w (describeBinding id w).2 := by
  unfold describeBinding
  cases w.bindings.lookup id with
  | none | some => exact .refl w

theorem quiet_inspect (id : Name) : Quiet w (inspect id w).2 := by
  unfold inspect
  cases w.runners.lookup id with
  | none | some => exact .refl w

theorem quiet_onCache (name : Name) (call : CacheCall) : Quiet w (onCache name call w).2 := by
  unfold onCache
  cases w.cacheNames.lookup name with
  | none => exact .refl w
  | some number =>
    dsimp only
    split
    · exact .refl w
    · exact ⟨rfl, .refl w.trace⟩

/-- Once the runners are ended, dropping everything else is quiet. -/
theorem quiet_finish : Quiet (w.endAll (inOrder w.runners)) w.finish.2 := by
  have unbound (w : Workspace) (named : List (Name × Binding)) :=
    w.quiet_foldl (fun w (entry : Name × Binding) => w.quiet_dropBinding entry.1) named
  have released (w : Workspace) (named : List (Name × Handle)) :=
    w.quiet_foldl (fun w (entry : Name × Handle) => w.quiet_dropHandle entry.1) named
  unfold finish
  exact (unbound _ _).trans ((released _ _).trans ⟨rfl, Registry.quiet_teardown _ _⟩)

end Workspace

end ForeignEval

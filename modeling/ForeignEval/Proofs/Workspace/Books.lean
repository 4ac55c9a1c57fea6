import ForeignEval.Proofs.Workspace.Lifetime

/-!
# The books of a workspace

A workspace keeps books of its bindings and of its named states. Bindings are entered when something
is bound and struck out when their names are dropped; states are entered when they are made and
struck out when they are freed or dropped. Nothing else that is done changes the books: runners have
states of their own, which have no names, and handles and modules have no states.

* **Operations** — one lemma for each, from `Workspace.books_releaseBinding` to
  `Workspace.books_onState`: what it makes of the books.
* **Step** — `Workspace.books_act`: steps that do not bind, make states or call them change nothing.
-/

namespace ForeignEval

open Workspace (Name Request StateCall Step)

namespace Workspace

/-- What a workspace knows of bindings and named states. -/
def books (w : Workspace) : Nat × List (Name × Binding) × List (Name × State) :=
  (w.nextBinding, w.bindings, w.states)

/-! ## Operations -/

variable (w : Workspace) (id : Name)

theorem books_releaseBinding (binding : Binding) :
    (w.releaseBinding binding).books = w.books := by
  unfold releaseBinding
  split
  · cases binding.module? with
    | none | some => rfl
  · rfl

theorem books_putHandle (handle : Handle) : (w.putHandle id handle).books = w.books := by
  unfold putHandle
  cases w.handles.lookup id with
  | none | some => rfl

theorem books_dropHandle : (w.dropHandle id).books = w.books := by
  unfold dropHandle
  cases w.handles.lookup id with
  | none | some => rfl

theorem books_endRunner (runner : Runner) : (w.endRunner runner).2.books = w.books :=
  books_releaseBinding _ runner.binding

theorem books_putRunner (runner : Runner) : (w.putRunner id runner).books = w.books := by
  unfold putRunner
  cases w.runners.lookup id with
  | none => rfl
  | some old => exact books_endRunner _ old

theorem books_closeRunner : (w.closeRunner id).2.books = w.books := by
  unfold closeRunner
  cases w.runners.lookup id with
  | none => rfl
  | some runner => exact books_endRunner _ runner

theorem books_putBinding (binding : Binding) : (w.putBinding id binding).books =
    (w.nextBinding, withName w.bindings id binding, w.states) := by
  unfold putBinding
  cases w.bindings.lookup id with
  | none => rfl
  | some old => exact books_releaseBinding _ old

theorem books_dropBinding :
    (w.dropBinding id).books = (w.nextBinding, without w.bindings id, w.states) := by
  unfold dropBinding
  cases found : w.bindings.lookup id with
  | none =>
    rw [without_of_absent (absent_of_lookup found)]
    rfl
  | some binding => exact books_releaseBinding _ binding

theorem books_load (name : String) : (load id name w).2.books = w.books := by
  unfold load
  rcases w.registry.load name w.trace with ⟨e | handle, registry, trace⟩
  · rfl
  · exact books_putHandle _ id handle

theorem books_close : (close id w).2.books = w.books := by
  have same := w.books_closeRunner id
  unfold close
  generalize w.closeRunner id = result at same ⊢
  obtain ⟨none | closed, later⟩ := result
  · exact same
  · exact same

theorem books_drop : (drop id w).2.books = w.books := by
  have same := w.books_closeRunner id
  unfold drop
  generalize w.closeRunner id = result at same ⊢
  obtain ⟨none | closed, later⟩ := result
  · exact same
  · exact same

theorem books_request (runner : Runner) (what : Request) :
    (w.request runner what).2.2.books = w.books := by
  obtain ⟨binding, kind⟩ := runner
  cases kind with
  | session | evaluator | pool => rfl

theorem books_evaluateOn (what : Request) : (evaluateOn id what w).2.books = w.books := by
  unfold evaluateOn
  cases w.runners.lookup id with
  | none => rfl
  | some runner =>
    have same := w.books_request runner what
    dsimp only
    cases (w.request runner what).1 with
    | ok | error | panic => exact same

theorem books_cacheFor (name : Option Name) (new : Cache) :
    (w.cacheFor name new).2.books = w.books := by
  unfold cacheFor
  cases name.bind fun name => w.cacheNames.lookup name with
  | none | some => rfl

theorem books_openEvaluator (cache : Option Name) (changes : List Change) (binding : Binding) :
    (openEvaluator cache changes binding w).2.books = w.books :=
  w.books_cacheFor cache (w.configured changes).newCache

theorem books_openPool (cache : Option Name) (workers : Nat) (changes : List Change)
    (binding : Binding) : (openPool cache workers changes binding w).2.books = w.books := by
  unfold openPool
  cases cache.bind fun name => w.cacheNames.lookup name with
  | none | some => rfl

theorem books_openRunner {make : Binding → Workspace → Except Error RunnerKind × Workspace}
    (same : ∀ binding, (make binding w).2.books = w.books) (binding : Name) :
    (openRunner id binding make w).2.books = w.books := by
  unfold openRunner
  cases w.bindings.lookup binding with
  | none => rfl
  | some binding =>
    have same := same binding
    dsimp only
    generalize make binding w = result at same ⊢
    obtain ⟨e | kind, later⟩ := result
    · exact same
    · cases kind with
      | session | evaluator | pool => exact (books_putRunner _ id _).trans same

theorem books_fromSession (session : Name) (cache : Option Name) :
    (fromSession id session cache w).2.books = w.books := by
  unfold fromSession
  cases w.runners.lookup session with
  | none => rfl
  | some runner =>
    obtain ⟨binding, kind⟩ := runner
    cases kind with
    | evaluator | pool => exact books_endRunner _ _
    | session owner =>
      have cached := (w.takeRunner session).books_cacheFor cache (Cache.new Cache.standardSize)
      dsimp only
      generalize (w.takeRunner session).cacheFor cache (Cache.new Cache.standardSize) = result
        at cached ⊢
      obtain ⟨number, later⟩ := result
      exact (books_releaseBinding _ binding).trans ((books_putRunner _ id _).trans cached)

theorem books_onCache (call : CacheCall) : (onCache id call w).2.books = w.books := by
  unfold onCache
  cases w.cacheNames.lookup id with
  | none => rfl
  | some number =>
    dsimp only
    split
    · rfl
    · rfl

theorem books_createState (binding : Name) :
    ∃ states, (createState id binding w).2.books = (w.nextBinding, w.bindings, states) := by
  unfold createState
  cases w.bindings.lookup binding with
  | none => exact ⟨w.states, rfl⟩
  | some binding =>
    dsimp only
    rcases binding.createState w.trace with ⟨e | state, trace⟩
    · exact ⟨w.states, rfl⟩
    · exact ⟨withName w.states id state, rfl⟩

theorem books_onState (binding : Name) (call : StateCall) :
    ∃ states, (onState id binding call w).2.books = (w.nextBinding, w.bindings, states) := by
  unfold onState
  cases w.bindings.lookup binding with
  | none => exact ⟨w.states, rfl⟩
  | some binding =>
    dsimp only
    cases w.states.lookup id with
    | none => exact ⟨w.states, rfl⟩
    | some state =>
      obtain ⟨trace, same, -⟩ := grows_callState (binding.admits_isIn state) id call w
      dsimp only
      rw [same]
      exact ⟨_, rfl⟩

/-! ## Steps -/

/-- Steps that bind, or that make or call states. -/
def Step.Books : Step → Prop
  | .bind _ _ _ | .bindLocal _ _ _ | .dropBinding _ | .createState _ _ | .onState _ _ _ => True
  | _ => False

theorem books_act {step : Step} (other : ¬step.Books) : (act step w).2.books = w.books := by
  cases step with
  | bind | bindLocal | dropBinding | createState | onState => exact absurd trivial other
  | load id name => exact w.books_load id name
  | resolveSymbol id name another =>
    show (resolveSymbol id name another w).2.books = w.books
    rw [resolveSymbol_snd]
  | dropHandle id => exact w.books_dropHandle id
  | binding id =>
    show (describeBinding id w).2.books = w.books
    rw [describeBinding_snd]
  | session id binding => exact w.books_openRunner id (fun _ => rfl) binding
  | evaluator id binding cache changes =>
    exact w.books_openRunner id (w.books_openEvaluator cache changes) binding
  | pool id binding cache workers changes =>
    exact w.books_openRunner id (w.books_openPool cache workers changes) binding
  | fromSession id session cache => exact w.books_fromSession id session cache
  | evaluate id point => exact w.books_evaluateOn id (.point point)
  | evaluateBatch id dimension rows =>
    show (evaluateBatch id dimension rows w).2.books = w.books
    unfold evaluateBatch
    cases Sample.ofRows dimension rows with
    | ok batch => exact w.books_evaluateOn id (.batch batch)
    | error index =>
      dsimp only
      split
      · rfl
      · rfl
  | inspect id =>
    show (inspect id w).2.books = w.books
    rw [inspect_snd]
  | close id => exact w.books_close id
  | drop id => exact w.books_drop id
  | cache name call => exact w.books_onCache name call
  | resolvePath | unload | teardown | locate | locateCalls | isLoaded | loaded
  | registryRecord => rfl

end Workspace

end ForeignEval

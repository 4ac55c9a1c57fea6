import ForeignEval.Foreign.Demonstration
import ForeignEval.Proofs.Workspace.Housing

/-!
# Lifetime of modules

Modules are loaded and unloaded, handles and bindings are shared and dropped, sessions are opened
and closed on the bindings, and the registry itself may be dropped, in any order. A library is
closed when nothing needs it any more, which happens once, and after every call into it; what the
registry reports of a module that it could not close is how many handles are alive.

* **Building** — `Registry.Accounted.build`: a binding takes over the handle of its load, and a
  failed build drops it.
* **Step** — `Workspace.Housed.act`, and `Workspace.Housed.move` for what callers do with handles
  and bindings besides.
* **Run** — `Workspace.Housed.moves`.
* **Result** — `modules_live_while_needed`.
-/

namespace ForeignEval

open Foreign (Event Trace)
open Workspace (Name Request Step)

namespace Registry.Accounted

/-- A new binding brings the handle that it keeps; a failed build leaves nothing behind. -/
def Built (loader : Loader) (id : Nat) (others : List Nat) :
    Except Error Binding × Registry × Trace → Prop
  | (.error _, registry, trace) => Accounted loader others registry trace
  | (.ok binding, registry, trace) =>
    binding.id = id ∧ binding.table.library = binding.module?.map (·.library) ∧
      Accounted loader ((binding.module?.map (·.library)).toList ++ others) registry trace

theorem build {loader : Loader} {others : List Nat} {registry : Registry} {trace : Trace}
    (accounted : registry.Accounted loader others trace) (id : Nat) (module function : String) :
    Built loader id others (Binding.build registry id module function trace) := by
  have held := accounted.load module
  have builds := Binding.builds_build registry id module function trace
  generalize Binding.build registry id module function trace = result at builds ⊢
  cases builds with
  | failed failed =>
    rw [failed] at held
    exact held
  | incomplete loaded =>
    rw [loaded] at held
    exact Accounted.release held
  | complete loaded =>
    rw [loaded] at held
    exact ⟨rfl, rfl, held⟩

end Registry.Accounted

namespace Workspace

/-! ## Questions -/

section Questions

variable (w : Workspace) (id : Name)

theorem resolveSymbol_snd (name : String) (other : Option (Name × String)) :
    (resolveSymbol id name other w).2 = w := by
  unfold resolveSymbol
  cases w.handles.lookup id with
  | none => rfl
  | some handle =>
    dsimp only
    cases handle.resolveSymbol name with
    | error | ok => rfl

theorem describeBinding_snd : (describeBinding id w).2 = w := by
  unfold describeBinding
  cases w.bindings.lookup id with
  | none | some => rfl

theorem inspect_snd : (inspect id w).2 = w := by
  unfold inspect
  cases w.runners.lookup id with
  | none | some => rfl

end Questions

namespace Housed

variable {w : Workspace} {id : Name} {binding : Binding} {loader : Loader}

/-! ## Modules and bindings -/

theorem load (housed : w.Housed loader [] []) (id : Name) (name : String) :
    (Workspace.load id name w).2.Housed loader [] [] := by
  have loaded := housed.accounted.load name
  unfold Workspace.load
  generalize w.registry.load name w.trace = result at loaded ⊢
  obtain ⟨e | handle, registry, trace⟩ := result
  · exact housed.withRegistry loaded
  · have spare : Housed loader [] [handle.library] { w with registry, trace } :=
      housed.withRegistry loaded
    exact spare.putHandle

theorem asked (housed : w.Housed loader [] []) (name : String) :
    (Workspace.resolvePath name w).2.Housed loader [] [] := by
  obtain ⟨located, same⟩ := w.registry.resolvePath_snd name
  unfold Workspace.resolvePath
  dsimp only
  rw [same]
  exact housed.withRegistry (housed.accounted.asked located w.registry.attempted)

theorem unload (housed : w.Housed loader [] []) (path : String) :
    (Workspace.unload path w).2.Housed loader [] [] :=
  housed.withRegistry (housed.accounted.unload path).2

theorem teardown (housed : w.Housed loader [] []) : (Workspace.teardown w).2.Housed loader [] [] :=
  housed.withRegistry housed.accounted.teardown.2

theorem bind (housed : w.Housed loader [] []) (id : Name) (module function : String) :
    (Workspace.bind id module function w).2.Housed loader [] [] := by
  have built := housed.accounted.build w.nextBinding module function
  unfold Workspace.bind
  generalize Binding.build w.registry w.nextBinding module function w.trace = result at built ⊢
  obtain ⟨e | binding, registry, trace⟩ := result
  · exact housed.withRegistry built
  · obtain ⟨new, homed, accounted⟩ := built
    have spare : Housed loader [] ((binding.module?.map (·.library)).toList ++ [])
        { w with registry, trace } := housed.withRegistry (by simpa using accounted)
    exact (spare.retainNew new homed).putBinding id

theorem bindLocal (housed : w.Housed loader [] []) (id : Name) (function : String)
    (script : Foreign.Script) :
    (Workspace.bindLocal id function script w).2.Housed loader [] [] := by
  let binding := Binding.ofTable w.nextBinding function (script.table (.inProcess w.nextBinding))
  have retained : Housed loader [binding] []
      ({ w with nextBinding := w.nextBinding + 1 }.retainBinding binding) :=
    housed.retainNew rfl rfl
  exact retained.putBinding id

theorem mem_holders (found : w.bindings.lookup id = some binding) : binding ∈ w.holders :=
  List.mem_append_left _ (List.mem_map.2 ⟨_, mem_of_lookup found, rfl⟩)

/-! ## States -/

theorem createState (housed : w.Housed loader [] []) (id binding : Name) :
    (Workspace.createState id binding w).2.Housed loader [] [] := by
  unfold Workspace.createState
  cases found : w.bindings.lookup binding with
  | none => exact housed
  | some binding =>
    have called := housed.calls (mem_holders found) (Binding.calls_createState w.trace binding)
    dsimp only
    generalize binding.createState w.trace = result at called ⊢
    obtain ⟨e | state, trace⟩ := result
    · exact called
    · exact called.others w.caches w.cacheNames (withName w.states id state)

theorem onState (housed : w.Housed loader [] []) (state binding : Name) (call : StateCall) :
    (Workspace.onState state binding call w).2.Housed loader [] [] := by
  unfold Workspace.onState
  cases found : w.bindings.lookup binding with
  | none => exact housed
  | some binding =>
    have mem := mem_holders found
    dsimp only
    cases w.states.lookup state with
    | none => exact housed
    | some owned =>
      obtain ⟨trace, same, grown⟩ :=
        grows_callState (binding.admits_isIn owned) state call w
      dsimp only
      rw [same]
      exact (housed.calls mem grown).others w.caches w.cacheNames _

/-! ## Runners -/

/-- What has been opened on a binding is seated there, and the binding is still in use. -/
structure Opened (loader : Loader) (binding : Binding)
    (result : Except Error RunnerKind × Workspace) : Prop where
  housed : result.2.Housed loader [] []
  mem : binding ∈ result.2.holders
  seated : ∀ kind, result.1 = .ok kind → Runner.Seated ⟨binding, kind⟩

/-- A new session, or what is made of it. -/
theorem opened_new (housed : w.Housed loader [] []) (mem : binding ∈ w.holders)
    {make : Session → RunnerKind}
    (one : ∀ session, Runner.sessions ⟨binding, make session⟩ = [session]) :
    Opened loader binding ((Session.new binding w.trace).1.map make,
      { w with trace := (Session.new binding w.trace).2 }) := by
  obtain ⟨on, calls⟩ := Session.calls_new binding w.trace
  refine ⟨housed.calls mem calls, mem, fun kind ok => ?_⟩
  cases made : (Session.new binding w.trace).1 with
  | error e =>
    rw [made] at ok
    cases ok
  | ok session =>
    rw [made] at ok
    cases ok
    unfold Runner.Seated
    rw [one session]
    exact List.forall_mem_singleton.2 (on session made)

theorem openPoolOn (housed : w.Housed loader [] []) (mem : binding ∈ w.holders)
    (cache workers : Nat) :
    Opened loader binding (Workspace.openPoolOn cache workers binding w) := by
  obtain ⟨on, calls⟩ := Pool.calls_new binding workers (w.cacheAt cache) w.machine.schedule w.trace
  refine ⟨housed.calls mem calls, mem, fun kind ok => ?_⟩
  unfold Workspace.openPoolOn at ok
  dsimp only at ok
  cases made : (Pool.new binding workers (w.cacheAt cache) w.machine.schedule w.trace).1 with
  | error e =>
    rw [made] at ok
    cases ok
  | ok pool =>
    rw [made] at ok
    cases ok
    exact List.forall_mem_map.2 (on pool made)

theorem cacheFor (housed : w.Housed loader [] []) (name : Option Name) (new : Cache) :
    (w.cacheFor name new).2.Housed loader [] [] ∧ (w.cacheFor name new).2.holders = w.holders := by
  unfold Workspace.cacheFor
  cases name.bind fun name => w.cacheNames.lookup name with
  | some number => exact ⟨housed, rfl⟩
  | none => exact ⟨housed.others _ _ _, rfl⟩

theorem openEvaluator (housed : w.Housed loader [] []) (mem : binding ∈ w.holders)
    (cache : Option Name) (changes : List Change) :
    Opened loader binding (Workspace.openEvaluator cache changes binding w) := by
  obtain ⟨cached, same⟩ := housed.cacheFor cache (w.configured changes).newCache
  rw [← same] at mem
  exact cached.opened_new mem fun _ => rfl

theorem openPool (housed : w.Housed loader [] []) (mem : binding ∈ w.holders) (cache : Option Name)
    (workers : Nat) (changes : List Change) :
    Opened loader binding (Workspace.openPool cache workers changes binding w) := by
  unfold Workspace.openPool
  cases cache.bind fun name => w.cacheNames.lookup name with
  | some number => exact housed.openPoolOn mem number workers
  | none =>
    have added : Housed loader [] [] (w.addCache (w.configured changes).newCache).2 :=
      housed.others _ _ _
    exact added.openPoolOn mem _ _

theorem openRunner (housed : w.Housed loader [] [])
    {make : Binding → Workspace → Except Error RunnerKind × Workspace}
    (opened : ∀ binding ∈ w.holders, Opened loader binding (make binding w)) (id binding : Name) :
    (Workspace.openRunner id binding make w).2.Housed loader [] [] := by
  unfold Workspace.openRunner
  cases found : w.bindings.lookup binding with
  | none => exact housed
  | some binding =>
    obtain ⟨housed, mem, seated⟩ := opened binding (mem_holders found)
    dsimp only
    generalize make binding w = result at housed mem seated ⊢
    obtain ⟨_ | kind, after⟩ := result
    · exact housed
    · have seat := seated kind rfl
      cases kind with
      | session session => exact housed.putRunner mem seat id
      | evaluator session cache => exact (housed.others _ _ _).putRunner mem seat id
      | pool pool cache => exact (housed.others _ _ _).putRunner mem seat id

theorem fromSession (housed : w.Housed loader [] []) (id session : Name) (cache : Option Name) :
    (Workspace.fromSession id session cache w).2.Housed loader [] [] := by
  unfold Workspace.fromSession
  cases found : w.runners.lookup session with
  | none => exact housed
  | some runner =>
    have seated := housed.seated _ (mem_of_lookup found)
    have taken := housed.takeRunner found
    obtain ⟨binding, kind⟩ := runner
    cases kind with
    | evaluator | pool => exact taken.endRunner seated
    | session owner =>
      dsimp only
      -- the old runner's use of the binding lasts until the evaluator has one of its own
      have cached : Housed loader [binding] []
          ((w.takeRunner session).cacheFor cache (Cache.new Cache.standardSize)).2 := by
        unfold Workspace.cacheFor
        cases cache.bind fun name => (w.takeRunner session).cacheNames.lookup name with
        | some number => exact taken
        | none => exact taken.others _ _ _
      generalize (w.takeRunner session).cacheFor cache (Cache.new Cache.standardSize) = result
        at cached ⊢
      obtain ⟨number, later⟩ := result
      have evaluator : Runner.Seated ⟨binding, .evaluator owner number⟩ := seated
      exact ((cached.others _ _ _).putRunner List.mem_cons_self evaluator id).releaseBinding

theorem evaluateOn (housed : w.Housed loader [] []) (id : Name) (what : Request) :
    (Workspace.evaluateOn id what w).2.Housed loader [] [] := by
  unfold Workspace.evaluateOn
  cases found : w.runners.lookup id with
  | none => exact housed
  | some runner =>
    have seated := housed.seated _ (mem_of_lookup found)
    obtain ⟨same, seated', calls⟩ := seated.request w what
    have mem : runner.binding ∈ w.holders :=
      List.mem_append_right _ (List.mem_map.2 ⟨_, mem_of_lookup found, rfl⟩)
    have called := housed.calls mem calls
    have served : (w.request runner what).2.2.Housed loader [] [] := by
      obtain ⟨binding, kind⟩ := runner
      cases kind with
      | session => exact called
      | evaluator | pool => exact called.others _ _ _
    have there : (w.request runner what).2.2.runners.lookup id = some runner := by
      rw [Kept.runners_request]
      exact found
    have stored := served.setRunner there same seated'
    dsimp only
    cases (w.request runner what).1 with
    | ok | error | panic => exact stored

theorem evaluateBatch (housed : w.Housed loader [] []) (id : Name) (dimension : Nat)
    (rows : List Point) : (Workspace.evaluateBatch id dimension rows w).2.Housed loader [] [] := by
  unfold Workspace.evaluateBatch
  cases Sample.ofRows dimension rows with
  | ok batch => exact housed.evaluateOn id (.batch batch)
  | error index =>
    dsimp only
    split
    · exact housed
    · exact housed

theorem close (housed : w.Housed loader [] []) (id : Name) :
    (Workspace.close id w).2.Housed loader [] [] := by
  have closed := housed.closeRunner id
  unfold Workspace.close
  generalize w.closeRunner id = result at closed ⊢
  obtain ⟨none | ended, later⟩ := result
  · exact closed
  · exact closed

theorem drop (housed : w.Housed loader [] []) (id : Name) :
    (Workspace.drop id w).2.Housed loader [] [] := by
  have closed := housed.closeRunner id
  unfold Workspace.drop
  generalize w.closeRunner id = result at closed ⊢
  obtain ⟨none | ended, later⟩ := result
  · exact closed
  · exact closed

theorem onCache (housed : w.Housed loader [] []) (name : Name) (call : CacheCall) :
    (Workspace.onCache name call w).2.Housed loader [] [] := by
  unfold Workspace.onCache
  cases w.cacheNames.lookup name with
  | none => exact housed
  | some number =>
    dsimp only
    split
    · exact housed
    · exact housed.others _ _ _

/-! ## Steps -/

/-- **Step**: whatever is asked of a workspace, all counts are right afterwards. -/
theorem act (housed : w.Housed loader [] []) (step : Step) :
    (Workspace.act step w).2.Housed loader [] [] := by
  cases step with
  | load id name => exact housed.load id name
  | resolvePath name => exact housed.asked name
  | resolveSymbol id name other =>
    show (Workspace.resolveSymbol id name other w).2.Housed loader [] []
    rw [resolveSymbol_snd]
    exact housed
  | unload path => exact housed.unload path
  | teardown => exact housed.teardown
  | dropHandle id => exact housed.dropHandle
  | bind id module function => exact housed.bind id module function
  | bindLocal id function script => exact housed.bindLocal id function script
  | binding id =>
    show (Workspace.describeBinding id w).2.Housed loader [] []
    rw [describeBinding_snd]
    exact housed
  | dropBinding id => exact housed.dropBinding
  | createState id binding => exact housed.createState id binding
  | onState state binding call => exact housed.onState state binding call
  | session id binding =>
    exact housed.openRunner (fun _ mem => housed.opened_new mem fun _ => rfl) id binding
  | evaluator id binding cache changes =>
    exact housed.openRunner (fun _ mem => housed.openEvaluator mem cache changes) id binding
  | pool id binding cache workers changes =>
    exact housed.openRunner (fun _ mem => housed.openPool mem cache workers changes) id binding
  | fromSession id session cache => exact housed.fromSession id session cache
  | evaluate id point => exact housed.evaluateOn id (.point point)
  | evaluateBatch id dimension rows => exact housed.evaluateBatch id dimension rows
  | inspect id =>
    show (Workspace.inspect id w).2.Housed loader [] []
    rw [inspect_snd]
    exact housed
  | close id => exact housed.close id
  | drop id => exact housed.drop id
  | cache name call => exact housed.onCache name call
  | locate | locateCalls | isLoaded | loaded | registryRecord => exact housed

end Housed

/-! ## Runs -/

/-- What is done with a workspace: its steps, and what callers do with handles and bindings without
asking it. -/
inductive Move where
  | step (step : Step)
  /-- Gives a name to a second handle of the module of a handle. -/
  | cloneHandle (id source : Name)
  /-- Gives another name to a binding. -/
  | shareBinding (id source : Name)
  /-- Drops the registry; nobody hears of a failure. -/
  | dropRegistry

/-- The workspace after something was done with it. -/
def move (w : Workspace) : Move → Workspace
  | .step step => (act step w).2
  | .cloneHandle id source =>
    match w.handles.lookup source with
    | none => w
    | some handle =>
      { w with registry := w.registry.retain handle.library }.putHandle id handle
  | .shareBinding id source =>
    match w.bindings.lookup source with
    | none => w
    | some binding => w.putBinding id binding
  | .dropRegistry => (teardown w).2

/-- The workspace after things were done with it in order. -/
def moves (w : Workspace) (all : List Move) : Workspace := all.foldl move w

namespace Housed

variable {w : Workspace} {loader : Loader}

theorem new (machine : Machine) (locator : Option Locator) (search : SearchPath)
    (disk : Files.Disk) (loader : Loader) (retry : RetryPolicy) (caches : List (Name × Cache)) :
    (Workspace.new machine locator search disk loader retry caches).Housed loader [] [] where
  handleNames := .nil
  bindingNames := .nil
  runnerNames := .nil
  seated _ mem := absurd mem List.not_mem_nil
  enrolled := {
    counted := fun _ => rfl
    numbered := fun _ mem => absurd mem List.not_mem_nil
    identified := fun _ mem => absurd mem List.not_mem_nil
    homed := fun _ mem => absurd mem List.not_mem_nil }
  accounted := .new _ loader retry

theorem move (housed : w.Housed loader [] []) (move : Move) :
    (w.move move).Housed loader [] [] := by
  cases move with
  | step step => exact housed.act step
  | cloneHandle id source =>
    dsimp only [Workspace.move]
    cases found : w.handles.lookup source with
    | none => exact housed
    | some handle =>
      have there : handle.library ∈ w.handles.map (·.2.library) :=
        List.mem_map.2 ⟨_, mem_of_lookup found, rfl⟩
      have spare : Housed loader [] [handle.library]
          { w with registry := w.registry.retain handle.library } :=
        housed.withRegistry (housed.accounted.retain
          (List.mem_append_right _ (List.mem_append_left _ there)))
      exact spare.putHandle
  | shareBinding id source =>
    dsimp only [Workspace.move]
    cases found : w.bindings.lookup source with
    | none => exact housed
    | some binding => exact (housed.retainBinding (mem_holders found)).putBinding id
  | dropRegistry => exact housed.teardown

/-- **Run**: all counts stay right. -/
theorem moves (housed : w.Housed loader [] []) (all : List Move) :
    (w.moves all).Housed loader [] [] := by
  induction all generalizing w with
  | nil => exact housed
  | cons first rest ih => exact ih (housed.move first)

end Housed

/-! ## Result -/

/-- How many handles of a library are alive besides the catalog's: those that have a name, and one
for each binding on the library that is in use. -/
def othersOf (w : Workspace) (library : Nat) : Nat :=
  (w.handles.map (·.2.library)).count library + (keptBy w.holders).count library

/-- What is reported of a module that is taken out of the catalog, if it is still in use. -/
def reported (w : Workspace) (handle : Handle) : Option (String × String) :=
  if w.othersOf handle.library = 0 then none
  else some (handle.path, Registry.sharedReason (w.othersOf handle.library))

/-- Libraries are open while they are needed, and no longer. -/
structure OpenWhileNeeded (w : Workspace) : Prop where
  /-- No library is opened twice. -/
  opened : (w.trace.openings.map (·.1)).Nodup
  /-- No library is closed twice. -/
  once : ∀ library, w.trace.count (.closed library) ≤ 1
  /-- A library that has been opened is closed exactly if neither the catalog nor anything else has
  a handle. -/
  closed : ∀ library, library ∈ w.trace.openings.map (·.1) →
    (Event.closed library ∈ w.trace ↔
      library ∉ w.registry.catalog.map (·.library) ∧ w.othersOf library = 0)
  /-- No call is made into a library before it is opened, or once it was to be closed. -/
  sheltered : w.trace.Sheltered
  /-- A module that is unloaded leaves the catalog, and is reported if it has other handles. -/
  unload : ∀ path,
    (w.registry.unload path w.trace).2.1.catalog =
        w.registry.catalog.filter (fun handle => !Files.samePath handle.path path) ∧
      (w.registry.unload path w.trace).1 =
        Registry.unloaded ((w.registry.find? path).bind w.reported)
  /-- A teardown empties the catalog, and reports all modules that have other handles. -/
  teardown :
    (w.registry.teardown w.trace).2.1.catalog = [] ∧
      (w.registry.teardown w.trace).1 =
        if (w.registry.catalog.filterMap w.reported).isEmpty then .ok ()
        else .error (.moduleUnload
          ((w.registry.catalog.filterMap w.reported).mergeSort Registry.failureBefore))
  /-- No module is reported twice. -/
  distinct : Registry.OnePerPath w.registry.catalog

theorem Housed.openWhileNeeded {w : Workspace} {loader : Loader} (closes : loader.Closes)
    (housed : w.Housed loader [] []) : w.OpenWhileNeeded := by
  have owned := housed.accounted.owned
  let libraries := w.handles.map fun named => named.2.library
  have others (library : Nat) :
      ([] ++ libraries ++ keptBy ([] ++ w.holders)).count library = w.othersOf library :=
    List.count_append
  have reported : Registry.blocked loader ([] ++ libraries ++ keptBy ([] ++ w.holders)) =
      w.reported := by
    funext handle
    unfold Registry.blocked Workspace.reported
    rw [others, Registry.reason?_of_closes (closes handle.library)]
    split
    · rfl
    · rfl
  refine ⟨?_, fun library => ?_, fun library opened => ?_, owned.sheltered, fun path => ⟨?_, ?_⟩,
    ⟨?_, ?_⟩, housed.accounted.cataloged.onePerPath⟩
  · rw [owned.numbered]
    exact List.nodup_range
  · rw [owned.count_closed (closes library), owned.closed]
    split
    · exact Nat.le_refl 1
    · exact Nat.zero_le 1
  · rw [owned.numbered, List.mem_range] at opened
    rw [owned.closed_iff (closes library) opened, List.mem_append, not_or, ← others,
      List.count_eq_zero]
  · exact Registry.catalog_unload w.registry path w.trace
  · rw [(housed.accounted.unload path).1]
    exact congrArg (fun report => Registry.unloaded ((w.registry.find? path).bind report)) reported
  · exact Registry.catalog_teardown w.registry w.trace
  · rw [← reported]
    exact housed.accounted.teardown.1

end Workspace

/-- **Modules live while they are needed.** Whatever is done with modules, handles, bindings and
what is opened on them, if every library can be closed: a library is closed when it has no handle
left, once, and no call comes after; unloading and tearing down always empty the catalog, and report
exactly the modules that are still in use, each with the number of its live handles. -/
theorem modules_live_while_needed (machine : Machine) (locator : Option Locator)
    (search : SearchPath) (disk : Files.Disk) (loader : Loader) (closes : loader.Closes)
    (retry : RetryPolicy) (caches : List (Name × Cache)) (moves : List Workspace.Move) :
    ((Workspace.new machine locator search disk loader retry caches).moves moves).OpenWhileNeeded :=
  ((Workspace.Housed.new machine locator search disk loader retry caches).moves
    moves).openWhileNeeded closes

/-- Opens demonstration modules wherever they are looked for, and closes whatever it has opened. -/
def Loader.demonstration : Loader :=
  ⟨fun _ path => .ok (Foreign.Demonstration.image path), fun _ => .ok ()⟩

/-- A workspace in which every name is the path of a demonstration module. -/
def Workspace.blank : Workspace :=
  .new ⟨none, .inOrder⟩ (some fun _ name => .found name) (.ofTexts [])
    ⟨fun _ => .ok .file, fun _ => .error .notFound⟩ .demonstration .standard []

/-- A module is unloaded while a session is on it, and loaded once more before the session is
closed. -/
def Workspace.reloading : List Move :=
  [.step (.bind "b" "/a.so" "sum"), .step (.session "s" "b"), .step (.unload "/a.so"),
    .step (.dropBinding "b"), .step (.load "h" "/a.so"), .step (.evaluate "s" [⟨1⟩, ⟨2⟩]),
    .step (.close "s"), .dropRegistry]

/-- The first instance is closed with the session, and the second one outlives the registry. -/
theorem modules_live_while_needed_reloading :
    Loader.demonstration.Closes ∧
      (Workspace.blank.moves Workspace.reloading).OpenWhileNeeded ∧
      (Workspace.blank.moves Workspace.reloading).trace.openings = [(0, "/a.so"), (1, "/a.so")] ∧
      (Workspace.blank.moves Workspace.reloading).trace.closings = [0] := by
  have closes : Loader.demonstration.Closes := fun _ => rfl
  refine ⟨closes, modules_live_while_needed _ _ _ _ _ closes _ _ _, ?openings, ?closings⟩
  case openings => decide +kernel
  case closings => decide +kernel

end ForeignEval

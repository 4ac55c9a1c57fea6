import ForeignEval.Workspace.Basic

/-!
# Running steps

What each step does to a workspace and answers. Every step is one function of this module, and
`Workspace.step` chooses among them.

* **Steps** — `Workspace.step` answers a step, with the foreign calls that it made.
* **Ending** — `Workspace.finish` drops all that is left and lists the foreign calls of that.
-/

namespace ForeignEval.Workspace

open Foreign (Call Event Script Source Trace)

/-- A step's effect. -/
abbrev Action := Workspace → Outcome × Workspace

/-! ## Outcomes -/

/-- The answer of a value. -/
def answer (value : Value) : Outcome := .reply (.ok value)

/-- The answer of an error. -/
def refuse (e : Error) : Outcome := .reply (.error e)

/-- The answer of an operation that cannot unwind. -/
def settle {α : Type} (f : α → Value) (result : Except Error α) : Outcome :=
  .reply ((Reply.ofExcept result).map f)

/-- The value for no result. -/
def nothing (_ : Unit) : Value := .unit

/-! ## Modules -/

/-- Loads a module and keeps the handle. -/
def load (id : Name) (name : String) : Action := fun w =>
  let (result, registry, trace) := w.registry.load name w.trace
  let w := { w with registry, trace }
  match result with
  | .error e => (refuse e, w)
  | .ok handle =>
    let same := (inOrder w.handles).filter fun (_, other) => handle.sameModule other
    (.loaded handle.path (same.map (·.1)) handle.recordText, w.putHandle id handle)

/-- Asks the registry for the path of a name. -/
def resolvePath (name : String) : Action := fun w =>
  let (result, registry) := w.registry.resolvePath name
  (settle (fun path => .text (some path)) result, { w with registry })

/-- How often the registry's own locator has been asked; there need not be one. -/
def locatorCalls (w : Workspace) : Nat := if w.ownLocator then w.registry.located else 0

/-- Resolves a symbol, and perhaps another one to compare. -/
def resolveSymbol (id : Name) (name : String) (other : Option (Name × String)) : Action := fun w =>
  match w.handles.lookup id with
  | none => (.missing .handle, w)
  | some handle =>
    match handle.resolveSymbol name with
    | .error e => (refuse e, w)
    | .ok address =>
      let another := other.bind fun (id, name) =>
        (w.handles.lookup id).bind fun handle => (handle.resolveSymbol name).toOption
      (answer (.address (another.map (· == address))), w)

/-- Takes a module out of the catalog. -/
def unload (path : String) : Action := fun w =>
  let (result, registry, trace) := w.registry.unload path w.trace
  (settle nothing result, { w with registry, trace })

/-- Empties the catalog. -/
def teardown : Action := fun w =>
  let (result, registry, trace) := w.registry.teardown w.trace
  (settle nothing result, { w with registry, trace })

/-! ## Bindings -/

/-- Binds a function of a module. -/
def bind (id : Name) (module function : String) : Action := fun w =>
  let (result, registry, trace) :=
    Binding.build w.registry w.nextBinding module function w.trace
  let w := { w with registry, trace }
  match result with
  | .error e => (refuse e, w)
  | .ok binding =>
    (answer .unit, { w with nextBinding := w.nextBinding + 1 }.putBinding id binding)

/-- Binds a scripted function of this process; it is told apart by the number of its binding. -/
def bindLocal (id : Name) (function : String) (script : Script) : Action := fun w =>
  let binding := Binding.ofTable w.nextBinding function (script.table (.inProcess w.nextBinding))
  (answer .unit, { w with nextBinding := w.nextBinding + 1 }.putBinding id binding)

/-- Describes a binding. -/
def describeBinding (id : Name) : Action := fun w =>
  match w.bindings.lookup id with
  | none => (.missing .binding, w)
  | some binding =>
    (answer (.bound binding.function binding.modulePath? binding.recordText), w)

/-! ## States -/

/-- Makes a state. -/
def createState (id binding : Name) : Action := fun w =>
  match w.bindings.lookup binding with
  | none => (.missing .binding, w)
  | some binding =>
    match binding.createState w.trace with
    | (.error e, trace) => (refuse e, { w with trace })
    | (.ok state, trace) =>
      (answer .unit, { w with trace, states := withName w.states id state })

/-- The answer of a binding that was asked for what its function declares. -/
def askInfo (binding : Binding) (state : State) (f : FunctionInfo → Value) : Action := fun w =>
  let (result, trace) := binding.info state w.trace
  (settle f result, { w with trace })

/-- Calls a binding on a state. -/
def callState (id : Name) (binding : Binding) (state : State) : StateCall → Action
  | .info => askInfo binding state .info
  | .inputDimension => askInfo binding state fun info => .number info.inputDimension
  | .outputDimension => askInfo binding state fun info => .number info.outputDimension
  | .description => askInfo binding state fun info => .text info.description
  | .init => fun w =>
    let (reply, trace) := binding.init state w.trace
    (.reply (reply.map nothing), { w with trace })
  | .finalize => fun w =>
    let (result, trace) := binding.finalize state w.trace
    (settle nothing result, { w with trace })
  | .execute point outputs => fun w =>
    let (reply, trace) := binding.execute state point outputs w.trace
    (.reply (reply.map fun point => .point (some point)), { w with trace })
  | .executeBatch dimension rows outputs => fun w =>
    match Sample.ofRows dimension rows with
    | .error index => (.badRow index, w)
    | .ok batch =>
      let (reply, trace) := binding.executeBatch state batch outputs w.trace
      (.reply (reply.map .sample), { w with trace })
  | .delete => fun w =>
    let (result, trace) := binding.deleteState state w.trace
    (settle nothing result, { w with trace, states := without w.states id })
  | .drop => fun w => (answer .unit, { w with states := without w.states id })

/-- Calls a named binding on a named state. -/
def onState (state binding : Name) (call : StateCall) : Action := fun w =>
  match w.bindings.lookup binding with
  | none => (.missing .binding, w)
  | some binding =>
    match w.states.lookup state with
    | none => (.missing .state, w)
    | some found => callState state binding found call w

/-! ## Runners -/

/-- Opens a runner on a named binding with what `make` makes of it, and gives it a name. -/
def openRunner (id binding : Name)
    (make : Binding → Workspace → Except Error RunnerKind × Workspace) : Action := fun w =>
  match w.bindings.lookup binding with
  | none => (.missing .binding, w)
  | some binding =>
    match make binding w with
    | (.error e, w) => (refuse e, w)
    | (.ok kind, w) =>
      let runner : Runner := ⟨binding, kind⟩
      let w := match kind with
        | .session _ => w
        | .evaluator _ cache | .pool _ cache => w.nameCache (cacheNameOf id) cache
      let w := w.putRunner id runner
      (answer (.view (w.view runner)), w)

/-- Opens a session. -/
def openSession (binding : Binding) (w : Workspace) : Except Error RunnerKind × Workspace :=
  let (result, trace) := Session.new binding w.trace
  (result.map .session, { w with trace })

/-- Opens an evaluator on a cache that is there. -/
def openEvaluatorOn (cache : Nat) (binding : Binding) (w : Workspace) :
    Except Error RunnerKind × Workspace :=
  let (result, trace) := Session.new binding w.trace
  (result.map (.evaluator · cache), { w with trace })

/-- Opens a pool on a cache that is there. -/
def openPoolOn (cache workers : Nat) (binding : Binding) (w : Workspace) :
    Except Error RunnerKind × Workspace :=
  let (result, trace) := Pool.new binding workers (w.cacheAt cache) w.machine.schedule w.trace
  (result.map (.pool · cache), { w with trace })

/-- The number of a named cache, or else of a new one. -/
def cacheFor (w : Workspace) (name : Option Name) (new : Cache) : Nat × Workspace :=
  match name.bind fun name => w.cacheNames.lookup name with
  | some number => (number, w)
  | none => w.addCache new

/-- The standard configuration after some changes. -/
def configured (w : Workspace) (changes : List Change) : Config :=
  changes.foldl Change.apply (Config.standard w.machine.processors)

/-- Opens an evaluator, with a cache that is there or a new one. -/
def openEvaluator (cache : Option Name) (changes : List Change) (binding : Binding)
    (w : Workspace) : Except Error RunnerKind × Workspace :=
  let (cache, w) := w.cacheFor cache (w.configured changes).newCache
  openEvaluatorOn cache binding w

/-- Opens a pool. A cache that is there comes with a number of workers of its own. -/
def openPool (cache : Option Name) (workers : Nat) (changes : List Change) (binding : Binding)
    (w : Workspace) : Except Error RunnerKind × Workspace :=
  match cache.bind fun name => w.cacheNames.lookup name with
  | some number => openPoolOn number workers binding w
  | none =>
    let config := w.configured changes
    let (number, w) := w.addCache config.newCache
    openPoolOn number config.workers binding w

/-- Makes an evaluator of a session. Any other runner of that name is ended. -/
def fromSession (id session : Name) (cache : Option Name) : Action := fun w =>
  match w.runners.lookup session with
  | none => (.missing .session, w)
  | some runner =>
    let w := w.takeRunner session
    match runner.kind with
    | .session found =>
      let (number, w) := w.cacheFor cache (Cache.new Cache.standardSize)
      let evaluator : Runner := ⟨runner.binding, .evaluator found number⟩
      let w := (w.nameCache (cacheNameOf id) number).putRunner id evaluator
      (answer (.view (w.view evaluator)), w.releaseBinding runner.binding)
    | _ => (.missing .session, (w.endRunner runner).2)

/-- What is to be evaluated. -/
inductive Request where
  | point (point : Point)
  | batch (batch : Sample)

/-- Has a runner evaluate something. -/
def request (w : Workspace) (runner : Runner) (request : Request) :
    Reply Value × Runner × Workspace :=
  match runner.kind with
  | .session session =>
    let (reply, session, trace) := match request with
      | .point point =>
        let (reply, rest) := session.evaluate point w.trace
        (reply.map fun point => Value.point (some point), rest)
      | .batch batch =>
        let (reply, rest) := session.evaluateBatch batch w.trace
        (reply.map Value.sample, rest)
    (reply, { runner with kind := .session session }, { w with trace })
  | .evaluator session number =>
    let evaluator : Evaluator := ⟨session, w.cacheAt number⟩
    let (reply, evaluator, trace) := match request with
      | .point point =>
        let (reply, rest) := evaluator.evaluate point w.trace
        (reply.map fun point => Value.point (some point), rest)
      | .batch batch =>
        let (reply, rest) := evaluator.evaluateBatch batch w.trace
        (reply.map Value.sample, rest)
    (reply, { runner with kind := .evaluator evaluator.session number },
      { w with trace }.setCache number evaluator.cache)
  | .pool pool number =>
    let pool : Pool := { pool with cache := w.cacheAt number }
    let (reply, pool, trace) := match request with
      | .point point =>
        let (reply, rest) := pool.evaluate point w.trace
        (reply.map fun point => Value.point (some point), rest)
      | .batch batch =>
        let (reply, rest) := pool.evaluateBatch batch w.trace
        (reply.map Value.sample, rest)
    (reply, { runner with kind := .pool pool number }, { w with trace }.setCache number pool.cache)

/-- Has a named runner evaluate something; the runner is not described after unwinding. -/
def evaluateOn (id : Name) (what : Request) : Action := fun w =>
  match w.runners.lookup id with
  | none => (.missing .runner, w)
  | some runner =>
    let (reply, runner, w) := w.request runner what
    let w := w.setRunner id runner
    match reply with
    | .panic text => (.reply (.panic text), w)
    | reply => (.evaluated reply (w.view runner), w)

/-- Evaluates a batch given by its rows. -/
def evaluateBatch (id : Name) (dimension : Nat) (rows : List Point) : Action := fun w =>
  match Sample.ofRows dimension rows with
  | .error index =>
    if (w.runners.lookup id).isNone then (.missing .runner, w) else (.badRow index, w)
  | .ok batch => evaluateOn id (.batch batch) w

/-- Describes a runner. -/
def inspect (id : Name) : Action := fun w =>
  match w.runners.lookup id with
  | none => (.missing .runner, w)
  | some runner => (.inspected (w.view runner) (w.recordOf runner), w)

/-- Closes a runner. -/
def close (id : Name) : Action := fun w =>
  match w.closeRunner id with
  | (none, w) => (.missing .runner, w)
  | (some closed, w) => (settle nothing closed, w)

/-- Drops a runner; nobody hears of a failure. -/
def drop (id : Name) : Action := fun w =>
  match w.closeRunner id with
  | (none, w) => (.missing .runner, w)
  | (some _, w) => (answer .unit, w)

/-! ## Caches -/

/-- What a call on a cache answers and leaves; another cache has been looked up. -/
def callCache (cache : Cache) (other : Cache) : CacheCall → Value × Cache
  | .insert point value => (.unit, cache.insert point value)
  | .lookup point =>
    let (found, cache) := cache.lookup point
    (.point found, cache)
  | .contains point => (.flag (cache.contains point), cache)
  | .merge _ => (.unit, cache.merge other)
  | .clear => (.unit, cache.clear)
  | .setMaxSize size => (.unit, cache.setMaxSize size)
  | .enable => (.unit, cache.enable)
  | .disable => (.unit, cache.disable)
  | .entries => (.entries cache.entries, cache)
  | .counts =>
    (.counts cache.size cache.isEmpty cache.hits cache.maxSize cache.enabled, cache)
  | .record => (.text (some cache.recordText), cache)

/-- Calls a named cache. A cache that is merged into itself stays as it is. -/
def onCache (name : Name) (call : CacheCall) : Action := fun w =>
  match w.cacheNames.lookup name with
  | none => (.missing .cache, w)
  | some number =>
    let other := match call with
      | .merge other => w.cacheNames.lookup other
      | _ => some number
    match other with
    | none => (.missing .cache, w)
    | some other =>
      let (value, cache) := callCache (w.cacheAt number) (w.cacheAt other) call
      (.cached value cache.stats, w.setCache number cache)

/-! ## Steps -/

/-- What a step does. -/
def act : Step → Action
  | .load id name => load id name
  | .resolvePath name => resolvePath name
  | .locate name => fun w => (.located (w.search.locate w.disk (.ofText name)), w)
  | .locateCalls => fun w => (answer (.number w.locatorCalls), w)
  | .resolveSymbol handle name other => resolveSymbol handle name other
  | .isLoaded path => fun w => (answer (.flag (w.registry.isLoaded path)), w)
  | .loaded => fun w => (answer (.size w.registry.size), w)
  | .unload path => unload path
  | .teardown => teardown
  | .dropHandle id => fun w => (answer (.flag (w.handles.lookup id).isSome), w.dropHandle id)
  | .registryRecord => fun w => (answer (.text (some w.registry.recordText)), w)
  | .bind id module function => bind id module function
  | .bindLocal id function script => bindLocal id function script
  | .binding id => describeBinding id
  | .dropBinding id => fun w => (answer (.flag (w.bindings.lookup id).isSome), w.dropBinding id)
  | .createState id binding => createState id binding
  | .onState state binding call => onState state binding call
  | .session id binding => openRunner id binding openSession
  | .evaluator id binding cache changes => openRunner id binding (openEvaluator cache changes)
  | .pool id binding cache workers changes =>
    openRunner id binding (openPool cache workers changes)
  | .fromSession id session cache => fromSession id session cache
  | .evaluate id point => evaluateOn id (.point point)
  | .evaluateBatch id dimension rows => evaluateBatch id dimension rows
  | .inspect id => inspect id
  | .close id => close id
  | .drop id => drop id
  | .cache name call => onCache name call

/-- The name that a step is about, where it gives one. -/
def Step.id? : Step → Option Name
  | .load id _ | .dropHandle id | .bind id _ _ | .bindLocal id _ _ | .binding id | .dropBinding id
  | .createState id _ | .session id _ | .evaluator id _ _ _ | .pool id _ _ _ _
  | .fromSession id _ _ | .evaluate id _ | .evaluateBatch id _ _ | .inspect id | .close id
  | .drop id => some id
  | _ => none

/-- Whether a name is that of a pool. -/
def isPool (w : Workspace) (id : Name) : Bool :=
  match w.runners.lookup id with
  | some ⟨_, .pool _ _⟩ => true
  | _ => false

/-- The foreign calls among events. -/
def callsIn (events : Trace) : List Call := events.filterMap Event.call?

/-- The foreign calls of a step. The workers of a pool run side by side, so the calls of a step on a
pool are listed by state. -/
def callsOf (step : Step) (after : Workspace) (events : Trace) : List Call :=
  let calls := callsIn events
  match step.id? with
  | some id =>
    if after.isPool id then calls.mergeSort fun a b => a.state ≤ b.state else calls
  | none => calls

/-- The answer to a step, the foreign calls that it made, and the workspace afterwards. -/
def step (w : Workspace) (what : Step) : Outcome × List Call × Workspace :=
  let (outcome, after) := act what w
  (outcome, callsOf what after (after.trace.drop w.trace.length), after)

/-- The answers to steps in order, and the workspace afterwards. -/
def run (w : Workspace) : List Step → List (Outcome × List Call) × Workspace
  | [] => ([], w)
  | what :: rest =>
    let (outcome, calls, w) := w.step what
    let (answers, w) := w.run rest
    ((outcome, calls) :: answers, w)

/-! ## Ending -/

/-- Ends the runners of these names, one after the other. -/
def endAll (w : Workspace) : List (Name × Runner) → Workspace
  | [] => w
  | (id, runner) :: rest => ((w.takeRunner id).endRunner runner).2.endAll rest

/-- Drops everything: runners in the order of their names, bindings, handles and the registry. -/
def finish (w : Workspace) : List Call × Workspace :=
  let after := w.endAll (inOrder w.runners)
  let after := (inOrder after.bindings).foldl (fun w (id, _) => w.dropBinding id) after
  let after := (inOrder after.handles).foldl (fun w (id, _) => w.dropHandle id) after
  let (_, registry, trace) := after.registry.teardown after.trace
  let after := { after with registry, trace, states := [] }
  (callsIn (after.trace.drop w.trace.length), after)

/-! ## Beginning -/

/-- A workspace on a machine, with named caches and nothing else. Its registry asks the locator, or
else the search path. -/
def new (machine : Machine) (locator : Option Locator) (search : SearchPath) (disk : Files.Disk)
    (loader : Loader) (retry : RetryPolicy) (caches : List (Name × Cache)) : Workspace where
  registry := .new (locator.getD fun _ name => search.locate disk (.ofText name)) loader retry
  search := search
  disk := disk
  machine := machine
  ownLocator := locator.isSome
  trace := []
  nextBinding := 1
  users := []
  handles := []
  bindings := []
  states := []
  caches := caches.map (·.2)
  cacheNames := (caches.map (·.1)).zipIdx
  runners := []

end ForeignEval.Workspace

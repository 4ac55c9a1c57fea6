import ForeignEval.Foreign.Script
import ForeignEval.Pool

/-!
# Steps of a workspace

What can be asked of a workspace, and what it answers. Handles, bindings, states, caches and runners
are named by the caller; a runner is a session, an evaluator or a pool.

* **Steps** — `Step` lists everything that can be asked.
* **Answers** — `Outcome` is the answer to a step, of a shape that depends on the step.
-/

namespace ForeignEval.Workspace

open Foreign (Script)

/-- A name that the caller gives. -/
abbrev Name := String

/-- A change to a configuration. -/
inductive Change where
  /-- Another size of caches. -/
  | cacheMaxSize (size : Nat)
  /-- Caches enabled or disabled. -/
  | cacheEnabled (enabled : Bool)
  /-- Another number of workers. -/
  | workers (count : Nat)
  /-- Another retry policy. -/
  | retry (policy : RetryPolicy)

/-- The configuration after a change. -/
def Change.apply (config : Config) : Change → Config
  | cacheMaxSize size => config.withCacheMaxSize size
  | cacheEnabled enabled => config.withCacheEnabled enabled
  | workers count => config.withWorkers count
  | retry policy => config.withRetry policy

/-- A call on a cache. -/
inductive CacheCall where
  /-- Gives a point an output. -/
  | insert (point value : Point)
  | lookup (point : Point)
  /-- Asks whether a point has an output. -/
  | contains (point : Point)
  /-- Inserts the entries of another cache. -/
  | merge (other : Name)
  /-- Removes all entries. -/
  | clear
  /-- Changes how many entries there may be. -/
  | setMaxSize (size : Nat)
  /-- Serves entries. -/
  | enable
  /-- Serves no entries. -/
  | disable
  /-- Lists the entries. -/
  | entries
  /-- Asks for sizes and counters. -/
  | counts
  /-- Asks for the cache as a record. -/
  | record

/-- A call on a state through a binding. -/
inductive StateCall where
  /-- Asks for everything that the function declares. -/
  | info
  /-- Asks for the input dimension. -/
  | inputDimension
  /-- Asks for the output dimension. -/
  | outputDimension
  /-- Asks for the description. -/
  | description
  /-- Prepares the state. -/
  | init
  /-- Ends the use of the state. -/
  | finalize
  /-- Evaluates a point. -/
  | execute (point : Point) (outputs : Nat)
  /-- Evaluates a batch. -/
  | executeBatch (dimension : Nat) (rows : List Point) (outputs : Nat)
  /-- Frees the state, which is used up in any case. -/
  | delete
  /-- Forgets the state. -/
  | drop

/-- What can be asked of a workspace. -/
inductive Step where
  /-- Loads a module and keeps the handle. -/
  | load (id : Name) (name : String)
  /-- Asks the registry for the path of a name. -/
  | resolvePath (name : String)
  /-- Asks the search path for the path of a name. -/
  | locate (name : String)
  /-- Asks how often the registry's own locator has been asked. -/
  | locateCalls
  /-- Resolves a symbol, and perhaps another one to compare. -/
  | resolveSymbol (handle : Name) (name : String) (other : Option (Name × String))
  /-- Asks whether the catalog has a path. -/
  | isLoaded (path : String)
  /-- Asks how many modules the catalog has. -/
  | loaded
  /-- Takes a module out of the catalog. -/
  | unload (path : String)
  /-- Empties the catalog. -/
  | teardown
  | dropHandle (id : Name)
  /-- Asks for the registry as a record. -/
  | registryRecord
  | bind (id : Name) (module function : String)
  /-- Binds a scripted function of this process. -/
  | bindLocal (id : Name) (function : String) (script : Script)
  /-- Describes a binding. -/
  | binding (id : Name)
  /-- Forgets a binding. -/
  | dropBinding (id : Name)
  /-- Makes a state. -/
  | createState (id binding : Name)
  | onState (state binding : Name) (call : StateCall)
  /-- Opens a session. -/
  | session (id binding : Name)
  /-- Opens an evaluator, with a cache that is there or a new one. -/
  | evaluator (id binding : Name) (cache : Option Name) (changes : List Change)
  /-- Opens a pool; the number of workers counts where the cache is there already. -/
  | pool (id binding : Name) (cache : Option Name) (workers : Nat) (changes : List Change)
  /-- Makes an evaluator of a session. -/
  | fromSession (id session : Name) (cache : Option Name)
  | evaluate (id : Name) (point : Point)
  | evaluateBatch (id : Name) (dimension : Nat) (rows : List Point)
  /-- Describes a runner. -/
  | inspect (id : Name)
  /-- Closes a runner. -/
  | close (id : Name)
  /-- Drops a runner. -/
  | drop (id : Name)
  | cache (name : Name) (call : CacheCall)

/-- What there is to say about a session. -/
structure SessionView where
  /-- The name of the function. -/
  function : String
  /-- What the function declares. -/
  info : FunctionInfo
  /-- Where the session is in its life. -/
  phase : Phase
  /-- How many points it has handed to the foreign code. -/
  evaluations : Nat

/-- What there is to say about a runner. -/
inductive RunnerView where
  | session (view : SessionView)
  /-- An evaluator: its session, the points handed over, the counters of its cache. -/
  | evaluator (view : SessionView) (calls : Nat) (stats : CacheStats)
  /-- A pool: its number of workers, what the function declares, the points handed over, the
  counters of its cache. -/
  | pool (workers : Nat) (info : FunctionInfo) (calls : Except Error Nat) (stats : CacheStats)

/-- What does not exist though a step names it. -/
inductive Missing where
  | handle
  | binding
  | state
  | cache
  | session
  | runner
deriving DecidableEq

/-- A value that a step answers. -/
inductive Value where
  /-- Nothing. -/
  | unit
  /-- A truth value. -/
  | flag (value : Bool)
  | number (value : Nat)
  /-- A text, if there is one. -/
  | text (value : Option String)
  /-- A point, if there is one. -/
  | point (value : Option Point)
  | sample (value : Sample)
  /-- What a function declares. -/
  | info (value : FunctionInfo)
  /-- What there is to say about a runner. -/
  | view (value : RunnerView)
  /-- How many modules there are. -/
  | size (value : Nat)
  /-- Whether another symbol has the same address, if there is one. -/
  | address (same : Option Bool)
  /-- A function, the path of its module and the record of its binding. -/
  | bound (function : String) (path : Option String) (record : String)
  /-- The entries of a cache. -/
  | entries (value : List (Point × Point))
  /-- Size and counters of a cache. -/
  | counts (size : Nat) (empty : Bool) (hits maxSize : Nat) (enabled : Bool)

/-- The answer to a step. -/
inductive Outcome where
  /-- The step names something that does not exist. -/
  | missing (what : Missing)
  /-- The rows of a batch are not all of its dimension. -/
  | badRow (index : Nat)
  /-- A value, an error or unwinding. -/
  | reply (reply : Reply Value)
  /-- The same of an evaluation, with the runner afterwards. -/
  | evaluated (reply : Reply Value) (view : RunnerView)
  /-- The outcome of a search. -/
  | located (result : Located)
  /-- A handle: its path, the names of other handles of the module, its record. -/
  | loaded (path : String) (same : List Name) (record : String)
  | inspected (view : RunnerView) (record : String)
  /-- The answer of a cache and its counters afterwards. -/
  | cached (value : Value) (stats : CacheStats)

end ForeignEval.Workspace

import ForeignEval.Point
import ForeignEval.Text.Quoted

/-!
# Result cache

A bounded memory of outputs by exact input. It holds a table from points to outputs and a queue of
the points in the order in which they came; when it is full the oldest entry leaves. Reading an
entry does not make it younger, and neither does giving it another output.

A disabled cache keeps its entries but behaves as if it had none: lookups find nothing and are not
counted, inserts are dropped.

* **Eviction** — `Cache.evictTo` removes the oldest entries until no more than a number are left.
* **Entries** — `Cache.entries` lists points with their outputs, oldest first.
-/

namespace ForeignEval

/-- A snapshot of a cache's counters. -/
structure CacheStats where
  /-- How many entries there are. -/
  entries : Nat
  /-- How many there may be. -/
  maxSize : Nat
  /-- How many lookups found an entry. -/
  hits : Nat
  /-- How many lookups found none. -/
  misses : Nat
  /-- Whether the cache is enabled. -/
  enabled : Bool
deriving DecidableEq, Inhabited

/-- A bounded memory of outputs by exact input. -/
structure Cache where
  /-- The outputs by their inputs. -/
  table : Std.TreeMap Point Point
  /-- The inputs in the order in which they came, oldest first. -/
  order : List Point
  /-- How many entries there may be. -/
  maxSize : Nat
  /-- Whether the cache serves and records entries. -/
  enabled : Bool
  /-- How many lookups found an entry. -/
  hits : Nat
  /-- How many lookups found none. -/
  misses : Nat

namespace Cache

/-- How many entries a cache may have where nothing else is set. -/
def standardSize : Nat := 1024

/-- An enabled cache without entries. -/
def new (maxSize : Nat) : Cache := ⟨∅, [], maxSize, true, 0, 0⟩

instance : Inhabited Cache := ⟨new 0⟩

/-- How many entries there are, served or not. -/
def size (cache : Cache) : Nat := cache.table.size

/-- Whether there are no entries. -/
def isEmpty (cache : Cache) : Bool := cache.size = 0

/-- Serves and records entries from now on. -/
def enable (cache : Cache) : Cache := { cache with enabled := true }

/-- Serves and records no entries from now on; those that are there stay. -/
def disable (cache : Cache) : Cache := { cache with enabled := false }

/-! ## Reading -/

/-- The output for a point, if the cache serves one; nothing is counted. -/
def peek (cache : Cache) (point : Point) : Option Point :=
  if cache.enabled then cache.table[point]? else none

/-- Whether the cache serves an output for a point; nothing is counted. -/
def contains (cache : Cache) (point : Point) : Bool := (cache.peek point).isSome

/-- The cache after a lookup of a point has been counted. -/
def count (cache : Cache) (point : Point) : Cache :=
  if cache.enabled then
    if (cache.peek point).isSome then { cache with hits := cache.hits + 1 }
    else { cache with misses := cache.misses + 1 }
  else cache

/-- The output for a point, counted as a hit or a miss while the cache is enabled. -/
def lookup (cache : Cache) (point : Point) : Option Point × Cache :=
  (cache.peek point, cache.count point)

/-- The points with their outputs, oldest first. -/
def entries (cache : Cache) : List (Point × Point) :=
  cache.order.filterMap fun point => cache.table[point]?.map (point, ·)

/-- The counters. -/
def stats (cache : Cache) : CacheStats :=
  ⟨cache.size, cache.maxSize, cache.hits, cache.misses, cache.enabled⟩

/-! ## Writing -/

/-- Removes the oldest entry. -/
def evictOldest (cache : Cache) : Cache :=
  match cache.order with
  | [] => cache
  | oldest :: order => { cache with table := cache.table.erase oldest, order }

/-- Removes the oldest entries, at most `steps` of them, while there are more than `bound`. -/
def evictWithin : (steps : Nat) → (bound : Nat) → Cache → Cache
  | 0, _, cache => cache
  | steps + 1, bound, cache =>
    if bound < cache.size then evictWithin steps bound cache.evictOldest else cache

/-- Removes the oldest entries while there are more than `bound`; the queue says how many steps
that can take. -/
def evictTo (cache : Cache) (bound : Nat) : Cache :=
  evictWithin cache.order.length bound cache

/-- Puts an entry whose point is new at the end of the queue. -/
def append (cache : Cache) (point value : Point) : Cache :=
  { cache with table := cache.table.insert point value, order := cache.order ++ [point] }

/-- Gives a point an output: an entry that is there keeps its place in the queue, a new one is put
at the end, after the oldest entries have made room. -/
def insert (cache : Cache) (point value : Point) : Cache :=
  if cache.enabled ∧ 0 < cache.maxSize then
    if cache.table.contains point then
      { cache with table := cache.table.insert point value }
    else (cache.evictTo (cache.maxSize - 1)).append point value
  else cache

/-- Inserts a list of entries, the first one first. -/
def insertAll (cache : Cache) (entries : List (Point × Point)) : Cache :=
  entries.foldl (fun cache (point, value) => cache.insert point value) cache

/-- Inserts the entries of another cache, oldest first. -/
def merge (cache other : Cache) : Cache := cache.insertAll other.entries

/-- Removes all entries. -/
def clear (cache : Cache) : Cache := { cache with table := ∅, order := [] }

/-- Changes how many entries there may be; the oldest ones beyond it leave. -/
def setMaxSize (cache : Cache) (maxSize : Nat) : Cache :=
  { cache.evictTo maxSize with maxSize }

/-! ## Text -/

/-- A point as a key: its bits, as numbers. -/
def keyText (point : Point) : String :=
  "CacheKey(" ++ Text.listed (point.map fun x => toString x.bits.toNat) ++ ")"

/-- The cache by its counters. -/
def recordText (cache : Cache) : String :=
  "ResultCache(CacheStats \x7b entries: " ++ toString cache.size ++
    ", max_size: " ++ toString cache.maxSize ++
    ", hits: " ++ toString cache.hits ++
    ", misses: " ++ toString cache.misses ++
    ", enabled: " ++ toString cache.enabled ++ " \x7d)"

end Cache

end ForeignEval

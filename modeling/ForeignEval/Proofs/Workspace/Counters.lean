import ForeignEval.Proofs.Pool.Failure
import ForeignEval.Proofs.Pool.Tally
import ForeignEval.Proofs.Workspace.Recall

/-!
# What the counters say

An evaluator or pool has two kinds of counters: its sessions count the points that they hand over,
each when its call has ended, and its cache counts hits and misses, each when a row is looked up. In
whatever order requests are made and however they end, short of unwinding, the first kind agrees
with the trace, and the second with the entries at the start of each request.

* **Lookups** — `Request.Consults` says what a request does to a cache, and
  `Request.Consults.accounted` what that makes of its counters.
* **Use** — `Server.Use`: a system serves requests one after the other.
* **Result** — `counters_exact`.
-/

namespace ForeignEval

open Foreign (StateId Trace)
open Foreign.Trace (Tallies)
open Workspace (Request Value)

/-! ## Lookups -/

theorem Fifo.counters_insertAll (fifo : Fifo) (entries : List (Point × Point)) :
    (fifo.insertAll entries).hits = fifo.hits ∧ (fifo.insertAll entries).misses = fifo.misses := by
  induction entries generalizing fifo with
  | nil => exact ⟨rfl, rfl⟩
  | cons entry entries ih =>
    have first : (fifo.insert entry.1 entry.2).hits = fifo.hits ∧
        (fifo.insert entry.1 entry.2).misses = fifo.misses := by
      unfold insert
      split <;> exact ⟨rfl, rfl⟩
    obtain ⟨hits, misses⟩ := ih (fifo.insert entry.1 entry.2)
    exact ⟨hits.trans first.1, misses.trans first.2⟩

namespace Workspace

/-- A request of the dimension that a function declares. -/
def Request.Declared (info : FunctionInfo) : Request → Prop
  | .point input => input.length = info.inputDimension
  | .batch sample => sample.dimension = info.inputDimension

/-- What a request does to a cache: all of its points are looked up before anything is inserted, and
nothing happens if it is of a wrong dimension. -/
structure Request.Consults (info : FunctionInfo) (request : Request) (cache later : Cache) :
    Prop where
  looked : request.Declared info → ∃ added, later = (cache.countAll request.points).insertAll added
  refused : ¬request.Declared info → later = cache

/-- What the counters of a cache make of a request. -/
structure Request.Accounted (info : FunctionInfo) (request : Request) (cache later : Cache) :
    Prop where
  /-- Points that are entries are hits, and each point is a hit or a miss. -/
  enabled : cache.enabled = true → request.Declared info →
    later.hits = cache.hits + request.points.countP (· ∈ cache.entries.map (·.1)) ∧
      later.hits + later.misses = cache.hits + cache.misses + request.points.length
  /-- Nothing is counted of a request of a wrong dimension. -/
  refused : ¬request.Declared info → later.hits = cache.hits ∧ later.misses = cache.misses
  /-- Nothing is counted while the cache is disabled. -/
  disabled : cache.enabled = false → later.hits = cache.hits ∧ later.misses = cache.misses

namespace Request.Consults

variable {info : FunctionInfo} {request : Request} {cache later : Cache}
  (consults : request.Consults info cache later) (sound : cache.WellFormed)

include consults sound

theorem wellFormed : later.WellFormed := by
  by_cases declared : request.Declared info
  · obtain ⟨added, rfl⟩ := consults.looked declared
    exact (sound.countAll _).insertAll added
  · rw [consults.refused declared]
    exact sound

/-- Insertions do not count, so the counters are those after the lookups. -/
theorem counters (declared : request.Declared info) :
    later.hits = (cache.view.counting request.points).hits ∧
      later.misses = (cache.view.counting request.points).misses := by
  obtain ⟨added, rfl⟩ := consults.looked declared
  have view := (sound.countAll request.points).view_insertAll added
  rw [sound.view_countAll] at view
  obtain ⟨hits, misses⟩ := (cache.view.counting request.points).counters_insertAll added
  exact ⟨(congrArg Fifo.hits view).trans hits, (congrArg Fifo.misses view).trans misses⟩

theorem accounted : request.Accounted info cache later where
  enabled enabled declared := by
    obtain ⟨hits, misses⟩ := consults.counters sound declared
    have served : cache.view.enabled = true := enabled
    unfold Fifo.counting at hits misses
    rw [if_pos served] at hits misses
    have hit : later.hits = cache.hits + request.points.countP (· ∈ cache.view.keys) := hits
    have missed : later.misses = cache.misses + request.points.countP (· ∉ cache.view.keys) :=
      misses
    -- each point is a hit or a miss by itself, however often it occurs
    have either : request.points.length = request.points.countP (· ∈ cache.view.keys) +
        request.points.countP (· ∉ cache.view.keys) := by
      rw [List.length_eq_countP_add_countP (· ∈ cache.view.keys)]
      simp only [decide_eq_true_eq]
    refine ⟨hit, ?_⟩
    rw [hit, missed, either]
    omega
  refused wrong := by
    rw [consults.refused wrong]
    exact ⟨rfl, rfl⟩
  disabled disabled := by
    by_cases declared : request.Declared info
    · obtain ⟨hits, misses⟩ := consults.counters sound declared
      have unserved : ¬cache.view.enabled = true := by simp [Cache.view, disabled]
      unfold Fifo.counting at hits misses
      rw [if_neg unserved] at hits misses
      exact ⟨hits, misses⟩
    · rw [consults.refused declared]
      exact ⟨rfl, rfl⟩

end Request.Consults

end Workspace

/-- An evaluator looks up what it is asked for. -/
theorem Evaluator.consults_serve (evaluator : Evaluator) (trace : Trace) (request : Request) :
    request.Consults evaluator.info evaluator.cache
      (server.serve (evaluator, trace) request).2.1.cache := by
  cases request with
  | point point =>
    simp only [server]
    unfold evaluate Cache.lookup
    by_cases declared : point.length = evaluator.session.info.inputDimension
    · have passed : evaluator.session.checkPoint point = none := if_pos declared
      refine ⟨fun _ => ?_, fun wrong => absurd declared wrong⟩
      rw [passed]
      dsimp only
      cases evaluator.cache.peek point with
      | some value => exact ⟨[], rfl⟩
      | none =>
        rcases evaluator.session.evaluate point trace with ⟨value | _ | _, later, after⟩
        · exact ⟨[(point, value)], rfl⟩
        · exact ⟨[], rfl⟩
        · exact ⟨[], rfl⟩
    · have wrong : evaluator.session.checkPoint point = some (Session.mismatch _ _ _ _) :=
        if_neg declared
      refine ⟨fun right => absurd right declared, fun _ => ?_⟩
      rw [wrong]
  | batch batch =>
    simp only [server]
    unfold evaluateBatch
    by_cases declared : batch.dimension = evaluator.session.info.inputDimension
    · have passed : evaluator.session.checkBatch batch = none := if_pos declared
      refine ⟨fun _ => ?_, fun wrong => absurd declared wrong⟩
      rw [passed]
      dsimp only
      have counted := Plan.make_counts batch evaluator.cache
      rcases evaluator.session.evaluateBatch (Plan.make batch evaluator.cache).1.unknown trace with
        ⟨outputs | _ | _, later, after⟩
      · show ∃ added, (Plan.assemble _ _ _ _ _).2 =
          (evaluator.cache.countAll batch.rows).insertAll added
        rw [← counted]
        exact Plan.assemble_inserts
      · exact ⟨[], counted⟩
      · exact ⟨[], counted⟩
    · have wrong : evaluator.session.checkBatch batch = some (Session.mismatch _ _ _ _) :=
        if_neg declared
      refine ⟨fun right => absurd right declared, fun _ => ?_⟩
      rw [wrong]

/-- A pool looks up what it is asked for. -/
theorem Pool.Fit.consults_serve {ids : List StateId} {pool : Pool} (fit : pool.Fit ids)
    (trace : Trace) (request : Request) :
    request.Consults pool.info pool.cache (server.serve (pool, trace) request).2.1.cache := by
  cases request with
  | point point =>
    -- it is the first worker that checks the dimension, by what it told the pool
    obtain ⟨first, others, staff, told⟩ := fit.told
    have sane := (fit.staff first (staff ▸ List.mem_cons_self)).sane
    simp only [server]
    rw [evaluate_of_cons staff sane, ← told]
    exact Evaluator.consults_serve ⟨first.session, pool.cache⟩ trace (.point point)
  | batch batch =>
    simp only [server]
    by_cases declared : batch.dimension = pool.info.inputDimension
    · refine ⟨fun _ => ?_, fun wrong => absurd declared wrong⟩
      have counted : (pool.evaluateUnknown batch trace).2.1.cache =
          pool.cache.countAll batch.rows := Plan.make_counts batch pool.cache
      rw [evaluateBatch_eq declared]
      generalize collect _ _ _ = collected
      cases collected with
      | ok fresh =>
        simp only [settled, counted]
        exact Plan.assemble_inserts
      | error | panic => exact ⟨[], counted⟩
    · refine ⟨fun right => absurd right declared, fun _ => ?_⟩
      rw [evaluateBatch_of_wrong declared]

/-! ## Use -/

/-- A cache switched on or off. -/
def Cache.switch (cache : Cache) : Bool → Cache
  | true => cache.enable
  | false => cache.disable

theorem Cache.WellFormed.switch {cache : Cache} (sound : cache.WellFormed) (enabled : Bool) :
    (cache.switch enabled).WellFormed := by
  cases enabled with
  | true | false => exact ⟨⟨sound.nodup, sound.mem_table⟩, sound.length_le⟩

/-- What becomes of a system with states of its own while it is in use. It serves requests, of which
none unwinds; its cache is switched on and off; and meanwhile points are handed to other states. -/
inductive Server.Use {σ : Type} (serve : σ × Trace → Request → Reply Value × σ × Trace)
    (switch : σ → Bool → σ) (ids : List StateId) (start : σ × Trace) : σ × Trace → Prop
  | start : Use serve switch ids start start
  | request {now : σ × Trace} (request : Request) (before : Use serve switch ids start now)
      (calm : (serve now request).1.panic? = none) :
      Use serve switch ids start (serve now request).2
  | switch {now : σ × Trace} (enabled : Bool) (before : Use serve switch ids start now) :
      Use serve switch ids start (switch now.1 enabled, now.2)
  | elsewhere {now : σ × Trace} (events : Trace) (before : Use serve switch ids start now)
      (others : events.handed ids = 0) : Use serve switch ids start (now.1, now.2 ++ events)

variable {ids : List StateId} {info : FunctionInfo} {before trace after : Trace}

namespace Session

/-- A session in use; it has no cache. -/
abbrev Use (ids : List StateId) : Session × Trace → Session × Trace → Prop :=
  Server.Use (fun now request => now.1.serve request now.2) (fun session _ => session) ids

/-- A session that has its state and has counted what that was handed so far. -/
structure Counts (ids : List StateId) (info : FunctionInfo) (before : Trace)
    (now : Session × Trace) : Prop where
  own : now.1.binding.owns now.1.state = true
  listed : now.1.id ∈ ids
  told : now.1.info = info
  tallies : Tallies ids 0 now.1.evaluations before now.2

namespace Counts

variable {session later : Session} {start now : Session × Trace}

theorem of_sameOwner (counts : Counts ids info before (session, trace))
    (same : session.SameOwner later)
    (tallies : Tallies ids session.evaluations later.evaluations trace after) :
    Counts ids info before (later, after) where
  own := by
    rw [same.binding, same.state]
    exact counts.own
  listed := by
    rw [same.id]
    exact counts.listed
  told := same.info.trans counts.told
  tallies := counts.tallies.trans tallies

theorem use (counts : Counts ids info before start) (use : Use ids start now) :
    Counts ids info before now := by
  induction use with
  | start => exact counts
  | @request now request _ calm ih =>
    have tallies := tallies_serve now.2 ih.own ih.listed calm
    exact ih.of_sameOwner (sameOwner_serve request now.2) tallies
  | switch _ _ ih => exact ih
  | elsewhere events _ others ih =>
    exact ⟨ih.own, ih.listed, ih.told, ih.tallies.append_silent others⟩

end Counts

end Session

/-- The counters of a system agree with the trace since a moment, and with what its cache has. -/
structure Server.Accounts {σ : Type} (server : Server (σ × Trace)) (ids : List StateId)
    (info : FunctionInfo) (before : Trace) (now : σ × Trace) : Prop where
  /-- The points that were handed to its states since then have been counted, and no others. -/
  calls : ∃ events, now.2 = before ++ events ∧ server.calls now = .ok (Trace.handed events ids)
  /-- Whatever is asked next, its points will be counted as hits and misses. -/
  lookups : ∀ request : Request,
    request.Accounted info (server.cache now) (server.cache (server.serve now request).2)

namespace Evaluator

/-- An evaluator in use. -/
abbrev Use (ids : List StateId) : Evaluator × Trace → Evaluator × Trace → Prop :=
  Server.Use server.serve
    (fun evaluator enabled => { evaluator with cache := evaluator.cache.switch enabled }) ids

/-- An evaluator whose session counts, with a well-formed cache. -/
structure Counts (ids : List StateId) (info : FunctionInfo) (before : Trace)
    (now : Evaluator × Trace) : Prop where
  session : Session.Counts ids info before (now.1.session, now.2)
  sound : now.1.cache.WellFormed

namespace Counts

variable {start now : Evaluator × Trace}

theorem use (counts : Counts ids info before start) (use : Use ids start now) :
    Counts ids info before now := by
  induction use with
  | start => exact counts
  | @request now request _ calm ih =>
    obtain ⟨session, sound⟩ := ih
    have tallies := tallies_serve session.own session.listed calm
    refine ⟨session.of_sameOwner (now.1.sameOwner_serve now.2 request) tallies, ?_⟩
    exact (now.1.consults_serve now.2 request).wellFormed sound
  | switch enabled _ ih => exact ⟨ih.session, ih.sound.switch enabled⟩
  | elsewhere events _ others ih =>
    obtain ⟨⟨own, listed, told, tallies⟩, sound⟩ := ih
    exact ⟨⟨own, listed, told, tallies.append_silent others⟩, sound⟩

theorem accounts (counts : Counts ids info before now) :
    server.Accounts ids info before now where
  calls := by
    obtain ⟨events, grown, counted⟩ := counts.session.tallies
    refine ⟨events, grown, congrArg Except.ok ?_⟩
    rw [Nat.zero_add] at counted
    exact counted
  lookups request := by
    rw [← counts.session.told]
    exact (now.1.consults_serve now.2 request).accounted counts.sound

end Counts

end Evaluator

namespace Pool

/-- A pool in use. -/
abbrev Use (ids : List StateId) : Pool × Trace → Pool × Trace → Prop :=
  Server.Use server.serve (fun pool enabled => { pool with cache := pool.cache.switch enabled }) ids

/-- A fit pool whose workers have counted what their states were handed, with a well-formed
cache. -/
structure Counts (ids : List StateId) (info : FunctionInfo) (before : Trace)
    (now : Pool × Trace) : Prop where
  fit : now.1.Fit ids
  told : now.1.info = info
  tallies : Tallies ids 0 (counted now.1.workers) before now.2
  sound : now.1.cache.WellFormed

namespace Counts

variable {start now : Pool × Trace}

theorem use (counts : Counts ids info before start) (use : Use ids start now) :
    Counts ids info before now := by
  induction use with
  | start => exact counts
  | @request now request _ calm ih =>
    obtain ⟨stays, tallies⟩ := ih.fit.serve calm
    refine ⟨ih.fit.of_stays stays, stays.info.trans ih.told, ih.tallies.trans tallies, ?_⟩
    exact (ih.fit.consults_serve now.2 request).wellFormed ih.sound
  | switch enabled _ ih =>
    obtain ⟨⟨head, staff⟩, told, tallies, sound⟩ := ih
    exact ⟨⟨head, staff⟩, told, tallies, sound.switch enabled⟩
  | elsewhere events _ others ih =>
    exact ⟨ih.fit, ih.told, ih.tallies.append_silent others, ih.sound⟩

theorem accounts (counts : Counts ids info before now) : server.Accounts ids info before now where
  calls := by
    obtain ⟨events, grown, counted⟩ := counts.tallies
    refine ⟨events, grown, ?_⟩
    have sane := callsOf_eq now.1.function fun worker mem => (counts.fit.staff worker mem).sane
    rw [Nat.zero_add] at counted
    rw [← counted]
    exact sane
  lookups request := by
    rw [← counts.told]
    exact (counts.fit.consults_serve now.2 request).accounted counts.sound

end Counts

end Pool

/-- **Counters are exact.** A session is opened and perhaps used, and then by an evaluator with any
cache; or a pool with any number of workers and any schedule is opened on a cache. Then at every
moment of its use, the number of calls is the number of points that its states were handed since it
was opened, be it that the calls succeeded or failed. Each request of the declared dimension that is
made at an enabled cache raises the hits by the number of its points that are entries, and hits and
misses together by the number of all its points, whatever it comes to. A request of another
dimension, or one that is made at a disabled cache, is not counted at all. -/
theorem counters_exact :
    (∀ (binding : Binding) (before opened : Trace) (session : Session),
      Session.new binding before = (.ok session, opened) →
      ∀ (used : Session) (between : Trace),
        Session.Use [session.id] (session, opened) (used, between) →
      ∀ (cache : Cache), cache.WellFormed →
      ∀ now, Evaluator.Use [session.id] (⟨used, cache⟩, between) now →
        Evaluator.server.Accounts [session.id] session.info before now) ∧
    (∀ (binding : Binding) (workers : Nat) (cache : Cache), cache.WellFormed →
      ∀ (schedule : Schedule) (before opened : Trace) (pool : Pool),
        Pool.new binding workers cache schedule before = (.ok pool, opened) →
      ∀ now, Pool.Use pool.stateIds (pool, opened) now →
        Pool.server.Accounts pool.stateIds pool.info before now) := by
  constructor
  · intro binding before opened session ok used between alone cache sound now use
    obtain ⟨own, fresh, handed⟩ := Session.new_ok ok
    have counts : Session.Counts [session.id] session.info before (session, opened) := by
      refine ⟨own, List.mem_singleton_self _, rfl, ?_⟩
      rw [fresh]
      exact handed _
    have counts' : Evaluator.Counts [session.id] session.info before (⟨used, cache⟩, between) :=
      ⟨counts.use alone, sound⟩
    exact (counts'.use use).accounts
  · intro binding workers cache sound schedule before opened pool ok now use
    obtain ⟨fit, handed⟩ := Pool.fit_new ok
    obtain ⟨sessions, -, same⟩ := Pool.new_ok ok
    have counts : Pool.Counts pool.stateIds pool.info before (pool, opened) := by
      refine ⟨fit, rfl, handed, ?_⟩
      rw [same]
      exact sound
    exact (counts.use use).accounts

/-- Points that are refused count as calls. A session evaluates a point by itself, and then an
evaluator makes a call for four more, which fails; two workers of a pool have two chunks of that
batch evaluated, of which one fails. -/
theorem counters_exact_refused :
    (∃ session opened used between now,
      Session.new choosyBinding [] = (.ok session, opened) ∧
      (session.serve (.point [⟨1⟩]) opened).2 = (used, between) ∧
      (Evaluator.server.serve (⟨used, Cache.new 8⟩, between) (.batch refusedBatch)).2 = now ∧
      Evaluator.server.Accounts [session.id] session.info [] now ∧
      now.1.calls = 5 ∧ now.1.cache.misses = 4) ∧
    (∃ pool opened now,
      Pool.new choosyBinding 2 (Cache.new 8) .inOrder [] = (.ok pool, opened) ∧
      (Pool.server.serve (pool, opened) (.batch refusedBatch)).2 = now ∧
      Pool.server.Accounts pool.stateIds pool.info [] now ∧
      now.1.calls = .ok 4 ∧ now.1.cache.misses = 4) := by
  constructor
  · refine ⟨_, _, _, _, _, rfl, rfl, rfl, ?accounts, ?calls, ?misses⟩
    case accounts =>
      refine counters_exact.1 choosyBinding [] _ _ rfl _ _ (.request (.point [⟨1⟩]) .start ?alone)
        (Cache.new 8) (Cache.wellFormed_new 8) _ (.request (.batch refusedBatch) .start ?refused)
      case alone => with_unfolding_all rfl
      case refused => with_unfolding_all rfl
    case calls => with_unfolding_all rfl
    case misses => with_unfolding_all rfl
  · refine ⟨_, _, _, rfl, rfl, ?accounts, ?calls, ?misses⟩
    case accounts =>
      refine counters_exact.2 choosyBinding 2 (Cache.new 8) (Cache.wellFormed_new 8) .inOrder [] _ _
        rfl _ (.request (.batch refusedBatch) .start ?refused)
      case refused => with_unfolding_all rfl
    case calls => with_unfolding_all rfl
    case misses => with_unfolding_all rfl

end ForeignEval

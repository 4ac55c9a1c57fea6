import ForeignEval.Proofs.Pool.Attempts
import ForeignEval.Proofs.Pool.Failure
import ForeignEval.Proofs.Pool.Tally

/-!
# Unwinding in pools

Foreign code that unwinds poisons the worker in which it does. From then on the worker's state is
left alone, until the pool is closed, which finalizes and frees it like the others. Points go on to
be evaluated by the workers that are left, and the cache is not touched.

* **Work** — `Foreign.Worked`: nothing is called on a state after a call that unwound.
* **Workers** — `Worker.Becomes`: a worker is poisoned exactly when a call on its state unwound.
* **Pools** — `Pool.Shift`: what a request makes of all workers, by the turns in which their
  chunks are evaluated; `Pool.shift_serve`.
* **Runs** — `Pool.Watched`: what has become of the workers since the pool was opened.
* **Closing** — `Pool.lifeOf_closingEvents`: every state's life ends once.
-/

namespace ForeignEval

open Foreign (Call Ending Failure StateId Table Trace)
open Workspace (Request Value)

/-! ## Work -/

namespace Foreign

/-- Calls of work on a state, none of which comes after one that unwound. -/
structure Worked (made : List (Call × Ending)) : Prop where
  isWork : ∀ entry ∈ made, entry.1.IsWork
  calm : ∀ entry ∈ made.dropLast, entry.2.panic? = none

namespace Worked

variable {made more : List (Call × Ending)}

theorem nil : Worked [] := ⟨by simp, by simp⟩

theorem append (worked : Worked made) (calm : made.findSome? (·.2.panic?) = none)
    (later : Worked more) : Worked (made ++ more) where
  isWork entry mem := by
    rcases List.mem_append.1 mem with old | new
    · exact worked.isWork entry old
    · exact later.isWork entry new
  calm := by
    cases more with
    | nil =>
      rw [List.append_nil]
      exact worked.calm
    | cons entry more =>
      rw [List.dropLast_append_of_ne_nil (by simp)]
      intro entry mem
      rcases List.mem_append.1 mem with old | new
      · exact List.findSome?_eq_none_iff.1 calm entry old
      · exact later.calm entry new

end Worked

/-- One of some calls unwound. -/
def Unwinds (made : List (Call × Ending)) : Prop := ∃ call text, (call, .panicked text) ∈ made

theorem unwinds_iff {made : List (Call × Ending)} :
    Unwinds made ↔ (made.findSome? (·.2.panic?)).isSome = true := by
  rw [List.findSome?_isSome_iff]
  constructor
  · rintro ⟨call, text, mem⟩
    exact ⟨_, mem, rfl⟩
  · rintro ⟨⟨call, ending⟩, mem, unwound⟩
    cases ending with
    | panicked text => exact ⟨call, text, mem⟩
    | returned | failed | reported => cases unwound

end Foreign

open Foreign (Unwinds Worked)

theorem Session.Progress.worked {binding : Binding} {number : Nat} {call : Call}
    {phase next : Phase} {made : List (Call × Ending)}
    (progress : Progress binding number call phase made next) (isWork : call.IsWork) :
    Worked made := by
  have init : (Call.init number).IsWork := trivial
  cases progress with
  | refused => exact .nil
  | spoiled | interrupted => exact ⟨by simpa using init, by simp⟩
  | prepared ending => exact ⟨by simpa using ⟨init, isWork⟩, by simp [Ending.panic?]⟩
  | evaluated ending => exact ⟨by simpa using isWork, by simp⟩

/-! ## Workers -/

namespace Worker

variable {worker later last : Worker} {made more : List (Call × Ending)} {events others : Trace}

theorem after_eq {α : Type} (session : Session) (reply : Reply α) :
    after session reply = ⟨session, reply.panic?.isSome⟩ := by
  cases reply with
  | ok | error | panic => rfl

/-- A worker before and after these calls on its state. -/
structure Turns (made : List (Call × Ending)) (worker later : Worker) : Prop where
  same : worker.session.SameOwner later.session
  worked : Worked made
  /-- A poisoned worker does nothing any more. -/
  idle : worker.poisoned = true → made = [] ∧ later.poisoned = true
  /-- Another one is poisoned by a call that unwinds, and by nothing else. -/
  poisons : worker.poisoned = false → later.poisoned = (made.findSome? (·.2.panic?)).isSome

namespace Turns

theorem refl (worker : Worker) : Turns [] worker worker :=
  ⟨.refl _, .nil, fun poisoned => ⟨rfl, poisoned⟩, fun sane => sane⟩

theorem trans (first : Turns made worker later) (second : Turns more later last) :
    Turns (made ++ more) worker last where
  same := first.same.trans second.same
  worked := by
    cases poisoned : later.poisoned with
    | true =>
      rw [(second.idle poisoned).1, List.append_nil]
      exact first.worked
    | false =>
      refine first.worked.append ?_ second.worked
      cases sane : worker.poisoned with
      | true => rw [(first.idle sane).1, List.findSome?_nil]
      | false =>
        rw [first.poisons sane] at poisoned
        simpa using poisoned
  idle poisoned := by
    obtain ⟨none, later⟩ := first.idle poisoned
    obtain ⟨none', last⟩ := second.idle later
    exact ⟨by rw [none, none', List.append_nil], last⟩
  poisons sane := by
    rw [List.findSome?_append, Option.isSome_or, ← first.poisons sane]
    cases poisoned : later.poisoned with
    | true => rw [(second.idle poisoned).2, Bool.true_or]
    | false => rw [second.poisons poisoned, Bool.false_or]

end Turns

/-- A worker before and after some events. -/
def Becomes (events : Trace) (worker later : Worker) : Prop :=
  Turns (events.lifeOf worker.session.id) worker later

namespace Becomes

theorem of_silent (worker : Worker) (silent : events.lifeOf worker.session.id = []) :
    Becomes events worker worker := by
  unfold Becomes
  rw [silent]
  exact .refl worker

theorem trans (first : Becomes events worker later) (second : Becomes others later last) :
    Becomes (events ++ others) worker last := by
  unfold Becomes at first second ⊢
  rw [first.same.id] at second
  rw [Trace.lifeOf_append]
  exact first.trans second

theorem append_silent (becomes : Becomes events worker later)
    (silent : others.lifeOf worker.session.id = []) : Becomes (events ++ others) worker later := by
  unfold Becomes at becomes ⊢
  rw [Trace.lifeOf_append, silent, List.append_nil]
  exact becomes

end Becomes

end Worker

/-! ## Pools -/

namespace Pool

/-- Workers with states of their own, no two with the same. -/
structure Roster (workers : List Worker) : Prop where
  own : ∀ worker ∈ workers, worker.session.binding.owns worker.session.state = true
  distinct : (workers.map (·.session.id)).Nodup

/-- All workers before and after a time in which nothing else happened. -/
def Shift (workers : List Worker) (trace : Trace) (later : List Worker) (after : Trace) : Prop :=
  ∃ events, after = trace ++ events ∧ List.Forall₂ (Worker.Becomes events) workers later ∧
    ∀ id ∉ workers.map (·.session.id), events.lifeOf id = []

variable {workers others later last : List Worker} {worker now : Worker}
  {trace middle after : Trace} {function : String}

theorem trans_forall₂ {events more : Trace}
    (first : List.Forall₂ (Worker.Becomes events) workers later)
    (second : List.Forall₂ (Worker.Becomes more) later last) :
    List.Forall₂ (Worker.Becomes (events ++ more)) workers last := by
  induction first generalizing last with
  | nil =>
    cases second
    exact .nil
  | cons become _ ih =>
    cases second with
    | cons become' others => exact .cons (become.trans become') (ih others)

theorem exists_former {events : Trace} (become : List.Forall₂ (Worker.Becomes events) workers later)
    (mem : worker ∈ later) : ∃ former ∈ workers, former.Becomes events worker := by
  induction become with
  | nil => cases mem
  | cons first _ ih =>
    rcases List.mem_cons.1 mem with rfl | mem
    · exact ⟨_, List.mem_cons_self, first⟩
    · obtain ⟨former, there, becomes⟩ := ih mem
      exact ⟨former, List.mem_cons_of_mem _ there, becomes⟩

theorem exists_later {events : Trace} (become : List.Forall₂ (Worker.Becomes events) workers later)
    (mem : worker ∈ workers) : ∃ now ∈ later, worker.Becomes events now := by
  induction become with
  | nil => cases mem
  | cons first _ ih =>
    rcases List.mem_cons.1 mem with rfl | mem
    · exact ⟨_, List.mem_cons_self, first⟩
    · obtain ⟨now, there, becomes⟩ := ih mem
      exact ⟨now, List.mem_cons_of_mem _ there, becomes⟩

namespace Roster

theorem of_append (roster : Roster (workers ++ others)) : Roster workers ∧ Roster others := by
  obtain ⟨own, distinct⟩ := roster
  obtain ⟨own, own'⟩ := List.forall_mem_append.1 own
  rw [List.map_append, List.nodup_append] at distinct
  exact ⟨⟨own, distinct.1⟩, own', distinct.2.1⟩

theorem ids_eq {events : Trace} (become : List.Forall₂ (Worker.Becomes events) workers later) :
    later.map (·.session.id) = workers.map (·.session.id) := by
  induction become with
  | nil => rfl
  | cons first _ ih => rw [List.map_cons, List.map_cons, first.same.id, ih]

/-- Workers keep their states. -/
theorem becomes {events : Trace} (roster : Roster workers)
    (become : List.Forall₂ (Worker.Becomes events) workers later) : Roster later where
  own worker mem := by
    obtain ⟨former, there, becomes⟩ := exists_former become mem
    rw [becomes.same.binding, becomes.same.state]
    exact roster.own former there
  distinct := by
    rw [ids_eq become]
    exact roster.distinct

end Roster

namespace Shift

theorem refl (workers : List Worker) (trace : Trace) : Shift workers trace workers trace :=
  ⟨[], by simp, List.forall₂_same.2 fun worker _ => .of_silent worker rfl, fun _ _ => rfl⟩

theorem trans (first : Shift workers trace later middle) (second : Shift later middle last after) :
    Shift workers trace last after := by
  obtain ⟨events, rfl, become, frame⟩ := first
  obtain ⟨more, rfl, become', frame'⟩ := second
  refine ⟨events ++ more, List.append_assoc _ _ _, trans_forall₂ become become', ?_⟩
  intro id other
  rw [Trace.lifeOf_append, frame id other, List.nil_append]
  refine frame' id ?_
  rwa [Roster.ids_eq become]

/-- What some workers do is nothing to others. -/
theorem append (roster : Roster (workers ++ others)) (first : Shift workers trace later middle)
    (second : Shift others middle last after) :
    Shift (workers ++ others) trace (later ++ last) after := by
  obtain ⟨events, rfl, become, frame⟩ := first
  obtain ⟨more, rfl, become', frame'⟩ := second
  have distinct := roster.distinct
  rw [List.map_append, List.nodup_append] at distinct
  have apart : ∀ worker ∈ workers, more.lifeOf worker.session.id = [] :=
    fun worker mem => frame' _ fun mem' => distinct.2.2 _ (List.mem_map_of_mem mem) _ mem' rfl
  have apart' : ∀ worker ∈ others, events.lifeOf worker.session.id = [] :=
    fun worker mem => frame _ fun mem' => distinct.2.2 _ mem' _ (List.mem_map_of_mem mem) rfl
  refine ⟨events ++ more, List.append_assoc _ _ _, List.rel_append ?_ ?_, ?_⟩
  · refine ((List.forall₂_and_left _ _).2 ⟨apart, become⟩).imp fun _ _ ⟨silent, become⟩ => ?_
    exact become.append_silent silent
  · refine ((List.forall₂_and_left _ _).2 ⟨apart', become'⟩).imp fun _ _ ⟨silent, become⟩ => ?_
    exact (Worker.Becomes.of_silent _ silent).trans become
  · intro id other
    rw [List.map_append, List.mem_append, not_or] at other
    rw [Trace.lifeOf_append, frame id other.1, frame' id other.2]
    rfl

/-- A worker has its session serve a request. -/
theorem serve {α : Type} (own : worker.session.binding.owns worker.session.state = true)
    (sane : worker.poisoned = false) (request : Request) (trace : Trace) {reply : Reply α}
    (same : reply.panic? = (worker.session.serve request trace).1.panic?) :
    Shift [worker] trace [Worker.after (worker.session.serve request trace).2.1 reply]
      (worker.session.serve request trace).2.2 := by
  rw [Worker.after_eq, same]
  cases due : worker.session.due request with
  | none =>
    obtain ⟨result, answered⟩ := Session.answered_of_none due trace
    rw [answered, Reply.panic?_ofExcept]
    dsimp only [Option.isSome_none]
    rw [← sane]
    exact refl [worker] trace
  | some call =>
    obtain ⟨made, progress, grown, -, unwinds⟩ := Session.progress_serve own due trace
    obtain ⟨state, fits⟩ := Session.fits_of_due due
    have states := (progress.run state fits).forall_state
    refine ⟨worker.session.binding.table.events made, grown, ?_, ?_⟩
    · refine .cons ?_ .nil
      have life : Trace.lifeOf (worker.session.binding.table.events made) worker.session.id =
          made := Trace.lifeOf_events states
      unfold Worker.Becomes
      rw [life]
      refine ⟨Session.sameOwner_serve request trace, progress.worked fits.isWork, ?_, ?_⟩
      · intro poisoned
        rw [sane] at poisoned
        cases poisoned
      · intro _
        rw [unwinds]
    · intro id other
      exact Trace.lifeOf_events_of_ne states fun same => other (by simp [same, Session.id])

end Shift

/-! ## Chunks -/

theorem shift_evaluateJob {job : Job} (roster : Roster [job.worker]) (function : String)
    (trace : Trace) :
    Shift [job.worker] trace [(job.evaluate function trace).1.worker]
      (job.evaluate function trace).2 := by
  unfold Job.evaluate
  cases poisoned : job.worker.poisoned with
  | true => exact .refl _ _
  | false =>
    have own := roster.own job.worker (by simp)
    have asked := Reply.panic?_map Value.sample (job.worker.session.evaluateBatch job.chunk trace).1
    exact .serve own poisoned (.batch job.chunk) trace asked.symm

/-- One turn is nothing to the workers of the other chunks. -/
theorem shift_turn {before others : List Slot} {job : Job}
    (roster : Roster ((before ++ .waiting job :: others).map Slot.worker)) (function : String)
    (trace : Trace) :
    Shift ((before ++ .waiting job :: others).map Slot.worker) trace
      ((before ++ .done (job.evaluate function trace).1 :: others).map Slot.worker)
      (job.evaluate function trace).2 := by
  rw [List.map_append, List.map_cons] at roster ⊢
  have back : Roster ([job.worker] ++ others.map Slot.worker) := roster.of_append.2
  have here := (shift_evaluateJob back.of_append.1 function trace).append back (.refl _ _)
  rw [List.map_append, List.map_cons]
  exact (Shift.refl _ trace).append roster here

theorem Advances.shift {slots last : List Slot} {now : Trace}
    (advances : Advances function slots trace last now)
    (roster : Roster (slots.map Slot.worker)) :
    Shift (slots.map Slot.worker) trace (last.map Slot.worker) now := by
  induction advances with
  | refl => exact .refl _ _
  | @turn before others last job trace now rest ih =>
    obtain ⟨events, -, become, -⟩ := shift_turn roster function trace
    exact (shift_turn roster function trace).trans (ih (roster.becomes become))

/-- Workers whose chunks are given up are left alone, whatever the schedule. -/
theorem shift_evaluateJobs (schedule : Schedule) (function : String) {jobs : List Job}
    (roster : Roster (jobs.map (·.worker))) (trace : Trace) :
    Shift (jobs.map (·.worker)) trace
      ((evaluateJobs schedule function jobs trace).1.map (·.worker))
      (evaluateJobs schedule function jobs trace).2 := by
  obtain ⟨slots, later, text, advances, -, same⟩ :=
    evaluateJobs_eq schedule function jobs trace
  rw [← workers_waiting] at roster ⊢
  rw [same, workers_outcome]
  exact advances.shift roster

theorem shift_evaluateChunks {pool : Pool} (roster : Roster pool.workers) (chunks : List Sample)
    (trace : Trace) :
    Shift pool.workers trace (pool.evaluateChunks chunks trace).2.1.workers
      (pool.evaluateChunks chunks trace).2.2 := by
  have parts := workers_jobsOf pool.workers chunks
  rw [workers_evaluateChunks]
  rw [← parts] at roster
  have busy := shift_evaluateJobs pool.schedule pool.function roster.of_append.1 trace
  have all := busy.append roster (.refl _ _)
  rw [parts] at all
  exact all

/-! ## Requests -/

/-- A worker that is not poisoned evaluates with the pool's cache. -/
theorem shift_evaluator (own : worker.session.binding.owns worker.session.state = true)
    (sane : worker.poisoned = false) (cache : Cache) (point : Point) (trace : Trace) :
    Shift [worker] trace
      [Worker.after (Evaluator.evaluate ⟨worker.session, cache⟩ point trace).2.1.session
        (Evaluator.evaluate ⟨worker.session, cache⟩ point trace).1]
      (Evaluator.evaluate ⟨worker.session, cache⟩ point trace).2.2 := by
  have asked := Reply.panic?_map (fun value => Value.point (some value))
    (Evaluator.evaluate ⟨worker.session, cache⟩ point trace).1
  obtain ⟨same, still, calm⟩ | ⟨request, same, grown, unwinds⟩ :=
    Evaluator.serve_cases ⟨worker.session, cache⟩ trace (.point point)
  · rw [Worker.after_eq, ← asked]
    simp only [Evaluator.server] at same still calm
    rw [calm, same, still]
    dsimp only [Option.isSome_none]
    rw [← sane]
    exact .refl _ _
  · simp only [Evaluator.server] at same grown unwinds
    rw [same, grown]
    exact .serve own sane request trace (asked.symm.trans unwinds)

theorem shift_evaluate {pool : Pool} (roster : Roster pool.workers) (point : Point)
    (trace : Trace) :
    Shift pool.workers trace (pool.evaluate point trace).2.1.workers
      (pool.evaluate point trace).2.2 := by
  rcases pool.evaluate_cases with ⟨-, same⟩ | ⟨before, worker, others, staff, -, sane, same⟩
  · rw [same]
    exact .refl _ _
  · rw [same, staff]
    rw [staff] at roster
    have tail : Roster ([worker] ++ others) := roster.of_append.2
    have own := roster.own worker (by simp)
    have evaluated := shift_evaluator own sane pool.cache point trace
    exact (Shift.refl before trace).append roster (evaluated.append tail (.refl others _))

/-- What a request makes of all workers. -/
theorem shift_serve {pool : Pool} (roster : Roster pool.workers) (request : Request)
    (trace : Trace) :
    Shift pool.workers trace (server.serve (pool, trace) request).2.1.workers
      (server.serve (pool, trace) request).2.2 := by
  cases request with
  | point point => exact shift_evaluate roster point trace
  | batch batch =>
    simp only [server]
    by_cases declared : batch.dimension = pool.info.inputDimension
    · rw [evaluateBatch_eq declared]
      have looked : Roster { pool with cache := (Plan.make batch pool.cache).2 }.workers := roster
      have evaluated : Shift pool.workers trace (pool.evaluateUnknown batch trace).2.1.workers
          (pool.evaluateUnknown batch trace).2.2 := shift_evaluateChunks looked _ trace
      generalize collect _ _ _ = collected
      cases collected with
      | ok | error | panic => exact evaluated
    · rw [evaluateBatch_of_wrong declared]
      exact .refl _ _

/-! ## Use -/

/-- A pool in use. -/
abbrev Run (ids : List StateId) : Pool × Trace → Pool × Trace → Prop :=
  Server.Run server.serve (fun pool cache => { pool with cache }) ids

/-- A pool at a later moment, with what has become of its workers since it was opened. -/
structure Watched (pool : Pool) (opened : Trace) (now : Pool × Trace) : Prop where
  roster : Roster pool.workers
  shift : ∃ events, now.2 = opened ++ events ∧
    List.Forall₂ (Worker.Becomes events) pool.workers now.1.workers

namespace Watched

variable {pool : Pool} {opened : Trace} {now : Pool × Trace}

theorem request (watched : Watched pool opened now) (request : Request) :
    Watched pool opened (server.serve now request).2 := by
  obtain ⟨roster, events, grown, become⟩ := watched
  obtain ⟨more, grown', become', -⟩ := shift_serve (roster.becomes become) request now.2
  refine ⟨roster, events ++ more, ?_, trans_forall₂ become become'⟩
  rw [show (server.serve now request).2.2 = now.2 ++ more from grown', grown, List.append_assoc]

theorem elsewhere (watched : Watched pool opened now) {more : Trace}
    (apart : ∀ id ∈ pool.stateIds, more.lifeOf id = []) :
    Watched pool opened (now.1, now.2 ++ more) := by
  obtain ⟨roster, events, grown, become⟩ := watched
  refine ⟨roster, events ++ more, by rw [grown, List.append_assoc], ?_⟩
  have silent : ∀ worker ∈ pool.workers, more.lifeOf worker.session.id = [] :=
    fun worker mem => apart _ (List.mem_map_of_mem mem)
  refine ((List.forall₂_and_left _ _).2 ⟨silent, become⟩).imp fun _ _ ⟨silent, become⟩ => ?_
  exact become.append_silent silent

theorem run (watched : Watched pool opened (pool, opened))
    (run : Run pool.stateIds (pool, opened) now) : Watched pool opened now := by
  induction run with
  | start => exact watched
  | request request _ ih => exact ih.request request
  | recache cache _ ih => exact ⟨ih.roster, ih.shift⟩
  | elsewhere more _ apart ih => exact ih.elsewhere apart

end Watched

/-! ## Opening and closing -/

/-- The sessions of a pool own the states that they have made, one after the other. -/
theorem openSessions_numbered {binding : Binding} {count : Nat} {before after : Trace}
    {sessions : List Session}
    (opened : openSessions binding count before = (sessions, none, after)) :
    (∀ session ∈ sessions, session.binding.owns session.state = true ∧
      session.id.source = binding.table.source ∧
      before.created binding.table.source ≤ session.id.number) ∧
      (sessions.map Session.id).Nodup := by
  induction count generalizing before sessions with
  | zero =>
    cases opened
    exact ⟨by simp, List.nodup_nil⟩
  | succ count ih =>
    unfold openSessions at opened
    rcases first : Session.new binding before with ⟨_ | session, middle⟩
    · rw [first] at opened
      cases opened
    · rcases others : openSessions binding count middle with ⟨rest, failed, trace⟩
      rw [first] at opened
      dsimp only at opened
      rw [others] at opened
      cases opened
      obtain ⟨info, rfl, rfl⟩ := Session.new_eq_ok first
      obtain ⟨numbered, distinct⟩ := ih others
      -- the number of the first is used up when the others are asked for
      have used : before.created binding.table.source < Trace.created
          (before ++ binding.table.events
            (Foreign.Stage.opening (binding.nextId before).number info)) binding.table.source :=
        Trace.created_lt_append_events before
      constructor
      · refine List.forall_mem_cons.2 ⟨⟨Session.owns_opened _ _ _, rfl, Nat.le_refl _⟩, ?_⟩
        intro other mem
        obtain ⟨own, source, late⟩ := numbered other mem
        exact ⟨own, source, by omega⟩
      · refine List.nodup_cons.2 ⟨fun again => ?_, distinct⟩
        obtain ⟨other, mem, same⟩ := List.mem_map.1 again
        have late := (numbered other mem).2.2
        rw [same] at late
        exact absurd late (Nat.not_le.2 used)

theorem watched_new {binding : Binding} {workers : Nat} {cache : Cache} {schedule : Schedule}
    {before opened : Trace} {pool : Pool}
    (opens : new binding workers cache schedule before = (.ok pool, opened)) :
    Watched pool opened (pool, opened) ∧ ∀ worker ∈ pool.workers, worker.poisoned = false := by
  obtain ⟨sessions, found, rfl⟩ := new_ok opens
  obtain ⟨numbered, distinct⟩ := openSessions_numbered found
  refine ⟨⟨⟨?_, ?_⟩, [], by simp, ?_⟩, by simp⟩
  · exact List.forall_mem_map.2 fun session mem => (numbered session mem).1
  · rw [List.map_map]
    exact distinct
  · exact List.forall₂_same.2 fun worker _ => .of_silent worker rfl

/-- Closing sessions ends the lives of their states, one after the other. -/
theorem lifeOf_closingEvents {closed : List (Session × Except Failure Unit)}
    (distinct : (closed.map (·.1.id)).Nodup) {session : Session} {answer : Except Failure Unit}
    (mem : (session, answer) ∈ closed) :
    (closingEvents closed).lifeOf session.id = Session.ending session.state.number answer := by
  have own (answer : Except Failure Unit) (number : Nat) :
      ∀ entry ∈ Session.ending number answer, entry.1.state = number := by
    simp [Session.ending, Call.state]
  have silent : ∀ {others : List (Session × Except Failure Unit)} {id : StateId},
      id ∉ others.map (·.1.id) → (closingEvents others).lifeOf id = [] := by
    intro others id apart
    induction others with
    | nil => rfl
    | cons other others ih =>
      rw [List.map_cons, List.mem_cons, not_or] at apart
      show Trace.lifeOf (_ ++ closingEvents others) id = []
      rw [Trace.lifeOf_append, ih apart.2, List.append_nil]
      exact Trace.lifeOf_events_of_ne (own other.2 _) apart.1
  induction closed with
  | nil => cases mem
  | cons other closed ih =>
    rw [List.map_cons, List.nodup_cons] at distinct
    show Trace.lifeOf (_ ++ closingEvents closed) session.id = _
    rw [Trace.lifeOf_append]
    rcases List.mem_cons.1 mem with rfl | later
    · rw [silent distinct.1, List.append_nil]
      exact Session.lifeOf_ending _ _ answer
    · have apart : session.id ≠ other.1.id := fun same =>
        distinct.1 (List.mem_map.2 ⟨(session, answer), later, same⟩)
      have before := Trace.lifeOf_events_of_ne (own other.2 other.1.state.number) apart
      rw [before, List.nil_append]
      exact ih distinct.2 later

/-- Closing a pool finalizes and frees each state once. -/
theorem close_eq {pool : Pool} (roster : Roster pool.workers) (trace : Trace) :
    ∃ finish, (pool.close trace).2 = trace ++ finish ∧ ∀ worker ∈ pool.workers, ∃ answer,
      finish.lifeOf worker.session.id = Session.ending worker.session.state.number answer := by
  have owned : ∀ session ∈ pool.workers.map (·.session),
      session.binding.owns session.state = true := List.forall_mem_map.2 roster.own
  obtain ⟨closed, sessions, done⟩ := closeSessions_eq owned trace
  have distinct : (closed.map (·.1.id)).Nodup := by
    have ids : closed.map (·.1.id) = pool.workers.map (·.session.id) := by
      have both := congrArg (List.map Session.id) sessions
      rwa [List.map_map, List.map_map] at both
    rw [ids]
    exact roster.distinct
  refine ⟨closingEvents closed, congrArg Prod.snd done, fun worker mem => ?_⟩
  have there : worker.session ∈ closed.map (·.1) := by
    rw [sessions]
    exact List.mem_map_of_mem mem
  obtain ⟨⟨session, answer⟩, mem', same⟩ := List.mem_map.1 there
  cases same
  exact ⟨answer, lifeOf_closingEvents distinct mem'⟩

/-! ## Isolation -/

/-- An evaluator has no poisoned worker to complain of. -/
theorem evaluator_ne_poisoned {evaluator : Evaluator} {point : Point} (function : String) :
    (evaluator.evaluate point trace).1 ≠ .error (poisonedWorker function) := by
  intro failed
  rcases evaluator.session.evaluate_error trace (Evaluator.evaluate_error failed) with
    mismatch | ⟨source, same⟩ | ⟨reason, same⟩
  · exact mismatch
  · cases same
  · cases same

/-- What holds of a pool in which foreign code may have unwound, with all that has happened since
it was opened. -/
structure Isolates (pool : Pool) (events : Trace) (now : Pool × Trace) : Prop where
  /-- Nothing was called on a worker's state but work, and nothing after a call that unwound. -/
  worked : ∀ worker ∈ pool.workers, Worked (events.lifeOf worker.session.id)
  /-- A request that unwinds leaves the entries of the cache, their order and its settings. -/
  cache : ∀ request text, (server.serve now request).1 = .panic text →
    now.1.cache.Recounted (server.serve now request).2.1.cache
  /-- If a call unwound in every worker, points are refused. -/
  refused : (∀ worker ∈ pool.workers, Unwinds (events.lifeOf worker.session.id)) →
    ∀ point, now.1.evaluate point now.2 = (.error (poisonedWorker now.1.function), now)
  /-- Otherwise they go to the first worker in which none did. -/
  first : ∀ before worker others, pool.workers = before ++ worker :: others →
    (∀ other ∈ before, Unwinds (events.lifeOf other.session.id)) →
    ¬Unwinds (events.lifeOf worker.session.id) →
    ∃ session, now.1.workers[before.length]? = some ⟨session, false⟩ ∧
      worker.session.SameOwner session ∧ ∀ point,
      (now.1.evaluate point now.2).1 =
        (Evaluator.evaluate ⟨session, now.1.cache⟩ point now.2).1 ∧
      (now.1.evaluate point now.2).2.2 =
        (Evaluator.evaluate ⟨session, now.1.cache⟩ point now.2).2.2 ∧
      (now.1.evaluate point now.2).1 ≠ .error (poisonedWorker now.1.function)
  /-- Closing finalizes and frees each state once, whatever has unwound. -/
  close : ∃ finish, (now.1.close now.2).2 = now.2 ++ finish ∧ ∀ worker ∈ pool.workers, ∃ answer,
    finish.lifeOf worker.session.id = Session.ending worker.session.state.number answer

namespace Watched

variable {pool : Pool} {opened : Trace} {now : Pool × Trace}

/-- The workers before one of them, and what has become of them. -/
theorem split_forall₂ {events : Trace} {before : List Worker}
    (become : List.Forall₂ (Worker.Becomes events) (before ++ worker :: others) later) :
    ∃ before' worker' others', later = before' ++ worker' :: others' ∧
      List.Forall₂ (Worker.Becomes events) before before' ∧
      Worker.Becomes events worker worker' := by
  induction before generalizing later with
  | nil =>
    rcases become with - | ⟨here, -⟩
    exact ⟨[], _, _, rfl, .nil, here⟩
  | cons other before ih =>
    rcases become with - | ⟨first, rest⟩
    obtain ⟨before', worker', others', rfl, front, here⟩ := ih rest
    exact ⟨_ :: before', worker', others', rfl, .cons first front, here⟩

/-- Workers that were not poisoned are so as soon as calls on their states have unwound. -/
theorem poisoned_of_unwinds {events : Trace}
    (become : List.Forall₂ (Worker.Becomes events) workers later)
    (sane : ∀ worker ∈ workers, worker.poisoned = false)
    (unwound : ∀ worker ∈ workers, Unwinds (events.lifeOf worker.session.id)) :
    ∀ worker ∈ later, worker.poisoned = true := by
  intro worker mem
  obtain ⟨former, there, becomes⟩ := exists_former become mem
  rw [becomes.poisons (sane former there)]
  exact Foreign.unwinds_iff.1 (unwound former there)

theorem isolates (watched : Watched pool opened now)
    (sane : ∀ worker ∈ pool.workers, worker.poisoned = false) :
    ∃ events, now.2 = opened ++ events ∧ Isolates pool events now := by
  obtain ⟨roster, events, grown, become⟩ := watched
  refine ⟨events, grown, ?worked, ?cache, ?refused, ?first, ?close⟩
  case worked =>
    intro worker mem
    obtain ⟨later, -, becomes⟩ := exists_later become mem
    exact becomes.worked
  case cache =>
    rintro (point | batch) text unwound
    · refine kept_evaluate fun value ok => ?_
      simp only [server, ok] at unwound
      cases unwound
    · refine kept_evaluateBatch fun output ok => ?_
      simp only [server, ok] at unwound
      cases unwound
  case refused =>
    intro unwound point
    exact evaluate_of_poisoned (poisoned_of_unwinds become sane unwound) point now.2
  case first =>
    intro before worker others staff unwound calm
    rw [staff] at become sane
    obtain ⟨sane, others_sane⟩ := List.forall_mem_append.1 sane
    have here : worker.poisoned = false := others_sane worker List.mem_cons_self
    obtain ⟨before', worker', others', staff', front, become⟩ := split_forall₂ become
    have poisoned := poisoned_of_unwinds front sane unwound
    have fine : worker'.poisoned = false := by
      rw [become.poisons here, ← Bool.not_eq_true, ← Foreign.unwinds_iff]
      exact calm
    refine ⟨worker'.session, ?_, become.same, fun point => ?_⟩
    · rw [staff', front.length_eq, ← fine]
      simp
    · rw [evaluate_of_first staff' poisoned fine]
      exact ⟨rfl, rfl, evaluator_ne_poisoned _⟩
  case close =>
    obtain ⟨finish, closed, ends⟩ := close_eq (roster.becomes become) now.2
    refine ⟨finish, closed, fun worker mem => ?_⟩
    obtain ⟨later, there, becomes⟩ := exists_later become mem
    rw [← becomes.same.id, ← becomes.same.state]
    exact ends later there

end Watched

end Pool

/-- **Unwinding stays in its worker.** A pool is opened and used in whatever way, the chunks of its
batches are evaluated in any order, and any call on a worker's state may unwind, upon which any of
the chunks that still wait are given up. Nothing more is called on that state until the pool is
closed, which finalizes and frees it like the others; the cache keeps its entries in their order;
and points are evaluated by the first worker in which nothing unwound, as long as there is one. -/
theorem unwinding_stays_in_worker {binding : Binding} {workers : Nat} {cache : Cache}
    {schedule : Schedule} {before opened : Trace} {pool : Pool}
    (opens : Pool.new binding workers cache schedule before = (.ok pool, opened))
    {now : Pool × Trace}
    (run : Pool.Run pool.stateIds (pool, opened) now) :
    ∃ events, now.2 = opened ++ events ∧ pool.Isolates events now := by
  obtain ⟨watched, sane⟩ := Pool.watched_new opens
  exact (watched.run run).isolates sane

/-- A function that unwinds at a point. -/
def touchyBinding : Binding :=
  .ofTable 1 "touchy" (Foreign.Script.table
    { Foreign.Script.standard with rules := [⟨some ⟨13⟩, .panic "thirteen"⟩] } (.inProcess 1))

/-- It unwinds in the first of two workers, and the second one evaluates the next point. -/
theorem unwinding_stays_in_worker_touchy :
    ∃ pool opened unwound,
      Pool.new touchyBinding 2 (Cache.new 8) .inOrder [] = (.ok pool, opened) ∧
      Pool.server.serve (pool, opened) (.point [⟨13⟩]) = (.panic "thirteen", unwound) ∧
      (.exec 1 [⟨2⟩] 1, .returned) ∈
        (Pool.server.serve unwound (.point [⟨2⟩])).2.2.lifeOf (touchyBinding.table.idOf 1) ∧
      ∃ events, (Pool.server.serve unwound (.point [⟨2⟩])).2.2 = opened ++ events ∧
        pool.Isolates events (Pool.server.serve unwound (.point [⟨2⟩])).2 := by
  have opens : Pool.new touchyBinding 2 (Cache.new 8) .inOrder [] = (.ok _, _) := rfl
  refine ⟨_, _, _, opens, rfl, ?second, ?isolates⟩
  case second => decide +kernel
  case isolates =>
    exact unwinding_stays_in_worker opens
      (.request (.point [⟨2⟩]) (.request (.point [⟨13⟩]) .start))

end ForeignEval

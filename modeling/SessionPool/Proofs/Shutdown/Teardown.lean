import SessionPool.Proofs.Duty.Run
import SessionPool.Proofs.Shutdown.Stakes

/-!
# When a shutdown returns

The first shutdown of a pool waits for the checker to end its sweep, and then disposes of what is
idle. When it returns, the checker has ended, nothing is idle, and every session that was idle or in
the sweep of the checker when the turn of the shutdown came, that is, when it had the flag set and
the pool to itself, has been disconnected. A shutdown that comes later returns at once, and so it
finds all this done only if the first one is over.
-/

namespace SessionPool

namespace World

open Pool (Agent Job Task Balanced Sound Spares Precedes)

variable {world : World} {index : Nat}

/-! ### No disconnect is forgotten -/

theorem disconnectCount_le_callPool (acting : World) (work : Site → Turn) (given : List Nat)
    (conserves : ∀ pool, acting.pools[index]? = some pool →
      (work ⟨acting.now, acting.server, pool⟩).Conserves ⟨acting.now, acting.server, pool⟩ given)
    (id : Nat) : acting.server.disconnectCount id ≤
      (acting.callPool index work).1.server.disconnectCount id := by
  cases found : acting.pools[index]? with
  | none =>
      have same := callPool_eq_self work found
      exact Nat.le_of_eq (congrArg (·.1.server.disconnectCount id) same.symm)
  | some pool =>
      have server : (acting.callPool index work).1.server =
          (work ⟨acting.now, acting.server, pool⟩).1.server := by
        simp only [World.callPool, inPool, found, server_keepDetached]
      rw [server]
      exact (conserves pool found).disconnects_le id

theorem disconnectCount_le_errand (caller id : Nat) :
    world.server.disconnectCount id ≤
      (world.resumeErrand caller).1.server.disconnectCount id := by
  unfold resumeErrand
  split
  case h_2 => exact Nat.le_refl _
  case h_1 errand _ =>
    split
    case isFalse => exact Nat.le_refl _
    case isTrue =>
      unfold finishErrand
      cases errand.work with
      | probing session => exact Nat.le_refl _
      | connecting attempt =>
          rcases world.server.finishConnect_cases attempt with
            ⟨server, error, answer, disconnects, _⟩ | ⟨server, answer, disconnects, _⟩
          all_goals
            simp only [answer, Server.disconnectCount, disconnects]
            exact Nat.le_refl _

theorem disconnectCount_le_withSession {holder : Holder} {use : Session → World × Option Answer}
    {id : Nat} (used : ∀ session, world.server.disconnectCount id ≤
      (use session).1.server.disconnectCount id) :
    world.server.disconnectCount id ≤
      (world.withSession holder use).1.server.disconnectCount id := by
  unfold withSession
  split
  · exact used _
  · exact Nat.le_refl _

/-- A call that asks nothing of a pool forgets no disconnect. -/
theorem disconnectCount_le_begin {request : Request} (asks : request.asks? world = none)
    (id : Nat) :
    let numbered : World := { world with callers := world.callers + 1 }
    world.server.disconnectCount id ≤
      (numbered.begin world.callers request).1.server.disconnectCount id := by
  intro numbered
  have kept {server : Server} (same : server.disconnects = world.server.disconnects) :
      world.server.disconnectCount id ≤ server.disconnectCount id := by
    simp only [Server.disconnectCount, same]
    exact Nat.le_refl _
  cases request with
  | openPool config =>
      simp only [begin, openPool]
      split
      · exact Nat.le_refl _
      · exact disconnectCount_le_callPool
          { numbered with pools := numbered.pools ++ [Pool.new config numbered.now] }
          _ [] (fun _ _ => Site.prewarm_conserves _ 0) id
  | adopt place name =>
      have absent : world.outside? name = none := Option.map_eq_none_iff.mp asks
      have absentHere : numbered.outside? name = none := absent
      simp only [begin, World.adopt, absentHere]
      exact Nat.le_refl _
  | connect => exact kept world.server.disconnects_startConnect
  | probe holder =>
      exact numbered.disconnectCount_le_withSession fun session =>
        kept (world.server.disconnects_startProbe session)
  | executeDirectly holder statement =>
      exact numbered.disconnectCount_le_withSession fun session =>
        kept (world.server.execute_disconnects session statement)
  | queryDirectly holder statement =>
      exact numbered.disconnectCount_le_withSession fun session =>
        kept (world.server.query_disconnects session statement)
  | disconnect holder =>
      apply numbered.disconnectCount_le_withSession
      intro session
      have put : (({ numbered with server := numbered.server.disconnect session } :
          World).putSession holder session.closed).server = world.server.disconnect session := by
        cases holder <;> rfl
      rw [put, Server.disconnectCount_disconnect]
      exact Nat.le_add_right _ _
  | _ => cases asks

/-- Whatever happens, every disconnect has happened for ever. -/
theorem disconnectCount_le_move (possible : Possible world) (move : Move) (id : Nat) :
    world.server.disconnectCount id ≤ (world.move move).server.disconnectCount id := by
  cases move with
  | act action =>
      cases action with
      | call request =>
          change _ ≤ (world.call request).1.server.disconnectCount id
          by_cases accepted : world.accepts request = true
          · cases asks : request.asks? world with
            | none =>
                rw [call_eq_report accepted]
                exact disconnectCount_le_begin asks id
            | some asked =>
                obtain ⟨place, job⟩ := asked
                obtain ⟨acting, pools, _, _, server, does⟩ := call_eq_work accepted asks
                rw [does, ← server]
                apply disconnectCount_le_callPool
                intro pool found
                rw [pools] at found
                exact Job.conserves (possible.sound pool (List.mem_of_getElem? found)) job
          · have same : world.call request = (world, none) := if_neg accepted
            exact Nat.le_of_eq (congrArg (·.1.server.disconnectCount id) same.symm)
      | resume thread =>
          cases thread with
          | inPool place agent =>
              exact disconnectCount_le_callPool world (·.resume agent) []
                (fun _ _ => Site.resume_conserves agent) id
          | errand caller => exact disconnectCount_le_errand caller id
      | instruct command => cases command <;> exact Nat.le_refl _
      | passTo instant =>
          change _ ≤ (world.passTo instant).server.disconnectCount id
          unfold passTo
          split <;> exact Nat.le_refl _
  | _ => exact Nat.le_refl _

/-! ### From the first shutdown on -/

/-- What is true of a pool from its first shutdown on, which is the work of `caller` and had its
turn when the server was as in `start`. -/
structure Closing (index caller : Nat) (start : Server) (stake : List Nat) (events : List Event)
    (server : Server) (pool : Pool) : Prop where
  shutdown : pool.isShutdown = true
  stopped : pool.stopRequested = true
  /-- Only the first shutdown ever waits for the checker. -/
  joining_iff (task : Task) (present : task ∈ pool.tasks) :
    task.isJoining = true ↔ task.agent = .caller caller
  joined (running : pool.hasChecker = true) : ∃ task ∈ pool.tasks, task.isJoining = true
  finished (answer : Answer) (ended : ⟨.inPool index (.caller caller), answer⟩ ∈ events)
    (task : Task) (present : task ∈ pool.tasks) : task.isJoining = false
  grows (id : Nat) : start.disconnectCount id ≤ server.disconnectCount id
  /-- What was at stake is so still, or has been disconnected. -/
  fate (id : Nat) (member : id ∈ stake) :
    id ∈ pool.atStake ∨ start.disconnectCount id < server.disconnectCount id

theorem hasChecker_iff {pool : Pool} :
    pool.hasChecker = true ↔ ∃ task ∈ pool.tasks, task.agent = .checker := by
  simp [Pool.hasChecker]

namespace Closing

variable {caller callers : Nat} {start server after : Server} {stake : List Nat}
  {events : List Event} {pool : Pool}

/-- Somebody else than the first shutdown has worked, or nobody has. -/
theorem step (closing : Closing index caller start stake events server pool) {left : Pool}
    {agent : Agent} {event : Option Event} (other : agent ≠ .caller caller)
    (spares : pool.Spares agent left) (shutdown : left.isShutdown = true)
    (checks : agent = .checker → pool.hasChecker = true)
    (stays : ∀ task ∈ pool.tasks, task.isJoining = true → task ∈ left.tasks)
    (ended : ∀ answer, event ≠ some ⟨.inPool index (.caller caller), answer⟩)
    (grows : ∀ id, server.disconnectCount id ≤ after.disconnectCount id)
    (fate : ∀ id ∈ pool.atStake,
      id ∈ left.atStake ∨ server.disconnectCount id < after.disconnectCount id) :
    Closing index caller start stake (event.toList ++ events) after left where
  shutdown := shutdown
  stopped := spares.stopped_eq.trans closing.stopped
  joining_iff task present := by
    rcases spares.tasks task present with old | ⟨own, outside⟩
    · exact closing.joining_iff task old
    · rw [outside, own]
      exact iff_of_false Bool.false_ne_true other
  joined running := by
    obtain ⟨checker, present, own⟩ := hasChecker_iff.mp running
    have before : pool.hasChecker = true := by
      rcases spares.tasks checker present with old | ⟨acts, _⟩
      · exact hasChecker_iff.mpr ⟨checker, old, own⟩
      · exact checks (acts.symm.trans own)
    obtain ⟨task, known, joining⟩ := closing.joined before
    exact ⟨task, stays task known joining, joining⟩
  finished answer told task present := by
    rcases List.mem_append.mp told with new | old
    · exact absurd (Option.mem_toList.mp new) (ended answer)
    · rcases spares.tasks task present with before | ⟨_, outside⟩
      · exact closing.finished answer old task before
      · exact outside
  grows id := Nat.le_trans (closing.grows id) (grows id)
  fate id member := by
    rcases closing.fate id member with still | gone
    · rcases fate id still with next | now
      · exact .inl next
      · exact .inr (Nat.lt_of_le_of_lt (closing.grows id) now)
    · exact .inr (Nat.lt_of_lt_of_le gone (grows id))

/-- Where nobody works, the pool stays as it is. -/
theorem still (closing : Closing index caller start stake events server pool) {left : Pool}
    {event : Option Event} (shutdown : left.isShutdown = true)
    (stopped : left.stopRequested = pool.stopRequested) (idle : left.idle = pool.idle)
    (tasks : ∀ task, task ∈ left.tasks ↔ task ∈ pool.tasks) (elsewhere : IsElsewhere index event)
    (grows : ∀ id, server.disconnectCount id ≤ after.disconnectCount id) :
    Closing index caller start stake (event.toList ++ events) after left := by
  have other : Agent.caller (caller + 1) ≠ .caller caller :=
    fun same => Nat.succ_ne_self caller (Agent.caller.inj same)
  have spares : pool.Spares (.caller (caller + 1)) left :=
    ⟨idle, stopped, fun task present => .inl ((tasks task).mp present)⟩
  apply closing.step other spares shutdown nofun
  · exact fun task present _ => (tasks task).mpr present
  · exact fun answer => elsewhere _ answer
  · exact grows
  · intro id member
    left
    exact pool.atStake_mono left idle (fun task present _ => (tasks task).mpr present) member

/-- When the checker has ended, and what is idle is disposed of, nothing is at stake any more. -/
theorem ofDrain (site : Site) {thenDrop : Bool} (shutdown : site.pool.isShutdown = true)
    (stopped : site.pool.stopRequested = true) (ended : site.pool.hasChecker = false)
    (alone : ∀ task ∈ site.pool.tasks, task.isJoining = false ∧ task.agent ≠ .caller caller)
    (grows : ∀ id, start.disconnectCount id ≤ site.server.disconnectCount id)
    (fate : ∀ id ∈ stake, id ∈ site.pool.atStake ∨
      start.disconnectCount id < site.server.disconnectCount id) :
    Closing index caller start stake events (site.drain thenDrop).1.server
      (site.drain thenDrop).1.pool := by
  have tasks := site.tasks_drain thenDrop
  have gone : (site.drain thenDrop).1.pool.hasChecker = false := by
    rw [Pool.hasChecker, tasks]
    exact ended
  constructor
  case shutdown => exact (site.isShutdown_drain thenDrop).trans shutdown
  case stopped => exact (site.stopRequested_drain thenDrop).trans stopped
  case joining_iff =>
    intro task present
    rw [tasks] at present
    rw [(alone task present).1]
    exact iff_of_false Bool.false_ne_true (alone task present).2
  case joined =>
    intro running
    rw [gone] at running
    contradiction
  case finished =>
    intro _ _ task present
    rw [tasks] at present
    exact (alone task present).1
  case grows =>
    intro id
    rw [Site.disconnectCount_drain]
    exact Nat.le_trans (grows id) (Nat.le_add_right _ _)
  case fate =>
    intro id member
    right
    rw [Site.disconnectCount_drain]
    rcases fate id member with still | before
    · rcases Pool.mem_atStake.mp still with queued | ⟨checker, here, checks, _⟩
      · have idle : id ∈ site.pool.idle.map (·.name) := List.mem_map.mpr queued
        exact Nat.lt_of_le_of_lt (grows id) (Nat.lt_add_of_pos_right (List.count_pos_iff.mpr idle))
      · rw [hasChecker_iff.mpr ⟨checker, here, checks⟩] at ended
        contradiction
    · exact Nat.lt_of_lt_of_le before (Nat.le_add_right _ _)

end Closing

/-! ### The turns of agents -/

section Turns

variable {caller callers : Nat} {start : Server} {stake : List Nat} {events : List Event}
  {site : Site}

theorem ending_ne {agent : Agent} {turn : Turn} (other : agent ≠ .caller caller)
    (answer : Answer) :
    ending index agent turn ≠ some ⟨.inPool index (.caller caller), answer⟩ := by
  intro ends
  obtain ⟨_, _, event⟩ := Option.map_eq_some_iff.mp ends
  exact other (Thread.inPool.inj (congrArg Event.thread event)).2

/-- A call leaves alone what is at stake. -/
theorem closing_work (balanced : Balanced callers site.pool 0)
    (closing : Closing index caller start stake events site.server site.pool)
    (called : caller < callers) (job : Job) :
    Closing index caller start stake
      ((ending index (.caller callers) (job.work callers site)).toList ++ events)
      (job.work callers site).1.server (job.work callers site).1.pool := by
  have other : Agent.caller callers ≠ .caller caller :=
    fun same => Nat.ne_of_gt called (Agent.caller.inj same)
  have ebbs := balanced.ebbs closing.shutdown
  have left := Site.work_ebbs ebbs callers job
  have spares := Site.work_spares ebbs (Spares.refl (.caller callers) site.pool) closing.stopped
    rfl job
  apply closing.step other spares left.shutdown nofun
  · exact fun task present _ => left.stays task present
  · exact ending_ne other
  · exact (Job.conserves (.inr balanced) job).disconnects_le
  · intro id member
    left
    have stays : ∀ task ∈ site.pool.tasks, task.agent = .checker →
        task ∈ (job.work callers site).1.pool.tasks :=
      fun task present _ => left.stays task present
    exact site.pool.atStake_mono _ spares.idle_eq stays member

/-- When the first shutdown goes on, the checker has ended, and what is idle is disposed of. -/
theorem closing_drain (balanced : Balanced callers site.pool 0)
    (closing : Closing index caller start stake events site.server site.pool) {task : Task}
    (found : site.pool.task? task.agent = some task)
    (ready : site.pool.isReady site.now task = true) (joining : task.isJoining = true) :
    Closing index caller start stake
      ((ending index task.agent (site.resume task.agent)).toList ++ events)
      (site.resume task.agent).1.server (site.resume task.agent).1.pool := by
  have present := List.mem_of_find?_eq_some found
  have own := (closing.joining_iff task present).mp joining
  have proper := balanced.proper task present
  have gone := balanced.agent_ne found
  rw [Site.resume_eq_proceed found ready]
  obtain ⟨agent, phase, due⟩ := task
  cases phase with
  | joining thenDrop =>
      obtain rfl : due = none := proper
      obtain rfl : agent = .caller caller := own
      have ended : site.pool.hasChecker = false := by
        simpa [Pool.isReady, Pool.isWoken, Task.isDue] using ready
      have unparked {other : Task} (here : other ∈ (site.pool.unpark (.caller caller)).tasks) :
          other ∈ site.pool.tasks ∧ other.agent ≠ .caller caller :=
        ⟨List.mem_of_mem_eraseP here, gone other here⟩
      apply Closing.ofDrain (site.withPool (·.unpark (.caller caller)))
      · exact closing.shutdown
      · exact closing.stopped
      · rw [Bool.eq_false_iff]
        intro running
        obtain ⟨checker, here, checks⟩ := hasChecker_iff.mp running
        rw [hasChecker_iff.mpr ⟨checker, (unparked here).1, checks⟩] at ended
        contradiction
      · intro other here
        obtain ⟨known, apart⟩ := unparked here
        refine ⟨?_, apart⟩
        rw [Bool.eq_false_iff]
        exact fun joins => apart ((closing.joining_iff other known).mp joins)
      · exact closing.grows
      · intro id member
        refine (closing.fate id member).imp_left fun still => ?_
        have stays : ∀ checker ∈ site.pool.tasks, checker.agent = .checker →
            checker ∈ (site.pool.unpark (.caller caller)).tasks := by
          intro checker known checks
          have apart : checker.agent ≠ .caller caller := by
            rw [checks]
            intro same
            cases same
          exact (List.mem_eraseP_of_neg (by simpa using apart)).mpr known
        exact site.pool.atStake_mono (site.pool.unpark (.caller caller)) rfl stays still
  | _ => contradiction

/-- Whatever is in a sweep that goes on is still there afterwards, or has been disconnected. -/
theorem proceed_fate (shutdown : site.pool.isShutdown = true) {task : Task}
    (sweeps : task.Serves (some .sweep)) {id : Nat}
    (held : ∃ connection ∈ task.connections, connection.name = id) :
    (∃ later ∈ (site.proceed task.agent task.phase).1.pool.tasks, later.agent = task.agent ∧
        ∃ connection ∈ later.connections, connection.name = id) ∨
      site.server.disconnectCount id <
        (site.proceed task.agent task.phase).1.server.disconnectCount id := by
  obtain ⟨agent, phase, due⟩ := task
  cases phase with
  | sweeping sweep current pending => exact Site.sweepProbed_fate shutdown held
  | returnProbe connection =>
      obtain ⟨job, ticket, same, gives⟩ := sweeps
      obtain rfl := Option.some.inj same
      contradiction
  | borrowProbe checkout connection => cases sweeps.1
  | _ =>
      obtain ⟨_, none, _⟩ := held
      contradiction

/-- Whoever goes on leaves what others have at stake where it is, and the checker disposes of what
it has when its sweep is over. -/
theorem atStake_proceed (balanced : Balanced callers site.pool 0) (order : site.pool.InOrder)
    (shutdown : site.pool.isShutdown = true) {task : Task}
    (found : site.pool.task? task.agent = some task) {left : Turn}
    (goesOn : left = (site.withPool (·.unpark task.agent)).proceed task.agent task.phase)
    (idle : left.1.pool.idle = site.pool.idle)
    (stays : ∀ waiting ∈ site.pool.tasks, waiting.agent ≠ task.agent →
      waiting ∈ left.1.pool.tasks) {id : Nat} (member : id ∈ site.pool.atStake) :
    id ∈ left.1.pool.atStake ∨
      site.server.disconnectCount id < left.1.server.disconnectCount id := by
  rcases Pool.mem_atStake.mp member with queued | ⟨checker, known, checks, held⟩
  · left
    exact Pool.mem_atStake.mpr (.inl (idle ▸ queued))
  · by_cases acts : task.agent = .checker
    -- The checker has one task only, so that the sweep that holds the session is the one going on.
    · have own : checker.agent = task.agent := checks.trans acts.symm
      obtain rfl := Option.some.inj ((balanced.task?_eq known).symm.trans (own ▸ found))
      have shutdownHere : (site.withPool (·.unpark checker.agent)).pool.isShutdown = true :=
        shutdown
      have fate := proceed_fate shutdownHere ((order checker known).sweeps acts) held
      rw [← goesOn] at fate
      rcases fate with ⟨later, here, same, holds⟩ | gone
      · exact .inl (Pool.mem_atStake.mpr (.inr ⟨later, here, same.trans acts, holds⟩))
      · exact .inr gone
    · left
      refine Pool.mem_atStake.mpr (.inr ⟨checker, stays checker known ?_, checks, held⟩)
      exact fun own => acts (own ▸ checks)

/-- Whoever goes on, other than the first shutdown, leaves nothing of what is at stake behind. -/
theorem closing_proceed (balanced : Balanced callers site.pool 0) (order : site.pool.InOrder)
    (closing : Closing index caller start stake events site.server site.pool) {task : Task}
    (found : site.pool.task? task.agent = some task)
    (ready : site.pool.isReady site.now task = true) (other : task.isJoining = false) :
    Closing index caller start stake
      ((ending index task.agent (site.resume task.agent)).toList ++ events)
      (site.resume task.agent).1.server (site.resume task.agent).1.pool := by
  have present := List.mem_of_find?_eq_some found
  have grows := (site.resume_conserves task.agent).disconnects_le
  have elsewhere : task.agent ≠ .caller caller := by
    intro own
    rw [(closing.joining_iff task present).mpr own] at other
    contradiction
  have ebbs := Site.proceed_unpark_ebbs balanced closing.shutdown found
  have stays (waiting : Task) (known : waiting ∈ site.pool.tasks)
      (apart : waiting.agent ≠ task.agent) := by
    apply ebbs.stays waiting
    exact (List.mem_eraseP_of_neg (by simpa using apart)).mpr known
  have spares : site.pool.Spares task.agent
      ((site.withPool (·.unpark task.agent)).proceed task.agent task.phase).1.pool := by
    have rest : (site.pool.unpark task.agent).Ebbs (site.pool.unpark task.agent) := by
      apply Pool.Ebbs.refl
      · exact closing.shutdown
      intro waiting here
      exact balanced.isAsleep_eq closing.shutdown waiting (List.mem_of_mem_eraseP here)
    apply Site.proceed_spares rest _ closing.stopped
    · exact (Sound.agent_of_resting (.inr balanced) present ·)
    · exact balanced.isPrewarming_eq task present
    · exact other
    · exact ⟨rfl, rfl, fun waiting here => .inl (List.mem_of_mem_eraseP here)⟩
  rw [Site.resume_eq_proceed found ready] at grows ⊢
  apply closing.step elsewhere spares ebbs.shutdown
  · exact fun checks => hasChecker_iff.mpr ⟨task, present, checks⟩
  · intro waiting known joins
    apply stays waiting known
    intro own
    have same := Option.some.inj ((balanced.task?_eq known).symm.trans (own ▸ found))
    rw [← same, joins] at other
    contradiction
  · exact ending_ne elsewhere
  · exact grows
  · intro id member
    exact atStake_proceed balanced order closing.shutdown found rfl spares.idle_eq stays member

/-- Whoever goes on, if it can, leaves nothing of what is at stake behind. -/
theorem closing_resume (balanced : Balanced callers site.pool 0) (order : site.pool.InOrder)
    (closing : Closing index caller start stake events site.server site.pool) (agent : Agent) :
    Closing index caller start stake
      ((ending index agent (site.resume agent)).toList ++ events)
      (site.resume agent).1.server (site.resume agent).1.pool := by
  by_cases goes : ∃ task, site.pool.task? agent = some task ∧
      site.pool.isReady site.now task = true
  · obtain ⟨task, found, ready⟩ := goes
    obtain rfl := Pool.agent_of_task? found
    cases joining : task.isJoining with
    | true => exact closing_drain balanced closing found ready joining
    | false => exact closing_proceed balanced order closing found ready joining
  · rw [Site.resume_eq_self fun task found ready => goes ⟨task, found, ready⟩]
    exact closing

/-- Nobody waits for the checker in a pool that has not been shut down. -/
theorem isJoining_of_running (balanced : Balanced callers site.pool 0)
    (running : site.pool.isShutdown = false) (task : Task) (present : task ∈ site.pool.tasks) :
    task.isJoining = false := by
  rw [Bool.eq_false_iff]
  intro joins
  have closings : 0 < (Task.holdings site.pool.tasks + 0).closings := by
    rw [add_zero, Task.closings_holdings]
    exact List.countP_pos_iff.mpr ⟨task, present, joins⟩
  rw [balanced.books.shutdown (.inl closings)] at running
  contradiction

/-- What is at stake stays so when everybody is told to look again. -/
theorem atStake_notifyAll {pool : Pool} {id : Nat} (member : id ∈ pool.atStake) :
    id ∈ pool.notifyAll.atStake := by
  rcases Pool.mem_atStake.mp member with queued | ⟨checker, here, checks, held⟩
  · exact Pool.mem_atStake.mpr (.inl queued)
  · refine Pool.mem_atStake.mpr (.inr ⟨checker.notify, List.mem_map_of_mem here, ?_⟩)
    rw [Task.agent_notify, Task.connections_notify]
    exact ⟨checks, held⟩

/-- The first shutdown of a pool. -/
theorem closing_shutdown (balanced : Balanced callers site.pool 0)
    (running : site.pool.isShutdown = false) (thenDrop : Bool) :
    Closing index callers site.server site.pool.atStake
      (ending index (.caller callers) (site.shutdown (.caller callers) thenDrop)).toList
      (site.shutdown (.caller callers) thenDrop).1.server
      (site.shutdown (.caller callers) thenDrop).1.pool := by
  let told := site.withPool fun pool =>
    { pool.notifyAll with isShutdown := true, stopRequested := true }
  have alone : ∀ task ∈ told.pool.tasks, task.isJoining = false ∧ task.agent ≠ .caller callers := by
    intro task present
    obtain ⟨old, known, rfl⟩ := List.mem_map.mp present
    rw [Task.isJoining_notify, Task.agent_notify]
    exact ⟨isJoining_of_running balanced running old known,
      Sound.agent_ne_callers (.inr balanced) known⟩
  have stake (id : Nat) (member : id ∈ site.pool.atStake) : id ∈ told.pool.atStake :=
    atStake_notifyAll member
  have answer : site.shutdown (.caller callers) thenDrop =
      if told.pool.hasChecker then told.wait (.caller callers) (.joining thenDrop) none
      else told.drain thenDrop := by
    rw [Site.shutdown, if_neg (by simp [running])]
  rw [answer]
  split
  case isTrue checks =>
    let waits : Task := ⟨.caller callers, .joining thenDrop, none⟩
    have last : waits ∈ (told.pool.park waits).tasks :=
      List.mem_append_right _ (List.mem_singleton_self _)
    constructor
    case shutdown => rfl
    case stopped => rfl
    case joining_iff =>
      intro task present
      rcases List.mem_append.mp present with old | new
      · rw [(alone task old).1]
        exact iff_of_false Bool.false_ne_true (alone task old).2
      · rw [List.mem_singleton.mp new]
        exact iff_of_true rfl rfl
    case joined => exact fun _ => ⟨waits, last, rfl⟩
    case finished => exact fun _ none => absurd none List.not_mem_nil
    case grows => exact fun id => Nat.le_refl _
    case fate =>
      intro id member
      left
      have stays : ∀ task ∈ told.pool.tasks, task.agent = .checker →
          task ∈ (told.pool.park waits).tasks :=
        fun task present _ => List.mem_append_left _ present
      exact told.pool.atStake_mono (told.pool.park waits) rfl stays (stake id member)
  case isFalse checks =>
    apply Closing.ofDrain told rfl rfl (Bool.eq_false_iff.mpr checks) alone
    · exact fun id => Nat.le_refl _
    · exact fun id member => .inl (stake id member)

end Turns

/-! ### Runs -/

section Runs

variable {caller : Nat} {start : Server} {stake : List Nat} {events : List Event} {pool : Pool}

/-- Whatever happens after the first shutdown of a pool has begun, the same stays true of it. -/
theorem Happens.closing (possible : Possible world) (found : world.pools[index]? = some pool)
    (closing : Closing index caller start stake events world.server pool)
    (called : caller < world.callers) {move : Move} {after : Pool} {event : Option Event}
    (happens : world.Happens index pool move after event) :
    Closing index caller start stake (event.toList ++ events) (world.move move).server after := by
  have member := List.mem_of_getElem? found
  have balanced := (possible.sound pool member).balanced closing.shutdown
  have balancedHere : Balanced world.callers (world.site pool).pool 0 := balanced
  have closingHere : Closing index caller start stake events (world.site pool).server
    (world.site pool).pool := closing
  have orderHere : (world.site pool).pool.InOrder := possible.inOrder pool member
  have grows := disconnectCount_le_move possible move
  cases happens with
  | nothing elsewhere =>
      exact closing.still closing.shutdown rfl rfl (fun _ => Iff.rfl) elsewhere grows
  | @calls request job accepted asks =>
      have server : (world.move (.act (.call request))).server = (world.turn pool job).1.server :=
        (call_turn accepted asks found).2.1
      rw [server]
      exact closing_work balancedHere closingHere called job
  | resumes agent =>
      have server : (world.move (.act (.resume (.inPool index agent)))).server =
          ((world.site pool).resume agent).1.server :=
        (resume_turn agent found).2.1
      rw [server]
      exact closing_resume balancedHere orderHere closingHere agent
  | puts ticket session closes elsewhere =>
      rw [Pool.putSession]
      split
      · exact closing.still closing.shutdown rfl rfl (fun _ => Iff.rfl) elsewhere grows
      · exact closing.still closing.shutdown rfl rfl (fun _ => Iff.rfl) elsewhere grows
  | reorders tasks =>
      rw [Pool.reorder]
      split
      case isTrue perm =>
        have same (task : Task) : task ∈ tasks ↔ task ∈ pool.tasks :=
          (List.isPerm_iff.mp perm).mem_iff
        exact closing.still closing.shutdown rfl rfl same isElsewhere_none grows
      case isFalse =>
        exact closing.still closing.shutdown rfl rfl (fun _ => Iff.rfl) isElsewhere_none grows
  | stirs =>
      have awake := balanced.isAsleep_eq closing.shutdown
      have same : pool.notifyOne = pool := by
        rw [Pool.notifyOne, (Pool.notifyFirst_eq_self_iff _).mpr awake]
      rw [same]
      exact closing.still closing.shutdown rfl rfl (fun _ => Iff.rfl) isElsewhere_none grows

theorem closing_moves {trace : Trace} (possible : Possible trace.world)
    (found : trace.world.pools[index]? = some pool)
    (closing : Closing index caller start stake trace.events trace.world.server pool)
    (called : caller < trace.world.callers) (moves : List Move) :
    Possible (trace.moves moves).world ∧
      ∃ later, (trace.moves moves).world.pools[index]? = some later ∧
        Closing index caller start stake (trace.moves moves).events
          (trace.moves moves).world.server later := by
  induction moves generalizing trace pool with
  | nil => exact ⟨possible, pool, found, closing⟩
  | cons move rest ih =>
      obtain ⟨after, foundAfter, happens⟩ := becomes_move found move
      have step := happens.closing possible found closing called
      have possibleAfter : Possible (trace.move move).world := possible.move move
      have calledAfter : caller < (trace.move move).world.callers :=
        Nat.lt_of_lt_of_le called (affects_move trace.world move).callers_le
      exact ih possibleAfter foundAfter step calledAfter

end Runs

/-! ### When a shutdown returns -/

/-- All that a shutdown has to do is done: the checker has ended, nothing is idle, and whatever was
at stake when the server was as in `start` has been disconnected since. -/
structure TornDown (start server : Server) (stake : List Nat) (pool : Pool) : Prop where
  checker : pool.hasChecker = false
  idle : pool.idle = []
  disconnected (id : Nat) (member : id ∈ stake) :
    start.disconnectCount id < server.disconnectCount id

theorem TornDown.close {start server : Server} {stake : List Nat} {pool : Pool}
    (torn : TornDown start server stake pool) (thenDrop : Bool) :
    TornDown start server stake { pool with dropped := pool.dropped || thenDrop } :=
  ⟨torn.checker, torn.idle, torn.disconnected⟩

/-- When no shutdown is under way, all that there was to do is done. -/
theorem Closing.tornDown {callers caller : Nat} {start server : Server} {stake : List Nat}
    {events : List Event} {pool : Pool} (balanced : Balanced callers pool 0)
    (closing : Closing index caller start stake events server pool)
    (unjoined : ∀ task ∈ pool.tasks, task.isJoining = false) :
    TornDown start server stake pool := by
  have nobody {task : Task} (present : task ∈ pool.tasks) : ¬ task.isJoining = true :=
    Bool.eq_false_iff.mp (unjoined task present)
  have ended : pool.hasChecker = false := by
    rw [Bool.eq_false_iff]
    intro running
    obtain ⟨task, present, joins⟩ := closing.joined running
    exact nobody present joins
  have empty : pool.idle = [] := by
    rcases balanced.idle_eq_or_isJoining closing.shutdown with empty | ⟨task, present, joins⟩
    · exact empty
    · exact absurd joins (nobody present)
  refine ⟨ended, empty, ?_⟩
  intro id member
  rcases closing.fate id member with still | gone
  · rcases Pool.mem_atStake.mp still with ⟨connection, queued, _⟩ | ⟨checker, here, checks, _⟩
    · rw [empty] at queued
      contradiction
    · rw [hasChecker_iff.mpr ⟨checker, here, checks⟩] at ended
      contradiction
  · exact gone

/-- When a shutdown returns. The shutdown that finds the pool running is over only when the checker
has ended, nothing is idle, and every session that was idle or in the sweep of the checker when its
turn came has been disconnected, whatever has happened in between. A later one returns at once and
leaves everything as it is, so that all this is done when it returns if no other is under way. -/
theorem tornDown_of_shutdown {start : World} {pool : Pool} {request : Request} {thenDrop : Bool}
    (possible : Possible start) (found : start.pools[index]? = some pool)
    (running : pool.isShutdown = false) (accepted : start.accepts request = true)
    (asks : request.asks? start = some (index, .shutdown thenDrop)) (moves : List Move) :
    let first := Thread.inPool index (.caller start.callers)
    let trace := Trace.moves ⟨start, []⟩ (.act (.call request) :: moves)
    ∃ later, trace.world.pools[index]? = some later ∧
      (∀ answer, ⟨first, answer⟩ ∈ trace.events →
        TornDown start.server trace.world.server pool.atStake later) ∧
      ∀ {again : Request} {dropsToo : Bool}, trace.world.accepts again = true →
        again.asks? trace.world = some (index, .shutdown dropsToo) →
        (trace.world.call again).2 =
            some ⟨.inPool index (.caller trace.world.callers), .ok (.pool .done)⟩ ∧
          (trace.world.call again).1.server = trace.world.server ∧
          ∃ after, (trace.world.call again).1.pools[index]? = some after ∧
            after = { later with dropped := later.dropped || dropsToo } ∧
            ((∀ task ∈ later.tasks, task.isJoining = false) →
              TornDown start.server trace.world.server pool.atStake after) := by
  intro first trace
  let begun : Trace := Trace.move ⟨start, []⟩ (.act (.call request))
  have member := List.mem_of_getElem? found
  have opened : pool.isOpen = true := fits_of_asks accepted asks found
  have balanced : Balanced start.callers (start.site pool).pool 0 :=
    (possible.sound pool member).balanced_of_isOpen opened
  obtain ⟨foundBegun, server, event⟩ := call_turn accepted asks found
  have closing : Closing index start.callers start.server pool.atStake begun.events
      begun.world.server (start.turn pool (.shutdown thenDrop)).1.pool := by
    have seen : begun.events =
        (ending index (.caller start.callers) (start.turn pool (.shutdown thenDrop))).toList := by
      rw [← event]
      exact List.append_nil _
    have now : begun.world.server = (start.turn pool (.shutdown thenDrop)).1.server := server
    rw [seen, now]
    exact closing_shutdown balanced running thenDrop
  have called : start.callers < begun.world.callers := by
    obtain ⟨acting, _, callers, _, _, does⟩ := call_eq_work accepted asks
    change start.callers < (start.call request).1.callers
    rw [does, report, callers_callPool, callers]
    exact Nat.lt_succ_self _
  have possibleBegun : Possible begun.world := possible.move (.act (.call request))
  obtain ⟨possibleLater, later, foundLater, closingLater⟩ :=
    closing_moves possibleBegun foundBegun closing called moves
  have shutdown := closingLater.shutdown
  have balancedLater :=
    (possibleLater.sound later (List.mem_of_getElem? foundLater)).balanced shutdown
  refine ⟨later, foundLater, ?_, ?_⟩
  · intro answer returned
    exact closingLater.tornDown balancedLater (closingLater.finished answer returned)
  · intro again dropsToo acceptedAgain asksAgain
    obtain ⟨after, serverAfter, eventAfter⟩ := call_turn acceptedAgain asksAgain foundLater
    have closed : trace.world.turn later (.shutdown dropsToo) =
        (trace.world.site later).closed dropsToo := if_pos shutdown
    rw [closed] at after serverAfter eventAfter
    refine ⟨eventAfter, serverAfter, _, after, rfl, ?_⟩
    exact fun unjoined => (closingLater.tornDown balancedLater unjoined).close dropsToo

/-- A pool with one idle session, while the checker probes the other one. -/
def midSweep : World :=
  let config : Config := { Config.default with
    minConnections := 2, maxConnections := 2, validationInterval := 10, testOnReturn := false }
  (Trace.follow ⟨new, []⟩ [.call (.openPool config), .resume (.inPool 0 (.caller 0)),
    .resume (.inPool 0 (.caller 0)), .call (.get 0), .resume (.inPool 0 (.caller 1)),
    .instruct (.probeDelay 100), .passTo 10, .resume (.inPool 0 .checker),
    .call (.release ⟨0, 1⟩)]).world

/-- Both sessions are gone when the shutdown returns, and a shutdown that comes after that finds it
so. -/
theorem tornDown_of_shutdown_midSweep :
    let moves := [.act (.call (.shutdown 0)), .act (.passTo 110),
      .act (.resume (.inPool 0 .checker)), .act (.resume (.inPool 0 (.caller 3)))]
    let trace := Trace.moves ⟨midSweep, []⟩ (.act (.call (.shutdown 0)) :: moves)
    ∃ pool later, midSweep.pools[0]? = some pool ∧ pool.isShutdown = false ∧
      pool.atStake = [1, 2] ∧ trace.world.pools[0]? = some later ∧
      ⟨.inPool 0 (.caller 3), .ok (.pool .done)⟩ ∈ trace.events ∧
      TornDown midSweep.server trace.world.server pool.atStake later ∧
      trace.world.accepts (.shutdown 0) = true ∧
      (trace.world.call (.shutdown 0)).2 =
        some ⟨.inPool 0 (.caller trace.world.callers), .ok (.pool .done)⟩ := by
  intro moves trace
  have possible : Possible midSweep := (Reachable.follow .new _).possible
  have found : midSweep.pools[0]? = some (midSweep.pools.head (by decide)) := by decide
  have running : (midSweep.pools.head (by decide)).isShutdown = false := by decide
  have accepted : midSweep.accepts (.shutdown 0) = true := by decide
  have again : trace.world.accepts (.shutdown 0) = true := by decide
  have returned : ⟨.inPool 0 (.caller 3), .ok (.pool .done)⟩ ∈ trace.events := by decide
  obtain ⟨later, foundLater, first, next⟩ :=
    tornDown_of_shutdown possible found running accepted rfl moves
  exact ⟨_, later, found, running, by decide, foundLater, returned, first _ returned, again,
    (next again rfl).1⟩

/-- A shutdown that comes while another waits for the checker returns before anything is done. -/
theorem not_tornDown_overtaking :
    let begun := midSweep.call (.shutdown 0)
    let again := begun.1.call (.shutdown 0)
    ∃ pool later, midSweep.pools[0]? = some pool ∧ begun.2 = none ∧
      again.2 = some ⟨.inPool 0 (.caller 4), .ok (.pool .done)⟩ ∧
      again.1.pools[0]? = some later ∧ later.hasChecker = true ∧ later.idle ≠ [] ∧
      (∀ id ∈ pool.atStake, again.1.server.disconnectCount id = 0) ∧
      ¬ TornDown midSweep.server again.1.server pool.atStake later := by
  intro begun again
  have found : midSweep.pools[0]? = some (midSweep.pools.head (by decide)) := by decide
  have foundLater : again.1.pools[0]? = some (again.1.pools.head (by decide)) := by decide
  have running : (again.1.pools.head (by decide)).hasChecker = true := by decide
  refine ⟨_, _, found, by decide, by decide, foundLater, running, by decide, by decide, ?_⟩
  intro torn
  rw [torn.checker] at running
  contradiction

end World

end SessionPool

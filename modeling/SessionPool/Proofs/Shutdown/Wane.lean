import SessionPool.Proofs.Shutdown.Turns
import SessionPool.Proofs.Waits
import SessionPool.Proofs.Wakeups

/-!
# Pools that wane

From the moment in which a pool is shut down it only loses what it has, whatever happens to it. A
caller that is inside a checkout then stays there until it goes on, and goes on only to leave.
-/

namespace SessionPool

namespace Pool

variable {callers index : Nat} {pool : Pool}

/-! ### Balanced pools that are shut down -/

/-- Only a pool that has been opened can be shut down. -/
theorem Sound.balanced (sound : Sound callers pool) (shutdown : pool.isShutdown = true) :
    Balanced callers pool 0 := by
  rcases sound with filling | balanced
  · obtain ⟨_, _, _, _, _, _, _, _, unknown⟩ := filling
    rw [unknown.running] at shutdown
    contradiction
  · exact balanced

namespace Balanced

variable (balanced : Balanced callers pool 0) (shutdown : pool.isShutdown = true)

include balanced

/-- Nobody fills a pool that has been opened. -/
theorem isPrewarming_eq (task : Task) (present : task ∈ pool.tasks) :
    task.isPrewarming = false := by
  have proper := balanced.proper task present
  obtain ⟨agent, phase, due⟩ := task
  cases phase with
  | prewarming made metadata attempt => exact proper.elim
  | _ => rfl

include shutdown

/-- The shutdown has told everybody. -/
theorem isAsleep_eq (task : Task) (present : task ∈ pool.tasks) : task.isAsleep = false := by
  have awake := balanced.books.awake shutdown
  rw [add_zero, Task.asleep_holdings, List.countP_eq_zero] at awake
  exact Bool.eq_false_iff.mpr (awake task present)

theorem ebbs : pool.Ebbs pool := .refl shutdown (balanced.isAsleep_eq shutdown)

/-- What is idle is still to be disposed of by the shutdown. -/
theorem idle_eq_or_isJoining : pool.idle = [] ∨ ∃ task ∈ pool.tasks, task.isJoining = true := by
  have idle := balanced.books.idle_eq shutdown
  rw [add_zero, Task.closings_holdings, List.countP_pos_iff] at idle
  exact idle

end Balanced

/-! ### What becomes of checkouts -/

/-- An error with which a checkout can end in a pool that is shut down: the shutdown itself, or the
failure of a connect that was on its way. -/
def Task.IsRefusal (task : Task) (error : PoolError) : Prop :=
  error = .shutDown ∨ task.isConnecting = true ∧ ∃ cause, error = .creationFailed cause

theorem Task.isRefusal_refusal (server : Server) (task : Task) :
    task.IsRefusal (task.phase.refusal server) := by
  obtain ⟨agent, phase, due⟩ := task
  cases phase with
  | connecting checkout metadata attempt =>
      rw [Phase.refusal]
      cases (server.finishConnect attempt).2 with
      | error cause => exact .inr ⟨rfl, cause, rfl⟩
      | ok session => exact .inl rfl
  | _ => exact .inl rfl

/-- What has become of a pool that is shut down, and of the callers that were inside a checkout. -/
structure Wanes (index : Nat) (events : List World.Event) (before after : Pool) : Prop extends
    Dwindles before after where
  /-- A caller is still inside, or its call has ended without a connection. -/
  fate (task : Task) (present : task ∈ before.tasks) (inside : task.isCheckingOut = true) :
    task ∈ after.tasks ∨ ∃ error, task.IsRefusal error ∧
      ⟨.inPool index task.agent, .error (.pool error)⟩ ∈ events

namespace Wanes

theorem refl (shutdown : pool.isShutdown = true) : Wanes index [] pool pool where
  toDwindles := .refl shutdown
  fate _ present _ := .inl present

theorem trans {first second third : Pool} {earlier later : List World.Event}
    (before : Wanes index earlier first second) (after : Wanes index later second third) :
    Wanes index (later ++ earlier) first third where
  toDwindles := before.toDwindles.trans after.toDwindles
  fate task present inside := by
    rcases before.fate task present inside with still | ⟨error, refusal, ended⟩
    · rcases after.fate task still inside with last | ⟨error, refusal, ended⟩
      · exact .inl last
      · exact .inr ⟨error, refusal, List.mem_append_left _ ended⟩
    · exact .inr ⟨error, refusal, List.mem_append_right _ ended⟩

/-- Where everybody waits on, nobody has been refused. -/
theorem ofStays {before after : Pool} (dwindles : Dwindles before after)
    (stays : ∀ task ∈ before.tasks, task ∈ after.tasks) (events : List World.Event) :
    Wanes index events before after :=
  { dwindles with fate := fun task present _ => .inl (stays task present) }

end Wanes

end Pool

/-- A turn in which a session is disconnected that comes back, and nothing is queued. -/
structure Turn.Disconnects (turn : Turn) (before : Site) (session : Session) : Prop where
  answer : turn.2 = some (.ok .done)
  server : turn.1.server = before.server.disconnect session
  idle : turn.1.pool.idle = before.pool.idle
  leases : turn.1.pool.leases = before.pool.leases

/-! ### Agents that go on -/

namespace Site

open Pool (Agent Phase Task Balanced)

/-- A caller inside a checkout ends it when it goes on. -/
theorem proceed_refuses (site : Site) (shutdown : site.pool.isShutdown = true) {agent : Agent}
    {phase : Phase} (inside : (Task.mk agent phase none).isCheckingOut = true) :
    (site.proceed agent phase).2 = some (.error (phase.refusal site.server)) := by
  cases phase with
  | connecting checkout metadata attempt =>
      obtain ⟨released, refused, _⟩ :=
        checkoutConnected_eq_refuse shutdown checkout metadata attempt
      rw [proceed, refused]
      rfl
  | borrowProbe checkout connection =>
      rw [proceed, borrowProbed_eq_refuse shutdown]
      rfl
  | waiting checkout notified =>
      rw [proceed, seek_eq_refuse _ shutdown]
      rfl
  | _ => contradiction

variable {site : Site}

variable {callers : Nat} (balanced : Balanced callers site.pool 0)
  (shutdown : site.pool.isShutdown = true)

include balanced shutdown

theorem resume_refuses {task : Task} (present : task ∈ site.pool.tasks)
    (inside : task.isCheckingOut = true) (ready : site.pool.isReady site.now task = true) :
    (site.resume task.agent).2 = some (.error (task.phase.refusal site.server)) := by
  rw [resume_of_mem balanced present ready]
  apply proceed_refuses
  · exact shutdown
  · exact inside

/-- An agent that goes on adds nothing to the pool. -/
theorem proceed_unpark_ebbs {agent : Agent} {task : Task}
    (found : site.pool.task? agent = some task) :
    (site.pool.unpark agent).Ebbs
      ((site.withPool (·.unpark agent)).proceed agent task.phase).1.pool := by
  have rest : (site.pool.unpark agent).Ebbs (site.pool.unpark agent) := by
    apply Pool.Ebbs.refl
    · exact shutdown
    · intro other present
      exact balanced.isAsleep_eq shutdown other (List.mem_of_mem_eraseP present)
  apply proceed_ebbs
  · exact rest
  · exact balanced.isPrewarming_eq task (List.mem_of_find?_eq_some found)

/-- When an agent goes on, everybody else waits on. -/
theorem resume_wanes (index : Nat) (agent : Agent) :
    site.pool.Wanes index (World.ending index agent (site.resume agent)).toList
      (site.resume agent).1.pool := by
  by_cases goes : ∃ task, site.pool.task? agent = some task ∧
      site.pool.isReady site.now task = true
  · obtain ⟨task, found, ready⟩ := goes
    have ebbs := proceed_unpark_ebbs balanced shutdown found
    rw [← resume_eq_proceed found ready] at ebbs
    refine { ebbs.ofUnpark with fate := ?_ }
    intro other present inside
    by_cases own : other.agent = agent
    · subst own
      have same := Option.some.inj ((balanced.task?_eq present).symm.trans found)
      subst same
      right
      refine ⟨_, other.isRefusal_refusal site.server, ?_⟩
      rw [World.ending, resume_refuses balanced shutdown present inside ready]
      exact List.mem_singleton_self _
    · left
      apply ebbs.stays
      apply (List.mem_eraseP_of_neg _).mpr present
      simpa using own
  · have stuck : site.resume agent = (site, none) :=
      resume_eq_self fun task found ready => goes ⟨task, found, ready⟩
    rw [stuck]
    exact .refl shutdown

omit balanced in
/-- A connection that comes back is disconnected, and is not queued. -/
theorem requeue_disconnects (connection : Connection) (healthy : Bool) :
    (site.requeue connection healthy).Disconnects site connection.session := by
  obtain ⟨counters, answer, server, pool | pool⟩ := requeue_outcome shutdown connection healthy
  · exact ⟨answer, server, by rw [pool], by rw [pool]⟩
  · exact ⟨answer, server, by rw [pool], by rw [pool]⟩

omit balanced in
theorem takeBack_disconnects (agent : Agent) (connection : Connection) :
    (site.takeBack agent connection).Disconnects site connection.session := by
  rcases takeBack_outcome shutdown agent connection with gone | back
  · rw [gone]
    exact ⟨rfl, rfl, rfl, rfl⟩
  · rw [back]
    exact requeue_disconnects shutdown (connection.touch site.now) false

/-- A connection that was being probed on its way back when the pool was shut down comes back too
late. -/
theorem resume_disconnects {task : Task} (present : task ∈ site.pool.tasks)
    (ready : site.pool.isReady site.now task = true) {connection : Connection}
    (phase : task.phase = .returnProbe connection) :
    (site.resume task.agent).Disconnects site connection.session := by
  let unparked := site.withPool (·.unpark task.agent)
  obtain ⟨returned, healthy, back, same⟩ := unparked.returnProbed_eq_requeue connection
  have shutdownHere : unparked.pool.isShutdown = true := shutdown
  have disconnects := requeue_disconnects shutdownHere returned healthy
  rw [same] at disconnects
  rw [resume_of_mem balanced present ready, phase, proceed, back]
  exact ⟨disconnects.answer, disconnects.server, disconnects.idle, disconnects.leases⟩

omit shutdown in
/-- The shutdown disposes of everything that is idle. -/
theorem resume_drains {task : Task} (present : task ∈ site.pool.tasks)
    (ready : site.pool.isReady site.now task = true) (joining : task.isJoining = true) :
    (site.resume task.agent).1.pool.idle = [] := by
  rw [resume_of_mem balanced present ready]
  obtain ⟨agent, phase, due⟩ := task
  cases phase with
  | joining thenDrop =>
      simp only [proceed, drain, closed, answer, withPool]
      rw [Pool.pool_disposeAll]
  | _ => contradiction

end Site

/-! ### Moves -/

namespace World

open Pool (Agent Job Task Balanced)

variable {world : World} {index : Nat} {pool : Pool}

/-- Whatever happens to a pool that is shut down, it only loses what it has. -/
theorem Happens.wanes {move : Move} {after : Pool} {event : Option Event}
    (happens : world.Happens index pool move after event)
    (balanced : Balanced world.callers pool 0) (shutdown : pool.isShutdown = true) :
    pool.Wanes index event.toList after := by
  have ebbs : pool.Ebbs (world.site pool).pool := balanced.ebbs shutdown
  have balancedHere : Balanced world.callers (world.site pool).pool 0 := balanced
  cases happens with
  | nothing elsewhere => exact .ofStays (.refl shutdown) (fun _ present => present) _
  | calls accepted asks =>
      have after := Site.work_ebbs ebbs world.callers
      exact .ofStays (after _).toDwindles (after _).stays _
  | resumes agent => exact Site.resume_wanes balancedHere shutdown index agent
  | puts ticket session closes elsewhere =>
      rw [Pool.putSession]
      split
      · have put := ebbs.updateLease ticket
        exact .ofStays (put _).toDwindles (put _).stays _
      · exact .ofStays (.refl shutdown) (fun _ present => present) _
  | reorders tasks =>
      rw [Pool.reorder]
      split
      case isFalse => exact .refl shutdown
      case isTrue same =>
        have perm := List.isPerm_iff.mp same
        have moved : pool.Dwindles { pool with tasks } :=
          { Pool.Dwindles.refl shutdown with
            checkouts := fun task present _ => perm.mem_iff.mp present }
        exact .ofStays moved (fun task present => perm.mem_iff.mpr present) _
  | stirs =>
      have told := ebbs.notifyOne
      exact .ofStays told.toDwindles told.stays _

end World

end SessionPool

import SessionPool.Proofs.Alone.FirstLive
import SessionPool.Proofs.Handles.Probes

/-!
# A loan with nothing in between

A caller that asks for a connection while nobody else does anything, and gives it back, gets the
first of the idle queue and leaves it at the back, if all that is idle is alive. The server sees a
probe on the way out and one on the way in, where the settings ask for them, and nothing else.
-/

namespace SessionPool

namespace Server

/-- The server when some more probes have arrived. -/
def probed (server : Server) (count : Nat) : Server :=
  { server with probes := server.probes + count }

theorem probed_probed (server : Server) (first later : Nat) :
    (server.probed first).probed later = server.probed (first + later) := by
  simp [probed, Nat.add_assoc]

@[simp]
theorem answers_probed (server : Server) (count : Nat) (session : Session) :
    (server.probed count).answers session = server.answers session :=
  rfl

/-- A probe of a live session is counted, and does nothing else. -/
theorem startProbe_of_answers {server : Server} {session : Session}
    (live : server.answers session = true) : server.startProbe session = server.probed 1 :=
  if_pos (answers_eq_true_iff.mp live).1

/-- A live session is probed where the settings ask for it. -/
theorem ite_startProbe {server : Server} {session : Session}
    (live : server.answers session = true) (tests : Bool) :
    (if tests then server.startProbe session else server) = server.probed tests.toNat := by
  rw [startProbe_of_answers live]
  cases tests <;> rfl

end Server

namespace Pool

/-- The pool when a connection that was lent has joined the idle queue. -/
def requeued (pool : Pool) (connection : Connection) : Pool :=
  { pool with
    active := pool.active.erase connection.id
    idle := pool.idle ++ [connection] }

end Pool

namespace Site

open Pool (Agent Phase)

/-- The site when a returned session has been probed, if the settings ask for it. -/
def tested (site : Site) (session : Session) : Site :=
  { site with
    server :=
      if site.pool.config.testOnReturn then site.server.startProbe session else site.server }

variable {site : Site} {connection : Connection} (running : site.pool.isShutdown = false)

include running

/-- A healthy connection joins the idle queue, and nobody has to be told. -/
theorem requeue_eq (rest : site.pool.AtRest) (lent : connection.id ∈ site.pool.active) :
    site.requeue connection true =
      ({ site with pool := site.pool.requeued connection } : Site).answer (.ok .done) := by
  have quiet : (site.pool.requeued connection).AtRest := rest
  rw [requeue]
  dsimp only
  rw [if_neg (by simp [lent]), if_neg (by simp [running]), if_neg (by simp)]
  exact congrArg (fun pool => ({ site with pool } : Site).answer (.ok .done)) quiet.notifyOne_eq

section Take

variable (present : site.pool.isPresent = true) (reusable : connection.isReusable = true)

include present reusable

theorem takeBack_eq_wait (probes : site.pool.config.testOnReturn = true) (agent : Agent) :
    site.takeBack agent connection =
      (site.tested connection.session).wait agent (.returnProbe (connection.touch site.now))
        (some (site.now + site.server.probeTime connection.session)) := by
  have healthy : (connection.touch site.now).isReusable = true := reusable
  rw [takeBack, if_neg (by simp [present])]
  dsimp only
  rw [if_pos (by simp [healthy, running]), if_pos probes, tested, if_pos probes]
  rfl

theorem takeBack_eq_requeue (unseen : site.pool.config.testOnReturn = false) (agent : Agent) :
    site.takeBack agent connection = site.requeue (connection.touch site.now) true := by
  have healthy : (connection.touch site.now).isReusable = true := reusable
  rw [takeBack, if_neg (by simp [present])]
  dsimp only
  rw [if_pos (by simp [healthy, running]), if_neg (by simp [unseen])]

end Take

end Site

namespace World

open Pool (Agent Job)

/-! ### The return -/

/-- A live connection that is taken back is idle again after at most one wait. -/
theorem Trace.Shows.takesBack {trace : Trace} {index : Nat} {agent : Agent} (site : Site)
    {connection : Connection} (running : site.pool.isShutdown = false)
    (present : site.pool.isPresent = true) (rest : site.pool.AtRest)
    (fresh : ∀ other ∈ site.pool.tasks, other.agent ≠ agent)
    (lent : connection.id ∈ site.pool.active) (reusable : connection.isReusable = true)
    (live : site.server.answers connection.session = true)
    (shows : trace.Shows index agent site.now (site.takeBack agent connection)) (late : Nat)
    (lates : List Nat) :
    ∃ later, (trace.alone index agent (late :: lates)).Shows index agent later
      (({ site.tested connection.session with
        now := later
        pool := site.pool.requeued (connection.touch site.now) } : Site).answer (.ok .done)) := by
  cases probes : site.pool.config.testOnReturn with
  | false =>
      have back : site.requeue (connection.touch site.now) true = _ :=
        Site.requeue_eq running rest lent
      rw [Site.takeBack_eq_requeue running present reusable probes, back] at shows
      rw [shows.alone_eq rfl, Site.tested, if_neg (by simp [probes])]
      exact ⟨site.now, shows⟩
  | true =>
      rw [Site.takeBack_eq_wait running present reusable probes] at shows
      have freshHere : ∀ other ∈ (site.tested connection.session).pool.tasks,
          other.agent ≠ agent := fresh
      obtain ⟨later, next, -, -, goes, shows⟩ := shows.alone_cons freshHere late lates
      let before : Site := { site.tested connection.session with now := later }
      have verdict : before.server.answers connection.session = true := by
        have same : before.server = site.server.startProbe connection.session := if_pos probes
        rw [same, Server.answers_startProbe]
        exact live
      have here : before.proceed agent (.returnProbe (connection.touch site.now)) =
          ({ before with pool := site.pool.requeued (connection.touch site.now) } : Site).answer
            (.ok .done) := by
        have back : before.proceed agent (.returnProbe (connection.touch site.now)) =
            before.requeue (connection.touch site.now) true := if_pos verdict
        rw [back]
        exact Site.requeue_eq running rest lent
      rw [here] at shows
      rw [goes, shows.alone_eq rfl]
      exact ⟨later, shows⟩

/-! ### What working alone leaves as it is -/

section Frame

variable {index : Nat} {agent : Agent}

/-- Working alone is a run. -/
theorem Possible.alone {trace : Trace} (possible : Possible trace.world) (lates : List Nat) :
    Possible (trace.alone index agent lates).world := by
  induction lates generalizing trace with
  | nil => exact possible
  | cons late lates ih =>
      rw [Trace.alone]
      split
      · apply ih
        unfold Trace.goOn
        split
        · exact (possible.move (.elapse _)).move (.act (.resume (.inPool index agent)))
        · exact possible
      · exact possible

/-- Nobody works on an errand in a pool. -/
theorem errands_alone (trace : Trace) (lates : List Nat) :
    (trace.alone index agent lates).world.errands = trace.world.errands := by
  induction lates generalizing trace with
  | nil => rfl
  | cons late lates ih =>
      rw [Trace.alone]
      split
      · rw [ih, Trace.goOn]
        split
        · exact errands_callPool _ index (·.resume agent)
        · rfl
      · rfl

/-- Nobody makes a call by going on. -/
theorem callers_alone (trace : Trace) (lates : List Nat) :
    (trace.alone index agent lates).world.callers = trace.world.callers := by
  induction lates generalizing trace with
  | nil => rfl
  | cons late lates ih =>
      rw [Trace.alone]
      split
      · rw [ih, Trace.goOn]
        split
        · change (World.callPool _ index (·.resume agent)).1.callers = trace.world.callers
          exact callers_callPool _
        · rfl
      · rfl

variable {world : World} {request : Request} {job : Job}
  (accepted : world.accepts request = true) (asks : request.job? = some (index, job))

include accepted asks

theorem errands_callAlone (lates : List Nat) :
    (world.callAlone request index lates).world.errands = world.errands := by
  rw [callAlone, errands_alone]
  change (world.call request).1.errands = world.errands
  rw [call_eq_report accepted, begin_of_job asks]
  exact errands_callPool _ index _

theorem callers_callAlone (lates : List Nat) :
    (world.callAlone request index lates).world.callers = world.callers + 1 := by
  rw [callAlone, callers_alone]
  change (world.call request).1.callers = world.callers + 1
  rw [call_eq_report accepted, begin_of_job asks]
  exact callers_callPool _

end Frame

theorem Possible.callAlone {world : World} (possible : Possible world) (request : Request)
    (index : Nat) (lates : List Nat) : Possible (world.callAlone request index lates).world :=
  (possible.move (.act (.call request))).alone lates

end World

end SessionPool

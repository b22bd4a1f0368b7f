import SessionPool.Proofs.Custody.Quarantine
import SessionPool.Proofs.Handles.Tickets

/-!
# The end of a lease

A lease ends with the call that gives it back, throws it away or keeps its session. What then
becomes of the connection is settled at once, unless it is probed on its way back: it is queued, or
it is disconnected and out of the pool, or it belongs to no pool any more.
-/

namespace SessionPool

open Pool (Agent Phase Job Balanced Sound)

/-! ### Connections that come back -/

/-- A turn with which it is settled whether a connection that has come back is `kept`. -/
structure Turn.Settles (turn : Turn) (before : Site) (connection : Connection) (kept : Bool) :
    Prop where
  answer_eq : turn.2 = some (.ok .done)
  /-- The connection is last in the idle queue, or it is disconnected. -/
  idle_eq : turn.1.pool.idle =
    if kept then before.pool.idle ++ [connection] else before.pool.idle
  server_eq : turn.1.server =
    if kept then before.server else before.server.disconnect connection.session
  total_eq : turn.1.pool.total + (!kept).toNat = before.pool.total
  /-- Nobody has it in hand any more. -/
  active_eq : turn.1.pool.active = before.pool.active.erase connection.id
  /-- As long as the pool lends, whoever has been asleep for longest is told. -/
  tasks_eq : turn.1.pool.tasks =
    if before.pool.isShutdown then before.pool.tasks else Pool.notifyFirst before.pool.tasks

/-- What becomes of a connection with the turn in which it comes back. -/
inductive Site.TakesBack (site : Site) (agent : Agent) (connection : Connection) : Turn → Prop where
  /-- The pool is gone, and only the server learns of it. -/
  | gone (absent : site.pool.isPresent = false) :
      site.TakesBack agent connection
        ({ site with server := site.server.disconnect connection.session }.answer (.ok .done))
  /-- It is probed before it is queued. -/
  | probed (present : site.pool.isPresent = true) (reusable : connection.isReusable = true)
      (running : site.pool.isShutdown = false) (tests : site.pool.config.testOnReturn = true) :
      site.TakesBack agent connection
        (site.probe agent connection.session (.returnProbe (connection.touch site.now)))
  /-- It is settled at once. -/
  | settled (present : site.pool.isPresent = true) {turn : Turn} (kept : Bool)
      (verdict : kept = (connection.isReusable && !site.pool.isShutdown))
      (untested : kept = true → site.pool.config.testOnReturn = false)
      (settles : turn.Settles site (connection.touch site.now) kept) :
      site.TakesBack agent connection turn

namespace Site

variable {site : Site}

theorem requeue_settles {connection : Connection} (tracked : connection.id ∈ site.pool.active)
    (some : 0 < site.pool.total) (healthy : Bool) :
    (site.requeue connection healthy).Settles site connection
      (healthy && !site.pool.isShutdown) := by
  have active : ¬ (!site.pool.active.contains connection.id) = true := by
    simpa using tracked
  rw [requeue]
  dsimp only
  rw [if_neg active]
  cases shutdown : site.pool.isShutdown with
  | true =>
      rw [if_pos rfl, Bool.not_true, Bool.and_false]
      refine ⟨rfl, rfl, rfl, Nat.sub_add_cancel some, rfl, ?_⟩
      rw [shutdown]
      rfl
  | false =>
      rw [if_neg Bool.false_ne_true, Bool.not_false, Bool.and_true]
      have told : Pool.notifyFirst site.pool.tasks =
          if site.pool.isShutdown then site.pool.tasks else Pool.notifyFirst site.pool.tasks := by
        rw [shutdown]
        rfl
      cases healthy with
      | true => exact ⟨rfl, rfl, rfl, rfl, rfl, told⟩
      | false => exact ⟨rfl, rfl, rfl, Nat.sub_add_cancel some, rfl, told⟩

/-- A connection that comes back to a pool that knows of it goes one of three ways. -/
theorem takeBack_takesBack {connection : Connection}
    (tracked : site.pool.isPresent = true → connection.id ∈ site.pool.active)
    (some : site.pool.isPresent = true → 0 < site.pool.total) (agent : Agent) :
    site.TakesBack agent connection (site.takeBack agent connection) := by
  rw [takeBack]
  cases present : site.pool.isPresent with
  | false => exact .gone present
  | true =>
      have trackedTouched : (connection.touch site.now).id ∈ site.pool.active := tracked present
      have back := requeue_settles trackedTouched (some present)
      rw [if_neg (by simp)]
      dsimp only
      rw [Connection.isReusable_touch]
      cases fit : connection.isReusable && !site.pool.isShutdown with
      | false =>
          rw [if_neg Bool.false_ne_true]
          have unkept (kept : false = true) : site.pool.config.testOnReturn = false :=
            absurd kept Bool.false_ne_true
          exact .settled present false fit.symm unkept (back false)
      | true =>
          obtain ⟨reusable, lends⟩ := Bool.and_eq_true_iff.mp fit
          have running : site.pool.isShutdown = false := by simpa using lends
          rw [if_pos rfl]
          cases tests : site.pool.config.testOnReturn with
          | true =>
              rw [if_pos rfl]
              exact .probed present reusable running tests
          | false =>
              rw [if_neg Bool.false_ne_true]
              have settles := back true
              rw [running, Bool.not_false, Bool.and_true] at settles
              exact .settled present true fit.symm (fun _ => tests) settles

end Site

/-! ### Leases that end -/

/-- What becomes of the connection of a lease with the call that ends it, in the pool without the
lease. -/
inductive Pool.Job.Parts (rest : Site) (caller : Nat) (connection : Connection) :
    Job → Turn → Prop where
  | release {ticket : Nat} {turn : Turn}
      (back : rest.TakesBack (.caller caller) connection turn) :
      Parts rest caller connection (.release ticket) turn
  | discard {ticket : Nat} {turn : Turn}
      (back : rest.TakesBack (.caller caller) connection turn) :
      Parts rest caller connection (.discard ticket) turn
  /-- A connection that is of no use comes back broken. -/
  | invalidate {ticket : Nat} {turn : Turn}
      (back : rest.TakesBack (.caller caller) connection.broken turn) :
      Parts rest caller connection (.invalidate ticket) turn
  /-- The session is handed out as it is, and its slot is free. -/
  | detach {ticket : Nat} (present : rest.pool.isPresent = true) :
      Parts rest caller connection (.detach ticket)
        ({ rest with pool := { rest.pool with
            active := rest.pool.active.erase connection.id
            total := rest.pool.total - 1 }.notifyOne }.answer
          (.ok (.detached connection.session)))
  /-- Nobody counts the slots of a pool that is gone. -/
  | detachGone {ticket : Nat} (absent : rest.pool.isPresent = false) :
      Parts rest caller connection (.detach ticket)
        (rest.answer (.ok (.detached connection.session)))

namespace Pool

/-- The ticket of the lease that a call ends. -/
def Job.ends? : Job → Option Nat
  | .release ticket | .invalidate ticket | .discard ticket | .detach ticket => some ticket
  | _ => none

/-- What a call through a ticket is told that is worth nothing. Only to throw it away is no
mistake. -/
def Job.rejection : Job → Answer
  | .discard _ => .ok .done
  | _ => .error .invalidHandle

variable {site : Site} {ticket : Nat} {lease : Lease} {job : Job}

/-- A ticket that is worth nothing does nothing. -/
theorem Job.work_eq_answer (through : job.ticket? = some ticket)
    (stale : site.pool.lease? ticket = none) (caller : Nat) :
    job.work caller site = site.answer job.rejection := by
  cases job with
  | release _ | invalidate _ | discard _ | detach _ =>
      cases through
      simp only [work, Site.release, Site.invalidate, Site.discard, Site.detach, stale]
      rfl
  | execute _ _ | query _ _ =>
      cases through
      simp only [work, Site.execute, Site.query, Site.throughLease, stale]
      rfl
  | _ => cases through

/-- A call that ends a lease does with its connection what it is meant to do. -/
theorem Sound.parts {callers : Nat} (sound : Sound callers site.pool)
    (good : site.pool.lease? ticket = some lease) (ends : job.ends? = some ticket) (caller : Nat) :
    job.Parts (site.withPool (·.endLease ticket)) caller lease.connection
      (job.work caller site) := by
  have member := List.mem_of_find?_eq_some good
  have tracked (present : site.pool.isPresent = true) :
      lease.connection.id ∈ site.pool.active := sound.mem_active_of_lease present member
  have some (present : site.pool.isPresent = true) : 0 < site.pool.total := by
    have active := List.length_pos_of_mem (tracked present)
    have total := sound.accounted.total_eq
    omega
  have back (connection : Connection) (same : connection.id = lease.connection.id) :
      (site.withPool (·.endLease ticket)).TakesBack (.caller caller) connection
        ((site.withPool (·.endLease ticket)).takeBack (.caller caller) connection) := by
    apply Site.takeBack_takesBack
    · rw [same]
      exact tracked
    · exact some
  cases job with
  | release given =>
      cases ends
      simp only [Job.work, Site.release, good]
      exact .release (back _ rfl)
  | discard given =>
      cases ends
      simp only [Job.work, Site.discard, good]
      exact .discard (back _ rfl)
  | invalidate given =>
      cases ends
      simp only [Job.work, Site.invalidate, good]
      exact .invalidate (back _ rfl)
  | detach given =>
      cases ends
      simp only [Job.work, Site.detach, good]
      cases present : site.pool.isPresent with
      | true =>
          have frees : ((site.pool.endLease ticket).isPresent &&
              (site.pool.endLease ticket).active.contains lease.connection.id) = true := by
            apply Bool.and_eq_true_iff.mpr
            exact ⟨present, List.contains_iff_mem.mpr (tracked present)⟩
          rw [if_pos frees]
          exact .detach present
      | false =>
          have keeps : ((site.pool.endLease ticket).isPresent &&
              (site.pool.endLease ticket).active.contains lease.connection.id) = false := by
            apply Bool.and_eq_false_iff.mpr
            exact .inl present
          rw [keeps, if_neg Bool.false_ne_true]
          exact .detachGone present
  | _ => cases ends

/-- A lease that a call ends is over. -/
theorem Balanced.lease?_ends {callers : Nat} (balanced : Balanced callers site.pool 0)
    (good : site.pool.lease? ticket = some lease) (ends : job.ends? = some ticket) (caller : Nat) :
    (job.work caller site).1.pool.lease? ticket = none := by
  have gone := balanced.lease?_endLease ticket
  have back (connection : Connection) :
      ((site.withPool (·.endLease ticket)).takeBack (.caller caller) connection).1.pool.lease?
        ticket = none := by
    rw [Site.lease?_congr (Site.leases_takeBack _ connection)]
    exact gone
  cases job with
  | release given | invalidate given | discard given =>
      cases ends
      simp only [Job.work, Site.release, Site.invalidate, Site.discard, good]
      exact back _
  | detach given =>
      cases ends
      simp only [Job.work, Site.detach, good]
      split <;> exact gone
  | _ => cases ends

end Pool

end SessionPool

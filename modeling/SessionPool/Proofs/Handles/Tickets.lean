import SessionPool.Proofs.Deadline.Turns
import SessionPool.Proofs.Ownership.Exclusive
import SessionPool.Proofs.Shutdown.Final

/-!
# Tickets

A lease is known by the number of the call that got it. Numbers are not used again, so a ticket
stands for one lease for as long as that is good, and for none after that: only the search of the
call itself can give it a meaning, and only what is done through the ticket can change what it
means. Whatever others do, it leaves the lease alone.
-/

namespace SessionPool

namespace Pool

/-! ### What a ticket stands for -/

section Lease

variable {pool : Pool} {ticket other : Nat}

theorem ticket_of_lease? {lease : Lease} (good : pool.lease? ticket = some lease) :
    lease.ticket = ticket := by
  simpa using List.find?_some good

/-- The end of another lease does not matter. -/
theorem lease?_endLease_of_ne (different : other ≠ ticket) :
    (pool.endLease other).lease? ticket = pool.lease? ticket := by
  change (pool.leases.eraseP (·.ticket == other)).find? (·.ticket == ticket) =
    pool.leases.find? (·.ticket == ticket)
  induction pool.leases with
  | nil => rfl
  | cons lease rest ih =>
      rw [List.eraseP_cons]
      cases ends : lease.ticket == other with
      | true =>
          have apart : ¬ (lease.ticket == ticket) = true := by
            rw [beq_iff_eq.mp ends]
            simpa using different
          rw [cond_true, List.find?_cons, Bool.eq_false_iff.mpr apart]
      | false =>
          rw [cond_false, List.find?_cons, List.find?_cons, ih]

/-- Neither does what becomes of the connection of another lease. -/
theorem lease?_updateLease_of_ne (different : other ≠ ticket) (connection : Connection) :
    (pool.updateLease other connection).lease? ticket = pool.lease? ticket := by
  rw [lease?, lease?, updateLease, List.find?_map]
  have same (lease : Lease) :
      ((if lease.ticket == other then { lease with connection } else lease).ticket == ticket) =
        (lease.ticket == ticket) := by
    split <;> rfl
  simp only [Function.comp_def, same]
  cases good : pool.leases.find? (·.ticket == ticket) with
  | none => rfl
  | some lease =>
      have apart : ¬ (lease.ticket == other) = true := by
        rw [ticket_of_lease? good]
        simpa using different.symm
      rw [Option.map_some, if_neg apart]

/-- A lease stays good with another connection in it. -/
theorem lease?_updateLease {lease : Lease} (good : pool.lease? ticket = some lease)
    (connection : Connection) :
    (pool.updateLease ticket connection).lease? ticket = some { lease with connection } := by
  rw [lease?] at good
  rw [lease?, updateLease, List.find?_map]
  have same (lease : Lease) :
      ((if lease.ticket == ticket then { lease with connection } else lease).ticket == ticket) =
        (lease.ticket == ticket) := by
    split <;> rfl
  simp only [Function.comp_def, same]
  rw [good, Option.map_some, if_pos (by simpa using List.find?_some good)]

/-- A ticket whose lease has ended is worth nothing. -/
theorem Balanced.lease?_endLease {callers : Nat} (balanced : Balanced callers pool 0)
    (ticket : Nat) : (pool.endLease ticket).lease? ticket = none := by
  cases good : pool.lease? ticket with
  | none =>
      rw [lease?, List.find?_eq_none] at good ⊢
      exact fun other member => good other (List.mem_of_mem_eraseP member)
  | some lease =>
      rw [lease?, List.find?_eq_none]
      intro other member
      have once := balanced.books.agents_le (.caller ticket)
      have counted := ((leases_perm good).map (Agent.caller ·.ticket)).count_eq (.caller ticket)
      have limit : Agent.limit callers (.caller ticket) ≤ 1 := by
        rw [Agent.limit]
        split <;> omega
      rw [List.map_cons, ticket_of_lease? good, List.count_cons_self] at counted
      intro same
      have again : Agent.caller ticket ∈
          (pool.endLease ticket).leases.map (Agent.caller ·.ticket) :=
        List.mem_map.mpr ⟨other, member, by rw [beq_iff_eq.mp same]⟩
      have twice := List.count_pos_iff.mpr again
      omega

end Lease

/-- The ticket through which a job goes. -/
def Job.ticket? : Job → Option Nat
  | .release ticket | .invalidate ticket | .discard ticket | .detach ticket
  | .execute ticket _ | .query ticket _ => some ticket
  | _ => none

/-- The agent does not look for a connection on behalf of this call. -/
def Task.IsApart (ticket : Nat) (task : Task) : Prop :=
  ∀ checkout, task.checkout? = some checkout → checkout.caller ≠ ticket

/-- The call with this number has been made, and nobody looks for a connection on its behalf any
more. -/
structure Spent (callers ticket : Nat) (pool : Pool) : Prop where
  called : ticket < callers
  apart : pool.All pool.config (Task.IsApart ticket)

theorem Spent.isApart {callers ticket : Nat} {pool : Pool} (spent : pool.Spent callers ticket)
    {agent : Agent} {task : Task} (found : pool.task? agent = some task) : task.IsApart ticket :=
  spent.apart.2 task (List.mem_of_find?_eq_some found)

/-- Whoever has a connection does not look for one. -/
theorem Balanced.spent {callers : Nat} {pool : Pool} (balanced : Balanced callers pool 0)
    {ticket : Nat} {lease : Lease} (good : pool.lease? ticket = some lease) :
    pool.Spent callers ticket := by
  have once := balanced.books.agents_le (.caller ticket)
  rw [add_zero, agents_holdings] at once
  have holds : 0 < (pool.leases.map (Agent.caller ·.ticket)).count (.caller ticket) := by
    apply List.count_pos_iff.mpr
    exact List.mem_map.mpr
      ⟨lease, List.mem_of_find?_eq_some good, by rw [ticket_of_lease? good]⟩
  rw [Agent.limit] at once
  constructor
  · by_contra beyond
    rw [if_neg beyond] at once
    omega
  · refine ⟨rfl, ?_⟩
    rintro task present checkout inside rfl
    have looks := List.count_pos_iff.mpr (List.mem_map_of_mem (f := (·.agent)) present)
    rw [balanced.agent_of_checkout present inside] at looks
    split at once <;> omega

end Pool

namespace Site

open Pool (Agent Phase Task Checkout Patience Report Sweep Job)

variable {site : Site} {ticket : Nat}

/-! ### Checkouts for others -/

section Checkout

variable {checkout : Checkout} (apart : checkout.caller ≠ ticket)

include apart

theorem lease?_lend (connection : Connection) :
    (site.lend checkout connection).1.pool.lease? ticket = site.pool.lease? ticket := by
  apply List.find?_cons_of_neg
  simpa using apart

theorem lease?_seek : (site.seek checkout).1.pool.lease? ticket = site.pool.lease? ticket := by
  rw [seek]
  dsimp only
  split
  · rfl
  · split
    · split
      · rfl
      · exact lease?_lend apart _
    · split
      · rfl
      · split
        · rfl
        · split <;> rfl
        · rfl

theorem lease?_borrowProbed (connection : Connection) :
    (site.borrowProbed checkout connection).1.pool.lease? ticket = site.pool.lease? ticket := by
  rw [borrowProbed]
  dsimp only
  split
  · exact lease?_lend apart _
  · split
    · rfl
    · exact lease?_seek apart

theorem lease?_checkoutConnected (metadata : Metadata) (attempt : Attempt) :
    (site.checkoutConnected checkout metadata attempt).1.pool.lease? ticket =
      site.pool.lease? ticket := by
  rw [checkoutConnected, connected]
  rcases site.server.finishConnect attempt with ⟨server, error | session⟩
  · rfl
  · dsimp only
    split
    · rfl
    · exact lease?_lend apart _

end Checkout

theorem lease?_checkout {caller : Nat} (apart : caller ≠ ticket) (patience : Patience) :
    (site.checkout caller patience).1.pool.lease? ticket = site.pool.lease? ticket := by
  rw [checkout]
  split
  · rfl
  · apply lease?_seek
    exact apart

/-! ### Leases of others -/

theorem leases_requeue (connection : Connection) (healthy : Bool) :
    (site.requeue connection healthy).1.pool.leases = site.pool.leases := by
  rw [requeue]
  dsimp only
  split
  · rfl
  · split
    · rfl
    · split <;> rfl

theorem leases_takeBack (agent : Agent) (connection : Connection) :
    (site.takeBack agent connection).1.pool.leases = site.pool.leases := by
  rw [takeBack]
  dsimp only
  split
  · rfl
  · split
    · split
      · rfl
      · exact leases_requeue _ _
    · exact leases_requeue _ _

theorem leases_returnProbed (connection : Connection) :
    (site.returnProbed connection).1.pool.leases = site.pool.leases := by
  rw [returnProbed]
  split <;> exact leases_requeue _ _

/-- Whoever ends another lease leaves this one alone. -/
theorem lease?_takeBack_endLease {other : Nat} (different : other ≠ ticket) (agent : Agent)
    (connection : Connection) :
    ((site.withPool (·.endLease other)).takeBack agent connection).1.pool.lease? ticket =
      site.pool.lease? ticket := by
  rw [Pool.lease?, leases_takeBack]
  exact Pool.lease?_endLease_of_ne different

theorem lease?_detach {other : Nat} (different : other ≠ ticket) :
    (site.detach other).1.pool.lease? ticket = site.pool.lease? ticket := by
  rw [detach]
  split
  · rfl
  · dsimp only
    split <;> exact Pool.lease?_endLease_of_ne different

theorem lease?_throughLease {α : Type} {other : Nat} (different : other ≠ ticket)
    (send : Server → Session → Server × Except SessionError α) (reply : α → Pool.Reply) :
    (site.throughLease other send reply).1.pool.lease? ticket = site.pool.lease? ticket := by
  rw [throughLease]
  split
  · rfl
  · exact Pool.lease?_updateLease_of_ne different _

theorem leases_adopt (session : Session) :
    (site.adopt session).1.pool.leases = site.pool.leases := by
  rw [adopt]
  dsimp only
  split
  · rfl
  · split <;> rfl

/-! ### Sweeps -/

@[simp]
theorem leases_disposeAll (site : Site) (connections : List Connection) :
    (site.disposeAll connections).pool.leases = site.pool.leases := by
  rw [Pool.pool_disposeAll]

theorem leases_notifyMany (count : Nat) (pool : Pool) :
    (Pool.notifyMany count pool).leases = pool.leases := by
  induction count generalizing pool with
  | zero => rfl
  | succ count ih => exact ih pool.notifyOne

theorem leases_afterSweep (agent : Agent) (report : Report) :
    (site.afterSweep agent report).1.pool.leases = site.pool.leases := by
  unfold afterSweep
  split
  · rfl
  · split <;> rfl

theorem leases_commit (agent : Agent) (sweep : Sweep) :
    (site.commit agent sweep).1.pool.leases = site.pool.leases := by
  rw [commit, leases_afterSweep]
  dsimp only [withPool, Pool.count]
  rw [leases_disposeAll]
  split
  · rw [leases_disposeAll]
  · exact leases_notifyMany _ _

theorem leases_examine (agent : Agent) (sweep : Sweep) (pending : List Connection) :
    (site.examine agent sweep pending).1.pool.leases = site.pool.leases := by
  induction pending generalizing sweep with
  | nil => exact leases_commit agent sweep
  | cons connection pending ih =>
      rw [examine]
      split
      · exact ih _
      · rfl

theorem leases_sweep (agent : Agent) : (site.sweep agent).1.pool.leases = site.pool.leases := by
  rw [sweep]
  dsimp only
  split
  · exact leases_afterSweep _ _
  · rw [leases_examine]

/-! ### Opening and closing -/

theorem leases_prewarm (agent : Agent) (made : Nat) :
    (site.prewarm agent made).1.pool.leases = site.pool.leases := by
  rw [prewarm]
  split <;> rfl

theorem leases_prewarmConnected (agent : Agent) (made : Nat) (metadata : Metadata)
    (attempt : Attempt) :
    (site.prewarmConnected agent made metadata attempt).1.pool.leases = site.pool.leases := by
  rw [prewarmConnected, connected]
  rcases site.server.finishConnect attempt with ⟨server, error | session⟩
  · rfl
  · exact leases_prewarm _ _

theorem leases_drain (thenDrop : Bool) :
    (site.drain thenDrop).1.pool.leases = site.pool.leases := by
  rw [drain]
  exact leases_disposeAll _ _

theorem leases_shutdown (agent : Agent) (thenDrop : Bool) :
    (site.shutdown agent thenDrop).1.pool.leases = site.pool.leases := by
  rw [shutdown]
  split
  · rfl
  · dsimp only
    split
    · rfl
    · exact leases_drain thenDrop

/-! ### Turns of others -/

theorem lease?_congr {before after : Pool} (leases : after.leases = before.leases) :
    after.lease? ticket = before.lease? ticket := by
  rw [Pool.lease?, leases, Pool.lease?]

/-- A call that is not made through a ticket leaves its lease alone. -/
theorem lease?_work {caller : Nat} {job : Job} (apart : job.isCheckout = true → caller ≠ ticket)
    (different : job.ticket? ≠ some ticket) :
    (job.work caller site).1.pool.lease? ticket = site.pool.lease? ticket := by
  have other {given : Nat} (through : job.ticket? = some given) : given ≠ ticket := by
    rintro rfl
    exact different through
  cases job with
  | acquire timeout => exact lease?_checkout (apart rfl) _
  | get => exact lease?_checkout (apart rfl) _
  | tryGet => exact lease?_checkout (apart rfl) _
  | adopt session => exact lease?_congr (leases_adopt session)
  | sweep => exact lease?_congr (leases_sweep _)
  | shutdown thenDrop => exact lease?_congr (leases_shutdown _ thenDrop)
  | release given =>
      change (site.release (.caller caller) given).1.pool.lease? ticket = _
      rw [release]
      split
      · rfl
      · exact lease?_takeBack_endLease (other rfl) _ _
  | invalidate given =>
      change (site.invalidate (.caller caller) given).1.pool.lease? ticket = _
      rw [invalidate]
      split
      · rfl
      · exact lease?_takeBack_endLease (other rfl) _ _
  | discard given =>
      change (site.discard (.caller caller) given).1.pool.lease? ticket = _
      rw [discard]
      split
      · rfl
      · exact lease?_takeBack_endLease (other rfl) _ _
  | detach given => exact lease?_detach (other rfl)
  | execute given statement => exact lease?_throughLease (other rfl) _ _
  | query given statement => exact lease?_throughLease (other rfl) _ _

/-- So does an agent that goes on, unless it looks for a connection on behalf of the call. -/
theorem lease?_resume {agent : Agent}
    (apart : ∀ task, site.pool.task? agent = some task → task.IsApart ticket) :
    (site.resume agent).1.pool.lease? ticket = site.pool.lease? ticket := by
  rw [resume]
  split
  case h_2 => rfl
  case h_1 task found =>
    split
    case isFalse => rfl
    case isTrue =>
      have other := apart task found
      obtain ⟨worker, phase, due⟩ := task
      cases phase with
      | prewarming made metadata attempt => exact lease?_congr (leases_prewarmConnected _ _ _ _)
      | connecting checkout metadata attempt =>
          exact lease?_checkoutConnected (other checkout rfl) _ _
      | borrowProbe checkout connection => exact lease?_borrowProbed (other checkout rfl) _
      | waiting checkout notified => exact lease?_seek (other checkout rfl)
      | returnProbe connection => exact lease?_congr (leases_returnProbed connection)
      | sweeping sweep connection pending =>
          apply lease?_congr
          rw [proceed, sweepProbed]
          split <;> exact leases_examine _ _ _
      | resting =>
          apply lease?_congr
          rw [proceed, wake]
          split
          · rfl
          · exact leases_sweep _
      | joining thenDrop => exact lease?_congr (leases_drain thenDrop)

end Site

namespace World

open Pool (Agent Job Task Sound Rule)

variable {world : World} {index ticket : Nat} {pool after : Pool} {move : Move}
  {event : Option Event}

/-- The handle through which a call goes. -/
def Request.handle? : Request → Option Handle
  | .release handle | .invalidate handle | .discard handle | .detach handle
  | .execute handle _ | .query handle _ => some handle
  | .probe (.lease handle) | .executeDirectly (.lease handle) _
  | .queryDirectly (.lease handle) _ | .disconnect (.lease handle) => some handle
  | _ => none

/-- The handle through which somebody works. -/
def Move.handle? : Move → Option Handle
  | .act (.call request) => request.handle?
  | _ => none

/-- What a call asks of a pool through a ticket it asks through the handle. -/
theorem Request.handle?_of_asks {request : Request} {job : Job}
    (asks : request.asks? world = some (index, job)) (through : job.ticket? = some ticket) :
    request.handle? = some ⟨index, ticket⟩ := by
  cases request with
  | adopt place id =>
      obtain ⟨session, _, same⟩ := Option.map_eq_some_iff.mp asks
      cases same
      cases through
  | _ => cases asks <;> cases through <;> rfl

/-- Nobody begins to look for a connection on behalf of a call that is over. -/
theorem Happens.spent (happens : world.Happens index pool move after event)
    (spent : pool.Spent world.callers ticket) :
    after.Spent (world.move move).callers ticket where
  called := Nat.lt_of_lt_of_le spent.called (affects_move world move).callers_le
  apart := by
    have rule {checkout? : Option Pool.Checkout}
        (other : ∀ checkout, checkout? = some checkout → checkout.caller ≠ ticket) :
        Rule (Task.IsApart ticket) pool.config world.now checkout? := by
      refine ⟨fun task before checkout inside => before checkout ?_, ?_⟩
      · rwa [Task.checkout?_notify] at inside
      · intro task _ same _ checkout inside
        exact other checkout (same ▸ inside)
    refine ⟨rfl, (happens.all spent.apart (rule nofun) ?_ ?_).2⟩
    · intro patience
      apply rule
      rintro _ ⟨⟩
      exact Nat.ne_of_gt spent.called
    · exact fun task present => rule (spent.apart.2 task present)

/-- Whatever is not done through the ticket leaves its lease alone. -/
theorem Happens.lease?_eq (happens : world.Happens index pool move after event)
    (spent : pool.Spent world.callers ticket) (other : move.handle? ≠ some ⟨index, ticket⟩) :
    after.lease? ticket = pool.lease? ticket := by
  cases happens with
  | nothing elsewhere => rfl
  | calls accepted asks =>
      apply Site.lease?_work fun _ => Nat.ne_of_gt spent.called
      intro through
      exact other (Request.handle?_of_asks asks through)
  | resumes agent => exact Site.lease?_resume fun task found => spent.isApart found
  | puts given session closes elsewhere =>
      have different : given ≠ ticket := by
        rintro rfl
        exact other rfl
      rw [Pool.putSession]
      split
      · exact Pool.lease?_updateLease_of_ne different _
      · rfl
  | reorders tasks =>
      rw [Pool.reorder]
      split <;> rfl
  | stirs => rfl

end World

end SessionPool

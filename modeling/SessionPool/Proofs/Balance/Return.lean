import SessionPool.Pool.Return
import SessionPool.Proofs.Balance.Basic

/-!
# Returns keep the balance

A lease that ends hands its connection to the agent that takes it back; the number stays active
until the pool has decided what becomes of the connection. Where the pool is gone, nobody counts any
more.
-/

namespace SessionPool.Pool

/-- What an agent holds that takes a connection back. -/
@[simp]
def Agent.returning (agent : Agent) (connection : Connection) : Holding :=
  (Phase.returnProbe connection).holding + agent.holding

theorem returning_holdings (tasks : List Task) :
    (Task.holdings tasks).returning = tasks.countP Task.isReturning := by
  apply Task.countP_holdings (·.returning) rfl fun _ _ => rfl
  rintro ⟨agent, phase, due⟩
  cases phase <;> rfl

/-- A pool that has been let go of is present as long as somebody brings a connection back. -/
theorem isPresent_iff {pool : Pool} :
    pool.isPresent = true ↔ pool.dropped = false ∨ 0 < (Task.holdings pool.tasks).returning := by
  rw [returning_holdings, List.countP_pos_iff, isPresent, Bool.or_eq_true, List.any_eq_true]
  simp

/-- The lease that is found is the one that ends. -/
theorem leases_perm {pool : Pool} {ticket : Nat} {lease : Lease}
    (found : pool.lease? ticket = some lease) :
    pool.leases.Perm (lease :: (pool.endLease ticket).leases) :=
  perm_cons_eraseP found

namespace Balanced

variable {callers : Nat} {site : Site} {agent : Agent} {connection : Connection}

/-! ### The end of a lease -/

/-- A lease that ends passes its connection on. -/
theorem passLease {pool : Pool} {lease : Lease} {later : List Lease}
    (balanced : Balanced callers pool agent.holding) (perm : pool.leases.Perm (lease :: later))
    (same : connection.id = lease.connection.id) (present : pool.isPresent = true) :
    Balanced callers { pool with leases := later } (agent.returning connection) := by
  obtain ⟨books, proper⟩ := balanced
  refine ⟨{ books with lent_le := ?_, le_lent := ?_, agents_le := ?_ }, proper⟩
  · intro id
    have lent := books.lent_le id
    have counted := (perm.map (·.connection.id)).count_eq id
    simp [← same, List.count_cons] at lent counted ⊢
    omega
  · intro _ id
    have lent := books.le_lent (by simpa using isPresent_iff.mp present) id
    have counted := (perm.map (·.connection.id)).count_eq id
    simp [← same, List.count_cons] at lent counted ⊢
    omega
  · intro other
    have agents := books.agents_le other
    have counted := (perm.map (Agent.caller ·.ticket)).count_eq other
    simp [List.count_cons] at agents counted ⊢
    omega

/-- Where the pool is gone, a lease ends without anybody taking note. -/
theorem forgetLease {pool : Pool} {lease : Lease} {later : List Lease}
    (balanced : Balanced callers pool agent.holding) (perm : pool.leases.Perm (lease :: later))
    (absent : pool.isPresent = false) : Balanced callers { pool with leases := later } 0 := by
  obtain ⟨books, proper⟩ := balanced
  refine ⟨{ books with lent_le := ?_, le_lent := ?_, agents_le := ?_ }, proper⟩
  · intro id
    have lent := books.lent_le id
    have counted := (perm.map (·.connection.id)).count_eq id
    simp [List.count_cons] at lent counted ⊢
    omega
  · intro present
    have here : pool.isPresent = true := isPresent_iff.mpr (by simpa using present)
    rw [absent] at here
    contradiction
  · intro other
    have agents := books.agents_le other
    have counted := (perm.map (Agent.caller ·.ticket)).count_eq other
    simp [List.count_cons] at agents counted ⊢
    omega

/-! ### What becomes of a returned connection -/

/-- Nobody sleeps in a pool that is shut down, so nobody has to be told. -/
theorem unowed {pool : Pool} {held : Holding} {count : Nat}
    (balanced : Balanced callers pool (held + Holding.look count))
    (shutdown : pool.isShutdown = true) : Balanced callers pool held := by
  obtain ⟨books, proper⟩ := balanced
  refine ⟨{ books with free_le_looks := ?_ }, proper⟩
  intro asleep
  have awake := books.awake shutdown
  simp at asleep awake
  omega

/-- A connection that has come back is active until the pool has decided. -/
theorem active_of_returning {pool : Pool} {held : Holding}
    (balanced : Balanced callers pool ((Phase.returnProbe connection).holding + held)) :
    connection.id ∈ pool.active := by
  have lent := balanced.books.lent_le connection.id
  simp at lent
  exact List.count_pos_iff.mp (by omega)

/-- A connection that has come back and is not kept gives its place back. -/
theorem discard {pool : Pool} (balanced : Balanced callers pool (agent.returning connection)) :
    Balanced callers
      { pool with active := pool.active.erase connection.id, total := pool.total - 1 }
      (agent.holding + Holding.look 1) := by
  have active := balanced.active_of_returning
  obtain ⟨books, proper⟩ := balanced
  have shorter := List.length_erase_of_mem active
  have someActive := List.length_pos_of_mem active
  refine ⟨{ books with
    total_eq := ?_, total_le := ?_, lent_le := ?_, le_lent := ?_, free_le_looks := ?_
    agents_le := ?_ }, proper⟩
  · have total := books.total_eq
    simp at total ⊢
    omega
  · exact Nat.le_trans (Nat.sub_le _ _) books.total_le
  · intro id
    have lent := books.lent_le id
    have erased := count_erase_add_singleton active id
    simp at lent ⊢
    omega
  · intro present id
    have lent := books.le_lent (by simp) id
    have erased := count_erase_add_singleton active id
    simp at lent ⊢
    omega
  · intro asleep
    have looks := books.free_le_looks
    have total := books.total_le
    simp at asleep looks ⊢
    omega
  · intro other
    simpa using books.agents_le other

/-- A connection that has come back and is kept is idle again. -/
theorem keep {pool : Pool} (balanced : Balanced callers pool (agent.returning connection))
    (running : pool.isShutdown = false) :
    Balanced callers
      { pool with
        active := pool.active.erase connection.id
        idle := pool.idle ++ [connection] }
      (agent.holding + Holding.look 1) := by
  have active := balanced.active_of_returning
  obtain ⟨books, proper⟩ := balanced
  have shorter := List.length_erase_of_mem active
  have someActive := List.length_pos_of_mem active
  refine ⟨{ books with
    total_eq := ?_, lent_le := ?_, le_lent := ?_, free_le_looks := ?_, idle_eq := ?_
    agents_le := ?_ }, proper⟩
  · have total := books.total_eq
    simp at total ⊢
    omega
  · intro id
    have lent := books.lent_le id
    have erased := count_erase_add_singleton active id
    simp at lent ⊢
    omega
  · intro present id
    have lent := books.le_lent (by simp) id
    have erased := count_erase_add_singleton active id
    simp at lent ⊢
    omega
  · intro asleep
    have looks := books.free_le_looks
    simp at asleep looks ⊢
    omega
  · intro shutdown
    rw [running] at shutdown
    contradiction
  · intro other
    simpa using books.agents_le other

theorem requeue (site : Site)
    (balanced : Balanced callers site.pool (agent.returning connection)) (healthy : Bool) :
    Balanced callers (site.requeue connection healthy).1.pool 0 := by
  have active := balanced.active_of_returning
  have discarded := balanced.discard
  unfold Site.requeue
  dsimp only
  rw [if_neg (by simpa using active)]
  split
  case isTrue shutdown => exact (discarded.unowed shutdown).finish.count (·.closed)
  case isFalse running =>
    split
    · exact (discarded.notifyOne (by simp)).finish.count (·.closed)
    · exact ((balanced.keep (by simpa using running)).notifyOne (by simp)).finish

theorem takeBack {ticket : Nat} {lease : Lease}
    (balanced : Balanced callers site.pool agent.holding)
    (found : site.pool.lease? ticket = some lease) (same : connection.id = lease.connection.id) :
    Balanced callers
      ((site.withPool (·.endLease ticket)).takeBack agent connection).1.pool 0 := by
  unfold Site.takeBack
  dsimp only
  split
  case isTrue absent =>
    rw [Bool.not_eq_true'] at absent
    exact balanced.forgetLease (leases_perm found) absent
  case isFalse present =>
    rw [Bool.not_eq_true', Bool.not_eq_false] at present
    have returning : Balanced callers (site.pool.endLease ticket)
        (agent.returning (connection.touch site.now)) :=
      balanced.passLease (leases_perm found) same present
    split
    · split
      · exact returning.park ⟨agent, .returnProbe _, _⟩ trivial
      · exact returning.requeue (site.withPool _) true
    · exact returning.requeue (site.withPool _) false

theorem returnProbed (balanced : Balanced callers site.pool (agent.returning connection)) :
    Balanced callers (site.returnProbed connection).1.pool 0 := by
  unfold Site.returnProbed
  split
  · exact balanced.requeue site true
  · have returning : Balanced callers site.pool (agent.returning connection.broken) := balanced
    exact returning.requeue site false

theorem release (balanced : Balanced callers site.pool agent.holding) (ticket : Nat) :
    Balanced callers (site.release agent ticket).1.pool 0 := by
  unfold Site.release
  split
  · exact balanced.finish
  case h_2 lease found => exact balanced.takeBack found rfl

theorem invalidate (balanced : Balanced callers site.pool agent.holding) (ticket : Nat) :
    Balanced callers (site.invalidate agent ticket).1.pool 0 := by
  unfold Site.invalidate
  split
  · exact balanced.finish
  case h_2 lease found => exact balanced.takeBack found rfl

theorem discardLease (balanced : Balanced callers site.pool agent.holding) (ticket : Nat) :
    Balanced callers (site.discard agent ticket).1.pool 0 := by
  unfold Site.discard
  split
  · exact balanced.finish
  case h_2 lease found => exact balanced.takeBack found rfl

theorem detach (balanced : Balanced callers site.pool agent.holding) (ticket : Nat) :
    Balanced callers (site.detach ticket).1.pool 0 := by
  unfold Site.detach
  split
  · exact balanced.finish
  case h_2 lease found =>
    dsimp only
    split
    case isTrue tracked =>
      obtain ⟨present, _⟩ := Bool.and_eq_true_iff.mp tracked
      have returning : Balanced callers (site.pool.endLease ticket)
          (agent.returning lease.connection) :=
        balanced.passLease (leases_perm found) rfl present
      exact (returning.discard.notifyOne (by simp)).finish
    case isFalse untracked =>
      cases present : (site.pool.endLease ticket).isPresent with
      | true =>
          have returning : Balanced callers (site.pool.endLease ticket)
              (agent.returning lease.connection) :=
            balanced.passLease (leases_perm found) rfl present
          have active := returning.active_of_returning
          simp [present] at untracked
          contradiction
      | false => exact balanced.forgetLease (leases_perm found) present

/-! ### Sessions from elsewhere -/

theorem adopt (balanced : Balanced callers site.pool agent.holding) (session : Session) :
    Balanced callers (site.adopt session).1.pool 0 := by
  unfold Site.adopt
  dsimp only
  split
  · exact balanced.finish
  case isFalse running =>
    split
    · exact balanced.finish
    case isFalse room =>
      obtain ⟨books, proper⟩ := balanced.finish
      refine notifyOne ⟨{ books with
        total_eq := ?_, total_le := ?_, free_le_looks := ?_, idle_eq := ?_ }, proper⟩ rfl
      · have total := books.total_eq
        simp at total ⊢
        omega
      · dsimp only
        omega
      · intro asleep
        have looks := books.free_le_looks
        simp at asleep looks ⊢
        omega
      · intro shutdown
        contradiction

/-! ### Statements -/

/-- No two leases have the same ticket. -/
theorem eq_of_ticket_eq {pool : Pool} {held : Holding} (balanced : Balanced callers pool held)
    {ticket : Nat} {lease other : Lease} (found : pool.lease? ticket = some lease)
    (member : other ∈ pool.leases) (same : other.ticket = ticket) : other = lease := by
  have perm := leases_perm found
  rcases List.mem_cons.mp (perm.mem_iff.mp member) with first | later
  · exact first
  · have passes : lease.ticket = ticket := by simpa using List.find?_some found
    have once := balanced.books.agents_le (.caller ticket)
    have counted := (perm.map (Agent.caller ·.ticket)).count_eq (.caller ticket)
    have again : 0 < ((pool.endLease ticket).leases.map (Agent.caller ·.ticket)).count
        (.caller ticket) := by
      rw [List.count_pos_iff]
      exact List.mem_map.mpr ⟨other, later, by rw [same]⟩
    have limit : Agent.limit callers (.caller ticket) ≤ 1 := by
      simp only [Agent.limit]
      split <;> omega
    rw [List.map_cons, List.count_cons, passes, beq_self_eq_true, if_pos rfl] at counted
    omega

/-- Putting another connection of the same number into a lease changes no number. -/
theorem updateLease {pool : Pool} {held : Holding} (balanced : Balanced callers pool held)
    {ticket : Nat} {lease : Lease} (found : pool.lease? ticket = some lease)
    (same : connection.id = lease.connection.id) :
    Balanced callers (pool.updateLease ticket connection) held := by
  have numbers : (pool.updateLease ticket connection).leases.map (·.connection.id) =
      pool.leases.map (·.connection.id) := by
    rw [Pool.updateLease, List.map_map]
    apply List.map_congr_left
    intro other member
    dsimp only [Function.comp]
    split
    case isTrue ticketEq =>
      rw [balanced.eq_of_ticket_eq found member (beq_iff_eq.mp ticketEq)]
      exact same
    case isFalse => rfl
  have tickets : (pool.updateLease ticket connection).leases.map (Agent.caller ·.ticket) =
      pool.leases.map (Agent.caller ·.ticket) := by
    rw [Pool.updateLease, List.map_map]
    apply List.map_congr_left
    intro other _
    dsimp only [Function.comp]
    split <;> rfl
  obtain ⟨books, proper⟩ := balanced
  refine ⟨{ books with lent_le := ?_, le_lent := ?_, agents_le := ?_ }, proper⟩
  · rw [numbers]
    exact books.lent_le
  · rw [numbers]
    exact books.le_lent
  · rw [tickets]
    exact books.agents_le

theorem throughLease {α : Type} (balanced : Balanced callers site.pool agent.holding)
    (ticket : Nat) (send : Server → Session → Server × Except SessionError α)
    (reply : α → Reply) :
    Balanced callers (site.throughLease ticket send reply).1.pool 0 := by
  unfold Site.throughLease
  split
  · exact balanced.finish
  case h_2 lease found =>
    apply balanced.finish.updateLease found
    unfold Site.observed
    split
    · rfl
    · split <;> rfl

end Balanced

end SessionPool.Pool

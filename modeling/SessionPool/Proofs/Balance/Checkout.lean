import SessionPool.Pool.Checkout
import SessionPool.Proofs.Balance.Basic

/-!
# Checkouts keep the balance

A caller inside a checkout holds its place in it, and a look at the pool if it was told to look or
has just arrived. The search ends with a lease, with a connection in a probe, with a reserved slot,
or with nothing, and in each case the books agree again.
-/

namespace SessionPool.Pool

/-- What a caller holds inside a checkout when it does not look any more. -/
@[simp]
def Checkout.holding (checkout : Checkout) : Holding :=
  { (0 : Holding) with checkouts := 1 } + (Agent.caller checkout.caller).holding

/-- What a caller holds inside a checkout with a connection that is about to be lent. -/
@[simp]
def Checkout.holdingOf (checkout : Checkout) (connection : Connection) : Holding :=
  (Phase.borrowProbe checkout connection).holding + (Agent.caller checkout.caller).holding

/-- What a caller holds inside a checkout that is about to look. -/
@[simp]
def Checkout.looking (checkout : Checkout) (notified : Bool) : Holding :=
  (Phase.waiting checkout notified).holding + (Agent.caller checkout.caller).holding

namespace Balanced

variable {callers : Nat} {site : Site} {checkout : Checkout} {connection : Connection}

/-- A checkout that ends with a connection turns what it holds into a lease. -/
theorem lend (site : Site)
    (balanced : Balanced callers site.pool (checkout.holdingOf connection)) :
    Balanced callers (site.lend checkout connection).1.pool 0 := by
  obtain ⟨books, proper⟩ := balanced
  refine ⟨{ books with waiting_eq := ?_, lent_le := ?_, le_lent := ?_, agents_le := ?_ }, proper⟩
  · have waiting := books.waiting_eq
    simp [Site.lend, Site.answer, Pool.count] at waiting ⊢
    omega
  · intro id
    have lent := books.lent_le id
    simp [Site.lend, Site.answer, Pool.count, List.count_cons] at lent ⊢
    omega
  · intro present id
    have lent := books.le_lent present id
    simp [Site.lend, Site.answer, Pool.count, List.count_cons] at lent ⊢
    omega
  · intro agent
    have agents := books.agents_le agent
    simp [Site.lend, Site.answer, Pool.count, List.count_cons] at agents ⊢
    omega

/-- A checkout that ends without a connection leaves nothing behind. -/
theorem leave {pool : Pool} (balanced : Balanced callers pool checkout.holding) :
    Balanced callers { pool with waiting := pool.waiting - 1 } 0 := by
  obtain ⟨books, proper⟩ := balanced
  refine ⟨{ books with waiting_eq := ?_, agents_le := ?_ }, proper⟩
  · have waiting := books.waiting_eq
    simp at waiting ⊢
    omega
  · intro agent
    have agents := books.agents_le agent
    simp at agents ⊢
    omega

theorem refuse (site : Site) (balanced : Balanced callers site.pool checkout.holding)
    (error : PoolError) :
    Balanced callers (site.refuse error).1.pool 0 :=
  balanced.leave.count (·.failed error)

theorem decline (balanced : Balanced callers site.pool checkout.holding) :
    Balanced callers site.decline.1.pool 0 :=
  balanced.leave

/-- Whoever has looked at a pool that is shut down, or in which nothing is free, need not look
again. -/
theorem looked {pool : Pool} {notified : Bool}
    (balanced : Balanced callers pool (checkout.looking notified))
    (vain : pool.isShutdown = true ∨
      pool.idle = [] ∧ pool.config.maxConnections ≤ pool.total) :
    Balanced callers pool checkout.holding := by
  obtain ⟨books, proper⟩ := balanced
  refine ⟨{ books with waiting_eq := ?_, free_le_looks := ?_, awake := ?_ }, proper⟩
  · simpa using books.waiting_eq
  · intro asleep
    simp at asleep ⊢
    rcases vain with shutdown | ⟨idle, full⟩
    · have awake := books.awake shutdown
      simp at awake
      omega
    · simp [idle]
      omega
  · intro shutdown
    have awake := books.awake shutdown
    simp at awake ⊢
    omega

/-- A caller may fall asleep where nothing is free. -/
theorem sleep {pool : Pool} (balanced : Balanced callers pool checkout.holding)
    (running : pool.isShutdown = false) (idle : pool.idle = [])
    (full : pool.config.maxConnections ≤ pool.total) (due : Option Nat) :
    Balanced callers
      (pool.park ⟨.caller checkout.caller, .waiting checkout false, due⟩) 0 := by
  obtain ⟨books, proper⟩ := balanced
  refine park ⟨.caller checkout.caller, .waiting checkout false, due⟩
    ⟨{ books with waiting_eq := ?_, free_le_looks := ?_, awake := ?_ }, proper⟩ rfl
  · simpa using books.waiting_eq
  · intro _
    simp [idle]
    omega
  · intro shutdown
    rw [running] at shutdown
    contradiction

/-! ### The search -/

/-- The first idle connection is taken for a caller. -/
theorem take {pool : Pool} {notified : Bool} {rest : List Connection}
    (balanced : Balanced callers pool (checkout.looking notified))
    (running : pool.isShutdown = false) (idle : pool.idle = connection :: rest) :
    Balanced callers { pool with idle := rest, active := connection.id :: pool.active }
      (checkout.holdingOf connection) := by
  obtain ⟨books, proper⟩ := balanced
  refine ⟨{ books with
    total_eq := ?_, waiting_eq := ?_, lent_le := ?_, le_lent := ?_, free_le_looks := ?_
    awake := ?_, idle_eq := ?_ }, proper⟩
  · have total := books.total_eq
    simp [idle] at total ⊢
    omega
  · simpa using books.waiting_eq
  · intro id
    have lent := books.lent_le id
    simp [List.count_cons] at lent ⊢
    omega
  · intro present id
    have lent := books.le_lent present id
    simp [List.count_cons] at lent ⊢
    omega
  · intro asleep
    have looks := books.free_le_looks
    cases notified <;> simp [idle] at asleep looks ⊢ <;> omega
  · intro shutdown
    rw [running] at shutdown
    contradiction
  · intro shutdown
    rw [running] at shutdown
    contradiction

/-- A slot is reserved for a connection that is to be made for a caller. -/
theorem reserve {pool : Pool} {notified : Bool}
    (balanced : Balanced callers pool (checkout.looking notified))
    (running : pool.isShutdown = false)
    (room : pool.total < pool.config.maxConnections) (metadata : Metadata) (attempt : Attempt) :
    Balanced callers { pool with total := pool.total + 1 }
      ((Phase.connecting checkout metadata attempt).holding +
        (Agent.caller checkout.caller).holding) := by
  obtain ⟨books, proper⟩ := balanced
  refine ⟨{ books with
    total_eq := ?_, total_le := ?_, waiting_eq := ?_, free_le_looks := ?_, awake := ?_ }, proper⟩
  · have total := books.total_eq
    simp at total ⊢
    omega
  · exact room
  · simpa using books.waiting_eq
  · intro asleep
    have looks := books.free_le_looks
    cases notified <;> simp at asleep looks ⊢ <;> omega
  · intro shutdown
    rw [running] at shutdown
    contradiction

/-- A connect leaves the pool with a task that holds what it was asked for. -/
theorem connect (site : Site) {agent : Agent} {phase : Metadata → Attempt → Phase}
    (balanced : ∀ metadata attempt,
      Balanced callers site.pool ((phase metadata attempt).holding + agent.holding))
    (proper : ∀ metadata attempt due, (Task.mk agent (phase metadata attempt) due).Proper) :
    Balanced callers (site.connect agent phase).1.pool 0 := by
  unfold Site.connect
  obtain ⟨books, properBefore⟩ := balanced (Metadata.new site.pool.nextId site.now)
    site.server.startConnect.2
  exact park _ ⟨{ books with }, properBefore⟩ (proper _ _ _)

theorem seek (site : Site) {notified : Bool}
    (balanced : Balanced callers site.pool (checkout.looking notified)) :
    Balanced callers (site.seek checkout).1.pool 0 := by
  unfold Site.seek
  dsimp only
  split
  case isTrue shutdown => exact (balanced.looked (.inl shutdown)).refuse site _
  case isFalse open_ =>
    have running : site.pool.isShutdown = false := by simpa using open_
    split
    case h_1 connection rest idle =>
      have taken := balanced.take running idle
      split
      · exact taken.park ⟨_, .borrowProbe checkout connection, _⟩ rfl
      · exact taken.lend { site with pool := _ }
    case h_2 idle =>
      split
      case isTrue room =>
        exact connect { site with pool := _ }
          (balanced.reserve running room) fun _ _ _ => rfl
      case isFalse full =>
        have full : site.pool.config.maxConnections ≤ site.pool.total := by omega
        have looked := balanced.looked (.inr ⟨idle, full⟩)
        split
        · exact looked.decline
        · split
          · exact looked.refuse site _
          · exact looked.sleep running idle full _
        · exact looked.sleep running idle full _

/-! ### The beginning of a checkout, and its answers -/

/-- Whoever arrives is about to look. -/
theorem arrive {pool : Pool} (checkout : Checkout)
    (balanced : Balanced callers pool (Agent.caller checkout.caller).holding) :
    Balanced callers { pool with waiting := pool.waiting + 1 } (checkout.looking true) := by
  obtain ⟨books, proper⟩ := balanced
  refine ⟨{ books with waiting_eq := ?_, free_le_looks := ?_, agents_le := ?_ }, proper⟩
  · have waiting := books.waiting_eq
    simp at waiting ⊢
    omega
  · intro asleep
    have looks := books.free_le_looks
    simp at asleep looks ⊢
    omega
  · intro agent
    have agents := books.agents_le agent
    simp at agents ⊢
    omega

theorem enter (site : Site) {caller : Nat}
    (balanced : Balanced callers site.pool (Agent.caller caller).holding)
    (patience : Patience) : Balanced callers (site.checkout caller patience).1.pool 0 := by
  unfold Site.checkout
  split
  · exact balanced.finish.count (·.failed .shutDown)
  · have arrived := arrive ⟨caller, site.now, patience⟩ balanced
    exact arrived.seek { site with pool := _ }

/-- A connection that is not lent after all gives its place back. -/
theorem unlend {pool : Pool} (balanced : Balanced callers pool (checkout.holdingOf connection)) :
    Balanced callers
      { pool with active := pool.active.erase connection.id, total := pool.total - 1 }
      (checkout.looking true) := by
  obtain ⟨books, proper⟩ := balanced
  have active : connection.id ∈ pool.active := by
    have lent := books.lent_le connection.id
    simp at lent
    exact List.count_pos_iff.mp (by omega)
  have shorter := List.length_erase_of_mem active
  have someActive := List.length_pos_of_mem active
  refine ⟨{ books with
    total_eq := ?_, total_le := ?_, waiting_eq := ?_, lent_le := ?_, le_lent := ?_
    free_le_looks := ?_, awake := ?_ }, proper⟩
  · have total := books.total_eq
    simp at total ⊢
    omega
  · exact Nat.le_trans (Nat.sub_le _ _) books.total_le
  · simpa using books.waiting_eq
  · intro id
    have lent := books.lent_le id
    have erased := count_erase_add_singleton active id
    simp at lent ⊢
    omega
  · intro present id
    have lent := books.le_lent present id
    have erased := count_erase_add_singleton active id
    simp at lent ⊢
    omega
  · intro asleep
    have looks := books.free_le_looks
    have total := books.total_le
    simp at asleep looks ⊢
    omega
  · intro shutdown
    simpa using books.awake shutdown

theorem borrowProbed (balanced : Balanced callers site.pool (checkout.holdingOf connection)) :
    Balanced callers (site.borrowProbed checkout connection).1.pool 0 := by
  unfold Site.borrowProbed
  dsimp only
  have returned := balanced.unlend.count (·.closed)
  split
  case isTrue => exact balanced.lend site
  case isFalse refused =>
    split
    case isTrue alive =>
      have shutdown : site.pool.isShutdown = true := by simpa [alive] using refused
      exact (returned.looked (.inl shutdown)).refuse (Site.dispose _ _) _
    case isFalse => exact returned.seek (Site.dispose _ _)

/-- A slot that is not used gives its place back. -/
theorem unreserve {pool : Pool} {metadata : Metadata} {attempt : Attempt}
    (balanced : Balanced callers pool
      ((Phase.connecting checkout metadata attempt).holding +
        (Agent.caller checkout.caller).holding)) :
    Balanced callers { pool with total := pool.total - 1 } (checkout.holding + Holding.look 1) := by
  obtain ⟨books, proper⟩ := balanced
  refine ⟨{ books with
    total_eq := ?_, total_le := ?_, waiting_eq := ?_, free_le_looks := ?_ }, proper⟩
  · have total := books.total_eq
    simp at total ⊢
    omega
  · exact Nat.le_trans (Nat.sub_le _ _) books.total_le
  · simpa using books.waiting_eq
  · intro asleep
    have looks := books.free_le_looks
    have total := books.total_le
    simp at asleep looks ⊢
    omega

/-- A connection that has been made for a caller takes the slot that was reserved for it. -/
theorem arriveConnected {pool : Pool} {metadata : Metadata} {attempt : Attempt}
    (balanced : Balanced callers pool
      ((Phase.connecting checkout metadata attempt).holding +
        (Agent.caller checkout.caller).holding)) :
    Balanced callers { pool with active := connection.id :: pool.active }
      (checkout.holdingOf connection) := by
  obtain ⟨books, proper⟩ := balanced
  refine ⟨{ books with total_eq := ?_, waiting_eq := ?_, lent_le := ?_, le_lent := ?_ }, proper⟩
  · have total := books.total_eq
    simp at total ⊢
    omega
  · simpa using books.waiting_eq
  · intro id
    have lent := books.lent_le id
    simp [List.count_cons] at lent ⊢
    omega
  · intro present id
    have lent := books.le_lent present id
    simp [List.count_cons] at lent ⊢
    omega

theorem checkoutConnected {metadata : Metadata} {attempt : Attempt}
    (balanced : Balanced callers site.pool
      ((Phase.connecting checkout metadata attempt).holding +
        (Agent.caller checkout.caller).holding)) :
    Balanced callers (site.checkoutConnected checkout metadata attempt).1.pool 0 := by
  unfold Site.checkoutConnected Site.connected
  rcases answer : site.server.finishConnect attempt with ⟨server, error | session⟩
  · have released := (balanced.unreserve.notifyOne (by simp))
    exact released.refuse (Site.withPool _ _) _
  · dsimp only
    have counted := balanced.count (·.created)
    split
    case isTrue shutdown =>
      have looking : Balanced callers
          { site.pool.count (·.created) with total := site.pool.total - 1 }
          (checkout.looking true) := counted.unreserve
      exact ((looking.looked (.inl shutdown)).count (·.closed)).refuse (Site.dispose _ _) _
    case isFalse =>
      exact counted.arriveConnected.lend (Site.withPool _ _)

end Balanced

end SessionPool.Pool

import SessionPool.Proofs.Balance.Run

/-!
# Turns that take no connection away

As long as the server answers well, connections are given back in a good state, and the pool is not
shut down, only a sweep takes connections out of the count of a pool. Whatever else is done may add
one, and leaves the sweeps that are under way as they are.
-/

namespace SessionPool

namespace Pool

/-! ### Sweeps under way -/

/-- Whether the agent is in the middle of a sweep. -/
def Task.isSweeping (task : Task) : Bool :=
  match task.phase with
  | .sweeping _ _ _ => true
  | _ => false

/-- The agents in the middle of a sweep. -/
def sweeps (pool : Pool) : List Task := pool.tasks.filter Task.isSweeping

theorem filter_isSweeping_notifyFirst (tasks : List Task) :
    (notifyFirst tasks).filter Task.isSweeping = tasks.filter Task.isSweeping := by
  induction tasks with
  | nil => rfl
  | cons task rest ih =>
      unfold notifyFirst
      obtain ⟨agent, phase, due⟩ := task
      cases phase with
      | waiting checkout notified =>
          cases notified <;> simp [Task.isAsleep, Task.notify, Task.isSweeping, ih]
      | _ => simp [Task.isAsleep, List.filter_cons, ih]

@[simp]
theorem sweeps_notifyOne (pool : Pool) : pool.notifyOne.sweeps = pool.sweeps :=
  filter_isSweeping_notifyFirst pool.tasks

@[simp]
theorem sweeps_notifyMany (count : Nat) (pool : Pool) :
    (notifyMany count pool).sweeps = pool.sweeps := by
  induction count generalizing pool with
  | zero => rfl
  | succ count ih => exact (ih pool.notifyOne).trans (sweeps_notifyOne pool)

@[simp]
theorem total_notifyMany (count : Nat) (pool : Pool) :
    (notifyMany count pool).total = pool.total := by
  induction count generalizing pool with
  | zero => rfl
  | succ count ih => exact ih pool.notifyOne

@[simp]
theorem config_notifyMany (count : Nat) (pool : Pool) :
    (notifyMany count pool).config = pool.config := by
  induction count generalizing pool with
  | zero => rfl
  | succ count ih => exact ih pool.notifyOne

/-- An agent that waits for something else than a sweep is no sweep. -/
theorem sweeps_park {pool : Pool} {task : Task} (other : task.isSweeping = false) :
    (pool.park task).sweeps = pool.sweeps := by
  simp [sweeps, park, other]

/-! ### What turns change -/

/-- A pool has no fewer connections than before, and the same sweeps. -/
structure Grows (before after : Pool) : Prop where
  total_le : before.total ≤ after.total
  sweeps_eq : after.sweeps = before.sweeps
  config_eq : after.config = before.config

namespace Grows

variable {before middle after : Pool}

theorem refl (pool : Pool) : Grows pool pool := ⟨Nat.le_refl _, rfl, rfl⟩

theorem trans (first : Grows before middle) (second : Grows middle after) :
    Grows before after where
  total_le := Nat.le_trans first.total_le second.total_le
  sweeps_eq := second.sweeps_eq.trans first.sweeps_eq
  config_eq := second.config_eq.trans first.config_eq

end Grows

/-- A pool has as many connections as before, goes on lending, and nobody has begun to sweep. -/
structure Rests (before after : Pool) : Prop where
  shutdown_eq : after.isShutdown = before.isShutdown
  config_eq : after.config = before.config
  total_eq : after.total = before.total
  sweeps_mem (task : Task) (present : task ∈ after.sweeps) : task ∈ before.sweeps

theorem Rests.refl (pool : Pool) : Rests pool pool := ⟨rfl, rfl, rfl, fun _ present => present⟩

theorem rests_putSession (pool : Pool) (ticket : Nat) (session : Session) :
    pool.Rests (pool.putSession ticket session) := by
  unfold putSession
  split <;> exact ⟨rfl, rfl, rfl, fun _ present => present⟩

theorem rests_reorder (pool : Pool) (tasks : List Task) : pool.Rests (pool.reorder tasks) := by
  unfold reorder
  split
  case isTrue same =>
    refine ⟨rfl, rfl, rfl, fun task present => ?_⟩
    exact ((List.isPerm_iff.mp same).filter _).mem_iff.mp present
  case isFalse => exact .refl pool

theorem rests_notifyOne (pool : Pool) : pool.Rests pool.notifyOne := by
  refine ⟨rfl, rfl, rfl, fun task present => ?_⟩
  rwa [sweeps_notifyOne] at present

/-- How many connections a sweep that is over has evicted. -/
def evictions : Option Answer → Option Nat
  | some (.ok (.swept report)) => some (report.evictedDead + report.evictedIdle)
  | _ => none

end Pool

/-- A turn that takes no connection away from a pool, as it was before, and ends no sweep. -/
structure Turn.IsMild (turn : Turn) (before : Pool) : Prop where
  grows : before.Grows turn.1.pool
  evictions_eq : Pool.evictions turn.2 = none

namespace Site

open Pool (Agent Phase Checkout Patience Grows)

variable {site : Site} {before : Pool} (grows : before.Grows site.pool)

include grows

theorem answer_isMild {answer : Pool.Answer} (other : Pool.evictions (some answer) = none) :
    (site.answer answer).IsMild before :=
  ⟨grows, other⟩

theorem wait_isMild {agent : Agent} {phase : Phase} (due : Option Nat)
    (other : (Pool.Task.mk agent phase due).isSweeping = false) :
    (site.wait agent phase due).IsMild before :=
  ⟨grows.trans ⟨Nat.le_refl _, Pool.sweeps_park other, rfl⟩, rfl⟩

theorem probe_isMild {agent : Agent} (session : Session) {phase : Phase}
    (other : ∀ due, (Pool.Task.mk agent phase due).isSweeping = false) :
    (site.probe agent session phase).IsMild before :=
  ⟨grows.trans ⟨Nat.le_refl _, Pool.sweeps_park (other _), rfl⟩, rfl⟩

theorem connect_isMild {agent : Agent} {phase : Metadata → Attempt → Phase}
    (other : ∀ metadata attempt due,
      (Pool.Task.mk agent (phase metadata attempt) due).isSweeping = false) :
    (site.connect agent phase).IsMild before :=
  ⟨grows.trans ⟨Nat.le_refl _, Pool.sweeps_park (other _ _ _), rfl⟩, rfl⟩

/-! ### Checkouts -/

theorem lend_isMild (checkout : Checkout) (connection : Connection) :
    (site.lend checkout connection).IsMild before :=
  ⟨grows.trans ⟨Nat.le_refl _, rfl, rfl⟩, rfl⟩

theorem refuse_isMild (error : PoolError) : (site.refuse error).IsMild before :=
  ⟨grows.trans ⟨Nat.le_refl _, rfl, rfl⟩, rfl⟩

theorem seek_isMild (checkout : Checkout) : (site.seek checkout).IsMild before := by
  unfold seek
  dsimp only
  split
  · exact refuse_isMild grows _
  · split
    · split
      · apply probe_isMild _ _ fun _ => rfl
        exact grows.trans ⟨Nat.le_refl _, rfl, rfl⟩
      · apply lend_isMild
        exact grows.trans ⟨Nat.le_refl _, rfl, rfl⟩
    · split
      · apply connect_isMild _ fun _ _ _ => rfl
        exact grows.trans ⟨Nat.le_succ _, rfl, rfl⟩
      · split
        · exact ⟨grows.trans ⟨Nat.le_refl _, rfl, rfl⟩, rfl⟩
        · split
          · exact refuse_isMild grows _
          · exact wait_isMild grows _ rfl
        · exact wait_isMild grows _ rfl

theorem checkout_isMild (caller : Nat) (patience : Patience) :
    (site.checkout caller patience).IsMild before := by
  unfold checkout
  split
  · exact ⟨grows.trans ⟨Nat.le_refl _, rfl, rfl⟩, rfl⟩
  · apply seek_isMild
    exact grows.trans ⟨Nat.le_refl _, rfl, rfl⟩

theorem borrowProbed_isMild (running : site.pool.isShutdown = false) (checkout : Checkout)
    {connection : Connection} (alive : site.server.answers connection.session = true) :
    (site.borrowProbed checkout connection).IsMild before := by
  unfold borrowProbed
  simp only [alive, running, Bool.not_false, Bool.and_self, if_true]
  exact lend_isMild grows checkout connection

theorem checkoutConnected_isMild (running : site.pool.isShutdown = false) (checkout : Checkout)
    (metadata : Metadata) {attempt : Attempt}
    (succeeds : (site.server.finishConnect attempt).2.isOk = true) :
    (site.checkoutConnected checkout metadata attempt).IsMild before := by
  unfold checkoutConnected connected
  rcases answer : site.server.finishConnect attempt with ⟨server, error | session⟩
  · rw [answer] at succeeds
    contradiction
  · simp only [Pool.count, running]
    apply lend_isMild
    exact grows.trans ⟨Nat.le_refl _, rfl, rfl⟩

/-! ### Returns -/

theorem requeue_isMild (running : site.pool.isShutdown = false) (connection : Connection) :
    (site.requeue connection true).IsMild before := by
  unfold requeue
  simp only [running, Bool.not_true]
  split
  · exact ⟨grows.trans ⟨Nat.le_refl _, rfl, rfl⟩, rfl⟩
  · exact ⟨grows.trans ⟨Nat.le_refl _, Pool.sweeps_notifyOne _, rfl⟩, rfl⟩

theorem takeBack_isMild (running : site.pool.isShutdown = false) (agent : Agent)
    {connection : Connection} (sound : connection.isReusable = true) :
    (site.takeBack agent connection).IsMild before := by
  unfold takeBack
  simp only [Connection.isReusable_touch, sound, running, Bool.not_false, Bool.and_self, if_true]
  split
  · exact ⟨grows.trans ⟨Nat.le_refl _, rfl, rfl⟩, rfl⟩
  · split
    · exact probe_isMild grows _ fun _ => rfl
    · exact requeue_isMild grows running _

theorem returnProbed_isMild (running : site.pool.isShutdown = false) {connection : Connection}
    (alive : site.server.answers connection.session = true) :
    (site.returnProbed connection).IsMild before := by
  unfold returnProbed
  simp only [alive, if_true]
  exact requeue_isMild grows running connection

theorem release_isMild (running : site.pool.isShutdown = false) (agent : Agent) (ticket : Nat)
    (sound : ∀ lease ∈ site.pool.leases, lease.connection.isReusable = true) :
    (site.release agent ticket).IsMild before := by
  unfold release
  split
  · exact answer_isMild grows rfl
  case h_2 lease found =>
    apply takeBack_isMild
    · exact grows.trans ⟨Nat.le_refl _, rfl, rfl⟩
    · exact running
    · exact sound lease (List.mem_of_find?_eq_some found)

theorem discard_isMild (running : site.pool.isShutdown = false) (agent : Agent) (ticket : Nat)
    (sound : ∀ lease ∈ site.pool.leases, lease.connection.isReusable = true) :
    (site.discard agent ticket).IsMild before := by
  unfold discard
  split
  · exact answer_isMild grows rfl
  case h_2 lease found =>
    apply takeBack_isMild
    · exact grows.trans ⟨Nat.le_refl _, rfl, rfl⟩
    · exact running
    · exact sound lease (List.mem_of_find?_eq_some found)

theorem adopt_isMild (session : Session) : (site.adopt session).IsMild before := by
  unfold adopt
  dsimp only
  split
  · exact ⟨grows, rfl⟩
  · split
    · exact ⟨grows, rfl⟩
    · exact ⟨grows.trans ⟨Nat.le_succ _, Pool.sweeps_notifyOne _, rfl⟩, rfl⟩

theorem throughLease_isMild {α : Type} (ticket : Nat)
    (send : Server → Session → Server × Except SessionError α) {reply : α → Pool.Reply}
    (other : ∀ rows, Pool.evictions (some (.ok (reply rows))) = none) :
    (site.throughLease ticket send reply).IsMild before := by
  unfold throughLease
  split
  · exact answer_isMild grows rfl
  · dsimp only
    split
    · apply answer_isMild _ (other _)
      exact grows.trans ⟨Nat.le_refl _, rfl, rfl⟩
    · apply answer_isMild _ rfl
      exact grows.trans ⟨Nat.le_refl _, rfl, rfl⟩

end Site

end SessionPool

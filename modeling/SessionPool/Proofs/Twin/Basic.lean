import SessionPool.Proofs.Moves

/-!
# Twins of a pool

Two pools are twins if they differ at most in how long one caller is ready to wait, and in how many
calls have been counted as timed out. What an agent can see of a pool is the same in both, and what
it does to one of them it does to the other.
-/

namespace SessionPool

open Pool (Agent Phase Task Checkout Patience Counters)

/-- How a pool differs from its twin. Where the caller would not wait at all, it would wait until
the deadline in the twin, and there `late` more calls have been counted as timed out. -/
structure Twin where
  caller : Nat
  deadline : Nat
  late : Nat

namespace Twin

variable (twin : Twin)

/-! ### What differs -/

/-- The patience of the caller in the twin, and the other way round. -/
def patience : Patience → Patience
  | .never => .upTo twin.deadline
  | .upTo deadline => if deadline = twin.deadline then .never else .upTo deadline
  | .endless => .endless

def checkout (checkout : Checkout) : Checkout :=
  if checkout.caller = twin.caller then
    { checkout with patience := twin.patience checkout.patience }
  else checkout

def phase : Phase → Phase
  | .connecting checkout metadata attempt => .connecting (twin.checkout checkout) metadata attempt
  | .borrowProbe checkout connection => .borrowProbe (twin.checkout checkout) connection
  | .waiting checkout notified => .waiting (twin.checkout checkout) notified
  | phase => phase

def task (task : Task) : Task := { task with phase := twin.phase task.phase }

def counters (counters : Counters) : Counters :=
  { counters with
    checkoutsFailed := counters.checkoutsFailed + twin.late
    timeouts := counters.timeouts + twin.late }

/-- The twin of a pool. -/
def pool (pool : Pool) : Pool :=
  { pool with
    tasks := pool.tasks.map twin.task
    counters := twin.counters pool.counters }

/-- The twin of a pool at work. The clock and the server are the same. -/
def site (site : Site) : Site := { site with pool := twin.pool site.pool }

/-- A turn in the twin that is over in the same way. -/
def turn (turn : Turn) : Turn := (twin.site turn.1, turn.2)

/-! ### Twins of twins -/

theorem patience_patience (given : Patience) : twin.patience (twin.patience given) = given := by
  cases given with
  | never => exact if_pos rfl
  | endless => rfl
  | upTo deadline =>
      by_cases same : deadline = twin.deadline
      · rw [patience, if_pos same, same]
        rfl
      · rw [patience, if_neg same]
        exact if_neg same

theorem checkout_checkout (given : Checkout) : twin.checkout (twin.checkout given) = given := by
  by_cases own : given.caller = twin.caller
  · rw [checkout, checkout, if_pos own, if_pos own, patience_patience]
  · rw [checkout, checkout, if_neg own, if_neg own]

theorem task_task (given : Task) : twin.task (twin.task given) = given := by
  obtain ⟨agent, phase, due⟩ := given
  cases phase <;> simp [task, phase, checkout_checkout]

/-- Whoever else is inside a checkout is so in the twin as well. -/
theorem checkout_eq_self {given : Checkout} (other : given.caller ≠ twin.caller) :
    twin.checkout given = given :=
  if_neg other

theorem caller_checkout (given : Checkout) : (twin.checkout given).caller = given.caller := by
  rw [checkout]
  split <;> rfl

/-! ### What agents see of a task -/

section Task

variable (given : Task)

theorem isAsleep_task : (twin.task given).isAsleep = given.isAsleep := by
  obtain ⟨agent, phase, due⟩ := given
  cases phase <;> rfl

theorem isWaiting_task : (twin.task given).isWaiting = given.isWaiting := by
  obtain ⟨agent, phase, due⟩ := given
  cases phase <;> rfl

theorem isReturning_task : (twin.task given).isReturning = given.isReturning := by
  obtain ⟨agent, phase, due⟩ := given
  cases phase <;> rfl

theorem isPrewarming_task : (twin.task given).isPrewarming = given.isPrewarming := by
  obtain ⟨agent, phase, due⟩ := given
  cases phase <;> rfl

theorem isJoining_task (thenDrop : Bool) :
    ((twin.task given).phase == .joining thenDrop) = (given.phase == .joining thenDrop) := by
  obtain ⟨agent, phase, due⟩ := given
  cases phase <;> rfl

theorem notify_task : (twin.task given).notify = twin.task given.notify := by
  obtain ⟨agent, phase, due⟩ := given
  cases phase <;> rfl

end Task

/-! ### What agents see of a pool -/

section Pool

variable (given : Pool)

theorem hasChecker_pool : (twin.pool given).hasChecker = given.hasChecker := by
  rw [Pool.hasChecker, Pool.hasChecker, pool, List.any_map]
  rfl

theorem isWoken_pool (waits : Task) :
    (twin.pool given).isWoken (twin.task waits) = given.isWoken waits := by
  obtain ⟨agent, phase, due⟩ := waits
  cases phase with
  | joining thenDrop => exact congrArg not (twin.hasChecker_pool given)
  | _ => rfl

theorem isReady_pool (now : Nat) (waits : Task) :
    (twin.pool given).isReady now (twin.task waits) = given.isReady now waits := by
  rw [Pool.isReady, isWoken_pool]
  rfl

theorem isOpen_pool : (twin.pool given).isOpen = given.isOpen := by
  rw [Pool.isOpen, Pool.isOpen, pool, List.any_map]
  simp only [Function.comp_def, isPrewarming_task, isJoining_task]

theorem isPresent_pool : (twin.pool given).isPresent = given.isPresent := by
  rw [Pool.isPresent, Pool.isPresent, pool, List.any_map]
  simp only [Function.comp_def, isReturning_task]

theorem isDroppable_pool : (twin.pool given).isDroppable = given.isDroppable := by
  rw [Pool.isDroppable, Pool.isDroppable, isOpen_pool, pool, List.all_map]
  simp only [Function.comp_def, isReturning_task]
  rfl

theorem task?_pool (agent : Agent) :
    (twin.pool given).task? agent = (given.task? agent).map twin.task := by
  rw [Pool.task?, Pool.task?, pool, List.find?_map]
  rfl

/-! ### What agents do to a pool -/

theorem park_pool (waits : Task) :
    (twin.pool given).park (twin.task waits) = twin.pool (given.park waits) := by
  simp [Pool.park, pool]

theorem unpark_pool (agent : Agent) :
    (twin.pool given).unpark agent = twin.pool (given.unpark agent) := by
  simp only [Pool.unpark, pool, List.eraseP_map]
  rfl

theorem notifyOne_pool : (twin.pool given).notifyOne = twin.pool given.notifyOne := by
  have told (tasks : List Task) :
      Pool.notifyFirst (tasks.map twin.task) = (Pool.notifyFirst tasks).map twin.task := by
    induction tasks with
    | nil => rfl
    | cons first rest ih =>
        rw [List.map_cons, Pool.notifyFirst, Pool.notifyFirst, isAsleep_task, ih, notify_task]
        split <;> rfl
  rw [Pool.notifyOne, Pool.notifyOne, pool, told]
  rfl

theorem notifyMany_pool (count : Nat) :
    Pool.notifyMany count (twin.pool given) = twin.pool (Pool.notifyMany count given) := by
  induction count generalizing given with
  | zero => rfl
  | succ count ih =>
      rw [Pool.notifyMany, notifyOne_pool, ih]
      rfl

theorem notifyAll_pool : (twin.pool given).notifyAll = twin.pool given.notifyAll := by
  simp only [Pool.notifyAll, pool, List.map_map]
  congr 1
  exact List.map_congr_left fun waits _ => twin.notify_task waits

theorem reorder_pool (tasks : List Task) :
    (twin.pool given).reorder (tasks.map twin.task) = twin.pool (given.reorder tasks) := by
  have same : (tasks.map twin.task).isPerm (given.tasks.map twin.task) =
      tasks.isPerm given.tasks := by
    apply Bool.eq_iff_iff.mpr
    rw [List.isPerm_iff, List.isPerm_iff]
    constructor
    · intro perm
      simpa [Function.comp_def, task_task] using perm.map twin.task
    · exact fun perm => perm.map twin.task
  rw [Pool.reorder, Pool.reorder]
  change (if (tasks.map twin.task).isPerm (given.tasks.map twin.task) = true then _ else _) = _
  rw [same]
  split <;> rfl

theorem putSession_pool (ticket : Nat) (session : Session) :
    (twin.pool given).putSession ticket session = twin.pool (given.putSession ticket session) := by
  have same : (twin.pool given).lease? ticket = given.lease? ticket := rfl
  rw [Pool.putSession, Pool.putSession, same]
  split <;> rfl

end Pool

/-! ### What is counted -/

theorem counters_failed (given : Counters) (error : PoolError) :
    twin.counters (given.failed error) = (twin.counters given).failed error := by
  cases error <;> simp [counters, Counters.failed, Nat.add_right_comm]

end Twin

end SessionPool

import SessionPool.Proofs.Effects
import SessionPool.Proofs.Balance.Run

/-!
# What agents wait for

Between two turns an agent is known by its task. A turn leaves the tasks of all other agents as they
are, except that some of them may be told to look again, and adds at most one, of an agent that
begins to wait now. So whatever is true of tasks that begin, and is not changed by telling, is true
of all of them: whoever has asked the server has a time at which the answer comes, and as long as
time passes only when nobody can go on, no such time is missed.
-/

namespace SessionPool

namespace Pool

namespace Task

/-- The checkout in the middle of which an agent waits. -/
def checkout? (task : Task) : Option Checkout :=
  match task.phase with
  | .connecting checkout _ _ | .borrowProbe checkout _ | .waiting checkout _ => some checkout
  | _ => none

/-- Whether the agent waits for an answer of the server. -/
def isAnswered (task : Task) : Bool :=
  match task.phase with
  | .prewarming _ _ _ | .connecting _ _ _ | .borrowProbe _ _ | .returnProbe _
  | .sweeping _ _ _ => true
  | _ => false

/-- Whether a connection is being probed that is about to be lent. -/
def isBorrowing (task : Task) : Bool :=
  match task.phase with
  | .borrowProbe _ _ => true
  | _ => false

/-- The agent waits for nothing that was over at `now`, and it waits for the right time. -/
structure Timely (now : Nat) (task : Task) : Prop where
  now_le (due : Nat) (dueEq : task.due = some due) : now ≤ due
  /-- An answer of the server comes at a known time. -/
  answered (waits : task.isAnswered = true) : ∃ due, task.due = some due
  /-- A caller sleeps until its deadline. -/
  waiting (checkout : Checkout) (notified : Bool)
    (phase : task.phase = .waiting checkout notified) : task.due = checkout.patience.deadline?

variable {now : Nat} {task : Task}

@[simp]
theorem checkout?_notify : task.notify.checkout? = task.checkout? := by
  obtain ⟨agent, phase, due⟩ := task
  cases phase <;> rfl

@[simp]
theorem isBorrowing_notify (task : Task) : task.notify.isBorrowing = task.isBorrowing := by
  obtain ⟨agent, phase, due⟩ := task
  cases phase <;> rfl

theorem Timely.notify (timely : task.Timely now) : task.notify.Timely now := by
  obtain ⟨agent, phase, due⟩ := task
  cases phase with
  | waiting checkout notified =>
      refine { timely with waiting := ?_ }
      rintro _ _ ⟨⟩
      exact timely.waiting checkout notified rfl
  | _ => exact timely

theorem Timely.mono {earlier : Nat} (timely : task.Timely now) (le : earlier ≤ now) :
    task.Timely earlier :=
  { timely with now_le := fun due dueEq => Nat.le_trans le (timely.now_le due dueEq) }

/-- An agent that has asked the server waits for the answer. -/
theorem timely_answered {agent : Agent} {phase : Phase} {due : Nat} (le : now ≤ due)
    (answered : (Task.mk agent phase (some due)).isAnswered = true) :
    (Task.mk agent phase (some due)).Timely now := by
  constructor
  · rintro _ ⟨⟩
    exact le
  · intro _
    exact ⟨due, rfl⟩
  · rintro checkout notified rfl
    contradiction

end Task

/-- The pool has these settings, and all agents that wait are such. -/
def All (config : Config) (P : Task → Prop) (pool : Pool) : Prop :=
  pool.config = config ∧ ∀ task ∈ pool.tasks, P task

/-- What is true of tasks that begin at `now` for the sake of a checkout, or of none, and is not
changed by telling. -/
structure Rule (P : Task → Prop) (config : Config) (now : Nat) (checkout? : Option Checkout) :
    Prop where
  told (task : Task) (before : P task) : P task.notify
  begun (task : Task) (timely : task.Timely now) (same : task.checkout? = checkout?)
    (tests : task.isBorrowing = true → config.testOnBorrow = true) : P task

/-- Only the probe of a connection that is about to be lent depends on the settings. -/
theorem Rule.begunOther {P : Task → Prop} {config : Config} {now : Nat}
    {checkout? : Option Checkout} (rule : Rule P config now checkout?) {task : Task}
    (timely : task.Timely now) (same : task.checkout? = checkout?)
    (other : task.isBorrowing = false) : P task := by
  apply rule.begun task timely same
  intro borrows
  rw [other] at borrows
  contradiction

theorem Rule.timely {earlier now : Nat} (le : earlier ≤ now) (config : Config)
    (checkout? : Option Checkout) : Rule (Task.Timely earlier) config now checkout? where
  told _ before := before.notify
  begun _ timely _ _ := timely.mono le

theorem Rule.tests (config : Config) (now : Nat) (checkout? : Option Checkout) :
    Rule (fun task => task.isBorrowing = true → config.testOnBorrow = true) config now checkout?
    where
  told task before borrows := before (task.isBorrowing_notify ▸ borrows)
  begun _ _ _ tests := tests

namespace All

/-- Nobody waits in a new pool. -/
theorem new (config : Config) (now : Nat) (P : Task → Prop) : (Pool.new config now).All config P :=
  ⟨rfl, fun _ absent => absurd absent List.not_mem_nil⟩

variable {config : Config} {P : Task → Prop} {pool : Pool} (all : pool.All config P)

include all

theorem park {task : Task} (new : P task) : (pool.park task).All config P := by
  refine ⟨all.1, ?_⟩
  intro other present
  rcases List.mem_append.mp present with old | last
  · exact all.2 other old
  · rw [List.mem_singleton.mp last]
    exact new

theorem unpark (agent : Agent) : (pool.unpark agent).All config P :=
  ⟨all.1, fun task present => all.2 task (List.mem_of_mem_eraseP present)⟩

theorem notifyOne (told : ∀ task, P task → P task.notify) : pool.notifyOne.All config P := by
  have first {tasks : List Task} (all : ∀ task ∈ tasks, P task) :
      ∀ task ∈ notifyFirst tasks, P task := by
    induction tasks with
    | nil => exact all
    | cons task rest ih =>
        obtain ⟨here, later⟩ := List.forall_mem_cons.mp all
        rw [notifyFirst]
        split
        · exact List.forall_mem_cons.mpr ⟨told task here, later⟩
        · exact List.forall_mem_cons.mpr ⟨here, ih later⟩
  exact ⟨all.1, first all.2⟩

theorem notifyMany (told : ∀ task, P task → P task.notify) (count : Nat) :
    (Pool.notifyMany count pool).All config P := by
  induction count generalizing pool with
  | zero => exact all
  | succ count ih => exact ih (all.notifyOne told)

theorem notifyAll (told : ∀ task, P task → P task.notify) : pool.notifyAll.All config P := by
  refine ⟨all.1, ?_⟩
  intro task present
  obtain ⟨old, before, rfl⟩ := List.mem_map.mp present
  exact told old (all.2 old before)

theorem reorder (tasks : List Task) : (pool.reorder tasks).All config P := by
  rw [Pool.reorder]
  split
  case isTrue same =>
    refine ⟨all.1, ?_⟩
    intro task present
    exact all.2 task ((List.isPerm_iff.mp same).mem_iff.mp present)
  case isFalse => exact all

theorem putSession (ticket : Nat) (session : Session) :
    (pool.putSession ticket session).All config P := by
  rw [Pool.putSession]
  split <;> exact all

end All

end Pool

/-! ### What a turn leaves behind -/

namespace Site

open Pool (Agent Phase Task Checkout Patience Report Sweep Job Rule)

variable {config : Config} {P : Task → Prop} {site : Site}

section Ask

variable {checkout? : Option Checkout} (rule : Rule P config site.now checkout?)
  (all : site.pool.All config P)

include rule all

theorem probe_all {agent : Agent} (session : Session) {phase : Phase}
    (answered : ∀ due, (Task.mk agent phase due).isAnswered = true)
    (same : ∀ due, (Task.mk agent phase due).checkout? = checkout?)
    (tests : ∀ due, (Task.mk agent phase due).isBorrowing = true → config.testOnBorrow = true) :
    (site.probe agent session phase).1.pool.All config P := by
  rw [probe]
  apply all.park
  apply rule.begun _ _ (same _) (tests _)
  exact Task.timely_answered (Nat.le_add_right _ _) (answered _)

theorem connect_all {agent : Agent} {phase : Metadata → Attempt → Phase}
    (answered : ∀ metadata attempt due,
      (Task.mk agent (phase metadata attempt) due).isAnswered = true)
    (same : ∀ metadata attempt due,
      (Task.mk agent (phase metadata attempt) due).checkout? = checkout?)
    (other : ∀ metadata attempt due,
      (Task.mk agent (phase metadata attempt) due).isBorrowing = false) :
    (site.connect agent phase).1.pool.All config P := by
  rw [connect]
  apply all.park
  apply rule.begunOther _ (same _ _ _) (other _ _ _)
  exact Task.timely_answered (Nat.le_add_right _ _) (answered _ _ _)

end Ask

/-! ### Checkouts -/

section Checkout

variable {checkout : Checkout} (rule : Rule P config site.now (some checkout))
  (all : site.pool.All config P)

include rule all

theorem seek_all : (site.seek checkout).1.pool.All config P := by
  rw [seek]
  dsimp only
  split
  case isTrue => exact all
  case isFalse =>
    split
    case h_1 connection rest _ =>
      split
      case isTrue tests =>
        apply probe_all
        · exact rule
        · exact all
        · exact fun _ => rfl
        · exact fun _ => rfl
        · intro _ _
          rw [← all.1]
          exact tests
      case isFalse => exact all
    case h_2 =>
      split
      · apply connect_all
        · exact rule
        · exact all
        · exact fun _ _ _ => rfl
        · exact fun _ _ _ => rfl
        · exact fun _ _ _ => rfl
      · have sleeps {due : Option Nat} (dueEq : due = checkout.patience.deadline?)
            (le : ∀ time, due = some time → site.now ≤ time) :
            (site.wait (.caller checkout.caller) (.waiting checkout false) due).1.pool.All
              config P := by
          apply all.park
          apply rule.begunOther _ rfl rfl
          constructor
          · exact le
          · intro asks
            contradiction
          · rintro _ _ ⟨⟩
            exact dueEq
        split
        case h_1 => exact all
        case h_2 deadline patience =>
          split
          · exact all
          · apply sleeps
            · rw [patience]
              rfl
            · rintro _ ⟨⟩
              omega
        case h_3 patience =>
          apply sleeps
          · rw [patience]
            rfl
          · rintro _ ⟨⟩

theorem borrowProbed_all (connection : Connection) :
    (site.borrowProbed checkout connection).1.pool.All config P := by
  rw [borrowProbed]
  dsimp only
  split
  · exact all
  · split
    · exact all
    · apply seek_all
      · exact rule
      · exact all

omit rule in
theorem checkoutConnected_all (told : ∀ task, P task → P task.notify) (metadata : Metadata)
    (attempt : Attempt) :
    (site.checkoutConnected checkout metadata attempt).1.pool.All config P := by
  rw [checkoutConnected, connected]
  rcases site.server.finishConnect attempt with ⟨server, error | session⟩
  · exact all.notifyOne told
  · dsimp only
    split <;> exact all

end Checkout

theorem checkout_all {caller : Nat} {patience : Patience}
    (rule : Rule P config site.now (some ⟨caller, site.now, patience⟩))
    (all : site.pool.All config P) :
    (site.checkout caller patience).1.pool.All config P := by
  rw [checkout]
  split
  · exact all
  · apply seek_all
    · exact rule
    · exact all

section Other

variable (rule : Rule P config site.now none) (all : site.pool.All config P)

include rule all

/-! ### Returns -/

theorem requeue_all (connection : Connection) (healthy : Bool) :
    (site.requeue connection healthy).1.pool.All config P := by
  rw [requeue]
  dsimp only
  split
  · exact all
  · split
    · exact all
    · let released : Pool := { site.pool with
        active := site.pool.active.erase connection.id
        total := site.pool.total - 1 }
      have free : released.All config P := all
      split
      · exact free.notifyOne rule.told
      · apply Pool.All.notifyOne _ rule.told
        exact all

theorem takeBack_all (agent : Agent) (connection : Connection) :
    (site.takeBack agent connection).1.pool.All config P := by
  rw [takeBack]
  dsimp only
  split
  · exact all
  · split
    · split
      · exact probe_all rule all _ (fun _ => rfl) (fun _ => rfl) nofun
      · exact requeue_all rule all _ _
    · exact requeue_all rule all _ _

theorem returnProbed_all (connection : Connection) :
    (site.returnProbed connection).1.pool.All config P := by
  rw [returnProbed]
  split <;> exact requeue_all rule all _ _

/-- A lease that ends is no task. -/
theorem takeBack_endLease_all (agent : Agent) (ticket : Nat) (connection : Connection) :
    ((site.withPool (·.endLease ticket)).takeBack agent connection).1.pool.All config P := by
  apply takeBack_all
  · exact rule
  · exact all

theorem release_all (agent : Agent) (ticket : Nat) :
    (site.release agent ticket).1.pool.All config P := by
  rw [release]
  split
  · exact all
  · exact takeBack_endLease_all rule all agent ticket _

theorem invalidate_all (agent : Agent) (ticket : Nat) :
    (site.invalidate agent ticket).1.pool.All config P := by
  rw [invalidate]
  split
  · exact all
  · exact takeBack_endLease_all rule all agent ticket _

theorem discard_all (agent : Agent) (ticket : Nat) :
    (site.discard agent ticket).1.pool.All config P := by
  rw [discard]
  split
  · exact all
  · exact takeBack_endLease_all rule all agent ticket _

theorem detach_all (ticket : Nat) : (site.detach ticket).1.pool.All config P := by
  rw [detach]
  split
  · exact all
  · dsimp only
    split
    · apply Pool.All.notifyOne _ rule.told
      exact all
    · exact all

theorem adopt_all (session : Session) : (site.adopt session).1.pool.All config P := by
  rw [adopt]
  dsimp only
  split
  · exact all
  · split
    · exact all
    · apply Pool.All.notifyOne _ rule.told
      exact all

omit rule in
theorem throughLease_all {α : Type} (ticket : Nat)
    (send : Server → Session → Server × Except SessionError α) (reply : α → Pool.Reply) :
    (site.throughLease ticket send reply).1.pool.All config P := by
  rw [throughLease]
  split <;> exact all

/-! ### Sweeps -/

theorem rest_all : site.rest.pool.All config P := by
  apply all.park
  apply rule.begunOther _ rfl rfl
  constructor
  · intro due dueEq
    have inside := (Instant.after?_eq_some_iff.mp dueEq).2
    omega
  · intro asks
    contradiction
  · rintro _ _ ⟨⟩

theorem afterSweep_all (agent : Agent) (report : Report) :
    (site.afterSweep agent report).1.pool.All config P := by
  unfold afterSweep
  split
  · exact all
  · split
    · exact all
    · exact rest_all rule all

omit rule all in
theorem now_disposeAll (site : Site) (connections : List Connection) :
    (site.disposeAll connections).now = site.now := by
  induction connections generalizing site with
  | nil => rfl
  | cons connection rest ih => exact ih (site.dispose connection)

/-- What has been disposed of left no task behind. -/
theorem afterDisposal_all (agent : Agent) (connections : List Connection)
    (change : Pool.Counters → Pool.Counters) (report : Report) :
    (((site.disposeAll connections).withPool (·.count change)).afterSweep agent report).1.pool.All
      config P := by
  have disposed : (site.disposeAll connections).pool.All config P := by
    rw [Pool.pool_disposeAll]
    exact all
  have sameRule : Rule P config (site.disposeAll connections).now none := by
    rw [now_disposeAll]
    exact rule
  apply afterSweep_all
  · exact sameRule
  · exact disposed

theorem commit_all (agent : Agent) (sweep : Sweep) :
    (site.commit agent sweep).1.pool.All config P := by
  rw [commit]
  dsimp only
  split
  · apply afterDisposal_all
    · rw [now_disposeAll]
      exact rule
    · rw [Pool.pool_disposeAll]
      exact all
  · apply afterDisposal_all
    · exact rule
    · apply Pool.All.notifyMany _ rule.told
      exact all

theorem examine_all (agent : Agent) (sweep : Sweep) (pending : List Connection) :
    (site.examine agent sweep pending).1.pool.All config P := by
  induction pending generalizing sweep with
  | nil => exact commit_all rule all agent sweep
  | cons connection pending ih =>
      rw [examine]
      split
      · exact ih (sweep.evictIdle connection)
      · exact probe_all rule all _ (fun _ => rfl) (fun _ => rfl) nofun

theorem sweepProbed_all (agent : Agent) (sweep : Sweep) (connection : Connection)
    (pending : List Connection) :
    (site.sweepProbed agent sweep connection pending).1.pool.All config P := by
  rw [sweepProbed]
  split <;> exact examine_all rule all agent _ pending

theorem sweep_all (agent : Agent) : (site.sweep agent).1.pool.All config P := by
  rw [sweep]
  dsimp only
  split
  · exact afterSweep_all rule all agent .zero
  · apply examine_all
    · exact rule
    · exact all

theorem wake_all : site.wake.1.pool.All config P := by
  rw [wake]
  split
  · exact all
  · exact sweep_all rule all .checker

/-! ### Opening and closing -/

theorem prewarm_all (agent : Agent) (made : Nat) :
    (site.prewarm agent made).1.pool.All config P := by
  rw [prewarm]
  split
  · exact connect_all rule all (fun _ _ _ => rfl) (fun _ _ _ => rfl) fun _ _ _ => rfl
  · exact rest_all rule all

theorem prewarmConnected_all (agent : Agent) (made : Nat) (metadata : Metadata)
    (attempt : Attempt) :
    (site.prewarmConnected agent made metadata attempt).1.pool.All config P := by
  rw [prewarmConnected, connected]
  rcases site.server.finishConnect attempt with ⟨server, error | session⟩
  · apply rest_all
    · exact rule
    · exact all
  · apply prewarm_all
    · exact rule
    · exact all

omit rule in
theorem drain_all (thenDrop : Bool) : (site.drain thenDrop).1.pool.All config P := by
  rw [drain]
  dsimp only [closed, withPool, answer]
  rw [Pool.pool_disposeAll]
  exact all

theorem shutdown_all (agent : Agent) (thenDrop : Bool) :
    (site.shutdown agent thenDrop).1.pool.All config P := by
  have told := all.notifyAll rule.told
  rw [shutdown]
  split
  · exact all
  · dsimp only
    split
    · apply told.park
      apply rule.begunOther _ rfl rfl
      constructor
      · rintro _ ⟨⟩
      · intro asks
        contradiction
      · rintro _ _ ⟨⟩
    · apply drain_all
      exact told

end Other

/-! ### Calls, and going on -/

/-- A call leaves the task of its caller behind, if any. -/
theorem work_all {caller : Nat} (all : site.pool.All config P) (rule : Rule P config site.now none)
    (begins : ∀ patience, Rule P config site.now (some ⟨caller, site.now, patience⟩)) (job : Job) :
    (job.work caller site).1.pool.All config P := by
  cases job with
  | acquire timeout => exact checkout_all (begins _) all
  | get => exact checkout_all (begins _) all
  | tryGet => exact checkout_all (begins _) all
  | adopt session => exact adopt_all rule all session
  | sweep => exact sweep_all rule all _
  | shutdown thenDrop => exact shutdown_all rule all _ thenDrop
  | release ticket => exact release_all rule all _ ticket
  | invalidate ticket => exact invalidate_all rule all _ ticket
  | discard ticket => exact discard_all rule all _ ticket
  | detach ticket => exact detach_all rule all ticket
  | execute ticket statement => exact throughLease_all all ticket _ _
  | query ticket statement => exact throughLease_all all ticket _ _

/-- An agent that goes on waits next, if at all, for the sake of the same checkout. -/
theorem proceed_all (all : site.pool.All config P) {agent : Agent} {phase : Phase}
    (rule : Rule P config site.now (Task.mk agent phase none).checkout?) :
    (site.proceed agent phase).1.pool.All config P := by
  cases phase with
  | prewarming made metadata attempt => exact prewarmConnected_all rule all agent made _ _
  | connecting checkout metadata attempt => exact checkoutConnected_all all rule.told _ _
  | borrowProbe checkout connection => exact borrowProbed_all rule all connection
  | waiting checkout notified => exact seek_all rule all
  | returnProbe connection => exact returnProbed_all rule all connection
  | sweeping sweep connection pending => exact sweepProbed_all rule all agent sweep _ _
  | resting => exact wake_all rule all
  | joining thenDrop => exact drain_all all thenDrop

theorem resume_all (all : site.pool.All config P) {agent : Agent}
    (rule : ∀ task, site.pool.task? agent = some task → Rule P config site.now task.checkout?) :
    (site.resume agent).1.pool.All config P := by
  rw [resume]
  split
  case h_1 task found =>
    split
    case isTrue =>
      apply proceed_all
      · exact all.unpark agent
      · exact rule task found
    case isFalse => exact all
  case h_2 => exact all

end Site

/-! ### What moves leave behind -/

namespace World

open Pool (Task Rule)

variable {world : World} {P : Config → Task → Prop}

theorem all_modify (all : ∀ pool ∈ world.pools, pool.All pool.config (P pool.config))
    {index : Nat} {change : Pool → Pool}
    (keeps : ∀ config pool, pool.All config (P config) → (change pool).All config (P config)) :
    ∀ pool ∈ world.pools.modify index change, pool.All pool.config (P pool.config) := by
  intro pool member
  rcases exists_of_mem_modify member with same | ⟨before, found, rfl⟩
  · exact all pool same
  · have after := keeps _ before (all before (List.mem_of_getElem? found))
    rw [after.1]
    exact after

/-- What is true of all tasks that begin now stays true of all tasks. -/
theorem Affects.all {callers : Nat} {pools : List Pool} (affects : Affects world callers pools)
    (rule : ∀ config checkout?, Rule (P config) config world.now checkout?)
    (all : ∀ pool ∈ world.pools, pool.All pool.config (P pool.config)) :
    ∀ pool ∈ pools, pool.All pool.config (P pool.config) := by
  cases affects with
  | nothing later => exact all
  | opens config valid =>
      intro pool member
      rcases List.mem_append.mp member with before | last
      · exact all pool before
      · rw [List.mem_singleton.mp last]
        have filled : (Site.prewarm ⟨world.now, world.server, .new config world.now⟩
            (.caller world.callers) 0).1.pool.All config (P config) := by
          apply Site.prewarm_all
          · exact rule config none
          · exact .new config world.now _
        rw [filled.1]
        exact filled
  | calls index job fits =>
      exact all_modify all fun config pool all =>
        Site.work_all all (rule config none) (fun _ => rule config _) job
  | resumes index agent =>
      exact all_modify all fun config pool all => Site.resume_all all fun task _ => rule config _
  | puts handle session => exact all_modify all fun config pool all => all.putSession _ _
  | reorders index tasks => exact all_modify all fun config pool all => all.reorder tasks
  | stirs index => exact all_modify all fun config pool all => all.notifyOne (rule config none).told

/-- What is true of all tasks that can begin in a pool now stays true of its tasks. -/
theorem Happens.all {index : Nat} {pool after : Pool} {move : Move} {event : Option Event}
    {config : Config} {P : Task → Prop} (happens : world.Happens index pool move after event)
    (all : pool.All config P) (rule : Rule P config world.now none)
    (begins : ∀ patience, Rule P config world.now (some ⟨world.callers, world.now, patience⟩))
    (goes : ∀ task ∈ pool.tasks, Rule P config world.now task.checkout?) :
    after.All config P := by
  cases happens with
  | nothing elsewhere => exact all
  | @calls request job accepted asks =>
      have here : (world.site pool).pool.All config P := all
      exact Site.work_all here rule begins job
  | resumes agent =>
      have here : (world.site pool).pool.All config P := all
      exact Site.resume_all here fun task found => goes task (List.mem_of_find?_eq_some found)
  | puts ticket session closes elsewhere => exact all.putSession ticket session
  | reorders tasks => exact all.reorder tasks
  | stirs => exact all.notifyOne rule.told

/-- Whoever has asked the server has a time at which the answer comes. -/
theorem Possible.timely (possible : Possible world) :
    ∀ pool ∈ world.pools, pool.All pool.config (Task.Timely 0) := by
  induction possible with
  | new => simp [World.new]
  | move _ move ih =>
      exact (affects_move _ move).all (fun _ _ => .timely (Nat.zero_le _) _ _) ih

/-- A connection is probed before it is lent only where the settings ask for it. -/
theorem Possible.tests (possible : Possible world) :
    ∀ pool ∈ world.pools, pool.All pool.config fun task =>
      task.isBorrowing = true → pool.config.testOnBorrow = true := by
  induction possible with
  | new => simp [World.new]
  | move _ move ih => exact (affects_move _ move).all (fun _ _ => .tests _ _ _) ih

/-- Every timer of an agent is a timer of the world. -/
theorem mem_timers {pool : Pool} (member : pool ∈ world.pools) {task : Task}
    (present : task ∈ pool.tasks) {due : Nat} (dueEq : task.due = some due) :
    ∃ thread, (due, thread) ∈ world.timers := by
  obtain ⟨index, found⟩ := List.mem_iff_getElem?.mp member
  refine ⟨.inPool index task.agent, ?_⟩
  rw [timers]
  apply List.mem_append_left
  apply List.mem_flatMap.mpr
  refine ⟨(pool, index), List.mem_zipIdx_iff_getElem?.mpr found, ?_⟩
  apply List.mem_filterMap.mpr
  exact ⟨task, present, by rw [dueEq]; rfl⟩

theorem timely_passTo (instant : Nat)
    (timely : ∀ pool ∈ world.pools, pool.All pool.config (Task.Timely world.now)) :
    ∀ pool ∈ (world.passTo instant).pools,
      pool.All pool.config (Task.Timely (world.passTo instant).now) := by
  unfold passTo
  split
  case isFalse => exact timely
  case isTrue can =>
    have none := List.all_eq_true.mp (Bool.and_eq_true_iff.mp can).2
    intro pool member
    refine ⟨rfl, ?_⟩
    intro task present
    refine { (timely pool member).2 task present with now_le := ?_ }
    intro due dueEq
    obtain ⟨thread, timer⟩ := mem_timers member present dueEq
    exact of_decide_eq_true (none _ timer)

/-- Where time passes only when nobody can go on, nobody waits for something that is over. -/
theorem Reachable.timely (reachable : Reachable world) :
    ∀ pool ∈ world.pools, pool.All pool.config (Task.Timely world.now) := by
  induction reachable with
  | new => simp [World.new]
  | @step world before action ih =>
      have acted := (affects_move world (.act action)).all
        (fun _ _ => .timely (Nat.le_refl _) _ _) ih
      cases action with
      | call request =>
          have now : (world.step (.call request)).1.now = world.now := now_call _ _
          rw [now]
          exact acted
      | resume thread =>
          have now : (world.step (.resume thread)).1.now = world.now := now_resume _ _
          rw [now]
          exact acted
      | instruct command => exact acted
      | passTo instant => exact timely_passTo instant ih

end World

end SessionPool

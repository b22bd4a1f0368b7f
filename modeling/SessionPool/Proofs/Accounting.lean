import SessionPool.Proofs.Balance.Run

/-!
# The counts of a pool

A pool keeps its counts apart from what they count: how many connections it has, how many of them
sweeps have taken away, and how many callers are inside a checkout. Whoever works in between,
the counts agree with the places in which connections and callers are, and the capacity is kept.
-/

namespace SessionPool

namespace Pool

/-! ### What is counted -/

namespace Task

/-- Whether the agent has reserved a slot and waits for its connect. -/
def isConnecting (task : Task) : Bool :=
  match task.phase with
  | .connecting _ _ _ => true
  | _ => false

/-- Whether the agent is a caller inside a checkout. -/
def isCheckingOut (task : Task) : Bool :=
  match task.phase with
  | .connecting _ _ _ | .borrowProbe _ _ | .waiting _ _ => true
  | _ => false

/-- The queue that the sweep of the agent has drained and not given back, as far as it has come. -/
def drained (task : Task) : List Connection :=
  match task.phase with
  | .sweeping sweep current pending => sweep.kept ++ sweep.evicted ++ current :: pending
  | _ => []

theorem slots_holdings (tasks : List Task) :
    (holdings tasks).slots = tasks.countP isConnecting := by
  apply countP_holdings (·.slots) rfl fun _ _ => rfl
  rintro ⟨agent, phase, due⟩
  cases phase <;> rfl

theorem checkouts_holdings (tasks : List Task) :
    (holdings tasks).checkouts = tasks.countP isCheckingOut := by
  apply countP_holdings (·.checkouts) rfl fun _ _ => rfl
  rintro ⟨agent, phase, due⟩
  cases phase <;> rfl

theorem drained_holdings {tasks : List Task} (proper : ∀ task ∈ tasks, task.Proper) :
    (holdings tasks).drained = (tasks.map (·.drained.length)).sum := by
  induction tasks with
  | nil => rfl
  | cons task rest ih =>
      obtain ⟨first, later⟩ := List.forall_mem_cons.mp proper
      obtain ⟨agent, phase, due⟩ := task
      rw [holdings_cons, List.map_cons, List.sum_cons, ← ih later]
      cases phase with
      | sweeping sweep current pending =>
          have sizes : sweep.checked =
              sweep.kept.length + sweep.evicted.length + 1 + pending.length := first
          simp [drained, sizes]
          omega
      | _ => simp [drained]

/-- Whether the agent waits for the checker to end, to close the pool then. -/
def isJoining (task : Task) : Bool :=
  match task.phase with
  | .joining _ => true
  | _ => false

theorem closings_holdings (tasks : List Task) :
    (holdings tasks).closings = tasks.countP isJoining := by
  apply countP_holdings (·.closings) rfl fun _ _ => rfl
  rintro ⟨agent, phase, due⟩
  cases phase <;> rfl

/-- The number of the connection that the agent probes for a caller or on its way back. -/
def lentIds (task : Task) : List Nat :=
  match task.phase with
  | .borrowProbe _ connection | .returnProbe connection => [connection.id]
  | _ => []

theorem lent_holdings (tasks : List Task) (id : Nat) :
    (holdings tasks).lent id = (tasks.flatMap lentIds).count id := by
  induction tasks with
  | nil => rfl
  | cons task rest ih =>
      obtain ⟨agent, phase, due⟩ := task
      rw [holdings_cons, Holding.lent_add, ih, List.flatMap_cons, List.count_append]
      cases phase <;> simp [lentIds]

end Task

/-! ### The invariant -/

/-- The counts of a pool agree with what they count, and the capacity is kept. -/
structure Accounted (pool : Pool) : Prop where
  total_eq : pool.idle.length + pool.active.length + pool.validating +
    pool.tasks.countP Task.isConnecting = pool.total
  total_le : pool.total ≤ pool.config.maxConnections
  validating_eq : pool.validating = (pool.tasks.map (·.drained.length)).sum
  waiting_eq : pool.waiting = pool.tasks.countP Task.isCheckingOut

/-- A sound pool is accounted for, whether it is open yet or not. -/
theorem Sound.accounted {callers : Nat} {pool : Pool} (sound : Sound callers pool) :
    pool.Accounted := by
  rcases sound with filling | balanced
  · obtain ⟨number, made, metadata, attempt, due, alone, called, below, unknown⟩ := filling
    have floor := unknown.valid.floor_le_capacity
    have total := unknown.total_eq
    constructor
    · simp [alone, Task.isConnecting, unknown.active_eq, unknown.validating_eq, total,
        unknown.idle_length]
    · omega
    · simp [alone, Task.drained, unknown.validating_eq]
    · simp [alone, Task.isCheckingOut, unknown.waiting_eq]
  · obtain ⟨books, proper⟩ := balanced
    rw [add_zero] at books
    constructor
    · rw [books.total_eq, Task.slots_holdings]
    · exact books.total_le
    · rw [books.validating_eq, Task.drained_holdings proper]
    · rw [books.waiting_eq, Task.checkouts_holdings]

/-! ### Who is at work -/

namespace Balanced

variable {callers : Nat} {pool : Pool}

/-- How often an agent is at work is how many tasks it has. -/
theorem agents_holdings (tasks : List Task) (agent : Agent) :
    (Task.holdings tasks).agents agent = (tasks.map (·.agent)).count agent := by
  rw [List.count, List.countP_map]
  apply Task.countP_holdings (·.agents agent) rfl fun _ _ => rfl
  rintro ⟨other, phase, due⟩
  have none : phase.holding.agents agent = 0 := by
    cases phase <;> rfl
  have one : other.holding.agents agent = (other == agent).toNat := by
    apply List.count_singleton.trans
    cases other == agent <;> rfl
  rw [Task.holding, Holding.agents_add, none, one, Nat.zero_add]
  rfl

/-- No agent has two tasks. -/
theorem count_agent_le_one (balanced : Balanced callers pool 0) (agent : Agent) :
    (pool.tasks.map (·.agent)).count agent ≤ agent.limit callers := by
  have agents := balanced.books.agents_le agent
  rw [add_zero, agents_holdings] at agents
  omega

/-- An agent that goes on has no other task. -/
theorem agent_ne (balanced : Balanced callers pool 0) {agent : Agent} {task : Task}
    (found : pool.task? agent = some task) :
    ∀ other ∈ (pool.unpark agent).tasks, other.agent ≠ agent := by
  rintro other present rfl
  have once := balanced.count_agent_le_one other.agent
  have limit : other.agent.limit callers ≤ 1 := by
    unfold Agent.limit
    split
    · split <;> omega
    · exact Nat.le_refl _
  have perm : pool.tasks.Perm (task :: (pool.unpark other.agent).tasks) := perm_cons_eraseP found
  have twice := (perm.map (·.agent)).count_eq other.agent
  have again := List.count_pos_iff.mpr (List.mem_map_of_mem (f := (·.agent)) present)
  rw [List.map_cons, agent_of_task? found, List.count_cons_self] at twice
  omega

/-- An agent that waits is found by its name. -/
theorem task?_eq (balanced : Balanced callers pool 0) {task : Task} (member : task ∈ pool.tasks) :
    pool.task? task.agent = some task := by
  obtain ⟨other, found⟩ : ∃ other, pool.task? task.agent = some other := by
    apply Option.isSome_iff_exists.mp
    exact List.find?_isSome.mpr ⟨task, member, beq_self_eq_true _⟩
  rcases List.mem_cons.mp ((perm_cons_eraseP found).mem_iff.mp member) with same | later
  · rw [found, same]
  · exact absurd rfl (balanced.agent_ne found task later)

end Balanced

end Pool

/-! ### Who goes on -/

namespace Site

open Pool (Agent Task Balanced)

variable {site : Site}

theorem resume_eq_proceed {agent : Agent} {task : Task} (found : site.pool.task? agent = some task)
    (ready : site.pool.isReady site.now task = true) :
    site.resume agent = (site.withPool (·.unpark agent)).proceed agent task.phase := by
  rw [resume, found]
  exact if_pos ready

/-- An agent that cannot go on does not. -/
theorem resume_eq_self {agent : Agent}
    (unready : ∀ task, site.pool.task? agent = some task →
      ¬ site.pool.isReady site.now task = true) :
    site.resume agent = (site, none) := by
  rw [resume]
  split
  case h_1 task found => exact if_neg (unready task found)
  case h_2 => rfl

/-- An agent goes on with the task that it has. -/
theorem resume_of_mem {callers : Nat} (balanced : Balanced callers site.pool 0) {task : Task}
    (present : task ∈ site.pool.tasks) (ready : site.pool.isReady site.now task = true) :
    site.resume task.agent =
      (site.withPool (·.unpark task.agent)).proceed task.agent task.phase :=
  resume_eq_proceed (balanced.task?_eq present) ready

end Site

namespace Pool

/-! ### What is active -/

/-- As long as returned connections find the pool, what is active is what is lent, being probed for
a caller, or on its way back. -/
theorem Balanced.active_perm {callers : Nat} {pool : Pool} (balanced : Balanced callers pool 0)
    (present : pool.isPresent = true) :
    pool.active.Perm (pool.leases.map (·.connection.id) ++ pool.tasks.flatMap Task.lentIds) := by
  have books := balanced.books
  rw [add_zero] at books
  rw [List.perm_iff_count]
  intro id
  have lower := books.lent_le id
  have upper := books.le_lent (isPresent_iff.mp present) id
  rw [Task.lent_holdings] at lower upper
  rw [List.count_append]
  omega

/-- The slot of a connection that is being probed for a caller is one of the slots of the pool. -/
theorem Balanced.total_pos {callers : Nat} {pool : Pool} (balanced : Balanced callers pool 0)
    {task : Task} (present : task ∈ pool.tasks) {checkout : Checkout} {connection : Connection}
    (phase : task.phase = .borrowProbe checkout connection) : 0 < pool.total := by
  have books := balanced.books
  rw [add_zero] at books
  have lent : connection.id ∈ pool.tasks.flatMap Task.lentIds := by
    apply List.mem_flatMap.mpr
    refine ⟨task, present, ?_⟩
    rw [Task.lentIds, phase]
    exact List.mem_singleton_self _
  have held := books.lent_le connection.id
  rw [Task.lent_holdings] at held
  have some := List.count_pos_iff.mpr lent
  have active : 0 < pool.active.count connection.id := by omega
  have length := List.length_pos_of_mem (List.count_pos_iff.mp active)
  have total := books.total_eq
  omega

/-- Nobody is in the middle of a call or of a sweep. -/
def AtRest (pool : Pool) : Prop := ∀ task ∈ pool.tasks, task.phase = .resting

/-- In a pool at rest every connection is idle or lent. -/
theorem Balanced.total_of_atRest {callers : Nat} {pool : Pool}
    (balanced : Balanced callers pool 0) (rest : pool.AtRest) (kept : pool.dropped = false) :
    pool.total = pool.idle.length + pool.leases.length ∧ pool.validating = 0 := by
  have none {holds : Task → Bool} (not : ∀ task, task.phase = .resting → holds task = false) :
      pool.tasks.countP holds = 0 := by
    rw [List.countP_eq_zero]
    intro task present
    rw [not task (rest task present)]
    exact Bool.false_ne_true
  have unlent : pool.tasks.flatMap Task.lentIds = [] := by
    rw [List.flatMap_eq_nil_iff]
    intro task present
    rw [Task.lentIds, rest task present]
  have active : pool.active.length = pool.leases.length := by
    have perm := balanced.active_perm (isPresent_iff.mpr (.inl kept))
    rw [unlent, List.append_nil] at perm
    rw [perm.length_eq, List.length_map]
  have books := balanced.books
  rw [add_zero] at books
  have unreserved : (Task.holdings pool.tasks).slots = 0 := by
    rw [Task.slots_holdings]
    exact none fun task resting => by rw [Task.isConnecting, resting]
  have undrained : (Task.holdings pool.tasks).drained = 0 := by
    rw [Task.drained_holdings balanced.proper]
    apply List.sum_eq_zero
    intro amount member
    obtain ⟨task, present, rfl⟩ := List.mem_map.mp member
    rw [Task.drained, rest task present]
    rfl
  have total := books.total_eq
  have validating := books.validating_eq
  constructor <;> omega

/-- Only a pool that has been shut down is let go of. -/
theorem Balanced.kept {callers : Nat} {pool : Pool} (balanced : Balanced callers pool 0)
    (running : pool.isShutdown = false) : pool.dropped = false := by
  cases dropped : pool.dropped with
  | false => rfl
  | true =>
      have shutdown := balanced.books.shutdown (.inr dropped)
      rw [running] at shutdown
      contradiction

namespace AtRest

variable {pool : Pool} (rest : pool.AtRest)

include rest

/-- A pool at rest has been filled. -/
theorem balanced {callers : Nat} (sound : Sound callers pool) : Balanced callers pool 0 := by
  rcases sound with filling | balanced
  · obtain ⟨number, made, metadata, attempt, due, alone, _⟩ := filling
    have resting := rest ⟨.caller number, .prewarming made metadata attempt, due⟩
      (alone ▸ List.mem_singleton_self _)
    contradiction
  · exact balanced

theorem isOpen (kept : pool.dropped = false) : pool.isOpen = true := by
  have idle : pool.tasks.any (fun task => task.isPrewarming || task.phase == .joining true) =
      false := by
    rw [List.any_eq_false]
    intro task present
    rw [Task.isPrewarming, rest task present]
    decide
  simp [Pool.isOpen, kept, idle]

/-- Nobody is there to be told of a connection that becomes free. -/
theorem notifyOne_eq : pool.notifyOne = pool := by
  have same : notifyFirst pool.tasks = pool.tasks := by
    rw [notifyFirst_eq_self_iff]
    intro task present
    rw [Task.isAsleep, rest task present]
  rw [notifyOne, same]

end AtRest

end Pool

namespace World

/-- The counts of every pool agree with what they count, in every world that moves can lead to. -/
theorem accounted_of_possible {world : World} (possible : Possible world) {pool : Pool}
    (member : pool ∈ world.pools) : pool.Accounted :=
  (possible.sound pool member).accounted

/-- A pool without a floor, in which one caller sleeps for the only slot while another waits for
its connect. -/
def crowded : World :=
  let config : Config := { Config.default with minConnections := 0, maxConnections := 1 }
  (Trace.follow ⟨new, []⟩ [.instruct (.connectDelay 5), .call (.openPool config),
    .call (.get 0), .call (.get 0)]).world

theorem possible_crowded : Possible crowded :=
  (Reachable.follow .new _).possible

theorem accounted_crowded : ∃ pool ∈ crowded.pools,
    pool.total = 1 ∧ pool.idle = [] ∧ pool.active = [] ∧ pool.waiting = 2 ∧ pool.Accounted := by
  have member : crowded.pools.head (by decide) ∈ crowded.pools := List.head_mem _
  exact ⟨_, member, by decide, by decide, by decide, by decide,
    accounted_of_possible possible_crowded member⟩

end World

end SessionPool

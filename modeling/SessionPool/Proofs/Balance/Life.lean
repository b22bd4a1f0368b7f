import SessionPool.Proofs.Balance.Checkout
import SessionPool.Proofs.Balance.Return
import SessionPool.Proofs.Balance.Sweep

/-!
# The life of a pool keeps the balance

A pool that is being filled belongs to the call that makes it, and holds nothing but the connections
made so far. From its opening on it is balanced, whatever happens to it, up to its end and beyond.
-/

namespace SessionPool.Pool

/-! ### Filling -/

/-- A pool with `made` idle connections, of which nobody knows yet. -/
structure Unknown (made : Nat) (pool : Pool) : Prop where
  valid : pool.config.Valid
  made_le : made ≤ pool.config.minConnections
  total_eq : pool.total = made
  idle_length : pool.idle.length = made
  active_eq : pool.active = []
  leases_eq : pool.leases = []
  waiting_eq : pool.waiting = 0
  validating_eq : pool.validating = 0
  running : pool.isShutdown = false
  kept : pool.dropped = false

/-- A pool that is being filled by the only agent in it. -/
def Filling (callers : Nat) (pool : Pool) : Prop :=
  ∃ number made metadata attempt due,
    pool.tasks = [⟨.caller number, .prewarming made metadata attempt, due⟩] ∧
      number < callers ∧ made < pool.config.minConnections ∧ Unknown made pool

/-- What is true of every pool between two turns. -/
def Sound (callers : Nat) (pool : Pool) : Prop :=
  Filling callers pool ∨ Balanced callers pool 0

theorem unknown_new {config : Config} (valid : config.Valid) (now : Nat) :
    Unknown 0 (Pool.new config now) where
  valid := valid
  made_le := Nat.zero_le _
  total_eq := rfl
  idle_length := rfl
  active_eq := rfl
  leases_eq := rfl
  waiting_eq := rfl
  validating_eq := rfl
  running := rfl
  kept := rfl

namespace Unknown

variable {callers made : Nat} {site : Site}

/-- A pool that is opened is balanced. -/
theorem balanced {pool : Pool} (unknown : Unknown made pool) (alone : pool.tasks = []) :
    Balanced callers pool Agent.checker.holding := by
  have floor := unknown.valid.floor_le_capacity
  have made_le := unknown.made_le
  refine ⟨?_, by simp [alone]⟩
  rw [alone]
  constructor
  case total_eq =>
    simp [unknown.total_eq, unknown.idle_length, unknown.active_eq, unknown.validating_eq]
  case total_le =>
    rw [unknown.total_eq]
    omega
  case validating_eq => simpa using unknown.validating_eq
  case waiting_eq => simpa using unknown.waiting_eq
  case lent_le => simp [unknown.leases_eq]
  case le_lent => simp [unknown.active_eq]
  case free_le_looks => simp
  case awake => simp
  case idle_eq => simp [unknown.running]
  case shutdown => simp [unknown.kept]
  case agents_le =>
    intro agent
    cases agent <;> simp [unknown.leases_eq, Agent.limit, List.count_singleton]

theorem open_ (site : Site) (unknown : Unknown made site.pool) (alone : site.pool.tasks = []) :
    Sound callers (site.rest.answer (.ok .opened)).1.pool :=
  .inr (unknown.balanced alone).rest

theorem filling (site : Site) {number : Nat} (unknown : Unknown made site.pool)
    (alone : site.pool.tasks = []) (called : number < callers)
    (below : made < site.pool.config.minConnections) :
    Filling callers (site.connect (.caller number) (.prewarming made)).1.pool :=
  ⟨number, made, Metadata.new site.pool.nextId site.now, site.server.startConnect.2,
    some (site.now + site.server.startConnect.1.connectTime site.server.startConnect.2),
    congrArg (· ++ _) alone, called, below, { unknown with }⟩

theorem prewarm (site : Site) {number : Nat} (unknown : Unknown made site.pool)
    (alone : site.pool.tasks = []) (called : number < callers) :
    Sound callers (site.prewarm (.caller number) made).1.pool := by
  unfold Site.prewarm
  split
  case isTrue below => exact .inl (unknown.filling site alone called below)
  case isFalse => exact unknown.open_ site alone

/-- One connection more has been made. -/
theorem more {pool : Pool} (unknown : Unknown made pool) (below : made < pool.config.minConnections)
    (connection : Connection) :
    Unknown (made + 1) { pool.count (·.created) with
      total := pool.total + 1
      idle := pool.idle ++ [connection] } := by
  refine { unknown with made_le := below, total_eq := ?_, idle_length := ?_ }
  · exact congrArg (· + 1) unknown.total_eq
  · simpa [Pool.count] using unknown.idle_length

theorem prewarmConnected (site : Site) {number : Nat} {metadata : Metadata} {attempt : Attempt}
    (unknown : Unknown made site.pool) (alone : site.pool.tasks = [])
    (below : made < site.pool.config.minConnections) (called : number < callers) :
    Sound callers (site.prewarmConnected (.caller number) made metadata attempt).1.pool := by
  unfold Site.prewarmConnected Site.connected
  rcases site.server.finishConnect attempt with ⟨server, error | session⟩
  · exact unknown.open_ { site with server } alone
  · exact (unknown.more below _).prewarm { site with pool := _, server } alone called

end Unknown

/-! ### Closing -/

namespace Balanced

variable {callers : Nat} {site : Site} {agent : Agent} {thenDrop : Bool}

theorem closed (balanced : Balanced callers site.pool 0) (shutdown : site.pool.isShutdown = true) :
    Balanced callers (site.closed thenDrop).1.pool 0 := by
  obtain ⟨books, proper⟩ := balanced
  refine ⟨{ books with le_lent := ?_, shutdown := fun _ => shutdown }, proper⟩
  intro present
  apply books.le_lent
  simp [Site.closed, Site.withPool, Site.answer] at present ⊢
  rcases present with ⟨kept, _⟩ | returning
  · exact .inl kept
  · exact .inr returning

theorem drain (site : Site)
    (balanced : Balanced callers site.pool ((Phase.joining thenDrop).holding + agent.holding)) :
    Balanced callers (site.drain thenDrop).1.pool 0 := by
  obtain ⟨books, proper⟩ := balanced
  have shutdown : site.pool.isShutdown = true := books.shutdown (by simp)
  have emptied : Balanced callers
      { site.pool with idle := [], total := site.pool.total - site.pool.idle.length } 0 := by
    refine ⟨{ books with
      total_eq := ?_, total_le := ?_, free_le_looks := ?_, idle_eq := fun _ => .inl rfl
      shutdown := fun _ => shutdown, agents_le := ?_ }, proper⟩
    · have total := books.total_eq
      simp at total ⊢
      omega
    · exact Nat.le_trans (Nat.sub_le _ _) books.total_le
    · intro asleep
      have awake := books.awake shutdown
      simp at asleep awake
      omega
    · intro other
      have agents := books.agents_le other
      simp at agents ⊢
      omega
  have disposed := emptied.disposeAll (site.withPool fun _ => _) site.pool.idle
  apply disposed.closed
  rw [pool_disposeAll]
  exact shutdown

theorem shutdown (balanced : Balanced callers site.pool agent.holding) :
    Balanced callers (site.shutdown agent thenDrop).1.pool 0 := by
  unfold Site.shutdown
  split
  case isTrue shutdown => exact balanced.finish.closed shutdown
  case isFalse =>
    have flagged : Balanced callers
        { site.pool.notifyAll with isShutdown := true, stopRequested := true }
        ((Phase.joining thenDrop).holding + agent.holding) := by
      obtain ⟨books, proper⟩ := balanced
      have tasks : Task.holdings site.pool.notifyAll.tasks =
          { Task.holdings site.pool.tasks with
            looks := (Task.holdings site.pool.tasks).looks + (Task.holdings site.pool.tasks).asleep
            asleep := 0 } :=
        Task.holdings_map_notify site.pool.tasks
      constructor
      · dsimp only
        rw [tasks]
        refine { books with
          free_le_looks := ?_, awake := ?_, idle_eq := ?_, shutdown := fun _ => rfl
          agents_le := ?_ }
        · simp
        · simp
        · simp
        · intro other
          simpa [Pool.notifyAll] using books.agents_le other
      · intro task member
        obtain ⟨before, known, rfl⟩ := List.mem_map.mp member
        exact (Task.proper_notify before).mpr (proper before known)
    dsimp only
    split
    · exact flagged.park ⟨agent, .joining thenDrop, none⟩ rfl
    · exact flagged.drain (site.withPool _)

end Balanced

/-! ### Going on -/

namespace Balanced

variable {callers : Nat} {site : Site} {agent : Agent}

/-- An agent that goes on with what it waited for keeps the balance. -/
theorem proceed (site : Site) {task : Task}
    (balanced : Balanced callers site.pool task.holding)
    (proper : task.Proper) : Balanced callers (site.proceed task.agent task.phase).1.pool 0 := by
  obtain ⟨agent, phase, due⟩ := task
  cases phase with
  | prewarming made metadata attempt => exact proper.elim
  | connecting checkout metadata attempt =>
      obtain rfl : agent = .caller checkout.caller := proper
      exact checkoutConnected balanced
  | borrowProbe checkout connection =>
      obtain rfl : agent = .caller checkout.caller := proper
      exact borrowProbed balanced
  | waiting checkout notified =>
      obtain rfl : agent = .caller checkout.caller := proper
      have looking : Balanced callers site.pool (checkout.looking notified) := balanced
      exact looking.seek site
  | returnProbe connection =>
      have returning : Balanced callers site.pool (agent.returning connection) := balanced
      exact returning.returnProbed
  | sweeping sweep connection pending => exact balanced.sweepProbed site sweep proper
  | resting =>
      obtain rfl : agent = .checker := proper
      have holding : Task.holding ⟨.checker, .resting, due⟩ = Agent.checker.holding := zero_add _
      rw [holding] at balanced
      exact balanced.wake
  | joining thenDrop =>
      have joined : Balanced callers site.pool ((Phase.joining thenDrop).holding + agent.holding) :=
        balanced
      exact joined.drain site

end Balanced

/-- The task that is found belongs to the agent that is looked for. -/
theorem agent_of_task? {pool : Pool} {agent : Agent} {task : Task}
    (found : pool.task? agent = some task) : task.agent = agent := by
  simpa using List.find?_some found

/-- Nobody goes on in a pool that is being filled but the one that fills it. -/
theorem Filling.unpark {callers : Nat} {pool : Pool} (filling : Filling callers pool)
    {agent : Agent} {task : Task} (found : pool.task? agent = some task) :
    ∃ number made metadata attempt due, agent = .caller number ∧
      task = ⟨.caller number, .prewarming made metadata attempt, due⟩ ∧
        (pool.unpark agent).tasks = [] ∧ number < callers ∧ made < pool.config.minConnections ∧
          Unknown made (pool.unpark agent) := by
  obtain ⟨number, made, metadata, attempt, due, alone, called, below, unknown⟩ := filling
  have member := List.mem_of_find?_eq_some found
  rw [alone] at member
  obtain rfl := List.mem_singleton.mp member
  obtain rfl := agent_of_task? found
  have gone : (pool.unpark (.caller number)).tasks = [] := by
    simp [Pool.unpark, alone]
  exact ⟨number, made, metadata, attempt, due, rfl, rfl, gone, called, below, { unknown with }⟩

theorem Filling.resume {callers : Nat} {site : Site} (filling : Filling callers site.pool)
    (agent : Agent) : Sound callers (site.resume agent).1.pool := by
  unfold Site.resume
  split
  case h_2 => exact .inl filling
  case h_1 task found =>
    split
    case isFalse => exact .inl filling
    case isTrue =>
      obtain ⟨number, made, metadata, attempt, due, rfl, rfl, gone, called, below, unknown⟩ :=
        filling.unpark found
      exact Unknown.prewarmConnected (site.withPool _) unknown gone below called

theorem Balanced.resume {callers : Nat} {site : Site} (balanced : Balanced callers site.pool 0)
    (agent : Agent) : Balanced callers (site.resume agent).1.pool 0 := by
  unfold Site.resume
  split
  case h_2 => exact balanced
  case h_1 task found =>
    split
    case isFalse => exact balanced
    case isTrue =>
      have proper := balanced.proper task (List.mem_of_find?_eq_some found)
      obtain rfl := agent_of_task? found
      exact (balanced.unpark found).proceed (site.withPool _) proper

/-- Whoever goes on, and whenever, leaves a sound pool. -/
theorem Sound.resume {callers : Nat} {site : Site} (sound : Sound callers site.pool)
    (agent : Agent) : Sound callers (site.resume agent).1.pool := by
  rcases sound with filling | balanced
  · exact filling.resume agent
  · exact .inr (balanced.resume agent)

end SessionPool.Pool

import SessionPool.Proofs.Accounting

/-!
# Serving a caller

When the server answers at once and accepts every login, a caller that does not want to wait is
served in a few rounds. In each of them it gets a connection, or asks the server and is answered in
the same moment. A dead connection that it meets is replaced within its own slot, so it comes out
with a connection whenever one is idle or a slot is free.
-/

namespace SessionPool

namespace Server

/-- The server accepts every login, and takes no time for anything. -/
structure IsPrompt (server : Server) : Prop where
  accepts : server.refusing = false
  failing_eq : server.failing = 0
  faults_eq : server.connectFaults = []
  connectDelay_eq : server.connectDelay = 0
  probeDelay_eq : server.probeDelay = 0

namespace IsPrompt

variable {server : Server} (prompt : server.IsPrompt)

include prompt

theorem startProbe (session : Session) : (server.startProbe session).IsPrompt := by
  rw [Server.startProbe]
  split
  · exact { prompt with }
  · exact prompt

theorem probeTime_eq (session : Session) : server.probeTime session = 0 := by
  rw [probeTime]
  split
  · exact prompt.probeDelay_eq
  · rfl

theorem startConnect_eq : server.startConnect = (server, .reaching) := by
  rw [startConnect, prompt.faults_eq]

/-- A connect that the server answers succeeds. -/
theorem finishConnect_eq :
    ∃ after : Server, after.IsPrompt ∧
      server.finishConnect .reaching = (after, .ok ⟨server.lastId + 1, true⟩) := by
  let after : Server := { server with
    lastId := server.lastId + 1
    openIds := (server.lastId + 1) :: server.openIds
    connects := server.connects + 1 }
  have still : after.IsPrompt := { prompt with }
  refine ⟨after, still, ?_⟩
  rw [finishConnect]
  dsimp only
  rw [if_neg (by simp [prompt.accepts]), if_neg (by simp [prompt.failing_eq])]

end IsPrompt

end Server

namespace Pool

/-- What a caller that does not want to wait for a connection can wait for. -/
def Phase.Serves (caller : Nat) : Phase → Prop
  | .borrowProbe checkout _ => checkout.caller = caller ∧ checkout.patience = .never
  | .connecting checkout _ attempt =>
      checkout.caller = caller ∧ checkout.patience = .never ∧ attempt = .reaching
  | _ => False

/-- How many answers of the server a caller needs at most, this one included. -/
def Phase.rounds (idle : Nat) : Phase → Nat
  | .borrowProbe _ _ => idle + 2
  | _ => 1

end Pool

/-! ### Rounds -/

/-- How a round leaves a pool that serves a caller. -/
structure Turn.Stays (turn : Turn) (before : Site) : Prop where
  running : turn.1.pool.isShutdown = false
  config : turn.1.pool.config = before.pool.config
  prompt : turn.1.server.IsPrompt

/-- The caller gets a connection. -/
structure Turn.Lends (turn : Turn) (before : Site) (caller : Nat) (lease : Lease) : Prop extends
    turn.Stays before where
  ticket : lease.ticket = caller
  answer : turn.2 = some (.ok (.lent lease))
  leases : turn.1.pool.leases = lease :: before.pool.leases
  tasks : turn.1.pool.tasks = before.pool.tasks

/-- The caller asks the server, which answers at once. -/
structure Turn.Asks (turn : Turn) (before : Site) (caller : Nat) (phase : Pool.Phase) : Prop extends
    turn.Stays before where
  serves : phase.Serves caller
  answer : turn.2 = none
  leases : turn.1.pool.leases = before.pool.leases
  tasks : turn.1.pool.tasks = before.pool.tasks ++ [⟨.caller caller, phase, some before.now⟩]

/-- A round for which the caller has `rounds` left. -/
def Turn.Serves (turn : Turn) (before : Site) (caller rounds : Nat) : Prop :=
  (∃ lease, turn.Lends before caller lease) ∨
    ∃ phase, turn.Asks before caller phase ∧ phase.rounds turn.1.pool.idle.length ≤ rounds

/-- Only what a round refers to matters. -/
theorem Turn.Serves.congr {turn : Turn} {before other : Site} {caller rounds : Nat}
    (serves : turn.Serves other caller rounds) (now : other.now = before.now)
    (config : other.pool.config = before.pool.config)
    (leases : other.pool.leases = before.pool.leases)
    (tasks : other.pool.tasks = before.pool.tasks) : turn.Serves before caller rounds := by
  rcases serves with ⟨lease, lends⟩ | ⟨phase, asks, left⟩
  · left
    refine ⟨lease, ⟨lends.running, lends.config.trans config, lends.prompt⟩, lends.ticket,
      lends.answer, ?_, lends.tasks.trans tasks⟩
    rw [lends.leases, leases]
  · right
    refine ⟨phase, ⟨⟨asks.running, asks.config.trans config, asks.prompt⟩, asks.serves,
      asks.answer, asks.leases.trans leases, ?_⟩, left⟩
    rw [asks.tasks, tasks, now]

namespace Site

open Pool (Agent Phase Task Checkout Balanced)

variable {site : Site} (running : site.pool.isShutdown = false) (prompt : site.server.IsPrompt)

include running prompt

theorem lend_lends (checkout : Checkout) (connection : Connection) :
    (site.lend checkout connection).Lends site checkout.caller
      ⟨checkout.caller, connection.checkOut site.now⟩ :=
  ⟨⟨running, rfl, prompt⟩, rfl, rfl, rfl, rfl⟩

/-- Where a connection is idle or a slot is free, the search for it goes on for one round for each
idle connection, and one more. -/
theorem seek_serves (checkout : Checkout) (never : checkout.patience = .never)
    (free : site.pool.idle ≠ [] ∨ site.pool.total < site.pool.config.maxConnections) :
    (site.seek checkout).Serves site checkout.caller (site.pool.idle.length + 1) := by
  rw [seek]
  dsimp only
  rw [if_neg (by simp [running])]
  split
  case h_1 connection rest queue =>
    split
    · right
      refine ⟨.borrowProbe checkout connection, ?_, ?_⟩
      · have at_once : site.now + site.server.probeTime connection.session = site.now := by
          rw [prompt.probeTime_eq]
          rfl
        rw [probe, at_once]
        exact ⟨⟨running, rfl, prompt.startProbe _⟩, ⟨rfl, never⟩, rfl, rfl, rfl⟩
      · rw [queue]
        exact Nat.le_refl _
    · left
      exact ⟨_, ⟨running, rfl, prompt⟩, rfl, rfl, rfl, rfl⟩
  case h_2 empty =>
    have room : site.pool.total < site.pool.config.maxConnections := by
      rcases free with queued | room
      · exact absurd empty queued
      · exact room
    rw [if_pos room]
    right
    refine ⟨.connecting checkout (.new site.pool.nextId site.now) .reaching, ?_, ?_⟩
    · have at_once : site.now + site.server.connectTime .reaching = site.now := by
        rw [Server.connectTime, prompt.connectDelay_eq]
        rfl
      simp only [connect, prompt.startConnect_eq, at_once]
      exact ⟨⟨running, rfl, prompt⟩, ⟨rfl, never, rfl⟩, rfl, rfl, rfl⟩
    · exact Nat.le_add_left 1 _

omit prompt in
/-- Where nothing is idle and no slot is free, a caller that does not want to wait gets nothing. -/
theorem seek_eq_decline (checkout : Checkout) (never : checkout.patience = .never)
    (empty : site.pool.idle = []) (full : site.pool.config.maxConnections ≤ site.pool.total) :
    site.seek checkout = site.decline := by
  rw [seek]
  dsimp only
  rw [if_neg (by simp [running]), empty]
  dsimp only
  rw [if_neg (Nat.not_lt_of_le full), never]

/-- A connection that turns out to be dead is replaced within its own slot. -/
theorem borrowProbed_serves (checkout : Checkout) (never : checkout.patience = .never)
    (connection : Connection) (room : site.pool.total - 1 < site.pool.config.maxConnections) :
    (site.borrowProbed checkout connection).Serves site checkout.caller
      (site.pool.idle.length + 1) := by
  rw [borrowProbed]
  dsimp only
  by_cases alive : site.server.answers connection.session = true
  · rw [if_pos (by simp [alive, running])]
    exact .inl ⟨_, lend_lends running prompt checkout connection⟩
  · rw [if_neg (by simp [alive]), if_neg alive]
    let released : Site := dispose { site with pool := { site.pool with
      active := site.pool.active.erase connection.id
      total := site.pool.total - 1 } } connection.broken
    have goes_on : (released.seek checkout).Serves released checkout.caller
        (released.pool.idle.length + 1) := by
      apply seek_serves
      · exact running
      · exact { prompt with }
      · exact never
      · exact .inr room
    exact goes_on.congr rfl rfl rfl rfl

/-- A connect that has been answered serves the caller. -/
theorem checkoutConnected_serves (checkout : Checkout) (metadata : Metadata) (rounds : Nat) :
    (site.checkoutConnected checkout metadata .reaching).Serves site checkout.caller rounds := by
  obtain ⟨server, still, answer⟩ := prompt.finishConnect_eq
  rw [checkoutConnected, connected, answer]
  dsimp only
  left
  refine ⟨⟨checkout.caller, (Connection.ofSession ⟨site.server.lastId + 1, true⟩
    metadata).checkOut site.now⟩, ?_⟩
  have lends : ¬ (site.pool.count (·.created)).isShutdown = true := by
    change ¬ site.pool.isShutdown = true
    simp [running]
  rw [if_neg lends]
  exact ⟨⟨running, rfl, still⟩, rfl, rfl, rfl, rfl⟩

end Site

namespace Pool

/-- Whoever rests is the checker. -/
theorem Balanced.agent_of_resting {callers : Nat} {pool : Pool}
    (balanced : Balanced callers pool 0) {task : Task} (present : task ∈ pool.tasks)
    (resting : task.phase = .resting) : task.agent = .checker := by
  have proper := balanced.proper task present
  rw [Task.Proper, resting] at proper
  exact proper

/-- A pool in which a caller waits for an answer of the server, and nobody else is in the middle of
anything. -/
structure Serving (pool : Pool) (now caller : Nat) (phase : Phase) (rest : List Task) : Prop where
  tasks : pool.tasks = rest ++ [⟨.caller caller, phase, some now⟩]
  resting : ∀ task ∈ rest, task.phase = .resting
  serves : phase.Serves caller

variable {callers now caller : Nat} {pool : Pool} {phase : Phase} {rest : List Task}

theorem Serving.mem (serving : pool.Serving now caller phase rest) :
    ⟨.caller caller, phase, some now⟩ ∈ pool.tasks := by
  rw [serving.tasks]
  exact List.mem_append_right _ (List.mem_singleton_self _)

/-- When the caller goes on, only those who rest are left. -/
theorem Serving.unpark_tasks (serving : pool.Serving now caller phase rest)
    (balanced : Balanced callers pool 0) : (pool.unpark (.caller caller)).tasks = rest := by
  have others : ∀ task ∈ rest, ¬ (task.agent == .caller caller) = true := by
    intro task member same
    have present : task ∈ pool.tasks := by
      rw [serving.tasks]
      exact List.mem_append_left _ member
    have checker := balanced.agent_of_resting present (serving.resting task member)
    rw [checker] at same
    contradiction
  rw [unpark]
  dsimp only
  rw [serving.tasks, List.eraseP_append_right _ others]
  simp

end Pool

namespace Site

open Pool (Agent Phase Task Balanced Serving)

/-- A caller that goes on has one round less left. -/
theorem resume_serves {site : Site} {callers caller : Nat} {phase : Phase} {rest : List Task}
    (running : site.pool.isShutdown = false) (prompt : site.server.IsPrompt)
    (balanced : Balanced callers site.pool 0)
    (serving : site.pool.Serving site.now caller phase rest) :
    ∃ rounds, phase.rounds site.pool.idle.length = rounds + 1 ∧
      (site.resume (.caller caller)).Serves (site.withPool (·.unpark (.caller caller))) caller
        rounds := by
  have found := balanced.task?_eq serving.mem
  have ready : site.pool.isReady site.now ⟨.caller caller, phase, some site.now⟩ = true := by
    simp [Pool.isReady, Task.isDue]
  rw [resume_eq_proceed found ready]
  have serves := serving.serves
  cases phase with
  | borrowProbe checkout connection =>
      obtain ⟨rfl, never⟩ := serves
      refine ⟨site.pool.idle.length + 1, rfl, ?_⟩
      apply borrowProbed_serves
      · exact running
      · exact prompt
      · exact never
      · have some := balanced.total_pos serving.mem rfl
        have capacity := balanced.books.total_le
        change site.pool.total - 1 < site.pool.config.maxConnections
        omega
  | connecting checkout metadata attempt =>
      obtain ⟨rfl, never, rfl⟩ := serves
      refine ⟨0, rfl, ?_⟩
      apply checkoutConnected_serves
      · exact running
      · exact prompt
  | _ => exact serves.elim

end Site

end SessionPool

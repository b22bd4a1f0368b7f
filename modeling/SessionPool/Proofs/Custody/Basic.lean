import SessionPool.Proofs.Disposal.Carry
import SessionPool.Proofs.Waits

/-!
# Custody

What has to be true of a connection depends on where it is. Those in the idle queue, and those that
a sweep has taken out of it, may be lent next. One that is being probed is lent or queued if the
answer is good. Those that callers hold come back in whatever state they are, and those that are
evicted have only to be disconnected. A custody says what is to be true in each of these places; it
is lawful if it stays true of connections that are used, come back or are found dead, and of what
the server does meanwhile. Sessions that are opened ask for more.
-/

namespace SessionPool

/-! ### What a server knows of sessions -/

namespace Server

/-- A server that knows the same of every session, and may differ in anything else. -/
structure Agrees (server other : Server) : Prop where
  lastId_eq : other.lastId = server.lastId
  openIds_eq : other.openIds = server.openIds
  disconnects_eq : other.disconnects = server.disconnects

/-- A server that has opened one session more. -/
structure Opens (server after : Server) : Prop where
  lastId_eq : after.lastId = server.lastId + 1
  openIds_eq : after.openIds = (server.lastId + 1) :: server.openIds
  disconnects_eq : after.disconnects = server.disconnects

variable (server : Server)

theorem agrees_startProbe (session : Session) : server.Agrees (server.startProbe session) := by
  unfold startProbe
  split <;> exact ⟨rfl, rfl, rfl⟩

theorem agrees_startConnect : server.Agrees server.startConnect.1 := by
  unfold startConnect
  split <;> exact ⟨rfl, rfl, rfl⟩

theorem agrees_run (session : Session) (statement : String) :
    server.Agrees (server.run session statement).1 := by
  unfold run
  split <;> exact ⟨rfl, rfl, rfl⟩

theorem agrees_execute (session : Session) (statement : String) :
    server.Agrees (server.execute session statement).1 := by
  have ran := server.agrees_run session statement
  unfold execute
  split <;> rename_i answer <;> rwa [answer] at ran

theorem agrees_query (session : Session) (statement : String) :
    server.Agrees (server.query session statement).1 := by
  have ran := server.agrees_run session statement
  unfold query
  split <;> rename_i answer <;> rwa [answer] at ran

/-- No instruction opens or disconnects a session. -/
theorem agrees_obey (command : Command) : server.Agrees (server.obey command) := by
  cases command <;> exact ⟨rfl, rfl, rfl⟩

/-- A connect fails and leaves the sessions as they are, or opens the session whose name comes
next. -/
theorem finishConnect_opens (attempt : Attempt) :
    (∃ after error, server.finishConnect attempt = (after, .error error) ∧ server.Agrees after) ∨
      ∃ after, server.finishConnect attempt = (after, .ok ⟨server.lastId + 1, true⟩) ∧
        server.Opens after := by
  unfold finishConnect
  cases attempt with
  | faulted error => exact .inl ⟨_, _, rfl, rfl, rfl, rfl⟩
  | reaching =>
      dsimp only
      by_cases refusing : server.refusing = true
      · rw [if_pos refusing]
        exact .inl ⟨_, _, rfl, rfl, rfl, rfl⟩
      · rw [if_neg refusing]
        by_cases failing : 0 < server.failing
        · rw [if_pos failing]
          exact .inl ⟨_, _, rfl, rfl, rfl, rfl⟩
        · rw [if_neg failing]
          exact .inr ⟨_, rfl, rfl, rfl, rfl⟩

/-- A session that a connect gives is the one whose name comes next. -/
theorem eq_of_finishConnect {server : Server} {attempt : Attempt} {session : Session}
    (answer : (server.finishConnect attempt).2 = .ok session) :
    session = ⟨server.lastId + 1, true⟩ := by
  rcases server.finishConnect_opens attempt with ⟨after, error, failed, _⟩ | ⟨after, opened, _⟩
  · rw [failed] at answer
    cases answer
  · rw [opened] at answer
    exact (Except.ok.inj answer).symm

end Server

namespace Pool

/-- Whether the agent waits for the server to open a session. -/
def Task.isOpening (task : Task) : Bool :=
  match task.phase with
  | .prewarming _ _ _ | .connecting _ _ _ => true
  | _ => false

/-- The connections that a sweep puts back if it ends with the answer to this probe. -/
def Sweep.survivors (sweep : Sweep) (server : Server) (connection : Connection) :
    List Connection :=
  if server.answers connection.session then sweep.kept ++ [connection] else sweep.kept

/-! ### Custody -/

/-- What is to be true of the connections of a pool, depending on where they are. -/
structure Custody where
  /-- The idle queue, and what a sweep may put back into it. -/
  queue : List Connection → Prop
  /-- A connection that is being probed before it is lent or queued. -/
  fit : Connection → Prop
  /-- A connection in the hands of a caller, or on its way out of the pool. -/
  held : Connection → Prop
  /-- The record of a connection that is being made. -/
  record : Metadata → Prop

namespace Custody

/-- The custody in which each queued connection has to be fit, in whatever order they are. -/
def each (fit held : Connection → Prop) (record : Metadata → Prop) : Custody where
  queue connections := ∀ connection ∈ connections, fit connection
  fit := fit
  held := held
  record := record

/-- A custody that stays true of connections wherever they go, as long as the server serves. -/
structure Lawful (custody : Custody) (serves : Server → Prop) (now : Nat) : Prop where
  nil : custody.queue []
  sublist {fewer connections : List Connection} (some : fewer.Sublist connections)
    (queued : custody.queue connections) : custody.queue fewer
  fit_of_mem {connections : List Connection} (queued : custody.queue connections)
    {connection : Connection} (member : connection ∈ connections) : custody.fit connection
  held_of_fit {connection : Connection} (fit : custody.fit connection) : custody.held connection
  checkOut {connection : Connection} (fit : custody.fit connection) :
    custody.fit (connection.checkOut now)
  touch {connection : Connection} (held : custody.held connection) :
    custody.held (connection.touch now)
  /-- What comes back and may be lent again is fit. -/
  mend {connection : Connection} (held : custody.held connection)
    (reusable : connection.isReusable = true) : custody.fit (connection.touch now)
  back {connections : List Connection} (queued : custody.queue connections)
    {connection : Connection} (held : custody.held connection)
    (reusable : connection.isReusable = true) :
    custody.queue (connections ++ [connection.touch now])
  broken {connection : Connection} (held : custody.held connection) :
    custody.held connection.broken
  new (id : Nat) : custody.record (.new id now)
  /-- The server serves on, whatever it is asked for. -/
  agrees {server other : Server} (agrees : server.Agrees other) (served : serves server) :
    serves other
  disconnect {server : Server} (served : serves server) {connection : Connection}
    (held : custody.held connection) : serves (server.disconnect connection.session)

/-- A custody that new sessions are fit for. -/
structure Opening (custody : Custody) (serves : Server → Prop) : Prop where
  opened {server : Server} (served : serves server) {metadata : Metadata}
    (made : custody.record metadata) :
    custody.fit (.ofSession ⟨server.lastId + 1, true⟩ metadata)
  opens {server after : Server} (opens : server.Opens after) (served : serves server) :
    serves after

/-- What is true of the connections of an agent that waits, and of the one it waits for. -/
def carries (custody : Custody) (task : Task) : Prop :=
  match task.phase with
  | .prewarming _ metadata _ | .connecting _ metadata _ => custody.record metadata
  | .borrowProbe _ connection | .returnProbe connection => custody.fit connection
  | .sweeping sweep current pending =>
      custody.queue (sweep.kept ++ current :: pending) ∧
        ∀ connection ∈ sweep.evicted, custody.held connection
  | _ => True

/-- What has to be true of the connections of an agent that goes on. One whose probe fails needs
only be fit to be disposed of. -/
def hands (custody : Custody) (server : Server) (task : Task) : Prop :=
  match task.phase with
  | .prewarming _ metadata _ | .connecting _ metadata _ => custody.record metadata
  | .borrowProbe _ connection | .returnProbe connection =>
      custody.held connection.broken ∧
        (server.answers connection.session = true → custody.fit connection)
  | .sweeping sweep current pending =>
      (∀ connection ∈ sweep.evicted, custody.held connection) ∧ custody.held current.broken ∧
        custody.queue (sweep.kept ++ pending) ∧
        (server.answers current.session = true →
          custody.queue (sweep.kept ++ current :: pending))
  | _ => True

/-- The idle queue is as it has to be if an agent that goes on joins its connections to it. -/
def joins (custody : Custody) (site : Site) (agent : Agent) (task : Task) : Prop :=
  match task.phase with
  | .prewarming _ metadata attempt => ∀ session,
      (site.server.finishConnect attempt).2 = .ok session →
        custody.queue (site.pool.idle ++ [.ofSession session metadata])
  | .returnProbe connection =>
      site.pool.isShutdown = false → site.server.answers connection.session = true →
        custody.queue (site.pool.idle ++ [connection])
  | .sweeping sweep current pending =>
      site.pool.isShutdown = false →
        (site.sweepProbed agent sweep current pending).2.isSome = true →
          custody.queue (sweep.survivors site.server current ++ site.pool.idle)
  | _ => True

/-- What is true of the connection that an answer hands out. -/
def gives (custody : Custody) : Answer → Prop
  | .ok (.lent lease) => custody.fit lease.connection
  | .ok (.detached session) => ∃ connection, custody.held connection ∧ connection.session = session
  | _ => True

@[simp]
theorem carries_notify (custody : Custody) (task : Task) :
    custody.carries task.notify ↔ custody.carries task := by
  obtain ⟨agent, phase, due⟩ := task
  cases phase <;> rfl

/-- What an agent has while it waits is what it needs to go on. -/
theorem Lawful.hands_of_carries {custody : Custody} {serves : Server → Prop} {now : Nat}
    (lawful : custody.Lawful serves now) {task : Task} (carried : custody.carries task)
    (server : Server) : custody.hands server task := by
  have judged {connection : Connection} (fit : custody.fit connection) :
      custody.held connection.broken ∧
        (server.answers connection.session = true → custody.fit connection) :=
    ⟨lawful.broken (lawful.held_of_fit fit), fun _ => fit⟩
  obtain ⟨agent, phase, due⟩ := task
  cases phase with
  | borrowProbe checkout connection => exact judged carried
  | returnProbe connection => exact judged carried
  | sweeping sweep current pending =>
      obtain ⟨queued, evicted⟩ := carried
      have here : current ∈ sweep.kept ++ current :: pending :=
        List.mem_append_right _ List.mem_cons_self
      refine ⟨evicted, (judged (lawful.fit_of_mem queued here)).1, ?_, fun _ => queued⟩
      exact lawful.sublist ((List.sublist_cons_self _ _).append_left _) queued
  | _ => exact carried

section Each

variable {fit held : Connection → Prop} {record : Metadata → Prop} {serves : Server → Prop}
  {now : Nat}

/-- Where the order does not matter, it is enough to look at one connection at a time. -/
theorem lawful_each (held_of_fit : ∀ connection, fit connection → held connection)
    (checkOut : ∀ connection, fit connection → fit (connection.checkOut now))
    (touch : ∀ connection, held connection → held (connection.touch now))
    (mend : ∀ connection, held connection → connection.isReusable = true →
      fit (connection.touch now))
    (broken : ∀ connection, held connection → held connection.broken)
    (new : ∀ id, record (.new id now))
    (agrees : ∀ server other : Server, server.Agrees other → serves server → serves other)
    (disconnect : ∀ server connection, serves server → held connection →
      serves (server.disconnect connection.session)) :
    (each fit held record).Lawful serves now where
  nil := List.forall_mem_nil _
  sublist some queued connection member := queued connection (some.subset member)
  fit_of_mem queued _ member := queued _ member
  held_of_fit := held_of_fit _
  checkOut := checkOut _
  touch := touch _
  mend := mend _
  back queued _ held reusable :=
    List.forall_mem_append.mpr ⟨queued, List.forall_mem_singleton.mpr (mend _ held reusable)⟩
  broken := broken _
  new := new
  agrees := agrees _ _
  disconnect served _ held := disconnect _ _ served held

end Each

end Custody

/-! ### Pools -/

/-- Every connection of a pool is as the place requires where it is. -/
structure InCustody (custody : Custody) (pool : Pool) : Prop where
  idle : custody.queue pool.idle
  leases (lease : Lease) (valid : lease ∈ pool.leases) : custody.held lease.connection
  tasks : pool.All pool.config custody.carries

namespace InCustody

variable {custody : Custody} {serves : Server → Prop} {now : Nat} {pool : Pool}

theorem new (lawful : custody.Lawful serves now) (config : Config) :
    (Pool.new config now).InCustody custody where
  idle := lawful.nil
  leases _ absent := absurd absent List.not_mem_nil
  tasks := .new config now _

variable (kept : pool.InCustody custody)

include kept

/-- What is true in one custody is true in another that asks for less. -/
theorem mono {other : Custody} (queue : ∀ connections, custody.queue connections →
      other.queue connections)
    (fit : ∀ connection, custody.fit connection → other.fit connection)
    (held : ∀ connection, custody.held connection → other.held connection)
    (record : ∀ metadata, custody.record metadata → other.record metadata) :
    pool.InCustody other where
  idle := queue _ kept.idle
  leases lease valid := held _ (kept.leases lease valid)
  tasks := by
    refine ⟨rfl, fun task present => ?_⟩
    have carried := kept.tasks.2 task present
    obtain ⟨agent, phase, due⟩ := task
    cases phase with
    | prewarming made metadata attempt => exact record _ carried
    | connecting checkout metadata attempt => exact record _ carried
    | borrowProbe checkout connection => exact fit _ carried
    | returnProbe connection => exact fit _ carried
    | sweeping sweep current pending =>
        exact ⟨queue _ carried.1, fun connection evicted => held _ (carried.2 connection evicted)⟩
    | _ => trivial

theorem park {task : Task} (carried : custody.carries task) :
    (pool.park task).InCustody custody :=
  { kept with tasks := kept.tasks.park carried }

theorem unpark (agent : Agent) : (pool.unpark agent).InCustody custody :=
  { kept with tasks := kept.tasks.unpark agent }

theorem notifyOne : pool.notifyOne.InCustody custody :=
  { kept with tasks := kept.tasks.notifyOne fun task => (custody.carries_notify task).mpr }

theorem notifyMany (count : Nat) : (Pool.notifyMany count pool).InCustody custody := by
  induction count generalizing pool with
  | zero => exact kept
  | succ count ih => exact ih kept.notifyOne

theorem notifyAll : pool.notifyAll.InCustody custody :=
  { kept with tasks := kept.tasks.notifyAll fun task => (custody.carries_notify task).mpr }

theorem reorder (tasks : List Task) : (pool.reorder tasks).InCustody custody := by
  have all := kept.tasks.reorder tasks
  rw [Pool.reorder] at all ⊢
  split
  case isTrue same =>
    rw [if_pos same] at all
    exact { kept with tasks := all }
  case isFalse => exact kept

theorem endLease (ticket : Nat) : (pool.endLease ticket).InCustody custody :=
  { kept with leases := fun lease valid => kept.leases lease (List.mem_of_mem_eraseP valid) }

omit kept in
/-- Only the lease that is changed needs not have been as required before. -/
theorem updateLease {ticket : Nat} {connection : Connection}
    (ended : (pool.endLease ticket).InCustody custody) (held : custody.held connection) :
    (pool.updateLease ticket connection).InCustody custody := by
  refine { ended with leases := ?_ }
  intro lease valid
  obtain ⟨old, before, rfl⟩ := List.mem_map.mp valid
  split
  case isTrue => exact held
  case isFalse other =>
    have stays : old ∈ pool.leases.eraseP (·.ticket == ticket) ↔ old ∈ pool.leases := by
      apply List.mem_eraseP_of_neg
      exact other
    exact ended.leases old (stays.mpr before)

end InCustody

end Pool

/-! ### Turns -/

/-- A pool in a lawful custody, and a server that serves. -/
structure Site.InCustody (custody : Pool.Custody) (serves : Server → Prop) (site : Site) :
    Prop where
  lawful : custody.Lawful serves site.now
  pool : site.pool.InCustody custody
  server : serves site.server

/-- A turn that leaves every connection as required, those included that it hands out. -/
structure Turn.InCustody (custody : Pool.Custody) (serves : Server → Prop) (turn : Turn) :
    Prop where
  site : turn.1.InCustody custody serves
  gives (answer : Pool.Answer) (ends : turn.2 = some answer) : custody.gives answer

end SessionPool

import Mathlib.Data.List.TakeWhile
import SessionPool.Proofs.Alone.Basic
import SessionPool.Proofs.Capacity.Serving
import SessionPool.Proofs.Ownership.Exclusive

/-!
# The first live session

A checkout that nobody disturbs goes through the idle queue from the front. It disposes of the dead
sessions that it meets and takes the first live one; where the queue has none to lend, it connects
once if there is room, and otherwise leaves the pool as it is. Without a probe nothing is found to
be dead, so the first session of the queue is taken unseen.
-/

namespace SessionPool

/-! ### The dead in front -/

namespace Site

/-- The dead connections that a checkout meets in the idle queue, if it probes at all. -/
def deadFront (site : Site) : List Connection :=
  if site.pool.config.testOnBorrow then
    site.pool.idle.takeWhile fun connection => !site.server.answers connection.session
  else []

/-- The idle queue from the first connection on that a checkout does not find dead. -/
def lendable (site : Site) : List Connection :=
  if site.pool.config.testOnBorrow then
    site.pool.idle.dropWhile fun connection => !site.server.answers connection.session
  else site.pool.idle

variable {site : Site}

theorem deadFront_append_lendable (site : Site) :
    site.deadFront ++ site.lendable = site.pool.idle := by
  unfold deadFront lendable
  split
  · exact List.takeWhile_append_dropWhile
  · rfl

theorem dead_of_mem_deadFront {connection : Connection} (member : connection ∈ site.deadFront) :
    site.pool.config.testOnBorrow = true ∧ site.server.answers connection.session = false := by
  unfold deadFront at member
  split at member
  case isTrue probes => exact ⟨probes, by simpa using List.mem_takeWhile_imp member⟩
  case isFalse => exact absurd member List.not_mem_nil

/-- What can be lent begins with a live connection, if the pool probes. -/
theorem answers_of_lendable {connection : Connection} {rest : List Connection}
    (queue : site.lendable = connection :: rest)
    (probes : site.pool.config.testOnBorrow = true) :
    site.server.answers connection.session = true := by
  rw [lendable, if_pos probes] at queue
  have head := List.head?_dropWhile_not (fun connection : Connection =>
    !site.server.answers connection.session) site.pool.idle
  rw [queue] at head
  simpa using head

end Site

namespace Server

/-- The server when each of these connections has failed a probe and has been disconnected. -/
def bury (server : Server) (dead : List Connection) : Server :=
  dead.foldl (fun server connection =>
    (server.startProbe connection.session).disconnect connection.session) server

variable (server : Server)

theorem bury_cons (connection : Connection) (rest : List Connection) :
    server.bury (connection :: rest) =
      ((server.startProbe connection.session).disconnect connection.session).bury rest :=
  rfl

/-- Nobody dies because others are buried. -/
theorem answers_bury (dead : List Connection) (session : Session) :
    (server.bury dead).answers session = server.answers session := by
  induction dead generalizing server with
  | nil => rfl
  | cons connection rest ih =>
      rw [bury_cons, ih]
      exact server.answers_startProbe connection.session session

theorem disconnects_bury (dead : List Connection) :
    (server.bury dead).disconnects = (dead.map (·.name)).reverse ++ server.disconnects := by
  induction dead generalizing server with
  | nil => rfl
  | cons connection rest ih =>
      rw [bury_cons, ih, disconnect]
      simp

/-- Each of them is disconnected once, if they are different sessions. -/
theorem disconnectCount_bury {dead : List Connection} (different : (dead.map (·.name)).Nodup)
    (id : Nat) : (server.bury dead).disconnectCount id =
      server.disconnectCount id + if id ∈ dead.map (·.name) then 1 else 0 := by
  rw [disconnectCount, disconnects_bury, List.count_append, List.count_reverse]
  rw [Nat.add_comm, disconnectCount]
  split
  case isTrue member => rw [List.count_eq_one_of_mem different member]
  case isFalse absent => rw [List.count_eq_zero_of_not_mem absent]

end Server

/-! ### The search -/

namespace Pool

/-- How long a caller of this job is ready to wait for something to become free. -/
def Job.patience (config : Config) (now : Nat) : Job → Patience
  | .acquire timeout => .ofTimeout now timeout
  | .get => .ofTimeout now config.acquireTimeout
  | _ => .never

/-- Several connections have been disposed of. -/
def Counters.closedMany (counters : Counters) (count : Nat) : Counters :=
  { counters with connectionsClosed := counters.connectionsClosed + count }

end Pool

namespace Site

open Pool (Agent Phase Checkout Job)

/-- The site when the dead connections in front have been disposed of. -/
def cleared (site : Site) : Site :=
  ⟨site.now, site.server.bury site.deadFront, { site.pool with
    idle := site.lendable
    total := site.pool.total - site.deadFront.length
    counters := site.pool.counters.closedMany site.deadFront.length }⟩

/-- The site while the first connection of the queue is being probed for a caller. -/
def taking (site : Site) (connection : Connection) (rest : List Connection) : Site :=
  { site with
    server := site.server.startProbe connection.session
    pool := { site.pool with idle := rest, active := connection.id :: site.pool.active } }

/-- The site when the first connection of the queue has been disposed of. -/
def passed (site : Site) (connection : Connection) (rest : List Connection) : Site :=
  dispose { site with
    server := site.server.startProbe connection.session
    pool := { site.pool with idle := rest, total := site.pool.total - 1 } } connection.broken

/-- The site when a caller has come in. -/
def entered (site : Site) : Site :=
  { site with pool := { site.pool with waiting := site.pool.waiting + 1 } }

variable {site : Site} {checkout : Checkout} {connection : Connection} {rest : List Connection}

theorem cleared_eq_self (none : site.deadFront = []) : site.cleared = site := by
  have queue := site.deadFront_append_lendable
  rw [none, List.nil_append] at queue
  rw [cleared, none, queue]
  rfl

section Dead

variable (probes : site.pool.config.testOnBorrow = true)
  (queue : site.pool.idle = connection :: rest)
  (dead : site.server.answers connection.session = false)

include probes queue dead

theorem deadFront_eq_cons :
    site.deadFront = connection :: (site.passed connection rest).deadFront := by
  have still : (site.passed connection rest).pool.config.testOnBorrow = true := probes
  have others : (site.passed connection rest).deadFront =
      rest.takeWhile fun other => !site.server.answers other.session := by
    rw [deadFront, if_pos still]
    congr 1
    funext other
    exact congrArg not (site.server.answers_startProbe connection.session other.session)
  rw [others, deadFront, if_pos probes, queue, List.takeWhile_cons_of_pos]
  simp [dead]

/-- The first dead connection can be taken out before the others. -/
theorem cleared_passed : (site.passed connection rest).cleared = site.cleared := by
  have front := deadFront_eq_cons probes queue dead
  have parts := site.deadFront_append_lendable
  have later : (site.passed connection rest).deadFront ++ (site.passed connection rest).lendable =
      rest := (site.passed connection rest).deadFront_append_lendable
  have same : (site.passed connection rest).lendable = site.lendable := by
    rw [front, queue, List.cons_append] at parts
    exact List.append_cancel_left (later.trans (List.cons.inj parts).2.symm)
  rw [cleared, cleared, same, front, Server.bury_cons, List.length_cons]
  congr 1
  simp only [passed, dispose, Pool.count, Pool.Counters.closed, Pool.Counters.closedMany]
  congr 1
  · omega
  · congr 1
    omega

end Dead

variable (running : site.pool.isShutdown = false)

include running

theorem seek_eq_wait (probes : site.pool.config.testOnBorrow = true)
    (queue : site.pool.idle = connection :: rest) :
    site.seek checkout = (site.taking connection rest).wait (.caller checkout.caller)
      (.borrowProbe checkout connection)
      (some (site.now + site.server.probeTime connection.session)) := by
  rw [seek]
  dsimp only
  rw [if_neg (by simp [running]), queue]
  dsimp only
  rw [if_pos probes]
  rfl

omit running in
/-- The search begins again behind a connection that has turned out to be dead. -/
theorem borrowProbed_taking_dead (dead : site.server.answers connection.session = false) :
    (site.taking connection rest).borrowProbed checkout connection =
      (site.passed connection rest).seek checkout := by
  have verdict : (site.taking connection rest).server.answers connection.session = false :=
    (site.server.answers_startProbe _ _).trans dead
  rw [borrowProbed]
  dsimp only
  rw [if_neg (by simp [verdict]), if_neg (by simp [verdict])]
  simp only [taking, List.erase_cons_head]
  rfl

/-- One that is alive is lent. -/
theorem borrowProbed_taking_live (live : site.server.answers connection.session = true) :
    (site.taking connection rest).borrowProbed checkout connection =
      (site.taking connection rest).lend checkout connection := by
  have verdict : (site.taking connection rest).server.answers connection.session = true :=
    (site.server.answers_startProbe _ _).trans live
  have lends : (site.taking connection rest).pool.isShutdown = false := running
  rw [borrowProbed]
  dsimp only
  exact if_pos (by simp [verdict, lends])

/-- A caller that comes in looks for a connection at once. -/
theorem work_eq_seek {job : Job} (asks : job.isCheckout = true) (caller : Nat) :
    job.work caller site =
      site.entered.seek ⟨caller, site.now, job.patience site.pool.config site.now⟩ := by
  have enters (patience : Pool.Patience) : site.checkout caller patience =
      site.entered.seek ⟨caller, site.now, patience⟩ := if_neg (by simp [running])
  cases job with
  | acquire timeout => exact enters _
  | get => exact enters _
  | tryGet => exact enters _
  | _ => contradiction

end Site

namespace World.Trace

open Pool (Agent Phase Checkout)

variable {index : Nat} (site : Site) (checkout : Checkout) {trace : Trace}
  (running : site.pool.isShutdown = false)
  (fresh : ∀ other ∈ site.pool.tasks, other.agent ≠ .caller checkout.caller)
  (shows : trace.Shows index (.caller checkout.caller) site.now (site.seek checkout))

include running fresh shows

/-- A caller that works alone disposes of the dead connections in front, one with each turn. -/
theorem Shows.clear {lates : List Nat} (enough : site.deadFront.length ≤ lates.length) :
    ∃ later next left, site.now ≤ later ∧ left.length + site.deadFront.length = lates.length ∧
      trace.alone index (.caller checkout.caller) lates =
        Trace.alone index (.caller checkout.caller) left next ∧
      next.Shows index (.caller checkout.caller) later
        (({ site.cleared with now := later } : Site).seek checkout) := by
  generalize queue : site.pool.idle = idle
  induction idle generalizing site trace lates with
  | nil =>
      have none : site.deadFront = [] := by
        have parts := site.deadFront_append_lendable
        rw [queue] at parts
        exact (List.append_eq_nil_iff.mp parts).1
      refine ⟨site.now, trace, lates, Nat.le_refl _, by rw [none]; rfl, rfl, ?_⟩
      rw [Site.cleared_eq_self none]
      exact shows
  | cons connection rest ih =>
      by_cases dead : site.pool.config.testOnBorrow = true ∧
          site.server.answers connection.session = false
      · obtain ⟨probes, dead⟩ := dead
        have front := Site.deadFront_eq_cons probes queue dead
        cases lates with
        | nil => simp [front] at enough
        | cons late lates =>
            rw [Site.seek_eq_wait running probes queue] at shows
            have freshThen : ∀ other ∈ (site.taking connection rest).pool.tasks,
                other.agent ≠ .caller checkout.caller := fresh
            obtain ⟨later, next, after, -, goes, showsNext⟩ :=
              shows.alone_cons freshThen late lates
            let before : Site := { site with now := later }
            have deadThen : before.server.answers connection.session = false := dead
            have probesThen : before.pool.config.testOnBorrow = true := probes
            have here : ({ site.taking connection rest with now := later } : Site).proceed
                (.caller checkout.caller) (.borrowProbe checkout connection) =
                (before.passed connection rest).seek checkout :=
              Site.borrowProbed_taking_dead deadThen
            rw [here] at showsNext
            have fewer : (before.passed connection rest).deadFront.length ≤ lates.length := by
              have length := congrArg List.length front
              rw [List.length_cons] at length enough
              change (site.passed connection rest).deadFront.length ≤ lates.length
              omega
            obtain ⟨last, final, left, afterward, spent, ends, showsLast⟩ :=
              ih (before.passed connection rest) running fresh showsNext fewer rfl
            refine ⟨last, final, left, Nat.le_trans after afterward, ?_, goes.trans ends, ?_⟩
            · have length := congrArg List.length front
              rw [List.length_cons] at length
              rw [List.length_cons, length]
              exact congrArg (· + 1) spent
            · have same : (before.passed connection rest).cleared = before.cleared :=
                Site.cleared_passed probesThen queue deadThen
              rw [same] at showsLast
              exact showsLast
      · have none : site.deadFront = [] := by
          rw [Site.deadFront, queue]
          split
          case isTrue probes =>
            rw [List.takeWhile_cons_of_neg]
            simpa [probes] using dead
          case isFalse => rfl
        refine ⟨site.now, trace, lates, Nat.le_refl _, by rw [none]; rfl, rfl, ?_⟩
        rw [Site.cleared_eq_self none]
        exact shows

end World.Trace

end SessionPool

import Mathlib.Data.List.Rotate
import SessionPool.Proofs.Alone.Return
import SessionPool.Proofs.Custody.Quarantine

/-!
# The idle queue goes round

A caller that takes the first idle connection and gives it back leaves it behind all the others. So
callers that do this one after the other, with nothing else in between, are lent the idle sessions
in the order of the queue, over and over again, and each of them comes round once in every round.
-/

namespace SessionPool

namespace Connection

/-- The connection without the time of its last use. -/
def undated (connection : Connection) : Connection := connection.touch 0

/-- The connection after it has been lent some more times. -/
def lentMore (connection : Connection) (times : Nat) : Connection :=
  { connection with metadata :=
    { connection.metadata with checkouts := connection.metadata.checkouts + times } }

@[simp]
theorem session_undated (connection : Connection) :
    connection.undated.session = connection.session :=
  rfl

@[simp]
theorem session_lentMore (connection : Connection) (times : Nat) :
    (connection.lentMore times).session = connection.session :=
  rfl

@[simp]
theorem lentMore_zero (connection : Connection) : connection.lentMore 0 = connection :=
  rfl

/-- A connection that is lent and comes back has been lent once more. -/
theorem undated_touch_checkOut (connection : Connection) (now later : Nat) :
    ((connection.checkOut now).touch later).undated = connection.undated.lentMore 1 :=
  rfl

/-- A connection that is lent again has been lent once more than before. -/
theorem undated_lentMore_add (connection : Connection) (times more : Nat) :
    (connection.lentMore (times + more)).undated =
      (connection.lentMore times).undated.lentMore more := by
  simp [lentMore, undated, touch, Metadata.touch, Nat.add_assoc]

end Connection

/-! ### Queues that go round -/

namespace Pool

/-- The pool when a connection has been lent and has come back, with these in front of it. -/
def circulated (pool : Pool) (rest : List Connection) (connection : Connection) : Pool :=
  { pool with idle := rest ++ [connection], counters := pool.counters.checkedOut }

/-- What has become of a pool from which these sessions have been lent, one after the other. -/
structure Rotated (before : Pool) (lent : List Session) (after : Pool) : Prop where
  order (place : Nat) (inside : place < lent.length) :
    lent[place]? = (before.idle.map (·.session))[place % before.idle.length]?
  idle_eq : after.idle.map (·.undated) =
    (before.idle.map fun connection =>
      (connection.lentMore (lent.count connection.session)).undated).rotate
        (lent.length % before.idle.length)
  after_eq : after = { before with
    idle := after.idle
    counters := { before.counters with
      checkoutsSuccessful := before.counters.checkoutsSuccessful + lent.length } }

/-- At first nothing has gone round. -/
theorem rotated_nil (pool : Pool) : Rotated pool [] pool where
  order place inside := absurd inside (Nat.not_lt_zero place)
  idle_eq := by simp
  after_eq := rfl

/-- The pool while the first idle connection is lent, with these behind it. -/
def lending (pool : Pool) (rest : List Connection) (lease : Lease) : Pool :=
  { pool with
    idle := rest
    active := lease.connection.id :: pool.active
    leases := lease :: pool.leases
    counters := pool.counters.checkedOut }

theorem lease?_lending (pool : Pool) (rest : List Connection) (lease : Lease) :
    (pool.lending rest lease).lease? lease.ticket = some lease :=
  List.find?_cons_of_pos (beq_self_eq_true lease.ticket)

namespace Rotated

variable {before after : Pool} {lent : List Session} (rotated : Rotated before lent after)
  (different : (before.idle.map (·.session)).Nodup)

include rotated

theorem length_eq : after.idle.length = before.idle.length := by
  have lengths := congrArg List.length rotated.idle_eq
  simpa using lengths

theorem sessions_eq : after.idle.map (·.session) =
    (before.idle.map (·.session)).rotate (lent.length % before.idle.length) := by
  have sessions := congrArg (List.map (·.session)) rotated.idle_eq
  simpa [List.map_rotate, Function.comp_def] using sessions

include different

theorem nodup : (after.idle.map (·.session)).Nodup := by
  rw [rotated.sessions_eq, List.nodup_rotate]
  exact different

/-- One connection more has gone round. -/
theorem step {connection : Connection} {rest : List Connection}
    (queue : after.idle = connection :: rest) (now later : Nat) :
    Rotated before (lent ++ [connection.session])
      (after.circulated rest ((connection.checkOut now).touch later)) := by
  have size : before.idle.length = rest.length + 1 := by
    rw [← rotated.length_eq, queue, List.length_cons]
  have inside : lent.length % before.idle.length < before.idle.length := by
    apply Nat.mod_lt
    rw [size]
    exact Nat.succ_pos _
  constructor
  case order =>
    intro place here
    rw [List.length_append, List.length_singleton] at here
    rcases Nat.lt_succ_iff_lt_or_eq.mp here with earlier | rfl
    · rw [List.getElem?_append_left earlier]
      exact rotated.order place earlier
    · have first := List.head?_rotate (l := before.idle.map (·.session)) (by simpa using inside)
      rw [← rotated.sessions_eq, queue] at first
      rw [List.getElem?_append_right (Nat.le_refl _), Nat.sub_self]
      exact first
  case idle_eq =>
    -- The counts change for the connection that has been lent, and for no other.
    let bump (other : Connection) : Connection :=
      if other.session = connection.session then other.lentMore 1 else other
    have others : (rest.map (·.undated)).map bump = rest.map (·.undated) := by
      have distinct := rotated.nodup different
      rw [queue, List.map_cons, List.nodup_cons] at distinct
      rw [List.map_map]
      apply List.map_congr_left
      intro other behind
      have apart : other.session ≠ connection.session := by
        intro same
        exact distinct.1 (List.mem_map.mpr ⟨other, behind, same⟩)
      simp [bump, apart]
    have counted (other : Connection) :
        (other.lentMore ((lent ++ [connection.session]).count other.session)).undated =
          bump (other.lentMore (lent.count other.session)).undated := by
      rw [List.count_append, Connection.undated_lentMore_add]
      by_cases same : other.session = connection.session
      · simp [bump, same]
      · simp [bump, same, Ne.symm same]
    calc (rest ++ [(connection.checkOut now).touch later]).map (·.undated)
        = ((rest.map (·.undated)) ++ [connection.undated]).map bump := by
          simp [others, bump, Connection.undated_touch_checkOut]
      _ = ((after.idle.map (·.undated)).rotate 1).map bump := by
          rw [queue, List.map_cons, List.rotate_cons_succ, List.rotate_zero]
      _ = _ := by
          rw [rotated.idle_eq, List.rotate_rotate, List.map_rotate, List.map_map]
          simp only [Function.comp_def, ← counted]
          rw [← List.rotate_mod, List.length_map, Nat.mod_add_mod, List.length_append,
            List.length_singleton]
  case after_eq =>
    rw [circulated, rotated.after_eq]
    simp [Counters.checkedOut, Nat.add_assoc]

/-- Every idle session is lent once in each round, wherever the round begins. -/
theorem count_eq_one {start : Nat} (round : start + before.idle.length ≤ lent.length)
    {connection : Connection} (idle : connection ∈ before.idle) :
    ((lent.drop start).take before.idle.length).count connection.session = 1 := by
  have window : (lent.drop start).take before.idle.length =
      (before.idle.map (·.session)).rotate start := by
    apply List.ext_getElem?
    intro place
    by_cases inside : place < before.idle.length
    · rw [List.getElem?_take_of_lt inside, List.getElem?_drop, rotated.order _ (by omega),
        List.getElem?_rotate (by simpa using inside), List.length_map, Nat.add_comm]
    · rw [List.getElem?_eq_none (by simp; omega), List.getElem?_eq_none (by simp; omega)]
  rw [window, (List.rotate_perm _ _).count_eq]
  exact List.count_eq_one_of_mem different (List.mem_map_of_mem idle)

end Rotated

end Pool

namespace World

open Pool (Agent Job)

/-! ### Laps -/

/-- How a caller asks for a connection. -/
inductive Asking where
  | acquire (timeout : Nat)
  | get
  | tryGet
deriving DecidableEq, Repr

/-- How a caller gives it back: by a call, or by throwing the handle away. -/
inductive Giving where
  | release
  | discard
deriving DecidableEq, Repr

namespace Asking

def request (index : Nat) : Asking → Request
  | .acquire timeout => .acquire index timeout
  | .get => .get index
  | .tryGet => .tryGet index

def job : Asking → Job
  | .acquire timeout => .acquire timeout
  | .get => .get
  | .tryGet => .tryGet

variable {index : Nat} (asking : Asking)

theorem job?_request : (asking.request index).job? = some (index, asking.job) := by
  cases asking <;> rfl

theorem asks?_request (world : World) :
    (asking.request index).asks? world = some (index, asking.job) := by
  cases asking <;> rfl

theorem isCheckout_job : asking.job.isCheckout = true := by
  cases asking <;> rfl

theorem accepts_request (world : World) :
    world.accepts (asking.request index) = world.isOpen index := by
  cases asking <;> rfl

end Asking

namespace Giving

def request (handle : Handle) : Giving → Request
  | .release => .release handle
  | .discard => .discard handle

def job (ticket : Nat) : Giving → Job
  | .release => .release ticket
  | .discard => .discard ticket

variable {handle : Handle} (giving : Giving)

theorem asks?_request (world : World) :
    (giving.request handle).asks? world = some (handle.pool, giving.job handle.ticket) := by
  cases giving <;> rfl

theorem accepts_request (world : World) :
    world.accepts (giving.request handle) = world.isFree (.lease handle) := by
  cases giving <;> rfl

/-- However a good lease is given back, its connection is taken back. -/
theorem work_job {site : Site} {ticket : Nat} {lease : Lease}
    (good : site.pool.lease? ticket = some lease) (caller : Nat) :
    (giving.job ticket).work caller site =
      (site.withPool (·.endLease ticket)).takeBack (.caller caller) lease.connection := by
  cases giving <;> simp [job, Job.work, Site.release, Site.discard, good]

end Giving

/-- A caller asks for a connection and gives it back, with some time passing at each point. -/
structure Lap where
  before : Nat
  asking : Asking
  lateAsking : Nat
  held : Nat
  giving : Giving
  lateGiving : Nat
deriving DecidableEq, Repr

namespace Lap

variable (index : Nat) (lap : Lap) (world : World)

/-- The caller asks, and goes on until its call is over. -/
def asked : Trace :=
  (world.move (.elapse lap.before)).callAlone (lap.asking.request index) index [lap.lateAsking]

/-- Later it gives back what it has been lent. The ticket is the number of its first call. -/
def given : Trace :=
  ((lap.asked index world).world.move (.elapse lap.held)).callAlone
    (lap.giving.request ⟨index, world.callers⟩) index [lap.lateGiving]

/-- The lap as the next part of a run. -/
def run (trace : Trace) : Trace :=
  ⟨(lap.given index trace.world).world, (lap.given index trace.world).events ++
    (lap.asked index trace.world).events ++ trace.events⟩

end Lap

/-- Several laps, one after the other, and nothing in between. -/
def laps (index : Nat) (laps : List Lap) (trace : Trace) : Trace :=
  laps.foldl (fun trace lap => lap.run index trace) trace

/-- The caller of the call after the one that was lent a connection has given it back. -/
def givenBack (index : Nat) (lease : Lease) : Event :=
  ⟨.inPool index (.caller (lease.ticket + 1)), .ok (.pool .done)⟩

/-! ### One lap -/

/-- A pool that lends, in which nobody is in the middle of anything and all that is idle is
alive. -/
structure Circulates (world : World) (index : Nat) (pool : Pool) : Prop where
  possible : Possible world
  found : world.pools[index]? = some pool
  running : pool.isShutdown = false
  rest : pool.AtRest
  live (connection : Connection) (idle : connection ∈ pool.idle) :
    world.server.answers connection.session = true

namespace Circulates

variable {world : World} {index : Nat} {pool : Pool} (circulates : world.Circulates index pool)

include circulates

theorem kept : pool.dropped = false :=
  (circulates.rest.balanced (circulates.possible.sound pool
    (List.mem_of_getElem? circulates.found))).kept circulates.running

theorem isOpen : world.isOpen index = true := by
  rw [World.isOpen, circulates.found]
  exact circulates.rest.isOpen circulates.kept

theorem elapse (duration : Nat) : (world.move (.elapse duration)).Circulates index pool where
  possible := circulates.possible.move (.elapse duration)
  found := circulates.found
  running := circulates.running
  rest := circulates.rest
  live := circulates.live

theorem deadFront_eq_nil : (world.site pool).deadFront = [] := by
  apply List.eq_nil_iff_forall_not_mem.mpr
  intro connection front
  have idle : connection ∈ pool.idle := by
    have parts : _ = pool.idle := (world.site pool).deadFront_append_lendable
    rw [← parts]
    exact List.mem_append_left _ front
  have dead : world.server.answers connection.session = false :=
    (Site.dead_of_mem_deadFront front).2
  rw [circulates.live connection idle] at dead
  contradiction

variable {connection : Connection} {rest : List Connection} (queue : pool.idle = connection :: rest)

include queue

theorem live_first : world.server.answers connection.session = true := by
  apply circulates.live
  rw [queue]
  exact List.mem_cons_self

/-- Whoever asks is lent the first idle connection. -/
theorem lends (asking : Asking) (late : Nat) :
    ∃ now, let lease : Lease := ⟨world.callers, connection.checkOut now⟩
      let asked := world.callAlone (asking.request index) index [late]
      asked.events = [lentTo index lease] ∧
        asked.world.pools[index]? = some (pool.lending rest lease) ∧
        asked.world.server = world.server.probed pool.config.testOnBorrow.toNat := by
  have front := circulates.deadFront_eq_nil
  have first : (world.site pool).lendable = connection :: rest := by
    have parts := (world.site pool).deadFront_append_lendable
    rw [front] at parts
    exact parts.trans queue
  have accepted : world.accepts (asking.request index) = true :=
    (asking.accepts_request world).trans circulates.isOpen
  have enough : (world.site pool).deadFront.length < [late].length := by simp [front]
  obtain ⟨now, shows⟩ := callAlone_lends circulates.possible circulates.found circulates.running
    accepted (asking.asks?_request world) asking.isCheckout_job enough first
  have whole : (world.site pool).entered.cleared = (world.site pool).entered :=
    Site.cleared_eq_self front
  rw [whole] at shows
  refine ⟨now, shows.events_eq_singleton rfl, shows.found, shows.server.trans ?_⟩
  exact Server.ite_startProbe (circulates.live_first queue) _

end Circulates

/-- A live connection that is lent by a pool in which nobody is in the middle of anything. -/
structure Lends (world : World) (index : Nat) (pool : Pool) (rest : List Connection)
    (lease : Lease) : Prop where
  possible : Possible world
  found : world.pools[index]? = some (pool.lending rest lease)
  running : pool.isShutdown = false
  kept : pool.dropped = false
  rest : pool.AtRest
  reusable : lease.connection.isReusable = true
  live : world.server.answers lease.connection.session = true
  unprobed : world.isProbed lease.connection.name = false

namespace Lends

variable {world : World} {index : Nat} {pool : Pool} {rest : List Connection} {lease : Lease}
  (lends : world.Lends index pool rest lease)

include lends

theorem accepts (giving : Giving) :
    world.accepts (giving.request ⟨index, lease.ticket⟩) = true := by
  have held : world.session? (.lease ⟨index, lease.ticket⟩) = some lease.connection.session := by
    have here : world.lease? ⟨index, lease.ticket⟩ = some lease :=
      (lease?_eq lends.found).trans (pool.lease?_lending rest lease)
    exact congrArg (Option.map _) here
  rw [giving.accepts_request]
  unfold isFree
  rw [held]
  exact congrArg not lends.unprobed

omit lends in
/-- The end of the lease is the return of its connection. -/
theorem turn_eq (giving : Giving) :
    world.turn (pool.lending rest lease) (giving.job lease.ticket) =
      Site.takeBack { world.site (pool.lending rest lease) with
        pool := { pool.lending rest lease with leases := pool.leases } } (.caller world.callers)
        lease.connection := by
  let site := world.site (pool.lending rest lease)
  have ended : site.withPool (·.endLease lease.ticket) =
      { site with pool := { pool.lending rest lease with leases := pool.leases } } := by
    simp [site, Site.withPool, World.site, Pool.endLease, Pool.lending]
  have good : site.pool.lease? lease.ticket = some lease := pool.lease?_lending rest lease
  apply (giving.work_job good world.callers).trans
  rw [ended]

/-- Whoever gives it back puts it behind all the others. -/
theorem gives (giving : Giving) (late : Nat) :
    ∃ now, let given := world.callAlone (giving.request ⟨index, lease.ticket⟩) index [late]
      given.events = [⟨.inPool index (.caller world.callers), .ok (.pool .done)⟩] ∧
        given.world.pools[index]? = some (pool.circulated rest (lease.connection.touch now)) ∧
        given.world.server = world.server.probed pool.config.testOnReturn.toNat := by
  have shows :=
    Trace.shows_call (lends.accepts giving) (giving.asks?_request world) lends.found
  rw [turn_eq giving] at shows
  let back : Site := { world.site (pool.lending rest lease) with
    pool := { pool.lending rest lease with leases := pool.leases } }
  have present : back.pool.isPresent = true := by
    have kept : back.pool.dropped = false := lends.kept
    simp [Pool.isPresent, kept]
  have fresh := fresh_caller lends.possible lends.found
  obtain ⟨later, shows⟩ := shows.takesBack back lends.running present lends.rest fresh
    List.mem_cons_self lends.reusable lends.live late []
  have whole : back.pool.requeued (lease.connection.touch world.now) =
      pool.circulated rest (lease.connection.touch world.now) := by
    have active : (lease.connection.id :: pool.active).erase lease.connection.id = pool.active :=
      List.erase_cons_head _ _
    simp [back, Pool.requeued, Pool.circulated, Pool.lending, active]
  refine ⟨world.now, shows.events_eq_singleton rfl, shows.found.trans (congrArg some whole), ?_⟩
  exact shows.server.trans (Server.ite_startProbe lends.live _)

end Lends

section Lap

variable {index : Nat} {pool : Pool} {connection : Connection} {rest : List Connection}
  (queue : pool.idle = connection :: rest) (lap : Lap)

include queue

/-- In the middle of a lap the first idle connection is lent. -/
theorem Circulates.asked {world : World} (circulates : world.Circulates index pool) :
    ∃ now, let lease : Lease := ⟨world.callers, connection.checkOut now⟩
      (lap.asked index world).events = [lentTo index lease] ∧
        (lap.asked index world).world.callers = world.callers + 1 ∧
        (lap.asked index world).world.server =
          world.server.probed pool.config.testOnBorrow.toNat ∧
        ((lap.asked index world).world.move (.elapse lap.held)).Lends index pool rest lease := by
  have before : (world.move (.elapse lap.before)).Circulates index pool :=
    circulates.elapse lap.before
  have first : connection ∈ pool.idle := queue ▸ List.mem_cons_self
  have accepted : (world.move (.elapse lap.before)).accepts (lap.asking.request index) = true :=
    (lap.asking.accepts_request _).trans before.isOpen
  obtain ⟨now, event, found, server⟩ := before.lends queue lap.asking lap.lateAsking
  have errands : (lap.asked index world).world.errands = world.errands :=
    errands_callAlone accepted lap.asking.job?_request [lap.lateAsking]
  have callers : (lap.asked index world).world.callers = world.callers + 1 :=
    callers_callAlone accepted lap.asking.job?_request [lap.lateAsking]
  refine ⟨now, event, callers, server, ?_⟩
  constructor
  case possible => exact (before.possible.callAlone _ _ _).move (.elapse lap.held)
  case found => exact found
  case running => exact before.running
  case kept => exact before.kept
  case rest => exact before.rest
  case reusable => exact (before.possible.sane.pools index pool before.found).idle connection first
  case live =>
    change (lap.asked index world).world.server.answers connection.session = true
    rw [Lap.asked, server]
    exact before.live connection first
  case unprobed =>
    change (lap.asked index world).world.isProbed connection.name = false
    unfold isProbed
    rw [errands]
    exact circulates.possible.isProbed_eq_false circulates.found (List.mem_append_left _ first)

/-- One lap takes the first idle connection once round. -/
theorem Circulates.run {trace : Trace} (circulates : trace.world.Circulates index pool) :
    ∃ now later, let lease : Lease := ⟨trace.world.callers, connection.checkOut now⟩
      (lap.run index trace).world.Circulates index
          (pool.circulated rest (lease.connection.touch later)) ∧
        (lap.run index trace).events =
          givenBack index lease :: lentTo index lease :: trace.events ∧
        (lap.run index trace).world.server = trace.world.server.probed
          (pool.config.testOnBorrow.toNat + pool.config.testOnReturn.toNat) := by
  obtain ⟨now, lent, callers, server, lends⟩ := circulates.asked queue lap
  obtain ⟨later, given, found, serverAfter⟩ := lends.gives lap.giving lap.lateGiving
  have probed : (lap.run index trace).world.server = trace.world.server.probed
      (pool.config.testOnBorrow.toNat + pool.config.testOnReturn.toNat) := by
    apply serverAfter.trans
    change (lap.asked index trace.world).world.server.probed _ = _
    rw [server, Server.probed_probed]
  refine ⟨now, later, ?_, ?_, probed⟩
  · constructor
    case possible => exact lends.possible.callAlone _ _ _
    case found => exact found
    case running => exact circulates.running
    case rest => exact circulates.rest
    case live =>
      intro other idle
      rw [probed, Server.answers_probed]
      rcases List.mem_append.mp idle with behind | last
      · exact circulates.live other (queue ▸ List.mem_cons_of_mem _ behind)
      · have first : trace.world.server.answers connection.session = true :=
          circulates.live_first queue
        rw [List.mem_singleton.mp last]
        exact first
  · have ended : (lap.given index trace.world).events = _ := given
    rw [Lap.run]
    dsimp only
    rw [ended, lent]
    change Event.mk (.inPool index (.caller (lap.asked index trace.world).world.callers)) _ :: _ = _
    rw [callers]
    rfl

end Lap

/-! ### Many laps -/

/-- What comes of laps in which these leases have been given out, and of the pool. -/
structure GoesRound (world : World) (index : Nat) (pool : Pool) (run : Trace) (lent : List Lease)
    (after : Pool) : Prop where
  /-- Each caller is lent a connection and gives it back. -/
  events : run.events =
    lent.reverse.flatMap fun lease => [givenBack index lease, lentTo index lease]
  found : run.world.pools[index]? = some after
  /-- The idle sessions are lent in the order of the queue, and then from its front again. -/
  order (place : Nat) (inside : place < lent.length) :
    (lent.map (·.connection.session))[place]? =
      (pool.idle.map (·.session))[place % pool.idle.length]?
  /-- The queue has gone round, and each connection has been lent as often as it was its turn. -/
  idle_eq : after.idle.map (·.undated) =
    (pool.idle.map fun connection => (connection.lentMore
      ((lent.map (·.connection.session)).count connection.session)).undated).rotate
        (lent.length % pool.idle.length)
  /-- Of the rest of the pool only the count of checkouts has changed. -/
  after_eq : after = { pool with
    idle := after.idle
    counters := { pool.counters with
      checkoutsSuccessful := pool.counters.checkoutsSuccessful + lent.length } }
  /-- The server has seen probes and nothing else. -/
  server_eq : run.world.server = world.server.probed
    (lent.length * (pool.config.testOnBorrow.toNat + pool.config.testOnReturn.toNat))
  /-- Each idle session has been lent once in each round, wherever the round begins. -/
  once {start : Nat} (round : start + pool.idle.length ≤ lent.length) {connection : Connection}
    (idle : connection ∈ pool.idle) :
    (((lent.map (·.connection.session)).drop start).take pool.idle.length).count
      connection.session = 1

/-- Every lap takes one connection round, and leaves the pool as the next lap needs it. -/
theorem Circulates.laps {world : World} {index : Nat} {pool : Pool}
    (circulates : world.Circulates index pool) (some : pool.idle ≠ [])
    (different : (pool.idle.map (·.session)).Nodup) (laps : List Lap) :
    ∃ (lent : List Lease) (after : Pool), lent.length = laps.length ∧
      (World.laps index laps ⟨world, []⟩).world.Circulates index after ∧
      Pool.Rotated pool (lent.map (·.connection.session)) after ∧
      (World.laps index laps ⟨world, []⟩).events =
        lent.reverse.flatMap (fun lease => [givenBack index lease, lentTo index lease]) ∧
      (World.laps index laps ⟨world, []⟩).world.server = world.server.probed
        (lent.length * (pool.config.testOnBorrow.toNat + pool.config.testOnReturn.toNat)) := by
  induction laps using List.reverseRecOn with
  | nil =>
      refine ⟨[], pool, rfl, circulates, Pool.rotated_nil pool, rfl, ?_⟩
      rw [List.length_nil, Nat.zero_mul]
      rfl
  | append_singleton laps lap ih =>
      obtain ⟨lent, after, length, again, rotated, events, server⟩ := ih
      have config : after.config = pool.config := by rw [rotated.after_eq]
      obtain ⟨connection, rest, queue⟩ : ∃ connection rest, after.idle = connection :: rest := by
        apply List.exists_cons_of_ne_nil
        rintro empty
        have lengths := rotated.length_eq
        rw [empty, List.length_nil] at lengths
        exact some (List.length_eq_zero_iff.mp lengths.symm)
      obtain ⟨now, later, next, more, probes⟩ := again.run queue lap
      let run := World.laps index laps ⟨world, []⟩
      let lease : Lease := ⟨run.world.callers, connection.checkOut now⟩
      have goes : World.laps index (laps ++ [lap]) ⟨world, []⟩ = lap.run index run :=
        List.foldl_append
      rw [goes]
      refine ⟨lent ++ [lease], _, ?_, next, ?_, ?_, ?_⟩
      · simp [length]
      · rw [List.map_append]
        exact rotated.step different queue now later
      · rw [more, events, List.reverse_append]
        rfl
      · rw [probes, server, config, Server.probed_probed, List.length_append, Nat.add_mul]
        simp

/-- Acquire and return rotate the idle queue. In a pool that lends, in which nobody is in the middle
of anything and all that is idle is alive, callers that come one after the other, and give back what
they are lent before the next one comes, are lent the idle sessions in the order of the queue, over
and over again. The queue goes round, each connection is counted as lent as often as it was its
turn, and nothing else changes in the pool, or on the server but for the probes it has seen. -/
theorem idle_queue_rotates {world : World} (possible : Possible world) {index : Nat} {pool : Pool}
    (found : world.pools[index]? = some pool) (running : pool.isShutdown = false)
    (rest : pool.AtRest) (some : pool.idle ≠ [])
    (live : ∀ connection ∈ pool.idle, world.server.answers connection.session = true)
    (laps : List Lap) :
    ∃ (lent : List Lease) (after : Pool), lent.length = laps.length ∧
      world.GoesRound index pool (World.laps index laps ⟨world, []⟩) lent after := by
  have circulates : world.Circulates index pool := ⟨possible, found, running, rest, live⟩
  have different : (pool.idle.map (·.session)).Nodup := by
    have names := possible.nodup_names (List.mem_of_getElem? found)
    have idle : pool.idle.Sublist pool.connections :=
      (List.sublist_append_left _ _).trans (List.sublist_append_left _ _)
    have ids := names.sublist (idle.map (·.name))
    apply List.Nodup.of_map (·.id)
    rw [List.map_map]
    exact ids
  obtain ⟨lent, after, length, again, rotated, events, server⟩ :=
    circulates.laps some different laps
  refine ⟨lent, after, length, events, again.found, ?_, ?_, ?_, server, ?_⟩
  · simpa using rotated.order
  · simpa using rotated.idle_eq
  · simpa using rotated.after_eq
  · intro start round connection idle
    exact rotated.count_eq_one different (by simpa using round) idle

/-- A pool with four connections that probes them on their way out and in. One is lent and the
others are idle. -/
def revolving : World :=
  let config : Config := { Config.default with
    minConnections := 4
    maxConnections := 5
    testOnBorrow := true
    testOnReturn := true }
  (Trace.follow ⟨new, []⟩ [.instruct (.probeDelay 2), .call (.openPool config),
    .resume (.inPool 0 (.caller 0)), .resume (.inPool 0 (.caller 0)),
    .resume (.inPool 0 (.caller 0)), .resume (.inPool 0 (.caller 0)), .call (.get 0), .passTo 2,
    .resume (.inPool 0 (.caller 1))]).world

theorem possible_revolving : Possible revolving :=
  (Reachable.follow .new _).possible

/-- Four laps, each of them another one. -/
def fourLaps : List Lap :=
  [⟨5, .acquire 9, 0, 1, .release, 0⟩, ⟨0, .tryGet, 3, 0, .discard, 0⟩,
    ⟨0, .get, 0, 7, .release, 2⟩, ⟨1, .tryGet, 0, 0, .release, 0⟩]

/-- Four laps in a queue of three: the first session is lent twice. -/
theorem idle_queue_rotates_revolving :
    ∃ pool, revolving.pools[0]? = some pool ∧ pool.isShutdown = false ∧ pool.AtRest ∧
      pool.idle.map (·.name) = [2, 3, 4] ∧
      (∀ connection ∈ pool.idle, revolving.server.answers connection.session = true) ∧
      ∃ (lent : List Lease) (after : Pool), lent.length = fourLaps.length ∧
        revolving.GoesRound 0 pool (laps 0 fourLaps ⟨revolving, []⟩) lent after := by
  have found : revolving.pools[0]? = some (revolving.pools.head (by decide)) := by decide
  have running : (revolving.pools.head (by decide)).isShutdown = false := by decide
  have rest : (revolving.pools.head (by decide)).AtRest := by
    rw [Pool.AtRest]
    decide
  have live : ∀ connection ∈ (revolving.pools.head (by decide)).idle,
      revolving.server.answers connection.session = true := by decide
  exact ⟨_, found, running, rest, by decide, live,
    idle_queue_rotates possible_revolving found running rest (by decide) live fourLaps⟩

end World

end SessionPool

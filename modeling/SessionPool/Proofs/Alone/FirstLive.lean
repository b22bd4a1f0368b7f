import SessionPool.Proofs.Alone.Checkout
import SessionPool.Proofs.Capacity.NoLeak

/-!
# A checkout with nothing in between

What a caller gets that asks for a connection while nobody else does anything, whatever is idle and
whichever sessions are dead: the first live one, else a new one if there is room, and else nothing.
The whole pool is accounted for after each of these, so nothing else in it is touched.
-/

namespace SessionPool

namespace Site

open Pool (Agent Phase Checkout)

/-- The site when the first connection of the queue has been taken for a caller, after a probe if
the settings ask for one. -/
def taken (site : Site) (connection : Connection) (rest : List Connection) : Site :=
  { site.taking connection rest with
    server :=
      if site.pool.config.testOnBorrow then site.server.startProbe connection.session
      else site.server }

/-- The site while a connect for a caller is on its way. -/
def asking (site : Site) : Site :=
  { site with
    server := site.server.startConnect.1
    pool := { site.pool with total := site.pool.total + 1, nextId := site.pool.nextId + 1 } }

variable {site : Site} {checkout : Checkout} (running : site.pool.isShutdown = false)

include running

theorem seek_eq_lend {connection : Connection} {rest : List Connection}
    (unseen : site.pool.config.testOnBorrow = false)
    (queue : site.pool.idle = connection :: rest) :
    site.seek checkout = (site.taken connection rest).lend checkout connection := by
  rw [seek]
  dsimp only
  rw [if_neg (by simp [running]), queue]
  dsimp only
  rw [if_neg (by simp [unseen]), taken, if_neg (by simp [unseen])]
  rfl

theorem checkoutConnected_of_ok {metadata : Metadata} {attempt : Attempt} {server : Server}
    {session : Session} (answer : site.server.finishConnect attempt = (server, .ok session)) :
    let connection := Connection.ofSession session metadata
    site.checkoutConnected checkout metadata attempt =
      lend { site with
        server
        pool := { site.pool.count (·.created) with
          active := connection.id :: site.pool.active } } checkout connection := by
  have lends : ¬ (site.pool.count (·.created)).isShutdown = true := by
    change ¬ site.pool.isShutdown = true
    simp [running]
  rw [checkoutConnected, connected, answer]
  exact if_neg lends

omit running in
theorem checkoutConnected_of_error {metadata : Metadata} {attempt : Attempt} {server : Server}
    {error : SessionError} (answer : site.server.finishConnect attempt = (server, .error error)) :
    site.checkoutConnected checkout metadata attempt =
      refuse { site with
        server
        pool := Pool.notifyOne { site.pool with total := site.pool.total - 1 } }
        (.creationFailed error) := by
  rw [checkoutConnected, connected, answer]
  rfl

section Empty

variable (empty : site.pool.idle = [])

include empty

theorem seek_eq_connect (room : site.pool.total < site.pool.config.maxConnections) :
    site.seek checkout = site.asking.wait (.caller checkout.caller)
      (.connecting checkout (.new site.pool.nextId site.now) site.server.startConnect.2)
      (some (site.now + site.server.startConnect.1.connectTime site.server.startConnect.2)) := by
  rw [seek]
  dsimp only
  rw [if_neg (by simp [running])]
  split
  case h_1 queue =>
    rw [empty] at queue
    contradiction
  case h_2 =>
    rw [if_pos room]
    rfl

variable (full : site.pool.config.maxConnections ≤ site.pool.total)

include full

theorem seek_eq_expire {deadline : Nat} (upTo : checkout.patience = .upTo deadline)
    (expired : deadline ≤ site.now) :
    site.seek checkout = site.refuse (.timedOut (site.now - checkout.started)) := by
  rw [seek]
  dsimp only
  rw [if_neg (by simp [running]), empty]
  dsimp only
  rw [if_neg (Nat.not_lt_of_le full), upTo]
  exact if_pos expired

theorem seek_eq_block {deadline : Nat} (upTo : checkout.patience = .upTo deadline)
    (early : site.now < deadline) :
    site.seek checkout =
      site.wait (.caller checkout.caller) (.waiting checkout false) (some deadline) := by
  rw [seek]
  dsimp only
  rw [if_neg (by simp [running]), empty]
  dsimp only
  rw [if_neg (Nat.not_lt_of_le full), upTo]
  exact if_neg (Nat.not_le_of_lt early)

theorem seek_eq_sleep (endless : checkout.patience = .endless) :
    site.seek checkout = site.wait (.caller checkout.caller) (.waiting checkout false) none := by
  rw [seek]
  dsimp only
  rw [if_neg (by simp [running]), empty]
  dsimp only
  rw [if_neg (Nat.not_lt_of_le full), endless]

end Empty

end Site

/-! ### What comes of the search -/

namespace World.Trace

open Pool (Agent Phase Checkout)

variable {index : Nat} (site : Site) (checkout : Checkout) {trace : Trace}
  (running : site.pool.isShutdown = false)
  (fresh : ∀ other ∈ site.pool.tasks, other.agent ≠ .caller checkout.caller)
  (shows : trace.Shows index (.caller checkout.caller) site.now (site.seek checkout))

include running fresh shows

/-- A live connection at the front is lent. -/
theorem Shows.lends {connection : Connection} {rest : List Connection}
    (queue : site.pool.idle = connection :: rest)
    (live : site.pool.config.testOnBorrow = true →
      site.server.answers connection.session = true) (late : Nat) (lates : List Nat) :
    ∃ later, (trace.alone index (.caller checkout.caller) (late :: lates)).Shows index
      (.caller checkout.caller) later
      (({ site.taken connection rest with now := later } : Site).lend checkout connection) := by
  cases probes : site.pool.config.testOnBorrow with
  | false =>
      rw [Site.seek_eq_lend running probes queue] at shows
      rw [shows.alone_eq rfl]
      exact ⟨site.now, shows⟩
  | true =>
      rw [Site.seek_eq_wait running probes queue] at shows
      have freshThen : ∀ other ∈ (site.taking connection rest).pool.tasks,
          other.agent ≠ .caller checkout.caller := fresh
      obtain ⟨later, next, -, -, goes, shows⟩ := shows.alone_cons freshThen late lates
      let before : Site := { site with now := later }
      have runningThen : before.pool.isShutdown = false := running
      have here : ({ site.taking connection rest with now := later } : Site).proceed
          (.caller checkout.caller) (.borrowProbe checkout connection) =
          (before.taking connection rest).lend checkout connection :=
        Site.borrowProbed_taking_live runningThen (live probes)
      have same : before.taking connection rest =
          { site.taken connection rest with now := later } := by
        rw [Site.taken, if_pos probes]
        rfl
      rw [here, same] at shows
      rw [goes, shows.alone_eq rfl]
      exact ⟨later, shows⟩

section Empty

variable (empty : site.pool.idle = [])

include empty

/-- Where nothing can be lent and there is room, the caller waits for one connect. -/
theorem Shows.connects (room : site.pool.total < site.pool.config.maxConnections) (late : Nat)
    (lates : List Nat) :
    ∃ later next, site.now ≤ later ∧
      trace.alone index (.caller checkout.caller) (late :: lates) =
        Trace.alone index (.caller checkout.caller) lates next ∧
      next.Shows index (.caller checkout.caller) later
        (({ site.asking with now := later } : Site).checkoutConnected checkout
          (.new site.pool.nextId site.now) site.server.startConnect.2) := by
  rw [Site.seek_eq_connect running empty room] at shows
  have freshThen : ∀ other ∈ site.asking.pool.tasks,
      other.agent ≠ .caller checkout.caller := fresh
  obtain ⟨later, next, after, -, goes, shows⟩ := shows.alone_cons freshThen late lates
  exact ⟨later, next, after, goes, shows⟩

variable (full : site.pool.config.maxConnections ≤ site.pool.total)

include full

/-- Where there is no room either, a caller with a deadline is blocked until then. -/
theorem Shows.expires {deadline : Nat} (upTo : checkout.patience = .upTo deadline)
    (lates : List Nat) :
    ∃ later, (lates = [] ∨ deadline ≤ later) ∧
      (trace.alone index (.caller checkout.caller) lates).Shows index
      (.caller checkout.caller) later
      (if deadline ≤ later then
        ({ site with now := later } : Site).refuse (.timedOut (later - checkout.started))
      else ({ site with now := later } : Site).wait (.caller checkout.caller)
        (.waiting checkout false) (some deadline)) := by
  by_cases expired : deadline ≤ site.now
  · rw [Site.seek_eq_expire running empty full upTo expired] at shows
    rw [shows.alone_eq rfl]
    refine ⟨site.now, .inr expired, ?_⟩
    rw [if_pos expired]
    exact shows
  · have early := Nat.lt_of_not_le expired
    rw [Site.seek_eq_block running empty full upTo early] at shows
    cases lates with
    | nil =>
        refine ⟨site.now, .inl rfl, ?_⟩
        rw [if_neg expired]
        exact shows
    | cons late lates =>
        obtain ⟨later, next, -, expired, goes, shows⟩ := shows.alone_cons fresh late lates
        let before : Site := { site with now := later }
        have runningThen : before.pool.isShutdown = false := running
        have here : before.proceed (.caller checkout.caller) (.waiting checkout false) =
            before.refuse (.timedOut (later - checkout.started)) :=
          Site.seek_eq_expire runningThen empty full upTo expired
        rw [here] at shows
        rw [goes, shows.alone_eq rfl]
        refine ⟨later, .inr expired, ?_⟩
        rw [if_pos expired]
        exact shows

omit running empty full shows in
/-- A caller that nobody tells and that has no deadline sleeps on. -/
theorem Shows.sleeps (lates : List Nat) {now : Nat}
    (shows : trace.Shows index (.caller checkout.caller) now
      (site.wait (.caller checkout.caller) (.waiting checkout false) none)) :
    ∃ later, (trace.alone index (.caller checkout.caller) lates).Shows index
      (.caller checkout.caller) later
      (site.wait (.caller checkout.caller) (.waiting checkout false) none) := by
  induction lates generalizing trace now with
  | nil => exact ⟨now, shows⟩
  | cons late lates ih =>
      have running := shows.events_eq_nil rfl
      obtain ⟨later, -, -, next⟩ := shows.goOn fresh late
      have unready : Site.resume ⟨later, site.server,
          site.pool.park ⟨.caller checkout.caller, .waiting checkout false, none⟩⟩
          (.caller checkout.caller) =
          (⟨later, site.server,
            site.pool.park ⟨.caller checkout.caller, .waiting checkout false, none⟩⟩, none) := by
        apply Site.resume_eq_self
        intro task found
        have parked := Pool.task?_park
          ⟨.caller checkout.caller, .waiting checkout false, none⟩ fresh
        rw [← Option.some.inj (found.symm.trans parked).symm]
        exact Bool.false_ne_true
      rw [unready] at next
      obtain ⟨last, shows⟩ := ih ⟨next.found, next.server, next.now_eq, next.events⟩
      refine ⟨last, ?_⟩
      rw [alone, if_pos running]
      exact shows

end Empty

end World.Trace

namespace World

open Pool (Job Patience Checkout)

/-- A call on a pool after which only its own agent does anything. It waits as late each time as the
list says. -/
def callAlone (world : World) (request : Request) (index : Nat) (lates : List Nat) : Trace :=
  (Trace.move ⟨world, []⟩ (.act (.call request))).alone index (.caller world.callers) lates

/-- How a caller fares that there is nothing for, and what it leaves in the pool. One that has a
deadline is blocked until then at most. -/
def Unserved (world : World) (index : Nat) (patience : Patience) (lates : List Nat) (run : Trace)
    (after : Pool) : Prop :=
  let agent : Pool.Agent := .caller world.callers
  let blocked := run.events = [] ∧ after.task? agent =
    some ⟨agent, .waiting ⟨world.callers, world.now, patience⟩ false, patience.deadline?⟩
  match patience with
  | .never => run.events = [⟨.inPool index agent, .ok (.pool .noneFree)⟩]
  | .upTo deadline =>
      (lates = [] ∨ deadline ≤ run.world.now) ∧
        if deadline ≤ run.world.now then
          run.events =
            [⟨.inPool index agent, .error (.pool (.timedOut (run.world.now - world.now)))⟩]
        else blocked
  | .endless => blocked

/-- What comes of the one connect of a caller, when the dead have been disposed of: the caller is
lent the new session, or is told of the failure and its slot is free again. -/
def Connected (world : World) (index : Nat) (pool : Pool) (dead : List Connection) (begun : Nat)
    (result : Except SessionError Session) (run : Trace) : Prop :=
  let counters := pool.counters.closedMany dead.length
  match result with
  | .ok session =>
      let connection := Connection.ofSession session (.new pool.nextId begun)
      let lease : Lease := ⟨world.callers, connection.checkOut run.world.now⟩
      run.events = [lentTo index lease] ∧ run.world.pools[index]? = some { pool with
        idle := []
        active := pool.nextId :: pool.active
        total := pool.total - dead.length + 1
        nextId := pool.nextId + 1
        leases := lease :: pool.leases
        counters := counters.created.checkedOut }
  | .error error =>
      run.events =
          [⟨.inPool index (.caller world.callers), .error (.pool (.creationFailed error))⟩] ∧
        run.world.pools[index]? = some (Pool.notifyOne { pool with
          idle := []
          total := pool.total - dead.length
          nextId := pool.nextId + 1
          counters := counters.failed (.creationFailed error) })

/-- What comes of a checkout that nobody disturbs. The dead are those that it meets in front of what
can be lent. -/
structure FirstLive (world : World) (index : Nat) (pool : Pool) (patience : Patience)
    (dead queue : List Connection) (lates : List Nat) (run : Trace) : Prop where
  queue_eq : dead ++ queue = pool.idle
  /-- Nothing is found to be dead without a probe. -/
  dead_of_mem {connection : Connection} (member : connection ∈ dead) :
    pool.config.testOnBorrow = true ∧ world.server.answers connection.session = false
  /-- A probe finds the first one that can be lent alive. -/
  live {connection : Connection} {rest : List Connection} (first : queue = connection :: rest)
    (probes : pool.config.testOnBorrow = true) :
    world.server.answers connection.session = true
  dead_le : dead.length ≤ pool.total
  /-- Whatever has been taken out leaves room. -/
  room (some : dead ≠ []) : pool.total - dead.length < pool.config.maxConnections
  /-- Each dead session is disconnected once, and no other one. -/
  disconnects (enough : dead.length < lates.length) (id : Nat) :
    run.world.server.disconnectCount id =
      world.server.disconnectCount id + if id ∈ dead.map (·.name) then 1 else 0
  /-- The first connection that can be lent is lent, and the others stay in order. -/
  lends (enough : dead.length < lates.length) {connection : Connection} {rest : List Connection}
    (first : queue = connection :: rest) :
    let lease : Lease := ⟨world.callers, connection.checkOut run.world.now⟩
    let buried := world.server.bury dead
    run.events = [lentTo index lease] ∧
      run.world.server =
        (if pool.config.testOnBorrow then buried.startProbe connection.session else buried) ∧
      run.world.pools[index]? = some { pool with
        idle := rest
        active := connection.id :: pool.active
        total := pool.total - dead.length
        leases := lease :: pool.leases
        counters := (pool.counters.closedMany dead.length).checkedOut }
  /-- Where there is none but room, one connect is made. -/
  connects (enough : dead.length < lates.length) (empty : queue = [])
    (room : pool.total - dead.length < pool.config.maxConnections) :
    let asked := (world.server.bury dead).startConnect
    let answered := asked.1.finishConnect asked.2
    run.world.server = answered.1 ∧
      ∃ begun, world.now ≤ begun ∧ world.Connected index pool dead begun answered.2 run
  /-- Where there is no room, nothing changes but for the caller that may be blocked. -/
  refuses (empty : queue = []) (full : pool.config.maxConnections ≤ pool.total - dead.length) :
    run.world.server = world.server ∧ ∃ after, run.world.pools[index]? = some after ∧
      after.idle = pool.idle ∧ after.active = pool.active ∧ after.total = pool.total ∧
      after.validating = pool.validating ∧ world.Unserved index patience lates run after

section Arrival

variable {world : World} {index : Nat} {pool : Pool} {request : Request} {job : Job}
  (possible : Possible world) (found : world.pools[index]? = some pool)
  (running : pool.isShutdown = false) (accepted : world.accepts request = true)
  (asks : request.asks? world = some (index, job)) (checkout : job.isCheckout = true)

/-- The checkout with which a caller of this job comes in. -/
abbrev checkoutOf (world : World) (pool : Pool) (job : Job) : Checkout :=
  ⟨world.callers, world.now, job.patience pool.config world.now⟩

include possible found in
theorem fresh_caller : ∀ other ∈ pool.tasks, other.agent ≠ .caller world.callers :=
  fun _ present => (possible.sound pool (List.mem_of_getElem? found)).agent_ne_callers present

include found running accepted asks checkout in
/-- The caller begins by looking for a connection. -/
theorem shows_checkout :
    (Trace.move ⟨world, []⟩ (.act (.call request))).Shows index (.caller world.callers) world.now
      ((world.site pool).entered.seek (world.checkoutOf pool job)) := by
  have shows := Trace.shows_call accepted asks found
  have runningHere : (world.site pool).pool.isShutdown = false := running
  have works : world.turn pool job =
      (world.site pool).entered.seek (world.checkoutOf pool job) :=
    Site.work_eq_seek runningHere checkout world.callers
  rwa [works] at shows

include possible found running accepted asks checkout in
/-- Then it goes through the dead connections in front, and has a turn left. -/
theorem callAlone_clears {lates : List Nat}
    (enough : (world.site pool).deadFront.length < lates.length) :
    ∃ later next late left, world.now ≤ later ∧
      world.callAlone request index lates =
        Trace.alone index (.caller world.callers) (late :: left) next ∧
      next.Shows index (.caller world.callers) later
        (({ (world.site pool).entered.cleared with now := later } : Site).seek
          (world.checkoutOf pool job)) := by
  have fresh := fresh_caller possible found
  obtain ⟨later, next, left, after, spent, goes, shows⟩ :=
    Trace.Shows.clear (world.site pool).entered (world.checkoutOf pool job) running fresh
      (shows_checkout found running accepted asks checkout) (Nat.le_of_lt enough)
  cases left with
  | nil =>
      have spent : 0 + (world.site pool).deadFront.length = lates.length := spent
      omega
  | cons late left => exact ⟨later, next, late, left, after, goes, shows⟩

section Outcome

variable {lates : List Nat} (enough : (world.site pool).deadFront.length < lates.length)

include possible found running accepted asks checkout enough

theorem callAlone_lends {connection : Connection} {rest : List Connection}
    (first : (world.site pool).lendable = connection :: rest) :
    ∃ later, (world.callAlone request index lates).Shows index (.caller world.callers) later
      (({ (world.site pool).entered.cleared.taken connection rest with now := later } : Site).lend
        (world.checkoutOf pool job) connection) := by
  obtain ⟨asked, next, late, left, -, goes, shows⟩ :=
    callAlone_clears possible found running accepted asks checkout enough
  have live (probes : pool.config.testOnBorrow = true) :
      (world.server.bury (world.site pool).deadFront).answers connection.session = true :=
    (world.server.answers_bury _ _).trans (Site.answers_of_lendable first probes)
  have fresh := fresh_caller possible found
  rw [goes]
  exact Trace.Shows.lends { (world.site pool).entered.cleared with now := asked }
    (world.checkoutOf pool job) running fresh shows first live late left

/-- The one connect is answered, and with it the caller. -/
theorem callAlone_connects (empty : (world.site pool).lendable = [])
    (room : pool.total - (world.site pool).deadFront.length < pool.config.maxConnections) :
    let asked := (world.server.bury (world.site pool).deadFront).startConnect
    let answered := asked.1.finishConnect asked.2
    (world.callAlone request index lates).world.server = answered.1 ∧
      ∃ begun, world.now ≤ begun ∧ world.Connected index pool (world.site pool).deadFront begun
        answered.2 (world.callAlone request index lates) := by
  intro asked answered
  let before := (world.site pool).entered.cleared
  obtain ⟨begun, next, late, left, after, goes, shows⟩ :=
    callAlone_clears possible found running accepted asks checkout enough
  have fresh := fresh_caller possible found
  obtain ⟨later, last, -, ends, shows⟩ :=
    Trace.Shows.connects { before with now := begun } (world.checkoutOf pool job) running fresh
      shows empty room late left
  have goes := goes.trans ends
  let site : Site := { before.asking with now := later }
  have runningThen : site.pool.isShutdown = false := running
  let metadata : Metadata := .new pool.nextId begun
  have shows : last.Shows index (.caller world.callers) later
      (site.checkoutConnected (world.checkoutOf pool job) metadata asked.2) := shows
  rcases asked.1.finishConnect_cases asked.2 with
    ⟨server, error, answer, -, -⟩ | ⟨server, answer, -, -⟩
  · have failed : site.server.finishConnect asked.2 = (server, .error error) := answer
    rw [Site.checkoutConnected_of_error failed] at shows
    rw [goes, shows.alone_eq rfl]
    have same : answered = (server, .error error) := answer
    rw [same]
    refine ⟨shows.server, begun, after, shows.events_eq_singleton rfl, ?_⟩
    rw [← empty]
    exact shows.found
  · rw [Site.checkoutConnected_of_ok runningThen answer] at shows
    rw [goes, shows.alone_eq rfl]
    have same : answered = (server, .ok ⟨asked.1.lastId + 1, true⟩) := answer
    rw [same]
    refine ⟨shows.server, begun, after, ?_⟩
    rw [Connected, shows.now_eq]
    refine ⟨shows.events_eq_singleton rfl, ?_⟩
    rw [← empty]
    exact shows.found

end Outcome

include possible found

/-- The dead connections in front are connections of the pool. -/
theorem length_deadFront_le : (world.site pool).deadFront.length ≤ pool.total := by
  have length := congrArg List.length (world.site pool).deadFront_append_lendable
  have idle : (world.site pool).pool.idle.length ≤ pool.total :=
    (possible.sound pool (List.mem_of_getElem? found)).idle_le_total
  rw [List.length_append] at length
  omega

/-- Whatever has been taken out of the pool leaves room. -/
theorem deadFront_eq_nil
    (full : ¬ pool.total - (world.site pool).deadFront.length < pool.config.maxConnections) :
    (world.site pool).deadFront = [] := by
  have fits := length_deadFront_le possible found
  have capacity := (possible.sound pool (List.mem_of_getElem? found)).accounted.total_le
  apply List.eq_nil_of_length_eq_zero
  omega

theorem nodup_deadFront : ((world.site pool).deadFront.map (·.name)).Nodup := by
  have names := possible.nodup_names (List.mem_of_getElem? found)
  have parts : (world.site pool).deadFront ++ (world.site pool).lendable = pool.idle :=
    (world.site pool).deadFront_append_lendable
  have sublist : (world.site pool).deadFront.Sublist pool.connections := by
    rw [Pool.connections, ← parts, List.append_assoc, List.append_assoc]
    exact List.sublist_append_left _ _
  exact names.sublist (sublist.map _)

include running accepted asks checkout

/-- Where there is nothing to lend and no room, the pool stays as it is. -/
theorem callAlone_refuses (lates : List Nat) (empty : pool.idle = [])
    (full : pool.config.maxConnections ≤ pool.total) :
    (world.callAlone request index lates).world.server = world.server ∧
      ∃ after, (world.callAlone request index lates).world.pools[index]? = some after ∧
        after.idle = pool.idle ∧ after.active = pool.active ∧ after.total = pool.total ∧
        after.validating = pool.validating ∧
        world.Unserved index (job.patience pool.config world.now) lates
          (world.callAlone request index lates) after := by
  have fresh := fresh_caller possible found
  have shows := shows_checkout found running accepted asks checkout
  let site := (world.site pool).entered
  have runningHere : site.pool.isShutdown = false := running
  have freshHere : ∀ other ∈ site.pool.tasks, other.agent ≠ .caller world.callers := fresh
  have parked (due? : Option Nat) :=
    Pool.task?_park ⟨_, .waiting (world.checkoutOf pool job) false, due?⟩ freshHere
  cases patience : job.patience pool.config world.now with
  | never =>
      rw [Site.seek_eq_decline runningHere _ patience empty full] at shows
      rw [callAlone, shows.alone_eq rfl]
      exact ⟨shows.server, _, shows.found, rfl, rfl, rfl, rfl, shows.events_eq_singleton rfl⟩
  | endless =>
      rw [Site.seek_eq_sleep runningHere empty full patience] at shows
      obtain ⟨later, shows⟩ := Trace.Shows.sleeps site
        (world.checkoutOf pool job) fresh lates shows
      have blocked := parked none
      rw [checkoutOf, patience] at blocked shows
      exact ⟨shows.server, _, shows.found, rfl, rfl, rfl, rfl, shows.events_eq_nil rfl, blocked⟩
  | upTo deadline =>
      obtain ⟨later, passed, shows⟩ :=
        Trace.Shows.expires site (world.checkoutOf pool job) running fresh
          shows empty full patience lates
      have blocked := parked (some deadline)
      rw [checkoutOf, patience] at blocked shows
      have now := shows.now_eq
      by_cases expired : deadline ≤ later
      · rw [if_pos expired] at shows
        refine ⟨shows.server, _, shows.found, rfl, rfl, rfl, rfl, ?_⟩
        rw [callAlone, Unserved, now, if_pos expired]
        exact ⟨passed, shows.events_eq_singleton rfl⟩
      · rw [if_neg expired] at shows
        refine ⟨shows.server, _, shows.found, rfl, rfl, rfl, rfl, ?_⟩
        rw [callAlone, Unserved, now, if_neg expired]
        exact ⟨passed, shows.events_eq_nil rfl, blocked⟩

/-- In the end exactly the dead connections in front have been disconnected. -/
theorem callAlone_disconnects {lates : List Nat}
    (enough : (world.site pool).deadFront.length < lates.length) :
    (world.callAlone request index lates).world.server.disconnects =
      (world.server.bury (world.site pool).deadFront).disconnects := by
  have parts := (world.site pool).deadFront_append_lendable
  cases queue : (world.site pool).lendable with
  | cons connection rest =>
      obtain ⟨later, shows⟩ :=
        callAlone_lends possible found running accepted asks checkout enough queue
      rw [shows.server]
      change (if pool.config.testOnBorrow then _ else _ : Server).disconnects = _
      split
      · exact Server.disconnects_startProbe _ _
      · rfl
  | nil =>
      by_cases room :
          pool.total - (world.site pool).deadFront.length < pool.config.maxConnections
      · obtain ⟨server, -⟩ :=
          callAlone_connects possible found running accepted asks checkout enough queue room
        rw [server]
        let asked := (world.server.bury (world.site pool).deadFront).startConnect
        have sent := (world.server.bury (world.site pool).deadFront).disconnects_startConnect
        rcases asked.1.finishConnect_cases asked.2 with
          ⟨after, _, answer, same, -⟩ | ⟨after, answer, same, -⟩
        · exact (congrArg (·.1.disconnects) answer).trans (same.trans sent)
        · exact (congrArg (·.1.disconnects) answer).trans (same.trans sent)
      · have none := deadFront_eq_nil possible found room
        rw [none] at room ⊢
        rw [none, queue] at parts
        have full := Nat.le_of_not_lt room
        have refused :=
          callAlone_refuses possible found running accepted asks checkout lates parts.symm full
        rw [refused.1]
        rfl

/-- Checkout takes the first live session. Whatever is idle, whichever sessions are dead and however
long the server takes, a checkout that nobody disturbs is over after as many waits as there are dead
sessions in front, and one more: with the first live session, each dead one in front of it being
disconnected once, or with one connect, or with the pool as it was. -/
theorem checkout_takes_first_live (lates : List Nat) :
    world.FirstLive index pool (job.patience pool.config world.now) (world.site pool).deadFront
      (world.site pool).lendable lates (world.callAlone request index lates) := by
  have parts : (world.site pool).deadFront ++ (world.site pool).lendable = pool.idle :=
    (world.site pool).deadFront_append_lendable
  constructor
  case queue_eq => exact parts
  case dead_of_mem => exact Site.dead_of_mem_deadFront
  case live => exact Site.answers_of_lendable
  case dead_le => exact length_deadFront_le possible found
  case room =>
    intro some
    by_contra full
    exact some (deadFront_eq_nil possible found full)
  case disconnects =>
    intro enough id
    have same := callAlone_disconnects possible found running accepted asks checkout enough
    have buried := world.server.disconnectCount_bury (nodup_deadFront possible found) id
    rw [Server.disconnectCount, ← same] at buried
    exact buried
  case lends =>
    intro enough connection rest first
    obtain ⟨later, shows⟩ :=
      callAlone_lends possible found running accepted asks checkout enough first
    rw [shows.now_eq]
    exact ⟨shows.events_eq_singleton rfl, shows.server, shows.found⟩
  case connects =>
    intro enough
    exact callAlone_connects possible found running accepted asks checkout enough
  case refuses =>
    intro empty full
    have none := deadFront_eq_nil possible found (Nat.not_lt_of_le full)
    rw [none] at full
    rw [none, empty] at parts
    exact callAlone_refuses possible found running accepted asks checkout lates parts.symm full

end Arrival

/-- The pool with a dead session in front of a live one: two turns later the live one is lent. -/
theorem checkout_takes_first_live_spare :
    ∃ pool, spare.pools[0]? = some pool ∧ pool.isShutdown = false ∧
      spare.accepts (.acquire 0 9) = true ∧
      Request.asks? spare (.acquire 0 9) = some (0, .acquire 9) ∧
      (Job.acquire 9).isCheckout = true ∧
      (spare.site pool).deadFront.map (·.name) = [1] ∧
      (spare.site pool).lendable.map (·.name) = [2] ∧
      spare.FirstLive 0 pool ((Job.acquire 9).patience pool.config spare.now)
        (spare.site pool).deadFront (spare.site pool).lendable [3, 0]
        (spare.callAlone (.acquire 0 9) 0 [3, 0]) := by
  have found : spare.pools[0]? = some (spare.pools.head (by decide)) := by decide
  have running : (spare.pools.head (by decide)).isShutdown = false := by decide
  have accepted : spare.accepts (.acquire 0 9) = true := by decide
  have asks : Request.asks? spare (.acquire 0 9) = some (0, .acquire 9) := rfl
  exact ⟨_, found, running, accepted, asks, rfl, by decide, by decide,
    checkout_takes_first_live possible_spare found running accepted asks rfl [3, 0]⟩

end World

end SessionPool

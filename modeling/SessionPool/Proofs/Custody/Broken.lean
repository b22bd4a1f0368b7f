import SessionPool.Proofs.Custody.Quarantine
import SessionPool.Proofs.Deadline.Turns
import SessionPool.Proofs.Shutdown.Final

/-!
# A broken session is never lent again

The move with which a pool learns that a session is broken leaves the session in quarantine, and
from there nothing leads back to the idle queue or to a lease, unless the owner of the session gives
it to the pool anew. What is idle is believed to work, and a pool that tests what it lends asks the
server once more.
-/

namespace SessionPool

/-- A statement that shows that the session is lost leaves the connection broken. -/
theorem Site.throughLease_breaks {α : Type} {custody : Pool.Custody} {serves : Server → Prop}
    {site : Site} {ticket : Nat} {send : Server → Session → Server × Except SessionError α}
    (agrees : ∀ session, site.server.Agrees (send site.server session).1)
    {reply : α → Pool.Reply} (other : ∀ rows, custody.gives (.ok (reply rows)))
    (rest : (site.withPool (·.endLease ticket)).InCustody custody serves) {lease : Lease}
    (good : site.pool.lease? ticket = some lease) {error : SessionError}
    (fails : (site.throughLease ticket send reply).2 = some (.error (.session error)))
    (connectivity : error.isConnectivity = true)
    (broken : custody.held lease.connection.broken) :
    (site.throughLease ticket send reply).InCustody custody serves := by
  apply throughLease_inCustody_of_lease agrees other rest good
  rw [throughLease, good] at fails
  have answer := Option.some.inj fails
  rcases sent : (send site.server lease.connection.session).2 with lost | rows
  · rw [sent] at answer
    cases answer
    rw [observed, if_pos connectivity]
    exact broken
  · rw [sent] at answer
    cases answer

namespace World

open Pool (Agent Task Checkout Sound)

/-! ### Into quarantine -/

section Breaks

variable {world : World} {index : Nat} {pool : Pool} (possible : Possible world)
  (found : world.pools[index]? = some pool)

include possible found

/-- The agent of a probe that fails leaves the session in quarantine. -/
theorem resume_quarantines {agent : Agent} {task : Task} {connection : Connection}
    (waits : pool.task? agent = some task) (ready : pool.isReady world.now task = true)
    (probes : task.probed? = some connection)
    (dead : world.server.answers connection.session = false) :
    ((world.site pool).resume agent).InCustody ((quarantine index connection.name).pool index)
      (quarantine index connection.name).serves := by
  have member := Task.mem_connections_of_probed probes
  have present : connection ∈ pool.connections :=
    (Pool.connections_perm_unpark waits).mem_iff.mpr (List.mem_append_left _ member)
  have kept : ((world.site pool).withPool (·.unpark agent)).InCustody
      ((quarantine index connection.name).pool index)
      (quarantine index connection.name).serves := by
    constructor
    · exact (lawful_quarantine world.now).pools index
    · exact unpark_inCustody possible found waits member
    · exact possible.name_le_lastId (List.mem_of_getElem? found) present
  have hands := hands_of_dead possible found waits probes dead
  have waitsHere : (world.site pool).pool.task? agent = some task := waits
  rw [Site.resume_eq_proceed waitsHere ready]
  have opening : task.isOpening = true →
      ((quarantine index connection.name).pool index).Opening
        (quarantine index connection.name).serves :=
    fun _ => opening_quarantine.pools index
  exact Site.proceed_inCustody kept opening hands (Site.joins_each kept opening hands)

/-- Without its lease, a session that is lent is in quarantine. -/
theorem endLease_quarantines {ticket : Nat} {lease : Lease}
    (good : pool.lease? ticket = some lease) :
    ((world.site pool).withPool (·.endLease ticket)).InCustody
      ((quarantine index lease.connection.name).pool index)
      (quarantine index lease.connection.name).serves := by
  have present : lease.connection ∈ pool.connections :=
    (Pool.connections_perm_endLease good).mem_iff.mpr List.mem_cons_self
  constructor
  · exact (lawful_quarantine world.now).pools index
  · exact endLease_inCustody possible found good
  · exact possible.name_le_lastId (List.mem_of_getElem? found) present

/-- Whatever shows a pool that a session is broken is a turn that leaves it in quarantine. -/
theorem FindsBroken.turn {id : Nat} {move : Move} (finds : FindsBroken world index pool id move) :
    ∃ agent turn, world.Takes index pool move agent turn ∧
      turn.InCustody ((quarantine index id).pool index) (quarantine index id).serves := by
  cases finds with
  | @probed agent task connection waits ready probes name dead =>
      subst name
      exact ⟨agent, _, .resumes agent, resume_quarantines possible found waits ready probes dead⟩
  | @invalidated ticket lease accepted good name =>
      subst name
      have rest := endLease_quarantines possible found good
      have broken : ((quarantine index lease.connection.name).pool index).held
          lease.connection.broken := by
        intro reusable
        cases reusable
      have goodHere : (world.site pool).pool.lease? ticket = some lease := good
      refine ⟨_, _, .calls accepted rfl, ?_⟩
      change ((world.site pool).invalidate (.caller world.callers) ticket).InCustody _ _
      rw [Site.invalidate, goodHere]
      exact Site.takeBack_inCustody rest _ broken
  | @lost request ticket lease error sends good name fails connectivity =>
      subst name
      have rest := endLease_quarantines possible found good
      have broken : ((quarantine index lease.connection.name).pool index).held
          lease.connection.broken := by
        intro reusable
        cases reusable
      have answered : Move.event? world (.act (.call request)) =
          some ⟨.inPool index (.caller world.callers), ofPool (.error (.session error))⟩ := fails
      obtain ⟨turn, takes, answers, _⟩ := turn_of_event found answered
      refine ⟨_, _, takes, ?_⟩
      cases takes with
      | calls accepted asks =>
          cases request with
          | execute handle statement =>
              cases sends
              cases asks
              apply Site.throughLease_breaks _ _ rest good answers connectivity broken
              · exact fun session => world.server.agrees_execute session statement
              · exact fun _ => trivial
          | query handle statement =>
              cases sends
              cases asks
              apply Site.throughLease_breaks _ _ rest good answers connectivity broken
              · exact fun session => world.server.agrees_query session statement
              · exact fun _ => trivial
          | _ => cases sends

omit possible found in
/-- Only one turn is taken in a pool with one move. -/
theorem Takes.unique {move : Move} {first second : Agent} {turn other : Turn}
    (takes : world.Takes index pool move first turn)
    (takesOther : world.Takes index pool move second other) : turn = other := by
  cases takes with
  | calls _ asks =>
      cases takesOther with
      | calls _ asksOther =>
          rw [asks] at asksOther
          cases asksOther
          rfl
  | resumes _ =>
      cases takesOther
      rfl

/-- A turn that leaves a session of its pool in quarantine leaves it so in the whole world. -/
theorem Takes.inCustody {move : Move} {agent : Agent} {turn : Turn}
    (takes : world.Takes index pool move agent turn) {id : Nat}
    (kept : turn.InCustody ((quarantine index id).pool index) (quarantine index id).serves) :
    (world.move move).InCustody (quarantine index id) := by
  have others (place : Nat) (other : Pool) (elsewhere : place ≠ index)
      (foundOther : world.pools[place]? = some other) :
      other.InCustody ((quarantine index id).pool place) := by
    apply inCustody_of_apart (possible.sane.pools place other foundOther)
    exact fun here => absurd here elsewhere
  cases takes with
  | calls accepted asks =>
      obtain ⟨acting, pools, _, now, server, does⟩ := call_eq_work accepted asks
      have same : acting.site pool = world.site pool := by
        rw [site, site, now, server]
      rw [← pools] at found others
      change (world.call _).1.InCustody _
      rw [does]
      apply InCustody.callPool_of_others (lawful_quarantine acting.now) found others
      · exact fun _ _ => trivial
      · rw [same]
        exact kept
  | resumes agent =>
      change (world.callPool index (·.resume agent)).1.InCustody _
      apply InCustody.callPool_of_others (lawful_quarantine world.now) found others
      · exact fun _ _ => trivial
      · exact kept

end Breaks

/-! ### Out of quarantine -/

/-- A trace along which a pool has lent the session with this name to nobody. -/
def Trace.Withholds (trace : Trace) (index id : Nat) : Prop :=
  ∀ agent lease, ⟨.inPool index agent, ofPool (.ok (.lent lease))⟩ ∈ trace.events →
    lease.connection.name ≠ id

/-- A trace along which a pool has lent the session to nobody, and at whose end it does not have it
in its idle queue. -/
structure Trace.Spares (trace : Trace) (index id : Nat) : Prop where
  withholds : trace.Withholds index id
  idle (pool : Pool) (found : trace.world.pools[index]? = some pool) (connection : Connection)
    (queued : connection ∈ pool.idle) : connection.name ≠ id

section Run

variable {index id : Nat}

/-- Whatever happens is allowed in quarantine, unless the session is given to the pool anew. -/
theorem InCustody.allows_quarantine {world : World} (kept : world.InCustody (quarantine index id))
    {move : Move} (anew : move ≠ .act (.call (.adopt index id))) :
    (quarantine index id).Allows world move := by
  apply kept.allows (lawful_quarantine _) (fun _ => rfl) (fun _ => opening_quarantine)
  rintro place other pool session rfl found held
  refine ⟨rfl, fun here same => ?_⟩
  have name : session.id = other := by simpa using List.find?_some held
  apply anew
  rw [here, ← name, ← same]
  rfl

/-- What is lent in one move more is what a turn in the pool gives. -/
theorem Trace.Withholds.move {trace : Trace} (withholds : trace.Withholds index id) {move : Move}
    (gives : ∀ agent answer, move.event? trace.world = some ⟨.inPool index agent, ofPool answer⟩ →
      ((quarantine index id).pool index).gives answer) :
    (trace.move move).Withholds index id := by
  intro agent lease member
  rcases List.mem_append.mp member with now | earlier
  · exact (gives agent (.ok (.lent lease)) (Option.mem_toList.mp now)).2 rfl
  · exact withholds agent lease earlier

/-- A session in quarantine stays there, unless somebody gives it to the pool anew. -/
theorem spares_moves {trace : Trace} {pool : Pool}
    (found : trace.world.pools[index]? = some pool)
    (kept : trace.world.InCustody (quarantine index id)) (withholds : trace.Withholds index id)
    {moves : List Move} (anew : Move.act (.call (.adopt index id)) ∉ moves) :
    (trace.moves moves).Spares index id := by
  induction moves generalizing trace pool with
  | nil =>
      refine ⟨withholds, ?_⟩
      intro pool found connection queued
      exact ((kept.pools index pool found).idle connection queued).2 rfl
  | cons move later ih =>
      rw [List.mem_cons, not_or] at anew
      have lawful : (quarantine index id).Lawful trace.world.now := lawful_quarantine _
      have allows := kept.allows_quarantine (Ne.symm anew.1)
      obtain ⟨after, foundAfter, _⟩ := becomes_move found move
      apply ih foundAfter (kept.move lawful opening_quarantine allows closes_quarantine) _ anew.2
      apply withholds.move
      intro agent answer ends
      exact kept.gives lawful opening_quarantine allows found ends

/-- A session that a pool has found broken is in quarantine from then on. -/
theorem FindsBroken.spares {world : World} (possible : Possible world) {pool : Pool}
    (found : world.pools[index]? = some pool) {move : Move}
    (finds : FindsBroken world index pool id move) {later : List Move}
    (anew : Move.act (.call (.adopt index id)) ∉ later) :
    (Trace.moves ⟨world, []⟩ (move :: later)).Spares index id := by
  let start : Trace := ⟨world, []⟩
  have untouched : start.Withholds index id := by
    intro agent lease absent
    cases absent
  obtain ⟨agent, turn, takes, kept⟩ := finds.turn possible found
  obtain ⟨after, foundAfter, _⟩ := becomes_move found move
  have foundHere : (start.move move).world.pools[index]? = some after := foundAfter
  apply spares_moves foundHere (takes.inCustody possible found kept) _ anew
  apply untouched.move
  intro other answer ends
  obtain ⟨same, takesSame, answers, _⟩ := turn_of_event found ends
  rw [takes.unique takesSame] at kept
  exact kept.gives answer answers

end Run

/-! ### What is lent -/

/-- Why a caller is lent a connection by a pool that tests what it lends: its own connect has just
succeeded, or the probe that it has waited for. -/
inductive Vouched (server : Server) (lease : Lease) (task : Task) : Prop where
  | fresh {checkout : Checkout} {metadata : Metadata} {attempt : Attempt}
      (phase : task.phase = .connecting checkout metadata attempt)
      (opened : (server.finishConnect attempt).2 = .ok lease.connection.session)
  | probed {checkout : Checkout} {connection : Connection}
      (phase : task.phase = .borrowProbe checkout connection)
      (same : lease.connection.session = connection.session)
      (alive : server.answers lease.connection.session = true)

/-- How a pool deals with sessions that are broken. -/
structure Sifts (world : World) (index : Nat) (pool : Pool) : Prop where
  /-- Once it has found a session broken, it never queues nor lends it again, whatever happens
  later, unless somebody gives it the session anew. -/
  spares {id : Nat} {move : Move} (finds : FindsBroken world index pool id move)
    {later : List Move} (anew : Move.act (.call (.adopt index id)) ∉ later) :
    (Trace.moves ⟨world, []⟩ (move :: later)).Spares index id
  idle (connection : Connection) (queued : connection ∈ pool.idle) :
    connection.metadata.state = .connected
  /-- If it tests what it lends, a caller gets what its own call has connected or probed. -/
  vouched (tests : pool.config.testOnBorrow = true) {move : Move} {agent : Agent} {lease : Lease}
    (lent : move.event? world = some ⟨.inPool index agent, ofPool (.ok (.lent lease))⟩) :
    agent = .caller lease.ticket ∧ move = .act (.resume (.inPool index agent)) ∧
      ∃ task, pool.task? agent = some task ∧ pool.isReady world.now task = true ∧
        Vouched world.server lease task

section Sifts

variable {world : World} {index : Nat} {pool : Pool}

/-- Whoever is inside a checkout works for its caller, whether the pool is open yet or not. -/
theorem agent_eq_of_task? {callers : Nat} (sound : Sound callers pool) {agent : Agent} {task : Task}
    (waits : pool.task? agent = some task) {checkout : Checkout}
    (inside : task.checkout? = some checkout) : agent = .caller checkout.caller := by
  have present := List.mem_of_find?_eq_some waits
  rcases sound with filling | balanced
  · obtain ⟨_, _, _, _, _, alone, _⟩ := filling
    rw [alone] at present
    rw [List.mem_singleton.mp present] at inside
    contradiction
  · rw [← Pool.agent_of_task? waits, balanced.agent_of_checkout present inside]

/-- A pool that tests what it lends lends nothing at once, and later only what its caller has
waited for. -/
theorem Takes.vouched (possible : Possible world) (found : world.pools[index]? = some pool)
    (tests : pool.config.testOnBorrow = true) {move : Move} {agent : Agent} {turn : Turn}
    (takes : world.Takes index pool move agent turn) {lease : Lease}
    (lent : turn.2 = some (.ok (.lent lease))) :
    agent = .caller lease.ticket ∧ move = .act (.resume (.inPool index agent)) ∧
      ∃ task, pool.task? agent = some task ∧ pool.isReady world.now task = true ∧
        Vouched world.server lease task := by
  have sound := possible.sound pool (List.mem_of_getElem? found)
  cases takes with
  | @calls request job accepted asks =>
      have never : (world.turn pool job).Ends fun _ => False := by
        apply Site.work_ends
        intro connection queued untested
        cases tests.symm.trans untested
      exact (never.lends lent).elim
  | resumes agent =>
      let own (lease : Lease) : Prop := agent = .caller lease.ticket ∧ ∃ task,
        pool.task? agent = some task ∧ pool.isReady world.now task = true ∧
          Vouched world.server lease task
      have ends : ((world.site pool).resume agent).Ends own := by
        apply Site.resume_ends
        intro task waits ready
        apply Site.proceed_ends
        case direct =>
          intro checkout inside connection queued untested
          cases tests.symm.trans untested
        case probed =>
          intro checkout connection phase alive
          have inside : task.checkout? = some checkout := by rw [Task.checkout?, phase]
          refine ⟨agent_eq_of_task? sound waits inside, task, waits, ready, ?_⟩
          exact .probed phase rfl alive
        case opened =>
          intro checkout metadata attempt session phase opened
          have inside : task.checkout? = some checkout := by rw [Task.checkout?, phase]
          refine ⟨agent_eq_of_task? sound waits inside, task, waits, ready, ?_⟩
          exact .fresh phase opened
      obtain ⟨caller, task⟩ := ends.lends lent
      exact ⟨caller, rfl, task⟩

/-- A session that a pool has found broken is never lent again, what is idle is believed to work,
and a pool that tests what it lends has had an answer. -/
theorem broken_never_lent (possible : Possible world) (found : world.pools[index]? = some pool) :
    world.Sifts index pool where
  spares finds later anew := finds.spares possible found anew
  idle connection queued := by
    have reusable := (possible.sane.pools index pool found).idle connection queued
    exact eq_of_beq reusable
  vouched tests _ _ _ lent := by
    obtain ⟨turn, takes, answers, _⟩ := turn_of_event found lent
    exact takes.vouched possible found tests answers

end Sifts

/-- A pool of three connections: one is lent and has been severed, one is being probed for a second
caller, and one is idle. -/
def frayed : World :=
  let config : Config := { Config.default with minConnections := 3, maxConnections := 3 }
  (Trace.follow ⟨new, []⟩ [.call (.openPool config), .resume (.inPool 0 (.caller 0)),
    .resume (.inPool 0 (.caller 0)), .resume (.inPool 0 (.caller 0)), .call (.get 0),
    .resume (.inPool 0 (.caller 1)), .instruct (.kill 1), .call (.get 0)]).world

theorem possible_frayed : Possible frayed :=
  (Reachable.follow .new _).possible

/-- The next statement through the lease shows that its session is lost, and the second caller gets
the connection that it has probed. -/
theorem broken_never_lent_frayed :
    ∃ pool, frayed.pools[0]? = some pool ∧
      FindsBroken frayed 0 pool 1 (.act (.call (.execute ⟨0, 1⟩ "DELETE"))) ∧
      pool.config.testOnBorrow = true ∧
      (∃ lease, Move.event? frayed (.act (.resume (.inPool 0 (.caller 2)))) =
        some ⟨.inPool 0 (.caller 2), ofPool (.ok (.lent lease))⟩) ∧
      frayed.Sifts 0 pool := by
  have found : frayed.pools[0]? = some (frayed.pools.head (by decide)) := by decide
  refine ⟨_, found, ?_, by decide, ⟨_, rfl⟩, broken_never_lent possible_frayed found⟩
  exact .lost rfl rfl rfl rfl rfl

end World

end SessionPool

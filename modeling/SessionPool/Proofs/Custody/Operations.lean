import SessionPool.Proofs.Custody.Basic

/-!
# Every turn keeps a lawful custody

Whatever an agent does, it moves connections only to places for which they are fit. The one thing
that a custody may not allow by itself is that the idle queue is joined together from two parts, by
a connection that was probed on its way back or by a sweep that ends, long after either part was
in order.
-/

namespace SessionPool

namespace Site

open Pool (Agent Phase Task Checkout Patience Report Sweep Job Custody)

variable {custody : Custody} {serves : Server → Prop} {site : Site}

section Keep

variable (kept : site.InCustody custody serves)

include kept

/-- A call that hands out no connection leaves all of them as required. -/
theorem answer_inCustody {answer : Pool.Answer} (gives : custody.gives answer) :
    (site.answer answer).InCustody custody serves where
  site := kept
  gives other ends := by
    cases ends
    exact gives

theorem wait_inCustody {agent : Agent} {phase : Phase} {due : Option Nat}
    (carried : custody.carries ⟨agent, phase, due⟩) :
    (site.wait agent phase due).InCustody custody serves where
  site := ⟨kept.lawful, kept.pool.park carried, kept.server⟩
  gives _ absent := by cases absent

theorem probe_inCustody {agent : Agent} (session : Session) {phase : Phase}
    (carried : ∀ due, custody.carries ⟨agent, phase, due⟩) :
    (site.probe agent session phase).InCustody custody serves := by
  rw [probe]
  apply wait_inCustody
  · exact ⟨kept.lawful, kept.pool,
      kept.lawful.agrees (site.server.agrees_startProbe session) kept.server⟩
  · exact carried _

theorem connect_inCustody {agent : Agent} {phase : Metadata → Attempt → Phase}
    (carried : ∀ metadata attempt due, custody.record metadata →
      custody.carries ⟨agent, phase metadata attempt, due⟩) :
    (site.connect agent phase).InCustody custody serves := by
  rw [connect]
  apply wait_inCustody
  · exact ⟨kept.lawful, { kept.pool with },
      kept.lawful.agrees site.server.agrees_startConnect kept.server⟩
  · exact carried _ _ _ (kept.lawful.new _)

theorem dispose_inCustody {connection : Connection} (held : custody.held connection) :
    (site.dispose connection).InCustody custody serves :=
  ⟨kept.lawful, { kept.pool with }, kept.lawful.disconnect kept.server held⟩

theorem disposeAll_inCustody {connections : List Connection}
    (held : ∀ connection ∈ connections, custody.held connection) :
    (site.disposeAll connections).InCustody custody serves := by
  induction connections generalizing site with
  | nil => exact kept
  | cons connection rest ih =>
      obtain ⟨here, later⟩ := List.forall_mem_cons.mp held
      exact ih (dispose_inCustody kept here) later

/-- A connect that has been answered leaves all connections as they were, and makes a fit one if it
has succeeded. -/
theorem connected_inCustody (opening : custody.Opening serves) {metadata : Metadata}
    (made : custody.record metadata) {attempt : Attempt} {after : Site}
    {result : Except SessionError Connection}
    (connected : site.connected metadata attempt = (after, result)) :
    after.InCustody custody serves ∧ ∀ connection, result = .ok connection →
      custody.fit connection := by
  rw [Site.connected] at connected
  rcases site.server.finishConnect_opens attempt with
    ⟨server, error, answer, agrees⟩ | ⟨server, answer, opens⟩
  · rw [answer] at connected
    obtain ⟨rfl, rfl⟩ := Prod.mk.inj connected
    refine ⟨⟨kept.lawful, kept.pool, kept.lawful.agrees agrees kept.server⟩, ?_⟩
    intro connection failed
    cases failed
  · rw [answer] at connected
    obtain ⟨rfl, rfl⟩ := Prod.mk.inj connected
    refine ⟨⟨kept.lawful, { kept.pool with }, opening.opens opens kept.server⟩, ?_⟩
    intro connection same
    cases same
    exact opening.opened kept.server made

omit kept in
/-- A connect leaves the idle queue as it is. -/
theorem idle_of_connected {metadata : Metadata} {attempt : Attempt} {after : Site}
    {result : Except SessionError Connection}
    (connected : site.connected metadata attempt = (after, result)) :
    after.pool.idle = site.pool.idle := by
  rw [Site.connected] at connected
  split at connected <;> cases connected <;> rfl

omit kept in
/-- What a connect has made is the session that the server has opened, with its record. -/
theorem eq_of_connected {metadata : Metadata} {attempt : Attempt} {after : Site}
    {connection : Connection}
    (connected : site.connected metadata attempt = (after, .ok connection)) :
    ∃ session, (site.server.finishConnect attempt).2 = .ok session ∧
      connection = .ofSession session metadata := by
  rw [Site.connected] at connected
  split at connected
  case h_1 server session answer =>
    cases connected
    exact ⟨session, congrArg Prod.snd answer, rfl⟩
  case h_2 => cases connected

/-! ### Checkouts -/

theorem lend_inCustody (checkout : Checkout) {connection : Connection}
    (fit : custody.fit connection) :
    (site.lend checkout connection).InCustody custody serves := by
  have lent := kept.lawful.checkOut fit
  apply answer_inCustody
  · refine ⟨kept.lawful, { kept.pool with leases := ?_ }, kept.server⟩
    exact List.forall_mem_cons.mpr ⟨kept.lawful.held_of_fit lent, kept.pool.leases⟩
  · exact lent

theorem refuse_inCustody (error : PoolError) : (site.refuse error).InCustody custody serves := by
  apply answer_inCustody
  · exact ⟨kept.lawful, { kept.pool with }, kept.server⟩
  · trivial

theorem seek_inCustody (checkout : Checkout) : (site.seek checkout).InCustody custody serves := by
  have asleep (due : Option Nat) :
      (site.wait (.caller checkout.caller) (.waiting checkout false) due).InCustody custody
        serves := wait_inCustody kept trivial
  rw [seek]
  dsimp only
  split
  case isTrue => exact refuse_inCustody kept _
  case isFalse =>
    split
    case h_1 connection rest queue =>
      have queued := kept.pool.idle
      rw [queue] at queued
      have fit := kept.lawful.fit_of_mem queued List.mem_cons_self
      have later := kept.lawful.sublist (List.sublist_cons_self _ _) queued
      have taken : ({ site with
          pool := { site.pool with
            idle := rest, active := connection.id :: site.pool.active } } : Site).InCustody custody
          serves :=
        ⟨kept.lawful, { kept.pool with idle := later }, kept.server⟩
      split
      · exact probe_inCustody taken _ fun _ => fit
      · exact lend_inCustody taken checkout fit
    case h_2 =>
      split
      · apply connect_inCustody
        · exact ⟨kept.lawful, { kept.pool with }, kept.server⟩
        · exact fun _ _ _ made => made
      · split
        case h_1 =>
          apply answer_inCustody
          · exact ⟨kept.lawful, { kept.pool with }, kept.server⟩
          · trivial
        case h_2 deadline _ =>
          split
          · exact refuse_inCustody kept _
          · exact asleep _
        case h_3 => exact asleep none

theorem checkout_inCustody (caller : Nat) (patience : Patience) :
    (site.checkout caller patience).InCustody custody serves := by
  rw [checkout]
  split
  · apply answer_inCustody
    · exact ⟨kept.lawful, { kept.pool with }, kept.server⟩
    · trivial
  · apply seek_inCustody
    exact ⟨kept.lawful, { kept.pool with }, kept.server⟩

theorem borrowProbed_inCustody (checkout : Checkout) {connection : Connection}
    (broken : custody.held connection.broken)
    (fit : site.server.answers connection.session = true → custody.fit connection) :
    (site.borrowProbed checkout connection).InCustody custody serves := by
  have released : ({ site with
      pool := { site.pool with
        active := site.pool.active.erase connection.id
        total := site.pool.total - 1 } } : Site).InCustody custody serves :=
    ⟨kept.lawful, { kept.pool with }, kept.server⟩
  rw [borrowProbed]
  dsimp only
  split
  case isTrue lends =>
    exact lend_inCustody kept checkout (fit (Bool.and_eq_true_iff.mp lends).1)
  case isFalse =>
    split
    case isTrue alive =>
      apply refuse_inCustody
      exact dispose_inCustody released (kept.lawful.held_of_fit (fit alive))
    case isFalse =>
      apply seek_inCustody
      exact dispose_inCustody released broken

omit kept in
/-- The caller of a connect gets what it has made, if that is fit. -/
theorem checkoutConnected_inCustody (checkout : Checkout) {metadata : Metadata} {attempt : Attempt}
    {after : Site} {result : Except SessionError Connection}
    (connected : site.connected metadata attempt = (after, result))
    (still : after.InCustody custody serves)
    (fits : ∀ connection, result = .ok connection → custody.fit connection) :
    (site.checkoutConnected checkout metadata attempt).InCustody custody serves := by
  rw [checkoutConnected, connected]
  rcases result with error | connection
  · have released : ({ after.pool with total := after.pool.total - 1 } : Pool).InCustody custody :=
      { still.pool with }
    apply refuse_inCustody
    exact ⟨still.lawful, released.notifyOne, still.server⟩
  · have fit := fits connection rfl
    dsimp only
    split
    · apply refuse_inCustody
      apply dispose_inCustody
      · exact ⟨still.lawful, { still.pool with }, still.server⟩
      · exact still.lawful.held_of_fit fit
    · apply lend_inCustody
      · exact ⟨still.lawful, { still.pool with }, still.server⟩
      · exact fit

/-! ### Returns -/

/-- A connection that comes back is disposed of, or queued if the queue allows it. -/
theorem requeue_inCustody {connection : Connection} (held : custody.held connection)
    {healthy : Bool} (joins : healthy = true → site.pool.isShutdown = false →
      custody.queue (site.pool.idle ++ [connection])) :
    (site.requeue connection healthy).InCustody custody serves := by
  have dropped : ({ site.pool with
      active := site.pool.active.erase connection.id
      total := site.pool.total - 1 } : Pool).InCustody custody := { kept.pool with }
  rw [requeue]
  dsimp only
  split
  · exact answer_inCustody (dispose_inCustody kept held) trivial
  · split
    · refine answer_inCustody (dispose_inCustody ?_ held) trivial
      exact ⟨kept.lawful, dropped, kept.server⟩
    case isFalse running =>
      split
      · refine answer_inCustody (dispose_inCustody ?_ held) trivial
        exact ⟨kept.lawful, dropped.notifyOne, kept.server⟩
      case isFalse sound =>
        have queued := joins (by simpa using sound) (by simpa using running)
        have back : ({ site.pool with
            active := site.pool.active.erase connection.id
            idle := site.pool.idle ++ [connection] } : Pool).InCustody custody :=
          { kept.pool with idle := queued }
        apply answer_inCustody
        · exact ⟨kept.lawful, back.notifyOne, kept.server⟩
        · trivial

theorem takeBack_inCustody (agent : Agent) {connection : Connection}
    (held : custody.held connection) :
    (site.takeBack agent connection).InCustody custody serves := by
  have touched := kept.lawful.touch held
  rw [takeBack]
  dsimp only
  split
  · apply answer_inCustody
    · exact ⟨kept.lawful, kept.pool, kept.lawful.disconnect kept.server held⟩
    · trivial
  · split
    case isTrue returns =>
      have reusable : connection.isReusable = true := (Bool.and_eq_true_iff.mp returns).1
      split
      · exact probe_inCustody kept _ fun _ => kept.lawful.mend held reusable
      · apply requeue_inCustody kept touched
        exact fun _ _ => kept.lawful.back kept.pool.idle held reusable
    case isFalse =>
      apply requeue_inCustody kept touched
      intro healthy
      cases healthy

theorem returnProbed_inCustody {connection : Connection}
    (broken : custody.held connection.broken)
    (fit : site.server.answers connection.session = true → custody.fit connection)
    (joins : site.pool.isShutdown = false → site.server.answers connection.session = true →
      custody.queue (site.pool.idle ++ [connection])) :
    (site.returnProbed connection).InCustody custody serves := by
  rw [returnProbed]
  split
  case isTrue alive =>
    apply requeue_inCustody kept (kept.lawful.held_of_fit (fit alive))
    exact fun _ running => joins running alive
  case isFalse =>
    apply requeue_inCustody kept broken
    intro healthy
    cases healthy

theorem endLease_inCustody (ticket : Nat) :
    (site.withPool (·.endLease ticket)).InCustody custody serves :=
  ⟨kept.lawful, kept.pool.endLease ticket, kept.server⟩

theorem held_of_lease {ticket : Nat} {lease : Lease}
    (good : site.pool.lease? ticket = some lease) : custody.held lease.connection :=
  kept.pool.leases lease (List.mem_of_find?_eq_some good)

theorem release_inCustody (agent : Agent) (ticket : Nat) :
    (site.release agent ticket).InCustody custody serves := by
  rw [release]
  split
  case h_1 => exact answer_inCustody kept trivial
  case h_2 lease good =>
    exact takeBack_inCustody (endLease_inCustody kept ticket) agent (held_of_lease kept good)

theorem invalidate_inCustody (agent : Agent) (ticket : Nat) :
    (site.invalidate agent ticket).InCustody custody serves := by
  rw [invalidate]
  split
  case h_1 => exact answer_inCustody kept trivial
  case h_2 lease good =>
    have broken := kept.lawful.broken (held_of_lease kept good)
    exact takeBack_inCustody (endLease_inCustody kept ticket) agent broken

theorem discard_inCustody (agent : Agent) (ticket : Nat) :
    (site.discard agent ticket).InCustody custody serves := by
  rw [discard]
  split
  case h_1 => exact answer_inCustody kept trivial
  case h_2 lease good =>
    exact takeBack_inCustody (endLease_inCustody kept ticket) agent (held_of_lease kept good)

theorem detach_inCustody (ticket : Nat) : (site.detach ticket).InCustody custody serves := by
  rw [detach]
  split
  case h_1 => exact answer_inCustody kept trivial
  case h_2 lease good =>
    have ended := kept.pool.endLease ticket
    have freed : ({ site.pool.endLease ticket with
        active := site.pool.active.erase lease.connection.id
        total := site.pool.total - 1 } : Pool).InCustody custody := { ended with }
    have gives : custody.gives (.ok (.detached lease.connection.session)) :=
      ⟨lease.connection, held_of_lease kept good, rfl⟩
    dsimp only
    split
    · apply answer_inCustody
      · exact ⟨kept.lawful, freed.notifyOne, kept.server⟩
      · exact gives
    · apply answer_inCustody
      · exact ⟨kept.lawful, ended, kept.server⟩
      · exact gives

/-! ### Statements -/

/-- A statement leaves the connection as it is, or shows that it is broken. -/
theorem held_observed {α : Type} {connection : Connection} (held : custody.held connection)
    (result : Except SessionError α) : custody.held (observed connection result) := by
  unfold observed
  split
  · exact held
  · split
    · exact kept.lawful.broken held
    · exact held

section Statement

variable {α : Type} {ticket : Nat} {send : Server → Session → Server × Except SessionError α}
  (agrees : ∀ session, site.server.Agrees (send site.server session).1) {reply : α → Pool.Reply}
  (other : ∀ rows, custody.gives (.ok (reply rows)))

include agrees other

omit kept in
/-- Only what the statement leaves in the lease has to be as required, and the rest of the pool. -/
theorem throughLease_inCustody_of_lease
    (rest : (site.withPool (·.endLease ticket)).InCustody custody serves) {lease : Lease}
    (good : site.pool.lease? ticket = some lease)
    (held : custody.held
      (observed lease.connection (send site.server lease.connection.session).2)) :
    (site.throughLease ticket send reply).InCustody custody serves := by
  rw [throughLease, good]
  apply answer_inCustody
  · exact ⟨rest.lawful, .updateLease rest.pool held, rest.lawful.agrees (agrees _) rest.server⟩
  · split
    · exact other _
    · trivial

theorem throughLease_inCustody :
    (site.throughLease ticket send reply).InCustody custody serves := by
  cases good : site.pool.lease? ticket with
  | none =>
      rw [throughLease, good]
      exact answer_inCustody kept trivial
  | some lease =>
      apply throughLease_inCustody_of_lease agrees other (endLease_inCustody kept ticket) good
      exact held_observed kept (held_of_lease kept good) _

end Statement

/-! ### Sessions from elsewhere -/

/-- A session is queued if the queue allows it, and disconnected otherwise. -/
theorem adopt_inCustody {session : Session}
    (fit : custody.fit (.ofSession session (.new site.pool.nextId site.now)))
    (joins : custody.queue
      (site.pool.idle ++ [.ofSession session (.new site.pool.nextId site.now)])) :
    (site.adopt session).InCustody custody serves := by
  have away (error : PoolError) : (site.turnAway session error).InCustody custody serves := by
    apply answer_inCustody
    · exact ⟨kept.lawful, kept.pool,
        kept.lawful.disconnect kept.server (kept.lawful.held_of_fit fit)⟩
    · trivial
  rw [adopt]
  dsimp only
  split
  · exact away _
  · split
    · exact away _
    · have taken : ({ site.pool with
          nextId := site.pool.nextId + 1
          total := site.pool.total + 1
          idle := site.pool.idle ++ [.ofSession session (.new site.pool.nextId site.now)] } :
          Pool).InCustody custody := { kept.pool with idle := joins }
      apply answer_inCustody
      · exact ⟨kept.lawful, taken.notifyOne, kept.server⟩
      · trivial

/-! ### Sweeps -/

theorem rest_inCustody : site.rest.InCustody custody serves :=
  ⟨kept.lawful, kept.pool.park trivial, kept.server⟩

theorem afterSweep_inCustody (agent : Agent) (report : Report) :
    (site.afterSweep agent report).InCustody custody serves := by
  unfold afterSweep
  split
  · exact answer_inCustody kept trivial
  · split
    · exact answer_inCustody kept trivial
    · exact answer_inCustody (rest_inCustody kept) trivial

/-- What a sweep has found alive goes back if the queue allows it. -/
theorem commit_inCustody (agent : Agent) {sweep : Sweep}
    (survivors : custody.queue sweep.kept)
    (evicted : ∀ connection ∈ sweep.evicted, custody.held connection)
    (joins : site.pool.isShutdown = false → custody.queue (sweep.kept ++ site.pool.idle)) :
    (site.commit agent sweep).InCustody custody serves := by
  have leaves {after : Site} (still : after.InCustody custody serves) :
      ((after.withPool (·.count (·.swept sweep.report))).afterSweep agent
        sweep.report).InCustody custody serves := by
    apply afterSweep_inCustody
    exact ⟨still.lawful, { still.pool with }, still.server⟩
  rw [commit]
  dsimp only
  split
  case isTrue =>
    apply leaves
    refine disposeAll_inCustody (disposeAll_inCustody ?_ ?_) evicted
    · exact ⟨kept.lawful, { kept.pool with }, kept.server⟩
    · intro connection member
      exact kept.lawful.held_of_fit (kept.lawful.fit_of_mem survivors member)
  case isFalse running =>
    have back := joins (by simpa using running)
    apply leaves
    apply disposeAll_inCustody
    · refine ⟨kept.lawful, ?_, kept.server⟩
      apply Pool.InCustody.notifyMany
      exact { kept.pool with idle := back }
    · exact evicted

omit kept in
/-- A sweep that ends says what it has found. -/
theorem commit_isSome (agent : Agent) (sweep : Sweep) :
    (site.commit agent sweep).2.isSome = true := by
  have ends (after : Site) (report : Report) : (after.afterSweep agent report).2.isSome = true := by
    unfold afterSweep
    split
    · rfl
    · split <;> rfl
  exact ends _ _

theorem examine_inCustody (agent : Agent) {sweep : Sweep} {pending : List Connection}
    (queued : custody.queue (sweep.kept ++ pending))
    (evicted : ∀ connection ∈ sweep.evicted, custody.held connection)
    (joins : site.pool.isShutdown = false → (site.examine agent sweep pending).2.isSome = true →
      custody.queue (sweep.kept ++ site.pool.idle)) :
    (site.examine agent sweep pending).InCustody custody serves := by
  induction pending generalizing sweep with
  | nil =>
      rw [List.append_nil] at queued
      apply commit_inCustody kept agent queued evicted
      exact fun running => joins running (commit_isSome agent sweep)
  | cons connection pending ih =>
      rw [examine] at joins ⊢
      split
      case isTrue spares =>
        have here : connection ∈ sweep.kept ++ connection :: pending :=
          List.mem_append_right _ List.mem_cons_self
        have held := kept.lawful.held_of_fit (kept.lawful.fit_of_mem queued here)
        rw [if_pos spares] at joins
        apply ih
        · exact kept.lawful.sublist ((List.sublist_cons_self _ _).append_left _) queued
        · exact List.forall_mem_append.mpr ⟨evicted, List.forall_mem_singleton.mpr held⟩
        · exact joins
      case isFalse => exact probe_inCustody kept _ fun _ => ⟨queued, evicted⟩

theorem sweep_inCustody (agent : Agent) : (site.sweep agent).InCustody custody serves := by
  rw [sweep]
  dsimp only
  split
  · exact afterSweep_inCustody kept agent .zero
  · apply examine_inCustody
    · exact ⟨kept.lawful, { kept.pool with idle := kept.lawful.nil }, kept.server⟩
    · exact kept.pool.idle
    · exact List.forall_mem_nil _
    · exact fun _ _ => kept.lawful.nil

theorem sweepProbed_inCustody (agent : Agent) {sweep : Sweep} {connection : Connection}
    {pending : List Connection}
    (evicted : ∀ connection ∈ sweep.evicted, custody.held connection)
    (broken : custody.held connection.broken)
    (without : custody.queue (sweep.kept ++ pending))
    (alive : site.server.answers connection.session = true →
      custody.queue (sweep.kept ++ connection :: pending))
    (joins : site.pool.isShutdown = false →
      (site.sweepProbed agent sweep connection pending).2.isSome = true →
        custody.queue (sweep.survivors site.server connection ++ site.pool.idle)) :
    (site.sweepProbed agent sweep connection pending).InCustody custody serves := by
  rw [sweepProbed, Sweep.survivors] at *
  split
  case isTrue answers =>
    rw [if_pos answers, if_pos answers] at joins
    apply examine_inCustody kept agent
    · have queued := alive answers
      rw [List.append_cons] at queued
      exact queued
    · exact evicted
    · exact joins
  case isFalse silent =>
    rw [if_neg silent, if_neg silent] at joins
    apply examine_inCustody kept agent
    · exact without
    · exact List.forall_mem_append.mpr ⟨evicted, List.forall_mem_singleton.mpr broken⟩
    · exact joins

theorem wake_inCustody : site.wake.InCustody custody serves := by
  rw [wake]
  split
  · refine ⟨kept, ?_⟩
    intro answer absent
    cases absent
  · exact sweep_inCustody kept .checker

/-! ### Opening and closing -/

theorem prewarm_inCustody (agent : Agent) (made : Nat) :
    (site.prewarm agent made).InCustody custody serves := by
  rw [prewarm]
  split
  · exact connect_inCustody kept fun _ _ _ made => made
  · exact answer_inCustody (rest_inCustody kept) trivial

omit kept in
/-- What a connect has made is queued if the queue allows it. -/
theorem prewarmConnected_inCustody (agent : Agent) (made : Nat) {metadata : Metadata}
    {attempt : Attempt} {after : Site} {result : Except SessionError Connection}
    (connected : site.connected metadata attempt = (after, result))
    (still : after.InCustody custody serves)
    (joins : ∀ connection, result = .ok connection →
      custody.queue (site.pool.idle ++ [connection])) :
    (site.prewarmConnected agent made metadata attempt).InCustody custody serves := by
  rw [prewarmConnected, connected]
  rcases result with error | connection
  · exact answer_inCustody (rest_inCustody still) trivial
  · have queued := joins connection rfl
    rw [← idle_of_connected connected] at queued
    dsimp only
    apply prewarm_inCustody
    exact ⟨still.lawful, { still.pool with idle := queued }, still.server⟩

theorem drain_inCustody (thenDrop : Bool) : (site.drain thenDrop).InCustody custody serves := by
  have emptied : (site.withPool fun pool =>
      { pool with idle := [], total := pool.total - site.pool.idle.length }).InCustody custody
      serves := ⟨kept.lawful, { kept.pool with idle := kept.lawful.nil }, kept.server⟩
  have held (connection : Connection) (queued : connection ∈ site.pool.idle) :
      custody.held connection :=
    kept.lawful.held_of_fit (kept.lawful.fit_of_mem kept.pool.idle queued)
  have disposed := disposeAll_inCustody emptied held
  rw [drain]
  apply answer_inCustody
  · exact ⟨disposed.lawful, { disposed.pool with }, disposed.server⟩
  · trivial

theorem shutdown_inCustody (agent : Agent) (thenDrop : Bool) :
    (site.shutdown agent thenDrop).InCustody custody serves := by
  have told := kept.pool.notifyAll
  have ending : (site.withPool fun pool =>
      { pool.notifyAll with isShutdown := true, stopRequested := true }).InCustody custody
      serves := ⟨kept.lawful, { told with }, kept.server⟩
  rw [shutdown]
  split
  · apply answer_inCustody
    · exact ⟨kept.lawful, { kept.pool with }, kept.server⟩
    · trivial
  · dsimp only
    split
    · exact wait_inCustody ending trivial
    · exact drain_inCustody ending thenDrop

/-! ### Calls, and going on -/

/-- A call leaves all connections as required, if a session that it brings along is fit. -/
theorem work_inCustody (caller : Nat) {job : Job}
    (brings : ∀ session, job = .adopt session →
      custody.fit (.ofSession session (.new site.pool.nextId site.now)) ∧
        custody.queue
          (site.pool.idle ++ [.ofSession session (.new site.pool.nextId site.now)])) :
    (job.work caller site).InCustody custody serves := by
  cases job with
  | acquire timeout => exact checkout_inCustody kept caller _
  | get => exact checkout_inCustody kept caller _
  | tryGet => exact checkout_inCustody kept caller _
  | adopt session =>
      obtain ⟨fit, joins⟩ := brings session rfl
      exact adopt_inCustody kept fit joins
  | sweep => exact sweep_inCustody kept _
  | shutdown thenDrop => exact shutdown_inCustody kept _ thenDrop
  | release ticket => exact release_inCustody kept _ ticket
  | invalidate ticket => exact invalidate_inCustody kept _ ticket
  | discard ticket => exact discard_inCustody kept _ ticket
  | detach ticket => exact detach_inCustody kept ticket
  | execute ticket statement =>
      change (site.throughLease ticket (·.execute · statement) .rows).InCustody custody serves
      apply throughLease_inCustody kept
      · exact fun session => site.server.agrees_execute session statement
      · exact fun _ => trivial
  | query ticket statement =>
      change (site.throughLease ticket (·.query · statement) .texts).InCustody custody serves
      apply throughLease_inCustody kept
      · exact fun session => site.server.agrees_query session statement
      · exact fun _ => trivial

/-- An agent that goes on leaves all connections as required, if what it joins to the idle queue is
allowed there. -/
theorem proceed_inCustody {agent : Agent} {task : Task}
    (opening : task.isOpening = true → custody.Opening serves)
    (hands : custody.hands site.server task) (joins : custody.joins site agent task) :
    (site.proceed agent task.phase).InCustody custody serves := by
  obtain ⟨_, phase, due⟩ := task
  cases phase with
  | prewarming made metadata attempt =>
      rcases connected : site.connected metadata attempt with ⟨after, result⟩
      obtain ⟨still, _⟩ := connected_inCustody kept (opening rfl) hands connected
      apply prewarmConnected_inCustody agent made connected still
      rintro connection rfl
      obtain ⟨session, answer, rfl⟩ := eq_of_connected connected
      exact joins session answer
  | connecting checkout metadata attempt =>
      rcases connected : site.connected metadata attempt with ⟨after, result⟩
      obtain ⟨still, fits⟩ := connected_inCustody kept (opening rfl) hands connected
      exact checkoutConnected_inCustody checkout connected still fits
  | borrowProbe checkout connection => exact borrowProbed_inCustody kept checkout hands.1 hands.2
  | waiting checkout notified => exact seek_inCustody kept checkout
  | returnProbe connection => exact returnProbed_inCustody kept hands.1 hands.2 joins
  | sweeping sweep connection pending =>
      obtain ⟨evicted, broken, without, alive⟩ := hands
      exact sweepProbed_inCustody kept agent evicted broken without alive joins
  | resting => exact wake_inCustody kept
  | joining thenDrop => exact drain_inCustody kept thenDrop

omit kept in
/-- Where the order does not matter, what an agent needs to go on may be queued. -/
theorem joins_each {fit held : Connection → Prop} {record : Metadata → Prop}
    (kept : site.InCustody (.each fit held record) serves) {agent : Agent} {task : Task}
    (opening : task.isOpening = true → (Custody.each fit held record).Opening serves)
    (hands : (Custody.each fit held record).hands site.server task) :
    (Custody.each fit held record).joins site agent task := by
  have queued : ∀ connection ∈ site.pool.idle, fit connection := kept.pool.idle
  obtain ⟨_, phase, due⟩ := task
  cases phase with
  | prewarming made metadata attempt =>
      intro session answer
      have new : fit (.ofSession session metadata) := by
        rw [Server.eq_of_finishConnect answer]
        exact (opening rfl).opened kept.server hands
      exact List.forall_mem_append.mpr ⟨queued, List.forall_mem_singleton.mpr new⟩
  | returnProbe connection =>
      intro _ alive
      exact List.forall_mem_append.mpr ⟨queued, List.forall_mem_singleton.mpr (hands.2 alive)⟩
  | sweeping sweep current pending =>
      intro _ _
      obtain ⟨_, _, without, answered⟩ := hands
      have survive : ∀ connection ∈ sweep.survivors site.server current, fit connection := by
        unfold Sweep.survivors
        split
        case isTrue alive =>
          have before := List.forall_mem_append.mp (answered alive)
          have here := before.2 current List.mem_cons_self
          exact List.forall_mem_append.mpr ⟨before.1, List.forall_mem_singleton.mpr here⟩
        case isFalse => exact (List.forall_mem_append.mp without).1
      exact List.forall_mem_append.mpr ⟨survive, queued⟩
  | _ => trivial

theorem resume_inCustody {agent : Agent}
    (opening : ∀ task, site.pool.task? agent = some task →
      site.pool.isReady site.now task = true → task.isOpening = true → custody.Opening serves)
    (joins : ∀ task, site.pool.task? agent = some task →
      site.pool.isReady site.now task = true →
        custody.joins (site.withPool (·.unpark agent)) agent task) :
    (site.resume agent).InCustody custody serves := by
  have stays : Turn.InCustody custody serves (site, none) := by
    refine ⟨kept, ?_⟩
    intro answer absent
    cases absent
  rw [resume]
  split
  case h_1 task found =>
    split
    case isTrue ready =>
      have carried := kept.pool.tasks.2 task (List.mem_of_find?_eq_some found)
      apply proceed_inCustody
      · exact ⟨kept.lawful, kept.pool.unpark agent, kept.server⟩
      · exact opening task found ready
      · exact kept.lawful.hands_of_carries carried _
      · exact joins task found ready
    case isFalse => exact stays
  case h_2 => exact stays

end Keep

end Site

end SessionPool

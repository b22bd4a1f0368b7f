import SessionPool.Proofs.Backing
import SessionPool.Proofs.Duty.Calls

/-!
# Turns and counters

A checkout is counted when it ends, and a sweep when it is over, and neither at any other time. What
is counted as made or as disposed of appears in one of the places where a pool keeps connections, or
disappears from there; beside that only a session that is given to the pool appears, and only one
that its owner keeps disappears.
-/

namespace SessionPool

namespace Pool

/-! ### What is counted when -/

/-- What kind of job an agent is on, as far as counting goes. -/
inductive Job.Kind where
  | checkout
  | gift
  | other
deriving DecidableEq, Repr

/-- The kind of a job, if there is one. -/
def Job.kind (job? : Option Job) : Job.Kind :=
  match job? with
  | some (.acquire _) | some .get | some .tryGet => .checkout
  | some (.adopt _) => .gift
  | _ => .other

theorem Job.kind_of_checksOut {job? : Option Job} (asks : Job.checksOut job? = true) :
    Job.kind job? = .checkout := by
  cases job? with
  | none => contradiction
  | some job => cases job <;> first | rfl | contradiction

theorem Job.kind_of_returns {job : Job} {ticket : Nat} (returns : job.returns? = some ticket) :
    Job.kind (some job) = .other := by
  cases job <;> first | rfl | contradiction

namespace Counters

/-- The counters, but for what has been made and disposed of. -/
def activity (counters : Counters) : Counters :=
  { counters with connectionsCreated := 0, connectionsClosed := 0 }

/-- The counters after a job of this kind has ended, if it has. A checkout is counted by its
outcome, and a sweep by its report. -/
def ended (counters : Counters) (kind : Job.Kind) : Option Answer → Counters
  | some (.ok (.lent _)) => counters.checkedOut
  | some (.ok (.swept report)) => counters.swept report
  | some (.error error) => if kind = .checkout then counters.failed error else counters
  | _ => counters

theorem activity_ended {before after : Counters} (same : after.activity = before.activity)
    (kind : Job.Kind) (answer : Option Answer) :
    (after.ended kind answer).activity = (before.ended kind answer).activity := by
  simp only [activity, mk.injEq, true_and] at same
  obtain ⟨successful, failed, timeouts, performed, dead⟩ := same
  unfold ended
  split
  · simp only [checkedOut, activity, successful, failed, timeouts, performed, dead]
  · simp only [swept, activity, successful, failed, timeouts, performed, dead]
  · split
    · rename_i error _
      cases error <;>
        simp only [Counters.failed, activity, successful, failed, timeouts, performed, dead]
    · simp only [activity, successful, failed, timeouts, performed, dead]
  · simp only [activity, successful, failed, timeouts, performed, dead]

end Counters

/-- How many connections have been made, less those that have been disposed of and those in the
places where the pool keeps them. -/
def surplus (pool : Pool) : Int :=
  (pool.counters.connectionsCreated : Int) - pool.counters.connectionsClosed - pool.idle.length -
    pool.active.length - pool.validating

/-- How many connections the end of a job of this kind brings to a pool uncounted. -/
def Answer.brings (kind : Job.Kind) : Option Answer → Int
  | some (.ok (.detached _)) => -1
  | some (.ok .done) => if kind = .gift then 1 else 0
  | _ => 0

end Pool

/-- A turn of an agent on a job of this kind counts what it does. -/
structure Turn.Counts (turn : Turn) (before : Pool) (kind : Pool.Job.Kind) : Prop where
  activity : turn.1.pool.counters.activity = (before.counters.ended kind turn.2).activity
  surplus (present : turn.1.pool.isPresent = true) :
    turn.1.pool.surplus + Pool.Answer.brings kind turn.2 = before.surplus

/-- What has happened before does not matter if nothing had to be counted. -/
theorem Turn.Counts.after {turn : Turn} {middle before : Pool} {kind : Pool.Job.Kind}
    (counts : turn.Counts middle kind)
    (activity : middle.counters.activity = before.counters.activity)
    (surplus : middle.surplus = before.surplus) : turn.Counts before kind where
  activity := counts.activity.trans (Pool.Counters.activity_ended activity kind turn.2)
  surplus present := (counts.surplus present).trans surplus

namespace Site

open Pool (Agent Phase Task Checkout Patience Report Sweep Answer Job)

variable {site : Site} {agent : Agent} {kind : Job.Kind}

/-! ### Waiting, and disposing of connections -/

theorem wait_counts (phase : Phase) (due : Option Nat) :
    (site.wait agent phase due).Counts site.pool kind where
  activity := rfl
  surplus _ := add_zero _

theorem probe_counts (session : Session) (phase : Phase) :
    (site.probe agent session phase).Counts site.pool kind where
  activity := rfl
  surplus _ := add_zero _

theorem connect_counts (phase : Metadata → Attempt → Phase) :
    (site.connect agent phase).Counts site.pool kind where
  activity := rfl
  surplus _ := add_zero _

theorem none_counts : Turn.Counts (site, none) site.pool kind where
  activity := rfl
  surplus _ := add_zero _

theorem activity_disposeAll (site : Site) (connections : List Connection) :
    (site.disposeAll connections).pool.counters.activity = site.pool.counters.activity := by
  induction connections generalizing site with
  | nil => rfl
  | cons connection rest ih => exact ih (site.dispose connection)

theorem surplus_dispose (connection : Connection) :
    (site.dispose connection).pool.surplus = site.pool.surplus - 1 := by
  simp only [Pool.surplus, dispose, Pool.count, Pool.Counters.closed]
  omega

theorem surplus_disposeAll (site : Site) (connections : List Connection) :
    (site.disposeAll connections).pool.surplus = site.pool.surplus - connections.length := by
  -- They are disposed of from the front, so the site changes along the list.
  induction connections generalizing site with
  | nil => simp [disposeAll]
  | cons connection rest ih =>
      have later := ih (site.dispose connection)
      rw [surplus_dispose] at later
      rw [List.length_cons]
      change (disposeAll (site.dispose connection) rest).pool.surplus = _
      omega

/-! ### Checkouts -/

theorem lend_counts (checkout : Checkout) (connection : Connection) :
    (site.lend checkout connection).Counts site.pool .checkout where
  activity := rfl
  surplus _ := add_zero _

theorem refuse_counts (error : PoolError) :
    (site.refuse error).Counts site.pool .checkout where
  activity := rfl
  surplus _ := add_zero _

theorem decline_counts : site.decline.Counts site.pool .checkout where
  activity := rfl
  surplus _ := add_zero _

theorem seek_counts (checkout : Checkout) : (site.seek checkout).Counts site.pool .checkout := by
  rw [seek]
  dsimp only
  split
  · exact refuse_counts _
  · split
    case h_1 connection rest queued =>
      have taken : ({ site.pool with
          idle := rest, active := connection.id :: site.pool.active } : Pool).surplus =
          site.pool.surplus := by
        simp only [Pool.surplus, queued, List.length_cons]
        omega
      split
      · exact Turn.Counts.after (probe_counts _ _) rfl taken
      · exact Turn.Counts.after (lend_counts _ _) rfl taken
    case h_2 empty =>
      split
      · exact Turn.Counts.after (connect_counts _) rfl rfl
      · split
        · exact decline_counts
        · split
          · exact refuse_counts _
          · exact wait_counts _ _
        · exact wait_counts _ _

theorem checkout_counts (caller : Nat) (patience : Patience) :
    (site.checkout caller patience).Counts site.pool .checkout := by
  rw [checkout]
  split
  · exact ⟨rfl, fun _ => add_zero _⟩
  · exact Turn.Counts.after (seek_counts _) rfl rfl

/-- What has been made for a caller is lent, or is disposed of. -/
theorem checkoutConnected_counts (checkout : Checkout) (metadata : Metadata)
    (attempt : Attempt) :
    (site.checkoutConnected checkout metadata attempt).Counts site.pool .checkout := by
  rw [checkoutConnected, connected]
  rcases site.server.finishConnect attempt with ⟨server, error | session⟩
  · exact Turn.Counts.after (refuse_counts _) rfl rfl
  · dsimp only
    split
    · refine Turn.Counts.after (refuse_counts _) rfl ?_
      rw [surplus_dispose]
      simp only [Pool.surplus, withPool, Pool.count, Pool.Counters.created]
      omega
    · refine Turn.Counts.after (lend_counts _ _) rfl ?_
      simp only [Pool.surplus, withPool, Pool.count, Pool.Counters.created, List.length_cons]
      omega

/-- A connection that is not active any more is disposed of. -/
theorem surplus_release {pool : Pool} {id : Nat} (active : id ∈ pool.active) (total : Nat) :
    ({ pool with active := pool.active.erase id, total } : Pool).surplus = pool.surplus + 1 := by
  have shorter := List.length_erase_of_mem active
  have some := List.length_pos_of_mem active
  simp only [Pool.surplus, shorter]
  omega

theorem borrowProbed_counts (checkout : Checkout) {connection : Connection}
    (active : connection.id ∈ site.pool.active) :
    (site.borrowProbed checkout connection).Counts site.pool .checkout := by
  have released := surplus_release active (site.pool.total - 1)
  rw [borrowProbed]
  dsimp only
  split
  · exact lend_counts _ _
  · split
    · refine Turn.Counts.after (refuse_counts _) rfl ?_
      rw [surplus_dispose, released]
      omega
    · refine Turn.Counts.after (seek_counts _) rfl ?_
      rw [surplus_dispose, released]
      omega

/-! ### Returns -/

theorem requeue_counts {connection : Connection} {healthy : Bool}
    (active : connection.id ∈ site.pool.active) :
    (site.requeue connection healthy).Counts site.pool .other := by
  have released := surplus_release active (site.pool.total - 1)
  rw [requeue]
  dsimp only
  rw [if_neg (by simp [active])]
  split
  · refine ⟨rfl, fun _ => ?_⟩
    change (Site.dispose _ connection).pool.surplus + 0 = _
    rw [surplus_dispose, released]
    omega
  · split
    · refine ⟨rfl, fun _ => ?_⟩
      change (Site.dispose _ connection).pool.surplus + 0 = _
      rw [surplus_dispose]
      change Pool.surplus { site.pool with
        active := site.pool.active.erase connection.id, total := site.pool.total - 1 } - 1 + 0 = _
      rw [released]
      omega
    · refine ⟨rfl, fun _ => ?_⟩
      have queued : Pool.surplus { site.pool with
          active := site.pool.active.erase connection.id
          idle := site.pool.idle ++ [connection] } = site.pool.surplus := by
        have kept := surplus_release active site.pool.total
        simp only [Pool.surplus, List.length_append, List.length_singleton] at kept ⊢
        omega
      exact (add_zero _).trans queued

theorem takeBack_counts {connection : Connection}
    (active : connection.id ∈ site.pool.active) :
    (site.takeBack agent connection).Counts site.pool .other := by
  rw [takeBack]
  dsimp only
  split
  · exact ⟨rfl, fun _ => add_zero _⟩
  · split
    · split
      · exact probe_counts _ _
      · exact requeue_counts active
    · exact requeue_counts active

theorem returnProbed_counts {connection : Connection}
    (active : connection.id ∈ site.pool.active) :
    (site.returnProbed connection).Counts site.pool .other := by
  rw [returnProbed]
  split
  · exact requeue_counts active
  · exact requeue_counts active

section Leases

variable (lent : ∀ lease ∈ site.pool.leases, lease.connection.id ∈ site.pool.active)
  (ticket : Nat)

include lent

theorem takeBack_endLease_counts {lease : Lease} (good : site.pool.lease? ticket = some lease)
    {connection : Connection} (same : connection.id = lease.connection.id) :
    ((site.withPool (·.endLease ticket)).takeBack agent connection).Counts site.pool .other := by
  have active : connection.id ∈ site.pool.active := by
    rw [same]
    exact lent lease (List.mem_of_find?_eq_some good)
  refine Turn.Counts.after (takeBack_counts ?_) rfl rfl
  exact active

theorem release_counts : (site.release agent ticket).Counts site.pool .other := by
  rw [release]
  split
  · exact ⟨rfl, fun _ => add_zero _⟩
  case h_2 lease good => exact takeBack_endLease_counts lent ticket good rfl

theorem invalidate_counts : (site.invalidate agent ticket).Counts site.pool .other := by
  rw [invalidate]
  split
  · exact ⟨rfl, fun _ => add_zero _⟩
  case h_2 lease good => exact takeBack_endLease_counts lent ticket good rfl

theorem discard_counts : (site.discard agent ticket).Counts site.pool .other := by
  rw [discard]
  split
  · exact ⟨rfl, fun _ => add_zero _⟩
  case h_2 lease good => exact takeBack_endLease_counts lent ticket good rfl

/-- As long as the pool is there, it gives up the connection that its owner keeps. -/
theorem detach_counts : (site.detach ticket).Counts site.pool .other := by
  rw [detach]
  split
  · exact ⟨rfl, fun _ => add_zero _⟩
  case h_2 lease good =>
    have active := lent lease (List.mem_of_find?_eq_some good)
    have released := surplus_release active (site.pool.total - 1)
    dsimp only
    split
    · refine ⟨rfl, fun _ => ?_⟩
      change Pool.surplus { site.pool with
        active := site.pool.active.erase lease.connection.id
        total := site.pool.total - 1 } + -1 = _
      rw [released]
      omega
    case isFalse gone =>
      refine ⟨rfl, fun present => ?_⟩
      apply absurd _ gone
      rw [Bool.and_eq_true, List.contains_iff_mem]
      exact ⟨present, active⟩

end Leases

theorem throughLease_counts {α : Type} (ticket : Nat)
    (send : Server → Session → Server × Except SessionError α) {reply : α → Pool.Reply}
    (plain : ∀ counters : Pool.Counters, ∀ value : α,
      counters.ended .other (some (.ok (reply value))) = counters)
    (brings : ∀ value : α, Answer.brings .other (some (.ok (reply value))) = 0) :
    (site.throughLease ticket send reply).Counts site.pool .other := by
  rw [throughLease]
  split
  · exact ⟨rfl, fun _ => add_zero _⟩
  · dsimp only
    split
    · refine ⟨?_, fun _ => ?_⟩
      · rw [Site.answer, plain]
        rfl
      · rw [Site.answer, brings]
        exact add_zero _
    · exact ⟨rfl, fun _ => add_zero _⟩

/-- A session that is given to the pool is queued. -/
theorem adopt_counts (session : Session) : (site.adopt session).Counts site.pool .gift := by
  rw [adopt]
  dsimp only
  split
  · exact ⟨rfl, fun _ => add_zero _⟩
  · split
    · exact ⟨rfl, fun _ => add_zero _⟩
    · refine ⟨rfl, fun _ => ?_⟩
      change Pool.surplus { site.pool with
        idle := site.pool.idle ++ [Connection.ofSession session _] } + 1 = _
      simp only [Pool.surplus, List.length_append, List.length_singleton]
      omega

/-! ### Sweeps -/

/-- Telling others to look again counts nothing. -/
theorem surplus_notifyMany (count : Nat) (pool : Pool) :
    (Pool.notifyMany count pool).surplus = pool.surplus ∧
      (Pool.notifyMany count pool).counters = pool.counters := by
  induction count generalizing pool with
  | zero => exact ⟨rfl, rfl⟩
  | succ count ih => exact ih pool.notifyOne

theorem afterSweep_counts {before : Pool} {report : Report}
    (activity : site.pool.counters.activity = (before.counters.swept report).activity)
    (surplus : site.pool.surplus = before.surplus) :
    (site.afterSweep agent report).Counts before .other := by
  cases agent with
  | caller number => exact ⟨activity, fun _ => (add_zero _).trans surplus⟩
  | checker =>
      change Turn.Counts (if site.pool.stopRequested then site.answer (.ok (.swept report))
        else site.rest.answer (.ok (.swept report))) before .other
      split
      · exact ⟨activity, fun _ => (add_zero _).trans surplus⟩
      · exact ⟨activity, fun _ => (add_zero _).trans surplus⟩

/-- What a sweep has taken it keeps in the pool or disposes of. -/
theorem commit_counts {sweep : Sweep} (tallies : sweep.Tallies 0)
    (taken : sweep.checked ≤ site.pool.validating) :
    (site.commit agent sweep).Counts site.pool .other := by
  have sizes := tallies.checked_eq
  rw [commit]
  dsimp only
  split
  · apply afterSweep_counts
    · change Pool.Counters.activity (Pool.Counters.swept _ _) = _
      apply Pool.Counters.activity_ended _ .other (some (.ok (.swept sweep.report)))
      rw [activity_disposeAll, activity_disposeAll]
    · change Pool.surplus (Site.disposeAll _ sweep.evicted).pool = _
      rw [surplus_disposeAll, surplus_disposeAll]
      simp only [Pool.surplus]
      omega
  · have told := surplus_notifyMany sweep.checked { site.pool with
      validating := site.pool.validating - sweep.checked
      total := site.pool.total - sweep.evicted.length
      idle := sweep.kept ++ site.pool.idle }
    apply afterSweep_counts
    · change Pool.Counters.activity (Pool.Counters.swept _ _) = _
      apply Pool.Counters.activity_ended _ .other (some (.ok (.swept sweep.report)))
      rw [activity_disposeAll, told.2]
    · change Pool.surplus (Site.disposeAll _ sweep.evicted).pool = _
      rw [surplus_disposeAll, told.1]
      simp only [Pool.surplus, List.length_append]
      omega

theorem examine_counts {sweep : Sweep} {pending : List Connection}
    (tallies : sweep.Tallies pending.length) (taken : sweep.checked ≤ site.pool.validating) :
    (site.examine agent sweep pending).Counts site.pool .other := by
  induction pending generalizing sweep with
  | nil => exact commit_counts tallies taken
  | cons connection pending ih =>
      rw [examine]
      split
      · exact ih (tallies.evictIdle connection) taken
      · exact probe_counts _ _

theorem sweep_counts (idle : site.pool.idle.length ≤ site.pool.total) :
    (site.sweep agent).Counts site.pool .other := by
  rw [sweep]
  dsimp only
  split
  · exact afterSweep_counts rfl rfl
  · refine Turn.Counts.after (examine_counts (Sweep.tallies_start idle) ?_) rfl ?_
    · exact Nat.le_add_left _ _
    · simp only [Pool.surplus, List.length_nil]
      omega

theorem sweepProbed_counts {sweep : Sweep} {connection : Connection} {pending : List Connection}
    (tallies : sweep.Tallies (pending.length + 1)) (taken : sweep.checked ≤ site.pool.validating) :
    (site.sweepProbed agent sweep connection pending).Counts site.pool .other := by
  rw [sweepProbed]
  split
  · exact examine_counts (tallies.keep connection) taken
  · exact examine_counts (tallies.evictDead connection) taken

theorem wake_counts (idle : site.pool.idle.length ≤ site.pool.total) :
    site.wake.Counts site.pool .other := by
  rw [wake]
  split
  · exact none_counts
  · exact sweep_counts idle

/-! ### Opening and closing -/

theorem prewarm_counts (made : Nat) : (site.prewarm agent made).Counts site.pool .other := by
  rw [prewarm]
  split
  · exact connect_counts _
  · exact ⟨rfl, fun _ => add_zero _⟩

theorem prewarmConnected_counts (made : Nat) (metadata : Metadata) (attempt : Attempt) :
    (site.prewarmConnected agent made metadata attempt).Counts site.pool .other := by
  rw [prewarmConnected, connected]
  rcases site.server.finishConnect attempt with ⟨server, error | session⟩
  · exact ⟨rfl, fun _ => add_zero _⟩
  · refine Turn.Counts.after (prewarm_counts _) rfl ?_
    simp only [Pool.surplus, Pool.count, Pool.Counters.created, List.length_append,
      List.length_singleton]
    omega

/-- What is idle is disposed of. -/
theorem drain_counts (thenDrop : Bool) : (site.drain thenDrop).Counts site.pool .other where
  activity := activity_disposeAll _ site.pool.idle
  surplus _ := by
    change (Site.disposeAll _ site.pool.idle).pool.surplus + 0 = _
    rw [surplus_disposeAll]
    simp only [withPool, Pool.surplus, List.length_nil]
    omega

theorem shutdown_counts (thenDrop : Bool) :
    (site.shutdown agent thenDrop).Counts site.pool .other := by
  rw [shutdown]
  split
  · exact ⟨rfl, fun _ => add_zero _⟩
  · dsimp only
    split
    · exact Turn.Counts.after (wait_counts _ _) rfl rfl
    · exact Turn.Counts.after (drain_counts thenDrop) rfl rfl

/-! ### Calls, and going on -/

/-- A call counts what it does. -/
theorem work_counts (backed : site.pool.Backed) (caller : Nat) (job : Job) :
    (job.work caller site).Counts site.pool (Job.kind (some job)) := by
  have lent := backed.lent
  cases job with
  | acquire timeout => exact checkout_counts caller _
  | get => exact checkout_counts caller _
  | tryGet => exact checkout_counts caller _
  | adopt session => exact adopt_counts session
  | sweep => exact sweep_counts backed.idle_le
  | shutdown thenDrop => exact shutdown_counts thenDrop
  | release ticket => exact release_counts lent ticket
  | invalidate ticket => exact invalidate_counts lent ticket
  | discard ticket => exact discard_counts lent ticket
  | detach ticket => exact detach_counts lent ticket
  | execute ticket statement =>
      change (site.execute ticket statement).Counts site.pool .other
      rw [execute]
      apply throughLease_counts
      · exact fun _ _ => rfl
      · exact fun _ => rfl
  | query ticket statement =>
      change (site.query ticket statement).Counts site.pool .other
      rw [query]
      apply throughLease_counts
      · exact fun _ _ => rfl
      · exact fun _ => rfl

/-- So does everybody who goes on. -/
theorem proceed_counts (backed : site.pool.Backed) {task : Task} (own : task.Backed site.pool)
    {probes : Pool.Probes} (tallies : task.Probes probes) {job? : Option Job}
    (serves : task.Serves job?) :
    (site.proceed task.agent task.phase).Counts site.pool (Job.kind job?) := by
  obtain ⟨agent, phase, due⟩ := task
  have checksOut {checkout : Checkout}
      (inside : (Task.mk agent phase due).checkout? = some checkout) :
      Job.kind job? = .checkout :=
    Pool.Job.kind_of_checksOut ((Task.serves_checkout inside).mp serves).1
  cases phase with
  | prewarming made metadata attempt =>
      obtain rfl : job? = none := serves
      exact prewarmConnected_counts made metadata attempt
  | connecting checkout metadata attempt =>
      rw [checksOut rfl]
      exact checkoutConnected_counts checkout metadata attempt
  | borrowProbe checkout connection =>
      rw [checksOut rfl]
      exact borrowProbed_counts checkout own.2
  | waiting checkout notified =>
      rw [checksOut rfl]
      exact seek_counts checkout
  | returnProbe connection =>
      obtain ⟨job, ticket, rfl, returns⟩ := serves
      rw [Pool.Job.kind_of_returns returns]
      exact returnProbed_counts own
  | sweeping sweep current pending =>
      obtain rfl : job? = some .sweep := serves
      exact sweepProbed_counts tallies.1 own
  | resting =>
      obtain rfl : job? = some .sweep := serves
      exact wake_counts backed.idle_le
  | joining thenDrop =>
      obtain rfl : job? = some (.shutdown thenDrop) := serves
      exact drain_counts thenDrop

end Site

end SessionPool

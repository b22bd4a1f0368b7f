import SessionPool.Proofs.Duty.Run
import SessionPool.Proofs.Order.Joinings

/-!
# What is in stock

A pool has in stock what is idle and what sweeps have taken out of the queue to put it back if it is
alive. A turn adds at most one connection to that: one that is given to the pool or comes back at
once has been stamped in the same turn, and one that the server was asked about before has been
stamped when the agent began to wait. Nothing else touches a stamp while a connection is in stock.
-/

namespace SessionPool

namespace Pool

/-- The connections that a sweep has taken out of the queue and may put back. -/
def Task.swept (task : Task) : List Connection :=
  match task.phase with
  | .sweeping sweep current pending => sweep.kept ++ current :: pending
  | _ => []

/-- When the record was stamped of the connection that an agent may put into the queue. -/
def Task.stamp? (task : Task) : Option Nat :=
  match task.phase with
  | .prewarming _ metadata _ => some metadata.lastUsed
  | .returnProbe connection => some connection.metadata.lastUsed
  | _ => none

/-- What is idle, together with what sweeps have taken out of the queue. -/
def stock (pool : Pool) : List Connection := pool.idle ++ pool.tasks.flatMap Task.swept

@[simp]
theorem Task.swept_notify (task : Task) : task.notify.swept = task.swept := by
  obtain ⟨agent, phase, due⟩ := task
  cases phase <;> rfl

@[simp]
theorem Task.stamp?_notify (task : Task) : task.notify.stamp? = task.stamp? := by
  obtain ⟨agent, phase, due⟩ := task
  cases phase <;> rfl

theorem swept_notifyFirst (tasks : List Task) :
    (notifyFirst tasks).flatMap Task.swept = tasks.flatMap Task.swept := by
  induction tasks with
  | nil => rfl
  | cons task rest ih =>
      rw [notifyFirst]
      split
      · rw [List.flatMap_cons, List.flatMap_cons, Task.swept_notify]
      · rw [List.flatMap_cons, List.flatMap_cons, ih]

section Stock

variable {pool : Pool} {connection : Connection}

theorem mem_stock_of_idle (idle : connection ∈ pool.idle) : connection ∈ pool.stock :=
  List.mem_append_left _ idle

theorem mem_stock_of_swept {task : Task} (present : task ∈ pool.tasks)
    (member : connection ∈ task.swept) : connection ∈ pool.stock :=
  List.mem_append_right _ (List.mem_flatMap.mpr ⟨task, present, member⟩)

variable (pool)

@[simp]
theorem stock_notifyOne : pool.notifyOne.stock = pool.stock :=
  congrArg (pool.idle ++ ·) (swept_notifyFirst pool.tasks)

/-- Whoever waits without a sweep has nothing of the stock. -/
theorem stock_park {task : Task} (none : task.swept = []) :
    (pool.park task).stock = pool.stock := by
  change pool.idle ++ (pool.tasks ++ [task]).flatMap Task.swept = _
  rw [List.flatMap_append, List.flatMap_singleton, none, List.append_nil]
  rfl

/-- An agent that goes on without a sweep leaves the stock as it is. -/
theorem stock_unpark {agent : Agent} {task : Task} (found : pool.task? agent = some task)
    (none : task.swept = []) : (pool.unpark agent).stock.Perm pool.stock := by
  have perm := (perm_cons_eraseP found).flatMap_right Task.swept
  rw [List.flatMap_cons, none, List.nil_append] at perm
  exact (perm.append_left pool.idle).symm

theorem stock_unpark_subset (agent : Agent) : (pool.unpark agent).stock ⊆ pool.stock := by
  intro connection member
  rcases List.mem_append.mp member with idle | out
  · exact mem_stock_of_idle idle
  · obtain ⟨task, present, out⟩ := List.mem_flatMap.mp out
    exact mem_stock_of_swept (List.mem_of_mem_eraseP present) out

/-- A connection that comes to the back of the queue is the only one that is new. -/
theorem stock_queue (connection : Connection) :
    ({ pool with idle := pool.idle ++ [connection] } : Pool).stock.Perm
      (connection :: pool.stock) := by
  rw [stock, stock, List.append_assoc]
  exact List.perm_middle

end Stock

/-- What a turn adds to the stock: nothing, or one connection, which has been stamped at `stamp`. -/
inductive Gains (stock : List Connection) (after : Pool) (stamp : Nat) : Prop where
  | nothing (queued : ∀ connection ∈ after.idle, connection ∈ stock)
  | one (connection : Connection) (stamped : connection.metadata.lastUsed = stamp)
      (new : after.stock.Perm (connection :: stock))

/-- Whoever waits without a sweep neither adds to the stock nor takes from it. -/
theorem Gains.park {stock : List Connection} {pool : Pool} {stamp : Nat}
    (gains : Gains stock pool stamp) {task : Task} (none : task.swept = []) :
    Gains stock (pool.park task) stamp := by
  cases gains with
  | nothing queued => exact .nothing queued
  | one connection stamped new =>
      refine .one connection stamped ?_
      rw [stock_park _ none]
      exact new

end Pool

/-- A turn that adds at most one connection to the stock. Whoever begins to wait with a connection
for the queue has stamped it in this turn, and whoever sweeps has what was in stock before. -/
structure Turn.Stocks (turn : Turn) (before : Pool) (stock : List Connection)
    (agent : Pool.Agent) (now stamp : Nat) : Prop where
  tasks (task : Pool.Task) (present : task ∈ turn.1.pool.tasks) :
    ((∀ time, task.stamp? = some time → task.agent = agent ∧ time = now) ∧
        ∀ connection ∈ task.swept, connection ∈ stock) ∨
      ∃ earlier ∈ before.tasks, task = earlier ∨ task = earlier.notify
  gains : Pool.Gains stock turn.1.pool stamp

/-- What is in stock after a turn was so before, or is new. -/
theorem Turn.Stocks.stock {turn : Turn} {before : Pool} {stock : List Connection}
    {agent : Pool.Agent} {now stamp : Nat} (stocks : turn.Stocks before stock agent now stamp)
    (known : ∀ connection ∈ before.stock, connection ∈ stock) :
    (∀ connection ∈ turn.1.pool.stock, connection ∈ stock) ∨
      ∃ connection : Connection, connection.metadata.lastUsed = stamp ∧
        turn.1.pool.stock.Perm (connection :: stock) := by
  cases stocks.gains with
  | nothing queued =>
      left
      intro connection member
      rcases List.mem_append.mp member with idle | out
      · exact queued connection idle
      · obtain ⟨task, present, out⟩ := List.mem_flatMap.mp out
        rcases stocks.tasks task present with ⟨-, swept⟩ | ⟨earlier, first, rfl | rfl⟩
        · exact swept connection out
        · exact known connection (Pool.mem_stock_of_swept first out)
        · rw [Pool.Task.swept_notify] at out
          exact known connection (Pool.mem_stock_of_swept first out)
  | one connection stamped new => exact .inr ⟨connection, stamped, new⟩

namespace Site

open Pool (Agent Phase Task Checkout Patience Sweep Report Job)

variable {site : Site} {before : Pool} {stock : List Connection} {agent : Agent} {now stamp : Nat}

section Gains

variable (precedes : before.Precedes site.pool) (gains : Pool.Gains stock site.pool stamp)

include precedes gains

theorem answer_stocks {answer : Pool.Answer} :
    (site.answer answer).Stocks before stock agent now stamp where
  tasks task present := .inr (precedes.old task present)
  gains := gains

theorem none_stocks : Turn.Stocks (site, none) before stock agent now stamp where
  tasks task present := .inr (precedes.old task present)
  gains := gains

theorem wait_stocks {waiter : Agent} {phase : Phase} {due : Option Nat}
    (none : (Task.mk waiter phase due).swept = [])
    (stamped : ∀ time, (Task.mk waiter phase due).stamp? = some time →
      waiter = agent ∧ time = site.now) :
    (site.wait waiter phase due).Stocks before stock agent site.now stamp where
  tasks task present := by
    rcases List.mem_append.mp present with old | last
    · exact .inr (precedes.old task old)
    · rw [List.mem_singleton.mp last, none]
      exact .inl ⟨stamped, List.forall_mem_nil _⟩
  gains := gains.park none

/-- Whoever waits with neither a swept connection nor a stamp leaves the stock as it is. -/
theorem linger_stocks {waiter : Agent} {phase : Phase} {due : Option Nat}
    (none : (Task.mk waiter phase due).swept = [])
    (unstamped : (Task.mk waiter phase due).stamp? = .none) :
    (site.wait waiter phase due).Stocks before stock agent site.now stamp := by
  apply wait_stocks precedes gains none
  intro time stamped
  rw [unstamped] at stamped
  contradiction

/-- The record of a connection is stamped when the connect begins. -/
theorem connect_stocks {phase : Metadata → Attempt → Phase}
    (none : ∀ metadata attempt due, (Task.mk agent (phase metadata attempt) due).swept = [])
    (stamped : ∀ metadata attempt due time,
      (Task.mk agent (phase metadata attempt) due).stamp? = some time →
        time = metadata.lastUsed) :
    (site.connect agent phase).Stocks before stock agent site.now stamp := by
  rw [connect]
  apply wait_stocks
  · exact ⟨precedes.old, precedes.stopped, precedes.gone⟩
  · cases gains with
    | nothing queued => exact .nothing queued
    | one connection given new => exact .one connection given new
  · exact none _ _ _
  · exact fun time same => ⟨rfl, stamped _ _ _ time same⟩

theorem rest_stocks {answer : Pool.Answer} :
    (site.rest.answer answer).Stocks before stock agent now stamp where
  tasks task present := by
    rcases List.mem_append.mp present with old | last
    · exact .inr (precedes.old task old)
    · rw [List.mem_singleton.mp last]
      exact .inl ⟨nofun, List.forall_mem_nil _⟩
  gains := gains.park rfl

/-- Whoever fills a pool has stamped the record of the connection that it waits for. -/
theorem prewarm_stocks (made : Nat) :
    (site.prewarm agent made).Stocks before stock agent site.now stamp := by
  rw [prewarm]
  split
  · apply connect_stocks precedes gains
    · exact fun _ _ _ => rfl
    · exact fun _ _ _ _ same => (Option.some.inj same).symm
  · exact rest_stocks precedes gains

omit precedes gains in
/-- Whoever fills a pool adds nothing before the answer to a connect has come. -/
theorem stock_prewarm (site : Site) (agent : Agent) (made : Nat) :
    (site.prewarm agent made).1.pool.stock = site.pool.stock := by
  rw [prewarm]
  split
  · exact Pool.stock_park _ rfl
  · exact Pool.stock_park _ rfl

end Gains

section Queued

variable (precedes : before.Precedes site.pool)
  (queued : ∀ connection ∈ site.pool.idle, connection ∈ stock)

include precedes queued

/-! ### Checkouts -/

theorem refuse_stocks (error : PoolError) :
    (site.refuse error).Stocks before stock agent site.now stamp := by
  rw [refuse]
  apply answer_stocks
  · exact ⟨precedes.old, precedes.stopped, precedes.gone⟩
  · exact .nothing queued

theorem lend_stocks (checkout : Checkout) (connection : Connection) :
    (site.lend checkout connection).Stocks before stock agent site.now stamp := by
  rw [lend]
  apply answer_stocks
  · exact ⟨precedes.old, precedes.stopped, precedes.gone⟩
  · exact .nothing queued

/-- A checkout only takes from the stock. -/
theorem seek_stocks (checkout : Checkout) :
    (site.seek checkout).Stocks before stock agent site.now stamp := by
  rw [seek]
  dsimp only
  split
  case isTrue => exact refuse_stocks precedes queued _
  case isFalse =>
    split
    case h_1 connection rest queue =>
      have fewer (other : Connection) (member : other ∈ rest) : other ∈ stock :=
        queued other (queue ▸ List.mem_cons_of_mem _ member)
      split
      · rw [probe]
        apply linger_stocks
        · exact ⟨precedes.old, precedes.stopped, precedes.gone⟩
        · exact .nothing fewer
        · rfl
        · rfl
      · apply lend_stocks
        · exact ⟨precedes.old, precedes.stopped, precedes.gone⟩
        · exact fewer
    case h_2 =>
      split
      · rw [connect]
        apply linger_stocks
        · exact ⟨precedes.old, precedes.stopped, precedes.gone⟩
        · exact .nothing queued
        · rfl
        · rfl
      · split
        · rw [decline]
          apply answer_stocks
          · exact ⟨precedes.old, precedes.stopped, precedes.gone⟩
          · exact .nothing queued
        · split
          · exact refuse_stocks precedes queued _
          · exact linger_stocks precedes (.nothing queued) rfl rfl
        · exact linger_stocks precedes (.nothing queued) rfl rfl

theorem checkout_stocks (caller : Nat) (patience : Patience) :
    (site.checkout caller patience).Stocks before stock agent site.now stamp := by
  rw [checkout]
  split
  · apply answer_stocks
    · exact ⟨precedes.old, precedes.stopped, precedes.gone⟩
    · exact .nothing queued
  · apply seek_stocks
    · exact ⟨precedes.old, precedes.stopped, precedes.gone⟩
    · exact queued

theorem borrowProbed_stocks (checkout : Checkout) (connection : Connection) :
    (site.borrowProbed checkout connection).Stocks before stock agent site.now stamp := by
  rw [borrowProbed]
  dsimp only
  split
  · exact lend_stocks precedes queued _ _
  · split
    · apply refuse_stocks
      · exact ⟨precedes.old, precedes.stopped, precedes.gone⟩
      · exact queued
    · apply seek_stocks
      · exact ⟨precedes.old, precedes.stopped, precedes.gone⟩
      · exact queued

theorem checkoutConnected_stocks (checkout : Checkout) (metadata : Metadata) (attempt : Attempt) :
    (site.checkoutConnected checkout metadata attempt).Stocks before stock agent site.now
      stamp := by
  rw [checkoutConnected, connected]
  rcases site.server.finishConnect attempt with ⟨server, error | session⟩
  · have released : before.Precedes { site.pool with total := site.pool.total - 1 } :=
      ⟨precedes.old, precedes.stopped, precedes.gone⟩
    apply refuse_stocks
    · exact released.notifyOne
    · exact queued
  · dsimp only
    split
    · apply refuse_stocks
      · exact ⟨precedes.old, precedes.stopped, precedes.gone⟩
      · exact queued
    · apply lend_stocks
      · exact ⟨precedes.old, precedes.stopped, precedes.gone⟩
      · exact queued

/-! ### Statements, detached sessions, sessions from elsewhere -/

theorem turnAway_stocks (session : Session) (error : PoolError) :
    (site.turnAway session error).Stocks before stock agent now stamp := by
  rw [turnAway]
  apply answer_stocks
  · exact ⟨precedes.old, precedes.stopped, precedes.gone⟩
  · exact .nothing queued

theorem throughLease_stocks {α : Type} (ticket : Nat)
    (send : Server → Session → Server × Except SessionError α) (reply : α → Pool.Reply) :
    (site.throughLease ticket send reply).Stocks before stock agent site.now stamp := by
  rw [throughLease]
  split
  · exact answer_stocks precedes (.nothing queued)
  · dsimp only
    apply answer_stocks
    · exact ⟨precedes.old, precedes.stopped, precedes.gone⟩
    · exact .nothing queued

theorem detach_stocks (ticket : Nat) :
    (site.detach ticket).Stocks before stock agent site.now stamp := by
  rw [detach]
  split
  · exact answer_stocks precedes (.nothing queued)
  case h_2 lease _ =>
    dsimp only
    split
    · have released : before.Precedes { site.pool.endLease ticket with
          active := site.pool.active.erase lease.connection.id
          total := site.pool.total - 1 } :=
        ⟨precedes.old, precedes.stopped, precedes.gone⟩
      apply answer_stocks
      · exact released.notifyOne
      · exact .nothing queued
    · apply answer_stocks
      · exact ⟨precedes.old, precedes.stopped, precedes.gone⟩
      · exact .nothing queued

/-! ### Sweeps -/

theorem afterSweep_stocks (sweeper : Agent) (report : Report) :
    (site.afterSweep sweeper report).Stocks before stock agent now stamp := by
  unfold afterSweep
  split
  · exact answer_stocks precedes (.nothing queued)
  · split
    · exact answer_stocks precedes (.nothing queued)
    · exact rest_stocks precedes (.nothing queued)

/-- A sweep that ends puts back only what was in stock. -/
theorem commit_stocks {sweeper : Agent} {sweep : Sweep}
    (kept : ∀ connection ∈ sweep.kept, connection ∈ stock) :
    (site.commit sweeper sweep).Stocks before stock agent now stamp := by
  rw [commit]
  dsimp only
  split
  · have given : before.Precedes { site.pool with
        validating := site.pool.validating - sweep.checked
        total := site.pool.total - sweep.checked } :=
      ⟨precedes.old, precedes.stopped, precedes.gone⟩
    have emptied := precedes_disposeAll { site with pool := _ } given sweep.kept
    have gone := precedes_disposeAll _ emptied sweep.evicted
    apply afterSweep_stocks
    · exact ⟨gone.old, gone.stopped, gone.gone⟩
    · change ∀ connection ∈ Pool.idle (Site.pool (disposeAll _ sweep.evicted)), _
      rw [idle_disposeAll, idle_disposeAll]
      exact queued
  · have put : before.Precedes { site.pool with
        validating := site.pool.validating - sweep.checked
        total := site.pool.total - sweep.evicted.length
        idle := sweep.kept ++ site.pool.idle } :=
      ⟨precedes.old, precedes.stopped, precedes.gone⟩
    have gone := precedes_disposeAll { site with pool := _ }
      (put.notifyMany sweep.checked) sweep.evicted
    apply afterSweep_stocks
    · exact ⟨gone.old, gone.stopped, gone.gone⟩
    · change ∀ connection ∈ Pool.idle (Site.pool (disposeAll _ sweep.evicted)), _
      rw [idle_disposeAll, idle_notifyMany]
      exact List.forall_mem_append.mpr ⟨kept, queued⟩

/-- A sweep that goes on holds only what was in stock. -/
theorem examine_stocks {sweep : Sweep} {pending : List Connection}
    (swept : ∀ connection ∈ sweep.kept ++ pending, connection ∈ stock) :
    (site.examine agent sweep pending).Stocks before stock agent site.now stamp := by
  induction pending generalizing sweep with
  | nil =>
      rw [List.append_nil] at swept
      exact commit_stocks precedes queued swept
  | cons connection pending ih =>
      rw [examine]
      split
      · apply ih
        intro other member
        apply swept
        exact (List.Sublist.append_left (List.sublist_cons_self _ _) _).subset member
      · refine ⟨fun task present => ?_, .nothing queued⟩
        rcases List.mem_append.mp present with old | last
        · exact .inr (precedes.old task old)
        · rw [List.mem_singleton.mp last]
          refine .inl ⟨?_, swept⟩
          intro time stamped
          cases stamped

theorem sweep_stocks : (site.sweep agent).Stocks before stock agent site.now stamp := by
  rw [sweep]
  dsimp only
  split
  · exact afterSweep_stocks precedes queued _ _
  · apply examine_stocks
    · exact ⟨precedes.old, precedes.stopped, precedes.gone⟩
    · exact List.forall_mem_nil _
    · exact queued

theorem wake_stocks (own : agent = .checker) :
    site.wake.Stocks before stock agent site.now stamp := by
  rw [wake]
  split
  · exact none_stocks precedes (.nothing queued)
  · rw [← own]
    exact sweep_stocks precedes queued

theorem sweepProbed_stocks {sweep : Sweep} {connection : Connection} {pending : List Connection}
    (swept : ∀ other ∈ sweep.kept ++ connection :: pending, other ∈ stock) :
    (site.sweepProbed agent sweep connection pending).Stocks before stock agent site.now stamp := by
  rw [sweepProbed]
  split
  · apply examine_stocks precedes queued
    rw [Sweep.keep, List.append_assoc]
    exact swept
  · apply examine_stocks precedes queued
    intro other member
    apply swept
    exact (List.Sublist.append_left (List.sublist_cons_self _ _) _).subset member

/-! ### Opening and closing -/

theorem closed_stocks (thenDrop : Bool) :
    (site.closed thenDrop).Stocks before stock agent now stamp := by
  refine ⟨fun task present => .inr (precedes.old task present), .nothing queued⟩

omit queued in
/-- Nothing is idle in a pool that has been drained. -/
theorem drain_stocks (thenDrop : Bool) :
    (site.drain thenDrop).Stocks before stock agent now stamp := by
  have emptied : before.Precedes { site.pool with
      idle := [], total := site.pool.total - site.pool.idle.length } :=
    ⟨precedes.old, precedes.stopped, precedes.gone⟩
  have gone := precedes_disposeAll { site with pool := _ } emptied site.pool.idle
  refine ⟨fun task present => .inr (gone.old task present), .nothing ?_⟩
  change ∀ connection ∈ Pool.idle (Site.pool (disposeAll _ site.pool.idle)), _
  rw [idle_disposeAll]
  exact List.forall_mem_nil _

theorem shutdown_stocks (thenDrop : Bool) :
    (site.shutdown agent thenDrop).Stocks before stock agent site.now stamp := by
  have told : before.Precedes
      { site.pool.notifyAll with isShutdown := true, stopRequested := true } := by
    have notified : before.Precedes site.pool.notifyAll := by
      refine precedes.of_told ?_ rfl rfl
      intro task present
      obtain ⟨old, known, rfl⟩ := List.mem_map.mp present
      exact ⟨old, known, .inr rfl⟩
    exact ⟨notified.old, fun _ => rfl, notified.gone⟩
  rw [shutdown]
  split
  · exact closed_stocks precedes queued thenDrop
  · dsimp only
    split
    · apply linger_stocks
      · exact told
      · exact .nothing queued
      · rfl
      · rfl
    · exact drain_stocks told thenDrop

end Queued

section Joins

variable (precedes : before.Precedes site.pool) (same : site.pool.stock.Perm stock)

include precedes same

omit precedes in
/-- What a pool has in stock, it had before. -/
theorem queued_of_perm : ∀ connection ∈ site.pool.idle, connection ∈ stock :=
  fun _ idle => same.subset (Pool.mem_stock_of_idle idle)

/-- One connection joins the queue, and somebody is told. -/
theorem join_stocks {pool : Pool} (tasks : pool.tasks = site.pool.tasks)
    (stop : pool.stopRequested = site.pool.stopRequested)
    (dropped : pool.dropped = site.pool.dropped) {connection : Connection}
    (idle : pool.idle = site.pool.idle ++ [connection])
    (stamped : connection.metadata.lastUsed = stamp) {answer : Pool.Answer} :
    ({ site with pool := pool.notifyOne }.answer answer).Stocks before stock agent site.now
      stamp := by
  have joined : before.Precedes pool :=
    ⟨tasks ▸ precedes.old, stop ▸ precedes.stopped, dropped ▸ precedes.gone⟩
  apply answer_stocks joined.notifyOne
  refine .one connection stamped ?_
  rw [Pool.stock_notifyOne]
  have whole : pool.stock =
      ({ site.pool with idle := site.pool.idle ++ [connection] } : Pool).stock := by
    rw [Pool.stock, idle, tasks]
    rfl
  rw [whole]
  exact (site.pool.stock_queue connection).trans (same.cons connection)

/-- A connection that comes back joins the stock only if it is healthy. -/
theorem requeue_stocks (connection : Connection) (healthy : Bool)
    (stamped : healthy = true → connection.metadata.lastUsed = stamp) :
    (site.requeue connection healthy).Stocks before stock agent site.now stamp := by
  have queued := queued_of_perm same
  rw [requeue]
  dsimp only
  split
  · apply answer_stocks
    · exact ⟨precedes.old, precedes.stopped, precedes.gone⟩
    · exact .nothing queued
  · split
    · apply answer_stocks
      · exact ⟨precedes.old, precedes.stopped, precedes.gone⟩
      · exact .nothing queued
    · split
      case isTrue =>
        have released : before.Precedes { site.pool with
            active := site.pool.active.erase connection.id, total := site.pool.total - 1 } :=
          ⟨precedes.old, precedes.stopped, precedes.gone⟩
        apply answer_stocks
        · exact ⟨released.notifyOne.old, released.notifyOne.stopped, released.notifyOne.gone⟩
        · exact .nothing queued
      case isFalse sound =>
        have healthy : healthy = true := by simpa using sound
        apply join_stocks precedes same
        · rfl
        · rfl
        · rfl
        · rfl
        · exact stamped healthy

/-- A connection is stamped when it comes back, and queued at once or after a probe. -/
theorem takeBack_stocks (connection : Connection) :
    (site.takeBack agent connection).Stocks before stock agent site.now site.now := by
  have queued := queued_of_perm same
  rw [takeBack]
  dsimp only
  split
  · apply answer_stocks
    · exact ⟨precedes.old, precedes.stopped, precedes.gone⟩
    · exact .nothing queued
  · split
    · split
      · rw [probe]
        apply wait_stocks
        · exact ⟨precedes.old, precedes.stopped, precedes.gone⟩
        · exact .nothing queued
        · rfl
        · exact fun time stamped => ⟨rfl, (Option.some.inj stamped).symm⟩
      · exact requeue_stocks precedes same _ true fun _ => rfl
    · exact requeue_stocks precedes same _ false (absurd · Bool.false_ne_true)

theorem takeBack_endLease_stocks (ticket : Nat) (connection : Connection) :
    ((site.withPool (·.endLease ticket)).takeBack agent connection).Stocks before stock agent
      site.now site.now := by
  apply takeBack_stocks
  · exact ⟨precedes.old, precedes.stopped, precedes.gone⟩
  · exact same

theorem returnProbed_stocks (connection : Connection) :
    (site.returnProbed connection).Stocks before stock agent site.now
      connection.metadata.lastUsed := by
  rw [returnProbed]
  split
  · exact requeue_stocks precedes same _ true fun _ => rfl
  · exact requeue_stocks precedes same _ false (absurd · Bool.false_ne_true)

theorem adopt_stocks (session : Session) :
    (site.adopt session).Stocks before stock agent site.now site.now := by
  have queued := queued_of_perm same
  rw [adopt]
  dsimp only
  split
  · exact turnAway_stocks precedes queued session _
  · split
    · exact turnAway_stocks precedes queued session _
    · apply join_stocks precedes same <;> rfl

theorem prewarmConnected_stocks (made : Nat) (metadata : Metadata) (attempt : Attempt) :
    (site.prewarmConnected agent made metadata attempt).Stocks before stock agent site.now
      metadata.lastUsed := by
  rw [prewarmConnected, connected]
  rcases site.server.finishConnect attempt with ⟨server, error | session⟩
  · apply rest_stocks
    · exact ⟨precedes.old, precedes.stopped, precedes.gone⟩
    · exact .nothing (queued_of_perm same)
  · apply prewarm_stocks
    · exact ⟨precedes.old, precedes.stopped, precedes.gone⟩
    · refine .one (.ofSession session metadata) rfl ?_
      exact (site.pool.stock_queue _).trans (same.cons _)

/-! ### Turns -/

/-- What a call puts into the queue has been stamped in the same turn. -/
theorem work_stocks (caller : Nat) (job : Job) :
    (job.work caller site).Stocks before stock (.caller caller) site.now site.now := by
  have queued := queued_of_perm same
  cases job with
  | acquire timeout => exact checkout_stocks precedes queued caller _
  | get => exact checkout_stocks precedes queued caller _
  | tryGet => exact checkout_stocks precedes queued caller _
  | adopt session => exact adopt_stocks precedes same session
  | sweep => exact sweep_stocks precedes queued
  | shutdown thenDrop => exact shutdown_stocks precedes queued thenDrop
  | release ticket | invalidate ticket | discard ticket =>
      simp only [Job.work, release, invalidate, discard]
      split
      · exact answer_stocks precedes (.nothing queued)
      · exact takeBack_endLease_stocks precedes same ticket _
  | detach ticket => exact detach_stocks precedes queued ticket
  | execute ticket statement =>
      exact throughLease_stocks precedes queued ticket (·.execute · statement) .rows
  | query ticket statement =>
      exact throughLease_stocks precedes queued ticket (·.query · statement) .texts

end Joins

/-- What an agent that goes on puts into the queue has been stamped when it began to wait. -/
theorem proceed_stocks (precedes : before.Precedes site.pool)
    (queued : ∀ connection ∈ site.pool.idle, connection ∈ stock) {task : Task}
    (swept : ∀ connection ∈ task.swept, connection ∈ stock)
    (same : task.swept = [] → site.pool.stock.Perm stock)
    (stamped : ∀ time, task.stamp? = some time → time = stamp)
    (rests : task.phase = .resting → agent = .checker) :
    (site.proceed agent task.phase).Stocks before stock agent site.now stamp := by
  obtain ⟨waiter, phase, due⟩ := task
  cases phase with
  | prewarming made metadata attempt =>
      rw [← stamped _ rfl]
      exact prewarmConnected_stocks precedes (same rfl) made metadata attempt
  | connecting checkout metadata attempt =>
      exact checkoutConnected_stocks precedes queued checkout metadata attempt
  | borrowProbe checkout connection => exact borrowProbed_stocks precedes queued checkout connection
  | waiting checkout notified => exact seek_stocks precedes queued checkout
  | returnProbe connection =>
      rw [← stamped _ rfl]
      exact returnProbed_stocks precedes (same rfl) connection
  | sweeping sweep current pending => exact sweepProbed_stocks precedes queued swept
  | resting => exact wake_stocks precedes queued (rests rfl)
  | joining thenDrop => exact drain_stocks precedes thenDrop

/-- An agent that goes on leaves everybody else as before. -/
theorem resume_stocks {task : Task} (found : site.pool.task? agent = some task)
    (ready : site.pool.isReady site.now task = true)
    (stamped : ∀ time, task.stamp? = some time → time = stamp)
    (rests : task.phase = .resting → agent = .checker) :
    (site.resume agent).Stocks (site.pool.unpark agent) site.pool.stock agent site.now stamp := by
  rw [resume_eq_proceed found ready]
  apply proceed_stocks
  · exact .refl _
  · exact fun _ idle => Pool.mem_stock_of_idle idle
  · exact fun connection => Pool.mem_stock_of_swept (List.mem_of_find?_eq_some found)
  · exact site.pool.stock_unpark found
  · exact stamped
  · exact rests

end Site

end SessionPool

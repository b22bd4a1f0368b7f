import SessionPool.Proofs.Waits

/-!
# How checkouts end

A checkout ends with a connection that has just been made, with one whose probe has just been
answered well, or, in a pool that does not test what it lends, with the next one in the queue. It is
turned away for want of a connection only where none is idle and the pool has no room for another.
No other work in a pool ends in one of these ways.
-/

namespace SessionPool

namespace Pool

/-- The pool lends, but it has nothing idle and no room for another connection. -/
structure IsFull (pool : Pool) : Prop where
  running : pool.isShutdown = false
  idle_eq : pool.idle = []
  capacity_le : pool.config.maxConnections ≤ pool.total

/-- Whether a caller is turned away because nothing is free. -/
def Answer.isRefusal : Answer → Bool
  | .ok .noneFree | .error (.timedOut _) => true
  | _ => false

end Pool

/-- If a turn ends a checkout, it lends only what `lends` allows, and turns nobody away for want of
a connection unless the pool is full. -/
def Turn.Ends (turn : Turn) (lends : Lease → Prop) : Prop :=
  match turn.2 with
  | some (.ok (.lent lease)) => lends lease
  | some (.ok .noneFree) | some (.error (.timedOut _)) => turn.1.pool.IsFull
  | _ => True

theorem Turn.Ends.lends {turn : Turn} {lends : Lease → Prop} (ends : turn.Ends lends)
    {lease : Lease} (answer : turn.2 = some (.ok (.lent lease))) : lends lease := by
  rwa [Turn.Ends, answer] at ends

theorem Turn.Ends.isFull {turn : Turn} {lends : Lease → Prop} (ends : turn.Ends lends)
    {answer : Pool.Answer} (answers : turn.2 = some answer)
    (refusal : answer.isRefusal = true) : turn.1.pool.IsFull := by
  rw [Turn.Ends, answers] at ends
  rcases answer with error | reply
  · cases error with
    | timedOut waited => exact ends
    | _ => cases refusal
  · cases reply with
    | noneFree => exact ends
    | _ => cases refusal

namespace Site

open Pool (Agent Phase Task Checkout Patience Report Sweep Job)

variable {site : Site} {lends : Lease → Prop}

/-! ### Checkouts -/

theorem lend_ends {checkout : Checkout} {connection : Connection}
    (lent : lends ⟨checkout.caller, connection.checkOut site.now⟩) :
    (site.lend checkout connection).Ends lends :=
  lent

theorem seek_ends {checkout : Checkout}
    (direct : ∀ connection ∈ site.pool.idle, site.pool.config.testOnBorrow = false →
      lends ⟨checkout.caller, connection.checkOut site.now⟩) :
    (site.seek checkout).Ends lends := by
  rw [seek]
  dsimp only
  split
  case isTrue => trivial
  case isFalse lending =>
    have running : site.pool.isShutdown = false := by simpa using lending
    split
    case h_1 connection rest queue =>
      split
      case isTrue => trivial
      case isFalse untested =>
        apply lend_ends
        apply direct connection
        · rw [queue]
          exact List.mem_cons_self
        · simpa using untested
    case h_2 queue =>
      split
      case isTrue => trivial
      case isFalse crowded =>
        -- From here on a caller is turned away or waits, and only here.
        have full : site.pool.IsFull := ⟨running, queue, Nat.le_of_not_lt crowded⟩
        split
        case h_1 => exact { full with }
        case h_2 =>
          split
          case isTrue => exact { full with }
          case isFalse => trivial
        case h_3 => trivial

theorem checkout_ends {caller : Nat} (patience : Patience)
    (direct : ∀ connection ∈ site.pool.idle, site.pool.config.testOnBorrow = false →
      lends ⟨caller, connection.checkOut site.now⟩) :
    (site.checkout caller patience).Ends lends := by
  rw [checkout]
  split
  case isTrue => trivial
  case isFalse =>
    apply seek_ends
    exact direct

theorem borrowProbed_ends {checkout : Checkout} {connection : Connection}
    (direct : ∀ connection ∈ site.pool.idle, site.pool.config.testOnBorrow = false →
      lends ⟨checkout.caller, connection.checkOut site.now⟩)
    (probed : site.server.answers connection.session = true →
      lends ⟨checkout.caller, connection.checkOut site.now⟩) :
    (site.borrowProbed checkout connection).Ends lends := by
  rw [borrowProbed]
  dsimp only
  split
  case isTrue lent => exact lend_ends (probed (Bool.and_eq_true_iff.mp lent).1)
  case isFalse =>
    split
    case isTrue => trivial
    case isFalse =>
      apply seek_ends
      exact direct

theorem checkoutConnected_ends {checkout : Checkout} {metadata : Metadata} {attempt : Attempt}
    (opened : ∀ session, (site.server.finishConnect attempt).2 = .ok session →
      lends ⟨checkout.caller, (Connection.ofSession session metadata).checkOut site.now⟩) :
    (site.checkoutConnected checkout metadata attempt).Ends lends := by
  rw [checkoutConnected, connected]
  rcases answer : site.server.finishConnect attempt with ⟨server, error | session⟩
  · trivial
  · dsimp only
    split
    case isTrue => trivial
    case isFalse =>
      apply lend_ends
      exact opened session (congrArg Prod.snd answer)

/-! ### Other work -/

theorem requeue_ends (connection : Connection) (healthy : Bool) :
    (site.requeue connection healthy).Ends lends := by
  rw [requeue]
  dsimp only
  split
  · trivial
  · split
    · trivial
    · split <;> trivial

theorem takeBack_ends (agent : Agent) (connection : Connection) :
    (site.takeBack agent connection).Ends lends := by
  rw [takeBack]
  dsimp only
  split
  · trivial
  · split
    · split
      · trivial
      · exact requeue_ends _ true
    · exact requeue_ends _ false

theorem returnProbed_ends (connection : Connection) :
    (site.returnProbed connection).Ends lends := by
  rw [returnProbed]
  split
  · exact requeue_ends _ true
  · exact requeue_ends _ false

theorem throughLease_ends {α : Type} (ticket : Nat)
    (send : Server → Session → Server × Except SessionError α) {reply : α → Pool.Reply}
    (other : ∀ (after : Site) rows, (after.answer (.ok (reply rows))).Ends lends) :
    (site.throughLease ticket send reply).Ends lends := by
  rw [throughLease]
  split
  case h_1 => trivial
  case h_2 lease good =>
    dsimp only
    split
    case h_1 rows _ => exact other _ rows
    case h_2 => trivial

theorem afterSweep_ends (agent : Agent) (report : Report) :
    (site.afterSweep agent report).Ends lends := by
  unfold afterSweep
  split
  · trivial
  · split <;> trivial

theorem examine_ends (agent : Agent) (sweep : Sweep) (pending : List Connection) :
    (site.examine agent sweep pending).Ends lends := by
  induction pending generalizing sweep with
  | nil => exact afterSweep_ends agent _
  | cons connection pending ih =>
      rw [examine]
      split
      · exact ih _
      · trivial

theorem sweep_ends (agent : Agent) : (site.sweep agent).Ends lends := by
  rw [sweep]
  dsimp only
  split
  · exact afterSweep_ends agent .zero
  · exact examine_ends agent _ _

theorem prewarm_ends (agent : Agent) (made : Nat) : (site.prewarm agent made).Ends lends := by
  rw [prewarm]
  split <;> trivial

/-! ### Calls, and going on -/

theorem work_ends {caller : Nat} (job : Job)
    (direct : ∀ connection ∈ site.pool.idle, site.pool.config.testOnBorrow = false →
      lends ⟨caller, connection.checkOut site.now⟩) :
    (job.work caller site).Ends lends := by
  cases job with
  | acquire timeout => exact checkout_ends _ direct
  | get => exact checkout_ends _ direct
  | tryGet => exact checkout_ends _ direct
  | adopt session =>
      change (site.adopt session).Ends lends
      rw [adopt]
      dsimp only
      split
      · trivial
      · split <;> trivial
  | sweep => exact sweep_ends _
  | shutdown thenDrop =>
      change (site.shutdown (.caller caller) thenDrop).Ends lends
      rw [shutdown]
      split
      · trivial
      · dsimp only
        split <;> trivial
  | release ticket =>
      change (site.release (.caller caller) ticket).Ends lends
      rw [release]
      split
      · trivial
      · exact takeBack_ends _ _
  | invalidate ticket =>
      change (site.invalidate (.caller caller) ticket).Ends lends
      rw [invalidate]
      split
      · trivial
      · exact takeBack_ends _ _
  | discard ticket =>
      change (site.discard (.caller caller) ticket).Ends lends
      rw [discard]
      split
      · trivial
      · exact takeBack_ends _ _
  | detach ticket =>
      change (site.detach ticket).Ends lends
      rw [detach]
      split <;> trivial
  | execute ticket statement => exact throughLease_ends ticket _ fun _ _ => trivial
  | query ticket statement => exact throughLease_ends ticket _ fun _ _ => trivial

/-- What an agent that goes on can lend: the next connection of a queue that is not tested, the one
that it has probed, or the one that it has made. -/
theorem proceed_ends {agent : Agent} {task : Task}
    (direct : ∀ checkout, task.checkout? = some checkout → ∀ connection ∈ site.pool.idle,
      site.pool.config.testOnBorrow = false →
        lends ⟨checkout.caller, connection.checkOut site.now⟩)
    (probed : ∀ checkout connection, task.phase = .borrowProbe checkout connection →
      site.server.answers connection.session = true →
        lends ⟨checkout.caller, connection.checkOut site.now⟩)
    (opened : ∀ checkout metadata attempt session,
      task.phase = .connecting checkout metadata attempt →
        (site.server.finishConnect attempt).2 = .ok session →
          lends ⟨checkout.caller, (Connection.ofSession session metadata).checkOut site.now⟩) :
    (site.proceed agent task.phase).Ends lends := by
  obtain ⟨_, phase, due⟩ := task
  cases phase with
  | prewarming made metadata attempt =>
      change (site.prewarmConnected agent made metadata attempt).Ends lends
      rw [prewarmConnected]
      rcases site.connected metadata attempt with ⟨after, error | connection⟩
      · trivial
      · exact prewarm_ends agent _
  | connecting checkout metadata attempt =>
      apply checkoutConnected_ends
      exact fun session => opened checkout metadata attempt session rfl
  | borrowProbe checkout connection =>
      apply borrowProbed_ends
      · exact direct checkout rfl
      · exact probed checkout connection rfl
  | waiting checkout notified =>
      apply seek_ends
      exact direct checkout rfl
  | returnProbe connection => exact returnProbed_ends connection
  | sweeping sweep connection pending =>
      change (site.sweepProbed agent sweep connection pending).Ends lends
      rw [sweepProbed]
      split <;> exact examine_ends agent _ _
  | resting =>
      change site.wake.Ends lends
      rw [wake]
      split
      · trivial
      · exact sweep_ends .checker
  | joining thenDrop => trivial

theorem resume_ends {agent : Agent}
    (goes : ∀ task, site.pool.task? agent = some task →
      site.pool.isReady site.now task = true →
        ((site.withPool (·.unpark agent)).proceed agent task.phase).Ends lends) :
    (site.resume agent).Ends lends := by
  rw [resume]
  split
  case h_1 task found =>
    split
    case isTrue ready => exact goes task found ready
    case isFalse => trivial
  case h_2 => trivial

end Site

namespace World

open Pool (Agent Job)

theorem ofPool_injective {first second : Pool.Answer} (same : ofPool first = ofPool second) :
    first = second := by
  cases first <;> cases second <;> cases same <;> rfl

/-- The turn that an agent takes in a pool with a move. -/
inductive Takes (world : World) (index : Nat) (pool : Pool) : Move → Agent → Turn → Prop where
  | calls {request : Request} {job : Job} (accepted : world.accepts request = true)
      (asks : request.asks? world = some (index, job)) :
      Takes world index pool (.act (.call request)) (.caller world.callers) (world.turn pool job)
  | resumes (agent : Agent) :
      Takes world index pool (.act (.resume (.inPool index agent))) agent
        ((world.site pool).resume agent)

/-- An event of a pool is the end of a turn there. -/
theorem turn_of_event {world : World} {index : Nat} {pool : Pool}
    (found : world.pools[index]? = some pool) {move : Move} {agent : Agent} {answer : Pool.Answer}
    (answered : move.event? world = some ⟨.inPool index agent, ofPool answer⟩) :
    ∃ turn, world.Takes index pool move agent turn ∧ turn.2 = some answer ∧
      (world.move move).pools[index]? = some turn.1.pool := by
  have same {turn : Turn} {worker : Agent}
      (ends : ending index worker turn = some ⟨.inPool index agent, ofPool answer⟩) :
      worker = agent ∧ turn.2 = some answer := by
    obtain ⟨told, tells, event⟩ := Option.map_eq_some_iff.mp ends
    obtain ⟨given, answers, rfl⟩ := Option.map_eq_some_iff.mp tells
    obtain ⟨thread, equal⟩ := Event.mk.inj event
    rw [answers, ofPool_injective equal]
    exact ⟨(Thread.inPool.inj thread).2, rfl⟩
  obtain ⟨after, foundAfter, happens⟩ := becomes_move found move
  generalize event : move.event? world = ended at happens answered
  cases happens with
  | nothing elsewhere => exact absurd answered (elsewhere agent _)
  | puts ticket session closes elsewhere => exact absurd answered (elsewhere agent _)
  | reorders tasks => cases answered
  | stirs => cases answered
  | calls accepted asks =>
      obtain ⟨rfl, answers⟩ := same answered
      exact ⟨_, .calls accepted asks, answers, foundAfter⟩
  | resumes worker =>
      obtain ⟨rfl, answers⟩ := same answered
      exact ⟨_, .resumes worker, answers, foundAfter⟩

end World

end SessionPool

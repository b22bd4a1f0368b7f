import SessionPool.Proofs.Ownership.Numbers

/-!
# What each operation does with numbers

No operation gives a connection another number, and none but a connect reserves one. A session gets
the number that was reserved for it when its connect is answered.
-/

namespace SessionPool

namespace Site

open Pool (Agent Phase Task Checkout Patience Report Sweep Job Known)

variable {known : Nat × Nat → Prop} {site : Site}

section Known

variable (all : site.pool.Known known)

include all

/-- Who reserves nothing leaves the numbers as they are. -/
theorem same_numbers : site.pool.Numbers known site.pool.reserved site.pool.nextId :=
  ⟨all, .inl ⟨rfl, rfl⟩⟩

theorem wait_numbers {agent : Agent} {phase : Phase} {due : Option Nat}
    (carried : ∀ connection ∈ (Task.mk agent phase due).connections, known connection.tag)
    (bare : (Task.mk agent phase due).reserved = []) :
    (site.wait agent phase due).Numbers site known where
  known := { all with tasks := all.tasks.park carried }
  reserves := by
    left
    constructor
    · apply (Pool.reserved_park _ _).trans
      rw [bare, List.append_nil]
    · rfl

theorem probe_numbers {agent : Agent} (session : Session) {phase : Phase}
    (carried : ∀ due, ∀ connection ∈ (Task.mk agent phase due).connections, known connection.tag)
    (bare : ∀ due, (Task.mk agent phase due).reserved = []) :
    (site.probe agent session phase).Numbers site known := by
  rw [probe]
  apply wait_numbers
  · exact all
  · exact carried _
  · exact bare _

/-- A connect reserves the next number. -/
theorem connect_numbers {agent : Agent} {phase : Metadata → Attempt → Phase}
    (bare : ∀ metadata attempt due,
      (Task.mk agent (phase metadata attempt) due).connections = [])
    (reserves : ∀ metadata attempt due,
      (Task.mk agent (phase metadata attempt) due).reserved = [metadata.id]) :
    (site.connect agent phase).Numbers site known where
  known := by
    rw [connect]
    refine { all with tasks := all.tasks.park ?_ }
    rw [bare]
    intro connection absent
    cases absent
  reserves := by
    right
    constructor
    · apply (Pool.reserved_park _ _).trans
      rw [reserves]
      rfl
    · rfl

/-! ### Checkouts -/

theorem lend_numbers (checkout : Checkout) {connection : Connection}
    (held : known connection.tag) :
    (site.lend checkout connection).Numbers site known where
  known := { all with leases := List.forall_mem_cons.mpr ⟨held, all.leases⟩ }
  reserves := .inl ⟨rfl, rfl⟩

theorem refuse_numbers (error : PoolError) :
    (site.refuse error).Numbers site known :=
  ⟨{ all with }, .inl ⟨rfl, rfl⟩⟩

theorem seek_numbers (checkout : Checkout) :
    (site.seek checkout).Numbers site known := by
  have refused := refuse_numbers all
  have asleep (due : Option Nat) :
      (site.wait (.caller checkout.caller) (.waiting checkout false) due).Numbers site known := by
    apply wait_numbers all
    · intro connection absent
      cases absent
    · rfl
  rw [seek]
  dsimp only
  split
  case isTrue => exact refused _
  case isFalse =>
    split
    case h_1 connection rest queue =>
      have queued := all.idle
      rw [queue] at queued
      obtain ⟨here, later⟩ := List.forall_mem_cons.mp queued
      have taken : Known known { site.pool with
          idle := rest, active := connection.id :: site.pool.active } :=
        { all with idle := later }
      split
      · apply probe_numbers
        · exact taken
        · intro due other held
          rw [List.mem_singleton.mp held]
          exact here
        · exact fun _ => rfl
      · apply lend_numbers
        · exact taken
        · exact here
    case h_2 =>
      split
      · apply connect_numbers
        · exact { all with }
        · exact fun _ _ _ => rfl
        · exact fun _ _ _ => rfl
      · split
        case h_1 => exact ⟨{ all with }, .inl ⟨rfl, rfl⟩⟩
        case h_2 deadline _ =>
          split
          · exact refused _
          · exact asleep _
        case h_3 => exact asleep none

theorem checkout_numbers (caller : Nat) (patience : Patience) :
    (site.checkout caller patience).Numbers site known := by
  rw [checkout]
  split
  · exact ⟨{ all with }, .inl ⟨rfl, rfl⟩⟩
  · apply seek_numbers
    exact { all with }

theorem borrowProbed_numbers (checkout : Checkout) {connection : Connection}
    (held : known connection.tag) :
    (site.borrowProbed checkout connection).Numbers site known := by
  rw [borrowProbed]
  dsimp only
  split
  · exact lend_numbers all checkout held
  · split
    · apply refuse_numbers
      exact { all with }
    · apply seek_numbers
      exact { all with }

/-- A connect that has been answered joins its number to the session. -/
theorem checkoutConnected_numbers (checkout : Checkout) (metadata : Metadata) (attempt : Attempt)
    (joined : ∀ session, (site.server.finishConnect attempt).2 = .ok session →
      known (metadata.id, session.id)) :
    (site.checkoutConnected checkout metadata attempt).Numbers site known := by
  rw [checkoutConnected, connected]
  rcases answer : site.server.finishConnect attempt with ⟨server, error | session⟩
  · have released : Known known { site.pool with total := site.pool.total - 1 } := { all with }
    refine ⟨{ released.notifyOne with }, .inl ⟨?_, rfl⟩⟩
    exact Pool.reserved_notifyOne _
  · dsimp only
    split
    · apply refuse_numbers
      exact { all with }
    · apply lend_numbers
      · exact { all with }
      · exact joined session (congrArg Prod.snd answer)

/-! ### Returns -/

theorem requeue_numbers {connection : Connection} (held : known connection.tag) (healthy : Bool) :
    (site.requeue connection healthy).Numbers site known := by
  have queued : Known known { site.pool with
      active := site.pool.active.erase connection.id
      idle := site.pool.idle ++ [connection] } := by
    refine { all with idle := ?_ }
    exact List.forall_mem_append.mpr ⟨all.idle, List.forall_mem_singleton.mpr held⟩
  have dropped : Known known { site.pool with
      active := site.pool.active.erase connection.id
      total := site.pool.total - 1 } := { all with }
  rw [requeue]
  dsimp only
  split
  · exact ⟨{ all with }, .inl ⟨rfl, rfl⟩⟩
  · split
    · exact ⟨{ all with }, .inl ⟨rfl, rfl⟩⟩
    · split
      · exact ⟨{ dropped.notifyOne with }, .inl ⟨Pool.reserved_notifyOne _, rfl⟩⟩
      · exact ⟨queued.notifyOne, .inl ⟨Pool.reserved_notifyOne _, rfl⟩⟩

theorem takeBack_numbers (agent : Agent) {connection : Connection} (held : known connection.tag) :
    (site.takeBack agent connection).Numbers site known := by
  have touched : known (connection.touch site.now).tag := held
  rw [takeBack]
  dsimp only
  split
  · exact same_numbers all
  · split
    · split
      · apply probe_numbers all
        · intro due other probed
          rw [List.mem_singleton.mp probed]
          exact touched
        · exact fun _ => rfl
      · exact requeue_numbers all touched true
    · exact requeue_numbers all touched false

theorem returnProbed_numbers {connection : Connection} (held : known connection.tag) :
    (site.returnProbed connection).Numbers site known := by
  have broken : known connection.broken.tag := held
  rw [returnProbed]
  split
  · exact requeue_numbers all held true
  · exact requeue_numbers all broken false

/-- However a lease ends, its connection has been known. -/
theorem takeBack_endLease_numbers (agent : Agent) {ticket : Nat} {connection : Connection}
    (held : known connection.tag) :
    ((site.withPool (·.endLease ticket)).takeBack agent connection).Numbers site known := by
  apply takeBack_numbers
  · exact all.endLease ticket
  · exact held

theorem release_numbers (agent : Agent) (ticket : Nat) :
    (site.release agent ticket).Numbers site known := by
  rw [release]
  split
  case h_1 => exact same_numbers all
  case h_2 lease found =>
    exact takeBack_endLease_numbers all agent (all.leases lease (List.mem_of_find?_eq_some found))

theorem invalidate_numbers (agent : Agent) (ticket : Nat) :
    (site.invalidate agent ticket).Numbers site known := by
  rw [invalidate]
  split
  case h_1 => exact same_numbers all
  case h_2 lease found =>
    have broken : known lease.connection.broken.tag :=
      all.leases lease (List.mem_of_find?_eq_some found)
    exact takeBack_endLease_numbers all agent broken

theorem discard_numbers (agent : Agent) (ticket : Nat) :
    (site.discard agent ticket).Numbers site known := by
  rw [discard]
  split
  case h_1 => exact same_numbers all
  case h_2 lease found =>
    exact takeBack_endLease_numbers all agent (all.leases lease (List.mem_of_find?_eq_some found))

theorem detach_numbers (ticket : Nat) :
    (site.detach ticket).Numbers site known := by
  have ended := all.endLease ticket
  rw [detach]
  split
  · exact same_numbers all
  · dsimp only
    split
    · refine ⟨Known.notifyOne { ended with }, .inl ⟨?_, rfl⟩⟩
      exact Pool.reserved_notifyOne _
    · exact ⟨ended, .inl ⟨rfl, rfl⟩⟩

/-- A statement leaves the number of the connection and the name of the session as they are. -/
theorem throughLease_numbers {α : Type} (ticket : Nat)
    (send : Server → Session → Server × Except SessionError α) (reply : α → Pool.Reply) :
    (site.throughLease ticket send reply).Numbers site known := by
  rw [throughLease]
  split
  case h_1 => exact same_numbers all
  case h_2 lease found =>
    have held := all.leases lease (List.mem_of_find?_eq_some found)
    refine ⟨all.updateLease ?_ ticket, .inl ⟨rfl, rfl⟩⟩
    unfold observed
    split
    · exact held
    · split <;> exact held

/-! ### Sweeps -/

theorem rest_numbers : site.rest.pool.Numbers known site.pool.reserved site.pool.nextId where
  known := by
    refine { all with tasks := all.tasks.park ?_ }
    intro connection absent
    cases absent
  reserves := by
    left
    constructor
    · apply (Pool.reserved_park _ _).trans
      exact List.append_nil _
    · rfl

theorem afterSweep_numbers (agent : Agent) (report : Report) :
    (site.afterSweep agent report).Numbers site known := by
  unfold afterSweep
  split
  · exact same_numbers all
  · split
    · exact same_numbers all
    · exact rest_numbers all

omit all in
theorem reserved_disposeAll (site : Site) (connections : List Connection) :
    (site.disposeAll connections).pool.reserved = site.pool.reserved := by
  rw [Pool.pool_disposeAll]
  rfl

omit all in
theorem nextId_disposeAll (site : Site) (connections : List Connection) :
    (site.disposeAll connections).pool.nextId = site.pool.nextId := by
  rw [Pool.pool_disposeAll]

omit all in
theorem disposeAll_known (site : Site) (all : site.pool.Known known)
    (connections : List Connection) : (site.disposeAll connections).pool.Known known := by
  rw [Pool.pool_disposeAll]
  exact { all with }

/-- A sweep ends when the connections that it evicts have been disposed of. -/
theorem afterDisposal_numbers (agent : Agent) (connections : List Connection)
    (change : Pool.Counters → Pool.Counters) (report : Report) :
    (((site.disposeAll connections).withPool (·.count change)).afterSweep agent report).Numbers
      site known := by
  have counted : ((site.disposeAll connections).withPool (·.count change)).pool.Known known :=
    { disposeAll_known site all connections with }
  apply (afterSweep_numbers counted agent report).congr
  · exact reserved_disposeAll site connections
  · exact nextId_disposeAll site connections

theorem commit_numbers (agent : Agent) {sweep : Sweep}
    (kept : ∀ connection ∈ sweep.kept, known connection.tag) :
    (site.commit agent sweep).Numbers site known := by
  rw [commit]
  dsimp only
  split
  · apply Turn.Numbers.congr
    · apply afterDisposal_numbers
      apply disposeAll_known
      exact { all with }
    · exact reserved_disposeAll _ _
    · exact nextId_disposeAll _ _
  · apply Turn.Numbers.congr
    · apply afterDisposal_numbers
      apply Known.notifyMany
      exact { all with idle := List.forall_mem_append.mpr ⟨kept, all.idle⟩ }
    · exact Pool.reserved_notifyMany _ _
    · exact Pool.nextId_notifyMany _ _

theorem examine_numbers (agent : Agent) {sweep : Sweep} {pending : List Connection}
    (kept : ∀ connection ∈ sweep.kept, known connection.tag)
    (evicted : ∀ connection ∈ sweep.evicted, known connection.tag)
    (later : ∀ connection ∈ pending, known connection.tag) :
    (site.examine agent sweep pending).Numbers site known := by
  induction pending generalizing sweep with
  | nil => exact commit_numbers all agent kept
  | cons connection pending ih =>
      obtain ⟨here, rest⟩ := List.forall_mem_cons.mp later
      rw [examine]
      split
      · apply ih
        · exact kept
        · exact List.forall_mem_append.mpr ⟨evicted, List.forall_mem_singleton.mpr here⟩
        · exact rest
      · apply probe_numbers all
        · intro due
          refine List.forall_mem_append.mpr ⟨?_, later⟩
          exact List.forall_mem_append.mpr ⟨kept, evicted⟩
        · exact fun _ => rfl

theorem sweepProbed_numbers (agent : Agent) {sweep : Sweep} {connection : Connection}
    {pending : List Connection} (kept : ∀ connection ∈ sweep.kept, known connection.tag)
    (evicted : ∀ connection ∈ sweep.evicted, known connection.tag) (here : known connection.tag)
    (later : ∀ connection ∈ pending, known connection.tag) :
    (site.sweepProbed agent sweep connection pending).Numbers site known := by
  have broken : known connection.broken.tag := here
  rw [sweepProbed]
  split
  · apply examine_numbers all
    · exact List.forall_mem_append.mpr ⟨kept, List.forall_mem_singleton.mpr here⟩
    · exact evicted
    · exact later
  · apply examine_numbers all
    · exact kept
    · exact List.forall_mem_append.mpr ⟨evicted, List.forall_mem_singleton.mpr broken⟩
    · exact later

theorem sweep_numbers (agent : Agent) : (site.sweep agent).Numbers site known := by
  rw [sweep]
  dsimp only
  split
  · exact afterSweep_numbers all agent .zero
  · apply examine_numbers
    · refine { all with idle := ?_ }
      intro connection absent
      cases absent
    · intro connection absent
      cases absent
    · intro connection absent
      cases absent
    · exact all.idle

theorem wake_numbers : site.wake.Numbers site known := by
  rw [wake]
  split
  · exact same_numbers all
  · exact sweep_numbers all .checker

/-! ### Opening and closing -/

theorem prewarm_numbers (agent : Agent) (made : Nat) :
    (site.prewarm agent made).Numbers site known := by
  rw [prewarm]
  split
  · apply connect_numbers all
    · exact fun _ _ _ => rfl
    · exact fun _ _ _ => rfl
  · exact rest_numbers all

theorem prewarmConnected_numbers (agent : Agent) (made : Nat) (metadata : Metadata)
    (attempt : Attempt)
    (joined : ∀ session, (site.server.finishConnect attempt).2 = .ok session →
      known (metadata.id, session.id)) :
    (site.prewarmConnected agent made metadata attempt).Numbers site known := by
  rw [prewarmConnected, connected]
  rcases answer : site.server.finishConnect attempt with ⟨server, error | session⟩
  · apply rest_numbers
    exact all
  · have new : known (Connection.ofSession session metadata).tag :=
      joined session (congrArg Prod.snd answer)
    apply prewarm_numbers
    refine { all with idle := ?_ }
    exact List.forall_mem_append.mpr ⟨all.idle, List.forall_mem_singleton.mpr new⟩

theorem drain_numbers (thenDrop : Bool) : (site.drain thenDrop).Numbers site known := by
  rw [drain]
  apply Turn.Numbers.congr
  · apply same_numbers
    have emptied : Known known { site.pool with
        idle := [], total := site.pool.total - site.pool.idle.length } := by
      refine { all with idle := ?_ }
      intro connection absent
      cases absent
    have disposed := disposeAll_known (site.withPool fun _ => _) emptied site.pool.idle
    exact { disposed with }
  · exact reserved_disposeAll _ _
  · exact nextId_disposeAll _ _

theorem shutdown_numbers (agent : Agent) (thenDrop : Bool) :
    (site.shutdown agent thenDrop).Numbers site known := by
  have told : Known known { site.pool.notifyAll with isShutdown := true, stopRequested := true } :=
    { all with tasks := all.tasks.notifyAll Known.told }
  rw [shutdown]
  split
  · exact ⟨{ all with }, .inl ⟨rfl, rfl⟩⟩
  · dsimp only
    split
    · apply Turn.Numbers.congr
      · apply wait_numbers
        · exact told
        · intro connection absent
          cases absent
        · rfl
      · exact site.pool.reserved_notifyAll
      · rfl
    · apply Turn.Numbers.congr
      · apply drain_numbers
        exact told
      · exact site.pool.reserved_notifyAll
      · rfl

/-! ### Calls, and going on -/

theorem work_numbers (caller : Nat) {job : Job} (other : ∀ session, job ≠ .adopt session) :
    (job.work caller site).Numbers site known := by
  cases job with
  | acquire timeout => exact checkout_numbers all caller _
  | get => exact checkout_numbers all caller _
  | tryGet => exact checkout_numbers all caller _
  | adopt session => exact absurd rfl (other session)
  | sweep => exact sweep_numbers all _
  | shutdown thenDrop => exact shutdown_numbers all _ thenDrop
  | release ticket => exact release_numbers all _ ticket
  | invalidate ticket => exact invalidate_numbers all _ ticket
  | discard ticket => exact discard_numbers all _ ticket
  | detach ticket => exact detach_numbers all ticket
  | execute ticket statement => exact throughLease_numbers all ticket _ _
  | query ticket statement => exact throughLease_numbers all ticket _ _

/-- An agent that goes on joins its number to the session for which its connect is answered. -/
theorem proceed_numbers {agent : Agent} {task : Task}
    (held : ∀ connection ∈ task.connections, known connection.tag)
    (joined : ∀ tag, task.joins? site.server = some tag → known tag) :
    (site.proceed agent task.phase).Numbers site known := by
  obtain ⟨_, phase, due⟩ := task
  cases phase with
  | prewarming made metadata attempt =>
      apply prewarmConnected_numbers all
      intro session answer
      apply joined
      simp only [Task.joins?, answer, Except.toOption, Option.map_some]
  | connecting checkout metadata attempt =>
      apply checkoutConnected_numbers all
      intro session answer
      apply joined
      simp only [Task.joins?, answer, Except.toOption, Option.map_some]
  | borrowProbe checkout connection =>
      exact borrowProbed_numbers all checkout (held connection (List.mem_singleton_self _))
  | waiting checkout notified => exact seek_numbers all checkout
  | returnProbe connection =>
      exact returnProbed_numbers all (held connection (List.mem_singleton_self _))
  | sweeping sweep connection pending =>
      obtain ⟨before, now⟩ := List.forall_mem_append.mp held
      obtain ⟨kept, evicted⟩ := List.forall_mem_append.mp before
      obtain ⟨here, later⟩ := List.forall_mem_cons.mp now
      exact sweepProbed_numbers all agent kept evicted here later
  | resting => exact wake_numbers all
  | joining thenDrop => exact drain_numbers all thenDrop

end Known

end Site

end SessionPool

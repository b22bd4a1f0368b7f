import SessionPool.Proofs.Disposal.Flow

/-!
# No operation loses a session

Each operation of a pool is a flow: what it takes out of the pool it puts back, or disconnects, or
hands out. An agent that goes on begins with what its task held.
-/

namespace SessionPool.Site

open Pool (Agent Phase Checkout Patience Sweep Report)

variable {site : Site}

/-! ### Checkouts -/

theorem lend_conserves (checkout : Checkout) (connection : Connection) :
    (site.lend checkout connection).Conserves site [connection.name] := by
  refine .ofPlaces (fun id => ?_) rfl rfl
  simp [lend, answer, Pool.handedOut, Pool.places, Pool.connections, Pool.count, List.count_cons]
  omega

theorem refuse_conserves (error : PoolError) : (site.refuse error).Conserves site [] :=
  .same rfl rfl rfl

theorem decline_conserves : site.decline.Conserves site [] :=
  .same rfl rfl rfl

theorem seek_conserves (checkout : Checkout) : (site.seek checkout).Conserves site [] := by
  unfold seek
  dsimp only
  split
  · exact refuse_conserves _
  · split
    case h_1 connection rest idle =>
      have taken : Flow site []
          { site with pool := { site.pool with
              idle := rest, active := connection.id :: site.pool.active } }
          [connection.name] := by
        refine .ofPlaces (fun id => ?_) rfl rfl
        simp [Pool.places, Pool.connections, idle, List.count_cons]
      split
      · exact taken.trans (probe_conserves _ fun _ => rfl)
      · exact taken.trans (lend_conserves checkout connection)
    case h_2 =>
      split
      · have reserved : Flow site []
            { site with pool := { site.pool with total := site.pool.total + 1 } } [] :=
          .same rfl rfl rfl
        exact reserved.trans (connect_conserves fun _ _ _ => rfl)
      · split
        · exact decline_conserves
        · split
          · exact refuse_conserves _
          · exact wait_conserves _ rfl
        · exact wait_conserves _ rfl

theorem checkout_conserves (caller : Nat) (patience : Patience) :
    (site.checkout caller patience).Conserves site [] := by
  unfold checkout
  split
  · exact .same rfl rfl rfl
  · have arrived : Flow site []
        { site with pool := { site.pool with waiting := site.pool.waiting + 1 } } [] :=
      .same rfl rfl rfl
    exact arrived.trans (seek_conserves _)

theorem borrowProbed_conserves (checkout : Checkout) (connection : Connection) :
    (site.borrowProbed checkout connection).Conserves site [connection.name] := by
  unfold borrowProbed
  dsimp only
  split
  · exact lend_conserves checkout connection
  · have released : Flow site [connection.name]
        { site with pool := { site.pool with
            active := site.pool.active.erase connection.id
            total := site.pool.total - 1 } }
        [connection.name] :=
      .same rfl rfl rfl
    split
    · exact (released.trans (flow_dispose _ connection)).trans (refuse_conserves _)
    · exact (released.trans (flow_dispose _ connection.broken)).trans (seek_conserves checkout)

theorem checkoutConnected_conserves (checkout : Checkout) (metadata : Metadata)
    (attempt : Attempt) :
    (site.checkoutConnected checkout metadata attempt).Conserves site [] := by
  unfold checkoutConnected
  split
  case h_1 after connection connected =>
    have opened : Flow site [] after [connection.name] := flow_connected connected
    split
    · have released : Flow after [connection.name]
          (after.withPool fun pool => { pool with total := pool.total - 1 }) [connection.name] :=
        .same rfl rfl rfl
      exact ((opened.trans released).trans (flow_dispose _ connection)).trans (refuse_conserves _)
    · have taken : Flow after [connection.name]
          (after.withPool fun pool => { pool with active := connection.id :: pool.active })
          [connection.name] :=
        .same rfl rfl rfl
      exact (opened.trans taken).trans (lend_conserves checkout connection)
  case h_2 after error connected =>
    have failed : Flow site [] after [] := flow_connected connected
    refine failed.trans (.same ?_ rfl rfl)
    exact Pool.connections_notifyOne { after.pool with total := after.pool.total - 1 }

/-! ### Returns -/

theorem requeue_conserves (connection : Connection) (healthy : Bool) :
    (site.requeue connection healthy).Conserves site [connection.name] := by
  unfold requeue
  dsimp only
  split
  · exact flow_dispose site connection
  · split
    · have released : Flow site [connection.name]
          { site with pool := { site.pool with
              active := site.pool.active.erase connection.id
              total := site.pool.total - 1 } }
          [connection.name] :=
        .same rfl rfl rfl
      exact released.trans (flow_dispose _ connection)
    · split
      · have released : Flow site [connection.name]
            { site with pool := Pool.notifyOne { site.pool with
                active := site.pool.active.erase connection.id
                total := site.pool.total - 1 } }
            [connection.name] :=
          .same (Pool.connections_notifyOne _) rfl rfl
        exact released.trans (flow_dispose _ connection)
      · refine .ofPlaces (fun id => ?_) rfl rfl
        simp only [answer, Pool.places, Pool.connections_notifyOne]
        simp [Pool.handedOut, Pool.connections, List.count_cons]
        omega

theorem takeBack_conserves (agent : Agent) (connection : Connection) :
    (site.takeBack agent connection).Conserves site [connection.name] := by
  unfold takeBack
  dsimp only
  split
  · exact flow_disconnect site connection.session
  · split
    · split
      · exact probe_conserves _ fun _ => rfl
      · exact requeue_conserves (connection.touch site.now) true
    · exact requeue_conserves (connection.touch site.now) false

theorem returnProbed_conserves (connection : Connection) :
    (site.returnProbed connection).Conserves site [connection.name] := by
  unfold returnProbed
  split
  · exact requeue_conserves connection true
  · exact requeue_conserves connection.broken false

/-- A lease that ends leaves its connection in hand. -/
theorem flow_endLease {ticket : Nat} {lease : Lease}
    (found : site.pool.lease? ticket = some lease) :
    Flow site [] (site.withPool (·.endLease ticket)) [lease.connection.name] := by
  refine .ofPlaces (fun id => ?_) rfl rfl
  have perm := (perm_cons_eraseP found).map (·.connection)
  have counted := (perm.map (·.name)).count_eq id
  simp [Pool.places, Pool.connections, withPool, Pool.endLease, List.count_cons] at counted ⊢
  omega

theorem release_conserves (agent : Agent) (ticket : Nat) :
    (site.release agent ticket).Conserves site [] := by
  unfold release
  split
  · exact .refl site []
  case h_2 lease found => exact (flow_endLease found).trans (takeBack_conserves agent _)

theorem invalidate_conserves (agent : Agent) (ticket : Nat) :
    (site.invalidate agent ticket).Conserves site [] := by
  unfold invalidate
  split
  · exact .refl site []
  case h_2 lease found =>
    exact (flow_endLease found).trans (takeBack_conserves agent lease.connection.broken)

theorem discard_conserves (agent : Agent) (ticket : Nat) :
    (site.discard agent ticket).Conserves site [] := by
  unfold discard
  split
  · exact .refl site []
  case h_2 lease found => exact (flow_endLease found).trans (takeBack_conserves agent _)

/-- A session that is detached is handed out. -/
theorem detach_conserves (ticket : Nat) : (site.detach ticket).Conserves site [] := by
  unfold detach
  split
  · exact .refl site []
  case h_2 lease found =>
    refine (flow_endLease found).trans (.same ?_ rfl rfl)
    dsimp only [answer, withPool]
    split
    · exact Pool.connections_notifyOne _
    · rfl

/-- A session that is adopted is idle, or it is turned away and disconnected. -/
theorem adopt_conserves (session : Session) :
    (site.adopt session).Conserves site [session.id] := by
  unfold adopt
  dsimp only
  split
  · exact flow_disconnect site session
  · split
    · exact flow_disconnect site session
    · refine .ofPlaces (fun id => ?_) rfl rfl
      simp only [answer, Pool.places, Pool.connections_notifyOne]
      simp [Pool.handedOut, Pool.connections, List.count_cons]
      omega

/-! ### Statements -/

/-- Putting another connection of the same session into a lease moves no session, if no other lease
has the same ticket. -/
theorem places_updateLease {pool : Pool} {ticket : Nat} {lease : Lease}
    {connection : Connection}
    (single : ∀ other ∈ pool.leases, other.ticket = ticket → other = lease)
    (same : connection.name = lease.connection.name) (id : Nat) :
    (pool.updateLease ticket connection).places id = pool.places id := by
  have leases : (pool.updateLease ticket connection).leases.map (·.connection.name) =
      pool.leases.map (·.connection.name) := by
    rw [Pool.updateLease, List.map_map]
    apply List.map_congr_left
    intro other member
    dsimp only [Function.comp]
    split
    case isTrue ticketEq =>
      rw [single other member (beq_iff_eq.mp ticketEq)]
      exact same
    case isFalse => rfl
  have idle : (pool.updateLease ticket connection).idle = pool.idle := rfl
  have tasks : (pool.updateLease ticket connection).tasks = pool.tasks := rfl
  simp only [Pool.places, Pool.connections, List.map_append, List.map_map, Function.comp_def,
    leases, idle, tasks]

theorem name_observed {α : Type} (connection : Connection) (result : Except SessionError α) :
    (observed connection result).name = connection.name := by
  unfold observed
  split
  · rfl
  · split <;> rfl

/-- A statement moves no session, if no two leases have the same ticket. -/
theorem throughLease_conserves {α : Type} {ticket : Nat}
    (single : ∀ lease, site.pool.lease? ticket = some lease →
      ∀ other ∈ site.pool.leases, other.ticket = ticket → other = lease)
    {send : Server → Session → Server × Except SessionError α} {reply : α → Pool.Reply}
    (disconnects : ∀ session, (send site.server session).1.disconnects = site.server.disconnects)
    (lastId : ∀ session, (send site.server session).1.lastId = site.server.lastId)
    (keeps : ∀ rows, Pool.handedOut (some (.ok (reply rows))) = []) :
    (site.throughLease ticket send reply).Conserves site [] := by
  unfold throughLease
  split
  · exact .refl site []
  case h_2 lease found =>
    have disconnects := disconnects lease.connection.session
    have lastId := lastId lease.connection.session
    rcases sent : send site.server lease.connection.session with ⟨server, result⟩
    rw [sent] at disconnects lastId
    have moved : Flow site []
        { site with
          server
          pool := site.pool.updateLease ticket (observed lease.connection result) } [] := by
      apply Flow.ofPlaces _ disconnects lastId
      intro id
      rw [places_updateLease (single lease found) (name_observed _ _)]
    cases result with
    | ok rows =>
        dsimp only [answer, Turn.Conserves]
        rw [keeps rows]
        exact moved
    | error error => exact moved

/-! ### Sweeps -/

theorem rest_conserves : Flow site [] site.rest [] := flow_park site ⟨.checker, .resting, _⟩

theorem afterSweep_conserves (agent : Agent) (report : Report) :
    (site.afterSweep agent report).Conserves site [] := by
  unfold afterSweep
  split
  · exact .refl site []
  · split
    · exact .refl site []
    · exact rest_conserves

theorem commit_conserves (agent : Agent) (sweep : Sweep) :
    (site.commit agent sweep).Conserves site
      (sweep.kept.map (·.name) ++ sweep.evicted.map (·.name)) := by
  unfold commit
  dsimp only
  have counted (after : Site) :
      ((after.withPool (·.count (·.swept sweep.report))).afterSweep agent sweep.report).Conserves
        after [] := by
    have swept : Flow after [] (after.withPool (·.count (·.swept sweep.report))) [] :=
      .same rfl rfl rfl
    exact swept.trans (afterSweep_conserves agent sweep.report)
  split
  · have given : Flow site (sweep.kept.map (·.name) ++ sweep.evicted.map (·.name))
        { site with pool := { site.pool with
            validating := site.pool.validating - sweep.checked
            total := site.pool.total - sweep.checked } }
        (sweep.kept.map (·.name) ++ sweep.evicted.map (·.name)) :=
      .same rfl rfl rfl
    refine given.trans (.trans ?_ (counted _))
    exact ((flow_disposeAll _ sweep.kept).frame _).trans (flow_disposeAll _ sweep.evicted)
  · refine Flow.trans ?_ ((flow_disposeAll _ sweep.evicted).trans (counted _))
    refine .ofPlaces (fun id => ?_) rfl rfl
    simp only [Pool.places, Pool.connections_notifyMany]
    simp [Pool.connections]
    omega

theorem examine_conserves (agent : Agent) (sweep : Sweep) (pending : List Connection) :
    (site.examine agent sweep pending).Conserves site
      (sweep.kept.map (·.name) ++ sweep.evicted.map (·.name) ++ pending.map (·.name)) := by
  induction pending generalizing sweep with
  | nil => simpa [examine] using commit_conserves agent sweep
  | cons connection pending ih =>
      unfold examine
      split
      · simpa [Sweep.evictIdle] using ih (sweep.evictIdle connection)
      · exact probe_conserves _ fun _ => by simp [Pool.Task.connections]

theorem sweep_conserves (agent : Agent) : (site.sweep agent).Conserves site [] := by
  unfold sweep
  dsimp only
  split
  · exact afterSweep_conserves agent .zero
  · have drained : Flow site []
        { site with pool := { site.pool with
            idle := [], validating := site.pool.validating + site.pool.idle.length } }
        (site.pool.idle.map (·.name)) := by
      refine .ofPlaces (fun id => ?_) rfl rfl
      simp [Pool.places, Pool.connections]
      omega
    exact drained.trans (examine_conserves agent (.start _ _) _)

theorem sweepProbed_conserves (agent : Agent) (sweep : Sweep) (connection : Connection)
    (pending : List Connection) :
    (site.sweepProbed agent sweep connection pending).Conserves site
      ((sweep.kept ++ sweep.evicted ++ connection :: pending).map (·.name)) := by
  unfold sweepProbed
  split
  · apply (examine_conserves agent (sweep.keep connection) pending).perm
    simpa [Sweep.keep] using List.perm_middle.append_left (sweep.kept.map (·.name))
  · simpa [Sweep.evictDead] using examine_conserves agent (sweep.evictDead connection) pending

theorem wake_conserves : site.wake.Conserves site [] := by
  unfold wake
  split
  · exact .refl site []
  · exact sweep_conserves .checker

/-! ### Opening and closing -/

theorem prewarm_conserves (agent : Agent) (made : Nat) :
    (site.prewarm agent made).Conserves site [] := by
  unfold prewarm
  split
  · exact connect_conserves fun _ _ _ => rfl
  · exact rest_conserves

theorem prewarmConnected_conserves (agent : Agent) (made : Nat) (metadata : Metadata)
    (attempt : Attempt) :
    (site.prewarmConnected agent made metadata attempt).Conserves site [] := by
  unfold prewarmConnected
  split
  case h_1 after connection connected =>
    have opened : Flow site [] after [connection.name] := flow_connected connected
    have queued : Flow after [connection.name]
        { after with pool := { after.pool with
            total := after.pool.total + 1
            idle := after.pool.idle ++ [connection] } } [] := by
      refine .ofPlaces (fun id => ?_) rfl rfl
      simp [Pool.places, Pool.connections, List.count_cons]
      omega
    exact (opened.trans queued).trans (prewarm_conserves agent (made + 1))
  case h_2 after error connected =>
    have failed : Flow site [] after [] := flow_connected connected
    exact failed.trans rest_conserves

theorem drain_conserves (thenDrop : Bool) : (site.drain thenDrop).Conserves site [] := by
  unfold drain
  dsimp only
  have emptied : Flow site []
      (site.withPool fun pool =>
        { pool with idle := [], total := pool.total - site.pool.idle.length })
      (site.pool.idle.map (·.name)) := by
    refine .ofPlaces (fun id => ?_) rfl rfl
    simp [Pool.places, Pool.connections, withPool]
    omega
  exact (emptied.trans (flow_disposeAll _ site.pool.idle)).trans (.same rfl rfl rfl)

theorem shutdown_conserves (agent : Agent) (thenDrop : Bool) :
    (site.shutdown agent thenDrop).Conserves site [] := by
  unfold shutdown
  split
  · exact .same rfl rfl rfl
  · have flagged : Flow site []
        (site.withPool fun pool =>
          { pool.notifyAll with isShutdown := true, stopRequested := true }) [] :=
      .same (Pool.connections_notifyAll site.pool) rfl rfl
    dsimp only
    split
    · exact flagged.trans (wait_conserves _ rfl)
    · exact flagged.trans (drain_conserves thenDrop)

/-! ### Going on -/

theorem proceed_conserves (task : Pool.Task) :
    (site.proceed task.agent task.phase).Conserves site (task.connections.map (·.name)) := by
  obtain ⟨agent, phase, due⟩ := task
  cases phase with
  | prewarming made metadata attempt => exact prewarmConnected_conserves agent made metadata attempt
  | connecting checkout metadata attempt =>
      exact checkoutConnected_conserves checkout metadata attempt
  | borrowProbe checkout connection => exact borrowProbed_conserves checkout connection
  | waiting checkout notified => exact seek_conserves checkout
  | returnProbe connection => exact returnProbed_conserves connection
  | sweeping sweep connection pending => exact sweepProbed_conserves agent sweep connection pending
  | resting => exact wake_conserves
  | joining thenDrop => exact drain_conserves thenDrop

/-- An agent that goes on loses no session. -/
theorem resume_conserves (agent : Agent) : (site.resume agent).Conserves site [] := by
  unfold resume
  split
  case h_2 => exact .refl site []
  case h_1 task found =>
    split
    case isFalse => exact .refl site []
    case isTrue =>
      have agent_eq : task.agent = agent := by simpa using List.find?_some found
      rw [← agent_eq] at found ⊢
      exact (flow_unpark found).trans (proceed_conserves task)

end SessionPool.Site

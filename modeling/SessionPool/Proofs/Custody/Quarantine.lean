import SessionPool.Proofs.Custody.Run
import SessionPool.Proofs.Ownership.Exclusive

/-!
# Quarantine

A pool learns that a session is broken when a probe of it fails, when a statement through its lease
loses the connection, or when the caller says so. From then on the record of the connection says
that it must not be lent again, wherever it is, and every way back into the idle queue asks for that
record. So the session never comes back, unless somebody keeps it and gives it to the pool anew.
-/

namespace SessionPool

namespace Pool

/-- The connection of which an agent awaits the probe. -/
def Task.probed? (task : Task) : Option Connection :=
  match task.phase with
  | .borrowProbe _ connection | .returnProbe connection => some connection
  | .sweeping _ current _ => some current
  | _ => none

theorem Task.mem_connections_of_probed {task : Task} {connection : Connection}
    (probes : task.probed? = some connection) : connection ∈ task.connections := by
  obtain ⟨agent, phase, due⟩ := task
  cases phase with
  | borrowProbe checkout other =>
      cases probes
      exact List.mem_singleton_self _
  | returnProbe other =>
      cases probes
      exact List.mem_singleton_self _
  | sweeping sweep current pending =>
      cases probes
      exact List.mem_append_right _ List.mem_cons_self
  | _ => cases probes

/-- What an agent that goes on has in hand is in no other place. -/
theorem connections_perm_unpark {pool : Pool} {agent : Agent} {task : Task}
    (waits : pool.task? agent = some task) :
    pool.connections.Perm (task.connections ++ (pool.unpark agent).connections) := by
  have tasks := (perm_cons_eraseP waits).flatMap_right Task.connections
  rw [List.flatMap_cons] at tasks
  rw [connections]
  apply (tasks.append_left _).trans
  rw [connections, ← List.append_assoc, ← List.append_assoc]
  exact List.perm_append_comm.append_right _

/-- What a caller has a lease for is in no other place. -/
theorem connections_perm_endLease {pool : Pool} {ticket : Nat} {lease : Lease}
    (good : pool.lease? ticket = some lease) :
    pool.connections.Perm (lease.connection :: (pool.endLease ticket).connections) := by
  have leases := (perm_cons_eraseP good).map (·.connection)
  rw [List.map_cons] at leases
  have idle := leases.append_left pool.idle
  exact (idle.trans List.perm_middle).append_right _

end Pool

namespace World

open Pool (Agent Job Task)

/-! ### What is idle works -/

/-- What may be lent is believed to work. -/
def sane : Custody where
  pool _ := .each (·.isReusable = true) (fun _ => True) (fun _ => True)
  outside _ := True
  serves _ := True

theorem lawful_sane (now : Nat) : sane.Lawful now where
  pools _ := by
    apply Pool.Custody.lawful_each
    case mend => exact fun _ _ reusable => reusable
    case checkOut => exact fun _ fit => fit
    all_goals intros; trivial
  detached _ := trivial

theorem opening_sane : sane.Opening where
  pools _ := by
    constructor <;> intros
    · rfl
    · trivial
  outside _ := trivial

theorem closes_sane : sane.Closes := by
  constructor <;> intros <;> trivial

/-- In every possible world, what may be lent is believed to work. -/
theorem Possible.sane {world : World} (possible : Possible world) : world.InCustody sane := by
  induction possible with
  | new => exact .new trivial
  | @move world _ move ih =>
      apply ih.move (lawful_sane _) opening_sane
      · apply ih.allows (lawful_sane _) (fun _ => rfl) (fun _ => opening_sane)
        exact fun _ _ _ _ _ _ _ => rfl
      · exact closes_sane

/-! ### What is broken stays away -/

/-- The session with this name is nowhere in the pool where it may be lent, and comes back from
nowhere. -/
def quarantine (index id : Nat) : Custody where
  pool place := .each
    (fun connection => connection.isReusable = true ∧ (place = index → connection.name ≠ id))
    (fun connection => connection.isReusable = true → place = index → connection.name ≠ id)
    (fun _ => True)
  outside _ := True
  serves server := id ≤ server.lastId

variable {index id : Nat}

theorem lawful_quarantine (now : Nat) : (quarantine index id).Lawful now where
  pools place := by
    apply Pool.Custody.lawful_each
    case held_of_fit => exact fun connection fit _ => fit.2
    case checkOut => exact fun connection fit => fit
    case touch => exact fun connection held => held
    case mend => exact fun connection held reusable => ⟨reusable, held reusable⟩
    case broken =>
      intro connection _ reusable
      cases reusable
    case new => exact fun _ => trivial
    case agrees =>
      intro server other agrees served
      change id ≤ other.lastId
      rw [agrees.lastId_eq]
      exact served
    case disconnect => exact fun server connection served _ => served
  detached _ := trivial

/-- A new session has another name. -/
theorem opening_quarantine : (quarantine index id).Opening where
  pools place := by
    constructor
    · intro server served metadata _
      refine ⟨rfl, fun _ same => ?_⟩
      change id ≤ server.lastId at served
      change server.lastId + 1 = id at same
      omega
    · intro server after opens served
      change id ≤ after.lastId
      rw [opens.lastId_eq]
      exact Nat.le_succ_of_le served
  outside _ := trivial

theorem closes_quarantine : (quarantine index id).Closes where
  held before := before
  outside _ := trivial
  serves served _ := served

/-- A pool without the session is in quarantine. -/
theorem inCustody_of_apart {place : Nat} {pool : Pool} (inside : pool.InCustody (sane.pool place))
    (apart : place = index → ∀ connection ∈ pool.connections, connection.name ≠ id) :
    pool.InCustody ((quarantine index id).pool place) where
  idle connection queued := by
    refine ⟨inside.idle connection queued, fun here => ?_⟩
    exact apart here connection (List.mem_append_left _ (List.mem_append_left _ queued))
  leases lease valid _ here := by
    apply apart here
    exact List.mem_append_left _ (List.mem_append_right _ (List.mem_map_of_mem valid))
  tasks := by
    refine ⟨rfl, fun task present => ?_⟩
    have carried := inside.tasks.2 task present
    have away (connection : Connection) (member : connection ∈ task.connections) :
        place = index → connection.name ≠ id := fun here =>
      apart here connection
        (List.mem_append_right _ (List.mem_flatMap.mpr ⟨task, present, member⟩))
    obtain ⟨agent, phase, due⟩ := task
    cases phase with
    | borrowProbe checkout connection => exact ⟨carried, away _ (List.mem_singleton_self _)⟩
    | returnProbe connection => exact ⟨carried, away _ (List.mem_singleton_self _)⟩
    | sweeping sweep current pending =>
        constructor
        · intro connection member
          refine ⟨carried.1 connection member, away connection ?_⟩
          rcases List.mem_append.mp member with kept | later
          · exact List.mem_append_left _ (List.mem_append_left _ kept)
          · exact List.mem_append_right _ later
        · intro connection evicted _
          exact away connection (List.mem_append_left _ (List.mem_append_right _ evicted))
    | _ => trivial

/-- A session that a pool has has been opened. -/
theorem Possible.name_le_lastId {world : World} (possible : Possible world) {pool : Pool}
    (member : pool ∈ world.pools) {connection : Connection}
    (present : connection ∈ pool.connections) : connection.name ≤ world.server.lastId := by
  obtain ⟨history, settled, rfl⟩ := possible.exists_settled
  have once := settled.places_eq connection.name
  have closed := settled.closed_le connection.name
  have here : 0 < pool.places connection.name :=
    List.count_pos_iff.mpr (List.mem_map_of_mem present)
  have some := List.le_sum_of_mem (List.mem_map_of_mem (f := (·.places connection.name)) member)
  by_contra beyond
  simp only [places, Server.places, if_pos (Nat.lt_of_not_le beyond)] at once
  split at once <;> omega

/-! ### What breaks -/

/-- The lease through which a statement is sent. -/
def Request.sends? : Request → Option Handle
  | .execute handle _ | .query handle _ => some handle
  | _ => none

/-- A move with which a pool learns that the session with this name is broken. -/
inductive FindsBroken (world : World) (index : Nat) (pool : Pool) (id : Nat) : Move → Prop where
  /-- A probe of the session fails, before it is lent, on its way back, or in a sweep. -/
  | probed {agent : Agent} {task : Task} {connection : Connection}
      (waits : pool.task? agent = some task) (ready : pool.isReady world.now task = true)
      (probes : task.probed? = some connection) (name : connection.name = id)
      (dead : world.server.answers connection.session = false) :
      FindsBroken world index pool id (.act (.resume (.inPool index agent)))
  /-- A statement through the lease of the session loses the connection. -/
  | lost {request : Request} {ticket : Nat} {lease : Lease} {error : SessionError}
      (sends : request.sends? = some ⟨index, ticket⟩) (good : pool.lease? ticket = some lease)
      (name : lease.connection.name = id)
      (fails : (world.call request).2 =
        some ⟨.inPool index (.caller world.callers), .error (.pool (.session error))⟩)
      (connectivity : error.isConnectivity = true) :
      FindsBroken world index pool id (.act (.call request))
  /-- The caller says that the session is of no use. -/
  | invalidated {ticket : Nat} {lease : Lease}
      (accepted : world.accepts (.invalidate ⟨index, ticket⟩) = true)
      (good : pool.lease? ticket = some lease) (name : lease.connection.name = id) :
      FindsBroken world index pool id (.act (.call (.invalidate ⟨index, ticket⟩)))

section Breaks

variable {world : World} {pool : Pool} (possible : Possible world)
  (found : world.pools[index]? = some pool)

include possible found

/-- Apart from what an agent has in hand, a pool does not have the session that the agent probes. -/
theorem unpark_inCustody {agent : Agent} {task : Task} {connection : Connection}
    (waits : pool.task? agent = some task) (member : connection ∈ task.connections) :
    (pool.unpark agent).InCustody ((quarantine index connection.name).pool index) := by
  have distinct := possible.nodup_names (List.mem_of_getElem? found)
  have perm := (Pool.connections_perm_unpark waits).map (·.name)
  rw [perm.nodup_iff, List.map_append, List.nodup_append] at distinct
  apply inCustody_of_apart ((possible.sane.pools index pool found).unpark agent)
  intro _ other rest same
  exact distinct.2.2 _ (List.mem_map_of_mem member) _ (List.mem_map_of_mem rest) same.symm

/-- Apart from its lease, a pool does not have a session that it has lent. -/
theorem endLease_inCustody {ticket : Nat} {lease : Lease}
    (good : pool.lease? ticket = some lease) :
    (pool.endLease ticket).InCustody ((quarantine index lease.connection.name).pool index) := by
  have distinct := possible.nodup_names (List.mem_of_getElem? found)
  have perm := (Pool.connections_perm_endLease good).map (·.name)
  rw [perm.nodup_iff, List.map_cons, List.nodup_cons] at distinct
  apply inCustody_of_apart ((possible.sane.pools index pool found).endLease ticket)
  intro _ other rest same
  exact distinct.1 (same ▸ List.mem_map_of_mem rest)

/-- An agent whose probe fails can go on with the session in quarantine. -/
theorem hands_of_dead {agent : Agent} {task : Task} {connection : Connection}
    (waits : pool.task? agent = some task) (probes : task.probed? = some connection)
    (dead : world.server.answers connection.session = false) :
    ((quarantine index connection.name).pool index).hands world.server task := by
  have carried := (possible.sane.pools index pool found).tasks.2 task
    (List.mem_of_find?_eq_some waits)
  have distinct := possible.nodup_names (List.mem_of_getElem? found)
  rw [((Pool.connections_perm_unpark waits).map (·.name)).nodup_iff, List.map_append,
    List.nodup_append] at distinct
  have distinct := distinct.1
  have judged : ((quarantine index connection.name).pool index).held connection.broken ∧
      (world.server.answers connection.session = true →
        ((quarantine index connection.name).pool index).fit connection) := by
    constructor
    · intro reusable
      cases reusable
    · intro alive
      rw [dead] at alive
      cases alive
  obtain ⟨worker, phase, due⟩ := task
  cases phase with
  | borrowProbe checkout other =>
      cases probes
      exact judged
  | returnProbe other =>
      cases probes
      exact judged
  | sweeping sweep current pending =>
      cases probes
      change (List.map (·.name)
        (sweep.kept ++ sweep.evicted ++ connection :: pending)).Nodup at distinct
      have perm : (sweep.kept ++ sweep.evicted ++ connection :: pending).Perm
          (connection :: (sweep.kept ++ sweep.evicted ++ pending)) := List.perm_middle
      rw [(perm.map (·.name)).nodup_iff, List.map_cons, List.nodup_cons] at distinct
      -- The agent may put back the rest of what it has drained, which bears other names.
      have away (other : Connection)
          (member : other ∈ sweep.kept ++ sweep.evicted ++ pending) :
          other.name ≠ connection.name := by
        intro same
        exact distinct.1 (same ▸ List.mem_map_of_mem member)
      refine ⟨?_, judged.1, ?_, ?_⟩
      · intro other evicted _ _
        exact away other (List.mem_append_left _ (List.mem_append_right _ evicted))
      · intro other member
        rcases List.mem_append.mp member with kept | later
        · refine ⟨carried.1 other (List.mem_append_left _ kept), fun _ => ?_⟩
          exact away other (List.mem_append_left _ (List.mem_append_left _ kept))
        · refine ⟨carried.1 other (List.mem_append_right _ (List.mem_cons_of_mem _ later)),
            fun _ => ?_⟩
          exact away other (List.mem_append_right _ later)
      · intro alive
        rw [dead] at alive
        cases alive
  | _ => cases probes

end Breaks

end World

end SessionPool

import SessionPool.Proofs.Balance.Run
import SessionPool.Proofs.Disposal.Operations

/-!
# Where sessions go in a world

A session is in a pool, outside of all pools, disconnected, or still to be opened. Whatever is done
in a pool changes the places of sessions only between that pool, the outside and the server, and
leaves each session in as many places as before.
-/

namespace SessionPool

/-- A sum changes with the entry that is changed. -/
theorem sum_map_modify {α : Type} (weight : α → Nat) (change : α → α) {entries : List α}
    {index : Nat} {entry : α} (found : entries[index]? = some entry) :
    ((entries.modify index change).map weight).sum + weight entry =
      (entries.map weight).sum + weight (change entry) := by
  induction entries generalizing index with
  | nil => simp at found
  | cons first rest ih =>
      cases index with
      | zero =>
          obtain rfl : first = entry := by simpa using found
          simp
          omega
      | succ index =>
          have later := ih (List.getElem?_cons_succ ▸ found)
          simp only [List.modify_succ_cons, List.map_cons, List.sum_cons]
          omega

namespace Server

variable (server : Server) (session : Session) (statement : String)

theorem run_disconnects : (server.run session statement).1.disconnects = server.disconnects := by
  unfold run
  split <;> rfl

theorem run_lastId : (server.run session statement).1.lastId = server.lastId := by
  unfold run
  split <;> rfl

theorem execute_disconnects :
    (server.execute session statement).1.disconnects = server.disconnects := by
  have ran := server.run_disconnects session statement
  unfold execute
  split <;> rename_i answer <;> rwa [answer] at ran

theorem execute_lastId : (server.execute session statement).1.lastId = server.lastId := by
  have ran := server.run_lastId session statement
  unfold execute
  split <;> rename_i answer <;> rwa [answer] at ran

theorem query_disconnects :
    (server.query session statement).1.disconnects = server.disconnects := by
  have ran := server.run_disconnects session statement
  unfold query
  split <;> rename_i answer <;> rwa [answer] at ran

theorem query_lastId : (server.query session statement).1.lastId = server.lastId := by
  have ran := server.run_lastId session statement
  unfold query
  split <;> rename_i answer <;> rwa [answer] at ran

end Server

namespace Pool

/-- No two leases of a sound pool have the same ticket. -/
theorem Sound.eq_of_ticket_eq {callers : Nat} {pool : Pool} (sound : Sound callers pool)
    {ticket : Nat} {lease : Lease} (found : pool.lease? ticket = some lease) :
    ∀ other ∈ pool.leases, other.ticket = ticket → other = lease := by
  intro other member same
  rcases sound with filling | balanced
  · rw [filling.lease?_eq ticket] at found
    contradiction
  · exact balanced.eq_of_ticket_eq found member same

/-- The order in which agents wait is none of the places of a session. -/
theorem places_reorder (pool : Pool) (tasks : List Task) (id : Nat) :
    (pool.reorder tasks).places id = pool.places id := by
  unfold reorder
  split
  case isFalse => rfl
  case isTrue same =>
    have perm := (List.isPerm_iff.mp same).flatMap_right Task.connections
    have counted := (perm.map (·.name)).count_eq id
    simp only [places, connections, List.map_append, List.count_append, counted]

namespace Job

/-- The sessions that a caller brings along. -/
def given : Job → List Nat
  | .adopt session => [session.id]
  | _ => []

/-- A call loses no session. -/
theorem conserves {callers caller : Nat} {site : Site} (sound : Sound callers site.pool)
    (job : Job) : (job.work caller site).Conserves site job.given := by
  cases job with
  | acquire timeout => exact Site.checkout_conserves caller _
  | get => exact Site.checkout_conserves caller _
  | tryGet => exact Site.checkout_conserves caller _
  | adopt session => exact Site.adopt_conserves session
  | sweep => exact Site.sweep_conserves _
  | shutdown thenDrop => exact Site.shutdown_conserves _ thenDrop
  | release ticket => exact Site.release_conserves _ ticket
  | invalidate ticket => exact Site.invalidate_conserves _ ticket
  | discard ticket => exact Site.discard_conserves _ ticket
  | detach ticket => exact Site.detach_conserves ticket
  | execute ticket statement =>
      exact Site.throughLease_conserves (fun _ => sound.eq_of_ticket_eq)
        (fun session => site.server.execute_disconnects session statement)
        (fun session => site.server.execute_lastId session statement) fun _ => rfl
  | query ticket statement =>
      exact Site.throughLease_conserves (fun _ => sound.eq_of_ticket_eq)
        (fun session => site.server.query_disconnects session statement)
        (fun session => site.server.query_lastId session statement) fun _ => rfl

end Job

end Pool

namespace World

/-! ### Places -/

/-- In how many places of one pool a session is. -/
def placesIn (world : World) (index id : Nat) : Nat :=
  match world.pools[index]? with
  | some pool => pool.places id
  | none => 0

/-- The names of the sessions that belong to no pool. -/
def outsideIds (world : World) : List Nat := world.outside.map (·.id)

/-- In how many places a session is altogether. -/
def places (world : World) (id : Nat) : Nat :=
  (world.pools.map (·.places id)).sum + world.outsideIds.count id + world.server.places id

/-- Something is done in one pool, for which some sessions are taken from the outside and some are
put there. -/
structure Carries (before : World) (index : Nat) (given left : List Nat) (after : World) :
    Prop where
  given_le (id : Nat) : given.count id ≤ before.outsideIds.count id
  outside_eq (id : Nat) :
    after.outsideIds.count id + given.count id = before.outsideIds.count id + left.count id
  inside_eq (id : Nat) :
    after.placesIn index id + after.server.places id + left.count id =
      before.placesIn index id + before.server.places id + given.count id
  others_eq (other : Nat) (elsewhere : other ≠ index) (id : Nat) :
    after.placesIn other id = before.placesIn other id
  places_eq (id : Nat) : after.places id = before.places id
  disconnects_le (id : Nat) : before.server.disconnectCount id ≤ after.server.disconnectCount id
  lastId_le : before.server.lastId ≤ after.server.lastId

variable {world : World} {index : Nat}

/-- What moves no session. -/
theorem Carries.still {after : World}
    (pools : ∀ other id, after.placesIn other id = world.placesIn other id)
    (sum : ∀ id, (after.pools.map (·.places id)).sum = (world.pools.map (·.places id)).sum)
    (outside : after.outsideIds = world.outsideIds)
    (disconnects : after.server.disconnects = world.server.disconnects)
    (lastId : after.server.lastId = world.server.lastId) : Carries world index [] [] after := by
  have server (id : Nat) : after.server.places id = world.server.places id := by
    simp only [Server.places, Server.disconnectCount, disconnects, lastId]
  constructor
  · exact fun id => Nat.zero_le _
  · intro id
    rw [outside]
  · intro id
    rw [pools, server]
  · exact fun other _ id => pools other id
  · intro id
    simp only [places, sum, outside, server]
  · intro id
    simp only [Server.disconnectCount, disconnects]
    exact Nat.le_refl _
  · exact Nat.le_of_eq lastId.symm

section Modify

variable {change : Pool → Pool} (keeps : ∀ pool, world.pools[index]? = some pool →
  ∀ id, (change pool).places id = pool.places id)

include keeps

/-- A change of one pool that moves no session moves none in any pool. -/
theorem placesIn_modify (other id : Nat) :
    placesIn { world with pools := world.pools.modify index change } other id =
      world.placesIn other id := by
  simp only [placesIn]
  by_cases here : index = other
  · subst here
    rw [List.getElem?_modify_eq]
    cases found : world.pools[index]? with
    | none => rfl
    | some pool => exact keeps pool found id
  · rw [List.getElem?_modify_ne _ _ here]

theorem sum_modify (id : Nat) :
    ((world.pools.modify index change).map (·.places id)).sum =
      (world.pools.map (·.places id)).sum := by
  cases found : world.pools[index]? with
  | none => rw [List.modify_eq_self (List.getElem?_eq_none_iff.mp found)]
  | some pool =>
      have sum := sum_map_modify (·.places id) change found
      rw [keeps pool found id] at sum
      exact Nat.add_right_cancel sum

theorem Carries.modify {other : Nat} :
    Carries world other [] [] { world with pools := world.pools.modify index change } :=
  .still (placesIn_modify keeps) (sum_modify keeps) rfl rfl rfl

end Modify

/-! ### Work in a pool -/

/-- What is handed out is outside from then on. -/
theorem outsideIds_keepDetached (answer : Option Pool.Answer) :
    (world.keepDetached answer).outsideIds = Pool.handedOut answer ++ world.outsideIds := by
  rcases answer with _ | error | reply
  · rfl
  · rfl
  · cases reply <;> rfl

/-- Work in a pool moves sessions between that pool, the outside and the server. The sessions that
the worker brings along come from the outside of an earlier world. -/
theorem Carries.callPool {before : World} {pool : Pool} (work : Site → Turn) {given : List Nat}
    (found : world.pools[index]? = some pool)
    (conserves : (work ⟨world.now, world.server, pool⟩).Conserves
      ⟨world.now, world.server, pool⟩ given)
    (pools : ∀ other id, before.placesIn other id = world.placesIn other id)
    (sum : ∀ id, (before.pools.map (·.places id)).sum = (world.pools.map (·.places id)).sum)
    (server : before.server = world.server)
    (brought : ∀ id, before.outsideIds.count id = world.outsideIds.count id + given.count id) :
    Carries before index given
      (Pool.handedOut (work ⟨world.now, world.server, pool⟩).2)
      (world.callPool index work).1 := by
  have afterPools : (world.callPool index work).1.pools = world.pools.modify index
      fun pool => (work ⟨world.now, world.server, pool⟩).1.pool := world.pools_callPool
  have afterServer : (world.callPool index work).1.server =
      (work ⟨world.now, world.server, pool⟩).1.server := by
    simp only [World.callPool, inPool, found, server_keepDetached]
  have afterOutside (id : Nat) : (world.callPool index work).1.outsideIds.count id =
      world.outsideIds.count id +
        (Pool.handedOut (work ⟨world.now, world.server, pool⟩).2).count id := by
    simp only [World.callPool, inPool, found, outsideIds_keepDetached, List.count_append]
    exact Nat.add_comm _ _
  have inside (id : Nat) : (world.callPool index work).1.placesIn index id =
      (work ⟨world.now, world.server, pool⟩).1.pool.places id := by
    simp only [placesIn, afterPools, List.getElem?_modify_eq, found]
    rfl
  have insideBefore (id : Nat) : before.placesIn index id = pool.places id := by
    rw [pools]
    simp only [placesIn, found]
  have moved := conserves.places_eq
  constructor
  case given_le =>
    intro id
    rw [brought]
    exact Nat.le_add_left _ _
  case outside_eq =>
    intro id
    rw [afterOutside, brought]
    omega
  case inside_eq =>
    intro id
    rw [inside, insideBefore, afterServer, server]
    exact moved id
  case others_eq =>
    intro other elsewhere id
    rw [pools]
    simp only [placesIn, afterPools, List.getElem?_modify_ne _ _ (Ne.symm elsewhere)]
  case places_eq =>
    intro id
    have changed := sum_map_modify (·.places id)
      (fun pool => (work ⟨world.now, world.server, pool⟩).1.pool) found
    have moved := moved id
    have brought := brought id
    simp only [places, afterPools, afterServer, afterOutside, sum, server] at changed moved ⊢
    omega
  case disconnects_le =>
    rw [afterServer, server]
    exact conserves.disconnects_le
  case lastId_le =>
    rw [afterServer, server]
    exact conserves.lastId_le

/-! ### Other changes -/

/-- A pool without connections is no place for a session. -/
theorem placesIn_concat {pool : Pool} (bare : pool.connections = []) (other id : Nat) :
    placesIn { world with pools := world.pools ++ [pool] } other id = world.placesIn other id := by
  have nowhere : pool.places id = 0 := by rw [Pool.places, bare]; rfl
  simp only [placesIn]
  rcases Nat.lt_trichotomy other world.pools.length with inside | last | beyond
  · rw [List.getElem?_append_left inside]
  · rw [last]
    simp [nowhere]
  · rw [List.getElem?_eq_none (by simp; omega), List.getElem?_eq_none (by omega)]

/-- Sessions that somebody uses without a pool stay where they are. -/
theorem Carries.withSession {before : World} {holder : Holder}
    {use : Session → World × Option Answer} (unused : Carries before index [] [] world)
    (used : ∀ session, Carries before index [] [] (use session).1) :
    Carries before index [] [] (world.withSession holder use).1 := by
  unfold World.withSession
  split
  · exact used _
  · exact unused

/-- A session that is opened outside of all pools was one of those to come. -/
theorem Carries.opens {after : World} (pools : after.pools = world.pools)
    (outside : after.outsideIds = (world.server.lastId + 1) :: world.outsideIds)
    (disconnects : after.server.disconnects = world.server.disconnects)
    (lastId : after.server.lastId = world.server.lastId + 1) :
    Carries world 0 [] [world.server.lastId + 1] after := by
  have same (index id : Nat) : after.placesIn index id = world.placesIn index id := by
    simp only [placesIn, pools]
  have server (id : Nat) : after.server.places id + [world.server.lastId + 1].count id =
      world.server.places id := by
    simp only [Server.places, Server.disconnectCount, disconnects, lastId, List.count_singleton,
      beq_iff_eq]
    split <;> split <;> split <;> omega
  constructor
  case given_le => exact fun id => Nat.zero_le _
  case outside_eq =>
    intro id
    rw [outside, List.count_cons, List.count_singleton]
    rfl
  case inside_eq =>
    intro id
    have moved := server id
    rw [same, List.count_nil]
    omega
  case others_eq => exact fun other _ id => same other id
  case places_eq =>
    intro id
    have moved := server id
    simp only [places, pools, outside, List.count_cons, List.count_nil] at moved ⊢
    omega
  case disconnects_le =>
    intro id
    simp only [Server.disconnectCount, disconnects]
    exact Nat.le_refl _
  case lastId_le =>
    rw [lastId]
    exact Nat.le_succ _

end World

end SessionPool

import SessionPool.Proofs.Handles.Endings
import SessionPool.Proofs.Standing

/-!
# What is done through a handle

As long as a lease is good, statements can be sent through its handle, and each of them shows
whether the connection is lost; the pool learns of that, and of nothing else. The lease stays good
until a call ends it, whatever happens meanwhile. From then on the handle is worth nothing, for no
lease is ever given out under its ticket again.
-/

namespace SessionPool.World

open Pool (Job Balanced Sound)

/-! ### Uses of a handle -/

/-- The handle of the lease that a call ends. -/
def Request.ends? : Request → Option Handle
  | .release handle | .invalidate handle | .discard handle | .detach handle => some handle
  | _ => none

/-- Whether a call is made that gives the handle back, throws it away or keeps its session. -/
def Move.ends (world : World) (handle : Handle) : Move → Bool
  | .act (.call request) => request.ends? == some handle && world.accepts request
  | _ => false

/-- The handle through which a statement is sent. -/
def Move.sends? : Move → Option Handle
  | .act (.call request) => request.sends?
  | _ => none

/-- What a statement has come to, if it has been sent. -/
def Event.result? (event : Event) : Option (Except SessionError Unit) :=
  match event.answer with
  | .ok _ => some (.ok ())
  | .error (.pool (.session error)) => some (.error error)
  | .error _ => none

/-- What a statement has come to that is sent through the handle. -/
def Move.result? (world : World) (handle : Handle) (move : Move) :
    Option (Except SessionError Unit) :=
  if move.sends? = some handle then (move.event? world).bind Event.result? else none

/-- Whether the result of a statement is that the connection is lost. A statement that is rejected
leaves it as it is. -/
def loses : Except SessionError Unit → Bool
  | .error (.connectionLost _) | .error (.io _) => true
  | _ => false

theorem loses_error (error : SessionError) : loses (.error error) = error.isConnectivity := by
  cases error <;> rfl

/-- The results of the statements that are sent through a handle in the course of a run. -/
def results (handle : Handle) : World → List Move → List (Except SessionError Unit)
  | _, [] => []
  | world, move :: later =>
      (move.result? world handle).toList ++ results handle (world.move move) later

/-- How often a handle is given back, thrown away or used up in the course of a run. -/
def endings (handle : Handle) : World → List Move → Nat
  | _, [] => 0
  | world, move :: later =>
      (move.ends world handle).toNat + endings handle (world.move move) later

section Handle

variable {world : World} {handle : Handle} {request : Request}

theorem Request.job?_of_ends (ends : request.ends? = some handle) :
    ∃ job : Job, request.job? = some (handle.pool, job) ∧ job.ends? = some handle.ticket := by
  cases request <;> cases ends <;> exact ⟨_, rfl, rfl⟩

/-- No session is looked up for a call that ends a lease. -/
theorem Request.asks?_eq_job? (ends : request.ends? = some handle) :
    request.asks? world = request.job? := by
  cases request <;> cases ends <;> rfl

theorem Request.handle?_of_sends (sends : request.sends? = some handle) :
    request.handle? = some handle := by
  cases request <;> cases sends <;> rfl

/-- A statement is sent through the ticket of the handle. -/
theorem Request.job?_of_sends (sends : request.sends? = some handle) :
    ∃ job : Job, request.job? = some (handle.pool, job) ∧ job.ticket? = some handle.ticket ∧
      job.rejection = .error .invalidHandle := by
  cases request <;> cases sends <;> exact ⟨_, rfl, rfl, rfl⟩

theorem Request.accepts_of_sends (sends : request.sends? = some handle) :
    world.accepts request = world.isFree (.lease handle) := by
  cases request <;> cases sends <;> rfl

theorem Request.thread_of_sends (sends : request.sends? = some handle) :
    request.thread world = .inPool handle.pool (.caller world.callers) := by
  cases request <;> cases sends <;> rfl

theorem Request.thread_of_job {index : Nat} {job : Job}
    (asks : request.job? = some (index, job)) :
    request.thread world = .inPool index (.caller world.callers) := by
  cases request <;> cases asks <;> rfl

/-- What the turn of a call makes of the world. -/
theorem call_eq_turn {index : Nat} {job : Job} {pool : Pool}
    (accepted : world.accepts request = true) (asks : request.job? = some (index, job))
    (found : world.pools[index]? = some pool) :
    world.call request = (({ world with
        callers := world.callers + 1
        server := (world.turn pool job).1.server
        pools := world.pools.set index (world.turn pool job).1.pool } : World).keepDetached
          (world.turn pool job).2,
      ending index (.caller world.callers) (world.turn pool job)) := by
  rw [call_eq_report accepted, begin_of_job asks, Request.thread_of_job asks]
  simp only [report, World.callPool, inPool, found]
  rfl

/-- An event of a call is one of the thread that works on it. -/
theorem thread_of_call {event : Event} (ended : (world.call request).2 = some event) :
    event.thread = request.thread world := by
  by_cases accepted : world.accepts request = true
  · rw [call_eq_report accepted] at ended
    obtain ⟨answer, _, rfl⟩ := Option.map_eq_some_iff.mp ended
    rfl
  · have refused : world.call request = (world, none) := if_neg accepted
    rw [refused] at ended
    cases ended

/-- A statement has a result only if it was a turn in the pool. -/
theorem Move.result?_eq_none {move : Move}
    (elsewhere : IsElsewhere handle.pool (move.event? world)) :
    move.result? world handle = none := by
  rw [result?]
  split
  case isFalse => rfl
  case isTrue sends =>
    cases ended : move.event? world with
    | none => rfl
    | some event =>
        rw [ended] at elsewhere
        cases move with
        | act action =>
            cases action with
            | call request =>
                obtain ⟨thread, answer⟩ := event
                have own : thread = _ := thread_of_call ended
                rw [Request.thread_of_sends sends] at own
                exact absurd (by rw [own]) (elsewhere (.caller world.callers) answer)
            | _ => cases sends
        | _ => cases sends

theorem Move.result?_of_sends {move : Move} (sends : move.sends? = some handle) :
    move.result? world handle = (move.event? world).bind Event.result? :=
  if_pos sends

/-- Whoever does not send a statement has no result of one. -/
theorem Move.result?_of_sends_ne {move : Move} (other : move.sends? ≠ some handle) :
    move.result? world handle = none :=
  if_neg other

end Handle

/-! ### One move -/

/-- The connection of a lease after a move, with the result of the statement that was sent through
the lease by it, if any. -/
structure Uses (before after : Connection) (result? : Option (Except SessionError Unit)) :
    Prop where
  name_eq : after.name = before.name
  id_eq : after.id = before.id
  /-- It may be lent again unless it is known to be lost. -/
  isReusable_eq : after.isReusable = (before.isReusable && !result?.any loses)

theorem Uses.none (connection : Connection) : Uses connection connection none :=
  ⟨rfl, rfl, by simp⟩

/-- A statement shows whether its connection is lost. -/
theorem uses_observed {α : Type} (connection : Connection) (result : Except SessionError α) :
    Uses connection (Site.observed connection result) (some (result.map fun _ => ())) := by
  cases result with
  | ok rows => exact ⟨rfl, rfl, by simp [Site.observed, Except.map, loses]⟩
  | error error =>
      have shows : Site.observed connection (.error error : Except SessionError α) =
          if error.isConnectivity then connection.broken else connection := rfl
      rw [shows]
      cases lost : error.isConnectivity with
      | true => exact ⟨rfl, rfl, by simp [Except.map, loses_error, lost]⟩
      | false => exact ⟨rfl, rfl, by simp [Except.map, loses_error, lost]⟩

/-- A statement through a good lease has a result. -/
theorem throughLease_uses {α : Type} {site : Site} {ticket : Nat} {lease : Lease}
    (good : site.pool.lease? ticket = some lease)
    (send : Server → Session → Server × Except SessionError α) (reply : α → Pool.Reply)
    (index : Nat) (agent : Pool.Agent) :
    ∃ connection, (site.throughLease ticket send reply).1.pool.lease? ticket =
        some { lease with connection } ∧
      Uses lease.connection connection
        ((ending index agent (site.throughLease ticket send reply)).bind Event.result?) := by
  simp only [Site.throughLease, good]
  rcases send site.server lease.connection.session with ⟨server, result⟩
  refine ⟨_, Pool.lease?_updateLease good (Site.observed lease.connection result), ?_⟩
  have used := uses_observed lease.connection result
  cases result with
  | ok rows => exact used
  | error error => exact used

section Move

variable {world : World} {handle : Handle} {lease : Lease}

theorem exists_of_lease? (good : world.lease? handle = some lease) :
    ∃ pool, world.pools[handle.pool]? = some pool ∧ pool.lease? handle.ticket = some lease :=
  Option.bind_eq_some_iff.mp good

theorem lease?_eq {pool : Pool} (found : world.pools[handle.pool]? = some pool) :
    world.lease? handle = pool.lease? handle.ticket := by
  rw [lease?, found, Option.bind_some]

variable (possible : Possible world) (good : world.lease? handle = some lease)

include possible good

/-- A lease is good until a call ends it, whatever becomes of its connection. -/
theorem lease?_move {move : Move} (unended : move.ends world handle = false) :
    ∃ connection, (world.move move).lease? handle = some { lease with connection } ∧
      Uses lease.connection connection (move.result? world handle) := by
  obtain ⟨pool, found, here⟩ := exists_of_lease? good
  have balanced := (possible.sound pool (List.mem_of_getElem? found)).balanced_of_lease here
  have spent := balanced.spent here
  obtain ⟨after, foundAfter, happens⟩ := becomes_move found move
  rw [lease?_eq foundAfter]
  by_cases through : move.handle? = some handle
  case neg =>
    refine ⟨lease.connection, ?_, ?_⟩
    · rw [happens.lease?_eq spent through, here]
    · rw [Move.result?_of_sends_ne]
      · exact .none _
      · intro sends
        cases move with
        | act action =>
            cases action with
            | call request => exact through (Request.handle?_of_sends sends)
            | _ => cases sends
        | _ => cases sends
  case pos =>
    generalize ended : move.event? world = event at happens
    cases happens with
    | nothing elsewhere =>
        refine ⟨lease.connection, here, ?_⟩
        rw [Move.result?_eq_none (by rw [ended]; exact elsewhere)]
        exact .none _
    | @calls request job accepted asks =>
        cases request with
        | release given | invalidate given | discard given | detach given =>
            cases through
            simp [Move.ends, Request.ends?, accepted] at unended
        | execute given statement =>
            cases through
            cases asks
            rw [Move.result?_of_sends rfl, ended]
            exact throughLease_uses here (·.execute · statement) .rows _ _
        | query given statement =>
            cases through
            cases asks
            rw [Move.result?_of_sends rfl, ended]
            exact throughLease_uses here (·.query · statement) .texts _ _
        | probe _ | executeDirectly _ _ | queryDirectly _ _ | disconnect _ => cases asks
        | _ => cases through
    | resumes agent => cases through
    | puts ticket session closes elsewhere =>
        obtain rfl : handle.ticket = ticket := congrArg Handle.ticket (Option.some.inj through).symm
        obtain rfl := closes lease here
        rw [Move.result?_of_sends_ne (by intro sends; cases sends), Pool.putSession, here]
        exact ⟨_, Pool.lease?_updateLease here _, rfl, rfl, by simp [Connection.isReusable]⟩
    | reorders tasks => cases through
    | stirs => cases through

/-- A call that ends a lease leaves the handle worth nothing. -/
theorem lease?_move_of_ends {move : Move} (ends : move.ends world handle = true) :
    (world.move move).lease? handle = none := by
  obtain ⟨pool, found, here⟩ := exists_of_lease? good
  have balanced : Balanced world.callers (world.site pool).pool 0 :=
    (possible.sound pool (List.mem_of_getElem? found)).balanced_of_lease here
  cases move with
  | act action =>
      cases action with
      | call request =>
          obtain ⟨ends, accepted⟩ := Bool.and_eq_true_iff.mp ends
          obtain ⟨job, asks, ending⟩ := Request.job?_of_ends (eq_of_beq ends)
          rw [← Request.asks?_eq_job? (eq_of_beq ends)] at asks
          have foundAfter : (world.move (.act (.call request))).pools[handle.pool]? =
              some (world.turn pool job).1.pool := (call_turn accepted asks found).1
          rw [lease?_eq foundAfter]
          exact balanced.lease?_ends here ending _
      | _ => cases ends
  | _ => cases ends

end Move

/-! ### Runs -/

section Run

variable {world : World} {handle : Handle}

/-- The handle has been worth something, and is so no more. -/
structure IsStale (world : World) (handle : Handle) : Prop where
  lease?_eq : world.lease? handle = none
  spent : ∃ pool, world.pools[handle.pool]? = some pool ∧ pool.Spent world.callers handle.ticket

/-- A lease that has ended does not come back. -/
theorem IsStale.move (isStale : world.IsStale handle) (move : Move) :
    (world.move move).IsStale handle := by
  obtain ⟨stale, pool, found, spent⟩ := isStale
  rw [World.lease?_eq found] at stale
  obtain ⟨after, foundAfter, happens⟩ := becomes_move found move
  refine ⟨?_, after, foundAfter, happens.spent spent⟩
  rw [World.lease?_eq foundAfter]
  generalize move.event? world = event at happens
  cases happens with
  | @calls request job accepted asks =>
      by_cases through : job.ticket? = some handle.ticket
      · rw [turn, Job.work_eq_answer through stale]
        exact stale
      · apply (Site.lease?_work _ through).trans stale
        exact fun _ => Nat.ne_of_gt spent.called
  | puts ticket session closes elsewhere =>
      by_cases same : ticket = handle.ticket
      · rw [same, Pool.putSession, stale]
        exact stale
      · rw [Pool.putSession]
        split
        · exact (Pool.lease?_updateLease_of_ne same _).trans stale
        · exact stale
  | nothing elsewhere => exact stale
  | resumes agent => exact (Site.lease?_resume fun _ waits => spent.isApart waits).trans stale
  | reorders tasks =>
      rw [Pool.reorder]
      split <;> exact stale
  | stirs => exact stale

/-- A call that ends a lease makes its handle stale for ever. -/
theorem isStale_of_ends (possible : Possible world) {lease : Lease}
    (good : world.lease? handle = some lease) {move : Move} (ends : move.ends world handle = true) :
    (world.move move).IsStale handle := by
  obtain ⟨pool, found, here⟩ := exists_of_lease? good
  have balanced := (possible.sound pool (List.mem_of_getElem? found)).balanced_of_lease here
  obtain ⟨after, foundAfter, happens⟩ := becomes_move found move
  exact ⟨lease?_move_of_ends possible good ends, after, foundAfter,
    happens.spent (balanced.spent here)⟩

/-- What the caller is told that uses a stale handle. Only to throw it away is no mistake. -/
def Request.rejection : Request → Answer
  | .discard _ => .ok (.pool .done)
  | _ => .error (.pool .invalidHandle)

/-- A call through a stale handle does nothing. -/
theorem IsStale.call_eq (isStale : world.IsStale handle) {request : Request}
    (through : request.handle? = some handle) :
    world.call request = ({ world with callers := world.callers + 1 },
      some ⟨request.thread world, request.rejection⟩) := by
  obtain ⟨stale, pool, found, spent⟩ := isStale
  have free : world.isFree (.lease handle) = true := by
    rw [isFree, session?, stale]
    exact decide_eq_true (List.getElem?_eq_some_iff.mp found).1
  let numbered : World := { world with callers := world.callers + 1 }
  have none : numbered.session? (.lease handle) = none := congrArg (Option.map _) stale
  have direct {use : Session → World × Option Answer} (accepted : world.accepts request = true)
      (does : numbered.begin world.callers request = numbered.withSession (.lease handle) use)
      (told : request.rejection = .error (.pool .invalidHandle)) :
      world.call request = (numbered, some ⟨request.thread world, request.rejection⟩) := by
    rw [call_eq_report accepted, does, withSession, none, told]
    rfl
  rw [World.lease?_eq found] at stale
  have rejects {job : Job} (asks : request.job? = some (handle.pool, job))
      (ticket : job.ticket? = some handle.ticket) (accepted : world.accepts request = true)
      (told : request.rejection = ofPool job.rejection) :
      world.call request = (numbered, some ⟨request.thread world, request.rejection⟩) := by
    have idle : world.turn pool job = (world.site pool).answer job.rejection :=
      Job.work_eq_answer ticket stale _
    have same : world.pools.set handle.pool pool = world.pools := by
      obtain ⟨inside, rfl⟩ := List.getElem?_eq_some_iff.mp found
      exact List.set_getElem_self inside
    rw [call_eq_turn accepted asks found, idle, Request.thread_of_job asks, told]
    simp only [Site.answer, site, same]
    cases job <;> rfl
  cases request with
  | release _ | invalidate _ | discard _ | detach _ | execute _ _ | query _ _ =>
      cases through
      exact rejects rfl rfl free rfl
  | probe holder | executeDirectly holder statement | queryDirectly holder statement
  | disconnect holder =>
      cases holder with
      | outside id => cases through
      | lease given =>
          cases through
          exact direct free rfl rfl
  | _ => cases through

end Run

end SessionPool.World

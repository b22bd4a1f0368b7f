import SessionPool.Proofs.Accounting
import SessionPool.Proofs.Custody.Run
import SessionPool.Proofs.Disposal.Run

/-!
# The ledger

The server has open what it has opened and was never asked to disconnect. Nobody asks it to
disconnect a session that it has not opened, and whoever holds a session that is not connected any
more can tell that an owner has disconnected it. The ledger says this of all sessions, up to the
last one that has been opened.
-/

namespace SessionPool

namespace Server

/-- A server that has open, once each, what it has opened and was never asked to disconnect. -/
structure Honest (server : Server) : Prop where
  nodup : server.openIds.Nodup
  mem_iff (id : Nat) : id ∈ server.openIds ↔
    0 < id ∧ id ≤ server.lastId ∧ server.disconnectCount id = 0
  unopened (id : Nat) (beyond : server.lastId < id) : server.disconnectCount id = 0

theorem honest_new : Honest .new where
  nodup := .nil
  mem_iff id := by
    constructor
    · intro absent
      cases absent
    · rintro ⟨positive, opened, _⟩
      exact absurd opened (Nat.not_le_of_lt positive)
  unopened id _ := rfl

namespace Honest

variable {server : Server} (honest : server.Honest)

include honest

theorem agrees {other : Server} (agrees : server.Agrees other) : other.Honest := by
  obtain ⟨lastId, openIds, disconnects⟩ := agrees
  constructor
  · rw [openIds]
    exact honest.nodup
  · intro id
    rw [openIds, lastId, disconnectCount, disconnects]
    exact honest.mem_iff id
  · intro id beyond
    rw [disconnectCount, disconnects]
    exact honest.unopened id (lastId ▸ beyond)

/-- The session that is opened has never been disconnected. -/
theorem opens {after : Server} (opens : server.Opens after) : after.Honest := by
  obtain ⟨lastId, openIds, disconnects⟩ := opens
  have never := honest.unopened (server.lastId + 1) (Nat.lt_succ_self _)
  constructor
  · rw [openIds, List.nodup_cons]
    refine ⟨fun already => ?_, honest.nodup⟩
    exact Nat.not_succ_le_self _ ((honest.mem_iff _).mp already).2.1
  · intro id
    rw [openIds, lastId, disconnectCount, disconnects, List.mem_cons, honest.mem_iff]
    constructor
    · rintro (rfl | ⟨positive, opened, undisturbed⟩)
      · exact ⟨Nat.succ_pos _, Nat.le_refl _, never⟩
      · exact ⟨positive, Nat.le_succ_of_le opened, undisturbed⟩
    · rintro ⟨positive, opened, undisturbed⟩
      rcases Nat.le_succ_iff.mp opened with before | last
      · exact .inr ⟨positive, before, undisturbed⟩
      · exact .inl last
  · intro id beyond
    rw [disconnectCount, disconnects]
    exact honest.unopened id (by omega)

/-- A session that is disconnected is not open any more, if it has been opened. -/
theorem disconnect {session : Session} (opened : session.id ≤ server.lastId)
    (known : session.connected = false → 0 < server.disconnectCount session.id) :
    (server.disconnect session).Honest := by
  have openIds (id : Nat) : id ∈ (server.disconnect session).openIds ↔
      id ≠ session.id ∧ id ∈ server.openIds := by
    cases connected : session.connected with
    | true =>
        simp only [Server.disconnect, connected, if_true]
        exact honest.nodup.mem_erase_iff
    | false =>
        simp only [Server.disconnect, connected, Bool.false_eq_true, if_false]
        refine ⟨fun present => ⟨?_, present⟩, And.right⟩
        rintro rfl
        have never := ((honest.mem_iff _).mp present).2.2
        exact absurd never (Nat.ne_of_gt (known connected))
  constructor
  · unfold Server.disconnect
    dsimp only
    split
    · exact honest.nodup.erase _
    · exact honest.nodup
  · intro id
    rw [openIds, honest.mem_iff, server.disconnectCount_disconnect]
    change _ ↔ 0 < id ∧ id ≤ server.lastId ∧ _
    by_cases same : session.id = id
    · simp [same]
    · simp [same, Ne.symm same]
  · intro id beyond
    have beyondBefore : server.lastId < id := beyond
    rw [server.disconnectCount_disconnect, honest.unopened id beyondBefore, if_neg]
    omega

end Honest

end Server

/-- A session that has been opened and, if it is not connected any more, disconnected by an
owner. -/
structure Session.Traced (bound : Nat) (closed : List Nat) (session : Session) : Prop where
  opened : session.id ≤ bound
  closed_mem (ended : session.connected = false) : session.id ∈ closed

theorem Session.Traced.mono {bound later : Nat} {closed more : List Nat} {session : Session}
    (traced : session.Traced bound closed) (le : bound ≤ later) (subset : closed ⊆ more) :
    session.Traced later more where
  opened := Nat.le_trans traced.opened le
  closed_mem ended := subset (traced.closed_mem ended)

namespace World

open Pool (Agent Task)

/-! ### The ledger -/

/-- Every session has been opened, and those that are not connected any more are among those that
owners have disconnected. -/
def ledger (bound : Nat) (closed : List Nat) : Custody where
  pool _ := .each (·.session.Traced bound closed) (·.session.Traced bound closed) fun _ => True
  outside := Session.Traced bound closed
  serves server := server.lastId = bound ∧ server.Honest ∧
    ∀ id ∈ closed, 0 < server.disconnectCount id

/-- The session that its owner disconnects with a move. -/
def Move.closes (world : World) : Move → List Nat
  | .act action => action.closes world
  | _ => []

theorem History.world_move (history : History) (move : Move) :
    (history.move move).world = history.world.move move := by
  cases move <;> rfl

theorem History.closed_move (history : History) (move : Move) :
    (history.move move).closed = move.closes history.world ++ history.closed := by
  cases move <;> rfl

variable {bound later : Nat} {closed : List Nat}

/-- Whoever disconnects a session in the ledger, the server has open what it should. -/
theorem serves_disconnect {server : Server} (served : (ledger bound closed).serves server)
    {session : Session} (traced : session.Traced bound closed) :
    (ledger bound (session.id :: closed)).serves (server.disconnect session) := by
  obtain ⟨lastId, honest, disconnected⟩ := served
  refine ⟨lastId, ?_, ?_⟩
  · apply honest.disconnect (lastId ▸ traced.opened)
    exact fun ended => disconnected _ (traced.closed_mem ended)
  · intro id member
    rw [server.disconnectCount_disconnect]
    rcases List.mem_cons.mp member with rfl | before
    · rw [if_pos rfl]
      exact Nat.succ_pos _
    · exact Nat.lt_of_lt_of_le (disconnected id before) (Nat.le_add_right _ _)

/-- A session that is opened is in the ledger if that reaches one further. -/
theorem serves_opens {server after : Server} (served : (ledger bound closed).serves server)
    (opens : server.Opens after) : (ledger (bound + 1) closed).serves after ∧
      Session.Traced (bound + 1) closed ⟨server.lastId + 1, true⟩ := by
  obtain ⟨lastId, honest, disconnected⟩ := served
  constructor
  · refine ⟨opens.lastId_eq.trans (congrArg (· + 1) lastId), honest.opens opens, ?_⟩
    intro id member
    rw [Server.disconnectCount, opens.disconnects_eq]
    exact disconnected id member
  · constructor
    · exact Nat.le_of_eq (congrArg (· + 1) lastId)
    · intro ended
      cases ended

/-- As long as no session is opened, everything stays as it is in the ledger. -/
theorem lawful_ledger (now : Nat) : (ledger bound closed).Lawful now where
  pools _ := by
    apply Pool.Custody.lawful_each
    case new => exact fun _ => trivial
    case agrees =>
      rintro server other agrees ⟨lastId, honest, disconnected⟩
      refine ⟨agrees.lastId_eq.trans lastId, honest.agrees agrees, fun id member => ?_⟩
      rw [Server.disconnectCount, agrees.disconnects_eq]
      exact disconnected id member
    case disconnect =>
      intro server connection served held
      obtain ⟨lastId, honest, disconnected⟩ := serves_disconnect served held
      exact ⟨lastId, honest, fun id member => disconnected id (List.mem_cons_of_mem _ member)⟩
    case mend => exact fun _ held _ => held
    all_goals exact fun _ held => held
  detached held := held

theorem ledger_mono {more : List Nat} (le : bound ≤ later) (subset : closed ⊆ more) {index : Nat}
    {pool : Pool} (kept : pool.InCustody ((ledger bound closed).pool index)) :
    pool.InCustody ((ledger later more).pool index) := by
  apply kept.mono
  · exact fun connections queued connection member => (queued connection member).mono le subset
  · exact fun connection fit => fit.mono le subset
  · exact fun connection held => held.mono le subset
  · exact fun _ _ => trivial

/-! ### What opens sessions -/

section Opens

variable {index : Nat} {site : Site}
  (kept : site.InCustody ((ledger bound closed).pool index) (ledger bound closed).serves)

include kept

/-- A connect adds a session to the ledger or none. -/
theorem connected_ledger {metadata : Metadata} {attempt : Attempt} {after : Site}
    {result : Except SessionError Connection}
    (connected : site.connected metadata attempt = (after, result)) :
    ∃ later, bound ≤ later ∧
      after.InCustody ((ledger later closed).pool index) (ledger later closed).serves ∧
        ∀ connection, result = .ok connection → connection.session.Traced later closed := by
  rw [Site.connected] at connected
  rcases site.server.finishConnect_opens attempt with
    ⟨server, error, answer, agrees⟩ | ⟨server, answer, opens⟩
  · rw [answer] at connected
    cases connected
    refine ⟨bound, Nat.le_refl _, ⟨kept.lawful, kept.pool, ?_⟩, ?_⟩
    · exact kept.lawful.agrees agrees kept.server
    · intro connection failed
      cases failed
  · rw [answer] at connected
    cases connected
    obtain ⟨served, traced⟩ := serves_opens kept.server opens
    refine ⟨bound + 1, Nat.le_succ _, ?_, ?_⟩
    · constructor
      · exact (lawful_ledger site.now).pools index
      · exact { ledger_mono (Nat.le_succ bound) (List.Subset.refl closed) kept.pool with }
      · exact served
    · intro connection same
      cases same
      exact traced

/-- An agent that goes on leaves everything in the ledger. -/
theorem resume_ledger (agent : Agent) : ∃ later, bound ≤ later ∧
    (site.resume agent).InCustody ((ledger later closed).pool index)
      (ledger later closed).serves := by
  have unparked : (site.withPool (·.unpark agent)).InCustody
      ((ledger bound closed).pool index) (ledger bound closed).serves :=
    ⟨kept.lawful, kept.pool.unpark agent, kept.server⟩
  -- Only an agent that awaits a connect may need a longer ledger, so it is dealt with apart.
  by_cases opening : ∃ task, site.pool.task? agent = some task ∧
      site.pool.isReady site.now task = true ∧ task.isOpening = true
  · obtain ⟨task, waits, ready, opens⟩ := opening
    rw [Site.resume_eq_proceed waits ready]
    obtain ⟨worker, phase, due⟩ := task
    cases phase with
    | connecting checkout metadata attempt =>
        rcases connected : (site.withPool (·.unpark agent)).connected metadata attempt with
          ⟨after, result⟩
        obtain ⟨later, le, still, fits⟩ := connected_ledger unparked connected
        exact ⟨later, le, Site.checkoutConnected_inCustody checkout connected still fits⟩
    | prewarming made metadata attempt =>
        rcases connected : (site.withPool (·.unpark agent)).connected metadata attempt with
          ⟨after, result⟩
        obtain ⟨later, le, still, fits⟩ := connected_ledger unparked connected
        refine ⟨later, le, Site.prewarmConnected_inCustody agent made connected still ?_⟩
        intro connection same
        have queued := still.pool.idle
        rw [Site.idle_of_connected connected] at queued
        have new := fits connection same
        exact List.forall_mem_append.mpr ⟨queued, List.forall_mem_singleton.mpr new⟩
    | _ => cases opens
  · have closing (task : Task) (waits : site.pool.task? agent = some task)
        (ready : site.pool.isReady site.now task = true) (opens : task.isOpening = true) :
        ((ledger bound closed).pool index).Opening (ledger bound closed).serves :=
      absurd ⟨task, waits, ready, opens⟩ opening
    refine ⟨bound, Nat.le_refl _, Site.resume_inCustody kept closing ?_⟩
    intro task waits ready
    apply Site.joins_each unparked (closing task waits ready)
    exact kept.lawful.hands_of_carries (kept.pool.tasks.2 task (List.mem_of_find?_eq_some waits)) _

end Opens

namespace InCustody

variable {world : World} (kept : world.InCustody (ledger bound closed))

include kept

theorem resume_ledger (thread : Thread) :
    ∃ later, (world.resume thread).1.InCustody (ledger later closed) := by
  have outside {later : Nat} (le : bound ≤ later) (session : Session)
      (owned : session ∈ world.outside) : session.Traced later closed :=
    (kept.outside session owned).mono le (List.Subset.refl closed)
  have pools {later : Nat} (le : bound ≤ later) (index : Nat) (pool : Pool)
      (found : world.pools[index]? = some pool) :
      pool.InCustody ((ledger later closed).pool index) :=
    ledger_mono le (List.Subset.refl closed) (kept.pools index pool found)
  cases thread with
  | inPool index agent =>
      change ∃ later, (world.callPool index (·.resume agent)).1.InCustody (ledger later closed)
      cases found : world.pools[index]? with
      | none =>
          rw [callPool_eq_self _ found]
          exact ⟨bound, kept⟩
      | some pool =>
          have site : (world.site pool).InCustody ((ledger bound closed).pool index)
              (ledger bound closed).serves :=
            ⟨(lawful_ledger world.now).pools index, kept.pools index pool found, kept.server⟩
          obtain ⟨later, le, turn⟩ := World.resume_ledger site agent
          refine ⟨later, callPool_of_others (lawful_ledger world.now) found ?_ (outside le) turn⟩
          exact fun place other _ => pools le place other
  | errand caller =>
      change ∃ later, (world.resumeErrand caller).1.InCustody (ledger later closed)
      rw [resumeErrand]
      split
      case h_2 => exact ⟨bound, kept⟩
      case h_1 errand found =>
        split
        case isFalse => exact ⟨bound, kept⟩
        case isTrue =>
          unfold finishErrand
          split
          case h_2 => exact ⟨bound, kept.server, kept.pools, kept.outside⟩
          case h_1 attempt work =>
            rcases world.server.finishConnect_opens attempt with
              ⟨server, error, answer, agrees⟩ | ⟨server, answer, opens⟩
            · simp only [answer]
              have served := ((lawful_ledger 0).pools 0).agrees agrees kept.server
              exact ⟨bound, served, kept.pools, kept.outside⟩
            · simp only [answer]
              obtain ⟨served, traced⟩ := serves_opens kept.server opens
              refine ⟨bound + 1, served, pools (Nat.le_succ bound), ?_⟩
              exact List.forall_mem_cons.mpr ⟨traced, outside (Nat.le_succ bound)⟩

/-- What an owner holds is in the ledger. -/
theorem traced {holder : Holder} {session : Session} (held : world.session? holder = some session) :
    session.Traced bound closed := by
  cases holder with
  | outside id => exact kept.outside session (List.mem_of_find?_eq_some held)
  | lease handle =>
      obtain ⟨lease, good, rfl⟩ := Option.map_eq_some_iff.mp held
      obtain ⟨pool, found, valid⟩ := Option.bind_eq_some_iff.mp good
      exact (kept.pools handle.pool pool found).leases lease (List.mem_of_find?_eq_some valid)

/-- Whoever disconnects a session is remembered. -/
theorem disconnect_ledger (holder : Holder) :
    (world.call (.disconnect holder)).1.InCustody
      (ledger bound (Action.closes world (.call (.disconnect holder)) ++ closed)) := by
  rw [World.call, Action.closes]
  split
  case isFalse => exact kept
  case isTrue accepted =>
    let numbered : World := { world with callers := world.callers + 1 }
    have keptHere : numbered.InCustody (ledger bound closed) :=
      ⟨kept.server, kept.pools, kept.outside⟩
    have same : numbered.session? holder = world.session? holder := by
      cases holder <;> rfl
    change (numbered.disconnect holder).1.InCustody _
    cases held : world.session? holder with
    | none =>
        rw [World.disconnect, World.withSession, same, held]
        exact keptHere
    | some session =>
        have heldHere : numbered.session? holder = some session := same.trans held
        have more : closed ⊆ session.id :: closed := List.subset_cons_self _ _
        have traced := kept.traced held
        apply keptHere.disconnect heldHere
        · exact fun index pool inside => ledger_mono (Nat.le_refl bound) more inside
        · rintro index connection before rfl
          exact ⟨before.opened, fun _ => List.mem_cons_self⟩
        · exact fun other owned => owned.mono (Nat.le_refl bound) more
        · exact fun owned => ⟨owned.opened, fun _ => List.mem_cons_self⟩
        · exact serves_disconnect kept.server traced

/-- Whatever happens, everything is in the ledger, if what owners disconnect is remembered. -/
theorem move_ledger (move : Move) : ∃ later, (world.move move).InCustody
    (ledger later (move.closes world ++ closed)) := by
  by_cases resumes : ∃ thread, move = .act (.resume thread)
  · obtain ⟨thread, rfl⟩ := resumes
    exact kept.resume_ledger thread
  · by_cases closing : ∃ holder, move = .act (.call (.disconnect holder))
    · obtain ⟨holder, rfl⟩ := closing
      exact ⟨bound, kept.disconnect_ledger holder⟩
    · have nothing : move.closes world = [] := by
        cases move with
        | act action =>
            cases action with
            | call request =>
                cases request with
                | disconnect holder => exact absurd ⟨holder, rfl⟩ closing
                | _ => rfl
            | _ => rfl
        | _ => rfl
      have lawful : (ledger bound closed).Lawful world.now := lawful_ledger _
      have opening (opens : ∃ thread, move = .act (.resume thread)) :
          (ledger bound closed).Opening := absurd opens resumes
      rw [nothing]
      refine ⟨bound, kept.move_open lawful opening ?_ ?_⟩
      · apply kept.allows lawful (fun _ => rfl) opening
        intro index id pool session adopts found owned
        exact kept.outside session (List.mem_of_find?_eq_some owned)
      · exact fun holder same => closing ⟨holder, same⟩

end InCustody

namespace History

/-- Along every run, everything is in the ledger. -/
theorem exists_ledger (moves : List Move) :
    ∃ bound, (run moves).world.InCustody (ledger bound (run moves).closed) := by
  have follow (start : History)
      (kept : ∃ bound, start.world.InCustody (ledger bound start.closed)) :
      ∃ bound, (moves.foldl History.move start).world.InCustody
        (ledger bound (moves.foldl History.move start).closed) := by
    induction moves generalizing start with
    | nil => exact kept
    | cons move later ih =>
        obtain ⟨bound, kept⟩ := kept
        apply ih
        rw [world_move, closed_move]
        exact kept.move_ledger move
  apply follow
  refine ⟨0, InCustody.new ⟨rfl, Server.honest_new, ?_⟩⟩
  intro id absent
  cases absent

end History

end World

end SessionPool

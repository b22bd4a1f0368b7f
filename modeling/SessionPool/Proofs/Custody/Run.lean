import SessionPool.Proofs.Custody.Operations
import SessionPool.Proofs.Outcome.Turns
import SessionPool.Proofs.Ownership.Register

/-!
# Every move keeps a lawful custody

What is required of the connections of each pool, of the sessions outside of all pools and of the
server stays true whatever happens, as long as what is given to a pool and what is joined to an idle
queue is allowed there.
-/

namespace SessionPool.World

open Pool (Agent Job Task)

/-- What is required of the connections of each pool, of the sessions that belong to none, and of
the server. -/
structure Custody where
  pool (index : Nat) : Pool.Custody
  outside : Session → Prop
  serves : Server → Prop

/-- Everything is as required. -/
structure InCustody (custody : Custody) (world : World) : Prop where
  server : custody.serves world.server
  pools (index : Nat) (pool : Pool) (found : world.pools[index]? = some pool) :
    pool.InCustody (custody.pool index)
  outside (session : Session) (owned : session ∈ world.outside) : custody.outside session

namespace Custody

/-- Every pool is in lawful custody, and what its owner keeps of a pool is as required. -/
structure Lawful (custody : Custody) (now : Nat) : Prop where
  pools (index : Nat) : (custody.pool index).Lawful custody.serves now
  detached {index : Nat} {connection : Connection} (held : (custody.pool index).held connection) :
    custody.outside connection.session

/-- A new session is as required, in a pool and outside of all of them. -/
structure Opening (custody : Custody) : Prop where
  pools (index : Nat) : (custody.pool index).Opening custody.serves
  outside {server : Server} (served : custody.serves server) :
    custody.outside ⟨server.lastId + 1, true⟩

/-- What a move brings into an idle queue is allowed there. -/
structure Allows (custody : Custody) (world : World) (move : Move) : Prop where
  brings {index id : Nat} {pool : Pool} {session : Session}
    (adopts : move = .act (.call (.adopt index id))) (found : world.pools[index]? = some pool)
    (held : world.outside? id = some session) :
    (custody.pool index).fit (.ofSession session (.new pool.nextId world.now)) ∧
      (custody.pool index).queue
        (pool.idle ++ [.ofSession session (.new pool.nextId world.now)])
  joins {index : Nat} {agent : Agent} {pool : Pool} {task : Task}
    (resumes : move = .act (.resume (.inPool index agent)))
    (found : world.pools[index]? = some pool) (waits : pool.task? agent = some task)
    (ready : pool.isReady world.now task = true) :
    (custody.pool index).joins ((world.site pool).withPool (·.unpark agent)) agent task

/-- Whatever is required stays true when an owner disconnects a session. -/
structure Closes (custody : Custody) : Prop where
  held {index : Nat} {connection : Connection} (held : (custody.pool index).held connection) :
    (custody.pool index).held { connection with session := connection.session.closed }
  outside {session : Session} (owned : custody.outside session) : custody.outside session.closed
  serves {server : Server} (served : custody.serves server) (session : Session) :
    custody.serves (server.disconnect session)

end Custody

namespace InCustody

variable {custody : Custody} {world : World}

theorem new (served : custody.serves .new) : World.new.InCustody custody where
  server := served
  pools index pool found := by cases found
  outside session owned := by cases owned

section Keep

variable (kept : world.InCustody custody) (lawful : custody.Lawful world.now)

include kept

/-- What leaves the pools and the sessions alone, and asks the server for nothing that matters. -/
theorem agree (lawful : custody.Lawful world.now) {after : World}
    (agrees : world.server.Agrees after.server) (pools : after.pools = world.pools)
    (outside : after.outside = world.outside) : after.InCustody custody where
  server := (lawful.pools 0).agrees agrees kept.server
  pools index pool found := kept.pools index pool (pools ▸ found)
  outside session owned := kept.outside session (outside ▸ owned)

/-- A change of one pool that keeps its custody. -/
theorem modify {index : Nat} {change : Pool → Pool}
    (keeps : ∀ pool, world.pools[index]? = some pool → pool.InCustody (custody.pool index) →
      (change pool).InCustody (custody.pool index)) :
    ({ world with pools := world.pools.modify index change } : World).InCustody custody where
  server := kept.server
  pools place pool found := by
    by_cases here : index = place
    · subst here
      change (world.pools.modify index change)[index]? = some pool at found
      rw [List.getElem?_modify_eq] at found
      obtain ⟨before, foundBefore, rfl⟩ := Option.map_eq_some_iff.mp found
      exact keeps before foundBefore (kept.pools index before foundBefore)
    · change (world.pools.modify index change)[place]? = some pool at found
      rw [List.getElem?_modify_ne _ _ here] at found
      exact kept.pools place pool found
  outside := kept.outside

include lawful

/-! ### Work in pools -/

omit kept in
/-- Work in a pool keeps every custody if its turn leaves that pool in custody, whatever the pool
was like before. -/
theorem callPool_of_others {index : Nat} {work : Site → Turn} {pool : Pool}
    (found : world.pools[index]? = some pool)
    (others : ∀ place (other : Pool), place ≠ index → world.pools[place]? = some other →
      other.InCustody (custody.pool place))
    (outside : ∀ session ∈ world.outside, custody.outside session)
    (turn : (work (world.site pool)).InCustody (custody.pool index) custody.serves) :
    (world.callPool index work).1.InCustody custody := by
  obtain ⟨site, gives⟩ := turn
  have changed : ({ world with
      server := (work (world.site pool)).1.server
      pools := world.pools.set index (work (world.site pool)).1.pool } : World).InCustody
      custody := by
    refine ⟨site.server, ?_, outside⟩
    intro place other foundOther
    change (world.pools.set index _)[place]? = some other at foundOther
    by_cases here : index = place
    · subst here
      have inside := (List.getElem?_eq_some_iff.mp found).1
      rw [List.getElem?_set_self inside] at foundOther
      rw [← Option.some.inj foundOther]
      exact site.pool
    · rw [List.getElem?_set_ne here] at foundOther
      exact others place other (Ne.symm here) foundOther
  have does : (world.callPool index work).1 = ({ world with
      server := (work (world.site pool)).1.server
      pools := world.pools.set index (work (world.site pool)).1.pool } : World).keepDetached
        (work (world.site pool)).2 := by
    simp only [World.callPool, inPool, found]
    rfl
  rw [does]
  -- A session that a turn hands out as detached belongs to its owner from now on.
  unfold keepDetached
  split
  case h_1 session answer =>
    obtain ⟨connection, held, rfl⟩ := gives _ answer
    refine ⟨changed.server, changed.pools, ?_⟩
    exact List.forall_mem_cons.mpr ⟨lawful.detached held, changed.outside⟩
  case h_2 => exact changed

/-- Work in a pool keeps every custody if its turn keeps that of the pool. -/
theorem callPool {index : Nat} {work : Site → Turn}
    (turns : ∀ pool, world.pools[index]? = some pool →
      (work (world.site pool)).InCustody (custody.pool index) custody.serves) :
    (world.callPool index work).1.InCustody custody := by
  cases found : world.pools[index]? with
  | none =>
      rw [callPool_eq_self work found]
      exact kept
  | some pool =>
      apply callPool_of_others lawful found
      · exact fun place other _ => kept.pools place other
      · exact kept.outside
      · exact turns pool found

/-! ### Calls -/

theorem openPool (config : Config) (caller : Nat) :
    (world.openPool config caller).1.InCustody custody := by
  rw [World.openPool]
  split
  case h_1 => exact kept
  case h_2 =>
    have opened : ({ world with
        pools := world.pools ++ [Pool.new config world.now] } : World).InCustody custody := by
      refine ⟨kept.server, ?_, kept.outside⟩
      intro index pool found
      rcases Nat.lt_or_ge index world.pools.length with inside | beyond
      · apply kept.pools index pool
        rwa [← List.getElem?_append_left inside]
      · change (world.pools ++ [Pool.new config world.now])[index]? = some pool at found
        rw [List.getElem?_append_right beyond] at found
        rw [List.mem_singleton.mp (List.mem_of_getElem? found)]
        exact .new (lawful.pools index) config
    apply opened.callPool lawful
    intro pool found
    apply Site.prewarm_inCustody
    exact ⟨lawful.pools _, opened.pools _ pool found, kept.server⟩

theorem adopt {index id : Nat}
    (brings : ∀ pool session, world.pools[index]? = some pool →
      world.outside? id = some session →
        (custody.pool index).fit (.ofSession session (.new pool.nextId world.now)) ∧
          (custody.pool index).queue
            (pool.idle ++ [.ofSession session (.new pool.nextId world.now)])) :
    (world.adopt index id).1.InCustody custody := by
  rw [World.adopt]
  split
  case h_1 => exact kept
  case h_2 session held =>
    have without : ({ world with
        outside := world.outside.eraseP (·.id == id) } : World).InCustody custody :=
      ⟨kept.server, kept.pools, fun other owned =>
        kept.outside other (List.mem_of_mem_eraseP owned)⟩
    apply without.callPool lawful
    intro pool found
    obtain ⟨fit, queued⟩ := brings pool session found held
    apply Site.adopt_inCustody
    · exact ⟨lawful.pools index, kept.pools index pool found, kept.server⟩
    · exact fit
    · exact queued

omit lawful in
theorem withSession {holder : Holder} {use : Session → World × Option Answer}
    (used : ∀ session, (use session).1.InCustody custody) :
    (world.withSession holder use).1.InCustody custody := by
  rw [World.withSession]
  split
  · exact used _
  · exact kept

omit lawful in
/-- Whatever an owner disconnects, there may be more that is allowed afterwards. -/
theorem disconnect {later : Custody} {holder : Holder} {session : Session}
    (held : world.session? holder = some session)
    (pools : ∀ index (pool : Pool), pool.InCustody (custody.pool index) →
      pool.InCustody (later.pool index))
    (closed : ∀ index (connection : Connection), (custody.pool index).held connection →
      connection.session = session →
        (later.pool index).held { connection with session := session.closed })
    (outside : ∀ other, custody.outside other → later.outside other)
    (closedOutside : custody.outside session → later.outside session.closed)
    (served : later.serves (world.server.disconnect session)) :
    (world.disconnect holder).1.InCustody later := by
  have more : ({ world with server := world.server.disconnect session } : World).InCustody later :=
    ⟨served, fun index pool found => pools index pool (kept.pools index pool found),
      fun other owned => outside other (kept.outside other owned)⟩
  rw [World.disconnect, World.withSession, held]
  cases holder with
  | outside id =>
      refine ⟨served, more.pools, ?_⟩
      intro other owned
      obtain ⟨old, before, rfl⟩ := List.mem_map.mp owned
      split
      · exact closedOutside (kept.outside session (List.mem_of_find?_eq_some held))
      · exact more.outside old before
  | lease handle =>
      apply more.modify
      intro pool found inside
      change (pool.putSession handle.ticket session.closed).InCustody (later.pool handle.pool)
      rw [Pool.putSession]
      split
      case h_1 lease good =>
        have same : lease.connection.session = session := by
          rw [session?, World.lease?, found, Option.bind_some, good] at held
          exact Option.some.inj held
        have before := (kept.pools handle.pool pool found).leases lease
          (List.mem_of_find?_eq_some good)
        exact .updateLease (inside.endLease handle.ticket) (closed _ _ before same)
      case h_2 => exact inside

/-- A call of which no pool is asked anything. -/
theorem begin_direct {request : Request} (asks : request.job? = none)
    (opens : ∀ config, request ≠ .openPool config) (adopts : ∀ index id, request ≠ .adopt index id)
    (closes : ∀ holder, request ≠ .disconnect holder) (caller : Nat) :
    (world.begin caller request).1.InCustody custody := by
  cases request with
  | openPool config => exact absurd rfl (opens config)
  | adopt index id => exact absurd rfl (adopts index id)
  | disconnect holder => exact absurd rfl (closes holder)
  | connect => exact kept.agree lawful world.server.agrees_startConnect rfl rfl
  | probe holder =>
      apply kept.withSession
      intro session
      exact kept.agree lawful (world.server.agrees_startProbe session) rfl rfl
  | executeDirectly holder statement =>
      apply kept.withSession
      intro session
      exact kept.agree lawful (world.server.agrees_execute session statement) rfl rfl
  | queryDirectly holder statement =>
      apply kept.withSession
      intro session
      exact kept.agree lawful (world.server.agrees_query session statement) rfl rfl
  | _ => cases asks

end Keep

/-! ### Moves -/

/-- Where the order of the queues does not matter, it is enough that what is given to a pool is
fit. -/
theorem allows (kept : world.InCustody custody) (lawful : custody.Lawful world.now)
    {fit held : Nat → Connection → Prop} {record : Nat → Metadata → Prop}
    (each : ∀ index, custody.pool index = .each (fit index) (held index) (record index))
    {move : Move} (opening : (∃ thread, move = .act (.resume thread)) → custody.Opening)
    (brings : ∀ index id pool session, move = .act (.call (.adopt index id)) →
      world.pools[index]? = some pool → world.outside? id = some session →
        fit index (.ofSession session (.new pool.nextId world.now))) :
    custody.Allows world move where
  brings {index id pool session} adopts found owned := by
    have inside := (kept.pools index pool found).idle
    have new := brings index id pool session adopts found owned
    rw [each] at inside ⊢
    exact ⟨new, List.forall_mem_append.mpr ⟨inside, List.forall_mem_singleton.mpr new⟩⟩
  joins {index agent pool task} resumes found waits _ := by
    have inside := kept.pools index pool found
    have rules := lawful.pools index
    have opens := (opening ⟨_, resumes⟩).pools index
    rw [each] at inside rules opens ⊢
    apply Site.joins_each
    · exact ⟨rules, inside.unpark agent, kept.server⟩
    · exact fun _ => opens
    · exact rules.hands_of_carries (inside.tasks.2 task (List.mem_of_find?_eq_some waits)) _

section Move

variable (kept : world.InCustody custody) (lawful : custody.Lawful world.now)

include kept lawful

/-- A call, unless an owner disconnects a session by it. -/
theorem call {request : Request} (allows : custody.Allows world (.act (.call request)))
    (closes : ∀ holder, request ≠ .disconnect holder) :
    (world.call request).1.InCustody custody := by
  let numbered : World := { world with callers := world.callers + 1 }
  have keptHere : numbered.InCustody custody := ⟨kept.server, kept.pools, kept.outside⟩
  have lawfulHere : custody.Lawful numbered.now := lawful
  rw [World.call]
  split
  case isFalse => exact kept
  case isTrue accepted =>
    change (numbered.begin world.callers request).1.InCustody custody
    cases asks : request.job? with
    | some asked =>
        obtain ⟨index, job⟩ := asked
        rw [begin_of_job asks]
        apply keptHere.callPool lawfulHere
        intro pool found
        apply Site.work_inCustody
        · exact ⟨lawful.pools index, kept.pools index pool found, kept.server⟩
        · rintro session rfl
          cases request <;> cases asks
    | none =>
        by_cases direct : (∀ config, request ≠ .openPool config) ∧
            ∀ index id, request ≠ .adopt index id
        · exact keptHere.begin_direct lawfulHere asks direct.1 direct.2 closes _
        · cases request with
          | openPool config => exact keptHere.openPool lawfulHere config _
          | adopt index id =>
              apply keptHere.adopt lawfulHere
              intro pool session found held
              exact allows.brings rfl found held
          | _ => simp at direct

theorem resume (opening : custody.Opening) {thread : Thread}
    (allows : custody.Allows world (.act (.resume thread))) :
    (world.resume thread).1.InCustody custody := by
  cases thread with
  | inPool index agent =>
      change (world.callPool index (·.resume agent)).1.InCustody custody
      apply kept.callPool lawful
      intro pool found
      apply Site.resume_inCustody
      · exact ⟨lawful.pools index, kept.pools index pool found, kept.server⟩
      · exact fun _ _ _ _ => opening.pools index
      · intro task waits ready
        exact allows.joins rfl found waits ready
  | errand caller =>
      change (world.resumeErrand caller).1.InCustody custody
      rw [resumeErrand]
      split
      case h_2 => exact kept
      case h_1 errand found =>
        split
        case isFalse => exact kept
        case isTrue =>
          unfold finishErrand
          split
          case h_2 => exact ⟨kept.server, kept.pools, kept.outside⟩
          case h_1 attempt work =>
            rcases world.server.finishConnect_opens attempt with
              ⟨server, error, answer, agrees⟩ | ⟨server, answer, opens⟩
            · simp only [answer]
              exact ⟨(lawful.pools 0).agrees agrees kept.server, kept.pools, kept.outside⟩
            · simp only [answer]
              refine ⟨(opening.pools 0).opens opens kept.server, kept.pools, ?_⟩
              exact List.forall_mem_cons.mpr ⟨opening.outside kept.server, kept.outside⟩

/-- Whatever happens, unless an owner disconnects a session. -/
theorem move_open {move : Move}
    (opening : (∃ thread, move = .act (.resume thread)) → custody.Opening)
    (allows : custody.Allows world move)
    (closes : ∀ holder, move ≠ .act (.call (.disconnect holder))) :
    (world.move move).InCustody custody := by
  cases move with
  | act action =>
      cases action with
      | call request =>
          apply kept.call lawful allows
          rintro holder rfl
          exact closes holder rfl
      | resume thread => exact kept.resume lawful (opening ⟨thread, rfl⟩) allows
      | instruct command => exact kept.agree lawful (world.server.agrees_obey command) rfl rfl
      | passTo instant =>
          change (world.passTo instant).InCustody custody
          rw [passTo]
          split
          · exact ⟨kept.server, kept.pools, kept.outside⟩
          · exact kept
  | reorder index tasks => exact kept.modify fun _ _ inside => inside.reorder tasks
  | stir index => exact kept.modify fun _ _ inside => inside.notifyOne
  | elapse duration => exact ⟨kept.server, kept.pools, kept.outside⟩

/-- Whatever happens keeps a lawful custody that does not mind when a session is disconnected. -/
theorem move (opening : custody.Opening) {move : Move} (allows : custody.Allows world move)
    (closes : custody.Closes) :
    (world.move move).InCustody custody := by
  by_cases closing : ∃ holder, move = .act (.call (.disconnect holder))
  · obtain ⟨holder, rfl⟩ := closing
    change (world.call (.disconnect holder)).1.InCustody custody
    rw [World.call]
    split
    case isFalse => exact kept
    case isTrue =>
      let numbered : World := { world with callers := world.callers + 1 }
      have keptHere : numbered.InCustody custody := ⟨kept.server, kept.pools, kept.outside⟩
      change (numbered.disconnect holder).1.InCustody custody
      cases held : numbered.session? holder with
      | none =>
          rw [World.disconnect, World.withSession, held]
          exact keptHere
      | some session =>
          apply keptHere.disconnect held
          · exact fun _ _ inside => inside
          · rintro index connection before rfl
            exact closes.held before
          · exact fun _ owned => owned
          · exact closes.outside
          · exact closes.serves kept.server session
  · apply kept.move_open lawful (fun _ => opening) allows
    intro holder same
    exact closing ⟨holder, same⟩

/-- What a pool hands out is as required. -/
theorem gives (opening : custody.Opening) {move : Move} (allows : custody.Allows world move)
    {index : Nat} {pool : Pool} (found : world.pools[index]? = some pool) {agent : Agent}
    {answer : Pool.Answer}
    (ends : move.event? world = some ⟨.inPool index agent, ofPool answer⟩) :
    (custody.pool index).gives answer := by
  have site : (world.site pool).InCustody (custody.pool index) custody.serves :=
    ⟨lawful.pools index, kept.pools index pool found, kept.server⟩
  obtain ⟨turn, takes, answers, _⟩ := turn_of_event found ends
  cases takes with
  | calls accepted asks =>
      refine (Site.work_inCustody site world.callers ?_).gives answer answers
      rintro session rfl
      obtain ⟨id, rfl⟩ := eq_adopt_of_asks asks
      obtain ⟨owned, held, adopts⟩ := Option.map_eq_some_iff.mp asks
      cases adopts
      exact allows.brings rfl found held
  | resumes worker =>
      refine (Site.resume_inCustody site (fun _ _ _ _ => opening.pools index) ?_).gives answer
        answers
      intro task waits ready
      exact allows.joins rfl found waits ready

end Move

end InCustody

end SessionPool.World

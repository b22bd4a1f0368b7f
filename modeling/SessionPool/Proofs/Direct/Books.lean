import Mathlib.Data.List.Induction
import Mathlib.Data.List.Nodup
import Mathlib.Data.List.Range
import SessionPool.Proofs.Custody.Basic
import SessionPool.Proofs.Direct.Dealings

/-!
# The books of the server

The server numbers the sessions that it opens and writes down what is open and what has been
disconnected, and each caller knows whether it has disconnected its session. A dealing adds to the
books what the caller is told, and nothing else, so the books of the server, the sessions of the
callers and the log agree at any time.
-/

namespace SessionPool

namespace Server

/-! ### Logins -/

/-- The server when it has opened one session more. -/
def admitted (server : Server) : Server :=
  { server with
    lastId := server.lastId + 1
    openIds := (server.lastId + 1) :: server.openIds
    connects := server.connects + 1 }

/-- What becomes of a login that reaches the server. -/
inductive Login (server : Server) : Server → Except SessionError Session → Prop where
  | refused (refusing : server.refusing = true) : Login server server (.error refusedError)
  | failed (accepting : server.refusing = false) (failing : 0 < server.failing) :
      Login server { server with failing := server.failing - 1 } (.error loginError)
  | opened (accepting : server.refusing = false) (unfailing : server.failing = 0) :
      Login server server.admitted (.ok ⟨server.lastId + 1, true⟩)

theorem login_reaching (server : Server) :
    server.Login (server.finishConnect .reaching).1 (server.finishConnect .reaching).2 := by
  rw [finishConnect]
  by_cases refusing : server.refusing = true
  · rw [if_pos refusing]
    exact .refused refusing
  · rw [if_neg refusing]
    have accepting : server.refusing = false := eq_false_of_ne_true refusing
    by_cases failing : 0 < server.failing
    · rw [if_pos failing]
      exact .failed accepting failing
    · rw [if_neg failing]
      exact .opened accepting (Nat.eq_zero_of_not_pos failing)

/-! ### Probes and statements -/

/-- A probe that leaves is counted, and does nothing else. -/
theorem startProbe_eq (server : Server) (session : Session) :
    ∃ probes, server.startProbe session = { server with probes } := by
  unfold startProbe
  split
  · exact ⟨_, rfl⟩
  · exact ⟨_, rfl⟩

/-- What comes of a statement that meets no error on the way, if `value` comes of one that is
run. -/
def respond {α : Type} (server : Server) (session : Session) (statement : String) (value : α) :
    Except SessionError α :=
  match server.objection? session statement with
  | some error => .error error
  | none => .ok value

end Server

namespace World

/-! ### No errors but those of the server -/

/-- Nobody meets an error on the way. -/
structure Faultless (world : World) : Prop where
  connects : world.server.connectFaults = []
  statements : world.server.statementFaults = []
  reaching (errand : Errand) (waits : errand ∈ world.errands) (attempt : Attempt)
    (work : errand.work = .connecting attempt) : attempt = .reaching

section Faultless

variable {world : World} (faultless : world.Faultless)

include faultless

theorem Faultless.startConnect_eq : world.server.startConnect = (world.server, .reaching) := by
  rw [Server.startConnect, faultless.connects]

theorem Faultless.run_eq (session : Session) (statement : String) :
    world.server.run session statement =
      (world.server, world.server.objection? session statement) := by
  rw [Server.run, faultless.statements]
  rfl

theorem Faultless.execute_eq (session : Session) (statement : String) :
    world.server.execute session statement =
      (world.server, world.server.respond session statement 1) := by
  rw [Server.execute, faultless.run_eq, Server.respond]
  cases world.server.objection? session statement <;> rfl

theorem Faultless.query_eq (session : Session) (statement : String) :
    world.server.query session statement =
      (world.server, world.server.respond session statement [statement]) := by
  rw [Server.query, faultless.run_eq, Server.respond]
  cases world.server.objection? session statement <;> rfl

/-- Whoever waits for a connect has reached the server. -/
theorem Faultless.attempt_eq {caller : Nat} {errand : Errand} {attempt : Attempt}
    (waits : world.errand? caller = some errand) (work : errand.work = .connecting attempt) :
    attempt = .reaching :=
  faultless.reaching errand (List.mem_of_find?_eq_some waits) attempt work

/-- What an answer to a connect makes of the server. -/
theorem Faultless.login {caller : Nat} {errand : Errand} {attempt : Attempt}
    (waits : world.errand? caller = some errand) (work : errand.work = .connecting attempt)
    {server : Server} {result : Except SessionError Session}
    (answers : world.server.finishConnect attempt = (server, result)) :
    world.server.Login server result := by
  have reached := world.server.login_reaching
  rw [faultless.attempt_eq waits work] at answers
  rw [answers] at reached
  exact reached

end Faultless

theorem faultless_new : World.new.Faultless where
  connects := rfl
  statements := rfl
  reaching _ waits := absurd waits List.not_mem_nil

/-- No dealing brings an error of its own. -/
theorem Deals.faultless {world : World} {dealing : Dealing} {server : Server}
    {sessions : List Session} {errands : List Errand} {told : Option Answer}
    (deals : Deals world dealing server sessions errands told) (faultless : world.Faultless) :
    server.connectFaults = [] ∧ server.statementFaults = [] ∧
      ∀ errand ∈ errands, ∀ attempt, errand.work = .connecting attempt → attempt = .reaching := by
  have fewer (caller : Nat) : ∀ errand ∈ world.errands.eraseP (·.caller == caller),
      ∀ attempt, errand.work = .connecting attempt → attempt = .reaching :=
    fun errand waits => faultless.reaching errand (List.mem_of_mem_eraseP waits)
  have more (errand : Errand)
      (reaches : ∀ attempt, errand.work = .connecting attempt → attempt = .reaching) :
      ∀ other ∈ world.errands ++ [errand],
        ∀ attempt, other.work = .connecting attempt → attempt = .reaching := by
    intro other waits
    rcases List.mem_append.mp waits with before | new
    · exact faultless.reaching other before
    · rw [List.mem_singleton.mp new]
      exact reaches
  cases deals with
  | nothing => exact ⟨faultless.connects, faultless.statements, faultless.reaching⟩
  | connects due =>
      rw [faultless.startConnect_eq]
      refine ⟨faultless.connects, faultless.statements, more _ ?_⟩
      rintro attempt same
      exact (Errand.Work.connecting.inj same).symm
  | @probes id session due held free =>
      obtain ⟨probes, counted⟩ := world.server.startProbe_eq session
      rw [counted]
      exact ⟨faultless.connects, faultless.statements, more _ nofun⟩
  | executes statement held free =>
      rw [faultless.execute_eq]
      exact ⟨faultless.connects, faultless.statements, faultless.reaching⟩
  | queries statement held free =>
      rw [faultless.query_eq]
      exact ⟨faultless.connects, faultless.statements, faultless.reaching⟩
  | disconnects held free =>
      exact ⟨faultless.connects, faultless.statements, faultless.reaching⟩
  | connected waits work opens =>
      cases faultless.login waits work opens
      exact ⟨faultless.connects, faultless.statements, fewer _⟩
  | failed waits work fails =>
      cases faultless.login waits work fails <;>
        exact ⟨faultless.connects, faultless.statements, fewer _⟩
  | probed waits work => exact ⟨faultless.connects, faultless.statements, fewer _⟩
  | obeys order =>
      cases order <;> exact ⟨faultless.connects, faultless.statements, faultless.reaching⟩

theorem Faultless.deal {world : World} (faultless : world.Faultless) (dealing : Dealing) :
    (world.deal dealing).Faultless := by
  obtain ⟨connects, statements, reaching⟩ := (world.deals dealing).faultless faultless
  exact ⟨connects, statements, reaching⟩

/-! ### Books -/

/-- The sessions that have been opened, as their owners have them, newest first, agree with what the
server has written down. -/
structure Books (server : Server) (sessions : List Session) : Prop where
  connects_eq : server.connects = server.lastId
  ids_eq : sessions.map (·.id) = (List.range' 1 server.lastId).reverse
  openIds_eq : server.openIds = (sessions.filter (·.connected)).map (·.id)
  closed_iff (session : Session) (member : session ∈ sessions) :
    session.connected = false ↔ 0 < server.disconnectCount session.id
  opened (id : Nat) (disconnected : 0 < server.disconnectCount id) : id ∈ sessions.map (·.id)

/-- What is connected when a session has been closed. -/
theorem connected_replaced (sessions : List Session) (session : Session) :
    ((replaced sessions session.id session.closed).filter (·.connected)).map (·.id) =
      ((sessions.filter (·.connected)).map (·.id)).filter (· != session.id) := by
  induction sessions with
  | nil => rfl
  | cons old rest ih =>
      rw [replaced, List.map_cons]
      by_cases name : old.id = session.id
      · cases connected : old.connected <;>
          simpa [name, connected, Session.closed, replaced] using ih
      · cases connected : old.connected <;> simpa [name, connected, replaced] using ih

namespace Books

theorem new : Books World.new.server World.new.outside where
  connects_eq := rfl
  ids_eq := rfl
  openIds_eq := rfl
  closed_iff _ member := absurd member List.not_mem_nil
  opened _ disconnected := absurd disconnected (Nat.not_lt_zero _)

variable {server : Server} {sessions : List Session} (books : Books server sessions)

include books

/-- Only what is written down matters. -/
theorem congr {other : Server} (agrees : server.Agrees other)
    (connects : other.connects = server.connects) : Books other sessions := by
  obtain ⟨lastId, openIds, disconnects⟩ := agrees
  constructor
  · rw [connects, lastId, books.connects_eq]
  · rw [lastId, books.ids_eq]
  · rw [openIds, books.openIds_eq]
  · intro session member
    rw [Server.disconnectCount, disconnects]
    exact books.closed_iff session member
  · intro id disconnected
    rw [Server.disconnectCount, disconnects] at disconnected
    exact books.opened id disconnected

theorem nodup_ids : (sessions.map (·.id)).Nodup := by
  rw [books.ids_eq, List.nodup_reverse]
  exact List.nodup_range'

theorem mem_ids_iff (id : Nat) : id ∈ sessions.map (·.id) ↔ 1 ≤ id ∧ id ≤ server.lastId := by
  rw [books.ids_eq, List.mem_reverse, List.mem_range'_1]
  omega

/-- A session is found by its name. -/
theorem find?_eq {session : Session} (member : session ∈ sessions) :
    sessions.find? (·.id == session.id) = some session := by
  have known : (sessions.find? (·.id == session.id)).isSome = true :=
    List.find?_isSome.mpr ⟨session, member, beq_self_eq_true _⟩
  obtain ⟨other, found⟩ := Option.isSome_iff_exists.mp known
  have same : other.id = session.id := by simpa using List.find?_some found
  rw [found, List.inj_on_of_nodup_map books.nodup_ids (List.mem_of_find?_eq_some found) member same]

/-- A session that has been opened has never been disconnected. -/
theorem admitted : Books server.admitted (⟨server.lastId + 1, true⟩ :: sessions) := by
  constructor
  · exact congrArg (· + 1) books.connects_eq
  · change (server.lastId + 1) :: sessions.map (·.id) = _
    rw [books.ids_eq, Server.admitted, List.range'_1_concat, List.reverse_append, Nat.add_comm 1]
    rfl
  · change (server.lastId + 1) :: server.openIds = _
    rw [books.openIds_eq]
    rfl
  · rintro session member
    rcases List.mem_cons.mp member with rfl | before
    · constructor
      · intro ended
        cases ended
      · intro disconnected
        have beyond := (books.mem_ids_iff _).mp (books.opened _ disconnected)
        exact absurd beyond.2 (Nat.not_succ_le_self _)
    · exact books.closed_iff session before
  · intro id disconnected
    exact List.mem_cons_of_mem _ (books.opened id disconnected)

theorem nodup_openIds : server.openIds.Nodup := by
  rw [books.openIds_eq]
  exact books.nodup_ids.sublist (List.filter_sublist.map _)

/-- A session is open as long as its owner has not disconnected it. -/
theorem mem_openIds_iff {session : Session} (member : session ∈ sessions) :
    session.id ∈ server.openIds ↔ session.connected = true := by
  rw [books.openIds_eq]
  constructor
  · intro isOpen
    obtain ⟨other, here, name⟩ := List.mem_map.mp isOpen
    obtain ⟨present, connected⟩ := List.mem_filter.mp here
    rwa [← List.inj_on_of_nodup_map books.nodup_ids present member name]
  · intro connected
    exact List.mem_map_of_mem (List.mem_filter.mpr ⟨member, connected⟩)

/-- A disconnected session is not open, whether it was before or not. -/
theorem openIds_disconnect {session : Session} (member : session ∈ sessions) :
    (server.disconnect session).openIds = server.openIds.filter (· != session.id) := by
  rw [Server.disconnect]
  dsimp only
  split
  case isTrue => exact books.nodup_openIds.erase_eq_filter _
  case isFalse ended =>
    -- It was taken off the list the first time, and no other session has its name.
    symm
    apply List.filter_eq_self.mpr
    intro id isOpen
    apply bne_iff_ne.mpr
    rintro rfl
    exact ended ((books.mem_openIds_iff member).mp isOpen)

theorem disconnect {session : Session} (member : session ∈ sessions) :
    Books (server.disconnect session) (replaced sessions session.id session.closed) := by
  have ids : (replaced sessions session.id session.closed).map (·.id) = sessions.map (·.id) := by
    rw [replaced, List.map_map]
    apply List.map_congr_left
    intro old _
    by_cases here : old.id = session.id
    · simp [here, Session.closed]
    · simp [here]
  constructor
  case connects_eq => exact books.connects_eq
  case ids_eq => exact ids.trans books.ids_eq
  case openIds_eq =>
    rw [books.openIds_disconnect member, books.openIds_eq, connected_replaced]
  case closed_iff =>
    rintro _ present
    obtain ⟨old, here, rfl⟩ := List.mem_map.mp present
    rw [server.disconnectCount_disconnect]
    by_cases name : old.id = session.id
    · simp [name, Session.closed]
    · simp [name, Ne.symm name, books.closed_iff old here]
  case opened =>
    intro id disconnected
    rw [ids]
    rw [server.disconnectCount_disconnect] at disconnected
    by_cases name : session.id = id
    · exact name ▸ List.mem_map_of_mem member
    · rw [if_neg name] at disconnected
      exact books.opened id disconnected

end Books

/-! ### What is told of sessions -/

/-- How a connect has ended: with the name of the session, or an error. -/
def Line.login? : Line → Option (Except SessionError Nat)
  | ⟨.answer _, .ok (.connected session)⟩ => some (.ok session.id)
  | ⟨.answer _, .error (.session error)⟩ => some (.error error)
  | _ => none

/-- The session that has been opened. -/
def Line.opened? (line : Line) : Option Nat := line.login?.bind Except.toOption

/-- The session that has been disconnected. -/
def Line.disconnected? : Line → Option Nat
  | ⟨.disconnect id, .ok .disconnected⟩ => some id
  | _ => none

/-- The sessions that have been opened, in order. -/
def opened (log : List Line) : List Nat := log.filterMap Line.opened?

/-- The sessions that have been disconnected, once for each time, in order. -/
def disconnected (log : List Line) : List Nat := log.filterMap Line.disconnected?

theorem opened_append (first later : List Line) :
    opened (first ++ later) = opened first ++ opened later :=
  List.filterMap_append

theorem disconnected_append (first later : List Line) :
    disconnected (first ++ later) = disconnected first ++ disconnected later :=
  List.filterMap_append

/-- What a dealing adds to the books, and what is told of it. -/
inductive Writes (world : World) : Dealing → Server → List Session → Option Answer → Prop where
  | nothing {dealing : Dealing} {server : Server} {told : Option Answer}
      (agrees : world.server.Agrees server) (connects : server.connects = world.server.connects)
      (opens : opened (lines dealing told) = [])
      (disconnects : disconnected (lines dealing told) = []) :
      Writes world dealing server world.outside told
  | opens (caller : Nat) :
      Writes world (.answer caller) world.server.admitted
        (⟨world.server.lastId + 1, true⟩ :: world.outside)
        (some (.ok (.connected ⟨world.server.lastId + 1, true⟩)))
  | disconnects {session : Session} (member : session ∈ world.outside) :
      Writes world (.disconnect session.id) (world.server.disconnect session)
        (replaced world.outside session.id session.closed) (some (.ok .disconnected))

/-- A session that is found outside is there, under its name. -/
theorem mem_outside {world : World} {id : Nat} {session : Session}
    (held : world.outside? id = some session) : session ∈ world.outside ∧ session.id = id :=
  ⟨List.mem_of_find?_eq_some held, by simpa using List.find?_some held⟩

theorem Deals.writes {world : World} {dealing : Dealing} {server : Server}
    {sessions : List Session} {errands : List Errand} {told : Option Answer}
    (deals : Deals world dealing server sessions errands told) (faultless : world.Faultless) :
    Writes world dealing server sessions told := by
  have same : world.server.Agrees world.server := ⟨rfl, rfl, rfl⟩
  cases deals with
  | nothing => exact .nothing same rfl rfl rfl
  | connects due =>
      rw [faultless.startConnect_eq]
      exact .nothing same rfl rfl rfl
  | @probes id session due held free =>
      obtain ⟨probes, counted⟩ := world.server.startProbe_eq session
      rw [counted]
      exact .nothing ⟨rfl, rfl, rfl⟩ rfl rfl rfl
  | executes statement held free =>
      rw [faultless.execute_eq]
      exact .nothing same rfl rfl rfl
  | queries statement held free =>
      rw [faultless.query_eq]
      exact .nothing same rfl rfl rfl
  | disconnects held free =>
      obtain ⟨member, rfl⟩ := mem_outside held
      exact .disconnects member
  | connected waits work opens =>
      cases faultless.login waits work opens
      exact .opens _
  | failed waits work fails =>
      cases faultless.login waits work fails <;> exact .nothing ⟨rfl, rfl, rfl⟩ rfl rfl rfl
  | probed waits work => exact .nothing same rfl rfl rfl
  | obeys order =>
      refine .nothing (world.server.agrees_obey _) ?_ rfl rfl
      cases order <;> rfl

section Writes

variable {world : World} {dealing : Dealing} {server : Server} {sessions : List Session}
  {told : Option Answer} (writes : Writes world dealing server sessions told)

include writes

theorem Writes.books (books : Books world.server world.outside) : Books server sessions := by
  cases writes with
  | nothing agrees connects => exact books.congr agrees connects
  | opens caller => exact books.admitted
  | disconnects member => exact books.disconnect member

/-- Sessions are numbered as they are opened. -/
theorem Writes.range'_eq : List.range' 1 server.lastId =
    List.range' 1 world.server.lastId ++ opened (lines dealing told) := by
  cases writes with
  | nothing agrees connects opens => rw [agrees.lastId_eq, opens, List.append_nil]
  | opens caller =>
      rw [Server.admitted, List.range'_1_concat, Nat.add_comm 1]
      rfl
  | disconnects member => exact (List.append_nil _).symm

theorem Writes.disconnects_eq :
    server.disconnects = (disconnected (lines dealing told)).reverse ++
      world.server.disconnects := by
  cases writes with
  | nothing agrees connects _ disconnects => rw [agrees.disconnects_eq, disconnects]; rfl
  | opens caller => rfl
  | disconnects member => rfl

end Writes

/-! ### Along a history -/

theorem faultless_dealt (dealings : List Dealing) : (dealt dealings).Faultless := by
  induction dealings using List.reverseRecOn with
  | nil => exact faultless_new
  | append_singleton before dealing ih =>
      rw [dealt_concat]
      exact ih.deal dealing

theorem writes_dealt (before : List Dealing) (dealing : Dealing) :
    Writes (dealt before) dealing ((dealt before).deal dealing).server
      ((dealt before).deal dealing).outside ((dealt before).told? dealing) :=
  ((dealt before).deals dealing).writes (faultless_dealt before)

theorem books_dealt (dealings : List Dealing) :
    Books (dealt dealings).server (dealt dealings).outside := by
  induction dealings using List.reverseRecOn with
  | nil => exact .new
  | append_singleton before dealing ih =>
      rw [dealt_concat]
      exact (writes_dealt before dealing).books ih

/-- Callers are told of sessions `1`, `2`, `3` and so on. -/
theorem opened_log (dealings : List Dealing) :
    opened (World.new.log dealings) = List.range' 1 (dealt dealings).server.lastId := by
  induction dealings using List.reverseRecOn with
  | nil => rfl
  | append_singleton before dealing ih =>
      rw [log_concat, opened_append, ih, dealt_concat, (writes_dealt before dealing).range'_eq]

/-- Whoever has been told of a session still knows of it. -/
theorem mem_opened_iff (dealings : List Dealing) (id : Nat) :
    id ∈ opened (World.new.log dealings) ↔ id ∈ (dealt dealings).outside.map (·.id) := by
  rw [opened_log, (books_dealt dealings).ids_eq, List.mem_reverse]

theorem disconnected_log (dealings : List Dealing) :
    disconnected (World.new.log dealings) = (dealt dealings).server.disconnects.reverse := by
  induction dealings using List.reverseRecOn with
  | nil => rfl
  | append_singleton before dealing ih =>
      rw [log_concat, disconnected_append, ih, dealt_concat,
        (writes_dealt before dealing).disconnects_eq, List.reverse_append, List.reverse_reverse]

end World

end SessionPool

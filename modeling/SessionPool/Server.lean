import SessionPool.Error
import SessionPool.Session
import SessionPool.Text.Blank

/-!
# The database server

A server in memory that follows a script: it can be told to refuse logins, to let some of them fail,
to take its time, to sever sessions, and to report given errors. It counts what is asked of it, so
that one can see afterwards how many sessions were opened and how often each was disconnected.

Connecting and probing take time, so both come in two halves. The first half is what happens when
the request arrives, the second what happens when the answer leaves; the verdict always belongs to
the second.
-/

namespace SessionPool

/-- The server: what it has been told to do, and what it has counted. -/
structure Server where
  /-- The name of the last session that was opened; the first is `1`. -/
  lastId : Nat
  /-- Whether every login is refused. -/
  refusing : Bool
  /-- How many of the next logins fail that are not refused. -/
  failing : Nat
  connectDelay : Nat
  probeDelay : Nat
  /-- Logins that succeeded. -/
  connects : Nat
  /-- Probes that arrived. -/
  probes : Nat
  /-- The sessions that are connected, newest first. -/
  openIds : List Nat
  /-- The sessions that have been severed. -/
  killed : List Nat
  /-- The session of every disconnect, newest first. -/
  disconnects : List Nat
  /-- Errors that the next connects meet on the way, oldest first. -/
  connectFaults : List SessionError
  /-- Errors that the next statement on a session meets on the way, at most one a session. -/
  statementFaults : List (Nat × SessionError)
deriving DecidableEq, Repr

/-- A connect on its way: one that meets an error before it reaches the server, or one that the
server will answer. -/
inductive Attempt where
  | faulted (error : SessionError)
  | reaching
deriving DecidableEq, Repr

namespace Server

/-- A server that accepts every login at once. -/
def new : Server where
  lastId := 0
  refusing := false
  failing := 0
  connectDelay := 0
  probeDelay := 0
  connects := 0
  probes := 0
  openIds := []
  killed := []
  disconnects := []
  connectFaults := []
  statementFaults := []

/-! ### The script -/

/-- What a server can be told. -/
inductive Command where
  | refuse (on : Bool)
  | failNext (count : Nat)
  | connectDelay (delay : Nat)
  | probeDelay (delay : Nat)
  | kill (id : Nat)
  | killAll
  | connectFault (error : SessionError)
  | statementFault (id : Nat) (error : SessionError)
deriving DecidableEq, Repr

/-- Do as told. Severing all sessions means those that are open now. -/
def obey (server : Server) : Command → Server
  | .refuse on => { server with refusing := on }
  | .failNext count => { server with failing := count }
  | .connectDelay delay => { server with connectDelay := delay }
  | .probeDelay delay => { server with probeDelay := delay }
  | .kill id => { server with killed := id :: server.killed }
  | .killAll => { server with killed := server.openIds ++ server.killed }
  | .connectFault error => { server with connectFaults := server.connectFaults ++ [error] }
  | .statementFault id error =>
      { server with
        statementFaults := (id, error) :: server.statementFaults.filter (·.1 != id) }

/-! ### The counts -/

/-- How many sessions are connected. -/
def openCount (server : Server) : Nat := server.openIds.length

/-- How often a session was disconnected. -/
def disconnectCount (server : Server) (id : Nat) : Nat := server.disconnects.count id

/-- The highest number of disconnects that any one session has seen. -/
def maxDisconnects (server : Server) : Nat :=
  (server.disconnects.map server.disconnectCount).foldl max 0

/-! ### Connecting -/

/-- Every login is refused. -/
def refusedError : SessionError := .connectFailed "server refused connection"

/-- The login was one of those that are to fail. -/
def loginError : SessionError := .connectFailed "login timeout expired"

/-- A connect leaves. The oldest error that waits for one takes it. -/
def startConnect (server : Server) : Server × Attempt :=
  match server.connectFaults with
  | [] => (server, .reaching)
  | error :: later => ({ server with connectFaults := later }, .faulted error)

/-- How long the answer to a connect that leaves now will take. -/
def connectTime (server : Server) : Attempt → Nat
  | .faulted _ => 0
  | .reaching => server.connectDelay

/-- The answer to a connect. A refused login does not use up a failure that has been asked for. -/
def finishConnect (server : Server) : Attempt → Server × Except SessionError Session
  | .faulted error => (server, .error error)
  | .reaching =>
      if server.refusing then (server, .error refusedError)
      else if 0 < server.failing then
        ({ server with failing := server.failing - 1 }, .error loginError)
      else
        let id := server.lastId + 1
        ({ server with
            lastId := id
            openIds := id :: server.openIds
            connects := server.connects + 1 },
          .ok ⟨id, true⟩)

/-- The owner of a session disconnects it. Every call counts, but only the first closes it. -/
def disconnect (server : Server) (session : Session) : Server :=
  { server with
    disconnects := session.id :: server.disconnects
    openIds := if session.connected then server.openIds.erase session.id else server.openIds }

/-- A disconnect is counted for its session, and for no other. -/
theorem disconnectCount_disconnect (server : Server) (session : Session) (id : Nat) :
    (server.disconnect session).disconnectCount id =
      server.disconnectCount id + if session.id = id then 1 else 0 := by
  unfold disconnectCount disconnect
  rw [List.count_cons]
  by_cases same : session.id = id <;> simp [same]

/-! ### Probing -/

/-- Whether the session has been severed. -/
def isKilled (server : Server) (id : Nat) : Bool := server.killed.contains id

/-- A probe leaves. One on a session that has been disconnected does not reach the server. -/
def startProbe (server : Server) (session : Session) : Server :=
  if session.connected then { server with probes := server.probes + 1 } else server

/-- How long the answer to a probe that leaves now will take. -/
def probeTime (server : Server) (session : Session) : Nat :=
  if session.connected then server.probeDelay else 0

/-- The answer to a probe: whether the session is alive. -/
def answers (server : Server) (session : Session) : Bool :=
  session.connected && !server.isKilled session.id

/-- A session is alive if neither its owner nor the server has ended it. -/
theorem answers_eq_true_iff {server : Server} {session : Session} :
    server.answers session = true ↔ session.connected = true ∧ session.id ∉ server.killed := by
  simp [answers, isKilled]

/-! ### Statements -/

/-- The session has been disconnected. -/
def notConnectedError : SessionError := .connectionLost "not connected"

/-- The statement is blank. -/
def blankError : SessionError := .queryFailed "empty statement"

/-- The session has been severed. -/
def terminatedError (id : Nat) : SessionError :=
  .connectionLost ("session " ++ Nat.repr id ++ " terminated by server")

/-- Why the server would not run a statement on this session. -/
def objection? (server : Server) (session : Session) (statement : String) :
    Option SessionError :=
  if !session.connected then some notConnectedError
  else if server.isKilled session.id then some (terminatedError session.id)
  else if Text.isBlank statement then some blankError
  else none

/-- The server runs a statement exactly if the session is alive and the statement is not blank. -/
theorem objection?_eq_none_iff {server : Server} {session : Session} {statement : String} :
    server.objection? session statement = none ↔
      server.answers session = true ∧ Text.isBlank statement = false := by
  unfold objection? answers
  cases session.connected with
  | false => simp
  | true =>
      cases server.isKilled session.id with
      | true => simp
      | false => cases Text.isBlank statement <;> simp

/-- Send a statement. The error that waits for the next statement on the session takes it, and is
used up by that. -/
def run (server : Server) (session : Session) (statement : String) :
    Server × Option SessionError :=
  match server.statementFaults.find? (·.1 == session.id) with
  | some fault =>
      ({ server with
          statementFaults := server.statementFaults.filter (·.1 != session.id) },
        some fault.2)
  | none => (server, server.objection? session statement)

/-- Run a statement for its effect, and say how many rows it touched. -/
def execute (server : Server) (session : Session) (statement : String) :
    Server × Except SessionError Nat :=
  match server.run session statement with
  | (server, some error) => (server, .error error)
  | (server, none) => (server, .ok 1)

/-- Run a statement for its rows. The server answers with the statement itself. -/
def query (server : Server) (session : Session) (statement : String) :
    Server × Except SessionError (List String) :=
  match server.run session statement with
  | (server, some error) => (server, .error error)
  | (server, none) => (server, .ok [statement])

end Server

end SessionPool

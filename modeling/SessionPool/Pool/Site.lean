import SessionPool.Pool.Basic

/-!
# A pool at work

A site is what an agent of a pool works on: the clock, the server and the pool itself. An operation
of the pool takes the site as it finds it and ends in a turn: the site as the agent leaves it, and
the answer to the agent's call, unless the agent has to wait first. Nobody else acts during a turn.
-/

namespace SessionPool

/-- What a call to a pool gives if it succeeds. -/
inductive Pool.Reply where
  | done
  | opened
  | lent (lease : Lease)
  /-- Nothing is free, and the caller did not want to wait. -/
  | noneFree
  | swept (report : Pool.Report)
  | rows (count : Nat)
  | texts (texts : List String)
  | detached (session : Session)
deriving DecidableEq, Repr

/-- What a call to a pool gives. -/
abbrev Pool.Answer := Except PoolError Pool.Reply

/-- The clock, the server and one pool. -/
structure Site where
  now : Nat
  server : Server
  pool : Pool
deriving DecidableEq, Repr

/-- The end of an agent's turn. Without an answer, the agent waits; a checker that neither answers
nor waits has ended. -/
abbrev Turn := Site × Option Pool.Answer

namespace Site

open Pool (Agent Phase Task Answer Reply)

/-- Change the pool. -/
def withPool (site : Site) (change : Pool → Pool) : Site :=
  { site with pool := change site.pool }

/-- The call is over. -/
def answer (site : Site) (answer : Answer) : Turn := (site, some answer)

/-- The agent waits until `due` comes, or until it is woken. -/
def wait (site : Site) (agent : Agent) (phase : Phase) (due : Option Nat) : Turn :=
  (site.withPool (·.park ⟨agent, phase, due⟩), none)

/-- Disconnect a connection for which the pool does not account any more. -/
def dispose (site : Site) (connection : Connection) : Site :=
  { site with
    server := site.server.disconnect connection.session
    pool := site.pool.count (·.closed) }

/-- Disconnect several connections, one after the other. -/
def disposeAll (site : Site) (connections : List Connection) : Site :=
  connections.foldl dispose site

/-- Probe a session and wait for the answer. -/
def probe (site : Site) (agent : Agent) (session : Session) (phase : Phase) : Turn :=
  { site with server := site.server.startProbe session }.wait agent phase
    (some (site.now + site.server.probeTime session))

/-- Connect to the server and wait for the answer. The connection has its number and its record
before it is made. -/
def connect (site : Site) (agent : Agent) (phase : Metadata → Attempt → Phase) : Turn :=
  let metadata := Metadata.new site.pool.nextId site.now
  let (server, attempt) := site.server.startConnect
  { site with server, pool := { site.pool with nextId := site.pool.nextId + 1 } }.wait agent
    (phase metadata attempt) (some (site.now + server.connectTime attempt))

/-- The answer to a connect has come. -/
def connected (site : Site) (metadata : Metadata) (attempt : Attempt) :
    Site × Except SessionError Connection :=
  match site.server.finishConnect attempt with
  | (server, .ok session) =>
      ({ site with server, pool := site.pool.count (·.created) },
        .ok (Connection.ofSession session metadata))
  | (server, .error error) => ({ site with server }, .error error)

end Site

end SessionPool

import SessionPool.Session

/-!
# Connections

A connection is a session together with the record that the pool keeps of it: when it was made, when
it was last used, how often it has been lent, and whether it may be lent again.
-/

namespace SessionPool

/-- Where a connection is in its life. -/
inductive ConnectionState where
  | created
  | connected
  | broken
  | disposed
deriving DecidableEq, Repr

/-- Only a connection that is believed to work may be lent again. -/
def ConnectionState.isReusable (state : ConnectionState) : Bool := state == .connected

/-- The record that a pool keeps of one connection. The number is unique within the pool. -/
structure Metadata where
  id : Nat
  createdAt : Nat
  lastUsed : Nat
  /-- How often the connection has been lent. -/
  checkouts : Nat
  state : ConnectionState
deriving DecidableEq, Repr

namespace Metadata

/-- The record of a connection that is about to be made. -/
def new (id now : Nat) : Metadata := ⟨id, now, now, 0, .created⟩

/-- The time since the connection was made. -/
def age (metadata : Metadata) (now : Nat) : Nat := now - metadata.createdAt

/-- The time since the connection was last used. -/
def idleTime (metadata : Metadata) (now : Nat) : Nat := now - metadata.lastUsed

/-- Whether the connection has been unused for longer than `limit`. -/
def isIdleExpired (metadata : Metadata) (limit now : Nat) : Bool :=
  limit < metadata.idleTime now

/-- The connection is being used now. -/
def touch (metadata : Metadata) (now : Nat) : Metadata := { metadata with lastUsed := now }

/-- The connection is being lent now. -/
def checkOut (metadata : Metadata) (now : Nat) : Metadata :=
  { metadata with checkouts := metadata.checkouts + 1, lastUsed := now }

/-- What a record says at one point of time. -/
structure View where
  id : Nat
  checkouts : Nat
  state : ConnectionState
  reusable : Bool
  age : Nat
  idleTime : Nat
deriving DecidableEq, Repr

/-- What the record says now. -/
def view (metadata : Metadata) (now : Nat) : View where
  id := metadata.id
  checkouts := metadata.checkouts
  state := metadata.state
  reusable := metadata.state.isReusable
  age := metadata.age now
  idleTime := metadata.idleTime now

end Metadata

/-- A session and the record that the pool keeps of it. -/
structure Connection where
  session : Session
  metadata : Metadata
deriving DecidableEq, Repr

namespace Connection

/-- The number of the connection within its pool. -/
abbrev id (connection : Connection) : Nat := connection.metadata.id

/-- The connection of a session that has just been opened or accepted. -/
def ofSession (session : Session) (metadata : Metadata) : Connection :=
  ⟨session, { metadata with state := .connected }⟩

/-- Whether the connection may be lent again. -/
def isReusable (connection : Connection) : Bool := connection.metadata.state.isReusable

/-- The connection must never be lent again. -/
def broken (connection : Connection) : Connection :=
  { connection with metadata := { connection.metadata with state := .broken } }

/-- The connection is being used now. -/
def touch (connection : Connection) (now : Nat) : Connection :=
  { connection with metadata := connection.metadata.touch now }

/-- The connection is being lent now. -/
def checkOut (connection : Connection) (now : Nat) : Connection :=
  { connection with metadata := connection.metadata.checkOut now }

@[simp]
theorem id_ofSession (session : Session) (metadata : Metadata) :
    (ofSession session metadata).id = metadata.id :=
  rfl

@[simp]
theorem id_broken (connection : Connection) : connection.broken.id = connection.id :=
  rfl

@[simp]
theorem id_touch (connection : Connection) (now : Nat) :
    (connection.touch now).id = connection.id :=
  rfl

@[simp]
theorem id_checkOut (connection : Connection) (now : Nat) :
    (connection.checkOut now).id = connection.id :=
  rfl

/-- A connection that has just been opened or accepted may be lent. -/
@[simp]
theorem isReusable_ofSession (session : Session) (metadata : Metadata) :
    (ofSession session metadata).isReusable = true :=
  rfl

/-- A broken connection is never lent again. -/
@[simp]
theorem isReusable_broken (connection : Connection) : connection.broken.isReusable = false :=
  rfl

/-- Being used does not mend a connection, nor break it. -/
@[simp]
theorem isReusable_touch (connection : Connection) (now : Nat) :
    (connection.touch now).isReusable = connection.isReusable :=
  rfl

@[simp]
theorem isReusable_checkOut (connection : Connection) (now : Nat) :
    (connection.checkOut now).isReusable = connection.isReusable :=
  rfl

end Connection

end SessionPool

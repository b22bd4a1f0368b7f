import SessionPool.Pool.Resume

/-!
# Worlds

A world is one server, one clock, all pools that were ever made, and the sessions that belong to
no pool. Agents work in it by turns. A call on a pool leaves its unfinished work in that pool; a
call on a session outside of the pools leaves it with the world, as an errand.
-/

namespace SessionPool

/-- A claim to a connection that a pool has lent. -/
structure Handle where
  pool : Nat
  ticket : Nat
deriving DecidableEq, Repr

/-- Where the owner of a session keeps it: in a lease, or outside of all pools. -/
inductive Holder where
  | lease (handle : Handle)
  | outside (id : Nat)
deriving DecidableEq, Repr

/-- What a caller waits for who deals with the server itself. -/
inductive Errand.Work where
  | connecting (attempt : Attempt)
  | probing (session : Session)
deriving DecidableEq, Repr

/-- A caller who waits for an answer of the server until `due`. -/
structure Errand where
  caller : Nat
  work : Errand.Work
  due : Nat
deriving DecidableEq, Repr

/-- Everything there is. A pool is known by its place in the list, which it keeps after its owner
has let go of it, and a session outside of the pools by the name that the server gave it. -/
structure World where
  now : Nat
  server : Server
  pools : List Pool
  outside : List Session
  errands : List Errand
  /-- How many calls have been made, and so the number of the next. -/
  callers : Nat
deriving DecidableEq, Repr

namespace World

/-- A world without pools, at the beginning of time. -/
def new : World := ⟨0, .new, [], [], [], 0⟩

/-! ### Pools -/

/-- Let somebody work in a pool. -/
def inPool (world : World) (index : Nat) (work : Site → Turn) : World × Option Pool.Answer :=
  match world.pools[index]? with
  | none => (world, none)
  | some pool =>
      let (site, answer) := work ⟨world.now, world.server, pool⟩
      ({ world with server := site.server, pools := world.pools.set index site.pool }, answer)

/-- Whether a pool can be called. -/
def isOpen (world : World) (index : Nat) : Bool :=
  match world.pools[index]? with
  | some pool => pool.isOpen
  | none => false

/-- Whether the owner of a pool can let go of it. -/
def isDroppable (world : World) (index : Nat) : Bool :=
  match world.pools[index]? with
  | some pool => pool.isDroppable
  | none => false

/-- What a handle is a claim to, if it is still good. -/
def lease? (world : World) (handle : Handle) : Option Lease :=
  world.pools[handle.pool]?.bind (·.lease? handle.ticket)

/-! ### Sessions -/

/-- A session that belongs to no pool. -/
def outside? (world : World) (id : Nat) : Option Session :=
  world.outside.find? (·.id == id)

/-- The session that an owner holds. -/
def session? (world : World) : Holder → Option Session
  | .lease handle => (world.lease? handle).map (·.connection.session)
  | .outside id => world.outside? id

/-- The session is now as its owner has left it. -/
def putSession (world : World) (holder : Holder) (session : Session) : World :=
  match holder with
  | .outside id =>
      { world with
        outside := world.outside.map fun old => if old.id == id then session else old }
  | .lease handle =>
      { world with
        pools := world.pools.modify handle.pool fun pool =>
          match pool.lease? handle.ticket with
          | some lease => pool.updateLease handle.ticket { lease.connection with session }
          | none => pool }

/-- Whether the owner of a session is waiting for the answer to a probe of it. -/
def isProbed (world : World) (id : Nat) : Bool :=
  world.errands.any fun errand =>
    match errand.work with
    | .probing session => session.id == id
    | .connecting _ => false

/-- Whether the owner can do something with what it holds: there is no telling with a handle that is
not good any more, and else it must not be busy. -/
def isFree (world : World) (holder : Holder) : Bool :=
  match world.session? holder with
  | some session => !world.isProbed session.id
  | none =>
      match holder with
      | .lease handle => handle.pool < world.pools.length
      | .outside _ => false

end World

end SessionPool

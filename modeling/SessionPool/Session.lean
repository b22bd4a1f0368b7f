/-!
# Sessions

A session is one conversation with the database server. Whoever holds the value owns the session:
nobody else can disconnect it or send statements on it.
-/

namespace SessionPool

/-- A session as its owner sees it: the name the server gave it, and whether it has not been
disconnected yet. -/
structure Session where
  id : Nat
  connected : Bool
deriving DecidableEq, Repr

/-- The session after its owner has disconnected it. -/
def Session.closed (session : Session) : Session := { session with connected := false }

end SessionPool

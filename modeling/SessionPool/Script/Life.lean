import SessionPool.Connection

/-!
# The life of one record

What a record of a connection says while time passes, it is touched, and its state is set. The
record is made at the beginning of time.
-/

namespace SessionPool.Script

/-- What happens to the record, or is asked of it. -/
inductive LifeStep where
  | advance (duration : Nat)
  | touch
  | setState (state : ConnectionState)
  | isIdleExpired (limit : Nat)
deriving DecidableEq, Repr

/-- What the record says. -/
inductive LifeSign where
  | view (view : Metadata.View)
  | expired (value : Bool)
deriving DecidableEq, Repr

/-- What the record says to each step. -/
def lifeSigns (metadata : Metadata) (now : Nat) : List LifeStep → List LifeSign
  | [] => []
  | .advance duration :: later =>
      .view (metadata.view (now + duration)) :: lifeSigns metadata (now + duration) later
  | .touch :: later =>
      let touched := metadata.touch now
      .view (touched.view now) :: lifeSigns touched now later
  | .setState state :: later =>
      let changed := { metadata with state }
      .view (changed.view now) :: lifeSigns changed now later
  | .isIdleExpired limit :: later =>
      .expired (metadata.isIdleExpired limit now) :: lifeSigns metadata now later

/-- What a new record says at first, and then to each step. -/
def life (id : Nat) (steps : List LifeStep) : List LifeSign :=
  let metadata := Metadata.new id 0
  .view (metadata.view 0) :: lifeSigns metadata 0 steps

end SessionPool.Script

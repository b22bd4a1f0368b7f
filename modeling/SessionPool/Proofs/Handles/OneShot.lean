import Mathlib.Data.List.Induction
import SessionPool.Proofs.Handles.Uses
import SessionPool.Script.Run

/-!
# A lease is given back at most once

However a caller ends its lease, by giving the connection back, by saying that it is of no use, by
keeping its session or by throwing the handle away, the first time counts and no other does.
Whatever is done through the handle after that changes nothing at all, even when somebody else has
got the same session in the meantime.
-/

namespace SessionPool

/-! ### Looking at a handle -/

/-- A script that looks at a handle is told that it is not good any more. -/
structure Script.Desk.Rejects (desk : Desk) (handle : String) : Prop where
  connectionId (place : Nat) : desk.take place (.connectionId handle) =
    .ok ⟨desk, .failed (.pool .invalidHandle), []⟩
  metadata (place : Nat) : desk.take place (.metadata handle) =
    .ok ⟨desk, .failed (.pool .invalidHandle), []⟩
  sessionInfo (place : Nat) : desk.take place (.sessionInfo (.handle handle)) =
    .ok ⟨desk, .failed (.pool .invalidHandle), []⟩

namespace World

open Pool (Job)

/-! ### The first time and every other -/

/-- A call that ends a lease does with the connection what it is meant to do. -/
def Parts (world : World) (handle : Handle) (request : Request) : Prop :=
  ∃ pool lease job turn, world.pools[handle.pool]? = some pool ∧
    pool.lease? handle.ticket = some lease ∧ request.job? = some (handle.pool, job) ∧
    job.Parts ((world.site pool).withPool (·.endLease handle.ticket)) world.callers
      lease.connection turn ∧
    world.call request = (({ world with
        callers := world.callers + 1
        server := turn.1.server
        pools := world.pools.set handle.pool turn.1.pool } : World).keepDetached turn.2,
      ending handle.pool (.caller world.callers) turn)

/-- What becomes of a handle, whatever happens. -/
structure IsOneShot (world : World) (handle : Handle) : Prop where
  /-- It is good until its lease is ended, and never again. -/
  valid (moves : List Move) :
    ((world.after moves).lease? handle).isSome = (endings handle world moves == 0)
  /-- The first call that ends the lease takes effect. -/
  first {moves : List Move} (before : endings handle world moves = 0) {request : Request}
    (ends : request.ends? = some handle)
    (accepted : (world.after moves).accepts request = true) :
    (world.after moves).Parts handle request
  /-- After that, no call through the handle does anything but to be counted as a call. -/
  later {moves : List Move} (ended : 0 < endings handle world moves) {request : Request}
    (through : request.handle? = some handle) :
    (world.after moves).call request =
      ({ world.after moves with callers := (world.after moves).callers + 1 },
        some ⟨request.thread (world.after moves), request.rejection⟩)
  /-- A script that asks is told how things are. -/
  isValid (moves : List Move) {desk : Script.Desk} (here : desk.world = world.after moves)
    {name : String} (named : desk.findHandle name = .ok handle) (place : Nat) :
    desk.take place (.isValid name) = .ok (desk.say (.truth (endings handle world moves == 0)))
  rejects {moves : List Move} (ended : 0 < endings handle world moves) {desk : Script.Desk}
    (here : desk.world = world.after moves) {name : String}
    (named : desk.findHandle name = .ok handle) : desk.Rejects name

section Stale

variable {world : World} {handle : Handle}

theorem endings_append (before : World) (moves : List Move) (last : Move) :
    endings handle before (moves ++ [last]) =
      endings handle before moves + (last.ends (before.after moves) handle).toNat := by
  induction moves generalizing before with
  | nil => simp [endings, after]
  | cons move later ih =>
      rw [List.cons_append, endings, ih, endings, Nat.add_assoc]
      rfl

/-- In every run a handle is good until its lease is ended, and stale from then on. -/
theorem good_or_isStale (possible : Possible world) {lease : Lease}
    (good : world.lease? handle = some lease) (moves : List Move) :
    (endings handle world moves = 0 ∧ ∃ held, (world.after moves).lease? handle = some held) ∨
      (0 < endings handle world moves ∧ (world.after moves).IsStale handle) := by
  induction moves using List.reverseRecOn with
  | nil => exact .inl ⟨rfl, lease, good⟩
  | append_singleton moves last ih =>
      rw [endings_append, after_concat]
      rcases ih with ⟨unended, held, goodHere⟩ | ⟨ended, stale⟩
      · have possibleHere := possible.after moves
        cases ends : last.ends (world.after moves) handle with
        | false =>
            obtain ⟨connection, still, _⟩ := lease?_move possibleHere goodHere ends
            exact .inl ⟨unended, _, still⟩
        | true =>
            have stale := isStale_of_ends possibleHere goodHere ends
            exact .inr ⟨Nat.succ_pos _, stale⟩
      · exact .inr ⟨Nat.add_pos_left ended _, stale.move last⟩

/-- A script that looks at a stale handle learns so. -/
theorem IsStale.rejects {desk : Script.Desk} (isStale : desk.world.IsStale handle) {name : String}
    (named : desk.findHandle name = .ok handle) : desk.Rejects name := by
  have stale := isStale.lease?_eq
  have unheld : desk.world.session? (.lease handle) = none := by
    rw [session?, stale]
    rfl
  have inspects (look : Connection → Script.Value) :
      desk.inspectLease name look = .ok ⟨desk, .failed (.pool .invalidHandle), []⟩ := by
    simp only [Script.Desk.inspectLease, named, bind, Except.bind, stale]
    rfl
  constructor
  · intro place
    rw [Script.Desk.take]
    exact inspects _
  · intro place
    rw [Script.Desk.take]
    exact inspects _
  · intro place
    simp only [Script.Desk.take, Script.Desk.findTarget, named, bind, Except.bind, pure,
      Except.pure, unheld]

end Stale

/-! ### The theorem -/

section OneShot

variable {world : World} (possible : Possible world) {handle : Handle} {lease : Lease}
  (good : world.lease? handle = some lease)

include possible good

/-- The first call that ends a lease is the one that counts. Every later call through the handle is
turned away and changes nothing, whatever has happened to the pool and to the session meanwhile. -/
theorem lease_ends_once : world.IsOneShot handle := by
  have valid (moves : List Move) :
      ((world.after moves).lease? handle).isSome = (endings handle world moves == 0) := by
    rcases good_or_isStale possible good moves with ⟨unended, held, here⟩ | ⟨ended, stale⟩
    · rw [here, unended]
      rfl
    · rw [stale.lease?_eq, beq_false_of_ne (Nat.ne_of_gt ended)]
      rfl
  have isStale {moves : List Move} (ended : 0 < endings handle world moves) :
      (world.after moves).IsStale handle := by
    rcases good_or_isStale possible good moves with ⟨unended, _⟩ | ⟨_, stale⟩
    · exact absurd unended (Nat.ne_of_gt ended)
    · exact stale
  refine ⟨valid, ?_, ?_, ?_, ?_⟩
  case refine_1 =>
    intro moves unended request ends accepted
    have here := valid moves
    rw [unended, beq_self_eq_true] at here
    obtain ⟨held, goodHere⟩ := Option.isSome_iff_exists.mp here
    obtain ⟨pool, found, inside⟩ := exists_of_lease? goodHere
    have sound := (possible.after moves).sound pool (List.mem_of_getElem? found)
    obtain ⟨job, asks, ending⟩ := Request.job?_of_ends ends
    exact ⟨pool, held, job, _, found, inside, asks, sound.parts inside ending _,
      call_eq_turn accepted asks found⟩
  case refine_2 => exact fun ended _ through => (isStale ended).call_eq through
  case refine_3 =>
    intro moves desk here name named place
    rw [← valid moves, ← here]
    simp only [Script.Desk.take, named, bind, Except.bind]
    rfl
  case refine_4 =>
    intro moves ended desk here name named
    have stale := isStale ended
    rw [← here] at stale
    exact stale.rejects named

end OneShot

/-- A pool with one connection, which a caller has got. -/
def lentOut : World :=
  let config : Config := { Config.default with minConnections := 0, maxConnections := 1 }
  (Trace.follow ⟨new, []⟩ [.call (.openPool config), .call (.get 0),
    .resume (.inPool 0 (.caller 1))]).world

theorem possible_lentOut : Possible lentOut :=
  (Reachable.follow .new _).possible

/-- The connection comes back and is lent to somebody else. What the first caller does with its
handle after that does not touch the session, which is the same. -/
theorem lease_ends_once_lentOut :
    let handle : Handle := ⟨0, 1⟩
    let moves := [.act (.call (.release handle)), .act (.call (.get 0)),
      .act (.resume (.inPool 0 (.caller 3)))]
    (lentOut.lease? handle).isSome = true ∧ endings handle lentOut moves = 1 ∧
      ((lentOut.after moves).lease? ⟨0, 3⟩).map (·.connection.name) =
        (lentOut.lease? handle).map (·.connection.name) ∧
      lentOut.IsOneShot handle := by
  have good : lentOut.lease? ⟨0, 1⟩ = some ((lentOut.lease? ⟨0, 1⟩).get (by decide)) := by decide
  exact ⟨by decide, by decide, by decide, lease_ends_once possible_lentOut good⟩

end World

end SessionPool

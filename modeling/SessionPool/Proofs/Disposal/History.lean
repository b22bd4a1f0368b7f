import Mathlib.Algebra.Order.BigOperators.Group.List
import Mathlib.Algebra.Order.Group.Nat
import SessionPool.Proofs.Disposal.Carry

/-!
# Every session is disconnected once

A history is a run in which one keeps in mind what the world forgets: which sessions their owners
have disconnected themselves, which sessions each pool has connected or been given, and which have
been detached. Whatever happens, the pools disconnect no session twice, and none that is lent, idle
or detached; and a pool that is over has disconnected every session that it had.
-/

namespace SessionPool.World

/-! ### What is kept in mind -/

/-- The session that its owner disconnects. -/
def Action.closes (world : World) : Action → List Nat
  | .call (.disconnect holder) =>
      if world.accepts (.disconnect holder) then
        (world.session? holder).toList.map (·.id)
      else []
  | _ => []

/-- The session that is given to a pool, or that a pool has just connected, with that pool. -/
def Action.enters (world after : World) : Action → List (Nat × Nat)
  | .call (.adopt index id) => if world.accepts (.adopt index id) then [(index, id)] else []
  | .resume (.inPool index _) =>
      if world.server.lastId < after.server.lastId then [(index, after.server.lastId)] else []
  | _ => []

/-- The session that has been detached, with the pool from which it was. -/
def leaves : Option Event → List (Nat × Nat)
  | some ⟨.inPool index _, .ok (.pool (.detached session))⟩ => [(index, session.id)]
  | _ => []

theorem leaves_inPool (index : Nat) (agent : Pool.Agent) (answer : Option Pool.Answer) :
    leaves ((answer.map ofPool).map (⟨.inPool index agent, ·⟩)) =
      (Pool.handedOut answer).map (index, ·) := by
  rcases answer with _ | error | reply
  · rfl
  · rfl
  · cases reply <;> rfl

theorem leaves_errand (caller : Nat) (answer : Option Answer) :
    leaves (answer.map (⟨.errand caller, ·⟩)) = [] := by
  cases answer <;> rfl

/-- A run up to now. -/
structure History where
  world : World
  /-- The sessions that their owners have disconnected, once for each time. -/
  closed : List Nat
  /-- The sessions that each pool has connected or been given, and not handed out for good. -/
  taken : List (Nat × Nat)
  /-- The sessions that have been detached, and not been given to a pool since. -/
  detached : List Nat

namespace History

/-- Nothing has happened. -/
def new : History := ⟨World.new, [], [], []⟩

/-- Keep in mind what has happened. What enters a pool and leaves it at once is not there. -/
def record (history : History) (after : World) (closed : List Nat)
    (entered left : List (Nat × Nat)) : History where
  world := after
  closed := closed ++ history.closed
  taken := (entered ++ history.taken).filter fun entry => !left.contains entry
  detached := left.map (·.2) ++
    history.detached.filter fun id => !(entered.map (·.2)).contains id

/-- One move more. -/
def move (history : History) : Move → History
  | .act action =>
      let (after, event) := history.world.step action
      history.record after (action.closes history.world) (action.enters history.world after)
        (leaves event)
  | other => history.record (history.world.move other) [] [] []

/-- A run from a new world. -/
def run (moves : List Move) : History := moves.foldl move new

/-- How often the pools have disconnected a session: each disconnect counts that no owner has asked
for. -/
def disposals (history : History) (id : Nat) : Nat :=
  history.world.server.disconnectCount id - history.closed.count id

/-! ### The invariant -/

/-- What is true of every history: each session that the server has opened is in one place, and
those in mind are where they should be. -/
structure Settled (history : History) : Prop where
  possible : Possible history.world
  places_eq (id : Nat) :
    history.world.places id = (if id = 0 then 0 else 1) + history.closed.count id
  closed_le (id : Nat) : history.closed.count id ≤ history.world.server.disconnectCount id
  /-- A session that a pool has taken is still there, or has been disconnected by the pools. -/
  taken_le (entry : Nat × Nat) (taken : entry ∈ history.taken) :
    history.closed.count entry.2 + 1 ≤
      history.world.placesIn entry.1 entry.2 + history.world.server.disconnectCount entry.2
  detached_mem (id : Nat) (detached : id ∈ history.detached) : id ∈ history.world.outsideIds

theorem settled_new : new.Settled where
  possible := .new
  places_eq id := by
    cases id <;> simp [new, World.new, places, outsideIds, Server.places, Server.new,
      Server.disconnectCount]
  closed_le id := Nat.zero_le _
  taken_le entry taken := by cases taken
  detached_mem id detached := by cases detached

/-- The places in one pool are some of all places. -/
theorem placesIn_le (world : World) (index id : Nat) :
    world.placesIn index id ≤ (world.pools.map (·.places id)).sum := by
  unfold placesIn
  split
  case h_1 pool found =>
    exact List.le_sum_of_mem (List.mem_map_of_mem (List.mem_of_getElem? found))
  case h_2 => exact Nat.zero_le _

namespace Settled

variable {history : History} {after : World}

/-- A session that a pool has taken has been opened. -/
theorem le_lastId (settled : history.Settled) {entry : Nat × Nat}
    (taken : entry ∈ history.taken) : entry.2 ≤ history.world.server.lastId := by
  have once := settled.places_eq entry.2
  have taken := settled.taken_le entry taken
  have inside := placesIn_le history.world entry.1 entry.2
  unfold places Server.places at once
  by_contra beyond
  rw [if_pos (Nat.lt_of_not_le beyond)] at once
  split at once <;> omega

/-- What is done in one pool keeps every session in its place, if what enters and what leaves is
kept in mind. -/
theorem carry (settled : history.Settled) (possible : Possible after) {index : Nat}
    {given left : List Nat} (carries : Carries history.world index given left after)
    {entered gone : List (Nat × Nat)}
    (entered_mem : ∀ entry ∈ entered, entry.1 = index ∧ (entry.2 ∈ given ∨
      history.world.server.lastId < entry.2 ∧ entry.2 ≤ after.server.lastId))
    (given_mem : ∀ id ∈ given, id ∈ entered.map (·.2))
    (left_mem : ∀ id ∈ left, (index, id) ∈ gone ∨
      entered = [] ∧ history.world.server.lastId < id)
    (gone_mem : ∀ entry ∈ gone, entry.2 ∈ left) :
    (history.record after [] entered gone).Settled where
  possible := possible
  places_eq id := (carries.places_eq id).trans (settled.places_eq id)
  closed_le id := Nat.le_trans (settled.closed_le id) (carries.disconnects_le id)
  taken_le entry taken := by
    obtain ⟨place, id⟩ := entry
    have inside := carries.inside_eq id
    have grows := carries.disconnects_le id
    have closed := settled.closed_le id
    have lastId := carries.lastId_le
    simp only [Server.places] at inside
    obtain ⟨present, stays⟩ := List.mem_filter.mp taken
    have stays : (place, id) ∉ gone := by simpa using stays
    change history.closed.count id + 1 ≤
      after.placesIn place id + after.server.disconnectCount id
    rcases List.mem_append.mp present with new | old
    · obtain ⟨here, came⟩ : place = index ∧ (id ∈ given ∨
          history.world.server.lastId < id ∧ id ≤ after.server.lastId) :=
        entered_mem (place, id) new
      subst here
      have unleft : left.count id = 0 := by
        rw [List.count_eq_zero]
        intro leaving
        rcases left_mem id leaving with gone | ⟨none, _⟩
        · exact stays gone
        · rw [none] at new
          contradiction
      rcases came with given | ⟨fresh, opened⟩
      · have given := List.count_pos_iff.mpr given
        split at inside <;> split at inside <;> omega
      · rw [if_pos fresh, if_neg (Nat.not_lt_of_le opened)] at inside
        omega
    · have taken := settled.taken_le _ old
      have known := settled.le_lastId old
      by_cases here : place = index
      · subst here
        have unleft : left.count id = 0 := by
          rw [List.count_eq_zero]
          intro leaving
          rcases left_mem id leaving with gone | ⟨_, unknown⟩
          · exact stays gone
          · exact absurd unknown (Nat.not_lt_of_le known)
        rw [if_neg (Nat.not_lt_of_le known),
          if_neg (Nat.not_lt_of_le (Nat.le_trans known lastId))] at inside
        simp only at taken
        omega
      · rw [carries.others_eq place here]
        simp only at taken
        omega
  detached_mem id detached := by
    have outside := carries.outside_eq id
    have given_le := carries.given_le id
    apply List.count_pos_iff.mp
    change 0 < after.outsideIds.count id
    rcases List.mem_append.mp detached with new | old
    · obtain ⟨entry, leaving, rfl⟩ := List.mem_map.mp new
      have left := List.count_pos_iff.mpr (gone_mem entry leaving)
      omega
    · obtain ⟨before, stays⟩ := List.mem_filter.mp old
      have ungiven : given.count id = 0 := by
        rw [List.count_eq_zero]
        intro given
        have entering := given_mem id given
        simp [entering] at stays
      have held := List.count_pos_iff.mpr (settled.detached_mem id before)
      omega

/-- What moves no session keeps every session in its place. -/
theorem still (settled : history.Settled) (possible : Possible after)
    (carries : Carries history.world 0 [] [] after) :
    (history.record after [] [] []).Settled := by
  apply settled.carry possible carries <;> simp

/-- What leaves the pools and the sessions alone keeps every session in its place. -/
theorem same (settled : history.Settled) (possible : Possible after)
    (pools : after.pools = history.world.pools) (outside : after.outside = history.world.outside)
    (disconnects : after.server.disconnects = history.world.server.disconnects)
    (lastId : after.server.lastId = history.world.server.lastId) :
    (history.record after [] [] []).Settled := by
  apply settled.still possible
  apply Carries.still
  · intro other id
    simp only [placesIn, pools]
  · intro id
    rw [pools]
  · simp only [outsideIds, outside]
  · exact disconnects
  · exact lastId

/-- A session that its owner disconnects is disconnected once more than the pools have. -/
theorem close (settled : history.Settled) (possible : Possible after) (id : Nat)
    (pools : ∀ index other, after.placesIn index other = history.world.placesIn index other)
    (sum : ∀ other, (after.pools.map (·.places other)).sum =
      (history.world.pools.map (·.places other)).sum)
    (outside : after.outsideIds = history.world.outsideIds)
    (disconnects : after.server.disconnects = id :: history.world.server.disconnects)
    (lastId : after.server.lastId = history.world.server.lastId) :
    (history.record after [id] [] []).Settled := by
  have counted (other : Nat) : after.server.disconnectCount other =
      history.world.server.disconnectCount other + [id].count other := by
    rw [Server.disconnectCount, disconnects, List.count_cons, List.count_singleton]
    rfl
  have closed (other : Nat) : (history.record after [id] [] []).closed.count other =
      [id].count other + history.closed.count other := List.count_append
  constructor
  case possible => exact possible
  case places_eq =>
    intro other
    have once := settled.places_eq other
    have counted := counted other
    rw [closed]
    simp only [record, places, Server.places, sum, outside, lastId] at once counted ⊢
    omega
  case closed_le =>
    intro other
    have le := settled.closed_le other
    have counted := counted other
    rw [closed]
    simp only [record]
    omega
  case taken_le =>
    intro entry taken
    have le := settled.taken_le entry (List.mem_filter.mp taken).1
    have counted := counted entry.2
    rw [closed]
    simp only [record, pools]
    omega
  case detached_mem =>
    intro other detached
    have held := settled.detached_mem other (List.mem_filter.mp detached).1
    simpa only [record, outside] using held

end Settled

end History

end SessionPool.World

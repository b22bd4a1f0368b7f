import Mathlib.Data.List.Nodup
import SessionPool.Proofs.Ownership.Operations

/-!
# A register of numbers

A register is a run in which one keeps in mind which number of which pool has been joined to which
session: the number reserved for a connect when the server names the session, and the next number
when a session is given to the pool. Whatever happens, no number of a pool is joined twice, and each
connection has the number that was joined to its session.
-/

namespace SessionPool

/-! ### The numbers of one pool -/

namespace Pool

/-- The numbers of a pool agree with those that have been joined to sessions, and those that have
not are still to come. -/
structure Numbered (joined : List (Nat × Nat × Nat)) (index : Nat) (pool : Pool) : Prop where
  known : pool.Known fun tag => (index, tag) ∈ joined
  joined_lt (tag : Nat × Nat) (member : (index, tag) ∈ joined) : tag.1 < pool.nextId
  reserved_lt (number : Nat) (reserved : number ∈ pool.reserved) : number < pool.nextId
  reserved_new (number : Nat) (reserved : number ∈ pool.reserved) (name : Nat) :
    (index, number, name) ∉ joined
  reserved_nodup : pool.reserved.Nodup

namespace Numbered

variable {joined new : List (Nat × Nat × Nat)} {index : Nat} {pool after : Pool}

/-- What is joined in another pool does not matter. -/
theorem elsewhere (numbered : Numbered joined index pool)
    (other : ∀ tag, (index, tag) ∉ new) : Numbered (new ++ joined) index pool where
  known := numbered.known.mono fun tag member => List.mem_append_right _ member
  joined_lt tag member := by
    rcases List.mem_append.mp member with first | later
    · exact absurd first (other tag)
    · exact numbered.joined_lt tag later
  reserved_lt := numbered.reserved_lt
  reserved_new number reserved name member := by
    rcases List.mem_append.mp member with first | later
    · exact other _ first
    · exact numbered.reserved_new number reserved name later
  reserved_nodup := numbered.reserved_nodup

/-- A turn of an agent that has some numbers in reserve and joins no others. -/
theorem turn (numbered : Numbered joined index pool) {own reserved : List Nat}
    (perm : pool.reserved.Perm (own ++ reserved))
    (numbers : after.Numbers (fun tag => (index, tag) ∈ new ++ joined) reserved pool.nextId)
    (joins : ∀ tag, (index, tag) ∈ new → tag.1 ∈ own) :
    Numbered (new ++ joined) index after := by
  have apart := numbered.reserved_nodup
  rw [perm.nodup_iff, List.nodup_append] at apart
  obtain ⟨_, reserved_nodup, disjoint⟩ := apart
  have own_lt (number : Nat) (member : number ∈ own) : number < pool.nextId :=
    numbered.reserved_lt number (perm.mem_iff.mpr (List.mem_append_left _ member))
  have before_lt (tag : Nat × Nat) (member : (index, tag) ∈ new ++ joined) :
      tag.1 < pool.nextId := by
    rcases List.mem_append.mp member with first | later
    · exact own_lt _ (joins tag first)
    · exact numbered.joined_lt tag later
  have still_lt (number : Nat) (member : number ∈ reserved) : number < pool.nextId :=
    numbered.reserved_lt number (perm.mem_iff.mpr (List.mem_append_right _ member))
  have still_new (number : Nat) (member : number ∈ reserved) (name : Nat) :
      (index, number, name) ∉ new ++ joined := by
    intro joined
    rcases List.mem_append.mp joined with first | later
    · exact disjoint number (joins _ first) number member rfl
    · exact numbered.reserved_new number (perm.mem_iff.mpr (List.mem_append_right _ member)) name
        later
  rcases numbers.reserves with ⟨sameReserved, sameNext⟩ | ⟨moreReserved, nextNext⟩
  · constructor
    · exact numbers.known
    · rw [sameNext]
      exact before_lt
    · rw [sameReserved, sameNext]
      exact still_lt
    · rw [sameReserved]
      exact still_new
    · rw [sameReserved]
      exact reserved_nodup
  · constructor
    · exact numbers.known
    · intro tag member
      rw [nextNext]
      exact Nat.lt_succ_of_lt (before_lt tag member)
    · intro number member
      rw [moreReserved] at member
      rw [nextNext]
      rcases List.mem_append.mp member with old | last
      · exact Nat.lt_succ_of_lt (still_lt number old)
      · rw [List.mem_singleton.mp last]
        exact Nat.lt_succ_self _
    · intro number member name known
      rw [moreReserved] at member
      rcases List.mem_append.mp member with old | last
      · exact still_new number old name known
      · have below := before_lt (number, name) known
        rw [List.mem_singleton.mp last] at below
        exact Nat.lt_irrefl _ below
    · rw [moreReserved, List.nodup_append]
      refine ⟨reserved_nodup, List.nodup_singleton _, ?_⟩
      intro number old other last same
      rw [List.mem_singleton.mp last] at same
      exact Nat.ne_of_lt (still_lt number old) same

/-- A turn of an agent that has nothing in reserve and joins nothing. -/
theorem still (numbered : Numbered joined index pool)
    (numbers : after.Numbers (fun tag => (index, tag) ∈ joined) pool.reserved pool.nextId) :
    Numbered joined index after := by
  have nothing (tag : Nat × Nat) : (index, tag) ∈ ([] : List (Nat × Nat × Nat)) → tag.1 ∈ [] := by
    intro absent
    cases absent
  exact numbered.turn (.refl _) numbers nothing

/-- A session that is given to the pool is joined to the next number. -/
theorem adopt (numbered : Numbered joined index pool) {name : Nat}
    (known : after.Known fun tag => (index, tag) ∈ (index, pool.nextId, name) :: joined)
    (reserved : after.reserved = pool.reserved) (nextId : after.nextId = pool.nextId + 1) :
    Numbered ((index, pool.nextId, name) :: joined) index after where
  known := known
  joined_lt tag member := by
    rw [nextId]
    rcases List.mem_cons.mp member with first | later
    · cases first
      exact Nat.lt_succ_self _
    · exact Nat.lt_succ_of_lt (numbered.joined_lt tag later)
  reserved_lt number member := by
    rw [reserved] at member
    rw [nextId]
    exact Nat.lt_succ_of_lt (numbered.reserved_lt number member)
  reserved_new number member other known := by
    rw [reserved] at member
    rcases List.mem_cons.mp known with first | later
    · cases first
      exact Nat.lt_irrefl _ (numbered.reserved_lt _ member)
    · exact numbered.reserved_new number member other later
  reserved_nodup := by
    rw [reserved]
    exact numbered.reserved_nodup

end Numbered

/-- The order in which agents wait does not matter. -/
theorem Numbered.reorder {joined : List (Nat × Nat × Nat)} {index : Nat} {pool : Pool}
    (numbered : Numbered joined index pool) (tasks : List Task) :
    Numbered joined index (pool.reorder tasks) := by
  have known := numbered.known.tasks.reorder tasks
  rw [Pool.reorder] at known ⊢
  split
  case isFalse => exact numbered
  case isTrue same =>
    rw [if_pos same] at known
    have perm : { pool with tasks }.reserved.Perm pool.reserved :=
      (List.isPerm_iff.mp same).flatMap_right Task.reserved
    constructor
    · exact { numbered.known with tasks := known }
    · exact numbered.joined_lt
    · exact fun number member => numbered.reserved_lt number (perm.mem_iff.mp member)
    · exact fun number member => numbered.reserved_new number (perm.mem_iff.mp member)
    · exact perm.nodup_iff.mpr numbered.reserved_nodup

/-- What an agent joins if it goes on now. -/
def joins? (pool : Pool) (now : Nat) (server : Server) (agent : Agent) : Option (Nat × Nat) :=
  match pool.task? agent with
  | some task => if pool.isReady now task then task.joins? server else none
  | none => none

namespace Numbered

variable {joined : List (Nat × Nat × Nat)} {index : Nat} {site : Site}

/-- An agent that goes on joins the number that it has in reserve, or nothing. -/
theorem resume (numbered : Numbered joined index site.pool) (agent : Agent) :
    Numbered (((site.pool.joins? site.now site.server agent).map (index, ·)).toList ++ joined)
      index (site.resume agent).1.pool := by
  rw [Site.resume, joins?]
  cases found : site.pool.task? agent with
  | none => exact numbered
  | some task =>
      by_cases ready : site.pool.isReady site.now task = true
      · simp only [if_pos ready]
        have known : site.pool.Known fun tag =>
            (index, tag) ∈ ((task.joins? site.server).map (index, ·)).toList ++ joined :=
          numbered.known.mono fun tag member => List.mem_append_right _ member
        apply numbered.turn (reserved_perm found)
        · apply Site.proceed_numbers
          · exact { known with tasks := known.tasks.unpark agent }
          · exact known.tasks.2 task (List.mem_of_find?_eq_some found)
          · intro tag joins
            apply List.mem_append_left
            have joinsHere : task.joins? site.server = some tag := joins
            rw [joinsHere]
            exact List.mem_singleton_self _
        · intro tag member
          obtain ⟨other, joins, same⟩ := Option.map_eq_some_iff.mp (Option.mem_toList.mp member)
          rw [Task.reserved_of_joins? joins, ← (Prod.mk.inj same).2]
          exact List.mem_singleton_self _
      · simp only [if_neg ready]
        exact numbered

/-- A pool that takes a session joins the next number to it, and one that does not is as before. -/
theorem adoptSession (numbered : Numbered joined index site.pool) (session : Session) :
    (site.adopt session).1.pool = site.pool ∨
      site.pool.nextId < (site.adopt session).1.pool.nextId ∧
        Numbered ((index, site.pool.nextId, session.id) :: joined) index
          (site.adopt session).1.pool := by
  rw [Site.adopt]
  dsimp only
  split
  · exact .inl rfl
  · split
    · exact .inl rfl
    · right
      constructor
      · exact Nat.lt_succ_self _
      · have known : site.pool.Known fun tag =>
            (index, tag) ∈ (index, site.pool.nextId, session.id) :: joined :=
          numbered.known.mono fun tag member => List.mem_cons_of_mem _ member
        apply numbered.adopt
        · apply Known.notifyOne
          refine { known with idle := ?_ }
          intro connection queued
          rcases List.mem_append.mp queued with old | last
          · exact known.idle connection old
          · rw [List.mem_singleton.mp last]
            exact List.mem_cons_self
        · exact reserved_notifyOne _
        · rfl

end Numbered

end Pool

/-! ### What moves join -/

namespace World

open Pool (Agent Job Task Numbered)

variable {world : World} {joined : List (Nat × Nat × Nat)} {index : Nat} {pool : Pool}

/-- What a move joins: the pool and the number, and the session. -/
def Move.joins? (world : World) : Move → Option (Nat × Nat × Nat)
  | .act (.call (.adopt index id)) =>
      match world.pools[index]?, (world.call (.adopt index id)).1.pools[index]? with
      | some before, some after =>
          if before.nextId < after.nextId then some (index, before.nextId, id) else none
      | _, _ => none
  | .act (.resume (.inPool index agent)) =>
      match world.pools[index]? with
      | some pool => (pool.joins? world.now world.server agent).map (index, ·)
      | none => none
  | _ => none

/-- The pool in which a move can join something. -/
def Move.place? : Move → Option Nat
  | .act (.call (.adopt index _)) | .act (.resume (.inPool index _)) => some index
  | _ => none

/-- A number that is joined is the next one or has been in reserve. -/
theorem Move.fresh_of_joins? {move : Move} {entry : Nat × Nat × Nat}
    (joins : move.joins? world = some entry) :
    move.place? = some entry.1 ∧ ∃ pool, world.pools[entry.1]? = some pool ∧
      (entry.2.1 = pool.nextId ∨ entry.2.1 ∈ pool.reserved) := by
  unfold Move.joins? at joins
  split at joins
  · split at joins
    · split at joins
      · cases joins
        exact ⟨rfl, _, ‹_›, .inl rfl⟩
      · cases joins
    · cases joins
  · split at joins
    case h_1 pool found =>
      obtain ⟨tag, joined, rfl⟩ := Option.map_eq_some_iff.mp joins
      refine ⟨rfl, pool, found, .inr ?_⟩
      rw [Pool.joins?] at joined
      split at joined
      case h_1 task waits =>
        split at joined
        · apply (Pool.reserved_perm waits).mem_iff.mpr
          rw [Task.reserved_of_joins? joined]
          exact List.mem_cons_self
        · cases joined
      case h_2 => cases joined
    case h_2 => cases joins
  · cases joins

/-- What is given to a pool joins it with the next number, if it does. -/
theorem numbered_adopt (found : world.pools[index]? = some pool)
    (numbered : Numbered joined index pool) (id : Nat) :
    ∃ after, (world.move (.act (.call (.adopt index id)))).pools[index]? = some after ∧
      Numbered ((Move.joins? world (.act (.call (.adopt index id)))).toList ++ joined) index
        after := by
  change ∃ after, (world.call (.adopt index id)).1.pools[index]? = some after ∧ _
  have unchanged (same : (world.call (.adopt index id)).1.pools[index]? = some pool) :
      ∃ after, (world.call (.adopt index id)).1.pools[index]? = some after ∧
        Numbered ((Move.joins? world (.act (.call (.adopt index id)))).toList ++ joined) index
          after := by
    refine ⟨pool, same, ?_⟩
    simp only [Move.joins?, found, same, Nat.lt_irrefl, if_false]
    exact numbered
  by_cases accepted : world.accepts (.adopt index id) = true
  · cases held : world.outside? id with
    | none =>
        have free := (Bool.and_eq_true_iff.mp accepted).2
        simp [isFree, session?, held] at free
    | some session =>
        have asks : Request.asks? world (.adopt index id) = some (index, .adopt session) := by
          rw [Request.asks?, held]
          rfl
        have name : session.id = id := by simpa using List.find?_some held
        have after := (call_turn accepted asks found).1
        have numberedHere : Numbered joined index (world.site pool).pool := numbered
        rcases numberedHere.adoptSession session with same | ⟨more, joins⟩
        · apply unchanged
          rw [after]
          exact congrArg some same
        · refine ⟨_, after, ?_⟩
          rw [name] at joins
          have moreHere : pool.nextId < (world.turn pool (.adopt session)).1.pool.nextId := more
          simp only [Move.joins?, found, after, if_pos moreHere]
          exact joins
  · apply unchanged
    rw [call, if_neg accepted]
    exact found

/-- What is given to a pool is asked of it by its name. -/
theorem eq_adopt_of_asks {request : Request} {session : Session}
    (asks : request.asks? world = some (index, .adopt session)) :
    ∃ id, request = .adopt index id := by
  cases request with
  | adopt place id =>
      obtain ⟨_, _, same⟩ := Option.map_eq_some_iff.mp asks
      cases same
      exact ⟨id, rfl⟩
  | _ => cases asks

/-- Nothing that happens to a pool joins a number, but an agent that goes on or a session that is
given to it. -/
theorem Happens.numbered {move : Move} {after : Pool} {event : Option Event}
    (happens : world.Happens index pool move after event) (other : move.place? ≠ some index)
    (numbered : Numbered joined index pool) : Numbered joined index after := by
  cases happens with
  | nothing _ => exact numbered
  | calls accepted asks =>
      have known : (world.site pool).pool.Known fun tag => (index, tag) ∈ joined :=
        numbered.known
      apply numbered.still
      apply Site.work_numbers known
      rintro session rfl
      obtain ⟨id, rfl⟩ := eq_adopt_of_asks asks
      exact other rfl
  | resumes agent => exact absurd rfl other
  | puts ticket session closes _ =>
      apply numbered.still
      constructor
      · apply numbered.known.putSession
        intro lease good
        rw [closes lease good]
        rfl
      · left
        rw [Pool.putSession]
        split <;> exact ⟨rfl, rfl⟩
  | reorders tasks => exact numbered.reorder tasks
  | stirs =>
      apply numbered.still
      exact ⟨numbered.known.notifyOne, .inl ⟨pool.reserved_notifyOne, rfl⟩⟩

/-- Whatever happens, the numbers of a pool agree with those that have been joined. -/
theorem numbered_move (found : world.pools[index]? = some pool)
    (numbered : Numbered joined index pool) (move : Move) :
    ∃ after, (world.move move).pools[index]? = some after ∧
      Numbered ((move.joins? world).toList ++ joined) index after := by
  by_cases here : move.place? = some index
  · unfold Move.place? at here
    split at here
    · cases here
      exact numbered_adopt found numbered _
    · cases here
      rename_i agent
      have numberedHere : Numbered joined index (world.site pool).pool := numbered
      refine ⟨_, (resume_turn agent found).1, ?_⟩
      rw [Move.joins?, found]
      exact numberedHere.resume agent
    · cases here
  · obtain ⟨after, foundAfter, happens⟩ := becomes_move found move
    refine ⟨after, foundAfter, ?_⟩
    apply (happens.numbered here numbered).elsewhere
    exact fun tag member => here (Move.fresh_of_joins? (Option.mem_toList.mp member)).1

/-- A pool that is made has joined nothing yet. -/
theorem Affects.numbered {callers : Nat} {pools : List Pool} (affects : Affects world callers pools)
    (beyond : world.pools.length ≤ index) (found : pools[index]? = some pool)
    (unjoined : ∀ tag, (index, tag) ∉ joined) : Numbered joined index pool := by
  have modified {place : Nat} {change : Pool → Pool}
      (found : (world.pools.modify place change)[index]? = some pool) : False := by
    have inside := (List.getElem?_eq_some_iff.mp found).1
    rw [List.length_modify] at inside
    exact Nat.not_lt_of_le beyond inside
  cases affects with
  | nothing later => exact absurd (List.getElem?_eq_some_iff.mp found).1 (Nat.not_lt_of_le beyond)
  | opens config valid =>
      rw [List.getElem?_append_right beyond] at found
      have only := List.mem_of_getElem? found
      rw [List.mem_singleton.mp only]
      have empty : (Pool.new config world.now).Known fun tag => (index, tag) ∈ joined := by
        constructor
        · intro connection absent
          cases absent
        · intro lease absent
          cases absent
        · exact .new config world.now _
      have bare : Numbered joined index (Pool.new config world.now) := by
        constructor
        · exact empty
        · exact fun tag member => absurd member (unjoined tag)
        · intro number absent
          cases absent
        · intro number absent
          cases absent
        · exact List.nodup_nil
      apply bare.still
      exact Site.prewarm_numbers empty _ 0
  | calls place job fits => exact (modified found).elim
  | resumes place agent => exact (modified found).elim
  | puts handle session => exact (modified found).elim
  | reorders place tasks => exact (modified found).elim
  | stirs place => exact (modified found).elim

/-! ### Registers -/

/-- A run up to now. -/
structure Register where
  world : World
  /-- The pool and the number, and the session to which it has been joined; the last first. -/
  joined : List (Nat × Nat × Nat)

namespace Register

/-- Nothing has happened. -/
def new : Register := ⟨World.new, []⟩

/-- One move more. -/
def move (register : Register) (move : Move) : Register :=
  ⟨register.world.move move, (move.joins? register.world).toList ++ register.joined⟩

/-- A run from a new world. -/
def run (moves : List Move) : Register := moves.foldl move new

/-- What is true of every register. -/
structure Kept (register : Register) : Prop where
  possible : Possible register.world
  /-- No number of a pool has been joined twice. -/
  once : (register.joined.map fun entry => (entry.1, entry.2.1)).Nodup
  inside (entry : Nat × Nat × Nat) (member : entry ∈ register.joined) :
    entry.1 < register.world.pools.length
  numbered (index : Nat) (pool : Pool) (found : register.world.pools[index]? = some pool) :
    Numbered register.joined index pool

theorem kept_new : new.Kept where
  possible := .new
  once := List.nodup_nil
  inside entry member := by cases member
  numbered index pool found := by cases found

namespace Kept

variable {register : Register} (kept : register.Kept)

include kept

/-- A number that is joined has not been joined before. -/
theorem once_move (move : Move) :
    ((register.move move).joined.map fun entry => (entry.1, entry.2.1)).Nodup := by
  rw [Register.move]
  cases joins : move.joins? register.world with
  | none => exact kept.once
  | some entry =>
      obtain ⟨_, pool, found, fresh⟩ := Move.fresh_of_joins? joins
      have numbered := kept.numbered entry.1 pool found
      apply List.nodup_cons.mpr
      refine ⟨?_, kept.once⟩
      intro again
      obtain ⟨⟨place, number, name⟩, member, same⟩ := List.mem_map.mp again
      obtain ⟨rfl, rfl⟩ := Prod.mk.inj same
      rcases fresh with next | reserved
      · have below := numbered.joined_lt _ member
        rw [next] at below
        exact Nat.lt_irrefl _ below
      · exact numbered.reserved_new _ reserved name member

theorem inside_move (move : Move) (entry : Nat × Nat × Nat)
    (member : entry ∈ (register.move move).joined) :
    entry.1 < (register.move move).world.pools.length := by
  have still {index : Nat} {pool : Pool} (found : register.world.pools[index]? = some pool) :
      index < (register.world.move move).pools.length := by
    obtain ⟨after, foundAfter, _⟩ := becomes_move found move
    exact (List.getElem?_eq_some_iff.mp foundAfter).1
  rcases List.mem_append.mp member with new | old
  · obtain ⟨_, pool, found, _⟩ := Move.fresh_of_joins? (Option.mem_toList.mp new)
    exact still found
  · exact still (List.getElem?_eq_getElem (kept.inside entry old))

theorem move (move : Move) : (register.move move).Kept where
  possible := kept.possible.move move
  once := kept.once_move move
  inside := kept.inside_move move
  numbered index pool found := by
    by_cases known : index < register.world.pools.length
    · have before := List.getElem?_eq_getElem known
      obtain ⟨after, foundAfter, numbered⟩ :=
        numbered_move before (kept.numbered index _ before) move
      have same : pool = after := Option.some.inj (found.symm.trans foundAfter)
      rw [same]
      exact numbered
    · apply (affects_move _ move).numbered (Nat.le_of_not_lt known) found
      intro tag member
      apply known
      rcases List.mem_append.mp member with new | old
      · obtain ⟨_, pool, before, _⟩ := Move.fresh_of_joins? (Option.mem_toList.mp new)
        exact (List.getElem?_eq_some_iff.mp before).1
      · exact kept.inside _ old

end Kept

/-- Every run keeps the register. -/
theorem kept_run (moves : List Move) : (run moves).Kept := by
  have follow {register : Register} (kept : register.Kept) :
      (moves.foldl Register.move register).Kept := by
    induction moves generalizing register with
    | nil => exact kept
    | cons first later ih => exact ih (kept.move first)
  exact follow kept_new

end Register

end World

end SessionPool

import SessionPool.Proofs.Balance.Life
import SessionPool.Proofs.Moves

/-!
# Every pool is balanced

Each call and each wait that ends leaves the pool in which it happens sound, and the other pools as
they are. So all pools of a possible world are sound.
-/

namespace SessionPool

namespace Pool

/-! ### One pool -/

namespace Filling

variable {callers more : Nat} {pool : Pool}

theorem mono (filling : Filling callers pool) (le : callers ≤ more) : Filling more pool := by
  obtain ⟨number, made, metadata, attempt, due, alone, called, below, unknown⟩ := filling
  exact ⟨number, made, metadata, attempt, due, alone, Nat.lt_of_lt_of_le called le, below, unknown⟩

/-- Nobody knows of a pool that is being filled. -/
theorem isOpen_eq (filling : Filling callers pool) : pool.isOpen = false := by
  obtain ⟨number, made, metadata, attempt, due, alone, _⟩ := filling
  simp [Pool.isOpen, alone, Task.isPrewarming]

theorem lease?_eq (filling : Filling callers pool) (ticket : Nat) : pool.lease? ticket = none := by
  obtain ⟨number, made, metadata, attempt, due, _, _, _, unknown⟩ := filling
  simp [Pool.lease?, unknown.leases_eq]

/-- Whoever asks a pool that is being filled for something has no business there. -/
theorem pool_work {site : Site} (filling : Filling callers site.pool) {job : Job}
    (fits : job.Fits site.pool) (caller : Nat) : (job.work caller site).1.pool = site.pool := by
  have closed := filling.isOpen_eq
  have leaseless := filling.lease?_eq
  cases job with
  | release ticket => simp [Job.work, Site.release, leaseless, Site.answer]
  | invalidate ticket => simp [Job.work, Site.invalidate, leaseless, Site.answer]
  | discard ticket => simp [Job.work, Site.discard, leaseless, Site.answer]
  | detach ticket => simp [Job.work, Site.detach, leaseless, Site.answer]
  | execute ticket statement =>
      simp [Job.work, Site.execute, Site.throughLease, leaseless, Site.answer]
  | query ticket statement =>
      simp [Job.work, Site.query, Site.throughLease, leaseless, Site.answer]
  | _ =>
      have opened : site.pool.isOpen = true := fits
      rw [closed] at opened
      contradiction

end Filling

namespace Balanced

variable {callers : Nat} {pool : Pool}

/-- A call in a balanced pool leaves it balanced. -/
theorem work {site : Site} (balanced : Balanced callers site.pool 0) (job : Job) :
    Balanced (callers + 1) (job.work callers site).1.pool 0 := by
  have begun := balanced.begin
  cases job with
  | acquire timeout => exact begun.enter site _
  | get => exact begun.enter site _
  | tryGet => exact begun.enter site _
  | adopt session => exact begun.adopt session
  | sweep => exact begun.beginSweep
  | shutdown thenDrop => exact begun.shutdown
  | release ticket => exact begun.release ticket
  | invalidate ticket => exact begun.invalidate ticket
  | discard ticket => exact begun.discardLease ticket
  | detach ticket => exact begun.detach ticket
  | execute ticket statement => exact begun.throughLease ticket _ _
  | query ticket statement => exact begun.throughLease ticket _ _

/-- Who stands where in a balanced pool does not matter. -/
theorem reorder (balanced : Balanced callers pool 0) (tasks : List Task) :
    Balanced callers (pool.reorder tasks) 0 := by
  unfold Pool.reorder
  split
  case isFalse => exact balanced
  case isTrue same =>
    have perm := List.isPerm_iff.mp same
    have books := balanced.books
    rw [← Task.holdings_perm perm] at books
    constructor
    · exact { books with }
    · intro task member
      exact balanced.proper task (perm.mem_iff.mp member)

/-- What an owner of a lease does to the session past the pool changes no count. -/
theorem putSession (balanced : Balanced callers pool 0) (ticket : Nat) (session : Session) :
    Balanced callers (pool.putSession ticket session) 0 := by
  unfold Pool.putSession
  split
  case h_1 lease found => exact balanced.updateLease found rfl
  case h_2 => exact balanced

/-- Somebody who is told for no reason looks in vain at worst. -/
theorem stir (balanced : Balanced callers pool 0) : Balanced callers pool.notifyOne 0 := by
  have owed : Balanced callers pool (0 + Holding.look 1) := by
    refine ⟨{ balanced.books with free_le_looks := ?_, awake := ?_ }, balanced.proper⟩
    · intro asleep
      have looks := balanced.books.free_le_looks
      simp at asleep looks ⊢
      omega
    · intro shutdown
      simpa using balanced.books.awake shutdown
  exact owed.notifyOne rfl

end Balanced

namespace Sound

variable {callers more : Nat} {pool : Pool}

theorem mono (sound : Sound callers pool) (le : callers ≤ more) : Sound more pool := by
  rcases sound with filling | balanced
  · exact .inl (filling.mono le)
  · exact .inr (balanced.mono le)

theorem work {site : Site} (sound : Sound callers site.pool) {job : Job}
    (fits : job.Fits site.pool) : Sound (callers + 1) (job.work callers site).1.pool := by
  rcases sound with filling | balanced
  · rw [filling.pool_work fits]
    exact .inl (filling.mono (Nat.le_succ callers))
  · exact .inr (balanced.work job)

theorem reorder (sound : Sound callers pool) (tasks : List Task) :
    Sound callers (pool.reorder tasks) := by
  rcases sound with filling | balanced
  · obtain ⟨number, made, metadata, attempt, due, alone, rest⟩ := filling
    left
    unfold Pool.reorder
    split
    case isFalse => exact ⟨number, made, metadata, attempt, due, alone, rest⟩
    case isTrue same =>
      rw [alone] at same
      have only := List.perm_singleton.mp (List.isPerm_iff.mp same)
      exact ⟨number, made, metadata, attempt, due, only, rest.1, rest.2.1, { rest.2.2 with }⟩
  · exact .inr (balanced.reorder tasks)

theorem stir (sound : Sound callers pool) : Sound callers pool.notifyOne := by
  rcases sound with filling | balanced
  · obtain ⟨number, made, metadata, attempt, due, alone, rest⟩ := filling
    have same : pool.notifyOne.tasks = pool.tasks := by
      simp [notifyOne, notifyFirst, alone, Task.isAsleep]
    exact .inl ⟨number, made, metadata, attempt, due, same.trans alone, rest.1, rest.2.1,
      { rest.2.2 with }⟩
  · exact .inr balanced.stir

/-- What an owner of a lease does to the session past the pool does not matter to the pool. -/
theorem putSession (sound : Sound callers pool) (ticket : Nat) (session : Session) :
    Sound callers (pool.putSession ticket session) := by
  rcases sound with filling | balanced
  · rw [Pool.putSession, filling.lease?_eq ticket]
    exact .inl filling
  · exact .inr (balanced.putSession ticket session)

end Sound

end Pool

/-! ### All pools -/

namespace World

open Pool (Sound)

variable {world : World} {callers : Nat}

/-- What is there after one pool has changed was there before or has become so. -/
theorem exists_of_mem_modify {pools : List Pool} {index : Nat} {change : Pool → Pool} {pool : Pool}
    (member : pool ∈ pools.modify index change) :
    pool ∈ pools ∨ ∃ before, pools[index]? = some before ∧ change before = pool := by
  obtain ⟨place, found⟩ := List.mem_iff_getElem?.mp member
  by_cases here : index = place
  · subst here
    rw [List.getElem?_modify_eq] at found
    exact .inr (Option.map_eq_some_iff.mp found)
  · rw [List.getElem?_modify_ne _ _ here] at found
    exact .inl (List.mem_of_getElem? found)

/-- A change that keeps pools sound keeps all of them sound. -/
theorem sound_modify (sound : ∀ pool ∈ world.pools, Sound world.callers pool)
    (later : world.callers ≤ callers) {index : Nat} {change : Pool → Pool}
    (keeps : ∀ pool, world.pools[index]? = some pool → Sound world.callers pool →
      Sound callers (change pool)) :
    ∀ pool ∈ world.pools.modify index change, Sound callers pool := by
  intro pool member
  rcases exists_of_mem_modify member with same | ⟨before, found, rfl⟩
  · exact (sound pool same).mono later
  · exact keeps before found (sound before (List.mem_of_getElem? found))

/-- What affects pools leaves them sound. -/
theorem Affects.sound {pools : List Pool} (affects : Affects world callers pools)
    (sound : ∀ pool ∈ world.pools, Sound world.callers pool) :
    ∀ pool ∈ pools, Sound callers pool := by
  cases affects with
  | nothing later => exact fun pool member => (sound pool member).mono later
  | opens config valid =>
      intro pool member
      rcases List.mem_append.mp member with before | last
      · exact (sound pool before).mono (Nat.le_succ _)
      · rw [List.mem_singleton.mp last]
        exact (Pool.unknown_new valid world.now).prewarm _ rfl (Nat.lt_succ_self _)
  | calls index job fits =>
      exact sound_modify sound (Nat.le_succ _) fun pool found sound => sound.work (fits pool found)
  | resumes index agent =>
      exact sound_modify sound (Nat.le_refl _) fun pool _ sound => sound.resume agent
  | puts handle session =>
      exact sound_modify sound (Nat.le_succ _) fun pool _ sound =>
        (sound.mono (Nat.le_succ _)).putSession handle.ticket session
  | reorders index tasks =>
      exact sound_modify sound (Nat.le_refl _) fun pool _ sound => sound.reorder tasks
  | stirs index => exact sound_modify sound (Nat.le_refl _) fun pool _ sound => sound.stir

/-- Every pool of a possible world is being filled or balanced. -/
theorem Possible.sound (possible : Possible world) :
    ∀ pool ∈ world.pools, Sound world.callers pool := by
  induction possible with
  | new => simp [World.new]
  | move _ move ih => exact (affects_move _ move).sound ih

end World

end SessionPool

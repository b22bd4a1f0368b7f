import SessionPool.Proofs.Duty.Run

/-!
# Working alone

An agent works alone if nobody else does anything between its turns: the server answers, the agent
goes on, sooner or later, and so forth until its call is over. What it finds when it goes on is then
what it left behind, with a later clock, so a whole call is one computation on the pool.
-/

namespace SessionPool

/-- Nobody dies of being probed. -/
theorem Server.answers_startProbe (server : Server) (session other : Session) :
    (server.startProbe session).answers other = server.answers other := by
  unfold startProbe
  split <;> rfl

namespace Pool

/-- How long it takes until an agent goes on that is `late`. -/
def Task.delay (task : Task) (now late : Nat) : Nat := task.due.getD now - now + late

variable {pool : Pool} (task : Task) (fresh : ∀ other ∈ pool.tasks, other.agent ≠ task.agent)

include fresh

/-- An agent that begins to wait is found by its name. -/
theorem task?_park : (pool.park task).task? task.agent = some task := by
  have others : pool.tasks.find? (·.agent == task.agent) = none := by
    apply List.find?_eq_none.mpr
    intro other present same
    exact fresh other present (beq_iff_eq.mp same)
  rw [task?, park]
  dsimp only
  rw [List.find?_append, others]
  simp

/-- Whoever waits and goes on leaves nothing behind. -/
theorem unpark_park : (pool.park task).unpark task.agent = pool := by
  have others : ∀ other ∈ pool.tasks, ¬ (other.agent == task.agent) = true := by
    intro other present same
    exact fresh other present (beq_iff_eq.mp same)
  rw [unpark, park]
  dsimp only
  rw [List.eraseP_append_right _ others]
  simp

end Pool

namespace World

open Pool (Agent Task Phase)

/-! ### Runs of one agent -/

namespace Trace

/-- The agent goes on once, `late` after it could, and nobody does anything before. -/
def goOn (index : Nat) (agent : Agent) (late : Nat) (trace : Trace) : Trace :=
  match trace.world.pools[index]?.bind (·.task? agent) with
  | some task =>
      (trace.move (.elapse (task.delay trace.world.now late))).move
        (.act (.resume (.inPool index agent)))
  | none => trace

/-- The agent goes on until its call is over, once for each entry of the list, which says how late
it is. -/
def alone (index : Nat) (agent : Agent) : List Nat → Trace → Trace
  | [], trace => trace
  | late :: lates, trace =>
      if trace.events = [] then alone index agent lates (trace.goOn index agent late) else trace

/-- Time that passes is no event. -/
theorem move_elapse (trace : Trace) (duration : Nat) : trace.move (.elapse duration) =
    ⟨{ trace.world with now := trace.world.now + duration }, trace.events⟩ :=
  rfl

/-- A call that is over stays as it is. -/
theorem alone_eq_self {index : Nat} {agent : Agent} {trace : Trace} (ended : trace.events ≠ [])
    (lates : List Nat) : trace.alone index agent lates = trace := by
  cases lates with
  | nil => rfl
  | cons late lates => exact if_neg ended

/-- How a turn leaves the world, nothing having been over before. -/
structure Shows (trace : Trace) (index : Nat) (agent : Agent) (now : Nat) (turn : Turn) :
    Prop where
  found : trace.world.pools[index]? = some turn.1.pool
  server : trace.world.server = turn.1.server
  now_eq : trace.world.now = now
  events : trace.events = (ending index agent turn).toList

variable {trace : Trace} {index : Nat} {agent : Agent} {now : Nat} {turn : Turn}

/-- A call on a pool is the first turn. -/
theorem shows_call {world : World} {request : Request} {pool : Pool} {job : Pool.Job}
    (accepted : world.accepts request = true) (asks : request.asks? world = some (index, job))
    (found : world.pools[index]? = some pool) :
    (Trace.move ⟨world, []⟩ (.act (.call request))).Shows index (.caller world.callers) world.now
      (world.turn pool job) := by
  obtain ⟨found, server, event⟩ := call_turn accepted asks found
  refine ⟨found, server, world.now_call request, ?_⟩
  have event : Move.event? world (.act (.call request)) = _ := event
  rw [move, event, List.append_nil]

/-- An agent that goes on makes the next turn. -/
theorem shows_resume {world : World} {pool : Pool} (agent : Agent)
    (found : world.pools[index]? = some pool) :
    (Trace.move ⟨world, []⟩ (.act (.resume (.inPool index agent)))).Shows index agent world.now
      ((world.site pool).resume agent) := by
  obtain ⟨found, server, event⟩ := resume_turn agent found
  refine ⟨found, server, world.now_resume (.inPool index agent), ?_⟩
  have event : Move.event? world (.act (.resume (.inPool index agent))) = _ := event
  rw [move, event, List.append_nil]

namespace Shows

variable (shows : trace.Shows index agent now turn)

include shows

/-- Without an answer nothing is over. -/
theorem events_eq_nil (waits : turn.2 = none) : trace.events = [] := by
  rw [shows.events, ending, waits]
  rfl

theorem events_eq_singleton {answer : Pool.Answer} (ends : turn.2 = some answer) :
    trace.events = [⟨.inPool index agent, ofPool answer⟩] := by
  rw [shows.events, ending, ends]
  rfl

/-- An agent whose call is over does nothing more. -/
theorem alone_eq {answer : Pool.Answer} (ends : turn.2 = some answer) (lates : List Nat) :
    trace.alone index agent lates = trace := by
  apply alone_eq_self
  rw [shows.events_eq_singleton ends]
  exact List.cons_ne_nil _ _

end Shows

section Wait

variable {site : Site} {phase : Phase} {due? : Option Nat}
  (fresh : ∀ other ∈ site.pool.tasks, other.agent ≠ agent)

include fresh

/-- An agent that has begun to wait with its turn, and then works alone, is in the same world with a
later clock when it goes on. -/
theorem Shows.goOn (shows : trace.Shows index agent now (site.wait agent phase due?)) (late : Nat) :
    ∃ later, now ≤ later ∧ due?.getD now + late ≤ later ∧
      (trace.goOn index agent late).Shows index agent later
        (Site.resume ⟨later, site.server, site.pool.park ⟨agent, phase, due?⟩⟩ agent) := by
  let task : Task := ⟨agent, phase, due?⟩
  have found : trace.world.pools[index]? = some (site.pool.park task) := shows.found
  have known : trace.world.pools[index]?.bind (·.task? agent) = some task := by
    rw [found]
    exact Pool.task?_park task fresh
  have clock := shows.now_eq
  refine ⟨now + task.delay now late, Nat.le_add_right _ _, ?_, ?_⟩
  · change due?.getD now + late ≤ now + (due?.getD now - now + late)
    omega
  · let after : World := { trace.world with now := now + task.delay now late }
    have passed : trace.goOn index agent late =
        Trace.move ⟨after, []⟩ (.act (.resume (.inPool index agent))) := by
      rw [Trace.goOn, known]
      dsimp only
      rw [move_elapse, shows.events_eq_nil rfl, clock]
    have same : after.site (site.pool.park task) =
        ⟨now + task.delay now late, site.server, site.pool.park task⟩ := by
      have server : trace.world.server = site.server := shows.server
      rw [World.site, ← server]
    have foundAfter : after.pools[index]? = some (site.pool.park task) := found
    have resumed := shows_resume agent foundAfter
    rw [same, ← passed] at resumed
    exact resumed

/-- An agent that waits for an answer goes on with it. -/
theorem Shows.proceed {due : Nat}
    (shows : trace.Shows index agent now (site.wait agent phase (some due))) (late : Nat) :
    ∃ later, now ≤ later ∧ due ≤ later ∧ (trace.goOn index agent late).Shows index agent later
      (({ site with now := later } : Site).proceed agent phase) := by
  obtain ⟨later, after, dueAfter, next⟩ := shows.goOn fresh late
  have passed : due ≤ later := Nat.le_trans (Nat.le_add_right due late) dueAfter
  refine ⟨later, after, passed, ?_⟩
  let parked : Site := ⟨later, site.server, site.pool.park ⟨agent, phase, some due⟩⟩
  have found : parked.pool.task? agent = some ⟨agent, phase, some due⟩ :=
    Pool.task?_park ⟨agent, phase, some due⟩ fresh
  have ready : parked.pool.isReady parked.now ⟨agent, phase, some due⟩ = true := by
    simp [parked, Pool.isReady, Task.isDue, passed]
  have goes := Site.resume_eq_proceed found ready
  have same : parked.withPool (·.unpark agent) = { site with now := later } := by
    have unparked := Pool.unpark_park ⟨agent, phase, some due⟩ fresh
    exact congrArg (fun pool => (⟨later, site.server, pool⟩ : Site)) unparked
  rw [goes, same] at next
  exact next

/-- So one more turn is spent. -/
theorem Shows.alone_cons {due : Nat}
    (shows : trace.Shows index agent now (site.wait agent phase (some due))) (late : Nat)
    (lates : List Nat) :
    ∃ later next, now ≤ later ∧ due ≤ later ∧
      trace.alone index agent (late :: lates) = Trace.alone index agent lates next ∧
      next.Shows index agent later (({ site with now := later } : Site).proceed agent phase) := by
  obtain ⟨later, after, passed, next⟩ := shows.proceed fresh late
  exact ⟨later, _, after, passed, if_pos (shows.events_eq_nil rfl), next⟩

end Wait

end Trace

end World

end SessionPool

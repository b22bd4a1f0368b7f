import SessionPool.Proofs.Checker.Stages

/-!
# The rounds of the checker

From the opening of its pool on, a checker goes round: it rests until the next sweep is due, sweeps,
and rests again. One that has been asked to stop does not begin a sweep: it ends with its rest, or
with the sweep that is under way. Whatever happens, the checker of a pool goes one step of its
round, or stays where it is.
-/

namespace SessionPool

open Pool (Stage)

/-! ### Steps of a round -/

/-- What there is to note about the checker of a pool. -/
inductive Mark where
  /-- The pool has been opened. -/
  | opened
  /-- A sweep of the checker has begun. -/
  | began
  /-- A sweep of the checker is over. -/
  | ended
deriving DecidableEq, Repr

namespace Pool.Stage

/-- Whether the checker is in the middle of a sweep. -/
def isSweep : Stage → Bool
  | .rest _ => false
  | .sweep _ => true

/-- What becomes of a checker at `now`, whether it has been asked to stop and what it does, with
what there is to note, the last first. It goes on, or somebody else works in its pool. -/
inductive Goes (interval now : Nat) :
    (own : Bool) → Bool → List Stage → List Mark → Bool → List Stage → Prop where
  /-- Somebody else may ask it to stop, if it is there. -/
  | stays {stopped later : Bool} {stages : List Stage} (asks : later = stopped ∨ later = true)
      (missing : stages = [] → later = stopped) :
      Goes interval now false stopped stages [] later stages
  | opens :
      Goes interval now false false [] [.opened] false [.rest (Instant.after? now interval)]
  | stops {due : Option Nat} : Goes interval now true true [.rest due] [] true []
  | begins {due left : Nat} (comes : due ≤ now) :
      Goes interval now true false [.rest (some due)] [.began] false [.sweep left]
  /-- Where nothing has to be probed, a sweep is over as soon as it has begun. -/
  | passes {due : Nat} (comes : due ≤ now) :
      Goes interval now true false [.rest (some due)] [.ended, .began] false
        [.rest (Instant.after? now interval)]
  | probes {stopped : Bool} {left less : Nat} (fewer : less < left) :
      Goes interval now true stopped [.sweep left] [] stopped [.sweep less]
  | ends {stopped : Bool} {left : Nat} :
      Goes interval now true stopped [.sweep left] [.ended] stopped
        (if stopped then [] else [.rest (Instant.after? now interval)])

end Pool.Stage

/-- What there is to note, the last first, if this is told: a sweep has begun if there was none
before, and there is one now or one is over. -/
def Mark.noted (before after : List Stage) (told : Option Mark) : List Mark :=
  let begins := !before.any Stage.isSweep && (after.any Stage.isSweep || told == some .ended)
  told.toList ++ if begins then [.began] else []

theorem Mark.noted_same (stages : List Stage) : noted stages stages none = [] := by
  rw [noted]
  cases stages.any Stage.isSweep <;> rfl

namespace World

open Pool (Agent Task Job Sound Filling Balanced)

/-- What an event says about the checker of a pool: that the pool has been opened, or that a sweep
is over. -/
def Event.mark? (index : Nat) : Event → Option Mark
  | ⟨.inPool place (.caller _), .ok (.pool .opened)⟩ => if place = index then some .opened else none
  | ⟨.inPool place .checker, .ok (.pool (.swept _))⟩ => if place = index then some .ended else none
  | _ => none

/-- Whether the checker of a pool goes on in a move. -/
def Move.isTurn (world : World) (index : Nat) : Move → Bool
  | .act (.resume thread) => thread == .inPool index .checker && world.isReady thread
  | _ => false

end World

namespace Pool

/-- How a pool stands with its checker; without one, it is being filled or has been shut down. -/
structure Guarded (pool : Pool) (config : Config) (stopped : Bool) (stages : List Stage) :
    Prop where
  stands : pool.Stands config stopped stages
  single : stages.length ≤ 1
  filling (running : stopped = false) (none : stages = []) :
    pool.tasks.any Task.isPrewarming = true

/-- What becomes of a pool that stood so with its checker goes one step of the round. -/
def Guides (config : Config) (now : Nat) (own stopped : Bool) (stages : List Stage)
    (after : Pool) (told : Option Mark) : Prop :=
  ∃ later next, after.Guarded config later next ∧
    Stage.Goes config.validationInterval now own stopped stages (Mark.noted stages next told)
      later next

variable {pool after : Pool} {config : Config} {stopped : Bool} {stages : List Stage}

/-- A pool with a checker. -/
theorem Stands.guarded {stage : Stage} (stands : pool.Stands config stopped [stage]) :
    pool.Guarded config stopped [stage] :=
  ⟨stands, Nat.le_refl _, fun _ none => absurd none (List.cons_ne_nil _ _)⟩

/-- A pool that its checker has left after a shutdown. -/
theorem Stands.unguarded (stands : pool.Stands config true []) : pool.Guarded config true [] :=
  ⟨stands, Nat.zero_le _, nofun⟩

/-- Somebody else has worked, if at all, and nobody works in a pool that is being filled. -/
theorem Guarded.stays (guarded : pool.Guarded config stopped stages) (now : Nat) {later : Bool}
    (asks : later = stopped ∨ later = true) (stands : after.Stands config later stages)
    (unknown : pool.tasks.any Task.isPrewarming = true → after = pool) :
    Guides config now false stopped stages after none := by
  have still (running : stopped = false) (none : stages = []) : after = pool :=
    unknown (guarded.filling running none)
  refine ⟨later, stages, ⟨stands, guarded.single, ?_⟩, ?_⟩
  · rintro rfl none
    obtain rfl : stopped = false := asks.elim Eq.symm nofun
    rw [still rfl none]
    exact guarded.filling rfl none
  · rw [Mark.noted_same]
    refine .stays asks fun none => ?_
    cases stopped with
    | false =>
        rw [← stands.shutdown_eq, still rfl none]
        exact guarded.stands.shutdown_eq
    | true => exact asks.elim id id

/-- Nobody fills a pool that has been opened. -/
theorem Balanced.not_any_isPrewarming {callers : Nat} (balanced : Balanced callers pool 0) :
    ¬ pool.tasks.any Task.isPrewarming = true := by
  intro fills
  obtain ⟨task, present, prewarms⟩ := List.any_eq_true.mp fills
  rw [balanced.isPrewarming_eq task present] at prewarms
  cases prewarms

/-- Nothing happens in a pool that is being filled if its agents change places. -/
theorem Filling.reorder_eq {callers : Nat} (filling : Filling callers pool) (tasks : List Task) :
    pool.reorder tasks = pool := by
  obtain ⟨_, _, _, _, _, alone, _⟩ := filling
  rw [reorder]
  split
  case isTrue same =>
    have perm := List.isPerm_iff.mp same
    rw [alone] at perm
    rw [List.perm_singleton.mp perm, ← alone]
  case isFalse => rfl

/-- Nobody sleeps in a pool that is being filled. -/
theorem Filling.notifyOne_eq {callers : Nat} (filling : Filling callers pool) :
    pool.notifyOne = pool := by
  obtain ⟨_, _, _, _, _, alone, _⟩ := filling
  have same : notifyFirst pool.tasks = pool.tasks := by
    apply (notifyFirst_eq_self_iff pool.tasks).mpr
    intro task present
    rw [alone] at present
    rw [List.mem_singleton.mp present]
    rfl
  rw [notifyOne, same]

/-- Only whoever fills a pool is on no job that has been asked of it. -/
theorem Task.not_serves_none {task : Task}
    (filled : ∀ made metadata attempt, task.phase ≠ .prewarming made metadata attempt) :
    ¬ task.Serves none := by
  obtain ⟨agent, phase, due⟩ := task
  intro serves
  cases phase with
  | prewarming made metadata attempt => exact filled made metadata attempt rfl
  | connecting checkout _ _ | borrowProbe checkout _ | waiting checkout _ => cases serves.1
  | returnProbe connection =>
      obtain ⟨job, ticket, same, -⟩ := serves
      cases same
  | _ => cases serves

/-- A checker that waits rests or sweeps. -/
theorem Task.cases_of_checker {task : Task} (own : task.agent = .checker)
    (serves : task.Serves (some .sweep)) :
    (∃ due, task = ⟨.checker, .resting, due⟩) ∨
      ∃ sweep current pending due, task = ⟨.checker, .sweeping sweep current pending, due⟩ := by
  obtain ⟨agent, phase, due⟩ := task
  obtain rfl : agent = .checker := own
  cases phase with
  | resting => exact .inl ⟨due, rfl⟩
  | sweeping sweep current pending => exact .inr ⟨sweep, current, pending, due, rfl⟩
  | prewarming made metadata attempt | joining thenDrop => cases serves
  | connecting checkout _ _ | borrowProbe checkout _ | waiting checkout _ => cases serves.1
  | returnProbe connection =>
      obtain ⟨job, ticket, same, returns⟩ := serves
      cases same
      cases returns

end Pool

/-! ### Turns -/

namespace Site

open Pool (Agent Task Guides)

variable {config : Config} {stopped : Bool} {now limit : Nat} {turn : Turn}

/-- Whoever fills a pool leaves it without a checker, or with one that begins its first rest. -/
theorem Fills.guides (fills : Fills config false now turn) (index number : Nat) :
    Guides config now false false [] turn.1.pool
      ((World.ending index (.caller number) turn).bind (World.Event.mark? index)) := by
  obtain ⟨site, answer⟩ := turn
  cases fills with
  | connects waits fills stands =>
      obtain rfl := waits
      exact ⟨false, [], ⟨stands, Nat.zero_le _, fun _ _ => fills⟩, .stays (.inl rfl) fun _ => rfl⟩
  | opens tells stands =>
      obtain rfl := tells
      refine ⟨false, _, stands.guarded, ?_⟩
      have told : (World.ending index (.caller number) (site, some (.ok .opened))).bind
          (World.Event.mark? index) = some .opened := if_pos rfl
      rw [told]
      exact .opens

theorem mark?_swept (index : Nat) (site : Site) (report : Pool.Report) :
    (World.ending index .checker (site, some (.ok (.swept report)))).bind
      (World.Event.mark? index) = some .ended :=
  if_pos rfl

/-- A checker whose rest is over begins its sweep. -/
theorem Sweeps.guides_begin (sweeps : Sweeps config false now limit turn) (index : Nat) {due : Nat}
    (comes : due ≤ now) :
    Guides config now true false [.rest (some due)] turn.1.pool
      ((World.ending index .checker turn).bind (World.Event.mark? index)) := by
  obtain ⟨site, answer⟩ := turn
  cases sweeps with
  | probes left fewer waits stands =>
      obtain rfl := waits
      exact ⟨false, _, stands.guarded, .begins comes⟩
  | reports report tells stands =>
      obtain rfl := tells
      rw [mark?_swept]
      exact ⟨false, _, stands.guarded, .passes comes⟩

/-- A checker goes on with its sweep. -/
theorem Sweeps.guides (sweeps : Sweeps config stopped now limit turn) (index : Nat) :
    Guides config now true stopped [.sweep limit] turn.1.pool
      ((World.ending index .checker turn).bind (World.Event.mark? index)) := by
  obtain ⟨site, answer⟩ := turn
  cases sweeps with
  | probes left fewer waits stands =>
      obtain rfl := waits
      exact ⟨stopped, _, stands.guarded, .probes fewer⟩
  | reports report tells stands =>
      obtain rfl := tells
      rw [mark?_swept]
      cases stopped with
      | false => exact ⟨false, _, stands.guarded, .ends⟩
      | true => exact ⟨true, [], stands.unguarded, .ends⟩

/-- A checker that can go on goes one step of its round. -/
theorem resume_checker_guides {site : Site} {stages : List Pool.Stage}
    (guarded : site.pool.Guarded config stopped stages) {task : Task}
    (found : site.pool.task? .checker = some task)
    (ready : site.pool.isReady site.now task = true)
    (alone : ∀ other ∈ (site.pool.unpark .checker).tasks, other.agent ≠ .checker)
    (serves : task.Serves (some .sweep)) (index : Nat) :
    Guides config site.now true stopped stages (site.resume .checker).1.pool
      ((World.ending index .checker (site.resume .checker)).bind (World.Event.mark? index)) := by
  have goes := resume_eq_proceed found ready
  have stands := guarded.stands
  have left {own : Pool.Stage} (does : task.stage? = some own) :
      stages = [own] ∧ (site.withPool (·.unpark .checker)).pool.Stands config stopped [] := by
    obtain ⟨only, gone⟩ := Pool.stages_unpark_checker found alone does
    exact ⟨stands.stages_eq.symm.trans only, { stands with stages_eq := gone }⟩
  rcases Task.cases_of_checker (Pool.agent_of_task? found) serves with
    ⟨due, rfl⟩ | ⟨sweep, current, pending, due, rfl⟩
  · obtain ⟨rfl, leaves⟩ := left rfl
    rw [goes]
    change Guides _ _ _ _ _ (wake _).1.pool ((World.ending _ _ (wake _)).bind _)
    rcases wake_sweeps leaves with ⟨rfl, ends⟩ | ⟨rfl, limit, sweeps⟩
    · rw [ends]
      exact ⟨true, [], leaves.unguarded, .stops⟩
    · have asleep : site.pool.isWoken ⟨.checker, .resting, due⟩ = false := stands.stop_eq
      rw [Pool.isReady, asleep, Bool.false_or, Task.isDue] at ready
      cases due with
      | none => cases ready
      | some due => exact sweeps.guides_begin index (of_decide_eq_true ready)
  · obtain ⟨rfl, leaves⟩ := left rfl
    rw [goes]
    exact (sweepProbed_sweeps leaves sweep current pending).guides index

end Site

namespace World

open Pool (Agent Task Job Sound Filling Balanced Guarded Guides)

variable {world : World} {index : Nat} {pool : Pool} {config : Config} {stopped : Bool}
  {stages : List Stage}

/-! ### What is told -/

theorem mark?_elsewhere {event : Option Event} (elsewhere : IsElsewhere index event) :
    event.bind (Event.mark? index) = none := by
  rcases event with _ | ⟨_ | caller, answer⟩
  · rfl
  case some.inPool place agent =>
    have other : place ≠ index := fun here => elsewhere agent answer (here ▸ rfl)
    rcases agent with number | _
    all_goals
      rcases answer with error | reply
      · rfl
      · cases reply with
        | pool reply => cases reply <;> first | rfl | exact if_neg other
        | _ => rfl
  · rfl

/-- A caller that has not opened the pool says nothing about the checker. -/
theorem mark?_caller {number : Nat} {turn : Turn} (silent : turn.2 ≠ some (.ok .opened)) :
    (ending index (.caller number) turn).bind (Event.mark? index) = none := by
  obtain ⟨site, answer⟩ := turn
  rcases answer with _ | (error | reply)
  · rfl
  · rfl
  · cases reply with
    | opened => exact absurd rfl silent
    | _ => rfl

/-- Only whoever fills a pool opens it. -/
theorem ne_opened {turn : Turn} {before : Pool} {agent : Agent} {job : Job} {probes : Pool.Probes}
    (attends : Pool.Attends turn before agent (some job) probes) :
    turn.2 ≠ some (.ok .opened) := by
  intro opened
  have fits : some job = none := (attends.answers _ opened).1
  cases fits

/-! ### What a move does -/

section Moves

variable (possible : Possible world) (found : world.pools[index]? = some pool)
  (guarded : pool.Guarded config stopped stages)

include possible found guarded

/-- What leaves the agents of a pool where they were leaves the checker alone. -/
theorem guides_still {after : Pool} (stands : after.Stands config stopped stages)
    (unknown : Filling world.callers pool → after = pool) :
    Guides config world.now false stopped stages after none := by
  apply guarded.stays world.now (.inl rfl) stands
  intro fills
  rcases possible.sound pool (List.mem_of_getElem? found) with filling | balanced
  · exact unknown filling
  · exact absurd fills balanced.not_any_isPrewarming

/-- A call leaves the checker alone, but for a shutdown, which asks it to stop. -/
theorem guides_call {request : Request} {job : Job} (accepted : world.accepts request = true)
    (asks : request.asks? world = some (index, job)) :
    Guides config world.now false stopped stages (world.turn pool job).1.pool
      ((ending index (.caller world.callers) (world.turn pool job)).bind (Event.mark? index)) := by
  have sound := possible.sound pool (List.mem_of_getElem? found)
  have enough : (world.site pool).pool.idle.length ≤ (world.site pool).pool.total :=
    sound.idle_le_total
  have attends : Pool.Attends (world.turn pool job) pool (.caller world.callers) (some job)
      ⟨0, 0⟩ :=
    Site.work_attends world.callers job enough
  have standing : (world.site pool).pool.Stands config stopped stages := guarded.stands
  obtain ⟨later, asked, stands⟩ := Site.work_stands standing world.callers job
  rw [mark?_caller (ne_opened attends)]
  apply guarded.stays world.now asked stands
  intro fills
  rcases sound with filling | balanced
  · have filling : Filling world.callers (world.site pool).pool := filling
    exact filling.pool_work (fits_of_asks accepted asks found) world.callers
  · exact absurd fills balanced.not_any_isPrewarming

/-- An agent that cannot go on leaves everything as it is. -/
theorem guides_unready {agent : Agent}
    (unready : ∀ task, pool.task? agent = some task → ¬ pool.isReady world.now task = true) :
    Guides config world.now false stopped stages ((world.site pool).resume agent).1.pool
      ((ending index agent ((world.site pool).resume agent)).bind (Event.mark? index)) := by
  have stays : (world.site pool).resume agent = (world.site pool, none) :=
    Site.resume_eq_self unready
  rw [stays]
  exact guides_still possible found guarded guarded.stands fun _ => rfl

omit possible found in
/-- Whoever fills the pool and goes on leaves it without a checker, or opens it. -/
theorem guides_filler (filling : Filling world.callers pool) {number : Nat} {task : Task}
    (waits : pool.task? (.caller number) = some task)
    (ready : pool.isReady world.now task = true) :
    Guides config world.now false stopped stages
      ((world.site pool).resume (.caller number)).1.pool
      ((ending index (.caller number) ((world.site pool).resume (.caller number))).bind
        (Event.mark? index)) := by
  have waitsHere : (world.site pool).pool.task? (.caller number) = some task := waits
  have resumes := Site.resume_eq_proceed waitsHere ready
  have stands : ((world.site pool).withPool (·.unpark (.caller number))).pool.Stands config
      stopped stages := guarded.stands.unpark number
  obtain ⟨_, made, metadata, attempt, due, -, rfl, -⟩ := filling.unpark waits
  obtain ⟨_, _, _, _, _, alone, _, _, unknown⟩ := filling
  obtain rfl : stages = [] := by
    rw [← guarded.stands.stages_eq, Pool.stages, alone]
    rfl
  obtain rfl : stopped = false := guarded.stands.shutdown_eq.symm.trans unknown.running
  rw [resumes]
  exact (Site.prewarmConnected_fills stands number made metadata attempt).guides index number

omit guarded in
/-- Whoever goes on with anything but the filling of the pool does not open it. -/
theorem ne_opened_resume {agent : Agent} {task : Task} (waits : pool.task? agent = some task)
    (filled : ∀ made metadata attempt, task.phase ≠ .prewarming made metadata attempt) :
    ((world.site pool).resume agent).2 ≠ some (.ok .opened) := by
  have member := List.mem_of_getElem? found
  have sound : Sound world.callers (world.site pool).pool := possible.sound pool member
  obtain ⟨job?, serves⟩ := task.exists_serves
  obtain ⟨probes, tallies⟩ :=
    (possible.inOrder pool member task (List.mem_of_find?_eq_some waits)).tallies
  have known : ∀ other, (world.site pool).pool.task? agent = some other →
      other.Serves job? ∧ other.Probes probes := by
    intro other same
    obtain rfl := Option.some.inj (waits.symm.trans same)
    exact ⟨serves, tallies⟩
  have attends := Site.resume_attends sound known
  cases job? with
  | none => exact absurd serves (Task.not_serves_none filled)
  | some job => exact ne_opened attends

/-- A caller that goes on leaves the checker alone, unless it opens the pool. -/
theorem guides_caller (number : Nat) :
    Guides config world.now false stopped stages
      ((world.site pool).resume (.caller number)).1.pool
      ((ending index (.caller number) ((world.site pool).resume (.caller number))).bind
        (Event.mark? index)) := by
  by_cases goes : ∃ task, pool.task? (.caller number) = some task ∧
      pool.isReady world.now task = true
  case neg =>
    apply guides_unready possible found guarded
    exact fun task waits ready => goes ⟨task, waits, ready⟩
  case pos =>
    obtain ⟨task, waits, ready⟩ := goes
    rcases possible.sound pool (List.mem_of_getElem? found) with filling | balanced
    · exact guides_filler guarded filling waits ready
    · have waitsHere : (world.site pool).pool.task? (.caller number) = some task := waits
      have stands : ((world.site pool).withPool (·.unpark (.caller number))).pool.Stands config
          stopped stages := guarded.stands.unpark number
      have proper := balanced.proper task (List.mem_of_find?_eq_some waits)
      have filled (made : Nat) (metadata : Metadata) (attempt : Attempt) :
          task.phase ≠ .prewarming made metadata attempt := by
        intro phase
        rw [Task.Proper, phase] at proper
        exact proper
      have rests : task.phase ≠ .resting := by
        intro phase
        rw [Task.Proper, phase, Pool.agent_of_task? waits] at proper
        cases proper
      rw [mark?_caller (ne_opened_resume possible found waits filled),
        Site.resume_eq_proceed waitsHere ready]
      apply guarded.stays world.now (.inl rfl) (Site.proceed_stands stands filled rests)
      exact fun fills => absurd fills balanced.not_any_isPrewarming

/-- A checker goes one step of its round if it can. -/
theorem guides_checker :
    Guides config world.now (world.isReady (.inPool index .checker)) stopped stages
      ((world.site pool).resume .checker).1.pool
      ((ending index .checker ((world.site pool).resume .checker)).bind (Event.mark? index)) := by
  have member := List.mem_of_getElem? found
  have sound := possible.sound pool member
  have guardedHere : (world.site pool).pool.Guarded config stopped stages := guarded
  rw [isReady_inPool found]
  cases waits : pool.task? .checker with
  | none =>
      apply guides_unready possible found guarded
      rw [waits]
      exact nofun
  | some task =>
      rw [Option.any_some]
      cases ready : pool.isReady world.now task with
      | false =>
          apply guides_unready possible found guarded
          intro other same able
          obtain rfl := Option.some.inj (waits.symm.trans same)
          exact ne_true_of_eq_false ready able
      | true =>
          have present := List.mem_of_find?_eq_some waits
          have serves := (possible.inOrder pool member task present).sweeps
            (Pool.agent_of_task? waits)
          exact Site.resume_checker_guides guardedHere waits ready (sound.agent_ne waits) serves
            index

/-- The checker of a pool goes one step of its round with every move, or stays where it is. -/
theorem guides_move (move : Move) :
    ∃ after, (world.move move).pools[index]? = some after ∧
      Guides config world.now (move.isTurn world index) stopped stages after
        ((move.event? world).bind (Event.mark? index)) := by
  by_cases own : move = .act (.resume (.inPool index .checker))
  · subst own
    obtain ⟨left, -, event⟩ := resume_turn .checker found
    refine ⟨_, left, ?_⟩
    have turn : Move.isTurn world index (.act (.resume (.inPool index .checker))) =
        world.isReady (.inPool index .checker) := by
      rw [Move.isTurn, beq_self_eq_true, Bool.true_and]
    change Guides _ _ _ _ _ _ ((world.resume (.inPool index .checker)).2.bind _)
    rw [turn, event]
    exact guides_checker possible found guarded
  · have turn : move.isTurn world index = false := by
      unfold Move.isTurn
      split
      case h_1 thread =>
        have other : thread ≠ .inPool index .checker := fun same => own (same ▸ rfl)
        rw [beq_false_of_ne other, Bool.false_and]
      case h_2 => rfl
    obtain ⟨after, left, happens⟩ := becomes_move found move
    refine ⟨after, left, ?_⟩
    rw [turn]
    have still {next : Pool} (stands : next.Stands config stopped stages)
        (unknown : Filling world.callers pool → next = pool) :
        Guides config world.now false stopped stages next none :=
      guides_still possible found guarded stands unknown
    generalize move.event? world = event at happens
    cases happens with
    | nothing elsewhere =>
        rw [mark?_elsewhere elsewhere]
        exact still guarded.stands fun _ => rfl
    | calls accepted asks => exact guides_call possible found guarded accepted asks
    | resumes agent =>
        cases agent with
        | caller number => exact guides_caller possible found guarded number
        | checker => exact absurd rfl own
    | puts ticket session closes elsewhere =>
        rw [mark?_elsewhere elsewhere]
        apply still (guarded.stands.putSession ticket session)
        intro filling
        rw [Pool.putSession, filling.lease?_eq]
    | reorders tasks =>
        exact still (guarded.stands.reorder guarded.single tasks) fun filling =>
          filling.reorder_eq tasks
    | stirs => exact still guarded.stands.notifyOne Filling.notifyOne_eq

end Moves

/-! ### A pool that is made -/

/-- A move leaves a pool missing that is not there, or makes it, and then it has no checker yet, or
one that begins its first rest. -/
def Makes (world : World) (index : Nat) (move : Move) : Prop :=
  let told := (move.event? world).bind (Event.mark? index)
  ((world.move move).pools[index]? = none ∧ told = none) ∨
    ∃ config after, (world.move move).pools[index]? = some after ∧
      Guides config world.now false false [] after told

section Makes

variable (absent : world.pools[index]? = none)

theorem makes_nothing {move : Move} (pools : (world.move move).pools[index]? = none)
    (elsewhere : IsElsewhere index (move.event? world)) : world.Makes index move :=
  .inl ⟨pools, mark?_elsewhere elsewhere⟩

/-- Nobody works in a pool that is not there. -/
theorem makes_callPool {action : Action} {place : Nat} {agent : Agent} {acting : World}
    {work : Site → Turn}
    (does : world.step action = report (.inPool place agent) (acting.callPool place work))
    (absent : acting.pools[index]? = none) : world.Makes index (.act action) := by
  apply makes_nothing
  · rw [World.move, does, report, pools_callPool, List.getElem?_modify, absent]
    rfl
  · rw [Move.event?, does]
    by_cases here : place = index
    · rw [here, callPool_eq_self work absent]
      exact isElsewhere_none
    · exact isElsewhere_inPool here

include absent

theorem makes_errand {action : Action} {caller : Nat} {done : World × Option Answer}
    (does : world.step action = report (.errand caller) done)
    (pools : done.1.pools = world.pools) : world.Makes index (.act action) := by
  apply makes_nothing
  · rw [World.move, does, report, pools]
    exact absent
  · rw [Move.event?, does]
    exact isElsewhere_errand

theorem makes_openPool (config : Config) : world.Makes index (.act (.call (.openPool config))) := by
  let numbered : World := { world with callers := world.callers + 1 }
  have does : world.step (.call (.openPool config)) =
      report (.inPool world.pools.length (.caller world.callers))
        (numbered.openPool config world.callers) := rfl
  cases consistent : config.problem? with
  | some problem =>
      have refused : numbered.openPool config world.callers =
          (numbered, some (.error (.pool (.config problem)))) := by
        rw [World.openPool, consistent]
      left
      rw [World.move, Move.event?, does, refused]
      exact ⟨absent, rfl⟩
  | none =>
      let opened : World :=
        { numbered with pools := numbered.pools ++ [Pool.new config numbered.now] }
      have filled : numbered.openPool config world.callers =
          opened.callPool world.pools.length (·.prewarm (.caller world.callers) 0) := by
        rw [World.openPool, consistent]
      rw [filled] at does
      by_cases here : world.pools.length = index
      · subst here
        have found : opened.pools[world.pools.length]? = some (.new config world.now) :=
          List.getElem?_concat_length
        let site : Site := ⟨world.now, world.server, .new config world.now⟩
        have stands : site.pool.Stands config false [] := .new config world.now
        have fills := Site.prewarm_fills stands world.callers 0
        let work : Site → Turn := (·.prewarm (.caller world.callers) 0)
        have left : (opened.callPool world.pools.length work).1.pools[world.pools.length]? =
            some (work site).1.pool := found_callPool found
        right
        refine ⟨config, (site.prewarm (.caller world.callers) 0).1.pool, ?_, ?_⟩
        · rw [World.move, does]
          exact left
        · rw [Move.event?, does, report, answer_callPool found]
          exact fills.guides world.pools.length world.callers
      · apply makes_callPool does
        have beyond := List.getElem?_eq_none_iff.mp absent
        apply List.getElem?_eq_none_iff.mpr
        change (world.pools ++ [Pool.new config world.now]).length ≤ index
        rw [List.length_append, List.length_singleton]
        omega

theorem makes_disconnect {holder : Holder}
    (accepted : world.accepts (.disconnect holder) = true) :
    world.Makes index (.act (.call (.disconnect holder))) := by
  let numbered : World := { world with callers := world.callers + 1 }
  have does : world.step (.call (.disconnect holder)) =
      report (.errand world.callers) (numbered.disconnect holder) :=
    call_eq_report accepted
  rw [World.disconnect, withSession] at does
  cases held : numbered.session? holder with
  | none =>
      rw [held] at does
      exact makes_errand absent does rfl
  | some session =>
      rw [held] at does
      cases holder with
      | outside id => exact makes_errand absent does rfl
      | lease handle =>
          have pools : (world.move (.act (.call (.disconnect (.lease handle))))).pools =
              world.pools.modify handle.pool (·.putSession handle.ticket session.closed) := by
            rw [World.move, does]
            rfl
          apply makes_nothing
          · rw [pools, List.getElem?_modify, absent]
            rfl
          · rw [Move.event?, does]
            exact isElsewhere_errand

theorem makes_call (request : Request) : world.Makes index (.act (.call request)) := by
  by_cases accepted : world.accepts request = true
  · let numbered : World := { world with callers := world.callers + 1 }
    have does := call_eq_report accepted
    have used {holder : Holder} {use : Session → World × Option Answer} {caller : Nat}
        (does : world.call request = report (.errand caller) (numbered.withSession holder use))
        (keeps : ∀ session, (use session).1.callers = world.callers + 1 ∧
          (use session).1.pools = world.pools) : world.Makes index (.act (.call request)) :=
      makes_errand absent does (numbered.pools_withSession keeps).2
    cases asks : request.asks? world with
    | some asked =>
        obtain ⟨acting, pools, -, -, -, does⟩ := call_eq_work accepted asks
        exact makes_callPool does (pools.symm ▸ absent)
    | none =>
        cases request with
        | openPool config => exact makes_openPool absent config
        | disconnect holder => exact makes_disconnect absent accepted
        | connect => exact makes_errand absent does rfl
        | probe holder => exact used does fun _ => ⟨rfl, rfl⟩
        | executeDirectly holder statement => exact used does fun _ => ⟨rfl, rfl⟩
        | queryDirectly holder statement => exact used does fun _ => ⟨rfl, rfl⟩
        | adopt place id =>
            have unknown : world.outside? id = none := Option.map_eq_none_iff.mp asks
            have free := (Bool.and_eq_true_iff.mp accepted).2
            simp [isFree, session?, unknown] at free
        | _ => cases asks
  · have refused : world.step (.call request) = (world, none) := if_neg accepted
    left
    rw [World.move, Move.event?, refused]
    exact ⟨absent, rfl⟩

theorem makes_move (move : Move) : world.Makes index move := by
  have modified (place : Nat) (change : Pool → Pool) :
      (world.pools.modify place change)[index]? = none := by
    rw [List.getElem?_modify, absent]
    rfl
  cases move with
  | act action =>
      cases action with
      | call request => exact makes_call absent request
      | resume thread =>
          cases thread with
          | inPool place agent =>
              have does : world.step (.resume (.inPool place agent)) =
                  report (.inPool place agent) (world.callPool place (·.resume agent)) := rfl
              exact makes_callPool does absent
          | errand caller =>
              have does : world.step (.resume (.errand caller)) =
                  report (.errand caller) (world.resumeErrand caller) := rfl
              exact makes_errand absent does (world.pools_resumeErrand caller).2
      | instruct command => exact makes_nothing absent isElsewhere_none
      | passTo instant =>
          apply makes_nothing _ isElsewhere_none
          change (world.passTo instant).pools[index]? = none
          rw [(world.pools_passTo instant).2]
          exact absent
  | reorder place tasks => exact makes_nothing (modified place _) isElsewhere_none
  | stir place => exact makes_nothing (modified place _) isElsewhere_none
  | elapse duration => exact makes_nothing absent isElsewhere_none

end Makes

end World

end SessionPool

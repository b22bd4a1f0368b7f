import SessionPool.Proofs.Checker.Timetable
import SessionPool.Proofs.Shutdown.Teardown

/-!
# The checker keeps its schedule, and always stops

A checker that rests goes on when its time has come, and where nobody is slow the time does not go
beyond that before it does. A request to stop is never lost: whenever it comes, the checker begins
no sweep any more, and ends after as many turns at most as it has connections still to examine, and
one. So a shutdown that waits for the checker while everybody waits is waiting for the server to
answer a probe.
-/

namespace SessionPool

open Pool (Stage)

/-! ### Requests to stop -/

namespace Pool.Stage

/-- How often a checker goes on at most that has been asked to stop. -/
def turnsLeft (stages : List Stage) : Nat :=
  (stages.map fun
    | .rest _ => 1
    | .sweep left => left + 1).sum

theorem turnsLeft_sweep (left : Nat) : turnsLeft [.sweep left] = left + 1 :=
  rfl

theorem turnsLeft_eq_zero_iff {stages : List Stage} : turnsLeft stages = 0 ↔ stages = [] := by
  cases stages with
  | nil => exact iff_of_true rfl rfl
  | cons stage rest => cases stage <;> simp [turnsLeft]

variable {interval now : Nat} {own later : Bool} {stages next : List Stage} {marks : List Mark}
  (goes : Stage.Goes interval now own true stages marks later next)

include goes

/-- A request to stop is not taken back. -/
theorem Goes.stopped : later = true := by
  cases goes with
  | stays asks missing => exact asks.elim id id
  | _ => rfl

/-- A checker that has been asked to stop goes on once less with every turn. -/
theorem Goes.turnsLeft_le : own.toNat + turnsLeft next ≤ turnsLeft stages := by
  cases goes with
  | stays asks missing => exact Nat.le_of_eq (Nat.zero_add _)
  | stops => exact Nat.le_refl _
  | probes fewer =>
      rw [turnsLeft_sweep, turnsLeft_sweep, Bool.toNat_true]
      omega
  | ends =>
      rw [turnsLeft_sweep]
      exact Nat.le_add_left 1 _

/-- It begins no sweep. -/
theorem Goes.not_began : .began ∉ marks := by
  cases goes <;> simp

end Pool.Stage

namespace Pool

variable {pool : Pool}

theorem Task.agent_of_stage? {task : Task} {stage : Stage} (does : task.stage? = some stage) :
    task.agent = .checker := by
  cases stage with
  | rest due => rw [Task.eq_of_rest does]
  | sweep left =>
      obtain ⟨_, _, _, _, rfl⟩ := Task.eq_of_sweep does
      rfl

/-- There is only one checker, so it does nothing else. -/
theorem Guarded.eq_singleton {config : Config} {stopped : Bool} {stages : List Stage}
    (guarded : pool.Guarded config stopped stages) {task : Task} (present : task ∈ pool.tasks)
    {stage : Stage} (does : task.stage? = some stage) : stages = [stage] := by
  have member : stage ∈ stages := by
    rw [← guarded.stands.stages_eq]
    exact List.mem_filterMap.mpr ⟨task, present, does⟩
  have single := guarded.single
  obtain ⟨other, rfl⟩ := List.length_eq_one_iff.mp
    (Nat.le_antisymm single (List.length_pos_of_mem member))
  rw [List.mem_singleton.mp member]

/-- A checker that has not ended is doing something. -/
theorem InOrder.stages_eq_nil_iff (order : pool.InOrder) :
    pool.stages = [] ↔ pool.hasChecker = false := by
  rw [stages, List.filterMap_eq_nil_iff, Bool.eq_false_iff, Ne, World.hasChecker_iff]
  constructor
  · rintro idle ⟨task, present, own⟩
    have none := idle task present
    rcases Task.cases_of_checker own ((order task present).sweeps own) with
      ⟨_, rfl⟩ | ⟨_, _, _, _, rfl⟩
    all_goals cases none
  · intro gone task present
    cases does : task.stage? with
    | none => rfl
    | some stage => exact absurd ⟨task, present, Task.agent_of_stage? does⟩ gone

/-- Only a pool that has been shut down has somebody in it who waits for the checker to end. -/
theorem Sound.isShutdown_of_isJoining {callers : Nat} (sound : Sound callers pool) {task : Task}
    (present : task ∈ pool.tasks) (joining : task.isJoining = true) : pool.isShutdown = true := by
  rcases sound with filling | balanced
  · obtain ⟨_, _, _, _, _, alone, _⟩ := filling
    rw [alone] at present
    rw [List.mem_singleton.mp present] at joining
    cases joining
  · by_contra running
    let site : Site := ⟨0, .new, pool⟩
    have balanced : Balanced callers site.pool 0 := balanced
    have none := World.isJoining_of_running balanced (Bool.eq_false_of_not_eq_true running) task
      present
    rw [none] at joining
    cases joining

/-- What a checker does is known by its task. -/
theorem Sound.task?_of_stages {callers : Nat} (sound : Sound callers pool) {stage : Stage}
    (does : pool.stages = [stage]) :
    ∃ task, pool.task? .checker = some task ∧ task.stage? = some stage := by
  have one : stage ∈ pool.tasks.filterMap Task.stage? := by
    rw [← Pool.stages, does]
    exact List.mem_singleton_self stage
  obtain ⟨task, present, known⟩ := List.mem_filterMap.mp one
  have own := Task.agent_of_stage? known
  rcases sound with filling | balanced
  · obtain ⟨_, _, _, _, _, alone, _⟩ := filling
    rw [alone] at present
    rw [List.mem_singleton.mp present] at known
    cases known
  · refine ⟨task, ?_, known⟩
    rw [← own]
    exact balanced.task?_eq present

end Pool

namespace World

open Pool (Task Sound Balanced)

/-- How often the checker of a pool goes on. -/
def turnsTaken (index : Nat) (world : World) : List Move → Nat
  | [] => 0
  | move :: later =>
      (move.isTurn world index).toNat + turnsTaken index (world.move move) later

namespace Timetable

variable {index : Nat} {prompt : Prop} {timetable : Timetable} {pool after : Pool}

/-! ### Requests to stop are never lost -/

/-- What has become of a pool whose checker had been asked to stop, with these moves. -/
structure Stops (index : Nat) (timetable : Timetable) (pool : Pool) (later : List Move)
    (after : Pool) : Prop where
  found : (timetable.follow index later).world.pools[index]? = some after
  asked : after.stopRequested = true
  /-- With every turn, the checker goes on once less. -/
  turns_le : timetable.world.turnsTaken index later + Stage.turnsLeft after.stages ≤
    Stage.turnsLeft pool.stages
  /-- When it does not go on any more, it has ended. -/
  ended_iff : Stage.turnsLeft after.stages = 0 ↔ after.hasChecker = false
  /-- It begins no sweep. -/
  unbegun : ∃ added, (timetable.follow index later).log = added ++ timetable.log ∧
    ∀ entry ∈ added, entry.2 ≠ .began

/-- However a run goes on, a request to stop is not lost. -/
theorem Kept.exists_stops (kept : timetable.Kept index False)
    (found : timetable.world.pools[index]? = some pool) (asked : pool.stopRequested = true)
    (later : List Move) : ∃ after, Stops index timetable pool later after := by
  induction later generalizing timetable pool with
  | nil =>
      refine ⟨pool, found, asked, Nat.le_of_eq (Nat.zero_add _), ?_, [], rfl, nofun⟩
      have order := kept.possible.inOrder pool (List.mem_of_getElem? found)
      exact Stage.turnsLeft_eq_zero_iff.trans order.stages_eq_nil_iff
  | cons first later ih =>
      obtain ⟨stopped, stages, agrees⟩ := kept.agrees pool found
      have stands := agrees.guarded.stands
      obtain rfl : stopped = true := stands.stop_eq.symm.trans asked
      obtain ⟨between, foundNext, still, next, guarded, goes⟩ :=
        guides_move kept.possible found agrees.guarded first
      obtain rfl := goes.stopped
      have before : timetable.world.stages index = stages :=
        (stages_eq found).trans stands.stages_eq
      have does : (timetable.world.move first).stages index = next :=
        (stages_eq foundNext).trans guarded.stands.stages_eq
      have log := log_move before does rfl
      have keptNext : (timetable.move index first).Kept index False := kept.move False.elim
      obtain ⟨after, stops⟩ := ih keptNext foundNext guarded.stands.stop_eq
      have less := stops.turns_le
      rw [guarded.stands.stages_eq] at less
      obtain ⟨added, logs, none⟩ := stops.unbegun
      refine ⟨after, { stops with turns_le := ?_, unbegun := ?_ }⟩
      · have turns := goes.turnsLeft_le
        have rest : turnsTaken index (timetable.world.move first) later +
            Stage.turnsLeft after.stages ≤ Stage.turnsLeft next := less
        rw [stands.stages_eq, turnsTaken]
        omega
      · let told := (first.event? timetable.world).bind (Event.mark? index)
        let marks := (Mark.noted stages next told).map (timetable.world.now, ·)
        refine ⟨added ++ marks, ?_, ?_⟩
        · rw [List.append_assoc]
          exact logs.trans (congrArg (added ++ ·) log)
        · intro entry member
          rcases List.mem_append.mp member with new | old
          · exact none entry new
          · obtain ⟨mark, noted, rfl⟩ := List.mem_map.mp old
            exact fun began => goes.not_began (began ▸ noted)

/-! ### Who waits for whom -/

/-- The checker of a running pool that does not sweep rests for the interval. -/
theorem Agrees.rests {log earlier : Log} {time : Nat} {mark : Mark} {stopped : Bool}
    {stages : List Stage} (agrees : Agrees pool log prompt stopped stages)
    (running : pool.isShutdown = false) (last : log = (time, mark) :: earlier)
    (rested : mark ≠ .began) :
    stopped = false ∧
      stages = [.rest (Instant.after? time pool.config.validationInterval)] := by
  have tells := agrees.tells
  obtain rfl := agrees.guarded.stands.shutdown_eq.symm.trans running
  rw [last] at tells
  cases tells with
  | rests _ comes => exact ⟨rfl, by rw [comes]⟩
  | sweeps => exact absurd rfl rested

theorem isReady_of_isQuiet {world : World} (quiet : world.isQuiet = true)
    (member : pool ∈ world.pools) (task : Task) (present : task ∈ pool.tasks) :
    pool.isReady world.now task = false := by
  have blocked := List.all_eq_true.mp (Bool.and_eq_true_iff.mp quiet).1 pool member
  simpa using List.all_eq_true.mp blocked task present

namespace Kept

variable (kept : timetable.Kept index prompt) (found : timetable.world.pools[index]? = some pool)

include kept found

/-- A sweep under way waits for the server. -/
theorem exists_sweep {left : Nat} (does : pool.stages = [.sweep left]) :
    ∃ sweep current pending due,
      pool.task? .checker = some ⟨.checker, .sweeping sweep current pending, some due⟩ := by
  have member := List.mem_of_getElem? found
  obtain ⟨task, waits, known⟩ := (kept.possible.sound pool member).task?_of_stages does
  have present := List.mem_of_find?_eq_some waits
  obtain ⟨sweep, current, pending, due, rfl⟩ := Task.eq_of_sweep known
  obtain ⟨time, comes⟩ := ((kept.possible.timely pool member).2 _ present).answered rfl
  obtain rfl : due = some time := comes
  exact ⟨sweep, current, pending, time, waits⟩

/-- If everybody waits, and a shutdown waits for the checker, the checker waits for the server. -/
theorem exists_sweep_of_isJoining (quiet : timetable.world.isQuiet = true) {task : Task}
    (present : task ∈ pool.tasks) (joining : task.isJoining = true) :
    ∃ sweep current pending due,
      pool.task? .checker = some ⟨.checker, .sweeping sweep current pending, some due⟩ ∧
        timetable.world.now < due := by
  have member := List.mem_of_getElem? found
  have sound := kept.possible.sound pool member
  have blocked := isReady_of_isQuiet quiet member
  obtain ⟨stopped, stages, agrees⟩ := kept.agrees pool found
  have stands := agrees.guarded.stands
  obtain rfl : stopped = true := by
    rw [← stands.shutdown_eq]
    exact sound.isShutdown_of_isJoining present joining
  have running : pool.hasChecker = true := by
    have waits := (Bool.or_eq_false_iff.mp (blocked task present)).1
    obtain ⟨agent, phase, due⟩ := task
    cases phase with
    | joining thenDrop =>
        have ended : (!pool.hasChecker) = false := waits
        rwa [Bool.not_eq_false'] at ended
    | _ => cases joining
  have tells := agrees.tells
  generalize timetable.log = log at tells
  cases tells with
  -- A checker that rests would have been woken.
  | rests _ _ =>
      obtain ⟨checker, waits, known⟩ := sound.task?_of_stages stands.stages_eq
      obtain rfl := Task.eq_of_rest known
      have asleep := (Bool.or_eq_false_iff.mp (blocked _ (List.mem_of_find?_eq_some waits))).1
      have woken : pool.stopRequested = false := asleep
      rw [stands.stop_eq] at woken
      cases woken
  | sweeps =>
      obtain ⟨sweep, current, pending, due, waits⟩ := kept.exists_sweep found stands.stages_eq
      have early := (Bool.or_eq_false_iff.mp (blocked _ (List.mem_of_find?_eq_some waits))).2
      exact ⟨sweep, current, pending, due, waits, Nat.lt_of_not_le (of_decide_eq_false early)⟩
  | gone _ =>
      have order := kept.possible.inOrder pool member
      rw [order.stages_eq_nil_iff.mp stands.stages_eq] at running
      cases running

/-- The turn of a checker whose rest is over begins its sweep. -/
theorem exists_log_began {due : Nat} (agrees : Agrees pool timetable.log prompt false
      [.rest (some due)]) (reached : due ≤ timetable.world.now) :
    ∃ more, (timetable.move index (.act (.resume (.inPool index .checker)))).log =
      more ++ (timetable.world.now, .began) :: timetable.log := by
  let move : Move := .act (.resume (.inPool index .checker))
  have stands := agrees.guarded.stands
  have sound := kept.possible.sound pool (List.mem_of_getElem? found)
  obtain ⟨task, waits, known⟩ := sound.task?_of_stages stands.stages_eq
  obtain rfl := Task.eq_of_rest known
  have turn : move.isTurn timetable.world index = true := by
    have ready : pool.isReady timetable.world.now ⟨.checker, .resting, some due⟩ = true :=
      Bool.or_eq_true_iff.mpr (.inr (decide_eq_true reached))
    change (_ == _ && timetable.world.isReady (.inPool index .checker)) = true
    rw [beq_self_eq_true, Bool.true_and, isReady_inPool found, waits]
    exact ready
  obtain ⟨after, left, later, next, guarded, goes⟩ :=
    guides_move kept.possible found agrees.guarded move
  rw [turn] at goes
  have before := (stages_eq found).trans stands.stages_eq
  have does := (stages_eq left).trans guarded.stands.stages_eq
  have log := log_move before does rfl
  generalize Mark.noted _ _ _ = marks at log goes
  rw [log]
  cases goes with
  | begins _ => exact ⟨[], rfl⟩
  | passes _ => exact ⟨[(_, .ended)], rfl⟩

end Kept

/-! ### The schedule -/

/-- The checker of a pool keeps its schedule, and always stops. If `prompt`, nobody has been
slow. -/
structure Reliable (index : Nat) (prompt : Prop) (timetable : Timetable) (pool : Pool) : Prop where
  /-- A pool of which nothing has been noted is still being filled. -/
  opens (empty : timetable.log = []) : pool.tasks.any Task.isPrewarming = true
  /-- Every sweep has begun when the interval was over, and just then if nobody was slow. -/
  onTime : timetable.log.OnTime pool.config.validationInterval prompt
  /-- Between two sweeps the checker rests until the interval is over, or for ever if that time does
  not exist. -/
  rests (running : pool.isShutdown = false) {time : Nat} {mark : Mark} {earlier : Log}
    (last : timetable.log = (time, mark) :: earlier) (rested : mark ≠ .began) :
    pool.task? .checker =
      some ⟨.checker, .resting, Instant.after? time pool.config.validationInterval⟩
  /-- As long as it rests, the time does not go beyond that if nobody is slow, and does not reach it
  if everybody waits. -/
  waits {due : Nat} (rests : pool.task? .checker = some ⟨.checker, .resting, some due⟩) :
    (prompt → timetable.world.now ≤ due) ∧
      (timetable.world.isQuiet = true → timetable.world.now < due)
  /-- Its next turn after that begins the sweep. -/
  begins (running : pool.isShutdown = false) {due : Nat}
    (rests : pool.task? .checker = some ⟨.checker, .resting, some due⟩)
    (reached : due ≤ timetable.world.now) :
    ∃ more, (timetable.move index (.act (.resume (.inPool index .checker)))).log =
      more ++ (timetable.world.now, .began) :: timetable.log
  /-- In a sweep it waits for the answer to a probe. -/
  sweeps {time : Nat} {earlier : Log} (last : timetable.log = (time, .began) :: earlier) :
    ∃ sweep current pending due,
      pool.task? .checker = some ⟨.checker, .sweeping sweep current pending, some due⟩
  /-- Whoever shuts the pool down asks it to stop at once. -/
  asked_eq : pool.stopRequested = pool.isShutdown
  /-- This wakes a checker that rests. -/
  wakes (asked : pool.stopRequested = true) {due : Option Nat}
    (rests : pool.task? .checker = some ⟨.checker, .resting, due⟩) :
    timetable.world.isReady (.inPool index .checker) = true
  /-- It is not lost, however the run goes on. -/
  stops (asked : pool.stopRequested = true) (later : List Move) :
    ∃ after, Stops index timetable pool later after
  /-- A shutdown that waits for the checker while everybody waits is waiting for the answer to a
  probe. -/
  joins (quiet : timetable.world.isQuiet = true) {task : Task} (present : task ∈ pool.tasks)
    (joining : task.isJoining = true) :
    ∃ sweep current pending due,
      pool.task? .checker = some ⟨.checker, .sweeping sweep current pending, some due⟩ ∧
        timetable.world.now < due

/-- In every run, the checker of every pool keeps its schedule, and always stops. -/
theorem reliable_run (index : Nat) (moves : List Move)
    (found : (run index moves).world.pools[index]? = some pool) :
    Reliable index (∀ move ∈ moves, move.isPrompt = true) (run index moves) pool := by
  have kept := kept_run index moves
  have member := List.mem_of_getElem? found
  have sound := kept.possible.sound pool member
  obtain ⟨stopped, stages, agrees⟩ := kept.agrees pool found
  have stands := agrees.guarded.stands
  constructor
  case opens =>
    intro empty
    have tells := agrees.tells
    rw [empty] at tells
    cases tells with
    | filling => exact agrees.guarded.filling rfl rfl
  case onTime => exact agrees.onTime
  case rests =>
    intro running time mark earlier last rested
    obtain ⟨-, rfl⟩ := agrees.rests running last rested
    obtain ⟨task, waits, known⟩ := sound.task?_of_stages stands.stages_eq
    rw [waits, Task.eq_of_rest known]
  case waits =>
    intro due rests
    have present := List.mem_of_find?_eq_some rests
    constructor
    · exact fun calm => ((kept.punctual calm).timely pool member).2 _ present |>.now_le due rfl
    · intro quiet
      have early := (Bool.or_eq_false_iff.mp (isReady_of_isQuiet quiet member _ present)).2
      exact Nat.lt_of_not_le (of_decide_eq_false early)
  case begins =>
    intro running due rests reached
    obtain rfl := agrees.guarded.eq_singleton (List.mem_of_find?_eq_some rests) rfl
    obtain rfl := stands.shutdown_eq.symm.trans running
    exact kept.exists_log_began found agrees reached
  case sweeps =>
    intro time earlier last
    have tells := agrees.tells
    rw [last] at tells
    cases tells with
    | sweeps => exact kept.exists_sweep found stands.stages_eq
    | rests rested _ | gone rested => exact absurd rfl rested
  case asked_eq => rw [stands.stop_eq, stands.shutdown_eq]
  case wakes =>
    intro asked due rests
    rw [isReady_inPool found, rests]
    exact Bool.or_eq_true_iff.mpr (.inl asked)
  case stops =>
    intro asked later
    exact ((kept_new index False).follow False.elim).exists_stops found asked later
  case joins =>
    intro quiet task present joining
    exact kept.exists_sweep_of_isJoining found quiet present joining

/-- A pool of one connection, which its checker probes for `3` after every rest of `10`. It is shut
down in the middle of the second sweep. -/
def rounds : List Move :=
  let config : Config :=
    { Config.default with minConnections := 1, maxConnections := 1, validationInterval := 10 }
  let checker : Move := .act (.resume (.inPool 0 .checker))
  [.act (.instruct (.probeDelay 3)), .act (.call (.openPool config)),
    .act (.resume (.inPool 0 (.caller 0))), .act (.passTo 10), checker, .act (.passTo 13), checker,
    .act (.passTo 23), checker, .act (.call (.shutdown 0))]

/-- The shutdown waits for the answer to the probe of the second sweep, and the checker begins no
third one. -/
theorem reliable_run_rounds :
    let checker : Move := .act (.resume (.inPool 0 .checker))
    let later : List Move := [.act (.passTo 26), checker, .act (.resume (.inPool 0 (.caller 1)))]
    (run 0 rounds).log = [(23, .began), (13, .ended), (10, .began), (0, .opened)] ∧
      (run 0 rounds).world.isQuiet = true ∧
      ∃ pool, (run 0 rounds).world.pools[0]? = some pool ∧
        Reliable 0 (∀ move ∈ rounds, move.isPrompt = true) (run 0 rounds) pool ∧
        (∀ move ∈ rounds, move.isPrompt = true) ∧
        (∃ task ∈ pool.tasks, task.isJoining = true) ∧
        ∃ after, Stops 0 (run 0 rounds) pool later after ∧ after.hasChecker = false := by
  have found : (run 0 rounds).world.pools[0]? =
      some ((run 0 rounds).world.pools.head (by decide)) := by decide
  have reliable := reliable_run 0 rounds found
  have left : Stage.turnsLeft ((run 0 rounds).world.pools.head (by decide)).stages = 1 := by
    decide
  refine ⟨by decide, by decide, _, found, reliable, by decide, by decide, ?_⟩
  let later : List Move := [.act (.passTo 26), .act (.resume (.inPool 0 .checker)),
    .act (.resume (.inPool 0 (.caller 1)))]
  obtain ⟨after, stops⟩ := reliable.stops (by decide) later
  have taken : (run 0 rounds).world.turnsTaken 0 later = 1 := by decide
  have turns := stops.turns_le
  rw [left, taken] at turns
  exact ⟨after, stops, stops.ended_iff.mp (by omega)⟩

end Timetable

end World

end SessionPool

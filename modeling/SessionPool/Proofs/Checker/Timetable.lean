import SessionPool.Proofs.Checker.Rounds
import SessionPool.Proofs.Deadline.Timeouts
import SessionPool.Proofs.Order.OldestFirst
import SessionPool.Proofs.Shutdown.Teardown

/-!
# The timetable of the checker

Whoever keeps a timetable of a pool notes when it was opened, and when each sweep of its checker has
begun and ended. Every sweep begins when the rest before it is over, which is one interval after the
pool was opened or the last sweep was over; where nobody is slow, it begins just then.
-/

namespace SessionPool

open Pool (Stage)

/-! ### Logs -/

/-- What there is to note about the checker of a pool, with the times, the last first. -/
abbrev Log := List (Nat × Mark)

namespace Log

/-- Note something at `now`. -/
def note (now : Nat) (marks : List Mark) (log : Log) : Log := marks.map (now, ·) ++ log

/-- Every sweep has begun when the interval was over, after the pool was opened or the last sweep
had ended. If all of this was prompt, it has begun just then. -/
inductive OnTime (interval : Nat) (prompt : Prop) : Log → Prop where
  | nothing : OnTime interval prompt []
  | opened (time : Nat) : OnTime interval prompt [(time, .opened)]
  | began {time due start : Nat} {mark : Mark} {log : Log}
      (before : OnTime interval prompt ((time, mark) :: log)) (rested : mark ≠ .began)
      (comes : Instant.after? time interval = some due) (reached : due ≤ start)
      (punctual : prompt → start = due) :
      OnTime interval prompt ((start, .began) :: (time, mark) :: log)
  | ended {start time : Nat} {log : Log}
      (before : OnTime interval prompt ((start, .began) :: log)) (later : start ≤ time) :
      OnTime interval prompt ((time, .ended) :: (start, .began) :: log)

/-- What a log says of a pool: whether the checker has been asked to stop, and what it does. -/
inductive Tells (interval : Nat) : Log → Bool → List Stage → Prop where
  | filling : Tells interval [] false []
  | rests {time : Nat} {mark : Mark} {log : Log} {stopped : Bool} {due : Option Nat}
      (rested : mark ≠ .began) (comes : Instant.after? time interval = due) :
      Tells interval ((time, mark) :: log) stopped [.rest due]
  | sweeps {time left : Nat} {log : Log} {stopped : Bool} :
      Tells interval ((time, .began) :: log) stopped [.sweep left]
  | gone {time : Nat} {mark : Mark} {log : Log} (rested : mark ≠ .began) :
      Tells interval ((time, mark) :: log) true []

section Goes

variable {interval now : Nat} {own stopped later : Bool} {stages next : List Stage}
  {marks : List Mark} {log : Log}
  (tells : Tells interval log stopped stages)
  (goes : Stage.Goes interval now own stopped stages marks later next)

include tells goes

/-- A log goes on to tell what a checker does that goes its round. -/
theorem Tells.note : Tells interval (log.note now marks) later next := by
  cases goes with
  | stays asks missing =>
      cases tells with
      | filling =>
          obtain rfl := missing rfl
          exact .filling
      | rests rested comes => exact .rests rested comes
      | sweeps => exact .sweeps
      | gone rested =>
          obtain rfl := missing rfl
          exact .gone rested
  | opens =>
      cases tells
      exact .rests nofun rfl
  | stops =>
      cases tells with
      | rests rested comes => exact .gone rested
  | begins comes => exact .sweeps
  | passes comes => exact .rests nofun rfl
  | probes fewer =>
      cases tells
      exact .sweeps
  | ends =>
      cases stopped with
      | false => exact .rests nofun rfl
      | true => exact .gone nofun

/-- A checker that goes its round is on time. -/
theorem OnTime.note {prompt : Prop} (onTime : OnTime interval prompt log)
    (past : ∀ entry ∈ log, entry.1 ≤ now)
    (timely : prompt → ∀ due, stages = [.rest (some due)] → now ≤ due) :
    OnTime interval prompt (log.note now marks) := by
  have begun {due : Nat} (rests : stages = [.rest (some due)]) (reached : due ≤ now) :
      OnTime interval prompt ((now, .began) :: log) := by
    have punctual (calm : prompt) : now = due :=
      Nat.le_antisymm (timely calm due rests) reached
    subst rests
    cases tells with
    | rests rested comes => exact .began onTime rested comes reached punctual
  cases goes with
  | stays asks missing => exact onTime
  | opens =>
      cases tells
      exact .opened now
  | stops => exact onTime
  | begins reached => exact begun rfl reached
  | passes reached => exact .ended (begun rfl reached) (Nat.le_refl now)
  | probes fewer => exact onTime
  | ends =>
      cases tells with
      | sweeps => exact .ended onTime (past _ List.mem_cons_self)

end Goes

end Log

namespace World

open Pool (Task)

/-- What the checker of a pool does. -/
def stages (world : World) (index : Nat) : List Stage :=
  match world.pools[index]? with
  | some pool => pool.stages
  | none => []

theorem stages_eq {world : World} {index : Nat} {pool : Pool}
    (found : world.pools[index]? = some pool) : world.stages index = pool.stages := by
  rw [stages, found]

/-! ### Timetables -/

/-- A run up to now, with the log of a pool. -/
structure Timetable where
  world : World
  log : Log

namespace Timetable

/-- Nothing has happened. -/
def new : Timetable := ⟨World.new, []⟩

/-- One move more. -/
def move (index : Nat) (timetable : Timetable) (move : Move) : Timetable :=
  let world := timetable.world
  let after := world.move move
  let told := (move.event? world).bind (Event.mark? index)
  { world := after
    log := timetable.log.note world.now
      (Mark.noted (world.stages index) (after.stages index) told) }

/-- Several moves more. -/
def follow (index : Nat) (timetable : Timetable) (moves : List Move) : Timetable :=
  moves.foldl (Timetable.move index) timetable

/-- The timetable of a pool after a run from a new world. -/
def run (index : Nat) (moves : List Move) : Timetable := new.follow index moves

/-- A pool agrees with a log: the log says how it stands with its checker, and that this is on
time. -/
structure Agrees (pool : Pool) (log : Log) (prompt : Prop) (stopped : Bool)
    (stages : List Stage) : Prop where
  guarded : pool.Guarded pool.config stopped stages
  tells : log.Tells pool.config.validationInterval stopped stages
  onTime : log.OnTime pool.config.validationInterval prompt

/-- What is true of every timetable. If `prompt`, nobody has been slow. -/
structure Kept (index : Nat) (prompt : Prop) (timetable : Timetable) : Prop where
  possible : Possible timetable.world
  punctual (calm : prompt) : Prompt timetable.world
  past : ∀ entry ∈ timetable.log, entry.1 ≤ timetable.world.now
  missing (absent : timetable.world.pools[index]? = none) : timetable.log = []
  agrees (pool : Pool) (found : timetable.world.pools[index]? = some pool) :
    ∃ stopped stages, Agrees pool timetable.log prompt stopped stages

theorem kept_new (index : Nat) (prompt : Prop) : new.Kept index prompt where
  possible := .new
  punctual _ := .new
  past := nofun
  missing _ := rfl
  agrees _ found := by cases found

variable {timetable : Timetable} {index : Nat} {prompt : Prop} {pool : Pool}

/-- Whoever goes on with a log notes what the checker has done. -/
theorem log_move {stages next : List Stage} {told : Option Mark} {move : Move}
    (before : timetable.world.stages index = stages)
    (after : (timetable.world.move move).stages index = next)
    (event : (move.event? timetable.world).bind (Event.mark? index) = told) :
    (timetable.move index move).log =
      timetable.log.note timetable.world.now (Mark.noted stages next told) := by
  rw [Timetable.move, before, after, event]

namespace Kept

variable (kept : timetable.Kept index prompt)

include kept

/-- Where nobody is slow, the time does not go beyond the end of a rest. -/
theorem now_le (calm : prompt) (found : timetable.world.pools[index]? = some pool) {due : Nat}
    (rests : pool.stages = [.rest (some due)]) : timetable.world.now ≤ due := by
  have some : Stage.rest (some due) ∈ pool.tasks.filterMap Task.stage? := by
    rw [← Pool.stages, rests]
    exact List.mem_singleton_self _
  obtain ⟨task, present, does⟩ := List.mem_filterMap.mp some
  have timely := ((kept.punctual calm).timely pool (List.mem_of_getElem? found)).2 task present
  exact timely.now_le due (congrArg Task.due (Task.eq_of_rest does))

/-- What is noted about one step of the round agrees with the pool after it. -/
theorem agrees_move {move : Move} {after : Pool} {config : Config} {own stopped : Bool}
    {stages : List Stage} (before : timetable.world.stages index = stages)
    (tells : timetable.log.Tells config.validationInterval stopped stages)
    (onTime : timetable.log.OnTime config.validationInterval prompt)
    (timely : prompt → ∀ due, stages = [.rest (some due)] → timetable.world.now ≤ due)
    (left : (timetable.world.move move).pools[index]? = some after)
    (guides : Pool.Guides config timetable.world.now own stopped stages after
      ((move.event? timetable.world).bind (Event.mark? index))) :
    ∃ later next, Agrees after (timetable.move index move).log prompt later next := by
  obtain ⟨later, next, guarded, goes⟩ := guides
  have does : (timetable.world.move move).stages index = next :=
    (stages_eq left).trans guarded.stands.stages_eq
  obtain rfl := guarded.stands.config_eq
  rw [log_move before does rfl]
  exact ⟨later, next, guarded, tells.note goes, onTime.note tells goes kept.past timely⟩

/-- The timetable of a pool that is not there goes on. -/
theorem move_missing (absent : timetable.world.pools[index]? = none) (move : Move) :
    (((timetable.world.move move).pools[index]? = none) → (timetable.move index move).log = []) ∧
      ∀ after, (timetable.world.move move).pools[index]? = some after →
        ∃ later next, Agrees after (timetable.move index move).log prompt later next := by
  have empty := kept.missing absent
  have before : timetable.world.stages index = [] := by
    rw [World.stages, absent]
  rcases makes_move absent move with ⟨still, silent⟩ | ⟨config, made, found, guides⟩
  · have nobody : (timetable.world.move move).stages index = [] := by
      rw [World.stages, still]
    rw [log_move before nobody silent, empty, still]
    exact ⟨fun _ => rfl, nofun⟩
  · rw [found]
    refine ⟨nofun, ?_⟩
    rintro after ⟨⟩
    apply kept.agrees_move before _ _ (fun _ _ none => nomatch none) found guides
    · rw [empty]
      exact .filling
    · rw [empty]
      exact .nothing

/-- Every timetable goes on to be true. -/
theorem move {move : Move} (prompt_of : prompt → move.isPrompt = true) :
    (timetable.move index move).Kept index prompt := by
  have later := now_le_move timetable.world move
  constructor
  case possible => exact kept.possible.move move
  case punctual => exact fun calm => (kept.punctual calm).move (prompt_of calm)
  case past =>
    intro entry member
    rcases List.mem_append.mp member with new | old
    · obtain ⟨mark, -, rfl⟩ := List.mem_map.mp new
      exact later
    · exact Nat.le_trans (kept.past entry old) later
  case missing =>
    intro absent
    cases found : timetable.world.pools[index]? with
    | none => exact (kept.move_missing found move).1 absent
    | some pool =>
        obtain ⟨stopped, stages, agrees⟩ := kept.agrees pool found
        obtain ⟨after, left, -⟩ := guides_move kept.possible found agrees.guarded move
        cases absent.symm.trans left
  case agrees =>
    intro after left
    cases found : timetable.world.pools[index]? with
    | none => exact (kept.move_missing found move).2 after left
    | some pool =>
        obtain ⟨stopped, stages, agrees⟩ := kept.agrees pool found
        obtain ⟨same, leftToo, guides⟩ := guides_move kept.possible found agrees.guarded move
        obtain rfl := Option.some.inj (leftToo.symm.trans left)
        have does := agrees.guarded.stands.stages_eq
        apply kept.agrees_move ((stages_eq found).trans does) agrees.tells agrees.onTime _ left
          guides
        exact fun calm due rests => kept.now_le calm found (does.trans rests)

theorem follow {moves : List Move} (prompt_of : prompt → ∀ move ∈ moves, move.isPrompt = true) :
    (timetable.follow index moves).Kept index prompt := by
  induction moves generalizing timetable with
  | nil => exact kept
  | cons first later ih =>
      apply ih (kept.move fun calm => prompt_of calm first List.mem_cons_self)
      exact fun calm move member => prompt_of calm move (List.mem_cons_of_mem first member)

end Kept

/-- Every timetable is true. -/
theorem kept_run (index : Nat) (moves : List Move) :
    (run index moves).Kept index (∀ move ∈ moves, move.isPrompt = true) :=
  (kept_new index _).follow id

end Timetable

end World

end SessionPool

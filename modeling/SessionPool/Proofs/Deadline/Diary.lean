import SessionPool.Proofs.Deadline.Turns

/-!
# The diary of a caller

Whoever watches a caller that waits until a deadline notes when it asks the server for something, a
probe or a connect, and when it meets a dead connection. What it asks for after the deadline is
noted once for each dead connection that it meets after the deadline, and at the same time. So the
deadline is kept exactly if every probe that finds a connection dead is answered by then.
-/

namespace SessionPool.World

open Pool (Agent Task Balanced Sound Rule)

/-! ### What is noted -/

/-- Whether somebody works in a step, and it is this thread. -/
def Action.isTurn (world : World) (thread : Thread) : Action → Bool
  | .call request => world.accepts request && request.thread world == thread
  | .resume other => other == thread && world.isReady thread
  | _ => false

/-- Whether the server has been asked for something for the sake of a caller of a pool. -/
def isAsking (world : World) (index caller : Nat) : Bool :=
  match world.pools[index]? with
  | some pool => pool.isAsking caller
  | none => false

/-- Whether the connection that a caller of a pool is about to get is dead, while the pool lends. -/
def meetsDead (world : World) (index caller : Nat) : Bool :=
  match world.pools[index]? with
  | some pool => pool.meetsDead world.server caller
  | none => false

/-- What is known of a caller that is watched. -/
structure Diary where
  world : World
  /-- When it asked the server for something, the last time first. -/
  asked : List Nat
  /-- When it met a dead connection, the last time first. -/
  died : List Nat

namespace Diary

/-- Begin to watch. -/
def start (world : World) : Diary := ⟨world, [], []⟩

/-- Watch a caller of a pool for one step more. Only its own turns are noted. -/
def act (index caller : Nat) (diary : Diary) (action : Action) : Diary :=
  let world := diary.world
  let after := (world.step action).1
  let turn := action.isTurn world (.inPool index (.caller caller))
  { world := after
    asked :=
      if turn && after.isAsking index caller then world.now :: diary.asked else diary.asked
    died :=
      if turn && world.meetsDead index caller then world.now :: diary.died else diary.died }

/-- Watch a caller of a pool for a whole run. -/
def follow (index caller : Nat) (diary : Diary) (actions : List Action) : Diary :=
  actions.foldl (act index caller) diary

end Diary

/-- The times that lie after a deadline. -/
def late (deadline : Nat) (times : List Nat) : List Nat := times.filter (deadline < ·)

theorem late_eq_nil_iff {deadline : Nat} {times : List Nat} :
    late deadline times = [] ↔ ∀ time ∈ times, time ≤ deadline := by
  simp [late]

/-- What is noted counts as late only after the deadline. -/
theorem late_note (deadline now : Nat) (noted : Bool) (times : List Nat) :
    late deadline (if noted then now :: times else times) =
      if noted && deadline < now then now :: late deadline times else late deadline times := by
  cases noted with
  | false => rfl
  | true => simp [late, List.filter_cons]

/-! ### What stays true -/

/-- A call works under its own number. -/
theorem Request.caller_of_thread {world : World} {request : Request} {index caller : Nat}
    (same : request.thread world = .inPool index (.caller caller)) : caller = world.callers := by
  cases request <;> cases same <;> rfl

/-- What is true of a caller that waits until a deadline, and of its diary. -/
structure Diary.Punctual (index caller deadline : Nat) (diary : Diary) : Prop where
  reachable : Reachable diary.world
  called : caller < diary.world.callers
  patient : ∃ pool, diary.world.pools[index]? = some pool ∧
    pool.All pool.config (Task.Patient caller deadline)
  late_eq : late deadline diary.asked = late deadline diary.died

namespace Diary

variable {index caller deadline : Nat} {diary : Diary}

/-- Both lists grow alike after the deadline if the caller asks for something exactly when it meets
a dead connection. -/
theorem late_act (same : late deadline diary.asked = late deadline diary.died) {action : Action}
    (agrees : action.isTurn diary.world (.inPool index (.caller caller)) = true →
      deadline < diary.world.now →
      (diary.world.step action).1.isAsking index caller = diary.world.meetsDead index caller) :
    late deadline (diary.act index caller action).asked =
      late deadline (diary.act index caller action).died := by
  rw [act, late_note, late_note, same]
  by_cases turn : action.isTurn diary.world (.inPool index (.caller caller)) = true
  · by_cases passed : deadline < diary.world.now
    · rw [agrees turn passed]
    · simp [passed]
  · simp [turn]

/-- Past its deadline a caller asks for something exactly when it meets a dead connection. -/
theorem Punctual.agrees (punctual : diary.Punctual index caller deadline) {action : Action}
    (turn : action.isTurn diary.world (.inPool index (.caller caller)) = true)
    (passed : deadline < diary.world.now) :
    (diary.world.step action).1.isAsking index caller = diary.world.meetsDead index caller := by
  cases action with
  | call request =>
      have own := eq_of_beq (Bool.and_eq_true_iff.mp turn).2
      have called := punctual.called
      rw [Request.caller_of_thread own] at called
      exact absurd called (Nat.lt_irrefl _)
  | resume thread =>
      obtain ⟨own, ready⟩ := Bool.and_eq_true_iff.mp turn
      obtain rfl := eq_of_beq own
      obtain ⟨pool, found, patient⟩ := punctual.patient
      have member := List.mem_of_getElem? found
      obtain ⟨after, _, _⟩ := resume_turn (.caller caller) found
      have asking : (diary.world.step (.resume (.inPool index (.caller caller)))).1.isAsking index
          caller =
            ((diary.world.site pool).resume (.caller caller)).1.pool.isAsking caller := by
        rw [World.isAsking]
        simp only [step, after]
      rw [asking, meetsDead, found]
      rw [isReady, found] at ready
      obtain ⟨task, waits, goes⟩ := (Option.any_eq_true _ _).mp ready
      apply Site.resume_isAsking (punctual.reachable.possible.sound pool member)
      · exact (punctual.reachable.timely pool member).2
      · exact (punctual.reachable.possible.tests pool member).2
      · exact patient.2
      · exact passed
      · exact waits
      · exact goes
  | instruct command => cases turn
  | passTo instant => cases turn

/-- Whatever happens next, the diary stays as it should be. -/
theorem Punctual.act (punctual : diary.Punctual index caller deadline) (action : Action) :
    (diary.act index caller action).Punctual index caller deadline where
  reachable := punctual.reachable.step action
  called := by
    have later := (affects_move diary.world (.act action)).callers_le
    exact Nat.lt_of_lt_of_le punctual.called later
  patient := by
    obtain ⟨pool, found, patient⟩ := punctual.patient
    obtain ⟨after, foundAfter, happens⟩ := becomes_move found (.act action)
    have kept : after.All pool.config (Task.Patient caller deadline) := by
      apply happens.all patient
      · apply Task.patient_rule
        rintro _ ⟨⟩
      · intro patience
        apply Task.patient_rule
        rintro _ ⟨⟩ own
        exact absurd own (Nat.ne_of_gt punctual.called)
      · intro task present
        exact Task.patient_rule (patient.2 task present) _ _
    refine ⟨after, foundAfter, ?_⟩
    rw [kept.1]
    exact kept
  late_eq := late_act punctual.late_eq punctual.agrees

theorem Punctual.follow (punctual : diary.Punctual index caller deadline)
    (actions : List Action) :
    (diary.follow index caller actions).Punctual index caller deadline := by
  induction actions generalizing diary with
  | nil => exact punctual
  | cons action later ih => exact ih (punctual.act action)

end Diary

/-! ### Calls with a deadline -/

section Acquire

variable {world : World} {index timeout deadline : Nat}

/-- A caller that asks for a connection and has a deadline waits until then. -/
theorem punctual_acquire (reachable : Reachable world)
    (accepted : world.accepts (.acquire index timeout) = true)
    (comes : Instant.after? world.now timeout = some deadline) :
    ((Diary.start world).act index world.callers (.call (.acquire index timeout))).Punctual index
      world.callers deadline := by
  have asks : (Request.acquire index timeout).asks? world = some (index, .acquire timeout) := rfl
  obtain ⟨pool, found⟩ : ∃ pool, world.pools[index]? = some pool := by
    have opened : world.isOpen index = true := accepted
    rw [isOpen] at opened
    split at opened
    case h_1 pool found => exact ⟨pool, found⟩
    case h_2 => contradiction
  constructor
  · exact reachable.step _
  · obtain ⟨acting, _, callers, _, _, does⟩ := call_eq_work accepted asks
    change world.callers < (world.call (.acquire index timeout)).1.callers
    rw [does, report, callers_callPool, callers]
    exact Nat.lt_succ_self _
  · obtain ⟨after, _, _⟩ := call_turn accepted asks found
    have sound := reachable.possible.sound pool (List.mem_of_getElem? found)
    have nobody : pool.All pool.config (Task.Patient world.callers deadline) := by
      refine ⟨rfl, ?_⟩
      intro task present checkout inside own
      exact absurd own (Nat.ne_of_lt (sound.called present inside))
    have patience : Pool.Patience.ofTimeout world.now timeout = .upTo deadline := by
      rw [Pool.Patience.ofTimeout, comes]
    have kept : (world.turn pool (.acquire timeout)).1.pool.All pool.config
        (Task.Patient world.callers deadline) := by
      have here : (world.site pool).pool.All pool.config
        (Task.Patient world.callers deadline) := nobody
      apply Site.checkout_all _ here
      apply Task.patient_rule
      rintro _ ⟨⟩ _
      exact patience
    refine ⟨_, after, ?_⟩
    rw [kept.1]
    exact kept
  · apply Diary.late_act rfl
    intro _ passed
    have start := (Instant.after?_eq_some_iff.mp comes).2
    change deadline < world.now at passed
    omega

/-- What a caller that waits until a deadline asks the server for after it, a probe or a connect, it
asks for at the very times at which it meets a dead connection, once for each. So it asks for
nothing after the deadline exactly if it meets no dead connection after it. -/
theorem late_asked_eq_late_died (reachable : Reachable world)
    (accepted : world.accepts (.acquire index timeout) = true)
    (comes : Instant.after? world.now timeout = some deadline) (later : List Action) :
    let diary := (Diary.start world).follow index world.callers
      (.call (.acquire index timeout) :: later)
    late deadline diary.asked = late deadline diary.died ∧
      ((∀ time ∈ diary.asked, time ≤ deadline) ↔ ∀ time ∈ diary.died, time ≤ deadline) := by
  have punctual := (punctual_acquire reachable accepted comes).follow later
  constructor
  · exact punctual.late_eq
  · rw [← late_eq_nil_iff, ← late_eq_nil_iff]
    exact iff_of_eq (congrArg (· = []) punctual.late_eq)

/-- A pool with two idle connections, the sessions of which have been severed, and a server that
takes its time over probes. -/
def stale : World :=
  let config : Config := { Config.default with minConnections := 0, maxConnections := 2 }
  (Trace.follow ⟨new, []⟩ [.call (.openPool config), .call (.get 0), .call (.get 0),
    .resume (.inPool 0 (.caller 1)), .resume (.inPool 0 (.caller 2)),
    .call (.release ⟨0, 1⟩), .call (.release ⟨0, 2⟩),
    .instruct .killAll, .instruct (.probeDelay 10)]).world

/-- Time passes to each answer for which the caller waits, and the caller goes on. -/
def tardy : List Action :=
  [.passTo 10, .resume (.inPool 0 (.caller 5)), .passTo 20, .resume (.inPool 0 (.caller 5))]

/-- A caller that waits until `5` probes the second connection at `10`, when it learns that the
first is dead, and makes a new one at `20`, when it learns that the second is dead, too. -/
theorem late_asked_stale :
    let diary := (Diary.start stale).follow 0 5 (.call (.acquire 0 5) :: tardy)
    diary.asked = [20, 10, 0] ∧ late 5 diary.asked = [20, 10] ∧ late 5 diary.died = [20, 10] ∧
      ¬ ∀ time ∈ diary.died, time ≤ 5 := by
  have reachable : Reachable stale := Reachable.follow .new _
  have accepted : stale.accepts (.acquire 0 5) = true := by decide
  have comes : Instant.after? stale.now 5 = some 5 := by decide
  obtain ⟨same, bounded⟩ := late_asked_eq_late_died reachable accepted comes tardy
  have asked : ((Diary.start stale).follow 0 5 (.call (.acquire 0 5) :: tardy)).asked =
      [20, 10, 0] := by decide
  have callers : stale.callers = 5 := by decide
  rw [callers, asked] at same bounded
  refine ⟨asked, ?_, ?_, ?_⟩
  · rw [asked]
    decide
  · rw [← same]
    decide
  · rw [← bounded]
    decide

end Acquire

end SessionPool.World

import Mathlib.Data.List.Induction
import SessionPool.Proofs.Duty.Run
import SessionPool.Proofs.Waits

/-!
# Whoever waits for the server waits on

A caller that sleeps may be told to look again by anybody. Every other agent that waits is left
alone: no turn of anybody else, and nothing that happens in between, takes its task out of the pool
or changes it.
-/

namespace SessionPool

namespace Pool

variable {pool : Pool} {task : Task} (present : task ∈ pool.tasks)

include present

theorem mem_park (other : Task) : task ∈ (pool.park other).tasks :=
  List.mem_append_left _ present

theorem mem_unpark {agent : Agent} (different : task.agent ≠ agent) :
    task ∈ (pool.unpark agent).tasks := by
  apply (List.mem_eraseP_of_neg _).mpr present
  simpa using different

/-- The agents may change places. -/
theorem mem_reorder (tasks : List Task) : task ∈ (pool.reorder tasks).tasks := by
  rw [reorder]
  split
  case isTrue same => exact (List.isPerm_iff.mp same).mem_iff.mpr present
  case isFalse => exact present

theorem mem_putSession (ticket : Nat) (session : Session) :
    task ∈ (pool.putSession ticket session).tasks := by
  rw [putSession]
  split <;> exact present

variable (awake : task.isWaiting = false)

include awake

omit present in
theorem notify_eq_self : task.notify = task := by
  obtain ⟨agent, phase, due⟩ := task
  cases phase with
  | waiting checkout notified => cases awake
  | _ => rfl

theorem mem_notifyAll : task ∈ pool.notifyAll.tasks := by
  have told := List.mem_map_of_mem (f := Task.notify) present
  rwa [notify_eq_self awake] at told

theorem mem_notifyOne : task ∈ pool.notifyOne.tasks := by
  have asleep : task.isAsleep = false := by
    apply Bool.eq_false_iff.mpr
    intro asleep
    rw [Task.isWaiting_of_isAsleep asleep] at awake
    cases awake
  change task ∈ notifyFirst pool.tasks
  generalize pool.tasks = tasks at present
  induction tasks with
  | nil => cases present
  | cons head rest ih =>
      rw [notifyFirst]
      rcases List.mem_cons.mp present with rfl | later
      · rw [asleep, if_neg Bool.false_ne_true]
        exact List.mem_cons_self
      · split
        · exact List.mem_cons_of_mem _ later
        · exact List.mem_cons_of_mem _ (ih later)

theorem mem_notifyMany (count : Nat) : task ∈ (notifyMany count pool).tasks := by
  induction count generalizing pool with
  | zero => exact present
  | succ count ih => exact ih (mem_notifyOne present awake)

end Pool

/-- An agent that waits is found by its name, whether the pool is open yet or not. -/
theorem Pool.Sound.task?_eq {callers : Nat} {pool : Pool} (sound : Sound callers pool) {task : Task}
    (present : task ∈ pool.tasks) : pool.task? task.agent = some task := by
  rcases sound with filling | balanced
  · obtain ⟨_, _, _, _, _, alone, _⟩ := filling
    rw [alone] at present
    rw [List.mem_singleton.mp present, task?, alone]
    exact List.find?_cons_of_pos (beq_self_eq_true _)
  · exact balanced.task?_eq present

/-- An agent that cannot go on waits. -/
theorem Pool.Sound.resume_eq_self {callers : Nat} {site : Site} (sound : Sound callers site.pool)
    {task : Task} (present : task ∈ site.pool.tasks)
    (unready : site.pool.isReady site.now task = false) :
    site.resume task.agent = (site, none) := by
  apply Site.resume_eq_self
  intro other found ready
  rw [sound.task?_eq present] at found
  obtain rfl := Option.some.inj found
  rw [unready] at ready
  cases ready

namespace Site

open Pool (Agent Phase Task Checkout Patience Report Sweep Job)

variable {site : Site} {task : Task} (present : task ∈ site.pool.tasks)

include present

/-! ### Checkouts -/

theorem mem_seek (checkout : Checkout) : task ∈ (site.seek checkout).1.pool.tasks := by
  have waits (phase : Phase) (due : Option Nat) :
      task ∈ (site.wait (.caller checkout.caller) phase due).1.pool.tasks :=
    Pool.mem_park present _
  rw [seek]
  dsimp only
  split
  · exact present
  · split
    · split
      · exact waits _ _
      · exact present
    · split
      · exact waits _ _
      · split
        · exact present
        · split
          · exact present
          · exact waits _ _
        · exact waits _ _

theorem mem_checkout (caller : Nat) (patience : Patience) :
    task ∈ (site.checkout caller patience).1.pool.tasks := by
  rw [checkout]
  split
  · exact present
  · apply mem_seek
    exact present

theorem mem_borrowProbed (checkout : Checkout) (connection : Connection) :
    task ∈ (site.borrowProbed checkout connection).1.pool.tasks := by
  rw [borrowProbed]
  dsimp only
  split
  · exact present
  · split
    · exact present
    · apply mem_seek
      exact present

variable (awake : task.isWaiting = false)

section Awake

include awake

theorem mem_checkoutConnected (checkout : Checkout) (metadata : Metadata) (attempt : Attempt) :
    task ∈ (site.checkoutConnected checkout metadata attempt).1.pool.tasks := by
  rw [checkoutConnected, connected]
  rcases site.server.finishConnect attempt with ⟨server, error | session⟩
  · apply Pool.mem_notifyOne _ awake
    exact present
  · dsimp only
    split <;> exact present

/-! ### Leases -/

theorem mem_requeue (connection : Connection) (healthy : Bool) :
    task ∈ (site.requeue connection healthy).1.pool.tasks := by
  rw [requeue]
  dsimp only
  split
  · exact present
  · split
    · exact present
    · split
      all_goals
        apply Pool.mem_notifyOne _ awake
        exact present

theorem mem_takeBack (agent : Agent) (connection : Connection) :
    task ∈ (site.takeBack agent connection).1.pool.tasks := by
  rw [takeBack]
  dsimp only
  split
  · exact present
  · split
    · split
      · exact Pool.mem_park present _
      · exact mem_requeue present awake _ _
    · exact mem_requeue present awake _ _

theorem mem_returnProbed (connection : Connection) :
    task ∈ (site.returnProbed connection).1.pool.tasks := by
  rw [returnProbed]
  split <;> exact mem_requeue present awake _ _

theorem mem_detach (ticket : Nat) : task ∈ (site.detach ticket).1.pool.tasks := by
  rw [detach]
  split
  · exact present
  · dsimp only
    split
    · apply Pool.mem_notifyOne _ awake
      exact present
    · exact present

theorem mem_adopt (session : Session) : task ∈ (site.adopt session).1.pool.tasks := by
  rw [adopt]
  dsimp only
  split
  · exact present
  · split
    · exact present
    · apply Pool.mem_notifyOne _ awake
      exact present

end Awake

theorem mem_throughLease {α : Type} (ticket : Nat)
    (send : Server → Session → Server × Except SessionError α) (reply : α → Pool.Reply) :
    task ∈ (site.throughLease ticket send reply).1.pool.tasks := by
  rw [throughLease]
  split <;> exact present

/-! ### Sweeps -/

theorem mem_disposeAll (connections : List Connection) :
    task ∈ (site.disposeAll connections).pool.tasks := by
  rw [Pool.pool_disposeAll]
  exact present

theorem mem_afterSweep (agent : Agent) (report : Report) :
    task ∈ (site.afterSweep agent report).1.pool.tasks := by
  unfold afterSweep
  split
  · exact present
  · split
    · exact present
    · exact Pool.mem_park present _

include awake

theorem mem_commit (agent : Agent) (sweep : Sweep) :
    task ∈ (site.commit agent sweep).1.pool.tasks := by
  rw [commit]
  apply mem_afterSweep
  apply mem_disposeAll
  dsimp only
  split
  · apply mem_disposeAll
    exact present
  · apply Pool.mem_notifyMany _ awake
    exact present

theorem mem_examine (agent : Agent) (sweep : Sweep) (pending : List Connection) :
    task ∈ (site.examine agent sweep pending).1.pool.tasks := by
  induction pending generalizing sweep with
  | nil => exact mem_commit present awake agent sweep
  | cons connection pending ih =>
      rw [examine]
      split
      · exact ih _
      · exact Pool.mem_park present _

theorem mem_sweep (agent : Agent) : task ∈ (site.sweep agent).1.pool.tasks := by
  rw [sweep]
  dsimp only
  split
  · exact mem_afterSweep present agent .zero
  · apply mem_examine _ awake
    exact present

/-! ### Opening and closing -/

omit awake in
theorem mem_prewarm (agent : Agent) (made : Nat) :
    task ∈ (site.prewarm agent made).1.pool.tasks := by
  rw [prewarm]
  split <;> exact Pool.mem_park present _

omit awake in
theorem mem_prewarmConnected (agent : Agent) (made : Nat) (metadata : Metadata)
    (attempt : Attempt) :
    task ∈ (site.prewarmConnected agent made metadata attempt).1.pool.tasks := by
  rw [prewarmConnected, connected]
  rcases site.server.finishConnect attempt with ⟨server, error | session⟩
  · exact Pool.mem_park present _
  · apply mem_prewarm
    exact present

omit awake in
theorem mem_drain (thenDrop : Bool) : task ∈ (site.drain thenDrop).1.pool.tasks := by
  rw [drain]
  apply mem_disposeAll
  exact present

theorem mem_shutdown (agent : Agent) (thenDrop : Bool) :
    task ∈ (site.shutdown agent thenDrop).1.pool.tasks := by
  have told := Pool.mem_notifyAll present awake
  rw [shutdown]
  split
  · exact present
  · dsimp only
    split
    · exact Pool.mem_park told _
    · apply mem_drain
      exact told

/-! ### Turns of others -/

theorem mem_work (caller : Nat) (job : Job) : task ∈ (job.work caller site).1.pool.tasks := by
  have back (ticket : Nat) (connection : Connection) : task ∈
      ((site.withPool (·.endLease ticket)).takeBack (.caller caller) connection).1.pool.tasks := by
    apply mem_takeBack _ awake
    exact present
  cases job with
  | acquire timeout => exact mem_checkout present caller _
  | get => exact mem_checkout present caller _
  | tryGet => exact mem_checkout present caller _
  | adopt session => exact mem_adopt present awake session
  | sweep => exact mem_sweep present awake _
  | shutdown thenDrop => exact mem_shutdown present awake _ thenDrop
  | release ticket | invalidate ticket | discard ticket =>
      simp only [Job.work, release, invalidate, discard]
      split
      · exact present
      · exact back ticket _
  | detach ticket => exact mem_detach present awake ticket
  | execute ticket statement => exact mem_throughLease present ticket _ _
  | query ticket statement => exact mem_throughLease present ticket _ _

theorem mem_proceed (agent : Agent) (phase : Phase) :
    task ∈ (site.proceed agent phase).1.pool.tasks := by
  cases phase with
  | prewarming made metadata attempt => exact mem_prewarmConnected present _ _ _ _
  | connecting checkout metadata attempt => exact mem_checkoutConnected present awake _ _ _
  | borrowProbe checkout connection => exact mem_borrowProbed present _ _
  | waiting checkout notified => exact mem_seek present _
  | returnProbe connection => exact mem_returnProbed present awake _
  | sweeping sweep connection pending =>
      rw [proceed, sweepProbed]
      split <;> exact mem_examine present awake _ _ _
  | resting =>
      rw [proceed, wake]
      split
      · exact present
      · exact mem_sweep present awake _
  | joining thenDrop => exact mem_drain present thenDrop

theorem mem_resume {agent : Agent} (different : task.agent ≠ agent) :
    task ∈ (site.resume agent).1.pool.tasks := by
  rw [resume]
  split
  · split
    · exact mem_proceed (Pool.mem_unpark present different) awake agent _
    · exact present
  · exact present

end Site

namespace World

/-! ### Runs -/

/-- The world after some moves. -/
def after (world : World) (moves : List Move) : World := moves.foldl World.move world

theorem after_concat (world : World) (moves : List Move) (last : Move) :
    world.after (moves ++ [last]) = (world.after moves).move last := by
  rw [after, List.foldl_append]
  rfl

theorem Possible.after {world : World} (possible : Possible world) (moves : List Move) :
    Possible (world.after moves) := by
  induction moves generalizing world with
  | nil => exact possible
  | cons move later ih => exact ih (possible.move move)

/-- What is over in the course of a run. -/
def events : World → List Move → List Event
  | _, [] => []
  | world, move :: later => (move.event? world).toList ++ events (world.move move) later

theorem events_concat (world : World) (moves : List Move) (last : Move) :
    world.events (moves ++ [last]) =
      world.events moves ++ (last.event? (world.after moves)).toList := by
  induction moves generalizing world with
  | nil => simp [events, World.after]
  | cons move later ih =>
      rw [List.cons_append, events, ih, events, List.append_assoc]
      rfl

/-! ### Moves of others -/

variable {world : World} {index : Nat} {pool after : Pool} {move : Move} {event : Option Event}

/-- The settings of a pool never change. -/
theorem Happens.config_eq (happens : world.Happens index pool move after event) :
    after.config = pool.config := by
  have rule (checkout? : Option Pool.Checkout) :
      Pool.Rule (fun _ => True) pool.config world.now checkout? :=
    ⟨fun _ _ => trivial, fun _ _ _ _ => trivial⟩
  have all : pool.All pool.config fun _ => True := ⟨rfl, fun _ _ => trivial⟩
  exact (happens.all all (rule none) (fun _ => rule _) fun _ _ => rule _).1

/-- An agent that cannot go on waits, and nothing is over with its turn. -/
theorem resume_unready (possible : Possible world) (found : world.pools[index]? = some pool)
    {task : Pool.Task} (present : task ∈ pool.tasks)
    (unready : pool.isReady world.now task = false) :
    (world.resume (.inPool index task.agent)).1.pools[index]? = some pool ∧
      (world.resume (.inPool index task.agent)).2 = none := by
  have sound : Pool.Sound world.callers (world.site pool).pool :=
    possible.sound pool (List.mem_of_getElem? found)
  obtain ⟨foundAfter, _, ended⟩ := resume_turn task.agent found
  rw [sound.resume_eq_self present unready] at foundAfter ended
  exact ⟨foundAfter, ended⟩

/-- An agent of a pool is told something when it calls, or with a turn for which it has waited. -/
theorem waited_of_event (found : world.pools[index]? = some pool) {agent : Pool.Agent}
    {answer : Answer} (ends : move.event? world = some ⟨.inPool index agent, answer⟩) :
    agent = .caller world.callers ∨
      move = .act (.resume (.inPool index agent)) ∧ ∃ task ∈ pool.tasks, task.agent = agent := by
  obtain ⟨after, _, happens⟩ := becomes_move found move
  generalize move.event? world = event at happens ends
  have thread {actor : Pool.Agent} {turn : Turn}
      (same : ending index actor turn = some ⟨.inPool index agent, answer⟩) : actor = agent := by
    obtain ⟨_, _, event⟩ := Option.map_eq_some_iff.mp same
    exact (Thread.inPool.inj (congrArg Event.thread event)).2
  cases happens with
  | nothing elsewhere => exact absurd ends (elsewhere _ _)
  | puts ticket session closes elsewhere => exact absurd ends (elsewhere _ _)
  | calls accepted asks => exact .inl (thread ends).symm
  | resumes actor =>
      obtain rfl := thread ends
      refine .inr ⟨rfl, ?_⟩
      cases waits : pool.task? actor with
      | some task => exact ⟨task, List.mem_of_find?_eq_some waits, Pool.agent_of_task? waits⟩
      | none =>
          have absent : (world.site pool).pool.task? actor = none := waits
          rw [Site.resume, absent] at ends
          cases ends
  | reorders tasks => cases ends
  | stirs => cases ends

/-- Nothing is over for an agent that waits but by its own turn. -/
theorem resume_of_event (possible : Possible world) (found : world.pools[index]? = some pool)
    {task : Pool.Task} (present : task ∈ pool.tasks) {answer : Answer}
    (ends : move.event? world = some ⟨.inPool index task.agent, answer⟩) :
    move = .act (.resume (.inPool index task.agent)) := by
  have sound := possible.sound pool (List.mem_of_getElem? found)
  rcases waited_of_event found ends with calls | ⟨resumes, _⟩
  · exact absurd calls (sound.agent_ne_callers present)
  · exact resumes

/-- Nothing is over for a caller that has called before but by its own turn, for which it has
waited. -/
theorem resume_of_called (found : world.pools[index]? = some pool) {caller : Nat}
    (called : caller < world.callers) {answer : Answer}
    (ends : move.event? world = some ⟨.inPool index (.caller caller), answer⟩) :
    move = .act (.resume (.inPool index (.caller caller))) ∧
      ∃ task ∈ pool.tasks, task.agent = .caller caller := by
  rcases waited_of_event found ends with calls | waited
  · exact absurd (Pool.Agent.caller.inj calls) (Nat.ne_of_lt called)
  · exact waited

/-- Unless it is its own turn, a caller that has called before waits for what it has waited for. -/
theorem Happens.waited (happens : world.Happens index pool move after event)
    (possible : Possible world) (found : world.pools[index]? = some pool) {caller : Nat}
    (called : caller < world.callers)
    (other : move ≠ .act (.resume (.inPool index (.caller caller)))) {task : Pool.Task}
    (present : task ∈ after.tasks) (own : task.agent = .caller caller) :
    ∃ earlier ∈ pool.tasks, task = earlier ∨ task = earlier.notify := by
  have member := List.mem_of_getElem? found
  have sound : Pool.Sound world.callers (world.site pool).pool := possible.sound pool member
  have alone {turn : Turn} {agent : Pool.Agent} {ends : Pool.Answer → Prop}
      (leads : turn.Leads pool (fun task => task.agent = agent ∨ task.agent = .checker) ends)
      (apart : agent ≠ .caller caller) (present : task ∈ turn.1.pool.tasks) :
      ∃ earlier ∈ pool.tasks, task = earlier ∨ task = earlier.notify := by
    rcases leads.tasks task present with (same | checker) | old
    · exact absurd (same.symm.trans own) apart
    · rw [checker] at own
      cases own
    · exact old
  cases happens with
  | nothing elsewhere => exact ⟨task, present, .inl rfl⟩
  | @calls request job accepted asks =>
      have attends := Site.work_attends world.callers job sound.idle_le_total
      apply alone attends.agents _ present
      intro same
      exact Nat.ne_of_gt called (Pool.Agent.caller.inj same)
  | resumes agent =>
      have order : (world.site pool).pool.InOrder := possible.inOrder pool member
      obtain ⟨job?, probes, attends, _⟩ := order.exists_attends sound agent
      apply alone attends.agents _ present
      rintro rfl
      exact other rfl
  | puts ticket session closes elsewhere =>
      exact ((Pool.Precedes.refl pool).putSession _ _).old task present
  | reorders tasks => exact ((Pool.Precedes.refl pool).reorder tasks).old task present
  | stirs => exact (Pool.Precedes.refl pool).notifyOne.old task present

/-- Unless it is its own turn, an agent that does not sleep waits on. -/
theorem Happens.mem_tasks (happens : world.Happens index pool move after event) {task : Pool.Task}
    (present : task ∈ pool.tasks) (awake : task.isWaiting = false)
    (other : move ≠ .act (.resume (.inPool index task.agent))) : task ∈ after.tasks := by
  have here : task ∈ (world.site pool).pool.tasks := present
  cases happens with
  | nothing elsewhere => exact present
  | calls accepted asks => exact Site.mem_work here awake _ _
  | resumes agent =>
      apply Site.mem_resume here awake
      rintro rfl
      exact other rfl
  | puts ticket session closes elsewhere => exact Pool.mem_putSession present _ _
  | reorders tasks => exact Pool.mem_reorder present tasks
  | stirs => exact Pool.mem_notifyOne present awake

/-- A pool is never taken away, and keeps its settings. -/
theorem exists_pool_after (found : world.pools[index]? = some pool) (moves : List Move) :
    ∃ now, (world.after moves).pools[index]? = some now ∧ now.config = pool.config := by
  induction moves using List.reverseRecOn with
  | nil => exact ⟨pool, found, rfl⟩
  | append_singleton moves last ih =>
      obtain ⟨now, foundNow, config⟩ := ih
      obtain ⟨next, foundNext, happens⟩ := becomes_move foundNow last
      rw [after_concat]
      exact ⟨next, foundNext, happens.config_eq.trans config⟩

end World

end SessionPool

import SessionPool.Proofs.Deadline.Turns
import SessionPool.Proofs.Duty.Calls

/-!
# Everybody is on a job

Whoever goes on, and whenever, stays on the job that it is on. So the checker does nothing but
sweep, and the sweeps of a pool lose sight of no connection, whatever happens between one probe and
the next.
-/

namespace SessionPool

namespace Pool

variable {callers : Nat} {pool : Pool} {task : Task}

/-! ### What is known of tasks -/

/-- Every agent that waits is on a job. -/
theorem Task.exists_serves (task : Task) : ∃ job?, task.Serves job? := by
  obtain ⟨agent, phase, due⟩ := task
  have asks (checkout : Checkout) : ∃ job?, Job.checksOut job? = true ∧
      (checkout.patience = .never ↔ job? = some Job.tryGet) := by
    by_cases never : checkout.patience = .never
    · exact ⟨some .tryGet, rfl, iff_of_true never rfl⟩
    · exact ⟨some .get, rfl, iff_of_false never nofun⟩
  cases phase with
  | prewarming made metadata attempt => exact ⟨none, rfl⟩
  | connecting checkout _ _ | borrowProbe checkout _ | waiting checkout _ => exact asks checkout
  | returnProbe connection => exact ⟨_, .discard 0, 0, rfl, rfl⟩
  | sweeping sweep current pending => exact ⟨_, rfl⟩
  | resting => exact ⟨_, rfl⟩
  | joining thenDrop => exact ⟨_, rfl⟩

namespace Sound

variable (sound : Sound callers pool)

include sound

theorem idle_le_total : pool.idle.length ≤ pool.total := by
  have total := sound.accounted.total_eq
  omega

theorem agent_of_checkout (present : task ∈ pool.tasks) {checkout : Checkout}
    (inside : task.checkout? = some checkout) : task.agent = .caller checkout.caller := by
  rcases sound with filling | balanced
  · obtain ⟨_, _, _, _, _, alone, _⟩ := filling
    rw [alone] at present
    rw [List.mem_singleton.mp present] at inside
    contradiction
  · exact balanced.agent_of_checkout present inside

theorem agent_of_resting (present : task ∈ pool.tasks) (rests : task.phase = .resting) :
    task.agent = .checker := by
  rcases sound with filling | balanced
  · obtain ⟨_, _, _, _, _, alone, _⟩ := filling
    rw [alone] at present
    rw [List.mem_singleton.mp present] at rests
    contradiction
  · have proper := balanced.proper task present
    rw [Task.Proper, rests] at proper
    exact proper

/-- A pool that is open has been filled. -/
theorem balanced_of_isOpen (opened : pool.isOpen = true) : Balanced callers pool 0 := by
  rcases sound with filling | balanced
  · rw [filling.isOpen_eq] at opened
    contradiction
  · exact balanced

/-- A caller that arrives is new to the pool. -/
theorem agent_ne_callers (present : task ∈ pool.tasks) : task.agent ≠ .caller callers := by
  rcases sound with filling | balanced
  · obtain ⟨number, _, _, _, _, alone, called, _⟩ := filling
    rw [alone] at present
    rw [List.mem_singleton.mp present]
    intro same
    exact Nat.ne_of_lt called (Agent.caller.inj same)
  · intro same
    have once := balanced.count_agent_le_one (.caller callers)
    have some := List.count_pos_iff.mpr (List.mem_map_of_mem (f := (·.agent)) present)
    rw [same] at some
    rw [Agent.limit, if_neg (Nat.lt_irrefl _)] at once
    omega

/-- An agent that goes on has no other task. -/
theorem agent_ne {agent : Agent} (found : pool.task? agent = some task) :
    ∀ other ∈ (pool.unpark agent).tasks, other.agent ≠ agent := by
  rcases sound with filling | balanced
  · obtain ⟨_, _, _, _, _, _, _, alone, _⟩ := filling.unpark found
    simp [alone]
  · exact balanced.agent_ne found

end Sound

/-- Nobody begins to wait with a turn but the agent whose turn it is, or the checker. -/
theorem Attends.agents {turn : Turn} {before : Pool} {agent : Agent} {job? : Option Job}
    {probes : Probes} (attends : Attends turn before agent job? probes) :
    turn.Leads before (fun task => task.agent = agent ∨ task.agent = .checker) fun _ => True :=
  attends.mono (fun _ waits => waits.imp (·.agent_eq) (·.1)) fun _ _ => trivial

/-- Whoever waits in a pool after a turn there does the same as before, or what the turn has led
to. -/
theorem Attends.forall_tasks {turn : Turn} {before : Pool} {agent : Agent} {job? : Option Job}
    {probes : Probes} (attends : Attends turn before agent job? probes) {P : Task → Prop}
    (told : ∀ task, P task → P task.notify) (old : ∀ task ∈ before.tasks, P task)
    (continues : ∀ task, task.Continues agent job? probes before → P task)
    (rests : ∀ task, task.IsRest → P task) : ∀ task ∈ turn.1.pool.tasks, P task := by
  intro task present
  rcases attends.tasks task present with (goes | rest) | ⟨earlier, known, rfl | rfl⟩
  · exact continues task goes
  · exact rests task rest
  · exact old _ known
  · exact told earlier (old earlier known)

end Pool

namespace Site

open Pool (Agent Task Job Probes Attends Sound)

variable {site : Site} {callers : Nat}

/-- An agent that goes on, if it can, stays on its job. -/
theorem resume_attends (sound : Sound callers site.pool) {agent : Agent} {job? : Option Job}
    {probes : Probes} (serves : ∀ task, site.pool.task? agent = some task →
      task.Serves job? ∧ task.Probes probes) :
    Attends (site.resume agent) site.pool agent job?
      (site.pool.probesNext site.now site.server probes agent) := by
  apply resume_leads
  intro task found ready
  have present := List.mem_of_find?_eq_some found
  have next : site.pool.probesNext site.now site.server probes agent =
      task.probesNext site.server probes := by
    rw [Pool.probesNext, found]
    exact if_pos ready
  obtain rfl := Pool.agent_of_task? found
  rw [next]
  apply proceed_attends
  · exact (Pool.Precedes.refl site.pool).unpark task.agent
  · exact (serves task found).1
  · exact (serves task found).2
  · exact fun checkout inside => sound.agent_of_checkout present inside
  · exact sound.agent_of_resting present
  · exact sound.idle_le_total

/-- Whoever makes a pool fills it. -/
theorem prewarm_attends (caller made : Nat) :
    Attends (site.prewarm (.caller caller) made) site.pool (.caller caller) none ⟨0, 0⟩ := by
  apply prewarm_leads (.refl _)
  · exact fun _ _ _ _ => .inl ⟨rfl, rfl, trivial, nofun⟩
  · exact fun _ => .inr ⟨rfl, rfl⟩
  · exact ⟨rfl, trivial⟩

end Site

/-! ### Whoever waits is in order -/

/-- A sweep under way has lost sight of no connection, and the checker does nothing but sweep. -/
structure Pool.Task.InOrder (task : Pool.Task) : Prop where
  tallies : ∃ probes, task.Probes probes
  sweeps (own : task.agent = .checker) : task.Serves (some .sweep)

/-- Whoever waits in a pool is in order. -/
def Pool.InOrder (pool : Pool) : Prop := ∀ task ∈ pool.tasks, task.InOrder

namespace Pool

theorem Task.InOrder.notify {task : Task} (order : task.InOrder) : task.notify.InOrder where
  tallies := by
    obtain ⟨probes, known⟩ := order.tallies
    exact ⟨probes, Task.probes_notify.mpr known⟩
  sweeps own := Task.serves_notify.mpr (order.sweeps (task.agent_notify ▸ own))

/-- What leaves everybody where it was, at most told to look again, leaves the pool in order. -/
theorem InOrder.of_precedes {before after : Pool} (order : before.InOrder)
    (precedes : before.Precedes after) : after.InOrder := by
  intro task present
  obtain ⟨earlier, known, rfl | rfl⟩ := precedes.old task present
  · exact order _ known
  · exact (order earlier known).notify

theorem InOrder.of_attends {turn : Turn} {before : Pool} {agent : Agent} {job? : Option Job}
    {probes : Probes} (order : before.InOrder) (attends : Attends turn before agent job? probes)
    (sweeps : agent = .checker → job? = some .sweep) : turn.1.pool.InOrder := by
  apply attends.forall_tasks (P := Task.InOrder)
  · exact fun task => Task.InOrder.notify
  · exact order
  · intro task continues
    refine ⟨⟨probes, continues.probes⟩, ?_⟩
    intro own
    rw [← sweeps (continues.agent_eq.symm.trans own)]
    exact continues.serves
  · rintro ⟨agent, phase, due⟩ ⟨_, rfl⟩
    exact ⟨⟨⟨0, 0⟩, trivial⟩, fun _ => rfl⟩

/-- Whoever goes on is on some job, and the checker on a sweep. -/
theorem InOrder.exists_attends {site : Site} {callers : Nat} (order : site.pool.InOrder)
    (sound : Sound callers site.pool) (agent : Agent) :
    ∃ job? probes, Attends (site.resume agent) site.pool agent job? probes ∧
      (agent = .checker → job? = some .sweep) := by
  cases found : site.pool.task? agent with
  | none =>
      refine ⟨some .sweep, ⟨0, 0⟩, ?_, fun _ => rfl⟩
      rw [Site.resume, found]
      exact Site.none_leads (.refl _)
  | some task =>
      have known := order task (List.mem_of_find?_eq_some found)
      obtain ⟨probes, tallies⟩ := known.tallies
      obtain ⟨job?, serves, sweeps⟩ : ∃ job?, task.Serves job? ∧
          (agent = .checker → job? = some .sweep) := by
        by_cases own : agent = .checker
        · exact ⟨some .sweep, known.sweeps ((agent_of_task? found).trans own), fun _ => rfl⟩
        · obtain ⟨job?, serves⟩ := task.exists_serves
          exact ⟨job?, serves, fun same => absurd same own⟩
      refine ⟨job?, site.pool.probesNext site.now site.server probes agent, ?_, sweeps⟩
      apply Site.resume_attends sound
      intro other same
      rw [found] at same
      obtain rfl := Option.some.inj same
      exact ⟨serves, tallies⟩

end Pool

namespace World

open Pool (Precedes Sound)

/-- What is asked of a pool fits it. -/
theorem fits_of_asks {world : World} {index : Nat} {pool : Pool} {request : Request}
    {job : Pool.Job} (accepted : world.accepts request = true)
    (asks : request.asks? world = some (index, job)) (found : world.pools[index]? = some pool) :
    job.Fits pool := by
  cases request with
  | adopt place id =>
      obtain ⟨session, _, same⟩ := Option.map_eq_some_iff.mp asks
      obtain ⟨rfl, rfl⟩ := Prod.mk.inj same
      have opened : world.isOpen place = true := (Bool.and_eq_true_iff.mp accepted).1
      exact isOpen_of_accepted found opened
  | _ => exact fits_of_accepts accepted asks found

/-- Whatever affects the pools of a world leaves them in order. -/
theorem Affects.inOrder {world : World} {callers : Nat} {pools : List Pool}
    (affects : Affects world callers pools)
    (sound : ∀ pool ∈ world.pools, Sound world.callers pool)
    (order : ∀ pool ∈ world.pools, pool.InOrder) : ∀ pool ∈ pools, pool.InOrder := by
  have changed {index : Nat} {change : Pool → Pool}
      (keeps : ∀ pool ∈ world.pools, (change pool).InOrder) :
      ∀ pool ∈ world.pools.modify index change, pool.InOrder := by
    intro pool member
    rcases exists_of_mem_modify member with same | ⟨old, found, rfl⟩
    · exact order pool same
    · exact keeps old (List.mem_of_getElem? found)
  cases affects with
  | nothing later => exact order
  | opens config valid =>
      intro pool member
      rcases List.mem_append.mp member with before | last
      · exact order pool before
      · rw [List.mem_singleton.mp last]
        have empty : (Pool.new config world.now).InOrder :=
          fun task absent => absurd absent List.not_mem_nil
        exact empty.of_attends (Site.prewarm_attends _ 0) nofun
  | calls index job fits =>
      apply changed
      intro pool member
      have enough : (world.site pool).pool.idle.length ≤ (world.site pool).pool.total :=
        (sound pool member).idle_le_total
      exact (order pool member).of_attends (Site.work_attends world.callers job enough) nofun
  | resumes index agent =>
      apply changed
      intro pool member
      have soundHere : Sound world.callers (world.site pool).pool := sound pool member
      have orderHere : (world.site pool).pool.InOrder := order pool member
      obtain ⟨job?, probes, attends, sweeps⟩ := orderHere.exists_attends soundHere agent
      exact orderHere.of_attends attends sweeps
  | puts handle session =>
      apply changed
      exact fun pool member => (order pool member).of_precedes ((Precedes.refl pool).putSession _ _)
  | reorders index tasks =>
      apply changed
      exact fun pool member => (order pool member).of_precedes ((Precedes.refl pool).reorder tasks)
  | stirs index =>
      apply changed
      exact fun pool member => (order pool member).of_precedes (Precedes.refl pool).notifyOne

/-- Whoever waits in a pool of a possible world is in order. -/
theorem Possible.inOrder {world : World} (possible : Possible world) :
    ∀ pool ∈ world.pools, pool.InOrder := by
  induction possible with
  | new => simp [World.new]
  | move before move ih => exact (affects_move _ move).inOrder before.sound ih

end World

end SessionPool

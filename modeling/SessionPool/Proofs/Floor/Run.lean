import SessionPool.Proofs.Effects
import SessionPool.Proofs.Floor.Steady

/-!
# Every calm run is steady

In a calm move, somebody works in the pool that is watched, and the turn is tame, or the pool keeps
its size and nobody ends a sweep in it. So what the watch has noted adds up after every calm run
that begins when the pool has its floor and nobody sweeps.
-/

namespace SessionPool.World

open Pool (Agent Balanced Job)

/-! ### What is over -/

section Swept

variable {index place : Nat} {agent : Agent}

theorem swept?_errand (caller : Nat) (done : World × Option Answer) :
    swept? index (report (.errand caller) done).2 = none := by
  obtain ⟨after, answer⟩ := done
  cases answer <;> rfl

/-- What is over in one pool is no sweep of another. -/
theorem swept?_elsewhere (other : place ≠ index) (done : World × Option Answer) :
    swept? index (report (.inPool place agent) done).2 = none := by
  rcases done with ⟨after, _ | error | reply⟩
  · rfl
  · rfl
  · cases reply with
    | pool reply =>
        cases reply with
        | swept report => exact if_neg other
        | _ => rfl
    | _ => rfl

/-- A sweep that is over in a pool is one that an agent has ended there in its turn. -/
theorem swept?_callPool {world : World} {pool : Pool} (found : world.pools[index]? = some pool)
    (work : Site → Turn) :
    swept? index (report (.inPool index agent) (world.callPool index work)).2 =
      (Pool.evictions (work ⟨world.now, world.server, pool⟩).2).map (agent, ·) := by
  rw [report, answer_callPool found]
  rcases (work ⟨world.now, world.server, pool⟩).2 with _ | error | reply
  · rfl
  · rfl
  · cases reply with
    | swept report => exact if_pos rfl
    | _ => rfl

end Swept

namespace Watch.Steady

variable {index floor place : Nat} {pool : Pool} {watch : Watch} {agent : Agent}

/-! ### Moves elsewhere -/

/-- A move that leaves the pool as it is, and in which nobody ends a sweep in it. -/
theorem elsewhere {move : Move} (steady : Steady index floor pool watch)
    (found : (watch.world.move move).pools[index]? = some pool)
    (later : watch.world.callers ≤ (watch.world.move move).callers)
    (unswept : swept? index (move.event? watch.world) = none) :
    Steady index floor pool (watch.move index move) :=
  steady.rest found (steady.balanced.mono later) (.refl pool) unswept

/-- An errand, in the course of which nobody works in a pool. -/
theorem errand {action : Action} (steady : Steady index floor pool watch) {caller : Nat}
    {done : World × Option Answer}
    (does : watch.world.step action = report (.errand caller) done)
    (later : watch.world.callers ≤ done.1.callers)
    (pools : done.1.pools = watch.world.pools) :
    Steady index floor pool (watch.move index (.act action)) := by
  apply steady.elsewhere
  · rw [World.move, does, report, pools]
    exact steady.found
  · rw [World.move, does]
    exact later
  · rw [Move.event?, does]
    exact swept?_errand caller done

/-- A change of some pool that leaves its size as it is. -/
theorem modify {move : Move} (steady : Steady index floor pool watch) {change : Pool → Pool}
    (pools : (watch.world.move move).pools = watch.world.pools.modify place change)
    (later : watch.world.callers ≤ (watch.world.move move).callers)
    (balanced : Balanced (watch.world.move move).callers (change pool) 0)
    (rests : pool.Rests (change pool))
    (unswept : swept? index (move.event? watch.world) = none) :
    ∃ after, Steady index floor after (watch.move index move) := by
  by_cases here : place = index
  · refine ⟨_, steady.rest ?_ balanced rests unswept⟩
    rw [pools, here, List.getElem?_modify_eq, steady.found]
    rfl
  · refine ⟨pool, steady.elsewhere ?_ later unswept⟩
    rw [pools, List.getElem?_modify_ne _ _ here]
    exact steady.found

section Work

variable {action : Action} {acting : World} {work : Site → Turn}

/-- Work in another pool. -/
theorem workElsewhere (steady : Steady index floor pool watch) (other : place ≠ index)
    (does : watch.world.step action =
      report (.inPool place agent) (acting.callPool place work))
    (found : acting.pools[index]? = some pool) (later : watch.world.callers ≤ acting.callers) :
    Steady index floor pool (watch.move index (.act action)) := by
  apply steady.elsewhere
  · rw [World.move, does, report, pools_callPool, List.getElem?_modify_ne _ _ other]
    exact found
  · rw [World.move, does, report, callers_callPool]
    exact later
  · rw [Move.event?, does]
    exact swept?_elsewhere other _

/-! ### Work in the pool -/

/-- What an agent has seen of the pool when it began to work. -/
theorem started_eq {move : Move} (steady : Steady index floor pool watch)
    (thread : move.thread? watch.world = some (.inPool index agent)) :
    (watch.span index move agent).started =
      if pool.isSweeping agent then (watch.spans agent).started else pool.total := by
  have sweeping : watch.world.isSweeping index agent = pool.isSweeping agent := by
    rw [isSweeping, steady.found]
  rw [span, sweeping, steady.total_eq]
  cases pool.isSweeping agent with
  | true => rw [if_neg (fun both => Bool.noConfusion both.2), if_pos rfl]
  | false => rw [if_pos ⟨thread, rfl⟩, if_neg Bool.false_ne_true]

/-- Tame work in the pool. -/
theorem workHere (steady : Steady index floor pool watch)
    (calm : (Move.act action).Calm watch.world index)
    (thread : (Move.act action).thread? watch.world = some (.inPool index agent))
    (does : watch.world.step action =
      report (.inPool index agent) (acting.callPool index work))
    (found : acting.pools[index]? = some pool)
    (balanced : Balanced acting.callers (work ⟨acting.now, acting.server, pool⟩).1.pool 0)
    (tame : (work ⟨acting.now, acting.server, pool⟩).1.pool.isShutdown = false →
      (work ⟨acting.now, acting.server, pool⟩).IsTame agent
        (watch.span index (.act action) agent).started pool) :
    ∃ after, Steady index floor after (watch.move index (.act action)) := by
  have here : (watch.world.move (.act action)).pools[index]? =
      some (work ⟨acting.now, acting.server, pool⟩).1.pool := by
    rw [World.move, does]
    exact found_callPool found
  have running := calm.running _ here
  refine ⟨_, steady.turn here ?_ running thread ?_ (tame running)⟩
  · rw [World.move, does, report, callers_callPool]
    exact balanced
  · rw [Move.event?, does]
    exact swept?_callPool found work

end Work

/-! ### Calls -/

/-- A call that does a job in some pool. -/
theorem callJob (steady : Steady index floor pool watch) {request : Request}
    (calm : (Move.act (.call request)).Calm watch.world index) {acting : World} {job : Job}
    (thread : request.thread watch.world = .inPool place (.caller watch.world.callers))
    (does : watch.world.call request = report (.inPool place (.caller watch.world.callers))
      (acting.callPool place (job.work watch.world.callers)))
    (pools : acting.pools = watch.world.pools)
    (callers : acting.callers = watch.world.callers + 1)
    (keeps : place = index → job.keeps pool = true) :
    ∃ after, Steady index floor after (watch.move index (.act (.call request))) := by
  have found : acting.pools[index]? = some pool := by
    rw [pools]
    exact steady.found
  by_cases here : place = index
  · subst here
    let site : Site := ⟨acting.now, acting.server, pool⟩
    have balanced : Balanced watch.world.callers site.pool 0 := steady.balanced
    have begins : (Move.act (.call request)).thread? watch.world =
        some (.inPool place (.caller watch.world.callers)) := congrArg some thread
    refine steady.workHere calm begins does found ?_ fun running => ?_
    · rw [callers]
      exact balanced.work job
    · rw [steady.started_eq begins, balanced.isSweeping_callers, if_neg Bool.false_ne_true]
      exact Site.work_isTame balanced running (keeps rfl) steady.running
        (calm.sound pool steady.found)
  · refine ⟨pool, steady.workElsewhere here does found ?_⟩
    rw [callers]
    exact Nat.le_succ _

/-- A calm call leaves what is lent with the pool. -/
theorem keeps (steady : Steady index floor pool watch) {request : Request}
    (calm : (Move.act (.call request)).Calm watch.world index)
    (accepted : watch.world.accepts request = true) {job : Job}
    (asks : request.job? = some (place, job)) (here : place = index) :
    job.keeps pool = true := by
  have ended {handle : Handle} (same : handle.pool = index)
      (free : watch.world.isFree (.lease handle) = true)
      (keeps : (handle.pool != index || !watch.world.isFree (.lease handle) ||
        (watch.world.lease? handle).isNone) = true) :
      (pool.lease? handle.ticket).isNone = true := by
    rw [free, lease?, same, steady.found] at keeps
    simpa using keeps
  cases request <;> cases asks <;> try rfl
  case invalidate.refl handle => exact ended here accepted calm.keeps
  case detach.refl handle => exact ended here accepted calm.keeps

/-- A pool that is made is another one. -/
theorem openPool (steady : Steady index floor pool watch) (config : Config) :
    Steady index floor pool (watch.move index (.act (.call (.openPool config)))) := by
  have inside : index < watch.world.pools.length := (List.getElem?_eq_some_iff.mp steady.found).1
  let numbered : World := { watch.world with callers := watch.world.callers + 1 }
  have does : watch.world.step (.call (.openPool config)) =
      report (.inPool watch.world.pools.length (.caller watch.world.callers))
        (numbered.openPool config watch.world.callers) := rfl
  cases consistent : config.problem? with
  | some problem =>
      have refused : numbered.openPool config watch.world.callers =
          (numbered, some (.error (.pool (.config problem)))) := by
        rw [World.openPool, consistent]
      rw [refused] at does
      apply steady.elsewhere
      · rw [World.move, does]
        exact steady.found
      · rw [World.move, does]
        exact Nat.le_succ _
      · rw [Move.event?, does]
        rfl
  | none =>
      let opened : World :=
        { numbered with pools := numbered.pools ++ [Pool.new config numbered.now] }
      have filled : numbered.openPool config watch.world.callers =
          opened.callPool watch.world.pools.length (·.prewarm (.caller watch.world.callers) 0) := by
        rw [World.openPool, consistent]
      rw [filled] at does
      apply steady.workElsewhere (Nat.ne_of_gt inside) does _ (Nat.le_succ _)
      exact (List.getElem?_append_left inside).trans steady.found

/-- A session that is given to a pool adds to it, or not. -/
theorem adopt (steady : Steady index floor pool watch) {id : Nat}
    (calm : (Move.act (.call (.adopt place id))).Calm watch.world index)
    (accepted : watch.world.accepts (.adopt place id) = true) :
    ∃ after, Steady index floor after (watch.move index (.act (.call (.adopt place id)))) := by
  have free := (Bool.and_eq_true_iff.mp accepted).2
  cases held : watch.world.outside? id with
  | none => simp [isFree, session?, held] at free
  | some session =>
      let numbered : World := { watch.world with callers := watch.world.callers + 1 }
      let giving : World :=
        { numbered with outside := watch.world.outside.eraseP (·.id == id) }
      have heldNow : numbered.outside? id = some session := held
      have does : watch.world.call (.adopt place id) =
          report (.inPool place (.caller watch.world.callers))
            (giving.callPool place ((Job.adopt session).work watch.world.callers)) := by
        rw [call_eq_report accepted, begin, World.adopt, heldNow]
        rfl
      exact steady.callJob calm rfl does rfl rfl fun _ => rfl

theorem disconnect (steady : Steady index floor pool watch) {holder : Holder}
    (accepted : watch.world.accepts (.disconnect holder) = true) :
    ∃ after, Steady index floor after (watch.move index (.act (.call (.disconnect holder)))) := by
  let numbered : World := { watch.world with callers := watch.world.callers + 1 }
  have does : watch.world.step (.call (.disconnect holder)) =
      report (.errand watch.world.callers) (numbered.disconnect holder) :=
    call_eq_report accepted
  rw [World.disconnect, withSession] at does
  cases held : numbered.session? holder with
  | none =>
      rw [held] at does
      exact ⟨pool, steady.errand does (Nat.le_succ _) rfl⟩
  | some session =>
      rw [held] at does
      cases holder with
      | outside id => exact ⟨pool, steady.errand does (Nat.le_succ _) rfl⟩
      | lease handle =>
          let move : Move := .act (.call (.disconnect (.lease handle)))
          have pools : (watch.world.move move).pools = watch.world.pools.modify handle.pool
              (·.putSession handle.ticket session.closed) := by
            rw [World.move, does]
            rfl
          have later : watch.world.callers ≤ (watch.world.move move).callers := by
            rw [World.move, does]
            exact Nat.le_succ _
          have unswept : swept? index (move.event? watch.world) = none := by
            rw [Move.event?, does]
            rfl
          exact steady.modify pools later ((steady.balanced.mono later).putSession _ _)
            (pool.rests_putSession _ _) unswept

theorem call (steady : Steady index floor pool watch) {request : Request}
    (calm : (Move.act (.call request)).Calm watch.world index) :
    ∃ after, Steady index floor after (watch.move index (.act (.call request))) := by
  by_cases accepted : watch.world.accepts request = true
  · let numbered : World := { watch.world with callers := watch.world.callers + 1 }
    have does := call_eq_report accepted
    have used {holder : Holder} {use : Session → World × Option Answer} {caller : Nat}
        (does : watch.world.call request =
          report (.errand caller) (numbered.withSession holder use))
        (keeps : ∀ session, (use session).1.callers = watch.world.callers + 1 ∧
          (use session).1.pools = watch.world.pools) :
        Steady index floor pool (watch.move index (.act (.call request))) := by
      obtain ⟨callers, pools⟩ := numbered.pools_withSession keeps
      exact steady.errand does (Nat.le_trans (Nat.le_succ _) (Nat.le_of_eq callers.symm)) pools
    cases asks : request.job? with
    | some asked =>
        obtain ⟨place, job⟩ := asked
        have thread : request.thread watch.world = .inPool place (.caller watch.world.callers) := by
          cases request <;> cases asks <;> rfl
        rw [begin_of_job asks, thread] at does
        exact steady.callJob calm thread does rfl rfl (steady.keeps calm accepted asks)
    | none =>
        cases request with
        | openPool config => exact ⟨pool, steady.openPool config⟩
        | adopt place id => exact steady.adopt calm accepted
        | disconnect holder => exact steady.disconnect accepted
        | connect => exact ⟨pool, steady.errand does (Nat.le_succ _) rfl⟩
        | probe holder => exact ⟨pool, used does fun _ => ⟨rfl, rfl⟩⟩
        | executeDirectly holder statement => exact ⟨pool, used does fun _ => ⟨rfl, rfl⟩⟩
        | queryDirectly holder statement => exact ⟨pool, used does fun _ => ⟨rfl, rfl⟩⟩
        | _ => cases asks
  · have refused : watch.world.step (.call request) = (watch.world, none) := if_neg accepted
    have unmoved : watch.world.move (.act (.call request)) = watch.world :=
      congrArg Prod.fst refused
    refine ⟨pool, steady.elsewhere ?_ ?_ (congrArg (swept? index ·.2) refused)⟩
    · rw [unmoved]
      exact steady.found
    · exact Nat.le_of_eq (congrArg World.callers unmoved).symm

/-! ### Going on -/

/-- An agent that goes on with a sweep has counted well so far. -/
theorem counts (steady : Steady index floor pool watch) {task : Pool.Task}
    (found : pool.task? agent = some task) :
    task.Counts floor (watch.spans agent).started := by
  obtain rfl := Pool.agent_of_task? found
  cases sweeping : task.isSweeping with
  | true =>
      have member := List.mem_of_find?_eq_some found
      exact (steady.sweeps task (List.mem_filter.mpr ⟨member, sweeping⟩)).1
  | false =>
      obtain ⟨_, phase, due⟩ := task
      cases phase with
      | sweeping sweep connection pending => contradiction
      | _ => trivial

theorem resume (steady : Steady index floor pool watch) {thread : Thread}
    (calm : (Move.act (.resume thread)).Calm watch.world index) :
    ∃ after, Steady index floor after (watch.move index (.act (.resume thread))) := by
  cases thread with
  | errand caller =>
      obtain ⟨callers, pools⟩ := watch.world.pools_resumeErrand caller
      have does : watch.world.step (.resume (.errand caller)) =
          report (.errand caller) (watch.world.resumeErrand caller) := rfl
      exact ⟨pool, steady.errand does (Nat.le_of_eq callers.symm) pools⟩
  | inPool place agent =>
      have does : watch.world.step (.resume (.inPool place agent)) =
          report (.inPool place agent) (watch.world.callPool place (·.resume agent)) := rfl
      by_cases here : place = index
      · subst here
        let site : Site := ⟨watch.world.now, watch.world.server, pool⟩
        have balanced : Balanced watch.world.callers site.pool 0 := steady.balanced
        refine steady.workHere calm rfl does steady.found (balanced.resume agent) fun _ => ?_
        have succeeds : pool.succeeds watch.world.now watch.world.server agent = true := by
          have succeeds := calm.succeeds
          rw [Move.succeeds, steady.found] at succeeds
          simpa using succeeds
        rw [steady.started_eq rfl]
        apply Site.resume_isTame balanced steady.running succeeds
        intro task found
        rw [steady.floor_eq]
        exact steady.counts found
      · exact ⟨pool, steady.workElsewhere here does steady.found (Nat.le_refl _)⟩

/-! ### Moves -/

/-- Every calm move leaves the watch as it should be. -/
theorem move (steady : Steady index floor pool watch) {move : Move}
    (calm : move.Calm watch.world index) :
    ∃ after, Steady index floor after (watch.move index move) := by
  cases move with
  | act action =>
      cases action with
      | call request => exact steady.call calm
      | resume thread => exact steady.resume calm
      | instruct command => exact ⟨pool, steady.elsewhere steady.found (Nat.le_refl _) rfl⟩
      | passTo instant =>
          obtain ⟨callers, pools⟩ := watch.world.pools_passTo instant
          refine ⟨pool, steady.elsewhere ?_ (Nat.le_of_eq callers.symm) rfl⟩
          exact (congrArg (·[index]?) pools).trans steady.found
  | reorder place tasks =>
      exact steady.modify rfl (Nat.le_refl _) (steady.balanced.reorder tasks)
        (pool.rests_reorder tasks) rfl
  | stir place =>
      exact steady.modify rfl (Nat.le_refl _) steady.balanced.stir pool.rests_notifyOne rfl
  | elapse duration => exact ⟨pool, steady.elsewhere steady.found (Nat.le_refl _) rfl⟩

end Watch.Steady

end SessionPool.World

import SessionPool.Proofs.Moves

/-!
# What a move does to one pool

Most moves leave a given pool alone. In any other, a call is made on the pool, an agent of the pool
goes on, the agents change places, somebody is told for no reason, or the owner of a lease
disconnects the session past the pool. With each case goes what is over thereby, so that what is
true of every turn is true of every move.
-/

namespace SessionPool.World

open Pool (Agent Job)

/-! ### Turns as events -/

/-- What a thread has done, and what is over thereby. -/
def report (thread : Thread) (done : World × Option Answer) : World × Option Event :=
  (done.1, done.2.map (⟨thread, ·⟩))

theorem call_eq_report {world : World} {request : Request}
    (accepted : world.accepts request = true) : world.call request =
      report (request.thread world)
        (({ world with callers := world.callers + 1 } : World).begin world.callers request) := by
  rw [call, if_pos accepted]
  rfl

/-- A pool as its agents find it. -/
def site (world : World) (pool : Pool) : Site := ⟨world.now, world.server, pool⟩

/-- What is over with the turn of an agent of a pool. -/
def ending (index : Nat) (agent : Agent) (turn : Turn) : Option Event :=
  (turn.2.map ofPool).map (⟨.inPool index agent, ·⟩)

/-- An event that does not come from a pool. -/
def IsElsewhere (index : Nat) (event : Option Event) : Prop :=
  ∀ agent answer, event ≠ some ⟨.inPool index agent, answer⟩

section Elsewhere

variable {index place : Nat} {agent : Agent} {done : World × Option Answer}

theorem isElsewhere_none : IsElsewhere index none := by
  intro agent answer same
  cases same

theorem isElsewhere_report {thread : Thread} (other : ∀ agent, thread ≠ .inPool index agent) :
    IsElsewhere index (report thread done).2 := by
  intro agent answer same
  obtain ⟨_, _, event⟩ := Option.map_eq_some_iff.mp same
  exact other agent (congrArg Event.thread event)

theorem isElsewhere_errand {caller : Nat} : IsElsewhere index (report (.errand caller) done).2 :=
  isElsewhere_report fun _ => Thread.noConfusion

theorem isElsewhere_inPool (other : place ≠ index) :
    IsElsewhere index (report (.inPool place agent) done).2 := by
  apply isElsewhere_report
  intro agent same
  exact other (Thread.inPool.inj same).1

end Elsewhere

/-! ### Jobs -/

/-- What a call asks of which pool, unless it makes one or stays outside of all of them. A session
that is given to a pool is looked up among those outside. -/
def Request.asks? (world : World) : Request → Option (Nat × Job)
  | .adopt index id => (world.outside? id).map fun session => (index, .adopt session)
  | request => request.job?

/-- Work on a job is done in the pool of which it is asked, as its agents find it. -/
theorem call_eq_work {world : World} {request : Request} {index : Nat} {job : Job}
    (accepted : world.accepts request = true) (asks : request.asks? world = some (index, job)) :
    ∃ acting : World, acting.pools = world.pools ∧ acting.callers = world.callers + 1 ∧
      acting.now = world.now ∧ acting.server = world.server ∧
      world.call request = report (.inPool index (.caller world.callers))
        (acting.callPool index (job.work world.callers)) := by
  let numbered : World := { world with callers := world.callers + 1 }
  have does := call_eq_report accepted
  cases request with
  | adopt place id =>
      obtain ⟨session, held, same⟩ := Option.map_eq_some_iff.mp asks
      obtain ⟨rfl, rfl⟩ := Prod.mk.inj same
      have heldNow : numbered.outside? id = some session := held
      let without := world.outside.eraseP (·.id == id)
      refine ⟨{ numbered with outside := without }, rfl, rfl, rfl, rfl, ?_⟩
      rw [does, begin, World.adopt, heldNow]
      rfl
  | _ =>
      refine ⟨numbered, rfl, rfl, rfl, rfl, ?_⟩
      first
        | (cases asks; exact does)
        | cases asks

/-- The turn of an agent that works on a job. -/
def turn (world : World) (pool : Pool) (job : Job) : Turn :=
  job.work world.callers (world.site pool)

/-- A call on a pool makes its turn there. -/
theorem call_turn {world : World} {request : Request} {index : Nat} {job : Job} {pool : Pool}
    (accepted : world.accepts request = true) (asks : request.asks? world = some (index, job))
    (found : world.pools[index]? = some pool) :
    (world.call request).1.pools[index]? = some (world.turn pool job).1.pool ∧
      (world.call request).1.server = (world.turn pool job).1.server ∧
      (world.call request).2 = ending index (.caller world.callers) (world.turn pool job) := by
  obtain ⟨acting, pools, callers, now, server, does⟩ := call_eq_work accepted asks
  have found : acting.pools[index]? = some pool := by
    rw [pools]
    exact found
  have same : (⟨acting.now, acting.server, pool⟩ : Site) = world.site pool := by
    rw [now, server]
    rfl
  rw [does, turn, ← same]
  refine ⟨found_callPool found, ?_, ?_⟩
  · simp only [report, World.callPool, inPool, found, server_keepDetached]
  · rw [report, answer_callPool found]
    rfl

/-- An agent of a pool that goes on makes its turn there. -/
theorem resume_turn {world : World} {index : Nat} {pool : Pool} (agent : Agent)
    (found : world.pools[index]? = some pool) :
    (world.resume (.inPool index agent)).1.pools[index]? =
        some ((world.site pool).resume agent).1.pool ∧
      (world.resume (.inPool index agent)).1.server = ((world.site pool).resume agent).1.server ∧
      (world.resume (.inPool index agent)).2 =
        ending index agent ((world.site pool).resume agent) := by
  have does : world.resume (.inPool index agent) =
      report (.inPool index agent) (world.callPool index (·.resume agent)) := rfl
  rw [does]
  refine ⟨?_, ?_, ?_⟩
  · rw [report, found_callPool found]
    rfl
  · simp only [report, World.callPool, inPool, found, server_keepDetached]
    rfl
  · rw [report, answer_callPool found]
    rfl

/-- An agent of a pool can go on if what it waits for there has happened. -/
theorem isReady_inPool {world : World} {index : Nat} {pool : Pool}
    (found : world.pools[index]? = some pool) (agent : Agent) :
    world.isReady (.inPool index agent) = (pool.task? agent).any (pool.isReady world.now) := by
  simp only [isReady, found]

/-! ### The clock -/

section Clock

variable (world : World)

theorem now_callPool (index : Nat) (work : Site → Turn) :
    (world.callPool index work).1.now = world.now := by
  have kept (after : World) (answer : Option Pool.Answer) :
      (after.keepDetached answer).now = after.now := by
    unfold keepDetached
    split <;> rfl
  rw [World.callPool]
  apply (kept _ _).trans
  rw [inPool]
  split <;> rfl

theorem now_withSession {holder : Holder} {use : Session → World × Option Answer}
    (keeps : ∀ session, (use session).1.now = world.now) :
    (world.withSession holder use).1.now = world.now := by
  rw [withSession]
  split
  · exact keeps _
  · rfl

theorem now_begin (caller : Nat) (request : Request) :
    (world.begin caller request).1.now = world.now := by
  cases request with
  | openPool config =>
      rw [begin, World.openPool]
      split
      · rfl
      · exact now_callPool _ _ _
  | adopt index id =>
      rw [begin, World.adopt]
      split
      · rfl
      · exact now_callPool _ _ _
  | connect => rfl
  | probe holder => exact world.now_withSession fun _ => rfl
  | executeDirectly holder statement => exact world.now_withSession fun _ => rfl
  | queryDirectly holder statement => exact world.now_withSession fun _ => rfl
  | disconnect holder =>
      apply now_withSession
      intro session
      cases holder <;> rfl
  | _ => exact now_callPool _ _ _

/-- A call takes no time. -/
theorem now_call (request : Request) : (world.call request).1.now = world.now := by
  rw [call]
  split
  · exact now_begin _ _ request
  · rfl

/-- Neither does going on. -/
theorem now_resume (thread : Thread) : (world.resume thread).1.now = world.now := by
  cases thread with
  | inPool index agent => exact world.now_callPool index (·.resume agent)
  | errand caller =>
      have finished (before : World) (work : Errand.Work) :
          (before.finishErrand work).1.now = before.now := by
        unfold finishErrand
        split
        · split <;> rfl
        · rfl
      change (world.resumeErrand caller).1.now = world.now
      unfold resumeErrand
      split
      · split
        · exact finished _ _
        · rfl
      · rfl

end Clock

/-! ### What can happen to a pool -/

/-- What becomes of a pool with a move, and what is over thereby. -/
inductive Happens (world : World) (index : Nat) (pool : Pool) :
    Move → Pool → Option Event → Prop where
  | nothing {move : Move} {event : Option Event} (elsewhere : IsElsewhere index event) :
      Happens world index pool move pool event
  | calls {request : Request} {job : Job} (accepted : world.accepts request = true)
      (asks : request.asks? world = some (index, job)) :
      Happens world index pool (.act (.call request)) (world.turn pool job).1.pool
        (ending index (.caller world.callers) (world.turn pool job))
  | resumes (agent : Agent) :
      Happens world index pool (.act (.resume (.inPool index agent)))
        ((world.site pool).resume agent).1.pool
        (ending index agent ((world.site pool).resume agent))
  | puts {event : Option Event} (ticket : Nat) (session : Session)
      (closes : ∀ lease, pool.lease? ticket = some lease →
        session = lease.connection.session.closed)
      (elsewhere : IsElsewhere index event) :
      Happens world index pool (.act (.call (.disconnect (.lease ⟨index, ticket⟩))))
        (pool.putSession ticket session) event
  | reorders (tasks : List Pool.Task) :
      Happens world index pool (.reorder index tasks) (pool.reorder tasks) none
  | stirs : Happens world index pool (.stir index) pool.notifyOne none

section Happens

variable {world : World} {index : Nat} {pool : Pool}

/-- What a move makes of a pool. -/
def Becomes (world : World) (index : Nat) (pool : Pool) (move : Move) : Prop :=
  ∃ after, (world.move move).pools[index]? = some after ∧
    world.Happens index pool move after (move.event? world)

theorem becomes_same {move : Move} (pools : (world.move move).pools[index]? = some pool)
    (elsewhere : IsElsewhere index (move.event? world)) : world.Becomes index pool move :=
  ⟨pool, pools, .nothing elsewhere⟩

theorem becomes_callPool {action : Action} {place : Nat} {agent : Agent} {acting : World}
    {work : Site → Turn} (other : place ≠ index)
    (does : world.step action = report (.inPool place agent) (acting.callPool place work))
    (pools : acting.pools[index]? = some pool) : world.Becomes index pool (.act action) := by
  apply becomes_same
  · rw [World.move, does, report, pools_callPool, List.getElem?_modify_ne _ _ other]
    exact pools
  · rw [Move.event?, does]
    exact isElsewhere_inPool other

variable (found : world.pools[index]? = some pool)

include found

theorem becomes_errand {action : Action} {caller : Nat} {done : World × Option Answer}
    (does : world.step action = report (.errand caller) done)
    (pools : done.1.pools = world.pools) : world.Becomes index pool (.act action) := by
  apply becomes_same
  · rw [World.move, does, report, pools]
    exact found
  · rw [Move.event?, does]
    exact isElsewhere_errand

/-- A pool that is made is another one. -/
theorem becomes_openPool (config : Config) :
    world.Becomes index pool (.act (.call (.openPool config))) := by
  have inside : index < world.pools.length := (List.getElem?_eq_some_iff.mp found).1
  let numbered : World := { world with callers := world.callers + 1 }
  have does : world.step (.call (.openPool config)) =
      report (.inPool world.pools.length (.caller world.callers))
        (numbered.openPool config world.callers) := rfl
  cases consistent : config.problem? with
  | some problem =>
      have refused : numbered.openPool config world.callers =
          (numbered, some (.error (.pool (.config problem)))) := by
        rw [World.openPool, consistent]
      rw [refused] at does
      apply becomes_same
      · rw [World.move, does]
        exact found
      · rw [Move.event?, does]
        exact isElsewhere_inPool (Nat.ne_of_gt inside)
  | none =>
      let opened : World :=
        { numbered with pools := numbered.pools ++ [Pool.new config numbered.now] }
      have filled : numbered.openPool config world.callers =
          opened.callPool world.pools.length (·.prewarm (.caller world.callers) 0) := by
        rw [World.openPool, consistent]
      rw [filled] at does
      apply becomes_callPool (Nat.ne_of_gt inside) does
      exact (List.getElem?_append_left inside).trans found

theorem becomes_disconnect {holder : Holder}
    (accepted : world.accepts (.disconnect holder) = true) :
    world.Becomes index pool (.act (.call (.disconnect holder))) := by
  let numbered : World := { world with callers := world.callers + 1 }
  have does : world.step (.call (.disconnect holder)) =
      report (.errand world.callers) (numbered.disconnect holder) :=
    call_eq_report accepted
  rw [World.disconnect, withSession] at does
  cases held : numbered.session? holder with
  | none =>
      rw [held] at does
      exact becomes_errand found does rfl
  | some session =>
      rw [held] at does
      cases holder with
      | outside id => exact becomes_errand found does rfl
      | lease handle =>
          obtain ⟨place, ticket⟩ := handle
          have pools : (world.move (.act (.call (.disconnect (.lease ⟨place, ticket⟩))))).pools =
              world.pools.modify place (·.putSession ticket session.closed) := by
            rw [World.move, does]
            rfl
          have elsewhere : IsElsewhere index
              (Move.event? world (.act (.call (.disconnect (.lease ⟨place, ticket⟩))))) := by
            rw [Move.event?, does]
            exact isElsewhere_errand
          by_cases here : place = index
          · subst here
            refine ⟨_, ?_, .puts ticket session.closed ?_ elsewhere⟩
            · rw [pools, List.getElem?_modify_eq, found]
              rfl
            · intro lease good
              have same : numbered.session? (.lease ⟨place, ticket⟩) =
                  some lease.connection.session := by
                rw [session?, World.lease?, found]
                exact congrArg (Option.map _) good
              rw [held] at same
              rw [Option.some.inj same]
          · apply becomes_same _ elsewhere
            rw [pools, List.getElem?_modify_ne _ _ here]
            exact found

/-- A call that asks something of a pool is a turn there, and leaves every other pool alone. -/
theorem becomes_asks {request : Request} {place : Nat} {job : Job}
    (accepted : world.accepts request = true) (asks : request.asks? world = some (place, job)) :
    world.Becomes index pool (.act (.call request)) := by
  by_cases here : place = index
  · subst here
    obtain ⟨after, _, event⟩ := call_turn accepted asks found
    refine ⟨_, after, ?_⟩
    change world.Happens place pool _ _ (world.call request).2
    rw [event]
    exact .calls accepted asks
  · obtain ⟨acting, pools, _, _, _, does⟩ := call_eq_work accepted asks
    refine becomes_callPool here does ?_
    rw [pools]
    exact found

theorem becomes_call (request : Request) : world.Becomes index pool (.act (.call request)) := by
  by_cases accepted : world.accepts request = true
  · let numbered : World := { world with callers := world.callers + 1 }
    have does := call_eq_report accepted
    have used {holder : Holder} {use : Session → World × Option Answer} {caller : Nat}
        (does : world.call request = report (.errand caller) (numbered.withSession holder use))
        (keeps : ∀ session, (use session).1.callers = world.callers + 1 ∧
          (use session).1.pools = world.pools) : world.Becomes index pool (.act (.call request)) :=
      becomes_errand found does (numbered.pools_withSession keeps).2
    cases asks : request.asks? world with
    | some asked => exact becomes_asks found accepted asks
    | none =>
        cases request with
        | openPool config => exact becomes_openPool found config
        | disconnect holder => exact becomes_disconnect found accepted
        | connect => exact becomes_errand found does rfl
        | probe holder => exact used does fun _ => ⟨rfl, rfl⟩
        | executeDirectly holder statement => exact used does fun _ => ⟨rfl, rfl⟩
        | queryDirectly holder statement => exact used does fun _ => ⟨rfl, rfl⟩
        | adopt place id =>
            have absent : world.outside? id = none := Option.map_eq_none_iff.mp asks
            have free := (Bool.and_eq_true_iff.mp accepted).2
            simp [isFree, session?, absent] at free
        | _ => cases asks
  · have refused : world.step (.call request) = (world, none) := if_neg accepted
    apply becomes_same
    · rw [World.move, refused]
      exact found
    · rw [Move.event?, refused]
      exact isElsewhere_none

/-- One of these things happens to a pool with every move. -/
theorem becomes_move (move : Move) : world.Becomes index pool move := by
  cases move with
  | act action =>
      cases action with
      | call request => exact becomes_call found request
      | resume thread =>
          cases thread with
          | errand caller =>
              have does : world.step (.resume (.errand caller)) =
                  report (.errand caller) (world.resumeErrand caller) := rfl
              exact becomes_errand found does (world.pools_resumeErrand caller).2
          | inPool place agent =>
              by_cases here : place = index
              · subst here
                obtain ⟨after, _, event⟩ := resume_turn agent found
                refine ⟨_, after, ?_⟩
                change world.Happens place pool _ _ (world.resume (.inPool place agent)).2
                rw [event]
                exact .resumes agent
              · have does : world.step (.resume (.inPool place agent)) =
                    report (.inPool place agent) (world.callPool place (·.resume agent)) := rfl
                exact becomes_callPool here does found
      | instruct command => exact becomes_same found isElsewhere_none
      | passTo instant =>
          apply becomes_same _ isElsewhere_none
          change (world.passTo instant).pools[index]? = some pool
          rw [(world.pools_passTo instant).2]
          exact found
  | reorder place tasks =>
      by_cases here : place = index
      · subst here
        refine ⟨_, ?_, .reorders tasks⟩
        simp only [World.move, List.getElem?_modify_eq, found]
        rfl
      · apply becomes_same _ isElsewhere_none
        simp only [World.move, List.getElem?_modify_ne _ _ here, found]
  | stir place =>
      by_cases here : place = index
      · subst here
        refine ⟨_, ?_, .stirs⟩
        simp only [World.move, List.getElem?_modify_eq, found]
        rfl
      · apply becomes_same _ isElsewhere_none
        simp only [World.move, List.getElem?_modify_ne _ _ here, found]
  | elapse duration => exact becomes_same found isElsewhere_none

end Happens

end SessionPool.World

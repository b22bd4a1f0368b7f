import SessionPool.Proofs.Deadline.Timeouts
import SessionPool.Proofs.Standing
import SessionPool.Proofs.Twin.Checkout

/-!
# Worlds with a twin

In two worlds that differ in one pool only, which is in the one the twin of what it is in the other,
everybody can do the same, and does the same thereby.
-/

namespace SessionPool

/-- It does not matter what a value has been changed to before it is set. -/
theorem modify_set_eq {α : Type} (entries : List α) (place : Nat) (earlier change : α → α)
    (value : α) : (entries.modify place earlier).set place (change value) =
      (entries.set place value).modify place change := by
  apply List.ext_getElem?
  intro other
  by_cases here : place = other <;> simp [List.getElem?_set, here]

/-- A change does not reach what is added behind. -/
theorem modify_append {α : Type} (front back : List α) {place : Nat} (change : α → α)
    (inside : place < front.length) :
    (front ++ back).modify place change = front.modify place change ++ back := by
  induction front generalizing place with
  | nil => cases inside
  | cons first rest ih =>
      cases place with
      | zero => rfl
      | succ place => simp [ih (Nat.lt_of_succ_lt_succ inside)]

/-- Changes in different places do not disturb each other. -/
theorem modify_set_ne {α : Type} (entries : List α) {place other : Nat} (apart : other ≠ place)
    (change : α → α) (value : α) : (entries.modify place change).set other value =
      (entries.set other value).modify place change := by
  apply List.ext_getElem?
  intro third
  by_cases here : third = place
  · subst here
    rw [List.getElem?_set_ne apart, List.getElem?_modify_eq, List.getElem?_modify_eq,
      List.getElem?_set_ne apart]
  · rw [List.getElem?_modify_ne _ _ (Ne.symm here), List.getElem?_set, List.getElem?_set,
      List.length_modify, List.getElem?_modify_ne _ _ (Ne.symm here)]

/-- A change that does not show in a list is not seen there. -/
theorem all_modify_eq {α : Type} (P : α → Bool) {change : α → α} (entries : List α) (place : Nat)
    (unseen : ∀ entry, P (change entry) = P entry) :
    (entries.modify place change).all P = entries.all P := by
  induction entries generalizing place with
  | nil => cases place <;> rfl
  | cons first rest ih =>
      cases place with
      | zero => simp [unseen]
      | succ place => simp [ih]

theorem flatMap_zipIdx_modify {α β : Type} (view : α × Nat → List β) {change : α → α}
    (entries : List α) (place first : Nat)
    (unseen : ∀ entry number, view (change entry, number) = view (entry, number)) :
    ((entries.modify place change).zipIdx first).flatMap view =
      (entries.zipIdx first).flatMap view := by
  induction entries generalizing place first with
  | nil => cases place <;> rfl
  | cons head rest ih =>
      cases place with
      | zero => simp [unseen]
      | succ place => simp [ih]

namespace World

variable {world : World} {index : Nat} {pool : Pool}

/-- A pool is left as the turn of an agent leaves it. -/
theorem callPool_eq (found : world.pools[index]? = some pool) (work : Site → Turn) :
    world.callPool index work =
      (keepDetached
          { world with
            server := (work (world.site pool)).1.server
            pools := world.pools.set index (work (world.site pool)).1.pool }
          (work (world.site pool)).2,
        (work (world.site pool)).2.map ofPool) := by
  simp only [callPool, inPool, found]
  rfl

end World

namespace Twin

open Pool (Agent Phase Task Checkout Job)

open World (Request Answer Move Action Thread Event)

variable (twin : Twin) (index : Nat) (given : World)

/-- The twin of a world, where the pool with this number is the twin. -/
def world (given : World) : World := { given with pools := given.pools.modify index twin.pool }

/-- What has been done in the twin of a world, and has come to the same. -/
def done {α : Type} (done : World × α) : World × α := (twin.world index done.1, done.2)

/-! ### Twins without a difference -/

/-- Whoever is in the middle of somebody else's checkout, or of none, does the same in the twin. -/
theorem task_eq_self {given : Task}
    (other : ∀ checkout, given.checkout? = some checkout → checkout.caller ≠ twin.caller) :
    twin.task given = given := by
  obtain ⟨agent, phase, due⟩ := given
  cases phase with
  | connecting checkout metadata attempt =>
      rw [task, phase, checkout_eq_self twin (other checkout rfl)]
  | borrowProbe checkout connection =>
      rw [task, phase, checkout_eq_self twin (other checkout rfl)]
  | waiting checkout notified => rw [task, phase, checkout_eq_self twin (other checkout rfl)]
  | _ => rfl

/-- Where the caller is not in the middle of its checkout, twins differ only in what they have
counted. -/
theorem pool_eq_count {given : Pool} (others : ∀ task ∈ given.tasks, ∀ checkout,
    task.checkout? = some checkout → checkout.caller ≠ twin.caller) :
    twin.pool given = given.count twin.counters := by
  have same : given.tasks.map twin.task = given.tasks := by
    rw [List.map_congr_left fun task present => twin.task_eq_self (others task present)]
    exact List.map_id _
  rw [pool, same]
  rfl

theorem world_eq_count (others : ∀ pool, given.pools[index]? = some pool → ∀ task ∈ pool.tasks,
    ∀ checkout, task.checkout? = some checkout → checkout.caller ≠ twin.caller) :
    twin.world index given =
      { given with pools := given.pools.modify index (·.count twin.counters) } := by
  refine congrArg (World.mk given.now given.server · given.outside given.errands given.callers) ?_
  apply List.ext_getElem?
  intro place
  by_cases here : place = index
  · subst here
    rw [List.getElem?_modify_eq, List.getElem?_modify_eq]
    cases found : given.pools[place]? with
    | none => rfl
    | some pool => exact congrArg some (twin.pool_eq_count (others pool found))
  · rw [List.getElem?_modify_ne _ _ (Ne.symm here), List.getElem?_modify_ne _ _ (Ne.symm here)]

variable {twin index given} in
/-- If nothing has been counted either, twins are the same. -/
theorem world_eq_self (uncounted : twin.late = 0)
    (others : ∀ pool, given.pools[index]? = some pool → ∀ task ∈ pool.tasks,
      ∀ checkout, task.checkout? = some checkout → checkout.caller ≠ twin.caller) :
    twin.world index given = given := by
  obtain ⟨caller, deadline, late⟩ := twin
  obtain rfl : late = 0 := uncounted
  rw [world_eq_count _ _ _ others]
  exact congrArg (World.mk given.now given.server · given.outside given.errands given.callers)
    (List.modify_id index given.pools)

/-! ### What callers see -/

variable {index} in
theorem pools_elsewhere {place : Nat} (other : place ≠ index) :
    (twin.world index given).pools[place]? = given.pools[place]? :=
  List.getElem?_modify_ne _ _ other.symm

theorem pools_here : (twin.world index given).pools[index]? = given.pools[index]?.map twin.pool :=
  List.getElem?_modify_eq _ _ _

theorem length_pools : (twin.world index given).pools.length = given.pools.length :=
  List.length_modify _ _ _

theorem isOpen_world (place : Nat) :
    (twin.world index given).isOpen place = given.isOpen place := by
  by_cases here : place = index
  · subst here
    rw [World.isOpen, World.isOpen, pools_here]
    cases given.pools[place]? with
    | none => rfl
    | some pool => exact twin.isOpen_pool pool
  · rw [World.isOpen, World.isOpen, twin.pools_elsewhere given here]

theorem isDroppable_world (place : Nat) :
    (twin.world index given).isDroppable place = given.isDroppable place := by
  by_cases here : place = index
  · subst here
    rw [World.isDroppable, World.isDroppable, pools_here]
    cases given.pools[place]? with
    | none => rfl
    | some pool => exact twin.isDroppable_pool pool
  · rw [World.isDroppable, World.isDroppable, twin.pools_elsewhere given here]

theorem lease?_world (handle : Handle) :
    (twin.world index given).lease? handle = given.lease? handle := by
  by_cases here : handle.pool = index
  · rw [World.lease?, World.lease?, here, pools_here]
    cases given.pools[index]? <;> rfl
  · rw [World.lease?, World.lease?, twin.pools_elsewhere given here]

theorem session?_world (holder : Holder) :
    (twin.world index given).session? holder = given.session? holder := by
  cases holder with
  | lease handle => exact congrArg (Option.map _) (twin.lease?_world index given handle)
  | outside id => rfl

theorem isFree_world (holder : Holder) :
    (twin.world index given).isFree holder = given.isFree holder := by
  unfold World.isFree
  rw [session?_world]
  cases given.session? holder with
  | some session => rfl
  | none =>
      cases holder with
      | lease handle =>
          exact congrArg (fun size => decide (handle.pool < size)) (twin.length_pools index given)
      | outside id => rfl

theorem accepts_world (request : Request) :
    (twin.world index given).accepts request = given.accepts request := by
  cases request <;> simp only [World.accepts, isOpen_world, isDroppable_world, isFree_world]

theorem thread_world (request : Request) :
    request.thread (twin.world index given) = request.thread given := by
  cases request <;> simp only [Request.thread, length_pools] <;> rfl

/-! ### Work in a pool -/

theorem keepDetached_world (answer : Option Pool.Answer) :
    (twin.world index given).keepDetached answer =
      twin.world index (given.keepDetached answer) := by
  unfold World.keepDetached
  split <;> rfl

variable {index given}

theorem callPool_elsewhere {place : Nat} (other : place ≠ index) (work : Site → Turn) :
    (twin.world index given).callPool place work =
      twin.done index (given.callPool place work) := by
  have foundToo := twin.pools_elsewhere given other
  cases found : given.pools[place]? with
  | none =>
      rw [found] at foundToo
      rw [World.callPool_eq_self work found, World.callPool_eq_self work foundToo]
      rfl
  | some pool =>
      rw [found] at foundToo
      let turn := work (given.site pool)
      have left : { given with
            server := turn.1.server
            pools := (given.pools.modify index twin.pool).set place turn.1.pool } =
          twin.world index { given with
            server := turn.1.server, pools := given.pools.set place turn.1.pool } :=
        congrArg (World.mk given.now turn.1.server · given.outside given.errands given.callers)
          (modify_set_ne given.pools other twin.pool turn.1.pool)
      rw [World.callPool_eq found, World.callPool_eq foundToo, done, ← keepDetached_world]
      exact congrArg (fun left : World => (left.keepDetached turn.2, turn.2.map World.ofPool)) left

/-- Work in the pool, which leaves it as a twin of what it leaves here. In that twin more may have
been counted than in this one. -/
theorem callPool_here {pool : Pool} (found : given.pools[index]? = some pool)
    {work workToo : Site → Turn} {later : Twin} {answer : Option Pool.Answer}
    (same : workToo (twin.site (given.site pool)) =
      (later.site (work (given.site pool)).1, answer)) :
    (twin.world index given).callPool index workToo =
      ((later.world index { given with
          server := (work (given.site pool)).1.server
          pools := given.pools.set index (work (given.site pool)).1.pool }).keepDetached answer,
        answer.map World.ofPool) := by
  have foundToo : (twin.world index given).pools[index]? = some (twin.pool pool) := by
    rw [pools_here, found]
    rfl
  have left : { given with
        server := (work (given.site pool)).1.server
        pools := (given.pools.modify index twin.pool).set index
          (later.pool (work (given.site pool)).1.pool) } =
      later.world index { given with
        server := (work (given.site pool)).1.server
        pools := given.pools.set index (work (given.site pool)).1.pool } :=
    congrArg (World.mk given.now _ · given.outside given.errands given.callers)
      (modify_set_eq given.pools index twin.pool later.pool _)
  have turn : workToo ((twin.world index given).site (twin.pool pool)) = _ := same
  rw [World.callPool_eq foundToo, turn]
  exact congrArg (fun left : World => (left.keepDetached answer, answer.map World.ofPool)) left

/-- Work in the pool that comes to the same in the twin. -/
theorem callPool_same {pool : Pool} (found : given.pools[index]? = some pool)
    {work workToo : Site → Turn}
    (same : workToo (twin.site (given.site pool)) = twin.turn (work (given.site pool))) :
    (twin.world index given).callPool index workToo =
      twin.done index (given.callPool index work) := by
  rw [twin.callPool_here found same, World.callPool_eq found, done, keepDetached_world]

/-- Work in a pool that everybody would do in the same way in the twin. -/
theorem callPool_world (place : Nat) {work : Site → Turn}
    (same : ∀ site, work (twin.site site) = twin.turn (work site)) :
    (twin.world index given).callPool place work =
      twin.done index (given.callPool place work) := by
  by_cases here : place = index
  · subst here
    cases found : given.pools[place]? with
    | some pool => exact twin.callPool_same found (same _)
    | none =>
        have foundToo : (twin.world place given).pools[place]? = none := by
          rw [pools_here, found]
          rfl
        rw [World.callPool_eq_self work found, World.callPool_eq_self work foundToo]
        rfl
  · exact twin.callPool_elsewhere here work

/-! ### Calls -/

theorem openPool_world (inside : index < given.pools.length) (config : Config) (caller : Nat) :
    (twin.world index given).openPool config caller =
      twin.done index (given.openPool config caller) := by
  rw [World.openPool, World.openPool]
  split
  · rfl
  · have opened : { twin.world index given with pools :=
          (twin.world index given).pools ++ [.new config (twin.world index given).now] } =
        twin.world index { given with pools := given.pools ++ [.new config given.now] } :=
      congrArg (World.mk given.now given.server · given.outside given.errands given.callers)
        (modify_append given.pools [.new config given.now] twin.pool inside).symm
    rw [opened, length_pools]
    exact twin.callPool_elsewhere (Nat.ne_of_gt inside) _

/-- What happens to a pool that shows in its twin. -/
theorem modify_world (place : Nat) {change changeToo : Pool → Pool}
    (here : place = index → ∀ pool, changeToo (twin.pool pool) = twin.pool (change pool))
    (elsewhere : place ≠ index → changeToo = change) :
    { twin.world index given with
        pools := (twin.world index given).pools.modify place changeToo } =
      twin.world index { given with pools := given.pools.modify place change } := by
  refine congrArg (World.mk given.now given.server · given.outside given.errands given.callers) ?_
  change (given.pools.modify index twin.pool).modify place changeToo =
    (given.pools.modify place change).modify index twin.pool
  by_cases same : place = index
  · subst same
    rw [List.modify_modify_eq, List.modify_modify_eq]
    exact congrArg (given.pools.modify place) (funext (here rfl))
  · rw [elsewhere same]
    exact List.modify_modify_ne _ _ _ (Ne.symm same)

theorem putSession_world (holder : Holder) (session : Session) :
    (twin.world index given).putSession holder session =
      twin.world index (given.putSession holder session) := by
  cases holder with
  | outside id => rfl
  | lease handle =>
      exact twin.modify_world handle.pool
        (fun _ pool => twin.putSession_pool pool handle.ticket session) fun _ => rfl

theorem withSession_world {holder : Holder} {use useToo : Session → World × Option Answer}
    (same : ∀ session, useToo session = twin.done index (use session)) :
    (twin.world index given).withSession holder useToo =
      twin.done index (given.withSession holder use) := by
  rw [World.withSession, World.withSession, session?_world]
  split
  · exact same _
  · rfl

variable {caller : Nat} (other : caller ≠ twin.caller)

include other in
/-- Every other caller begins its work as in the twin. -/
theorem begin_world (inside : index < given.pools.length) (request : Request) :
    (twin.world index given).begin caller request =
      twin.done index (given.begin caller request) := by
  cases asks : request.job? with
  | some asked =>
      obtain ⟨place, job⟩ := asked
      rw [World.begin_of_job asks, World.begin_of_job asks]
      exact twin.callPool_world place fun site => work_site other job
  | none =>
      cases request with
      | openPool config => exact twin.openPool_world inside config caller
      | adopt place id =>
          rw [World.begin, World.begin, World.adopt, World.adopt]
          have same : (twin.world index given).outside? id = given.outside? id := rfl
          rw [same]
          split
          case h_1 => rfl
          case h_2 session held =>
            let without : World := { given with outside := given.outside.eraseP (·.id == id) }
            have gives : (twin.world index without).callPool place (·.adopt session) =
                twin.done index (without.callPool place (·.adopt session)) :=
              twin.callPool_world place fun site => twin.adopt_site site session
            exact gives
      | connect => rfl
      | probe holder => exact twin.withSession_world fun _ => rfl
      | executeDirectly holder statement => exact twin.withSession_world fun _ => rfl
      | queryDirectly holder statement => exact twin.withSession_world fun _ => rfl
      | disconnect holder =>
          apply withSession_world
          intro session
          let left : World := { given with server := given.server.disconnect session }
          have puts : (twin.world index left).putSession holder session.closed =
              twin.world index (left.putSession holder session.closed) :=
            twin.putSession_world holder session.closed
          exact congrArg (·, _) puts
      | _ => cases asks

/-- Every other caller makes the same call in the twin. -/
theorem call_world (inside : index < given.pools.length) (other : given.callers ≠ twin.caller)
    (request : Request) :
    (twin.world index given).call request = twin.done index (given.call request) := by
  by_cases accepted : given.accepts request = true
  · have acceptedToo : (twin.world index given).accepts request = true :=
      (twin.accepts_world index given request).trans accepted
    let numbered : World := { given with callers := given.callers + 1 }
    have insideToo : index < numbered.pools.length := inside
    have begun := twin.begin_world other insideToo request
    rw [World.call_eq_report accepted, World.call_eq_report acceptedToo, thread_world]
    exact congrArg (World.report _) begun
  · rw [World.call, World.call, accepts_world, if_neg accepted, if_neg accepted]
    rfl

/-! ### Going on -/

theorem finishErrand_world (work : Errand.Work) :
    (twin.world index given).finishErrand work = twin.done index (given.finishErrand work) := by
  cases work with
  | connecting attempt =>
      rcases finished : given.server.finishConnect attempt with ⟨server, error | session⟩
      all_goals
        have finishedToo : (twin.world index given).server.finishConnect attempt = _ := finished
        simp only [World.finishErrand, finished, finishedToo]
        rfl
  | probing session => rfl

theorem resumeErrand_world (caller : Nat) :
    (twin.world index given).resumeErrand caller =
      twin.done index (given.resumeErrand caller) := by
  have same : (twin.world index given).errand? caller = given.errand? caller := rfl
  rw [World.resumeErrand, World.resumeErrand, same]
  split
  case h_1 errand waits =>
    dsimp only
    change (if errand.due ≤ given.now then _ else _) = _
    split
    · let left : World := { given with errands := given.errands.eraseP (·.caller == caller) }
      have ended : (twin.world index left).finishErrand errand.work =
          twin.done index (left.finishErrand errand.work) := twin.finishErrand_world errand.work
      exact congrArg (fun done : World × Answer => (done.1, some done.2)) ended
    · rfl
  case h_2 => rfl

/-! ### Time -/

theorem isQuiet_world : (twin.world index given).isQuiet = given.isQuiet := by
  let still (pool : Pool) : Bool := pool.tasks.all fun task => !pool.isReady given.now task
  have same (given : Pool) : still (twin.pool given) = still given := by
    change List.all (given.tasks.map twin.task) _ = _
    rw [List.all_map]
    simp only [Function.comp_def, isReady_pool]
    rfl
  exact congrArg (· && given.errands.all fun errand => given.now < errand.due)
    (all_modify_eq still given.pools index same)

theorem timers_world : (twin.world index given).timers = given.timers := by
  let view (entry : Pool × Nat) : List (Nat × Thread) := entry.1.tasks.filterMap fun task =>
    task.due.map fun due => (due, .inPool entry.2 task.agent)
  have same (given : Pool) (number : Nat) : view (twin.pool given, number) = view (given, number) :=
    List.filterMap_map
  exact congrArg (· ++ given.errands.map fun errand => (errand.due, Thread.errand errand.caller))
    (flatMap_zipIdx_modify view given.pools index 0 same)

theorem passTo_world (instant : Nat) :
    (twin.world index given).passTo instant = twin.world index (given.passTo instant) := by
  have same : (twin.world index given).canPassTo instant = given.canPassTo instant := by
    rw [World.canPassTo, World.canPassTo, isQuiet_world, timers_world]
    rfl
  rw [World.passTo, World.passTo, same]
  split <;> rfl

/-! ### Moves -/

/-- A move, as it is in the twin. Where the agents of the pool change places, so do their twins. -/
def move (index : Nat) : Move → Move
  | .reorder place tasks => .reorder place (if place = index then tasks.map twin.task else tasks)
  | move => move

/-- The caller by which the twins differ. -/
def thread (index : Nat) : Thread := .inPool index (.caller twin.caller)

/-- How what has happened shows in the twin. It is the same and over in the same way, or the caller
has been told that nothing is free, and in the twin that its time has run out. -/
inductive Follows (index : Nat) (after : World) :
    Option Event → World → Option Event → Prop where
  | same {event : Option Event}
      (free : ∀ answer, event = some ⟨twin.thread index, World.ofPool answer⟩ →
        answer.isBusy = false) :
      Follows index after event (twin.world index after) event
  | busy (waited : Nat) :
      Follows index after (some ⟨twin.thread index, .ok (.pool .noneFree)⟩)
        (twin.later.world index after)
        (some ⟨twin.thread index, .error (.pool (.timedOut waited))⟩)

variable {twin} in
/-- What others have done shows as it is. -/
theorem Follows.of_done {doneHere doneToo : World × Option Event}
    (same : doneToo = twin.done index doneHere)
    (other : ∀ answer, doneHere.2 ≠ some ⟨twin.thread index, answer⟩) :
    twin.Follows index doneHere.1 doneHere.2 doneToo.1 doneToo.2 := by
  rw [same]
  exact .same fun answer ended => absurd ended (other _)

variable {twin} in
theorem Follows.of_eq {after afterToo : World} (same : afterToo = twin.world index after) :
    twin.Follows index after none afterToo none := by
  rw [same]
  exact .same nofun

/-- The turn of the caller shows in the twin. -/
theorem follows_own {pool : Pool} (found : given.pools[index]? = some pool)
    (work workToo : Site → Turn) (agrees : twin.Agrees True (work (given.site pool))
      (workToo (twin.site (given.site pool)))) :
    let here := World.report (twin.thread index) (given.callPool index work)
    let there := World.report (twin.thread index) ((twin.world index given).callPool index workToo)
    twin.Follows index here.1 here.2 there.1 there.2 := by
  dsimp only
  generalize does : work (given.site pool) = turn at agrees
  generalize doesToo : workToo (twin.site (given.site pool)) = turnToo at agrees
  cases agrees with
  | same hastens =>
      have same : workToo (twin.site (given.site pool)) = twin.turn (work (given.site pool)) := by
        rw [does, doesToo]
      rw [twin.callPool_same found same]
      apply Follows.same
      intro answer ended
      rw [World.report, World.answer_callPool found] at ended
      have ends : World.ending index (.caller twin.caller) (work (given.site pool)) = _ := ended
      rw [does] at ends
      exact (hastens trivial).answers answer (World.ending_eq_some_iff.mp ends).2.2
  | @busy site waited mine alone =>
      have same : workToo (twin.site (given.site pool)) =
          (twin.later.site (work (given.site pool)).1, some (.error (.timedOut waited))) := by
        rw [does, doesToo]
        rfl
      rw [twin.callPool_here found same, World.callPool_eq found, does]
      exact .busy waited

section Hasty

variable {pool : Pool} (possible : World.Possible given)
  (found : given.pools[index]? = some pool) (passed : twin.deadline ≤ given.now)
  (hasty : ∀ task ∈ pool.tasks, task.agent = .caller twin.caller → task.Hasty)

include possible found passed hasty

/-- Every agent of the pool goes on in the twin as it would here. -/
theorem resume_agrees_here (agent : Agent) : twin.Agrees (agent = .caller twin.caller)
    ((given.site pool).resume agent) ((twin.site (given.site pool)).resume agent) :=
  resume_agrees (possible.sound pool (List.mem_of_getElem? found)) passed hasty agent

/-- The turn of anybody else makes the twin of what it makes here. -/
theorem resume_world {thread : Thread} (other : thread ≠ twin.thread index) :
    (twin.world index given).step (.resume thread) =
      twin.done index (given.step (.resume thread)) := by
  cases thread with
  | errand caller =>
      exact congrArg (World.report (.errand caller)) (twin.resumeErrand_world caller)
  | inPool place agent =>
      have same : (twin.world index given).callPool place (·.resume agent) =
          twin.done index (given.callPool place (·.resume agent)) := by
        by_cases here : place = index
        · subst here
          apply twin.callPool_same found
          apply (twin.resume_agrees_here possible found passed hasty agent).eq_turn
          rintro rfl
          exact other rfl
        · exact twin.callPool_elsewhere here _
      exact congrArg (World.report (.inPool place agent)) same

/-- Every move shows in the twin. -/
theorem follows_move (called : twin.caller < given.callers) (move : Move) :
    twin.Follows index (given.move move) (move.event? given)
      ((twin.world index given).move (twin.move index move))
      ((twin.move index move).event? (twin.world index given)) := by
  have inside : index < given.pools.length := (List.getElem?_eq_some_iff.mp found).1
  have others {action : Action} (other : action ≠ .resume (twin.thread index))
      (same : (twin.world index given).step action = twin.done index (given.step action)) :
      twin.Follows index (given.move (.act action)) (Move.event? given (.act action))
        ((twin.world index given).move (.act action))
        (Move.event? (twin.world index given) (.act action)) := by
    apply Follows.of_done same
    intro answer ended
    have ended : Move.event? given (.act action) = some ⟨twin.thread index, answer⟩ := ended
    exact other (Move.act.inj (World.resume_of_called found called ended).1)
  cases move with
  | act action =>
      cases action with
      | call request =>
          exact others nofun (twin.call_world inside (Nat.ne_of_gt called) request)
      | resume thread =>
          by_cases own : thread = twin.thread index
          case pos =>
            subst own
            have agrees :=
              twin.resume_agrees_here possible found passed hasty (.caller twin.caller)
            exact twin.follows_own found (·.resume (.caller twin.caller))
              (·.resume (.caller twin.caller)) (agrees.congr (iff_of_true rfl trivial))
          case neg =>
            exact others (fun same => own (Action.resume.inj same))
              (twin.resume_world possible found passed hasty own)
      | instruct command => exact .same nofun
      | passTo instant => exact .of_eq (twin.passTo_world instant)
  | elapse duration => exact .same nofun
  | reorder place tasks =>
      apply Follows.of_eq
      apply modify_world
      · rintro rfl pool
        rw [if_pos rfl]
        exact twin.reorder_pool pool tasks
      · exact fun other => by rw [if_neg other]
  | stir place =>
      exact .of_eq
        (twin.modify_world place (fun _ pool => twin.notifyOne_pool pool) fun _ => rfl)

end Hasty

end Twin

end SessionPool

import Mathlib.Data.List.Forall2
import SessionPool.Proofs.Order.OldestFirst
import SessionPool.Proofs.Twin.Worlds

/-!
# A caller that does not wait, and one whose time is over

A caller that asks for a connection and does not want to wait gets what one gets that would wait for
no time at all. Let the same things happen after either call, in the same order: both callers are
told the same in the same move, except that where the one is told that nothing is free, the other is
told that its time has run out. Neither ever sleeps. Nobody else notices which of the two calls was
made, and nothing is left of it in the end but the count of the calls that have failed and of those
that have timed out.
-/

namespace SessionPool

open Pool (Agent Task Checkout)

namespace Twin

/-- After a turn of the caller, it waits only if it has not been told anything, and is in haste. -/
theorem Agrees.hasty {twin : Twin} {turn turnToo : Turn}
    (agrees : twin.Agrees True turn turnToo) {task : Task} (present : task ∈ turn.1.pool.tasks)
    (own : task.agent = .caller twin.caller) : turn.2 = none ∧ task.Hasty := by
  cases agrees with
  | same hastens => exact (hastens trivial).tasks task present own
  | busy waited mine alone => exact absurd own (alone task present)

end Twin

theorem Pool.Task.Hasty.notify {task : Task} (hasty : task.Hasty) : task.notify.Hasty := by
  rwa [Pool.notify_eq_self hasty.awake]

namespace World

/-! ### What is over in two runs -/

/-- Events of two runs that differ in the call of one thread. They are the same, or the thread is
told that nothing is free in the one, and that its time has run out in the other. -/
inductive Event.Alike (own : Thread) : Event → Event → Prop where
  | same {event : Event} (free : ∀ answer : Pool.Answer, event = ⟨own, ofPool answer⟩ →
      answer.isBusy = false) : Alike own event event
  | busy (waited : Nat) :
      Alike own ⟨own, .ok (.pool .noneFree)⟩ ⟨own, .error (.pool (.timedOut waited))⟩

section Alike

variable {own : Thread} {events eventsToo : List Event}
  (alike : List.Forall₂ (Event.Alike own) events eventsToo)

include alike

/-- What shows in events that are alike shows in the runs. -/
theorem exists_mem_iff_of_alike {P Q : Event → Prop}
    (same : ∀ event eventToo, Event.Alike own event eventToo → (P event ↔ Q eventToo)) :
    (∃ event ∈ events, P event) ↔ ∃ event ∈ eventsToo, Q event := by
  induction alike with
  | nil => simp
  | cons first rest ih => simp [same _ _ first, ih]

/-- The thread is told the same, unless there is no connection. -/
theorem mem_iff_of_alike {answer : Pool.Answer} (free : answer.isBusy = false) :
    ⟨own, ofPool answer⟩ ∈ events ↔ ⟨own, ofPool answer⟩ ∈ eventsToo := by
  have other (busy : Pool.Answer) (none : busy.isBusy = true) :
      Event.mk own (ofPool busy) ≠ ⟨own, ofPool answer⟩ := by
    intro same
    rw [ofPool_injective (congrArg Event.answer same), free] at none
    cases none
  have same := exists_mem_iff_of_alike alike (P := (· = ⟨own, ofPool answer⟩))
    (Q := (· = ⟨own, ofPool answer⟩)) fun event eventToo alike => by
      cases alike with
      | same => rfl
      | busy waited =>
          exact iff_of_false (other (.ok .noneFree) rfl) (other (.error (.timedOut waited)) rfl)
  simpa using same

/-- It is told that nothing is free where it is told that its time has run out. -/
theorem noneFree_mem_iff_of_alike : ⟨own, .ok (.pool .noneFree)⟩ ∈ events ↔
    ∃ waited, ⟨own, .error (.pool (.timedOut waited))⟩ ∈ eventsToo := by
  have same := exists_mem_iff_of_alike alike (P := (· = ⟨own, .ok (.pool .noneFree)⟩))
    (Q := fun event => ∃ waited, event = ⟨own, .error (.pool (.timedOut waited))⟩)
    fun event eventToo alike => by
      cases alike with
      | same free =>
          constructor
          · rintro rfl
            cases free (.ok .noneFree) rfl
          · rintro ⟨waited, rfl⟩
            cases free (.error (.timedOut waited)) rfl
      | busy waited => exact iff_of_true rfl ⟨waited, rfl⟩
  constructor
  · intro told
    obtain ⟨_, member, waited, rfl⟩ := same.mp ⟨_, told, rfl⟩
    exact ⟨waited, member⟩
  · rintro ⟨waited, told⟩
    obtain ⟨_, member, rfl⟩ := same.mpr ⟨_, told, waited, rfl⟩
    exact member

/-- In the first run the thread is not told that its time has run out. -/
theorem timedOut_not_mem_of_alike {waited : Nat} :
    ⟨own, .error (.pool (.timedOut waited))⟩ ∉ events := by
  intro told
  obtain ⟨_, _, never⟩ := (exists_mem_iff_of_alike alike
    (P := (· = ⟨own, .error (.pool (.timedOut waited))⟩)) (Q := fun _ => False)
    fun event eventToo alike => by
      cases alike with
      | same free =>
          refine ⟨?_, False.elim⟩
          rintro rfl
          cases free (.error (.timedOut waited)) rfl
      | busy waited => exact ⟨nofun, False.elim⟩).mp ⟨_, told, rfl⟩
  exact never

/-- In the second run it is not told that nothing is free. -/
theorem noneFree_not_mem_of_alike : ⟨own, .ok (.pool .noneFree)⟩ ∉ eventsToo := by
  intro told
  obtain ⟨_, _, never⟩ := (exists_mem_iff_of_alike alike (P := fun _ => False)
    (Q := (· = ⟨own, .ok (.pool .noneFree)⟩)) fun event eventToo alike => by
      cases alike with
      | same free =>
          refine ⟨False.elim, ?_⟩
          rintro rfl
          cases free (.ok .noneFree) rfl
      | busy waited => exact ⟨False.elim, nofun⟩).mpr ⟨_, told, rfl⟩
  exact never

/-- Nobody else is told anything different. -/
theorem filter_eq_of_alike :
    events.filter (·.thread != own) = eventsToo.filter (·.thread != own) := by
  induction alike with
  | nil => rfl
  | cons first rest ih =>
      cases first with
      | same free => simp [List.filter_cons, ih]
      | busy waited => simpa using ih

end Alike

end World

namespace Twin.Follows

open World (Event)

variable {twin : Twin} {index : Nat} {after afterToo : World} {event eventToo : Option Event}
  (follows : twin.Follows index after event afterToo eventToo)

include follows

theorem alike :
    List.Forall₂ (Event.Alike (twin.thread index)) event.toList eventToo.toList := by
  cases follows with
  | same free =>
      cases event with
      | none => exact .nil
      | some event => exact .cons (.same fun answer same => free answer (congrArg some same)) .nil
  | busy waited => exact .cons (.busy waited) .nil

/-- The difference is counted when the caller is told that nothing is free, and not before. -/
theorem world_eq : afterToo = (Twin.mk twin.caller twin.deadline
    (twin.late + event.toList.count ⟨twin.thread index, .ok (.pool .noneFree)⟩)).world index
      after := by
  cases follows with
  | same free =>
      have none : event.toList.count ⟨twin.thread index, .ok (.pool .noneFree)⟩ = 0 := by
        apply List.count_eq_zero.mpr
        intro told
        cases free (.ok .noneFree) (Option.mem_toList.mp told)
      rw [none]
      rfl
  | busy waited =>
      have one : (some (Event.mk (twin.thread index) (.ok (.pool .noneFree)))).toList.count
          ⟨twin.thread index, .ok (.pool .noneFree)⟩ = 1 := List.count_singleton_self
      rw [one]
      rfl

end Twin.Follows

namespace World

/-! ### A caller in haste -/

/-- A caller that does not wait for a connection never does. It waits after a move only if it has
waited before and has not been told anything. -/
theorem hasty_move {world : World} (possible : Possible world) {index caller : Nat}
    {pool after : Pool} (found : world.pools[index]? = some pool) (called : caller < world.callers)
    (hasty : ∀ task ∈ pool.tasks, task.agent = .caller caller → task.Hasty) {move : Move}
    (foundAfter : (world.move move).pools[index]? = some after) {task : Task}
    (present : task ∈ after.tasks) (own : task.agent = .caller caller) :
    task.Hasty ∧ (∃ earlier ∈ pool.tasks, earlier.agent = .caller caller) ∧
      ∀ answer, move.event? world ≠ some ⟨.inPool index (.caller caller), answer⟩ := by
  by_cases turn : move = .act (.resume (.inPool index (.caller caller)))
  · subst turn
    obtain ⟨left, _, event⟩ := resume_turn (.caller caller) found
    -- What the caller does here does not depend on the twin, so any deadline in the past will do.
    obtain rfl := Option.some.inj (foundAfter.symm.trans left)
    let twin : Twin := ⟨caller, 0, 0⟩
    have sound : Pool.Sound world.callers (world.site pool).pool :=
      possible.sound pool (List.mem_of_getElem? found)
    have hastens : ∀ task ∈ (world.site pool).pool.tasks,
        task.agent = .caller twin.caller → task.Hasty := hasty
    have agrees : twin.Agrees (Agent.caller caller = .caller twin.caller)
        ((world.site pool).resume (.caller caller))
        ((twin.site (world.site pool)).resume (.caller caller)) :=
      Twin.resume_agrees sound (Nat.zero_le _) hastens _
    obtain ⟨silent, hasty⟩ := (agrees.congr (iff_of_true rfl trivial)).hasty present own
    refine ⟨hasty, ?_, ?_⟩
    · cases waits : pool.task? (.caller caller) with
      | some task => exact ⟨task, List.mem_of_find?_eq_some waits, Pool.agent_of_task? waits⟩
      | none =>
          have absent : (world.site pool).pool.task? (.caller caller) = none := waits
          rw [Site.resume, absent] at present
          exact ⟨task, present, own⟩
    · intro answer ended
      have ended : (world.resume (.inPool index (.caller caller))).2 = _ := ended
      rw [event, ending, silent] at ended
      cases ended
  · obtain ⟨next, foundNext, happens⟩ := becomes_move found move
    obtain rfl := Option.some.inj (foundAfter.symm.trans foundNext)
    obtain ⟨earlier, known, told⟩ := happens.waited possible found called turn present own
    have same : earlier.agent = .caller caller := by
      rcases told with rfl | rfl
      · exact own
      · exact earlier.agent_notify ▸ own
    refine ⟨?_, ⟨earlier, known, same⟩, ?_⟩
    · rcases told with rfl | rfl
      · exact hasty _ known own
      · exact (hasty earlier known same).notify
    · exact fun answer ended => turn (resume_of_called found called ended).1

/-! ### Two runs side by side -/

/-- Two runs that differ in the call of one caller, as far as they have come. -/
structure Abreast (caller deadline index : Nat) (world worldToo : World)
    (events eventsToo : List Event) : Prop where
  possible : Possible world
  called : caller < world.callers
  passed : deadline ≤ world.now
  /-- As long as the caller waits, it has not been told anything. -/
  hasty : ∃ pool, world.pools[index]? = some pool ∧
    ∀ task ∈ pool.tasks, task.agent = .caller caller →
      task.Hasty ∧ ∀ event ∈ events, event.thread ≠ .inPool index (.caller caller)
  once : events.countP (·.thread == .inPool index (.caller caller)) ≤ 1
  alike : List.Forall₂ (Event.Alike (.inPool index (.caller caller))) events eventsToo
  twin_eq : worldToo = (Twin.mk caller deadline
    (events.count ⟨.inPool index (.caller caller), .ok (.pool .noneFree)⟩)).world index world

namespace Abreast

variable {caller deadline index : Nat} {world worldToo : World} {events eventsToo : List Event}

/-- What happens next to the one happens to the other. -/
theorem move (abreast : Abreast caller deadline index world worldToo events eventsToo)
    (move : Move) :
    let moveToo := (Twin.mk caller deadline 0).move index move
    Abreast caller deadline index (world.move move) (worldToo.move moveToo)
      (events ++ (move.event? world).toList) (eventsToo ++ (moveToo.event? worldToo).toList) := by
  obtain ⟨pool, found, hasty⟩ := abreast.hasty
  have hastens (task : Task) (present : task ∈ pool.tasks) (own : task.agent = .caller caller) :=
    (hasty task present own).1
  let own : Thread := .inPool index (.caller caller)
  let noneFree : Event := ⟨own, .ok (.pool .noneFree)⟩
  let twin : Twin := ⟨caller, deadline, events.count noneFree⟩
  have moveToo_eq : (Twin.mk caller deadline 0).move index move = twin.move index move := by
    cases move <;> rfl
  have follows :=
    twin.follows_move abreast.possible found abreast.passed hastens abreast.called move
  have unanswered {answer : Answer} (ended : move.event? world = some ⟨own, answer⟩) :
      ∀ event ∈ events, event.thread ≠ own := by
    obtain ⟨_, task, present, mine⟩ := resume_of_called found abreast.called ended
    exact (hasty task present mine).2
  dsimp only
  rw [moveToo_eq, abreast.twin_eq]
  obtain ⟨after, foundAfter, _⟩ := becomes_move found move
  constructor
  case possible => exact abreast.possible.move move
  case called => exact Nat.lt_of_lt_of_le abreast.called (affects_move world move).callers_le
  case passed => exact Nat.le_trans abreast.passed (now_le_move world move)
  case hasty =>
    refine ⟨after, foundAfter, ?_⟩
    intro task present mine
    obtain ⟨still, ⟨earlier, known, same⟩, silent⟩ :=
      hasty_move abreast.possible found abreast.called hastens foundAfter present mine
    refine ⟨still, ?_⟩
    intro event member
    rcases List.mem_append.mp member with before | last
    · exact (hasty earlier known same).2 event before
    · rintro thread
      apply silent event.answer
      rw [Option.mem_toList.mp last, ← thread]
  case once =>
    rw [List.countP_append]
    cases ended : move.event? world with
    | none => exact abreast.once
    | some event =>
        by_cases mine : event.thread = own
        -- Whoever is told something has waited for it, and so has not been told anything before.
        · have none : events.countP (·.thread == own) = 0 := by
            have told : move.event? world = some ⟨own, event.answer⟩ := by rw [ended, ← mine]
            apply List.countP_eq_zero.mpr
            intro earlier member
            simpa using unanswered told earlier member
          rw [none, Nat.zero_add]
          exact List.countP_le_length
        · have elsewhere : [event].countP (·.thread == own) = 0 := by simpa using mine
          exact (congrArg (_ + ·) elsewhere).trans_le abreast.once
  case alike => exact List.rel_append abreast.alike follows.alike
  case twin_eq =>
    rw [List.count_append]
    exact follows.world_eq

/-- Two runs stay side by side, whatever happens next to both. -/
theorem after (abreast : Abreast caller deadline index world worldToo events eventsToo)
    (later : List Move) :
    let laterToo := later.map ((Twin.mk caller deadline 0).move index)
    Abreast caller deadline index (world.after later) (worldToo.after laterToo)
      (events ++ world.events later) (eventsToo ++ worldToo.events laterToo) := by
  induction later generalizing world worldToo events eventsToo with
  | nil => simpa [World.after, World.events] using abreast
  | cons first later ih =>
      have rest := ih (abreast.move first)
      dsimp only at rest
      rw [List.append_assoc, List.append_assoc] at rest
      exact rest

/-- The caller is told once. -/
theorem told_unique (abreast : Abreast caller deadline index world worldToo events eventsToo)
    {first second : Answer} (told : ⟨.inPool index (.caller caller), first⟩ ∈ events)
    (toldToo : ⟨.inPool index (.caller caller), second⟩ ∈ events) : first = second := by
  have few := abreast.once
  rw [List.countP_eq_length_filter] at few
  have member {answer : Answer} (told : ⟨.inPool index (.caller caller), answer⟩ ∈ events) :
      ⟨.inPool index (.caller caller), answer⟩ ∈
        events.filter (·.thread == .inPool index (.caller caller)) :=
    List.mem_filter.mpr ⟨told, beq_self_eq_true _⟩
  generalize events.filter _ = own at few member
  match own with
  | [] => cases member told
  | [only] =>
      have same := (List.mem_singleton.mp (member told)).trans
        (List.mem_singleton.mp (member toldToo)).symm
      exact congrArg Event.answer same
  | _ :: _ :: _ => simp at few

/-- The difference is counted once at most. -/
theorem late_eq (abreast : Abreast caller deadline index world worldToo events eventsToo) :
    events.count ⟨.inPool index (.caller caller), .ok (.pool .noneFree)⟩ =
      if ⟨.inPool index (.caller caller), .ok (.pool .noneFree)⟩ ∈ events then 1 else 0 := by
  split
  case isTrue told =>
    apply Nat.le_antisymm
    · apply Nat.le_trans _ abreast.once
      apply List.countP_mono_left
      intro event _ same
      rw [eq_of_beq same]
      exact beq_self_eq_true _
    · exact List.count_pos_iff.mpr told
  case isFalse untold => exact List.count_eq_zero.mpr untold

/-- Neither of the two sleeps. -/
theorem awake (abreast : Abreast caller deadline index world worldToo events eventsToo)
    {pool : Pool} (found : world.pools[index]? = some pool ∨ worldToo.pools[index]? = some pool)
    {task : Task} (present : task ∈ pool.tasks) (own : task.agent = .caller caller) :
    task.isWaiting = false := by
  obtain ⟨here, foundHere, hasty⟩ := abreast.hasty
  rcases found with found | found
  · obtain rfl := Option.some.inj (found.symm.trans foundHere)
    exact (hasty task present own).1.awake
  · rw [abreast.twin_eq, Twin.pools_here, foundHere] at found
    obtain rfl := Option.some.inj found
    obtain ⟨earlier, known, rfl⟩ := List.mem_map.mp present
    rw [Twin.isWaiting_task]
    exact (hasty earlier known own).1.awake

/-- Once the caller has been told, it is not in the middle of its checkout any more. -/
theorem checkedOut (abreast : Abreast caller deadline index world worldToo events eventsToo)
    {answer : Answer} (told : ⟨.inPool index (.caller caller), answer⟩ ∈ events) {pool : Pool}
    (found : world.pools[index]? = some pool) {task : Task} (present : task ∈ pool.tasks)
    {checkout : Checkout} (inside : task.checkout? = some checkout) :
    checkout.caller ≠ caller := by
  intro mine
  obtain ⟨here, foundHere, hasty⟩ := abreast.hasty
  obtain rfl := Option.some.inj (found.symm.trans foundHere)
  have sound := abreast.possible.sound pool (List.mem_of_getElem? found)
  have own : task.agent = .caller caller := by
    rw [sound.agent_of_checkout present inside, mine]
  exact (hasty task present own).2 _ told rfl

end Abreast

/-! ### The theorem -/

/-- The clock of a run never reaches the horizon. -/
theorem Reachable.now_lt_horizon {world : World} (reachable : Reachable world) :
    world.now < Instant.horizon := by
  induction reachable with
  | new => decide
  | @step world before action early =>
      cases action with
      | call request => exact (now_call world request).trans_lt early
      | resume thread => exact (now_resume world thread).trans_lt early
      | instruct command => exact early
      | passTo instant =>
          change (world.passTo instant).now < Instant.horizon
          rw [passTo]
          split
          case isTrue can =>
            simp only [canPassTo, Bool.and_eq_true, decide_eq_true_eq] at can
            exact can.1.2
          case isFalse => exact early

section TryGet

variable {start : World} {index : Nat}

/-- Both calls are over at once in the same way, or wait for the server. -/
theorem abreast_tryGet (possible : Possible start) (early : start.now < Instant.horizon)
    (accepted : start.accepts (.tryGet index) = true) :
    Abreast start.callers start.now index (start.call (.tryGet index)).1
      (start.call (.acquire index 0)).1 (start.call (.tryGet index)).2.toList
      (start.call (.acquire index 0)).2.toList := by
  let numbered : World := { start with callers := start.callers + 1 }
  let twin : Twin := ⟨start.callers, start.now, 0⟩
  obtain ⟨pool, found⟩ : ∃ pool, start.pools[index]? = some pool := by
    have opened : start.isOpen index = true := accepted
    rw [isOpen] at opened
    split at opened
    case h_1 pool found => exact ⟨pool, found⟩
    case h_2 => contradiction
  have foundHere : numbered.pools[index]? = some pool := found
  have sound := possible.sound pool (List.mem_of_getElem? found)
  have alone : ∀ task ∈ (numbered.site pool).pool.tasks, task.agent ≠ .caller start.callers :=
    fun task present => sound.agent_ne_callers present
  have agrees := Twin.tryGet_agrees (numbered.site pool) start.callers early alone
  have unchanged : twin.world index numbered = numbered := by
    apply Twin.world_eq_self rfl
    intro other foundOther task present checkout inside mine
    obtain rfl := Option.some.inj (found.symm.trans foundOther)
    have called : task.agent = .caller checkout.caller := sound.agent_of_checkout present inside
    rw [mine] at called
    exact alone task present called
  have here : start.call (.tryGet index) = report (twin.thread index)
    (numbered.callPool index (·.tryGet start.callers)) := call_eq_report accepted
  have there : start.call (.acquire index 0) = report (twin.thread index)
    (numbered.callPool index (·.acquire start.callers 0)) := call_eq_report accepted
  have follows := twin.follows_own foundHere (·.tryGet start.callers)
    (·.acquire start.callers 0) agrees
  rw [unchanged, ← here, ← there] at follows
  constructor
  case possible => exact possible.move (.act (.call (.tryGet index)))
  case called =>
    rw [here, report, callers_callPool]
    exact Nat.lt_succ_self _
  case passed => exact now_le_move start (.act (.call (.tryGet index)))
  case hasty =>
    rw [here]
    have left : (numbered.callPool index (·.tryGet start.callers)).1.pools[index]? = some _ :=
      found_callPool foundHere
    refine ⟨_, left, ?_⟩
    intro task present own
    obtain ⟨silent, hasty⟩ := agrees.hasty present own
    refine ⟨hasty, ?_⟩
    have unanswered : (report (twin.thread index)
        (numbered.callPool index (·.tryGet start.callers))).2 = none := by
      rw [report, answer_callPool foundHere]
      change (((numbered.site pool).tryGet start.callers).2.map ofPool).map _ = none
      rw [silent]
      rfl
    rw [unanswered]
    exact fun event told => absurd told List.not_mem_nil
  case once => exact Nat.le_trans List.countP_le_length Option.length_toList_le
  case alike => exact follows.alike
  case twin_eq =>
    have same := follows.world_eq
    rwa [Nat.zero_add] at same

/-- What the caller of a pool is told in a run that begins with its call. -/
def Told (start : World) (index : Nat) (run : List Move) (answer : Pool.Answer) : Prop :=
  ⟨.inPool index (.caller start.callers), ofPool answer⟩ ∈ start.events run

instance (start : World) (index : Nat) (run : List Move) (answer : Pool.Answer) :
    Decidable (start.Told index run answer) :=
  inferInstanceAs (Decidable (_ ∈ _))

/-- A call for a connection that does not wait, and what happens after it. -/
def trying (index : Nat) (later : List Move) : List Move := .act (.call (.tryGet index)) :: later

/-- In its place a call that would wait for no time at all, with the same things after it. -/
def acquiring (start : World) (index : Nat) (later : List Move) : List Move :=
  .act (.call (.acquire index 0)) :: later.map ((Twin.mk start.callers start.now 0).move index)

/-- One more call has failed because its time had run out. -/
def countTimeout (counters : Pool.Counters) : Pool.Counters :=
  { counters with
    checkoutsFailed := counters.checkoutsFailed + 1
    timeouts := counters.timeouts + 1 }

/-- A call that does not wait and one whose time is over come to the same. -/
structure TriesAsAcquires (start : World) (index : Nat) (later : List Move) : Prop where
  /-- One caller is told whatever the other is told, be it a lease, that the pool is shut down, or
  that no connection could be made. -/
  told (answer : Pool.Answer) (free : answer.isBusy = false) :
    start.Told index (trying index later) answer ↔
      start.Told index (start.acquiring index later) answer
  /-- The one finds nothing free exactly where the time of the other has run out. -/
  noneFree : start.Told index (trying index later) (.ok .noneFree) ↔
    ∃ waited, start.Told index (start.acquiring index later) (.error (.timedOut waited))
  /-- Neither is told what only the other can be told. -/
  apart : (∀ waited, ¬ start.Told index (trying index later) (.error (.timedOut waited))) ∧
    ¬ start.Told index (start.acquiring index later) (.ok .noneFree)
  /-- Nobody else is told anything different. -/
  others :
    (start.events (trying index later)).filter
        (·.thread != .inPool index (.caller start.callers)) =
      (start.events (start.acquiring index later)).filter
        (·.thread != .inPool index (.caller start.callers))
  /-- Neither sleeps. -/
  awake : ∀ run ∈ [trying index later, start.acquiring index later],
    ∀ pool, (start.after run).pools[index]? = some pool → ∀ task ∈ pool.tasks,
      task.agent = .caller start.callers → task.isWaiting = false
  /-- All the while, the worlds are the same but for the patience of the caller and what has been
  counted when its time had run out. -/
  meanwhile : start.after (start.acquiring index later) =
    (Twin.mk start.callers start.now
        (if start.Told index (trying index later) (.ok .noneFree) then 1 else 0)).world index
      (start.after (trying index later))
  /-- Once the callers have been told, only the count is left. -/
  ended (answer : Pool.Answer) (told : start.Told index (trying index later) answer) :
    start.after (start.acquiring index later) =
      if answer = .ok .noneFree then
        { start.after (trying index later) with
          pools := (start.after (trying index later)).pools.modify index (·.count countTimeout) }
      else start.after (trying index later)

/-- A caller that does not want to wait is told what one is told whose time is over at once, and
leaves the same behind, whatever else happens meanwhile. -/
theorem tryGet_agrees_acquire (possible : Possible start) (early : start.now < Instant.horizon)
    (accepted : start.accepts (.tryGet index) = true) (later : List Move) :
    start.TriesAsAcquires index later := by
  have abreast : Abreast start.callers start.now index (start.after (trying index later))
      (start.after (start.acquiring index later)) (start.events (trying index later))
      (start.events (start.acquiring index later)) :=
    (abreast_tryGet possible early accepted).after later
  have same : start.after (start.acquiring index later) =
      (Twin.mk start.callers start.now
          (if start.Told index (trying index later) (.ok .noneFree) then 1 else 0)).world index
        (start.after (trying index later)) :=
    abreast.twin_eq.trans (congrArg
      (fun late => (Twin.mk start.callers start.now late).world index _) abreast.late_eq)
  constructor
  case told => exact fun answer free => mem_iff_of_alike abreast.alike free
  case noneFree => exact noneFree_mem_iff_of_alike abreast.alike
  case apart =>
    constructor
    · exact fun _ => timedOut_not_mem_of_alike abreast.alike
    · exact noneFree_not_mem_of_alike abreast.alike
  case others => exact filter_eq_of_alike abreast.alike
  case awake =>
    intro run either pool found task present own
    apply abreast.awake _ present own
    simp only [List.mem_cons, List.not_mem_nil, or_false] at either
    rcases either with rfl | rfl
    · exact .inl found
    · exact .inr found
  case meanwhile => exact same
  case ended =>
    intro answer told
    have others (pool : Pool) (found : (start.after (trying index later)).pools[index]? = some pool)
        (task : Task) (present : task ∈ pool.tasks) (checkout : Checkout)
        (inside : task.checkout? = some checkout) : checkout.caller ≠ start.callers :=
      abreast.checkedOut told found present inside
    rw [same]
    by_cases busy : answer = .ok .noneFree
    · subst busy
      rw [if_pos told, if_pos rfl]
      exact Twin.world_eq_count _ _ _ others
    · have untold : ¬ start.Told index (trying index later) (.ok .noneFree) :=
        fun toldToo => busy (ofPool_injective (abreast.told_unique told toldToo))
      rw [if_neg untold, if_neg busy]
      exact Twin.world_eq_self rfl others

/-- A caller has got the only connection of a pool. -/
def exhausted : World :=
  let config : Config := { Config.default with minConnections := 0, maxConnections := 1 }
  (Trace.follow ⟨new, []⟩ [.call (.openPool config), .call (.get 0),
    .resume (.inPool 0 (.caller 1))]).world

/-- While the connection is lent, one caller is told that nothing is free, and the other that its
time has run out. The connection comes back to the same pool, which has counted a timeout more. -/
theorem tryGet_agrees_acquire_exhausted :
    let later := [.act (.call (.release ⟨0, 1⟩))]
    let counts (world : World) := world.pools.map fun pool =>
      (pool.idle.length, pool.counters.checkoutsFailed, pool.counters.timeouts)
    Possible exhausted ∧ exhausted.now < Instant.horizon ∧
      exhausted.accepts (.tryGet 0) = true ∧
      exhausted.Told 0 (trying 0 later) (.ok .noneFree) ∧
      exhausted.Told 0 (exhausted.acquiring 0 later) (.error (.timedOut 0)) ∧
      counts (exhausted.after (trying 0 later)) = [(1, 0, 0)] ∧
      counts (exhausted.after (exhausted.acquiring 0 later)) = [(1, 1, 1)] ∧
      exhausted.TriesAsAcquires 0 later := by
  have reachable : Reachable exhausted := Reachable.follow .new _
  have accepted : exhausted.accepts (.tryGet 0) = true := by decide
  have agrees := tryGet_agrees_acquire reachable.possible reachable.now_lt_horizon accepted
  exact ⟨reachable.possible, reachable.now_lt_horizon, accepted, by decide, by decide, by decide,
    by decide, agrees _⟩

end TryGet

end World

end SessionPool

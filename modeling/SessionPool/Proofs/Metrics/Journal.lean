import Mathlib.Logic.Function.Basic
import SessionPool.Proofs.Duty.Run
import SessionPool.Proofs.Metrics.Entries

/-!
# A journal of calls and probes

Whoever keeps a journal of a pool notes what every agent has been asked, how its call ends, and what
the server answers to the probes of its sweep. The metrics of the pool agree with the journal at any
time: no checkout, no probe and no connection is forgotten, and none is counted twice.
-/

namespace SessionPool

open Pool (Agent Job Probes Attends Sound)

namespace World

/-- How a pool has answered a call, if that is what is over. -/
def Event.answer? (index : Nat) : Event → Option Pool.Answer
  | ⟨.inPool place _, .ok (.pool reply)⟩ => if place = index then some (.ok reply) else none
  | ⟨.inPool place _, .error (.pool error)⟩ => if place = index then some (.error error) else none
  | _ => none

theorem answer?_ending (index : Nat) (agent : Agent) (turn : Turn) :
    (ending index agent turn).bind (Event.answer? index) = turn.2 := by
  obtain ⟨site, answer⟩ := turn
  rcases answer with _ | (error | reply)
  · rfl
  · exact if_pos rfl
  · exact if_pos rfl

/-- What is known of a pool to one who has written down all that concerns it. -/
structure Journal where
  world : World
  /-- The job that each agent has been on last. -/
  jobs : Agent → Option Job
  /-- What the server has answered to the probes of each agent in its present sweep. -/
  probed : Agent → Probes
  /-- What is over, the last first. -/
  entries : List Entry
  /-- What the server has answered to the probes of all sweeps that are over. -/
  swept : Probes

namespace Journal

/-- Nothing has happened, and the checker is there to sweep. -/
def new : Journal where
  world := World.new
  jobs agent := if agent = .checker then some .sweep else none
  probed _ := ⟨0, 0⟩
  entries := []
  swept := ⟨0, 0⟩

/-- An agent has worked on a job, and may be through with it. -/
def note (journal : Journal) (agent : Agent) (job? : Option Job) (probes : Probes)
    (answer : Option Pool.Answer) : Journal :=
  { journal with
    jobs := Function.update journal.jobs agent job?
    probed := Function.update journal.probed agent probes
    entries := Entry.ofAnswer job? answer ++ journal.entries
    swept :=
      if (Entry.ofAnswer job? answer).any Entry.isSwept then journal.swept.add probes
      else journal.swept }

/-- Who works in the pool in a move, on which job, and which probes of its sweep have been answered
after that. -/
def turn? (journal : Journal) (index : Nat) (pool : Pool) :
    Move → Option (Agent × Option Job × Probes)
  | .act (.call request) =>
      match request.asks? journal.world with
      | some (place, job) =>
          if journal.world.accepts request && place == index then
            some (.caller journal.world.callers, some job, ⟨0, 0⟩)
          else none
      | none => none
  | .act (.resume (.inPool place agent)) =>
      if place == index then
        some (agent, journal.jobs agent, pool.probesNext journal.world.now journal.world.server
          (journal.probed agent) agent)
      else none
  | _ => none

/-- Note one move more. -/
def move (index : Nat) (journal : Journal) (move : Move) : Journal :=
  let answer := (move.event? journal.world).bind (Event.answer? index)
  let noted :=
    match (journal.world.pools[index]?).bind (journal.turn? index · move) with
    | some (agent, job?, probes) => journal.note agent job? probes answer
    | none => journal
  { noted with world := journal.world.move move }

/-- The journal of a pool after a run from a new world. -/
def run (index : Nat) (moves : List Move) : Journal := moves.foldl (Journal.move index) new

/-! ### What is true of a journal -/

variable {journal : Journal} {index : Nat} {pool : Pool} {agent : Agent} {job? : Option Job}
  {probes : Probes}

/-- A pool agrees with what is noted about it. -/
structure Agrees (journal : Journal) (pool : Pool) : Prop where
  tasks (task : Pool.Task) (present : task ∈ pool.tasks) :
    task.Serves (journal.jobs task.agent) ∧ task.Probes (journal.probed task.agent)
  fits : ∀ entry ∈ journal.entries, entry.Fits
  successful : pool.counters.checkoutsSuccessful = journal.entries.countP Entry.isLent
  refused : pool.counters.checkoutsFailed = journal.entries.countP Entry.isRefused
  timeouts : pool.counters.timeouts = journal.entries.countP Entry.isTimeout
  performed : pool.counters.healthChecksPerformed = journal.swept.made
  dead : pool.counters.healthChecksFailed = journal.swept.failed
  surplus (present : pool.isPresent = true) :
    pool.surplus + journal.entries.countP Entry.isAdopted = journal.entries.countP Entry.isDetached

/-- A pool that is still there after a turn was there before. -/
theorem isPresent_of_attends {turn : Turn} {before : Pool}
    (attends : Attends turn before agent job? probes) (present : turn.1.pool.isPresent = true) :
    before.isPresent = true := by
  rw [Pool.isPresent, Bool.or_eq_true, Bool.not_eq_true', List.any_eq_true] at present
  rcases present with kept | ⟨task, here, returning⟩
  · cases dropped : before.dropped with
    | true =>
        rw [attends.gone dropped] at kept
        contradiction
    | false => simp [Pool.isPresent, dropped]
  · rcases attends.tasks task here with (continues | ⟨_, rests⟩) | ⟨earlier, known, same⟩
    · exact continues.present returning
    · rw [Pool.Task.isReturning, rests] at returning
      contradiction
    · have returned : earlier.isReturning = true := by
        rcases same with rfl | rfl
        · exact returning
        · rwa [Pool.Task.isReturning_notify] at returning
      rw [Pool.isPresent, Bool.or_eq_true, List.any_eq_true]
      exact .inr ⟨earlier, known, returned⟩

/-- Whoever waits after a turn is on the job that is noted for it, with the probes that are. -/
theorem Agrees.tasks_note (agrees : journal.Agrees pool)
    (sweeps : journal.jobs .checker = some .sweep) {turn : Turn} {before : Pool}
    (attends : Attends turn before agent job? probes)
    (others : ∀ task ∈ before.tasks, task ∈ pool.tasks ∧ task.agent ≠ agent)
    (checks : agent = .checker → job? = some .sweep) (task : Pool.Task)
    (present : task ∈ turn.1.pool.tasks) :
    task.Serves ((journal.note agent job? probes turn.2).jobs task.agent) ∧
      task.Probes ((journal.note agent job? probes turn.2).probed task.agent) := by
  rcases attends.tasks task present with (continues | ⟨own, rests⟩) | ⟨earlier, known, same⟩
  · rw [continues.agent_eq, Journal.note]
    simp only [Function.update_self]
    exact ⟨continues.serves, continues.probes⟩
  -- A checker that rests was made just now by whoever has filled the pool, or rests again.
  · obtain ⟨_, phase, due⟩ := task
    obtain rfl := own
    obtain rfl := rests
    refine ⟨?_, trivial⟩
    change Function.update journal.jobs agent job? .checker = some .sweep
    by_cases mine : agent = .checker
    · rw [mine, Function.update_self]
      exact checks mine
    · rw [Function.update_of_ne (Ne.symm mine)]
      exact sweeps
  · obtain ⟨here, other⟩ := others earlier known
    have agreed := agrees.tasks earlier here
    have agent : task.agent = earlier.agent := by
      rcases same with rfl | rfl
      · rfl
      · exact earlier.agent_notify
    rw [agent, Journal.note]
    simp only [Function.update_of_ne other]
    rcases same with rfl | rfl
    · exact agreed
    · rwa [Pool.Task.serves_notify, Pool.Task.probes_notify]

/-- What is noted about a turn agrees with the pool after it. -/
theorem Agrees.note (agrees : journal.Agrees pool) (sweeps : journal.jobs .checker = some .sweep)
    {turn : Turn} {before : Pool} (attends : Attends turn before agent job? probes)
    (others : ∀ task ∈ before.tasks, task ∈ pool.tasks ∧ task.agent ≠ agent)
    (dropped : before.dropped = pool.dropped) (checks : agent = .checker → job? = some .sweep)
    (counts : turn.Counts pool (Job.kind job?)) :
    (journal.note agent job? probes turn.2).Agrees turn.1.pool := by
  have activity := counts.activity
  simp only [Pool.Counters.activity, Pool.Counters.mk.injEq, true_and] at activity
  obtain ⟨successful, failed, timeouts, performed, dead⟩ := activity
  have fits : ∀ entry ∈ Entry.ofAnswer job? turn.2, entry.Fits := by
    intro entry member
    obtain ⟨answer, given, rfl⟩ := Option.map_eq_some_iff.mp (Option.mem_toList.mp member)
    exact (attends.answers answer given).1
  have swept := Entry.swept_ended pool.counters job? turn.2
    (fun answer given => (attends.answers answer given).2) agrees.performed agrees.dead
  constructor
  case tasks => exact agrees.tasks_note sweeps attends others checks
  case fits => exact List.forall_mem_append.mpr ⟨fits, agrees.fits⟩
  case successful =>
    rw [successful, Entry.checkoutsSuccessful_ended, agrees.successful, ← List.countP_append]
    rfl
  case refused =>
    rw [failed, Entry.checkoutsFailed_ended, agrees.refused, ← List.countP_append]
    rfl
  case timeouts =>
    rw [timeouts, Entry.timeouts_ended _ fits, agrees.timeouts, ← List.countP_append]
    rfl
  case performed => exact performed.trans swept.1
  case dead => exact dead.trans swept.2
  case surplus =>
    intro present
    have earlier : pool.isPresent = true := by
      have found := isPresent_of_attends attends present
      rw [Pool.isPresent, dropped, Bool.or_eq_true, List.any_eq_true] at found
      rw [Pool.isPresent, Bool.or_eq_true, List.any_eq_true]
      refine found.imp_right ?_
      rintro ⟨task, known, returning⟩
      exact ⟨task, (others task known).1, returning⟩
    have brings := counts.surplus present
    rw [Entry.brings_eq fits] at brings
    have agreed := agrees.surplus earlier
    simp only [Journal.note, List.countP_append]
    omega

/-- Nothing has to be noted where nothing is counted and nobody begins to wait. -/
theorem Agrees.still (agrees : journal.Agrees pool) {after : Pool}
    (precedes : pool.Precedes after) (counters : after.counters = pool.counters)
    (surplus : after.surplus = pool.surplus) : journal.Agrees after where
  tasks task present := by
    obtain ⟨earlier, known, rfl | rfl⟩ := precedes.old task present
    · exact agrees.tasks _ known
    · rw [Pool.Task.agent_notify, Pool.Task.serves_notify, Pool.Task.probes_notify]
      exact agrees.tasks earlier known
  fits := agrees.fits
  successful := counters ▸ agrees.successful
  refused := counters ▸ agrees.refused
  timeouts := counters ▸ agrees.timeouts
  performed := counters ▸ agrees.performed
  dead := counters ▸ agrees.dead
  surplus present := by
    have attends : Attends (⟨0, .new, after⟩, none) pool .checker none ⟨0, 0⟩ :=
      Site.none_leads precedes
    rw [surplus]
    exact agrees.surplus (isPresent_of_attends attends present)

/-- The pool does not depend on the rest of the world. -/
theorem Agrees.inWorld (agrees : journal.Agrees pool) (world : World) :
    Agrees { journal with world } pool :=
  { agrees with }

/-- A pool that is made agrees with an empty journal. -/
theorem agrees_prewarm {site : Site} {caller : Nat} (config : Config)
    (new : site.pool = Pool.new config site.now) (sweeps : journal.jobs .checker = some .sweep)
    (fresh : journal.jobs (.caller caller) = none)
    (empty : journal.entries = [] ∧ journal.swept = ⟨0, 0⟩) :
    journal.Agrees (site.prewarm (.caller caller) 0).1.pool := by
  have attends := site.prewarm_attends caller 0
  have counters : (site.prewarm (.caller caller) 0).1.pool.counters = .zero ∧
      (site.prewarm (.caller caller) 0).1.pool.surplus = 0 := by
    rw [Site.prewarm]
    split
    · change site.pool.counters = .zero ∧ site.pool.surplus = 0
      rw [new]
      exact ⟨rfl, rfl⟩
    · change site.pool.counters = .zero ∧ site.pool.surplus = 0
      rw [new]
      exact ⟨rfl, rfl⟩
  constructor
  case tasks =>
    intro task present
    rcases attends.tasks task present with (continues | ⟨own, rests⟩) | ⟨earlier, known, _⟩
    · have serves := continues.serves
      rw [continues.agent_eq, fresh]
      refine ⟨serves, ?_⟩
      obtain ⟨_, phase, due⟩ := task
      cases phase with
      | sweeping sweep current pending => cases serves
      | _ => trivial
    · obtain ⟨_, phase, due⟩ := task
      obtain rfl := own
      obtain rfl := rests
      exact ⟨sweeps, trivial⟩
    · rw [new] at known
      cases known
  case fits => simp [empty.1]
  case surplus =>
    intro _
    rw [counters.2, empty.1]
    rfl
  all_goals
    simp only [counters.1, empty.1, empty.2]
    rfl

end Journal

/-- A pool beyond those that there were has just been made. -/
theorem Affects.opened {world : World} {callers index : Nat} {pools : List Pool} {pool : Pool}
    (affects : Affects world callers pools) (beyond : world.pools.length ≤ index)
    (found : pools[index]? = some pool) :
    ∃ config, pool = (Site.prewarm ⟨world.now, world.server, .new config world.now⟩
      (.caller world.callers) 0).1.pool := by
  have inside := (List.getElem?_eq_some_iff.mp found).1
  cases affects with
  | opens config valid =>
      rw [List.getElem?_append_right beyond] at found
      exact ⟨config, List.mem_singleton.mp (List.mem_of_getElem? found)⟩
  | nothing later => exact absurd inside (Nat.not_lt_of_le beyond)
  | _ =>
      rw [List.length_modify] at inside
      exact absurd inside (Nat.not_lt_of_le beyond)

namespace Journal

variable {journal : Journal} {index : Nat} {pool : Pool} {agent : Agent} {job? : Option Job}
  {probes : Probes}

/-- Who works in the pool in a move either makes a call or goes on. -/
theorem cases_of_turn? {move : Move}
    (turns : journal.turn? index pool move = some (agent, job?, probes)) :
    (∃ request job, move = .act (.call request) ∧ journal.world.accepts request = true ∧
        request.asks? journal.world = some (index, job) ∧
        agent = .caller journal.world.callers ∧ job? = some job ∧ probes = ⟨0, 0⟩) ∨
      move = .act (.resume (.inPool index agent)) ∧ job? = journal.jobs agent ∧
        probes = pool.probesNext journal.world.now journal.world.server (journal.probed agent)
          agent := by
  unfold turn? at turns
  split at turns
  · split at turns
    case h_1 request _ place job asks =>
      split at turns
      case isTrue here =>
        obtain ⟨accepted, same⟩ := Bool.and_eq_true_iff.mp here
        obtain rfl : place = index := by simpa using same
        cases turns
        exact .inl ⟨request, job, rfl, accepted, asks, rfl, rfl, rfl⟩
      case isFalse => cases turns
    case h_2 => cases turns
  · split at turns
    case isTrue here =>
      cases turns
      obtain rfl : _ = index := by simpa using here
      exact .inr ⟨rfl, rfl, rfl⟩
    case isFalse => cases turns
  · cases turns

/-- Where nobody works in the pool, it agrees with the journal as before. -/
theorem agrees_of_happens {move : Move} {after : Pool} {event : Option Event}
    (happens : journal.world.Happens index pool move after event)
    (turns : journal.turn? index pool move = none) (agrees : journal.Agrees pool) :
    journal.Agrees after := by
  have precedes := Pool.Precedes.refl pool
  cases happens with
  | nothing elsewhere => exact agrees
  | calls accepted asks => simp [turn?, asks, accepted] at turns
  | resumes agent => simp [turn?] at turns
  | puts ticket session closes elsewhere =>
      apply agrees.still (precedes.putSession ticket session)
      · rw [Pool.putSession]
        split <;> rfl
      · rw [Pool.putSession]
        split <;> rfl
  | reorders tasks =>
      apply agrees.still (precedes.reorder tasks)
      · rw [Pool.reorder]
        split <;> rfl
      · rw [Pool.reorder]
        split <;> rfl
  | stirs => exact agrees.still precedes.notifyOne rfl rfl

/-- What is true of every journal. -/
structure Kept (index : Nat) (journal : Journal) : Prop where
  possible : Possible journal.world
  sweeps : journal.jobs .checker = some .sweep
  fresh (caller : Nat) (later : journal.world.callers ≤ caller) :
    journal.jobs (.caller caller) = none
  unopened (beyond : journal.world.pools.length ≤ index) :
    journal.entries = [] ∧ journal.swept = ⟨0, 0⟩
  agrees (pool : Pool) (found : journal.world.pools[index]? = some pool) : journal.Agrees pool

theorem kept_new (index : Nat) : new.Kept index where
  possible := .new
  sweeps := rfl
  fresh _ _ := rfl
  unopened _ := ⟨rfl, rfl⟩
  agrees pool found := by cases found

theorem move_eq_note {move : Move} (found : journal.world.pools[index]? = some pool)
    (turns : journal.turn? index pool move = some (agent, job?, probes)) :
    journal.move index move =
      { journal.note agent job? probes ((move.event? journal.world).bind (Event.answer? index)) with
        world := journal.world.move move } := by
  simp only [Journal.move, found, Option.bind_some, turns]

theorem move_eq_self {move : Move}
    (still : (journal.world.pools[index]?).bind (journal.turn? index · move) = none) :
    journal.move index move = { journal with world := journal.world.move move } := by
  simp only [Journal.move, still]

/-- Only a call gives an agent another job, and that agent is new. -/
theorem jobs_move (journal : Journal) (index : Nat) (move : Move) :
    (journal.move index move).jobs = journal.jobs ∨
      journal.world.callers < (journal.world.move move).callers ∧ ∃ job?,
        (journal.move index move).jobs =
          Function.update journal.jobs (.caller journal.world.callers) job? := by
  cases turns : (journal.world.pools[index]?).bind (journal.turn? index · move) with
  | none =>
      rw [move_eq_self turns]
      exact .inl rfl
  | some works =>
      obtain ⟨agent, job?, probes⟩ := works
      obtain ⟨pool, found, turns⟩ := Option.bind_eq_some_iff.mp turns
      rw [move_eq_note found turns]
      rcases cases_of_turn? turns with
        ⟨request, job, rfl, accepted, asks, rfl, rfl, rfl⟩ | ⟨rfl, rfl, rfl⟩
      · right
        refine ⟨?_, _, rfl⟩
        obtain ⟨acting, _, callers, _, _, does⟩ := call_eq_work accepted asks
        change journal.world.callers < (journal.world.call request).1.callers
        rw [does, report, callers_callPool, callers]
        exact Nat.lt_succ_self _
      · left
        exact Function.update_eq_self _ _

namespace Kept

variable (kept : journal.Kept index)

include kept

/-- A call is noted. -/
theorem agrees_call (found : journal.world.pools[index]? = some pool) (job : Job) :
    let turn := journal.world.turn pool job
    (journal.note (.caller journal.world.callers) (some job) ⟨0, 0⟩ turn.2).Agrees
      turn.1.pool := by
  have sound : Sound journal.world.callers (journal.world.site pool).pool :=
    kept.possible.sound pool (List.mem_of_getElem? found)
  have agrees : journal.Agrees (journal.world.site pool).pool := kept.agrees pool found
  apply agrees.note kept.sweeps
  · exact Site.work_attends journal.world.callers job sound.idle_le_total
  · exact fun task present => ⟨present, sound.agent_ne_callers present⟩
  · rfl
  · exact nofun
  · exact Site.work_counts sound.backed journal.world.callers job

/-- The turn of an agent that goes on is noted. -/
theorem agrees_proceed (found : journal.world.pools[index]? = some pool) {task : Pool.Task}
    (waits : pool.task? task.agent = some task)
    (ready : pool.isReady journal.world.now task = true) :
    let turn := (journal.world.site pool).resume task.agent
    (journal.note task.agent (journal.jobs task.agent)
      (task.probesNext journal.world.server (journal.probed task.agent)) turn.2).Agrees
        turn.1.pool := by
  have sound : Sound journal.world.callers (journal.world.site pool).pool :=
    kept.possible.sound pool (List.mem_of_getElem? found)
  have agrees : journal.Agrees (journal.world.site pool).pool := kept.agrees pool found
  have present := List.mem_of_find?_eq_some waits
  have known := agrees.tasks task present
  have backed := sound.backed
  have goesOn : (journal.world.site pool).resume task.agent =
      ((journal.world.site pool).withPool (·.unpark task.agent)).proceed task.agent task.phase :=
    Site.resume_eq_proceed waits ready
  rw [goesOn]
  apply agrees.note kept.sweeps
  · apply Site.proceed_attends (.refl _) known.1 known.2
    · exact fun checkout inside => sound.agent_of_checkout present inside
    · exact sound.agent_of_resting present
    · exact sound.idle_le_total
  · intro other here
    exact ⟨List.mem_of_mem_eraseP here, sound.agent_ne waits other here⟩
  · rfl
  · intro own
    rw [own]
    exact kept.sweeps
  · refine Turn.Counts.after (Site.proceed_counts ?_ ?_ known.2 known.1) rfl rfl
    · exact backed.unpark task.agent
    · exact backed.waits task present

/-- So is the turn of whoever goes on if it can; an agent that cannot leaves nothing to note. -/
theorem agrees_resume (found : journal.world.pools[index]? = some pool) (agent : Agent) :
    let turn := (journal.world.site pool).resume agent
    (journal.note agent (journal.jobs agent)
      (pool.probesNext journal.world.now journal.world.server (journal.probed agent) agent)
        turn.2).Agrees turn.1.pool := by
  by_cases goes : ∃ task, pool.task? agent = some task ∧
      pool.isReady journal.world.now task = true
  · obtain ⟨task, waits, ready⟩ := goes
    obtain rfl := Pool.agent_of_task? waits
    have probes : pool.probesNext journal.world.now journal.world.server
        (journal.probed task.agent) task.agent =
        task.probesNext journal.world.server (journal.probed task.agent) := by
      rw [Pool.probesNext, waits]
      exact if_pos ready
    rw [probes]
    exact kept.agrees_proceed found waits ready
  · have stuck : (journal.world.site pool).resume agent = (journal.world.site pool, none) :=
      Site.resume_eq_self fun task waits ready => goes ⟨task, waits, ready⟩
    have probes : pool.probesNext journal.world.now journal.world.server (journal.probed agent)
        agent = journal.probed agent := by
      rw [Pool.probesNext]
      split
      case h_1 task waits => exact if_neg fun ready => goes ⟨task, waits, ready⟩
      case h_2 => rfl
    have quiet : journal.note agent (journal.jobs agent) (journal.probed agent) none = journal := by
      simp only [Journal.note, Function.update_eq_self]
      rfl
    rw [stuck, probes]
    change (journal.note agent (journal.jobs agent) (journal.probed agent) none).Agrees pool
    rw [quiet]
    exact kept.agrees pool found

theorem agrees_move (move : Move) {after : Pool}
    (foundAfter : (journal.world.move move).pools[index]? = some after) :
    (journal.move index move).Agrees after := by
  cases found : journal.world.pools[index]? with
  | none =>
      have beyond : journal.world.pools.length ≤ index := List.getElem?_eq_none_iff.mp found
      obtain ⟨config, rfl⟩ := (affects_move journal.world move).opened beyond foundAfter
      rw [move_eq_self (by rw [found]; rfl)]
      apply Agrees.inWorld
      apply agrees_prewarm config rfl kept.sweeps
      · exact kept.fresh _ (Nat.le_refl _)
      · exact kept.unopened beyond
  | some pool =>
      cases turns : journal.turn? index pool move with
      | some works =>
          obtain ⟨agent, job?, probes⟩ := works
          rw [move_eq_note found turns]
          apply Agrees.inWorld
          rcases cases_of_turn? turns with
            ⟨request, job, rfl, accepted, asks, rfl, rfl, rfl⟩ | ⟨rfl, rfl, rfl⟩
          · obtain ⟨now, _, event⟩ := call_turn accepted asks found
            have answer : (Move.event? journal.world (.act (.call request))).bind
                (Event.answer? index) = (journal.world.turn pool job).2 := by
              rw [← answer?_ending index (.caller journal.world.callers), ← event]
              rfl
            obtain rfl := Option.some.inj (now.symm.trans foundAfter)
            rw [answer]
            exact kept.agrees_call found job
          · obtain ⟨now, _, event⟩ := resume_turn agent found
            have answer : (Move.event? journal.world (.act (.resume (.inPool index agent)))).bind
                (Event.answer? index) = ((journal.world.site pool).resume agent).2 := by
              rw [← answer?_ending index agent, ← event]
              rfl
            obtain rfl := Option.some.inj (now.symm.trans foundAfter)
            rw [answer]
            exact kept.agrees_resume found agent
      | none =>
          rw [move_eq_self (by rw [found]; exact turns)]
          apply Agrees.inWorld
          obtain ⟨left, foundLeft, happens⟩ := becomes_move found move
          obtain rfl := Option.some.inj (foundLeft.symm.trans foundAfter)
          exact agrees_of_happens happens turns (kept.agrees pool found)

/-- The journal stays true. -/
theorem move (move : Move) : (journal.move index move).Kept index where
  possible := by
    have same : (journal.move index move).world = journal.world.move move := rfl
    rw [same]
    exact kept.possible.move move
  sweeps := by
    rcases journal.jobs_move index move with same | ⟨_, job?, called⟩
    · rw [same]
      exact kept.sweeps
    · have other : Agent.checker ≠ .caller journal.world.callers := nofun
      rw [called, Function.update_of_ne other]
      exact kept.sweeps
  fresh caller later := by
    have more : (journal.world.move move).callers ≤ caller := later
    have earlier := (affects_move journal.world move).callers_le
    rcases journal.jobs_move index move with same | ⟨counted, job?, called⟩
    · rw [same]
      exact kept.fresh caller (Nat.le_trans earlier more)
    · have other : Agent.caller caller ≠ .caller journal.world.callers := by
        intro same
        have equal := Agent.caller.inj same
        omega
      rw [called, Function.update_of_ne other]
      exact kept.fresh caller (Nat.le_trans earlier more)
  unopened beyond := by
    have before : journal.world.pools[index]? = none := by
      cases found : journal.world.pools[index]? with
      | none => rfl
      | some pool =>
          obtain ⟨after, foundAfter, _⟩ := becomes_move found move
          exact absurd (List.getElem?_eq_some_iff.mp foundAfter).1 (Nat.not_lt_of_le beyond)
    rw [move_eq_self (by rw [before]; rfl)]
    exact kept.unopened (List.getElem?_eq_none_iff.mp before)
  agrees _ found := kept.agrees_move move found

end Kept

/-- Every journal is true. -/
theorem kept_run (index : Nat) (moves : List Move) : (run index moves).Kept index := by
  have goesOn {journal : Journal} (kept : journal.Kept index) :
      (moves.foldl (Journal.move index) journal).Kept index := by
    induction moves generalizing journal with
    | nil => exact kept
    | cons move rest ih => exact ih (kept.move move)
  exact goesOn (kept_new index)

/-! ### The metrics -/

/-- The metrics of a pool say what has happened. -/
structure Conserves (journal : Journal) (pool : Pool) : Prop where
  /-- As long as the pool exists, every connection that has been made or given to it has been
  disposed of or kept by the owner of a lease, or is in the pool. -/
  connections (present : pool.isPresent = true) :
    pool.counters.connectionsCreated + journal.entries.countP Entry.isAdopted =
      pool.counters.connectionsClosed + journal.entries.countP Entry.isDetached +
        pool.idle.length + pool.active.length + pool.validating
  /-- Every checkout that is over is counted, but those that did not want to wait and got
  nothing. -/
  checkouts : pool.counters.checkoutsSuccessful + pool.counters.checkoutsFailed +
    journal.entries.countP Entry.isDeclined = journal.entries.countP Entry.isCheckout
  successful : pool.counters.checkoutsSuccessful = journal.entries.countP Entry.isLent
  timeouts : pool.counters.timeouts = journal.entries.countP Entry.isTimeout
  performed : pool.counters.healthChecksPerformed = journal.swept.made
  failed : pool.counters.healthChecksFailed = journal.swept.failed

theorem Agrees.conserves (agrees : journal.Agrees pool) : journal.Conserves pool where
  connections present := by
    have surplus := agrees.surplus present
    rw [Pool.surplus] at surplus
    omega
  checkouts := by
    rw [agrees.successful, agrees.refused, Entry.countP_isCheckout agrees.fits]
  successful := agrees.successful
  timeouts := agrees.timeouts
  performed := agrees.performed
  failed := agrees.dead

/-- The metrics of every pool say what has happened to it, after every run. -/
theorem metrics_run (index : Nat) (moves : List Move) (pool : Pool)
    (found : (run index moves).world.pools[index]? = some pool) :
    (run index moves).Conserves pool :=
  ((kept_run index moves).agrees pool found).conserves

/-- A day in the life of a pool: two connections are made, one is lent, kept by its owner and then
given back as a present, the other dies, and of those who ask for more one leaves with nothing and
one waits for too long. -/
def everyday : List Move :=
  let config : Config := { Config.default with
    minConnections := 1, maxConnections := 2, testOnBorrow := false, testOnReturn := false }
  [.act (.call (.openPool config)), .act (.resume (.inPool 0 (.caller 0))), .act (.call (.get 0)),
    .act (.call (.tryGet 0)), .act (.resume (.inPool 0 (.caller 2))), .act (.call (.tryGet 0)),
    .act (.call (.acquire 0 5)), .act (.passTo 5), .act (.resume (.inPool 0 (.caller 4))),
    .act (.call (.detach ⟨0, 1⟩)), .act (.call (.adopt 0 1)), .act (.call (.release ⟨0, 2⟩)),
    .act (.instruct (.kill 2)), .act (.call (.healthCheck 0)),
    .act (.resume (.inPool 0 (.caller 8))), .act (.resume (.inPool 0 (.caller 8)))]

theorem metrics_run_everyday :
    let journal := run 0 everyday
    ∃ pool, journal.world.pools[0]? = some pool ∧ pool.isPresent = true ∧
      pool.counters = ⟨2, 1, 2, 1, 1, 2, 1⟩ ∧ journal.entries.countP Entry.isAdopted = 1 ∧
      journal.entries.countP Entry.isDetached = 1 ∧ journal.entries.countP Entry.isDeclined = 1 ∧
      journal.Conserves pool := by
  intro journal
  have found : journal.world.pools[0]? = some (journal.world.pools.head (by decide)) := by decide
  exact ⟨_, found, by decide, by decide, by decide, by decide, by decide,
    metrics_run 0 everyday _ found⟩

end Journal

end World

end SessionPool

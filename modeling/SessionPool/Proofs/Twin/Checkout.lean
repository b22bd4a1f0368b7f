import SessionPool.Proofs.Duty.Run
import SessionPool.Proofs.Twin.Turns

/-!
# Checkouts in twins

A caller that does not want to wait, and one whose time is over before it has begun, look for a
connection in the same way. They part only where nothing is idle and there is no room: there the one
is told that nothing is free, the other that its time has run out, and nobody goes to sleep.
-/

namespace SessionPool

namespace Pool

/-- An agent that waits for the server in the middle of a checkout, and would not wait for anybody
else. -/
structure Task.Hasty (task : Task) : Prop where
  awake : task.isWaiting = false
  inside : ∃ checkout, task.checkout? = some checkout ∧ checkout.patience = .never

/-- Whether an answer says that there was no connection, to a caller that would not wait. -/
def Answer.isBusy : Answer → Bool
  | .ok .noneFree | .error (.timedOut _) => true
  | _ => false

end Pool

/-- A turn after which a caller waits for the server, or has been told something else than that
there was no connection. -/
structure Turn.Hastens (turn : Turn) (caller : Nat) : Prop where
  tasks (task : Pool.Task) (present : task ∈ turn.1.pool.tasks)
    (own : task.agent = .caller caller) : turn.2 = none ∧ task.Hasty
  answers (answer : Pool.Answer) (ended : turn.2 = some answer) : answer.isBusy = false

namespace Site

open Pool (Agent Phase Task Checkout Patience Answer)

/-- A caller that finds nothing is told so, or goes to sleep. -/
def findNothing (site : Site) (checkout : Checkout) : Turn :=
  match checkout.patience with
  | .never => site.decline
  | .upTo deadline =>
      if deadline ≤ site.now then site.refuse (.timedOut (site.now - checkout.started))
      else site.wait (.caller checkout.caller) (.waiting checkout false) (some deadline)
  | .endless => site.wait (.caller checkout.caller) (.waiting checkout false) none

/-- A caller that did not wait already does so after its turn. -/
theorem wait_hastens {site : Site} {caller : Nat} {phase : Phase} {due : Option Nat}
    (alone : ∀ task ∈ site.pool.tasks, task.agent ≠ .caller caller)
    (hasty : (Task.mk (.caller caller) phase due).Hasty) :
    (site.wait (.caller caller) phase due).Hastens caller where
  tasks task present own := by
    rcases List.mem_append.mp present with old | last
    · exact absurd own (alone task old)
    · rw [List.mem_singleton.mp last]
      exact ⟨rfl, hasty⟩
  answers _ ended := nomatch ended

end Site

namespace Twin

open Pool (Agent Phase Task Checkout Patience Job Sound)

variable (twin : Twin) (given : Site)

/-- The twin in which one more call has been counted as timed out. -/
def later : Twin := { twin with late := twin.late + 1 }

/-- How a turn goes in the twin. Either it goes the same way, or it is that of the caller, which is
told that nothing is free, and in the twin that its time has run out. -/
inductive Agrees (own : Prop) : Turn → Turn → Prop where
  | same {turn : Turn} (hastens : own → turn.Hastens twin.caller) : Agrees own turn (twin.turn turn)
  | busy {site : Site} (waited : Nat) (mine : own)
      (alone : ∀ task ∈ site.pool.tasks, task.agent ≠ .caller twin.caller) :
      Agrees own (site.answer (.ok .noneFree))
        ((twin.later.site site).answer (.error (.timedOut waited)))

variable {twin given}

/-- The turns of others go the same way. -/
theorem Agrees.eq_turn {own : Prop} {turn turnToo : Turn} (agrees : twin.Agrees own turn turnToo)
    (other : ¬ own) : turnToo = twin.turn turn := by
  cases agrees with
  | same => rfl
  | busy waited mine alone => exact absurd mine other

theorem Agrees.congr {own ownToo : Prop} {turn turnToo : Turn}
    (agrees : twin.Agrees own turn turnToo) (same : own ↔ ownToo) :
    twin.Agrees ownToo turn turnToo := by
  rwa [← propext same]

theorem agrees_ite {own c : Prop} [Decidable c] {yes no yesToo noToo : Turn}
    (whenYes : c → twin.Agrees own yes yesToo) (whenNo : ¬ c → twin.Agrees own no noToo) :
    twin.Agrees own (if c then yes else no) (if c then yesToo else noToo) := by
  split
  · exact whenYes ‹_›
  · exact whenNo ‹_›

theorem agrees_of_eq {own : Prop} {turn turnToo : Turn} (same : turnToo = twin.turn turn)
    (hastens : own → turn.Hastens twin.caller) : twin.Agrees own turn turnToo := by
  rw [same]
  exact .same hastens

/-- The caller is in the middle of a checkout. It does not wait, its deadline in the twin is over,
and it is not waiting already. -/
structure Hurried (twin : Twin) (site : Site) (checkout : Checkout) : Prop where
  patience : checkout.patience = .never
  passed : twin.deadline ≤ site.now
  alone : ∀ task ∈ site.pool.tasks, task.agent ≠ .caller twin.caller

variable {checkout : Checkout}

theorem Hurried.of_tasks {site : Site} (hurried : twin.Hurried given checkout)
    (now : site.now = given.now) (tasks : site.pool.tasks = given.pool.tasks) :
    twin.Hurried site checkout where
  patience := hurried.patience
  passed := now ▸ hurried.passed
  alone := tasks ▸ hurried.alone

/-- The caller has been told what everybody would have been told. -/
theorem agrees_of_answer {own : Prop} {turn turnToo : Turn} {answer : Pool.Answer}
    (same : turnToo = twin.turn turn) (ended : turn.2 = some answer) (told : answer.isBusy = false)
    (alone : own → ∀ task ∈ turn.1.pool.tasks, task.agent ≠ .caller twin.caller) :
    twin.Agrees own turn turnToo := by
  apply agrees_of_eq same
  intro mine
  constructor
  · exact fun task present own => absurd own (alone mine task present)
  · exact fun _ also => Option.some.inj (ended.symm.trans also) ▸ told

theorem lend_agrees (connection : Connection)
    (alone : checkout.caller = twin.caller →
      ∀ task ∈ given.pool.tasks, task.agent ≠ .caller twin.caller) :
    twin.Agrees (checkout.caller = twin.caller) (given.lend checkout connection)
      ((twin.site given).lend (twin.checkout checkout) connection) := by
  refine agrees_of_answer ?_ rfl rfl alone
  rw [Site.lend, caller_checkout]
  rfl

theorem refuse_agrees {own : Prop} (error : PoolError)
    (told : Pool.Answer.isBusy (.error error) = false)
    (alone : own → ∀ task ∈ given.pool.tasks, task.agent ≠ .caller twin.caller) :
    twin.Agrees own (given.refuse error) ((twin.site given).refuse error) :=
  agrees_of_answer (twin.refuse_site given error) rfl told alone

/-- The caller waits for the server as everybody would. -/
theorem wait_agrees {phase : Phase} (due : Option Nat)
    (awake : (Task.mk (.caller checkout.caller) phase due).isWaiting = false)
    (inside : (Task.mk (.caller checkout.caller) phase due).checkout? = some checkout)
    (own : checkout.caller = twin.caller → twin.Hurried given checkout) :
    twin.Agrees (checkout.caller = twin.caller) (given.wait (.caller checkout.caller) phase due)
      ((twin.site given).wait (.caller (twin.checkout checkout).caller) (twin.phase phase)
        due) := by
  rw [caller_checkout]
  apply agrees_of_eq (twin.wait_site given _ phase due)
  intro mine
  have hurried := own mine
  rw [mine] at awake inside ⊢
  exact Site.wait_hastens hurried.alone ⟨awake, checkout, inside, hurried.patience⟩

theorem findNothing_agrees (own : checkout.caller = twin.caller → twin.Hurried given checkout) :
    twin.Agrees (checkout.caller = twin.caller) (given.findNothing checkout)
      ((twin.site given).findNothing (twin.checkout checkout)) := by
  by_cases mine : checkout.caller = twin.caller
  · obtain ⟨patience, passed, alone⟩ := own mine
    obtain ⟨caller, started, patient⟩ := checkout
    obtain rfl : patient = .never := patience
    have hurries : twin.checkout ⟨caller, started, .never⟩ =
        ⟨caller, started, .upTo twin.deadline⟩ := if_pos mine
    rw [hurries, Site.findNothing, Site.findNothing]
    dsimp only
    rw [if_pos (show twin.deadline ≤ (twin.site given).now from passed)]
    exact .busy (given.now - started) mine alone
  · have waits (due : Option Nat) :
        (twin.site given).wait (.caller checkout.caller) (.waiting checkout false) due =
          twin.turn (given.wait (.caller checkout.caller) (.waiting checkout false) due) := by
      have same := twin.wait_site given (.caller checkout.caller) (.waiting checkout false) due
      rwa [phase, checkout_eq_self twin mine] at same
    rw [checkout_eq_self twin mine, Site.findNothing, Site.findNothing]
    cases checkout.patience with
    | never => exact agrees_of_eq rfl fun own => absurd own mine
    | upTo deadline =>
        apply agrees_ite
        · exact fun _ => agrees_of_eq (twin.refuse_site given _) fun own => absurd own mine
        · exact fun _ => agrees_of_eq (waits _) fun own => absurd own mine
    | endless => exact agrees_of_eq (waits none) fun own => absurd own mine

theorem seek_agrees (own : checkout.caller = twin.caller → twin.Hurried given checkout) :
    twin.Agrees (checkout.caller = twin.caller) (given.seek checkout)
      ((twin.site given).seek (twin.checkout checkout)) := by
  have idle : (twin.site given).pool.idle = given.pool.idle := rfl
  have alone (mine : checkout.caller = twin.caller) := (own mine).alone
  rw [Site.seek, Site.seek]
  dsimp only
  apply agrees_ite
  · intro _
    exact refuse_agrees .shutDown rfl alone
  · intro _
    rw [idle]
    cases given.pool.idle with
    | cons connection rest =>
        apply agrees_ite
        · intro _
          apply wait_agrees _ rfl rfl
          exact fun mine => (own mine).of_tasks rfl rfl
        · intro _
          apply lend_agrees
          exact alone
    | nil =>
        apply agrees_ite
        · intro _
          apply wait_agrees _ rfl rfl
          exact fun mine => (own mine).of_tasks rfl rfl
        · intro _
          exact findNothing_agrees own

theorem borrowProbed_agrees (connection : Connection)
    (own : checkout.caller = twin.caller → twin.Hurried given checkout) :
    twin.Agrees (checkout.caller = twin.caller) (given.borrowProbed checkout connection)
      ((twin.site given).borrowProbed (twin.checkout checkout) connection) := by
  have alone (mine : checkout.caller = twin.caller) := (own mine).alone
  let released : Site := { given with pool := { given.pool with
    active := given.pool.active.erase connection.id
    total := given.pool.total - 1 } }
  rw [Site.borrowProbed, Site.borrowProbed]
  dsimp only
  apply agrees_ite
  · exact fun _ => lend_agrees connection alone
  · intro _
    apply agrees_ite
    · intro _
      apply refuse_agrees _ rfl
      exact alone
    · intro _
      apply seek_agrees
      exact fun mine => (own mine).of_tasks rfl rfl

theorem checkoutConnected_agrees (metadata : Metadata) (attempt : Attempt)
    (own : checkout.caller = twin.caller → twin.Hurried given checkout) :
    twin.Agrees (checkout.caller = twin.caller) (given.checkoutConnected checkout metadata attempt)
      ((twin.site given).checkoutConnected (twin.checkout checkout) metadata attempt) := by
  have alone (mine : checkout.caller = twin.caller) := (own mine).alone
  rcases finished : given.server.finishConnect attempt with ⟨server, error | session⟩
  all_goals
    have finishedToo : (twin.site given).server.finishConnect attempt = _ := finished
    simp only [Site.checkoutConnected, Site.connected, finished, finishedToo]
  · let told : Site := ⟨given.now, server,
      { given.pool with total := given.pool.total - 1 }.notifyOne⟩
    have same : twin.site told = ⟨given.now, server, _⟩ := (twin.notified given.now server
      { given.pool with total := given.pool.total - 1 }).symm
    change twin.Agrees _ (told.refuse (.creationFailed error)) (Site.refuse ⟨given.now, server,
      (twin.pool { given.pool with total := given.pool.total - 1 }).notifyOne⟩ _)
    rw [← same]
    apply refuse_agrees _ rfl
    intro mine task present
    obtain ⟨earlier, known, rfl | rfl⟩ := (Pool.Precedes.refl _).notifyOne.old task present
    · exact alone mine _ known
    · rw [earlier.agent_notify]
      exact alone mine earlier known
  · apply agrees_ite
    · intro _
      apply refuse_agrees _ rfl
      exact alone
    · intro _
      apply lend_agrees
      exact alone

/-- Whoever begins a checkout. -/
theorem checkout_agrees {caller : Nat} {patience patienceToo : Patience}
    (same : twin.checkout ⟨caller, given.now, patience⟩ = ⟨caller, given.now, patienceToo⟩)
    (own : caller = twin.caller → twin.Hurried given ⟨caller, given.now, patience⟩) :
    twin.Agrees (caller = twin.caller) (given.checkout caller patience)
      ((twin.site given).checkout caller patienceToo) := by
  have alone (mine : caller = twin.caller) := (own mine).alone
  rw [Site.checkout, Site.checkout]
  apply agrees_ite
  · intro _
    refine agrees_of_answer ?_ rfl rfl alone
    have counted := twin.counters_failed given.pool.counters .shutDown
    simp only [turn, site, pool, Site.answer, Site.withPool, Pool.count, counted]
  · intro _
    let entered : Site := { given with pool := { given.pool with
      waiting := given.pool.waiting + 1 } }
    let checkout : Checkout := ⟨caller, given.now, patience⟩
    have looks : twin.Agrees (checkout.caller = twin.caller) (entered.seek checkout)
        ((twin.site entered).seek (twin.checkout checkout)) :=
      seek_agrees fun mine => (own mine).of_tasks rfl rfl
    rw [same] at looks
    exact looks

/-! ### Turns of others -/

variable {caller : Nat} (other : caller ≠ twin.caller)

include other

/-- Every other caller begins its checkout as it would in the twin. -/
theorem checkout_site (patience : Patience) :
    (twin.site given).checkout caller patience = twin.turn (given.checkout caller patience) := by
  have same : twin.checkout ⟨caller, given.now, patience⟩ = ⟨caller, given.now, patience⟩ :=
    checkout_eq_self twin other
  exact (checkout_agrees same fun mine => absurd mine other).eq_turn other

theorem work_site (job : Job) : job.work caller (twin.site given) =
    twin.turn (job.work caller given) := by
  have back (ticket : Nat) (connection : Connection) :
      ((twin.site given).withPool (·.endLease ticket)).takeBack (.caller caller) connection =
        twin.turn ((given.withPool (·.endLease ticket)).takeBack (.caller caller) connection) :=
    twin.takeBack_site (given.withPool (·.endLease ticket)) _ connection
  cases job with
  | acquire timeout => exact checkout_site other _
  | get => exact checkout_site other _
  | tryGet => exact checkout_site other _
  | adopt session => exact twin.adopt_site given session
  | sweep => exact twin.sweep_site given _
  | shutdown thenDrop => exact twin.shutdown_site given _ thenDrop
  | release ticket | invalidate ticket | discard ticket =>
      have same : (twin.site given).pool.lease? ticket = given.pool.lease? ticket := rfl
      simp only [Job.work, Site.release, Site.invalidate, Site.discard, same]
      split
      · rfl
      · exact back ticket _
  | detach ticket => exact twin.detach_site given ticket
  | execute ticket statement =>
      exact twin.throughLease_site given ticket (·.execute · statement) .rows
  | query ticket statement => exact twin.throughLease_site given ticket (·.query · statement) .texts

omit other

/-! ### Going on -/

/-- An agent goes on in the twin as it would here. -/
theorem proceed_agrees {task : Task} (own : ∀ checkout, task.checkout? = some checkout →
      checkout.caller = twin.caller → twin.Hurried given checkout) :
    twin.Agrees (∃ checkout, task.checkout? = some checkout ∧ checkout.caller = twin.caller)
      (given.proceed task.agent task.phase)
      ((twin.site given).proceed task.agent (twin.phase task.phase)) := by
  obtain ⟨agent, phase, due⟩ := task
  have outside {turn turnToo : Turn} (same : turnToo = twin.turn turn)
      (none : (Task.mk agent phase due).checkout? = none) :
      twin.Agrees (∃ checkout, (Task.mk agent phase due).checkout? = some checkout ∧
        checkout.caller = twin.caller) turn turnToo := by
    apply agrees_of_eq same
    rintro ⟨checkout, inside, _⟩
    rw [none] at inside
    cases inside
  have within {checkout : Checkout} {turn turnToo : Turn}
      (agrees : twin.Agrees (checkout.caller = twin.caller) turn turnToo)
      (inside : (Task.mk agent phase due).checkout? = some checkout) :
      twin.Agrees (∃ checkout, (Task.mk agent phase due).checkout? = some checkout ∧
        checkout.caller = twin.caller) turn turnToo := by
    apply agrees.congr
    constructor
    · exact fun mine => ⟨checkout, inside, mine⟩
    · rintro ⟨_, also, mine⟩
      rw [inside] at also
      cases also
      exact mine
  cases phase with
  | prewarming made metadata attempt =>
      exact outside (twin.prewarmConnected_site given agent made metadata attempt) rfl
  | connecting checkout metadata attempt =>
      exact within (checkoutConnected_agrees metadata attempt (own checkout rfl)) rfl
  | borrowProbe checkout connection =>
      exact within (borrowProbed_agrees connection (own checkout rfl)) rfl
  | waiting checkout notified => exact within (seek_agrees (own checkout rfl)) rfl
  | returnProbe connection => exact outside (twin.returnProbed_site given connection) rfl
  | sweeping sweep connection pending =>
      exact outside (twin.sweepProbed_site given agent sweep connection pending) rfl
  | resting => exact outside (twin.wake_site given) rfl
  | joining thenDrop => exact outside (twin.drain_site given thenDrop) rfl

/-- Every agent goes on in the twin as it would here, as long as the caller is in haste. -/
theorem resume_agrees {callers : Nat} (sound : Sound callers given.pool)
    (passed : twin.deadline ≤ given.now)
    (hasty : ∀ task ∈ given.pool.tasks, task.agent = .caller twin.caller → task.Hasty)
    (agent : Agent) :
    twin.Agrees (agent = .caller twin.caller) (given.resume agent)
      ((twin.site given).resume agent) := by
  have found : (twin.site given).pool.task? agent = (given.pool.task? agent).map twin.task :=
    twin.task?_pool given.pool agent
  rw [Site.resume, Site.resume, found]
  have stays : twin.Agrees (agent = .caller twin.caller) (given, none) (twin.site given, none) := by
    apply agrees_of_eq rfl
    intro _
    refine ⟨fun task present own => ⟨rfl, hasty task present own⟩, ?_⟩
    exact fun answer ended => absurd ended.symm (Option.some_ne_none answer)
  cases known : given.pool.task? agent with
  | none => exact stays
  | some task =>
      have present := List.mem_of_find?_eq_some known
      obtain rfl : task.agent = agent := Pool.agent_of_task? known
      have ready : ((twin.site given).pool.isReady (twin.site given).now (twin.task task)) =
          given.pool.isReady given.now task := twin.isReady_pool given.pool given.now task
      have gone : (twin.site given).withPool (·.unpark task.agent) =
          twin.site (given.withPool (·.unpark task.agent)) :=
        congrArg (Site.mk given.now given.server) (twin.unpark_pool given.pool task.agent)
      rw [Option.map_some]
      dsimp only
      rw [ready, gone]
      apply agrees_ite _ fun _ => stays
      intro _
      let left : Site := given.withPool (·.unpark task.agent)
      have goes : twin.Agrees
          (∃ checkout, task.checkout? = some checkout ∧ checkout.caller = twin.caller)
          (left.proceed task.agent task.phase)
          ((twin.site left).proceed task.agent (twin.phase task.phase)) := by
        apply proceed_agrees
        intro checkout inside mine
        have own : task.agent = .caller twin.caller := by
          rw [sound.agent_of_checkout present inside, mine]
        obtain ⟨_, also, patience⟩ := (hasty task present own).inside
        rw [inside] at also
        cases also
        refine ⟨patience, passed, ?_⟩
        rw [← own]
        exact sound.agent_ne known
      apply goes.congr
      constructor
      · rintro ⟨checkout, inside, mine⟩
        rw [sound.agent_of_checkout present inside, mine]
      · intro own
        obtain ⟨checkout, inside, _⟩ := (hasty task present own).inside
        refine ⟨checkout, inside, ?_⟩
        rw [sound.agent_of_checkout present inside] at own
        exact Agent.caller.inj own

/-- The caller begins. One does not want to wait, the other not beyond this moment. -/
theorem tryGet_agrees (given : Site) (caller : Nat) (early : given.now < Instant.horizon)
    (alone : ∀ task ∈ given.pool.tasks, task.agent ≠ .caller caller) :
    (Twin.mk caller given.now 0).Agrees True (given.tryGet caller)
      (((Twin.mk caller given.now 0).site given).acquire caller 0) := by
  have deadline : Patience.ofTimeout given.now 0 = .upTo given.now := by
    rw [Patience.ofTimeout, Instant.after?_eq_some_iff.mpr ⟨early, rfl⟩]
    rfl
  have agrees : (Twin.mk caller given.now 0).Agrees (caller = caller) (given.tryGet caller)
      (((Twin.mk caller given.now 0).site given).acquire caller 0) := by
    apply checkout_agrees
    · change Twin.checkout _ _ = Checkout.mk caller given.now (.ofTimeout given.now 0)
      rw [deadline]
      exact if_pos rfl
    · exact fun _ => ⟨rfl, Nat.le_refl _, alone⟩
  exact agrees.congr (iff_of_true rfl trivial)

end Twin

end SessionPool

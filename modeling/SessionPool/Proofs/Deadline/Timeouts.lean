import SessionPool.Proofs.Duty.Run
import SessionPool.Proofs.Outcome.Refusal

/-!
# Timeouts

Where time passes only when nobody can go on, a caller that sleeps looks at the pool again at its
deadline at the latest. It is told that its time has run out only when it looks, finds nothing, and
has reached its deadline. If no time has passed over probes of connections that turned out to be
dead, it never looks later than that. So it is told at the deadline exactly, however often it has
been woken before.
-/

namespace SessionPool

namespace Pool

/-- What is known of a caller in the middle of its checkout: unless connections have been probed for
it for some time, it borrows none after its deadline. -/
structure Task.Keeps (checkout : Checkout) (now probing : Nat) (task : Task) : Prop where
  inside : task.checkout? = some checkout
  prompt (deadline : Nat) (patience : checkout.patience = .upTo deadline)
    (borrows : task.isBorrowing = true) (none : probing = 0) : now ≤ deadline

/-- A checkout can be told at `now` that it has waited too long. -/
structure Checkout.Expires (checkout : Checkout) (now probing waited : Nat) : Prop where
  waited_eq : waited = now - checkout.started
  late : ∃ deadline, checkout.patience = .upTo deadline ∧ deadline ≤ now ∧
    (probing = 0 → now = deadline)

/-- If an answer says that the caller has waited too long, this is so. -/
def Answer.Expires (checkout : Checkout) (now probing : Nat) (answer : Answer) : Prop :=
  ∀ waited, answer = .error (.timedOut waited) → checkout.Expires now probing waited

variable {checkout : Checkout} {now probing : Nat} {task : Task}

theorem Task.Keeps.notify (keeps : task.Keeps checkout now probing) :
    task.notify.Keeps checkout now probing where
  inside := Task.checkout?_notify.trans keeps.inside
  prompt deadline patience borrows :=
    keeps.prompt deadline patience (task.isBorrowing_notify ▸ borrows)

/-- Whoever looks for a connection by its deadline, unless connections have been probed for it for
some time, is told at the deadline if at all, and borrows no connection later. -/
theorem keeps_of_leads {turn : Turn} {before : Pool}
    (leads : turn.Leads before checkout.Waits (checkout.Gives now))
    (early : ∀ deadline, checkout.patience = .upTo deadline → probing = 0 → now ≤ deadline) :
    turn.Leads before (Task.Keeps checkout now probing) (Answer.Expires checkout now probing) := by
  apply leads.mono
  · exact fun task waits =>
      { inside := waits.2, prompt := fun deadline patience _ => early deadline patience }
  · rintro answer gives waited rfl
    cases gives with
    | timedOut deadline patience late =>
        refine ⟨rfl, deadline, patience, late, ?_⟩
        exact fun none => Nat.le_antisymm (early deadline patience none) late

end Pool

namespace Site

open Pool (Agent Task Checkout Precedes)

variable {site : Site} {checkout : Checkout} {probing : Nat}

/-- A caller that arrives looks before its deadline. -/
theorem acquire_keeps (caller timeout : Nat) :
    let checkout : Checkout := ⟨caller, site.now, .ofTimeout site.now timeout⟩
    (site.acquire caller timeout).Leads site.pool (Task.Keeps checkout site.now probing)
      (Pool.Answer.Expires checkout site.now probing) := by
  apply Pool.keeps_of_leads (checkout_leads (.refl _) _ _)
  intro deadline patience _
  change Pool.Patience.ofTimeout site.now timeout = .upTo deadline at patience
  rw [Pool.Patience.ofTimeout] at patience
  split at patience
  case h_1 comes =>
    have same := (Instant.after?_eq_some_iff.mp comes).2
    cases patience
    omega
  case h_2 => contradiction

/-- A caller that goes on in the middle of its checkout looks by its deadline. -/
theorem resume_keeps (timely : ∀ task ∈ site.pool.tasks, task.Timely site.now)
    (keeps : ∀ task ∈ site.pool.tasks, task.agent = .caller checkout.caller →
      task.Keeps checkout site.now probing) :
    (site.resume (.caller checkout.caller)).Leads site.pool
      (Task.Keeps checkout site.now probing)
      (Pool.Answer.Expires checkout site.now probing) := by
  apply resume_leads
  intro task found _
  have present := List.mem_of_find?_eq_some found
  have own := keeps task present (Pool.agent_of_task? found)
  have gone : site.pool.Precedes (site.withPool (·.unpark (.caller checkout.caller))).pool :=
    (Precedes.refl site.pool).unpark _
  have waits := timely task present
  obtain ⟨agent, phase, due⟩ := task
  have inside := own.inside
  cases phase with
  | connecting _ metadata attempt =>
      cases inside
      apply checkoutConnected_leads gone
      · exact fun _ => nofun
      · exact nofun
      · exact fun _ => nofun
  | borrowProbe _ connection =>
      cases inside
      apply Pool.keeps_of_leads (borrowProbed_leads gone connection)
      exact fun deadline patience => own.prompt deadline patience rfl
  | waiting _ notified =>
      cases inside
      apply Pool.keeps_of_leads (seek_leads gone)
      intro deadline patience _
      apply waits.now_le
      rw [waits.waiting checkout notified rfl, patience]
      rfl
  | _ => cases inside

end Site

namespace World

open Pool (Agent Task Checkout Sound Precedes)

/-! ### Prompt worlds -/

/-- Whether nobody is slow in a move: time passes only when everybody waits. -/
def Move.isPrompt : Move → Bool
  | .elapse _ => false
  | _ => true

/-- The worlds that moves can lead to in which nobody is slow. -/
inductive Prompt : World → Prop where
  | new : Prompt World.new
  | move {world : World} (before : Prompt world) {move : Move} (prompt : move.isPrompt = true) :
      Prompt (world.move move)

/-- In a run nobody is slow. -/
theorem Reachable.prompt {world : World} (reachable : Reachable world) : Prompt world := by
  induction reachable with
  | new => exact .new
  | step _ action prompt =>
      have calm : Move.isPrompt (.act action) = true := rfl
      exact prompt.move calm

variable {world : World}

theorem Prompt.possible (prompt : Prompt world) : Possible world := by
  induction prompt with
  | new => exact .new
  | move _ _ possible => exact possible.move _

/-- Where nobody is slow, time passes only in a move that is made for it. -/
theorem Move.now_eq (world : World) {move : Move} (prompt : move.isPrompt = true) :
    (world.move move).now = world.now ∨ ∃ instant, move = .act (.passTo instant) := by
  cases move with
  | act action =>
      cases action with
      | call request => exact .inl (now_call _ _)
      | resume thread => exact .inl (now_resume _ _)
      | instruct command => exact .inl rfl
      | passTo instant => exact .inr ⟨instant, rfl⟩
  | elapse duration => cases prompt
  | _ => exact .inl rfl

theorem Prompt.timely (prompt : Prompt world) :
    ∀ pool ∈ world.pools, pool.All pool.config (Task.Timely world.now) := by
  induction prompt with
  | new => simp [World.new]
  | @move world before move prompt ih =>
      rcases Move.now_eq world prompt with same | ⟨instant, rfl⟩
      · rw [same]
        exact (affects_move world move).all (fun _ _ => .timely (Nat.le_refl _) _ _) ih
      · exact timely_passTo instant ih

/-! ### Vigils -/

/-- The moment in which a caller is told that its time has run out. -/
structure Refusal where
  time : Nat
  /-- How long it has waited, as it is told. -/
  waited : Nat
  /-- The pool as the call leaves it. -/
  pool : Pool
  /-- For how long connections have been probed that the caller was to get. -/
  probing : Nat
deriving DecidableEq, Repr

/-- A run in which one watches a caller. -/
structure Vigil where
  world : World
  /-- For how long connections have been probed that the caller was to get. -/
  probing : Nat
  refusals : List Refusal

/-- Whether a connection is being probed that a caller of a pool is to get. -/
def isProbing (world : World) (index caller : Nat) : Bool :=
  match world.pools[index]? with
  | some pool => pool.tasks.any fun task => task.agent == .caller caller && task.isBorrowing
  | none => false

/-- How long the caller of a pool has waited, if it is told now that this was too long. -/
def timedOut? (index caller : Nat) : Option Event → Option Nat
  | some ⟨.inPool place (.caller number), .error (.pool (.timedOut waited))⟩ =>
      if place = index ∧ number = caller then some waited else none
  | _ => none

namespace Vigil

/-- Begin to watch. -/
def start (world : World) : Vigil := ⟨world, 0, []⟩

/-- Watch a caller of a pool for one move more. -/
def move (index caller : Nat) (vigil : Vigil) (move : Move) : Vigil :=
  let world := vigil.world
  let after := world.move move
  let passed := if world.isProbing index caller then after.now - world.now else 0
  { world := after
    probing := vigil.probing + passed
    refusals :=
      match timedOut? index caller (move.event? world), after.pools[index]? with
      | some waited, some pool =>
          ⟨after.now, waited, pool, vigil.probing + passed⟩ :: vigil.refusals
      | _, _ => vigil.refusals }

/-- Watch a caller of a pool for several moves. -/
def follow (index caller : Nat) (vigil : Vigil) (moves : List Move) : Vigil :=
  moves.foldl (Vigil.move index caller) vigil

end Vigil

/-- A caller that asked at `started` for at most `timeout` has been refused rightly. -/
structure Refusal.Justified (started timeout : Nat) (refusal : Refusal) : Prop where
  /-- The deadline exists. -/
  deadline_lt : started + timeout < Instant.horizon
  waited_eq : refusal.waited = refusal.time - started
  timeout_le : timeout ≤ refusal.waited
  /-- The pool lends, but it has nothing idle and no room for another connection. -/
  isFull : refusal.pool.IsFull
  /-- Where no time has passed over probes for the caller, it is refused at its deadline. -/
  time_eq (unprobed : refusal.probing = 0) : refusal.time = started + timeout

/-! ### What is seen -/

theorem ending_eq_some_iff {index place : Nat} {agent worker : Agent} {turn : Turn}
    {answer : Pool.Answer} :
    ending index worker turn = some ⟨.inPool place agent, ofPool answer⟩ ↔
      index = place ∧ worker = agent ∧ turn.2 = some answer := by
  constructor
  · intro ends
    obtain ⟨told, tells, event⟩ := Option.map_eq_some_iff.mp ends
    obtain ⟨given, answers, rfl⟩ := Option.map_eq_some_iff.mp tells
    obtain ⟨thread, equal⟩ := Event.mk.inj event
    obtain ⟨here, own⟩ := Thread.inPool.inj thread
    rw [answers, ofPool_injective equal]
    exact ⟨here, own, rfl⟩
  · rintro ⟨rfl, rfl, answers⟩
    rw [ending, answers]
    rfl

theorem timedOut?_eq_some_iff {index caller waited : Nat} {event : Option Event} :
    timedOut? index caller event = some waited ↔
      event = some ⟨.inPool index (.caller caller), ofPool (.error (.timedOut waited))⟩ := by
  constructor
  · intro told
    unfold timedOut? at told
    split at told
    case h_1 place number waited =>
      split at told
      case isTrue here =>
        obtain ⟨rfl, rfl⟩ := here
        cases told
        rfl
      case isFalse => cases told
    case h_2 => cases told
  · rintro rfl
    exact if_pos ⟨rfl, rfl⟩

variable {index probing : Nat} {pool : Pool} {checkout : Checkout}

/-- What is seen of a caller when its pool has become another with a move: what it waits for belongs
to its checkout, and it is told only rightly that its time has run out. -/
structure Seen (now index probing : Nat) (checkout : Checkout) (after : Pool)
    (event : Option Event) : Prop where
  keeps (task : Task) (present : task ∈ after.tasks) (own : task.agent = .caller checkout.caller) :
    task.Keeps checkout now probing
  expires (waited : Nat) (told : timedOut? index checkout.caller event = some waited) :
    checkout.Expires now probing waited

section Seen

variable {now : Nat} (keeps : ∀ task ∈ pool.tasks, task.agent = .caller checkout.caller →
  task.Keeps checkout now probing)

include keeps

theorem seen_of_precedes {after : Pool} {event : Option Event} (precedes : pool.Precedes after)
    (elsewhere : IsElsewhere index event) : Seen now index probing checkout after event where
  keeps task present own := by
    obtain ⟨earlier, known, rfl | rfl⟩ := precedes.old task present
    · exact keeps _ known own
    · exact (keeps earlier known (earlier.agent_notify ▸ own)).notify
  expires waited told := absurd (timedOut?_eq_some_iff.mp told) (elsewhere _ _)

/-- The turn of somebody else. -/
theorem seen_of_other {turn : Turn} {agent : Agent} (other : agent ≠ .caller checkout.caller)
    {ends : Pool.Answer → Prop}
    (leads : turn.Leads pool (fun task => task.agent = agent ∨ task.agent = .checker) ends) :
    Seen now index probing checkout turn.1.pool (ending index agent turn) where
  keeps task present own := by
    rcases leads.tasks task present with (same | checker) | ⟨earlier, known, rfl | rfl⟩
    · exact absurd (same.symm.trans own) other
    · rw [checker] at own
      cases own
    · exact keeps _ known own
    · exact (keeps earlier known (earlier.agent_notify ▸ own)).notify
  expires waited told :=
    absurd (ending_eq_some_iff.mp (timedOut?_eq_some_iff.mp told)).2.1 other

/-- The turn of the caller itself. -/
theorem seen_of_own {turn : Turn}
    (leads : turn.Leads pool (Task.Keeps checkout now probing)
      (Pool.Answer.Expires checkout now probing)) :
    Seen now index probing checkout turn.1.pool
      (ending index (.caller checkout.caller) turn) where
  keeps task present own := by
    rcases leads.tasks task present with next | ⟨earlier, known, rfl | rfl⟩
    · exact next
    · exact keeps _ known own
    · exact (keeps earlier known (earlier.agent_notify ▸ own)).notify
  expires waited told :=
    leads.answers _ (ending_eq_some_iff.mp (timedOut?_eq_some_iff.mp told)).2.2 waited rfl

end Seen

/-- Whatever happens to the pool, the caller is told only rightly that its time has run out. -/
theorem Happens.seen {move : Move} {after : Pool} {event : Option Event}
    (happens : world.Happens index pool move after event) (prompt : Prompt world)
    (found : world.pools[index]? = some pool) (called : checkout.caller < world.callers)
    (keeps : ∀ task ∈ pool.tasks, task.agent = .caller checkout.caller →
      task.Keeps checkout world.now probing) :
    Seen world.now index probing checkout after event := by
  have member := List.mem_of_getElem? found
  have sound : Sound world.callers (world.site pool).pool := prompt.possible.sound pool member
  cases happens with
  | nothing elsewhere => exact seen_of_precedes keeps (.refl pool) elsewhere
  | @calls request job accepted asks =>
      have later : Agent.caller world.callers ≠ .caller checkout.caller := by
        intro same
        exact Nat.ne_of_gt called (Agent.caller.inj same)
      have attends := Site.work_attends world.callers job sound.idle_le_total
      exact seen_of_other keeps later attends.agents
  | resumes agent =>
      by_cases own : agent = .caller checkout.caller
      · subst own
        have timely : ∀ task ∈ (world.site pool).pool.tasks, task.Timely (world.site pool).now :=
          (prompt.timely pool member).2
        exact seen_of_own keeps (Site.resume_keeps timely keeps)
      · have order : (world.site pool).pool.InOrder := prompt.possible.inOrder pool member
        obtain ⟨job?, probes, attends, _⟩ := order.exists_attends sound agent
        exact seen_of_other keeps own attends.agents
  | puts ticket session closes elsewhere =>
      exact seen_of_precedes keeps ((Precedes.refl pool).putSession _ _) elsewhere
  | reorders tasks =>
      exact seen_of_precedes keeps ((Precedes.refl pool).reorder tasks) isElsewhere_none
  | stirs => exact seen_of_precedes keeps (Precedes.refl pool).notifyOne isElsewhere_none

/-! ### Vigils are kept -/

/-- A caller that asked for at most `timeout` is refused rightly if its time has run out. -/
theorem justified_of_expires {now waited timeout : Nat}
    (patience : checkout.patience = .ofTimeout checkout.started timeout)
    (expires : checkout.Expires now probing waited) (full : pool.IsFull) :
    Refusal.Justified checkout.started timeout ⟨now, waited, pool, probing⟩ := by
  obtain ⟨waited_eq, deadline, upTo, late, exact_⟩ := expires
  rw [upTo, Pool.Patience.ofTimeout] at patience
  split at patience
  case h_1 comes =>
    obtain ⟨exists_, same⟩ := Instant.after?_eq_some_iff.mp comes
    cases patience
    constructor
    · exact exists_
    · exact waited_eq
    · change timeout ≤ waited
      omega
    · exact full
    · intro unprobed
      rw [← same]
      exact exact_ unprobed
  case h_2 => contradiction

/-- A caller is told that its time has run out only where the pool is full. -/
theorem isFull_of_timedOut? {move : Move} {caller waited : Nat}
    (found : world.pools[index]? = some pool)
    (told : timedOut? index caller (move.event? world) = some waited) {after : Pool}
    (foundAfter : (world.move move).pools[index]? = some after) : after.IsFull := by
  obtain ⟨turn, takes, answers, left⟩ := turn_of_event found (timedOut?_eq_some_iff.mp told)
  have same := Option.some.inj (foundAfter.symm.trans left)
  rw [same]
  exact takes.isFull answers rfl

namespace Vigil

/-- What is true of a vigil over a caller that asked for at most `timeout`. -/
structure Kept (index timeout : Nat) (checkout : Checkout) (vigil : Vigil) : Prop where
  prompt : Prompt vigil.world
  called : checkout.caller < vigil.world.callers
  keeps : ∃ pool, vigil.world.pools[index]? = some pool ∧
    ∀ task ∈ pool.tasks, task.agent = .caller checkout.caller →
      task.Keeps checkout vigil.world.now vigil.probing
  justified (refusal : Refusal) (member : refusal ∈ vigil.refusals) :
    refusal.Justified checkout.started timeout

variable {vigil : Vigil} {timeout caller : Nat}

/-- A refusal is seen when the caller is told, and not before. -/
theorem mem_refusals_move {move : Move} {refusal : Refusal}
    (member : refusal ∈ (vigil.move index caller move).refusals) :
    refusal ∈ vigil.refusals ∨
      timedOut? index caller (move.event? vigil.world) = some refusal.waited ∧
        (vigil.world.move move).pools[index]? = some refusal.pool ∧
        refusal.time = (vigil.world.move move).now ∧
        refusal.probing = (vigil.move index caller move).probing := by
  simp only [Vigil.move] at member ⊢
  split at member
  case h_1 waited pool told found =>
    rcases List.mem_cons.mp member with rfl | before
    · exact .inr ⟨told, found, rfl, rfl⟩
    · exact .inl before
  case h_2 => exact .inl member

/-- While no time passes, nothing is added to the time of the probes. -/
theorem probing_move (index caller : Nat) {move : Move}
    (same : (vigil.world.move move).now = vigil.world.now) :
    (vigil.move index caller move).probing = vigil.probing := by
  simp only [Vigil.move, same, Nat.sub_self, ite_self]
  rfl

/-- Time that passes while a connection is being probed for the caller is counted. -/
theorem keeps_passTo {instant : Nat} (found : vigil.world.pools[index]? = some pool)
    (keeps : ∀ task ∈ pool.tasks, task.agent = .caller checkout.caller →
      task.Keeps checkout vigil.world.now vigil.probing) {task : Pool.Task}
    (present : task ∈ pool.tasks) (own : task.agent = .caller checkout.caller) :
    task.Keeps checkout (vigil.move index checkout.caller (.act (.passTo instant))).world.now
      (vigil.move index checkout.caller (.act (.passTo instant))).probing where
  inside := (keeps task present own).inside
  prompt deadline patience borrows none := by
    have probed : vigil.world.isProbing index checkout.caller = true := by
      rw [isProbing, found]
      exact List.any_eq_true.mpr ⟨task, present, by rw [own, borrows]; simp⟩
    obtain ⟨before, still⟩ := Nat.add_eq_zero_iff.mp none
    rw [if_pos probed] at still
    have early := (keeps task present own).prompt deadline patience borrows before
    exact Nat.le_trans (Nat.le_of_sub_eq_zero still) early

namespace Kept

/-- The vigil goes on. -/
theorem move (kept : vigil.Kept index timeout checkout)
    (patience : checkout.patience = .ofTimeout checkout.started timeout) {move : Move}
    (prompt : move.isPrompt = true) :
    (vigil.move index checkout.caller move).Kept index timeout checkout := by
  obtain ⟨pool, found, keeps⟩ := kept.keeps
  have later := (affects_move vigil.world move).callers_le
  have calledLater : checkout.caller < (vigil.world.move move).callers :=
    Nat.lt_of_lt_of_le kept.called later
  rcases Move.now_eq vigil.world prompt with same | ⟨instant, rfl⟩
  · obtain ⟨after, foundAfter, happens⟩ := becomes_move found move
    have seen := happens.seen kept.prompt found kept.called keeps
    have probing := probing_move index checkout.caller same
    constructor
    case prompt => exact kept.prompt.move prompt
    case called => exact calledLater
    case keeps =>
      refine ⟨after, foundAfter, ?_⟩
      rw [probing]
      change ∀ task ∈ after.tasks, _ → task.Keeps checkout (vigil.world.move move).now _
      rw [same]
      exact seen.keeps
    case justified =>
      intro refusal member
      rcases mem_refusals_move member with old | ⟨told, left, time, probed⟩
      · exact kept.justified refusal old
      · obtain ⟨_, waited, _, _⟩ := refusal
        obtain rfl := time
        obtain rfl := probed
        rw [probing, same]
        have full := isFull_of_timedOut? found told left
        exact justified_of_expires patience (seen.expires waited told) full
  · have pools : (vigil.world.move (.act (.passTo instant))).pools = vigil.world.pools :=
      (vigil.world.pools_passTo instant).2
    constructor
    case prompt => exact kept.prompt.move prompt
    case called => exact calledLater
    case keeps =>
      refine ⟨pool, ?_, fun task present own => keeps_passTo found keeps present own⟩
      change (vigil.world.move (.act (.passTo instant))).pools[index]? = some pool
      rw [pools]
      exact found
    case justified =>
      intro refusal member
      rcases mem_refusals_move member with old | ⟨told, _⟩
      · exact kept.justified refusal old
      · cases told

theorem follow (kept : vigil.Kept index timeout checkout)
    (patience : checkout.patience = .ofTimeout checkout.started timeout) {moves : List Move}
    (prompt : ∀ move ∈ moves, move.isPrompt = true) :
    (vigil.follow index checkout.caller moves).Kept index timeout checkout := by
  induction moves generalizing vigil with
  | nil => exact kept
  | cons first later ih =>
      obtain ⟨here, rest⟩ := List.forall_mem_cons.mp prompt
      exact ih (kept.move patience here) rest

end Kept

end Vigil

/-! ### Callers with a timeout -/

/-- Whoever is blocked until a connection or a slot becomes free has its deadline, if it has one,
still before it. -/
def AwaitsDeadlines (world : World) : Prop :=
  ∀ pool ∈ world.pools, ∀ task ∈ pool.tasks, ∀ checkout notified deadline,
    task.phase = .waiting checkout notified → checkout.patience = .upTo deadline →
      world.now < deadline

/-- When everybody waits for something that has not happened, nobody's deadline has come. -/
theorem awaitsDeadlines_of_isQuiet (possible : Possible world) (quiet : world.isQuiet = true) :
    world.AwaitsDeadlines := by
  intro pool member task present checkout notified deadline waits patience
  have still := List.all_eq_true.mp (Bool.and_eq_true_iff.mp quiet).1 pool member
  have blocked : ¬ pool.isReady world.now task = true := by
    simpa using List.all_eq_true.mp still task present
  have due := ((possible.timely pool member).2 task present).waiting checkout notified waits
  rw [patience] at due
  by_contra passed
  apply blocked
  rw [Pool.isReady, Task.isDue, due]
  have late : decide (deadline ≤ world.now) = true := decide_eq_true (Nat.le_of_not_lt passed)
  exact Bool.or_eq_true_iff.mpr (.inr late)

section Acquire

variable {timeout : Nat}

/-- A caller is watched from its call on. -/
theorem kept_acquire (prompt : Prompt world)
    (accepted : world.accepts (.acquire index timeout) = true) :
    ((Vigil.start world).move index world.callers (.act (.call (.acquire index timeout)))).Kept
      index timeout ⟨world.callers, world.now, .ofTimeout world.now timeout⟩ := by
  let checkout : Checkout := ⟨world.callers, world.now, .ofTimeout world.now timeout⟩
  let action : Action := .call (.acquire index timeout)
  have asks : (Request.acquire index timeout).asks? world = some (index, .acquire timeout) := rfl
  have same : (world.move (.act action)).now = world.now := now_call _ _
  have probing : ((Vigil.start world).move index world.callers (.act action)).probing =
      (Vigil.start world).probing :=
    Vigil.probing_move index world.callers same
  obtain ⟨pool, found⟩ : ∃ pool, world.pools[index]? = some pool := by
    have opened : world.isOpen index = true := accepted
    rw [isOpen] at opened
    split at opened
    case h_1 pool found => exact ⟨pool, found⟩
    case h_2 => contradiction
  have nobody : ∀ task ∈ pool.tasks, task.agent = .caller checkout.caller →
      task.Keeps checkout world.now 0 := by
    intro task present own
    have sound := prompt.possible.sound pool (List.mem_of_getElem? found)
    exact absurd own (sound.agent_ne_callers present)
  obtain ⟨foundAfter, _, event⟩ := call_turn accepted asks found
  have seen : Seen world.now index 0 checkout (world.turn pool (.acquire timeout)).1.pool
      (world.call (.acquire index timeout)).2 := by
    rw [event]
    exact seen_of_own nobody (Site.acquire_keeps world.callers timeout)
  constructor
  case prompt =>
    have calm : Move.isPrompt (.act action) = true := rfl
    exact prompt.move calm
  case called =>
    obtain ⟨acting, _, callers, _, _, does⟩ := call_eq_work accepted asks
    change world.callers < (world.call (.acquire index timeout)).1.callers
    rw [does, report, callers_callPool, callers]
    exact Nat.lt_succ_self _
  case keeps =>
    refine ⟨_, foundAfter, ?_⟩
    rw [probing]
    change ∀ task : Pool.Task, task ∈ _ → _ → task.Keeps checkout (world.move (.act action)).now 0
    rw [same]
    exact seen.keeps
  case justified =>
    intro refusal member
    rcases Vigil.mem_refusals_move member with old | ⟨told, left, time, probed⟩
    · cases old
    · obtain ⟨_, waited, _, _⟩ := refusal
      obtain rfl := time
      obtain rfl := probed
      rw [probing]
      change Refusal.Justified checkout.started timeout ⟨(world.move (.act action)).now, _, _, _⟩
      rw [same]
      have full := isFull_of_timedOut? found told left
      exact justified_of_expires rfl (seen.expires waited told) full

/-- Timeouts are exact. As long as nobody is slow, whoever sleeps when everybody waits has its
deadline still before it; and a caller that asks for a connection and is told at some time that it
has waited too long had a deadline that exists, has waited for as long as it is told and for at
least as long as it wanted, and finds a full pool. If no time has passed over probes of connections
that it was to get, it is told at its deadline, however often it has been woken before. -/
theorem timeouts_are_exact (prompt : Prompt world) :
    (world.isQuiet = true → world.AwaitsDeadlines) ∧
      ∀ index timeout, world.accepts (.acquire index timeout) = true →
        ∀ later : List Move, (∀ move ∈ later, move.isPrompt = true) →
          let moves := .act (.call (.acquire index timeout)) :: later
          ∀ refusal ∈ ((Vigil.start world).follow index world.callers moves).refusals,
            refusal.Justified world.now timeout := by
  constructor
  · exact awaitsDeadlines_of_isQuiet prompt.possible
  · intro index timeout accepted later promptly
    exact ((kept_acquire prompt accepted).follow rfl promptly).justified

/-- A pool of one connection, which is lent, while one caller waits for it until `5`. -/
def patient : World :=
  let config : Config := { Config.default with minConnections := 0, maxConnections := 1 }
  (Trace.follow ⟨new, []⟩ [.call (.openPool config), .call (.get 0),
    .resume (.inPool 0 (.caller 1)), .call (.acquire 0 5)]).world

/-- A second caller that waits for at most `3` is woken for no reason, finds nothing, and is told at
`3` that this was too long. -/
theorem timeouts_are_exact_patient :
    let moves := [.act (.call (.acquire 0 3)), .act (.passTo 1),
      .reorder 0 ((patient.call (.acquire 0 3)).1.pools.flatMap (·.tasks.reverse)), .stir 0,
      .act (.resume (.inPool 0 (.caller 3))), .act (.passTo 3),
      .act (.resume (.inPool 0 (.caller 3)))]
    let refusals := ((Vigil.start patient).follow 0 patient.callers moves).refusals
    Prompt patient ∧ patient.isQuiet = true ∧ patient.AwaitsDeadlines ∧
      refusals.map (fun refusal => (refusal.time, refusal.waited, refusal.probing)) = [(3, 3, 0)] ∧
      ∀ refusal ∈ refusals, refusal.Justified patient.now 3 := by
  have prompt : Prompt patient := Reachable.prompt (Reachable.follow .new _)
  have quiet : patient.isQuiet = true := by decide
  have accepted : patient.accepts (.acquire 0 3) = true := by decide
  obtain ⟨waits, justified⟩ := timeouts_are_exact prompt
  exact ⟨prompt, quiet, waits quiet, by decide, justified 0 3 accepted _ (by decide)⟩

end Acquire

end World

end SessionPool

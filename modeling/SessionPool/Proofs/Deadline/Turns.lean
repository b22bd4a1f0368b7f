import SessionPool.Proofs.Shutdown.Turns
import SessionPool.Proofs.Waits

/-!
# Callers and their deadlines

A caller that waits for a connection until a deadline looks at the clock only before it goes to
sleep. It asks the server for something, a probe or a connect, when it arrives, when it is told to
look again, and when it learns that the connection it was about to get is dead. The first two
happen by the deadline, for nobody sleeps beyond it. The third happens whenever the answer comes,
and then the caller asks for the next thing at once, however late it is. So the deadline bounds
what a caller asks for exactly as long as it bounds the bad news.
-/

namespace SessionPool

namespace Pool

/-! ### Callers that ask -/

/-- Whether an answer of the server is awaited for this caller, in the middle of its checkout. -/
def Task.asksFor (caller : Nat) (task : Task) : Bool :=
  match task.phase with
  | .connecting checkout _ _ | .borrowProbe checkout _ => checkout.caller == caller
  | _ => false

/-- Whether the server has been asked for something for the sake of this caller. -/
def isAsking (pool : Pool) (caller : Nat) : Bool := pool.tasks.any (·.asksFor caller)

/-- Whether the connection that the caller is about to get is dead, while the pool still lends. -/
def meetsDead (pool : Pool) (server : Server) (caller : Nat) : Bool :=
  !pool.isShutdown && (pool.task? (.caller caller)).any fun task =>
    match task.phase with
    | .borrowProbe _ connection => !server.answers connection.session
    | _ => false

/-- Whoever checks out for this caller waits for a connection until the deadline. -/
def Task.Patient (caller deadline : Nat) (task : Task) : Prop :=
  ∀ checkout, task.checkout? = some checkout → checkout.caller = caller →
    checkout.patience = .upTo deadline

section Asking

variable {caller callers : Nat} {pool : Pool} {task : Task}

@[simp]
theorem Task.asksFor_notify (task : Task) : task.notify.asksFor caller = task.asksFor caller := by
  obtain ⟨agent, phase, due⟩ := task
  cases phase <;> rfl

/-- Whoever asks for a caller does so in the middle of its checkout. -/
theorem Task.checkout?_of_asksFor (asks : task.asksFor caller = true) :
    ∃ checkout, task.checkout? = some checkout ∧ checkout.caller = caller := by
  obtain ⟨agent, phase, due⟩ := task
  cases phase with
  | connecting checkout metadata attempt => exact ⟨checkout, rfl, eq_of_beq asks⟩
  | borrowProbe checkout connection => exact ⟨checkout, rfl, eq_of_beq asks⟩
  | _ => contradiction

/-- Whoever begins to wait is patient if the checkout is. -/
theorem Task.patient_rule {deadline : Nat} {checkout? : Option Checkout}
    (patient : ∀ checkout, checkout? = some checkout → checkout.caller = caller →
      checkout.patience = .upTo deadline) (config : Config) (now : Nat) :
    Rule (Task.Patient caller deadline) config now checkout? where
  told _ before checkout inside := before checkout (Task.checkout?_notify ▸ inside)
  begun _ _ same _ checkout inside := patient checkout (same ▸ inside)

/-- Whoever begins to wait outside of a checkout asks for nobody. -/
theorem Task.unasked_rule (caller : Nat) (config : Config) (now : Nat) :
    Rule (fun task => task.asksFor caller = false) config now none where
  told task before := task.asksFor_notify.trans before
  begun task _ same _ := by
    apply Bool.eq_false_iff.mpr
    intro asks
    obtain ⟨checkout, inside, _⟩ := Task.checkout?_of_asksFor asks
    rw [same] at inside
    contradiction

theorem isAsking_eq_false_iff :
    pool.isAsking caller = false ↔ ∀ task ∈ pool.tasks, task.asksFor caller = false := by
  simp [isAsking]

theorem isAsking_park (asks : task.asksFor caller = true) :
    (pool.park task).isAsking caller = true := by
  rw [isAsking, List.any_eq_true]
  exact ⟨task, List.mem_append_right _ (List.mem_singleton_self _), asks⟩

/-- A checkout is the work of its caller. -/
theorem Balanced.agent_of_checkout (balanced : Balanced callers pool 0)
    (present : task ∈ pool.tasks) {checkout : Checkout} (inside : task.checkout? = some checkout) :
    task.agent = .caller checkout.caller := by
  have proper := balanced.proper task present
  obtain ⟨agent, phase, due⟩ := task
  cases phase with
  | connecting _ _ _ | borrowProbe _ _ | waiting _ _ =>
      cases inside
      exact proper
  | _ => cases inside

/-- Only calls that have been made check out. -/
theorem Sound.called (sound : Sound callers pool) (present : task ∈ pool.tasks)
    {checkout : Checkout} (inside : task.checkout? = some checkout) :
    checkout.caller < callers := by
  rcases sound with filling | balanced
  · obtain ⟨_, _, _, _, _, alone, _⟩ := filling
    rw [alone] at present
    rw [List.mem_singleton.mp present] at inside
    contradiction
  · have once := balanced.count_agent_le_one task.agent
    have some := List.count_pos_iff.mpr (List.mem_map_of_mem (f := (·.agent)) present)
    rw [balanced.agent_of_checkout present inside, Agent.limit] at once
    rw [balanced.agent_of_checkout present inside] at some
    by_contra beyond
    rw [if_neg beyond] at once
    omega

/-- A caller that goes on has nothing else to wait for. -/
theorem Balanced.unpark_isAsking (balanced : Balanced callers pool 0)
    (found : pool.task? (.caller caller) = some task) :
    (pool.unpark (.caller caller)).isAsking caller = false := by
  rw [isAsking_eq_false_iff]
  intro other present
  apply Bool.eq_false_iff.mpr
  intro asks
  obtain ⟨checkout, inside, same⟩ := Task.checkout?_of_asksFor asks
  apply balanced.agent_ne found other present
  rw [balanced.agent_of_checkout (List.mem_of_mem_eraseP present) inside, same]

end Asking

end Pool

/-! ### What a turn asks for -/

namespace Site

open Pool (Agent Phase Task Checkout Balanced Sound Rule)

variable {site : Site} {caller callers deadline : Nat} {checkout : Checkout} {task : Task}

/-- In a pool that probes what it lends, a caller that looks for a connection asks the server as
long as there is room. -/
theorem seek_isAsking (running : site.pool.isShutdown = false)
    (tests : site.pool.config.testOnBorrow = true)
    (room : site.pool.total < site.pool.config.maxConnections) :
    (site.seek checkout).1.pool.isAsking checkout.caller = true := by
  rw [seek]
  dsimp only
  rw [if_neg (by simp [running])]
  split
  · rw [if_pos tests]
    exact Pool.isAsking_park (beq_self_eq_true _)
  · rw [if_pos room]
    exact Pool.isAsking_park (beq_self_eq_true _)

/-- When the answer to a probe has come, the caller asks for something else exactly if the
connection is dead and the pool still lends. -/
theorem borrowProbed_isAsking (unasked : site.pool.isAsking checkout.caller = false)
    (tests : site.pool.config.testOnBorrow = true)
    (room : site.pool.total - 1 < site.pool.config.maxConnections) (connection : Connection) :
    (site.borrowProbed checkout connection).1.pool.isAsking checkout.caller =
      (!site.pool.isShutdown && !site.server.answers connection.session) := by
  by_cases shutdown : site.pool.isShutdown = true
  · rw [borrowProbed_eq_refuse shutdown, shutdown]
    exact unasked
  · have running := Bool.eq_false_iff.mpr shutdown
    rw [borrowProbed, running]
    cases alive : site.server.answers connection.session with
    | true => exact unasked
    | false =>
        apply seek_isAsking
        · exact running
        · exact tests
        · exact room

section Unasked

variable (unasked : site.pool.isAsking caller = false)

include unasked

/-- A caller that was given its connection, or was refused it, has nothing to ask. -/
theorem checkoutConnected_isAsking (metadata : Metadata) (attempt : Attempt) :
    (site.checkoutConnected checkout metadata attempt).1.pool.isAsking caller = false := by
  have none : site.pool.All site.pool.config fun task => task.asksFor caller = false :=
    ⟨rfl, Pool.isAsking_eq_false_iff.mp unasked⟩
  have told := (Task.unasked_rule caller site.pool.config site.now).told
  exact Pool.isAsking_eq_false_iff.mpr (checkoutConnected_all none told metadata attempt).2

/-- Nobody asks for a caller but in its checkout. -/
theorem proceed_isAsking {agent : Agent} {phase : Phase}
    (outside : (Task.mk agent phase none).checkout? = none) :
    (site.proceed agent phase).1.pool.isAsking caller = false := by
  have none : site.pool.All site.pool.config fun task => task.asksFor caller = false :=
    ⟨rfl, Pool.isAsking_eq_false_iff.mp unasked⟩
  have rule := Task.unasked_rule caller site.pool.config site.now
  rw [← outside] at rule
  exact Pool.isAsking_eq_false_iff.mpr (proceed_all none rule).2

end Unasked

/-- Past its deadline a caller that goes on asks the server for something exactly if it has met a
dead connection. -/
theorem resume_isAsking (sound : Sound callers site.pool)
    (timely : ∀ task ∈ site.pool.tasks, task.Timely site.now)
    (tests : ∀ task ∈ site.pool.tasks,
      task.isBorrowing = true → site.pool.config.testOnBorrow = true)
    (patient : ∀ task ∈ site.pool.tasks, task.Patient caller deadline) (late : deadline < site.now)
    (found : site.pool.task? (.caller caller) = some task)
    (ready : site.pool.isReady site.now task = true) :
    (site.resume (.caller caller)).1.pool.isAsking caller =
      site.pool.meetsDead site.server caller := by
  have present := List.mem_of_find?_eq_some found
  rw [resume_eq_proceed found ready, Pool.meetsDead, found, Option.any_some]
  rcases sound with filling | balanced
  · obtain ⟨number, made, metadata, attempt, due, _, rfl, gone, _⟩ := filling.unpark found
    rw [Bool.and_false]
    apply proceed_isAsking _ rfl
    apply Pool.isAsking_eq_false_iff.mpr
    intro other absent
    change other ∈ (site.pool.unpark (.caller caller)).tasks at absent
    rw [gone] at absent
    cases absent
  · have unasked := balanced.unpark_isAsking found
    have own : task.agent = .caller caller := Pool.agent_of_task? found
    obtain ⟨agent, phase, due⟩ := task
    obtain rfl : agent = .caller caller := own
    cases phase with
    | borrowProbe checkout connection =>
        obtain rfl := Agent.caller.inj (balanced.agent_of_checkout present rfl)
        have some := balanced.total_pos present rfl
        have capacity := balanced.books.total_le
        apply borrowProbed_isAsking
        · exact unasked
        · exact tests _ present rfl
        · exact Nat.lt_of_lt_of_le (Nat.sub_lt some Nat.one_pos) capacity
    | connecting checkout metadata attempt =>
        rw [Bool.and_false]
        exact checkoutConnected_isAsking unasked metadata attempt
    | waiting checkout notified =>
        -- Nobody sleeps beyond the deadline.
        obtain rfl := Agent.caller.inj (balanced.agent_of_checkout present rfl)
        have wakes := (timely _ present).waiting checkout notified rfl
        rw [patient _ present checkout rfl rfl] at wakes
        have early := (timely _ present).now_le deadline wakes
        exact absurd late (Nat.not_lt_of_le early)
    | _ =>
        rw [Bool.and_false]
        exact proceed_isAsking unasked rfl

end Site

end SessionPool

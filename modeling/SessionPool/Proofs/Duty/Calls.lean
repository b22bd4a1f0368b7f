import SessionPool.Proofs.Duty.Turns
import SessionPool.Proofs.Shutdown.Final

/-!
# What calls lead to

Every agent is on one job: the one that its call asks of the pool, the filling of a new pool, or the
sweeps of the checker. Whatever it waits for belongs to that job, and so does the answer with which
its turn ends. A checkout is answered with a connection or an error, and only one that does not want
to wait with nothing; a sweep is answered with the probes that it has made.
-/

namespace SessionPool

namespace Pool

/-! ### Jobs, and what belongs to them -/

/-- Whether a job, if there is one, asks for a connection. -/
def Job.checksOut (job? : Option Job) : Bool := job?.any (·.isCheckout)

/-- What an agent waits for belongs to this job; without one, it fills a new pool. The checker is
always on a sweep, or rests before the next. -/
def Task.Serves (job? : Option Job) (task : Task) : Prop :=
  match task.phase with
  | .prewarming _ _ _ => job? = none
  | .connecting checkout _ _ | .borrowProbe checkout _ | .waiting checkout _ =>
      Job.checksOut job? = true ∧ (checkout.patience = .never ↔ job? = some .tryGet)
  | .returnProbe _ => ∃ job ticket, job? = some job ∧ job.returns? = some ticket
  | .sweeping _ _ _ | .resting => job? = some .sweep
  | .joining thenDrop => job? = some (.shutdown thenDrop)

/-- An answer belongs to this job; without one, to the filling of a new pool. -/
def Answer.Fits (job? : Option Job) : Answer → Prop
  | .ok .opened => job? = none
  | .ok (.lent _) => Job.checksOut job? = true
  | .ok .noneFree => job? = some .tryGet
  | .ok (.swept _) => job? = some .sweep
  | .ok (.detached _) => ∃ ticket, job? = some (.detach ticket)
  | .ok .done | .ok (.rows _) | .ok (.texts _) => Job.checksOut job? = false
  | .error (.timedOut _) => Job.checksOut job? = true ∧ job? ≠ some .tryGet
  | .error _ => True

/-- An agent in the middle of a sweep has lost sight of nothing, and has made these probes. -/
def Task.Probes (probes : Probes) (task : Task) : Prop :=
  match task.phase with
  | .sweeping sweep _ pending => sweep.Tallies (pending.length + 1) ∧ sweep.probes = probes
  | _ => True

/-- The report of a sweep is about these probes. -/
def Answer.Probes (probes : Probes) : Answer → Prop
  | .ok (.swept report) => report.probes = probes
  | _ => True

/-- The probes that an agent has made in its present sweep when it goes on, with those that it had
made before. -/
def Task.probesNext (server : Server) (probes : Pool.Probes) (task : Task) : Pool.Probes :=
  match task.phase with
  | .sweeping _ current _ => probes.note (server.answers current.session)
  | _ => ⟨0, 0⟩

/-- The same for whoever may go on. -/
def probesNext (pool : Pool) (now : Nat) (server : Server) (probes : Probes) (agent : Agent) :
    Probes :=
  match pool.task? agent with
  | some task => if pool.isReady now task then task.probesNext server probes else probes
  | none => probes

/-- A task that an agent leaves behind for this job. -/
structure Task.Continues (agent : Agent) (job? : Option Job) (probes : Pool.Probes)
    (before : Pool) (task : Task) : Prop where
  agent_eq : task.agent = agent
  serves : task.Serves job?
  probes : task.Probes probes
  /-- A returned connection is probed only as long as the pool is there. -/
  present (returning : task.isReturning = true) : before.isPresent = true

/-- Whoever waits for anything but the probe of a returned connection needs no pool for it. -/
theorem Task.continues_of_not_returning {agent : Agent} {job? : Option Job} {probes : Pool.Probes}
    {before : Pool} {task : Task} (agent_eq : task.agent = agent) (serves : task.Serves job?)
    (tallies : task.Probes probes) (other : task.isReturning = false) :
    task.Continues agent job? probes before := by
  refine ⟨agent_eq, serves, tallies, ?_⟩
  intro returning
  rw [other] at returning
  contradiction

/-- The checker rests. -/
def Task.IsRest (task : Task) : Prop := task.agent = .checker ∧ task.phase = .resting

/-- A turn that attends to this job, in a pool as it was before. -/
def Attends (turn : Turn) (before : Pool) (agent : Agent) (job? : Option Job)
    (probes : Probes) : Prop :=
  turn.Leads before (fun task => task.Continues agent job? probes before ∨ task.IsRest)
    fun answer => answer.Fits job? ∧ answer.Probes probes

section Belongs

variable {job? : Option Job} {task : Task}

@[simp]
theorem Task.serves_notify : task.notify.Serves job? ↔ task.Serves job? := by
  obtain ⟨agent, phase, due⟩ := task
  cases phase <;> rfl

@[simp]
theorem Task.probes_notify {probes : Pool.Probes} :
    task.notify.Probes probes ↔ task.Probes probes := by
  obtain ⟨agent, phase, due⟩ := task
  cases phase <;> rfl

@[simp]
theorem Task.isReturning_notify (task : Task) : task.notify.isReturning = task.isReturning := by
  obtain ⟨agent, phase, due⟩ := task
  cases phase <;> rfl

@[simp]
theorem Task.isJoining_notify (task : Task) : task.notify.isJoining = task.isJoining := by
  obtain ⟨agent, phase, due⟩ := task
  cases phase <;> rfl

variable {checkout : Checkout}

/-- Whoever waits in the middle of a checkout is on a job that asks for a connection. -/
theorem Task.serves_checkout (inside : task.checkout? = some checkout) :
    task.Serves job? ↔
      Job.checksOut job? = true ∧ (checkout.patience = .never ↔ job? = some .tryGet) := by
  obtain ⟨agent, phase, due⟩ := task
  cases phase with
  | connecting _ _ _ | borrowProbe _ _ | waiting _ _ =>
      cases inside
      exact Iff.rfl
  | _ => cases inside

variable (checksOut : Job.checksOut job? = true)
  (patience : checkout.patience = .never ↔ job? = some .tryGet)

include checksOut patience

/-- A checkout that goes on stays on its job. -/
theorem Checkout.Waits.continues (waits : checkout.Waits task) (probes : Pool.Probes)
    (before : Pool) : task.Continues (.caller checkout.caller) job? probes before := by
  obtain ⟨agent, inside⟩ := waits
  refine ⟨agent, (Task.serves_checkout inside).mpr ⟨checksOut, patience⟩, ?_, ?_⟩
  all_goals
    obtain ⟨agent, phase, due⟩ := task
    cases phase with
    | sweeping _ _ _ | returnProbe _ => cases inside
    | _ => first | trivial | exact nofun

/-- What a checkout gives is an answer to its job. -/
theorem Checkout.Gives.fits {now : Nat} {answer : Answer} (gives : checkout.Gives now answer)
    (probes : Pool.Probes) : answer.Fits job? ∧ answer.Probes probes := by
  refine ⟨?_, by cases gives <;> trivial⟩
  cases gives with
  | lent connection => exact checksOut
  | noneFree never => exact patience.mp never
  | timedOut deadline upTo late =>
      refine ⟨checksOut, ?_⟩
      intro asked
      rw [patience.mpr asked] at upTo
      contradiction
  | shutDown => trivial
  | creationFailed cause => trivial

/-- Whoever checks out attends to the job. -/
theorem attends_of_checkout {turn : Turn} {before : Pool} {now : Nat}
    (leads : turn.Leads before checkout.Waits (checkout.Gives now)) (probes : Pool.Probes) :
    Attends turn before (.caller checkout.caller) job? probes :=
  leads.mono (fun _ waits => .inl (waits.continues checksOut patience probes before))
    fun _ gives => gives.fits checksOut patience probes

end Belongs

end Pool

/-! ### Calls, and going on -/

namespace Site

open Pool (Agent Phase Task Checkout Patience Job Probes Attends Precedes)

variable {site : Site} {before : Pool}

/-- A deadline is not the same as no patience. -/
theorem ofTimeout_ne_never (now timeout : Nat) : Patience.ofTimeout now timeout ≠ .never := by
  rw [Patience.ofTimeout]
  split <;> exact nofun

/-- A call works on what it has been asked for. -/
theorem work_attends (caller : Nat) (job : Job)
    (enough : site.pool.idle.length ≤ site.pool.total) :
    Attends (job.work caller site) site.pool (.caller caller) (some job) ⟨0, 0⟩ := by
  have here := Precedes.refl site.pool
  have returns {ticket : Nat} (gives : job.returns? = some ticket)
      (there : site.pool.isPresent = true) (connection : Connection) (due : Option Nat) :
      Task.Continues (.caller caller) (some job) ⟨0, 0⟩ site.pool
          ⟨.caller caller, .returnProbe connection, due⟩ ∨
        Task.IsRest ⟨.caller caller, .returnProbe connection, due⟩ :=
    .inl ⟨rfl, ⟨job, ticket, rfl, gives⟩, trivial, fun _ => there⟩
  have asked (other : Job) (checksOut : Job.checksOut (some other) = true)
      (willing : other ≠ .tryGet) (timeout : Nat) :
      Attends (site.checkout caller (.ofTimeout site.now timeout)) site.pool (.caller caller)
        (some other) ⟨0, 0⟩ := by
    apply Pool.attends_of_checkout checksOut _ (checkout_leads here _ _)
    constructor
    · exact fun same => absurd same (ofTimeout_ne_never _ _)
    · exact fun same => absurd (Option.some.inj same) willing
  have sent {α : Type} (other : Job) (ticket : Nat)
      (send : Server → Session → Server × Except SessionError α) (reply : α → Pool.Reply)
      (replies : ∀ rows, Pool.Answer.Fits (some other) (.ok (reply rows)) ∧
        Pool.Answer.Probes ⟨0, 0⟩ (.ok (reply rows))) :
      Attends (site.throughLease ticket send reply) site.pool (.caller caller) (some other)
        ⟨0, 0⟩ :=
    throughLease_leads here ticket send reply ⟨trivial, trivial⟩ (fun _ => ⟨trivial, trivial⟩)
      replies
  cases job with
  | acquire timeout => exact asked (.acquire timeout) rfl nofun timeout
  | get => exact asked .get rfl nofun _
  | tryGet =>
      exact Pool.attends_of_checkout rfl (iff_of_true rfl rfl) (checkout_leads here _ _) _
  | adopt session =>
      exact adopt_leads here session ⟨rfl, trivial⟩ ⟨trivial, trivial⟩ fun _ => ⟨trivial, trivial⟩
  | sweep =>
      apply sweep_leads here nofun enough
      · intro next current later due tallies probes
        exact .inl (Task.continues_of_not_returning rfl rfl ⟨tallies, probes⟩ rfl)
      · exact fun report probes => ⟨rfl, probes⟩
  | shutdown thenDrop =>
      exact shutdown_leads here ⟨rfl, trivial⟩ fun due =>
        .inl (Task.continues_of_not_returning rfl rfl trivial rfl)
  | release ticket =>
      exact release_leads here ⟨rfl, trivial⟩ ⟨trivial, trivial⟩ (returns rfl) ticket
  | invalidate ticket =>
      exact invalidate_leads here ⟨rfl, trivial⟩ ⟨trivial, trivial⟩ (returns rfl) ticket
  | discard ticket => exact discard_leads here ⟨rfl, trivial⟩ (returns rfl) ticket
  | detach ticket =>
      exact detach_leads here ticket ⟨trivial, trivial⟩ fun _ => ⟨⟨ticket, rfl⟩, trivial⟩
  | execute ticket statement =>
      exact sent (.execute ticket statement) ticket (·.execute · statement) .rows
        fun _ => ⟨rfl, trivial⟩
  | query ticket statement =>
      exact sent (.query ticket statement) ticket (·.query · statement) .texts
        fun _ => ⟨rfl, trivial⟩

/-- An agent in the middle of a checkout goes on with it. -/
theorem proceed_checkout_leads (precedes : before.Precedes site.pool) {task : Task}
    {checkout : Checkout} (inside : task.checkout? = some checkout) (agent : Agent) :
    (site.proceed agent task.phase).Leads before checkout.Waits (checkout.Gives site.now) := by
  obtain ⟨_, phase, due⟩ := task
  cases phase with
  | connecting checkout metadata attempt =>
      cases inside
      exact checkoutConnected_leads precedes metadata attempt .lent .shutDown .creationFailed
  | borrowProbe checkout connection =>
      cases inside
      exact borrowProbed_leads precedes connection
  | waiting checkout notified =>
      cases inside
      exact seek_leads precedes
  | _ => cases inside

/-- An agent that goes on stays on its job. -/
theorem proceed_attends (precedes : before.Precedes site.pool) {task : Task} {job? : Option Job}
    (serves : task.Serves job?) {probes : Probes} (tallies : task.Probes probes)
    (own : ∀ checkout, task.checkout? = some checkout → task.agent = .caller checkout.caller)
    (rests : task.phase = .resting → task.agent = .checker)
    (enough : site.pool.idle.length ≤ site.pool.total) :
    Attends (site.proceed task.agent task.phase) before task.agent job?
      (task.probesNext site.server probes) := by
  cases inside : task.checkout? with
  | some checkout =>
      obtain ⟨checksOut, patience⟩ := (Task.serves_checkout inside).mp serves
      rw [own checkout inside]
      exact Pool.attends_of_checkout checksOut patience
        (proceed_checkout_leads precedes inside _) _
  | none =>
      obtain ⟨agent, phase, due⟩ := task
      cases phase with
      | prewarming made metadata attempt =>
          obtain rfl : job? = none := serves
          apply prewarmConnected_leads precedes
          · exact fun _ _ _ _ =>
              .inl (Task.continues_of_not_returning rfl rfl trivial rfl)
          · exact fun _ => .inr ⟨rfl, rfl⟩
          · exact ⟨rfl, trivial⟩
      | returnProbe connection =>
          obtain ⟨job, ticket, rfl, returns⟩ := serves
          apply returnProbed_leads precedes
          refine ⟨?_, trivial⟩
          cases job <;> first | rfl | cases returns
      | sweeping sweep current pending =>
          obtain rfl : job? = some .sweep := serves
          obtain ⟨tallies, rfl⟩ := tallies
          apply sweepProbed_leads precedes
          · intro _ due
            exact .inr ⟨rfl, rfl⟩
          · exact tallies
          · intro next other later due tallies probes
            exact .inl (Task.continues_of_not_returning rfl rfl ⟨tallies, probes⟩ rfl)
          · exact fun report probes => ⟨rfl, probes⟩
      | resting =>
          obtain rfl : job? = some .sweep := serves
          obtain rfl : agent = .checker := rests rfl
          change Attends site.wake before .checker (some .sweep) ⟨0, 0⟩
          rw [wake]
          split
          · exact none_leads precedes
          · apply sweep_leads precedes
            · intro _ due
              exact .inr ⟨rfl, rfl⟩
            · exact enough
            · intro next current later due tallies probes
              exact .inl (Task.continues_of_not_returning rfl rfl ⟨tallies, probes⟩ rfl)
            · exact fun report probes => ⟨rfl, probes⟩
      | joining thenDrop =>
          obtain rfl : job? = some (.shutdown thenDrop) := serves
          exact drain_leads precedes ⟨rfl, trivial⟩
      | _ => cases inside

/-- Whoever cannot go on leaves everything as it is. -/
theorem resume_leads {waits : Task → Prop} {ends : Pool.Answer → Prop} {agent : Agent}
    (goes : ∀ task, site.pool.task? agent = some task → site.pool.isReady site.now task = true →
      ((site.withPool (·.unpark agent)).proceed agent task.phase).Leads site.pool waits ends) :
    (site.resume agent).Leads site.pool waits ends := by
  rw [resume]
  split
  case h_1 task found =>
    split
    case isTrue ready => exact goes task found ready
    case isFalse => exact none_leads (.refl _)
  case h_2 => exact none_leads (.refl _)

end Site

end SessionPool

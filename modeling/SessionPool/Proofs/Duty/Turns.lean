import SessionPool.Proofs.Waits

/-!
# What a turn leads to

An agent that works has one thing to do: a checkout, the return of a connection, a sweep, the end of
a pool. If its turn does not end with the answer to that, it waits for the next thing on the same
way. Everybody else waits on as before, or has been told to look again. So whoever knows what an
agent waits for knows which answers can come of it.
-/

namespace SessionPool

namespace Pool

/-! ### What stays -/

/-- Whoever waits in the second pool waited in the first, and what was over there is over for
ever. -/
structure Precedes (before after : Pool) : Prop where
  old (task : Task) (present : task ∈ after.tasks) :
    ∃ earlier ∈ before.tasks, task = earlier ∨ task = earlier.notify
  stopped (stop : before.stopRequested = true) : after.stopRequested = true
  gone (dropped : before.dropped = true) : after.dropped = true

theorem Task.notify_notify (task : Task) : task.notify.notify = task.notify := by
  obtain ⟨agent, phase, due⟩ := task
  cases phase <;> rfl

namespace Precedes

theorem refl (pool : Pool) : pool.Precedes pool where
  old task present := ⟨task, present, .inl rfl⟩
  stopped stop := stop
  gone dropped := dropped

variable {before pool : Pool} (precedes : before.Precedes pool)

include precedes

/-- Whoever is told now may have been told before. -/
theorem of_told {after : Pool}
    (told : ∀ task ∈ after.tasks, ∃ old ∈ pool.tasks, task = old ∨ task = old.notify)
    (stop : after.stopRequested = pool.stopRequested) (dropped : after.dropped = pool.dropped) :
    before.Precedes after where
  old task present := by
    obtain ⟨old, known, rfl | rfl⟩ := told task present
    · exact precedes.old _ known
    · obtain ⟨earlier, first, rfl | rfl⟩ := precedes.old _ known
      · exact ⟨_, first, .inr rfl⟩
      · rw [Task.notify_notify]
        exact ⟨earlier, first, .inr rfl⟩
  stopped earlier := by
    rw [stop]
    exact precedes.stopped earlier
  gone earlier := by
    rw [dropped]
    exact precedes.gone earlier

theorem notifyOne : before.Precedes pool.notifyOne := by
  have first (tasks : List Task) (task : Task) (present : task ∈ notifyFirst tasks) :
      ∃ old ∈ tasks, task = old ∨ task = old.notify := by
    induction tasks with
    | nil => cases present
    | cons head rest ih =>
        rw [notifyFirst] at present
        split at present
        · rcases List.mem_cons.mp present with rfl | later
          · exact ⟨head, List.mem_cons_self, .inr rfl⟩
          · exact ⟨task, List.mem_cons_of_mem _ later, .inl rfl⟩
        · rcases List.mem_cons.mp present with rfl | later
          · exact ⟨task, List.mem_cons_self, .inl rfl⟩
          · obtain ⟨old, known, same⟩ := ih later
            exact ⟨old, List.mem_cons_of_mem _ known, same⟩
  exact precedes.of_told (first pool.tasks) rfl rfl

theorem notifyMany (count : Nat) : before.Precedes (Pool.notifyMany count pool) := by
  induction count generalizing pool with
  | zero => exact precedes
  | succ count ih => exact ih precedes.notifyOne

theorem unpark (agent : Agent) : before.Precedes (pool.unpark agent) := by
  refine precedes.of_told ?_ rfl rfl
  intro task present
  exact ⟨task, List.mem_of_mem_eraseP present, .inl rfl⟩

theorem reorder (tasks : List Task) : before.Precedes (pool.reorder tasks) := by
  rw [Pool.reorder]
  split
  case isTrue same =>
    refine precedes.of_told ?_ rfl rfl
    intro task present
    exact ⟨task, (List.isPerm_iff.mp same).mem_iff.mp present, .inl rfl⟩
  case isFalse => exact precedes

theorem putSession (ticket : Nat) (session : Session) :
    before.Precedes (pool.putSession ticket session) := by
  rw [Pool.putSession]
  split
  · exact ⟨precedes.old, precedes.stopped, precedes.gone⟩
  · exact precedes

end Precedes

/-! ### The probes of a sweep -/

/-- How many probes have been made, and how many of them found a dead session. -/
@[ext]
structure Probes where
  made : Nat
  failed : Nat
deriving DecidableEq, Repr

/-- The probes that a sweep has made so far, as far as they have been answered. -/
def Sweep.probes (sweep : Sweep) : Probes :=
  ⟨sweep.kept.length + sweep.evictedDead, sweep.evictedDead⟩

/-- The probes that a sweep has made, by its report. -/
def Report.probes (report : Report) : Probes :=
  ⟨report.checked - report.evictedIdle, report.evictedDead⟩

/-- One probe more, with this verdict. -/
def Probes.note (probes : Probes) (alive : Bool) : Probes :=
  ⟨probes.made + 1, if alive then probes.failed else probes.failed + 1⟩

/-- A sweep that has `left` connections still to examine, and has lost sight of none. -/
structure Sweep.Tallies (sweep : Sweep) (left : Nat) : Prop where
  checked_eq : sweep.checked = sweep.kept.length + sweep.evicted.length + left
  evicted_eq : sweep.evicted.length = sweep.evictedDead + sweep.evictedIdle
  /-- By the sweep's own count, the pool retains what has been kept and what is to be examined. -/
  le_retained : sweep.kept.length + left ≤ sweep.retained

namespace Sweep

variable {sweep : Sweep} {left : Nat}

theorem tallies_start {checked total : Nat} (le : checked ≤ total) :
    (start checked total).Tallies checked where
  checked_eq := by simp [start]
  evicted_eq := rfl
  le_retained := by simpa [start] using le

theorem probes_keep (sweep : Sweep) (connection : Connection) :
    (sweep.keep connection).probes = sweep.probes.note true := by
  simp [keep, probes, Probes.note]
  omega

theorem probes_evictDead (sweep : Sweep) (connection : Connection) :
    (sweep.evictDead connection).probes = sweep.probes.note false :=
  rfl

namespace Tallies

theorem keep (tallies : sweep.Tallies (left + 1)) (connection : Connection) :
    (sweep.keep connection).Tallies left := by
  obtain ⟨checked, evicted, retained⟩ := tallies
  constructor
  · simp [Sweep.keep]
    omega
  · exact evicted
  · simp [Sweep.keep]
    omega

theorem evictDead (tallies : sweep.Tallies (left + 1)) (connection : Connection) :
    (sweep.evictDead connection).Tallies left := by
  obtain ⟨checked, evicted, retained⟩ := tallies
  constructor
  · simp [Sweep.evictDead]
    omega
  · simp [Sweep.evictDead]
    omega
  · simp [Sweep.evictDead]
    omega

theorem evictIdle (tallies : sweep.Tallies (left + 1)) (connection : Connection) :
    (sweep.evictIdle connection).Tallies left := by
  obtain ⟨checked, evicted, retained⟩ := tallies
  constructor
  · simp [Sweep.evictIdle]
    omega
  · simp [Sweep.evictIdle]
    omega
  · simp [Sweep.evictIdle]
    omega

/-- A sweep that is over has evicted only what it has taken. -/
theorem evictedIdle_le (tallies : sweep.Tallies left) : sweep.evictedIdle ≤ sweep.checked := by
  obtain ⟨checked, evicted, retained⟩ := tallies
  omega

/-- The report of a sweep that is over says how many probes it has made. -/
theorem probes_report (tallies : sweep.Tallies 0) : sweep.report.probes = sweep.probes := by
  obtain ⟨checked, evicted, retained⟩ := tallies
  ext
  · simp only [report, Report.probes, probes]
    omega
  · rfl

end Tallies

end Sweep

/-! ### The ends of a checkout -/

/-- What an agent waits for in the middle of a checkout. -/
def Checkout.Waits (checkout : Checkout) (task : Task) : Prop :=
  task.agent = .caller checkout.caller ∧ task.checkout? = some checkout

/-- What a checkout can give at `now`. -/
inductive Checkout.Gives (checkout : Checkout) (now : Nat) : Answer → Prop where
  | lent (connection : Connection) : Gives checkout now (.ok (.lent ⟨checkout.caller, connection⟩))
  | noneFree (patience : checkout.patience = .never) : Gives checkout now (.ok .noneFree)
  | timedOut (deadline : Nat) (patience : checkout.patience = .upTo deadline)
      (late : deadline ≤ now) :
      Gives checkout now (.error (.timedOut (now - checkout.started)))
  | shutDown : Gives checkout now (.error .shutDown)
  | creationFailed (cause : SessionError) : Gives checkout now (.error (.creationFailed cause))

end Pool

/-- A turn in a pool, as it was before: whoever waits after it is as `waits` says or waited before,
and the turn is over only with an answer as `ends` says. -/
structure Turn.Leads (turn : Turn) (before : Pool) (waits : Pool.Task → Prop)
    (ends : Pool.Answer → Prop) : Prop where
  tasks (task : Pool.Task) (present : task ∈ turn.1.pool.tasks) :
    waits task ∨ ∃ earlier ∈ before.tasks, task = earlier ∨ task = earlier.notify
  stopped (stop : before.stopRequested = true) : turn.1.pool.stopRequested = true
  gone (dropped : before.dropped = true) : turn.1.pool.dropped = true
  answers (answer : Pool.Answer) (ended : turn.2 = some answer) : ends answer

/-- What is less is led to as well. -/
theorem Turn.Leads.mono {turn : Turn} {before : Pool} {waits waitsToo : Pool.Task → Prop}
    {ends endsToo : Pool.Answer → Prop} (leads : turn.Leads before waits ends)
    (waiting : ∀ task, waits task → waitsToo task)
    (ending : ∀ answer, ends answer → endsToo answer) : turn.Leads before waitsToo endsToo where
  tasks task present := (leads.tasks task present).imp_left (waiting task)
  stopped := leads.stopped
  gone := leads.gone
  answers answer ended := ending answer (leads.answers answer ended)

namespace Site

open Pool (Agent Phase Task Checkout Patience Report Sweep Answer)

variable {site : Site} {before : Pool} {waits : Task → Prop} {ends : Answer → Prop}

section Turns

variable (precedes : before.Precedes site.pool)

include precedes

theorem answer_leads {answer : Answer} (ended : ends answer) :
    (site.answer answer).Leads before waits ends where
  tasks task present := .inr (precedes.old task present)
  stopped := precedes.stopped
  gone := precedes.gone
  answers _ same := Option.some.inj same ▸ ended

/-- An agent that neither waits nor answers has nothing to do any more. -/
theorem none_leads : Turn.Leads (site, none) before waits ends where
  tasks task present := .inr (precedes.old task present)
  stopped := precedes.stopped
  gone := precedes.gone
  answers _ absent := nomatch absent

theorem wait_leads {agent : Agent} {phase : Phase} {due : Option Nat}
    (waiting : waits ⟨agent, phase, due⟩) :
    (site.wait agent phase due).Leads before waits ends where
  tasks task present := by
    rcases List.mem_append.mp present with old | last
    · exact .inr (precedes.old task old)
    · rw [List.mem_singleton.mp last]
      exact .inl waiting
  stopped := precedes.stopped
  gone := precedes.gone
  answers _ absent := nomatch absent

theorem probe_leads {agent : Agent} (session : Session) {phase : Phase}
    (waiting : ∀ due, waits ⟨agent, phase, due⟩) :
    (site.probe agent session phase).Leads before waits ends := by
  rw [probe]
  apply wait_leads
  · exact ⟨precedes.old, precedes.stopped, precedes.gone⟩
  · exact waiting _

/-- The checker rests, and something else is over. -/
theorem rest_leads {answer : Answer} (rests : ∀ due, waits ⟨.checker, .resting, due⟩)
    (ended : ends answer) : (site.rest.answer answer).Leads before waits ends := by
  have rested : Turn.Leads (site.wait .checker .resting
      (Instant.after? site.now site.pool.config.validationInterval)) before waits ends :=
    wait_leads precedes (rests _)
  exact ⟨rested.tasks, rested.stopped, rested.gone, fun _ same => Option.some.inj same ▸ ended⟩

theorem connect_leads {agent : Agent} {phase : Metadata → Attempt → Phase}
    (waiting : ∀ metadata attempt due, waits ⟨agent, phase metadata attempt, due⟩) :
    (site.connect agent phase).Leads before waits ends := by
  rw [connect]
  apply wait_leads
  · exact ⟨precedes.old, precedes.stopped, precedes.gone⟩
  · exact waiting _ _ _

end Turns

/-- What has been disposed of left nobody behind. -/
theorem precedes_disposeAll (site : Site) (precedes : before.Precedes site.pool)
    (connections : List Connection) : before.Precedes (site.disposeAll connections).pool := by
  rw [Pool.pool_disposeAll]
  exact ⟨precedes.old, precedes.stopped, precedes.gone⟩

/-! ### Checkouts -/

section Checkout

variable {checkout : Checkout} (precedes : before.Precedes site.pool)

include precedes

theorem lend_leads {connection : Connection}
    (ended : ∀ connection, ends (.ok (.lent ⟨checkout.caller, connection⟩))) :
    (site.lend checkout connection).Leads before waits ends := by
  rw [lend]
  apply answer_leads
  · exact ⟨precedes.old, precedes.stopped, precedes.gone⟩
  · exact ended _

theorem refuse_leads {error : PoolError} (ended : ends (.error error)) :
    (site.refuse error).Leads before waits ends := by
  rw [refuse]
  apply answer_leads
  · exact ⟨precedes.old, precedes.stopped, precedes.gone⟩
  · exact ended

/-- A caller that looks for a connection gets one, waits for one, or is refused for a reason. -/
theorem seek_leads :
    (site.seek checkout).Leads before checkout.Waits (checkout.Gives site.now) := by
  rw [seek]
  dsimp only
  split
  case isTrue => exact refuse_leads precedes .shutDown
  case isFalse =>
    split
    case h_1 connection rest _ =>
      have taken : before.Precedes { site.pool with
          idle := rest, active := connection.id :: site.pool.active } :=
        ⟨precedes.old, precedes.stopped, precedes.gone⟩
      split
      · apply probe_leads
        · exact taken
        · exact fun _ => ⟨rfl, rfl⟩
      · exact lend_leads taken .lent
    case h_2 =>
      split
      · apply connect_leads
        · exact ⟨precedes.old, precedes.stopped, precedes.gone⟩
        · exact fun _ _ _ => ⟨rfl, rfl⟩
      · split
        case h_1 patience =>
          rw [decline]
          apply answer_leads
          · exact ⟨precedes.old, precedes.stopped, precedes.gone⟩
          · exact .noneFree patience
        case h_2 deadline patience =>
          split
          case isTrue late => exact refuse_leads precedes (.timedOut deadline patience late)
          case isFalse => exact wait_leads precedes ⟨rfl, rfl⟩
        case h_3 => exact wait_leads precedes ⟨rfl, rfl⟩

theorem borrowProbed_leads (connection : Connection) :
    (site.borrowProbed checkout connection).Leads before checkout.Waits
      (checkout.Gives site.now) := by
  have released : before.Precedes { site.pool with
      active := site.pool.active.erase connection.id, total := site.pool.total - 1 } :=
    ⟨precedes.old, precedes.stopped, precedes.gone⟩
  rw [borrowProbed]
  dsimp only
  split
  · exact lend_leads precedes .lent
  · split
    · apply refuse_leads
      · exact ⟨released.old, released.stopped, released.gone⟩
      · exact .shutDown
    · apply seek_leads
      exact ⟨released.old, released.stopped, released.gone⟩

/-- A caller that has waited for its connect waits for nothing more. -/
theorem checkoutConnected_leads (metadata : Metadata) (attempt : Attempt)
    (lent : ∀ connection, ends (.ok (.lent ⟨checkout.caller, connection⟩)))
    (shut : ends (.error .shutDown)) (failed : ∀ cause, ends (.error (.creationFailed cause))) :
    (site.checkoutConnected checkout metadata attempt).Leads before waits ends := by
  rw [checkoutConnected, connected]
  rcases site.server.finishConnect attempt with ⟨server, error | session⟩
  · apply refuse_leads _ (failed error)
    have released : before.Precedes { site.pool with total := site.pool.total - 1 } :=
      ⟨precedes.old, precedes.stopped, precedes.gone⟩
    exact released.notifyOne
  · dsimp only
    split
    · apply refuse_leads _ shut
      exact ⟨precedes.old, precedes.stopped, precedes.gone⟩
    · apply lend_leads _ lent
      exact ⟨precedes.old, precedes.stopped, precedes.gone⟩

end Checkout

theorem checkout_leads (precedes : before.Precedes site.pool) (caller : Nat)
    (patience : Patience) :
    (site.checkout caller patience).Leads before
      (Checkout.Waits ⟨caller, site.now, patience⟩)
      (Checkout.Gives ⟨caller, site.now, patience⟩ site.now) := by
  rw [checkout]
  split
  · apply answer_leads
    · exact ⟨precedes.old, precedes.stopped, precedes.gone⟩
    · exact .shutDown
  · apply seek_leads
    exact ⟨precedes.old, precedes.stopped, precedes.gone⟩

/-! ### Returns -/

section Return

variable (precedes : before.Precedes site.pool) (done : ends (.ok .done))

include precedes done

theorem requeue_leads (connection : Connection) (healthy : Bool) :
    (site.requeue connection healthy).Leads before waits ends := by
  rw [requeue]
  dsimp only
  split
  · apply answer_leads _ done
    exact ⟨precedes.old, precedes.stopped, precedes.gone⟩
  · split
    · apply answer_leads _ done
      exact ⟨precedes.old, precedes.stopped, precedes.gone⟩
    · split
      · apply answer_leads _ done
        have released : before.Precedes { site.pool with
            active := site.pool.active.erase connection.id, total := site.pool.total - 1 } :=
          ⟨precedes.old, precedes.stopped, precedes.gone⟩
        exact ⟨released.notifyOne.old, released.notifyOne.stopped, released.notifyOne.gone⟩
      · apply answer_leads _ done
        have kept : before.Precedes { site.pool with
            active := site.pool.active.erase connection.id
            idle := site.pool.idle ++ [connection] } :=
          ⟨precedes.old, precedes.stopped, precedes.gone⟩
        exact kept.notifyOne

/-- A returned connection is probed only as long as the pool is there. -/
theorem takeBack_leads {agent : Agent} (connection : Connection)
    (probes : site.pool.isPresent = true →
      ∀ connection due, waits ⟨agent, .returnProbe connection, due⟩) :
    (site.takeBack agent connection).Leads before waits ends := by
  rw [takeBack]
  dsimp only
  split
  case isTrue =>
    apply answer_leads _ done
    exact precedes
  case isFalse absent =>
    have present : site.pool.isPresent = true := by simpa using absent
    split
    · split
      · exact probe_leads precedes _ fun due => probes present _ due
      · exact requeue_leads precedes done _ _
    · exact requeue_leads precedes done _ _

theorem returnProbed_leads (connection : Connection) :
    (site.returnProbed connection).Leads before waits ends := by
  rw [returnProbed]
  split <;> exact requeue_leads precedes done _ _

/-- A lease that ends leaves nobody behind. -/
theorem takeBack_endLease_leads {agent : Agent} (ticket : Nat) (connection : Connection)
    (probes : site.pool.isPresent = true →
      ∀ connection due, waits ⟨agent, .returnProbe connection, due⟩) :
    ((site.withPool (·.endLease ticket)).takeBack agent connection).Leads before waits ends := by
  apply takeBack_leads _ done
  · exact probes
  · exact ⟨precedes.old, precedes.stopped, precedes.gone⟩

variable {agent : Agent} (invalid : ends (.error .invalidHandle))
  (probes : site.pool.isPresent = true →
    ∀ connection due, waits ⟨agent, .returnProbe connection, due⟩)

include probes

theorem discard_leads (ticket : Nat) : (site.discard agent ticket).Leads before waits ends := by
  rw [discard]
  split
  · exact answer_leads precedes done
  · exact takeBack_endLease_leads precedes done ticket _ probes

include invalid

theorem release_leads (ticket : Nat) : (site.release agent ticket).Leads before waits ends := by
  rw [release]
  split
  · exact answer_leads precedes invalid
  · exact takeBack_endLease_leads precedes done ticket _ probes

theorem invalidate_leads (ticket : Nat) :
    (site.invalidate agent ticket).Leads before waits ends := by
  rw [invalidate]
  split
  · exact answer_leads precedes invalid
  · exact takeBack_endLease_leads precedes done ticket _ probes

end Return

section Other

variable (precedes : before.Precedes site.pool)

include precedes

theorem detach_leads (ticket : Nat) (invalid : ends (.error .invalidHandle))
    (detached : ∀ session, ends (.ok (.detached session))) :
    (site.detach ticket).Leads before waits ends := by
  rw [detach]
  split
  · exact answer_leads precedes invalid
  case h_2 lease _ =>
    apply answer_leads _ (detached _)
    dsimp only
    split
    · have released : before.Precedes { site.pool.endLease ticket with
          active := site.pool.active.erase lease.connection.id
          total := site.pool.total - 1 } :=
        ⟨precedes.old, precedes.stopped, precedes.gone⟩
      exact released.notifyOne
    · exact ⟨precedes.old, precedes.stopped, precedes.gone⟩

theorem throughLease_leads {α : Type} (ticket : Nat)
    (send : Server → Session → Server × Except SessionError α) (reply : α → Pool.Reply)
    (invalid : ends (.error .invalidHandle)) (fails : ∀ error, ends (.error (.session error)))
    (replies : ∀ rows, ends (.ok (reply rows))) :
    (site.throughLease ticket send reply).Leads before waits ends := by
  rw [throughLease]
  split
  · exact answer_leads precedes invalid
  · dsimp only
    apply answer_leads
    · exact ⟨precedes.old, precedes.stopped, precedes.gone⟩
    · split
      · exact replies _
      · exact fails _

theorem adopt_leads (session : Session) (done : ends (.ok .done))
    (shut : ends (.error .shutDown)) (full : ∀ max, ends (.error (.atCapacity max))) :
    (site.adopt session).Leads before waits ends := by
  rw [adopt]
  dsimp only
  split
  · apply answer_leads _ shut
    exact precedes
  · split
    · apply answer_leads _ (full _)
      exact precedes
    · apply answer_leads _ done
      let connection := Connection.ofSession session (.new site.pool.nextId site.now)
      have joined : before.Precedes { site.pool with
          nextId := site.pool.nextId + 1
          total := site.pool.total + 1
          idle := site.pool.idle ++ [connection] } :=
        ⟨precedes.old, precedes.stopped, precedes.gone⟩
      exact joined.notifyOne

/-! ### Sweeps -/

section Sweep

variable {agent : Agent} (rests : agent = .checker → ∀ due, waits ⟨.checker, .resting, due⟩)

include rests

theorem afterSweep_leads {report : Report} (ended : ends (.ok (.swept report))) :
    (site.afterSweep agent report).Leads before waits ends := by
  cases agent with
  | caller number => exact answer_leads precedes ended
  | checker =>
      change Turn.Leads (if site.pool.stopRequested then site.answer (.ok (.swept report))
        else site.rest.answer (.ok (.swept report))) before waits ends
      split
      · exact answer_leads precedes ended
      · exact rest_leads precedes (rests rfl) ended

theorem commit_leads {sweep : Sweep} (ended : ends (.ok (.swept sweep.report))) :
    (site.commit agent sweep).Leads before waits ends := by
  rw [commit]
  dsimp only
  split
  · apply afterSweep_leads _ rests ended
    have given : before.Precedes { site.pool with
        validating := site.pool.validating - sweep.checked
        total := site.pool.total - sweep.checked } :=
      ⟨precedes.old, precedes.stopped, precedes.gone⟩
    have kept := precedes_disposeAll { site with pool := _ } given sweep.kept
    have gone := precedes_disposeAll _ kept sweep.evicted
    exact ⟨gone.old, gone.stopped, gone.gone⟩
  · apply afterSweep_leads _ rests ended
    have put : before.Precedes { site.pool with
        validating := site.pool.validating - sweep.checked
        total := site.pool.total - sweep.evicted.length
        idle := sweep.kept ++ site.pool.idle } :=
      ⟨precedes.old, precedes.stopped, precedes.gone⟩
    have gone := precedes_disposeAll { site with pool := _ }
      (put.notifyMany sweep.checked) sweep.evicted
    exact ⟨gone.old, gone.stopped, gone.gone⟩

variable {sweep : Sweep}
  (probes : ∀ (next : Sweep) current later due, next.Tallies (List.length later + 1) →
    next.probes = sweep.probes → waits ⟨agent, .sweeping next current later, due⟩)
  (reports : ∀ report : Report, report.probes = sweep.probes → ends (.ok (.swept report)))

include probes reports

/-- A sweep goes on with the next probe, or reports the probes that it has made. -/
theorem examine_leads {pending : List Connection} (tallies : sweep.Tallies pending.length) :
    (site.examine agent sweep pending).Leads before waits ends := by
  induction pending generalizing sweep with
  | nil => exact commit_leads precedes rests (reports _ tallies.probes_report)
  | cons connection pending ih =>
      rw [examine]
      split
      · exact ih probes reports (tallies.evictIdle connection)
      · exact probe_leads precedes _ fun due => probes sweep connection pending due tallies rfl

omit probes reports in
/-- A sweep that begins has made no probes yet. -/
theorem sweep_leads (enough : site.pool.idle.length ≤ site.pool.total)
    (probes : ∀ (next : Sweep) current later due, next.Tallies (List.length later + 1) →
      next.probes = ⟨0, 0⟩ → waits ⟨agent, .sweeping next current later, due⟩)
    (reports : ∀ report : Report, report.probes = ⟨0, 0⟩ → ends (.ok (.swept report))) :
    (site.sweep agent).Leads before waits ends := by
  rw [sweep]
  dsimp only
  split
  · exact afterSweep_leads precedes rests (reports .zero rfl)
  · let sweep := Sweep.start site.pool.idle.length site.pool.total
    have begun : sweep.Tallies site.pool.idle.length := Sweep.tallies_start enough
    apply examine_leads _ rests _ _ begun
    · exact ⟨precedes.old, precedes.stopped, precedes.gone⟩
    · exact probes
    · exact reports

omit probes reports in
/-- A sweep that goes on has made one probe more. -/
theorem sweepProbed_leads {connection : Connection} {pending : List Connection}
    (tallies : sweep.Tallies (pending.length + 1))
    (probes : ∀ (next : Sweep) current later due, next.Tallies (List.length later + 1) →
      next.probes = sweep.probes.note (site.server.answers connection.session) →
        waits ⟨agent, .sweeping next current later, due⟩)
    (reports : ∀ report : Report,
      report.probes = sweep.probes.note (site.server.answers connection.session) →
        ends (.ok (.swept report))) :
    (site.sweepProbed agent sweep connection pending).Leads before waits ends := by
  rw [sweepProbed]
  split
  case isTrue alive =>
    rw [alive, ← Sweep.probes_keep sweep connection] at probes reports
    exact examine_leads precedes rests probes reports (tallies.keep connection)
  case isFalse dead =>
    rw [Bool.not_eq_true] at dead
    rw [dead, ← Sweep.probes_evictDead sweep connection] at probes reports
    exact examine_leads precedes rests probes reports (tallies.evictDead connection)

end Sweep

/-! ### Opening and closing -/

theorem prewarm_leads {agent : Agent} (made : Nat)
    (fills : ∀ made metadata attempt due, waits ⟨agent, .prewarming made metadata attempt, due⟩)
    (rests : ∀ due, waits ⟨.checker, .resting, due⟩) (opened : ends (.ok .opened)) :
    (site.prewarm agent made).Leads before waits ends := by
  rw [prewarm]
  split
  · exact connect_leads precedes fun metadata attempt due => fills made metadata attempt due
  · exact rest_leads precedes rests opened

theorem prewarmConnected_leads {agent : Agent} (made : Nat) (metadata : Metadata)
    (attempt : Attempt)
    (fills : ∀ made metadata attempt due, waits ⟨agent, .prewarming made metadata attempt, due⟩)
    (rests : ∀ due, waits ⟨.checker, .resting, due⟩) (opened : ends (.ok .opened)) :
    (site.prewarmConnected agent made metadata attempt).Leads before waits ends := by
  rw [prewarmConnected, connected]
  rcases site.server.finishConnect attempt with ⟨server, error | session⟩
  · apply rest_leads _ rests opened
    exact ⟨precedes.old, precedes.stopped, precedes.gone⟩
  · apply prewarm_leads _ _ fills rests opened
    exact ⟨precedes.old, precedes.stopped, precedes.gone⟩

theorem closed_leads {thenDrop : Bool} (done : ends (.ok .done)) :
    (site.closed thenDrop).Leads before waits ends := by
  apply answer_leads _ done
  refine ⟨precedes.old, precedes.stopped, ?_⟩
  intro dropped
  rw [withPool, precedes.gone dropped]
  rfl

theorem drain_leads {thenDrop : Bool} (done : ends (.ok .done)) :
    (site.drain thenDrop).Leads before waits ends := by
  rw [drain]
  apply closed_leads _ done
  apply precedes_disposeAll
  exact ⟨precedes.old, precedes.stopped, precedes.gone⟩

theorem shutdown_leads {agent : Agent} {thenDrop : Bool} (done : ends (.ok .done))
    (joins : ∀ due, waits ⟨agent, .joining thenDrop, due⟩) :
    (site.shutdown agent thenDrop).Leads before waits ends := by
  have told : before.Precedes
      { site.pool.notifyAll with isShutdown := true, stopRequested := true } := by
    have notified : before.Precedes site.pool.notifyAll := by
      refine precedes.of_told ?_ rfl rfl
      intro task present
      obtain ⟨old, known, rfl⟩ := List.mem_map.mp present
      exact ⟨old, known, .inr rfl⟩
    exact ⟨notified.old, fun _ => rfl, notified.gone⟩
  rw [shutdown]
  split
  · exact closed_leads precedes done
  · dsimp only
    split
    · exact wait_leads told (joins none)
    · exact drain_leads told done

end Other

end Site

end SessionPool

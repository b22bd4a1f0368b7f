import SessionPool.Proofs.Alone.Basic
import SessionPool.Proofs.Floor.Sweep
import SessionPool.Proofs.Order.Joinings

/-!
# A sweep with nothing in between

A sweep that nobody disturbs goes once through the queue, from the front. It evicts an unused
connection only as long as its own count, from which it has taken what it has evicted so far, is
above the floor. The floor is kept at that moment, and only against evictions of this kind: what the
sweep finds dead further on is evicted whatever the count, since nobody could use it. So a sweep
that has evicted anything for being unused leaves the pool with its floor, if one adds those that it
has found dead since.
-/

namespace SessionPool

namespace Pool

/-! ### Findings -/

/-- What a sweep makes of a connection when its turn comes. -/
inductive Verdict where
  /-- It has been unused for too long, and the sweep can spare it. -/
  | unused
  | alive
  | dead
deriving DecidableEq, Repr

/-- A connection that a sweep has examined. -/
structure Finding where
  connection : Connection
  verdict : Verdict
  /-- When its turn came. -/
  time : Nat
deriving DecidableEq, Repr

namespace Finding

/-- Whether the connection goes back into the queue. -/
def isKept (finding : Finding) : Bool := finding.verdict == .alive

/-- Whether it goes for being unused. -/
def isUnused (finding : Finding) : Bool := finding.verdict == .unused

/-- Whether it goes for being dead. -/
def isDead (finding : Finding) : Bool := finding.verdict == .dead

end Finding

/-- How many connections a sweep evicts. -/
def evictionsOf (findings : List Finding) : Nat := findings.countP (!·.isKept)

/-- What a sweep makes of a connection, if it takes the pool to have `retained`. -/
def verdictOn (config : Config) (answers : Session → Bool) (retained : Nat)
    (connection : Connection) (time : Nat) : Verdict :=
  if config.minConnections < retained &&
      connection.metadata.isIdleExpired config.maxIdleTime time then .unused
  else if answers connection.session then .alive
  else .dead

/-- The findings of a sweep that begins with a count of `retained` and takes off what it evicts. -/
def Examined (config : Config) (answers : Session → Bool) : Nat → List Finding → Prop
  | _, [] => True
  | retained, finding :: later =>
      finding.verdict = verdictOn config answers retained finding.connection finding.time ∧
        Examined config answers (if finding.isKept then retained else retained - 1) later

section Findings

variable {config : Config} {answers : Session → Bool} {retained : Nat}
  {before behind : List Finding} {last : Finding}

theorem evictionsOf_append (before behind : List Finding) :
    evictionsOf (before ++ behind) = evictionsOf before + evictionsOf behind :=
  List.countP_append

/-- What is evicted is unused or dead. -/
theorem evictionsOf_eq (findings : List Finding) : evictionsOf findings =
    findings.countP Finding.isDead + findings.countP Finding.isUnused := by
  induction findings with
  | nil => rfl
  | cons finding later ih =>
      obtain ⟨connection, verdict, time⟩ := finding
      rw [evictionsOf] at ih ⊢
      rw [List.countP_cons, List.countP_cons, List.countP_cons, ih]
      cases verdict <;> simp [Finding.isKept, Finding.isUnused, Finding.isDead] <;> omega

/-- Where nothing is unused, what is evicted is dead. -/
theorem evictionsOf_eq_dead {findings : List Finding}
    (used : ∀ finding ∈ findings, finding.isUnused = false) :
    evictionsOf findings = findings.countP Finding.isDead := by
  have none : findings.countP Finding.isUnused = 0 := by
    apply List.countP_eq_zero.mpr
    intro finding member
    rw [used finding member]
    exact Bool.false_ne_true
  rw [evictionsOf_eq, none, Nat.add_zero]

/-- From the last unused connection on, only the dead go. -/
theorem evictionsOf_append_cons (unused : last.isUnused = true)
    (used : ∀ finding ∈ behind, finding.isUnused = false) :
    evictionsOf (before ++ last :: behind) =
      evictionsOf before + (behind.countP Finding.isDead + 1) := by
  have goes : last.isKept = false := by
    rw [Finding.isKept, beq_iff_eq.mp unused]
    rfl
  rw [evictionsOf_append, ← evictionsOf_eq_dead used]
  exact congrArg _ (List.countP_cons_of_pos (by simp [goes]))

/-- An unused connection goes only if what has gone before leaves more than the floor. -/
theorem Examined.floor_lt (examined : Examined config answers retained (before ++ last :: behind))
    (unused : last.isUnused = true) : config.minConnections + evictionsOf before < retained := by
  induction before generalizing retained with
  | nil =>
      have verdict : last.verdict = .unused := beq_iff_eq.mp unused
      have rule := examined.1
      rw [verdict, verdictOn] at rule
      split at rule
      case isTrue spare => exact of_decide_eq_true (Bool.and_eq_true_iff.mp spare).1
      case isFalse => split at rule <;> contradiction
  | cons finding before ih =>
      have later := ih examined.2
      rw [evictionsOf, List.countP_cons]
      rw [evictionsOf] at later
      cases kept : finding.isKept <;> simp [kept] at later ⊢ <;> omega

/-- What is left and the dead behind the last unused connection are at least the floor. -/
theorem Examined.floor_le_add
    (examined : Examined config answers retained (before ++ last :: behind))
    (unused : last.isUnused = true) (used : ∀ finding ∈ behind, finding.isUnused = false)
    {left : Nat} (rest : left + evictionsOf (before ++ last :: behind) = retained) :
    config.minConnections ≤ left + behind.countP Finding.isDead := by
  have spared := examined.floor_lt unused
  rw [evictionsOf_append_cons unused used] at rest
  omega

/-- What is left is at least the floor if the last unused connection and the dead behind it could all
be spared, and only then. -/
theorem floor_le_left_iff (unused : last.isUnused = true)
    (used : ∀ finding ∈ behind, finding.isUnused = false)
    {left : Nat} (rest : left + evictionsOf (before ++ last :: behind) = retained) :
    config.minConnections ≤ left ↔
      config.minConnections + evictionsOf before + behind.countP Finding.isDead < retained := by
  rw [evictionsOf_append_cons unused used] at rest
  omega

/-- An unused connection has been unused for longer than the limit when its turn comes. -/
theorem Examined.isIdleExpired {findings : List Finding} {finding : Finding}
    (examined : Examined config answers retained findings) (member : finding ∈ findings)
    (unused : finding.isUnused = true) :
    finding.connection.metadata.isIdleExpired config.maxIdleTime finding.time = true := by
  induction findings generalizing retained with
  | nil => exact absurd member List.not_mem_nil
  | cons first later ih =>
      rcases List.mem_cons.mp member with rfl | member
      · have verdict : finding.verdict = .unused := beq_iff_eq.mp unused
        have rule := examined.1
        rw [verdict, verdictOn] at rule
        split at rule
        case isTrue spare => exact (Bool.and_eq_true_iff.mp spare).2
        case isFalse => split at rule <;> contradiction
      · exact ih examined.2 member

end Findings

namespace Sweep

/-- One connection more has been examined. -/
def note (sweep : Sweep) (finding : Finding) : Sweep :=
  match finding.verdict with
  | .unused => sweep.evictIdle finding.connection
  | .alive => sweep.keep finding.connection
  | .dead => sweep.evictDead finding.connection

theorem retained_note (sweep : Sweep) (finding : Finding) : (sweep.note finding).retained =
    if finding.isKept then sweep.retained else sweep.retained - 1 := by
  obtain ⟨connection, verdict, time⟩ := finding
  cases verdict <;> rfl

/-- A sweep adds what it finds to what it has. -/
theorem foldl_note (sweep : Sweep) (findings : List Finding) :
    let after := findings.foldl note sweep
    after.checked = sweep.checked ∧
      after.kept = sweep.kept ++ (findings.filter (·.isKept)).map (·.connection) ∧
      after.evicted.length = sweep.evicted.length + evictionsOf findings ∧
      after.evictedDead = sweep.evictedDead + findings.countP Finding.isDead ∧
      after.evictedIdle = sweep.evictedIdle + findings.countP Finding.isUnused := by
  induction findings generalizing sweep with
  | nil => simp [evictionsOf]
  | cons finding later ih =>
      obtain ⟨checked, kept, evicted, dead, idle⟩ := ih (sweep.note finding)
      obtain ⟨connection, verdict, time⟩ := finding
      rw [evictionsOf] at evicted ⊢
      dsimp only [List.foldl_cons]
      rw [checked, kept, evicted, dead, idle]
      cases verdict <;>
        simp [note, keep, evictIdle, evictDead, Finding.isKept, Finding.isUnused, Finding.isDead]
        <;> omega

end Sweep

end Pool

namespace Site

open Pool (Agent Sweep)

variable {site : Site} {agent : Agent} {sweep : Sweep}

theorem answer_afterSweep (report : Pool.Report) :
    (site.afterSweep agent report).2 = some (.ok (.swept report)) := by
  unfold afterSweep
  split
  · rfl
  · split <;> rfl

/-- A sweep is over when all connections have been examined. -/
theorem answer_commit : (site.commit agent sweep).2 = some (.ok (.swept sweep.report)) :=
  answer_afterSweep sweep.report

theorem total_afterSweep (report : Pool.Report) :
    (site.afterSweep agent report).1.pool.total = site.pool.total := by
  unfold afterSweep
  split
  · rfl
  · split <;> rfl

/-- In a pool that lends, those that have been evicted are gone. -/
theorem total_commit (running : site.pool.isShutdown = false) :
    (site.commit agent sweep).1.pool.total = site.pool.total - sweep.evicted.length := by
  rw [commit]
  dsimp only
  rw [total_afterSweep]
  change Pool.total (Site.pool (disposeAll _ sweep.evicted)) = _
  rw [total_disposeAll, running, if_neg Bool.false_ne_true]
  exact Pool.total_notifyMany _ _

theorem idle_commit (running : site.pool.isShutdown = false) :
    (site.commit agent sweep).1.pool.idle = sweep.kept ++ site.pool.idle := by
  have ended : (site.examine agent sweep []).2.isSome = true :=
    Option.isSome_of_eq_some answer_commit
  exact idle_examine running ended

end Site

/-! ### The sweep of an agent that works alone -/

namespace World

open Pool (Agent Phase Sweep Finding Examined evictionsOf)

namespace Trace

/-- Connections are examined one after the other, and nobody else dies of it. -/
theorem Shows.examines {trace : Trace} {index : Nat} {agent : Agent} (site : Site) {sweep : Sweep}
    {pending : List Connection} {lates : List Nat}
    (fresh : ∀ other ∈ site.pool.tasks, other.agent ≠ agent)
    (shows : trace.Shows index agent site.now (site.examine agent sweep pending))
    (enough : pending.length ≤ lates.length) :
    ∃ later server findings, findings.map (·.connection) = pending ∧
      Examined site.pool.config site.server.answers sweep.retained findings ∧
      (trace.alone index agent lates).Shows index agent later
        (Site.commit ⟨later, server, site.pool⟩ agent (findings.foldl Sweep.note sweep)) := by
  induction pending generalizing site sweep trace lates with
  | nil =>
      have shows : trace.Shows index agent site.now (site.commit agent sweep) := shows
      rw [shows.alone_eq Site.answer_commit]
      exact ⟨site.now, site.server, [], rfl, trivial, shows⟩
  | cons connection pending ih =>
      -- One finding more in front of those of the rest of the queue.
      have found {later : Nat} {server : Server} {findings : List Finding} (finding : Finding)
          (same : finding.connection = connection)
          (rule : finding.verdict = Pool.verdictOn site.pool.config site.server.answers
            sweep.retained connection finding.time)
          (rest : findings.map (·.connection) = pending)
          (examined : Examined site.pool.config site.server.answers (sweep.note finding).retained
            findings)
          (shows : (trace.alone index agent lates).Shows index agent later
            (Site.commit ⟨later, server, site.pool⟩ agent
              (findings.foldl Sweep.note (sweep.note finding)))) :
          ∃ later server findings, findings.map (·.connection) = connection :: pending ∧
            Examined site.pool.config site.server.answers sweep.retained findings ∧
            (trace.alone index agent lates).Shows index agent later
              (Site.commit ⟨later, server, site.pool⟩ agent (findings.foldl Sweep.note sweep)) := by
        refine ⟨later, server, finding :: findings, ?_, ⟨?_, ?_⟩, shows⟩
        · rw [List.map_cons, same, rest]
        · rw [same]
          exact rule
        · rw [← Sweep.retained_note]
          exact examined
      rw [Site.examine] at shows
      split at shows
      case isTrue spare =>
        obtain ⟨later, server, findings, rest, examined, shows⟩ :=
          ih site fresh shows (Nat.le_of_succ_le enough)
        exact found ⟨connection, .unused, site.now⟩ rfl (if_pos spare).symm rest examined shows
      case isFalse keep =>
        cases lates with
        | nil => exact absurd enough (Nat.not_succ_le_zero _)
        | cons late lates =>
            let probing : Site :=
              { site with server := site.server.startProbe connection.session }
            have waits : trace.Shows index agent site.now (probing.wait agent
              (.sweeping sweep connection pending)
              (some (site.now + site.server.probeTime connection.session))) := shows
            have freshThen : ∀ other ∈ probing.pool.tasks, other.agent ≠ agent := fresh
            obtain ⟨asked, next, -, -, goes, shows⟩ := waits.alone_cons freshThen late lates
            let answered : Site := { probing with now := asked }
            have same : answered.server.answers = site.server.answers :=
              funext (site.server.answers_startProbe connection.session)
            have fewer : pending.length ≤ lates.length := Nat.le_of_succ_le_succ enough
            cases verdict : site.server.answers connection.session with
            | true =>
                have here : answered.proceed agent (.sweeping sweep connection pending) =
                    answered.examine agent (sweep.keep connection) pending :=
                  if_pos ((congrFun same _).trans verdict)
                rw [here] at shows
                obtain ⟨later, server, findings, rest, examined, shows⟩ :=
                  ih answered fresh shows fewer
                rw [same] at examined
                rw [← goes] at shows
                refine found ⟨connection, .alive, site.now⟩ rfl ?_ rest examined shows
                rw [Pool.verdictOn, verdict]
                exact (if_neg keep).symm
            | false =>
                have here : answered.proceed agent (.sweeping sweep connection pending) =
                    answered.examine agent (sweep.evictDead connection) pending :=
                  if_neg (ne_true_of_eq_false ((congrFun same _).trans verdict))
                rw [here] at shows
                obtain ⟨later, server, findings, rest, examined, shows⟩ :=
                  ih answered fresh shows fewer
                rw [same] at examined
                rw [← goes] at shows
                refine found ⟨connection, .dead, site.now⟩ rfl ?_ rest examined shows
                rw [Pool.verdictOn, verdict]
                exact (if_neg keep).symm

end Trace

/-- A move with which an agent begins to sweep a pool, and the pool as the sweep finds it. -/
inductive BeginsSweep (world : World) (index : Nat) (pool : Pool) : Move → Agent → Pool → Prop where
  | called {request : Request} (accepted : world.accepts request = true)
      (asks : request.asks? world = some (index, .sweep)) :
      BeginsSweep world index pool (.act (.call request)) (.caller world.callers) pool
  | woken {task : Pool.Task} (found : pool.task? .checker = some task)
      (rests : task.phase = .resting) (ready : pool.isReady world.now task = true)
      (unstopped : pool.stopRequested = false) :
      BeginsSweep world index pool (.act (.resume (.inPool index .checker))) .checker
        (pool.unpark .checker)

/-- What comes of a sweep that nobody disturbs. -/
structure SweptAlone (world : World) (index : Nat) (pool : Pool) (agent : Agent) (run : Trace)
    (findings : List Finding) (after : Pool) : Prop where
  queue_eq : findings.map (·.connection) = pool.idle
  examined : Examined pool.config world.server.answers pool.total findings
  /-- What goes for being unused has been unused for too long when its turn comes. -/
  expired (finding : Finding) (member : finding ∈ findings) (unused : finding.isUnused = true) :
    finding.connection.metadata.isIdleExpired pool.config.maxIdleTime finding.time = true
  events : run.events = [⟨.inPool index agent, .ok (.pool (.swept ⟨pool.idle.length,
    findings.countP Finding.isDead, findings.countP Finding.isUnused⟩))⟩]
  found : run.world.pools[index]? = some after
  /-- What has been found alive is idle as before. -/
  idle_eq : after.idle = (findings.filter (·.isKept)).map (·.connection)
  total_eq : after.total + evictionsOf findings = pool.total
  /-- A pool that ends below its floor has got there by what was found dead behind the last unused
  connection. -/
  floor_le_add {before behind : List Finding} {last : Finding}
    (parts : findings = before ++ last :: behind) (unused : last.isUnused = true)
    (used : ∀ finding ∈ behind, finding.isUnused = false) :
    pool.config.minConnections ≤ after.total + behind.countP Finding.isDead
  /-- When the last unused connection goes, the pool has more than its floor. What is found dead
  behind it goes all the same, so only without that the floor is sure to be kept. -/
  floor_le_iff {before behind : List Finding} {last : Finding}
    (parts : findings = before ++ last :: behind) (unused : last.isUnused = true)
    (used : ∀ finding ∈ behind, finding.isUnused = false) :
    pool.config.minConnections + evictionsOf before < pool.total ∧
      (pool.config.minConnections ≤ after.total ↔
        pool.config.minConnections + evictionsOf before + behind.countP Finding.isDead < pool.total)

section Begun

variable {world : World} {index : Nat} {pool before : Pool} {move : Move} {agent : Agent}
  (possible : Possible world) (found : world.pools[index]? = some pool)
  (running : pool.isShutdown = false) (begins : world.BeginsSweep index pool move agent before)

include possible found running begins

/-- However a sweep begins, its agent has nothing else to do in the pool. -/
theorem BeginsSweep.shows :
    (Trace.move ⟨world, []⟩ move).Shows index agent world.now ((world.site before).sweep agent) ∧
      (∀ other ∈ before.tasks, other.agent ≠ agent) ∧ before.idle = pool.idle ∧
      before.total = pool.total ∧ before.config = pool.config ∧ before.isShutdown = false := by
  have sound := possible.sound pool (List.mem_of_getElem? found)
  cases begins with
  | called accepted asks =>
      exact ⟨Trace.shows_call accepted asks found, fun _ => sound.agent_ne_callers, rfl, rfl, rfl,
        running⟩
  | woken known rests ready unstopped =>
      refine ⟨?_, sound.agent_ne known, rfl, rfl, rfl, running⟩
      have shows := Trace.shows_resume .checker found
      have goes : (world.site pool).resume .checker = (world.site (pool.unpark .checker)).wake := by
        rw [Site.resume_eq_proceed known ready, rests]
        rfl
      have sweeps : (world.site (pool.unpark .checker)).wake =
          (world.site (pool.unpark .checker)).sweep .checker := by
        apply if_neg
        change ¬ (pool.stopRequested || pool.isShutdown) = true
        simp [unstopped, running]
      rw [goes, sweeps] at shows
      exact shows

/-- One sweep keeps the floor when it evicts for being unused. It goes once through the queue, and
once it has evicted anything for being unused, the pool and the dead sessions behind the last one of
these are together at least the floor. The pool alone is that if and only if there are not too many
of those. -/
theorem sweptAlone_of_begins {lates : List Nat} (enough : pool.idle.length ≤ lates.length) :
    ∃ findings after, world.SweptAlone index pool agent
      (Trace.alone index agent lates (Trace.move ⟨world, []⟩ move)) findings after := by
  obtain ⟨shows, fresh, idle, total, config, lends⟩ :=
    begins.shows possible found running
  let drained : Site := { world.site before with
    pool := { before with idle := [], validating := before.validating + before.idle.length } }
  let begun := Sweep.start before.idle.length before.total
  have sweeps : (world.site before).sweep agent = drained.examine agent begun before.idle :=
    if_neg (by simp [site, lends])
  rw [sweeps] at shows
  rw [← idle] at enough
  obtain ⟨later, server, findings, queue, examined, ended⟩ :=
    Trace.Shows.examines drained fresh shows enough
  have still : (Site.mk later server drained.pool).pool.isShutdown = false := lends
  obtain ⟨checked, kept, evicted, dead, unused⟩ := begun.foldl_note findings
  have reports : (findings.foldl Sweep.note begun).report = ⟨pool.idle.length,
      findings.countP Finding.isDead, findings.countP Finding.isUnused⟩ := by
    rw [Sweep.report, checked, dead, unused, ← idle]
    simp [begun, Sweep.start]
  have evictions : (findings.foldl Sweep.note begun).evicted.length = evictionsOf findings :=
    evicted.trans (Nat.zero_add _)
  have fits : evictionsOf findings ≤ pool.total := by
    have some : evictionsOf findings ≤ findings.length := List.countP_le_length
    have length := congrArg List.length queue
    have enough := (possible.sound pool (List.mem_of_getElem? found)).idle_le_total
    rw [List.length_map, idle] at length
    omega
  have examined : Examined pool.config world.server.answers pool.total findings := by
    rw [← config, ← total]
    exact examined
  have left : (Site.commit ⟨later, server, drained.pool⟩ agent
      (findings.foldl Sweep.note begun)).1.pool.total + evictionsOf findings = pool.total := by
    rw [Site.total_commit still, evictions]
    change before.total - evictionsOf findings + evictionsOf findings = pool.total
    omega
  refine ⟨findings, _, queue.trans idle, examined, fun _ => examined.isIdleExpired, ?_, ended.found,
    ?_, left, ?_, ?_⟩
  · rw [ended.events_eq_singleton Site.answer_commit, reports]
    rfl
  · rw [Site.idle_commit still, kept]
    exact List.append_nil _
  · rintro front behind last rfl gone used
    exact examined.floor_le_add gone used left
  · rintro front behind last rfl gone used
    exact ⟨examined.floor_lt gone, Pool.floor_le_left_iff gone used left⟩

end Begun

/-- A pool with a floor of one and two idle sessions. The first has been unused for too long, and
the second has come back just now and has died. -/
def dying : World :=
  let config : Config :=
    { Config.default with
      minConnections := 1
      maxConnections := 2
      maxIdleTime := 5
      testOnBorrow := false }
  (Trace.follow ⟨new, []⟩ [.call (.openPool config), .resume (.inPool 0 (.caller 0)),
    .call (.get 0), .call (.get 0), .resume (.inPool 0 (.caller 2)), .call (.release ⟨0, 1⟩),
    .passTo 10, .call (.release ⟨0, 2⟩), .instruct (.kill 2)]).world

/-- The first session is evicted because two are more than the floor. It was alive, and then the
second turns out to be dead. -/
theorem sweptAlone_of_begins_dying :
    ∃ pool, dying.pools[0]? = some pool ∧ pool.isShutdown = false ∧
      pool.config.minConnections = 1 ∧ pool.idle.map (·.name) = [1, 2] ∧
      (∀ connection ∈ pool.idle, connection.name = 1 →
        dying.server.answers connection.session = true) ∧
      pool.idle.length ≤ [0, 0].length ∧
      dying.BeginsSweep 0 pool (.act (.call (.healthCheck 0))) (.caller 5) pool ∧
      let run := Trace.alone 0 (.caller 5) [0, 0]
        (Trace.move ⟨dying, []⟩ (.act (.call (.healthCheck 0))))
      run.events = [⟨.inPool 0 (.caller 5), .ok (.pool (.swept ⟨2, 1, 1⟩))⟩] ∧
        ∃ findings after, dying.SweptAlone 0 pool (.caller 5) run findings after ∧
          after.total = 0 := by
  have possible : Possible dying := (Reachable.follow .new _).possible
  have found : dying.pools[0]? = some (dying.pools.head (by decide)) := by decide
  have running : (dying.pools.head (by decide)).isShutdown = false := by decide
  have begins : dying.BeginsSweep 0 (dying.pools.head (by decide))
      (.act (.call (.healthCheck 0))) (.caller 5) (dying.pools.head (by decide)) :=
    .called (by decide) rfl
  have enough : (dying.pools.head (by decide)).idle.length ≤ [0, 0].length := by decide
  obtain ⟨findings, after, swept⟩ := sweptAlone_of_begins possible found running begins enough
  refine ⟨_, found, running, by decide, by decide, by decide, enough, begins, by decide, findings,
    after, swept, ?_⟩
  have empty : ((Trace.alone 0 (.caller 5) [0, 0] (Trace.move ⟨dying, []⟩
      (.act (.call (.healthCheck 0))))).world.pools[0]?).map (·.total) = some 0 := by decide
  rw [swept.found] at empty
  exact Option.some.inj empty

/-- The floor itself is not sure to be kept. The sweep evicts the first session, which is alive, for
being unused, and the pool ends without any. -/
theorem not_floor_le_dying :
    let run := Trace.alone 0 (.caller 5) [0, 0]
      (Trace.move ⟨dying, []⟩ (.act (.call (.healthCheck 0))))
    ∃ pool after, dying.pools[0]? = some pool ∧ pool.isShutdown = false ∧
      (∀ connection ∈ pool.idle, connection.name = 1 →
        dying.server.answers connection.session = true ∧
          connection.metadata.isIdleExpired pool.config.maxIdleTime dying.now = true) ∧
      dying.BeginsSweep 0 pool (.act (.call (.healthCheck 0))) (.caller 5) pool ∧
      run.events = [⟨.inPool 0 (.caller 5), .ok (.pool (.swept ⟨2, 1, 1⟩))⟩] ∧
      run.world.pools[0]? = some after ∧ ¬ pool.config.minConnections ≤ after.total := by
  intro run
  have found : dying.pools[0]? = some (dying.pools.head (by decide)) := by decide
  have ended : run.world.pools[0]? = some (run.world.pools.head (by decide)) := by decide
  exact ⟨_, _, found, by decide, by decide, .called (by decide) rfl, by decide, ended, by decide⟩

end World

end SessionPool

import SessionPool.Proofs.Disposal.Undisturbed
import SessionPool.Proofs.Standing
import SessionPool.Proofs.Sweeping.Commit

/-!
# A sweep among others

While a sweep waits for the answer to a probe, others lend, return, sweep and shut down as they
like. What the sweep has taken is with its agent alone, so its next turn goes on with what is left
of the queue as it was, and only the clock, the server and the rest of the pool have moved on. This
follows the moves of a run one by one, and says how far the sweep has come before each of them.
-/

namespace SessionPool

open Pool (Agent Phase Sweep Finding Sound evictionsOf)

namespace World

/-! ### How far a sweep has come -/

/-- The world before a move of a run, by how many moves come before it. -/
def before (start : World) (run : List Move) (number : Nat) : World :=
  start.after (run.take number)

/-- Whether the sweep evicts a connection unseen whose turn comes in this world, `done` being what
it has examined before: the connection has been unused for too long, and without those that the
sweep has decided to evict the pool is above its floor. -/
def goesUnseen (world : World) (pool : Pool) (done : List Finding) (connection : Connection) :
    Bool :=
  connection.metadata.isIdleExpired pool.config.maxIdleTime world.now &&
    decide (pool.config.minConnections + evictionsOf done < pool.total)

/-- When the answer to the probe of a connection comes that is made in this world. -/
def answerTime (world : World) (connection : Connection) : Nat :=
  world.now + world.server.probeTime connection.session

/-- The answer to a probe that has been made in one move of a run is read in another: that is the
first in which the agent has its turn and finds the answer there. -/
structure ReadsAnswer (start : World) (run : List Move) (index : Nat) (agent : Agent)
    (connection : Connection) (asked answered : Nat) : Prop where
  lt : asked < answered
  own : run[answered]? = some (.act (.resume (.inPool index agent)))
  le_now : (start.before run asked).answerTime connection ≤ (start.before run answered).now
  first (number : Nat) (after : asked < number) (earlier : number < answered)
    (own : run[number]? = some (.act (.resume (.inPool index agent)))) :
    (start.before run number).now < (start.before run asked).answerTime connection

/-- What a sweep, which has begun with the first move of a run, has found out up to a certain move.
The queue and the total of the pool are those that it has begun with. -/
inductive Examines (start : World) (run : List Move) (index : Nat) (agent : Agent) (pool : Pool) :
    List Finding → Nat → Prop where
  | begins : Examines start run index agent pool [] 0
  /-- The connection is evicted unseen. The next one has its turn in the same move. -/
  | unseen {done : List Finding} {number : Nat} (connection : Connection)
      (before : Examines start run index agent pool done number)
      (goes : (start.before run number).goesUnseen pool done connection = true) :
      Examines start run index agent pool
        (done ++ [⟨connection, .unused, (start.before run number).now⟩]) number
  /-- The connection is probed, and goes if it is dead when the answer is read. -/
  | probed {done : List Finding} {number answered : Nat} (connection : Connection)
      (before : Examines start run index agent pool done number)
      (stays : (start.before run number).goesUnseen pool done connection = false)
      (asks : (start.before run (number + 1)).server =
        (start.before run number).server.startProbe connection.session)
      (reads : start.ReadsAnswer run index agent connection number answered) :
      Examines start run index agent pool
        (done ++ [⟨connection,
          if (start.before run answered).server.answers connection.session then .alive else .dead,
          (start.before run number).now⟩]) answered

/-- What the agent of a sweep has in hand that has come so far. -/
def sweepOf (pool : Pool) (done : List Finding) : Sweep :=
  done.foldl Sweep.note (.start pool.idle.length pool.total)

/-- What the agent of a sweep waits for that has come so far, and has asked for `current` in the
world `asking`. -/
def sweeping (asking : World) (agent : Agent) (pool : Pool) (done : List Finding)
    (current : Connection) (pending : List Connection) : Pool.Task :=
  ⟨agent, .sweeping (sweepOf pool done) current pending,
    some (asking.answerTime current)⟩

/-- A sweep waits, before a move of the run, for the answer to the probe of `current`. -/
structure UnderWay (start : World) (run : List Move) (index : Nat) (agent : Agent) (pool : Pool)
    (done : List Finding) (turn : Nat) (current : Connection) (pending : List Connection)
    (number : Nat) : Prop where
  queue_eq : done.map (·.connection) ++ current :: pending = pool.idle
  examines : Examines start run index agent pool done turn
  stays : (start.before run turn).goesUnseen pool done current = false
  asks : (start.before run (turn + 1)).server =
    (start.before run turn).server.startProbe current.session
  lt : turn < number
  unread (earlier : Nat) (after : turn < earlier) (lt : earlier < number)
    (own : run[earlier]? = some (.act (.resume (.inPool index agent)))) :
    (start.before run earlier).now < (start.before run turn).answerTime current
  waits : ∃ now, (start.before run number).pools[index]? = some now ∧
    (start.before run turn).sweeping agent pool done current pending ∈ now.tasks
  /-- Nobody has disconnected anything that the sweep has taken. -/
  disconnectCount_eq : ∀ connection ∈ pool.idle,
    (start.before run number).server.disconnectCount connection.name =
      start.server.disconnectCount connection.name

/-- What a turn comes to in which a sweep examines one connection after the other. -/
inductive Reaches (start : World) (run : List Move) (index : Nat) (agent : Agent) (pool : Pool)
    (number : Nat) (site : Site) : Turn → Prop where
  /-- One has to be probed. -/
  | probes {done : List Finding} {current : Connection} {pending : List Connection}
      (examines : Examines start run index agent pool done number)
      (queue : done.map (·.connection) ++ current :: pending = pool.idle)
      (stays : (start.before run number).goesUnseen pool done current = false) :
      Reaches start run index agent pool number site
        (site.probe agent current.session (.sweeping (sweepOf pool done) current pending))
  /-- All have been examined. -/
  | commits {turn : Turn} {done : List Finding}
      (examines : Examines start run index agent pool done number)
      (queue : done.map (·.connection) = pool.idle)
      (commits : turn.Commits site (sweepOf pool done)) :
      Reaches start run index agent pool number site turn

theorem before_succ (start : World) {run : List Move} {number : Nat} {move : Move}
    (here : run[number]? = some move) :
    start.before run (number + 1) = (start.before run number).move move := by
  obtain ⟨inside, rfl⟩ := List.getElem?_eq_some_iff.mp here
  rw [before, List.take_succ_eq_append_getElem inside, after_concat]
  rfl

/-! ### What a sweep examines in one turn -/

section Examine

variable {start : World} {run : List Move} {index : Nat} {agent : Agent} {pool : Pool}

theorem retained_sweepOf (pool : Pool) (done : List Finding) :
    (sweepOf pool done).retained = pool.total - evictionsOf done :=
  Sweep.retained_foldl_note _ done

/-- The sweep goes by its own count, which is that of the pool when it began less what it has
decided to evict. -/
theorem canSpare_sweepOf {world : World} {config : Config} (same : config = pool.config)
    (done : List Finding) (connection : Connection) :
    (sweepOf pool done).canSpare config connection world.now =
      world.goesUnseen pool done connection := by
  have spare : decide (pool.config.minConnections < pool.total - evictionsOf done) =
      decide (pool.config.minConnections + evictionsOf done < pool.total) := by
    apply decide_eq_decide.mpr
    omega
  rw [Sweep.canSpare, goesUnseen, same, retained_sweepOf, Bool.and_comm, spare]

theorem sweepOf_concat (pool : Pool) (done : List Finding) (finding : Finding) :
    sweepOf pool (done ++ [finding]) = (sweepOf pool done).note finding := by
  rw [sweepOf, List.foldl_append]
  rfl

/-- From its next connection on, a sweep evicts unseen what it can, until it has to probe one or has
come to the end of its queue. -/
theorem examine_reaches {site : Site} {number : Nat}
    (now : site.now = (start.before run number).now) (config : site.pool.config = pool.config)
    {done : List Finding} {pending : List Connection}
    (queue : done.map (·.connection) ++ pending = pool.idle)
    (examines : Examines start run index agent pool done number) :
    Reaches start run index agent pool number site
      (site.examine agent (sweepOf pool done) pending) := by
  induction pending generalizing done with
  | nil =>
      rw [List.append_nil] at queue
      exact .commits examines queue Site.commit_commits
  | cons connection pending ih =>
      have spares : (sweepOf pool done).canSpare site.pool.config connection site.now =
          (start.before run number).goesUnseen pool done connection := by
        rw [now]
        exact canSpare_sweepOf config done connection
      rw [Site.examine, spares]
      cases goes : (start.before run number).goesUnseen pool done connection with
      | true =>
          let finding : Finding := ⟨connection, .unused, (start.before run number).now⟩
          have left : (done ++ [finding]).map (·.connection) ++ pending = pool.idle := by
            simpa using queue
          have next := ih left (.unseen connection examines goes)
          rw [sweepOf_concat] at next
          exact next
      | false => exact .probes examines queue goes

end Examine

/-! ### The turns of a sweep -/

/-- A move in which the agent of a sweep makes a turn. The pool is as the agent finds it, apart from
the agent itself and from what it takes out of the queue, which leaves `rest`. -/
structure OwnTurn (world : World) (index : Nat) (agent : Agent) (move : Move) (old : Pool)
    (rest : List Connection) (site : Site) (turn : Turn) : Prop where
  now_eq : site.now = world.now
  server_eq : site.server = world.server
  config_eq : site.pool.config = old.config
  idle_eq : site.pool.idle = rest
  total_eq : site.pool.total = old.total
  active_eq : site.pool.active = old.active
  isShutdown_eq : site.pool.isShutdown = old.isShutdown
  found : (world.move move).pools[index]? = some turn.1.pool
  server : (world.move move).server = turn.1.server
  event : move.event? world = ending index agent turn

section Turns

variable {start : World} {run : List Move} {index : Nat} {agent : Agent} {pool : Pool}

/-- A sweep begins with all that is idle. -/
theorem BeginsSweep.ownTurn (possible : Possible start) (found : start.pools[index]? = some pool)
    (running : pool.isShutdown = false) {move : Move} {before : Pool}
    (begins : start.BeginsSweep index pool move agent before) :
    ∃ site, start.OwnTurn index agent move pool [] site
      (site.examine agent (sweepOf pool []) pool.idle) := by
  obtain ⟨shows, fresh, idle, total, config, lends⟩ := begins.shows possible found running
  have active : before.active = pool.active := by
    cases begins <;> rfl
  let site : Site := { start.site before with
    pool := { before with idle := [], validating := before.validating + before.idle.length } }
  have sweeps : (start.site before).sweep agent =
      site.examine agent (sweepOf pool []) pool.idle := by
    rw [Site.sweep]
    dsimp only
    rw [if_neg (by simp [World.site, lends])]
    change site.examine agent (.start before.idle.length before.total) before.idle = _
    rw [idle, total]
    rfl
  rw [sweeps] at shows
  refine ⟨site, rfl, rfl, config, rfl, total, active, lends.trans running.symm, shows.found,
    shows.server, ?_⟩
  have events : (move.event? start).toList ++ [] = _ := shows.events
  rw [List.append_nil] at events
  simpa using congrArg List.head? events

/-- A sweep goes on with the answer to its probe, and with what is left of its queue. -/
theorem ownTurn_of_ready {world asking : World} (possible : Possible world) {now : Pool}
    (found : world.pools[index]? = some now) {done : List Finding} {current : Connection}
    {pending : List Connection}
    (waits : asking.sweeping agent pool done current pending ∈ now.tasks)
    (ready : now.isReady world.now (asking.sweeping agent pool done current pending) = true)
    (time : Nat) :
    ∃ site, world.OwnTurn index agent (.act (.resume (.inPool index agent))) now now.idle site
      (site.examine agent (sweepOf pool (done ++ [⟨current,
        if world.server.answers current.session then .alive else .dead, time⟩])) pending) := by
  have sound : Sound world.callers (world.site now).pool :=
    possible.sound now (List.mem_of_getElem? found)
  let site : Site := (world.site now).withPool (·.unpark agent)
  have goesOn : (world.site now).resume agent =
      site.sweepProbed agent (sweepOf pool done) current pending :=
    Site.resume_eq_proceed (sound.task?_eq waits) ready
  have examines : site.sweepProbed agent (sweepOf pool done) current pending =
      site.examine agent (sweepOf pool (done ++ [⟨current,
        if world.server.answers current.session then .alive else .dead, time⟩])) pending := by
    rw [sweepOf_concat, Site.sweepProbed]
    change (if world.server.answers current.session = true then _ else _) = _
    cases world.server.answers current.session <;> rfl
  obtain ⟨foundAfter, server, event⟩ := resume_turn agent found
  rw [goesOn, examines] at foundAfter server event
  exact ⟨site, rfl, rfl, rfl, rfl, rfl, rfl, rfl, foundAfter, server, event⟩

end Turns

/-! ### One move -/

/-- Nobody disconnects what an agent keeps that waits, or what stays idle. -/
theorem Possible.disconnectCount_kept {world : World} (possible : Possible world) {index : Nat}
    {old new : Pool} (found : world.pools[index]? = some old) {move : Move}
    (foundAfter : (world.move move).pools[index]? = some new) {name : Nat}
    (held : name ∈ old.kept.map (·.name)) (still : name ∈ new.kept.map (·.name)) :
    (world.move move).server.disconnectCount name = world.server.disconnectCount name := by
  obtain ⟨connection, inside, rfl⟩ := List.mem_map.mp held
  obtain ⟨later, stillInside, same⟩ := List.mem_map.mp still
  exact possible.disconnectCount_move found inside foundAfter
    (Pool.mem_connections_of_kept stillInside) same

section Move

variable {start : World} {run : List Move} {index : Nat} {agent : Agent} {pool : Pool}

/-- The agent has all that the sweep has taken. -/
theorem names_sweeping (asking : World) (agent : Agent) {done : List Finding} {current : Connection}
    {pending : List Connection}
    (queue : done.map (·.connection) ++ current :: pending = pool.idle) :
    ((asking.sweeping agent pool done current pending).connections.map (·.name)).Perm
      (pool.idle.map (·.name)) := by
  have names := Sweep.names_foldl_note (.start pool.idle.length pool.total) done
  rw [← queue, List.map_append, List.map_map]
  change List.Perm
    (((sweepOf pool done).kept ++ (sweepOf pool done).evicted ++ current :: pending).map _)
    _
  rw [List.map_append]
  exact names.append_right _

theorem mem_kept_sweeping {asking : World} {done : List Finding} {current : Connection}
    {pending : List Connection} {now : Pool}
    (queue : done.map (·.connection) ++ current :: pending = pool.idle)
    (waits : asking.sweeping agent pool done current pending ∈ now.tasks) {connection : Connection}
    (taken : connection ∈ pool.idle) : connection.name ∈ now.kept.map (·.name) := by
  have inside := (names_sweeping asking agent queue).mem_iff.mpr (List.mem_map_of_mem taken)
  obtain ⟨held, inside, same⟩ := List.mem_map.mp inside
  exact List.mem_map.mpr ⟨held, Pool.mem_kept_of_task waits inside, same⟩

/-- A turn of the sweep with which it has to probe the next connection. -/
theorem underWay_of_probes {number : Nat} {move : Move} (possible : Possible start)
    (here : run[number]? = some move) {site : Site} {old : Pool} {rest : List Connection}
    (found : (start.before run number).pools[index]? = some old)
    {done : List Finding} {current : Connection} {pending : List Connection}
    (own : (start.before run number).OwnTurn index agent move old rest site
      (site.probe agent current.session (.sweeping (sweepOf pool done) current pending)))
    (examines : Examines start run index agent pool done number)
    (queue : done.map (·.connection) ++ current :: pending = pool.idle)
    (stays : (start.before run number).goesUnseen pool done current = false)
    (held : ∀ connection ∈ pool.idle, connection.name ∈ old.kept.map (·.name))
    (counts : ∀ connection ∈ pool.idle,
      (start.before run number).server.disconnectCount connection.name =
        start.server.disconnectCount connection.name) :
    start.UnderWay run index agent pool done number current pending (number + 1) := by
  have next := start.before_succ here
  have possibleHere : Possible (start.before run number) := possible.after _
  have foundAfter := own.found
  have waits : (start.before run number).sweeping agent pool done current pending ∈
      (site.probe agent current.session
        (.sweeping (sweepOf pool done) current pending)).1.pool.tasks := by
    apply List.mem_append_right
    rw [sweeping, answerTime, ← own.now_eq, ← own.server_eq]
    exact List.mem_singleton_self _
  refine ⟨queue, examines, stays, ?_, Nat.lt_succ_self _, ?_, ⟨_, ?_, waits⟩, ?_⟩
  · rw [next, own.server, ← own.server_eq]
    rfl
  · exact fun earlier after lt _ => absurd (Nat.lt_of_lt_of_le after (Nat.le_of_lt_succ lt))
      (Nat.lt_irrefl _)
  · rw [next]
    exact foundAfter
  · intro connection taken
    rw [next, possibleHere.disconnectCount_kept found foundAfter (held connection taken)
      (mem_kept_sweeping queue waits taken)]
    exact counts connection taken

section UnderWay

variable {done : List Finding} {turn number : Nat} {current : Connection}
  {pending : List Connection} (possible : Possible start)
  (found : start.pools[index]? = some pool)
  (underWay : start.UnderWay run index agent pool done turn current pending number)

include possible found underWay

/-- When the answer is there, the sweep goes on to the next connection that it has to probe, or to
its end. -/
theorem UnderWay.reaches {now : Pool}
    (foundNow : (start.before run number).pools[index]? = some now)
    (waits : (start.before run turn).sweeping agent pool done current pending ∈ now.tasks)
    (ready : now.isReady (start.before run number).now
      ((start.before run turn).sweeping agent pool done current pending) = true)
    (here : run[number]? = some (.act (.resume (.inPool index agent)))) :
    ∃ site turn, (start.before run number).OwnTurn index agent
        (.act (.resume (.inPool index agent))) now now.idle site turn ∧
      Reaches start run index agent pool number site turn := by
  have possibleHere : Possible (start.before run number) := possible.after _
  obtain ⟨same, foundSame, config⟩ := exists_pool_after found (run.take number)
  obtain rfl : now = same := Option.some.inj (foundNow.symm.trans foundSame)
  obtain ⟨site, own⟩ := ownTurn_of_ready possibleHere foundNow waits ready
    (start.before run turn).now
  refine ⟨site, _, own, examine_reaches own.now_eq (own.config_eq.trans config) ?_ ?_⟩
  · simpa using underWay.queue_eq
  · have due : (start.before run turn).answerTime current ≤ (start.before run number).now :=
      of_decide_eq_true ready
    exact .probed current underWay.examines underWay.stays underWay.asks
      ⟨underWay.lt, here, due, underWay.unread⟩

/-- As long as the sweep is not over, every move leaves it under way. -/
theorem UnderWay.move {move : Move} (here : run[number]? = some move)
    (unanswered : ∀ event ∈ move.event? (start.before run number),
      event.thread ≠ .inPool index agent) :
    ∃ done turn current pending,
      start.UnderWay run index agent pool done turn current pending (number + 1) := by
  have possibleHere : Possible (start.before run number) := possible.after _
  obtain ⟨now, foundNow, waits⟩ := underWay.waits
  have next := start.before_succ here
  have stands {after : Pool}
      (foundAfter : ((start.before run number).move move).pools[index]? = some after)
      (still : (start.before run turn).sweeping agent pool done current pending ∈ after.tasks)
      (unread : move = .act (.resume (.inPool index agent)) →
        (start.before run number).now < (start.before run turn).answerTime current) :
      start.UnderWay run index agent pool done turn current pending (number + 1) := by
    rw [← next] at foundAfter
    refine { underWay with
      lt := Nat.lt_succ_of_lt underWay.lt
      unread := ?_
      waits := ⟨after, foundAfter, still⟩
      disconnectCount_eq := ?_ }
    · intro earlier later lt own
      rcases Nat.lt_succ_iff_lt_or_eq.mp lt with before | rfl
      · exact underWay.unread earlier later before own
      · exact unread (Option.some.inj (here.symm.trans own))
    · intro connection taken
      rw [next] at foundAfter ⊢
      rw [possibleHere.disconnectCount_kept foundNow foundAfter
        (mem_kept_sweeping underWay.queue_eq waits taken)
        (mem_kept_sweeping underWay.queue_eq still taken)]
      exact underWay.disconnectCount_eq connection taken
  by_cases own : move = .act (.resume (.inPool index agent))
  case neg =>
    obtain ⟨after, foundAfter, happens⟩ := becomes_move foundNow move
    exact ⟨_, _, _, _, stands foundAfter (happens.mem_tasks waits rfl own)
      fun same => absurd same own⟩
  case pos =>
    subst own
    cases ready : now.isReady (start.before run number).now
      ((start.before run turn).sweeping agent pool done current pending) with
    | false =>
        have foundAfter := (resume_unready possibleHere foundNow waits ready).1
        have early : (start.before run number).now < (start.before run turn).answerTime current :=
          Nat.lt_of_not_le (of_decide_eq_false ready)
        exact ⟨_, _, _, _, stands foundAfter waits fun _ => early⟩
    | true =>
        obtain ⟨site, turn, own, reaches⟩ :=
          underWay.reaches possible found foundNow waits ready here
        cases reaches with
        | probes examines queue stays =>
            exact ⟨_, _, _, _, underWay_of_probes possible here foundNow own examines queue stays
              (fun _ taken => mem_kept_sweeping underWay.queue_eq waits taken)
              underWay.disconnectCount_eq⟩
        | commits examines queue commits =>
            have event := own.event
            rw [ending, commits.answer_eq] at event
            exact absurd rfl (unanswered _ event)

end UnderWay

/-- A sweep whose first turn does not end it is under way from then on. -/
theorem BeginsSweep.underWay (possible : Possible start) (found : start.pools[index]? = some pool)
    (running : pool.isShutdown = false) {move : Move} {before : Pool}
    (begins : start.BeginsSweep index pool move agent before) (here : run[0]? = some move)
    (unanswered : ∀ event ∈ move.event? start, event.thread ≠ .inPool index agent) :
    ∃ done turn current pending,
      start.UnderWay run index agent pool done turn current pending 1 := by
  obtain ⟨site, own⟩ := begins.ownTurn possible found running
  have reaches : Reaches start run index agent pool 0 site
      (site.examine agent (sweepOf pool []) pool.idle) :=
    examine_reaches own.now_eq own.config_eq rfl .begins
  generalize site.examine agent (sweepOf pool []) pool.idle = turn at own reaches
  cases reaches with
  | probes examines queue stays =>
      have kept (connection : Connection) (taken : connection ∈ pool.idle) :
          connection.name ∈ pool.kept.map (·.name) :=
        List.mem_map_of_mem (List.mem_append_left _ taken)
      have begun : start.UnderWay run index agent pool _ 0 _ _ (0 + 1) :=
        underWay_of_probes possible here found own examines queue stays kept fun _ _ => rfl
      exact ⟨_, _, _, _, begun⟩
  | commits examines queue commits =>
      have event := own.event
      rw [ending, commits.answer_eq] at event
      exact absurd rfl (unanswered _ event)

/-- A sweep that is not over before a move of a run is under way. -/
theorem BeginsSweep.underWay_run (possible : Possible start)
    (found : start.pools[index]? = some pool) (running : pool.isShutdown = false) {move : Move}
    {before : Pool} (begins : start.BeginsSweep index pool move agent before)
    (first : run[0]? = some move) {number : Nat} (le : number < run.length)
    (unanswered : ∀ event ∈ start.events (run.take (number + 1)),
      event.thread ≠ .inPool index agent) :
    ∃ done turn current pending,
      start.UnderWay run index agent pool done turn current pending (number + 1) := by
  -- The last of these moves, and what is over before it.
  have parts {number : Nat} (le : number < run.length) : start.events (run.take (number + 1)) =
      start.events (run.take number) ++ (run[number].event? (start.before run number)).toList := by
    rw [List.take_succ_eq_append_getElem le, events_concat]
    rfl
  induction number with
  | zero =>
      rw [parts le] at unanswered
      have here : run[0] = move := Option.some.inj ((List.getElem?_eq_getElem le).symm.trans first)
      rw [here] at unanswered
      exact begins.underWay possible found running first fun event ended =>
        unanswered event (List.mem_append_right _ (Option.mem_toList.mpr ended))
  | succ number ih =>
      rw [parts le] at unanswered
      obtain ⟨done, turn, current, pending, underWay⟩ := ih (Nat.lt_of_succ_lt le)
        fun event ended => unanswered event (List.mem_append_left _ ended)
      exact underWay.move possible found (List.getElem?_eq_getElem le) fun event ended =>
        unanswered event (List.mem_append_right _ (Option.mem_toList.mpr ended))

end Move

end World

end SessionPool

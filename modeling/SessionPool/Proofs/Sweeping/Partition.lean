import SessionPool.Proofs.Sweeping.Progress

/-!
# A sweep partitions its queue and merges it back

A sweep examines what it has taken from left to right. It evicts unseen what has been unused for too
long when its turn comes, as long as its own count is above the floor, and probes all the rest. At
its end what it has found alive goes back in front of what is idle by then, and the rest has left
the pool; a pool that has been shut down meanwhile gets nothing back. Whatever others do in between,
every connection is kept once or disconnected once, and the report adds up.
-/

namespace SessionPool

open Pool (Agent Phase Sweep Finding Sound evictionsOf)

namespace World

/-! ### What a sweep comes to -/

/-- A sweep that is over with the last of these moves. It has begun with what was idle in `pool`,
`old` is the pool before its last turn and `new` the pool after it. -/
structure Swept (start : World) (front : List Move) (last : Move) (index : Nat) (agent : Agent)
    (pool : Pool) (done : List Finding) (old new : Pool) : Prop where
  queue_eq : done.map (·.connection) = pool.idle
  examines : Examines start (front ++ [last]) index agent pool done front.length
  checked_eq : pool.idle.length = done.countP Finding.isKept + done.countP Finding.isDead +
    done.countP Finding.isUnused
  unused_le : done.countP Finding.isUnused ≤ pool.total - pool.config.minConnections
  found : (start.after front).pools[index]? = some old
  foundAfter : (start.after (front ++ [last])).pools[index]? = some new
  active_eq : new.active = old.active
  /-- What has been found alive goes back in front of what is idle. A sweep that is over with its
  first turn has taken all of that. -/
  merges (lends : old.isShutdown = false) :
    new.idle = (done.filter (·.isKept)).map (·.connection) ++
        (if front.isEmpty then [] else old.idle) ∧
      new.total + evictionsOf done = old.total
  /-- A pool that is shut down gets nothing back. -/
  discards (shutdown : old.isShutdown = true) :
    new.idle = old.idle ∧ new.total + pool.idle.length = old.total
  /-- Every connection is in the queue once, or has been disconnected once since the sweep began. -/
  once {finding : Finding} (examined : finding ∈ done) {kept : Bool}
    (verdict : kept = (finding.isKept && !old.isShutdown)) :
    (new.idle.map (·.name)).count finding.connection.name = kept.toNat ∧
      (start.after (front ++ [last])).server.disconnectCount finding.connection.name =
        start.server.disconnectCount finding.connection.name + (!kept).toNat

/-- What becomes of the queue of `pool`, which the sweep of an agent takes with a move in the world
`start`, whatever happens after that. -/
structure PartitionsQueue (start : World) (index : Nat) (pool : Pool) (move : Move)
    (agent : Agent) : Prop where
  /-- Until it is over, the sweep waits for the answer to a probe. -/
  underWay {later : List Move}
    (unanswered : ∀ event ∈ start.events (move :: later), event.thread ≠ .inPool index agent) :
    ∃ done turn current pending, start.UnderWay (move :: later) index agent pool done turn current
      pending (move :: later).length
  /-- The first of its turns takes what is idle, and otherwise none of them changes what the pool
  has before the last. -/
  leaves {front : List Move} {own : Move} (begins : (front ++ [own]).head? = some move)
    (turn : front = [] ∨ own = .act (.resume (.inPool index agent)))
    (unanswered : ∀ event ∈ start.events (front ++ [own]), event.thread ≠ .inPool index agent) :
    ∃ old new, (start.after front).pools[index]? = some old ∧
      (start.after (front ++ [own])).pools[index]? = some new ∧ new.active = old.active ∧
      new.total = old.total ∧ new.idle = if front.isEmpty then [] else old.idle
  /-- With its last turn it merges back what it keeps, and reports what it has found. -/
  ends {front : List Move} {last : Move} {answer : Answer}
    (begins : (front ++ [last]).head? = some move)
    (first : ∀ event ∈ start.events front, event.thread ≠ .inPool index agent)
    (ended : last.event? (start.after front) = some ⟨.inPool index agent, answer⟩) :
    ∃ done old new, start.Swept front last index agent pool done old new ∧
      answer = .ok (.pool (.swept ⟨pool.idle.length, done.countP Finding.isDead,
        done.countP Finding.isUnused⟩))

/-! ### The counts of a sweep -/

section Counts

variable {start : World} {run : List Move} {index : Nat} {agent : Agent} {pool : Pool}
  {done : List Finding}

/-- What is unused and goes, goes from above the floor. -/
theorem Examines.unused_le {number : Nat}
    (examines : Examines start run index agent pool done number) :
    done.countP Finding.isUnused ≤ pool.total - pool.config.minConnections := by
  induction examines with
  | begins => exact Nat.zero_le _
  | @unseen done number connection before goes ih =>
      have spare : pool.config.minConnections + evictionsOf done < pool.total :=
        of_decide_eq_true (Bool.and_eq_true_iff.mp goes).2
      have all := Pool.evictionsOf_eq done
      rw [List.countP_append]
      change _ + 1 ≤ _
      omega
  | probed connection before stays asks reads ih =>
      rw [List.countP_append]
      split <;> exact ih

theorem report_sweepOf (pool : Pool) (done : List Finding) :
    (sweepOf pool done).report = ⟨pool.idle.length, done.countP Finding.isDead,
      done.countP Finding.isUnused⟩ := by
  obtain ⟨checked, _, _, dead, unused⟩ := (Sweep.start pool.idle.length pool.total).foldl_note done
  rw [Sweep.report, sweepOf, checked, dead, unused]
  simp [Sweep.start]

/-- Every connection that has been examined is kept, dead or unused. -/
theorem length_eq_countP (done : List Finding) : done.length =
    done.countP Finding.isKept + done.countP Finding.isDead + done.countP Finding.isUnused := by
  have all := List.length_eq_countP_add_countP Finding.isKept (l := done)
  have gone := Pool.evictionsOf_eq done
  rw [evictionsOf] at gone
  simp only [Bool.not_eq_true, Bool.decide_eq_false] at all
  omega

end Counts

/-! ### What an agent has in hand -/

section Hand

variable {world asking : World} {index : Nat} {agent : Agent} {pool old : Pool}
  {done : List Finding} {current : Connection} {pending : List Connection}
  (possible : Possible world) (found : world.pools[index]? = some old)
  (queue : done.map (·.connection) ++ current :: pending = pool.idle)
  (waits : asking.sweeping agent pool done current pending ∈ old.tasks)

include possible found queue waits

/-- What a sweep has taken is nowhere else. -/
theorem nodup_of_sweeping : (old.idle.map (·.name) ++ pool.idle.map (·.name)).Nodup := by
  have names := possible.nodup_names (List.mem_of_getElem? found)
  have inside : (asking.sweeping agent pool done current pending).connections.Sublist
      (old.tasks.flatMap Pool.Task.connections) :=
    List.sublist_flatten_of_mem (List.mem_map_of_mem waits)
  have both : (old.idle ++ (asking.sweeping agent pool done current pending).connections).Sublist
      old.connections := by
    rw [Pool.connections, List.append_assoc]
    exact (List.Sublist.refl _).append (inside.trans (List.sublist_append_right _ _))
  have distinct := names.sublist (both.map (·.name))
  rw [List.map_append] at distinct
  exact ((names_sweeping asking agent queue).append_left _).nodup_iff.mp distinct

/-- The pool counts what a sweep has taken. -/
theorem length_le_of_sweeping : pool.idle.length ≤ old.total := by
  have counts := (possible.sound old (List.mem_of_getElem? found)).accounted
  have taken := List.le_sum_of_mem
    (List.mem_map_of_mem (f := fun task => task.drained.length) waits)
  have size := (names_sweeping asking agent queue).length_eq
  rw [List.length_map, List.length_map] at size
  change (asking.sweeping agent pool done current pending).connections.length ≤ _ at taken
  have total := counts.total_eq
  have validating := counts.validating_eq
  omega

end Hand

/-! ### The last turn -/

section Ends

variable {start : World} {front : List Move} {last : Move} {index : Nat} {agent : Agent}
  {pool old : Pool} {rest : List Connection} {site : Site} {turn : Turn} {done : List Finding}

/-- What the sweep has in hand at its end. -/
theorem sweepOf_ended (queue : done.map (·.connection) = pool.idle) :
    (sweepOf pool done).checked = pool.idle.length ∧
      (sweepOf pool done).kept = (done.filter (·.isKept)).map (·.connection) ∧
      (sweepOf pool done).evicted.length = evictionsOf done ∧
      (sweepOf pool done).evicted.map (·.name) =
        (done.filter (!·.isKept)).map (·.connection.name) ∧
      (((sweepOf pool done).kept ++ (sweepOf pool done).evicted).map (·.name)).Perm
        (pool.idle.map (·.name)) := by
  let begun := Sweep.start pool.idle.length pool.total
  obtain ⟨checked, kept, evicted, _, _⟩ := begun.foldl_note done
  have all := begun.names_foldl_note done
  have same : done.map (·.connection.name) = pool.idle.map (·.name) := by
    rw [← queue, List.map_map]
    rfl
  rw [same] at all
  exact ⟨checked, kept, evicted.trans (Nat.zero_add _), begun.names_evicted_foldl_note done, all⟩

/-- A turn with which a sweep goes on, in a world that has `old` in the place of the pool. The sweep
leaves `rest` in the queue while it examines, it alone has what it has taken, and none of that has
been disconnected before. -/
structure GoesOn (start : World) (front : List Move) (last : Move) (index : Nat) (agent : Agent)
    (pool old : Pool) (rest : List Connection) (site : Site) (turn : Turn) : Prop where
  found : (start.after front).pools[index]? = some old
  own : (start.after front).OwnTurn index agent last old rest site turn
  reaches : Reaches start (front ++ [last]) index agent pool front.length site turn
  enough : pool.idle.length ≤ old.total
  distinct : (rest.map (·.name) ++ pool.idle.map (·.name)).Nodup
  counts : ∀ connection ∈ pool.idle,
    (start.after front).server.disconnectCount connection.name =
      start.server.disconnectCount connection.name
  rest_eq : rest = if front.isEmpty then [] else old.idle
  running : front = [] → old.isShutdown = false

section GoesOn

variable (goes : start.GoesOn front last index agent pool old rest site turn)
  (queue : done.map (·.connection) = pool.idle) (commits : turn.Commits site (sweepOf pool done))

include goes queue commits

/-- What the end of a sweep makes of the queue and of the count. -/
theorem GoesOn.commit_eq :
    turn.1.pool.idle = (if old.isShutdown then rest
        else (done.filter (·.isKept)).map (·.connection) ++ rest) ∧
      turn.1.pool.total =
        old.total - (if old.isShutdown then pool.idle.length else evictionsOf done) := by
  obtain ⟨checked, kept, evicted, _⟩ := sweepOf_ended queue
  have idle := commits.idle_eq
  have total := commits.total_eq
  rw [goes.own.isShutdown_eq, goes.own.idle_eq, kept] at idle
  rw [goes.own.isShutdown_eq, goes.own.total_eq, checked, evicted] at total
  exact ⟨idle, total⟩

/-- With the end of the sweep a connection that has been found alive is queued, unless the pool is
shut down. Every other one is disconnected. -/
theorem GoesOn.once {finding : Finding} (examined : finding ∈ done) {kept : Bool}
    (verdict : kept = (finding.isKept && !old.isShutdown)) :
    (turn.1.pool.idle.map (·.name)).count finding.connection.name = kept.toNat ∧
      turn.1.server.disconnectCount finding.connection.name =
        start.server.disconnectCount finding.connection.name + (!kept).toNat := by
  obtain ⟨_, _, _, gone, all⟩ := sweepOf_ended queue
  obtain ⟨_, once, apart⟩ := List.nodup_append'.mp goes.distinct
  have taken : finding.connection ∈ pool.idle := by
    rw [← queue]
    exact List.mem_map_of_mem examined
  have absent : (rest.map (·.name)).count finding.connection.name = 0 :=
    List.count_eq_zero.mpr fun here => apart here (List.mem_map_of_mem taken)
  have names : (done.map (·.connection.name)).Nodup := by
    rw [← queue, List.map_map] at once
    exact once
  have selects := count_map_filter_of_nodup names examined
  have closed := commits.disconnectCount_eq finding.connection.name
  rw [goes.own.server_eq, goes.counts _ taken, goes.own.isShutdown_eq] at closed
  rw [closed, (goes.commit_eq queue commits).1, verdict]
  cases shutdown : old.isShutdown with
  | true =>
      rw [if_pos rfl, if_pos rfl, all.count_eq, Bool.not_true, Bool.and_false]
      refine ⟨absent, congrArg _ ?_⟩
      exact List.count_eq_one_of_mem once (List.mem_map_of_mem taken)
  | false =>
      rw [if_neg Bool.false_ne_true, if_neg Bool.false_ne_true, gone, Bool.not_false,
        Bool.and_true, List.map_append, List.count_append, absent, List.map_map]
      exact ⟨selects Finding.isKept, congrArg _ (selects (!·.isKept))⟩

/-- A sweep that comes to its end has done what it is meant to do. -/
theorem GoesOn.swept
    (examines : Examines start (front ++ [last]) index agent pool done front.length) :
    start.Swept front last index agent pool done old turn.1.pool := by
  obtain ⟨idle, total⟩ := goes.commit_eq queue commits
  have length : done.length = pool.idle.length := by
    rw [← queue, List.length_map]
  have evictions : evictionsOf done ≤ done.length := List.countP_le_length
  have next : start.after (front ++ [last]) = (start.after front).move last := after_concat ..
  have enough := goes.enough
  constructor
  case queue_eq => exact queue
  case examines => exact examines
  case checked_eq => exact length.symm.trans (length_eq_countP done)
  case unused_le => exact examines.unused_le
  case found => exact goes.found
  case foundAfter =>
    rw [next]
    exact goes.own.found
  case active_eq => exact commits.active_eq.trans goes.own.active_eq
  case merges =>
    intro lends
    rw [lends, if_neg Bool.false_ne_true] at idle total
    rw [← goes.rest_eq]
    exact ⟨idle, by omega⟩
  case discards =>
    intro shutdown
    rw [shutdown, if_pos rfl] at idle total
    -- The pool lends when the sweep begins, so this is not its first turn.
    have later : front.isEmpty = false := by
      apply Bool.eq_false_iff.mpr
      intro first
      rw [goes.running (List.isEmpty_iff.mp first)] at shutdown
      cases shutdown
    have rest_eq := goes.rest_eq
    rw [later, if_neg Bool.false_ne_true] at rest_eq
    exact ⟨idle.trans rest_eq, by omega⟩
  case once =>
    intro finding examined kept verdict
    rw [next, goes.own.server]
    exact goes.once queue commits examined verdict

end GoesOn

end Ends

/-! ### The theorem -/

section Theorem

variable {start : World} {index : Nat} {pool : Pool} {agent : Agent} (possible : Possible start)
  (found : start.pools[index]? = some pool)

theorem before_concat (start : World) (front : List Move) (last : Move) :
    start.before (front ++ [last]) front.length = start.after front := by
  rw [World.before, List.take_left]

include possible found

/-- The agent of a sweep that has its turn finds that there is no answer yet, or it goes on. -/
theorem UnderWay.goesOn {front : List Move} {done : List Finding} {turn : Nat}
    {current : Connection} {pending : List Connection} (later : front ≠ [])
    (underWay : start.UnderWay (front ++ [.act (.resume (.inPool index agent))]) index agent pool
      done turn current pending front.length) :
    ∃ old, (start.after front).pools[index]? = some old ∧
      ((((start.after front).resume (.inPool index agent)).1.pools[index]? = some old ∧
          ((start.after front).resume (.inPool index agent)).2 = none) ∨
        ∃ site turn, start.GoesOn front (.act (.resume (.inPool index agent))) index agent pool
          old old.idle site turn) := by
  obtain ⟨old, foundOld, waits⟩ := underWay.waits
  have goes := underWay.reaches possible found foundOld waits
  have counts := underWay.disconnectCount_eq
  have here := start.before_concat front (.act (.resume (.inPool index agent)))
  rw [here] at foundOld goes counts
  have possibleHere : Possible (start.after front) := possible.after front
  refine ⟨old, foundOld, ?_⟩
  cases ready : old.isReady (start.after front).now ((start.before
      (front ++ [.act (.resume (.inPool index agent))]) turn).sweeping agent pool done current
        pending) with
  | true =>
      obtain ⟨site, turn, own, reaches⟩ := goes ready List.getElem?_concat_length
      have nonempty : front.isEmpty = false := List.isEmpty_eq_false_iff.mpr later
      refine .inr ⟨site, turn, foundOld, own, reaches, ?_, ?_, counts, ?_, ?_⟩
      · exact length_le_of_sweeping possibleHere foundOld underWay.queue_eq waits
      · exact nodup_of_sweeping possibleHere foundOld underWay.queue_eq waits
      · rw [nonempty, if_neg Bool.false_ne_true]
      · exact fun empty => absurd empty later
  | false => exact .inl (resume_unready possibleHere foundOld waits ready)

variable (running : pool.isShutdown = false) {move : Move} {before : Pool}
  (begins : start.BeginsSweep index pool move agent before)

include running begins

/-- A sweep that is not over after some moves is under way. -/
theorem BeginsSweep.underWay_append {later : List Move}
    (unanswered : ∀ event ∈ start.events (move :: later), event.thread ≠ .inPool index agent)
    (more : List Move) :
    ∃ done turn current pending, start.UnderWay (move :: later ++ more) index agent pool done turn
      current pending (move :: later).length := by
  have part : (move :: later ++ more).take (later.length + 1) = move :: later := by
    change (move :: later ++ more).take (move :: later).length = _
    exact List.take_left
  have le : later.length < (move :: later ++ more).length := by
    rw [List.length_append, List.length_cons]
    omega
  rw [← part] at unanswered
  exact begins.underWay_run possible found running rfl le unanswered

/-- The first turn of a sweep takes what is idle. -/
theorem BeginsSweep.goesOn :
    ∃ site turn, start.GoesOn [] move index agent pool pool [] site turn := by
  obtain ⟨site, own⟩ := begins.ownTurn possible found running
  have sound := possible.sound pool (List.mem_of_getElem? found)
  have names := possible.nodup_names (List.mem_of_getElem? found)
  have idle : pool.idle.Sublist pool.connections := by
    rw [Pool.connections, List.append_assoc]
    exact List.sublist_append_left _ _
  have reaches : Reaches start ([] ++ [move]) index agent pool 0 site _ :=
    examine_reaches own.now_eq own.config_eq rfl .begins
  exact ⟨site, _, found, own, reaches, sound.idle_le_total, names.sublist (idle.map _),
    fun _ _ => rfl, rfl, fun _ => running⟩

/-- With each of its turns a sweep that is not over goes on, or it finds that there is no answer
yet. -/
theorem BeginsSweep.turns {front : List Move} {own : Move}
    (heads : (front ++ [own]).head? = some move)
    (turn : front = [] ∨ own = .act (.resume (.inPool index agent)))
    (unanswered : ∀ event ∈ start.events front, event.thread ≠ .inPool index agent) :
    ∃ old, (start.after front).pools[index]? = some old ∧
      ((((start.after front).move own).pools[index]? = some old ∧
          own.event? (start.after front) = none ∧ front.isEmpty = false) ∨
        ∃ rest site turn, start.GoesOn front own index agent pool old rest site turn) := by
  cases front with
  | nil =>
      obtain rfl : own = move := Option.some.inj heads
      exact ⟨pool, found, .inr ⟨[], begins.goesOn possible found running⟩⟩
  | cons first later =>
      obtain rfl : first = move := Option.some.inj heads
      obtain rfl := turn.resolve_left (List.cons_ne_nil _ _)
      obtain ⟨done, turn, current, pending, underWay⟩ :=
        begins.underWay_append possible found running unanswered
          [.act (.resume (.inPool index agent))]
      obtain ⟨old, foundOld, goes⟩ := underWay.goesOn possible found (List.cons_ne_nil _ _)
      rcases goes with ⟨foundAfter, event⟩ | goes
      · exact ⟨old, foundOld, .inl ⟨foundAfter, event, rfl⟩⟩
      · exact ⟨old, foundOld, .inr ⟨old.idle, goes⟩⟩

/-- A sweep that has been waiting for an answer ends with a turn of its own agent. -/
theorem BeginsSweep.turn_of_event {front : List Move} {last : Move} {answer : Answer}
    (heads : (front ++ [last]).head? = some move)
    (unanswered : ∀ event ∈ start.events front, event.thread ≠ .inPool index agent)
    (ended : last.event? (start.after front) = some ⟨.inPool index agent, answer⟩) :
    front = [] ∨ last = .act (.resume (.inPool index agent)) := by
  cases front with
  | nil => exact .inl rfl
  | cons first later =>
      obtain rfl : first = move := Option.some.inj heads
      obtain ⟨done, turn, current, pending, underWay⟩ :=
        begins.underWay_append possible found running unanswered [last]
      obtain ⟨old, foundOld, waits⟩ := underWay.waits
      rw [before_concat] at foundOld
      exact .inr (resume_of_event (possible.after _) foundOld waits ended)

/-- However long a sweep takes and whatever happens meanwhile, it examines what it has taken in
order, merges back what it keeps and accounts for all the rest. -/
theorem sweep_partitions : start.PartitionsQueue index pool move agent := by
  constructor
  case underWay =>
    intro later unanswered
    have underWay := begins.underWay_append possible found running unanswered []
    rwa [List.append_nil] at underWay
  case leaves =>
    intro front own heads turn unanswered
    rw [events_concat] at unanswered
    obtain ⟨old, foundOld, goes⟩ := begins.turns possible found running heads turn
      fun event before => unanswered event (List.mem_append_left _ before)
    rw [after_concat]
    rcases goes with ⟨foundAfter, _, later⟩ | ⟨rest, site, turn, goes⟩
    · exact ⟨old, old, foundOld, foundAfter, rfl, rfl, by rw [later, if_neg Bool.false_ne_true]⟩
    · have own := goes.own
      cases goes.reaches with
      | probes examines queue stays =>
          exact ⟨old, _, foundOld, own.found, own.active_eq, own.total_eq,
            own.idle_eq.trans goes.rest_eq⟩
      | commits examines queue commits =>
          have event := own.event
          rw [ending, commits.answer_eq] at event
          exact absurd rfl (unanswered _ (List.mem_append_right _ (Option.mem_toList.mpr event)))
  case ends =>
    intro front last answer heads unanswered ended
    have turn := begins.turn_of_event possible found running heads unanswered ended
    obtain ⟨old, foundOld, goes⟩ := begins.turns possible found running heads turn unanswered
    rcases goes with ⟨_, none, _⟩ | ⟨rest, site, turn, goes⟩
    · rw [none] at ended
      cases ended
    · have event := goes.own.event
      rw [ended] at event
      cases goes.reaches with
      | probes examines queue stays => cases event
      | commits examines queue commits =>
          rw [ending, commits.answer_eq, report_sweepOf] at event
          cases event
          exact ⟨_, old, _, goes.swept queue commits examines, rfl⟩

end Theorem

/-- A pool with two idle sessions, of which the first has been unused for too long. -/
def halfStale : World :=
  let config : Config :=
    { Config.default with
      minConnections := 1
      maxConnections := 3
      maxIdleTime := 5
      testOnBorrow := false }
  (Trace.follow ⟨new, []⟩ [.call (.openPool config), .resume (.inPool 0 (.caller 0)),
    .call (.get 0), .call (.get 0), .resume (.inPool 0 (.caller 2)), .call (.release ⟨0, 1⟩),
    .passTo 10, .call (.release ⟨0, 2⟩)]).world

/-- While the second session is being probed, somebody else gets a third one and gives it back. The
second one goes in front of it. -/
theorem sweep_partitions_halfStale :
    ∃ pool, halfStale.pools[0]? = some pool ∧ pool.isShutdown = false ∧
      halfStale.BeginsSweep 0 pool (.act (.call (.healthCheck 0))) (.caller 5) pool ∧
      halfStale.PartitionsQueue 0 pool (.act (.call (.healthCheck 0))) (.caller 5) ∧
      let front := [.act (.call (.healthCheck 0)), .act (.call (.get 0)),
        .act (.resume (.inPool 0 (.caller 6))), .act (.call (.release ⟨0, 6⟩))]
      ∃ done old new, halfStale.Swept front (.act (.resume (.inPool 0 (.caller 5)))) 0 (.caller 5)
          pool done old new ∧
        done.countP Finding.isUnused = 1 ∧ new.idle.map (·.name) = [2, 3] := by
  have possible : Possible halfStale := (Reachable.follow .new _).possible
  have found : halfStale.pools[0]? = some (halfStale.pools.head (by decide)) := by decide
  have running : (halfStale.pools.head (by decide)).isShutdown = false := by decide
  have begins : halfStale.BeginsSweep 0 (halfStale.pools.head (by decide))
      (.act (.call (.healthCheck 0))) (.caller 5) (halfStale.pools.head (by decide)) :=
    .called (by decide) rfl
  have partitions := sweep_partitions possible found running begins
  let front : List Move := [.act (.call (.healthCheck 0)), .act (.call (.get 0)),
    .act (.resume (.inPool 0 (.caller 6))), .act (.call (.release ⟨0, 6⟩))]
  let last : Move := .act (.resume (.inPool 0 (.caller 5)))
  have ended : last.event? (halfStale.after front) =
      some ⟨.inPool 0 (.caller 5), .ok (.pool (.swept ⟨2, 0, 1⟩))⟩ := by decide
  obtain ⟨done, old, new, swept, answer⟩ := partitions.ends rfl (by decide) ended
  have merged : ((halfStale.after (front ++ [last])).pools[0]?).map (·.idle.map (·.name)) =
      some [2, 3] := by decide
  rw [swept.foundAfter] at merged
  have unused : (1 : Nat) = done.countP Finding.isUnused := by
    have reports := Pool.Reply.swept.inj (Reply.pool.inj (Except.ok.inj answer))
    exact congrArg Pool.Report.evictedIdle reports
  exact ⟨_, found, running, begins, partitions, done, old, new, swept, unused.symm,
    Option.some.inj merged⟩

end World

end SessionPool

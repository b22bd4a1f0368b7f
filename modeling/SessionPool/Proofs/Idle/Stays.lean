import SessionPool.Proofs.Idle.Stock
import SessionPool.Proofs.Metrics.Journal
import SessionPool.Proofs.Order.OldestFirst
import SessionPool.Proofs.Ownership.Exclusive

/-!
# How long a session has been idle

A roster is a run in which one keeps in mind when each session was put into the queue of a pool, and
when the agent that put it there began to wait for the server, if it had to. A sweep does not end
such a stay, nor does it begin one. The idle time of a session counts from the second of these
times: a session that was slow to open, or to answer the probe after its return, has been idle for
that long by its record when it enters the queue.
-/

namespace SessionPool

/-! ### What a sweep evicts unseen -/

namespace Pool

/-- The connections that a sweep evicts unseen before the next probe. -/
def Sweep.unseen (config : Config) (now : Nat) (sweep : Sweep) : List Connection → List Connection
  | [] => []
  | connection :: pending =>
      if sweep.canSpare config connection now then
        connection :: (sweep.evictIdle connection).unseen config now pending
      else []

/-- What is evicted unseen is next in the queue of the sweep, and has been unused for too long. -/
theorem Sweep.mem_unseen {config : Config} {now : Nat} {sweep : Sweep}
    {pending : List Connection} {connection : Connection}
    (member : connection ∈ sweep.unseen config now pending) :
    connection ∈ pending ∧ config.maxIdleTime < now - connection.metadata.lastUsed := by
  induction pending generalizing sweep with
  | nil => cases member
  | cons first pending ih =>
      rw [unseen] at member
      split at member
      case isTrue spare =>
        rcases List.mem_cons.mp member with rfl | later
        · exact ⟨List.mem_cons_self, of_decide_eq_true (Bool.and_eq_true_iff.mp spare).2⟩
        · obtain ⟨inside, expired⟩ := ih later
          exact ⟨List.mem_cons_of_mem _ inside, expired⟩
      case isFalse => cases member

end Pool

namespace Site

open Pool (Agent Phase Task Sweep)

variable (site : Site)

/-- A sweep evicts these connections, and then it probes the next one or is over. -/
theorem examine_eq_unseen (agent : Agent) (sweep : Sweep) (pending : List Connection) :
    let gone := sweep.unseen site.pool.config site.now pending
    let after := gone.foldl Sweep.evictIdle sweep
    site.examine agent sweep pending =
      match pending.drop gone.length with
      | [] => site.commit agent after
      | current :: later => site.probe agent current.session (.sweeping after current later) := by
  induction pending generalizing sweep with
  | nil => rfl
  | cons connection pending ih =>
      rw [examine, Sweep.unseen]
      split
      · exact ih (sweep.evictIdle connection)
      · rfl

/-- What a sweep that begins evicts unseen. -/
def firstUnseen : List Connection :=
  if site.pool.isShutdown then []
  else (Sweep.start site.pool.idle.length site.pool.total).unseen site.pool.config site.now
    site.pool.idle

/-- What a sweep evicts unseen that goes on with the answer to this probe. -/
def nextUnseen (sweep : Sweep) (current : Connection) (pending : List Connection) :
    List Connection :=
  (if site.server.answers current.session then sweep.keep current
    else sweep.evictDead current).unseen site.pool.config site.now pending

/-- What an agent evicts unseen if it goes on now. -/
def unseenBy (agent : Agent) : List Connection :=
  match site.pool.task? agent with
  | none => []
  | some task =>
      if site.pool.isReady site.now task then
        match task.phase with
        | .sweeping sweep current pending => site.nextUnseen sweep current pending
        | .resting => if site.pool.stopRequested then [] else site.firstUnseen
        | _ => []
      else []

variable {site} {connection : Connection}

theorem mem_firstUnseen (member : connection ∈ site.firstUnseen) :
    connection ∈ site.pool.stock ∧
      site.pool.config.maxIdleTime < site.now - connection.metadata.lastUsed := by
  unfold firstUnseen at member
  split at member
  · cases member
  · obtain ⟨idle, expired⟩ := Sweep.mem_unseen member
    exact ⟨Pool.mem_stock_of_idle idle, expired⟩

/-- Whatever is evicted unseen was in stock, and has been unused for too long by its record. -/
theorem mem_unseenBy {agent : Agent} (member : connection ∈ site.unseenBy agent) :
    connection ∈ site.pool.stock ∧
      site.pool.config.maxIdleTime < site.now - connection.metadata.lastUsed := by
  unfold unseenBy at member
  split at member
  case h_1 => cases member
  case h_2 task found =>
    split at member
    case isFalse => cases member
    case isTrue =>
      split at member
      case h_1 sweep current pending phase =>
        obtain ⟨later, expired⟩ := Sweep.mem_unseen member
        refine ⟨?_, expired⟩
        apply Pool.mem_stock_of_swept (List.mem_of_find?_eq_some found)
        rw [Task.swept, phase]
        exact List.mem_append_right _ (List.mem_cons_of_mem _ later)
      case h_2 =>
        split at member
        · cases member
        · exact mem_firstUnseen member
      case h_3 => cases member

end Site

/-! ### The sessions in stock -/

theorem Pool.Task.swept_sublist (task : Task) : task.swept.Sublist task.connections := by
  obtain ⟨agent, phase, due⟩ := task
  cases phase with
  | sweeping sweep current pending =>
      exact (List.sublist_append_left sweep.kept sweep.evicted).append (List.Sublist.refl _)
  | _ => exact List.nil_sublist _

/-- What is in stock is among the connections of the pool. -/
theorem Pool.stock_sublist (pool : Pool) : pool.stock.Sublist pool.connections := by
  have swept : (pool.tasks.flatMap Task.swept).Sublist (pool.tasks.flatMap Task.connections) := by
    induction pool.tasks with
    | nil => exact .refl _
    | cons task rest ih => exact task.swept_sublist.append ih
  exact (List.sublist_append_left pool.idle _).append swept

namespace World

open Pool (Agent Job Task)

/-- No session is in stock twice. -/
theorem Possible.nodup_stock {world : World} (possible : Possible world) {pool : Pool}
    (member : pool ∈ world.pools) : (pool.stock.map (·.name)).Nodup :=
  (possible.nodup_names member).sublist (pool.stock_sublist.map _)

/-- The connections that a move evicts unseen from a pool. -/
def Move.unseen (world : World) (index : Nat) (pool : Pool) : Move → List Connection
  | .act (.call (.healthCheck place)) =>
      if place = index ∧ world.accepts (.healthCheck place) = true then
        (world.site pool).firstUnseen
      else []
  | .act (.resume (.inPool place agent)) =>
      if place = index then (world.site pool).unseenBy agent else []
  | _ => []

theorem Move.mem_unseen {world : World} {index : Nat} {pool : Pool} {move : Move}
    {connection : Connection} (member : connection ∈ move.unseen world index pool) :
    connection ∈ pool.stock ∧
      pool.config.maxIdleTime < world.now - connection.metadata.lastUsed := by
  unfold Move.unseen at member
  split at member
  · split at member
    · exact Site.mem_firstUnseen member
    · cases member
  · split at member
    · exact Site.mem_unseenBy member
    · cases member
  · cases member

/-! ### Rosters -/

/-- The sessions that a pool has in stock. -/
def stocked (world : World) (index : Nat) : List Nat :=
  match world.pools[index]? with
  | some pool => pool.stock.map (·.name)
  | none => []

/-- The stay of a session in the stock of a pool. -/
structure Stay where
  name : Nat
  /-- When whoever put it there began to wait for the server, or when it was put there if there was
  nothing to wait for. -/
  began : Nat
  /-- When it was put into the queue. -/
  entered : Nat
deriving DecidableEq, Repr

/-- The stays of sessions that are put into the queue together. -/
def Stay.entering (began entered : Nat) (names : List Nat) : List Stay :=
  names.map (⟨·, began, entered⟩)

theorem Stay.find?_entering {began entered name : Nat} {names : List Nat} (enters : name ∈ names) :
    (entering began entered names).find? (·.name == name) = some ⟨name, began, entered⟩ := by
  induction names with
  | nil => cases enters
  | cons first rest ih =>
      change List.find? _ (⟨first, began, entered⟩ :: entering began entered rest) = _
      rw [List.find?_cons]
      rcases List.mem_cons.mp enters with rfl | later
      · rw [beq_self_eq_true]
      · split
        case h_1 same =>
          have same : first = name := beq_iff_eq.mp same
          rw [same]
        case h_2 => exact ih later

theorem Stay.find?_entering_eq_none {began entered name : Nat} {names : List Nat}
    (absent : name ∉ names) : (entering began entered names).find? (·.name == name) = none := by
  apply List.find?_eq_none.mpr
  intro stay enters same
  obtain ⟨other, member, rfl⟩ := List.mem_map.mp enters
  have other : other = name := beq_iff_eq.mp same
  exact absent (other ▸ member)

/-- What the record of a connection says of its stay. -/
structure Stay.Fits (stay : Stay) (connection : Connection) (now : Nat) : Prop where
  began_eq : stay.began = connection.metadata.lastUsed
  began_le : stay.began ≤ stay.entered
  entered_le : stay.entered ≤ now

/-- A run up to now, as far as it matters for the stock of one pool. -/
structure Roster where
  world : World
  /-- When each agent of the pool has worked last. -/
  worked : Agent → Nat
  /-- The stays in stock, the last first. -/
  stays : List Stay

namespace Roster

/-- Nothing has happened. -/
def new : Roster := ⟨World.new, fun _ => 0, []⟩

/-- Who works in the pool, if somebody does. Every call has a number of its own. -/
def worker? (roster : Roster) (index : Nat) : Move → Option Agent
  | .act (.call _) => some (.caller roster.world.callers)
  | .act (.resume (.inPool place agent)) =>
      if place = index ∧ roster.world.isReady (.inPool place agent) = true then some agent else none
  | _ => none

/-- Since when whoever works has waited. -/
def since (roster : Roster) : Move → Nat
  | .act (.resume (.inPool _ agent)) => roster.worked agent
  | _ => roster.world.now

/-- The sessions that are in stock after a move and were not before. -/
def newcomers (roster : Roster) (index : Nat) (move : Move) : List Nat :=
  ((roster.world.move move).stocked index).filter fun name => name ∉ roster.world.stocked index

/-- One move more. -/
def move (index : Nat) (roster : Roster) (move : Move) : Roster where
  world := roster.world.move move
  worked := match roster.worker? index move with
    | some agent => Function.update roster.worked agent roster.world.now
    | none => roster.worked
  stays := Stay.entering (roster.since move) roster.world.now (roster.newcomers index move) ++
    roster.stays

/-- A run from a new world. -/
def run (index : Nat) (moves : List Move) : Roster := moves.foldl (Roster.move index) new

/-- The last stay of the session of a connection. -/
def stay? (roster : Roster) (connection : Connection) : Option Stay :=
  roster.stays.find? (·.name == connection.name)

/-- What is true of every roster. -/
structure Kept (roster : Roster) (index : Nat) : Prop where
  possible : Possible roster.world
  worked_le (agent : Agent) : roster.worked agent ≤ roster.world.now
  /-- Whoever waits with a connection for the queue has stamped it when it worked last. -/
  stamped (pool : Pool) (found : roster.world.pools[index]? = some pool) (task : Task)
    (present : task ∈ pool.tasks) (time : Nat) (stamp : task.stamp? = some time) :
    time = roster.worked task.agent
  stays (pool : Pool) (found : roster.world.pools[index]? = some pool) (connection : Connection)
    (member : connection ∈ pool.stock) :
    ∃ stay, roster.stay? connection = some stay ∧ stay.Fits connection roster.world.now

theorem kept_new (index : Nat) : new.Kept index where
  possible := .new
  worked_le _ := Nat.le_refl _
  stamped _ found := by cases found
  stays _ found := by cases found

/-! ### One move -/

/-- What a move makes of the pool, as far as it matters for the roster. -/
structure Grows (roster : Roster) (index : Nat) (move : Move) (pool after : Pool) : Prop where
  stamped (task : Task) (present : task ∈ after.tasks) (time : Nat)
    (stamp : task.stamp? = some time) : time = (roster.move index move).worked task.agent
  stock : (∀ connection ∈ after.stock, connection ∈ pool.stock) ∨
    ∃ connection : Connection, connection.metadata.lastUsed = roster.since move ∧
      after.stock.Perm (connection :: pool.stock)

section Move

variable {roster : Roster} {index : Nat} {pool after : Pool} {move : Move}

theorem worked_of_worker {agent : Agent} (works : roster.worker? index move = some agent) :
    (roster.move index move).worked = Function.update roster.worked agent roster.world.now := by
  rw [Roster.move, works]

namespace Kept

variable (kept : roster.Kept index)

include kept

theorem since_le (move : Move) : roster.since move ≤ roster.world.now := by
  unfold since
  split
  · exact kept.worked_le _
  · exact Nat.le_refl _

/-- The stock after a move has the stays that it should have. -/
theorem stays_move (found : roster.world.pools[index]? = some pool)
    (foundAfter : (roster.world.move move).pools[index]? = some after)
    (grows : roster.Grows index move pool after) (connection : Connection)
    (member : connection ∈ after.stock) :
    ∃ stay, (roster.move index move).stay? connection = some stay ∧
      stay.Fits connection (roster.world.move move).now := by
  have later := now_le_move roster.world move
  have before : roster.world.stocked index = pool.stock.map (·.name) := by
    rw [stocked, found]
  have now : (roster.world.move move).stocked index = after.stock.map (·.name) := by
    rw [stocked, foundAfter]
  have stays (known : connection ∈ pool.stock) :
      ∃ stay, (roster.move index move).stay? connection = some stay ∧
        stay.Fits connection (roster.world.move move).now := by
    obtain ⟨stay, last, fits⟩ := kept.stays pool found connection known
    refine ⟨stay, ?_, { fits with entered_le := Nat.le_trans fits.entered_le later }⟩
    have others : connection.name ∉ roster.newcomers index move := by
      intro enters
      have absent := of_decide_eq_true (List.mem_filter.mp enters).2
      rw [before] at absent
      exact absent (List.mem_map_of_mem known)
    change List.find? _ (_ ++ roster.stays) = _
    rw [List.find?_append, Stay.find?_entering_eq_none others]
    exact last
  rcases grows.stock with same | ⟨new, stamped, perm⟩
  · exact stays (same connection member)
  · rcases List.mem_cons.mp (perm.subset member) with rfl | known
    · have names := (kept.possible.move move).nodup_stock (List.mem_of_getElem? foundAfter)
      have absent : connection.name ∉ pool.stock.map (·.name) :=
        (List.nodup_cons.mp ((perm.map (·.name)).nodup_iff.mp names)).1
      have enters : connection.name ∈ roster.newcomers index move := by
        apply List.mem_filter.mpr
        rw [now, before]
        exact ⟨List.mem_map_of_mem member, decide_eq_true absent⟩
      refine ⟨⟨connection.name, roster.since move, roster.world.now⟩, ?_,
        ⟨stamped.symm, kept.since_le move, later⟩⟩
      change List.find? _ (_ ++ roster.stays) = _
      rw [List.find?_append, Stay.find?_entering enters]
      rfl
    · exact stays known

/-- Only an agent of the pool that goes on has worked later than before. -/
theorem worked_move (found : roster.world.pools[index]? = some pool) {task : Task}
    (present : task ∈ pool.tasks)
    (other : ∀ agent, move ≠ .act (.resume (.inPool index agent))) :
    (roster.move index move).worked task.agent = roster.worked task.agent := by
  have sound := kept.possible.sound pool (List.mem_of_getElem? found)
  cases works : roster.worker? index move with
  | none => rw [Roster.move, works]
  | some agent =>
      rw [worked_of_worker works]
      apply Function.update_of_ne
      unfold worker? at works
      split at works
      · rw [← Option.some.inj works]
        exact sound.agent_ne_callers present
      · split at works
        case isTrue here => exact absurd rfl (here.1 ▸ other _)
        case isFalse => cases works
      · cases works

/-- Where nobody works, nothing is new. -/
theorem grows_of_precedes (found : roster.world.pools[index]? = some pool)
    (other : ∀ agent, move ≠ .act (.resume (.inPool index agent)))
    (precedes : pool.Precedes after)
    (stock : ∀ connection ∈ after.stock, connection ∈ pool.stock) :
    roster.Grows index move pool after where
  stamped task present time stamp := by
    obtain ⟨earlier, known, rfl | rfl⟩ := precedes.old task present
    · rw [kept.worked_move found known other]
      exact kept.stamped pool found _ known time stamp
    · rw [Task.agent_notify, kept.worked_move found known other]
      rw [Task.stamp?_notify] at stamp
      exact kept.stamped pool found _ known time stamp
  stock := .inl stock

/-- A turn of an agent adds what it says, and the agent has worked now. -/
theorem grows_of_stocks (found : roster.world.pools[index]? = some pool) {before : Pool}
    {turn : Turn} {agent : Agent} (works : roster.worker? index move = some agent)
    (stocks : turn.Stocks before pool.stock agent roster.world.now (roster.since move))
    (old : ∀ task ∈ before.tasks, task ∈ pool.tasks ∧ task.agent ≠ agent)
    (known : ∀ connection ∈ before.stock, connection ∈ pool.stock) :
    roster.Grows index move pool turn.1.pool where
  stamped task present time stamp := by
    rw [worked_of_worker works]
    have still (earlier : Task) (first : earlier ∈ before.tasks)
        (stamp : earlier.stamp? = some time) :
        time = Function.update roster.worked agent roster.world.now earlier.agent := by
      obtain ⟨there, other⟩ := old earlier first
      rw [Function.update_of_ne other]
      exact kept.stamped pool found earlier there time stamp
    rcases stocks.tasks task present with ⟨new, -⟩ | ⟨earlier, first, rfl | rfl⟩
    · obtain ⟨same, now⟩ := new time stamp
      rw [same, Function.update_self]
      exact now
    · exact still _ first stamp
    · rw [Task.agent_notify]
      rw [Task.stamp?_notify] at stamp
      exact still earlier first stamp
  stock := stocks.stock known

/-- An agent that cannot go on does nothing. -/
theorem grows_unready (found : roster.world.pools[index]? = some pool) {agent : Agent}
    (unready : roster.world.isReady (.inPool index agent) = false) :
    roster.Grows index (.act (.resume (.inPool index agent))) pool
      ((roster.world.site pool).resume agent).1.pool := by
  have stays : (roster.world.site pool).resume agent = (roster.world.site pool, none) := by
    apply Site.resume_eq_self
    intro task waits ready
    have waits : pool.task? agent = some task := waits
    rw [isReady_inPool found agent, waits] at unready
    exact ne_true_of_eq_false unready ready
  have none : roster.worker? index (.act (.resume (.inPool index agent))) = none := by
    apply if_neg
    simp [unready]
  rw [stays]
  constructor
  · rw [Roster.move, none]
    exact kept.stamped pool found
  · exact .inl fun _ => id

/-- An agent that goes on puts at most the connection into the queue for which it has waited. -/
theorem grows_resume (found : roster.world.pools[index]? = some pool) (agent : Agent) :
    roster.Grows index (.act (.resume (.inPool index agent))) pool
      ((roster.world.site pool).resume agent).1.pool := by
  have sound := kept.possible.sound pool (List.mem_of_getElem? found)
  have same := isReady_inPool found agent
  cases waits : pool.task? agent with
  | none =>
      rw [waits] at same
      exact kept.grows_unready found same
  | some task =>
      rw [waits, Option.any_some] at same
      cases ready : pool.isReady roster.world.now task with
      | false => exact kept.grows_unready found (same.trans ready)
      | true =>
          have works : roster.worker? index (.act (.resume (.inPool index agent))) = some agent :=
            if_pos ⟨rfl, same.trans ready⟩
          have present := List.mem_of_find?_eq_some waits
          apply kept.grows_of_stocks found works
          · apply Site.resume_stocks waits ready
            · rw [← Pool.agent_of_task? waits]
              exact kept.stamped pool found task present
            · rw [← Pool.agent_of_task? waits]
              exact sound.agent_of_resting present
          · intro other member
            exact ⟨List.mem_of_mem_eraseP member, sound.agent_ne waits other member⟩
          · exact pool.stock_unpark_subset agent

/-- Whatever happens to the pool without an agent that goes on, only a call can add to the stock. -/
theorem grows_happens (found : roster.world.pools[index]? = some pool) {event : Option Event}
    (happens : roster.world.Happens index pool move after event)
    (other : ∀ agent, move ≠ .act (.resume (.inPool index agent))) :
    roster.Grows index move pool after := by
  have sound := kept.possible.sound pool (List.mem_of_getElem? found)
  cases happens with
  | nothing elsewhere => exact kept.grows_of_precedes found other (.refl pool) fun _ => id
  | calls accepted asks =>
      apply kept.grows_of_stocks found rfl
      · exact Site.work_stocks (Pool.Precedes.refl pool) (List.Perm.refl pool.stock) _ _
      · exact fun task present => ⟨present, sound.agent_ne_callers present⟩
      · exact fun _ => id
  | resumes agent => exact absurd rfl (other agent)
  | puts ticket session closes elsewhere =>
      have precedes := (Pool.Precedes.refl pool).putSession ticket session
      refine kept.grows_of_precedes found other precedes fun connection member => ?_
      rw [Pool.putSession] at member
      split at member <;> exact member
  | reorders tasks =>
      have precedes := (Pool.Precedes.refl pool).reorder tasks
      refine kept.grows_of_precedes found other precedes fun connection member => ?_
      rw [Pool.reorder] at member
      split at member
      case isTrue same =>
        have perm := (List.isPerm_iff.mp same).flatMap_right Task.swept
        exact (perm.append_left pool.idle).subset member
      case isFalse => exact member
  | stirs =>
      have precedes := (Pool.Precedes.refl pool).notifyOne
      refine kept.grows_of_precedes found other precedes fun connection member => ?_
      rw [Pool.stock_notifyOne] at member
      exact member

/-- A move of a pool that exists. -/
theorem exists_grows (found : roster.world.pools[index]? = some pool) (move : Move) :
    ∃ after, (roster.world.move move).pools[index]? = some after ∧
      roster.Grows index move pool after := by
  by_cases resumes : ∃ agent, move = .act (.resume (.inPool index agent))
  · obtain ⟨agent, rfl⟩ := resumes
    exact ⟨_, (resume_turn agent found).1, kept.grows_resume found agent⟩
  · obtain ⟨after, foundAfter, happens⟩ := becomes_move found move
    have other (agent : Agent) : move ≠ .act (.resume (.inPool index agent)) :=
      fun same => resumes ⟨agent, same⟩
    exact ⟨after, foundAfter, kept.grows_happens found happens other⟩

omit kept in
/-- Only a call makes a pool. -/
theorem exists_call_of_opened (none : roster.world.pools[index]? = none)
    (foundAfter : (roster.world.move move).pools[index]? = some after) :
    ∃ request, move = .act (.call request) := by
  have beyond := List.getElem?_eq_none_iff.mp none
  have inside := (List.getElem?_eq_some_iff.mp foundAfter).1
  have same (length : (roster.world.move move).pools.length = roster.world.pools.length) :
      ∃ request, move = .act (.call request) := by
    rw [length] at inside
    exact absurd inside (Nat.not_lt_of_le beyond)
  cases move with
  | act action =>
      cases action with
      | call request => exact ⟨request, rfl⟩
      | resume thread =>
          apply same
          cases thread with
          | inPool place agent =>
              change (roster.world.callPool place (·.resume agent)).1.pools.length = _
              rw [pools_callPool, List.length_modify]
          | errand caller =>
              exact congrArg List.length (roster.world.pools_resumeErrand caller).2
      | instruct command => exact same rfl
      | passTo instant => exact same (congrArg List.length (roster.world.pools_passTo instant).2)
  | elapse duration => exact same rfl
  | _ => exact same (List.length_modify ..)

omit kept in
/-- A pool that has just been made has nothing in stock yet. -/
theorem opened (none : roster.world.pools[index]? = none)
    (foundAfter : (roster.world.move move).pools[index]? = some after) :
    after.stock = [] ∧ ∀ task ∈ after.tasks, ∀ time, task.stamp? = some time →
      time = (roster.move index move).worked task.agent := by
  obtain ⟨request, rfl⟩ := exists_call_of_opened none foundAfter
  have beyond := List.getElem?_eq_none_iff.mp none
  obtain ⟨config, rfl⟩ := (affects_move roster.world _).opened beyond foundAfter
  let empty : Site := ⟨roster.world.now, roster.world.server, .new config roster.world.now⟩
  have stocks : (empty.prewarm (.caller roster.world.callers) 0).Stocks empty.pool []
      (.caller roster.world.callers) roster.world.now 0 := by
    apply Site.prewarm_stocks
    · exact .refl empty.pool
    · exact .nothing (List.forall_mem_nil _)
  refine ⟨empty.stock_prewarm _ 0, fun task present time stamp => ?_⟩
  rcases stocks.tasks task present with ⟨new, -⟩ | ⟨earlier, absent, -⟩
  · obtain ⟨same, now⟩ := new time stamp
    rw [same, now, worked_of_worker rfl, Function.update_self]
  · exact absurd absent List.not_mem_nil

end Kept

end Move

theorem Kept.move {roster : Roster} {index : Nat} (kept : roster.Kept index) (move : Move) :
    (roster.move index move).Kept index where
  possible := kept.possible.move move
  worked_le agent := by
    have later := now_le_move roster.world move
    have before := Nat.le_trans (kept.worked_le agent) later
    cases works : roster.worker? index move with
    | none =>
        rw [Roster.move, works]
        exact before
    | some worker =>
        rw [worked_of_worker works]
        by_cases same : agent = worker
        · rw [same, Function.update_self]
          exact later
        · rw [Function.update_of_ne same]
          exact before
  stamped after foundAfter task present time stamp := by
    cases found : roster.world.pools[index]? with
    | none => exact (opened found foundAfter).2 task present time stamp
    | some pool =>
        obtain ⟨left, foundLeft, grows⟩ := kept.exists_grows found move
        obtain rfl := Option.some.inj (foundLeft.symm.trans foundAfter)
        exact grows.stamped task present time stamp
  stays after foundAfter connection member := by
    cases found : roster.world.pools[index]? with
    | none =>
        rw [(opened found foundAfter).1] at member
        cases member
    | some pool =>
        obtain ⟨left, foundLeft, grows⟩ := kept.exists_grows found move
        obtain rfl := Option.some.inj (foundLeft.symm.trans foundAfter)
        exact kept.stays_move found foundAfter grows connection member

/-- Every roster is true. -/
theorem kept_run (index : Nat) (moves : List Move) : (run index moves).Kept index := by
  have follow {roster : Roster} (kept : roster.Kept index) :
      (moves.foldl (Roster.move index) roster).Kept index := by
    induction moves generalizing roster with
    | nil => exact kept
    | cons first later ih => exact ih (kept.move first)
  exact follow (kept_new index)

/-! ### Evictions -/

/-- What is true of a session that is evicted for being idle. -/
structure SatUnused (roster : Roster) (pool : Pool) (connection : Connection) (stay : Stay) :
    Prop where
  last : roster.stay? connection = some stay
  began_le : stay.began ≤ stay.entered
  entered_le : stay.entered ≤ roster.world.now
  /-- Its idle time by the record is more than the limit. -/
  expired : pool.config.maxIdleTime < roster.world.now - stay.began
  /-- If it did not have to be waited for, it has been in stock for all of that time. -/
  sat (prompt : stay.entered = stay.began) :
    pool.config.maxIdleTime < roster.world.now - stay.entered

/-- Only sessions that have been unused for longer than the limit are evicted for being idle. The
time counts from when whoever put the session into the queue began to wait for the server: it
includes the connect of a session with which the pool was filled, and the probe of one that came
back. Nothing else is added to the time in stock, and no sweep begins it anew. -/
theorem satUnused_of_unseen (index : Nat) (moves : List Move) (move : Move) {pool : Pool}
    (found : (run index moves).world.pools[index]? = some pool) {connection : Connection}
    (evicted : connection ∈ move.unseen (run index moves).world index pool) :
    ∃ stay, (run index moves).SatUnused pool connection stay := by
  have kept := kept_run index moves
  obtain ⟨stocked, expired⟩ := Move.mem_unseen evicted
  obtain ⟨stay, last, fits⟩ := kept.stays pool found connection stocked
  have began := fits.began_le
  have entered := fits.entered_le
  rw [← fits.began_eq] at expired
  exact ⟨stay, last, began, entered, expired, fun prompt => prompt ▸ expired⟩

/-- A pool that is filled with one session, for which it waits for longer than a session may be
idle. A second session comes from elsewhere at once. -/
def slowStart : List Move :=
  let config : Config :=
    { Config.default with
      minConnections := 1
      maxConnections := 2
      maxIdleTime := 50
      validationInterval := Duration.longest }
  [.act (.instruct (.connectDelay 100)), .act (.call (.openPool config)), .act (.passTo 100),
    .act (.resume (.inPool 0 (.caller 0))), .act (.instruct (.connectDelay 0)),
    .act (.call .connect), .act (.resume (.errand 1)), .act (.call (.adopt 0 2))]

/-- The first session goes as unused for too long at the moment in which it enters the queue. -/
theorem satUnused_of_unseen_slowStart :
    ∃ pool connection stay, (run 0 slowStart).world.pools[0]? = some pool ∧
      connection.name = 1 ∧ pool.config.maxIdleTime = 50 ∧
      connection ∈ Move.unseen (run 0 slowStart).world 0 pool (.act (.call (.healthCheck 0))) ∧
      (run 0 slowStart).SatUnused pool connection stay ∧
      stay = ⟨1, 0, 100⟩ ∧ (run 0 slowStart).world.now = 100 := by
  have found : (run 0 slowStart).world.pools[0]? =
      some ((run 0 slowStart).world.pools.head (by decide)) := by decide
  have evicted : ((run 0 slowStart).world.pools.head (by decide)).idle.head (by decide) ∈
      Move.unseen (run 0 slowStart).world 0 ((run 0 slowStart).world.pools.head (by decide))
        (.act (.call (.healthCheck 0))) := by decide
  obtain ⟨stay, sat⟩ := satUnused_of_unseen 0 slowStart _ found evicted
  have last : (run 0 slowStart).stay? (((run 0 slowStart).world.pools.head (by decide)).idle.head
      (by decide)) = some ⟨1, 0, 100⟩ := by decide
  exact ⟨_, _, stay, found, by decide, by decide, evicted, sat,
    Option.some.inj (sat.last.symm.trans last), by decide⟩

end Roster

end World

end SessionPool

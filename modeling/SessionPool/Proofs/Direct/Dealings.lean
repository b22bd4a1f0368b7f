import SessionPool.Proofs.Effects

/-!
# Dealing with the server directly

Callers can do without pools: they connect, probe their sessions, send statements on them and
disconnect them, as often as they like. The server is told what to do meanwhile, short of reporting
errors that are not its own. Connects and probes take their time, and whoever waits for an answer
goes on in any order. What such a history makes of the server, of the sessions and of those who wait
comes down to a few cases, and all of it is told to the callers.
-/

namespace SessionPool.World

/-! ### Histories -/

/-- What a server can be told that reports its own errors only. -/
inductive Order where
  | refuse (on : Bool)
  | failNext (count : Nat)
  | connectDelay (delay : Nat)
  | probeDelay (delay : Nat)
  | kill (id : Nat)
  | killAll
deriving DecidableEq, Repr

/-- The order as one of the commands of the server. -/
def Order.command : Order → Server.Command
  | .refuse on => .refuse on
  | .failNext count => .failNext count
  | .connectDelay delay => .connectDelay delay
  | .probeDelay delay => .probeDelay delay
  | .kill id => .kill id
  | .killAll => .killAll

/-- What can happen next. A session is known by its name, and whoever waits by the number of the
call. -/
inductive Dealing where
  | connect
  | probe (id : Nat)
  | execute (id : Nat) (statement : String)
  | query (id : Nat) (statement : String)
  | disconnect (id : Nat)
  | answer (caller : Nat)
  | instruct (order : Order)
  | pass (duration : Nat)
deriving DecidableEq, Repr

/-- The dealing as a move. -/
def Dealing.move : Dealing → Move
  | .connect => .act (.call .connect)
  | .probe id => .act (.call (.probe (.outside id)))
  | .execute id statement => .act (.call (.executeDirectly (.outside id) statement))
  | .query id statement => .act (.call (.queryDirectly (.outside id) statement))
  | .disconnect id => .act (.call (.disconnect (.outside id)))
  | .answer caller => .act (.resume (.errand caller))
  | .instruct order => .act (.instruct order.command)
  | .pass duration => .elapse duration

/-- The world after a dealing. -/
def deal (world : World) (dealing : Dealing) : World := world.move dealing.move

/-- What is told by a dealing. -/
def told? (world : World) (dealing : Dealing) : Option Answer :=
  (dealing.move.event? world).map (·.answer)

/-- The world after several dealings. -/
def dealAll (world : World) (dealings : List Dealing) : World := dealings.foldl deal world

/-- The world after these dealings with a new server. -/
def dealt (dealings : List Dealing) : World := World.new.dealAll dealings

/-- A dealing that is over, and what was told. -/
structure Line where
  dealing : Dealing
  answer : Answer
deriving DecidableEq, Repr

/-- What is told by a dealing, as it is logged. -/
def lines (dealing : Dealing) (told : Option Answer) : List Line :=
  (told.map (Line.mk dealing)).toList

/-- All that is told, in order. -/
def log (world : World) : List Dealing → List Line
  | [] => []
  | dealing :: later => lines dealing (world.told? dealing) ++ (world.deal dealing).log later

theorem dealAll_append (world : World) (first later : List Dealing) :
    world.dealAll (first ++ later) = (world.dealAll first).dealAll later :=
  List.foldl_append

theorem log_append (world : World) (first later : List Dealing) :
    world.log (first ++ later) = world.log first ++ (world.dealAll first).log later := by
  induction first generalizing world with
  | nil => rfl
  | cons dealing first ih =>
      rw [List.cons_append, log, log, ih, List.append_assoc]
      rfl

theorem dealt_concat (dealings : List Dealing) (dealing : Dealing) :
    dealt (dealings ++ [dealing]) = (dealt dealings).deal dealing :=
  dealAll_append World.new dealings [dealing]

/-- What is told by one dealing more is told last. -/
theorem log_concat (dealings : List Dealing) (dealing : Dealing) :
    World.new.log (dealings ++ [dealing]) = World.new.log dealings ++
      lines dealing ((dealt dealings).told? dealing) := by
  rw [log_append, log, log, List.append_nil]
  rfl

/-! ### What a dealing does -/

/-- The sessions when the one with this name is as its owner has left it. -/
def replaced (sessions : List Session) (id : Nat) (session : Session) : List Session :=
  sessions.map fun old => if old.id == id then session else old

/-- What a dealing makes of the server, of the sessions and of those who wait, and what is told. -/
inductive Deals (world : World) :
    Dealing → Server → List Session → List Errand → Option Answer → Prop where
  /-- Time passes, or the dealing is not possible now. -/
  | nothing (dealing : Dealing) :
      Deals world dealing world.server world.outside world.errands none
  | connects (due : Nat) :
      Deals world .connect world.server.startConnect.1 world.outside
        (world.errands ++ [⟨world.callers, .connecting world.server.startConnect.2, due⟩]) none
  | probes {id : Nat} {session : Session} (due : Nat) (held : world.outside? id = some session)
      (free : world.isProbed session.id = false) :
      Deals world (.probe id) (world.server.startProbe session) world.outside
        (world.errands ++ [⟨world.callers, .probing session, due⟩]) none
  | executes {id : Nat} {session : Session} (statement : String)
      (held : world.outside? id = some session) (free : world.isProbed session.id = false) :
      Deals world (.execute id statement) (world.server.execute session statement).1 world.outside
        world.errands (some (ofServer .rows (world.server.execute session statement).2))
  | queries {id : Nat} {session : Session} (statement : String)
      (held : world.outside? id = some session) (free : world.isProbed session.id = false) :
      Deals world (.query id statement) (world.server.query session statement).1 world.outside
        world.errands (some (ofServer .texts (world.server.query session statement).2))
  | disconnects {id : Nat} {session : Session} (held : world.outside? id = some session)
      (free : world.isProbed session.id = false) :
      Deals world (.disconnect id) (world.server.disconnect session)
        (replaced world.outside id session.closed) world.errands (some (.ok .disconnected))
  | connected {caller : Nat} {errand : Errand} {attempt : Attempt} {server : Server}
      {session : Session} (waits : world.errand? caller = some errand)
      (work : errand.work = .connecting attempt)
      (opens : world.server.finishConnect attempt = (server, .ok session)) :
      Deals world (.answer caller) server (session :: world.outside)
        (world.errands.eraseP (·.caller == caller)) (some (.ok (.connected session)))
  | failed {caller : Nat} {errand : Errand} {attempt : Attempt} {server : Server}
      {error : SessionError} (waits : world.errand? caller = some errand)
      (work : errand.work = .connecting attempt)
      (fails : world.server.finishConnect attempt = (server, .error error)) :
      Deals world (.answer caller) server world.outside
        (world.errands.eraseP (·.caller == caller)) (some (.error (.session error)))
  | probed {caller : Nat} {errand : Errand} {session : Session}
      (waits : world.errand? caller = some errand) (work : errand.work = .probing session) :
      Deals world (.answer caller) world.server world.outside
        (world.errands.eraseP (·.caller == caller))
        (some (.ok (.alive (world.server.answers session))))
  | obeys (order : Order) :
      Deals world (.instruct order) (world.server.obey order.command) world.outside world.errands
        none

section Call

variable {world : World} {id : Nat}

/-- Whoever has a session outside of the pools can use it unless it is being probed. -/
theorem isFree_outside {session : Session} (held : world.outside? id = some session) :
    world.isFree (.outside id) = !world.isProbed session.id := by
  have heldHere : world.session? (.outside id) = some session := held
  unfold isFree
  rw [heldHere]

/-- A session that nobody has cannot be used. -/
theorem not_isFree_outside (absent : world.outside? id = none) :
    world.isFree (.outside id) = false := by
  have nobody : world.session? (.outside id) = none := absent
  unfold isFree
  rw [nobody]

/-- Whoever has a session uses it, whichever call this is. -/
theorem withSession_outside {session : Session} (held : world.outside? id = some session)
    (use : Session → World × Option Answer) :
    ({ world with callers := world.callers + 1 } : World).withSession (.outside id) use =
      use session := by
  have heldHere : ({ world with callers := world.callers + 1 } : World).session? (.outside id) =
      some session := held
  rw [withSession, heldHere]

end Call

/-- A dealing that ends like this does one of the things it can do. -/
def Done (world : World) (dealing : Dealing) (after : World × Option Event) : Prop :=
  Deals world dealing after.1.server after.1.outside after.1.errands (after.2.map (·.answer))

/-- A call on a session is made by whoever has it, unless it is being probed. -/
theorem done_call {world : World} {dealing : Dealing} {id : Nat} (request : Request)
    (gate : world.accepts request = world.isFree (.outside id))
    (done : ∀ session, world.outside? id = some session → world.isProbed session.id = false →
      Done world dealing (report (request.thread world)
        (({ world with callers := world.callers + 1 } : World).begin world.callers request))) :
    Done world dealing (world.call request) := by
  have refused (busy : world.isFree (.outside id) = false) :
      Done world dealing (world.call request) := by
    have turned : world.call request = (world, none) := by
      apply if_neg
      rw [gate, busy]
      exact Bool.false_ne_true
    rw [turned]
    exact .nothing _
  cases held : world.outside? id with
  | none => exact refused (not_isFree_outside held)
  | some session =>
      cases busy : world.isProbed session.id with
      | true => exact refused (by rw [isFree_outside held, busy]; rfl)
      | false =>
          rw [call_eq_report (by rw [gate, isFree_outside held, busy]; rfl)]
          exact done session held busy

/-- The answer reaches whoever waits for it, if it has come. -/
theorem done_answer (world : World) (caller : Nat) :
    Done world (.answer caller) (world.resume (.errand caller)) := by
  change Done world _ (report (.errand caller) (world.resumeErrand caller))
  unfold resumeErrand
  split
  case h_2 => exact .nothing _
  case h_1 errand waits =>
    split
    case isFalse => exact .nothing _
    case isTrue =>
      cases work : errand.work with
      | probing session => exact .probed waits work
      | connecting attempt =>
          rcases told : world.server.finishConnect attempt with ⟨server, error | session⟩
          · have fails := Deals.failed waits work told
            simpa [Done, report, finishErrand, told] using fails
          · have opens := Deals.connected waits work told
            simpa [Done, report, finishErrand, told] using opens

/-- Every dealing does one of the things that are listed. -/
theorem deals (world : World) (dealing : Dealing) :
    Deals world dealing (world.deal dealing).server (world.deal dealing).outside
      (world.deal dealing).errands (world.told? dealing) := by
  cases dealing with
  | connect => exact .connects _
  | probe id =>
      apply done_call (.probe (.outside id)) rfl
      intro session held free
      rw [begin, World.probe, withSession_outside held]
      exact .probes _ held free
  | execute id statement =>
      apply done_call (.executeDirectly (.outside id) statement) rfl
      intro session held free
      rw [begin, sendDirectly, withSession_outside held]
      exact .executes statement held free
  | query id statement =>
      apply done_call (.queryDirectly (.outside id) statement) rfl
      intro session held free
      rw [begin, sendDirectly, withSession_outside held]
      exact .queries statement held free
  | disconnect id =>
      apply done_call (.disconnect (.outside id)) rfl
      intro session held free
      rw [begin, World.disconnect, withSession_outside held]
      exact .disconnects held free
  | answer caller => exact done_answer world caller
  | instruct order => exact .obeys order
  | pass duration => exact .nothing _

end SessionPool.World

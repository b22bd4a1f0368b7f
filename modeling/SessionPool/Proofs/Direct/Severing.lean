import SessionPool.Proofs.Direct.Books

/-!
# Severed sessions

Which sessions are severed decides who is alive, and nothing else. Without knowing it one can tell
what a dealing does, except for the answers of the server, and the history tells it exactly.
-/

namespace SessionPool

namespace Server

/-- The server when these sessions are the severed ones. -/
def withKilled (server : Server) (killed : List Nat) : Server := { server with killed }

theorem startConnect_withKilled (server : Server) (killed : List Nat) :
    (server.withKilled killed).startConnect =
      (server.startConnect.1.withKilled killed, server.startConnect.2) := by
  have same : (server.withKilled killed).connectFaults = server.connectFaults := rfl
  unfold startConnect
  rw [same]
  cases server.connectFaults <;> rfl

theorem startProbe_withKilled (server : Server) (killed : List Nat) (session : Session) :
    (server.withKilled killed).startProbe session =
      (server.startProbe session).withKilled killed := by
  unfold startProbe
  cases session.connected <;> rfl

theorem execute_fst (server : Server) (session : Session) (statement : String) :
    (server.execute session statement).1 = (server.run session statement).1 := by
  unfold execute
  split <;> rename_i ran <;> rw [ran]

theorem query_fst (server : Server) (session : Session) (statement : String) :
    (server.query session statement).1 = (server.run session statement).1 := by
  unfold query
  split <;> rename_i ran <;> rw [ran]

theorem run_withKilled (server : Server) (killed : List Nat) (session : Session)
    (statement : String) : ((server.withKilled killed).run session statement).1 =
      (server.run session statement).1.withKilled killed := by
  have same : (server.withKilled killed).statementFaults = server.statementFaults := rfl
  unfold run
  rw [same]
  split <;> rfl

theorem finishConnect_withKilled (server : Server) (killed : List Nat) (attempt : Attempt) :
    (server.withKilled killed).finishConnect attempt =
      ((server.finishConnect attempt).1.withKilled killed, (server.finishConnect attempt).2) := by
  cases attempt with
  | faulted error => rfl
  | reaching =>
      have refusing : (server.withKilled killed).refusing = server.refusing := rfl
      have failing : (server.withKilled killed).failing = server.failing := rfl
      unfold finishConnect
      dsimp only
      rw [refusing, failing]
      split
      · rfl
      · split <;> rfl

end Server

namespace World

/-- The world when these sessions are the severed ones. -/
def withKilled (world : World) (killed : List Nat) : World :=
  { world with server := world.server.withKilled killed }

/-- The sessions that are severed after a dealing. -/
def severed (server : Server) : Dealing → List Nat
  | .instruct order => (server.obey order.command).killed
  | _ => server.killed

section WithKilled

variable (world : World) (killed : List Nat)

/-- A call does the same whoever is severed, if its work does. -/
theorem call_withKilled (request : Request)
    (accepts : (world.withKilled killed).accepts request = world.accepts request)
    (begins : ((({ world with callers := world.callers + 1 } : World).withKilled killed).begin
        world.callers request).1 =
      (({ world with callers := world.callers + 1 } : World).begin world.callers
        request).1.withKilled killed) :
    ((world.withKilled killed).call request).1 = (world.call request).1.withKilled killed := by
  unfold call
  rw [accepts]
  split
  · exact begins
  · rfl

/-- What somebody does with a session is the same whoever is severed. -/
theorem withSession_withKilled (holder : Holder) (use other : Session → World × Option Answer)
    (same : ∀ session, (other session).1 = (use session).1.withKilled killed) :
    ((world.withKilled killed).withSession holder other).1 =
      (world.withSession holder use).1.withKilled killed := by
  have held : (world.withKilled killed).session? holder = world.session? holder := by
    cases holder <;> rfl
  unfold withSession
  rw [held]
  split
  · exact same _
  · rfl

/-- Who is severed makes no difference to a dealing but that to whom it is after it. -/
theorem deal_withKilled (dealing : Dealing) :
    (world.withKilled killed).deal dealing =
      (world.deal dealing).withKilled (severed (world.server.withKilled killed) dealing) := by
  cases dealing with
  | connect =>
      apply world.call_withKilled killed .connect rfl
      simp only [begin, connect, withKilled, Server.startConnect_withKilled]
      rfl
  | probe id =>
      apply world.call_withKilled killed (.probe (.outside id)) rfl
      apply withSession_withKilled
      intro session
      simp only [withKilled, Server.startProbe_withKilled]
      rfl
  | execute id statement =>
      apply world.call_withKilled killed (.executeDirectly (.outside id) statement) rfl
      apply withSession_withKilled
      intro session
      simp only [withKilled, Server.execute_fst, Server.run_withKilled]
  | query id statement =>
      apply world.call_withKilled killed (.queryDirectly (.outside id) statement) rfl
      apply withSession_withKilled
      intro session
      simp only [withKilled, Server.query_fst, Server.run_withKilled]
  | disconnect id =>
      apply world.call_withKilled killed (.disconnect (.outside id)) rfl
      apply withSession_withKilled
      intro session
      rfl
  | answer caller =>
      change ((world.withKilled killed).resumeErrand caller).1 =
        (world.resumeErrand caller).1.withKilled killed
      unfold resumeErrand
      rw [show (world.withKilled killed).errand? caller = world.errand? caller from rfl]
      split
      case h_2 => rfl
      case h_1 errand waits =>
        rw [show (world.withKilled killed).now = world.now from rfl]
        split
        case isFalse => rfl
        case isTrue =>
          cases work : errand.work with
          | probing session => rfl
          | connecting attempt =>
              simp only [finishErrand, withKilled, Server.finishConnect_withKilled]
              rcases world.server.finishConnect attempt with ⟨server, error | session⟩ <;> rfl
  | instruct order => cases order <;> rfl
  | pass duration => rfl

end WithKilled

/-! ### Who is severed -/

theorem killed_deal (world : World) (dealing : Dealing) :
    (world.deal dealing).server.killed = severed world.server dealing :=
  congrArg (·.server.killed) (world.deal_withKilled world.server.killed dealing)

theorem mem_severed_iff (server : Server) (dealing : Dealing) (id : Nat) :
    id ∈ severed server dealing ↔ id ∈ server.killed ∨ dealing = .instruct (.kill id) ∨
      dealing = .instruct .killAll ∧ id ∈ server.openIds := by
  cases dealing with
  | instruct order =>
      cases order <;> simp [severed, Order.command, Server.obey, or_comm, eq_comm]
  | _ => simp [severed]

/-- A session is severed if the server has been told to sever it, or all sessions when this one was
open. -/
theorem mem_killed_iff (dealings : List Dealing) (id : Nat) :
    id ∈ (dealt dealings).server.killed ↔ .instruct (.kill id) ∈ dealings ∨
      ∃ before, before ++ [.instruct .killAll] <+: dealings ∧
        id ∈ (dealt before).server.openIds := by
  induction dealings using List.reverseRecOn with
  | nil => simp [dealt, dealAll, World.new, Server.new]
  | append_singleton before dealing ih =>
      rw [dealt_concat, killed_deal, mem_severed_iff, ih]
      constructor
      · rintro ((asked | ⟨first, within, isOpen⟩) | rfl | ⟨rfl, isOpen⟩)
        · exact .inl (List.mem_append_left _ asked)
        · exact .inr ⟨first, within.trans (List.prefix_append _ _), isOpen⟩
        · exact .inl List.mem_concat_self
        · exact .inr ⟨before, List.prefix_refl _, isOpen⟩
      · rintro (asked | ⟨first, within, isOpen⟩)
        · rcases List.mem_append.mp asked with earlier | last
          · exact .inl (.inl earlier)
          · exact .inr (.inl (List.mem_singleton.mp last).symm)
        · rcases List.prefix_concat_iff.mp within with same | earlier
          · obtain ⟨rfl, last⟩ := List.append_inj' same rfl
            exact .inr (.inr ⟨(List.singleton_inj.mp last).symm, isOpen⟩)
          · exact .inl (.inr ⟨first, earlier, isOpen⟩)

/-! ### Who is alive -/

/-- Whether a probe of a session finds it alive that is answered now. -/
def isAlive (world : World) (id : Nat) : Bool := (world.outside? id).any world.server.answers

theorem isAlive_eq {world : World} {id : Nat} {session : Session}
    (held : world.outside? id = some session) :
    world.isAlive id = world.server.answers session := by
  rw [isAlive, held]
  rfl

/-- A session is alive as long as it is open and has not been severed. -/
theorem Books.isAlive_iff {world : World} (books : Books world.server world.outside) (id : Nat) :
    world.isAlive id = true ↔ id ∈ world.server.openIds ∧ id ∉ world.server.killed := by
  rw [isAlive, Option.any_eq_true]
  constructor
  · rintro ⟨session, held, alive⟩
    obtain ⟨member, rfl⟩ := mem_outside held
    obtain ⟨connected, spared⟩ := Server.answers_eq_true_iff.mp alive
    exact ⟨(books.mem_openIds_iff member).mpr connected, spared⟩
  · rintro ⟨isOpen, spared⟩
    rw [books.openIds_eq] at isOpen
    obtain ⟨session, here, rfl⟩ := List.mem_map.mp isOpen
    obtain ⟨member, connected⟩ := List.mem_filter.mp here
    exact ⟨session, books.find?_eq member, Server.answers_eq_true_iff.mpr ⟨connected, spared⟩⟩

/-- A session is open if it has been opened and not been disconnected. -/
theorem mem_openIds_dealt_iff (dealings : List Dealing) (id : Nat) :
    id ∈ (dealt dealings).server.openIds ↔ id ∈ opened (World.new.log dealings) ∧
      id ∉ disconnected (World.new.log dealings) := by
  have books := books_dealt dealings
  have closed {session : Session} (member : session ∈ (dealt dealings).outside) :
      session.connected = false ↔ session.id ∈ (dealt dealings).server.disconnects :=
    (books.closed_iff session member).trans List.count_pos_iff
  rw [mem_opened_iff, disconnected_log, List.mem_reverse]
  constructor
  · intro isOpen
    have known := isOpen
    rw [books.openIds_eq] at known
    obtain ⟨session, here, rfl⟩ := List.mem_map.mp known
    have member := List.mem_of_mem_filter here
    refine ⟨List.mem_map_of_mem member, fun ended => ?_⟩
    have connected := (books.mem_openIds_iff member).mp isOpen
    rw [(closed member).mpr ended] at connected
    cases connected
  · rintro ⟨known, unended⟩
    obtain ⟨session, member, rfl⟩ := List.mem_map.mp known
    rw [books.mem_openIds_iff member]
    exact eq_true_of_ne_false fun ended => unended ((closed member).mp ended)

/-! ### Two worlds that differ in who is severed -/

/-- The worlds differ in nothing but who is severed, and for this session not in that. -/
structure Alike (id : Nat) (world other : World) : Prop where
  same : other = world.withKilled other.server.killed
  agrees : id ∈ other.server.killed ↔ id ∈ world.server.killed

section Alike

variable {id : Nat} {world other : World} (alike : Alike id world other)

include alike

theorem Alike.deal (dealing : Dealing) : Alike id (world.deal dealing) (other.deal dealing) := by
  have openIds : other.server.openIds = world.server.openIds := by
    rw [alike.same]
    rfl
  have step := world.deal_withKilled other.server.killed dealing
  rw [← alike.same] at step
  constructor
  · rw [step]
    rfl
  · rw [killed_deal, killed_deal, mem_severed_iff, mem_severed_iff, alike.agrees, openIds]

theorem Alike.dealAll (later : List Dealing) :
    Alike id (world.dealAll later) (other.dealAll later) := by
  induction later generalizing world other with
  | nil => exact alike
  | cons dealing later ih => exact ih (alike.deal dealing)

theorem Alike.isAlive_eq : other.isAlive id = world.isAlive id := by
  have outside : other.outside? id = world.outside? id := by
    rw [alike.same]
    rfl
  rw [isAlive, isAlive, outside]
  cases held : world.outside? id with
  | none => rfl
  | some session =>
      obtain ⟨-, rfl⟩ := mem_outside held
      simp [Server.answers, Server.isKilled, alike.agrees]

end Alike

end World

end SessionPool

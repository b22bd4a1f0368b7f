import SessionPool.Proofs.Direct.Severing
import SessionPool.Proofs.Handles.Probes

/-!
# Probes and statements agree

A session is ended by its owner or by the server. Its owner remembers the one, the server the other,
and a probe and a statement each ask both in their own way. They always agree: a statement is run
exactly if a probe finds the session alive, and otherwise the connection is lost, which makes a pool
give it up. Whoever is dead stays dead, and to sever all sessions means those that are open and no
others.
-/

namespace SessionPool

namespace Server

variable {server : Server} {session : Session}

/-- A session that is alive runs every statement that is not blank. -/
theorem respond_of_alive {α : Type} (alive : server.answers session = true) {statement : String}
    (text : Text.isBlank statement = false) (value : α) :
    server.respond session statement value = .ok value := by
  rw [respond, objection?_eq_none_iff.mpr ⟨alive, text⟩]

/-- The connection of a dead session is lost, whatever the statement. -/
theorem respond_of_dead (dead : server.answers session = false) (statement : String) :
    ∃ reason, ∀ {α : Type} (value : α),
      server.respond session statement value = .error (.connectionLost reason) := by
  unfold answers at dead
  unfold respond objection?
  cases connected : session.connected with
  | false => exact ⟨_, fun _ => rfl⟩
  | true =>
      rw [connected, Bool.true_and, Bool.not_eq_false'] at dead
      rw [dead]
      exact ⟨_, fun _ => rfl⟩

end Server

/-- The name of the session that is probed on an errand. -/
def Errand.target? (errand : Errand) : Option Nat :=
  match errand.work with
  | .probing session => some session.id
  | .connecting _ => none

namespace World

/-! ### Sessions that are being probed -/

theorem isProbed_iff_mem {world : World} {id : Nat} :
    world.isProbed id = true ↔ id ∈ world.errands.filterMap Errand.target? := by
  rw [isProbed_iff, List.mem_filterMap]
  refine exists_congr fun errand => and_congr_right fun _ => ?_
  rcases errand with ⟨caller, attempt | session, due⟩ <;> simp [Errand.target?]

/-- A session stays as it is while it is being probed, and is not probed twice at once. -/
structure Probing (sessions : List Session) (errands : List Errand) : Prop where
  held {errand : Errand} (waits : errand ∈ errands) {session : Session}
    (work : errand.work = .probing session) : session ∈ sessions
  once : (errands.filterMap Errand.target?).Nodup

section Probing

variable {sessions more : List Session} {errands fewer : List Errand}

/-- Nobody minds sessions that are opened, and answers that come. -/
theorem Probing.mono (probing : Probing sessions errands) (stays : sessions ⊆ more)
    (answered : fewer.Sublist errands) : Probing more fewer where
  held waits _ work := stays (probing.held (answered.subset waits) work)
  once := probing.once.sublist (answered.filterMap _)

/-- A caller begins to wait for a connect, or for the answer to a probe of a session that nobody
else probes. -/
theorem Probing.concat (probing : Probing sessions errands) {errand : Errand}
    (held : ∀ session, errand.work = .probing session →
      session ∈ sessions ∧ session.id ∉ errands.filterMap Errand.target?) :
    Probing sessions (errands ++ [errand]) := by
  constructor
  · intro other waits session work
    rcases List.mem_append.mp waits with before | new
    · exact probing.held before work
    · rw [List.mem_singleton.mp new] at work
      exact (held session work).1
  · rw [List.filterMap_append]
    cases work : errand.work with
    | connecting attempt => simpa [Errand.target?, work] using probing.once
    | probing session =>
        have apart := (held session work).2
        have target : [errand].filterMap Errand.target? = [session.id] := by
          simp [Errand.target?, work]
        rw [target, ← List.concat_eq_append]
        exact probing.once.concat apart

/-- Only a session that nobody probes can be replaced. -/
theorem Probing.replaced (probing : Probing sessions errands) {id : Nat}
    (free : id ∉ errands.filterMap Errand.target?) (session : Session) :
    Probing (replaced sessions id session) errands where
  held {errand} waits other work := by
    have target : other.id ∈ errands.filterMap Errand.target? :=
      List.mem_filterMap.mpr ⟨errand, waits, by rw [Errand.target?, work]⟩
    have apart : ¬ (other.id == id) = true := fun same => free (beq_iff_eq.mp same ▸ target)
    exact List.mem_map.mpr ⟨other, probing.held waits work, if_neg apart⟩
  once := probing.once

theorem Deals.probing {world : World} {dealing : Dealing} {server : Server}
    {told : Option Answer} (deals : Deals world dealing server sessions errands told)
    (probing : Probing world.outside world.errands) : Probing sessions errands := by
  have unprobed {id : Nat} (free : world.isProbed id = false) :
      id ∉ world.errands.filterMap Errand.target? := fun target =>
    Bool.eq_false_iff.mp free (isProbed_iff_mem.mpr target)
  cases deals with
  | nothing => exact probing
  | connects due => exact probing.concat nofun
  | probes due held free =>
      apply probing.concat
      rintro _ ⟨⟩
      exact ⟨(mem_outside held).1, unprobed free⟩
  | executes => exact probing
  | queries => exact probing
  | disconnects held free =>
      obtain ⟨-, rfl⟩ := mem_outside held
      exact probing.replaced (unprobed free) _
  | connected => exact probing.mono (List.subset_cons_self _ _) List.eraseP_sublist
  | failed => exact probing.mono (List.Subset.refl _) List.eraseP_sublist
  | probed => exact probing.mono (List.Subset.refl _) List.eraseP_sublist
  | obeys => exact probing

theorem probing_dealt (dealings : List Dealing) :
    Probing (dealt dealings).outside (dealt dealings).errands := by
  induction dealings using List.reverseRecOn with
  | nil => exact ⟨nofun, List.nodup_nil⟩
  | append_singleton before dealing ih =>
      rw [dealt_concat]
      exact ((dealt before).deals dealing).probing ih

end Probing

section Answer

variable {world : World} {caller : Nat} {errand : Errand} {session : Session}
  (waits : world.errand? caller = some errand) (work : errand.work = .probing session)

include waits work

/-- The answer to a probe is a verdict on the session, and leaves everything else as it is. -/
theorem resume_probing (due : errand.due ≤ world.now) : world.resume (.errand caller) =
    report (.errand caller) ({ world with errands := world.errands.eraseP (·.caller == caller) },
      some (.ok (.alive (world.server.answers session)))) := by
  have answered : world.resumeErrand caller =
      ({ world with errands := world.errands.eraseP (·.caller == caller) },
        some (.ok (.alive (world.server.answers session)))) := by
    rw [resumeErrand, waits]
    dsimp only
    rw [if_pos due, work]
    rfl
  exact congrArg (report (.errand caller)) answered

/-- With the answer its owner can use the session again. -/
theorem Probing.freed (probing : Probing world.outside world.errands) :
    session.id ∉ (world.errands.eraseP (·.caller == caller)).filterMap Errand.target? := by
  obtain ⟨asks, before, after, split, others⟩ := List.find?_eq_some_iff_append.mp waits
  have rest : world.errands.eraseP (·.caller == caller) = before ++ after := by
    rw [split, List.eraseP_append_right _ (by simpa using others), List.eraseP_cons, asks]
    rfl
  -- The errand that is over was the only one on which the session was probed.
  have once := probing.once
  have target : errand.target? = some session.id := by rw [Errand.target?, work]
  rw [split, List.filterMap_append, List.filterMap_cons_some target] at once
  rw [rest, List.filterMap_append]
  exact (List.nodup_middle.mp once).notMem

end Answer

/-! ### Statements -/

/-- Statements on a session are run exactly if the session is alive. -/
structure Responds (world : World) (id : Nat) (alive : Bool) : Prop where
  execute (statement : String) (text : Text.isBlank statement = false) :
    world.told? (.execute id statement) = some (.ok (.rows 1)) ↔ alive = true
  query (statement : String) (text : Text.isBlank statement = false) :
    world.told? (.query id statement) = some (.ok (.texts [statement])) ↔ alive = true
  /-- If not, the connection is lost, and this is an error for which pools give up connections. -/
  lost (dead : alive = false) (statement : String) : ∃ error : SessionError,
    world.told? (.execute id statement) = some (.error (.session error)) ∧
      world.told? (.query id statement) = some (.error (.session error)) ∧
      (∃ reason, error = .connectionLost reason) ∧ error.isConnectivity = true ∧
      ∀ connection : Connection,
        (Site.observed connection (.error error : Except SessionError Nat)).isReusable = false

section Responds

variable {world : World} {id : Nat} {session : Session}
  (held : world.outside? id = some session) (free : world.isProbed session.id = false)

include held free

/-- A statement is answered at once. -/
theorem call_sendDirectly {α : Type} (request : Request)
    (send : Server → Session → Server × Except SessionError α) (reply : α → Reply)
    (gate : world.accepts request = world.isFree (.outside id))
    (sends : ({ world with callers := world.callers + 1 } : World).begin world.callers request =
      ({ world with callers := world.callers + 1 } : World).sendDirectly (.outside id) send
        reply) :
    (world.call request).2.map (·.answer) =
      some (ofServer reply (send world.server session).2) := by
  have accepted : world.accepts request = true := by
    rw [gate, isFree_outside held, free]
    rfl
  rw [call_eq_report accepted, sends, sendDirectly, withSession_outside held]
  rfl

/-- Whoever can send a statement is answered as a probe would promise. -/
theorem Faultless.responds (faultless : world.Faultless) :
    world.Responds id (world.server.answers session) := by
  have executed (statement : String) : world.told? (.execute id statement) =
      some (ofServer .rows (world.server.respond session statement 1)) := by
    have told := call_sendDirectly held free (.executeDirectly (.outside id) statement)
      (·.execute · statement) .rows rfl rfl
    rwa [faultless.execute_eq] at told
  have queried (statement : String) : world.told? (.query id statement) =
      some (ofServer .texts (world.server.respond session statement [statement])) := by
    have told := call_sendDirectly held free (.queryDirectly (.outside id) statement)
      (·.query · statement) .texts rfl rfl
    rwa [faultless.query_eq] at told
  have runs {α : Type} (reply : α → Reply) {statement : String}
      (text : Text.isBlank statement = false) (value : α) :
      some (ofServer reply (world.server.respond session statement value)) =
        some (.ok (reply value)) ↔ world.server.answers session = true := by
    cases alive : world.server.answers session with
    | true =>
        rw [Server.respond_of_alive alive text]
        exact iff_of_true rfl rfl
    | false =>
        obtain ⟨reason, lost⟩ := Server.respond_of_dead alive statement
        rw [lost]
        exact iff_of_false nofun nofun
  constructor
  · intro statement text
    rw [executed]
    exact runs .rows text 1
  · intro statement text
    rw [queried]
    exact runs .texts text [statement]
  · intro dead statement
    obtain ⟨reason, lost⟩ := Server.respond_of_dead dead statement
    rw [executed, queried, lost, lost]
    exact ⟨_, rfl, rfl, ⟨reason, rfl⟩, rfl, Connection.isReusable_broken⟩

end Responds

/-! ### The theorem -/

/-- How long the sessions live that are opened in the course of a history, and who learns of their
end. -/
structure Liveness (dealings : List Dealing) : Prop where
  /-- When the answer to a probe is due, it comes, and statements agree with it from then on. -/
  probe {caller : Nat} {errand : Errand} {session : Session}
    (waits : (dealt dealings).errand? caller = some errand)
    (work : errand.work = .probing session) (due : errand.due ≤ (dealt dealings).now) :
    (dealt dealings).told? (.answer caller) =
        some (.ok (.alive ((dealt dealings).isAlive session.id))) ∧
      ((dealt dealings).deal (.answer caller)).Responds session.id
        ((dealt dealings).isAlive session.id)
  /-- Statements agree with what a probe would tell, whenever they can be sent. -/
  statements {id : Nat} {session : Session} (held : (dealt dealings).outside? id = some session)
    (free : (dealt dealings).isProbed session.id = false) :
    (dealt dealings).Responds id ((dealt dealings).isAlive id)
  /-- A session lives from its connect until it is disconnected or severed, by name or as one of
  those that are open when all are. -/
  isAlive_iff (id : Nat) : (dealt dealings).isAlive id = true ↔
    id ∈ opened (World.new.log dealings) ∧ id ∉ disconnected (World.new.log dealings) ∧
      .instruct (.kill id) ∉ dealings ∧
      ∀ before, before ++ [.instruct .killAll] <+: dealings →
        id ∉ (dealt before).server.openIds
  /-- Whoever is dead stays dead, whatever comes later. -/
  permanent {id : Nat} (known : id ∈ opened (World.new.log dealings))
    (dead : (dealt dealings).isAlive id = false) (later : List Dealing) :
    (dealt (dealings ++ later)).isAlive id = false
  /-- When all sessions are severed, those die that are open. -/
  killAll {id : Nat} (isOpen : id ∈ (dealt dealings).server.openIds) :
    ((dealt dealings).deal (.instruct .killAll)).isAlive id = false
  /-- To all others, and so to those that are opened later, it makes no difference. -/
  spared {id : Nat} (elsewhere : id ∉ (dealt dealings).server.openIds) (later : List Dealing) :
    (dealt (dealings ++ .instruct .killAll :: later)).isAlive id =
      (dealt (dealings ++ later)).isAlive id

theorem isAlive_dealt_iff (dealings : List Dealing) (id : Nat) :
    (dealt dealings).isAlive id = true ↔
      id ∈ opened (World.new.log dealings) ∧ id ∉ disconnected (World.new.log dealings) ∧
        .instruct (.kill id) ∉ dealings ∧
        ∀ before, before ++ [.instruct .killAll] <+: dealings →
          id ∉ (dealt before).server.openIds := by
  rw [(books_dealt dealings).isAlive_iff, mem_openIds_dealt_iff, mem_killed_iff, not_or, and_assoc]
  simp only [not_exists, not_and]

theorem isAlive_permanent {dealings : List Dealing} {id : Nat}
    (known : id ∈ opened (World.new.log dealings)) {later : List Dealing}
    (alive : (dealt (dealings ++ later)).isAlive id = true) :
    (dealt dealings).isAlive id = true := by
  obtain ⟨-, undisconnected, unnamed, unopened⟩ := (isAlive_dealt_iff _ id).mp alive
  rw [log_append, disconnected_append] at undisconnected
  refine (isAlive_dealt_iff _ id).mpr ⟨known, ?_, ?_, ?_⟩
  · exact fun ended => undisconnected (List.mem_append_left _ ended)
  · exact fun named => unnamed (List.mem_append_left _ named)
  · exact fun before within => unopened before (within.trans (List.prefix_append _ _))

/-- To sever all sessions matters to those that are open only. -/
theorem alike_killAll {world : World} {id : Nat} (elsewhere : id ∉ world.server.openIds) :
    Alike id world (world.deal (.instruct .killAll)) where
  same := rfl
  agrees := by
    rw [killed_deal, mem_severed_iff]
    simp [elsewhere]

/-- Probes and statements agree, and death is permanent. -/
theorem probes_and_statements_agree (dealings : List Dealing) : Liveness dealings := by
  have books := books_dealt dealings
  have probing := probing_dealt dealings
  constructor
  case probe =>
    intro caller errand session waits work due
    have held := books.find?_eq (probing.held (List.mem_of_find?_eq_some waits) work)
    have answered := resume_probing waits work due
    have told : (dealt dealings).told? (.answer caller) = _ :=
      congrArg (fun done => done.2.map (·.answer)) answered
    have after : (dealt dealings).deal (.answer caller) = _ := congrArg Prod.fst answered
    have free : ((dealt dealings).deal (.answer caller)).isProbed session.id = false := by
      rw [after, Bool.eq_false_iff, Ne, isProbed_iff_mem]
      exact probing.freed waits work
    have heldAfter :
        ((dealt dealings).deal (.answer caller)).outside? session.id = some session := by
      rw [after]
      exact held
    have responds := ((faultless_dealt dealings).deal (.answer caller)).responds heldAfter free
    rw [isAlive_eq held]
    refine ⟨told, ?_⟩
    rw [after] at responds ⊢
    exact responds
  case statements =>
    intro id session held free
    rw [isAlive_eq held]
    exact (faultless_dealt dealings).responds held free
  case isAlive_iff => exact isAlive_dealt_iff dealings
  case permanent =>
    intro id known dead later
    rw [Bool.eq_false_iff] at dead ⊢
    exact fun alive => dead (isAlive_permanent known alive)
  case killAll =>
    intro id isOpen
    rw [← dealt_concat, Bool.eq_false_iff]
    intro alive
    obtain ⟨-, -, -, unopened⟩ := (isAlive_dealt_iff _ id).mp alive
    exact unopened dealings (List.prefix_refl _) isOpen
  case spared =>
    intro id elsewhere later
    have alike := (alike_killAll elsewhere).dealAll later
    rw [dealt, dealt, dealAll_append, dealAll_append]
    exact alike.isAlive_eq

/-- The first session has been disconnected, the second is severed while it is being probed, and the
third comes later. -/
example :
    let world := dealt [.connect, .connect, .answer 1, .answer 0, .instruct (.probeDelay 5),
      .probe 2, .disconnect 1, .instruct .killAll, .connect, .answer 4, .pass 5]
    [1, 2, 3].map world.isAlive = [false, false, true] ∧
      world.told? (.answer 2) = some (.ok (.alive false)) := by decide

end World

end SessionPool

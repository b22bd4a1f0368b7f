import Mathlib.Order.Bounds.Basic
import SessionPool.Proofs.Direct.Books

/-!
# The counts of the server

Everybody who looks at a run afterwards relies on what the server has counted. However connects
overlap, whichever of them are refused or made to fail, and however often a session is disconnected,
the counts are those of what the callers have been told.
-/

namespace SessionPool

namespace Server

/-! ### The highest count -/

theorem foldl_max_le_iff (counts : List Nat) (first most : Nat) :
    counts.foldl max first ≤ most ↔ first ≤ most ∧ ∀ count ∈ counts, count ≤ most := by
  induction counts generalizing first with
  | nil => simp
  | cons count counts ih => simp [ih, and_assoc]

/-- The highest count is the least that is not below any count. -/
theorem maxDisconnects_le_iff (server : Server) (most : Nat) :
    server.maxDisconnects ≤ most ↔ ∀ id, server.disconnectCount id ≤ most := by
  rw [maxDisconnects, foldl_max_le_iff]
  constructor
  · rintro ⟨-, counted⟩ id
    by_cases ever : id ∈ server.disconnects
    · exact counted _ (List.mem_map_of_mem ever)
    · rw [disconnectCount, List.count_eq_zero_of_not_mem ever]
      exact Nat.zero_le _
  · intro counted
    refine ⟨Nat.zero_le _, ?_⟩
    rintro count member
    obtain ⟨id, -, rfl⟩ := List.mem_map.mp member
    exact counted id

/-- The highest count is that of some session. -/
theorem isGreatest_maxDisconnects (server : Server) :
    IsGreatest (Set.range server.disconnectCount) server.maxDisconnects := by
  have bound := (server.maxDisconnects_le_iff _).mp (Nat.le_refl _)
  refine ⟨?_, Set.forall_mem_range.mpr bound⟩
  rcases Nat.eq_zero_or_pos server.maxDisconnects with none | some
  · exact ⟨0, (Nat.eq_zero_of_le_zero (none ▸ bound 0)).trans none.symm⟩
  · have exceeded : ¬ server.maxDisconnects ≤ server.maxDisconnects - 1 := by omega
    rw [maxDisconnects_le_iff] at exceeded
    obtain ⟨id, above⟩ := not_forall.mp exceeded
    have below := bound id
    exact ⟨id, by omega⟩

end Server

namespace World

/-! ### Open sessions -/

/-- Of the sessions that have been opened, those are open that have not been disconnected. -/
theorem Books.openCount_add {server : Server} {sessions : List Session}
    (books : Books server sessions) :
    server.openCount + (List.range' 1 server.lastId).countP (0 < server.disconnectCount ·) =
      server.lastId := by
  have closed : (List.range' 1 server.lastId).countP (0 < server.disconnectCount ·) =
      sessions.countP (!·.connected) := by
    rw [← List.countP_reverse, ← books.ids_eq, List.countP_map]
    apply List.countP_congr
    intro session member
    simpa using (books.closed_iff session member).symm
  have all : sessions.length = server.lastId := by
    rw [← List.length_map (·.id), books.ids_eq, List.length_reverse, List.length_range']
  rw [Server.openCount, books.openIds_eq, List.length_map, ← List.countP_eq_length_filter, closed,
    ← all]
  simpa using (List.length_eq_countP_add_countP (·.connected) (l := sessions)).symm

/-! ### Logins that are made to fail -/

/-- How the connects have ended that were not refused, in order. -/
def unrefused (log : List Line) : List (Except SessionError Nat) :=
  (log.filterMap Line.login?).filter (· != .error Server.refusedError)

/-- The first `count` of these connects have failed, or all if they are fewer, and no others. -/
def FailsFirst (count : Nat) (logins : List (Except SessionError Nat)) : Prop :=
  ∀ place login, logins[place]? = some login →
    if place < count then login = .error Server.loginError else ∃ id, login = .ok id

theorem failsFirst_nil (count : Nat) : FailsFirst count [] := by
  rintro place login ⟨⟩

theorem FailsFirst.fail {count : Nat} {logins : List (Except SessionError Nat)}
    (fails : FailsFirst count logins) :
    FailsFirst (count + 1) (.error Server.loginError :: logins) := by
  intro place login here
  cases place with
  | zero =>
      rw [if_pos (Nat.succ_pos count)]
      exact (Option.some.inj here).symm
  | succ place => simpa using fails place login here

theorem FailsFirst.succeed {logins : List (Except SessionError Nat)}
    (fails : FailsFirst 0 logins) (id : Nat) : FailsFirst 0 (.ok id :: logins) := by
  intro place login here
  cases place with
  | zero => exact ⟨id, (Option.some.inj here).symm⟩
  | succ place => simpa using fails place login here

/-- What a dealing other than to ask for failures does to the failures that are left, and to a
connect that ends. -/
inductive UsesUp (failing : Nat) : Nat → List (Except SessionError Nat) → Prop where
  | nothing : UsesUp failing failing []
  | fails {left : Nat} (one : failing = left + 1) :
      UsesUp failing left [.error Server.loginError]
  | opens (none : failing = 0) (id : Nat) : UsesUp failing 0 [.ok id]

theorem Deals.usesUp {world : World} {dealing : Dealing} {server : Server}
    {sessions : List Session} {errands : List Errand} {told : Option Answer}
    (deals : Deals world dealing server sessions errands told) (faultless : world.Faultless)
    (other : ∀ count, dealing ≠ .instruct (.failNext count)) :
    UsesUp world.server.failing server.failing (unrefused (lines dealing told)) := by
  cases deals with
  | nothing => exact .nothing
  | connects due =>
      rw [faultless.startConnect_eq]
      exact .nothing
  | @probes id session due held free =>
      obtain ⟨probes, counted⟩ := world.server.startProbe_eq session
      rw [counted]
      exact .nothing
  | executes statement held free =>
      rw [faultless.execute_eq]
      exact .nothing
  | queries statement held free =>
      rw [faultless.query_eq]
      exact .nothing
  | disconnects held free => exact .nothing
  | connected waits work opens =>
      cases faultless.login waits work opens with
      | opened accepting unfailing =>
          change UsesUp _ world.server.failing _
          nth_rewrite 2 [unfailing]
          exact .opens unfailing _
  | failed waits work fails =>
      cases faultless.login waits work fails with
      | refused => exact .nothing
      | failed accepting failing => exact .fails (Nat.succ_pred_eq_of_pos failing).symm
  | probed waits work => exact .nothing
  | obeys order =>
      cases order with
      | failNext count => exact absurd rfl (other count)
      | _ => exact .nothing

theorem unrefused_append (first later : List Line) :
    unrefused (first ++ later) = unrefused first ++ unrefused later := by
  rw [unrefused, List.filterMap_append, List.filter_append]
  rfl

/-- The failures that have been asked for befall the connects that end next and are not refused. -/
theorem Faultless.failsFirst {world : World} (faultless : world.Faultless) {later : List Dealing}
    (unchanged : ∀ count, .instruct (.failNext count) ∉ later) :
    FailsFirst world.server.failing (unrefused (world.log later)) := by
  induction later generalizing world with
  | nil => exact failsFirst_nil _
  | cons dealing later ih =>
      -- What the first dealing uses up is not left to the others.
      have rest := ih (faultless.deal dealing) fun count member =>
        unchanged count (List.mem_cons_of_mem _ member)
      have usesUp := (world.deals dealing).usesUp faultless fun count same =>
        unchanged count (same ▸ List.mem_cons_self)
      rw [log, unrefused_append]
      generalize unrefused (lines dealing (world.told? dealing)) = ends at usesUp ⊢
      generalize (world.deal dealing).server.failing = left at usesUp rest
      cases usesUp with
      | nothing => exact rest
      | fails one =>
          rw [one]
          exact rest.fail
      | opens none id =>
          rw [none]
          exact rest.succeed id

/-! ### The theorem -/

/-- What the server has counted in the course of a history is what the callers have been told. -/
structure Bookkeeping (dealings : List Dealing) : Prop where
  /-- Sessions are named `1`, `2`, `3` and so on, in the order in which their connects end, and each
  of these connects counts. -/
  opened_eq : opened (World.new.log dealings) = List.range' 1 (dealt dealings).server.connects
  /-- Every call counts that disconnects a session. -/
  disconnectCount_eq (id : Nat) :
    (dealt dealings).server.disconnectCount id = (disconnected (World.new.log dealings)).count id
  /-- Nobody disconnects a session that has not been opened. -/
  mem_opened (id : Nat) (counted : 0 < (dealt dealings).server.disconnectCount id) :
    id ∈ opened (World.new.log dealings)
  /-- A session that has been opened is open unless it has been disconnected, however often. -/
  openCount_add : (dealt dealings).server.openCount +
      (opened (World.new.log dealings)).countP (0 < (dealt dealings).server.disconnectCount ·) =
    (dealt dealings).server.connects
  /-- The highest count of disconnects is that of some session, and `0` if there are none. -/
  maxDisconnects : IsGreatest (Set.range (dealt dealings).server.disconnectCount)
    (dealt dealings).server.maxDisconnects
  /-- When the server has been told to fail some logins, these are the ones that end next and are
  not refused, until it is told again. -/
  failNext (count : Nat) {later : List Dealing}
    (unchanged : ∀ other, .instruct (.failNext other) ∉ later) :
    FailsFirst count
      (unrefused ((dealt (dealings ++ [.instruct (.failNext count)])).log later))

/-- The server keeps its books, whatever callers do and whatever it is told. -/
theorem server_keeps_books (dealings : List Dealing) : Bookkeeping dealings := by
  have books := books_dealt dealings
  have names := opened_log dealings
  constructor
  case opened_eq => rw [names, books.connects_eq]
  case disconnectCount_eq =>
    intro id
    rw [disconnected_log, List.count_reverse]
    rfl
  case mem_opened =>
    exact fun id counted => (mem_opened_iff dealings id).mpr (books.opened id counted)
  case openCount_add =>
    rw [names, books.connects_eq]
    exact books.openCount_add
  case maxDisconnects => exact Server.isGreatest_maxDisconnects _
  case failNext =>
    intro count later unchanged
    have fails := (faultless_dealt (dealings ++ [.instruct (.failNext count)])).failsFirst unchanged
    rw [dealt_concat] at fails ⊢
    exact fails

/-- One login is refused and does not use up the failure, the next one fails, and the third opens a
session, which is disconnected twice. -/
example :
    let dealings := [.instruct (.failNext 1), .connect, .connect, .connect,
      .instruct (.refuse true), .answer 2, .instruct (.refuse false), .answer 1, .answer 0,
      .disconnect 1, .disconnect 1]
    let server := (dealt dealings).server
    opened (World.new.log dealings) = [1] ∧ server.connects = 1 ∧ server.openCount = 0 ∧
      server.disconnectCount 1 = 2 ∧ server.maxDisconnects = 2 := by decide

end World

end SessionPool

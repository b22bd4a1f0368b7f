import Mathlib.Data.List.Induction
import SessionPool.Proofs.Custody.Run
import SessionPool.Proofs.Handles.Uses

/-!
# What the statements of a lease tell

A connection works when it is lent. From then on the pool learns of its state only by the
statements that are sent through the handle of the lease. So in every run, a connection that is lent
may be lent again exactly if none of the statements through its handle has lost it.
-/

namespace SessionPool

open Pool (Agent Phase Task Checkout Patience Job Balanced Sound)

/-- If there is a lease with this ticket after a turn, the turn has ended with it. -/
def Turn.Issues (turn : Turn) (ticket : Nat) : Prop :=
  ∀ lease, turn.1.pool.lease? ticket = some lease → turn.2 = some (.ok (.lent lease))

namespace Site

variable {site : Site}

/-- A turn that has left a ticket without a lease has issued none. -/
theorem issues_of_lease?_eq {turn : Turn} {ticket : Nat}
    (same : turn.1.pool.lease? ticket = site.pool.lease? ticket)
    (fresh : site.pool.lease? ticket = none) : turn.Issues ticket := by
  intro lease good
  rw [same, fresh] at good
  cases good

theorem lend_issues (checkout : Checkout) (connection : Connection) :
    (site.lend checkout connection).Issues checkout.caller := by
  intro lease good
  have first : (site.lend checkout connection).1.pool.lease? checkout.caller =
      some ⟨checkout.caller, connection.checkOut site.now⟩ :=
    List.find?_cons_of_pos (beq_self_eq_true checkout.caller)
  rw [first] at good
  rw [← Option.some.inj good]
  rfl

section Checkout

variable {checkout : Checkout} (fresh : site.pool.lease? checkout.caller = none)

include fresh

theorem seek_issues : (site.seek checkout).Issues checkout.caller := by
  rw [seek]
  dsimp only
  split
  · exact issues_of_lease?_eq rfl fresh
  · split
    · split
      · exact issues_of_lease?_eq rfl fresh
      · exact lend_issues checkout _
    · split
      · exact issues_of_lease?_eq rfl fresh
      · split
        · exact issues_of_lease?_eq rfl fresh
        · split <;> exact issues_of_lease?_eq rfl fresh
        · exact issues_of_lease?_eq rfl fresh

theorem borrowProbed_issues (connection : Connection) :
    (site.borrowProbed checkout connection).Issues checkout.caller := by
  rw [borrowProbed]
  dsimp only
  split
  · exact lend_issues checkout _
  · split
    · exact issues_of_lease?_eq rfl fresh
    · apply seek_issues
      exact fresh

theorem checkoutConnected_issues (metadata : Metadata) (attempt : Attempt) :
    (site.checkoutConnected checkout metadata attempt).Issues checkout.caller := by
  rw [checkoutConnected, connected]
  rcases site.server.finishConnect attempt with ⟨server, error | session⟩
  · exact issues_of_lease?_eq rfl fresh
  · dsimp only
    split
    · exact issues_of_lease?_eq rfl fresh
    · exact lend_issues checkout _

end Checkout

theorem checkout_issues {caller : Nat} (fresh : site.pool.lease? caller = none)
    (patience : Patience) : (site.checkout caller patience).Issues caller := by
  rw [checkout]
  split
  · exact issues_of_lease?_eq rfl fresh
  · let checkout : Checkout := ⟨caller, site.now, patience⟩
    change (seek _ checkout).Issues checkout.caller
    apply seek_issues
    exact fresh

/-- A call gives out no lease but that of its caller. -/
theorem work_issues {caller ticket : Nat} (fresh : site.pool.lease? ticket = none) (job : Job) :
    (job.work caller site).Issues ticket := by
  by_cases through : job.ticket? = some ticket
  · rw [Job.work_eq_answer through fresh]
    exact issues_of_lease?_eq rfl fresh
  · by_cases own : job.isCheckout = true ∧ caller = ticket
    · obtain ⟨asks, rfl⟩ := own
      cases job with
      | acquire timeout => exact checkout_issues fresh _
      | get => exact checkout_issues fresh _
      | tryGet => exact checkout_issues fresh _
      | _ => cases asks
    · apply issues_of_lease?_eq _ fresh
      exact lease?_work (fun asks same => own ⟨asks, same⟩) through

theorem resume_issues {ticket : Nat} (fresh : site.pool.lease? ticket = none) (agent : Agent) :
    (site.resume agent).Issues ticket := by
  by_cases own : ∃ task checkout, site.pool.task? agent = some task ∧
      task.checkout? = some checkout ∧ checkout.caller = ticket
  · obtain ⟨task, checkout, found, inside, rfl⟩ := own
    rw [resume, found]
    dsimp only
    split
    · obtain ⟨worker, phase, due⟩ := task
      cases phase with
      | connecting _ metadata attempt =>
          cases inside
          apply checkoutConnected_issues
          exact fresh
      | borrowProbe _ connection =>
          cases inside
          apply borrowProbed_issues
          exact fresh
      | waiting _ notified =>
          cases inside
          apply seek_issues
          exact fresh
      | _ => cases inside
    · exact issues_of_lease?_eq rfl fresh
  · apply issues_of_lease?_eq _ fresh
    apply lease?_resume
    intro task found checkout inside same
    exact own ⟨task, checkout, found, inside, same⟩

end Site

namespace World

variable {world : World} {handle : Handle}

/-- A lease that was not there before a move is what the move gives out. -/
theorem lent_of_lease? {pool after : Pool} {move : Move} {event : Option Event} {index ticket : Nat}
    (happens : world.Happens index pool move after event) (fresh : pool.lease? ticket = none)
    {lease : Lease} (good : after.lease? ticket = some lease) :
    ∃ agent, event = some ⟨.inPool index agent, ofPool (.ok (.lent lease))⟩ := by
  have freshHere : (world.site pool).pool.lease? ticket = none := fresh
  have same {other : Pool} (unchanged : other.lease? ticket = pool.lease? ticket) :
      other.lease? ticket ≠ some lease := by
    rw [unchanged, fresh]
    exact nofun
  cases happens with
  | nothing elsewhere => exact absurd good (same rfl)
  | @calls request job accepted asks =>
      refine ⟨.caller world.callers, ?_⟩
      rw [ending, turn, Site.work_issues freshHere job lease good]
      rfl
  | resumes agent =>
      refine ⟨agent, ?_⟩
      rw [ending, Site.resume_issues freshHere agent lease good]
      rfl
  | puts given session closes elsewhere =>
      by_cases here : given = ticket
      · subst here
        rw [Pool.putSession, fresh] at good
        exact absurd good (same rfl)
      · refine absurd good (same ?_)
        rw [Pool.putSession]
        split
        · exact Pool.lease?_updateLease_of_ne here _
        · rfl
  | reorders tasks =>
      refine absurd good (same ?_)
      rw [Pool.reorder]
      split <;> rfl
  | stirs => exact absurd good (same rfl)

/-- Nothing is sent through a handle that is worth nothing. -/
theorem Move.result?_of_lease?_eq_none (worthless : world.lease? handle = none) (move : Move) :
    move.result? world handle = none := by
  by_cases sends : move.sends? = some handle
  case neg => exact Move.result?_of_sends_ne sends
  case pos =>
    rw [Move.result?_of_sends sends]
    cases move with
    | act action =>
        cases action with
        | call request =>
            change (world.call request).2.bind Event.result? = none
            by_cases accepted : world.accepts request = true
            · obtain ⟨job, asks, through, rejected⟩ := Request.job?_of_sends sends
              have inside : handle.pool < world.pools.length := by
                have free := accepted
                rw [Request.accepts_of_sends sends, isFree, session?, worthless] at free
                exact of_decide_eq_true free
              have found := List.getElem?_eq_getElem inside
              rw [lease?_eq found] at worthless
              rw [call_eq_turn accepted asks found, turn,
                Job.work_eq_answer through worthless, rejected]
              rfl
            · have refused : world.call request = (world, none) := if_neg accepted
              rw [refused]
              rfl
        | _ => cases sends
    | _ => cases sends

theorem results_concat (before : World) (moves : List Move) (last : Move) :
    results handle before (moves ++ [last]) =
      results handle before moves ++ (last.result? (before.after moves) handle).toList := by
  induction moves generalizing before with
  | nil => simp [results, after]
  | cons move later ih =>
      rw [List.cons_append, results, ih, results, List.append_assoc]
      rfl

/-- A pool that has just been made has lent nothing. -/
theorem lease?_move_of_unmade (unmade : world.pools[handle.pool]? = none) (move : Move) :
    (world.move move).lease? handle = none := by
  have beyond : world.pools.length ≤ handle.pool := List.getElem?_eq_none_iff.mp unmade
  have affects := affects_move world move
  generalize (world.move move).callers = callers at affects
  rw [lease?]
  generalize (world.move move).pools = pools at affects
  have none (same : pools.length = world.pools.length) :
      pools[handle.pool]?.bind (·.lease? handle.ticket) = none := by
    rw [List.getElem?_eq_none (by omega)]
    rfl
  cases affects with
  | opens config valid =>
      rw [List.getElem?_append_right beyond]
      cases place : handle.pool - world.pools.length with
      | zero =>
          change Pool.lease? _ handle.ticket = Option.none
          rw [Site.lease?_congr (Site.leases_prewarm _ _)]
          rfl
      | succ later => rfl
  | nothing later => exact none rfl
  | calls index job fits => exact none (List.length_modify _ _ _)
  | resumes index agent => exact none (List.length_modify _ _ _)
  | puts given session => exact none (List.length_modify _ _ _)
  | reorders index tasks => exact none (List.length_modify _ _ _)
  | stirs index => exact none (List.length_modify _ _ _)

/-- What is lent with a move works. -/
theorem lease?_move_of_fresh (possible : Possible world) (fresh : world.lease? handle = none)
    {move : Move} {lease : Lease} (good : (world.move move).lease? handle = some lease) :
    lease.connection.isReusable = true := by
  cases found : world.pools[handle.pool]? with
  | none =>
      rw [lease?_move_of_unmade found] at good
      cases good
  | some pool =>
      obtain ⟨after, foundAfter, happens⟩ := becomes_move found move
      rw [lease?_eq found] at fresh
      rw [lease?_eq foundAfter] at good
      obtain ⟨agent, lent⟩ := lent_of_lease? happens fresh good
      have kept := possible.sane
      have allows : sane.Allows world move :=
        kept.allows (lawful_sane _) (fun _ => rfl) (fun _ => opening_sane) fun _ _ _ _ _ _ _ => rfl
      exact kept.gives (lawful_sane _) opening_sane allows found lent

/-- The statements that have been sent through the handle of a good lease in the course of a run
tell whether its connection works. -/
theorem isReusable_eq_of_results {moves : List Move} {lease : Lease}
    (good : (World.new.after moves).lease? handle = some lease) :
    lease.connection.isReusable = !(results handle World.new moves).any loses := by
  -- Nothing is sent before the lease begins, and nothing begins after it has ended.
  have phases (moves : List Move) :
      ((World.new.after moves).lease? handle = none ∧ results handle World.new moves = []) ∨
        (∃ lease, (World.new.after moves).lease? handle = some lease ∧
          lease.connection.isReusable = !(results handle World.new moves).any loses) ∨
        (World.new.after moves).IsStale handle := by
    induction moves using List.reverseRecOn with
    | nil => exact .inl ⟨rfl, rfl⟩
    | append_singleton moves last ih =>
        have possible := Possible.new.after moves
        rw [after_concat, results_concat]
        rcases ih with ⟨fresh, none⟩ | ⟨held, good, works⟩ | stale
        · rw [Move.result?_of_lease?_eq_none fresh, none]
          cases given : ((World.new.after moves).move last).lease? handle with
          | none => exact .inl ⟨rfl, rfl⟩
          | some lease =>
              exact .inr (.inl ⟨lease, rfl, lease?_move_of_fresh possible fresh given⟩)
        · cases ends : last.ends (World.new.after moves) handle with
          | true => exact .inr (.inr (isStale_of_ends possible good ends))
          | false =>
              obtain ⟨connection, still, uses⟩ := lease?_move possible good ends
              refine .inr (.inl ⟨_, still, ?_⟩)
              rw [uses.isReusable_eq, works, List.any_append, Bool.not_or]
              cases last.result? (World.new.after moves) handle <;> simp
        · exact .inr (.inr (stale.move last))
  rcases phases moves with ⟨fresh, _⟩ | ⟨held, here, works⟩ | stale
  · rw [fresh] at good
    cases good
  · rw [here] at good
    rw [← Option.some.inj good]
    exact works
  · rw [stale.lease?_eq] at good
    cases good

end World

end SessionPool

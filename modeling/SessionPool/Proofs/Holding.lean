import Mathlib.Algebra.BigOperators.Group.List.Basic
import Mathlib.Algebra.GroupWithZero.Nat
import SessionPool.Pool.Resume

/-!
# What agents hold

An agent that works or waits holds a share of what its pool keeps count of: connections that are
lent, a reserved slot, its place inside a checkout, the connections of a sweep, a look at the pool
that is still to come. Holdings can be added, and the sum over all agents is what the pool's own
counts have to agree with. How often a number occurs in a list is kept as a function, so that the
sum does not depend on the order of the agents.
-/

namespace SessionPool

/-- The entry that a search finds is the one that goes when it is erased. -/
theorem perm_cons_eraseP {α : Type} {test : α → Bool} {entries : List α} {entry : α}
    (found : entries.find? test = some entry) :
    entries.Perm (entry :: entries.eraseP test) := by
  obtain ⟨passes, before, after, rfl, earlier⟩ := List.find?_eq_some_iff_append.mp found
  have untouched : ∀ other ∈ before, ¬ test other = true := by
    intro other member
    simpa using earlier other member
  rw [List.eraseP_append_right _ untouched, List.eraseP_cons_of_pos passes]
  exact List.perm_middle

/-- An entry that is erased occurs once less. -/
theorem count_erase_add_singleton {number : Nat} {numbers : List Nat} (member : number ∈ numbers)
    (other : Nat) : (numbers.erase number).count other + [number].count other =
      numbers.count other := by
  rw [(List.perm_cons_erase member).count_eq other]
  simp [List.count_cons]

namespace Pool

/-- A share of what a pool keeps count of. -/
@[ext]
structure Holding where
  /-- How often a number belongs to a connection that is being probed for a caller or on its way
  back. -/
  lent : Nat → Nat
  /-- Slots reserved for connections that are being made. -/
  slots : Nat
  /-- Checkouts that have begun and not ended. -/
  checkouts : Nat
  /-- Connections that a sweep has taken out of the idle queue. -/
  drained : Nat
  /-- Looks at the pool that callers have been told to take, and have not taken yet. -/
  looks : Nat
  /-- Callers that wait to be told. -/
  asleep : Nat
  /-- Connections that are being probed on their way back. -/
  returning : Nat
  /-- Shutdowns that have still to dispose of what is idle. -/
  closings : Nat
  /-- How often an agent is at work. -/
  agents : Agent → Nat

namespace Holding

instance : Zero Holding := ⟨⟨fun _ => 0, 0, 0, 0, 0, 0, 0, 0, fun _ => 0⟩⟩

instance : Add Holding where
  add first second :=
    { lent := fun id => first.lent id + second.lent id
      slots := first.slots + second.slots
      checkouts := first.checkouts + second.checkouts
      drained := first.drained + second.drained
      looks := first.looks + second.looks
      asleep := first.asleep + second.asleep
      returning := first.returning + second.returning
      closings := first.closings + second.closings
      agents := fun agent => first.agents agent + second.agents agent }

@[simp] theorem lent_zero (id : Nat) : (0 : Holding).lent id = 0 := rfl
@[simp] theorem slots_zero : (0 : Holding).slots = 0 := rfl
@[simp] theorem checkouts_zero : (0 : Holding).checkouts = 0 := rfl
@[simp] theorem drained_zero : (0 : Holding).drained = 0 := rfl
@[simp] theorem looks_zero : (0 : Holding).looks = 0 := rfl
@[simp] theorem asleep_zero : (0 : Holding).asleep = 0 := rfl
@[simp] theorem returning_zero : (0 : Holding).returning = 0 := rfl
@[simp] theorem closings_zero : (0 : Holding).closings = 0 := rfl
@[simp] theorem agents_zero (agent : Agent) : (0 : Holding).agents agent = 0 := rfl

section Add

variable (first second : Holding)

@[simp] theorem lent_add (id : Nat) : (first + second).lent id = first.lent id + second.lent id :=
  rfl

@[simp] theorem slots_add : (first + second).slots = first.slots + second.slots := rfl

@[simp] theorem checkouts_add : (first + second).checkouts = first.checkouts + second.checkouts :=
  rfl

@[simp] theorem drained_add : (first + second).drained = first.drained + second.drained := rfl

@[simp] theorem looks_add : (first + second).looks = first.looks + second.looks := rfl

@[simp] theorem asleep_add : (first + second).asleep = first.asleep + second.asleep := rfl

@[simp] theorem returning_add : (first + second).returning = first.returning + second.returning :=
  rfl

@[simp] theorem closings_add : (first + second).closings = first.closings + second.closings := rfl

@[simp] theorem agents_add (agent : Agent) :
    (first + second).agents agent = first.agents agent + second.agents agent :=
  rfl

end Add

/-- Holdings are added field by field. -/
instance : AddCommMonoid Holding where
  add_assoc first second third := by ext <;> simp [Nat.add_assoc]
  zero_add holding := by ext <;> simp
  add_zero holding := by ext <;> simp
  add_comm first second := by ext <;> simp [Nat.add_comm]
  nsmul := nsmulRec

end Holding

/-- Looks at the pool that somebody is to be told to take. -/
@[simp]
def Holding.look (count : Nat) : Holding := { (0 : Holding) with looks := count }

/-! ### What a task holds -/

/-- What a phase holds, apart from its agent. -/
@[simp]
def Phase.holding : Phase → Holding
  | .prewarming _ _ _ => 0
  | .connecting _ _ _ => { (0 : Holding) with slots := 1, checkouts := 1 }
  | .borrowProbe _ connection =>
      { (0 : Holding) with lent := fun id => [connection.id].count id, checkouts := 1 }
  | .waiting _ notified =>
      { (0 : Holding) with
        checkouts := 1
        looks := if notified then 1 else 0
        asleep := if notified then 0 else 1 }
  | .returnProbe connection =>
      { (0 : Holding) with lent := fun id => [connection.id].count id, returning := 1 }
  | .sweeping sweep _ _ => { (0 : Holding) with drained := sweep.checked }
  | .resting => 0
  | .joining _ => { (0 : Holding) with closings := 1 }

/-- What is held by an agent of which nothing else is known. -/
@[simp]
def Agent.holding (agent : Agent) : Holding :=
  { (0 : Holding) with agents := fun other => [agent].count other }

namespace Task

/-- What a task holds: its phase and its agent. -/
@[simp]
def holding (task : Task) : Holding := task.phase.holding + task.agent.holding

/-- What several tasks hold together. -/
def holdings (tasks : List Task) : Holding := (tasks.map holding).sum

@[simp]
theorem holdings_nil : holdings [] = 0 :=
  rfl

@[simp]
theorem holdings_cons (task : Task) (tasks : List Task) :
    holdings (task :: tasks) = task.holding + holdings tasks := by
  simp [holdings]

@[simp]
theorem holdings_append (first second : List Task) :
    holdings (first ++ second) = holdings first + holdings second := by
  simp [holdings]

/-- The order of the tasks does not matter. -/
theorem holdings_perm {first second : List Task} (perm : first.Perm second) :
    holdings first = holdings second :=
  (perm.map holding).sum_eq

/-- If each task holds at most one of something, all of them hold as many as there are tasks that
hold one. -/
theorem countP_holdings (amount : Holding → Nat) {holds : Task → Bool} (none : amount 0 = 0)
    (add : ∀ first second, amount (first + second) = amount first + amount second)
    (each : ∀ task : Task, amount task.holding = (holds task).toNat) (tasks : List Task) :
    amount (holdings tasks) = tasks.countP holds := by
  induction tasks with
  | nil => exact none
  | cons task rest ih =>
      rw [holdings_cons, add, each, ih, List.countP_cons, Nat.add_comm]
      cases holds task <;> rfl

/-- Telling the first sleeper turns its sleep into a look to come. -/
theorem holdings_notifyFirst (tasks : List Task) :
    holdings (notifyFirst tasks) =
      { holdings tasks with
        looks := (holdings tasks).looks + min 1 (holdings tasks).asleep
        asleep := (holdings tasks).asleep - 1 } := by
  induction tasks with
  | nil => rfl
  | cons task rest ih =>
      unfold notifyFirst
      obtain ⟨agent, phase, due⟩ := task
      cases phase with
      | waiting checkout notified =>
          cases notified with
          | false =>
              ext <;> simp [isAsleep, notify]
              omega
          | true =>
              ext <;> simp [isAsleep, ih]
              omega
      | _ => ext <;> simp [isAsleep, ih]

/-- Telling all of them leaves nobody asleep. -/
theorem holdings_map_notify (tasks : List Task) :
    holdings (tasks.map notify) =
      { holdings tasks with
        looks := (holdings tasks).looks + (holdings tasks).asleep
        asleep := 0 } := by
  induction tasks with
  | nil => rfl
  | cons task rest ih =>
      obtain ⟨agent, phase, due⟩ := task
      cases phase with
      | waiting checkout notified =>
          cases notified <;> ext <;> simp [notify, ih] <;> omega
      | _ => ext <;> simp [notify, ih]

/-- What a task holds goes from the list to the agent when the agent goes on. -/
theorem holdings_unpark {pool : Pool} {agent : Agent} {task : Task}
    (found : pool.task? agent = some task) :
    holdings pool.tasks = holdings (pool.unpark agent).tasks + task.holding := by
  rw [holdings_perm (perm_cons_eraseP found), holdings_cons, add_comm]
  rfl

end Task

end Pool

end SessionPool

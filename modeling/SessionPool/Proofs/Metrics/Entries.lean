import SessionPool.Proofs.Metrics.Turns

/-!
# What there is to note

A call on a pool that is over is noted with the job and the answer. Each counter of the pool goes up
with a turn just when what is noted about the turn is of the kind that it counts.
-/

namespace SessionPool

open Pool (Job Probes)

/-- The probes of two sweeps together. -/
def Pool.Probes.add (first second : Probes) : Probes :=
  ⟨first.made + second.made, first.failed + second.failed⟩

/-- A call on a pool that is over, or a sweep of its checker. -/
structure Entry where
  job? : Option Job
  answer : Pool.Answer

namespace Entry

/-- What there is to note about a job after a turn. -/
def ofAnswer (job? : Option Job) (answer : Option Pool.Answer) : List Entry :=
  (answer.map fun answer => ⟨job?, answer⟩).toList

/-- A caller asked for a connection. -/
def isCheckout (entry : Entry) : Bool := Job.checksOut entry.job?

/-- A caller has got a connection. -/
def isLent (entry : Entry) : Bool :=
  match entry.answer with
  | .ok (.lent _) => true
  | _ => false

/-- A caller that asked for a connection has got an error. -/
def isRefused (entry : Entry) : Bool :=
  match entry.answer with
  | .error _ => entry.isCheckout
  | _ => false

/-- A caller that did not want to wait has got nothing. -/
def isDeclined (entry : Entry) : Bool :=
  match entry.job?, entry.answer with
  | some .tryGet, .ok .noneFree => true
  | _, _ => false

/-- A caller that wanted to wait has waited for too long. -/
def isTimeout (entry : Entry) : Bool :=
  match entry.job?, entry.answer with
  | some (.acquire _), .error (.timedOut _) | some .get, .error (.timedOut _) => true
  | _, _ => false

/-- The pool has taken a session that it was given. -/
def isAdopted (entry : Entry) : Bool :=
  match entry.job?, entry.answer with
  | some (.adopt _), .ok .done => true
  | _, _ => false

/-- The owner of a lease has kept its session. -/
def isDetached (entry : Entry) : Bool :=
  match entry.job?, entry.answer with
  | some (.detach _), .ok (.detached _) => true
  | _, _ => false

/-- A sweep is over. -/
def isSwept (entry : Entry) : Bool :=
  match entry.answer with
  | .ok (.swept _) => true
  | _ => false

/-- The answer is one that the job can have. -/
def Fits (entry : Entry) : Prop := entry.answer.Fits entry.job?

/-- A checkout that is over has ended in one of three ways. -/
theorem countP_isCheckout_singleton {entry : Entry} (fits : entry.Fits) :
    [entry].countP isCheckout =
      [entry].countP isLent + [entry].countP isRefused + [entry].countP isDeclined := by
  obtain ⟨job?, error | reply⟩ := entry
  · rcases job? with _ | job
    · rfl
    · cases job <;> rfl
  · cases reply with
    | opened =>
        obtain rfl : job? = none := fits
        rfl
    | noneFree =>
        obtain rfl : job? = some .tryGet := fits
        rfl
    | swept report =>
        obtain rfl : job? = some .sweep := fits
        rfl
    | detached session =>
        obtain ⟨ticket, rfl⟩ : ∃ ticket, job? = some (.detach ticket) := fits
        rfl
    | lent lease =>
        have asks : Job.checksOut job? = true := fits
        rcases job? with _ | job
        · contradiction
        · cases job <;> first | rfl | contradiction
    | done | rows count | texts texts =>
        have other : Job.checksOut job? = false := fits
        rcases job? with _ | job
        · rfl
        · cases job <;> first | rfl | contradiction

theorem countP_isCheckout {entries : List Entry} (fits : ∀ entry ∈ entries, entry.Fits) :
    entries.countP isCheckout =
      entries.countP isLent + entries.countP isRefused + entries.countP isDeclined := by
  induction entries with
  | nil => rfl
  | cons entry rest ih =>
      obtain ⟨first, later⟩ := List.forall_mem_cons.mp fits
      have here := countP_isCheckout_singleton first
      have there := ih later
      rw [← List.singleton_append]
      simp only [List.countP_append]
      omega

/-! ### What a turn counts -/

section Counters

variable (counters : Pool.Counters) (job? : Option Job) (answer : Option Pool.Answer)

theorem checkoutsSuccessful_ended :
    (counters.ended (Job.kind job?) answer).checkoutsSuccessful =
      (ofAnswer job? answer).countP isLent + counters.checkoutsSuccessful := by
  rcases answer with _ | (error | reply)
  · exact (Nat.zero_add _).symm
  · rw [Pool.Counters.ended]
    split <;> exact (Nat.zero_add _).symm
  · cases reply with
    | lent lease => exact Nat.add_comm _ _
    | _ => exact (Nat.zero_add _).symm

theorem checkoutsFailed_ended :
    (counters.ended (Job.kind job?) answer).checkoutsFailed =
      (ofAnswer job? answer).countP isRefused + counters.checkoutsFailed := by
  rcases answer with _ | (error | reply)
  · exact (Nat.zero_add _).symm
  · rcases job? with _ | job
    · exact (Nat.zero_add _).symm
    · cases job with
      | acquire _ | get | tryGet => exact Nat.add_comm _ _
      | _ => exact (Nat.zero_add _).symm
  · cases reply with
    | _ => exact (Nat.zero_add _).symm

/-- The report of a sweep counts the probes that it has made. -/
theorem swept_ended {probes swept : Probes}
    (told : ∀ given, answer = some given → given.Probes probes)
    (performed : counters.healthChecksPerformed = swept.made)
    (dead : counters.healthChecksFailed = swept.failed) :
    let next := if (ofAnswer job? answer).any isSwept then swept.add probes else swept
    (counters.ended (Job.kind job?) answer).healthChecksPerformed = next.made ∧
      (counters.ended (Job.kind job?) answer).healthChecksFailed = next.failed := by
  rcases answer with _ | (error | reply)
  · exact ⟨performed, dead⟩
  · rw [Pool.Counters.ended]
    by_cases asks : Job.kind job? = .checkout
    · rw [if_pos asks]
      exact ⟨performed, dead⟩
    · rw [if_neg asks]
      exact ⟨performed, dead⟩
  · cases reply with
    | swept report =>
        have probed : report.probes = probes := told _ rfl
        constructor
        · exact congrArg₂ (· + ·) performed (congrArg Probes.made probed)
        · exact congrArg₂ (· + ·) dead (congrArg Probes.failed probed)
    | _ => exact ⟨performed, dead⟩

variable {job? answer} (fits : ∀ entry ∈ ofAnswer job? answer, entry.Fits)

include fits

theorem timeouts_ended :
    (counters.ended (Job.kind job?) answer).timeouts =
      (ofAnswer job? answer).countP isTimeout + counters.timeouts := by
  rcases answer with _ | (error | reply)
  · exact (Nat.zero_add _).symm
  · have fitsHere : Entry.Fits ⟨job?, .error error⟩ := fits _ (List.mem_singleton_self _)
    cases error with
    | timedOut waited =>
        obtain ⟨asks, patient⟩ :
          Job.checksOut job? = true ∧ job? ≠ some .tryGet := fitsHere
        rcases job? with _ | job
        · contradiction
        · cases job with
          | acquire _ | get => exact Nat.add_comm _ _
          | tryGet => exact absurd rfl patient
          | _ => contradiction
    | _ =>
        rcases job? with _ | job
        · exact (Nat.zero_add _).symm
        · cases job <;> exact (Nat.zero_add _).symm
  · rcases job? with _ | job
    · cases reply <;> exact (Nat.zero_add _).symm
    · cases job <;> cases reply <;> exact (Nat.zero_add _).symm

/-- What a call brings to a pool uncounted. -/
theorem brings_eq : Pool.Answer.brings (Job.kind job?) answer =
    (ofAnswer job? answer).countP isAdopted - (ofAnswer job? answer).countP isDetached := by
  rcases answer with _ | (error | reply)
  · rfl
  · rcases job? with _ | job
    · rfl
    · cases job <;> rfl
  · have fitsHere : Entry.Fits ⟨job?, .ok reply⟩ := fits _ (List.mem_singleton_self _)
    cases reply with
    | detached session =>
        obtain ⟨ticket, rfl⟩ : ∃ ticket, job? = some (.detach ticket) := fitsHere
        rfl
    | _ =>
        rcases job? with _ | job
        · rfl
        · cases job <;> rfl

end Counters

end Entry

end SessionPool

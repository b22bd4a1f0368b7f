import SessionPool.World.Schedule

/-!
# Runs

A run is a list of steps, one after the other. Whatever a schedule does is a run, so a property of
worlds that every step keeps is kept by every call that is carried out to its end and by every
passage of time.
-/

namespace SessionPool.World

namespace Trace

/-- Several more steps. -/
def follow (trace : Trace) (actions : List Action) : Trace := actions.foldl act trace

@[simp]
theorem follow_nil (trace : Trace) : trace.follow [] = trace :=
  rfl

@[simp]
theorem follow_cons (trace : Trace) (action : Action) (later : List Action) :
    trace.follow (action :: later) = (trace.act action).follow later :=
  rfl

theorem follow_append (trace : Trace) (first later : List Action) :
    trace.follow (first ++ later) = (trace.follow first).follow later :=
  List.foldl_append

/-- One trace continues another if some steps lead from it to the other. -/
def Continues (target source : Trace) : Prop := ∃ actions, target = source.follow actions

namespace Continues

theorem refl (trace : Trace) : Continues trace trace := ⟨[], rfl⟩

theorem trans {first second third : Trace} (later : Continues third second)
    (earlier : Continues second first) : Continues third first := by
  obtain ⟨laterActions, rfl⟩ := later
  obtain ⟨earlierActions, rfl⟩ := earlier
  exact ⟨earlierActions ++ laterActions, (follow_append _ _ _).symm⟩

theorem act (trace : Trace) (action : Action) : Continues (trace.act action) trace :=
  ⟨[action], rfl⟩

end Continues

/-! ### Schedules are runs -/

theorem drive_continues (thread : Thread) (fuel : Nat) (trace : Trace) :
    Continues (drive thread fuel trace) trace := by
  induction fuel generalizing trace with
  | zero => exact .refl trace
  | succ fuel ih =>
      unfold drive
      split
      · exact (ih _).trans (.act trace _)
      · exact .refl trace

theorem settleWithin_continues (fuel : Nat) (trace : Trace) :
    Continues (settleWithin fuel trace) trace := by
  induction fuel generalizing trace with
  | zero => exact .refl trace
  | succ fuel ih =>
      unfold settleWithin
      split
      · exact (ih _).trans (drive_continues _ _ trace)
      · exact .refl trace

theorem advanceWithin_continues (target fuel : Nat) (trace : Trace) :
    Continues (advanceWithin target fuel trace) trace := by
  induction fuel generalizing trace with
  | zero => exact .refl trace
  | succ fuel ih =>
      unfold advanceWithin
      split
      · split
        · exact (ih _).trans ((settleWithin_continues _ _).trans
            ((drive_continues _ _ _).trans (.act trace _)))
        · exact .refl trace
      · exact .refl trace

end Trace

/-- A call that is carried out to its end is a run. -/
theorem perform_continues (world : World) (request : Request) :
    Trace.Continues (world.perform request) ⟨world, []⟩ :=
  (Trace.settleWithin_continues _ _).trans
    ((Trace.drive_continues _ _ _).trans (.act _ _))

/-- The passage of time is a run. -/
theorem advance_continues (world : World) (duration : Nat) :
    Trace.Continues (world.advance duration) ⟨world, []⟩ := by
  unfold advance
  exact (Trace.Continues.act _ _).trans (Trace.advanceWithin_continues _ _ _)

/-! ### Reachable worlds -/

/-- The worlds that a run can lead to from a new one. -/
inductive Reachable : World → Prop where
  | new : Reachable World.new
  | step {world : World} (before : Reachable world) (action : Action) :
      Reachable (world.step action).1

/-- A run leads from a reachable world to a reachable one. -/
theorem Reachable.follow {trace : Trace} (before : Reachable trace.world)
    (actions : List Action) : Reachable (trace.follow actions).world := by
  induction actions generalizing trace with
  | nil => exact before
  | cons action later ih => exact ih (before.step action)

/-- Every call that is carried out to its end leads to a reachable world. -/
theorem Reachable.perform {world : World} (before : Reachable world) (request : Request) :
    Reachable (world.perform request).world := by
  obtain ⟨actions, run⟩ := perform_continues world request
  rw [run]
  exact Reachable.follow before actions

/-- The passage of time leads to a reachable world. -/
theorem Reachable.advance {world : World} (before : Reachable world) (duration : Nat) :
    Reachable (world.advance duration).world := by
  obtain ⟨actions, run⟩ := advance_continues world duration
  rw [run]
  exact Reachable.follow before actions

end SessionPool.World

import SessionPool.Proofs.Disposal.Undisturbed
import SessionPool.Proofs.Handles.Uses

/-!
# Whoever probes a session holds it

A session can be probed past its pool by whoever holds it, through a lease or outside of all pools.
Until the answer comes the owner does nothing else with it. So a session that is being probed like
this stays where it is, and is neither idle nor with an agent of a pool.
-/

namespace SessionPool.World

variable {world : World} {id : Nat}

/-! ### Sessions outside of the pools -/

section Outside

variable (owned : id ∈ world.outsideIds)

include owned

theorem mem_outsideIds_keepDetached (answer : Option Pool.Answer) :
    id ∈ (world.keepDetached answer).outsideIds := by
  unfold keepDetached
  split
  · exact List.mem_cons_of_mem _ owned
  · exact owned

theorem mem_outsideIds_callPool (index : Nat) (work : Site → Turn) :
    id ∈ (world.callPool index work).1.outsideIds := by
  have inside : id ∈ (world.inPool index work).1.outsideIds := by
    unfold inPool
    split <;> exact owned
  exact mem_outsideIds_keepDetached inside _

theorem mem_outsideIds_openPool (config : Config) (caller : Nat) :
    id ∈ (world.openPool config caller).1.outsideIds := by
  unfold openPool
  split
  · exact owned
  · apply mem_outsideIds_callPool
    exact owned

/-- A session stays outside when another one is given to a pool. -/
theorem mem_outsideIds_adopt {given : Nat} (other : given ≠ id) (index : Nat) :
    id ∈ (world.adopt index given).1.outsideIds := by
  unfold World.adopt
  split
  · exact owned
  · apply mem_outsideIds_callPool
    obtain ⟨session, member, rfl⟩ := List.mem_map.mp owned
    apply List.mem_map_of_mem
    exact (List.mem_eraseP_of_neg (by simpa using other.symm)).mpr member

/-- A session that is only used stays outside. -/
theorem mem_outsideIds_withSession {holder : Holder} {use : Session → World × Option Answer}
    (keeps : ∀ session, world.session? holder = some session →
      id ∈ (use session).1.outsideIds) : id ∈ (world.withSession holder use).1.outsideIds := by
  unfold withSession
  split
  case h_1 session held => exact keeps session held
  case h_2 => exact owned

theorem mem_outsideIds_disconnect (holder : Holder) :
    id ∈ (world.disconnect holder).1.outsideIds := by
  apply mem_outsideIds_withSession owned
  intro session held
  cases holder with
  | lease handle => exact owned
  | outside name =>
      have same : session.id = name := by simpa using List.find?_some held
      have ids : (world.outside.map fun old => if old.id == name then session.closed else old).map
          (·.id) = world.outsideIds := by
        rw [outsideIds, List.map_map]
        apply List.map_congr_left
        intro old _
        by_cases here : old.id = name
        · simp [here, same, Session.closed]
        · simp [here]
      change id ∈ List.map _ (List.map _ _)
      rw [ids]
      exact owned

theorem mem_outsideIds_finishErrand (work : Errand.Work) :
    id ∈ (world.finishErrand work).1.outsideIds := by
  unfold finishErrand
  split
  · split
    · exact List.mem_cons_of_mem _ owned
    · exact owned
  · exact owned

theorem mem_outsideIds_resume (thread : Thread) :
    id ∈ (world.resume thread).1.outsideIds := by
  cases thread with
  | inPool index agent => exact mem_outsideIds_callPool owned index (·.resume agent)
  | errand caller =>
      change id ∈ (world.resumeErrand caller).1.outsideIds
      unfold resumeErrand
      split
      · split
        · apply mem_outsideIds_finishErrand
          exact owned
        · exact owned
      · exact owned

/-- A session leaves the outside only when it is given to a pool. -/
theorem mem_outsideIds_begin {request : Request} (other : ∀ index, request ≠ .adopt index id)
    (caller : Nat) : id ∈ (world.begin caller request).1.outsideIds := by
  cases request with
  | openPool config => exact mem_outsideIds_openPool owned config caller
  | adopt index given =>
      apply mem_outsideIds_adopt owned
      rintro rfl
      exact other index rfl
  | connect => exact owned
  | probe holder => exact mem_outsideIds_withSession owned fun _ _ => owned
  | executeDirectly holder statement => exact mem_outsideIds_withSession owned fun _ _ => owned
  | queryDirectly holder statement => exact mem_outsideIds_withSession owned fun _ _ => owned
  | disconnect holder => exact mem_outsideIds_disconnect owned holder
  | _ => exact mem_outsideIds_callPool owned _ _

end Outside

/-- Whoever has a session outside of the pools holds it. -/
theorem exists_outside (owned : id ∈ world.outsideIds) :
    ∃ session, world.session? (.outside id) = some session ∧ session.id = id := by
  obtain ⟨session, member, name⟩ := List.mem_map.mp owned
  have found : (world.outside.find? (·.id == id)).isSome = true :=
    List.find?_isSome.mpr ⟨session, member, beq_iff_eq.mpr name⟩
  obtain ⟨first, here⟩ := Option.isSome_iff_exists.mp found
  exact ⟨first, here, by simpa using List.find?_some here⟩

/-! ### Sessions that are being probed -/

/-- Somebody holds the session with this name. -/
def IsHeld (world : World) (id : Nat) : Prop :=
  ∃ holder session, world.session? holder = some session ∧ session.id = id

/-- A session that is being probed past its pool stays with whoever holds it. -/
theorem IsHeld.move (possible : Possible world) (held : world.IsHeld id)
    (probed : world.isProbed id = true) (move : Move) : (world.move move).IsHeld id := by
  obtain ⟨holder, session, here, rfl⟩ := held
  have busy : world.isFree holder = false := by
    unfold isFree
    rw [here]
    exact congrArg not probed
  cases holder with
  | lease handle =>
      obtain ⟨lease, good, rfl⟩ := Option.map_eq_some_iff.mp here
      have unended : move.ends world handle = false := by
        cases move with
        | act action =>
            cases action with
            | call request =>
                cases ends : request.ends? == some handle with
                | false => simp [Move.ends, ends]
                | true =>
                    have refused : world.accepts request = false := by
                      cases request <;> cases eq_of_beq ends <;> exact busy
                    simp [Move.ends, refused]
            | _ => rfl
        | _ => rfl
      obtain ⟨connection, still, uses⟩ := lease?_move possible good unended
      refine ⟨.lease handle, connection.session, ?_, uses.name_eq⟩
      exact congrArg (Option.map _) still
  | outside name =>
      have same : session.id = name := by simpa using List.find?_some here
      have owned : session.id ∈ world.outsideIds :=
        List.mem_map_of_mem (List.mem_of_find?_eq_some here)
      suffices stays : session.id ∈ (world.move move).outsideIds from
        ⟨.outside session.id, exists_outside stays⟩
      cases move with
      | act action =>
          cases action with
          | call request =>
              change session.id ∈ (world.call request).1.outsideIds
              unfold call
              split
              case isFalse => exact owned
              case isTrue accepted =>
                let numbered : World := { world with callers := world.callers + 1 }
                have ownedHere : session.id ∈ numbered.outsideIds := owned
                apply mem_outsideIds_begin ownedHere
                rintro index rfl
                have free : world.isFree (.outside session.id) = true :=
                  (Bool.and_eq_true_iff.mp accepted).2
                rw [same, busy] at free
                cases free
          | resume thread => exact mem_outsideIds_resume owned thread
          | instruct command => exact owned
          | passTo instant =>
              change session.id ∈ (world.passTo instant).outsideIds
              unfold passTo
              split <;> exact owned
      | _ => exact owned

/-! ### Callers on an errand -/

section Errands

variable (world)

theorem errands_callPool (index : Nat) (work : Site → Turn) :
    (world.callPool index work).1.errands = world.errands := by
  have kept (after : World) (answer : Option Pool.Answer) :
      (after.keepDetached answer).errands = after.errands := by
    unfold keepDetached
    split <;> rfl
  rw [World.callPool]
  apply (kept _ _).trans
  rw [inPool]
  split <;> rfl

theorem errands_finishErrand (work : Errand.Work) :
    (world.finishErrand work).1.errands = world.errands := by
  unfold finishErrand
  split
  · split <;> rfl
  · rfl

/-- Nobody begins an errand by going on. -/
theorem errands_resume_subset (thread : Thread) :
    (world.resume thread).1.errands ⊆ world.errands := by
  cases thread with
  | inPool index agent =>
      have same : (world.resume (.inPool index agent)).1.errands = world.errands :=
        world.errands_callPool index (·.resume agent)
      rw [same]
      exact List.Subset.refl _
  | errand caller =>
      change (world.resumeErrand caller).1.errands ⊆ world.errands
      unfold resumeErrand
      split
      · split
        · rw [errands_finishErrand]
          exact List.eraseP_subset
        · exact List.Subset.refl _
      · exact List.Subset.refl _

variable {world}

theorem mem_errands_withSession {holder : Holder} {use : Session → World × Option Answer}
    {errand : Errand} (waits : errand ∈ (world.withSession holder use).1.errands) :
    errand ∈ world.errands ∨
      ∃ session, world.session? holder = some session ∧ errand ∈ (use session).1.errands := by
  unfold withSession at waits
  split at waits
  case h_1 session held => exact .inr ⟨session, held, waits⟩
  case h_2 => exact .inl waits

/-- A caller is sent on an errand to connect, or to probe a session that it holds. -/
theorem mem_errands_begin {caller : Nat} {request : Request} {errand : Errand}
    (waits : errand ∈ (world.begin caller request).1.errands) :
    errand ∈ world.errands ∨ (∃ attempt, errand.work = .connecting attempt) ∨
      ∃ holder session, request = .probe holder ∧ world.session? holder = some session ∧
        errand.work = .probing session := by
  have inPool {index : Nat} {work : Site → Turn} {before : World}
      (waits : errand ∈ (before.callPool index work).1.errands)
      (same : before.errands = world.errands) : errand ∈ world.errands := by
    rwa [errands_callPool, same] at waits
  have direct {holder : Holder} {use : Session → World × Option Answer}
      (waits : errand ∈ (world.withSession holder use).1.errands)
      (keeps : ∀ session, (use session).1.errands = world.errands) : errand ∈ world.errands := by
    rcases mem_errands_withSession waits with known | ⟨session, -, here⟩
    · exact known
    · rwa [keeps] at here
  cases request with
  | connect =>
      rcases List.mem_append.mp waits with known | new
      · exact .inl known
      · cases List.mem_singleton.mp new
        exact .inr (.inl ⟨_, rfl⟩)
  | probe holder =>
      rcases mem_errands_withSession waits with known | ⟨session, held, here⟩
      · exact .inl known
      · rcases List.mem_append.mp here with known | new
        · exact .inl known
        · cases List.mem_singleton.mp new
          exact .inr (.inr ⟨holder, session, rfl, held, rfl⟩)
  | openPool config =>
      left
      change errand ∈ (world.openPool config caller).1.errands at waits
      unfold openPool at waits
      split at waits
      · exact waits
      · exact inPool waits rfl
  | adopt index id =>
      left
      change errand ∈ (world.adopt index id).1.errands at waits
      unfold World.adopt at waits
      split at waits
      · exact waits
      · exact inPool waits rfl
  | executeDirectly holder statement => exact .inl (direct waits fun _ => rfl)
  | queryDirectly holder statement => exact .inl (direct waits fun _ => rfl)
  | disconnect holder =>
      refine .inl (direct waits fun session => ?_)
      cases holder <;> rfl
  | _ => exact .inl (inPool waits rfl)

theorem isProbed_iff : world.isProbed id = true ↔
    ∃ errand ∈ world.errands, ∃ session, errand.work = .probing session ∧ session.id = id := by
  rw [isProbed, List.any_eq_true]
  constructor
  · rintro ⟨errand, waits, here⟩
    refine ⟨errand, waits, ?_⟩
    split at here
    case h_1 session work => exact ⟨session, work, beq_iff_eq.mp here⟩
    case h_2 => cases here
  · rintro ⟨errand, waits, session, work, name⟩
    refine ⟨errand, waits, ?_⟩
    rw [work]
    exact beq_iff_eq.mpr name

/-- A probe begins with a call of whoever holds the session. -/
theorem isProbed_move {move : Move} (probed : (world.move move).isProbed id = true) :
    world.isProbed id = true ∨ ∃ holder session, move = .act (.call (.probe holder)) ∧
      world.session? holder = some session ∧ session.id = id := by
  have known {after : World} (subset : after.errands ⊆ world.errands)
      (probed : after.isProbed id = true) : world.isProbed id = true := by
    obtain ⟨errand, waits, here⟩ := isProbed_iff.mp probed
    exact isProbed_iff.mpr ⟨errand, subset waits, here⟩
  cases move with
  | act action =>
      cases action with
      | call request =>
          change (world.call request).1.isProbed id = true at probed
          unfold call at probed
          split at probed
          case isFalse => exact .inl probed
          case isTrue accepted =>
            obtain ⟨errand, waits, session, work, name⟩ := isProbed_iff.mp probed
            rcases mem_errands_begin waits with
              before | ⟨attempt, other⟩ | ⟨holder, held, asks, here, new⟩
            · exact .inl (isProbed_iff.mpr ⟨errand, before, session, work, name⟩)
            · rw [work] at other
              cases other
            · rw [work] at new
              cases new
              exact .inr ⟨holder, session, by rw [asks], here, name⟩
      | resume thread => exact .inl (known (world.errands_resume_subset thread) probed)
      | instruct command => exact .inl probed
      | passTo instant =>
          refine .inl (known ?_ probed)
          change (world.passTo instant).errands ⊆ world.errands
          unfold passTo
          split <;> exact List.Subset.refl _
  | _ => exact .inl probed

end Errands

/-- Whoever asks for a probe still holds the session. -/
theorem session?_probe {holder : Holder} {session : Session}
    (held : world.session? holder = some session) :
    (world.move (.act (.call (.probe holder)))).session? holder = some session := by
  let numbered : World := { world with callers := world.callers + 1 }
  have heldHere : numbered.session? holder = some session := held
  change (world.call (.probe holder)).1.session? holder = some session
  unfold call
  split
  case isFalse => exact held
  case isTrue =>
    change (numbered.withSession holder _).1.session? holder = some session
    rw [withSession, heldHere]
    exact held

/-- A session that is being probed past its pool is held by somebody. -/
theorem Possible.isHeld (possible : Possible world) (probed : world.isProbed id = true) :
    world.IsHeld id := by
  induction possible with
  | new => cases probed
  | move before move ih =>
      rcases isProbed_move probed with already | ⟨holder, session, rfl, held, name⟩
      · exact (ih already).move before already move
      · exact ⟨holder, session, session?_probe held, name⟩

/-- Nobody probes a session that a pool keeps. -/
theorem Possible.isProbed_eq_false (possible : Possible world) {index : Nat} {pool : Pool}
    (found : world.pools[index]? = some pool) {connection : Connection}
    (inside : connection ∈ pool.kept) : world.isProbed connection.name = false := by
  rw [Bool.eq_false_iff]
  intro probed
  obtain ⟨holder, session, held, same⟩ := possible.isHeld probed
  exact possible.session_ne found inside held same

end SessionPool.World

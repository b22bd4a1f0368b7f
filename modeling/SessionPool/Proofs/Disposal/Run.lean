import SessionPool.Proofs.Disposal.History

/-!
# Every move keeps sessions in their places

Each step of a history is work in a pool, work on an errand, a call on a session outside of the
pools, or a change that has nothing to do with sessions. None of them loses a session, and none
puts one in two places.
-/

namespace SessionPool.World.History.Settled

variable {history : History} {after : World}

/-! ### Work in pools -/

/-- Work in a pool keeps every session in its place. -/
theorem work (settled : history.Settled) {start : World} {index : Nat} {pool : Pool}
    {agent : Pool.Agent} {work : Site → Turn} {given : List Nat} {entered : List (Nat × Nat)}
    (possible : Possible (start.callPool index work).1) (found : start.pools[index]? = some pool)
    (carries : Carries history.world index given
      (Pool.handedOut (work ⟨start.now, start.server, pool⟩).2) (start.callPool index work).1)
    (entered_mem : ∀ entry ∈ entered, entry.1 = index ∧ (entry.2 ∈ given ∨
      history.world.server.lastId < entry.2 ∧
        entry.2 ≤ (start.callPool index work).1.server.lastId))
    (given_mem : ∀ id ∈ given, id ∈ entered.map (·.2)) :
    (history.record (start.callPool index work).1 [] entered
      (leaves ((start.callPool index work).2.map (⟨.inPool index agent, ·⟩)))).Settled := by
  rw [answer_callPool found, leaves_inPool]
  apply settled.carry possible carries entered_mem given_mem
  · intro id member
    exact .inl (List.mem_map_of_mem member)
  · intro entry member
    obtain ⟨id, present, rfl⟩ := List.mem_map.mp member
    exact present

/-- An agent that goes on in a pool keeps every session in its place, and what it connects is kept
in mind. -/
theorem resumeInPool (settled : history.Settled) (index : Nat) (agent : Pool.Agent) :
    (history.move (.act (.resume (.inPool index agent)))).Settled := by
  have possible : Possible (history.world.callPool index (·.resume agent)).1 :=
    settled.possible.move (.act (.resume (.inPool index agent)))
  cases found : history.world.pools[index]? with
  | none =>
      have same := callPool_eq_self (·.resume agent) found
      simp only [History.move, step, resume, same, Action.enters, Nat.lt_irrefl, if_false]
      exact settled.same settled.possible rfl rfl rfl rfl
  | some pool =>
      have carries := Carries.callPool (·.resume agent) found (Site.resume_conserves agent)
        (fun _ _ => rfl) (fun _ => rfl) rfl fun _ => rfl
      refine settled.work possible found carries ?_ (by simp)
      intro entry member
      change entry ∈ (if history.world.server.lastId <
        (history.world.callPool index (·.resume agent)).1.server.lastId then _ else []) at member
      split at member
      case isTrue opened =>
        obtain rfl := List.mem_singleton.mp member
        exact ⟨rfl, .inr ⟨opened, Nat.le_refl _⟩⟩
      case isFalse => cases member

/-- A caller on an errand keeps every session in its place, and what it opens is outside. -/
theorem resumeErrand (settled : history.Settled) (caller : Nat) :
    (history.move (.act (.resume (.errand caller)))).Settled := by
  have possible : Possible (history.world.resumeErrand caller).1 :=
    settled.possible.move (.act (.resume (.errand caller)))
  change (history.record (history.world.resumeErrand caller).1 [] []
    (leaves ((history.world.resumeErrand caller).2.map (⟨.errand caller, ·⟩)))).Settled
  rw [leaves_errand]
  revert possible
  unfold World.resumeErrand
  split
  case h_2 => exact fun possible => settled.same possible rfl rfl rfl rfl
  case h_1 errand found =>
    split
    case isFalse => exact fun possible => settled.same possible rfl rfl rfl rfl
    case isTrue =>
      unfold finishErrand
      cases errand.work with
      | probing session => exact fun possible => settled.same possible rfl rfl rfl rfl
      | connecting attempt =>
          rcases history.world.server.finishConnect_cases attempt with
            ⟨server, error, answer, disconnects, lastId⟩ | ⟨server, answer, disconnects, lastId⟩
          · simp only [answer]
            exact fun possible => settled.same possible rfl rfl disconnects lastId
          · simp only [answer]
            intro possible
            apply settled.carry possible (.opens rfl rfl disconnects lastId)
            · simp
            · simp
            · intro id member
              obtain rfl := List.mem_singleton.mp member
              exact .inr ⟨rfl, Nat.lt_succ_self _⟩
            · simp

/-! ### Calls -/

/-- What a call that is made adds to a history. -/
theorem move_call {request : Request} (accepted : history.world.accepts request = true) :
    let begun := ({ history.world with callers := history.world.callers + 1 } : World).begin
      history.world.callers request
    history.move (.act (.call request)) =
      history.record begun.1 (Action.closes history.world (.call request))
        (Action.enters history.world begun.1 (.call request))
        (leaves (begun.2.map (⟨request.thread history.world, ·⟩))) := by
  simp only [History.move, step, call, accepted, if_true]

/-- A call on a pool keeps every session in its place. -/
theorem callJob (settled : history.Settled) {request : Request}
    (accepted : history.world.accepts request = true) {index : Nat} {job : Pool.Job}
    (asks : request.job? = some (index, job)) :
    (history.move (.act (.call request))).Settled := by
  let numbered : World := { history.world with callers := history.world.callers + 1 }
  have possible := settled.possible.move (.act (.call request))
  have closes : Action.closes history.world (.call request) = [] := by
    cases request <;> cases asks <;> rfl
  have enters (after : World) : Action.enters history.world after (.call request) = [] := by
    cases request <;> cases asks <;> rfl
  have given : job.given = [] := by
    cases request <;> cases asks <;> rfl
  have thread : request.thread history.world = .inPool index (.caller history.world.callers) := by
    cases request <;> cases asks <;> rfl
  have after : (history.world.move (.act (.call request))) =
      (numbered.callPool index (job.work history.world.callers)).1 := by
    simp only [World.move, step, call, accepted, if_true, begin_of_job asks, numbered]
  rw [after] at possible
  rw [move_call accepted, begin_of_job asks, closes, enters, thread]
  cases found : history.world.pools[index]? with
  | none =>
      have same : numbered.callPool index (job.work history.world.callers) = (numbered, none) :=
        callPool_eq_self _ found
      rw [same] at possible ⊢
      exact settled.same possible rfl rfl rfl rfl
  | some pool =>
      have sound := settled.possible.sound pool (List.mem_of_getElem? found)
      let site : Site := ⟨numbered.now, numbered.server, pool⟩
      have conserves : (job.work history.world.callers site).Conserves site [] :=
        given ▸ job.conserves sound
      have carries : Carries history.world index [] _ (numbered.callPool index _).1 :=
        .callPool (job.work history.world.callers) found conserves (fun _ _ => rfl)
          (fun _ => rfl) rfl fun _ => rfl
      exact settled.work possible found carries (by simp) (by simp)

/-- A pool that is made has no session yet. -/
theorem openPool (settled : history.Settled) (config : Config) :
    (history.move (.act (.call (.openPool config)))).Settled := by
  have possible := settled.possible.move (.act (.call (.openPool config)))
  rw [move_call rfl]
  simp only [World.move, step, call, accepts, if_true, begin, World.openPool] at possible ⊢
  split at possible
  case h_1 problem inconsistent =>
    exact settled.same possible rfl rfl rfl rfl
  case h_2 consistent =>
    have found : (history.world.pools ++ [Pool.new config history.world.now])[
        history.world.pools.length]? = some (Pool.new config history.world.now) := by
      simp
    let opened : World := { history.world with
      callers := history.world.callers + 1
      pools := history.world.pools ++ [Pool.new config history.world.now] }
    have carries : Carries history.world history.world.pools.length [] _
        (opened.callPool history.world.pools.length _).1 :=
      .callPool (·.prewarm (.caller history.world.callers) 0) found
        (Site.prewarm_conserves _ 0)
        (fun other id => (placesIn_concat rfl other id).symm)
        (fun id => by simp [opened, Pool.places, Pool.connections, Pool.new]) rfl fun _ => rfl
    exact settled.work possible found carries (by simp [Action.enters]) (by simp)

/-- A session that is given to a pool is not outside any more. -/
theorem adopt (settled : history.Settled) {index id : Nat}
    (accepted : history.world.accepts (.adopt index id) = true) :
    (history.move (.act (.call (.adopt index id)))).Settled := by
  have possible := settled.possible.move (.act (.call (.adopt index id)))
  obtain ⟨opened, free⟩ := Bool.and_eq_true_iff.mp accepted
  have enters (after : World) :
      Action.enters history.world after (.call (.adopt index id)) = [(index, id)] := by
    simp only [Action.enters, accepted, if_true]
  rw [move_call accepted, enters]
  simp only [World.move, step, call, accepted, if_true, begin, World.adopt] at possible ⊢
  cases held : history.world.outside? id with
  | none => simp [isFree, session?, held] at free
  | some session =>
      have same : session.id = id := by simpa using List.find?_some held
      cases found : history.world.pools[index]? with
      | none => simp [isOpen, found] at opened
      | some pool =>
          let giving : World := { history.world with
            callers := history.world.callers + 1
            outside := history.world.outside.eraseP (·.id == id) }
          have perm := (perm_cons_eraseP held).map (·.id)
          have carries : Carries history.world index [session.id] _
              (giving.callPool index (·.adopt session)).1 :=
            .callPool (·.adopt session) found (Site.adopt_conserves session) (fun _ _ => rfl)
              (fun _ => rfl) rfl fun other => by
                rw [outsideIds, perm.count_eq, List.map_cons, List.count_cons, List.count_singleton]
                rfl
          have heldNow : outside? { history.world with callers := history.world.callers + 1 } id =
              some session := held
          rw [heldNow] at possible ⊢
          exact settled.work possible found carries (by simp [same]) (by simp [same])

/-- A call that its caller makes on a session without a pool leaves the sessions where they are. -/
theorem direct (settled : history.Settled) {request : Request}
    (accepted : history.world.accepts request = true)
    (closes : Action.closes history.world (.call request) = [])
    (enters : ∀ after, Action.enters history.world after (.call request) = [])
    (thread : request.thread history.world = .errand history.world.callers)
    (carries : Carries history.world 0 [] []
      (({ history.world with callers := history.world.callers + 1 } : World).begin
        history.world.callers request).1) :
    (history.move (.act (.call request))).Settled := by
  have possible := settled.possible.move (.act (.call request))
  simp only [World.move, step, call, accepted, if_true] at possible
  rw [move_call accepted, closes, enters, thread, leaves_errand]
  exact settled.still possible carries

theorem disconnect (settled : history.Settled) {holder : Holder}
    (accepted : history.world.accepts (.disconnect holder) = true) :
    (history.move (.act (.call (.disconnect holder)))).Settled := by
  have possible := settled.possible.move (.act (.call (.disconnect holder)))
  have closes : Action.closes history.world (.call (.disconnect holder)) =
      (history.world.session? holder).toList.map (·.id) := by
    simp only [Action.closes, accepted, if_true]
  rw [move_call accepted, closes]
  simp only [World.move, step, call, accepted, if_true, begin, World.disconnect, World.withSession]
    at possible ⊢
  have heldNow : session? { history.world with callers := history.world.callers + 1 } holder =
      history.world.session? holder := by
    cases holder <;> rfl
  rw [heldNow] at possible ⊢
  cases held : history.world.session? holder with
  | none =>
      rw [held] at possible
      exact settled.same possible rfl rfl rfl rfl
  | some session =>
      rw [held] at possible
      cases holder with
      | outside id =>
          have same : session.id = id := by simpa using List.find?_some held
          refine settled.close possible session.id (fun _ _ => rfl) (fun _ => rfl) ?_ rfl rfl
          simp only [outsideIds, putSession, List.map_map]
          apply List.map_congr_left
          intro old _
          simp only [Function.comp]
          split
          case isTrue sameId => rw [beq_iff_eq.mp sameId, Session.closed, same]
          case isFalse => rfl
      | lease handle =>
          obtain ⟨lease, good, same⟩ := Option.map_eq_some_iff.mp held
          have keeps : ∀ pool, history.world.pools[handle.pool]? = some pool → ∀ id,
              (pool.putSession handle.ticket session.closed).places id = pool.places id := by
            intro pool found id
            have sound := settled.possible.sound pool (List.mem_of_getElem? found)
            unfold World.lease? at good
            rw [found] at good
            have good : pool.lease? handle.ticket = some lease := good
            have name : session.id = lease.connection.name := congrArg Session.id same.symm
            unfold Pool.putSession
            rw [good]
            exact Site.places_updateLease (sound.eq_of_ticket_eq good) name id
          exact settled.close possible session.id (placesIn_modify keeps) (sum_modify keeps) rfl rfl
            rfl

/-- A call keeps every session in its place. -/
theorem call (settled : history.Settled) (request : Request) :
    (history.move (.act (.call request))).Settled := by
  by_cases accepted : history.world.accepts request = true
  · cases asks : request.job? with
    | some asked => exact settled.callJob accepted asks
    | none =>
        have still {server : Server} {errands : List Errand} {callers : Nat}
            (disconnects : server.disconnects = history.world.server.disconnects)
            (lastId : server.lastId = history.world.server.lastId) :
            Carries history.world 0 [] [] { history.world with server, errands, callers } :=
          .still (fun _ _ => rfl) (fun _ => rfl) rfl disconnects lastId
        cases request with
        | openPool config => exact settled.openPool config
        | adopt index id => exact settled.adopt accepted
        | disconnect holder => exact settled.disconnect accepted
        | connect =>
            exact settled.direct accepted rfl (fun _ => rfl) rfl
              (still history.world.server.disconnects_startConnect
                history.world.server.lastId_startConnect)
        | probe holder =>
            exact settled.direct accepted rfl (fun _ => rfl) rfl
              (.withSession (still rfl rfl) fun session =>
                still (history.world.server.disconnects_startProbe session)
                  (history.world.server.lastId_startProbe session))
        | executeDirectly holder statement =>
            exact settled.direct accepted rfl (fun _ => rfl) rfl
              (.withSession (still rfl rfl) fun session =>
                still (history.world.server.execute_disconnects session statement)
                  (history.world.server.execute_lastId session statement))
        | queryDirectly holder statement =>
            exact settled.direct accepted rfl (fun _ => rfl) rfl
              (.withSession (still rfl rfl) fun session =>
                still (history.world.server.query_disconnects session statement)
                  (history.world.server.query_lastId session statement))
        | _ => cases asks
  · have closes : Action.closes history.world (.call request) = [] := by
      cases request <;> first | rfl | exact if_neg accepted
    have enters (after : World) : Action.enters history.world after (.call request) = [] := by
      cases request <;> first | rfl | exact if_neg accepted
    simp only [History.move, step, World.call, if_neg accepted, closes, enters]
    exact settled.same settled.possible rfl rfl rfl rfl

/-! ### Moves -/

theorem move (settled : history.Settled) (move : Move) : (history.move move).Settled := by
  have possible := settled.possible.move move
  cases move with
  | act action =>
      cases action with
      | call request => exact settled.call request
      | resume thread =>
          cases thread with
          | inPool index agent => exact settled.resumeInPool index agent
          | errand caller => exact settled.resumeErrand caller
      | instruct command => cases command <;> exact settled.same possible rfl rfl rfl rfl
      | passTo instant =>
          have unmoved : (history.world.passTo instant).pools = history.world.pools ∧
              (history.world.passTo instant).outside = history.world.outside ∧
              (history.world.passTo instant).server = history.world.server := by
            unfold passTo
            split <;> exact ⟨rfl, rfl, rfl⟩
          obtain ⟨pools, outside, server⟩ := unmoved
          exact settled.same possible pools outside (congrArg Server.disconnects server)
            (congrArg Server.lastId server)
  | reorder index tasks =>
      refine settled.still possible (.modify fun pool _ id => ?_)
      exact pool.places_reorder tasks id
  | stir index =>
      refine settled.still possible (.modify fun pool _ id => ?_)
      rw [Pool.places, Pool.connections_notifyOne, Pool.places]
  | elapse duration => exact settled.same possible rfl rfl rfl rfl

/-- Every run keeps every session in its place. -/
theorem follow (settled : history.Settled) (moves : List Move) :
    (moves.foldl History.move history).Settled := by
  induction moves generalizing history with
  | nil => exact settled
  | cons first later ih => exact ih (settled.move first)

end SessionPool.World.History.Settled

import SessionPool.Proofs.Alone.Sweep
import SessionPool.Proofs.Shutdown.Stakes

/-!
# The end of a sweep

A sweep that has examined all that it has taken puts what it has found alive in front of what is
idle by then, and disconnects the rest. If the pool has been shut down meanwhile, nothing goes back.
In both cases every connection that it has taken is accounted for once.
-/

namespace SessionPool

/-- Of a list in which no two entries are alike, what is selected occurs once and the rest not at
all. -/
theorem count_map_filter_of_nodup {α β : Type} [DecidableEq β] {entries : List α} {key : α → β}
    (distinct : (entries.map key).Nodup) {entry : α} (member : entry ∈ entries)
    (select : α → Bool) :
    ((entries.filter select).map key).count (key entry) = (select entry).toNat := by
  have inside : ((entries.filter select).map key).Sublist (entries.map key) :=
    List.filter_sublist.map key
  cases selected : select entry with
  | true =>
      have here : key entry ∈ (entries.filter select).map key :=
        List.mem_map_of_mem (List.mem_filter.mpr ⟨member, selected⟩)
      exact List.count_eq_one_of_mem (distinct.sublist inside) here
  | false =>
      apply List.count_eq_zero.mpr
      intro here
      obtain ⟨other, known, same⟩ := List.mem_map.mp here
      obtain ⟨known, selectedToo⟩ := List.mem_filter.mp known
      obtain rfl := List.inj_on_of_nodup_map distinct known member same
      rw [selected] at selectedToo
      cases selectedToo

namespace Pool

namespace Sweep

variable (sweep : Sweep) (findings : List Finding)

/-- The sweep takes the pool to have lost what it has decided to evict. -/
theorem retained_foldl_note :
    (findings.foldl note sweep).retained = sweep.retained - evictionsOf findings := by
  induction findings generalizing sweep with
  | nil => rfl
  | cons finding later ih =>
      rw [List.foldl_cons, ih, retained_note, evictionsOf, evictionsOf, List.countP_cons]
      cases finding.isKept <;> simp
      omega

/-- The sessions that a sweep is going to disconnect. -/
theorem names_evicted_foldl_note : (findings.foldl note sweep).evicted.map (·.name) =
    sweep.evicted.map (·.name) ++
      (findings.filter (!·.isKept)).map (·.connection.name) := by
  induction findings generalizing sweep with
  | nil => simp
  | cons finding later ih =>
      obtain ⟨connection, verdict, time⟩ := finding
      rw [List.foldl_cons, ih]
      cases verdict <;>
        simp [note, keep, evictIdle, evictDead, Finding.isKept, Connection.name, Connection.broken]

/-- A sweep has lost sight of nothing that it has examined. -/
theorem names_foldl_note :
    (((findings.foldl note sweep).kept ++ (findings.foldl note sweep).evicted).map (·.name)).Perm
      ((sweep.kept ++ sweep.evicted).map (·.name) ++ findings.map (·.connection.name)) := by
  have parts : (findings.map (·.connection.name)).Perm
      ((findings.filter (·.isKept)).map (·.connection.name) ++
        (findings.filter (!·.isKept)).map (·.connection.name)) := by
    rw [← List.map_append]
    exact ((List.filter_append_perm _ findings).symm).map _
  rw [List.map_append, names_evicted_foldl_note, (sweep.foldl_note findings).2.1, List.map_append,
    List.map_append, List.map_map]
  refine List.Perm.trans ?_ (parts.symm.append_left _)
  rw [List.append_assoc, List.append_assoc]
  apply List.Perm.append_left
  rw [← List.append_assoc, ← List.append_assoc]
  exact List.perm_append_comm.append_right _

end Sweep

end Pool

/-! ### The last turn -/

/-- What the last turn of a sweep makes of a pool, as it was before. -/
structure Turn.Commits (turn : Turn) (before : Site) (sweep : Pool.Sweep) : Prop where
  answer_eq : turn.2 = some (.ok (.swept sweep.report))
  active_eq : turn.1.pool.active = before.pool.active
  idle_eq : turn.1.pool.idle =
    if before.pool.isShutdown then before.pool.idle else sweep.kept ++ before.pool.idle
  total_eq : turn.1.pool.total = before.pool.total -
    if before.pool.isShutdown then sweep.checked else sweep.evicted.length
  disconnectCount_eq (id : Nat) : turn.1.server.disconnectCount id =
    before.server.disconnectCount id + ((if before.pool.isShutdown then
      sweep.kept ++ sweep.evicted else sweep.evicted).map (·.name)).count id

namespace Site

open Pool (Agent Sweep)

variable {site : Site} {agent : Agent} {sweep : Sweep}

theorem active_afterSweep (report : Pool.Report) :
    (site.afterSweep agent report).1.pool.active = site.pool.active := by
  unfold afterSweep
  split
  · rfl
  · split <;> rfl

theorem active_notifyMany (count : Nat) (pool : Pool) :
    (Pool.notifyMany count pool).active = pool.active := by
  induction count generalizing pool with
  | zero => rfl
  | succ count ih => exact ih pool.notifyOne

theorem active_disposeAll (connections : List Connection) :
    (site.disposeAll connections).pool.active = site.pool.active := by
  rw [Pool.pool_disposeAll]

/-- Neither of the two ends of a sweep touches what is lent. -/
theorem active_commit : (site.commit agent sweep).1.pool.active = site.pool.active := by
  rw [commit]
  dsimp only
  rw [active_afterSweep]
  change Pool.active (Site.pool (disposeAll _ sweep.evicted)) = _
  rw [active_disposeAll]
  split
  · exact active_disposeAll sweep.kept
  · exact active_notifyMany _ _

/-- A pool that lends disconnects what the sweep has evicted. -/
theorem disconnectCount_commit_running (running : site.pool.isShutdown = false) (id : Nat) :
    (site.commit agent sweep).1.server.disconnectCount id =
      site.server.disconnectCount id + (sweep.evicted.map (·.name)).count id := by
  rw [commit]
  dsimp only
  rw [running, if_neg Bool.false_ne_true, server_afterSweep]
  exact disconnectCount_disposeAll _ sweep.evicted id

/-- A pool that is shut down takes nothing back. -/
theorem pool_commit_shutdown (shutdown : site.pool.isShutdown = true) :
    (site.commit agent sweep).1.pool.idle = site.pool.idle ∧
      (site.commit agent sweep).1.pool.total = site.pool.total - sweep.checked := by
  rw [commit]
  dsimp only
  rw [if_pos shutdown, idle_afterSweep, total_afterSweep]
  change Pool.idle (Site.pool (disposeAll (disposeAll _ sweep.kept) sweep.evicted)) = _ ∧
    Pool.total (Site.pool (disposeAll (disposeAll _ sweep.kept) sweep.evicted)) = _
  rw [idle_disposeAll, idle_disposeAll, total_disposeAll, total_disposeAll]
  exact ⟨rfl, rfl⟩

theorem commit_commits : (site.commit agent sweep).Commits site sweep := by
  cases shutdown : site.pool.isShutdown with
  | true =>
      refine ⟨answer_commit, active_commit, ?_, ?_, ?_⟩ <;> rw [shutdown]
      · exact (pool_commit_shutdown shutdown).1
      · exact (pool_commit_shutdown shutdown).2
      · exact disconnectCount_commit shutdown sweep
  | false =>
      refine ⟨answer_commit, active_commit, ?_, ?_, ?_⟩ <;> rw [shutdown]
      · exact idle_commit shutdown
      · exact total_commit shutdown
      · exact disconnectCount_commit_running shutdown

end Site

end SessionPool

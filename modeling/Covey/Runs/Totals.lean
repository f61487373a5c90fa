import Covey.Runs.Cleanup
import Covey.Totals

/-!
# The states of meta-tasks along runs

* `Db.Summed`: every meta-task without an archive cleanup stands.
* `meta_tasks_summed`: after every run of proper calls, a meta-task that is not cancelled and has
  no archive cleanup is in the state that its subtasks give it.
* `meta_task_completed_iff`: if all its subtasks are over or repaired, it is completed exactly if
  none of them had to be repaired.
-/

namespace Covey

open Relational

section Runs

variable {env : Env} {s : Db} {c : Call} {calls : List Call} {m : MetaTaskId} {row : MetaTaskRow}

/-- What is known of meta-tasks and their subtasks after a run of proper calls. -/
structure Db.Summed (s : Db) : Prop where
  coherent : Coherent s.board.toLeases
  repaired : s.Repaired
  paired : s.rounds.Paired
  housed : s.Housed
  stands : ∀ {m}, ¬Cleaned s.board.subtask m → s.Stands m

theorem next_tends (h : s.Summed) : Tends s (next env s c) := by
  by_cases hcommits : c.Commits env s
  · obtain ⟨v, s₀, rfl, hrun⟩ := hcommits.1.run
    have hstart : Tends s { s with uuids := c.uuids } := .of_same rfl rfl
    exact hstart.trans (Operation.run_tends (by exact h.coherent) (by exact h.repaired.mended)
      (by exact h.paired) hrun)
  · obtain ⟨clock, uuids, hnext⟩ := next_of_idle hcommits
    rw [hnext]
    exact .of_same rfl rfl

theorem next_summed (hc : c.Proper s) (h : s.Summed) : (next env s c).Summed where
  coherent := next_coherent hc h.coherent
  repaired := next_repaired hc.1 h.repaired
  paired := next_rounds (I := Rounds.Paired) hc h.coherent (fun hm _ hp => hp.keeps hm.keeps)
    (fun _ hturn hp => hp.turn hturn) h.paired
  housed := (next_tends h).housed h.housed
  stands hclean := (next_tends h).stands h.housed hclean
    (h.stands (mt (next_tends h).cleaned hclean))

theorem init_summed : Db.init.Summed where
  coherent := init_coherent
  repaired := init_repaired
  paired := ⟨(nomatch ·), (nomatch ·), (nomatch ·), (nomatch ·)⟩
  housed := by
    rintro m ⟨id, r, hr, -⟩
    cases hr
  stands _ row hrow := by cases hrow

theorem reach_summed (hrun : Run.Along (next env) Call.Proper Db.init calls) :
    (reach env calls).Summed :=
  Run.invariant (I := Db.Summed) (fun _ _ => next_summed) hrun init_summed

/-- A meta-task all of whose subtasks are work or reviews has no archive cleanup. -/
theorem Db.Summed.not_cleaned (h : s.Summed)
    (hclean : ∀ id r, s.subtasks.get? id = some r → r.metaTaskId = m → r.kind ≠ .cleanup) :
    ¬Cleaned s.board.subtask m := by
  rintro ⟨id, r, hres, hr, hm⟩
  exact hclean id r hr hm (h.coherent.named hr hres)

/-- After every run in which no caller gives a reserved id to work or to a review, a meta-task
    that is not cancelled and has no archive cleanup is in the state that its subtasks give it. -/
theorem meta_tasks_summed (hrun : Run.Along (next env) Call.Proper Db.init calls)
    (hrow : (reach env calls).metaTasks.get? m = some row) (hlive : row.state ≠ .cancelled)
    (hclean : ∀ id r, (reach env calls).subtasks.get? id = some r → r.metaTaskId = m →
      r.kind ≠ .cleanup) :
    row.state = (reach env calls).summedState m :=
  have hsummed := reach_summed hrun
  hsummed.stands (hsummed.not_cleaned hclean) row hrow hlive

theorem satisfied_of_row {id : SubtaskId} {r : SubtaskRow} (hr : s.subtasks.get? id = some r)
    (h : dependencySatisfied s r) : Satisfied s.board id :=
  (dependencySatisfied_iff hr).mp h

/-- If every subtask of such a meta-task is over, or is work that failed its review and was
    repaired since, then the meta-task is completed exactly if nothing had to be repaired. -/
theorem meta_task_completed_iff (hrun : Run.Along (next env) Call.Proper Db.init calls)
    (hrow : (reach env calls).metaTasks.get? m = some row) (hlive : row.state ≠ .cancelled)
    (hclean : ∀ id r, (reach env calls).subtasks.get? id = some r → r.metaTaskId = m →
      r.kind ≠ .cleanup)
    (hstaffed : ∃ id r, (reach env calls).subtasks.get? id = some r ∧ r.metaTaskId = m)
    (hsettled : ∀ id r, (reach env calls).subtasks.get? id = some r → r.metaTaskId = m →
      r.state.isTerminal ∨ r.awaitsRepair ∧ Satisfied (reach env calls).board id) :
    row.state = .completed ↔
      ∀ id r, (reach env calls).subtasks.get? id = some r → r.metaTaskId = m →
        ¬r.awaitsRepair := by
  have hsummed := reach_summed hrun
  have hstands := hsummed.stands (hsummed.not_cleaned hclean) row hrow hlive
  generalize reach env calls = s at *
  rw [hstands]
  constructor
  · intro hcompleted id r hr hm hawaits
    have hgoing : ¬r.state.isTerminal := by
      rcases hawaits.2 with hs | hs <;> simp [hs, SubtaskState.isTerminal]
    rw [Db.summedState_of_going hr hm hgoing] at hcompleted
    cases hcompleted
  · intro hnone
    refine Db.summedState_of_over hstaffed fun {id r} hr hm => ?_
    exact (hsettled id r hr hm).resolve_right fun h => hnone id r hr hm h.1

end Runs

section Scripts

open Script

/-- Changes are requested of the work `a`, and its follow-up is approved and applied. -/
def repairedWork : List Call :=
  Script.calls (underReview .canonicalApply ++
    [(9, judge (session 2) (review 8) (claim 9) (fence 0) .changesRequested),
      (9, release (session 1) (claim 5) (fence 0))] ++
    approval 13 10 (idAt .subtaskId "subtask" 11 0) .findingsBundle (digest "b") "again")

theorem repairedWork_run : Run.Along (next env) Call.Proper Db.init repairedWork ∧
    (((reach env repairedWork).metaTasks.get? (metaTask 3)).map (·.state) = some .active ∧
      ((reach env repairedWork).subtasks.get? (text "a")).map (·.metaTaskId) =
        some (metaTask 3)) ∧
    ∀ r ∈ (reach env repairedWork).subtasks.rows, r.metaTaskId = metaTask 3 ∧ r.kind ≠ .cleanup ∧
      (r.state.isTerminal ∨ r.awaitsRepair ∧ dependencySatisfied (reach env repairedWork) r) := by
  decide +kernel

/-- The meta-task of the repaired work has nothing left to do, and is still active. -/
theorem repaired_not_completed :
    Run.Along (next env) Call.Proper Db.init repairedWork ∧
      ((reach env repairedWork).metaTasks.get? (metaTask 3)).map (·.state) = some .active ∧
      ∀ r ∈ (reach env repairedWork).subtasks.rows, r.state.isTerminal ∨
        r.awaitsRepair ∧ dependencySatisfied (reach env repairedWork) r := by
  obtain ⟨hrun, ⟨hactive, -⟩, hover⟩ := repairedWork_run
  exact ⟨hrun, hactive, fun r hr => (hover r hr).2.2⟩

theorem meta_tasks_summed_repairedWork :
    ∃ row, (reach env repairedWork).metaTasks.get? (metaTask 3) = some row ∧
      row.state = (reach env repairedWork).summedState (metaTask 3) := by
  obtain ⟨hrun, ⟨hactive, -⟩, hover⟩ := repairedWork_run
  obtain ⟨row, hrow, hstate⟩ := Option.map_eq_some_iff.mp hactive
  refine ⟨row, hrow, meta_tasks_summed hrun hrow (by simp [hstate]) fun id r hr _ => ?_⟩
  exact (hover r (Table.mem_of_get? hr)).2.1

theorem meta_task_completed_iff_repairedWork :
    ∃ row, (reach env repairedWork).metaTasks.get? (metaTask 3) = some row ∧
      (row.state = .completed ↔
        ∀ id r, (reach env repairedWork).subtasks.get? id = some r → r.metaTaskId = metaTask 3 →
          ¬r.awaitsRepair) := by
  obtain ⟨hrun, ⟨hactive, hsource⟩, hover⟩ := repairedWork_run
  obtain ⟨row, hrow, hstate⟩ := Option.map_eq_some_iff.mp hactive
  refine ⟨row, hrow, meta_task_completed_iff hrun hrow (by simp [hstate]) (fun id r hr _ => ?_)
    ?_ fun id r hr _ => ?_⟩
  · exact (hover r (Table.mem_of_get? hr)).2.1
  · obtain ⟨r, hr, hm⟩ := Option.map_eq_some_iff.mp hsource
    exact ⟨_, r, hr, hm⟩
  · refine (hover r (Table.mem_of_get? hr)).2.2.imp_right fun ⟨hawaits, hsat⟩ => ⟨hawaits, ?_⟩
    exact satisfied_of_row hr hsat

/-- The cleanup of an archivable change is under way, and its meta-task is still completed. -/
theorem cleanup_not_summed :
    Run.Along (next env) Call.Proper Db.init (ready ++ [firstBegin]) ∧
      ((reach env (ready ++ [firstBegin])).metaTasks.rows.map fun row =>
        (row.state, (reach env (ready ++ [firstBegin])).summedState row.metaTaskId)) =
        [(.completed, .active)] := by
  have hstates : ((reach env (ready ++ [firstBegin])).metaTasks.rows.map fun row =>
      (row.state, (reach env (ready ++ [firstBegin])).summedState row.metaTaskId)) =
      [(.completed, .active)] := by
    decide +kernel
  exact ⟨(Run.along_append.mp ready_run.1).1, hstates⟩

end Scripts

end Covey

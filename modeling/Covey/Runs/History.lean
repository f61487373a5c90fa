import Covey.Runs.Cancelled

/-!
# Histories

* `runs_simulated`: every run of the store is a run of the board machine.
* `history_kept`: the log, the responses on record and the lease clock only grow.
* `records_kept`: no record is taken back, and settled ones stay as they are.
* `references_kept`: what a row names is there.
-/

namespace Covey

open Relational

section Runs

variable {env : Env} {calls rest : List Call}

/-- A move of the board machine at the time of one of the calls. -/
def MoveOf (calls : List Call) (b b' : Board) : Prop := ∃ c ∈ calls, ∃ w, Move c.now w b b'

/-- In every run, whatever its calls: the log is only appended to, no response on record changes,
    and the lease clock does not go back. -/
theorem history_kept :
    (reach env calls).events <+: (reach env (calls ++ rest)).events ∧
      (∀ k row, (reach env calls).idempotency.get? k = some row →
        (reach env (calls ++ rest)).idempotency.get? k = some row) ∧
      (reach env calls).leaseClock ≤ (reach env (calls ++ rest)).leaseClock := by
  rw [reach_append]
  generalize reach env calls = s
  refine Run.invariant_always (I := fun s' : Db => s.events <+: s'.events ∧
    (∀ k row, s.idempotency.get? k = some row → s'.idempotency.get? k = some row) ∧
    s.leaseClock ≤ s'.leaseClock) (fun s' c h => ?_) ⟨List.prefix_rfl, fun _ _ h => h, le_rfl⟩
  obtain ⟨hevents, hresponses, hclock⟩ := h
  have hnext : Touches c.op.tables s' (next env s' c) := next_touches
  refine ⟨hevents.trans hnext.events, fun k row hrow => ?_, hclock.trans hnext.clock⟩
  exact hnext.idempotency k row (hresponses k row hrow)

/-- Sessions keep their agent and role and subtasks what they are, and no record about an artifact
    is taken back; decided reviews and applied queue rows never change again. -/
theorem records_kept (hrun : Run.Along (next env) Call.Fresh Db.init (calls ++ rest)) :
    (reach env calls).board.Evolves (reach env (calls ++ rest)).board := by
  obtain ⟨hbefore, hrest⟩ := Run.along_append.mp hrun
  rw [reach_append]
  refine (Run.invariant (I := fun s : Db => Anchored s.board.toLeases ∧
    (reach env calls).board.Evolves s.board) (fun s c hc h => ?_) hrest
    ⟨(reach_fenced hbefore).1, .refl _⟩).2
  exact ⟨next_anchored hc h.1, h.2.trans (next_moves hc h.1).evolves⟩

/-- What a row names is there. -/
structure Db.Referenced (s : Db) : Prop where
  subtask : ∀ {id r}, s.subtasks.get? id = some r → ∃ row, s.metaTasks.get? r.metaTaskId = some row
  claim : ∀ {k c}, s.claims.get? k = some c → (s.subtasks.get? c.subtaskId).isSome ∧
    (s.sessions.get? c.ownerSessionToken).isSome
  session : ∀ {k σ id}, s.sessions.get? k = some σ → σ.activeSubtaskId = some id →
    (s.subtasks.get? id).isSome
  artifact : ∀ {k a}, s.artifacts.get? k = some a →
    (s.subtasks.get? a.producedBySubtaskId).isSome
  review : ∀ {k v}, s.reviews.get? k = some v → (s.subtasks.get? v.subtaskId).isSome ∧
    (s.subtasks.get? v.reviewSubtaskId).isSome
  followup : ∀ {k f}, s.reviewFollowups.get? k = some f → (s.reviews.get? k).isSome ∧
    (s.subtasks.get? f.sourceSubtaskId).isSome ∧ (s.subtasks.get? f.followupSubtaskId).isSome
  queue : ∀ {k q}, s.readyQueue.get? k = some q → (s.subtasks.get? q.subtaskId).isSome

/-- After every run in which no caller gives a reserved id to work or to a review, the rows that
    the rows name are there. -/
theorem references_kept (hrun : Run.Along (next env) Call.Proper Db.init calls) :
    (reach env calls).Referenced := by
  have hs := reach_summed hrun
  have hp := reach_policied (Call.Proper.along_fresh hrun)
  generalize reach env calls = s at *
  have hsome : ∀ {id} {P : SubtaskRow → Prop}, (∃ r, s.board.subtask id = some r ∧ P r) →
      (s.subtasks.get? id).isSome := by
    rintro id P ⟨r, hr, -⟩
    exact Option.isSome_of_eq_some hr
  refine ⟨fun hr => hs.housed ⟨_, _, hr, rfl⟩, fun hc =>
    ⟨hs.coherent.linked.subtask hc, hs.coherent.linked.owner hc⟩, hs.coherent.linked.known,
    fun ha => hsome (hp.artifact ha), fun hv => ?_, fun hf => ?_, fun hq => hsome (hp.queue hq)⟩
  · obtain ⟨t, r, ht, -, hr, -⟩ := hs.paired.subtask hv
    exact ⟨Option.isSome_of_eq_some hr, Option.isSome_of_eq_some ht⟩
  · obtain ⟨v, r, r', hv, -, -, hr, hr', -⟩ := hs.repaired.mended.linked hf
    exact ⟨Option.isSome_of_eq_some hv, Option.isSome_of_eq_some hr, Option.isSome_of_eq_some hr'⟩

end Runs

section Scripts

open Script

theorem records_kept_dropped :
    (reach env dropped).board.Evolves (reach env (dropped ++ [drop])).board :=
  records_kept (Call.Proper.along_fresh (Run.along_append.mp dropped_run.1).1)

theorem references_kept_repairedWork : (reach env repairedWork).Referenced :=
  references_kept repairedWork_run.1

end Scripts

end Covey

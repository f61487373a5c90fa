import Covey.Runs.Queue
import Covey.Runs.Totals

/-!
# Cancelled meta-tasks

* `Db.Shut`: the work and the reviews of the meta-task are over and nobody is at work on them, and
  none of its rows in the ready queue is open.
* `cancelled_for_good`: in every run of proper calls, the cancellation of a meta-task shuts it, and
  it stays shut.
-/

namespace Covey

open Relational

/-- The meta-task is shut: its work and its reviews are over, no claim on them is held, no session
    is active on them, and no row of the ready queue for it is queued or in flight. -/
structure Db.Shut (s : Db) (m : MetaTaskId) : Prop where
  finished : ∀ {id r}, s.subtasks.get? id = some r → r.metaTaskId = m → r.kind ≠ .cleanup →
    r.state.isTerminal ∧ r.currentClaimId = none
  claims : ∀ {k c r}, s.claims.get? k = some c → s.subtasks.get? c.subtaskId = some r →
    r.metaTaskId = m → r.kind ≠ .cleanup → c.state ≠ .held
  sessions : ∀ {k σ id r}, s.sessions.get? k = some σ → s.subtasks.get? id = some r →
    r.metaTaskId = m → r.kind ≠ .cleanup → σ.activeSubtaskId ≠ some id
  queue : ∀ {k q r}, s.readyQueue.get? k = some q → s.subtasks.get? q.subtaskId = some r →
    r.metaTaskId = m → ¬q.isOpen

section Rows

variable {now : ℤ} {w : Write} {b b' : Board} {L : Set Write} {id : SubtaskId} {r r' : SubtaskRow}

theorem StateStep.going {kind : SubtaskKind} {x y : SubtaskState} (h : StateStep b kind id w x y)
    (hw : w ≠ .revive) : ¬x.isTerminal := by
  cases h with
  | declared allowed => exact SubtaskKind.going_of_allows allowed
  | lapse _ held => rcases held with rfl | rfl <;> simp [SubtaskState.isTerminal]
  | abandon _ going => exact going
  | revive label => exact absurd label hw

/-- Work or a review under the id is over, and there will be none if there is none yet; the rows of
    the queue for it are closed. -/
structure Board.Rests (b : Board) (id : SubtaskId) : Prop where
  kept : Kept b.toLeases
  keyed : Keyed b
  absent : b.subtask id = none → ReservedId id
  finished : ∀ {r}, b.subtask id = some r → r.kind ≠ .cleanup → r.state.isTerminal
  queue : ∀ {k q}, b.queue k = some q → q.subtaskId = id → ¬q.isOpen

theorem Board.Rests.not_ready (h : b.Rests id) (hr : b.subtask id = some r) :
    r.state ≠ .readyForApply := by
  intro hready
  by_cases hkind : r.kind = .cleanup
  · rcases h.kept.tended.row hr hkind with ⟨-, hs | hs⟩ | ⟨-, hs | hs⟩ <;>
      cases hready.symm.trans hs
  · have hover := h.finished hr hkind
    rw [hready] at hover
    simp [SubtaskState.isTerminal] at hover

theorem Board.Rests.move (h : b.Rests id) (m : Move now w b b') (hmis : w ≠ .misname)
    (hw : w ≠ .revive) : b'.Rests id where
  kept := h.kept.move m hmis
  keyed := h.keyed.move m
  absent hnone := by
    refine h.absent ?_
    cases hr : b.subtask id with
    | none => rfl
    | some r =>
      obtain ⟨r', hr', -⟩ := (m.subtask id).of_some hr
      rw [hnone] at hr'
      cases hr'
  finished {r'} hr' hkind := by
    rcases (m.subtask id).of_some' hr' with ⟨r, hr, hstep⟩ | ⟨hnone, -⟩
    · rw [hstep.sameWork.kind] at hkind
      have hover := h.finished hr hkind
      have hid : ¬ReservedId id := fun hres => hkind (h.kept.named hr hres)
      rcases hstep.state hkind (h.keyed hr) hid h.kept.anchored with hsame | hstate
      · rwa [hsame]
      · exact absurd hover (hstate.going hw)
    · exact absurd ((h.kept.move m hmis).named hr' (h.absent hnone)) hkind
  queue {k q'} hq' hid := by
    cases m with
    | lease => exact h.queue hq' hid
    | ledger m =>
      cases m with
      | enqueue _ _ _ subtask _ ready =>
        rcases put_eq_some.mp hq' with ⟨-, rfl⟩ | ⟨-, hq⟩
        · exact absurd ready (h.not_ready (hid ▸ subtask))
        · exact h.queue hq hid
      | queue evolved =>
        obtain ⟨q, hq, hstep⟩ := rel_of_some' (evolved k) hq'
        exact fun hopen => h.queue hq (hstep.subtask.symm.trans hid) (hstep.isOpen hopen)
      | _ => exact h.queue hq' hid
    | apply _ _ _ _ subtask _ _ ready =>
      rcases put_eq_some.mp hq' with ⟨-, rfl⟩ | ⟨-, hq⟩
      · exact ReadyQueueRow.not_isOpen_of_applied rfl
      · exact h.queue hq hid

end Rows

section Runs

variable {env : Env} {s : Db} {c : Call} {calls rest : List Call} {m : MetaTaskId}

/-- The operations that revive follow-ups leave the queue alone. -/
theorem Operation.Revives.not_queue {op : Operation} (h : op.Revives) : .readyQueue ∉ op.tables := by
  cases op <;> first | exact h.elim | exact of_decide_eq_true rfl

/-- What a run of proper calls keeps of a meta-task once it has been shut. -/
structure Db.Closed (s : Db) (m : MetaTaskId) : Prop where
  summed : s.Summed
  kept : Kept s.board.toLeases
  policied : Policied s.board
  stopped : s.Sealed m
  free : ∀ {id r}, s.board.subtask id = some r → r.metaTaskId = m → ¬ReservedId id →
    r.currentClaimId = none
  queue : ∀ {k q r}, s.board.queue k = some q → s.board.subtask q.subtaskId = some r →
    r.metaTaskId = m → ¬q.isOpen

theorem Db.Closed.shut (h : s.Closed m) : s.Shut m where
  finished {id r} hr hm hkind := by
    have hid : ¬ReservedId id := fun hres => hkind (h.kept.named hr hres)
    refine ⟨?_, h.free hr hm hid⟩
    by_contra hgoing
    exact h.stopped.2 ⟨id, r, hid, hr, hm, hgoing⟩
  claims {k c r} hc hr hm hkind hheld := by
    have hid : ¬ReservedId c.subtaskId := fun hres => hkind (h.kept.named hr hres)
    have hcur := (h.kept.linked.current hr hkind).mpr ⟨_, c, hc, rfl, rfl, hheld⟩
    rw [h.free hr hm hid] at hcur
    cases hcur
  sessions {k σ id r} hσ hr hm hkind hactive := by
    have hid : ¬ReservedId id := fun hres => hkind (h.kept.named hr hres)
    obtain ⟨c, hheld⟩ := (h.kept.linked.active hσ hr hkind).mp hactive
    have hcur := (h.kept.linked.current hr hkind).mpr ⟨k, hheld⟩
    rw [h.free hr hm hid] at hcur
    cases hcur
  queue := h.queue

theorem Db.Closed.next (h : s.Closed m) (hc : c.Proper s) : (next env s c).Closed m where
  summed := next_summed hc h.summed
  kept := next_kept hc h.kept
  policied := hc.1.invariant h.kept.anchored (fun m h => h.move m) h.policied
  stopped := (next_tends h.summed).sealed h.stopped
  free {id r'} hr' hm hid := by
    obtain ⟨r, hr, hstays⟩ := (next_tends h.summed).kept h.stopped hid hr' hm
    obtain ⟨r₁, hr₁, hsame⟩ := (next_tends h.summed).home hr
    obtain rfl : r₁ = r' := Option.some.inj (hr₁.symm.trans hr')
    exact hstays.2 (h.free hr (hsame.symm.trans hm) hid)
  queue {k q' r'} hq' hr' hm := by
    have htends : Tends s (Covey.next env s c) := next_tends h.summed
    -- The subtask of a row was there before, or is a new archive cleanup.
    have hold : ∀ {r}, s.board.subtask q'.subtaskId = some r → r.metaTaskId = m := by
      intro r hr
      obtain ⟨r₁, hr₁, hsame⟩ := htends.home hr
      obtain rfl : r₁ = r' := Option.some.inj (hr₁.symm.trans hr')
      exact hsame.symm.trans hm
    by_cases hrevives : c.op.Revives
    · have hsame : (Covey.next env s c).board.queue = s.board.queue :=
        next_touches.same (f := fun s => s.board.queue) fun s => by
          have hfree := hrevives.not_queue
          simp only [Db.board, Db.rows, Db.without, if_neg hfree]
      rw [hsame] at hq'
      obtain ⟨r, hr, -⟩ := h.policied.queue hq'
      exact h.queue hq' hr (hold hr)
    · have hrests : s.board.Rests q'.subtaskId :=
        { kept := h.kept
          keyed := s.keyed
          absent := fun hnone => by
            by_contra hid
            obtain ⟨r, hr, -⟩ := htends.kept h.stopped hid hr' hm
            rw [hnone] at hr
            cases hr
          finished := fun hr hkind => (h.shut.finished hr (hold hr) hkind).1
          queue := fun hq hid => by
            obtain ⟨r, hr, -⟩ := h.policied.queue hq
            exact h.queue hq hr (hold (hid ▸ hr)) }
      have hafter : (Covey.next env s c).board.Rests q'.subtaskId :=
        Steps.invariant (I := fun b => b.Rests q'.subtaskId) (fun {w _ _} hw move hrests =>
          hrests.move move (fun hmis => misname_notMem_writes hc.2 (hmis ▸ hw))
            fun hrev => hrevives (Operation.revives_of_mem
              (Call.mem_writes (hrev ▸ hw) (by decide) (by decide) (by decide))))
          (next_moves hc.1 h.kept.anchored) hrests
      exact hafter.queue hq' rfl

/-- A committed cancellation cancels the meta-task of the request. -/
theorem Call.Commits.cancels {req : CancelMetaTaskReq} (h : c.Commits env s)
    (hop : c.op = .cancelMetaTask req) : Cancels req.metaTaskId c.now s (next env s c) := by
  obtain ⟨body, hbody, hrun⟩ := @cancelMetaTask_run c.now req
  obtain ⟨-, s₀, v, s₁, t, rfl, hbody, hnext, -⟩ :=
    h.mutation (by rw [hop]; exact hbody) (by rw [hop]; rfl)
  obtain ⟨going, others, subtasks, queue⟩ := hrun hbody
  rw [hnext]
  exact ⟨going, others, subtasks, queue⟩

theorem Cancels.subtask {now : ℤ} {s' : Db} {id : SubtaskId} {r' : SubtaskRow}
    (h : Cancels m now s s') (hr' : s'.board.subtask id = some r') (hm : r'.metaTaskId = m) :
    ∃ r, s.board.subtask id = some r ∧ r.metaTaskId = m ∧ r' = r.cancelled now := by
  rw [h.subtasks] at hr'
  obtain ⟨r, hr, rfl⟩ := Option.map_eq_some_iff.mp hr'
  split_ifs at hm ⊢ with hmeta
  · exact ⟨r, hr, hmeta, rfl⟩
  · exact absurd hm hmeta

theorem SubtaskRow.cancelled_over {now : ℤ} {r : SubtaskRow} :
    (r.cancelled now).state.isTerminal := by
  by_cases hterm : r.state.isTerminal
  · rwa [SubtaskRow.cancelled_state_of_terminal hterm]
  · rw [SubtaskRow.cancelled_state hterm]
    simp [SubtaskState.isTerminal]

theorem Call.Commits.closes {req : CancelMetaTaskReq} (h : c.Commits env s)
    (hop : c.op = .cancelMetaTask req) (hc : c.Proper s) (hs : s.Summed)
    (hkept : Kept s.board.toLeases) (hpolicied : Policied s.board) :
    (next env s c).Closed req.metaTaskId := by
  have hcancels := h.cancels hop
  refine ⟨next_summed hc hs, next_kept hc hkept,
    hc.1.invariant hkept.anchored (fun m h => h.move m) hpolicied, ⟨?_, ?_⟩, ?_, ?_⟩
  · obtain ⟨row, -, -, hrow'⟩ := hcancels.going
    exact ⟨_, hrow', rfl⟩
  · rintro ⟨id, r', -, hr', hm, hgoing⟩
    obtain ⟨r, -, -, rfl⟩ := hcancels.subtask hr' hm
    exact hgoing SubtaskRow.cancelled_over
  · intro id r' hr' hm _
    obtain ⟨r, -, -, rfl⟩ := hcancels.subtask hr' hm
    rfl
  · intro k q r' hq hr' hm
    obtain ⟨r, hr, hmeta, -⟩ := hcancels.subtask hr' hm
    exact hcancels.queue hq hr hmeta

/-- In every run in which no caller gives a reserved id to work or to a review, a cancellation that
    commits abandons the subtasks that were going on and shuts the meta-task; and after any further
    calls it is shut still, no work and no review has been added to it, and none of them is in
    another state. -/
theorem cancelled_for_good {req : CancelMetaTaskReq}
    (hrun : Run.Along (next env) Call.Proper Db.init (calls ++ [c] ++ rest))
    (hcommits : c.Commits env (reach env calls)) (hop : c.op = .cancelMetaTask req) :
    (∀ id r, (reach env calls).subtasks.get? id = some r → r.metaTaskId = req.metaTaskId →
      ∃ r', (reach env (calls ++ [c])).subtasks.get? id = some r' ∧
        r'.state = if r.state.isTerminal then r.state else .abandoned) ∧
    (reach env (calls ++ [c])).Shut req.metaTaskId ∧
    (reach env (calls ++ [c] ++ rest)).Shut req.metaTaskId ∧
    ∀ id r', (reach env (calls ++ [c] ++ rest)).subtasks.get? id = some r' →
      r'.metaTaskId = req.metaTaskId → r'.kind ≠ .cleanup →
      ∃ r, (reach env (calls ++ [c])).subtasks.get? id = some r ∧ r'.state = r.state := by
  obtain ⟨hrun, hrest⟩ := Run.along_append.mp hrun
  obtain ⟨hbefore, hc, -⟩ := Run.along_append.mp hrun
  have hcancels := hcommits.cancels hop
  have hclosed := hcommits.closes hop hc (reach_summed hbefore) (reach_kept hbefore)
    (reach_policied (Call.Proper.along_fresh hbefore))
  have hafter : reach env (calls ++ [c] ++ rest) =
      Run.after (next env) (reach env (calls ++ [c])) rest := reach_append
  rw [hafter, reach_concat]
  replace hrest : Run.Along (next env) Call.Proper (next env (reach env calls) c) rest := by
    rw [← reach_concat]
    exact hrest
  generalize reach env calls = s at *
  generalize next env s c = s₁ at *
  refine ⟨fun id r hr hm => ?_, hclosed.shut, ?_⟩
  · refine ⟨r.cancelled c.now, ?_, rfl⟩
    have hsub := congrFun hcancels.subtasks id
    rw [show s.board.subtask id = some r from hr, Option.map_some, if_pos hm] at hsub
    exact hsub
  · -- Along the rest of the run, subtasks with no reserved id stay what they were.
    have hrest : (Run.after (next env) s₁ rest).Closed req.metaTaskId ∧ ∀ {id r'},
        (Run.after (next env) s₁ rest).board.subtask id = some r' →
        r'.metaTaskId = req.metaTaskId → ¬ReservedId id →
        ∃ r, s₁.board.subtask id = some r ∧ r'.state = r.state := by
      refine Run.invariant (I := fun s => s.Closed req.metaTaskId ∧ ∀ {id r'},
        s.board.subtask id = some r' → r'.metaTaskId = req.metaTaskId → ¬ReservedId id →
        ∃ r, s₁.board.subtask id = some r ∧ r'.state = r.state) (fun s c hc h => ?_) hrest
        ⟨hclosed, fun hr _ _ => ⟨_, hr, rfl⟩⟩
      obtain ⟨hclosed, hsame⟩ := h
      refine ⟨hclosed.next hc, fun {id r'} hr' hm hid => ?_⟩
      have htends : Tends s (next env s c) := next_tends hclosed.summed
      obtain ⟨r, hr, hstays⟩ := htends.kept hclosed.stopped hid hr' hm
      obtain ⟨r₁, hr₁, hmeta⟩ := htends.home hr
      obtain rfl : r₁ = r' := Option.some.inj (hr₁.symm.trans hr')
      obtain ⟨r₀, hr₀, hstate⟩ := hsame hr (hmeta.symm.trans hm) hid
      exact ⟨r₀, hr₀, hstays.1.trans hstate⟩
    refine ⟨hrest.1.shut, fun id r' hr' hm hkind => ?_⟩
    exact hrest.2 hr' hm fun hres => hkind (hrest.1.kept.named hr' hres)

end Runs

section Scripts

open Script

/-- Some work is created, its meta-task is cancelled, and another one is submitted. -/
def dropped : List Call :=
  Script.calls [(0, register "orch" .orchestrator), (1, submit (session 0)),
    (2, create (session 0) (metaTask 1) "a" .canonicalApply)]

def drop : Call := ⟨.cancelMetaTask ⟨session 0, metaTask 1, text "3"⟩, 3, uuid 3⟩

def resubmit : Call := ⟨submit (session 0) (text "4"), 4, uuid 4⟩

theorem dropped_run :
    Run.Along (next env) Call.Proper Db.init (dropped ++ [drop] ++ [resubmit]) ∧
      drop.Commits env (reach env dropped) := by
  decide +kernel

theorem cancelled_for_good_dropped :
    drop.Commits env (reach env dropped) ∧
      (reach env (dropped ++ [drop])).Shut (metaTask 1) ∧
      (reach env (dropped ++ [drop] ++ [resubmit])).Shut (metaTask 1) := by
  obtain ⟨hrun, hcommits⟩ := dropped_run
  obtain ⟨-, hshut, hshut', -⟩ := cancelled_for_good hrun hcommits rfl
  exact ⟨hcommits, hshut, hshut'⟩

/-- Work under the id of the cleanup subtask of a change that is ready to be archived. -/
def misnamedWork : List Call :=
  Script.calls (archivable ++ [(9, submit (session 0)),
    (9, create (session 0) (metaTask 12) "openspec:change:cleanup:archive" .canonicalApply)])

def dropMisnamed : Call := ⟨.cancelMetaTask ⟨session 0, metaTask 12, text "14"⟩, 9, uuid 14⟩

def beginMisnamed : Call := ⟨beginCleanup (session 0) (text "15"), 9, uuid 15⟩

/-- The cleanup of the change claims that work although its meta-task has been cancelled. -/
theorem cancelled_claimed :
    dropMisnamed.Commits env (reach env misnamedWork) ∧
      ((reach env (misnamedWork ++ [dropMisnamed] ++ [beginMisnamed])).subtasks.get?
        cleanupTask).map (fun r => (r.kind, r.metaTaskId)) = some (.work, metaTask 12) ∧
      (reach env (misnamedWork ++ [dropMisnamed] ++ [beginMisnamed])).claims.rows.any
        (fun c => c.subtaskId = cleanupTask ∧ c.state = .held) = true := by
  decide +kernel

end Scripts

end Covey

import Covey.Commits
import Covey.Dependencies
import Covey.Ops.Prose
import Covey.Script

/-!
# The prose current-work projection over runs

`record_prose_apply_blocker` writes its row under the caller's blocker id, and a row that is
already there keeps its taskset.

* `proseBlocker_shown`: a blocker under a new id shows up in the projection of its taskset, and in
  no other.
* `prose_applied_iff`: the projection reports a taskset as applied exactly if all its tasks are,
  for a taskset that went through the apply queue without a detour.
-/

namespace Covey

open Relational

variable {env : Env} {s s' : Db} {t : ProseTasksetId}

/-! ## Blockers -/

/-- The tables that the projection reads, those of the blockers apart. -/
def Db.proseTables (s : Db) :=
  (s.proseTasksets, s.proseSubtaskScopes, s.reviewFollowups, s.subtasks, s.readyQueue, s.reviews)

theorem loadProseCurrentWork_congr (h : s'.proseTables = s.proseTables)
    (hblockers : loadProseBlockers s' t = loadProseBlockers s t) :
    loadProseCurrentWork s' t = loadProseCurrentWork s t := by
  obtain ⟨htasksets, hscopes, hfollowups, hsubtasks, hqueue, hreviews⟩ : s'.proseTasksets =
      s.proseTasksets ∧ s'.proseSubtaskScopes = s.proseSubtaskScopes ∧
      s'.reviewFollowups = s.reviewFollowups ∧ s'.subtasks = s.subtasks ∧
      s'.readyQueue = s.readyQueue ∧ s'.reviews = s.reviews := by
    simpa only [Db.proseTables, Prod.mk.injEq] using h
  have hscope : proseScope s' t = proseScope s t := by
    unfold proseScope importedProseTasks
    rw [hscopes, hfollowups]
  have hstates : loadProseSubtaskStates s' t = loadProseSubtaskStates s t := by
    simp only [loadProseSubtaskStates, Table.select, hscope, hsubtasks]
  have hitems : loadProseQueueStates s' t = loadProseQueueStates s t := by
    simp only [loadProseQueueStates, Table.select, hscope, hqueue]
  have hverdicts : loadProseReviewStates s' t = loadProseReviewStates s t := by
    simp only [loadProseReviewStates, Table.select, hscope, hreviews]
  unfold loadProseCurrentWork
  rw [htasksets, hstates, hitems, hverdicts, hblockers]

/-- Whatever is recorded against a taskset blocks it. -/
theorem blocked_of_mem {row : ProseTasksetRow} (hrow : s.proseTasksets.get? t = some row)
    {b : ProseCurrentWorkBlocker} (hb : b ∈ loadProseBlockers s t) :
    ∃ w, loadProseCurrentWork s t = .ok w ∧ w.state = .blocked ∧ b ∈ w.blockers := by
  unfold loadProseCurrentWork
  rw [hrow]
  refine ⟨_, rfl, ?_, hb⟩
  show (classifyProseCurrentWork _ _ _ _).1 = _
  unfold classifyProseCurrentWork
  rw [if_pos (.inl (List.ne_nil_of_mem hb))]

theorem mem_loadProseBlockers {b : ProseCurrentWorkBlocker} : b ∈ loadProseBlockers s t ↔
    ∃ r ∈ s.proseApplyBlockers.rows, r.tasksetId = t ∧ r.shown = b := by
  simp only [loadProseBlockers, List.mem_map, List.mem_insertionSort, Table.mem_select, and_assoc]

/-- The row that a request records. -/
def RecordProseApplyBlockerReq.row (req : RecordProseApplyBlockerReq) (now : ℤ) :
    ProseApplyBlockerRow where
  blockerId := req.blockerId
  tasksetId := req.tasksetId
  queueId := req.queueId
  artifactDigest := req.artifactDigest
  reviewId := req.reviewId
  reason := req.reason
  detail := req.detail
  createdAt := now
  updatedAt := now

/-- Under a new id the row is appended. -/
theorem Call.Commits.recordsBlocker {req : RecordProseApplyBlockerReq} {now : ℤ} {uuids : ℕ → Uuid}
    (h : Call.Commits env s ⟨.recordProseApplyBlocker req, now, uuids⟩)
    (hnew : s.proseApplyBlockers.get? req.blockerId = none) :
    (s.proseTasksets.get? req.tasksetId).isSome ∧
      (next env s ⟨.recordProseApplyBlocker req, now, uuids⟩).proseApplyBlockers.rows =
        s.proseApplyBlockers.rows ++ [req.row now] := by
  obtain ⟨-, s₀, v, s₁, t, hs₀, hbody, hnext, -⟩ := h.mutation rfl rfl
  simp only [Tx.bind_ok, requireRole_ok, Tx.get_ok, Tx.ensure_ok, Tx.pure_ok, appendSessionEvent,
    appendEvent_ok, and_assoc, exists_and_left, exists_eq_left', Tx.exists_unit] at hbody
  obtain ⟨session, -, -, -, -, htaskset, -, s₂, hwrite, -, -, s₃, hevent, -, rfl⟩ := hbody
  rw [upsertInto_new (by rw [hs₀]; exact hnew)] at hwrite
  obtain ⟨blockers, hinsert, rfl⟩ := insertInto_ok.mp hwrite
  rw [hnext, hevent]
  subst hs₀
  exact ⟨htaskset, Table.insert_eq_some.mp hinsert⟩

namespace Script

def importProse (k : SessionToken) (id : String) (key : IdempotencyKey) : Operation :=
  .importProse ⟨k, text id, text id, text id, digest id, [text id], key⟩

def blockProse (k : SessionToken) (id name : String) (key : IdempotencyKey) : Operation :=
  .recordProseApplyBlocker ⟨k, text id, text name, none, none, none, text "r", text name, key⟩

/-- A blocker `b` against the taskset `t`, beside a taskset `u`. -/
def proseBlocked : List (ℤ × (IdempotencyKey → Operation)) :=
  [(0, register "orch" .orchestrator), (0, register "gate" .applyGate),
    (1, importProse (session 0) "t"), (1, importProse (session 0) "u"),
    (2, blockProse (session 1) "b" "t")]

end Script

/-! ## Applied tasksets -/

/-- Every imported task exists as a subtask. -/
def ProseTasksExist (s : Db) : Prop :=
  ∀ r ∈ s.proseSubtaskScopes.rows, (s.subtasks.get? r.subtaskId).isSome

theorem ProseTasksExist.of_touches {l : List TableName} (h : ProseTasksExist s)
    (hscopes : s'.proseSubtaskScopes = s.proseSubtaskScopes) (ht : Touches l s s') :
    ProseTasksExist s' := by
  intro r hr
  rw [hscopes] at hr
  obtain ⟨row, hrow⟩ := Option.isSome_iff_exists.mp (h r hr)
  obtain ⟨row', hrow', -⟩ := ht.subtasks _ _ hrow
  exact Option.isSome_of_eq_some hrow'

theorem importProseTask_tasksExist {req : ImportProseReq} {routingKey : RoutingKey}
    {metaTaskId : MetaTaskId} {now : ℤ} {item : SubtaskTitle × ℕ} {id : SubtaskId}
    (h : importProseTask req routingKey metaTaskId now item s = (.ok id, s'))
    (hexist : ProseTasksExist s) : ProseTasksExist s' := by
  simp only [importProseTask, Tx.bind_ok, Tx.lift_ok, Tx.pure_ok, and_assoc, exists_and_left,
    exists_eq_left', Tx.exists_unit] at h
  obtain ⟨key, -, id', s₁, hcreate, s₂, hinsert, rfl, rfl⟩ := h
  have htouches : Touches (.dependencies :: creationTables) s s₁ :=
    (createWorkSubtaskTx_emits (by decide)).touches.run hcreate
  have hexist := hexist.of_touches (htouches.same fun _ => rfl) htouches
  obtain ⟨scopes, hscopes, rfl⟩ := insertInto_ok.mp hinsert
  intro r hr
  rw [show (Rel.proseSubtaskScopes.set s₁ scopes).proseSubtaskScopes.rows = _ from
    Table.insert_eq_some.mp hscopes, List.mem_append, List.mem_singleton] at hr
  rcases hr with hr | rfl
  · exact hexist r hr
  · have hget := createWorkSubtaskTx_get? hcreate
    exact Option.isSome_of_eq_some hget

theorem importProse_tasksExist {req : ImportProseReq} {now : ℤ} {v : Response}
    (h : importProse env req now s = (.ok v, s')) (hexist : ProseTasksExist s) :
    ProseTasksExist s' := by
  obtain ⟨-, ⟨row, -, -, -, rfl⟩ | ⟨-, s₁, hbody, t, -, rfl⟩⟩ :=
    withIdempotentMutation_ok.mp (mutation_ok.mp h).2
  · exact hexist
  simp only [Tx.bind_ok, Tx.ensure_ok, requireRole_ok, Tx.pure_ok, and_assoc, exists_and_left,
    exists_eq_left', Tx.exists_unit] at hbody
  obtain ⟨-, _, -, -, -, -, m, s₂, hsubmit, s₃, hinsert, ids, _, htasks, -, rfl⟩ := hbody
  have hsubmit : Touches [.metaTasks, .events] s s₂ := (submitMetaTaskTx_emits (by decide)).touches.run hsubmit
  have hinsert : Touches [.proseTasksets] s₂ s₃ :=
    (insertInto_touches (fun _ _ => rfl) _).run hinsert
  have h₂ := hexist.of_touches (hsubmit.same fun _ => rfl) hsubmit
  have h₃ := h₂.of_touches (hinsert.same fun _ => rfl) hinsert
  have h₄ := Tx.Keeps.mapEach (R := Tx.Preserves ProseTasksExist)
    (fun _ _ _ _ _ h => importProseTask_tasksExist h) htasks h₃
  exact h₄

theorem next_proseTasksExist {c : Call} (h : ProseTasksExist s) : ProseTasksExist (next env s c) := by
  by_cases hop : .proseSubtaskScopes ∈ c.op.tables
  · by_cases hok : c.Succeeds env s
    · obtain ⟨v, s₀, rfl, hrun⟩ := hok.run
      cases hc : c.op with
      | importProse req =>
        rw [hc] at hrun
        exact importProse_tasksExist hrun h
      | _ =>
        rw [hc] at hop
        exact absurd hop (of_decide_eq_false rfl)
    · rw [next_of_failed hok]
      exact h
  · refine h.of_touches ?_ next_touches
    have htouch : Touches c.op.tables s (next env s c) := next_touches
    have hrows := congrArg Db.proseSubtaskScopes htouch.rows
    simpa only [Db.rows, Db.without, if_neg hop] using hrows

theorem reach_proseTasksExist {calls : List Call} : ProseTasksExist (reach env calls) :=
  Run.invariant_always (I := ProseTasksExist) (fun _ _ => next_proseTasksExist)
    fun _ hr => nomatch hr

/-- The work has been applied, itself or through a chain of follow-ups that repair it. -/
def AppliedByRepair (b : Board) (id : SubtaskId) : Prop :=
  ∃ x r, Relation.ReflTransGen (Repairs b) id x ∧ b.subtask x = some r ∧ r.state = .applied

theorem appliedByRepair_of_applied {id : SubtaskId} {r : SubtaskRow}
    (hr : s.subtasks.get? id = some r) (h : r.state = .applied) : AppliedByRepair s.board id :=
  ⟨id, r, .refl, hr, h⟩

/-- The taskset has gone through the apply queue without a detour: its queue rows, of which there
    is one, are all applied, and none of its tasks has a follow-up. -/
structure ProsePlain (s : Db) (t : ProseTasksetId) : Prop where
  queued : ∃ q ∈ s.readyQueue.rows, q.subtaskId ∈ proseScope s t
  applied : ∀ q ∈ s.readyQueue.rows, q.subtaskId ∈ proseScope s t → q.state = .applied
  unrepaired : ∀ f ∈ s.reviewFollowups.rows, f.sourceSubtaskId ∉ importedProseTasks s t

/-- The projection reports the taskset as applied. -/
def ReportedApplied (s : Db) (t : ProseTasksetId) : Prop :=
  ∃ w, loadProseCurrentWork s t = .ok w ∧ w.state = .applied

theorem reportedApplied_iff {row : ProseTasksetRow} (hrow : s.proseTasksets.get? t = some row)
    (hfree : ∀ r ∈ s.proseApplyBlockers.rows, r.tasksetId ≠ t) :
    ReportedApplied s t ↔ loadProseQueueStates s t ≠ [] ∧
      (∀ q ∈ loadProseQueueStates s t, q.state = .applied) ∧
      ∀ r ∈ loadProseSubtaskStates s t, r.state = .applied := by
  have hblockers : loadProseBlockers s t = [] := by
    refine List.eq_nil_iff_forall_not_mem.mpr fun b hb => ?_
    obtain ⟨r, hr, htask, -⟩ := mem_loadProseBlockers.mp hb
    exact hfree r hr htask
  have hstate : ReportedApplied s t ↔ (classifyProseCurrentWork (loadProseSubtaskStates s t)
      (loadProseQueueStates s t) (loadProseReviewStates s t) []).1 = .applied := by
    unfold ReportedApplied loadProseCurrentWork
    rw [hrow, hblockers]
    exact ⟨fun ⟨w, hw, happlied⟩ => by cases hw; exact happlied, fun h => ⟨_, rfl, h⟩⟩
  rw [hstate, classifyProseCurrentWork]
  constructor
  · intro h
    split_ifs at h with _ happlied <;> first | exact happlied | cases h
  · rintro h
    rw [if_neg, if_pos h]
    rintro (hne | ⟨r, hr, hstuck⟩)
    · exact hne rfl
    · rw [h.2.2 r hr] at hstuck
      rcases hstuck with h | h | h <;> cases h

/-- Subtasks without follow-ups have no chain of them. -/
theorem followupChain_of_none {rows : List ReviewFollowupRow} {sources : List SubtaskId} {n : ℕ}
    (h : ∀ f ∈ rows, f.sourceSubtaskId ∉ sources) : followupChain rows n sources = [] := by
  induction n generalizing sources with
  | zero => rfl
  | succ n ih =>
    have hnext : followupsOf rows sources = [] := by
      unfold followupsOf
      rw [List.filter_eq_nil_iff.mpr (by simpa using h), List.map_nil]
    rw [followupChain, hnext, List.nil_append]
    exact ih fun f _ => List.not_mem_nil

theorem mem_proseScope_of_imported {id : SubtaskId} (h : id ∈ importedProseTasks s t) :
    id ∈ proseScope s t :=
  List.mem_dedup.mpr (List.mem_append_left _ h)

/-- Without follow-ups the scope is the imported tasks. -/
theorem ProsePlain.mem_scope (h : ProsePlain s t) {id : SubtaskId} (hid : id ∈ proseScope s t) :
    id ∈ importedProseTasks s t := by
  rcases List.mem_append.mp (List.mem_dedup.mp hid) with hid | hid
  · exact hid
  · rw [followupChain_of_none h.unrepaired] at hid
    cases hid

namespace Script

/-- The first task of the taskset that call `n` imports. -/
def proseTask (n : ℕ) : SubtaskId := idAt .subtaskId "subtask" n 1

/-- The only task of a taskset is settled by an approved report, which is not queued for apply. -/
def proseReported : List (ℤ × (IdempotencyKey → Operation)) :=
  [(0, register "orch" .orchestrator), (0, register "exec" .executor),
    (0, register "rev" .reviewer), (1, importProse (session 0) "t")] ++
    approval 4 2 (proseTask 3) .findingsBundle (digest "a") "review"

/-- The only task of a taskset goes through the apply queue. -/
def proseLanded : List (ℤ × (IdempotencyKey → Operation)) :=
  staffed ++ [(1, importProse (session 0) "t")] ++
    approval 8 2 (proseTask 7) .patchBundle (digest "a") "review" ++
    landing 15 3 (digest "a") (review 11)

end Script

end Covey

import Covey.Refine.Session
import Covey.Refine.Work

/-!
# Artifacts and reviews refine the moves

* `enqueueApprovedSubtaskForApply_moves`: entering the apply queue.
* `followupBlocks_moves`: repair follow-ups are revived and created.
* `publishArtifact_moves`, `requestReview_moves`.
* `decideReview_moves`: the reviewer's claim is closed, and the verdict moves the
  reviewed work; only a `blocked` verdict on work that is still claimed takes the
  label `strand`.
* `recordPermissiveLandingReceipt_moves`.
-/

namespace Covey

open Relational

variable {L : Set Write} {now : ℤ} {s s' : Db} {u : Unit} {v : Response} {n : ℕ}

/-! ## Entering the apply queue -/

/-- The unique index of the queue: a new open row is the only one of its subtask. -/
theorem insertQueue_alone {q : ReadyQueueRow} (hopen : q.isOpen)
    (h : insertInto Rel.readyQueue q s = (.ok u, s')) :
    ∀ k q', s.board.queue k = some q' → q'.isOpen → q'.subtaskId ≠ q.subtaskId := by
  intro k q' hq' hopen' hsub
  obtain ⟨t, hinsert, -⟩ := insertInto_ok.mp h
  have hclash := Table.clash_of_insert hinsert (Table.mem_of_get? hq')
  simp [readyQueueSchema, hsub, hopen, hopen'] at hclash

theorem insertReadyQueueItem_moves {k : SessionToken} {id : SubtaskId} {digest : ArtifactDigest}
    {key : String} {found : Option QueueId} {r : SubtaskRow} (hL : .declared ∈ L)
    (hr : s.board.subtask id = some r) (hpolicy : r.completionPolicy = .canonicalApply)
    (hready : r.state = .readyForApply) (hdigest : r.artifactDigest = some digest)
    (h : insertReadyQueueItem k id digest now key s = (.ok found, s')) : Moves L now s s' := by
  simp only [insertReadyQueueItem, Tx.bind_ok, activeQueueIdForArtifact_ok] at h
  obtain ⟨active, _, ⟨-, rfl⟩, h⟩ := h
  cases active with
  | some _ =>
    obtain ⟨-, rfl⟩ := Tx.pure_ok.mp h
    exact .refl s
  | none =>
    simp only [Tx.bind_ok, Tx.lift_ok, Tx.pure_ok, and_assoc, exists_and_left, exists_eq_left',
      Tx.exists_unit] at h
    obtain ⟨queueId, s₁, hid, s₂, hins, _, -, s₃, hevent, -, rfl⟩ := h
    have hid := freshId_sameBoard hid
    obtain ⟨hnew, hb⟩ := insertQueue_board hins
    have hstep : Moves L now s₁ s₂ := by
      rw [Moves, hb]
      refine Steps.ledger hL (.enqueue hnew rfl rfl ?_ hpolicy hready hdigest
        (insertQueue_alone (.inl rfl) hins))
      rw [hid]
      exact hr
    exact (hid.moves.trans hstep).trans (appendSessionEvent_sameBoard hevent).moves

/-- An approved subtask becomes ready for apply, and its older queue rows are superseded. -/
theorem enqueueApprovedSubtaskForApply_moves {k : SessionToken} {id : SubtaskId}
    {digest : ArtifactDigest} {key : String} {found : Option QueueId} (hL : .declared ∈ L)
    (h : enqueueApprovedSubtaskForApply k id digest now key s = (.ok found, s')) :
    Moves L now s s' := by
  simp only [enqueueApprovedSubtaskForApply, Tx.bind_ok, loadSubtask_ok, Tx.lift_ok,
    requireCanonicalApplyPolicy_ok, ensureApplyableArtifact_ok, and_assoc, exists_and_left,
    exists_eq_left', Tx.exists_unit] at h
  obtain ⟨r, hr, hloads, hpolicy, -, _, s₁, hqueue, n, s₂, hready, h⟩ := h
  obtain ⟨g, hg, hb₁⟩ := updateQueue_board hqueue
    (fun q hq => .vacate hq.2 (.inr (.inl rfl))) fun _ => rfl
  have hr₁ : s₁.board.subtask id = some r := by
    rw [hb₁]
    exact hr
  have hsuper : Moves L now s s₁ := by
    rw [Moves, hb₁]
    exact Steps.ledger hL (.queue hg)
  obtain ⟨hfound, hb₂⟩ := updateSubtask_board hready fun _ => rfl
  rw [modify_of_some hr₁] at hb₂
  have hedit : Moves L now s₁ s₂ := by
    refine Steps.edit_at hL (fun r' hr' => ?_) (updateSubtask_board hready fun _ => rfl).2
    obtain rfl : r = r' := Option.some.inj (hr₁.symm.trans hr')
    split_ifs with hq
    · refine .inr (.advance ?_ hloads ?_ hpolicy)
      · rw [hloads.work (.inl hq.1)]
        rfl
      · rw [hq.1, hloads.work (.inl hq.1)]
        rfl
    · exact .inl rfl
  refine (hsuper.trans hedit).trans ?_
  split_ifs at h with hnone
  · simp only [Tx.bind_ok, Tx.get_ok, and_assoc, exists_and_left, exists_eq_left'] at h
    split_ifs at h
    · obtain ⟨-, rfl⟩ := Tx.pure_ok.mp h
      exact .refl _
    · simp at h
  · obtain ⟨r', hr', happroved⟩ := hfound hnone
    obtain rfl : r = r' := Option.some.inj (hr₁.symm.trans hr')
    rw [if_pos happroved] at hb₂
    have hr₂ : s₂.board.subtask id = some { r with state := .readyForApply, updatedAt := now } := by
      rw [hb₂]
      exact put_self
    exact insertReadyQueueItem_moves hL hr₂ hpolicy rfl happroved.2 h

theorem recordArchiveBlocker_sameBoard {k : SessionToken} {statusId : String} {id : SubtaskId}
    {digest : ArtifactDigest} {key : String} :
    Tx.Keeps SameBoard (recordArchiveBlocker k statusId id digest now key) := by
  refine .bind .get fun s₀ => ?_
  cases openspecChangeIdForSubtask s₀ id with
  | none => exact .pure _
  | some changeId =>
    refine .bind (.lift _) fun _ => .bind (.lift _) fun _ => .bind (.lift _) fun _ =>
      .bind (sameBoard_of_readOnly lookup_readOnly) fun existing => ?_
    cases existing with
    | some _ => exact .ensure _ _
    | none => exact .bind (insertInto_sameBoard (fun _ _ => rfl) _) fun _ =>
        appendSessionEvent_sameBoard

/-! ## Repair follow-ups -/

/-- The follow-up of a failed review, whose work may have moved on since it was read. -/
theorem createReviewFollowupSubtask_moves {source r : SubtaskRow} {digest : ArtifactDigest}
    {findings : FindingsDigest} {k : SessionToken} (review : ReviewRow) {id : SubtaskId}
    (hL : .declared ∈ L) (hreview : s.board.review review.reviewId = some review)
    (hfailed : review.isFailed) (hof : review.subtaskId = source.subtaskId)
    (hr : s.board.subtask source.subtaskId = some r) (hsame : source.Bequeaths r)
    (h : createReviewFollowupSubtask source digest findings k review.reviewId now s =
      (.ok id, s')) : Moves L now s s' := by
  simp only [createReviewFollowupSubtask, Tx.bind_ok, lookup_ok, Tx.lift_ok, Tx.pure_ok, and_assoc,
    exists_and_left, exists_eq_left', Tx.exists_unit] at h
  obtain ⟨_, s₁, hid, title, -, s₂, hins, s₃, hfollow, rfl, rfl⟩ := h
  have hfree := not_reserved_of_makeId (freshId_ok.mp hid).1
  have hsame₁ : SameBoard s s₁ := freshId_sameBoard hid
  obtain ⟨habsent, -, hb₂⟩ := insertSubtask_board hins
  have hins : Moves L now s₁ s₂ := insertSubtask_moves ⟨rfl, rfl, rfl, rfl, rfl⟩ (by simp) hL
    (fun hres => absurd hres hfree) hins
  obtain ⟨hnew, hb⟩ := insertFollowup_board hfollow
  have hclash := insertFollowup_unlinked hfollow
  have hfollow : Moves L now s₂ s₃ := by
    rw [Moves, hb]
    have hrepair := congrFun (congrArg (fun b : Board => b.subtask) hb₂) _ |>.trans put_self
    refine Steps.ledger hL (.followup (r := r) hnew ?_ hfailed hof ?_ hrepair rfl rfl
      ⟨hsame.metaTask.symm, hsame.policy.symm, hsame.lane.symm, hsame.priority.symm⟩ hclash)
    · rw [hb₂, hsame₁]
      exact hreview
    · rw [hb₂]
      refine put_of_new habsent ?_
      rw [hsame₁]
      exact hr
  exact ((freshId_sameBoard hid).moves.trans hins).trans hfollow

/-- Reviving one follow-up after the other. -/
theorem reviveEach_moves {ids : List SubtaskId} (hL : .revive ∈ L)
    (hids : ∀ id ∈ ids, (∃ r, s.board.subtask id = some r ∧ r.kind = .work) ∧
      ∃ k f, s.board.followup k = some f ∧ f.followupSubtaskId = id)
    (h : Tx.forEach ids (fun followupSubtaskId => do
      let _ ← updateIn Rel.subtasks
        (fun r => r.subtaskId = followupSubtaskId ∧ r.isRevivable) fun r =>
        { r with state := .available, updatedAt := now }
      pure ()) s = (.ok u, s')) : Moves L now s s' := by
  induction ids generalizing s with
  | nil =>
    obtain ⟨-, rfl⟩ := Tx.pure_ok.mp h
    exact .refl s
  | cons id ids ih =>
    simp only [Tx.forEach_cons_ok, Tx.bind_ok, Tx.pure_ok] at h
    obtain ⟨_, ⟨n, s₁, hupd, -, rfl⟩, hrest⟩ := h
    have hb := (updateSubtask_board hupd fun _ => rfl).2
    obtain ⟨⟨r, hr, hkind⟩, k, f, hf, hfollow⟩ := hids id List.mem_cons_self
    have hstep : Moves L now s s₁ := by
      refine Steps.edit_at hL (fun r' hr' => ?_) hb
      obtain rfl : r = r' := Option.some.inj (hr.symm.trans hr')
      have hkey : r.subtaskId = id := Table.key_of_get? hr
      split_ifs with hq
      · exact .inr (.revive hkind hq ⟨k, f, hf, hfollow.trans hkey.symm⟩)
      · exact .inl rfl
    refine hstep.trans (ih (fun id' hid' => ?_) hrest)
    obtain ⟨⟨r', hr', hkind'⟩, hf'⟩ := hids id' (List.mem_cons_of_mem _ hid')
    obtain ⟨r'', hr'', hsame⟩ := hstep.evolves.subtask hr'
    refine ⟨⟨r'', hr'', hsame.kind.trans hkind'⟩, ?_⟩
    obtain ⟨k', f', hf', hid'⟩ := hf'
    exact ⟨k', f', hstep.evolves.followup hf', hid'⟩

theorem reviveAbandonedReviewFollowups_moves {ids : List SubtaskId} (hL : .revive ∈ L)
    (h : reviveAbandonedReviewFollowups now s = (.ok ids, s')) : Moves L now s s' := by
  simp only [reviveAbandonedReviewFollowups, Tx.bind_ok, Tx.get_ok, Tx.pure_ok, and_assoc,
    exists_and_left, exists_eq_left', Tx.exists_unit] at h
  obtain ⟨_, hloop, rfl, rfl⟩ := h
  refine reviveEach_moves hL (fun id hid => ?_) hloop
  obtain ⟨r, hr, rfl⟩ := List.mem_map.mp hid
  rw [List.mem_insertionSort, Table.mem_select] at hr
  obtain ⟨hmem, hkind, -, f, hf, hfollow, -⟩ := hr
  exact ⟨⟨r, Table.get?_key hmem, hkind⟩, f.reviewId, f, Table.get?_key hf, hfollow⟩

/-- The follow-ups of failed reviews, created one after the other. -/
theorem createFollowups_moves {k : SessionToken} {rows : List ReviewRow} {ids : List SubtaskId}
    (hL : .declared ∈ L)
    (hrows : ∀ row ∈ rows, s.board.review row.reviewId = some row ∧ row.isFailed)
    (h : Tx.mapEach rows (fun row => do
      let review ← loadReview row.reviewId
      let source ← loadSubtask review.subtaskId
      match review.findingsDigest with
      | none =>
        Tx.fail (.illegalTransition (.review review.state) (.subtask .available) .subtask)
      | some findingsDigest =>
        createReviewFollowupSubtask source review.artifactDigest findingsDigest k
          review.reviewId now) s = (.ok ids, s')) : Moves L now s s' := by
  induction rows generalizing s ids with
  | nil =>
    obtain ⟨-, rfl⟩ := Tx.mapEach_nil.mp h
    exact .refl s
  | cons row rows ih =>
    obtain ⟨id, s₁, hcreate, rest, hrest, -⟩ := Tx.mapEach_cons_ok.mp h
    simp only [Tx.bind_ok, loadReview_ok, loadSubtask_ok, and_assoc, exists_and_left,
      exists_eq_left'] at hcreate
    obtain ⟨review, hreview, -, source, hsource, -, hcreate⟩ := hcreate
    obtain ⟨hrow, hfailed⟩ := hrows row List.mem_cons_self
    obtain rfl : row = review := Option.some.inj (hrow.symm.trans hreview)
    cases hfindings : row.findingsDigest with
    | none => simp [hfindings] at hcreate
    | some findings =>
      simp only [hfindings] at hcreate
      have hkey : source.subtaskId = row.subtaskId := Table.key_of_get? hsource
      have hstep : Moves L now s s₁ := createReviewFollowupSubtask_moves _ hL hrow hfailed
        hkey.symm (hkey ▸ hsource) ⟨rfl, rfl, rfl, rfl⟩ hcreate
      refine hstep.trans (ih (fun row' hmem => ?_) hrest)
      obtain ⟨hrow', hfailed'⟩ := hrows row' (List.mem_cons_of_mem _ hmem)
      obtain ⟨row'', hrow'', -, hsame⟩ := hstep.evolves.review hrow'
      rw [hsame hfailed'.1] at hrow''
      exact ⟨hrow'', hfailed'⟩

theorem followupBlocks_moves {k : SessionToken} {ids : List SubtaskId} (hdecl : .declared ∈ L)
    (hL : .revive ∈ L) (h : ensureChangesRequestedFollowupBlocks k now s = (.ok ids, s')) :
    Moves L now s s' := by
  simp only [ensureChangesRequestedFollowupBlocks, Tx.bind_ok, Tx.get_ok, Tx.pure_ok, and_assoc,
    exists_and_left, exists_eq_left'] at h
  obtain ⟨revived, s₁, hrevive, created, s₂, hcreate, -, rfl⟩ := h
  refine (reviveAbandonedReviewFollowups_moves hL hrevive).trans
    (createFollowups_moves hdecl (fun row hrow => ?_) hcreate)
  rw [List.mem_insertionSort, Table.mem_select] at hrow
  exact ⟨Table.get?_key hrow.1, hrow.2.1⟩

theorem reconcileChangesRequestedFollowups_moves {req : ReconcileChangesRequestedFollowupsReq}
    (hdecl : .declared ∈ L) (hL : .revive ∈ L)
    (h : reconcileChangesRequestedFollowups req now s = (.ok v, s')) : Moves L now s s' := by
  refine mutation_moves (fun {v s₁} h => ?_) h
  simp only [Tx.bind_ok, requireRole_ok, Tx.pure_ok, and_assoc, exists_and_left,
    exists_eq_left'] at h
  obtain ⟨_, -, -, -, -, _, _, hblocks, -, rfl⟩ := h
  exact followupBlocks_moves hdecl hL hblocks

/-! ## Publishing and requesting a review -/

/-- Pointing work at a published artifact. -/
theorem setPublishedArtifact_moves {r : SubtaskRow} {digest : ArtifactDigest} (hL : .review ∈ L)
    (hr : s.board.subtask r.subtaskId = some r) (hloads : r.Loads) (hkind : r.kind = .work)
    (hpolicy : r.completionPolicy ≠ .direct)
    (hallowed : r.kind.allows r.state .artifactPublished = true)
    (h : setPublishedArtifact r digest now s = (.ok n, s')) : Moves L now s s' := by
  refine Steps.edit_at hL (fun r' hr' => ?_) (updateSubtask_board h fun _ => rfl).2
  obtain rfl : r = r' := Option.some.inj (hr.symm.trans hr')
  rw [if_pos rfl]
  exact .inr (.publish hloads hkind hpolicy hallowed)

theorem publishArtifact_moves {req : PublishArtifactReq} (hL : .declared ∈ L)
    (hround : .review ∈ L) (h : publishArtifact req now s = (.ok v, s')) : Moves L now s s' := by
  refine leasedMutation_moves (fun {n s₀ v s₁} _ h => ?_) h
  simp only [Tx.bind_ok, Tx.lift_ok, requireCurrentClaim_ok, requireActiveSession_ok, loadSubtask_ok,
    ensureMetaTaskIsSchedulable_ok, requireSessionCanClaimKind_ok, Tx.ensure_ok,
    ensureArtifactAllowedForPolicy_ok, lookup_ok, and_assoc, exists_and_left, exists_eq_left',
    Tx.exists_unit] at h
  obtain ⟨-, -, -, -, -, -, claim, -, -, -, -, -, -, _, hσ, -, -, r, hr, hloads, -, hrole, hkind, hallow, h⟩ := h
  have hkey : r.subtaskId = claim.subtaskId := Table.key_of_get? hr
  have hr : s₀.board.subtask r.subtaskId = some r := hkey ▸ hr
  have hpolicy : r.completionPolicy ≠ .direct := by
    rcases hallow with h | ⟨h, -⟩ <;> simp [h]
  cases hfound : (Rel.artifacts.get s₀).get? req.artifactDigest with
  | some existing =>
    simp only [hfound, Tx.bind_ok, Tx.ensure_ok, and_assoc, exists_and_left, exists_eq_left',
      Tx.exists_unit] at h
    obtain ⟨-, -, -, -, h⟩ := h
    split_ifs at h
    · obtain ⟨-, rfl⟩ := Tx.pure_ok.mp h
      exact .refl s₀
    · simp only [Tx.bind_ok, Tx.lift_ok, ensureSubtaskTransition_ok, Tx.pure_ok, and_assoc,
        exists_and_left, exists_eq_left', Tx.exists_unit] at h
      obtain ⟨htrans, _, _, hset, -, rfl⟩ := h
      exact setPublishedArtifact_moves hround hr hloads hkind hpolicy htrans hset
  | none =>
    simp only [hfound, Tx.bind_ok, Tx.lift_ok, ensureSubtaskTransition_ok,
      ensureArtifactDigestUnused_ok, Tx.ensure_ok, Tx.pure_ok, and_assoc, exists_and_left,
      exists_eq_left', Tx.exists_unit] at h
    obtain ⟨htrans, -, s₂, hins, _, s₃, hreviews, _, s₄, hset, -, s₅, hevent, -, rfl⟩ := h
    obtain ⟨hnew, hb⟩ := insertArtifact_board hins
    have hins : Moves L now s₀ s₂ := by
      rw [Moves, hb]
      exact Steps.ledger hL (.artifact hnew hr hpolicy ⟨_, hσ, by rw [hrole, hkind]; rfl⟩)
    obtain ⟨g, hg, hb₃⟩ := updateReviews_board hreviews (fun review hopen => .inr ⟨fun hdec => by
      simp [ReviewRow.isOpen, hdec] at hopen, by simp, ⟨rfl, rfl, rfl, rfl⟩⟩) fun _ => rfl
    have hreviews : Moves L now s₂ s₃ := by
      rw [Moves, hb₃]
      exact Steps.ledger hround (.reviews hg)
    have hr₃ : s₃.board.subtask r.subtaskId = some r := by
      rw [hb₃, hb]
      exact hr
    exact ((hins.trans hreviews).trans
      (setPublishedArtifact_moves hround hr₃ hloads hkind hpolicy htrans hset)).trans
      (appendSessionEvent_sameBoard hevent).moves

theorem requestReview_moves {req : RequestReviewReq} (hL : .review ∈ L)
    (hname : ∀ id, req.reviewSubtaskId = some id → ReservedId id → .misname ∈ L)
    (h : requestReview req now s = (.ok v, s')) : Moves L now s s' := by
  refine mutation_moves (fun {v s₁} h => ?_) h
  simp only [Tx.bind_ok, requireActiveSession_ok, Tx.lift_ok, requireSessionCanRequestReview,
    requireSessionRole_ok, loadSubtask_ok, Tx.ensure_ok, requireReviewPolicy_ok,
    ensureMetaTaskIsSchedulable_ok, ensureArtifactExists_ok, ensureNoOpenReviewRound_ok,
    ensureSubtaskTransition_ok, subtaskExists_ok, Tx.pure_ok, and_assoc, exists_and_left,
    exists_eq_left', Tx.exists_unit] at h
  obtain ⟨_, -, -, -, -, -, -, r, hr, hloads, hkind, hpolicy, -, hdigest, -, -, htrans, id, s₂, hid, -, -, title,
    -, s₃, hins, reviewId, s₄, hrid, s₅, hreview, _, s₆, hupd, -, s₇, hevent, -, rfl⟩ := h
  obtain ⟨hid, hreq⟩ := requestedSubtaskId_board hid
  have hr : s.board.subtask req.subtaskId = some r := hr
  obtain ⟨habsent, -, hb₃⟩ := insertSubtask_board hins
  have hins : Moves L now s₂ s₃ := insertSubtask_moves ⟨rfl, rfl, rfl, rfl, rfl⟩ (by simp) hL
    (fun hres => hname _ (hreq hres) hres) hins
  have hr₂ : s₂.board.subtask req.subtaskId = some r := by
    rw [hid]
    exact hr
  have hr₄ : s₄.board.subtask req.subtaskId = some r := by
    rw [freshId_sameBoard hrid, hb₃]
    exact put_of_new habsent hr₂
  obtain ⟨hnew, hb₅⟩ := insertReview_board hreview
  have hreview : Moves L now s₄ s₅ := by
    rw [Moves, hb₅]
    exact Steps.ledger hL (.review hnew rfl hr₄ hpolicy hdigest)
  have hr₅ : s₅.board.subtask req.subtaskId = some r := by
    rw [hb₅]
    exact hr₄
  have hedit : Moves L now s₅ s₆ := by
    refine Steps.edit_at hL (fun r' hr' => ?_) (updateSubtask_board hupd fun _ => rfl).2
    obtain rfl : r = r' := Option.some.inj (hr₅.symm.trans hr')
    split_ifs
    · exact .inr (.advance (by rw [hkind]; rfl) hloads htrans trivial)
    · exact .inl rfl
  exact ((((hid.moves.trans hins).trans (freshId_sameBoard hrid).moves).trans hreview).trans
    hedit).trans (appendSessionEvent_sameBoard hevent).moves

/-! ## Deciding -/

/-- What `loadReviewContext` has established of what it read. -/
structure ReviewContext.Loaded (s : Db) (session : SessionRow) (k : SessionToken)
    (reviewId : ReviewId) (claimId : ClaimId) (fence : FenceSeq) (leaseNow : ℤ)
    (ctx : ReviewContext) : Prop where
  claim : s.board.claim claimId = some ctx.claim
  owner : ctx.claim.ownerSessionToken = k
  fenced : ctx.claim.fenceSeq = fence.val
  held : ctx.claim.state = .held
  lease : leaseNow < ctx.claim.leaseDeadline
  review : s.board.review reviewId = some ctx.review
  onReview : ctx.claim.subtaskId = ctx.review.reviewSubtaskId
  reviewSubtask : s.board.subtask ctx.review.reviewSubtaskId = some ctx.reviewSubtask
  reviewLoads : ctx.reviewSubtask.Loads
  artifact : s.board.artifact ctx.review.artifactDigest = some ctx.artifact
  separated : ∃ producer, s.board.session ctx.artifact.producedBySession = some producer ∧
    producer.agentPrincipalId ≠ session.agentPrincipalId
  work : s.board.subtask ctx.review.subtaskId = some ctx.workSubtask
  loads : ctx.workSubtask.Loads
  digest : ctx.workSubtask.artifactDigest = some ctx.review.artifactDigest
  started : ctx.review.state = .inProgress

theorem loadReviewContext_ok {session : SessionRow} {k : SessionToken} {reviewId : ReviewId}
    {claimId : ClaimId} {fence : FenceSeq} {leaseNow : ℤ}
    {checkReview : ReviewRow → Except CoveyError Unit}
    {checkWork : SubtaskRow → Except CoveyError Unit} {ctx : ReviewContext}
    (h : loadReviewContext session k reviewId claimId fence leaseNow checkReview checkWork s =
      (.ok ctx, s')) :
    s' = s ∧ ctx.Loaded s session k reviewId claimId fence leaseNow ∧
      checkReview ctx.review = .ok () ∧ checkWork ctx.workSubtask = .ok () := by
  simp only [loadReviewContext, Tx.bind_ok, requireCurrentClaim_ok, loadReview_ok, Tx.ensure_ok,
    Tx.lift_ok, loadSubtask_ok, ensureMetaTaskIsSchedulable_ok, requireSessionCanClaimKind_ok,
    loadArtifact_ok, loadSession_ok, and_assoc, exists_and_left, exists_eq_left',
    Tx.exists_unit] at h
  obtain ⟨-, claim, hclaim, -, howner, hfence, hheld, hlease, review, hreview, -, honReview, hcheckR,
    reviewSubtask, hreviewSubtask, hreviewLoads, -, -, artifact, hartifact, producer, hproducer, -, hsep, work,
    hwork, hloads, hcheckW, h⟩ := h
  cases hdigest : work.artifactDigest with
  | none => simp [hdigest] at h
  | some current =>
    simp only [hdigest, Tx.bind_ok, Tx.ensure_ok, Tx.lift_ok, ensureReviewTransition_ok, Tx.pure_ok,
      and_assoc, exists_and_left, exists_eq_left', Tx.exists_unit] at h
    obtain ⟨rfl, htrans, rfl, rfl⟩ := h
    refine ⟨rfl, ⟨hclaim, howner, hfence, hheld, hlease, hreview, honReview, hreviewSubtask,
      hreviewLoads, hartifact, ⟨producer, hproducer, hsep⟩, hwork, hloads, hdigest, ?_⟩, hcheckR,
      hcheckW⟩
    cases hstate : review.state <;> simp [hstate, ReviewState.allows] at htrans ⊢

/-- The review as a verdict leaves it. -/
def ReviewRow.decide (r : ReviewRow) (k : SessionToken) (verdict : ReviewVerdict)
    (findings : FindingsDigest) (now : ℤ) : ReviewRow :=
  { r with reviewerSession := k, verdict := some verdict, findingsDigest := some findings,
           state := .decided, updatedAt := now }

theorem SubtaskKind.review_of_allows_decided {kind : SubtaskKind} {state : SubtaskState}
    (h : kind.allows state .decided = true) : kind = .review := by
  cases kind <;> cases state <;> simp [SubtaskKind.allows] at h ⊢

/-- The reviewer's side of a decision: the review is decided, its subtask and its claim are
    closed, and no other subtask changes. -/
theorem closeReview_moves {session : SessionRow} {k : SessionToken} {reviewId : ReviewId}
    {claimId : ClaimId} {fence : FenceSeq} {leaseNow : ℤ} {ctx : ReviewContext}
    {verdict : ReviewVerdict} {findings : FindingsDigest} (hround : .review ∈ L)
    (hverdict : .verdict ∈ L) (hctx : ctx.Loaded s session k reviewId claimId fence leaseNow)
    (hreviewer : s.board.ActsAs k .reviewer)
    (h : closeReview ctx k verdict findings now s = (.ok u, s')) :
    Moves L now s s' ∧ s'.board.review reviewId = some (ctx.review.decide k verdict findings now) ∧
      s'.board.artifact = s.board.artifact ∧ ctx.reviewSubtask.kind = .review ∧
      ∀ id, id ≠ ctx.review.reviewSubtaskId → s'.board.subtask id = s.board.subtask id := by
  simp only [closeReview, Tx.bind_ok, Tx.ensure_ok, Tx.lift_ok, ensureSubtaskTransition_ok,
    and_assoc, exists_and_left, exists_eq_left', Tx.exists_unit] at h
  obtain ⟨_, s₁, hreview, -, htrans, _, s₂, hsubtask, -, s₃, hclose, hclear⟩ := h
  have hrkey : ctx.review.reviewId = reviewId := Table.key_of_get? hctx.review
  have hskey : ctx.reviewSubtask.subtaskId = ctx.review.reviewSubtaskId :=
    Table.key_of_get? hctx.reviewSubtask
  have hckey : ctx.claim.claimId = claimId := Table.key_of_get? hctx.claim
  rw [hrkey] at hreview
  have hb₁ : s₁.board = { s.board with
      review := put s.board.review reviewId (ctx.review.decide k verdict findings now) } := by
    rw [(updateReview_board hreview fun _ => rfl).2, modify_of_some hctx.review, if_pos rfl]
    rfl
  have hb₂ := (updateSubtask_board hsubtask fun _ => rfl).2
  obtain ⟨row, hrow, hheld, hb₃⟩ := closeClaimAndDetach_board hclose
  have hb₄ := clearSessionActiveSubtask_board hclear
  have hrow₁ : s₁.board.claim ctx.claim.claimId = some row := by
    rw [hb₂] at hrow
    exact hrow
  obtain rfl : ctx.claim = row := by
    rw [hb₁, hckey] at hrow₁
    exact Option.some.inj (hctx.claim.symm.trans hrow₁)
  have hr₁ : s₁.board.subtask ctx.claim.subtaskId = some ctx.reviewSubtask := by
    rw [hb₁, hctx.onReview]
    exact hctx.reviewSubtask
  refine ⟨?_, ?_, ?_, SubtaskKind.review_of_allows_decided htrans, ?_⟩
  · have hdecided : Steps L now s.board s₁.board := by
      rw [hb₁, ← hrkey]
      refine Steps.ledger hverdict (.verdict (hrkey ▸ hctx.review) ?_ ⟨rfl, rfl, rfl, rfl⟩ hreviewer)
      rw [hctx.started]
      decide
    refine hdecided.trans (Steps.close (c := ctx.claim) .released
      (fun r => { r with state := .decided, currentClaimId := none, updatedAt := now })
      (fun _ => True) hround hrow₁ hheld (by simp) ?_ (fun _ _ => trivial) ?_)
    · intro r hr _
      obtain rfl : ctx.reviewSubtask = r := Option.some.inj (hr₁.symm.trans hr)
      exact .decide hctx.reviewLoads htrans
    · rw [hskey, ← hctx.onReview, modify_of_some hr₁] at hb₂
      rw [hb₄, hb₃, hb₂, modify_of_some hr₁, hctx.owner]
      simp only [and_true, if_true]
  · rw [hb₄, hb₃, hb₂, hb₁]
    exact put_self
  · rw [hb₄, hb₃, hb₂, hb₁]
  · intro id hid
    rw [hb₄, hb₃, hb₂, hb₁]
    exact modify_of_ne (hskey ▸ hid)

/-- The decided review is an approval of the work's artifact by another principal. -/
theorem ReviewContext.Loaded.approval {s₁ : Db} {session : SessionRow} {k : SessionToken}
    {reviewId : ReviewId} {claimId : ClaimId} {fence : FenceSeq} {leaseNow : ℤ}
    {ctx : ReviewContext} {findings : FindingsDigest}
    (hctx : ctx.Loaded s session k reviewId claimId fence leaseNow)
    (hsession : s.board.session k = some session) (hmoves : Moves L now s s₁)
    (hreview : s₁.board.review reviewId = some (ctx.review.decide k .approve findings now))
    (hartifact : s₁.board.artifact = s.board.artifact) :
    Approval s₁.board ctx.review.subtaskId ctx.review.artifactDigest
      (ctx.review.decide k .approve findings now) where
  recorded := by
    have hkey : ctx.review.reviewId = reviewId := Table.key_of_get? hctx.review
    exact hkey ▸ hreview
  ofSubtask := rfl
  ofDigest := rfl
  decided := rfl
  approved := rfl
  separated := by
    obtain ⟨producer, hproducer, hsep⟩ := hctx.separated
    obtain ⟨producer', hproducer', hprin, -⟩ := hmoves.evolves.session hproducer
    obtain ⟨reviewer, hreviewer, hprin', -⟩ := hmoves.evolves.session hsession
    refine ⟨ctx.artifact, producer', reviewer, ?_, hproducer', hreviewer, ?_⟩
    · rw [hartifact]
      exact hctx.artifact
    · rw [hprin, hprin']
      exact hsep

/-- The reviewed work is not the review subtask: a review makes none of the transitions that
    a verdict asks of the work. -/
theorem ReviewContext.Loaded.work_ne_review {session : SessionRow} {k : SessionToken}
    {reviewId : ReviewId} {claimId : ClaimId} {fence : FenceSeq} {leaseNow : ℤ}
    {ctx : ReviewContext} {target : SubtaskState}
    (hctx : ctx.Loaded s session k reviewId claimId fence leaseNow)
    (hkind : ctx.reviewSubtask.kind = .review)
    (hallowed : ctx.workSubtask.kind.allows ctx.workSubtask.state target = true)
    (hreview : SubtaskKind.review.allows ctx.reviewSubtask.state target = false) :
    ctx.review.subtaskId ≠ ctx.review.reviewSubtaskId := by
  intro heq
  have hsame : some ctx.reviewSubtask = some ctx.workSubtask := by
    rw [← hctx.reviewSubtask, ← hctx.work, heq]
  rw [← Option.some.inj hsame, hkind, hreview] at hallowed
  cases hallowed

/-- Work that carries an artifact can only be applied as work. -/
theorem SubtaskRow.Loads.work_of_applied {r : SubtaskRow} (h : r.Loads)
    (hdigest : r.artifactDigest.isSome) (hallowed : r.kind.allows r.state .applied = true) :
    r.kind = .work := by
  have hlife := (SubtaskRow.loads_iff.mp h).1
  cases hk : r.kind with
  | work => rfl
  | review => cases hs : r.state <;> simp [hk, hs, SubtaskKind.allows] at hallowed
  | cleanup =>
    cases hs : r.state <;> simp [hk, hs, SubtaskKind.allows] at hallowed
    · simp [SubtaskRow.lifecycle, hs, hdigest, invalidRow] at hlife
    · simp only [SubtaskRow.lifecycle, hs, hdigest, invalidRow] at hlife
      split_ifs at hlife

theorem setReviewedWork_board {ctx : ReviewContext} {workState : SubtaskState} {detach : Prop}
    [Decidable detach] (hwork : s.board.subtask ctx.review.subtaskId = some ctx.workSubtask)
    (hdigest : ctx.workSubtask.artifactDigest = some ctx.review.artifactDigest)
    (h : setReviewedWork ctx workState detach now s = (.ok u, s')) :
    s'.board = { s.board with
      subtask := put s.board.subtask ctx.review.subtaskId
        { ctx.workSubtask with
          state := workState
          currentClaimId := if detach then none else ctx.workSubtask.currentClaimId
          updatedAt := now } } := by
  simp only [setReviewedWork, Tx.bind_ok, Tx.ensure_ok] at h
  obtain ⟨_, _, hupd, -, rfl⟩ := h
  rw [(updateSubtask_board hupd fun _ => rfl).2, modify_of_some hwork, if_pos ⟨hdigest, rfl⟩]

theorem releaseActiveReservations_sameBoard {id : SubtaskId} :
    Tx.Keeps SameBoard (releaseActiveReservations id now) :=
  .bind (sameBoard_of_readOnly selectFrom_readOnly) fun _ => .bind (updateIn_sameBoard (fun _ _ => rfl) _ _) fun _ =>
    .forEach fun _ _ => resolveReservationOverlapConflicts_sameBoard

/-- Completing reviewed work: a producer that still holds it is released with it. -/
theorem completeReviewedWork_moves {s₁ s₂ : Db} {ctx : ReviewContext} {u' : Unit}
    (hL : .review ∈ L) (hloads : ctx.workSubtask.Loads) (ha : Anchored s.board.toLeases)
    (hwork : s.board.subtask ctx.review.subtaskId = some ctx.workSubtask)
    (hdigest : ctx.workSubtask.artifactDigest = some ctx.review.artifactDigest)
    (hpolicy : ctx.workSubtask.completionPolicy = .reviewed)
    (hallowed : ctx.workSubtask.kind.allows ctx.workSubtask.state .completed = true)
    (hrelease : releaseProducer ctx.workSubtask now s = (.ok u, s₁))
    (hreserved : SameBoard s₁ s₂)
    (h : setReviewedWork ctx .completed (SubtaskState.completed = .completed) now s₂ =
      (.ok u', s')) : Moves L now s s' := by
  have hartifact : ctx.workSubtask.artifactDigest.isSome := by
    rw [hdigest]
    rfl
  cases hcur : ctx.workSubtask.currentClaimId with
  | none =>
    simp only [releaseProducer, hcur, Tx.pure_ok] at hrelease
    obtain ⟨-, rfl⟩ := hrelease
    have hb := setReviewedWork_board (by rw [hreserved]; exact hwork) hdigest h
    rw [hreserved, if_pos rfl, ← modify_of_some (g := fun r => { r with
      state := .completed, currentClaimId := none, updatedAt := now }) hwork] at hb
    refine Steps.edit_at hL (fun r hr => ?_) hb
    obtain rfl : ctx.workSubtask = r := Option.some.inj (hwork.symm.trans hr)
    exact .inr (.complete hloads hallowed hpolicy hartifact hcur)
  | some pc =>
    simp only [releaseProducer, hcur, Tx.bind_ok, loadClaim_ok, and_assoc, exists_and_left,
      exists_eq_left', Tx.exists_unit] at hrelease
    obtain ⟨claim, hclaim, -, s₃, hclose, hclear⟩ := hrelease
    have hkey : claim.claimId = pc := Table.key_of_get? hclaim
    have hclaim : s.board.claim claim.claimId = some claim := hkey ▸ hclaim
    obtain ⟨row, hrow, hheld, hb₃⟩ := closeClaimAndDetach_board hclose
    obtain rfl : claim = row := Option.some.inj (hclaim.symm.trans hrow)
    have hb₁ := clearSessionActiveSubtask_board hclear
    obtain ⟨row', hrow', hsub⟩ := ha.current hwork hcur
    obtain rfl : claim = row' := by
      rw [← hkey] at hrow'
      exact Option.some.inj (hclaim.symm.trans hrow')
    have hb := setReviewedWork_board (by rw [hreserved, hb₁, hb₃]; exact hwork) hdigest h
    rw [hreserved, hb₁, hb₃, if_pos rfl] at hb
    refine Steps.close (c := claim) .released
      (fun r => { r with state := .completed, currentClaimId := none, updatedAt := now })
      (fun _ => True) hL hclaim hheld (by simp) ?_ (fun _ _ => trivial) ?_
    · intro r hr _
      rw [hsub] at hr
      obtain rfl : ctx.workSubtask = r := Option.some.inj (hwork.symm.trans hr)
      exact .complete hloads hallowed hpolicy hartifact
    · rw [hb, hsub, modify_of_some hwork, hkey, if_pos hcur]
      simp only [if_true]

/-- A verdict never asks a review subtask for a transition. -/
theorem review_not_allows_reviewed {state : SubtaskState} {verdict : ReviewVerdict}
    {policy : CompletionPolicy} {artifactKind : ArtifactKind} :
    SubtaskKind.review.allows state (reviewedWorkState verdict policy artifactKind) = false := by
  unfold reviewedWorkState
  cases verdict with
  | approve => cases state <;> dsimp only <;> split_ifs <;> rfl
  | changesRequested => cases state <;> rfl
  | blocked => cases state <;> rfl

theorem reviewedWorkState_completed {verdict : ReviewVerdict} {policy : CompletionPolicy}
    {artifactKind : ArtifactKind}
    (h : reviewedWorkState verdict policy artifactKind = .completed) : policy = .reviewed := by
  unfold reviewedWorkState at h
  cases verdict with
  | approve =>
    by_contra hpolicy
    rw [if_neg hpolicy] at h
    split_ifs at h
  | changesRequested => cases h
  | blocked => cases h

/-- What a verdict other than a completion makes of the reviewed work. -/
theorem verdict_edit (b : Board) (now : ℤ) {r : SubtaskRow} {verdict : ReviewVerdict}
    {artifactKind : ArtifactKind} {digest : ArtifactDigest} (hround : .review ∈ L)
    (hpolicy : r.completionPolicy ≠ .direct)
    (hallowed : r.kind.allows r.state
      (reviewedWorkState verdict r.completionPolicy artifactKind) = true)
    (hopen : reviewedWorkState verdict r.completionPolicy artifactKind ≠ .completed)
    (hloads : r.Loads) (hdigest : r.artifactDigest = some digest)
    (hsettled : verdict = .approve → ¬artifactKind.isApplyable → SettledByReview b r.subtaskId digest)
    (hstrand : verdict = .blocked → r.currentClaimId ≠ none → .strand ∈ L) :
    ∃ w ∈ L, Edit b now w r
      { r with state := reviewedWorkState verdict r.completionPolicy artifactKind
               updatedAt := now } := by
  cases verdict with
  | approve =>
    have hcanonical : r.completionPolicy = .canonicalApply := by
      cases hp : r.completionPolicy with
      | canonicalApply => rfl
      | direct => exact absurd hp hpolicy
      | reviewed => simp [reviewedWorkState, hp] at hopen
    have hnot : r.completionPolicy ≠ .reviewed := by
      rw [hcanonical]
      decide
    simp only [reviewedWorkState, if_neg hnot] at hallowed ⊢
    by_cases happly : artifactKind.isApplyable
    · rw [if_pos happly] at hallowed ⊢
      exact ⟨.review, hround, .advance rfl hloads hallowed hcanonical⟩
    · rw [if_neg happly] at hallowed ⊢
      exact ⟨.review, hround, .advance rfl hloads hallowed
        ⟨hloads.work_of_applied (by rw [hdigest]; rfl) hallowed, hcanonical, digest, hdigest,
          hsettled rfl happly⟩⟩
  | changesRequested => exact ⟨.review, hround, .advance rfl hloads hallowed trivial⟩
  | blocked =>
    by_cases hcur : r.currentClaimId = none
    · exact ⟨.review, hround, .advance rfl hloads hallowed hcur⟩
    · exact ⟨.strand, hstrand rfl hcur, .strand hloads hallowed⟩

theorem recordDecision_moves {ctx : ReviewContext} {req : DecideReviewReq}
    {decision : ReviewDecisionResult} {r : SubtaskRow} (hL : .declared ∈ L)
    (hkey : ctx.review.reviewId = req.reviewId)
    (hreview : s.board.review req.reviewId =
      some (ctx.review.decide req.sessionToken req.verdict req.findingsDigest now))
    (hof : ctx.workSubtask.subtaskId = ctx.review.subtaskId)
    (hr : s.board.subtask ctx.review.subtaskId = some r) (hsame : ctx.workSubtask.SameWork r)
    (h : recordDecision ctx req now s = (.ok decision, s')) : Moves L now s s' := by
  unfold recordDecision at h
  split_ifs at h with happrove
  · obtain ⟨-, rfl⟩ := Tx.pure_ok.mp h
    exact .refl s
  · simp only [Tx.bind_ok, Tx.pure_ok] at h
    obtain ⟨id, _, hcreate, -, rfl⟩ := h
    have hfailed : (ctx.review.decide req.sessionToken req.verdict req.findingsDigest now).isFailed := by
      refine ⟨rfl, ?_⟩
      cases hv : req.verdict with
      | approve => exact absurd hv happrove
      | changesRequested => exact .inl rfl
      | blocked => exact .inr rfl
    rw [← hkey] at hreview hcreate
    exact createReviewFollowupSubtask_moves
      (ctx.review.decide req.sessionToken req.verdict req.findingsDigest now) hL hreview
      hfailed hof.symm (hof ▸ hr) hsame.bequeaths hcreate

theorem followApproval_moves {env : Env} {ctx : ReviewContext} {req : DecideReviewReq}
    (hL : .declared ∈ L) : Tx.Keeps (Moves L now) (followApproval env ctx req now) := by
  unfold followApproval
  split_ifs
  · exact .bind (fun _ _ _ => enqueueApprovedSubtaskForApply_moves hL) fun _ => .pure _
  · exact recordArchiveBlocker_sameBoard.mono fun _ _ => SameBoard.moves
  · exact .pure _

/-- The judgement of the work, once the reviewer's side is closed. -/
theorem judgeWork_moves {s₂ s₃ : Db} {u' : Unit} {session : SessionRow} {leaseNow : ℤ}
    {ctx : ReviewContext} {req : DecideReviewReq} (hround : .review ∈ L)
    (hctx : ctx.Loaded s session req.sessionToken req.reviewId req.claimId req.fenceSeq leaseNow)
    (hsession : s.board.session req.sessionToken = some session)
    (hstrand : req.verdict = .blocked → ctx.workSubtask.currentClaimId ≠ none → .strand ∈ L)
    (ha : Anchored s.board.toLeases) (hclosed : Moves L now s s₂)
    (hreview : s₂.board.review req.reviewId =
      some (ctx.review.decide req.sessionToken req.verdict req.findingsDigest now))
    (hartifact : s₂.board.artifact = s.board.artifact)
    (hwork : s₂.board.subtask ctx.review.subtaskId = some ctx.workSubtask)
    (hpolicy : ctx.workSubtask.completionPolicy ≠ .direct)
    (hallowed : ctx.workSubtask.kind.allows ctx.workSubtask.state
      (reviewedWorkState req.verdict ctx.workSubtask.completionPolicy
        ctx.artifact.artifactKind) = true)
    (hrelease : Tx.whenever (reviewedWorkState req.verdict ctx.workSubtask.completionPolicy
        ctx.artifact.artifactKind = .completed) (do
          releaseProducer ctx.workSubtask now
          releaseActiveReservations ctx.workSubtask.subtaskId now) s₂ = (.ok u, s₃))
    (hset : setReviewedWork ctx (reviewedWorkState req.verdict ctx.workSubtask.completionPolicy
        ctx.artifact.artifactKind) (reviewedWorkState req.verdict ctx.workSubtask.completionPolicy
        ctx.artifact.artifactKind = .completed) now s₃ = (.ok u', s')) : Moves L now s₂ s' := by
  have hworkKey : ctx.workSubtask.subtaskId = ctx.review.subtaskId := Table.key_of_get? hctx.work
  by_cases hdone : reviewedWorkState req.verdict ctx.workSubtask.completionPolicy
      ctx.artifact.artifactKind = .completed
  · rw [hdone] at hallowed hset hrelease
    simp only [Tx.whenever, if_true, Tx.bind_ok, Tx.exists_unit] at hrelease
    obtain ⟨s₉, hproducer, hreserved⟩ := hrelease
    have hreviewed := reviewedWorkState_completed hdone
    exact completeReviewedWork_moves hround hctx.loads (hclosed.anchored ha) hwork hctx.digest
      hreviewed hallowed hproducer (releaseActiveReservations_sameBoard hreserved) hset
  · simp only [Tx.whenever, hdone, if_false, Tx.pure_ok] at hrelease
    obtain ⟨-, rfl⟩ := hrelease
    obtain ⟨w, hw, hedit⟩ := verdict_edit s₂.board now hround hpolicy hallowed hdone
      hctx.loads hctx.digest
      (fun happ hno => by
        rw [happ] at hreview
        rw [hworkKey]
        exact ⟨_, hctx.approval hsession hclosed hreview hartifact,
          .inr ⟨_, hartifact ▸ hctx.artifact, hno⟩⟩) hstrand
    have hb := setReviewedWork_board hwork hctx.digest hset
    rw [if_neg hdone, ← modify_of_some (g := fun r => { r with
      state := reviewedWorkState req.verdict ctx.workSubtask.completionPolicy
        ctx.artifact.artifactKind, updatedAt := now }) hwork] at hb
    refine Steps.edit_at hw (fun r hr => ?_) hb
    obtain rfl : ctx.workSubtask = r := Option.some.inj (hwork.symm.trans hr)
    exact .inr hedit

theorem decideReview_moves {env : Env} {req : DecideReviewReq} (hL : .declared ∈ L)
    (hround : .review ∈ L) (hverdict : .verdict ∈ L) (hstrand : ∀ review work, s.board.review req.reviewId = some review →
      s.board.subtask review.subtaskId = some work → req.verdict = .blocked →
      work.currentClaimId ≠ none → .strand ∈ L)
    (ha : Anchored s.board.toLeases) (h : decideReview env req now s = (.ok v, s')) :
    Moves L now s s' := by
  refine leasedMutation_moves (fun {leaseNow s₀ v s₁} hs₀ h => ?_) h
  rw [← hs₀] at ha hstrand
  simp only [Tx.bind_ok, requireRole_ok, Tx.lift_ok, requireReviewPolicy_ok,
    ensureSubtaskTransition_ok, Tx.pure_ok, and_assoc, exists_and_left, exists_eq_left',
    Tx.exists_unit] at h
  obtain ⟨session, hsession, -, -, hrole, -, -, -, ctx, _, hload, s₂, hclose, hpolicy, hallowed, s₃,
    hrelease, s₄, hset, decision, s₅, hdecision, s₆, hevent, s₇, hfollow, s₈, hrefresh, -, rfl⟩ := h
  obtain ⟨rfl, hctx, -, -⟩ := loadReviewContext_ok hload
  obtain ⟨hclosed, hreview, hartifact, hkind, hothers⟩ := closeReview_moves hround hverdict hctx
    ⟨session, hsession, List.mem_singleton.mp hrole⟩ hclose
  have hne : ctx.review.subtaskId ≠ ctx.review.reviewSubtaskId :=
    hctx.work_ne_review hkind hallowed review_not_allows_reviewed
  have hwork : s₂.board.subtask ctx.review.subtaskId = some ctx.workSubtask :=
    (hothers _ hne).trans hctx.work
  have hworkKey : ctx.workSubtask.subtaskId = ctx.review.subtaskId := Table.key_of_get? hctx.work
  have hmid : Moves L now s₂ s₄ := judgeWork_moves hround hctx hsession
    (hstrand _ _ hctx.review hctx.work) ha hclosed hreview hartifact hwork hpolicy hallowed hrelease hset
  obtain ⟨review, hreview₄, -, hkept⟩ := hmid.evolves.review hreview
  rw [hkept rfl] at hreview₄
  obtain ⟨r, hr, hsame⟩ := hmid.evolves.subtask hwork
  have hdecision : Moves L now s₄ s₅ := recordDecision_moves hL (Table.key_of_get? hctx.review)
    hreview₄ hworkKey hr hsame hdecision
  exact ((((hclosed.trans hmid).trans hdecision).trans
    (appendSessionEvent_sameBoard hevent).moves).trans (followApproval_moves hL hfollow)).trans
    (refreshMetaTaskState_sameBoard hrefresh).moves

theorem recordPermissiveLandingReceipt_moves {req : RecordPermissiveLandingReceiptReq}
    (hL : .declared ∈ L) (hround : .review ∈ L) (hverdict : .verdict ∈ L)
    (h : recordPermissiveLandingReceipt req now s = (.ok v, s')) :
    Moves L now s s' := by
  refine leasedMutation_moves (fun {leaseNow s₀ v s₁} hs₀ h => ?_) h
  simp only [Tx.bind_ok, requireRole_ok, Tx.lift_ok, Tx.option_forM_ok, ensureSubtaskTransition_ok,
    Tx.pure_ok, and_assoc, exists_and_left, exists_eq_left', Tx.exists_unit] at h
  obtain ⟨session, hsession, -, -, hrole, -, -, -, -, -, -, -, ctx, _, hload, s₃, hclose, hallowed, s₄,
    hset, s₅, hins, s₆, hevent, s₇, hrefresh, -, rfl⟩ := h
  obtain ⟨rfl, hctx, hdigest, hpolicy⟩ := loadReviewContext_ok hload
  have hdigest : ctx.review.artifactDigest = req.artifactDigest := by simpa using hdigest
  have hpolicy : ctx.workSubtask.completionPolicy = .canonicalApply := by simpa using hpolicy
  obtain ⟨hclosed, hreview, hartifact, hkind, hothers⟩ := closeReview_moves hround hverdict hctx
    ⟨session, hsession, List.mem_singleton.mp hrole⟩ hclose
  have hne : ctx.review.subtaskId ≠ ctx.review.reviewSubtaskId :=
    hctx.work_ne_review hkind hallowed (by cases ctx.reviewSubtask.state <;> rfl)
  have hwork : s₃.board.subtask ctx.review.subtaskId = some ctx.workSubtask :=
    (hothers _ hne).trans hctx.work
  have hworkKey : ctx.workSubtask.subtaskId = ctx.review.subtaskId := Table.key_of_get? hctx.work
  have hb₄ := setReviewedWork_board hwork hctx.digest hset
  rw [if_neg id, ← modify_of_some (g := fun r => { r with state := .applied, updatedAt := now })
    hwork] at hb₄
  obtain ⟨hnew, hb₅⟩ := insertPermissive_board hins
  rw [hb₄] at hb₅ hnew
  -- The receipt is put on record first, so that it settles the work.
  have hrecorded : Steps L now s₃.board _ := Steps.ledger hL (.permissive hnew)
  have happroval := hctx.approval hsession hclosed hreview hartifact
  have happlied : Moves L now s₃ s₅ := by
    refine hrecorded.trans (Steps.edit_at hround (fun r hr => ?_) hb₅)
    obtain rfl : ctx.workSubtask = r := Option.some.inj (hwork.symm.trans hr)
    have hkey : ctx.review.reviewId = req.reviewId := Table.key_of_get? hctx.review
    refine .inr (.advance rfl hctx.loads hallowed ⟨hctx.loads.work_of_applied ?_ hallowed, hpolicy, _, hctx.digest,
      ctx.review.decide req.sessionToken .approve req.findingsDigest now, ?_, .inl ?_⟩)
    · rw [hctx.digest]
      rfl
    · rw [hworkKey]
      exact ⟨happroval.recorded, rfl, rfl, rfl, rfl, happroval.separated⟩
    · exact ⟨_, (congrArg _ hkey).trans put_self, hdigest.symm⟩
  exact ((hclosed.trans happlied).trans (appendSessionEvent_sameBoard hevent).moves).trans
    (refreshMetaTaskState_sameBoard hrefresh).moves

end Covey

import Covey.Refine.Claims

/-!
# The apply queue refines the moves

* `enqueueForApply_moves`, `reconcileApplyQueue_moves`, `supersedeQueueItem_moves`.
* `claimNextReadyQueueItem_moves`, `markInFlight_moves`: taking a row in flight.
* `requireLiveApplyGateEvidence_ok`: what the evidence of an apply attempt shows.
* `recordApplyVerification_moves`, `markApplied_moves`.
* The other records of an apply attempt leave the board alone.
-/

namespace Covey

open Relational

variable {L : Set Write} {now leaseNow : ℤ} {s s' : Db} {u : Unit} {v : Response} {n : ℕ}

/-! ## Filling the queue -/

theorem vacateQueueItem_moves {id : QueueId} {source target : ReadyQueueState} (hL : .declared ∈ L)
    (hsource : source = .queued ∨ source = .inFlight)
    (htarget : target = .queued ∨ target = .superseded ∨ target = .cancelled)
    (h : vacateQueueItem id source target now s = (.ok n, s')) : Moves L now s s' := by
  refine updateQueue_moves hL h (fun q hq => .vacate ?_ htarget) fun _ => rfl
  rw [ReadyQueueRow.isOpen, hq.2]
  exact hsource

theorem requeueStaleReadyQueueClaims_moves (hL : .declared ∈ L) :
    Tx.Keeps (Moves L now) (requeueStaleReadyQueueClaims leaseNow now) :=
  .bind .get fun _ => .forEach fun _ _ =>
    .bind (fun _ _ _ => vacateQueueItem_moves hL (.inr rfl) (.inl rfl)) fun _ => .pure _

theorem enqueueForApply_moves {req : EnqueueForApplyReq} (hL : .declared ∈ L)
    (h : enqueueForApply req now s = (.ok v, s')) : Moves L now s s' := by
  refine mutation_moves (fun {v s₁} h => ?_) h
  simp only [Tx.bind_ok, requireActiveSession_ok, Tx.lift_ok, loadSubtask_ok,
    requireCanonicalApplyPolicy_ok, ensureMetaTaskIsSchedulable_ok, Tx.ensure_ok,
    activeQueueIdForArtifact_ok, and_assoc, exists_and_left, exists_eq_left', Tx.exists_unit] at h
  obtain ⟨_, -, -, -, -, -, -, subtask, -, -, -, -, -, h⟩ := h
  have henqueue (h : enqueueNewRow req subtask.kind subtask.state now s = (.ok v, s₁)) :
      Moves L now s s₁ := by
    unfold enqueueNewRow at h
    simp only [Tx.bind_ok, Tx.lift_ok, and_assoc, exists_and_left, exists_eq_left',
      Tx.exists_unit] at h
    obtain ⟨-, found, s₂, henqueue, h⟩ := h
    cases found with
    | none => simp at h
    | some id =>
      obtain ⟨-, rfl⟩ := Tx.pure_ok.mp h
      exact enqueueApprovedSubtaskForApply_moves hL henqueue
  revert h henqueue
  generalize Option.map _ (List.head? _) = active
  cases active <;> cases subtask.state <;> intro h henqueue
  case some.readyForApply =>
    obtain ⟨-, rfl⟩ := Tx.pure_ok.mp h
    exact .refl s
  all_goals exact henqueue h

theorem enqueueApprovedApplyCandidates_moves {k : SessionToken} (hL : .declared ∈ L) :
    Tx.Keeps (Moves L now) (enqueueApprovedApplyCandidates k now) :=
  .bind .get fun _ => .mapEach fun _ _ _ _ _ => enqueueApprovedSubtaskForApply_moves hL

/-- Work that is ready to be applied with the given artifact. -/
def ReadyWith (b : Board) (id : SubtaskId) (digest : ArtifactDigest) : Prop :=
  ∃ r, b.subtask id = some r ∧ r.completionPolicy = .canonicalApply ∧ r.state = .readyForApply ∧
    r.artifactDigest = some digest

theorem readyWith_of_applyCandidates {p : SubtaskId × ArtifactDigest}
    (h : p ∈ applyCandidates s .readyForApply) : ReadyWith s.board p.1 p.2 := by
  simp only [applyCandidates, List.mem_filterMap, List.mem_insertionSort, Table.mem_select] at h
  obtain ⟨r, ⟨hmem, -, hstate, -⟩, hp⟩ := h
  obtain ⟨digest, hdigest, rfl⟩ := Option.map_eq_some_iff.mp hp
  have hrow : s.subtasks.get? r.subtaskId = some r := Table.get?_key hmem
  have hcheck := Table.check_of_get? hrow
  simp only [subtaskSchema, decide_eq_true_eq] at hcheck
  exact ⟨r, hrow, hcheck.2.2.2.2.2.2.1 (.inr (.inl hstate)), hstate, hdigest⟩

theorem insertReadyQueueItem_subtasks {k : SessionToken} {id : SubtaskId} {digest : ArtifactDigest}
    {key : String} {found : Option QueueId}
    (h : insertReadyQueueItem k id digest now key s = (.ok found, s')) :
    s'.board.subtask = s.board.subtask := by
  simp only [insertReadyQueueItem, Tx.bind_ok, activeQueueIdForArtifact_ok] at h
  obtain ⟨active, _, ⟨-, rfl⟩, h⟩ := h
  cases active with
  | some _ =>
    obtain ⟨-, rfl⟩ := Tx.pure_ok.mp h
    rfl
  | none =>
    simp only [Tx.bind_ok, Tx.lift_ok, Tx.pure_ok, and_assoc, exists_and_left, exists_eq_left',
      Tx.exists_unit] at h
    obtain ⟨queueId, s₁, hid, s₂, hins, _, -, s₃, hevent, -, rfl⟩ := h
    rw [appendSessionEvent_sameBoard hevent, (insertQueue_board hins).2, freshId_sameBoard hid]

theorem insertEach_moves {k : SessionToken} {key : SubtaskId × ArtifactDigest → String}
    {items : List (SubtaskId × ArtifactDigest)} {found : List (Option QueueId)}
    (hL : .declared ∈ L) (hready : ∀ p ∈ items, ReadyWith s.board p.1 p.2)
    (h : Tx.mapEach items (fun p => insertReadyQueueItem k p.1 p.2 now (key p)) s =
      (.ok found, s')) : Moves L now s s' := by
  induction items generalizing s found with
  | nil =>
    obtain ⟨-, rfl⟩ := Tx.mapEach_nil.mp h
    exact .refl s
  | cons p items ih =>
    obtain ⟨id, s₁, hins, ids, hrest, -⟩ := Tx.mapEach_cons_ok.mp h
    obtain ⟨r, hr, hpolicy, hstate, hdigest⟩ := hready p List.mem_cons_self
    refine (insertReadyQueueItem_moves hL hr hpolicy hstate hdigest hins).trans
      (ih (fun q hq => ?_) hrest)
    rw [ReadyWith, insertReadyQueueItem_subtasks hins]
    exact hready q (List.mem_cons_of_mem _ hq)

theorem enqueueOrphanedReadyForApplyItems_moves {k : SessionToken} {found : List (Option QueueId)}
    (hL : .declared ∈ L) (h : enqueueOrphanedReadyForApplyItems k now s = (.ok found, s')) :
    Moves L now s s' := by
  simp only [enqueueOrphanedReadyForApplyItems, Tx.bind_ok, Tx.get_ok, and_assoc, exists_and_left,
    exists_eq_left'] at h
  exact insertEach_moves hL (fun p hp => readyWith_of_applyCandidates hp) h

theorem reconcileApplyQueue_moves {req : ReconcileApplyQueueReq} (hL : .declared ∈ L)
    (h : reconcileApplyQueue req now s = (.ok v, s')) : Moves L now s s' := by
  refine leasedMutation_moves (fun {n s₀ v s₁} _ h => ?_) h
  simp only [Tx.bind_ok, requireRole_ok, Tx.pure_ok, and_assoc, exists_and_left, exists_eq_left',
    Tx.exists_unit] at h
  obtain ⟨_, -, -, -, -, s₂, hrequeue, _, s₃, happroved, _, s₄, horphaned, -, rfl⟩ := h
  exact ((requeueStaleReadyQueueClaims_moves hL hrequeue).trans
    (enqueueApprovedApplyCandidates_moves hL happroved)).trans
    (enqueueOrphanedReadyForApplyItems_moves hL horphaned)

/-! ## Taking a row in flight -/

theorem claimReadyQueueItem_moves {id : QueueId} {k : SessionToken} {duration : LeaseDurationMs}
    {claim : Option ReadyQueueClaim} (hL : .declared ∈ L)
    (h : claimReadyQueueItem id k duration leaseNow now s = (.ok claim, s')) : Moves L now s s' := by
  simp only [claimReadyQueueItem, Tx.bind_ok, loadQueueItem_ok, Tx.lift_ok, loadSubtask_ok,
    loadMetaTask_ok, and_assoc, exists_and_left, exists_eq_left', Tx.exists_unit] at h
  obtain ⟨item, -, -, -, subtask, -, -, metaTask, -, -, h⟩ := h
  split_ifs at h
  · simp only [Tx.bind_ok, Tx.pure_ok] at h
    obtain ⟨_, _, hvacate, -, rfl⟩ := h
    exact vacateQueueItem_moves hL (.inl rfl) (.inr (.inr rfl)) hvacate
  · simp only [Tx.bind_ok, Tx.pure_ok] at h
    obtain ⟨_, _, hvacate, -, rfl⟩ := h
    exact vacateQueueItem_moves hL (.inl rfl) (.inr (.inl rfl)) hvacate
  · simp only [Tx.bind_ok, Tx.lift_ok, and_assoc, exists_and_left, exists_eq_left'] at h
    obtain ⟨deadline, -, n, s₁, hupd, h⟩ := h
    have hclaim : Moves L now s s₁ :=
      updateQueue_moves hL hupd (fun q hq => .claim hq.2) fun _ => rfl
    split_ifs at h <;> obtain ⟨-, rfl⟩ := Tx.pure_ok.mp h <;> exact hclaim

theorem orderedReadyQueueCandidate_readOnly : orderedReadyQueueCandidate.ReadOnly :=
  .bind selectFrom_readOnly fun _ => .pure _

theorem claimNextQueued_moves {k : SessionToken} {duration : LeaseDurationMs} {rounds : ℕ}
    {claim : Option ReadyQueueClaim} (hL : .declared ∈ L)
    (h : claimNextQueued k duration leaseNow now rounds s = (.ok claim, s')) :
    Moves L now s s' := by
  induction rounds generalizing s with
  | zero =>
    obtain ⟨-, rfl⟩ := Tx.pure_ok.mp h
    exact .refl s
  | succ rounds ih =>
    simp only [claimNextQueued, Tx.bind_ok] at h
    obtain ⟨found, s₁, hfound, h⟩ := h
    obtain rfl := orderedReadyQueueCandidate_readOnly.state hfound
    cases found with
    | none =>
      obtain ⟨-, rfl⟩ := Tx.pure_ok.mp h
      exact .refl _
    | some id =>
      simp only [Tx.bind_ok] at h
      obtain ⟨claimed, s₂, hclaim, h⟩ := h
      refine (claimReadyQueueItem_moves hL hclaim).trans ?_
      cases claimed with
      | none => exact ih h
      | some c =>
        simp only [Tx.bind_ok, Tx.pure_ok, Tx.exists_unit] at h
        obtain ⟨_, hevent, -, rfl⟩ := h
        exact (appendSessionEvent_sameBoard hevent).moves

theorem claimNextReadyQueueItem_moves {req : ClaimReadyQueueReq} (hL : .declared ∈ L)
    (h : claimNextReadyQueueItem req now s = (.ok v, s')) : Moves L now s s' := by
  refine leasedMutation_moves (fun {n s₀ v s₁} _ h => ?_) h
  simp only [Tx.bind_ok, requireRole_ok, selectFrom_ok, Tx.pure_ok, and_assoc, exists_and_left,
    exists_eq_left', Tx.exists_unit] at h
  obtain ⟨_, -, -, -, -, s₂, hrequeue, _, s₃, horphaned, _, s₄, hclaim, -, rfl⟩ := h
  exact ((requeueStaleReadyQueueClaims_moves hL hrequeue).trans
    (enqueueOrphanedReadyForApplyItems_moves hL horphaned)).trans (claimNextQueued_moves hL hclaim)

theorem markInFlight_moves {req : MarkInFlightReq} (hL : .declared ∈ L)
    (h : markInFlight req now s = (.ok v, s')) : Moves L now s s' := by
  refine leasedMutation_moves (fun {n s₀ v s₁} _ h => ?_) h
  simp only [Tx.bind_ok, requireRole_ok, Tx.lift_ok, loadQueueItem_ok, and_assoc, exists_and_left,
    exists_eq_left', Tx.exists_unit] at h
  obtain ⟨_, -, -, -, -, -, s₂, hrequeue, item, -, -, claim, s₃, hclaim, h⟩ := h
  refine ((requeueStaleReadyQueueClaims_moves hL hrequeue).trans
    (claimReadyQueueItem_moves hL hclaim)).trans ?_
  cases claim with
  | none => simp at h
  | some c =>
    simp only [Tx.bind_ok, Tx.pure_ok, Tx.exists_unit] at h
    obtain ⟨_, hevent, -, rfl⟩ := h
    exact (appendSessionEvent_sameBoard hevent).moves

theorem supersedeQueueItem_moves {req : SupersedeQueueItemReq} (hL : .declared ∈ L)
    (h : supersedeQueueItem req now s = (.ok v, s')) : Moves L now s s' := by
  refine mutation_moves (fun {v s₁} h => ?_) h
  simp only [Tx.bind_ok, requireRole_ok, Tx.lift_ok, loadQueueItem_ok, Tx.ensure_ok, Tx.pure_ok,
    and_assoc, exists_and_left, exists_eq_left', Tx.exists_unit] at h
  obtain ⟨_, -, -, -, -, -, item, -, -, -, n, s₂, hupd, -, _, hevent, -, rfl⟩ := h
  have hsuper : Moves L now s s₂ :=
    updateQueue_moves hL hupd (fun q hq => .vacate hq.2 (.inr (.inl rfl))) fun _ => rfl
  exact hsuper.trans (appendSessionEvent_sameBoard hevent).moves

/-! ## Evidence of an apply attempt -/

/-- What the live evidence of an apply attempt shows: the approving review of the row's
    artifact, and that producer, reviewer and apply gate are different principals. -/
structure LiveEvidence (s : Db) (item : ReadyQueueRow) (gate : SessionRow)
    (evidence : ReviewId × FindingsDigest) (review : ReviewRow) : Prop where
  recorded : s.board.review evidence.1 = some review
  approval : isApprovalOf s item review
  findings : review.findingsDigest = some evidence.2
  separated : ∃ artifact producer reviewer, s.board.artifact item.artifactDigest = some artifact ∧
    s.board.session artifact.producedBySession = some producer ∧
    s.board.session review.reviewerSession = some reviewer ∧
    producer.agentPrincipalId ≠ reviewer.agentPrincipalId ∧
    gate.agentPrincipalId ≠ producer.agentPrincipalId ∧
    gate.agentPrincipalId ≠ reviewer.agentPrincipalId

theorem mem_of_latestReview {reviews : List ReviewRow} {r : ReviewRow}
    (h : latestReview reviews = some r) : r ∈ reviews :=
  (List.mem_insertionSort _).mp (List.mem_of_mem_head? h)

/-- What the attestations of two actors must not share. -/
structure RuntimeAttestationRow.Apart (a b : RuntimeAttestationRow) : Prop where
  principals : a.agentPrincipalId ≠ b.agentPrincipalId
  runtimeRefs : a.runtimeRef ≠ b.runtimeRef
  transcripts : a.commandTranscriptDigest ≠ b.commandTranscriptDigest

/-- The attestation is the session's, and says of it what the session says. -/
structure RuntimeAttestationRow.Of (s : Db) (r : SessionRow) (a : RuntimeAttestationRow) : Prop where
  recorded : s.runtimeAttestations.get? r.sessionToken = some a
  principal : a.agentPrincipalId = r.agentPrincipalId
  agent : a.agentInstanceId = r.agentInstanceId
  role : a.role = r.role

theorem requireRuntimeActorSeparation_ok {queueId : QueueId} {leftRole rightRole : String}
    {left right : RuntimeAttestationRow} {u : Unit}
    (h : requireRuntimeActorSeparation queueId leftRole left rightRole right = .ok u) :
    left.runtimeRef ≠ right.runtimeRef ∧
      left.commandTranscriptDigest ≠ right.commandTranscriptDigest := by
  unfold requireRuntimeActorSeparation at h
  split_ifs at h with _ href htranscript
  exact ⟨href, htranscript⟩

/-- What a live evidence has read: the approving review and the three actors, all attested. -/
theorem requireLiveApplyGateEvidence_run {item : ReadyQueueRow} {gate : SessionRow}
    {evidence : ReviewId × FindingsDigest}
    (h : requireLiveApplyGateEvidence item gate s = (.ok evidence, s')) :
    s = s' ∧ ∃ (review : ReviewRow) (artifact : ArtifactRow) (producer reviewer : SessionRow)
        (producerAttestation reviewerAttestation gateAttestation : RuntimeAttestationRow),
      s.reviews.get? evidence.1 = some review ∧ isApprovalOf s item review ∧
      review.findingsDigest = some evidence.2 ∧
      s.artifacts.get? item.artifactDigest = some artifact ∧
      s.sessions.get? artifact.producedBySession = some producer ∧
      s.sessions.get? review.reviewerSession = some reviewer ∧
      producerAttestation.Of s producer ∧ reviewerAttestation.Of s reviewer ∧
      gateAttestation.Of s gate ∧ producerAttestation.Apart reviewerAttestation ∧
      producerAttestation.Apart gateAttestation ∧ reviewerAttestation.Apart gateAttestation := by
  simp only [requireLiveApplyGateEvidence, Tx.bind_ok, Tx.get_ok, and_assoc, exists_and_left,
    exists_eq_left'] at h
  generalize hfound : latestReview _ = found at h
  cases found with
  | none => simp at h
  | some review =>
    obtain ⟨hmem, happroval, -⟩ := Table.mem_select.mp (mem_of_latestReview hfound)
    have hreview : s.reviews.get? review.reviewId = some review := Table.get?_key hmem
    cases hfindings : review.findingsDigest with
    | none => simp [hfindings] at h
    | some findings =>
      cases hproducer : (s.artifacts.get? review.artifactDigest).bind fun a =>
          s.sessions.get? a.producedBySession with
      | none => simp [hfindings, hproducer] at h
      | some producer =>
        cases hreviewer : s.sessions.get? review.reviewerSession with
        | none => simp [hfindings, hproducer, hreviewer] at h
        | some reviewer =>
          obtain ⟨artifact, hartifact, hproducerRow⟩ := Option.bind_eq_some_iff.mp hproducer
          have hpkey : producer.sessionToken = artifact.producedBySession :=
            Table.key_of_get? hproducerRow
          have hrkey : reviewer.sessionToken = review.reviewerSession := Table.key_of_get? hreviewer
          simp only [hfindings, hproducer, hreviewer, hpkey, hrkey, Tx.bind_ok, Tx.ensure_ok,
            loadSession_ok, requireRuntimeAttestation_ok, Tx.lift_ok, Tx.pure_ok, and_assoc,
            exists_and_left, exists_eq_left', Tx.exists_unit, hproducerRow, Option.some.injEq] at h
          obtain ⟨hpr, hgp, hgr, -, -, pa, hpa, hp₁, hp₂, hp₃, -, ra, hra, hr₁, hr₂, hr₃, -, ga, hga,
            hg₁, hg₂, hg₃, -, hsep₁, hsep₂, hsep₃, rfl, rfl⟩ := h
          obtain ⟨href₁, htr₁⟩ := requireRuntimeActorSeparation_ok hsep₁
          obtain ⟨href₂, htr₂⟩ := requireRuntimeActorSeparation_ok hsep₂
          obtain ⟨href₃, htr₃⟩ := requireRuntimeActorSeparation_ok hsep₃
          rw [happroval.2.1] at hartifact
          refine ⟨rfl, review, artifact, producer, reviewer, pa, ra, ga, hreview, happroval,
            hfindings, hartifact, hproducerRow, hreviewer, ⟨hpkey ▸ hpa, hp₁, hp₂, hp₃⟩,
            ⟨hrkey ▸ hra, hr₁, hr₂, hr₃⟩, ⟨hga, hg₁, hg₂, hg₃⟩, ⟨?_, href₁, htr₁⟩, ⟨?_, href₂, htr₂⟩,
            ⟨?_, href₃, htr₃⟩⟩
          · rwa [hp₁, hr₁]
          · rw [hp₁, hg₁]
            exact hgp.symm
          · rw [hr₁, hg₁]
            exact hgr.symm

theorem requireLiveApplyGateEvidence_ok {item : ReadyQueueRow} {gate : SessionRow}
    {evidence : ReviewId × FindingsDigest}
    (h : requireLiveApplyGateEvidence item gate s = (.ok evidence, s')) :
    s = s' ∧ ∃ review, LiveEvidence s item gate evidence review := by
  obtain ⟨rfl, review, artifact, producer, reviewer, pa, ra, ga, hreview, happroval, hfindings,
    hartifact, hproducer, hreviewer, hpa, hra, hga, hpr, hpg, hrg⟩ :=
    requireLiveApplyGateEvidence_run h
  refine ⟨rfl, review, hreview, happroval, hfindings, artifact, producer, reviewer, hartifact,
    hproducer, hreviewer, ?_, ?_, ?_⟩
  · rw [← hpa.principal, ← hra.principal]
    exact hpr.principals
  · rw [← hga.principal, ← hpa.principal]
    exact hpg.principals.symm
  · rw [← hga.principal, ← hra.principal]
    exact hrg.principals.symm

/-- The session whose evidence is live may record a verification of it. -/
theorem LiveEvidence.verified {item : ReadyQueueRow} {gate : SessionRow}
    {evidence : ReviewId × FindingsDigest} {review : ReviewRow} {row : ApplyVerificationRow}
    (h : LiveEvidence s item gate evidence review)
    (hgate : s.board.session row.recordedBySession = some gate)
    (hevidence : evidence = (row.reviewId, row.findingsDigest))
    (hdigest : item.artifactDigest = row.artifactDigest) : Verified s.board row := by
  subst hevidence
  obtain ⟨artifact, producer, reviewer, hartifact, hproducer, hreviewer, hpr, hgp, hgr⟩ :=
    h.separated
  rw [hdigest] at hartifact
  obtain ⟨-, hof, hdecided, hverdict, -⟩ := h.approval
  exact ⟨review, h.recorded, hof.trans hdigest, hdecided, hverdict, h.findings, artifact, producer,
    reviewer, gate, hartifact, hproducer, hreviewer, hgate, hpr, hgp, hgr⟩

theorem recordApplyVerification_moves {req : RecordApplyVerificationReq} (hL : .declared ∈ L)
    (h : recordApplyVerification req now s = (.ok v, s')) : Moves L now s s' := by
  refine mutation_moves (fun {v s₁} h => ?_) h
  simp only [Tx.bind_ok, requireRole_ok, requireRuntimeAttestation_ok, Tx.lift_ok, loadQueueItem_ok,
    Tx.ensure_ok, Tx.pure_ok, and_assoc, exists_and_left, exists_eq_left', Tx.exists_unit] at h
  obtain ⟨session, hsession, -, -, -, _, -, -, -, -, -, -, -, -, -, -, -, -, item, -, -, -, hdigest,
    -, evidence, s₂, hlive, hevidence, s₃, hins, _, hevent, -, rfl⟩ := h
  obtain ⟨rfl, review, hlive⟩ := requireLiveApplyGateEvidence_ok hlive
  obtain ⟨hnew, hb⟩ := insertVerification_board hins
  have hstep : Moves L now s s₃ := by
    rw [Moves, hb]
    exact Steps.ledger hL (.verify hnew (hlive.verified hsession hevidence hdigest))
  exact hstep.trans (appendSessionEvent_sameBoard hevent).moves

theorem recordApplyGateBlocker_moves {req : RecordApplyGateBlockerReq}
    (h : recordApplyGateBlocker req now s = (.ok v, s')) : Moves L now s s' := by
  refine mutation_moves (fun {v s₁} h => ?_) h
  simp only [Tx.bind_ok, requireRole_ok, requireRuntimeAttestation_ok, Tx.lift_ok, loadQueueItem_ok,
    Tx.ensure_ok, Tx.pure_ok, and_assoc, exists_and_left, exists_eq_left', Tx.exists_unit] at h
  obtain ⟨_, -, -, -, -, _, -, -, -, -, -, -, -, -, -, -, item, -, -, -, -, -, evidence, s₂, hlive, s₃,
    hins, _, hevent, -, rfl⟩ := h
  obtain ⟨rfl, -⟩ := requireLiveApplyGateEvidence_ok hlive
  have hins := insertInto_sameBoard (fun _ _ => rfl) _ hins
  exact hins.moves.trans (appendSessionEvent_sameBoard hevent).moves

theorem loadApprovedReviewEvidence_readOnly {item : ReadyQueueRow} :
    (loadApprovedReviewEvidence item).ReadOnly := by
  refine .bind .get fun _ => ?_
  dsimp only
  split
  · exact .fail _
  · split
    · exact .fail _
    · exact .pure _

theorem recordSettlementReconcileBlocker_moves {req : RecordSettlementReconcileBlockerReq}
    (h : recordSettlementReconcileBlocker req now s = (.ok v, s')) : Moves L now s s' := by
  refine mutation_moves (fun {v s₁} h => ?_) h
  simp only [Tx.bind_ok, requireRole_ok, Tx.lift_ok, loadQueueItem_ok, Tx.ensure_ok, Tx.pure_ok,
    and_assoc, exists_and_left, exists_eq_left', Tx.exists_unit] at h
  obtain ⟨_, -, -, -, -, -, -, -, item, -, -, -, -, -, evidence, s₂, hlive, s₃, hins, _, hevent, -,
    rfl⟩ := h
  obtain rfl := loadApprovedReviewEvidence_readOnly.state hlive
  have hins := insertInto_sameBoard (fun _ _ => rfl) _ hins
  exact hins.moves.trans (appendSessionEvent_sameBoard hevent).moves

theorem loadApplyWorktree_readOnly {path : ApplyWorktreePath} :
    (loadApplyWorktree path).ReadOnly :=
  load_readOnly

theorem recordApplyWorktree_moves {req : RecordApplyWorktreeReq}
    (h : recordApplyWorktree req now s = (.ok v, s')) : Moves L now s s' := by
  refine mutation_moves (fun {v s₁} h => ?_) h
  simp only [Tx.bind_ok, requireRole_ok, requireRuntimeAttestation_ok, Tx.lift_ok, loadQueueItem_ok,
    Tx.ensure_ok, and_assoc, exists_and_left, exists_eq_left', Tx.exists_unit] at h
  obtain ⟨_, -, -, -, -, _, -, -, -, -, -, -, -, item, -, -, -, -, h⟩ := h
  cases howner : item.claimedBySessionToken with
  | none => simp [howner] at h
  | some owner =>
    simp only [howner, Tx.bind_ok, Tx.ensure_ok, Tx.pure_ok, and_assoc, exists_and_left,
      exists_eq_left', Tx.exists_unit] at h
    obtain ⟨-, s₂, hins, s₃, hevent, _, _, hload, -, rfl⟩ := h
    obtain rfl := loadApplyWorktree_readOnly.state hload
    have hins := insertInto_sameBoard (fun _ _ => rfl) _ hins
    exact hins.moves.trans (appendSessionEvent_sameBoard hevent).moves

theorem markApplyWorktreeState_moves {req : MarkApplyWorktreeStateReq}
    (h : markApplyWorktreeState req now s = (.ok v, s')) : Moves L now s s' := by
  refine mutation_moves (fun {v s₁} h => ?_) h
  simp only [Tx.bind_ok, requireRole_ok, Tx.lift_ok, Tx.pure_ok, and_assoc, exists_and_left,
    exists_eq_left', Tx.exists_unit] at h
  obtain ⟨_, -, -, -, -, worktree, s₂, hload, -, n, s₃, hupd, s₄, hevent, _, _, hload', -, rfl⟩ := h
  obtain rfl := loadApplyWorktree_readOnly.state hload
  obtain rfl := loadApplyWorktree_readOnly.state hload'
  have hupd := updateIn_sameBoard (fun _ _ => rfl) _ _ hupd
  exact hupd.moves.trans (appendSessionEvent_sameBoard hevent).moves

theorem markApplyWorktreesForQueue_sameBoard {id : QueueId} {state : ApplyWorktreeState} :
    Tx.Keeps SameBoard (markApplyWorktreesForQueue id state now) :=
  .forEach fun _ _ => .bind (updateIn_sameBoard (fun _ _ => rfl) _ _) fun _ => .pure _

/-! ## Settling a row -/

theorem ReadyQueueState.inFlight_of_allows_applied {state : ReadyQueueState}
    (h : state.allows .applied = true) : state = .inFlight := by
  cases state <;> simp [ReadyQueueState.allows] at h ⊢

theorem SubtaskKind.work_of_ready_allows_applied {kind : SubtaskKind}
    (h : kind.allows .readyForApply .applied = true) : kind = .work := by
  cases kind <;> simp [SubtaskKind.allows] at h ⊢

/-- What `mark_applied` has established when it settles the row. -/
structure Appliable (b : Board) (req : MarkAppliedReq) (leaseNow : ℤ) (q : ReadyQueueRow)
    (r : SubtaskRow) : Prop where
  row : b.queue req.queueId = some q
  inFlight : q.state = .inFlight
  owner : q.claimedBySessionToken = some req.sessionToken
  fence : q.claimFenceSeq = some req.claimFenceSeq.val
  live : ∃ deadline, q.claimLeaseDeadline = some deadline ∧ leaseNow < deadline
  subtask : b.subtask q.subtaskId = some r
  kind : r.kind = .work
  policy : r.completionPolicy = .canonicalApply
  ready : r.state = .readyForApply
  digest : r.artifactDigest = some q.artifactDigest
  verified : VerifiedFor b q req.claimFenceSeq.val

/-- A recorded verification of the live evidence. -/
theorem LiveEvidence.verifiedFor {q : ReadyQueueRow} {gate : SessionRow}
    {evidence : ReviewId × FindingsDigest} {review : ReviewRow} {fence : ℕ}
    (h : LiveEvidence s q gate evidence review)
    (hrecorded : s.applyVerifications.select (fun v => v.queueId = q.queueId ∧
      v.artifactDigest = q.artifactDigest ∧ v.reviewId = evidence.1 ∧
      v.findingsDigest = evidence.2 ∧ v.claimFenceSeq = fence) ≠ []) :
    VerifiedFor s.board q fence := by
  obtain ⟨row, hrow⟩ := List.exists_mem_of_ne_nil _ hrecorded
  obtain ⟨hmem, hqueue, hdigest, hreview, -, hfence⟩ := Table.mem_select.mp hrow
  exact ⟨_, row, review, Table.get?_key hmem, hqueue, hdigest, hfence, by
    rw [hreview]
    exact h.recorded, h.approval.1⟩

/-- A run of `mark_applied` is a replay, or settles the row and its subtask together. -/
theorem markApplied_run {req : MarkAppliedReq} (h : markApplied req now s = (.ok v, s')) :
    Recorded s req.sessionToken.val "mark_applied" req.idempotencyKey (.markApplied req) v ∧
        s'.board = s.board ∨
      ∃ q r, Appliable s.board req (max s.leaseClock (max now 0)) q r ∧
        s'.board = { s.board with
          subtask := put s.board.subtask q.subtaskId { r with state := .applied, updatedAt := now }
          queue := put s.board.queue req.queueId
            { q with state := .applied, claimedBySessionToken := none, claimLeaseDeadline := none,
                     updatedAt := now } } := by
  obtain ⟨leaseNow, rfl, h | ⟨s₀, s₁, hs₀, h, hs'⟩⟩ := leasedMutation_run h
  · exact .inl h
  have hb₀ : s₀.board = s.board := by rw [hs₀]; rfl
  rw [← hb₀, hs']
  refine .inr ?_
  simp only [Tx.bind_ok, requireRole_ok, Tx.lift_ok, loadQueueItem_ok, ensureReadyQueueTransition_ok,
    and_assoc, exists_and_left, exists_eq_left', Tx.exists_unit] at h
  obtain ⟨session, hsession, -, -, -, -, q, hq, -, hinFlight, h⟩ := h
  have hinFlight := ReadyQueueState.inFlight_of_allows_applied hinFlight
  have htoken : session.sessionToken = req.sessionToken := Table.key_of_get? hsession
  cases howner : q.claimedBySessionToken with
  | none => simp [howner] at h
  | some owner =>
  cases hfence : q.claimFenceSeq with
  | none => simp [howner, hfence] at h
  | some fence =>
  cases hdeadline : q.claimLeaseDeadline with
  | none => simp [howner, hfence, hdeadline] at h
  | some deadline =>
  simp only [howner, hfence, hdeadline, Tx.bind_ok, Tx.ensure_ok, Tx.lift_ok, loadSubtask_ok,
    requireCanonicalApplyPolicy_ok, ensureSubtaskTransition_ok, loadSession_ok, Tx.pure_ok,
    requireRecordedApplyVerification, selectFrom_ok, and_assoc, exists_and_left, exists_eq_left',
    Tx.exists_unit] at h
  obtain ⟨rfl, rfl, hlive, r, hr, -, hpolicy, hallowed, hdigest, gate, -, -, evidence, s₂, hevidence,
    hrecorded, n, s₃, hqueue, -, n', s₄, hsubtask, hn', s₅, hblocker, s₆, hworktrees, s₇, hrefresh,
    s₈, hevent, -, rfl⟩ := h
  obtain ⟨rfl, review, hevidence⟩ := requireLiveApplyGateEvidence_ok hevidence
  obtain ⟨-, hb₃⟩ := updateQueueItem_board hqueue fun _ => rfl
  obtain ⟨hfound, hb₄⟩ := updateSubtask_board hsubtask fun _ => rfl
  obtain ⟨r', hr', hready, -⟩ := hfound (by omega)
  replace hq : s₀.board.queue req.queueId = some q := hq
  replace hr : s₀.board.subtask q.subtaskId = some r := hr
  rw [hb₃] at hr' hb₄
  obtain rfl : r = r' := Option.some.inj (hr.symm.trans hr')
  refine ⟨q, r, ⟨hq, hinFlight, by rw [howner, htoken], hfence, ⟨deadline, hdeadline, hlive⟩, hr,
    ?_, hpolicy, hready, hdigest, hevidence.verifiedFor hrecorded⟩, ?_⟩
  · rw [hready] at hallowed
    exact SubtaskKind.work_of_ready_allows_applied hallowed
  · rw [appendSessionEvent_sameBoard hevent, refreshMetaTaskState_sameBoard hrefresh,
      markApplyWorktreesForQueue_sameBoard hworktrees, recordArchiveBlocker_sameBoard hblocker, hb₄,
      modify_of_some hq, modify_of_some hr, if_pos ⟨hinFlight, by rw [howner, htoken], hfence⟩,
      if_pos ⟨hready, hdigest⟩]

theorem markApplied_moves {req : MarkAppliedReq} (hL : .declared ∈ L)
    (h : markApplied req now s = (.ok v, s')) : Moves L now s s' := by
  rcases markApplied_run h with ⟨-, hb⟩ | ⟨q, r, hq, hb⟩
  · exact SameBoard.moves hb
  · have hkey : q.queueId = req.queueId := Table.key_of_get? hq.row
    rw [Moves, hb, ← hkey]
    exact Steps.move hL (.apply (hkey ▸ hq.row) hq.inFlight hq.fence hq.verified hq.subtask hq.kind
      hq.policy hq.ready hq.digest)

/-! ## Landing -/

theorem requireLandable_ok {what notOpen : String} {session : SessionRow} {id : QueueId}
    {digest : ArtifactDigest} {fence : FenceSeq} {q : ReadyQueueRow}
    (h : requireLandable what session id digest fence notOpen s = (.ok q, s')) :
    s = s' ∧ s.board.queue id = some q ∧ (q.state = .inFlight ∨ q.state = .applied) ∧
      q.artifactDigest = digest ∧ q.claimFenceSeq = some fence.val ∧
      (q.state = .inFlight → q.claimedBySessionToken = some session.sessionToken) := by
  simp only [requireLandable, Tx.bind_ok, loadQueueItem_ok, Tx.ensure_ok, Tx.pure_ok, and_assoc,
    exists_and_left, exists_eq_left', Tx.exists_unit] at h
  obtain ⟨item, hrow, -, hstate, hdigest, hfence, s₁, hguard, rfl, rfl⟩ := h
  suffices hs : s = s₁ ∧ (item.state = .inFlight →
      item.claimedBySessionToken = some session.sessionToken) from
    ⟨hs.1, hrow, hstate, hdigest, hfence, hs.2⟩
  rcases Tx.whenever_ok.mp hguard with ⟨-, h⟩ | ⟨hnot, rfl⟩
  · cases howner : item.claimedBySessionToken with
    | none => simp [howner] at h
    | some owner =>
      simp only [howner, Tx.bind_ok, Tx.ensure_ok, requireRecordedApplyVerification, selectFrom_ok,
        and_assoc, exists_and_left, exists_eq_left', Tx.exists_unit] at h
      obtain ⟨rfl, evidence, s₂, hevidence, -, rfl⟩ := h
      exact ⟨(requireLiveApplyGateEvidence_ok hevidence).1, fun _ => rfl⟩
  · exact ⟨rfl, fun hstate => absurd hstate hnot⟩

theorem recordLandingReceipt_moves {req : RecordLandingReceiptReq}
    (h : recordLandingReceipt req now s = (.ok v, s')) : Moves L now s s' := by
  simp only [recordLandingReceipt, Tx.bind_ok, requireRole_ok, lookup_ok, and_assoc, exists_and_left,
    exists_eq_left'] at h
  obtain ⟨_, -, -, -, -, item, s₁, hitem, h⟩ := h
  obtain ⟨rfl, -⟩ := requireLandable_ok hitem
  generalize (Rel.landingReceipts.get s).get? _ = found at h
  cases found with
  | some existing =>
    simp only [Tx.bind_ok, Tx.ensure_ok, Tx.pure_ok, and_assoc, exists_and_left, exists_eq_left',
      Tx.exists_unit] at h
    obtain ⟨-, -, -, rfl⟩ := h
    exact .refl s
  | none =>
    simp only [Tx.bind_ok, Tx.pure_ok, Tx.exists_unit] at h
    obtain ⟨_, hins, -, rfl⟩ := h
    have hins := insertInto_sameBoard (fun _ _ => rfl) _ hins
    exact hins.moves

end Covey

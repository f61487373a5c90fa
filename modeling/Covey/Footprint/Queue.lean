import Covey.Footprint.Work

/-!
# Footprints of the apply queue and the archive

The tables that the operations of `src/ops/queue.rs` write, and with them the two
operations of `src/ops/workflow/artifact_review.rs` that decide a review.
-/

namespace Covey

variable {l : List TableName} {now leaseNow : ℤ}

/-! ## Entering the queue and the archive ledger -/

theorem insertReadyQueueItem_touches {k : SessionToken} {id : SubtaskId} {d : ArtifactDigest}
    {key : String} (hl : [.readyQueue, .events] ⊆ l) :
    (insertReadyQueueItem k id d now key).Within (Touches l) := by
  refine Touches.weaken (.bind (.bind selectFrom_touches fun _ => .pure _) fun found => ?_) hl
  cases found with
  | some _ => exact .pure _
  | none =>
    exact .bind freshId_touches fun _ => .bind (insertInto_touches (fun _ _ => rfl) _) fun _ =>
      .bind (.lift _) fun _ => .bind (appendSessionEvent_touches (by decide)) fun _ => .pure _

theorem ensureApplyableArtifact_touches {d : ArtifactDigest} :
    (ensureApplyableArtifact d).Within (Touches l) :=
  .bind load_touches fun _ => .ensure _ _

theorem enqueueApprovedSubtaskForApply_touches {k : SessionToken} {id : SubtaskId}
    {d : ArtifactDigest} {key : String} (hl : [.subtasks, .readyQueue, .events] ⊆ l) :
    (enqueueApprovedSubtaskForApply k id d now key).Within (Touches l) := by
  refine Touches.weaken (.bind load_touches fun _ => .bind (.lift _) fun _ =>
    .bind ensureApplyableArtifact_touches fun _ =>
    .bind (updateIn_touches (fun _ _ => rfl) _ _) fun _ =>
    .bind (updateSubtasks_touches (by decide) _ _ fun _ => rfl) fun _ => ?_) hl
  split_ifs
  · refine .bind .get fun _ => ?_
    dsimp only
    split_ifs
    · exact .pure _
    · exact .fail _
  · exact insertReadyQueueItem_touches (by decide)

theorem recordArchiveBlocker_touches {k : SessionToken} {statusId : String} {id : SubtaskId}
    {d : ArtifactDigest} {key : String} (hl : [.openSpecArchiveStatus, .events] ⊆ l) :
    (recordArchiveBlocker k statusId id d now key).Within (Touches l) := by
  refine Touches.weaken (.bind .get fun s => ?_) hl
  cases openspecChangeIdForSubtask s id with
  | none => exact .pure _
  | some changeId =>
    refine .bind (.lift _) fun _ => .bind (.lift _) fun _ => .bind (.lift _) fun _ =>
      .bind lookup_touches fun found => ?_
    cases found with
    | some existing => exact .ensure _ _
    | none =>
      exact .bind (insertInto_touches (fun _ _ => rfl) _) fun _ =>
        appendSessionEvent_touches (by decide)

/-! ## Deciding reviews -/

/-- The tables that a decision writes. -/
def decisionTables : List TableName :=
  [.sessions, .metaTasks, .subtasks, .fenceCounters, .claims, .reviews, .reviewFollowups,
    .readyQueue, .openSpecArchiveStatus, .reservations, .conflicts, .events]

theorem decideReview_announces {env : Env} {req : DecideReviewReq} :
    Announces decisionTables (decideReview env req now) := by
  refine leasedMutation_emits fun _ => .bind requireRole_touches fun _ => .bind (.lift _) fun _ =>
    .bind (.lift _) fun _ => .bind (.lift _) fun _ => .bind loadReviewContext_touches fun ctx =>
    .bind (closeReview_touches (by decide)) fun _ => .bind (.lift _) fun _ =>
    .bind (.lift _) fun _ => .bind (.whenever fun _ =>
      .bind (releaseProducer_touches (by decide)) fun _ =>
      releaseActiveReservations_touches (by decide)) fun _ =>
    .bind (setReviewedWork_touches (by decide)) fun _ => .bind ?_ fun _ =>
    .event (by decide) fun _ => .bind ?_ fun _ =>
    .bind (refreshMetaTaskState_touches (by decide)) fun _ => .pure _
  · unfold recordDecision
    split_ifs
    · exact .pure _
    · exact .bind (createReviewFollowupSubtask_touches (by decide)) fun _ => .pure _
  · unfold followApproval
    split_ifs
    · exact .bind (enqueueApprovedSubtaskForApply_touches (by decide)) fun _ => .pure _
    · exact recordArchiveBlocker_touches (by decide)
    · exact .pure _

/-- The tables that a permissive landing writes. -/
def permissiveTables : List TableName :=
  [.sessions, .metaTasks, .subtasks, .claims, .reviews, .permissiveLandingReceipts, .events]

theorem recordPermissiveLandingReceipt_announces {req : RecordPermissiveLandingReceiptReq} :
    Announces permissiveTables (recordPermissiveLandingReceipt req now) :=
  leasedMutation_emits fun _ => .bind requireRole_touches fun _ => .bind (.lift _) fun _ =>
    .bind (.lift _) fun _ => .bind (.lift _) fun _ => .bind (.lift _) fun _ =>
    .bind (.lift _) fun _ => .bind (.lift _) fun _ => .bind option_forM_touches fun _ =>
    .bind loadReviewContext_touches fun _ => .bind (closeReview_touches (by decide)) fun _ =>
    .bind (.lift _) fun _ => .bind (setReviewedWork_touches (by decide)) fun _ =>
    .bind (insertInto_touches (fun _ _ => rfl) _) fun _ =>
    .event (by decide) fun _ =>
    .bind (refreshMetaTaskState_touches (by decide)) fun _ => .pure _

/-! ## The queue -/

/-- The tables that filling the queue writes. -/
def enqueueTables : List TableName := [.subtasks, .readyQueue, .events]

theorem enqueueForApply_touches {req : EnqueueForApplyReq} :
    (enqueueForApply req now).Within (Touches enqueueTables) := by
  refine mutation_touches <| .bind requireActiveSession_touches fun _ => .bind (.lift _) fun _ =>
    .bind (.lift _) fun _ => .bind (.lift _) fun _ => .bind load_touches fun subtask =>
    .bind (.lift _) fun _ => .bind ensureMetaTaskIsSchedulable_touches fun _ =>
    .bind (.ensure _ _) fun _ => .bind (.bind selectFrom_touches fun _ => .pure _) fun found => ?_
  split
  · exact .pure _
  · refine .bind (.lift _) fun _ =>
      .bind (enqueueApprovedSubtaskForApply_touches (by decide)) fun queued => ?_
    cases queued with
    | some queueId => exact .pure _
    | none => exact .fail _

theorem vacateQueueItem_touches {queueId : QueueId} {source target : ReadyQueueState}
    (hl : [.readyQueue] ⊆ l) : (vacateQueueItem queueId source target now).Within (Touches l) :=
  Touches.weaken (updateIn_touches (fun _ _ => rfl) _ _) hl

theorem requeueStaleReadyQueueClaims_touches (hl : [.readyQueue] ⊆ l) :
    (requeueStaleReadyQueueClaims leaseNow now).Within (Touches l) :=
  .bind .get fun _ => .forEach (fun _ => .bind (vacateQueueItem_touches hl) fun _ => .pure _) _

theorem enqueueOrphanedReadyForApplyItems_touches {k : SessionToken}
    (hl : [.readyQueue, .events] ⊆ l) :
    (enqueueOrphanedReadyForApplyItems k now).Within (Touches l) :=
  .bind .get fun _ => .mapEach (fun _ => insertReadyQueueItem_touches hl) _

theorem reconcileApplyQueue_touches {req : ReconcileApplyQueueReq} :
    (reconcileApplyQueue req now).Within (Touches enqueueTables) :=
  leasedMutation_touches fun _ => .bind requireRole_touches fun _ =>
    .bind (requeueStaleReadyQueueClaims_touches (by decide)) fun _ =>
    .bind (.bind .get fun _ =>
      .mapEach (fun _ => enqueueApprovedSubtaskForApply_touches (by decide)) _) fun _ =>
    .bind (enqueueOrphanedReadyForApplyItems_touches (by decide)) fun _ => .pure _

theorem claimReadyQueueItem_touches {queueId : QueueId} {k : SessionToken}
    {duration : LeaseDurationMs} (hl : [.readyQueue] ⊆ l) :
    (claimReadyQueueItem queueId k duration leaseNow now).Within (Touches l) := by
  refine Touches.weaken (.bind load_touches fun item => .bind (.lift _) fun _ =>
    .bind load_touches fun subtask => .bind load_touches fun metaTask => ?_) hl
  split_ifs
  · exact .bind (vacateQueueItem_touches (by decide)) fun _ => .pure _
  · exact .bind (vacateQueueItem_touches (by decide)) fun _ => .pure _
  · refine .bind (.lift _) fun _ => .bind (updateIn_touches (fun _ _ => rfl) _ _) fun rows => ?_
    split_ifs
    · exact .pure _
    · exact .pure _

theorem claimNextQueued_touches {k : SessionToken} {duration : LeaseDurationMs} {rounds : ℕ}
    (hl : [.readyQueue, .events] ⊆ l) :
    (claimNextQueued k duration leaseNow now rounds).Within (Touches l) := by
  obtain ⟨hqueue, hevents⟩ := List.cons_subset.mp hl
  have hqueue : [TableName.readyQueue] ⊆ l := List.cons_subset.mpr ⟨hqueue, List.nil_subset l⟩
  induction rounds with
  | zero => exact .pure _
  | succ rounds ih =>
    refine .bind (.bind selectFrom_touches fun _ => .pure _) fun found => ?_
    cases found with
    | none => exact .pure _
    | some queueId =>
      refine .bind (claimReadyQueueItem_touches hqueue) fun claim => ?_
      cases claim with
      | none => exact ih
      | some claim =>
        exact .bind (appendSessionEvent_touches hevents) fun _ => .pure _

theorem claimNextReadyQueueItem_touches {req : ClaimReadyQueueReq} :
    (claimNextReadyQueueItem req now).Within (Touches [.readyQueue, .events]) :=
  leasedMutation_touches fun _ => .bind requireRole_touches fun _ =>
    .bind (requeueStaleReadyQueueClaims_touches (by decide)) fun _ =>
    .bind (enqueueOrphanedReadyForApplyItems_touches (by decide)) fun _ =>
    .bind selectFrom_touches fun _ => .bind (claimNextQueued_touches (by decide)) fun _ => .pure _

theorem markInFlight_announces {req : MarkInFlightReq} :
    Announces [.readyQueue, .events] (markInFlight req now) := by
  refine leasedMutation_emits fun _ => .bind requireRole_touches fun _ => .bind (.lift _) fun _ =>
    .bind (requeueStaleReadyQueueClaims_touches (by decide)) fun _ => .bind load_touches fun _ =>
    .bind (claimReadyQueueItem_touches (by decide)) fun claim => ?_
  cases claim with
  | none => exact .fail _
  | some claim => exact .event (by decide) fun _ => .pure _

theorem supersedeQueueItem_announces {req : SupersedeQueueItemReq} :
    Announces [.readyQueue, .events] (supersedeQueueItem req now) :=
  mutation_emits <| .bind requireRole_touches fun _ => .bind (.lift _) fun _ =>
    .bind load_touches fun _ => .bind (.lift _) fun _ =>
    .bind (updateIn_touches (fun _ _ => rfl) _ _) fun _ => .bind (.ensure _ _) fun _ =>
    .event (by decide) fun _ => .pure _

/-! ## Evidence of an apply attempt -/

theorem requireLiveApplyGateEvidence_touches {item : ReadyQueueRow} {gate : SessionRow} :
    (requireLiveApplyGateEvidence item gate).Within (Touches l) := by
  refine .bind .get fun s => ?_
  dsimp only
  split
  · exact .fail _
  · split
    · exact .bind (.ensure _ _) fun _ => .bind (.ensure _ _) fun _ => .bind (.ensure _ _) fun _ =>
        .bind load_touches fun _ => .bind load_touches fun _ =>
        .bind requireRuntimeAttestation_touches fun _ =>
        .bind requireRuntimeAttestation_touches fun _ =>
        .bind requireRuntimeAttestation_touches fun _ => .bind (.lift _) fun _ =>
        .bind (.lift _) fun _ => .bind (.lift _) fun _ => .pure _
    · exact .fail _

theorem requireRecordedApplyVerification_touches {item : ReadyQueueRow}
    {evidence : ReviewId × FindingsDigest} {fence : FenceSeq} :
    (requireRecordedApplyVerification item evidence fence).Within (Touches l) :=
  .bind selectFrom_touches fun _ => .ensure _ _

theorem recordApplyVerification_announces {req : RecordApplyVerificationReq} :
    Announces [.applyVerifications, .events] (recordApplyVerification req now) :=
  mutation_emits <| .bind requireRole_touches fun _ =>
    .bind requireRuntimeAttestation_touches fun _ => .bind (.lift _) fun _ =>
    .bind (.lift _) fun _ => .bind (.lift _) fun _ => .bind (.lift _) fun _ =>
    .bind (.lift _) fun _ => .bind (.lift _) fun _ => .bind (.lift _) fun _ =>
    .bind load_touches fun _ => .bind (.ensure _ _) fun _ =>
    .bind requireLiveApplyGateEvidence_touches fun _ => .bind (.ensure _ _) fun _ =>
    .bind (insertInto_touches (fun _ _ => rfl) _) fun _ =>
    .event (by decide) fun _ => .pure _

theorem recordApplyGateBlocker_announces {req : RecordApplyGateBlockerReq} :
    Announces [.applyGateBlockers, .events] (recordApplyGateBlocker req now) :=
  mutation_emits <| .bind requireRole_touches fun _ =>
    .bind requireRuntimeAttestation_touches fun _ => .bind (.lift _) fun _ =>
    .bind (.lift _) fun _ => .bind (.lift _) fun _ => .bind (.lift _) fun _ =>
    .bind (.lift _) fun _ => .bind load_touches fun _ => .bind (.ensure _ _) fun _ =>
    .bind requireLiveApplyGateEvidence_touches fun _ =>
    .bind (insertInto_touches (fun _ _ => rfl) _) fun _ =>
    .event (by decide) fun _ => .pure _

theorem recordSettlementReconcileBlocker_announces {req : RecordSettlementReconcileBlockerReq} :
    Announces [.settlementReconcileBlockers, .events] (recordSettlementReconcileBlocker req now) :=
  mutation_emits <| .bind requireRole_touches fun _ => .bind (.lift _) fun _ =>
    .bind (.lift _) fun _ => .bind (.lift _) fun _ => .bind load_touches fun _ =>
    .bind (.ensure _ _) fun _ => .bind (.ensure _ _) fun _ =>
    .bind (.of_readOnly loadApprovedReviewEvidence_readOnly) fun _ =>
    .bind (insertInto_touches (fun _ _ => rfl) _) fun _ =>
    .event (by decide) fun _ => .pure _

theorem recordApplyWorktree_announces {req : RecordApplyWorktreeReq} :
    Announces [.applyWorktrees, .events] (recordApplyWorktree req now) := by
  refine mutation_emits <| .bind requireRole_touches fun _ =>
    .bind requireRuntimeAttestation_touches fun _ => .bind (.lift _) fun _ =>
    .bind (.lift _) fun _ => .bind load_touches fun item => .bind (.ensure _ _) fun _ => ?_
  cases item.claimedBySessionToken with
  | none =>
    exact .bind (.fail _) fun _ => .bind (insertInto_touches (fun _ _ => rfl) _) fun _ =>
      .event (by decide) fun _ => .bind load_touches fun _ => .pure _
  | some owner =>
    exact .bind (.ensure _ _) fun _ => .bind (insertInto_touches (fun _ _ => rfl) _) fun _ =>
      .event (by decide) fun _ => .bind load_touches fun _ => .pure _

theorem markApplyWorktreeState_announces {req : MarkApplyWorktreeStateReq} :
    Announces [.applyWorktrees, .events] (markApplyWorktreeState req now) :=
  mutation_emits <| .bind requireRole_touches fun _ => .bind load_touches fun _ =>
    .bind (.lift _) fun _ => .bind (updateIn_touches (fun _ _ => rfl) _ _) fun _ =>
    .event (by decide) fun _ => .bind load_touches fun _ => .pure _

theorem markApplyWorktreesForQueue_touches {queueId : QueueId} {state : ApplyWorktreeState}
    (hl : [.applyWorktrees] ⊆ l) :
    (markApplyWorktreesForQueue queueId state now).Within (Touches l) :=
  Touches.weaken (.forEach (fun _ => .bind (updateIn_touches (fun _ _ => rfl) _ _) fun _ =>
    .pure _) _) hl

/-- The tables that settling a queue row writes. -/
def settleTables : List TableName :=
  [.metaTasks, .subtasks, .readyQueue, .applyWorktrees, .openSpecArchiveStatus, .events]

theorem markApplied_announces {req : MarkAppliedReq} :
    Announces settleTables (markApplied req now) := by
  refine leasedMutation_emits fun leaseNow => .bind requireRole_touches fun session =>
    .bind (.lift _) fun _ => .bind load_touches fun item => .bind (.lift _) fun _ => ?_
  extract_lets _ rest
  have hrest : ∀ u, Emits settleTables (rest u) := fun _ =>
    .bind load_touches fun _ => .bind (.lift _) fun _ => .bind (.lift _) fun _ =>
      .bind (.ensure _ _) fun _ => .bind load_touches fun _ =>
      .bind requireLiveApplyGateEvidence_touches fun _ =>
      .bind requireRecordedApplyVerification_touches fun _ =>
      .bind (updateIn_touches (fun _ _ => rfl) _ _) fun _ => .bind (.ensure _ _) fun _ =>
      .bind (updateSubtasks_touches (by decide) _ _ fun _ => rfl) fun _ => .bind (.ensure _ _) fun _ =>
      .bind (recordArchiveBlocker_touches (by decide)) fun _ =>
      .bind (markApplyWorktreesForQueue_touches (by decide)) fun _ =>
      .bind (refreshMetaTaskState_touches (by decide)) fun _ =>
      .event (by decide) fun _ => .pure _
  split
  · exact .bind (.ensure _ _) fun _ => .bind (.ensure _ _) fun _ => .bind (.ensure _ _) hrest
  · exact .bind (.fail _) hrest

theorem requireLandable_touches {what : String} {session : SessionRow} {queueId : QueueId}
    {d : ArtifactDigest} {fence : FenceSeq} {notOpen : String} :
    (requireLandable what session queueId d fence notOpen).Within (Touches l) := by
  refine .bind load_touches fun item => .bind (.ensure _ _) fun _ => .bind (.ensure _ _) fun _ =>
    .bind (.ensure _ _) fun _ => .bind (.whenever fun _ => ?_) fun _ => .pure _
  cases item.claimedBySessionToken with
  | none =>
    exact .bind (.fail _) fun _ => .bind requireLiveApplyGateEvidence_touches fun _ =>
      requireRecordedApplyVerification_touches
  | some owner =>
    exact .bind (.ensure _ _) fun _ => .bind requireLiveApplyGateEvidence_touches fun _ =>
      requireRecordedApplyVerification_touches

theorem recordLandingReceipt_touches {req : RecordLandingReceiptReq} :
    (recordLandingReceipt req now).Within (Touches [.landingReceipts]) := by
  refine .bind requireRole_touches fun _ => .bind requireLandable_touches fun _ =>
    .bind lookup_touches fun found => ?_
  cases found with
  | some existing => exact .bind (.ensure _ _) fun _ => .pure _
  | none => exact .bind (insertInto_touches (fun _ _ => rfl) _) fun _ => .pure _

/-! ## Archiving -/

theorem updateOpenSpecArchiveStatus_touches {req : RecordOpenSpecArchiveStatusReq}
    {id : SubtaskId} (hl : [.openSpecArchiveStatus] ⊆ l) :
    (updateOpenSpecArchiveStatus req id now).Within (Touches l) :=
  Touches.weaken (.bind (updateIn_touches (fun _ _ => rfl) _ _) fun _ => .ensure _ _) hl

/-- The tables that recording an archive status writes. -/
def archiveTables : List TableName := [.applyWorktrees, .openSpecArchiveStatus, .events]

theorem settleArchiveStatus_announces {req : RecordOpenSpecArchiveStatusReq} {id : SubtaskId}
    {queued : Bool} : Announces archiveTables (settleArchiveStatus req id queued now) := by
  refine .bind (.of_quiet lookup_touches) fun found => ?_
  extract_lets rest
  have hrest : ∀ u, Emits archiveTables (rest u) := fun _ =>
    .bind (.whenever fun _ => markApplyWorktreesForQueue_touches (by decide)) fun _ =>
      .event (by decide) fun _ => .bind load_touches fun _ => .pure _
  cases found with
  | none => exact (Emits.bind (insertInto_touches (fun _ _ => rfl) _) hrest).announces
  | some existing =>
    dsimp only
    split_ifs
    · exact .pure _
    · exact .bind (.ensure _ _) fun _ =>
        (Emits.bind (updateOpenSpecArchiveStatus_touches (by decide)) hrest).announces

theorem recordOpenSpecArchiveStatus_announces {req : RecordOpenSpecArchiveStatusReq} :
    Announces archiveTables (recordOpenSpecArchiveStatus req now) := by
  refine mutation_announces <| .bind (.of_quiet requireRole_touches) fun _ =>
    .bind (.lift _) fun _ => .bind (.lift _) fun _ => .bind (.lift _) fun _ =>
    .bind (.of_quiet option_forM_touches) fun _ => .bind (.of_quiet option_forM_touches) fun _ =>
    .bind .get fun s => ?_
  split_ifs
  · exact .bind (.of_quiet (.of_readOnly directAppliedArchiveSubtask_readOnly)) fun _ =>
      settleArchiveStatus_announces
  · refine .bind (.of_quiet load_touches) fun item => .bind (.ensure _ _) fun _ =>
      .bind (.ensure _ _) fun _ => ?_
    split
    · exact .bind (.fail _) fun _ => settleArchiveStatus_announces
    · exact .bind (.ensure _ _) fun _ => settleArchiveStatus_announces

/-- The tables that the cleanup of a change writes. -/
def cleanupTables : List TableName :=
  [.subtasks, .fenceCounters, .claims, .applyWorktrees, .openSpecArchiveStatus, .cleanupClaims,
    .reservations, .events]

theorem releaseActiveReservationsForSubtask_touches {id : SubtaskId} (hl : [.reservations] ⊆ l) :
    (releaseActiveReservationsForSubtask id now).Within (Touches l) :=
  Touches.weaken (.bind (updateIn_touches (fun _ _ => rfl) _ _) fun _ => .pure _) hl

/-- The tables that the claim of a cleanup is kept in. -/
def cleanupLeaseTables : List TableName :=
  [.subtasks, .fenceCounters, .claims, .cleanupClaims, .reservations, .events]

theorem cleanupLeaseTables_subset : cleanupLeaseTables ⊆ cleanupTables := by decide

theorem endCleanupClaim_touches {row : CleanupClaimRow} {claimState : ClaimState}
    {subtaskState : SubtaskState} (hl : cleanupLeaseTables ⊆ l) :
    (endCleanupClaim row claimState subtaskState now).Within (Touches l) :=
  Touches.weaken (.bind (updateIn_touches (fun _ _ => rfl) _ _) fun _ =>
    .bind (updateSubtasks_touches (by decide) _ _ fun _ => rfl) fun _ =>
    releaseActiveReservationsForSubtask_touches (by decide)) hl

theorem retireStaleCleanupClaim_touches {changeId : OpenSpecChangeId} :
    (retireStaleCleanupClaim changeId leaseNow now).Within (Touches cleanupLeaseTables) := by
  refine .bind .get fun s => ?_
  dsimp only
  split
  · exact .pure _
  · exact .whenever fun _ => endCleanupClaim_touches (List.Subset.refl _)

theorem cleanupSubtaskId_touches {changeId : OpenSpecChangeId} :
    (cleanupSubtaskId changeId).Within (Touches l) := by
  unfold cleanupSubtaskId
  split
  · exact .pure _
  · exact .of_readOnly cleanupMissing_readOnly

theorem ensureCleanupSubtask_touches {id : SubtaskId} {m : MetaTaskId} {title : SubtaskTitle}
    {lane : RoutingKey} (hl : [.subtasks] ⊆ l) :
    (ensureCleanupSubtask id m title lane now).Within (Touches l) :=
  Touches.weaken (.bind subtaskExists_touches fun _ =>
    .bind (.whenever fun _ => insertSubtaskRow_touches (by decide) _) fun _ =>
    .bind (updateSubtasks_touches (by decide) _ _ fun _ => rfl) fun _ => .pure _) hl

theorem upsertCleanupClaim_touches {claim : ClaimRow} (hl : [.claims] ⊆ l) :
    (upsertCleanupClaim claim).Within (Touches l) := by
  refine Touches.weaken (.bind .get fun s => ?_) hl
  cases s.claims.get? claim.claimId with
  | none => exact insertInto_touches (fun _ _ => rfl) _
  | some existing =>
    exact .bind (.ensure _ _) fun _ => .bind (updateIn_touches (fun _ _ => rfl) _ _) fun _ => .pure _

theorem reserveArchivePath_touches {req : BeginOpenSpecArchiveCleanupReq} {id : SubtaskId}
    {deadline : ℤ} {path : RepoopsPath} :
    (reserveArchivePath req id deadline now path).Within (Touches cleanupLeaseTables) := by
  refine .bind freshId_touches fun _ => .bind (insertInto_touches (fun _ _ => rfl) _) fun _ => ?_
  split
  · exact .bind (.of_readOnly cleanupMissing_readOnly) fun _ =>
      appendSessionEvent_touches (by decide)
  · exact appendSessionEvent_touches (by decide)

theorem cleanupClaimId_touches {changeId : OpenSpecChangeId} {id : SubtaskId} :
    (cleanupClaimId changeId id).Within (Touches l) := by
  refine .bind .get fun s => ?_
  split
  · exact .pure _
  · exact freshId_touches

theorem upsertCleanupClaimRow_touches {row : CleanupClaimRow} (hl : [.cleanupClaims] ⊆ l) :
    (upsertCleanupClaimRow row).Within (Touches l) := by
  refine Touches.weaken (.bind lookup_touches fun found => ?_) hl
  cases found with
  | none => exact insertInto_touches (fun _ _ => rfl) _
  | some _ => exact .bind (updateIn_touches (fun _ _ => rfl) _ _) fun _ => .pure _

theorem openCleanupClaim_emits {req : BeginOpenSpecArchiveCleanupReq}
    {blockers : List OpenSpecArchiveStatusRow} :
    Emits cleanupLeaseTables (openCleanupClaim req blockers leaseNow now) :=
  .bind (.of_readOnly cleanupMetaTaskId_readOnly) fun _ => .bind load_touches fun _ =>
    .bind cleanupSubtaskId_touches fun _ => .bind (.lift _) fun _ => .bind (.lift _) fun _ =>
    .bind (ensureCleanupSubtask_touches (by decide)) fun _ =>
    .bind (issueFenceSeq_touches (by decide)) fun _ => .bind cleanupClaimId_touches fun _ =>
    .bind (.lift _) fun _ => .bind (upsertCleanupClaim_touches (by decide)) fun _ =>
    .bind (updateSubtasks_touches (by decide) _ _ fun _ => rfl) fun _ =>
    .bind (.forEach (fun _ => reserveArchivePath_touches) _) fun _ =>
    .bind (upsertCleanupClaimRow_touches (by decide)) fun _ => .event (by decide) fun _ => .pure _

theorem beginOpenSpecArchiveCleanup_announces {req : BeginOpenSpecArchiveCleanupReq} :
    Announces cleanupLeaseTables (beginOpenSpecArchiveCleanup req now) := by
  refine leasedMutation_announces fun _ => .bind (.of_quiet requireRole_touches) fun _ =>
    .bind (.of_quiet (.of_readOnly archiveEligibilityForChange_readOnly)) fun _ =>
    .bind (.of_quiet (.whenever fun _ => .of_readOnly cleanupMissing_readOnly)) fun _ =>
    .bind (.of_quiet (.of_readOnly loadCleanupClaimForChange_readOnly)) fun found => ?_
  cases found with
  | some existing => exact .pure _
  | none =>
    exact (Emits.bind retireStaleCleanupClaim_touches fun _ => .first openCleanupClaim_emits fun _ =>
      .pure _).announces

theorem archiveBlocker_touches {req : FinishOpenSpecArchiveCleanupReq}
    {blocker : OpenSpecArchiveStatusRow} (hl : archiveTables ⊆ l) :
    (archiveBlocker req now blocker).Within (Touches l) :=
  Touches.weaken (.bind (.lift _) fun _ =>
    .bind (updateOpenSpecArchiveStatus_touches (by decide)) fun _ =>
    .bind (markApplyWorktreesForQueue_touches (by decide)) fun _ =>
    appendSessionEvent_touches (by decide)) hl

theorem finishOpenSpecArchiveCleanup_touches {req : FinishOpenSpecArchiveCleanupReq} :
    (finishOpenSpecArchiveCleanup req now).Within (Touches cleanupTables) := by
  refine mutation_touches <| .bind requireRole_touches fun _ => .bind .get fun s => ?_
  split
  · exact .fail _
  · refine .bind requireCurrentClaim_touches fun _ =>
      .bind (.of_readOnly loadOpenArchiveBlockers_readOnly) fun blockers => ?_
    split_ifs
    · exact .bind (.bind (.whenever fun _ => .of_readOnly cleanupMissing_readOnly) fun _ =>
        .bind selectFrom_touches fun _ =>
        .bind (releaseActiveReservationsForSubtask_touches (by decide)) fun _ => .pure _) fun _ =>
        .pure _
    · exact .bind (.forEach (fun _ => archiveBlocker_touches (by decide)) _) fun _ =>
        .bind (updateIn_touches (fun _ _ => rfl) _ _) fun _ =>
        .bind (endCleanupClaim_touches cleanupLeaseTables_subset) fun _ =>
        .bind (.lift _) fun _ => .bind (appendSessionEvent_touches (by decide)) fun _ => .pure _

end Covey

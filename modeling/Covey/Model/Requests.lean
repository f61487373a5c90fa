import Covey.Model.Imports

/-!
# Requests and responses

Model of `src/model/requests.rs`: the typed request of every mutation, with the
fields of the source. Three families whose members have the same fields share one
structure (`ClaimReq`, `FailedAttemptReq`, `SessionReq`).

The idempotency table stores the BLAKE3 hash of the serialized request and the
serialized response; the model stores the request and the response themselves, so
a hash comparison is an equality test.
-/

namespace Covey

/-- `HeartbeatReq`, `ExitSessionReq`, `ReconcileApplyQueueReq` and
    `ReconcileChangesRequestedFollowupsReq`: a session and its idempotency key. -/
structure SessionReq where
  sessionToken : SessionToken
  idempotencyKey : IdempotencyKey
deriving DecidableEq

abbrev HeartbeatReq := SessionReq
abbrev ExitSessionReq := SessionReq
abbrev ReconcileApplyQueueReq := SessionReq
abbrev ReconcileChangesRequestedFollowupsReq := SessionReq

structure RegisterSessionReq where
  agentPrincipalId : AgentPrincipalId
  agentInstanceId : AgentInstanceId
  role : SessionRole
  idempotencyKey : IdempotencyKey
deriving DecidableEq

structure RecordRuntimeAttestationReq where
  sessionToken : SessionToken
  provider : Text .providerId
  model : Text .modelId
  providerRunId : Text .providerRunId
  providerRunIdIssuer : Text .providerRunIdIssuer
  processId : Option (Text .runtimeProcessId)
  containerId : Option (Text .runtimeContainerId)
  commandTranscriptDigest : Text .commandTranscriptDigest
  identified : processId.isSome ∨ containerId.isSome
  startedAt : ℤ
  endedAt : ℤ
  ordered : 0 ≤ startedAt ∧ startedAt ≤ endedAt
  idempotencyKey : IdempotencyKey
deriving DecidableEq

structure SubmitMetaTaskReq where
  sessionToken : SessionToken
  promptText : PromptText
  idempotencyKey : IdempotencyKey
deriving DecidableEq

structure CancelMetaTaskReq where
  sessionToken : SessionToken
  metaTaskId : MetaTaskId
  idempotencyKey : IdempotencyKey
deriving DecidableEq

structure CreateWorkSubtaskReq where
  sessionToken : SessionToken
  metaTaskId : MetaTaskId
  subtaskId : Option SubtaskId
  title : SubtaskTitle
  priority : SubtaskPriority
  completionPolicy : CompletionPolicy
  routingKey : RoutingKey
  evidencePolicy : EvidencePolicy
  dependsOn : List SubtaskId
  idempotencyKey : IdempotencyKey
deriving DecidableEq

/-- `CreateSubtaskRequest`: the policies come from the opened workflow profile. -/
structure CreateSubtaskRequest where
  sessionToken : SessionToken
  metaTaskId : MetaTaskId
  subtaskId : Option SubtaskId
  title : SubtaskTitle
  priority : SubtaskPriority
  dependsOn : List SubtaskId
  idempotencyKey : IdempotencyKey
deriving DecidableEq

structure ClaimNextReq where
  sessionToken : SessionToken
  leaseDurationMs : LeaseDurationMs
  metaTaskId : Option MetaTaskId
  idempotencyKey : IdempotencyKey
deriving DecidableEq

structure ClaimNextRoutedReq where
  sessionToken : SessionToken
  leaseDurationMs : LeaseDurationMs
  routingKey : RoutingKey
  metaTaskId : Option MetaTaskId
  idempotencyKey : IdempotencyKey
deriving DecidableEq

structure ClaimSubtaskReq where
  sessionToken : SessionToken
  subtaskId : SubtaskId
  leaseDurationMs : LeaseDurationMs
  idempotencyKey : IdempotencyKey
deriving DecidableEq

/-- `StartSubtaskReq`, `AbandonSubtaskReq` and `ReleaseClaimReq`: a claim and its fence. -/
structure ClaimReq where
  sessionToken : SessionToken
  claimId : ClaimId
  fenceSeq : FenceSeq
  idempotencyKey : IdempotencyKey
deriving DecidableEq

abbrev StartSubtaskReq := ClaimReq
abbrev AbandonSubtaskReq := ClaimReq
abbrev ReleaseClaimReq := ClaimReq

structure RenewClaimReq where
  sessionToken : SessionToken
  claimId : ClaimId
  fenceSeq : FenceSeq
  extendByMs : LeaseDurationMs
  idempotencyKey : IdempotencyKey
deriving DecidableEq

structure FinishSubtaskReq where
  sessionToken : SessionToken
  claimId : ClaimId
  fenceSeq : FenceSeq
  evidenceDigest : Option AttemptEvidenceDigest
  summary : AttemptSummary
  idempotencyKey : IdempotencyKey
deriving DecidableEq

/-- `RetrySubtaskReq` and `FailSubtaskReq`. -/
structure FailedAttemptReq where
  sessionToken : SessionToken
  claimId : ClaimId
  fenceSeq : FenceSeq
  evidenceDigest : Option AttemptEvidenceDigest
  failureCode : AttemptFailureCode
  summary : AttemptSummary
  idempotencyKey : IdempotencyKey
deriving DecidableEq

abbrev RetrySubtaskReq := FailedAttemptReq
abbrev FailSubtaskReq := FailedAttemptReq

structure PublishArtifactReq where
  sessionToken : SessionToken
  claimId : ClaimId
  fenceSeq : FenceSeq
  artifactDigest : ArtifactDigest
  artifactKind : ArtifactKind
  baseRev : BaseRev
  manifestPath : ArtifactManifestPath
  changedPathsDigest : ChangedPathsDigest
  idempotencyKey : IdempotencyKey
deriving DecidableEq

structure RequestReviewReq where
  sessionToken : SessionToken
  subtaskId : SubtaskId
  artifactDigest : ArtifactDigest
  reviewSubtaskId : Option SubtaskId
  priority : SubtaskPriority
  idempotencyKey : IdempotencyKey
deriving DecidableEq

structure DecideReviewReq where
  sessionToken : SessionToken
  reviewId : ReviewId
  claimId : ClaimId
  fenceSeq : FenceSeq
  verdict : ReviewVerdict
  findingsDigest : FindingsDigest
  idempotencyKey : IdempotencyKey
deriving DecidableEq

structure RecordPermissiveLandingReceiptReq where
  sessionToken : SessionToken
  reviewId : ReviewId
  claimId : ClaimId
  fenceSeq : FenceSeq
  artifactDigest : ArtifactDigest
  findingsDigest : FindingsDigest
  targetRef : BaseRev
  landedCommitOid : Option LandedCommitOid
  receiptDigest : PermissiveLandingReceiptDigest
  idempotencyKey : IdempotencyKey
deriving DecidableEq

structure EnqueueForApplyReq where
  sessionToken : SessionToken
  artifactDigest : ArtifactDigest
  subtaskId : SubtaskId
  idempotencyKey : IdempotencyKey
deriving DecidableEq

structure ClaimReadyQueueReq where
  sessionToken : SessionToken
  leaseDurationMs : LeaseDurationMs
  idempotencyKey : IdempotencyKey
deriving DecidableEq

structure MarkInFlightReq where
  sessionToken : SessionToken
  queueId : QueueId
  leaseDurationMs : LeaseDurationMs
  idempotencyKey : IdempotencyKey
deriving DecidableEq

structure RecordApplyVerificationReq where
  sessionToken : SessionToken
  queueId : QueueId
  artifactDigest : ArtifactDigest
  reviewId : ReviewId
  findingsDigest : FindingsDigest
  claimFenceSeq : FenceSeq
  verifier : VerifierId
  verdictDigest : ArtifactDigest
  sealDigest : ArtifactDigest
  idempotencyKey : IdempotencyKey
deriving DecidableEq

structure RecordApplyGateBlockerReq where
  sessionToken : SessionToken
  queueId : QueueId
  artifactDigest : ArtifactDigest
  claimFenceSeq : FenceSeq
  verifier : VerifierId
  blockerKind : ApplyGateBlockerKind
  reason : ApplyGateBlockerReason
  evidenceId : ApplyGateBlockerEvidenceId
  idempotencyKey : IdempotencyKey
deriving DecidableEq

structure RecordSettlementReconcileBlockerReq where
  sessionToken : SessionToken
  queueId : QueueId
  artifactDigest : ArtifactDigest
  claimFenceSeq : FenceSeq
  reconcileReason : SettlementReconcileReason
  authorityEvidenceId : SettlementReconcileEvidenceId
  idempotencyKey : IdempotencyKey
deriving DecidableEq

structure RecordLandingReceiptReq where
  sessionToken : SessionToken
  queueId : QueueId
  artifactDigest : ArtifactDigest
  claimFenceSeq : FenceSeq
  targetRef : BaseRev
  landedCommitOid : LandedCommitOid
deriving DecidableEq

structure VerifyLandingAuthorizationReq where
  sessionToken : SessionToken
  queueId : QueueId
  artifactDigest : ArtifactDigest
  reviewId : ReviewId
  findingsDigest : FindingsDigest
  claimFenceSeq : FenceSeq
  verifier : VerifierId
  verdictDigest : ArtifactDigest
  sealDigest : ArtifactDigest

structure MarkAppliedReq where
  sessionToken : SessionToken
  queueId : QueueId
  claimFenceSeq : FenceSeq
  idempotencyKey : IdempotencyKey
deriving DecidableEq

structure RecordApplyWorktreeReq where
  sessionToken : SessionToken
  queueId : QueueId
  artifactDigest : ArtifactDigest
  path : ApplyWorktreePath
  idempotencyKey : IdempotencyKey
deriving DecidableEq

structure MarkApplyWorktreeStateReq where
  sessionToken : SessionToken
  path : ApplyWorktreePath
  state : ApplyWorktreeState
  idempotencyKey : IdempotencyKey
deriving DecidableEq

structure SupersedeQueueItemReq where
  sessionToken : SessionToken
  queueId : QueueId
  idempotencyKey : IdempotencyKey
deriving DecidableEq

structure RecordOpenSpecArchiveStatusReq where
  sessionToken : SessionToken
  queueId : QueueId
  artifactDigest : ArtifactDigest
  openspecChangeId : OpenSpecChangeId
  state : OpenSpecArchiveStatusState
  blockedReason : Option OpenSpecArchiveBlockedReason
  archiveProofDigest : Option ArtifactDigest
  idempotencyKey : IdempotencyKey
deriving DecidableEq

/-- `BeginOpenSpecArchiveCleanupReq`; `NonEmptyRepoopsPaths` is a list of distinct paths. -/
structure BeginOpenSpecArchiveCleanupReq where
  sessionToken : SessionToken
  openspecChangeId : OpenSpecChangeId
  paths : List RepoopsPath
  nonempty : paths ≠ []
  nodup : paths.Nodup
  idempotencyKey : IdempotencyKey
deriving DecidableEq

structure FinishOpenSpecArchiveCleanupReq where
  sessionToken : SessionToken
  openspecChangeId : OpenSpecChangeId
  cleanupClaimId : ClaimId
  fenceSeq : FenceSeq
  archiveProofDigest : ArtifactDigest
  idempotencyKey : IdempotencyKey
deriving DecidableEq

structure RequestReservationReq where
  sessionToken : SessionToken
  ownerSubtaskId : SubtaskId
  scope : ReservationScope
  leaseDurationMs : LeaseDurationMs
  idempotencyKey : IdempotencyKey
deriving DecidableEq

structure ReleaseReservationReq where
  sessionToken : SessionToken
  reservationId : ReservationId
  idempotencyKey : IdempotencyKey
deriving DecidableEq

structure RenewReservationReq where
  sessionToken : SessionToken
  reservationId : ReservationId
  extendByMs : LeaseDurationMs
  idempotencyKey : IdempotencyKey
deriving DecidableEq

/-- `ResolveConflictReq`; a `ConflictResolutionUpdate` is a state other than open. -/
structure ResolveConflictReq where
  sessionToken : SessionToken
  conflictId : ConflictId
  resolutionState : ConflictResolutionState
  closing : resolutionState ≠ .opened
  idempotencyKey : IdempotencyKey
deriving DecidableEq

structure RecordOperatorBlockerReq where
  sessionToken : SessionToken
  blockerId : OperatorBlockerId
  openspecChangeId : OpenSpecChangeId
  targetKind : OperatorBlockerTargetKind
  subtaskId : SubtaskId
  queueId : Option QueueId
  artifactDigest : Option ArtifactDigest
  reason : OperatorBlockerReason
  sourceEvidenceId : Option OperatorBlockerEvidenceId
  idempotencyKey : IdempotencyKey
deriving DecidableEq

structure ResolveOperatorBlockerReq where
  sessionToken : SessionToken
  blockerId : OperatorBlockerId
  resolvedReason : OperatorBlockerReason
  idempotencyKey : IdempotencyKey
deriving DecidableEq

structure RecordProseApplyBlockerReq where
  sessionToken : SessionToken
  blockerId : ProseApplyBlockerId
  tasksetId : ProseTasksetId
  queueId : Option QueueId
  artifactDigest : Option ArtifactDigest
  reviewId : Option ReviewId
  reason : PromptText
  detail : PromptText
  idempotencyKey : IdempotencyKey
deriving DecidableEq

structure RecordVcsWorkspaceReq where
  sessionToken : SessionToken
  workspaceId : VcsWorkspaceId
  kind : VcsWorkspaceKind
  path : VcsWorkspacePath
  jjWorkspaceName : Option VcsWorkspaceRef
  claimId : Option ClaimId
  subtaskId : Option SubtaskId
  openspecChangeId : Option OpenSpecChangeId
  queueId : Option QueueId
  artifactDigest : Option ArtifactDigest
  currentBookmark : Option VcsWorkspaceRef
  currentChangeId : Option VcsWorkspaceRef
  currentCommitId : Option VcsWorkspaceRef
  state : VcsWorkspaceState
  lastCleanliness : VcsWorkspaceCleanliness
  lastObservedReason : Option VcsWorkspaceObservationReason
  idempotencyKey : IdempotencyKey
deriving DecidableEq

structure ObserveVcsWorkspaceReq where
  sessionToken : SessionToken
  workspaceId : VcsWorkspaceId
  state : VcsWorkspaceState
  lastCleanliness : VcsWorkspaceCleanliness
  lastObservedReason : Option VcsWorkspaceObservationReason
  currentBookmark : Option VcsWorkspaceRef
  currentChangeId : Option VcsWorkspaceRef
  currentCommitId : Option VcsWorkspaceRef
  idempotencyKey : IdempotencyKey
deriving DecidableEq

structure RecordVcsPacketStackEntryReq where
  sessionToken : SessionToken
  stackEntryId : VcsPacketStackEntryId
  openspecChangeId : OpenSpecChangeId
  packetBookmark : VcsWorkspaceRef
  claimId : ClaimId
  subtaskId : SubtaskId
  artifactDigest : ArtifactDigest
  reviewId : ReviewId
  findingsDigest : FindingsDigest
  claimBookmark : VcsWorkspaceRef
  claimChangeId : VcsWorkspaceRef
  claimCommitId : VcsWorkspaceRef
  stackPosition : ℤ
  treeEquivalenceDigest : Option ArtifactDigest
  state : VcsPacketStackEntryState
  idempotencyKey : IdempotencyKey
deriving DecidableEq

structure RecordVcsPrPublicationReq where
  sessionToken : SessionToken
  publicationId : VcsPrPublicationId
  kind : VcsPrPublicationKind
  openspecChangeId : Option OpenSpecChangeId
  claimId : Option ClaimId
  bookmark : VcsWorkspaceRef
  headCommitId : VcsWorkspaceRef
  baseRef : VcsWorkspaceRef
  prUrl : Option VcsWorkspaceRef
  status : VcsPrPublicationStatus
  blockerReason : Option VcsWorkspaceObservationReason
  idempotencyKey : IdempotencyKey
deriving DecidableEq

/-! ## Responses -/

/-- `SessionHandle`. -/
structure SessionHandle where
  sessionToken : SessionToken
  agentPrincipalId : AgentPrincipalId
  agentInstanceId : AgentInstanceId
  role : SessionRole

/-- `ClaimResult`. -/
structure ClaimResult where
  claimId : ClaimId
  subtaskId : SubtaskId
  fenceSeq : ℕ
  leaseDeadline : ℤ

/-- `ReadyQueueClaim`; the settlement target is the constant `canonical`. -/
structure ReadyQueueClaim where
  queueId : QueueId
  artifactDigest : ArtifactDigest
  subtaskId : SubtaskId
  claimFenceSeq : ℕ
  leaseDeadline : ℤ

/-- `ReviewDecisionResult`. -/
inductive ReviewDecisionResult
  | approved (reviewId : ReviewId)
  | failed (reviewId : ReviewId) (verdict : ReviewVerdict) (followupSubtaskId : SubtaskId)

/-- `ApplyQueueReconcileResult`. -/
structure ApplyQueueReconcileResult where
  approvedEnqueuedCount : ℕ
  readyForApplyEnqueuedCount : ℕ
  queueIds : List QueueId

/-- `OpenSpecArchiveCleanupClaim`. -/
structure OpenSpecArchiveCleanupClaim where
  openspecChangeId : OpenSpecChangeId
  cleanupSubtaskId : SubtaskId
  cleanupClaimId : ClaimId
  fenceSeq : ℕ
  archivePaths : List RepoopsPath
  openArchiveBlockers : List OpenSpecArchiveStatusRow

/-- `OpenSpecArchiveCleanupFinish`. -/
structure OpenSpecArchiveCleanupFinish where
  openspecChangeId : OpenSpecChangeId
  archiveProofDigest : ArtifactDigest
  archivedQueueIds : List QueueId
  cleanupSubtaskId : SubtaskId
  cleanupClaimId : ClaimId

/-- What the idempotency table stores as the request: the typed request itself. -/
inductive Request
  | session (req : SessionReq)
  | registerSession (req : RegisterSessionReq)
  | recordRuntimeAttestation (req : RecordRuntimeAttestationReq)
  | submitMetaTask (req : SubmitMetaTaskReq)
  | cancelMetaTask (req : CancelMetaTaskReq)
  | createWorkSubtask (req : CreateWorkSubtaskReq)
  | claimNext (req : ClaimNextReq) (routingKey : RoutingKey)
  | claimNextRouted (req : ClaimNextRoutedReq)
  | claimSubtask (req : ClaimSubtaskReq)
  | claim (req : ClaimReq)
  | renewClaim (req : RenewClaimReq)
  | finishSubtask (req : FinishSubtaskReq)
  | failedAttempt (req : FailedAttemptReq)
  | publishArtifact (req : PublishArtifactReq)
  | requestReview (req : RequestReviewReq)
  | decideReview (req : DecideReviewReq)
  | recordPermissiveLandingReceipt (req : RecordPermissiveLandingReceiptReq)
  | enqueueForApply (req : EnqueueForApplyReq)
  | claimReadyQueue (req : ClaimReadyQueueReq)
  | markInFlight (req : MarkInFlightReq)
  | recordApplyVerification (req : RecordApplyVerificationReq)
  | recordApplyGateBlocker (req : RecordApplyGateBlockerReq)
  | recordSettlementReconcileBlocker (req : RecordSettlementReconcileBlockerReq)
  | markApplied (req : MarkAppliedReq)
  | recordApplyWorktree (req : RecordApplyWorktreeReq)
  | markApplyWorktreeState (req : MarkApplyWorktreeStateReq)
  | supersedeQueueItem (req : SupersedeQueueItemReq)
  | recordOpenSpecArchiveStatus (req : RecordOpenSpecArchiveStatusReq)
  | beginOpenSpecArchiveCleanup (req : BeginOpenSpecArchiveCleanupReq)
  | finishOpenSpecArchiveCleanup (req : FinishOpenSpecArchiveCleanupReq)
  | importBdV1WorkSubtask (req : ImportBdV1WorkSubtaskReq)
  | importBdV1 (req : ImportBdV1Req)
  | importProse (req : ImportProseReq) (routingKey : RoutingKey)
  | requestReservation (req : RequestReservationReq)
  | releaseReservation (req : ReleaseReservationReq)
  | renewReservation (req : RenewReservationReq)
  | resolveConflict (req : ResolveConflictReq)
  | recordOperatorBlocker (req : RecordOperatorBlockerReq)
  | resolveOperatorBlocker (req : ResolveOperatorBlockerReq)
  | recordProseApplyBlocker (req : RecordProseApplyBlockerReq)
  | recordVcsWorkspace (req : RecordVcsWorkspaceReq)
  | observeVcsWorkspace (req : ObserveVcsWorkspaceReq)
  | recordVcsPacketStackEntry (req : RecordVcsPacketStackEntryReq)
  | recordVcsPrPublication (req : RecordVcsPrPublicationReq)
deriving DecidableEq

/-- What a mutation returns. -/
inductive Response
  | unit
  | id (value : String)
  | sessionHandle (handle : SessionHandle)
  | runtimeAttestation (row : RuntimeAttestationRow)
  | claim (result : ClaimResult)
  | nextClaim (result : Option ClaimResult)
  | attemptOutcome (row : AttemptOutcomeRow)
  | reviewDecision (result : ReviewDecisionResult)
  | followups (subtaskIds : List SubtaskId)
  | queueClaim (result : ReadyQueueClaim)
  | nextQueueClaim (result : Option ReadyQueueClaim)
  | queueReconcile (result : ApplyQueueReconcileResult)
  | applyWorktree (row : ApplyWorktreeRow)
  | archiveStatus (row : OpenSpecArchiveStatusRow)
  | cleanupClaim (result : OpenSpecArchiveCleanupClaim)
  | cleanupFinish (result : OpenSpecArchiveCleanupFinish)
  | importBdV1 (metaTaskId : MetaTaskId) (items : List ImportBdV1ItemResult)
  | importProse (result : ImportProseResult)
  | importOpenSpec (result : ImportOpenSpecResult)
  | reservation (row : ReservationRow)
  | operatorBlocker (row : OperatorBlockerRow)
  | vcsWorkspace (row : VcsWorkspaceRow)
  | vcsPacketStackEntry (row : VcsPacketStackEntryRow)
  | vcsPrPublication (row : VcsPrPublicationRow)
  | staleSessions (count : ℕ)
  | expired (count : ℕ)
  | exists (found : Bool)

end Covey

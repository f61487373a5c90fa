import Covey.Model.Types

/-!
# State enumerations

Model of `src/model/state.rs` and of the errors of `src/error.rs`. The wire names
(`*_name`) of the enumerations only serve to store them as text and are left out,
except where an error text holds one.
-/

namespace Covey

inductive ObjectType
  | metaTask | subtask | claim | artifact | review | readyQueue | session | runtimeAttestation
  | reservation | conflict | operatorBlocker | applyGateBlocker | settlementReconcileBlocker
  | applyWorktree | vcsWorkspace | vcsPacketStackEntry | vcsPrPublication
deriving DecidableEq

inductive EventType
  | sessionRegistered | sessionHeartbeat | sessionExited | runtimeAttestationRecorded
  | metaTaskSubmitted | metaTaskCancelled | subtaskCreated | workSubtaskCreated | subtaskClaimed
  | subtaskStarted | subtaskFinished | subtaskRetried | subtaskFailed | subtaskAbandoned
  | claimReleased | claimRenewed | artifactPublished | reviewRequested | reviewDecided
  | permissiveLandingRecorded | readyQueueEnqueued | readyQueueInFlight
  | applyVerificationRecorded | applyGateBlockerRecorded | settlementReconcileBlockerRecorded
  | readyQueueApplied | openSpecArchiveStatusRecorded | readyQueueSuperseded
  | reservationRequested | reservationReleased | reservationRenewed | conflictResolved
  | sessionsReaped | claimsExpired | reservationsExpired | openSpecImported
  | operatorBlockerRecorded | operatorBlockerResolved | applyWorktreeRecorded
  | applyWorktreeStateRecorded | vcsWorkspaceRecorded | vcsWorkspaceObserved
  | vcsPacketStackEntryRecorded | vcsPrPublicationRecorded | proseApplyBlockerRecorded
deriving DecidableEq

inductive SessionRole
  | executor | orchestrator | applyGate | reviewer
deriving DecidableEq

inductive SessionState
  | active | stale | exited
deriving DecidableEq

inductive MetaTaskState
  | planning | active | completed | cancelled
deriving DecidableEq

inductive SubtaskKind
  | work | review | cleanup
deriving DecidableEq

inductive SubtaskState
  | available | blocked | claimed | inProgress | artifactPublished | reviewPending
  | changesRequested | approved | decided | readyForApply | applied | completed | failed
  | abandoned
deriving DecidableEq

inductive CompletionPolicy
  | direct | reviewed | canonicalApply
deriving DecidableEq

/-- `EvidencePolicy` (config.rs:43-47). -/
inductive EvidencePolicy
  | optional | required
deriving DecidableEq

inductive AttemptOutcomeKind
  | succeeded | retryableFailure | terminalFailure
deriving DecidableEq

inductive ClaimState
  | held | released | expired | revoked
deriving DecidableEq

inductive OpenSpecArchiveStatusState
  | blocked | archived
deriving DecidableEq

inductive ArtifactKind
  | patchBundle | isolatedCommitRef | treeBundle | findingsBundle | verificationBundle
deriving DecidableEq

inductive ReviewVerdict
  | approve | changesRequested | blocked
deriving DecidableEq

inductive ReviewState
  | requested | inProgress | decided | superseded
deriving DecidableEq

inductive ScopeClass
  | exactPath | subtree | repoGlobal | generatedSet
deriving DecidableEq

/-- `scope_class_name` (state.rs:171-178). -/
def ScopeClass.name : ScopeClass → String
  | .exactPath => "exact_path"
  | .subtree => "subtree"
  | .repoGlobal => "repo_global"
  | .generatedSet => "generated_set"

inductive ReservationState
  | active | released | expired
deriving DecidableEq

inductive ReadyQueueState
  | queued | inFlight | applied | superseded | cancelled
deriving DecidableEq

inductive ConflictResolutionState
  | opened | acknowledged | resolved
deriving DecidableEq

inductive ApplyWorktreeState
  | active | applied | archived | retainedEvidence | cleanupAllowed
deriving DecidableEq

inductive OperatorBlockerTargetKind
  | subtask | readyQueue
deriving DecidableEq

inductive OperatorBlockerState
  | opened | resolved
deriving DecidableEq

inductive VcsWorkspaceKind
  | packet | claim | apply | execution
deriving DecidableEq

inductive VcsWorkspaceState
  | active | retained | cleanupAllowed | archived
deriving DecidableEq

inductive VcsWorkspaceCleanliness
  | unknown | clean | dirty | missing | stale | unusable
deriving DecidableEq

inductive VcsPacketStackEntryState
  | candidate | treeEquivalent | published | superseded
deriving DecidableEq

inductive VcsPrPublicationKind
  | packet | claim
deriving DecidableEq

inductive VcsPrPublicationStatus
  | prepared | published | blocked | superseded
deriving DecidableEq

inductive ApplyGateBlockerKind
  | authorityHold | gitApplyUncertainty
deriving DecidableEq

inductive SettlementReconcileReason
  | commitUnknown | authorityLost | staleFence | partialPrepare | partialFinalize
  | failedCanonicalApply | duplicateCompletion
deriving DecidableEq

/-- `StateValue` (state.rs:710-733): the state named by a transition error. -/
inductive StateValue
  | session (state : SessionState)
  | metaTask (state : MetaTaskState)
  | subtask (state : SubtaskState)
  | claim (state : ClaimState)
  | review (state : ReviewState)
  | reservation (state : ReservationState)
  | readyQueue (state : ReadyQueueState)
  | openSpecArchiveStatus (state : OpenSpecArchiveStatusState)
  | conflictResolution (state : ConflictResolutionState)
  | applyWorktree (state : ApplyWorktreeState)

/-- `CoveyError` (error.rs:9-209), the variants the modelled functions return. The
    texts of the error messages are the `#[error]` attributes; the data they print is
    carried by the constructors. -/
inductive CoveyError
  | sessionNotFound
  | subtaskNotFound
  | artifactNotFound
  | reviewNotFound
  | metaTaskNotFound
  | reservationNotFound
  | claimNotFound
  | queueItemNotFound
  | conflictNotFound
  | illegalTransition (source target : StateValue) (object : ObjectType)
  | subtaskAlreadyClaimed (subtaskId : SubtaskId) (heldBy : SessionToken)
  | sessionAlreadyActive (agentPrincipalId : AgentPrincipalId)
  | sessionNotActive (sessionToken : SessionToken) (state : SessionState)
  | sessionAlreadyHasActiveSubtask (sessionToken : SessionToken) (activeSubtaskId : SubtaskId)
  | runtimeAttestationMissing (sessionToken : SessionToken)
  | invalidRuntimeAttestation (sessionToken : SessionToken) (reason : String)
  | invalidIdempotencyKey (idempotencyKey : String)
  | idempotencyConflict (actorKey operation idempotencyKey : String)
  | staleFenceToken (expected provided : ℕ)
  | fenceTokenMismatch
  | claimNotHeld (claimId : ClaimId) (state : ClaimState)
  | notClaimOwner (sessionToken claimOwner : SessionToken)
  | notQueueClaimOwner (sessionToken queueOwner : SessionToken)
  | wrongRole (expected : List SessionRole) (actual : SessionRole)
  | artifactDigestCollision (digest : String)
  | duplicateSubtaskId (subtaskId : SubtaskId)
  | subtaskDependencyNotFound (subtaskId dependsOnSubtaskId : SubtaskId)
  | invalidSubtaskDependency (reason : String)
  | completionPolicyViolation (operation : String) (policy : CompletionPolicy)
  | attemptEvidenceRequired (operation subtaskId : String)
  | leaseExpired (objectId : String)
  | reviewKindMismatch
  | reviewAlreadyOpen (subtaskId : SubtaskId) (artifactDigest : ArtifactDigest)
  | staleReviewArtifact (reviewId : String) (subtaskId : SubtaskId)
      (artifactDigest currentArtifactDigest : ArtifactDigest)
  | separationOfDutiesViolation (reviewerPrincipalId producerPrincipalId : String)
  | applyGateEvidenceMissing (queueId : QueueId) (reason : String)
  | applyGateSeparationOfDutiesViolation
      (applyGatePrincipalId conflictingRole conflictingPrincipalId : String)
  | metaTaskUnavailable (metaTaskId : String) (state : MetaTaskState)
  | unknownArtifactDigest (digest : String)
  | invalidPath (path : String)
  | inputTooLarge (field : String) (actual max : ℕ)
  | invalidImportDestination (reason : String)
  | invalidImportRow (sourceIssueId reason : String)
  | invalidEventShape (reason : String)
  | invalidObservabilityRow (reason : String)
  | importDuplicate (sourceIssueId : String) (subtaskId : SubtaskId)
  | databaseError (reason : String)
  | typeValidationError (error : TypeValidationError)

/-- The `?` conversion from a scalar's validation error. -/
def typed {α : Type} (x : Except TypeValidationError α) : Except CoveyError α :=
  match x with
  | .ok a => .ok a
  | .error e => .error (.typeValidationError e)

@[simp] theorem typed_ok {α : Type} {x : Except TypeValidationError α} {a : α} :
    typed x = .ok a ↔ x = .ok a := by
  cases x <;> simp [typed]

/-- The reason of a rejected fact is reported as `InvalidObservabilityRow`. -/
def observed {α : Type} : Except String α → Except CoveyError α
  | .ok a => .ok a
  | .error reason => .error (.invalidObservabilityRow reason)

end Covey

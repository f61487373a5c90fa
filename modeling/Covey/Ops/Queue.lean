import Covey.Ops.Lifecycle

/-!
# The apply queue

Model of the apply-queue operations of `src/ops/queue.rs`: taking rows in flight,
the evidence of an apply attempt, settling a row and landing receipts.
-/

namespace Covey

/-! ## Filling the queue -/

/-- `enqueue_for_apply` (queue.rs:83-155). -/
def enqueueForApply (req : EnqueueForApplyReq) (now : ℤ) : Txn Response :=
  mutation req.sessionToken.val "enqueue_for_apply" req.idempotencyKey (.enqueueForApply req) now do
    let session ← requireActiveSession req.sessionToken
    requireSessionCanEnqueue session
    ensureLength "artifact_digest" req.artifactDigest.val 512
    ensureLength "subtask_id" req.subtaskId.val 256
    let subtask ← loadSubtask req.subtaskId
    requireCanonicalApplyPolicy subtask "enqueue_for_apply"
    ensureMetaTaskIsSchedulable subtask.metaTaskId
    let illegal : CoveyError :=
      .illegalTransition (.subtask subtask.state) (.subtask .readyForApply) .subtask
    Tx.ensure (subtask.artifactDigest = some req.artifactDigest) illegal
    match ← activeQueueIdForArtifact req.subtaskId req.artifactDigest, subtask.state with
    | some queueId, .readyForApply => return .id queueId.val
    | _, _ =>
      ensureSubtaskTransition subtask.kind subtask.state .readyForApply
      match ← enqueueApprovedSubtaskForApply req.sessionToken req.subtaskId req.artifactDigest now
        req.idempotencyKey.val with
      | some queueId => return .id queueId.val
      | none => Tx.fail illegal

/-- `enqueueForApply` of a subtask whose artifact has no row yet. -/
def enqueueNewRow (req : EnqueueForApplyReq) (kind : SubtaskKind) (state : SubtaskState)
    (now : ℤ) : Txn Response := do
  ensureSubtaskTransition kind state .readyForApply
  match ← enqueueApprovedSubtaskForApply req.sessionToken req.subtaskId req.artifactDigest now
    req.idempotencyKey.val with
  | some queueId => return .id queueId.val
  | none => Tx.fail (.illegalTransition (.subtask state) (.subtask .readyForApply) .subtask)

/-- The common query of `enqueue_approved_apply_candidates_tx` and
    `enqueue_orphaned_ready_for_apply_items_tx` (queue.rs:2449-2589): work in the given state
    with an applyable, approved artifact that is in no active queue row. -/
def applyCandidates (s : Db) (state : SubtaskState) : List (SubtaskId × ArtifactDigest) :=
  let candidates := s.subtasks.select fun r =>
    r.kind = .work ∧ r.state = state ∧ metaTaskIsClaimable s r.metaTaskId ∧
    ∃ digest ∈ r.artifactDigest,
      (s.artifacts.get? digest).any (fun a => a.artifactKind.isApplyable) = true ∧
      (∃ review ∈ s.reviews.rows, review.subtaskId = r.subtaskId ∧
        review.artifactDigest = digest ∧ review.state = .decided ∧
        review.verdict = some .approve) ∧
      ¬∃ q ∈ s.readyQueue.rows, q.subtaskId = r.subtaskId ∧ q.artifactDigest = digest ∧ q.isActive
  (candidates.insertionSort fun a b => a.updatedAt < b.updatedAt ∨
    (a.updatedAt = b.updatedAt ∧ a.createdAt ≤ b.createdAt)).filterMap fun r =>
      r.artifactDigest.map fun digest => (r.subtaskId, digest)

/-- `enqueue_approved_apply_candidates_tx` (queue.rs:2520-2589). -/
def enqueueApprovedApplyCandidates (sessionToken : SessionToken) (now : ℤ) :
    Txn (List (Option QueueId)) := do
  let approved := applyCandidates (← Tx.get) .approved
  Tx.mapEach approved fun (subtaskId, artifactDigest) =>
    enqueueApprovedSubtaskForApply sessionToken subtaskId artifactDigest now
      ("auto-enqueue-approved:" ++ subtaskId.val ++ ":" ++ artifactDigest.val)

/-- `enqueue_orphaned_ready_for_apply_items_tx` (queue.rs:2449-2518). -/
def enqueueOrphanedReadyForApplyItems (sessionToken : SessionToken) (now : ℤ) :
    Txn (List (Option QueueId)) := do
  let orphaned := applyCandidates (← Tx.get) .readyForApply
  Tx.mapEach orphaned fun (subtaskId, artifactDigest) =>
    insertReadyQueueItem sessionToken subtaskId artifactDigest now
      ("auto-requeue-ready-for-apply:" ++ subtaskId.val ++ ":" ++ artifactDigest.val)

/-- `reconcile_apply_queue` (queue.rs:158-212). -/
def reconcileApplyQueue (req : ReconcileApplyQueueReq) (now : ℤ) : Txn Response :=
  leasedMutation req.sessionToken.val "reconcile_apply_queue" req.idempotencyKey
    (.session req) now fun leaseNow => do
    let _ ← requireRole req.sessionToken [.orchestrator, .applyGate]
    requeueStaleReadyQueueClaims leaseNow now
    let approved ← enqueueApprovedApplyCandidates req.sessionToken now
    let ready ← enqueueOrphanedReadyForApplyItems req.sessionToken now
    let approvedIds := approved.filterMap id
    let readyIds := ready.filterMap id
    return .queueReconcile ⟨approvedIds.length, readyIds.length, approvedIds ++ readyIds⟩

/-! ## Taking a row in flight -/

/-- The loop of `claim_next_ready_queue_item` (queue.rs:318-337). A round that claims nothing
    takes a row out of the queue, so one round more than there are queued rows suffices. -/
def claimNextQueued (sessionToken : SessionToken) (leaseDuration : LeaseDurationMs)
    (leaseNow now : ℤ) : ℕ → Txn (Option ReadyQueueClaim)
  | 0 => pure none
  | rounds + 1 => do
    match ← orderedReadyQueueCandidate with
    | none => pure none
    | some queueId =>
      match ← claimReadyQueueItem queueId sessionToken leaseDuration leaseNow now with
      | some claim =>
        appendSessionEvent .readyQueueInFlight .readyQueue claim.queueId.val sessionToken now
        pure (some claim)
      | none => claimNextQueued sessionToken leaseDuration leaseNow now rounds

/-- `claim_next_ready_queue_item` (queue.rs:296-356). -/
def claimNextReadyQueueItem (req : ClaimReadyQueueReq) (now : ℤ) : Txn Response :=
  leasedMutation req.sessionToken.val "claim_next_ready_queue_item" req.idempotencyKey
    (.claimReadyQueue req) now fun leaseNow => do
    let _ ← requireRole req.sessionToken [.applyGate]
    requeueStaleReadyQueueClaims leaseNow now
    let _ ← enqueueOrphanedReadyForApplyItems req.sessionToken now
    let queued ← selectFrom Rel.readyQueue fun q => q.state = .queued
    let claim ← claimNextQueued req.sessionToken req.leaseDurationMs leaseNow now
      (queued.length + 1)
    return .nextQueueClaim claim

/-- `mark_in_flight` (queue.rs:359-413). -/
def markInFlight (req : MarkInFlightReq) (now : ℤ) : Txn Response :=
  leasedMutation req.sessionToken.val "mark_in_flight" req.idempotencyKey (.markInFlight req) now
    fun leaseNow => do
    let _ ← requireRole req.sessionToken [.applyGate]
    ensureLength "queue_id" req.queueId.val 256
    requeueStaleReadyQueueClaims leaseNow now
    let item ← loadQueueItem req.queueId
    match ← claimReadyQueueItem req.queueId req.sessionToken req.leaseDurationMs leaseNow now with
    | none =>
      Tx.fail (.illegalTransition (.readyQueue item.state) (.readyQueue .inFlight) .readyQueue)
    | some claim =>
      appendSessionEvent .readyQueueInFlight .readyQueue claim.queueId.val req.sessionToken now
      return .queueClaim claim

/-- `supersede_queue_item` (queue.rs:1671-1728). -/
def supersedeQueueItem (req : SupersedeQueueItemReq) (now : ℤ) : Txn Response :=
  mutation req.sessionToken.val "supersede_queue_item" req.idempotencyKey
    (.supersedeQueueItem req) now do
    let _ ← requireRole req.sessionToken [.applyGate, .orchestrator]
    ensureLength "queue_id" req.queueId.val 256
    let item ← loadQueueItem req.queueId
    ensureReadyQueueTransition item.state .superseded
    let updated ← updateIn Rel.readyQueue (fun q => q.queueId = req.queueId ∧ q.isOpen) fun q =>
      { q with state := .superseded, claimedBySessionToken := none, claimLeaseDeadline := none,
               updatedAt := now }
    Tx.ensure (updated = 1)
      (.illegalTransition (.readyQueue item.state) (.readyQueue .superseded) .readyQueue)
    appendSessionEvent .readyQueueSuperseded .readyQueue req.queueId.val req.sessionToken now
    return .unit

/-! ## Evidence of an apply attempt -/

/-- A decided approving review with findings of the item's artifact, which the reviewed
    subtask produced (the query of queue.rs:3098-3126 and 3150-3177). -/
def isApprovalOf (s : Db) (item : ReadyQueueRow) (r : ReviewRow) : Prop :=
  r.subtaskId = item.subtaskId ∧ r.artifactDigest = item.artifactDigest ∧ r.state = .decided ∧
  r.verdict = some .approve ∧ r.findingsDigest.isSome ∧
  (s.artifacts.get? r.artifactDigest).any (fun a => a.producedBySubtaskId = r.subtaskId) = true

instance (s : Db) (item : ReadyQueueRow) (r : ReviewRow) : Decidable (isApprovalOf s item r) :=
  inferInstanceAs (Decidable (_ ∧ _))

/-- The most recently updated of some reviews. -/
def latestReview (reviews : List ReviewRow) : Option ReviewRow :=
  (reviews.insertionSort fun a b => b.updatedAt ≤ a.updatedAt).head?

/-- `load_approved_review_evidence_tx` (queue.rs:3093-3133). -/
def loadApprovedReviewEvidence (item : ReadyQueueRow) : Txn (ReviewId × FindingsDigest) := do
  let s ← Tx.get
  let missing : CoveyError := .applyGateEvidenceMissing item.queueId
    "approved review with findings digest not found for queued artifact"
  match latestReview (s.reviews.select (isApprovalOf s item)) with
  | none => Tx.fail missing
  | some review =>
    match review.findingsDigest with
    | none => Tx.fail missing
    | some findingsDigest => return (review.reviewId, findingsDigest)

/-- `runtime_ref` of an attestation: process and container. -/
def RuntimeAttestationRow.runtimeRef (r : RuntimeAttestationRow) :
    Option (Text .runtimeProcessId) × Option (Text .runtimeContainerId) :=
  (r.processId, r.containerId)

/-- `require_runtime_actor_separation` (queue.rs:3254-3285). -/
def requireRuntimeActorSeparation (queueId : QueueId) (leftRole : String)
    (left : RuntimeAttestationRow) (rightRole : String) (right : RuntimeAttestationRow) :
    Except CoveyError Unit :=
  let shared (what : String) : Except CoveyError Unit :=
    .error (.applyGateEvidenceMissing queueId
      (leftRole ++ " and " ++ rightRole ++ " " ++ what ++ " are not separated"))
  if ¬left.providerRunIdentityMissing ∧ ¬right.providerRunIdentityMissing ∧
      left.providerRunIdIssuer = right.providerRunIdIssuer ∧
      left.providerRunId = right.providerRunId then shared "provider run ids"
  else if left.runtimeRef = right.runtimeRef then shared "runtime refs"
  else if left.commandTranscriptDigest = right.commandTranscriptDigest then
    shared "transcript digests"
  else .ok ()

/-- `require_live_apply_gate_evidence` (queue.rs:3135-3252): the approving review of the
    item's artifact, with producer, reviewer and apply gate pairwise separated. -/
def requireLiveApplyGateEvidence (item : ReadyQueueRow) (applyGate : SessionRow) :
    Txn (ReviewId × FindingsDigest) := do
  let s ← Tx.get
  let producerOf (r : ReviewRow) : Option SessionRow :=
    (s.artifacts.get? r.artifactDigest).bind fun a => s.sessions.get? a.producedBySession
  let missing : CoveyError := .applyGateEvidenceMissing item.queueId
    "approved review with findings digest not found for queued artifact"
  let approved := s.reviews.select fun r =>
    isApprovalOf s item r ∧ (producerOf r).isSome ∧ (s.sessions.get? r.reviewerSession).isSome
  match latestReview approved with
  | none => Tx.fail missing
  | some review =>
    match review.findingsDigest, producerOf review, s.sessions.get? review.reviewerSession with
    | some findingsDigest, some producer, some reviewer =>
      Tx.ensure (producer.agentPrincipalId ≠ reviewer.agentPrincipalId)
        (.applyGateEvidenceMissing item.queueId
          "producer and reviewer principals are not separated")
      Tx.ensure (applyGate.agentPrincipalId ≠ producer.agentPrincipalId)
        (.applyGateSeparationOfDutiesViolation applyGate.agentPrincipalId.val "producer"
          producer.agentPrincipalId.val)
      Tx.ensure (applyGate.agentPrincipalId ≠ reviewer.agentPrincipalId)
        (.applyGateSeparationOfDutiesViolation applyGate.agentPrincipalId.val "reviewer"
          reviewer.agentPrincipalId.val)
      let producerSession ← loadSession producer.sessionToken
      let reviewerSession ← loadSession reviewer.sessionToken
      let producerAttestation ← requireRuntimeAttestation producerSession
      let reviewerAttestation ← requireRuntimeAttestation reviewerSession
      let applyGateAttestation ← requireRuntimeAttestation applyGate
      requireRuntimeActorSeparation item.queueId "producer" producerAttestation
        "reviewer" reviewerAttestation
      requireRuntimeActorSeparation item.queueId "producer" producerAttestation
        "apply_gate" applyGateAttestation
      requireRuntimeActorSeparation item.queueId "reviewer" reviewerAttestation
        "apply_gate" applyGateAttestation
      return (review.reviewId, findingsDigest)
    | _, _, _ => Tx.fail missing

/-- `require_recorded_apply_verification` (queue.rs:3374-3412). -/
def requireRecordedApplyVerification (item : ReadyQueueRow)
    (evidence : ReviewId × FindingsDigest) (claimFenceSeq : FenceSeq) : Txn Unit := do
  let recorded ← selectFrom Rel.applyVerifications fun v =>
    v.queueId = item.queueId ∧ v.artifactDigest = item.artifactDigest ∧
    v.reviewId = evidence.1 ∧ v.findingsDigest = evidence.2 ∧
    v.claimFenceSeq = claimFenceSeq.val
  Tx.ensure (recorded ≠ []) (.applyGateEvidenceMissing item.queueId
    "accepted apply verifier verdict not recorded for queue artifact review and fence")

/-- `record_apply_verification` (queue.rs:416-503). -/
def recordApplyVerification (req : RecordApplyVerificationReq) (now : ℤ) : Txn Response :=
  mutation req.sessionToken.val "record_apply_verification" req.idempotencyKey
    (.recordApplyVerification req) now do
    let session ← requireRole req.sessionToken [.applyGate]
    let _ ← requireRuntimeAttestation session
    ensureLength "queue_id" req.queueId.val 256
    ensureLength "artifact_digest" req.artifactDigest.val 512
    ensureLength "review_id" req.reviewId.val 256
    ensureLength "findings_digest" req.findingsDigest.val 512
    ensureLength "verifier" req.verifier.val 256
    ensureLength "verdict_digest" req.verdictDigest.val 512
    ensureLength "seal_digest" req.sealDigest.val 512
    let item ← loadQueueItem req.queueId
    Tx.ensure (item.state = .inFlight ∧ item.artifactDigest = req.artifactDigest ∧
        item.claimFenceSeq = some req.claimFenceSeq.val)
      (.applyGateEvidenceMissing item.queueId
        "apply verification must target the current in-flight queue fence")
    let evidence ← requireLiveApplyGateEvidence item session
    Tx.ensure (evidence = (req.reviewId, req.findingsDigest))
      (.applyGateEvidenceMissing item.queueId
        "apply verification does not match the live approved review")
    insertInto Rel.applyVerifications
      { queueId := req.queueId
        artifactDigest := req.artifactDigest
        reviewId := req.reviewId
        findingsDigest := req.findingsDigest
        claimFenceSeq := req.claimFenceSeq.val
        verifier := req.verifier
        verdictDigest := req.verdictDigest
        sealDigest := req.sealDigest
        recordedBySession := req.sessionToken
        createdAt := now }
    appendSessionEvent .applyVerificationRecorded .readyQueue req.queueId.val req.sessionToken now
    return .unit

/-- `record_apply_gate_blocker` (queue.rs:668-745). -/
def recordApplyGateBlocker (req : RecordApplyGateBlockerReq) (now : ℤ) : Txn Response :=
  mutation req.sessionToken.val "record_apply_gate_blocker" req.idempotencyKey
    (.recordApplyGateBlocker req) now do
    let session ← requireRole req.sessionToken [.applyGate]
    let _ ← requireRuntimeAttestation session
    ensureLength "queue_id" req.queueId.val 256
    ensureLength "artifact_digest" req.artifactDigest.val 512
    ensureLength "verifier" req.verifier.val 256
    ensureLength "reason" req.reason.val 256
    ensureLength "evidence_id" req.evidenceId.val 256
    let item ← loadQueueItem req.queueId
    Tx.ensure (item.state = .inFlight ∧ item.artifactDigest = req.artifactDigest ∧
        item.claimFenceSeq = some req.claimFenceSeq.val)
      (.applyGateEvidenceMissing item.queueId
        "apply-gate blocker must target the current in-flight queue fence")
    let evidence ← requireLiveApplyGateEvidence item session
    insertInto Rel.applyGateBlockers
      { queueId := req.queueId
        artifactDigest := req.artifactDigest
        reviewId := evidence.1
        findingsDigest := evidence.2
        claimFenceSeq := req.claimFenceSeq.val
        verifier := req.verifier
        blockerKind := req.blockerKind
        reason := req.reason
        evidenceId := req.evidenceId
        recordedBySession := req.sessionToken
        createdAt := now }
    appendSessionEvent .applyGateBlockerRecorded .applyGateBlocker req.evidenceId.val
      req.sessionToken now
    return .unit

/-- `record_settlement_reconcile_blocker` (queue.rs:748-839). -/
def recordSettlementReconcileBlocker (req : RecordSettlementReconcileBlockerReq) (now : ℤ) :
    Txn Response :=
  mutation req.sessionToken.val "record_settlement_reconcile_blocker" req.idempotencyKey
    (.recordSettlementReconcileBlocker req) now do
    let _ ← requireRole req.sessionToken [.applyGate, .orchestrator]
    ensureLength "queue_id" req.queueId.val 256
    ensureLength "artifact_digest" req.artifactDigest.val 512
    ensureLength "authority_evidence_id" req.authorityEvidenceId.val 256
    let item ← loadQueueItem req.queueId
    Tx.ensure (item.state = .inFlight ∨ item.state = .applied)
      (.applyGateEvidenceMissing item.queueId
        "settlement reconcile evidence must target an in-flight or applied queue item")
    Tx.ensure (item.artifactDigest = req.artifactDigest ∧
        item.claimFenceSeq = some req.claimFenceSeq.val)
      (.applyGateEvidenceMissing item.queueId
        "settlement reconcile evidence does not match queue artifact or fence")
    let evidence ← loadApprovedReviewEvidence item
    insertInto Rel.settlementReconcileBlockers
      { queueId := req.queueId
        artifactDigest := req.artifactDigest
        reviewId := evidence.1
        findingsDigest := evidence.2
        claimFenceSeq := req.claimFenceSeq.val
        reconcileReason := req.reconcileReason
        authorityEvidenceId := req.authorityEvidenceId
        recordedBySession := req.sessionToken
        createdAt := now }
    appendSessionEvent .settlementReconcileBlockerRecorded .settlementReconcileBlocker
      req.authorityEvidenceId.val req.sessionToken now
    return .unit

/-! ## Apply worktrees -/

/-- `load_apply_worktree_tx` (queue.rs:3295-3306). -/
def loadApplyWorktree (path : ApplyWorktreePath) : Txn ApplyWorktreeRow :=
  load Rel.applyWorktrees .ok (.databaseError "Query returned no rows") path

/-- `record_apply_worktree` (queue.rs:506-587). -/
def recordApplyWorktree (req : RecordApplyWorktreeReq) (now : ℤ) : Txn Response :=
  mutation req.sessionToken.val "record_apply_worktree" req.idempotencyKey
    (.recordApplyWorktree req) now do
    let session ← requireRole req.sessionToken [.applyGate]
    let _ ← requireRuntimeAttestation session
    ensureLength "queue_id" req.queueId.val 256
    ensureLength "artifact_digest" req.artifactDigest.val 512
    let item ← loadQueueItem req.queueId
    Tx.ensure (item.state = .inFlight ∧ item.artifactDigest = req.artifactDigest)
      (.applyGateEvidenceMissing item.queueId
        "apply worktree must target the current in-flight queue artifact")
    match item.claimedBySessionToken with
    | none => Tx.fail (.applyGateEvidenceMissing req.queueId
        "apply worktree requires an owned in-flight queue claim")
    | some queueOwner =>
      Tx.ensure (queueOwner = req.sessionToken) (.notQueueClaimOwner req.sessionToken queueOwner)
    insertInto Rel.applyWorktrees
      { path := req.path
        queueId := req.queueId
        artifactDigest := req.artifactDigest
        state := .active
        recordedBySession := req.sessionToken
        createdAt := now
        updatedAt := now }
    appendSessionEvent .applyWorktreeRecorded .applyWorktree req.path.val req.sessionToken now
    let worktree ← loadApplyWorktree req.path
    return .applyWorktree worktree

/-- The declared transitions of `ensure_apply_worktree_transition` (queue.rs:3308-3341). -/
def ApplyWorktreeState.allows : ApplyWorktreeState → ApplyWorktreeState → Bool
  | .active, .applied
  | .active, .retainedEvidence
  | .applied, .cleanupAllowed
  | .applied, .retainedEvidence
  | .cleanupAllowed, .archived
  | .cleanupAllowed, .retainedEvidence => true
  | source, target => source == target

/-- `mark_apply_worktree_state` (queue.rs:590-636). -/
def markApplyWorktreeState (req : MarkApplyWorktreeStateReq) (now : ℤ) : Txn Response :=
  mutation req.sessionToken.val "mark_apply_worktree_state" req.idempotencyKey
    (.markApplyWorktreeState req) now do
    let _ ← requireRole req.sessionToken [.applyGate, .orchestrator]
    let existing ← loadApplyWorktree req.path
    ensureTransition (.applyWorktree existing.state) (.applyWorktree req.state) .applyWorktree
      (existing.state.allows req.state)
    let _ ← updateIn Rel.applyWorktrees (fun w => w.path = req.path) fun w =>
      { w with state := req.state, updatedAt := now }
    appendSessionEvent .applyWorktreeStateRecorded .applyWorktree req.path.val req.sessionToken now
    let worktree ← loadApplyWorktree req.path
    return .applyWorktree worktree

/-- The states `mark_apply_worktrees_for_queue_tx` moves to the given one. -/
def ApplyWorktreeState.queueSources : ApplyWorktreeState → List ApplyWorktreeState
  | .applied => [.active]
  | .cleanupAllowed => [.active, .applied]
  | _ => []

/-- `mark_apply_worktrees_for_queue_tx` (queue.rs:3343-3372). -/
def markApplyWorktreesForQueue (queueId : QueueId) (state : ApplyWorktreeState) (now : ℤ) :
    Txn Unit :=
  Tx.forEach state.queueSources fun source => do
    let _ ← updateIn Rel.applyWorktrees (fun w => w.queueId = queueId ∧ w.state = source) fun w =>
      { w with state := state, updatedAt := now }

/-! ## Settling a row -/

/-- `mark_applied` (queue.rs:842-995). -/
def markApplied (req : MarkAppliedReq) (now : ℤ) : Txn Response :=
  leasedMutation req.sessionToken.val "mark_applied" req.idempotencyKey (.markApplied req) now
    fun leaseNow => do
    let session ← requireRole req.sessionToken [.applyGate]
    ensureLength "queue_id" req.queueId.val 256
    let item ← loadQueueItem req.queueId
    ensureReadyQueueTransition item.state .applied
    let illegal : CoveyError :=
      .illegalTransition (.readyQueue item.state) (.readyQueue .applied) .readyQueue
    match item.claimedBySessionToken, item.claimFenceSeq, item.claimLeaseDeadline with
    | some queueOwner, some expectedFence, some claimDeadline =>
      Tx.ensure (queueOwner = session.sessionToken)
        (.notQueueClaimOwner session.sessionToken queueOwner)
      Tx.ensure (expectedFence = req.claimFenceSeq.val)
        (.staleFenceToken expectedFence req.claimFenceSeq.val)
      Tx.ensure (leaseNow < claimDeadline) (.leaseExpired req.queueId.val)
    | _, _, _ => Tx.fail illegal
    let subtask ← loadSubtask item.subtaskId
    requireCanonicalApplyPolicy subtask "mark_applied"
    ensureSubtaskTransition subtask.kind subtask.state .applied
    let illegalSubtask : CoveyError :=
      .illegalTransition (.subtask subtask.state) (.subtask .applied) .subtask
    Tx.ensure (subtask.artifactDigest = some item.artifactDigest) illegalSubtask
    let applyGateSession ← loadSession req.sessionToken
    let evidence ← requireLiveApplyGateEvidence item applyGateSession
    requireRecordedApplyVerification item evidence req.claimFenceSeq
    let queueUpdated ← updateIn Rel.readyQueue (fun q => q.queueId = req.queueId ∧
        q.state = .inFlight ∧ q.claimedBySessionToken = some req.sessionToken ∧
        q.claimFenceSeq = some req.claimFenceSeq.val) fun q =>
      { q with state := .applied, claimedBySessionToken := none, claimLeaseDeadline := none,
               updatedAt := now }
    Tx.ensure (queueUpdated = 1) illegal
    let subtaskUpdated ← updateIn Rel.subtasks (fun r => r.subtaskId = item.subtaskId ∧
        r.state = .readyForApply ∧ r.artifactDigest = some item.artifactDigest) fun r =>
      { r with state := .applied, updatedAt := now }
    Tx.ensure (subtaskUpdated = 1) illegalSubtask
    recordAppliedOpenSpecArchiveBlocker req.sessionToken item now req.idempotencyKey
    markApplyWorktreesForQueue item.queueId .applied now
    refreshMetaTaskState subtask.metaTaskId now
    appendSessionEvent .readyQueueApplied .readyQueue req.queueId.val req.sessionToken now
    return .unit

/-! ## Landing -/

/-- The guards of `verify_landing_authorization` and `record_landing_receipt` on the queue row
    (queue.rs:1795-1845, 1917-1961), whose texts differ in `what` only: an in-flight row must be
    owned by the session and carry live evidence and a verification. -/
def requireLandable (what : String) (session : SessionRow) (queueId : QueueId)
    (artifactDigest : ArtifactDigest) (claimFenceSeq : FenceSeq) (notOpen : String) :
    Txn ReadyQueueRow := do
  let item ← loadQueueItem queueId
  let missing (reason : String) : CoveyError :=
    .applyGateEvidenceMissing item.queueId (what ++ reason)
  Tx.ensure (item.state = .inFlight ∨ item.state = .applied) (missing notOpen)
  Tx.ensure (item.artifactDigest = artifactDigest)
    (missing " artifact digest does not match queue item")
  Tx.ensure (item.claimFenceSeq = some claimFenceSeq.val)
    (missing " claim fence does not match queue item")
  Tx.whenever (item.state = .inFlight) do
    match item.claimedBySessionToken with
    | none => Tx.fail (missing " in-flight queue item has no owner")
    | some queueOwner =>
      Tx.ensure (queueOwner = session.sessionToken)
        (.notQueueClaimOwner session.sessionToken queueOwner)
    let evidence ← requireLiveApplyGateEvidence item session
    requireRecordedApplyVerification item evidence claimFenceSeq
  return item

/-- `verify_landing_authorization` (queue.rs:1773-1904), a read; the accepted status repeats
    the request with the artifact and the recorder of the verification. -/
def verifyLandingAuthorization (req : VerifyLandingAuthorizationReq) :
    Txn (ArtifactRow × SessionToken) := do
  let session ← requireRole req.sessionToken [.applyGate, .orchestrator]
  ensureLength "queue_id" req.queueId.val 256
  ensureLength "artifact_digest" req.artifactDigest.val 512
  ensureLength "review_id" req.reviewId.val 256
  ensureLength "findings_digest" req.findingsDigest.val 512
  ensureLength "verifier" req.verifier.val 256
  ensureLength "verdict_digest" req.verdictDigest.val 512
  ensureLength "seal_digest" req.sealDigest.val 512
  let item ← requireLandable "landing authorization" session req.queueId req.artifactDigest
    req.claimFenceSeq " queue item is not in flight or applied"
  let recorded ← selectFrom Rel.applyVerifications fun v =>
    v.queueId = req.queueId ∧ v.artifactDigest = req.artifactDigest ∧
    v.reviewId = req.reviewId ∧ v.findingsDigest = req.findingsDigest ∧
    v.claimFenceSeq = req.claimFenceSeq.val ∧ v.verifier = req.verifier ∧
    v.verdictDigest = req.verdictDigest ∧ v.sealDigest = req.sealDigest
  match recorded.head? with
  | none => Tx.fail (.applyGateEvidenceMissing item.queueId
      "accepted apply verifier verdict does not match landing authorization")
  | some verification =>
    let artifact ← loadArtifact req.artifactDigest
    return (artifact, verification.recordedBySession)

/-- `record_landing_receipt` (queue.rs:1907-2015). -/
def recordLandingReceipt (req : RecordLandingReceiptReq) (now : ℤ) : Txn Response := do
  let session ← requireRole req.sessionToken [.applyGate, .orchestrator]
  let item ← requireLandable "landing receipt" session req.queueId req.artifactDigest
    req.claimFenceSeq " requires an in-flight or applied queue item"
  match ← lookup Rel.landingReceipts (req.queueId, req.artifactDigest) with
  | some existing =>
    Tx.ensure (existing.targetRef = req.targetRef ∧
        existing.landedCommitOid = req.landedCommitOid)
      (.applyGateEvidenceMissing item.queueId
        "landing receipt already recorded with different target or commit")
    return .unit
  | none =>
    insertInto Rel.landingReceipts
      { queueId := req.queueId
        artifactDigest := req.artifactDigest
        claimFenceSeq := req.claimFenceSeq.val
        targetRef := req.targetRef
        landedCommitOid := req.landedCommitOid
        recordedBySession := req.sessionToken
        createdAt := now }
    return .unit

/-- `landing_receipt_exists` (queue.rs:2018-2058). -/
def landingReceiptExists (s : Db) (queueId : QueueId) (artifactDigest : ArtifactDigest)
    (claimFenceSeq : FenceSeq) : Prop :=
  ∃ r ∈ s.landingReceipts.rows, r.queueId = queueId ∧ r.artifactDigest = artifactDigest ∧
    r.claimFenceSeq = claimFenceSeq.val

end Covey

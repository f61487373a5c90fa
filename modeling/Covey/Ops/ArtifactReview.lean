import Covey.Ops.Enqueue
import Covey.Ops.Session

/-!
# Artifacts and reviews

Model of `src/ops/workflow/artifact_review.rs`: publishing an artifact,
requesting and deciding a review, landing permissively, and the repair
follow-ups of failed reviews.
-/

namespace Covey

/-! ## Publishing -/

/-- The text of an artifact kind in an error (`Display`, state.rs). -/
def ArtifactKind.name : ArtifactKind → String
  | .patchBundle => "patch_bundle"
  | .isolatedCommitRef => "isolated_commit_ref"
  | .treeBundle => "tree_bundle"
  | .findingsBundle => "findings_bundle"
  | .verificationBundle => "verification_bundle"

/-- `ensure_artifact_allowed_for_policy` (artifact_review.rs:51-68). -/
def ensureArtifactAllowedForPolicy (policy : CompletionPolicy) (artifactKind : ArtifactKind) :
    Except CoveyError Unit :=
  if policy = .canonicalApply ∨ (policy = .reviewed ∧ ¬artifactKind.isApplyable) then .ok ()
  else .error (.completionPolicyViolation ("publish_artifact:" ++ artifactKind.name) policy)

@[simp] theorem ensureArtifactAllowedForPolicy_ok {policy : CompletionPolicy}
    {artifactKind : ArtifactKind} {u : Unit} :
    ensureArtifactAllowedForPolicy policy artifactKind = .ok u ↔
      policy = .canonicalApply ∨ (policy = .reviewed ∧ ¬artifactKind.isApplyable) := by
  unfold ensureArtifactAllowedForPolicy
  split_ifs with h
  · exact ⟨fun _ => h, fun _ => rfl⟩
  · exact ⟨fun hu => by simp at hu, fun h' => absurd h' h⟩

/-- `require_review_policy` (artifact_review.rs:70-79). -/
def requireReviewPolicy (policy : CompletionPolicy) (operation : String) :
    Except CoveyError Unit :=
  if policy = .direct then .error (.completionPolicyViolation operation policy) else .ok ()

@[simp] theorem requireReviewPolicy_ok {policy : CompletionPolicy} {operation : String} {u : Unit} :
    requireReviewPolicy policy operation = .ok u ↔ policy ≠ .direct := by
  unfold requireReviewPolicy
  split_ifs with h <;> simp [h]

/-- `UPDATE subtasks SET artifact_digest, state = artifact_published` on the row as loaded. -/
def setPublishedArtifact (subtask : SubtaskRow) (artifactDigest : ArtifactDigest) (now : ℤ) :
    Txn ℕ :=
  updateIn Rel.subtasks (fun r => r.subtaskId = subtask.subtaskId ∧ r.state = subtask.state) fun r =>
    { r with artifactDigest := some artifactDigest, state := .artifactPublished, updatedAt := now }

/-- `publish_artifact` (artifact_review.rs:83-259). Publishing a digest of this subtask again
    only points the subtask at it. -/
def publishArtifact (req : PublishArtifactReq) (now : ℤ) : Txn Response :=
  leasedMutation req.sessionToken.val "publish_artifact" req.idempotencyKey
    (.publishArtifact req) now fun leaseNow => do
    ensureLength "claim_id" req.claimId.val 256
    ensureLength "artifact_digest" req.artifactDigest.val 512
    ensureLength "base_rev" req.baseRev.val 512
    ensureLength "manifest_path" req.manifestPath.val 4096
    ensureLength "changed_paths_digest" req.changedPathsDigest.val 512
    let claim ← requireCurrentClaim req.sessionToken req.claimId req.fenceSeq leaseNow
    let session ← requireActiveSession req.sessionToken
    let subtask ← loadSubtask claim.subtaskId
    ensureMetaTaskIsSchedulable subtask.metaTaskId
    requireSessionCanClaimKind session subtask.kind
    Tx.ensure (subtask.kind = .work) .reviewKindMismatch
    ensureArtifactAllowedForPolicy subtask.completionPolicy req.artifactKind
    match ← lookup Rel.artifacts req.artifactDigest with
    | some existing =>
      Tx.ensure (existing.artifactKind = req.artifactKind ∧ existing.baseRev = req.baseRev ∧
          existing.producedBySubtaskId = subtask.subtaskId ∧
          existing.changedPathsDigest = req.changedPathsDigest)
        (.artifactDigestCollision req.artifactDigest.val)
      if subtask.artifactDigest = some req.artifactDigest ∧ subtask.state = .artifactPublished then
        return .unit
      else
        ensureSubtaskTransition subtask.kind subtask.state .artifactPublished
        let _ ← setPublishedArtifact subtask req.artifactDigest now
        return .unit
    | none =>
      ensureSubtaskTransition subtask.kind subtask.state .artifactPublished
      ensureArtifactDigestUnused req.artifactDigest
      insertInto Rel.artifacts
        { artifactDigest := req.artifactDigest
          artifactKind := req.artifactKind
          baseRev := req.baseRev
          producedBySubtaskId := subtask.subtaskId
          producedBySession := req.sessionToken
          manifestPath := req.manifestPath
          changedPathsDigest := req.changedPathsDigest
          createdAt := now }
      let _ ← updateIn Rel.reviews
        (fun r => r.subtaskId = subtask.subtaskId ∧ r.artifactDigest ≠ req.artifactDigest ∧ r.isOpen)
        fun r => { r with state := .superseded, updatedAt := now }
      let updated ← setPublishedArtifact subtask req.artifactDigest now
      Tx.ensure (updated = 1)
        (.illegalTransition (.subtask subtask.state) (.subtask .artifactPublished) .subtask)
      appendSessionEvent .artifactPublished .artifact req.artifactDigest.val req.sessionToken now
      return .unit

/-! ## Requesting a review -/

/-- `ensure_artifact_exists` (validators.rs:129-137). -/
def ensureArtifactExists (artifactDigest : ArtifactDigest) : Txn Unit := do
  let existing ← lookup Rel.artifacts artifactDigest
  Tx.ensure (existing.isSome) (.unknownArtifactDigest artifactDigest.val)

@[simp] theorem ensureArtifactExists_ok {artifactDigest : ArtifactDigest} {s s' : Db} {u : Unit} :
    ensureArtifactExists artifactDigest s = (.ok u, s') ↔
      (s.artifacts.get? artifactDigest).isSome ∧ s = s' := by
  simp [ensureArtifactExists, Rel.artifacts, and_comm]

/-- `request_review` (artifact_review.rs:262-396). The reviewer column holds the requester
    until the review is started; the evidence policy takes the column's default. -/
def requestReview (req : RequestReviewReq) (now : ℤ) : Txn Response :=
  mutation req.sessionToken.val "request_review" req.idempotencyKey (.requestReview req) now do
    let session ← requireActiveSession req.sessionToken
    requireSessionCanRequestReview session
    ensureLength "subtask_id" req.subtaskId.val 256
    ensureLength "artifact_digest" req.artifactDigest.val 512
    let subtask ← loadSubtask req.subtaskId
    Tx.ensure (subtask.kind = .work) .reviewKindMismatch
    requireReviewPolicy subtask.completionPolicy "request_review"
    ensureMetaTaskIsSchedulable subtask.metaTaskId
    Tx.ensure (subtask.artifactDigest = some req.artifactDigest)
      (.unknownArtifactDigest req.artifactDigest.val)
    ensureArtifactExists req.artifactDigest
    ensureNoOpenReviewRound req.subtaskId req.artifactDigest
    ensureSubtaskTransition subtask.kind subtask.state .reviewPending
    let reviewSubtaskId ← requestedSubtaskId req.reviewSubtaskId
    ensureLength "review_subtask_id" reviewSubtaskId.val 256
    let found ← subtaskExists reviewSubtaskId
    Tx.ensure (found = false) (.duplicateSubtaskId reviewSubtaskId)
    let title ← typed (Text.parse .subtaskTitle ("review " ++ req.artifactDigest.val))
    insertSubtask
      { subtaskId := reviewSubtaskId
        metaTaskId := subtask.metaTaskId
        title := title
        kind := .review
        reviewTargetSubtaskId := some req.subtaskId
        reviewTargetArtifactDigest := some req.artifactDigest
        state := .available
        currentClaimId := none
        artifactDigest := none
        priority := req.priority
        completionPolicy := subtask.completionPolicy
        routingKey := subtask.routingKey
        evidencePolicy := .required
        createdAt := now
        updatedAt := now }
    let reviewId ← freshId .reviewId "review"
    insertInto Rel.reviews
      { reviewId := reviewId
        subtaskId := req.subtaskId
        artifactDigest := req.artifactDigest
        reviewerSession := req.sessionToken
        reviewSubtaskId := reviewSubtaskId
        verdict := none
        findingsDigest := none
        state := .requested
        createdAt := now
        updatedAt := now }
    let updated ← updateIn Rel.subtasks (fun r => r.subtaskId = req.subtaskId ∧
        r.state = subtask.state ∧ r.artifactDigest = some req.artifactDigest) fun r =>
      { r with state := .reviewPending, updatedAt := now }
    Tx.ensure (updated = 1)
      (.illegalTransition (.subtask subtask.state) (.subtask .reviewPending) .subtask)
    appendSessionEvent .reviewRequested .review reviewId.val req.sessionToken now
    return .id reviewId.val

/-! ## Repair follow-ups -/

/-- `repair_followup_title` (artifact_review.rs:1040-1060). -/
def repairFollowupTitle (sourceSubtaskId : SubtaskId) (scope : Option SubtaskScopeRow) : String :=
  match scope with
  | none => "address review findings for " ++ sourceSubtaskId.val
  | some scope =>
    let scenarioSuffix :=
      if scope.scenarioRefs = [] then "no scenario refs"
      else ", ".intercalate (scope.scenarioRefs.take 3)
    "repair review findings for " ++ scope.openspecChangeId.val ++ ":" ++ scope.openspecTaskId ++
      " scenarios " ++ scenarioSuffix

/-- `create_review_followup_subtask_tx` (artifact_review.rs:937-1002). -/
def createReviewFollowupSubtask (source : SubtaskRow) (sourceArtifactDigest : ArtifactDigest)
    (findingsDigest : FindingsDigest) (createdBySession : SessionToken) (reviewId : ReviewId)
    (now : ℤ) : Txn SubtaskId := do
  let followupSubtaskId ← freshId .subtaskId "subtask"
  let scope ← lookup Rel.subtaskScopes source.subtaskId
  let title ← typed (Text.parse .subtaskTitle (repairFollowupTitle source.subtaskId scope))
  insertSubtask
    { subtaskId := followupSubtaskId
      metaTaskId := source.metaTaskId
      title := title
      kind := .work
      reviewTargetSubtaskId := none
      reviewTargetArtifactDigest := none
      state := .available
      currentClaimId := none
      artifactDigest := none
      priority := source.priority
      completionPolicy := source.completionPolicy
      routingKey := source.routingKey
      evidencePolicy := .required
      createdAt := now
      updatedAt := now }
  insertInto Rel.reviewFollowups
    { reviewId := reviewId
      sourceSubtaskId := source.subtaskId
      sourceArtifactDigest := sourceArtifactDigest
      findingsDigest := findingsDigest
      followupSubtaskId := followupSubtaskId
      createdBySession := createdBySession
      createdAt := now
      repairSourcePath := scope.map (·.sourcePath)
      repairTaskRef := scope.map fun x => x.openspecChangeId.val ++ ":" ++ x.openspecTaskId
      repairScenarioRefs := (scope.map (·.scenarioRefs)).getD [] }
  return followupSubtaskId

/-- A decided review with a failing verdict. -/
def ReviewRow.isFailed (r : ReviewRow) : Prop :=
  r.state = .decided ∧ (r.verdict = some .changesRequested ∨ r.verdict = some .blocked)

instance (r : ReviewRow) : Decidable r.isFailed := inferInstanceAs (Decidable (_ ∧ _))

/-- A work subtask waiting for a repair. -/
def SubtaskRow.awaitsRepair (r : SubtaskRow) : Prop :=
  r.kind = .work ∧ (r.state = .changesRequested ∨ r.state = .blocked)

instance (r : SubtaskRow) : Decidable r.awaitsRepair := inferInstanceAs (Decidable (_ ∧ _))

/-- An abandoned work subtask nobody has worked on. -/
def SubtaskRow.isRevivable (r : SubtaskRow) : Prop :=
  r.state = .abandoned ∧ r.currentClaimId = none ∧ r.artifactDigest = none

instance (r : SubtaskRow) : Decidable r.isRevivable := inferInstanceAs (Decidable (_ ∧ _))

/-- `revive_abandoned_review_followups_tx` (artifact_review.rs:1126-1179). -/
def reviveAbandonedReviewFollowups (now : ℤ) : Txn (List SubtaskId) := do
  let s ← Tx.get
  let abandoned := s.subtasks.select fun r =>
    r.kind = .work ∧ r.isRevivable ∧
    ∃ f ∈ s.reviewFollowups.rows, f.followupSubtaskId = r.subtaskId ∧
      (s.reviews.get? f.reviewId).any (fun review => review.isFailed ∧
        (s.subtasks.get? review.subtaskId).any (fun source => source.awaitsRepair) = true) = true
  let followups := (abandoned.insertionSort fun a b => a.updatedAt < b.updatedAt ∨
    (a.updatedAt = b.updatedAt ∧ a.subtaskId.val ≤ b.subtaskId.val)).map (·.subtaskId)
  Tx.forEach followups fun followupSubtaskId => do
    let _ ← updateIn Rel.subtasks
      (fun r => r.subtaskId = followupSubtaskId ∧ r.isRevivable) fun r =>
      { r with state := .available, updatedAt := now }
  return followups

/-- `ensure_changes_requested_followup_blocks_tx` (artifact_review.rs:1062-1124): abandoned
    follow-ups come back, and failed reviews without a follow-up get one. -/
def ensureChangesRequestedFollowupBlocks (createdBySession : SessionToken) (now : ℤ) :
    Txn (List SubtaskId) := do
  let revived ← reviveAbandonedReviewFollowups now
  let s ← Tx.get
  let failed := s.reviews.select fun r =>
    r.isFailed ∧ (s.subtasks.get? r.subtaskId).any (fun source => source.awaitsRepair) = true ∧
    s.reviewFollowups.get? r.reviewId = none
  let ordered := failed.insertionSort fun a b => a.updatedAt < b.updatedAt ∨
    (a.updatedAt = b.updatedAt ∧ a.createdAt ≤ b.createdAt)
  let created ← Tx.mapEach ordered fun row => do
    let review ← loadReview row.reviewId
    let source ← loadSubtask review.subtaskId
    match review.findingsDigest with
    | none =>
      Tx.fail (.illegalTransition (.review review.state) (.subtask .available) .subtask)
    | some findingsDigest =>
      createReviewFollowupSubtask source review.artifactDigest findingsDigest createdBySession
        review.reviewId now
  return revived ++ created

/-- `reconcile_changes_requested_followups` (artifact_review.rs:890-934). -/
def reconcileChangesRequestedFollowups (req : ReconcileChangesRequestedFollowupsReq) (now : ℤ) :
    Txn Response :=
  mutation req.sessionToken.val "reconcile_changes_requested_followups" req.idempotencyKey
    (.session req) now do
    let _ ← requireRole req.sessionToken [.orchestrator, .executor]
    let followupIds ← ensureChangesRequestedFollowupBlocks req.sessionToken now
    return .followups followupIds

/-! ## Deciding -/

/-- What both deciding operations read before they write: the reviewer, the claim, the
    review, its subtask, the artifact and the reviewed subtask (artifact_review.rs:411-463,
    678-751). -/
structure ReviewContext where
  claim : ClaimRow
  review : ReviewRow
  reviewSubtask : SubtaskRow
  artifact : ArtifactRow
  workSubtask : SubtaskRow

/-- The guards of `decide_review` and `record_permissive_landing_receipt` up to the current
    state of the review, `check` being what the latter asks of the review and of the work. -/
def loadReviewContext (session : SessionRow) (sessionToken : SessionToken) (reviewId : ReviewId)
    (claimId : ClaimId) (fenceSeq : FenceSeq) (leaseNow : ℤ) (checkReview : ReviewRow → Except CoveyError Unit)
    (checkWork : SubtaskRow → Except CoveyError Unit) : Txn ReviewContext := do
  let claim ← requireCurrentClaim sessionToken claimId fenceSeq leaseNow
  let review ← loadReview reviewId
  Tx.ensure (claim.subtaskId = review.reviewSubtaskId) .fenceTokenMismatch
  checkReview review
  let reviewSubtask ← loadSubtask review.reviewSubtaskId
  ensureMetaTaskIsSchedulable reviewSubtask.metaTaskId
  requireSessionCanClaimKind session reviewSubtask.kind
  let artifact ← loadArtifact review.artifactDigest
  let producer ← loadSession artifact.producedBySession
  Tx.ensure (producer.agentPrincipalId ≠ session.agentPrincipalId)
    (.separationOfDutiesViolation session.agentPrincipalId.val producer.agentPrincipalId.val)
  let workSubtask ← loadSubtask review.subtaskId
  checkWork workSubtask
  match workSubtask.artifactDigest with
  | none => Tx.fail (.unknownArtifactDigest review.artifactDigest.val)
  | some current =>
    Tx.ensure (current = review.artifactDigest)
      (.staleReviewArtifact reviewId.val review.subtaskId review.artifactDigest current)
  ensureReviewTransition review.state .decided
  return ⟨claim, review, reviewSubtask, artifact, workSubtask⟩

/-- The writes that close the reviewer's side (artifact_review.rs:465-514, 753-802): the
    verdict, the review subtask, the claim and the session. -/
def closeReview (ctx : ReviewContext) (sessionToken : SessionToken) (verdict : ReviewVerdict)
    (findingsDigest : FindingsDigest) (now : ℤ) : Txn Unit := do
  let reviewUpdated ← updateIn Rel.reviews
    (fun r => r.reviewId = ctx.review.reviewId ∧ r.state = ctx.review.state) fun r =>
    { r with reviewerSession := sessionToken, verdict := some verdict,
             findingsDigest := some findingsDigest, state := .decided, updatedAt := now }
  Tx.ensure (reviewUpdated = 1)
    (.illegalTransition (.review ctx.review.state) (.review .decided) .review)
  ensureSubtaskTransition ctx.reviewSubtask.kind ctx.reviewSubtask.state .decided
  let subtaskUpdated ← updateIn Rel.subtasks (fun r => r.subtaskId = ctx.reviewSubtask.subtaskId ∧
      r.currentClaimId = some ctx.claim.claimId ∧ r.state = ctx.reviewSubtask.state) fun r =>
    { r with state := .decided, currentClaimId := none, updatedAt := now }
  Tx.ensure (subtaskUpdated = 1)
    (.illegalTransition (.subtask ctx.reviewSubtask.state) (.subtask .decided) .subtask)
  closeClaimAndDetach ctx.claim .released now
  clearSessionActiveSubtask sessionToken now

/-- `release_active_reservations` (completion.rs:249-278). -/
def releaseActiveReservations (subtaskId : SubtaskId) (now : ℤ) : Txn Unit := do
  let active ← selectFrom Rel.reservations fun r =>
    r.ownerSubtaskId = subtaskId ∧ r.state = .active
  let _ ← updateIn Rel.reservations (fun r => r.ownerSubtaskId = subtaskId ∧ r.state = .active)
    fun r => { r with state := .released, updatedAt := now }
  Tx.forEach active fun r => resolveReservationOverlapConflicts r.reservationId now

/-- The state a verdict gives the reviewed work (artifact_review.rs:518-531). -/
def reviewedWorkState (verdict : ReviewVerdict) (policy : CompletionPolicy)
    (artifactKind : ArtifactKind) : SubtaskState :=
  match verdict with
  | .approve =>
    if policy = .reviewed then .completed
    else if artifactKind.isApplyable then .approved
    else .applied
  | .changesRequested => .changesRequested
  | .blocked => .blocked

/-- The producer's claim, if there is one, is released when a review completes the work
    (artifact_review.rs:534-552). -/
def releaseProducer (workSubtask : SubtaskRow) (now : ℤ) : Txn Unit :=
  match workSubtask.currentClaimId with
  | none => pure ()
  | some producerClaimId => do
    let producerClaim ← loadClaim producerClaimId
    closeClaimAndDetach producerClaim .released now
    clearSessionActiveSubtask producerClaim.ownerSessionToken now

/-- `UPDATE subtasks` of the reviewed work (artifact_review.rs:560-580, 811-829). -/
def setReviewedWork (ctx : ReviewContext) (workState : SubtaskState) (detach : Prop)
    [Decidable detach] (now : ℤ) : Txn Unit := do
  let workUpdated ← updateIn Rel.subtasks (fun r => r.subtaskId = ctx.review.subtaskId ∧
      r.artifactDigest = some ctx.review.artifactDigest ∧ r.state = ctx.workSubtask.state) fun r =>
    { r with state := workState
             currentClaimId := if detach then none else r.currentClaimId
             updatedAt := now }
  Tx.ensure (workUpdated = 1)
    (.illegalTransition (.subtask ctx.workSubtask.state) (.subtask workState) .subtask)

/-- The decision a verdict returns; a failing one creates the repair follow-up
    (artifact_review.rs:582-611). -/
def recordDecision (ctx : ReviewContext) (req : DecideReviewReq) (now : ℤ) :
    Txn ReviewDecisionResult := do
  if req.verdict = .approve then return .approved req.reviewId
  else
    let followupSubtaskId ← createReviewFollowupSubtask ctx.workSubtask ctx.review.artifactDigest
      req.findingsDigest req.sessionToken req.reviewId now
    return .failed req.reviewId req.verdict followupSubtaskId

/-- What follows an approval of canonical-apply work (artifact_review.rs:623-649): an
    applyable artifact enters the queue, another is recorded as waiting to be archived. -/
def followApproval (env : Env) (ctx : ReviewContext) (req : DecideReviewReq) (now : ℤ) :
    Txn Unit := do
  if req.verdict = .approve ∧ ctx.workSubtask.completionPolicy = .canonicalApply then
    if ctx.artifact.artifactKind.isApplyable then
      let _ ← enqueueApprovedSubtaskForApply req.sessionToken ctx.review.subtaskId
        ctx.review.artifactDigest now ("auto-enqueue-approved-review:" ++ req.reviewId.val)
      return ()
    else
      recordDirectAppliedOpenSpecArchiveBlocker env req.sessionToken ctx.review.subtaskId
        ctx.review.artifactDigest now
        ("auto-openspec-archive-blocker-review:" ++ req.reviewId.val)
  else return ()

/-- `decide_review` (artifact_review.rs:399-655). -/
def decideReview (env : Env) (req : DecideReviewReq) (now : ℤ) : Txn Response :=
  leasedMutation req.sessionToken.val "decide_review" req.idempotencyKey (.decideReview req) now
    fun leaseNow => do
    let session ← requireRole req.sessionToken [.reviewer]
    ensureLength "review_id" req.reviewId.val 256
    ensureLength "claim_id" req.claimId.val 256
    ensureLength "findings_digest" req.findingsDigest.val 512
    let ctx ← loadReviewContext session req.sessionToken req.reviewId req.claimId
      req.fenceSeq leaseNow
      (fun _ => .ok ()) (fun _ => .ok ())
    closeReview ctx req.sessionToken req.verdict req.findingsDigest now
    requireReviewPolicy ctx.workSubtask.completionPolicy "decide_review"
    let workState := reviewedWorkState req.verdict ctx.workSubtask.completionPolicy
      ctx.artifact.artifactKind
    ensureSubtaskTransition ctx.workSubtask.kind ctx.workSubtask.state workState
    Tx.whenever (workState = .completed) do
      releaseProducer ctx.workSubtask now
      releaseActiveReservations ctx.workSubtask.subtaskId now
    setReviewedWork ctx workState (workState = .completed) now
    let decision ← recordDecision ctx req now
    appendSessionEvent .reviewDecided .review req.reviewId.val req.sessionToken now
    followApproval env ctx req now
    refreshMetaTaskState ctx.workSubtask.metaTaskId now
    return .reviewDecision decision

/-- `record_permissive_landing_receipt` (artifact_review.rs:661-887). -/
def recordPermissiveLandingReceipt (req : RecordPermissiveLandingReceiptReq) (now : ℤ) :
    Txn Response :=
  leasedMutation req.sessionToken.val "record_permissive_landing_receipt" req.idempotencyKey
    (.recordPermissiveLandingReceipt req) now fun leaseNow => do
    let session ← requireRole req.sessionToken [.reviewer]
    ensureLength "review_id" req.reviewId.val 256
    ensureLength "claim_id" req.claimId.val 256
    ensureLength "artifact_digest" req.artifactDigest.val 512
    ensureLength "findings_digest" req.findingsDigest.val 512
    ensureLength "target_ref" req.targetRef.val 512
    ensureLength "receipt_digest" req.receiptDigest.val 512
    req.landedCommitOid.forM fun oid => (ensureLength "landed_commit_oid" oid.val 256 : Txn Unit)
    let ctx ← loadReviewContext session req.sessionToken req.reviewId req.claimId
      req.fenceSeq leaseNow
      (fun review => if review.artifactDigest = req.artifactDigest then .ok ()
        else .error (.unknownArtifactDigest req.artifactDigest.val))
      (fun work => if work.completionPolicy = .canonicalApply then .ok ()
        else .error (.completionPolicyViolation "record_permissive_landing_receipt"
          work.completionPolicy))
    closeReview ctx req.sessionToken .approve req.findingsDigest now
    ensureSubtaskTransition ctx.workSubtask.kind ctx.workSubtask.state .applied
    setReviewedWork ctx .applied False now
    insertInto Rel.permissiveLandingReceipts
      { reviewId := req.reviewId
        artifactDigest := req.artifactDigest
        findingsDigest := req.findingsDigest
        targetRef := req.targetRef
        landedCommitOid := req.landedCommitOid
        receiptDigest := req.receiptDigest
        recordedBySession := req.sessionToken
        claimId := req.claimId
        fenceSeq := req.fenceSeq.val
        createdAt := now }
    appendSessionEvent .permissiveLandingRecorded .review req.reviewId.val req.sessionToken now
    refreshMetaTaskState ctx.workSubtask.metaTaskId now
    return .reviewDecision (.approved req.reviewId)

end Covey

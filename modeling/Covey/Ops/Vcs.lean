import Covey.Ops.Enqueue

/-!
# VCS workspaces and projections

Model of `src/ops/vcs_workspace.rs` and `src/ops/vcs_projection.rs`: what a
scheduler records about workspaces, packet stacks and pull requests.
-/

namespace Covey

/-- `invalid_projection` (vcs_projection.rs:424-428). -/
def invalidProjection (reason : String) : CoveyError := .invalidImportDestination reason

/-! ## Workspaces -/

/-- `load_vcs_workspace_tx` (vcs_workspace.rs:317-338). -/
def loadVcsWorkspace (workspaceId : VcsWorkspaceId) : Txn VcsWorkspaceRow :=
  load Rel.vcsWorkspaces .ok
    (.invalidImportDestination ("VCS workspace " ++ workspaceId.val ++ " is not registered"))
    workspaceId

/-- `ensure_vcs_workspace_target_shape` (vcs_workspace.rs:283-315). -/
def ensureVcsWorkspaceTargetShape (req : RecordVcsWorkspaceReq) : Except CoveyError Unit :=
  match req.kind with
  | .claim =>
    if req.claimId = none ∨ req.subtaskId = none then
      .error (.invalidImportDestination "claim VCS workspace requires claim_id and subtask_id")
    else .ok ()
  | .packet =>
    if req.openspecChangeId = none then
      .error (.invalidImportDestination "packet VCS workspace requires openspec_change_id")
    else .ok ()
  | .apply =>
    if req.queueId = none ∨ req.artifactDigest = none then
      .error (.invalidImportDestination "apply VCS workspace requires queue_id and artifact_digest")
    else .ok ()
  | .execution =>
    if req.openspecChangeId = none then
      .error (.invalidImportDestination "execution VCS workspace requires openspec_change_id")
    else .ok ()

/-- `record_vcs_workspace` (vcs_workspace.rs:22-112). No guard reads the claim, subtask and queue
    row that the workspace names, so their foreign keys are checked here. -/
def recordVcsWorkspace (req : RecordVcsWorkspaceReq) (now : ℤ) : Txn Response :=
  mutation req.sessionToken.val "record_vcs_workspace" req.idempotencyKey
    (.recordVcsWorkspace req) now do
    let _ ← requireRole req.sessionToken [.orchestrator, .applyGate]
    ensureLength "workspace_id" req.workspaceId.val 256
    ensureVcsWorkspaceTargetShape req
    let s ← Tx.get
    Tx.ensure ((∀ id ∈ req.claimId, (s.claims.get? id).isSome) ∧
      (∀ id ∈ req.subtaskId, (s.subtasks.get? id).isSome) ∧
      (∀ id ∈ req.queueId, (s.readyQueue.get? id).isSome)) constraintViolation
    let row : VcsWorkspaceRow :=
      { workspaceId := req.workspaceId
        kind := req.kind
        path := req.path
        jjWorkspaceName := req.jjWorkspaceName
        claimId := req.claimId
        subtaskId := req.subtaskId
        openspecChangeId := req.openspecChangeId
        queueId := req.queueId
        artifactDigest := req.artifactDigest
        currentBookmark := req.currentBookmark
        currentChangeId := req.currentChangeId
        currentCommitId := req.currentCommitId
        state := req.state
        lastCleanliness := req.lastCleanliness
        lastObservedReason := req.lastObservedReason
        recordedBySession := req.sessionToken
        createdAt := now
        updatedAt := now
        lastObservedAt := some now }
    upsertInto Rel.vcsWorkspaces row fun r =>
      { row with recordedBySession := r.recordedBySession, createdAt := r.createdAt }
    appendSessionEvent .vcsWorkspaceRecorded .vcsWorkspace req.workspaceId.val req.sessionToken now
    let workspace ← loadVcsWorkspace req.workspaceId
    return .vcsWorkspace workspace

/-- `observe_vcs_workspace` (vcs_workspace.rs:115-178). -/
def observeVcsWorkspace (req : ObserveVcsWorkspaceReq) (now : ℤ) : Txn Response :=
  mutation req.sessionToken.val "observe_vcs_workspace" req.idempotencyKey
    (.observeVcsWorkspace req) now do
    let _ ← requireRole req.sessionToken [.orchestrator, .applyGate]
    let _ ← loadVcsWorkspace req.workspaceId
    let _ ← updateIn Rel.vcsWorkspaces (fun r => r.workspaceId = req.workspaceId) fun r =>
      { r with state := req.state, lastCleanliness := req.lastCleanliness,
               lastObservedReason := req.lastObservedReason,
               currentBookmark := req.currentBookmark.or r.currentBookmark,
               currentChangeId := req.currentChangeId.or r.currentChangeId,
               currentCommitId := req.currentCommitId.or r.currentCommitId,
               updatedAt := now, lastObservedAt := some now }
    appendSessionEvent .vcsWorkspaceObserved .vcsWorkspace req.workspaceId.val req.sessionToken now
    let workspace ← loadVcsWorkspace req.workspaceId
    return .vcsWorkspace workspace

/-! ## Packet stacks -/

/-- `validate_packet_stack_entry_tx` (vcs_projection.rs:238-314). -/
def validatePacketStackEntry (req : RecordVcsPacketStackEntryReq) : Txn Unit := do
  ensureLength "stack_entry_id" req.stackEntryId.val 256
  ensureLength "openspec_change_id" req.openspecChangeId.val 256
  ensureLength "claim_id" req.claimId.val 256
  ensureLength "subtask_id" req.subtaskId.val 256
  ensureLength "artifact_digest" req.artifactDigest.val 512
  ensureLength "findings_digest" req.findingsDigest.val 512
  Tx.ensure (0 ≤ req.stackPosition) (invalidProjection
    "packet stack position must be greater than or equal to zero")
  Tx.ensure (req.packetBookmark.val = "packet/" ++ req.openspecChangeId.val) (invalidProjection
    "packet stack entry packet_bookmark must be packet/<openspec_change_id>")
  Tx.ensure (req.claimBookmark.val = "claim/" ++ req.claimId.val) (invalidProjection
    "packet stack entry claim_bookmark must be claim/<claim_id>")
  let claim ← loadClaim req.claimId
  Tx.ensure (claim.subtaskId = req.subtaskId) (invalidProjection
    "packet stack entry claim_id does not belong to subtask_id")
  match ← lookup Rel.subtaskScopes req.subtaskId with
  | none => Tx.fail (invalidProjection "packet stack entry subtask is not OpenSpec-scoped")
  | some scope => Tx.ensure (scope.openspecChangeId = req.openspecChangeId) (invalidProjection
      "packet stack entry openspec_change_id does not match subtask scope")
  let artifact ← loadArtifact req.artifactDigest
  Tx.ensure (artifact.producedBySubtaskId = req.subtaskId) (invalidProjection
    "packet stack entry artifact was not produced by subtask_id")
  let review ← loadReview req.reviewId
  Tx.ensure (review.subtaskId = req.subtaskId ∧ review.artifactDigest = req.artifactDigest ∧
      review.state = .decided ∧ review.verdict = some .approve ∧
      review.findingsDigest = some req.findingsDigest) (invalidProjection
    ("packet stack entry review evidence must approve the exact artifact and findings " ++
      "digest"))

/-- `record_vcs_packet_stack_entry` (vcs_projection.rs:23-105). -/
def recordVcsPacketStackEntry (req : RecordVcsPacketStackEntryReq) (now : ℤ) : Txn Response :=
  mutation req.sessionToken.val "record_vcs_packet_stack_entry" req.idempotencyKey
    (.recordVcsPacketStackEntry req) now do
    let _ ← requireRole req.sessionToken [.orchestrator, .applyGate]
    validatePacketStackEntry req
    let row : VcsPacketStackEntryRow :=
      { stackEntryId := req.stackEntryId
        openspecChangeId := req.openspecChangeId
        packetBookmark := req.packetBookmark
        claimId := req.claimId
        subtaskId := req.subtaskId
        artifactDigest := req.artifactDigest
        reviewId := req.reviewId
        findingsDigest := req.findingsDigest
        claimBookmark := req.claimBookmark
        claimChangeId := req.claimChangeId
        claimCommitId := req.claimCommitId
        stackPosition := req.stackPosition
        treeEquivalenceDigest := req.treeEquivalenceDigest
        state := req.state
        recordedBySession := req.sessionToken
        createdAt := now
        updatedAt := now }
    upsertInto Rel.vcsPacketStackEntries row fun r =>
      { row with recordedBySession := r.recordedBySession, createdAt := r.createdAt }
    appendSessionEvent .vcsPacketStackEntryRecorded .vcsPacketStackEntry req.stackEntryId.val
      req.sessionToken now
    let entry ← load Rel.vcsPacketStackEntries .ok
      (invalidProjection "packet stack entry is not recorded") req.stackEntryId
    return .vcsPacketStackEntry entry

/-! ## Pull requests -/

/-- `ensure_packet_stack_has_entries` (vcs_projection.rs:372-390). -/
def ensurePacketStackHasEntries (changeId : OpenSpecChangeId) : Txn Unit := do
  let entries ← selectFrom Rel.vcsPacketStackEntries fun r =>
    r.openspecChangeId = changeId ∧ r.state ≠ .superseded
  Tx.ensure (entries ≠ []) (invalidProjection
    "packet PR publication requires at least one active packet stack entry")

/-- `validate_pr_publication_tx` (vcs_projection.rs:316-370). -/
def validatePrPublication (req : RecordVcsPrPublicationReq) : Txn Unit := do
  ensureLength "publication_id" req.publicationId.val 256
  match req.kind with
  | .packet =>
    match req.openspecChangeId with
    | none => Tx.fail (invalidProjection "packet PR publication requires openspec_change_id")
    | some changeId =>
      Tx.ensure (req.claimId = none) (invalidProjection
        "packet PR publication must not include claim_id")
      Tx.ensure (req.bookmark.val = "packet/" ++ changeId.val) (invalidProjection
        "packet PR publication bookmark must be packet/<openspec_change_id>")
      Tx.whenever (req.status = .prepared ∨ req.status = .published)
        (ensurePacketStackHasEntries changeId)
  | .claim =>
    match req.claimId with
    | none => Tx.fail (invalidProjection "claim PR publication requires claim_id")
    | some claimId =>
      let _ ← loadClaim claimId
      Tx.ensure (req.bookmark.val = "claim/" ++ claimId.val) (invalidProjection
        "claim PR publication bookmark must be claim/<claim_id>")
  Tx.ensure (req.status = .published → req.prUrl.isSome) (invalidProjection
    "published PR publication requires pr_url")
  Tx.ensure (req.status = .blocked → req.blockerReason.isSome) (invalidProjection
    "blocked PR publication requires blocker_reason")
  Tx.ensure (req.status = .prepared ∨ req.status = .published → req.blockerReason = none)
    (invalidProjection "non-blocked PR publication must not include blocker_reason")

/-- `record_vcs_pr_publication` (vcs_projection.rs:132-213). -/
def recordVcsPrPublication (req : RecordVcsPrPublicationReq) (now : ℤ) : Txn Response :=
  mutation req.sessionToken.val "record_vcs_pr_publication" req.idempotencyKey
    (.recordVcsPrPublication req) now do
    let _ ← requireRole req.sessionToken [.orchestrator, .applyGate]
    validatePrPublication req
    let row : VcsPrPublicationRow :=
      { publicationId := req.publicationId
        kind := req.kind
        openspecChangeId := req.openspecChangeId
        claimId := req.claimId
        bookmark := req.bookmark
        headCommitId := req.headCommitId
        baseRef := req.baseRef
        prUrl := req.prUrl
        status := req.status
        blockerReason := req.blockerReason
        recordedBySession := req.sessionToken
        createdAt := now
        updatedAt := now }
    upsertInto Rel.vcsPrPublications row fun r =>
      { row with recordedBySession := r.recordedBySession, createdAt := r.createdAt }
    appendSessionEvent .vcsPrPublicationRecorded .vcsPrPublication req.publicationId.val
      req.sessionToken now
    let publication ← load Rel.vcsPrPublications .ok
      (invalidProjection "PR publication is not recorded") req.publicationId
    return .vcsPrPublication publication

end Covey

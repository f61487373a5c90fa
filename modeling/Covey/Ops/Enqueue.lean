import Covey.Ops.MetaTask

/-!
# Entering the apply queue and the archive ledger

The helpers of `src/ops/queue.rs` that review decisions and apply-gate
operations share: putting an approved artifact in the ready queue, and recording
that an applied OpenSpec artifact still has to be archived.
-/

namespace Covey

/-- What an opened store brings to its operations: the workflow profile, and BLAKE3 as the
    hexadecimal digest of a text. -/
structure Env where
  workflow : WorkflowProfile
  blake3Hex : String → String

/-- `is_applyable_artifact_kind` (queue.rs:2983-2988, artifact_review.rs:44-49). -/
def ArtifactKind.isApplyable (kind : ArtifactKind) : Prop :=
  kind = .patchBundle ∨ kind = .isolatedCommitRef ∨ kind = .treeBundle

instance (kind : ArtifactKind) : Decidable kind.isApplyable := inferInstanceAs (Decidable (_ ∨ _))

/-- `require_canonical_apply_policy` (queue.rs:54-66). -/
def requireCanonicalApplyPolicy (subtask : SubtaskRow) (operation : String) :
    Except CoveyError Unit :=
  if subtask.completionPolicy = .canonicalApply then .ok ()
  else .error (.completionPolicyViolation operation subtask.completionPolicy)

@[simp] theorem requireCanonicalApplyPolicy_ok {subtask : SubtaskRow} {operation : String}
    {u : Unit} :
    requireCanonicalApplyPolicy subtask operation = .ok u ↔
      subtask.completionPolicy = .canonicalApply := by
  unfold requireCanonicalApplyPolicy
  split_ifs with h <;> simp [h]

/-- `ensure_applyable_artifact_tx` (queue.rs:2990-3000). -/
def ensureApplyableArtifact (artifactDigest : ArtifactDigest) : Txn Unit := do
  let artifact ← loadArtifact artifactDigest
  Tx.ensure artifact.artifactKind.isApplyable
    (.illegalTransition (.subtask .approved) (.subtask .readyForApply) .subtask)

@[simp] theorem ensureApplyableArtifact_ok {artifactDigest : ArtifactDigest} {s s' : Db} {u : Unit} :
    ensureApplyableArtifact artifactDigest s = (.ok u, s') ↔
      (∃ a, s.artifacts.get? artifactDigest = some a ∧ a.artifactKind.isApplyable) ∧ s = s' := by
  simp only [ensureApplyableArtifact, Tx.bind_ok, loadArtifact_ok, Tx.ensure_ok, and_assoc,
    exists_and_left, exists_eq_left']
  tauto

/-- A queue row that counts as this artifact's: not superseded and not cancelled. -/
def ReadyQueueRow.isActive (q : ReadyQueueRow) : Prop :=
  q.state = .queued ∨ q.state = .inFlight ∨ q.state = .applied

instance (q : ReadyQueueRow) : Decidable q.isActive := inferInstanceAs (Decidable (_ ∨ _))

/-- `active_queue_id_for_artifact_tx` (queue.rs:3051-3077). -/
def activeQueueIdForArtifact (subtaskId : SubtaskId) (artifactDigest : ArtifactDigest) :
    Txn (Option QueueId) := do
  let active ← selectFrom Rel.readyQueue fun q =>
    q.subtaskId = subtaskId ∧ q.artifactDigest = artifactDigest ∧ q.isActive
  return (active.insertionSort fun a b => a.enqueuedAt ≤ b.enqueuedAt).head?.map (·.queueId)

@[simp] theorem activeQueueIdForArtifact_ok {subtaskId : SubtaskId}
    {artifactDigest : ArtifactDigest} {found : Option QueueId} {s s' : Db} :
    activeQueueIdForArtifact subtaskId artifactDigest s = (.ok found, s') ↔
      ((s.readyQueue.select fun q => q.subtaskId = subtaskId ∧ q.artifactDigest = artifactDigest ∧
        q.isActive).insertionSort fun a b => a.enqueuedAt ≤ b.enqueuedAt).head?.map (·.queueId) =
          found ∧ s = s' := by
  simp [activeQueueIdForArtifact, Rel.readyQueue, and_comm]

/-- `insert_ready_queue_item_tx` (queue.rs:2679-2728). The derived idempotency key only
    goes into the event, but it has to be a legal one. -/
def insertReadyQueueItem (sessionToken : SessionToken) (subtaskId : SubtaskId)
    (artifactDigest : ArtifactDigest) (now : ℤ) (idempotencyKey : String) :
    Txn (Option QueueId) := do
  match ← activeQueueIdForArtifact subtaskId artifactDigest with
  | some _ => return none
  | none =>
    let queueId ← freshId .queueId "queue"
    insertInto Rel.readyQueue
      { queueId := queueId
        artifactDigest := artifactDigest
        subtaskId := subtaskId
        state := .queued
        claimedBySessionToken := none
        claimFenceSeq := none
        claimLeaseDeadline := none
        enqueuedAt := now
        updatedAt := now }
    let _ ← typed (Text.parse .idempotencyKey idempotencyKey)
    appendSessionEvent .readyQueueEnqueued .readyQueue queueId.val sessionToken now
    return some queueId

/-- `enqueue_approved_subtask_for_apply_tx` (queue.rs:2591-2677). -/
def enqueueApprovedSubtaskForApply (sessionToken : SessionToken) (subtaskId : SubtaskId)
    (artifactDigest : ArtifactDigest) (now : ℤ) (idempotencyKey : String) :
    Txn (Option QueueId) := do
  let subtask ← loadSubtask subtaskId
  requireCanonicalApplyPolicy subtask "enqueue_for_apply"
  ensureApplyableArtifact artifactDigest
  let _ ← updateIn Rel.readyQueue (fun q => q.subtaskId = subtaskId ∧ q.isOpen) fun q =>
    { q with state := .superseded, claimedBySessionToken := none, claimLeaseDeadline := none,
             updatedAt := now }
  let updated ← updateIn Rel.subtasks (fun r => r.subtaskId = subtaskId ∧ r.state = .approved ∧
      r.artifactDigest = some artifactDigest) fun r =>
    { r with state := .readyForApply, updatedAt := now }
  if updated = 0 then
    let s ← Tx.get
    let queued := s.readyQueue.select fun q =>
      q.subtaskId = subtaskId ∧ q.artifactDigest = artifactDigest ∧ q.isActive
    let ready := (s.subtasks.get? subtaskId).any fun r =>
      r.artifactDigest = some artifactDigest ∧ r.state = .readyForApply
    if ready = true ∧ queued ≠ [] then return none
    else Tx.fail (.illegalTransition (.subtask .approved) (.subtask .readyForApply) .subtask)
  else insertReadyQueueItem sessionToken subtaskId artifactDigest now idempotencyKey

/-! ## The archive ledger -/

/-- The recursive query `source_chain`: a subtask, the subtask it is a follow-up of, and so
    on for `depth` rounds. -/
def sourceChain (rows : List ReviewFollowupRow) : ℕ → SubtaskId → List SubtaskId
  | 0, subtaskId => [subtaskId]
  | depth + 1, subtaskId =>
    subtaskId :: match rows.find? fun f => f.followupSubtaskId = subtaskId with
      | some f => sourceChain rows depth f.sourceSubtaskId
      | none => []

/-- `openspec_change_id_for_subtask_tx` (queue.rs:2773-2801). -/
def openspecChangeIdForSubtask (s : Db) (subtaskId : SubtaskId) : Option OpenSpecChangeId :=
  (sourceChain s.reviewFollowups.rows s.reviewFollowups.rows.length subtaskId).findSome? fun x =>
    (s.subtaskScopes.get? x).map (·.openspecChangeId)

/-- `archive_status_matches_req` (queue.rs:2886-2896). -/
def archiveStatusMatchesReq (status : OpenSpecArchiveStatusRow)
    (req : RecordOpenSpecArchiveStatusReq) : Prop :=
  status.queueId = req.queueId ∧ status.artifactDigest = req.artifactDigest ∧
  status.openspecChangeId = req.openspecChangeId ∧ status.state = req.state ∧
  status.blockedReason = req.blockedReason ∧ status.archiveProofDigest = req.archiveProofDigest

instance (status : OpenSpecArchiveStatusRow) (req : RecordOpenSpecArchiveStatusReq) :
    Decidable (archiveStatusMatchesReq status req) := inferInstanceAs (Decidable (_ ∧ _))

/-- `insert_openspec_archive_status_tx` (queue.rs:2898-2927). -/
def insertOpenSpecArchiveStatus (req : RecordOpenSpecArchiveStatusReq) (subtaskId : SubtaskId)
    (createdAt updatedAt : ℤ) : Txn Unit :=
  insertInto Rel.openSpecArchiveStatus
    { queueId := req.queueId
      subtaskId := subtaskId
      artifactDigest := req.artifactDigest
      openspecChangeId := req.openspecChangeId
      state := req.state
      blockedReason := req.blockedReason
      archiveProofDigest := req.archiveProofDigest
      recordedBySession := req.sessionToken
      createdAt := createdAt
      updatedAt := updatedAt }

/-- `direct_no_apply_archive_status_id` (queue.rs:3046-3049). -/
def directNoApplyArchiveStatusId (env : Env) (subtaskId : SubtaskId)
    (artifactDigest : ArtifactDigest) : String :=
  "archive_no_apply_" ++
    String.ofList ((env.blake3Hex (subtaskId.val ++ "\n" ++ artifactDigest.val)).toList.take 32)

/-- The common body of `record_applied_openspec_archive_blocker_tx` (queue.rs:2730-2771) and
    `record_direct_applied_openspec_archive_blocker_tx` (queue.rs:3002-3044): if the subtask
    belongs to an OpenSpec change, its artifact is recorded as applied but not archived under
    the given ledger id. -/
def recordArchiveBlocker (sessionToken : SessionToken) (statusId : String) (subtaskId : SubtaskId)
    (artifactDigest : ArtifactDigest) (now : ℤ) (idempotencyKey : String) : Txn Unit := do
  match openspecChangeIdForSubtask (← Tx.get) subtaskId with
  | none => return ()
  | some openspecChangeId =>
    let queueId ← typed (Text.parse .queueId statusId)
    let blockedReason ← typed (Text.parse .openSpecArchiveBlockedReason "applied_but_unarchived")
    let key ← typed (Text.parse .idempotencyKey idempotencyKey)
    let req : RecordOpenSpecArchiveStatusReq :=
      { sessionToken := sessionToken
        queueId := queueId
        artifactDigest := artifactDigest
        openspecChangeId := openspecChangeId
        state := .blocked
        blockedReason := some blockedReason
        archiveProofDigest := none
        idempotencyKey := key }
    match ← lookup Rel.openSpecArchiveStatus queueId with
    | some existing =>
      Tx.ensure (archiveStatusMatchesReq existing req)
        (.illegalTransition (.openSpecArchiveStatus existing.state)
          (.openSpecArchiveStatus req.state) .readyQueue)
    | none =>
      insertOpenSpecArchiveStatus req subtaskId now now
      appendSessionEvent .openSpecArchiveStatusRecorded .readyQueue queueId.val sessionToken now

/-- `record_applied_openspec_archive_blocker_tx` (queue.rs:2730-2771). -/
def recordAppliedOpenSpecArchiveBlocker (sessionToken : SessionToken) (item : ReadyQueueRow)
    (now : ℤ) (idempotencyKey : IdempotencyKey) : Txn Unit :=
  recordArchiveBlocker sessionToken item.queueId.val item.subtaskId item.artifactDigest now
    ("auto-openspec-archive-blocker:" ++ idempotencyKey.val)

/-- `record_direct_applied_openspec_archive_blocker_tx` (queue.rs:3002-3044). -/
def recordDirectAppliedOpenSpecArchiveBlocker (env : Env) (sessionToken : SessionToken)
    (subtaskId : SubtaskId) (artifactDigest : ArtifactDigest) (now : ℤ) (idempotencyKey : String) :
    Txn Unit :=
  recordArchiveBlocker sessionToken (directNoApplyArchiveStatusId env subtaskId artifactDigest)
    subtaskId artifactDigest now idempotencyKey

end Covey

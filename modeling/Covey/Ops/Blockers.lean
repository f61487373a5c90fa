import Covey.Ops.Enqueue

/-!
# Operator and prose blockers

Model of `src/ops/operator_blocker.rs` and of `record_prose_apply_blocker`
(src/ops/prose_intake.rs): notes on work that an operator or the apply gate holds
up. They are read by status views and by no lifecycle guard.
-/

namespace Covey

/-- `load_operator_blocker_tx` (operator_blocker.rs:217-224). -/
def loadOperatorBlocker (blockerId : OperatorBlockerId) : Txn OperatorBlockerRow :=
  load Rel.operatorBlockers OperatorBlockerRow.load (.databaseError "Query returned no rows")
    blockerId

/-- `require_openspec_scope_tx` (operator_blocker.rs:199-215). -/
def requireOpenSpecScope (req : RecordOperatorBlockerReq) : Txn Unit := do
  match openspecChangeIdForSubtask (← Tx.get) req.subtaskId with
  | none => Tx.fail (.invalidImportDestination
      "operator blocker target requires imported OpenSpec subtask scope")
  | some scope =>
    Tx.ensure (scope = req.openspecChangeId)
      (.invalidImportDestination "operator blocker change id does not match target scope")

/-- The check of the blocker's target (operator_blocker.rs:65-91). -/
def requireBlockerTarget (req : RecordOperatorBlockerReq) : Txn Unit := do
  match req.targetKind with
  | .subtask =>
    let _ ← loadSubtask req.subtaskId
    requireOpenSpecScope req
  | .readyQueue =>
    match req.queueId with
    | none => Tx.fail (.invalidImportDestination
        "operator blocker ready queue target requires queue_id")
    | some queueId =>
      ensureLength "queue_id" queueId.val 256
      let item ← loadQueueItem queueId
      Tx.ensure (item.subtaskId = req.subtaskId ∧ some item.artifactDigest = req.artifactDigest)
        (.applyGateEvidenceMissing item.queueId
          "operator blocker ready queue target does not match queue item")
      requireOpenSpecScope req

/-- `operator_blocker_matches_req` (operator_blocker.rs:274-284). -/
def OperatorBlockerRow.matchesReq (r : OperatorBlockerRow) (req : RecordOperatorBlockerReq) :
    Prop :=
  r.blockerId = req.blockerId ∧ r.openspecChangeId = req.openspecChangeId ∧
  r.targetKind = req.targetKind ∧ r.subtaskId = req.subtaskId ∧ r.queueId = req.queueId ∧
  r.artifactDigest = req.artifactDigest ∧ r.reason = req.reason ∧
  r.sourceEvidenceId = req.sourceEvidenceId ∧ r.recordedBySession = req.sessionToken

instance (r : OperatorBlockerRow) (req : RecordOperatorBlockerReq) : Decidable (r.matchesReq req) :=
  inferInstanceAs (Decidable (_ ∧ _))

/-- `record_operator_blocker` (operator_blocker.rs:36-133): a blocker that is already there is
    returned as it is. -/
def recordOperatorBlocker (req : RecordOperatorBlockerReq) (now : ℤ) : Txn Response :=
  mutation req.sessionToken.val "record_operator_blocker" req.idempotencyKey
    (.recordOperatorBlocker req) now do
    let _ ← requireRole req.sessionToken [.orchestrator]
    ensureLength "blocker_id" req.blockerId.val 256
    ensureLength "openspec_change_id" req.openspecChangeId.val 256
    ensureLength "subtask_id" req.subtaskId.val 256
    ensureLength "reason" req.reason.val 256
    req.sourceEvidenceId.forM fun evidenceId =>
      ensureLength "source_evidence_id" evidenceId.val 256
    requireBlockerTarget req
    match ← lookup Rel.operatorBlockers req.blockerId with
    | some row =>
      let existing ← row.load
      Tx.ensure (existing.matchesReq req) (.invalidImportDestination
        "operator blocker id already exists with different target or evidence")
      return .operatorBlocker existing
    | none =>
      insertInto Rel.operatorBlockers
        { blockerId := req.blockerId
          openspecChangeId := req.openspecChangeId
          targetKind := req.targetKind
          subtaskId := req.subtaskId
          queueId := req.queueId
          artifactDigest := req.artifactDigest
          reason := req.reason
          sourceEvidenceId := req.sourceEvidenceId
          state := .opened
          recordedBySession := req.sessionToken
          resolvedReason := none
          resolvedBySession := none
          resolvedAt := none
          createdAt := now
          updatedAt := now }
      appendSessionEvent .operatorBlockerRecorded .operatorBlocker req.blockerId.val
        req.sessionToken now
      let blocker ← loadOperatorBlocker req.blockerId
      return .operatorBlocker blocker

/-- `resolve_operator_blocker` (operator_blocker.rs:136-197). -/
def resolveOperatorBlocker (req : ResolveOperatorBlockerReq) (now : ℤ) : Txn Response :=
  mutation req.sessionToken.val "resolve_operator_blocker" req.idempotencyKey
    (.resolveOperatorBlocker req) now do
    let _ ← requireRole req.sessionToken [.orchestrator]
    ensureLength "blocker_id" req.blockerId.val 256
    ensureLength "resolved_reason" req.resolvedReason.val 256
    let existing ← loadOperatorBlocker req.blockerId
    if existing.state = .resolved then
      Tx.ensure (existing.resolvedReason = some req.resolvedReason ∧
          existing.resolvedBySession = some req.sessionToken)
        (.invalidImportDestination "operator blocker is already resolved with different evidence")
      return .operatorBlocker existing
    else
      let _ ← updateIn Rel.operatorBlockers (fun r => r.blockerId = req.blockerId) fun r =>
        { r with state := .resolved, resolvedReason := some req.resolvedReason,
                 resolvedBySession := some req.sessionToken, resolvedAt := some now,
                 updatedAt := now }
      appendSessionEvent .operatorBlockerResolved .operatorBlocker req.blockerId.val
        req.sessionToken now
      let blocker ← loadOperatorBlocker req.blockerId
      return .operatorBlocker blocker

/-- `record_prose_apply_blocker` (prose_intake.rs:80-147). A blocker that is already there only
    gets the new detail; a new one must name a queue row that exists. -/
def recordProseApplyBlocker (req : RecordProseApplyBlockerReq) (now : ℤ) : Txn Response :=
  mutation req.sessionToken.val "record_prose_apply_blocker" req.idempotencyKey
    (.recordProseApplyBlocker req) now do
    let _ ← requireRole req.sessionToken [.applyGate]
    let s ← Tx.get
    Tx.ensure ((s.proseTasksets.get? req.tasksetId).isSome) .metaTaskNotFound
    Tx.ensure ((s.proseApplyBlockers.get? req.blockerId).isSome ∨
      ∀ queueId ∈ req.queueId, (s.readyQueue.get? queueId).isSome) constraintViolation
    upsertInto Rel.proseApplyBlockers
      { blockerId := req.blockerId
        tasksetId := req.tasksetId
        queueId := req.queueId
        artifactDigest := req.artifactDigest
        reviewId := req.reviewId
        reason := req.reason
        detail := req.detail
        createdAt := now
        updatedAt := now }
      fun r => { r with detail := req.detail, updatedAt := now }
    appendSessionEvent .proseApplyBlockerRecorded .readyQueue
      (req.queueId.elim req.tasksetId.val (·.val)) req.sessionToken now
    return .unit

end Covey

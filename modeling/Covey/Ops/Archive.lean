import Covey.Ops.Queue

/-!
# Archiving OpenSpec changes

Model of the archive ledger and of the cleanup claim of `src/ops/queue.rs`:
recording that an applied artifact is archived, and the `begin`/`finish` pair
under which an orchestrator archives a whole change.

The cleanup of a change runs on a subtask with a reserved id that is derived
from the change, `cleanupSubtaskName`.
-/

namespace Covey

/-! ## The ledger -/

/-- `OPENSPEC_SCOPE_WITH_FOLLOWUPS_CTE` (queue.rs:68-79): the subtasks imported for a change,
    their follow-ups, and so on. -/
def openspecScope (s : Db) (changeId : OpenSpecChangeId) : List SubtaskId :=
  let imported := (s.subtaskScopes.select fun r => r.openspecChangeId = changeId).map (·.subtaskId)
  (imported ++
    followupChain s.reviewFollowups.rows s.reviewFollowups.rows.length imported).dedup

/-- The work that `direct_applied_archive_subtask_tx` offers for a request: applied, in the
    scope of the change, with the request's findings or verification artifact, never queued. -/
def isDirectApplied (s : Db) (req : RecordOpenSpecArchiveStatusReq) (r : SubtaskRow) : Prop :=
  r.subtaskId ∈ openspecScope s req.openspecChangeId ∧ r.state = .applied ∧
  r.artifactDigest = some req.artifactDigest ∧
  (s.artifacts.get? req.artifactDigest).any (fun a => ¬a.artifactKind.isApplyable) = true ∧
  ¬∃ q ∈ s.readyQueue.rows, q.subtaskId = r.subtaskId ∧ q.artifactDigest = req.artifactDigest

instance (s : Db) (req : RecordOpenSpecArchiveStatusReq) (r : SubtaskRow) :
    Decidable (isDirectApplied s req r) := inferInstanceAs (Decidable (_ ∧ _))

/-- `direct_applied_archive_subtask_tx` (queue.rs:2803-2847). -/
def directAppliedArchiveSubtask (req : RecordOpenSpecArchiveStatusReq) : Txn SubtaskId := do
  let s ← Tx.get
  let direct := s.subtasks.select (isDirectApplied s req)
  let latest := direct.insertionSort fun a b => b.updatedAt < a.updatedAt ∨
    (a.updatedAt = b.updatedAt ∧ a.subtaskId.val ≤ b.subtaskId.val)
  match latest.head? with
  | some r => return r.subtaskId
  | none => Tx.fail (.applyGateEvidenceMissing req.queueId
      ("OpenSpec direct archive status requires a direct-applied findings or " ++
        "verification artifact"))

/-- `load_openspec_archive_status_tx` (queue.rs:2849-2865). -/
def loadOpenSpecArchiveStatus (queueId : QueueId) : Txn OpenSpecArchiveStatusRow :=
  load Rel.openSpecArchiveStatus .ok (.databaseError "Query returned no rows") queueId

/-- `update_openspec_archive_status_tx` (queue.rs:2929-2968). -/
def updateOpenSpecArchiveStatus (req : RecordOpenSpecArchiveStatusReq) (subtaskId : SubtaskId)
    (now : ℤ) : Txn Unit := do
  let updated ← updateIn Rel.openSpecArchiveStatus (fun r => r.queueId = req.queueId ∧
      r.subtaskId = subtaskId ∧ r.artifactDigest = req.artifactDigest ∧
      r.openspecChangeId = req.openspecChangeId ∧ r.state = .blocked) fun r =>
    { r with state := req.state, blockedReason := req.blockedReason,
             archiveProofDigest := req.archiveProofDigest,
             recordedBySession := req.sessionToken, updatedAt := now }
  Tx.ensure (updated = 1)
    (.illegalTransition (.openSpecArchiveStatus .blocked) (.openSpecArchiveStatus req.state)
      .readyQueue)

/-- Writes the requested status of a subtask's artifact: a new row, or the step from blocked to
    archived. The worktrees of a queued artifact may be cleaned up once it is archived
    (queue.rs:1037-1083 without a queue row, 1124-1172 with one). -/
def settleArchiveStatus (req : RecordOpenSpecArchiveStatusReq) (subtaskId : SubtaskId)
    (queued : Bool) (now : ℤ) : Txn Response := do
  match ← lookup Rel.openSpecArchiveStatus req.queueId with
  | some existing =>
    if archiveStatusMatchesReq existing req then return .archiveStatus existing
    else
      Tx.ensure (existing.state = .blocked ∧ req.state = .archived)
        (.illegalTransition (.openSpecArchiveStatus existing.state)
          (.openSpecArchiveStatus req.state) .readyQueue)
      updateOpenSpecArchiveStatus req subtaskId now
  | none => insertOpenSpecArchiveStatus req subtaskId now now
  Tx.whenever (queued = true ∧ req.state = .archived)
    (markApplyWorktreesForQueue req.queueId .cleanupAllowed now)
  appendSessionEvent .openSpecArchiveStatusRecorded .readyQueue req.queueId.val req.sessionToken now
  let status ← loadOpenSpecArchiveStatus req.queueId
  return .archiveStatus status

/-- `record_openspec_archive_status` (queue.rs:998-1186). -/
def recordOpenSpecArchiveStatus (req : RecordOpenSpecArchiveStatusReq) (now : ℤ) : Txn Response :=
  mutation req.sessionToken.val "record_openspec_archive_status" req.idempotencyKey
    (.recordOpenSpecArchiveStatus req) now do
    let _ ← requireRole req.sessionToken [.orchestrator]
    ensureLength "queue_id" req.queueId.val 256
    ensureLength "artifact_digest" req.artifactDigest.val 512
    ensureLength "openspec_change_id" req.openspecChangeId.val 256
    req.blockedReason.forM fun reason => (ensureLength "blocked_reason" reason.val 256 : Txn Unit)
    req.archiveProofDigest.forM fun digest =>
      (ensureLength "archive_proof_digest" digest.val 512 : Txn Unit)
    let s ← Tx.get
    if s.readyQueue.get? req.queueId = none ∧ "archive_no_apply_".toList <+: req.queueId.val.toList
    then
      let subtaskId ← directAppliedArchiveSubtask req
      settleArchiveStatus req subtaskId false now
    else
      let item ← loadQueueItem req.queueId
      let missing (reason : String) : CoveyError :=
        .applyGateEvidenceMissing item.queueId ("OpenSpec archive status " ++ reason)
      Tx.ensure (item.state = .applied) (missing "requires an applied queue item")
      Tx.ensure (item.artifactDigest = req.artifactDigest)
        (missing "artifact digest does not match queue item")
      match openspecChangeIdForSubtask s item.subtaskId with
      | none => Tx.fail (missing "requires imported subtask scope")
      | some scopeChangeId =>
        Tx.ensure (scopeChangeId = req.openspecChangeId)
          (missing "change id does not match imported scope")
      settleArchiveStatus req item.subtaskId true now

/-! ## Eligibility -/

/-- `OpenSpecArchiveEligibility` (records.rs). -/
structure OpenSpecArchiveEligibility where
  scopedSubtasks : List SubtaskRow
  openArchiveBlockers : List OpenSpecArchiveStatusRow
  pendingSubtasks : List SubtaskRow

/-- `OpenSpecArchiveEligibility::new`: the flag `safe_to_archive`. -/
def OpenSpecArchiveEligibility.safeToArchive (e : OpenSpecArchiveEligibility) : Prop :=
  e.scopedSubtasks.isEmpty = false ∧ e.pendingSubtasks.isEmpty = true ∧
    e.openArchiveBlockers.isEmpty = false

instance (e : OpenSpecArchiveEligibility) : Decidable e.safeToArchive :=
  inferInstanceAs (Decidable (_ ∧ _))

/-- `load_open_openspec_archive_blockers_for_change_tx` (queue.rs:2150-2180). -/
def loadOpenArchiveBlockers (changeId : OpenSpecChangeId) :
    Txn (List OpenSpecArchiveStatusRow) := do
  let blockers ← selectFrom Rel.openSpecArchiveStatus fun r =>
    r.openspecChangeId = changeId ∧ r.state = .blocked
  return blockers.insertionSort fun a b => a.updatedAt < b.updatedAt ∨
    (a.updatedAt = b.updatedAt ∧ a.queueId.val ≤ b.queueId.val)

/-- `archive_eligibility_for_change_tx` (queue.rs:2072-2097) with the loaders it uses. A
    subtask that has a repair follow-up need not be applied itself. -/
def archiveEligibilityForChange (changeId : OpenSpecChangeId) :
    Txn OpenSpecArchiveEligibility := do
  let s ← Tx.get
  let scope := openspecScope s changeId
  let rows := s.subtasks.select fun r => r.subtaskId ∈ scope
  let subtasks ← Tx.mapEach rows fun r => liftM r.load
  let blockers ← loadOpenArchiveBlockers changeId
  let repaired := (s.reviewFollowups.select fun f => f.sourceSubtaskId ∈ scope).map
    (·.sourceSubtaskId)
  return ⟨subtasks, blockers, subtasks.filter fun r => r.state ≠ .applied ∧ r.subtaskId ∉ repaired⟩

/-! ## Beginning a cleanup -/

/-- `CLEANUP_LEASE_MS` (queue.rs:1263). -/
def cleanupLeaseMs : ℤ := 600000

/-- The reserved id of the cleanup subtask of a change. -/
def cleanupSubtaskName (changeId : OpenSpecChangeId) : String :=
  "openspec:" ++ changeId.val ++ ":cleanup:archive"

/-- The error of every refusal that names no queue row. -/
def cleanupMissing {α : Type} (reason : String) : Txn α := do
  let queueId ← typed (Text.parse .queueId "queue-openspec-archive-cleanup")
  Tx.fail (.applyGateEvidenceMissing queueId reason)

/-- The ids `begin` derives from the change. No stored meta-task has an over-long id, and the
    first reservation refuses an over-long subtask id. -/
def cleanupMetaTaskId (changeId : OpenSpecChangeId) : Txn MetaTaskId :=
  match Text.parse .metaTaskId ("openspec:" ++ changeId.val) with
  | .ok metaTaskId => pure metaTaskId
  | .error _ => Tx.fail .metaTaskNotFound

def cleanupSubtaskId (changeId : OpenSpecChangeId) : Txn SubtaskId :=
  match Text.parse .subtaskId (cleanupSubtaskName changeId) with
  | .ok subtaskId => pure subtaskId
  | .error e => cleanupMissing ("invalid " ++ e.field ++ ": " ++ e.reason)

/-- `RepoopsPath::parse` (types.rs:580-620). -/
def RepoopsPath.parse (raw : String) : Except TypeValidationError RepoopsPath :=
  match h : RepoopsPath.normalize raw with
  | .ok val => .ok ⟨val, raw, h⟩
  | .error e => .error e

/-- `load_cleanup_claim_for_change_tx` (queue.rs:2182-2235): the recorded cleanup claim, if it
    is open, held and its lease runs. Its owner is not looked at. -/
def loadCleanupClaimForChange (changeId : OpenSpecChangeId)
    (blockers : List OpenSpecArchiveStatusRow) (leaseNow : ℤ) :
    Txn (Option OpenSpecArchiveCleanupClaim) := do
  let s ← Tx.get
  match s.cleanupClaims.get? changeId with
  | none => return none
  | some row =>
    match s.claims.get? row.cleanupClaimId with
    | none => return none
    | some claim =>
      if row.archiveProofDigest = none ∧ claim.state = .held ∧ leaseNow < claim.leaseDeadline then
        let paths ← Tx.mapEach row.archivePaths fun path =>
          (liftM (typed (RepoopsPath.parse path.val)) : Txn RepoopsPath)
        return some ⟨changeId, row.cleanupSubtaskId, row.cleanupClaimId, claim.fenceSeq, paths,
          blockers⟩
      else return none

/-- `release_active_reservations_for_subtask_tx` (queue.rs:2426-2447): unlike
    `releaseActiveReservations` it leaves the overlap conflicts as they are. -/
def releaseActiveReservationsForSubtask (ownerSubtaskId : SubtaskId) (now : ℤ) : Txn Unit := do
  let _ ← updateIn Rel.reservations
    (fun r => r.ownerSubtaskId = ownerSubtaskId ∧ r.state = .active) fun r =>
    { r with state := .released, updatedAt := now }

/-- The two statements that end a cleanup claim, in `retire_stale_cleanup_claim_for_change_tx`
    and in `finish_openspec_archive_cleanup`. Neither checks how many rows it changed, and the
    session's active subtask is left as it is. -/
def endCleanupClaim (row : CleanupClaimRow) (claimState : ClaimState) (subtaskState : SubtaskState)
    (now : ℤ) : Txn Unit := do
  let _ ← updateIn Rel.claims (fun c => c.claimId = row.cleanupClaimId ∧ c.state = .held) fun c =>
    { c with state := claimState, updatedAt := now }
  let _ ← updateIn Rel.subtasks (fun r => r.subtaskId = row.cleanupSubtaskId ∧
      r.currentClaimId = some row.cleanupClaimId) fun r =>
    { r with state := subtaskState, currentClaimId := none, updatedAt := now }
  releaseActiveReservationsForSubtask row.cleanupSubtaskId now

/-- `retire_stale_cleanup_claim_for_change_tx` (queue.rs:2237-2298). -/
def retireStaleCleanupClaim (changeId : OpenSpecChangeId) (leaseNow now : ℤ) : Txn Unit := do
  let s ← Tx.get
  match s.cleanupClaims.get? changeId with
  | none => return ()
  | some row =>
    let stale : Prop := row.archiveProofDigest = none ∧
      ∀ c ∈ s.claims.get? row.cleanupClaimId, c.state ≠ .held ∨ c.leaseDeadline ≤ leaseNow
    Tx.whenever stale (endCleanupClaim row .expired .available now)

/-- `reusable_cleanup_claim_id_tx` (queue.rs:2300-2350): the held current claim of the cleanup
    subtask, else the recorded cleanup claim, else the newest claim on the subtask. -/
def reusableCleanupClaimId (s : Db) (changeId : OpenSpecChangeId) (subtaskId : SubtaskId) :
    Option ClaimId :=
  let current := (s.subtasks.get? subtaskId).bind fun r => r.currentClaimId.filter fun c =>
    (s.claims.get? c).any fun claim => claim.state = .held
  let recorded := (s.cleanupClaims.get? changeId).map (·.cleanupClaimId)
  let newest := ((s.claims.select fun c => c.subtaskId = subtaskId).insertionSort fun a b =>
    b.updatedAt < a.updatedAt ∨ (a.updatedAt = b.updatedAt ∧ (b.createdAt < a.createdAt ∨
      (a.createdAt = b.createdAt ∧ b.claimId.val ≤ a.claimId.val)))).head?.map (·.claimId)
  (current.or recorded).or newest

/-- The id under which a cleanup is claimed: one to use again, or a new one
    (queue.rs:1346-1348). -/
def cleanupClaimId (changeId : OpenSpecChangeId) (subtaskId : SubtaskId) : Txn ClaimId := do
  match reusableCleanupClaimId (← Tx.get) changeId subtaskId with
  | some claimId => return claimId
  | none => freshId .claimId "claim"

/-- The `INSERT … ON CONFLICT DO NOTHING` of the cleanup subtask and the `UPDATE` that opens an
    abandoned one again (queue.rs:1306-1343). -/
def ensureCleanupSubtask (subtaskId : SubtaskId) (metaTaskId : MetaTaskId) (title : SubtaskTitle)
    (routingKey : RoutingKey) (now : ℤ) : Txn Unit := do
  let found ← subtaskExists subtaskId
  Tx.whenever (found = false) (insertInto Rel.subtasks
    { subtaskId := subtaskId
      metaTaskId := metaTaskId
      title := title
      kind := .cleanup
      reviewTargetSubtaskId := none
      reviewTargetArtifactDigest := none
      state := .available
      currentClaimId := none
      artifactDigest := none
      priority := 1000
      completionPolicy := .canonicalApply
      routingKey := routingKey
      evidencePolicy := .required
      createdAt := now
      updatedAt := now })
  let _ ← updateIn Rel.subtasks (fun r => r.subtaskId = subtaskId ∧ r.kind = .cleanup ∧
      r.state = .abandoned) fun r =>
    { r with state := .available, currentClaimId := none, updatedAt := now }

/-- `INSERT INTO claims … ON CONFLICT(claim_id) DO UPDATE` (queue.rs:1354-1380). A conflicting
    row keeps its subtask and its creation time. Changing the owner or the fence of a claim that
    an attempt outcome refers to breaks that row's foreign key. -/
def upsertCleanupClaim (claim : ClaimRow) : Txn Unit := do
  let s ← Tx.get
  match s.claims.get? claim.claimId with
  | none => insertInto Rel.claims claim
  | some existing =>
    Tx.ensure (∀ o ∈ s.attemptOutcomes.get? claim.claimId,
        existing.fenceSeq = claim.fenceSeq ∧ existing.ownerSessionToken = claim.ownerSessionToken)
      constraintViolation
    let _ ← updateIn Rel.claims (fun c => c.claimId = claim.claimId) fun c =>
      { c with ownerSessionToken := claim.ownerSessionToken, fenceSeq := claim.fenceSeq,
               leaseDeadline := claim.leaseDeadline, state := claim.state,
               updatedAt := claim.updatedAt }

/-- `RequestReservationReq::try_from_raw_parts` (requests.rs:2338-2356) on the values `begin`
    passes: it only goes into the event, but it has to be a legal request. -/
def cleanupReservationReq (changeId : OpenSpecChangeId) (path : RepoopsPath) :
    Except String IdempotencyKey :=
  if blank path.val then .error "subtree reservations require scope_key"
  else if padded path.val then .error "subtree reservation scope_key must be normalized"
  else
    match Text.parse .idempotencyKey
      ("begin-openspec-archive-cleanup-reservation:" ++ changeId.val ++ ":" ++ path.val) with
    | .ok key => .ok key
    | .error e => .error ("invalid " ++ e.field ++ ": " ++ e.reason)

/-- One round of the loop over the archive paths (queue.rs:1409-1457). -/
def reserveArchivePath (req : BeginOpenSpecArchiveCleanupReq) (subtaskId : SubtaskId)
    (leaseDeadline now : ℤ) (path : RepoopsPath) : Txn Unit := do
  let reservationId ← freshId .reservationId "reservation"
  insertInto Rel.reservations
    { reservationId := reservationId
      ownerSubtaskId := subtaskId
      scopeClass := .subtree
      scopeKey := path.val
      generatedMembers := []
      leaseDeadline := leaseDeadline
      state := .active
      createdAt := now
      updatedAt := now }
  match cleanupReservationReq req.openspecChangeId path with
  | .error reason => cleanupMissing reason
  | .ok _ => pure ()
  appendSessionEvent .reservationRequested .reservation reservationId.val req.sessionToken now

/-- `INSERT INTO openspec_archive_cleanup_claims … ON CONFLICT DO UPDATE`
    (queue.rs:1458-1486). -/
def upsertCleanupClaimRow (row : CleanupClaimRow) : Txn Unit := do
  match ← lookup Rel.cleanupClaims row.openspecChangeId with
  | none => insertInto Rel.cleanupClaims row
  | some _ =>
    let _ ← updateIn Rel.cleanupClaims (fun r => r.openspecChangeId = row.openspecChangeId) fun r =>
      { row with createdAt := r.createdAt }

/-- The part of `begin_openspec_archive_cleanup` that opens a claim (queue.rs:1300-1502). The
    session's active subtask is not set, and the `UPDATE` of the subtask may change no row. -/
def openCleanupClaim (req : BeginOpenSpecArchiveCleanupReq)
    (blockers : List OpenSpecArchiveStatusRow) (leaseNow now : ℤ) :
    Txn OpenSpecArchiveCleanupClaim := do
  let changeId := req.openspecChangeId
  let metaTaskId ← cleanupMetaTaskId changeId
  let _ ← loadMetaTask metaTaskId
  let subtaskId ← cleanupSubtaskId changeId
  let title ← typed (Text.parse .subtaskTitle ("Archive OpenSpec change " ++ changeId.val))
  let routingKey ← typed (Text.parse .routingKey "mutai")
  ensureCleanupSubtask subtaskId metaTaskId title routingKey now
  let fenceSeq ← issueFenceSeq subtaskId
  let claimId ← cleanupClaimId changeId subtaskId
  let leaseDeadline ← typed (LeaseDeadlineMs.parse (addI64 leaseNow cleanupLeaseMs))
  upsertCleanupClaim
    { claimId := claimId
      subtaskId := subtaskId
      ownerSessionToken := req.sessionToken
      fenceSeq := fenceSeq
      leaseDeadline := leaseDeadline
      state := .held
      createdAt := now
      updatedAt := now }
  let _ ← updateIn Rel.subtasks (fun r => r.subtaskId = subtaskId ∧ r.state = .available ∧
      r.currentClaimId = none) fun r =>
    { r with state := .inProgress, currentClaimId := some claimId, updatedAt := now }
  Tx.forEach req.paths (reserveArchivePath req subtaskId leaseDeadline now)
  upsertCleanupClaimRow
    { openspecChangeId := changeId
      cleanupSubtaskId := subtaskId
      cleanupClaimId := claimId
      archivePaths := req.paths
      archiveProofDigest := none
      recordedBySession := req.sessionToken
      createdAt := now
      updatedAt := now }
  appendSessionEvent .subtaskClaimed .claim claimId.val req.sessionToken now
  return ⟨changeId, subtaskId, claimId, fenceSeq, req.paths, blockers⟩

/-- The text of `begin`'s refusal of a change that is not ready. -/
def notReadyToArchive : String :=
  "OpenSpec archive cleanup requires all scoped subtasks applied and at least one open " ++
    "archive blocker"

/-- `begin_openspec_archive_cleanup` (queue.rs:1259-1502). -/
def beginOpenSpecArchiveCleanup (req : BeginOpenSpecArchiveCleanupReq) (now : ℤ) : Txn Response :=
  leasedMutation req.sessionToken.val "begin_openspec_archive_cleanup" req.idempotencyKey
    (.beginOpenSpecArchiveCleanup req) now fun leaseNow => do
    let _ ← requireRole req.sessionToken [.orchestrator]
    let eligibility ← archiveEligibilityForChange req.openspecChangeId
    Tx.whenever (¬eligibility.safeToArchive) (cleanupMissing notReadyToArchive)
    match ← loadCleanupClaimForChange req.openspecChangeId eligibility.openArchiveBlockers
      leaseNow with
    | some existing => return .cleanupClaim existing
    | none =>
      retireStaleCleanupClaim req.openspecChangeId leaseNow now
      let claim ← openCleanupClaim req eligibility.openArchiveBlockers leaseNow now
      return .cleanupClaim claim

/-! ## Finishing a cleanup -/

/-- `archived_cleanup_finish_tx` (queue.rs:2371-2424). -/
def archivedCleanupFinish (req : FinishOpenSpecArchiveCleanupReq) (row : CleanupClaimRow)
    (now : ℤ) : Txn OpenSpecArchiveCleanupFinish := do
  Tx.whenever (row.archiveProofDigest ≠ some req.archiveProofDigest) (cleanupMissing
    "OpenSpec archive cleanup proof digest does not match recorded proof")
  let archived ← selectFrom Rel.openSpecArchiveStatus fun r =>
    r.openspecChangeId = req.openspecChangeId ∧ r.state = .archived ∧
    r.archiveProofDigest = some req.archiveProofDigest
  releaseActiveReservationsForSubtask row.cleanupSubtaskId now
  return ⟨req.openspecChangeId, req.archiveProofDigest,
    (archived.map (·.queueId)).insertionSort (fun a b => a.val ≤ b.val),
    row.cleanupSubtaskId, req.cleanupClaimId⟩

/-- One round of the loop over the open blockers (queue.rs:1537-1576). -/
def archiveBlocker (req : FinishOpenSpecArchiveCleanupReq) (now : ℤ)
    (blocker : OpenSpecArchiveStatusRow) : Txn Unit := do
  let key ← typed (Text.parse .idempotencyKey ("finish-openspec-archive-cleanup:" ++
    req.openspecChangeId.val ++ ":" ++ blocker.queueId.val))
  updateOpenSpecArchiveStatus
    { sessionToken := req.sessionToken
      queueId := blocker.queueId
      artifactDigest := blocker.artifactDigest
      openspecChangeId := req.openspecChangeId
      state := .archived
      blockedReason := none
      archiveProofDigest := some req.archiveProofDigest
      idempotencyKey := key }
    blocker.subtaskId now
  markApplyWorktreesForQueue blocker.queueId .cleanupAllowed now
  appendSessionEvent .openSpecArchiveStatusRecorded .readyQueue blocker.queueId.val
    req.sessionToken now

/-- `finish_openspec_archive_cleanup` (queue.rs:1505-1668). The lease is compared with the wall
    reading itself: the lease clock is neither advanced nor read. -/
def finishOpenSpecArchiveCleanup (req : FinishOpenSpecArchiveCleanupReq) (now : ℤ) : Txn Response :=
  mutation req.sessionToken.val "finish_openspec_archive_cleanup" req.idempotencyKey
    (.finishOpenSpecArchiveCleanup req) now do
    let _ ← requireRole req.sessionToken [.orchestrator]
    let s ← Tx.get
    match (s.cleanupClaims.get? req.openspecChangeId).filter
        (fun row => row.cleanupClaimId = req.cleanupClaimId) with
    | none => Tx.fail (.databaseError "Query returned no rows")
    | some row =>
      let _ ← requireCurrentClaim req.sessionToken req.cleanupClaimId req.fenceSeq now
      let openBlockers ← loadOpenArchiveBlockers req.openspecChangeId
      if openBlockers.isEmpty then
        let finish ← archivedCleanupFinish req row now
        return .cleanupFinish finish
      else
        Tx.forEach openBlockers (archiveBlocker req now)
        let _ ← updateIn Rel.cleanupClaims (fun r => r.openspecChangeId = req.openspecChangeId ∧
            r.cleanupClaimId = req.cleanupClaimId ∧
            (r.archiveProofDigest = none ∨ r.archiveProofDigest = some req.archiveProofDigest))
          fun r => { r with archiveProofDigest := some req.archiveProofDigest,
                            recordedBySession := req.sessionToken, updatedAt := now }
        endCleanupClaim row .released .abandoned now
        let _ ← typed (Text.parse .idempotencyKey
          ("finish-openspec-archive-cleanup-release:" ++ req.openspecChangeId.val))
        appendSessionEvent .claimReleased .claim req.cleanupClaimId.val req.sessionToken now
        return .cleanupFinish ⟨req.openspecChangeId, req.archiveProofDigest,
          openBlockers.map (·.queueId), row.cleanupSubtaskId, req.cleanupClaimId⟩

end Covey

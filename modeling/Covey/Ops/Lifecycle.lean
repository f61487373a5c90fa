import Covey.Ops.ArtifactReview

/-!
# Claiming and finishing subtasks

Model of `src/ops/workflow/lifecycle.rs` and `src/ops/workflow/completion.rs`.
-/

namespace Covey

/-! ## Claiming -/

/-- The first half of `claim_selected_subtask_tx` (lifecycle.rs:579-601): a claim that has
    run out is expired, and the subtask has to be free. -/
def requireClaimable (session : SessionRow) (subtaskId : SubtaskId) (leaseNow now : ℤ) :
    Txn SubtaskRow := do
  expireClaimIfNeededForSubtask subtaskId leaseNow now
  let subtask ← loadSubtask subtaskId
  ensureMetaTaskIsSchedulable subtask.metaTaskId
  requireSessionCanClaimKind session subtask.kind
  let s ← Tx.get
  Tx.ensure (subtask.kind = .work → subtaskDependenciesSatisfied s subtaskId)
    (.illegalTransition (.subtask subtask.state) (.subtask .claimed) .subtask)
  match ← heldClaimOwner subtaskId with
  | some heldBy => Tx.fail (.subtaskAlreadyClaimed subtask.subtaskId heldBy)
  | none => pure ()
  ensureSubtaskTransition subtask.kind subtask.state .claimed
  return subtask

/-- The second half (lifecycle.rs:603-676): the fence is issued and the claim is written to
    the three tables. -/
def openClaim (sessionToken : SessionToken) (subtask : SubtaskRow) (leaseDuration : LeaseDurationMs)
    (leaseNow now : ℤ) : Txn ClaimResult := do
  let subtaskId := subtask.subtaskId
  let fenceSeq ← issueFenceSeq subtaskId
  let claimId ← freshId .claimId "claim"
  let leaseDeadline ← typed (LeaseDeadlineMs.parse (addI64 leaseNow leaseDuration.val))
  insertInto Rel.claims
    { claimId := claimId
      subtaskId := subtaskId
      ownerSessionToken := sessionToken
      fenceSeq := fenceSeq
      leaseDeadline := leaseDeadline
      state := .held
      createdAt := now
      updatedAt := now }
  let subtaskUpdated ← updateIn Rel.subtasks (fun r => r.subtaskId = subtaskId ∧
      r.state = subtask.state ∧ r.currentClaimId = none) fun r =>
    { r with state := .claimed, currentClaimId := some claimId, artifactDigest := none,
             updatedAt := now }
  if subtaskUpdated ≠ 1 then
    Tx.delete Rel.claims fun c => c.claimId = claimId
    let current ← loadSubtask subtaskId
    Tx.fail (.illegalTransition (.subtask current.state) (.subtask .claimed) .subtask)
  else
    let sessionUpdated ← updateIn Rel.sessions (fun r => r.sessionToken = sessionToken ∧
        r.activeSubtaskId = none ∧ r.state = .active) fun r =>
      { r with activeSubtaskId := some subtaskId, updatedAt := now }
    if sessionUpdated ≠ 1 then
      let current ← loadSession sessionToken
      Tx.fail (.sessionAlreadyHasActiveSubtask current.sessionToken
        (current.activeSubtaskId.getD subtaskId))
    else
      appendSessionEvent .subtaskClaimed .claim claimId.val sessionToken now
      return ⟨claimId, subtaskId, fenceSeq, leaseDeadline⟩

/-- `claim_selected_subtask_tx` (lifecycle.rs:570-676). -/
def claimSelectedSubtask (session : SessionRow) (sessionToken : SessionToken)
    (subtaskId : SubtaskId) (leaseDuration : LeaseDurationMs) (leaseNow now : ℤ) :
    Txn ClaimResult := do
  let subtask ← requireClaimable session subtaskId leaseNow now
  openClaim sessionToken subtask leaseDuration leaseNow now

/-- The session may take on a subtask: it is active and has none. -/
def requireIdleSession (sessionToken : SessionToken) : Txn SessionRow := do
  let session ← requireActiveSession sessionToken
  match session.activeSubtaskId with
  | some active => Tx.fail (.sessionAlreadyHasActiveSubtask session.sessionToken active)
  | none => pure ()
  return session

/-- The errors of a lost race, which `claim_next_for_route` turns into "nothing to claim". -/
def CoveyError.isLostRace : CoveyError → Bool
  | .subtaskAlreadyClaimed _ _ => true
  | .illegalTransition _ (.subtask .claimed) .subtask => true
  | _ => false

/-- `claim_next_for_route` from the kind of the session's subtasks on. A lost race is swallowed, so
    what `claimSelectedSubtask` wrote before it stays. -/
def claimNextOfKind (session : SessionRow) (kind : SubtaskKind) (sessionToken : SessionToken)
    (leaseDuration : LeaseDurationMs) (routingKey : RoutingKey) (metaTaskId : Option MetaTaskId)
    (leaseNow now : ℤ) : Txn Response := do
  Tx.whenever (session.role = .executor) do
    let _ ← ensureChangesRequestedFollowupBlocks sessionToken now
  match ← orderedClaimCandidate kind .available routingKey metaTaskId now with
  | none => return .nextClaim none
  | some subtaskId =>
    Tx.catchError
      (do
        let result ← claimSelectedSubtask session sessionToken subtaskId leaseDuration leaseNow now
        return .nextClaim (some result))
      (fun e => if e.isLostRace then pure (.nextClaim none) else Tx.fail e)

/-- The body of `claim_next_for_route` (lifecycle.rs:121-186). -/
def claimNextBody (sessionToken : SessionToken) (leaseDuration : LeaseDurationMs)
    (routingKey : RoutingKey) (metaTaskId : Option MetaTaskId) (leaseNow now : ℤ) :
    Txn Response := do
  let session ← requireIdleSession sessionToken
  let kind ← match session.role with
    | .executor => pure SubtaskKind.work
    | .reviewer => pure SubtaskKind.review
    | other => Tx.fail (.wrongRole [.executor, .reviewer] other)
  claimNextOfKind session kind sessionToken leaseDuration routingKey metaTaskId leaseNow now

/-- `claim_next_subtask` (lifecycle.rs:35-66). -/
def claimNextSubtask (env : Env) (req : ClaimNextReq) (now : ℤ) : Txn Response :=
  leasedMutation req.sessionToken.val "claim_next_subtask" req.idempotencyKey
    (.claimNext req env.workflow.routingKey) now
    (claimNextBody req.sessionToken req.leaseDurationMs env.workflow.routingKey req.metaTaskId · now)

/-- `claim_next_routed_subtask` (lifecycle.rs:69-102). -/
def claimNextRoutedSubtask (req : ClaimNextRoutedReq) (now : ℤ) : Txn Response :=
  leasedMutation req.sessionToken.val "claim_next_routed_subtask" req.idempotencyKey
    (.claimNextRouted req) now
    (claimNextBody req.sessionToken req.leaseDurationMs req.routingKey req.metaTaskId · now)

/-- `claim_subtask` (lifecycle.rs:190-242). -/
def claimSubtask (req : ClaimSubtaskReq) (now : ℤ) : Txn Response :=
  leasedMutation req.sessionToken.val "claim_subtask" req.idempotencyKey (.claimSubtask req) now
    fun leaseNow => do
    let session ← requireIdleSession req.sessionToken
    let found ← subtaskExists req.subtaskId
    Tx.ensure (found = true) .subtaskNotFound
    let result ← claimSelectedSubtask session req.sessionToken req.subtaskId req.leaseDurationMs
      leaseNow now
    return .claim result

/-! ## Working on a claim -/

/-- What every operation on a claim reads first: the current claim, the session and the
    subtask. -/
structure ClaimContext where
  claim : ClaimRow
  session : SessionRow
  subtask : SubtaskRow

/-- `require_current_claim`, then the session and the subtask. -/
def loadClaimContext (sessionToken : SessionToken) (claimId : ClaimId) (fenceSeq : FenceSeq)
    (leaseNow : ℤ) : Txn ClaimContext := do
  let claim ← requireCurrentClaim sessionToken claimId fenceSeq leaseNow
  let session ← requireActiveSession sessionToken
  let subtask ← loadSubtask claim.subtaskId
  return ⟨claim, session, subtask⟩

/-- Starting a review subtask also starts its review (lifecycle.rs:296-327). -/
def startReview (subtaskId : SubtaskId) (sessionToken : SessionToken) (now : ℤ) : Txn Unit := do
  let reviews ← selectFrom Rel.reviews fun r => r.reviewSubtaskId = subtaskId
  match reviews.head? with
  | none => Tx.fail (.databaseError "Query returned no rows")
  | some review =>
    Tx.whenever (review.state ≠ .inProgress) do
      ensureReviewTransition review.state .inProgress
      let _ ← updateIn Rel.reviews
        (fun r => r.reviewSubtaskId = subtaskId ∧ r.state = review.state) fun r =>
        { r with state := .inProgress, reviewerSession := sessionToken, updatedAt := now }

/-- `start_subtask` (lifecycle.rs:245-341). -/
def startSubtask (req : StartSubtaskReq) (now : ℤ) : Txn Response :=
  leasedMutation req.sessionToken.val "start_subtask" req.idempotencyKey (.claim req) now
    fun leaseNow => do
    ensureLength "claim_id" req.claimId.val 256
    let ctx ← loadClaimContext req.sessionToken req.claimId req.fenceSeq leaseNow
    ensureMetaTaskIsSchedulable ctx.subtask.metaTaskId
    requireSessionCanClaimKind ctx.session ctx.subtask.kind
    ensureSubtaskTransition ctx.subtask.kind ctx.subtask.state .inProgress
    let updated ← updateIn Rel.subtasks (fun r => r.subtaskId = ctx.subtask.subtaskId ∧
        r.state = ctx.subtask.state) fun r =>
      { r with state := .inProgress, updatedAt := now }
    Tx.ensure (updated = 1)
      (.illegalTransition (.subtask ctx.subtask.state) (.subtask .inProgress) .subtask)
    Tx.whenever (ctx.subtask.kind = .review)
      (startReview ctx.subtask.subtaskId req.sessionToken now)
    appendSessionEvent .subtaskStarted .subtask ctx.subtask.subtaskId.val req.sessionToken now
    return .unit

/-- `UPDATE subtasks SET state, current_claim_id = NULL WHERE current_claim_id = claim`. -/
def detachSubtask (ctx : ClaimContext) (state : SubtaskState) (now : ℤ) : Txn Unit := do
  let updated ← updateIn Rel.subtasks (fun r => r.subtaskId = ctx.subtask.subtaskId ∧
      r.currentClaimId = some ctx.claim.claimId) fun r =>
    { r with state := state, currentClaimId := none, updatedAt := now }
  Tx.ensure (updated = 1)
    (.illegalTransition (.subtask ctx.subtask.state) (.subtask state) .subtask)

/-- `abandon_subtask` (lifecycle.rs:344-419). -/
def abandonSubtask (req : AbandonSubtaskReq) (now : ℤ) : Txn Response :=
  leasedMutation req.sessionToken.val "abandon_subtask" req.idempotencyKey (.claim req) now
    fun leaseNow => do
    ensureLength "claim_id" req.claimId.val 256
    let ctx ← loadClaimContext req.sessionToken req.claimId req.fenceSeq leaseNow
    requireSessionCanClaimKind ctx.session ctx.subtask.kind
    ensureTransition (.subtask ctx.subtask.state) (.subtask .abandoned) .subtask
      (ctx.subtask.state ≠ .applied ∧ ctx.subtask.state ≠ .completed ∧
        ctx.subtask.state ≠ .failed ∧ ctx.subtask.state ≠ .abandoned)
    closeClaimAndDetach ctx.claim .released now
    detachSubtask ctx .abandoned now
    clearSessionActiveSubtask req.sessionToken now
    refreshMetaTaskState ctx.subtask.metaTaskId now
    appendSessionEvent .subtaskAbandoned .subtask ctx.subtask.subtaskId.val req.sessionToken now
    return .unit

/-- `release_claim` (lifecycle.rs:422-497). -/
def releaseClaim (req : ReleaseClaimReq) (now : ℤ) : Txn Response :=
  leasedMutation req.sessionToken.val "release_claim" req.idempotencyKey (.claim req) now
    fun leaseNow => do
    ensureLength "claim_id" req.claimId.val 256
    let ctx ← loadClaimContext req.sessionToken req.claimId req.fenceSeq leaseNow
    requireSessionCanClaimKind ctx.session ctx.subtask.kind
    closeClaimAndDetach ctx.claim .released now
    let _ ← updateIn Rel.reservations
      (fun r => r.ownerSubtaskId = ctx.claim.subtaskId ∧ r.state = .active) fun r =>
      { r with state := .released, updatedAt := now }
    let nextState : SubtaskState :=
      if ctx.subtask.state = .claimed ∨ ctx.subtask.state = .inProgress then .available
      else ctx.subtask.state
    detachSubtask ctx nextState now
    clearSessionActiveSubtask req.sessionToken now
    appendSessionEvent .claimReleased .claim ctx.claim.claimId.val req.sessionToken now
    return .unit

/-- `renew_claim` (lifecycle.rs:500-567). -/
def renewClaim (req : RenewClaimReq) (now : ℤ) : Txn Response :=
  leasedMutation req.sessionToken.val "renew_claim" req.idempotencyKey (.renewClaim req) now
    fun leaseNow => do
    ensureLength "claim_id" req.claimId.val 256
    let claim ← requireCurrentClaim req.sessionToken req.claimId req.fenceSeq leaseNow
    let renewedDeadline := addI64 (max claim.leaseDeadline leaseNow) req.extendByMs.val
    let updated ← updateIn Rel.claims (fun c => c.claimId = req.claimId ∧ c.state = .held ∧
        c.ownerSessionToken = req.sessionToken ∧ c.fenceSeq = req.fenceSeq.val) fun c =>
      { c with leaseDeadline := renewedDeadline, updatedAt := now }
    Tx.ensure (updated = 1) (.illegalTransition (.claim claim.state) (.claim claim.state) .claim)
    let leaseDeadline ← typed (LeaseDeadlineMs.parse renewedDeadline)
    appendSessionEvent .claimRenewed .claim claim.claimId.val req.sessionToken now
    return .claim ⟨claim.claimId, claim.subtaskId, claim.fenceSeq, leaseDeadline⟩

/-! ## Direct outcomes -/

/-- `attempt_outcome_kind_name` (state.rs). -/
def AttemptOutcomeKind.name : AttemptOutcomeKind → String
  | .succeeded => "succeeded"
  | .retryableFailure => "retryable_failure"
  | .terminalFailure => "terminal_failure"

/-- The state an outcome gives direct work (completion.rs:170-174). -/
def AttemptOutcomeKind.nextState : AttemptOutcomeKind → SubtaskState
  | .succeeded => .completed
  | .retryableFailure => .available
  | .terminalFailure => .failed

/-- `OutcomeInput` (completion.rs:28-36). -/
structure OutcomeInput where
  sessionToken : SessionToken
  claimId : ClaimId
  fenceSeq : FenceSeq
  outcomeKind : AttemptOutcomeKind
  evidenceDigest : Option AttemptEvidenceDigest
  failureCode : Option AttemptFailureCode
  summary : AttemptSummary

/-- `record_direct_outcome_tx` (completion.rs:137-247). -/
def recordDirectOutcome (eventType : EventType) (input : OutcomeInput) (leaseNow now : ℤ) :
    Txn Response := do
  let ctx ← loadClaimContext input.sessionToken input.claimId input.fenceSeq leaseNow
  ensureMetaTaskIsSchedulable ctx.subtask.metaTaskId
  requireSessionCanClaimKind ctx.session ctx.subtask.kind
  Tx.ensure (ctx.subtask.completionPolicy = .direct)
    (.completionPolicyViolation input.outcomeKind.name ctx.subtask.completionPolicy)
  Tx.ensure (input.evidenceDigest.isSome ∨ ctx.subtask.evidencePolicy ≠ .required)
    (.attemptEvidenceRequired input.outcomeKind.name ctx.subtask.subtaskId.val)
  let nextState := input.outcomeKind.nextState
  ensureSubtaskTransition ctx.subtask.kind ctx.subtask.state nextState
  let outcome : AttemptOutcomeRow :=
    { claimId := ctx.claim.claimId
      subtaskId := ctx.subtask.subtaskId
      fenceSeq := ctx.claim.fenceSeq
      outcomeKind := input.outcomeKind
      evidenceDigest := input.evidenceDigest
      failureCode := input.failureCode
      summary := input.summary
      recordedBySession := input.sessionToken
      recordedAt := now }
  insertInto Rel.attemptOutcomes outcome
  closeClaimAndDetach ctx.claim .released now
  releaseActiveReservations ctx.subtask.subtaskId now
  let updated ← updateIn Rel.subtasks (fun r => r.subtaskId = ctx.subtask.subtaskId ∧
      r.state = .inProgress ∧ r.currentClaimId = some ctx.claim.claimId) fun r =>
    { r with state := nextState, currentClaimId := none, updatedAt := now }
  Tx.ensure (updated = 1)
    (.illegalTransition (.subtask ctx.subtask.state) (.subtask nextState) .subtask)
  clearSessionActiveSubtask input.sessionToken now
  refreshMetaTaskState ctx.subtask.metaTaskId now
  appendSessionEvent eventType .subtask ctx.subtask.subtaskId.val input.sessionToken now
  return .attemptOutcome outcome

/-- `finish_subtask` (completion.rs:40-57). -/
def finishSubtask (req : FinishSubtaskReq) (now : ℤ) : Txn Response :=
  leasedMutation req.sessionToken.val "finish_subtask" req.idempotencyKey (.finishSubtask req) now
    (recordDirectOutcome .subtaskFinished
      ⟨req.sessionToken, req.claimId, req.fenceSeq, .succeeded, req.evidenceDigest, none,
        req.summary⟩ · now)

/-- `retry_subtask` and `fail_subtask` (completion.rs:60-97): they differ in their names, event
    and outcome. -/
def recordFailedAttempt (operation : String) (eventType : EventType)
    (outcomeKind : AttemptOutcomeKind) (req : FailedAttemptReq) (now : ℤ) : Txn Response :=
  leasedMutation req.sessionToken.val operation req.idempotencyKey (.failedAttempt req) now
    (recordDirectOutcome eventType
      ⟨req.sessionToken, req.claimId, req.fenceSeq, outcomeKind, req.evidenceDigest,
        some req.failureCode, req.summary⟩ · now)

def retrySubtask : RetrySubtaskReq → ℤ → Txn Response :=
  recordFailedAttempt "retry_subtask" .subtaskRetried .retryableFailure

def failSubtask : FailSubtaskReq → ℤ → Txn Response :=
  recordFailedAttempt "fail_subtask" .subtaskFailed .terminalFailure

end Covey

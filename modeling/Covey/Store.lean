import Covey.Validators

/-!
# Scheduling and expiry

Model of the transaction helpers of `src/store.rs:298-904`: choosing the next
subtask, the dependency law, the state of a meta-task, the claims of the apply
queue and the expiry of claims.
-/

namespace Covey

/-! ## Dependencies -/

/-- A dependency that has reached the terminal state its completion policy requires
    (first half of `DEPENDENCY_SATISFIED_SQL`, store.rs:537-545). -/
def SubtaskRow.settled (r : SubtaskRow) : Prop :=
  (r.kind = .review ∧ r.state = .decided) ∨
  (r.completionPolicy = .canonicalApply ∧ r.state = .applied) ∨
  ((r.completionPolicy = .direct ∨ r.completionPolicy = .reviewed) ∧ r.state = .completed)

instance (r : SubtaskRow) : Decidable r.settled := inferInstanceAs (Decidable (_ ∨ _))

/-- The follow-ups recorded for the given subtasks. -/
def followupsOf (rows : List ReviewFollowupRow) (sources : List SubtaskId) : List SubtaskId :=
  (rows.filter fun f => f.sourceSubtaskId ∈ sources).map (·.followupSubtaskId)

/-- The recursive query `followup_chain`: the follow-ups of the given subtasks, theirs, and
    so on for `depth` rounds. -/
def followupChain (rows : List ReviewFollowupRow) : ℕ → List SubtaskId → List SubtaskId
  | 0, _ => []
  | depth + 1, sources =>
    let next := followupsOf rows sources
    next ++ followupChain rows depth next

/-- `DEPENDENCY_SATISFIED_SQL` (store.rs:537-572). A chain visits every recorded follow-up
    at most once, so as many rounds as there are records reach all of it. -/
def dependencySatisfied (s : Db) (dep : SubtaskRow) : Prop :=
  dep.settled ∨
  (followupChain s.reviewFollowups.rows s.reviewFollowups.rows.length [dep.subtaskId]).any
    (fun f => (s.subtasks.get? f).any fun r => r.settled) = true

instance (s : Db) (dep : SubtaskRow) : Decidable (dependencySatisfied s dep) :=
  inferInstanceAs (Decidable (_ ∨ _))

/-- `subtask_dependencies_satisfied` (store.rs:574-594) as a property of the store. -/
def subtaskDependenciesSatisfied (s : Db) (subtaskId : SubtaskId) : Prop :=
  ∀ d ∈ s.dependencies.rows, d.subtaskId = subtaskId →
    ∀ dep ∈ s.subtasks.get? d.dependsOnSubtaskId, dependencySatisfied s dep

instance (s : Db) (subtaskId : SubtaskId) : Decidable (subtaskDependenciesSatisfied s subtaskId) :=
  inferInstanceAs (Decidable (∀ d ∈ s.dependencies.rows, _ → _))

/-! ## The next candidate -/

/-- `meta_task_is_claimable` (store.rs:515-527). -/
def metaTaskIsClaimable (s : Db) (metaTaskId : MetaTaskId) : Prop :=
  (s.metaTasks.get? metaTaskId).any (fun m => m.state ≠ .completed ∧ m.state ≠ .cancelled) = true

instance (s : Db) (metaTaskId : MetaTaskId) : Decidable (metaTaskIsClaimable s metaTaskId) :=
  inferInstanceAs (Decidable (_ = true))

/-- The aged priority `MAX(priority - MIN(MAX(now - created_at, 0) / 30000, priority), 0)`. -/
def SubtaskRow.agedPriority (now : ℤ) (r : SubtaskRow) : ℤ :=
  max ((r.priority.val : ℤ) - min (max (now - r.createdAt) 0 / 30000) r.priority.val) 0

/-- `ORDER BY` of the work candidates. -/
def workOrder (now : ℤ) (a b : SubtaskRow) : Prop :=
  a.agedPriority now < b.agedPriority now ∨
  (a.agedPriority now = b.agedPriority now ∧
    (a.priority < b.priority ∨ (a.priority = b.priority ∧ a.createdAt ≤ b.createdAt)))

instance (now : ℤ) : DecidableRel (workOrder now) := fun _ _ => inferInstanceAs (Decidable (_ ∨ _))

/-- `ORDER BY` of the review candidates. -/
def reviewOrder (a b : SubtaskRow) : Prop :=
  a.priority < b.priority ∨ (a.priority = b.priority ∧ a.createdAt ≤ b.createdAt)

instance : DecidableRel reviewOrder := fun _ _ => inferInstanceAs (Decidable (_ ∨ _))

/-- `ordered_claim_candidate` (store.rs:298-513). -/
def orderedClaimCandidate (kind : SubtaskKind) (candidateState : SubtaskState)
    (routingKey : RoutingKey) (metaTaskId : Option MetaTaskId) (now : ℤ) :
    Txn (Option SubtaskId) := do
  let s ← Tx.get
  let offered (r : SubtaskRow) : Prop :=
    r.kind = kind ∧ r.state = candidateState ∧ r.routingKey = routingKey ∧
    (∀ m ∈ metaTaskId, r.metaTaskId = m) ∧ metaTaskIsClaimable s r.metaTaskId
  match kind with
  | .work =>
    let candidates := s.subtasks.select fun r =>
      offered r ∧ subtaskDependenciesSatisfied s r.subtaskId
    return (candidates.insertionSort (workOrder now)).head?.map (·.subtaskId)
  | .review =>
    let candidates := s.subtasks.select offered
    return (candidates.insertionSort reviewOrder).head?.map (·.subtaskId)
  | .cleanup => return none

/-! ## Meta-task state -/

/-- A subtask state in which nothing is left to do. -/
def SubtaskState.isTerminal (state : SubtaskState) : Prop :=
  state = .applied ∨ state = .completed ∨ state = .failed ∨ state = .abandoned ∨ state = .decided

instance (state : SubtaskState) : Decidable state.isTerminal := inferInstanceAs (Decidable (_ ∨ _))

/-- `refresh_meta_task_state` (store.rs:615-669). -/
def refreshMetaTaskState (metaTaskId : MetaTaskId) (now : ℤ) : Txn Unit := do
  let metaTask ← loadMetaTask metaTaskId
  Tx.whenever (metaTask.state ≠ .cancelled) do
    let subtasks ← selectFrom Rel.subtasks fun r => r.metaTaskId = metaTaskId
    let desiredState : MetaTaskState :=
      if subtasks = [] then .planning
      else if ∀ r ∈ subtasks, r.state.isTerminal then .completed
      else .active
    Tx.whenever (metaTask.state ≠ desiredState) do
      let _ ← updateIn Rel.metaTasks
        (fun m => m.metaTaskId = metaTaskId ∧ m.state ≠ .cancelled) fun m =>
        { m with state := desiredState, updatedAt := now }

/-! ## The apply queue -/

/-- `ordered_ready_queue_candidate` (store.rs:596-613). -/
def orderedReadyQueueCandidate : Txn (Option QueueId) := do
  let queued ← selectFrom Rel.readyQueue fun q => q.state = .queued
  return (queued.insertionSort fun a b => a.enqueuedAt ≤ b.enqueuedAt).head?.map (·.queueId)

/-- `UPDATE ready_queue SET state, claimed_by_session_token = NULL,
    claim_lease_deadline = NULL` on a row in the given state. -/
def vacateQueueItem (queueId : QueueId) (source target : ReadyQueueState) (now : ℤ) : Txn ℕ :=
  updateIn Rel.readyQueue (fun q => q.queueId = queueId ∧ q.state = source) fun q =>
    { q with state := target, claimedBySessionToken := none, claimLeaseDeadline := none,
             updatedAt := now }

/-- `requeue_stale_ready_queue_claims` (store.rs:671-742): in-flight rows whose lease has
    run out, or whose claimant is stale, exited or unknown, go back to the queue. -/
def requeueStaleReadyQueueClaims (leaseNow now : ℤ) : Txn Unit := do
  let s ← Tx.get
  let gone (token : SessionToken) : Prop :=
    (s.sessions.get? token).all (fun r => r.state = .stale ∨ r.state = .exited) = true
  let candidates := s.readyQueue.select fun q =>
    q.state = .inFlight ∧
    ((∃ deadline ∈ q.claimLeaseDeadline, deadline ≤ leaseNow) ∨
      ∀ token ∈ q.claimedBySessionToken, gone token)
  let ordered := candidates.insertionSort fun a b =>
    a.enqueuedAt < b.enqueuedAt ∨ (a.enqueuedAt = b.enqueuedAt ∧ a.queueId.val ≤ b.queueId.val)
  Tx.forEach ordered fun q => do
    let _ ← vacateQueueItem q.queueId .inFlight .queued now

/-- `claim_ready_queue_item` (store.rs:744-821): takes a queued row in flight; a row whose
    meta-task is closed is cancelled and one whose artifact is out of date is superseded. -/
def claimReadyQueueItem (queueId : QueueId) (sessionToken : SessionToken)
    (leaseDuration : LeaseDurationMs) (leaseNow now : ℤ) : Txn (Option ReadyQueueClaim) := do
  let item ← loadQueueItem queueId
  ensureReadyQueueTransition item.state .inFlight
  let subtask ← loadSubtask item.subtaskId
  let metaTask ← loadMetaTask subtask.metaTaskId
  if metaTask.state = .completed ∨ metaTask.state = .cancelled then
    let _ ← vacateQueueItem queueId .queued .cancelled now
    return none
  else if subtask.state ≠ .readyForApply ∨ subtask.artifactDigest ≠ some item.artifactDigest then
    let _ ← vacateQueueItem queueId .queued .superseded now
    return none
  else
    let leaseDeadline ← typed (LeaseDeadlineMs.parse (addI64 leaseNow leaseDuration.val))
    let claimFenceSeq := item.claimFenceSeq.getD 0 + 1
    let rows ← updateIn Rel.readyQueue (fun q => q.queueId = queueId ∧ q.state = .queued) fun q =>
      { q with state := .inFlight, claimedBySessionToken := some sessionToken,
               claimFenceSeq := some (q.claimFenceSeq.getD 0 + 1),
               claimLeaseDeadline := some leaseDeadline, updatedAt := now }
    if rows = 0 then return none
    else
      return some ⟨item.queueId, item.artifactDigest, item.subtaskId, claimFenceSeq, leaseDeadline⟩

/-! ## Expiry of claims -/

/-- `reset_in_progress_review_for_expired_claim` (store.rs:888-904). -/
def resetInProgressReviewForExpiredClaim (reviewSubtaskId : SubtaskId) (now : ℤ) : Txn Unit := do
  let _ ← updateIn Rel.reviews
    (fun r => r.reviewSubtaskId = reviewSubtaskId ∧ r.state = .inProgress) fun r =>
    { r with state := .requested, updatedAt := now }

/-- The first three statements every expiry runs on a claim (store.rs:873-885,
    session.rs:443-457, maintenance.rs:77-90): close it, put its review back, and detach
    its subtask. -/
def expireClaim (claim : ClaimRow) (now : ℤ) : Txn Unit := do
  closeClaimAndDetach claim .expired now
  resetInProgressReviewForExpiredClaim claim.subtaskId now
  let _ ← updateIn Rel.subtasks
    (fun r => r.subtaskId = claim.subtaskId ∧ r.currentClaimId = some claim.claimId) fun r =>
    { r with
      currentClaimId := none
      state := if r.state = .claimed ∨ r.state = .inProgress then .available else r.state
      updatedAt := now }

/-- The fourth statement, which all of them but session exit run: the owner lets go of the
    subtask. -/
def clearOwnerOfClaim (claim : ClaimRow) (now : ℤ) : Txn Unit := do
  let _ ← updateIn Rel.sessions (fun r => r.sessionToken = claim.ownerSessionToken ∧
      r.activeSubtaskId = some claim.subtaskId) fun r =>
    { r with activeSubtaskId := none, updatedAt := now }

/-- `expire_claim_if_needed_for_subtask` (store.rs:837-886). -/
def expireClaimIfNeededForSubtask (subtaskId : SubtaskId) (leaseNow now : ℤ) : Txn Unit := do
  let s ← Tx.get
  let inactive (token : SessionToken) : Prop :=
    (s.sessions.get? token).any (fun r => r.state ≠ .active) = true
  let known (token : SessionToken) : Prop := (s.sessions.get? token).isSome = true
  let stale := s.claims.select fun c =>
    c.subtaskId = subtaskId ∧ c.state = .held ∧ known c.ownerSessionToken ∧
    (c.leaseDeadline ≤ leaseNow ∨ inactive c.ownerSessionToken)
  match stale.head? with
  | none => return ()
  | some row =>
    let claim ← (row.load : Except CoveyError ClaimRow)
    expireClaim claim now
    clearOwnerOfClaim claim now

/-- `load_claims_for_meta_task` (store.rs:823-840): the held claims on its subtasks. -/
def loadClaimsForMetaTask (metaTaskId : MetaTaskId) : Txn (List ClaimRow) := do
  let s ← Tx.get
  let claims := s.claims.select fun c =>
    c.state = .held ∧ (s.subtasks.get? c.subtaskId).any (fun r => r.metaTaskId = metaTaskId) = true
  Tx.mapEach (claims.insertionSort fun a b => a.createdAt ≤ b.createdAt) fun c => liftM c.load

end Covey

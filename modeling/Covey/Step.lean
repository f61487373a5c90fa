import Covey.Lib.Run
import Covey.Refine.Archive
import Covey.Refine.Records

/-!
# Calls on the store

A call is a public operation with its arguments, the wall reading at which it
runs and the UUIDs that the generator returns in it. `next` is the store after a
call: a failed one is rolled back.

* `Operation.enters`: where an operation looks its idempotency key up, and
  `Entry.Enters.recorded`: under a key on record it changes the lease clock only.
* `Operation.writes`: what the moves of an operation are made for.
* `next_moves`: a call is a sequence of such moves. Moves that give work or a
  review a reserved id, strand claimed work, or use a claim row again occur only in
  calls that `Misnames`, `Strands` and `Reuses` describe.
-/

namespace Covey

open Relational

/-! ## Calls -/

/-- The public mutations. -/
inductive Operation
  | registerSession (req : RegisterSessionReq)
  | recordRuntimeAttestation (req : RecordRuntimeAttestationReq)
  | heartbeat (req : HeartbeatReq)
  | exitSession (req : ExitSessionReq)
  | reapStaleSessions (staleThreshold : ℤ)
  | expireOldClaims
  | expireOldReservations
  | submitMetaTask (req : SubmitMetaTaskReq)
  | cancelMetaTask (req : CancelMetaTaskReq)
  | createSubtask (req : CreateSubtaskRequest)
  | createWorkSubtask (req : CreateWorkSubtaskReq)
  | importOpenSpec (sessionToken : SessionToken) (source : OpenSpecSourceSnapshot)
  | importBdV1WorkSubtask (req : ImportBdV1WorkSubtaskReq)
  | importBdV1 (req : ImportBdV1Req) (source : SourceSnapshot)
  | importProse (req : ImportProseReq)
  | claimNextSubtask (req : ClaimNextReq)
  | claimNextRoutedSubtask (req : ClaimNextRoutedReq)
  | claimSubtask (req : ClaimSubtaskReq)
  | startSubtask (req : StartSubtaskReq)
  | abandonSubtask (req : AbandonSubtaskReq)
  | releaseClaim (req : ReleaseClaimReq)
  | renewClaim (req : RenewClaimReq)
  | finishSubtask (req : FinishSubtaskReq)
  | retrySubtask (req : RetrySubtaskReq)
  | failSubtask (req : FailSubtaskReq)
  | publishArtifact (req : PublishArtifactReq)
  | requestReview (req : RequestReviewReq)
  | decideReview (req : DecideReviewReq)
  | recordPermissiveLandingReceipt (req : RecordPermissiveLandingReceiptReq)
  | reconcileChangesRequestedFollowups (req : ReconcileChangesRequestedFollowupsReq)
  | enqueueForApply (req : EnqueueForApplyReq)
  | reconcileApplyQueue (req : ReconcileApplyQueueReq)
  | claimNextReadyQueueItem (req : ClaimReadyQueueReq)
  | markInFlight (req : MarkInFlightReq)
  | supersedeQueueItem (req : SupersedeQueueItemReq)
  | recordApplyVerification (req : RecordApplyVerificationReq)
  | recordApplyGateBlocker (req : RecordApplyGateBlockerReq)
  | recordSettlementReconcileBlocker (req : RecordSettlementReconcileBlockerReq)
  | recordApplyWorktree (req : RecordApplyWorktreeReq)
  | markApplyWorktreeState (req : MarkApplyWorktreeStateReq)
  | markApplied (req : MarkAppliedReq)
  | recordLandingReceipt (req : RecordLandingReceiptReq)
  | recordOpenSpecArchiveStatus (req : RecordOpenSpecArchiveStatusReq)
  | beginOpenSpecArchiveCleanup (req : BeginOpenSpecArchiveCleanupReq)
  | finishOpenSpecArchiveCleanup (req : FinishOpenSpecArchiveCleanupReq)
  | requestReservation (req : RequestReservationReq)
  | releaseReservation (req : ReleaseReservationReq)
  | renewReservation (req : RenewReservationReq)
  | resolveConflict (req : ResolveConflictReq)
  | recordOperatorBlocker (req : RecordOperatorBlockerReq)
  | resolveOperatorBlocker (req : ResolveOperatorBlockerReq)
  | recordProseApplyBlocker (req : RecordProseApplyBlockerReq)
  | recordVcsWorkspace (req : RecordVcsWorkspaceReq)
  | observeVcsWorkspace (req : ObserveVcsWorkspaceReq)
  | recordVcsPacketStackEntry (req : RecordVcsPacketStackEntryReq)
  | recordVcsPrPublication (req : RecordVcsPrPublicationReq)

/-- The transaction of an operation. -/
def Operation.run (env : Env) (now : ℤ) : Operation → Txn Response
  | .registerSession req => Covey.registerSession req now
  | .recordRuntimeAttestation req => Covey.recordRuntimeAttestation req now
  | .heartbeat req => Covey.heartbeat req now
  | .exitSession req => Covey.exitSession req now
  | .reapStaleSessions staleThreshold => Covey.reapStaleSessions staleThreshold now
  | .expireOldClaims => Covey.expireOldClaims now
  | .expireOldReservations => Covey.expireOldReservations now
  | .submitMetaTask req => Covey.submitMetaTask req now
  | .cancelMetaTask req => Covey.cancelMetaTask req now
  | .createSubtask req => Covey.createSubtask env.workflow req now
  | .createWorkSubtask req => Covey.createWorkSubtask req now
  | .importOpenSpec sessionToken source => Covey.importOpenSpec sessionToken source now
  | .importBdV1WorkSubtask req => Covey.importBdV1WorkSubtask env req now
  | .importBdV1 req source => Covey.importBdV1 env req source now
  | .importProse req => Covey.importProse env req now
  | .claimNextSubtask req => Covey.claimNextSubtask env req now
  | .claimNextRoutedSubtask req => Covey.claimNextRoutedSubtask req now
  | .claimSubtask req => Covey.claimSubtask req now
  | .startSubtask req => Covey.startSubtask req now
  | .abandonSubtask req => Covey.abandonSubtask req now
  | .releaseClaim req => Covey.releaseClaim req now
  | .renewClaim req => Covey.renewClaim req now
  | .finishSubtask req => Covey.finishSubtask req now
  | .retrySubtask req => Covey.retrySubtask req now
  | .failSubtask req => Covey.failSubtask req now
  | .publishArtifact req => Covey.publishArtifact req now
  | .requestReview req => Covey.requestReview req now
  | .decideReview req => Covey.decideReview env req now
  | .recordPermissiveLandingReceipt req => Covey.recordPermissiveLandingReceipt req now
  | .reconcileChangesRequestedFollowups req => Covey.reconcileChangesRequestedFollowups req now
  | .enqueueForApply req => Covey.enqueueForApply req now
  | .reconcileApplyQueue req => Covey.reconcileApplyQueue req now
  | .claimNextReadyQueueItem req => Covey.claimNextReadyQueueItem req now
  | .markInFlight req => Covey.markInFlight req now
  | .supersedeQueueItem req => Covey.supersedeQueueItem req now
  | .recordApplyVerification req => Covey.recordApplyVerification req now
  | .recordApplyGateBlocker req => Covey.recordApplyGateBlocker req now
  | .recordSettlementReconcileBlocker req => Covey.recordSettlementReconcileBlocker req now
  | .recordApplyWorktree req => Covey.recordApplyWorktree req now
  | .markApplyWorktreeState req => Covey.markApplyWorktreeState req now
  | .markApplied req => Covey.markApplied req now
  | .recordLandingReceipt req => Covey.recordLandingReceipt req now
  | .recordOpenSpecArchiveStatus req => Covey.recordOpenSpecArchiveStatus req now
  | .beginOpenSpecArchiveCleanup req => Covey.beginOpenSpecArchiveCleanup req now
  | .finishOpenSpecArchiveCleanup req => Covey.finishOpenSpecArchiveCleanup req now
  | .requestReservation req => Covey.requestReservation req now
  | .releaseReservation req => Covey.releaseReservation req now
  | .renewReservation req => Covey.renewReservation req now
  | .resolveConflict req => Covey.resolveConflict req now
  | .recordOperatorBlocker req => Covey.recordOperatorBlocker req now
  | .resolveOperatorBlocker req => Covey.resolveOperatorBlocker req now
  | .recordProseApplyBlocker req => Covey.recordProseApplyBlocker req now
  | .recordVcsWorkspace req => Covey.recordVcsWorkspace req now
  | .observeVcsWorkspace req => Covey.observeVcsWorkspace req now
  | .recordVcsPacketStackEntry req => Covey.recordVcsPacketStackEntry req now
  | .recordVcsPrPublication req => Covey.recordVcsPrPublication req now

/-- A call of an operation. -/
structure Call where
  op : Operation
  now : ℤ
  uuids : ℕ → Uuid

/-- A call on a store, with its result. -/
def step (env : Env) (s : Db) (c : Call) : Except CoveyError Response × Db :=
  Tx.commit (c.op.run env c.now) { s with uuids := c.uuids }

/-- The store after a call. -/
def next (env : Env) (s : Db) (c : Call) : Db := (step env s c).2

/-- The store after some calls on an empty one. -/
def reach (env : Env) (calls : List Call) : Db := Run.after (next env) Db.init calls

theorem reach_append {env : Env} {calls rest : List Call} :
    reach env (calls ++ rest) = Run.after (next env) (reach env calls) rest :=
  Run.after_append

theorem reach_concat {env : Env} {calls : List Call} {c : Call} :
    reach env (calls ++ [c]) = next env (reach env calls) c :=
  Run.after_concat

/-! ## Recorded responses -/

/-- Where a mutation records its response: the actor, the operation and the idempotency key, with
    the request. -/
structure Entry where
  actorKey : String
  operation : String
  idempotencyKey : String
  request : Request

def Entry.key (e : Entry) : String × String × String := (e.actorKey, e.operation, e.idempotencyKey)

/-- The entry of an operation; the maintenance operations, the OpenSpec import and the landing
    receipt have none. -/
def Operation.entry (env : Env) : Operation → Option Entry
  | .registerSession req =>
    some ⟨req.agentPrincipalId.val, "register_session", req.idempotencyKey.val, .registerSession req⟩
  | .recordRuntimeAttestation req =>
    some ⟨req.sessionToken.val, "record_runtime_attestation", req.idempotencyKey.val,
      .recordRuntimeAttestation req⟩
  | .heartbeat req => some ⟨req.sessionToken.val, "heartbeat", req.idempotencyKey.val, .session req⟩
  | .exitSession req =>
    some ⟨req.sessionToken.val, "exit_session", req.idempotencyKey.val, .session req⟩
  | .submitMetaTask req =>
    some ⟨req.sessionToken.val, "submit_meta_task", req.idempotencyKey.val, .submitMetaTask req⟩
  | .cancelMetaTask req =>
    some ⟨req.sessionToken.val, "cancel_meta_task", req.idempotencyKey.val, .cancelMetaTask req⟩
  | .createSubtask req =>
    some ⟨req.sessionToken.val, "create_work_subtask", req.idempotencyKey.val,
      .createWorkSubtask (req.resolve env.workflow)⟩
  | .createWorkSubtask req =>
    some ⟨req.sessionToken.val, "create_work_subtask", req.idempotencyKey.val,
      .createWorkSubtask req⟩
  | .importBdV1WorkSubtask req =>
    some ⟨req.sessionToken.val, "import_bd_v1_work_subtask", req.idempotencyKey,
      .importBdV1WorkSubtask req⟩
  | .importBdV1 req _ =>
    some ⟨req.sessionToken.val, "import_bd_v1", req.idempotencyKey.val, .importBdV1 req⟩
  | .importProse req =>
    some ⟨req.sessionToken.val, "import_prose", req.idempotencyKey.val,
      .importProse req env.workflow.routingKey⟩
  | .claimNextSubtask req =>
    some ⟨req.sessionToken.val, "claim_next_subtask", req.idempotencyKey.val,
      .claimNext req env.workflow.routingKey⟩
  | .claimNextRoutedSubtask req =>
    some ⟨req.sessionToken.val, "claim_next_routed_subtask", req.idempotencyKey.val,
      .claimNextRouted req⟩
  | .claimSubtask req =>
    some ⟨req.sessionToken.val, "claim_subtask", req.idempotencyKey.val, .claimSubtask req⟩
  | .startSubtask req =>
    some ⟨req.sessionToken.val, "start_subtask", req.idempotencyKey.val, .claim req⟩
  | .abandonSubtask req =>
    some ⟨req.sessionToken.val, "abandon_subtask", req.idempotencyKey.val, .claim req⟩
  | .releaseClaim req =>
    some ⟨req.sessionToken.val, "release_claim", req.idempotencyKey.val, .claim req⟩
  | .renewClaim req =>
    some ⟨req.sessionToken.val, "renew_claim", req.idempotencyKey.val, .renewClaim req⟩
  | .finishSubtask req =>
    some ⟨req.sessionToken.val, "finish_subtask", req.idempotencyKey.val, .finishSubtask req⟩
  | .retrySubtask req =>
    some ⟨req.sessionToken.val, "retry_subtask", req.idempotencyKey.val, .failedAttempt req⟩
  | .failSubtask req =>
    some ⟨req.sessionToken.val, "fail_subtask", req.idempotencyKey.val, .failedAttempt req⟩
  | .publishArtifact req =>
    some ⟨req.sessionToken.val, "publish_artifact", req.idempotencyKey.val, .publishArtifact req⟩
  | .requestReview req =>
    some ⟨req.sessionToken.val, "request_review", req.idempotencyKey.val, .requestReview req⟩
  | .decideReview req =>
    some ⟨req.sessionToken.val, "decide_review", req.idempotencyKey.val, .decideReview req⟩
  | .recordPermissiveLandingReceipt req =>
    some ⟨req.sessionToken.val, "record_permissive_landing_receipt", req.idempotencyKey.val,
      .recordPermissiveLandingReceipt req⟩
  | .reconcileChangesRequestedFollowups req =>
    some ⟨req.sessionToken.val, "reconcile_changes_requested_followups", req.idempotencyKey.val,
      .session req⟩
  | .enqueueForApply req =>
    some ⟨req.sessionToken.val, "enqueue_for_apply", req.idempotencyKey.val, .enqueueForApply req⟩
  | .reconcileApplyQueue req =>
    some ⟨req.sessionToken.val, "reconcile_apply_queue", req.idempotencyKey.val, .session req⟩
  | .claimNextReadyQueueItem req =>
    some ⟨req.sessionToken.val, "claim_next_ready_queue_item", req.idempotencyKey.val,
      .claimReadyQueue req⟩
  | .markInFlight req =>
    some ⟨req.sessionToken.val, "mark_in_flight", req.idempotencyKey.val, .markInFlight req⟩
  | .supersedeQueueItem req =>
    some ⟨req.sessionToken.val, "supersede_queue_item", req.idempotencyKey.val,
      .supersedeQueueItem req⟩
  | .recordApplyVerification req =>
    some ⟨req.sessionToken.val, "record_apply_verification", req.idempotencyKey.val,
      .recordApplyVerification req⟩
  | .recordApplyGateBlocker req =>
    some ⟨req.sessionToken.val, "record_apply_gate_blocker", req.idempotencyKey.val,
      .recordApplyGateBlocker req⟩
  | .recordSettlementReconcileBlocker req =>
    some ⟨req.sessionToken.val, "record_settlement_reconcile_blocker", req.idempotencyKey.val,
      .recordSettlementReconcileBlocker req⟩
  | .recordApplyWorktree req =>
    some ⟨req.sessionToken.val, "record_apply_worktree", req.idempotencyKey.val,
      .recordApplyWorktree req⟩
  | .markApplyWorktreeState req =>
    some ⟨req.sessionToken.val, "mark_apply_worktree_state", req.idempotencyKey.val,
      .markApplyWorktreeState req⟩
  | .markApplied req =>
    some ⟨req.sessionToken.val, "mark_applied", req.idempotencyKey.val, .markApplied req⟩
  | .recordOpenSpecArchiveStatus req =>
    some ⟨req.sessionToken.val, "record_openspec_archive_status", req.idempotencyKey.val,
      .recordOpenSpecArchiveStatus req⟩
  | .beginOpenSpecArchiveCleanup req =>
    some ⟨req.sessionToken.val, "begin_openspec_archive_cleanup", req.idempotencyKey.val,
      .beginOpenSpecArchiveCleanup req⟩
  | .finishOpenSpecArchiveCleanup req =>
    some ⟨req.sessionToken.val, "finish_openspec_archive_cleanup", req.idempotencyKey.val,
      .finishOpenSpecArchiveCleanup req⟩
  | .requestReservation req =>
    some ⟨req.sessionToken.val, "request_reservation", req.idempotencyKey.val,
      .requestReservation req⟩
  | .releaseReservation req =>
    some ⟨req.sessionToken.val, "release_reservation", req.idempotencyKey.val,
      .releaseReservation req⟩
  | .renewReservation req =>
    some ⟨req.sessionToken.val, "renew_reservation", req.idempotencyKey.val, .renewReservation req⟩
  | .resolveConflict req =>
    some ⟨req.sessionToken.val, "resolve_conflict", req.idempotencyKey.val, .resolveConflict req⟩
  | .recordOperatorBlocker req =>
    some ⟨req.sessionToken.val, "record_operator_blocker", req.idempotencyKey.val,
      .recordOperatorBlocker req⟩
  | .resolveOperatorBlocker req =>
    some ⟨req.sessionToken.val, "resolve_operator_blocker", req.idempotencyKey.val,
      .resolveOperatorBlocker req⟩
  | .recordProseApplyBlocker req =>
    some ⟨req.sessionToken.val, "record_prose_apply_blocker", req.idempotencyKey.val,
      .recordProseApplyBlocker req⟩
  | .recordVcsWorkspace req =>
    some ⟨req.sessionToken.val, "record_vcs_workspace", req.idempotencyKey.val,
      .recordVcsWorkspace req⟩
  | .observeVcsWorkspace req =>
    some ⟨req.sessionToken.val, "observe_vcs_workspace", req.idempotencyKey.val,
      .observeVcsWorkspace req⟩
  | .recordVcsPacketStackEntry req =>
    some ⟨req.sessionToken.val, "record_vcs_packet_stack_entry", req.idempotencyKey.val,
      .recordVcsPacketStackEntry req⟩
  | .recordVcsPrPublication req =>
    some ⟨req.sessionToken.val, "record_vcs_pr_publication", req.idempotencyKey.val,
      .recordVcsPrPublication req⟩
  | .reapStaleSessions _ | .expireOldClaims | .expireOldReservations | .importOpenSpec _ _
  | .recordLandingReceipt _ => none

/-- How an operation enters `with_idempotent_mutation`: checks of its arguments, with or without
    an advance of the lease clock, and the check of the wall reading come before the lookup. -/
inductive Entry.Enters (e : Entry) (now : ℤ) : Txn Response → Prop
  | lookup (body : Txn Response) :
      e.Enters now (do
        let createdAt ← typed (TimestampMs.parse now)
        withIdempotentMutation e.actorKey e.operation e.idempotencyKey e.request createdAt body)
  | leased {x : ℤ → Txn Response} (enters : ∀ leaseNow, e.Enters now (x leaseNow)) :
      e.Enters now (do
        let leaseNow ← advanceLeaseClock now
        x leaseNow)
  | checked {x : Txn Response} (check : Except CoveyError Unit) (enters : e.Enters now x) :
      e.Enters now (do
        check
        x)

section Entries

variable {env : Env} {now : ℤ} {op : Operation} {e : Entry} {key : IdempotencyKey}

theorem Entry.Enters.mutation (hkey : key.val = e.idempotencyKey) (body : Txn Response) :
    e.Enters now (mutation e.actorKey e.operation key e.request now body) := by
  unfold Covey.mutation
  rw [hkey]
  exact .lookup body

theorem Entry.Enters.leasedMutation (hkey : key.val = e.idempotencyKey) (body : ℤ → Txn Response) :
    e.Enters now (leasedMutation e.actorKey e.operation key e.request now body) :=
  .leased fun leaseNow => .mutation hkey (body leaseNow)

/-- Every operation with an entry enters the idempotency table under it. -/
theorem Operation.enters (he : op.entry env = some e) : e.Enters now (op.run env now) := by
  cases op <;> cases he
  case registerSession req => exact .checked _ (.checked _ (.leasedMutation rfl _))
  case importBdV1WorkSubtask req => exact .lookup _
  case importBdV1 req source => exact .checked _ (.mutation rfl _)
  all_goals first | exact .mutation rfl _ | exact .leasedMutation rfl _

/-- Under a key that is on record, an operation leaves everything but the lease clock alone, and
    returns nothing but the recorded response. -/
theorem Entry.Enters.recorded {x : Txn Response} {s : Db} {row : IdempotencyRow}
    (hx : e.Enters now x) (hrow : s.idempotency.get? e.key = some row) :
    (∃ clock, (x s).2 = { s with leaseClock := clock }) ∧
      ∀ v, (x s).1 = .ok v → row.request = e.request ∧ row.response = v := by
  induction hx generalizing s with
  | lookup body =>
    cases hnow : typed (TimestampMs.parse now) with
    | error err => exact ⟨⟨s.leaseClock, rfl⟩, fun v h => by cases h⟩
    | ok createdAt =>
      rw [Tx.bind_of_ok (Tx.lift_ok.mpr ⟨rfl, rfl⟩), withIdempotentMutation_recorded hrow]
      refine ⟨⟨s.leaseClock, rfl⟩, fun v h => ?_⟩
      cases hkey : validateIdempotencyKey e.idempotencyKey with
      | error err =>
        rw [hkey] at h
        cases h
      | ok u =>
        by_cases hreq : row.request = e.request
        · rw [hkey, if_pos hreq] at h
          cases h
          exact ⟨hreq, rfl⟩
        · rw [hkey, if_neg hreq] at h
          cases h
  | leased enters ih =>
    obtain ⟨⟨clock, hclock⟩, hval⟩ :=
      ih (max s.leaseClock (max now 0)) (s := { s with leaseClock := max s.leaseClock (max now 0) }) hrow
    exact ⟨⟨clock, hclock⟩, hval⟩
  | checked check enters ih =>
    cases check with
    | error err => exact ⟨⟨s.leaseClock, rfl⟩, fun v h => by cases h⟩
    | ok u => exact ih hrow

end Entries

/-! ## What an operation writes -/

/-- The labels of the moves of an operation, those apart that depend on its arguments. -/
def Operation.writes : Operation → Set Write
  | .exitSession _ | .reapStaleSessions _ | .claimSubtask _ => {.declared, .review, .lapse}
  | .expireOldClaims => {.review, .lapse}
  | .cancelMetaTask _ => {.declared, .abandon}
  | .claimNextSubtask _ | .claimNextRoutedSubtask _ => {.declared, .review, .lapse, .revive}
  | .startSubtask _ | .publishArtifact _ => {.declared, .review}
  | .abandonSubtask _ => {.abandon}
  | .finishSubtask _ | .retrySubtask _ | .failSubtask _ => {.attempt}
  | .releaseClaim _ => {.lapse}
  | .requestReview _ => {.review}
  | .decideReview _ | .recordPermissiveLandingReceipt _ => {.declared, .review, .verdict}
  | .reconcileChangesRequestedFollowups _ => {.declared, .revive}
  | .beginOpenSpecArchiveCleanup _ | .finishOpenSpecArchiveCleanup _ => {.cleanup}
  | _ => {.declared}

/-- The id that the caller gives to new work or to a new review. -/
def Operation.names : Operation → Option SubtaskId
  | .createSubtask req => req.subtaskId
  | .createWorkSubtask req => req.subtaskId
  | .requestReview req => req.reviewSubtaskId
  | _ => none

/-- The caller names work or a review with an OpenSpec change's reserved cleanup id. -/
def Operation.Misnames (op : Operation) : Prop := ∃ id ∈ op.names, ReservedId id

instance (op : Operation) : Decidable op.Misnames := inferInstanceAs (Decidable (∃ _ ∈ _, _))

/-- The review that the operation decides as blocked. -/
def Operation.blocks : Operation → Option ReviewId
  | .decideReview req => if req.verdict = .blocked then some req.reviewId else none
  | _ => none

/-- The verdict blocks work that its producer still holds. -/
def Operation.Strands (b : Board) (op : Operation) : Prop :=
  ∃ id ∈ op.blocks, ∃ review ∈ b.review id, ∃ work ∈ b.subtask review.subtaskId,
    work.currentClaimId ≠ none

/-- The change whose cleanup the operation begins. -/
def Operation.begins : Operation → Option OpenSpecChangeId
  | .beginOpenSpecArchiveCleanup req => some req.openspecChangeId
  | _ => none

/-- The cleanup of a change is begun again, after an earlier claim on its reserved subtask, and
    the recorded claim is not one that would be returned. -/
def Operation.Reuses (s : Db) (now : ℤ) (op : Operation) : Prop :=
  ∃ changeId ∈ op.begins,
    (∃ row ∈ s.claims.rows, row.subtaskId.val = cleanupSubtaskName changeId) ∧
      ¬LiveCleanup s.board changeId (max s.leaseClock (max now 0))

/-- The first UUID of the call makes a claim id that is not in use. -/
def Call.Fresh (s : Db) (c : Call) : Prop :=
  ∀ id ∈ (makeId .claimId "claim" (c.uuids 0)).toOption, s.board.claim id = none

/-- A response is on record under the call's key. -/
def Call.Recorded (env : Env) (s : Db) (c : Call) : Prop :=
  ∃ e ∈ c.op.entry env, (s.idempotency.get? e.key).isSome

/-- The call is accepted. -/
def Call.Succeeds (env : Env) (s : Db) (c : Call) : Prop := (step env s c).1.isOk = true

/-- The call is accepted and not a replay. -/
def Call.Commits (env : Env) (s : Db) (c : Call) : Prop := c.Succeeds env s ∧ ¬c.Recorded env s

def Call.Strands (env : Env) (s : Db) (c : Call) : Prop := c.Commits env s ∧ c.op.Strands s.board

def Call.Reuses (env : Env) (s : Db) (c : Call) : Prop := c.Commits env s ∧ c.op.Reuses s c.now

instance (env : Env) (s : Db) (c : Call) : Decidable (c.Recorded env s) :=
  inferInstanceAs (Decidable (∃ _ ∈ _, _))

instance (env : Env) (s : Db) (c : Call) : Decidable (c.Commits env s) :=
  inferInstanceAs (Decidable (_ = true ∧ _))

instance (s : Db) (c : Call) : Decidable (c.Fresh s) := inferInstanceAs (Decidable (∀ _ ∈ _, _))

/-- The labels of the moves of a call. -/
def Call.writes (env : Env) (s : Db) (c : Call) : Set Write :=
  c.op.writes ∪ {w | w = .misname ∧ c.op.Misnames} ∪ {w | w = .strand ∧ c.Strands env s} ∪
    {w | w = .reuse ∧ c.Reuses env s}

section Moves

variable {env : Env} {now : ℤ} {s s' : Db} {v : Response} {c : Call} {L : Set Write}

/-- The two stores differ in the lease clock and the UUIDs to come at most. -/
def SameRows (s s' : Db) : Prop := ∃ clock uuids, s' = { s with leaseClock := clock, uuids := uuids }

theorem SameRows.board (h : SameRows s s') : s'.board = s.board := by
  obtain ⟨clock, uuids, rfl⟩ := h
  rfl

/-- A call that succeeds commits its transaction. -/
theorem Call.Succeeds.run (h : c.Succeeds env s) :
    ∃ v s₀, s₀ = { s with uuids := c.uuids } ∧ c.op.run env c.now s₀ = (.ok v, next env s c) := by
  unfold Call.Succeeds at h
  unfold next
  cases hstep : step env s c with
  | mk result s' =>
    cases result with
    | error err =>
      rw [hstep] at h
      cases h
    | ok v => exact ⟨v, _, rfl, Tx.commit_ok.mp hstep⟩

/-- A call that fails changes nothing. -/
theorem next_of_failed (h : ¬c.Succeeds env s) : next env s c = { s with uuids := c.uuids } := by
  unfold next
  cases hstep : step env s c with
  | mk result s' =>
    cases result with
    | error err => exact Tx.commit_error hstep
    | ok v => exact absurd (by rw [Call.Succeeds, hstep]; rfl) h

/-- A call under a key that is on record changes the lease clock at most. -/
theorem next_of_recorded (h : c.Recorded env s) : SameRows s (next env s c) := by
  by_cases hok : c.Succeeds env s
  · obtain ⟨e, he, hsome⟩ := h
    obtain ⟨row, hrow⟩ := Option.isSome_iff_exists.mp hsome
    obtain ⟨⟨clock, hclock⟩, -⟩ :=
      (Operation.enters he : e.Enters c.now _).recorded (s := { s with uuids := c.uuids }) hrow
    obtain ⟨v, _, rfl, hrun⟩ := hok.run
    rw [hrun] at hclock
    exact ⟨clock, c.uuids, hclock⟩
  · exact ⟨s.leaseClock, c.uuids, next_of_failed hok⟩

/-- A call that is refused or replayed changes no row. -/
theorem next_of_idle (h : ¬c.Commits env s) : SameRows s (next env s c) := by
  by_cases hok : c.Succeeds env s
  · exact next_of_recorded (not_not.mp fun hrec => h ⟨hok, hrec⟩)
  · exact ⟨s.leaseClock, c.uuids, next_of_failed hok⟩

/-- A response on record for the operation's request is a response on record for the call. -/
theorem Call.recorded_of {s₀ : Db} {actorKey operation : String} {key : IdempotencyKey}
    {request : Request} (hs₀ : s₀ = { s with uuids := c.uuids })
    (he : c.op.entry env = some ⟨actorKey, operation, key.val, request⟩)
    (h : Covey.Recorded s₀ actorKey operation key request v) : c.Recorded env s := by
  obtain ⟨row, hrow, -⟩ := h
  rw [hs₀] at hrow
  have hrow : s.idempotency.get? (actorKey, operation, key.val) = some row := hrow
  exact ⟨_, he, Option.isSome_of_eq_some hrow⟩

/-- An earlier claim of a cleanup is a claim on its reserved subtask. -/
theorem ReusesClaim.earlier {changeId : OpenSpecChangeId} (h : ReusesClaim s.board changeId)
    (ha : Anchored s.board.toLeases) :
    ∃ row ∈ s.claims.rows, row.subtaskId.val = cleanupSubtaskName changeId := by
  obtain ⟨id, k, hid, hfinds, -⟩ := h
  obtain ⟨row, hrow, hsub⟩ := hfinds.claim ha hid
  exact ⟨row, Table.mem_of_get? hrow, hsub ▸ hid⟩

/-- A committed operation is a sequence of moves made for what it writes. -/
theorem Operation.run_moves {op : Operation} (hL : op.writes ⊆ L)
    (hmis : op.Misnames → .misname ∈ L) (hstrand : op.Strands s.board → .strand ∈ L)
    (hreuse : op.Reuses s now → .reuse ∈ L) (hfresh : ClaimIdFresh s)
    (ha : Anchored s.board.toLeases) (h : op.run env now s = (.ok v, s')) : Moves L now s s' := by
  cases op with
  | registerSession req => exact registerSession_moves (hL rfl) h
  | recordRuntimeAttestation req => exact recordRuntimeAttestation_moves h
  | heartbeat req => exact heartbeat_moves (hL rfl) h
  | exitSession req =>
    exact exitSession_moves (hL (.inl rfl)) (hL (.inr (.inl rfl))) (hL (.inr (.inr rfl))) h
  | reapStaleSessions staleThreshold =>
    exact reapStaleSessions_moves (hL (.inl rfl)) (hL (.inr (.inl rfl))) (hL (.inr (.inr rfl))) h
  | expireOldClaims => exact expireOldClaims_moves (hL (.inl rfl)) (hL (.inr rfl)) h
  | expireOldReservations => exact expireOldReservations_moves h
  | submitMetaTask req => exact submitMetaTask_moves h
  | cancelMetaTask req => exact cancelMetaTask_moves (hL (.inl rfl)) (hL (.inr rfl)) ha h
  | createSubtask req =>
    exact createWorkSubtask_moves (hL rfl) (fun id hid hres => hmis ⟨id, hid, hres⟩) h
  | createWorkSubtask req =>
    exact createWorkSubtask_moves (hL rfl) (fun id hid hres => hmis ⟨id, hid, hres⟩) h
  | importOpenSpec sessionToken source => exact importOpenSpec_moves (hL rfl) h
  | importBdV1WorkSubtask req => exact importBdV1WorkSubtask_moves (hL rfl) h
  | importBdV1 req source => exact importBdV1_moves (hL rfl) h
  | importProse req => exact importProse_moves (hL rfl) h
  | claimNextSubtask req =>
    exact claimNextSubtask_moves (hL (.inl rfl)) (hL (.inr (.inl rfl)))
      (hL (.inr (.inr (.inl rfl)))) (hL (.inr (.inr (.inr rfl)))) h
  | claimNextRoutedSubtask req =>
    exact claimNextRoutedSubtask_moves (hL (.inl rfl)) (hL (.inr (.inl rfl)))
      (hL (.inr (.inr (.inl rfl)))) (hL (.inr (.inr (.inr rfl)))) h
  | claimSubtask req =>
    exact claimSubtask_moves (hL (.inl rfl)) (hL (.inr (.inl rfl))) (hL (.inr (.inr rfl))) h
  | startSubtask req => exact startSubtask_moves (hL (.inl rfl)) (hL (.inr rfl)) h
  | abandonSubtask req => exact abandonSubtask_moves (hL rfl) h
  | releaseClaim req => exact releaseClaim_moves (hL rfl) h
  | renewClaim req => exact renewClaim_moves (hL rfl) h
  | finishSubtask req => exact finishSubtask_moves (hL rfl) h
  | retrySubtask req => exact recordFailedAttempt_moves (hL rfl) h
  | failSubtask req => exact recordFailedAttempt_moves (hL rfl) h
  | publishArtifact req => exact publishArtifact_moves (hL (.inl rfl)) (hL (.inr rfl)) h
  | requestReview req =>
    exact requestReview_moves (hL rfl) (fun id hid hres => hmis ⟨id, hid, hres⟩) h
  | decideReview req =>
    exact decideReview_moves (hL (.inl rfl)) (hL (.inr (.inl rfl))) (hL (.inr (.inr rfl)))
      (fun review work hreview hwork hblocked hcur =>
        hstrand ⟨req.reviewId, if_pos hblocked, review, hreview, work, hwork, hcur⟩) ha h
  | recordPermissiveLandingReceipt req =>
    exact recordPermissiveLandingReceipt_moves (hL (.inl rfl)) (hL (.inr (.inl rfl)))
      (hL (.inr (.inr rfl))) h
  | reconcileChangesRequestedFollowups req =>
    exact reconcileChangesRequestedFollowups_moves (hL (.inl rfl)) (hL (.inr rfl)) h
  | enqueueForApply req => exact enqueueForApply_moves (hL rfl) h
  | reconcileApplyQueue req => exact reconcileApplyQueue_moves (hL rfl) h
  | claimNextReadyQueueItem req => exact claimNextReadyQueueItem_moves (hL rfl) h
  | markInFlight req => exact markInFlight_moves (hL rfl) h
  | supersedeQueueItem req => exact supersedeQueueItem_moves (hL rfl) h
  | recordApplyVerification req => exact recordApplyVerification_moves (hL rfl) h
  | recordApplyGateBlocker req => exact recordApplyGateBlocker_moves h
  | recordSettlementReconcileBlocker req => exact recordSettlementReconcileBlocker_moves h
  | recordApplyWorktree req => exact recordApplyWorktree_moves h
  | markApplyWorktreeState req => exact markApplyWorktreeState_moves h
  | markApplied req => exact markApplied_moves (hL rfl) h
  | recordLandingReceipt req => exact recordLandingReceipt_moves h
  | recordOpenSpecArchiveStatus req => exact recordOpenSpecArchiveStatus_moves h
  | beginOpenSpecArchiveCleanup req =>
    exact beginOpenSpecArchiveCleanup_moves (hL rfl)
      (fun hre hlive => hreuse ⟨req.openspecChangeId, rfl, hre.earlier ha, hlive⟩) hfresh h
  | finishOpenSpecArchiveCleanup req => exact finishOpenSpecArchiveCleanup_moves (hL rfl) h
  | requestReservation req => exact (requestReservation_sameBoard h).moves
  | releaseReservation req => exact (releaseReservation_sameBoard h).moves
  | renewReservation req => exact (renewReservation_sameBoard h).moves
  | resolveConflict req => exact (resolveConflict_sameBoard h).moves
  | recordOperatorBlocker req => exact (recordOperatorBlocker_sameBoard h).moves
  | resolveOperatorBlocker req => exact (resolveOperatorBlocker_sameBoard h).moves
  | recordProseApplyBlocker req => exact (recordProseApplyBlocker_sameBoard h).moves
  | recordVcsWorkspace req => exact (recordVcsWorkspace_sameBoard h).moves
  | observeVcsWorkspace req => exact (observeVcsWorkspace_sameBoard h).moves
  | recordVcsPacketStackEntry req => exact (recordVcsPacketStackEntry_sameBoard h).moves
  | recordVcsPrPublication req => exact (recordVcsPrPublication_sameBoard h).moves

/-- A call, committed or not, is a sequence of moves made for what it writes. -/
theorem next_moves (hfresh : c.Fresh s) (ha : Anchored s.board.toLeases) :
    Moves (c.writes env s) c.now s (next env s c) := by
  by_cases hrec : c.Recorded env s
  · exact SameBoard.moves (next_of_recorded hrec).board
  by_cases hok : c.Succeeds env s
  · obtain ⟨v, _, rfl, hrun⟩ := hok.run
    exact Operation.run_moves (s := { s with uuids := c.uuids })
      (fun w hw => .inl (.inl (.inl hw))) (fun hmis => .inl (.inl (.inr ⟨rfl, hmis⟩)))
      (fun hstrand => .inl (.inr ⟨rfl, ⟨hok, hrec⟩, hstrand⟩))
      (fun hreuse => .inr ⟨rfl, ⟨hok, hrec⟩, hreuse⟩)
      (fun id hid => hfresh id (by rw [hid]; rfl)) ha hrun
  · rw [next_of_failed hok]
    exact .refl s

end Moves

end Covey

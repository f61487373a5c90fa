import Covey.Lib.Table
import Covey.Model.State

/-!
# Rows and schemas

One row type per table of `src/migrations`, with the columns a modelled function
reads or writes, and the table's schema: primary key, `CHECK`s and `UNIQUE`
indexes. A column whose type already enforces its `CHECK` (an enumeration, a
bounded integer, a newtype) needs none here.

The typed loaders of `src/model/records.rs` reject a stored row whose columns do
not form a legal value. `SubtaskRow.load` and its siblings are those loaders.
Foreign keys are left out: every insert stores ids its guards have just read, and
the one key that constrains an update is checked where that update is made.
-/

namespace Covey

open Relational

/-- The error of a row a typed loader rejects, `rusqlite::Error::FromSqlConversionFailure`. -/
def invalidRow {α : Type} (reason : String) : Except CoveyError α := .error (.databaseError reason)

/-- The error of a statement that violates a constraint. -/
def constraintViolation : CoveyError := .databaseError "constraint failed"

/-! ## Sessions -/

structure SessionRow where
  sessionToken : SessionToken
  agentPrincipalId : AgentPrincipalId
  agentInstanceId : AgentInstanceId
  role : SessionRole
  state : SessionState
  activeSubtaskId : Option SubtaskId
  lastHeartbeatAt : ℤ
  lastHeartbeatTick : ℤ
  createdAt : ℤ
  updatedAt : ℤ

/-- `sessions`; one active session per principal. -/
def sessionSchema : Schema SessionToken SessionRow where
  key r := r.sessionToken
  clash a b := a.agentPrincipalId = b.agentPrincipalId ∧ a.state = .active ∧ b.state = .active

/-- `Session::try_from_parts` (records.rs:79-109). -/
def SessionRow.load (r : SessionRow) : Except CoveyError SessionRow :=
  if r.state = .stale ∧ r.activeSubtaskId.isSome then
    invalidRow "stale session must not include active_subtask_id"
  else if r.state = .exited ∧ r.activeSubtaskId.isSome then
    invalidRow "exited session must not include active_subtask_id"
  else if r.lastHeartbeatAt < r.createdAt then
    invalidRow "session last_heartbeat_at must be greater than or equal to created_at"
  else if r.updatedAt < r.createdAt then
    invalidRow "session updated_at must be greater than or equal to created_at"
  else .ok r

theorem SessionRow.load_val {r r' : SessionRow} (h : r.load = .ok r') : r' = r := by
  unfold SessionRow.load invalidRow at h
  split_ifs at h
  cases h
  rfl

structure RuntimeAttestationRow where
  sessionToken : SessionToken
  agentPrincipalId : AgentPrincipalId
  agentInstanceId : AgentInstanceId
  role : SessionRole
  provider : Text .providerId
  model : Text .modelId
  providerRunId : Text .providerRunId
  providerRunIdIssuer : Text .providerRunIdIssuer
  processId : Option (Text .runtimeProcessId)
  containerId : Option (Text .runtimeContainerId)
  commandTranscriptDigest : Text .commandTranscriptDigest
  startedAt : ℤ
  endedAt : ℤ
  recordedAt : ℤ

/-- `runtime_attestations`. -/
def runtimeAttestationSchema : Schema SessionToken RuntimeAttestationRow where
  key r := r.sessionToken
  check r := (r.processId.isSome || r.containerId.isSome) && r.startedAt ≤ r.endedAt

/-! ## Work -/

structure MetaTaskRow where
  metaTaskId : MetaTaskId
  promptText : PromptText
  state : MetaTaskState
  createdBy : SessionToken
  createdAt : ℤ
  updatedAt : ℤ

/-- `meta_tasks`. -/
def metaTaskSchema : Schema MetaTaskId MetaTaskRow where
  key r := r.metaTaskId

/-- `MetaTask::try_from_parts` (records.rs:957-979). -/
def MetaTaskRow.load (r : MetaTaskRow) : Except CoveyError MetaTaskRow :=
  if r.updatedAt < r.createdAt then
    invalidRow "meta-task updated_at must be greater than or equal to created_at"
  else .ok r

theorem MetaTaskRow.load_val {r r' : MetaTaskRow} (h : r.load = .ok r') : r' = r := by
  unfold MetaTaskRow.load invalidRow at h
  split_ifs at h
  cases h
  rfl

structure SubtaskRow where
  subtaskId : SubtaskId
  metaTaskId : MetaTaskId
  title : SubtaskTitle
  kind : SubtaskKind
  reviewTargetSubtaskId : Option SubtaskId
  reviewTargetArtifactDigest : Option ArtifactDigest
  state : SubtaskState
  currentClaimId : Option ClaimId
  artifactDigest : Option ArtifactDigest
  priority : SubtaskPriority
  completionPolicy : CompletionPolicy
  routingKey : RoutingKey
  evidencePolicy : EvidencePolicy
  createdAt : ℤ
  updatedAt : ℤ

/-- `subtasks` (035_generic_subtask_defaults.sql), its `CHECK`s in order. -/
def subtaskSchema : Schema SubtaskId SubtaskRow where
  key r := r.subtaskId
  check r :=
    (r.kind = .work ∨ r.completionPolicy = .canonicalApply ∨ r.completionPolicy = .reviewed) ∧
    (r.state = .blocked ∨ r.state = .changesRequested →
      r.kind = .work ∧ r.artifactDigest.isSome) ∧
    (r.state = .completed ∨ r.state = .failed → r.kind = .work) ∧
    (r.state = .completed ∨ r.state = .failed → r.currentClaimId = none) ∧
    (r.state = .completed →
      (r.completionPolicy = .direct ∧ r.artifactDigest = none) ∨
      (r.completionPolicy = .reviewed ∧ r.artifactDigest.isSome)) ∧
    (r.state = .failed → r.completionPolicy = .direct ∧ r.artifactDigest = none) ∧
    (r.state = .approved ∨ r.state = .readyForApply ∨ r.state = .applied →
      r.completionPolicy = .canonicalApply) ∧
    (r.completionPolicy = .direct → r.artifactDigest = none) ∧
    (r.kind = .review ∧ r.reviewTargetSubtaskId.isSome ∧ r.reviewTargetArtifactDigest.isSome ∨
      r.kind ≠ .review ∧ r.reviewTargetSubtaskId = none ∧ r.reviewTargetArtifactDigest = none)

/-- `SubtaskLifecycle::from_row_parts` (records.rs:1440-1568): which claim and artifact
    columns each state may carry. -/
def SubtaskRow.lifecycle (r : SubtaskRow) : Except CoveyError Unit :=
  let claim := r.currentClaimId.isSome
  let artifact := r.artifactDigest.isSome
  match r.state with
  | .available =>
    if claim || artifact then
      invalidRow "available subtask cannot carry claim or artifact state"
    else .ok ()
  | .blocked =>
    if claim then invalidRow "blocked subtask cannot carry active claim state"
    else if !artifact then invalidRow "blocked subtask is missing artifact digest"
    else .ok ()
  | .claimed =>
    if !claim then invalidRow "claimed subtask is missing active claim"
    else if artifact then invalidRow "claimed subtask cannot carry artifact state"
    else .ok ()
  | .inProgress =>
    if !claim then invalidRow "in-progress subtask is missing active claim"
    else if artifact then invalidRow "in-progress subtask cannot carry artifact state"
    else .ok ()
  | .artifactPublished =>
    if !artifact then invalidRow "artifact-published subtask is missing artifact digest"
    else .ok ()
  | .reviewPending =>
    if !artifact then invalidRow "review-pending subtask is missing artifact digest" else .ok ()
  | .changesRequested =>
    if !artifact then invalidRow "changes-requested subtask is missing artifact digest"
    else .ok ()
  | .approved =>
    if !artifact then invalidRow "approved subtask is missing artifact digest" else .ok ()
  | .decided =>
    if claim || artifact then
      invalidRow "decided review subtask cannot carry claim or artifact state"
    else .ok ()
  | .readyForApply =>
    if !artifact then invalidRow "ready-for-apply subtask is missing artifact digest" else .ok ()
  | .applied =>
    if !artifact then invalidRow "applied subtask is missing artifact digest" else .ok ()
  | .completed =>
    if claim then invalidRow "completed subtask cannot carry active claim state" else .ok ()
  | .failed =>
    if claim || artifact then
      invalidRow "failed subtask cannot carry claim or artifact state"
    else .ok ()
  | .abandoned =>
    if claim then invalidRow "abandoned subtask cannot carry active claim" else .ok ()

/-- `SubtaskLifecycle::ensure_allowed_for_kind` (records.rs:1667-1709). -/
def SubtaskRow.allowedForKind (r : SubtaskRow) : Except CoveyError Unit :=
  match r.kind, r.state with
  | .work, .decided => invalidRow "work subtasks cannot use decided review lifecycle state"
  | .cleanup, .decided => invalidRow "cleanup subtasks cannot use decided review lifecycle state"
  | .review, .blocked => invalidRow "review subtasks cannot use blocked work lifecycle state"
  | .review, .artifactPublished | .review, .reviewPending | .review, .changesRequested
  | .review, .approved | .review, .readyForApply | .review, .applied | .review, .completed
  | .review, .failed => invalidRow "review subtasks cannot use work artifact lifecycle states"
  | .cleanup, .blocked | .cleanup, .artifactPublished | .cleanup, .reviewPending
  | .cleanup, .changesRequested | .cleanup, .approved | .cleanup, .readyForApply
  | .cleanup, .completed | .cleanup, .failed =>
    invalidRow "cleanup subtasks cannot use work artifact or review lifecycle states"
  | _, _ => .ok ()

/-- `SubtaskLifecycle::ensure_allowed_for_completion_policy` (records.rs:1711-1756). -/
def SubtaskRow.allowedForCompletionPolicy (r : SubtaskRow) : Except CoveyError Unit :=
  if r.completionPolicy = .direct ∧ r.artifactDigest.isSome then
    invalidRow "direct subtask cannot carry artifact lifecycle state"
  else match r.completionPolicy, r.state with
  | .reviewed, .completed =>
    if r.artifactDigest.isSome then .ok ()
    else invalidRow "reviewed completed subtask requires artifact state"
  | .reviewed, .approved | .reviewed, .readyForApply | .reviewed, .applied =>
    invalidRow "reviewed subtasks cannot use canonical-apply lifecycle states"
  | .reviewed, .failed | .canonicalApply, .failed =>
    invalidRow "only direct subtasks can use failed lifecycle state"
  | .canonicalApply, .completed =>
    invalidRow "canonical-apply subtasks cannot use completed lifecycle state"
  | _, _ => .ok ()

/-- `SubtaskRow::try_from_parts` (records.rs:1160-1209). The review-target columns match
    the kind by the table's `CHECK`, and the stored title is a `SubtaskTitle`. -/
def SubtaskRow.load (r : SubtaskRow) : Except CoveyError SubtaskRow := do
  r.lifecycle
  r.allowedForKind
  if r.kind = .work then r.allowedForCompletionPolicy
  if r.updatedAt < r.createdAt then
    invalidRow "subtask updated_at must be greater than or equal to created_at"
  else .ok r

/-- A subtask row that its typed loader accepts. -/
def SubtaskRow.Loads (r : SubtaskRow) : Prop := r.load = .ok r

theorem SubtaskRow.load_ok {r r' : SubtaskRow} :
    r.load = .ok r' ↔ r' = r ∧ r.lifecycle = .ok () ∧ r.allowedForKind = .ok () ∧
      (r.kind = .work → r.allowedForCompletionPolicy = .ok ()) ∧ r.createdAt ≤ r.updatedAt := by
  unfold SubtaskRow.load invalidRow
  cases r.lifecycle with
  | error e => simp [bind, Except.bind]
  | ok u =>
    cases r.allowedForKind with
    | error e => simp [bind, Except.bind]
    | ok u =>
      by_cases hk : r.kind = .work
      · cases r.allowedForCompletionPolicy with
        | error e => simp [bind, Except.bind, hk]
        | ok u =>
          simp only [bind, Except.bind, hk, if_true, forall_const]
          split_ifs with h
          · simp
            omega
          · simp [eq_comm]
            omega
      · simp only [bind, Except.bind, hk, if_false, false_imp_iff]
        split_ifs with h
        · simp
          omega
        · simp [eq_comm]
          omega

theorem SubtaskRow.load_val {r r' : SubtaskRow} (h : r.load = .ok r') : r' = r :=
  (SubtaskRow.load_ok.mp h).1

theorem SubtaskRow.loads_iff {r : SubtaskRow} :
    r.Loads ↔ r.lifecycle = .ok () ∧ r.allowedForKind = .ok () ∧
      (r.kind = .work → r.allowedForCompletionPolicy = .ok ()) ∧ r.createdAt ≤ r.updatedAt := by
  simp [SubtaskRow.Loads, SubtaskRow.load_ok]

/-- The states that only work can be in. -/
theorem SubtaskRow.Loads.work {r : SubtaskRow} (h : r.Loads)
    (hstate : r.state = .approved ∨ r.state = .readyForApply ∨ r.state = .completed) :
    r.kind = .work := by
  have hkind := (SubtaskRow.loads_iff.mp h).2.1
  rcases hstate with hstate | hstate | hstate <;>
  · cases hk : r.kind
    · rfl
    all_goals simp [SubtaskRow.allowedForKind, hk, hstate, invalidRow] at hkind

structure FenceCounterRow where
  subtaskId : SubtaskId
  nextFenceSeq : ℕ

/-- `subtask_fence_counter`. -/
def fenceCounterSchema : Schema SubtaskId FenceCounterRow where
  key r := r.subtaskId

structure DependencyRow where
  subtaskId : SubtaskId
  dependsOnSubtaskId : SubtaskId
  sourceRef : String
  createdAt : ℤ

/-- `subtask_dependencies`. -/
def dependencySchema : Schema (SubtaskId × SubtaskId) DependencyRow where
  key r := (r.subtaskId, r.dependsOnSubtaskId)

structure ClaimRow where
  claimId : ClaimId
  subtaskId : SubtaskId
  ownerSessionToken : SessionToken
  fenceSeq : ℕ
  leaseDeadline : ℤ
  state : ClaimState
  createdAt : ℤ
  updatedAt : ℤ
deriving DecidableEq

/-- `claims`; one held claim per subtask. -/
def claimSchema : Schema ClaimId ClaimRow where
  key r := r.claimId
  clash a b := a.subtaskId = b.subtaskId ∧ a.state = .held ∧ b.state = .held

/-- `Claim::try_from_parts` (records.rs:2344-2366). -/
def ClaimRow.load (r : ClaimRow) : Except CoveyError ClaimRow :=
  if r.updatedAt < r.createdAt then
    invalidRow "claim updated_at must be greater than or equal to created_at"
  else .ok r

theorem ClaimRow.load_val {r r' : ClaimRow} (h : r.load = .ok r') : r' = r := by
  unfold ClaimRow.load invalidRow at h
  split_ifs at h
  cases h
  rfl

structure AttemptOutcomeRow where
  claimId : ClaimId
  subtaskId : SubtaskId
  fenceSeq : ℕ
  outcomeKind : AttemptOutcomeKind
  evidenceDigest : Option AttemptEvidenceDigest
  failureCode : Option AttemptFailureCode
  summary : AttemptSummary
  recordedBySession : SessionToken
  recordedAt : ℤ
deriving DecidableEq

/-- `subtask_attempt_outcomes`. -/
def attemptOutcomeSchema : Schema ClaimId AttemptOutcomeRow where
  key r := r.claimId
  check r := 0 < r.fenceSeq ∧ 0 ≤ r.recordedAt ∧
    (r.outcomeKind = .succeeded ↔ r.failureCode = none)
  clash a b := a.subtaskId = b.subtaskId ∧ a.fenceSeq = b.fenceSeq

/-! ## Artifacts and reviews -/

structure ArtifactRow where
  artifactDigest : ArtifactDigest
  artifactKind : ArtifactKind
  baseRev : BaseRev
  producedBySubtaskId : SubtaskId
  producedBySession : SessionToken
  manifestPath : ArtifactManifestPath
  changedPathsDigest : ChangedPathsDigest
  createdAt : ℤ
deriving DecidableEq

/-- `artifacts`. -/
def artifactSchema : Schema ArtifactDigest ArtifactRow where
  key r := r.artifactDigest

structure ReviewRow where
  reviewId : ReviewId
  subtaskId : SubtaskId
  artifactDigest : ArtifactDigest
  reviewerSession : SessionToken
  reviewSubtaskId : SubtaskId
  verdict : Option ReviewVerdict
  findingsDigest : Option FindingsDigest
  state : ReviewState
  createdAt : ℤ
  updatedAt : ℤ

/-- A review round that is still to be decided. -/
def ReviewRow.isOpen (r : ReviewRow) : Prop := r.state = .requested ∨ r.state = .inProgress

instance (r : ReviewRow) : Decidable r.isOpen := inferInstanceAs (Decidable (_ ∨ _))

/-- `reviews`; one open round per artifact, one row per review subtask. -/
def reviewSchema : Schema ReviewId ReviewRow where
  key r := r.reviewId
  check r := r.state = .decided ↔ r.verdict.isSome
  clash a b :=
    (a.subtaskId = b.subtaskId ∧ a.artifactDigest = b.artifactDigest ∧ a.isOpen ∧ b.isOpen) ∨
    a.reviewSubtaskId = b.reviewSubtaskId

/-- `TryFrom<RawReview>` (records.rs:3485-3540). -/
def ReviewRow.load (r : ReviewRow) : Except CoveyError ReviewRow :=
  if r.updatedAt < r.createdAt then
    invalidRow "review updated_at must be greater than or equal to created_at"
  else match r.state with
  | .requested =>
    if r.verdict.isSome || r.findingsDigest.isSome then
      invalidRow "requested reviews cannot carry decision evidence"
    else .ok r
  | .inProgress =>
    if r.verdict.isSome || r.findingsDigest.isSome then
      invalidRow "in-progress reviews cannot carry decision evidence"
    else .ok r
  | .decided =>
    if r.verdict = none then invalidRow "decided reviews require verdict"
    else if r.findingsDigest = none then
      invalidRow "decided reviews require non-empty findings_digest"
    else .ok r
  | .superseded =>
    if r.verdict.isSome || r.findingsDigest.isSome then
      invalidRow "superseded reviews cannot carry decision evidence"
    else .ok r

theorem ReviewRow.load_val {r r' : ReviewRow} (h : r.load = .ok r') : r' = r := by
  unfold ReviewRow.load invalidRow at h
  split at h
  · cases h
  · split at h <;> split_ifs at h <;> cases h <;> rfl

structure ReviewFollowupRow where
  reviewId : ReviewId
  sourceSubtaskId : SubtaskId
  sourceArtifactDigest : ArtifactDigest
  findingsDigest : FindingsDigest
  followupSubtaskId : SubtaskId
  createdBySession : SessionToken
  createdAt : ℤ
  repairSourcePath : Option String
  repairTaskRef : Option String
  repairScenarioRefs : List String

/-- `review_followup_subtasks`. -/
def reviewFollowupSchema : Schema ReviewId ReviewFollowupRow where
  key r := r.reviewId
  clash a b := a.followupSubtaskId = b.followupSubtaskId

structure PermissiveLandingReceiptRow where
  reviewId : ReviewId
  artifactDigest : ArtifactDigest
  findingsDigest : FindingsDigest
  targetRef : BaseRev
  landedCommitOid : Option LandedCommitOid
  receiptDigest : PermissiveLandingReceiptDigest
  recordedBySession : SessionToken
  claimId : ClaimId
  fenceSeq : ℕ
  createdAt : ℤ

/-- `permissive_landing_receipts`. -/
def permissiveLandingReceiptSchema : Schema ReviewId PermissiveLandingReceiptRow where
  key r := r.reviewId
  clash a b := a.artifactDigest = b.artifactDigest

/-! ## The apply queue -/

structure ReadyQueueRow where
  queueId : QueueId
  artifactDigest : ArtifactDigest
  subtaskId : SubtaskId
  state : ReadyQueueState
  claimedBySessionToken : Option SessionToken
  claimFenceSeq : Option ℕ
  claimLeaseDeadline : Option ℤ
  enqueuedAt : ℤ
  updatedAt : ℤ

/-- A queue row that is still to be settled. -/
def ReadyQueueRow.isOpen (r : ReadyQueueRow) : Prop := r.state = .queued ∨ r.state = .inFlight

instance (r : ReadyQueueRow) : Decidable r.isOpen := inferInstanceAs (Decidable (_ ∨ _))

/-- `ready_queue`; one open row per subtask. -/
def readyQueueSchema : Schema QueueId ReadyQueueRow where
  key r := r.queueId
  check r :=
    (r.state = .inFlight ∧ r.claimedBySessionToken.isSome ∧ r.claimFenceSeq.isSome ∧
      r.claimLeaseDeadline.isSome) ∨
    (r.state ≠ .inFlight ∧ r.claimedBySessionToken = none ∧ r.claimLeaseDeadline = none)
  clash a b := a.subtaskId = b.subtaskId ∧ a.isOpen ∧ b.isOpen

/-- `TryFrom<RawReadyQueueItem>` (records.rs:3866-3948); the other shape rules are the
    table's `CHECK`. -/
def ReadyQueueRow.load (r : ReadyQueueRow) : Except CoveyError ReadyQueueRow :=
  if r.updatedAt < r.enqueuedAt then
    invalidRow "ready-queue updated_at must be greater than or equal to enqueued_at"
  else if r.state = .applied ∧ r.claimFenceSeq = none then
    invalidRow "applied ready-queue items require claim_fence_seq"
  else .ok r

theorem ReadyQueueRow.load_val {r r' : ReadyQueueRow} (h : r.load = .ok r') : r' = r := by
  unfold ReadyQueueRow.load invalidRow at h
  split_ifs at h
  cases h
  rfl

structure ApplyVerificationRow where
  queueId : QueueId
  artifactDigest : ArtifactDigest
  reviewId : ReviewId
  findingsDigest : FindingsDigest
  claimFenceSeq : ℕ
  verifier : VerifierId
  verdictDigest : ArtifactDigest
  sealDigest : ArtifactDigest
  recordedBySession : SessionToken
  createdAt : ℤ

/-- `apply_verifications`. -/
def applyVerificationSchema : Schema (QueueId × ℕ × ArtifactDigest) ApplyVerificationRow where
  key r := (r.queueId, r.claimFenceSeq, r.sealDigest)

structure ApplyGateBlockerRow where
  queueId : QueueId
  artifactDigest : ArtifactDigest
  reviewId : ReviewId
  findingsDigest : FindingsDigest
  claimFenceSeq : ℕ
  verifier : VerifierId
  blockerKind : ApplyGateBlockerKind
  reason : ApplyGateBlockerReason
  evidenceId : ApplyGateBlockerEvidenceId
  recordedBySession : SessionToken
  createdAt : ℤ

/-- `apply_gate_blockers`. -/
def applyGateBlockerSchema :
    Schema (QueueId × ℕ × ApplyGateBlockerEvidenceId) ApplyGateBlockerRow where
  key r := (r.queueId, r.claimFenceSeq, r.evidenceId)

structure SettlementReconcileBlockerRow where
  queueId : QueueId
  artifactDigest : ArtifactDigest
  reviewId : ReviewId
  findingsDigest : FindingsDigest
  claimFenceSeq : ℕ
  reconcileReason : SettlementReconcileReason
  authorityEvidenceId : SettlementReconcileEvidenceId
  recordedBySession : SessionToken
  createdAt : ℤ

/-- `settlement_reconcile_blockers`. -/
def settlementReconcileBlockerSchema :
    Schema (QueueId × ℕ × SettlementReconcileEvidenceId) SettlementReconcileBlockerRow where
  key r := (r.queueId, r.claimFenceSeq, r.authorityEvidenceId)

structure ApplyWorktreeRow where
  path : ApplyWorktreePath
  queueId : QueueId
  artifactDigest : ArtifactDigest
  state : ApplyWorktreeState
  recordedBySession : SessionToken
  createdAt : ℤ
  updatedAt : ℤ

/-- `apply_worktrees`. -/
def applyWorktreeSchema : Schema ApplyWorktreePath ApplyWorktreeRow where
  key r := r.path

structure LandingReceiptRow where
  queueId : QueueId
  artifactDigest : ArtifactDigest
  claimFenceSeq : ℕ
  targetRef : BaseRev
  landedCommitOid : LandedCommitOid
  recordedBySession : SessionToken
  createdAt : ℤ

/-- `landing_receipts`; one receipt per artifact. -/
def landingReceiptSchema : Schema (QueueId × ArtifactDigest) LandingReceiptRow where
  key r := (r.queueId, r.artifactDigest)
  clash a b := a.artifactDigest = b.artifactDigest

/-! ## Reservations -/

/-- `ReservationScopeKey::parse_for_scope` (records.rs:2993-3003); `none` accepts. -/
def checkScopeKey (scopeClass : ScopeClass) (scopeKey : String) : Option String :=
  if blank scopeKey then some (scopeClass.name ++ " reservations require scope_key")
  else if padded scopeKey then
    some (scopeClass.name ++ " reservation scope_key must be normalized")
  else none

/-- `reject_generated_members` (records.rs:3099-3110). -/
def rejectGeneratedMembers (scopeClass : ScopeClass) (members : List String) : Option String :=
  if members.isEmpty then none
  else some (scopeClass.name ++ " reservations must not include generated_members")

/-- The loop of `GeneratedReservationMembers::parse_for_scope` (records.rs:3033-3040) over the
    members, with those it has seen. -/
def checkMembersFrom (seen : List String) : List String → Option String
  | [] => none
  | member :: rest =>
    if blank member then some "generated-set reservations require non-empty generated_members"
    else if padded member || member.toList.any isControl then
      some "generated-set reservations require normalized generated_members"
    else if member ∈ seen then
      some "generated-set reservations require unique generated_members"
    else checkMembersFrom (member :: seen) rest

/-- `GeneratedReservationMembers::parse_for_scope` (records.rs:3028-3046). -/
def checkGeneratedMembers (members : List String) : Option String :=
  if members.isEmpty then some "generated-set reservations require generated_members"
  else checkMembersFrom [] members

/-- `ReservationScope::from_parts` (records.rs:2906-2939). -/
def checkReservationScope (scopeClass : ScopeClass) (scopeKey : String) (members : List String) :
    Option String :=
  match scopeClass with
  | .exactPath | .subtree =>
    (rejectGeneratedMembers scopeClass members).or (checkScopeKey scopeClass scopeKey)
  | .repoGlobal =>
    (rejectGeneratedMembers scopeClass members).or
      (if scopeKey = "repo" then none
        else some "repo-global reservations require scope_key `repo`")
  | .generatedSet => (checkScopeKey scopeClass scopeKey).or (checkGeneratedMembers members)

/-- A `ReservationScope` in its flat shape. -/
structure ReservationScope where
  scopeClass : ScopeClass
  scopeKey : String
  generatedMembers : List String
  ok : checkReservationScope scopeClass scopeKey generatedMembers = none
deriving DecidableEq

structure ReservationRow where
  reservationId : ReservationId
  ownerSubtaskId : SubtaskId
  scopeClass : ScopeClass
  scopeKey : String
  generatedMembers : List String
  leaseDeadline : ℤ
  state : ReservationState
  createdAt : ℤ
  updatedAt : ℤ

/-- `map_reservation` (overlap.rs:674-688) and `Reservation::try_from_parts`
    (records.rs:2772-2795). -/
def ReservationRow.load (r : ReservationRow) : Except CoveyError ReservationRow :=
  if r.leaseDeadline < 0 then invalidRow "must be non-negative"
  else match checkReservationScope r.scopeClass r.scopeKey r.generatedMembers with
    | some reason => invalidRow reason
    | none =>
      if r.updatedAt < r.createdAt then
        invalidRow "reservation updated_at must be greater than or equal to created_at"
      else .ok r

/-- `reservations` with the rows of `reservation_generated_members`. -/
def reservationSchema : Schema ReservationId ReservationRow where
  key r := r.reservationId

/-- A row of `conflicts`; the columns `reservationId` to `overlappingScopeKey` are the
    payload of a reservation overlap, the only kind of conflict that is recorded. -/
structure ConflictRow where
  conflictId : ConflictId
  objectId : ReservationId
  reservationId : ReservationId
  overlappingReservationId : ReservationId
  ownerSubtaskId : SubtaskId
  overlappingOwnerSubtaskId : SubtaskId
  scopeClass : ScopeClass
  scopeKey : String
  overlappingScopeClass : ScopeClass
  overlappingScopeKey : String
  detectedAt : ℤ
  resolutionState : ConflictResolutionState

/-- `conflicts`. -/
def conflictSchema : Schema ConflictId ConflictRow where
  key r := r.conflictId

/-! ## Operator and prose blockers -/

structure OperatorBlockerRow where
  blockerId : OperatorBlockerId
  openspecChangeId : OpenSpecChangeId
  targetKind : OperatorBlockerTargetKind
  subtaskId : SubtaskId
  queueId : Option QueueId
  artifactDigest : Option ArtifactDigest
  reason : OperatorBlockerReason
  sourceEvidenceId : Option OperatorBlockerEvidenceId
  state : OperatorBlockerState
  recordedBySession : SessionToken
  resolvedReason : Option OperatorBlockerReason
  resolvedBySession : Option SessionToken
  resolvedAt : Option ℤ
  createdAt : ℤ
  updatedAt : ℤ

/-- `operator_blockers`. -/
def operatorBlockerSchema : Schema OperatorBlockerId OperatorBlockerRow where
  key r := r.blockerId
  check r :=
    (r.targetKind = .subtask ∧ r.queueId = none ∧ r.artifactDigest = none) ∨
    (r.targetKind = .readyQueue ∧ r.queueId.isSome ∧ r.artifactDigest.isSome)

/-- `OperatorBlocker::try_from_parts` (records.rs:4297-4368); the shape of the target is the
    table's `CHECK`. -/
def OperatorBlockerRow.load (r : OperatorBlockerRow) : Except CoveyError OperatorBlockerRow :=
  if r.updatedAt < r.createdAt then
    invalidRow "operator blocker updated_at must be greater than or equal to created_at"
  else if r.state = .opened ∧
      (r.resolvedReason.isSome ∨ r.resolvedBySession.isSome ∨ r.resolvedAt.isSome) then
    invalidRow "open operator blocker must not include resolution metadata"
  else if r.state = .resolved ∧
      (r.resolvedReason = none ∨ r.resolvedBySession = none ∨ r.resolvedAt = none) then
    invalidRow "resolved operator blocker requires resolution metadata"
  else .ok r

structure ProseApplyBlockerRow where
  blockerId : ProseApplyBlockerId
  tasksetId : ProseTasksetId
  queueId : Option QueueId
  artifactDigest : Option ArtifactDigest
  reviewId : Option ReviewId
  reason : PromptText
  detail : PromptText
  createdAt : ℤ
  updatedAt : ℤ

/-- `prose_apply_blockers`. -/
def proseApplyBlockerSchema : Schema ProseApplyBlockerId ProseApplyBlockerRow where
  key r := r.blockerId

/-! ## VCS workspaces and projections -/

structure VcsWorkspaceRow where
  workspaceId : VcsWorkspaceId
  kind : VcsWorkspaceKind
  path : VcsWorkspacePath
  jjWorkspaceName : Option VcsWorkspaceRef
  claimId : Option ClaimId
  subtaskId : Option SubtaskId
  openspecChangeId : Option OpenSpecChangeId
  queueId : Option QueueId
  artifactDigest : Option ArtifactDigest
  currentBookmark : Option VcsWorkspaceRef
  currentChangeId : Option VcsWorkspaceRef
  currentCommitId : Option VcsWorkspaceRef
  state : VcsWorkspaceState
  lastCleanliness : VcsWorkspaceCleanliness
  lastObservedReason : Option VcsWorkspaceObservationReason
  recordedBySession : SessionToken
  createdAt : ℤ
  updatedAt : ℤ
  lastObservedAt : Option ℤ

/-- `vcs_workspaces`; one workspace per path. -/
def vcsWorkspaceSchema : Schema VcsWorkspaceId VcsWorkspaceRow where
  key r := r.workspaceId
  clash a b := a.path = b.path

structure VcsPacketStackEntryRow where
  stackEntryId : VcsPacketStackEntryId
  openspecChangeId : OpenSpecChangeId
  packetBookmark : VcsWorkspaceRef
  claimId : ClaimId
  subtaskId : SubtaskId
  artifactDigest : ArtifactDigest
  reviewId : ReviewId
  findingsDigest : FindingsDigest
  claimBookmark : VcsWorkspaceRef
  claimChangeId : VcsWorkspaceRef
  claimCommitId : VcsWorkspaceRef
  stackPosition : ℤ
  treeEquivalenceDigest : Option ArtifactDigest
  state : VcsPacketStackEntryState
  recordedBySession : SessionToken
  createdAt : ℤ
  updatedAt : ℤ

/-- `vcs_packet_stack_entries`; a packet has one entry per claim and per position. -/
def vcsPacketStackEntrySchema : Schema VcsPacketStackEntryId VcsPacketStackEntryRow where
  key r := r.stackEntryId
  check r := 0 ≤ r.stackPosition
  clash a b := a.openspecChangeId = b.openspecChangeId ∧
    (a.claimId = b.claimId ∨ a.stackPosition = b.stackPosition)

structure VcsPrPublicationRow where
  publicationId : VcsPrPublicationId
  kind : VcsPrPublicationKind
  openspecChangeId : Option OpenSpecChangeId
  claimId : Option ClaimId
  bookmark : VcsWorkspaceRef
  headCommitId : VcsWorkspaceRef
  baseRef : VcsWorkspaceRef
  prUrl : Option VcsWorkspaceRef
  status : VcsPrPublicationStatus
  blockerReason : Option VcsWorkspaceObservationReason
  recordedBySession : SessionToken
  createdAt : ℤ
  updatedAt : ℤ

/-- `vcs_pr_publications`. -/
def vcsPrPublicationSchema : Schema VcsPrPublicationId VcsPrPublicationRow where
  key r := r.publicationId
  check r := (r.kind = .packet ∧ r.openspecChangeId.isSome ∧ r.claimId = none) ∨
    (r.kind = .claim ∧ r.claimId.isSome)

/-! ## OpenSpec archiving -/

structure SubtaskScopeRow where
  subtaskId : SubtaskId
  openspecChangeId : OpenSpecChangeId
  openspecTaskId : String
  sourcePath : String
  scenarioRefs : List String
  updatedAt : ℤ

/-- `openspec_subtask_scope`. -/
def subtaskScopeSchema : Schema SubtaskId SubtaskScopeRow where
  key r := r.subtaskId

structure OpenSpecArchiveStatusRow where
  queueId : QueueId
  subtaskId : SubtaskId
  artifactDigest : ArtifactDigest
  openspecChangeId : OpenSpecChangeId
  state : OpenSpecArchiveStatusState
  blockedReason : Option OpenSpecArchiveBlockedReason
  archiveProofDigest : Option ArtifactDigest
  recordedBySession : SessionToken
  createdAt : ℤ
  updatedAt : ℤ
deriving DecidableEq

/-- `openspec_archive_status`. -/
def openSpecArchiveStatusSchema : Schema QueueId OpenSpecArchiveStatusRow where
  key r := r.queueId
  check r :=
    (r.state = .blocked ∧ r.blockedReason.isSome ∧ r.archiveProofDigest = none) ∨
    (r.state = .archived ∧ r.blockedReason = none ∧ r.archiveProofDigest.isSome)

structure CleanupClaimRow where
  openspecChangeId : OpenSpecChangeId
  cleanupSubtaskId : SubtaskId
  cleanupClaimId : ClaimId
  archivePaths : List RepoopsPath
  archiveProofDigest : Option ArtifactDigest
  recordedBySession : SessionToken
  createdAt : ℤ
  updatedAt : ℤ

/-- `openspec_archive_cleanup_claims`. -/
def cleanupClaimSchema : Schema OpenSpecChangeId CleanupClaimRow where
  key r := r.openspecChangeId
  clash a b := a.cleanupSubtaskId = b.cleanupSubtaskId ∨ a.cleanupClaimId = b.cleanupClaimId

end Covey

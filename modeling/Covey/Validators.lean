import Covey.Db
import Mathlib.Data.List.Dedup
import Mathlib.Data.List.Sort

/-!
# Loaders and guards

Model of the row loaders of `src/queries.rs` and of the guards of
`src/validators.rs`. A guard that reads the store is a `Txn`; one that only
looks at values already read is an `Except`.
-/

namespace Covey

open Relational

/-! ## Loaders (queries.rs:131-330) -/

def loadSession (sessionToken : SessionToken) : Txn SessionRow :=
  load Rel.sessions SessionRow.load .sessionNotFound sessionToken

def loadRuntimeAttestation (sessionToken : SessionToken) : Txn RuntimeAttestationRow :=
  load Rel.runtimeAttestations .ok (.runtimeAttestationMissing sessionToken) sessionToken

def loadMetaTask (metaTaskId : MetaTaskId) : Txn MetaTaskRow :=
  load Rel.metaTasks MetaTaskRow.load .metaTaskNotFound metaTaskId

def loadSubtask (subtaskId : SubtaskId) : Txn SubtaskRow :=
  load Rel.subtasks SubtaskRow.load .subtaskNotFound subtaskId

def loadClaim (claimId : ClaimId) : Txn ClaimRow :=
  load Rel.claims ClaimRow.load .claimNotFound claimId

def loadArtifact (artifactDigest : ArtifactDigest) : Txn ArtifactRow :=
  load Rel.artifacts .ok .artifactNotFound artifactDigest

def loadReview (reviewId : ReviewId) : Txn ReviewRow :=
  load Rel.reviews ReviewRow.load .reviewNotFound reviewId

def loadQueueItem (queueId : QueueId) : Txn ReadyQueueRow :=
  load Rel.readyQueue ReadyQueueRow.load .queueItemNotFound queueId

section Loaders

variable {s s' : Db}

@[simp] theorem loadSession_ok {k : SessionToken} {r : SessionRow} :
    loadSession k s = (.ok r, s') ↔ (s.sessions.get? k = some r ∧ r.load = .ok r) ∧ s = s' :=
  load_val_ok SessionRow.load_val

@[simp] theorem loadMetaTask_ok {k : MetaTaskId} {r : MetaTaskRow} :
    loadMetaTask k s = (.ok r, s') ↔ (s.metaTasks.get? k = some r ∧ r.load = .ok r) ∧ s = s' :=
  load_val_ok MetaTaskRow.load_val

@[simp] theorem loadSubtask_ok {k : SubtaskId} {r : SubtaskRow} :
    loadSubtask k s = (.ok r, s') ↔ (s.subtasks.get? k = some r ∧ r.Loads) ∧ s = s' :=
  load_val_ok SubtaskRow.load_val

@[simp] theorem loadClaim_ok {k : ClaimId} {r : ClaimRow} :
    loadClaim k s = (.ok r, s') ↔ (s.claims.get? k = some r ∧ r.load = .ok r) ∧ s = s' :=
  load_val_ok ClaimRow.load_val

@[simp] theorem loadArtifact_ok {k : ArtifactDigest} {r : ArtifactRow} :
    loadArtifact k s = (.ok r, s') ↔ s.artifacts.get? k = some r ∧ s = s' := by
  simp [loadArtifact, Rel.artifacts]

@[simp] theorem loadReview_ok {k : ReviewId} {r : ReviewRow} :
    loadReview k s = (.ok r, s') ↔ (s.reviews.get? k = some r ∧ r.load = .ok r) ∧ s = s' :=
  load_val_ok ReviewRow.load_val

@[simp] theorem loadQueueItem_ok {k : QueueId} {r : ReadyQueueRow} :
    loadQueueItem k s = (.ok r, s') ↔ (s.readyQueue.get? k = some r ∧ r.load = .ok r) ∧ s = s' :=
  load_val_ok ReadyQueueRow.load_val

end Loaders

/-- `ORDER BY created_at ASC, claim_id ASC`. -/
def claimOrder (a b : ClaimRow) : Prop :=
  a.createdAt < b.createdAt ∨ (a.createdAt = b.createdAt ∧ a.claimId.val ≤ b.claimId.val)

instance : DecidableRel claimOrder := fun _ _ => inferInstanceAs (Decidable (_ ∨ _))

/-- `load_expirable_claims` (queries.rs:47-99): the held claims whose deadline has passed
    or whose owner is stale or exited, oldest first. -/
def loadExpirableClaims (now : ℤ) : Txn (List ClaimRow) := do
  let s ← Tx.get
  let gone (token : SessionToken) : Prop :=
    (s.sessions.get? token).any (fun r => r.state = .stale ∨ r.state = .exited) = true
  let claims := s.claims.select fun c =>
    c.state = .held ∧ (c.leaseDeadline ≤ now ∨ gone c.ownerSessionToken)
  Tx.mapEach (claims.insertionSort claimOrder) fun c => liftM c.load

/-- What `loadExpirableClaims` returns. -/
theorem loadExpirableClaims_ok {now : ℤ} {claims : List ClaimRow} {s s' : Db}
    (h : loadExpirableClaims now s = (.ok claims, s')) :
    s' = s ∧ ∀ c ∈ claims, s.claims.get? c.claimId = some c ∧ c.state = .held := by
  simp only [loadExpirableClaims, Tx.bind_ok, Tx.get_ok] at h
  obtain ⟨_, _, ⟨rfl, rfl⟩, h⟩ := h
  obtain ⟨rfl, rfl⟩ := Tx.mapEach_lift_ok ClaimRow.load_val h
  refine ⟨rfl, fun c hc => ?_⟩
  rw [List.mem_insertionSort, Table.mem_select] at hc
  exact ⟨Table.get?_key hc.1, hc.2.1⟩

/-! ## Sessions -/

/-- `ensure_no_other_active_session` (validators.rs:28-45). -/
def ensureNoOtherActiveSession (principalId : AgentPrincipalId) : Txn Unit := do
  let existing ← selectFrom Rel.sessions fun r =>
    r.agentPrincipalId = principalId ∧ r.state = .active
  Tx.ensure (existing = []) (.sessionAlreadyActive principalId)

/-- `require_active_session` (validators.rs:51-62). -/
def requireActiveSession (sessionToken : SessionToken) : Txn SessionRow := do
  let session ← loadSession sessionToken
  Tx.ensure (session.state = .active) (.sessionNotActive session.sessionToken session.state)
  return session

@[simp] theorem requireActiveSession_ok {k : SessionToken} {r : SessionRow} {s s' : Db} :
    requireActiveSession k s = (.ok r, s') ↔
      (s.sessions.get? k = some r ∧ r.load = .ok r ∧ r.state = .active) ∧ s = s' := by
  simp [requireActiveSession, and_assoc]

/-- `require_role` (validators.rs:64-78). -/
def requireRole (sessionToken : SessionToken) (expected : List SessionRole) : Txn SessionRow := do
  let session ← requireActiveSession sessionToken
  Tx.ensure (session.role ∈ expected) (.wrongRole expected session.role)
  return session

@[simp] theorem requireRole_ok {k : SessionToken} {expected : List SessionRole} {r : SessionRow}
    {s s' : Db} :
    requireRole k expected s = (.ok r, s') ↔
      (s.sessions.get? k = some r ∧ r.load = .ok r ∧ r.state = .active ∧ r.role ∈ expected) ∧
        s = s' := by
  simp [requireRole, and_assoc]

/-- `RuntimeAttestation::provider_run_identity_missing` (records.rs:284-285, 413-418). -/
def RuntimeAttestationRow.providerRunIdentityMissing (r : RuntimeAttestationRow) : Prop :=
  r.providerRunId.val = "__covey_missing_provider_run_id__" ∧
  r.providerRunIdIssuer.val = "__covey_missing_provider_run_id_issuer__"

instance (r : RuntimeAttestationRow) : Decidable r.providerRunIdentityMissing :=
  inferInstanceAs (Decidable (_ ∧ _))

/-- `require_runtime_attestation` (validators.rs:80-101). -/
def requireRuntimeAttestation (session : SessionRow) : Txn RuntimeAttestationRow := do
  let attestation ← loadRuntimeAttestation session.sessionToken
  Tx.ensure (attestation.agentPrincipalId = session.agentPrincipalId ∧
      attestation.agentInstanceId = session.agentInstanceId ∧ attestation.role = session.role)
    (.invalidRuntimeAttestation session.sessionToken
      "attestation identity does not match the session identity")
  Tx.ensure (¬attestation.providerRunIdentityMissing)
    (.invalidRuntimeAttestation session.sessionToken "provider run identity is required")
  return attestation

@[simp] theorem requireRuntimeAttestation_ok {session : SessionRow} {r : RuntimeAttestationRow}
    {s s' : Db} :
    requireRuntimeAttestation session s = (.ok r, s') ↔
      (s.runtimeAttestations.get? session.sessionToken = some r ∧
        (r.agentPrincipalId = session.agentPrincipalId ∧
          r.agentInstanceId = session.agentInstanceId ∧ r.role = session.role) ∧
        ¬r.providerRunIdentityMissing) ∧ s = s' := by
  simp [requireRuntimeAttestation, loadRuntimeAttestation, Rel.runtimeAttestations, and_assoc]

/-! ## Meta-tasks, subtasks, artifacts -/

/-- `ensure_meta_task_is_schedulable` (validators.rs:107-123). -/
def ensureMetaTaskIsSchedulable (metaTaskId : MetaTaskId) : Txn Unit := do
  let metaTask ← loadMetaTask metaTaskId
  Tx.ensure (metaTask.state ≠ .completed ∧ metaTask.state ≠ .cancelled)
    (.metaTaskUnavailable metaTaskId.val metaTask.state)

@[simp] theorem ensureMetaTaskIsSchedulable_ok {k : MetaTaskId} {s s' : Db} {u : Unit} :
    ensureMetaTaskIsSchedulable k s = (.ok u, s') ↔
      (∃ m, s.metaTasks.get? k = some m ∧ m.load = .ok m ∧ m.state ≠ .completed ∧
        m.state ≠ .cancelled) ∧ s = s' := by
  simp only [ensureMetaTaskIsSchedulable, Tx.bind_ok, loadMetaTask_ok, Tx.ensure_ok]
  constructor
  · rintro ⟨m, _, ⟨⟨hm, hload⟩, rfl⟩, ⟨hc, hx⟩, rfl⟩
    exact ⟨⟨m, hm, hload, hc, hx⟩, rfl⟩
  · rintro ⟨⟨m, hm, hload, hc, hx⟩, rfl⟩
    exact ⟨m, s, ⟨⟨hm, hload⟩, rfl⟩, ⟨hc, hx⟩, rfl⟩

/-- `ensure_artifact_digest_unused` (validators.rs:139-156). -/
def ensureArtifactDigestUnused (artifactDigest : ArtifactDigest) : Txn Unit := do
  let existing ← lookup Rel.artifacts artifactDigest
  Tx.ensure (existing.isNone) (.artifactDigestCollision artifactDigest.val)

@[simp] theorem ensureArtifactDigestUnused_ok {k : ArtifactDigest} {s s' : Db} {u : Unit} :
    ensureArtifactDigestUnused k s = (.ok u, s') ↔ s.artifacts.get? k = none ∧ s = s' := by
  simp [ensureArtifactDigestUnused, Rel.artifacts]

/-- `subtask_exists` (validators.rs:158-167). -/
def subtaskExists (subtaskId : SubtaskId) : Txn Bool := do
  return (← lookup Rel.subtasks subtaskId).isSome

@[simp] theorem subtaskExists_ok {k : SubtaskId} {found : Bool} {s s' : Db} :
    subtaskExists k s = (.ok found, s') ↔ (s.subtasks.get? k).isSome = found ∧ s = s' := by
  simp [subtaskExists, Rel.subtasks, and_comm]

/-- `dedupe_subtask_dependencies` (validators.rs:174-182): first-seen order. -/
def dedupeSubtaskDependencies (dependencies : List SubtaskId) : List SubtaskId :=
  dependencies.reverse.dedup.reverse

/-- `normalize_subtask_dependencies` (validators.rs:190-211). -/
def normalizeSubtaskDependencies (subtaskId : SubtaskId) (dependencies : List SubtaskId) :
    Except CoveyError (List SubtaskId) :=
  let deduped := dedupeSubtaskDependencies dependencies
  if deduped.length > 64 then
    .error (.invalidSubtaskDependency ("subtask " ++ subtaskId.val ++ " declares " ++
      toString deduped.length ++ " dependencies; the maximum is 64"))
  else if subtaskId ∈ deduped then
    .error (.invalidSubtaskDependency ("subtask " ++ subtaskId.val ++ " cannot depend on itself"))
  else .ok deduped

/-- `held_claim_owner` (validators.rs:213-224). -/
def heldClaimOwner (subtaskId : SubtaskId) : Txn (Option SessionToken) := do
  let held ← selectFrom Rel.claims fun c => c.subtaskId = subtaskId ∧ c.state = .held
  return held.head?.map (·.ownerSessionToken)

@[simp] theorem heldClaimOwner_ok {subtaskId : SubtaskId} {owner : Option SessionToken} {s s' : Db} :
    heldClaimOwner subtaskId s = (.ok owner, s') ↔
      (s.claims.select fun c => c.subtaskId = subtaskId ∧ c.state = .held).head?.map
        (·.ownerSessionToken) = owner ∧ s = s' := by
  simp [heldClaimOwner, Rel.claims, and_comm]

/-! ## Roles -/

/-- The role that may claim subtasks of a kind. -/
def SubtaskKind.claimRole : SubtaskKind → SessionRole
  | .work => .executor
  | .review => .reviewer
  | .cleanup => .orchestrator

/-- `require_session_can_claim_kind` (validators.rs:226-246). -/
def requireSessionCanClaimKind (session : SessionRow) (kind : SubtaskKind) : Except CoveyError Unit :=
  if session.role = kind.claimRole then .ok () else .error (.wrongRole [kind.claimRole] session.role)

@[simp] theorem requireSessionCanClaimKind_ok {session : SessionRow} {kind : SubtaskKind} {u : Unit} :
    requireSessionCanClaimKind session kind = .ok u ↔ session.role = kind.claimRole := by
  unfold requireSessionCanClaimKind
  split_ifs with h <;> simp [h]

/-- `require_session_can_request_review` and `require_session_can_enqueue`
    (validators.rs:248-272). -/
def requireSessionRole (session : SessionRow) (expected : List SessionRole) :
    Except CoveyError Unit :=
  if session.role ∈ expected then .ok () else .error (.wrongRole expected session.role)

@[simp] theorem requireSessionRole_ok {session : SessionRow} {expected : List SessionRole} {u : Unit} :
    requireSessionRole session expected = .ok u ↔ session.role ∈ expected := by
  unfold requireSessionRole
  split_ifs with h <;> simp [h]

def requireSessionCanRequestReview (session : SessionRow) : Except CoveyError Unit :=
  requireSessionRole session [.executor, .orchestrator]

def requireSessionCanEnqueue (session : SessionRow) : Except CoveyError Unit :=
  requireSessionRole session [.orchestrator, .applyGate]

/-! ## Claims and fences -/

/-- `issue_fence_seq` (validators.rs:274-286). -/
def issueFenceSeq (subtaskId : SubtaskId) : Txn ℕ := do
  match ← lookup Rel.fenceCounters subtaskId with
  | none =>
    insertInto Rel.fenceCounters ⟨subtaskId, 2⟩
    return 1
  | some counter =>
    let _ ← updateIn Rel.fenceCounters (fun r => r.subtaskId = subtaskId) fun r =>
      { r with nextFenceSeq := r.nextFenceSeq + 1 }
    return counter.nextFenceSeq

/-- `require_current_claim` (validators.rs:288-322): the claim is owned by the active
    session, carries the presented fence, is held, and its lease runs at `now`. -/
def requireCurrentClaim (sessionToken : SessionToken) (claimId : ClaimId) (fenceSeq : FenceSeq)
    (now : ℤ) : Txn ClaimRow := do
  let session ← requireActiveSession sessionToken
  let claim ← loadClaim claimId
  Tx.ensure (claim.ownerSessionToken = session.sessionToken)
    (.notClaimOwner session.sessionToken claim.ownerSessionToken)
  Tx.ensure (claim.fenceSeq = fenceSeq.val) (.staleFenceToken claim.fenceSeq fenceSeq.val)
  Tx.ensure (claim.state = .held) (.claimNotHeld claim.claimId claim.state)
  Tx.ensure (now < claim.leaseDeadline) (.leaseExpired claimId.val)
  return claim

@[simp] theorem requireCurrentClaim_ok {k : SessionToken} {c : ClaimId} {fence : FenceSeq} {now : ℤ}
    {r : ClaimRow} {s s' : Db} :
    requireCurrentClaim k c fence now s = (.ok r, s') ↔
      ((∃ session, s.sessions.get? k = some session ∧ session.load = .ok session ∧
          session.state = .active) ∧
        s.claims.get? c = some r ∧ r.load = .ok r ∧ r.ownerSessionToken = k ∧
        r.fenceSeq = fence.val ∧ r.state = .held ∧ now < r.leaseDeadline) ∧ s = s' := by
  simp only [requireCurrentClaim, Tx.bind_ok, requireActiveSession_ok, loadClaim_ok, Tx.ensure_ok,
    Tx.pure_ok]
  constructor
  · rintro ⟨session, _, ⟨hsession, rfl⟩, claim, _, ⟨⟨hclaim, hload⟩, rfl⟩, _, _, ⟨hown, rfl⟩,
      _, _, ⟨hfence, rfl⟩, _, _, ⟨hheld, rfl⟩, _, _, ⟨hlease, rfl⟩, rfl, rfl⟩
    have hkey : session.sessionToken = k := Table.key_of_get? hsession.1
    exact ⟨⟨⟨session, hsession⟩, hclaim, hload, hown.trans hkey, hfence, hheld, hlease⟩, rfl⟩
  · rintro ⟨⟨⟨session, hsession⟩, hclaim, hload, hown, hfence, hheld, hlease⟩, rfl⟩
    have hkey : session.sessionToken = k := Table.key_of_get? hsession.1
    exact ⟨session, s, ⟨hsession, rfl⟩, r, s, ⟨⟨hclaim, hload⟩, rfl⟩, (), s,
      ⟨hown.trans hkey.symm, rfl⟩, (), s, ⟨hfence, rfl⟩, (), s, ⟨hheld, rfl⟩, (), s,
      ⟨hlease, rfl⟩, rfl, rfl⟩

/-- `close_claim_and_detach` (validators.rs:324-347). -/
def closeClaimAndDetach (claim : ClaimRow) (state : ClaimState) (now : ℤ) : Txn Unit := do
  let rows ← updateIn Rel.claims (fun c => c.claimId = claim.claimId ∧ c.state = .held) fun c =>
    { c with state := state, updatedAt := now }
  Tx.ensure (rows = 1) (.illegalTransition (.claim .held) (.claim state) .claim)

/-- `clear_session_active_subtask` (validators.rs:349-359). -/
def clearSessionActiveSubtask (sessionToken : SessionToken) (now : ℤ) : Txn Unit := do
  let _ ← updateIn Rel.sessions (fun r => r.sessionToken = sessionToken) fun r =>
    { r with activeSubtaskId := none, updatedAt := now }

/-- `ensure_no_open_review_round` (validators.rs:416-449). -/
def ensureNoOpenReviewRound (subtaskId : SubtaskId) (artifactDigest : ArtifactDigest) :
    Txn Unit := do
  let existing ← selectFrom Rel.reviews fun r =>
    r.subtaskId = subtaskId ∧ r.artifactDigest = artifactDigest ∧ r.isOpen
  Tx.ensure (existing = []) (.reviewAlreadyOpen subtaskId artifactDigest)

@[simp] theorem ensureNoOpenReviewRound_ok {subtaskId : SubtaskId} {artifactDigest : ArtifactDigest}
    {s s' : Db} {u : Unit} :
    ensureNoOpenReviewRound subtaskId artifactDigest s = (.ok u, s') ↔
      s.reviews.select (fun r => r.subtaskId = subtaskId ∧ r.artifactDigest = artifactDigest ∧
        r.isOpen) = [] ∧ s = s' := by
  simp [ensureNoOpenReviewRound, Rel.reviews]

/-! ## Transition relations -/

/-- The declared transitions of `ensure_subtask_transition` (validators.rs:451-494). -/
def SubtaskKind.allows : SubtaskKind → SubtaskState → SubtaskState → Bool
  | .work, .available, .claimed
  | .work, .claimed, .inProgress
  | .work, .inProgress, .available
  | .work, .inProgress, .completed
  | .work, .inProgress, .failed
  | .work, .inProgress, .artifactPublished
  | .work, .artifactPublished, .artifactPublished
  | .work, .reviewPending, .artifactPublished
  | .work, .artifactPublished, .reviewPending
  | .work, .reviewPending, .changesRequested
  | .work, .reviewPending, .blocked
  | .work, .reviewPending, .approved
  | .work, .reviewPending, .completed
  | .work, .reviewPending, .applied
  | .work, .approved, .readyForApply
  | .work, .readyForApply, .applied
  | .review, .available, .claimed
  | .review, .claimed, .inProgress
  | .review, .inProgress, .decided
  | .cleanup, .available, .claimed
  | .cleanup, .claimed, .inProgress
  | .cleanup, .inProgress, .applied
  | .cleanup, .available, .applied => true
  | _, _, _ => false

/-- The declared transitions of `ensure_review_transition` (validators.rs:496-505). -/
def ReviewState.allows : ReviewState → ReviewState → Bool
  | .requested, .inProgress
  | .requested, .superseded
  | .inProgress, .decided
  | .inProgress, .superseded => true
  | _, _ => false

/-- The declared transitions of `ensure_ready_queue_transition` (validators.rs:507-521). -/
def ReadyQueueState.allows : ReadyQueueState → ReadyQueueState → Bool
  | .queued, .inFlight
  | .inFlight, .applied
  | .queued, .superseded
  | .inFlight, .superseded
  | .queued, .cancelled
  | .inFlight, .cancelled => true
  | _, _ => false

/-- `ensure_transition` (validators.rs:561-576). -/
def ensureTransition (source target : StateValue) (object : ObjectType) (allowed : Prop)
    [Decidable allowed] : Except CoveyError Unit :=
  if allowed then .ok () else .error (.illegalTransition source target object)

@[simp] theorem ensureTransition_ok {source target : StateValue} {object : ObjectType}
    {allowed : Prop} [Decidable allowed] {u : Unit} :
    ensureTransition source target object allowed = .ok u ↔ allowed := by
  unfold ensureTransition
  split_ifs with h <;> simp [h]

def ensureSubtaskTransition (kind : SubtaskKind) (source target : SubtaskState) :
    Except CoveyError Unit :=
  ensureTransition (.subtask source) (.subtask target) .subtask (kind.allows source target)

@[simp] theorem ensureSubtaskTransition_ok {kind : SubtaskKind} {source target : SubtaskState}
    {u : Unit} :
    ensureSubtaskTransition kind source target = .ok u ↔ kind.allows source target = true :=
  ensureTransition_ok

def ensureReviewTransition (source target : ReviewState) : Except CoveyError Unit :=
  ensureTransition (.review source) (.review target) .review (source.allows target)

@[simp] theorem ensureReviewTransition_ok {source target : ReviewState} {u : Unit} :
    ensureReviewTransition source target = .ok u ↔ source.allows target = true :=
  ensureTransition_ok

def ensureReadyQueueTransition (source target : ReadyQueueState) : Except CoveyError Unit :=
  ensureTransition (.readyQueue source) (.readyQueue target) .readyQueue (source.allows target)

@[simp] theorem ensureReadyQueueTransition_ok {source target : ReadyQueueState} {u : Unit} :
    ensureReadyQueueTransition source target = .ok u ↔ source.allows target = true :=
  ensureTransition_ok

end Covey

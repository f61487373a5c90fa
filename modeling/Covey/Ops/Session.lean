import Covey.Store

/-!
# Session operations

Model of `src/ops/session.rs` and `src/ops/maintenance.rs`.
-/

namespace Covey

/-! ## Registration and heartbeat -/

/-- `register_session` (session.rs:35-101). -/
def registerSession (req : RegisterSessionReq) (now : ℤ) : Txn Response := do
  ensureLength "agent_principal_id" req.agentPrincipalId.val 512
  ensureLength "agent_instance_id" req.agentInstanceId.val 512
  leasedMutation req.agentPrincipalId.val "register_session" req.idempotencyKey
    (.registerSession req) now fun leaseNow => do
    ensureNoOtherActiveSession req.agentPrincipalId
    let sessionToken ← freshId .sessionToken "session"
    insertInto Rel.sessions
      { sessionToken := sessionToken
        agentPrincipalId := req.agentPrincipalId
        agentInstanceId := req.agentInstanceId
        role := req.role
        state := .active
        activeSubtaskId := none
        lastHeartbeatAt := now
        lastHeartbeatTick := leaseNow
        createdAt := now
        updatedAt := now }
    appendSessionEvent .sessionRegistered .session sessionToken.val sessionToken now
    return .sessionHandle ⟨sessionToken, req.agentPrincipalId, req.agentInstanceId, req.role⟩

/-- `ensure_non_empty` (validators.rs:383-395). -/
def ensureNonEmpty (field value : String) (sessionToken : SessionToken) : Except CoveyError Unit :=
  if blank value then
    .error (.invalidRuntimeAttestation sessionToken (field ++ " must not be empty"))
  else .ok ()

/-- One field check of `validate_runtime_attestation_req`. -/
def validateRuntimeField (field value : String) (sessionToken : SessionToken) :
    Except CoveyError Unit := do
  ensureLength field value 512
  ensureNonEmpty field value sessionToken

/-- `validate_runtime_attestation_req` (session.rs:462-512). -/
def validateRuntimeAttestationReq (req : RecordRuntimeAttestationReq)
    (sessionToken : SessionToken) : Except CoveyError Unit := do
  let fields : List (String × String) :=
    [("provider", req.provider.val), ("model", req.model.val),
     ("provider_run_id", req.providerRunId.val),
     ("provider_run_id_issuer", req.providerRunIdIssuer.val),
     ("command_transcript_digest", req.commandTranscriptDigest.val)]
  fields.forM fun (field, value) => ensureLength field value 512
  fields.forM fun (field, value) => ensureNonEmpty field value sessionToken
  req.processId.forM fun processId => validateRuntimeField "process_id" processId.val sessionToken
  req.containerId.forM fun containerId =>
    validateRuntimeField "container_id" containerId.val sessionToken
  if req.endedAt < req.startedAt then
    .error (.invalidRuntimeAttestation sessionToken
      "ended_at must be greater than or equal to started_at")
  else .ok ()

/-- `ProviderRunIdentity::from_parts` (records.rs:501-521) and the two `expect`s of
    session.rs:151-156: the reserved placeholder may be given neither whole nor in part. -/
def observedProviderRun (req : RecordRuntimeAttestationReq) : Except CoveyError Unit :=
  match decide (req.providerRunId.val = "__covey_missing_provider_run_id__"),
      decide (req.providerRunIdIssuer.val = "__covey_missing_provider_run_id_issuer__") with
  | false, false => .ok ()
  | true, true => .error (.databaseError "new attestations include provider run id")
  | _, _ => .error (.invalidRuntimeAttestation req.sessionToken
      "provider run identity must include both id and issuer")

/-- `record_runtime_attestation` (session.rs:104-195). -/
def recordRuntimeAttestation (req : RecordRuntimeAttestationReq) (now : ℤ) : Txn Response :=
  mutation req.sessionToken.val "record_runtime_attestation" req.idempotencyKey
    (.recordRuntimeAttestation req) now do
    let session ← requireActiveSession req.sessionToken
    validateRuntimeAttestationReq req session.sessionToken
    observedProviderRun req
    Tx.ensure (req.endedAt ≤ now) (.invalidRuntimeAttestation req.sessionToken
      "recorded_at must be greater than or equal to ended_at")
    let attestation : RuntimeAttestationRow :=
      { sessionToken := session.sessionToken
        agentPrincipalId := session.agentPrincipalId
        agentInstanceId := session.agentInstanceId
        role := session.role
        provider := req.provider
        model := req.model
        providerRunId := req.providerRunId
        providerRunIdIssuer := req.providerRunIdIssuer
        processId := req.processId
        containerId := req.containerId
        commandTranscriptDigest := req.commandTranscriptDigest
        startedAt := req.startedAt
        endedAt := req.endedAt
        recordedAt := now }
    insertInto Rel.runtimeAttestations attestation
    appendSessionEvent .runtimeAttestationRecorded .runtimeAttestation req.sessionToken.val
      req.sessionToken now
    return .runtimeAttestation attestation

/-- `heartbeat` (session.rs:212-256). -/
def heartbeat (req : HeartbeatReq) (now : ℤ) : Txn Response :=
  leasedMutation req.sessionToken.val "heartbeat" req.idempotencyKey (.session req) now
    fun leaseNow => do
    let session ← loadSession req.sessionToken
    ensureTransition (.session session.state) (.session .active) .session (session.state = .active)
    let _ ← updateIn Rel.sessions (fun r => r.sessionToken = req.sessionToken) fun r =>
      { r with lastHeartbeatAt := now, lastHeartbeatTick := leaseNow, updatedAt := now }
    appendSessionEvent .sessionHeartbeat .session req.sessionToken.val req.sessionToken now
    return .unit

/-! ## Exit -/

/-- `expire_held_claims_for_exited_session` (session.rs:405-460). -/
def expireHeldClaimsForExitedSession (sessionToken : SessionToken) (now : ℤ) : Txn Unit := do
  let held ← selectFrom Rel.claims fun c =>
    c.ownerSessionToken = sessionToken ∧ c.state = .held
  let claims ← Tx.mapEach (held.insertionSort claimOrder) fun c => liftM c.load
  Tx.forEach claims fun claim => expireClaim claim now

/-- `exit_session` (session.rs:259-316). -/
def exitSession (req : ExitSessionReq) (now : ℤ) : Txn Response :=
  mutation req.sessionToken.val "exit_session" req.idempotencyKey (.session req) now do
    let session ← loadSession req.sessionToken
    ensureTransition (.session session.state) (.session .exited) .session
      (session.state = .active ∨ session.state = .stale)
    let updated ← updateIn Rel.sessions
      (fun r => r.sessionToken = req.sessionToken ∧ (r.state = .active ∨ r.state = .stale)) fun r =>
      { r with state := .exited, activeSubtaskId := none, updatedAt := now }
    Tx.ensure (updated = 1)
      (.illegalTransition (.session session.state) (.session .exited) .session)
    expireHeldClaimsForExitedSession req.sessionToken now
    appendSessionEvent .sessionExited .session req.sessionToken.val req.sessionToken now
    return .unit

/-! ## Maintenance -/

/-- The loop of `reap_stale_sessions` and `expire_old_claims`. -/
def expireClaims (claims : List ClaimRow) (now : ℤ) : Txn Unit :=
  Tx.forEach claims fun claim => do
    expireClaim claim now
    clearOwnerOfClaim claim now

/-- `reap_stale_sessions` (maintenance.rs:60-110). -/
def reapStaleSessions (staleThreshold now : ℤ) : Txn Response := do
  let leaseNow ← advanceLeaseClock now
  let staleSessions ← updateIn Rel.sessions
    (fun r => r.state = .active ∧ r.lastHeartbeatTick ≤ subI64 leaseNow staleThreshold) fun r =>
    { r with state := .stale, updatedAt := now }
  let staleClaims ← loadExpirableClaims leaseNow
  expireClaims staleClaims now
  Tx.whenever (0 < staleSessions) (appendSystemEvent .sessionsReaped .session "stale" now)
  return .staleSessions staleSessions

/-- `expire_old_claims` (maintenance.rs:113-153). -/
def expireOldClaims (now : ℤ) : Txn Response := do
  let leaseNow ← advanceLeaseClock now
  let staleClaims ← loadExpirableClaims leaseNow
  expireClaims staleClaims now
  Tx.whenever (staleClaims ≠ []) (appendSystemEvent .claimsExpired .claim "expired" now)
  return .expired staleClaims.length

/-! ## Reservations -/

/-- `resolve_reservation_overlap_conflicts` (overlap.rs:201-236). -/
def resolveReservationOverlapConflicts (reservationId : ReservationId) (now : ℤ) : Txn Unit := do
  let _ ← updateIn Rel.conflicts
    (fun c => c.resolutionState ≠ .resolved ∧ c.reservationId = reservationId) fun c =>
    { c with resolutionState := .resolved, detectedAt := now }
  let _ ← updateIn Rel.conflicts
    (fun c => c.resolutionState ≠ .resolved ∧ c.overlappingReservationId = reservationId) fun c =>
    { c with resolutionState := .resolved, detectedAt := now }

/-- `expire_old_reservations` (maintenance.rs:156-194). -/
def expireOldReservations (now : ℤ) : Txn Response := do
  let leaseNow ← advanceLeaseClock now
  let due ← selectFrom Rel.reservations fun r => r.state = .active ∧ r.leaseDeadline ≤ leaseNow
  let expired ← updateIn Rel.reservations
    (fun r => r.state = .active ∧ r.leaseDeadline ≤ leaseNow) fun r =>
    { r with state := .expired, updatedAt := now }
  Tx.forEach due fun r => resolveReservationOverlapConflicts r.reservationId now
  Tx.whenever (0 < expired) (appendSystemEvent .reservationsExpired .reservation "expired" now)
  return .expired expired

end Covey

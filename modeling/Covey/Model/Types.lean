import Mathlib.Data.List.Basic
import Mathlib.Data.Nat.Digits.Defs

/-!
# Typed scalars

Model of `src/model/types.rs`: the validated string newtypes (`string_newtype!`)
and integer newtypes (`i64_newtype!`) that every request and every row is made
of. A newtype is `Text f` for a field `f`; its value carries the proof that the
field's validator accepts it, so an invalid scalar cannot be built.

Strings are Unicode. `str::len` is the number of UTF-8 bytes, `char::is_control`
is the category `Cc`, and `char::is_whitespace` is the property `White_Space`;
the last two are written out below.
-/

namespace Covey

/-- `CoveyTypeValidationError` (types.rs:17-22). -/
structure TypeValidationError where
  field : String
  reason : String
deriving DecidableEq

/-! ## Characters -/

/-- `char::is_control`: category `Cc`. -/
def isControl (c : Char) : Bool := c.toNat < 0x20 || (0x7f ≤ c.toNat && c.toNat ≤ 0x9f)

/-- `char::is_whitespace`: property `White_Space`. -/
def isWhitespace (c : Char) : Bool :=
  (9 ≤ c.toNat && c.toNat ≤ 13) || c.toNat == 0x20 || c.toNat == 0x85 || c.toNat == 0xa0 ||
  c.toNat == 0x1680 || (0x2000 ≤ c.toNat && c.toNat ≤ 0x200a) || c.toNat == 0x2028 ||
  c.toNat == 0x2029 || c.toNat == 0x202f || c.toNat == 0x205f || c.toNat == 0x3000

/-- `char::is_ascii_lowercase`. -/
def isAsciiLower (c : Char) : Bool := 'a'.toNat ≤ c.toNat && c.toNat ≤ 'z'.toNat

/-- `char::is_ascii_digit`. -/
def isAsciiDigit (c : Char) : Bool := '0'.toNat ≤ c.toNat && c.toNat ≤ '9'.toNat

/-- `char::is_ascii_alphanumeric`. -/
def isAsciiAlnum (c : Char) : Bool :=
  isAsciiLower c || isAsciiDigit c || ('A'.toNat ≤ c.toNat && c.toNat ≤ 'Z'.toNat)

/-- `char::is_ascii_hexdigit`. -/
def isAsciiHex (c : Char) : Bool :=
  isAsciiDigit c || ('a'.toNat ≤ c.toNat && c.toNat ≤ 'f'.toNat) ||
  ('A'.toNat ≤ c.toNat && c.toNat ≤ 'F'.toNat)

/-- `value.trim().is_empty()`. -/
def blank (v : String) : Bool := v.toList.all isWhitespace

/-- `value.trim() != value`. -/
def padded (v : String) : Bool :=
  v.toList.head?.any isWhitespace || v.toList.getLast?.any isWhitespace

/-- `value.split_once(sep)`. -/
def splitOnce (sep : Char) (v : List Char) : Option (List Char × List Char) :=
  match v with
  | [] => none
  | c :: cs =>
    if c = sep then some ([], cs)
    else (splitOnce sep cs).map fun (a, b) => (c :: a, b)

/-! ## Validators -/

/-- `validate_tokenish` (types.rs:33-51); `none` accepts, `some reason` refuses. -/
def validateTokenish (v : String) : Option String :=
  if blank v then some "must not be empty"
  else if v.utf8ByteSize > 256 then some "exceeds 256 bytes"
  else if v.toList.any (fun ch => isControl ch || isWhitespace ch) then
    some "must not contain whitespace or control characters"
  else none

/-- `validate_digest` (types.rs:53-86). -/
def validateDigest (v : String) : Option String :=
  match validateTokenish v with
  | some reason => some reason
  | none =>
    match splitOnce ':' v.toList with
    | none => some "must include an algorithm prefix"
    | some (algorithm, digest) =>
      if algorithm.isEmpty || digest.isEmpty then some "algorithm and digest must be non-empty"
      else if !algorithm.all (fun ch => isAsciiLower ch || isAsciiDigit ch || ch == '-' || ch == '_')
      then some "algorithm prefix contains invalid characters"
      else if !digest.all (fun ch => isAsciiAlnum ch || ch == '-' || ch == '_' || ch == '.')
      then some "digest contains invalid characters"
      else none

/-- `validate_blake3_digest` (types.rs:88-106). -/
def validateBlake3Digest (v : String) : Option String :=
  match validateDigest v with
  | some reason => some reason
  | none =>
    match splitOnce ':' v.toList with
    | none => some "must include an algorithm prefix"
    | some (algorithm, _) =>
      if algorithm ≠ "blake3".toList then some "must use blake3: prefix" else none

/-- `validate_blake3_hex_digest` (types.rs:108-126). -/
def validateBlake3HexDigest (v : String) : Option String :=
  match validateBlake3Digest v with
  | some reason => some reason
  | none =>
    match splitOnce ':' v.toList with
    | none => some "must include an algorithm prefix"
    | some (_, digest) =>
      if digest.length ≠ 64 || !digest.all isAsciiHex then
        some "must be a 64-character blake3 hex digest"
      else none

/-- The last component of a path with either separator. -/
def lastSegment (v : String) : List Char :=
  (v.toList.reverse.takeWhile fun ch => ch ≠ '/' ∧ ch ≠ '\\').reverse

/-- `validate_manifest_path` (types.rs:128-159). -/
def validateManifestPath (v : String) : Option String :=
  if blank v then some "must not be empty"
  else if v.utf8ByteSize > 4096 then some "exceeds 4096 bytes"
  else if v.toList.any isControl then some "must not contain control characters"
  else if lastSegment v = "mission-packet.json".toList then
    some "must not be Better Droid mission-packet compiler output"
  else none

/-- `validate_worktree_path` (types.rs:161-181). -/
def validateWorktreePath (v : String) : Option String :=
  if blank v then some "must not be empty"
  else if v.utf8ByteSize > 4096 then some "exceeds 4096 bytes"
  else if v.toList.any isControl then some "must not contain control characters"
  else none

/-- The validators for single-line texts: `validate_normalized_text`,
    `validate_subtask_title` and `validate_attempt_summary` (types.rs:183-293) differ in
    the bound only. -/
def validateLine (max : ℕ) (tooLong : String) (v : String) : Option String :=
  if blank v then some "must not be empty"
  else if v.utf8ByteSize > max then some tooLong
  else if padded v then some "must not include leading or trailing whitespace"
  else if v.toList.any isControl then some "must not contain control characters"
  else none

/-- `validate_normalized_text` (types.rs:183-206). -/
def validateNormalizedText : String → Option String := validateLine 1024 "exceeds 1024 bytes"

/-- `validate_subtask_title` (types.rs:239-266). -/
def validateSubtaskTitle : String → Option String := validateLine 512 "exceeds 512 bytes"

/-- `validate_attempt_summary` (types.rs:268-293). -/
def validateAttemptSummary : String → Option String := validateLine 4096 "exceeds 4096 bytes"

/-- `validate_commit_oid` (types.rs:208-222). -/
def validateCommitOid (v : String) : Option String :=
  if v.utf8ByteSize < 7 || v.utf8ByteSize > 64 then some "must be 7 to 64 hexadecimal characters"
  else if !v.toList.all isAsciiHex then some "must contain only hexadecimal characters"
  else none

/-- The validators for free text bounded in bytes only: `validate_prompt_text` and
    `validate_idempotency_key` (types.rs:224-237, 295-307). -/
def validateBounded (max : ℕ) (tooLong : String) (v : String) : Option String :=
  if blank v then some "must not be empty"
  else if v.utf8ByteSize > max then some tooLong
  else none

/-- `validate_prompt_text` (types.rs:224-237). -/
def validatePromptText : String → Option String := validateBounded 32768 "exceeds 32768 bytes"

/-- `validate_idempotency_key` (types.rs:295-307). -/
def validateIdempotencyKeyText : String → Option String := validateBounded 256 "exceeds 256 bytes"

/-- `validate_openspec_change_id` (types.rs:309-327). -/
def validateOpenspecChangeId (v : String) : Option String :=
  if v.isEmpty || v.toList.head? == some '-' || v.toList.getLast? == some '-' ||
      !v.toList.all (fun ch => isAsciiLower ch || isAsciiDigit ch || ch == '-')
  then some "must be kebab-case ASCII"
  else none

/-! ## String newtypes -/

/-- The string newtypes of types.rs:661-787 that a modelled function reads or writes. -/
inductive ScalarField
  | sessionToken | agentPrincipalId | agentInstanceId | metaTaskId | proseTasksetId
  | proseApplyBlockerId | promptText | subtaskId | subtaskTitle | routingKey | claimId | queueId
  | reviewId | reservationId | conflictId | operatorBlockerId | operatorBlockerEvidenceId
  | operatorBlockerReason | applyGateBlockerReason | applyGateBlockerEvidenceId
  | settlementReconcileEvidenceId | eventObjectId | artifactDigest | attemptEvidenceDigest
  | attemptFailureCode | attemptSummary | openSpecArchiveBlockedReason | artifactManifestPath
  | applyWorktreePath | vcsWorkspaceId | vcsPacketStackEntryId | vcsPrPublicationId
  | vcsWorkspacePath | vcsWorkspaceRef | vcsWorkspaceObservationReason | changedPathsDigest
  | findingsDigest | permissiveLandingReceiptDigest | openSpecDigest | baseRev | landedCommitOid
  | providerId | modelId | providerRunId | providerRunIdIssuer | runtimeProcessId
  | runtimeContainerId | verifierId | idempotencyKey | openSpecChangeId | sourceIssueId
  | commandTranscriptDigest

/-- The field name a newtype reports in its validation error. -/
def ScalarField.name : ScalarField → String
  | .sessionToken => "session_token"
  | .agentPrincipalId => "agent_principal_id"
  | .agentInstanceId => "agent_instance_id"
  | .metaTaskId => "meta_task_id"
  | .proseTasksetId => "prose_taskset_id"
  | .proseApplyBlockerId => "prose_apply_blocker_id"
  | .promptText => "prompt_text"
  | .subtaskId => "subtask_id"
  | .subtaskTitle => "title"
  | .routingKey => "routing_key"
  | .claimId => "claim_id"
  | .queueId => "queue_id"
  | .reviewId => "review_id"
  | .reservationId => "reservation_id"
  | .conflictId => "conflict_id"
  | .operatorBlockerId => "operator_blocker_id"
  | .operatorBlockerEvidenceId => "operator_blocker_evidence_id"
  | .operatorBlockerReason => "operator_blocker_reason"
  | .applyGateBlockerReason => "apply_gate_blocker_reason"
  | .applyGateBlockerEvidenceId => "apply_gate_blocker_evidence_id"
  | .settlementReconcileEvidenceId => "settlement_reconcile_evidence_id"
  | .eventObjectId => "event_object_id"
  | .artifactDigest => "artifact_digest"
  | .attemptEvidenceDigest => "evidence_digest"
  | .attemptFailureCode => "failure_code"
  | .attemptSummary => "summary"
  | .openSpecArchiveBlockedReason => "blocked_reason"
  | .artifactManifestPath => "manifest_path"
  | .applyWorktreePath => "worktree_path"
  | .vcsWorkspaceId => "vcs_workspace_id"
  | .vcsPacketStackEntryId => "vcs_packet_stack_entry_id"
  | .vcsPrPublicationId => "vcs_pr_publication_id"
  | .vcsWorkspacePath => "vcs_workspace_path"
  | .vcsWorkspaceRef => "vcs_workspace_ref"
  | .vcsWorkspaceObservationReason => "vcs_workspace_observation_reason"
  | .changedPathsDigest => "changed_paths_digest"
  | .findingsDigest => "findings_digest"
  | .permissiveLandingReceiptDigest => "receipt_digest"
  | .openSpecDigest => "openspec_digest"
  | .baseRev => "base_rev"
  | .landedCommitOid => "landed_commit_oid"
  | .providerId => "provider"
  | .modelId => "model"
  | .providerRunId => "provider_run_id"
  | .providerRunIdIssuer => "provider_run_id_issuer"
  | .runtimeProcessId => "process_id"
  | .runtimeContainerId => "container_id"
  | .verifierId => "verifier"
  | .idempotencyKey => "idempotency_key"
  | .openSpecChangeId => "openspec_change_id"
  | .sourceIssueId => "source_issue_id"
  | .commandTranscriptDigest => "command_transcript_digest"

/-- The validator a newtype is declared with. -/
def ScalarField.validator : ScalarField → String → Option String
  | .promptText => validatePromptText
  | .subtaskTitle => validateSubtaskTitle
  | .operatorBlockerReason | .applyGateBlockerReason | .openSpecArchiveBlockedReason
  | .vcsWorkspaceObservationReason | .providerRunId | .providerRunIdIssuer | .runtimeProcessId
  | .runtimeContainerId => validateNormalizedText
  | .artifactDigest | .attemptEvidenceDigest | .changedPathsDigest | .findingsDigest
  | .commandTranscriptDigest => validateDigest
  | .attemptSummary => validateAttemptSummary
  | .artifactManifestPath => validateManifestPath
  | .applyWorktreePath | .vcsWorkspacePath => validateWorktreePath
  | .permissiveLandingReceiptDigest => validateBlake3HexDigest
  | .openSpecDigest => validateBlake3Digest
  | .landedCommitOid => validateCommitOid
  | .idempotencyKey => validateIdempotencyKeyText
  | .openSpecChangeId => validateOpenspecChangeId
  | _ => validateTokenish

/-- A string newtype: a string its validator accepts. -/
@[ext] structure Text (f : ScalarField) where
  val : String
  ok : f.validator val = none
deriving DecidableEq

instance Text.lawfulBEq (f : ScalarField) : LawfulBEq (Text f) := inferInstance

/-- `parse`: the newtype, or the field's validation error. -/
def Text.parse (f : ScalarField) (v : String) : Except TypeValidationError (Text f) :=
  match h : f.validator v with
  | none => .ok ⟨v, h⟩
  | some reason => .error ⟨f.name, reason⟩

theorem Text.parse_ok {f : ScalarField} {v : String} {t : Text f} :
    Text.parse f v = .ok t ↔ t.val = v := by
  constructor
  · intro h
    unfold Text.parse at h
    split at h
    · cases h; rfl
    · cases h
  · rintro rfl
    unfold Text.parse
    split
    · rfl
    · rename_i h
      simp [t.ok] at h

abbrev SessionToken := Text .sessionToken
abbrev AgentPrincipalId := Text .agentPrincipalId
abbrev AgentInstanceId := Text .agentInstanceId
abbrev MetaTaskId := Text .metaTaskId
abbrev ProseTasksetId := Text .proseTasksetId
abbrev ProseApplyBlockerId := Text .proseApplyBlockerId
abbrev PromptText := Text .promptText
abbrev SubtaskId := Text .subtaskId
abbrev SubtaskTitle := Text .subtaskTitle
abbrev RoutingKey := Text .routingKey
abbrev ClaimId := Text .claimId
abbrev QueueId := Text .queueId
abbrev ReviewId := Text .reviewId
abbrev ReservationId := Text .reservationId
abbrev ConflictId := Text .conflictId
abbrev OperatorBlockerId := Text .operatorBlockerId
abbrev OperatorBlockerEvidenceId := Text .operatorBlockerEvidenceId
abbrev OperatorBlockerReason := Text .operatorBlockerReason
abbrev ApplyGateBlockerReason := Text .applyGateBlockerReason
abbrev ApplyGateBlockerEvidenceId := Text .applyGateBlockerEvidenceId
abbrev SettlementReconcileEvidenceId := Text .settlementReconcileEvidenceId
abbrev ArtifactDigest := Text .artifactDigest
abbrev AttemptEvidenceDigest := Text .attemptEvidenceDigest
abbrev AttemptFailureCode := Text .attemptFailureCode
abbrev AttemptSummary := Text .attemptSummary
abbrev OpenSpecArchiveBlockedReason := Text .openSpecArchiveBlockedReason
abbrev ArtifactManifestPath := Text .artifactManifestPath
abbrev ApplyWorktreePath := Text .applyWorktreePath
abbrev ChangedPathsDigest := Text .changedPathsDigest
abbrev FindingsDigest := Text .findingsDigest
abbrev PermissiveLandingReceiptDigest := Text .permissiveLandingReceiptDigest
abbrev OpenSpecDigest := Text .openSpecDigest
abbrev BaseRev := Text .baseRev
abbrev LandedCommitOid := Text .landedCommitOid
abbrev VerifierId := Text .verifierId
abbrev IdempotencyKey := Text .idempotencyKey
abbrev OpenSpecChangeId := Text .openSpecChangeId
abbrev VcsWorkspaceId := Text .vcsWorkspaceId
abbrev VcsPacketStackEntryId := Text .vcsPacketStackEntryId
abbrev VcsPrPublicationId := Text .vcsPrPublicationId
abbrev VcsWorkspacePath := Text .vcsWorkspacePath
abbrev VcsWorkspaceRef := Text .vcsWorkspaceRef
abbrev VcsWorkspaceObservationReason := Text .vcsWorkspaceObservationReason

/-! ## Paths -/

/-- `str::trim`. -/
def trimChars (v : List Char) : List Char :=
  ((v.dropWhile isWhitespace).reverse.dropWhile isWhitespace).reverse

/-- `str::split(sep)`. -/
def splitChars (sep : Char) (v : List Char) : List (List Char) :=
  match v with
  | [] => [[]]
  | c :: cs =>
    if c = sep then [] :: splitChars sep cs
    else match splitChars sep cs with
      | [] => [[c]]
      | part :: parts => (c :: part) :: parts

/-- `while let Some(rest) = normalized.strip_prefix("./")`. -/
def stripDotSlash : List Char → List Char
  | '.' :: '/' :: rest => stripDotSlash rest
  | v => v

/-- The components `RepoopsPath` keeps, or the field error of a parent component. -/
def RepoopsPath.parts : List (List Char) → Except TypeValidationError (List (List Char))
  | [] => .ok []
  | part :: rest =>
    if part = [] ∨ part = ['.'] then RepoopsPath.parts rest
    else if part = ['.', '.'] then .error ⟨"path", "must not traverse outside the repository"⟩
    else (RepoopsPath.parts rest).map (part :: ·)

/-- `RepoopsPath::try_from` (types.rs:580-620). -/
def RepoopsPath.normalize (value : String) : Except TypeValidationError String :=
  if value.toList.any isControl then .error ⟨"path", "must not contain control characters"⟩
  else
    let slashed := (trimChars value.toList).map fun c => if c = '\\' then '/' else c
    let relative := (stripDotSlash slashed).dropWhile (· = '/')
    match RepoopsPath.parts (splitChars '/' relative) with
    | .error e => .error e
    | .ok [] => .error ⟨"path", "must not be empty"⟩
    | .ok parts => .ok (String.ofList (['/'].intercalate parts))

/-- A `RepoopsPath` (types.rs:565): the normal form of some raw path. -/
structure RepoopsPath where
  val : String
  parsed : ∃ raw, RepoopsPath.normalize raw = .ok val
deriving DecidableEq

/-! ## Integers -/

/-- The range of `i64`. -/
def InI64 (z : ℤ) : Prop := -2 ^ 63 ≤ z ∧ z < 2 ^ 63

instance (z : ℤ) : Decidable (InI64 z) := inferInstanceAs (Decidable (_ ∧ _))

/-- `a + b` on `i64` in a release build: two's complement wrap-around. -/
def addI64 (a b : ℤ) : ℤ := (a + b).bmod (2 ^ 64)

theorem addI64_of_inI64 {a b : ℤ} (h : InI64 (a + b)) : addI64 a b = a + b := by
  unfold addI64
  unfold InI64 at h
  exact Int.bmod_eq_of_le (by omega) (by omega)

/-- `a - b` on `i64` in a release build. -/
def subI64 (a b : ℤ) : ℤ := (a - b).bmod (2 ^ 64)

/-- A `LeaseDurationMs` (types.rs:797): a positive `i64`. -/
structure LeaseDurationMs where
  val : ℤ
  pos : 0 < val
  lt : val < 2 ^ 63
deriving DecidableEq

/-- A `FenceSeq` (types.rs:790): a positive integer. -/
structure FenceSeq where
  val : ℕ
  pos : 0 < val
deriving DecidableEq

/-- `SubtaskPriority` (types.rs:799): 0 to 1000. -/
abbrev SubtaskPriority := Fin 1001

instance SubtaskPriority.neZero : NeZero 1001 := ⟨by decide⟩

/-- `TimestampMs::parse` (types.rs:800). -/
def TimestampMs.parse (now : ℤ) : Except TypeValidationError ℤ :=
  if now < 0 then .error ⟨"timestamp_ms", "must be non-negative"⟩ else .ok now

/-- `LeaseDeadlineMs::parse` (types.rs:798). -/
def LeaseDeadlineMs.parse (deadline : ℤ) : Except TypeValidationError ℤ :=
  if deadline < 0 then .error ⟨"lease_deadline", "must be non-negative"⟩ else .ok deadline

@[simp] theorem TimestampMs.parse_ok {now t : ℤ} :
    TimestampMs.parse now = .ok t ↔ 0 ≤ now ∧ now = t := by
  unfold TimestampMs.parse
  split_ifs <;> simp <;> omega

@[simp] theorem LeaseDeadlineMs.parse_ok {deadline t : ℤ} :
    LeaseDeadlineMs.parse deadline = .ok t ↔ 0 ≤ deadline ∧ deadline = t := by
  unfold LeaseDeadlineMs.parse
  split_ifs <;> simp <;> omega

/-! ## Generated ids -/

/-- The 128 bits of a UUID. -/
abbrev Uuid := Fin (2 ^ 128)

instance Uuid.neZero : NeZero (2 ^ 128) := ⟨by decide⟩

/-- `Uuid::simple`: the 32 lower-case hexadecimal digits. -/
def Uuid.simple (u : Uuid) : String :=
  String.ofList ((List.range 32).map fun i => Nat.digitChar (u.val / 16 ^ (31 - i) % 16))

/-- `make_id` (helpers.rs:4-6) for a given UUID, parsed as the newtype of `f`. -/
def makeId (f : ScalarField) (stem : String) (u : Uuid) : Except TypeValidationError (Text f) :=
  Text.parse f (stem ++ "_" ++ u.simple)

end Covey

import Covey.Ops.Reservation
import Covey.Ops.Enqueue

/-!
# The repoops authority snapshot

Model of `src/ops/repoops.rs`, of the query it uses (`src/queries.rs:270-534`) and of
the checks of the facts it returns (`src/model/views.rs`). The snapshot is a read: it
authenticates a claim by its fence, at the wall reading and not at the lease clock,
and reports which reservations lock the requested paths.
-/

namespace Covey

/-! ## Facts -/

/-- `validate_repoops_scope_pattern` (views.rs:4260-4271). -/
def validateRepoopsScopePattern (value : String) : Except String Unit :=
  if blank value then .error "patterns must not be empty"
  else if padded value then .error "patterns must be normalized"
  else if value.toList.any isControl then .error "patterns must not contain control characters"
  else .ok ()

/-- The loop of `parse_repoops_scope_patterns` (views.rs:4236-4258) over the patterns, `seen`
    being those before. -/
def parseRepoopsScopePatterns (label : String) (seen : List String) :
    List String → Except String Unit
  | [] => .ok ()
  | pattern :: rest =>
    match validateRepoopsScopePattern pattern with
    | .error reason => .error (label ++ " " ++ reason)
    | .ok () =>
      if pattern ∈ seen then .error (label ++ " patterns must not contain duplicates")
      else parseRepoopsScopePatterns label (pattern :: seen) rest

/-- `validate_repoops_token_ref` (views.rs:4698-4717). -/
def validateRepoopsTokenRef (label value : String) : Except String Unit :=
  if blank value then .error (label ++ " must not be empty")
  else if padded value then .error (label ++ " must be normalized")
  else if 256 < value.utf8ByteSize then .error (label ++ " exceeds 256 bytes")
  else if value.toList.any fun ch => isControl ch || isWhitespace ch then
    .error (label ++ " must not contain whitespace or control characters")
  else .ok ()

/-- `RepoopsLockPath::parse` (views.rs:4465-4481), with `validate_repoops_project_path`. -/
def validateRepoopsLockPath (path : String) : Except String Unit :=
  if blank path then .error "repoops lock path must not be empty"
  else if padded path then .error "repoops lock path must be normalized"
  else if path.toList.any isControl then
    .error "repoops lock path must not contain control characters"
  else if path.toList.head? = some '/' ∨ path.toList.head? = some '\\' then
    .error "repoops lock path must be repo-relative"
  else if '\\' ∈ path.toList then .error "repoops lock path must be normalized"
  else if (splitChars '/' path.toList).any fun part => part = [] ∨ part = ['.'] ∨ part = ['.', '.']
    then .error "repoops lock path must be normalized"
  else .ok ()

/-- `RepoopsClaimRef` (types.rs:693). -/
structure RepoopsClaimRef where
  val : String
  ok : validateTokenish val = none
deriving DecidableEq

/-- `repoops_claim_ref` (repoops.rs:515-517), which panics on a text that is no reference. -/
def repoopsClaimRef (value : String) : Except CoveyError RepoopsClaimRef :=
  if h : validateTokenish value = none then .ok ⟨value, h⟩
  else panicked "repoops claim refs are derived from validated ids"

inductive RepoopsAuthorityLockStatus
  | owned | foreignOwner
deriving DecidableEq

/-- `RepoopsAuthorityLockFact` (views.rs:4276-4292). -/
structure RepoopsAuthorityLockFact where
  path : String
  owner : String
  claimId : RepoopsClaimRef
  status : RepoopsAuthorityLockStatus
deriving DecidableEq

/-- `RepoopsAuthorityLock::from_parts` (views.rs:4376-4396). -/
def repoopsAuthorityLock (path owner : String) (claimId : RepoopsClaimRef)
    (status : RepoopsAuthorityLockStatus) : Except String RepoopsAuthorityLockFact := do
  validateRepoopsLockPath path
  validateRepoopsTokenRef "repoops lock owner" owner
  return ⟨path, owner, claimId, status⟩

/-- `RepoopsAuthorityClaimLifecycle` (views.rs:3775-3780). -/
inductive RepoopsAuthorityClaimLifecycle
  | inProgress (activeOwnershipToken : SessionToken)
  | «open»

/-- `RepoopsAuthorityClaimFact` (views.rs:3765-3772). -/
structure RepoopsAuthorityClaimFact where
  claimId : ClaimId
  owner : AgentPrincipalId
  scopeIn : List String
  scopeOut : List String
  hasRequiredContractFields : Bool
  lifecycle : RepoopsAuthorityClaimLifecycle

/-- `RepoopsAuthorityClaimFact::from_parts` (views.rs:3877-3899). -/
def repoopsAuthorityClaim (fact : RepoopsAuthorityClaimFact) :
    Except String RepoopsAuthorityClaimFact := do
  parseRepoopsScopePatterns "claim.scope_in" [] fact.scopeIn
  parseRepoopsScopePatterns "claim.scope_out" [] fact.scopeOut
  if fact.hasRequiredContractFields = true ∧ fact.scopeIn = [] then
    .error "repoops claim facts with required contract fields need scope_in"
  else .ok fact

/-- `RepoopsAuthorityPolicyFact` (views.rs:3640-3649). -/
inductive RepoopsAuthorityPolicy
  | enforce

/-- `RepoopsAuthorityGitContextFact` (views.rs:4510-4513), of the one context that is reported. -/
inductive RepoopsAuthorityGitContext
  | unknown (ownershipTokenRequired : Bool)

/-- `RepoopsAuthoritySnapshot` (views.rs:4791-4800) of a claim. -/
structure RepoopsAuthoritySnapshot where
  schemaVersion : String
  agentId : AgentPrincipalId
  claimId : ClaimId
  ownershipToken : SessionToken
  claim : RepoopsAuthorityClaimFact
  policy : RepoopsAuthorityPolicy
  scopeIn : List String
  scopeOut : List String
  locks : List RepoopsAuthorityLockFact
  gitContext : Option RepoopsAuthorityGitContext
  factSources : List String

/-- The loop of `RepoopsAuthorityFactSources::parse` (views.rs:4895-4906), `seen` being the
    sources before. -/
def parseRepoopsFactSources (seen : List String) : List String → Except String Unit
  | [] => .ok ()
  | source :: rest => do
    validateRepoopsTokenRef "repoops authority snapshot fact_sources" source
    if source ∈ seen then .error "repoops authority snapshot fact_sources must be unique"
    else parseRepoopsFactSources (source :: seen) rest

/-- `validate_repoops_authority_locks` (views.rs:5468-5509) for a snapshot of a claim. -/
def validateRepoopsAuthorityLocks (claimId : ClaimId) (owner : AgentPrincipalId) :
    List RepoopsAuthorityLockFact → Except String Unit
  | [] => .ok ()
  | lock :: rest =>
    match lock.status with
    | .owned =>
      if lock.claimId.val ≠ claimId.val ∨ lock.owner ≠ owner.val then
        .error "owned repoops lock facts must match snapshot claim and owner"
      else validateRepoopsAuthorityLocks claimId owner rest
    | .foreignOwner =>
      if lock.claimId.val = claimId.val ∨ lock.owner = owner.val then
        .error "foreign repoops lock facts must not match snapshot claim or owner"
      else validateRepoopsAuthorityLocks claimId owner rest

/-! ## Reservations that matter -/

/-- `RepoopsAuthoritySnapshotReq` (requests.rs:2587-2595). -/
structure RepoopsAuthoritySnapshotReq where
  sessionToken : SessionToken
  claimId : ClaimId
  fenceSeq : FenceSeq
  paths : List RepoopsPath
  nonempty : paths ≠ []
  nodup : paths.Nodup

/-- `normalize_requested_paths` (repoops.rs:183-193). -/
def normalizeRequestedPaths (paths : List RepoopsPath) : List String :=
  sortDedupStrings (paths.map (·.val))

/-- `repoops_path_ancestor_scope_keys` (queries.rs:494-534). -/
def repoopsPathAncestorScopeKeys (paths : List String) : List String :=
  match paths with
  | [path] => pathAncestorScopeKeys path
  | paths => sortDedupStrings (paths.flatMap pathAncestorScopeKeys)

/-- `collect_active_owner_reservation_ids` (queries.rs:308-334). -/
def collectActiveOwnerReservationIds (now : ℤ) (ownerSubtaskId : SubtaskId) :
    Txn (List ReservationId) :=
  queryReservationIds now fun r => r.ownerSubtaskId = ownerSubtaskId

/-- `collect_active_scope_key_reservation_ids` (queries.rs:336-391). -/
def collectActiveScopeKeyReservationIds (now : ℤ) (scopeClass : ScopeClass)
    (scopeKeys : List String) : Txn (List ReservationId) := do
  let found ← Tx.mapEach (chunks 256 scopeKeys) fun chunk =>
    queryReservationIds now fun r => r.scopeClass = scopeClass ∧ r.scopeKey ∈ chunk
  return found.flatten

/-- `collect_active_generated_member_reservation_ids` (queries.rs:393-441). -/
def collectActiveGeneratedMemberReservationIds (now : ℤ) (memberPaths : List String) :
    Txn (List ReservationId) := do
  let found ← Tx.mapEach (chunks 256 memberPaths) fun chunk =>
    queryMemberIds now (fun _ => True) fun m => m ∈ chunk
  return found.flatten

/-- `load_repoops_relevant_reservations_tx` (queries.rs:270-306). -/
def loadRepoopsRelevantReservations (now : ℤ) (ownerSubtaskId : SubtaskId) (paths : List String) :
    Txn (List ReservationRow) := do
  let owned ← collectActiveOwnerReservationIds now ownerSubtaskId
  let covering ← (if paths = [] then pure [] else do
    let global ← collectActiveScopeKeyReservationIds now .repoGlobal ["repo"]
    let exact ← collectActiveScopeKeyReservationIds now .exactPath paths
    let subtrees ← collectActiveScopeKeyReservationIds now .subtree
      (repoopsPathAncestorScopeKeys paths)
    let generated ← collectActiveGeneratedMemberReservationIds now paths
    return global ++ exact ++ subtrees ++ generated)
  loadReservationsByIds (sortDedupIds (owned ++ covering))

/-- `reservation_owner_is_stale_cleanup_tx` (repoops.rs:127-152). A current claim without a row
    compares as unknown. -/
def reservationOwnerIsStaleCleanup (s : Db) (ownerSubtaskId : SubtaskId) : Prop :=
  (s.subtasks.get? ownerSubtaskId).any fun r => r.kind = .cleanup ∧
    r.currentClaimId.all fun claimId => (s.claims.get? claimId).any fun c => c.state ≠ .held

instance (s : Db) (ownerSubtaskId : SubtaskId) :
    Decidable (reservationOwnerIsStaleCleanup s ownerSubtaskId) :=
  inferInstanceAs (Decidable (_ = true))

/-- `retain_live_reservations_tx` (repoops.rs:109-125). -/
def retainLiveReservations (s : Db) (reservations : List ReservationRow)
    (currentSubtaskId : SubtaskId) : List ReservationRow :=
  reservations.filter fun r => r.ownerSubtaskId = currentSubtaskId ∨
    ¬reservationOwnerIsStaleCleanup s r.ownerSubtaskId

/-- `repo_relative_path_is_normalized` (repoops.rs:237-244). -/
def repoRelativePathIsNormalized (path : List Char) : Prop :=
  '\\' ∉ path ∧ path.head? ≠ some '/' ∧ ¬['.', '/'] <+: path ∧
    ∀ part ∈ splitChars '/' path, part ≠ [] ∧ part ≠ ['.'] ∧ part ≠ ['.', '.']

instance (path : List Char) : Decidable (repoRelativePathIsNormalized path) :=
  inferInstanceAs (Decidable (_ ∧ _ ∧ _ ∧ _))

/-- `normalize_repo_relative_path` (repoops.rs:202-235). -/
def normalizeRepoRelativePath (raw : String) : Option String :=
  let trimmed := trimChars raw.toList
  if trimmed = [] then none
  else if repoRelativePathIsNormalized trimmed then some (String.ofList trimmed)
  else
    let slashed := trimmed.map fun c => if c = '\\' then '/' else c
    match RepoopsPath.parts (splitChars '/' ((stripDotSlash slashed).dropWhile (· = '/'))) with
    | .error _ => none
    | .ok [] => none
    | .ok parts => some (String.ofList (['/'].intercalate parts))

/-- `PreparedScope` (repoops.rs:261-266). -/
inductive PreparedScope
  | repoGlobal
  | exactPath (path : Option String)
  | subtree (base : Option String)
  | generatedSet (members : List String)

/-- `PreparedScope::from_reservation` (repoops.rs:280-303). -/
def PreparedScope.fromReservation (r : ReservationRow) : PreparedScope :=
  match r.scopeClass with
  | .repoGlobal => .repoGlobal
  | .exactPath => .exactPath (normalizeRepoRelativePath r.scopeKey)
  | .subtree => .subtree (normalizeRepoRelativePath r.scopeKey)
  | .generatedSet =>
    .generatedSet (sortDedupStrings (r.generatedMembers.filterMap normalizeRepoRelativePath))

/-- `append_scope_patterns` (repoops.rs:305-314). -/
def PreparedScope.patterns : PreparedScope → List String
  | .repoGlobal => ["**"]
  | .exactPath path => path.toList
  | .subtree base => base.toList.map (· ++ "/**")
  | .generatedSet members => members

/-- `scope_patterns_for_subtask` (repoops.rs:400-412). -/
def scopePatternsForSubtask (reservations : List ReservationRow) (subtaskId : SubtaskId) :
    List String :=
  sortDedupStrings ((reservations.filter fun r => r.ownerSubtaskId = subtaskId).flatMap fun r =>
    (PreparedScope.fromReservation r).patterns)

/-- `PreparedReservationIndex` (repoops.rs:273-277); the map from paths is a list of entries. -/
structure PreparedReservationIndex where
  repoGlobal : List ReservationRow
  exactPaths : List (String × ReservationRow)
  subtrees : List (String × ReservationRow)

/-- `PreparedReservationIndex::from_prepared` (repoops.rs:344-378). -/
def PreparedReservationIndex.fromPrepared (reservations : List ReservationRow) :
    PreparedReservationIndex where
  repoGlobal := reservations.filter fun r =>
    match PreparedScope.fromReservation r with
    | .repoGlobal => true
    | _ => false
  exactPaths := reservations.flatMap fun r =>
    match PreparedScope.fromReservation r with
    | .exactPath (some path) => [(path, r)]
    | .generatedSet members => members.map fun path => (path, r)
    | _ => []
  subtrees := reservations.flatMap fun r =>
    match PreparedScope.fromReservation r with
    | .subtree (some base) => [(base, r)]
    | _ => []

/-- `PreparedSubtreeScope::covers_path` (repoops.rs:337-339). -/
def subtreeCovers (base path : String) : Prop :=
  path = base ∨ (base ++ "/").toList <+: path.toList

instance (base path : String) : Decidable (subtreeCovers base path) :=
  inferInstanceAs (Decidable (_ ∨ _))

/-- `matching_reservations` (repoops.rs:380-398). -/
def PreparedReservationIndex.matching (index : PreparedReservationIndex) (path : String) :
    List ReservationRow :=
  index.repoGlobal ++ (index.exactPaths.filter fun entry => entry.1 = path).map Prod.snd ++
    (index.subtrees.filter fun entry => subtreeCovers entry.1 path).map Prod.snd

/-! ## The snapshot -/

/-- A lock of `lock_facts_for_prepared_paths` (repoops.rs:444-458). -/
def lockFact (claim : ClaimRow) (session : SessionRow) (path : String) (r : ReservationRow) :
    Except CoveyError RepoopsAuthorityLockFact :=
  if r.ownerSubtaskId = claim.subtaskId then do
    let claimId ← repoopsClaimRef claim.claimId.val
    observed (repoopsAuthorityLock path session.agentPrincipalId.val claimId .owned)
  else do
    let claimId ← repoopsClaimRef ("unknown:" ++ r.ownerSubtaskId.val)
    observed (repoopsAuthorityLock path ("subtask:" ++ r.ownerSubtaskId.val) claimId .foreignOwner)

/-- The order of locks: by path, owner and claim (repoops.rs:462-468). -/
def RepoopsAuthorityLockFact.le (a b : RepoopsAuthorityLockFact) : Prop :=
  a.path < b.path ∨ a.path = b.path ∧
    (a.owner < b.owner ∨ a.owner = b.owner ∧ a.claimId.val ≤ b.claimId.val)

instance (a b : RepoopsAuthorityLockFact) : Decidable (a.le b) :=
  inferInstanceAs (Decidable (_ ∨ _ ∧ (_ ∨ _ ∧ _)))

/-- `lock_facts_for_prepared_paths` (repoops.rs:434-471). -/
def lockFactsForPreparedPaths (paths : List String) (reservations : List ReservationRow)
    (claim : ClaimRow) (session : SessionRow) :
    Except CoveyError (List RepoopsAuthorityLockFact) := do
  let index := PreparedReservationIndex.fromPrepared reservations
  let locks ← (paths.flatMap fun path => (index.matching path).map fun r => (path, r)).mapM
    fun (path, r) => lockFact claim session path r
  return (locks.insertionSort RepoopsAuthorityLockFact.le).dedup

/-- `ownership_token_ref` (repoops.rs:173-181), which panics on a text that is no token. -/
def ownershipTokenRef (env : Env) (sessionToken : SessionToken) : Except CoveyError SessionToken :=
  match Text.parse .sessionToken
      ("covey-session-token-blake3:" ++ env.blake3Hex sessionToken.val) with
  | .ok token => .ok token
  | .error _ => panicked "blake3-derived ownership token ref should be token-safe"

/-- `repoops_authority_snapshot` (repoops.rs:29-106). -/
def repoopsAuthoritySnapshot (env : Env) (req : RepoopsAuthoritySnapshotReq) (now : ℤ) :
    Txn RepoopsAuthoritySnapshot := do
  let claim ← requireCurrentClaim req.sessionToken req.claimId req.fenceSeq now
  let subtask ← loadSubtask claim.subtaskId
  let session ← loadSession req.sessionToken
  let paths := normalizeRequestedPaths req.paths
  let found ← loadRepoopsRelevantReservations now claim.subtaskId paths
  let s ← Tx.get
  let reservations := retainLiveReservations s found claim.subtaskId
  let scopeIn := scopePatternsForSubtask reservations claim.subtaskId
  observed (parseRepoopsScopePatterns "scope.in" [] scopeIn)
  let locks ← lockFactsForPreparedPaths paths reservations claim session
  let callerOwnershipToken ← ownershipTokenRef env req.sessionToken
  let activeOwnershipToken ← ownershipTokenRef env claim.ownerSessionToken
  let factSources := ["session_token_ref:" ++ callerOwnershipToken.val,
    "claim:" ++ req.claimId.val, "subtask:" ++ claim.subtaskId.val, "reservations:active",
    "claims.owner_session_token:token_ref"]
  let claimFact ← observed (repoopsAuthorityClaim
    { claimId := claim.claimId
      owner := session.agentPrincipalId
      scopeIn := scopeIn
      scopeOut := []
      hasRequiredContractFields := !scopeIn.isEmpty
      lifecycle := if subtask.state = .inProgress then .inProgress activeOwnershipToken else .open })
  observed (parseRepoopsFactSources [] factSources)
  observed (validateRepoopsAuthorityLocks claimFact.claimId claimFact.owner locks)
  return { schemaVersion := "covey_repoops_authority_snapshot.v1"
           agentId := session.agentPrincipalId
           claimId := claimFact.claimId
           ownershipToken := callerOwnershipToken
           claim := claimFact
           policy := .enforce
           scopeIn := scopeIn
           scopeOut := []
           locks := locks
           gitContext := some (.unknown true)
           factSources := factSources }

end Covey

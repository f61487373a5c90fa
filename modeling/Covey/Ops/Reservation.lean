import Covey.Ops.Session

/-!
# Reservations and overlaps

Model of `src/ops/reservation.rs` and `src/overlap.rs`: advisory reservations of
paths, the conflicts recorded when two of them overlap, and their resolution.

SQLite compares text by bytes and Lean compares strings by code points; for UTF-8
the two orders are the same.
-/

namespace Covey

/-! ## Paths -/

/-- The loop of `normalize_relative_repo_path` (overlap.rs:134-147) over the components; `kept`
    holds those kept so far, the last one first. -/
def normalizeComponents (kept : List (List Char)) :
    List (List Char) → Option (List (List Char))
  | [] => some kept.reverse
  | part :: rest =>
    if part = [] ∨ part = ['.'] then normalizeComponents kept rest
    else if part = ['.', '.'] then
      match kept with
      | [] => none
      | _ :: kept => normalizeComponents kept rest
    else normalizeComponents (part :: kept) rest

/-- `path.len() >= 2 && path.as_bytes()[1] == b':'`: the first character is one byte long. -/
def hasDrive : List Char → Bool
  | c :: ':' :: _ => c.utf8Size == 1
  | _ => false

/-- `normalize_relative_repo_path` (overlap.rs:107-156). -/
def normalizeRelativeRepoPath (raw : String) : Except CoveyError String :=
  let path := (trimChars raw.toList).map fun c => if c = '\\' then '/' else c
  if path = [] ∨ path.head? = some '/' ∨ "./../".toList.isPrefixOf path = true ∨
      path = "..".toList ∨ hasDrive path = true then
    .error (.invalidPath raw)
  else
    match normalizeComponents [] (splitChars '/' path) with
    | none | some [] => .error (.invalidPath raw)
    | some parts => .ok (String.ofList (['/'].intercalate parts))

/-- `normalize_scope_key` (overlap.rs:52-67). -/
def normalizeScopeKey (scopeClass : ScopeClass) (raw : String) : Except CoveyError String :=
  match scopeClass with
  | .repoGlobal => .ok "repo"
  | .generatedSet =>
    let trimmed := trimChars raw.toList
    if trimmed = [] then .error (.invalidPath raw) else .ok (String.ofList trimmed)
  | .exactPath | .subtree => normalizeRelativeRepoPath raw

/-- `normalize_generated_members` (overlap.rs:69-81), with `sorted_unique_ids`. -/
def normalizeGeneratedMembers (members : List String) : Except CoveyError (List String) := do
  let normalized ← members.mapM normalizeRelativeRepoPath
  return (normalized.insertionSort fun a b => a ≤ b).dedup

/-- `ensure_generated_member_count` (validators.rs:397-406). -/
def ensureGeneratedMemberCount (count : ℕ) : Except CoveyError Unit :=
  if count > 1024 then .error (.inputTooLarge "generated_members" count 1024) else .ok ()

/-- `ensure_reservation_scope_shape` (reservation.rs:449-479). -/
def ensureReservationScopeShape (scopeClass : ScopeClass) (scopeKey : String)
    (members : List String) : Except CoveyError Unit :=
  if blank scopeKey then .error (.invalidPath scopeKey)
  else if scopeClass = .generatedSet then
    if members.isEmpty then
      .error (.invalidPath "generated_set reservation requires generated_members")
    else .ok ()
  else if members.isEmpty then .ok ()
  else .error (.invalidPath
    (scopeClass.name ++ " reservation must not include generated_members"))

/-! ## Overlaps -/

/-- `lexicographic_prefix_upper_bound` (overlap.rs:548-558) on the reversed prefix. -/
def prefixUpperBound : List Char → Option String
  | [] => none
  | c :: before =>
    if (c.toNat + 1).isValidChar then
      some (String.ofList (before.reverse ++ [Char.ofNat (c.toNat + 1)]))
    else prefixUpperBound before

/-- The keys in the range of descendants of a path (overlap.rs:382-446). -/
def isUnder (path key : String) : Prop :=
  let descendants := path ++ "/"
  descendants ≤ key ∧ ∃ bound ∈ prefixUpperBound descendants.toList.reverse, key < bound

instance (path key : String) : Decidable (isUnder path key) := inferInstanceAs (Decidable (_ ∧ _))

/-- The loop of `path_ancestor_scope_keys` (overlap.rs:560-571) over the components, `current` being
    the ancestor reached. -/
def ancestorScopeKeys (current : List Char) : List (List Char) → List String
  | [] => []
  | component :: rest =>
    let next := if current = [] then component else current ++ '/' :: component
    String.ofList next :: ancestorScopeKeys next rest

/-- `path_ancestor_scope_keys` (overlap.rs:560-571): the path and the paths that contain it. -/
def pathAncestorScopeKeys (path : String) : List String :=
  ancestorScopeKeys [] (splitChars '/' path.toList)

/-- What the queries of `find_overlapping_reservations` (overlap.rs:90-105, 245-330, 448-540)
    look for together, among the live reservations. -/
def overlapsScope (scopeClass : ScopeClass) (scopeKey : String) (members : List String)
    (r : ReservationRow) : Prop :=
  match scopeClass with
  | .repoGlobal => True
  | .exactPath =>
    r.scopeClass = .repoGlobal ∨ (r.scopeClass = .exactPath ∧ r.scopeKey = scopeKey) ∨
    (r.scopeClass = .subtree ∧ r.scopeKey ∈ pathAncestorScopeKeys scopeKey) ∨
    (r.scopeClass = .generatedSet ∧ scopeKey ∈ r.generatedMembers)
  | .subtree =>
    r.scopeClass = .repoGlobal ∨
    (r.scopeClass = .exactPath ∧ (r.scopeKey = scopeKey ∨ isUnder scopeKey r.scopeKey)) ∨
    (r.scopeClass = .subtree ∧
      (r.scopeKey ∈ pathAncestorScopeKeys scopeKey ∨ isUnder scopeKey r.scopeKey)) ∨
    (r.scopeClass = .generatedSet ∧
      ∃ member ∈ r.generatedMembers, member = scopeKey ∨ isUnder scopeKey member)
  | .generatedSet =>
    r.scopeClass = .repoGlobal ∨ (r.scopeClass = .exactPath ∧ r.scopeKey ∈ members) ∨
    (r.scopeClass = .subtree ∧ ∃ member ∈ members, r.scopeKey ∈ pathAncestorScopeKeys member) ∨
    (r.scopeClass = .generatedSet ∧ ∃ member ∈ members, member ∈ r.generatedMembers)

instance (scopeClass : ScopeClass) (scopeKey : String) (members : List String)
    (r : ReservationRow) : Decidable (overlapsScope scopeClass scopeKey members r) := by
  unfold overlapsScope
  split <;> infer_instance

/-! ### Queries -/

/-- `SQL_IN_CHUNK_SIZE` (overlap.rs:16). -/
def sqlInChunkSize : ℕ := 500

/-- The bound of SQLite on the variables of a statement (`SQLITE_MAX_VARIABLE_NUMBER`). -/
def sqliteMaxVariableNumber : ℕ := 32766

/-- Preparing a statement with as many variables. -/
def prepareWith (count : ℕ) : Except CoveyError Unit :=
  if count ≤ sqliteMaxVariableNumber then .ok ()
  else .error (.databaseError "too many SQL variables")

/-- `slice::chunks`, with as many rounds as there are elements. -/
def chunksFrom {α : Type} (size : ℕ) : ℕ → List α → List (List α)
  | _, [] => []
  | 0, _ :: _ => []
  | rounds + 1, l@(_ :: _) => l.take size :: chunksFrom size rounds (l.drop size)

def chunks {α : Type} (size : ℕ) (l : List α) : List (List α) := chunksFrom size l.length l

/-- The ids of the live reservations with `p`. -/
def queryReservationIds (leaseNow : ℤ) (p : ReservationRow → Prop) [DecidablePred p] :
    Txn (List ReservationId) := do
  let found ← selectFrom Rel.reservations fun r =>
    r.state = .active ∧ leaseNow < r.leaseDeadline ∧ p r
  return found.map (·.reservationId)

/-- The ids of the live reservations with `p`, once for each member with `q`: the join of
    `reservation_generated_members` with `reservations`. -/
def queryMemberIds (leaseNow : ℤ) (p : ReservationRow → Prop) [DecidablePred p]
    (q : String → Prop) [DecidablePred q] : Txn (List ReservationId) := do
  let found ← selectFrom Rel.reservations fun r =>
    r.state = .active ∧ leaseNow < r.leaseDeadline ∧ p r
  return found.flatMap fun r => (r.generatedMembers.filter fun m => q m).map fun _ => r.reservationId

/-- `query_repo_global_ids_at` (overlap.rs:261-269). -/
def queryRepoGlobalIdsAt (leaseNow : ℤ) : Txn (List ReservationId) :=
  queryReservationIds leaseNow fun r => r.scopeClass = .repoGlobal

/-- `query_exact_path_ids_at` (overlap.rs:271-280). -/
def queryExactPathIdsAt (leaseNow : ℤ) (path : String) : Txn (List ReservationId) :=
  queryReservationIds leaseNow fun r => r.scopeClass = .exactPath ∧ r.scopeKey = path

/-- `query_containing_subtree_ids_at` (overlap.rs:282-305). -/
def queryContainingSubtreeIdsAt (leaseNow : ℤ) (path : String) : Txn (List ReservationId) := do
  let ancestors := pathAncestorScopeKeys path
  prepareWith (1 + ancestors.length)
  queryReservationIds leaseNow fun r => r.scopeClass = .subtree ∧ r.scopeKey ∈ ancestors

/-- `query_generated_member_ids_at` (overlap.rs:307-324). -/
def queryGeneratedMemberIdsAt (leaseNow : ℤ) (member : String) : Txn (List ReservationId) :=
  queryMemberIds leaseNow (fun r => r.scopeClass = .generatedSet) fun m => m = member

/-- `query_reservation_scope_ids_under_path_at` (overlap.rs:380-411). -/
def queryReservationScopeIdsUnderPathAt (leaseNow : ℤ) (scopeClass : ScopeClass) (path : String) :
    Txn (List ReservationId) :=
  queryReservationIds leaseNow fun r => r.scopeClass = scopeClass ∧ isUnder path r.scopeKey

/-- `query_generated_member_ids_in_descendant_range_at` (overlap.rs:413-442). -/
def queryGeneratedMemberIdsInDescendantRangeAt (leaseNow : ℤ) (path : String) :
    Txn (List ReservationId) :=
  queryMemberIds leaseNow (fun r => r.scopeClass = .generatedSet) fun m => isUnder path m

/-- `query_reservation_scope_ids_for_keys_at` (overlap.rs:488-526). -/
def queryReservationScopeIdsForKeysAt (leaseNow : ℤ) (scopeClass : ScopeClass)
    (keys : List String) : Txn (List ReservationId) := do
  let found ← Tx.mapEach (chunks sqlInChunkSize keys) fun chunk =>
    queryReservationIds leaseNow fun r => r.scopeClass = scopeClass ∧ r.scopeKey ∈ chunk
  return found.flatten

/-- `query_generated_member_ids_for_members` (overlap.rs:528-562). -/
def queryGeneratedMemberIdsForMembers (leaseNow : ℤ) (members : List String) :
    Txn (List ReservationId) := do
  let found ← Tx.mapEach (chunks sqlInChunkSize members) fun chunk =>
    queryMemberIds leaseNow (fun r => r.scopeClass = .generatedSet) fun m => m ∈ chunk
  return found.flatten

/-- `sort_unstable` and `dedup` on strings. -/
def sortDedupStrings (values : List String) : List String :=
  (values.insertionSort fun a b => a ≤ b).dedup

/-- The same on ids. -/
def sortDedupIds (ids : List ReservationId) : List ReservationId :=
  (ids.insertionSort fun a b => a.val ≤ b.val).dedup

/-- `sorted_unique_ids` (overlap.rs:709-716). -/
def sortedUniqueIds (ids : List ReservationId) : List ReservationId :=
  if ids.length ≤ 1 then ids else sortDedupIds ids

/-- `query_overlap_ids_for_exact` (overlap.rs:249-259). -/
def queryOverlapIdsForExact (leaseNow : ℤ) (path : String) : Txn (List ReservationId) := do
  let global ← queryRepoGlobalIdsAt leaseNow
  let exact ← queryExactPathIdsAt leaseNow path
  let containing ← queryContainingSubtreeIdsAt leaseNow path
  let generated ← queryGeneratedMemberIdsAt leaseNow path
  return sortedUniqueIds (global ++ exact ++ containing ++ generated)

/-- `query_overlap_ids_for_subtree` (overlap.rs:326-378), with the three queries it is made of. -/
def queryOverlapIdsForSubtree (leaseNow : ℤ) (subtree : String) : Txn (List ReservationId) := do
  let global ← queryRepoGlobalIdsAt leaseNow
  let exact ← queryExactPathIdsAt leaseNow subtree
  let exactUnder ← queryReservationScopeIdsUnderPathAt leaseNow .exactPath subtree
  let containing ← queryContainingSubtreeIdsAt leaseNow subtree
  let subtreesUnder ← queryReservationScopeIdsUnderPathAt leaseNow .subtree subtree
  let generated ← queryGeneratedMemberIdsAt leaseNow subtree
  let generatedUnder ← queryGeneratedMemberIdsInDescendantRangeAt leaseNow subtree
  return sortedUniqueIds (global ++ exact ++ exactUnder ++ containing ++ subtreesUnder ++
    generated ++ generatedUnder)

/-- `query_containing_subtree_ids_for_members_at` (overlap.rs:470-486). -/
def queryContainingSubtreeIdsForMembersAt (leaseNow : ℤ) (members : List String) :
    Txn (List ReservationId) :=
  queryReservationScopeIdsForKeysAt leaseNow .subtree
    (sortDedupStrings (members.flatMap pathAncestorScopeKeys))

/-- `query_overlap_ids_for_generated` (overlap.rs:444-468). -/
def queryOverlapIdsForGenerated (leaseNow : ℤ) (members : List String) :
    Txn (List ReservationId) := do
  let global ← queryRepoGlobalIdsAt leaseNow
  let exact ← queryReservationScopeIdsForKeysAt leaseNow .exactPath members
  let containing ← queryContainingSubtreeIdsForMembersAt leaseNow members
  let generated ← queryGeneratedMemberIdsForMembers leaseNow members
  return sortedUniqueIds (global ++ exact ++ containing ++ generated)

/-- The rows of a query `ORDER BY created_at ASC`, through the typed loader. -/
def loadReservations (rows : List ReservationRow) : Txn (List ReservationRow) :=
  Tx.mapEach (rows.insertionSort fun a b => a.createdAt ≤ b.createdAt) fun r => liftM r.load

/-- `load_active_reservations` (overlap.rs:598-622). -/
def loadActiveReservations (leaseNow : ℤ) : Txn (List ReservationRow) := do
  loadReservations (← selectFrom Rel.reservations fun r =>
    r.state = .active ∧ leaseNow < r.leaseDeadline)

/-- `load_reservations_by_ids` (overlap.rs:624-676): one variable for each id. -/
def loadReservationsByIds (ids : List ReservationId) : Txn (List ReservationRow) := do
  prepareWith ids.length
  loadReservations (← selectFrom Rel.reservations fun r => r.reservationId ∈ ids)

/-- The error of a panic, which rolls back like any other. -/
def panicked {α : Type} (message : String) : Except CoveyError α := .error (.databaseError message)

/-- `OverlapCandidate::new` (records.rs:5836-5843) panics on a scope that is no
    `ReservationScope`. -/
def overlapCandidate (scopeClass : ScopeClass) (scopeKey : String) (members : List String) :
    Except CoveyError Unit :=
  match checkReservationScope scopeClass scopeKey members with
  | none => .ok ()
  | some reason => panicked ("overlap candidate scope must be internally consistent: " ++ reason)

/-- `find_overlapping_reservations` (overlap.rs:90-107) at the current lease tick. -/
def findOverlappingReservations (scopeClass : ScopeClass) (scopeKey : String)
    (members : List String) : Txn (List ReservationRow) := do
  let leaseNow := (← Tx.get).leaseClock
  match scopeClass with
  | .repoGlobal => loadActiveReservations leaseNow
  | .exactPath => loadReservationsByIds (← queryOverlapIdsForExact leaseNow scopeKey)
  | .subtree => loadReservationsByIds (← queryOverlapIdsForSubtree leaseNow scopeKey)
  | .generatedSet => loadReservationsByIds (← queryOverlapIdsForGenerated leaseNow members)

/-- `ordered_pair` (overlap.rs:238-244). -/
def orderedPair (a b : ReservationId) : ReservationId × ReservationId :=
  if a.val ≤ b.val then (a, b) else (b, a)

/-- One round of `record_reservation_overlap_conflicts` (overlap.rs:158-199). Both scopes have
    passed `ReservationScope::from_parts`, so the payload is legal. -/
def recordReservationOverlapConflict (reservationId : ReservationId) (req : RequestReservationReq)
    (scopeKey : String) (now : ℤ) (overlap : ReservationRow) : Txn Unit := do
  let (left, right) := orderedPair reservationId overlap.reservationId
  let conflictId ← typed (Text.parse .conflictId
    ("conflict_reservation_overlap_" ++ left.val ++ "_" ++ right.val))
  let row : ConflictRow :=
    { conflictId := conflictId
      objectId := left
      reservationId := reservationId
      overlappingReservationId := overlap.reservationId
      ownerSubtaskId := req.ownerSubtaskId
      overlappingOwnerSubtaskId := overlap.ownerSubtaskId
      scopeClass := req.scope.scopeClass
      scopeKey := scopeKey
      overlappingScopeClass := overlap.scopeClass
      overlappingScopeKey := overlap.scopeKey
      detectedAt := now
      resolutionState := .opened }
  upsertInto Rel.conflicts row fun c => { row with objectId := c.objectId }

/-! ## Reservations -/

/-- `load_reservation_tx` (queries.rs:243-268). -/
def loadReservation (reservationId : ReservationId) : Txn ReservationRow :=
  load Rel.reservations ReservationRow.load .reservationNotFound reservationId

/-- `request_reservation` (reservation.rs:30-116). -/
def requestReservation (req : RequestReservationReq) (now : ℤ) : Txn Response :=
  leasedMutation req.sessionToken.val "request_reservation" req.idempotencyKey
    (.requestReservation req) now fun leaseNow => do
    let _ ← requireRole req.sessionToken [.orchestrator]
    ensureLength "owner_subtask_id" req.ownerSubtaskId.val 256
    let _ ← loadSubtask req.ownerSubtaskId
    ensureGeneratedMemberCount req.scope.generatedMembers.length
    let scopeKey ← normalizeScopeKey req.scope.scopeClass req.scope.scopeKey
    ensureLength "reservation_scope_key" scopeKey 4096
    let members ← normalizeGeneratedMembers req.scope.generatedMembers
    ensureReservationScopeShape req.scope.scopeClass scopeKey members
    Tx.forEach members fun member => liftM (ensureLength "generated_member" member 4096)
    overlapCandidate req.scope.scopeClass scopeKey members
    let overlaps ← findOverlappingReservations req.scope.scopeClass scopeKey members
    let reservationId ← freshId .reservationId "reservation"
    insertInto Rel.reservations
      { reservationId := reservationId
        ownerSubtaskId := req.ownerSubtaskId
        scopeClass := req.scope.scopeClass
        scopeKey := scopeKey
        generatedMembers := members
        leaseDeadline := addI64 leaseNow req.leaseDurationMs.val
        state := .active
        createdAt := now
        updatedAt := now }
    Tx.forEach overlaps (recordReservationOverlapConflict reservationId req scopeKey now)
    appendSessionEvent .reservationRequested .reservation reservationId.val req.sessionToken now
    return .id reservationId.val

/-- `ensure_reservation_transition` (validators.rs:549-559). -/
def ensureReservationTransition (source target : ReservationState) : Except CoveyError Unit :=
  ensureTransition (.reservation source) (.reservation target) .reservation
    (source = .active ∧ (target = .released ∨ target = .expired))

/-- `release_reservation` (reservation.rs:119-194). The released reservation is rebuilt for the
    event, which panics if it is older than its creation. -/
def releaseReservation (req : ReleaseReservationReq) (now : ℤ) : Txn Response :=
  mutation req.sessionToken.val "release_reservation" req.idempotencyKey
    (.releaseReservation req) now do
    let _ ← requireRole req.sessionToken [.orchestrator]
    ensureLength "reservation_id" req.reservationId.val 256
    let reservation ← loadReservation req.reservationId
    ensureReservationTransition reservation.state .released
    let updated ← updateIn Rel.reservations
      (fun r => r.reservationId = req.reservationId ∧ r.state = .active) fun r =>
      { r with state := .released, updatedAt := now }
    Tx.ensure (updated = 1)
      (.illegalTransition (.reservation reservation.state) (.reservation .released) .reservation)
    resolveReservationOverlapConflicts req.reservationId now
    let released := { reservation with state := .released, updatedAt := now }
    Tx.ensure (reservation.createdAt ≤ now)
      (.databaseError "existing reservation scope remains valid after release")
    appendSessionEvent .reservationReleased .reservation released.reservationId.val
      req.sessionToken now
    return .unit

/-- `renew_reservation` (reservation.rs:197-287); the request's type makes
    `ensure_positive_lease_duration` true. -/
def renewReservation (req : RenewReservationReq) (now : ℤ) : Txn Response :=
  leasedMutation req.sessionToken.val "renew_reservation" req.idempotencyKey
    (.renewReservation req) now fun leaseNow => do
    let _ ← requireRole req.sessionToken [.orchestrator]
    ensureLength "reservation_id" req.reservationId.val 256
    let reservation ← loadReservation req.reservationId
    Tx.ensure (reservation.state = .active)
      (.illegalTransition (.reservation reservation.state) (.reservation .active) .reservation)
    Tx.ensure (leaseNow < reservation.leaseDeadline) (.leaseExpired reservation.reservationId.val)
    let renewedDeadline := addI64 (max reservation.leaseDeadline leaseNow) req.extendByMs.val
    let updated ← updateIn Rel.reservations
      (fun r => r.reservationId = req.reservationId ∧ r.state = .active) fun r =>
      { r with leaseDeadline := renewedDeadline, updatedAt := now }
    Tx.ensure (updated = 1) (.illegalTransition (.reservation reservation.state)
      (.reservation reservation.state) .reservation)
    Tx.ensure (0 ≤ renewedDeadline)
      (.databaseError "renewed lease deadlines are non-negative")
    Tx.ensure (reservation.createdAt ≤ now)
      (.databaseError "existing reservation scope remains valid after renewal")
    let renewed := { reservation with leaseDeadline := renewedDeadline, updatedAt := now }
    appendSessionEvent .reservationRenewed .reservation renewed.reservationId.val
      req.sessionToken now
    return .reservation renewed

/-! ## Conflicts -/

/-- `ensure_conflict_resolution_transition` (validators.rs:523-547). -/
def ensureConflictResolutionTransition (source target : ConflictResolutionState) :
    Except CoveyError Unit :=
  ensureTransition (.conflictResolution source) (.conflictResolution target) .conflict
    ((source = .opened ∧ target ≠ .opened) ∨ (source = .acknowledged ∧ target ≠ .opened) ∨
      (source = .resolved ∧ target = .resolved))

/-- `resolve_conflict` (reservation.rs:382-440). -/
def resolveConflict (req : ResolveConflictReq) (now : ℤ) : Txn Response :=
  mutation req.sessionToken.val "resolve_conflict" req.idempotencyKey (.resolveConflict req) now do
    let _ ← requireRole req.sessionToken [.orchestrator]
    let conflict ← load Rel.conflicts .ok .conflictNotFound req.conflictId
    ensureConflictResolutionTransition conflict.resolutionState req.resolutionState
    let updated ← updateIn Rel.conflicts (fun c => c.conflictId = req.conflictId ∧
        c.resolutionState = conflict.resolutionState) fun c =>
      { c with resolutionState := req.resolutionState }
    Tx.ensure (updated ≠ 0) (.illegalTransition (.conflictResolution conflict.resolutionState)
      (.conflictResolution req.resolutionState) .conflict)
    appendSessionEvent .conflictResolved .conflict req.conflictId.val req.sessionToken now
    return .unit

end Covey

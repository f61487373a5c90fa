import Covey.Lib.Tx
import Covey.Model.Requests

/-!
# The store and its transactions

The state of the store is one table per SQLite table, the event log, the lease
clock and the UUIDs the generator returns next. `Txn α` is the body of a write
transaction (`with_write_tx`, store.rs:99-113).

* `appendEvent`: `append_event` (schema.rs:158-208).
* `advanceLeaseClock`: `advance_lease_clock` (schema.rs:143-156).
* `withIdempotentMutation`: store.rs:185-232.
* `mutation`, `leasedMutation`: the two shapes in which the operations enter it.
-/

namespace Covey

open Relational

/-- A row of `event_log`. The payload is the serialized request or record; no modelled
    function reads it back, so only the other columns are kept. A missing actor is the
    system. -/
structure EventRow where
  eventType : EventType
  objectType : ObjectType
  objectId : String
  actor : Option SessionToken
  createdAt : ℤ

structure IdempotencyRow where
  actorKey : String
  operation : String
  idempotencyKey : String
  request : Request
  response : Response
  createdAt : ℤ

/-- `mutation_idempotency`. -/
def idempotencySchema : Schema (String × String × String) IdempotencyRow where
  key r := (r.actorKey, r.operation, r.idempotencyKey)

/-- The state of the store. `uuids` lists what the UUID generator returns in this call. -/
structure Db where
  sessions : Table sessionSchema
  runtimeAttestations : Table runtimeAttestationSchema
  metaTasks : Table metaTaskSchema
  subtasks : Table subtaskSchema
  fenceCounters : Table fenceCounterSchema
  dependencies : Table dependencySchema
  claims : Table claimSchema
  attemptOutcomes : Table attemptOutcomeSchema
  artifacts : Table artifactSchema
  reviews : Table reviewSchema
  reviewFollowups : Table reviewFollowupSchema
  permissiveLandingReceipts : Table permissiveLandingReceiptSchema
  readyQueue : Table readyQueueSchema
  applyVerifications : Table applyVerificationSchema
  applyGateBlockers : Table applyGateBlockerSchema
  settlementReconcileBlockers : Table settlementReconcileBlockerSchema
  applyWorktrees : Table applyWorktreeSchema
  landingReceipts : Table landingReceiptSchema
  subtaskScopes : Table subtaskScopeSchema
  openSpecArchiveStatus : Table openSpecArchiveStatusSchema
  cleanupClaims : Table cleanupClaimSchema
  reservations : Table reservationSchema
  conflicts : Table conflictSchema
  importProvenance : Table importProvenanceSchema
  proseTasksets : Table proseTasksetSchema
  proseSubtaskScopes : Table proseSubtaskScopeSchema
  operatorBlockers : Table operatorBlockerSchema
  proseApplyBlockers : Table proseApplyBlockerSchema
  vcsWorkspaces : Table vcsWorkspaceSchema
  vcsPacketStackEntries : Table vcsPacketStackEntrySchema
  vcsPrPublications : Table vcsPrPublicationSchema
  idempotency : Table idempotencySchema
  events : List EventRow
  leaseClock : ℤ
  uuids : ℕ → Uuid

/-- The store after the migrations. -/
def Db.init : Db where
  sessions := .empty _
  runtimeAttestations := .empty _
  metaTasks := .empty _
  subtasks := .empty _
  fenceCounters := .empty _
  dependencies := .empty _
  claims := .empty _
  attemptOutcomes := .empty _
  artifacts := .empty _
  reviews := .empty _
  reviewFollowups := .empty _
  permissiveLandingReceipts := .empty _
  readyQueue := .empty _
  applyVerifications := .empty _
  applyGateBlockers := .empty _
  settlementReconcileBlockers := .empty _
  applyWorktrees := .empty _
  landingReceipts := .empty _
  subtaskScopes := .empty _
  openSpecArchiveStatus := .empty _
  cleanupClaims := .empty _
  reservations := .empty _
  conflicts := .empty _
  importProvenance := .empty _
  proseTasksets := .empty _
  proseSubtaskScopes := .empty _
  operatorBlockers := .empty _
  proseApplyBlockers := .empty _
  vcsWorkspaces := .empty _
  vcsPacketStackEntries := .empty _
  vcsPrPublications := .empty _
  idempotency := .empty _
  events := []
  leaseClock := 0
  uuids := fun _ => 0

/-- The body of a write transaction. -/
abbrev Txn (α : Type) := Tx Db CoveyError α

/-! ## Tables as fields of the state -/

namespace Rel

def sessions : Tx.Field Db sessionSchema := ⟨Db.sessions, fun s t => { s with sessions := t }⟩
def runtimeAttestations : Tx.Field Db runtimeAttestationSchema :=
  ⟨Db.runtimeAttestations, fun s t => { s with runtimeAttestations := t }⟩
def metaTasks : Tx.Field Db metaTaskSchema := ⟨Db.metaTasks, fun s t => { s with metaTasks := t }⟩
def subtasks : Tx.Field Db subtaskSchema := ⟨Db.subtasks, fun s t => { s with subtasks := t }⟩
def fenceCounters : Tx.Field Db fenceCounterSchema :=
  ⟨Db.fenceCounters, fun s t => { s with fenceCounters := t }⟩
def dependencies : Tx.Field Db dependencySchema :=
  ⟨Db.dependencies, fun s t => { s with dependencies := t }⟩
def claims : Tx.Field Db claimSchema := ⟨Db.claims, fun s t => { s with claims := t }⟩
def attemptOutcomes : Tx.Field Db attemptOutcomeSchema :=
  ⟨Db.attemptOutcomes, fun s t => { s with attemptOutcomes := t }⟩
def artifacts : Tx.Field Db artifactSchema := ⟨Db.artifacts, fun s t => { s with artifacts := t }⟩
def reviews : Tx.Field Db reviewSchema := ⟨Db.reviews, fun s t => { s with reviews := t }⟩
def reviewFollowups : Tx.Field Db reviewFollowupSchema :=
  ⟨Db.reviewFollowups, fun s t => { s with reviewFollowups := t }⟩
def permissiveLandingReceipts : Tx.Field Db permissiveLandingReceiptSchema :=
  ⟨Db.permissiveLandingReceipts, fun s t => { s with permissiveLandingReceipts := t }⟩
def readyQueue : Tx.Field Db readyQueueSchema :=
  ⟨Db.readyQueue, fun s t => { s with readyQueue := t }⟩
def applyVerifications : Tx.Field Db applyVerificationSchema :=
  ⟨Db.applyVerifications, fun s t => { s with applyVerifications := t }⟩
def applyGateBlockers : Tx.Field Db applyGateBlockerSchema :=
  ⟨Db.applyGateBlockers, fun s t => { s with applyGateBlockers := t }⟩
def settlementReconcileBlockers : Tx.Field Db settlementReconcileBlockerSchema :=
  ⟨Db.settlementReconcileBlockers, fun s t => { s with settlementReconcileBlockers := t }⟩
def applyWorktrees : Tx.Field Db applyWorktreeSchema :=
  ⟨Db.applyWorktrees, fun s t => { s with applyWorktrees := t }⟩
def landingReceipts : Tx.Field Db landingReceiptSchema :=
  ⟨Db.landingReceipts, fun s t => { s with landingReceipts := t }⟩
def subtaskScopes : Tx.Field Db subtaskScopeSchema :=
  ⟨Db.subtaskScopes, fun s t => { s with subtaskScopes := t }⟩
def openSpecArchiveStatus : Tx.Field Db openSpecArchiveStatusSchema :=
  ⟨Db.openSpecArchiveStatus, fun s t => { s with openSpecArchiveStatus := t }⟩
def cleanupClaims : Tx.Field Db cleanupClaimSchema :=
  ⟨Db.cleanupClaims, fun s t => { s with cleanupClaims := t }⟩
def reservations : Tx.Field Db reservationSchema :=
  ⟨Db.reservations, fun s t => { s with reservations := t }⟩
def conflicts : Tx.Field Db conflictSchema := ⟨Db.conflicts, fun s t => { s with conflicts := t }⟩
def importProvenance : Tx.Field Db importProvenanceSchema :=
  ⟨Db.importProvenance, fun s t => { s with importProvenance := t }⟩
def proseTasksets : Tx.Field Db proseTasksetSchema :=
  ⟨Db.proseTasksets, fun s t => { s with proseTasksets := t }⟩
def proseSubtaskScopes : Tx.Field Db proseSubtaskScopeSchema :=
  ⟨Db.proseSubtaskScopes, fun s t => { s with proseSubtaskScopes := t }⟩
def operatorBlockers : Tx.Field Db operatorBlockerSchema :=
  ⟨Db.operatorBlockers, fun s t => { s with operatorBlockers := t }⟩
def proseApplyBlockers : Tx.Field Db proseApplyBlockerSchema :=
  ⟨Db.proseApplyBlockers, fun s t => { s with proseApplyBlockers := t }⟩
def vcsWorkspaces : Tx.Field Db vcsWorkspaceSchema :=
  ⟨Db.vcsWorkspaces, fun s t => { s with vcsWorkspaces := t }⟩
def vcsPacketStackEntries : Tx.Field Db vcsPacketStackEntrySchema :=
  ⟨Db.vcsPacketStackEntries, fun s t => { s with vcsPacketStackEntries := t }⟩
def vcsPrPublications : Tx.Field Db vcsPrPublicationSchema :=
  ⟨Db.vcsPrPublications, fun s t => { s with vcsPrPublications := t }⟩
def idempotency : Tx.Field Db idempotencySchema :=
  ⟨Db.idempotency, fun s t => { s with idempotency := t }⟩

end Rel

/-! ## Statements -/

section Statements

variable {κ ρ : Type} [DecidableEq κ] {S : Schema κ ρ}

/-- `INSERT INTO T`. -/
def insertInto (T : Tx.Field Db S) (r : ρ) : Txn Unit := Tx.insert constraintViolation T r

/-- `UPDATE T SET f WHERE p`, returning the number of rows changed. -/
def updateIn (T : Tx.Field Db S) (p : ρ → Prop) [DecidablePred p] (f : ρ → ρ) : Txn ℕ :=
  Tx.update constraintViolation T p f

/-- `SELECT … FROM T` by primary key. -/
def lookup (T : Tx.Field Db S) (k : κ) : Txn (Option ρ) := do
  return (T.get (← Tx.get)).get? k

/-- `SELECT … FROM T WHERE p`, in insertion order. -/
def selectFrom (T : Tx.Field Db S) (p : ρ → Prop) [DecidablePred p] : Txn (List ρ) := do
  return (T.get (← Tx.get)).select p

/-- `INSERT INTO T … ON CONFLICT (key) DO UPDATE SET f`. -/
def upsertInto (T : Tx.Field Db S) (r : ρ) (f : ρ → ρ) : Txn Unit := do
  match ← lookup T (S.key r) with
  | none => insertInto T r
  | some _ =>
    let _ ← updateIn T (fun r' => S.key r' = S.key r) f

/-- Loads a row by primary key through its typed loader. -/
def load (T : Tx.Field Db S) (typedRow : ρ → Except CoveyError ρ) (notFound : CoveyError) (k : κ) :
    Txn ρ := do
  match ← lookup T k with
  | some r => typedRow r
  | none => Tx.fail notFound

variable {T : Tx.Field Db S} {s s' : Db}

@[simp] theorem insertInto_ok {r : ρ} {u : Unit} :
    insertInto T r s = (.ok u, s') ↔ ∃ t, (T.get s).insert r = some t ∧ T.set s t = s' :=
  Tx.insert_ok

@[simp] theorem updateIn_ok {p : ρ → Prop} [DecidablePred p] {f : ρ → ρ} {n : ℕ} :
    updateIn T p f s = (.ok n, s') ↔
      ∃ t, (T.get s).update p f = some t ∧ (T.get s).count p = n ∧ T.set s t = s' :=
  Tx.update_ok

@[simp] theorem lookup_ok {k : κ} {r : Option ρ} :
    lookup T k s = (.ok r, s') ↔ (T.get s).get? k = r ∧ s = s' := by
  simp [lookup, and_comm]

@[simp] theorem selectFrom_ok {p : ρ → Prop} [DecidablePred p] {rows : List ρ} :
    selectFrom T p s = (.ok rows, s') ↔ (T.get s).select p = rows ∧ s = s' := by
  simp [selectFrom, and_comm]

@[simp] theorem load_ok {typedRow : ρ → Except CoveyError ρ} {notFound : CoveyError} {k : κ}
    {r : ρ} :
    load T typedRow notFound k s = (.ok r, s') ↔
      ∃ row, (T.get s).get? k = some row ∧ typedRow row = .ok r ∧ s = s' := by
  unfold load
  simp only [Tx.bind_ok, lookup_ok]
  constructor
  · rintro ⟨found, s₁, ⟨hfound, rfl⟩, h⟩
    cases found with
    | none => simp at h
    | some row => exact ⟨row, hfound, by simpa using h⟩
  · rintro ⟨row, hrow, h⟩
    exact ⟨some row, s, ⟨hrow, rfl⟩, by simpa using h⟩

/-- `INSERT` seen through lookups. -/
theorem insertInto_get? {r : ρ} {u : Unit} (h : insertInto T r s = (.ok u, s')) :
    (T.get s).get? (S.key r) = none ∧
      ∃ t, s' = T.set s t ∧ t.get? = put (T.get s).get? (S.key r) r := by
  obtain ⟨t, ht, rfl⟩ := insertInto_ok.mp h
  exact ⟨Table.get?_of_insert_none ht, t, rfl, Table.get?_insert_put ht⟩

/-- `UPDATE` of the row with one key seen through lookups. -/
theorem updateIn_get? {k : κ} {q : ρ → Prop} [DecidablePred q] {f : ρ → ρ} {n : ℕ}
    (h : updateIn T (fun r => S.key r = k ∧ q r) f s = (.ok n, s'))
    (hf : ∀ r, S.key (f r) = S.key r) :
    (n ≠ 0 → ∃ r, (T.get s).get? k = some r ∧ q r) ∧
      ∃ t, s' = T.set s t ∧
        t.get? = modify (T.get s).get? k fun r => if q r then f r else r := by
  obtain ⟨t, ht, hn, rfl⟩ := updateIn_ok.mp h
  exact ⟨fun hne => Table.count_key_pos.mp (hn ▸ hne), t, rfl, Table.get?_update_at ht hf⟩

/-- `UPDATE` of any number of rows seen through lookups. -/
theorem updateIn_map {p : ρ → Prop} [DecidablePred p] {f : ρ → ρ} {n : ℕ}
    (h : updateIn T p f s = (.ok n, s')) (hf : ∀ r, p r → S.key (f r) = S.key r) :
    ∃ t, s' = T.set s t ∧
      t.get? = fun k => ((T.get s).get? k).map fun r => if p r then f r else r := by
  obtain ⟨t, ht, -, rfl⟩ := updateIn_ok.mp h
  exact ⟨t, rfl, funext fun k => Table.get?_update ht hf k⟩

/-- The usual case: the loader accepts a row as it is or rejects it. -/
theorem load_val_ok {typedRow : ρ → Except CoveyError ρ}
    (hval : ∀ {r r'}, typedRow r = .ok r' → r' = r) {notFound : CoveyError} {k : κ} {r : ρ} :
    load T typedRow notFound k s = (.ok r, s') ↔
      ((T.get s).get? k = some r ∧ typedRow r = .ok r) ∧ s = s' := by
  rw [load_ok]
  constructor
  · rintro ⟨row, hrow, hload, hs⟩
    obtain rfl := hval hload
    exact ⟨⟨hrow, hload⟩, hs⟩
  · rintro ⟨⟨hrow, hload⟩, hs⟩
    exact ⟨r, hrow, hload, hs⟩

/-! ### Frames -/

/-- The two stores agree under `π`. -/
def Agree {γ : Type} (π : Db → γ) (s s' : Db) : Prop := π s' = π s

instance {γ : Type} {π : Db → γ} : Std.Refl (Agree π) := ⟨fun _ => rfl⟩

instance {γ : Type} {π : Db → γ} : IsTrans Db (Agree π) := ⟨fun _ _ _ h h' => Eq.trans h' h⟩

variable {γ : Type} {π : Db → γ}

theorem insertInto_agree (hT : ∀ s t, π (T.set s t) = π s) (r : ρ) :
    Tx.Keeps (Agree π) (insertInto T r) := by
  intro s _ s' h
  obtain ⟨t, -, rfl⟩ := insertInto_ok.mp h
  exact hT s t

theorem updateIn_agree (hT : ∀ s t, π (T.set s t) = π s) (p : ρ → Prop) [DecidablePred p]
    (f : ρ → ρ) : Tx.Keeps (Agree π) (updateIn T p f) := by
  intro s _ s' h
  obtain ⟨t, -, -, rfl⟩ := updateIn_ok.mp h
  exact hT s t

theorem upsertInto_agree (hT : ∀ s t, π (T.set s t) = π s) (r : ρ) (f : ρ → ρ) :
    Tx.Keeps (Agree π) (upsertInto T r f) := by
  refine .bind ?_ fun found => ?_
  · intro s _ s' h
    obtain ⟨-, rfl⟩ := lookup_ok.mp h
    rfl
  · cases found with
    | none => exact insertInto_agree hT r
    | some _ => exact .bind (updateIn_agree hT _ f) fun _ => .pure _

theorem agree_of_readOnly {α : Type} {x : Txn α} (hx : x.ReadOnly) : Tx.Keeps (Agree π) x := by
  intro s a s' h
  obtain rfl := hx.state h
  rfl

theorem lookup_readOnly {k : κ} : (lookup T k).ReadOnly :=
  .bind .get fun _ => .pure _

theorem selectFrom_readOnly {p : ρ → Prop} [DecidablePred p] : (selectFrom T p).ReadOnly :=
  .bind .get fun _ => .pure _

theorem load_readOnly {typedRow : ρ → Except CoveyError ρ} {notFound : CoveyError} {k : κ} :
    (load T typedRow notFound k).ReadOnly := by
  refine .bind lookup_readOnly fun found => ?_
  cases found with
  | none => exact .fail _
  | some r => exact .lift _

end Statements

/-! ## Clock, ids, events -/

/-- `advance_lease_clock` (schema.rs:143-156). -/
def advanceLeaseClock (wallNow : ℤ) : Txn ℤ := do
  Tx.modify fun s => { s with leaseClock := max s.leaseClock (max wallNow 0) }
  return (← Tx.get).leaseClock

@[simp] theorem advanceLeaseClock_ok {wallNow leaseNow : ℤ} {s s' : Db} :
    advanceLeaseClock wallNow s = (.ok leaseNow, s') ↔
      leaseNow = max s.leaseClock (max wallNow 0) ∧ s' = { s with leaseClock := leaseNow } := by
  simp only [advanceLeaseClock, Tx.bind_ok, Tx.modify_ok, Tx.get_ok, Tx.pure_ok]
  constructor
  · rintro ⟨_, _, rfl, _, _, ⟨rfl, rfl⟩, rfl, rfl⟩
    exact ⟨rfl, rfl⟩
  · rintro ⟨rfl, rfl⟩
    exact ⟨(), _, rfl, _, _, ⟨rfl, rfl⟩, rfl, rfl⟩

/-- `make_id` (helpers.rs:4-6), parsed as a newtype. -/
def freshId (f : ScalarField) (stem : String) : Txn (Text f) := do
  let s ← Tx.get
  Tx.modify fun s => { s with uuids := fun n => s.uuids (n + 1) }
  typed (makeId f stem (s.uuids 0))

@[simp] theorem freshId_ok {f : ScalarField} {stem : String} {id : Text f} {s s' : Db} :
    freshId f stem s = (.ok id, s') ↔
      makeId f stem (s.uuids 0) = .ok id ∧ s' = { s with uuids := fun n => s.uuids (n + 1) } := by
  simp only [freshId, Tx.bind_ok, Tx.modify_ok, Tx.get_ok, Tx.lift_ok, typed_ok]
  constructor
  · rintro ⟨_, _, ⟨rfl, rfl⟩, _, _, rfl, h, rfl⟩
    exact ⟨h, rfl⟩
  · rintro ⟨h, rfl⟩
    exact ⟨_, _, ⟨rfl, rfl⟩, (), _, rfl, h, rfl⟩

/-- `append_event` (schema.rs:158-208): the event must name a well-formed object. -/
def appendEvent (eventType : EventType) (objectType : ObjectType) (objectId : String)
    (actor : Option SessionToken) (now : ℤ) : Txn Unit := do
  let createdAt ← typed (TimestampMs.parse now)
  match Text.parse .eventObjectId objectId with
  | .error e => Tx.fail (.invalidEventShape e.reason)
  | .ok _ =>
    Tx.modify fun s =>
      { s with events := s.events ++ [⟨eventType, objectType, objectId, actor, createdAt⟩] }

@[simp] theorem appendEvent_ok {eventType : EventType} {objectType : ObjectType} {objectId : String}
    {actor : Option SessionToken} {now : ℤ} {s s' : Db} {u : Unit} :
    appendEvent eventType objectType objectId actor now s = (.ok u, s') ↔
      0 ≤ now ∧ ScalarField.eventObjectId.validator objectId = none ∧
      s' = { s with events := s.events ++ [⟨eventType, objectType, objectId, actor, now⟩] } := by
  simp only [appendEvent, Tx.bind_ok, Tx.lift_ok, typed_ok, TimestampMs.parse_ok]
  constructor
  · rintro ⟨_, _, ⟨⟨hnow, rfl⟩, rfl⟩, h⟩
    cases ht : Text.parse .eventObjectId objectId with
    | error e => simp [ht] at h
    | ok t =>
      simp only [ht, Tx.modify_ok] at h
      exact ⟨hnow, Text.parse_ok.mp ht ▸ t.ok, h.symm⟩
  · rintro ⟨hnow, hid, rfl⟩
    refine ⟨now, s, ⟨⟨hnow, rfl⟩, rfl⟩, ?_⟩
    have : Text.parse .eventObjectId objectId = .ok ⟨objectId, hid⟩ := Text.parse_ok.mpr rfl
    rw [this]
    simp

/-- `append_session_event` (store.rs:234-252). -/
def appendSessionEvent (eventType : EventType) (objectType : ObjectType) (objectId : String)
    (sessionToken : SessionToken) (now : ℤ) : Txn Unit :=
  appendEvent eventType objectType objectId (some sessionToken) now

/-- `append_system_event` (store.rs:254-272). -/
def appendSystemEvent (eventType : EventType) (objectType : ObjectType) (objectId : String)
    (now : ℤ) : Txn Unit :=
  appendEvent eventType objectType objectId none now

/-! ## Idempotent mutations -/

/-- `ensure_length` (validators.rs:371-381). -/
def ensureLength (field value : String) (max : ℕ) : Except CoveyError Unit :=
  if value.utf8ByteSize > max then .error (.inputTooLarge field value.utf8ByteSize max)
  else .ok ()

/-- `validate_idempotency_key` (validators.rs:361-369). -/
def validateIdempotencyKey (idempotencyKey : String) : Except CoveyError Unit :=
  if blank idempotencyKey then .error (.invalidIdempotencyKey idempotencyKey)
  else ensureLength "idempotency_key" idempotencyKey 256

/-- `with_idempotent_mutation` (store.rs:185-232). -/
def withIdempotentMutation (actorKey operation idempotencyKey : String) (request : Request)
    (createdAt : ℤ) (body : Txn Response) : Txn Response := do
  validateIdempotencyKey idempotencyKey
  match ← lookup Rel.idempotency (actorKey, operation, idempotencyKey) with
  | some existing =>
    Tx.ensure (existing.request = request)
      (.idempotencyConflict actorKey operation idempotencyKey)
    return existing.response
  | none =>
    let value ← body
    insertInto Rel.idempotency
      ⟨actorKey, operation, idempotencyKey, request, value, createdAt⟩
    return value

/-- A successful mutation either replays a recorded response, changing nothing, or runs its
    body and records the response. -/
theorem withIdempotentMutation_ok {actorKey operation idempotencyKey : String} {request : Request}
    {createdAt : ℤ} {body : Txn Response} {s s' : Db} {value : Response} :
    withIdempotentMutation actorKey operation idempotencyKey request createdAt body s =
        (.ok value, s') ↔
      validateIdempotencyKey idempotencyKey = .ok () ∧
      ((∃ row, s.idempotency.get? (actorKey, operation, idempotencyKey) = some row ∧
          row.request = request ∧ row.response = value ∧ s = s') ∨
        (s.idempotency.get? (actorKey, operation, idempotencyKey) = none ∧
          ∃ s₁, body s = (.ok value, s₁) ∧
            ∃ t, s₁.idempotency.insert
                ⟨actorKey, operation, idempotencyKey, request, value, createdAt⟩ = some t ∧
              s' = { s₁ with idempotency := t })) := by
  simp only [withIdempotentMutation, Tx.bind_ok, Tx.lift_ok, lookup_ok]
  constructor
  · rintro ⟨_, _, ⟨hkey, rfl⟩, found, _, ⟨hfound, rfl⟩, h⟩
    refine ⟨hkey, ?_⟩
    cases found with
    | some row =>
      simp only [Tx.bind_ok, Tx.ensure_ok, Tx.pure_ok] at h
      obtain ⟨_, _, ⟨hreq, rfl⟩, hresp, hs⟩ := h
      exact .inl ⟨row, hfound, hreq, hresp, hs⟩
    | none =>
      simp only [Tx.bind_ok, insertInto_ok, Tx.pure_ok] at h
      obtain ⟨v, s₁, hbody, _, _, ⟨t, ht, rfl⟩, rfl, rfl⟩ := h
      exact .inr ⟨hfound, s₁, hbody, t, ht, rfl⟩
  · rintro ⟨hkey, ⟨row, hfound, hreq, hresp, rfl⟩ | ⟨hfound, s₁, hbody, t, ht, rfl⟩⟩
    · refine ⟨(), s, ⟨hkey, rfl⟩, some row, s, ⟨hfound, rfl⟩, ?_⟩
      simp [hreq, hresp]
    · refine ⟨(), s, ⟨hkey, rfl⟩, none, s, ⟨hfound, rfl⟩, ?_⟩
      simp only [Tx.bind_ok, insertInto_ok, Tx.pure_ok]
      exact ⟨value, s₁, hbody, (), _, ⟨t, ht, rfl⟩, rfl, rfl⟩

/-- Under a key that is on record, the body is not run. -/
theorem withIdempotentMutation_recorded {actorKey operation idempotencyKey : String}
    {request : Request} {createdAt : ℤ} {body : Txn Response} {s : Db} {row : IdempotencyRow}
    (hrow : s.idempotency.get? (actorKey, operation, idempotencyKey) = some row) :
    withIdempotentMutation actorKey operation idempotencyKey request createdAt body s =
      ((do
        validateIdempotencyKey idempotencyKey
        if row.request = request then .ok row.response
        else .error (.idempotencyConflict actorKey operation idempotencyKey)), s) := by
  have hlookup : lookup Rel.idempotency (actorKey, operation, idempotencyKey) s =
      (.ok (some row), s) := lookup_ok.mpr ⟨hrow, rfl⟩
  unfold withIdempotentMutation
  cases validateIdempotencyKey idempotencyKey with
  | error err => rfl
  | ok u =>
    rw [Tx.bind_of_ok (Tx.lift_ok.mpr ⟨rfl, rfl⟩), Tx.bind_of_ok hlookup]
    by_cases hreq : row.request = request
    · simp only [Tx.ensure, if_pos hreq]
      rfl
    · simp only [Tx.ensure, if_neg hreq]
      rfl

/-- A mutation that does not read the lease clock. -/
def mutation (actorKey operation : String) (idempotencyKey : IdempotencyKey) (request : Request)
    (now : ℤ) (body : Txn Response) : Txn Response := do
  let createdAt ← typed (TimestampMs.parse now)
  withIdempotentMutation actorKey operation idempotencyKey.val request createdAt body

theorem mutation_ok {actorKey operation : String} {idempotencyKey : IdempotencyKey}
    {request : Request} {now : ℤ} {body : Txn Response} {s s' : Db} {value : Response} :
    mutation actorKey operation idempotencyKey request now body s = (.ok value, s') ↔
      0 ≤ now ∧ withIdempotentMutation actorKey operation idempotencyKey.val request now body s =
        (.ok value, s') := by
  simp only [mutation, Tx.bind_ok, Tx.lift_ok, typed_ok, TimestampMs.parse_ok]
  constructor
  · rintro ⟨_, _, ⟨⟨hnow, rfl⟩, rfl⟩, h⟩
    exact ⟨hnow, h⟩
  · rintro ⟨hnow, h⟩
    exact ⟨now, s, ⟨⟨hnow, rfl⟩, rfl⟩, h⟩

/-- A mutation that first advances the lease clock. -/
def leasedMutation (actorKey operation : String) (idempotencyKey : IdempotencyKey)
    (request : Request) (now : ℤ) (body : ℤ → Txn Response) : Txn Response := do
  let leaseNow ← advanceLeaseClock now
  mutation actorKey operation idempotencyKey request now (body leaseNow)

theorem leasedMutation_ok {actorKey operation : String} {idempotencyKey : IdempotencyKey}
    {request : Request} {now : ℤ} {body : ℤ → Txn Response} {s s' : Db} {value : Response} :
    leasedMutation actorKey operation idempotencyKey request now body s = (.ok value, s') ↔
      ∃ leaseNow, leaseNow = max s.leaseClock (max now 0) ∧
        mutation actorKey operation idempotencyKey request now (body leaseNow)
          { s with leaseClock := leaseNow } = (.ok value, s') := by
  simp only [leasedMutation, Tx.bind_ok, advanceLeaseClock_ok]
  constructor
  · rintro ⟨leaseNow, _, ⟨hlease, rfl⟩, h⟩
    exact ⟨leaseNow, hlease, h⟩
  · rintro ⟨leaseNow, hlease, h⟩
    exact ⟨leaseNow, _, ⟨hlease, rfl⟩, h⟩

end Covey

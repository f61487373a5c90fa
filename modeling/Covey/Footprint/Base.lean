import Covey.Lib.Within
import Covey.Refine.Archive
import Covey.Refine.Records

/-!
# Footprints

Which tables an operation writes. `Touches l s s'` says that `s'` differs from `s` in
the tables `l`, the responses on record, the lease clock and the UUIDs to come at
most; that responses on record stay; that no subtask goes away or changes what it was
created with; that events are only appended; and that the lease clock does not go back.

* `Touches.mono`, `Touches.weaken`: a footprint may be enlarged.
* one `_touches` lemma per statement and per helper that several operations share.
-/

namespace Covey

open Relational

/-- The tables of the store. -/
inductive TableName
  | sessions | runtimeAttestations | metaTasks | subtasks | fenceCounters | dependencies
  | claims | attemptOutcomes | artifacts | reviews | reviewFollowups | permissiveLandingReceipts
  | readyQueue | applyVerifications | applyGateBlockers | settlementReconcileBlockers
  | applyWorktrees | landingReceipts | subtaskScopes | openSpecArchiveStatus | cleanupClaims
  | reservations | conflicts | importProvenance | proseTasksets | proseSubtaskScopes
  | operatorBlockers | proseApplyBlockers | vcsWorkspaces | vcsPacketStackEntries
  | vcsPrPublications | events
deriving DecidableEq

/-- The store without the rows of some tables. -/
def Db.without (l : List TableName) (s : Db) : Db where
  sessions := if .sessions ∈ l then .empty _ else s.sessions
  runtimeAttestations := if .runtimeAttestations ∈ l then .empty _ else s.runtimeAttestations
  metaTasks := if .metaTasks ∈ l then .empty _ else s.metaTasks
  subtasks := if .subtasks ∈ l then .empty _ else s.subtasks
  fenceCounters := if .fenceCounters ∈ l then .empty _ else s.fenceCounters
  dependencies := if .dependencies ∈ l then .empty _ else s.dependencies
  claims := if .claims ∈ l then .empty _ else s.claims
  attemptOutcomes := if .attemptOutcomes ∈ l then .empty _ else s.attemptOutcomes
  artifacts := if .artifacts ∈ l then .empty _ else s.artifacts
  reviews := if .reviews ∈ l then .empty _ else s.reviews
  reviewFollowups := if .reviewFollowups ∈ l then .empty _ else s.reviewFollowups
  permissiveLandingReceipts := if .permissiveLandingReceipts ∈ l then .empty _ else s.permissiveLandingReceipts
  readyQueue := if .readyQueue ∈ l then .empty _ else s.readyQueue
  applyVerifications := if .applyVerifications ∈ l then .empty _ else s.applyVerifications
  applyGateBlockers := if .applyGateBlockers ∈ l then .empty _ else s.applyGateBlockers
  settlementReconcileBlockers := if .settlementReconcileBlockers ∈ l then .empty _ else s.settlementReconcileBlockers
  applyWorktrees := if .applyWorktrees ∈ l then .empty _ else s.applyWorktrees
  landingReceipts := if .landingReceipts ∈ l then .empty _ else s.landingReceipts
  subtaskScopes := if .subtaskScopes ∈ l then .empty _ else s.subtaskScopes
  openSpecArchiveStatus := if .openSpecArchiveStatus ∈ l then .empty _ else s.openSpecArchiveStatus
  cleanupClaims := if .cleanupClaims ∈ l then .empty _ else s.cleanupClaims
  reservations := if .reservations ∈ l then .empty _ else s.reservations
  conflicts := if .conflicts ∈ l then .empty _ else s.conflicts
  importProvenance := if .importProvenance ∈ l then .empty _ else s.importProvenance
  proseTasksets := if .proseTasksets ∈ l then .empty _ else s.proseTasksets
  proseSubtaskScopes := if .proseSubtaskScopes ∈ l then .empty _ else s.proseSubtaskScopes
  operatorBlockers := if .operatorBlockers ∈ l then .empty _ else s.operatorBlockers
  proseApplyBlockers := if .proseApplyBlockers ∈ l then .empty _ else s.proseApplyBlockers
  vcsWorkspaces := if .vcsWorkspaces ∈ l then .empty _ else s.vcsWorkspaces
  vcsPacketStackEntries := if .vcsPacketStackEntries ∈ l then .empty _ else s.vcsPacketStackEntries
  vcsPrPublications := if .vcsPrPublications ∈ l then .empty _ else s.vcsPrPublications
  idempotency := s.idempotency
  events := if .events ∈ l then [] else s.events
  leaseClock := s.leaseClock
  uuids := fun _ => 0

/-- The rows that a call is about: the store without the responses on record and the lease clock. -/
def Db.rows (s : Db) : Db := { s with idempotency := .empty _, leaseClock := 0 }

/-- What a subtask is created with and keeps. -/
structure Assignment where
  subtaskId : SubtaskId
  metaTaskId : MetaTaskId
  kind : SubtaskKind
  reviewTargetSubtaskId : Option SubtaskId
  reviewTargetArtifactDigest : Option ArtifactDigest
  priority : SubtaskPriority
  completionPolicy : CompletionPolicy
  routingKey : RoutingKey
  createdAt : ℤ

def SubtaskRow.assignment (r : SubtaskRow) : Assignment where
  subtaskId := r.subtaskId
  metaTaskId := r.metaTaskId
  kind := r.kind
  reviewTargetSubtaskId := r.reviewTargetSubtaskId
  reviewTargetArtifactDigest := r.reviewTargetArtifactDigest
  priority := r.priority
  completionPolicy := r.completionPolicy
  routingKey := r.routingKey
  createdAt := r.createdAt

/-- Only the tables `l` differ, apart from what every mutation keeps up. -/
structure Touches (l : List TableName) (s s' : Db) : Prop where
  rows : (s'.without l).rows = (s.without l).rows
  idempotency : ∀ k row, s.idempotency.get? k = some row → s'.idempotency.get? k = some row
  subtasks : ∀ id r, s.subtasks.get? id = some r →
    ∃ r', s'.subtasks.get? id = some r' ∧ r'.assignment = r.assignment
  events : s.events <+: s'.events
  clock : s.leaseClock ≤ s'.leaseClock

section Touches

variable {l l' : List TableName} {s s' s'' : Db}

theorem Touches.refl (l : List TableName) (s : Db) : Touches l s s :=
  ⟨rfl, fun _ _ h => h, fun _ r h => ⟨r, h, rfl⟩, List.prefix_rfl, le_rfl⟩

theorem Touches.trans (h : Touches l s s') (h' : Touches l s' s'') : Touches l s s'' where
  rows := h'.rows.trans h.rows
  idempotency k row hrow := h'.idempotency k row (h.idempotency k row hrow)
  subtasks id r hr := by
    obtain ⟨r', hr', hsame⟩ := h.subtasks id r hr
    obtain ⟨r'', hr'', hsame'⟩ := h'.subtasks id r' hr'
    exact ⟨r'', hr'', hsame'.trans hsame⟩
  events := h.events.trans h'.events
  clock := le_trans h.clock h'.clock

instance : Std.Refl (Touches l) := ⟨Touches.refl l⟩

instance : IsTrans Db (Touches l) := ⟨fun _ _ _ => Touches.trans⟩

/-- A change of nothing but the rows of the tables. -/
theorem Touches.of_rows (hrows : s'.without l = s.without l) (hevents : s'.events = s.events)
    (hsubtasks : ∀ id r, s.subtasks.get? id = some r →
      ∃ r', s'.subtasks.get? id = some r' ∧ r'.assignment = r.assignment) : Touches l s s' := by
  have hidem : (s'.without l).idempotency = (s.without l).idempotency := by rw [hrows]
  have hclock : (s.without l).leaseClock = (s'.without l).leaseClock := by rw [hrows]
  refine ⟨congrArg Db.rows hrows, fun k row hrow => ?_, hsubtasks, hevents ▸ List.prefix_rfl,
    le_of_eq hclock⟩
  have hsame : s'.idempotency = s.idempotency := hidem
  rw [hsame]
  exact hrow

/-- A change of nothing but the rows of tables other than `subtasks`. -/
theorem Touches.of_eq
    (h : (s'.without l, s'.events, s'.subtasks) = (s.without l, s.events, s.subtasks)) :
    Touches l s s' := by
  obtain ⟨hrows, hrest⟩ := Prod.mk.inj h
  obtain ⟨hevents, hsubtasks⟩ := Prod.mk.inj hrest
  refine .of_rows hrows hevents fun id r hr => ⟨r, ?_, rfl⟩
  rw [hsubtasks]
  exact hr

theorem Db.without_without (h : l ⊆ l') : (s.without l).without l' = s.without l' := by
  unfold Db.without
  have hite : ∀ {γ : Type} {x : TableName} {a b : γ},
      (if x ∈ l' then a else if x ∈ l then a else b) = if x ∈ l' then a else b := by
    intro γ x a b
    by_cases hx : x ∈ l'
    · rw [if_pos hx, if_pos hx]
    · rw [if_neg hx, if_neg hx, if_neg fun hl => hx (h hl)]
  simp only [hite]

theorem Touches.mono (hl : l ⊆ l') (h : Touches l s s') : Touches l' s s' where
  rows := by
    have hrows : ∀ s : Db, ((s.without l).rows.without l').rows = (s.without l').rows := by
      intro s
      show ((s.without l).without l').rows = _
      rw [Db.without_without hl]
    rw [← hrows s, ← hrows s', h.rows]
  idempotency := h.idempotency
  subtasks := h.subtasks
  events := h.events
  clock := h.clock

end Touches

/-! ## Statements -/

section Statements

variable {l l' : List TableName} {now leaseNow : ℤ}

theorem Touches.weaken {α : Type} {x : Txn α} (hx : x.Within (Touches l)) (hl : l ⊆ l') :
    x.Within (Touches l') :=
  hx.mono fun _ _ => Touches.mono hl

section Tables

variable {κ ρ : Type} [DecidableEq κ] {S : Schema κ ρ} {T : Tx.Field Db S}

theorem insertInto_touches
    (hT : ∀ s t, ((T.set s t).without l, (T.set s t).events, (T.set s t).subtasks) =
      (s.without l, s.events, s.subtasks)) (r : ρ) :
    (insertInto T r).Within (Touches l) :=
  .insert (fun s t => .of_eq (hT s t)) r

theorem updateIn_touches
    (hT : ∀ s t, ((T.set s t).without l, (T.set s t).events, (T.set s t).subtasks) =
      (s.without l, s.events, s.subtasks))
    (p : ρ → Prop) [DecidablePred p] (f : ρ → ρ) : (updateIn T p f).Within (Touches l) :=
  .update (fun s t => .of_eq (hT s t)) p f

theorem upsertInto_touches
    (hT : ∀ s t, ((T.set s t).without l, (T.set s t).events, (T.set s t).subtasks) =
      (s.without l, s.events, s.subtasks)) (r : ρ)
    (f : ρ → ρ) : (upsertInto T r f).Within (Touches l) := by
  refine .bind (.of_readOnly lookup_readOnly) fun found => ?_
  cases found with
  | none => exact insertInto_touches hT r
  | some _ => exact .bind (updateIn_touches hT _ f) fun _ => .pure _

theorem load_touches {typedRow : ρ → Except CoveyError ρ} {notFound : CoveyError} {k : κ} :
    (load T typedRow notFound k).Within (Touches l) :=
  .of_readOnly load_readOnly

theorem lookup_touches {k : κ} : (lookup T k).Within (Touches l) := .of_readOnly lookup_readOnly

theorem selectFrom_touches {p : ρ → Prop} [DecidablePred p] :
    (selectFrom T p).Within (Touches l) :=
  .of_readOnly selectFrom_readOnly

end Tables

theorem insertSubtaskRow_touches (hl : [.subtasks] ⊆ l) (r : SubtaskRow) :
    (insertInto Rel.subtasks r).Within (Touches l) := by
  refine Touches.weaken (l := [.subtasks]) (fun s => ?_) hl
  unfold insertInto Tx.insert
  split
  · rename_i t ht
    refine .of_rows rfl rfl fun id old hold => ⟨old, ?_, rfl⟩
    have hget : t.get? = put s.subtasks.get? r.subtaskId r := Table.get?_insert_put ht
    exact (congrFun hget id).trans (put_of_new (Table.get?_of_insert_none ht) hold)
  · exact .refl _ s

/-- An update of subtasks that leaves alone what they were created with. -/
theorem updateSubtasks_touches (hl : [.subtasks] ⊆ l) (p : SubtaskRow → Prop) [DecidablePred p]
    (f : SubtaskRow → SubtaskRow) (hf : ∀ r, (f r).assignment = r.assignment) :
    (updateIn Rel.subtasks p f).Within (Touches l) := by
  refine Touches.weaken (l := [.subtasks]) (fun s => ?_) hl
  unfold updateIn Tx.update
  split
  · rename_i t ht
    refine .of_rows rfl rfl fun id old hold => ?_
    have hget := Table.get?_update ht (fun r _ => congrArg Assignment.subtaskId (hf r)) id
    refine ⟨_, hget.trans (congrArg _ hold), ?_⟩
    show (if p old then f old else old).assignment = old.assignment
    split_ifs
    · exact hf old
    · rfl
  · exact .refl _ s

theorem freshId_touches {f : ScalarField} {stem : String} :
    (freshId f stem).Within (Touches l) :=
  .bind .get fun _ => .bind (.modify fun _ =>
    ⟨rfl, fun _ _ h => h, fun _ r h => ⟨r, h, rfl⟩, List.prefix_rfl, le_rfl⟩) fun _ =>
    .lift _

theorem advanceLeaseClock_touches : (advanceLeaseClock now).Within (Touches l) :=
  .bind (.modify fun s => ⟨rfl, fun _ _ h => h, fun _ r h => ⟨r, h, rfl⟩, List.prefix_rfl,
    le_max_left _ _⟩) fun _ =>
    .bind .get fun _ => .pure _

theorem appendEvent_touches {eventType : EventType} {objectType : ObjectType} {objectId : String}
    {actor : Option SessionToken} (hl : [.events] ⊆ l) :
    (appendEvent eventType objectType objectId actor now).Within (Touches l) := by
  refine Touches.weaken (.bind (.lift _) fun _ => ?_) hl
  split
  · exact .fail _
  · exact .modify fun s => ⟨rfl, fun _ _ h => h, fun _ r h => ⟨r, h, rfl⟩, List.prefix_append _ _, le_rfl⟩

theorem appendSessionEvent_touches {eventType : EventType} {objectType : ObjectType}
    {objectId : String} {actor : SessionToken} (hl : [.events] ⊆ l) :
    (appendSessionEvent eventType objectType objectId actor now).Within (Touches l) :=
  appendEvent_touches hl

end Statements

/-! ## Announcements -/

/-- The rows that a call is about, without the log of events. -/
def Db.content (s : Db) : Db := (s.without [.events]).rows

/-- It writes no tables but `l`, and appends an event whenever it succeeds. -/
structure Emits {α : Type} (l : List TableName) (x : Txn α) : Prop where
  touches : x.Within (Touches l)
  emits : ∀ {s a s'}, x s = (.ok a, s') → s.events.length < s'.events.length

/-- It writes no tables but `l`, and appends an event whenever it changes a row. -/
structure Announces {α : Type} (l : List TableName) (x : Txn α) : Prop where
  touches : x.Within (Touches l)
  announces : ∀ {s a s'}, x s = (.ok a, s') →
    s'.content = s.content ∨ s.events.length < s'.events.length

section Announcements

variable {l l' : List TableName} {now : ℤ} {α β : Type} {s s' : Db}

theorem Touches.length_events (h : Touches l s s') : s.events.length ≤ s'.events.length :=
  h.events.length_le

theorem Touches.content_eq (h : Touches [] s s') : s'.content = s.content :=
  (h.mono (List.nil_subset [TableName.events])).rows

theorem Emits.bind {x : Txn α} {f : α → Txn β} (hx : x.Within (Touches l))
    (hf : ∀ a, Emits l (f a)) : Emits l (x >>= f) where
  touches := .bind hx fun a => (hf a).touches
  emits h := by
    obtain ⟨a, s₁, h₁, h₂⟩ := Tx.bind_ok.mp h
    exact (hx.run h₁).length_events.trans_lt ((hf a).emits h₂)

theorem Emits.first {x : Txn α} {f : α → Txn β} (hx : Emits l x)
    (hf : ∀ a, (f a).Within (Touches l)) : Emits l (x >>= f) where
  touches := .bind hx.touches hf
  emits h := by
    obtain ⟨a, s₁, h₁, h₂⟩ := Tx.bind_ok.mp h
    exact (hx.emits h₁).trans_le ((hf a).run h₂).length_events

theorem Emits.fail (e : CoveyError) : Emits l (Tx.fail e : Txn α) where
  touches := .fail e
  emits h := by cases (Prod.mk.inj h).1

theorem Emits.weaken {x : Txn α} (hx : Emits l x) (hl : l ⊆ l') : Emits l' x :=
  ⟨Touches.weaken hx.touches hl, hx.emits⟩

theorem appendEvent_emits {eventType : EventType} {objectType : ObjectType} {objectId : String}
    {actor : Option SessionToken} (hl : [.events] ⊆ l) :
    Emits l (appendEvent eventType objectType objectId actor now) where
  touches := appendEvent_touches hl
  emits h := by
    obtain ⟨-, -, rfl⟩ := appendEvent_ok.mp h
    simp

/-- The statement that appends the event of a session. -/
theorem Emits.event {eventType : EventType} {objectType : ObjectType} {objectId : String}
    {actor : SessionToken} {f : Unit → Txn β} (hl : [.events] ⊆ l)
    (hf : ∀ a, (f a).Within (Touches l)) :
    Emits l (appendSessionEvent eventType objectType objectId actor now >>= f) :=
  .first (appendEvent_emits hl) hf

theorem Emits.announces {x : Txn α} (hx : Emits l x) : Announces l x :=
  ⟨hx.touches, fun h => .inr (hx.emits h)⟩

theorem Announces.of_quiet {x : Txn α} (hx : x.Within (Touches [])) : Announces l x :=
  ⟨Touches.weaken hx (List.nil_subset l), fun h => .inl (hx.run h).content_eq⟩

theorem Announces.pure (a : α) : Announces l (pure a : Txn α) := .of_quiet (.pure a)

theorem Announces.lift (x : Except CoveyError α) : Announces l (liftM x : Txn α) := .of_quiet (.lift x)

theorem Announces.fail (e : CoveyError) : Announces l (Tx.fail e : Txn α) := .of_quiet (.fail e)

theorem Announces.ensure (c : Prop) [Decidable c] (e : CoveyError) :
    Announces l (Tx.ensure c e : Txn Unit) :=
  .of_quiet (.ensure c e)

theorem Announces.get : Announces l (Tx.get : Txn Db) := .of_quiet .get

theorem Announces.bind {x : Txn α} {f : α → Txn β} (hx : Announces l x)
    (hf : ∀ a, Announces l (f a)) : Announces l (x >>= f) where
  touches := .bind hx.touches fun a => (hf a).touches
  announces h := by
    obtain ⟨a, s₁, h₁, h₂⟩ := Tx.bind_ok.mp h
    rcases hx.announces h₁ with hsame | hlonger
    · rcases (hf a).announces h₂ with hsame' | hlonger'
      · exact .inl (hsame'.trans hsame)
      · exact .inr ((hx.touches.run h₁).length_events.trans_lt hlonger')
    · exact .inr (hlonger.trans_le ((hf a).touches.run h₂).length_events)

end Announcements

/-! ## Mutations -/

section Mutations

variable {l : List TableName} {now : ℤ} {actorKey operation : String} {request : Request}

theorem withIdempotentMutation_touches {key : String} {createdAt : ℤ} {body : Txn Response}
    (hbody : body.Within (Touches l)) :
    (withIdempotentMutation actorKey operation key request createdAt body).Within (Touches l) := by
  refine .bind (.lift _) fun _ => .bind lookup_touches fun found => ?_
  cases found with
  | some existing => exact .bind (.ensure _ _) fun _ => .pure _
  | none =>
    refine .bind hbody fun value => .bind ?_ fun _ => .pure _
    intro s
    cases h : insertInto Rel.idempotency
      ⟨actorKey, operation, key, request, value, createdAt⟩ s with
    | mk r s' =>
      cases r with
      | error e =>
        have hs : s' = s := by
          simp only [insertInto, Tx.insert] at h
          split at h
          · cases h
          · exact (Prod.mk.inj h).2.symm
        rw [hs]
        exact .refl l s
      | ok u =>
        obtain ⟨hnew, t, rfl, ht⟩ := insertInto_get? h
        refine ⟨rfl, fun k row hrow => ?_, fun _ r hr => ⟨r, hr, rfl⟩, List.prefix_rfl, le_rfl⟩
        exact (congrFun ht k).trans (put_of_new hnew hrow)

theorem mutation_touches {key : IdempotencyKey} {body : Txn Response}
    (hbody : body.Within (Touches l)) :
    (mutation actorKey operation key request now body).Within (Touches l) :=
  .bind (.lift _) fun _ => withIdempotentMutation_touches hbody

theorem leasedMutation_touches {key : IdempotencyKey} {body : ℤ → Txn Response}
    (hbody : ∀ leaseNow, (body leaseNow).Within (Touches l)) :
    (leasedMutation actorKey operation key request now body).Within (Touches l) :=
  .bind advanceLeaseClock_touches fun leaseNow => mutation_touches (hbody leaseNow)

theorem withIdempotentMutation_announces {key : String} {createdAt : ℤ} {body : Txn Response}
    (hbody : Announces l body) :
    Announces l (withIdempotentMutation actorKey operation key request createdAt body) where
  touches := withIdempotentMutation_touches hbody.touches
  announces h := by
    obtain ⟨-, ⟨row, -, -, -, rfl⟩ | ⟨-, s₁, hrun, t, -, rfl⟩⟩ := withIdempotentMutation_ok.mp h
    · exact .inl rfl
    · have hsame := hbody.announces hrun
      exact hsame

theorem mutation_announces {key : IdempotencyKey} {body : Txn Response}
    (hbody : Announces l body) : Announces l (mutation actorKey operation key request now body) :=
  .bind (.of_quiet (.lift _)) fun _ => withIdempotentMutation_announces hbody

theorem mutation_emits {key : IdempotencyKey} {body : Txn Response} (hbody : Emits l body) :
    Announces l (mutation actorKey operation key request now body) :=
  mutation_announces hbody.announces

theorem leasedMutation_announces {key : IdempotencyKey} {body : ℤ → Txn Response}
    (hbody : ∀ leaseNow, Announces l (body leaseNow)) :
    Announces l (leasedMutation actorKey operation key request now body) :=
  .bind (.of_quiet advanceLeaseClock_touches) fun leaseNow => mutation_announces (hbody leaseNow)

theorem leasedMutation_emits {key : IdempotencyKey} {body : ℤ → Txn Response}
    (hbody : ∀ leaseNow, Emits l (body leaseNow)) :
    Announces l (leasedMutation actorKey operation key request now body) :=
  leasedMutation_announces fun leaseNow => (hbody leaseNow).announces

/-- The relation does not look at the responses on record, the lease clock or the UUIDs to come. -/
def Overlooks (R : Db → Db → Prop) : Prop :=
  ∀ s idempotency leaseClock uuids,
    R s { s with idempotency := idempotency, leaseClock := leaseClock, uuids := uuids }

section Keeps

variable {R : Db → Db → Prop} [IsTrans Db R]

variable {s s' : Db} {v : Response}

theorem withIdempotentMutation_from (hR : Overlooks R) {key : String} {createdAt : ℤ}
    {body : Txn Response} (hbody : ∀ {s₁}, body s = (.ok v, s₁) → R s s₁)
    (h : withIdempotentMutation actorKey operation key request createdAt body s = (.ok v, s')) :
    R s s' := by
  obtain ⟨-, ⟨row, -, -, -, rfl⟩ | ⟨-, s₁, hrun, t, -, rfl⟩⟩ := withIdempotentMutation_ok.mp h
  · exact hR s s.idempotency s.leaseClock s.uuids
  · exact IsTrans.trans _ _ _ (hbody hrun) (hR s₁ t s₁.leaseClock s₁.uuids)

/-- A mutation relates the states that its body relates. -/
theorem mutation_from (hR : Overlooks R) {key : IdempotencyKey} {body : Txn Response}
    (hbody : ∀ {s₁}, body s = (.ok v, s₁) → R s s₁)
    (h : mutation actorKey operation key request now body s = (.ok v, s')) : R s s' :=
  withIdempotentMutation_from hR hbody (mutation_ok.mp h).2

theorem leasedMutation_from (hR : Overlooks R) {key : IdempotencyKey} {body : ℤ → Txn Response}
    (hbody : ∀ {leaseNow s₀ s₁}, leaseNow = max s.leaseClock (max now 0) →
      s₀ = { s with leaseClock := leaseNow } → body leaseNow s₀ = (.ok v, s₁) → R s₀ s₁)
    (h : leasedMutation actorKey operation key request now body s = (.ok v, s')) : R s s' := by
  obtain ⟨leaseNow, hlease, h⟩ := leasedMutation_ok.mp h
  exact IsTrans.trans _ _ _ (hR s s.idempotency leaseNow s.uuids)
    (mutation_from hR (hbody hlease rfl) h)

theorem withIdempotentMutation_keeps (hR : Overlooks R) {key : String} {createdAt : ℤ}
    {body : Txn Response} (hbody : Tx.Keeps R body) :
    Tx.Keeps R (withIdempotentMutation actorKey operation key request createdAt body) :=
  fun _ _ _ h => withIdempotentMutation_from hR (fun hrun => hbody hrun) h

/-- What the body of a mutation keeps, the mutation keeps. -/
theorem mutation_keeps (hR : Overlooks R) {key : IdempotencyKey} {body : Txn Response}
    (hbody : Tx.Keeps R body) :
    Tx.Keeps R (mutation actorKey operation key request now body) :=
  fun _ _ _ h => mutation_from hR (fun hrun => hbody hrun) h

theorem leasedMutation_keeps (hR : Overlooks R) {key : IdempotencyKey} {body : ℤ → Txn Response}
    (hbody : ∀ leaseNow, Tx.Keeps R (body leaseNow)) :
    Tx.Keeps R (leasedMutation actorKey operation key request now body) :=
  fun _ _ _ h => leasedMutation_from hR (fun _ _ hrun => hbody _ hrun) h

end Keeps

end Mutations

/-! ## Guards -/

section Guards

variable {l : List TableName} {now leaseNow : ℤ}

theorem requireActiveSession_touches {k : SessionToken} :
    (requireActiveSession k).Within (Touches l) :=
  .bind load_touches fun _ => .bind (.ensure _ _) fun _ => .pure _

theorem requireRole_touches {k : SessionToken} {expected : List SessionRole} :
    (requireRole k expected).Within (Touches l) :=
  .bind requireActiveSession_touches fun _ => .bind (.ensure _ _) fun _ => .pure _

theorem requireRuntimeAttestation_touches {session : SessionRow} :
    (requireRuntimeAttestation session).Within (Touches l) :=
  .bind load_touches fun _ => .bind (.ensure _ _) fun _ => .bind (.ensure _ _) fun _ => .pure _

theorem ensureMetaTaskIsSchedulable_touches {m : MetaTaskId} :
    (ensureMetaTaskIsSchedulable m).Within (Touches l) :=
  .bind load_touches fun _ => .ensure _ _

theorem requireCurrentClaim_touches {k : SessionToken} {claimId : ClaimId} {fence : FenceSeq} :
    (requireCurrentClaim k claimId fence now).Within (Touches l) :=
  .bind requireActiveSession_touches fun _ => .bind load_touches fun _ => .bind (.ensure _ _) fun _ =>
    .bind (.ensure _ _) fun _ => .bind (.ensure _ _) fun _ => .bind (.ensure _ _) fun _ => .pure _

theorem subtaskExists_touches {id : SubtaskId} : (subtaskExists id).Within (Touches l) :=
  .bind lookup_touches fun _ => .pure _

theorem option_forM_touches {α : Type} {o : Option α} {f : α → Except CoveyError Unit} :
    (o.forM fun a => (liftM (f a) : Txn Unit)).Within (Touches l) := by
  cases o with
  | none => exact .pure _
  | some a => exact .lift _

/-! ## Shared helpers -/

theorem closeClaimAndDetach_touches {claim : ClaimRow} {state : ClaimState} (hl : [.claims] ⊆ l) :
    (closeClaimAndDetach claim state now).Within (Touches l) :=
  Touches.weaken (.bind (updateIn_touches (fun _ _ => rfl) _ _) fun _ => .ensure _ _) hl

theorem clearSessionActiveSubtask_touches {k : SessionToken} (hl : [.sessions] ⊆ l) :
    (clearSessionActiveSubtask k now).Within (Touches l) :=
  Touches.weaken (.bind (updateIn_touches (fun _ _ => rfl) _ _) fun _ => .pure _) hl

theorem issueFenceSeq_touches {id : SubtaskId} (hl : [.fenceCounters] ⊆ l) :
    (issueFenceSeq id).Within (Touches l) := by
  refine Touches.weaken (.bind lookup_touches fun found => ?_) hl
  cases found with
  | none => exact .bind (insertInto_touches (fun _ _ => rfl) _) fun _ => .pure _
  | some counter => exact .bind (updateIn_touches (fun _ _ => rfl) _ _) fun _ => .pure _

theorem refreshMetaTaskState_touches {m : MetaTaskId} (hl : [.metaTasks] ⊆ l) :
    (refreshMetaTaskState m now).Within (Touches l) :=
  Touches.weaken (.bind load_touches fun _ => .whenever fun _ => .bind selectFrom_touches fun _ =>
    .whenever fun _ => .bind (updateIn_touches (fun _ _ => rfl) _ _) fun _ => .pure _) hl

theorem insertSubtask_touches {r : SubtaskRow} (hl : [.subtasks, .fenceCounters] ⊆ l) :
    (insertSubtask r).Within (Touches l) :=
  Touches.weaken (.bind (insertSubtaskRow_touches (by decide) _) fun _ =>
    insertInto_touches (fun _ _ => rfl) _) hl

theorem requestedSubtaskId_touches {requested : Option SubtaskId} :
    (requestedSubtaskId requested).Within (Touches l) := by
  cases requested with
  | none => exact freshId_touches
  | some id => exact .pure id

/-! ## Expiry -/

theorem expireClaim_touches {claim : ClaimRow} (hl : [.claims, .reviews, .subtasks] ⊆ l) :
    (expireClaim claim now).Within (Touches l) :=
  Touches.weaken (.bind (closeClaimAndDetach_touches (by decide)) fun _ =>
    .bind (.bind (updateIn_touches (fun _ _ => rfl) _ _) fun _ => .pure _) fun _ =>
    .bind (updateSubtasks_touches (by decide) _ _ fun _ => rfl) fun _ => .pure _) hl

theorem clearOwnerOfClaim_touches {claim : ClaimRow} (hl : [.sessions] ⊆ l) :
    (clearOwnerOfClaim claim now).Within (Touches l) :=
  Touches.weaken (.bind (updateIn_touches (fun _ _ => rfl) _ _) fun _ => .pure _) hl

/-- The tables that the expiry of claims writes. -/
def expiryTables : List TableName := [.sessions, .subtasks, .claims, .reviews]

theorem expireClaims_touches {claims : List ClaimRow} (hl : expiryTables ⊆ l) :
    (expireClaims claims now).Within (Touches l) :=
  Touches.weaken (.forEach (fun _ => .bind (expireClaim_touches (by decide)) fun _ =>
    clearOwnerOfClaim_touches (by decide)) _) hl

theorem expireClaimIfNeededForSubtask_touches {id : SubtaskId} (hl : expiryTables ⊆ l) :
    (expireClaimIfNeededForSubtask id leaseNow now).Within (Touches l) := by
  refine Touches.weaken (.bind .get fun s => ?_) hl
  dsimp only
  split
  · exact .pure _
  · exact .bind (.lift _) fun _ => .bind (expireClaim_touches (by decide)) fun _ =>
      clearOwnerOfClaim_touches (by decide)

/-! ## Reservations -/

theorem resolveReservationOverlapConflicts_touches {id : ReservationId} (hl : [.conflicts] ⊆ l) :
    (resolveReservationOverlapConflicts id now).Within (Touches l) :=
  Touches.weaken (.bind (updateIn_touches (fun _ _ => rfl) _ _) fun _ =>
    .bind (updateIn_touches (fun _ _ => rfl) _ _) fun _ => .pure _) hl

theorem releaseActiveReservations_touches {id : SubtaskId} (hl : [.reservations, .conflicts] ⊆ l) :
    (releaseActiveReservations id now).Within (Touches l) :=
  Touches.weaken (.bind selectFrom_touches fun _ =>
    .bind (updateIn_touches (fun _ _ => rfl) _ _) fun _ =>
    .forEach (fun _ => resolveReservationOverlapConflicts_touches (by decide)) _) hl

end Guards

end Covey

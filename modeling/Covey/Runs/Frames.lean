import Covey.Runs.Claims

/-!
# What a call on a claim leaves alone

The owner of a claim works on it with eight operations. Each of them runs several
statements that are keyed by different columns; all of them stay with the claim,
its subtask and its owner.

* `ClaimFrame`: the rows that such a call may change.
* `claim_framed`: no call of the eight operations changes any other row.
-/

namespace Covey

open Relational

/-- Every row is as before, except for the claim, its subtask, its owner's session, the subtask's
    meta-task, the reservations that the subtask owns, its own review, the open reviews of its
    artifacts, and artifacts that were not there. -/
structure ClaimFrame (k : SessionToken) (claimId : ClaimId) (id : SubtaskId) (m : MetaTaskId)
    (s s' : Db) : Prop where
  subtasks : Table.ChangesOnly (fun r => r.subtaskId = id) s.subtasks s'.subtasks
  claims : Table.ChangesOnly (fun r => r.claimId = claimId) s.claims s'.claims
  sessions : Table.ChangesOnly (fun r => r.sessionToken = k) s.sessions s'.sessions
  queue : s'.readyQueue = s.readyQueue
  artifacts : ∀ d a, s.artifacts.get? d = some a → s'.artifacts.get? d = some a
  reviews : Table.ChangesOnly (fun v => v.reviewSubtaskId = id ∨ v.subtaskId = id ∧ v.isOpen)
    s.reviews s'.reviews
  metaTasks : Table.ChangesOnly (fun r => r.metaTaskId = m) s.metaTasks s'.metaTasks
  reservations : Table.ChangesOnly (fun r => r.ownerSubtaskId = id) s.reservations s'.reservations

section Statements

variable {k : SessionToken} {claimId : ClaimId} {id : SubtaskId} {m : MetaTaskId} {s s' s'' : Db}
  {now leaseNow : ℤ} {v : Response}

variable (k claimId id m s) in
theorem ClaimFrame.refl : ClaimFrame k claimId id m s s :=
  ⟨.refl _ _, .refl _ _, .refl _ _, rfl, fun _ _ h => h, .refl _ _, .refl _ _, .refl _ _⟩

theorem ClaimFrame.trans (h : ClaimFrame k claimId id m s s')
    (h' : ClaimFrame k claimId id m s' s'') : ClaimFrame k claimId id m s s'' where
  subtasks := h.subtasks.trans h'.subtasks
  claims := h.claims.trans h'.claims
  sessions := h.sessions.trans h'.sessions
  queue := h'.queue.trans h.queue
  artifacts d a ha := h'.artifacts d a (h.artifacts d a ha)
  reviews := h.reviews.trans h'.reviews
  metaTasks := h.metaTasks.trans h'.metaTasks
  reservations := h.reservations.trans h'.reservations

instance : Std.Refl (ClaimFrame k claimId id m) := ⟨ClaimFrame.refl k claimId id m⟩

instance : IsTrans Db (ClaimFrame k claimId id m) := ⟨fun _ _ _ => ClaimFrame.trans⟩

/-! ## Statements -/

theorem framed_of_readOnly {α : Type} {x : Txn α} (hx : x.ReadOnly) :
    Tx.Keeps (ClaimFrame k claimId id m) x := by
  intro s a s' h
  obtain rfl := hx.state h
  exact .refl k claimId id m _

theorem updateSubtasks_framed {p : SubtaskRow → Prop} [DecidablePred p] {f : SubtaskRow → SubtaskRow}
    (hp : ∀ r, p r → r.subtaskId = id) (hf : ∀ r, (f r).subtaskId = r.subtaskId) :
    Tx.Keeps (ClaimFrame k claimId id m) (updateIn Rel.subtasks p f) := by
  intro s _ s' h
  obtain ⟨t, ht, -, rfl⟩ := updateIn_ok.mp h
  exact { ClaimFrame.refl k claimId id m s with subtasks := .update ht (fun r _ => hf r) hp }

theorem updateClaims_framed {p : ClaimRow → Prop} [DecidablePred p] {f : ClaimRow → ClaimRow}
    (hp : ∀ r, p r → r.claimId = claimId) (hf : ∀ r, (f r).claimId = r.claimId) :
    Tx.Keeps (ClaimFrame k claimId id m) (updateIn Rel.claims p f) := by
  intro s _ s' h
  obtain ⟨t, ht, -, rfl⟩ := updateIn_ok.mp h
  exact { ClaimFrame.refl k claimId id m s with claims := .update ht (fun r _ => hf r) hp }

theorem updateReviews_framed {p : ReviewRow → Prop} [DecidablePred p] {f : ReviewRow → ReviewRow}
    (hp : ∀ r, p r → r.reviewSubtaskId = id ∨ r.subtaskId = id ∧ r.isOpen)
    (hf : ∀ r, (f r).reviewId = r.reviewId) :
    Tx.Keeps (ClaimFrame k claimId id m) (updateIn Rel.reviews p f) := by
  intro s _ s' h
  obtain ⟨t, ht, -, rfl⟩ := updateIn_ok.mp h
  exact { ClaimFrame.refl k claimId id m s with reviews := .update ht (fun r _ => hf r) hp }

theorem updateReservations_framed {p : ReservationRow → Prop} [DecidablePred p]
    {f : ReservationRow → ReservationRow} (hp : ∀ r, p r → r.ownerSubtaskId = id)
    (hf : ∀ r, (f r).reservationId = r.reservationId) :
    Tx.Keeps (ClaimFrame k claimId id m) (updateIn Rel.reservations p f) := by
  intro s _ s' h
  obtain ⟨t, ht, -, rfl⟩ := updateIn_ok.mp h
  exact { ClaimFrame.refl k claimId id m s with reservations := .update ht (fun r _ => hf r) hp }

theorem clearSessionActiveSubtask_framed :
    Tx.Keeps (ClaimFrame k claimId id m) (clearSessionActiveSubtask k now) := by
  refine .bind ?_ fun _ => .pure _
  intro s _ s' h
  obtain ⟨t, ht, -, rfl⟩ := updateIn_ok.mp h
  exact { ClaimFrame.refl k claimId id m s with sessions := .update ht (fun _ _ => rfl) fun _ hr => hr }

theorem refreshMetaTaskState_framed :
    Tx.Keeps (ClaimFrame k claimId id m) (refreshMetaTaskState m now) := by
  unfold refreshMetaTaskState
  refine .bind (framed_of_readOnly load_readOnly) fun _ => .whenever fun _ =>
    .bind (framed_of_readOnly selectFrom_readOnly) fun _ => .whenever fun _ =>
    .bind ?_ fun _ => .pure _
  intro s _ s' h
  obtain ⟨t, ht, -, rfl⟩ := updateIn_ok.mp h
  exact { ClaimFrame.refl k claimId id m s with metaTasks := .update ht (fun _ _ => rfl) fun _ hr => hr.1 }

theorem insertArtifact_framed {a : ArtifactRow} :
    Tx.Keeps (ClaimFrame k claimId id m) (insertInto Rel.artifacts a) := by
  intro s _ s' h
  obtain ⟨t, ht, rfl⟩ := insertInto_ok.mp h
  refine { ClaimFrame.refl k claimId id m s with artifacts := fun d b hb => ?_ }
  have hget : t.get? d = put s.artifacts.get? a.artifactDigest a d :=
    congrFun (Table.get?_insert_put ht) d
  exact hget.trans (put_of_new (Table.get?_of_insert_none ht) hb)

theorem insertOutcome_framed {r : AttemptOutcomeRow} :
    Tx.Keeps (ClaimFrame k claimId id m) (insertInto Rel.attemptOutcomes r) := by
  intro s _ s' h
  obtain ⟨t, -, rfl⟩ := insertInto_ok.mp h
  exact { ClaimFrame.refl k claimId id m s with }

theorem updateConflicts_framed {p : ConflictRow → Prop} [DecidablePred p]
    {f : ConflictRow → ConflictRow} :
    Tx.Keeps (ClaimFrame k claimId id m) (updateIn Rel.conflicts p f) := by
  intro s _ s' h
  obtain ⟨t, -, -, rfl⟩ := updateIn_ok.mp h
  exact { ClaimFrame.refl k claimId id m s with }

theorem appendSessionEvent_framed {eventType : EventType} {objectType : ObjectType}
    {objectId : String} {actor : SessionToken} :
    Tx.Keeps (ClaimFrame k claimId id m)
      (appendSessionEvent eventType objectType objectId actor now) := by
  intro s _ s' h
  obtain ⟨-, -, rfl⟩ := appendEvent_ok.mp h
  exact { ClaimFrame.refl k claimId id m s with }

theorem closeClaimAndDetach_framed {claim : ClaimRow} {state : ClaimState}
    (hclaim : claim.claimId = claimId) :
    Tx.Keeps (ClaimFrame k claimId id m) (closeClaimAndDetach claim state now) :=
  .bind (updateClaims_framed (fun _ hr => hr.1.trans hclaim) fun _ => rfl) fun _ => .ensure _ _

theorem releaseActiveReservations_framed :
    Tx.Keeps (ClaimFrame k claimId id m) (releaseActiveReservations id now) :=
  .bind (framed_of_readOnly selectFrom_readOnly) fun _ =>
    .bind (updateReservations_framed (fun _ hr => hr.1) fun _ => rfl) fun _ => .forEach fun _ _ =>
    .bind updateConflicts_framed fun _ => .bind updateConflicts_framed fun _ => .pure _

/-! ## Operations -/

/-- A mutation changes what its body changes, and a replay nothing. -/
theorem leasedMutation_framed {actorKey operation : String} {key : IdempotencyKey}
    {request : Request} {body : ℤ → Txn Response}
    (hbody : ∀ {leaseNow s₀ v s₁}, s₀ = { s with leaseClock := leaseNow } →
      body leaseNow s₀ = (.ok v, s₁) → ClaimFrame k claimId id m s₀ s₁)
    (h : leasedMutation actorKey operation key request now body s = (.ok v, s')) :
    ClaimFrame k claimId id m s s' := by
  obtain ⟨leaseNow, -, h⟩ := leasedMutation_ok.mp h
  obtain ⟨-, h⟩ := mutation_ok.mp h
  obtain ⟨-, ⟨-, -, -, -, rfl⟩ | ⟨-, s₁, hrun, t, -, rfl⟩⟩ := withIdempotentMutation_ok.mp h
  · exact { ClaimFrame.refl k claimId id m s with }
  · exact { hbody rfl hrun with }

/-- The claim, its subtask and the subtask's meta-task, before a call. -/
structure ClaimOf (s : Db) (claimId : ClaimId) (id : SubtaskId) (m : MetaTaskId) : Prop where
  claim : ∃ row, s.claims.get? claimId = some row ∧ row.subtaskId = id
  subtask : ∃ r, s.subtasks.get? id = some r ∧ r.metaTaskId = m

theorem ClaimOf.context {fence : FenceSeq} {ctx : ClaimContext} (h : ClaimOf s claimId id m)
    (hctx : ctx.Loaded s k claimId fence leaseNow) :
    ctx.claim.claimId = claimId ∧ ctx.claim.subtaskId = id ∧ ctx.subtask.subtaskId = id ∧
      ctx.subtask.metaTaskId = m := by
  obtain ⟨row, hrow, hsub⟩ := h.claim
  obtain ⟨r, hr, hmeta⟩ := h.subtask
  obtain rfl : ctx.claim = row := Option.some.inj (hctx.claim.symm.trans hrow)
  have hctxSub := hctx.subtask
  rw [hsub] at hctxSub
  obtain rfl : ctx.subtask = r := Option.some.inj (hctxSub.symm.trans hr)
  exact ⟨Table.key_of_get? hrow, hsub, Table.key_of_get? hr, hmeta⟩

theorem ClaimOf.subtask_eq {claim : ClaimRow} {subtask : SubtaskRow} (h : ClaimOf s claimId id m)
    (hclaim : s.claims.get? claimId = some claim)
    (hsubtask : s.subtasks.get? claim.subtaskId = some subtask) : subtask.subtaskId = id := by
  obtain ⟨row, hrow, hsub⟩ := h.claim
  obtain rfl : claim = row := Option.some.inj (hclaim.symm.trans hrow)
  exact (Table.key_of_get? hsubtask : subtask.subtaskId = claim.subtaskId).trans hsub

theorem ensureArtifactDigestUnused_framed {d : ArtifactDigest} :
    Tx.Keeps (ClaimFrame k claimId id m) (ensureArtifactDigestUnused d) :=
  framed_of_readOnly (.bind lookup_readOnly fun _ => .ensure _ _)

theorem startReview_framed : Tx.Keeps (ClaimFrame k claimId id m) (startReview id k now) := by
  refine .bind (framed_of_readOnly selectFrom_readOnly) fun reviews => ?_
  cases reviews.head? with
  | none => exact .fail _
  | some review =>
    exact .whenever fun _ => .bind (.lift _) fun _ =>
      .bind (updateReviews_framed (fun _ hr => .inl hr.1) fun _ => rfl) fun _ => .pure _

theorem ensureMetaTaskIsSchedulable_framed {metaTaskId : MetaTaskId} :
    Tx.Keeps (ClaimFrame k claimId id m) (ensureMetaTaskIsSchedulable metaTaskId) :=
  framed_of_readOnly (.bind load_readOnly fun _ => .ensure _ _)

/-- What follows on the claim context runs with the claim, its subtask and its meta-task. -/
theorem loadClaimContext_framed {fence : FenceSeq} {body : ClaimContext → Txn Response} {s₀ s₁ : Db}
    (hof : ClaimOf s claimId id m) (hs₀ : s₀ = { s with leaseClock := leaseNow })
    (hbody : ∀ ctx : ClaimContext, ctx.claim.claimId = claimId → ctx.claim.subtaskId = id →
      ctx.subtask.subtaskId = id → ctx.subtask.metaTaskId = m →
      Tx.Keeps (ClaimFrame k claimId id m) (body ctx))
    (h : (loadClaimContext k claimId fence leaseNow >>= body) s₀ = (.ok v, s₁)) :
    ClaimFrame k claimId id m s₀ s₁ := by
  obtain ⟨ctx, s₂, hload, h⟩ := Tx.bind_ok.mp h
  obtain ⟨rfl, hctx⟩ := loadClaimContext_ok hload
  have hof₀ : ClaimOf s₀ claimId id m := by
    rw [hs₀]
    exact ⟨hof.claim, hof.subtask⟩
  obtain ⟨hclaim, hclaimSub, hsub, hmeta⟩ := hof₀.context hctx
  exact hbody ctx hclaim hclaimSub hsub hmeta h

/-- The same where the subtask is not read. -/
theorem requireCurrentClaim_framed {fence : FenceSeq} {body : ClaimRow → Txn Response} {s₀ s₁ : Db}
    (hbody : ∀ claim, Tx.Keeps (ClaimFrame k claimId id m) (body claim))
    (h : (requireCurrentClaim k claimId fence leaseNow >>= body) s₀ = (.ok v, s₁)) :
    ClaimFrame k claimId id m s₀ s₁ := by
  obtain ⟨claim, _, hclaim, h⟩ := Tx.bind_ok.mp h
  obtain ⟨-, rfl⟩ := requireCurrentClaim_ok.mp hclaim
  exact hbody claim h

theorem startSubtask_framed {req : StartSubtaskReq} (hof : ClaimOf s req.claimId id m)
    (h : startSubtask req now s = (.ok v, s')) :
    ClaimFrame req.sessionToken req.claimId id m s s' := by
  refine leasedMutation_framed (fun {leaseNow s₀ v s₁} hs₀ h => ?_) h
  obtain ⟨_, _, hlength, h⟩ := Tx.bind_ok.mp h
  obtain ⟨-, rfl⟩ := Tx.lift_ok.mp hlength
  refine loadClaimContext_framed hof hs₀ (fun ctx _ _ hsub _ => ?_) h
  refine .bind ensureMetaTaskIsSchedulable_framed fun _ => .bind (.lift _) fun _ =>
    .bind (.lift _) fun _ =>
    .bind (updateSubtasks_framed (fun r hr => hr.1.trans hsub) fun _ => rfl) fun _ =>
    .bind (.ensure _ _) fun _ => .bind (.whenever fun _ => ?_) fun _ =>
    .bind appendSessionEvent_framed fun _ => .pure _
  rw [hsub]
  exact startReview_framed

theorem detachSubtask_framed {ctx : ClaimContext} {state : SubtaskState}
    (hsub : ctx.subtask.subtaskId = id) :
    Tx.Keeps (ClaimFrame k claimId id m) (detachSubtask ctx state now) :=
  .bind (updateSubtasks_framed (fun _ hr => hr.1.trans hsub) fun _ => rfl) fun _ => .ensure _ _

theorem abandonSubtask_framed {req : AbandonSubtaskReq} (hof : ClaimOf s req.claimId id m)
    (h : abandonSubtask req now s = (.ok v, s')) :
    ClaimFrame req.sessionToken req.claimId id m s s' := by
  refine leasedMutation_framed (fun {leaseNow s₀ v s₁} hs₀ h => ?_) h
  obtain ⟨_, _, hlength, h⟩ := Tx.bind_ok.mp h
  obtain ⟨-, rfl⟩ := Tx.lift_ok.mp hlength
  refine loadClaimContext_framed hof hs₀ (fun ctx hclaim _ hsub hmeta => ?_) h
  rw [hmeta]
  exact .bind (.lift _) fun _ => .bind (.lift _) fun _ =>
    .bind (closeClaimAndDetach_framed hclaim) fun _ => .bind (detachSubtask_framed hsub) fun _ =>
    .bind clearSessionActiveSubtask_framed fun _ => .bind refreshMetaTaskState_framed fun _ =>
    .bind appendSessionEvent_framed fun _ => .pure _

theorem releaseClaim_framed {req : ReleaseClaimReq} (hof : ClaimOf s req.claimId id m)
    (h : releaseClaim req now s = (.ok v, s')) :
    ClaimFrame req.sessionToken req.claimId id m s s' := by
  refine leasedMutation_framed (fun {leaseNow s₀ v s₁} hs₀ h => ?_) h
  obtain ⟨_, _, hlength, h⟩ := Tx.bind_ok.mp h
  obtain ⟨-, rfl⟩ := Tx.lift_ok.mp hlength
  refine loadClaimContext_framed hof hs₀ (fun ctx hclaim hclaimSub hsub _ => ?_) h
  exact .bind (.lift _) fun _ => .bind (closeClaimAndDetach_framed hclaim) fun _ =>
    .bind (updateReservations_framed (fun _ hr => hr.1.trans hclaimSub) fun _ => rfl) fun _ =>
    .bind (detachSubtask_framed hsub) fun _ => .bind clearSessionActiveSubtask_framed fun _ =>
    .bind appendSessionEvent_framed fun _ => .pure _

theorem renewClaim_framed {req : RenewClaimReq} (h : renewClaim req now s = (.ok v, s')) :
    ClaimFrame req.sessionToken req.claimId id m s s' := by
  refine leasedMutation_framed (fun {leaseNow s₀ v s₁} _ h => ?_) h
  obtain ⟨_, _, hlength, h⟩ := Tx.bind_ok.mp h
  obtain ⟨-, rfl⟩ := Tx.lift_ok.mp hlength
  refine requireCurrentClaim_framed (fun claim => ?_) h
  exact .bind (updateClaims_framed (fun _ hr => hr.1) fun _ => rfl) fun _ =>
    .bind (.ensure _ _) fun _ => .bind (.lift _) fun _ => .bind appendSessionEvent_framed fun _ =>
    .pure _

theorem recordDirectOutcome_framed {eventType : EventType} {input : OutcomeInput} {s₀ s₁ : Db}
    (hof : ClaimOf s input.claimId id m) (hs₀ : s₀ = { s with leaseClock := leaseNow })
    (h : recordDirectOutcome eventType input leaseNow now s₀ = (.ok v, s₁)) :
    ClaimFrame input.sessionToken input.claimId id m s₀ s₁ := by
  unfold recordDirectOutcome at h
  refine loadClaimContext_framed hof hs₀ (fun ctx hclaim _ hsub hmeta => ?_) h
  refine .bind ensureMetaTaskIsSchedulable_framed fun _ => .bind (.lift _) fun _ =>
    .bind (.ensure _ _) fun _ => .bind (.ensure _ _) fun _ => .bind (.lift _) fun _ =>
    .bind insertOutcome_framed fun _ => .bind (closeClaimAndDetach_framed hclaim) fun _ =>
    .bind ?_ fun _ =>
    .bind (updateSubtasks_framed (fun _ hr => hr.1.trans hsub) fun _ => rfl) fun _ =>
    .bind (.ensure _ _) fun _ => .bind clearSessionActiveSubtask_framed fun _ =>
    .bind ?_ fun _ => .bind appendSessionEvent_framed fun _ => .pure _
  · rw [hsub]
    exact releaseActiveReservations_framed
  · rw [hmeta]
    exact refreshMetaTaskState_framed

theorem setPublishedArtifact_framed {subtask : SubtaskRow} {d : ArtifactDigest}
    (hsub : subtask.subtaskId = id) :
    Tx.Keeps (ClaimFrame k claimId id m) (setPublishedArtifact subtask d now) :=
  updateSubtasks_framed (fun _ hr => hr.1.trans hsub) fun _ => rfl

theorem publishArtifact_framed {req : PublishArtifactReq} (hof : ClaimOf s req.claimId id m)
    (h : publishArtifact req now s = (.ok v, s')) :
    ClaimFrame req.sessionToken req.claimId id m s s' := by
  refine leasedMutation_framed (fun {leaseNow s₀ v s₁} hs₀ h => ?_) h
  have hof₀ : ClaimOf s₀ req.claimId id m := by
    rw [hs₀]
    exact ⟨hof.claim, hof.subtask⟩
  simp only [Tx.bind_ok, Tx.lift_ok, requireCurrentClaim_ok, requireActiveSession_ok, loadSubtask_ok,
    ensureMetaTaskIsSchedulable_ok, lookup_ok, and_assoc, exists_and_left,
    exists_eq_left', Tx.exists_unit] at h
  obtain ⟨-, -, -, -, -, -, claim, hclaim, -, -, -, -, -, session, -, -, -, subtask, hsubtask, -, -,
    -, _, hkind, -, h⟩ := h
  obtain ⟨-, rfl⟩ := Tx.ensure_ok.mp hkind
  have hsub : subtask.subtaskId = id := hof₀.subtask_eq hclaim hsubtask
  cases hfound : (Rel.artifacts.get s₀).get? req.artifactDigest with
  | some existing =>
    simp only [hfound] at h
    refine (?_ : Tx.Keeps (ClaimFrame req.sessionToken req.claimId id m) _) h
    refine .bind (.ensure _ _) fun _ => ?_
    split_ifs
    · exact .pure _
    · exact .bind (.lift _) fun _ => .bind (setPublishedArtifact_framed hsub) fun _ => .pure _
  | none =>
    simp only [hfound] at h
    refine (?_ : Tx.Keeps (ClaimFrame req.sessionToken req.claimId id m) _) h
    exact .bind (.lift _) fun _ => .bind ensureArtifactDigestUnused_framed fun _ =>
      .bind insertArtifact_framed fun _ =>
      .bind (updateReviews_framed (fun _ hr => .inr ⟨hr.1.trans hsub, hr.2.2⟩) fun _ => rfl) fun _ =>
      .bind (setPublishedArtifact_framed hsub) fun _ => .bind (.ensure _ _) fun _ =>
      .bind appendSessionEvent_framed fun _ => .pure _

/-! ## Calls -/

/-- The session and the claim of the operations with which the owner of a claim works on it. -/
def Operation.owned : Operation → Option (SessionToken × ClaimId)
  | .startSubtask req | .abandonSubtask req | .releaseClaim req => some (req.sessionToken, req.claimId)
  | .renewClaim req => some (req.sessionToken, req.claimId)
  | .finishSubtask req => some (req.sessionToken, req.claimId)
  | .retrySubtask req | .failSubtask req => some (req.sessionToken, req.claimId)
  | .publishArtifact req => some (req.sessionToken, req.claimId)
  | _ => none

theorem Operation.owned_framed {env : Env} {op : Operation} (hop : op.owned = some (k, claimId))
    (hof : ClaimOf s claimId id m) (h : op.run env now s = (.ok v, s')) :
    ClaimFrame k claimId id m s s' := by
  cases op <;> cases hop
  case startSubtask req => exact startSubtask_framed hof h
  case abandonSubtask req => exact abandonSubtask_framed hof h
  case releaseClaim req => exact releaseClaim_framed hof h
  case renewClaim req => exact renewClaim_framed h
  case finishSubtask req =>
    exact leasedMutation_framed (fun hs₀ h => recordDirectOutcome_framed hof hs₀ h) h
  case retrySubtask req =>
    exact leasedMutation_framed (fun hs₀ h => recordDirectOutcome_framed hof hs₀ h) h
  case failSubtask req =>
    exact leasedMutation_framed (fun hs₀ h => recordDirectOutcome_framed hof hs₀ h) h
  case publishArtifact req => exact publishArtifact_framed hof h

end Statements

/-- An accepted call of the owner on a claim leaves every row alone but the claim, its subtask and
    what belongs to them. -/
theorem claim_framed {env : Env} {s : Db} {c : Call} {k : SessionToken} {claimId : ClaimId}
    {row : ClaimRow} {r : SubtaskRow} (hop : c.op.owned = some (k, claimId))
    (hrow : s.claims.get? claimId = some row) (hr : s.subtasks.get? row.subtaskId = some r) :
    ClaimFrame k claimId row.subtaskId r.metaTaskId s (next env s c) := by
  by_cases hok : c.Succeeds env s
  · obtain ⟨v, s₀, hs₀, hrun⟩ := hok.run
    have hof : ClaimOf s₀ claimId row.subtaskId r.metaTaskId := by
      rw [hs₀]
      exact ⟨⟨row, hrow, rfl⟩, r, hr, rfl⟩
    have hframe := Operation.owned_framed hop hof hrun
    rw [hs₀] at hframe
    exact { hframe with }
  · rw [next_of_failed hok]
    exact { ClaimFrame.refl k claimId row.subtaskId r.metaTaskId s with }

section Scripts

open Script

/-- The owner of the work `a` renews its claim. -/
def renewal : Call := ⟨.renewClaim ⟨session 1, claim 4, fence 0, lease, text "r"⟩, 6, uuid 6⟩

theorem renewal_run : renewal.Succeeds env (reach env started) ∧
    ((reach env started).claims.get? (claim 4)).map (·.subtaskId) = some (text "a") ∧
    ((reach env started).subtasks.get? (text "a")).map (·.metaTaskId) = some (metaTask 2) := by
  unfold Call.Succeeds
  decide +kernel

theorem claim_framed_renewal : renewal.Succeeds env (reach env started) ∧
    ClaimFrame (session 1) (claim 4) (text "a") (metaTask 2) (reach env started)
      (next env (reach env started) renewal) := by
  obtain ⟨hok, hclaim, hsubtask⟩ := renewal_run
  obtain ⟨row, hrow, hsub⟩ := Option.map_eq_some_iff.mp hclaim
  obtain ⟨r, hr, hmeta⟩ := Option.map_eq_some_iff.mp hsubtask
  rw [← hsub] at hr
  refine ⟨hok, ?_⟩
  rw [← hsub, ← hmeta]
  exact claim_framed rfl hrow hr

end Scripts

end Covey

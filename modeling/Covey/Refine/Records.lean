import Covey.Ops.Blockers
import Covey.Ops.Reservation
import Covey.Ops.Vcs
import Covey.Refine.Session

/-!
# The operations that leave the board alone

Reservations, conflicts, blockers, workspaces and projections are records about
work: writing one of them moves nothing on the board.

* `mutation_sameBoard`, `leasedMutation_sameBoard`: a mutation leaves alone what its
  body leaves alone.
* one `_sameBoard` lemma per operation.
-/

namespace Covey

open Relational

variable {now : ℤ} {s s' : Db} {v : Response}

section Mutation

variable {actorKey operation : String} {key : IdempotencyKey} {request : Request}

theorem mutation_sameBoard {body : Txn Response} (hbody : Tx.Keeps SameBoard body) :
    Tx.Keeps SameBoard (mutation actorKey operation key request now body) := by
  intro s v s' h
  rcases mutation_run h with ⟨-, rfl⟩ | ⟨s₁, hrun, hb⟩
  · rfl
  · exact hb.trans (hbody hrun)

theorem leasedMutation_sameBoard {body : ℤ → Txn Response}
    (hbody : ∀ leaseNow, Tx.Keeps SameBoard (body leaseNow)) :
    Tx.Keeps SameBoard (leasedMutation actorKey operation key request now body) := by
  intro s v s' h
  obtain ⟨leaseNow, -, ⟨-, hb⟩ | ⟨s₀, s₁, hs₀, hrun, hb⟩⟩ := leasedMutation_run h
  · exact hb
  · have hclock : SameBoard s s₀ := by rw [hs₀]; rfl
    exact hclock.trans ((hbody leaseNow hrun).trans hb)

end Mutation

theorem upsertInto_sameBoard {κ ρ : Type} [DecidableEq κ] {S : Schema κ ρ} {T : Tx.Field Db S}
    (hT : ∀ s t, (T.set s t).board = s.board) (r : ρ) (f : ρ → ρ) :
    Tx.Keeps SameBoard (upsertInto T r f) :=
  upsertInto_agree hT r f

theorem requireRole_sameBoard {k : SessionToken} {expected : List SessionRole} :
    Tx.Keeps SameBoard (requireRole k expected) := by
  intro s _ s' h
  obtain ⟨-, rfl⟩ := requireRole_ok.mp h
  rfl

theorem load_sameBoard {κ ρ : Type} [DecidableEq κ] {S : Schema κ ρ} {T : Tx.Field Db S}
    {typedRow : ρ → Except CoveyError ρ} {notFound : CoveyError} {k : κ} :
    Tx.Keeps SameBoard (load T typedRow notFound k) :=
  sameBoard_of_readOnly load_readOnly

theorem option_forM_sameBoard {α : Type} {o : Option α} {f : α → Except CoveyError Unit} :
    Tx.Keeps SameBoard (o.forM fun a => (liftM (f a) : Txn Unit)) := by
  intro s _ s' h
  obtain ⟨-, rfl⟩ := Tx.option_forM_ok.mp h
  rfl

/-! ## Reservations and conflicts -/

section Queries

variable {leaseNow : ℤ}

theorem queryReservationIds_readOnly {p : ReservationRow → Prop} [DecidablePred p] :
    (queryReservationIds leaseNow p).ReadOnly :=
  .bind selectFrom_readOnly fun _ => .pure _

theorem queryMemberIds_readOnly {p : ReservationRow → Prop} [DecidablePred p] {q : String → Prop}
    [DecidablePred q] : (queryMemberIds leaseNow p q).ReadOnly :=
  .bind selectFrom_readOnly fun _ => .pure _

theorem queryContainingSubtreeIdsAt_readOnly {path : String} :
    (queryContainingSubtreeIdsAt leaseNow path).ReadOnly :=
  .bind (.lift _) fun _ => queryReservationIds_readOnly

theorem queryReservationScopeIdsForKeysAt_readOnly {scopeClass : ScopeClass} {keys : List String} :
    (queryReservationScopeIdsForKeysAt leaseNow scopeClass keys).ReadOnly :=
  .bind (.mapEach (fun _ => queryReservationIds_readOnly) _) fun _ => .pure _

theorem queryOverlapIdsForExact_readOnly {path : String} :
    (queryOverlapIdsForExact leaseNow path).ReadOnly :=
  .bind queryReservationIds_readOnly fun _ => .bind queryReservationIds_readOnly fun _ =>
    .bind queryContainingSubtreeIdsAt_readOnly fun _ => .bind queryMemberIds_readOnly fun _ => .pure _

theorem queryOverlapIdsForSubtree_readOnly {path : String} :
    (queryOverlapIdsForSubtree leaseNow path).ReadOnly :=
  .bind queryReservationIds_readOnly fun _ => .bind queryReservationIds_readOnly fun _ =>
    .bind queryReservationIds_readOnly fun _ => .bind queryContainingSubtreeIdsAt_readOnly fun _ =>
    .bind queryReservationIds_readOnly fun _ => .bind queryMemberIds_readOnly fun _ =>
    .bind queryMemberIds_readOnly fun _ => .pure _

theorem queryOverlapIdsForGenerated_readOnly {members : List String} :
    (queryOverlapIdsForGenerated leaseNow members).ReadOnly :=
  .bind queryReservationIds_readOnly fun _ =>
    .bind queryReservationScopeIdsForKeysAt_readOnly fun _ =>
    .bind queryReservationScopeIdsForKeysAt_readOnly fun _ =>
    .bind (.bind (.mapEach (fun _ => queryMemberIds_readOnly) _) fun _ => .pure _) fun _ => .pure _

theorem loadReservationsByIds_readOnly {ids : List ReservationId} :
    (loadReservationsByIds ids).ReadOnly :=
  .bind (.lift _) fun _ => .bind selectFrom_readOnly fun _ => .mapEach (fun _ => .lift _) _

theorem findOverlappingReservations_readOnly {scopeClass : ScopeClass} {scopeKey : String}
    {members : List String} :
    (findOverlappingReservations scopeClass scopeKey members).ReadOnly := by
  refine .bind .get fun _ => ?_
  cases scopeClass with
  | repoGlobal => exact .bind selectFrom_readOnly fun _ => .mapEach (fun _ => .lift _) _
  | exactPath => exact .bind queryOverlapIdsForExact_readOnly fun _ => loadReservationsByIds_readOnly
  | subtree => exact .bind queryOverlapIdsForSubtree_readOnly fun _ => loadReservationsByIds_readOnly
  | generatedSet =>
    exact .bind queryOverlapIdsForGenerated_readOnly fun _ => loadReservationsByIds_readOnly

end Queries

theorem requestReservation_sameBoard {req : RequestReservationReq} :
    Tx.Keeps SameBoard (requestReservation req now) :=
  leasedMutation_sameBoard fun _ =>
    .bind requireRole_sameBoard fun _ => .bind (.lift _) fun _ => .bind load_sameBoard fun _ =>
    .bind (.lift _) fun _ => .bind (.lift _) fun _ => .bind (.lift _) fun _ =>
    .bind (.lift _) fun _ => .bind (.lift _) fun _ => .bind (.forEach fun _ _ => .lift _) fun _ =>
    .bind (.lift _) fun _ =>
    .bind (sameBoard_of_readOnly findOverlappingReservations_readOnly) fun _ =>
    .bind freshId_sameBoard fun _ => .bind (insertInto_sameBoard (fun _ _ => rfl) _) fun _ =>
    .bind (.forEach fun _ _ =>
      .bind (.lift _) fun _ => upsertInto_sameBoard (fun _ _ => rfl) _ _) fun _ =>
    .bind appendSessionEvent_sameBoard fun _ => .pure _

theorem releaseReservation_sameBoard {req : ReleaseReservationReq} :
    Tx.Keeps SameBoard (releaseReservation req now) :=
  mutation_sameBoard <|
    .bind requireRole_sameBoard fun _ => .bind (.lift _) fun _ => .bind load_sameBoard fun _ =>
    .bind (.lift _) fun _ => .bind (updateIn_sameBoard (fun _ _ => rfl) _ _) fun _ =>
    .bind (.ensure _ _) fun _ => .bind resolveReservationOverlapConflicts_sameBoard fun _ =>
    .bind (.ensure _ _) fun _ => .bind appendSessionEvent_sameBoard fun _ => .pure _

theorem renewReservation_sameBoard {req : RenewReservationReq} :
    Tx.Keeps SameBoard (renewReservation req now) :=
  leasedMutation_sameBoard fun _ =>
    .bind requireRole_sameBoard fun _ => .bind (.lift _) fun _ => .bind load_sameBoard fun _ =>
    .bind (.ensure _ _) fun _ => .bind (.ensure _ _) fun _ =>
    .bind (updateIn_sameBoard (fun _ _ => rfl) _ _) fun _ => .bind (.ensure _ _) fun _ =>
    .bind (.ensure _ _) fun _ => .bind (.ensure _ _) fun _ =>
    .bind appendSessionEvent_sameBoard fun _ => .pure _

theorem resolveConflict_sameBoard {req : ResolveConflictReq} :
    Tx.Keeps SameBoard (resolveConflict req now) :=
  mutation_sameBoard <|
    .bind requireRole_sameBoard fun _ => .bind load_sameBoard fun _ => .bind (.lift _) fun _ =>
    .bind (updateIn_sameBoard (fun _ _ => rfl) _ _) fun _ => .bind (.ensure _ _) fun _ =>
    .bind appendSessionEvent_sameBoard fun _ => .pure _

/-! ## Blockers -/

theorem requireOpenSpecScope_sameBoard {req : RecordOperatorBlockerReq} :
    Tx.Keeps SameBoard (requireOpenSpecScope req) := by
  refine .bind .get fun s => ?_
  cases openspecChangeIdForSubtask s req.subtaskId with
  | none => exact .fail _
  | some _ => exact .ensure _ _

theorem requireBlockerTarget_sameBoard {req : RecordOperatorBlockerReq} :
    Tx.Keeps SameBoard (requireBlockerTarget req) := by
  unfold requireBlockerTarget
  split
  · exact .bind load_sameBoard fun _ => requireOpenSpecScope_sameBoard
  · split
    · exact .fail _
    · exact .bind (.lift _) fun _ => .bind load_sameBoard fun _ => .bind (.ensure _ _) fun _ =>
        requireOpenSpecScope_sameBoard

theorem recordOperatorBlocker_sameBoard {req : RecordOperatorBlockerReq} :
    Tx.Keeps SameBoard (recordOperatorBlocker req now) := by
  refine mutation_sameBoard <| .bind requireRole_sameBoard fun _ => .bind (.lift _) fun _ =>
    .bind (.lift _) fun _ => .bind (.lift _) fun _ => .bind (.lift _) fun _ =>
    .bind option_forM_sameBoard fun _ => .bind requireBlockerTarget_sameBoard fun _ =>
    .bind (sameBoard_of_readOnly lookup_readOnly) fun found => ?_
  cases found with
  | some row => exact .bind (.lift _) fun _ => .bind (.ensure _ _) fun _ => .pure _
  | none =>
    exact .bind (insertInto_sameBoard (fun _ _ => rfl) _) fun _ =>
      .bind appendSessionEvent_sameBoard fun _ => .bind load_sameBoard fun _ => .pure _

theorem resolveOperatorBlocker_sameBoard {req : ResolveOperatorBlockerReq} :
    Tx.Keeps SameBoard (resolveOperatorBlocker req now) := by
  refine mutation_sameBoard <| .bind requireRole_sameBoard fun _ => .bind (.lift _) fun _ =>
    .bind (.lift _) fun _ => .bind load_sameBoard fun _ => ?_
  split
  · exact .bind (.ensure _ _) fun _ => .pure _
  · exact .bind (updateIn_sameBoard (fun _ _ => rfl) _ _) fun _ =>
      .bind appendSessionEvent_sameBoard fun _ => .bind load_sameBoard fun _ => .pure _

theorem recordProseApplyBlocker_sameBoard {req : RecordProseApplyBlockerReq} :
    Tx.Keeps SameBoard (recordProseApplyBlocker req now) :=
  mutation_sameBoard <|
    .bind requireRole_sameBoard fun _ => .bind .get fun _ => .bind (.ensure _ _) fun _ =>
    .bind (.ensure _ _) fun _ => .bind (upsertInto_sameBoard (fun _ _ => rfl) _ _) fun _ =>
    .bind appendSessionEvent_sameBoard fun _ => .pure _

/-! ## Workspaces and projections -/

theorem recordVcsWorkspace_sameBoard {req : RecordVcsWorkspaceReq} :
    Tx.Keeps SameBoard (recordVcsWorkspace req now) :=
  mutation_sameBoard <|
    .bind requireRole_sameBoard fun _ => .bind (.lift _) fun _ => .bind (.lift _) fun _ =>
    .bind .get fun _ => .bind (.ensure _ _) fun _ =>
    .bind (upsertInto_sameBoard (fun _ _ => rfl) _ _) fun _ =>
    .bind appendSessionEvent_sameBoard fun _ => .bind load_sameBoard fun _ => .pure _

theorem observeVcsWorkspace_sameBoard {req : ObserveVcsWorkspaceReq} :
    Tx.Keeps SameBoard (observeVcsWorkspace req now) :=
  mutation_sameBoard <|
    .bind requireRole_sameBoard fun _ => .bind load_sameBoard fun _ =>
    .bind (updateIn_sameBoard (fun _ _ => rfl) _ _) fun _ =>
    .bind appendSessionEvent_sameBoard fun _ => .bind load_sameBoard fun _ => .pure _

theorem validatePacketStackEntry_readOnly {req : RecordVcsPacketStackEntryReq} :
    (validatePacketStackEntry req).ReadOnly := by
  refine .bind (.lift _) fun _ => .bind (.lift _) fun _ => .bind (.lift _) fun _ =>
    .bind (.lift _) fun _ => .bind (.lift _) fun _ => .bind (.lift _) fun _ =>
    .bind (.ensure _ _) fun _ => .bind (.ensure _ _) fun _ => .bind (.ensure _ _) fun _ =>
    .bind load_readOnly fun _ => .bind (.ensure _ _) fun _ => .bind lookup_readOnly fun found => ?_
  cases found with
  | none =>
    exact .bind (.fail _) fun _ => .bind load_readOnly fun _ => .bind (.ensure _ _) fun _ =>
      .bind load_readOnly fun _ => .ensure _ _
  | some _ =>
    exact .bind (.ensure _ _) fun _ => .bind load_readOnly fun _ => .bind (.ensure _ _) fun _ =>
      .bind load_readOnly fun _ => .ensure _ _

theorem recordVcsPacketStackEntry_sameBoard {req : RecordVcsPacketStackEntryReq} :
    Tx.Keeps SameBoard (recordVcsPacketStackEntry req now) :=
  mutation_sameBoard <|
    .bind requireRole_sameBoard fun _ =>
    .bind (sameBoard_of_readOnly validatePacketStackEntry_readOnly) fun _ =>
    .bind (upsertInto_sameBoard (fun _ _ => rfl) _ _) fun _ =>
    .bind appendSessionEvent_sameBoard fun _ => .bind load_sameBoard fun _ => .pure _

theorem validatePrPublication_sameBoard {req : RecordVcsPrPublicationReq} :
    Tx.Keeps SameBoard (validatePrPublication req) := by
  refine .bind (.lift _) fun _ => ?_
  extract_lets rest
  have hrest : ∀ u, Tx.Keeps SameBoard (rest u) := fun _ =>
    .bind (.ensure _ _) fun _ => .bind (.ensure _ _) fun _ => .ensure _ _
  split
  · split
    · exact .bind (.fail _) hrest
    · refine .bind (.ensure _ _) fun _ => .bind (.ensure _ _) fun _ => .bind ?_ hrest
      exact .whenever fun _ =>
        .bind (sameBoard_of_readOnly selectFrom_readOnly) fun _ => .ensure _ _
  · split
    · exact .bind (.fail _) hrest
    · exact .bind load_sameBoard fun _ => .bind (.ensure _ _) hrest

theorem recordVcsPrPublication_sameBoard {req : RecordVcsPrPublicationReq} :
    Tx.Keeps SameBoard (recordVcsPrPublication req now) :=
  mutation_sameBoard <|
    .bind requireRole_sameBoard fun _ => .bind validatePrPublication_sameBoard fun _ =>
    .bind (upsertInto_sameBoard (fun _ _ => rfl) _ _) fun _ =>
    .bind appendSessionEvent_sameBoard fun _ => .bind load_sameBoard fun _ => .pure _

end Covey

import Covey.Footprint.Queue
import Covey.Step

/-!
# Footprints of calls

* `Operation.tables`: the tables that an operation writes.
* `next_touches`: a call, committed or not, leaves the other tables alone, keeps the
  responses on record, appends events only and does not turn the lease clock back.
-/

namespace Covey

variable {l : List TableName} {now leaseNow : ℤ}

/-! ## Reservations and conflicts -/

theorem requestReservation_announces {req : RequestReservationReq} :
    Announces [.reservations, .conflicts, .events] (requestReservation req now) :=
  leasedMutation_emits fun _ => .bind requireRole_touches fun _ => .bind (.lift _) fun _ =>
    .bind load_touches fun _ => .bind (.lift _) fun _ => .bind (.lift _) fun _ =>
    .bind (.lift _) fun _ => .bind (.lift _) fun _ => .bind (.lift _) fun _ =>
    .bind (.forEach (fun _ => .lift _) _) fun _ => .bind (.lift _) fun _ =>
    .bind (.of_readOnly findOverlappingReservations_readOnly) fun _ => .bind freshId_touches fun _ =>
    .bind (insertInto_touches (fun _ _ => rfl) _) fun _ =>
    .bind (.forEach (fun _ => .bind (.lift _) fun _ => upsertInto_touches (fun _ _ => rfl) _ _) _)
      fun _ => .event (by decide) fun _ => .pure _

theorem releaseReservation_announces {req : ReleaseReservationReq} :
    Announces [.reservations, .conflicts, .events] (releaseReservation req now) :=
  mutation_emits <| .bind requireRole_touches fun _ => .bind (.lift _) fun _ =>
    .bind load_touches fun _ => .bind (.lift _) fun _ =>
    .bind (updateIn_touches (fun _ _ => rfl) _ _) fun _ => .bind (.ensure _ _) fun _ =>
    .bind (resolveReservationOverlapConflicts_touches (by decide)) fun _ =>
    .bind (.ensure _ _) fun _ => .event (by decide) fun _ => .pure _

theorem renewReservation_announces {req : RenewReservationReq} :
    Announces [.reservations, .events] (renewReservation req now) :=
  leasedMutation_emits fun _ => .bind requireRole_touches fun _ => .bind (.lift _) fun _ =>
    .bind load_touches fun _ => .bind (.ensure _ _) fun _ => .bind (.ensure _ _) fun _ =>
    .bind (updateIn_touches (fun _ _ => rfl) _ _) fun _ => .bind (.ensure _ _) fun _ =>
    .bind (.ensure _ _) fun _ => .bind (.ensure _ _) fun _ =>
    .event (by decide) fun _ => .pure _

theorem resolveConflict_announces {req : ResolveConflictReq} :
    Announces [.conflicts, .events] (resolveConflict req now) :=
  mutation_emits <| .bind requireRole_touches fun _ => .bind load_touches fun _ =>
    .bind (.lift _) fun _ => .bind (updateIn_touches (fun _ _ => rfl) _ _) fun _ =>
    .bind (.ensure _ _) fun _ => .event (by decide) fun _ => .pure _

/-! ## Blockers -/

theorem requireOpenSpecScope_touches {req : RecordOperatorBlockerReq} :
    (requireOpenSpecScope req).Within (Touches l) := by
  refine .bind .get fun s => ?_
  split
  · exact .fail _
  · exact .ensure _ _

theorem requireBlockerTarget_touches {req : RecordOperatorBlockerReq} :
    (requireBlockerTarget req).Within (Touches l) := by
  unfold requireBlockerTarget
  split
  · exact .bind load_touches fun _ => requireOpenSpecScope_touches
  · split
    · exact .fail _
    · exact .bind (.lift _) fun _ => .bind load_touches fun _ => .bind (.ensure _ _) fun _ =>
        requireOpenSpecScope_touches

theorem recordOperatorBlocker_announces {req : RecordOperatorBlockerReq} :
    Announces [.operatorBlockers, .events] (recordOperatorBlocker req now) := by
  refine mutation_announces <| .bind (.of_quiet requireRole_touches) fun _ => .bind (.lift _) fun _ =>
    .bind (.lift _) fun _ => .bind (.lift _) fun _ => .bind (.lift _) fun _ =>
    .bind (.of_quiet option_forM_touches) fun _ =>
    .bind (.of_quiet requireBlockerTarget_touches) fun _ =>
    .bind (.of_quiet lookup_touches) fun found => ?_
  cases found with
  | some row => exact .bind (.lift _) fun _ => .bind (.ensure _ _) fun _ => .pure _
  | none =>
    exact (Emits.bind (insertInto_touches (fun _ _ => rfl) _) fun _ =>
      .event (by decide) fun _ => .bind load_touches fun _ => .pure _).announces

theorem resolveOperatorBlocker_announces {req : ResolveOperatorBlockerReq} :
    Announces [.operatorBlockers, .events] (resolveOperatorBlocker req now) := by
  refine mutation_announces <| .bind (.of_quiet requireRole_touches) fun _ => .bind (.lift _) fun _ =>
    .bind (.lift _) fun _ => .bind (.of_quiet load_touches) fun existing => ?_
  split_ifs
  · exact .bind (.ensure _ _) fun _ => .pure _
  · exact (Emits.bind (updateIn_touches (fun _ _ => rfl) _ _) fun _ =>
      .event (by decide) fun _ => .bind load_touches fun _ => .pure _).announces

theorem recordProseApplyBlocker_announces {req : RecordProseApplyBlockerReq} :
    Announces [.proseApplyBlockers, .events] (recordProseApplyBlocker req now) :=
  mutation_emits <| .bind requireRole_touches fun _ => .bind .get fun _ =>
    .bind (.ensure _ _) fun _ => .bind (.ensure _ _) fun _ =>
    .bind (upsertInto_touches (fun _ _ => rfl) _ _) fun _ =>
    .event (by decide) fun _ => .pure _

/-! ## VCS records -/

theorem recordVcsWorkspace_announces {req : RecordVcsWorkspaceReq} :
    Announces [.vcsWorkspaces, .events] (recordVcsWorkspace req now) :=
  mutation_emits <| .bind requireRole_touches fun _ => .bind (.lift _) fun _ =>
    .bind (.lift _) fun _ => .bind .get fun _ => .bind (.ensure _ _) fun _ =>
    .bind (upsertInto_touches (fun _ _ => rfl) _ _) fun _ =>
    .event (by decide) fun _ => .bind load_touches fun _ => .pure _

theorem observeVcsWorkspace_announces {req : ObserveVcsWorkspaceReq} :
    Announces [.vcsWorkspaces, .events] (observeVcsWorkspace req now) :=
  mutation_emits <| .bind requireRole_touches fun _ => .bind load_touches fun _ =>
    .bind (updateIn_touches (fun _ _ => rfl) _ _) fun _ =>
    .event (by decide) fun _ => .bind load_touches fun _ => .pure _

theorem recordVcsPacketStackEntry_announces {req : RecordVcsPacketStackEntryReq} :
    Announces [.vcsPacketStackEntries, .events] (recordVcsPacketStackEntry req now) :=
  mutation_emits <| .bind requireRole_touches fun _ =>
    .bind (.of_readOnly validatePacketStackEntry_readOnly) fun _ =>
    .bind (upsertInto_touches (fun _ _ => rfl) _ _) fun _ =>
    .event (by decide) fun _ => .bind load_touches fun _ => .pure _

theorem validatePrPublication_touches {req : RecordVcsPrPublicationReq} :
    (validatePrPublication req).Within (Touches l) := by
  refine .bind (.lift _) fun _ => ?_
  extract_lets rest
  have hrest : ∀ u, Tx.Within (Touches l) (rest u) := fun _ =>
    .bind (.ensure _ _) fun _ => .bind (.ensure _ _) fun _ => .ensure _ _
  split
  · split
    · exact .bind (.fail _) hrest
    · exact .bind (.ensure _ _) fun _ => .bind (.ensure _ _) fun _ => .bind (.whenever fun _ =>
        .bind selectFrom_touches fun _ => .ensure _ _) hrest
  · split
    · exact .bind (.fail _) hrest
    · exact .bind load_touches fun _ => .bind (.ensure _ _) hrest

theorem recordVcsPrPublication_announces {req : RecordVcsPrPublicationReq} :
    Announces [.vcsPrPublications, .events] (recordVcsPrPublication req now) :=
  mutation_emits <| .bind requireRole_touches fun _ => .bind validatePrPublication_touches fun _ =>
    .bind (upsertInto_touches (fun _ _ => rfl) _ _) fun _ =>
    .event (by decide) fun _ => .bind load_touches fun _ => .pure _

/-! ## Calls -/

/-- The tables that an operation writes. -/
def Operation.tables : Operation → List TableName
  | .registerSession _ | .heartbeat _ => [.sessions, .events]
  | .recordRuntimeAttestation _ => [.runtimeAttestations, .events]
  | .exitSession _ | .reapStaleSessions _ | .expireOldClaims => expiryTables ++ [.events]
  | .expireOldReservations => [.reservations, .conflicts, .events]
  | .submitMetaTask _ => [.metaTasks, .events]
  | .cancelMetaTask _ => cancelTables
  | .createSubtask _ | .createWorkSubtask _ | .importBdV1WorkSubtask _ | .importBdV1 _ _ =>
    .dependencies :: creationTables
  | .importOpenSpec _ _ => openSpecTables
  | .importProse _ => .proseTasksets :: .proseSubtaskScopes :: .dependencies :: creationTables
  | .claimNextSubtask _ | .claimNextRoutedSubtask _ => claimNextTables
  | .claimSubtask _ => claimTables
  | .startSubtask _ => [.subtasks, .reviews, .events]
  | .abandonSubtask _ => [.sessions, .metaTasks, .subtasks, .claims, .events]
  | .releaseClaim _ => [.sessions, .subtasks, .claims, .reservations, .events]
  | .renewClaim _ => [.claims, .events]
  | .finishSubtask _ | .retrySubtask _ | .failSubtask _ => outcomeTables
  | .publishArtifact _ => [.subtasks, .artifacts, .reviews, .events]
  | .requestReview _ => [.subtasks, .fenceCounters, .reviews, .events]
  | .decideReview _ => decisionTables
  | .recordPermissiveLandingReceipt _ => permissiveTables
  | .reconcileChangesRequestedFollowups _ => followupTables
  | .enqueueForApply _ | .reconcileApplyQueue _ => enqueueTables
  | .claimNextReadyQueueItem _ | .markInFlight _ | .supersedeQueueItem _ => [.readyQueue, .events]
  | .recordApplyVerification _ => [.applyVerifications, .events]
  | .recordApplyGateBlocker _ => [.applyGateBlockers, .events]
  | .recordSettlementReconcileBlocker _ => [.settlementReconcileBlockers, .events]
  | .recordApplyWorktree _ | .markApplyWorktreeState _ => [.applyWorktrees, .events]
  | .markApplied _ => settleTables
  | .recordLandingReceipt _ => [.landingReceipts]
  | .recordOpenSpecArchiveStatus _ => archiveTables
  | .beginOpenSpecArchiveCleanup _ | .finishOpenSpecArchiveCleanup _ => cleanupTables
  | .requestReservation _ | .releaseReservation _ => [.reservations, .conflicts, .events]
  | .renewReservation _ => [.reservations, .events]
  | .resolveConflict _ => [.conflicts, .events]
  | .recordOperatorBlocker _ | .resolveOperatorBlocker _ => [.operatorBlockers, .events]
  | .recordProseApplyBlocker _ => [.proseApplyBlockers, .events]
  | .recordVcsWorkspace _ | .observeVcsWorkspace _ => [.vcsWorkspaces, .events]
  | .recordVcsPacketStackEntry _ => [.vcsPacketStackEntries, .events]
  | .recordVcsPrPublication _ => [.vcsPrPublications, .events]

theorem Operation.run_touches (env : Env) (op : Operation) :
    (op.run env now).Within (Touches op.tables) := by
  cases op with
  | registerSession req => exact registerSession_announces.touches
  | recordRuntimeAttestation req => exact recordRuntimeAttestation_announces.touches
  | heartbeat req => exact heartbeat_announces.touches
  | exitSession req => exact exitSession_announces.touches
  | reapStaleSessions staleThreshold => exact reapStaleSessions_touches
  | expireOldClaims => exact expireOldClaims_touches
  | expireOldReservations => exact expireOldReservations_touches
  | submitMetaTask req => exact submitMetaTask_announces.touches
  | cancelMetaTask req => exact cancelMetaTask_announces.touches
  | createSubtask req => exact createWorkSubtask_announces.touches
  | createWorkSubtask req => exact createWorkSubtask_announces.touches
  | importOpenSpec sessionToken source => exact importOpenSpec_touches
  | importBdV1WorkSubtask req => exact importBdV1WorkSubtask_announces.touches
  | importBdV1 req source => exact importBdV1_announces.touches
  | importProse req => exact importProse_announces.touches
  | claimNextSubtask req => exact claimNextSubtask_touches
  | claimNextRoutedSubtask req => exact claimNextRoutedSubtask_touches
  | claimSubtask req => exact claimSubtask_announces.touches
  | startSubtask req => exact startSubtask_announces.touches
  | abandonSubtask req => exact abandonSubtask_announces.touches
  | releaseClaim req => exact releaseClaim_announces.touches
  | renewClaim req => exact renewClaim_announces.touches
  | finishSubtask req => exact finishSubtask_announces.touches
  | retrySubtask req => exact recordFailedAttempt_announces.touches
  | failSubtask req => exact recordFailedAttempt_announces.touches
  | publishArtifact req => exact publishArtifact_touches
  | requestReview req => exact requestReview_announces.touches
  | decideReview req => exact decideReview_announces.touches
  | recordPermissiveLandingReceipt req => exact recordPermissiveLandingReceipt_announces.touches
  | reconcileChangesRequestedFollowups req => exact reconcileChangesRequestedFollowups_touches
  | enqueueForApply req => exact enqueueForApply_touches
  | reconcileApplyQueue req => exact reconcileApplyQueue_touches
  | claimNextReadyQueueItem req => exact claimNextReadyQueueItem_touches
  | markInFlight req => exact markInFlight_announces.touches
  | supersedeQueueItem req => exact supersedeQueueItem_announces.touches
  | recordApplyVerification req => exact recordApplyVerification_announces.touches
  | recordApplyGateBlocker req => exact recordApplyGateBlocker_announces.touches
  | recordSettlementReconcileBlocker req => exact recordSettlementReconcileBlocker_announces.touches
  | recordApplyWorktree req => exact recordApplyWorktree_announces.touches
  | markApplyWorktreeState req => exact markApplyWorktreeState_announces.touches
  | markApplied req => exact markApplied_announces.touches
  | recordLandingReceipt req => exact recordLandingReceipt_touches
  | recordOpenSpecArchiveStatus req => exact recordOpenSpecArchiveStatus_announces.touches
  | beginOpenSpecArchiveCleanup req => exact Touches.weaken beginOpenSpecArchiveCleanup_announces.touches cleanupLeaseTables_subset
  | finishOpenSpecArchiveCleanup req => exact finishOpenSpecArchiveCleanup_touches
  | requestReservation req => exact requestReservation_announces.touches
  | releaseReservation req => exact releaseReservation_announces.touches
  | renewReservation req => exact renewReservation_announces.touches
  | resolveConflict req => exact resolveConflict_announces.touches
  | recordOperatorBlocker req => exact recordOperatorBlocker_announces.touches
  | resolveOperatorBlocker req => exact resolveOperatorBlocker_announces.touches
  | recordProseApplyBlocker req => exact recordProseApplyBlocker_announces.touches
  | recordVcsWorkspace req => exact recordVcsWorkspace_announces.touches
  | observeVcsWorkspace req => exact observeVcsWorkspace_announces.touches
  | recordVcsPacketStackEntry req => exact recordVcsPacketStackEntry_announces.touches
  | recordVcsPrPublication req => exact recordVcsPrPublication_announces.touches

/-- What an operation keeps, a call of it keeps. -/
theorem next_keeps {env : Env} {s : Db} {c : Call} {R : Db → Db → Prop} [IsTrans Db R]
    (hR : Overlooks R) (hrun : Tx.Keeps R (c.op.run env c.now)) : R s (next env s c) := by
  by_cases hok : c.Succeeds env s
  · obtain ⟨v, s₀, rfl, h⟩ := hok.run
    exact IsTrans.trans _ _ _ (hR s s.idempotency s.leaseClock c.uuids) (hrun h)
  · rw [next_of_failed hok]
    exact hR s s.idempotency s.leaseClock c.uuids

/-- A call leaves the tables alone that its operation does not write. -/
theorem next_touches {env : Env} {s : Db} {c : Call} : Touches c.op.tables s (next env s c) := by
  by_cases hok : c.Succeeds env s
  · obtain ⟨v, s₀, rfl, hrun⟩ := hok.run
    have h := (Operation.run_touches env c.op).run hrun
    exact ⟨h.rows, h.idempotency, h.subtasks, h.events, h.clock⟩
  · rw [next_of_failed hok]
    exact ⟨rfl, fun _ _ h => h, fun _ r h => ⟨r, h, rfl⟩, List.prefix_rfl, le_rfl⟩

end Covey

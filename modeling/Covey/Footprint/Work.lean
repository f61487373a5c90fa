import Covey.Footprint.Base

/-!
# Footprints of sessions, work and reviews

The tables that the operations of `src/ops/session.rs`, `src/ops/maintenance.rs`,
`src/ops/meta_task.rs`, `src/ops/workflow` and `src/ops/import` write.
-/

namespace Covey

variable {l : List TableName} {now leaseNow : ℤ}

/-! ## Sessions and maintenance -/

theorem registerSession_announces {req : RegisterSessionReq} :
    Announces [.sessions, .events] (registerSession req now) :=
  .bind (.lift _) fun _ => .bind (.lift _) fun _ => leasedMutation_emits fun _ =>
    .bind (.bind selectFrom_touches fun _ => .ensure _ _) fun _ => .bind freshId_touches fun _ =>
    .bind (insertInto_touches (fun _ _ => rfl) _) fun _ =>
    .event (by decide) fun _ => .pure _

theorem recordRuntimeAttestation_announces {req : RecordRuntimeAttestationReq} :
    Announces [.runtimeAttestations, .events] (recordRuntimeAttestation req now) :=
  mutation_emits <| .bind requireActiveSession_touches fun _ => .bind (.lift _) fun _ =>
    .bind (.lift _) fun _ => .bind (.ensure _ _) fun _ =>
    .bind (insertInto_touches (fun _ _ => rfl) _) fun _ =>
    .event (by decide) fun _ => .pure _

theorem heartbeat_announces {req : HeartbeatReq} :
    Announces [.sessions, .events] (heartbeat req now) :=
  leasedMutation_emits fun _ => .bind load_touches fun _ => .bind (.lift _) fun _ =>
    .bind (updateIn_touches (fun _ _ => rfl) _ _) fun _ =>
    .event (by decide) fun _ => .pure _

theorem exitSession_announces {req : ExitSessionReq} :
    Announces (expiryTables ++ [.events]) (exitSession req now) :=
  mutation_emits <| .bind load_touches fun _ => .bind (.lift _) fun _ =>
    .bind (updateIn_touches (fun _ _ => rfl) _ _) fun _ => .bind (.ensure _ _) fun _ =>
    .bind (.bind selectFrom_touches fun _ => .bind (.mapEach (fun _ => .lift _) _) fun _ =>
      .forEach (fun _ => expireClaim_touches (by decide)) _) fun _ =>
    .event (by decide) fun _ => .pure _

theorem loadExpirableClaims_touches : (loadExpirableClaims now).Within (Touches l) :=
  .bind .get fun _ => .mapEach (fun _ => .lift _) _

theorem reapStaleSessions_touches {staleThreshold : ℤ} :
    (reapStaleSessions staleThreshold now).Within (Touches (expiryTables ++ [.events])) :=
  .bind advanceLeaseClock_touches fun _ => .bind (updateIn_touches (fun _ _ => rfl) _ _) fun _ =>
    .bind loadExpirableClaims_touches fun _ => .bind (expireClaims_touches (by decide)) fun _ =>
    .bind (.whenever fun _ => appendEvent_touches (by decide)) fun _ => .pure _

theorem expireOldClaims_touches :
    (expireOldClaims now).Within (Touches (expiryTables ++ [.events])) :=
  .bind advanceLeaseClock_touches fun _ => .bind loadExpirableClaims_touches fun _ =>
    .bind (expireClaims_touches (by decide)) fun _ =>
    .bind (.whenever fun _ => appendEvent_touches (by decide)) fun _ => .pure _

theorem expireOldReservations_touches :
    (expireOldReservations now).Within (Touches [.reservations, .conflicts, .events]) :=
  .bind advanceLeaseClock_touches fun _ => .bind selectFrom_touches fun _ =>
    .bind (updateIn_touches (fun _ _ => rfl) _ _) fun _ =>
    .bind (.forEach (fun _ => resolveReservationOverlapConflicts_touches (by decide)) _) fun _ =>
    .bind (.whenever fun _ => appendEvent_touches (by decide)) fun _ => .pure _

/-! ## Meta-tasks and the creation of work -/

theorem submitMetaTaskTx_emits {k : SessionToken} {prompt : PromptText}
    (hl : [.metaTasks, .events] ⊆ l) : Emits l (submitMetaTaskTx k prompt now) :=
  Emits.weaken (.bind requireRole_touches fun _ => .bind (.lift _) fun _ =>
    .bind freshId_touches fun _ => .bind (insertInto_touches (fun _ _ => rfl) _) fun _ =>
    .event (by decide) fun _ => .pure _) hl

theorem submitMetaTask_announces {req : SubmitMetaTaskReq} :
    Announces [.metaTasks, .events] (submitMetaTask req now) :=
  mutation_emits <| .first (submitMetaTaskTx_emits (by decide)) fun _ => .pure _

/-- The tables that a cancellation writes. -/
def cancelTables : List TableName :=
  [.sessions, .metaTasks, .subtasks, .claims, .readyQueue, .events]

theorem cancelMetaTask_announces {req : CancelMetaTaskReq} :
    Announces cancelTables (cancelMetaTask req now) :=
  mutation_emits <| .bind requireRole_touches fun _ => .bind (.lift _) fun _ =>
    .bind load_touches fun _ => .bind (.lift _) fun _ =>
    .bind (updateIn_touches (fun _ _ => rfl) _ _) fun _ => .bind (.ensure _ _) fun _ =>
    .bind (.bind .get fun _ => .mapEach (fun _ => .lift _) _) fun _ =>
    .bind (.forEach (fun _ => .bind (updateIn_touches (fun _ _ => rfl) _ _) fun _ =>
      clearOwnerOfClaim_touches (by decide)) _) fun _ =>
    .bind selectFrom_touches fun _ => .bind (updateIn_touches (fun _ _ => rfl) _ _) fun _ =>
    .bind (updateSubtasks_touches (by decide) _ _ fun _ => rfl) fun _ =>
    .event (by decide) fun _ => .pure _

theorem insertSubtaskDependencies_touches {id : SubtaskId} {dependsOn : List SubtaskId}
    (hl : [.dependencies] ⊆ l) : (insertSubtaskDependencies id dependsOn now).Within (Touches l) :=
  Touches.weaken (.bind (.lift _) fun _ => .forEach (fun _ => .bind subtaskExists_touches fun _ =>
    .bind (.ensure _ _) fun _ => insertInto_touches (fun _ _ => rfl) _) _) hl

/-- The tables that the creation of work writes, besides its dependencies. -/
def creationTables : List TableName := [.metaTasks, .subtasks, .fenceCounters, .events]

theorem insertWorkSubtask_emits {req : CreateWorkSubtaskReq} (hl : creationTables ⊆ l) :
    Emits l (insertWorkSubtask req now) :=
  Emits.weaken (.bind requireRole_touches fun _ => .bind (.lift _) fun _ =>
    .bind (.lift _) fun _ => .bind load_touches fun _ =>
    .bind ensureMetaTaskIsSchedulable_touches fun _ => .bind requestedSubtaskId_touches fun _ =>
    .bind (.lift _) fun _ => .bind subtaskExists_touches fun _ => .bind (.ensure _ _) fun _ =>
    .bind (insertSubtask_touches (by decide)) fun _ =>
    .event (by decide) fun _ =>
    .bind (refreshMetaTaskState_touches (by decide)) fun _ => .pure _) hl

theorem createWorkSubtaskTx_emits {req : CreateWorkSubtaskReq}
    (hl : .dependencies :: creationTables ⊆ l) :
    Emits l (createWorkSubtaskTx req now) :=
  Emits.weaken (.first (insertWorkSubtask_emits (by decide)) fun _ =>
    .bind (insertSubtaskDependencies_touches (by decide)) fun _ => .pure _) hl

theorem createWorkSubtask_announces {req : CreateWorkSubtaskReq} :
    Announces (.dependencies :: creationTables) (createWorkSubtask req now) :=
  mutation_emits <| .first (createWorkSubtaskTx_emits (by decide)) fun _ => .pure _

/-! ## Importers -/

theorem recordOpenSpecImport_touches {k : SessionToken} {provenance : OpenSpecImportProvenance}
    (hl : [.importProvenance, .events] ⊆ l) :
    (recordOpenSpecImport k provenance now).Within (Touches l) := by
  refine Touches.weaken (.bind (.bind lookup_touches fun found => ?_) fun _ =>
    appendSessionEvent_touches (by decide)) hl
  cases found with
  | none => exact insertInto_touches (fun _ _ => rfl) _
  | some _ => exact .bind (updateIn_touches (fun _ _ => rfl) _ _) fun _ => .pure _

/-- The tables that an OpenSpec import writes. -/
def openSpecTables : List TableName :=
  .importProvenance :: .subtaskScopes :: .dependencies :: creationTables

theorem applyOpenSpecMetaTask_touches {k : SessionToken} {diff : OpenSpecImportDiff}
    (hl : [.metaTasks, .importProvenance, .events] ⊆ l) :
    (applyOpenSpecMetaTask k diff now).Within (Touches l) := by
  refine Touches.weaken ?_ hl
  unfold applyOpenSpecMetaTask
  cases diff.metaAction with
  | created =>
    exact .bind (insertInto_touches (fun _ _ => rfl) _) fun _ =>
      recordOpenSpecImport_touches (by decide)
  | updated =>
    exact .bind (updateIn_touches (fun _ _ => rfl) _ _) fun _ =>
      recordOpenSpecImport_touches (by decide)
  | unchanged => exact .pure _
  | conflict => exact .pure _

theorem applyOpenSpecSubtask_touches {k : SessionToken} {m : MetaTaskId}
    {record : OpenSpecSubtaskRecord} :
    (applyOpenSpecSubtask k m now record).Within (Touches openSpecTables) := by
  unfold applyOpenSpecSubtask
  cases record.action with
  | created =>
    exact .bind (.lift _) fun _ => .bind (.lift _) fun _ =>
      .bind (createWorkSubtaskTx_emits (by decide)).touches fun _ =>
      recordOpenSpecImport_touches (by decide)
  | updated =>
    refine .bind (updateSubtasks_touches (by decide) _ _ fun _ => rfl) fun _ => ?_
    split_ifs
    · exact .bind .get fun _ => .ensure _ _
    · exact recordOpenSpecImport_touches (by decide)
  | unchanged => exact .pure _
  | conflict => exact .pure _

theorem upsertSubtaskDependencies_touches {records : List OpenSpecSubtaskRecord}
    (hl : [.dependencies] ⊆ l) : (upsertSubtaskDependencies records now).Within (Touches l) := by
  refine Touches.weaken (.forEach (fun record => .bind (.delete (fun _ _ => .of_eq rfl) _) fun _ =>
    .forEach (fun dependency => .bind lookup_touches fun found => ?_) _) _) hl
  cases found with
  | none => exact insertInto_touches (fun _ _ => rfl) _
  | some _ => exact .bind (updateIn_touches (fun _ _ => rfl) _ _) fun _ => .pure _

theorem upsertOpenSpecSubtaskScope_touches {changeId : OpenSpecChangeId}
    {records : List OpenSpecSubtaskRecord} (hl : [.subtaskScopes] ⊆ l) :
    (upsertOpenSpecSubtaskScope changeId records now).Within (Touches l) := by
  refine Touches.weaken (.forEach (fun record => .bind lookup_touches fun found => ?_) _) hl
  cases found with
  | none => exact insertInto_touches (fun _ _ => rfl) _
  | some _ => exact .bind (updateIn_touches (fun _ _ => rfl) _ _) fun _ => .pure _

theorem diffOpenSpecTask_touches {source : OpenSpecSourceSnapshot} {m : MetaTaskId}
    {task : OpenSpecSourceTask} : (diffOpenSpecTask source m task).Within (Touches l) := by
  refine .bind (.lift _) fun _ => .bind (.lift _) fun id => .bind .get fun s => ?_
  cases s.subtasks.get? id with
  | none => exact .pure _
  | some row =>
    refine .bind (.lift _) fun _ => ?_
    split_ifs
    all_goals exact .pure _

theorem buildOpenSpecImportDiff_touches {source : OpenSpecSourceSnapshot} :
    (buildOpenSpecImportDiff source).Within (Touches l) := by
  refine .bind (.lift _) fun m => .bind (.lift _) fun _ => .bind .get fun s => ?_
  cases s.metaTasks.get? m with
  | none =>
    exact .bind (.pure _) fun _ => .bind (.mapEach (fun _ => diffOpenSpecTask_touches) _) fun _ =>
      .pure _
  | some row =>
    exact .bind (.lift _) fun _ => .bind (.pure _) fun _ =>
      .bind (.mapEach (fun _ => diffOpenSpecTask_touches) _) fun _ => .pure _

theorem importOpenSpec_touches {k : SessionToken} {source : OpenSpecSourceSnapshot} :
    (importOpenSpec k source now).Within (Touches openSpecTables) :=
  .bind (.lift _) fun _ => .bind requireRole_touches fun _ =>
    .bind buildOpenSpecImportDiff_touches fun _ => .bind (.whenever fun _ =>
      .bind (applyOpenSpecMetaTask_touches (by decide)) fun _ =>
      .bind (.forEach (fun _ => applyOpenSpecSubtask_touches) _) fun _ =>
      .bind (upsertSubtaskDependencies_touches (by decide)) fun _ =>
      upsertOpenSpecSubtaskScope_touches (by decide)) fun _ => .pure _

theorem resolveImportBdV1Destination_announces {k : SessionToken}
    {destination : ImportBdV1Destination} (hl : [.metaTasks, .events] ⊆ l) :
    Announces l (resolveImportBdV1Destination k destination now) := by
  cases destination with
  | existingMetaTask raw =>
    refine .bind (.lift _) fun _ => ?_
    split
    · exact .fail _
    · exact .bind (.of_quiet ensureMetaTaskIsSchedulable_touches) fun _ => .pure _
  | newMetaTask raw =>
    exact .bind (.lift _) fun _ => .bind (.lift _) fun _ => (submitMetaTaskTx_emits hl).announces

theorem importBdV1WorkSubtaskTx_announces {env : Env} {req : ImportBdV1WorkSubtaskReq} :
    Announces (.dependencies :: creationTables) (importBdV1WorkSubtaskTx env req now) := by
  refine .bind (.of_quiet requireRole_touches) fun _ => .bind (.lift _) fun _ =>
    .bind (.lift _) fun _ => .bind (.lift _) fun _ =>
    .bind (resolveImportBdV1Destination_announces (by decide)) fun _ =>
    .bind (.lift _) fun _ => .bind (.of_quiet subtaskExists_touches) fun found => ?_
  split_ifs
  · exact .bind (.of_quiet load_touches) fun _ => .bind (.ensure _ _) fun _ => .pure _
  · exact .bind (.lift _) fun _ => .bind (.lift _) fun _ => .bind (.lift _) fun _ =>
      .bind (.lift _) fun _ => (createWorkSubtaskTx_emits (by decide)).announces

theorem importBdV1WorkSubtask_announces {env : Env} {req : ImportBdV1WorkSubtaskReq} :
    Announces (.dependencies :: creationTables) (importBdV1WorkSubtask env req now) :=
  .bind (.lift _) fun _ => withIdempotentMutation_announces <|
    .bind importBdV1WorkSubtaskTx_announces fun _ => .pure _

theorem existingSubtaskMatchesDestination_touches {env : Env} {issueId : String} {m : MetaTaskId} :
    (existingSubtaskMatchesDestination env issueId m).Within (Touches l) := by
  unfold existingSubtaskMatchesDestination
  split
  · exact .pure _
  · refine .bind subtaskExists_touches fun found => ?_
    split_ifs
    · exact .bind load_touches fun _ => .bind (.ensure _ _) fun _ => .pure _
    · exact .pure _

theorem importSourceIssue_announces {env : Env} {req : ImportBdV1Req} {m : MetaTaskId}
    {labels : List (String × String)} {position : ℕ} {issue : SourceIssue} :
    Announces (.dependencies :: creationTables)
      (importSourceIssue env req m labels now position issue) := by
  unfold importSourceIssue
  split
  · exact .bind (.of_quiet existingSubtaskMatchesDestination_touches) fun _ =>
      .bind importBdV1WorkSubtaskTx_announces fun _ => .bind (.lift _) fun _ => .pure _
  · split
    · exact .bind (.pure _) fun _ => .pure _
    · exact .bind (.lift _) fun _ => .pure _

theorem importSourceIssues_announces {env : Env} {req : ImportBdV1Req} {m : MetaTaskId}
    {labels : List (String × String)} {items : List ImportBdV1ItemResult} {issues : List SourceIssue} :
    Announces (.dependencies :: creationTables)
      (importSourceIssues env req m labels now items issues) := by
  induction issues generalizing items with
  | nil => exact .pure _
  | cons issue rest ih => exact .bind importSourceIssue_announces fun _ => ih

theorem importBdV1_announces {env : Env} {req : ImportBdV1Req} {source : SourceSnapshot} :
    Announces (.dependencies :: creationTables) (importBdV1 env req source now) :=
  .bind (.lift _) fun _ => mutation_announces <| .bind (.of_quiet requireRole_touches) fun _ =>
    .bind (resolveImportBdV1Destination_announces (by decide)) fun _ =>
    .bind importSourceIssues_announces fun _ => .pure _

theorem importProse_announces {env : Env} {req : ImportProseReq} :
    Announces (.proseTasksets :: .proseSubtaskScopes :: .dependencies :: creationTables) (importProse env req now) :=
  mutation_emits <| .bind (.ensure _ _) fun _ => .bind requireRole_touches fun _ =>
    .first (submitMetaTaskTx_emits (by decide)) fun _ =>
    .bind (insertInto_touches (fun _ _ => rfl) _) fun _ =>
    .bind (.mapEach (fun _ => .bind (.lift _) fun _ =>
      .bind (createWorkSubtaskTx_emits (by decide)).touches fun _ =>
      .bind (insertInto_touches (fun _ _ => rfl) _) fun _ => .pure _) _) fun _ => .pure _

section Keeps

/-- The tables that the importers of beads and prose write themselves; the rest is the submission
    of a meta-task and creation. -/
def intakeTables : List TableName := [.proseTasksets, .proseSubtaskScopes]

variable {R : Db → Db → Prop} [Std.Refl R] [IsTrans Db R] {env : Env}

theorem resolveImportBdV1Destination_keeps (hR : ∀ s s', Touches intakeTables s s' → R s s')
    (hsubmit : ∀ k prompt, Tx.Keeps R (submitMetaTaskTx k prompt now)) {k : SessionToken}
    {destination : ImportBdV1Destination} :
    Tx.Keeps R (resolveImportBdV1Destination k destination now) := by
  cases destination with
  | existingMetaTask raw =>
    refine .bind (.lift _) fun _ => ?_
    cases Text.parse .metaTaskId raw with
    | error e => exact .fail _
    | ok m => exact .bind (ensureMetaTaskIsSchedulable_touches.mono hR).keeps fun _ => .pure _
  | newMetaTask raw => exact .bind (.lift _) fun _ => .bind (.lift _) fun _ => hsubmit _ _

theorem importBdV1WorkSubtaskTx_keeps (hR : ∀ s s', Touches intakeTables s s' → R s s')
    (hsubmit : ∀ k prompt, Tx.Keeps R (submitMetaTaskTx k prompt now))
    (hcreate : ∀ req, Tx.Keeps R (createWorkSubtaskTx req now)) {req : ImportBdV1WorkSubtaskReq} :
    Tx.Keeps R (importBdV1WorkSubtaskTx env req now) := by
  refine .bind (requireRole_touches.mono hR).keeps fun _ => .bind (.lift _) fun _ =>
    .bind (.lift _) fun _ => .bind (.lift _) fun _ =>
    .bind (resolveImportBdV1Destination_keeps hR hsubmit) fun _ =>
    .bind (.lift _) fun _ => .bind (subtaskExists_touches.mono hR).keeps fun found => ?_
  split_ifs
  · exact .bind (load_touches.mono hR).keeps fun _ => .bind (.ensure _ _) fun _ => .pure _
  · exact .bind (.lift _) fun _ => .bind (.lift _) fun _ => .bind (.lift _) fun _ =>
      .bind (.lift _) fun _ => hcreate _

theorem importBdV1WorkSubtask_keeps (hfree : Overlooks R)
    (hR : ∀ s s', Touches intakeTables s s' → R s s')
    (hsubmit : ∀ k prompt, Tx.Keeps R (submitMetaTaskTx k prompt now))
    (hcreate : ∀ req, Tx.Keeps R (createWorkSubtaskTx req now)) {req : ImportBdV1WorkSubtaskReq} :
    Tx.Keeps R (importBdV1WorkSubtask env req now) :=
  .bind (.lift _) fun _ => withIdempotentMutation_keeps hfree <|
    .bind (importBdV1WorkSubtaskTx_keeps hR hsubmit hcreate) fun _ => .pure _

theorem importSourceIssues_keeps (hR : ∀ s s', Touches intakeTables s s' → R s s')
    (hsubmit : ∀ k prompt, Tx.Keeps R (submitMetaTaskTx k prompt now))
    (hcreate : ∀ req, Tx.Keeps R (createWorkSubtaskTx req now)) {req : ImportBdV1Req}
    {m : MetaTaskId} {labels : List (String × String)} {items : List ImportBdV1ItemResult}
    {issues : List SourceIssue} :
    Tx.Keeps R (importSourceIssues env req m labels now items issues) := by
  induction issues generalizing items with
  | nil => exact .pure _
  | cons issue rest ih =>
    refine .bind ?_ fun _ => ih
    unfold importSourceIssue
    split
    · exact .bind (existingSubtaskMatchesDestination_touches.mono hR).keeps fun _ =>
        .bind (importBdV1WorkSubtaskTx_keeps hR hsubmit hcreate) fun _ => .bind (.lift _) fun _ => .pure _
    · split
      · exact .bind (.pure _) fun _ => .pure _
      · exact .bind (.lift _) fun _ => .pure _

theorem importBdV1_keeps (hfree : Overlooks R) (hR : ∀ s s', Touches intakeTables s s' → R s s')
    (hsubmit : ∀ k prompt, Tx.Keeps R (submitMetaTaskTx k prompt now))
    (hcreate : ∀ req, Tx.Keeps R (createWorkSubtaskTx req now)) {req : ImportBdV1Req}
    {source : SourceSnapshot} : Tx.Keeps R (importBdV1 env req source now) :=
  .bind (.lift _) fun _ => mutation_keeps hfree <| .bind (requireRole_touches.mono hR).keeps fun _ =>
    .bind (resolveImportBdV1Destination_keeps hR hsubmit) fun _ =>
    .bind (importSourceIssues_keeps hR hsubmit hcreate) fun _ => .pure _

theorem importProse_keeps (hfree : Overlooks R) (hR : ∀ s s', Touches intakeTables s s' → R s s')
    (hsubmit : ∀ k prompt, Tx.Keeps R (submitMetaTaskTx k prompt now))
    (hcreate : ∀ req, Tx.Keeps R (createWorkSubtaskTx req now)) {req : ImportProseReq} :
    Tx.Keeps R (importProse env req now) := by
  refine mutation_keeps hfree <| .bind (.ensure _ _) fun _ =>
    .bind (requireRole_touches.mono hR).keeps fun _ =>
    .bind (hsubmit _ _) fun _ =>
    .bind ((insertInto_touches (fun _ _ => rfl) _).mono hR).keeps fun _ =>
    .bind (.mapEach fun _ _ => .bind (.lift _) fun _ => .bind (hcreate _) fun _ => ?_) fun _ => .pure _
  exact .bind ((insertInto_touches (fun _ _ => rfl) _).mono hR).keeps fun _ => .pure _

end Keeps

/-! ## Claims -/

theorem requireClaimable_touches {session : SessionRow} {id : SubtaskId} (hl : expiryTables ⊆ l) :
    (requireClaimable session id leaseNow now).Within (Touches l) := by
  refine .bind (expireClaimIfNeededForSubtask_touches hl) fun _ => .bind load_touches fun _ =>
    .bind ensureMetaTaskIsSchedulable_touches fun _ => .bind (.lift _) fun _ => .bind .get fun _ =>
    .bind (.ensure _ _) fun _ => .bind (.bind selectFrom_touches fun _ => .pure _) fun owner => ?_
  cases owner with
  | none => exact .bind (.lift _) fun _ => .pure _
  | some heldBy => exact .bind (.fail _) fun _ => .bind (.lift _) fun _ => .pure _

/-- The tables that taking a claim writes. -/
def claimTables : List TableName := .fenceCounters :: .events :: expiryTables

theorem openClaim_emits {k : SessionToken} {r : SubtaskRow} {duration : LeaseDurationMs}
    (hl : claimTables ⊆ l) : Emits l (openClaim k r duration leaseNow now) := by
  refine Emits.weaken (.bind (issueFenceSeq_touches (by decide)) fun _ =>
    .bind freshId_touches fun _ => .bind (.lift _) fun _ =>
    .bind (insertInto_touches (fun _ _ => rfl) _) fun _ =>
    .bind (updateSubtasks_touches (by decide) _ _ fun _ => rfl) fun _ => ?_) hl
  split_ifs
  · exact .bind (.delete (fun _ _ => .of_eq rfl) _) fun _ => .bind load_touches fun _ => .fail _
  · refine .bind (updateIn_touches (fun _ _ => rfl) _ _) fun _ => ?_
    split_ifs
    · exact .bind load_touches fun _ => .fail _
    · exact .event (by decide) fun _ => .pure _

theorem claimSelectedSubtask_emits {session : SessionRow} {k : SessionToken} {id : SubtaskId}
    {duration : LeaseDurationMs} (hl : claimTables ⊆ l) :
    Emits l (claimSelectedSubtask session k id duration leaseNow now) :=
  Emits.weaken (.bind (requireClaimable_touches (by decide)) fun _ =>
    openClaim_emits (by decide)) hl

theorem requireIdleSession_touches {k : SessionToken} : (requireIdleSession k).Within (Touches l) := by
  refine .bind requireActiveSession_touches fun session => ?_
  cases session.activeSubtaskId with
  | none => exact .pure _
  | some active => exact .bind (.fail _) fun _ => .pure _

theorem claimSubtask_announces {req : ClaimSubtaskReq} :
    Announces claimTables (claimSubtask req now) :=
  leasedMutation_emits fun _ => .bind requireIdleSession_touches fun _ =>
    .bind subtaskExists_touches fun _ => .bind (.ensure _ _) fun _ =>
    .first (claimSelectedSubtask_emits (by decide)) fun _ => .pure _

/-! ## Repair follow-ups -/

theorem createReviewFollowupSubtask_touches {source : SubtaskRow} {d : ArtifactDigest}
    {findings : FindingsDigest} {k : SessionToken} {reviewId : ReviewId}
    (hl : [.subtasks, .fenceCounters, .reviewFollowups] ⊆ l) :
    (createReviewFollowupSubtask source d findings k reviewId now).Within (Touches l) :=
  Touches.weaken (.bind freshId_touches fun _ => .bind lookup_touches fun _ => .bind (.lift _) fun _ =>
    .bind (insertSubtask_touches (by decide)) fun _ =>
    .bind (insertInto_touches (fun _ _ => rfl) _) fun _ => .pure _) hl

theorem reviveAbandonedReviewFollowups_touches (hl : [.subtasks] ⊆ l) :
    (reviveAbandonedReviewFollowups now).Within (Touches l) := by
  refine Touches.weaken (.bind .get fun _ => .bind (.forEach (fun _ => ?_) _) fun _ => .pure _) hl
  exact .bind (updateSubtasks_touches (by decide) _ _ fun _ => rfl) fun _ => .pure _

/-- The tables that the reconciliation of repair follow-ups writes. -/
def followupTables : List TableName := [.subtasks, .fenceCounters, .reviewFollowups]

theorem ensureChangesRequestedFollowupBlocks_touches {k : SessionToken} (hl : followupTables ⊆ l) :
    (ensureChangesRequestedFollowupBlocks k now).Within (Touches l) := by
  refine Touches.weaken (.bind (reviveAbandonedReviewFollowups_touches (by decide)) fun _ =>
    .bind .get fun _ => .bind (.mapEach (fun row => .bind load_touches fun review =>
      .bind load_touches fun _ => ?_) _) fun _ => .pure _) hl
  cases review.findingsDigest with
  | none => exact .fail _
  | some _ => exact createReviewFollowupSubtask_touches (by decide)

theorem reconcileChangesRequestedFollowups_touches {req : ReconcileChangesRequestedFollowupsReq} :
    (reconcileChangesRequestedFollowups req now).Within (Touches followupTables) :=
  mutation_touches <| .bind requireRole_touches fun _ =>
    .bind (ensureChangesRequestedFollowupBlocks_touches (by decide)) fun _ => .pure _

/-- The tables that `claim_next_for_route` writes. -/
def claimNextTables : List TableName := .reviewFollowups :: claimTables

theorem claimNextBody_touches {k : SessionToken} {duration : LeaseDurationMs} {lane : RoutingKey}
    {m : Option MetaTaskId} :
    (claimNextBody k duration lane m leaseNow now).Within (Touches claimNextTables) := by
  refine .bind requireIdleSession_touches fun session => ?_
  have hrest : ∀ kind, Tx.Within (Touches claimNextTables)
      (claimNextOfKind session kind k duration lane m leaseNow now) := by
    intro kind
    refine .bind (.whenever fun _ =>
      .bind (ensureChangesRequestedFollowupBlocks_touches (by decide)) fun _ => .pure _) fun _ =>
      .bind (.of_readOnly orderedClaimCandidate_readOnly) fun found => ?_
    cases found with
    | none => exact .pure _
    | some id =>
      refine .catchError (.bind (claimSelectedSubtask_emits (by decide)).touches fun _ => .pure _) fun e => ?_
      split_ifs
      · exact .pure _
      · exact .fail _
  split
  · exact hrest .work
  · exact hrest .review
  · exact .bind (.fail _) hrest

theorem claimNextSubtask_touches {env : Env} {req : ClaimNextReq} :
    (claimNextSubtask env req now).Within (Touches claimNextTables) :=
  leasedMutation_touches fun _ => claimNextBody_touches

theorem claimNextRoutedSubtask_touches {req : ClaimNextRoutedReq} :
    (claimNextRoutedSubtask req now).Within (Touches claimNextTables) :=
  leasedMutation_touches fun _ => claimNextBody_touches

/-! ## Working on a claim -/

theorem loadClaimContext_touches {k : SessionToken} {claimId : ClaimId} {fence : FenceSeq} :
    (loadClaimContext k claimId fence leaseNow).Within (Touches l) :=
  .bind requireCurrentClaim_touches fun _ => .bind requireActiveSession_touches fun _ =>
    .bind load_touches fun _ => .pure _

theorem startReview_touches {id : SubtaskId} {k : SessionToken} (hl : [.reviews] ⊆ l) :
    (startReview id k now).Within (Touches l) := by
  refine Touches.weaken (.bind selectFrom_touches fun reviews => ?_) hl
  cases reviews.head? with
  | none => exact .fail _
  | some review =>
    exact .whenever fun _ => .bind (.lift _) fun _ =>
      .bind (updateIn_touches (fun _ _ => rfl) _ _) fun _ => .pure _

theorem startSubtask_announces {req : StartSubtaskReq} :
    Announces [.subtasks, .reviews, .events] (startSubtask req now) :=
  leasedMutation_emits fun _ => .bind (.lift _) fun _ => .bind loadClaimContext_touches fun _ =>
    .bind ensureMetaTaskIsSchedulable_touches fun _ => .bind (.lift _) fun _ =>
    .bind (.lift _) fun _ => .bind (updateSubtasks_touches (by decide) _ _ fun _ => rfl) fun _ =>
    .bind (.ensure _ _) fun _ => .bind (.whenever fun _ => startReview_touches (by decide)) fun _ =>
    .event (by decide) fun _ => .pure _

theorem detachSubtask_touches {ctx : ClaimContext} {state : SubtaskState} (hl : [.subtasks] ⊆ l) :
    (detachSubtask ctx state now).Within (Touches l) :=
  Touches.weaken (.bind (updateSubtasks_touches (by decide) _ _ fun _ => rfl) fun _ => .ensure _ _) hl

theorem abandonSubtask_announces {req : AbandonSubtaskReq} :
    Announces [.sessions, .metaTasks, .subtasks, .claims, .events] (abandonSubtask req now) :=
  leasedMutation_emits fun _ => .bind (.lift _) fun _ => .bind loadClaimContext_touches fun _ =>
    .bind (.lift _) fun _ => .bind (.lift _) fun _ =>
    .bind (closeClaimAndDetach_touches (by decide)) fun _ =>
    .bind (detachSubtask_touches (by decide)) fun _ =>
    .bind (clearSessionActiveSubtask_touches (by decide)) fun _ =>
    .bind (refreshMetaTaskState_touches (by decide)) fun _ =>
    .event (by decide) fun _ => .pure _

theorem releaseClaim_announces {req : ReleaseClaimReq} :
    Announces [.sessions, .subtasks, .claims, .reservations, .events] (releaseClaim req now) :=
  leasedMutation_emits fun _ => .bind (.lift _) fun _ => .bind loadClaimContext_touches fun _ =>
    .bind (.lift _) fun _ => .bind (closeClaimAndDetach_touches (by decide)) fun _ =>
    .bind (updateIn_touches (fun _ _ => rfl) _ _) fun _ =>
    .bind (detachSubtask_touches (by decide)) fun _ =>
    .bind (clearSessionActiveSubtask_touches (by decide)) fun _ =>
    .event (by decide) fun _ => .pure _

theorem renewClaim_announces {req : RenewClaimReq} :
    Announces [.claims, .events] (renewClaim req now) :=
  leasedMutation_emits fun _ => .bind (.lift _) fun _ => .bind requireCurrentClaim_touches fun _ =>
    .bind (updateIn_touches (fun _ _ => rfl) _ _) fun _ => .bind (.ensure _ _) fun _ =>
    .bind (.lift _) fun _ => .event (by decide) fun _ => .pure _

/-- The tables that a direct outcome writes. -/
def outcomeTables : List TableName :=
  [.sessions, .metaTasks, .subtasks, .claims, .attemptOutcomes, .reservations, .conflicts, .events]

theorem recordDirectOutcome_emits {eventType : EventType} {input : OutcomeInput} :
    Emits outcomeTables (recordDirectOutcome eventType input leaseNow now) := by
  unfold recordDirectOutcome
  exact .bind loadClaimContext_touches fun _ => .bind ensureMetaTaskIsSchedulable_touches fun _ =>
    .bind (.lift _) fun _ => .bind (.ensure _ _) fun _ => .bind (.ensure _ _) fun _ =>
    .bind (.lift _) fun _ => .bind (insertInto_touches (fun _ _ => rfl) _) fun _ =>
    .bind (closeClaimAndDetach_touches (by decide)) fun _ =>
    .bind (releaseActiveReservations_touches (by decide)) fun _ =>
    .bind (updateSubtasks_touches (by decide) _ _ fun _ => rfl) fun _ => .bind (.ensure _ _) fun _ =>
    .bind (clearSessionActiveSubtask_touches (by decide)) fun _ =>
    .bind (refreshMetaTaskState_touches (by decide)) fun _ =>
    .event (by decide) fun _ => .pure _

theorem finishSubtask_announces {req : FinishSubtaskReq} :
    Announces outcomeTables (finishSubtask req now) :=
  leasedMutation_emits fun _ => recordDirectOutcome_emits

theorem recordFailedAttempt_announces {operation : String} {eventType : EventType}
    {kind : AttemptOutcomeKind} {req : FailedAttemptReq} :
    Announces outcomeTables (recordFailedAttempt operation eventType kind req now) :=
  leasedMutation_emits fun _ => recordDirectOutcome_emits

theorem publishArtifact_touches {req : PublishArtifactReq} :
    (publishArtifact req now).Within (Touches [.subtasks, .artifacts, .reviews, .events]) := by
  refine leasedMutation_touches fun _ => .bind (.lift _) fun _ => .bind (.lift _) fun _ =>
    .bind (.lift _) fun _ => .bind (.lift _) fun _ => .bind (.lift _) fun _ =>
    .bind requireCurrentClaim_touches fun _ => .bind requireActiveSession_touches fun _ =>
    .bind load_touches fun subtask => .bind ensureMetaTaskIsSchedulable_touches fun _ =>
    .bind (.lift _) fun _ => .bind (.ensure _ _) fun _ => .bind (.lift _) fun _ =>
    .bind lookup_touches fun found => ?_
  cases found with
  | some existing =>
    refine .bind (.ensure _ _) fun _ => ?_
    split_ifs
    · exact .pure _
    · exact .bind (.lift _) fun _ => .bind (updateSubtasks_touches (by decide) _ _ fun _ => rfl) fun _ => .pure _
  | none =>
    exact .bind (.lift _) fun _ => .bind (.bind lookup_touches fun _ => .ensure _ _) fun _ =>
      .bind (insertInto_touches (fun _ _ => rfl) _) fun _ =>
      .bind (updateIn_touches (fun _ _ => rfl) _ _) fun _ =>
      .bind (updateSubtasks_touches (by decide) _ _ fun _ => rfl) fun _ => .bind (.ensure _ _) fun _ =>
      .bind (appendSessionEvent_touches (by decide)) fun _ => .pure _

/-! ## Reviews -/

theorem requestReview_announces {req : RequestReviewReq} :
    Announces [.subtasks, .fenceCounters, .reviews, .events] (requestReview req now) :=
  mutation_emits <| .bind requireActiveSession_touches fun _ => .bind (.lift _) fun _ =>
    .bind (.lift _) fun _ => .bind (.lift _) fun _ => .bind load_touches fun _ =>
    .bind (.ensure _ _) fun _ => .bind (.lift _) fun _ =>
    .bind ensureMetaTaskIsSchedulable_touches fun _ => .bind (.ensure _ _) fun _ =>
    .bind (.bind lookup_touches fun _ => .ensure _ _) fun _ =>
    .bind (.bind selectFrom_touches fun _ => .ensure _ _) fun _ => .bind (.lift _) fun _ =>
    .bind requestedSubtaskId_touches fun _ => .bind (.lift _) fun _ =>
    .bind subtaskExists_touches fun _ => .bind (.ensure _ _) fun _ => .bind (.lift _) fun _ =>
    .bind (insertSubtask_touches (by decide)) fun _ => .bind freshId_touches fun _ =>
    .bind (insertInto_touches (fun _ _ => rfl) _) fun _ =>
    .bind (updateSubtasks_touches (by decide) _ _ fun _ => rfl) fun _ => .bind (.ensure _ _) fun _ =>
    .event (by decide) fun _ => .pure _

theorem loadReviewContext_touches {session : SessionRow} {k : SessionToken} {reviewId : ReviewId}
    {claimId : ClaimId} {fence : FenceSeq} {checkReview : ReviewRow → Except CoveyError Unit}
    {checkWork : SubtaskRow → Except CoveyError Unit} :
    (loadReviewContext session k reviewId claimId fence leaseNow checkReview checkWork).Within
      (Touches l) := by
  refine .bind requireCurrentClaim_touches fun _ => .bind load_touches fun review =>
    .bind (.ensure _ _) fun _ => .bind (.lift _) fun _ => .bind load_touches fun _ =>
    .bind ensureMetaTaskIsSchedulable_touches fun _ => .bind (.lift _) fun _ =>
    .bind load_touches fun _ => .bind load_touches fun _ => .bind (.ensure _ _) fun _ =>
    .bind load_touches fun work => .bind (.lift _) fun _ => ?_
  cases work.artifactDigest with
  | none => exact .bind (.fail _) fun _ => .bind (.lift _) fun _ => .pure _
  | some current => exact .bind (.ensure _ _) fun _ => .bind (.lift _) fun _ => .pure _

theorem closeReview_touches {ctx : ReviewContext} {k : SessionToken} {verdict : ReviewVerdict}
    {findings : FindingsDigest} (hl : [.sessions, .subtasks, .claims, .reviews] ⊆ l) :
    (closeReview ctx k verdict findings now).Within (Touches l) :=
  Touches.weaken (.bind (updateIn_touches (fun _ _ => rfl) _ _) fun _ => .bind (.ensure _ _) fun _ =>
    .bind (.lift _) fun _ => .bind (updateSubtasks_touches (by decide) _ _ fun _ => rfl) fun _ =>
    .bind (.ensure _ _) fun _ => .bind (closeClaimAndDetach_touches (by decide)) fun _ =>
    clearSessionActiveSubtask_touches (by decide)) hl

theorem releaseProducer_touches {work : SubtaskRow} (hl : [.sessions, .claims] ⊆ l) :
    (releaseProducer work now).Within (Touches l) := by
  unfold releaseProducer
  cases work.currentClaimId with
  | none => exact .pure _
  | some id =>
    exact Touches.weaken (.bind load_touches fun _ =>
      .bind (closeClaimAndDetach_touches (by decide)) fun _ =>
      clearSessionActiveSubtask_touches (by decide)) hl

theorem setReviewedWork_touches {ctx : ReviewContext} {state : SubtaskState} {detach : Prop}
    [Decidable detach] (hl : [.subtasks] ⊆ l) :
    (setReviewedWork ctx state detach now).Within (Touches l) :=
  Touches.weaken (.bind (updateSubtasks_touches (by decide) _ _ fun _ => rfl) fun _ => .ensure _ _) hl

end Covey

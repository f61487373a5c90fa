import Covey.Store

/-!
# Meta-tasks and the creation of work

Model of `src/ops/meta_task.rs` and `src/ops/workflow/create.rs`.
-/

namespace Covey

/-- `WorkflowProfile` (config.rs): how an opened store resolves new work. -/
structure WorkflowProfile where
  completionPolicy : CompletionPolicy
  routingKey : RoutingKey
  evidencePolicy : EvidencePolicy

/-- `submit_meta_task_tx` (meta_task.rs:226-259). -/
def submitMetaTaskTx (sessionToken : SessionToken) (promptText : PromptText) (now : ℤ) :
    Txn MetaTaskId := do
  let _ ← requireRole sessionToken [.orchestrator]
  ensureLength "prompt_text" promptText.val 32768
  let metaTaskId ← freshId .metaTaskId "meta"
  insertInto Rel.metaTasks
    { metaTaskId := metaTaskId
      promptText := promptText
      state := .planning
      createdBy := sessionToken
      createdAt := now
      updatedAt := now }
  appendSessionEvent .metaTaskSubmitted .metaTask metaTaskId.val sessionToken now
  return metaTaskId

/-- `submit_meta_task` (meta_task.rs:25-46). -/
def submitMetaTask (req : SubmitMetaTaskReq) (now : ℤ) : Txn Response :=
  mutation req.sessionToken.val "submit_meta_task" req.idempotencyKey (.submitMetaTask req) now do
    let metaTaskId ← submitMetaTaskTx req.sessionToken req.promptText now
    return .id metaTaskId.val

/-- The loop of `cancel_meta_task` over the held claims (meta_task.rs:89-108). -/
def revokeClaims (claims : List ClaimRow) (now : ℤ) : Txn Unit :=
  Tx.forEach claims fun claim => do
    let _ ← updateIn Rel.claims (fun c => c.claimId = claim.claimId ∧ c.state = .held) fun c =>
      { c with state := .revoked, updatedAt := now }
    clearOwnerOfClaim claim now

/-- `cancel_meta_task` (meta_task.rs:49-168). -/
def cancelMetaTask (req : CancelMetaTaskReq) (now : ℤ) : Txn Response :=
  mutation req.sessionToken.val "cancel_meta_task" req.idempotencyKey (.cancelMetaTask req) now do
    let _ ← requireRole req.sessionToken [.orchestrator]
    ensureLength "meta_task_id" req.metaTaskId.val 256
    let metaTask ← loadMetaTask req.metaTaskId
    ensureTransition (.metaTask metaTask.state) (.metaTask .cancelled) .metaTask
      (metaTask.state ≠ .completed ∧ metaTask.state ≠ .cancelled)
    let updated ← updateIn Rel.metaTasks
      (fun m => m.metaTaskId = req.metaTaskId ∧ m.state ≠ .completed ∧ m.state ≠ .cancelled)
      fun m => { m with state := .cancelled, updatedAt := now }
    Tx.ensure (updated = 1)
      (.illegalTransition (.metaTask metaTask.state) (.metaTask .cancelled) .metaTask)
    let heldClaims ← loadClaimsForMetaTask req.metaTaskId
    revokeClaims heldClaims now
    let subtasks ← selectFrom Rel.subtasks fun r => r.metaTaskId = req.metaTaskId
    let _ ← updateIn Rel.readyQueue
      (fun q => q.subtaskId ∈ subtasks.map (·.subtaskId) ∧ q.isOpen) fun q =>
      { q with state := .cancelled, claimedBySessionToken := none, claimLeaseDeadline := none,
               updatedAt := now }
    let _ ← updateIn Rel.subtasks (fun r => r.metaTaskId = req.metaTaskId) fun r =>
      { r with
        state := if r.state.isTerminal then r.state else .abandoned
        currentClaimId := none
        updatedAt := now }
    appendSessionEvent .metaTaskCancelled .metaTask req.metaTaskId.val req.sessionToken now
    return .unit

/-! ## Creating work -/

/-- `insert_subtask_dependencies_tx` (create.rs:105-134). -/
def insertSubtaskDependencies (subtaskId : SubtaskId) (dependsOn : List SubtaskId) (now : ℤ) :
    Txn Unit := do
  let dependencies ← normalizeSubtaskDependencies subtaskId dependsOn
  Tx.forEach dependencies fun dependency => do
    let found ← subtaskExists dependency
    Tx.ensure (found = true) (.subtaskDependencyNotFound subtaskId dependency)
    insertInto Rel.dependencies ⟨subtaskId, dependency, "cli", now⟩

/-- The two inserts that create a subtask: its row and its fence counter. -/
def insertSubtask (row : SubtaskRow) : Txn Unit := do
  insertInto Rel.subtasks row
  insertInto Rel.fenceCounters ⟨row.subtaskId, 1⟩

/-- The id a creation request asks for, or a generated one. -/
def requestedSubtaskId (requested : Option SubtaskId) : Txn SubtaskId :=
  match requested with
  | some subtaskId => pure subtaskId
  | none => freshId .subtaskId "subtask"

/-- `insert_work_subtask_tx` (create.rs:136-205). -/
def insertWorkSubtask (req : CreateWorkSubtaskReq) (now : ℤ) : Txn SubtaskId := do
  let _ ← requireRole req.sessionToken [.orchestrator]
  ensureLength "title" req.title.val 512
  ensureLength "meta_task_id" req.metaTaskId.val 256
  let _ ← loadMetaTask req.metaTaskId
  ensureMetaTaskIsSchedulable req.metaTaskId
  let subtaskId ← requestedSubtaskId req.subtaskId
  ensureLength "subtask_id" subtaskId.val 256
  let found ← subtaskExists subtaskId
  Tx.ensure (found = false) (.duplicateSubtaskId subtaskId)
  insertSubtask
    { subtaskId := subtaskId
      metaTaskId := req.metaTaskId
      title := req.title
      kind := .work
      reviewTargetSubtaskId := none
      reviewTargetArtifactDigest := none
      state := .available
      currentClaimId := none
      artifactDigest := none
      priority := req.priority
      completionPolicy := req.completionPolicy
      routingKey := req.routingKey
      evidencePolicy := req.evidencePolicy
      createdAt := now
      updatedAt := now }
  appendSessionEvent .workSubtaskCreated .subtask subtaskId.val req.sessionToken now
  refreshMetaTaskState req.metaTaskId now
  return subtaskId

/-- `create_work_subtask_tx` (create.rs:72-94). -/
def createWorkSubtaskTx (req : CreateWorkSubtaskReq) (now : ℤ) : Txn SubtaskId := do
  let subtaskId ← insertWorkSubtask req now
  insertSubtaskDependencies subtaskId req.dependsOn now
  return subtaskId

/-- `create_work_subtask` (create.rs:48-69). -/
def createWorkSubtask (req : CreateWorkSubtaskReq) (now : ℤ) : Txn Response :=
  mutation req.sessionToken.val "create_work_subtask" req.idempotencyKey
    (.createWorkSubtask req) now do
    let subtaskId ← createWorkSubtaskTx req now
    return .id subtaskId.val

/-- A subtask request with the policies of the workflow profile. -/
def CreateSubtaskRequest.resolve (workflow : WorkflowProfile) (req : CreateSubtaskRequest) :
    CreateWorkSubtaskReq where
  sessionToken := req.sessionToken
  metaTaskId := req.metaTaskId
  subtaskId := req.subtaskId
  title := req.title
  priority := req.priority
  completionPolicy := workflow.completionPolicy
  routingKey := workflow.routingKey
  evidencePolicy := workflow.evidencePolicy
  dependsOn := req.dependsOn
  idempotencyKey := req.idempotencyKey

/-- `create_subtask` (create.rs:32-45). -/
def createSubtask (workflow : WorkflowProfile) (req : CreateSubtaskRequest) (now : ℤ) :
    Txn Response :=
  createWorkSubtask (req.resolve workflow) now

end Covey

import Covey.Ops.Enqueue

/-!
# Importers

Model of `src/ops/import/openspec` (the comparison of a change with the store and
its application), `src/ops/import/bd.rs` and the import of
`src/ops/prose_intake.rs`. All of them create available work through
`createWorkSubtaskTx` and never touch a claim.
-/

namespace Covey

/-! ## OpenSpec: comparing a change with the store -/

/-- `validate_deterministic_covey_id` (ids.rs:23-36). -/
def validateDeterministicCoveyId (field id : String) : Except CoveyError Unit := do
  ensureLength field id 256
  if id.isEmpty || !id.toList.all (fun ch =>
      isAsciiAlnum ch || ch == ':' || ch == '-' || ch == '_' || ch == '.') then
    .error (.invalidImportDestination (field ++ " contains unsupported characters"))
  else .ok ()

/-- A derived id, checked and parsed (diff.rs:27-35, 87-94). -/
def deterministicId (f : ScalarField) (id : String) : Except CoveyError (Text f) := do
  validateDeterministicCoveyId f.name id
  match Text.parse f id with
  | .ok parsed => .ok parsed
  | .error e => .error (.invalidImportDestination ("invalid " ++ e.field ++ ": " ++ e.reason))

/-- `openspec_meta_task_id` (ids.rs:38-40). -/
def openspecMetaTaskName (changeId : OpenSpecChangeId) : String := "openspec:" ++ changeId.val

/-- `openspec_subtask_id` (ids.rs:42-44). -/
def openspecSubtaskName (changeId : OpenSpecChangeId) (taskId : OpenSpecTaskId) : String :=
  "openspec:" ++ changeId.val ++ ":" ++ taskId.val

/-- `openspec_meta_prompt` (ids.rs:46-52), parsed (diff.rs:44-50). -/
def openspecMetaPrompt (source : OpenSpecSourceSnapshot) : Except CoveyError PromptText := do
  let prompt := "OpenSpec change " ++ source.changeId.val ++ "\n\nImported from " ++
    source.changePath.val
  ensureLength "prompt_text" prompt 32768
  match Text.parse .promptText prompt with
  | .ok parsed => .ok parsed
  | .error e => .error (.invalidImportDestination ("invalid " ++ e.field ++ ": " ++ e.reason))

/-- `meta_provenance` (provenance.rs:14-37). -/
def metaProvenance (source : OpenSpecSourceSnapshot) (metaTaskId : MetaTaskId) :
    OpenSpecImportProvenance :=
  { objectType := .metaTask
    objectId := metaTaskId.val
    openspecChangeId := source.changeId
    openspecChangePath := source.changePath
    openspecTaskId := none
    proposalDigest := some source.proposalDigest
    designDigest := some source.designDigest
    tasksDigest := source.tasksDigest
    specDigests := source.specDigests
    sourceDigests := source.sourceDigests
    missionArtifactDigests := source.missionArtifactDigests
    missionArtifacts := source.missionArtifacts
    taskDigest := none }

/-- `task_provenance` (provenance.rs:39-61). -/
def taskProvenance (source : OpenSpecSourceSnapshot) (task : OpenSpecSourceTask)
    (subtaskId : SubtaskId) : OpenSpecImportProvenance :=
  { objectType := .subtask
    objectId := subtaskId.val
    openspecChangeId := source.changeId
    openspecChangePath := source.changePath
    openspecTaskId := some task.taskId
    proposalDigest := none
    designDigest := none
    tasksDigest := source.tasksDigest
    specDigests := []
    sourceDigests := source.sourceDigests
    missionArtifactDigests := source.missionArtifactDigests
    missionArtifacts := source.missionArtifacts
    taskDigest := some task.taskDigest }

/-- `provenance_equivalent` (provenance.rs:63-86) against the stored provenance. -/
def provenanceEquivalent (s : Db) (expected : OpenSpecImportProvenance) : Prop :=
  (s.importProvenance.get? (expected.objectType, expected.objectId)).map (·.provenance) =
    some expected

instance (s : Db) (expected : OpenSpecImportProvenance) :
    Decidable (provenanceEquivalent s expected) := inferInstanceAs (Decidable (_ = _))

/-- The subtask half of `OpenSpecImportRecord` (openspec.rs:60-83). -/
structure OpenSpecSubtaskRecord where
  subtaskId : SubtaskId
  task : OpenSpecSourceTask
  action : ImportOpenSpecAction
  conflict : Option ImportOpenSpecConflictReason
  provenance : OpenSpecImportProvenance

/-- `OpenSpecImportDiff`: the record of the meta-task and those of the tasks. -/
structure OpenSpecImportDiff where
  metaTaskId : MetaTaskId
  prompt : PromptText
  metaAction : ImportOpenSpecAction
  metaProvenance : OpenSpecImportProvenance
  subtasks : List OpenSpecSubtaskRecord

/-- One round of the loop of `build_openspec_import_diff_tx` (diff.rs:86-174). -/
def diffOpenSpecTask (source : OpenSpecSourceSnapshot) (metaTaskId : MetaTaskId)
    (task : OpenSpecSourceTask) : Txn OpenSpecSubtaskRecord := do
  ensureLength "title" task.title.val 512
  let subtaskId ← deterministicId .subtaskId (openspecSubtaskName source.changeId task.taskId)
  let provenance := taskProvenance source task subtaskId
  let s ← Tx.get
  let record (action : ImportOpenSpecAction) (conflict : Option ImportOpenSpecConflictReason) :
      OpenSpecSubtaskRecord := ⟨subtaskId, task, action, conflict, provenance⟩
  match s.subtasks.get? subtaskId with
  | none => return record .created none
  | some row =>
    let existing ← (row.load : Except CoveyError SubtaskRow)
    if existing.metaTaskId ≠ metaTaskId then
      return record .conflict (some .existingSubtaskDifferentMetaTask)
    else if existing.title = task.title ∧ provenanceEquivalent s provenance then
      return record .unchanged none
    else if existing.currentClaimId.isSome then
      return record .conflict (some .activeClaimChangedSource)
    else return record .updated none

/-- `build_openspec_import_diff_tx` (diff.rs:22-191). -/
def buildOpenSpecImportDiff (source : OpenSpecSourceSnapshot) : Txn OpenSpecImportDiff := do
  let metaTaskId ← deterministicId .metaTaskId (openspecMetaTaskName source.changeId)
  let prompt ← openspecMetaPrompt source
  let provenance := metaProvenance source metaTaskId
  let s ← Tx.get
  let metaAction : ImportOpenSpecAction ← match s.metaTasks.get? metaTaskId with
    | none => pure .created
    | some row => do
      let existing ← (row.load : Except CoveyError MetaTaskRow)
      pure (if existing.promptText = prompt ∧ provenanceEquivalent s provenance
        then .unchanged else .updated)
  let subtasks ← Tx.mapEach source.tasks (diffOpenSpecTask source metaTaskId)
  return ⟨metaTaskId, prompt, metaAction, provenance, subtasks⟩

/-- The report of a comparison (diff.rs:65-83, 176-191). -/
def OpenSpecImportDiff.result (diff : OpenSpecImportDiff) (changeId : OpenSpecChangeId) :
    ImportOpenSpecResult :=
  { changeId := changeId
    metaTaskId := diff.metaTaskId
    conflicts := diff.subtasks.filterMap fun r => r.conflict.map fun reason => (r.subtaskId, reason)
    items := ⟨.metaTask, diff.metaTaskId.val, diff.prompt.val, none, diff.metaAction⟩ ::
      diff.subtasks.map fun r =>
        ⟨.subtask, r.subtaskId.val, r.task.title.val, r.task.taskType, r.action⟩ }

/-! ## OpenSpec: applying the comparison -/

/-- `upsert_openspec_provenance_tx` (provenance.rs:95-148). -/
def upsertOpenSpecProvenance (provenance : OpenSpecImportProvenance) (now : ℤ) : Txn Unit := do
  let row : ImportProvenanceRow := ⟨provenance, now⟩
  match ← lookup Rel.importProvenance (provenance.objectType, provenance.objectId) with
  | none => insertInto Rel.importProvenance row
  | some _ =>
    let _ ← updateIn Rel.importProvenance (fun r =>
      r.provenance.objectType = provenance.objectType ∧
        r.provenance.objectId = provenance.objectId) fun _ => row

/-- What every created or updated record ends with (apply.rs:55-56). -/
def recordOpenSpecImport (sessionToken : SessionToken) (provenance : OpenSpecImportProvenance)
    (now : ℤ) : Txn Unit := do
  upsertOpenSpecProvenance provenance now
  appendSessionEvent .openSpecImported provenance.objectType provenance.objectId sessionToken now

/-- The meta-task record of `apply_openspec_import_diff_tx` (apply.rs:37-65). -/
def applyOpenSpecMetaTask (sessionToken : SessionToken) (diff : OpenSpecImportDiff) (now : ℤ) :
    Txn Unit :=
  match diff.metaAction with
  | .created => do
    insertInto Rel.metaTasks
      { metaTaskId := diff.metaTaskId
        promptText := diff.prompt
        state := .planning
        createdBy := sessionToken
        createdAt := now
        updatedAt := now }
    recordOpenSpecImport sessionToken diff.metaProvenance now
  | .updated => do
    let _ ← updateIn Rel.metaTasks (fun m => m.metaTaskId = diff.metaTaskId) fun m =>
      { m with promptText := diff.prompt, updatedAt := now }
    recordOpenSpecImport sessionToken diff.metaProvenance now
  | .unchanged | .conflict => pure ()

/-- `settled_subtask_with_same_title_tx` (apply.rs:176-200). -/
def settledSubtaskWithSameTitle (s : Db) (subtaskId : SubtaskId) (title : SubtaskTitle) : Prop :=
  (s.subtasks.get? subtaskId).any (fun r => r.currentClaimId = none ∧ r.state ≠ .available ∧
    r.state ≠ .changesRequested ∧ r.title = title) = true

instance (s : Db) (subtaskId : SubtaskId) (title : SubtaskTitle) :
    Decidable (settledSubtaskWithSameTitle s subtaskId title) :=
  inferInstanceAs (Decidable (_ = true))

/-- A subtask record of `apply_openspec_import_diff_tx` (apply.rs:66-126). -/
def applyOpenSpecSubtask (sessionToken : SessionToken) (metaTaskId : MetaTaskId) (now : ℤ)
    (record : OpenSpecSubtaskRecord) : Txn Unit :=
  match record.action with
  | .created => do
    let routingKey ← typed (Text.parse .routingKey "default")
    let key ← typed (Text.parse .idempotencyKey ("import-openspec:" ++ record.subtaskId.val))
    let _ ← createWorkSubtaskTx
      { sessionToken := sessionToken
        metaTaskId := metaTaskId
        subtaskId := some record.subtaskId
        title := record.task.title
        priority := 100
        completionPolicy := .canonicalApply
        routingKey := routingKey
        evidencePolicy := .optional
        dependsOn := []
        idempotencyKey := key }
      now
    recordOpenSpecImport sessionToken record.provenance now
  | .updated => do
    let updated ← updateIn Rel.subtasks (fun r => r.subtaskId = record.subtaskId ∧
        r.currentClaimId = none ∧ (r.state = .available ∨ r.state = .changesRequested)) fun r =>
      { r with title := record.task.title, updatedAt := now }
    if updated ≠ 1 then
      let s ← Tx.get
      Tx.ensure (settledSubtaskWithSameTitle s record.subtaskId record.task.title)
        (.importDuplicate record.task.taskId.val record.subtaskId)
    else recordOpenSpecImport sessionToken record.provenance now
  | .unchanged | .conflict => pure ()

/-- A character of a dependency token (apply.rs:266-268). -/
def isDependencyChar (ch : Char) : Bool := isAsciiAlnum ch || ch == '.' || ch == '-' || ch == '_'

/-- The tokens of a dependency entry. -/
def dependencyTokens (raw : String) : List (List Char) :=
  splitChars ' ' (raw.toList.map fun ch => if isDependencyChar ch then ch else ' ')

/-- `dependency_token_matches` (apply.rs:277-282). -/
def dependencyTokenMatches (token : List Char) (taskId : OpenSpecTaskId) : Prop :=
  token = taskId.val.toList ∨ ('-' :: taskId.val.toList) <:+ token

instance (token : List Char) (taskId : OpenSpecTaskId) :
    Decidable (dependencyTokenMatches token taskId) := inferInstanceAs (Decidable (_ ∨ _))

/-- `resolved_dependency_ids` (apply.rs:253-275), the tasks in the order of their ids. -/
def resolvedDependencyIds (record : OpenSpecSubtaskRecord)
    (tasks : List (OpenSpecTaskId × SubtaskId)) : List SubtaskId :=
  (record.task.dependencies.filter fun raw => raw.val ≠ "none").flatMap fun raw =>
    tasks.filterMap fun (taskId, subtaskId) =>
      if ∃ token ∈ dependencyTokens raw.val, dependencyTokenMatches token taskId
      then some subtaskId else none

/-- `upsert_subtask_dependencies_tx` (apply.rs:202-251). -/
def upsertSubtaskDependencies (records : List OpenSpecSubtaskRecord) (now : ℤ) : Txn Unit :=
  let tasks := ((records.map fun r => (r.task.taskId, r.subtaskId)).dedup).insertionSort
    fun a b => a.1.val ≤ b.1.val
  Tx.forEach (records.filter fun r => r.action ≠ .conflict) fun record => do
    Tx.delete Rel.dependencies fun d => d.subtaskId = record.subtaskId
    Tx.forEach ((resolvedDependencyIds record tasks).filter (· ≠ record.subtaskId))
      fun dependency => do
      match ← lookup Rel.dependencies (record.subtaskId, dependency) with
      | none => insertInto Rel.dependencies ⟨record.subtaskId, dependency, dependency.val, now⟩
      | some _ =>
        let _ ← updateIn Rel.dependencies (fun d => d.subtaskId = record.subtaskId ∧
          d.dependsOnSubtaskId = dependency) fun d => { d with sourceRef := dependency.val }

/-- `upsert_openspec_subtask_scope_tx` (apply.rs:132-174). -/
def upsertOpenSpecSubtaskScope (changeId : OpenSpecChangeId)
    (records : List OpenSpecSubtaskRecord) (now : ℤ) : Txn Unit :=
  Tx.forEach (records.filter fun r => r.action ≠ .conflict) fun record => do
    let row : SubtaskScopeRow :=
      { subtaskId := record.subtaskId
        openspecChangeId := changeId
        openspecTaskId := record.task.taskId.val
        sourcePath := record.task.sourcePath.val
        scenarioRefs := record.task.scenarioRefs.map (·.val)
        updatedAt := now }
    match ← lookup Rel.subtaskScopes record.subtaskId with
    | none => insertInto Rel.subtaskScopes row
    | some _ =>
      let _ ← updateIn Rel.subtaskScopes (fun r => r.subtaskId = record.subtaskId) fun _ => row

/-- `apply_openspec_import_diff_tx` (apply.rs:21-130). -/
def applyOpenSpecImportDiff (sessionToken : SessionToken) (changeId : OpenSpecChangeId)
    (diff : OpenSpecImportDiff) (now : ℤ) : Txn Unit := do
  applyOpenSpecMetaTask sessionToken diff now
  Tx.forEach diff.subtasks (applyOpenSpecSubtask sessionToken diff.metaTaskId now)
  upsertSubtaskDependencies diff.subtasks now
  upsertOpenSpecSubtaskScope changeId diff.subtasks now

/-- `import_openspec` in write mode (openspec.rs:385-431). A comparison with conflicts is
    reported and not applied. -/
def importOpenSpec (sessionToken : SessionToken) (source : OpenSpecSourceSnapshot) (now : ℤ) :
    Txn Response := do
  ensureLength "change_id" source.changeId.val 256
  let _ ← requireRole sessionToken [.orchestrator]
  let diff ← buildOpenSpecImportDiff source
  Tx.whenever ((diff.result source.changeId).conflicts.isEmpty = true)
    (applyOpenSpecImportDiff sessionToken source.changeId diff now)
  return .importOpenSpec (diff.result source.changeId)

/-! ## Beads -/

/-- The loop of `bd_import_source_hint` (helpers.rs:22-41), `hint` being what was pushed. -/
def bdImportSourceHintLoop (hint : List Char) (lastWasSeparator : Bool) : List Char → List Char
  | [] => hint
  | ch :: rest =>
    if 24 ≤ hint.length then hint
    else if isAsciiAlnum ch then bdImportSourceHintLoop (hint ++ [ch.toLower]) false rest
    else if hint ≠ [] ∧ lastWasSeparator = false then
      bdImportSourceHintLoop (hint ++ ['_']) true rest
    else bdImportSourceHintLoop hint lastWasSeparator rest

/-- `bd_import_source_hint` (helpers.rs:22-52). -/
def bdImportSourceHint (sourceIssueId : String) : List Char :=
  let hint := ((bdImportSourceHintLoop [] false sourceIssueId.toList).reverse.dropWhile
    (· = '_')).reverse
  if hint = [] then "issue".toList else hint

/-- `bd_import_v1_subtask_id` (helpers.rs:15-19). -/
def bdImportV1SubtaskName (env : Env) (sourceIssueId : String) : String :=
  "bdwork_" ++ String.ofList (bdImportSourceHint sourceIssueId) ++ "_" ++
    String.ofList ((env.blake3Hex sourceIssueId).toList.take 16)

/-- `parse_import_bd_v1_destination` (bd.rs:596-607). -/
def parseImportBdV1Destination (metaTaskId promptText : Option String) :
    Except CoveyError ImportBdV1Destination :=
  match metaTaskId, promptText with
  | some metaTaskId, none => .ok (.existingMetaTask metaTaskId)
  | none, some promptText => .ok (.newMetaTask promptText)
  | _, _ => .error (.invalidPath "bd import destination selector")

/-- `resolve_import_bd_v1_destination` (bd.rs:609-627). -/
def resolveImportBdV1Destination (sessionToken : SessionToken)
    (destination : ImportBdV1Destination) (now : ℤ) : Txn MetaTaskId :=
  match destination with
  | .existingMetaTask raw => do
    ensureLength "meta_task_id" raw 256
    match Text.parse .metaTaskId raw with
    | .error _ => Tx.fail .metaTaskNotFound
    | .ok metaTaskId =>
      ensureMetaTaskIsSchedulable metaTaskId
      return metaTaskId
  | .newMetaTask raw => do
    ensureLength "prompt_text" raw 32768
    let promptText ← typed (Text.parse .promptText raw)
    submitMetaTaskTx sessionToken promptText now

/-- `SubtaskPriority::parse` (types.rs:799). -/
def SubtaskPriority.parse (priority : ℤ) : Except TypeValidationError SubtaskPriority :=
  if h : 0 ≤ priority ∧ priority ≤ 1000 then .ok ⟨priority.toNat, by omega⟩
  else .error ⟨"priority", "must be between 0 and 1000"⟩

/-- `import_bd_v1_work_subtask_tx` (bd.rs:187-226). -/
def importBdV1WorkSubtaskTx (env : Env) (req : ImportBdV1WorkSubtaskReq) (now : ℤ) :
    Txn SubtaskId := do
  let _ ← requireRole req.sessionToken [.orchestrator]
  ensureLength "source_issue_id" req.sourceIssueId 256
  ensureLength "title" req.title 512
  let destination ← parseImportBdV1Destination req.metaTaskId req.promptText
  let metaTaskId ← resolveImportBdV1Destination req.sessionToken destination now
  let subtaskId ← typed (Text.parse .subtaskId (bdImportV1SubtaskName env req.sourceIssueId))
  let found ← subtaskExists subtaskId
  if found then
    let existing ← loadSubtask subtaskId
    Tx.ensure (existing.metaTaskId = metaTaskId) (.duplicateSubtaskId subtaskId)
    return subtaskId
  else
    let title ← typed (Text.parse .subtaskTitle req.title)
    let priority ← typed (SubtaskPriority.parse req.priority)
    let routingKey ← typed (Text.parse .routingKey "default")
    let key ← typed (Text.parse .idempotencyKey req.idempotencyKey)
    createWorkSubtaskTx
      { sessionToken := req.sessionToken
        metaTaskId := metaTaskId
        subtaskId := some subtaskId
        title := title
        priority := priority
        completionPolicy := .canonicalApply
        routingKey := routingKey
        evidencePolicy := .optional
        dependsOn := []
        idempotencyKey := key }
      now

/-- `import_bd_v1_work_subtask` (bd.rs:99-138); its idempotency key is not parsed first. -/
def importBdV1WorkSubtask (env : Env) (req : ImportBdV1WorkSubtaskReq) (now : ℤ) :
    Txn Response := do
  let createdAt ← typed (TimestampMs.parse now)
  withIdempotentMutation req.sessionToken.val "import_bd_v1_work_subtask" req.idempotencyKey
    (.importBdV1WorkSubtask req) createdAt do
    let subtaskId ← importBdV1WorkSubtaskTx env req now
    return .id subtaskId.val

/-- `str::eq_ignore_ascii_case` with a lower-case text. -/
def eqIgnoreAsciiCase (v lower : String) : Bool := v.toList.map Char.toLower == lower.toList

/-- `assess_source_issue` (bd.rs:354-405): `none` accepts, `some detail` skips the issue. -/
def assessSourceIssue (issue : SourceIssue) (labels : List (String × String)) : Option String :=
  let skipped := labels.any fun (issueId, label) => issueId == issue.id &&
    (eqIgnoreAsciiCase label "review" || eqIgnoreAsciiCase label "import:skip")
  let importable := ["task", "feature", "epic"].any (eqIgnoreAsciiCase issue.issueType)
  if blank issue.id then some "missing issue id"
  else if issue.id.utf8ByteSize > 256 then some "issue id exceeds max length 256"
  else if blank issue.title then some "missing title"
  else if issue.title.utf8ByteSize > 512 then some "title exceeds max length 512"
  else if !eqIgnoreAsciiCase issue.status "open" then some ("unsupported status " ++ issue.status)
  else if !importable then some ("unsupported issue_type " ++ issue.issueType)
  else if skipped then some "unsupported labeled issue"
  else none

/-- The order in which issues are imported (bd.rs:238-257). -/
def sourceIssueOrder (dependencies : List (String × String)) (a b : SourceIssue) : Prop :=
  let count (issue : SourceIssue) : ℕ := dependencies.countP fun d => d.1 = issue.id
  a.priority < b.priority ∨ (a.priority = b.priority ∧
    (count a < count b ∨ (count a = count b ∧ a.id ≤ b.id)))

instance (dependencies : List (String × String)) : DecidableRel (sourceIssueOrder dependencies) :=
  fun _ _ => inferInstanceAs (Decidable (_ ∨ _))

/-- `existing_subtask_matches_destination` (bd.rs:331-352). -/
def existingSubtaskMatchesDestination (env : Env) (sourceIssueId : String)
    (metaTaskId : MetaTaskId) : Txn Bool := do
  match Text.parse .subtaskId (bdImportV1SubtaskName env sourceIssueId) with
  | .error _ => return false
  | .ok subtaskId =>
    let found ← subtaskExists subtaskId
    if found then
      let existing ← loadSubtask subtaskId
      Tx.ensure (existing.metaTaskId = metaTaskId) (.importDuplicate sourceIssueId subtaskId)
      return true
    else return false

/-- One round of the loop of `import_bd_v1_source_rows_tx` (bd.rs:261-309). `imported` and
    `skipped` panic on an issue id that is no `SourceIssueId`; a panic rolls back like an
    error. -/
def importSourceIssue (env : Env) (req : ImportBdV1Req) (metaTaskId : MetaTaskId)
    (labels : List (String × String)) (now : ℤ) (position : ℕ) (issue : SourceIssue) :
    Txn ImportBdV1ItemResult := do
  match assessSourceIssue issue labels with
  | none =>
    let existedBefore ← existingSubtaskMatchesDestination env issue.id metaTaskId
    let subtaskId ← importBdV1WorkSubtaskTx env
      { sessionToken := req.sessionToken
        metaTaskId := some metaTaskId.val
        promptText := none
        sourceIssueId := issue.id
        title := issue.title
        priority := issue.priority
        idempotencyKey := req.idempotencyKey.val ++ ":" ++ issue.id }
      now
    let sourceIssueId ← typed (Text.parse .sourceIssueId issue.id)
    return ⟨sourceIssueId, some subtaskId,
      if existedBefore then some .deterministicDuplicate else none⟩
  | some detail =>
    let sourceIssueId ← match Text.parse .sourceIssueId issue.id with
      | .ok sourceIssueId => pure sourceIssueId
      | .error _ =>
        (typed (Text.parse .sourceIssueId ("invalid-source-issue-" ++ toString (position + 1))) :
          Except CoveyError _)
    return ⟨sourceIssueId, none, some (.invalidRow detail)⟩

/-- The loop itself; `items` are the results so far. -/
def importSourceIssues (env : Env) (req : ImportBdV1Req) (metaTaskId : MetaTaskId)
    (labels : List (String × String)) (now : ℤ) (items : List ImportBdV1ItemResult) :
    List SourceIssue → Txn (List ImportBdV1ItemResult)
  | [] => pure items
  | issue :: rest => do
    let item ← importSourceIssue env req metaTaskId labels now items.length issue
    importSourceIssues env req metaTaskId labels now (items ++ [item]) rest

/-- `import_bd_v1` (bd.rs:148-184). -/
def importBdV1 (env : Env) (req : ImportBdV1Req) (source : SourceSnapshot) (now : ℤ) :
    Txn Response := do
  ensureLength "beads_db_path" req.beadsDbPath 4096
  mutation req.sessionToken.val "import_bd_v1" req.idempotencyKey (.importBdV1 req) now do
    let _ ← requireRole req.sessionToken [.orchestrator]
    let metaTaskId ← resolveImportBdV1Destination req.sessionToken req.destination now
    let items ← importSourceIssues env req metaTaskId source.labels now []
      (source.issues.insertionSort (sourceIssueOrder source.dependencies))
    return .importBdV1 metaTaskId items

/-! ## Prose -/

/-- One round of the loop of `import_prose_tx` (prose_intake.rs:197-234). -/
def importProseTask (req : ImportProseReq) (routingKey : RoutingKey) (metaTaskId : MetaTaskId)
    (now : ℤ) (item : SubtaskTitle × ℕ) : Txn SubtaskId := do
  let key ← typed (Text.parse .idempotencyKey
    (req.idempotencyKey.val ++ ":create-subtask:" ++ toString item.2))
  let subtaskId ← createWorkSubtaskTx
    { sessionToken := req.sessionToken
      metaTaskId := metaTaskId
      subtaskId := none
      title := item.1
      priority := 100
      completionPolicy := .canonicalApply
      routingKey := routingKey
      evidencePolicy := .required
      dependsOn := []
      idempotencyKey := key }
    now
  insertInto Rel.proseSubtaskScopes ⟨subtaskId, req.tasksetId, item.2, now⟩
  return subtaskId

/-- `import_prose` (prose_intake.rs:26-57, 159-243). -/
def importProse (env : Env) (req : ImportProseReq) (now : ℤ) : Txn Response :=
  mutation req.sessionToken.val "import_prose" req.idempotencyKey
    (.importProse req env.workflow.routingKey) now do
    Tx.ensure (req.tasks.isEmpty = false)
      (.invalidImportDestination "prose import requires at least one task")
    let _ ← requireRole req.sessionToken [.orchestrator]
    let metaTaskId ← submitMetaTaskTx req.sessionToken req.promptText now
    insertInto Rel.proseTasksets
      { tasksetId := req.tasksetId
        metaTaskId := metaTaskId
        sourceExcerpt := req.sourceExcerpt
        previewDigest := req.previewDigest
        createdBy := req.sessionToken
        createdAt := now
        updatedAt := now }
    let subtaskIds ← Tx.mapEach req.tasks.zipIdx
      (importProseTask req env.workflow.routingKey metaTaskId now)
    return .importProse ⟨req.tasksetId, metaTaskId, req.previewDigest, subtaskIds⟩

end Covey

import Covey.Model.Records

/-!
# Import sources

Model of `src/model/imports.rs` and of the source snapshots of `src/ops/import`:
what an importer has read from an OpenSpec change or from a beads database
before it opens its transaction. Reading and parsing those files is not modelled;
a snapshot is an argument of the operation.
-/

namespace Covey

open Relational

/-! ## OpenSpec -/

/-- `OpenSpecTaskId::parse` (imports.rs:1262-1276): at least two numeric segments. -/
def openSpecTaskIdValid (v : String) : Bool :=
  v.toList.any (· == '.') &&
    (splitChars '.' v.toList).all fun segment => !segment.isEmpty && segment.all isAsciiDigit

/-- An `OpenSpecTaskId`, such as `1.1`. -/
structure OpenSpecTaskId where
  val : String
  ok : openSpecTaskIdValid val = true
deriving DecidableEq

/-- `OpenSpecPath::parse` (imports.rs:1196-1214). -/
def openSpecPathValid (v : String) : Bool :=
  !blank v && !padded v && v.toList.head? != some '/' && v.toList.head? != some '\\' &&
  !v.toList.any isControl &&
  !(splitChars '/' (v.toList.map fun c => if c = '\\' then '/' else c)).any (· == ['.', '.'])

/-- An `OpenSpecPath`: relative, without parent components. -/
structure OpenSpecPath where
  val : String
  ok : openSpecPathValid val = true
deriving DecidableEq

/-- `validate_normalized_import_text` (openspec.rs:341-361). -/
def importTextValid (v : String) : Bool := !blank v && !padded v && !v.toList.any isControl

/-- An `OpenSpecTaskType`, `OpenSpecDependencyRef` or `OpenSpecScenarioRef`. -/
structure ImportText where
  val : String
  ok : importTextValid val = true
deriving DecidableEq

structure OpenSpecSourceDigest where
  path : OpenSpecPath
  digest : OpenSpecDigest
deriving DecidableEq

/-- `OpenSpecSourceTask` (openspec.rs:43-51). -/
structure OpenSpecSourceTask where
  taskId : OpenSpecTaskId
  title : SubtaskTitle
  sourcePath : OpenSpecPath
  taskDigest : OpenSpecDigest
  taskType : Option ImportText
  scenarioRefs : List ImportText
  dependencies : List ImportText

/-- `OpenSpecSourceSnapshot` (openspec.rs:28-40). -/
structure OpenSpecSourceSnapshot where
  changeId : OpenSpecChangeId
  changePath : OpenSpecPath
  tasks : List OpenSpecSourceTask
  proposalDigest : OpenSpecDigest
  designDigest : OpenSpecDigest
  tasksDigest : OpenSpecDigest
  specDigests : List OpenSpecSourceDigest
  sourceDigests : List OpenSpecSourceDigest
  missionArtifactDigests : List OpenSpecSourceDigest
  missionArtifacts : List OpenSpecPath

inductive ImportOpenSpecAction
  | created | updated | unchanged | conflict
deriving DecidableEq

inductive ImportOpenSpecConflictReason
  | existingSubtaskDifferentMetaTask | activeClaimChangedSource
deriving DecidableEq

/-- `OpenSpecImportProvenance` without its update time. The mission-artifact metadata is
    derived from the two mission-artifact columns. -/
structure OpenSpecImportProvenance where
  objectType : ObjectType
  objectId : String
  openspecChangeId : OpenSpecChangeId
  openspecChangePath : OpenSpecPath
  openspecTaskId : Option OpenSpecTaskId
  proposalDigest : Option OpenSpecDigest
  designDigest : Option OpenSpecDigest
  tasksDigest : OpenSpecDigest
  specDigests : List OpenSpecSourceDigest
  sourceDigests : List OpenSpecSourceDigest
  missionArtifactDigests : List OpenSpecSourceDigest
  missionArtifacts : List OpenSpecPath
  taskDigest : Option OpenSpecDigest
deriving DecidableEq

structure ImportProvenanceRow where
  provenance : OpenSpecImportProvenance
  updatedAt : ℤ

/-- `import_provenance`. -/
def importProvenanceSchema : Schema (ObjectType × String) ImportProvenanceRow where
  key r := (r.provenance.objectType, r.provenance.objectId)
  check r := r.provenance.objectType = .metaTask ∨ r.provenance.objectType = .subtask

/-- One item of `ImportOpenSpecResult`. -/
structure ImportOpenSpecItemResult where
  objectType : ObjectType
  objectId : String
  title : String
  taskType : Option ImportText
  action : ImportOpenSpecAction

/-- `ImportOpenSpecResult`; its counts are those of the items. -/
structure ImportOpenSpecResult where
  changeId : OpenSpecChangeId
  metaTaskId : MetaTaskId
  conflicts : List (SubtaskId × ImportOpenSpecConflictReason)
  items : List ImportOpenSpecItemResult

/-! ## Beads -/

/-- `SourceIssue` (bd.rs:31-38), with the raw status. -/
structure SourceIssue where
  id : String
  title : String
  status : String
  priority : ℤ
  issueType : String

/-- `SourceSnapshot` (bd.rs:58-63): dependencies and labels are pairs of an issue and the
    issue or label it is attached to. -/
structure SourceSnapshot where
  issues : List SourceIssue
  dependencies : List (String × String)
  labels : List (String × String)

/-- `ImportBdV1Destination` (bd.rs:82-86). -/
inductive ImportBdV1Destination
  | existingMetaTask (metaTaskId : String)
  | newMetaTask (promptText : String)
deriving DecidableEq

/-- `ImportBdV1WorkSubtaskReq` (bd.rs:71-80). -/
structure ImportBdV1WorkSubtaskReq where
  sessionToken : SessionToken
  metaTaskId : Option String
  promptText : Option String
  sourceIssueId : String
  title : String
  priority : ℤ
  idempotencyKey : String
deriving DecidableEq

/-- `ImportBdV1Req` (imports.rs:20-31). -/
structure ImportBdV1Req where
  sessionToken : SessionToken
  beadsDbPath : String
  destination : ImportBdV1Destination
  idempotencyKey : IdempotencyKey
deriving DecidableEq

inductive ImportBdV1SkipReason
  | deterministicDuplicate
  | invalidRow (detail : String)
deriving DecidableEq

/-- `ImportBdV1ItemResult`: a skipped item has a reason. -/
structure ImportBdV1ItemResult where
  sourceIssueId : Text .sourceIssueId
  subtaskId : Option SubtaskId
  skipReason : Option ImportBdV1SkipReason

/-! ## Prose -/

/-- `ImportProseReq` (imports.rs:43-57); a task is its title. -/
structure ImportProseReq where
  sessionToken : SessionToken
  tasksetId : ProseTasksetId
  promptText : PromptText
  sourceExcerpt : PromptText
  previewDigest : ArtifactDigest
  tasks : List SubtaskTitle
  idempotencyKey : IdempotencyKey
deriving DecidableEq

structure ProseTasksetRow where
  tasksetId : ProseTasksetId
  metaTaskId : MetaTaskId
  sourceExcerpt : PromptText
  previewDigest : ArtifactDigest
  createdBy : SessionToken
  createdAt : ℤ
  updatedAt : ℤ

/-- `prose_tasksets`. -/
def proseTasksetSchema : Schema ProseTasksetId ProseTasksetRow where
  key r := r.tasksetId
  clash a b := a.previewDigest = b.previewDigest

structure ProseSubtaskScopeRow where
  subtaskId : SubtaskId
  tasksetId : ProseTasksetId
  itemIndex : ℕ
  updatedAt : ℤ

/-- `prose_subtask_scope`. -/
def proseSubtaskScopeSchema : Schema SubtaskId ProseSubtaskScopeRow where
  key r := r.subtaskId
  clash a b := a.tasksetId = b.tasksetId ∧ a.itemIndex = b.itemIndex

/-- `ImportProseResult`. -/
structure ImportProseResult where
  tasksetId : ProseTasksetId
  metaTaskId : MetaTaskId
  previewDigest : ArtifactDigest
  subtaskIds : List SubtaskId

end Covey

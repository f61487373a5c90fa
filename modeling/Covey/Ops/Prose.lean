import Covey.Store

/-!
# The prose current-work projection

Model of the reads of `src/ops/prose_intake.rs`: what is reported of a lightweight prose
taskset. Its scope is the imported tasks and, with the same recursive query as elsewhere,
the follow-ups that repair them.
-/

namespace Covey

/-- `ProseCurrentWorkState` (views.rs:1416-1423). -/
inductive ProseCurrentWorkState
  | imported | claimed | reviewing | applying | applied | blocked
deriving DecidableEq

/-- `ProseCurrentWorkOwner` (views.rs:1429-1435). -/
inductive ProseCurrentWorkOwner
  | covey | executor | reviewer | schedulerApply | operator
deriving DecidableEq

/-- `ProseCurrentWorkBlocker` (views.rs:1440-1448). -/
structure ProseCurrentWorkBlocker where
  blockerId : String
  evidenceId : String
  owner : ProseCurrentWorkOwner
  queueId : Option QueueId
  artifactDigest : Option ArtifactDigest
  reviewId : Option ReviewId
  reason : String
deriving DecidableEq

/-- `ProseCurrentWork` (views.rs:1453-1465), without its constant provenance tier. -/
structure ProseCurrentWork where
  tasksetId : ProseTasksetId
  metaTaskId : MetaTaskId
  previewDigest : ArtifactDigest
  state : ProseCurrentWorkState
  nextOwner : ProseCurrentWorkOwner
  subtaskIds : List SubtaskId
  queueIds : List QueueId
  artifactDigests : List ArtifactDigest
  reviewIds : List ReviewId
  blockers : List ProseCurrentWorkBlocker
deriving DecidableEq

/-- `ORDER BY` a time and then a text. -/
def timeOrder {α : Type} (time : α → ℤ) (name : α → String) (a b : α) : Prop :=
  time a < time b ∨ (time a = time b ∧ name a ≤ name b)

instance {α : Type} (time : α → ℤ) (name : α → String) : DecidableRel (timeOrder time name) :=
  fun _ _ => inferInstanceAs (Decidable (_ ∨ _))

/-- The tasks that were imported for the taskset. -/
def importedProseTasks (s : Db) (tasksetId : ProseTasksetId) : List SubtaskId :=
  (s.proseSubtaskScopes.select fun r => r.tasksetId = tasksetId).map (·.subtaskId)

/-- `prose_scope`: the imported tasks and the follow-ups that repair them. -/
def proseScope (s : Db) (tasksetId : ProseTasksetId) : List SubtaskId :=
  (importedProseTasks s tasksetId ++ followupChain s.reviewFollowups.rows
    s.reviewFollowups.rows.length (importedProseTasks s tasksetId)).dedup

/-- `load_prose_subtask_states_tx` (prose_intake.rs:337-371). -/
def loadProseSubtaskStates (s : Db) (tasksetId : ProseTasksetId) : List SubtaskRow :=
  (s.subtasks.select fun r => r.subtaskId ∈ proseScope s tasksetId).insertionSort
    (timeOrder (·.createdAt) (·.subtaskId.val))

/-- `load_prose_queue_states_tx` (prose_intake.rs:373-409). -/
def loadProseQueueStates (s : Db) (tasksetId : ProseTasksetId) : List ReadyQueueRow :=
  (s.readyQueue.select fun q => q.subtaskId ∈ proseScope s tasksetId).insertionSort
    (timeOrder (·.enqueuedAt) (·.queueId.val))

/-- `load_prose_review_states_tx` (prose_intake.rs:411-445). -/
def loadProseReviewStates (s : Db) (tasksetId : ProseTasksetId) : List ReviewRow :=
  (s.reviews.select fun v => v.subtaskId ∈ proseScope s tasksetId).insertionSort
    (timeOrder (·.createdAt) (·.reviewId.val))

/-- A blocker row as the projection shows it (prose_intake.rs:461-476): the detail becomes the
    reason, and the recorded reason goes into the evidence id. -/
def ProseApplyBlockerRow.shown (r : ProseApplyBlockerRow) : ProseCurrentWorkBlocker where
  blockerId := r.blockerId.val
  evidenceId := "prose_current_work:" ++ r.reason.val ++ ":" ++ r.blockerId.val
  owner := .operator
  queueId := r.queueId
  artifactDigest := r.artifactDigest
  reviewId := r.reviewId
  reason := r.detail.val

/-- `load_prose_blockers_tx` (prose_intake.rs:449-479). -/
def loadProseBlockers (s : Db) (tasksetId : ProseTasksetId) : List ProseCurrentWorkBlocker :=
  ((s.proseApplyBlockers.select fun r => r.tasksetId = tasksetId).insertionSort
    (timeOrder (·.createdAt) (·.blockerId.val))).map (·.shown)

/-- `classify_prose_current_work` (prose_intake.rs:481-550). -/
def classifyProseCurrentWork (subtasks : List SubtaskRow) (queueItems : List ReadyQueueRow)
    (reviews : List ReviewRow) (blockers : List ProseCurrentWorkBlocker) :
    ProseCurrentWorkState × ProseCurrentWorkOwner :=
  if blockers ≠ [] ∨ ∃ r ∈ subtasks, r.state = .blocked ∨ r.state = .abandoned ∨
      r.state = .changesRequested then
    (.blocked, .operator)
  else if queueItems ≠ [] ∧ (∀ q ∈ queueItems, q.state = .applied) ∧
      ∀ r ∈ subtasks, r.state = .applied then
    (.applied, .covey)
  else if (∃ q ∈ queueItems, q.state = .queued ∨ q.state = .inFlight) ∨
      ∃ r ∈ subtasks, r.state = .readyForApply then
    (.applying, .schedulerApply)
  else if (∃ v ∈ reviews, v.state ≠ .decided) ∨
      ∃ r ∈ subtasks, r.state = .artifactPublished ∨ r.state = .reviewPending then
    (.reviewing, .reviewer)
  else if ∃ r ∈ subtasks, r.state = .claimed ∨ r.state = .inProgress then
    (.claimed, .executor)
  else (.imported, .covey)

/-- `load_prose_current_work_tx` (prose_intake.rs:276-323), which `prose_current_work` runs. -/
def loadProseCurrentWork (s : Db) (tasksetId : ProseTasksetId) :
    Except CoveyError ProseCurrentWork :=
  match s.proseTasksets.get? tasksetId with
  | none => .error (.databaseError "Query returned no rows")
  | some taskset =>
    let subtasks := loadProseSubtaskStates s tasksetId
    let queueItems := loadProseQueueStates s tasksetId
    let reviews := loadProseReviewStates s tasksetId
    let blockers := loadProseBlockers s tasksetId
    let verdict := classifyProseCurrentWork subtasks queueItems reviews blockers
    .ok
      { tasksetId := tasksetId
        metaTaskId := taskset.metaTaskId
        previewDigest := taskset.previewDigest
        state := verdict.1
        nextOwner := verdict.2
        subtaskIds := subtasks.map (·.subtaskId)
        queueIds := queueItems.map (·.queueId)
        artifactDigests := ((queueItems.map (·.artifactDigest)).dedup.insertionSort
          fun a b => a.val ≤ b.val)
        reviewIds := reviews.map (·.reviewId)
        blockers := blockers }

end Covey

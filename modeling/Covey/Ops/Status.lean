import Covey.Store

/-!
# What the scheduler shows

Model of the candidate lists and the availability counts of `src/ops/workflow/status.rs`.
They are reads. Each of their SQL statements repeats the conditions of
`ordered_claim_candidate`; the dependency law is the one of `DEPENDENCY_SATISFIED_SQL`.
-/

namespace Covey

/-- `SubtaskCandidate` (views.rs:1071-1089). -/
structure SubtaskCandidate where
  subtaskId : SubtaskId
  metaTaskId : MetaTaskId
  title : SubtaskTitle
  kind : SubtaskKind
  reviewTarget : Option (SubtaskId × ArtifactDigest)
  state : SubtaskState
  artifactDigest : Option ArtifactDigest
  priority : SubtaskPriority
  completionPolicy : CompletionPolicy
  routingKey : RoutingKey
  effectivePriority : ℤ
  isRepairFollowup : Bool
  blockedDependentsCount : ℕ
  createdAt : ℤ
  updatedAt : ℤ

/-- The review target of a candidate (views.rs:1150-1169). -/
def SubtaskRow.reviewTarget (r : SubtaskRow) : Except String (Option (SubtaskId × ArtifactDigest)) :=
  match r.kind, r.reviewTargetSubtaskId, r.reviewTargetArtifactDigest with
  | .work, none, none => .ok none
  | .cleanup, none, none => .ok none
  | .review, some subtaskId, some artifactDigest => .ok (some (subtaskId, artifactDigest))
  | .work, _, _ => .error "work candidate cannot carry review target"
  | .cleanup, _, _ => .error "cleanup candidate cannot carry review target"
  | .review, _, _ => .error "review candidate requires complete review target"

/-- `SubtaskCandidate::new_with_execution_contract` (views.rs:1132-1192) on the columns of a row. -/
def SubtaskCandidate.new (r : SubtaskRow) (effectivePriority : ℤ) (isRepairFollowup : Bool)
    (blockedDependentsCount : ℕ) : Except String SubtaskCandidate := do
  let reviewTarget ← r.reviewTarget
  if r.updatedAt < r.createdAt then
    .error "candidate updated_at must be greater than or equal to created_at"
  else
    return { subtaskId := r.subtaskId
             metaTaskId := r.metaTaskId
             title := r.title
             kind := r.kind
             reviewTarget := reviewTarget
             state := r.state
             artifactDigest := r.artifactDigest
             priority := r.priority
             completionPolicy := r.completionPolicy
             routingKey := r.routingKey
             effectivePriority := effectivePriority
             isRepairFollowup := isRepairFollowup
             blockedDependentsCount := blockedDependentsCount
             createdAt := r.createdAt
             updatedAt := r.updatedAt }

/-- `LIMIT` with `limit as i64`: a negative limit is no limit. -/
def sqlLimit {α : Type} (limit : ℕ) (rows : List α) : List α :=
  let n := (limit : ℤ).bmod (2 ^ 64)
  if n < 0 then rows else rows.take n.toNat

/-- The conditions on the row and its meta-task in the `WHERE` clauses. -/
def Db.Offers (s : Db) (kind : SubtaskKind) (routingKey : RoutingKey)
    (metaTaskId : Option MetaTaskId) (r : SubtaskRow) : Prop :=
  r.kind = kind ∧ r.state = .available ∧ metaTaskIsClaimable s r.metaTaskId ∧
    r.routingKey = routingKey ∧ ∀ m ∈ metaTaskId, r.metaTaskId = m

instance (s : Db) (kind : SubtaskKind) (routingKey : RoutingKey) (metaTaskId : Option MetaTaskId) :
    DecidablePred (s.Offers kind routingKey metaTaskId) :=
  fun _ => inferInstanceAs (Decidable (_ ∧ _))

/-- The rows of the work queries, in the order of the table. -/
def claimableWork (s : Db) (routingKey : RoutingKey) (metaTaskId : Option MetaTaskId) :
    List SubtaskRow :=
  s.subtasks.select fun r => s.Offers .work routingKey metaTaskId r ∧
    subtaskDependenciesSatisfied s r.subtaskId

/-- The rows of the review queries. -/
def claimableReviews (s : Db) (routingKey : RoutingKey) (metaTaskId : Option MetaTaskId) :
    List SubtaskRow :=
  s.subtasks.select (s.Offers .review routingKey metaTaskId)

/-- The column `is_repair_followup`. -/
def isRepairFollowup (s : Db) (r : SubtaskRow) : Bool :=
  s.reviewFollowups.rows.any fun f => f.followupSubtaskId = r.subtaskId

/-- The column `blocked_dependents_count`. -/
def blockedDependentsCount (s : Db) (r : SubtaskRow) : ℕ :=
  (s.dependencies.rows.filter fun d => d.dependsOnSubtaskId = r.subtaskId ∧
    (s.subtasks.get? d.subtaskId).any (fun dependent => dependent.state = .available) = true).length

/-- `subtask_work_candidates_tx` (status.rs:313-423). -/
def subtaskWorkCandidates (s : Db) (routingKey : RoutingKey) (metaTaskId : Option MetaTaskId)
    (limit : ℕ) (now : ℤ) : Except CoveyError (List SubtaskCandidate) :=
  (sqlLimit limit ((claimableWork s routingKey metaTaskId).insertionSort (workOrder now))).mapM
    fun r => observed (SubtaskCandidate.new r (r.agedPriority now) (isRepairFollowup s r)
      (blockedDependentsCount s r))

/-- `subtask_review_candidates_tx` (status.rs:425-480). -/
def subtaskReviewCandidates (s : Db) (routingKey : RoutingKey) (metaTaskId : Option MetaTaskId)
    (limit : ℕ) : Except CoveyError (List SubtaskCandidate) :=
  (sqlLimit limit ((claimableReviews s routingKey metaTaskId).insertionSort reviewOrder)).mapM
    fun r => observed (SubtaskCandidate.new r r.priority.val false 0)

/-- `subtask_candidates_routed` (status.rs:104-146). -/
def subtaskCandidatesRouted (s : Db) (role : SessionRole) (routingKey : RoutingKey) (limit : ℕ)
    (metaTaskId : Option MetaTaskId) (now : ℤ) : Except CoveyError (List SubtaskCandidate) :=
  if limit = 0 then .ok []
  else
    match role with
    | .executor => subtaskWorkCandidates s routingKey metaTaskId limit now
    | .reviewer => subtaskReviewCandidates s routingKey metaTaskId limit
    | other => .error (.wrongRole [.executor, .reviewer] other)

/-- `claimable_subtask_count_tx` (status.rs:529-709). -/
def claimableSubtaskCount (s : Db) (kind : SubtaskKind) (routingKey : RoutingKey)
    (metaTaskId : Option MetaTaskId) : ℕ :=
  match kind with
  | .work => (claimableWork s routingKey metaTaskId).length
  | .review => (claimableReviews s routingKey metaTaskId).length
  | .cleanup => 0

/-- `claimable_subtask_availability_routed` (status.rs:69-93): the executors' and the reviewers'
    count. -/
def claimableSubtaskAvailabilityRouted (s : Db) (routingKey : RoutingKey)
    (metaTaskId : Option MetaTaskId) : ℕ × ℕ :=
  (claimableSubtaskCount s .work routingKey metaTaskId,
    claimableSubtaskCount s .review routingKey metaTaskId)

end Covey

import Covey.Step

/-!
# Scripted runs

Calls with the arguments that a concrete run does not care about filled in. A
script gives every call its own idempotency key and its own block of UUIDs, so
the ids that a call generates are known from its position: `idAt f stem n i` is
the id that call `n` makes of its UUID `i`.
-/

namespace Covey

/-- A text that the field accepts. -/
def ScalarField.sample : ScalarField → String
  | .artifactDigest | .attemptEvidenceDigest | .changedPathsDigest | .findingsDigest
  | .commandTranscriptDigest | .permissiveLandingReceiptDigest | .openSpecDigest =>
    "blake3:0000000000000000000000000000000000000000000000000000000000000000"
  | .landedCommitOid => "0000000"
  | _ => "x"

theorem ScalarField.sample_ok (f : ScalarField) : f.validator f.sample = none := by
  cases f <;> decide +kernel

instance (f : ScalarField) : Inhabited (Text f) := ⟨⟨f.sample, f.sample_ok⟩⟩

/-- The text as a scalar of the field, if it is one. -/
def text {f : ScalarField} (v : String) : Text f :=
  if h : f.validator v = none then ⟨v, h⟩ else default

namespace Script

/-- UUID `i` of call `n`. -/
def uuid (n i : ℕ) : Uuid := Fin.ofNat _ (256 * n + i)

/-- The id that call `n` makes of its UUID `i`. -/
def idAt (f : ScalarField) (stem : String) (n i : ℕ) : Text f :=
  text (stem ++ "_" ++ (uuid n i).simple)

/-- The session that call `n` registers. -/
def session (n : ℕ) : SessionToken := idAt .sessionToken "session" n 0

/-- The meta-task that call `n` submits. -/
def metaTask (n : ℕ) : MetaTaskId := idAt .metaTaskId "meta" n 0

/-- The claim that call `n` opens. -/
def claim (n : ℕ) : ClaimId := idAt .claimId "claim" n 0

def fence (n : ℕ) : FenceSeq := ⟨n + 1, Nat.succ_pos n⟩

def lease : LeaseDurationMs := ⟨1000, by decide, by decide⟩

/-- The longest duration there is. -/
def forever : LeaseDurationMs := ⟨2 ^ 63 - 1, by decide, by decide⟩

def env : Env where
  workflow := ⟨.canonicalApply, text "lane", .optional⟩
  blake3Hex _ := "0000000000000000000000000000000000000000000000000000000000000000"

/-- Calls at the given wall readings, each with a key of its own. -/
def calls (script : List (ℤ × (IdempotencyKey → Operation))) : List Call :=
  script.zipIdx.map fun ((now, op), n) => ⟨op (text (toString n)), now, uuid n⟩

def register (name : String) (role : SessionRole) (key : IdempotencyKey) : Operation :=
  .registerSession ⟨text name, text name, role, key⟩

def submit (k : SessionToken) (key : IdempotencyKey) : Operation :=
  .submitMetaTask ⟨k, text "prompt", key⟩

def create (k : SessionToken) (m : MetaTaskId) (id : String) (policy : CompletionPolicy)
    (key : IdempotencyKey) : Operation :=
  .createWorkSubtask ⟨k, m, some (text id), text id, 0, policy, text "lane", .optional, [], key⟩

def take (k : SessionToken) (id : String) (key : IdempotencyKey) : Operation :=
  .claimSubtask ⟨k, text id, lease, key⟩

def start (k : SessionToken) (c : ClaimId) (n : FenceSeq) (key : IdempotencyKey) : Operation :=
  .startSubtask ⟨k, c, n, key⟩

def release (k : SessionToken) (c : ClaimId) (n : FenceSeq) (key : IdempotencyKey) : Operation :=
  .releaseClaim ⟨k, c, n, key⟩

def digest (name : String) : ArtifactDigest := text ("sha256:" ++ name)

def findings : FindingsDigest := text "sha256:findings"

def publish (k : SessionToken) (c : ClaimId) (n : FenceSeq) (kind : ArtifactKind)
    (d : ArtifactDigest) (key : IdempotencyKey) : Operation :=
  .publishArtifact ⟨k, c, n, d, kind, text "base", text "manifest", text "sha256:paths", key⟩

/-- A review of the artifact `d` of the work `id`, under the review subtask `as`. -/
def ask (k : SessionToken) (id : SubtaskId) (d : ArtifactDigest) (as : String)
    (key : IdempotencyKey) : Operation :=
  .requestReview ⟨k, id, d, some (text as), 0, key⟩

/-- The review that call `n` requests. -/
def review (n : ℕ) : ReviewId := idAt .reviewId "review" n 0

def judge (k : SessionToken) (v : ReviewId) (c : ClaimId) (n : FenceSeq) (verdict : ReviewVerdict)
    (key : IdempotencyKey) : Operation :=
  .decideReview ⟨k, v, c, n, verdict, findings, key⟩

/-- Up to a review of the artifact of the work `a` that its reviewer has started. The sessions are
    those of calls 0 (orchestrator), 1 (executor) and 2 (reviewer). -/
def underReview (policy : CompletionPolicy) : List (ℤ × (IdempotencyKey → Operation)) :=
  [(0, register "orch" .orchestrator), (0, register "exec" .executor),
    (0, register "rev" .reviewer), (1, submit (session 0)),
    (2, create (session 0) (metaTask 3) "a" policy), (3, take (session 1) "a"),
    (4, start (session 1) (claim 5) (fence 0)),
    (5, publish (session 1) (claim 5) (fence 0) .patchBundle (digest "a")),
    (6, ask (session 0) (text "a") (digest "a") "review"), (7, take (session 2) "review"),
    (8, start (session 2) (claim 9) (fence 0))]

/-! ## The apply queue -/

/-- What a session's runtime attests of itself. -/
def attest (k : SessionToken) (name : String) (key : IdempotencyKey) : Operation :=
  .recordRuntimeAttestation
    { sessionToken := k
      provider := text "p"
      model := text "m"
      providerRunId := text name
      providerRunIdIssuer := text "i"
      processId := some (text name)
      containerId := none
      commandTranscriptDigest := text ("sha256:" ++ name)
      identified := .inl rfl
      startedAt := 0
      endedAt := 0
      ordered := ⟨le_refl 0, le_refl 0⟩
      idempotencyKey := key }

/-- The queue row that call `n` inserts with its UUID `i`. -/
def queued (n i : ℕ) : QueueId := idAt .queueId "queue" n i

def takeQueued (k : SessionToken) (key : IdempotencyKey) : Operation :=
  .claimNextReadyQueueItem ⟨k, lease, key⟩

def verify (k : SessionToken) (q : QueueId) (d : ArtifactDigest) (v : ReviewId) (n : FenceSeq)
    (key : IdempotencyKey) : Operation :=
  .recordApplyVerification
    ⟨k, q, d, v, findings, n, text "verifier", digest "verdict", digest "seal", key⟩

def apply (k : SessionToken) (q : QueueId) (n : FenceSeq) (key : IdempotencyKey) : Operation :=
  .markApplied ⟨k, q, n, key⟩

/-- Sessions of all roles: those of calls 0 (orchestrator), 1 (executor), 2 (reviewer) and 3 (apply
    gate), the last three attested. -/
def staffed : List (ℤ × (IdempotencyKey → Operation)) :=
  [(0, register "orch" .orchestrator), (0, register "exec" .executor),
    (0, register "rev" .reviewer), (0, register "gate" .applyGate), (0, attest (session 1) "e"),
    (0, attest (session 2) "r"), (0, attest (session 3) "g")]

/-- Calls `n` to `n + 6` at time `t`: the executor publishes `d` for the work `id`, a review of it
    is asked for, and the reviewer approves. -/
def approval (n : ℕ) (t : ℤ) (id : SubtaskId) (kind : ArtifactKind) (d : ArtifactDigest)
    (as : String) : List (ℤ × (IdempotencyKey → Operation)) :=
  [(t, fun key => .claimSubtask ⟨session 1, id, lease, key⟩),
    (t, start (session 1) (claim n) (fence 0)),
    (t, publish (session 1) (claim n) (fence 0) kind d), (t, ask (session 0) id d as),
    (t, take (session 2) as), (t, start (session 2) (claim (n + 4)) (fence 0)),
    (t, judge (session 2) (review (n + 3)) (claim (n + 4)) (fence 0) .approve)]

/-- Calls `n` to `n + 2`: the apply gate takes the row that call `n - 1` enqueued in flight,
    verifies its artifact and applies it. -/
def landing (n : ℕ) (t : ℤ) (d : ArtifactDigest) (v : ReviewId) :
    List (ℤ × (IdempotencyKey → Operation)) :=
  [(t, takeQueued (session 3)), (t, verify (session 3) (queued (n - 1) 0) d v (fence 0)),
    (t, apply (session 3) (queued (n - 1) 0) (fence 0))]

/-- The work `a` up to its approval. -/
def approvedWork : List (ℤ × (IdempotencyKey → Operation)) :=
  staffed ++ [(1, submit (session 0)), (1, create (session 0) (metaTask 7) "a" .canonicalApply)] ++
    approval 9 2 (text "a") .patchBundle (digest "a") "review"

/-! ## An OpenSpec change -/

def change : OpenSpecChangeId := text "change"

def firstTaskId : OpenSpecTaskId := ⟨"1.1", by decide⟩

def secondTaskId : OpenSpecTaskId := ⟨"1.2", by decide⟩

def tasksPath : OpenSpecPath := ⟨"tasks.md", by decide⟩

def source : OpenSpecSourceSnapshot where
  changeId := change
  changePath := ⟨"changes/change", by decide⟩
  tasks := [⟨firstTaskId, text "task", tasksPath, default, none, [], []⟩]
  proposalDigest := default
  designDigest := default
  tasksDigest := default
  specDigests := []
  sourceDigests := []
  missionArtifactDigests := []
  missionArtifacts := []

/-- The work that the change asks for. -/
def task : SubtaskId := text "openspec:change:1.1"

def cleanupTask : SubtaskId := text "openspec:change:cleanup:archive"

def docs : RepoopsPath := ⟨"docs", "docs", by decide⟩

theorem docs_ne_nil : [docs] ≠ [] := by simp

theorem docs_nodup : [docs].Nodup := by simp

def beginCleanup (k : SessionToken) (key : IdempotencyKey) : Operation :=
  .beginOpenSpecArchiveCleanup
    ⟨k, change, [docs], docs_ne_nil, docs_nodup, key⟩

def finishCleanup (k : SessionToken) (c : ClaimId) (n : FenceSeq) (key : IdempotencyKey) :
    Operation :=
  .finishOpenSpecArchiveCleanup ⟨k, change, c, n, digest "proof", key⟩

/-- Up to an approval of the change's only task, whose artifact is not one to be applied: the
    change is ready to be archived. The sessions are those of calls 0 and 1 (orchestrators), 2
    (executor) and 3 (reviewer). -/
def archivable : List (ℤ × (IdempotencyKey → Operation)) :=
  [(0, register "orch" .orchestrator), (0, register "orch2" .orchestrator),
    (0, register "exec" .executor), (0, register "rev" .reviewer),
    (1, fun _ => .importOpenSpec (session 0) source),
    (2, fun key => .claimSubtask ⟨session 2, task, lease, key⟩),
    (3, start (session 2) (claim 5) (fence 0)),
    (4, publish (session 2) (claim 5) (fence 0) .findingsBundle (digest "a")),
    (5, ask (session 0) task (digest "a") "review"),
    (6, take (session 3) "review"), (7, start (session 3) (claim 9) (fence 0)),
    (8, judge (session 3) (review 8) (claim 9) (fence 0) .approve)]

end Script

end Covey

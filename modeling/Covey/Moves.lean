import Covey.Board
import Mathlib.Data.Option.Basic
import Mathlib.Data.Set.Insert
import Mathlib.Logic.Relation

/-!
# Moves on the board

The ways in which the operations change the board, stated without the
statements that carry them out. Every successful operation is a sequence of
moves (`Steps`), and every invariant of the store is an invariant of the moves.

* `Edit`: a change of a subtask that leaves its claim alone.
* `Detach`: a change of a subtask whose claim is closed with it.
* `LeaseMove`: a change of sessions, subtasks, claims and fences.
* `LedgerMove`: a new or changed record about artifacts.
* `Move`: either of them, or the joint change that applies an artifact.

A move carries the facts that the guards of its operations establish, and
nothing that an invariant would have to supply.
-/

namespace Covey

open Relational

/-- What a move is made for. `review` and `verdict` are the moves of a review round; every other
    move leaves the rounds as they are. `attempt` ends an attempt at direct work. The last three are the ones that an invariant has to
    exclude: `reuse` gives an existing claim row to a new cleanup, `misname` creates work or
    a review under a reserved id, and `strand` blocks work whose producer still holds it. -/
inductive Write
  | declared | review | verdict | attempt | lapse | abandon | revive | cleanup | reuse | misname
  | strand
deriving DecidableEq

/-! ## Records that outlive their transaction -/

/-- The session is who it was and holds what it held; it has not come back from its exit or
    gone there. -/
structure SessionRow.Touched (r r' : SessionRow) : Prop where
  token : r'.sessionToken = r.sessionToken
  principal : r'.agentPrincipalId = r.agentPrincipalId
  agent : r'.agentInstanceId = r.agentInstanceId
  role : r'.role = r.role
  active : r'.activeSubtaskId = r.activeSubtaskId
  exited : r'.state = .exited → r.state = .exited

/-- The review is of the same artifact and has the same review subtask. -/
structure ReviewRow.SameRound (r r' : ReviewRow) : Prop where
  keyed : r'.reviewId = r.reviewId
  subtask : r'.subtaskId = r.subtaskId
  artifact : r'.artifactDigest = r.artifactDigest
  reviewSubtask : r'.reviewSubtaskId = r.reviewSubtaskId

/-- A change of a review other than its decision. -/
def ReviewRow.Evolves (r r' : ReviewRow) : Prop :=
  r' = r ∨ (r.state ≠ .decided ∧ r'.state ≠ .decided ∧ r.SameRound r')

/-- A change of a queue row other than its application: an open row is claimed, or let go. -/
inductive ReadyQueueRow.Evolves (q : ReadyQueueRow) : ReadyQueueRow → Prop
  | same : q.Evolves q
  | claim {k : SessionToken} {deadline now : ℤ} (queued : q.state = .queued) :
      q.Evolves
        { q with state := .inFlight, claimedBySessionToken := some k,
                 claimFenceSeq := some (q.claimFenceSeq.getD 0 + 1),
                 claimLeaseDeadline := some deadline, updatedAt := now }
  | vacate {state : ReadyQueueState} {now : ℤ} (going : q.isOpen)
      (left : state = .queued ∨ state = .superseded ∨ state = .cancelled) :
      q.Evolves
        { q with state := state, claimedBySessionToken := none, claimLeaseDeadline := none,
                 updatedAt := now }

/-- The cleanup record names the claim and the subtask it named. -/
def CleanupClaimRow.SameClaim (r r' : CleanupClaimRow) : Prop :=
  r'.cleanupSubtaskId = r.cleanupSubtaskId ∧ r'.cleanupClaimId = r.cleanupClaimId

/-! ## Evidence -/

/-- The session has the role. -/
def Board.ActsAs (b : Board) (k : SessionToken) (role : SessionRole) : Prop :=
  ∃ r, b.session k = some r ∧ r.role = role

/-- A decided approval of an artifact of a subtask, by another principal than the
    artifact's producer. -/
structure Approval (b : Board) (id : SubtaskId) (digest : ArtifactDigest) (review : ReviewRow) :
    Prop where
  recorded : b.review review.reviewId = some review
  ofSubtask : review.subtaskId = id
  ofDigest : review.artifactDigest = digest
  decided : review.state = .decided
  approved : review.verdict = some .approve
  separated : ∃ artifact producer reviewer, b.artifact digest = some artifact ∧
    b.session artifact.producedBySession = some producer ∧
    b.session review.reviewerSession = some reviewer ∧
    producer.agentPrincipalId ≠ reviewer.agentPrincipalId

/-- What settles work without the queue: an approval, and a permissive landing under it or an
    artifact that is not applied at all. -/
def SettledByReview (b : Board) (id : SubtaskId) (digest : ArtifactDigest) : Prop :=
  ∃ review, Approval b id digest review ∧
    ((∃ p, b.permissive review.reviewId = some p ∧ p.artifactDigest = digest) ∨
      ∃ a, b.artifact digest = some a ∧ ¬a.artifactKind.isApplyable)

/-- The session that records a verification is separated from the producer and the reviewer of
    the approval it verifies. -/
structure Verified (b : Board) (v : ApplyVerificationRow) : Prop where
  review : ∃ review, b.review v.reviewId = some review ∧ review.artifactDigest = v.artifactDigest ∧
    review.state = .decided ∧ review.verdict = some .approve ∧
    review.findingsDigest = some v.findingsDigest ∧
    ∃ artifact producer reviewer gate, b.artifact v.artifactDigest = some artifact ∧
      b.session artifact.producedBySession = some producer ∧
      b.session review.reviewerSession = some reviewer ∧
      b.session v.recordedBySession = some gate ∧
      producer.agentPrincipalId ≠ reviewer.agentPrincipalId ∧
      gate.agentPrincipalId ≠ producer.agentPrincipalId ∧
      gate.agentPrincipalId ≠ reviewer.agentPrincipalId

/-- A verification of the queue row's artifact under the fence `n`, of an approval of the row's
    subtask. -/
def VerifiedFor (b : Board) (q : ReadyQueueRow) (n : ℕ) : Prop :=
  ∃ key v review, b.verification key = some v ∧ v.queueId = q.queueId ∧
    v.artifactDigest = q.artifactDigest ∧ v.claimFenceSeq = n ∧
    b.review v.reviewId = some review ∧ review.subtaskId = q.subtaskId

/-! ## Subtasks -/

/-- A subtask as it is created. -/
structure SubtaskRow.Fresh (r : SubtaskRow) (now : ℤ) : Prop where
  state : r.state = .available
  claim : r.currentClaimId = none
  artifact : r.artifactDigest = none
  created : r.createdAt = now
  updated : r.updatedAt = now

/-- What a repair takes over from the work it repairs. -/
structure SubtaskRow.Bequeaths (r r' : SubtaskRow) : Prop where
  metaTask : r'.metaTaskId = r.metaTaskId
  policy : r'.completionPolicy = r.completionPolicy
  lane : r'.routingKey = r.routingKey
  priority : r'.priority = r.priority

/-- `cancel_meta_task`'s change of a subtask. -/
def SubtaskRow.cancelled (now : ℤ) (r : SubtaskRow) : SubtaskRow :=
  { r with
    state := if r.state.isTerminal then r.state else .abandoned
    currentClaimId := none
    updatedAt := now }

/-- What a release or an expiry leaves of a subtask. -/
def SubtaskRow.lapsed (now : ℤ) (r : SubtaskRow) : SubtaskRow :=
  { r with
    state := if r.state = .claimed ∨ r.state = .inProgress then .available else r.state
    currentClaimId := none
    updatedAt := now }

/-- What a subtask needs, beyond a declared transition, to go on to `target` with its claim. -/
def ReadyFor (b : Board) (r : SubtaskRow) : SubtaskState → Prop
  | .inProgress | .reviewPending | .changesRequested => True
  | .blocked => r.currentClaimId = none
  | .approved | .readyForApply => r.completionPolicy = .canonicalApply
  | .applied => r.kind = .work ∧ r.completionPolicy = .canonicalApply ∧
      ∃ digest, r.artifactDigest = some digest ∧ SettledByReview b r.subtaskId digest
  | _ => False

/-- What a subtask of the kind goes on to `target` for. -/
def advanceLabel (kind : SubtaskKind) : SubtaskState → Write
  | .readyForApply => .declared
  | .inProgress => if kind = .review then .review else .declared
  | _ => .review

/-- A change of a subtask that leaves its claim alone. -/
inductive Edit (b : Board) (now : ℤ) : Write → SubtaskRow → SubtaskRow → Prop
  | advance {w : Write} {r : SubtaskRow} {target : SubtaskState}
      (label : w = advanceLabel r.kind target) (loads : r.Loads)
      (allowed : r.kind.allows r.state target = true) (ready : ReadyFor b r target) :
      Edit b now w r { r with state := target, updatedAt := now }
  | publish {r : SubtaskRow} {digest : ArtifactDigest} (loads : r.Loads) (kind : r.kind = .work)
      (policy : r.completionPolicy ≠ .direct)
      (allowed : r.kind.allows r.state .artifactPublished = true) :
      Edit b now .review r
        { r with artifactDigest := some digest, state := .artifactPublished, updatedAt := now }
  | complete {r : SubtaskRow} (loads : r.Loads) (allowed : r.kind.allows r.state .completed = true)
      (policy : r.completionPolicy = .reviewed) (artifact : r.artifactDigest.isSome)
      (free : r.currentClaimId = none) :
      Edit b now .review r { r with state := .completed, currentClaimId := none, updatedAt := now }
  | retitle {r : SubtaskRow} {title : SubtaskTitle} :
      Edit b now .declared r { r with title := title, updatedAt := now }
  | revive {r : SubtaskRow} (kind : r.kind = .work) (revivable : r.isRevivable)
      (followup : ∃ k f, b.followup k = some f ∧ f.followupSubtaskId = r.subtaskId) :
      Edit b now .revive r { r with state := .available, updatedAt := now }
  | cancel {r : SubtaskRow}
      (free : ∀ c row, r.currentClaimId = some c → b.claim c = some row → row.state ≠ .held) :
      Edit b now .abandon r (r.cancelled now)
  | reopen {r : SubtaskRow} (kind : r.kind = .cleanup) (abandoned : r.state = .abandoned) :
      Edit b now .cleanup r { r with state := .available, currentClaimId := none, updatedAt := now }
  | strand {r : SubtaskRow} (loads : r.Loads) (allowed : r.kind.allows r.state .blocked = true) :
      Edit b now .strand r { r with state := .blocked, updatedAt := now }

/-- A change of a subtask whose current claim is closed with it. -/
inductive Detach (now : ℤ) : Write → SubtaskRow → SubtaskRow → Prop
  | lapse {r : SubtaskRow} : Detach now .lapse r (r.lapsed now)
  | abandon {r : SubtaskRow} (going : ¬r.state.isTerminal) :
      Detach now .abandon r { r with state := .abandoned, currentClaimId := none, updatedAt := now }
  | cancel {r : SubtaskRow} : Detach now .abandon r (r.cancelled now)
  | outcome {r : SubtaskRow} {kind : AttemptOutcomeKind} (loads : r.Loads)
      (policy : r.completionPolicy = .direct) (started : r.state = .inProgress)
      (allowed : r.kind.allows r.state kind.nextState = true) :
      Detach now .attempt r
        { r with state := kind.nextState, currentClaimId := none, updatedAt := now }
  | decide {r : SubtaskRow} (loads : r.Loads) (allowed : r.kind.allows r.state .decided = true) :
      Detach now .review r { r with state := .decided, currentClaimId := none, updatedAt := now }
  | complete {r : SubtaskRow} (loads : r.Loads) (allowed : r.kind.allows r.state .completed = true)
      (policy : r.completionPolicy = .reviewed) (artifact : r.artifactDigest.isSome) :
      Detach now .review r { r with state := .completed, currentClaimId := none, updatedAt := now }

/-! ## Leases -/

/-- What a new subtask of the kind is created for. -/
def SubtaskKind.createLabel : SubtaskKind → Write
  | .work => .declared
  | .review => .review
  | .cleanup => .cleanup

/-- A change of who holds what. -/
inductive LeaseMove (now : ℤ) (b : Board) : Write → Leases → Prop
  | register {r : SessionRow} (fresh : b.session r.sessionToken = none)
      (active : r.state = .active) (idle : r.activeSubtaskId = none) :
      LeaseMove now b .declared
        { b.toLeases with session := put b.session r.sessionToken r }
  | touch {g : SessionToken → Option SessionRow}
      (touched : ∀ k, Option.Rel SessionRow.Touched (b.session k) (g k)) :
      LeaseMove now b .declared { b.toLeases with session := g }
  | exit {k : SessionToken} {r : SessionRow} (session : b.session k = some r)
      (free : ∀ c row, b.claim c = some row → row.ownerSessionToken = k → row.state ≠ .held) :
      LeaseMove now b .declared
        { b.toLeases with
          session := put b.session k
            { r with state := .exited, activeSubtaskId := none, updatedAt := now } }
  | create {w : Write} {r : SubtaskRow} (fresh : r.Fresh now) (kind : r.kind ≠ .cleanup)
      (named : w = r.kind.createLabel ∧ ¬ReservedId r.subtaskId ∨ w = .misname)
      (absent : b.subtask r.subtaskId = none) (unissued : b.fence r.subtaskId = none) :
      LeaseMove now b w
        { b.toLeases with
          subtask := put b.subtask r.subtaskId r
          fence := put b.fence r.subtaskId 1 }
  | edit {w : Write} {g : SubtaskId → Option SubtaskRow}
      (edited : ∀ k, Option.Rel (fun r r' => r' = r ∨ Edit b now w r r') (b.subtask k) (g k)) :
      LeaseMove now b w { b.toLeases with subtask := g }
  | claim {r : SubtaskRow} {σ : SessionRow} {c : ClaimRow}
      (subtask : b.subtask c.subtaskId = some r) (loads : r.Loads)
      (allowed : r.kind.allows r.state .claimed = true) (session : b.session c.ownerSessionToken = some σ)
      (active : σ.state = .active) (idle : σ.activeSubtaskId = none) (role : σ.role = r.kind.claimRole)
      (new : b.claim c.claimId = none) (held : c.state = .held)
      (free : ∀ k row, b.claim k = some row → row.subtaskId = c.subtaskId → row.state ≠ .held)
      (fence : c.fenceSeq = (b.fence c.subtaskId).getD 1) :
      LeaseMove now b .declared
        { b.toLeases with
          session := put b.session c.ownerSessionToken
            { σ with activeSubtaskId := some c.subtaskId, updatedAt := now }
          subtask := put b.subtask c.subtaskId
            { r with state := .claimed, currentClaimId := some c.claimId,
                           artifactDigest := none, updatedAt := now }
          claim := put b.claim c.claimId c
          fence := put b.fence c.subtaskId (c.fenceSeq + 1) }
  | close {w : Write} {c : ClaimRow} {state : ClaimState} {g : SubtaskRow → SubtaskRow}
      {clears : SessionRow → Prop} [DecidablePred clears]
      (current : b.claim c.claimId = some c) (held : c.state = .held) (closed : state ≠ .held)
      (detach : ∀ r, b.subtask c.subtaskId = some r → r.currentClaimId = some c.claimId →
        Detach now w r (g r))
      (cleared : ∀ r, r.activeSubtaskId = some c.subtaskId → clears r) :
      LeaseMove now b w
        { b.toLeases with
          session := modify b.session c.ownerSessionToken fun r =>
              if clears r then { r with activeSubtaskId := none, updatedAt := now } else r
          subtask := modify b.subtask c.subtaskId fun r =>
              if r.currentClaimId = some c.claimId then g r else r
          claim := put b.claim c.claimId
            { c with state := state, updatedAt := now } }
  | renew {c : ClaimRow} {deadline : ℤ} (current : b.claim c.claimId = some c) :
      LeaseMove now b .declared
        { b.toLeases with
          claim := put b.claim c.claimId
            { c with leaseDeadline := deadline, updatedAt := now } }
  | createCleanup {r : SubtaskRow} (fresh : r.Fresh now) (kind : r.kind = .cleanup)
      (reserved : ReservedId r.subtaskId) (absent : b.subtask r.subtaskId = none) :
      LeaseMove now b .cleanup
        { b.toLeases with subtask := put b.subtask r.subtaskId r }
  | openCleanup {w : Write} {changeId : OpenSpecChangeId} {id : SubtaskId} {c : ClaimRow}
      {row : CleanupClaimRow} {σ : SessionRow} (reserved : id.val = cleanupSubtaskName changeId)
      (session : b.session c.ownerSessionToken = some σ) (role : σ.role = .orchestrator)
      (held : c.state = .held) (fence : c.fenceSeq = (b.fence id).getD 1)
      (only : ∀ k row, b.claim k = some row → row.subtaskId = c.subtaskId → row.state = .held →
        k = c.claimId)
      (source : w = .cleanup ∧ b.claim c.claimId = none ∧ c.subtaskId = id ∨
        w = .reuse ∧ ∃ old, b.claim c.claimId = some old ∧ c.subtaskId = old.subtaskId ∧
          ((∃ r, b.subtask id = some r ∧ r.currentClaimId = some c.claimId) ∨
            (∃ recorded, b.cleanup changeId = some recorded ∧
              recorded.cleanupClaimId = c.claimId) ∨
            old.subtaskId = id))
      (subtask : (b.subtask id).isSome) (rowSubtask : row.cleanupSubtaskId = id)
      (rowClaim : row.cleanupClaimId = c.claimId)
      (reopened : ∀ r, b.subtask id = some r → r.kind = .cleanup → r.state ≠ .abandoned) :
      LeaseMove now b w
        { b.toLeases with
          subtask := modify b.subtask id fun r =>
              if r.state = .available ∧ r.currentClaimId = none then
                { r with state := .inProgress, currentClaimId := some c.claimId, updatedAt := now }
              else r
          claim := put b.claim c.claimId c
          fence := put b.fence id (c.fenceSeq + 1)
          cleanup := put b.cleanup changeId row }
  | endCleanup {changeId : OpenSpecChangeId} {row : CleanupClaimRow} {state : ClaimState}
      {target : SubtaskState} (recorded : b.cleanup changeId = some row) (closed : state ≠ .held)
      (left : target = .available ∨ target = .abandoned) :
      LeaseMove now b .cleanup
        { b.toLeases with
          subtask := modify b.subtask row.cleanupSubtaskId fun r =>
              if r.currentClaimId = some row.cleanupClaimId then
                { r with state := target, currentClaimId := none, updatedAt := now }
              else r
          claim := modify b.claim row.cleanupClaimId fun c =>
              if c.state = .held then { c with state := state, updatedAt := now } else c }
  | markCleanup {g : OpenSpecChangeId → Option CleanupClaimRow}
      (marked : ∀ k, Option.Rel CleanupClaimRow.SameClaim (b.cleanup k) (g k)) :
      LeaseMove now b .cleanup { b.toLeases with cleanup := g }

/-! ## The ledger -/

/-- A new or changed record about an artifact. -/
inductive LedgerMove (b : Board) : Write → Ledger → Prop
  | artifact {a : ArtifactRow} {r : SubtaskRow} (new : b.artifact a.artifactDigest = none)
      (subtask : b.subtask a.producedBySubtaskId = some r) (policy : r.completionPolicy ≠ .direct)
      (producer : b.ActsAs a.producedBySession .executor) :
      LedgerMove b .declared
        { b.toLedger with artifact := put b.artifact a.artifactDigest a }
  | review {v : ReviewRow} {r : SubtaskRow} (new : b.review v.reviewId = none)
      (requested : v.state = .requested) (subtask : b.subtask v.subtaskId = some r)
      (policy : r.completionPolicy ≠ .direct) (digest : r.artifactDigest = some v.artifactDigest) :
      LedgerMove b .review { b.toLedger with review := put b.review v.reviewId v }
  | reviews {g : ReviewId → Option ReviewRow}
      (evolved : ∀ k, Option.Rel ReviewRow.Evolves (b.review k) (g k)) :
      LedgerMove b .review { b.toLedger with review := g }
  | verdict {v v' : ReviewRow} (current : b.review v.reviewId = some v)
      (undecided : v.state ≠ .decided) (same : v.SameRound v')
      (reviewer : b.ActsAs v'.reviewerSession .reviewer) :
      LedgerMove b .verdict { b.toLedger with review := put b.review v.reviewId v' }
  | followup {f : ReviewFollowupRow} {v : ReviewRow} {r r' : SubtaskRow}
      (new : b.followup f.reviewId = none) (review : b.review f.reviewId = some v)
      (failed : v.isFailed) (source : v.subtaskId = f.sourceSubtaskId)
      (repaired : b.subtask f.sourceSubtaskId = some r)
      (repair : b.subtask f.followupSubtaskId = some r') (kind : r'.kind = .work)
      (unpublished : r'.artifactDigest = none) (inherits : r.Bequeaths r')
      (unlinked : ∀ k f', b.followup k = some f' → f'.followupSubtaskId ≠ f.followupSubtaskId) :
      LedgerMove b .declared { b.toLedger with followup := put b.followup f.reviewId f }
  | permissive {p : PermissiveLandingReceiptRow} (new : b.permissive p.reviewId = none) :
      LedgerMove b .declared { b.toLedger with permissive := put b.permissive p.reviewId p }
  | enqueue {q : ReadyQueueRow} {r : SubtaskRow} (new : b.queue q.queueId = none)
      (queued : q.state = .queued) (unclaimed : q.claimFenceSeq = none)
      (subtask : b.subtask q.subtaskId = some r) (policy : r.completionPolicy = .canonicalApply)
      (ready : r.state = .readyForApply) (digest : r.artifactDigest = some q.artifactDigest)
      (alone : ∀ k q', b.queue k = some q' → q'.isOpen → q'.subtaskId ≠ q.subtaskId) :
      LedgerMove b .declared { b.toLedger with queue := put b.queue q.queueId q }
  | queue {g : QueueId → Option ReadyQueueRow}
      (evolved : ∀ k, Option.Rel ReadyQueueRow.Evolves (b.queue k) (g k)) :
      LedgerMove b .declared { b.toLedger with queue := g }
  | verify {v : ApplyVerificationRow}
      (new : b.verification (v.queueId, v.claimFenceSeq, v.sealDigest) = none)
      (verified : Verified b v) :
      LedgerMove b .declared
        { b.toLedger with
          verification := put b.verification (v.queueId, v.claimFenceSeq, v.sealDigest) v }

/-! ## Moves and runs of moves -/

/-- One move. -/
inductive Move (now : ℤ) : Write → Board → Board → Prop
  | lease {w : Write} {b : Board} {leases : Leases} (move : LeaseMove now b w leases) :
      Move now w b ⟨leases, b.toLedger⟩
  | ledger {w : Write} {b : Board} {ledger : Ledger} (move : LedgerMove b w ledger) :
      Move now w b ⟨b.toLeases, ledger⟩
  | apply {b : Board} {q : ReadyQueueRow} {r : SubtaskRow} {n : ℕ}
      (queued : b.queue q.queueId = some q) (inFlight : q.state = .inFlight)
      (fence : q.claimFenceSeq = some n) (verified : VerifiedFor b q n)
      (subtask : b.subtask q.subtaskId = some r) (kind : r.kind = .work)
      (policy : r.completionPolicy = .canonicalApply) (ready : r.state = .readyForApply)
      (digest : r.artifactDigest = some q.artifactDigest) :
      Move now .declared b
        { b with
          subtask := put b.subtask q.subtaskId
            { r with state := .applied, updatedAt := now }
          queue := put b.queue q.queueId
            { q with state := .applied, claimedBySessionToken := none,
                           claimLeaseDeadline := none, updatedAt := now } }

/-- A sequence of moves made for the purposes in `L`. -/
def Steps (L : Set Write) (now : ℤ) : Board → Board → Prop :=
  Relation.ReflTransGen fun b b' => ∃ w ∈ L, Move now w b b'

namespace Steps

variable {L L' : Set Write} {now : ℤ} {b b' b'' : Board}

theorem refl (b : Board) : Steps L now b b := Relation.ReflTransGen.refl

theorem of_eq (h : b' = b) : Steps L now b b' := by
  subst h
  exact refl b'

theorem trans (h : Steps L now b b') (h' : Steps L now b' b'') : Steps L now b b'' :=
  Relation.ReflTransGen.trans h h'

theorem move {w : Write} (hw : w ∈ L) (h : Move now w b b') : Steps L now b b' :=
  Relation.ReflTransGen.single ⟨w, hw, h⟩

theorem lease {w : Write} {leases : Leases} (hw : w ∈ L) (h : LeaseMove now b w leases) :
    Steps L now b ⟨leases, b.toLedger⟩ :=
  move hw (.lease h)

theorem ledger {w : Write} {ledger : Ledger} (hw : w ∈ L) (h : LedgerMove b w ledger) :
    Steps L now b ⟨b.toLeases, ledger⟩ :=
  move hw (.ledger h)

/-- What every single move preserves, a sequence of moves preserves. -/
theorem invariant {I : Board → Prop}
    (hstep : ∀ {w b b'}, w ∈ L → Move now w b b' → I b → I b') (h : Steps L now b b') (hb : I b) :
    I b' := by
  induction h with
  | refl => exact hb
  | tail _ hmove ih =>
    obtain ⟨w, hw, hmove⟩ := hmove
    exact hstep hw hmove ih

end Steps

/-- The board of the second store is reached from that of the first by moves. -/
def Moves (L : Set Write) (now : ℤ) (s s' : Db) : Prop := Steps L now s.board s'.board

section Moves

variable {L : Set Write} {now : ℤ} {s s' s'' : Db}

theorem Moves.refl (s : Db) : Moves L now s s := Steps.refl s.board

theorem Moves.trans (h : Moves L now s s') (h' : Moves L now s' s'') : Moves L now s s'' :=
  Steps.trans h h'

instance : Std.Refl (Moves L now) := ⟨Moves.refl⟩

instance : IsTrans Db (Moves L now) := ⟨fun _ _ _ => Moves.trans⟩

theorem SameBoard.moves (h : SameBoard s s') : Moves L now s s' := Steps.of_eq h

end Moves

end Covey

import Covey.Rounds

/-!
# What a call does to the review rounds

Beside calm changes and expiries there are seven operations that turn a round: a claim is
released or its subtask abandoned, a meta-task is cancelled, a review is requested, started or
decided, and an artifact is published.

* `Turn`: what each of them does to the subtasks, reviews and claims.
* `next_turns`: a call makes one turn at most, and settles.
-/

namespace Covey

open Relational

variable {now : ℤ} {x x' : Rounds} {s s' : Db} {u : Unit} {v : Response}

/-- A subtask as it is abandoned. -/
def SubtaskRow.given (now : ℤ) (r : SubtaskRow) : SubtaskRow :=
  { r with state := .abandoned, currentClaimId := none, updatedAt := now }

/-- Every claim stays its owner's. -/
def OwnersKept (claim claim' : ClaimId → Option ClaimRow) : Prop :=
  ∀ ⦃k c⦄, claim k = some c →
    ∃ c', claim' k = some c' ∧ c'.ownerSessionToken = c.ownerSessionToken

/-- An open review of another artifact of the subtask is superseded. -/
def ReviewRow.supersede (id : SubtaskId) (digest : ArtifactDigest) (now : ℤ) (v : ReviewRow) :
    ReviewRow :=
  if v.subtaskId = id ∧ v.artifactDigest ≠ digest ∧ v.isOpen then
    { v with state := .superseded, updatedAt := now }
  else v

/-- A requested review is started. -/
def ReviewRow.start (id : SubtaskId) (k : SessionToken) (now : ℤ) (v : ReviewRow) : ReviewRow :=
  if v.reviewSubtaskId = id ∧ v.state = .requested then
    { v with state := .inProgress, reviewerSession := k, updatedAt := now }
  else v

/-- The operation decides the review with a failing verdict. -/
def Operation.Fails (op : Operation) (k : ReviewId) : Prop :=
  ∃ req, op = .decideReview req ∧ req.reviewId = k ∧ req.verdict ≠ .approve

/-- The operations that turn a round. -/
inductive Turn (now : ℤ) (x : Rounds) : Operation → Rounds → Prop
  | release {req : ReleaseClaimReq} {c : ClaimRow} (named : c.claimId = req.claimId)
      (claim : x.claim c.claimId = some c) (held : c.state = .held) :
      Turn now x (.releaseClaim req) (x.close c .released (SubtaskRow.lapsed now) now)
  | abandon {req : AbandonSubtaskReq} {c : ClaimRow} (named : c.claimId = req.claimId)
      (claim : x.claim c.claimId = some c) (held : c.state = .held) :
      Turn now x (.abandonSubtask req) (x.close c .released (SubtaskRow.given now) now)
  | cancel {req : CancelMetaTaskReq} {claim : ClaimId → Option ClaimRow}
      (owners : OwnersKept x.claim claim) :
      Turn now x (.cancelMetaTask req)
        { x with
          subtask := fun id => (x.subtask id).map fun r =>
            if r.metaTaskId = req.metaTaskId then r.cancelled now else r
          claim := claim }
  | start {req : StartSubtaskReq} {c : ClaimRow} {t : SubtaskRow} {v : ReviewRow}
      {review : ReviewId → Option ReviewRow} (claim : x.claim c.claimId = some c)
      (held : c.state = .held) (owner : c.ownerSessionToken = req.sessionToken)
      (subtask : x.subtask c.subtaskId = some t) (kind : t.kind = .review)
      (claimed : t.state = .claimed) (found : x.review v.reviewId = some v)
      (of : v.reviewSubtaskId = c.subtaskId)
      (started : v.state = .inProgress ∧ review = x.review ∨ v.state = .requested ∧
        review = fun k => (x.review k).map (ReviewRow.start c.subtaskId req.sessionToken now)) :
      Turn now x (.startSubtask req)
        { x with
          subtask := put x.subtask c.subtaskId { t with state := .inProgress, updatedAt := now }
          review := review }
  | publish {req : PublishArtifactReq} {c : ClaimRow} {r : SubtaskRow}
      {review : ReviewId → Option ReviewRow} {known : ArtifactDigest → Prop}
      (claim : x.claim req.claimId = some c) (subtask : x.subtask c.subtaskId = some r)
      (kind : r.kind = .work) (allowed : r.kind.allows r.state .artifactPublished = true)
      (knows : ∀ {digest}, x.known digest → known digest)
      (reviews : x.known req.artifactDigest ∧ review = x.review ∨
        ¬x.known req.artifactDigest ∧ review = fun k =>
          (x.review k).map (ReviewRow.supersede c.subtaskId req.artifactDigest now)) :
      Turn now x (.publishArtifact req)
        { x with
          subtask := put x.subtask c.subtaskId
            { r with artifactDigest := some req.artifactDigest, state := .artifactPublished,
                           updatedAt := now }
          review := review
          known := known }
  | request {req : RequestReviewReq} {r t : SubtaskRow} {v : ReviewRow}
      (work : x.subtask v.subtaskId = some r) (workKind : r.kind = .work)
      (published : r.state = .artifactPublished) (digest : r.artifactDigest = some v.artifactDigest)
      (known : x.known v.artifactDigest) (absent : x.subtask v.reviewSubtaskId = none)
      (kind : t.kind = .review) (available : t.state = .available)
      (metaTask : t.metaTaskId = r.metaTaskId) (new : x.review v.reviewId = none)
      (requested : v.state = .requested) :
      Turn now x (.requestReview req)
        { x with
          subtask := put (put x.subtask v.reviewSubtaskId t) v.subtaskId
            { r with state := .reviewPending, updatedAt := now }
          review := put x.review v.reviewId v }
  | decide {op : Operation} {v v' : ReviewRow} {t t' r r' : SubtaskRow}
      {claim : ClaimId → Option ClaimRow} (review : x.review v.reviewId = some v)
      (started : v.state = .inProgress) (decided : v'.state = .decided)
      (same : v.SameRound v') (subtask : x.subtask v.reviewSubtaskId = some t)
      (kind : t.kind = .review) (active : t.state = .inProgress) (done : t'.state = .decided)
      (sameReview : t'.kind = t.kind ∧ t'.metaTaskId = t.metaTaskId)
      (work : x.subtask v.subtaskId = some r) (distinct : v.subtaskId ≠ v.reviewSubtaskId)
      (digest : r.artifactDigest = some v.artifactDigest) (live : r.state ≠ .abandoned)
      (judged : r'.state ≠ .reviewPending)
      (sameWork : r'.kind = r.kind ∧ r'.metaTaskId = r.metaTaskId)
      (owners : OwnersKept x.claim claim)
      (failed : v'.isFailed → op.Fails v.reviewId ∧ r.state = .reviewPending ∧ r'.awaitsRepair ∧
        r'.artifactDigest = r.artifactDigest) :
      Turn now x op
        { x with
          subtask := put (put x.subtask v.reviewSubtaskId t') v.subtaskId r'
          review := put x.review v.reviewId v'
          claim := claim }

/-! ## Letting go of a claim -/

theorem releaseClaim_turn {req : ReleaseClaimReq} (h : releaseClaim req now s = (.ok v, s')) :
    s'.rounds = s.rounds ∨ Turn now s.rounds (.releaseClaim req) s'.rounds := by
  refine leasedMutation_rounds (R := fun x => x = s.rounds ∨ Turn now s.rounds (.releaseClaim req) x)
    (.inl rfl) (fun {n s₀ v s₁} hs₀ h => .inr ?_) h
  simp only [Tx.bind_ok, Tx.lift_ok, requireSessionCanClaimKind_ok, Tx.pure_ok, and_assoc,
    exists_and_left, exists_eq_left', Tx.exists_unit] at h
  obtain ⟨-, ctx, _, hload, -, s₂, hclose, n, s₃, hreserve, s₄, hdetach, s₅, hclear, _, hevent, -,
    rfl⟩ := h
  obtain ⟨rfl, hctx⟩ := loadClaimContext_ok hload
  obtain ⟨row, hrow, -, hb₂⟩ := closeClaimAndDetach_board hclose
  rw [hctx.claimKey, hctx.claim] at hrow
  cases hrow
  have hb₃ : s₃.board = s₂.board := updateIn_sameBoard (fun _ _ => rfl) _ _ hreserve
  have hb := clearSessionActiveSubtask_board hclear
  rw [detachSubtask_board hdetach, hb₃, hb₂, hctx.subtaskKey, modify_of_some hctx.subtask] at hb
  rw [(appendSessionEvent_sameBoard hevent).rounds, ← SameBoard.rounds hs₀]
  have hrounds : s₅.rounds = s₀.rounds.close ctx.claim .released (SubtaskRow.lapsed now) now := by
    show s₅.board.rounds = _
    rw [hb, Rounds.close, modify_of_some (show s₀.rounds.subtask _ = _ from hctx.subtask)]
    rfl
  rw [hrounds]
  exact .release hctx.claimKey (hctx.claimKey ▸ hctx.claim) hctx.held

theorem abandonSubtask_turn {req : AbandonSubtaskReq}
    (h : abandonSubtask req now s = (.ok v, s')) :
    s'.rounds = s.rounds ∨ Turn now s.rounds (.abandonSubtask req) s'.rounds := by
  refine leasedMutation_rounds
    (R := fun x => x = s.rounds ∨ Turn now s.rounds (.abandonSubtask req) x) (.inl rfl)
    (fun {n s₀ v s₁} hs₀ h => .inr ?_) h
  simp only [Tx.bind_ok, Tx.lift_ok, requireSessionCanClaimKind_ok, ensureTransition_ok, Tx.pure_ok,
    and_assoc, exists_and_left, exists_eq_left', Tx.exists_unit] at h
  obtain ⟨-, ctx, _, hload, -, -, -, -, -, s₂, hclose, s₃, hdetach, s₄, hclear, s₅, hrefresh, _, hevent, -,
    rfl⟩ := h
  obtain ⟨rfl, hctx⟩ := loadClaimContext_ok hload
  obtain ⟨row, hrow, -, hb₂⟩ := closeClaimAndDetach_board hclose
  rw [hctx.claimKey, hctx.claim] at hrow
  cases hrow
  have hb := clearSessionActiveSubtask_board hclear
  rw [detachSubtask_board hdetach, hb₂, hctx.subtaskKey] at hb
  rw [(appendSessionEvent_sameBoard hevent).rounds, (refreshMetaTaskState_sameBoard hrefresh).rounds,
    ← SameBoard.rounds hs₀]
  have hrounds : s₄.rounds = s₀.rounds.close ctx.claim .released (SubtaskRow.given now) now := by
    show s₄.board.rounds = _
    rw [hb]
    rfl
  rw [hrounds]
  exact .abandon hctx.claimKey (hctx.claimKey ▸ hctx.claim) hctx.held

/-! ## Cancelling a meta-task -/

theorem OwnersKept.refl (claim : ClaimId → Option ClaimRow) : OwnersKept claim claim :=
  fun _ c h => ⟨c, h, rfl⟩

theorem OwnersKept.trans {f g h : ClaimId → Option ClaimRow} (hfg : OwnersKept f g)
    (hgh : OwnersKept g h) : OwnersKept f h := by
  intro k c hc
  obtain ⟨c', hc', hown⟩ := hfg hc
  obtain ⟨c'', hc'', hown'⟩ := hgh hc'
  exact ⟨c'', hc'', hown'.trans hown⟩

/-- A change of claims that stay their owners'. -/
def ClaimsOnly (s s' : Db) : Prop :=
  OwnersKept s.board.claim s'.board.claim ∧
    s'.rounds = { s.rounds with claim := s'.board.claim }

instance : Std.Refl ClaimsOnly := ⟨fun s => ⟨.refl _, rfl⟩⟩

instance : IsTrans Db ClaimsOnly := ⟨fun _ _ _ h h' => ⟨h.1.trans h'.1, by rw [h'.2, h.2]⟩⟩

theorem closeClaimAndDetach_claimsOnly {claim : ClaimRow} {state : ClaimState}
    (h : closeClaimAndDetach claim state now s = (.ok u, s')) : ClaimsOnly s s' := by
  obtain ⟨row, hrow, -, hb⟩ := closeClaimAndDetach_board h
  have hkey : row.claimId = claim.claimId := Table.key_of_get? hrow
  refine ⟨fun k c hc => ?_, ?_⟩
  · rw [hb, ← hkey]
    exact owner_put (hkey ▸ hrow) rfl hc
  · show s'.board.rounds = _
    rw [hb]
    rfl

theorem revokeClaims_claimsOnly {claims : List ClaimRow} :
    Tx.Keeps ClaimsOnly (revokeClaims claims now) := by
  refine .forEach fun claim _ s u s' h => ?_
  simp only [Tx.bind_ok] at h
  obtain ⟨n, s₁, hupd, hclear⟩ := h
  have hb : s₁.board = _ := (updateClaim_board hupd fun _ => rfl).2
  refine ⟨fun k c hc => ?_, ?_⟩
  · rw [clearOwnerOfClaim_board hclear, hb]
    refine ⟨_, modify_eq_some.mpr ⟨c, hc, rfl⟩, ?_⟩
    split_ifs <;> rfl
  · rw [clearOwnerOfClaim_rounds hclear, clearOwnerOfClaim_board hclear]
    show s₁.board.rounds = _
    rw [hb]
    rfl

theorem cancelMetaTask_turn {req : CancelMetaTaskReq}
    (h : cancelMetaTask req now s = (.ok v, s')) :
    s'.rounds = s.rounds ∨ Turn now s.rounds (.cancelMetaTask req) s'.rounds := by
  refine mutation_rounds (R := fun x => x = s.rounds ∨ Turn now s.rounds (.cancelMetaTask req) x)
    (.inl rfl) (fun {v s₁} h => .inr ?_) h
  simp only [Tx.bind_ok, requireRole_ok, Tx.lift_ok, loadMetaTask_ok, Tx.ensure_ok, selectFrom_ok,
    Tx.pure_ok, and_assoc, exists_and_left, exists_eq_left', Tx.exists_unit] at h
  obtain ⟨_, -, -, -, -, -, _, -, -, -, n, s₂, hmeta, -, claims, s₃, hload, s₄, hrevoke, _, s₅, hqueue,
    _, s₆, hcancel, s₇, hevent, -, rfl⟩ := h
  obtain ⟨rfl, -, -⟩ := loadClaimsForMetaTask_ok hload
  have hmeta : SameBoard s s₃ := updateIn_sameBoard (fun _ _ => rfl) _ _ hmeta
  obtain ⟨howners, hrevoked⟩ := revokeClaims_claimsOnly hrevoke
  obtain ⟨g, -, hb₅⟩ := updateQueue_board hqueue
    (fun q hq => .vacate hq.2 (.inr (.inr rfl))) fun _ => rfl
  have hb₆ := updateSubtasks_board hcancel fun _ => rfl
  rw [hmeta] at howners
  have hrounds : s₆.rounds = { s.rounds with
      subtask := fun id => (s.rounds.subtask id).map fun r =>
        if r.metaTaskId = req.metaTaskId then r.cancelled now else r
      claim := s₄.board.claim } := by
    have hmap : s₆.rounds = { s₄.rounds with
        subtask := fun id => (s₄.rounds.subtask id).map fun r =>
          if r.metaTaskId = req.metaTaskId then r.cancelled now else r } := by
      show s₆.board.rounds = _
      rw [hb₆, hb₅]
      rfl
    rw [hmap, hrevoked, hmeta.rounds]
  rw [(appendSessionEvent_sameBoard hevent).rounds, hrounds]
  exact .cancel howners

/-! ## Starting a review -/

theorem startReview_board {id : SubtaskId} {k : SessionToken}
    (h : startReview id k now s = (.ok u, s')) :
    ∃ v, s.board.review v.reviewId = some v ∧ v.reviewSubtaskId = id ∧
      (v.state = .inProgress ∧ s' = s ∨ v.state = .requested ∧ s'.board = { s.board with
        review := fun i => (s.board.review i).map (ReviewRow.start id k now) }) := by
  simp only [startReview, Tx.bind_ok, selectFrom_ok, and_assoc, exists_and_left,
    exists_eq_left'] at h
  generalize hfound : List.head? _ = found at h
  cases found with
  | none => simp at h
  | some review =>
    obtain ⟨hmem, hid⟩ := Table.mem_select.mp (List.mem_of_mem_head? hfound)
    refine ⟨review, Table.mem_iff_get?.mp hmem, hid, ?_⟩
    rcases Tx.whenever_ok.mp h with ⟨hne, h⟩ | ⟨hstate, rfl⟩
    · simp only [Tx.bind_ok, Tx.lift_ok, ensureReviewTransition_ok, Tx.pure_ok, and_assoc,
        exists_and_left, exists_eq_left', Tx.exists_unit] at h
      obtain ⟨hallowed, n, _, hupd, -, rfl⟩ := h
      have hrequested : review.state = .requested := by
        cases hs : review.state <;> simp [hs, ReviewState.allows] at hallowed ⊢
      refine .inr ⟨hrequested, ?_⟩
      rw [updateReviews_map hupd fun _ => rfl, hrequested]
      rfl
    · exact .inl ⟨not_not.mp hstate, rfl⟩

/-- Starting work is calm; starting a review subtask turns its round. -/
theorem startSubtask_turns {req : StartSubtaskReq} (hs : Coherent s.board.toLeases)
    (h : startSubtask req now s = (.ok v, s')) :
    Settles now s.rounds s'.rounds ∨ Turn now s.rounds (.startSubtask req) s'.rounds := by
  refine leasedMutation_rounds (R := fun x => Settles now s.rounds x ∨ Turn now s.rounds (.startSubtask req) x)
    (.inl .refl) (fun {n s₀ v s₁} hs₀ h => ?_) h
  simp only [Tx.bind_ok, Tx.lift_ok, ensureMetaTaskIsSchedulable_ok, requireSessionCanClaimKind_ok,
    ensureSubtaskTransition_ok, Tx.ensure_ok, Tx.pure_ok, and_assoc, exists_and_left,
    exists_eq_left', Tx.exists_unit] at h
  obtain ⟨-, ctx, _, hload, -, -, hallowed, n, s₂, hupd, -, s₃, hreviews, _, hevent, -, rfl⟩ := h
  obtain ⟨rfl, hctx⟩ := loadClaimContext_ok hload
  obtain ⟨-, hb⟩ := updateSubtask_board hupd fun _ => rfl
  rw [hctx.subtaskKey] at hb
  rw [(appendSessionEvent_sameBoard hevent).rounds, ← SameBoard.rounds hs₀]
  rcases Tx.whenever_ok.mp hreviews with ⟨hkind, hstart⟩ | ⟨hkind, rfl⟩
  · refine .inr ?_
    obtain ⟨review, hreview, hid, hstarted⟩ := startReview_board hstart
    have hclaimed : ctx.subtask.state = .claimed := by
      rw [hkind] at hallowed
      cases hstate : ctx.subtask.state <;> simp [hstate, SubtaskKind.allows] at hallowed ⊢
    rw [modify_of_some hctx.subtask, if_pos rfl] at hb
    rw [hb] at hreview
    have hclaim : s₀.rounds.claim ctx.claim.claimId = some ctx.claim := hctx.claimKey ▸ hctx.claim
    rw [hctx.subtaskKey] at hid hstarted
    rcases hstarted with ⟨hstate, rfl⟩ | ⟨hstate, hb₃⟩
    · show Turn now s₀.rounds _ s₃.board.rounds
      rw [hb]
      exact .start hclaim hctx.held hctx.owner hctx.subtask hkind hclaimed hreview hid
        (.inl ⟨hstate, rfl⟩)
    · show Turn now s₀.rounds _ s₃.board.rounds
      rw [hb₃, hb]
      exact .start hclaim hctx.held hctx.owner hctx.subtask hkind hclaimed hreview hid
        (.inr ⟨hstate, rfl⟩)
  · refine .inl (Moves.settles (L := {.declared}) ?_ (hs₀ ▸ hs)
      (Steps.edit_at (w := .declared) rfl (fun r hr => ?_) hb))
    · rintro w rfl
      exact .inl rfl
    · obtain rfl : ctx.subtask = r := Option.some.inj (hctx.subtask.symm.trans hr)
      rw [if_pos rfl]
      exact .inr (.advance (by rw [advanceLabel, if_neg hkind]) hctx.loads hallowed trivial)

/-! ## Publishing and requesting -/

theorem setPublishedArtifact_board {r : SubtaskRow} {id : SubtaskId} {digest : ArtifactDigest}
    {n : ℕ} (hr : s.board.subtask id = some r)
    (h : setPublishedArtifact r digest now s = (.ok n, s')) :
    s'.board = { s.board with
      subtask := put s.board.subtask id
        { r with artifactDigest := some digest, state := .artifactPublished, updatedAt := now } } := by
  obtain rfl : r.subtaskId = id := Table.key_of_get? hr
  rw [(updateSubtask_board h fun _ => rfl).2, modify_of_some hr, if_pos rfl]

theorem publishArtifact_turn {req : PublishArtifactReq}
    (h : publishArtifact req now s = (.ok v, s')) :
    s'.rounds = s.rounds ∨ Turn now s.rounds (.publishArtifact req) s'.rounds := by
  refine leasedMutation_rounds
    (R := fun x => x = s.rounds ∨ Turn now s.rounds (.publishArtifact req) x) (.inl rfl)
    (fun {n s₀ v s₁} hs₀ h => ?_) h
  simp only [Tx.bind_ok, Tx.lift_ok, requireCurrentClaim_ok, requireActiveSession_ok, loadSubtask_ok,
    ensureMetaTaskIsSchedulable_ok, requireSessionCanClaimKind_ok, Tx.ensure_ok,
    ensureArtifactAllowedForPolicy_ok, lookup_ok, and_assoc, exists_and_left, exists_eq_left',
    Tx.exists_unit] at h
  obtain ⟨-, -, -, -, -, -, claim, hclaim, -, -, -, -, -, _, -, -, -, r, hr, -, -, -, hkind, -, h⟩ := h
  have hkey : r.subtaskId = claim.subtaskId := Table.key_of_get? hr
  have hclaim : s₀.rounds.claim req.claimId = some claim := hclaim
  have hr : s₀.rounds.subtask claim.subtaskId = some r := hr
  rw [← SameBoard.rounds hs₀]
  cases hfound : (Rel.artifacts.get s₀).get? req.artifactDigest with
  | some existing =>
    simp only [hfound, Tx.bind_ok, Tx.ensure_ok, and_assoc, exists_and_left, exists_eq_left',
      Tx.exists_unit] at h
    obtain ⟨-, -, -, -, h⟩ := h
    split_ifs at h
    · obtain ⟨-, rfl⟩ := Tx.pure_ok.mp h
      exact .inl rfl
    · simp only [Tx.bind_ok, Tx.lift_ok, ensureSubtaskTransition_ok, Tx.pure_ok, and_assoc,
        exists_and_left, exists_eq_left', Tx.exists_unit] at h
      obtain ⟨htrans, _, s₂, hset, -, rfl⟩ := h
      refine .inr ?_
      show Turn now s₀.rounds _ s₂.board.rounds
      rw [setPublishedArtifact_board hr hset]
      exact .publish hclaim hr hkind htrans id
        (.inl ⟨Option.isSome_iff_exists.mpr ⟨_, hfound⟩, rfl⟩)
  | none =>
    simp only [hfound, Tx.bind_ok, Tx.lift_ok, ensureSubtaskTransition_ok,
      ensureArtifactDigestUnused_ok, Tx.ensure_ok, Tx.pure_ok, and_assoc, exists_and_left,
      exists_eq_left', Tx.exists_unit] at h
    obtain ⟨htrans, -, s₂, hins, _, s₃, hreviews, _, s₄, hset, -, s₅, hevent, -, rfl⟩ := h
    obtain ⟨hnew, hb₂⟩ := insertArtifact_board hins
    have hb₃ := updateReviews_map hreviews fun _ => rfl
    rw [hkey] at hb₃
    have hr₃ : s₃.board.subtask claim.subtaskId = some r := by
      rw [hb₃, hb₂]
      exact hr
    refine .inr ?_
    rw [(appendSessionEvent_sameBoard hevent).rounds]
    show Turn now s₀.rounds _ s₄.board.rounds
    rw [setPublishedArtifact_board hr₃ hset, hb₃, hb₂]
    refine .publish hclaim hr hkind htrans (fun {digest} hknown => ?_) (.inr ⟨?_, rfl⟩)
    · obtain ⟨row, hrow⟩ := Option.isSome_iff_exists.mp hknown
      exact Option.isSome_iff_exists.mpr ⟨row, put_of_new hnew hrow⟩
    · intro hknown
      obtain ⟨row, hrow⟩ := Option.isSome_iff_exists.mp hknown
      cases hfound.symm.trans hrow

theorem requestReview_turn {req : RequestReviewReq} (h : requestReview req now s = (.ok v, s')) :
    s'.rounds = s.rounds ∨ Turn now s.rounds (.requestReview req) s'.rounds := by
  refine mutation_rounds (R := fun x => x = s.rounds ∨ Turn now s.rounds (.requestReview req) x)
    (.inl rfl) (fun {v s₁} h => .inr ?_) h
  simp only [Tx.bind_ok, requireActiveSession_ok, Tx.lift_ok, requireSessionCanRequestReview,
    requireSessionRole_ok, loadSubtask_ok, Tx.ensure_ok, requireReviewPolicy_ok,
    ensureMetaTaskIsSchedulable_ok, ensureArtifactExists_ok, ensureNoOpenReviewRound_ok,
    ensureSubtaskTransition_ok, subtaskExists_ok, Tx.pure_ok, and_assoc, exists_and_left,
    exists_eq_left', Tx.exists_unit] at h
  obtain ⟨_, -, -, -, -, -, -, r, hr, hloads, hkind, -, -, hdigest, hknown, -, htrans, id, s₂, hid, -, -, title, -,
    s₃, hins, reviewId, s₄, hrid, s₅, hreview, _, s₆, hupd, -, s₇, hevent, -, rfl⟩ := h
  obtain ⟨hid, -⟩ := requestedSubtaskId_board hid
  have hr : s.board.subtask req.subtaskId = some r := hr
  obtain ⟨habsent, -, hb₃⟩ := insertSubtask_board hins
  obtain ⟨hnew, hb₅⟩ := insertReview_board hreview
  have hb₄ := freshId_sameBoard hrid
  rw [hid] at habsent
  have hr₅ : s₅.board.subtask req.subtaskId = some r := by
    rw [hb₅, hb₄, hb₃, hid]
    exact put_of_new habsent hr
  have hpublished : r.state = .artifactPublished := by
    rw [hkind] at htrans
    cases hs : r.state <;> simp [hs, SubtaskKind.allows] at htrans ⊢
  have hb₆ := (updateSubtask_board hupd fun _ => rfl).2
  rw [modify_of_some hr₅, if_pos ⟨rfl, hdigest⟩] at hb₆
  rw [(appendSessionEvent_sameBoard hevent).rounds]
  show Turn now s.rounds _ s₆.board.rounds
  rw [hb₄, hb₃, hid] at hnew
  rw [hb₆, hb₅, hb₄, hb₃, hid]
  exact .request (v := ⟨reviewId, req.subtaskId, req.artifactDigest, req.sessionToken, id, none, none,
    .requested, now, now⟩) hr hkind hpublished hdigest hknown habsent rfl rfl rfl hnew rfl

/-! ## Deciding -/

/-- The reviewer's side of a decision. -/
theorem closeReview_board {session : SessionRow} {k : SessionToken} {reviewId : ReviewId}
    {claimId : ClaimId} {fence : FenceSeq} {leaseNow : ℤ} {ctx : ReviewContext}
    {verdict : ReviewVerdict} {findings : FindingsDigest}
    (hctx : ctx.Loaded s session k reviewId claimId fence leaseNow)
    (h : closeReview ctx k verdict findings now s = (.ok u, s')) :
    ctx.reviewSubtask.kind = .review ∧ ctx.reviewSubtask.state = .inProgress ∧
      OwnersKept s.board.claim s'.board.claim ∧
      s'.rounds = { s.rounds with
        subtask := put s.rounds.subtask ctx.review.reviewSubtaskId
          { ctx.reviewSubtask with state := .decided, currentClaimId := none, updatedAt := now }
        review := put s.rounds.review ctx.review.reviewId (ctx.review.decide k verdict findings now)
        claim := s'.board.claim } := by
  simp only [closeReview, Tx.bind_ok, Tx.ensure_ok, Tx.lift_ok, ensureSubtaskTransition_ok,
    and_assoc, exists_and_left, exists_eq_left', Tx.exists_unit] at h
  obtain ⟨_, s₁, hreview, -, htrans, n, s₂, hsubtask, hn, s₃, hclose, hclear⟩ := h
  have hkind := SubtaskKind.review_of_allows_decided htrans
  have hstarted : ctx.reviewSubtask.state = .inProgress := by
    rw [hkind] at htrans
    cases hs : ctx.reviewSubtask.state <;> simp [hs, SubtaskKind.allows] at htrans ⊢
  have hrkey : ctx.review.reviewId = reviewId := Table.key_of_get? hctx.review
  have hskey : ctx.reviewSubtask.subtaskId = ctx.review.reviewSubtaskId :=
    Table.key_of_get? hctx.reviewSubtask
  have hb₁ : s₁.board = { s.board with
      review := put s.board.review reviewId (ctx.review.decide k verdict findings now) } := by
    rw [hrkey] at hreview
    rw [(updateReview_board hreview fun _ => rfl).2, modify_of_some hctx.review, if_pos rfl]
    rfl
  obtain ⟨hfound, hb₂⟩ := updateSubtask_board hsubtask fun _ => rfl
  obtain ⟨t, ht, hcur⟩ := hfound (by omega)
  rw [hb₁, hskey] at ht hb₂
  obtain rfl : ctx.reviewSubtask = t := Option.some.inj (hctx.reviewSubtask.symm.trans ht)
  rw [modify_of_some ht, if_pos hcur] at hb₂
  obtain ⟨howners, hclosed⟩ := closeClaimAndDetach_claimsOnly hclose
  have hb₄ := clearSessionActiveSubtask_board hclear
  refine ⟨hkind, hstarted, ?_, ?_⟩
  · rw [hb₄]
    rw [hb₂] at howners
    exact howners
  · have hrounds : s'.rounds = s₃.rounds := by
      show s'.board.rounds = _
      rw [hb₄]
      rfl
    rw [hrounds, hclosed, hb₄, hrkey, show s₂.rounds = _ from congrArg Board.rounds hb₂]
    rfl

theorem releaseProducer_claimsOnly {r : SubtaskRow} : Tx.Keeps ClaimsOnly (releaseProducer r now) := by
  unfold releaseProducer
  split
  · exact .pure _
  · refine .bind (fun s _ s' h => ?_) fun claim =>
      .bind (fun _ _ _ => closeClaimAndDetach_claimsOnly) fun _ s u s' h => ?_
    · obtain ⟨-, rfl⟩ := loadClaim_ok.mp h
      exact ⟨.refl _, rfl⟩
    · have hb := clearSessionActiveSubtask_board h
      refine ⟨by rw [hb]; exact .refl _, ?_⟩
      show s'.board.rounds = _
      rw [hb]
      rfl

/-- Work that a verdict may still judge has not been abandoned. -/
theorem SubtaskKind.live_of_allows {kind : SubtaskKind} {state target : SubtaskState}
    (h : kind.allows state target = true) : state ≠ .abandoned := by
  rintro rfl
  cases kind <;> cases target <;> simp [SubtaskKind.allows] at h

/-- Only work under review comes to need a repair. -/
theorem SubtaskKind.pending_of_allows {kind : SubtaskKind} {state target : SubtaskState}
    (h : kind.allows state target = true) (htarget : target = .changesRequested ∨ target = .blocked) :
    kind = .work ∧ state = .reviewPending := by
  rcases htarget with rfl | rfl <;> cases kind <;> cases state <;>
    simp [SubtaskKind.allows] at h ⊢

theorem reviewedWorkState_of_failing {verdict : ReviewVerdict} {policy : CompletionPolicy}
    {kind : ArtifactKind} (h : verdict ≠ .approve) :
    reviewedWorkState verdict policy kind = .changesRequested ∨
      reviewedWorkState verdict policy kind = .blocked := by
  cases verdict with
  | approve => exact absurd rfl h
  | changesRequested => exact .inl rfl
  | blocked => exact .inr rfl

theorem reviewedWorkState_ne_pending {verdict : ReviewVerdict} {policy : CompletionPolicy}
    {kind : ArtifactKind} : reviewedWorkState verdict policy kind ≠ .reviewPending := by
  unfold reviewedWorkState
  cases verdict <;> dsimp only <;> (try split_ifs) <;> decide

/-- Both sides of a decision. -/
theorem setReviewedWork_turn {op : Operation} {session : SessionRow} {k : SessionToken}
    {reviewId : ReviewId} {claimId : ClaimId} {fence : FenceSeq} {leaseNow : ℤ}
    {ctx : ReviewContext} {verdict : ReviewVerdict} {findings : FindingsDigest} {s₂ s₃ : Db}
    {u' : Unit} {workState : SubtaskState} {detach : Prop} [Decidable detach]
    (hctx : ctx.Loaded s session k reviewId claimId fence leaseNow)
    (hclose : closeReview ctx k verdict findings now s = (.ok u, s₂))
    (hallowed : ctx.workSubtask.kind.allows ctx.workSubtask.state workState = true)
    (hreview : SubtaskKind.review.allows ctx.reviewSubtask.state workState = false)
    (hjudged : workState ≠ .reviewPending) (hrelease : ClaimsOnly s₂ s₃)
    (hfailed : verdict ≠ .approve → op.Fails reviewId ∧
      (workState = .changesRequested ∨ workState = .blocked))
    (h : setReviewedWork ctx workState detach now s₃ = (.ok u', s')) :
    Turn now s.rounds op s'.rounds := by
  obtain ⟨hkind, hstarted, howners, hclosed⟩ := closeReview_board hctx hclose
  have hne := hctx.work_ne_review hkind hallowed hreview
  have hrkey : ctx.review.reviewId = reviewId := Table.key_of_get? hctx.review
  have hsub₃ : s₃.rounds.subtask = s₂.rounds.subtask := by rw [hrelease.2]
  have hwork : s₃.board.subtask ctx.review.subtaskId = some ctx.workSubtask := by
    refine (congrFun hsub₃ _).trans ?_
    rw [hclosed]
    exact (put_of_ne hne).trans hctx.work
  have hb := setReviewedWork_board hwork hctx.digest h
  have hrounds : s'.rounds = { s₃.rounds with
      subtask := put s₃.rounds.subtask ctx.review.subtaskId
        { ctx.workSubtask with
          state := workState
          currentClaimId := if detach then none else ctx.workSubtask.currentClaimId
          updatedAt := now } } := by
    show s'.board.rounds = _
    rw [hb]
    rfl
  rw [hrounds, hrelease.2, hclosed]
  refine .decide (hrkey ▸ hctx.review) hctx.started rfl ⟨rfl, rfl, rfl, rfl⟩ hctx.reviewSubtask hkind
    hstarted rfl ⟨rfl, rfl⟩ hctx.work hne hctx.digest (SubtaskKind.live_of_allows hallowed) hjudged
    ⟨rfl, rfl⟩ (howners.trans hrelease.1) fun hv => ?_
  obtain ⟨hfails, hstate⟩ := hfailed (by rintro rfl; simp [ReviewRow.isFailed, ReviewRow.decide] at hv)
  obtain ⟨hwork, hpending⟩ := SubtaskKind.pending_of_allows hallowed hstate
  exact ⟨hrkey ▸ hfails, hpending, ⟨hwork, hstate⟩, rfl⟩

/-- The judgement turns the round, and what follows it is declared. -/
theorem judgement_turn {env : Env} {req : DecideReviewReq} {session : SessionRow} {leaseNow : ℤ}
    {ctx : ReviewContext} {decision : ReviewDecisionResult} {s₂ s₃ s₄ s₅ s₆ s₇ : Db}
    {u₁ u₂ u₃ u₄ u₅ u₆ : Unit} (ha : Anchored s.board.toLeases)
    (hsession : s.board.session req.sessionToken = some session) (hrole : session.role = .reviewer)
    (hctx : ctx.Loaded s session req.sessionToken req.reviewId req.claimId req.fenceSeq leaseNow)
    (hclose : closeReview ctx req.sessionToken req.verdict req.findingsDigest now s = (.ok u₁, s₂))
    (hpolicy : ctx.workSubtask.completionPolicy ≠ .direct)
    (hallowed : ctx.workSubtask.kind.allows ctx.workSubtask.state
      (reviewedWorkState req.verdict ctx.workSubtask.completionPolicy ctx.artifact.artifactKind) = true)
    (hrelease : Tx.whenever (reviewedWorkState req.verdict ctx.workSubtask.completionPolicy
        ctx.artifact.artifactKind = .completed) (do
      releaseProducer ctx.workSubtask now
      releaseActiveReservations ctx.workSubtask.subtaskId now) s₂ = (.ok u₂, s₃))
    (hset : setReviewedWork ctx (reviewedWorkState req.verdict ctx.workSubtask.completionPolicy
        ctx.artifact.artifactKind) (reviewedWorkState req.verdict ctx.workSubtask.completionPolicy
        ctx.artifact.artifactKind = .completed) now s₃ = (.ok u₃, s₄))
    (hdecision : recordDecision ctx req now s₄ = (.ok decision, s₅))
    (hevent : appendSessionEvent .reviewDecided .review req.reviewId.val req.sessionToken now s₅ =
      (.ok u₄, s₆))
    (hfollow : followApproval env ctx req now s₆ = (.ok u₅, s₇))
    (hrefresh : refreshMetaTaskState ctx.workSubtask.metaTaskId now s₇ = (.ok u₆, s')) :
    Turn now s.rounds (.decideReview req) s₄.rounds ∧
      Moves {.declared, .review, .verdict, .strand} now s s₄ ∧ Moves {.declared} now s₄ s' := by
  let L : Set Write := {.declared, .review, .verdict, .strand}
  obtain ⟨hclosed, hreview, hartifact, hkind, hothers⟩ :=
    closeReview_moves (L := L) (.inr (.inl rfl)) (.inr (.inr (.inl rfl))) hctx
      ⟨session, hsession, hrole⟩ hclose
  have hne : ctx.review.subtaskId ≠ ctx.review.reviewSubtaskId :=
    hctx.work_ne_review hkind hallowed review_not_allows_reviewed
  have hwork : s₂.board.subtask ctx.review.subtaskId = some ctx.workSubtask :=
    (hothers _ hne).trans hctx.work
  have hmid : Moves L now s₂ s₄ := judgeWork_moves (.inr (.inl rfl)) hctx hsession
    (fun _ _ => .inr (.inr (.inr rfl))) ha hclosed hreview hartifact hwork hpolicy hallowed
    hrelease hset
  obtain ⟨review, hreview₄, -, hkept⟩ := hmid.evolves.review hreview
  rw [hkept rfl] at hreview₄
  obtain ⟨r, hr, hsame⟩ := hmid.evolves.subtask hwork
  have hdecision : Moves {.declared} now s₄ s₅ := recordDecision_moves rfl
    (Table.key_of_get? hctx.review) hreview₄ (Table.key_of_get? hctx.work) hr hsame hdecision
  have hclaims : ClaimsOnly s₂ s₃ := by
    refine Tx.Keeps.whenever (fun _ => .bind releaseProducer_claimsOnly fun _ s _ s' h => ?_) hrelease
    have hb := releaseActiveReservations_sameBoard h
    exact ⟨by rw [hb]; exact .refl _, by rw [hb.rounds, hb]; rfl⟩
  exact ⟨setReviewedWork_turn hctx hclose hallowed review_not_allows_reviewed
      reviewedWorkState_ne_pending hclaims
      (fun hv => ⟨⟨req, rfl, rfl, hv⟩, reviewedWorkState_of_failing hv⟩) hset,
    hclosed.trans hmid,
    ((hdecision.trans (appendSessionEvent_sameBoard hevent).moves).trans
      (followApproval_moves (L := {.declared}) rfl hfollow)).trans
      (refreshMetaTaskState_sameBoard hrefresh).moves⟩

/-- A decision turns a round, and what follows it is calm. -/
theorem decideReview_turns {env : Env} {req : DecideReviewReq} (hs : Coherent s.board.toLeases)
    (h : decideReview env req now s = (.ok v, s')) :
    ∃ x, (x = s.rounds ∨ Turn now s.rounds (.decideReview req) x) ∧ x.Tied ∧
      Settles now x s'.rounds := by
  refine leasedMutation_rounds (R := fun y => ∃ x,
    (x = s.rounds ∨ Turn now s.rounds (.decideReview req) x) ∧ x.Tied ∧ Settles now x y)
    ⟨_, .inl rfl, hs.linked.tied, .refl⟩ (fun {n s₀ v s₁} hs₀ h => ?_) h
  rw [← SameBoard.rounds hs₀]
  rw [← hs₀] at hs
  simp only [Tx.bind_ok, requireRole_ok, Tx.lift_ok, requireReviewPolicy_ok,
    ensureSubtaskTransition_ok, Tx.pure_ok, and_assoc, exists_and_left, exists_eq_left',
    Tx.exists_unit] at h
  obtain ⟨session, hsession, -, -, hrole, -, -, -, ctx, _, hload, s₂, hclose, hpolicy, hallowed, s₃,
    hrelease, s₄, hset, decision, s₅, hdecision, s₆, hevent, s₇, hfollow, s₈, hrefresh, -, rfl⟩ := h
  obtain ⟨rfl, hctx, -, -⟩ := loadReviewContext_ok hload
  obtain ⟨hturn, hmoves, hrest⟩ := judgement_turn hs.anchored hsession (List.mem_singleton.mp hrole)
    hctx hclose hpolicy hallowed hrelease hset hdecision hevent hfollow hrefresh
  -- The moves up to the judgement say that the claims still agree.
  have hs₄ : Coherent s₄.board.toLeases := hmoves.coherent (by simp) hs
  refine ⟨s₄.rounds, .inr hturn, hs₄.linked.tied, Moves.settles (L := {.declared}) ?_ hs₄ hrest⟩
  rintro w rfl
  exact .inl rfl

theorem recordPermissiveLandingReceipt_turn {req : RecordPermissiveLandingReceiptReq}
    (h : recordPermissiveLandingReceipt req now s = (.ok v, s')) :
    s'.rounds = s.rounds ∨
      Turn now s.rounds (.recordPermissiveLandingReceipt req) s'.rounds := by
  refine leasedMutation_rounds (R := fun x => x = s.rounds ∨
    Turn now s.rounds (.recordPermissiveLandingReceipt req) x) (.inl rfl)
    (fun {n s₀ v s₁} hs₀ h => .inr ?_) h
  rw [← SameBoard.rounds hs₀]
  simp only [Tx.bind_ok, requireRole_ok, Tx.lift_ok, Tx.option_forM_ok, ensureSubtaskTransition_ok,
    Tx.pure_ok, and_assoc, exists_and_left, exists_eq_left', Tx.exists_unit] at h
  obtain ⟨session, -, -, -, -, -, -, -, -, -, -, -, ctx, _, hload, s₃, hclose, hallowed, s₄,
    hset, s₅, hins, s₆, hevent, s₇, hrefresh, -, rfl⟩ := h
  obtain ⟨rfl, hctx, -, -⟩ := loadReviewContext_ok hload
  have hins : s₅.rounds = s₄.rounds := by
    show s₅.board.rounds = _
    rw [(insertPermissive_board hins).2]
    rfl
  rw [(refreshMetaTaskState_sameBoard hrefresh).rounds, (appendSessionEvent_sameBoard hevent).rounds,
    hins]
  exact setReviewedWork_turn hctx hclose hallowed (by cases ctx.reviewSubtask.state <;> rfl)
    (by decide) ⟨.refl _, rfl⟩ (fun hv => absurd rfl hv) hset

/-! ## Calls -/

theorem Operation.misname_notMem_writes (op : Operation) : .misname ∉ op.writes := by
  cases op <;> simp [Operation.writes]

/-- An operation makes one turn at most, and settles. -/
theorem Operation.turns {env : Env} {op : Operation} (hmis : ¬op.Misnames)
    (hs : Coherent s.board.toLeases)
    (hfresh : ∀ id, makeId .claimId "claim" (s.uuids 0) = .ok id → s.board.claim id = none)
    (h : op.run env now s = (.ok v, s')) :
    ∃ x, (x = s.rounds ∨ Turn now s.rounds op x) ∧ x.Tied ∧ Settles now x s'.rounds := by
  have hs' : Coherent s'.board.toLeases :=
    (Operation.run_moves (L := {w | w ≠ .misname})
      (fun w hw hmis => op.misname_notMem_writes (hmis ▸ hw)) (fun h => absurd h hmis)
      (fun _ => by simp) (fun _ => by simp) hfresh hs.anchored h).coherent (by simp) hs
  have hsettles : Settles now s.rounds s'.rounds →
      ∃ x, (x = s.rounds ∨ Turn now s.rounds op x) ∧ x.Tied ∧ Settles now x s'.rounds :=
    fun h => ⟨_, .inl rfl, hs.linked.tied, h⟩
  have hturn : s'.rounds = s.rounds ∨ Turn now s.rounds op s'.rounds →
      ∃ x, (x = s.rounds ∨ Turn now s.rounds op x) ∧ x.Tied ∧ Settles now x s'.rounds :=
    fun h => ⟨_, h, hs'.linked.tied, .refl⟩
  have hcalm : op.writes ⊆ {w | w.IsCalm} → op.blocks = none →
      ∃ x, (x = s.rounds ∨ Turn now s.rounds op x) ∧ x.Tied ∧ Settles now x s'.rounds := by
    intro hL hblocks
    refine hsettles (Moves.settles (L := {w | w.IsCalm}) (fun _ hw => hw) hs
      (Operation.run_moves hL (fun h => absurd h hmis) ?_ (fun _ => .inr (.inr (.inr (.inr rfl))))
        hfresh hs.anchored h))
    rintro ⟨id, hid, -⟩
    rw [hblocks] at hid
    cases hid
  cases op with
  | exitSession req => exact hsettles (exitSession_settles h)
  | reapStaleSessions staleThreshold => exact hsettles (reapStaleSessions_settles h)
  | expireOldClaims => exact hsettles (expireOldClaims_settles h)
  | claimSubtask req => exact hsettles (claimSubtask_settles hs h)
  | claimNextSubtask req => exact hsettles (claimNextSubtask_settles hs h)
  | claimNextRoutedSubtask req => exact hsettles (claimNextRoutedSubtask_settles hs h)
  | cancelMetaTask req => exact hturn (cancelMetaTask_turn h)
  | abandonSubtask req => exact hturn (abandonSubtask_turn h)
  | releaseClaim req => exact hturn (releaseClaim_turn h)
  | publishArtifact req => exact hturn (publishArtifact_turn h)
  | requestReview req => exact hturn (requestReview_turn h)
  | recordPermissiveLandingReceipt req => exact hturn (recordPermissiveLandingReceipt_turn h)
  | decideReview req => exact decideReview_turns hs h
  | startSubtask req =>
    rcases startSubtask_turns hs h with h | h
    · exact hsettles h
    · exact hturn (.inr h)
  | _ =>
    refine hcalm ?_ rfl
    simp [Operation.writes, Write.IsCalm, Set.subset_def]

variable {env : Env} {c : Call}

/-- A call makes one turn at most, and settles. -/
theorem next_turns (hc : c.Proper s) (hs : Coherent s.board.toLeases) :
    ∃ x, (x = s.rounds ∨ c.Commits env s ∧ Turn c.now s.rounds c.op x) ∧ x.Tied ∧
      Settles c.now x (next env s c).rounds := by
  by_cases hcommits : c.Commits env s
  · obtain ⟨v, _, rfl, hrun⟩ := hcommits.1.run
    obtain ⟨x, hx, hsettles⟩ := Operation.turns (s := { s with uuids := c.uuids }) hc.2 hs
      (fun id hid => hc.1 id (by rw [hid]; rfl)) hrun
    exact ⟨x, hx.imp_right fun h => ⟨hcommits, h⟩, hsettles⟩
  · exact ⟨s.rounds, .inl rfl, hs.linked.tied,
      .of_eq (SameBoard.rounds (next_of_idle hcommits).board)⟩

end Covey

import Covey.Fences

/-!
# The helpers as moves

What the transaction helpers shared by the operations do to the board: closing a
claim, letting go of a subtask, issuing a fence, creating a subtask, expiring a
claim, and the updates that only touch the ledger.

The lemmas ending in `_board` give the board after the helper; those ending in
`_moves` say by which moves it is reached.
-/

namespace Covey

open Relational

variable {L : Set Write} {now : ℤ} {w : Write} {s s' : Db} {u : Unit} {n : ℕ}

/-! ## Steps from an update -/

theorem Steps.lease_eq {b b' : Board} {leases : Leases} (hw : w ∈ L) (h : LeaseMove now b w leases)
    (heq : b' = ⟨leases, b.toLedger⟩) : Steps L now b b' := by
  subst heq
  exact Steps.lease hw h

/-- An update of one subtask that is an edit of the row it finds. -/
theorem Steps.edit_at {b b' : Board} {k : SubtaskId} {f : SubtaskRow → SubtaskRow} (hw : w ∈ L)
    (hedit : ∀ r, b.subtask k = some r → f r = r ∨ Edit b now w r (f r))
    (heq : b' = { b with subtask := modify b.subtask k f }) : Steps L now b b' :=
  Steps.lease_eq hw (.edit (rel_modify (fun _ => .inl rfl) hedit)) heq

/-- Closing the held claim `c`, with what becomes of its subtask and of its owner. -/
theorem Steps.close {b b' : Board} {c : ClaimRow} (state : ClaimState)
    (g : SubtaskRow → SubtaskRow) (clears : SessionRow → Prop) [DecidablePred clears] (hw : w ∈ L)
    (current : b.claim c.claimId = some c) (held : c.state = .held) (closed : state ≠ .held)
    (detach : ∀ r, b.subtask c.subtaskId = some r → r.currentClaimId = some c.claimId →
      Detach now w r (g r))
    (cleared : ∀ r, r.activeSubtaskId = some c.subtaskId → clears r)
    (heq : b' = { b with
      session := modify b.session c.ownerSessionToken fun r =>
        if clears r then { r with activeSubtaskId := none, updatedAt := now } else r
      subtask := modify b.subtask c.subtaskId fun r =>
        if r.currentClaimId = some c.claimId then g r else r
      claim := put b.claim c.claimId { c with state := state, updatedAt := now } }) :
    Steps L now b b' :=
  Steps.lease_eq hw (.close current held closed detach cleared) heq

section Ledger

theorem updateReviews_board {p : ReviewRow → Prop} [DecidablePred p] {f : ReviewRow → ReviewRow}
    (h : updateIn Rel.reviews p f s = (.ok n, s')) (hf : ∀ r, p r → r.Evolves (f r))
    (hkey : ∀ r, (f r).reviewId = r.reviewId) :
    ∃ g, (∀ k, Option.Rel ReviewRow.Evolves (s.board.review k) (g k)) ∧
      s'.board = { s.board with review := g } := by
  refine ⟨_, fun k => rel_map fun r _ => ?_, updateIn_map_board
    (B := fun g => { s.board with review := g }) (fun _ => rfl) h fun r _ => hkey r⟩
  split_ifs with hp
  · exact hf r hp
  · exact .inl rfl

theorem updateReviews_moves (hL : .review ∈ L) {p : ReviewRow → Prop} [DecidablePred p] {f : ReviewRow → ReviewRow}
    (h : updateIn Rel.reviews p f s = (.ok n, s')) (hf : ∀ r, p r → r.Evolves (f r))
    (hkey : ∀ r, (f r).reviewId = r.reviewId) : Moves L now s s' := by
  obtain ⟨g, hg, hb⟩ := updateReviews_board h hf hkey
  rw [Moves, hb]
  exact Steps.ledger hL (.reviews hg)

theorem updateQueue_board {p : ReadyQueueRow → Prop} [DecidablePred p]
    {f : ReadyQueueRow → ReadyQueueRow} (h : updateIn Rel.readyQueue p f s = (.ok n, s'))
    (hf : ∀ q, p q → q.Evolves (f q)) (hkey : ∀ q, (f q).queueId = q.queueId) :
    ∃ g, (∀ k, Option.Rel ReadyQueueRow.Evolves (s.board.queue k) (g k)) ∧
      s'.board = { s.board with queue := g } := by
  refine ⟨_, fun k => rel_map fun q _ => ?_, updateIn_map_board
    (B := fun g => { s.board with queue := g }) (fun _ => rfl) h fun q _ => hkey q⟩
  split_ifs with hp
  · exact hf q hp
  · exact .same

theorem updateQueue_moves (hL : .declared ∈ L) {p : ReadyQueueRow → Prop} [DecidablePred p]
    {f : ReadyQueueRow → ReadyQueueRow} (h : updateIn Rel.readyQueue p f s = (.ok n, s'))
    (hf : ∀ q, p q → q.Evolves (f q)) (hkey : ∀ q, (f q).queueId = q.queueId) :
    Moves L now s s' := by
  obtain ⟨g, hg, hb⟩ := updateQueue_board h hf hkey
  rw [Moves, hb]
  exact Steps.ledger hL (.queue hg)

theorem updateSessions_moves (hL : .declared ∈ L) {p : SessionRow → Prop} [DecidablePred p]
    {f : SessionRow → SessionRow} (h : updateIn Rel.sessions p f s = (.ok n, s'))
    (hf : ∀ r, p r → r.Touched (f r)) : Moves L now s s' := by
  have hb := updateIn_map_board (B := fun g => { s.board with session := g }) (fun _ => rfl) h
    fun r hp => (hf r hp).token
  rw [Moves, hb]
  refine Steps.lease hL (.touch fun k => rel_map fun r _ => ?_)
  split_ifs with hp
  · exact hf r hp
  · exact ⟨rfl, rfl, rfl, rfl, rfl, id⟩

end Ledger

/-! ## Mutations -/

section Mutation

variable {actorKey operation : String} {key : IdempotencyKey} {request : Request} {v : Response}

/-- The request has been recorded under its key with the response. -/
def Recorded (s : Db) (actorKey operation : String) (key : IdempotencyKey) (request : Request)
    (v : Response) : Prop :=
  ∃ row, s.idempotency.get? (actorKey, operation, key.val) = some row ∧ row.request = request ∧
    row.response = v

/-- A successful mutation is a replay, which changes nothing, or a run of its body. -/
theorem mutation_run {body : Txn Response}
    (h : mutation actorKey operation key request now body s = (.ok v, s')) :
    Recorded s actorKey operation key request v ∧ s' = s ∨
      ∃ s₁, body s = (.ok v, s₁) ∧ s'.board = s₁.board := by
  obtain ⟨-, h⟩ := mutation_ok.mp h
  obtain ⟨-, ⟨row, hrow, hreq, hresp, rfl⟩ | ⟨-, s₁, hrun, t, -, rfl⟩⟩ :=
    withIdempotentMutation_ok.mp h
  · exact .inl ⟨⟨row, hrow, hreq, hresp⟩, rfl⟩
  · exact .inr ⟨s₁, hrun, rfl⟩

theorem leasedMutation_run {body : ℤ → Txn Response}
    (h : leasedMutation actorKey operation key request now body s = (.ok v, s')) :
    ∃ leaseNow, leaseNow = max s.leaseClock (max now 0) ∧
      (Recorded s actorKey operation key request v ∧ s'.board = s.board ∨
        ∃ s₀ s₁, s₀ = { s with leaseClock := leaseNow } ∧ body leaseNow s₀ = (.ok v, s₁) ∧
          s'.board = s₁.board) := by
  obtain ⟨leaseNow, hlease, h⟩ := leasedMutation_ok.mp h
  refine ⟨leaseNow, hlease, ?_⟩
  rcases mutation_run h with ⟨hrecorded, rfl⟩ | ⟨s₁, hrun, hb⟩
  · exact .inl ⟨hrecorded, rfl⟩
  · exact .inr ⟨_, s₁, rfl, hrun, hb⟩

/-- A mutation moves the board as its body does; a replay leaves it alone. -/
theorem mutation_moves {body : Txn Response}
    (hbody : ∀ {v s₁}, body s = (.ok v, s₁) → Moves L now s s₁)
    (h : mutation actorKey operation key request now body s = (.ok v, s')) : Moves L now s s' := by
  rcases mutation_run h with ⟨-, rfl⟩ | ⟨s₁, hrun, hb⟩
  · exact .refl _
  · rw [Moves, hb]
    exact hbody hrun

theorem leasedMutation_moves {body : ℤ → Txn Response}
    (hbody : ∀ {n s₀ v s₁}, s₀.board = s.board → body n s₀ = (.ok v, s₁) → Moves L now s₀ s₁)
    (h : leasedMutation actorKey operation key request now body s = (.ok v, s')) :
    Moves L now s s' := by
  obtain ⟨leaseNow, -, h⟩ := leasedMutation_ok.mp h
  exact mutation_moves (s := { s with leaseClock := leaseNow })
    (fun hrun => hbody rfl hrun) h

end Mutation

/-! ## Claims and sessions -/

theorem closeClaimAndDetach_board {claim : ClaimRow} {state : ClaimState}
    (h : closeClaimAndDetach claim state now s = (.ok u, s')) :
    ∃ row, s.board.claim claim.claimId = some row ∧ row.state = .held ∧
      s'.board = { s.board with
        claim := put s.board.claim claim.claimId { row with state := state, updatedAt := now } } := by
  simp only [closeClaimAndDetach, Tx.bind_ok, Tx.ensure_ok] at h
  obtain ⟨n, _, hu, hn, rfl⟩ := h
  obtain ⟨hfound, hb⟩ := updateClaim_board hu fun _ => rfl
  obtain ⟨row, hrow, hheld⟩ := hfound (by omega)
  exact ⟨row, hrow, hheld, by rw [hb, modify_of_some hrow, if_pos hheld]⟩

theorem clearSessionActiveSubtask_board {k : SessionToken}
    (h : clearSessionActiveSubtask k now s = (.ok u, s')) :
    s'.board = { s.board with
      session := modify s.board.session k fun r =>
        { r with activeSubtaskId := none, updatedAt := now } } := by
  simp only [clearSessionActiveSubtask, Tx.bind_ok, Tx.pure_ok] at h
  obtain ⟨n, _, hu, -, rfl⟩ := h
  exact updateIn_key_board (B := fun g => { s.board with session := g }) (fun _ => rfl) hu
    fun _ => rfl

theorem clearOwnerOfClaim_board {claim : ClaimRow}
    (h : clearOwnerOfClaim claim now s = (.ok u, s')) :
    s'.board = { s.board with
      session := modify s.board.session claim.ownerSessionToken fun r =>
        if r.activeSubtaskId = some claim.subtaskId then
          { r with activeSubtaskId := none, updatedAt := now }
        else r } := by
  simp only [clearOwnerOfClaim, Tx.bind_ok, Tx.pure_ok] at h
  obtain ⟨n, _, hu, -, rfl⟩ := h
  exact (updateSession_board hu fun _ => rfl).2

/-! ## Fences and new subtasks -/

theorem issueFenceSeq_board {id : SubtaskId} (h : issueFenceSeq id s = (.ok n, s')) :
    n = (s.board.fence id).getD 1 ∧
      s'.board = { s.board with fence := put s.board.fence id (n + 1) } := by
  simp only [issueFenceSeq, Tx.bind_ok, lookup_ok] at h
  obtain ⟨found, _, ⟨hfound, rfl⟩, h⟩ := h
  have hB : ∀ t, (Rel.fenceCounters.set s t).board =
      { s.board with fence := fun k => (t.get? k).map (·.nextFenceSeq) } := fun _ => rfl
  have hfence : s.board.fence id = found.map (·.nextFenceSeq) :=
    congrArg (Option.map _) hfound
  cases found with
  | none =>
    simp only [Tx.bind_ok, Tx.pure_ok] at h
    obtain ⟨_, _, hins, rfl, rfl⟩ := h
    have hb := (insertInto_board (B := fun g =>
      { s.board with fence := fun k => (g k).map (·.nextFenceSeq) }) hB hins).2
    refine ⟨by rw [hfence]; rfl, ?_⟩
    rw [hb, map_put]
    rfl
  | some counter =>
    simp only [Tx.bind_ok, Tx.pure_ok] at h
    obtain ⟨_, _, hupd, rfl, rfl⟩ := h
    have hb := updateIn_key_board (B := fun g =>
      { s.board with fence := fun k => (g k).map (·.nextFenceSeq) }) hB hupd fun _ => rfl
    refine ⟨by rw [hfence]; rfl, ?_⟩
    rw [hb, modify_of_some hfound, map_put]
    rfl

theorem insertSubtask_board {row : SubtaskRow} (h : insertSubtask row s = (.ok u, s')) :
    s.board.subtask row.subtaskId = none ∧ s.board.fence row.subtaskId = none ∧
      s'.board = { s.board with
        subtask := put s.board.subtask row.subtaskId row
        fence := put s.board.fence row.subtaskId 1 } := by
  simp only [insertSubtask, Tx.bind_ok] at h
  obtain ⟨_, s₁, hrow, hfence⟩ := h
  obtain ⟨habsent, hb₁⟩ := insertSubtaskRow_board hrow
  obtain ⟨hnone, hb₂⟩ := insertInto_board (B := fun g =>
    { s₁.board with fence := fun k => (g k).map (·.nextFenceSeq) }) (fun _ => rfl) hfence
  have hunissued : s₁.board.fence row.subtaskId = none := congrArg (Option.map _) hnone
  rw [map_put] at hb₂
  refine ⟨habsent, ?_, ?_⟩
  · rw [hb₁] at hunissued
    exact hunissued
  · rw [hb₂]
    show { s₁.board with fence := put s₁.board.fence row.subtaskId 1 } = _
    rw [hb₁]

/-- A new work or review subtask; only a reserved id takes the label `misname`. -/
theorem insertSubtask_moves {row : SubtaskRow} (fresh : row.Fresh now) (kind : row.kind ≠ .cleanup)
    (hw : row.kind.createLabel ∈ L) (named : ReservedId row.subtaskId → .misname ∈ L) :
    Tx.Keeps (Moves L now) (insertSubtask row) := by
  intro s u s' h
  obtain ⟨absent, unissued, hb⟩ := insertSubtask_board h
  by_cases hres : ReservedId row.subtaskId
  · exact Steps.lease_eq (named hres) (.create fresh kind (.inr rfl) absent unissued) hb
  · exact Steps.lease_eq hw (.create fresh kind (.inl ⟨rfl, hres⟩) absent unissued) hb

/-! ## Expiry -/

theorem resetInProgressReview_board {id : SubtaskId}
    (h : resetInProgressReviewForExpiredClaim id now s = (.ok u, s')) :
    ∃ g, (∀ k, Option.Rel ReviewRow.Evolves (s.board.review k) (g k)) ∧
      s'.board = { s.board with review := g } := by
  simp only [resetInProgressReviewForExpiredClaim, Tx.bind_ok, Tx.pure_ok] at h
  obtain ⟨n, _, hu, -, rfl⟩ := h
  refine updateReviews_board hu (fun r hr => .inr ⟨?_, by simp, ⟨rfl, rfl, rfl, rfl⟩⟩) fun _ => rfl
  rw [hr.2]
  decide

theorem expireClaim_board {claim : ClaimRow} (h : expireClaim claim now s = (.ok u, s')) :
    ∃ row g, s.board.claim claim.claimId = some row ∧ row.state = .held ∧
      (∀ k, Option.Rel ReviewRow.Evolves (s.board.review k) (g k)) ∧
      s'.board = { s.board with
        subtask := modify s.board.subtask claim.subtaskId fun r =>
          if r.currentClaimId = some claim.claimId then r.lapsed now else r
        claim := put s.board.claim claim.claimId { row with state := .expired, updatedAt := now }
        review := g } := by
  simp only [expireClaim, Tx.bind_ok, Tx.pure_ok] at h
  obtain ⟨_, s₁, hclose, _, s₂, hreset, n, s₃, hdetach, -, rfl⟩ := h
  obtain ⟨row, hrow, hheld, hb₁⟩ := closeClaimAndDetach_board hclose
  obtain ⟨g, hg, hb₂⟩ := resetInProgressReview_board hreset
  have hb₃ := (updateSubtask_board hdetach fun _ => rfl).2
  refine ⟨row, g, hrow, hheld, ?_, ?_⟩
  · rw [hb₁] at hg
    exact hg
  · rw [hb₃, hb₂, hb₁]
    rfl

/-- The row of a claim that was read earlier: still on its subtask and of its owner. -/
def Traced (b : Board) (claim : ClaimRow) : Prop :=
  ∀ row, b.claim claim.claimId = some row →
    row.subtaskId = claim.subtaskId ∧ row.ownerSessionToken = claim.ownerSessionToken

/-- Expiring a claim and letting its owner go of the subtask. -/
theorem expireClaim_moves {claim : ClaimRow} {s₁ : Db} {u' : Unit} (hreview : .review ∈ L)
    (hlapse : .lapse ∈ L) (htraced : Traced s.board claim)
    (h : expireClaim claim now s = (.ok u, s₁))
    (hclear : clearOwnerOfClaim claim now s₁ = (.ok u', s')) : Moves L now s s' := by
  obtain ⟨row, g, hrow, hheld, hg, hb₁⟩ := expireClaim_board h
  have hb₂ := clearOwnerOfClaim_board hclear
  obtain ⟨hsub, hown⟩ := htraced row hrow
  have hkey : row.claimId = claim.claimId := Table.key_of_get? hrow
  refine (Steps.ledger hreview (.reviews hg)).trans (Steps.close (c := row) .expired
    (SubtaskRow.lapsed now) (fun r => r.activeSubtaskId = some claim.subtaskId) hlapse ?_ hheld
    (by decide) (fun r _ _ => .lapse) ?_ ?_)
  · rw [hkey]
    exact hrow
  · intro r hr
    rw [← hsub]
    exact hr
  · rw [hb₂, hb₁, hkey, hsub, hown]

end Covey

import Covey.Refine.Review

/-!
# Operations on claims refine the moves

* `openClaim_moves`: the second half of a claim is one move.
* `claimSubtask_moves`, `claimNextSubtask_moves`, `claimNextRoutedSubtask_moves`.
* `startSubtask_moves`, `renewClaim_moves`.
* `abandonSubtask_moves`, `releaseClaim_moves`, `finishSubtask_moves`,
  `recordFailedAttempt_moves`: the operations that close a claim.

A claim that loses a race inside `claim_next_for_route` is swallowed, so what it
wrote before stays. `openClaim_raises` shows that it had written nothing but an
expiry: once the claim is being opened, no error of a lost race can occur.
-/

namespace Covey

open Relational

variable {L : Set Write} {now leaseNow : ℤ} {s s' : Db} {u : Unit} {v : Response}

/-! ## Expiring a claim that is in the way -/

theorem expireClaimIfNeeded_moves {id : SubtaskId} (hreview : .review ∈ L) (hlapse : .lapse ∈ L)
    (h : expireClaimIfNeededForSubtask id leaseNow now s = (.ok u, s')) : Moves L now s s' := by
  simp only [expireClaimIfNeededForSubtask, Tx.bind_ok, Tx.get_ok, and_assoc, exists_and_left,
    exists_eq_left'] at h
  generalize hfound : List.head? _ = found at h
  cases found with
  | none =>
    obtain ⟨-, rfl⟩ := Tx.pure_ok.mp h
    exact .refl s
  | some row =>
    simp only [Tx.bind_ok, Tx.lift_ok, and_assoc, exists_and_left, exists_eq_left',
      Tx.exists_unit] at h
    obtain ⟨claim, hload, s₁, hexp, hclear⟩ := h
    obtain rfl := ClaimRow.load_val hload
    refine expireClaim_moves hreview hlapse (fun row' hrow' => ?_) hexp hclear
    have hmem := (Table.mem_select.mp (List.mem_of_mem_head? hfound)).1
    obtain rfl : claim = row' := Option.some.inj ((Table.mem_iff_get?.mp hmem).symm.trans hrow')
    exact ⟨rfl, rfl⟩

/-! ## Lost races -/

/-- Not one of the errors that `claim_next_for_route` swallows. -/
def CoveyError.Surfaces (e : CoveyError) : Prop := e.isLostRace = false

theorem constraintViolation_surfaces : constraintViolation.Surfaces := rfl

theorem invalidRow_surfaces {α : Type} {reason : String} {e : CoveyError}
    (h : (invalidRow reason : Except CoveyError α) = .error e) : e.Surfaces := by
  cases h
  rfl

theorem typed_surfaces {α : Type} {x : Except TypeValidationError α} {e : CoveyError}
    (h : typed x = .error e) : e.Surfaces := by
  cases x with
  | ok a => cases h
  | error e' =>
    cases h
    rfl

theorem ClaimRow.load_surfaces {r : ClaimRow} {e : CoveyError} (h : r.load = .error e) :
    e.Surfaces := by
  unfold ClaimRow.load at h
  split_ifs at h
  exact invalidRow_surfaces h

theorem SessionRow.load_surfaces {r : SessionRow} {e : CoveyError} (h : r.load = .error e) :
    e.Surfaces := by
  unfold SessionRow.load at h
  split_ifs at h <;> exact invalidRow_surfaces h

section Surfaces

variable {κ ρ : Type} [DecidableEq κ] {S : Schema κ ρ} {T : Tx.Field Db S}

theorem insertInto_raises {r : ρ} : Tx.Raises CoveyError.Surfaces (insertInto T r) :=
  .insert constraintViolation_surfaces T r

theorem updateIn_raises {p : ρ → Prop} [DecidablePred p] {f : ρ → ρ} :
    Tx.Raises CoveyError.Surfaces (updateIn T p f) :=
  .update constraintViolation_surfaces T p f

theorem lookup_raises {k : κ} : Tx.Raises CoveyError.Surfaces (lookup T k) :=
  .bind .get fun _ => .pure _

end Surfaces

theorem closeClaimAndDetach_raises {claim : ClaimRow} {state : ClaimState} :
    Tx.Raises CoveyError.Surfaces (closeClaimAndDetach claim state now) :=
  .bind updateIn_raises fun _ => .ensure rfl

theorem expireClaimIfNeeded_raises {id : SubtaskId} :
    Tx.Raises CoveyError.Surfaces (expireClaimIfNeededForSubtask id leaseNow now) := by
  refine .bind .get fun s => ?_
  dsimp only
  split
  · exact .pure _
  · exact .bind (.lift fun _ => ClaimRow.load_surfaces) fun _ =>
      .bind (.bind closeClaimAndDetach_raises fun _ =>
        .bind (.bind updateIn_raises fun _ => .pure _) fun _ => .bind updateIn_raises fun _ => .pure _)
      fun _ => .bind updateIn_raises fun _ => .pure _

theorem issueFenceSeq_raises {id : SubtaskId} : Tx.Raises CoveyError.Surfaces (issueFenceSeq id) := by
  refine .bind lookup_raises fun found => ?_
  cases found with
  | none => exact .bind insertInto_raises fun _ => .pure _
  | some counter => exact .bind updateIn_raises fun _ => .pure _

theorem freshId_raises {f : ScalarField} {stem : String} :
    Tx.Raises CoveyError.Surfaces (freshId f stem) :=
  .bind .get fun _ => .bind (.modify _) fun _ => .lift fun _ => typed_surfaces

theorem appendSessionEvent_raises {eventType : EventType} {objectType : ObjectType}
    {objectId : String} {actor : SessionToken} :
    Tx.Raises CoveyError.Surfaces (appendSessionEvent eventType objectType objectId actor now) := by
  refine .bind (.lift fun _ => typed_surfaces) fun _ => ?_
  split
  · exact .fail rfl
  · exact .modify _

theorem loadSession_raises {k : SessionToken} : Tx.Raises CoveyError.Surfaces (loadSession k) := by
  refine .bind lookup_raises fun found => ?_
  cases found with
  | none => exact .fail rfl
  | some r => exact .lift fun _ => SessionRow.load_surfaces

/-! ## Claiming -/

/-- The subtask that is about to be claimed. -/
structure Claimable (s : Db) (session : SessionRow) (id : SubtaskId) (r : SubtaskRow) : Prop where
  subtask : s.board.subtask id = some r
  allowed : r.kind.allows r.state .claimed = true
  role : session.role = r.kind.claimRole
  free : ∀ k row, s.board.claim k = some row → row.subtaskId = id → row.state ≠ .held
  loads : r.Loads

theorem requireClaimable_ok {session : SessionRow} {id : SubtaskId} {r : SubtaskRow}
    (h : requireClaimable session id leaseNow now s = (.ok r, s')) :
    expireClaimIfNeededForSubtask id leaseNow now s = (.ok (), s') ∧ Claimable s' session id r := by
  simp only [requireClaimable, Tx.bind_ok, loadSubtask_ok, ensureMetaTaskIsSchedulable_ok, Tx.lift_ok,
    requireSessionCanClaimKind_ok, Tx.get_ok, Tx.ensure_ok, heldClaimOwner_ok,
    ensureSubtaskTransition_ok, Tx.pure_ok, and_assoc, exists_and_left, exists_eq_left',
    Tx.exists_unit] at h
  obtain ⟨s₁, hexp, subtask, hsubtask, hloads, -, hrole, -, h⟩ := h
  generalize hfound : List.head? _ = found at h
  cases found with
  | some claim => simp at h
  | none =>
    simp only [Option.map_none, Tx.pure_ok, Tx.bind_ok, Tx.lift_ok, ensureSubtaskTransition_ok, and_assoc, exists_and_left, exists_eq_left',
      Tx.exists_unit, true_and] at h
    obtain ⟨hallowed, rfl, rfl⟩ := h
    refine ⟨hexp, hsubtask, hallowed, hrole, ?_, hloads⟩
    intro k row hrow hid hheld
    have hmem : row ∈ s₁.claims.select fun c => c.subtaskId = id ∧ c.state = .held :=
      Table.mem_select.mpr ⟨Table.mem_of_get? hrow, hid, hheld⟩
    rw [List.head?_eq_none_iff.mp hfound] at hmem
    cases hmem

/-- A claim that is refused has done nothing but expire the claim in its way, or its error
    is not that of a lost race. -/
theorem requireClaimable_error {session : SessionRow} {id : SubtaskId} {e : CoveyError}
    (h : requireClaimable session id leaseNow now s = (.error e, s')) :
    e.Surfaces ∨ expireClaimIfNeededForSubtask id leaseNow now s = (.ok (), s') := by
  rcases Tx.bind_error.mp h with h | ⟨_, s₁, hexp, h⟩
  · exact .inl (expireClaimIfNeeded_raises h)
  · refine .inr ?_
    suffices hs : s' = s₁ by
      rw [hs]
      exact hexp
    refine Tx.ReadOnly.state ?_ h
    refine .bind load_readOnly fun _ => .bind (.bind load_readOnly fun _ => .ensure _ _) fun _ =>
      .bind (.lift _) fun _ => .bind .get fun _ => .bind (.ensure _ _) fun _ =>
      .bind (.bind selectFrom_readOnly fun _ => .pure _) fun found => ?_
    cases found with
    | none => exact .bind (.lift _) fun _ => .pure _
    | some heldBy => exact .bind (.fail _) fun _ => .bind (.lift _) fun _ => .pure _

/-- Only an available subtask can be claimed, and it has no claim. -/
theorem Claimable.detached {session : SessionRow} {id : SubtaskId} {r : SubtaskRow}
    (hr : Claimable s session id r) : r.currentClaimId = none := by
  have hallowed := hr.allowed
  have hlife := (SubtaskRow.loads_iff.mp hr.loads).1
  have hstate : r.state = .available := by
    cases hk : r.kind <;> cases hs : r.state <;> simp [hk, hs, SubtaskKind.allows] at hallowed ⊢
  cases hc : r.currentClaimId with
  | none => rfl
  | some c => simp [SubtaskRow.lifecycle, hstate, hc, invalidRow] at hlife

/-- Opening a claim is one move. -/
theorem openClaim_moves {session : SessionRow} {k : SessionToken} {id : SubtaskId} {r : SubtaskRow}
    {duration : LeaseDurationMs} {result : ClaimResult} (hL : .declared ∈ L)
    (hr : Claimable s session id r)
    (hsession : ∃ row, s.board.session k = some row ∧ row.role = session.role)
    (h : openClaim k r duration leaseNow now s = (.ok result, s')) : Moves L now s s' := by
  obtain rfl : r.subtaskId = id := Table.key_of_get? hr.subtask
  simp only [openClaim, Tx.bind_ok, Tx.lift_ok, and_assoc, exists_and_left, exists_eq_left',
    Tx.exists_unit] at h
  obtain ⟨fence, s₁, hfence, claimId, s₂, hid, deadline, -, s₃, hins, n, s₄, hsub, h⟩ := h
  split_ifs at h with hn
  · simp at h
  simp only [Tx.bind_ok] at h
  obtain ⟨n', s₅, hses, h⟩ := h
  split_ifs at h with hn'
  · simp at h
  simp only [Tx.bind_ok, Tx.pure_ok, Tx.exists_unit] at h
  obtain ⟨s₆, hevent, -, rfl⟩ := h
  obtain ⟨hseq, hb₁⟩ := issueFenceSeq_board hfence
  have hb₂ : s₂.board = s₁.board := freshId_sameBoard hid
  obtain ⟨hnew, hb₃⟩ := insertClaim_board hins
  obtain ⟨-, hb₄⟩ := updateSubtask_board hsub fun _ => rfl
  obtain ⟨hfound, hb₅⟩ := updateSession_board hses fun _ => rfl
  obtain ⟨σ, hσ, hidle, hactive⟩ := hfound (by omega)
  rw [hb₂, hb₁] at hnew hb₃
  rw [hb₃] at hb₄
  rw [hb₄] at hσ hb₅
  rw [modify_of_some hr.subtask, if_pos ⟨rfl, hr.detached⟩, modify_of_some hσ,
    if_pos ⟨hidle, hactive⟩] at hb₅
  obtain ⟨row, hrow, hrole⟩ := hsession
  obtain rfl : row = σ := Option.some.inj (hrow.symm.trans hσ)
  have hstep : Moves L now s s₅ := by
    refine Steps.lease_eq hL (.claim (c := ⟨claimId, r.subtaskId, k, fence, deadline, .held, now, now⟩)
      hr.subtask hr.loads hr.allowed hσ hactive hidle (hrole.trans hr.role) hnew rfl hr.free hseq) hb₅
  exact hstep.trans (appendSessionEvent_sameBoard hevent).moves

/-- Once a claim is being opened, no error is that of a lost race. The one error that reads
    like it is out of reach: the subtask is available, so it has no claim in the way. -/
theorem openClaim_raises {session : SessionRow} {k : SessionToken} {id : SubtaskId}
    {r : SubtaskRow} {duration : LeaseDurationMs} {e : CoveyError} (hr : Claimable s session id r)
    (h : openClaim k r duration leaseNow now s = (.error e, s')) : e.Surfaces := by
  obtain rfl : r.subtaskId = id := Table.key_of_get? hr.subtask
  rcases Tx.bind_error.mp h with h | ⟨fence, s₁, hfence, h⟩
  · exact issueFenceSeq_raises h
  rcases Tx.bind_error.mp h with h | ⟨claimId, s₂, hid, h⟩
  · exact freshId_raises h
  rcases Tx.bind_error.mp h with h | ⟨deadline, s₃, hdeadline, h⟩
  · exact Tx.Raises.lift (fun _ => typed_surfaces) h
  rcases Tx.bind_error.mp h with h | ⟨_, s₄, hins, h⟩
  · exact insertInto_raises h
  rcases Tx.bind_error.mp h with h | ⟨n, s₅, hsub, h⟩
  · exact updateIn_raises h
  have hr₄ : s₄.board.subtask r.subtaskId = some r := by
    obtain ⟨-, rfl⟩ := Tx.lift_ok.mp hdeadline
    rw [(insertClaim_board hins).2, freshId_sameBoard hid, (issueFenceSeq_board hfence).2]
    exact hr.subtask
  have hone : n = 1 := updateSubtask_one hsub hr₄ ⟨rfl, hr.detached⟩
  rw [if_neg (by simp [hone])] at h
  rcases Tx.bind_error.mp h with h | ⟨n', s₆, hses, h⟩
  · exact updateIn_raises h
  split_ifs at h
  · exact Tx.Raises.bind loadSession_raises (fun _ => by exact .fail rfl) h
  · exact Tx.Raises.bind appendSessionEvent_raises (fun _ => .pure _) h

theorem claimSelectedSubtask_moves {session : SessionRow} {k : SessionToken} {id : SubtaskId}
    {duration : LeaseDurationMs} {result : ClaimResult} (hL : .declared ∈ L)
    (hreview : .review ∈ L) (hlapse : .lapse ∈ L)
    (hsession : ∃ row, s.board.session k = some row ∧ row.role = session.role)
    (h : claimSelectedSubtask session k id duration leaseNow now s = (.ok result, s')) :
    Moves L now s s' := by
  simp only [claimSelectedSubtask, Tx.bind_ok] at h
  obtain ⟨r, s₁, hclaimable, hopen⟩ := h
  obtain ⟨hexp, hr⟩ := requireClaimable_ok hclaimable
  have hexp : Moves L now s s₁ := expireClaimIfNeeded_moves hreview hlapse hexp
  obtain ⟨row, hrow, hrole⟩ := hsession
  obtain ⟨row', hrow', -, hrole'⟩ := hexp.evolves.session hrow
  exact hexp.trans (openClaim_moves hL hr ⟨row', hrow', hrole'.trans hrole⟩ hopen)

/-- A claim that is lost to a race leaves nothing but the expiry of the claim in its way. -/
theorem claimSelectedSubtask_lost {session : SessionRow} {k : SessionToken} {id : SubtaskId}
    {duration : LeaseDurationMs} {e : CoveyError} (hreview : .review ∈ L) (hlapse : .lapse ∈ L)
    (h : claimSelectedSubtask session k id duration leaseNow now s = (.error e, s'))
    (hlost : e.isLostRace = true) : Moves L now s s' := by
  have hnot : ¬e.Surfaces := by simp [CoveyError.Surfaces, hlost]
  rcases Tx.bind_error.mp h with h | ⟨r, s₁, hclaimable, h⟩
  · rcases requireClaimable_error h with hs | hexp
    · exact absurd hs hnot
    · exact expireClaimIfNeeded_moves hreview hlapse hexp
  · exact absurd (openClaim_raises (requireClaimable_ok hclaimable).2 h) hnot

@[simp] theorem requireIdleSession_ok {k : SessionToken} {session : SessionRow} :
    requireIdleSession k s = (.ok session, s') ↔
      (s.sessions.get? k = some session ∧ session.load = .ok session ∧ session.state = .active ∧
        session.activeSubtaskId = none) ∧ s = s' := by
  simp only [requireIdleSession, Tx.bind_ok, requireActiveSession_ok, and_assoc, exists_and_left,
    exists_eq_left']
  constructor
  · rintro ⟨row, hrow, hload, hactive, h⟩
    cases hidle : row.activeSubtaskId with
    | some id => simp [hidle] at h
    | none =>
      simp only [hidle, Tx.pure_ok, Tx.bind_ok] at h
      obtain ⟨rfl, rfl⟩ := h
      exact ⟨hrow, hload, hactive, hidle, rfl⟩
  · rintro ⟨hrow, hload, hactive, hidle, rfl⟩
    refine ⟨session, hrow, hload, hactive, ?_⟩
    simp [hidle]

theorem orderedClaimCandidate_readOnly {kind : SubtaskKind} {state : SubtaskState}
    {lane : RoutingKey} {m : Option MetaTaskId} :
    (orderedClaimCandidate kind state lane m now).ReadOnly := by
  refine .bind .get fun _ => ?_
  cases kind <;> exact .pure _

/-- The kind of subtask that `claim_next_for_route` hands to a role. -/
def SessionRole.claims : SessionRole → Option SubtaskKind
  | .executor => some .work
  | .reviewer => some .review
  | _ => none

/-- A run of `claim_next_for_route`: the repairs are put in order, a candidate is chosen, and it
    is claimed or the race for it is lost. -/
theorem claimNextBody_ok {k : SessionToken} {duration : LeaseDurationMs} {lane : RoutingKey}
    {m : Option MetaTaskId} (h : claimNextBody k duration lane m leaseNow now s = (.ok v, s')) :
    ∃ session kind s₁ found, (s.board.session k = some session ∧ session.load = .ok session ∧
        session.state = .active ∧ session.activeSubtaskId = none) ∧
      session.role.claims = some kind ∧
      Tx.whenever (session.role = .executor) (do
        let _ ← ensureChangesRequestedFollowupBlocks k now
        pure ()) s = (.ok (), s₁) ∧
      orderedClaimCandidate kind .available lane m now s₁ = (.ok found, s₁) ∧
      (found = none ∧ v = .nextClaim none ∧ s' = s₁ ∨
        ∃ id, found = some id ∧
          ((∃ result, claimSelectedSubtask session k id duration leaseNow now s₁ =
              (.ok result, s') ∧ v = .nextClaim (some result)) ∨
            ∃ e, claimSelectedSubtask session k id duration leaseNow now s₁ = (.error e, s') ∧
              e.isLostRace = true ∧ v = .nextClaim none)) := by
  simp only [claimNextBody, Tx.bind_ok, requireIdleSession_ok, and_assoc, exists_and_left,
    exists_eq_left'] at h
  obtain ⟨session, hsession, hload, hactive, hidle, h⟩ := h
  obtain ⟨kind, hkind, h⟩ : ∃ kind, session.role.claims = some kind ∧
      claimNextOfKind session kind k duration lane m leaseNow now s = (.ok v, s') := by
    revert h
    cases session.role <;> intro h
    case executor => exact ⟨.work, rfl, h⟩
    case reviewer => exact ⟨.review, rfl, h⟩
    all_goals simp at h
  simp only [claimNextOfKind, Tx.bind_ok, Tx.exists_unit] at h
  obtain ⟨s₁, hblocks, found, s₂, hfound, h⟩ := h
  obtain rfl := orderedClaimCandidate_readOnly.state hfound
  refine ⟨session, kind, s₂, found, ⟨hsession, hload, hactive, hidle⟩, hkind, hblocks, hfound, ?_⟩
  cases found with
  | none =>
    obtain ⟨rfl, rfl⟩ := Tx.pure_ok.mp h
    exact .inl ⟨rfl, rfl, rfl⟩
  | some id =>
    refine .inr ⟨id, rfl, ?_⟩
    rcases Tx.catchError_ok.mp h with h | ⟨e, s₃, herror, h⟩
    · simp only [Tx.bind_ok, Tx.pure_ok] at h
      obtain ⟨result, _, hclaim, rfl, rfl⟩ := h
      exact .inl ⟨result, hclaim, rfl⟩
    · split_ifs at h with hlost
      · obtain ⟨rfl, rfl⟩ := Tx.pure_ok.mp h
        refine .inr ⟨e, ?_, hlost, rfl⟩
        rcases Tx.bind_error.mp herror with herror | ⟨_, _, _, herror⟩
        · exact herror
        · cases herror
      · simp at h

theorem claimNextBody_moves {k : SessionToken} {duration : LeaseDurationMs} {lane : RoutingKey}
    {m : Option MetaTaskId} (hL : .declared ∈ L) (hreview : .review ∈ L) (hlapse : .lapse ∈ L)
    (hrevive : .revive ∈ L) (h : claimNextBody k duration lane m leaseNow now s = (.ok v, s')) :
    Moves L now s s' := by
  obtain ⟨session, kind, s₁, found, ⟨hsession, -⟩, -, hblocks, -, h⟩ := claimNextBody_ok h
  have hblocks : Moves L now s s₁ := by
    refine Tx.Keeps.whenever (fun _ => ?_) hblocks
    exact .bind (fun _ _ _ => followupBlocks_moves hL hrevive) fun _ => .pure _
  rcases h with ⟨-, -, rfl⟩ | ⟨id, -, ⟨result, hclaim, -⟩ | ⟨e, herror, hlost, -⟩⟩
  · exact hblocks
  · obtain ⟨row, hrow, -, hrole⟩ := hblocks.evolves.session hsession
    exact hblocks.trans
      (claimSelectedSubtask_moves hL hreview hlapse ⟨row, hrow, hrole⟩ hclaim)
  · exact hblocks.trans (claimSelectedSubtask_lost hreview hlapse herror hlost)

theorem claimNextSubtask_moves {env : Env} {req : ClaimNextReq} (hL : .declared ∈ L)
    (hreview : .review ∈ L) (hlapse : .lapse ∈ L) (hrevive : .revive ∈ L)
    (h : claimNextSubtask env req now s = (.ok v, s')) : Moves L now s s' :=
  leasedMutation_moves (fun _ h => claimNextBody_moves hL hreview hlapse hrevive h) h

theorem claimNextRoutedSubtask_moves {req : ClaimNextRoutedReq} (hL : .declared ∈ L)
    (hreview : .review ∈ L) (hlapse : .lapse ∈ L) (hrevive : .revive ∈ L)
    (h : claimNextRoutedSubtask req now s = (.ok v, s')) : Moves L now s s' :=
  leasedMutation_moves (fun _ h => claimNextBody_moves hL hreview hlapse hrevive h) h

theorem claimSubtask_moves {req : ClaimSubtaskReq} (hL : .declared ∈ L) (hreview : .review ∈ L)
    (hlapse : .lapse ∈ L) (h : claimSubtask req now s = (.ok v, s')) : Moves L now s s' := by
  refine leasedMutation_moves (fun {n s₀ v s₁} _ h => ?_) h
  simp only [Tx.bind_ok, requireIdleSession_ok, subtaskExists_ok, Tx.ensure_ok, Tx.pure_ok,
    and_assoc, exists_and_left, exists_eq_left', Tx.exists_unit] at h
  obtain ⟨session, hsession, -, -, -, -, result, _, hclaim, -, rfl⟩ := h
  exact claimSelectedSubtask_moves hL hreview hlapse ⟨session, hsession, rfl⟩ hclaim

/-! ## Working on a claim -/

/-- What an operation on a claim has read: the claim is held by the active session, under the
    fence it presents, and its lease runs. -/
structure ClaimContext.Loaded (s : Db) (k : SessionToken) (claimId : ClaimId) (fence : FenceSeq)
    (leaseNow : ℤ) (ctx : ClaimContext) : Prop where
  claim : s.board.claim claimId = some ctx.claim
  owner : ctx.claim.ownerSessionToken = k
  fenced : ctx.claim.fenceSeq = fence.val
  held : ctx.claim.state = .held
  live : leaseNow < ctx.claim.leaseDeadline
  session : s.board.session k = some ctx.session
  active : ctx.session.state = .active
  subtask : s.board.subtask ctx.claim.subtaskId = some ctx.subtask
  loads : ctx.subtask.Loads

theorem loadClaimContext_ok {k : SessionToken} {claimId : ClaimId} {fence : FenceSeq}
    {ctx : ClaimContext} (h : loadClaimContext k claimId fence leaseNow s = (.ok ctx, s')) :
    s = s' ∧ ctx.Loaded s k claimId fence leaseNow := by
  simp only [loadClaimContext, Tx.bind_ok, requireCurrentClaim_ok, requireActiveSession_ok,
    loadSubtask_ok, Tx.pure_ok, and_assoc, exists_and_left, exists_eq_left'] at h
  obtain ⟨-, claim, hclaim, -, hown, hfence, hheld, hlive, session, hsession, -, hactive, subtask,
    hsubtask, hloads, rfl, rfl⟩ := h
  exact ⟨rfl, hclaim, hown, hfence, hheld, hlive, hsession, hactive, hsubtask, hloads⟩

namespace ClaimContext.Loaded

variable {k : SessionToken} {claimId : ClaimId} {fence : FenceSeq} {ctx : ClaimContext}

theorem claimKey (hctx : ctx.Loaded s k claimId fence leaseNow) : ctx.claim.claimId = claimId :=
  Table.key_of_get? hctx.claim

theorem subtaskKey (hctx : ctx.Loaded s k claimId fence leaseNow) :
    ctx.subtask.subtaskId = ctx.claim.subtaskId :=
  Table.key_of_get? hctx.subtask

/-- Closing the claim, letting go of its subtask and clearing its owner is one move. -/
theorem close {w : Write} {f : SubtaskRow → SubtaskRow}
    (hctx : ctx.Loaded s k claimId fence leaseNow) (hw : w ∈ L)
    (detach : ctx.subtask.currentClaimId = some ctx.claim.claimId →
      Detach now w ctx.subtask (f ctx.subtask))
    (hb : s'.board = { s.board with
      session := modify s.board.session k fun r =>
        { r with activeSubtaskId := none, updatedAt := now }
      subtask := modify s.board.subtask ctx.claim.subtaskId fun r =>
        if r.currentClaimId = some ctx.claim.claimId then f r else r
      claim := put s.board.claim ctx.claim.claimId
        { ctx.claim with state := .released, updatedAt := now } }) : Moves L now s s' := by
  obtain rfl := hctx.owner
  refine Steps.close (c := ctx.claim) .released f (fun _ => True) hw ?_ hctx.held (by decide) ?_
    (fun _ _ => trivial) ?_
  · rw [hctx.claimKey]
    exact hctx.claim
  · intro r hr hcur
    obtain rfl : ctx.subtask = r := Option.some.inj (hctx.subtask.symm.trans hr)
    exact detach hcur
  · rw [hb]
    simp only [if_true]

end ClaimContext.Loaded

theorem startReview_moves {id : SubtaskId} {k : SessionToken} (hL : .review ∈ L)
    (h : startReview id k now s = (.ok u, s')) : Moves L now s s' := by
  simp only [startReview, Tx.bind_ok, selectFrom_ok, and_assoc, exists_and_left,
    exists_eq_left'] at h
  generalize hfound : List.head? _ = found at h
  cases found with
  | none => simp at h
  | some review =>
    rcases Tx.whenever_ok.mp h with ⟨-, h⟩ | ⟨-, rfl⟩
    · simp only [Tx.bind_ok, Tx.lift_ok, ensureReviewTransition_ok, Tx.pure_ok, and_assoc,
        exists_and_left, exists_eq_left', Tx.exists_unit] at h
      obtain ⟨hallowed, n, _, hupd, -, rfl⟩ := h
      refine updateReviews_moves hL hupd (fun r hr => .inr ⟨?_, by simp, ⟨rfl, rfl, rfl, rfl⟩⟩)
        fun _ => rfl
      rw [hr.2]
      intro hdecided
      rw [hdecided] at hallowed
      cases hallowed
    · exact .refl s

theorem startSubtask_moves {req : StartSubtaskReq} (hL : .declared ∈ L) (hreview : .review ∈ L)
    (h : startSubtask req now s = (.ok v, s')) : Moves L now s s' := by
  refine leasedMutation_moves (fun {n s₀ v s₁} _ h => ?_) h
  simp only [Tx.bind_ok, Tx.lift_ok, ensureMetaTaskIsSchedulable_ok, requireSessionCanClaimKind_ok,
    ensureSubtaskTransition_ok, Tx.ensure_ok, Tx.pure_ok, and_assoc, exists_and_left,
    exists_eq_left', Tx.exists_unit] at h
  obtain ⟨-, ctx, _, hload, -, -, hallowed, n, s₂, hupd, -, s₃, hreviews, _, hevent, -, rfl⟩ := h
  obtain ⟨rfl, hctx⟩ := loadClaimContext_ok hload
  have hstart : Moves L now s₀ s₂ := by
    obtain ⟨-, hb⟩ := updateSubtask_board hupd fun _ => rfl
    refine Steps.edit_at (w := advanceLabel ctx.subtask.kind .inProgress) ?_ (fun r hr => ?_) hb
    · unfold advanceLabel
      split_ifs
      exacts [hreview, hL]
    · rw [hctx.subtaskKey] at hr
      obtain rfl : ctx.subtask = r := Option.some.inj (hctx.subtask.symm.trans hr)
      rw [if_pos rfl]
      exact .inr (.advance rfl hctx.loads hallowed trivial)
  have hreviews : Moves L now s₂ s₃ :=
    Tx.Keeps.whenever (R := Moves L now) (fun _ _ _ _ => startReview_moves hreview) hreviews
  exact (hstart.trans hreviews).trans (appendSessionEvent_sameBoard hevent).moves

theorem renewClaim_moves {req : RenewClaimReq} (hL : .declared ∈ L)
    (h : renewClaim req now s = (.ok v, s')) : Moves L now s s' := by
  refine leasedMutation_moves (fun {n s₀ v s₁} _ h => ?_) h
  simp only [Tx.bind_ok, Tx.lift_ok, requireCurrentClaim_ok, Tx.ensure_ok, Tx.pure_ok, and_assoc,
    exists_and_left, exists_eq_left', Tx.exists_unit] at h
  obtain ⟨-, -, claim, hclaim, -, hown, hfence, hheld, -, n, s₂, hupd, -, _, -, _, hevent, -, rfl⟩ := h
  obtain ⟨-, hb⟩ := updateClaim_board hupd fun _ => rfl
  replace hclaim : s₀.board.claim req.claimId = some claim := hclaim
  have hkey : claim.claimId = req.claimId := Table.key_of_get? hclaim
  rw [modify_of_some hclaim, if_pos ⟨hheld, hown, hfence⟩, ← hkey] at hb
  have hstep : Moves L now s₀ s₂ := Steps.lease_eq hL (.renew (hkey ▸ hclaim)) hb
  exact hstep.trans (appendSessionEvent_sameBoard hevent).moves

/-! ## Closing a claim -/

theorem detachSubtask_board {ctx : ClaimContext} {state : SubtaskState}
    (h : detachSubtask ctx state now s = (.ok u, s')) :
    s'.board = { s.board with
      subtask := modify s.board.subtask ctx.subtask.subtaskId fun r =>
        if r.currentClaimId = some ctx.claim.claimId then
          { r with state := state, currentClaimId := none, updatedAt := now }
        else r } := by
  simp only [detachSubtask, Tx.bind_ok, Tx.ensure_ok] at h
  obtain ⟨n, _, hupd, -, rfl⟩ := h
  exact (updateSubtask_board hupd fun _ => rfl).2

/-- Work that is held has not been decided. -/
theorem SubtaskRow.Loads.not_decided {r : SubtaskRow} {c : ClaimId} (h : r.Loads)
    (hcur : r.currentClaimId = some c) : r.state ≠ .decided := by
  intro hstate
  have hlife := (SubtaskRow.loads_iff.mp h).1
  simp [SubtaskRow.lifecycle, hstate, hcur, invalidRow] at hlife

theorem abandonSubtask_moves {req : AbandonSubtaskReq} (hL : .abandon ∈ L)
    (h : abandonSubtask req now s = (.ok v, s')) : Moves L now s s' := by
  refine leasedMutation_moves (fun {n s₀ v s₁} _ h => ?_) h
  simp only [Tx.bind_ok, Tx.lift_ok, requireSessionCanClaimKind_ok, ensureTransition_ok, Tx.pure_ok,
    and_assoc, exists_and_left, exists_eq_left', Tx.exists_unit] at h
  obtain ⟨-, ctx, _, hload, -, happlied, hcompleted, hfailed, habandoned, s₂, hclose, s₃, hdetach, s₄,
    hclear, s₅, hrefresh, _, hevent, -, rfl⟩ := h
  obtain ⟨rfl, hctx⟩ := loadClaimContext_ok hload
  obtain ⟨row, hrow, -, hb₂⟩ := closeClaimAndDetach_board hclose
  rw [hctx.claimKey, hctx.claim] at hrow
  cases hrow
  have hb := clearSessionActiveSubtask_board hclear
  rw [detachSubtask_board hdetach, hb₂, hctx.subtaskKey] at hb
  refine ((hctx.close hL (fun hcur => .abandon ?_) hb).trans
    (refreshMetaTaskState_sameBoard hrefresh).moves).trans (appendSessionEvent_sameBoard hevent).moves
  rintro (h | h | h | h | h)
  exacts [happlied h, hcompleted h, hfailed h, habandoned h, hctx.loads.not_decided hcur h]

theorem releaseClaim_moves {req : ReleaseClaimReq} (hL : .lapse ∈ L)
    (h : releaseClaim req now s = (.ok v, s')) : Moves L now s s' := by
  refine leasedMutation_moves (fun {n s₀ v s₁} _ h => ?_) h
  simp only [Tx.bind_ok, Tx.lift_ok, requireSessionCanClaimKind_ok, Tx.pure_ok, and_assoc,
    exists_and_left, exists_eq_left', Tx.exists_unit] at h
  obtain ⟨-, ctx, _, hload, -, s₂, hclose, n, s₃, hreserve, s₄, hdetach, s₅, hclear, _, hevent, -,
    rfl⟩ := h
  obtain ⟨rfl, hctx⟩ := loadClaimContext_ok hload
  obtain ⟨row, hrow, -, hb₂⟩ := closeClaimAndDetach_board hclose
  rw [hctx.claimKey, hctx.claim] at hrow
  cases hrow
  have hb₃ : s₃.board = s₂.board := updateIn_sameBoard (fun _ _ => rfl) _ _ hreserve
  have hb := clearSessionActiveSubtask_board hclear
  rw [detachSubtask_board hdetach, hb₃, hb₂, hctx.subtaskKey] at hb
  refine Steps.trans (hctx.close hL (fun _ => ?_) hb) (appendSessionEvent_sameBoard hevent).moves
  exact .lapse

theorem recordDirectOutcome_moves {eventType : EventType} {input : OutcomeInput}
    (hL : .attempt ∈ L) (h : recordDirectOutcome eventType input leaseNow now s = (.ok v, s')) :
    Moves L now s s' := by
  simp only [recordDirectOutcome, Tx.bind_ok, Tx.lift_ok, ensureMetaTaskIsSchedulable_ok,
    requireSessionCanClaimKind_ok, ensureSubtaskTransition_ok, Tx.ensure_ok, Tx.pure_ok, and_assoc,
    exists_and_left, exists_eq_left', Tx.exists_unit] at h
  obtain ⟨ctx, _, hload, -, -, hpolicy, -, hallowed, s₂, hins, s₃, hclose, s₄, hreserve, n, s₅, hupd,
    hn, s₆, hclear, s₇, hrefresh, _, hevent, -, rfl⟩ := h
  obtain ⟨rfl, hctx⟩ := loadClaimContext_ok hload
  have hb₂ : s₂.board = _ := insertInto_sameBoard (fun _ _ => rfl) _ hins
  obtain ⟨row, hrow, -, hb₃⟩ := closeClaimAndDetach_board hclose
  rw [hb₂] at hrow hb₃
  rw [hctx.claimKey, hctx.claim] at hrow
  cases hrow
  have hb₄ : s₄.board = s₃.board := releaseActiveReservations_sameBoard hreserve
  obtain ⟨hfound, hb₅⟩ := updateSubtask_board hupd fun _ => rfl
  obtain ⟨r, hr, hstarted, hcur⟩ := hfound (by omega)
  rw [hb₄, hb₃, hctx.subtaskKey] at hr hb₅
  obtain rfl : ctx.subtask = r := Option.some.inj (hctx.subtask.symm.trans hr)
  have hb := clearSessionActiveSubtask_board hclear
  rw [hb₅, modify_of_some hctx.subtask, if_pos ⟨hstarted, hcur⟩] at hb
  refine ((hctx.close (f := fun r =>
      { r with state := input.outcomeKind.nextState, currentClaimId := none, updatedAt := now }) hL
      (fun _ => .outcome hctx.loads hpolicy hstarted hallowed) ?_).trans
    (refreshMetaTaskState_sameBoard hrefresh).moves).trans (appendSessionEvent_sameBoard hevent).moves
  rw [hb, modify_of_some hctx.subtask, if_pos hcur]

theorem finishSubtask_moves {req : FinishSubtaskReq} (hL : .attempt ∈ L)
    (h : finishSubtask req now s = (.ok v, s')) : Moves L now s s' :=
  leasedMutation_moves (fun _ h => recordDirectOutcome_moves hL h) h

theorem recordFailedAttempt_moves {operation : String} {eventType : EventType}
    {kind : AttemptOutcomeKind} {req : FailedAttemptReq} (hL : .attempt ∈ L)
    (h : recordFailedAttempt operation eventType kind req now s = (.ok v, s')) : Moves L now s s' :=
  leasedMutation_moves (fun _ h => recordDirectOutcome_moves hL h) h

end Covey

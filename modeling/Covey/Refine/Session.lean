import Covey.Refine.Statements

/-!
# Session and maintenance operations refine the moves

* `registerSession_moves`, `heartbeat_moves`, `recordRuntimeAttestation_moves`
* `exitSession_moves`: the claims of an exiting session lapse one by one.
* `reapStaleSessions_moves`, `expireOldClaims_moves`, `expireOldReservations_moves`
-/

namespace Covey

open Relational

variable {L : Set Write} {now : ℤ} {s s' : Db} {u : Unit} {v : Response}

/-! ## Registration and heartbeat -/

theorem registerSession_moves {req : RegisterSessionReq} (hL : .declared ∈ L)
    (h : registerSession req now s = (.ok v, s')) : Moves L now s s' := by
  simp only [registerSession, Tx.bind_ok, Tx.lift_ok, and_assoc, exists_and_left, exists_eq_left',
    Tx.exists_unit] at h
  obtain ⟨-, -, h⟩ := h
  refine leasedMutation_moves (fun {n s₀ v s₁} _ h => ?_) h
  simp only [ensureNoOtherActiveSession, Tx.bind_ok, selectFrom_ok, Tx.ensure_ok, Tx.pure_ok,
    and_assoc, exists_and_left, exists_eq_left', Tx.exists_unit] at h
  obtain ⟨-, token, s₂, hid, s₃, hins, _, hevent, -, rfl⟩ := h
  obtain ⟨hfresh, hb⟩ := insertSession_board hins
  have hstep : Moves L now s₂ s₃ := Steps.lease_eq hL (.register hfresh rfl rfl) hb
  exact ((freshId_sameBoard hid).moves.trans hstep).trans (appendSessionEvent_sameBoard hevent).moves

theorem recordRuntimeAttestation_moves {req : RecordRuntimeAttestationReq}
    (h : recordRuntimeAttestation req now s = (.ok v, s')) : Moves L now s s' := by
  refine mutation_moves (fun {v s₁} h => ?_) h
  simp only [Tx.bind_ok, requireActiveSession_ok, Tx.lift_ok, Tx.ensure_ok, Tx.pure_ok, and_assoc,
    exists_and_left, exists_eq_left', Tx.exists_unit] at h
  obtain ⟨_, -, -, -, -, -, -, s₂, hins, _, hevent, -, rfl⟩ := h
  have hins := insertInto_sameBoard (fun _ _ => rfl) _ hins
  exact hins.moves.trans (appendSessionEvent_sameBoard hevent).moves

theorem heartbeat_moves {req : HeartbeatReq} (hL : .declared ∈ L)
    (h : heartbeat req now s = (.ok v, s')) : Moves L now s s' := by
  refine leasedMutation_moves (fun {n s₀ v s₁} _ h => ?_) h
  simp only [Tx.bind_ok, loadSession_ok, Tx.lift_ok, Tx.pure_ok, and_assoc, exists_and_left,
    exists_eq_left', Tx.exists_unit] at h
  obtain ⟨_, -, -, -, _, s₂, hupd, _, hevent, -, rfl⟩ := h
  have hmoves : Moves L now s₀ s₂ :=
    updateSessions_moves hL hupd fun r _ => ⟨rfl, rfl, rfl, rfl, rfl, id⟩
  exact hmoves.trans (appendSessionEvent_sameBoard hevent).moves

/-! ## Exit -/

/-- The claims of a session lapse: on the board that still shows the session as `σ`, each of
    them is closed by a move. Afterwards none of them is held. -/
theorem expireHeld_steps {k : SessionToken} {claims : List ClaimRow} (hreview : .review ∈ L)
    (hlapse : .lapse ∈ L) (howner : ∀ c ∈ claims, c.ownerSessionToken = k)
    (h : Tx.forEach claims (fun claim => expireClaim claim now) s = (.ok u, s'))
    (htraced : ∀ c ∈ claims, Traced s.board c) {σ : SessionToken → Option SessionRow}
    {r : SessionRow} (hr : σ k = some r) :
    ∃ σ' r', Steps L now { s.board with session := σ } { s'.board with session := σ' } ∧
      σ' k = some r' ∧
      ({ r' with state := .exited, activeSubtaskId := none, updatedAt := now } : SessionRow) =
        { r with state := .exited, activeSubtaskId := none, updatedAt := now } ∧
      (∀ x, put σ' k x = put σ k x) ∧ s'.board.session = s.board.session ∧
      ∀ c row, s'.board.claim c = some row → row.state = .held →
        s.board.claim c = some row ∧ c ∉ claims.map (·.claimId) := by
  induction claims generalizing s σ r with
  | nil =>
    obtain ⟨-, rfl⟩ := Tx.pure_ok.mp h
    exact ⟨σ, r, .refl _, hr, rfl, fun _ => rfl, rfl, fun c row hc _ => ⟨hc, by simp⟩⟩
  | cons claim claims ih =>
    obtain ⟨s₁, hexp, hrest⟩ := Tx.forEach_cons_ok.mp h
    obtain ⟨row, g, hrow, hheld, hg, hb⟩ := expireClaim_board hexp
    obtain ⟨hsub, hown⟩ := htraced claim List.mem_cons_self row hrow
    have hkey : row.claimId = claim.claimId := Table.key_of_get? hrow
    have hk : row.ownerSessionToken = k := hown.trans (howner claim List.mem_cons_self)
    -- The owner lets go of the subtask on the board with `σ`, where it is still registered.
    let clear (r : SessionRow) : SessionRow :=
      if r.activeSubtaskId = some claim.subtaskId then
        { r with activeSubtaskId := none, updatedAt := now }
      else r
    have hstep : Steps L now { s.board with session := σ }
        { s₁.board with session := modify σ k clear } := by
      refine (Steps.ledger (b := { s.board with session := σ }) hreview (.reviews hg)).trans
        (Steps.close (c := row) .expired (SubtaskRow.lapsed now)
          (fun r => r.activeSubtaskId = some claim.subtaskId) hlapse ?_ hheld (by decide)
          (fun r _ _ => .lapse) ?_ ?_)
      · rw [hkey]
        exact hrow
      · intro r hr
        rw [← hsub]
        exact hr
      · rw [hb, hkey, hsub, hk]
    have htraced₁ : ∀ c ∈ claims, Traced s₁.board c := by
      intro c hc row' hrow'
      rw [hb] at hrow'
      rcases put_eq_some.mp hrow' with ⟨heq, rfl⟩ | ⟨-, hrow'⟩
      · exact htraced c (List.mem_cons_of_mem _ hc) row (by rw [heq]; exact hrow)
      · exact htraced c (List.mem_cons_of_mem _ hc) row' hrow'
    obtain ⟨σ', r', hsteps, hr', hexit, hput, hsession, hcl⟩ :=
      ih (fun c hc => howner c (List.mem_cons_of_mem _ hc)) hrest htraced₁
        (modify_eq_some.mpr ⟨r, hr, rfl⟩)
    refine ⟨σ', r', hstep.trans hsteps, hr', ?_, ?_, ?_, ?_⟩
    · rw [hexit, if_pos rfl]
      simp only [clear]
      split_ifs <;> rfl
    · exact fun x => (hput x).trans put_modify
    · rw [hsession, hb]
    · intro c row' hrow' hst
      obtain ⟨hrow₁, hnot⟩ := hcl c row' hrow' hst
      rw [hb] at hrow₁
      rcases put_eq_some.mp hrow₁ with ⟨-, rfl⟩ | ⟨hne, hrow₁⟩
      · cases hst
      · exact ⟨hrow₁, by simpa [hne] using hnot⟩

theorem exitSession_moves {req : ExitSessionReq} (hdecl : .declared ∈ L) (hreview : .review ∈ L)
    (hlapse : .lapse ∈ L) (h : exitSession req now s = (.ok v, s')) : Moves L now s s' := by
  refine mutation_moves (fun {v s₁} h => ?_) h
  simp only [expireHeldClaimsForExitedSession, Tx.bind_ok, loadSession_ok, Tx.lift_ok, Tx.ensure_ok,
    selectFrom_ok, Tx.pure_ok, ensureTransition_ok, and_assoc, exists_and_left, exists_eq_left',
    Tx.exists_unit] at h
  obtain ⟨session, hsession, -, hstate, n, s₂, hupd, -, s₃, ⟨claims, s₄, hload, hloop⟩, _, hevent, -,
    rfl⟩ := h
  obtain ⟨rfl, hs₄⟩ := Tx.mapEach_lift_ok ClaimRow.load_val hload
  rw [hs₄] at hloop
  have hb := (updateSession_board hupd fun _ => rfl).2
  replace hsession : s.board.session req.sessionToken = some session := hsession
  rw [modify_of_some hsession, if_pos hstate] at hb
  have hmem : ∀ {c}, c ∈ (Rel.claims.get s₂).select
      (fun c => c.ownerSessionToken = req.sessionToken ∧ c.state = .held) ↔
      s₂.board.claim c.claimId = some c ∧ c.ownerSessionToken = req.sessionToken ∧
        c.state = .held := by
    intro c
    rw [Table.mem_select, Table.mem_iff_get?]
    rfl
  obtain ⟨σ', r', hsteps, hr', hexit, hput, hkeep, hcl⟩ :=
    expireHeld_steps (k := req.sessionToken) hreview hlapse
      (fun c hc => (hmem.mp ((List.mem_insertionSort _).mp hc)).2.1) hloop
      (fun c hc row hrow => by
        rw [(hmem.mp ((List.mem_insertionSort _).mp hc)).1] at hrow
        cases hrow
        exact ⟨rfl, rfl⟩) hsession
  have hstart : ({ s₂.board with session := s.board.session } : Board) = s.board := by
    rw [hb]
  refine Steps.trans ?_ (appendSessionEvent_sameBoard hevent).moves
  refine Steps.trans (hstart ▸ hsteps) (Steps.lease_eq hdecl (.exit hr' ?_) ?_)
  · intro c row hrow hown hst
    obtain ⟨hrow₂, hnot⟩ := hcl c row hrow hst
    have hkey : row.claimId = c := Table.key_of_get? hrow₂
    refine hnot (List.mem_map.mpr ⟨row, ?_, hkey⟩)
    rw [List.mem_insertionSort, hmem, hkey]
    exact ⟨hrow₂, hown, hst⟩
  · have hlast : s₃.board.session = put σ' req.sessionToken
        { r' with state := .exited, activeSubtaskId := none, updatedAt := now } := by
      rw [hexit, hput, hkeep, hb]
    exact congrArg (fun g => { s₃.board with session := g }) hlast

/-! ## Maintenance -/

theorem expireClaims_moves {claims : List ClaimRow} (hreview : .review ∈ L) (hlapse : .lapse ∈ L)
    (htraced : ∀ c ∈ claims, Traced s.board c) (h : expireClaims claims now s = (.ok u, s')) :
    Moves L now s s' := by
  induction claims generalizing s with
  | nil =>
    obtain ⟨-, rfl⟩ := Tx.pure_ok.mp h
    exact .refl s
  | cons claim claims ih =>
    simp only [expireClaims, Tx.forEach_cons_ok, Tx.bind_ok] at h
    obtain ⟨s₂, ⟨_, s₁, hexp, hclear⟩, hrest⟩ := h
    refine (expireClaim_moves hreview hlapse (htraced claim List.mem_cons_self) hexp hclear).trans
      (ih (fun c hc => ?_) hrest)
    obtain ⟨row, g, hrow, -, -, hb⟩ := expireClaim_board hexp
    intro row' hrow'
    rw [clearOwnerOfClaim_board hclear, hb] at hrow'
    rcases put_eq_some.mp hrow' with ⟨heq, rfl⟩ | ⟨-, hrow'⟩
    · exact htraced c (List.mem_cons_of_mem _ hc) row (by rw [heq]; exact hrow)
    · exact htraced c (List.mem_cons_of_mem _ hc) row' hrow'

/-- The claims that `loadExpirableClaims` finds, expired one by one. -/
theorem expireLoaded_moves {leaseNow : ℤ} {claims : List ClaimRow} {s₁ : Db} (hreview : .review ∈ L)
    (hlapse : .lapse ∈ L) (hload : loadExpirableClaims leaseNow s = (.ok claims, s₁))
    (h : expireClaims claims now s₁ = (.ok u, s')) : Moves L now s s' := by
  obtain ⟨rfl, hclaims⟩ := loadExpirableClaims_ok hload
  refine expireClaims_moves hreview hlapse (fun c hc row hrow => ?_) h
  obtain rfl : c = row := Option.some.inj ((hclaims c hc).1.symm.trans hrow)
  exact ⟨rfl, rfl⟩

theorem reapStaleSessions_moves {staleThreshold : ℤ} (hdecl : .declared ∈ L)
    (hreview : .review ∈ L) (hlapse : .lapse ∈ L)
    (h : reapStaleSessions staleThreshold now s = (.ok v, s')) : Moves L now s s' := by
  simp only [reapStaleSessions, Tx.bind_ok, Tx.pure_ok, Tx.exists_unit] at h
  obtain ⟨leaseNow, s₁, hclock, n, s₂, hstale, claims, s₃, hload, s₄, hexp, s₅, hevent, -, rfl⟩ := h
  have hclock : SameBoard s s₁ := by
    obtain ⟨-, rfl⟩ := advanceLeaseClock_ok.mp hclock
    rfl
  have hstale : Moves L now s₁ s₂ := by
    refine updateSessions_moves hdecl hstale fun r _ => ⟨rfl, rfl, rfl, rfl, rfl, fun h => ?_⟩
    cases h
  have hevent : SameBoard s₄ s₅ :=
    Tx.Keeps.whenever (fun _ => appendEvent_sameBoard) hevent
  exact ((hclock.moves.trans hstale).trans (expireLoaded_moves hreview hlapse hload hexp)).trans
    hevent.moves

theorem expireOldClaims_moves (hreview : .review ∈ L) (hlapse : .lapse ∈ L)
    (h : expireOldClaims now s = (.ok v, s')) : Moves L now s s' := by
  simp only [expireOldClaims, Tx.bind_ok, Tx.pure_ok, Tx.exists_unit] at h
  obtain ⟨leaseNow, s₁, hclock, claims, s₃, hload, s₄, hexp, s₅, hevent, -, rfl⟩ := h
  have hclock : SameBoard s s₁ := by
    obtain ⟨-, rfl⟩ := advanceLeaseClock_ok.mp hclock
    rfl
  have hevent : SameBoard s₄ s₅ :=
    Tx.Keeps.whenever (fun _ => appendEvent_sameBoard) hevent
  exact (hclock.moves.trans (expireLoaded_moves hreview hlapse hload hexp)).trans hevent.moves

theorem resolveReservationOverlapConflicts_sameBoard {reservationId : ReservationId} :
    Tx.Keeps SameBoard (resolveReservationOverlapConflicts reservationId now) :=
  .bind (updateIn_sameBoard (fun _ _ => rfl) _ _) fun _ =>
    .bind (updateIn_sameBoard (fun _ _ => rfl) _ _) fun _ => .pure _

theorem expireOldReservations_moves (h : expireOldReservations now s = (.ok v, s')) :
    Moves L now s s' := by
  have hkeeps : Tx.Keeps SameBoard (expireOldReservations now) := by
    unfold expireOldReservations
    refine .bind ?_ fun _ => .bind (sameBoard_of_readOnly selectFrom_readOnly) fun _ =>
      .bind (updateIn_sameBoard (fun _ _ => rfl) _ _) fun _ =>
      .bind (.forEach fun _ _ => resolveReservationOverlapConflicts_sameBoard) fun _ =>
      .bind (.whenever fun _ => appendEvent_sameBoard) fun _ => .pure _
    intro s _ s' h
    obtain ⟨-, rfl⟩ := advanceLeaseClock_ok.mp h
    rfl
  exact (hkeeps h).moves

end Covey

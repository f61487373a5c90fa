import Covey.Refine.Queue

/-!
# The archive operations refine the moves

* `recordOpenSpecArchiveStatus_moves`: the archive ledger is not on the board.
* `endCleanupClaim_moves`, `ensureCleanupSubtask_moves`, `openCleanupClaim_moves`.
* `beginOpenSpecArchiveCleanup_moves`: a cleanup that finds a claim id to use
  again takes the label `reuse`.
* `finishOpenSpecArchiveCleanup_moves`.
-/

namespace Covey

open Relational

variable {L : Set Write} {now leaseNow : ℤ} {s s' : Db} {u : Unit} {v : Response} {n : ℕ}

/-! ## The ledger -/

theorem updateOpenSpecArchiveStatus_sameBoard {req : RecordOpenSpecArchiveStatusReq}
    {id : SubtaskId} : Tx.Keeps SameBoard (updateOpenSpecArchiveStatus req id now) :=
  .bind (updateIn_sameBoard (fun _ _ => rfl) _ _) fun _ => .ensure _ _

theorem settleArchiveStatus_sameBoard {req : RecordOpenSpecArchiveStatusReq} {id : SubtaskId}
    {queued : Bool} : Tx.Keeps SameBoard (settleArchiveStatus req id queued now) := by
  refine .bind (sameBoard_of_readOnly lookup_readOnly) fun found => ?_
  extract_lets rest
  have hrest : ∀ u, Tx.Keeps SameBoard (rest u) := fun _ =>
    .bind (.whenever fun _ => markApplyWorktreesForQueue_sameBoard) fun _ =>
      .bind appendSessionEvent_sameBoard fun _ =>
      .bind (sameBoard_of_readOnly load_readOnly) fun _ => .pure _
  cases found with
  | none => exact .bind (insertInto_sameBoard (fun _ _ => rfl) _) hrest
  | some existing =>
    dsimp only
    split_ifs
    · exact .pure _
    · exact .bind (.ensure _ _) fun _ => .bind updateOpenSpecArchiveStatus_sameBoard hrest

theorem directAppliedArchiveSubtask_readOnly {req : RecordOpenSpecArchiveStatusReq} :
    (directAppliedArchiveSubtask req).ReadOnly := by
  refine .bind .get fun s => ?_
  dsimp only
  split
  · exact .pure _
  · exact .fail _

theorem recordOpenSpecArchiveStatus_moves {req : RecordOpenSpecArchiveStatusReq}
    (h : recordOpenSpecArchiveStatus req now s = (.ok v, s')) : Moves L now s s' := by
  refine mutation_moves (fun {v s₁} h => ?_) h
  simp only [Tx.bind_ok, requireRole_ok, Tx.lift_ok, Tx.option_forM_ok, Tx.get_ok, and_assoc,
    exists_and_left, exists_eq_left', Tx.exists_unit] at h
  obtain ⟨_, -, -, -, -, -, -, -, -, -, h⟩ := h
  split_ifs at h
  · simp only [Tx.bind_ok] at h
    obtain ⟨id, s₂, hdirect, hsettle⟩ := h
    obtain rfl := directAppliedArchiveSubtask_readOnly.state hdirect
    exact (settleArchiveStatus_sameBoard hsettle).moves
  · simp only [Tx.bind_ok, loadQueueItem_ok, Tx.ensure_ok, and_assoc, exists_and_left,
      exists_eq_left', Tx.exists_unit] at h
    obtain ⟨item, -, -, -, -, h⟩ := h
    cases hscope : openspecChangeIdForSubtask s item.subtaskId with
    | none => simp [hscope] at h
    | some changeId =>
      simp only [hscope, Tx.bind_ok, Tx.ensure_ok, and_assoc, exists_and_left, exists_eq_left',
        Tx.exists_unit] at h
      exact (settleArchiveStatus_sameBoard h.2).moves

/-! ## Ending a cleanup -/

theorem endCleanupClaim_moves {row row' : CleanupClaimRow} {claimState : ClaimState}
    {subtaskState : SubtaskState} {changeId : OpenSpecChangeId} (hL : .cleanup ∈ L)
    (hrow : s.board.cleanup changeId = some row') (hsame : row.SameClaim row')
    (closed : claimState ≠ .held)
    (left : subtaskState = .available ∨ subtaskState = .abandoned)
    (h : endCleanupClaim row claimState subtaskState now s = (.ok u, s')) : Moves L now s s' := by
  simp only [endCleanupClaim, releaseActiveReservationsForSubtask, Tx.bind_ok, Tx.pure_ok] at h
  obtain ⟨_, s₁, hclaim, _, s₂, hsubtask, _, s₃, hreserve, -, rfl⟩ := h
  have hb₁ := (updateClaim_board hclaim fun _ => rfl).2
  have hb₂ := (updateSubtask_board hsubtask fun _ => rfl).2
  have hb₃ : s₃.board = s₂.board := updateIn_sameBoard (fun _ _ => rfl) _ _ hreserve
  refine Steps.lease_eq hL (.endCleanup hrow closed left) ?_
  rw [hb₃, hb₂, hb₁, hsame.1, hsame.2]

theorem retireStaleCleanupClaim_moves {changeId : OpenSpecChangeId} (hL : .cleanup ∈ L)
    (h : retireStaleCleanupClaim changeId leaseNow now s = (.ok u, s')) : Moves L now s s' := by
  simp only [retireStaleCleanupClaim, Tx.bind_ok, Tx.get_ok, and_assoc, exists_and_left,
    exists_eq_left'] at h
  cases hrow : s.cleanupClaims.get? changeId with
  | none =>
    simp only [hrow, Tx.pure_ok] at h
    obtain ⟨-, rfl⟩ := h
    exact .refl s
  | some row =>
    simp only [hrow] at h
    rcases Tx.whenever_ok.mp h with ⟨-, h⟩ | ⟨-, rfl⟩
    · exact endCleanupClaim_moves hL hrow ⟨rfl, rfl⟩ (by decide) (.inl rfl) h
    · exact .refl s

/-! ## Beginning a cleanup -/

theorem cleanupMissing_readOnly {α : Type} {reason : String} :
    (cleanupMissing reason : Txn α).ReadOnly :=
  .bind (.lift _) fun _ => .fail _

@[simp] theorem cleanupMissing_ok {α : Type} {reason : String} {a : α} :
    cleanupMissing reason s = (.ok a, s') ↔ False := by
  simp [cleanupMissing]

theorem cleanupSubtaskId_ok {changeId : OpenSpecChangeId} {id : SubtaskId} :
    cleanupSubtaskId changeId s = (.ok id, s') ↔ id.val = cleanupSubtaskName changeId ∧ s = s' := by
  unfold cleanupSubtaskId
  cases hid : Text.parse .subtaskId (cleanupSubtaskName changeId) with
  | ok id' =>
    rw [Tx.pure_ok]
    have hval := Text.parse_ok.mp hid
    constructor
    · rintro ⟨rfl, rfl⟩
      exact ⟨hval, rfl⟩
    · rintro ⟨hid, rfl⟩
      exact ⟨Text.ext (hval.trans hid.symm), rfl⟩
  | error e =>
    simp only [cleanupMissing_ok, false_iff, not_and]
    intro hval
    have hok : Text.parse .subtaskId (cleanupSubtaskName changeId) = .ok id := Text.parse_ok.mpr hval
    rw [hid] at hok
    cases hok

theorem ensureCleanupSubtask_moves {id : SubtaskId} {metaTaskId : MetaTaskId}
    {title : SubtaskTitle} {lane : RoutingKey} (hL : .cleanup ∈ L) (hid : ReservedId id)
    (h : ensureCleanupSubtask id metaTaskId title lane now s = (.ok u, s')) : Moves L now s s' := by
  simp only [ensureCleanupSubtask, Tx.bind_ok, subtaskExists_ok, Tx.pure_ok, and_assoc,
    exists_and_left, exists_eq_left', Tx.exists_unit] at h
  obtain ⟨s₁, hinsert, _, _, hreopen, -, rfl⟩ := h
  have hinsert : Moves L now s s₁ := by
    rcases Tx.whenever_ok.mp hinsert with ⟨-, hins⟩ | ⟨-, rfl⟩
    · obtain ⟨habsent, hb⟩ := insertSubtaskRow_board hins
      exact Steps.lease_eq hL (.createCleanup ⟨rfl, rfl, rfl, rfl, rfl⟩ rfl hid habsent) hb
    · exact .refl s
  refine hinsert.trans (Steps.edit_at hL (fun r _ => ?_) (updateSubtask_board hreopen fun _ => rfl).2)
  split_ifs with hr
  · exact .inr (.reopen hr.1 hr.2)
  · exact .inl rfl

/-- After the transaction the cleanup subtask is there. -/
theorem ensureCleanupSubtask_isSome {id : SubtaskId} {metaTaskId : MetaTaskId}
    {title : SubtaskTitle} {lane : RoutingKey}
    (h : ensureCleanupSubtask id metaTaskId title lane now s = (.ok u, s')) :
    (s'.board.subtask id).isSome := by
  simp only [ensureCleanupSubtask, Tx.bind_ok, subtaskExists_ok, Tx.pure_ok, and_assoc,
    exists_and_left, exists_eq_left', Tx.exists_unit] at h
  obtain ⟨s₁, hinsert, _, _, hreopen, -, rfl⟩ := h
  have hsome : (s₁.board.subtask id).isSome := by
    rcases Tx.whenever_ok.mp hinsert with ⟨-, hins⟩ | ⟨hfound, rfl⟩
    · rw [(insertSubtaskRow_board hins).2]
      simp
    · rwa [Bool.not_eq_false] at hfound
  rw [(updateSubtask_board hreopen fun _ => rfl).2]
  simpa [modify_apply] using hsome

/-- An abandoned cleanup subtask is opened again. -/
theorem ensureCleanupSubtask_reopened {id : SubtaskId} {metaTaskId : MetaTaskId}
    {title : SubtaskTitle} {lane : RoutingKey}
    (h : ensureCleanupSubtask id metaTaskId title lane now s = (.ok u, s')) :
    ∀ r, s'.board.subtask id = some r → r.kind = .cleanup → r.state ≠ .abandoned := by
  simp only [ensureCleanupSubtask, Tx.bind_ok, subtaskExists_ok, Tx.pure_ok, and_assoc,
    exists_and_left, exists_eq_left', Tx.exists_unit] at h
  obtain ⟨s₁, -, _, _, hreopen, -, rfl⟩ := h
  intro r hr hkind
  rw [(updateSubtask_board hreopen fun _ => rfl).2] at hr
  obtain ⟨r₀, -, rfl⟩ := modify_eq_some.mp hr
  simp only [if_true] at hkind ⊢
  split_ifs at hkind ⊢ with hcond
  · intro hstate
    cases hstate
  · exact fun hstate => hcond ⟨hkind, hstate⟩

/-- The `UNIQUE` index of `claims`. -/
theorem Db.held_unique {k k' : ClaimId} {a c : ClaimRow} (ha : s.board.claim k = some a)
    (hc : s.board.claim k' = some c) (hsub : a.subtaskId = c.subtaskId) (hah : a.state = .held)
    (hch : c.state = .held) : k = k' := by
  have heq := Table.eq_of_clash s.claims (Table.mem_of_get? ha) (Table.mem_of_get? hc)
    (by simp [claimSchema, hsub, hah, hch]) (by simp [claimSchema, hsub, hah, hch])
  rw [← Table.key_of_get? ha, ← Table.key_of_get? hc, heq]

/-- The upsert of a cleanup claim puts a held claim in the table, on the subtask of the row it
    replaces. -/
theorem upsertCleanupClaim_board {claim : ClaimRow} (hheld : claim.state = .held)
    (h : upsertCleanupClaim claim s = (.ok u, s')) :
    ∃ c, s'.board = { s.board with claim := put s.board.claim claim.claimId c } ∧
      c.claimId = claim.claimId ∧ c.ownerSessionToken = claim.ownerSessionToken ∧
      c.fenceSeq = claim.fenceSeq ∧ c.leaseDeadline = claim.leaseDeadline ∧ c.state = .held ∧
      (s.board.claim claim.claimId = none ∧ c.subtaskId = claim.subtaskId ∨
        ∃ old, s.board.claim claim.claimId = some old ∧ c.subtaskId = old.subtaskId) ∧
      ∀ k row, s.board.claim k = some row → row.subtaskId = c.subtaskId → row.state = .held →
        k = c.claimId := by
  -- Whatever the upsert did, the new table still has at most one held claim on a subtask.
  have honly : ∀ c : ClaimRow, c.claimId = claim.claimId → c.state = .held →
      s'.board = { s.board with claim := put s.board.claim claim.claimId c } →
      ∀ k row, s.board.claim k = some row → row.subtaskId = c.subtaskId → row.state = .held →
        k = c.claimId := by
    intro c hkey hc hb k row hrow hsub hst
    by_cases hk : k = c.claimId
    · exact hk
    · have hrow' : s'.board.claim k = some row := by
        rw [hb]
        exact (put_of_ne (hkey ▸ hk)).trans hrow
      have hc' : s'.board.claim c.claimId = some c := by
        rw [hb, hkey]
        exact put_self
      exact Db.held_unique hrow' hc' hsub hst hc
  simp only [upsertCleanupClaim, Tx.bind_ok, Tx.get_ok, and_assoc, exists_and_left,
    exists_eq_left'] at h
  cases hfound : s.claims.get? claim.claimId with
  | none =>
    simp only [hfound] at h
    have hb := (insertClaim_board h).2
    exact ⟨claim, hb, rfl, rfl, rfl, rfl, hheld, .inl ⟨hfound, rfl⟩, honly claim rfl hheld hb⟩
  | some old =>
    simp only [hfound, Tx.bind_ok, Tx.ensure_ok, Tx.pure_ok, and_assoc, exists_and_left,
      exists_eq_left', Tx.exists_unit] at h
    obtain ⟨-, _, _, hupd, -, rfl⟩ := h
    have hb := updateIn_key_board (B := fun g => { s.board with claim := g }) (fun _ => rfl) hupd
      fun _ => rfl
    replace hfound : (Rel.claims.get s).get? claim.claimId = some old := hfound
    rw [modify_of_some hfound] at hb
    have hkey : old.claimId = claim.claimId := Table.key_of_get? hfound
    exact ⟨_, hb, hkey, rfl, rfl, rfl, hheld, .inr ⟨old, hfound, rfl⟩, honly _ hkey hheld hb⟩

theorem upsertCleanupClaimRow_board {row : CleanupClaimRow}
    (h : upsertCleanupClaimRow row s = (.ok u, s')) :
    ∃ row', row'.cleanupSubtaskId = row.cleanupSubtaskId ∧
      row'.cleanupClaimId = row.cleanupClaimId ∧
      s'.board = { s.board with cleanup := put s.board.cleanup row.openspecChangeId row' } := by
  simp only [upsertCleanupClaimRow, Tx.bind_ok, lookup_ok, and_assoc, exists_and_left,
    exists_eq_left'] at h
  cases hfound : s.cleanupClaims.get? row.openspecChangeId with
  | none =>
    simp only [Rel.cleanupClaims, hfound] at h
    exact ⟨row, rfl, rfl, (insertCleanup_board h).2⟩
  | some old =>
    simp only [Rel.cleanupClaims, hfound, Tx.bind_ok, Tx.pure_ok] at h
    obtain ⟨_, _, hupd, -, rfl⟩ := h
    have hb := updateIn_map_board (T := Rel.cleanupClaims)
      (B := fun g => { s.board with cleanup := g }) (fun _ => rfl) hupd fun r hr => hr.symm
    refine ⟨{ row with createdAt := old.createdAt }, rfl, rfl, ?_⟩
    have hkey {k r} (hr : s.cleanupClaims.get? k = some r) : r.openspecChangeId = k :=
      Table.key_of_get? hr
    have hput : (fun k => ((Rel.cleanupClaims.get s).get? k).map fun r =>
        if r.openspecChangeId = row.openspecChangeId then { row with createdAt := r.createdAt }
        else r) = put s.board.cleanup row.openspecChangeId { row with createdAt := old.createdAt } := by
      funext k
      by_cases hk : k = row.openspecChangeId
      · subst hk
        simp [Rel.cleanupClaims, hfound, hkey hfound]
      · rw [put_of_ne hk]
        show (s.cleanupClaims.get? k).map _ = s.cleanupClaims.get? k
        cases hr : s.cleanupClaims.get? k with
        | none => rfl
        | some r => simp [hkey hr, hk]
    rw [hb, hput]

/-- Beginning a cleanup of the change finds a claim id to use again: that of the claim the
    cleanup subtask is held under, the one recorded for the change, or one that was on the
    subtask before. -/
def FindsCleanupClaim (b : Board) (changeId : OpenSpecChangeId) (id : SubtaskId) (c : ClaimId) :
    Prop :=
  (∃ r row, b.subtask id = some r ∧ r.currentClaimId = some c ∧ b.claim c = some row ∧
    row.state = .held) ∨
  (∃ recorded, b.cleanup changeId = some recorded ∧ recorded.cleanupClaimId = c) ∨
  ∃ row, b.claim c = some row ∧ row.subtaskId = id

theorem reusableCleanupClaimId_finds {changeId : OpenSpecChangeId} {id : SubtaskId} {c : ClaimId}
    (h : reusableCleanupClaimId s changeId id = some c) : FindsCleanupClaim s.board changeId id c := by
  simp only [reusableCleanupClaimId, Option.or_eq_some_iff, Option.bind_eq_some_iff,
    Option.filter_eq_some_iff, Option.map_eq_some_iff] at h
  rcases h with (⟨r, hr, hcur, hheld⟩ | ⟨-, recorded, hrecorded, hc⟩) | ⟨-, row, hrow, rfl⟩
  · cases hclaim : s.claims.get? c with
    | none => simp [hclaim] at hheld
    | some row => exact .inl ⟨r, row, hr, hcur, hclaim, by simpa [hclaim] using hheld⟩
  · exact .inr (.inl ⟨recorded, hrecorded, hc⟩)
  · obtain ⟨hmem, hsub⟩ := Table.mem_select.mp
      ((List.mem_insertionSort _).mp (List.mem_of_mem_head? hrow))
    exact .inr (.inr ⟨row, Table.get?_key hmem, hsub⟩)

/-- What is found is a claim on the cleanup subtask. -/
theorem FindsCleanupClaim.claim {b : Board} {changeId : OpenSpecChangeId} {id : SubtaskId}
    {c : ClaimId} (h : FindsCleanupClaim b changeId id c) (ha : Anchored b.toLeases)
    (hid : id.val = cleanupSubtaskName changeId) :
    ∃ row, b.claim c = some row ∧ row.subtaskId = id := by
  rcases h with ⟨r, _, hr, hcur, -⟩ | ⟨recorded, hrec, rfl⟩ | hrow
  · exact ha.current hr hcur
  · obtain ⟨hname, row, hrow, hsub⟩ := ha.cleanup hrec
    exact ⟨row, hrow, hsub.trans (Text.ext (hname.trans hid.symm))⟩
  · exact hrow

/-- What was found on the later board was there before, if no subtask was claimed and no claim
    opened in between. -/
theorem FindsCleanupClaim.before {b b' : Board} {changeId : OpenSpecChangeId} {id : SubtaskId}
    {c : ClaimId}
    (hsub : ∀ r', b'.subtask id = some r' → r'.currentClaimId = some c →
      ∃ r, b.subtask id = some r ∧ r.currentClaimId = some c)
    (hclaim : ∀ row', b'.claim c = some row' → ∃ row, b.claim c = some row ∧
      row.subtaskId = row'.subtaskId ∧ (row'.state = .held → row.state = .held))
    (hcleanup : b'.cleanup = b.cleanup) (h : FindsCleanupClaim b' changeId id c) :
    FindsCleanupClaim b changeId id c := by
  rcases h with ⟨r', row', hr', hcur, hrow', hheld⟩ | hrecorded | ⟨row', hrow', hid⟩
  · obtain ⟨r, hr, hcur⟩ := hsub r' hr' hcur
    obtain ⟨row, hrow, -, hst⟩ := hclaim row' hrow'
    exact .inl ⟨r, row, hr, hcur, hrow, hst hheld⟩
  · rw [hcleanup] at hrecorded
    exact .inr (.inl hrecorded)
  · obtain ⟨row, hrow, hsame, -⟩ := hclaim row' hrow'
    exact .inr (.inr ⟨row, hrow, hsame.trans hid⟩)

/-- Beginning a cleanup of the change uses an existing claim row again. -/
def ReusesClaim (b : Board) (changeId : OpenSpecChangeId) : Prop :=
  ∃ id c, id.val = cleanupSubtaskName changeId ∧ FindsCleanupClaim b changeId id c ∧
    (b.claim c).isSome

/-- The recorded cleanup claim of the change is open, held and its lease runs. -/
def LiveCleanup (b : Board) (changeId : OpenSpecChangeId) (leaseNow : ℤ) : Prop :=
  ∃ row ∈ b.cleanup changeId, ∃ claim ∈ b.claim row.cleanupClaimId,
    row.archiveProofDigest = none ∧ claim.state = .held ∧ leaseNow < claim.leaseDeadline

theorem ensureCleanupSubtask_before {id : SubtaskId} {metaTaskId : MetaTaskId}
    {title : SubtaskTitle} {lane : RoutingKey}
    (h : ensureCleanupSubtask id metaTaskId title lane now s = (.ok u, s')) :
    s'.board = { s.board with subtask := s'.board.subtask } ∧
      ∀ r' c, s'.board.subtask id = some r' → r'.currentClaimId = some c →
        s.board.subtask id = some r' := by
  simp only [ensureCleanupSubtask, Tx.bind_ok, subtaskExists_ok, Tx.pure_ok, and_assoc,
    exists_and_left, exists_eq_left', Tx.exists_unit] at h
  obtain ⟨s₁, hinsert, _, s₂, hreopen, -, rfl⟩ := h
  have hb := (updateSubtask_board hreopen fun _ => rfl).2
  have hcur : ∀ r' c, s₂.board.subtask id = some r' → r'.currentClaimId = some c →
      s₁.board.subtask id = some r' := by
    intro r' c hr' hc
    rw [hb] at hr'
    obtain ⟨r, hr, rfl⟩ := modify_eq_some.mp hr'
    rw [if_pos rfl] at hc ⊢
    split_ifs at hc ⊢ with hq
    exact hr
  rcases Tx.whenever_ok.mp hinsert with ⟨-, hins⟩ | ⟨-, rfl⟩
  · obtain ⟨-, hb₁⟩ := insertSubtaskRow_board hins
    refine ⟨by rw [hb, hb₁], fun r' c hr' hc => ?_⟩
    have hr₁ := hcur r' c hr' hc
    rw [hb₁] at hr₁
    rcases put_eq_some.mp hr₁ with ⟨-, rfl⟩ | ⟨hne, -⟩
    · cases hc
    · exact absurd rfl hne
  · exact ⟨by rw [hb], hcur⟩

theorem ensureCleanupSubtask_uuids {id : SubtaskId} {metaTaskId : MetaTaskId}
    {title : SubtaskTitle} {lane : RoutingKey} :
    Tx.Keeps (Agree Db.uuids) (ensureCleanupSubtask id metaTaskId title lane now) :=
  .bind (.bind (agree_of_readOnly lookup_readOnly) fun _ => .pure _) fun _ =>
    .bind (.whenever fun _ => insertInto_agree (fun _ _ => rfl) _) fun _ =>
    .bind (updateIn_agree (fun _ _ => rfl) _ _) fun _ => .pure _

theorem issueFenceSeq_uuids {id : SubtaskId} : Tx.Keeps (Agree Db.uuids) (issueFenceSeq id) := by
  refine .bind (agree_of_readOnly lookup_readOnly) fun found => ?_
  cases found with
  | none => exact .bind (insertInto_agree (fun _ _ => rfl) _) fun _ => .pure _
  | some counter => exact .bind (updateIn_agree (fun _ _ => rfl) _ _) fun _ => .pure _

theorem reserveArchivePath_sameBoard {req : BeginOpenSpecArchiveCleanupReq} {id : SubtaskId}
    {deadline : ℤ} {path : RepoopsPath} :
    Tx.Keeps SameBoard (reserveArchivePath req id deadline now path) := by
  refine .bind freshId_sameBoard fun _ => .bind (insertInto_sameBoard (fun _ _ => rfl) _) fun _ => ?_
  split
  · exact .bind (sameBoard_of_readOnly cleanupMissing_readOnly) fun _ => appendSessionEvent_sameBoard
  · exact appendSessionEvent_sameBoard

/-- The id that a new cleanup claim would get is not in use. -/
def ClaimIdFresh (s : Db) : Prop :=
  ∀ id, makeId .claimId "claim" (s.uuids 0) = .ok id → s.board.claim id = none

theorem cleanupMetaTaskId_readOnly {changeId : OpenSpecChangeId} :
    (cleanupMetaTaskId changeId).ReadOnly := by
  unfold cleanupMetaTaskId
  split
  · exact .pure _
  · exact .fail _

/-- No claim has been made on the subtask. -/
def Unclaimed (b : Board) (id : SubtaskId) : Prop :=
  ∀ k row, b.claim k = some row → row.subtaskId ≠ id

theorem reusableCleanupClaimId_none {changeId : OpenSpecChangeId} {id : SubtaskId}
    (h : reusableCleanupClaimId s changeId id = none) : Unclaimed s.board id := by
  intro k row hrow hid
  simp only [reusableCleanupClaimId, Option.or_eq_none_iff, Option.map_eq_none_iff,
    List.head?_eq_none_iff] at h
  have hmem : row ∈ s.claims.select fun c => c.subtaskId = id :=
    Table.mem_select.mpr ⟨Table.mem_of_get? hrow, hid⟩
  have hnone := congrArg List.length h.2
  rw [List.length_insertionSort, List.length_nil, List.length_eq_zero_iff] at hnone
  rw [hnone] at hmem
  cases hmem

/-- The claim id of a cleanup is found on the board, or it is new and there is none to find. -/
theorem cleanupClaimId_ok {changeId : OpenSpecChangeId} {id : SubtaskId} {c : ClaimId}
    (h : cleanupClaimId changeId id s = (.ok c, s')) :
    s'.board = s.board ∧ (FindsCleanupClaim s.board changeId id c ∨
      makeId .claimId "claim" (s.uuids 0) = .ok c ∧ Unclaimed s.board id) := by
  simp only [cleanupClaimId, Tx.bind_ok, Tx.get_ok, and_assoc, exists_and_left,
    exists_eq_left'] at h
  cases hfound : reusableCleanupClaimId s changeId id with
  | some c' =>
    simp only [hfound, Tx.pure_ok] at h
    obtain ⟨rfl, rfl⟩ := h
    exact ⟨rfl, .inl (reusableCleanupClaimId_finds hfound)⟩
  | none =>
    simp only [hfound] at h
    exact ⟨freshId_sameBoard h, .inr ⟨(freshId_ok.mp h).1, reusableCleanupClaimId_none hfound⟩⟩

/-- What opening a cleanup claim `c` on the subtask `id` does to the board `b`, on which the
    subtask is there. -/
structure OpenedCleanup (b b' : Board) (req : BeginOpenSpecArchiveCleanupReq) (leaseNow now : ℤ)
    (id : SubtaskId) (c : ClaimRow) : Prop where
  named : id.val = cleanupSubtaskName req.openspecChangeId
  there : (b.subtask id).isSome
  owner : c.ownerSessionToken = req.sessionToken
  fence : c.fenceSeq = (b.fence id).getD 1
  deadline : c.leaseDeadline = addI64 leaseNow cleanupLeaseMs
  nonneg : 0 ≤ c.leaseDeadline
  held : c.state = .held
  reopened : ∀ r, b.subtask id = some r → r.kind = .cleanup → r.state ≠ .abandoned
  found : FindsCleanupClaim b req.openspecChangeId id c.claimId ∨ Unclaimed b id
  source : b.claim c.claimId = none ∧ c.subtaskId = id ∨
    ∃ old, b.claim c.claimId = some old ∧ c.subtaskId = old.subtaskId ∧
      FindsCleanupClaim b req.openspecChangeId id c.claimId
  only : ∀ k row, b.claim k = some row → row.subtaskId = c.subtaskId → row.state = .held →
    k = c.claimId
  board : ∃ row : CleanupClaimRow, row.cleanupSubtaskId = id ∧ row.cleanupClaimId = c.claimId ∧
    b' = { b with
      subtask := modify b.subtask id fun r =>
        if r.state = .available ∧ r.currentClaimId = none then
          { r with state := .inProgress, currentClaimId := some c.claimId, updatedAt := now }
        else r
      claim := put b.claim c.claimId c
      fence := put b.fence id (c.fenceSeq + 1)
      cleanup := put b.cleanup req.openspecChangeId row }

/-- A run that opens a cleanup claim makes sure of the subtask first. -/
theorem openCleanupClaim_run {req : BeginOpenSpecArchiveCleanupReq}
    {blockers : List OpenSpecArchiveStatusRow} {result : OpenSpecArchiveCleanupClaim}
    (hfresh : ClaimIdFresh s)
    (h : openCleanupClaim req blockers leaseNow now s = (.ok result, s')) :
    ∃ s₁ metaTaskId title lane c,
      ensureCleanupSubtask result.cleanupSubtaskId metaTaskId title lane now s = (.ok (), s₁) ∧
      OpenedCleanup s₁.board s'.board req leaseNow now result.cleanupSubtaskId c ∧
      result.cleanupClaimId = c.claimId ∧ result.fenceSeq = c.fenceSeq := by
  simp only [openCleanupClaim, Tx.bind_ok, loadMetaTask_ok, cleanupSubtaskId_ok, Tx.lift_ok,
    Tx.pure_ok, and_assoc, exists_and_left, exists_eq_left', Tx.exists_unit] at h
  obtain ⟨metaTaskId, s₀, hmeta, _, -, -, id, hid, title, -, lane, -, s₁, hensure, fence, s₂, hfence,
    claimId, s₃, hclaimId, deadline, hdeadline, s₄, hupsert, _, s₅, hsubtask, s₆, hreserve, s₇, hrow,
    s₈, hevent, rfl, rfl⟩ := h
  obtain rfl : s = s₀ := (cleanupMetaTaskId_readOnly.state hmeta).symm
  have hthere := ensureCleanupSubtask_isSome hensure
  obtain ⟨hb₁, -⟩ := ensureCleanupSubtask_before hensure
  obtain ⟨hseq, hb₂⟩ := issueFenceSeq_board hfence
  obtain ⟨hb₃, hsource⟩ := cleanupClaimId_ok hclaimId
  obtain ⟨c, hb₄, hkey, hown, hcfence, hcdeadline, hheld, hold, honly⟩ :=
    upsertCleanupClaim_board rfl hupsert
  have hb₅ := (updateSubtask_board hsubtask fun _ => rfl).2
  have hb₆ : s₆.board = s₅.board :=
    Tx.Keeps.forEach (fun _ _ => reserveArchivePath_sameBoard) hreserve
  obtain ⟨row, hrowSub, hrowClaim, hb₇⟩ := upsertCleanupClaimRow_board hrow
  have huuids : s₂.uuids = s.uuids :=
    Eq.trans (issueFenceSeq_uuids hfence) (ensureCleanupSubtask_uuids hensure)
  have hclaims : s₃.board.claim = s₁.board.claim := by rw [hb₃, hb₂]
  rw [hclaims] at hold honly
  rw [hb₂] at hsource
  obtain ⟨hnonneg, rfl⟩ := LeaseDeadlineMs.parse_ok.mp (typed_ok.mp hdeadline)
  refine ⟨s₁, metaTaskId, title, lane, c, hensure, ⟨hid, hthere, hown, hcfence.trans hseq, hcdeadline,
    hcdeadline ▸ hnonneg, hheld, ensureCleanupSubtask_reopened hensure, ?_, ?_, honly, row, hrowSub,
    hrowClaim.trans hkey.symm, ?_⟩, hkey.symm, hcfence.symm⟩
  · rw [hkey]
    exact hsource.imp_right And.right
  · rw [hkey]
    rcases hold with hnone | ⟨old, hold, hsub⟩
    · exact .inl hnone
    · refine .inr ⟨old, hold, hsub, ?_⟩
      rcases hsource with hfinds | ⟨hnew, -⟩
      · exact hfinds
      · -- A new id is not in use, so there was no row to replace.
        rw [huuids] at hnew
        have hunused := hfresh claimId hnew
        rw [hb₁] at hold
        cases hunused.symm.trans hold
  · rw [appendSessionEvent_sameBoard hevent, hb₇, hb₆, hb₅, hb₄, hb₃, hb₂, hkey, hcfence]

theorem openCleanupClaim_moves {req : BeginOpenSpecArchiveCleanupReq}
    {blockers : List OpenSpecArchiveStatusRow} {result : OpenSpecArchiveCleanupClaim}
    {σ : SessionRow} (hL : .cleanup ∈ L)
    (hreuse : ReusesClaim s.board req.openspecChangeId → .reuse ∈ L) (hfresh : ClaimIdFresh s)
    (hσ : s.board.session req.sessionToken = some σ) (hrole : σ.role = .orchestrator)
    (h : openCleanupClaim req blockers leaseNow now s = (.ok result, s')) : Moves L now s s' := by
  obtain ⟨s₁, metaTaskId, title, lane, c, hensure, hopen, -⟩ := openCleanupClaim_run hfresh h
  obtain ⟨hb₁, hcur⟩ := ensureCleanupSubtask_before hensure
  obtain ⟨row, hrowSub, hrowClaim, hb⟩ := hopen.board
  have hensure : Moves L now s s₁ := ensureCleanupSubtask_moves hL ⟨_, hopen.named⟩ hensure
  have hσ₁ : s₁.board.session c.ownerSessionToken = some σ := by
    rw [hopen.owner, hb₁]
    exact hσ
  refine hensure.trans ?_
  rcases hopen.source with hnew | ⟨old, hold, hsub, hfinds⟩
  · exact Steps.lease_eq hL (.openCleanup hopen.named hσ₁ hrole hopen.held hopen.fence hopen.only
      (.inl ⟨rfl, hnew⟩) hopen.there hrowSub hrowClaim hopen.reopened) hb
  · have hw : .reuse ∈ L := by
      refine hreuse ⟨_, c.claimId, hopen.named, hfinds.before ?_ ?_ ?_, ?_⟩
      · exact fun r' hr' hc => ⟨r', hcur r' _ hr' hc, hc⟩
      · intro row' hrow'
        rw [hb₁] at hrow'
        exact ⟨row', hrow', rfl, id⟩
      · rw [hb₁]
      · rw [hb₁] at hold
        exact Option.isSome_of_eq_some hold
    refine Steps.lease_eq hw (.openCleanup hopen.named hσ₁ hrole hopen.held hopen.fence hopen.only
      (.inr ⟨rfl, old, hold, hsub, ?_⟩) hopen.there hrowSub hrowClaim hopen.reopened) hb
    rcases hfinds with ⟨r, _, hr, hc, -⟩ | hrecorded | ⟨row', hrow', hid⟩
    · exact .inl ⟨r, hr, hc⟩
    · exact .inr (.inl hrecorded)
    · obtain rfl : old = row' := Option.some.inj (hold.symm.trans hrow')
      exact .inr (.inr hid)

theorem retireStaleCleanupClaim_uuids {changeId : OpenSpecChangeId} :
    Tx.Keeps (Agree Db.uuids) (retireStaleCleanupClaim changeId leaseNow now) := by
  refine .bind .get fun s => ?_
  dsimp only
  split
  · exact .pure _
  · exact .whenever fun _ => .bind (updateIn_agree (fun _ _ => rfl) _ _) fun _ =>
      .bind (updateIn_agree (fun _ _ => rfl) _ _) fun _ =>
      .bind (updateIn_agree (fun _ _ => rfl) _ _) fun _ => .pure _

/-- Retiring a stale cleanup claim closes claims and lets go of subtasks, and nothing else. -/
theorem retireStaleCleanupClaim_before {changeId : OpenSpecChangeId}
    (h : retireStaleCleanupClaim changeId leaseNow now s = (.ok u, s')) :
    (∀ id r' c, s'.board.subtask id = some r' → r'.currentClaimId = some c →
      s.board.subtask id = some r') ∧
    (∀ c, Option.Rel (fun row row' : ClaimRow => row.Continues row' ∧
      (row'.state = .held → row' = row)) (s.board.claim c) (s'.board.claim c)) ∧
    s'.board = { s.board with subtask := s'.board.subtask, claim := s'.board.claim } := by
  have hself (o : Option ClaimRow) : Option.Rel (fun row row' : ClaimRow =>
      row.Continues row' ∧ (row'.state = .held → row' = row)) o o :=
    rel_refl (fun r => ⟨.refl r, fun _ => rfl⟩) o
  simp only [retireStaleCleanupClaim, Tx.bind_ok, Tx.get_ok, and_assoc, exists_and_left,
    exists_eq_left'] at h
  cases hrow : s.cleanupClaims.get? changeId with
  | none =>
    simp only [hrow, Tx.pure_ok] at h
    obtain ⟨-, rfl⟩ := h
    exact ⟨fun _ _ _ h _ => h, fun c => hself _, rfl⟩
  | some row =>
    simp only [hrow] at h
    rcases Tx.whenever_ok.mp h with ⟨-, h⟩ | ⟨-, rfl⟩
    · simp only [endCleanupClaim, releaseActiveReservationsForSubtask, Tx.bind_ok, Tx.pure_ok] at h
      obtain ⟨_, s₁, hclaim, _, s₂, hsubtask, _, s₃, hreserve, -, rfl⟩ := h
      have hb₁ := (updateClaim_board hclaim fun _ => rfl).2
      have hb₂ := (updateSubtask_board hsubtask fun _ => rfl).2
      have hb₃ : s₃.board = s₂.board := updateIn_sameBoard (fun _ _ => rfl) _ _ hreserve
      rw [hb₃, hb₂, hb₁]
      refine ⟨fun id r' c hr' hc => ?_, fun c => ?_, rfl⟩
      · obtain ⟨r, hr, rfl⟩ := modify_eq_some.mp hr'
        split_ifs at hc ⊢ <;> first | exact hr | simp at hc
      · refine rel_modify (fun r => ⟨.refl r, fun _ => rfl⟩) (fun r _ => ?_) c
        split_ifs with hheld
        · exact ⟨⟨rfl, rfl, rfl, fun h => absurd hheld h⟩, fun h => by cases h⟩
        · exact ⟨.refl r, fun _ => rfl⟩
    · exact ⟨fun _ _ _ h _ => h, fun c => hself _, rfl⟩

theorem archiveEligibilityForChange_readOnly {changeId : OpenSpecChangeId} :
    (archiveEligibilityForChange changeId).ReadOnly :=
  .bind .get fun _ => .bind (.mapEach (fun _ => .lift _) _) fun _ =>
    .bind (.bind selectFrom_readOnly fun _ => .pure _) fun _ => .pure _

theorem loadCleanupClaimForChange_readOnly {changeId : OpenSpecChangeId}
    {blockers : List OpenSpecArchiveStatusRow} :
    (loadCleanupClaimForChange changeId blockers leaseNow).ReadOnly := by
  refine .bind .get fun s => ?_
  split
  · exact .pure _
  · split
    · exact .pure _
    · split_ifs
      · exact .bind (.mapEach (fun _ => .lift _) _) fun _ => .pure _
      · exact .pure _

/-- A live cleanup claim is found. -/
theorem loadCleanupClaimForChange_none {changeId : OpenSpecChangeId}
    {blockers : List OpenSpecArchiveStatusRow}
    (h : loadCleanupClaimForChange changeId blockers leaseNow s = (.ok none, s')) :
    ¬LiveCleanup s.board changeId leaseNow := by
  rintro ⟨row, hrow, claim, hclaim, hlive⟩
  have hrow : s.cleanupClaims.get? changeId = some row := hrow
  have hclaim : s.claims.get? row.cleanupClaimId = some claim := hclaim
  simp only [loadCleanupClaimForChange, Tx.bind_ok, Tx.get_ok, and_assoc, exists_and_left,
    exists_eq_left', hrow, hclaim, if_pos hlive, Tx.pure_ok] at h
  obtain ⟨_, _, -, hne, -⟩ := h
  cases hne

/-- A live cleanup claim is what `loadCleanupClaimForChange` returns. -/
theorem loadCleanupClaimForChange_some {changeId : OpenSpecChangeId}
    {blockers : List OpenSpecArchiveStatusRow} {claim : OpenSpecArchiveCleanupClaim}
    (h : loadCleanupClaimForChange changeId blockers leaseNow s = (.ok (some claim), s')) :
    ∃ row c, s.board.cleanup changeId = some row ∧ s.board.claim row.cleanupClaimId = some c ∧
      row.archiveProofDigest = none ∧ c.state = .held ∧ leaseNow < c.leaseDeadline ∧
      claim.cleanupClaimId = row.cleanupClaimId ∧ claim.cleanupSubtaskId = row.cleanupSubtaskId ∧
      claim.fenceSeq = c.fenceSeq := by
  simp only [loadCleanupClaimForChange, Tx.bind_ok, Tx.get_ok, and_assoc, exists_and_left,
    exists_eq_left'] at h
  cases hrow : s.cleanupClaims.get? changeId with
  | none => simp [hrow] at h
  | some row =>
    cases hclaim : s.claims.get? row.cleanupClaimId with
    | none => simp [hrow, hclaim] at h
    | some c =>
      simp only [hrow, hclaim] at h
      split_ifs at h with hlive
      · simp only [Tx.bind_ok, Tx.pure_ok] at h
        obtain ⟨paths, _, -, hresult, -⟩ := h
        obtain rfl := Option.some.inj hresult
        exact ⟨row, c, hrow, hclaim, hlive.1, hlive.2.1, hlive.2.2, rfl, rfl, rfl⟩
      · simp at h

/-- A run of `begin_openspec_archive_cleanup`: a replay, the return of the live claim of the
    change, or the opening of a claim after a stale one is retired. -/
inductive BegunCleanup (req : BeginOpenSpecArchiveCleanupReq) (leaseNow now : ℤ) (s s' : Db)
    (v : Response) : Prop
  | replayed (recorded : Recorded s req.sessionToken.val "begin_openspec_archive_cleanup"
      req.idempotencyKey (.beginOpenSpecArchiveCleanup req) v) (same : s'.board = s.board)
  | returned {claim : OpenSpecArchiveCleanupClaim} {blockers : List OpenSpecArchiveStatusRow}
      {s₀ : Db} (board : s₀.board = s.board)
      (loaded : loadCleanupClaimForChange req.openspecChangeId blockers leaseNow s₀ =
        (.ok (some claim), s₀))
      (response : v = .cleanupClaim claim) (same : s'.board = s.board)
  | opened {σ : SessionRow} {claim : OpenSpecArchiveCleanupClaim}
      {blockers : List OpenSpecArchiveStatusRow} {s₀ s₁ s₂ : Db} (board : s₀.board = s.board)
      (uuids : s₀.uuids = s.uuids) (session : s.board.session req.sessionToken = some σ)
      (role : σ.role = .orchestrator)
      (dead : ¬LiveCleanup s.board req.openspecChangeId leaseNow)
      (retire : retireStaleCleanupClaim req.openspecChangeId leaseNow now s₀ = (.ok (), s₁))
      (opened : openCleanupClaim req blockers leaseNow now s₁ = (.ok claim, s₂))
      (response : v = .cleanupClaim claim) (same : s'.board = s₂.board)

theorem beginOpenSpecArchiveCleanup_run {req : BeginOpenSpecArchiveCleanupReq}
    (h : beginOpenSpecArchiveCleanup req now s = (.ok v, s')) :
    BegunCleanup req (max s.leaseClock (max now 0)) now s s' v := by
  obtain ⟨leaseNow, rfl, ⟨hrec, hb⟩ | ⟨s₀, s₁, hs₀, h, hb⟩⟩ := leasedMutation_run h
  · exact .replayed hrec hb
  have hb₀ : s₀.board = s.board := by rw [hs₀]; rfl
  have huuids : s₀.uuids = s.uuids := by rw [hs₀]
  simp only [Tx.bind_ok, requireRole_ok, and_assoc, exists_and_left, exists_eq_left',
    Tx.exists_unit] at h
  obtain ⟨σ, hσ, -, -, hrole, eligibility, s₂, helig, s₃, hsafe, existing, s₄, hload, h⟩ := h
  obtain rfl : s₀ = s₂ := (archiveEligibilityForChange_readOnly.state helig).symm
  obtain ⟨-, rfl⟩ : eligibility.safeToArchive ∧ s₀ = s₃ := by
    rcases Tx.whenever_ok.mp hsafe with ⟨-, h⟩ | ⟨hsafe', hs⟩
    · simp at h
    · exact ⟨not_not.mp hsafe', hs⟩
  obtain rfl : s₀ = s₄ := (loadCleanupClaimForChange_readOnly.state hload).symm
  have hσ : s.board.session req.sessionToken = some σ := by
    rw [← hb₀]
    exact hσ
  cases existing with
  | some claim =>
    obtain ⟨rfl, rfl⟩ := Tx.pure_ok.mp h
    exact .returned hb₀ hload rfl (hb.trans hb₀)
  | none =>
    simp only [Tx.bind_ok, Tx.pure_ok, Tx.exists_unit] at h
    obtain ⟨s₅, hretire, claim, _, hopen, rfl, rfl⟩ := h
    have hdead := loadCleanupClaimForChange_none hload
    rw [hb₀] at hdead
    exact .opened hb₀ huuids hσ (List.mem_singleton.mp hrole) hdead hretire hopen rfl hb

/-- A new claim id is still new after a stale claim was retired. -/
theorem ClaimIdFresh.retire {changeId : OpenSpecChangeId} (hfresh : ClaimIdFresh s)
    (h : retireStaleCleanupClaim changeId leaseNow now s = (.ok u, s')) : ClaimIdFresh s' := by
  intro id hid
  have huuids : s'.uuids = s.uuids := retireStaleCleanupClaim_uuids h
  rw [huuids] at hid
  exact rel_of_none ((retireStaleCleanupClaim_before h).2.1 id) (hfresh id hid)

theorem beginOpenSpecArchiveCleanup_moves {req : BeginOpenSpecArchiveCleanupReq} (hL : .cleanup ∈ L)
    (hreuse : ReusesClaim s.board req.openspecChangeId →
      ¬LiveCleanup s.board req.openspecChangeId (max s.leaseClock (max now 0)) → .reuse ∈ L)
    (hfresh : ClaimIdFresh s) (h : beginOpenSpecArchiveCleanup req now s = (.ok v, s')) :
    Moves L now s s' := by
  cases beginOpenSpecArchiveCleanup_run h with
  | replayed _ same => exact SameBoard.moves same
  | returned _ _ _ same => exact SameBoard.moves same
  | @opened σ claim blockers s₀ s₁ s₂ board uuids session role dead retire opened _ same =>
    obtain ⟨hsub, hclaim, hb₁⟩ := retireStaleCleanupClaim_before retire
    have hfresh₀ : ClaimIdFresh s₀ := by
      intro id hid
      rw [uuids] at hid
      rw [board]
      exact hfresh id hid
    have hσ₁ : s₁.board.session req.sessionToken = some σ := by
      rw [hb₁, board]
      exact session
    rw [Moves, same, ← board]
    refine (retireStaleCleanupClaim_moves hL retire).trans (openCleanupClaim_moves hL
      (fun hfinds => hreuse ?_ dead) (hfresh₀.retire retire) hσ₁ role opened)
    obtain ⟨id, c, hid, hfinds, hsome⟩ := hfinds
    rw [← board]
    refine ⟨id, c, hid, hfinds.before (fun r' hr' hc => ⟨r', hsub id r' c hr' hc, hc⟩) ?_ ?_, ?_⟩
    · intro row' hrow'
      obtain ⟨row, hrow, hsame, hheld⟩ := rel_of_some' (hclaim c) hrow'
      exact ⟨row, hrow, hsame.subtask.symm, fun h => hheld h ▸ h⟩
    · rw [hb₁]
    · obtain ⟨row', hrow'⟩ := Option.isSome_iff_exists.mp hsome
      obtain ⟨row, hrow, -⟩ := rel_of_some' (hclaim c) hrow'
      exact Option.isSome_of_eq_some hrow

/-! ## Finishing a cleanup -/

theorem loadOpenArchiveBlockers_readOnly {changeId : OpenSpecChangeId} :
    (loadOpenArchiveBlockers changeId).ReadOnly :=
  .bind selectFrom_readOnly fun _ => .pure _

theorem archivedCleanupFinish_sameBoard {req : FinishOpenSpecArchiveCleanupReq}
    {row : CleanupClaimRow} : Tx.Keeps SameBoard (archivedCleanupFinish req row now) :=
  .bind (.whenever fun _ => sameBoard_of_readOnly cleanupMissing_readOnly) fun _ =>
    .bind (sameBoard_of_readOnly selectFrom_readOnly) fun _ =>
    .bind (.bind (updateIn_sameBoard (fun _ _ => rfl) _ _) fun _ => .pure _) fun _ => .pure _

theorem archiveBlocker_sameBoard {req : FinishOpenSpecArchiveCleanupReq}
    {blocker : OpenSpecArchiveStatusRow} : Tx.Keeps SameBoard (archiveBlocker req now blocker) :=
  .bind (.lift _) fun _ => .bind updateOpenSpecArchiveStatus_sameBoard fun _ =>
    .bind markApplyWorktreesForQueue_sameBoard fun _ => appendSessionEvent_sameBoard

theorem finishOpenSpecArchiveCleanup_moves {req : FinishOpenSpecArchiveCleanupReq}
    (hL : .cleanup ∈ L) (h : finishOpenSpecArchiveCleanup req now s = (.ok v, s')) :
    Moves L now s s' := by
  refine mutation_moves (fun {v s₁} h => ?_) h
  simp only [Tx.bind_ok, requireRole_ok, Tx.get_ok, and_assoc, exists_and_left,
    exists_eq_left'] at h
  obtain ⟨_, -, -, -, -, h⟩ := h
  cases hfound : (s.cleanupClaims.get? req.openspecChangeId).filter
      (fun row => row.cleanupClaimId = req.cleanupClaimId) with
  | none => simp [hfound] at h
  | some row =>
    have hrow : s.board.cleanup req.openspecChangeId = some row :=
      (Option.filter_eq_some_iff.mp hfound).1
    simp only [hfound, Tx.bind_ok, requireCurrentClaim_ok, and_assoc, exists_and_left,
      exists_eq_left'] at h
    obtain ⟨-, _, -, -, -, -, -, -, blockers, s₂, hload, h⟩ := h
    obtain rfl : s = s₂ := (loadOpenArchiveBlockers_readOnly.state hload).symm
    split_ifs at h
    · simp only [Tx.bind_ok, Tx.pure_ok] at h
      obtain ⟨_, _, hfinish, -, rfl⟩ := h
      exact (archivedCleanupFinish_sameBoard hfinish).moves
    · simp only [Tx.bind_ok, Tx.lift_ok, Tx.pure_ok, and_assoc, exists_and_left, exists_eq_left',
        Tx.exists_unit] at h
      obtain ⟨s₃, hblockers, n, s₄, hmark, s₅, hend, _, -, _, hevent, -, rfl⟩ := h
      have hb₃ : s₃.board = s.board :=
        Tx.Keeps.forEach (fun _ _ => archiveBlocker_sameBoard) hblockers
      have hb₄ := updateIn_map_board (B := fun g => { s₃.board with cleanup := g }) (fun _ => rfl)
        hmark fun _ _ => rfl
      have hmark : Moves L now s₃ s₄ := by
        rw [Moves, hb₄]
        refine Steps.lease hL (.markCleanup fun k => rel_map fun r _ => ?_)
        split_ifs <;> exact ⟨rfl, rfl⟩
      obtain ⟨row', hrow', hsame⟩ : ∃ row', s₄.board.cleanup req.openspecChangeId = some row' ∧
          row.SameClaim row' := by
        rw [← hb₃] at hrow
        rw [hb₄]
        refine ⟨_, Option.map_eq_some_iff.mpr ⟨row, hrow, rfl⟩, ?_⟩
        split_ifs <;> exact ⟨rfl, rfl⟩
      refine (SameBoard.moves hb₃).trans (hmark.trans ?_)
      exact Steps.trans (endCleanupClaim_moves hL hrow' hsame (by decide) (.inr rfl) hend)
        (appendSessionEvent_sameBoard hevent).moves

end Covey

import Covey.Cleanups
import Covey.Runs.Claims
import Covey.Refine.Claims
import Covey.Runs.Prerequisites
import Covey.Script

/-!
# Archive cleanups along runs

An orchestrator archives a change under a claim on the change's cleanup subtask.

* `cleanup_granted_iff`: the claim that `begin_openspec_archive_cleanup` returns is the
  caller's, and nobody else loses one, exactly if no other session holds the cleanup
  subtask under a lease that runs.
-/

namespace Covey

open Relational

/-! ## Invariants -/

/-- What holds of claims and cleanup subtasks after every run of proper calls. -/
structure Kept (l : Leases) : Prop extends Coherent l where
  currentHeld : CurrentHeld l
  tended : Tended l

section Runs

variable {env : Env} {s s' : Db} {c : Call} {calls : List Call} {now leaseNow : ℤ} {w : Write}
  {b b' : Board}

theorem Kept.move (m : Move now w b b') (hw : w ≠ .misname) (h : Kept b.toLeases) :
    Kept b'.toLeases where
  toCoherent := h.toCoherent.move m hw
  currentHeld := h.currentHeld.move m h.anchored
  tended := h.tended.move m h.anchored h.currentHeld fun _ _ => h.linked.subtask

theorem next_kept (hc : c.Proper s) (h : Kept s.board.toLeases) :
    Kept (next env s c).board.toLeases :=
  hc.invariant (I := fun b => Kept b.toLeases) h.anchored (fun hw m h => h.move m hw) h

theorem reach_kept (hrun : Run.Along (next env) Call.Proper Db.init calls) :
    Kept (reach env calls).board.toLeases :=
  Run.invariant (I := fun s : Db => Kept s.board.toLeases) (fun _ _ => next_kept) hrun
    { init_coherent with
      currentHeld := fun _ _ _ h => nomatch h
      tended :=
        { row := fun h => nomatch h
          current := fun h => nomatch h } }

/-- A claim held on a reserved id is the current claim of a cleanup subtask. -/
theorem Kept.reserved {l : Leases} (h : Kept l) {k : ClaimId} {id : SubtaskId}
    (hid : ReservedId id) (hheld : HeldOn l k id) :
    ∃ r, l.subtask id = some r ∧ r.kind = .cleanup ∧ r.currentClaimId = some k := by
  have hclaim := hheld
  obtain ⟨row, hrow, hsub, -⟩ := hclaim
  have hsome := h.linked.subtask hrow
  rw [hsub] at hsome
  obtain ⟨r, hr⟩ := Option.isSome_iff_exists.mp hsome
  have hkind := h.named hr hid
  exact ⟨r, hr, hkind, h.tended.current hr hkind hheld⟩

theorem mem_loadOpenArchiveBlockers {changeId : OpenSpecChangeId}
    {blockers : List OpenSpecArchiveStatusRow} {r : OpenSpecArchiveStatusRow}
    (h : loadOpenArchiveBlockers changeId s = (.ok blockers, s')) :
    r ∈ blockers ↔ r ∈ s.openSpecArchiveStatus.rows ∧ r.openspecChangeId = changeId ∧
      r.state = .blocked := by
  simp only [loadOpenArchiveBlockers, Tx.bind_ok, selectFrom_ok, Tx.pure_ok, and_assoc,
    exists_and_left, exists_eq_left'] at h
  obtain ⟨rfl, -⟩ := h
  rw [List.mem_insertionSort]
  exact Table.mem_select

/-! ## Beginning a cleanup -/

/-- The refusal is about the owner, the fence, the state or the lease of the claim. -/
def CoveyError.RefusesClaim : CoveyError → Prop
  | .notClaimOwner _ _ | .staleFenceToken _ _ | .claimNotHeld _ _ | .leaseExpired _ => True
  | _ => False

/-- The session `o` holds the returned claim on the cleanup subtask of the change, and until its
    deadline the claim and its fence are accepted when the cleanup is finished. -/
structure CleanupGranted (s : Db) (o : SessionToken) (changeId : OpenSpecChangeId) (leaseNow : ℤ)
    (result : OpenSpecArchiveCleanupClaim) : Prop where
  named : result.cleanupSubtaskId.val = cleanupSubtaskName changeId
  subtask : ∃ r, s.subtasks.get? result.cleanupSubtaskId = some r ∧ r.kind = .cleanup ∧
    r.currentClaimId = some result.cleanupClaimId
  claim : ∃ row, s.claims.get? result.cleanupClaimId = some row ∧
    row.subtaskId = result.cleanupSubtaskId ∧ row.state = .held ∧ row.ownerSessionToken = o ∧
    row.fenceSeq = result.fenceSeq ∧ leaseNow < row.leaseDeadline ∧
    ∀ (req : FinishOpenSpecArchiveCleanupReq) (now : ℤ), req.sessionToken = o →
      req.openspecChangeId = changeId → req.cleanupClaimId = result.cleanupClaimId →
      req.fenceSeq.val = result.fenceSeq → now < row.leaseDeadline →
      ∀ e s', finishOpenSpecArchiveCleanup req now s = (.error e, s') → ¬e.RefusesClaim

/-- The claims that other active sessions hold under a lease that runs are still theirs. -/
def Undisturbed (b b' : Board) (o : SessionToken) (leaseNow : ℤ) : Prop :=
  ∀ k row, b.claim k = some row → row.state = .held → leaseNow < row.leaseDeadline →
    row.ownerSessionToken ≠ o →
    (∃ σ, b.session row.ownerSessionToken = some σ ∧ σ.state = .active) →
    ∃ row', b'.claim k = some row' ∧ row'.ownerSessionToken = row.ownerSessionToken ∧
      row'.state = .held

/-- The cleanup subtask of the change is held by a session other than `o` under a lease that runs,
    and the claim is the one on record for the change or that session is active. -/
def CleanupTaken (b : Board) (o : SessionToken) (changeId : OpenSpecChangeId) (leaseNow : ℤ) :
    Prop :=
  ∃ id r k row, id.val = cleanupSubtaskName changeId ∧ b.subtask id = some r ∧
    r.currentClaimId = some k ∧ b.claim k = some row ∧ row.state = .held ∧
    leaseNow < row.leaseDeadline ∧ row.ownerSessionToken ≠ o ∧
    (LiveCleanup b changeId leaseNow ∨
      ∃ σ, b.session row.ownerSessionToken = some σ ∧ σ.state = .active)

/-! ### What a finish is refused for -/

/-- The error says nothing against the claim. -/
def CoveyError.SparesClaim (e : CoveyError) : Prop := ¬e.RefusesClaim

theorem typed_spares {α : Type} {x : Except TypeValidationError α} {e : CoveyError}
    (h : typed x = .error e) : e.SparesClaim := by
  cases x with
  | ok a => cases h
  | error e' =>
    cases h
    exact id

theorem SessionRow.load_spares {r : SessionRow} {e : CoveyError} (h : r.load = .error e) :
    e.SparesClaim := by
  unfold SessionRow.load at h
  split_ifs at h <;> cases h <;> exact id

theorem ClaimRow.load_spares {r : ClaimRow} {e : CoveyError} (h : r.load = .error e) :
    e.SparesClaim := by
  unfold ClaimRow.load at h
  split_ifs at h
  cases h
  exact id

section Spares

variable {κ ρ : Type} [DecidableEq κ] {S : Schema κ ρ} {T : Tx.Field Db S}

theorem updateIn_spares {p : ρ → Prop} [DecidablePred p] {f : ρ → ρ} :
    Tx.Raises CoveyError.SparesClaim (updateIn T p f) :=
  .update id T p f

theorem load_spares {typedRow : ρ → Except CoveyError ρ} {notFound : CoveyError} {k : κ}
    (hrow : ∀ {r e}, typedRow r = .error e → e.SparesClaim) (hnone : notFound.SparesClaim) :
    Tx.Raises CoveyError.SparesClaim (load T typedRow notFound k) := by
  refine .bind (.bind .get fun _ => .pure _) fun found => ?_
  cases found with
  | none => exact .fail hnone
  | some r => exact .lift fun _ => hrow

end Spares

theorem requireActiveSession_spares {k : SessionToken} :
    Tx.Raises CoveyError.SparesClaim (requireActiveSession k) :=
  .bind (load_spares SessionRow.load_spares id) fun _ => .bind (.ensure id) fun _ => .pure _

theorem requireRole_spares {k : SessionToken} {expected : List SessionRole} :
    Tx.Raises CoveyError.SparesClaim (requireRole k expected) :=
  .bind requireActiveSession_spares fun _ => .bind (.ensure id) fun _ => .pure _

theorem cleanupMissing_spares {α : Type} {reason : String} :
    Tx.Raises CoveyError.SparesClaim (cleanupMissing reason : Txn α) :=
  .bind (.lift fun _ => typed_spares) fun _ => .fail id

theorem appendSessionEvent_spares {eventType : EventType} {objectType : ObjectType}
    {objectId : String} {actor : SessionToken} :
    Tx.Raises CoveyError.SparesClaim
      (appendSessionEvent eventType objectType objectId actor now) := by
  refine .bind (.lift fun _ => typed_spares) fun _ => ?_
  split
  · exact .fail id
  · exact .modify _

theorem releaseActiveReservationsForSubtask_spares {id : SubtaskId} :
    Tx.Raises CoveyError.SparesClaim (releaseActiveReservationsForSubtask id now) :=
  .bind updateIn_spares fun _ => .pure _

theorem archivedCleanupFinish_spares {req : FinishOpenSpecArchiveCleanupReq}
    {row : CleanupClaimRow} :
    Tx.Raises CoveyError.SparesClaim (archivedCleanupFinish req row now) :=
  .bind (.whenever cleanupMissing_spares) fun _ => .bind (.bind .get fun _ => .pure _) fun _ =>
    .bind releaseActiveReservationsForSubtask_spares fun _ => .pure _

theorem archiveBlocker_spares {req : FinishOpenSpecArchiveCleanupReq}
    {blocker : OpenSpecArchiveStatusRow} :
    Tx.Raises CoveyError.SparesClaim (archiveBlocker req now blocker) :=
  .bind (.lift fun _ => typed_spares) fun _ =>
    .bind (.bind updateIn_spares fun _ => .ensure id) fun _ =>
    .bind (.forEach (fun _ => .bind updateIn_spares fun _ => .pure _) _) fun _ =>
      appendSessionEvent_spares

theorem endCleanupClaim_spares {row : CleanupClaimRow} {claimState : ClaimState}
    {subtaskState : SubtaskState} :
    Tx.Raises CoveyError.SparesClaim (endCleanupClaim row claimState subtaskState now) :=
  .bind updateIn_spares fun _ => .bind updateIn_spares fun _ =>
    releaseActiveReservationsForSubtask_spares

/-- A live claim is not refused. -/
theorem requireCurrentClaim_spares {k : SessionToken} {id : ClaimId} {n : FenceSeq} {row : ClaimRow}
    (hrow : s.claims.get? id = some row) (howner : row.ownerSessionToken = k)
    (hfence : row.fenceSeq = n.val) (hheld : row.state = .held) (hlive : now < row.leaseDeadline)
    {e : CoveyError} (h : requireCurrentClaim k id n now s = (.error e, s')) : e.SparesClaim := by
  rcases Tx.bind_error.mp h with h | ⟨session, s₁, hactive, h⟩
  · exact requireActiveSession_spares h
  obtain ⟨⟨hsession, -⟩, rfl⟩ := requireActiveSession_ok.mp hactive
  have hkey : session.sessionToken = k := Table.key_of_get? hsession
  rcases Tx.bind_error.mp h with h | ⟨claim, s₂, hload, h⟩
  · exact load_spares ClaimRow.load_spares (by exact fun h => h) h
  obtain ⟨⟨hclaim, -⟩, rfl⟩ := loadClaim_ok.mp hload
  obtain rfl : row = claim := Option.some.inj (hrow.symm.trans hclaim)
  -- Each of the four checks passes, so the rest returns the claim.
  simp only [Tx.ensure, howner, hkey, hfence, hheld, hlive, if_true] at h
  cases h

theorem finishOpenSpecArchiveCleanup_spares {req : FinishOpenSpecArchiveCleanupReq} {row : ClaimRow}
    (hrow : s.claims.get? req.cleanupClaimId = some row)
    (howner : row.ownerSessionToken = req.sessionToken) (hfence : row.fenceSeq = req.fenceSeq.val)
    (hheld : row.state = .held) (hlive : now < row.leaseDeadline) {e : CoveyError}
    (h : finishOpenSpecArchiveCleanup req now s = (.error e, s')) : e.SparesClaim := by
  rcases Tx.bind_error.mp h with h | ⟨createdAt, s₁, htime, h⟩
  · exact Tx.Raises.lift (fun _ => typed_spares) h
  obtain ⟨-, rfl⟩ := Tx.lift_ok.mp htime
  rcases Tx.bind_error.mp h with h | ⟨_, s₁, hkey, h⟩
  · refine Tx.Raises.lift (fun e he => ?_) h
    unfold validateIdempotencyKey ensureLength at he
    split_ifs at he <;> cases he <;> exact id
  obtain ⟨-, rfl⟩ := Tx.lift_ok.mp hkey
  rcases Tx.bind_error.mp h with h | ⟨found, s₁, hfound, h⟩
  · cases h
  obtain ⟨-, rfl⟩ := lookup_ok.mp hfound
  cases found with
  | some recorded => exact Tx.Raises.bind (.ensure id) (fun _ => .pure _) h
  | none =>
    rcases Tx.bind_error.mp h with h | ⟨v, s₁, -, h⟩
    · rcases Tx.bind_error.mp h with h | ⟨σ, s₁, hrole, h⟩
      · exact requireRole_spares h
      obtain ⟨-, rfl⟩ := requireRole_ok.mp hrole
      rcases Tx.bind_error.mp h with h | ⟨_, s₁, hget, h⟩
      · cases h
      obtain ⟨rfl, rfl⟩ := Tx.get_ok.mp hget
      cases hrec : (s.cleanupClaims.get? req.openspecChangeId).filter
          (fun row => row.cleanupClaimId = req.cleanupClaimId) with
      | none =>
        simp only [hrec] at h
        exact Tx.Raises.fail (by exact id) h
      | some recorded =>
        simp only [hrec] at h
        rcases Tx.bind_error.mp h with h | ⟨claim, s₁, hclaim, h⟩
        · exact requireCurrentClaim_spares hrow howner hfence hheld hlive h
        · refine Tx.Raises.bind (.bind (.bind .get fun _ => .pure _) fun _ => .pure _)
            (fun blockers => ?_) h
          split_ifs
          · exact .bind archivedCleanupFinish_spares fun _ => .pure _
          · exact .bind (.forEach (fun _ => archiveBlocker_spares) _) fun _ =>
              .bind updateIn_spares fun _ => .bind endCleanupClaim_spares fun _ =>
              .bind (.lift fun _ => typed_spares) fun _ =>
              .bind appendSessionEvent_spares fun _ => .pure _
    · exact Tx.Raises.bind (.insert id _ _) (fun _ => .pure _) h

/-! ### The claim that begin returns -/

/-- A lease that does not run out before it begins: a sum that wraps around is negative, and a
    negative deadline is refused. -/
theorem addI64_cleanupLease {t : ℤ} (ht : InI64 t) (h : 0 ≤ addI64 t cleanupLeaseMs) :
    t < addI64 t cleanupLeaseMs := by
  unfold InI64 at ht
  unfold addI64 cleanupLeaseMs Int.bmod at h ⊢
  norm_num at h ⊢
  split_ifs at h ⊢ <;> omega

/-- Retiring a stale cleanup changes no claim but the one on record. -/
theorem retireStaleCleanupClaim_claim {changeId : OpenSpecChangeId} {u : Unit} {k : ClaimId}
    (h : retireStaleCleanupClaim changeId leaseNow now s = (.ok u, s'))
    (hk : ∀ row, s.board.cleanup changeId = some row → row.cleanupClaimId ≠ k) :
    s'.board.claim k = s.board.claim k := by
  simp only [retireStaleCleanupClaim, Tx.bind_ok, Tx.get_ok, and_assoc, exists_and_left,
    exists_eq_left'] at h
  cases hrow : s.cleanupClaims.get? changeId with
  | none =>
    simp only [hrow, Tx.pure_ok] at h
    rw [h.2]
  | some row =>
    simp only [hrow] at h
    rcases Tx.whenever_ok.mp h with ⟨-, h⟩ | ⟨-, rfl⟩
    · simp only [endCleanupClaim, releaseActiveReservationsForSubtask, Tx.bind_ok, Tx.pure_ok] at h
      obtain ⟨_, s₁, hclaim, _, s₂, hsubtask, _, s₃, hreserve, -, rfl⟩ := h
      have hb₁ := (updateClaim_board hclaim fun _ => rfl).2
      have hb₂ := (updateSubtask_board hsubtask fun _ => rfl).2
      have hb₃ : s₃.board = s₂.board := updateIn_sameBoard (fun _ _ => rfl) _ _ hreserve
      rw [hb₃, hb₂, hb₁]
      exact modify_of_ne fun hk' => hk row hrow hk'.symm
    · rfl

/-- A claim held on a reserved id by another session is what makes the cleanup taken. -/
theorem Kept.taken {o : SessionToken} {changeId : OpenSpecChangeId} (h : Kept b.toLeases)
    {k : ClaimId} {row : ClaimRow} (hrow : b.claim k = some row) (hheld : row.state = .held)
    (hlive : leaseNow < row.leaseDeadline) (hname : row.subtaskId.val = cleanupSubtaskName changeId)
    (hother : row.ownerSessionToken ≠ o)
    (hwhy : LiveCleanup b changeId leaseNow ∨
      ∃ σ, b.session row.ownerSessionToken = some σ ∧ σ.state = .active) :
    CleanupTaken b o changeId leaseNow := by
  obtain ⟨r, hr, -, hcur⟩ := h.reserved ⟨_, hname⟩ ⟨row, hrow, rfl, hheld⟩
  exact ⟨row.subtaskId, r, k, row, hname, hr, hcur, hrow, hheld, hlive, hother, hwhy⟩

/-- The live claim on record for the change is the current claim of the cleanup subtask. -/
theorem Kept.granted {o : SessionToken} {changeId : OpenSpecChangeId} {row : ClaimRow}
    {result : OpenSpecArchiveCleanupClaim} (h : Kept s.board.toLeases)
    (hname : result.cleanupSubtaskId.val = cleanupSubtaskName changeId)
    (hrow : s.board.claim result.cleanupClaimId = some row)
    (hsub : row.subtaskId = result.cleanupSubtaskId) (hheld : row.state = .held)
    (howner : row.ownerSessionToken = o) (hfence : row.fenceSeq = result.fenceSeq)
    (hlive : leaseNow < row.leaseDeadline) : CleanupGranted s o changeId leaseNow result where
  named := hname
  subtask := h.reserved ⟨_, hname⟩ ⟨row, hrow, hsub, hheld⟩
  claim := by
    refine ⟨row, hrow, hsub, hheld, howner, hfence, hlive, ?_⟩
    intro req now ho _ hclaim hn hnow e s' herr
    refine finishOpenSpecArchiveCleanup_spares ?_ (howner.trans ho.symm) (hfence.trans hn.symm)
      hheld hnow herr
    rw [hclaim]
    exact hrow

/-- Returning the claim on record: it is the caller's exactly if no other session's claim is in
    the way. -/
theorem granted_iff_of_returned {o : SessionToken} {changeId : OpenSpecChangeId}
    {blockers : List OpenSpecArchiveStatusRow} {result : OpenSpecArchiveCleanupClaim}
    {s₀ : Db} (h : Kept s.board.toLeases) (hb₀ : s₀.board = s.board) (hb' : s'.board = s.board)
    (hload : loadCleanupClaimForChange changeId blockers leaseNow s₀ = (.ok (some result), s₀)) :
    CleanupGranted s' o changeId leaseNow result ∧ Undisturbed s.board s'.board o leaseNow ↔
      ¬CleanupTaken s.board o changeId leaseNow := by
  obtain ⟨row, held, hrow, hclaim, hproof, hst, hlive, hk, hid, hfence⟩ :=
    loadCleanupClaimForChange_some hload
  rw [hb₀] at hrow hclaim
  obtain ⟨hname, held', hheld', hsub⟩ := h.anchored.cleanup hrow
  obtain rfl : held = held' := Option.some.inj (hclaim.symm.trans hheld')
  have hlives : LiveCleanup s.board changeId leaseNow :=
    ⟨row, hrow, held, hclaim, hproof, hst, hlive⟩
  constructor
  · rintro ⟨hgranted, -⟩ ⟨id, r, k, other, hid', hr, hcur, hother, -, -, hne, -⟩
    obtain ⟨row', hrow', -, -, howner, -⟩ := hgranted.claim
    have hrow' : s.board.claim result.cleanupClaimId = some row' := hb' ▸ hrow'
    obtain ⟨r', hr', -, hcur'⟩ := h.reserved ⟨_, hname⟩ ⟨held, hclaim, hsub, hst⟩
    obtain rfl : id = row.cleanupSubtaskId := Text.ext (hid'.trans hname.symm)
    obtain rfl : r = r' := Option.some.inj (hr.symm.trans hr')
    obtain rfl : k = row.cleanupClaimId := Option.some.inj (hcur.symm.trans hcur')
    rw [hk, hother] at hrow'
    cases hrow'
    exact hne howner
  · intro hfree
    refine ⟨?_, fun k row hrow hst _ _ _ => ⟨row, hb' ▸ hrow, rfl, hst⟩⟩
    have howner : held.ownerSessionToken = o := by
      by_contra hne
      exact hfree (h.taken hclaim hst hlive (hsub ▸ hname) hne (.inl hlives))
    have h' : Kept s'.board.toLeases := hb' ▸ h
    refine h'.granted (hid ▸ hname) ?_ (hsub.trans hid.symm) hst howner hfence.symm hlive
    rw [hk, hb']
    exact hclaim

/-- Opening a claim: it is the caller's, and nobody else loses one exactly if no other active
    session holds the subtask. -/
theorem granted_iff_of_opened {req : BeginOpenSpecArchiveCleanupReq}
    {blockers : List OpenSpecArchiveStatusRow} {result : OpenSpecArchiveCleanupClaim}
    {s₀ s₁ s₂ : Db} {u : Unit} (h : Kept s.board.toLeases) (h' : Kept s'.board.toLeases)
    (hb₀ : s₀.board = s.board) (hb' : s'.board = s₂.board) (hfresh : ClaimIdFresh s₀)
    (hclock : InI64 leaseNow) (hdead : ¬LiveCleanup s.board req.openspecChangeId leaseNow)
    (hretire : retireStaleCleanupClaim req.openspecChangeId leaseNow now s₀ = (.ok u, s₁))
    (hopen : openCleanupClaim req blockers leaseNow now s₁ = (.ok result, s₂)) :
    CleanupGranted s' req.sessionToken req.openspecChangeId leaseNow result ∧
        Undisturbed s.board s'.board req.sessionToken leaseNow ↔
      ¬CleanupTaken s.board req.sessionToken req.openspecChangeId leaseNow := by
  obtain ⟨s₃, metaTaskId, title, lane, c, hensure, hopened, hk, hfence⟩ :=
    openCleanupClaim_run (hfresh.retire hretire) hopen
  obtain ⟨-, hclaims, -⟩ := retireStaleCleanupClaim_before hretire
  obtain ⟨hb₃, -⟩ := ensureCleanupSubtask_before hensure
  obtain ⟨_, -, -, hb₂⟩ := hopened.board
  have ha₃ : Anchored s₃.board.toLeases := by
    have hmoves : Moves {.cleanup} now s₀ s₃ :=
      (retireStaleCleanupClaim_moves (Set.mem_singleton _) hretire).trans
        (ensureCleanupSubtask_moves (Set.mem_singleton _) ⟨_, hopened.named⟩ hensure)
    exact hmoves.anchored (hb₀ ▸ h.anchored)
  have hclaim₃ : s₃.board.claim = s₁.board.claim := by rw [hb₃]
  have hput : s'.board.claim = put s₃.board.claim c.claimId c := by rw [hb', hb₂]
  have hnew : s'.board.claim c.claimId = some c := by
    rw [hput]
    exact put_self
  -- The claim is on the cleanup subtask, also if its row was used before.
  have hsub : c.subtaskId = result.cleanupSubtaskId ∧ ∀ old,
      s₃.board.claim c.claimId = some old → old.subtaskId = result.cleanupSubtaskId := by
    rcases hopened.source with ⟨hnone, hid⟩ | ⟨old, hold, hid, hfinds⟩
    · refine ⟨hid, fun old hold => ?_⟩
      rw [hnone] at hold
      cases hold
    · obtain ⟨row, hrow, hon⟩ := hfinds.claim ha₃ hopened.named
      obtain rfl : old = row := Option.some.inj (hold.symm.trans hrow)
      refine ⟨hid.trans hon, fun old' hold' => ?_⟩
      rw [hold] at hold'
      cases hold'
      exact hon
  have hlive : leaseNow < c.leaseDeadline := by
    have hnonneg := hopened.nonneg
    rw [hopened.deadline] at hnonneg ⊢
    exact addI64_cleanupLease hclock hnonneg
  have hgranted : CleanupGranted s' req.sessionToken req.openspecChangeId leaseNow result :=
    h'.granted hopened.named (hk ▸ hnew) hsub.1 hopened.held hopened.owner hfence.symm hlive
  simp only [hgranted, true_and]
  constructor
  · rintro hsame ⟨id, r, k, row, hid, hr, hcur, hrow, hst, hrowlive, hne, hwhy⟩
    obtain ⟨row', hrow', howner, hst'⟩ :=
      hsame k row hrow hst hrowlive hne (hwhy.resolve_left hdead)
    obtain rfl : id = result.cleanupSubtaskId := Text.ext (hid.trans hopened.named.symm)
    obtain ⟨old, hold, hon⟩ := h.anchored.current hr hcur
    obtain rfl : row = old := Option.some.inj (hrow.symm.trans hold)
    rw [hput] at hrow'
    rcases put_eq_some.mp hrow' with ⟨-, rfl⟩ | ⟨hne', hrow₃⟩
    · exact hne (howner.symm.trans hopened.owner)
    · -- Two claims would be held on the cleanup subtask.
      rw [hclaim₃] at hrow₃
      obtain ⟨row₀, hrow₀, hcont, -⟩ := rel_of_some' (hclaims k) hrow₃
      rw [hb₀, hrow] at hrow₀
      cases hrow₀
      obtain ⟨r', hr', -, hcur'⟩ := h'.reserved ⟨_, hopened.named⟩
        ⟨c, hnew, hsub.1, hopened.held⟩
      have hcur'' := h'.tended.current hr' (h'.named hr' ⟨_, hopened.named⟩)
        ⟨row', hput ▸ hrow', hcont.subtask.trans hon, hst'⟩
      exact hne' (Option.some.inj (hcur''.symm.trans hcur'))
  · intro hfree k row hrow hst hrowlive hne hactive
    have hoff : row.subtaskId ≠ result.cleanupSubtaskId := by
      intro hon
      exact hfree (h.taken hrow hst hrowlive (hon ▸ hopened.named) hne (.inr hactive))
    have hrow₁ : s₁.board.claim k = some row := by
      rw [retireStaleCleanupClaim_claim hretire fun recorded hrec hk => ?_, hb₀]
      · exact hrow
      · rw [hb₀] at hrec
        obtain ⟨hname, c', hc', hon⟩ := h.anchored.cleanup hrec
        rw [hk, hrow] at hc'
        cases hc'
        exact hoff (hon.trans (Text.ext (hname.trans hopened.named.symm)))
    refine ⟨row, ?_, rfl, hst⟩
    rw [hput, put_of_ne, hclaim₃]
    · exact hrow₁
    · rintro rfl
      exact hoff (hsub.2 row (hclaim₃ ▸ hrow₁))

/-- What a begin that is accepted, and not as a replay, grants. -/
theorem Call.Commits.begins_cleanup {req : BeginOpenSpecArchiveCleanupReq}
    (h : Kept s.board.toLeases) (hc : c.Proper s) (hcommits : c.Commits env s)
    (hop : c.op = .beginOpenSpecArchiveCleanup req) (hclock : InI64 (max s.leaseClock c.now)) :
    ∃ result, (step env s c).1 = .ok (.cleanupClaim result) ∧
      (CleanupGranted (next env s c) req.sessionToken req.openspecChangeId
          (max s.leaseClock (max c.now 0)) result ∧
        Undisturbed s.board (next env s c).board req.sessionToken (max s.leaseClock (max c.now 0)) ↔
        ¬CleanupTaken s.board req.sessionToken req.openspecChangeId
          (max s.leaseClock (max c.now 0))) := by
  have h' : Kept (next env s c).board.toLeases := next_kept hc h
  obtain ⟨hok, hrec⟩ := hcommits
  obtain ⟨v, s₀, hs₀, hrun⟩ := hok.run
  have hresponse : (step env s c).1 = .ok v := by
    subst hs₀
    exact congrArg Prod.fst (Tx.commit_ok.mpr hrun)
  have hb₀ : s₀.board = s.board := by rw [hs₀]; rfl
  have htime : s₀.leaseClock = s.leaseClock := by rw [hs₀]
  rw [hop] at hrun
  have hbegun := beginOpenSpecArchiveCleanup_run hrun
  rw [htime] at hbegun
  generalize hleaseNow : max s.leaseClock (max c.now 0) = leaseNow at hbegun ⊢
  cases hbegun with
  | replayed recorded => exact absurd (Call.recorded_of hs₀ (by rw [hop]; rfl) recorded) hrec
  | @returned result _ _ board loaded response same =>
    subst response
    exact ⟨result, hresponse,
      granted_iff_of_returned h (board.trans hb₀) (same.trans hb₀) loaded⟩
  | @opened σ result blockers s₁ s₂ s₃ board uuids _ _ dead retire opened response same =>
    subst response
    have hfresh : ClaimIdFresh s₁ := by
      intro id hid
      rw [uuids, hs₀] at hid
      rw [board, hb₀]
      exact hc.1 id (by rw [hid]; rfl)
    refine ⟨result, hresponse, granted_iff_of_opened h h' (board.trans hb₀) same hfresh ?_
      (hb₀ ▸ dead) retire opened⟩
    unfold InI64 at hclock ⊢
    omega

/-- In every run in which no caller gives a reserved id to work or to a review: a begin of a
    cleanup that is accepted, and not as a replay, gives its caller a claim on the cleanup subtask
    with which the cleanup can be finished, and takes no other active session's claim, exactly if
    no other session holds that subtask under a lease that runs. -/
theorem cleanup_granted_iff {req : BeginOpenSpecArchiveCleanupReq}
    (hrun : Run.Along (next env) Call.Proper Db.init (calls ++ [c]))
    (hop : c.op = .beginOpenSpecArchiveCleanup req) (hcommits : c.Commits env (reach env calls))
    (hclock : InI64 (max (reach env calls).leaseClock c.now)) :
    ∃ result, (step env (reach env calls) c).1 = .ok (.cleanupClaim result) ∧
      (CleanupGranted (next env (reach env calls) c) req.sessionToken req.openspecChangeId
          (max (reach env calls).leaseClock (max c.now 0)) result ∧
        Undisturbed (reach env calls).board (next env (reach env calls) c).board req.sessionToken
          (max (reach env calls).leaseClock (max c.now 0)) ↔
        ¬CleanupTaken (reach env calls).board req.sessionToken req.openspecChangeId
          (max (reach env calls).leaseClock (max c.now 0))) := by
  obtain ⟨hbefore, hc, -⟩ := Run.along_append.mp hrun
  exact hcommits.begins_cleanup (reach_kept hbefore) hc hop hclock

end Runs

/-! ## Finishing a cleanup -/

section Finish

variable {env : Env} {s s' : Db} {c : Call} {calls : List Call} {now : ℤ}
  {req : FinishOpenSpecArchiveCleanupReq}

/-- The archive status of the change `x` is blocked. -/
def OpenSpecArchiveStatusRow.Blocks (x : OpenSpecChangeId) (r : OpenSpecArchiveStatusRow) : Prop :=
  r.openspecChangeId = x ∧ r.state = .blocked

instance (x : OpenSpecChangeId) (r : OpenSpecArchiveStatusRow) : Decidable (r.Blocks x) :=
  inferInstanceAs (Decidable (_ ∧ _))

/-- An open archive blocker of the change. -/
def Db.Blocked (s : Db) (x : OpenSpecChangeId) : Prop :=
  ∃ r ∈ s.openSpecArchiveStatus.rows, r.Blocks x

instance (s : Db) (x : OpenSpecChangeId) : Decidable (s.Blocked x) :=
  inferInstanceAs (Decidable (∃ _ ∈ _, _))

/-- What the end of a cleanup makes of a blocked status. -/
def FinishOpenSpecArchiveCleanupReq.archives (req : FinishOpenSpecArchiveCleanupReq) (now : ℤ)
    (r : OpenSpecArchiveStatusRow) : OpenSpecArchiveStatusRow :=
  { r with state := .archived, blockedReason := none,
           archiveProofDigest := some req.archiveProofDigest,
           recordedBySession := req.sessionToken, updatedAt := now }

/-- The blocked statuses of the change, and no others, are archived with the proof and reported;
    the claim is released, and the cleanup subtask has no claim and no active reservation. -/
structure CleanupFinished (s s' : Db) (req : FinishOpenSpecArchiveCleanupReq) (now : ℤ)
    (result : OpenSpecArchiveCleanupFinish) : Prop where
  status : ∀ k, s'.openSpecArchiveStatus.get? k = (s.openSpecArchiveStatus.get? k).map fun r =>
    if r.Blocks req.openspecChangeId then req.archives now r else r
  reported : result.archivedQueueIds.Nodup ∧ ∀ k, k ∈ result.archivedQueueIds ↔
    ∃ r, s.openSpecArchiveStatus.get? k = some r ∧ r.Blocks req.openspecChangeId
  named : result.cleanupSubtaskId.val = cleanupSubtaskName req.openspecChangeId
  released : ∃ row, s'.claims.get? req.cleanupClaimId = some row ∧ row.state = .released ∧
    row.subtaskId = result.cleanupSubtaskId
  unclaimed : ∀ row ∈ s'.claims.rows, row.subtaskId = result.cleanupSubtaskId → row.state ≠ .held
  subtask : ∀ r, s'.subtasks.get? result.cleanupSubtaskId = some r → r.currentClaimId = none
  reservations : ∀ r ∈ s'.reservations.rows, r.ownerSubtaskId = result.cleanupSubtaskId →
    r.state ≠ .active

/-- One round of the loop archives the blocker. -/
theorem archiveBlocker_status {blocker : OpenSpecArchiveStatusRow} {u : Unit}
    (hrow : s.openSpecArchiveStatus.get? blocker.queueId = some blocker)
    (hblocks : blocker.Blocks req.openspecChangeId)
    (h : archiveBlocker req now blocker s = (.ok u, s')) :
    s'.openSpecArchiveStatus.get? =
      put s.openSpecArchiveStatus.get? blocker.queueId (req.archives now blocker) := by
  obtain ⟨key, s₀, hkey, h⟩ := Tx.bind_ok.mp h
  obtain ⟨-, rfl⟩ := Tx.lift_ok.mp hkey
  obtain ⟨_, s₁, hsettle, h⟩ := Tx.bind_ok.mp h
  obtain ⟨_, s₂, hmark, hevent⟩ := Tx.bind_ok.mp h
  obtain ⟨n, s₃, hupdate, hcount⟩ := Tx.bind_ok.mp hsettle
  obtain ⟨-, rfl⟩ := Tx.ensure_ok.mp hcount
  obtain ⟨-, t, rfl, ht⟩ := updateIn_get? hupdate fun _ => rfl
  have hmark : s₂.openSpecArchiveStatus = t :=
    Tx.Keeps.forEach (R := Agree Db.openSpecArchiveStatus)
      (fun _ _ => .bind (updateIn_agree (fun _ _ => rfl) _ _) fun _ => .pure _) hmark
  have hevent : s'.openSpecArchiveStatus = s₂.openSpecArchiveStatus := by
    obtain ⟨-, -, rfl⟩ := appendEvent_ok.mp hevent
    rfl
  rw [hevent, hmark, ht]
  refine (modify_of_some hrow).trans ?_
  rw [if_pos ⟨rfl, rfl, hblocks.1, hblocks.2⟩]
  rfl

/-- The loop archives the blockers it goes through and leaves every other status alone. -/
theorem archiveBlockers_status {blockers : List OpenSpecArchiveStatusRow} {u : Unit}
    (hrows : ∀ r ∈ blockers, s.openSpecArchiveStatus.get? r.queueId = some r ∧
      r.Blocks req.openspecChangeId)
    (hnodup : blockers.Nodup) (h : Tx.forEach blockers (archiveBlocker req now) s = (.ok u, s'))
    (k : QueueId) :
    s'.openSpecArchiveStatus.get? k = (s.openSpecArchiveStatus.get? k).map fun r =>
      if r ∈ blockers then req.archives now r else r := by
  induction blockers generalizing s with
  | nil =>
    cases h
    simp
  | cons a l ih =>
    obtain ⟨s₁, ha, hl⟩ := Tx.forEach_cons_ok.mp h
    obtain ⟨hget, hblocks⟩ := hrows a List.mem_cons_self
    obtain ⟨hnotin, hnodup⟩ := List.nodup_cons.mp hnodup
    have hput := archiveBlocker_status hget hblocks ha
    rw [ih (fun r hr => ?_) hnodup hl, hput]
    · by_cases hk : k = a.queueId
      · subst hk
        have hgone : req.archives now a ∉ l := by
          intro hmem
          have hst := (hrows _ (List.mem_cons_of_mem a hmem)).2.2
          cases hst
        rw [put_self, hget, Option.map_some, Option.map_some, if_neg hgone,
          if_pos List.mem_cons_self]
      · rw [put_of_ne hk]
        cases hr : s.openSpecArchiveStatus.get? k with
        | none => rfl
        | some r =>
          have hne : r ≠ a := by
            rintro rfl
            exact hk (Table.key_of_get? hr).symm
          simp [hne]
    · -- The other blockers are still as they were.
      have hne : r.queueId ≠ a.queueId := by
        intro hkey
        have hr' := (hrows r (List.mem_cons_of_mem a hr)).1
        rw [hkey, hget] at hr'
        cases hr'
        exact hnotin hr
      rw [hput, put_of_ne hne]
      exact hrows r (List.mem_cons_of_mem a hr)

/-- Ending a cleanup claim that is held on the cleanup subtask leaves the subtask without a claim
    and without an active reservation. -/
theorem endCleanupClaim_frees {row : CleanupClaimRow} {claim : ClaimRow} {u : Unit}
    (hc : CurrentHeld s.board.toLeases) (hclaim : s.claims.get? row.cleanupClaimId = some claim)
    (hon : claim.subtaskId = row.cleanupSubtaskId) (hheld : claim.state = .held)
    (h : endCleanupClaim row .released .abandoned now s = (.ok u, s')) :
    s'.claims.get? row.cleanupClaimId = some { claim with state := .released, updatedAt := now } ∧
      (∀ r ∈ s'.claims.rows, r.subtaskId = row.cleanupSubtaskId → r.state ≠ .held) ∧
      (∀ r, s'.subtasks.get? row.cleanupSubtaskId = some r → r.currentClaimId = none) ∧
      ∀ r ∈ s'.reservations.rows, r.ownerSubtaskId = row.cleanupSubtaskId → r.state ≠ .active := by
  simp only [endCleanupClaim, releaseActiveReservationsForSubtask, Tx.bind_ok, Tx.pure_ok] at h
  obtain ⟨_, s₁, hclaims, _, s₂, hsubtasks, _, s₃, hreserve, -, rfl⟩ := h
  obtain ⟨-, t₁, rfl, ht₁⟩ := updateIn_get? hclaims fun _ => rfl
  obtain ⟨-, t₂, rfl, ht₂⟩ := updateIn_get? hsubtasks fun _ => rfl
  obtain ⟨t₃, rfl, ht₃⟩ := updateIn_map hreserve fun _ _ => rfl
  -- Another claim held on the subtask would clash with this one.
  have halone : ∀ {k other}, s.board.claim k = some other → other.state = .held →
      other.subtaskId = row.cleanupSubtaskId → k = row.cleanupClaimId :=
    fun hother hst hsub => Db.held_unique hother hclaim (hsub.trans hon.symm) hst hheld
  refine ⟨?_, fun r hr hsub hst => ?_, fun r hr => ?_, fun r hr hown hst => ?_⟩
  · show t₁.get? _ = _
    rw [ht₁]
    refine (congrFun (modify_of_some hclaim) _).trans ?_
    rw [put_self, if_pos hheld]
  · have hr : t₁.get? r.claimId = some r := Table.get?_key hr
    rw [ht₁] at hr
    obtain ⟨old, hold, heq⟩ := modify_eq_some.mp hr
    split_ifs at heq with hk hst'
    · rw [heq] at hst
      cases hst
    · exact hst' (heq ▸ hst)
    · exact hk (halone hold (heq ▸ hst) (heq ▸ hsub))
  · have hr : t₂.get? row.cleanupSubtaskId = some r := hr
    rw [ht₂] at hr
    obtain ⟨old, hold, rfl⟩ := modify_eq_some.mp hr
    rw [if_pos rfl]
    split_ifs with hcur
    · rfl
    · cases hk : old.currentClaimId with
      | none => rfl
      | some k =>
        obtain ⟨other, hother, hsub, hst⟩ := hc hold hk
        rw [hk, halone hother hst hsub] at hcur
        exact absurd rfl hcur
  · have hr : t₃.get? r.reservationId = some r := Table.get?_key hr
    rw [ht₃] at hr
    obtain ⟨old, -, heq⟩ := Option.map_eq_some_iff.mp hr
    split_ifs at heq with hactive
    · rw [← heq] at hst
      cases hst
    · exact hactive (heq ▸ ⟨hown, hst⟩)

theorem loadOpenArchiveBlockers_nodup {changeId : OpenSpecChangeId}
    {blockers : List OpenSpecArchiveStatusRow}
    (h : loadOpenArchiveBlockers changeId s = (.ok blockers, s')) :
    (blockers.map (·.queueId)).Nodup := by
  simp only [loadOpenArchiveBlockers, Tx.bind_ok, selectFrom_ok, Tx.pure_ok, and_assoc,
    exists_and_left, exists_eq_left'] at h
  obtain ⟨rfl, -⟩ := h
  have hperm := (List.perm_insertionSort (fun a b : OpenSpecArchiveStatusRow =>
    a.updatedAt < b.updatedAt ∨ (a.updatedAt = b.updatedAt ∧ a.queueId.val ≤ b.queueId.val))
    (s.openSpecArchiveStatus.select fun r => r.openspecChangeId = changeId ∧ r.state = .blocked)).map
      (·.queueId)
  refine hperm.nodup_iff.mpr ?_
  exact (Table.nodup_keys s.openSpecArchiveStatus).sublist (List.filter_sublist.map _)

/-- The end of a cleanup of a change that is blocked. -/
theorem finishOpenSpecArchiveCleanup_finishes {v : Response} (ha : Anchored s.board.toLeases)
    (hc : CurrentHeld s.board.toLeases) (hblocked : s.Blocked req.openspecChangeId)
    (hnew : ¬Recorded s req.sessionToken.val "finish_openspec_archive_cleanup" req.idempotencyKey
      (.finishOpenSpecArchiveCleanup req) v)
    (h : finishOpenSpecArchiveCleanup req now s = (.ok v, s')) :
    ∃ result, v = .cleanupFinish result ∧ CleanupFinished s s' req now result := by
  obtain ⟨-, ⟨row, hrow, hreq, hresp, -⟩ | ⟨-, s₁, hrun, t, -, rfl⟩⟩ :=
    withIdempotentMutation_ok.mp (mutation_ok.mp h).2
  · exact absurd ⟨row, hrow, hreq, hresp⟩ hnew
  simp only [Tx.bind_ok, requireRole_ok, Tx.get_ok, and_assoc, exists_and_left, exists_eq_left',
    Tx.exists_unit] at hrun
  obtain ⟨_, -, -, -, -, hrun⟩ := hrun
  cases hfound : (s.cleanupClaims.get? req.openspecChangeId).filter
      (fun row => row.cleanupClaimId = req.cleanupClaimId) with
  | none => simp [hfound] at hrun
  | some row =>
    obtain ⟨hrow, hk⟩ := Option.filter_eq_some_iff.mp hfound
    replace hk : row.cleanupClaimId = req.cleanupClaimId := of_decide_eq_true hk
    rw [hfound] at hrun
    obtain ⟨claim, s₂, hcurrent, hrun⟩ := Tx.bind_ok.mp hrun
    obtain ⟨⟨-, hclaim, -, -, -, hheld, -⟩, rfl⟩ := requireCurrentClaim_ok.mp hcurrent
    obtain ⟨blockers, s₂, hopen, hrun⟩ := Tx.bind_ok.mp hrun
    have hmem : ∀ r, r ∈ blockers ↔ r ∈ s.openSpecArchiveStatus.rows ∧
        r.Blocks req.openspecChangeId := fun r => mem_loadOpenArchiveBlockers hopen
    have hnodup := loadOpenArchiveBlockers_nodup hopen
    obtain rfl : s = s₂ := (loadOpenArchiveBlockers_readOnly.state hopen).symm
    have hsome : blockers.isEmpty = false := by
      obtain ⟨r, hr, hblocks⟩ := hblocked
      cases blockers with
      | nil => cases (hmem r).mpr ⟨hr, hblocks⟩
      | cons => rfl
    rw [if_neg (by simp [hsome])] at hrun
    obtain ⟨_, s₃, hloop, hrun⟩ := Tx.bind_ok.mp hrun
    obtain ⟨_, s₄, hmark, hrun⟩ := Tx.bind_ok.mp hrun
    obtain ⟨_, s₅, hend, hrun⟩ := Tx.bind_ok.mp hrun
    obtain ⟨_, s₆, hkey, hrun⟩ := Tx.bind_ok.mp hrun
    obtain ⟨-, rfl⟩ := Tx.lift_ok.mp hkey
    obtain ⟨_, s₇, hevent, hrun⟩ := Tx.bind_ok.mp hrun
    obtain ⟨rfl, rfl⟩ := Tx.pure_ok.mp hrun
    obtain ⟨-, -, rfl⟩ := appendEvent_ok.mp hevent
    have hb₃ : s₃.board = s.board :=
      Tx.Keeps.forEach (fun _ _ => archiveBlocker_sameBoard) hloop
    have hstatus := archiveBlockers_status (s := s) (fun r hr => ?_)
      (List.Nodup.of_map _ hnodup) hloop
    · obtain ⟨t', rfl, -⟩ := updateIn_map hmark fun _ _ => rfl
      obtain ⟨hname, c, hc', hon⟩ := ha.cleanup hrow
      rw [hk] at hc'
      obtain rfl : claim = c := Option.some.inj (hclaim.symm.trans hc')
      have hclaim₃ : s₃.claims.get? row.cleanupClaimId = some claim := by
        have hget : s₃.board.claim row.cleanupClaimId = s.board.claim row.cleanupClaimId := by
          rw [hb₃]
        rw [hk] at hget ⊢
        exact hget.trans hclaim
      have hcur₃ : CurrentHeld s₃.board.toLeases := hb₃ ▸ hc
      have hcur₄ : CurrentHeld (Rel.cleanupClaims.set s₃ t').board.toLeases :=
        fun _ _ _ hr hk => hcur₃ hr hk
      have hkept : s₅.openSpecArchiveStatus =
          (Rel.cleanupClaims.set s₃ t').openSpecArchiveStatus := by
        refine (?_ : Tx.Keeps (Agree Db.openSpecArchiveStatus) _) hend
        exact .bind (updateIn_agree (fun _ _ => rfl) _ _) fun _ =>
          .bind (updateIn_agree (fun _ _ => rfl) _ _) fun _ =>
          .bind (updateIn_agree (fun _ _ => rfl) _ _) fun _ => .pure _
      obtain ⟨hreleased, hunclaimed, hsubtask, hreservations⟩ :=
        endCleanupClaim_frees hcur₄ hclaim₃ hon hheld hend
      rw [hk] at hreleased
      refine ⟨_, rfl, ⟨fun k => ?_, ⟨hnodup, fun k => ?_⟩, hname, ⟨_, hreleased, rfl, hon⟩,
        hunclaimed, hsubtask, hreservations⟩⟩
      · show s₅.openSpecArchiveStatus.get? k = _
        rw [hkept]
        refine (hstatus k).trans ?_
        cases hr : s.openSpecArchiveStatus.get? k with
        | none => rfl
        | some r =>
          have hrow := Table.mem_of_get? hr
          simp only [Option.map_some, hmem, hrow, true_and]
      · simp only [List.mem_map, hmem]
        constructor
        · rintro ⟨r, ⟨hr, hblocks⟩, rfl⟩
          exact ⟨r, Table.get?_key hr, hblocks⟩
        · rintro ⟨r, hr, hblocks⟩
          exact ⟨r, ⟨Table.mem_of_get? hr, hblocks⟩, Table.key_of_get? hr⟩
    · obtain ⟨hr, hblocks⟩ := (hmem r).mp hr
      exact ⟨Table.get?_key hr, hblocks⟩

/-- A begin that is accepted, and not as a replay, finds the change blocked. -/
theorem Call.Commits.blocked {req : BeginOpenSpecArchiveCleanupReq} (h : c.Commits env s)
    (hop : c.op = .beginOpenSpecArchiveCleanup req) : s.Blocked req.openspecChangeId := by
  obtain ⟨hok, hrec⟩ := h
  obtain ⟨v, s₀, hs₀, hrun⟩ := hok.run
  rw [hop] at hrun
  obtain ⟨leaseNow, -, hrun⟩ := leasedMutation_ok.mp hrun
  obtain ⟨-, ⟨row, hrow, hreq, hresp, -⟩ | ⟨-, s₁, hrun, -⟩⟩ :=
    withIdempotentMutation_ok.mp (mutation_ok.mp hrun).2
  · refine absurd (Call.recorded_of hs₀ (by rw [hop]; rfl) ⟨row, ?_, hreq, hresp⟩) hrec
    exact hrow
  obtain ⟨_, s₂, hrole, hrun⟩ := Tx.bind_ok.mp hrun
  obtain ⟨-, rfl⟩ := requireRole_ok.mp hrole
  obtain ⟨eligibility, s₂, helig, hrun⟩ := Tx.bind_ok.mp hrun
  obtain ⟨_, s₃, hsafe, -⟩ := Tx.bind_ok.mp hrun
  have hsafe : eligibility.safeToArchive := by
    rcases Tx.whenever_ok.mp hsafe with ⟨-, h⟩ | ⟨h, -⟩
    · simp at h
    · exact not_not.mp h
  simp only [archiveEligibilityForChange, Tx.bind_ok, Tx.get_ok, Tx.pure_ok, and_assoc,
    exists_and_left, exists_eq_left'] at helig
  obtain ⟨subtasks, s₄, hload, blockers, s₅, hopen, rfl, -⟩ := helig
  cases blockers with
  | nil => cases hsafe.2.2
  | cons r l =>
    obtain ⟨hr, hblocks⟩ := (mem_loadOpenArchiveBlockers hopen).mp List.mem_cons_self
    have hsame := (Tx.mapEach_lift_ok SubtaskRow.load_val hload).2
    rw [hsame, hs₀] at hr
    exact ⟨r, hr, hblocks⟩

theorem reach_currentHeld (hrun : Run.Along (next env) Call.Fresh Db.init calls) :
    Anchored (reach env calls).board.toLeases ∧ CurrentHeld (reach env calls).board.toLeases :=
  Run.invariant (I := fun s : Db => Anchored s.board.toLeases ∧ CurrentHeld s.board.toLeases)
    (fun s c hc h => hc.invariant
      (I := fun b => Anchored b.toLeases ∧ CurrentHeld b.toLeases) h.1
      (fun m h => ⟨h.1.move m, h.2.move m h.1⟩) h)
    hrun ⟨init_anchored, fun _ _ _ h => nomatch h⟩

/-- After every run, the end of a cleanup that is accepted, and not as a replay, while the change
    is blocked archives exactly the blockers and frees the cleanup subtask; and after it every
    begin for the change that is not a replay is refused, until a call has opened a blocker. -/
theorem cleanup_finished (hrun : Run.Along (next env) Call.Fresh Db.init calls)
    (hop : c.op = .finishOpenSpecArchiveCleanup req) (hcommits : c.Commits env (reach env calls))
    (hblocked : (reach env calls).Blocked req.openspecChangeId) :
    (∃ result, (step env (reach env calls) c).1 = .ok (.cleanupFinish result) ∧
      CleanupFinished (reach env calls) (reach env (calls ++ [c])) req c.now result) ∧
    ∀ (rest : List Call) (c' : Call) (req' : BeginOpenSpecArchiveCleanupReq),
      c'.op = .beginOpenSpecArchiveCleanup req' → req'.openspecChangeId = req.openspecChangeId →
      c'.Commits env (reach env (calls ++ [c] ++ rest)) →
      ∃ before d after, rest = before ++ d :: after ∧
        ¬(reach env (calls ++ [c] ++ before)).Blocked req.openspecChangeId ∧
        (reach env (calls ++ [c] ++ before ++ [d])).Blocked req.openspecChangeId := by
  obtain ⟨ha, hcur⟩ := reach_currentHeld hrun
  obtain ⟨hok, hrec⟩ := hcommits
  obtain ⟨v, s₀, hs₀, hfinish⟩ := hok.run
  have hresponse : (step env (reach env calls) c).1 = .ok v := by
    subst hs₀
    exact congrArg Prod.fst (Tx.commit_ok.mpr hfinish)
  rw [reach_concat]
  generalize hs : reach env calls = s at *
  have hb₀ : s₀.board = s.board := by rw [hs₀]; rfl
  rw [hop] at hfinish
  obtain ⟨result, rfl, hfinished⟩ := finishOpenSpecArchiveCleanup_finishes (s := s₀)
    (hb₀ ▸ ha) (hb₀ ▸ hcur) (by rw [hs₀]; exact hblocked)
    (fun h => hrec (Call.recorded_of hs₀ (by rw [hop]; rfl) h)) hfinish
  subst hs₀
  refine ⟨⟨result, hresponse, ⟨hfinished.status, hfinished.reported, hfinished.named,
    hfinished.released, hfinished.unclaimed, hfinished.subtask, hfinished.reservations⟩⟩, ?_⟩
  have hfree : ¬(next env s c).Blocked req.openspecChangeId := by
    rintro ⟨r, hr, hblocks⟩
    have hr := Table.get?_key hr
    rw [hfinished.status] at hr
    obtain ⟨old, -, rfl⟩ := Option.map_eq_some_iff.mp hr
    split_ifs at hblocks with hold
    · cases hblocks.2
    · exact hold hblocks
  intro rest c' req' hop' hx hbegin
  have hafter : ∀ l, reach env (calls ++ [c] ++ l) = Run.after (next env) (next env s c) l := by
    intro l
    rw [reach_append, reach_concat, hs]
  have hend := hbegin.blocked hop'
  rw [hafter, hx] at hend
  obtain ⟨before, d, after, hsplit, hnot, hopens⟩ :=
    Run.exists_entering (I := fun s : Db => s.Blocked req.openspecChangeId) hfree hend
  refine ⟨before, d, after, hsplit, ?_, ?_⟩
  · rw [hafter]
    exact hnot
  · rw [List.append_assoc, hafter, Run.after_concat]
    exact hopens

end Finish

section Scripts

open Script

/-- The change is ready to be archived, and nobody has begun. -/
def ready : List Call := Script.calls archivable

/-- The begin of the cleanup by one orchestrator, and by another one after it. -/
def firstBegin : Call := ⟨beginCleanup (session 0) (text "begin"), 9, uuid 12⟩

def secondBegin : Call := ⟨beginCleanup (session 1) (text "begin"), 10, uuid 13⟩

theorem ready_run :
    Run.Along (next env) Call.Proper Db.init (ready ++ [firstBegin] ++ [secondBegin]) ∧
      firstBegin.Commits env (reach env ready) ∧
      secondBegin.Commits env (reach env (ready ++ [firstBegin])) ∧
      (0 ≤ (reach env ready).leaseClock ∧ (reach env ready).leaseClock ≤ 9) ∧
      (reach env ready).subtasks.get? cleanupTask = none ∧
      (reach env (ready ++ [firstBegin])).leaseClock = 9 ∧
      ((reach env (ready ++ [firstBegin])).subtasks.get? cleanupTask).map (·.currentClaimId) =
        some (some (claim 12)) ∧
      ((reach env (ready ++ [firstBegin])).claims.get? (claim 12)).map
        (fun r => (r.state, r.ownerSessionToken, r.leaseDeadline)) =
        some (.held, session 0, 600009) ∧
      ((reach env (ready ++ [firstBegin])).sessions.get? (session 0)).map (·.state) =
        some .active ∧ session 0 ≠ session 1 := by
  decide +kernel

theorem cleanup_granted_ready :
    firstBegin.Commits env (reach env ready) ∧
      ∃ result, (step env (reach env ready) firstBegin).1 = .ok (.cleanupClaim result) ∧
        CleanupGranted (next env (reach env ready) firstBegin) (session 0) change 9 result := by
  obtain ⟨halong, hcommits, -, hclock, hnone, -⟩ := ready_run
  have hall := cleanup_granted_iff (Run.along_append.mp halong).1 rfl hcommits
  generalize reach env ready = s at *
  have htime : max s.leaseClock firstBegin.now = 9 := max_eq_right hclock.2
  have hmax : max s.leaseClock (max firstBegin.now 0) = 9 := max_eq_right hclock.2
  rw [htime, hmax] at hall
  obtain ⟨result, hresult, hiff⟩ := hall (by decide)
  refine ⟨hcommits, result, hresult, (hiff.mpr ?_).1⟩
  rintro ⟨id, r, -, -, hid, hr, -⟩
  obtain rfl : id = cleanupTask := Text.ext hid
  have hr : s.subtasks.get? cleanupTask = some r := hr
  rw [hnone] at hr
  cases hr

/-- The second orchestrator is told that the cleanup is begun, but the claim it is given is the
    first one's. -/
theorem secondBegin_not_granted :
    Run.Along (next env) Call.Proper Db.init (ready ++ [firstBegin] ++ [secondBegin]) ∧
      secondBegin.Commits env (reach env (ready ++ [firstBegin])) ∧
      ∃ result, (step env (reach env (ready ++ [firstBegin])) secondBegin).1 =
          .ok (.cleanupClaim result) ∧
        ¬(CleanupGranted (next env (reach env (ready ++ [firstBegin])) secondBegin) (session 1)
            change 10 result ∧
          Undisturbed (reach env (ready ++ [firstBegin])).board
            (next env (reach env (ready ++ [firstBegin])) secondBegin).board (session 1) 10) := by
  obtain ⟨halong, -, hcommits, -, -, hclock, hsub, hclaim, hsession, hne⟩ := ready_run
  obtain ⟨hbefore, hc, -⟩ := Run.along_append.mp halong
  have hall := hcommits.begins_cleanup (reach_kept hbefore) hc rfl
  refine ⟨halong, hcommits, ?_⟩
  have hmax : max (reach env (ready ++ [firstBegin])).leaseClock (max secondBegin.now 0) = 10 := by
    rw [hclock]
    rfl
  have htime : max (reach env (ready ++ [firstBegin])).leaseClock secondBegin.now = 10 := by
    rw [hclock]
    rfl
  rw [hmax, htime] at hall
  generalize reach env (ready ++ [firstBegin]) = s at *
  obtain ⟨result, hresult, hiff⟩ := hall (by decide)
  refine ⟨result, hresult, fun hgranted => hiff.mp hgranted ?_⟩
  obtain ⟨r, hr, hcur⟩ := Option.map_eq_some_iff.mp hsub
  obtain ⟨row, hrow, hrow'⟩ := Option.map_eq_some_iff.mp hclaim
  obtain ⟨σ, hσ, hactive⟩ := Option.map_eq_some_iff.mp hsession
  simp only [Prod.mk.injEq] at hrow'
  obtain ⟨hst, howner, hdeadline⟩ := hrow'
  refine ⟨cleanupTask, r, claim 12, row, rfl, hr, hcur, hrow, hst, ?_, ?_, .inr ⟨σ, ?_, hactive⟩⟩
  · rw [hdeadline]
    decide
  · rw [howner]
    exact hne
  · rw [howner]
    exact hσ

/-- The end of the cleanup by the first orchestrator. -/
def firstFinish : Call := ⟨finishCleanup (session 0) (claim 12) (fence 0) (text "finish"), 11, uuid 14⟩

/-- A further blocker of the change. -/
def blockAgain : Call :=
  ⟨.recordOpenSpecArchiveStatus ⟨session 0, text "archive_no_apply_again", digest "a", change,
    .blocked, some (text "again"), none, text "block"⟩, 12, uuid 15⟩

/-- The change is blocked again after its cleanup. -/
def reblocked : List Call := ready ++ [firstBegin, firstFinish, blockAgain]

theorem reblocked_run :
    Run.Along (next env) Call.Fresh Db.init reblocked ∧
      firstFinish.Commits env (reach env (ready ++ [firstBegin])) ∧
      (reach env (ready ++ [firstBegin])).Blocked change ∧
      (reach env reblocked).Blocked change ∧
      (step env (reach env reblocked) firstFinish).1.isOk = true ∧
      (next env (reach env reblocked) firstFinish).Blocked change := by
  decide +kernel

theorem cleanup_finished_ready :
    firstFinish.Commits env (reach env (ready ++ [firstBegin])) ∧
      ∃ result, CleanupFinished (reach env (ready ++ [firstBegin]))
        (reach env (ready ++ [firstBegin] ++ [firstFinish]))
        ⟨session 0, change, claim 12, fence 0, digest "proof", text "finish"⟩ 11 result := by
  obtain ⟨halong, hcommits, hblocked, -⟩ := reblocked_run
  have hbefore : Run.Along (next env) Call.Fresh Db.init (ready ++ [firstBegin]) := by
    have hsplit : reblocked = ready ++ [firstBegin] ++ [firstFinish, blockAgain] := by
      simp [reblocked]
    rw [hsplit] at halong
    exact (Run.along_append.mp halong).1
  obtain ⟨⟨result, -, hfinished⟩, -⟩ := cleanup_finished hbefore rfl hcommits hblocked
  exact ⟨hcommits, result, hfinished⟩

/-- A replay of the finish succeeds while the change is blocked again, and archives nothing. -/
theorem reblocked_finish_replayed :
    Run.Along (next env) Call.Fresh Db.init reblocked ∧ (reach env reblocked).Blocked change ∧
      firstFinish.Succeeds env (reach env reblocked) ∧
      ∀ now result, ¬CleanupFinished (reach env reblocked) (next env (reach env reblocked) firstFinish)
        ⟨session 0, change, claim 12, fence 0, digest "proof", text "finish"⟩ now result := by
  obtain ⟨halong, -, -, hblocked, hok, r, hr, hblocks⟩ := reblocked_run
  generalize reach env reblocked = s at *
  refine ⟨halong, hblocked, hok, fun now result hfinished => ?_⟩
  have hr := Table.get?_key hr
  rw [hfinished.status] at hr
  obtain ⟨old, -, rfl⟩ := Option.map_eq_some_iff.mp hr
  split_ifs at hblocks with hold
  · cases hblocks.2
  · exact hold hblocks

end Scripts

end Covey

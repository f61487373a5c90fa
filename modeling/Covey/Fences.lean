import Covey.RowSteps

/-!
# Claims, fences and cleanup records

Two invariants of every run, whatever the callers name and whatever the clock
does:

* `Anchored`: the current claim of a subtask is a claim on that subtask, and the
  recorded cleanup claim of a change is a claim on the change's reserved
  subtask.
* `Fenced`: the fence counter of a subtask is above the fence of every claim on
  it, and a held claim carries the fence issued last.
-/

namespace Covey

open Relational

variable {now : ℤ} {w : Write} {b b' : Board}

/-! ## Changes of the current claim -/

theorem Edit.current {r r' : SubtaskRow} (h : Edit b now w r r') :
    r'.currentClaimId = r.currentClaimId ∨ r'.currentClaimId = none ∧ (r.kind = .cleanup ∨
      ∀ c row, r.currentClaimId = some c → b.claim c = some row → row.state ≠ .held) := by
  cases h with
  | complete _ _ _ _ free => exact .inl free.symm
  | cancel free => exact .inr ⟨rfl, .inr free⟩
  | reopen kind => exact .inr ⟨rfl, .inl kind⟩
  | _ => exact .inl rfl

theorem Detach.current {r r' : SubtaskRow} (h : Detach now w r r') : r'.currentClaimId = none := by
  cases h <;> rfl

/-! ## Current and recorded claims -/

/-- Current and recorded claims are claims on the subtask that names them. -/
structure Anchored (l : Leases) : Prop where
  current : ∀ {id r c}, l.subtask id = some r → r.currentClaimId = some c →
    ∃ row, l.claim c = some row ∧ row.subtaskId = id
  cleanup : ∀ {k row}, l.cleanup k = some row →
    row.cleanupSubtaskId.val = cleanupSubtaskName k ∧
    ∃ c, l.claim row.cleanupClaimId = some c ∧ c.subtaskId = row.cleanupSubtaskId

/-- No move takes a claim to another subtask. -/
theorem Move.claim_subtask (m : Move now w b b') {k : ClaimId} {id : SubtaskId}
    (h : ∃ row, b.claim k = some row ∧ row.subtaskId = id) :
    ∃ row, b'.claim k = some row ∧ row.subtaskId = id := by
  obtain ⟨row, hrow, hid⟩ := h
  obtain ⟨row', hrow', hstep⟩ := (m.claim k).of_some hrow
  rcases hstep with hstep | ⟨-, hsub⟩
  · exact ⟨row', hrow', hstep.subtask.trans hid⟩
  · exact ⟨row', hrow', hsub.trans hid⟩

/-- The claim that a cleanup takes over is a claim on the cleanup's subtask. -/
theorem Anchored.reused (hb : Anchored b.toLeases) {id : SubtaskId} {c old : ClaimRow}
    {changeId : OpenSpecChangeId} (hid : id.val = cleanupSubtaskName changeId)
    (hold : b.claim c.claimId = some old)
    (hfrom : (∃ r, b.subtask id = some r ∧ r.currentClaimId = some c.claimId) ∨
      (∃ recorded, b.cleanup changeId = some recorded ∧ recorded.cleanupClaimId = c.claimId) ∨
      old.subtaskId = id) : old.subtaskId = id := by
  rcases hfrom with ⟨r, hr, hcur⟩ | ⟨recorded, hrec, hclaim⟩ | hid
  · obtain ⟨row, hrow, hid⟩ := hb.current hr hcur
    rw [hold] at hrow
    cases hrow
    exact hid
  · obtain ⟨hname, row, hrow, hsub⟩ := hb.cleanup hrec
    rw [hclaim, hold] at hrow
    cases hrow
    exact hsub.trans (Text.ext (hname.trans hid.symm))
  · exact hid

/-- The current claim of a subtask after a lease move is on that subtask. -/
theorem Anchored.current_lease {l : Leases} (hb : Anchored b.toLeases) (m : LeaseMove now b w l)
    {id : SubtaskId} {r' : SubtaskRow} {c : ClaimId} (hr' : l.subtask id = some r')
    (hc : r'.currentClaimId = some c) : ∃ row, l.claim c = some row ∧ row.subtaskId = id := by
  -- It was the current claim before, unless the move is the one that opens it.
  have hkeep : ∀ {r}, b.subtask id = some r → r.currentClaimId = some c →
      ∃ row, l.claim c = some row ∧ row.subtaskId = id :=
    fun hr hcur => (Move.lease m).claim_subtask (hb.current hr hcur)
  cases m with
  | register | touch | exit | renew | markCleanup => exact hkeep hr' hc
  | create fresh | createCleanup fresh =>
    rcases put_eq_some.mp hr' with ⟨-, rfl⟩ | ⟨-, hr⟩
    · rw [fresh.claim] at hc
      cases hc
    · exact hkeep hr hc
  | edit edited =>
    obtain ⟨r, hr, rfl | hedit⟩ := rel_of_some' (edited id) hr'
    · exact hkeep hr hc
    · rcases hedit.current with h | ⟨h, -⟩
      · exact hkeep hr (h ▸ hc)
      · rw [h] at hc
        cases hc
  | close _ _ _ detach =>
    obtain ⟨r, hr, rfl⟩ := modify_eq_some.mp hr'
    split_ifs at hc with hid hcur
    · subst hid
      rw [(detach r hr hcur).current] at hc
      cases hc
    · exact hkeep hr hc
    · exact hkeep hr hc
  | endCleanup =>
    obtain ⟨r, hr, rfl⟩ := modify_eq_some.mp hr'
    split_ifs at hc
    · exact hkeep hr hc
    · exact hkeep hr hc
  | claim =>
    rcases put_eq_some.mp hr' with ⟨hid, rfl⟩ | ⟨-, hr⟩
    · cases hc
      exact ⟨_, put_self, hid.symm⟩
    · exact hkeep hr hc
  | openCleanup reserved _ _ _ _ _ source =>
    obtain ⟨r, hr, rfl⟩ := modify_eq_some.mp hr'
    split_ifs at hc with hid hfree
    · cases hc
      refine ⟨_, put_self, ?_⟩
      rcases source with ⟨-, -, hsub⟩ | ⟨-, old, hold, hsub, hfrom⟩
      · rw [hsub, hid]
      · rw [hsub, hb.reused reserved hold hfrom, hid]
    · exact hkeep hr hc
    · exact hkeep hr hc

/-- The recorded cleanup claim after a lease move is on the reserved subtask. -/
theorem Anchored.cleanup_lease {l : Leases} (hb : Anchored b.toLeases) (m : LeaseMove now b w l)
    {k : OpenSpecChangeId} {row : CleanupClaimRow} (hrow : l.cleanup k = some row) :
    row.cleanupSubtaskId.val = cleanupSubtaskName k ∧
      ∃ c, l.claim row.cleanupClaimId = some c ∧ c.subtaskId = row.cleanupSubtaskId := by
  have hkeep : ∀ {old}, b.cleanup k = some old → old.cleanupSubtaskId.val = cleanupSubtaskName k ∧
      ∃ c, l.claim old.cleanupClaimId = some c ∧ c.subtaskId = old.cleanupSubtaskId :=
    fun hold => ⟨(hb.cleanup hold).1, (Move.lease m).claim_subtask (hb.cleanup hold).2⟩
  cases m with
  | markCleanup marked =>
    obtain ⟨old, hold, hsub, hclaim⟩ := rel_of_some' (marked k) hrow
    rw [hsub, hclaim]
    exact hkeep hold
  | openCleanup reserved _ _ _ _ _ source _ rowSubtask rowClaim =>
    rcases put_eq_some.mp hrow with ⟨hk, rfl⟩ | ⟨-, hold⟩
    · rw [rowSubtask, rowClaim, hk]
      refine ⟨reserved, _, put_self, ?_⟩
      rcases source with ⟨-, -, hsub⟩ | ⟨-, old, hold, hsub, hfrom⟩
      · exact hsub
      · rw [hsub, hb.reused reserved hold hfrom]
    · exact hkeep hold
  | _ => exact hkeep hrow

theorem Anchored.move (m : Move now w b b') (hb : Anchored b.toLeases) : Anchored b'.toLeases := by
  cases m with
  | lease m => exact ⟨hb.current_lease m, hb.cleanup_lease m⟩
  | ledger m => exact hb
  | apply _ _ _ _ subtask =>
    refine ⟨fun {id r' c} hr' hc => ?_, hb.cleanup⟩
    rcases put_eq_some.mp hr' with ⟨rfl, rfl⟩ | ⟨-, hr⟩
    · exact hb.current subtask hc
    · exact hb.current hr hc

theorem Moves.anchored {L : Set Write} {s s' : Db} (h : Moves L now s s')
    (ha : Anchored s.board.toLeases) : Anchored s'.board.toLeases :=
  Steps.invariant (I := fun b => Anchored b.toLeases) (fun _ => Anchored.move) h ha

/-! ## Fences -/

/-- Every claim's fence was issued by the counter of its subtask, and a held claim's fence is
    the one issued last. -/
def Fenced (l : Leases) : Prop :=
  ∀ ⦃c row⦄, l.claim c = some row → ∃ n, l.fence row.subtaskId = some n ∧ row.fenceSeq < n ∧
    (row.state = .held → row.fenceSeq + 1 = n)

/-- A claim that carries its fence on stays fenced as long as the counter does not move. -/
theorem Fenced.continued {l : Leases} (hb : Fenced b.toLeases)
    (hfence : ∀ {id n}, b.fence id = some n → l.fence id = some n) {c : ClaimId}
    {row row' : ClaimRow} (hrow : b.claim c = some row) (hcont : row.Continues row') :
    ∃ n, l.fence row'.subtaskId = some n ∧ row'.fenceSeq < n ∧
      (row'.state = .held → row'.fenceSeq + 1 = n) := by
  obtain ⟨n, hn, hlt, hheld⟩ := hb hrow
  rw [hcont.subtask, hcont.fence]
  refine ⟨n, hfence hn, hlt, fun h => hheld ?_⟩
  by_contra hclosed
  exact hclosed (hcont.closed hclosed ▸ h)

/-- Issuing the next fence to the only held claim of a subtask. -/
theorem Fenced.issue (hb : Fenced b.toLeases) {l : Leases} {c : ClaimRow} {id : SubtaskId}
    (hid : c.subtaskId = id) (hfence : c.fenceSeq = (b.fence id).getD 1)
    (honly : ∀ k row, b.claim k = some row → row.subtaskId = c.subtaskId → row.state = .held →
      k = c.claimId)
    (hclaim : l.claim = put b.claim c.claimId c)
    (hcounter : l.fence = put b.fence id (c.fenceSeq + 1)) : Fenced l := by
  intro k row hrow
  rw [hclaim] at hrow
  rw [hcounter]
  rcases put_eq_some.mp hrow with ⟨-, rfl⟩ | ⟨hk, hrow⟩
  · exact ⟨c.fenceSeq + 1, by rw [hid, put_self], by omega, fun _ => rfl⟩
  · obtain ⟨n, hn, hlt, hheld⟩ := hb hrow
    by_cases hsub : row.subtaskId = id
    · rw [hsub] at hn ⊢
      rw [hn, Option.getD_some] at hfence
      refine ⟨c.fenceSeq + 1, put_self, by omega, fun h => ?_⟩
      exact absurd (honly k row hrow (hsub.trans hid.symm) h) hk
    · exact ⟨n, by rw [put_of_ne hsub, hn], hlt, hheld⟩

theorem Fenced.move (m : Move now w b b') (ha : Anchored b.toLeases) (hb : Fenced b.toLeases) :
    Fenced b'.toLeases := by
  cases m with
  | ledger | apply => exact hb
  | lease m =>
    cases m with
    | register | touch | exit | edit | createCleanup | markCleanup => exact hb
    | create _ _ _ _ unissued =>
      intro k row hrow
      exact hb.continued (put_of_new unissued) hrow (.refl row)
    | claim _ _ _ _ _ _ _ _ _ free fence =>
      exact hb.issue rfl fence (fun k row hrow hsub hheld => absurd hheld (free k row hrow hsub))
        rfl rfl
    | openCleanup reserved _ _ _ fence only source =>
      refine hb.issue ?_ fence only rfl rfl
      rcases source with ⟨-, -, hsub⟩ | ⟨-, old, hold, hsub, hfrom⟩
      · exact hsub
      · rw [hsub, ha.reused reserved hold hfrom]
    | close current held =>
      intro k row hrow
      rcases put_eq_some.mp hrow with ⟨-, rfl⟩ | ⟨-, hrow⟩
      · exact hb.continued id current ⟨rfl, rfl, rfl, fun h => absurd held h⟩
      · exact hb hrow
    | renew current =>
      intro k row hrow
      rcases put_eq_some.mp hrow with ⟨-, rfl⟩ | ⟨-, hrow⟩
      · exact hb.continued id current ⟨rfl, rfl, rfl, fun _ => rfl⟩
      · exact hb hrow
    | endCleanup =>
      intro k row hrow
      obtain ⟨row₀, hrow₀, rfl⟩ := modify_eq_some.mp hrow
      split_ifs with _ hheld
      · exact hb.continued id hrow₀ ⟨rfl, rfl, rfl, fun h => absurd hheld h⟩
      · exact hb hrow₀
      · exact hb hrow₀

end Covey

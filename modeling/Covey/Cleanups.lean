import Covey.Ownership

/-!
# Current claims and cleanup subtasks

A cleanup subtask is claimed by two routes: the ordinary claim calls, and the
calls that begin and finish an archive cleanup, which write the claim row and
the subtask in separate statements.

* `CurrentHeld`: the current claim of a subtask is held on it, whatever the
  callers name.
* `Tended`: a cleanup subtask is free exactly if no claim on it is held.
-/

namespace Covey

open Relational

variable {now : ℤ} {w : Write} {b b' : Board}

/-- The claim is held on the subtask. -/
def HeldOn (l : Leases) (c : ClaimId) (id : SubtaskId) : Prop :=
  ∃ row, l.claim c = some row ∧ row.subtaskId = id ∧ row.state = .held

/-! ## Current claims are held -/

/-- The current claim of a subtask is held on it. -/
def CurrentHeld (l : Leases) : Prop :=
  ∀ ⦃id r c⦄, l.subtask id = some r → r.currentClaimId = some c → HeldOn l c id

/-- The claim that opens a cleanup is on the cleanup's subtask. -/
theorem Anchored.opens (hb : Anchored b.toLeases) {changeId : OpenSpecChangeId} {id : SubtaskId}
    {c : ClaimRow} (reserved : id.val = cleanupSubtaskName changeId)
    (source : w = .cleanup ∧ b.claim c.claimId = none ∧ c.subtaskId = id ∨
      w = .reuse ∧ ∃ old, b.claim c.claimId = some old ∧ c.subtaskId = old.subtaskId ∧
        ((∃ r, b.subtask id = some r ∧ r.currentClaimId = some c.claimId) ∨
          (∃ recorded, b.cleanup changeId = some recorded ∧
            recorded.cleanupClaimId = c.claimId) ∨
          old.subtaskId = id)) :
    c.subtaskId = id ∧ ∀ old, b.claim c.claimId = some old → old.subtaskId = id := by
  rcases source with ⟨-, hnew, hsub⟩ | ⟨-, old, hold, hsub, hfrom⟩
  · refine ⟨hsub, fun old hold => ?_⟩
    rw [hnew] at hold
    cases hold
  · have hid := hb.reused reserved hold hfrom
    refine ⟨hsub.trans hid, fun old' hold' => ?_⟩
    rw [hold] at hold'
    cases hold'
    exact hid

theorem CurrentHeld.lease {l : Leases} (m : LeaseMove now b w l) (ha : Anchored b.toLeases)
    (hb : CurrentHeld b.toLeases) : CurrentHeld l := by
  intro id r' k hr' hcur
  cases m with
  | register | touch | exit | markCleanup => exact hb hr' hcur
  | create fresh | createCleanup fresh =>
    rcases put_eq_some.mp hr' with ⟨-, rfl⟩ | ⟨-, hr⟩
    · rw [fresh.claim] at hcur
      cases hcur
    · exact hb hr hcur
  | edit edited =>
    obtain ⟨r, hr, rfl | hedit⟩ := rel_of_some' (edited id) hr'
    · exact hb hr hcur
    · rcases hedit.current with h | ⟨h, -⟩
      · exact hb hr (h ▸ hcur)
      · rw [h] at hcur
        cases hcur
  | claim _ _ _ _ _ _ _ new held =>
    rcases put_eq_some.mp hr' with ⟨hid, rfl⟩ | ⟨-, hr⟩
    · cases hcur
      exact ⟨_, put_self, hid.symm, held⟩
    · obtain ⟨row, hrow, hsub, hst⟩ := hb hr hcur
      exact ⟨row, put_of_new new hrow, hsub, hst⟩
  | @close w c state g clears _ current held closed detach =>
    obtain ⟨r, hr, rfl⟩ := modify_eq_some.mp hr'
    have hne : r.currentClaimId = some k ∧ k ≠ c.claimId := by
      split_ifs at hcur with hid hc
      · subst hid
        rw [(detach r hr hc).current] at hcur
        cases hcur
      · exact ⟨hcur, fun hk => hc (hk ▸ hcur)⟩
      · refine ⟨hcur, fun hk => ?_⟩
        obtain ⟨row, hrow, hsub, -⟩ := hb hr hcur
        rw [hk, current] at hrow
        cases hrow
        exact hid hsub.symm
    obtain ⟨row, hrow, hsub, hst⟩ := hb hr hne.1
    exact ⟨row, (put_of_ne hne.2).trans hrow, hsub, hst⟩
  | @renew c deadline current =>
    obtain ⟨row, hrow, hsub, hst⟩ := hb hr' hcur
    by_cases hk : k = c.claimId
    · subst hk
      rw [current] at hrow
      cases hrow
      exact ⟨_, put_self, hsub, hst⟩
    · exact ⟨row, (put_of_ne hk).trans hrow, hsub, hst⟩
  | @openCleanup _ changeId id' c row σ reserved _ _ held _ _ source =>
    obtain ⟨hsub, hold⟩ := ha.opens reserved source
    obtain ⟨r, hr, rfl⟩ := modify_eq_some.mp hr'
    -- A claim that was current before is held on, under the new row if it is used again.
    have hkeep : r.currentClaimId = some k → HeldOn { b.toLeases with
        claim := put b.claim c.claimId c } k id := by
      intro hc
      obtain ⟨old, hrow, hid, hst⟩ := hb hr hc
      by_cases hk : k = c.claimId
      · subst hk
        exact ⟨c, put_self, hsub.trans ((hold old hrow).symm.trans hid), held⟩
      · exact ⟨old, (put_of_ne hk).trans hrow, hid, hst⟩
    split_ifs at hcur with hid hfree
    · cases hcur
      exact ⟨c, put_self, hsub.trans hid.symm, held⟩
    · exact hkeep hcur
    · exact hkeep hcur
  | @endCleanup changeId row state target recorded =>
    obtain ⟨-, c, hc, hsub⟩ := ha.cleanup recorded
    obtain ⟨r, hr, rfl⟩ := modify_eq_some.mp hr'
    have hne : r.currentClaimId = some k ∧ k ≠ row.cleanupClaimId := by
      split_ifs at hcur with hid hcl
      · exact ⟨hcur, fun hk => hcl (hk ▸ hcur)⟩
      · refine ⟨hcur, fun hk => ?_⟩
        obtain ⟨old, hrow, hid', -⟩ := hb hr hcur
        rw [hk, hc] at hrow
        cases hrow
        exact hid (hid'.symm.trans hsub)
    obtain ⟨old, hrow, hid, hst⟩ := hb hr hne.1
    exact ⟨old, (modify_of_ne hne.2).trans hrow, hid, hst⟩

theorem CurrentHeld.move (m : Move now w b b') (ha : Anchored b.toLeases)
    (hb : CurrentHeld b.toLeases) : CurrentHeld b'.toLeases := by
  cases m with
  | lease m => exact hb.lease m ha
  | ledger m => exact hb
  | apply _ _ _ _ subtask =>
    intro id r' k hr' hcur
    rcases put_eq_some.mp hr' with ⟨rfl, rfl⟩ | ⟨-, hr⟩
    · exact hb subtask hcur
    · exact hb hr hcur

/-! ## Claims are on subtasks -/

/-- Every claim is on a subtask that is there. -/
def ClaimsKnown (l : Leases) : Prop :=
  ∀ ⦃c row⦄, l.claim c = some row → (l.subtask row.subtaskId).isSome

/-- A claim after a move is one from before, on the same subtask, or new on a subtask that was
    there. -/
theorem LeaseMove.claim_source {l : Leases} (m : LeaseMove now b w l) (ha : Anchored b.toLeases)
    {k : ClaimId} {row' : ClaimRow} (h : l.claim k = some row') :
    (∃ row, b.claim k = some row ∧ row.subtaskId = row'.subtaskId) ∨
      (b.subtask row'.subtaskId).isSome := by
  cases m with
  | register | touch | exit | create | edit | createCleanup | markCleanup =>
    exact .inl ⟨row', h, rfl⟩
  | claim subtask =>
    rcases put_eq_some.mp h with ⟨-, rfl⟩ | ⟨-, h⟩
    · rw [subtask]
      exact .inr rfl
    · exact .inl ⟨row', h, rfl⟩
  | close current =>
    rcases put_eq_some.mp h with ⟨rfl, rfl⟩ | ⟨-, h⟩
    · exact .inl ⟨_, current, rfl⟩
    · exact .inl ⟨row', h, rfl⟩
  | renew current =>
    rcases put_eq_some.mp h with ⟨rfl, rfl⟩ | ⟨-, h⟩
    · exact .inl ⟨_, current, rfl⟩
    · exact .inl ⟨row', h, rfl⟩
  | openCleanup reserved _ _ _ _ _ source subtask =>
    rcases put_eq_some.mp h with ⟨-, rfl⟩ | ⟨-, h⟩
    · rw [(ha.opens reserved source).1]
      exact .inr subtask
    · exact .inl ⟨row', h, rfl⟩
  | endCleanup =>
    obtain ⟨row, hrow, rfl⟩ := modify_eq_some.mp h
    refine .inl ⟨row, hrow, ?_⟩
    split_ifs <;> rfl

theorem ClaimsKnown.move (m : Move now w b b') (ha : Anchored b.toLeases)
    (hb : ClaimsKnown b.toLeases) : ClaimsKnown b'.toLeases := by
  intro k row' hrow'
  have hsome : (b.subtask row'.subtaskId).isSome := by
    cases m with
    | lease m =>
      rcases m.claim_source ha hrow' with ⟨row, hrow, hsub⟩ | hsome
      · exact hsub ▸ hb hrow
      · exact hsome
    | ledger m => exact hb hrow'
    | apply => exact hb hrow'
  obtain ⟨r, hr⟩ := Option.isSome_iff_exists.mp hsome
  obtain ⟨r', hr', -⟩ := (m.subtask row'.subtaskId).of_some hr
  rw [hr']
  rfl

/-! ## Cleanup subtasks -/

theorem SubtaskKind.cleanup_allows {source target : SubtaskState}
    (h : SubtaskKind.cleanup.allows source target = true) :
    source = .available ∧ target = .claimed ∨ source = .claimed ∧ target = .inProgress ∨
      target = .applied := by
  cases source <;> cases target <;> simp [SubtaskKind.allows] at h ⊢

/-- A cleanup subtask is free and open or abandoned, or claimed and on its way. -/
def SubtaskRow.Tended (r : SubtaskRow) : Prop :=
  r.currentClaimId = none ∧ (r.state = .available ∨ r.state = .abandoned) ∨
    r.currentClaimId.isSome ∧ (r.state = .claimed ∨ r.state = .inProgress)

theorem SubtaskRow.Tended.edit {r r' : SubtaskRow} (hr : r.Tended) (hkind : r.kind = .cleanup)
    (h : Edit b now w r r') : r'.Tended := by
  cases h with
  | advance _ _ allowed ready =>
    rw [hkind] at allowed
    rcases SubtaskKind.cleanup_allows allowed with ⟨-, rfl⟩ | ⟨hst, rfl⟩ | rfl
    · cases ready
    · rcases hr with ⟨-, hst' | hst'⟩ | ⟨hcur, -⟩
      · rw [hst] at hst'
        cases hst'
      · rw [hst] at hst'
        cases hst'
      · exact .inr ⟨hcur, .inr rfl⟩
    · have hwork : r.kind = .work := ready.1
      rw [hkind] at hwork
      cases hwork
  | retitle => exact hr
  | cancel =>
    refine .inl ⟨rfl, ?_⟩
    rcases hr with ⟨-, hst | hst⟩ | ⟨-, hst | hst⟩ <;>
      simp [SubtaskRow.cancelled, hst, SubtaskState.isTerminal]
  | reopen => exact .inl ⟨rfl, .inl rfl⟩
  | complete _ allowed | strand _ allowed =>
    rw [hkind] at allowed
    rcases SubtaskKind.cleanup_allows allowed with ⟨-, h⟩ | ⟨-, h⟩ | h <;> cases h
  | publish _ kind | revive kind =>
    rw [hkind] at kind
    cases kind

theorem SubtaskRow.Tended.detach {r r' : SubtaskRow} (hr : r.Tended) (hkind : r.kind = .cleanup)
    (hcur : r.currentClaimId.isSome) (h : Detach now w r r') : r'.Tended := by
  have hst : r.state = .claimed ∨ r.state = .inProgress := by
    rcases hr with ⟨hfree, -⟩ | ⟨-, hst⟩
    · rw [hfree] at hcur
      cases hcur
    · exact hst
  cases h with
  | lapse => exact .inl ⟨rfl, .inl (by simp [SubtaskRow.lapsed, hst])⟩
  | abandon => exact .inl ⟨rfl, .inr rfl⟩
  | cancel =>
    refine .inl ⟨rfl, .inr ?_⟩
    rcases hst with hst | hst <;> simp [SubtaskRow.cancelled, hst, SubtaskState.isTerminal]
  | @outcome _ kind _ _ _ allowed =>
    rw [hkind] at allowed
    rcases SubtaskKind.cleanup_allows allowed with ⟨-, h⟩ | ⟨-, h⟩ | h <;> cases kind <;> cases h
  | decide _ allowed | complete _ allowed =>
    rw [hkind] at allowed
    rcases SubtaskKind.cleanup_allows allowed with ⟨-, h⟩ | ⟨-, h⟩ | h <;> cases h

theorem SubtaskRow.Tended.step {id : SubtaskId} {r r' : SubtaskRow} (hr : r.Tended)
    (hkind : r.kind = .cleanup) (h : RowStep b now id w r r') : r'.Tended := by
  cases h with
  | same => exact hr
  | edit h => exact hr.edit hkind h
  | detach claimed h => exact hr.detach hkind claimed h
  | claim => exact .inr ⟨rfl, .inl rfl⟩
  | apply kind =>
    rw [hkind] at kind
    cases kind
  | beginCleanup => exact .inr ⟨rfl, .inr rfl⟩
  | endCleanup _ _ left => exact .inl ⟨rfl, left⟩

/-- Every cleanup subtask is free or on its way, and a claim that is held on one is its current
    claim. -/
structure Tended (l : Leases) : Prop where
  row : ∀ {id r}, l.subtask id = some r → r.kind = .cleanup → r.Tended
  current : ∀ {id r c}, l.subtask id = some r → r.kind = .cleanup → HeldOn l c id →
    r.currentClaimId = some c

/-- An edit leaves a held claim of a cleanup subtask current. -/
theorem Edit.keeps_current {id : SubtaskId} {r r' : SubtaskRow} {k : ClaimId}
    (h : Edit b now w r r') (hr : r.Tended) (hcur : r.currentClaimId = some k)
    (hheld : HeldOn b.toLeases k id) : r'.currentClaimId = some k := by
  obtain ⟨row, hrow, -, hst⟩ := hheld
  cases h with
  | cancel free => exact absurd hst (free k row hcur hrow)
  | reopen _ abandoned =>
    rcases hr with ⟨hfree, -⟩ | ⟨-, h | h⟩
    · rw [hcur] at hfree
      cases hfree
    · rw [abandoned] at h
      cases h
    · rw [abandoned] at h
      cases h
  | complete _ _ _ _ free =>
    rw [hcur] at free
    cases free
  | _ => exact hcur

theorem Tended.current_lease {l : Leases} (m : LeaseMove now b w l) (ha : Anchored b.toLeases)
    (hc : CurrentHeld b.toLeases) (hl : ClaimsKnown b.toLeases) (hb : Tended b.toLeases)
    {id : SubtaskId} {r' : SubtaskRow} {k : ClaimId} (hr' : l.subtask id = some r')
    (hkind : r'.kind = .cleanup) (hheld : HeldOn l k id) : r'.currentClaimId = some k := by
  cases m with
  | register | touch | exit | markCleanup => exact hb.current hr' hkind hheld
  | create _ kind =>
    rcases put_eq_some.mp hr' with ⟨-, rfl⟩ | ⟨-, hr⟩
    · exact absurd hkind kind
    · exact hb.current hr hkind hheld
  | createCleanup _ _ _ absent =>
    rcases put_eq_some.mp hr' with ⟨hid, rfl⟩ | ⟨-, hr⟩
    · obtain ⟨row, hrow, hsub, -⟩ := hheld
      have := hl hrow
      rw [hsub, hid, absent] at this
      cases this
    · exact hb.current hr hkind hheld
  | edit edited =>
    obtain ⟨r, hr, rfl | hedit⟩ := rel_of_some' (edited id) hr'
    · exact hb.current hr hkind hheld
    · rw [hedit.sameWork.kind] at hkind
      exact hedit.keeps_current (hb.row hr hkind) (hb.current hr hkind hheld) hheld
  | @claim r σ c subtask _ _ _ _ _ _ _ _ free =>
    obtain ⟨row, hrow, hsub, hst⟩ := hheld
    rcases put_eq_some.mp hrow with ⟨rfl, rfl⟩ | ⟨hk, hrow⟩
    · rw [← hsub] at hr'
      obtain rfl := Option.some.inj (put_self.symm.trans hr')
      rfl
    · rcases put_eq_some.mp hr' with ⟨rfl, rfl⟩ | ⟨-, hr⟩
      · exact absurd hst (free k row hrow hsub)
      · exact hb.current hr hkind ⟨row, hrow, hsub, hst⟩
  | @close w c state g clears _ current held closed detach =>
    obtain ⟨row, hrow, hsub, hst⟩ := hheld
    obtain ⟨hk, hrow⟩ : k ≠ c.claimId ∧ b.claim k = some row := by
      rcases put_eq_some.mp hrow with ⟨-, rfl⟩ | h
      · exact absurd hst closed
      · exact h
    obtain ⟨r, hr, rfl⟩ := modify_eq_some.mp hr'
    have hkeep : r.kind = .cleanup → r.currentClaimId = some k :=
      fun hkind => hb.current hr hkind ⟨row, hrow, hsub, hst⟩
    split_ifs at hkind ⊢ with hid hcur
    · subst hid
      have := hkeep ((detach r hr hcur).sameWork.kind ▸ hkind)
      rw [hcur] at this
      exact absurd (Option.some.inj this).symm hk
    · exact hkeep hkind
    · exact hkeep hkind
  | @renew c deadline current =>
    obtain ⟨row, hrow, hsub, hst⟩ := hheld
    rcases put_eq_some.mp hrow with ⟨rfl, rfl⟩ | ⟨-, hrow⟩
    · exact hb.current hr' hkind ⟨c, current, hsub, hst⟩
    · exact hb.current hr' hkind ⟨row, hrow, hsub, hst⟩
  | @openCleanup _ changeId id' c row σ reserved _ _ held _ only source _ _ _ reopened =>
    obtain ⟨hsub, -⟩ := ha.opens reserved source
    obtain ⟨r, hr, rfl⟩ := modify_eq_some.mp hr'
    obtain ⟨row, hrow, hid, hst⟩ := hheld
    rcases put_eq_some.mp hrow with ⟨rfl, rfl⟩ | ⟨-, hrow⟩
    · obtain rfl : id' = id := hsub.symm.trans hid
      rw [if_pos rfl] at hkind ⊢
      split_ifs at hkind ⊢ with hfree
      · rfl
      -- The subtask is not free, so its current claim is the only one that is held on it.
      · rcases hb.row hr hkind with ⟨hnone, hopen | hgone⟩ | ⟨hsome, -⟩
        · exact absurd ⟨hopen, hnone⟩ hfree
        · exact absurd hgone (reopened r hr hkind)
        · obtain ⟨k, hk⟩ := Option.isSome_iff_exists.mp hsome
          obtain ⟨row', hrow', hid', hst'⟩ := hc hr hk
          rw [hk, only k row' hrow' (hid'.trans hsub.symm) hst']
    · have hkeep : r.kind = .cleanup → r.currentClaimId = some k :=
        fun hkind => hb.current hr hkind ⟨row, hrow, hid, hst⟩
      split_ifs at hkind ⊢ with hid hfree
      · have := hkeep hkind
        rw [hfree.2] at this
        cases this
      · exact hkeep hkind
      · exact hkeep hkind
  | @endCleanup changeId recorded state target _ closed =>
    obtain ⟨row, hrow, hsub, hst⟩ := hheld
    obtain ⟨hk, hrow⟩ : k ≠ recorded.cleanupClaimId ∧ b.claim k = some row := by
      obtain ⟨old, hold, rfl⟩ := modify_eq_some.mp hrow
      split_ifs at hst ⊢ with hk hheld
      · exact absurd hst closed
      · exact absurd hst hheld
      · exact ⟨hk, hold⟩
    obtain ⟨r, hr, rfl⟩ := modify_eq_some.mp hr'
    have hkeep : r.kind = .cleanup → r.currentClaimId = some k :=
      fun hkind => hb.current hr hkind ⟨row, hrow, hsub, hst⟩
    split_ifs at hkind ⊢ with hid hcur
    · have := hkeep hkind
      rw [hcur] at this
      exact absurd (Option.some.inj this).symm hk
    · exact hkeep hkind
    · exact hkeep hkind

theorem Tended.move (m : Move now w b b') (ha : Anchored b.toLeases)
    (hc : CurrentHeld b.toLeases) (hl : ClaimsKnown b.toLeases) (hb : Tended b.toLeases) :
    Tended b'.toLeases where
  row := by
    intro id r' hr' hkind
    rcases (m.subtask id).of_some' hr' with ⟨r, hr, hstep⟩ | ⟨-, hnew⟩
    · rw [hstep.sameWork.kind] at hkind
      exact (hb.row hr hkind).step hkind hstep
    · exact .inl ⟨hnew.fresh.claim, .inl hnew.fresh.state⟩
  current := by
    cases m with
    | lease m => exact hb.current_lease m ha hc hl
    | ledger m => exact hb.current
    | apply _ _ _ _ subtask kind =>
      intro id r' k hr' hkind hheld
      rcases put_eq_some.mp hr' with ⟨-, rfl⟩ | ⟨-, hr⟩
      · have hwork := kind.symm.trans hkind
        cases hwork
      · exact hb.current hr hkind hheld

end Covey

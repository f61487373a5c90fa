import Covey.Fences

/-!
# Who holds which subtask

A claim is written to three tables: the claim row, the subtask's current claim
and the session's active subtask. `Linked` says that for work and review
subtasks the three agree. Cleanup subtasks are left out: their claims are opened
and closed without the session.

* `Named`: only cleanup subtasks have a reserved id, as long as no caller gives
  one to work or to a review.
* `Linked.move`: every move other than such a misnaming keeps the tables in
  agreement.
-/

namespace Covey

open Relational

variable {now : ℤ} {w : Write} {b b' : Board}

/-! ## Reserved ids -/

/-- Only cleanup subtasks carry a reserved id. -/
def Named (l : Leases) : Prop :=
  ∀ ⦃id r⦄, l.subtask id = some r → ReservedId id → r.kind = .cleanup

theorem Named.move (m : Move now w b b') (hw : w ≠ .misname) (hb : Named b.toLeases) :
    Named b'.toLeases := by
  intro id r' hr' hres
  rcases (m.subtask id).of_some' hr' with ⟨r, hr, hstep⟩ | ⟨-, hnew⟩
  · rw [hstep.sameWork.kind]
    exact hb hr hres
  · rcases hnew.named with ⟨-, ⟨-, hfree⟩ | hmis⟩ | ⟨hkind, -⟩
    · exact absurd hres hfree
    · exact absurd hmis hw
    · exact hkind

/-! ## The three tables -/

/-- The claim `c` of the session `k` is held on the subtask. -/
def HeldBy (l : Leases) (c : ClaimId) (k : SessionToken) (id : SubtaskId) : Prop :=
  ∃ row, l.claim c = some row ∧ row.subtaskId = id ∧ row.ownerSessionToken = k ∧
    row.state = .held

/-- Claims, current claims and active subtasks agree on work and review subtasks. -/
structure Linked (l : Leases) : Prop where
  current : ∀ {id r c}, l.subtask id = some r → r.kind ≠ .cleanup →
    (r.currentClaimId = some c ↔ ∃ k, HeldBy l c k id)
  active : ∀ {k σ id r}, l.session k = some σ → l.subtask id = some r → r.kind ≠ .cleanup →
    (σ.activeSubtaskId = some id ↔ ∃ c, HeldBy l c k id)
  role : ∀ {c row r σ}, l.claim c = some row → row.state = .held →
    l.subtask row.subtaskId = some r → l.session row.ownerSessionToken = some σ →
    σ.role = r.kind.claimRole
  exited : ∀ {k σ}, l.session k = some σ → σ.state = .exited → σ.activeSubtaskId = none
  owner : ∀ {c row}, l.claim c = some row → (l.session row.ownerSessionToken).isSome
  subtask : ∀ {c row}, l.claim c = some row → (l.subtask row.subtaskId).isSome
  known : ∀ {k σ id}, l.session k = some σ → σ.activeSubtaskId = some id → (l.subtask id).isSome

/-- Changes that touch no session, no claim on work or a review, and no link of such a
    subtask. -/
theorem Linked.of_subtasks {l : Leases} (hb : Linked b.toLeases) (hsession : l.session = b.session)
    (hsub : ∀ {id r'}, l.subtask id = some r' → ∃ r, b.subtask id = some r ∧ r'.kind = r.kind ∧
      (r.kind ≠ .cleanup → r'.currentClaimId = r.currentClaimId))
    (hkeep : ∀ {id}, (b.subtask id).isSome → (l.subtask id).isSome)
    (hheld : ∀ {c k id r}, b.subtask id = some r → r.kind ≠ .cleanup →
      (HeldBy l c k id ↔ HeldBy b.toLeases c k id))
    (hrole : ∀ {c row r σ}, l.claim c = some row → row.state = .held →
      b.subtask row.subtaskId = some r → b.session row.ownerSessionToken = some σ →
      σ.role = r.kind.claimRole)
    (howner : ∀ {c row}, l.claim c = some row →
      (b.session row.ownerSessionToken).isSome ∧ (b.subtask row.subtaskId).isSome) : Linked l where
  current := by
    intro id r' c hr' hk
    obtain ⟨r, hr, hkind, hcur⟩ := hsub hr'
    rw [hkind] at hk
    rw [hcur hk, hb.current hr hk]
    simp only [hheld hr hk]
  active := by
    intro k σ id r' hσ hr' hk
    obtain ⟨r, hr, hkind, -⟩ := hsub hr'
    rw [hkind] at hk
    rw [hsession] at hσ
    rw [hb.active hσ hr hk]
    simp only [hheld hr hk]
  role := by
    intro c row r' σ hrow hst hr' hσ
    obtain ⟨r, hr, hkind, -⟩ := hsub hr'
    rw [hsession] at hσ
    rw [hkind]
    exact hrole hrow hst hr hσ
  exited := by
    intro k σ hσ
    rw [hsession] at hσ
    exact hb.exited hσ
  owner := by
    intro c row hrow
    rw [hsession]
    exact (howner hrow).1
  subtask hrow := hkeep (howner hrow).2
  known := by
    intro k σ id hσ hact
    rw [hsession] at hσ
    exact hkeep (hb.known hσ hact)

/-- The case in which the claims stay as they are. -/
theorem Linked.of_rows {l : Leases} (hb : Linked b.toLeases) (hsession : l.session = b.session)
    (hclaim : l.claim = b.claim)
    (hsub : ∀ {id r'}, l.subtask id = some r' → ∃ r, b.subtask id = some r ∧ r'.kind = r.kind ∧
      (r.kind ≠ .cleanup → r'.currentClaimId = r.currentClaimId))
    (hkeep : ∀ {id}, (b.subtask id).isSome → (l.subtask id).isSome) : Linked l := by
  refine hb.of_subtasks hsession hsub hkeep (fun _ _ => ?_) ?_ ?_
  · simp only [HeldBy, hclaim]
  · intro c row r σ hrow hst hr hσ
    rw [hclaim] at hrow
    exact hb.role hrow hst hr hσ
  · intro c row hrow
    rw [hclaim] at hrow
    exact ⟨hb.owner hrow, hb.subtask hrow⟩

/-- A new subtask has no claim. -/
theorem Linked.create {l : Leases} (hb : Linked b.toLeases) {r : SubtaskRow}
    (hsession : l.session = b.session) (hclaim : l.claim = b.claim)
    (hsubtask : l.subtask = put b.subtask r.subtaskId r) (absent : b.subtask r.subtaskId = none)
    (free : r.currentClaimId = none) : Linked l := by
  -- No claim and no session names a subtask that is not there.
  have hnone : ∀ {c row}, b.claim c = some row → row.subtaskId ≠ r.subtaskId := by
    intro c row hrow heq
    have := hb.subtask hrow
    rw [heq, absent] at this
    cases this
  refine ⟨?_, ?_, ?_, ?_, ?_, ?_, ?_⟩
  · intro id r' c hr' hk
    rw [hsubtask] at hr'
    simp only [HeldBy, hclaim]
    rcases put_eq_some.mp hr' with ⟨rfl, rfl⟩ | ⟨-, hr'⟩
    · rw [free]
      constructor
      · intro h
        cases h
      · rintro ⟨k, row, hrow, hid, -⟩
        exact absurd hid (hnone hrow)
    · exact hb.current hr' hk
  · intro k σ id r' hσ hr' hk
    rw [hsession] at hσ
    rw [hsubtask] at hr'
    simp only [HeldBy, hclaim]
    rcases put_eq_some.mp hr' with ⟨rfl, rfl⟩ | ⟨-, hr'⟩
    · constructor
      · intro hact
        have := hb.known hσ hact
        rw [absent] at this
        cases this
      · rintro ⟨c, row, hrow, hid, -⟩
        exact absurd hid (hnone hrow)
    · exact hb.active hσ hr' hk
  · intro c row r' σ hrow hst hr' hσ
    rw [hclaim] at hrow
    rw [hsession] at hσ
    rw [hsubtask, put_of_ne (hnone hrow)] at hr'
    exact hb.role hrow hst hr' hσ
  · intro k σ hσ
    rw [hsession] at hσ
    exact hb.exited hσ
  · intro c row hrow
    rw [hclaim] at hrow
    rw [hsession]
    exact hb.owner hrow
  · intro c row hrow
    rw [hclaim] at hrow
    rw [hsubtask, put_of_ne (hnone hrow)]
    exact hb.subtask hrow
  · intro k σ id hσ hact
    rw [hsession] at hσ
    obtain ⟨r', hr'⟩ := Option.isSome_iff_exists.mp (hb.known hσ hact)
    rw [hsubtask, put_of_new absent hr']
    rfl

/-- Changes of sessions only: a session keeps its subtask, or gives it up when it holds no
    claim. -/
theorem Linked.of_sessions {l : Leases} (hb : Linked b.toLeases) (hclaim : l.claim = b.claim)
    (hsubtask : l.subtask = b.subtask)
    (hold : ∀ {k σ'}, l.session k = some σ' →
      (∃ σ, b.session k = some σ ∧ σ'.role = σ.role ∧
        (σ'.activeSubtaskId = σ.activeSubtaskId ∧ (σ'.state = .exited → σ.state = .exited) ∨
          σ'.activeSubtaskId = none ∧ ∀ c id, ¬HeldBy b.toLeases c k id)) ∨
      (b.session k = none ∧ σ'.activeSubtaskId = none))
    (hkeep : ∀ {k}, (b.session k).isSome → (l.session k).isSome) : Linked l := by
  refine ⟨?_, ?_, ?_, ?_, ?_, ?_, ?_⟩
  · intro id r c hr hk
    rw [hsubtask] at hr
    simp only [HeldBy, hclaim]
    exact hb.current hr hk
  · intro k σ' id r hσ' hr hk
    rw [hsubtask] at hr
    simp only [HeldBy, hclaim]
    rcases hold hσ' with ⟨σ, hσ, -, ⟨hact, -⟩ | ⟨hact, hnone⟩⟩ | ⟨hnew, hact⟩
    · rw [hact]
      exact hb.active hσ hr hk
    · rw [hact]
      constructor
      · intro h
        cases h
      · rintro ⟨c, h⟩
        exact absurd h (hnone c id)
    · rw [hact]
      constructor
      · intro h
        cases h
      · rintro ⟨c, row, hrow, -, hown, -⟩
        have := hb.owner hrow
        rw [hown, hnew] at this
        cases this
  · intro c row r σ' hrow hst hr hσ'
    rw [hclaim] at hrow
    rw [hsubtask] at hr
    rcases hold hσ' with ⟨σ, hσ, hrole, -⟩ | ⟨hnew, -⟩
    · rw [hrole]
      exact hb.role hrow hst hr hσ
    · have := hb.owner hrow
      rw [hnew] at this
      cases this
  · intro k σ' hσ' hex
    rcases hold hσ' with ⟨σ, hσ, -, ⟨hact, hst⟩ | ⟨hact, -⟩⟩ | ⟨-, hact⟩
    · rw [hact]
      exact hb.exited hσ (hst hex)
    · exact hact
    · exact hact
  · intro c row hrow
    rw [hclaim] at hrow
    exact hkeep (hb.owner hrow)
  · intro c row hrow
    rw [hclaim] at hrow
    rw [hsubtask]
    exact hb.subtask hrow
  · intro k σ' id hσ' hact'
    rw [hsubtask]
    rcases hold hσ' with ⟨σ, hσ, -, ⟨hact, -⟩ | ⟨hact, -⟩⟩ | ⟨-, hact⟩
    · exact hb.known hσ (hact ▸ hact')
    · rw [hact] at hact'
      cases hact'
    · rw [hact] at hact'
      cases hact'

/-! ## Opening and closing a claim -/

/-- On work and reviews, the holder of a claim is the session whose active subtask it is. -/
theorem Linked.active_of_held (hb : Linked b.toLeases) {c : ClaimId} {k : SessionToken}
    {σ : SessionRow} {id : SubtaskId} {r : SubtaskRow} (h : HeldBy b.toLeases c k id)
    (hσ : b.session k = some σ) (hr : b.subtask id = some r) (hk : r.kind ≠ .cleanup) :
    σ.activeSubtaskId = some id :=
  (hb.active hσ hr hk).mpr ⟨c, h⟩

/-- Work and reviews have one held claim at most. -/
theorem Linked.held_unique (hb : Linked b.toLeases) {c c' : ClaimId} {k k' : SessionToken}
    {id : SubtaskId} {r : SubtaskRow} (hr : b.subtask id = some r) (hk : r.kind ≠ .cleanup)
    (h : HeldBy b.toLeases c k id) (h' : HeldBy b.toLeases c' k' id) : c = c' := by
  have hc := (hb.current hr hk).mpr ⟨k, h⟩
  have hc' := (hb.current hr hk).mpr ⟨k', h'⟩
  exact Option.some.inj (hc.symm.trans hc')

theorem claimRole_injective {a b : SubtaskKind} (h : a.claimRole = b.claimRole) : a = b := by
  cases a <;> cases b <;> first | rfl | cases h

/-- A session that holds a claim holds none on another work or review subtask: either both
    are its active subtask, or its role does not fit. -/
theorem Linked.held_elsewhere (hb : Linked b.toLeases) {c c' : ClaimId} {k : SessionToken}
    {id id' : SubtaskId} {r' : SubtaskRow} (h : HeldBy b.toLeases c k id)
    (h' : HeldBy b.toLeases c' k id') (hr' : b.subtask id' = some r') (hk' : r'.kind ≠ .cleanup) :
    id' = id := by
  obtain ⟨row, hrow, hid, hown, hheld⟩ := h
  obtain ⟨row', hrow', hid', hown', hheld'⟩ := h'
  obtain ⟨σ, hσ⟩ := Option.isSome_iff_exists.mp (hb.owner hrow)
  obtain ⟨r, hr⟩ := Option.isSome_iff_exists.mp (hb.subtask hrow)
  have hrole := hb.role hrow hheld hr hσ
  have hσ' : b.session row'.ownerSessionToken = some σ := by rw [hown', ← hown, hσ]
  have hrole' := hb.role hrow' hheld' (hid' ▸ hr') hσ'
  have hkind : r.kind ≠ .cleanup := by
    rw [claimRole_injective (hrole.symm.trans hrole')]
    exact hk'
  have hact := hb.active_of_held ⟨row, hrow, rfl, rfl, hheld⟩ hσ hr hkind
  have hact' := hb.active_of_held ⟨row', hrow', hid', rfl, hheld'⟩ hσ' hr' hk'
  rw [hact] at hact'
  rw [← Option.some.inj hact', hid]

/-- An idle session takes a free subtask. -/
theorem Linked.claim {l : Leases} (hb : Linked b.toLeases) {r : SubtaskRow} {σ : SessionRow}
    {c : ClaimRow} {r' : SubtaskRow} {σ' : SessionRow} (hr : b.subtask c.subtaskId = some r)
    (hσ : b.session c.ownerSessionToken = some σ) (hact : σ.state = .active)
    (hidle : σ.activeSubtaskId = none) (hrole : σ.role = r.kind.claimRole)
    (hnew : b.claim c.claimId = none) (hheld : c.state = .held)
    (hfree : ∀ k row, b.claim k = some row → row.subtaskId = c.subtaskId → row.state ≠ .held)
    (hsession : l.session = put b.session c.ownerSessionToken σ')
    (hsubtask : l.subtask = put b.subtask c.subtaskId r')
    (hclaim : l.claim = put b.claim c.claimId c) (hkind : r'.kind = r.kind)
    (hcur : r'.currentClaimId = some c.claimId) (hσact : σ'.activeSubtaskId = some c.subtaskId)
    (hσrole : σ'.role = σ.role) (hσstate : σ'.state = σ.state) : Linked l := by
  -- A claim held afterwards is the new one or was held before, on another subtask.
  have hby : ∀ {k τ id}, HeldBy l k τ id ↔
      (k = c.claimId ∧ τ = c.ownerSessionToken ∧ id = c.subtaskId) ∨
        (id ≠ c.subtaskId ∧ HeldBy b.toLeases k τ id) := by
    intro k τ id
    simp only [HeldBy, hclaim]
    constructor
    · rintro ⟨row, hrow, hid, hown, hst⟩
      rcases put_eq_some.mp hrow with ⟨hk, rfl⟩ | ⟨-, hrow⟩
      · exact .inl ⟨hk, hown.symm, hid.symm⟩
      · refine .inr ⟨?_, row, hrow, hid, hown, hst⟩
        rintro rfl
        exact hfree k row hrow hid hst
    · rintro (⟨rfl, rfl, rfl⟩ | ⟨-, row, hrow, h⟩)
      · exact ⟨c, put_self, rfl, rfl, hheld⟩
      · exact ⟨row, put_of_new hnew hrow, h⟩
  have hsub : ∀ {id r₁}, l.subtask id = some r₁ → ∃ r₀, b.subtask id = some r₀ ∧
      r₁.kind = r₀.kind ∧ (id = c.subtaskId ∧ r₁ = r' ∨ id ≠ c.subtaskId ∧ r₁ = r₀) := by
    intro id r₁ h
    rw [hsubtask] at h
    rcases put_eq_some.mp h with ⟨rfl, rfl⟩ | ⟨hne, h⟩
    · exact ⟨r, hr, hkind, .inl ⟨rfl, rfl⟩⟩
    · exact ⟨r₁, h, rfl, .inr ⟨hne, rfl⟩⟩
  have hses : ∀ {k τ}, l.session k = some τ →
      (k = c.ownerSessionToken ∧ τ = σ') ∨ (k ≠ c.ownerSessionToken ∧ b.session k = some τ) := by
    intro k τ h
    rw [hsession] at h
    rcases put_eq_some.mp h with ⟨hk, rfl⟩ | h
    · exact .inl ⟨hk, rfl⟩
    · exact .inr h
  refine ⟨?_, ?_, ?_, ?_, ?_, ?_, ?_⟩
  · intro id r₁ k h₁ hk
    obtain ⟨r₀, hr₀, hkd, ⟨rfl, rfl⟩ | ⟨hne, rfl⟩⟩ := hsub h₁
    · rw [hcur]
      simp only [hby]
      constructor
      · intro h
        exact ⟨_, .inl ⟨(Option.some.inj h).symm, rfl, trivial⟩⟩
      · rintro ⟨τ, ⟨rfl, -⟩ | ⟨hne, -⟩⟩
        · rfl
        · exact absurd rfl hne
    · simp only [hby, hne, and_false, ne_eq, not_false_eq_true, true_and, false_or]
      exact hb.current hr₀ hk
  · intro k τ id r₁ hτ h₁ hk
    obtain ⟨r₀, hr₀, hkd, hid⟩ := hsub h₁
    rw [hkd] at hk
    simp only [hby]
    rcases hses hτ with ⟨rfl, rfl⟩ | ⟨hne, hτ⟩
    · rw [hσact]
      constructor
      · intro h
        exact ⟨_, .inl ⟨rfl, rfl, (Option.some.inj h).symm⟩⟩
      · rintro ⟨k, ⟨-, -, rfl⟩ | ⟨-, hby⟩⟩
        · rfl
        · have := hb.active_of_held hby hσ hr₀ hk
          rw [hidle] at this
          cases this
    · rw [hb.active hτ hr₀ hk]
      constructor
      · rintro ⟨k', hby'⟩
        refine ⟨k', .inr ⟨?_, hby'⟩⟩
        rintro rfl
        obtain ⟨row, hrow, hid', -, hst⟩ := hby'
        exact hfree k' row hrow hid' hst
      · rintro ⟨k', ⟨-, hτeq, -⟩ | ⟨-, hby'⟩⟩
        · exact absurd hτeq hne
        · exact ⟨k', hby'⟩
  · intro k row r₁ τ hrow hst h₁ hτ
    obtain ⟨r₀, hr₀, hkd, -⟩ := hsub h₁
    rw [hkd]
    rw [hclaim] at hrow
    have hrole₀ : ∀ {τ₀}, b.session row.ownerSessionToken = some τ₀ →
        τ₀.role = r₀.kind.claimRole := by
      intro τ₀ hτ₀
      rcases put_eq_some.mp hrow with ⟨-, rfl⟩ | ⟨-, hrow⟩
      · rw [hσ] at hτ₀
        cases hτ₀
        rw [hr] at hr₀
        cases hr₀
        exact hrole
      · exact hb.role hrow hst hr₀ hτ₀
    rcases hses hτ with ⟨hk, rfl⟩ | ⟨-, hτ⟩
    · rw [hσrole]
      exact hrole₀ (hk ▸ hσ)
    · exact hrole₀ hτ
  · intro k τ hτ hex
    rcases hses hτ with ⟨-, rfl⟩ | ⟨-, hτ⟩
    · rw [hσstate, hact] at hex
      cases hex
    · exact hb.exited hτ hex
  · intro k row hrow
    rw [hclaim] at hrow
    rw [hsession]
    by_cases hk : row.ownerSessionToken = c.ownerSessionToken
    · rw [hk, put_self]
      rfl
    · rw [put_of_ne hk]
      rcases put_eq_some.mp hrow with ⟨-, rfl⟩ | ⟨-, hrow⟩
      · exact absurd rfl hk
      · exact hb.owner hrow
  · intro k row hrow
    rw [hclaim] at hrow
    rw [hsubtask]
    by_cases hk : row.subtaskId = c.subtaskId
    · rw [hk, put_self]
      rfl
    · rw [put_of_ne hk]
      rcases put_eq_some.mp hrow with ⟨-, rfl⟩ | ⟨-, hrow⟩
      · exact absurd rfl hk
      · exact hb.subtask hrow
  · intro k τ id hτ hactive
    rw [hsubtask]
    by_cases hid : id = c.subtaskId
    · rw [hid, put_self]
      rfl
    · rw [put_of_ne hid]
      rcases hses hτ with ⟨-, rfl⟩ | ⟨-, hτ⟩
      · rw [hσact] at hactive
        exact absurd (Option.some.inj hactive).symm hid
      · exact hb.known hτ hactive

/-- A held claim is closed: its subtask is detached and its owner lets go of it. -/
theorem Linked.close {l : Leases} (hb : Linked b.toLeases) {c c' : ClaimRow}
    {g : SubtaskRow → SubtaskRow} {h : SessionRow → SessionRow}
    (hcur : b.claim c.claimId = some c) (hheld : c.state = .held) (hcont : c.Continues c')
    (hclosed : c'.state ≠ .held)
    (hdetach : ∀ r, b.subtask c.subtaskId = some r → (g r).kind = r.kind ∧
      (r.currentClaimId = some c.claimId → (g r).currentClaimId = none) ∧
      (r.currentClaimId ≠ some c.claimId → (g r).currentClaimId = r.currentClaimId))
    (hclear : ∀ σ, (h σ).role = σ.role ∧ (h σ).state = σ.state ∧
      ((h σ).activeSubtaskId = none ∨
        (h σ).activeSubtaskId = σ.activeSubtaskId ∧ σ.activeSubtaskId ≠ some c.subtaskId))
    (hsession : l.session = modify b.session c.ownerSessionToken h)
    (hsubtask : l.subtask = modify b.subtask c.subtaskId g)
    (hclaim : l.claim = put b.claim c.claimId c') : Linked l := by
  have hself : HeldBy b.toLeases c.claimId c.ownerSessionToken c.subtaskId :=
    ⟨c, hcur, rfl, rfl, hheld⟩
  have hby : ∀ {k τ id}, HeldBy l k τ id ↔ k ≠ c.claimId ∧ HeldBy b.toLeases k τ id := by
    intro k τ id
    simp only [HeldBy, hclaim]
    constructor
    · rintro ⟨row, hrow, hid, hown, hst⟩
      rcases put_eq_some.mp hrow with ⟨-, rfl⟩ | ⟨hk, hrow⟩
      · exact absurd hst hclosed
      · exact ⟨hk, row, hrow, hid, hown, hst⟩
    · rintro ⟨hk, row, hrow, h⟩
      exact ⟨row, (put_of_ne hk).trans hrow, h⟩
  have hold : ∀ {k row}, l.claim k = some row → ∃ row₀, b.claim k = some row₀ ∧
      row.subtaskId = row₀.subtaskId ∧ row.ownerSessionToken = row₀.ownerSessionToken := by
    intro k row hrow
    rw [hclaim] at hrow
    rcases put_eq_some.mp hrow with ⟨rfl, rfl⟩ | ⟨-, hrow⟩
    · exact ⟨c, hcur, hcont.subtask, hcont.owner⟩
    · exact ⟨row, hrow, rfl, rfl⟩
  refine ⟨?_, ?_, ?_, ?_, ?_, ?_, ?_⟩
  · intro id r' k hr' hk
    rw [hsubtask] at hr'
    obtain ⟨r, hr, rfl⟩ := modify_eq_some.mp hr'
    simp only [hby]
    by_cases hid : id = c.subtaskId
    · subst hid
      rw [if_pos rfl] at hk ⊢
      obtain ⟨hkind, hnone, -⟩ := hdetach r hr
      rw [hkind] at hk
      rw [hnone ((hb.current hr hk).mpr ⟨_, hself⟩)]
      constructor
      · intro h
        cases h
      · rintro ⟨τ, hne, hτ⟩
        exact absurd (hb.held_unique hr hk hτ hself) hne
    · rw [if_neg hid] at hk ⊢
      rw [hb.current hr hk]
      constructor
      · rintro ⟨τ, hτ⟩
        refine ⟨τ, ?_, hτ⟩
        rintro rfl
        obtain ⟨row, hrow, hid', -⟩ := hτ
        rw [hcur] at hrow
        cases hrow
        exact hid hid'.symm
      · rintro ⟨τ, -, hτ⟩
        exact ⟨τ, hτ⟩
  · intro τ σ' id r' hσ' hr' hk
    rw [hsubtask] at hr'
    rw [hsession] at hσ'
    obtain ⟨r, hr, rfl⟩ := modify_eq_some.mp hr'
    obtain ⟨σ, hσ, rfl⟩ := modify_eq_some.mp hσ'
    replace hk : r.kind ≠ .cleanup := by
      split_ifs at hk with hid
      · subst hid
        rwa [(hdetach r hr).1] at hk
      · exact hk
    simp only [hby]
    -- A claim on the same subtask is the closed one; on another it is not the closed one.
    by_cases hid : id = c.subtaskId
    · subst hid
      have hnot : ¬∃ k, k ≠ c.claimId ∧ HeldBy b.toLeases k τ c.subtaskId := by
        rintro ⟨k, hne, hτ⟩
        exact hne (hb.held_unique hr hk hτ hself)
      refine iff_of_false ?_ hnot
      split_ifs with hτ
      · rcases (hclear σ).2.2 with hn | ⟨he, hne⟩
        · rw [hn]
          intro h
          cases h
        · rw [he]
          exact hne
      · intro hact
        obtain ⟨k, hτheld⟩ := (hb.active hσ hr hk).mp hact
        obtain rfl := hb.held_unique hr hk hτheld hself
        obtain ⟨row, hrow, -, hown, -⟩ := hτheld
        rw [hcur] at hrow
        cases hrow
        exact hτ hown.symm
    · have hiff : (∃ k, k ≠ c.claimId ∧ HeldBy b.toLeases k τ id) ↔
          ∃ k, HeldBy b.toLeases k τ id := by
        constructor
        · rintro ⟨k, -, hτ⟩
          exact ⟨k, hτ⟩
        · rintro ⟨k, hτ⟩
          refine ⟨k, ?_, hτ⟩
          rintro rfl
          obtain ⟨row, hrow, hid', -⟩ := hτ
          rw [hcur] at hrow
          cases hrow
          exact hid hid'.symm
      rw [hiff, ← hb.active hσ hr hk]
      split_ifs with hτ
      · subst hτ
        rcases (hclear σ).2.2 with hn | ⟨he, -⟩
        · rw [hn, hb.active hσ hr hk]
          constructor
          · intro h
            cases h
          · rintro ⟨k, hτ⟩
            exact absurd (hb.held_elsewhere hself hτ hr hk) hid
        · rw [he]
      · rfl
  · intro k row r' σ' hrow hst hr' hσ'
    have hrow₀ : HeldBy l k row.ownerSessionToken row.subtaskId := ⟨row, hrow, rfl, rfl, hst⟩
    obtain ⟨-, row₀, hrow₀, hid₀, hown₀, hst₀⟩ := hby.mp hrow₀
    rw [hsubtask] at hr'
    rw [hsession] at hσ'
    obtain ⟨r, hr, rfl⟩ := modify_eq_some.mp hr'
    obtain ⟨σ, hσ, rfl⟩ := modify_eq_some.mp hσ'
    have hrole := hb.role hrow₀ hst₀ (hid₀ ▸ hr) (hown₀ ▸ hσ)
    have hg : (if row.subtaskId = c.subtaskId then g r else r).kind = r.kind := by
      split_ifs with hid
      · exact (hdetach r (hid ▸ hr)).1
      · rfl
    rw [hg]
    split_ifs
    · rw [(hclear σ).1]
      exact hrole
    · exact hrole
  · intro k σ' hσ' hex
    rw [hsession] at hσ'
    obtain ⟨σ, hσ, rfl⟩ := modify_eq_some.mp hσ'
    split_ifs at hex ⊢
    · rw [(hclear σ).2.1] at hex
      rcases (hclear σ).2.2 with hn | ⟨he, -⟩
      · exact hn
      · rw [he]
        exact hb.exited hσ hex
    · exact hb.exited hσ hex
  · intro k row hrow
    obtain ⟨row₀, hrow₀, -, hown⟩ := hold hrow
    rw [hown, hsession, modify_apply, Option.isSome_map]
    exact hb.owner hrow₀
  · intro k row hrow
    obtain ⟨row₀, hrow₀, hsub, -⟩ := hold hrow
    rw [hsub, hsubtask, modify_apply, Option.isSome_map]
    exact hb.subtask hrow₀
  · intro k σ' id hσ' hact
    rw [hsession] at hσ'
    rw [hsubtask, modify_apply, Option.isSome_map]
    obtain ⟨σ, hσ, rfl⟩ := modify_eq_some.mp hσ'
    split_ifs at hact
    · rcases (hclear σ).2.2 with hn | ⟨he, -⟩
      · rw [hn] at hact
        cases hact
      · exact hb.known hσ (he ▸ hact)
    · exact hb.known hσ hact

/-! ## Every move -/

/-- The claims on reserved subtasks may change as they like. -/
theorem Linked.of_cleanup {l : Leases} (hb : Linked b.toLeases) (hn : Named b.toLeases)
    {id : SubtaskId} {k : ClaimId} {g : SubtaskRow → SubtaskRow} (hres : ReservedId id)
    (hsession : l.session = b.session) (hsubtask : l.subtask = modify b.subtask id g)
    (hkind : ∀ r, (g r).kind = r.kind) (hother : ∀ {c}, c ≠ k → l.claim c = b.claim c)
    (hold : ∀ {row}, b.claim k = some row → row.subtaskId = id)
    (hnew : ∀ {row}, l.claim k = some row → row.subtaskId = id ∧ (b.subtask id).isSome ∧
      ∃ σ, b.session row.ownerSessionToken = some σ ∧
        (row.state = .held → σ.role = .orchestrator)) : Linked l := by
  have hcleanup : ∀ {r}, b.subtask id = some r → r.kind = .cleanup := fun hr => hn hr hres
  refine hb.of_subtasks hsession ?_ ?_ ?_ ?_ ?_
  · intro id' r' hr'
    rw [hsubtask] at hr'
    obtain ⟨r, hr, rfl⟩ := modify_eq_some.mp hr'
    refine ⟨r, hr, ?_, fun hk => ?_⟩
    · split_ifs
      · exact hkind r
      · rfl
    · split_ifs with hid
      · subst hid
        exact absurd (hcleanup hr) hk
      · rfl
  · intro id' h
    rw [hsubtask, modify_apply, Option.isSome_map]
    exact h
  · intro c τ id' r hr hk
    have hid : id' ≠ id := by
      rintro rfl
      exact hk (hcleanup hr)
    simp only [HeldBy]
    by_cases hc : c = k
    · subst hc
      constructor
      · rintro ⟨row, hrow, hsub, -⟩
        exact absurd (hsub.symm.trans (hnew hrow).1) hid
      · rintro ⟨row, hrow, hsub, -⟩
        exact absurd (hsub.symm.trans (hold hrow)) hid
    · rw [hother hc]
  · intro c row r σ hrow hst hr hσ
    by_cases hc : c = k
    · subst hc
      obtain ⟨hsub, -, σ', hσ', hrole⟩ := hnew hrow
      rw [hσ] at hσ'
      cases hσ'
      rw [hrole hst, hcleanup (hsub ▸ hr)]
      rfl
    · rw [hother hc] at hrow
      exact hb.role hrow hst hr hσ
  · intro c row hrow
    by_cases hc : c = k
    · subst hc
      obtain ⟨hsub, hsome, σ, hσ, -⟩ := hnew hrow
      exact ⟨by rw [hσ]; rfl, hsub ▸ hsome⟩
    · rw [hother hc] at hrow
      exact ⟨hb.owner hrow, hb.subtask hrow⟩

theorem Linked.lease {l : Leases} (m : LeaseMove now b w l) (ha : Anchored b.toLeases)
    (hn : Named b.toLeases) (hb : Linked b.toLeases) : Linked l := by
  cases m with
  | register fresh active idle =>
    refine hb.of_sessions rfl rfl ?_ ?_
    · intro k σ' hσ'
      rcases put_eq_some.mp hσ' with ⟨rfl, rfl⟩ | ⟨-, hσ⟩
      · exact .inr ⟨fresh, idle⟩
      · exact .inl ⟨σ', hσ, rfl, .inl ⟨rfl, id⟩⟩
    · intro k h
      obtain ⟨σ, hσ⟩ := Option.isSome_iff_exists.mp h
      exact Option.isSome_iff_exists.mpr ⟨σ, put_of_new fresh hσ⟩
  | touch touched =>
    refine hb.of_sessions rfl rfl ?_ ?_
    · intro k σ' hσ'
      obtain ⟨σ, hσ, ht⟩ := rel_of_some' (touched k) hσ'
      exact .inl ⟨σ, hσ, ht.role, .inl ⟨ht.active, ht.exited⟩⟩
    · intro k h
      obtain ⟨σ, hσ⟩ := Option.isSome_iff_exists.mp h
      obtain ⟨σ', hσ', -⟩ := rel_of_some (touched k) hσ
      exact Option.isSome_iff_exists.mpr ⟨σ', hσ'⟩
  | exit session free =>
    refine hb.of_sessions rfl rfl ?_ ?_
    · intro k σ' hσ'
      rcases put_eq_some.mp hσ' with ⟨rfl, rfl⟩ | ⟨-, hσ⟩
      · refine .inl ⟨_, session, rfl, .inr ⟨rfl, ?_⟩⟩
        rintro c id ⟨row, hrow, -, hown, hst⟩
        exact free c row hrow hown hst
      · exact .inl ⟨σ', hσ, rfl, .inl ⟨rfl, id⟩⟩
    · intro k h
      simp only [put, Function.update_apply]
      split_ifs
      · rfl
      · exact h
  | create fresh _ _ absent => exact hb.create rfl rfl rfl absent fresh.claim
  | createCleanup fresh _ _ absent => exact hb.create rfl rfl rfl absent fresh.claim
  | edit edited =>
    refine hb.of_rows rfl rfl ?_ ?_
    · intro id r' hr'
      obtain ⟨r, hr, rfl | hedit⟩ := rel_of_some' (edited id) hr'
      · exact ⟨r', hr, rfl, fun _ => rfl⟩
      · refine ⟨r, hr, hedit.sameWork.kind, fun hk => ?_⟩
        rcases hedit.current with h | ⟨hnone, hcl | hfree⟩
        · exact h
        · exact absurd hcl hk
        · -- A current claim of work or a review is held, so there was none.
          rw [hnone]
          cases hcur : r.currentClaimId with
          | none => rfl
          | some c =>
            obtain ⟨_, row, hrow, -, -, hheld⟩ := (hb.current hr hk).mp hcur
            exact absurd hheld (hfree c row hcur hrow)
    · intro id h
      obtain ⟨r, hr⟩ := Option.isSome_iff_exists.mp h
      obtain ⟨r', hr', -⟩ := rel_of_some (edited id) hr
      exact Option.isSome_iff_exists.mpr ⟨r', hr'⟩
  | claim subtask _ _ session active idle role new held free =>
    exact hb.claim subtask session active idle role new held free rfl rfl rfl rfl rfl rfl rfl rfl
  | close current held closed detach cleared =>
    refine hb.close current held ?_ ?_ ?_ ?_ rfl rfl rfl
    · exact ⟨rfl, rfl, rfl, fun h => absurd held h⟩
    · exact closed
    · intro r hr
      split_ifs with hc
      · have hdetach := detach r hr hc
        exact ⟨hdetach.sameWork.kind, fun _ => hdetach.current, fun h => absurd hc h⟩
      · exact ⟨rfl, fun h => absurd h hc, fun _ => rfl⟩
    · intro σ
      split_ifs with hc
      · exact ⟨rfl, rfl, .inl rfl⟩
      · exact ⟨rfl, rfl, .inr ⟨rfl, fun h => hc (cleared σ h)⟩⟩
  | @renew c deadline current =>
    have hrow : ∀ {k row}, put b.claim c.claimId { c with leaseDeadline := deadline, updatedAt := now }
        k = some row → ∃ row₀, b.claim k = some row₀ ∧ row₀.subtaskId = row.subtaskId ∧
          row₀.ownerSessionToken = row.ownerSessionToken ∧ row₀.state = row.state := by
      intro k row hrow
      rcases put_eq_some.mp hrow with ⟨rfl, rfl⟩ | ⟨-, hrow⟩
      · exact ⟨c, current, rfl, rfl, rfl⟩
      · exact ⟨row, hrow, rfl, rfl, rfl⟩
    refine hb.of_subtasks rfl (fun {_ r'} hr' => ⟨r', hr', rfl, fun _ => rfl⟩) id ?_ ?_ ?_
    · intro k τ id _ _ _
      constructor
      · rintro ⟨row, h, hid, hown, hst⟩
        obtain ⟨row₀, h₀, hid₀, hown₀, hst₀⟩ := hrow h
        exact ⟨row₀, h₀, hid₀.trans hid, hown₀.trans hown, hst₀.trans hst⟩
      · rintro ⟨row, h, hid, hown, hst⟩
        by_cases hk : k = c.claimId
        · subst hk
          obtain rfl : c = row := Option.some.inj (current.symm.trans h)
          exact ⟨_, put_self, hid, hown, hst⟩
        · exact ⟨row, (put_of_ne hk).trans h, hid, hown, hst⟩
    · intro k row r σ h hst hr hσ
      obtain ⟨row₀, h₀, hid₀, hown₀, hst₀⟩ := hrow h
      exact hb.role h₀ (hst₀.trans hst) (hid₀ ▸ hr) (hown₀ ▸ hσ)
    · intro k row h
      obtain ⟨row₀, h₀, hid₀, hown₀, -⟩ := hrow h
      exact ⟨hown₀ ▸ hb.owner h₀, hid₀ ▸ hb.subtask h₀⟩
  | @openCleanup w changeId id c row σ reserved session role held fence only source subtask =>
    have hid : c.subtaskId = id := by
      rcases source with ⟨-, -, h⟩ | ⟨-, old, hold, h, hfrom⟩
      · exact h
      · exact h.trans (ha.reused reserved hold hfrom)
    refine hb.of_cleanup hn ⟨_, reserved⟩ rfl rfl (fun r => ?_) (fun hk => put_of_ne hk) ?_ ?_
    · split_ifs <;> rfl
    · intro old hold
      rcases source with ⟨-, hnew, -⟩ | ⟨-, old', hold', h, -⟩
      · rw [hnew] at hold
        cases hold
      · rw [hold] at hold'
        cases hold'
        exact h.symm.trans hid
    · intro new hnew
      obtain rfl : c = new := Option.some.inj (put_self.symm.trans hnew)
      exact ⟨hid, subtask, σ, session, fun _ => role⟩
  | @endCleanup changeId row state target recorded closed =>
    obtain ⟨reserved, c, hc, hsub⟩ := ha.cleanup recorded
    have hold : ∀ {old}, b.claim row.cleanupClaimId = some old →
        old.subtaskId = row.cleanupSubtaskId := by
      intro old hold
      obtain rfl : c = old := Option.some.inj (hc.symm.trans hold)
      exact hsub
    refine hb.of_cleanup hn ⟨_, reserved⟩ rfl rfl (fun r => ?_) (fun hk => modify_of_ne hk) hold ?_
    · split_ifs <;> rfl
    · intro new hnew
      obtain ⟨old, hold', rfl⟩ := modify_eq_some.mp hnew
      obtain ⟨σ, hσ⟩ := Option.isSome_iff_exists.mp (hb.owner hold')
      have hid := hold hold'
      have hex : (b.subtask row.cleanupSubtaskId).isSome := hid ▸ hb.subtask hold'
      rw [if_pos rfl]
      split_ifs with hst
      · exact ⟨hid, hex, σ, hσ, fun h => absurd h closed⟩
      · exact ⟨hid, hex, σ, hσ, fun h => absurd h hst⟩
  | markCleanup => exact ⟨hb.current, hb.active, hb.role, hb.exited, hb.owner, hb.subtask, hb.known⟩

theorem Linked.move (m : Move now w b b') (ha : Anchored b.toLeases) (hn : Named b.toLeases)
    (hb : Linked b.toLeases) : Linked b'.toLeases := by
  cases m with
  | lease m => exact hb.lease m ha hn
  | ledger m => exact hb
  | apply _ _ _ _ subtask =>
    refine hb.of_rows rfl rfl ?_ ?_
    · intro id r' hr'
      rcases put_eq_some.mp hr' with ⟨rfl, rfl⟩ | ⟨-, hr⟩
      · exact ⟨_, subtask, rfl, fun _ => rfl⟩
      · exact ⟨r', hr, rfl, fun _ => rfl⟩
    · intro id h
      simp only [put, Function.update_apply]
      split_ifs
      · rfl
      · exact h

end Covey

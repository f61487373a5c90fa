import Covey.Runs.Cleanup

/-!
# Expiry of claims

`expire_old_claims` and `reap_stale_sessions` (maintenance.rs:60-153) load the held
claims that are past their deadline or whose owner is gone, and close them one after
the other.

* `expireClaims_runs`, `expireClaims_expires`: the loop as one change of four tables.
* `claims_expired_iff`: what the two calls do, and when they do it.
-/

namespace Covey

open Relational

variable {now leaseNow : ℤ} {s s' : Db} {claims : List ClaimRow}

/-- The session has stopped working. -/
def SessionRow.Gone (r : SessionRow) : Prop := r.state = .stale ∨ r.state = .exited

/-- The claim is held past its deadline, or by a session that is gone. -/
def ClaimRow.Due (s : Db) (gone : SessionRow → Prop) (leaseNow : ℤ) (c : ClaimRow) : Prop :=
  c.state = .held ∧ (c.leaseDeadline ≤ leaseNow ∨
    ∃ r, s.sessions.get? c.ownerSessionToken = some r ∧ gone r)

/-! ## The loop -/

/-- The store after the claims have been closed, as a change of each table. -/
structure Expires (due : List ClaimRow) (now : ℤ) (s s' : Db) : Prop where
  claims : Table.Updates (fun r => ∃ c ∈ due, c.claimId = r.claimId ∧ r.state = .held)
    (fun r => { r with state := .expired, updatedAt := now }) s.claims s'.claims
  reviews : Table.Updates
    (fun r => ∃ c ∈ due, c.subtaskId = r.reviewSubtaskId ∧ r.state = .inProgress)
    (fun r => { r with state := .requested, updatedAt := now }) s.reviews s'.reviews
  subtasks : Table.Updates
    (fun r => ∃ c ∈ due, c.subtaskId = r.subtaskId ∧ r.currentClaimId = some c.claimId)
    (SubtaskRow.lapsed now) s.subtasks s'.subtasks
  sessions : Table.Updates (fun r => ∃ c ∈ due, c.ownerSessionToken = r.sessionToken ∧
      r.activeSubtaskId = some c.subtaskId)
    (fun r => { r with activeSubtaskId := none, updatedAt := now }) s.sessions s'.sessions
  clock : s'.leaseClock = s.leaseClock

theorem Expires.nil : Expires [] now s s where
  claims := .none (by simp)
  reviews := .none (by simp)
  subtasks := .none (by simp)
  sessions := .none (by simp)
  clock := rfl

/-- Closing one more claim. What it changes, no other claim changes again. -/
theorem Expires.cons {c : ClaimRow} {s₁ : Db} (h : Expires [c] now s s₁)
    (h' : Expires claims now s₁ s') : Expires (c :: claims) now s s' where
  claims := (h.claims.trans h'.claims (by simp)).congr (by simp)
  reviews := (h.reviews.trans h'.reviews (by simp)).congr (by simp)
  subtasks := (h.subtasks.trans h'.subtasks (by simp [SubtaskRow.lapsed])).congr (by simp)
  sessions := (h.sessions.trans h'.sessions (by simp)).congr (by simp)
  clock := h'.clock.trans h.clock

theorem expireClaim_expires {c : ClaimRow} {s₁ : Db} {u u' : Unit}
    (h : expireClaim c now s = (.ok u, s₁)) (h' : clearOwnerOfClaim c now s₁ = (.ok u', s')) :
    Expires [c] now s s' := by
  simp only [expireClaim, closeClaimAndDetach, resetInProgressReviewForExpiredClaim, Tx.bind_ok,
    updateIn_ok, Tx.ensure_ok, Tx.pure_ok] at h
  simp only [clearOwnerOfClaim, Tx.bind_ok, updateIn_ok, Tx.pure_ok] at h'
  obtain ⟨_, _, ⟨_, _, ⟨t₁, h₁, -, rfl⟩, -, rfl⟩, _, _, ⟨_, _, ⟨t₂, h₂, -, rfl⟩, -, rfl⟩, _, _,
    ⟨t₃, h₃, -, rfl⟩, -, rfl⟩ := h
  obtain ⟨_, _, ⟨t₄, h₄, -, rfl⟩, -, rfl⟩ := h'
  exact ⟨(Table.Updates.of_update h₁).congr (by simp [eq_comm]),
    (Table.Updates.of_update h₂).congr (by simp [eq_comm]),
    (Table.Updates.of_update h₃).congr (by simp [eq_comm]),
    (Table.Updates.of_update h₄).congr (by simp [eq_comm]), rfl⟩

/-- A held claim can be closed. -/
theorem expireClaim_runs {c : ClaimRow} (hget : s.claims.get? c.claimId = some c)
    (hheld : c.state = .held) :
    ∃ s₁ s', expireClaim c now s = (.ok (), s₁) ∧ clearOwnerOfClaim c now s₁ = (.ok (), s') := by
  obtain ⟨t₁, h₁⟩ : ∃ t, s.claims.update (fun r => r.claimId = c.claimId ∧ r.state = .held)
      (fun r => { r with state := .expired, updatedAt := now }) = some t :=
    Table.exists_update (fun _ _ => rfl) (fun _ _ _ => rfl) (by simp [claimSchema])
      (by simp [claimSchema])
  obtain ⟨t₂, h₂⟩ : ∃ t, s.reviews.update
      (fun r => r.reviewSubtaskId = c.subtaskId ∧ r.state = .inProgress)
      (fun r => { r with state := .requested, updatedAt := now }) = some t :=
    Table.exists_update (fun _ _ => rfl) (by simp +contextual [reviewSchema])
      (by simp +contextual [reviewSchema, ReviewRow.isOpen])
      (by simp +contextual [reviewSchema, ReviewRow.isOpen])
  obtain ⟨t₃, h₃⟩ : ∃ t, s.subtasks.update
      (fun r => r.subtaskId = c.subtaskId ∧ r.currentClaimId = some c.claimId)
      (SubtaskRow.lapsed now) = some t :=
    Table.exists_update (fun _ _ => rfl) (fun r _ hcheck => by
      simp only [subtaskSchema, SubtaskRow.lapsed, decide_eq_true_eq] at hcheck ⊢
      split_ifs <;> grind) (fun _ _ _ h => h) (fun _ _ _ h => h)
  obtain ⟨t₄, h₄⟩ : ∃ t, s.sessions.update
      (fun r => r.sessionToken = c.ownerSessionToken ∧ r.activeSubtaskId = some c.subtaskId)
      (fun r => { r with activeSubtaskId := none, updatedAt := now }) = some t :=
    Table.exists_update (fun _ _ => rfl) (fun _ _ _ => rfl) (fun _ _ _ h => h) (fun _ _ _ h => h)
  simp only [expireClaim, closeClaimAndDetach, resetInProgressReviewForExpiredClaim,
    clearOwnerOfClaim, Tx.bind_ok, updateIn_ok, Tx.ensure_ok, Tx.pure_ok]
  exact ⟨_, _, ⟨(), _, ⟨_, _, ⟨t₁, h₁, rfl, rfl⟩, Table.count_key_one hget hheld, rfl⟩, (), _,
    ⟨_, _, ⟨t₂, h₂, rfl, rfl⟩, trivial, rfl⟩, _, _, ⟨t₃, h₃, rfl, rfl⟩, trivial, rfl⟩,
    _, _, ⟨t₄, h₄, rfl, rfl⟩, trivial, rfl⟩

theorem expireClaims_expires {u : Unit} (h : expireClaims claims now s = (.ok u, s')) :
    Expires claims now s s' := by
  induction claims generalizing s with
  | nil =>
    obtain ⟨-, rfl⟩ := Tx.pure_ok.mp h
    exact .nil
  | cons c claims ih =>
    simp only [expireClaims, Tx.forEach_cons_ok, Tx.bind_ok] at h
    obtain ⟨s₂, ⟨_, s₁, hexpire, hclear⟩, hrest⟩ := h
    exact (expireClaim_expires hexpire hclear).cons (ih hrest)

/-- The loop goes through: a claim that it has not come to yet is still held. -/
theorem expireClaims_runs (honce : (claims.map (·.claimId)).Nodup)
    (hheld : ∀ c ∈ claims, s.claims.get? c.claimId = some c ∧ c.state = .held) :
    ∃ s', expireClaims claims now s = (.ok (), s') := by
  induction claims generalizing s with
  | nil => exact ⟨s, rfl⟩
  | cons c claims ih =>
    rw [List.map_cons, List.nodup_cons] at honce
    obtain ⟨hget, hst⟩ := hheld c List.mem_cons_self
    obtain ⟨s₁, s₂, hexpire, hclear⟩ : ∃ s₁ s₂, expireClaim c now s = (.ok (), s₁) ∧
        clearOwnerOfClaim c now s₁ = (.ok (), s₂) := expireClaim_runs hget hst
    have hstep := expireClaim_expires hexpire hclear
    obtain ⟨s', hrest⟩ : ∃ s', expireClaims claims now s₂ = (.ok (), s') := by
      refine ih honce.2 fun c' hc' => ?_
      obtain ⟨hget', hst'⟩ := hheld c' (List.mem_cons_of_mem c hc')
      refine ⟨?_, hst'⟩
      obtain ⟨r, hr, ⟨⟨_, hc, hkey, -⟩, -⟩ | ⟨-, rfl⟩⟩ :=
        rel_of_some (hstep.claims.get?_rel (fun _ _ => rfl) c'.claimId) hget'
      · rw [List.mem_singleton.mp hc] at hkey
        exact absurd (List.mem_map.mpr ⟨c', hc', hkey.symm⟩) honce.1
      · exact hr
    refine ⟨s', ?_⟩
    simp only [expireClaims, Tx.forEach_cons_ok, Tx.bind_ok]
    exact ⟨s₂, ⟨(), s₁, hexpire, hclear⟩, hrest⟩

/-! ## The claims that are loaded -/

theorem ClaimRow.load_iff {c : ClaimRow} : c.load = .ok c ↔ c.createdAt ≤ c.updatedAt := by
  unfold ClaimRow.load invalidRow
  split_ifs with h <;> simp <;> omega

/-- The rows that `loadExpirableClaims` selects. -/
def expirable (s : Db) (leaseNow : ℤ) : List ClaimRow :=
  (s.claims.select fun c => c.state = .held ∧ (c.leaseDeadline ≤ leaseNow ∨
    (s.sessions.get? c.ownerSessionToken).any (fun r => r.state = .stale ∨ r.state = .exited) =
      true)).insertionSort claimOrder

theorem mem_expirable {c : ClaimRow} :
    c ∈ expirable s leaseNow ↔ c ∈ s.claims.rows ∧ c.Due s SessionRow.Gone leaseNow := by
  rw [expirable, List.mem_insertionSort, Table.mem_select, ClaimRow.Due]
  simp only [SessionRow.Gone, Option.any_eq_true, decide_eq_true_eq]

theorem expirable_nodup : ((expirable s leaseNow).map (·.claimId)).Nodup := by
  refine ((List.perm_insertionSort _ _).map _).nodup_iff.mpr ?_
  exact (s.claims.nodup_keys).sublist (List.filter_sublist.map _)

theorem loadExpirableClaims_due {s₁ : Db} (h : loadExpirableClaims leaseNow s = (.ok claims, s₁)) :
    claims = expirable s leaseNow ∧ s₁ = s := by
  simp only [loadExpirableClaims, Tx.bind_ok, Tx.get_ok] at h
  obtain ⟨_, _, ⟨rfl, rfl⟩, h⟩ := h
  exact Tx.mapEach_lift_ok ClaimRow.load_val h

theorem loadExpirableClaims_runs :
    (∃ claims s₁, loadExpirableClaims leaseNow s = (.ok claims, s₁)) ↔
      ∀ c ∈ s.claims.rows, c.Due s SessionRow.Gone leaseNow → c.createdAt ≤ c.updatedAt := by
  simp only [← and_imp, ← mem_expirable, ← ClaimRow.load_iff]
  rw [← Tx.mapEach_lift_iff (s := s) ClaimRow.load_val]
  simp only [loadExpirableClaims, Tx.bind_ok, Tx.get_ok]
  constructor
  · rintro ⟨claims, s₁, _, _, ⟨rfl, rfl⟩, h⟩
    exact ⟨claims, s₁, h⟩
  · rintro ⟨claims, s₁, h⟩
    exact ⟨claims, s₁, s, s, ⟨rfl, rfl⟩, h⟩

/-- Loading the claims and closing them. -/
theorem expiry_runs (s : Db) (leaseNow now : ℤ) :
    (∃ claims s₁ s', loadExpirableClaims leaseNow s = (.ok claims, s₁) ∧
      expireClaims claims now s₁ = (.ok (), s')) ↔
      ∀ c ∈ s.claims.rows, c.Due s SessionRow.Gone leaseNow → c.createdAt ≤ c.updatedAt := by
  rw [← loadExpirableClaims_runs]
  constructor
  · rintro ⟨claims, s₁, -, h, -⟩
    exact ⟨claims, s₁, h⟩
  · rintro ⟨claims, s₁, h⟩
    obtain ⟨rfl, rfl⟩ := loadExpirableClaims_due h
    obtain ⟨s', hs'⟩ : ∃ s', expireClaims (expirable s₁ leaseNow) now s₁ = (.ok (), s') := by
      refine expireClaims_runs expirable_nodup fun c hc => ?_
      obtain ⟨hmem, hdue⟩ := mem_expirable.mp hc
      exact ⟨Table.get?_key hmem, hdue.1⟩
    exact ⟨_, s₁, s', h, hs'⟩

/-! ## The two calls -/

/-- The claims `due` are those to expire, and they have been closed: the store after the call. The
    sessions with `lapses` have become stale before. -/
structure ClaimsExpired (lapses : SessionRow → Prop) (leaseNow now : ℤ) (due : List ClaimRow)
    (s s' : Db) : Prop where
  exactly : ∀ c, c ∈ due ↔
    c ∈ s.claims.rows ∧ c.Due s (fun r => lapses r ∨ r.Gone) leaseNow
  once : due.Nodup
  changes : ∃ sessions, Table.Updates lapses (fun r => { r with state := .stale, updatedAt := now })
    s.sessions sessions ∧ Expires due now { s with sessions := sessions, leaseClock := leaseNow } s'
  left : ∀ c ∈ s'.claims.rows, ¬c.Due s' SessionRow.Gone leaseNow
  freed : ∀ c ∈ due, ∀ r, s.subtasks.get? c.subtaskId = some r →
    ∃ r', s'.subtasks.get? c.subtaskId = some r' ∧ r'.currentClaimId = none ∧
      r'.state = if r.state = .claimed ∨ r.state = .inProgress then .available else r.state

section

variable {lapses : SessionRow → Prop} {sessions : Table sessionSchema}

/-- Who is gone after the sessions with `lapses` have become stale. -/
theorem due_of_lapsed
    (h : Table.Updates lapses (fun r => { r with state := .stale, updatedAt := now }) s.sessions
      sessions) (leaseNow : ℤ) (c : ClaimRow) :
    c.Due { s with sessions := sessions, leaseClock := leaseNow } SessionRow.Gone leaseNow ↔
      c.Due s (fun r => lapses r ∨ r.Gone) leaseNow := by
  refine and_congr_right fun _ => or_congr_right ?_
  have hrel := h.get?_rel (fun _ _ => rfl) c.ownerSessionToken
  constructor
  · rintro ⟨r', hr', hgone⟩
    obtain ⟨r, hr, ⟨hlapses, rfl⟩ | ⟨-, rfl⟩⟩ := rel_of_some' hrel hr'
    · exact ⟨r, hr, .inl hlapses⟩
    · exact ⟨r', hr, .inr hgone⟩
  · rintro ⟨r, hr, hgone⟩
    obtain ⟨r', hr', ⟨-, rfl⟩ | ⟨hnot, rfl⟩⟩ := rel_of_some hrel hr
    · exact ⟨_, hr', .inl rfl⟩
    · exact ⟨r', hr', hgone.resolve_left hnot⟩

/-- After the claims that are due have been closed, none is. -/
theorem Expires.left {due : List ClaimRow} (h : Expires due now s s')
    (hdue : ∀ c, c ∈ due ↔ c ∈ s.claims.rows ∧ c.Due s SessionRow.Gone leaseNow) :
    ∀ c ∈ s'.claims.rows, ¬c.Due s' SessionRow.Gone leaseNow := by
  rintro c' hc' ⟨hheld, hover⟩
  obtain ⟨c, hc, ⟨-, rfl⟩ | ⟨hnot, rfl⟩⟩ := h.claims.of_mem hc'
  · cases hheld
  refine hnot ⟨c', (hdue c').mpr ⟨hc, hheld, hover.imp id ?_⟩, rfl, hheld⟩
  rintro ⟨r', hr', hgone⟩
  obtain ⟨r, hr, ⟨-, rfl⟩ | ⟨-, rfl⟩⟩ :=
    rel_of_some' (h.sessions.get?_rel (fun _ _ => rfl) c'.ownerSessionToken) hr'
  · exact ⟨r, hr, hgone⟩
  · exact ⟨r', hr, hgone⟩

/-- A subtask that is worked on has a current claim. -/
def SubtaskRow.Occupied (r : SubtaskRow) : Prop :=
  r.state = .claimed ∨ r.state = .inProgress → r.currentClaimId.isSome

theorem SubtaskRow.occupied_of_idle {r : SubtaskRow} (h : r.state ≠ .claimed)
    (h' : r.state ≠ .inProgress) : r.Occupied :=
  fun hbusy => (hbusy.elim h h').elim

theorem SubtaskState.isTerminal_idle {x : SubtaskState} (h : x.isTerminal) :
    x ≠ .claimed ∧ x ≠ .inProgress := by
  cases x <;> simp [SubtaskState.isTerminal] at h ⊢

theorem SubtaskRow.cancelled_occupied {r : SubtaskRow} : (r.cancelled now).Occupied := by
  unfold SubtaskRow.cancelled
  split_ifs with h
  · exact occupied_of_idle (SubtaskState.isTerminal_idle h).1 (SubtaskState.isTerminal_idle h).2
  · exact occupied_of_idle (by simp) (by simp)

theorem Edit.occupied {b : Board} {w : Write} {r r' : SubtaskRow} (h : Edit b now w r r')
    (hr : r.Occupied) : r'.Occupied := by
  cases h with
  | @advance _ _ target _ _ allowed ready =>
    rintro (htarget | htarget)
    · change target = .claimed at htarget
      subst htarget
      exact ready.elim
    · change target = .inProgress at htarget
      subst htarget
      refine hr (.inl ?_)
      cases hkind : r.kind <;> cases hstate : r.state <;>
        simp [SubtaskKind.allows, hkind, hstate] at allowed
      all_goals rfl
  | retitle => exact hr
  | cancel => exact SubtaskRow.cancelled_occupied
  | publish | complete | revive | reopen | strand =>
    exact SubtaskRow.occupied_of_idle (by simp) (by simp)

theorem Detach.occupied {w : Write} {r r' : SubtaskRow} (h : Detach now w r r') : r'.Occupied := by
  cases h with
  | lapse =>
    unfold SubtaskRow.lapsed
    split_ifs with h
    · exact SubtaskRow.occupied_of_idle (by simp) (by simp)
    · exact SubtaskRow.occupied_of_idle (fun h' => h (.inl h')) (fun h' => h (.inr h'))
  | cancel => exact SubtaskRow.cancelled_occupied
  | @outcome _ kind =>
    cases kind <;>
      exact SubtaskRow.occupied_of_idle (by simp [AttemptOutcomeKind.nextState])
        (by simp [AttemptOutcomeKind.nextState])
  | abandon | decide | complete => exact SubtaskRow.occupied_of_idle (by simp) (by simp)

theorem RowStep.occupied {b : Board} {w : Write} {id : SubtaskId} {r r' : SubtaskRow}
    (h : RowStep b now id w r r') (hr : r.Occupied) : r'.Occupied := by
  cases h with
  | same => exact hr
  | edit h => exact h.occupied hr
  | detach _ h => exact h.occupied
  | claim | beginCleanup => exact fun _ => rfl
  | apply => exact SubtaskRow.occupied_of_idle (by simp) (by simp)
  | endCleanup _ _ left =>
    rcases left with rfl | rfl <;> exact SubtaskRow.occupied_of_idle (by simp) (by simp)

theorem reach_occupied {env : Env} {calls : List Call}
    (hrun : Run.Along (next env) Call.Fresh Db.init calls) :
    ∀ id r, (reach env calls).board.subtask id = some r → r.Occupied := by
  refine (Run.invariant (I := fun s : Db => Anchored s.board.toLeases ∧
      ∀ id r, s.board.subtask id = some r → r.Occupied)
    (fun s c hc h => ⟨next_anchored hc h.1, ?_⟩) hrun ⟨init_anchored, fun _ _ h => nomatch h⟩).2
  refine hc.invariant (I := fun b => ∀ id r, b.subtask id = some r → r.Occupied) h.1
    (fun m hb id r' hr' => ?_) h.2
  rcases (m.subtask id).of_some' hr' with ⟨r, hr, hstep⟩ | ⟨-, hnew⟩
  · exact hstep.occupied (hb id r hr)
  · exact SubtaskRow.occupied_of_idle (by simp [hnew.fresh.state]) (by simp [hnew.fresh.state])

/-- The subtask of a claim that has been closed is free, whatever claim was its current one. -/
theorem Expires.freed {due : List ClaimRow} (h : Expires due now s s')
    (hdue : ∀ c ∈ due, c ∈ s.claims.rows ∧ c.state = .held)
    (hcurrent : CurrentHeld s.board.toLeases)
    (hoccupied : ∀ id r, s.board.subtask id = some r → r.Occupied) {c : ClaimRow} (hc : c ∈ due)
    {r : SubtaskRow} (hr : s.subtasks.get? c.subtaskId = some r) :
    ∃ r', s'.subtasks.get? c.subtaskId = some r' ∧ r'.currentClaimId = none ∧
      r'.state = if r.state = .claimed ∨ r.state = .inProgress then .available else r.state := by
  have hkey : r.subtaskId = c.subtaskId := Table.key_of_get? hr
  obtain ⟨r', hr', ⟨-, rfl⟩ | ⟨hnot, rfl⟩⟩ :=
    rel_of_some (h.subtasks.get?_rel (fun _ _ => rfl) c.subtaskId) hr
  · exact ⟨_, hr', rfl, rfl⟩
  have hnone : r'.currentClaimId = none := by
    cases hcur : r'.currentClaimId with
    | none => rfl
    | some k =>
      -- The current claim is held, and the table has one held claim on a subtask at most.
      obtain ⟨row, hrow, hsub, hheld⟩ := hcurrent hr hcur
      obtain ⟨hmem, hst⟩ := hdue c hc
      have hsame : c = row := s.claims.eq_of_clash hmem (Table.mem_of_get? hrow)
        (by simp [claimSchema, hsub, hst, hheld]) (by simp [claimSchema, hsub, hst, hheld])
      have hk : row.claimId = k := Table.key_of_get? hrow
      exact absurd ⟨c, hc, hkey.symm, by rw [hcur, hsame, hk]⟩ hnot
  refine ⟨r', hr', hnone, ?_⟩
  rw [if_neg fun hbusy => ?_]
  have hsome := hoccupied _ _ hr hbusy
  rw [hnone] at hsome
  cases hsome

theorem Expires.claimsExpired {s₂ : Db}
    (hstale : Table.Updates lapses (fun r => { r with state := .stale, updatedAt := now })
      s.sessions sessions)
    (hload : loadExpirableClaims leaseNow { s with sessions := sessions, leaseClock := leaseNow } =
      (.ok claims, s₂)) (hexpire : Expires claims now s₂ s')
    (hcurrent : CurrentHeld s.board.toLeases)
    (hoccupied : ∀ id r, s.board.subtask id = some r → r.Occupied) :
    ClaimsExpired lapses leaseNow now claims s s' := by
  obtain ⟨hclaims, rfl⟩ := loadExpirableClaims_due hload
  have hmem : ∀ c, c ∈ claims ↔ _ := fun c => hclaims ▸ mem_expirable
  refine ⟨fun c => (hmem c).trans (and_congr_right fun _ => due_of_lapsed hstale _ c), ?_,
    ⟨sessions, hstale, hexpire⟩, hexpire.left hmem, fun c hc r hr => ?_⟩
  · rw [hclaims]
    exact .of_map _ expirable_nodup
  · exact hexpire.freed (fun c hc => ⟨((hmem c).mp hc).1, ((hmem c).mp hc).2.1⟩) hcurrent hoccupied
      hc hr

/-- The event at the end changes no table. -/
theorem Expires.announced {due : List ClaimRow} {s₁ : Db} {p : Prop} [Decidable p]
    {eventType : EventType} {objectType : ObjectType} {objectId : String} {u : Unit}
    (h : Expires due now s s₁)
    (h' : Tx.whenever p (appendSystemEvent eventType objectType objectId now) s₁ = (.ok u, s')) :
    Expires due now s s' := by
  rcases Tx.whenever_ok.mp h' with ⟨-, hevent⟩ | ⟨-, rfl⟩
  · obtain ⟨-, -, rfl⟩ := appendEvent_ok.mp hevent
    exact ⟨h.claims, h.reviews, h.subtasks, h.sessions, h.clock⟩
  · exact h

/-- An event has a time. -/
theorem announce_runs {p : Prop} [Decidable p] {eventType : EventType} {objectType : ObjectType}
    {objectId : String} (hid : ScalarField.eventObjectId.validator objectId = none) (s : Db) :
    (∃ s', Tx.whenever p (appendSystemEvent eventType objectType objectId now) s = (.ok (), s')) ↔
      (p → 0 ≤ now) := by
  simp only [Tx.whenever_ok, appendSystemEvent, appendEvent_ok]
  constructor
  · rintro ⟨s', ⟨-, hnow, -⟩ | ⟨hp, -⟩⟩
    · exact fun _ => hnow
    · exact fun h => absurd h hp
  · intro h
    by_cases hp : p
    · exact ⟨_, .inl ⟨hp, h hp, hid, rfl⟩⟩
    · exact ⟨s, .inr ⟨hp, rfl⟩⟩

end

theorem ClaimsExpired.of_uuids {lapses : SessionRow → Prop} {uuids : ℕ → Uuid}
    (h : ClaimsExpired lapses leaseNow now claims { s with uuids := uuids } s') :
    ClaimsExpired lapses leaseNow now claims s s' := by
  obtain ⟨sessions, hstale, hx⟩ := h.changes
  exact ⟨h.exactly, h.once,
    ⟨sessions, hstale, hx.claims, hx.reviews, hx.subtasks, hx.sessions, hx.clock⟩, h.left, h.freed⟩

section Calls

variable {env : Env} {calls : List Call} {threshold : ℤ} {v : Response}

/-- The sessions that `reap_stale_sessions` marks. -/
def SessionRow.Lapses (leaseNow threshold : ℤ) (r : SessionRow) : Prop :=
  r.state = .active ∧ r.lastHeartbeatTick ≤ subI64 leaseNow threshold

instance : DecidablePred (SessionRow.Lapses leaseNow threshold) :=
  fun _ => inferInstanceAs (Decidable (_ ∧ _))

theorem expireOldClaims_ok (h : expireOldClaims now s = (.ok v, s'))
    (hlease : leaseNow = max s.leaseClock (max now 0)) (hcurrent : CurrentHeld s.board.toLeases)
    (hoccupied : ∀ id r, s.board.subtask id = some r → r.Occupied) :
    ∃ due, v = .expired due.length ∧ ClaimsExpired (fun _ => False) leaseNow now due s s' := by
  simp only [expireOldClaims, Tx.bind_ok, advanceLeaseClock_ok, Tx.pure_ok, ← hlease] at h
  obtain ⟨_, _, ⟨rfl, rfl⟩, due, s₁, hload, _, s₂, hexpire, _, s₃, hevent, rfl, rfl⟩ := h
  exact ⟨due, rfl, Expires.claimsExpired (.none fun _ => id) hload
    ((expireClaims_expires hexpire).announced hevent) hcurrent hoccupied⟩

theorem expireOldClaims_runs (hlease : leaseNow = max s.leaseClock (max now 0)) :
    (∃ v s', expireOldClaims now s = (.ok v, s')) ↔
      ∀ c ∈ s.claims.rows, c.Due s SessionRow.Gone leaseNow →
        c.createdAt ≤ c.updatedAt ∧ 0 ≤ now := by
  have hiff := expiry_runs { s with leaseClock := leaseNow } leaseNow now
  have hid : ScalarField.eventObjectId.validator "expired" = none := by decide +kernel
  simp only [expireOldClaims, Tx.bind_ok, advanceLeaseClock_ok, Tx.pure_ok, ← hlease]
  constructor
  · rintro ⟨_, _, _, _, ⟨rfl, rfl⟩, due, s₁, hload, _, s₂, hexpire, _, s₃, hevent, -⟩ c hc hdue
    refine ⟨hiff.mp ⟨due, s₁, s₂, hload, hexpire⟩ c hc hdue, (announce_runs hid s₂).mp ⟨s₃, hevent⟩ ?_⟩
    obtain ⟨rfl, -⟩ := loadExpirableClaims_due hload
    exact List.ne_nil_of_mem (mem_expirable.mpr ⟨hc, hdue⟩)
  · intro h
    obtain ⟨due, s₁, s₂, hload, hexpire⟩ := hiff.mpr fun c hc hdue => (h c hc hdue).1
    obtain ⟨s₃, hevent⟩ := (announce_runs (p := due ≠ []) hid s₂).mpr fun hne => by
      obtain ⟨rfl, -⟩ := loadExpirableClaims_due hload
      obtain ⟨c, hc⟩ := List.exists_mem_of_ne_nil _ hne
      obtain ⟨hc, hdue⟩ := mem_expirable.mp hc
      exact (h c hc hdue).2
    exact ⟨_, s₃, leaseNow, _, ⟨rfl, rfl⟩, due, s₁, hload, (), s₂, hexpire, (), s₃, hevent, rfl, rfl⟩

theorem reapStaleSessions_ok (h : reapStaleSessions threshold now s = (.ok v, s'))
    (hlease : leaseNow = max s.leaseClock (max now 0)) (hcurrent : CurrentHeld s.board.toLeases)
    (hoccupied : ∀ id r, s.board.subtask id = some r → r.Occupied) :
    ∃ due n, v = .staleSessions n ∧
      ClaimsExpired (SessionRow.Lapses leaseNow threshold) leaseNow now due s s' := by
  simp only [reapStaleSessions, Tx.bind_ok, advanceLeaseClock_ok, updateIn_ok, Tx.pure_ok,
    ← hlease] at h
  obtain ⟨_, _, ⟨rfl, rfl⟩, n, _, ⟨t, ht, -, rfl⟩, due, s₁, hload, _, s₂, hexpire, _, s₃, hevent,
    rfl, rfl⟩ := h
  exact ⟨due, n, rfl, Expires.claimsExpired (.of_update ht) hload
    ((expireClaims_expires hexpire).announced hevent) hcurrent hoccupied⟩

theorem reapStaleSessions_runs (hlease : leaseNow = max s.leaseClock (max now 0)) :
    (∃ v s', reapStaleSessions threshold now s = (.ok v, s')) ↔
      (∀ c ∈ s.claims.rows,
        c.Due s (fun r => r.Lapses leaseNow threshold ∨ r.Gone) leaseNow →
        c.createdAt ≤ c.updatedAt) ∧
      ∀ r ∈ s.sessions.rows, r.Lapses leaseNow threshold → 0 ≤ now := by
  have hid : ScalarField.eventObjectId.validator "stale" = none := by decide +kernel
  obtain ⟨t, ht⟩ : ∃ t, s.sessions.update (SessionRow.Lapses leaseNow threshold)
      (fun r => { r with state := .stale, updatedAt := now }) = some t :=
    Table.exists_update (fun _ _ => rfl) (fun _ _ _ => rfl) (by simp [sessionSchema])
      (by simp [sessionSchema])
  have hiff := expiry_runs { s with sessions := t, leaseClock := leaseNow } leaseNow now
  have hstale := due_of_lapsed (s := s) (Table.Updates.of_update ht) leaseNow
  have hcount : 0 < s.sessions.count (SessionRow.Lapses leaseNow threshold) ↔
      ∃ r ∈ s.sessions.rows, r.Lapses leaseNow threshold := by
    simp [Table.count, List.countP_pos_iff]
  simp only [hstale] at hiff
  rw [← hiff]
  simp only [reapStaleSessions, Tx.bind_ok, advanceLeaseClock_ok, updateIn_ok, Tx.pure_ok, ← hlease]
  constructor
  · rintro ⟨_, _, _, _, ⟨rfl, rfl⟩, n, _, ⟨t', ht', hn, rfl⟩, due, s₁, hload, _, s₂, hexpire, _, s₃,
      hevent, -⟩
    obtain rfl : t = t' := Option.some.inj (ht.symm.trans ht')
    refine ⟨⟨due, s₁, s₂, hload, hexpire⟩, fun r hr hlapses => ?_⟩
    refine (announce_runs hid s₂).mp ⟨s₃, hevent⟩ ?_
    rw [← hn]
    exact hcount.mpr ⟨r, hr, hlapses⟩
  · rintro ⟨⟨due, s₁, s₂, hload, hexpire⟩, hnow⟩
    obtain ⟨s₃, hevent⟩ := (announce_runs hid s₂).mpr fun hpos => by
      obtain ⟨r, hr, hlapses⟩ := hcount.mp hpos
      exact hnow r hr hlapses
    exact ⟨_, s₃, leaseNow, _, ⟨rfl, rfl⟩, _, _, ⟨t, ht, rfl, rfl⟩, due, s₁, hload, (), s₂, hexpire,
      (), s₃, hevent, rfl, rfl⟩

/-- After every run, at every reading, the two calls close exactly the claims that are due. They do
    so if the claims load and the events of the call have a time. -/
theorem claims_expired_iff (hrun : Run.Along (next env) Call.Fresh Db.init calls)
    (hs : s = reach env calls) (hlease : leaseNow = max s.leaseClock (max now 0))
    (uuids : ℕ → Uuid) :
    ((∃ due s', step env s ⟨.expireOldClaims, now, uuids⟩ = (.ok (.expired due.length), s') ∧
        ClaimsExpired (fun _ => False) leaseNow now due s s') ↔
      ∀ c ∈ s.claims.rows, c.Due s SessionRow.Gone leaseNow →
        c.createdAt ≤ c.updatedAt ∧ 0 ≤ now) ∧
    ∀ threshold,
      ((∃ due n s', step env s ⟨.reapStaleSessions threshold, now, uuids⟩ =
          (.ok (.staleSessions n), s') ∧
          ClaimsExpired (SessionRow.Lapses leaseNow threshold) leaseNow now due s s') ↔
        (∀ c ∈ s.claims.rows,
          c.Due s (fun r => r.Lapses leaseNow threshold ∨ r.Gone) leaseNow →
          c.createdAt ≤ c.updatedAt) ∧
        ∀ r ∈ s.sessions.rows, r.Lapses leaseNow threshold → 0 ≤ now) := by
  have hcurrent : CurrentHeld s.board.toLeases := hs ▸ (reach_currentHeld hrun).2
  have hoccupied : ∀ id r, s.board.subtask id = some r → r.Occupied := hs ▸ reach_occupied hrun
  refine ⟨Iff.trans ?_ (expireOldClaims_runs (s := { s with uuids := uuids }) hlease),
    fun threshold => Iff.trans ?_ (reapStaleSessions_runs (s := { s with uuids := uuids }) hlease)⟩
  · constructor
    · rintro ⟨due, s', hstep, -⟩
      exact ⟨_, s', Tx.commit_ok.mp hstep⟩
    · rintro ⟨v, s', hcall⟩
      obtain ⟨due, rfl, h⟩ := expireOldClaims_ok hcall hlease hcurrent hoccupied
      exact ⟨due, s', Tx.commit_ok.mpr hcall, h.of_uuids⟩
  · constructor
    · rintro ⟨due, n, s', hstep, -⟩
      exact ⟨_, s', Tx.commit_ok.mp hstep⟩
    · rintro ⟨v, s', hcall⟩
      obtain ⟨due, n, rfl, h⟩ := reapStaleSessions_ok hcall hlease hcurrent hoccupied
      exact ⟨due, n, s', Tx.commit_ok.mpr hcall, h.of_uuids⟩

end Calls

/-! ## Runs -/

open Script in
/-- An executor holds work under a claim of the reading 10. -/
def held : List (ℤ × (IdempotencyKey → Operation)) :=
  [(0, register "orch" .orchestrator), (0, register "exec" .executor), (1, submit (session 0)),
    (2, create (session 0) (metaTask 2) "a" .direct), (10, take (session 1) "a")]

theorem claims_expired_held :
    Run.Along (next Script.env) Call.Fresh Db.init (Script.calls held) ∧
      (∃ c ∈ (reach Script.env (Script.calls held)).claims.rows,
        c.state = .held ∧ c.leaseDeadline ≤ 5000) ∧
      ∃ due s', step Script.env (reach Script.env (Script.calls held))
          ⟨.expireOldClaims, 5000, Script.uuid 5⟩ = (.ok (.expired due.length), s') ∧
        ClaimsExpired (fun _ => False) 5000 5000 due (reach Script.env (Script.calls held)) s' := by
  have hscript : Run.Along (next Script.env) Call.Fresh Db.init (Script.calls held) ∧
      (reach Script.env (Script.calls held)).leaseClock = 10 ∧
      (∃ c ∈ (reach Script.env (Script.calls held)).claims.rows,
        c.state = .held ∧ c.leaseDeadline ≤ 5000) ∧
      ∀ c ∈ (reach Script.env (Script.calls held)).claims.rows, c.createdAt ≤ c.updatedAt := by
    decide +kernel
  obtain ⟨hrun, hclock, hheld, hordered⟩ := hscript
  have hlease : (5000 : ℤ) =
      max (reach Script.env (Script.calls held)).leaseClock (max 5000 0) := by
    rw [hclock]
    rfl
  exact ⟨hrun, hheld, (claims_expired_iff hrun rfl hlease (Script.uuid 5)).1.mpr
    fun c hc _ => ⟨hordered c hc, by decide⟩⟩

open Script in
/-- The clock goes back to 5, the claim is renewed, and time goes on. -/
def skewed : List Call :=
  calls (held ++ [(5, fun key => .renewClaim ⟨session 1, claim 4, fence 0, lease, key⟩),
    (20000, register "late" .executor)])

/-- The claim does not load any more: it stays held past its deadline, and the call fails. -/
theorem skewed_claim_stays :
    Run.Along (next Script.env) Call.Fresh Db.init skewed ∧
      (step Script.env (reach Script.env skewed)
        ⟨.expireOldClaims, 20000, Script.uuid 7⟩).1.isOk = false ∧
      ∃ c ∈ (next Script.env (reach Script.env skewed)
          ⟨.expireOldClaims, 20000, Script.uuid 7⟩).claims.rows,
        c.state = .held ∧ c.leaseDeadline ≤ (next Script.env (reach Script.env skewed)
          ⟨.expireOldClaims, 20000, Script.uuid 7⟩).leaseClock := by
  decide +kernel

end Covey

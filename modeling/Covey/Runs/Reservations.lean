import Covey.Script
import Covey.Shelf
import Mathlib.Data.Sym.Sym2

/-!
# Reservations and their conflicts over whole runs

Two live reservations of common paths have one conflict between them, made with the later of
the two and resolved when either ends. The operations that give up a claim with its
reservations, and those of a change's cleanup, end reservations without that.

* `unresolved_conflicts_active`: in a run without such an ending, the reservations of an
  unresolved conflict are live.
* `reservation_conflicts`: what conflicts a new reservation makes, and when one is resolved.
-/

namespace Covey

open Relational

/-- The reservations that the conflict is between. -/
def ConflictRow.pair (c : ConflictRow) : Sym2 ReservationId :=
  s(c.reservationId, c.overlappingReservationId)

/-! ## The ids of conflicts -/

theorem orderedPair_pair (a b : ReservationId) : s((orderedPair a b).1, (orderedPair a b).2) = s(a, b) := by
  unfold orderedPair
  split_ifs
  · rfl
  · exact Sym2.eq_swap

theorem orderedPair_comm (a b : ReservationId) : orderedPair a b = orderedPair b a := by
  unfold orderedPair
  by_cases hab : a.val ≤ b.val
  · by_cases hba : b.val ≤ a.val
    · rw [Text.ext (le_antisymm hab hba)]
    · rw [if_pos hab, if_neg hba]
  · rw [if_neg hab, if_pos ((le_total a.val b.val).resolve_left hab)]

theorem conflictName_congr {a b a' b' : ReservationId} (h : s(a, b) = s(a', b')) :
    conflictName a b = conflictName a' b' := by
  have hpair : orderedPair a b = orderedPair a' b' := by
    obtain ⟨ha, hb⟩ | ⟨ha, hb⟩ := Sym2.eq_iff.mp h
    · rw [ha, hb]
    · rw [ha, hb]
      exact orderedPair_comm _ _
  unfold conflictName
  rw [hpair]

/-- The generated ids of reservations have one length, so that the id of a conflict says which two
    it is between. -/
theorem conflictName_inj {a b a' b' : ReservationId} (ha : a.val.toList.length = 44)
    (hb : b.val.toList.length = 44) (ha' : a'.val.toList.length = 44)
    (hb' : b'.val.toList.length = 44) (h : conflictName a b = conflictName a' b') :
    s(a, b) = s(a', b') := by
  have hlen : ∀ {a b : ReservationId}, a.val.toList.length = 44 → b.val.toList.length = 44 →
      (orderedPair a b).1.val.toList.length = 44 := by
    intro a b ha hb
    unfold orderedPair
    split_ifs
    · exact ha
    · exact hb
  unfold conflictName at h
  generalize "conflict_reservation_overlap_" = stem, "_" = sep at h
  have hlist := congrArg String.toList h
  simp only [String.toList_append, List.append_assoc] at hlist
  obtain ⟨hfirst, hrest⟩ := List.append_inj (List.append_cancel_left hlist)
    ((hlen ha hb).trans (hlen ha' hb').symm)
  have hsecond := List.append_cancel_left hrest
  rw [← orderedPair_pair a b, ← orderedPair_pair a' b',
    Text.ext (String.toList_inj.mp hfirst), Text.ext (String.toList_inj.mp hsecond)]

/-! ## What every move keeps -/

/-- The reservations have generated ids and reserve paths of the repository; a conflict is between
    two of them and bears their ids. -/
structure Shelf.Sound (b : Shelf) : Prop where
  paths : ∀ k r, b.reservation k = some r → r.WellScoped
  plain : ∀ k r, b.reservation k = some r → r.Plain
  generated : ∀ k r, b.reservation k = some r → k.val.toList.length = 44
  named : ∀ k c, b.conflict k = some c → k.val = conflictName c.reservationId c.overlappingReservationId
  between : ∀ k c, b.conflict k = some c → ∀ id ∈ c.pair, (b.reservation id).isSome

section Moves

variable {L : Set ShelfWrite} {w : ShelfWrite} {b b₀ b' : Shelf}

theorem ReservationRow.Same.wellScoped {r r' : ReservationRow} (h : r.Same r') (hr : r.WellScoped) :
    r'.WellScoped := by
  unfold ReservationRow.WellScoped at hr ⊢
  rw [h.scopeClass, h.scopeKey, h.members]
  exact hr

theorem ReservationRow.Same.plain {r r' : ReservationRow} (h : r.Same r') (hr : r.Plain) :
    r'.Plain := by
  unfold ReservationRow.Plain at hr ⊢
  rw [h.scopeClass, h.scopeKey, h.members]
  exact hr

theorem ReservationRow.Ends.same {r r' : ReservationRow} (h : r.Ends r') : r.Same r' := by
  rcases h with rfl | ⟨-, -, h⟩
  · exact ⟨rfl, rfl, rfl, rfl, rfl⟩
  · exact h

/-- A reservation stays, and does not begin again once it is over. -/
theorem ShelfMove.reservation {k : ReservationId} {r : ReservationRow} (h : ShelfMove b w b')
    (hr : b.reservation k = some r) :
    ∃ r', b'.reservation k = some r' ∧ r.Same r' ∧ (r'.state = .active → r.state = .active) := by
  have hself : r.Same r := ⟨rfl, rfl, rfl, rfl, rfl⟩
  have hends : ∀ {g : ReservationId → Option ReservationRow},
      Option.Rel ReservationRow.Ends (b.reservation k) (g k) →
      ∃ r', g k = some r' ∧ r.Same r' ∧ (r'.state = .active → r.state = .active) := by
    intro g hg
    obtain ⟨r', hr', hstep⟩ := rel_of_some hg hr
    refine ⟨r', hr', hstep.same, fun hactive => ?_⟩
    rcases hstep with rfl | ⟨h, -, -⟩
    · exact hactive
    · exact h
  cases h with
  | reserve new => exact ⟨r, put_of_new new hr, hself, id⟩
  | overlap => exact ⟨r, hr, hself, id⟩
  | ending ended => exact hends (ended k)
  | drop ended => exact hends (ended k)
  | resolve => exact ⟨r, hr, hself, id⟩
  | @renew r₀ r₁ current active same active' =>
    by_cases hk : k = r₀.reservationId
    · subst hk
      obtain rfl : r₀ = r := Option.some.inj (current.symm.trans hr)
      exact ⟨r₁, put_self, same, fun _ => active⟩
    · exact ⟨r, (put_of_ne hk).trans hr, hself, id⟩

/-- A reservation of the second shelf is one of the first, or newly made. -/
theorem ShelfMove.reservation_source {k : ReservationId} {r' : ReservationRow} (h : ShelfMove b w b')
    (hr' : b'.reservation k = some r') : (∃ r, b.reservation k = some r) ∨
      r'.WellScoped ∧ r'.Plain ∧ k.val.toList.length = 44 := by
  cases h with
  | @reserve r new active paths plain generated =>
    rcases put_eq_some.mp hr' with ⟨rfl, rfl⟩ | ⟨-, hr⟩
    · exact .inr ⟨paths, plain, generated⟩
    · exact .inl ⟨_, hr⟩
  | overlap => exact .inl ⟨r', hr'⟩
  | resolve => exact .inl ⟨r', hr'⟩
  | ending ended =>
    obtain ⟨r, hr, -⟩ := rel_of_some' (ended k) hr'
    exact .inl ⟨r, hr⟩
  | drop ended =>
    obtain ⟨r, hr, -⟩ := rel_of_some' (ended k) hr'
    exact .inl ⟨r, hr⟩
  | renew current =>
    rcases put_eq_some.mp hr' with ⟨rfl, -⟩ | ⟨-, hr⟩
    · exact .inl ⟨_, current⟩
    · exact .inl ⟨_, hr⟩

/-- A conflict stays between its two reservations. It is resolved by name, or because one of them
    ends. -/
theorem ShelfMove.conflict {k : ConflictId} {c : ConflictRow} (hb : b.Sound) (h : ShelfMove b w b')
    (hc : b.conflict k = some c) :
    ∃ c', b'.conflict k = some c' ∧ c'.pair = c.pair ∧ (c'.resolutionState = .resolved →
      c.resolutionState = .resolved ∨ w = .resolve k ∨
        ∃ id ∈ c.pair, Ended b.reservation b'.reservation id) := by
  cases h with
  | reserve => exact ⟨c, hc, rfl, .inl⟩
  | drop => exact ⟨c, hc, rfl, .inl⟩
  | renew => exact ⟨c, hc, rfl, .inl⟩
  | @overlap c₁ left right named opened =>
    by_cases hk : k = c₁.conflictId
    · subst hk
      refine ⟨c₁, put_self, ?_, fun h => ?_⟩
      · have hlen : ∀ id, b.Active id → id.val.toList.length = 44 :=
          fun id ⟨r, hr, _⟩ => hb.generated id r hr
        have hlen' : ∀ id ∈ c.pair, id.val.toList.length = 44 := fun id hid => by
          obtain ⟨r, hr⟩ := Option.isSome_iff_exists.mp (hb.between _ c hc id hid)
          exact hb.generated id r hr
        exact conflictName_inj (hlen _ left) (hlen _ right) (hlen' _ (Sym2.mem_mk_left _ _))
          (hlen' _ (Sym2.mem_mk_right _ _)) (named.symm.trans (hb.named _ c hc))
      · rw [opened] at h
        cases h
    · exact ⟨c, (put_of_ne hk).trans hc, rfl, .inl⟩
  | ending ended followed =>
    obtain ⟨c', hc', hsame, hstate⟩ := rel_of_some (followed k) hc
    refine ⟨c', hc', by rw [ConflictRow.pair, hsame.reservation, hsame.overlapping]; rfl, fun h => ?_⟩
    rcases hstate with ⟨hleft | hright, -⟩ | ⟨-, hstate⟩
    · exact .inr (.inr ⟨_, Sym2.mem_mk_left _ _, hleft⟩)
    · exact .inr (.inr ⟨_, Sym2.mem_mk_right _ _, hright⟩)
    · exact .inl (hstate.symm.trans h)
  | @resolve c₁ state current forward =>
    by_cases hk : k = c₁.conflictId
    · subst hk
      obtain rfl : c₁ = c := Option.some.inj (current.symm.trans hc)
      exact ⟨_, put_self, rfl, fun _ => .inr (.inl rfl)⟩
    · exact ⟨c, (put_of_ne hk).trans hc, rfl, .inl⟩

/-- A conflict of the second shelf is one of the first, or records an overlap of two live
    reservations. -/
theorem ShelfMove.conflict_source {k : ConflictId} {c' : ConflictRow} (hb : b.Sound)
    (h : ShelfMove b w b') (hc' : b'.conflict k = some c') :
    (∃ c, b.conflict k = some c ∧ c.Same c') ∨
      k.val = conflictName c'.reservationId c'.overlappingReservationId ∧
        b.Active c'.reservationId ∧ b.Active c'.overlappingReservationId := by
  have hself : c'.Same c' := ⟨rfl, rfl, rfl⟩
  cases h with
  | reserve => exact .inl ⟨c', hc', hself⟩
  | drop => exact .inl ⟨c', hc', hself⟩
  | renew => exact .inl ⟨c', hc', hself⟩
  | overlap left right named =>
    rcases put_eq_some.mp hc' with ⟨rfl, rfl⟩ | ⟨-, hc⟩
    · exact .inr ⟨named, left, right⟩
    · exact .inl ⟨c', hc, hself⟩
  | ending ended followed =>
    obtain ⟨c, hc, hsame, -⟩ := rel_of_some' (followed k) hc'
    exact .inl ⟨c, hc, hsame⟩
  | resolve current =>
    rcases put_eq_some.mp hc' with ⟨rfl, rfl⟩ | ⟨-, hc⟩
    · exact .inl ⟨_, current, rfl, rfl, rfl⟩
    · exact .inl ⟨c', hc, hself⟩

theorem ShelfMove.sound (h : ShelfMove b w b') (hb : b.Sound) : b'.Sound := by
  have hstay : ∀ id, (b.reservation id).isSome → (b'.reservation id).isSome := by
    intro id hid
    obtain ⟨r, hr⟩ := Option.isSome_iff_exists.mp hid
    obtain ⟨r', hr', -⟩ := h.reservation hr
    exact Option.isSome_iff_exists.mpr ⟨r', hr'⟩
  have hactive : ∀ id, b.Active id → (b'.reservation id).isSome :=
    fun id ⟨r, hr, _⟩ => hstay id (Option.isSome_iff_exists.mpr ⟨r, hr⟩)
  refine ⟨fun k r' hr' => ?_, fun k r' hr' => ?_, fun k r' hr' => ?_, fun k c' hc' => ?_,
    fun k c' hc' id hid => ?_⟩
  · rcases h.reservation_source hr' with ⟨r, hr⟩ | ⟨hpaths, -⟩
    · obtain ⟨r₁, hr₁, hsame, -⟩ := h.reservation hr
      obtain rfl : r₁ = r' := Option.some.inj (hr₁.symm.trans hr')
      exact hsame.wellScoped (hb.paths k r hr)
    · exact hpaths
  · rcases h.reservation_source hr' with ⟨r, hr⟩ | ⟨-, hplain, -⟩
    · obtain ⟨r₁, hr₁, hsame, -⟩ := h.reservation hr
      obtain rfl : r₁ = r' := Option.some.inj (hr₁.symm.trans hr')
      exact hsame.plain (hb.plain k r hr)
    · exact hplain
  · rcases h.reservation_source hr' with ⟨r, hr⟩ | ⟨-, -, hlen⟩
    · exact hb.generated k r hr
    · exact hlen
  · rcases h.conflict_source hb hc' with ⟨c, hc, hsame⟩ | ⟨hname, -⟩
    · rw [hsame.reservation, hsame.overlapping]
      exact hb.named k c hc
    · exact hname
  · rcases h.conflict_source hb hc' with ⟨c, hc, hsame⟩ | ⟨-, hleft, hright⟩
    · rw [ConflictRow.pair, hsame.reservation, hsame.overlapping] at hid
      exact hstay id (hb.between k c hc id hid)
    · rcases Sym2.mem_iff.mp hid with rfl | rfl
      · exact hactive _ hleft
      · exact hactive _ hright

/-- The reservations of an unresolved conflict are live. -/
def Shelf.Settled (b : Shelf) : Prop :=
  ∀ k c, b.conflict k = some c → c.resolutionState ≠ .resolved → ∀ id ∈ c.pair, b.Active id

theorem ShelfMove.settled (h : ShelfMove b w b') (hw : w ≠ .drop) (hb : b.Settled) : b'.Settled := by
  intro k c' hc' hstate id hid
  cases h with
  | drop => exact absurd rfl hw
  | reserve new =>
    obtain ⟨r, hr, hactive⟩ := hb k c' hc' hstate id hid
    exact ⟨r, put_of_new new hr, hactive⟩
  | overlap left right =>
    rcases put_eq_some.mp hc' with ⟨rfl, rfl⟩ | ⟨-, hc⟩
    · rcases Sym2.mem_iff.mp hid with rfl | rfl
      · exact left
      · exact right
    · exact hb k c' hc hstate id hid
  | @renew r₀ r₁ current active same active' =>
    obtain ⟨r, hr, hactive⟩ := hb k c' hc' hstate id hid
    by_cases hk : id = r₀.reservationId
    · subst hk
      exact ⟨r₁, put_self, active'⟩
    · exact ⟨r, (put_of_ne hk).trans hr, hactive⟩
  | resolve current forward =>
    rcases put_eq_some.mp hc' with ⟨rfl, rfl⟩ | ⟨-, hc⟩
    · exact hb _ _ current (fun h => hstate (forward h)) id hid
    · exact hb k c' hc hstate id hid
  | @ending g _ ended followed =>
    obtain ⟨c, hc, hsame, ⟨-, hresolved⟩ | ⟨hstays, hstate'⟩⟩ := rel_of_some' (followed k) hc'
    · exact absurd hresolved hstate
    rw [ConflictRow.pair, hsame.reservation, hsame.overlapping] at hid
    obtain ⟨r, hr, hactive⟩ := hb k c hc (hstate' ▸ hstate) id hid
    have hlive : ¬Ended b.reservation g id := by
      rcases Sym2.mem_iff.mp hid with rfl | rfl
      · exact fun h => hstays (.inl h)
      · exact fun h => hstays (.inr h)
    obtain ⟨r', hr', -⟩ := rel_of_some (ended id) hr
    refine ⟨r', hr', ?_⟩
    by_contra h
    exact hlive ⟨r, r', hr, hactive, hr', h⟩

/-- What happened to the reservations and the conflicts of a shelf since. -/
structure Shelf.Since (L : Set ShelfWrite) (b₀ b : Shelf) : Prop where
  sound : b.Sound
  reservations : ∀ k r₀, b₀.reservation k = some r₀ →
    ∃ r, b.reservation k = some r ∧ (r.state = .active → r₀.state = .active)
  conflicts : ∀ k c₀, b₀.conflict k = some c₀ →
    ∃ c, b.conflict k = some c ∧ c.pair = c₀.pair ∧ (c.resolutionState = .resolved →
      c₀.resolutionState = .resolved ∨ .resolve k ∈ L ∨
        ∃ id ∈ c₀.pair, Ended b₀.reservation b.reservation id)

theorem Shelf.Since.move (hb₀ : b₀.Sound) (hw : w ∈ L) (h : ShelfMove b w b') (hb : Since L b₀ b) :
    Since L b₀ b' := by
  refine ⟨h.sound hb.sound, fun k r₀ hr₀ => ?_, fun k c₀ hc₀ => ?_⟩
  · obtain ⟨r, hr, hactive⟩ := hb.reservations k r₀ hr₀
    obtain ⟨r', hr', -, hactive'⟩ := h.reservation hr
    exact ⟨r', hr', fun h => hactive (hactive' h)⟩
  obtain ⟨c, hc, hpair, hresolved⟩ := hb.conflicts k c₀ hc₀
  obtain ⟨c', hc', hpair', hresolved'⟩ := h.conflict hb.sound hc
  refine ⟨c', hc', hpair'.trans hpair, fun hstate => ?_⟩
  rcases hresolved' hstate with hstate | rfl | ⟨id, hid, r, r', hr, hactive, hr', hover⟩
  · rcases hresolved hstate with hold | hname | ⟨id, hid, r₀, r, hr₀, hactive, hr, hover⟩
    · exact .inl hold
    · exact .inr (.inl hname)
    · obtain ⟨r', hr', -, hback⟩ := h.reservation hr
      exact .inr (.inr ⟨id, hid, r₀, r', hr₀, hactive, hr', fun h => hover (hback h)⟩)
  · exact .inr (.inl hw)
  · rw [hpair] at hid
    obtain ⟨r₀, hr₀⟩ := Option.isSome_iff_exists.mp (hb₀.between k c₀ hc₀ id hid)
    obtain ⟨r₁, hr₁, hback⟩ := hb.reservations id r₀ hr₀
    obtain rfl : r₁ = r := Option.some.inj (hr₁.symm.trans hr)
    exact .inr (.inr ⟨id, hid, r₀, r', hr₀, hback hactive, hr', hover⟩)

theorem ShelfSteps.since (hb : b.Sound) (h : ShelfSteps L b b') : b.Since L b' :=
  h.invariant (fun hw hmove => Shelf.Since.move hb hw hmove)
    ⟨hb, fun _ r hr => ⟨r, hr, id⟩, fun _ c hc => ⟨c, hc, rfl, .inl⟩⟩

end Moves

/-! ## Runs -/

section Runs

variable {env : Env} {s s' : Db} {c : Call} {calls : List Call}

theorem next_shelf : ShelfSteps (c.op.shelfWrites s c.now) s.shelf (next env s c).shelf := by
  by_cases hok : c.Succeeds env s
  · obtain ⟨v, s₀, rfl, h⟩ := hok.run
    have hsteps := Operation.run_shelf h
    exact hsteps
  · rw [next_of_failed hok]
    exact .refl

theorem sound_init : Db.init.shelf.Sound :=
  ⟨fun _ _ h => (nomatch h), fun _ _ h => (nomatch h), fun _ _ h => (nomatch h),
    fun _ _ h => (nomatch h), fun _ _ h => (nomatch h)⟩

theorem reach_sound : (reach env calls).shelf.Sound :=
  Run.invariant_always (I := fun s : Db => s.shelf.Sound)
    (fun _ _ hs => next_shelf.invariant (fun _ hmove => hmove.sound) hs) sound_init

/-- The call ends reservations and leaves an unresolved conflict of theirs as it is. -/
def Call.Drops (env : Env) (s : Db) (c : Call) : Prop :=
  c.Commits env s ∧ ∃ owner ∈ c.op.drops s c.now, s.Contested owner

instance (env : Env) (s : Db) (c : Call) : Decidable (c.Drops env s) :=
  inferInstanceAs (Decidable (_ ∧ ∃ _ ∈ _, _))

theorem next_settled (hc : ¬c.Drops env s) (hs : s.shelf.Settled) : (next env s c).shelf.Settled := by
  by_cases hcommits : c.Commits env s
  · refine next_shelf.invariant (fun {w _ _} hw hmove => hmove.settled ?_) hs
    rintro rfl
    obtain (hw | ⟨_, -, hw⟩) | ⟨-, hdrops⟩ := hw
    · simp at hw
    · cases hw
    · exact hc ⟨hcommits, hdrops⟩
  · obtain ⟨clock, uuids, hs'⟩ := next_of_idle hcommits
    rw [hs']
    exact hs

/-- In a run in which no reservation ends without its conflicts, the reservations of an unresolved
    conflict are live. -/
theorem unresolved_conflicts_active
    (hrun : Run.Along (next env) (fun s c => ¬c.Drops env s) Db.init calls) :
    (reach env calls).shelf.Settled :=
  Run.invariant (I := fun s : Db => s.shelf.Settled) (fun _ _ => next_settled) hrun
    fun _ _ h => (nomatch h)

/-- The reservation is live at the time. -/
def ReservationRow.LiveAt (time : ℤ) (r : ReservationRow) : Prop :=
  r.state = .active ∧ time < r.leaseDeadline

/-- The reservation `b` is made, with an open conflict for each live reservation whose paths meet
    its paths, and no other conflict. -/
structure Reserves (s s' : Db) (leaseNow : ℤ) (b : ReservationRow) : Prop where
  new : s.reservations.get? b.reservationId = none
  made : s'.reservations.get? = put s.reservations.get? b.reservationId b
  kept : ∀ k c, s.conflicts.get? k = some c → s'.conflicts.get? k = some c
  every : ∀ a ∈ s.reservations.rows, a.LiveAt leaseNow → (b.paths ∩ a.paths).Nonempty →
    ∃ k c, s.conflicts.get? k = none ∧ s'.conflicts.get? k = some c ∧ c.resolutionState = .opened ∧
      c.pair = s(b.reservationId, a.reservationId)
  only : ∀ k c, s.conflicts.get? k = none → s'.conflicts.get? k = some c →
    c.resolutionState = .opened ∧ ∃ a ∈ s.reservations.rows, a.LiveAt leaseNow ∧
      (b.paths ∩ a.paths).Nonempty ∧ c.pair = s(b.reservationId, a.reservationId)

theorem Requested.reserves {b : ReservationRow} {overlaps : List ReservationRow} (hs : s.shelf.Sound)
    (h : Requested s s' b overlaps) : Reserves s s' s.leaseClock b := by
  obtain ⟨req, scopeKey, now, s₁, s₂, u, hs₁, hloop, hs'⟩ := h.recorded
  obtain ⟨hres, hsource, hkept, hall⟩ := recordConflicts_shelf hloop
  rw [hs₁] at hres hsource hkept
  rw [← hs'] at hres hsource hkept hall
  have hfound : ∀ r, r ∈ overlaps ↔ r ∈ s.reservations.rows ∧ r.LiveAt s.leaseClock ∧
      (b.paths ∩ r.paths).Nonempty := by
    intro r
    rw [h.found, ReservationRow.LiveAt, and_assoc]
    refine and_congr_right fun hr => and_congr_right fun _ => and_congr_right fun _ => ?_
    exact overlapsScope_iff h.paths (hs.paths _ r (Table.get?_key hr))
  have hlen : ∀ a ∈ overlaps, a.reservationId.val.toList.length = 44 := fun a ha =>
    hs.generated _ a (Table.get?_key ((hfound a).mp ha).1)
  -- the conflicts of the earlier store are between its own reservations, never with `b`
  have hfresh : ∀ k c, s.conflicts.get? k = some c → ∀ a ∈ overlaps,
      k.val ≠ conflictName b.reservationId a.reservationId := by
    intro k c hc a ha hname
    have hpair : ∀ id ∈ c.pair, id.val.toList.length = 44 := fun id hid => by
      obtain ⟨r, hr⟩ := Option.isSome_iff_exists.mp (hs.between k c hc id hid)
      exact hs.generated id r hr
    have hsame : c.pair = s(b.reservationId, a.reservationId) :=
      conflictName_inj (hpair _ (Sym2.mem_mk_left _ _)) (hpair _ (Sym2.mem_mk_right _ _))
        h.generated (hlen a ha) ((hs.named k c hc).symm.trans hname)
    have hthere := hs.between k c hc b.reservationId (by rw [hsame]; exact Sym2.mem_mk_left _ _)
    rw [h.new] at hthere
    cases hthere
  have hname : ∀ k c a, s'.conflicts.get? k = some c → c.Records b.reservationId a →
      k.val = conflictName b.reservationId a.reservationId := fun k c a hc hrec => by
    rw [← hrec.named, show c.conflictId = k from Table.key_of_get? hc]
  have hpair : ∀ (c : ConflictRow) a, c.Records b.reservationId a →
      c.pair = s(b.reservationId, a.reservationId) := fun c a hrec => by
    rw [ConflictRow.pair, hrec.reservation, hrec.overlapping]
  refine ⟨h.new, hres, fun k c hc => ?_, fun a ha hlive hmeets => ?_, fun k c hnone hc => ?_⟩
  · obtain ⟨c', hc', rfl | ⟨a, ha, hrec⟩⟩ := hkept k c hc
    · exact hc'
    · exact absurd (hname k c' a hc' hrec) (hfresh k c hc a ha)
  · have ha : a ∈ overlaps := (hfound a).mpr ⟨ha, hlive, hmeets⟩
    obtain ⟨k, hk, c, hc, o, ho, hrec⟩ := hall a ha
    refine ⟨k, c, Option.eq_none_iff_forall_ne_some.mpr fun c₀ hc₀ => hfresh k c₀ hc₀ a ha hk, hc,
      hrec.opened, ?_⟩
    rw [hpair c o hrec]
    exact conflictName_inj h.generated (hlen o ho) h.generated (hlen a ha)
      ((hname k c o hc hrec).symm.trans hk)
  · rcases hsource k c hc with hold | ⟨-, a, ha, hrec⟩
    · exact absurd (hnone.symm.trans hold) nofun
    · obtain ⟨hmem, hlive, hmeets⟩ := (hfound a).mp ha
      exact ⟨hrec.opened, a, hmem, hlive, hmeets, hpair c a hrec⟩

/-- A request that is accepted makes a reservation with its conflicts. -/
theorem requestReservation_reserves {req : RequestReservationReq} (hs : s.shelf.Sound)
    (hop : c.op = .requestReservation req) (hc : c.Commits env s) :
    ∃ b, Reserves s (next env s c) (max s.leaseClock (max c.now 0)) b := by
  obtain ⟨v, s₀, hs₀, h⟩ := hc.1.run
  rw [hop] at h
  rcases requestReservation_run h with ⟨hrec, -⟩ | ⟨leaseNow, s₁, b, overlaps, hlease, hs₁, hreq⟩
  · exact absurd (Call.recorded_of hs₀ (by rw [hop]; rfl) hrec) hc.2
  · have hshelf : s₁.shelf = s.shelf := by rw [hs₁, hs₀]; rfl
    have h := hreq.reserves (by rw [hshelf]; exact hs)
    rw [hs₁, hs₀] at h
    rw [hs₀] at hlease
    refine ⟨b, ?_⟩
    rw [← hlease]
    exact ⟨h.new, h.made, h.kept, h.every, h.only⟩

/-- A request makes a reservation together with an open conflict for each live reservation whose
    paths meet the requested ones, and no other. Two reservations never have two conflicts, and
    a conflict is resolved by name or when one of its reservations ends. -/
theorem reservation_conflicts (env : Env) (calls : List Call) (c : Call) :
    (∀ req, c.op = .requestReservation req → c.Commits env (reach env calls) →
      ∃ b, Reserves (reach env calls) (reach env (calls ++ [c]))
        (max (reach env calls).leaseClock (max c.now 0)) b) ∧
    (∀ r ∈ (reach env calls).conflicts.rows, ∀ r' ∈ (reach env calls).conflicts.rows,
      r.pair = r'.pair → r = r') ∧
    ∀ k r, (reach env calls).conflicts.get? k = some r →
      ∃ r', (reach env (calls ++ [c])).conflicts.get? k = some r' ∧ r'.pair = r.pair ∧
        (r.resolutionState ≠ .resolved → r'.resolutionState = .resolved →
          c.op.resolves = some k ∨
            ∃ id ∈ r.pair, Ended (reach env calls).reservations.get?
              (reach env (calls ++ [c])).reservations.get? id) := by
  have hs : (reach env calls).shelf.Sound := reach_sound
  rw [reach_concat]
  generalize reach env calls = s at hs
  refine ⟨fun req hop hc => requestReservation_reserves hs hop hc, fun r hr r' hr' hpair => ?_,
    fun k r hr => ?_⟩
  · have hname := hs.named _ r (Table.get?_key hr)
    have hname' := hs.named _ r' (Table.get?_key hr')
    have hkey : conflictSchema.key r = conflictSchema.key r' := Text.ext
      (hname.trans ((conflictName_congr hpair).trans hname'.symm))
    have hget := Table.get?_key hr
    rw [hkey, Table.get?_key hr'] at hget
    exact (Option.some.inj hget).symm
  · obtain ⟨r', hr', hpair, hresolved⟩ := (next_shelf.since hs).conflicts k r hr
    refine ⟨r', hr', hpair, fun hopen hstate => ?_⟩
    rcases hresolved hstate with hold | hname | hended
    · exact absurd hold hopen
    · obtain (hw | ⟨id, hid, hw⟩) | ⟨hw, -⟩ := hname
      · simp at hw
      · cases hw
        exact .inl hid
      · cases hw
    · exact .inr hended

end Runs

section Scripts

open Script

/-- The orchestrator reserves the paths below `docs` for the work `a`. -/
def docsReserved : List (ℤ × (IdempotencyKey → Operation)) :=
  [(0, register "orch" .orchestrator), (0, register "exec" .executor), (1, submit (session 0)),
    (1, create (session 0) (metaTask 2) "a" .canonicalApply),
    (1, create (session 0) (metaTask 2) "b" .canonicalApply),
    (2, fun key => .requestReservation
      ⟨session 0, text "a", ⟨.subtree, "docs", [], by decide⟩, lease, key⟩)]

/-- One of these paths is reserved for the work `b`. -/
def reserveIndex (key : IdempotencyKey) : Operation :=
  .requestReservation ⟨session 0, text "b", ⟨.exactPath, "docs/index", [], by decide⟩, lease, key⟩

def reserveIndexCall : Call := ⟨reserveIndex (text "6"), 3, uuid 6⟩

theorem reservation_conflicts_index :
    reserveIndexCall.Commits env (reach env (Script.calls docsReserved)) ∧
      ∃ b, Reserves (reach env (Script.calls docsReserved))
        (reach env (Script.calls docsReserved ++ [reserveIndexCall]))
        (max (reach env (Script.calls docsReserved)).leaseClock (max reserveIndexCall.now 0)) b := by
  have hcommits : reserveIndexCall.Commits env (reach env (Script.calls docsReserved)) := by
    decide +kernel
  exact ⟨hcommits, (reservation_conflicts env _ reserveIndexCall).1 _ rfl hcommits⟩

/-- An executor then claims `a`. -/
def contestedDocs : List (ℤ × (IdempotencyKey → Operation)) :=
  docsReserved ++ [(3, reserveIndex), (4, take (session 1) "a")]

def contested : List Call := Script.calls contestedDocs

/-- The executor then gives its claim up. -/
def abandonedDocs : List Call :=
  Script.calls (contestedDocs ++ [(5, release (session 1) (claim 7) (fence 0))])

/-- The reservation of `docs`. -/
def docs : ReservationId := idAt .reservationId "reservation" 5 0

theorem contested_run :
    Run.Along (next env) (fun s c => ¬c.Drops env s) Db.init contested ∧
      ∃ c ∈ (reach env contested).conflicts.rows, c.resolutionState ≠ .resolved := by
  decide +kernel

theorem abandonedDocs_run :
    (∃ c ∈ (reach env abandonedDocs).conflicts.rows, c.resolutionState ≠ .resolved ∧
        c.overlappingReservationId = docs) ∧
      ((reach env abandonedDocs).reservations.get? docs).all fun r => r.state ≠ .active := by
  decide +kernel

theorem unresolved_conflicts_active_contested :
    (∃ c ∈ (reach env contested).conflicts.rows, c.resolutionState ≠ .resolved) ∧
      (reach env contested).shelf.Settled :=
  ⟨contested_run.2, unresolved_conflicts_active contested_run.1⟩

/-- The reservation that goes with a released claim leaves its conflict open. -/
theorem released_claim_unresolved : ¬(reach env abandonedDocs).shelf.Settled := by
  have hrun := abandonedDocs_run
  generalize reach env abandonedDocs = s at hrun
  obtain ⟨⟨c, hc, hopen, hdocs⟩, hover⟩ := hrun
  intro h
  obtain ⟨r, hr, hactive⟩ := h _ c (Table.get?_key hc) hopen _ (Sym2.mem_mk_right _ _)
  rw [hdocs] at hr
  have hr : s.reservations.get? docs = some r := hr
  rw [hr, Option.all_some, decide_eq_true_eq] at hover
  exact hover hactive

end Scripts

end Covey

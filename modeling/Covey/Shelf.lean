import Covey.Footprint.Calls
import Covey.Overlaps

/-!
# Moves of reservations and conflicts

The ways in which the operations change the reservations and the conflicts between them,
stated without the statements that carry them out: a reservation is made, an overlap is
recorded, reservations end and their conflicts are resolved with them, a conflict is resolved
by hand. `drop` is the move that an invariant has to exclude: a reservation ends
and its conflicts are left as they are.

* `ShelfMove`, `ShelfSteps`: one move, and a sequence of them.
* `Operation.run_shelf`: every operation is a sequence of moves.
-/

namespace Covey

open Relational

/-- The reservations and the conflicts of a store. -/
structure Shelf where
  reservation : ReservationId → Option ReservationRow
  conflict : ConflictId → Option ConflictRow

def Db.shelf (s : Db) : Shelf := ⟨s.reservations.get?, s.conflicts.get?⟩

/-- The reservation is live. -/
def Shelf.Active (b : Shelf) (id : ReservationId) : Prop :=
  ∃ r, b.reservation id = some r ∧ r.state = .active

/-- The reservation was live in the first and is over in the second. -/
def Ended (f g : ReservationId → Option ReservationRow) (id : ReservationId) : Prop :=
  ∃ r r', f id = some r ∧ r.state = .active ∧ g id = some r' ∧ r'.state ≠ .active

/-- The reservation is of the same paths for the same subtask. -/
structure ReservationRow.Same (r r' : ReservationRow) : Prop where
  keyed : r'.reservationId = r.reservationId
  owner : r'.ownerSubtaskId = r.ownerSubtaskId
  scopeClass : r'.scopeClass = r.scopeClass
  scopeKey : r'.scopeKey = r.scopeKey
  members : r'.generatedMembers = r.generatedMembers

/-- The reservation is left alone, or ends. -/
def ReservationRow.Ends (r r' : ReservationRow) : Prop :=
  r' = r ∨ r.state = .active ∧ r'.state ≠ .active ∧ r.Same r'

/-- The conflict is between the same reservations. -/
structure ConflictRow.Same (c c' : ConflictRow) : Prop where
  keyed : c'.conflictId = c.conflictId
  reservation : c'.reservationId = c.reservationId
  overlapping : c'.overlappingReservationId = c.overlappingReservationId

/-- One of the reservations of the conflict ends. -/
def ConflictRow.Ends (f g : ReservationId → Option ReservationRow) (c : ConflictRow) : Prop :=
  Ended f g c.reservationId ∨ Ended f g c.overlappingReservationId

/-- The conflict is resolved if one of its reservations ends, and only then. -/
def ConflictRow.Follows (f g : ReservationId → Option ReservationRow) (c c' : ConflictRow) : Prop :=
  c.Same c' ∧
    (c.Ends f g ∧ c'.resolutionState = .resolved ∨
      ¬c.Ends f g ∧ c'.resolutionState = c.resolutionState)

/-- The id under which the overlap of two reservations is recorded (overlap.rs:181-182). -/
def conflictName (a b : ReservationId) : String :=
  "conflict_reservation_overlap_" ++ (orderedPair a b).1.val ++ "_" ++ (orderedPair a b).2.val

/-- What a move is made for. -/
inductive ShelfWrite
  | reserve | overlap | ending | drop | renew
  | resolve (id : ConflictId)

/-- A change of reservations and conflicts. -/
inductive ShelfMove (b : Shelf) : ShelfWrite → Shelf → Prop
  | reserve {r : ReservationRow} (new : b.reservation r.reservationId = none)
      (active : r.state = .active) (paths : r.WellScoped) (plain : r.Plain)
      (generated : r.reservationId.val.toList.length = 44) :
      ShelfMove b .reserve { b with reservation := put b.reservation r.reservationId r }
  | overlap {c : ConflictRow} (left : b.Active c.reservationId)
      (right : b.Active c.overlappingReservationId)
      (named : c.conflictId.val = conflictName c.reservationId c.overlappingReservationId)
      (opened : c.resolutionState = .opened) :
      ShelfMove b .overlap { b with conflict := put b.conflict c.conflictId c }
  | ending {g : ReservationId → Option ReservationRow} {h : ConflictId → Option ConflictRow}
      (ended : ∀ k, Option.Rel ReservationRow.Ends (b.reservation k) (g k))
      (followed : ∀ k, Option.Rel (ConflictRow.Follows b.reservation g) (b.conflict k) (h k)) :
      ShelfMove b .ending ⟨g, h⟩
  | drop {g : ReservationId → Option ReservationRow}
      (ended : ∀ k, Option.Rel ReservationRow.Ends (b.reservation k) (g k)) :
      ShelfMove b .drop { b with reservation := g }
  | renew {r r' : ReservationRow} (current : b.reservation r.reservationId = some r)
      (active : r.state = .active) (same : r.Same r') (active' : r'.state = .active) :
      ShelfMove b .renew { b with reservation := put b.reservation r.reservationId r' }
  | resolve {c : ConflictRow} {state : ConflictResolutionState}
      (current : b.conflict c.conflictId = some c)
      (forward : c.resolutionState = .resolved → state = .resolved) :
      ShelfMove b (.resolve c.conflictId)
        { b with conflict := put b.conflict c.conflictId { c with resolutionState := state } }

/-- A sequence of moves made for the purposes in `L`. -/
def ShelfSteps (L : Set ShelfWrite) : Shelf → Shelf → Prop :=
  Relation.ReflTransGen fun b b' => ∃ w ∈ L, ShelfMove b w b'

section Steps

variable {L : Set ShelfWrite} {b b' b'' : Shelf}

theorem ShelfSteps.move {w : ShelfWrite} (hw : w ∈ L) (h : ShelfMove b w b') : ShelfSteps L b b' :=
  Relation.ReflTransGen.single ⟨w, hw, h⟩

/-- What every single move preserves, a sequence of moves preserves. -/
theorem ShelfSteps.invariant {I : Shelf → Prop}
    (hstep : ∀ {w b b'}, w ∈ L → ShelfMove b w b' → I b → I b') (h : ShelfSteps L b b') (hb : I b) :
    I b' := by
  induction h with
  | refl => exact hb
  | tail _ hmove ih =>
    obtain ⟨w, hw, hmove⟩ := hmove
    exact hstep hw hmove ih

end Steps

/-- The second store is reached from the first by moves of reservations and conflicts. -/
def Shelves (L : Set ShelfWrite) (s s' : Db) : Prop := ShelfSteps L s.shelf s'.shelf

section Shelves

variable {L : Set ShelfWrite} {now leaseNow : ℤ} {s s' s'' : Db}

theorem Shelves.of_eq (h : s'.shelf = s.shelf) : Shelves L s s' := by
  rw [Shelves, h]
  exact Relation.ReflTransGen.refl

theorem Shelves.trans (h : Shelves L s s') (h' : Shelves L s' s'') : Shelves L s s'' :=
  Relation.ReflTransGen.trans h h'

instance : Std.Refl (Shelves L) := ⟨fun _ => .of_eq rfl⟩

instance : IsTrans Db (Shelves L) := ⟨fun _ _ _ => Shelves.trans⟩

theorem shelves_overlooks : Overlooks (Shelves L) := fun _ _ _ _ => .of_eq rfl

theorem Touches.shelf {l : List TableName} (h : Touches l s s') (hr : .reservations ∉ l)
    (hc : .conflicts ∉ l) : s'.shelf = s.shelf := by
  have hres : (s'.without l).rows.reservations = (s.without l).rows.reservations :=
    congrArg Db.reservations h.rows
  have hcon : (s'.without l).rows.conflicts = (s.without l).rows.conflicts :=
    congrArg Db.conflicts h.rows
  simp only [Db.rows, Db.without, if_neg hr] at hres
  simp only [Db.rows, Db.without, if_neg hc] at hcon
  rw [Db.shelf, Db.shelf, hres, hcon]

theorem shelves_of_touches {l : List TableName} {α : Type} {x : Txn α} (hx : x.Within (Touches l))
    (hr : .reservations ∉ l) (hc : .conflicts ∉ l) : Tx.Keeps (Shelves L) x :=
  fun _ _ _ h => .of_eq ((hx.run h).shelf hr hc)

/-! ## Endings -/

/-- The resolution of a conflict of one of the reservations. -/
def ConflictRow.resolveFor (ids : List ReservationId) (now : ℤ) (c : ConflictRow) : ConflictRow :=
  if c.resolutionState ≠ .resolved ∧
      (c.reservationId ∈ ids ∨ c.overlappingReservationId ∈ ids) then
    { c with resolutionState := .resolved, detectedAt := now }
  else c

theorem resolveReservationOverlapConflicts_shelf {id : ReservationId} {u : Unit}
    (h : resolveReservationOverlapConflicts id now s = (.ok u, s')) :
    s'.shelf = { s.shelf with conflict := fun k =>
      (s.shelf.conflict k).map (ConflictRow.resolveFor [id] now) } := by
  simp only [resolveReservationOverlapConflicts, Tx.bind_ok, Tx.pure_ok] at h
  obtain ⟨_, s₁, hfirst, _, s₂, hsecond, -, rfl⟩ := h
  obtain ⟨t, rfl, ht⟩ := updateIn_map hfirst fun _ _ => rfl
  obtain ⟨t', rfl, ht'⟩ := updateIn_map hsecond fun _ _ => rfl
  show Shelf.mk _ _ = Shelf.mk _ _
  congr 1
  show t'.get? = _
  rw [ht']
  funext k
  show (t.get? k).map _ = _
  rw [ht]
  show ((s.conflicts.get? k).map _).map _ = (s.conflicts.get? k).map _
  rw [Option.map_map]
  congr 1
  funext c
  simp only [Function.comp, ConflictRow.resolveFor, List.mem_singleton]
  by_cases hres : c.resolutionState = .resolved
  · simp [hres]
  · by_cases hid : c.reservationId = id
    · simp [hres, hid]
    · by_cases hover : c.overlappingReservationId = id <;> simp [hres, hid, hover]

theorem resolveFor_comp {id : ReservationId} {ids : List ReservationId} {c : ConflictRow} :
    ConflictRow.resolveFor ids now (ConflictRow.resolveFor [id] now c) =
      ConflictRow.resolveFor (id :: ids) now c := by
  simp only [ConflictRow.resolveFor, List.mem_cons]
  by_cases hres : c.resolutionState = .resolved
  · simp [hres]
  · by_cases hid : c.reservationId = id ∨ c.overlappingReservationId = id
    · rcases hid with hid | hid <;> simp [hres, hid]
    · rw [not_or] at hid
      simp [hres, hid]

theorem resolveConflicts_shelf {rows : List ReservationRow} {u : Unit}
    (h : Tx.forEach rows (fun r => resolveReservationOverlapConflicts r.reservationId now) s =
      (.ok u, s')) :
    s'.shelf = { s.shelf with conflict := fun k =>
      (s.shelf.conflict k).map (ConflictRow.resolveFor (rows.map (·.reservationId)) now) } := by
  induction rows generalizing s with
  | nil =>
    obtain ⟨-, rfl⟩ := Prod.mk.inj h
    have hid : ConflictRow.resolveFor [] now = id := by
      funext c
      simp [ConflictRow.resolveFor]
    simp [hid]
  | cons r rows ih =>
    obtain ⟨s₁, hfirst, hrest⟩ := Tx.forEach_cons_ok.mp h
    rw [ih hrest, resolveReservationOverlapConflicts_shelf hfirst]
    simp only [Option.map_map, Function.comp_def, resolveFor_comp, List.map_cons]

/-- Reservations end, and the conflicts of those that do are resolved. -/
theorem ShelfMove.of_resolve {p : ReservationRow → Prop} [DecidablePred p]
    {f : ReservationRow → ReservationRow} {ids : List ReservationId} {b : Shelf}
    (hids : ∀ k, k ∈ ids ↔ ∃ r, b.reservation k = some r ∧ p r)
    (hp : ∀ r, p r → r.state = .active) (hf : ∀ r, (f r).state ≠ .active ∧ r.Same (f r)) :
    ShelfMove b .ending
      { reservation := fun k => (b.reservation k).map fun r => if p r then f r else r
        conflict := fun k => (b.conflict k).map (ConflictRow.resolveFor ids now) } := by
  have hended : ∀ k, Ended b.reservation
      (fun k => (b.reservation k).map fun r => if p r then f r else r) k ↔ k ∈ ids := by
    intro k
    rw [hids]
    constructor
    · rintro ⟨r, r', hr, hactive, hr', hstate⟩
      simp only [hr, Option.map_some, Option.some.injEq] at hr'
      refine ⟨r, hr, ?_⟩
      by_contra hnot
      rw [if_neg hnot] at hr'
      exact hstate (hr' ▸ hactive)
    · rintro ⟨r, hr, hpr⟩
      exact ⟨r, f r, hr, hp r hpr, by simp [hr, hpr], (hf r).1⟩
  refine .ending (fun k => rel_map fun r hr => ?_) fun k => rel_map fun c hc => ?_
  · split_ifs with hpr
    · exact .inr ⟨hp r hpr, hf r⟩
    · exact .inl rfl
  · unfold ConflictRow.Follows ConflictRow.Ends
    rw [hended, hended]
    unfold ConflictRow.resolveFor
    by_cases hends : c.reservationId ∈ ids ∨ c.overlappingReservationId ∈ ids
    · split_ifs with hres
      · exact ⟨⟨rfl, rfl, rfl⟩, .inl ⟨hends, rfl⟩⟩
      · refine ⟨⟨rfl, rfl, rfl⟩, .inl ⟨hends, ?_⟩⟩
        by_contra hstate
        exact hres ⟨hstate, hends⟩
    · rw [if_neg fun h => hends h.2]
      exact ⟨⟨rfl, rfl, rfl⟩, .inr ⟨hends, rfl⟩⟩

/-- The subtask has a live reservation with a conflict that is not resolved. -/
def Db.Contested (s : Db) (owner : SubtaskId) : Prop :=
  ∃ c ∈ s.conflicts.rows, c.resolutionState ≠ .resolved ∧
    ∃ r ∈ s.reservations.rows, r.ownerSubtaskId = owner ∧ r.state = .active ∧
      (c.reservationId = r.reservationId ∨ c.overlappingReservationId = r.reservationId)

instance (s : Db) (owner : SubtaskId) : Decidable (s.Contested owner) :=
  inferInstanceAs (Decidable (∃ _ ∈ _, _))

theorem Db.Contested.congr {owner : SubtaskId} (h : s.Contested owner) (hs : s'.shelf = s.shelf) :
    s'.Contested owner := by
  obtain ⟨c, hc, hstate, r, hr, hrest⟩ := h
  have hres : s'.reservations.get? = s.reservations.get? := congrArg Shelf.reservation hs
  have hcon : s'.conflicts.get? = s.conflicts.get? := congrArg Shelf.conflict hs
  refine ⟨c, ?_, hstate, r, ?_, hrest⟩
  · rw [Table.mem_iff_get?, hcon]
    exact Table.get?_key hc
  · rw [Table.mem_iff_get?, hres]
    exact Table.get?_key hr

/-- Reservations end without a word to their conflicts, which makes a difference if there are
    any. -/
theorem dropReservations_shelves {owner : SubtaskId} {n : ℕ} (hend : .ending ∈ L)
    (hdrop : s.Contested owner → .drop ∈ L)
    (h : updateIn Rel.reservations (fun r => r.ownerSubtaskId = owner ∧ r.state = .active)
      (fun r => { r with state := .released, updatedAt := now }) s = (.ok n, s')) :
    Shelves L s s' := by
  obtain ⟨t, rfl, ht⟩ := updateIn_map h fun _ _ => rfl
  have hended : ∀ k, Option.Rel ReservationRow.Ends (s.shelf.reservation k) (t.get? k) := by
    intro k
    rw [ht]
    refine rel_map fun r _ => ?_
    split_ifs with hr
    · exact .inr ⟨hr.2, by simp, rfl, rfl, rfl, rfl, rfl⟩
    · exact .inl rfl
  by_cases hcontested : s.Contested owner
  · exact .move (hdrop hcontested) (.drop hended)
  · refine .move hend (.ending hended fun k => ?_)
    show Option.Rel _ (s.conflicts.get? k) (s.conflicts.get? k)
    cases hc : s.conflicts.get? k with
    | none => exact .none
    | some c =>
      refine .some ⟨⟨rfl, rfl, rfl⟩, ?_⟩
      have howned : ∀ {id}, Ended s.shelf.reservation t.get? id →
          ∃ r ∈ s.reservations.rows, r.ownerSubtaskId = owner ∧ r.state = .active ∧
            id = r.reservationId := by
        rintro id ⟨r, r', hr, hactive, hr', hstate⟩
        rw [ht] at hr'
        obtain ⟨r₀, hr₀, rfl⟩ := Option.map_eq_some_iff.mp hr'
        obtain rfl : r₀ = r := Option.some.inj (hr₀.symm.trans hr)
        split_ifs at hstate with howner
        · exact ⟨r₀, Table.mem_of_get? hr, howner.1, hactive, (Table.key_of_get? hr).symm⟩
        · exact absurd hactive hstate
      by_cases hends : c.Ends s.shelf.reservation t.get?
      · refine .inl ⟨hends, ?_⟩
        by_contra hstate
        refine hcontested ⟨c, Table.mem_of_get? hc, hstate, ?_⟩
        rcases hends with hends | hends
        · obtain ⟨r, hr, howner, hactive, hid⟩ := howned hends
          exact ⟨r, hr, howner, hactive, .inl hid⟩
        · obtain ⟨r, hr, howner, hactive, hid⟩ := howned hends
          exact ⟨r, hr, howner, hactive, .inr hid⟩
      · exact .inr ⟨hends, rfl⟩

/-- The reservations that meet a condition end, and their conflicts are resolved. -/
theorem endReservations_shelves {p : ReservationRow → Prop} [DecidablePred p]
    {f : ReservationRow → ReservationRow} {n : ℕ} {u : Unit} {s₁ : Db} (hend : .ending ∈ L)
    (hupd : updateIn Rel.reservations p f s = (.ok n, s₁))
    (hloop : Tx.forEach (s.reservations.select p)
      (fun r => resolveReservationOverlapConflicts r.reservationId now) s₁ = (.ok u, s'))
    (hp : ∀ r, p r → r.state = .active) (hf : ∀ r, (f r).state ≠ .active ∧ r.Same (f r)) :
    Shelves L s s' := by
  obtain ⟨t, rfl, ht⟩ := updateIn_map hupd fun r _ => (hf r).2.keyed
  refine .move hend ?_
  rw [resolveConflicts_shelf hloop]
  have hids : ∀ k, k ∈ (s.reservations.select p).map (·.reservationId) ↔
      ∃ r, s.shelf.reservation k = some r ∧ p r := by
    intro k
    simp only [List.mem_map, Table.mem_select]
    constructor
    · rintro ⟨r, ⟨hr, hpr⟩, rfl⟩
      exact ⟨r, Table.get?_key hr, hpr⟩
    · rintro ⟨r, hr, hpr⟩
      exact ⟨r, ⟨Table.mem_of_get? hr, hpr⟩, Table.key_of_get? hr⟩
  show ShelfMove s.shelf .ending ⟨t.get?, _⟩
  rw [ht]
  exact .of_resolve hids hp hf

theorem releaseActiveReservations_shelves {owner : SubtaskId} (hend : .ending ∈ L) :
    Tx.Keeps (Shelves L) (releaseActiveReservations owner now) := by
  intro s u s' h
  simp only [releaseActiveReservations, Tx.bind_ok, selectFrom_ok, and_assoc, exists_and_left,
    exists_eq_left'] at h
  obtain ⟨n, s₁, hupd, hloop⟩ := h
  exact endReservations_shelves hend hupd hloop (fun _ hr => hr.2)
    fun _ => ⟨by simp, rfl, rfl, rfl, rfl, rfl⟩

theorem expireOldReservations_shelves (hend : .ending ∈ L) :
    Tx.Keeps (Shelves L) (expireOldReservations now) := by
  intro s v s' h
  simp only [expireOldReservations, Tx.bind_ok, advanceLeaseClock_ok, selectFrom_ok, Tx.pure_ok,
    and_assoc, exists_and_left, exists_eq_left', Tx.exists_unit] at h
  obtain ⟨leaseNow, -, s₀, hs₀, n, s₁, hupd, s₂, hloop, s₃, hevent, -, rfl⟩ := h
  have hstart : Shelves L s s₀ := .of_eq (by rw [hs₀]; rfl)
  have hended : Shelves L s₀ s₂ := endReservations_shelves hend hupd hloop (fun _ hr => hr.1)
    fun _ => ⟨by simp, rfl, rfl, rfl, rfl, rfl⟩
  have hevent : Touches [.events] s₂ s₃ :=
    (Tx.Within.whenever fun _ => appendEvent_touches (by decide)).run hevent
  exact (hstart.trans hended).trans (.of_eq (hevent.shelf (by decide) (by decide)))

theorem appendSessionEvent_shelves {eventType : EventType} {objectType : ObjectType}
    {objectId : String} {actor : SessionToken} :
    Tx.Keeps (Shelves L) (appendSessionEvent eventType objectType objectId actor now) :=
  shelves_of_touches (appendSessionEvent_touches (List.Subset.refl _)) (by decide) (by decide)

theorem releaseReservation_shelves {req : ReleaseReservationReq} (hend : .ending ∈ L) :
    Tx.Keeps (Shelves L) (releaseReservation req now) := by
  refine mutation_keeps shelves_overlooks ?_
  intro s v s' h
  simp only [Tx.bind_ok, requireRole_ok, Tx.lift_ok, Tx.ensure_ok, Tx.pure_ok, and_assoc,
    exists_and_left, exists_eq_left', Tx.exists_unit] at h
  obtain ⟨_, -, -, -, -, -, _, s₀, hload, -, n, s₁, hupd, hn, s₂, hresolve, -, s₃, hevent, -, rfl⟩ := h
  obtain rfl := load_readOnly.state hload
  refine Shelves.trans (.move hend ?_) (appendSessionEvent_shelves hevent)
  have hids : ∀ k, k ∈ [req.reservationId] ↔ ∃ r, s₀.shelf.reservation k = some r ∧
      r.reservationId = req.reservationId ∧ r.state = .active := by
    obtain ⟨r, hr, hactive⟩ := (updateIn_get? hupd fun _ => rfl).1 (by omega)
    have hkey : r.reservationId = req.reservationId := Table.key_of_get? hr
    intro k
    rw [List.mem_singleton]
    constructor
    · rintro rfl
      exact ⟨r, hr, hkey, hactive⟩
    · rintro ⟨r', hr', hid, -⟩
      exact (Table.key_of_get? hr').symm.trans hid
  obtain ⟨t, rfl, ht⟩ := updateIn_map hupd fun _ _ => rfl
  rw [resolveReservationOverlapConflicts_shelf hresolve]
  show ShelfMove s₀.shelf .ending ⟨t.get?, _⟩
  rw [ht]
  exact .of_resolve hids (fun _ hr => hr.2) fun _ => ⟨by simp, rfl, rfl, rfl, rfl, rfl⟩

theorem renewReservation_shelves {req : RenewReservationReq} (hrenew : .renew ∈ L) :
    Tx.Keeps (Shelves L) (renewReservation req now) := by
  refine leasedMutation_keeps shelves_overlooks fun leaseNow => ?_
  intro s v s' h
  simp only [Tx.bind_ok, requireRole_ok, Tx.lift_ok, Tx.ensure_ok, Tx.pure_ok, and_assoc,
    exists_and_left, exists_eq_left', Tx.exists_unit] at h
  obtain ⟨_, -, -, -, -, -, _, s₀, hload, -, -, n, s₁, hupd, hn, -, -, s₂, hevent, -, rfl⟩ := h
  obtain rfl := load_readOnly.state hload
  refine Shelves.trans (.move hrenew ?_) (appendSessionEvent_shelves hevent)
  obtain ⟨hfound, t, rfl, ht⟩ := updateIn_get? hupd fun _ => rfl
  obtain ⟨r, hr, hactive⟩ := hfound (by omega)
  have hkey : r.reservationId = req.reservationId := Table.key_of_get? hr
  rw [← hkey] at hr ht
  show ShelfMove s₀.shelf .renew ⟨t.get?, _⟩
  rw [ht, modify_of_some hr, if_pos hactive]
  exact .renew hr hactive ⟨rfl, rfl, rfl, rfl, rfl⟩ hactive

theorem resolveConflict_shelves {req : ResolveConflictReq} (hresolve : .resolve req.conflictId ∈ L) :
    Tx.Keeps (Shelves L) (resolveConflict req now) := by
  refine mutation_keeps shelves_overlooks ?_
  intro s v s' h
  simp only [Tx.bind_ok, requireRole_ok, Tx.lift_ok, Tx.ensure_ok, Tx.pure_ok, and_assoc,
    exists_and_left, exists_eq_left', Tx.exists_unit] at h
  obtain ⟨_, -, -, -, -, c, s₀, hload, htrans, n, s₁, hupd, hn, s₂, hevent, -, rfl⟩ := h
  obtain ⟨c, hc, ⟨rfl⟩, rfl⟩ := load_ok.mp hload
  refine Shelves.trans (.move hresolve ?_) (appendSessionEvent_shelves hevent)
  obtain ⟨-, t, rfl, ht⟩ := updateIn_get? hupd fun _ => rfl
  have hkey : c.conflictId = req.conflictId := Table.key_of_get? hc
  rw [← hkey] at hc ht ⊢
  show ShelfMove s.shelf _ ⟨_, t.get?⟩
  rw [ht, modify_of_some hc, if_pos rfl]
  refine .resolve hc fun hresolved => ?_
  rcases (ensureTransition_ok.mp htrans) with ⟨hopen, -⟩ | ⟨hack, -⟩ | ⟨-, htarget⟩
  · rw [hresolved] at hopen
    cases hopen
  · rw [hresolved] at hack
    cases hack
  · exact htarget

/-! ## The operations that end reservations with work -/

theorem recordDirectOutcome_shelves {eventType : EventType} {input : OutcomeInput}
    (hend : .ending ∈ L) :
    Tx.Keeps (Shelves L) (recordDirectOutcome eventType input leaseNow now) := by
  have hquiet : ∀ s s', Touches [.sessions, .metaTasks, .subtasks, .claims, .attemptOutcomes, .events]
      s s' → Shelves L s s' := fun _ _ h => .of_eq (h.shelf (by decide) (by decide))
  unfold recordDirectOutcome
  refine .bind (loadClaimContext_touches.mono hquiet).keeps fun _ =>
    .bind (ensureMetaTaskIsSchedulable_touches.mono hquiet).keeps fun _ =>
    .bind (.lift _) fun _ => .bind (.ensure _ _) fun _ => .bind (.ensure _ _) fun _ =>
    .bind (.lift _) fun _ => .bind ((insertInto_touches (fun _ _ => rfl) _).mono hquiet).keeps fun _ =>
    .bind ((closeClaimAndDetach_touches (by decide)).mono hquiet).keeps fun _ =>
    .bind (releaseActiveReservations_shelves hend) fun _ =>
    .bind (Tx.Within.mono hquiet ?_).keeps fun _ => .bind (.ensure _ _) fun _ =>
    .bind ((clearSessionActiveSubtask_touches (by decide)).mono hquiet).keeps fun _ =>
    .bind ((refreshMetaTaskState_touches (by decide)).mono hquiet).keeps fun _ =>
    .bind appendSessionEvent_shelves fun _ => .pure _
  exact updateSubtasks_touches (by decide) _ _ fun _ => rfl

theorem decideReview_shelves {env : Env} {req : DecideReviewReq} (hend : .ending ∈ L) :
    Tx.Keeps (Shelves L) (decideReview env req now) := by
  have hquiet : ∀ s s', Touches [.sessions, .metaTasks, .subtasks, .fenceCounters, .claims, .reviews,
      .reviewFollowups, .readyQueue, .openSpecArchiveStatus, .events] s s' → Shelves L s s' :=
    fun _ _ h => .of_eq (h.shelf (by decide) (by decide))
  refine leasedMutation_keeps shelves_overlooks fun _ =>
    .bind (requireRole_touches.mono hquiet).keeps fun _ => .bind (.lift _) fun _ =>
    .bind (.lift _) fun _ => .bind (.lift _) fun _ =>
    .bind (loadReviewContext_touches.mono hquiet).keeps fun ctx =>
    .bind ((closeReview_touches (by decide)).mono hquiet).keeps fun _ => .bind (.lift _) fun _ =>
    .bind (.lift _) fun _ => .bind (.whenever fun _ =>
      .bind ((releaseProducer_touches (by decide)).mono hquiet).keeps fun _ =>
      releaseActiveReservations_shelves hend) fun _ =>
    .bind ((setReviewedWork_touches (by decide)).mono hquiet).keeps fun _ => .bind ?_ fun _ =>
    .bind appendSessionEvent_shelves fun _ => .bind ?_ fun _ =>
    .bind ((refreshMetaTaskState_touches (by decide)).mono hquiet).keeps fun _ => .pure _
  · unfold recordDecision
    split_ifs
    · exact .pure _
    · exact .bind ((createReviewFollowupSubtask_touches (by decide)).mono hquiet).keeps fun _ => .pure _
  · unfold followApproval
    split_ifs
    · exact .bind ((enqueueApprovedSubtaskForApply_touches (by decide)).mono hquiet).keeps fun _ =>
        .pure _
    · exact ((recordArchiveBlocker_touches (by decide)).mono hquiet).keeps
    · exact .pure _

theorem releaseClaim_shelves {req : ReleaseClaimReq} {v : Response} (hend : .ending ∈ L)
    (hdrop : ∀ claim, s.claims.get? req.claimId = some claim → s.Contested claim.subtaskId → .drop ∈ L)
    (h : releaseClaim req now s = (.ok v, s')) : Shelves L s s' := by
  refine leasedMutation_from shelves_overlooks (fun {leaseNow s₀ s'} _ hs₀ hrun => ?_) h
  simp only [Tx.bind_ok, Tx.lift_ok, Tx.pure_ok, and_assoc, exists_and_left, exists_eq_left',
    Tx.exists_unit] at hrun
  obtain ⟨-, ctx, _, hload, -, s₁, hclose, n, s₂, hupd, s₃, hdetach, s₄, hclear, s₅, hevent, -, rfl⟩ :=
    hrun
  obtain ⟨rfl, hctx⟩ := loadClaimContext_ok hload
  have hclose := ((closeClaimAndDetach_touches (List.Subset.refl _)).run hclose).shelf
    (by decide) (by decide)
  have hclaim : s.claims.get? req.claimId = some ctx.claim := by
    rw [hs₀] at hctx
    exact hctx.claim
  have hshelf : s₁.shelf = s.shelf := by
    rw [hclose, hs₀]
    rfl
  have hupd : Shelves L s₁ s₂ := dropReservations_shelves hend
    (fun hcontested => hdrop _ hclaim (hcontested.congr hshelf.symm)) hupd
  have hdetach := ((detachSubtask_touches (List.Subset.refl _)).run hdetach).shelf
    (by decide) (by decide)
  have hclear := ((clearSessionActiveSubtask_touches (List.Subset.refl _)).run hclear).shelf
    (by decide) (by decide)
  exact ((((Shelves.of_eq hclose).trans hupd).trans (.of_eq hdetach)).trans (.of_eq hclear)).trans
    (appendSessionEvent_shelves hevent)

/-! ## New reservations -/

theorem length_of_makeId {uuid : Uuid} {id : ReservationId}
    (h : makeId .reservationId "reservation" uuid = .ok id) : id.val.toList.length = 44 := by
  rw [Text.parse_ok.mp h]
  simp [Uuid.simple]

theorem insertReservation_shelf {r : ReservationRow} {u : Unit}
    (h : insertInto Rel.reservations r s = (.ok u, s')) :
    s.shelf.reservation r.reservationId = none ∧
      s'.shelf = { s.shelf with reservation := put s.shelf.reservation r.reservationId r } := by
  obtain ⟨hnew, t, rfl, ht⟩ := insertInto_get? h
  refine ⟨hnew, ?_⟩
  show Shelf.mk t.get? _ = _
  rw [ht]
  rfl

theorem upsertConflict_shelf {c : ConflictRow} {f : ConflictRow → ConflictRow} {u : Unit}
    (h : upsertInto Rel.conflicts c f s = (.ok u, s'))
    (hf : ∀ old, (f old).conflictId = c.conflictId) :
    ∃ c', (c' = c ∨ ∃ old, c' = f old) ∧
      s'.shelf = { s.shelf with conflict := put s.shelf.conflict c'.conflictId c' } := by
  unfold upsertInto at h
  obtain ⟨found, _, hfound, h⟩ := Tx.bind_ok.mp h
  obtain ⟨hget, rfl⟩ := lookup_ok.mp hfound
  cases found with
  | none =>
    obtain ⟨-, t, rfl, ht⟩ := insertInto_get? h
    refine ⟨c, .inl rfl, ?_⟩
    show Shelf.mk _ t.get? = _
    rw [ht]
    rfl
  | some old =>
    obtain ⟨n, s₁, hupd, h⟩ := Tx.bind_ok.mp h
    obtain ⟨-, rfl⟩ := Tx.pure_ok.mp h
    obtain ⟨t, rfl, ht⟩ := updateIn_map hupd fun r hr => (hf r).trans hr.symm
    refine ⟨f old, .inr ⟨old, rfl⟩, ?_⟩
    rw [hf]
    show Shelf.mk _ t.get? = Shelf.mk _ _
    congr 1
    rw [ht]
    funext k
    by_cases hk : k = c.conflictId
    · subst hk
      have hold : conflictSchema.key old = conflictSchema.key c := Table.key_of_get? hget
      show (s.conflicts.get? c.conflictId).map _ = _
      rw [show s.conflicts.get? c.conflictId = some old from hget, put_self, Option.map_some,
        if_pos hold]
    · rw [put_of_ne hk]
      show (s.conflicts.get? k).map _ = s.conflicts.get? k
      cases hrow : s.conflicts.get? k with
      | none => rfl
      | some r =>
        have hne : conflictSchema.key r ≠ conflictSchema.key c :=
          fun heq => hk ((Table.key_of_get? hrow).symm.trans heq)
        rw [Option.map_some, if_neg hne]

/-- A reservation for a cleanup. -/
theorem reserveArchivePath_shelves {req : BeginOpenSpecArchiveCleanupReq} {id : SubtaskId}
    {deadline : ℤ} {path : RepoopsPath} (hL : .reserve ∈ L) :
    Tx.Keeps (Shelves L) (reserveArchivePath req id deadline now path) := by
  intro s u s' h
  unfold reserveArchivePath at h
  obtain ⟨reservationId, s₀, hid, h⟩ := Tx.bind_ok.mp h
  obtain ⟨_, s₁, hins, h⟩ := Tx.bind_ok.mp h
  obtain ⟨hmake, hs₀⟩ := freshId_ok.mp hid
  obtain ⟨hnew, hs₁⟩ := insertReservation_shelf hins
  have hstart : Shelves L s s₀ := .of_eq (by rw [hs₀]; rfl)
  have hmade : Shelves L s₀ s₁ := by
    rw [Shelves, hs₁]
    exact .move hL (.reserve hnew rfl path.isPath path.plain (length_of_makeId hmake))
  refine (hstart.trans hmade).trans ((?_ : Tx.Keeps (Shelves L) _) h)
  split
  · exact .bind (fun _ _ _ h => .of_eq (by rw [cleanupMissing_readOnly.state h])) fun _ =>
      appendSessionEvent_shelves
  · exact appendSessionEvent_shelves

/-- The conflict records the overlap of the reservation with another one. -/
structure ConflictRow.Records (id : ReservationId) (other : ReservationRow) (c : ConflictRow) :
    Prop where
  named : c.conflictId.val = conflictName id other.reservationId
  reservation : c.reservationId = id
  overlapping : c.overlappingReservationId = other.reservationId
  opened : c.resolutionState = .opened

theorem recordReservationOverlapConflict_shelf {id : ReservationId} {req : RequestReservationReq}
    {scopeKey : String} {other : ReservationRow} {u : Unit}
    (h : recordReservationOverlapConflict id req scopeKey now other s = (.ok u, s')) :
    ∃ c, c.Records id other ∧
      s'.shelf = { s.shelf with conflict := put s.shelf.conflict c.conflictId c } := by
  simp only [recordReservationOverlapConflict, Tx.bind_ok, Tx.lift_ok, typed_ok, and_assoc,
    exists_and_left, exists_eq_left'] at h
  obtain ⟨conflictId, hparse, h⟩ := h
  have hname : conflictId.val = conflictName id other.reservationId := Text.parse_ok.mp hparse
  obtain ⟨c, hc, hs'⟩ := upsertConflict_shelf h fun _ => rfl
  rcases hc with rfl | ⟨old, rfl⟩
  · exact ⟨_, ⟨hname, rfl, rfl, rfl⟩, hs'⟩
  · exact ⟨_, ⟨hname, rfl, rfl, rfl⟩, hs'⟩

/-- After the loop over the overlaps there is a new conflict for each of them, and no other. -/
theorem recordConflicts_shelf {id : ReservationId} {req : RequestReservationReq} {scopeKey : String}
    {overlaps : List ReservationRow} {u : Unit}
    (h : Tx.forEach overlaps (recordReservationOverlapConflict id req scopeKey now) s =
      (.ok u, s')) :
    s'.shelf.reservation = s.shelf.reservation ∧
      (∀ k c, s'.shelf.conflict k = some c →
        s.shelf.conflict k = some c ∨ c.conflictId = k ∧ ∃ other ∈ overlaps, c.Records id other) ∧
      (∀ k c, s.shelf.conflict k = some c → ∃ c', s'.shelf.conflict k = some c' ∧
        (c' = c ∨ ∃ other ∈ overlaps, c'.Records id other)) ∧
      (∀ other ∈ overlaps, ∃ k : ConflictId, k.val = conflictName id other.reservationId ∧
        ∃ c, s'.shelf.conflict k = some c ∧ ∃ other ∈ overlaps, c.Records id other) := by
  induction overlaps generalizing s with
  | nil =>
    obtain ⟨-, rfl⟩ := Prod.mk.inj h
    exact ⟨rfl, fun _ _ hc => .inl hc, fun _ c hc => ⟨c, hc, .inl rfl⟩, by simp⟩
  | cons other overlaps ih =>
    obtain ⟨s₁, hfirst, hrest⟩ := Tx.forEach_cons_ok.mp h
    obtain ⟨c, hrecords, hs₁⟩ := recordReservationOverlapConflict_shelf hfirst
    obtain ⟨hres, hconf, hkept, hall⟩ := ih hrest
    -- what the rest of the loop finds is what was there, or the conflict of this round
    have hfound : ∀ k c', s₁.shelf.conflict k = some c' →
        s.shelf.conflict k = some c' ∨ c'.conflictId = k ∧ c'.Records id other := by
      intro k c' hc'
      rw [hs₁] at hc'
      rcases put_eq_some.mp hc' with ⟨rfl, rfl⟩ | ⟨-, hold⟩
      · exact .inr ⟨rfl, hrecords⟩
      · exact .inl hold
    have hlater : ∀ k c', s₁.shelf.conflict k = some c' → ∃ c'', s'.shelf.conflict k = some c'' ∧
        (c'' = c' ∨ ∃ o ∈ other :: overlaps, c''.Records id o) := by
      intro k c' hc'
      obtain ⟨c'', hc'', hor⟩ := hkept k c' hc'
      exact ⟨c'', hc'', hor.imp_right fun ⟨o, ho, hrec⟩ => ⟨o, List.mem_cons_of_mem _ ho, hrec⟩⟩
    have hround : s₁.shelf.conflict c.conflictId = some c := by
      rw [hs₁]
      exact put_self
    refine ⟨hres.trans (by rw [hs₁]), fun k c' hc' => ?_, fun k c' hc' => ?_,
      List.forall_mem_cons.mpr ⟨?_, ?_⟩⟩
    · rcases hconf k c' hc' with hc' | ⟨hkey, other', hmem, hrec⟩
      · exact (hfound k c' hc').imp_right fun h => ⟨h.1, other, List.mem_cons_self, h.2⟩
      · exact .inr ⟨hkey, other', List.mem_cons_of_mem _ hmem, hrec⟩
    · by_cases hk : k = c.conflictId
      · obtain ⟨c'', hc'', rfl | hrec⟩ := hlater _ _ hround
        · exact ⟨c'', hk ▸ hc'', .inr ⟨other, List.mem_cons_self, hrecords⟩⟩
        · exact ⟨c'', hk ▸ hc'', .inr hrec⟩
      · refine hlater k c' ?_
        rw [hs₁]
        exact (put_of_ne hk).trans hc'
    · obtain ⟨c', hc', rfl | hrec⟩ := hlater _ _ hround
      · exact ⟨_, hrecords.named, c', hc', other, List.mem_cons_self, hrecords⟩
      · exact ⟨_, hrecords.named, c', hc', hrec⟩
    · intro other' hmem
      obtain ⟨k, hk, c', hc', o, ho, hrec⟩ := hall other' hmem
      exact ⟨k, hk, c', hc', o, List.mem_cons_of_mem _ ho, hrec⟩

/-- The moves of the loop. -/
theorem recordConflicts_shelves {id : ReservationId} {req : RequestReservationReq}
    {scopeKey : String} {overlaps : List ReservationRow} {u : Unit} (hL : .overlap ∈ L)
    (hid : s.shelf.Active id) (hactive : ∀ other ∈ overlaps, s.shelf.Active other.reservationId)
    (h : Tx.forEach overlaps (recordReservationOverlapConflict id req scopeKey now) s =
      (.ok u, s')) : Shelves L s s' := by
  induction overlaps generalizing s with
  | nil =>
    obtain ⟨-, rfl⟩ := Prod.mk.inj h
    exact refl s
  | cons other overlaps ih =>
    obtain ⟨s₁, hfirst, hrest⟩ := Tx.forEach_cons_ok.mp h
    obtain ⟨c, hc, hs₁⟩ := recordReservationOverlapConflict_shelf hfirst
    obtain ⟨hother, hothers⟩ := List.forall_mem_cons.mp hactive
    have hsame : ∀ {k}, s.shelf.Active k → s₁.shelf.Active k := fun h => by rw [hs₁]; exact h
    refine Shelves.trans (s := s) ?_ (ih (hsame hid) (fun o ho => hsame (hothers o ho)) hrest)
    rw [Shelves, hs₁]
    refine .move hL (.overlap ?_ ?_ ?_ hc.opened)
    · rw [hc.reservation]
      exact hid
    · rw [hc.overlapping]
      exact hother
    · rw [hc.named, hc.reservation, hc.overlapping]

theorem mem_findOverlappingReservations {scopeClass : ScopeClass} {scopeKey : String}
    {members : List String} {overlaps : List ReservationRow}
    (h : findOverlappingReservations scopeClass scopeKey members s = (.ok overlaps, s')) :
    s' = s ∧ ∀ r, r ∈ overlaps ↔ r ∈ s.reservations.rows ∧ r.state = .active ∧
      s.leaseClock < r.leaseDeadline ∧ overlapsScope scopeClass scopeKey members r := by
  obtain ⟨rfl, rfl⟩ := Tx.mapEach_lift_ok ReservationRow.load_val
    (findOverlappingReservations_ok.mp h).2
  refine ⟨rfl, fun r => ?_⟩
  rw [List.mem_insertionSort, Db.overlapping, Table.mem_select, ReservationRow.OverlapsAt,
    ReservationRow.Live, and_assoc]

/-- The members are the normal forms, each once. -/
theorem normalizeGeneratedMembers_ok {rawMembers members : List String}
    (h : normalizeGeneratedMembers rawMembers = .ok members) :
    members.Nodup ∧
      ∀ member ∈ members, ∃ raw ∈ rawMembers, normalizeRelativeRepoPath raw = .ok member := by
  cases hmap : rawMembers.mapM normalizeRelativeRepoPath with
  | error e => simp [normalizeGeneratedMembers, hmap, bind, Except.bind] at h
  | ok normalized =>
    simp only [normalizeGeneratedMembers, hmap, bind, Except.bind, pure, Except.pure,
      Except.ok.injEq] at h
    subst h
    refine ⟨List.nodup_dedup _, fun member hmem => ?_⟩
    rw [List.mem_dedup, List.mem_insertionSort] at hmem
    exact (mem_of_mapM hmap).mp hmem

theorem wellScoped_of_normalize {scopeClass : ScopeClass} {raw scopeKey : String}
    {rawMembers members : List String} (hkey : normalizeScopeKey scopeClass raw = .ok scopeKey)
    (hmembers : normalizeGeneratedMembers rawMembers = .ok members)
    (hshape : ensureReservationScopeShape scopeClass scopeKey members = .ok ()) :
    WellScoped scopeClass scopeKey members := by
  cases scopeClass with
  | repoGlobal => trivial
  | exactPath => exact normalizeRelativeRepoPath_isPath hkey
  | subtree => exact normalizeRelativeRepoPath_isPath hkey
  | generatedSet =>
    refine ⟨?_, fun member hmem => ?_⟩
    · rintro rfl
      simp only [ensureReservationScopeShape, if_true, List.isEmpty_nil] at hshape
      split_ifs at hshape
    · obtain ⟨raw, -, hraw⟩ := (normalizeGeneratedMembers_ok hmembers).2 member hmem
      exact normalizeRelativeRepoPath_isPath hraw

theorem plain_of_normalize {scopeClass : ScopeClass} {raw scopeKey : String}
    {rawMembers members : List String} (hkey : normalizeScopeKey scopeClass raw = .ok scopeKey)
    (hmembers : normalizeGeneratedMembers rawMembers = .ok members) :
    Plain scopeClass scopeKey members := by
  cases scopeClass with
  | repoGlobal => exact (Except.ok.inj hkey).symm
  | exactPath => exact normalizeRelativeRepoPath_plain hkey
  | subtree => exact normalizeRelativeRepoPath_plain hkey
  | generatedSet =>
    intro member hmem
    obtain ⟨raw, -, hraw⟩ := (normalizeGeneratedMembers_ok hmembers).2 member hmem
    exact normalizeRelativeRepoPath_plain hraw

/-- What a new reservation finds and makes: `b` is the reservation, `overlaps` are the
    live reservations that overlap it. -/
structure Requested (s s' : Db) (b : ReservationRow) (overlaps : List ReservationRow) : Prop where
  active : b.state = .active
  paths : b.WellScoped
  plain : b.Plain
  generated : b.reservationId.val.toList.length = 44
  new : s.shelf.reservation b.reservationId = none
  found : ∀ r, r ∈ overlaps ↔ r ∈ s.reservations.rows ∧ r.state = .active ∧
    s.leaseClock < r.leaseDeadline ∧ overlapsScope b.scopeClass b.scopeKey b.generatedMembers r
  recorded : ∃ req scopeKey now s₁ s₂ u,
    s₁.shelf = { s.shelf with reservation := put s.shelf.reservation b.reservationId b } ∧
    Tx.forEach overlaps (recordReservationOverlapConflict b.reservationId req scopeKey now) s₁ =
      (.ok u, s₂) ∧ s'.shelf = s₂.shelf

theorem requestReservation_run {req : RequestReservationReq} {v : Response}
    (h : requestReservation req now s = (.ok v, s')) :
    Recorded s req.sessionToken.val "request_reservation" req.idempotencyKey
        (.requestReservation req) v ∧ s'.shelf = s.shelf ∨
      ∃ leaseNow s₀ b overlaps, leaseNow = max s.leaseClock (max now 0) ∧
        s₀ = { s with leaseClock := leaseNow } ∧ Requested s₀ s' b overlaps := by
  obtain ⟨leaseNow, hlease, h⟩ := leasedMutation_ok.mp h
  obtain ⟨-, ⟨row, hrow, hreq, hresp, hs⟩ | ⟨-, s₁, hrun, t, -, rfl⟩⟩ :=
    withIdempotentMutation_ok.mp (mutation_ok.mp h).2
  · refine .inl ⟨⟨row, hrow, hreq, hresp⟩, ?_⟩
    rw [← hs]
    rfl
  right
  generalize hs₀ : ({ s with leaseClock := leaseNow } : Db) = s₀ at hrun
  simp only [Tx.bind_ok, requireRole_ok, Tx.lift_ok, loadSubtask_ok, Tx.pure_ok, and_assoc,
    exists_and_left, exists_eq_left', Tx.exists_unit] at hrun
  obtain ⟨_, -, -, -, -, -, _, -, -, -, scopeKey, hkey, -, members, hmembers, hshape, s₁', hlengths, -,
    overlaps, s₂, hfind, reservationId, s₃, hid, s₄, hins, s₅, hloop, s₆, hevent, -, rfl⟩ := hrun
  have hs₁ : s₀ = s₁' := (Tx.Keeps.forEach fun _ _ => Tx.Keeps.lift _) hlengths
  rw [← hs₁] at hfind
  obtain ⟨hs₂, hmem⟩ := mem_findOverlappingReservations hfind
  obtain ⟨hmake, hs₃⟩ := freshId_ok.mp hid
  obtain ⟨hnew, hs₄⟩ := insertReservation_shelf hins
  have hshelf : s₃.shelf = s₀.shelf := by rw [hs₃, hs₂]; rfl
  rw [hshelf] at hnew hs₄
  have hlater : s₆.shelf = s₅.shelf :=
    ((appendSessionEvent_touches (List.Subset.refl _)).run hevent).shelf (by decide) (by decide)
  exact ⟨leaseNow, s₀, _, overlaps, hlease, hs₀.symm, rfl,
    wellScoped_of_normalize hkey hmembers hshape, plain_of_normalize hkey hmembers, length_of_makeId hmake, hnew, hmem,
    req, scopeKey, now, s₄, s₅, _, hs₄, hloop, hlater⟩

theorem Requested.shelves {b : ReservationRow} {overlaps : List ReservationRow}
    (h : Requested s s' b overlaps) (hreserve : .reserve ∈ L) (hoverlap : .overlap ∈ L) :
    Shelves L s s' := by
  obtain ⟨req, scopeKey, now, s₁, s₂, u, hs₁, hloop, hs'⟩ := h.recorded
  have hmade : Shelves L s s₁ := by
    rw [Shelves, hs₁]
    exact .move hreserve (.reserve h.new h.active h.paths h.plain h.generated)
  refine (hmade.trans (recordConflicts_shelves hoverlap ?_ ?_ hloop)).trans (.of_eq hs')
  · rw [hs₁]
    exact ⟨b, put_self, h.active⟩
  · intro other hother
    obtain ⟨hmem, hactive, -, -⟩ := (h.found other).mp hother
    have hget : s.shelf.reservation other.reservationId = some other := Table.get?_key hmem
    rw [hs₁]
    exact ⟨other, put_of_new h.new hget, hactive⟩

/-! ## The cleanup of a change -/

theorem endCleanupClaim_shelves {row : CleanupClaimRow} {claimState : ClaimState}
    {subtaskState : SubtaskState} {u : Unit} (hend : .ending ∈ L)
    (hdrop : s.Contested row.cleanupSubtaskId → .drop ∈ L)
    (h : endCleanupClaim row claimState subtaskState now s = (.ok u, s')) : Shelves L s s' := by
  simp only [endCleanupClaim, releaseActiveReservationsForSubtask, Tx.bind_ok, Tx.pure_ok] at h
  obtain ⟨_, s₁, hclaims, _, s₂, hsubtasks, _, s₃, hdropped, -, rfl⟩ := h
  have hshelf : s₂.shelf = s.shelf := by
    obtain ⟨_, rfl, -⟩ := updateIn_map hclaims fun _ _ => rfl
    obtain ⟨_, rfl, -⟩ := updateIn_map hsubtasks fun _ _ => rfl
    rfl
  exact (Shelves.of_eq hshelf).trans
    (dropReservations_shelves hend (fun h => hdrop (h.congr hshelf.symm)) hdropped)

/-- The recorded cleanup claim is open and no longer held under a lease. -/
def CleanupClaimRow.Stale (s : Db) (leaseNow : ℤ) (row : CleanupClaimRow) : Prop :=
  row.archiveProofDigest = none ∧
    ∀ c ∈ s.claims.get? row.cleanupClaimId, c.state ≠ .held ∨ c.leaseDeadline ≤ leaseNow

instance (s : Db) (leaseNow : ℤ) (row : CleanupClaimRow) : Decidable (row.Stale s leaseNow) :=
  inferInstanceAs (Decidable (_ ∧ _))

theorem retireStaleCleanupClaim_shelves {changeId : OpenSpecChangeId} {u : Unit}
    (hend : .ending ∈ L)
    (hdrop : ∀ row ∈ s.cleanupClaims.get? changeId, row.Stale s leaseNow →
      s.Contested row.cleanupSubtaskId → .drop ∈ L)
    (h : retireStaleCleanupClaim changeId leaseNow now s = (.ok u, s')) : Shelves L s s' := by
  obtain ⟨_, _, hget, h⟩ := Tx.bind_ok.mp h
  obtain ⟨rfl, rfl⟩ := Tx.get_ok.mp hget
  cases hrow : s.cleanupClaims.get? changeId with
  | none =>
    rw [hrow] at h
    obtain ⟨-, rfl⟩ := Tx.pure_ok.mp h
    exact refl s
  | some row =>
    rw [hrow] at h
    rcases Tx.whenever_ok.mp h with ⟨hstale, h⟩ | ⟨-, rfl⟩
    · exact endCleanupClaim_shelves hend (hdrop row hrow hstale) h
    · exact refl s

theorem openCleanupClaim_shelves {req : BeginOpenSpecArchiveCleanupReq}
    {blockers : List OpenSpecArchiveStatusRow} (hreserve : .reserve ∈ L) :
    Tx.Keeps (Shelves L) (openCleanupClaim req blockers leaseNow now) := by
  have hquiet : ∀ s s', Touches [.subtasks, .fenceCounters, .claims, .cleanupClaims] s s' →
      Shelves L s s' := fun _ _ h => .of_eq (h.shelf (by decide) (by decide))
  refine .bind ((Tx.Within.of_readOnly cleanupMetaTaskId_readOnly).mono hquiet).keeps fun _ =>
    .bind (load_touches.mono hquiet).keeps fun _ =>
    .bind (cleanupSubtaskId_touches.mono hquiet).keeps fun _ =>
    .bind (.lift _) fun _ => .bind (.lift _) fun _ =>
    .bind ((ensureCleanupSubtask_touches (by decide)).mono hquiet).keeps fun _ =>
    .bind ((issueFenceSeq_touches (by decide)).mono hquiet).keeps fun _ =>
    .bind (cleanupClaimId_touches.mono hquiet).keeps fun _ =>
    .bind (.lift _) fun _ =>
    .bind ((upsertCleanupClaim_touches (by decide)).mono hquiet).keeps fun _ =>
    .bind (Tx.Within.mono hquiet ?_).keeps fun _ =>
    .bind (.forEach fun _ _ => reserveArchivePath_shelves hreserve) fun _ =>
    .bind ((upsertCleanupClaimRow_touches (by decide)).mono hquiet).keeps fun _ =>
    .bind appendSessionEvent_shelves fun _ => .pure _
  exact updateSubtasks_touches (by decide) _ _ fun _ => rfl

theorem beginOpenSpecArchiveCleanup_shelves {req : BeginOpenSpecArchiveCleanupReq} {v : Response}
    (hend : .ending ∈ L) (hreserve : .reserve ∈ L)
    (hdrop : ∀ row ∈ s.cleanupClaims.get? req.openspecChangeId,
      row.Stale s (max s.leaseClock (max now 0)) → s.Contested row.cleanupSubtaskId → .drop ∈ L)
    (h : beginOpenSpecArchiveCleanup req now s = (.ok v, s')) : Shelves L s s' := by
  refine leasedMutation_from shelves_overlooks (fun {leaseNow s₀ s'} hlease hs₀ hrun => ?_) h
  simp only [Tx.bind_ok, requireRole_ok, and_assoc, exists_and_left, exists_eq_left',
    Tx.exists_unit] at hrun
  obtain ⟨_, -, -, -, -, eligibility, s₁, helig, s₂, hsafe, existing, s₃, hload, hrun⟩ := hrun
  obtain rfl : s₀ = s₁ := (archiveEligibilityForChange_readOnly.state helig).symm
  obtain rfl : s₀ = s₂ := by
    rcases Tx.whenever_ok.mp hsafe with ⟨-, h⟩ | ⟨-, h⟩
    · exact (cleanupMissing_readOnly.state h).symm
    · exact h
  obtain rfl : s₀ = s₃ := (loadCleanupClaimForChange_readOnly.state hload).symm
  cases existing with
  | some claim =>
    obtain ⟨-, rfl⟩ := Tx.pure_ok.mp hrun
    exact refl s₀
  | none =>
    obtain ⟨_, s₄, hretire, hrun⟩ := Tx.bind_ok.mp hrun
    refine (retireStaleCleanupClaim_shelves hend ?_ hretire).trans
      ((?_ : Tx.Keeps (Shelves L) _) hrun)
    · rw [hs₀, hlease]
      exact hdrop
    · exact .bind (openCleanupClaim_shelves hreserve) fun _ => .pure _

theorem finishOpenSpecArchiveCleanup_shelves {req : FinishOpenSpecArchiveCleanupReq} {v : Response}
    (hend : .ending ∈ L)
    (hdrop : ∀ row ∈ s.cleanupClaims.get? req.openspecChangeId,
      s.Contested row.cleanupSubtaskId → .drop ∈ L)
    (h : finishOpenSpecArchiveCleanup req now s = (.ok v, s')) : Shelves L s s' := by
  refine mutation_from shelves_overlooks (fun {s'} hrun => ?_) h
  simp only [Tx.bind_ok, requireRole_ok, Tx.get_ok, and_assoc, exists_and_left,
    exists_eq_left', Tx.exists_unit] at hrun
  obtain ⟨_, -, -, -, -, hrun⟩ := hrun
  cases hfound : (s.cleanupClaims.get? req.openspecChangeId).filter
    (fun row => row.cleanupClaimId = req.cleanupClaimId) with
  | none =>
    rw [hfound] at hrun
    cases (Prod.mk.inj hrun).1
  | some row =>
    rw [hfound] at hrun
    have hrow : s.cleanupClaims.get? req.openspecChangeId = some row :=
      (Option.filter_eq_some_iff.mp hfound).1
    obtain ⟨_, s₁, hclaim, hrun⟩ := Tx.bind_ok.mp hrun
    obtain ⟨openBlockers, s₂, hopen, hrun⟩ := Tx.bind_ok.mp hrun
    obtain rfl : s = s₁ := (requireCurrentClaim_ok.mp hclaim).2
    obtain rfl : s = s₂ := (loadOpenArchiveBlockers_readOnly.state hopen).symm
    have hdrop := hdrop row hrow
    split_ifs at hrun with hempty
    · obtain ⟨_, s₃, hfinish, hrun⟩ := Tx.bind_ok.mp hrun
      obtain ⟨-, rfl⟩ := Tx.pure_ok.mp hrun
      simp only [archivedCleanupFinish, releaseActiveReservationsForSubtask, Tx.bind_ok, Tx.pure_ok,
        selectFrom_ok, and_assoc, exists_and_left, exists_eq_left', Tx.exists_unit] at hfinish
      obtain ⟨s₁, hproof, _, ⟨_, _, hdropped, -, rfl⟩, -, rfl⟩ := hfinish
      obtain rfl : s = s₁ := by
        rcases Tx.whenever_ok.mp hproof with ⟨-, h⟩ | ⟨-, h⟩
        · exact (cleanupMissing_readOnly.state h).symm
        · exact h
      exact dropReservations_shelves hend hdrop hdropped
    · have hquiet : ∀ s s', Touches (.cleanupClaims :: archiveTables) s s' → s'.shelf = s.shelf :=
        fun _ _ h => h.shelf (by decide) (by decide)
      obtain ⟨_, s₃, hblockers, hrun⟩ := Tx.bind_ok.mp hrun
      obtain ⟨_, s₄, hrecord, hrun⟩ := Tx.bind_ok.mp hrun
      obtain ⟨_, s₅, hclose, hrun⟩ := Tx.bind_ok.mp hrun
      have hblockers := hquiet _ _
        ((Tx.Within.forEach (fun _ => archiveBlocker_touches (by decide)) _).run hblockers)
      have hrecord := hquiet _ _ ((updateIn_touches (fun _ _ => rfl) _ _).run hrecord)
      have hshelf : s₄.shelf = s.shelf := hrecord.trans hblockers
      refine ((Shelves.of_eq hshelf).trans
        (endCleanupClaim_shelves hend (fun h => hdrop (h.congr hshelf.symm)) hclose)).trans
        ((?_ : Tx.Keeps (Shelves L) _) hrun)
      exact .bind (.lift _) fun _ => .bind appendSessionEvent_shelves fun _ => .pure _

/-! ## Every operation -/

/-- The subtask whose reservations the operation ends without a look at their conflicts. -/
def Operation.drops (s : Db) (now : ℤ) : Operation → Option SubtaskId
  | .releaseClaim req => (s.claims.get? req.claimId).map (·.subtaskId)
  | .beginOpenSpecArchiveCleanup req =>
    ((s.cleanupClaims.get? req.openspecChangeId).filter fun row =>
      row.Stale s (max s.leaseClock (max now 0))).map (·.cleanupSubtaskId)
  | .finishOpenSpecArchiveCleanup req =>
    (s.cleanupClaims.get? req.openspecChangeId).map (·.cleanupSubtaskId)
  | _ => none

/-- The conflict that the operation resolves. -/
def Operation.resolves : Operation → Option ConflictId
  | .resolveConflict req => some req.conflictId
  | _ => none

def Operation.shelfWrites (s : Db) (now : ℤ) (op : Operation) : Set ShelfWrite :=
  {.reserve, .overlap, .ending, .renew} ∪ {w | ∃ id ∈ op.resolves, w = .resolve id} ∪
    {w | w = .drop ∧ ∃ owner ∈ op.drops s now, s.Contested owner}

theorem Operation.run_shelf {env : Env} {op : Operation} {v : Response}
    (h : op.run env now s = (.ok v, s')) : Shelves (op.shelfWrites s now) s s' := by
  have hend : .ending ∈ op.shelfWrites s now := by simp [shelfWrites]
  have hreserve : .reserve ∈ op.shelfWrites s now := by simp [shelfWrites]
  have hdrop : ∀ owner ∈ op.drops s now, s.Contested owner → .drop ∈ op.shelfWrites s now :=
    fun owner hmem hcontested => .inr ⟨rfl, owner, hmem, hcontested⟩
  by_cases htables : .reservations ∈ op.tables ∨ .conflicts ∈ op.tables
  swap
  · obtain ⟨hr, hc⟩ := not_or.mp htables
    exact shelves_of_touches (Operation.run_touches env op) hr hc h
  cases op
  case expireOldReservations => exact expireOldReservations_shelves hend h
  case releaseClaim req =>
    exact releaseClaim_shelves hend (fun claim hclaim => hdrop _ (by simp [drops, hclaim])) h
  case finishSubtask req =>
    exact leasedMutation_keeps shelves_overlooks (fun _ => recordDirectOutcome_shelves hend) h
  case retrySubtask req =>
    exact leasedMutation_keeps shelves_overlooks (fun _ => recordDirectOutcome_shelves hend) h
  case failSubtask req =>
    exact leasedMutation_keeps shelves_overlooks (fun _ => recordDirectOutcome_shelves hend) h
  case decideReview req => exact decideReview_shelves hend h
  case beginOpenSpecArchiveCleanup req =>
    refine beginOpenSpecArchiveCleanup_shelves hend hreserve (fun row hrow hstale => hdrop _ ?_) h
    simp [drops, Option.mem_def.mp hrow, hstale]
  case finishOpenSpecArchiveCleanup req =>
    refine finishOpenSpecArchiveCleanup_shelves hend (fun row hrow => hdrop _ ?_) h
    simp [drops, Option.mem_def.mp hrow]
  case requestReservation req =>
    rcases requestReservation_run h with ⟨-, h⟩ | ⟨leaseNow, s₀, b, overlaps, -, rfl, h⟩
    · exact .of_eq h
    · exact h.shelves hreserve (by simp [shelfWrites])
  case releaseReservation req => exact releaseReservation_shelves hend h
  case renewReservation req => exact renewReservation_shelves (by simp [shelfWrites]) h
  case resolveConflict req =>
    exact resolveConflict_shelves (by simp [shelfWrites, resolves]) h
  all_goals exact absurd htables (of_decide_eq_false rfl)

end Shelves

end Covey

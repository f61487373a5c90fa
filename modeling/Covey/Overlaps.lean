import Covey.Paths

/-!
# The overlap queries

`find_overlapping_reservations` (overlap.rs:90-107) collects ids by several queries,
some of them in chunks, and then loads the rows with these ids.

* `IdsOf`: a query returns the ids of exactly the reservations with some property.
* `findOverlappingReservations_ok`: the queries together are one selection by
  `overlapsScope`, as long as the statements have few enough variables.
-/

namespace Covey

open Relational

variable {s s' : Db} {leaseNow : ℤ}

/-! ## Chunks -/

section Chunks

variable {α : Type} {size rounds : ℕ} {l : List α} {a : α}

theorem exists_mem_chunksFrom (hsize : 0 < size) (h : l.length ≤ rounds) :
    (∃ chunk ∈ chunksFrom size rounds l, a ∈ chunk) ↔ a ∈ l := by
  induction rounds generalizing l with
  | zero =>
    obtain rfl := List.length_eq_zero_iff.mp (Nat.le_zero.mp h)
    simp [chunksFrom]
  | succ rounds ih =>
    cases l with
    | nil => simp [chunksFrom]
    | cons b l =>
      have hdrop : ((b :: l).drop size).length ≤ rounds := by
        rw [List.length_drop]
        simp only [List.length_cons] at h ⊢
        omega
      rw [chunksFrom, List.exists_mem_cons_iff, ih hdrop, ← List.mem_append,
        List.take_append_drop]

/-- Every element is in a chunk. -/
theorem exists_mem_chunks (hsize : 0 < size) : (∃ chunk ∈ chunks size l, a ∈ chunk) ↔ a ∈ l :=
  exists_mem_chunksFrom hsize (le_refl _)

end Chunks

/-! ## Queries -/

/-- The ids are those of the reservations with `P`. -/
def IdsOf (s : Db) (P : ReservationRow → Prop) (ids : List ReservationId) : Prop :=
  ∀ id, id ∈ ids ↔ ∃ r ∈ s.reservations.rows, P r ∧ r.reservationId = id

section IdsOf

variable {P Q : ReservationRow → Prop} {ids ids' : List ReservationId}

theorem IdsOf.congr (h : IdsOf s P ids) (hPQ : ∀ r, P r ↔ Q r) : IdsOf s Q ids := by
  rwa [show Q = P from funext fun r => propext (hPQ r).symm]

theorem IdsOf.append (h : IdsOf s P ids) (h' : IdsOf s Q ids') :
    IdsOf s (fun r => P r ∨ Q r) (ids ++ ids') := by
  intro id
  rw [List.mem_append, h, h']
  constructor
  · rintro (⟨r, hr, hP, hid⟩ | ⟨r, hr, hQ, hid⟩)
    · exact ⟨r, hr, .inl hP, hid⟩
    · exact ⟨r, hr, .inr hQ, hid⟩
  · rintro ⟨r, hr, hP | hQ, hid⟩
    · exact .inl ⟨r, hr, hP, hid⟩
    · exact .inr ⟨r, hr, hQ, hid⟩

/-- The ids that the rounds of a loop have found. -/
theorem IdsOf.flatten {α : Type} {P : α → ReservationRow → Prop} {l : List α}
    {found : List (List ReservationId)} (h : List.Forall₂ (fun a => IdsOf s (P a)) l found) :
    IdsOf s (fun r => ∃ a ∈ l, P a r) found.flatten := by
  induction h with
  | nil => exact fun id => by simp
  | cons hids _ ih =>
    rw [List.flatten_cons]
    exact (hids.append ih).congr fun r => by rw [List.exists_mem_cons_iff]

theorem IdsOf.sortDedup (h : IdsOf s P ids) : IdsOf s P (sortDedupIds ids) := by
  intro id
  rw [sortDedupIds, List.mem_dedup, List.mem_insertionSort]
  exact h id

theorem IdsOf.sortedUnique (h : IdsOf s P ids) : IdsOf s P (sortedUniqueIds ids) := by
  unfold sortedUniqueIds
  split_ifs
  · exact h
  · exact h.sortDedup

/-- The rows with ids of reservations with `P` are those with `P`. -/
theorem IdsOf.mem (h : IdsOf s P ids) {r : ReservationRow} (hr : r ∈ s.reservations.rows) :
    r.reservationId ∈ ids ↔ P r := by
  rw [h]
  constructor
  · rintro ⟨r', hr', hP, hid⟩
    rwa [← s.reservations.eq_of_key_eq hr' hr hid]
  · exact fun hP => ⟨r, hr, hP, rfl⟩

end IdsOf

theorem sortDedupIds_nodup {ids : List ReservationId} : (sortDedupIds ids).Nodup :=
  List.nodup_dedup _

theorem sortedUniqueIds_nodup {ids : List ReservationId} : (sortedUniqueIds ids).Nodup := by
  unfold sortedUniqueIds
  split_ifs with h
  · match ids, h with
    | [], _ => exact List.nodup_nil
    | [id], _ => exact List.nodup_singleton id
  · exact sortDedupIds_nodup

theorem mem_sortDedupStrings {values : List String} {v : String} :
    v ∈ sortDedupStrings values ↔ v ∈ values := by
  rw [sortDedupStrings, List.mem_dedup, List.mem_insertionSort]

/-- The reservation is active and its lease runs. -/
def ReservationRow.Live (leaseNow : ℤ) (r : ReservationRow) : Prop :=
  r.state = .active ∧ leaseNow < r.leaseDeadline

instance : DecidablePred (ReservationRow.Live leaseNow) :=
  fun _ => inferInstanceAs (Decidable (_ ∧ _))

theorem queryReservationIds_yields {p : ReservationRow → Prop} [DecidablePred p] :
    (queryReservationIds leaseNow p).Yields s (IdsOf s fun r => r.Live leaseNow ∧ p r) := by
  refine ⟨_, rfl, fun id => ?_⟩
  simp only [List.mem_map, Table.mem_select, ReservationRow.Live, and_assoc]
  rfl

theorem queryMemberIds_yields {p : ReservationRow → Prop} [DecidablePred p] {q : String → Prop}
    [DecidablePred q] :
    (queryMemberIds leaseNow p q).Yields s
      (IdsOf s fun r => r.Live leaseNow ∧ p r ∧ ∃ m ∈ r.generatedMembers, q m) := by
  refine ⟨_, rfl, fun id => ?_⟩
  simp only [List.mem_flatMap, List.mem_map, List.mem_filter, Table.mem_select,
    ReservationRow.Live, and_assoc, decide_eq_true_eq]
  constructor
  · rintro ⟨r, hr, hstate, hlease, hp, m, hm, hq, rfl⟩
    exact ⟨r, hr, hstate, hlease, hp, ⟨m, hm, hq⟩, rfl⟩
  · rintro ⟨r, hr, hstate, hlease, hp, ⟨m, hm, hq⟩, rfl⟩
    exact ⟨r, hr, hstate, hlease, hp, m, hm, hq, rfl⟩

theorem prepareWith_ok {n : ℕ} {u : Unit} :
    prepareWith n = .ok u ↔ n ≤ sqliteMaxVariableNumber := by
  unfold prepareWith
  split_ifs with h <;> simp [h]

/-- The statement that looks for the ancestors of the path has few enough variables. -/
def AncestorsFit (path : String) : Prop :=
  1 + (pathAncestorScopeKeys path).length ≤ sqliteMaxVariableNumber

theorem queryContainingSubtreeIdsAt_yields {path : String} (hfit : AncestorsFit path) :
    (queryContainingSubtreeIdsAt leaseNow path).Yields s (IdsOf s fun r =>
      r.Live leaseNow ∧ r.scopeClass = .subtree ∧ r.scopeKey ∈ pathAncestorScopeKeys path) :=
  .bind (.lift (Q := fun _ => True) ((prepareWith_ok (u := ())).mpr hfit) trivial) fun _ _ => queryReservationIds_yields

theorem queryReservationScopeIdsForKeysAt_yields {scopeClass : ScopeClass} {keys : List String} :
    (queryReservationScopeIdsForKeysAt leaseNow scopeClass keys).Yields s (IdsOf s fun r =>
      r.Live leaseNow ∧ r.scopeClass = scopeClass ∧ r.scopeKey ∈ keys) := by
  refine .bind (.mapEach (fun chunk => queryReservationIds_yields) _) fun found hfound => .pure ?_
  refine (IdsOf.flatten hfound).congr fun r => ?_
  rw [← exists_mem_chunks (show 0 < sqlInChunkSize by decide)]
  grind

theorem queryGeneratedMemberIdsForMembers_yields {members : List String} :
    (queryGeneratedMemberIdsForMembers leaseNow members).Yields s (IdsOf s fun r =>
      r.Live leaseNow ∧ r.scopeClass = .generatedSet ∧ ∃ m ∈ members, m ∈ r.generatedMembers) := by
  refine .bind (.mapEach (fun chunk => queryMemberIds_yields) _) fun found hfound => .pure ?_
  refine (IdsOf.flatten hfound).congr fun r => ?_
  have hchunk : ∀ m, (∃ chunk ∈ chunks sqlInChunkSize members, m ∈ chunk) ↔ m ∈ members :=
    fun m => exists_mem_chunks (by decide)
  simp only [← hchunk]
  grind

/-- The live reservations that overlap the scope. -/
def ReservationRow.OverlapsAt (leaseNow : ℤ) (scopeClass : ScopeClass) (scopeKey : String)
    (members : List String) (r : ReservationRow) : Prop :=
  r.Live leaseNow ∧ overlapsScope scopeClass scopeKey members r

instance {scopeClass : ScopeClass} {scopeKey : String} {members : List String} :
    DecidablePred (ReservationRow.OverlapsAt leaseNow scopeClass scopeKey members) :=
  fun _ => inferInstanceAs (Decidable (_ ∧ _))

section Ids

variable {path : String} {members : List String}

theorem queryOverlapIdsForExact_yields (members : List String) (hfit : AncestorsFit path) :
    (queryOverlapIdsForExact leaseNow path).Yields s fun ids => ids.Nodup ∧
      IdsOf s (ReservationRow.OverlapsAt leaseNow .exactPath path members) ids := by
  refine .bind queryReservationIds_yields fun global hglobal =>
    .bind queryReservationIds_yields fun exact hexact =>
    .bind (queryContainingSubtreeIdsAt_yields hfit) fun containing hcontaining =>
    .bind queryMemberIds_yields fun generated hgenerated =>
    .pure ⟨sortedUniqueIds_nodup, IdsOf.sortedUnique ?_⟩
  refine (((hglobal.append hexact).append hcontaining).append hgenerated).congr fun r => ?_
  simp only [ReservationRow.OverlapsAt, overlapsScope, exists_eq_right, and_or_left, or_assoc]

theorem queryOverlapIdsForSubtree_yields (members : List String) (hfit : AncestorsFit path) :
    (queryOverlapIdsForSubtree leaseNow path).Yields s fun ids => ids.Nodup ∧
      IdsOf s (ReservationRow.OverlapsAt leaseNow .subtree path members) ids := by
  refine .bind queryReservationIds_yields fun global hglobal =>
    .bind queryReservationIds_yields fun exact hexact =>
    .bind queryReservationIds_yields fun exactUnder hexactUnder =>
    .bind (queryContainingSubtreeIdsAt_yields hfit) fun containing hcontaining =>
    .bind queryReservationIds_yields fun subtreesUnder hsubtreesUnder =>
    .bind queryMemberIds_yields fun generated hgenerated =>
    .bind queryMemberIds_yields fun generatedUnder hgeneratedUnder =>
    .pure ⟨sortedUniqueIds_nodup, IdsOf.sortedUnique ?_⟩
  refine ((((((hglobal.append hexact).append hexactUnder).append hcontaining).append
    hsubtreesUnder).append hgenerated).append hgeneratedUnder).congr fun r => ?_
  simp only [ReservationRow.OverlapsAt, overlapsScope, and_or_left, exists_or, or_assoc]

theorem queryOverlapIdsForGenerated_yields :
    (queryOverlapIdsForGenerated leaseNow members).Yields s fun ids => ids.Nodup ∧
      IdsOf s (ReservationRow.OverlapsAt leaseNow .generatedSet path members) ids := by
  refine .bind queryReservationIds_yields fun global hglobal =>
    .bind queryReservationScopeIdsForKeysAt_yields fun exact hexact =>
    .bind queryReservationScopeIdsForKeysAt_yields fun containing hcontaining =>
    .bind queryGeneratedMemberIdsForMembers_yields fun generated hgenerated =>
    .pure ⟨sortedUniqueIds_nodup, IdsOf.sortedUnique ?_⟩
  refine (((hglobal.append hexact).append hcontaining).append hgenerated).congr fun r => ?_
  simp only [ReservationRow.OverlapsAt, overlapsScope, mem_sortDedupStrings, List.mem_flatMap,
    and_or_left, or_assoc]

end Ids

/-! ## The rows -/

theorem loadReservationsByIds_ok {P : ReservationRow → Prop} [DecidablePred P]
    {ids : List ReservationId} {found : List ReservationRow} (hids : ids.Nodup ∧ IdsOf s P ids) :
    loadReservationsByIds ids s = (.ok found, s') ↔
      (s.reservations.select P).length ≤ sqliteMaxVariableNumber ∧
        loadReservations (s.reservations.select P) s = (.ok found, s') := by
  have hnodup : ((s.reservations.select P).map (·.reservationId)).Nodup :=
    s.reservations.nodup_keys.sublist (List.filter_sublist.map _)
  have hperm : ids.Perm ((s.reservations.select P).map (·.reservationId)) := by
    refine (List.perm_ext_iff_of_nodup hids.1 hnodup).mpr fun id => (hids.2 id).trans ?_
    simp only [List.mem_map, Table.mem_select, and_assoc]
  have hlength : ids.length = (s.reservations.select P).length := by
    rw [hperm.length_eq, List.length_map]
  have hrows : s.reservations.select (fun r => r.reservationId ∈ ids) = s.reservations.select P :=
    List.filter_congr fun r hr => decide_eq_decide.mpr (hids.2.mem hr)
  simp only [loadReservationsByIds, Tx.bind_ok, Tx.lift_ok, prepareWith_ok, selectFrom_ok, hlength]
  constructor
  · rintro ⟨_, _, ⟨hfits, rfl⟩, _, _, ⟨rfl, rfl⟩, h⟩
    exact ⟨hfits, hrows ▸ h⟩
  · rintro ⟨hfits, h⟩
    exact ⟨(), s, ⟨hfits, rfl⟩, _, s, ⟨hrows, rfl⟩, h⟩

/-- The reservations that the queries look for. -/
def Db.overlapping (s : Db) (scopeClass : ScopeClass) (scopeKey : String) (members : List String) :
    List ReservationRow :=
  s.reservations.select (ReservationRow.OverlapsAt s.leaseClock scopeClass scopeKey members)

/-- The statements have few enough variables. -/
def Db.StatementsFit (s : Db) (scopeClass : ScopeClass) (scopeKey : String)
    (members : List String) : Prop :=
  match scopeClass with
  | .repoGlobal => True
  | .exactPath | .subtree => AncestorsFit scopeKey ∧
      (s.overlapping scopeClass scopeKey members).length ≤ sqliteMaxVariableNumber
  | .generatedSet => (s.overlapping scopeClass scopeKey members).length ≤ sqliteMaxVariableNumber

/-- A query for ids and the loading of the rows. -/
theorem bind_loadReservationsByIds_ok {P : ReservationRow → Prop} [DecidablePred P]
    {x : Txn (List ReservationId)} {found : List ReservationRow}
    (hx : x.Yields s fun ids => ids.Nodup ∧ IdsOf s P ids) :
    (x >>= loadReservationsByIds) s = (.ok found, s') ↔
      (s.reservations.select P).length ≤ sqliteMaxVariableNumber ∧
        loadReservations (s.reservations.select P) s = (.ok found, s') := by
  obtain ⟨ids, hrun, hids⟩ := hx
  rw [← loadReservationsByIds_ok hids, Tx.bind_ok]
  constructor
  · rintro ⟨ids', s₁, hrun', h⟩
    rw [hrun] at hrun'
    cases hrun'
    exact h
  · exact fun h => ⟨ids, s, hrun, h⟩

/-- A statement with too many variables is not prepared. -/
theorem ancestorsFit_of_ok {path : String} {ids : List ReservationId}
    (h : queryContainingSubtreeIdsAt leaseNow path s = (.ok ids, s')) : AncestorsFit path := by
  simp only [queryContainingSubtreeIdsAt, Tx.bind_ok, Tx.lift_ok, prepareWith_ok] at h
  obtain ⟨_, _, ⟨hfit, -⟩, -⟩ := h
  exact hfit

/-- The queries are one selection. -/
theorem findOverlappingReservations_ok {scopeClass : ScopeClass} {scopeKey : String}
    {members : List String} {found : List ReservationRow} :
    findOverlappingReservations scopeClass scopeKey members s = (.ok found, s') ↔
      s.StatementsFit scopeClass scopeKey members ∧
        loadReservations (s.overlapping scopeClass scopeKey members) s = (.ok found, s') := by
  simp only [findOverlappingReservations, Tx.bind_ok (x := Tx.get), Tx.get_ok, and_assoc,
    exists_and_left, exists_eq_left']
  cases scopeClass with
  | repoGlobal =>
    have hrows : s.reservations.select (ReservationRow.Live s.leaseClock) =
        s.overlapping .repoGlobal scopeKey members :=
      List.filter_congr fun r _ => decide_eq_decide.mpr (and_iff_left trivial).symm
    simp only [loadActiveReservations, Tx.bind_ok, selectFrom_ok, Db.StatementsFit, true_and]
    constructor
    · rintro ⟨_, _, ⟨rfl, rfl⟩, h⟩
      exact hrows ▸ h
    · exact fun h => ⟨_, s, ⟨hrows, rfl⟩, h⟩
  | exactPath =>
    by_cases hfit : AncestorsFit scopeKey
    · refine (bind_loadReservationsByIds_ok (queryOverlapIdsForExact_yields members hfit)).trans ?_
      exact ⟨fun h => ⟨⟨hfit, h.1⟩, h.2⟩, fun h => ⟨h.1.2, h.2⟩⟩
    · refine iff_of_false (fun h => hfit ?_) fun h => hfit h.1.1
      simp only [queryOverlapIdsForExact, Tx.bind_ok] at h
      obtain ⟨_, _, ⟨_, _, -, _, _, -, _, _, h, -⟩, -⟩ := h
      exact ancestorsFit_of_ok h
  | subtree =>
    by_cases hfit : AncestorsFit scopeKey
    · refine (bind_loadReservationsByIds_ok (queryOverlapIdsForSubtree_yields members hfit)).trans ?_
      exact ⟨fun h => ⟨⟨hfit, h.1⟩, h.2⟩, fun h => ⟨h.1.2, h.2⟩⟩
    · refine iff_of_false (fun h => hfit ?_) fun h => hfit h.1.1
      simp only [queryOverlapIdsForSubtree, Tx.bind_ok] at h
      obtain ⟨_, _, ⟨_, _, -, _, _, -, _, _, -, _, _, h, -⟩, -⟩ := h
      exact ancestorsFit_of_ok h
  | generatedSet => exact bind_loadReservationsByIds_ok queryOverlapIdsForGenerated_yields

/-! ## Exactness -/

theorem ReservationRow.load_val {r r' : ReservationRow} (h : r.load = .ok r') : r' = r := by
  unfold ReservationRow.load at h
  split at h
  · cases h
  · split at h
    · cases h
    · split at h
      · cases h
      · exact (Except.ok.inj h).symm

theorem ReservationRow.load_iff {r : ReservationRow} :
    r.load = .ok r ↔ 0 ≤ r.leaseDeadline ∧
      checkReservationScope r.scopeClass r.scopeKey r.generatedMembers = none ∧
      r.createdAt ≤ r.updatedAt := by
  unfold ReservationRow.load invalidRow
  cases checkReservationScope r.scopeClass r.scopeKey r.generatedMembers with
  | some reason => split_ifs <;> simp
  | none => split_ifs <;> simp <;> omega

/-- The search returns each live reservation whose paths intersect those of the scope once, and no
    other. It does so if its statements are prepared and the rows load. -/
theorem overlaps_found_iff {scopeClass : ScopeClass} {scopeKey : String} {members : List String}
    (hstored : ∀ r ∈ s.reservations.rows, r.WellScoped)
    (hscope : WellScoped scopeClass scopeKey members) :
    ((∃ found, findOverlappingReservations scopeClass scopeKey members s = (.ok found, s) ∧
        found.Nodup ∧ ∀ r, r ∈ found ↔ r ∈ s.reservations.rows ∧ r.Live s.leaseClock ∧
          (scopePaths scopeClass scopeKey members ∩ r.paths).Nonempty) ↔
      s.StatementsFit scopeClass scopeKey members ∧
        ∀ r ∈ s.overlapping scopeClass scopeKey members, r.load = .ok r) ∧
    ∀ a ∈ s.reservations.rows, ∀ b ∈ s.reservations.rows,
      (overlapsScope a.scopeClass a.scopeKey a.generatedMembers b ↔
        overlapsScope b.scopeClass b.scopeKey b.generatedMembers a) := by
  refine ⟨?_, fun a ha b hb => ?_⟩
  · have hloads : (∃ found s', loadReservations (s.overlapping scopeClass scopeKey members) s =
        (.ok found, s')) ↔ ∀ r ∈ s.overlapping scopeClass scopeKey members, r.load = .ok r := by
      refine (Tx.mapEach_lift_iff ReservationRow.load_val).trans ?_
      simp only [List.mem_insertionSort]
    rw [← hloads]
    constructor
    · rintro ⟨found, h, -⟩
      obtain ⟨hfit, h⟩ := findOverlappingReservations_ok.mp h
      exact ⟨hfit, found, s, h⟩
    · rintro ⟨hfit, found, s', h⟩
      have hfound := h
      obtain ⟨rfl, rfl⟩ := Tx.mapEach_lift_ok ReservationRow.load_val hfound
      refine ⟨_, findOverlappingReservations_ok.mpr ⟨hfit, h⟩, ?_, fun r => ?_⟩
      · exact (List.perm_insertionSort _ _).nodup_iff.mpr
          ((s'.reservations.nodup_keys.of_map _).filter _)
      · rw [List.mem_insertionSort, Db.overlapping, Table.mem_select, ReservationRow.OverlapsAt]
        exact and_congr_right fun hr => and_congr_right fun _ =>
          overlapsScope_iff hscope (hstored r hr)
  · rw [overlapsScope_iff (hstored a ha) (hstored b hb),
      overlapsScope_iff (hstored b hb) (hstored a ha), Set.inter_comm]
    rfl

/-- A reservation of the path `a` whose lease runs. -/
def reservationOfA (id : ReservationId) (scopeClass : ScopeClass) : ReservationRow where
  reservationId := id
  ownerSubtaskId := ⟨"t", by decide +kernel⟩
  scopeClass := scopeClass
  scopeKey := "a"
  generatedMembers := []
  leaseDeadline := 1
  state := .active
  createdAt := 0
  updatedAt := 0

theorem isPath_a : IsPath "a" :=
  ⟨⟨[['a']], by simp, by simp [IsComponent]⟩, by simp [joinParts, List.intercalate]⟩

/-- The subtree `a` is reserved. -/
def reservedSubtree : Db :=
  { Db.init with
    reservations := ⟨[reservationOfA ⟨"r", by decide +kernel⟩ .subtree], by decide +kernel⟩ }

theorem overlaps_found_reservedSubtree :
    (∀ r ∈ reservedSubtree.reservations.rows, r.WellScoped) ∧
      WellScoped .exactPath "a" [] ∧
      ∃ found, findOverlappingReservations .exactPath "a" [] reservedSubtree =
          (.ok found, reservedSubtree) ∧ found.Nodup ∧
        ∀ r, r ∈ found ↔ r ∈ reservedSubtree.reservations.rows ∧
          r.Live reservedSubtree.leaseClock ∧
          (scopePaths .exactPath "a" [] ∩ r.paths).Nonempty := by
  have hscope : WellScoped .exactPath "a" [] := isPath_a
  have hstored : ∀ r ∈ reservedSubtree.reservations.rows, r.WellScoped := by
    intro r hr
    rw [List.mem_singleton.mp hr]
    exact isPath_a
  refine ⟨hstored, hscope, (overlaps_found_iff hstored hscope).1.mpr ⟨⟨?_, ?_⟩, fun r hr => ?_⟩⟩
  · unfold AncestorsFit
    decide +kernel
  · decide +kernel
  · rw [List.mem_singleton.mp (Table.mem_select.mp hr).1, ReservationRow.load_iff]
    decide +kernel

/-! ### Too many reservations -/

/-- The characters that name the reservations of the crowd. -/
def crowdChar (i : Fin 32767) : Char := Char.ofNat (0x4e00 + i)

theorem crowdChar_toNat (i : Fin 32767) : (crowdChar i).toNat = 0x4e00 + i := by
  have hvalid : (0x4e00 + i.val).isValidChar := by
    left
    omega
  unfold crowdChar Char.ofNat
  rw [dif_pos hvalid]
  rfl

theorem crowd_valid (i : Fin 32767) :
    ScalarField.reservationId.validator (String.ofList [crowdChar i]) = none := by
  have hnat := crowdChar_toNat i
  have hsize : (String.ofList [crowdChar i]).utf8ByteSize ≤ 256 := by
    have := Char.utf8Size_le_four (crowdChar i)
    simp
    omega
  have hwhite : isWhitespace (crowdChar i) = false := by
    simp only [isWhitespace, hnat, Bool.or_eq_false_iff, Bool.and_eq_false_iff, decide_eq_false_iff_not,
      beq_eq_false_iff_ne]
    omega
  have hcontrol : isControl (crowdChar i) = false := by
    simp only [isControl, hnat, Bool.or_eq_false_iff, Bool.and_eq_false_iff, decide_eq_false_iff_not]
    omega
  show validateTokenish _ = none
  unfold validateTokenish blank
  rw [if_neg (by simp [hwhite]), if_neg (by omega), if_neg (by simp [hwhite, hcontrol])]

/-- Reservation `i` of the path `a`. -/
def crowdRow (i : Fin 32767) : ReservationRow :=
  reservationOfA ⟨String.ofList [crowdChar i], crowd_valid i⟩ .exactPath

theorem crowdRow_injective : Function.Injective fun i => (crowdRow i).reservationId := by
  intro i j h
  have hval : String.ofList [crowdChar i] = String.ofList [crowdChar j] := congrArg Text.val h
  have hchar : crowdChar i = crowdChar j := by
    simpa using String.ofList_injective hval
  have hnat := congrArg Char.toNat hchar
  rw [crowdChar_toNat, crowdChar_toNat] at hnat
  exact Fin.ext (by omega)

section Crowd

variable {l : List (Fin 32767)} (hl : l.Nodup)

include hl in
theorem crowd_admitted : reservationSchema.admits (l.map crowdRow) = true := by
  simp only [Schema.admits, Bool.and_eq_true, Table.separate_iff, List.all_eq_true]
  refine ⟨fun _ _ => rfl, List.pairwise_map.mpr (hl.imp fun hne => ?_)⟩
  exact ⟨fun h => hne (crowdRow_injective h), rfl⟩

/-- A store with the reservations of the path `a`. -/
def crowd : Db := { Db.init with reservations := ⟨l.map crowdRow, crowd_admitted hl⟩ }

theorem crowdRow_live (i : Fin 32767) : (crowdRow i).Live (crowd hl).leaseClock :=
  ⟨rfl, show (0 : ℤ) < 1 by decide⟩

theorem crowdRow_loads (i : Fin 32767) : (crowdRow i).load = .ok (crowdRow i) := by
  have hscope : checkReservationScope .exactPath "a" [] = none := by decide +kernel
  exact ReservationRow.load_iff.mpr ⟨show (0 : ℤ) ≤ 1 by decide, hscope, le_refl (0 : ℤ)⟩

theorem crowd_length : (crowd hl).reservations.rows.length = l.length := List.length_map _

theorem crowd_stored : ∀ r ∈ (crowd hl).reservations.rows, r.WellScoped ∧ r.load = .ok r ∧
    r.Live (crowd hl).leaseClock ∧ (scopePaths .exactPath "a" [] ∩ r.paths).Nonempty := by
  intro r hr
  obtain ⟨i, -, rfl⟩ := List.mem_map.mp hr
  obtain ⟨p, hp⟩ := isPath_a
  exact ⟨isPath_a, crowdRow_loads i, crowdRow_live hl i, p, hp.symm, hp.symm⟩

theorem crowd_overlapping : ((crowd hl).overlapping .exactPath "a" []).length = l.length := by
  have hall : (crowd hl).overlapping .exactPath "a" [] = l.map crowdRow := by
    refine List.filter_eq_self.mpr fun r hr => ?_
    obtain ⟨i, -, rfl⟩ := List.mem_map.mp hr
    exact decide_eq_true ⟨crowdRow_live hl i, .inr (.inl ⟨rfl, rfl⟩)⟩
  rw [hall, List.length_map]

end Crowd

/-- With 32767 reservations of `a` that are all live and load, the search for `a` fails. -/
theorem crowd_not_found :
    (crowd (List.nodup_finRange 32767)).reservations.rows.length = 32767 ∧
    (∀ r ∈ (crowd (List.nodup_finRange 32767)).reservations.rows, r.WellScoped ∧ r.load = .ok r ∧
      r.Live (crowd (List.nodup_finRange 32767)).leaseClock ∧
      (scopePaths .exactPath "a" [] ∩ r.paths).Nonempty) ∧
    ¬∃ found s', findOverlappingReservations .exactPath "a" []
      (crowd (List.nodup_finRange 32767)) = (.ok found, s') := by
  have hlength : (List.finRange 32767).length = 32767 := List.length_finRange
  refine ⟨(crowd_length _).trans hlength, crowd_stored _, ?_⟩
  rintro ⟨found, s', h⟩
  have hcount := (findOverlappingReservations_ok.mp h).1.2
  rw [crowd_overlapping, hlength] at hcount
  exact absurd hcount (by decide)

end Covey

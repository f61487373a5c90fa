import Covey.Ops.Repoops
import Covey.Runs.Cleanup
import Covey.Runs.Reservations

/-!
# The locks of an authority snapshot

`repoops_authority_snapshot` (repoops.rs:29-106) finds the reservations of the requested
paths by queries for keys and ancestors, normalises their keys a second time, and looks the
paths up in an index. Its locks are those of plain coverage.

* `mem_loadRepoopsRelevantReservations`: the queries are one selection.
* `mem_matching`, `covers_iff`: the index finds the reservations that reserve a path.
* `staleCleanup_iff`: a reservation is ignored if its owner is a cleanup without a held claim.
* `snapshot_locks`: the locks of a snapshot, after every run.
-/

namespace Covey

open Relational

/-! ## The second normal form -/

theorem dropWhile_of_head {α : Type} {p : α → Bool} {l : List α} (h : l.head?.any p = false) :
    l.dropWhile p = l := by
  cases l with
  | nil => rfl
  | cons a l => exact List.dropWhile_cons_of_neg (by simpa using h)

theorem trimChars_of_not_padded {v : String} (h : padded v = false) :
    trimChars v.toList = v.toList := by
  obtain ⟨hhead, hlast⟩ := Bool.or_eq_false_iff.mp h
  have hreverse : v.toList.reverse.dropWhile isWhitespace = v.toList.reverse :=
    dropWhile_of_head (by rwa [List.head?_reverse])
  rw [trimChars, dropWhile_of_head hhead, hreverse, List.reverse_reverse]

/-- A key that is a path stays what it is. -/
theorem normalizeRepoRelativePath_joinParts {p : RepoPath}
    (hplain : '\\' ∉ (joinParts p.parts).toList) (hpadded : padded (joinParts p.parts) = false) :
    normalizeRepoRelativePath (joinParts p.parts) = some (joinParts p.parts) := by
  have hparts : ∀ part ∈ splitChars '/' (joinParts p.parts).toList, IsComponent part := by
    rw [p.split]
    exact p.components
  have hne : (joinParts p.parts).toList ≠ [] := by
    intro hnil
    rw [hnil] at hparts
    exact (hparts [] (by simp [splitChars])).1 rfl
  have hnormal : repoRelativePathIsNormalized (joinParts p.parts).toList := by
    refine ⟨hplain, fun hhead => ?_, ?_, fun part hpart => ?_⟩
    · obtain ⟨rest, hrest⟩ := List.head?_eq_some_iff.mp hhead
      rw [hrest] at hparts
      exact (hparts [] (by simp [splitChars])).1 rfl
    · rintro ⟨rest, hrest⟩
      have hsplit : splitChars '/' (['.'] ++ '/' :: rest) = ['.'] :: splitChars '/' rest :=
        splitChars_append
      rw [← hrest, show ['.', '/'] ++ rest = ['.'] ++ '/' :: rest from rfl, hsplit] at hparts
      exact (hparts ['.'] List.mem_cons_self).2.2.1 rfl
    · obtain ⟨hnil, -, hdot, hdots⟩ := hparts part hpart
      exact ⟨hnil, hdot, hdots⟩
  simp only [normalizeRepoRelativePath, trimChars_of_not_padded hpadded, if_neg hne,
    if_pos hnormal, String.ofList_toList]

/-! ## Coverage -/

/-- The prepared scope holds the path. -/
def PreparedScope.Covers (path : String) : PreparedScope → Prop
  | .repoGlobal => True
  | .exactPath key => key = some path
  | .subtree base => ∃ root, base = some root ∧ subtreeCovers root path
  | .generatedSet members => path ∈ members

section Index

variable {rows : List ReservationRow} {path : String} {r : ReservationRow}

theorem mem_exactPaths : (path, r) ∈ (PreparedReservationIndex.fromPrepared rows).exactPaths ↔
    r ∈ rows ∧ (PreparedScope.fromReservation r = .exactPath (some path) ∨
      ∃ members, PreparedScope.fromReservation r = .generatedSet members ∧ path ∈ members) := by
  rw [PreparedReservationIndex.fromPrepared, List.mem_flatMap]
  constructor
  · rintro ⟨r', hr', hmem⟩
    split at hmem
    · rename_i key hscope
      cases List.mem_singleton.mp hmem
      exact ⟨hr', .inl hscope⟩
    · rename_i members hscope
      obtain ⟨member, hmember, heq⟩ := List.mem_map.mp hmem
      cases heq
      exact ⟨hr', .inr ⟨members, hscope, hmember⟩⟩
    · cases hmem
  · rintro ⟨hr, hscope | ⟨members, hscope, hmember⟩⟩
    · exact ⟨r, hr, by rw [hscope]; exact List.mem_cons_self⟩
    · exact ⟨r, hr, by rw [hscope]; exact List.mem_map_of_mem hmember⟩

theorem mem_subtrees : (path, r) ∈ (PreparedReservationIndex.fromPrepared rows).subtrees ↔
    r ∈ rows ∧ PreparedScope.fromReservation r = .subtree (some path) := by
  rw [PreparedReservationIndex.fromPrepared, List.mem_flatMap]
  constructor
  · rintro ⟨r', hr', hmem⟩
    split at hmem
    · rename_i base hscope
      cases List.mem_singleton.mp hmem
      exact ⟨hr', hscope⟩
    · cases hmem
  · rintro ⟨hr, hscope⟩
    exact ⟨r, hr, by rw [hscope]; exact List.mem_cons_self⟩

/-- The index finds the reservations whose prepared scopes hold the path. -/
theorem mem_matching : r ∈ (PreparedReservationIndex.fromPrepared rows).matching path ↔
    r ∈ rows ∧ (PreparedScope.fromReservation r).Covers path := by
  have hglobal : r ∈ (PreparedReservationIndex.fromPrepared rows).repoGlobal ↔
      r ∈ rows ∧ PreparedScope.fromReservation r = .repoGlobal := by
    rw [PreparedReservationIndex.fromPrepared, List.mem_filter]
    cases PreparedScope.fromReservation r <;> simp
  simp only [PreparedReservationIndex.matching, List.mem_append, hglobal, List.mem_map,
    List.mem_filter, Prod.exists, exists_eq_right, decide_eq_true_eq, mem_exactPaths, mem_subtrees]
  cases PreparedScope.fromReservation r <;> simp [PreparedScope.Covers, eq_comm, and_assoc]

end Index

/-- The root of a subtree covers what is under it. -/
theorem subtreeCovers_iff {p q : RepoPath} :
    subtreeCovers (joinParts q.parts) (joinParts p.parts) ↔ q.parts <+: p.parts := by
  rw [subtreeCovers, String.toList_append]
  show _ ∨ (joinParts q.parts).toList ++ ['/'] <+: _ ↔ _
  rw [← isUnder_iff_prefix]
  exact eq_or_isUnder

theorem not_padded_of_checkScopeKey {scopeClass : ScopeClass} {key : String}
    (h : checkScopeKey scopeClass key = none) : padded key = false := by
  unfold checkScopeKey at h
  split_ifs at h with hblank hpadded
  exact Bool.eq_false_iff.mpr hpadded

theorem not_padded_of_checkMembersFrom {seen members : List String}
    (h : checkMembersFrom seen members = none) : ∀ member ∈ members, padded member = false := by
  induction members generalizing seen with
  | nil => simp
  | cons member members ih =>
    unfold checkMembersFrom at h
    split_ifs at h with hblank hpadded hseen
    rw [Bool.or_eq_true, not_or] at hpadded
    exact List.forall_mem_cons.mpr ⟨Bool.eq_false_iff.mpr hpadded.1, ih h⟩

/-- A loaded reservation covers the paths that it reserves. -/
theorem covers_iff {r : ReservationRow} {p : RepoPath} (hscope : r.WellScoped) (hplain : r.Plain)
    (hload : r.load = .ok r) :
    (PreparedScope.fromReservation r).Covers (joinParts p.parts) ↔ p ∈ r.paths := by
  obtain ⟨-, hcheck, -⟩ := ReservationRow.load_iff.mp hload
  obtain ⟨_, _, scopeClass, key, members, _, _, _, _⟩ := r
  simp only [ReservationRow.WellScoped, ReservationRow.Plain] at hscope hplain
  cases scopeClass with
  | repoGlobal => exact iff_of_true trivial trivial
  | exactPath =>
    obtain ⟨q, rfl⟩ := hscope
    have hkey := normalizeRepoRelativePath_joinParts hplain
      (not_padded_of_checkScopeKey (Option.or_eq_none_iff.mp hcheck).2)
    simp only [PreparedScope.fromReservation, hkey, PreparedScope.Covers, ReservationRow.paths,
      scopePaths, Option.some.injEq, Set.mem_setOf_eq, eq_comm]
  | subtree =>
    obtain ⟨q, rfl⟩ := hscope
    have hkey := normalizeRepoRelativePath_joinParts hplain
      (not_padded_of_checkScopeKey (Option.or_eq_none_iff.mp hcheck).2)
    simp only [PreparedScope.fromReservation, hkey, PreparedScope.Covers, ReservationRow.paths,
      scopePaths, Option.some.injEq, Set.mem_setOf_eq, exists_eq_left', subtreeCovers_iff,
      mem_subtree]
  | generatedSet =>
    obtain ⟨hne, hpaths⟩ := hscope
    have hmembers := (Option.or_eq_none_iff.mp hcheck).2
    rw [checkGeneratedMembers, if_neg (by simpa using hne)] at hmembers
    have hkeep : members.filterMap normalizeRepoRelativePath = members := by
      refine (List.filterMap_congr fun member hmem => ?_).trans List.filterMap_some
      obtain ⟨q, rfl⟩ := hpaths member hmem
      exact normalizeRepoRelativePath_joinParts (hplain _ hmem)
        (not_padded_of_checkMembersFrom hmembers _ hmem)
    simp only [PreparedScope.fromReservation, hkeep, PreparedScope.Covers, mem_sortDedupStrings,
      ReservationRow.paths, scopePaths, Set.mem_setOf_eq]

/-! ## The queries -/

/-- What the queries look for: live reservations of the owner, or with a key that covers one of
    the paths. -/
def ReservationRow.Relevant (now : ℤ) (owner : SubtaskId) (paths : List String)
    (r : ReservationRow) : Prop :=
  r.Live now ∧ (r.ownerSubtaskId = owner ∨ paths ≠ [] ∧
    (r.scopeClass = .repoGlobal ∧ r.scopeKey = "repo" ∨
      r.scopeClass = .exactPath ∧ r.scopeKey ∈ paths ∨
      r.scopeClass = .subtree ∧ r.scopeKey ∈ repoopsPathAncestorScopeKeys paths ∨
      ∃ m ∈ r.generatedMembers, m ∈ paths))

instance {now : ℤ} {owner : SubtaskId} {paths : List String} :
    DecidablePred (ReservationRow.Relevant now owner paths) :=
  fun _ => inferInstanceAs (Decidable (_ ∧ (_ ∨ _ ∧ (_ ∧ _ ∨ _ ∧ _ ∨ _ ∧ _ ∨ _))))

section Queries

variable {s s' : Db} {now : ℤ} {owner : SubtaskId} {paths : List String}

theorem collectActiveScopeKeyReservationIds_yields {scopeClass : ScopeClass} {keys : List String} :
    (collectActiveScopeKeyReservationIds now scopeClass keys).Yields s (IdsOf s fun r =>
      r.Live now ∧ r.scopeClass = scopeClass ∧ r.scopeKey ∈ keys) := by
  refine .bind (.mapEach (fun chunk => queryReservationIds_yields) _) fun found hfound => .pure ?_
  refine (IdsOf.flatten hfound).congr fun r => ?_
  rw [← exists_mem_chunks (show 0 < 256 by decide)]
  grind

theorem collectActiveGeneratedMemberReservationIds_yields :
    (collectActiveGeneratedMemberReservationIds now paths).Yields s (IdsOf s fun r =>
      r.Live now ∧ ∃ m ∈ r.generatedMembers, m ∈ paths) := by
  refine .bind (.mapEach (fun chunk => queryMemberIds_yields) _) fun found hfound => .pure ?_
  refine (IdsOf.flatten hfound).congr fun r => ?_
  have hchunk : ∀ m, (∃ chunk ∈ chunks 256 paths, m ∈ chunk) ↔ m ∈ paths :=
    fun m => exists_mem_chunks (by decide)
  simp only [← hchunk]
  grind

/-- The query for the reservations with a key that covers one of the paths. -/
theorem coveringIds_yields :
    (if paths = [] then pure [] else do
      let global ← collectActiveScopeKeyReservationIds now .repoGlobal ["repo"]
      let exact ← collectActiveScopeKeyReservationIds now .exactPath paths
      let subtrees ← collectActiveScopeKeyReservationIds now .subtree
        (repoopsPathAncestorScopeKeys paths)
      let generated ← collectActiveGeneratedMemberReservationIds now paths
      return global ++ exact ++ subtrees ++ generated : Txn (List ReservationId)).Yields s
      (IdsOf s fun r => r.Live now ∧ paths ≠ [] ∧
        (r.scopeClass = .repoGlobal ∧ r.scopeKey = "repo" ∨
          r.scopeClass = .exactPath ∧ r.scopeKey ∈ paths ∨
          r.scopeClass = .subtree ∧ r.scopeKey ∈ repoopsPathAncestorScopeKeys paths ∨
          ∃ m ∈ r.generatedMembers, m ∈ paths)) := by
  split_ifs with hpaths
  · exact .pure fun id => by simp [hpaths]
  · refine .bind collectActiveScopeKeyReservationIds_yields fun global hglobal =>
      .bind collectActiveScopeKeyReservationIds_yields fun exact hexact =>
      .bind collectActiveScopeKeyReservationIds_yields fun subtrees hsubtrees =>
      .bind collectActiveGeneratedMemberReservationIds_yields fun generated hgenerated =>
      .pure ?_
    refine (((hglobal.append hexact).append hsubtrees).append hgenerated).congr fun r => ?_
    simp only [List.mem_singleton, and_or_left, or_assoc, ne_eq, hpaths, not_false_eq_true,
      true_and]

/-- The queries are one selection, for any number of paths, of members and of reservations; the
    rows are read by the typed loader. -/
theorem mem_loadRepoopsRelevantReservations {found : List ReservationRow}
    (h : loadRepoopsRelevantReservations now owner paths s = (.ok found, s')) :
    s' = s ∧ (∀ r, r ∈ found ↔ r ∈ s.reservations.rows ∧ r.Relevant now owner paths) ∧
      ∀ r ∈ found, r.load = .ok r := by
  obtain ⟨owned, howned, h⟩ := queryReservationIds_yields.of_bind h
  obtain ⟨covering, hcovering, h⟩ := coveringIds_yields.of_bind h
  have hids : IdsOf s (ReservationRow.Relevant now owner paths)
      (sortDedupIds (owned ++ covering)) :=
    (howned.append hcovering).sortDedup.congr fun r => and_or_left.symm
  obtain ⟨-, h⟩ := (loadReservationsByIds_ok ⟨sortDedupIds_nodup, hids⟩).mp h
  have hloads := (Tx.mapEach_lift_iff ReservationRow.load_val).mp ⟨_, _, h⟩
  obtain ⟨rfl, rfl⟩ := Tx.mapEach_lift_ok ReservationRow.load_val h
  exact ⟨rfl, fun r => by rw [List.mem_insertionSort, Table.mem_select], hloads⟩

/-- No reservation that covers a requested path is left out. -/
theorem relevant_of_covers {r : ReservationRow} {p : RepoPath} (hscope : r.WellScoped)
    (hplain : r.Plain) (hlive : r.Live now) (hpath : joinParts p.parts ∈ paths)
    (hcovers : p ∈ r.paths) : r.Relevant now owner paths := by
  refine ⟨hlive, .inr ⟨List.ne_nil_of_mem hpath, ?_⟩⟩
  obtain ⟨_, _, scopeClass, key, members, _, _, _, _⟩ := r
  simp only [ReservationRow.WellScoped, ReservationRow.Plain] at hscope hplain
  cases scopeClass with
  | repoGlobal => exact .inl ⟨rfl, hplain⟩
  | exactPath => exact .inr (.inl ⟨rfl, hcovers ▸ hpath⟩)
  | subtree =>
    obtain ⟨root, rfl, hroot⟩ := hcovers
    refine .inr (.inr (.inl ⟨rfl, ?_⟩))
    have hmem := mem_pathAncestorScopeKeys.mpr hroot
    unfold repoopsPathAncestorScopeKeys
    split
    · rw [List.mem_singleton.mp hpath] at hmem
      exact hmem
    · exact mem_sortDedupStrings.mpr (List.mem_flatMap.mpr ⟨_, hpath, hmem⟩)
  | generatedSet => exact .inr (.inr (.inr ⟨_, hcovers, hpath⟩))

end Queries

/-! ## Cleanups without a claim -/

/-- The subtask is a cleanup, and no claim on it is held. -/
def Db.IdleCleanup (s : Db) (id : SubtaskId) : Prop :=
  (∃ r, s.subtasks.get? id = some r ∧ r.kind = .cleanup) ∧
    ∀ row ∈ s.claims.rows, row.subtaskId = id → row.state ≠ .held

section Cleanups

variable {env : Env} {calls : List Call}

/-- A claim that is held on a cleanup subtask is its current claim, and a current claim is held. -/
theorem reach_tended (hrun : Run.Along (next env) Call.Fresh Db.init calls) :
    CurrentHeld (reach env calls).board.toLeases ∧ Tended (reach env calls).board.toLeases := by
  have h := Run.invariant
    (I := fun s : Db => Anchored s.board.toLeases ∧ ClaimsKnown s.board.toLeases ∧
      CurrentHeld s.board.toLeases ∧ Tended s.board.toLeases)
    (fun s c hc h => hc.invariant
      (I := fun b => Anchored b.toLeases ∧ ClaimsKnown b.toLeases ∧ CurrentHeld b.toLeases ∧
        Tended b.toLeases) h.1
      (fun m ⟨ha, hknown, hcur, htended⟩ => ⟨ha.move m, hknown.move m ha, hcur.move m ha,
        htended.move m ha hcur hknown⟩) h)
    hrun
    ⟨init_anchored, fun _ _ h => (nomatch h), fun _ _ _ h => (nomatch h),
      { row := fun h => nomatch h
        current := fun h => nomatch h }⟩
  exact h.2.2

/-- A reservation is stale if its owner is a cleanup without a held claim. -/
theorem staleCleanup_iff {s : Db} {id : SubtaskId} (hcur : CurrentHeld s.board.toLeases)
    (htended : Tended s.board.toLeases) :
    reservationOwnerIsStaleCleanup s id ↔ s.IdleCleanup id := by
  simp only [reservationOwnerIsStaleCleanup, Db.IdleCleanup, Option.any_eq_true, decide_eq_true_eq]
  constructor
  · rintro ⟨r, hr, hkind, hstale⟩
    refine ⟨⟨r, hr, hkind⟩, fun row hrow hsub hheld => ?_⟩
    have hget := Table.get?_key hrow
    have hcurrent := htended.current hr hkind ⟨row, hget, hsub, hheld⟩
    rw [hcurrent, Option.all_some, hget, Option.any_some, decide_eq_true_eq] at hstale
    exact hstale hheld
  · rintro ⟨⟨r, hr, hkind⟩, hidle⟩
    refine ⟨r, hr, hkind, ?_⟩
    cases hclaim : r.currentClaimId with
    | none => rfl
    | some k =>
      -- The current claim of the subtask would be a held one.
      obtain ⟨row, hrow, hsub, hheld⟩ := hcur hr hclaim
      exact absurd hheld (hidle row (Table.mem_of_get? hrow) hsub)

end Cleanups

/-! ## Locks -/

section Locks

variable {claim : ClaimRow} {session : SessionRow} {path : String} {r : ReservationRow}
  {lock : RepoopsAuthorityLockFact}

theorem repoopsAuthorityLock_ok {owner : String} {ref : RepoopsClaimRef}
    {status : RepoopsAuthorityLockStatus}
    (h : observed (repoopsAuthorityLock path owner ref status) = .ok lock) :
    lock = ⟨path, owner, ref, status⟩ := by
  unfold repoopsAuthorityLock at h
  cases hpath : validateRepoopsLockPath path with
  | error e => simp [hpath, bind, Except.bind, observed] at h
  | ok _ =>
    cases howner : validateRepoopsTokenRef "repoops lock owner" owner with
    | error e => simp [hpath, howner, bind, Except.bind, observed] at h
    | ok _ =>
      simp only [hpath, howner, bind, Except.bind, observed, pure, Except.pure,
        Except.ok.injEq] at h
      exact h.symm

/-- The lock that a reservation gives: it is owned if the reservation is of the caller's subtask,
    and names the other subtask if not. -/
theorem lockFact_ok (h : lockFact claim session path r = .ok lock) :
    lock.path = path ∧
      (r.ownerSubtaskId = claim.subtaskId ∧ lock.status = .owned ∨
        r.ownerSubtaskId ≠ claim.subtaskId ∧ lock.status = .foreignOwner ∧
          lock.owner = "subtask:" ++ r.ownerSubtaskId.val) := by
  unfold lockFact at h
  split_ifs at h with howner
  · cases href : repoopsClaimRef claim.claimId.val with
    | error e => simp [href, bind, Except.bind] at h
    | ok ref =>
      rw [href] at h
      obtain rfl := repoopsAuthorityLock_ok h
      exact ⟨rfl, .inl ⟨howner, rfl⟩⟩
  · cases href : repoopsClaimRef ("unknown:" ++ r.ownerSubtaskId.val) with
    | error e => simp [href, bind, Except.bind] at h
    | ok ref =>
      rw [href] at h
      obtain rfl := repoopsAuthorityLock_ok h
      exact ⟨rfl, .inr ⟨howner, rfl, rfl⟩⟩

/-- Every path and every reservation that the index finds for it give a lock, and nothing else
    does. -/
theorem lockFactsForPreparedPaths_ok {paths : List String} {rows : List ReservationRow}
    {locks : List RepoopsAuthorityLockFact}
    (h : lockFactsForPreparedPaths paths rows claim session = .ok locks) :
    (∀ lock, lock ∈ locks ↔ ∃ path ∈ paths, ∃ r ∈ rows,
      (PreparedScope.fromReservation r).Covers path ∧
        lockFact claim session path r = .ok lock) ∧
    ∀ path ∈ paths, ∀ r ∈ rows, (PreparedScope.fromReservation r).Covers path →
      ∃ lock, lockFact claim session path r = .ok lock := by
  simp only [lockFactsForPreparedPaths] at h
  generalize hpairs : (paths.flatMap fun path =>
    ((PreparedReservationIndex.fromPrepared rows).matching path).map fun r => (path, r)) = pairs at h
  have hmem : ∀ path r, (path, r) ∈ pairs ↔
      path ∈ paths ∧ r ∈ rows ∧ (PreparedScope.fromReservation r).Covers path := by
    intro path r
    simp [← hpairs, mem_matching]
  cases hlocks : pairs.mapM fun pair => lockFact claim session pair.1 pair.2 with
  | error e => simp [hlocks, bind, Except.bind] at h
  | ok found =>
    simp only [hlocks, bind, Except.bind, pure, Except.pure, Except.ok.injEq] at h
    subst h
    refine ⟨fun lock => ?_, fun path hpath r hr hcovers => ?_⟩
    · simp only [List.mem_dedup, List.mem_insertionSort, mem_of_mapM hlocks, Prod.exists, hmem,
        and_assoc, exists_and_left]
    · exact ok_of_mapM hlocks (path, r) ((hmem path r).mpr ⟨hpath, hr, hcovers⟩)

end Locks

/-! ## The snapshot -/

section Snapshot

variable {env : Env} {s s' : Db} {now : ℤ} {req : RepoopsAuthoritySnapshotReq}
  {snapshot : RepoopsAuthoritySnapshot}

/-- The locks of a snapshot are those of the live reservations that the queries find. -/
theorem repoopsAuthoritySnapshot_locks
    (h : repoopsAuthoritySnapshot env req now s = (.ok snapshot, s')) :
    ∃ claim session found, s.claims.get? req.claimId = some claim ∧
      loadRepoopsRelevantReservations now claim.subtaskId (normalizeRequestedPaths req.paths) s =
        (.ok found, s) ∧
      lockFactsForPreparedPaths (normalizeRequestedPaths req.paths)
        (retainLiveReservations s found claim.subtaskId) claim session = .ok snapshot.locks := by
  simp only [repoopsAuthoritySnapshot, Tx.bind_ok, Tx.lift_ok, Tx.get_ok, Tx.pure_ok,
    requireCurrentClaim_ok, loadSubtask_ok, loadSession_ok, and_assoc, exists_and_left,
    exists_eq_left', Tx.exists_unit] at h
  obtain ⟨-, claim, hclaim, -, -, -, -, -, _, -, -, session, -, -, found, s₁, hfound, -, locks,
    hlocks, _, -, _, -, _, -, -, -, rfl, -⟩ := h
  obtain rfl := (mem_loadRepoopsRelevantReservations hfound).1
  exact ⟨claim, session, found, hclaim, hfound, hlocks⟩

theorem mem_normalizeRequestedPaths {paths : List RepoopsPath} {path : String} :
    path ∈ normalizeRequestedPaths paths ↔ ∃ p ∈ paths, p.val = path := by
  rw [normalizeRequestedPaths, mem_sortDedupStrings, List.mem_map]

/-- The reservation gives a lock on the path to a caller with a claim on the subtask. -/
structure ReservationRow.Locks (s : Db) (now : ℤ) (id : SubtaskId) (p : RepoPath)
    (r : ReservationRow) : Prop where
  stored : r ∈ s.reservations.rows
  live : r.Live now
  covers : p ∈ r.paths
  kept : r.ownerSubtaskId = id ∨ ¬s.IdleCleanup r.ownerSubtaskId

/-- The locks of a snapshot, by reservations: each that locks a requested path gives one, and
    there is no other. -/
theorem repoopsAuthoritySnapshot_iff (hstored : ∀ r ∈ s.reservations.rows, r.WellScoped ∧ r.Plain)
    (hcur : CurrentHeld s.board.toLeases) (htended : Tended s.board.toLeases)
    (h : repoopsAuthoritySnapshot env req now s = (.ok snapshot, s')) :
    ∃ claim session, s.claims.get? req.claimId = some claim ∧
      (∀ path ∈ req.paths, ∀ p : RepoPath, path.val = joinParts p.parts →
        ∀ r, r.Locks s now claim.subtaskId p →
          ∃ lock ∈ snapshot.locks, lockFact claim session path.val r = .ok lock) ∧
      ∀ lock ∈ snapshot.locks, ∃ path ∈ req.paths, ∃ p : RepoPath, path.val = joinParts p.parts ∧
        ∃ r, r.Locks s now claim.subtaskId p ∧ lockFact claim session path.val r = .ok lock := by
  obtain ⟨claim, session, found, hclaim, hfound, hlocks⟩ := repoopsAuthoritySnapshot_locks h
  obtain ⟨-, hmem, hloads⟩ := mem_loadRepoopsRelevantReservations hfound
  have hretained : ∀ r, r ∈ retainLiveReservations s found claim.subtaskId ↔
      r ∈ found ∧ (r.ownerSubtaskId = claim.subtaskId ∨ ¬s.IdleCleanup r.ownerSubtaskId) := by
    intro r
    rw [retainLiveReservations, List.mem_filter, decide_eq_true_eq, staleCleanup_iff hcur htended]
  have hcovered : ∀ r ∈ found, ∀ p : RepoPath,
      (PreparedScope.fromReservation r).Covers (joinParts p.parts) ↔ p ∈ r.paths := by
    intro r hr p
    obtain ⟨hscope, hplain⟩ := hstored r ((hmem r).mp hr).1
    exact covers_iff hscope hplain (hloads r hr)
  obtain ⟨honly, hall⟩ := lockFactsForPreparedPaths_ok hlocks
  refine ⟨claim, session, hclaim, fun path hpath p hp r hr => ?_, fun lock hlock => ?_⟩
  · have hrequested : path.val ∈ normalizeRequestedPaths req.paths :=
      mem_normalizeRequestedPaths.mpr ⟨path, hpath, rfl⟩
    obtain ⟨hscope, hplain⟩ := hstored r hr.stored
    have hfound : r ∈ found := (hmem r).mpr
      ⟨hr.stored, relevant_of_covers hscope hplain hr.live (hp ▸ hrequested) hr.covers⟩
    have hkept := (hretained r).mpr ⟨hfound, hr.kept⟩
    have hcovers : (PreparedScope.fromReservation r).Covers path.val :=
      hp ▸ (hcovered r hfound p).mpr hr.covers
    obtain ⟨lock, hfact⟩ := hall path.val hrequested r hkept hcovers
    exact ⟨lock, (honly lock).mpr ⟨path.val, hrequested, r, hkept, hcovers, hfact⟩, hfact⟩
  · obtain ⟨_, hrequested, r, hr, hcovers, hfact⟩ := (honly lock).mp hlock
    obtain ⟨path, hpath, rfl⟩ := mem_normalizeRequestedPaths.mp hrequested
    obtain ⟨p, hp⟩ := path.isPath
    obtain ⟨hr, hkept⟩ := (hretained r).mp hr
    obtain ⟨hrow, hlive, -⟩ := (hmem r).mp hr
    rw [hp] at hcovers
    exact ⟨path, hpath, p, hp, r, ⟨hrow, hlive, (hcovered r hr p).mp hcovers, hkept⟩, hfact⟩

theorem subtaskRef_inj {id id' : SubtaskId} (h : "subtask:" ++ id.val = "subtask:" ++ id'.val) :
    id = id' := by
  have hlist := congrArg String.toList h
  simp only [String.toList_append, List.append_cancel_left_eq] at hlist
  exact Text.ext (String.toList_inj.mp hlist)

/-- A live reservation of the subtask reserves the path. -/
def Db.ReservedFor (s : Db) (now : ℤ) (id : SubtaskId) (p : RepoPath) : Prop :=
  ∃ r ∈ s.reservations.rows, r.ownerSubtaskId = id ∧ r.Live now ∧ p ∈ r.paths

/-- After every run, the queries that precede a snapshot leave out no live reservation of the
    caller's subtask and none of a requested path; and if a snapshot is given, it has a lock of
    the caller on a path exactly if a live reservation of the subtask that is claimed covers the
    path, and one of another subtask exactly if a live reservation of that subtask covers the
    path, unless it is a cleanup without a held claim. -/
theorem snapshot_locks {env : Env} {calls : List Call}
    (hrun : Run.Along (next env) Call.Fresh Db.init calls) :
    (∀ now id paths found s',
      loadRepoopsRelevantReservations now id (normalizeRequestedPaths paths) (reach env calls) =
        (.ok found, s') →
      ∀ r ∈ (reach env calls).reservations.rows, r.Live now →
        (r.ownerSubtaskId = id ∨
          ∃ path ∈ paths, ∃ p : RepoPath, path.val = joinParts p.parts ∧ p ∈ r.paths) →
        r ∈ found) ∧
    ∀ req now snapshot s',
      repoopsAuthoritySnapshot env req now (reach env calls) = (.ok snapshot, s') →
      ∃ claim, (reach env calls).claims.get? req.claimId = some claim ∧
        (∀ path ∈ req.paths, ∀ p : RepoPath, path.val = joinParts p.parts →
          ((∃ lock ∈ snapshot.locks, lock.path = path.val ∧ lock.status = .owned) ↔
            (reach env calls).ReservedFor now claim.subtaskId p) ∧
          ∀ id, id ≠ claim.subtaskId →
            ((∃ lock ∈ snapshot.locks, lock.path = path.val ∧ lock.status = .foreignOwner ∧
                lock.owner = "subtask:" ++ id.val) ↔
              (reach env calls).ReservedFor now id p ∧ ¬(reach env calls).IdleCleanup id)) ∧
        ∀ lock ∈ snapshot.locks, (∃ path ∈ req.paths, lock.path = path.val) ∧
          (lock.status = .foreignOwner →
            ∃ id, id ≠ claim.subtaskId ∧ lock.owner = "subtask:" ++ id.val) := by
  have hsound : (reach env calls).shelf.Sound := reach_sound
  obtain ⟨hcur, htended⟩ := reach_tended hrun
  generalize reach env calls = s at *
  have hstored : ∀ r ∈ s.reservations.rows, r.WellScoped ∧ r.Plain := fun r hr =>
    ⟨hsound.paths _ r (Table.get?_key hr), hsound.plain _ r (Table.get?_key hr)⟩
  refine ⟨fun now id paths found s' h r hr hlive hcovers => ?_, fun req now snapshot s' h => ?_⟩
  · refine ((mem_loadRepoopsRelevantReservations h).2.1 r).mpr ⟨hr, ?_⟩
    rcases hcovers with howner | ⟨path, hpath, p, hp, hcovers⟩
    · exact ⟨hlive, .inl howner⟩
    · exact relevant_of_covers (hstored r hr).1 (hstored r hr).2 hlive
        (mem_normalizeRequestedPaths.mpr ⟨path, hpath, hp⟩) hcovers
  obtain ⟨claim, session, hclaim, hall, honly⟩ := repoopsAuthoritySnapshot_iff hstored hcur htended h
  refine ⟨claim, hclaim, fun path hpath p hp => ⟨?_, fun id hid => ?_⟩, fun lock hlock => ?_⟩
  · constructor
    · rintro ⟨lock, hlock, hlockpath, hstatus⟩
      obtain ⟨path', hpath', p', hp', r, hr, hfact⟩ := honly lock hlock
      obtain ⟨heq, ⟨howner, -⟩ | ⟨-, hforeign, -⟩⟩ := lockFact_ok hfact
      · obtain rfl : p = p' := joinParts_inj.mp (by rw [← hp, ← hp', ← hlockpath, heq])
        exact ⟨r, hr.stored, howner, hr.live, hr.covers⟩
      · rw [hstatus] at hforeign
        cases hforeign
    · rintro ⟨r, hr, howner, hlive, hcovers⟩
      obtain ⟨lock, hlock, hfact⟩ := hall path hpath p hp r ⟨hr, hlive, hcovers, .inl howner⟩
      obtain ⟨heq, ⟨-, hstatus⟩ | ⟨hother, -⟩⟩ := lockFact_ok hfact
      · exact ⟨lock, hlock, heq, hstatus⟩
      · exact absurd howner hother
  · constructor
    · rintro ⟨lock, hlock, hlockpath, hstatus, howner⟩
      obtain ⟨path', hpath', p', hp', r, hr, hfact⟩ := honly lock hlock
      obtain ⟨heq, ⟨-, howned⟩ | ⟨hother, -, hname⟩⟩ := lockFact_ok hfact
      · rw [hstatus] at howned
        cases howned
      · obtain rfl : p = p' := joinParts_inj.mp (by rw [← hp, ← hp', ← hlockpath, heq])
        obtain rfl : r.ownerSubtaskId = id := subtaskRef_inj (hname.symm.trans howner)
        exact ⟨⟨r, hr.stored, rfl, hr.live, hr.covers⟩, hr.kept.resolve_left hother⟩
    · rintro ⟨⟨r, hr, rfl, hlive, hcovers⟩, hidle⟩
      obtain ⟨lock, hlock, hfact⟩ := hall path hpath p hp r ⟨hr, hlive, hcovers, .inr hidle⟩
      obtain ⟨heq, ⟨howner, -⟩ | ⟨-, hstatus, hname⟩⟩ := lockFact_ok hfact
      · exact absurd howner hid
      · exact ⟨lock, hlock, heq, hstatus, hname⟩
  · obtain ⟨path, hpath, -, -, r, -, hfact⟩ := honly lock hlock
    obtain ⟨heq, hkind⟩ := lockFact_ok hfact
    refine ⟨⟨path, hpath, heq⟩, fun hforeign => ?_⟩
    rcases hkind with ⟨-, howned⟩ | ⟨hother, -, hname⟩
    · rw [hforeign] at howned
      cases howned
    · exact ⟨_, hother, hname⟩

end Snapshot

section LocksExample

open Script

/-- A snapshot for the claim on `a`, of a path that is also reserved for `b`. -/
def indexSnapshot : RepoopsAuthoritySnapshotReq :=
  ⟨session 1, claim 7, fence 0, [⟨"docs/index", "docs/index", by decide⟩], by simp, by simp⟩

theorem contested_snapshot :
    Run.Along (next env) Call.Fresh Db.init contested ∧
      (repoopsAuthoritySnapshot env indexSnapshot 5 (reach env contested)).1.isOk = true := by
  decide +kernel

theorem snapshot_locks_contested :
    Run.Along (next env) Call.Fresh Db.init contested ∧
      ∃ snapshot s', repoopsAuthoritySnapshot env indexSnapshot 5 (reach env contested) =
          (.ok snapshot, s') ∧
        ∃ claim, (reach env contested).claims.get? indexSnapshot.claimId = some claim ∧
          ∀ path ∈ indexSnapshot.paths, ∀ p : RepoPath, path.val = joinParts p.parts →
            ((∃ lock ∈ snapshot.locks, lock.path = path.val ∧ lock.status = .owned) ↔
              (reach env contested).ReservedFor 5 claim.subtaskId p) := by
  obtain ⟨hrun, hok⟩ := contested_snapshot
  refine ⟨hrun, ?_⟩
  cases hsnapshot : repoopsAuthoritySnapshot env indexSnapshot 5 (reach env contested) with
  | mk result s' =>
    rw [hsnapshot] at hok
    cases result with
    | error e => cases hok
    | ok snapshot =>
      obtain ⟨claim, hclaim, hlocks, -⟩ := (snapshot_locks hrun).2 _ _ _ _ hsnapshot
      exact ⟨snapshot, s', rfl, claim, hclaim, fun path hpath p hp => (hlocks path hpath p hp).1⟩

end LocksExample

end Covey

import Covey.Commits
import Covey.Paths
import Covey.Runs.Locks

/-!
# Normal forms of reservation paths

`normalize_relative_repo_path` trims the text, looks for a root and a drive, and only then folds
the components. What stands behind a folded component is not looked at again: `./ a` becomes
` a`, and `x/../C:/y` becomes `C:/y`.

* `normalized_canonical`: without such components the normal form is canonical and its own normal
  form.
* `overlapCandidate_ok`: a request's scope is then accepted by the scope type, so that the overlap
  query does not panic.
* `reservation_scopes`: both, and the stored reservation can be loaded.
-/

namespace Covey

open Relational

/-! ## Canonical paths -/

/-- Neither padded nor a drive. -/
structure PlainPart (part : List Char) : Prop where
  start : part.head?.any isWhitespace = false
  stop : part.getLast?.any isWhitespace = false
  relative : hasDrive part = false

instance (part : List Char) : Decidable (PlainPart part) :=
  decidable_of_iff (_ ∧ _ ∧ _) ⟨fun ⟨a, b, c⟩ => ⟨a, b, c⟩, fun ⟨a, b, c⟩ => ⟨a, b, c⟩⟩

/-- The components of the text as the normalizer splits it. -/
def rawParts (raw : String) : List (List Char) :=
  splitChars '/' ((trimChars raw.toList).map fun c => if c = '\\' then '/' else c)

/-- A canonical relative path: no empty, `.` or `..` component, no backslash, no drive, no
    surrounding whitespace. -/
structure CanonicalPath (key : String) : Prop where
  components : IsPath key
  slashes : '\\' ∉ key.toList
  relative : hasDrive key.toList = false
  trimmed : padded key = false

section Normal

variable {parts : List (List Char)} {raw key : String}

theorem head?_intercalate {part : List Char} (hpart : part ≠ []) :
    (['/'].intercalate (part :: parts)).head? = part.head? := by
  cases parts with
  | nil => simp [List.intercalate]
  | cons next parts =>
    rw [List.intercalate_cons_cons, List.append_assoc, List.head?_append_of_ne_nil _ hpart]

theorem getLast?_intercalate {part : List Char} (hpart : part ≠ []) :
    (['/'].intercalate (parts ++ [part])).getLast? = part.getLast? := by
  induction parts with
  | nil => simp [List.intercalate]
  | cons first parts ih =>
    obtain ⟨next, rest, hrest⟩ : ∃ next rest, parts ++ [part] = next :: rest :=
      List.exists_cons_of_ne_nil (by simp)
    rw [List.cons_append, hrest, List.intercalate_cons_cons, ← hrest, List.getLast?_append, ih]
    obtain ⟨c, hc⟩ := Option.isSome_iff_exists.mp (List.getLast?_isSome.mpr hpart)
    rw [hc]
    rfl

theorem hasDrive_intercalate {part : List Char} (hpart : IsComponent part) :
    hasDrive (['/'].intercalate (part :: parts)) = hasDrive part := by
  obtain ⟨c, rest, rfl⟩ := List.exists_cons_of_ne_nil hpart.1
  cases parts with
  | nil => simp [List.intercalate]
  | cons next parts =>
    rw [List.intercalate_cons_cons]
    cases rest with
    | nil => rfl
    | cons d rest =>
      -- only the second character is looked at
      by_cases hd : d = ':'
      · subst hd
        rfl
      · simp [hasDrive, hd]

/-- A path of plain components is canonical. -/
theorem canonicalPath_joinParts (p : RepoPath) (hplain : ∀ part ∈ p.parts, PlainPart part)
    (hslashes : '\\' ∉ (joinParts p.parts).toList) : CanonicalPath (joinParts p.parts) := by
  have hlist : (joinParts p.parts).toList = ['/'].intercalate p.parts := String.toList_ofList
  obtain ⟨first, rest, hfirst⟩ := List.exists_cons_of_ne_nil p.nonempty
  obtain ⟨front, last, hlast⟩ := List.eq_nil_or_concat p.parts |>.resolve_left p.nonempty
  have hmem : first ∈ p.parts := hfirst ▸ List.mem_cons_self
  have hmem' : last ∈ p.parts := by
    rw [hlast, List.concat_eq_append]
    exact List.mem_append_right _ List.mem_cons_self
  refine ⟨⟨p, rfl⟩, hslashes, ?_, ?_⟩
  · rw [hlist, hfirst, hasDrive_intercalate (p.components _ hmem)]
    exact (hplain _ hmem).relative
  · unfold padded
    rw [hlist, Bool.or_eq_false_iff]
    constructor
    · rw [hfirst, head?_intercalate (p.components _ hmem).1]
      exact (hplain _ hmem).start
    · rw [hlast, List.concat_eq_append, getLast?_intercalate (p.components _ hmem').1]
      exact (hplain _ hmem').stop

/-- Components are kept as they are. -/
theorem normalizeComponents_of_components {kept : List (List Char)}
    (h : ∀ part ∈ parts, IsComponent part) :
    normalizeComponents kept parts = some (kept.reverse ++ parts) := by
  induction parts generalizing kept with
  | nil => simp [normalizeComponents]
  | cons part parts ih =>
    obtain ⟨⟨hne, -, hdot, hup⟩, hparts⟩ := List.forall_mem_cons.mp h
    unfold normalizeComponents
    rw [if_neg (not_or.mpr ⟨hne, hdot⟩), if_neg hup, ih hparts]
    simp

/-- A canonical path is its own normal form. -/
theorem CanonicalPath.normalize (h : CanonicalPath key) :
    normalizeRelativeRepoPath key = .ok key := by
  obtain ⟨⟨p, rfl⟩, hslashes, hrelative, htrimmed⟩ := h
  have hslashed : (joinParts p.parts).toList.map (fun c => if c = '\\' then '/' else c) =
      (joinParts p.parts).toList := by
    refine (List.map_congr_left fun c hc => if_neg ?_).trans (List.map_id _)
    rintro rfl
    exact hslashes hc
  have hparts : ∀ part ∈ splitChars '/' (joinParts p.parts).toList, IsComponent part := by
    rw [p.split]
    exact p.components
  have hguard : ¬((joinParts p.parts).toList = [] ∨ (joinParts p.parts).toList.head? = some '/' ∨
      "./../".toList.isPrefixOf (joinParts p.parts).toList = true ∨
      (joinParts p.parts).toList = "..".toList ∨
      hasDrive (joinParts p.parts).toList = true) := by
    rintro (hnil | hroot | hdots | hup | hdrive)
    · rw [hnil] at hparts
      exact (hparts [] (by simp [splitChars])).1 rfl
    · obtain ⟨rest, hrest⟩ := List.head?_eq_some_iff.mp hroot
      rw [hrest] at hparts
      exact (hparts [] (by simp [splitChars])).1 rfl
    · obtain ⟨rest, hrest⟩ := List.isPrefixOf_iff_prefix.mp hdots
      have hsplit : splitChars '/' (['.'] ++ '/' :: ("../".toList ++ rest)) =
          ['.'] :: splitChars '/' ("../".toList ++ rest) := splitChars_append
      rw [← hrest, show "./../".toList ++ rest = ['.'] ++ '/' :: ("../".toList ++ rest) from rfl,
        hsplit] at hparts
      exact (hparts ['.'] List.mem_cons_self).2.2.1 rfl
    · rw [hup] at hparts
      exact (hparts ['.', '.'] (by decide)).2.2.2 rfl
    · rw [hrelative] at hdrive
      cases hdrive
  simp only [normalizeRelativeRepoPath, trimChars_of_not_padded htrimmed, hslashed, if_neg hguard,
    p.split, normalizeComponents_of_components p.components, List.reverse_nil, List.nil_append]
  split
  · cases ‹some p.parts = none›
  · exact absurd (Option.some.inj ‹some p.parts = some []›) p.nonempty
  · rw [Option.some.inj ‹some p.parts = some _›]
    rfl

/-- The components of the normal form stand in the text. -/
theorem exists_of_normalize (h : normalizeRelativeRepoPath raw = .ok key) :
    ∃ p : RepoPath, key = joinParts p.parts ∧ ∀ part ∈ p.parts, part ∈ rawParts raw := by
  obtain ⟨p, rfl⟩ := normalizeRelativeRepoPath_isPath h
  refine ⟨p, rfl, fun part hpart => ?_⟩
  rw [← p.split] at hpart
  simp only [normalizeRelativeRepoPath] at h
  split_ifs at h
  split at h
  · cases h
  · cases h
  · rename_i parts hparts hnorm
    have hsplit : splitChars '/' (joinParts p.parts).toList = parts := by
      rw [← Except.ok.inj h, String.toList_ofList]
      exact splitChars_intercalate hparts fun part hpart =>
        (normalizeComponents_components (fun _ hpart => notMem_splitChars hpart) (by simp) hnorm
          part hpart).2.1
    rw [hsplit] at hpart
    exact (normalizeComponents_subset hnorm part hpart).resolve_left List.not_mem_nil

/-- The normal form of a text of plain components is canonical. -/
theorem normalized_canonical (hplain : ∀ part ∈ rawParts raw, PlainPart part)
    (h : normalizeRelativeRepoPath raw = .ok key) : CanonicalPath key := by
  have hslashes := normalizeRelativeRepoPath_plain h
  obtain ⟨p, rfl, hparts⟩ := exists_of_normalize h
  exact canonicalPath_joinParts p (fun part hpart => hplain part (hparts part hpart)) hslashes

/-- A canonical path is a key of the reservation scope type. -/
theorem CanonicalPath.not_blank (h : CanonicalPath key) : blank key = false := by
  obtain ⟨⟨p, rfl⟩, -, -, htrimmed⟩ := h
  have hne : (joinParts p.parts).toList ≠ [] := by
    intro hnil
    have hsplit := p.split
    rw [hnil] at hsplit
    exact (p.components [] (hsplit ▸ List.mem_cons_self)).1 rfl
  obtain ⟨c, rest, hrest⟩ := List.exists_cons_of_ne_nil hne
  rw [padded, hrest, Bool.or_eq_false_iff] at htrimmed
  have hc : isWhitespace c = false := by simpa using htrimmed.1
  rw [blank, hrest, List.all_cons, hc, Bool.false_and]

theorem CanonicalPath.accepted (h : CanonicalPath key) (scopeClass : ScopeClass) :
    checkScopeKey scopeClass key = none := by
  rw [checkScopeKey, if_neg (by rw [h.not_blank]; decide), if_neg (by rw [h.trimmed]; decide)]

theorem mem_joinParts {c : Char} (h : c ∈ (joinParts parts).toList) :
    c = '/' ∨ ∃ part ∈ parts, c ∈ part := by
  rw [joinParts, String.toList_ofList] at h
  induction parts with
  | nil => exact absurd h (by simp [List.intercalate])
  | cons part parts ih =>
    cases parts with
    | nil => exact .inr ⟨part, List.mem_cons_self, by simpa [List.intercalate] using h⟩
    | cons next parts =>
      rw [List.intercalate_cons_cons, List.append_assoc, List.mem_append, List.mem_append] at h
      rcases h with hpart | hslash | hrest
      · exact .inr ⟨part, List.mem_cons_self, hpart⟩
      · exact .inl (List.mem_singleton.mp hslash)
      · rcases ih hrest with hslash | ⟨other, hother, hc⟩
        · exact .inl hslash
        · exact .inr ⟨other, List.mem_cons_of_mem _ hother, hc⟩

theorem trimChars_subset (v : List Char) : trimChars v ⊆ v := by
  intro c hc
  have hdropped := (List.dropWhile_sublist _).subset (List.mem_reverse.mp hc)
  exact (List.dropWhile_sublist _).subset (List.mem_reverse.mp hdropped)

/-- The normal form has no character but the separator that the text has not. -/
theorem mem_normalized (h : normalizeRelativeRepoPath raw = .ok key) {c : Char}
    (hc : c ∈ key.toList) : c = '/' ∨ c ∈ raw.toList := by
  obtain ⟨p, rfl, hparts⟩ := exists_of_normalize h
  rcases mem_joinParts hc with hslash | ⟨part, hpart, hc⟩
  · exact .inl hslash
  · obtain ⟨d, hd, hmap⟩ := List.mem_map.mp (mem_of_mem_splitChars (hparts part hpart) hc)
    split_ifs at hmap with hback
    · exact .inl hmap.symm
    · exact .inr (hmap ▸ trimChars_subset _ hd)

end Normal

/-! ## Scopes of requests -/

/-- The paths of a scope have plain components. -/
structure PlainScope (scope : ReservationScope) : Prop where
  key : scope.scopeClass = .exactPath ∨ scope.scopeClass = .subtree →
    ∀ part ∈ rawParts scope.scopeKey, PlainPart part
  members : ∀ member ∈ scope.generatedMembers, ∀ part ∈ rawParts member, PlainPart part

instance (scope : ReservationScope) : Decidable (PlainScope scope) :=
  decidable_of_iff (_ ∧ _) ⟨fun ⟨a, b⟩ => ⟨a, b⟩, fun ⟨a, b⟩ => ⟨a, b⟩⟩

/-- Members that are canonical, without control characters and each once, are accepted. -/
theorem checkMembersFrom_of_canonical {seen members : List String} (hnodup : members.Nodup)
    (hseen : ∀ member ∈ members, member ∉ seen)
    (h : ∀ member ∈ members, CanonicalPath member ∧ member.toList.any isControl = false) :
    checkMembersFrom seen members = none := by
  induction members generalizing seen with
  | nil => rfl
  | cons member members ih =>
    obtain ⟨hnew, hnodup⟩ := List.nodup_cons.mp hnodup
    obtain ⟨⟨hcanonical, hcontrol⟩, h⟩ := List.forall_mem_cons.mp h
    obtain ⟨hfirst, hseen⟩ := List.forall_mem_cons.mp hseen
    rw [checkMembersFrom, if_neg (by rw [hcanonical.not_blank]; decide),
      if_neg (by rw [hcanonical.trimmed, hcontrol]; decide), if_neg hfirst]
    refine ih hnodup (fun other hother => ?_) h
    rw [List.mem_cons, not_or]
    refine ⟨?_, hseen other hother⟩
    rintro rfl
    exact hnew hother

/-- The members of a scope have no control characters. -/
theorem checkMembersFrom_control {seen members : List String}
    (h : checkMembersFrom seen members = none) :
    ∀ member ∈ members, member.toList.any isControl = false := by
  induction members generalizing seen with
  | nil => exact fun _ hmember => nomatch hmember
  | cons member members ih =>
    rw [checkMembersFrom] at h
    split_ifs at h with _ hpadded
    rw [Bool.or_eq_true, not_or] at hpadded
    exact List.forall_mem_cons.mpr ⟨Bool.eq_false_iff.mpr hpadded.2, ih h⟩

/-- What the scope of a request is normalized to is a scope again. -/
theorem checkReservationScope_normalized {scope : ReservationScope} {scopeKey : String}
    {members : List String} (hplain : PlainScope scope)
    (hkey : normalizeScopeKey scope.scopeClass scope.scopeKey = .ok scopeKey)
    (hmembers : normalizeGeneratedMembers scope.generatedMembers = .ok members)
    (hshape : ensureReservationScopeShape scope.scopeClass scopeKey members = .ok ()) :
    checkReservationScope scope.scopeClass scopeKey members = none := by
  obtain ⟨scopeClass, raw, rawMembers, hscope⟩ := scope
  obtain ⟨hplain, hplainMembers⟩ := hplain
  -- only a generated set has members
  have hnone : scopeClass ≠ .generatedSet → rejectGeneratedMembers scopeClass members = none := by
    intro hclass
    simp only [ensureReservationScopeShape, if_neg hclass] at hshape
    split_ifs at hshape with _ hempty
    rw [rejectGeneratedMembers, if_pos hempty]
  cases scopeClass with
  | repoGlobal =>
    rw [checkReservationScope, hnone (by decide), ← Except.ok.inj hkey]
    rfl
  | exactPath =>
    rw [checkReservationScope, hnone (by decide), Option.none_or]
    exact (normalized_canonical (hplain (.inl rfl)) hkey).accepted _
  | subtree =>
    rw [checkReservationScope, hnone (by decide), Option.none_or]
    exact (normalized_canonical (hplain (.inr rfl)) hkey).accepted _
  | generatedSet =>
    obtain ⟨hrawKey, hrawMembers⟩ := Option.or_eq_none_iff.mp hscope
    simp only [checkGeneratedMembers] at hrawMembers
    split_ifs at hrawMembers with hne
    have hcontrol := checkMembersFrom_control hrawMembers
    obtain ⟨hnodup, hraw⟩ := normalizeGeneratedMembers_ok hmembers
    simp only [checkScopeKey] at hrawKey
    split_ifs at hrawKey with hblank hpadded
    -- the key of a generated set is only trimmed, which leaves it as it is
    have hsame : scopeKey = raw := by
      simp only [normalizeScopeKey,
        trimChars_of_not_padded (Bool.eq_false_iff.mpr hpadded)] at hkey
      split_ifs at hkey
      rw [← Except.ok.inj hkey, String.ofList_toList]
    subst hsame
    simp only [ensureReservationScopeShape, if_neg hblank, if_true] at hshape
    split_ifs at hshape with hempty
    rw [checkReservationScope, checkScopeKey, if_neg hblank, if_neg hpadded, Option.none_or,
      checkGeneratedMembers, if_neg hempty]
    refine checkMembersFrom_of_canonical hnodup (by simp) fun member hmember => ?_
    obtain ⟨rawMember, hrawMember, hnorm⟩ := hraw member hmember
    refine ⟨normalized_canonical (hplainMembers rawMember hrawMember) hnorm, ?_⟩
    refine List.any_eq_false.mpr fun c hc => ?_
    rcases mem_normalized hnorm hc with rfl | hc
    · decide
    · exact List.any_eq_false.mp (hcontrol rawMember hrawMember) c hc

/-! ## The two operations -/

/-- The checks of `Covey::find_overlapping_reservations` (reservation.rs:290-305) before it builds
    the candidate: the normalized key and members. -/
def overlapQueryScope (scope : ReservationScope) : Txn (String × List String) := do
  let scopeKey ← normalizeScopeKey scope.scopeClass scope.scopeKey
  ensureLength "reservation_scope_key" scopeKey 4096
  ensureGeneratedMemberCount scope.generatedMembers.length
  let members ← normalizeGeneratedMembers scope.generatedMembers
  ensureReservationScopeShape scope.scopeClass scopeKey members
  Tx.forEach members fun member => liftM (ensureLength "generated_member" member 4096)
  return (scopeKey, members)

/-- `Covey::find_overlapping_reservations` (reservation.rs:290-321). -/
def queryOverlappingReservations (scope : ReservationScope) : Txn (List ReservationRow) := do
  let (scopeKey, members) ← overlapQueryScope scope
  overlapCandidate scope.scopeClass scopeKey members
  findOverlappingReservations scope.scopeClass scopeKey members

section Operations

variable {env : Env} {s : Db} {c : Call} {scope : ReservationScope} {scopeKey : String}
  {members : List String}

theorem overlapCandidate_ok (hplain : PlainScope scope)
    (hkey : normalizeScopeKey scope.scopeClass scope.scopeKey = .ok scopeKey)
    (hmembers : normalizeGeneratedMembers scope.generatedMembers = .ok members)
    (hshape : ensureReservationScopeShape scope.scopeClass scopeKey members = .ok ()) :
    overlapCandidate scope.scopeClass scopeKey members = .ok () := by
  rw [overlapCandidate, checkReservationScope_normalized hplain hkey hmembers hshape]

theorem overlapQueryScope_ok {s s' : Db} {normal : String × List String}
    (h : overlapQueryScope scope s = (.ok normal, s')) :
    normalizeScopeKey scope.scopeClass scope.scopeKey = .ok normal.1 ∧
      normalizeGeneratedMembers scope.generatedMembers = .ok normal.2 ∧
      ensureReservationScopeShape scope.scopeClass normal.1 normal.2 = .ok () := by
  simp only [overlapQueryScope, Tx.bind_ok, Tx.lift_ok, Tx.pure_ok, and_assoc, exists_and_left,
    exists_eq_left', Tx.exists_unit] at h
  obtain ⟨scopeKey, hkey, -, -, members, hmembers, hshape, _, -, rfl, rfl⟩ := h
  exact ⟨hkey, hmembers, hshape⟩

/-- The query is made for every scope that passes the checks: its candidate is never refused. -/
theorem queryOverlappingReservations_eq (hplain : PlainScope scope) :
    queryOverlappingReservations scope = overlapQueryScope scope >>= fun normal =>
      findOverlappingReservations scope.scopeClass normal.1 normal.2 := by
  funext s
  rcases hscope : overlapQueryScope scope s with ⟨e | normal, s'⟩
  · rw [queryOverlappingReservations, Tx.bind_error.mpr (.inl hscope),
      Tx.bind_error.mpr (.inl hscope)]
  · obtain ⟨hkey, hmembers, hshape⟩ := overlapQueryScope_ok hscope
    have hcandidate := overlapCandidate_ok hplain hkey hmembers hshape
    rw [queryOverlappingReservations, Tx.bind_of_ok hscope, Tx.bind_of_ok hscope]
    show (liftM (overlapCandidate scope.scopeClass normal.1 normal.2) >>= fun _ =>
      findOverlappingReservations scope.scopeClass normal.1 normal.2 : Txn _) s' = _
    rw [hcandidate]
    rfl

/-- A committed request stores a reservation of the normalized scope. -/
theorem requestReservation_stores {req : RequestReservationReq}
    (hop : c.op = .requestReservation req) (hc : c.Commits env s) :
    ∃ r : ReservationRow, (next env s c).reservations.rows = s.reservations.rows ++ [r] ∧
      r.scopeClass = req.scope.scopeClass ∧
      normalizeScopeKey req.scope.scopeClass req.scope.scopeKey = .ok r.scopeKey ∧
      normalizeGeneratedMembers req.scope.generatedMembers = .ok r.generatedMembers ∧
      ensureReservationScopeShape req.scope.scopeClass r.scopeKey r.generatedMembers = .ok () ∧
      r.leaseDeadline = addI64 (max s.leaseClock (max c.now 0)) req.leaseDurationMs.val ∧
      r.createdAt = r.updatedAt := by
  obtain ⟨-, leaseNow, s₀, v, s', t, rfl, hs₀, hrun, hnext, -⟩ :=
    hc.leasedMutation (by rw [hop]; rfl) (by rw [hop]; rfl)
  simp only [Tx.bind_ok, requireRole_ok, Tx.lift_ok, loadSubtask_ok, Tx.pure_ok, and_assoc,
    exists_and_left, exists_eq_left', Tx.exists_unit] at hrun
  obtain ⟨_, -, -, -, -, -, _, -, -, -, scopeKey, hkey, -, members, hmembers, hshape, s₁, hlengths,
    -, overlaps, s₂, hfind, reservationId, s₃, hid, s₄, hins, s₅, hloop, s₆, hevent, -, rfl⟩ := hrun
  have hs₁ : s₀ = s₁ := (Tx.Keeps.forEach fun _ _ => Tx.Keeps.lift _) hlengths
  have hs₂ := (mem_findOverlappingReservations hfind).1
  obtain ⟨-, hs₃⟩ := freshId_ok.mp hid
  obtain ⟨reservations, hinsert, hs₄⟩ := insertInto_ok.mp hins
  have hrows := Table.insert_eq_some.mp hinsert
  have hbefore : s₃.reservations = s.reservations := by rw [hs₃, hs₂, ← hs₁, hs₀]
  have hconflicts : s₅.reservations = s₄.reservations :=
    ((Tx.Within.forEach (fun _ => .bind (.lift _) fun _ =>
      upsertInto_touches (fun _ _ => rfl) _ _) _).run hloop :
      Touches [.conflicts] s₄ s₅).same fun _ => rfl
  have hevents : s₆.reservations = s₅.reservations :=
    ((appendSessionEvent_touches (List.Subset.refl _)).run hevent :
      Touches [.events] s₅ s₆).same fun _ => rfl
  refine ⟨{ reservationId := reservationId
            ownerSubtaskId := req.ownerSubtaskId
            scopeClass := req.scope.scopeClass
            scopeKey := scopeKey
            generatedMembers := members
            leaseDeadline := addI64 (max s.leaseClock (max c.now 0)) req.leaseDurationMs.val
            state := .active
            createdAt := c.now
            updatedAt := c.now }, ?_, rfl, hkey, hmembers, hshape, rfl, rfl⟩
  rw [hnext]
  show s₆.reservations.rows = _
  rw [hevents, hconflicts, ← hs₄]
  show reservations.rows = _
  rw [hrows, show Rel.reservations.get s₃ = s₃.reservations from rfl, hbefore]

/-- A stored reservation of a scope can be loaded. -/
theorem requestReservation_loads {req : RequestReservationReq} (hplain : PlainScope req.scope)
    (hdeadline : InI64 (max s.leaseClock (max c.now 0) + req.leaseDurationMs.val))
    (hop : c.op = .requestReservation req) (hc : c.Commits env s) :
    ∃ r : ReservationRow, (next env s c).reservations.rows = s.reservations.rows ++ [r] ∧
      r.load = .ok r := by
  obtain ⟨r, hrows, hclass, hkey, hmembers, hshape, hlease, htime⟩ :=
    requestReservation_stores hop hc
  refine ⟨r, hrows, ?_⟩
  have hscope := checkReservationScope_normalized hplain hkey hmembers hshape
  rw [← hclass] at hscope
  have hpos := req.leaseDurationMs.pos
  rw [addI64_of_inI64 hdeadline] at hlease
  rw [ReservationRow.load, if_neg (by omega), hscope]
  exact if_neg (by omega)

end Operations

section Scripts

open Script

/-- A subtask `a` that a reservation can be for. -/
def ownedWork : List (ℤ × (IdempotencyKey → Operation)) :=
  [(0, register "orch" .orchestrator), (1, submit (session 0)),
    (1, create (session 0) (metaTask 1) "a" .canonicalApply)]

/-- The paths below `docs/api` are reserved, written the long way round. -/
def reserveDocs : RequestReservationReq :=
  ⟨session 0, text "a", ⟨.subtree, "./docs\\x/../api/", [], by decide⟩, lease, text "3"⟩

/-- A component with a space in front. -/
def reserveSpaced : RequestReservationReq :=
  ⟨session 0, text "a", ⟨.exactPath, "./ a", [], by decide⟩, lease, text "3"⟩

/-- The longest lease there is. -/
def reserveForever : RequestReservationReq :=
  ⟨session 0, text "a", ⟨.exactPath, "a", [], by decide⟩, forever, text "3"⟩

end Scripts

end Covey

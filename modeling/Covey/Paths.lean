import Covey.Ops.Reservation
import Mathlib.Data.List.Infix
import Mathlib.Data.List.Lex
import Mathlib.Data.Set.Basic
import Mathlib.Data.String.Basic
import Mathlib.Order.Cover

/-!
# What a reservation reserves

A reservation is a set of paths of the repository, and two reservations overlap if their
sets have a path in common. The queries of `src/overlap.rs` look for keys that are equal,
that are ancestors, or that lie in a range of the text order. This module relates the two.

* `RepoPath`: a path as the list of its components.
* `scopePaths`: the paths that a scope reserves.
* `isUnder_iff`: the range of the descendants of a path is the set of its descendants.
* `overlapsScope_iff`: the queries find the scopes that intersect the requested one.
-/

namespace Covey

/-! ## Components -/

/-- A component of a path of the repository. -/
def IsComponent (part : List Char) : Prop :=
  part ≠ [] ∧ '/' ∉ part ∧ part ≠ ['.'] ∧ part ≠ ['.', '.']

/-- A path of the repository. -/
structure RepoPath where
  parts : List (List Char)
  nonempty : parts ≠ []
  components : ∀ part ∈ parts, IsComponent part

/-- The path as the code writes it. -/
def joinParts (parts : List (List Char)) : String := String.ofList (['/'].intercalate parts)

/-- The text is written as a path of the repository. -/
def IsPath (v : String) : Prop := ∃ p : RepoPath, v = joinParts p.parts

section Split

variable {sep : Char} {a b : List Char}

theorem splitChars_ne_nil (v : List Char) : splitChars sep v ≠ [] := by
  cases v with
  | nil => simp [splitChars]
  | cons c cs =>
    unfold splitChars
    split_ifs
    · simp
    · split <;> simp

theorem splitChars_append : splitChars sep (a ++ sep :: b) = splitChars sep a ++ splitChars sep b := by
  induction a with
  | nil => simp [splitChars]
  | cons c cs ih =>
    rw [List.cons_append, splitChars, splitChars]
    split_ifs with hc
    · rw [ih, List.cons_append]
    · rw [ih]
      cases hsplit : splitChars sep cs with
      | nil => exact absurd hsplit (splitChars_ne_nil cs)
      | cons part parts => rfl

theorem splitChars_of_notMem (h : sep ∉ a) : splitChars sep a = [a] := by
  induction a with
  | nil => rfl
  | cons c cs ih =>
    rw [List.mem_cons, not_or] at h
    rw [splitChars, if_neg (Ne.symm h.1), ih h.2]

/-- The parts of a text that is joined of parts. -/
theorem splitChars_intercalate {parts : List (List Char)} (hne : parts ≠ [])
    (h : ∀ part ∈ parts, sep ∉ part) : splitChars sep ([sep].intercalate parts) = parts := by
  induction parts with
  | nil => exact absurd rfl hne
  | cons part parts ih =>
    obtain ⟨hpart, hparts⟩ := List.forall_mem_cons.mp h
    cases parts with
    | nil => simpa [List.intercalate] using splitChars_of_notMem hpart
    | cons next parts =>
      rw [List.intercalate_cons_cons, List.append_assoc, List.singleton_append, splitChars_append,
        splitChars_of_notMem hpart, ih (by simp) hparts, List.singleton_append]

theorem intercalate_append {p q : List (List Char)} (hp : p ≠ []) (hq : q ≠ []) :
    [sep].intercalate (p ++ q) = [sep].intercalate p ++ sep :: [sep].intercalate q := by
  induction p with
  | nil => exact absurd rfl hp
  | cons part p ih =>
    cases p with
    | nil =>
      obtain ⟨next, q, rfl⟩ := List.exists_cons_of_ne_nil hq
      simp [List.intercalate]
    | cons next p =>
      rw [List.cons_append, List.cons_append, List.intercalate_cons_cons, ← List.cons_append,
        ih (by simp), List.intercalate_cons_cons]
      simp

end Split

section Parts

variable {p q : RepoPath}

theorem RepoPath.split (p : RepoPath) : splitChars '/' (joinParts p.parts).toList = p.parts := by
  rw [joinParts, String.toList_ofList]
  exact splitChars_intercalate p.nonempty fun part hpart => (p.components part hpart).2.1

theorem RepoPath.ext_parts (h : p.parts = q.parts) : p = q := by
  cases p
  cases q
  cases h
  rfl

theorem joinParts_inj : joinParts p.parts = joinParts q.parts ↔ p = q := by
  refine ⟨fun h => RepoPath.ext_parts ?_, fun h => h ▸ rfl⟩
  rw [← p.split, h, q.split]

/-- The text of a path that continues that of another one and a slash. -/
theorem prefix_iff : (joinParts p.parts).toList ++ ['/'] <+: (joinParts q.parts).toList ↔
    p.parts <+: q.parts ∧ p ≠ q := by
  constructor
  · rintro ⟨rest, hrest⟩
    have hsplit : q.parts = p.parts ++ splitChars '/' rest := by
      rw [← q.split, ← hrest, List.append_assoc, List.singleton_append, splitChars_append, p.split]
    have hrest' : splitChars '/' rest ≠ [] := splitChars_ne_nil rest
    refine ⟨⟨_, hsplit.symm⟩, fun hpq => hrest' ?_⟩
    rw [hpq] at hsplit
    simpa using hsplit
  · rintro ⟨⟨rest, hrest⟩, hne⟩
    have hrest' : rest ≠ [] := by
      rintro rfl
      exact hne (RepoPath.ext_parts (by simpa using hrest))
    refine ⟨['/'].intercalate rest, ?_⟩
    rw [joinParts, joinParts, String.toList_ofList, String.toList_ofList, ← hrest,
      intercalate_append p.nonempty hrest', List.append_assoc, List.singleton_append]

/-- The loop over the components of a path, from the ancestor `pre` on. -/
theorem mem_ancestorScopeKeys {pre parts : List (List Char)} {v : String}
    (hcomp : ∀ part ∈ pre ++ parts, IsComponent part) :
    v ∈ ancestorScopeKeys (['/'].intercalate pre) parts ↔
      ∃ more, more ≠ [] ∧ more <+: parts ∧ v = joinParts (pre ++ more) := by
  induction parts generalizing pre with
  | nil =>
    simp only [ancestorScopeKeys, List.not_mem_nil, List.prefix_nil, false_iff]
    rintro ⟨more, hne, hmore, -⟩
    exact hne hmore
  | cons part parts ih =>
    have hpart : part ≠ [] := (hcomp part (by simp)).1
    have hnext : (if ['/'].intercalate pre = [] then part
        else ['/'].intercalate pre ++ '/' :: part) = ['/'].intercalate (pre ++ [part]) := by
      by_cases hpre : pre = []
      · subst hpre
        simp [List.intercalate]
      · have hne : ['/'].intercalate pre ≠ [] := by
          intro hnil
          obtain ⟨c, cs, rfl⟩ := List.exists_cons_of_ne_nil hpre
          have hc : c ≠ [] := (hcomp c (by simp)).1
          cases cs <;> simp_all [List.intercalate]
        rw [if_neg hne, intercalate_append hpre (by simp)]
        simp [List.intercalate]
    rw [ancestorScopeKeys, hnext, List.mem_cons, ih (by simpa using hcomp)]
    constructor
    · rintro (rfl | ⟨more, -, hmore, rfl⟩)
      · exact ⟨[part], by simp, by simp, rfl⟩
      · exact ⟨part :: more, by simp, by simpa using hmore, by simp⟩
    · rintro ⟨more, hne, hmore, rfl⟩
      obtain ⟨x, more, rfl⟩ := List.exists_cons_of_ne_nil hne
      obtain ⟨rfl, hrest⟩ := List.cons_prefix_cons.mp hmore
      by_cases hnil : more = []
      · subst hnil
        exact .inl rfl
      · exact .inr ⟨more, hnil, hrest, by simp⟩

/-- The ancestors of a path, itself among them, are the prefixes of its components. -/
theorem mem_pathAncestorScopeKeys :
    joinParts p.parts ∈ pathAncestorScopeKeys (joinParts q.parts) ↔ p.parts <+: q.parts := by
  rw [pathAncestorScopeKeys, q.split]
  show _ ∈ ancestorScopeKeys (['/'].intercalate []) q.parts ↔ _
  refine (mem_ancestorScopeKeys (by simpa using q.components)).trans ?_
  constructor
  · rintro ⟨pre, hne, hpre, hjoin⟩
    have hcomp : ∀ part ∈ pre, IsComponent part :=
      fun part hpart => q.components part (hpre.subset hpart)
    obtain rfl : p = ⟨pre, hne, hcomp⟩ := joinParts_inj.mp hjoin
    exact hpre
  · exact fun hpre => ⟨p.parts, p.nonempty, hpre, rfl⟩

end Parts

/-! ## Ranges -/

/-- The texts between one and the same with the last character raised by one are those that
    continue it. -/
theorem between_iff_prefix {α : Type} [LinearOrder α] {c c' : α} (hc : c ⋖ c') {l k : List α} :
    ¬k < l ++ [c] ∧ k < l ++ [c'] ↔ l ++ [c] <+: k := by
  induction l generalizing k with
  | nil =>
    cases k with
    | nil => simp
    | cons x k =>
      simp only [List.nil_append, List.cons_lt_cons_iff, List.not_lt_nil, and_false, or_false,
        List.cons_prefix_cons, List.nil_prefix, and_true, not_lt]
      constructor
      · rintro ⟨hle, hlt⟩
        exact hle.eq_or_lt.resolve_right fun h => hc.2 h hlt
      · rintro rfl
        exact ⟨le_refl c, hc.1⟩
  | cons a l ih =>
    cases k with
    | nil => simp
    | cons x k =>
      simp only [List.cons_append, List.cons_lt_cons_iff, List.cons_prefix_cons, ← ih, not_or,
        not_and, not_lt]
      constructor
      · rintro ⟨⟨hle, hrest⟩, hlt | ⟨rfl, hlt⟩⟩
        · exact absurd hlt hle.not_gt
        · exact ⟨rfl, hrest rfl, hlt⟩
      · rintro ⟨rfl, hle, hlt⟩
        exact ⟨⟨le_refl a, fun _ => hle⟩, .inr ⟨rfl, hlt⟩⟩

/-- The range of the descendants of a path holds the texts that continue it with a slash. -/
theorem isUnder_iff_prefix {path key : String} :
    isUnder path key ↔ path.toList ++ ['/'] <+: key.toList := by
  have hcov : '/' ⋖ '0' := by
    refine ⟨by decide, fun c hlt hlt' => ?_⟩
    have hlow : '/'.toNat < c.toNat := hlt
    have hhigh : c.toNat < '0'.toNat := hlt'
    have : '/'.toNat = 47 := rfl
    have : '0'.toNat = 48 := rfl
    omega
  have hbound : prefixUpperBound (path ++ "/").toList.reverse =
      some (String.ofList (path.toList ++ ['0'])) := by
    rw [String.toList_append, List.reverse_append]
    show prefixUpperBound ('/' :: path.toList.reverse) = _
    rw [prefixUpperBound, if_pos (by decide), List.reverse_reverse]
    rfl
  simp only [isUnder, hbound, Option.mem_def, Option.some.injEq, exists_eq_left']
  rw [← String.not_lt, String.lt_iff_toList_lt, String.lt_iff_toList_lt, String.toList_append]
  simp only [String.toList_ofList]
  exact between_iff_prefix hcov

theorem isUnder_iff {p q : RepoPath} :
    isUnder (joinParts p.parts) (joinParts q.parts) ↔ p.parts <+: q.parts ∧ p ≠ q :=
  isUnder_iff_prefix.trans prefix_iff

/-! ## Scopes -/

/-- The paths that a scope reserves. -/
def scopePaths (scopeClass : ScopeClass) (scopeKey : String) (members : List String) :
    Set RepoPath :=
  match scopeClass with
  | .repoGlobal => Set.univ
  | .exactPath => {p | joinParts p.parts = scopeKey}
  | .subtree => {p | ∃ root : RepoPath, joinParts root.parts = scopeKey ∧ root.parts <+: p.parts}
  | .generatedSet => {p | joinParts p.parts ∈ members}

/-- The keys of the scope are written as paths, and there is at least one. -/
def WellScoped (scopeClass : ScopeClass) (scopeKey : String) (members : List String) : Prop :=
  match scopeClass with
  | .repoGlobal => True
  | .exactPath | .subtree => IsPath scopeKey
  | .generatedSet => members ≠ [] ∧ ∀ member ∈ members, IsPath member

/-- The paths that a reservation reserves. -/
def ReservationRow.paths (r : ReservationRow) : Set RepoPath :=
  scopePaths r.scopeClass r.scopeKey r.generatedMembers

def ReservationRow.WellScoped (r : ReservationRow) : Prop :=
  Covey.WellScoped r.scopeClass r.scopeKey r.generatedMembers

/-- The keys of the scope are written without backslashes; that of the whole repository is
    fixed. -/
def Plain (scopeClass : ScopeClass) (scopeKey : String) (members : List String) : Prop :=
  match scopeClass with
  | .repoGlobal => scopeKey = "repo"
  | .exactPath | .subtree => '\\' ∉ scopeKey.toList
  | .generatedSet => ∀ member ∈ members, '\\' ∉ member.toList

def ReservationRow.Plain (r : ReservationRow) : Prop :=
  Covey.Plain r.scopeClass r.scopeKey r.generatedMembers

section Overlaps

variable {scopeClass : ScopeClass} {scopeKey : String} {members : List String}

theorem scopePaths_nonempty (h : WellScoped scopeClass scopeKey members) :
    (scopePaths scopeClass scopeKey members).Nonempty := by
  cases scopeClass with
  | repoGlobal => exact ⟨⟨["x".toList], by simp, by simp [IsComponent]⟩, trivial⟩
  | exactPath =>
    obtain ⟨p, rfl⟩ := h
    exact ⟨p, rfl⟩
  | subtree =>
    obtain ⟨p, rfl⟩ := h
    exact ⟨p, p, rfl, List.prefix_rfl⟩
  | generatedSet =>
    obtain ⟨hne, h⟩ := h
    obtain ⟨member, hmem⟩ := List.exists_mem_of_ne_nil members hne
    obtain ⟨p, rfl⟩ := h member hmem
    exact ⟨p, hmem⟩

/-- Two subtrees have a path in common if one root lies under the other. -/
theorem exists_common_path {p q : RepoPath} :
    (∃ x : RepoPath, p.parts <+: x.parts ∧ q.parts <+: x.parts) ↔
      q.parts <+: p.parts ∨ p.parts <+: q.parts ∧ p ≠ q := by
  constructor
  · rintro ⟨x, hp, hq⟩
    by_cases hpq : p = q
    · exact .inl (hpq ▸ List.prefix_rfl)
    · exact (List.prefix_or_prefix_of_prefix hq hp).imp_right fun h => ⟨h, hpq⟩
  · rintro (h | ⟨h, -⟩)
    · exact ⟨p, List.prefix_rfl, h⟩
    · exact ⟨q, h, List.prefix_rfl⟩

/-- A path is the root of a subtree or under it if the root is a prefix. -/
theorem eq_or_isUnder {p q : RepoPath} :
    (joinParts q.parts = joinParts p.parts ∨ isUnder (joinParts p.parts) (joinParts q.parts)) ↔
      p.parts <+: q.parts := by
  rw [joinParts_inj, isUnder_iff]
  constructor
  · rintro (rfl | ⟨h, -⟩)
    · exact List.prefix_rfl
    · exact h
  · intro h
    by_cases hpq : q = p
    · exact .inl hpq
    · exact .inr ⟨h, Ne.symm hpq⟩

/-- A subtree is known by its root. -/
theorem mem_subtree {p q : RepoPath} :
    (∃ root : RepoPath, joinParts root.parts = joinParts q.parts ∧ root.parts <+: p.parts) ↔
      q.parts <+: p.parts := by
  simp only [joinParts_inj, exists_eq_left]

/-- The queries find the reservations with a path in the requested scope. -/
theorem overlapsScope_iff {r : ReservationRow} (h : WellScoped scopeClass scopeKey members)
    (hr : r.WellScoped) : overlapsScope scopeClass scopeKey members r ↔
      (scopePaths scopeClass scopeKey members ∩ r.paths).Nonempty := by
  obtain ⟨_, _, rclass, rkey, rmembers, _, _, _, _⟩ := r
  simp only [ReservationRow.WellScoped] at hr
  simp only [ReservationRow.paths, overlapsScope, Set.Nonempty, Set.mem_inter_iff]
  cases scopeClass with
  | repoGlobal =>
    obtain ⟨x, hx⟩ := scopePaths_nonempty hr
    exact iff_of_true trivial ⟨x, trivial, hx⟩
  | exactPath =>
    obtain ⟨p, rfl⟩ := h
    cases rclass with
    | repoGlobal => simp [scopePaths, joinParts_inj]
    | exactPath => simp [scopePaths, joinParts_inj, eq_comm]
    | subtree =>
      obtain ⟨q, rfl⟩ := hr
      simp [scopePaths, joinParts_inj, mem_pathAncestorScopeKeys]
    | generatedSet => simp [scopePaths, joinParts_inj]
  | subtree =>
    obtain ⟨p, rfl⟩ := h
    cases rclass with
    | repoGlobal => simpa [scopePaths, mem_subtree] using ⟨p, List.prefix_rfl⟩
    | exactPath =>
      obtain ⟨q, rfl⟩ := hr
      simpa [scopePaths, mem_subtree, joinParts_inj] using eq_or_isUnder (p := p) (q := q)
    | subtree =>
      obtain ⟨q, rfl⟩ := hr
      simp [scopePaths, mem_subtree, mem_pathAncestorScopeKeys, isUnder_iff, exists_common_path]
    | generatedSet =>
      simp only [scopePaths, Set.mem_setOf_eq, mem_subtree, reduceCtorEq, false_and, false_or,
        true_and]
      constructor
      · rintro ⟨member, hmem, hunder⟩
        obtain ⟨q, rfl⟩ := hr.2 member hmem
        exact ⟨q, eq_or_isUnder.mp hunder, hmem⟩
      · rintro ⟨q, hunder, hmem⟩
        exact ⟨_, hmem, eq_or_isUnder.mpr hunder⟩
  | generatedSet =>
    obtain ⟨hne, h⟩ := h
    have hsome : ∃ p : RepoPath, joinParts p.parts ∈ members := by
      obtain ⟨member, hmem⟩ := List.exists_mem_of_ne_nil members hne
      obtain ⟨p, rfl⟩ := h member hmem
      exact ⟨p, hmem⟩
    have hmember : ∀ P : String → Prop,
        (∃ member ∈ members, P member) ↔ ∃ p : RepoPath, joinParts p.parts ∈ members ∧
          P (joinParts p.parts) := by
      intro P
      constructor
      · rintro ⟨member, hmem, hP⟩
        obtain ⟨p, rfl⟩ := h member hmem
        exact ⟨p, hmem, hP⟩
      · rintro ⟨p, hmem, hP⟩
        exact ⟨_, hmem, hP⟩
    cases rclass with
    | repoGlobal => simpa [scopePaths] using hsome
    | exactPath =>
      obtain ⟨q, rfl⟩ := hr
      simp [scopePaths, joinParts_inj]
    | subtree =>
      obtain ⟨q, rfl⟩ := hr
      simp [scopePaths, mem_subtree, hmember, mem_pathAncestorScopeKeys]
    | generatedSet => simp [scopePaths, hmember]

end Overlaps

/-! ## Normal forms -/

/-- What `normalize_relative_repo_path` keeps are components. -/
theorem normalizeComponents_components {parts kept result : List (List Char)}
    (hparts : ∀ part ∈ parts, '/' ∉ part) (hkept : ∀ part ∈ kept, IsComponent part)
    (h : normalizeComponents kept parts = some result) : ∀ part ∈ result, IsComponent part := by
  induction parts generalizing kept with
  | nil =>
    cases h
    simpa using hkept
  | cons part parts ih =>
    obtain ⟨hpart, hparts⟩ := List.forall_mem_cons.mp hparts
    unfold normalizeComponents at h
    split_ifs at h with hskip hup
    · exact ih hparts hkept h
    · cases kept with
      | nil => cases h
      | cons last kept => exact ih hparts (List.forall_mem_cons.mp hkept).2 h
    · rw [not_or] at hskip
      exact ih hparts (List.forall_mem_cons.mpr ⟨⟨hskip.1, hpart, hskip.2, hup⟩, hkept⟩) h

theorem notMem_splitChars {sep : Char} {v part : List Char} (h : part ∈ splitChars sep v) :
    sep ∉ part := by
  induction v generalizing part with
  | nil =>
    obtain rfl := List.mem_singleton.mp h
    simp
  | cons c cs ih =>
    rw [splitChars] at h
    split_ifs at h with hc
    · rcases List.mem_cons.mp h with rfl | h
      · simp
      · exact ih h
    · cases hsplit : splitChars sep cs with
      | nil => exact absurd hsplit (splitChars_ne_nil cs)
      | cons first parts =>
        rw [hsplit] at h ih
        rcases List.mem_cons.mp h with rfl | h
        · exact fun hmem => (List.mem_cons.mp hmem).elim (fun heq => hc heq.symm)
            (ih List.mem_cons_self)
        · exact ih (List.mem_cons_of_mem _ h)

theorem normalizeRelativeRepoPath_isPath {raw key : String}
    (h : normalizeRelativeRepoPath raw = .ok key) : IsPath key := by
  simp only [normalizeRelativeRepoPath] at h
  split_ifs at h
  split at h
  · cases h
  · cases h
  · rename_i parts hparts hnorm
    cases h
    refine ⟨⟨parts, fun hnil => ?_, ?_⟩, rfl⟩
    · exact hparts hnil
    · exact normalizeComponents_components (fun _ hpart => notMem_splitChars hpart) (by simp) hnorm

theorem repoopsParts_components {parts result : List (List Char)}
    (hparts : ∀ part ∈ parts, '/' ∉ part) (h : RepoopsPath.parts parts = .ok result) :
    ∀ part ∈ result, IsComponent part := by
  induction parts generalizing result with
  | nil =>
    cases h
    simp
  | cons part parts ih =>
    obtain ⟨hpart, hparts⟩ := List.forall_mem_cons.mp hparts
    rw [RepoopsPath.parts] at h
    split_ifs at h with hskip hup
    · exact ih hparts h
    · cases hrest : RepoopsPath.parts parts with
      | error e => simp [hrest, Except.map] at h
      | ok rest =>
        simp only [hrest, Except.map, Except.ok.injEq] at h
        subst h
        rw [not_or] at hskip
        exact List.forall_mem_cons.mpr ⟨⟨hskip.1, hpart, hskip.2, hup⟩, ih hparts hrest⟩

/-- The paths of an archive cleanup are written as paths too. -/
theorem RepoopsPath.isPath (path : RepoopsPath) : IsPath path.val := by
  obtain ⟨raw, h⟩ := path.parsed
  simp only [RepoopsPath.normalize] at h
  split_ifs at h
  split at h
  · cases h
  · cases h
  · rename_i parts hparts hnorm
    rw [← Except.ok.inj h]
    refine ⟨⟨parts, fun hnil => ?_, ?_⟩, rfl⟩
    · exact hparts hnil
    · exact repoopsParts_components (fun _ hpart => notMem_splitChars hpart) hnorm

/-! ### Backslashes

Both normal forms begin by writing slashes for backslashes, and no later step puts in a
character other than a slash. -/

theorem mem_of_mem_splitChars {sep c : Char} {v part : List Char} (h : part ∈ splitChars sep v)
    (hc : c ∈ part) : c ∈ v := by
  induction v generalizing part with
  | nil =>
    obtain rfl := List.mem_singleton.mp h
    exact hc
  | cons x v ih =>
    rw [splitChars] at h
    split_ifs at h
    · rcases List.mem_cons.mp h with rfl | h
      · cases hc
      · exact List.mem_cons_of_mem _ (ih h hc)
    · cases hsplit : splitChars sep v with
      | nil => exact absurd hsplit (splitChars_ne_nil v)
      | cons first parts =>
        rw [hsplit] at h ih
        rcases List.mem_cons.mp h with rfl | h
        · exact (List.mem_cons.mp hc).elim (fun heq => heq ▸ List.mem_cons_self)
            fun hc => List.mem_cons_of_mem _ (ih List.mem_cons_self hc)
        · exact List.mem_cons_of_mem _ (ih (List.mem_cons_of_mem _ h) hc)

theorem normalizeComponents_subset {parts kept result : List (List Char)}
    (h : normalizeComponents kept parts = some result) :
    ∀ part ∈ result, part ∈ kept ∨ part ∈ parts := by
  induction parts generalizing kept with
  | nil =>
    cases h
    exact fun part hpart => .inl (List.mem_reverse.mp hpart)
  | cons first parts ih =>
    unfold normalizeComponents at h
    split_ifs at h
    · exact fun part hpart => (ih h part hpart).imp_right (List.mem_cons_of_mem _)
    · cases kept with
      | nil => cases h
      | cons last kept =>
        exact fun part hpart =>
          (ih h part hpart).imp (List.mem_cons_of_mem _) (List.mem_cons_of_mem _)
    · intro part hpart
      rcases ih h part hpart with hkept | hparts
      · rcases List.mem_cons.mp hkept with rfl | hkept
        · exact .inr List.mem_cons_self
        · exact .inl hkept
      · exact .inr (List.mem_cons_of_mem _ hparts)

theorem repoopsParts_subset {parts result : List (List Char)}
    (h : RepoopsPath.parts parts = .ok result) : result ⊆ parts := by
  induction parts generalizing result with
  | nil =>
    cases h
    exact List.Subset.refl _
  | cons part parts ih =>
    rw [RepoopsPath.parts] at h
    split_ifs at h
    · exact List.subset_cons_of_subset _ (ih h)
    · cases hrest : RepoopsPath.parts parts with
      | error e => simp [hrest, Except.map] at h
      | ok rest =>
        simp only [hrest, Except.map, Except.ok.injEq] at h
        subst h
        exact List.cons_subset_cons _ (ih hrest)

/-- A text of parts that have no backslash has none. -/
theorem notMem_joinParts {parts : List (List Char)} (h : ∀ part ∈ parts, '\\' ∉ part) :
    '\\' ∉ (joinParts parts).toList := by
  rw [joinParts, String.toList_ofList]
  induction parts with
  | nil => simp [List.intercalate]
  | cons part parts ih =>
    obtain ⟨hpart, hparts⟩ := List.forall_mem_cons.mp h
    cases parts with
    | nil => simpa [List.intercalate] using hpart
    | cons next parts =>
      rw [List.intercalate_cons_cons]
      simp only [List.mem_append, not_or]
      exact ⟨⟨hpart, by decide⟩, ih hparts⟩

theorem notMem_slashed (v : List Char) :
    '\\' ∉ v.map fun c => if c = '\\' then '/' else c := by
  intro hmem
  obtain ⟨c, -, hc⟩ := List.mem_map.mp hmem
  split_ifs at hc with heq
  · exact absurd hc (by decide)
  · exact heq hc

theorem stripDotSlash_subset (v : List Char) : stripDotSlash v ⊆ v := by
  fun_induction stripDotSlash v with
  | case1 rest ih => exact fun c hc => List.mem_cons_of_mem _ (List.mem_cons_of_mem _ (ih hc))
  | case2 v => exact List.Subset.refl _

theorem normalizeRelativeRepoPath_plain {raw key : String}
    (h : normalizeRelativeRepoPath raw = .ok key) : '\\' ∉ key.toList := by
  simp only [normalizeRelativeRepoPath] at h
  split_ifs at h
  split at h
  · cases h
  · cases h
  · rename_i hnorm
    cases h
    refine notMem_joinParts fun part hpart hmem => notMem_slashed (trimChars raw.toList) ?_
    rcases normalizeComponents_subset hnorm part hpart with hnil | hsplit
    · cases hnil
    · exact mem_of_mem_splitChars hsplit hmem

theorem RepoopsPath.plain (path : RepoopsPath) : '\\' ∉ path.val.toList := by
  obtain ⟨raw, h⟩ := path.parsed
  simp only [RepoopsPath.normalize] at h
  split_ifs at h
  split at h
  · cases h
  · cases h
  · rename_i hnorm
    rw [← Except.ok.inj h]
    refine notMem_joinParts fun part hpart hmem => notMem_slashed (trimChars raw.toList) ?_
    exact stripDotSlash_subset _ ((List.dropWhile_sublist _).subset
      (mem_of_mem_splitChars (repoopsParts_subset hnorm hpart) hmem))

end Covey

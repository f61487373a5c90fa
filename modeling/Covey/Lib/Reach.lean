import Mathlib.Data.Finset.Card
import Mathlib.Data.Fintype.Card
import Mathlib.Data.List.Basic
import Mathlib.Logic.Relation

/-!
# Reachability along a finite list of edges

A recursive query follows edges round by round. Over a finite list of edges a
bounded number of rounds reaches everything that is reachable at all.

* `Path`: paths with their lengths.
* `mem_rounds`: `n` rounds reach the ends of the paths of length one to `n`.
* `mem_rounds_length`: as many rounds as there are edges reach the transitive
  closure.
-/

namespace Reach

variable {α ρ : Type} {source target : ρ → α} {edges : List ρ} {x y z : α} {k n : ℕ}

/-- There is an edge from `x` to `y`. -/
def Edge (source target : ρ → α) (edges : List ρ) (x y : α) : Prop :=
  ∃ e ∈ edges, source e = x ∧ target e = y

/-- There is a path of length `k` from `x` to `y`. -/
def Path (source target : ρ → α) (edges : List ρ) : ℕ → α → α → Prop
  | 0, x, y => x = y
  | k + 1, x, y => ∃ z, Edge source target edges x z ∧ Path source target edges k z y

theorem path_succ : Path source target edges (k + 1) x y ↔
    ∃ z, Path source target edges k x z ∧ Edge source target edges z y := by
  induction k generalizing x with
  | zero =>
    constructor
    · rintro ⟨z, hedge, rfl⟩
      exact ⟨x, rfl, hedge⟩
    · rintro ⟨z, rfl, hedge⟩
      exact ⟨y, hedge, rfl⟩
  | succ k ih =>
    constructor
    · rintro ⟨z, hedge, hpath⟩
      obtain ⟨u, hpath, hlast⟩ := ih.mp hpath
      exact ⟨u, ⟨z, hedge, hpath⟩, hlast⟩
    · rintro ⟨u, ⟨z, hedge, hpath⟩, hlast⟩
      exact ⟨z, hedge, ih.mpr ⟨u, hpath, hlast⟩⟩

theorem transGen_iff_path : Relation.TransGen (Edge source target edges) x y ↔
    ∃ k, Path source target edges (k + 1) x y := by
  constructor
  · intro h
    induction h with
    | single hedge => exact ⟨0, _, hedge, rfl⟩
    | tail _ hedge ih =>
      obtain ⟨k, hpath⟩ := ih
      exact ⟨k + 1, path_succ.mpr ⟨_, hpath, hedge⟩⟩
  · rintro ⟨k, hpath⟩
    induction k generalizing y with
    | zero =>
      obtain ⟨z, hedge, rfl⟩ := hpath
      exact .single hedge
    | succ k ih =>
      obtain ⟨z, hpath, hedge⟩ := path_succ.mp hpath
      exact .tail (ih hpath) hedge

/-! ## Shortest paths -/

/-- The shortest path from `x` to `y` has length `k + 1`. -/
def Shortest (source target : ρ → α) (edges : List ρ) (x y : α) (k : ℕ) : Prop :=
  Path source target edges (k + 1) x y ∧ ∀ j < k, ¬Path source target edges (j + 1) x y

theorem exists_shortest (h : Path source target edges (k + 1) x y) :
    ∃ j ≤ k, Shortest source target edges x y j := by
  induction k using Nat.strong_induction_on with
  | _ k ih =>
    by_cases hmin : ∀ j < k, ¬Path source target edges (j + 1) x y
    · exact ⟨k, le_refl k, h, hmin⟩
    · push Not at hmin
      obtain ⟨j, hj, hpath⟩ := hmin
      obtain ⟨i, hi, hshort⟩ := ih j hj hpath
      exact ⟨i, by omega, hshort⟩

/-- On the way to the end of a shortest path there is a node at every smaller distance. -/
theorem Shortest.earlier (h : Shortest source target edges x y k) {j : ℕ} (hj : j ≤ k) :
    ∃ z, Shortest source target edges x z j := by
  induction k generalizing y with
  | zero =>
    obtain rfl : j = 0 := by omega
    exact ⟨y, h⟩
  | succ k ih =>
    by_cases hlast : j = k + 1
    · exact ⟨y, hlast ▸ h⟩
    · obtain ⟨z, hpath, hedge⟩ := path_succ.mp h.1
      refine ih (y := z) ⟨hpath, fun i hi hshort => ?_⟩ (by omega)
      exact h.2 (i + 1) (by omega) (path_succ.mpr ⟨z, hshort, hedge⟩)

theorem Shortest.length_unique {j : ℕ} (h : Shortest source target edges x y k)
    (h' : Shortest source target edges x y j) : k = j := by
  rcases Nat.lt_trichotomy k j with hlt | heq | hlt
  · exact absurd h.1 (h'.2 k hlt)
  · exact heq
  · exact absurd h'.1 (h.2 j hlt)

/-- A shortest path takes every edge once at most. -/
theorem Shortest.lt_length [DecidableEq α] (h : Shortest source target edges x y k) :
    k < edges.length := by
  choose f hf using fun j : Fin (k + 1) => h.earlier (Nat.le_of_lt_succ j.isLt)
  have hinj : Function.Injective f := by
    intro i j hij
    have hi := hf i
    rw [hij] at hi
    exact Fin.ext (hi.length_unique (hf j))
  have hmem : ∀ j, f j ∈ (edges.map target).toFinset := by
    intro j
    obtain ⟨z, -, e, he, -, htarget⟩ := path_succ.mp (hf j).1
    exact List.mem_toFinset.mpr (List.mem_map.mpr ⟨e, he, htarget⟩)
  have hcard : (Finset.univ.image f).card ≤ (edges.map target).toFinset.card :=
    Finset.card_le_card fun v hv => by
      obtain ⟨j, -, rfl⟩ := Finset.mem_image.mp hv
      exact hmem j
  rw [Finset.card_image_of_injective _ hinj, Finset.card_univ, Fintype.card_fin] at hcard
  have hlen := List.toFinset_card_le (edges.map target)
  rw [List.length_map] at hlen
  omega

/-! ## Rounds -/

variable [DecidableEq α] {nodes : List α}

/-- The targets of the edges out of the given nodes. -/
def hop (source target : ρ → α) (edges : List ρ) (nodes : List α) : List α :=
  (edges.filter fun e => source e ∈ nodes).map target

/-- What the edges lead to from the given nodes in one to `n` rounds. -/
def rounds (source target : ρ → α) (edges : List ρ) : ℕ → List α → List α
  | 0, _ => []
  | n + 1, nodes =>
    let next := hop source target edges nodes
    next ++ rounds source target edges n next

theorem mem_hop : y ∈ hop source target edges nodes ↔
    ∃ x ∈ nodes, Edge source target edges x y := by
  simp only [hop, Edge, List.mem_map, List.mem_filter, decide_eq_true_eq]
  constructor
  · rintro ⟨e, ⟨he, hsource⟩, htarget⟩
    exact ⟨source e, hsource, e, he, rfl, htarget⟩
  · rintro ⟨x, hx, e, he, rfl, htarget⟩
    exact ⟨e, ⟨he, hx⟩, htarget⟩

theorem mem_rounds : y ∈ rounds source target edges n nodes ↔
    ∃ k < n, ∃ x ∈ nodes, Path source target edges (k + 1) x y := by
  induction n generalizing nodes with
  | zero => simp [rounds]
  | succ n ih =>
    simp only [rounds, List.mem_append, ih, mem_hop]
    constructor
    · rintro (⟨x, hx, hedge⟩ | ⟨k, hk, z, ⟨x, hx, hedge⟩, hpath⟩)
      · exact ⟨0, by omega, x, hx, y, hedge, rfl⟩
      · exact ⟨k + 1, by omega, x, hx, z, hedge, hpath⟩
    · rintro ⟨k, hk, x, hx, z, hedge, hpath⟩
      cases k with
      | zero =>
        obtain rfl : z = y := hpath
        exact .inl ⟨x, hx, hedge⟩
      | succ k => exact .inr ⟨k, by omega, z, ⟨x, hx, hedge⟩, hpath⟩

/-- As many rounds as there are edges reach everything. -/
theorem mem_rounds_length : y ∈ rounds source target edges edges.length [x] ↔
    Relation.TransGen (Edge source target edges) x y := by
  rw [mem_rounds, transGen_iff_path]
  constructor
  · rintro ⟨k, -, u, hu, hpath⟩
    obtain rfl := List.mem_singleton.mp hu
    exact ⟨k, hpath⟩
  · rintro ⟨k, hpath⟩
    obtain ⟨j, -, hshort⟩ := exists_shortest hpath
    exact ⟨j, hshort.lt_length, x, List.mem_singleton_self x, hshort.1⟩

end Reach

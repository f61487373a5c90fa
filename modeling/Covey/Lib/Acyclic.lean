import Mathlib.Data.Set.Basic
import Mathlib.Logic.Relation

/-!
# Acyclic relations

A graph that grows by one node at a time, each new node pointing at old ones only, stays
acyclic; so does a graph in which the edges out of a closed set of nodes are replaced by
acyclic edges inside that set.

* `Acyclic.of_rank`, `Acyclic.of_map`: acyclicity from another order or graph.
* `Acyclic.extend`: a new node.
* `Acyclic.replace`: new edges inside a set of nodes.
* `WellFounded.extend`: a well-founded relation stays so with a new node.
-/

open Relation

variable {α β γ : Type} {r r' g : α → α → Prop}

/-- No element is reached from itself. -/
def Acyclic (r : α → α → Prop) : Prop := ∀ x, ¬TransGen r x x

namespace Acyclic

/-- A relation along which some rank goes down has no cycle. -/
theorem of_rank (rank : α → ℕ) (h : ∀ a b, r a b → rank b < rank a) : Acyclic r := by
  have hlt : ∀ {a b}, TransGen r a b → rank b < rank a := by
    intro a b hab
    induction hab with
    | single hstep => exact h _ _ hstep
    | tail _ hstep ih => exact (h _ _ hstep).trans ih
  exact fun x hx => (hlt hx).false

/-- A copy of an acyclic relation under other names is acyclic. -/
theorem of_map {q : β → β → Prop} {e : α → γ} {f : β → γ} (hf : Function.Injective f)
    (h : ∀ a b, r a b → ∃ x y, e a = f x ∧ e b = f y ∧ q x y) (hq : Acyclic q) : Acyclic r := by
  have hcopy : ∀ {a b}, TransGen r a b → ∃ x y, e a = f x ∧ e b = f y ∧ TransGen q x y := by
    intro a b hab
    induction hab with
    | single hstep =>
      obtain ⟨x, y, hx, hy, hxy⟩ := h _ _ hstep
      exact ⟨x, y, hx, hy, .single hxy⟩
    | tail _ hstep ih =>
      obtain ⟨x, y, hx, hy, hxy⟩ := ih
      obtain ⟨y', z, hy', hz, hyz⟩ := h _ _ hstep
      obtain rfl : y = y' := hf (hy.symm.trans hy')
      exact ⟨x, z, hx, hz, .tail hxy hyz⟩
  intro a ha
  obtain ⟨x, y, hx, hy, hxy⟩ := hcopy ha
  obtain rfl : x = y := hf (hx.symm.trans hy)
  exact hq x hxy

/-- Edges out of a node that no edge leads to close no cycle. -/
theorem extend {n : α} (h : Acyclic r) (hnew : ∀ a b, r' a b → r a b ∨ a = n)
    (hsource : ∀ a, ¬r' a n) : Acyclic r' := by
  have hne : ∀ {a b}, TransGen r' a b → b ≠ n := by
    rintro a b hab rfl
    obtain ⟨c, -, hcb⟩ := TransGen.tail'_iff.mp hab
    exact hsource c hcb
  have hold : ∀ {a b}, TransGen r' a b → a ≠ n → TransGen r a b := by
    intro a b hab ha
    induction hab with
    | single hstep => exact .single ((hnew _ _ hstep).resolve_right ha)
    | tail hpath hstep ih => exact .tail ih ((hnew _ _ hstep).resolve_right (hne hpath))
  exact fun x hx => h x (hold hx (hne hx))

/-- The edges out of the nodes `C` are replaced by acyclic edges inside `C`. -/
theorem replace {C : Set α} (h : Acyclic r) (hg : Acyclic g) (hC : ∀ a b, g a b → a ∈ C ∧ b ∈ C)
    (hnew : ∀ a b, r' a b → r a b ∧ a ∉ C ∨ g a b) : Acyclic r' := by
  -- a path that starts in `C` never leaves it
  have hinside : ∀ {a b}, TransGen r' a b → a ∈ C → b ∈ C ∧ TransGen g a b := by
    intro a b hab ha
    induction hab with
    | single hstep =>
      rcases hnew _ _ hstep with ⟨-, hout⟩ | hstep
      · exact absurd ha hout
      · exact ⟨(hC _ _ hstep).2, .single hstep⟩
    | tail _ hstep ih =>
      rcases hnew _ _ hstep with ⟨-, hout⟩ | hstep
      · exact absurd ih.1 hout
      · exact ⟨(hC _ _ hstep).2, .tail ih.2 hstep⟩
  -- so a path that ends outside never enters it
  have houtside : ∀ {a b}, TransGen r' a b → b ∉ C → TransGen r a b := by
    intro a b hab hb
    induction hab with
    | single hstep =>
      rcases hnew _ _ hstep with ⟨hstep, -⟩ | hstep
      · exact .single hstep
      · exact absurd (hC _ _ hstep).2 hb
    | tail hpath hstep ih =>
      rcases hnew _ _ hstep with ⟨hstep, hout⟩ | hstep
      · exact .tail (ih hout) hstep
      · exact absurd (hC _ _ hstep).2 hb
  intro x hx
  by_cases hmem : x ∈ C
  · exact hg x (hinside hx hmem).2
  · exact h x (houtside hx hmem)

end Acyclic

/-- New edges into a node from which none leads away leave a well-founded relation well-founded. -/
theorem WellFounded.extend {n : α} (h : WellFounded r) (hnew : ∀ a b, r' a b → r a b ∨ b = n)
    (hleaf : ∀ b, ¬r' n b) : WellFounded r' := by
  have hold : ∀ b, b ≠ n → Acc r' b := by
    intro b
    induction b using h.induction with
    | _ b ih =>
      intro hb
      refine ⟨b, fun a hab => ih a ((hnew a b hab).resolve_right hb) ?_⟩
      rintro rfl
      exact hleaf b hab
  refine ⟨fun b => ?_⟩
  by_cases hb : b = n
  · subst hb
    refine ⟨b, fun a hab => hold a ?_⟩
    rintro rfl
    exact hleaf a hab
  · exact hold b hb

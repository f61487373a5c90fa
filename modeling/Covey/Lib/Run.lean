import Mathlib.Data.List.Basic
import Mathlib.Order.Basic

/-!
# Runs of a transition function

`after step s l` is the state that the inputs `l` lead to from `s`, and
`Along step P s l` says that every input meets the guard `P` in the state in
which it arrives.

* `invariant`: what every guarded step keeps, every guarded run keeps.
* `invariant_timed`: the same for a property that refers to the time of the last
  input, along inputs whose times do not go back.
* `exists_entering`: a property that holds in the end and not in the beginning is
  brought about by one of the inputs.
-/

namespace Run

variable {σ ι : Type} {step : σ → ι → σ} {P Q : σ → ι → Prop} {s : σ} {i : ι} {l l' : List ι}

/-- The state after the inputs `l`. -/
def after (step : σ → ι → σ) (s : σ) (l : List ι) : σ := l.foldl step s

/-- Every input meets the guard in the state in which it arrives. -/
def Along (step : σ → ι → σ) (P : σ → ι → Prop) : σ → List ι → Prop
  | _, [] => True
  | s, i :: l => P s i ∧ Along step P (step s i) l

instance Along.decidable [∀ s i, Decidable (P s i)] :
    ∀ (s : σ) (l : List ι), Decidable (Along step P s l)
  | _, [] => .isTrue trivial
  | s, i :: l => @instDecidableAnd _ _ _ (Along.decidable (step s i) l)

@[simp] theorem after_nil : after step s [] = s := rfl

@[simp] theorem after_cons : after step s (i :: l) = after step (step s i) l := rfl

theorem after_append : after step s (l ++ l') = after step (after step s l) l' := List.foldl_append

@[simp] theorem along_nil : Along step P s [] := trivial

@[simp] theorem along_cons : Along step P s (i :: l) ↔ P s i ∧ Along step P (step s i) l := Iff.rfl

theorem along_append :
    Along step P s (l ++ l') ↔ Along step P s l ∧ Along step P (after step s l) l' := by
  induction l generalizing s with
  | nil => simp
  | cons i l ih => simp [ih, and_assoc]

theorem after_concat : after step s (l ++ [i]) = step (after step s l) i := after_append

/-- A guard along a run is a guard at every input. -/
theorem along_iff :
    Along step P s l ↔ ∀ before i rest, l = before ++ i :: rest → P (after step s before) i := by
  constructor
  · rintro h before i rest rfl
    exact (along_append.mp h).2.1
  · intro h
    induction l generalizing s with
    | nil => trivial
    | cons i l ih =>
      refine ⟨h [] i l rfl, ih fun before j rest hl => h (i :: before) j rest ?_⟩
      rw [hl, List.cons_append]

theorem Along.and (h : Along step P s l) (h' : Along step Q s l) :
    Along step (fun s i => P s i ∧ Q s i) s l :=
  along_iff.mpr fun before i rest hl =>
    ⟨along_iff.mp h before i rest hl, along_iff.mp h' before i rest hl⟩

theorem Along.mono (hPQ : ∀ s i, P s i → Q s i) (h : Along step P s l) : Along step Q s l := by
  induction l generalizing s with
  | nil => trivial
  | cons i l ih => exact ⟨hPQ s i h.1, ih h.2⟩

/-- What every guarded step keeps, every guarded run keeps. -/
theorem invariant {I : σ → Prop} (hstep : ∀ s i, P s i → I s → I (step s i))
    (hl : Along step P s l) (hs : I s) : I (after step s l) := by
  induction l generalizing s with
  | nil => exact hs
  | cons i l ih => exact ih hl.2 (hstep s i hl.1 hs)

/-- What every step keeps, every run keeps. -/
theorem invariant_always {I : σ → Prop} (hstep : ∀ s i, I s → I (step s i)) (hs : I s) :
    I (after step s l) :=
  invariant (P := fun _ _ => True) (fun s i _ => hstep s i)
    (along_iff.mpr fun _ _ _ _ => trivial) hs

/-- The same for a property of the state and the time, along inputs that come in order. -/
theorem invariant_timed {τ : Type} [Preorder τ] {time : ι → τ} {I : τ → σ → Prop}
    (hmono : ∀ t t' s, t ≤ t' → I t s → I t' s)
    (hstep : ∀ s i, P s i → I (time i) s → I (time i) (step s i)) (hl : Along step P s l)
    (horder : l.Pairwise fun i j => time i ≤ time j) {t : τ} (ht : ∀ i ∈ l, t ≤ time i)
    (hs : I t s) : ∃ t', (∀ i ∈ l, time i ≤ t') ∧ t ≤ t' ∧ I t' (after step s l) := by
  induction l generalizing s t with
  | nil => exact ⟨t, by simp, le_refl t, hs⟩
  | cons i l ih =>
    have hi : t ≤ time i := ht i List.mem_cons_self
    obtain ⟨hfirst, hrest⟩ := List.pairwise_cons.mp horder
    obtain ⟨t', hlast, hle, h⟩ :=
      ih hl.2 hrest hfirst (hstep s i hl.1 (hmono t (time i) s hi hs))
    refine ⟨t', fun j hj => ?_, le_trans hi hle, h⟩
    rcases List.mem_cons.mp hj with rfl | hj
    · exact hle
    · exact hlast j hj

/-- What holds in the end and not in the beginning is brought about by one of the inputs. -/
theorem exists_entering {I : σ → Prop} (hs : ¬I s) (h : I (after step s l)) :
    ∃ before i rest, l = before ++ i :: rest ∧ ¬I (after step s before) ∧
      I (step (after step s before) i) := by
  induction l generalizing s with
  | nil => exact absurd h hs
  | cons i l ih =>
    by_cases hi : I (step s i)
    · exact ⟨[], i, l, rfl, hs, hi⟩
    · obtain ⟨before, j, rest, rfl, hbefore, hj⟩ := ih hi h
      exact ⟨i :: before, j, rest, rfl, hbefore, hj⟩

end Run

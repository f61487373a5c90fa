import Covey.Lib.Tx

/-!
# What a transaction body leaves alone

`Within R x` says that whatever `x` does, and whether it succeeds or fails, it takes
every state to one related by `R`. For a preorder `R` the constructs of a
transaction body compose, so that a footprint of a body is read off its statements.

* `Within.bind`, `Within.forEach`, `Within.catchError`, …: one rule per construct.
* `Within.run`: what a run of the body gives.
* `FailsWithin`: the same of the failing runs only.
* `Preserves I`: the preorder of an invariant.
-/

open Relational

namespace Tx

variable {σ ε α β κ ρ : Type} {R : σ → σ → Prop}

/-- Every run of `x`, failed or not, takes a state to one related by `R`. -/
def Within (R : σ → σ → Prop) (x : Tx σ ε α) : Prop := ∀ s, R s (x s).2

theorem Within.run {x : Tx σ ε α} (hx : Within R x) {s s' : σ} {r : Except ε α}
    (h : x s = (r, s')) : R s s' := by
  have := hx s
  rwa [h] at this

theorem Within.mono {R' : σ → σ → Prop} {x : Tx σ ε α} (hR : ∀ s s', R s s' → R' s s')
    (hx : Within R x) : Within R' x :=
  fun s => hR s _ (hx s)

theorem Within.of_readOnly [Std.Refl R] {x : Tx σ ε α} (hx : ReadOnly x) : Within R x := by
  intro s
  rw [hx s]
  exact refl s

theorem Within.pure [Std.Refl R] (a : α) : Within R (pure a : Tx σ ε α) := fun s => refl s

theorem Within.get [Std.Refl R] : Within R (Tx.get : Tx σ ε σ) := fun s => refl s

theorem Within.fail [Std.Refl R] (e : ε) : Within R (Tx.fail e : Tx σ ε α) := fun s => refl s

theorem Within.lift [Std.Refl R] (x : Except ε α) : Within R (liftM x : Tx σ ε α) := fun s => refl s

theorem Within.ensure [Std.Refl R] (c : Prop) [Decidable c] (e : ε) :
    Within R (ensure c e : Tx σ ε Unit) :=
  .of_readOnly (.ensure c e)

theorem Within.modify {f : σ → σ} (hf : ∀ s, R s (f s)) : Within R (modify f : Tx σ ε Unit) := hf

theorem Within.bind [IsTrans σ R] {x : Tx σ ε α} {f : α → Tx σ ε β} (hx : Within R x)
    (hf : ∀ a, Within R (f a)) : Within R (x >>= f) := by
  intro s
  cases h : (x >>= f) s with
  | mk r s'' =>
    cases r with
    | ok b =>
      obtain ⟨a, s', hfirst, hrest⟩ := bind_ok.mp h
      exact IsTrans.trans _ _ _ (hx.run hfirst) ((hf a).run hrest)
    | error e =>
      rcases bind_error.mp h with hfirst | ⟨a, s', hfirst, hrest⟩
      · exact hx.run hfirst
      · exact IsTrans.trans _ _ _ (hx.run hfirst) ((hf a).run hrest)

theorem Within.whenever [Std.Refl R] {c : Prop} [Decidable c] {x : Tx σ ε Unit}
    (hx : c → Within R x) : Within R (whenever c x) := by
  unfold Tx.whenever
  split_ifs with h
  · exact hx h
  · exact .pure ()

theorem Within.forEach [Std.Refl R] [IsTrans σ R] {f : α → Tx σ ε Unit}
    (hf : ∀ a, Within R (f a)) : ∀ l : List α, Within R (Tx.forEach l f)
  | [] => .pure ()
  | a :: l => .bind (hf a) fun _ => Within.forEach hf l

theorem Within.mapEach [Std.Refl R] [IsTrans σ R] {f : α → Tx σ ε β}
    (hf : ∀ a, Within R (f a)) : ∀ l : List α, Within R (Tx.mapEach l f)
  | [] => .pure []
  | a :: l => .bind (hf a) fun _ => .bind (Within.mapEach hf l) fun _ => .pure _

theorem Within.catchError [IsTrans σ R] {x : Tx σ ε α} {f : ε → Tx σ ε α} (hx : Within R x)
    (hf : ∀ e, Within R (f e)) : Within R (catchError x f) := by
  intro s
  unfold Tx.catchError
  split
  · rename_i a s' h
    exact hx.run h
  · rename_i e s' h
    exact IsTrans.trans _ _ _ (hx.run h) (hf e s')

section Statements

variable [DecidableEq κ] {S : Schema κ ρ} [Std.Refl R]

theorem Within.insert {violation : ε} {T : Field σ S} (hT : ∀ s t, R s (T.set s t)) (r : ρ) :
    Within R (insert violation T r) := by
  intro s
  unfold Tx.insert
  split
  · exact hT s _
  · exact refl s

theorem Within.update {violation : ε} {T : Field σ S} (hT : ∀ s t, R s (T.set s t))
    (p : ρ → Prop) [DecidablePred p] (f : ρ → ρ) : Within R (update violation T p f) := by
  intro s
  unfold Tx.update
  split
  · exact hT s _
  · exact refl s

omit [Std.Refl R] in
theorem Within.delete {T : Field σ S} (hT : ∀ s t, R s (T.set s t)) (p : ρ → Prop)
    [DecidablePred p] : Within R (delete T p : Tx σ ε Unit) :=
  fun s => hT s _

end Statements

theorem Within.keeps {x : Tx σ ε α} (hx : Within R x) : Keeps R x := fun _ _ _ h => hx.run h

/-- If the invariant holds before, it holds after. -/
def Preserves (I : σ → Prop) (s s' : σ) : Prop := I s → I s'

instance (I : σ → Prop) : Std.Refl (Preserves I) := ⟨fun _ => id⟩

instance (I : σ → Prop) : IsTrans σ (Preserves I) := ⟨fun _ _ _ h h' => h' ∘ h⟩

end Tx

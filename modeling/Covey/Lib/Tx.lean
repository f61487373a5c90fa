import Covey.Lib.Table
import Mathlib.Logic.Unique

/-!
# Transaction bodies

`Tx σ ε α` is a computation inside an open transaction: it reads and writes the
state `σ`, may fail with `ε`, and what it wrote before failing stays visible to
a caller that handles the error. `Tx.commit` closes the transaction: a failure
rolls everything back.

The lemmas ending in `_ok` invert a successful run one construct at a time, so
that `simp only [Tx.bind_ok, …] at h` turns a run of a `do` block into the
facts its guards established and the states its statements produced.
-/

open Relational

/-- What a list of fallible conversions yields is the results of its elements. -/
theorem mem_of_mapM {α β ε : Type} {f : α → Except ε β} {l : List α} {l' : List β} {b : β}
    (h : l.mapM f = .ok l') : b ∈ l' ↔ ∃ a ∈ l, f a = .ok b := by
  induction l generalizing l' with
  | nil =>
    cases h
    simp
  | cons a l ih =>
    rw [List.mapM_cons] at h
    cases ha : f a with
    | error e => simp [ha, bind, Except.bind] at h
    | ok b' =>
      cases hl : l.mapM f with
      | error e => simp [ha, hl, bind, Except.bind] at h
      | ok rest =>
        simp only [ha, hl, bind, Except.bind, pure, Except.pure, Except.ok.injEq] at h
        subst h
        rw [List.mem_cons, ih hl, List.exists_mem_cons_iff, ha, Except.ok.injEq, eq_comm]

theorem ok_of_mapM {α β ε : Type} {f : α → Except ε β} {l : List α} {l' : List β}
    (h : l.mapM f = .ok l') : ∀ a ∈ l, ∃ b, f a = .ok b := by
  induction l generalizing l' with
  | nil => simp
  | cons a l ih =>
    rw [List.mapM_cons] at h
    cases ha : f a with
    | error e => simp [ha, bind, Except.bind] at h
    | ok b =>
      cases hl : l.mapM f with
      | error e => simp [ha, hl, bind, Except.bind] at h
      | ok rest => exact List.forall_mem_cons.mpr ⟨⟨b, ha⟩, ih hl⟩

/-- A transaction body. -/
def Tx (σ ε α : Type) : Type := σ → Except ε α × σ

namespace Tx

variable {σ ε α β κ ρ : Type}

instance : Monad (Tx σ ε) where
  pure a := fun s => (.ok a, s)
  bind x f := fun s =>
    match x s with
    | (.ok a, s') => f a s'
    | (.error e, s') => (.error e, s')

/-- The current state. -/
def get : Tx σ ε σ := fun s => (.ok s, s)

/-- Replaces the state. -/
def modify (f : σ → σ) : Tx σ ε Unit := fun s => (.ok (), f s)

/-- Fails, keeping the state as it is. -/
def fail (e : ε) : Tx σ ε α := fun s => (.error e, s)

/-- A computation that reads no state. -/
def lift (x : Except ε α) : Tx σ ε α := fun s => (x, s)

instance : MonadLift (Except ε) (Tx σ ε) := ⟨lift⟩

/-- Fails with `e` unless `c` holds. -/
def ensure (c : Prop) [Decidable c] (e : ε) : Tx σ ε Unit := if c then pure () else fail e

/-- Runs `x` when `c` holds and does nothing otherwise. -/
def whenever (c : Prop) [Decidable c] (x : Tx σ ε Unit) : Tx σ ε Unit := if c then x else pure ()

/-- Runs `x`; an error is handed to `f` together with the state it left. -/
def catchError (x : Tx σ ε α) (f : ε → Tx σ ε α) : Tx σ ε α := fun s =>
  match x s with
  | (.ok a, s') => (.ok a, s')
  | (.error e, s') => f e s'

/-- Runs `f` on every element of the list, in order. -/
def forEach (l : List α) (f : α → Tx σ ε Unit) : Tx σ ε Unit :=
  match l with
  | [] => pure ()
  | a :: l => do f a; forEach l f

/-- Runs `f` on every element of the list, in order, and collects the results. -/
def mapEach (l : List α) (f : α → Tx σ ε β) : Tx σ ε (List β) :=
  match l with
  | [] => pure []
  | a :: l => do
    let b ← f a
    let bs ← mapEach l f
    pure (b :: bs)

/-- Commits a successful run and rolls a failed one back. -/
def commit (x : Tx σ ε α) (s : σ) : Except ε α × σ :=
  match x s with
  | (.ok a, s') => (.ok a, s')
  | (.error e, _) => (.error e, s)

/-! ## Statements -/

/-- Where a table lives in the state. -/
structure Field (σ : Type) [DecidableEq κ] (S : Schema κ ρ) where
  get : σ → Table S
  set : σ → Table S → σ

section Statements

variable [DecidableEq κ] {S : Schema κ ρ}

/-- `INSERT`; `violation` is the error of a broken constraint. -/
def insert (violation : ε) (T : Field σ S) (r : ρ) : Tx σ ε Unit := fun s =>
  match (T.get s).insert r with
  | some t => (.ok (), T.set s t)
  | none => (.error violation, s)

/-- `UPDATE … SET f WHERE p`, returning the number of rows it applied to. -/
def update (violation : ε) (T : Field σ S) (p : ρ → Prop) [DecidablePred p] (f : ρ → ρ) :
    Tx σ ε ℕ := fun s =>
  match (T.get s).update p f with
  | some t => (.ok ((T.get s).count p), T.set s t)
  | none => (.error violation, s)

/-- `DELETE … WHERE p`. -/
def delete (T : Field σ S) (p : ρ → Prop) [DecidablePred p] : Tx σ ε Unit := fun s =>
  (.ok (), T.set s ((T.get s).delete p))

end Statements

/-! ## Inverting a successful run -/

/-- A statement returns nothing, so its result need not be named. -/
theorem exists_unit {p : Unit → Prop} : (∃ u, p u) ↔ p () := Unique.exists_iff

@[simp] theorem bind_ok {x : Tx σ ε α} {f : α → Tx σ ε β} {s s'' : σ} {b : β} :
    (x >>= f) s = (.ok b, s'') ↔ ∃ a s', x s = (.ok a, s') ∧ f a s' = (.ok b, s'') := by
  show (match x s with
    | (.ok a, s') => f a s'
    | (.error e, s') => (.error e, s')) = _ ↔ _
  split
  · rename_i a s' h
    simp [h]
  · rename_i e s' h
    simp [h]

/-- A step that succeeds hands its value and its state on. -/
theorem bind_of_ok {x : Tx σ ε α} {f : α → Tx σ ε β} {s s' : σ} {a : α} (h : x s = (.ok a, s')) :
    (x >>= f) s = f a s' := by
  show (match x s with
    | (.ok a, s') => f a s'
    | (.error e, s') => (.error e, s')) = f a s'
  rw [h]

/-- A check that passes does nothing. -/
theorem lift_bind {a : α} {f : α → Tx σ ε β} :
    ((liftM (Except.ok a : Except ε α) : Tx σ ε α) >>= f) = f a := rfl

@[simp] theorem pure_ok {a b : α} {s s' : σ} :
    (pure a : Tx σ ε α) s = (.ok b, s') ↔ a = b ∧ s = s' := by
  show ((.ok a, s) : Except ε α × σ) = _ ↔ _
  simp

@[simp] theorem get_ok {a s s' : σ} :
    (get : Tx σ ε σ) s = (.ok a, s') ↔ s = a ∧ s = s' := by
  simp [get]

@[simp] theorem modify_ok {f : σ → σ} {s s' : σ} {u : Unit} :
    (modify f : Tx σ ε Unit) s = (.ok u, s') ↔ f s = s' := by
  simp [modify]

@[simp] theorem fail_ok {e : ε} {a : α} {s s' : σ} :
    (fail e : Tx σ ε α) s = (.ok a, s') ↔ False := by
  simp [fail]

@[simp] theorem ensure_ok {c : Prop} [Decidable c] {e : ε} {s s' : σ} {u : Unit} :
    ensure c e s = (.ok u, s') ↔ c ∧ s = s' := by
  unfold ensure
  split_ifs with h <;> simp [h]

theorem whenever_ok {c : Prop} [Decidable c] {x : Tx σ ε Unit} {s s' : σ} {u : Unit} :
    whenever c x s = (.ok u, s') ↔ (c ∧ x s = (.ok u, s')) ∨ (¬c ∧ s = s') := by
  unfold whenever
  split_ifs with h <;> simp [h]

@[simp] theorem lift_ok {x : Except ε α} {a : α} {s s' : σ} :
    (liftM x : Tx σ ε α) s = (.ok a, s') ↔ x = .ok a ∧ s = s' := by
  show ((x, s) : Except ε α × σ) = _ ↔ _
  simp

/-- A check of an optional value. -/
@[simp] theorem option_forM_ok {o : Option α} {f : α → Except ε Unit} {s s' : σ} {u : Unit} :
    (o.forM fun a => (liftM (f a) : Tx σ ε Unit)) s = (.ok u, s') ↔
      (∀ a, o = some a → f a = .ok ()) ∧ s = s' := by
  cases o with
  | none =>
    show (pure () : Tx σ ε Unit) s = _ ↔ _
    simp
  | some a =>
    show (liftM (f a) : Tx σ ε Unit) s = _ ↔ _
    simp

@[simp] theorem forEach_nil {f : α → Tx σ ε Unit} {s : σ} : forEach [] f s = (.ok (), s) := rfl

@[simp] theorem forEach_cons_ok {a : α} {l : List α} {f : α → Tx σ ε Unit} {s s'' : σ} {u : Unit} :
    forEach (a :: l) f s = (.ok u, s'') ↔
      ∃ s', f a s = (.ok (), s') ∧ forEach l f s' = (.ok u, s'') := by
  simp only [forEach, bind_ok]
  exact ⟨fun ⟨(), s', h⟩ => ⟨s', h⟩, fun ⟨s', h⟩ => ⟨(), s', h⟩⟩

@[simp] theorem mapEach_nil {f : α → Tx σ ε β} {s s' : σ} {l' : List β} :
    mapEach [] f s = (.ok l', s') ↔ [] = l' ∧ s = s' :=
  pure_ok

@[simp] theorem mapEach_cons_ok {a : α} {l : List α} {f : α → Tx σ ε β} {s s'' : σ} {l' : List β} :
    mapEach (a :: l) f s = (.ok l', s'') ↔
      ∃ b s', f a s = (.ok b, s') ∧ ∃ bs, mapEach l f s' = (.ok bs, s'') ∧ b :: bs = l' := by
  simp only [mapEach, bind_ok, pure_ok]
  constructor
  · rintro ⟨b, s', hb, bs, _, hbs, rfl, rfl⟩
    exact ⟨b, s', hb, bs, hbs, rfl⟩
  · rintro ⟨b, s', hb, bs, hbs, rfl⟩
    exact ⟨b, s', hb, bs, s'', hbs, rfl, rfl⟩

/-- What every run of `f` guarantees of its result holds of all the results collected. -/
theorem mapEach_forall {P : β → Prop} {f : α → Tx σ ε β}
    (hf : ∀ {a s b s'}, f a s = (.ok b, s') → P b) {l : List α} {l' : List β} {s s' : σ}
    (h : mapEach l f s = (.ok l', s')) : ∀ b ∈ l', P b := by
  induction l generalizing s l' with
  | nil =>
    obtain ⟨rfl, -⟩ := mapEach_nil.mp h
    simp
  | cons a l ih =>
    obtain ⟨b, s₁, hb, bs, hbs, rfl⟩ := mapEach_cons_ok.mp h
    intro x hx
    rcases List.mem_cons.mp hx with rfl | hx
    · exact hf hb
    · exact ih hbs x hx

/-- Checking every element of a list without changing it. -/
theorem mapEach_lift_ok {f : α → Except ε α} (hval : ∀ {a b}, f a = .ok b → b = a) {l l' : List α}
    {s s' : σ} (h : mapEach l (fun a => (liftM (f a) : Tx σ ε α)) s = (.ok l', s')) :
    l' = l ∧ s' = s := by
  induction l generalizing l' with
  | nil =>
    obtain ⟨rfl, rfl⟩ := mapEach_nil.mp h
    exact ⟨rfl, rfl⟩
  | cons a l ih =>
    obtain ⟨b, _, hb, bs, hbs, rfl⟩ := mapEach_cons_ok.mp h
    obtain ⟨hfa, rfl⟩ := lift_ok.mp hb
    obtain ⟨rfl, rfl⟩ := ih hbs
    exact ⟨by rw [hval hfa], rfl⟩

/-- Such a loop goes through exactly if `f` accepts every element. -/
theorem mapEach_lift_iff {f : α → Except ε α} (hval : ∀ {a b}, f a = .ok b → b = a) {l : List α}
    {s : σ} : (∃ l' s', mapEach l (fun a => (liftM (f a) : Tx σ ε α)) s = (.ok l', s')) ↔
      ∀ a ∈ l, f a = .ok a := by
  induction l with
  | nil => simp
  | cons a l ih =>
    simp only [mapEach_cons_ok, lift_ok, List.forall_mem_cons, ← ih]
    constructor
    · rintro ⟨_, s', b, _, ⟨hb, rfl⟩, bs, hbs, -⟩
      obtain rfl := hval hb
      exact ⟨hb, bs, s', hbs⟩
    · rintro ⟨hb, bs, s', hbs⟩
      exact ⟨_, s', a, s, ⟨hb, rfl⟩, bs, hbs, rfl⟩

section Statements

variable [DecidableEq κ] {S : Schema κ ρ}

@[simp] theorem insert_ok {violation : ε} {T : Field σ S} {r : ρ} {s s' : σ} {u : Unit} :
    insert violation T r s = (.ok u, s') ↔ ∃ t, (T.get s).insert r = some t ∧ T.set s t = s' := by
  unfold insert
  cases (T.get s).insert r <;> simp

@[simp] theorem update_ok {violation : ε} {T : Field σ S} {p : ρ → Prop} [DecidablePred p]
    {f : ρ → ρ} {s s' : σ} {n : ℕ} :
    update violation T p f s = (.ok n, s') ↔
      ∃ t, (T.get s).update p f = some t ∧ (T.get s).count p = n ∧ T.set s t = s' := by
  unfold update
  cases (T.get s).update p f <;> simp

end Statements

theorem commit_ok {x : Tx σ ε α} {s s' : σ} {a : α} :
    commit x s = (.ok a, s') ↔ x s = (.ok a, s') := by
  unfold commit
  split
  · rename_i h; simp [h]
  · rename_i h; simp [h]

/-- A failed transaction leaves the state as it was. -/
theorem commit_error {x : Tx σ ε α} {s s' : σ} {e : ε} (h : commit x s = (.error e, s')) :
    s' = s := by
  unfold commit at h
  split at h
  · cases h
  · cases h; rfl

/-! ## Relations kept by a transaction -/

/-- Every successful run of `x` takes a state to one related by `R`. -/
def Keeps (R : σ → σ → Prop) (x : Tx σ ε α) : Prop := ∀ ⦃s a s'⦄, x s = (.ok a, s') → R s s'

section Keeps

variable {R : σ → σ → Prop}

theorem Keeps.mono {R' : σ → σ → Prop} {x : Tx σ ε α} (hR : ∀ s s', R s s' → R' s s')
    (h : Keeps R x) : Keeps R' x :=
  fun s _ s' hx => hR s s' (h hx)

theorem Keeps.fail (e : ε) : Keeps R (Tx.fail e : Tx σ ε α) := by
  intro s a s' h
  simp at h

theorem Keeps.pure [Std.Refl R] (a : α) : Keeps R (pure a : Tx σ ε α) := by
  intro s b s' h
  obtain ⟨-, rfl⟩ := pure_ok.mp h
  exact refl s

theorem Keeps.get [Std.Refl R] : Keeps R (Tx.get : Tx σ ε σ) := by
  intro s b s' h
  obtain ⟨-, rfl⟩ := get_ok.mp h
  exact refl s

theorem Keeps.lift [Std.Refl R] (x : Except ε α) : Keeps R (liftM x : Tx σ ε α) := by
  intro s a s' h
  obtain ⟨-, rfl⟩ := lift_ok.mp h
  exact refl s

theorem Keeps.ensure [Std.Refl R] (c : Prop) [Decidable c] (e : ε) :
    Keeps R (ensure c e : Tx σ ε Unit) := by
  intro s a s' h
  obtain ⟨-, rfl⟩ := ensure_ok.mp h
  exact refl s

theorem Keeps.bind [IsTrans σ R] {x : Tx σ ε α} {f : α → Tx σ ε β} (hx : Keeps R x)
    (hf : ∀ a, Keeps R (f a)) : Keeps R (x >>= f) := by
  intro s b s'' h
  obtain ⟨a, s', ha, hb⟩ := bind_ok.mp h
  exact IsTrans.trans _ _ _ (hx ha) (hf a hb)

theorem Keeps.whenever [Std.Refl R] {c : Prop} [Decidable c] {x : Tx σ ε Unit}
    (hx : c → Keeps R x) : Keeps R (whenever c x) := by
  intro s a s' h
  rcases whenever_ok.mp h with ⟨hc, h⟩ | ⟨-, rfl⟩
  · exact hx hc h
  · exact refl s

theorem Keeps.forEach [Std.Refl R] [IsTrans σ R] {f : α → Tx σ ε Unit} :
    ∀ {l : List α}, (∀ a ∈ l, Keeps R (f a)) → Keeps R (Tx.forEach l f)
  | [], _ => Keeps.pure ()
  | a :: _, h =>
    Keeps.bind (h a List.mem_cons_self) fun _ =>
      Keeps.forEach fun b hb => h b (List.mem_cons_of_mem a hb)

theorem Keeps.mapEach [Std.Refl R] [IsTrans σ R] {f : α → Tx σ ε β} :
    ∀ {l : List α}, (∀ a ∈ l, Keeps R (f a)) → Keeps R (Tx.mapEach l f)
  | [], _ => Keeps.pure []
  | a :: _, h =>
    Keeps.bind (h a List.mem_cons_self) fun _ =>
      Keeps.bind (Keeps.mapEach fun b hb => h b (List.mem_cons_of_mem a hb)) fun _ => Keeps.pure _

end Keeps

/-! ## Failing runs -/

theorem bind_error {x : Tx σ ε α} {f : α → Tx σ ε β} {s s'' : σ} {e : ε} :
    (x >>= f) s = (.error e, s'') ↔
      x s = (.error e, s'') ∨ ∃ a s', x s = (.ok a, s') ∧ f a s' = (.error e, s'') := by
  show (match x s with
    | (.ok a, s') => f a s'
    | (.error e, s') => (.error e, s')) = _ ↔ _
  split
  · rename_i a s' h
    simp [h]
  · rename_i e s' h
    simp [h]

theorem catchError_ok {x : Tx σ ε α} {f : ε → Tx σ ε α} {s s'' : σ} {a : α} :
    catchError x f s = (.ok a, s'') ↔
      x s = (.ok a, s'') ∨ ∃ e s', x s = (.error e, s') ∧ f e s' = (.ok a, s'') := by
  unfold catchError
  split
  · rename_i h
    simp [h]
  · rename_i h
    simp [h]

/-- `x` writes nothing, whether it fails or not. -/
def ReadOnly (x : Tx σ ε α) : Prop := ∀ s, (x s).2 = s

section ReadOnly

theorem ReadOnly.state {x : Tx σ ε α} (hx : ReadOnly x) {s s' : σ} {r : Except ε α}
    (h : x s = (r, s')) : s' = s := by
  have := hx s
  rwa [h] at this

theorem ReadOnly.pure (a : α) : ReadOnly (pure a : Tx σ ε α) := fun _ => rfl

theorem ReadOnly.get : ReadOnly (Tx.get : Tx σ ε σ) := fun _ => rfl

theorem ReadOnly.fail (e : ε) : ReadOnly (Tx.fail e : Tx σ ε α) := fun _ => rfl

theorem ReadOnly.lift (x : Except ε α) : ReadOnly (liftM x : Tx σ ε α) := fun _ => rfl

theorem ReadOnly.ensure (c : Prop) [Decidable c] (e : ε) :
    ReadOnly (ensure c e : Tx σ ε Unit) := by
  unfold Tx.ensure
  split_ifs
  · exact .pure ()
  · exact .fail e

theorem ReadOnly.bind {x : Tx σ ε α} {f : α → Tx σ ε β} (hx : ReadOnly x)
    (hf : ∀ a, ReadOnly (f a)) : ReadOnly (x >>= f) := by
  intro s
  show (match x s with
    | (.ok a, s') => f a s'
    | (.error e, s') => (.error e, s')).2 = s
  split
  · rename_i a s' h
    rw [hf a s', hx.state h]
  · rename_i e s' h
    exact hx.state h

theorem ReadOnly.mapEach {f : α → Tx σ ε β} (hf : ∀ a, ReadOnly (f a)) :
    ∀ l : List α, ReadOnly (Tx.mapEach l f)
  | [] => .pure []
  | a :: l => .bind (hf a) fun _ => .bind (ReadOnly.mapEach hf l) fun _ => .pure _

end ReadOnly

/-- In the state `s`, `x` succeeds with a value that satisfies `Q` and changes nothing. -/
def Yields (x : Tx σ ε α) (s : σ) (Q : α → Prop) : Prop := ∃ a, x s = (.ok a, s) ∧ Q a

section Yields

variable {s : σ} {Q : α → Prop} {Q' : β → Prop}

theorem Yields.pure {a : α} (h : Q a) : Yields (pure a : Tx σ ε α) s Q := ⟨a, rfl, h⟩

theorem Yields.lift {x : Except ε α} {a : α} (hx : x = .ok a) (h : Q a) :
    Yields (liftM x : Tx σ ε α) s Q :=
  ⟨a, lift_ok.mpr ⟨hx, rfl⟩, h⟩

theorem Yields.bind {x : Tx σ ε α} {f : α → Tx σ ε β} (hx : Yields x s Q)
    (hf : ∀ a, Q a → Yields (f a) s Q') : Yields (x >>= f) s Q' := by
  obtain ⟨a, ha, hQ⟩ := hx
  obtain ⟨b, hb, hQ'⟩ := hf a hQ
  exact ⟨b, bind_ok.mpr ⟨a, s, ha, hb⟩, hQ'⟩

/-- What follows a total read runs from the same state. -/
theorem Yields.of_bind {x : Tx σ ε α} {f : α → Tx σ ε β} {b : β} {s' : σ} (hx : Yields x s Q)
    (h : (x >>= f) s = (.ok b, s')) : ∃ a, Q a ∧ f a s = (.ok b, s') := by
  obtain ⟨a, ha, hQ⟩ := hx
  obtain ⟨a', s₁, ha', h⟩ := bind_ok.mp h
  rw [ha] at ha'
  cases ha'
  exact ⟨a, hQ, h⟩

theorem Yields.mapEach {f : α → Tx σ ε β} {R : α → β → Prop} (hf : ∀ a, Yields (f a) s (R a))
    (l : List α) : Yields (Tx.mapEach l f) s (List.Forall₂ R l) := by
  induction l with
  | nil => exact ⟨[], rfl, .nil⟩
  | cons a l ih => exact .bind (hf a) fun b hb => .bind ih fun bs hbs => .pure (.cons hb hbs)

end Yields

/-- Every error of `x` satisfies `P`. -/
def Raises (P : ε → Prop) (x : Tx σ ε α) : Prop := ∀ ⦃s e s'⦄, x s = (.error e, s') → P e

section Raises

variable {P : ε → Prop}

theorem Raises.pure (a : α) : Raises P (pure a : Tx σ ε α) := by
  intro s e s' h
  cases h

theorem Raises.get : Raises P (Tx.get : Tx σ ε σ) := by
  intro s e s' h
  cases h

theorem Raises.modify (f : σ → σ) : Raises P (Tx.modify f : Tx σ ε Unit) := by
  intro s e s' h
  cases h

theorem Raises.fail {e : ε} (he : P e) : Raises P (Tx.fail e : Tx σ ε α) := by
  intro s e' s' h
  cases h
  exact he

theorem Raises.lift {x : Except ε α} (hx : ∀ e, x = .error e → P e) :
    Raises P (liftM x : Tx σ ε α) := by
  intro s e s' h
  exact hx e (congrArg Prod.fst h)

theorem Raises.ensure {c : Prop} [Decidable c] {e : ε} (he : P e) :
    Raises P (ensure c e : Tx σ ε Unit) := by
  unfold Tx.ensure
  split_ifs
  · exact .pure ()
  · exact .fail he

theorem Raises.bind {x : Tx σ ε α} {f : α → Tx σ ε β} (hx : Raises P x)
    (hf : ∀ a, Raises P (f a)) : Raises P (x >>= f) := by
  intro s e s'' h
  rcases bind_error.mp h with h | ⟨a, s', -, h⟩
  · exact hx h
  · exact hf a h

theorem Raises.whenever {c : Prop} [Decidable c] {x : Tx σ ε Unit} (hx : Raises P x) :
    Raises P (whenever c x) := by
  unfold Tx.whenever
  split_ifs
  · exact hx
  · exact .pure ()

theorem Raises.forEach {f : α → Tx σ ε Unit} (hf : ∀ a, Raises P (f a)) :
    ∀ l : List α, Raises P (Tx.forEach l f)
  | [] => .pure ()
  | a :: l => .bind (hf a) fun _ => Raises.forEach hf l

variable [DecidableEq κ] {S : Schema κ ρ}

theorem Raises.insert {violation : ε} (hv : P violation) (T : Field σ S) (r : ρ) :
    Raises P (insert violation T r) := by
  intro s e s' h
  unfold Tx.insert at h
  split at h
  · cases h
  · cases h
    exact hv

theorem Raises.update {violation : ε} (hv : P violation) (T : Field σ S) (p : ρ → Prop)
    [DecidablePred p] (f : ρ → ρ) : Raises P (update violation T p f) := by
  intro s e s' h
  unfold Tx.update at h
  split at h
  · cases h
  · cases h
    exact hv

end Raises

end Tx

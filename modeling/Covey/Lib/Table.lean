import Mathlib.Data.List.Nodup
import Mathlib.Data.List.Basic
import Mathlib.Data.List.Forall2
import Mathlib.Data.Option.Basic
import Mathlib.Logic.Function.Basic

/-!
# Relational tables

A table is a list of rows in insertion order together with the proof that it
satisfies its schema: distinct primary keys, the row `CHECK`s and the other
`UNIQUE` indexes. Statements rebuild the row list and fail with `none` when the
result would violate the schema, as a relational engine rejects the statement.

* `Table.get?`: lookup by primary key.
* `Table.insert`, `Table.update`, `Table.delete`: the three kinds of statement.
* `get?_insert`, `get?_update`: what a lookup returns after the first two;
  proofs about a program's tables only use these and `mem_iff_get?`.
* `put`, `modify`: what a statement on one key does to a table's lookup function.
-/

namespace Relational

/-! ## Lookup functions -/

section Lookup

variable {κ ρ : Type} [DecidableEq κ] {f : κ → Option ρ} {k x : κ} {r r' : ρ} {g : ρ → ρ}

/-- The lookup function with the row `r` under the key `k`. -/
def put (f : κ → Option ρ) (k : κ) (r : ρ) : κ → Option ρ := Function.update f k (some r)

/-- The lookup function with the row under `k`, if there is one, changed by `g`. -/
def modify (f : κ → Option ρ) (k : κ) (g : ρ → ρ) : κ → Option ρ :=
  Function.update f k ((f k).map g)

theorem put_eq_some : put f k r x = some r' ↔ x = k ∧ r = r' ∨ x ≠ k ∧ f x = some r' := by
  rw [put, Function.update_apply]
  split_ifs with h <;> simp [h]

@[simp] theorem put_self : put f k r k = some r := Function.update_self ..

theorem put_of_ne (h : x ≠ k) : put f k r x = f x := Function.update_of_ne h ..

theorem modify_apply : modify f k g x = (f x).map fun r => if x = k then g r else r := by
  rw [modify, Function.update_apply]
  split_ifs with h
  · rw [h]
  · simp

theorem modify_eq_some :
    modify f k g x = some r' ↔ ∃ r, f x = some r ∧ r' = if x = k then g r else r := by
  rw [modify_apply, Option.map_eq_some_iff]
  simp only [eq_comm]

theorem modify_of_ne (h : x ≠ k) : modify f k g x = f x := Function.update_of_ne h ..

/-- Changing a row that is there is putting the changed row. -/
theorem modify_of_some (h : f k = some r) : modify f k g = put f k (g r) := by
  rw [modify, put, h, Option.map_some]

theorem rel_of_some {R : ρ → ρ → Prop} {o o' : Option ρ} (h : Option.Rel R o o')
    (ho : o = some r) : ∃ r', o' = some r' ∧ R r r' := by
  subst ho
  cases h with
  | some h => exact ⟨_, rfl, h⟩

theorem rel_of_some' {R : ρ → ρ → Prop} {o o' : Option ρ} (h : Option.Rel R o o')
    (ho : o' = some r') : ∃ r, o = some r ∧ R r r' := by
  subst ho
  cases h with
  | some h => exact ⟨_, rfl, h⟩

theorem rel_of_none {R : ρ → ρ → Prop} {o o' : Option ρ} (h : Option.Rel R o o') (ho : o = none) :
    o' = none := by
  subst ho
  cases h
  rfl

theorem rel_refl {R : ρ → ρ → Prop} (hself : ∀ r, R r r) (o : Option ρ) : Option.Rel R o o := by
  cases o with
  | none => exact .none
  | some r => exact .some (hself r)

theorem rel_trans {R : ρ → ρ → Prop} (htrans : ∀ {a b c}, R a b → R b c → R a c)
    {o o' o'' : Option ρ} (h : Option.Rel R o o') (h' : Option.Rel R o' o'') :
    Option.Rel R o o'' := by
  cases h with
  | none => exact h'
  | some h =>
    cases h' with
    | some h' => exact .some (htrans h h')

theorem rel_map {R : ρ → ρ → Prop} {o : Option ρ} (h : ∀ r, o = some r → R r (g r)) :
    Option.Rel R o (o.map g) := by
  cases o with
  | none => exact .none
  | some r => exact .some (h r rfl)

/-- Changing the row under `k` by a step of `R`, for a reflexive `R`. -/
theorem rel_modify {R : ρ → ρ → Prop} (hself : ∀ r, R r r) (h : ∀ r, f k = some r → R r (g r))
    (x : κ) : Option.Rel R (f x) (modify f k g x) := by
  rw [modify_apply]
  refine rel_map fun r hr => ?_
  split_ifs with hx
  · subst hx
    exact h r hr
  · exact hself r

theorem rel_put {R : ρ → ρ → Prop} (hself : ∀ r, R r r) (h : f k = some r) (hr : R r r') (x : κ) :
    Option.Rel R (f x) (put f k r' x) := by
  have hmodify : modify f k (fun _ => r') = put f k r' := modify_of_some h
  rw [← hmodify]
  refine rel_modify hself (fun r₀ h₀ => ?_) x
  obtain rfl : r = r₀ := Option.some.inj (h.symm.trans h₀)
  exact hr

/-- Changing one row after another under the same key. -/
theorem put_modify : put (modify f k g) k r = put f k r := by
  simp [put, modify]

/-- One column of a lookup function after `put`. -/
theorem map_put {α : Type} {c : ρ → α} :
    (fun x => (put f k r x).map c) = put (fun x => (f x).map c) k (c r) := by
  funext x
  simp only [put, Function.update_apply]
  split_ifs <;> rfl

/-- A new row under a free key hides none of the others. -/
theorem put_of_new {k' : κ} (new : f k' = none) (h : f k = some r) : put f k' r' k = some r := by
  rw [put_of_ne, h]
  rintro rfl
  rw [new] at h
  cases h

/-- How one entry of a lookup function changes: a row that is there changes by `step`, one
    that appears satisfies `new`, and none goes away. -/
def Change (step : ρ → ρ → Prop) (new : ρ → Prop) : Option ρ → Option ρ → Prop
  | none, none => True
  | none, some r' => new r'
  | some r, some r' => step r r'
  | some _, none => False

namespace Change

variable {step : ρ → ρ → Prop} {new : ρ → Prop} {o o' : Option ρ}

theorem same (hself : ∀ r, step r r) (o : Option ρ) : Change step new o o := by
  cases o with
  | none => trivial
  | some r => exact hself r

theorem of_some (h : Change step new o o') (ho : o = some r) : ∃ r', o' = some r' ∧ step r r' := by
  subst ho
  cases o' with
  | none => exact h.elim
  | some r' => exact ⟨r', rfl, h⟩

theorem of_some' (h : Change step new o o') (ho : o' = some r') :
    (∃ r, o = some r ∧ step r r') ∨ (o = none ∧ new r') := by
  subst ho
  cases o with
  | none => exact .inr ⟨rfl, h⟩
  | some r => exact .inl ⟨r, rfl, h⟩

theorem mono {step' : ρ → ρ → Prop} {new' : ρ → Prop} (hstep : ∀ r r', step r r' → step' r r')
    (hnew : ∀ r, new r → new' r) (h : Change step new o o') : Change step' new' o o' := by
  cases o <;> cases o'
  · trivial
  · exact hnew _ h
  · exact h.elim
  · exact hstep _ _ h

theorem of_put (hself : ∀ r, step r r) (h : x = k → Change step new (f k) (some r)) :
    Change step new (f x) (put f k r x) := by
  by_cases hx : x = k
  · subst hx
    rw [put_self]
    exact h rfl
  · rw [put_of_ne hx]
    exact same hself _

theorem of_modify (hself : ∀ r, step r r) (h : x = k → ∀ r, f k = some r → step r (g r)) :
    Change step new (f x) (modify f k g x) := by
  rw [modify_apply]
  cases hf : f x with
  | none => trivial
  | some r =>
    by_cases hx : x = k
    · subst hx
      simpa [Change] using h rfl r hf
    · simpa [Change, hx] using hself r

theorem of_rel (h : Option.Rel step o o') : Change step new o o' := by
  cases h with
  | none => trivial
  | some h => exact h

end Change

end Lookup

/-! ## Tables -/

/-- What a table declares: its primary key, its row `CHECK`s, and the `UNIQUE`
    indexes beyond the key (`clash a b` when two rows collide in one). -/
structure Schema (κ ρ : Type) where
  key : ρ → κ
  check : ρ → Bool := fun _ => true
  clash : ρ → ρ → Bool := fun _ _ => false

variable {κ ρ : Type} [DecidableEq κ]

/-- The rows collide with none of the later ones. -/
def Schema.separate (S : Schema κ ρ) : List ρ → Bool
  | [] => true
  | r :: rs => rs.all (fun r' => S.key r ≠ S.key r' ∧ S.clash r r' = false) && S.separate rs

/-- A row list satisfies the schema. -/
def Schema.admits (S : Schema κ ρ) (rows : List ρ) : Bool :=
  rows.all S.check && S.separate rows

/-- A table: only row lists the schema admits can be built. -/
structure Table (S : Schema κ ρ) where
  rows : List ρ
  admitted : S.admits rows = true

namespace Table

variable {S : Schema κ ρ}

/-- The table holding `rows`, unless they violate the schema. -/
def ofRows? (S : Schema κ ρ) (rows : List ρ) : Option (Table S) :=
  if h : S.admits rows = true then some ⟨rows, h⟩ else none

/-- The table without rows. -/
def empty (S : Schema κ ρ) : Table S := ⟨[], rfl⟩

/-- The row with primary key `k`. -/
def get? (t : Table S) (k : κ) : Option ρ := t.rows.find? (fun r => S.key r = k)

/-- `INSERT`: the new row comes last. -/
def insert (t : Table S) (r : ρ) : Option (Table S) := ofRows? S (t.rows ++ [r])

/-- `UPDATE … SET f WHERE p`. -/
def update (t : Table S) (p : ρ → Prop) [DecidablePred p] (f : ρ → ρ) : Option (Table S) :=
  ofRows? S (t.rows.map fun r => if p r then f r else r)

theorem separate_iff {rows : List ρ} :
    S.separate rows = true ↔
      rows.Pairwise fun a b => S.key a ≠ S.key b ∧ S.clash a b = false := by
  induction rows with
  | nil => simp [Schema.separate]
  | cons r rs ih => simp [Schema.separate, ih]

theorem admits_filter {S : Schema κ ρ} {rows : List ρ} (h : S.admits rows = true)
    (keep : ρ → Bool) : S.admits (rows.filter keep) = true := by
  simp only [Schema.admits, Bool.and_eq_true, separate_iff, List.all_eq_true] at h ⊢
  exact ⟨fun r hr => h.1 r (List.mem_of_mem_filter hr), h.2.filter _⟩

/-- `DELETE … WHERE p`. -/
def delete (t : Table S) (p : ρ → Prop) [DecidablePred p] : Table S :=
  ⟨t.rows.filter fun r => ¬p r, admits_filter t.admitted _⟩

/-- The number of rows a statement with condition `p` applies to. -/
def count (t : Table S) (p : ρ → Prop) [DecidablePred p] : ℕ := t.rows.countP (fun r => p r)

/-- `SELECT … WHERE p`, in insertion order. -/
def select (t : Table S) (p : ρ → Prop) [DecidablePred p] : List ρ := t.rows.filter (fun r => p r)

/-! ## Keys -/

theorem ofRows?_eq_some {rows : List ρ} {t : Table S} :
    ofRows? S rows = some t ↔ t.rows = rows := by
  unfold ofRows?
  constructor
  · intro h
    split at h
    · cases h; rfl
    · cases h
  · rintro rfl
    simp [t.admitted]

theorem pairwise (t : Table S) :
    t.rows.Pairwise fun a b => S.key a ≠ S.key b ∧ S.clash a b = false := by
  have h := t.admitted
  simp only [Schema.admits, Bool.and_eq_true] at h
  exact separate_iff.mp h.2

theorem check_of_mem (t : Table S) {r : ρ} (h : r ∈ t.rows) : S.check r = true := by
  have hadm := t.admitted
  simp only [Schema.admits, Bool.and_eq_true, List.all_eq_true] at hadm
  exact hadm.1 r h

theorem nodup_keys (t : Table S) : (t.rows.map S.key).Nodup :=
  List.pairwise_map.mpr (t.pairwise.imp And.left)

theorem eq_of_key_eq (t : Table S) {a b : ρ} (ha : a ∈ t.rows) (hb : b ∈ t.rows)
    (h : S.key a = S.key b) : a = b :=
  List.inj_on_of_nodup_map t.nodup_keys ha hb h

/-- Two rows that collide in a `UNIQUE` index are the same row. -/
theorem eq_of_clash (t : Table S) {a b : ρ} (ha : a ∈ t.rows) (hb : b ∈ t.rows)
    (hab : S.clash a b = true) (hba : S.clash b a = true) : a = b := by
  by_contra hne
  have hsep := t.pairwise
  obtain ⟨l₁, l₂, hl⟩ := List.append_of_mem ha
  rw [hl] at hsep hb
  rw [List.pairwise_append, List.pairwise_cons] at hsep
  rcases List.mem_append.mp hb with hb | hb
  · have := (hsep.2.2 b hb a (by simp)).2
    simp [hba] at this
  · rcases List.mem_cons.mp hb with rfl | hb
    · exact hne rfl
    · have := (hsep.2.1.1 b hb).2
      simp [hab] at this

@[simp] theorem get?_empty (k : κ) : (empty S).get? k = none := rfl

theorem mem_of_get? {t : Table S} {k : κ} {r : ρ} (h : t.get? k = some r) : r ∈ t.rows :=
  List.mem_of_find?_eq_some h

theorem key_of_get? {t : Table S} {k : κ} {r : ρ} (h : t.get? k = some r) : S.key r = k := by
  simpa using List.find?_some h

theorem check_of_get? {t : Table S} {k : κ} {r : ρ} (h : t.get? k = some r) :
    S.check r = true :=
  t.check_of_mem (mem_of_get? h)

theorem get?_key {t : Table S} {r : ρ} (h : r ∈ t.rows) : t.get? (S.key r) = some r := by
  cases hg : t.get? (S.key r) with
  | none => simpa using (List.find?_eq_none.mp hg) r h
  | some r' => rw [t.eq_of_key_eq h (mem_of_get? hg) (key_of_get? hg).symm]

theorem mem_iff_get? {t : Table S} {r : ρ} : r ∈ t.rows ↔ t.get? (S.key r) = some r :=
  ⟨get?_key, mem_of_get?⟩

theorem get?_eq_none {t : Table S} {k : κ} :
    t.get? k = none ↔ ∀ r ∈ t.rows, S.key r ≠ k := by
  simp [get?]

/-! ## Statements -/

theorem insert_eq_some {t t' : Table S} {r : ρ} :
    t.insert r = some t' ↔ t'.rows = t.rows ++ [r] := ofRows?_eq_some

theorem update_eq_some {t t' : Table S} {p : ρ → Prop} [DecidablePred p] {f : ρ → ρ} :
    t.update p f = some t' ↔ t'.rows = t.rows.map fun r => if p r then f r else r :=
  ofRows?_eq_some

/-- A new row collides with none of the rows that are there. -/
theorem clash_of_insert {t t' : Table S} {r a : ρ} (h : t.insert r = some t') (ha : a ∈ t.rows) :
    S.clash a r = false := by
  have hsep := t'.pairwise
  rw [insert_eq_some.mp h, List.pairwise_append] at hsep
  exact (hsep.2.2 a ha r (by simp)).2

/-- `INSERT` of a row that passes the checks and collides with no row succeeds. -/
theorem exists_insert {t : Table S} {r : ρ} (hcheck : S.check r = true)
    (hnew : ∀ a ∈ t.rows, S.key a ≠ S.key r ∧ S.clash a r = false) :
    ∃ t', t.insert r = some t' := by
  refine ⟨⟨t.rows ++ [r], ?_⟩, insert_eq_some.mpr rfl⟩
  simp only [Schema.admits, Bool.and_eq_true, List.all_eq_true, separate_iff, List.pairwise_append]
  refine ⟨fun a ha => ?_, t.pairwise, List.pairwise_singleton _ _, fun a ha b hb => ?_⟩
  · rcases List.mem_append.mp ha with ha | ha
    · exact t.check_of_mem ha
    · rwa [List.mem_singleton.mp ha]
  · rw [List.mem_singleton.mp hb]
    exact hnew a ha

theorem get?_of_insert_none {t t' : Table S} {r : ρ} (h : t.insert r = some t') :
    t.get? (S.key r) = none := by
  rw [get?_eq_none]
  intro a ha
  have hsep := t'.pairwise
  rw [insert_eq_some.mp h, List.pairwise_append] at hsep
  exact (hsep.2.2 a ha r (by simp)).1

/-- A lookup after `INSERT`. -/
theorem get?_insert {t t' : Table S} {r : ρ} (h : t.insert r = some t') (k : κ) :
    t'.get? k = if S.key r = k then some r else t.get? k := by
  simp only [get?, insert_eq_some.mp h, List.find?_append, List.find?_singleton, decide_eq_true_eq]
  split_ifs with hk
  · have := get?_of_insert_none h
    rw [hk] at this
    simp only [get?] at this
    simp [this]
  · simp

theorem get?_insert_put {t t' : Table S} {r : ρ} (h : t.insert r = some t') :
    t'.get? = put t.get? (S.key r) r := by
  funext k
  rw [get?_insert h, put, Function.update_apply]
  simp only [eq_comm]

/-- A lookup after `UPDATE`, which never changes the key. -/
theorem get?_update {t t' : Table S} {p : ρ → Prop} [DecidablePred p] {f : ρ → ρ}
    (h : t.update p f = some t') (hf : ∀ r, p r → S.key (f r) = S.key r) (k : κ) :
    t'.get? k = (t.get? k).map fun r => if p r then f r else r := by
  have hkey : ∀ r, S.key (if p r then f r else r) = S.key r := by
    intro r
    split_ifs with hp
    · exact hf r hp
    · rfl
  simp [get?, update_eq_some.mp h, List.find?_map, Function.comp_def, hkey]

/-- A lookup after an `UPDATE` restricted to one key. -/
theorem get?_update_at {t t' : Table S} {k : κ} {q : ρ → Prop} [DecidablePred q] {f : ρ → ρ}
    (h : t.update (fun r => S.key r = k ∧ q r) f = some t') (hf : ∀ r, S.key (f r) = S.key r) :
    t'.get? = modify t.get? k fun r => if q r then f r else r := by
  funext x
  rw [get?_update h fun r _ => hf r, modify_apply]
  cases hg : t.get? x with
  | none => rfl
  | some r => simp [key_of_get? hg, ite_and]

theorem get?_update_key {t t' : Table S} {k : κ} {f : ρ → ρ}
    (h : t.update (fun r => S.key r = k) f = some t') (hf : ∀ r, S.key (f r) = S.key r) :
    t'.get? = modify t.get? k f := by
  funext x
  rw [get?_update h fun r _ => hf r, modify_apply]
  cases hg : t.get? x with
  | none => rfl
  | some r => simp [key_of_get? hg]

/-- A row whose key is `k` and that satisfies `p` exists as soon as a statement
    restricted to the key `k` applies to one row. -/
theorem count_key_pos {t : Table S} {k : κ} {p : ρ → Prop} [DecidablePred p] :
    t.count (fun r => S.key r = k ∧ p r) ≠ 0 ↔ ∃ r, t.get? k = some r ∧ p r := by
  simp only [count, ← Nat.pos_iff_ne_zero, List.countP_pos_iff, decide_eq_true_eq]
  constructor
  · rintro ⟨r, hr, rfl, hp⟩
    exact ⟨r, get?_key hr, hp⟩
  · rintro ⟨r, hr, hp⟩
    exact ⟨r, mem_of_get? hr, key_of_get? hr, hp⟩

/-- A statement restricted to the key of a row that qualifies applies to that row only. -/
theorem count_key_one {t : Table S} {k : κ} {p : ρ → Prop} [DecidablePred p] {r : ρ}
    (hr : t.get? k = some r) (hp : p r) : t.count (fun r => S.key r = k ∧ p r) = 1 := by
  have hle : t.count (fun r => S.key r = k ∧ p r) ≤ 1 := by
    have hkeys := List.nodup_iff_count_le_one.mp t.nodup_keys k
    refine Nat.le_trans ?_ hkeys
    rw [count, List.count, List.countP_map]
    refine List.countP_mono_left fun a _ ha => ?_
    simp only [decide_eq_true_eq] at ha
    simp [ha.1]
  have hpos := count_key_pos.mpr ⟨r, hr, hp⟩
  omega

/-- The second table has the rows of the first, except that those with `p` may have changed. -/
def ChangesOnly (p : ρ → Prop) (t t' : Table S) : Prop :=
  ∀ k, t'.get? k = t.get? k ∨ ∃ r, t.get? k = some r ∧ p r

theorem ChangesOnly.refl (p : ρ → Prop) (t : Table S) : ChangesOnly p t t := fun _ => .inl rfl

theorem ChangesOnly.trans {p : ρ → Prop} {t t' t'' : Table S} (h : ChangesOnly p t t')
    (h' : ChangesOnly p t' t'') : ChangesOnly p t t'' := by
  intro k
  rcases h k with hsame | hchanged
  · rw [← hsame]
    exact h' k
  · exact .inr hchanged

theorem ChangesOnly.update {t t' : Table S} {p q : ρ → Prop} [DecidablePred p] {f : ρ → ρ}
    (h : t.update p f = some t') (hf : ∀ r, p r → S.key (f r) = S.key r) (hpq : ∀ r, p r → q r) :
    ChangesOnly q t t' := by
  intro k
  rw [get?_update h hf]
  cases hr : t.get? k with
  | none => exact .inl rfl
  | some r =>
    by_cases hp : p r
    · exact .inr ⟨r, rfl, hpq r hp⟩
    · rw [Option.map_some, if_neg hp]
      exact .inl rfl

/-- `UPDATE` that keeps keys and checks and brings no rows into collision succeeds. -/
theorem exists_update {t : Table S} {p : ρ → Prop} [DecidablePred p] {f : ρ → ρ}
    (hkey : ∀ r, p r → S.key (f r) = S.key r)
    (hcheck : ∀ r, p r → S.check r = true → S.check (f r) = true)
    (hleft : ∀ a b, p a → S.clash (f a) b = true → S.clash a b = true)
    (hright : ∀ a b, p b → S.clash a (f b) = true → S.clash a b = true) :
    ∃ t', t.update p f = some t' := by
  refine ⟨⟨t.rows.map fun r => if p r then f r else r, ?_⟩, update_eq_some.mpr rfl⟩
  have hkeys : ∀ r, S.key (if p r then f r else r) = S.key r := by
    intro r
    split_ifs with hp
    · exact hkey r hp
    · rfl
  simp only [Schema.admits, Bool.and_eq_true, List.all_eq_true, separate_iff, List.mem_map,
    forall_exists_index, and_imp, forall_apply_eq_imp_iff₂, List.pairwise_map, hkeys]
  refine ⟨fun r hr => ?_, t.pairwise.imp fun {a b} h => ⟨h.1, ?_⟩⟩
  · split_ifs with hp
    · exact hcheck r hp (t.check_of_mem hr)
    · exact t.check_of_mem hr
  · rw [← Bool.not_eq_true]
    intro hclash
    refine Bool.eq_false_iff.mp h.2 ?_
    split_ifs at hclash with ha hb hb
    · exact hleft a b ha (hright (f a) b hb hclash)
    · exact hleft a b ha hclash
    · exact hright a b hb hclash
    · exact hclash

/-- Row by row, `t'` is `t` with `f` applied where `p` holds. -/
def Updates (p : ρ → Prop) (f : ρ → ρ) (t t' : Table S) : Prop :=
  List.Forall₂ (fun r r' => p r ∧ r' = f r ∨ ¬p r ∧ r' = r) t.rows t'.rows

namespace Updates

variable {p q : ρ → Prop} {f : ρ → ρ} {t t' t'' : Table S}

theorem of_update [DecidablePred p] (h : t.update p f = some t') : Updates p f t t' := by
  rw [Updates, update_eq_some.mp h, List.forall₂_map_right_iff, List.forall₂_same]
  intro r _
  by_cases hp : p r
  · exact .inl ⟨hp, if_pos hp⟩
  · exact .inr ⟨hp, if_neg hp⟩

theorem none (h : ∀ r, ¬p r) : Updates p f t t := by
  rw [Updates, List.forall₂_same]
  exact fun r _ => .inr ⟨h r, rfl⟩

/-- Two updates in turn, of which the second finds none of the rows that the first has changed. -/
theorem trans (h : Updates p f t t') (h' : Updates q f t' t'') (hdone : ∀ r, p r → ¬q (f r)) :
    Updates (fun r => p r ∨ q r) f t t'' := by
  unfold Updates at *
  generalize t.rows = l at h ⊢
  generalize t'.rows = l' at h h'
  generalize t''.rows = l'' at h' ⊢
  induction h generalizing l'' with
  | nil =>
    cases h'
    exact .nil
  | @cons r r' _ _ hr _ ih =>
    cases h' with
    | cons hr' hl =>
      refine .cons ?_ (ih _ hl)
      rcases hr with ⟨hp, rfl⟩ | ⟨hp, rfl⟩
      · rcases hr' with ⟨hq, -⟩ | ⟨-, rfl⟩
        · exact absurd hq (hdone r hp)
        · exact .inl ⟨.inl hp, rfl⟩
      · rcases hr' with ⟨hq, rfl⟩ | ⟨hq, rfl⟩
        · exact .inl ⟨.inr hq, rfl⟩
        · exact .inr ⟨not_or.mpr ⟨hp, hq⟩, rfl⟩

theorem congr (h : Updates p f t t') (hpq : ∀ r, p r ↔ q r) : Updates q f t t' := by
  rwa [show q = p from funext fun r => propext (hpq r).symm]

theorem get?_rel (h : Updates p f t t') (hkey : ∀ r, p r → S.key (f r) = S.key r) (k : κ) :
    Option.Rel (fun r r' => p r ∧ r' = f r ∨ ¬p r ∧ r' = r) (t.get? k) (t'.get? k) := by
  unfold Updates at h
  unfold get?
  generalize t.rows = l at h ⊢
  generalize t'.rows = l' at h ⊢
  induction h with
  | nil => exact .none
  | @cons r r' l l' hr _ ih =>
    have hsame : S.key r' = S.key r := by
      rcases hr with ⟨hp, rfl⟩ | ⟨-, rfl⟩
      · exact hkey r hp
      · rfl
    simp only [List.find?_cons, hsame]
    by_cases hk : S.key r = k
    · simpa [hk] using hr
    · simpa [hk] using ih

/-- Where a row comes from. -/
theorem of_mem (h : Updates p f t t') {r' : ρ} (hr' : r' ∈ t'.rows) :
    ∃ r ∈ t.rows, p r ∧ r' = f r ∨ ¬p r ∧ r' = r := by
  obtain ⟨i, hi, rfl⟩ := List.getElem_of_mem hr'
  have hlen := h.length_eq
  have hget := h.get (i := i) (by omega) hi
  exact ⟨_, List.get_mem _ _, hget⟩

end Updates

theorem mem_select {t : Table S} {p : ρ → Prop} [DecidablePred p] {r : ρ} :
    r ∈ t.select p ↔ r ∈ t.rows ∧ p r := by
  simp [select]

/-- An update that takes a row out of a selection, and brings none into it, makes it shorter. -/
theorem length_select_update_lt {t t' : Table S} {p q : ρ → Prop} [DecidablePred p]
    [DecidablePred q] {f : ρ → ρ} {r : ρ} (h : t.update p f = some t') (hr : r ∈ t.rows)
    (hp : p r) (hq : q r) (hout : ∀ r, p r → ¬q (f r)) :
    (t'.select q).length < (t.select q).length := by
  have hle : ∀ l : List ρ, l.countP (fun r => decide (q (if p r then f r else r))) ≤
      l.countP fun r => decide (q r) := by
    refine fun l => List.countP_mono_left fun a _ ha => ?_
    split_ifs at ha with hpa
    · exact absurd (of_decide_eq_true ha) (hout a hpa)
    · exact ha
  obtain ⟨front, back, hrows⟩ := List.append_of_mem hr
  have hfront := hle front
  have hback := hle back
  simp only [select, ← List.countP_eq_length_filter, update_eq_some.mp h, List.countP_map,
    Function.comp_def, hrows, List.countP_append, List.countP_cons, if_pos hp, hq, hout r hp,
    decide_true, decide_false, if_true, Bool.false_eq_true, if_false]
  omega

/-- The rows of a table that reads as another one through `g` are the images of its rows. -/
theorem exists_mem_of_map {t t' : Table S} {g : ρ → ρ} {P : ρ → Prop}
    (h : t'.get? = fun k => (t.get? k).map g) : (∃ r ∈ t'.rows, P r) ↔ ∃ r ∈ t.rows, P (g r) := by
  constructor
  · rintro ⟨r, hr, hP⟩
    have hget := get?_key hr
    rw [h] at hget
    obtain ⟨r₀, hr₀, rfl⟩ := Option.map_eq_some_iff.mp hget
    exact ⟨r₀, mem_of_get? hr₀, hP⟩
  · rintro ⟨r, hr, hP⟩
    have hget : t'.get? (S.key r) = some (g r) := by
      rw [h]
      exact congrArg (Option.map g) (get?_key hr)
    exact ⟨g r, mem_of_get? hget, hP⟩

end Table

end Relational

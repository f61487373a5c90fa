import Covey.Levels
import Covey.Runs.Rounds

/-!
# Meta-tasks and the subtasks they sum up

* `Db.summedState`: the state that `refresh_meta_task_state` computes.
* `Db.Stands`: a meta-task is cancelled, or in that state.
* `Tends`: what an operation does to the meta-tasks. One that stands goes on standing, unless it
  has an archive cleanup; nothing is added to a cancelled one or changes in it.
* `Operation.run_tends`: every operation under a proper call tends the meta-tasks.
-/

namespace Covey

open Relational

/-- The state that the subtasks of a meta-task give it (store.rs:633-650). -/
def Db.summedState (s : Db) (m : MetaTaskId) : MetaTaskState :=
  if s.subtasks.select (fun r => r.metaTaskId = m) = [] then .planning
  else if ∀ r ∈ s.subtasks.select (fun r => r.metaTaskId = m), r.state.isTerminal then .completed
  else .active

/-- The meta-task is cancelled, or in the state that its subtasks give it. -/
def Db.Stands (s : Db) (m : MetaTaskId) : Prop :=
  ∀ row, s.metaTasks.get? m = some row → row.state ≠ .cancelled → row.state = s.summedState m

/-- The state of a meta-task that is there. -/
def Db.metaTaskState (s : Db) (m : MetaTaskId) : Option MetaTaskState :=
  (s.metaTasks.get? m).map (·.state)

def Db.Known (s : Db) (m : MetaTaskId) : Prop := ∃ row, s.metaTasks.get? m = some row

def Db.Cancelled (s : Db) (m : MetaTaskId) : Prop :=
  ∃ row, s.metaTasks.get? m = some row ∧ row.state = .cancelled

/-- Every subtask is of a meta-task that is there. -/
def Db.Housed (s : Db) : Prop := ∀ {m}, Staffed s.board.subtask m → s.Known m

/-- The meta-task has the archive cleanup of a change among its subtasks. -/
def Cleaned (f : SubtaskId → Option SubtaskRow) (m : MetaTaskId) : Prop :=
  ∃ id r, ReservedId id ∧ f id = some r ∧ r.metaTaskId = m

/-- The meta-task is cancelled and its work is over. -/
def Db.Sealed (s : Db) (m : MetaTaskId) : Prop := s.Cancelled m ∧ ¬Unfinished s.board.subtask m

/-- The meta-task `m`, which is not sealed, is to be refreshed. -/
def Db.Due (s : Db) (m m' : MetaTaskId) : Prop := m' = m ∧ ¬s.Sealed m

section Summed

variable {s s' : Db} {m : MetaTaskId}

theorem mem_select_metaTask {r : SubtaskRow} :
    r ∈ s.subtasks.select (fun r => r.metaTaskId = m) ↔
      s.board.subtask r.subtaskId = some r ∧ r.metaTaskId = m := by
  rw [Table.mem_select, Table.mem_iff_get?]
  rfl

theorem Db.summedState_of_over (hm : Staffed s.board.subtask m)
    (hover : ∀ {id r}, s.board.subtask id = some r → r.metaTaskId = m → r.state.isTerminal) :
    s.summedState m = .completed := by
  obtain ⟨id, r, hr, rfl⟩ := hm
  have hkey : r.subtaskId = id := Table.key_of_get? hr
  have hmem := mem_select_metaTask.mpr ⟨hkey ▸ hr, rfl⟩
  rw [Db.summedState, if_neg (List.ne_nil_of_mem hmem), if_pos]
  intro r' hr'
  obtain ⟨hr', hm'⟩ := mem_select_metaTask.mp hr'
  exact hover hr' hm'

theorem Db.summedState_of_going {id : SubtaskId} {r : SubtaskRow}
    (hr : s.board.subtask id = some r) (hm : r.metaTaskId = m) (hgoing : ¬r.state.isTerminal) :
    s.summedState m = .active := by
  have hkey : r.subtaskId = id := Table.key_of_get? hr
  have hmem := mem_select_metaTask.mpr ⟨hkey ▸ hr, hm⟩
  rw [Db.summedState, if_neg (List.ne_nil_of_mem hmem), if_neg]
  exact fun h => hgoing (h r hmem)

theorem Db.summedState_of_empty (hm : ¬Staffed s.board.subtask m) : s.summedState m = .planning := by
  rw [Db.summedState, if_pos]
  refine List.eq_nil_iff_forall_not_mem.mpr fun r hr => ?_
  obtain ⟨hr, hmeta⟩ := mem_select_metaTask.mp hr
  exact hm ⟨_, r, hr, hmeta⟩

/-- Without an archive cleanup, the state is a matter of whether there is work and whether it is
    over. -/
theorem Db.summedState_congr (hclean : ¬Cleaned s.board.subtask m)
    (hclean' : ¬Cleaned s'.board.subtask m)
    (hstaffed : Staffed s.board.subtask m ↔ Staffed s'.board.subtask m)
    (hgoing : Unfinished s.board.subtask m ↔ Unfinished s'.board.subtask m) :
    s'.summedState m = s.summedState m := by
  have hover : ∀ {s : Db}, ¬Cleaned s.board.subtask m → ¬Unfinished s.board.subtask m →
      ∀ {id r}, s.board.subtask id = some r → r.metaTaskId = m → r.state.isTerminal := by
    intro s hclean hover id r hr hm
    by_contra hgoing
    exact hover ⟨id, r, fun hres => hclean ⟨id, r, hres, hr, hm⟩, hr, hm, hgoing⟩
  by_cases hm : Staffed s.board.subtask m
  · by_cases hlive : Unfinished s.board.subtask m
    · obtain ⟨id', r', -, hr', hr_m', hr_going'⟩ := hgoing.mp hlive
      obtain ⟨id, r, -, hr, hr_m, hr_going⟩ := hlive
      rw [Db.summedState_of_going hr hr_m hr_going, Db.summedState_of_going hr' hr_m' hr_going']
    · rw [Db.summedState_of_over hm (hover hclean hlive),
        Db.summedState_of_over (hstaffed.mp hm) (hover hclean' (mt hgoing.mpr hlive))]
  · rw [Db.summedState_of_empty hm, Db.summedState_of_empty (mt hstaffed.mpr hm)]

theorem refreshMetaTaskState_run {now : ℤ} {u : Unit}
    (h : refreshMetaTaskState m now s = (.ok u, s')) :
    s'.subtasks = s.subtasks ∧ (∀ m', m' ≠ m → s'.metaTasks.get? m' = s.metaTasks.get? m') ∧
      ∃ row row', s.metaTasks.get? m = some row ∧ s'.metaTasks.get? m = some row' ∧
        (row.state = .cancelled ∧ row' = row ∨
          row.state ≠ .cancelled ∧ row'.state = s.summedState m) := by
  simp only [refreshMetaTaskState, Tx.bind_ok, loadMetaTask_ok, and_assoc, exists_and_left,
    exists_eq_left'] at h
  obtain ⟨row, hrow, -, h⟩ := h
  rcases Tx.whenever_ok.mp h with ⟨hlive, h⟩ | ⟨hcancelled, rfl⟩
  · simp only [Tx.bind_ok, selectFrom_ok, and_assoc, exists_and_left, exists_eq_left'] at h
    change Tx.whenever (row.state ≠ s.summedState m) (do
      let _ ← updateIn Rel.metaTasks (fun r => r.metaTaskId = m ∧ r.state ≠ .cancelled) fun r =>
        { r with state := s.summedState m, updatedAt := now }
      pure ()) s = _ at h
    rcases Tx.whenever_ok.mp h with ⟨-, h⟩ | ⟨hsame, rfl⟩
    · simp only [Tx.bind_ok, Tx.pure_ok] at h
      obtain ⟨n, _, hupd, -, rfl⟩ := h
      obtain ⟨-, t, rfl, ht⟩ := updateIn_get? (S := metaTaskSchema) hupd fun _ => rfl
      have hget : ∀ m', t.get? m' = modify s.metaTasks.get? m (fun r => if r.state ≠ .cancelled then
          { r with state := s.summedState m, updatedAt := now } else r) m' := fun m' => congrFun ht m'
      refine ⟨rfl, fun m' hm' => ?_, row, { row with state := s.summedState m, updatedAt := now },
        hrow, ?_, .inr ⟨hlive, rfl⟩⟩
      · show t.get? m' = _
        rw [hget, modify_of_ne hm']
      · show t.get? m = _
        rw [hget, modify_of_some hrow, put_self, if_pos hlive]
    · rw [not_not] at hsame
      exact ⟨rfl, fun _ _ => rfl, row, row, hrow, hrow, .inr ⟨hlive, hsame⟩⟩
  · rw [not_not] at hcancelled
    exact ⟨rfl, fun _ _ => rfl, row, row, hrow, hrow, .inl ⟨hcancelled, rfl⟩⟩

end Summed

/-! ## What an operation does to the meta-tasks -/

/-- The meta-tasks of the first store in the second. -/
structure Tends (s s' : Db) : Prop where
  home : ∀ {id r}, s.board.subtask id = some r →
    ∃ r', s'.board.subtask id = some r' ∧ r'.metaTaskId = r.metaTaskId
  cancelled : ∀ {m}, s.Cancelled m → s'.Cancelled m
  housed : s.Housed → s'.Housed
  stands : ∀ {m}, s.Housed → ¬Cleaned s'.board.subtask m → s.Stands m → s'.Stands m
  still : ∀ {m}, s.Sealed m → ¬Unfinished s'.board.subtask m
  kept : ∀ {m id r'}, s.Sealed m → ¬ReservedId id → s'.board.subtask id = some r' →
    r'.metaTaskId = m → ∃ r, s.board.subtask id = some r ∧ r.Stays r'

section Tends

variable {s s' s'' : Db} {m : MetaTaskId} {X : MetaTaskId → Prop} {now leaseNow : ℤ} {u : Unit}
  {v : Response} {k : SessionToken}

theorem Tends.sealed (h : Tends s s') (hm : s.Sealed m) : s'.Sealed m :=
  ⟨h.cancelled hm.1, h.still hm⟩

theorem Tends.cleaned (h : Tends s s') (hm : Cleaned s.board.subtask m) :
    Cleaned s'.board.subtask m := by
  obtain ⟨id, r, hres, hr, rfl⟩ := hm
  obtain ⟨r', hr', hmeta⟩ := h.home hr
  exact ⟨id, r', hres, hr', hmeta⟩

theorem Tends.trans (h : Tends s s') (h' : Tends s' s'') : Tends s s'' where
  home hr := by
    obtain ⟨r', hr', hmeta⟩ := h.home hr
    obtain ⟨r'', hr'', hmeta'⟩ := h'.home hr'
    exact ⟨r'', hr'', hmeta'.trans hmeta⟩
  cancelled hm := h'.cancelled (h.cancelled hm)
  housed hs := h'.housed (h.housed hs)
  stands hs hclean hm := h'.stands (h.housed hs) hclean (h.stands hs (mt h'.cleaned hclean) hm)
  still hm := h'.still (h.sealed hm)
  kept hm hid hr'' hmeta := by
    obtain ⟨r', hr', hstays'⟩ := h'.kept (h.sealed hm) hid hr'' hmeta
    obtain ⟨_, hr₁, hsame⟩ := h'.home hr'
    obtain rfl : _ = _ := Option.some.inj (hr₁.symm.trans hr'')
    obtain ⟨r, hr, hstays⟩ := h.kept hm hid hr' (hsame.symm.trans hmeta)
    exact ⟨r, hr, hstays.trans hstays'⟩

theorem Db.metaTask_of_state {row : MetaTaskRow} (h : s'.metaTaskState m = s.metaTaskState m)
    (hrow : s.metaTasks.get? m = some row) :
    ∃ row', s'.metaTasks.get? m = some row' ∧ row'.state = row.state := by
  rw [Db.metaTaskState, Db.metaTaskState, hrow, Option.map_some, Option.map_eq_some_iff] at h
  exact h

/-- A level change, and what was done about the meta-tasks in `X`. -/
theorem Tends.of_level (hlevel : Level s.Known X s.board.subtask s'.board.subtask) (hsealed : ∀ {m}, X m → ¬s.Sealed m)
    (hmeta : ∀ {m}, ¬X m → s'.metaTaskState m = s.metaTaskState m)
    (hcancelled : ∀ {m}, X m → s.Cancelled m → s'.Cancelled m)
    (hknown : ∀ {m}, X m → s.Known m → s'.Known m)
    (hstands : ∀ {m}, X m → s.Housed → s'.Stands m) : Tends s s' where
  home := hlevel.home
  cancelled {m} hm := by
    by_cases hX : X m
    · exact hcancelled hX hm
    · obtain ⟨row, hrow, hstate⟩ := hm
      obtain ⟨row', hrow', hsame⟩ := Db.metaTask_of_state (hmeta hX) hrow
      exact ⟨row', hrow', hsame.trans hstate⟩
  housed hs m hm := by
    have hm : s.Known m := (hlevel.staffed_or hm).elim (fun h => hs h) id
    by_cases hX : X m
    · exact hknown hX hm
    · obtain ⟨row, hrow⟩ := hm
      obtain ⟨row', hrow', -⟩ := Db.metaTask_of_state (hmeta hX) hrow
      exact ⟨row', hrow'⟩
  stands {m} hs hclean hm := by
    by_cases hX : X m
    · exact hstands hX hs
    · have hclean₀ : ¬Cleaned s.board.subtask m := by
        rintro ⟨id, r, hres, hr, rfl⟩
        obtain ⟨r', hr', hsame⟩ := hlevel.home hr
        exact hclean ⟨id, r', hres, hr', hsame⟩
      have hstaffed : Staffed s'.board.subtask m → Staffed s.board.subtask m := by
        rintro ⟨id, r', hr', rfl⟩
        cases hr : s.board.subtask id with
        | some r =>
          obtain ⟨r₁, hr₁, hsame⟩ := hlevel.home hr
          obtain rfl : r₁ = r' := Option.some.inj (hr₁.symm.trans hr')
          exact ⟨id, r, hr, hsame.symm⟩
        | none =>
          rcases (hlevel.new hr' hr).2 with hres | hX' | ⟨id, r, -, hr, hsame, -⟩
          · exact absurd ⟨id, r', hres, hr', rfl⟩ hclean
          · exact absurd hX' hX
          · exact ⟨id, r, hr, hsame⟩
      intro row hrow hlive
      obtain ⟨row₀, hrow₀, hsame⟩ := Db.metaTask_of_state (hmeta hX).symm hrow
      rw [← hsame] at hlive ⊢
      rw [hm row₀ hrow₀ hlive, Db.summedState_congr hclean₀ hclean ⟨hlevel.staffed, hstaffed⟩
        (hlevel.unfinished hX)]
  still {m} hm hgoing := by
    have hX : ¬X m := fun hX => hsealed hX hm
    exact hm.2 ((hlevel.unfinished hX).mpr hgoing)
  kept {m id r'} hm hid hr' hsame := by
    subst hsame
    have hX : ¬X r'.metaTaskId := fun hX => hsealed hX hm
    cases hr : s.board.subtask id with
    | none =>
      rcases (hlevel.new hr' hr).2 with hres | hX' | hgoing
      · exact absurd hres hid
      · exact absurd hX' hX
      · exact absurd hgoing hm.2
    | some r =>
      obtain ⟨r₁, hr₁, hsame⟩ := hlevel.home hr
      obtain rfl : r₁ = r' := Option.some.inj (hr₁.symm.trans hr')
      rw [hsame] at hX hm
      exact ⟨r, rfl, hlevel.kept hid hr hr' hX hm.2⟩

/-- A level change that leaves the meta-tasks alone. -/
theorem Levels.tends (h : Levels s.Known (fun _ => False) s s') : Tends s s' :=
  .of_level h.subtasks (fun h => h.elim) (fun _ => by rw [Db.metaTaskState, h.metaTasks]; rfl)
    (fun h => h.elim) (fun h => h.elim) fun h => h.elim

theorem Tends.of_same (hsub : s'.subtasks = s.subtasks) (hmeta : s'.metaTasks = s.metaTasks) :
    Tends s s' :=
  Levels.tends (.of_same hsub hmeta)

instance : Std.Refl Tends := ⟨fun _ => .of_same rfl rfl⟩

instance : IsTrans Db Tends := ⟨fun _ _ _ => Tends.trans⟩

theorem tends_overlooks : Overlooks Tends := fun _ _ _ _ => .of_same rfl rfl

theorem Touches.tends {l : List TableName} (h : Touches l s s') (hsub : .subtasks ∉ l)
    (hmeta : .metaTasks ∉ l) : Tends s s' := by
  have hs : (s'.without l).rows.subtasks = (s.without l).rows.subtasks :=
    congrArg Db.subtasks h.rows
  have hm : (s'.without l).rows.metaTasks = (s.without l).rows.metaTasks :=
    congrArg Db.metaTasks h.rows
  simp only [Db.rows, Db.without, if_neg hsub] at hs
  simp only [Db.rows, Db.without, if_neg hmeta] at hm
  exact .of_same hs hm

theorem tends_of_side {α : Type} {x : Txn α} (hx : x.Within (Touches sideTables)) :
    Tx.Keeps Tends x :=
  fun _ _ _ h => (levels_of_side hx h).tends

/-- Changes of one meta-task that is not sealed, and then the refresh of it. -/
theorem Tends.of_refresh {x : Db}
    (hlevel : Levels s.Known (s.Due m) s x)
    (hrefresh : refreshMetaTaskState m now x = (.ok u, s')) : Tends s s' := by
  obtain ⟨hsub, hothers, row, row', hrow, hrow', hstate⟩ := refreshMetaTaskState_run hrefresh
  rw [hlevel.metaTasks] at hrow hothers
  have hboard : s'.board.subtask = x.board.subtask := congrArg Table.get? hsub
  refine .of_level (X := s.Due m) ?_ ?_ ?_ ?_ ?_ ?_
  · rw [hboard]
    exact hlevel.subtasks
  · rintro m' ⟨rfl, hopen⟩
    exact hopen
  · intro m' hX
    by_cases hm' : m' = m
    · subst hm'
      have hsealed : s.Sealed m' := by
        by_contra hopen
        exact hX ⟨rfl, hopen⟩
      obtain ⟨⟨_, hrow₁, hcancelled⟩, -⟩ := hsealed
      rw [hrow] at hrow₁
      cases hrow₁
      rcases hstate with ⟨-, rfl⟩ | ⟨hlive, -⟩
      · rw [Db.metaTaskState, Db.metaTaskState, hrow', hrow]
      · exact absurd hcancelled hlive
    · rw [Db.metaTaskState, Db.metaTaskState, hothers m' hm']
  · rintro m' ⟨rfl, -⟩ ⟨_, hrow₁, hcancelled⟩
    rw [hrow] at hrow₁
    cases hrow₁
    rcases hstate with ⟨-, rfl⟩ | ⟨hlive, -⟩
    · exact ⟨row', hrow', hcancelled⟩
    · exact absurd hcancelled hlive
  · rintro m' ⟨rfl, -⟩ -
    exact ⟨row', hrow'⟩
  · rintro m' ⟨rfl, -⟩ - row₁ hrow₁ hlive
    rw [hrow'] at hrow₁
    cases hrow₁
    rcases hstate with ⟨hcancelled, rfl⟩ | ⟨-, hsummed⟩
    · exact absurd hcancelled hlive
    · rw [hsummed]
      simp only [Db.summedState, hsub]

/-! ## Submission, creation and import -/

/-- A new meta-task has no subtasks. -/
theorem insertMetaTask_tends {row : MetaTaskRow} (hstate : row.state = .planning) :
    Tx.Keeps Tends (insertInto Rel.metaTasks row) := by
  intro s u s' h
  obtain ⟨hnone, t, rfl, ht⟩ := insertInto_get? h
  replace hnone : s.metaTasks.get? row.metaTaskId = none := hnone
  have hget : ∀ m, t.get? m = put s.metaTasks.get? row.metaTaskId row m := fun m => congrFun ht m
  refine .of_level (X := fun m => m = row.metaTaskId) (.refl _) ?_ ?_ ?_ ?_ ?_
  · rintro m rfl ⟨⟨_, hrow, -⟩, -⟩
    rw [hnone] at hrow
    cases hrow
  · intro m hm
    show (t.get? m).map _ = _
    rw [hget, put_of_ne hm]
    rfl
  · rintro m rfl ⟨_, hrow, -⟩
    rw [hnone] at hrow
    cases hrow
  · rintro m rfl -
    exact ⟨row, (hget _).trans put_self⟩
  · rintro m rfl hs row' hrow' -
    obtain rfl : row = row' := Option.some.inj (((hget _).trans put_self).symm.trans hrow')
    rw [hstate, Db.summedState_of_empty]
    intro hm
    obtain ⟨_, hrow⟩ := hs hm
    rw [hnone] at hrow
    cases hrow

theorem submitMetaTaskTx_tends {prompt : PromptText} :
    Tx.Keeps Tends (submitMetaTaskTx k prompt now) :=
  .bind (tends_of_side requireRole_touches) fun _ => .bind (.lift _) fun _ =>
    .bind (tends_of_side freshId_touches) fun _ => .bind (insertMetaTask_tends rfl) fun _ =>
    .bind (tends_of_side (appendSessionEvent_touches (by decide))) fun _ => .pure _

theorem insertWorkSubtask_tends {req : CreateWorkSubtaskReq} :
    Tx.Keeps Tends (insertWorkSubtask req now) := by
  intro s id s' h
  simp only [insertWorkSubtask, Tx.bind_ok, requireRole_ok, Tx.lift_ok, loadMetaTask_ok,
    ensureMetaTaskIsSchedulable_ok, subtaskExists_ok, Tx.ensure_ok, Tx.pure_ok, and_assoc,
    exists_and_left, exists_eq_left', Tx.exists_unit] at h
  obtain ⟨_, -, -, -, -, -, -, _, -, -, ⟨m, hm, -, -, hopen⟩, _, s₁, hid, -, -, s₂, hins, s₃, hevent,
    s₄, hrefresh, rfl, rfl⟩ := h
  have hopened : ¬s.Sealed req.metaTaskId := by
    rintro ⟨⟨_, hrow, hcancelled⟩, -⟩
    rw [hm] at hrow
    cases hrow
    exact hopen hcancelled
  refine Tends.of_refresh (((levels_of_side requestedSubtaskId_touches hid).trans
    (insertSubtask_levels hins fun habsent => ?_)).trans (appendSessionEvent_levels hevent)) hrefresh
  exact Level.put_new (.inr ⟨m, hm⟩) habsent (.inr ⟨rfl, hopened⟩)

theorem createWorkSubtaskTx_tends {req : CreateWorkSubtaskReq} :
    Tx.Keeps Tends (createWorkSubtaskTx req now) :=
  .bind insertWorkSubtask_tends fun _ =>
    .bind (tends_of_side (insertSubtaskDependencies_touches (by decide))) fun _ => .pure _

/-- A new prompt leaves a meta-task in its state. -/
theorem updatePrompt_tends {m : MetaTaskId} {prompt : PromptText} :
    Tx.Keeps Tends (updateIn Rel.metaTasks (fun r => r.metaTaskId = m) fun r =>
      { r with promptText := prompt, updatedAt := now }) := by
  intro s n s' h
  obtain ⟨t, rfl, ht⟩ := updateIn_map h fun _ _ => rfl
  refine .of_level (X := fun _ => False) (.refl _) (fun h => h.elim) (fun {m} _ => ?_)
    (fun h => h.elim) (fun h => h.elim) fun h => h.elim
  show (t.get? m).map _ = (s.metaTasks.get? m).map _
  rw [show t.get? m = _ from congrFun ht m, Option.map_map]
  congr 1
  funext r
  show (if _ then _ else _ : MetaTaskRow).state = _
  split_ifs <;> rfl

theorem applyOpenSpecMetaTask_tends {diff : OpenSpecImportDiff} :
    Tx.Keeps Tends (applyOpenSpecMetaTask k diff now) := by
  have hrecord : ∀ provenance, Tx.Keeps Tends (recordOpenSpecImport k provenance now) := fun _ =>
    tends_of_side (recordOpenSpecImport_touches (by decide))
  unfold applyOpenSpecMetaTask
  cases diff.metaAction with
  | created => exact .bind (insertMetaTask_tends rfl) fun _ => hrecord _
  | updated => exact .bind updatePrompt_tends fun _ => hrecord _
  | unchanged => exact .pure _
  | conflict => exact .pure _

theorem applyOpenSpecSubtask_tends {m : MetaTaskId} {record : OpenSpecSubtaskRecord} :
    Tx.Keeps Tends (applyOpenSpecSubtask k m now record) := by
  have hrecord : ∀ provenance, Tx.Keeps Tends (recordOpenSpecImport k provenance now) := fun _ =>
    tends_of_side (recordOpenSpecImport_touches (by decide))
  unfold applyOpenSpecSubtask
  cases record.action with
  | created =>
    exact .bind (.lift _) fun _ => .bind (.lift _) fun _ =>
      .bind createWorkSubtaskTx_tends fun _ => hrecord _
  | updated =>
    refine .bind (fun s n s' h => ?_) fun n => ?_
    · exact Levels.tends (updateSubtask_levels h (fun _ => ⟨rfl, rfl⟩) fun r _ _ =>
        .inr (.inr (.inr ⟨rfl, id⟩)))
    · split_ifs
      · exact .bind .get fun _ => .ensure _ _
      · exact hrecord _
  | unchanged => exact .pure _
  | conflict => exact .pure _

theorem importOpenSpec_tends {source : OpenSpecSourceSnapshot} :
    Tx.Keeps Tends (importOpenSpec k source now) :=
  .bind (.lift _) fun _ =>
    .bind (tends_of_side requireRole_touches) fun _ =>
    .bind (tends_of_side buildOpenSpecImportDiff_touches) fun _ =>
    .bind (.whenever fun _ =>
      .bind applyOpenSpecMetaTask_tends fun _ =>
      .bind (.forEach fun _ _ => applyOpenSpecSubtask_tends) fun _ =>
      .bind (tends_of_side (upsertSubtaskDependencies_touches (by decide))) fun _ =>
      tends_of_side (upsertOpenSpecSubtaskScope_touches (by decide))) fun _ => .pure _

/-! ## Work that comes to its end -/

/-- A subtask that is not over keeps its meta-task from being sealed. -/
theorem not_sealed_of_going {id : SubtaskId} {r : SubtaskRow} (hid : ¬ReservedId id)
    (hr : s.board.subtask id = some r) (hgoing : ¬r.state.isTerminal) : ¬s.Sealed r.metaTaskId :=
  fun h => h.2 ⟨id, r, hid, hr, rfl, hgoing⟩

theorem abandonSubtask_tends {req : AbandonSubtaskReq} :
    Tx.Keeps Tends (abandonSubtask req now) := by
  refine leasedMutation_keeps tends_overlooks fun leaseNow s v s' h => ?_
  simp only [Tx.bind_ok, Tx.lift_ok, requireSessionCanClaimKind_ok, ensureTransition_ok, Tx.pure_ok,
    and_assoc, exists_and_left, exists_eq_left', Tx.exists_unit] at h
  obtain ⟨-, ctx, _, hload, -, happlied, hcompleted, hfailed, habandoned, s₂, hclose, s₃, hdetach, s₄,
    hclear, s₅, hrefresh, _, hevent, -, rfl⟩ := h
  obtain ⟨rfl, hctx⟩ := loadClaimContext_ok hload
  have hclosed : s₂.board.subtask = s.board.subtask := by
    obtain ⟨row, -, -, hb⟩ := closeClaimAndDetach_board hclose
    rw [hb]
  refine Tends.trans (Tends.of_refresh (((levels_of_side (closeClaimAndDetach_touches (by decide))
    hclose).trans (detachSubtask_levels (fun r hr hcur => ?_) hdetach)).trans
    (levels_of_side (clearSessionActiveSubtask_touches (by decide)) hclear)) hrefresh)
    (tends_of_side (appendSessionEvent_touches (by decide)) hevent)
  rw [hclosed, hctx.subtaskKey, hctx.subtask] at hr
  cases hr
  by_cases hres : ReservedId ctx.subtask.subtaskId
  · exact .inl hres
  · refine .inr (.inl ⟨rfl, not_sealed_of_going (hctx.subtaskKey ▸ hres) hctx.subtask ?_⟩)
    rintro (h | h | h | h | h)
    exacts [happlied h, hcompleted h, hfailed h, habandoned h, hctx.loads.not_decided hcur h]

theorem recordDirectOutcome_tends {eventType : EventType} {input : OutcomeInput} :
    Tx.Keeps Tends (recordDirectOutcome eventType input leaseNow now) := by
  intro s v s' h
  simp only [recordDirectOutcome, Tx.bind_ok, Tx.lift_ok, ensureMetaTaskIsSchedulable_ok,
    requireSessionCanClaimKind_ok, ensureSubtaskTransition_ok, Tx.ensure_ok, Tx.pure_ok, and_assoc,
    exists_and_left, exists_eq_left', Tx.exists_unit] at h
  obtain ⟨ctx, _, hload, -, -, -, -, hallowed, s₂, hins, s₃, hclose, s₄, hreserve, n, s₅, hupd,
    -, s₆, hclear, s₇, hrefresh, _, hevent, -, rfl⟩ := h
  obtain ⟨rfl, hctx⟩ := loadClaimContext_ok hload
  have hkept : s₄.board.subtask = s.board.subtask := by
    obtain ⟨row, -, -, hb⟩ := closeClaimAndDetach_board hclose
    rw [releaseActiveReservations_sameBoard hreserve, hb,
      insertInto_sameBoard (fun _ _ => rfl) _ hins]
  have hins : Levels s.Known (s.Due ctx.subtask.metaTaskId) s s₂ :=
    levels_of_side (insertInto_touches (fun _ _ => rfl) _) hins
  refine Tends.trans (Tends.of_refresh ((((hins.trans
    (levels_of_side (closeClaimAndDetach_touches (by decide)) hclose)).trans
    (levels_of_side (releaseActiveReservations_touches (by decide)) hreserve)).trans
    (updateSubtask_levels hupd (fun _ => ⟨rfl, rfl⟩) fun r hr hstate => ?_)).trans
    (levels_of_side (clearSessionActiveSubtask_touches (by decide)) hclear)) hrefresh)
    (tends_of_side (appendSessionEvent_touches (by decide)) hevent)
  rw [hkept, hctx.subtaskKey, hctx.subtask] at hr
  cases hr
  by_cases hres : ReservedId ctx.subtask.subtaskId
  · exact .inl hres
  · exact .inr (.inl ⟨rfl, not_sealed_of_going (hctx.subtaskKey ▸ hres) hctx.subtask
      (SubtaskKind.going_of_allows hallowed)⟩)

/-- Both sides of a decision, up to the work's new state. -/
theorem judgement_levels {session : SessionRow} {reviewId : ReviewId} {claimId : ClaimId}
    {fence : FenceSeq} {ctx : ReviewContext} {verdict : ReviewVerdict} {findings : FindingsDigest}
    {s₂ s₃ : Db} {u' : Unit} {workState : SubtaskState} {detach : Prop} [Decidable detach]
    (hx : s.rounds.Paired) (hX : X ctx.workSubtask.metaTaskId)
    (hctx : ctx.Loaded s session k reviewId claimId fence leaseNow)
    (hclose : closeReview ctx k verdict findings now s = (.ok u, s₂))
    (hrelease : Levels s.Known X s₂ s₃)
    (h : setReviewedWork ctx workState detach now s₃ = (.ok u', s')) : Levels s.Known X s s' := by
  obtain ⟨-, -, -, hclosed⟩ := closeReview_board hctx hclose
  have hclosed : Levels s.Known X s s₂ := by
    refine ⟨?_, ((closeReview_touches (List.Subset.refl _)).run hclose).same fun _ => rfl⟩
    show Level _ X s.rounds.subtask s₂.rounds.subtask
    rw [hclosed]
    refine Level.put_some hctx.reviewSubtask rfl (.inr (.inl ?_))
    -- The review subtask and the work are of one meta-task.
    obtain ⟨t, r, ht, -, hr, -, hsame⟩ := hx.subtask (show s.rounds.review _ = _ from hctx.review)
    obtain rfl : ctx.reviewSubtask = t := Option.some.inj (hctx.reviewSubtask.symm.trans ht)
    obtain rfl : ctx.workSubtask = r := Option.some.inj (hctx.work.symm.trans hr)
    rw [hsame]
    exact hX
  have hreleased := hclosed.trans hrelease
  simp only [setReviewedWork, Tx.bind_ok, Tx.ensure_ok] at h
  obtain ⟨_, _, hupd, -, rfl⟩ := h
  refine hreleased.trans (updateSubtask_levels hupd (fun _ => ⟨rfl, rfl⟩) fun r hr _ => ?_)
  obtain ⟨r₁, hr₁, hsame⟩ := hreleased.subtasks.home hctx.work
  obtain rfl : r₁ = r := Option.some.inj (hr₁.symm.trans hr)
  rw [hsame]
  exact .inr (.inl hX)

theorem ReviewContext.Loaded.not_sealed {session : SessionRow} {reviewId : ReviewId}
    {claimId : ClaimId} {fence : FenceSeq} {ctx : ReviewContext}
    (hctx : ctx.Loaded s session k reviewId claimId fence leaseNow) (hn : Named s.board.toLeases)
    (hx : s.rounds.Paired) (hgoing : ¬ctx.workSubtask.state.isTerminal) :
    ¬s.Sealed ctx.workSubtask.metaTaskId := by
  refine not_sealed_of_going (fun hres => ?_) hctx.work hgoing
  obtain ⟨t, r, -, -, hr, hkind, -⟩ := hx.subtask (show s.rounds.review _ = _ from hctx.review)
  rw [hn hr hres] at hkind
  cases hkind

theorem recordDecision_levels {K : MetaTaskId → Prop} {ctx : ReviewContext} {req : DecideReviewReq}
    {decision : ReviewDecisionResult} (hstaffed : Staffed s.board.subtask ctx.workSubtask.metaTaskId)
    (hX : X ctx.workSubtask.metaTaskId) (h : recordDecision ctx req now s = (.ok decision, s')) :
    Levels K X s s' := by
  unfold recordDecision at h
  split_ifs at h
  · obtain ⟨-, rfl⟩ := Tx.pure_ok.mp h
    exact .of_same rfl rfl
  · simp only [Tx.bind_ok, Tx.pure_ok] at h
    obtain ⟨id, _, hcreate, -, rfl⟩ := h
    obtain ⟨habsent, -, t, f, fence, -, -, hsame, -, hb⟩ := createReviewFollowupSubtask_board hcreate
    have htouches := (createReviewFollowupSubtask_touches (List.Subset.refl _)).run hcreate
    refine ⟨?_, htouches.same fun _ => rfl⟩
    rw [hb]
    refine Level.put_new (.inl ?_) habsent (.inr ?_)
    · rw [hsame.metaTask]
      exact hstaffed
    · rw [hsame.metaTask]
      exact hX

theorem followApproval_levels {K : MetaTaskId → Prop} {env : Env} {ctx : ReviewContext}
    {req : DecideReviewReq} : Tx.Keeps (Levels K X) (followApproval env ctx req now) := by
  unfold followApproval
  split_ifs
  · exact .bind enqueueApprovedSubtaskForApply_levels fun _ => .pure _
  · exact levels_of_side (recordArchiveBlocker_touches (by decide))
  · exact .pure _

theorem decideReview_tends {env : Env} {req : DecideReviewReq} (hn : Named s.board.toLeases)
    (hx : s.rounds.Paired) (h : decideReview env req now s = (.ok v, s')) : Tends s s' := by
  refine leasedMutation_from tends_overlooks (fun {leaseNow s₀ s'} _ hs₀ h => ?_) h
  have hb₀ : s₀.board = s.board := by rw [hs₀]; rfl
  rw [← hb₀] at hn
  have hx : s₀.rounds.Paired := (SameBoard.rounds hb₀).symm ▸ hx
  simp only [Tx.bind_ok, requireRole_ok, Tx.lift_ok, requireReviewPolicy_ok,
    ensureSubtaskTransition_ok, Tx.pure_ok, and_assoc, exists_and_left, exists_eq_left',
    Tx.exists_unit] at h
  obtain ⟨session, -, -, -, -, -, -, -, ctx, s₀, hload, s₂, hclose, -, hallowed, s₃,
    hrelease, s₄, hset, decision, s₅, hdecision, s₆, hevent, s₇, hfollow, s₈, hrefresh, -, rfl⟩ := h
  obtain ⟨rfl, hctx, -, -⟩ := loadReviewContext_ok hload
  have hX : s₀.Due ctx.workSubtask.metaTaskId ctx.workSubtask.metaTaskId :=
    ⟨rfl, hctx.not_sealed hn hx (SubtaskKind.going_of_allows hallowed)⟩
  have hreleased : Levels s₀.Known (s₀.Due ctx.workSubtask.metaTaskId) s₂ s₃ := by
    refine levels_of_side ?_ hrelease
    exact .whenever fun _ => .bind (releaseProducer_touches (by decide)) fun _ =>
      releaseActiveReservations_touches (by decide)
  have hjudged := judgement_levels hx hX hctx hclose hreleased hset
  have hdecided := recordDecision_levels (K := s₀.Known)
    (hjudged.subtasks.staffed ⟨_, _, hctx.work, rfl⟩) hX hdecision
  exact Tends.of_refresh (((hjudged.trans hdecided).trans (appendSessionEvent_levels hevent)).trans
    (followApproval_levels hfollow)) hrefresh

theorem recordPermissiveLandingReceipt_tends {req : RecordPermissiveLandingReceiptReq}
    (hn : Named s.board.toLeases) (hx : s.rounds.Paired)
    (h : recordPermissiveLandingReceipt req now s = (.ok v, s')) : Tends s s' := by
  refine leasedMutation_from tends_overlooks (fun {leaseNow s₀ s'} _ hs₀ h => ?_) h
  have hb₀ : s₀.board = s.board := by rw [hs₀]; rfl
  rw [← hb₀] at hn
  have hx : s₀.rounds.Paired := (SameBoard.rounds hb₀).symm ▸ hx
  simp only [Tx.bind_ok, requireRole_ok, Tx.lift_ok, Tx.option_forM_ok, ensureSubtaskTransition_ok,
    Tx.pure_ok, and_assoc, exists_and_left, exists_eq_left', Tx.exists_unit] at h
  obtain ⟨session, -, -, -, -, -, -, -, -, -, -, -, ctx, s₀, hload, s₃, hclose, hallowed, s₄,
    hset, s₅, hins, s₆, hevent, s₇, hrefresh, -, rfl⟩ := h
  obtain ⟨rfl, hctx, -, -⟩ := loadReviewContext_ok hload
  have hX : s₀.Due ctx.workSubtask.metaTaskId ctx.workSubtask.metaTaskId :=
    ⟨rfl, hctx.not_sealed hn hx (SubtaskKind.going_of_allows hallowed)⟩
  have hjudged := judgement_levels hx hX hctx hclose (.of_same rfl rfl) hset
  exact Tends.of_refresh ((hjudged.trans (levels_of_side (insertInto_touches (fun _ _ => rfl) _)
    hins)).trans (appendSessionEvent_levels hevent)) hrefresh

/-! ## The queue and cancellation -/

theorem markApplied_tends {req : MarkAppliedReq} (hn : Named s.board.toLeases)
    (h : markApplied req now s = (.ok v, s')) : Tends s s' := by
  refine leasedMutation_from tends_overlooks (fun {leaseNow s₀ s'} _ hs₀ h => ?_) h
  have hb₀ : s₀.board = s.board := by rw [hs₀]; rfl
  rw [← hb₀] at hn
  simp only [Tx.bind_ok, requireRole_ok, Tx.lift_ok, loadQueueItem_ok, ensureReadyQueueTransition_ok,
    and_assoc, exists_and_left, exists_eq_left', Tx.exists_unit] at h
  obtain ⟨session, -, -, -, -, -, q, -, -, -, h⟩ := h
  cases howner : q.claimedBySessionToken with
  | none => simp [howner] at h
  | some owner =>
  cases hfence : q.claimFenceSeq with
  | none => simp [howner, hfence] at h
  | some fence =>
  cases hdeadline : q.claimLeaseDeadline with
  | none => simp [howner, hfence, hdeadline] at h
  | some deadline =>
  simp only [howner, hfence, hdeadline, Tx.bind_ok, Tx.ensure_ok, Tx.lift_ok, loadSubtask_ok,
    requireCanonicalApplyPolicy_ok, ensureSubtaskTransition_ok, loadSession_ok, Tx.pure_ok,
    requireRecordedApplyVerification, selectFrom_ok, and_assoc, exists_and_left, exists_eq_left',
    Tx.exists_unit] at h
  obtain ⟨-, -, -, r, hr, -, -, hallowed, -, gate, -, -, evidence, s₂, hevidence,
    -, n, s₃, hqueue, -, n', s₄, hsubtask, hn', s₅, hblocker, s₆, hworktrees, s₇, hrefresh,
    s₈, hevent, -, rfl⟩ := h
  obtain ⟨rfl, -⟩ := requireLiveApplyGateEvidence_ok hevidence
  replace hr : s₀.board.subtask q.subtaskId = some r := hr
  have hqueued : s₃.board.subtask = s₀.board.subtask := by
    rw [(updateQueueItem_board hqueue fun _ => rfl).2]
  have hX : ReservedId q.subtaskId ∨ s₀.Due r.metaTaskId r.metaTaskId := by
    by_cases hres : ReservedId q.subtaskId
    · exact .inl hres
    · exact .inr ⟨rfl, not_sealed_of_going hres hr (SubtaskKind.going_of_allows hallowed)⟩
  have happlied : Levels s₀.Known (s₀.Due r.metaTaskId) s₃ s₄ := by
    refine updateSubtask_levels hsubtask (fun _ => ⟨rfl, rfl⟩) fun r' hr' _ => ?_
    rw [hqueued, hr] at hr'
    cases hr'
    exact hX.imp_right .inl
  have hqueue : Levels s₀.Known (s₀.Due r.metaTaskId) s₀ s₃ :=
    levels_of_side (updateIn_touches (fun _ _ => rfl) _ _) hqueue
  exact Tends.trans (Tends.of_refresh (((hqueue.trans happlied).trans
    (levels_of_side (recordArchiveBlocker_touches (by decide)) hblocker)).trans
    (levels_of_side (markApplyWorktreesForQueue_touches (by decide)) hworktrees)) hrefresh)
    (tends_of_side (appendSessionEvent_touches (by decide)) hevent)

/-- What a cancellation leaves behind. -/
structure Cancels (m : MetaTaskId) (now : ℤ) (s s' : Db) : Prop where
  going : ∃ row, s.metaTasks.get? m = some row ∧ row.state ≠ .cancelled ∧
    s'.metaTasks.get? m = some { row with state := .cancelled, updatedAt := now }
  others : ∀ m', m' ≠ m → s'.metaTasks.get? m' = s.metaTasks.get? m'
  subtasks : s'.board.subtask = fun id => (s.board.subtask id).map fun r =>
    if r.metaTaskId = m then r.cancelled now else r
  queue : ∀ {k q r}, s'.board.queue k = some q → s.board.subtask q.subtaskId = some r →
    r.metaTaskId = m → ¬q.isOpen

theorem cancelMetaTask_run {req : CancelMetaTaskReq} :
    ∃ body, cancelMetaTask req now = mutation req.sessionToken.val "cancel_meta_task"
        req.idempotencyKey (.cancelMetaTask req) now body ∧
      ∀ {s v s'}, body s = (.ok v, s') → Cancels req.metaTaskId now s s' := by
  refine ⟨_, rfl, fun {s v s'} h => ?_⟩
  simp only [Tx.bind_ok, requireRole_ok, Tx.lift_ok, loadMetaTask_ok, ensureTransition_ok,
    Tx.ensure_ok, selectFrom_ok, Tx.pure_ok, and_assoc, exists_and_left, exists_eq_left',
    Tx.exists_unit] at h
  obtain ⟨_, -, -, -, -, -, row, hrow, -, hcompleted, hlive, n, s₂, hmeta, -, claims, s₃, hload, s₄,
    hrevoke, _, s₅, hqueue, _, s₆, hcancel, s₇, hevent, -, rfl⟩ := h
  rw [(loadClaimsForMetaTask_ok hload).1] at hrevoke
  have hmetas : s₇.metaTasks = s₂.metaTasks := by
    have hafter : Touches [.sessions, .subtasks, .claims, .readyQueue, .events] s₂ s₇ :=
      (((Tx.Within.forEach (fun _ => .bind (updateIn_touches (fun _ _ => rfl) _ _) fun _ =>
        clearOwnerOfClaim_touches (by decide)) _).run hrevoke).trans
        ((updateIn_touches (fun _ _ => rfl) _ _).run hqueue)).trans
        (((updateSubtasks_touches (by decide) _ _ (by exact fun _ => rfl)).run hcancel).trans
          ((appendSessionEvent_touches (by decide)).run hevent))
    exact hafter.same fun _ => rfl
  have hget : ∀ m, s₂.metaTasks.get? m = modify s.metaTasks.get? req.metaTaskId (fun r =>
      if r.state ≠ .completed ∧ r.state ≠ .cancelled then
        { r with state := .cancelled, updatedAt := now } else r) m := by
    obtain ⟨-, t, rfl, ht⟩ := updateIn_get? (S := metaTaskSchema) hmeta fun _ => rfl
    exact fun m => congrFun ht m
  have hrevoked : s₄.board.subtask = s.board.subtask := by
    have hmeta : SameBoard s s₂ := updateIn_sameBoard (fun _ _ => rfl) _ _ hmeta
    rw [← hmeta]
    exact congrArg Rounds.subtask (revokeClaims_claimsOnly hrevoke).2
  have hb₅ := updateIn_map_board (B := fun g => { s₄.board with queue := g }) (fun _ => rfl) hqueue
    fun _ _ => rfl
  have hb₆ : s₆.board = _ := updateSubtasks_board hcancel fun _ => rfl
  have hb₇ : s₇.board = s₆.board := appendSessionEvent_sameBoard hevent
  refine ⟨⟨row, hrow, hlive, ?_⟩, fun m' hm' => ?_, ?_, fun {k q r} hq hr hm hopen => ?_⟩
  · rw [hmetas, hget, modify_of_some hrow, put_self, if_pos ⟨hcompleted, hlive⟩]
  · rw [hmetas, hget, modify_of_ne hm']
  · rw [hb₇, hb₆, hb₅]
    show (fun id => (s₄.board.subtask id).map _) = _
    rw [hrevoked]
    rfl
  · rw [hb₇, hb₆, hb₅] at hq
    obtain ⟨q₀, -, rfl⟩ := Option.map_eq_some_iff.mp hq
    have hr₄ : s₄.board.subtask q₀.subtaskId = some r := by
      rw [hrevoked, ← hr]
      split_ifs <;> rfl
    split_ifs at hopen with hmatch
    · simp [ReadyQueueRow.isOpen] at hopen
    · refine hmatch ⟨List.mem_map.mpr ⟨r, mem_select_metaTask.mpr ⟨?_, hm⟩, ?_⟩, hopen⟩
      · rw [show r.subtaskId = q₀.subtaskId from Table.key_of_get? hr₄]
        exact hr₄
      · exact Table.key_of_get? hr₄

theorem Cancels.tends (h : Cancels m now s s') : Tends s s' := by
  obtain ⟨row, hrow, hlive, hrow'⟩ := h.going
  have hlevel : Level s.Known (fun m' => m' = m) s.board.subtask s'.board.subtask := by
    rw [h.subtasks]
    refine .of_change fun id => Change.of_rel (rel_map fun r _ => ?_)
    split_ifs with hm
    · exact ⟨rfl, .inr (.inl hm)⟩
    · exact .refl r
  refine .of_level hlevel ?_ ?_ ?_ ?_ ?_
  · rintro m rfl ⟨⟨row₀, hrow₀, hcancelled⟩, -⟩
    rw [hrow] at hrow₀
    cases hrow₀
    exact hlive hcancelled
  · intro m' hm'
    rw [Db.metaTaskState, h.others m' hm', Db.metaTaskState]
  · rintro m rfl -
    exact ⟨_, hrow', rfl⟩
  · rintro m rfl -
    exact ⟨_, hrow'⟩
  · rintro m rfl - row₀ hrow₀ hlive₀
    rw [hrow'] at hrow₀
    cases hrow₀
    exact absurd rfl hlive₀

theorem cancelMetaTask_tends {req : CancelMetaTaskReq} :
    Tx.Keeps Tends (cancelMetaTask req now) := by
  obtain ⟨body, hbody, hrun⟩ := @cancelMetaTask_run now req
  rw [hbody]
  exact mutation_keeps tends_overlooks fun s v s' h => (hrun h).tends

/-! ## Every operation -/

/-- Every operation that does not misname a subtask tends the meta-tasks. -/
theorem Operation.run_tends {env : Env} {op : Operation} (hs : Coherent s.board.toLeases)
    (hm : s.board.Mended) (hx : s.rounds.Paired) (h : op.run env now s = (.ok v, s')) :
    Tends s s' := by
  by_cases hsub : .subtasks ∈ op.tables ∨ .metaTasks ∈ op.tables
  swap
  · rw [not_or] at hsub
    exact ((Operation.run_touches env op).run h).tends hsub.1 hsub.2
  have hintake : ∀ s s', Touches intakeTables s s' → Tends s s' :=
    fun _ _ h => h.tends (by decide) (by decide)
  have hsubmit : ∀ k prompt, Tx.Keeps Tends (submitMetaTaskTx k prompt now) :=
    fun _ _ => submitMetaTaskTx_tends
  have hcreate : ∀ req, Tx.Keeps Tends (createWorkSubtaskTx req now) :=
    fun _ => createWorkSubtaskTx_tends
  have hn : Named s.board.toLeases := hs.named
  have ha : Anchored s.board.toLeases := hs.anchored
  cases op
  case exitSession req => exact (exitSession_levels h).tends
  case reapStaleSessions threshold => exact (reapStaleSessions_levels h).tends
  case expireOldClaims => exact (expireOldClaims_levels h).tends
  case claimSubtask req => exact (claimSubtask_levels h).tends
  case claimNextSubtask req => exact (claimNextSubtask_levels hn hm h).tends
  case claimNextRoutedSubtask req => exact (claimNextRoutedSubtask_levels hn hm h).tends
  case startSubtask req => exact (startSubtask_levels h).tends
  case releaseClaim req => exact (releaseClaim_levels h).tends
  case publishArtifact req => exact (publishArtifact_levels h).tends
  case requestReview req => exact (requestReview_levels hn h).tends
  case reconcileChangesRequestedFollowups req =>
    exact (reconcileChangesRequestedFollowups_levels hn hm h).tends
  case enqueueForApply req => exact (enqueueForApply_levels h).tends
  case reconcileApplyQueue req => exact (reconcileApplyQueue_levels h).tends
  case beginOpenSpecArchiveCleanup req =>
    exact (beginOpenSpecArchiveCleanup_levels ha (fun hrow => ⟨_, hrow⟩) h).tends
  case finishOpenSpecArchiveCleanup req =>
    exact (finishOpenSpecArchiveCleanup_levels ha h).tends
  case submitMetaTask req =>
    exact mutation_keeps tends_overlooks (.bind submitMetaTaskTx_tends fun _ => .pure _) h
  case cancelMetaTask req => exact cancelMetaTask_tends h
  case createSubtask req =>
    exact mutation_keeps tends_overlooks (.bind createWorkSubtaskTx_tends fun _ => .pure _) h
  case createWorkSubtask req =>
    exact mutation_keeps tends_overlooks (.bind createWorkSubtaskTx_tends fun _ => .pure _) h
  case importBdV1WorkSubtask req =>
    exact importBdV1WorkSubtask_keeps tends_overlooks hintake hsubmit hcreate h
  case importBdV1 req source => exact importBdV1_keeps tends_overlooks hintake hsubmit hcreate h
  case importOpenSpec k source => exact importOpenSpec_tends h
  case importProse req => exact importProse_keeps tends_overlooks hintake hsubmit hcreate h
  case abandonSubtask req => exact abandonSubtask_tends h
  case finishSubtask req =>
    exact leasedMutation_keeps tends_overlooks (fun _ => recordDirectOutcome_tends) h
  case retrySubtask req =>
    exact leasedMutation_keeps tends_overlooks (fun _ => recordDirectOutcome_tends) h
  case failSubtask req =>
    exact leasedMutation_keeps tends_overlooks (fun _ => recordDirectOutcome_tends) h
  case decideReview req => exact decideReview_tends hn hx h
  case recordPermissiveLandingReceipt req => exact recordPermissiveLandingReceipt_tends hn hx h
  case markApplied req => exact markApplied_tends hn h
  all_goals exact absurd hsub (of_decide_eq_false rfl)

end Tends

end Covey

import Covey.Footprint.Calls
import Covey.Lib.Acyclic
import Covey.Script

/-!
# The dependency graph

New work waits for subtasks that exist, and nothing waits for it yet, so that
creation closes no cycle. An OpenSpec import replaces what the tasks of its source wait for
by what the source says, without looking for cycles: the graph stays acyclic exactly as far
as the sources are.

* `createWorkSubtaskTx_wired`: creation keeps the graph acyclic.
* `importOpenSpec_wired`: an import of an acyclic source keeps it acyclic.
* `dependencies_acyclic`: the graph after a run.
-/

namespace Covey

open Relational

/-- The first subtask waits for the second. -/
def Db.DependsOn (s : Db) (a b : SubtaskId) : Prop :=
  ∃ d ∈ s.dependencies.rows, d.subtaskId = a ∧ d.dependsOnSubtaskId = b

/-- A dependency entry of the task names the other one (apply.rs:253-282). -/
def OpenSpecSourceTask.names (task other : OpenSpecSourceTask) : Prop :=
  ∃ raw ∈ task.dependencies, raw.val ≠ "none" ∧
    ∃ token ∈ dependencyTokens raw.val, dependencyTokenMatches token other.taskId

instance (task other : OpenSpecSourceTask) : Decidable (task.names other) :=
  inferInstanceAs (Decidable (∃ _ ∈ _, _ ∧ _))

/-- In the source, the first task waits for the second. -/
def OpenSpecSourceSnapshot.DependsOn (source : OpenSpecSourceSnapshot) (a b : OpenSpecTaskId) :
    Prop :=
  a ≠ b ∧ ∃ task ∈ source.tasks, ∃ other ∈ source.tasks,
    task.taskId = a ∧ other.taskId = b ∧ task.names other

/-- The sources that the operation imports have no task that waits for itself, directly or
    through others. -/
def Operation.Untangled : Operation → Prop
  | .importOpenSpec _ source => Acyclic source.DependsOn
  | _ => True

/-- The graph has no cycle, and nothing waits for a subtask that does not exist. -/
structure Wired (s : Db) : Prop where
  acyclic : Acyclic s.DependsOn
  known : ∀ a b, s.DependsOn a b → (s.subtasks.get? b).isSome

section Wired

variable {now : ℤ} {s s' : Db}

theorem wired_overlooks : Overlooks (Tx.Preserves Wired) := fun _ _ _ _ h => ⟨h.acyclic, h.known⟩

theorem Touches.exists_subtask {l : List TableName} (h : Touches l s s') {id : SubtaskId}
    (hid : (s.subtasks.get? id).isSome) : (s'.subtasks.get? id).isSome := by
  obtain ⟨r, hr⟩ := Option.isSome_iff_exists.mp hid
  obtain ⟨r', hr', -⟩ := h.subtasks id r hr
  exact Option.isSome_of_eq_some hr'

/-- Without a write of dependencies the graph is what it was. -/
theorem Touches.dependsOn {l : List TableName} (h : Touches l s s') (hl : .dependencies ∉ l) :
    s'.DependsOn = s.DependsOn := by
  have hrows : (s'.without l).rows.dependencies = (s.without l).rows.dependencies :=
    congrArg Db.dependencies h.rows
  simp only [Db.rows, Db.without, if_neg hl] at hrows
  unfold Db.DependsOn
  rw [hrows]

theorem Touches.wired {l : List TableName} (h : Touches l s s') (hl : .dependencies ∉ l) :
    Tx.Preserves Wired s s' := by
  intro hw
  have hsame := h.dependsOn hl
  refine ⟨hsame ▸ hw.acyclic, fun a b hab => h.exists_subtask (hw.known a b ?_)⟩
  rwa [hsame] at hab

theorem wired_of_touches {l : List TableName} {α : Type} {x : Txn α}
    (hx : x.Within (Touches l)) (hl : .dependencies ∉ l) : Tx.Keeps (Tx.Preserves Wired) x :=
  fun _ _ _ h => (hx.run h).wired hl

/-- The new edges satisfy `P`, which may look at the subtasks that exist. -/
structure Adds (P : Table subtaskSchema → SubtaskId → SubtaskId → Prop) (s s' : Db) : Prop where
  subtasks : s'.subtasks = s.subtasks
  edges : ∀ a b, s'.DependsOn a b → s.DependsOn a b ∨ P s.subtasks a b

section Adds

variable {P : Table subtaskSchema → SubtaskId → SubtaskId → Prop}

instance : Std.Refl (Adds P) := ⟨fun _ => ⟨rfl, fun _ _ h => .inl h⟩⟩

instance : IsTrans Db (Adds P) where
  trans s s' s'' h h' := by
    refine ⟨h'.subtasks.trans h.subtasks, fun a b hab => ?_⟩
    rcases h'.edges a b hab with hab | hnew
    · exact h.edges a b hab
    · exact .inr (h.subtasks ▸ hnew)

theorem insertDependency_adds {row : DependencyRow} {u : Unit}
    (h : insertInto Rel.dependencies row s = (.ok u, s'))
    (hP : P s.subtasks row.subtaskId row.dependsOnSubtaskId) : Adds P s s' := by
  obtain ⟨t, ht, rfl⟩ := insertInto_ok.mp h
  have hrows : t.rows = s.dependencies.rows ++ [row] := Table.insert_eq_some.mp ht
  refine ⟨rfl, fun a b hab => ?_⟩
  obtain ⟨d, hd, rfl, rfl⟩ := hab
  rcases List.mem_append.mp (hrows ▸ hd : d ∈ s.dependencies.rows ++ [row]) with hd | hd
  · exact .inl ⟨d, hd, rfl, rfl⟩
  · obtain rfl := List.mem_singleton.mp hd
    exact .inr hP

/-- A new reference to the source of an edge leaves the edge where it is. -/
theorem updateDependency_adds {p : DependencyRow → Prop} [DecidablePred p] {ref : String} {n : ℕ}
    (h : updateIn Rel.dependencies p (fun d => { d with sourceRef := ref }) s = (.ok n, s')) :
    Adds P s s' := by
  obtain ⟨t, ht, -, rfl⟩ := updateIn_ok.mp h
  have hrows : t.rows = _ := Table.update_eq_some.mp ht
  refine ⟨rfl, fun a b hab => .inl ?_⟩
  obtain ⟨d, hd, rfl, rfl⟩ := hab
  obtain ⟨old, hold, rfl⟩ := List.mem_map.mp (hrows ▸ hd)
  refine ⟨old, hold, ?_⟩
  split_ifs <;> exact ⟨rfl, rfl⟩

end Adds

/-! ## Creation -/

theorem insertSubtaskDependencies_adds {id : SubtaskId} {dependsOn : List SubtaskId} :
    Tx.Keeps (Adds fun subtasks a b => a = id ∧ b ≠ id ∧ (subtasks.get? b).isSome)
      (insertSubtaskDependencies id dependsOn now) := by
  intro s u s' h
  simp only [insertSubtaskDependencies, Tx.bind_ok, Tx.lift_ok, and_assoc, exists_and_left,
    exists_eq_left'] at h
  obtain ⟨deps, hdeps, h⟩ := h
  have hself : id ∉ deps := by
    simp only [normalizeSubtaskDependencies] at hdeps
    split_ifs at hdeps with hlong hmem
    cases hdeps
    exact hmem
  refine (?_ : Tx.Keeps (Adds _) _) h
  refine .forEach fun dep hdep => ?_
  intro s u s' h
  simp only [Tx.bind_ok, subtaskExists_ok, Tx.ensure_ok, and_assoc, exists_and_left,
    exists_eq_left', Tx.exists_unit] at h
  obtain ⟨hfound, hins⟩ := h
  exact insertDependency_adds hins ⟨rfl, fun heq => hself (heq ▸ hdep), hfound⟩

/-- The id of a created subtask is the requested one, was free, and is in use afterwards. -/
theorem insertWorkSubtask_new {req : CreateWorkSubtaskReq} {id : SubtaskId}
    (h : insertWorkSubtask req now s = (.ok id, s')) :
    s.subtasks.get? id = none ∧ (s'.subtasks.get? id).isSome ∧
      ∀ requested, req.subtaskId = some requested → id = requested := by
  simp only [insertWorkSubtask, Tx.bind_ok, requireRole_ok, Tx.lift_ok, loadMetaTask_ok,
    ensureMetaTaskIsSchedulable_ok, subtaskExists_ok, Tx.ensure_ok, Tx.pure_ok, and_assoc,
    exists_and_left, exists_eq_left', Tx.exists_unit, insertSubtask] at h
  obtain ⟨_, -, -, -, -, -, -, _, -, -, -, id, s₁, hid, -, hfree, s₃, ⟨s₂, hrow, hfence⟩, s₄, hevent, s₅,
    hrefresh, rfl, rfl⟩ := h
  have hsame : s₁.board.subtask = s.board.subtask := by rw [(requestedSubtaskId_board hid).1]
  have hnone : s₁.board.subtask id = none := Option.isSome_eq_false_iff.mp hfree |> Option.isNone_iff_eq_none.mp
  refine ⟨(congrFun hsame id).symm.trans hnone, ?_, fun requested hreq => ?_⟩
  swap
  · rw [hreq] at hid
    exact (Tx.pure_ok.mp hid).1.symm
  have hnew : (s₂.subtasks.get? id).isSome := by
    obtain ⟨-, t, rfl, ht⟩ := insertInto_get? hrow
    exact Option.isSome_of_eq_some ((congrFun ht id).trans put_self)
  have hfence := (insertInto_touches (l := [.fenceCounters]) (fun _ _ => rfl) _).run hfence
  have hevent := (appendSessionEvent_touches (List.Subset.refl _)).run hevent
  have hrefresh := (refreshMetaTaskState_touches (List.Subset.refl _)).run hrefresh
  exact hrefresh.exists_subtask (hevent.exists_subtask (hfence.exists_subtask hnew))

theorem createWorkSubtaskTx_wired {req : CreateWorkSubtaskReq} :
    Tx.Keeps (Tx.Preserves Wired) (createWorkSubtaskTx req now) := by
  intro s _ s' h hw
  simp only [createWorkSubtaskTx, Tx.bind_ok, Tx.pure_ok, Tx.exists_unit] at h
  obtain ⟨id, s₁, hins, s₂, hdeps, rfl, rfl⟩ := h
  have htouch := (insertWorkSubtask_emits (List.Subset.refl _)).touches.run hins
  have hw₁ := htouch.wired (by decide) hw
  have hadds := insertSubtaskDependencies_adds hdeps
  obtain ⟨hfree, -, -⟩ := insertWorkSubtask_new hins
  -- nothing waits for the new subtask yet
  have hsource : ∀ a, ¬s₁.DependsOn a id := by
    intro a ha
    rw [htouch.dependsOn (by decide)] at ha
    have := hw.known _ _ ha
    rw [hfree] at this
    cases this
  refine ⟨hw₁.acyclic.extend (fun a b hab => (hadds.edges a b hab).imp_right And.left) ?_, ?_⟩
  · intro a ha
    rcases hadds.edges _ _ ha with ha | ⟨-, hne, -⟩
    · exact hsource a ha
    · exact hne rfl
  · intro a b hab
    rw [hadds.subtasks]
    rcases hadds.edges a b hab with hab | ⟨-, -, hsome⟩
    · exact hw₁.known a b hab
    · exact hsome

/-! ## Imports -/

/-- A subtask record of an import, as the comparison with the store builds it. -/
structure OpenSpecSubtaskRecord.Compared (source : OpenSpecSourceSnapshot) (s : Db)
    (record : OpenSpecSubtaskRecord) : Prop where
  task : record.task ∈ source.tasks
  name : record.subtaskId.val = openspecSubtaskName source.changeId record.task.taskId
  known : record.action = .created ∨ (s.subtasks.get? record.subtaskId).isSome
  conflict : record.action = .conflict → record.conflict.isSome

theorem diffOpenSpecTask_compared {source : OpenSpecSourceSnapshot} {m : MetaTaskId}
    {task : OpenSpecSourceTask} {record : OpenSpecSubtaskRecord} (htask : task ∈ source.tasks)
    (h : diffOpenSpecTask source m task s = (.ok record, s')) :
    s' = s ∧ record.Compared source s := by
  simp only [diffOpenSpecTask, Tx.bind_ok, Tx.lift_ok, Tx.get_ok, and_assoc, exists_and_left,
    exists_eq_left', Tx.exists_unit] at h
  obtain ⟨-, id, hid, h⟩ := h
  have hname := deterministicId_val hid
  cases hrow : s.subtasks.get? id with
  | none =>
    simp only [hrow, Tx.pure_ok] at h
    obtain ⟨rfl, rfl⟩ := h
    exact ⟨rfl, htask, hname, .inl rfl, fun hc => by cases hc⟩
  | some row =>
    have hsome := Option.isSome_of_eq_some hrow
    simp only [hrow, Tx.bind_ok, Tx.lift_ok, and_assoc, exists_and_left, exists_eq_left'] at h
    obtain ⟨existing, -, h⟩ := h
    split_ifs at h <;>
    · obtain ⟨rfl, rfl⟩ := Tx.pure_ok.mp h
      exact ⟨rfl, htask, hname, .inr hsome, by simp⟩

theorem diffOpenSpecTasks_compared {source : OpenSpecSourceSnapshot} {m : MetaTaskId}
    {tasks : List OpenSpecSourceTask} {records : List OpenSpecSubtaskRecord}
    (hsub : tasks ⊆ source.tasks)
    (h : Tx.mapEach tasks (diffOpenSpecTask source m) s = (.ok records, s')) :
    s' = s ∧ ∀ record ∈ records, record.Compared source s := by
  induction tasks generalizing s records with
  | nil =>
    obtain ⟨rfl, rfl⟩ := Tx.mapEach_nil.mp h
    exact ⟨rfl, by simp⟩
  | cons task tasks ih =>
    obtain ⟨hmem, hsub⟩ := List.cons_subset.mp hsub
    obtain ⟨record, s₁, hfirst, rest, hrest, rfl⟩ := Tx.mapEach_cons_ok.mp h
    obtain ⟨rfl, hrecord⟩ := diffOpenSpecTask_compared hmem hfirst
    obtain ⟨rfl, hrecords⟩ := ih hsub hrest
    exact ⟨rfl, List.forall_mem_cons.mpr ⟨hrecord, hrecords⟩⟩

theorem buildOpenSpecImportDiff_compared {source : OpenSpecSourceSnapshot}
    {diff : OpenSpecImportDiff} (h : buildOpenSpecImportDiff source s = (.ok diff, s')) :
    s' = s ∧ ∀ record ∈ diff.subtasks, record.Compared source s := by
  simp only [buildOpenSpecImportDiff, Tx.bind_ok, Tx.lift_ok, Tx.get_ok, and_assoc,
    exists_and_left, exists_eq_left', Tx.exists_unit] at h
  obtain ⟨m, -, prompt, -, h⟩ := h
  cases hrow : s.metaTasks.get? m with
  | none =>
    simp only [hrow, Tx.bind_ok, Tx.pure_ok, and_assoc, exists_and_left, exists_eq_left'] at h
    obtain ⟨records, _, hrecords, rfl, rfl⟩ := h
    exact diffOpenSpecTasks_compared (List.Subset.refl _) hrecords
  | some row =>
    simp only [hrow, Tx.bind_ok, Tx.lift_ok, Tx.pure_ok, and_assoc, exists_and_left,
      exists_eq_left'] at h
    obtain ⟨_, -, records, _, hrecords, rfl, rfl⟩ := h
    exact diffOpenSpecTasks_compared (List.Subset.refl _) hrecords

theorem applyOpenSpecSubtask_wired {k : SessionToken} {m : MetaTaskId}
    {record : OpenSpecSubtaskRecord} :
    Tx.Keeps (Tx.Preserves Wired) (applyOpenSpecSubtask k m now record) := by
  have hrecord : Tx.Keeps (Tx.Preserves Wired) (recordOpenSpecImport k record.provenance now) :=
    wired_of_touches (recordOpenSpecImport_touches (List.Subset.refl _)) (by decide)
  unfold applyOpenSpecSubtask
  cases record.action with
  | created =>
    exact .bind (.lift _) fun _ => .bind (.lift _) fun _ => .bind createWorkSubtaskTx_wired fun _ =>
      hrecord
  | updated =>
    refine .bind (wired_of_touches
      (updateSubtasks_touches (List.Subset.refl _) _ _ fun _ => rfl) (by decide)) fun _ => ?_
    split_ifs
    · exact .bind .get fun _ => .ensure _ _
    · exact hrecord
  | unchanged => exact .pure _
  | conflict => exact .pure _

/-- After its record was applied, the subtask of a task exists. -/
theorem applyOpenSpecSubtask_exists {k : SessionToken} {m : MetaTaskId}
    {record : OpenSpecSubtaskRecord} {u : Unit}
    (hknown : record.action = .created ∨ (s.subtasks.get? record.subtaskId).isSome)
    (h : applyOpenSpecSubtask k m now record s = (.ok u, s')) :
    (s'.subtasks.get? record.subtaskId).isSome := by
  rcases hknown with haction | hknown
  · simp only [applyOpenSpecSubtask, haction, createWorkSubtaskTx, Tx.bind_ok, Tx.lift_ok, Tx.pure_ok,
      and_assoc, exists_and_left, exists_eq_left', Tx.exists_unit] at h
    obtain ⟨_, -, _, -, id, s₃, ⟨_, s₁, hins, s₂, hdeps, rfl, rfl⟩, hrecord⟩ := h
    obtain ⟨-, hnew, hid⟩ := insertWorkSubtask_new hins
    have hdeps := (insertSubtaskDependencies_touches (List.Subset.refl _)).run hdeps
    have hrecord := (recordOpenSpecImport_touches (List.Subset.refl _)).run hrecord
    rw [hid _ rfl] at hnew
    exact hrecord.exists_subtask (hdeps.exists_subtask hnew)
  · exact (applyOpenSpecSubtask_touches.run h).exists_subtask hknown

theorem applyOpenSpecSubtasks_exist {k : SessionToken} {m : MetaTaskId}
    {records : List OpenSpecSubtaskRecord} {u : Unit}
    (hknown : ∀ record ∈ records,
      record.action = .created ∨ (s.subtasks.get? record.subtaskId).isSome)
    (h : Tx.forEach records (applyOpenSpecSubtask k m now) s = (.ok u, s')) :
    ∀ record ∈ records, (s'.subtasks.get? record.subtaskId).isSome := by
  induction records generalizing s with
  | nil => simp
  | cons record records ih =>
    obtain ⟨s₁, hfirst, hrest⟩ := Tx.forEach_cons_ok.mp h
    obtain ⟨hknown, hothers⟩ := List.forall_mem_cons.mp hknown
    have htouch := applyOpenSpecSubtask_touches.run hfirst
    have hlast : Touches openSpecTables s₁ s' :=
      (Tx.Within.forEach (fun _ => applyOpenSpecSubtask_touches) records).run hrest
    refine List.forall_mem_cons.mpr
      ⟨hlast.exists_subtask (applyOpenSpecSubtask_exists hknown hfirst), ih (fun r hr => ?_) hrest⟩
    exact (hothers r hr).imp_right htouch.exists_subtask

/-- The edge that a record's entries put between the subtasks of two tasks. -/
def RecordEdge (records : List OpenSpecSubtaskRecord) (a b : SubtaskId) : Prop :=
  ∃ record ∈ records, ∃ other ∈ records, record.subtaskId = a ∧ other.subtaskId = b ∧ b ≠ a ∧
    record.task.names other.task

theorem mem_resolvedDependencyIds {records : List OpenSpecSubtaskRecord}
    {record : OpenSpecSubtaskRecord} {b : SubtaskId}
    (h : b ∈ resolvedDependencyIds record
      (((records.map fun r => (r.task.taskId, r.subtaskId)).dedup).insertionSort
        fun a b => a.1.val ≤ b.1.val)) :
    ∃ other ∈ records, other.subtaskId = b ∧ record.task.names other.task := by
  simp only [resolvedDependencyIds, List.mem_flatMap, List.mem_filter, List.mem_filterMap,
    List.mem_insertionSort, List.mem_dedup, List.mem_map, decide_eq_true_eq] at h
  obtain ⟨raw, ⟨hraw, hnone⟩, _, ⟨other, hother, rfl⟩, hmatch⟩ := h
  split_ifs at hmatch with htoken
  cases hmatch
  exact ⟨other, hother, rfl, raw, hraw, hnone, htoken⟩

/-- The edges out of the subtasks of the records are replaced by those of the source. -/
theorem upsertSubtaskDependencies_edges {records : List OpenSpecSubtaskRecord} {u : Unit}
    (h : upsertSubtaskDependencies records now s = (.ok u, s')) :
    s'.subtasks = s.subtasks ∧ ∀ a b, s'.DependsOn a b →
      s.DependsOn a b ∧ (∀ record ∈ records, record.action ≠ .conflict → record.subtaskId ≠ a) ∨
        RecordEdge records a b := by
  simp only [upsertSubtaskDependencies] at h
  generalize hl : records.filter (fun r => decide (r.action ≠ .conflict)) = l at h
  have hsub : l ⊆ records := fun r hr => List.mem_of_mem_filter (hl ▸ hr)
  have hloop : s'.subtasks = s.subtasks ∧ ∀ a b, s'.DependsOn a b →
      s.DependsOn a b ∧ (∀ record ∈ l, record.subtaskId ≠ a) ∨ RecordEdge records a b := by
    clear hl
    induction l generalizing s with
    | nil =>
      obtain ⟨-, rfl⟩ := Prod.mk.inj h
      exact ⟨rfl, fun a b hab => .inl ⟨hab, by simp⟩⟩
    | cons record l ih =>
      obtain ⟨hmem, hsub⟩ := List.cons_subset.mp hsub
      obtain ⟨s₂, hfirst, hrest⟩ := Tx.forEach_cons_ok.mp h
      obtain ⟨_, s₁, hdelete, hinsert⟩ := Tx.bind_ok.mp hfirst
      obtain ⟨hsubtasks, hedges⟩ := ih hrest hsub
      have hadds : Adds (fun _ a b => RecordEdge records a b) s₁ s₂ := by
        refine (?_ : Tx.Keeps (Adds _) _) hinsert
        refine .forEach fun dependency hdep => .bind (fun _ _ _ h => ?_) fun found => ?_
        · rw [← (lookup_ok.mp h).2]
          exact refl _
        obtain ⟨hdep, hne⟩ := List.mem_filter.mp hdep
        obtain ⟨other, hother, rfl, hnames⟩ := mem_resolvedDependencyIds hdep
        have hedge : RecordEdge records record.subtaskId other.subtaskId :=
          ⟨record, hmem, other, hother, rfl, rfl, by simpa using hne, hnames⟩
        cases found with
        | none => exact fun _ _ _ h => insertDependency_adds h hedge
        | some _ => exact .bind (fun _ _ _ h => updateDependency_adds h) fun _ => .pure _
      have hdelete : s₁.subtasks = s.subtasks ∧ ∀ a b, s₁.DependsOn a b →
          s.DependsOn a b ∧ record.subtaskId ≠ a := by
        obtain ⟨-, rfl⟩ := Prod.mk.inj hdelete
        refine ⟨rfl, fun a b hab => ?_⟩
        obtain ⟨d, hd, rfl, rfl⟩ := hab
        obtain ⟨hd, hne⟩ := List.mem_filter.mp hd
        exact ⟨⟨d, hd, rfl, rfl⟩, fun heq => by simp [heq] at hne⟩
      refine ⟨hsubtasks.trans (hadds.subtasks.trans hdelete.1), fun a b hab => ?_⟩
      rcases hedges a b hab with ⟨hab, hout⟩ | hnew
      · rcases hadds.edges a b hab with hab | hnew
        · obtain ⟨hab, hne⟩ := hdelete.2 a b hab
          exact .inl ⟨hab, List.forall_mem_cons.mpr ⟨hne, hout⟩⟩
        · exact .inr hnew
      · exact .inr hnew
  refine ⟨hloop.1, fun a b hab => (hloop.2 a b hab).imp_left ?_⟩
  rintro ⟨hold, hout⟩
  exact ⟨hold, fun record hr haction => hout record (by rw [← hl]; simp [hr, haction])⟩

theorem openspecSubtaskName_injective (changeId : OpenSpecChangeId) :
    Function.Injective (openspecSubtaskName changeId) := by
  intro a b hab
  have hlist := congrArg String.toList hab
  simp only [openspecSubtaskName, String.toList_append, List.append_cancel_left_eq] at hlist
  have hval := String.toList_inj.mp hlist
  cases a
  cases b
  cases hval
  rfl

/-- The edges of the records are those of the source, under the names of the subtasks. -/
theorem recordEdge_acyclic {source : OpenSpecSourceSnapshot} {records : List OpenSpecSubtaskRecord}
    (hrecords : ∀ record ∈ records, record.Compared source s) (h : Acyclic source.DependsOn) :
    Acyclic (RecordEdge records) := by
  refine .of_map (e := Text.val) (openspecSubtaskName_injective source.changeId)
    (fun a b hab => ?_) h
  obtain ⟨record, hr, other, ho, rfl, rfl, hne, hnames⟩ := hab
  have hrecord := hrecords record hr
  have hother := hrecords other ho
  refine ⟨_, _, hrecord.name, hother.name, fun heq => hne ?_, record.task, hrecord.task, other.task,
    hother.task, rfl, rfl, hnames⟩
  exact Text.ext (by rw [hother.name, hrecord.name, heq])

theorem importOpenSpec_wired {k : SessionToken} {source : OpenSpecSourceSnapshot}
    (hsource : Acyclic source.DependsOn) :
    Tx.Keeps (Tx.Preserves Wired) (importOpenSpec k source now) := by
  intro s v s' h hw
  simp only [importOpenSpec, Tx.bind_ok, Tx.lift_ok, requireRole_ok, Tx.pure_ok, and_assoc,
    exists_and_left, exists_eq_left', Tx.exists_unit] at h
  obtain ⟨-, _, -, -, -, -, diff, s₁, hdiff, s₂, happly, -, rfl⟩ := h
  obtain ⟨rfl, hrecords⟩ := buildOpenSpecImportDiff_compared hdiff
  rcases Tx.whenever_ok.mp happly with ⟨hclean, happly⟩ | ⟨-, -, rfl⟩
  swap
  · exact hw
  simp only [applyOpenSpecImportDiff, Tx.bind_ok, Tx.exists_unit] at happly
  obtain ⟨s₂, hmeta, s₃, hsubtasks, s₄, hdeps, hscope⟩ := happly
  have hmeta := (applyOpenSpecMetaTask_touches (List.Subset.refl _)).run hmeta
  have hscope := (upsertOpenSpecSubtaskScope_touches (List.Subset.refl _)).run hscope
  refine hscope.wired (by decide) ?_
  have hw₃ : Wired s₃ := by
    have hkeeps : Tx.Keeps (Tx.Preserves Wired)
        (Tx.forEach diff.subtasks (applyOpenSpecSubtask k diff.metaTaskId now)) :=
      .forEach fun _ _ => applyOpenSpecSubtask_wired
    exact hkeeps hsubtasks (hmeta.wired (by decide) hw)
  have hknown := applyOpenSpecSubtasks_exist
    (fun r hr => (hrecords r hr).known.imp_right hmeta.exists_subtask) hsubtasks
  obtain ⟨hsame, hedges⟩ := upsertSubtaskDependencies_edges hdeps
  -- a conflict would have been reported
  have hclean : ∀ record ∈ diff.subtasks, record.action ≠ .conflict := by
    intro record hr haction
    obtain ⟨reason, hreason⟩ := Option.isSome_iff_exists.mp ((hrecords record hr).conflict haction)
    have hmem : (record.subtaskId, reason) ∈ (diff.result source.changeId).conflicts :=
      List.mem_filterMap.mpr ⟨record, hr, by simp [hreason]⟩
    rw [List.isEmpty_iff.mp hclean] at hmem
    cases hmem
  constructor
  · refine hw₃.acyclic.replace (C := {a | ∃ record ∈ diff.subtasks, record.subtaskId = a})
      (recordEdge_acyclic hrecords hsource) ?_ fun a b hab => (hedges a b hab).imp_left ?_
    · rintro a b ⟨record, hr, other, ho, ha, hb, -⟩
      exact ⟨⟨record, hr, ha⟩, other, ho, hb⟩
    · rintro ⟨hold, hout⟩
      refine ⟨hold, ?_⟩
      rintro ⟨record, hr, ha⟩
      exact hout record hr (hclean record hr) ha
  · intro a b hab
    rw [hsame]
    rcases hedges a b hab with ⟨hold, -⟩ | ⟨record, -, other, ho, -, rfl, -⟩
    · exact hw₃.known a b hold
    · exact hknown other ho

end Wired

/-! ## Runs -/

section Runs

variable {env : Env} {now : ℤ} {calls : List Call}

theorem Operation.run_wired {op : Operation} (hop : op.Untangled) :
    Tx.Keeps (Tx.Preserves Wired) (op.run env now) := by
  by_cases hdeps : .dependencies ∈ op.tables
  swap
  · exact wired_of_touches (Operation.run_touches env op) hdeps
  have hintake : ∀ s s', Touches intakeTables s s' → Tx.Preserves Wired s s' :=
    fun _ _ h => h.wired (by decide)
  have hsubmit : ∀ k prompt, Tx.Keeps (Tx.Preserves Wired) (submitMetaTaskTx k prompt now) :=
    fun _ _ => wired_of_touches (submitMetaTaskTx_emits (l := [.metaTasks, .events]) (by decide)).touches
      (by decide)
  have hcreate : ∀ req, Tx.Keeps (Tx.Preserves Wired) (createWorkSubtaskTx req now) :=
    fun _ => createWorkSubtaskTx_wired
  cases op
  case createSubtask req =>
    exact mutation_keeps wired_overlooks (.bind createWorkSubtaskTx_wired fun _ => .pure _)
  case createWorkSubtask req =>
    exact mutation_keeps wired_overlooks (.bind createWorkSubtaskTx_wired fun _ => .pure _)
  case importBdV1WorkSubtask req =>
    exact importBdV1WorkSubtask_keeps wired_overlooks hintake hsubmit hcreate
  case importBdV1 req source => exact importBdV1_keeps wired_overlooks hintake hsubmit hcreate
  case importOpenSpec k source => exact importOpenSpec_wired hop
  case importProse req => exact importProse_keeps wired_overlooks hintake hsubmit hcreate
  all_goals exact absurd hdeps (of_decide_eq_false rfl)

theorem wired_init : Wired Db.init := by
  have hnone : ∀ a b, ¬Db.init.DependsOn a b := fun a b ⟨d, hd, _⟩ => by cases hd
  exact ⟨.of_rank (fun _ => 0) fun a b h => absurd h (hnone a b), fun a b h => absurd h (hnone a b)⟩

/-- After a run that imports untangled sources only, no subtask is its own prerequisite. -/
theorem dependencies_acyclic (hrun : ∀ c ∈ calls, c.op.Untangled) :
    Acyclic (reach env calls).DependsOn := by
  have hsteps : Run.Along (next env) (fun _ c => c.op.Untangled) Db.init calls :=
    Run.along_iff.mpr fun before c rest hl => hrun c (by simp [hl])
  exact (Run.invariant (I := Wired)
    (fun s c hc => next_keeps wired_overlooks (Operation.run_wired hc)) hsteps wired_init).acyclic

end Runs

section Scripts

open Script

/-- Task `1.1`, waiting for what `first` names, and task `1.2`, which waits for it. -/
def taskPair (first : List ImportText) : OpenSpecSourceSnapshot :=
  { source with
    tasks := [
      ⟨firstTaskId, text "first", tasksPath, default, none, [], first⟩,
      ⟨secondTaskId, text "second", tasksPath, default, none, [],
        [⟨"1.1", by decide⟩]⟩] }

def taskPairImported (first : List ImportText) : List Call :=
  Script.calls [(0, register "orch" .orchestrator),
    (1, fun _ => .importOpenSpec (session 0) (taskPair first))]

instance (s : Db) (a b : SubtaskId) : Decidable (s.DependsOn a b) :=
  inferInstanceAs (Decidable (∃ _ ∈ _, _))

def firstTask : SubtaskId := text "openspec:change:1.1"

def secondTask : SubtaskId := text "openspec:change:1.2"

theorem taskPairImported_run : (reach env (taskPairImported [])).DependsOn secondTask firstTask ∧
    (reach env (taskPairImported [⟨"1.2", by decide⟩])).DependsOn secondTask firstTask ∧
    (reach env (taskPairImported [⟨"1.2", by decide⟩])).DependsOn firstTask secondTask := by
  decide +kernel

theorem dependencies_acyclic_taskPair :
    (reach env (taskPairImported [])).DependsOn secondTask firstTask ∧
      Acyclic (reach env (taskPairImported [])).DependsOn := by
  refine ⟨taskPairImported_run.1, dependencies_acyclic fun c hc => ?_⟩
  have hpair : Acyclic (taskPair []).DependsOn := by
    refine .of_rank (fun id => if id.val = "1.2" then 1 else 0) fun a b hab => ?_
    obtain ⟨-, task, htask, other, hother, rfl, rfl, hnames⟩ := hab
    revert task htask other hother
    decide +kernel
  simp only [taskPairImported, Script.calls, List.zipIdx_cons, List.zipIdx_nil, List.map_cons,
    List.map_nil, List.mem_cons, List.not_mem_nil, or_false] at hc
  rcases hc with rfl | rfl
  · trivial
  · exact hpair

/-- Two tasks of one source that name each other wait for each other. -/
theorem taskPair_tangled :
    ¬Acyclic (reach env (taskPairImported [⟨"1.2", by decide⟩])).DependsOn := by
  obtain ⟨-, hback, hforth⟩ := taskPairImported_run
  exact fun h => h firstTask (.tail (.single hforth) hback)

end Scripts

end Covey

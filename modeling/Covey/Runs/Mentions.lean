import Covey.Commits
import Covey.Paths
import Covey.Runs.Prerequisites

/-!
# Dependency entries and edges

An OpenSpec import splits the dependency entries of a task into tokens, and puts an edge to every
task whose id is a token, or ends one after a hyphen. Dots belong to tokens: the full stop at the
end of a sentence stays with the number before it.

* `mem_dependencyTokens`: the tokens are the stretches of token characters.
* `Mentions`: the entry mentions the task id as a whole number.
* `import_edges`: after an import, a task waits for the tasks that its entries mention, provided
  that no entry has a full stop after a number.
-/

namespace Covey

open Relational

/-! ## Tokens -/

/-- The character at the edge of a token, if there is one, belongs to no token. -/
def Outside (c : Option Char) : Prop := ∀ x ∈ c, isDependencyChar x = false

theorem outside_none : Outside none := fun _ h => nomatch h

/-- The tokens of a character list. -/
def tokensOf (v : List Char) : List (List Char) :=
  splitChars ' ' (v.map fun ch => if isDependencyChar ch then ch else ' ')

theorem tokensOf_cons {c : Char} {v : List Char} : tokensOf (c :: v) =
    if isDependencyChar c = true then (tokensOf v).modifyHead (c :: ·) else [] :: tokensOf v := by
  unfold tokensOf
  rw [List.map_cons, splitChars]
  by_cases hc : isDependencyChar c = true
  · have hne : c ≠ ' ' := by
      rintro rfl
      cases hc
    rw [if_pos hc, if_neg hne, if_pos hc]
    cases hsplit : splitChars ' ' (v.map fun ch => if isDependencyChar ch then ch else ' ') with
    | nil => exact absurd hsplit (splitChars_ne_nil _)
    | cons first parts => rfl
  · rw [if_neg hc, if_pos rfl, if_neg hc]

theorem tokensOf_append {c : Char} {a b : List Char} (hc : isDependencyChar c = false) :
    tokensOf (a ++ c :: b) = tokensOf a ++ tokensOf b := by
  unfold tokensOf
  rw [List.map_append, List.map_cons, if_neg (by simp [hc]), splitChars_append]

theorem tokensOf_of_forall {v : List Char} (h : ∀ c ∈ v, isDependencyChar c = true) :
    tokensOf v = [v] := by
  have hmap : v.map (fun ch => if isDependencyChar ch then ch else ' ') = v := by
    conv_rhs => rw [← List.map_id v]
    exact List.map_congr_left fun c hc => if_pos (h c hc)
  unfold tokensOf
  rw [hmap]
  refine splitChars_of_notMem fun hmem => ?_
  cases h ' ' hmem

/-- Where the tokens are: the first one at the start, every other one after a separator. -/
theorem tokensOf_spec {v first : List Char} {parts : List (List Char)}
    (h : tokensOf v = first :: parts) :
    ((∀ c ∈ first, isDependencyChar c = true) ∧ ∃ post, v = first ++ post ∧ Outside post.head?) ∧
    ∀ part ∈ parts, (∀ c ∈ part, isDependencyChar c = true) ∧
      ∃ pre c post, v = pre ++ c :: (part ++ post) ∧ isDependencyChar c = false ∧
        Outside post.head? := by
  induction v generalizing first parts with
  | nil =>
    cases h
    exact ⟨⟨by simp, [], rfl, outside_none⟩, by simp⟩
  | cons c v ih =>
    rw [tokensOf_cons] at h
    cases hv : tokensOf v with
    | nil => exact absurd hv (splitChars_ne_nil _)
    | cons first' parts' =>
      obtain ⟨⟨hfirst, post, hpost, houtside⟩, hparts⟩ := ih hv
      rw [hv] at h
      split_ifs at h with hc
      · -- The character goes on the first token.
        cases h
        refine ⟨⟨List.forall_mem_cons.mpr ⟨hc, hfirst⟩, post, by rw [hpost]; rfl, houtside⟩,
          fun part hpart => ?_⟩
        obtain ⟨hdep, pre, x, post, heq, hx, hout⟩ := hparts part hpart
        exact ⟨hdep, c :: pre, x, post, by rw [heq]; rfl, hx, hout⟩
      · -- A separator: an empty first token, and the others move on.
        cases h
        have hc : isDependencyChar c = false := Bool.not_eq_true _ |>.mp hc
        refine ⟨⟨by simp, c :: v, rfl, fun x hx => ?_⟩, fun part hpart => ?_⟩
        · cases hx
          exact hc
        rcases List.mem_cons.mp hpart with rfl | hpart
        · exact ⟨hfirst, [], c, post, by rw [hpost]; rfl, hc, houtside⟩
        · obtain ⟨hdep, pre, x, post, heq, hx, hout⟩ := hparts part hpart
          exact ⟨hdep, c :: pre, x, post, by rw [heq]; rfl, hx, hout⟩

/-- The tokens are the stretches of token characters between two others. -/
theorem mem_tokensOf {v token : List Char} : token ∈ tokensOf v ↔
    (∀ c ∈ token, isDependencyChar c = true) ∧
      ∃ pre post, v = pre ++ token ++ post ∧ Outside pre.getLast? ∧ Outside post.head? := by
  constructor
  · intro h
    cases hv : tokensOf v with
    | nil => exact absurd hv (splitChars_ne_nil _)
    | cons first parts =>
      obtain ⟨⟨hfirst, post, hpost, hout⟩, hparts⟩ := tokensOf_spec hv
      rw [hv] at h
      rcases List.mem_cons.mp h with rfl | hpart
      · exact ⟨hfirst, [], post, hpost, outside_none, hout⟩
      · obtain ⟨hdep, pre, c, post, heq, hc, hout⟩ := hparts token hpart
        refine ⟨hdep, pre ++ [c], post, by rw [heq]; simp, ?_, hout⟩
        rw [List.getLast?_concat]
        rintro x hx
        cases hx
        exact hc
  · rintro ⟨hdep, pre, post, rfl, hpre, hpost⟩
    have htail : token ∈ tokensOf (token ++ post) := by
      cases post with
      | nil =>
        rw [List.append_nil, tokensOf_of_forall hdep]
        exact List.mem_cons_self
      | cons c post =>
        rw [tokensOf_append (hpost c rfl), tokensOf_of_forall hdep]
        exact List.mem_cons_self
    rcases List.eq_nil_or_concat pre with rfl | ⟨pre, c, rfl⟩
    · exact htail
    · rw [List.concat_eq_append] at hpre ⊢
      have hc : isDependencyChar c = false := hpre c List.getLast?_concat
      rw [List.append_assoc, List.append_assoc, List.singleton_append,
        tokensOf_append hc]
      exact List.mem_append_right _ htail

theorem dependencyTokens_eq {raw : String} : dependencyTokens raw = tokensOf raw.toList := rfl

/-! ## Mentions -/

/-- What a mention may follow: nothing, a character of no token, or a hyphen. -/
def Opens (c : Option Char) : Prop := ∀ x ∈ c, isDependencyChar x = false ∨ x = '-'

/-- What may follow a mention: nothing, a character of no token, or the full stop that ends a
    sentence. -/
def Closes (post : List Char) : Prop :=
  Outside post.head? ∨ ∃ rest, post = '.' :: rest ∧ Outside rest.head?

/-- The entry mentions the task id as a whole number: not as a part of a longer id, but bare or at
    the end of a hyphenated reference, whatever punctuation follows it. -/
def Mentions (raw : List Char) (taskId : List Char) : Prop :=
  ∃ pre post, raw = pre ++ taskId ++ post ∧ Opens pre.getLast? ∧ Closes post

/-- The characters of a task id belong to tokens. -/
theorem OpenSpecTaskId.isDependencyChar (taskId : OpenSpecTaskId) :
    ∀ c ∈ taskId.val.toList, isDependencyChar c = true := by
  intro c hc
  have hok := taskId.ok
  simp only [openSpecTaskIdValid, Bool.and_eq_true, List.all_eq_true] at hok
  rcases @mem_splitChars '.' c _ hc with rfl | ⟨segment, hsegment, hmem⟩
  · rfl
  · have hdigit := (hok.2 segment hsegment).2 c hmem
    simp [Covey.isDependencyChar, isAsciiAlnum, hdigit]

/-- A list goes on from its last character outside of tokens. -/
theorem exists_append_outside (v : List Char) :
    ∃ a b, v = a ++ b ∧ Outside a.getLast? ∧ ∀ c ∈ b, isDependencyChar c = true := by
  induction v using List.reverseRecOn with
  | nil => exact ⟨[], [], rfl, outside_none, by simp⟩
  | append_singleton v c ih =>
    cases hc : isDependencyChar c with
    | false =>
      refine ⟨v ++ [c], [], by simp, ?_, by simp⟩
      rw [List.getLast?_concat]
      rintro x hx
      cases hx
      exact hc
    | true =>
      obtain ⟨a, b, rfl, hout, hb⟩ := ih
      refine ⟨a, b ++ [c], by simp, hout, ?_⟩
      rw [List.forall_mem_append, List.forall_mem_singleton]
      exact ⟨hb, hc⟩

/-- A word of token characters that is opened as a mention is a token or ends one after a hyphen,
    if no token character follows it. -/
theorem exists_token {word pre post : List Char} (hword : ∀ c ∈ word, isDependencyChar c = true)
    (hpre : Opens pre.getLast?) (hpost : Outside post.head?) :
    ∃ token ∈ tokensOf (pre ++ word ++ post), token = word ∨ ('-' :: word) <:+ token := by
  rcases List.eq_nil_or_concat pre with rfl | ⟨pre, c, rfl⟩
  · exact ⟨word, mem_tokensOf.mpr ⟨hword, [], post, rfl, outside_none, hpost⟩, .inl rfl⟩
  rw [List.concat_eq_append] at hpre ⊢
  rcases hpre c List.getLast?_concat with hc | rfl
  · refine ⟨word, mem_tokensOf.mpr ⟨hword, pre ++ [c], post, rfl, ?_, hpost⟩, .inl rfl⟩
    rw [List.getLast?_concat]
    rintro x hx
    cases hx
    exact hc
  · -- The token starts where the hyphenated reference does.
    obtain ⟨a, b, rfl, hout, hb⟩ := exists_append_outside pre
    refine ⟨b ++ '-' :: word, mem_tokensOf.mpr ⟨?_, a, post, by simp, hout, hpost⟩,
      .inr (List.suffix_append _ _)⟩
    simp only [List.forall_mem_append, List.forall_mem_cons]
    exact ⟨hb, rfl, hword⟩

section Entries

variable {raw : String} {taskId : OpenSpecTaskId}

/-- The code finds an id where no token character follows. -/
theorem dependencyTokenMatches_iff :
    (∃ token ∈ dependencyTokens raw, dependencyTokenMatches token taskId) ↔
      ∃ pre post, raw.toList = pre ++ taskId.val.toList ++ post ∧ Opens pre.getLast? ∧
        Outside post.head? := by
  rw [dependencyTokens_eq]
  constructor
  · rintro ⟨token, htoken, rfl | ⟨front, rfl⟩⟩
    · obtain ⟨-, pre, post, hraw, hpre, hpost⟩ := mem_tokensOf.mp htoken
      exact ⟨pre, post, hraw, fun x hx => .inl (hpre x hx), hpost⟩
    · obtain ⟨-, pre, post, hraw, -, hpost⟩ := mem_tokensOf.mp htoken
      refine ⟨pre ++ front ++ ['-'], post, by rw [hraw]; simp, ?_, hpost⟩
      rw [List.getLast?_concat]
      rintro x hx
      cases hx
      exact .inr rfl
  · rintro ⟨pre, post, hraw, hpre, hpost⟩
    rw [hraw]
    exact exists_token taskId.isDependencyChar hpre hpost

/-- Without a full stop at the end of a token the code finds the mentions. -/
theorem dependencyTokenMatches_iff_mentions
    (hplain : ∀ token ∈ dependencyTokens raw, token.getLast? ≠ some '.') :
    (∃ token ∈ dependencyTokens raw, dependencyTokenMatches token taskId) ↔
      Mentions raw.toList taskId.val.toList := by
  rw [dependencyTokenMatches_iff]
  constructor
  · rintro ⟨pre, post, hraw, hpre, hpost⟩
    exact ⟨pre, post, hraw, hpre, .inl hpost⟩
  · rintro ⟨pre, post, hraw, hpre, hpost | ⟨rest, rfl, hrest⟩⟩
    · exact ⟨pre, post, hraw, hpre, hpost⟩
    · -- The full stop would end a token.
      have hword : ∀ c ∈ taskId.val.toList ++ ['.'], isDependencyChar c = true := by
        simp only [List.forall_mem_append, List.forall_mem_singleton]
        exact ⟨taskId.isDependencyChar, rfl⟩
      obtain ⟨token, htoken, hends⟩ := exists_token hword hpre hrest
      have hraw : raw.toList = pre ++ (taskId.val.toList ++ ['.']) ++ rest := by simp [hraw]
      rw [← hraw, ← dependencyTokens_eq] at htoken
      refine absurd ?_ (hplain token htoken)
      rcases hends with rfl | ⟨front, rfl⟩
      · exact List.getLast?_concat
      · rw [← List.cons_append, ← List.append_assoc]
        exact List.getLast?_concat

end Entries

/-! ## Edges -/

section Edges

variable {now : ℤ} {s s' : Db}

/-- All edges of the first store are edges of the second. -/
def KeepsEdges (s s' : Db) : Prop := ∀ a b, s.DependsOn a b → s'.DependsOn a b

theorem insertDependency_edge {row : DependencyRow} {u : Unit}
    (h : insertInto Rel.dependencies row s = (.ok u, s')) :
    s'.DependsOn row.subtaskId row.dependsOnSubtaskId ∧ KeepsEdges s s' := by
  obtain ⟨t, ht, rfl⟩ := insertInto_ok.mp h
  have hrows : t.rows = s.dependencies.rows ++ [row] := Table.insert_eq_some.mp ht
  refine ⟨⟨row, ?_, rfl, rfl⟩, ?_⟩
  · show row ∈ t.rows
    rw [hrows]
    exact List.mem_append_right _ List.mem_cons_self
  · rintro a b ⟨d, hd, ha, hb⟩
    refine ⟨d, ?_, ha, hb⟩
    show d ∈ t.rows
    rw [hrows]
    exact List.mem_append_left _ hd

theorem updateDependency_keepsEdges {p : DependencyRow → Prop} [DecidablePred p] {ref : String}
    {n : ℕ}
    (h : updateIn Rel.dependencies p (fun d => { d with sourceRef := ref }) s = (.ok n, s')) :
    KeepsEdges s s' := by
  obtain ⟨t, ht, -, rfl⟩ := updateIn_ok.mp h
  have hrows : t.rows = _ := Table.update_eq_some.mp ht
  rintro a b ⟨d, hd, rfl, rfl⟩
  refine ⟨if p d then { d with sourceRef := ref } else d, ?_, ?_⟩
  · show _ ∈ t.rows
    rw [hrows]
    exact List.mem_map_of_mem hd
  · split_ifs <;> exact ⟨rfl, rfl⟩

/-- The loop over what one record waits for. -/
theorem upsertDependencies_edges {id : SubtaskId} {dependencies : List SubtaskId} {u : Unit}
    (h : Tx.forEach dependencies (fun dependency => do
        match ← lookup Rel.dependencies (id, dependency) with
        | none => insertInto Rel.dependencies ⟨id, dependency, dependency.val, now⟩
        | some _ =>
          let _ ← updateIn Rel.dependencies (fun d => d.subtaskId = id ∧
            d.dependsOnSubtaskId = dependency) fun d => { d with sourceRef := dependency.val })
        s = (.ok u, s')) :
    (∀ b ∈ dependencies, s'.DependsOn id b) ∧ KeepsEdges s s' := by
  induction dependencies generalizing s with
  | nil =>
    obtain ⟨-, rfl⟩ := Prod.mk.inj h
    exact ⟨by simp, fun _ _ h => h⟩
  | cons dependency dependencies ih =>
    obtain ⟨s₁, hfirst, hrest⟩ := Tx.forEach_cons_ok.mp h
    obtain ⟨hothers, hkept⟩ := ih hrest
    have hone : s₁.DependsOn id dependency ∧ KeepsEdges s s₁ := by
      obtain ⟨found, s₂, hlookup, hwrite⟩ := Tx.bind_ok.mp hfirst
      obtain ⟨hfound, rfl⟩ := lookup_ok.mp hlookup
      cases found with
      | none => exact insertDependency_edge hwrite
      | some d =>
        obtain ⟨n, s₃, hupdate, hpure⟩ := Tx.bind_ok.mp hwrite
        obtain ⟨-, rfl⟩ := Tx.pure_ok.mp hpure
        have hkept := updateDependency_keepsEdges hupdate
        have hkey : (d.subtaskId, d.dependsOnSubtaskId) = (id, dependency) := Table.key_of_get? hfound
        obtain ⟨hid, hdep⟩ := Prod.mk.inj hkey
        exact ⟨hkept _ _ ⟨d, Table.mem_of_get? hfound, hid, hdep⟩, hkept⟩
    refine ⟨List.forall_mem_cons.mpr ⟨hkept _ _ hone.1, hothers⟩, fun a b hab => ?_⟩
    exact hkept a b (hone.2 a b hab)

theorem mem_resolvedDependencyIds_of_names {records : List OpenSpecSubtaskRecord}
    {record other : OpenSpecSubtaskRecord} (hother : other ∈ records)
    (h : record.task.names other.task) :
    other.subtaskId ∈ resolvedDependencyIds record
      (((records.map fun r => (r.task.taskId, r.subtaskId)).dedup).insertionSort
        fun a b => a.1.val ≤ b.1.val) := by
  obtain ⟨raw, hraw, hnone, htoken⟩ := h
  simp only [resolvedDependencyIds, List.mem_flatMap, List.mem_filter, List.mem_filterMap,
    List.mem_insertionSort, List.mem_dedup, List.mem_map, decide_eq_true_eq]
  exact ⟨raw, ⟨hraw, hnone⟩, _, ⟨other, hother, rfl⟩, if_pos htoken⟩

/-- Records of different subtasks get all their edges. -/
theorem upsertSubtaskDependencies_complete {records : List OpenSpecSubtaskRecord} {u : Unit}
    (hnodup : (records.map (·.subtaskId)).Nodup) (hclean : ∀ r ∈ records, r.action ≠ .conflict)
    (h : upsertSubtaskDependencies records now s = (.ok u, s')) :
    ∀ a b, RecordEdge records a b → s'.DependsOn a b := by
  simp only [upsertSubtaskDependencies] at h
  rw [List.filter_eq_self.mpr (fun r hr => decide_eq_true (hclean r hr))] at h
  -- The tasks to match with are fixed; the loop runs over a part of the records.
  have hloop : ∀ l ⊆ records, (l.map (·.subtaskId)).Nodup → ∀ {s u s'},
      Tx.forEach l (fun record => do
        Tx.delete Rel.dependencies fun d => d.subtaskId = record.subtaskId
        Tx.forEach ((resolvedDependencyIds record
            (((records.map fun r => (r.task.taskId, r.subtaskId)).dedup).insertionSort
              fun a b => a.1.val ≤ b.1.val)).filter (· ≠ record.subtaskId)) fun dependency => do
          match ← lookup Rel.dependencies (record.subtaskId, dependency) with
          | none => insertInto Rel.dependencies ⟨record.subtaskId, dependency, dependency.val, now⟩
          | some _ =>
            let _ ← updateIn Rel.dependencies (fun d => d.subtaskId = record.subtaskId ∧
              d.dependsOnSubtaskId = dependency) fun d => { d with sourceRef := dependency.val })
        s = (.ok u, s') →
      (∀ record ∈ l, ∀ other ∈ records, other.subtaskId ≠ record.subtaskId →
        record.task.names other.task → s'.DependsOn record.subtaskId other.subtaskId) ∧
      ∀ a b, s.DependsOn a b → (∀ record ∈ l, record.subtaskId ≠ a) → s'.DependsOn a b := by
    intro l hsub hnodup
    induction l with
    | nil =>
      intro s u s' h
      obtain ⟨-, rfl⟩ := Prod.mk.inj h
      exact ⟨by simp, fun _ _ h _ => h⟩
    | cons record l ih =>
      intro s u s' h
      obtain ⟨hmem, hsub⟩ := List.cons_subset.mp hsub
      rw [List.map_cons, List.nodup_cons] at hnodup
      obtain ⟨s₂, hfirst, hrest⟩ := Tx.forEach_cons_ok.mp h
      obtain ⟨_, s₁, hdelete, hinsert⟩ := Tx.bind_ok.mp hfirst
      obtain ⟨hothers, hkept⟩ := ih hsub hnodup.2 hrest
      obtain ⟨hnew, hold⟩ := upsertDependencies_edges hinsert
      have hout : ∀ r ∈ l, r.subtaskId ≠ record.subtaskId := fun r hr heq =>
        hnodup.1 (heq ▸ List.mem_map_of_mem hr)
      refine ⟨List.forall_mem_cons.mpr ⟨fun other hother hne hnames => ?_, hothers⟩,
        fun a b hab hne => ?_⟩
      · refine hkept _ _ (hnew _ (List.mem_filter.mpr ⟨?_, by simpa using hne⟩)) hout
        exact mem_resolvedDependencyIds_of_names hother hnames
      · obtain ⟨hrecord, hne⟩ := List.forall_mem_cons.mp hne
        refine hkept a b (hold a b ?_) hne
        obtain ⟨-, rfl⟩ := Prod.mk.inj hdelete
        obtain ⟨d, hd, rfl, rfl⟩ := hab
        exact ⟨d, List.mem_filter.mpr ⟨hd, by simpa using Ne.symm hrecord⟩, rfl, rfl⟩
  rintro a b ⟨record, hr, other, ho, rfl, rfl, hne, hnames⟩
  exact (hloop records (List.Subset.refl _) hnodup h).1 record hr other ho hne hnames

theorem diffOpenSpecTask_task {source : OpenSpecSourceSnapshot} {m : MetaTaskId}
    {task : OpenSpecSourceTask} {record : OpenSpecSubtaskRecord}
    (h : diffOpenSpecTask source m task s = (.ok record, s')) : record.task = task := by
  simp only [diffOpenSpecTask, Tx.bind_ok, Tx.lift_ok, Tx.get_ok, and_assoc, exists_and_left,
    exists_eq_left', Tx.exists_unit] at h
  obtain ⟨-, id, -, h⟩ := h
  cases hrow : s.subtasks.get? id with
  | none =>
    simp only [hrow, Tx.pure_ok] at h
    rw [← h.1]
  | some row =>
    simp only [hrow, Tx.bind_ok, Tx.lift_ok, and_assoc, exists_and_left, exists_eq_left'] at h
    obtain ⟨existing, -, h⟩ := h
    split_ifs at h <;>
    · rw [← (Tx.pure_ok.mp h).1]

theorem diffOpenSpecTasks_tasks {source : OpenSpecSourceSnapshot} {m : MetaTaskId}
    {tasks : List OpenSpecSourceTask} {records : List OpenSpecSubtaskRecord}
    (h : Tx.mapEach tasks (diffOpenSpecTask source m) s = (.ok records, s')) :
    records.map (·.task) = tasks := by
  induction tasks generalizing s records with
  | nil =>
    obtain ⟨rfl, -⟩ := Tx.mapEach_nil.mp h
    rfl
  | cons task tasks ih =>
    obtain ⟨record, s₁, hfirst, rest, hrest, rfl⟩ := Tx.mapEach_cons_ok.mp h
    rw [List.map_cons, diffOpenSpecTask_task hfirst, ih hrest]

/-- The records of a comparison are those of the tasks, in their order. -/
theorem buildOpenSpecImportDiff_tasks {source : OpenSpecSourceSnapshot}
    {diff : OpenSpecImportDiff} (h : buildOpenSpecImportDiff source s = (.ok diff, s')) :
    diff.subtasks.map (·.task) = source.tasks := by
  simp only [buildOpenSpecImportDiff, Tx.bind_ok, Tx.lift_ok, Tx.get_ok, Tx.pure_ok, and_assoc,
    exists_and_left, exists_eq_left', Tx.exists_unit] at h
  obtain ⟨m, -, prompt, -, h⟩ := h
  cases hrow : s.metaTasks.get? m with
  | none =>
    simp only [hrow, Tx.bind_ok, Tx.pure_ok, and_assoc, exists_and_left, exists_eq_left'] at h
    obtain ⟨records, _, hrecords, rfl, -⟩ := h
    exact diffOpenSpecTasks_tasks hrecords
  | some row =>
    simp only [hrow, Tx.bind_ok, Tx.lift_ok, Tx.pure_ok, and_assoc, exists_and_left,
      exists_eq_left'] at h
    obtain ⟨_, -, records, _, hrecords, rfl, -⟩ := h
    exact diffOpenSpecTasks_tasks hrecords

/-- The task's entries mention the other task. -/
def OpenSpecSourceTask.mentions (task other : OpenSpecSourceTask) : Prop :=
  ∃ raw ∈ task.dependencies, Mentions raw.val.toList other.taskId.val.toList

/-- No entry of the task has a full stop at the end of a token. -/
def OpenSpecSourceTask.Unstopped (task : OpenSpecSourceTask) : Prop :=
  ∀ raw ∈ task.dependencies, ∀ token ∈ dependencyTokens raw.val, token.getLast? ≠ some '.'

instance (task : OpenSpecSourceTask) : Decidable task.Unstopped :=
  inferInstanceAs (Decidable (∀ _ ∈ _, _))

theorem OpenSpecSourceTask.Unstopped.names_iff {task other : OpenSpecSourceTask}
    (h : task.Unstopped) : task.names other ↔ task.mentions other := by
  constructor
  · rintro ⟨raw, hraw, -, htoken⟩
    exact ⟨raw, hraw, (dependencyTokenMatches_iff_mentions (h raw hraw)).mp htoken⟩
  · rintro ⟨raw, hraw, hmentions⟩
    refine ⟨raw, hraw, fun hnone => ?_, (dependencyTokenMatches_iff_mentions (h raw hraw)).mpr
      hmentions⟩
    -- A task id has a dot, and the entry `none` has not.
    obtain ⟨pre, post, heq, -⟩ := hmentions
    have hdot : '.' ∈ other.taskId.val.toList := by
      have hok := other.taskId.ok
      simp only [openSpecTaskIdValid, Bool.and_eq_true, List.any_eq_true, beq_iff_eq] at hok
      obtain ⟨c, hc, rfl⟩ := hok.1
      exact hc
    have hmem : '.' ∈ raw.val.toList := by
      rw [heq]
      exact List.mem_append_left _ (List.mem_append_right _ hdot)
    rw [hnone] at hmem
    revert hmem
    decide

/-- A conflict would have been reported. -/
theorem diff_unconflicted {source : OpenSpecSourceSnapshot} {diff : OpenSpecImportDiff}
    (hrecords : ∀ record ∈ diff.subtasks, record.Compared source s)
    (h : (diff.result source.changeId).conflicts = []) :
    ∀ record ∈ diff.subtasks, record.action ≠ .conflict := by
  intro record hr haction
  obtain ⟨reason, hreason⟩ := Option.isSome_iff_exists.mp ((hrecords record hr).conflict haction)
  have hmem : (record.subtaskId, reason) ∈ (diff.result source.changeId).conflicts :=
    List.mem_filterMap.mpr ⟨record, hr, by simp [hreason]⟩
  rw [h] at hmem
  cases hmem

end Edges

namespace Script

def earlierTask : OpenSpecSourceTask :=
  ⟨firstTaskId, text "task", tasksPath, default, none, [], []⟩

/-- A task with one dependency entry. -/
def laterTask (entry : ImportText) : OpenSpecSourceTask :=
  ⟨secondTaskId, text "task", tasksPath, default, none, [], [entry]⟩

/-- A change of two tasks, the second of which has the entry. -/
def twoTasks (entry : ImportText) : OpenSpecSourceSnapshot :=
  { source with tasks := [earlierTask, laterTask entry] }

/-- What an import into a store with one orchestrator gives. -/
def imported (entry : ImportText) : Except CoveyError Response × Db :=
  importOpenSpec (session 0) (twoTasks entry) 1
    (reach Script.env (calls [(0, register "orch" .orchestrator)]))

def stoppedEntry : ImportText := ⟨"After 1.1.", by decide⟩

def commaEntry : ImportText := ⟨"After 1.1, TASK-1.1", by decide⟩

end Script

/-- The import reports no conflict, and the outcome satisfies `p`. -/
def ImportsCleanly (p : Db → Prop) [DecidablePred p] : Except CoveyError Response × Db → Bool
  | (.ok (.importOpenSpec result), s') => result.conflicts.isEmpty && decide (p s')
  | _ => false

theorem exists_of_importsCleanly {p : Db → Prop} [DecidablePred p]
    {x : Except CoveyError Response × Db} (h : ImportsCleanly p x = true) :
    ∃ result s', x = (.ok (.importOpenSpec result), s') ∧ result.conflicts = [] ∧ p s' := by
  unfold ImportsCleanly at h
  split at h
  · rename_i result s'
    rw [Bool.and_eq_true, List.isEmpty_iff, decide_eq_true_eq] at h
    exact ⟨result, s', rfl, h.1, h.2⟩
  · cases h

instance (a b : SubtaskId) : DecidablePred fun s : Db => s.DependsOn a b :=
  fun _ => inferInstanceAs (Decidable (∃ _ ∈ _, _))

end Covey

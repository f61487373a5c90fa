import Covey.Refine.Statements

/-!
# Creating, importing and cancelling work refines the moves

* `insertWorkSubtask_moves` and the importers over it: new work is a `create`
  move. Only a caller can give it a reserved id; the ids that the store and the
  importers derive are never reserved.
* `cancelMetaTask_moves`: the held claims of the meta-task are closed one by one,
  and then its other subtasks are cancelled together.
-/

namespace Covey

open Relational

variable {L : Set Write} {now : ℤ} {s s' : Db} {u : Unit} {v : Response}

/-! ## Ids that are never reserved -/

theorem ReservedId.head {id : SubtaskId} (h : ReservedId id) : id.val.toList.head? = some 'o' := by
  obtain ⟨changeId, h⟩ := h
  rw [h, cleanupSubtaskName]
  simp

theorem ReservedId.last {id : SubtaskId} (h : ReservedId id) :
    id.val.toList.getLast? = some 'e' := by
  obtain ⟨changeId, h⟩ := h
  rw [h, cleanupSubtaskName, String.toList_append, List.getLast?_append]
  rfl

/-- A generated subtask id starts with `subtask_`. -/
theorem not_reserved_of_makeId {uuid : Uuid} {id : SubtaskId}
    (h : makeId .subtaskId "subtask" uuid = .ok id) : ¬ReservedId id := by
  intro hres
  have hhead := hres.head
  rw [Text.parse_ok.mp h] at hhead
  simp at hhead

/-- An imported issue's id starts with `bdwork_`. -/
theorem not_reserved_of_bdImport {env : Env} {sourceIssueId : String} {id : SubtaskId}
    (h : Text.parse .subtaskId (bdImportV1SubtaskName env sourceIssueId) = .ok id) :
    ¬ReservedId id := by
  intro hres
  have hhead := hres.head
  rw [Text.parse_ok.mp h, bdImportV1SubtaskName] at hhead
  simp at hhead

theorem mem_splitChars {sep ch : Char} {l : List Char} (h : ch ∈ l) :
    ch = sep ∨ ∃ segment ∈ splitChars sep l, ch ∈ segment := by
  induction l with
  | nil => cases h
  | cons c l ih =>
    rw [splitChars]
    split_ifs with hc
    · rcases List.mem_cons.mp h with rfl | h
      · exact .inl hc
      · exact (ih h).imp_right fun ⟨segment, hs, hmem⟩ => ⟨segment, List.mem_cons_of_mem _ hs, hmem⟩
    · cases hsplit : splitChars sep l with
      | nil =>
        rcases List.mem_cons.mp h with rfl | h
        · exact .inr ⟨_, List.mem_cons_self, List.mem_cons_self⟩
        · exact (ih h).imp_right fun ⟨_, hs, _⟩ => by simp [hsplit] at hs
      | cons part parts =>
        rcases List.mem_cons.mp h with rfl | h
        · exact .inr ⟨_, List.mem_cons_self, List.mem_cons_self⟩
        · refine (ih h).imp_right fun ⟨segment, hs, hmem⟩ => ?_
          rw [hsplit] at hs
          rcases List.mem_cons.mp hs with rfl | hs
          · exact ⟨_, List.mem_cons_self, List.mem_cons_of_mem _ hmem⟩
          · exact ⟨segment, List.mem_cons_of_mem _ hs, hmem⟩

/-- An imported task's id ends with a digit or a dot. -/
theorem not_reserved_of_openspec {changeId : OpenSpecChangeId} {taskId : OpenSpecTaskId}
    {id : SubtaskId} (h : id.val = openspecSubtaskName changeId taskId) : ¬ReservedId id := by
  intro hres
  have hlast := hres.last
  have hok := taskId.ok
  simp only [openSpecTaskIdValid, Bool.and_eq_true, List.any_eq_true, List.all_eq_true] at hok
  obtain ⟨⟨dot, hdot, -⟩, hdigits⟩ := hok
  have hne : taskId.val.toList.getLast? ≠ none := by
    rw [Ne, List.getLast?_eq_none_iff]
    rintro hnil
    rw [hnil] at hdot
    cases hdot
  obtain ⟨ch, hch⟩ := Option.ne_none_iff_exists'.mp hne
  rw [h, openspecSubtaskName, String.toList_append, List.getLast?_append, hch] at hlast
  obtain rfl : ch = 'e' := by simpa using hlast
  have hchar : 'e' = '.' ∨ _ := mem_splitChars (List.mem_of_getLast? hch)
  rcases hchar with hdot | ⟨segment, hs, hmem⟩
  · exact absurd hdot (by decide)
  · exact absurd ((hdigits segment hs).2 'e' hmem) (by decide)

/-! ## Meta-tasks and new work -/

theorem submitMetaTaskTx_sameBoard {k : SessionToken} {promptText : PromptText} :
    Tx.Keeps SameBoard (submitMetaTaskTx k promptText now) := by
  intro s _ s' h
  simp only [submitMetaTaskTx, Tx.bind_ok, requireRole_ok, Tx.lift_ok, Tx.pure_ok, and_assoc,
    exists_and_left, exists_eq_left', Tx.exists_unit] at h
  obtain ⟨_, -, -, -, -, -, _, s₁, hid, s₂, hins, s₃, hevent, -, rfl⟩ := h
  have hins := insertInto_sameBoard (fun _ _ => rfl) _ hins
  exact ((freshId_sameBoard hid).trans hins).trans (appendSessionEvent_sameBoard hevent)

theorem submitMetaTask_moves {req : SubmitMetaTaskReq} (h : submitMetaTask req now s = (.ok v, s')) :
    Moves L now s s' :=
  mutation_moves (fun h =>
    (Tx.Keeps.bind submitMetaTaskTx_sameBoard (fun _ => Tx.Keeps.pure _) h).moves) h

/-- A requested id is taken as it is; a generated one is not reserved. -/
theorem requestedSubtaskId_board {requested : Option SubtaskId} {id : SubtaskId}
    (h : requestedSubtaskId requested s = (.ok id, s')) :
    SameBoard s s' ∧ (ReservedId id → requested = some id) := by
  cases requested with
  | some requested =>
    obtain ⟨rfl, rfl⟩ := Tx.pure_ok.mp h
    exact ⟨rfl, fun _ => rfl⟩
  | none =>
    refine ⟨freshId_sameBoard h, fun hres => ?_⟩
    exact absurd hres (not_reserved_of_makeId (freshId_ok.mp h).1)

theorem insertWorkSubtask_moves {req : CreateWorkSubtaskReq} {id : SubtaskId} (hL : .declared ∈ L)
    (hname : ∀ id, req.subtaskId = some id → ReservedId id → .misname ∈ L)
    (h : insertWorkSubtask req now s = (.ok id, s')) : Moves L now s s' := by
  simp only [insertWorkSubtask, Tx.bind_ok, requireRole_ok, Tx.lift_ok, loadMetaTask_ok,
    ensureMetaTaskIsSchedulable_ok, subtaskExists_ok, Tx.ensure_ok, Tx.pure_ok, and_assoc,
    exists_and_left, exists_eq_left', Tx.exists_unit] at h
  obtain ⟨_, -, -, -, -, -, -, _, -, -, -, _, s₁, hid, -, -, s₂, hins, s₃, hevent, s₄, hrefresh, rfl,
    rfl⟩ := h
  obtain ⟨hid, hreq⟩ := requestedSubtaskId_board hid
  have hins : Moves L now s₁ s₂ := insertSubtask_moves ⟨rfl, rfl, rfl, rfl, rfl⟩ (by simp) hL
    (fun hres => hname _ (hreq hres) hres) hins
  have htail := (appendSessionEvent_sameBoard hevent).trans (refreshMetaTaskState_sameBoard hrefresh)
  exact (hid.moves.trans hins).trans htail.moves

theorem insertSubtaskDependencies_sameBoard {id : SubtaskId} {dependsOn : List SubtaskId} :
    Tx.Keeps SameBoard (insertSubtaskDependencies id dependsOn now) := by
  refine .bind (.lift _) fun _ => .forEach fun _ _ => .bind ?_ fun _ => .bind (.ensure _ _) fun _ =>
    insertInto_sameBoard (fun _ _ => rfl) _
  exact .bind (sameBoard_of_readOnly lookup_readOnly) fun _ => .pure _

theorem createWorkSubtaskTx_moves {req : CreateWorkSubtaskReq} {id : SubtaskId}
    (hL : .declared ∈ L) (hname : ∀ id, req.subtaskId = some id → ReservedId id → .misname ∈ L)
    (h : createWorkSubtaskTx req now s = (.ok id, s')) : Moves L now s s' := by
  simp only [createWorkSubtaskTx, Tx.bind_ok, Tx.pure_ok, Tx.exists_unit] at h
  obtain ⟨_, s₁, hins, s₂, hdeps, rfl, rfl⟩ := h
  exact (insertWorkSubtask_moves hL hname hins).trans
    (insertSubtaskDependencies_sameBoard hdeps).moves

theorem createWorkSubtask_moves {req : CreateWorkSubtaskReq} (hL : .declared ∈ L)
    (hname : ∀ id, req.subtaskId = some id → ReservedId id → .misname ∈ L)
    (h : createWorkSubtask req now s = (.ok v, s')) : Moves L now s s' := by
  refine mutation_moves (fun {v s₁} h => ?_) h
  simp only [Tx.bind_ok, Tx.pure_ok] at h
  obtain ⟨_, _, hcreate, -, rfl⟩ := h
  exact createWorkSubtaskTx_moves hL hname hcreate

/-! ## Imports -/

theorem deterministicId_val {f : ScalarField} {name : String} {id : Text f}
    (h : deterministicId f name = .ok id) : id.val = name := by
  simp only [deterministicId, bind, Except.bind] at h
  split at h
  · cases h
  · cases hparse : Text.parse f name with
    | error e => simp [hparse] at h
    | ok parsed =>
      simp only [hparse, Except.ok.injEq] at h
      subst h
      exact Text.parse_ok.mp hparse

theorem diffOpenSpecTask_ok {source : OpenSpecSourceSnapshot} {metaTaskId : MetaTaskId}
    {task : OpenSpecSourceTask} {record : OpenSpecSubtaskRecord}
    (h : diffOpenSpecTask source metaTaskId task s = (.ok record, s')) :
    SameBoard s s' ∧ ¬ReservedId record.subtaskId := by
  simp only [diffOpenSpecTask, Tx.bind_ok, Tx.lift_ok, Tx.get_ok, and_assoc, exists_and_left,
    exists_eq_left', Tx.exists_unit] at h
  obtain ⟨-, id, hid, h⟩ := h
  have hfree : ¬ReservedId id := not_reserved_of_openspec (deterministicId_val hid)
  cases hrow : s.subtasks.get? id with
  | none =>
    simp only [hrow, Tx.pure_ok] at h
    obtain ⟨rfl, rfl⟩ := h
    exact ⟨rfl, hfree⟩
  | some row =>
    simp only [hrow, Tx.bind_ok, Tx.lift_ok, and_assoc, exists_and_left, exists_eq_left'] at h
    obtain ⟨existing, -, h⟩ := h
    split_ifs at h <;>
    · obtain ⟨rfl, rfl⟩ := Tx.pure_ok.mp h
      exact ⟨rfl, hfree⟩

theorem buildOpenSpecImportDiff_ok {source : OpenSpecSourceSnapshot} {diff : OpenSpecImportDiff}
    (h : buildOpenSpecImportDiff source s = (.ok diff, s')) :
    SameBoard s s' ∧ ∀ record ∈ diff.subtasks, ¬ReservedId record.subtaskId := by
  simp only [buildOpenSpecImportDiff, Tx.bind_ok, Tx.lift_ok, Tx.get_ok, and_assoc,
    exists_and_left, exists_eq_left', Tx.exists_unit] at h
  obtain ⟨metaTaskId, -, prompt, -, h⟩ := h
  have hkeeps : Tx.Keeps SameBoard (Tx.mapEach source.tasks (diffOpenSpecTask source metaTaskId)) :=
    .mapEach fun _ _ _ _ _ h => (diffOpenSpecTask_ok h).1
  have hdone : ∀ {records}, Tx.mapEach source.tasks (diffOpenSpecTask source metaTaskId) s =
      (.ok records, s') → SameBoard s s' ∧ ∀ record ∈ records, ¬ReservedId record.subtaskId :=
    fun h => ⟨hkeeps h, Tx.mapEach_forall (fun h => (diffOpenSpecTask_ok h).2) h⟩
  cases hrow : s.metaTasks.get? metaTaskId with
  | none =>
    simp only [hrow, Tx.bind_ok, Tx.pure_ok, and_assoc, exists_and_left, exists_eq_left'] at h
    obtain ⟨records, _, hrecords, rfl, rfl⟩ := h
    exact hdone hrecords
  | some row =>
    simp only [hrow, Tx.bind_ok, Tx.lift_ok, Tx.pure_ok, and_assoc, exists_and_left,
      exists_eq_left'] at h
    obtain ⟨_, -, records, _, hrecords, rfl, rfl⟩ := h
    exact hdone hrecords

theorem recordOpenSpecImport_sameBoard {k : SessionToken} {provenance : OpenSpecImportProvenance} :
    Tx.Keeps SameBoard (recordOpenSpecImport k provenance now) := by
  refine .bind (.bind (sameBoard_of_readOnly lookup_readOnly) fun found => ?_) fun _ => appendSessionEvent_sameBoard
  cases found with
  | none => exact insertInto_sameBoard (fun _ _ => rfl) _
  | some _ => exact .bind (updateIn_sameBoard (fun _ _ => rfl) _ _) fun _ => .pure _

theorem applyOpenSpecMetaTask_sameBoard {k : SessionToken} {diff : OpenSpecImportDiff} :
    Tx.Keeps SameBoard (applyOpenSpecMetaTask k diff now) := by
  unfold applyOpenSpecMetaTask
  cases diff.metaAction with
  | created =>
    exact .bind (insertInto_sameBoard (fun _ _ => rfl) _) fun _ => recordOpenSpecImport_sameBoard
  | updated =>
    exact .bind (updateIn_sameBoard (fun _ _ => rfl) _ _) fun _ => recordOpenSpecImport_sameBoard
  | unchanged => exact .pure _
  | conflict => exact .pure _

theorem applyOpenSpecSubtask_moves {k : SessionToken} {metaTaskId : MetaTaskId}
    {record : OpenSpecSubtaskRecord} (hL : .declared ∈ L) (hfree : ¬ReservedId record.subtaskId) :
    Tx.Keeps (Moves L now) (applyOpenSpecSubtask k metaTaskId now record) := by
  intro s _ s' h
  unfold applyOpenSpecSubtask at h
  cases haction : record.action with
  | created =>
    simp only [haction, Tx.bind_ok, Tx.lift_ok, and_assoc, exists_and_left, exists_eq_left'] at h
    obtain ⟨_, -, _, -, _, s₁, hcreate, hrecord⟩ := h
    have hcreate : Moves L now s s₁ := by
      refine createWorkSubtaskTx_moves hL (fun id hid hres => ?_) hcreate
      cases hid
      exact absurd hres hfree
    exact hcreate.trans (recordOpenSpecImport_sameBoard hrecord).moves
  | updated =>
    simp only [haction, Tx.bind_ok] at h
    obtain ⟨n, s₁, hupd, h⟩ := h
    have hedit : Moves L now s s₁ := by
      refine Steps.edit_at hL (fun r _ => ?_) (updateSubtask_board hupd fun _ => rfl).2
      split_ifs
      · exact .inr .retitle
      · exact .inl rfl
    refine hedit.trans (SameBoard.moves ?_)
    split_ifs at h
    · simp only [Tx.bind_ok, Tx.get_ok, Tx.ensure_ok, and_assoc, exists_and_left,
        exists_eq_left'] at h
      obtain ⟨-, rfl⟩ := h
      rfl
    · exact recordOpenSpecImport_sameBoard h
  | unchanged =>
    simp only [haction] at h
    obtain ⟨-, rfl⟩ := Tx.pure_ok.mp h
    exact .refl s
  | conflict =>
    simp only [haction] at h
    obtain ⟨-, rfl⟩ := Tx.pure_ok.mp h
    exact .refl s

theorem upsertSubtaskDependencies_sameBoard {records : List OpenSpecSubtaskRecord} :
    Tx.Keeps SameBoard (upsertSubtaskDependencies records now) := by
  refine .forEach fun _ _ => .bind ?_ fun _ => .forEach fun _ _ =>
    .bind (sameBoard_of_readOnly lookup_readOnly) fun found => ?_
  · intro s _ s' h
    cases h
    rfl
  · cases found with
    | none => exact insertInto_sameBoard (fun _ _ => rfl) _
    | some _ => exact .bind (updateIn_sameBoard (fun _ _ => rfl) _ _) fun _ => .pure _

theorem upsertOpenSpecSubtaskScope_sameBoard {changeId : OpenSpecChangeId}
    {records : List OpenSpecSubtaskRecord} :
    Tx.Keeps SameBoard (upsertOpenSpecSubtaskScope changeId records now) := by
  refine .forEach fun _ _ => .bind (sameBoard_of_readOnly lookup_readOnly) fun found => ?_
  cases found with
  | none => exact insertInto_sameBoard (fun _ _ => rfl) _
  | some _ => exact .bind (updateIn_sameBoard (fun _ _ => rfl) _ _) fun _ => .pure _

theorem importOpenSpec_moves {k : SessionToken} {source : OpenSpecSourceSnapshot}
    (hL : .declared ∈ L) (h : importOpenSpec k source now s = (.ok v, s')) : Moves L now s s' := by
  simp only [importOpenSpec, Tx.bind_ok, Tx.lift_ok, requireRole_ok, Tx.pure_ok, and_assoc,
    exists_and_left, exists_eq_left', Tx.exists_unit] at h
  obtain ⟨-, _, -, -, -, -, diff, s₁, hdiff, s₂, happly, -, rfl⟩ := h
  obtain ⟨hdiff, hfree⟩ := buildOpenSpecImportDiff_ok hdiff
  refine hdiff.moves.trans (Tx.Keeps.whenever (fun _ => ?_) happly)
  exact .bind (applyOpenSpecMetaTask_sameBoard.mono fun _ _ => SameBoard.moves) fun _ =>
    .bind (.forEach fun record hr => applyOpenSpecSubtask_moves hL (hfree record hr)) fun _ =>
    .bind (upsertSubtaskDependencies_sameBoard.mono fun _ _ => SameBoard.moves) fun _ =>
    upsertOpenSpecSubtaskScope_sameBoard.mono fun _ _ => SameBoard.moves

theorem resolveImportBdV1Destination_sameBoard {k : SessionToken}
    {destination : ImportBdV1Destination} :
    Tx.Keeps SameBoard (resolveImportBdV1Destination k destination now) := by
  cases destination with
  | existingMetaTask raw =>
    refine .bind (.lift _) fun _ => ?_
    cases Text.parse .metaTaskId raw with
    | error e => exact .fail _
    | ok metaTaskId =>
      refine .bind ?_ fun _ => .pure _
      intro s _ s' h
      obtain ⟨-, rfl⟩ := ensureMetaTaskIsSchedulable_ok.mp h
      rfl
  | newMetaTask raw =>
    exact .bind (.lift _) fun _ => .bind (.lift _) fun _ => submitMetaTaskTx_sameBoard

theorem importBdV1WorkSubtaskTx_moves {env : Env} {req : ImportBdV1WorkSubtaskReq}
    (hL : .declared ∈ L) : Tx.Keeps (Moves L now) (importBdV1WorkSubtaskTx env req now) := by
  intro s id s' h
  simp only [importBdV1WorkSubtaskTx, Tx.bind_ok, requireRole_ok, Tx.lift_ok, typed_ok,
    subtaskExists_ok, and_assoc, exists_and_left, exists_eq_left', Tx.exists_unit] at h
  obtain ⟨_, -, -, -, -, -, -, destination, -, metaTaskId, s₁, hdest, subtaskId, hid, h⟩ := h
  refine (resolveImportBdV1Destination_sameBoard hdest).moves.trans ?_
  split_ifs at h
  · simp only [Tx.bind_ok, loadSubtask_ok, Tx.ensure_ok, Tx.pure_ok, and_assoc, exists_and_left,
      exists_eq_left', Tx.exists_unit] at h
    obtain ⟨_, -, -, -, -, rfl⟩ := h
    exact .refl s₁
  · simp only [Tx.bind_ok, Tx.lift_ok, and_assoc, exists_and_left, exists_eq_left'] at h
    obtain ⟨_, -, _, -, _, -, _, -, hcreate⟩ := h
    refine createWorkSubtaskTx_moves hL (fun id hreq hres => ?_) hcreate
    cases hreq
    exact absurd hres (not_reserved_of_bdImport hid)

theorem importBdV1WorkSubtask_moves {env : Env} {req : ImportBdV1WorkSubtaskReq}
    (hL : .declared ∈ L) (h : importBdV1WorkSubtask env req now s = (.ok v, s')) :
    Moves L now s s' := by
  simp only [importBdV1WorkSubtask, Tx.bind_ok, Tx.lift_ok, and_assoc, exists_and_left,
    exists_eq_left', withIdempotentMutation_ok, Tx.pure_ok] at h
  obtain ⟨_, -, -, ⟨_, -, -, -, rfl⟩ | ⟨-, s₁, ⟨_, _, hcreate, -, rfl⟩, _, -, rfl⟩⟩ := h
  · exact .refl s
  · have hmoves : Moves L now s _ := importBdV1WorkSubtaskTx_moves hL hcreate
    exact hmoves

theorem importSourceIssue_moves {env : Env} {req : ImportBdV1Req} {metaTaskId : MetaTaskId}
    {labels : List (String × String)} {position : ℕ} {issue : SourceIssue} (hL : .declared ∈ L) :
    Tx.Keeps (Moves L now)
      (importSourceIssue env req metaTaskId labels now position issue) := by
  unfold importSourceIssue
  cases assessSourceIssue issue labels with
  | none =>
    refine .bind ?_ fun _ => .bind (importBdV1WorkSubtaskTx_moves hL) fun _ =>
      .bind (.lift _) fun _ => .pure _
    unfold existingSubtaskMatchesDestination
    cases Text.parse .subtaskId (bdImportV1SubtaskName env issue.id) with
    | error e => exact .pure _
    | ok subtaskId =>
      intro s _ s' h
      simp only [Tx.bind_ok, subtaskExists_ok, and_assoc, exists_and_left, exists_eq_left'] at h
      split_ifs at h
      · simp only [Tx.bind_ok, loadSubtask_ok, Tx.ensure_ok, Tx.pure_ok, and_assoc,
          exists_and_left, exists_eq_left', Tx.exists_unit] at h
        obtain ⟨_, -, -, -, -, rfl⟩ := h
        exact .refl s
      · obtain ⟨-, rfl⟩ := Tx.pure_ok.mp h
        exact .refl s
  | some detail =>
    dsimp only
    split
    · exact .bind (.pure _) fun _ => .pure _
    · exact .bind (.lift _) fun _ => .pure _

theorem importSourceIssues_moves {env : Env} {req : ImportBdV1Req} {metaTaskId : MetaTaskId}
    {labels : List (String × String)} {items : List ImportBdV1ItemResult}
    {issues : List SourceIssue} (hL : .declared ∈ L) :
    Tx.Keeps (Moves L now) (importSourceIssues env req metaTaskId labels now items issues) := by
  induction issues generalizing items with
  | nil => exact .pure _
  | cons issue issues ih => exact .bind (importSourceIssue_moves hL) fun _ => ih

theorem importBdV1_moves {env : Env} {req : ImportBdV1Req} {source : SourceSnapshot}
    (hL : .declared ∈ L) (h : importBdV1 env req source now s = (.ok v, s')) :
    Moves L now s s' := by
  simp only [importBdV1, Tx.bind_ok, Tx.lift_ok, and_assoc, exists_and_left, exists_eq_left',
    Tx.exists_unit] at h
  refine mutation_moves (fun {v s₁} h => ?_) h.2
  simp only [Tx.bind_ok, requireRole_ok, Tx.pure_ok, and_assoc, exists_and_left,
    exists_eq_left'] at h
  obtain ⟨_, -, -, -, -, _, s₂, hdest, _, s₃, hissues, -, rfl⟩ := h
  exact (resolveImportBdV1Destination_sameBoard hdest).moves.trans
    (importSourceIssues_moves hL hissues)

theorem importProse_moves {env : Env} {req : ImportProseReq} (hL : .declared ∈ L)
    (h : importProse env req now s = (.ok v, s')) : Moves L now s s' := by
  refine mutation_moves (fun {v s₁} h => ?_) h
  simp only [Tx.bind_ok, Tx.ensure_ok, requireRole_ok, Tx.pure_ok, and_assoc, exists_and_left,
    exists_eq_left', Tx.exists_unit] at h
  obtain ⟨-, _, -, -, -, -, metaTaskId, s₂, hmeta, s₃, hins, _, s₄, htasks, -, rfl⟩ := h
  have hins := insertInto_sameBoard (fun _ _ => rfl) _ hins
  refine (((submitMetaTaskTx_sameBoard hmeta).trans hins).moves).trans
    (Tx.Keeps.mapEach (fun item _ => ?_) htasks)
  refine .bind (.lift _) fun _ => .bind (fun s _ s' h => ?_) fun _ =>
    .bind ((insertInto_sameBoard (fun _ _ => rfl) _).mono fun _ _ => SameBoard.moves) fun _ =>
    .pure _
  exact createWorkSubtaskTx_moves hL (fun _ hid _ => by cases hid) h

/-! ## Cancelling a meta-task -/

theorem SubtaskRow.cancelled_cancelled (r : SubtaskRow) :
    (r.cancelled now).cancelled now = r.cancelled now := by
  by_cases h : r.state.isTerminal
  · simp [SubtaskRow.cancelled, h]
  · simp [SubtaskRow.cancelled, h]

/-- The held claims that a cancellation finds. -/
theorem loadClaimsForMetaTask_ok {m : MetaTaskId} {claims : List ClaimRow}
    (h : loadClaimsForMetaTask m s = (.ok claims, s')) :
    s' = s ∧ (claims.map (·.claimId)).Nodup ∧
      ∀ c, c ∈ claims ↔ s.board.claim c.claimId = some c ∧ c.state = .held ∧
        ∃ r, s.board.subtask c.subtaskId = some r ∧ r.metaTaskId = m := by
  simp only [loadClaimsForMetaTask, Tx.bind_ok, Tx.get_ok, and_assoc, exists_and_left,
    exists_eq_left'] at h
  obtain ⟨rfl, rfl⟩ := Tx.mapEach_lift_ok ClaimRow.load_val h
  refine ⟨rfl, ?_, fun c => ?_⟩
  · rw [((List.perm_insertionSort _ _).map _).nodup_iff]
    exact List.Nodup.sublist (List.filter_sublist.map _) s'.claims.nodup_keys
  · rw [List.mem_insertionSort, Table.mem_select, Table.mem_iff_get?, Option.any_eq_true]
    simp only [decide_eq_true_eq]
    rfl

/-- A subtask of the meta-task `m` that may already have been cancelled. -/
def CancelledIn (m : MetaTaskId) (now : ℤ) (r r' : SubtaskRow) : Prop :=
  r' = r ∨ (r.metaTaskId = m ∧ r' = r.cancelled now)

theorem CancelledIn.trans {m : MetaTaskId} {r r' r'' : SubtaskRow} (h : CancelledIn m now r r')
    (h' : CancelledIn m now r' r'') : CancelledIn m now r r'' := by
  rcases h with rfl | ⟨hm, rfl⟩
  · exact h'
  · rcases h' with rfl | ⟨-, rfl⟩
    · exact .inr ⟨hm, rfl⟩
    · exact .inr ⟨hm, r.cancelled_cancelled⟩

/-- The held claims of a meta-task are revoked: on the board that shows the subtasks as `τ`,
    each is closed by a move that also cancels its subtask. -/
theorem revokeClaims_steps {m : MetaTaskId} {claims : List ClaimRow} (hL : .abandon ∈ L)
    (hnodup : (claims.map (·.claimId)).Nodup)
    (hcur : ∀ c ∈ claims, s.board.claim c.claimId = some c ∧ c.state = .held)
    (h : revokeClaims claims now s = (.ok u, s')) {τ : SubtaskId → Option SubtaskRow}
    (hτ : ∀ c ∈ claims, ∀ r, τ c.subtaskId = some r → r.metaTaskId = m) :
    ∃ τ', Steps L now { s.board with subtask := τ } { s'.board with subtask := τ' } ∧
      (∀ id, Option.Rel (CancelledIn m now) (τ id) (τ' id)) ∧
      s'.board.subtask = s.board.subtask ∧
      ∀ c row, s'.board.claim c = some row → row.state = .held →
        s.board.claim c = some row ∧ c ∉ claims.map (·.claimId) := by
  induction claims generalizing s τ with
  | nil =>
    obtain ⟨-, rfl⟩ := Tx.pure_ok.mp h
    exact ⟨τ, .refl _, fun id => rel_refl (fun _ => .inl rfl) _, rfl,
      fun c row hc _ => ⟨hc, by simp⟩⟩
  | cons claim claims ih =>
    simp only [revokeClaims, Tx.forEach_cons_ok, Tx.bind_ok] at h
    obtain ⟨s₂, ⟨n, s₁, hupd, hclear⟩, hrest⟩ := h
    obtain ⟨hrow, hheld⟩ := hcur claim List.mem_cons_self
    have hb₁ := (updateClaim_board hupd fun _ => rfl).2
    rw [modify_of_some hrow, if_pos hheld] at hb₁
    have hb₂ := clearOwnerOfClaim_board hclear
    rw [hb₁] at hb₂
    have hm := hτ claim List.mem_cons_self
    let cancel (r : SubtaskRow) : SubtaskRow :=
      if r.currentClaimId = some claim.claimId then r.cancelled now else r
    have hstep : Steps L now { s.board with subtask := τ }
        { s₂.board with subtask := modify τ claim.subtaskId cancel } := by
      refine Steps.close (c := claim) .revoked (SubtaskRow.cancelled now)
        (fun r => r.activeSubtaskId = some claim.subtaskId) hL hrow hheld (by decide)
        (fun r _ _ => .cancel) (fun _ h => h) ?_
      rw [hb₂]
    have hcancel : ∀ id, Option.Rel (CancelledIn m now) (τ id)
        (modify τ claim.subtaskId cancel id) := by
      refine rel_modify (fun r => .inl rfl) fun r hr => ?_
      simp only [cancel]
      split_ifs
      · exact .inr ⟨hm r hr, rfl⟩
      · exact .inl rfl
    rw [List.map_cons, List.nodup_cons] at hnodup
    have hcur₂ : ∀ c ∈ claims, s₂.board.claim c.claimId = some c ∧ c.state = .held := by
      intro c hc
      have hne : c.claimId ≠ claim.claimId := by
        intro heq
        exact hnodup.1 (heq ▸ List.mem_map_of_mem hc)
      rw [hb₂]
      exact ⟨(put_of_ne hne).trans (hcur c (List.mem_cons_of_mem _ hc)).1,
        (hcur c (List.mem_cons_of_mem _ hc)).2⟩
    have hτ₂ : ∀ c ∈ claims, ∀ r, modify τ claim.subtaskId cancel c.subtaskId = some r →
        r.metaTaskId = m := by
      intro c hc r hr
      obtain ⟨r₀, hr₀, rfl | ⟨hm₀, rfl⟩⟩ := rel_of_some' (hcancel c.subtaskId) hr
      · exact hτ c (List.mem_cons_of_mem _ hc) r hr₀
      · exact hm₀
    obtain ⟨τ', hsteps, hrel, hsub, hcl⟩ := ih hnodup.2 hcur₂ hrest hτ₂
    refine ⟨τ', hstep.trans hsteps, fun id => rel_trans .trans (hcancel id) (hrel id),
      by rw [hsub, hb₂], ?_⟩
    intro c row hc hst
    obtain ⟨hc₂, hnot⟩ := hcl c row hc hst
    rw [hb₂] at hc₂
    rcases put_eq_some.mp hc₂ with ⟨-, rfl⟩ | ⟨hne, hc₂⟩
    · cases hst
    · exact ⟨hc₂, by simpa [hne] using hnot⟩

theorem cancelMetaTask_moves {req : CancelMetaTaskReq} (hdecl : .declared ∈ L) (hL : .abandon ∈ L)
    (ha : Anchored s.board.toLeases) (h : cancelMetaTask req now s = (.ok v, s')) :
    Moves L now s s' := by
  refine mutation_moves (fun {v s₁} h => ?_) h
  simp only [Tx.bind_ok, requireRole_ok, Tx.lift_ok, loadMetaTask_ok, Tx.ensure_ok, selectFrom_ok,
    Tx.pure_ok, and_assoc, exists_and_left, exists_eq_left', Tx.exists_unit] at h
  obtain ⟨_, -, -, -, -, -, _, -, -, -, n, s₂, hmeta, -, claims, s₃, hload, s₄, hrevoke, _, s₅, hqueue,
    _, s₆, hcancel, s₇, hevent, -, rfl⟩ := h
  refine Moves.trans ?_ (appendSessionEvent_sameBoard hevent).moves
  replace hmeta : SameBoard s s₂ := updateIn_sameBoard (fun _ _ => rfl) _ _ hmeta
  obtain ⟨rfl, hnodup, hmem⟩ := loadClaimsForMetaTask_ok hload
  replace ha : Anchored s₃.board.toLeases := hmeta ▸ ha
  refine hmeta.moves.trans ?_
  have hin : ∀ c ∈ claims, ∀ r, s₃.board.subtask c.subtaskId = some r →
      r.metaTaskId = req.metaTaskId := by
    intro c hc r hr
    obtain ⟨-, -, r', hr', hm⟩ := (hmem c).mp hc
    rw [hr'] at hr
    cases hr
    exact hm
  obtain ⟨τ, hsteps, hτ, hsub, hcl⟩ := revokeClaims_steps hL hnodup
    (fun c hc => ⟨((hmem c).mp hc).1, ((hmem c).mp hc).2.1⟩) hrevoke hin
  obtain ⟨g, hg, hb₅⟩ := updateQueue_board hqueue
    (fun q hq => .vacate hq.2 (.inr (.inr rfl))) fun _ => rfl
  have hb₆ := updateSubtasks_board hcancel fun _ => rfl
  -- No subtask of the meta-task still has a held current claim: it would have been revoked.
  have hfree : ∀ {id r}, s₃.board.subtask id = some r → r.metaTaskId = req.metaTaskId →
      ∀ c row, r.currentClaimId = some c → s₄.board.claim c = some row → row.state ≠ .held := by
    intro id r hr hm c row hc hrow hheld
    obtain ⟨hrow₃, hnot⟩ := hcl c row hrow hheld
    obtain ⟨row', hrow', hid⟩ := ha.current hr hc
    obtain rfl : row = row' := Option.some.inj (hrow₃.symm.trans hrow')
    have hkey : row.claimId = c := Table.key_of_get? hrow₃
    refine hnot (List.mem_map.mpr ⟨row, (hmem row).mpr ⟨hkey ▸ hrow₃, hheld, r, ?_, hm⟩, hkey⟩)
    rw [hid]
    exact hr
  let cancel (r : SubtaskRow) : SubtaskRow :=
    if r.metaTaskId = req.metaTaskId then r.cancelled now else r
  have hedit : ∀ id, Option.Rel (fun r r' => r' = r ∨
      Edit { s₄.board with subtask := τ } now .abandon r r') (τ id)
      ((s₃.board.subtask id).map cancel) := by
    intro id
    have hid := hτ id
    cases hr : s₃.board.subtask id with
    | none =>
      rw [rel_of_none hid hr]
      exact .none
    | some r =>
      obtain ⟨r', hr', rfl | ⟨hm, rfl⟩⟩ := rel_of_some hid hr
      · rw [hr', Option.map_some]
        refine .some ?_
        simp only [cancel]
        split_ifs with hm
        · exact .inr (.cancel (hfree hr hm))
        · exact .inl rfl
      · rw [hr', Option.map_some]
        simp only [cancel, if_pos hm]
        exact .some (.inl rfl)
  refine Steps.trans hsteps (Steps.trans (Steps.lease hL (.edit hedit)) ?_)
  have hlast : s₆.board =
      { s₄.board with subtask := fun id => (s₃.board.subtask id).map cancel, queue := g } := by
    rw [hb₆, hb₅, ← hsub]
    rfl
  rw [hlast]
  exact Steps.ledger hdecl (.queue hg)

end Covey

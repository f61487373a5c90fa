import Mathlib.Order.WellFoundedSet
import Covey.Runs.Cleanup
import Covey.Runs.Followups
import Covey.Runs.Lifecycle

/-!
# When a change may be archived

`archive_eligibility_for_change_tx` holds every subtask of a change for settled that is applied or
has a follow-up. That the follow-ups then lead to applied work rests on the repair graph: a chain
of follow-ups does not branch, ends, and passes through no applied subtask before its end.

* `mem_openspecScope`: the recursive query follows the whole chain of every imported subtask.
* `archive_eligibility`: what an answer says of the change, and when there is one.
* `heldSource_unanswered`: work that is blocked while its producer holds it leaves the change
  without an answer, even after its follow-up was applied.
-/

namespace Covey

open Relational

/-- The subtask was imported for the change. -/
def Db.Imported (s : Db) (x : OpenSpecChangeId) (id : SubtaskId) : Prop :=
  (∃ row ∈ s.subtaskScopes.rows, row.openspecChangeId = x ∧ row.subtaskId = id) ∧
    ∃ r, s.board.subtask id = some r

/-- Following the repairs of the subtask leads to an applied one. -/
def Db.EndsApplied (s : Db) (id : SubtaskId) : Prop :=
  ∃ y r, Relation.ReflTransGen (Repairs s.board) id y ∧ s.board.subtask y = some r ∧
    r.state = .applied

/-- The change has imported subtasks, all of them end applied, and a blocker of it is open. -/
def Db.Archivable (s : Db) (x : OpenSpecChangeId) : Prop :=
  (∃ id, s.Imported x id) ∧ s.Blocked x ∧ ∀ id, s.Imported x id → s.EndsApplied id

section Eligibility

variable {env : Env} {calls : List Call} {s s' : Db} {x : OpenSpecChangeId} {id y z : SubtaskId}

theorem mem_openspecScope : y ∈ openspecScope s x ↔
    ∃ row ∈ s.subtaskScopes.rows, row.openspecChangeId = x ∧
      Relation.ReflTransGen (Repairs s.board) row.subtaskId y := by
  simp only [openspecScope, List.mem_dedup, List.mem_append, List.mem_map, Table.mem_select,
    Relation.reflTransGen_iff_eq_or_transGen, ← mem_followupChain, followupChain_eq,
    Reach.mem_rounds, List.mem_singleton, exists_eq_left]
  grind

/-- Only work that a review failed has a follow-up. -/
theorem Db.Repaired.source (h : s.Repaired) (hyz : Repairs s.board y z) :
    ∃ r, s.board.subtask y = some r ∧ r.state ≠ .applied := by
  obtain ⟨k, f, hf, rfl, -⟩ := hyz
  obtain ⟨v, -, -, hv, hfailed, hid, -⟩ := h.mended.linked hf
  obtain ⟨r, hr, -, -, hdead⟩ := h.dead hv hfailed
  refine ⟨r, hid ▸ hr, fun happlied => ?_⟩
  simp [happlied] at hdead

/-- A chain of follow-ups does not branch. -/
theorem Db.Repaired.rightUnique (h : s.Repaired) : Relator.RightUnique (Repairs s.board) := by
  rintro y z z' ⟨k, f, hf, hy, rfl⟩ ⟨k', f', hf', hy', rfl⟩
  obtain ⟨v, -, -, hv, hfailed, hid, -⟩ := h.mended.linked hf
  obtain ⟨v', -, -, hv', hfailed', hid', -⟩ := h.mended.linked hf'
  obtain rfl : k = k' := h.single hv hfailed hv' hfailed' (by rw [hid, hid', hy, hy'])
  rw [Option.some.inj (hf.symm.trans hf')]

/-- Where every subtask of a change is applied or has a follow-up, every chain ends applied. -/
theorem Db.Repaired.endsApplied (h : s.Repaired) {r : SubtaskRow}
    (hscope : ∀ {y r}, y ∈ openspecScope s x → s.board.subtask y = some r → r.state ≠ .applied →
      ∃ f ∈ s.reviewFollowups.rows, f.sourceSubtaskId = y) (hid : id ∈ openspecScope s x)
    (hr : s.board.subtask id = some r) : s.EndsApplied id := by
  -- Induction along the repairs: the change has finitely many subtasks, and no chain returns to
  -- where it was.
  let later := fun y z => Relation.TransGen (Repairs s.board) z y
  have : IsTrans SubtaskId later := ⟨fun _ _ _ hxy hyz => hyz.trans hxy⟩
  have : Std.Irrefl later := ⟨fun y hy => h.mended.grounded.transGen.irrefl.irrefl y hy⟩
  have : IsStrictOrder SubtaskId later := {}
  have hwf : Set.WellFoundedOn {y | y ∈ openspecScope s x} later :=
    (List.finite_toSet _).wellFoundedOn
  refine hwf.induction (P := fun y => ∀ r, s.board.subtask y = some r → s.EndsApplied y) hid
    (fun y hy ih r hr => ?_) r hr
  by_cases happlied : r.state = .applied
  · exact ⟨y, r, .refl, hr, happlied⟩
  obtain ⟨f, hf, rfl⟩ := hscope hy hr happlied
  have hf : s.board.followup f.reviewId = some f := Table.get?_key hf
  obtain ⟨-, -, r', -, -, -, -, hr', -⟩ := h.mended.linked hf
  have hnext : Repairs s.board f.sourceSubtaskId f.followupSubtaskId := ⟨_, f, hf, rfl, rfl⟩
  obtain ⟨row, hrow, hx, hreach⟩ := mem_openspecScope.mp hy
  obtain ⟨z, r, hchain, hr, happlied⟩ := ih f.followupSubtaskId
    (mem_openspecScope.mpr ⟨row, hrow, hx, hreach.tail hnext⟩) (.single hnext) r' hr'
  exact ⟨z, r, .head hnext hchain, hr, happlied⟩

/-- On a chain that ends applied, a subtask is applied or has a follow-up. -/
theorem Db.Repaired.applied_or (h : s.Repaired) (hid : s.EndsApplied id)
    (hy : Relation.ReflTransGen (Repairs s.board) id y) :
    (∃ r, s.board.subtask y = some r ∧ r.state = .applied) ∨ ∃ z, Repairs s.board y z := by
  obtain ⟨z, r, hz, hr, happlied⟩ := hid
  rcases Relation.ReflTransGen.total_of_right_unique h.rightUnique hy hz with hyz | hzy
  · rcases hyz.cases_head with rfl | ⟨y', hyy', -⟩
    · exact .inl ⟨r, hr, happlied⟩
    · exact .inr ⟨y', hyy'⟩
  · rcases hzy.cases_head with rfl | ⟨y', hzy', -⟩
    · exact .inl ⟨r, hr, happlied⟩
    · obtain ⟨r', hr', hnot⟩ := h.source hzy'
      rw [hr] at hr'
      cases hr'
      exact absurd happlied hnot

/-- The first subtask of a chain to a subtask that is there is there. -/
theorem Db.Repaired.imported (h : s.Repaired) {row : SubtaskScopeRow} {r : SubtaskRow}
    (hrow : row ∈ s.subtaskScopes.rows)
    (hreach : Relation.ReflTransGen (Repairs s.board) row.subtaskId y)
    (hr : s.board.subtask y = some r) : s.Imported row.openspecChangeId row.subtaskId := by
  refine ⟨⟨row, hrow, rfl, rfl⟩, ?_⟩
  rcases hreach.cases_head with rfl | ⟨z, hz, -⟩
  · exact ⟨r, hr⟩
  · obtain ⟨r', hr', -⟩ := h.source hz
    exact ⟨r', hr'⟩

/-- What an answer says of the change. -/
theorem Db.Repaired.safeToArchive_iff (h : s.Repaired) {e : OpenSpecArchiveEligibility}
    (hok : archiveEligibilityForChange x s = (.ok e, s')) : e.safeToArchive ↔ s.Archivable x := by
  simp only [archiveEligibilityForChange, Tx.bind_ok, Tx.get_ok, Tx.pure_ok, and_assoc,
    exists_and_left, exists_eq_left'] at hok
  obtain ⟨rows, s, hrows, blockers, s₂, hblockers, rfl, -⟩ := hok
  obtain ⟨rfl, rfl⟩ := Tx.mapEach_lift_ok SubtaskRow.load_val hrows
  have hblocked : blockers.isEmpty = false ↔ s.Blocked x := by
    simp only [List.isEmpty_eq_false_iff_exists_mem, mem_loadOpenArchiveBlockers hblockers]
    rfl
  simp only [OpenSpecArchiveEligibility.safeToArchive, hblocked, List.isEmpty_iff,
    List.isEmpty_eq_false_iff_exists_mem, List.filter_eq_nil_iff, List.mem_map, Table.mem_select,
    decide_eq_true_eq, not_and_not_right]
  constructor
  · rintro ⟨⟨r, hr, hscope⟩, hdone, hopen⟩
    obtain ⟨row, hrow, rfl, hreach⟩ := mem_openspecScope.mp hscope
    refine ⟨⟨_, h.imported hrow hreach (Table.get?_key hr)⟩, hopen, ?_⟩
    rintro id ⟨⟨row', hrow', hx, rfl⟩, r', hr'⟩
    refine h.endsApplied (fun {y r} hy hr hstate => ?_)
      (mem_openspecScope.mpr ⟨row', hrow', hx, .refl⟩) hr'
    obtain rfl : r.subtaskId = y := Table.key_of_get? hr
    obtain ⟨f, ⟨hf, -⟩, hsource⟩ := hdone r ⟨Table.mem_of_get? hr, hy⟩ hstate
    exact ⟨f, hf, hsource⟩
  · rintro ⟨⟨id, ⟨row, hrow, rfl, rfl⟩, r, hr⟩, hopen, hends⟩
    have hkey : r.subtaskId = row.subtaskId := Table.key_of_get? hr
    refine ⟨⟨r, Table.mem_of_get? hr, mem_openspecScope.mpr ⟨row, hrow, rfl, ?_⟩⟩, ?_, hopen⟩
    · rw [hkey]
    · rintro r ⟨hr, hscope⟩ hstate
      obtain ⟨row', hrow', hx, hreach⟩ := mem_openspecScope.mp hscope
      have hr := Table.get?_key hr
      rcases h.applied_or (hends _ (hx ▸ h.imported hrow' hreach hr)) hreach with
        ⟨r', hr', happlied⟩ | ⟨z, k, f, hf, hsource, -⟩
      · obtain rfl : r = r' := Option.some.inj (hr.symm.trans hr')
        exact absurd happlied hstate
      · exact ⟨f, ⟨Table.mem_of_get? hf, hsource ▸ hscope⟩, hsource⟩

/-- After every run, an answer about a change says that it may be archived exactly if it has an
    imported subtask and an open blocker and the repairs of every imported subtask lead to an
    applied one; and there is an answer exactly if every subtask of the change loads. -/
theorem archive_eligibility (hrun : Run.Along (next env) Call.Fresh Db.init calls) :
    (∀ e ∈ (archiveEligibilityForChange x (reach env calls)).1.toOption,
      (e.safeToArchive ↔ (reach env calls).Archivable x)) ∧
    ((archiveEligibilityForChange x (reach env calls)).1.isOk = true ↔
      ∀ r ∈ (reach env calls).subtasks.rows,
        r.subtaskId ∈ openspecScope (reach env calls) x → r.Loads) := by
  have hrepaired := reach_repaired hrun
  generalize reach env calls = s at *
  have hanswers : (∃ e s', archiveEligibilityForChange x s = (.ok e, s')) ↔
      ∃ rows s', Tx.mapEach (s.subtasks.select fun r => r.subtaskId ∈ openspecScope s x)
        (fun r => liftM r.load) s = ((.ok rows, s') : Except CoveyError _ × Db) := by
    simp only [archiveEligibilityForChange, loadOpenArchiveBlockers, Tx.bind_ok, Tx.get_ok,
      selectFrom_ok, Tx.pure_ok, and_assoc, exists_and_left, exists_eq_left']
    constructor
    · rintro ⟨-, -, rows, s', hrows, -⟩
      exact ⟨rows, s', hrows⟩
    · rintro ⟨rows, s', hrows⟩
      exact ⟨_, s', rows, s', hrows, rfl, rfl⟩
  simp only [Tx.mapEach_lift_iff SubtaskRow.load_val, Table.mem_select, and_imp] at hanswers
  simp only [SubtaskRow.Loads, ← hanswers]
  rcases hres : archiveEligibilityForChange x s with ⟨_ | e, s'⟩
  · simp [Except.toOption, Except.isOk, Except.toBool]
  · simp [Except.toOption, Except.isOk, Except.toBool, hrepaired.safeToArchive_iff hres]

end Eligibility

section Scripts

open Script

theorem archive_eligibility_ready : (reach env ready).Archivable change := by
  have hsafe : ∃ e ∈ (archiveEligibilityForChange change (reach env ready)).1.toOption,
      e.safeToArchive := by
    decide +kernel
  obtain ⟨halong, -⟩ := Run.along_append.mp (Run.along_append.mp ready_run.1).1
  obtain ⟨e, he, hsafe⟩ := hsafe
  exact ((archive_eligibility (Call.Proper.along_fresh halong)).1 e he).mp hsafe

/-- The reviewer blocks the change's task while its producer still holds it, and the follow-up is
    approved. -/
def heldSource : List Call :=
  calls ([(0, register "orch" .orchestrator), (0, register "exec" .executor),
    (0, register "rev" .reviewer), (0, register "producer" .executor),
    (1, fun _ => .importOpenSpec (session 0) source),
    (2, fun key => .claimSubtask ⟨session 3, task, lease, key⟩),
    (3, start (session 3) (claim 5) (fence 0)),
    (4, publish (session 3) (claim 5) (fence 0) .findingsBundle (digest "a")),
    (5, ask (session 0) task (digest "a") "review"), (6, take (session 2) "review"),
    (7, start (session 2) (claim 9) (fence 0)),
    (8, judge (session 2) (review 8) (claim 9) (fence 0) .blocked)] ++
    approval 12 9 (idAt .subtaskId "subtask" 11 0) .findingsBundle (digest "b") "again")

theorem heldSource_unanswered :
    Run.Along (next env) Call.Proper Db.init heldSource ∧
      (reach env heldSource).Archivable change ∧
      (archiveEligibilityForChange change (reach env heldSource)).1.isOk = false := by
  have hfacts : Run.Along (next env) Call.Proper Db.init heldSource ∧
      (reach env heldSource).Blocked change ∧
      (∃ row ∈ (reach env heldSource).subtaskScopes.rows,
        row.openspecChangeId = change ∧ row.subtaskId = task) ∧
      ((reach env heldSource).subtasks.get? task).isSome ∧
      (∃ f ∈ (reach env heldSource).reviewFollowups.rows, f.sourceSubtaskId = task ∧
        ∃ r ∈ (reach env heldSource).subtasks.get? f.followupSubtaskId, r.state = .applied) ∧
      (∀ row ∈ (reach env heldSource).subtaskScopes.rows, row.subtaskId = task) ∧
      (archiveEligibilityForChange change (reach env heldSource)).1.isOk = false := by
    decide +kernel
  generalize reach env heldSource = s at *
  obtain ⟨hrun, hblocked, hscope, htask, ⟨f, hf, hsource, r, hr, happlied⟩, honly, hunanswered⟩ :=
    hfacts
  refine ⟨hrun, ⟨⟨task, hscope, Option.isSome_iff_exists.mp htask⟩, hblocked, ?_⟩, hunanswered⟩
  rintro id ⟨⟨row, hrow, -, rfl⟩, -⟩
  rw [honly row hrow]
  exact ⟨_, r, .single ⟨_, f, Table.get?_key hf, hsource, rfl⟩, hr, happlied⟩

end Scripts

end Covey

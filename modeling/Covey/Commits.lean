import Covey.Footprint.Calls

/-!
# Calls that commit

An accepted call that is no replay has run the body of its mutation, and the store afterwards is
the body's, with one more response on record.

* `Call.Commits.mutation`, `Call.Commits.leasedMutation`: the run of the body.
* `Touches.same`: what a footprint leaves alone.
* `createWorkSubtaskTx_creates`: the one subtask that a creation adds.
-/

namespace Covey

open Relational

variable {env : Env} {s s' : Db} {c : Call}

/-- What can be read without the tables `l` is the same. -/
theorem Touches.same {α : Type} {f : Db → α} {l : List TableName} (h : Touches l s s')
    (hf : ∀ s, f (s.without l).rows = f s) : f s' = f s := by
  rw [← hf s', ← hf s, h.rows]

theorem eq_ok_of_toOption {ε α : Type} {x : Except ε α} {a : α} (h : x.toOption = some a) :
    x = .ok a := by
  cases x with
  | error e => cases h
  | ok b => exact congrArg Except.ok (Option.some.inj h)

/-- An upsert under a new key is an insert. -/
theorem upsertInto_new {κ ρ : Type} [DecidableEq κ] {S : Schema κ ρ} {T : Tx.Field Db S} {r : ρ}
    {f : ρ → ρ} (h : (T.get s).get? (S.key r) = none) : upsertInto T r f s = insertInto T r s := by
  unfold upsertInto
  rw [Tx.bind_of_ok (lookup_ok.mpr ⟨h, rfl⟩)]

theorem Call.Commits.mutation {actorKey operation : String} {key : IdempotencyKey}
    {request : Request} {body : Txn Response} (h : c.Commits env s)
    (hop : c.op.run env c.now = mutation actorKey operation key request c.now body)
    (hentry : c.op.entry env = some ⟨actorKey, operation, key.val, request⟩) :
    0 ≤ c.now ∧ ∃ s₀ v s₁ t, s₀ = { s with uuids := c.uuids } ∧ body s₀ = (.ok v, s₁) ∧
      next env s c = { s₁ with idempotency := t } ∧ (step env s c).1 = .ok v := by
  obtain ⟨hok, hnew⟩ := h
  obtain ⟨v, s₀, rfl, hrun⟩ := hok.run
  have hstep : step env s c = (.ok v, next env s c) := Tx.commit_ok.mpr hrun
  rw [hop] at hrun
  obtain ⟨hnow, hrun⟩ := mutation_ok.mp hrun
  obtain ⟨-, ⟨row, hrow, -⟩ | ⟨-, s₁, hbody, t, -, hs'⟩⟩ := withIdempotentMutation_ok.mp hrun
  · exact absurd ⟨_, hentry, Option.isSome_of_eq_some hrow⟩ hnew
  · exact ⟨hnow, _, v, s₁, t, rfl, hbody, hs', by rw [hstep]⟩

theorem Call.Commits.leasedMutation {actorKey operation : String} {key : IdempotencyKey}
    {request : Request} {body : ℤ → Txn Response} (h : c.Commits env s)
    (hop : c.op.run env c.now = leasedMutation actorKey operation key request c.now body)
    (hentry : c.op.entry env = some ⟨actorKey, operation, key.val, request⟩) :
    0 ≤ c.now ∧ ∃ leaseNow s₀ v s₁ t, leaseNow = max s.leaseClock (max c.now 0) ∧
      s₀ = { s with uuids := c.uuids, leaseClock := leaseNow } ∧ body leaseNow s₀ = (.ok v, s₁) ∧
      next env s c = { s₁ with idempotency := t } ∧ (step env s c).1 = .ok v := by
  obtain ⟨hok, hnew⟩ := h
  obtain ⟨v, s₀, rfl, hrun⟩ := hok.run
  have hstep : step env s c = (.ok v, next env s c) := Tx.commit_ok.mpr hrun
  rw [hop] at hrun
  obtain ⟨leaseNow, hlease, hrun⟩ := leasedMutation_ok.mp hrun
  obtain ⟨hnow, hrun⟩ := mutation_ok.mp hrun
  obtain ⟨-, ⟨row, hrow, -⟩ | ⟨-, s₁, hbody, t, -, hs'⟩⟩ := withIdempotentMutation_ok.mp hrun
  · exact absurd ⟨_, hentry, Option.isSome_of_eq_some hrow⟩ hnew
  · exact ⟨hnow, leaseNow, _, v, s₁, t, hlease, rfl, hbody, hs', by rw [hstep]⟩

/-! ## Creation -/

/-- The subtask that a request creates. -/
def CreateWorkSubtaskReq.row (req : CreateWorkSubtaskReq) (id : SubtaskId) (now : ℤ) :
    SubtaskRow where
  subtaskId := id
  metaTaskId := req.metaTaskId
  title := req.title
  kind := .work
  reviewTargetSubtaskId := none
  reviewTargetArtifactDigest := none
  state := .available
  currentClaimId := none
  artifactDigest := none
  priority := req.priority
  completionPolicy := req.completionPolicy
  routingKey := req.routingKey
  evidencePolicy := req.evidencePolicy
  createdAt := now
  updatedAt := now

theorem insertWorkSubtask_creates {req : CreateWorkSubtaskReq} {id : SubtaskId} {now : ℤ}
    (h : insertWorkSubtask req now s = (.ok id, s')) :
    (∃ m, s.metaTasks.get? req.metaTaskId = some m ∧ m.state ≠ .completed ∧ m.state ≠ .cancelled) ∧
    ∃ s₁, s₁.metaTasks = s.metaTasks ∧ s₁.subtasks.rows = s.subtasks.rows ++ [req.row id now] ∧
      refreshMetaTaskState req.metaTaskId now s₁ = (.ok (), s') := by
  simp only [insertWorkSubtask, insertSubtask, Tx.bind_ok, requireRole_ok, Tx.lift_ok,
    loadMetaTask_ok, ensureMetaTaskIsSchedulable_ok, subtaskExists_ok, Tx.ensure_ok, Tx.pure_ok,
    and_assoc, exists_and_left, exists_eq_left', Tx.exists_unit] at h
  obtain ⟨_, -, -, -, -, -, -, _, -, -, ⟨m, hm, -, hopen⟩, id', s₁, hid, -, -, s₂,
    ⟨s₃, hsubtask, hfence⟩, s₄, hevent, _, hrefresh, rfl, rfl⟩ := h
  refine ⟨⟨m, hm, hopen⟩, s₄, ?_, ?_, hrefresh⟩
  · have hfresh : s₁.metaTasks = s.metaTasks :=
      (requestedSubtaskId_touches.run hid : Touches [] s s₁).same fun _ => rfl
    obtain ⟨_, -, rfl⟩ := insertInto_ok.mp hsubtask
    obtain ⟨_, -, rfl⟩ := insertInto_ok.mp hfence
    obtain ⟨-, -, rfl⟩ := appendEvent_ok.mp hevent
    exact hfresh
  · have hfresh : s₁.subtasks = s.subtasks :=
      (requestedSubtaskId_touches.run hid : Touches [] s s₁).same fun _ => rfl
    obtain ⟨subtasks, hinsert, rfl⟩ := insertInto_ok.mp hsubtask
    obtain ⟨_, -, rfl⟩ := insertInto_ok.mp hfence
    obtain ⟨-, -, rfl⟩ := appendEvent_ok.mp hevent
    rw [← hfresh]
    exact Table.insert_eq_some.mp hinsert

theorem createWorkSubtaskTx_creates {req : CreateWorkSubtaskReq} {id : SubtaskId} {now : ℤ}
    (h : createWorkSubtaskTx req now s = (.ok id, s')) :
    s'.subtasks.rows = s.subtasks.rows ++ [req.row id now] := by
  simp only [createWorkSubtaskTx, Tx.bind_ok, Tx.pure_ok, Tx.exists_unit] at h
  obtain ⟨_, s₁, hinsert, s₂, hdeps, rfl, rfl⟩ := h
  obtain ⟨-, s₃, -, hrows, hrefresh⟩ := insertWorkSubtask_creates hinsert
  have hrefreshed : s₁.subtasks = s₃.subtasks :=
    ((refreshMetaTaskState_touches (List.Subset.refl _)).run hrefresh :
      Touches [.metaTasks] s₃ s₁).same fun _ => rfl
  have hkept : s₂.subtasks = s₁.subtasks :=
    ((insertSubtaskDependencies_touches (List.Subset.refl _)).run hdeps :
      Touches [.dependencies] s₁ s₂).same fun _ => rfl
  rw [hkept, hrefreshed, hrows]

theorem createWorkSubtaskTx_get? {req : CreateWorkSubtaskReq} {id : SubtaskId} {now : ℤ}
    (h : createWorkSubtaskTx req now s = (.ok id, s')) :
    s'.subtasks.get? id = some (req.row id now) := by
  have hmem : req.row id now ∈ s'.subtasks.rows := by
    rw [createWorkSubtaskTx_creates h]
    exact List.mem_append_right _ List.mem_cons_self
  exact Table.get?_key hmem

end Covey

import Covey.Commits
import Covey.Runs.Followups
import Covey.Turns

/-!
# Changes that leave the meta-tasks level

A meta-task's state is written by `refresh_meta_task_state` from the states of its subtasks.
Most operations that change subtasks do not call it, and need not: they leave a meta-task with
unfinished work where there was some and with none where there was none. The archive cleanup of a
change is the exception, so its subtask, known by its reserved id, is left out of the account.

* `Unfinished`: the meta-task has work that is not over.
* `Level`: a change of subtasks that no meta-task's state has to follow, apart from those in `X`.
* The lemmas ending in `_levels`: what an operation does to the subtasks is level.
-/

namespace Covey

open Relational

/-- Some subtask of the meta-task, other than an archive cleanup, is not over. -/
def Unfinished (f : SubtaskId → Option SubtaskRow) (m : MetaTaskId) : Prop :=
  ∃ id r, ¬ReservedId id ∧ f id = some r ∧ r.metaTaskId = m ∧ ¬r.state.isTerminal

/-- The meta-task has a subtask. -/
def Staffed (f : SubtaskId → Option SubtaskRow) (m : MetaTaskId) : Prop :=
  ∃ id r, f id = some r ∧ r.metaTaskId = m

/-- The subtask is in the state it was in, and has no claim if it had none. -/
def SubtaskRow.Stays (r r' : SubtaskRow) : Prop :=
  r'.state = r.state ∧ (r.currentClaimId = none → r'.currentClaimId = none)

theorem SubtaskRow.Stays.refl (r : SubtaskRow) : r.Stays r := ⟨rfl, id⟩

theorem SubtaskRow.Stays.trans {r r' r'' : SubtaskRow} (h : r.Stays r') (h' : r'.Stays r'') :
    r.Stays r'' :=
  ⟨h'.1.trans h.1, fun hr => h'.2 (h.2 hr)⟩

/-- A change of subtasks after which only the meta-tasks in `X` may have to be looked at again.
    A new subtask belongs to a meta-task that had one, or to one in `K`. -/
structure Level (K X : MetaTaskId → Prop) (f f' : SubtaskId → Option SubtaskRow) : Prop where
  home : ∀ {id r}, f id = some r → ∃ r', f' id = some r' ∧ r'.metaTaskId = r.metaTaskId
  unfinished : ∀ {m}, ¬X m → (Unfinished f m ↔ Unfinished f' m)
  new : ∀ {id r'}, f' id = some r' → f id = none →
    (Staffed f r'.metaTaskId ∨ K r'.metaTaskId) ∧
      (ReservedId id ∨ X r'.metaTaskId ∨ Unfinished f r'.metaTaskId)
  kept : ∀ {id r r'}, ¬ReservedId id → f id = some r → f' id = some r' → ¬X r.metaTaskId →
    ¬Unfinished f r.metaTaskId → r.Stays r'

section Level

variable {K X : MetaTaskId → Prop} {f f' f'' : SubtaskId → Option SubtaskRow} {id : SubtaskId}
  {r r' : SubtaskRow} {m : MetaTaskId}

theorem Level.refl (f : SubtaskId → Option SubtaskRow) : Level K X f f where
  home {_ r} hr := ⟨r, hr, rfl⟩
  unfinished _ := .rfl
  new hr hnone := by
    rw [hnone] at hr
    cases hr
  kept _ hr hr' _ _ := by
    rw [hr] at hr'
    cases hr'
    exact .refl _

theorem Level.staffed (h : Level K X f f') (hm : Staffed f m) : Staffed f' m := by
  obtain ⟨id, r, hr, rfl⟩ := hm
  obtain ⟨r', hr', hmeta⟩ := h.home hr
  exact ⟨id, r', hr', hmeta⟩

theorem Level.staffed_or (h : Level K X f f') (hm : Staffed f' m) : Staffed f m ∨ K m := by
  obtain ⟨id, r', hr', rfl⟩ := hm
  cases hr : f id with
  | none => exact (h.new hr' hr).1
  | some r =>
    obtain ⟨r₁, hr₁, hmeta⟩ := h.home hr
    obtain rfl : r₁ = r' := Option.some.inj (hr₁.symm.trans hr')
    exact .inl ⟨id, r, hr, hmeta.symm⟩

theorem Level.trans (h : Level K X f f') (h' : Level K X f' f'') : Level K X f f'' where
  home hr := by
    obtain ⟨r', hr', hmeta⟩ := h.home hr
    obtain ⟨r'', hr'', hmeta'⟩ := h'.home hr'
    exact ⟨r'', hr'', hmeta'.trans hmeta⟩
  unfinished hm := (h.unfinished hm).trans (h'.unfinished hm)
  new {id r''} hr'' hnone := by
    cases hr' : f' id with
    | none =>
      obtain ⟨hstaffed, hcause⟩ := h'.new hr'' hr'
      refine ⟨?_, ?_⟩
      · rcases hstaffed with hstaffed | hknown
        · exact h.staffed_or hstaffed
        · exact .inr hknown
      · by_cases hX : X r''.metaTaskId
        · exact .inr (.inl hX)
        · exact hcause.imp_right (Or.imp_right (h.unfinished hX).mpr)
    | some r' =>
      obtain ⟨r₁, hr₁, hmeta⟩ := h'.home hr'
      obtain rfl : r₁ = r'' := Option.some.inj (hr₁.symm.trans hr'')
      rw [hmeta]
      exact h.new hr' hnone
  kept {id r r''} hid hr hr'' hX hdone := by
    obtain ⟨r', hr', hmeta⟩ := h.home hr
    refine (h.kept hid hr hr' hX hdone).trans (h'.kept hid hr' hr'' ?_ ?_)
    · rw [hmeta]
      exact hX
    · rw [hmeta, ← h.unfinished hX]
      exact hdone

/-- What `Level` asks of a subtask that changes. -/
def LevelStep (X : MetaTaskId → Prop) (f f' : SubtaskId → Option SubtaskRow) (id : SubtaskId)
    (r r' : SubtaskRow) : Prop :=
  r'.metaTaskId = r.metaTaskId ∧
    (ReservedId id ∨ X r.metaTaskId ∨ (Unfinished f r.metaTaskId ∧ Unfinished f' r.metaTaskId) ∨
      (¬r.state.isTerminal ∧ ¬r'.state.isTerminal) ∨ r.Stays r')

/-- What `Level` asks of a subtask that is new. -/
def LevelNew (K X : MetaTaskId → Prop) (f f' : SubtaskId → Option SubtaskRow) (id : SubtaskId)
    (r' : SubtaskRow) : Prop :=
  (Staffed f r'.metaTaskId ∨ K r'.metaTaskId) ∧
    (ReservedId id ∨ X r'.metaTaskId ∨ (Unfinished f r'.metaTaskId ∧ Unfinished f' r'.metaTaskId))

theorem LevelStep.refl (r : SubtaskRow) : LevelStep X f f' id r r :=
  ⟨rfl, .inr (.inr (.inr (.inr (.refl r))))⟩

/-- A change that is level at every subtask. -/
theorem Level.of_change
    (h : ∀ id, Change (LevelStep X f f' id) (LevelNew K X f f' id) (f id) (f' id)) :
    Level K X f f' where
  home {id r} hr := by
    obtain ⟨r', hr', hmeta, -⟩ := (h id).of_some hr
    exact ⟨r', hr', hmeta⟩
  unfinished {m} hX := by
    constructor
    · rintro ⟨id, r, hid, hr, rfl, hgoing⟩
      obtain ⟨r', hr', hmeta, hres | hX' | ⟨-, hm⟩ | ⟨-, hgoing'⟩ | ⟨hstate, -⟩⟩ := (h id).of_some hr
      · exact absurd hres hid
      · exact absurd hX' hX
      · exact hm
      · exact ⟨id, r', hid, hr', hmeta, hgoing'⟩
      · exact ⟨id, r', hid, hr', hmeta, by rw [hstate]; exact hgoing⟩
    · rintro ⟨id, r', hid, hr', rfl, hgoing⟩
      rcases (h id).of_some' hr' with ⟨r, hr, hmeta, hcause⟩ | ⟨-, -, hres | hX' | ⟨hm, -⟩⟩
      · rw [hmeta] at hX ⊢
        rcases hcause with hres | hX' | ⟨hm, -⟩ | ⟨hgoing', -⟩ | ⟨hstate, -⟩
        · exact absurd hres hid
        · exact absurd hX' hX
        · exact hm
        · exact ⟨id, r, hid, hr, rfl, hgoing'⟩
        · exact ⟨id, r, hid, hr, rfl, by rw [← hstate]; exact hgoing⟩
      · exact absurd hres hid
      · exact absurd hX' hX
      · exact hm
  new {id r'} hr' hnone := by
    rcases (h id).of_some' hr' with ⟨r, hr, -⟩ | ⟨-, hstaffed, hcause⟩
    · rw [hnone] at hr
      cases hr
    · exact ⟨hstaffed, hcause.imp_right (Or.imp_right And.left)⟩
  kept {id r r'} hid hr hr' hX hdone := by
    obtain ⟨r₁, hr₁, hmeta, hcause⟩ := (h id).of_some hr
    obtain rfl : r₁ = r' := Option.some.inj (hr₁.symm.trans hr')
    rcases hcause with hres | hX' | ⟨hm, -⟩ | ⟨hgoing, -⟩ | hstays
    · exact absurd hres hid
    · exact absurd hX' hX
    · exact absurd hm hdone
    · exact absurd ⟨id, r, hid, hr, rfl, hgoing⟩ hdone
    · exact hstays

/-- One subtask changes. -/
theorem Level.modify {g : SubtaskRow → SubtaskRow}
    (h : ∀ r, f id = some r → (g r).metaTaskId = r.metaTaskId ∧
      (ReservedId id ∨ X r.metaTaskId ∨ (¬r.state.isTerminal ∧ ¬(g r).state.isTerminal) ∨
        r.Stays (g r))) :
    Level K X f (modify f id g) := by
  refine .of_change fun x => Change.of_modify LevelStep.refl fun hx r hr => ?_
  obtain ⟨hmeta, hcause⟩ := h r hr
  refine ⟨hmeta, ?_⟩
  rw [hx]
  exact hcause.imp_right (Or.imp_right Or.inr)

/-- One subtask changes to a row that is known. -/
theorem Level.put_some (hr : f id = some r) (hmeta : r'.metaTaskId = r.metaTaskId)
    (h : ReservedId id ∨ X r.metaTaskId ∨ (¬r.state.isTerminal ∧ ¬r'.state.isTerminal) ∨ r.Stays r') :
    Level K X f (put f id r') := by
  refine .of_change fun x => Change.of_put LevelStep.refl fun hx => ?_
  rw [hr, hx]
  exact ⟨hmeta, h.imp_right (Or.imp_right Or.inr)⟩

/-- One subtask is new: an archive cleanup, or in a meta-task in `X`. -/
theorem Level.put_new (hstaffed : Staffed f r.metaTaskId ∨ K r.metaTaskId)
    (hnone : f id = none) (h : ReservedId id ∨ X r.metaTaskId) : Level K X f (put f id r) := by
  refine .of_change fun x => Change.of_put LevelStep.refl fun hx => ?_
  rw [hnone, hx]
  exact ⟨hstaffed, h.imp_right .inl⟩

/-- One subtask is new, beside another of the meta-task that is not over. -/
theorem Level.put_beside {k : SubtaskId} {r₀ : SubtaskRow} (hnone : f id = none)
    (hr₀ : f k = some r₀) (hplain : ¬ReservedId k) (hgoing : ¬r₀.state.isTerminal)
    (hmeta : r.metaTaskId = r₀.metaTaskId) : Level K X f (put f id r) := by
  refine .of_change fun x => Change.of_put LevelStep.refl fun hx => ?_
  rw [hnone]
  refine ⟨.inl ⟨k, r₀, hr₀, hmeta.symm⟩, .inr (.inr ⟨?_, ?_⟩)⟩
  · exact ⟨k, r₀, hplain, hr₀, hmeta.symm, hgoing⟩
  · exact ⟨k, r₀, hplain, put_of_new hnone hr₀, hmeta.symm, hgoing⟩

end Level

/-! ## Statements and loops -/

/-- The subtasks of the second store are a level change of those of the first, and the meta-tasks
    are the same. -/
structure Levels (K X : MetaTaskId → Prop) (s s' : Db) : Prop where
  subtasks : Level K X s.board.subtask s'.board.subtask
  metaTasks : s'.metaTasks = s.metaTasks

/-- Tables that hold neither subtasks nor meta-tasks. -/
def sideTables : List TableName :=
  [.sessions, .fenceCounters, .dependencies, .claims, .attemptOutcomes, .artifacts, .reviews,
    .permissiveLandingReceipts, .readyQueue, .applyWorktrees, .subtaskScopes, .openSpecArchiveStatus,
    .cleanupClaims, .reservations, .conflicts, .importProvenance, .events]

section Statements

variable {K X : MetaTaskId → Prop} {now leaseNow : ℤ} {s s' s'' : Db} {u : Unit} {v : Response}
  {k : SessionToken}

theorem Levels.of_same (hsub : s'.subtasks = s.subtasks) (hmeta : s'.metaTasks = s.metaTasks) :
    Levels K X s s' := by
  refine ⟨?_, hmeta⟩
  rw [show s'.board.subtask = s.board.subtask from congrArg Table.get? hsub]
  exact .refl _

theorem Levels.trans (h : Levels K X s s') (h' : Levels K X s' s'') : Levels K X s s'' :=
  ⟨h.subtasks.trans h'.subtasks, h'.metaTasks.trans h.metaTasks⟩

instance : Std.Refl (Levels K X) := ⟨fun _ => .of_same rfl rfl⟩

instance : IsTrans Db (Levels K X) := ⟨fun _ _ _ => Levels.trans⟩

theorem levels_overlooks : Overlooks (Levels K X) := fun _ _ _ _ => .of_same rfl rfl

/-- What touches neither subtasks nor meta-tasks is level. -/
theorem levels_of_side {α : Type} {x : Txn α} (hx : x.Within (Touches sideTables)) :
    Tx.Keeps (Levels K X) x :=
  fun _ _ _ h => .of_same ((hx.run h).same fun _ => rfl) ((hx.run h).same fun _ => rfl)

theorem appendSessionEvent_levels {eventType : EventType} {objectType : ObjectType}
    {objectId : String} :
    Tx.Keeps (Levels K X) (appendSessionEvent eventType objectType objectId k now) :=
  levels_of_side (appendSessionEvent_touches (by decide))

/-- An update of one subtask. -/
theorem updateSubtask_levels {id : SubtaskId} {q : SubtaskRow → Prop} [DecidablePred q]
    {g : SubtaskRow → SubtaskRow} {n : ℕ}
    (h : updateIn Rel.subtasks (fun r => r.subtaskId = id ∧ q r) g s = (.ok n, s'))
    (hg : ∀ r, (g r).subtaskId = r.subtaskId ∧ (g r).metaTaskId = r.metaTaskId)
    (hstep : ∀ r, s.board.subtask id = some r → q r →
      ReservedId id ∨ X r.metaTaskId ∨ (¬r.state.isTerminal ∧ ¬(g r).state.isTerminal) ∨
        r.Stays (g r)) : Levels K X s s' := by
  have hb := (updateSubtask_board h fun r => (hg r).1).2
  obtain ⟨_, rfl, -⟩ := updateIn_map h fun r _ => (hg r).1
  refine ⟨?_, rfl⟩
  rw [hb]
  refine Level.modify fun r hr => ?_
  split_ifs with hq
  · exact ⟨(hg r).2, hstep r hr hq⟩
  · exact ⟨rfl, .inr (.inr (.inr (.refl r)))⟩

theorem SubtaskRow.lapsed_level (r : SubtaskRow) :
    (¬r.state.isTerminal ∧ ¬(r.lapsed now).state.isTerminal) ∨ r.Stays (r.lapsed now) := by
  unfold SubtaskRow.lapsed
  by_cases h : r.state = .claimed ∨ r.state = .inProgress
  · refine .inl ⟨?_, ?_⟩
    · rcases h with h | h <;> simp [h, SubtaskState.isTerminal]
    · simp [h, SubtaskState.isTerminal]
  · refine .inr ⟨?_, fun _ => rfl⟩
    simp [h]

theorem expireClaim_levels {claim : ClaimRow} : Tx.Keeps (Levels K X) (expireClaim claim now) := by
  intro s u s' h
  obtain ⟨row, g, -, -, -, hb⟩ := expireClaim_board h
  have htouches := (expireClaim_touches (List.Subset.refl _)).run h
  refine ⟨?_, htouches.same fun _ => rfl⟩
  rw [hb]
  refine Level.modify fun r _ => ?_
  split_ifs
  · exact ⟨rfl, .inr (.inr r.lapsed_level)⟩
  · exact ⟨rfl, .inr (.inr (.inr (.refl r)))⟩

theorem clearOwnerOfClaim_levels {claim : ClaimRow} :
    Tx.Keeps (Levels K X) (clearOwnerOfClaim claim now) :=
  levels_of_side (clearOwnerOfClaim_touches (by decide))

theorem expireClaims_levels {claims : List ClaimRow} :
    Tx.Keeps (Levels K X) (expireClaims claims now) :=
  .forEach fun _ _ => .bind expireClaim_levels fun _ => clearOwnerOfClaim_levels

theorem expireClaimIfNeeded_levels {id : SubtaskId} :
    Tx.Keeps (Levels K X) (expireClaimIfNeededForSubtask id leaseNow now) := by
  refine .bind .get fun s => ?_
  dsimp only
  split
  · exact .pure _
  · exact .bind (.lift _) fun _ => .bind expireClaim_levels fun _ => clearOwnerOfClaim_levels

end Statements

/-! ## Operations that leave the meta-tasks alone -/

section Quiet

variable {K X : MetaTaskId → Prop} {now leaseNow : ℤ} {s s' : Db} {u : Unit} {v : Response}
  {k : SessionToken} {duration : LeaseDurationMs}

theorem exitSession_levels {req : ExitSessionReq} : Tx.Keeps (Levels K X) (exitSession req now) := by
  refine mutation_keeps levels_overlooks fun s v s' h => ?_
  simp only [expireHeldClaimsForExitedSession, Tx.bind_ok, loadSession_ok, Tx.lift_ok, Tx.ensure_ok,
    selectFrom_ok, Tx.pure_ok, ensureTransition_ok, and_assoc, exists_and_left, exists_eq_left',
    Tx.exists_unit] at h
  obtain ⟨session, -, -, -, n, s₂, hupd, -, s₃, ⟨claims, s₄, hload, hloop⟩, _, hevent, -, rfl⟩ := h
  obtain ⟨rfl, rfl⟩ := Tx.mapEach_lift_ok ClaimRow.load_val hload
  have hsessions : Levels K X s s₄ := levels_of_side (updateIn_touches (fun _ _ => rfl) _ _) hupd
  have hexpired : Levels K X s₄ s₃ := Tx.Keeps.forEach (fun _ _ => expireClaim_levels) hloop
  exact (hsessions.trans hexpired).trans (appendSessionEvent_levels hevent)

theorem reapStaleSessions_levels {staleThreshold : ℤ} :
    Tx.Keeps (Levels K X) (reapStaleSessions staleThreshold now) :=
  .bind (levels_of_side advanceLeaseClock_touches) fun _ =>
    .bind (levels_of_side (updateIn_touches (fun _ _ => rfl) _ _)) fun _ =>
    .bind (levels_of_side loadExpirableClaims_touches) fun _ =>
    .bind expireClaims_levels fun _ =>
    .bind (.whenever fun _ => levels_of_side (appendEvent_touches (by decide))) fun _ => .pure _

theorem expireOldClaims_levels : Tx.Keeps (Levels K X) (expireOldClaims now) :=
  .bind (levels_of_side advanceLeaseClock_touches) fun _ =>
    .bind (levels_of_side loadExpirableClaims_touches) fun _ =>
    .bind expireClaims_levels fun _ =>
    .bind (.whenever fun _ => levels_of_side (appendEvent_touches (by decide))) fun _ => .pure _

/-- No transition leads out of a state in which a subtask is over. -/
theorem SubtaskKind.going_of_allows {kind : SubtaskKind} {state target : SubtaskState}
    (h : kind.allows state target = true) : ¬state.isTerminal := by
  intro hover
  cases kind <;> cases state <;> cases target <;>
    simp [SubtaskKind.allows, SubtaskState.isTerminal] at h hover

theorem openClaim_levels {session : SessionRow} {id : SubtaskId} {r : SubtaskRow}
    {result : ClaimResult} (hr : Claimable s session id r)
    (h : openClaim k r duration leaseNow now s = (.ok result, s')) : Levels K X s s' := by
  obtain rfl : r.subtaskId = id := Table.key_of_get? hr.subtask
  simp only [openClaim, Tx.bind_ok, Tx.lift_ok, and_assoc, exists_and_left, exists_eq_left',
    Tx.exists_unit] at h
  obtain ⟨fence, s₁, hfence, claimId, s₂, hid, deadline, -, s₃, hins, n, s₄, hsub, h⟩ := h
  split_ifs at h with hn
  · simp at h
  simp only [Tx.bind_ok] at h
  obtain ⟨n', s₅, hses, h⟩ := h
  split_ifs at h with hn'
  · simp at h
  simp only [Tx.bind_ok, Tx.pure_ok, Tx.exists_unit] at h
  obtain ⟨s₆, hevent, -, rfl⟩ := h
  have hsame : s₃.board.subtask = s.board.subtask := by
    rw [(insertClaim_board hins).2, freshId_sameBoard hid, (issueFenceSeq_board hfence).2]
  have hfence : Levels K X s s₁ := levels_of_side (issueFenceSeq_touches (by decide)) hfence
  have hid : Levels K X s₁ s₂ := levels_of_side freshId_touches hid
  have hins : Levels K X s₂ s₃ := levels_of_side (insertInto_touches (fun _ _ => rfl) _) hins
  have hclaimed : Levels K X s₃ s₄ := by
    refine updateSubtask_levels hsub (fun _ => ⟨rfl, rfl⟩) fun r' hr' _ => .inr (.inr (.inl ⟨?_, ?_⟩))
    · rw [hsame, hr.subtask] at hr'
      cases hr'
      exact SubtaskKind.going_of_allows hr.allowed
    · exact nofun
  have hsession : Levels K X s₄ s₅ := levels_of_side (updateIn_touches (fun _ _ => rfl) _ _) hses
  exact ((((hfence.trans hid).trans hins).trans hclaimed).trans hsession).trans
    (appendSessionEvent_levels hevent)

theorem claimSelectedSubtask_levels {session : SessionRow} {id : SubtaskId} :
    Tx.Keeps (Levels K X) (claimSelectedSubtask session k id duration leaseNow now) := by
  intro s result s' h
  simp only [claimSelectedSubtask, Tx.bind_ok] at h
  obtain ⟨r, s₁, hclaimable, hopen⟩ := h
  obtain ⟨hexp, hr⟩ := requireClaimable_ok hclaimable
  exact (expireClaimIfNeeded_levels hexp).trans (openClaim_levels hr hopen)

theorem claimSelectedSubtask_lost_levels {session : SessionRow} {id : SubtaskId} {e : CoveyError}
    (h : claimSelectedSubtask session k id duration leaseNow now s = (.error e, s'))
    (hlost : e.isLostRace = true) : Levels K X s s' := by
  have hnot : ¬e.Surfaces := by simp [CoveyError.Surfaces, hlost]
  rcases Tx.bind_error.mp h with h | ⟨r, s₁, hclaimable, h⟩
  · rcases requireClaimable_error h with hs | hexp
    · exact absurd hs hnot
    · exact expireClaimIfNeeded_levels hexp
  · exact absurd (openClaim_raises (requireClaimable_ok hclaimable).2 h) hnot

theorem claimSubtask_levels {req : ClaimSubtaskReq} :
    Tx.Keeps (Levels K X) (claimSubtask req now) := by
  refine leasedMutation_keeps levels_overlooks fun leaseNow s v s' h => ?_
  simp only [Tx.bind_ok, requireIdleSession_ok, subtaskExists_ok, Tx.ensure_ok, Tx.pure_ok,
    and_assoc, exists_and_left, exists_eq_left', Tx.exists_unit] at h
  obtain ⟨session, -, -, -, -, -, result, _, hclaim, -, rfl⟩ := h
  exact claimSelectedSubtask_levels hclaim

/-- Repairs come back, or are created, beside the work that awaits them. -/
theorem followupBlocks_levels {ids : List SubtaskId} (hn : Named s.board.toLeases)
    (hm : s.board.Mended) (h : ensureChangesRequestedFollowupBlocks k now s = (.ok ids, s')) :
    Levels K X s s' := by
  obtain ⟨s₁, ⟨-, -, hrevival⟩, hmends, -⟩ := followupBlocks_run h
  have hawaiting : ∀ {id r}, s.board.subtask id = some r → r.awaitsRepair →
      s₁.board.subtask id = some r := by
    intro id r hr hawaits
    obtain ⟨r', hr', ⟨rfl, -⟩ | ⟨⟨-, hrevivable, -⟩, -⟩⟩ := rel_of_some (hrevival id) hr
    · exact hr'
    · have := hawaits.2
      simp [hrevivable.1] at this
  have hkept : ∀ {id r}, s.board.subtask id = some r → r.awaitsRepair →
      s'.board.subtask id = some r := by
    intro id r hr hawaits
    obtain ⟨_, hr', rfl⟩ := (hmends.subtask id).of_some (hawaiting hr hawaits)
    exact hr'
  have hgoing : ∀ {id r} (f : SubtaskId → Option SubtaskRow), s.board.subtask id = some r →
      r.awaitsRepair → f id = some r → Unfinished f r.metaTaskId := by
    intro id r f hr hawaits hf
    refine ⟨id, r, fun hres => ?_, hf, rfl, ?_⟩
    · have hkind := hawaits.1
      rw [hn hr hres] at hkind
      cases hkind
    · rcases hawaits.2 with h | h <;> simp [h, SubtaskState.isTerminal]
  have htouches := (ensureChangesRequestedFollowupBlocks_touches (List.Subset.refl _)).run h
  refine ⟨.of_change fun id => ?_, htouches.same fun _ => rfl⟩
  cases hr' : s'.board.subtask id with
  | none =>
    cases hr : s.board.subtask id with
    | none => trivial
    | some r =>
      obtain ⟨r₁, hr₁, -⟩ := rel_of_some (hrevival id) hr
      obtain ⟨_, hr₂, -⟩ := (hmends.subtask id).of_some hr₁
      rw [hr'] at hr₂
      cases hr₂
  | some r' =>
    rcases (hmends.subtask id).of_some' hr' with
      ⟨_, hr₁, rfl⟩ | ⟨hr₁, -, -, id₀, r₀, hr₀, hawaits, hsame⟩
    · obtain ⟨r, hr, ⟨rfl, -⟩ | ⟨⟨-, -, key, f, v, source, hf, hid, hv, -, hsource, hawaits⟩, rfl⟩⟩ :=
        rel_of_some' (hrevival id) hr₁
      · rw [hr]
        exact LevelStep.refl _
      · -- The follow-up is of the meta-task of the work that it repairs.
        obtain ⟨v', r₀, r₁, hv', -, hwork, hr₀, hfollow, -, hsame⟩ := hm.linked hf
        rw [hv] at hv'
        cases hv'
        rw [← hwork, hsource] at hr₀
        cases hr₀
        have hkey : r.subtaskId = id := Table.key_of_get? hr
        rw [hid, hkey, hr] at hfollow
        cases hfollow
        rw [hr]
        refine ⟨rfl, .inr (.inr (.inl ?_))⟩
        rw [hsame.metaTask]
        exact ⟨hgoing _ hsource hawaits hsource, hgoing _ hsource hawaits (hkept hsource hawaits)⟩
    · have hr : s.board.subtask id = none := by
        cases hr : s.board.subtask id with
        | none => rfl
        | some r =>
          obtain ⟨_, hr₂, -⟩ := rel_of_some (hrevival id) hr
          rw [hr₁] at hr₂
          cases hr₂
      have hsource := awaiting_of_revival hrevival hr₀ hawaits
      rw [hr]
      refine ⟨.inl ⟨id₀, r₀, hsource, hsame.metaTask.symm⟩, .inr (.inr ?_)⟩
      rw [hsame.metaTask]
      exact ⟨hgoing _ hsource hawaits hsource, hgoing _ hsource hawaits (hkept hsource hawaits)⟩

theorem claimNextBody_levels {lane : RoutingKey} {m : Option MetaTaskId}
    (hn : Named s.board.toLeases) (hm : s.board.Mended)
    (h : claimNextBody k duration lane m leaseNow now s = (.ok v, s')) : Levels K X s s' := by
  obtain ⟨session, kind, s₁, found, -, -, hblocks, -, h⟩ := claimNextBody_ok h
  have hblocks : Levels K X s s₁ := by
    rcases Tx.whenever_ok.mp hblocks with ⟨-, h⟩ | ⟨-, rfl⟩
    · simp only [Tx.bind_ok, Tx.pure_ok] at h
      obtain ⟨_, _, hfollowups, -, rfl⟩ := h
      exact followupBlocks_levels hn hm hfollowups
    · exact .of_same rfl rfl
  refine hblocks.trans ?_
  rcases h with ⟨-, -, rfl⟩ | ⟨id, -, ⟨result, hclaim, -⟩ | ⟨e, herror, hlost, -⟩⟩
  · exact .of_same rfl rfl
  · exact claimSelectedSubtask_levels hclaim
  · exact claimSelectedSubtask_lost_levels herror hlost

theorem claimNextSubtask_levels {env : Env} {req : ClaimNextReq} (hn : Named s.board.toLeases)
    (hm : s.board.Mended) (h : claimNextSubtask env req now s = (.ok v, s')) : Levels K X s s' :=
  leasedMutation_from levels_overlooks (fun _ hs₀ hrun => by
    subst hs₀
    exact claimNextBody_levels hn hm hrun) h

theorem claimNextRoutedSubtask_levels {req : ClaimNextRoutedReq} (hn : Named s.board.toLeases)
    (hm : s.board.Mended) (h : claimNextRoutedSubtask req now s = (.ok v, s')) : Levels K X s s' :=
  leasedMutation_from levels_overlooks (fun _ hs₀ hrun => by
    subst hs₀
    exact claimNextBody_levels hn hm hrun) h

theorem reconcileChangesRequestedFollowups_levels {req : ReconcileChangesRequestedFollowupsReq}
    (hn : Named s.board.toLeases) (hm : s.board.Mended)
    (h : reconcileChangesRequestedFollowups req now s = (.ok v, s')) : Levels K X s s' := by
  refine mutation_from levels_overlooks (fun {s₁} hrun => ?_) h
  simp only [Tx.bind_ok, requireRole_ok, Tx.pure_ok, and_assoc, exists_and_left,
    exists_eq_left'] at hrun
  obtain ⟨_, -, -, -, -, ids, s₂, hblocks, -, rfl⟩ := hrun
  exact followupBlocks_levels hn hm hblocks

theorem startSubtask_levels {req : StartSubtaskReq} :
    Tx.Keeps (Levels K X) (startSubtask req now) := by
  refine leasedMutation_keeps levels_overlooks fun leaseNow s v s' h => ?_
  simp only [Tx.bind_ok, Tx.lift_ok, ensureMetaTaskIsSchedulable_ok, requireSessionCanClaimKind_ok,
    ensureSubtaskTransition_ok, Tx.ensure_ok, Tx.pure_ok, and_assoc, exists_and_left,
    exists_eq_left', Tx.exists_unit] at h
  obtain ⟨-, ctx, _, hload, -, -, hallowed, n, s₂, hupd, -, s₃, hreviews, _, hevent, -, rfl⟩ := h
  obtain ⟨rfl, hctx⟩ := loadClaimContext_ok hload
  have hstarted : Levels K X s s₂ := by
    refine updateSubtask_levels hupd (fun _ => ⟨rfl, rfl⟩) fun r _ hr => .inr (.inr (.inl ⟨?_, ?_⟩))
    · rw [hr]
      exact SubtaskKind.going_of_allows hallowed
    · simp [SubtaskState.isTerminal]
  have hreviews : Levels K X s₂ s₃ :=
    Tx.Keeps.whenever (fun _ => levels_of_side (startReview_touches (by decide))) hreviews
  exact (hstarted.trans hreviews).trans (appendSessionEvent_levels hevent)

theorem detachSubtask_levels {ctx : ClaimContext} {state : SubtaskState}
    (hstep : ∀ r, s.board.subtask ctx.subtask.subtaskId = some r →
      r.currentClaimId = some ctx.claim.claimId →
      ReservedId ctx.subtask.subtaskId ∨ X r.metaTaskId ∨
        (¬r.state.isTerminal ∧ ¬state.isTerminal) ∨ r.state = state)
    (h : detachSubtask ctx state now s = (.ok u, s')) : Levels K X s s' := by
  have htouches := (detachSubtask_touches (List.Subset.refl _)).run h
  refine ⟨?_, htouches.same fun _ => rfl⟩
  rw [detachSubtask_board h]
  refine Level.modify fun r hr => ?_
  split_ifs with hcur
  · refine ⟨rfl, ?_⟩
    rcases hstep r hr hcur with hres | hX | hgoing | hsame
    · exact .inl hres
    · exact .inr (.inl hX)
    · exact .inr (.inr (.inl hgoing))
    · exact .inr (.inr (.inr ⟨hsame.symm, fun _ => rfl⟩))
  · exact ⟨rfl, .inr (.inr (.inr (.refl r)))⟩

theorem releaseClaim_levels {req : ReleaseClaimReq} :
    Tx.Keeps (Levels K X) (releaseClaim req now) := by
  refine leasedMutation_keeps levels_overlooks fun leaseNow s v s' h => ?_
  simp only [Tx.bind_ok, Tx.lift_ok, requireSessionCanClaimKind_ok, Tx.pure_ok, and_assoc,
    exists_and_left, exists_eq_left', Tx.exists_unit] at h
  obtain ⟨-, ctx, _, hload, -, s₂, hclose, n, s₃, hreserve, s₄, hdetach, s₅, hclear, _, hevent, -,
    rfl⟩ := h
  obtain ⟨rfl, hctx⟩ := loadClaimContext_ok hload
  have hclosed : Touches [.claims, .reservations] s s₃ :=
    ((closeClaimAndDetach_touches (by decide)).run hclose).trans
      ((updateIn_touches (fun _ _ => rfl) _ _).run hreserve)
  have hdetach : Levels K X s₃ s₄ := by
    refine detachSubtask_levels (fun r hr _ => .inr (.inr ?_)) hdetach
    have hsame : s₃.subtasks = s.subtasks := hclosed.same fun _ => rfl
    replace hr : s₃.subtasks.get? _ = some r := hr
    rw [hsame, hctx.subtaskKey, show s.subtasks.get? _ = _ from hctx.subtask] at hr
    cases hr
    split_ifs with hgoing
    · refine .inl ⟨?_, by simp [SubtaskState.isTerminal]⟩
      rcases hgoing with hstate | hstate <;> simp [hstate, SubtaskState.isTerminal]
    · exact .inr rfl
  have hclear : Levels K X s₄ s₅ :=
    levels_of_side (clearSessionActiveSubtask_touches (by decide)) hclear
  refine (Levels.trans ?_ (hdetach.trans hclear)).trans (appendSessionEvent_levels hevent)
  exact .of_same (hclosed.same fun _ => rfl) (hclosed.same fun _ => rfl)

theorem setPublishedArtifact_levels {r : SubtaskRow} {digest : ArtifactDigest}
    (hallowed : r.kind.allows r.state .artifactPublished = true) :
    Tx.Keeps (Levels K X) (setPublishedArtifact r digest now) := by
  intro s n s' h
  refine updateSubtask_levels h (fun _ => ⟨rfl, rfl⟩) fun r' _ hr' =>
      .inr (.inr (.inl ⟨?_, by simp [SubtaskState.isTerminal]⟩))
  rw [hr']
  exact SubtaskKind.going_of_allows hallowed

theorem publishArtifact_levels {req : PublishArtifactReq} :
    Tx.Keeps (Levels K X) (publishArtifact req now) := by
  refine leasedMutation_keeps levels_overlooks fun leaseNow s v s' h => ?_
  simp only [Tx.bind_ok, Tx.lift_ok, requireCurrentClaim_ok, requireActiveSession_ok, loadSubtask_ok,
    ensureMetaTaskIsSchedulable_ok, requireSessionCanClaimKind_ok, Tx.ensure_ok,
    ensureArtifactAllowedForPolicy_ok, lookup_ok, and_assoc, exists_and_left, exists_eq_left',
    Tx.exists_unit] at h
  obtain ⟨-, -, -, -, -, -, claim, -, -, -, -, -, -, _, -, -, -, r, -, -, -, -, -, -, h⟩ := h
  cases hfound : (Rel.artifacts.get s).get? req.artifactDigest with
  | some existing =>
    simp only [hfound, Tx.bind_ok, Tx.ensure_ok, and_assoc, exists_and_left, exists_eq_left',
      Tx.exists_unit] at h
    obtain ⟨-, -, -, -, h⟩ := h
    split_ifs at h
    · obtain ⟨-, rfl⟩ := Tx.pure_ok.mp h
      exact .of_same rfl rfl
    · simp only [Tx.bind_ok, Tx.lift_ok, ensureSubtaskTransition_ok, Tx.pure_ok, and_assoc,
        exists_and_left, exists_eq_left', Tx.exists_unit] at h
      obtain ⟨hallowed, _, s₂, hset, -, rfl⟩ := h
      exact setPublishedArtifact_levels hallowed hset
  | none =>
    simp only [hfound, Tx.bind_ok, Tx.lift_ok, ensureSubtaskTransition_ok,
      ensureArtifactDigestUnused_ok, Tx.ensure_ok, Tx.pure_ok, and_assoc, exists_and_left,
      exists_eq_left', Tx.exists_unit] at h
    obtain ⟨hallowed, -, s₂, hins, _, s₃, hreviews, _, s₄, hset, -, s₅, hevent, -, rfl⟩ := h
    have hins : Levels K X s s₂ := levels_of_side (insertInto_touches (fun _ _ => rfl) _) hins
    have hreviews : Levels K X s₂ s₃ :=
      levels_of_side (updateIn_touches (fun _ _ => rfl) _ _) hreviews
    exact ((hins.trans hreviews).trans (setPublishedArtifact_levels hallowed hset)).trans
      (appendSessionEvent_levels hevent)

theorem insertSubtask_levels {r : SubtaskRow} (h : insertSubtask r s = (.ok u, s'))
    (hput : s.board.subtask r.subtaskId = none → Level K X s.board.subtask
      (put s.board.subtask r.subtaskId r)) : Levels K X s s' := by
  obtain ⟨habsent, -, hb⟩ := insertSubtask_board h
  have htouches := (insertSubtask_touches (List.Subset.refl _)).run h
  refine ⟨?_, htouches.same fun _ => rfl⟩
  rw [hb]
  exact hput habsent

theorem requestReview_levels {req : RequestReviewReq} (hn : Named s.board.toLeases)
    (h : requestReview req now s = (.ok v, s')) : Levels K X s s' := by
  refine mutation_from levels_overlooks (fun {s'} h => ?_) h
  simp only [Tx.bind_ok, requireActiveSession_ok, Tx.lift_ok, requireSessionCanRequestReview,
    requireSessionRole_ok, loadSubtask_ok, Tx.ensure_ok, requireReviewPolicy_ok,
    ensureMetaTaskIsSchedulable_ok, ensureArtifactExists_ok, ensureNoOpenReviewRound_ok,
    ensureSubtaskTransition_ok, subtaskExists_ok, Tx.pure_ok, and_assoc, exists_and_left,
    exists_eq_left', Tx.exists_unit] at h
  obtain ⟨_, -, -, -, -, -, -, r, hr, -, hkind, -, -, -, -, -, htrans, id, s₂, hid, -, -, title, -,
    s₃, hins, reviewId, s₄, hrid, s₅, hreview, _, s₆, hupd, -, s₇, hevent, -, rfl⟩ := h
  have hsame : SameBoard s s₂ := (requestedSubtaskId_board hid).1
  have hid : Levels K X s s₂ := levels_of_side requestedSubtaskId_touches hid
  have hgoing : ¬r.state.isTerminal := SubtaskKind.going_of_allows htrans
  have hplain : ¬ReservedId req.subtaskId := by
    intro hres
    rw [hn hr hres] at hkind
    cases hkind
  have hins : Levels K X s₂ s₃ := by
    refine insertSubtask_levels hins fun habsent => ?_
    refine Level.put_beside habsent (k := req.subtaskId) ?_ hplain hgoing rfl
    rw [hsame]
    exact hr
  have hrid : Levels K X s₃ s₄ := levels_of_side freshId_touches hrid
  have hreview : Levels K X s₄ s₅ := levels_of_side (insertInto_touches (fun _ _ => rfl) _) hreview
  have hupd : Levels K X s₅ s₆ := by
    refine updateSubtask_levels hupd (fun _ => ⟨rfl, rfl⟩) fun r' _ hr' =>
      .inr (.inr (.inl ⟨?_, by simp [SubtaskState.isTerminal]⟩))
    rw [hr'.1]
    exact hgoing
  exact ((((hid.trans hins).trans hrid).trans hreview).trans hupd).trans
    (appendSessionEvent_levels hevent)

theorem enqueueApprovedSubtaskForApply_levels {id : SubtaskId} {digest : ArtifactDigest}
    {key : String} :
    Tx.Keeps (Levels K X) (enqueueApprovedSubtaskForApply k id digest now key) := by
  refine .bind (levels_of_side load_touches) fun _ => .bind (.lift _) fun _ =>
    .bind (levels_of_side ensureApplyableArtifact_touches) fun _ =>
    .bind (levels_of_side (updateIn_touches (fun _ _ => rfl) _ _)) fun _ => .bind ?_ fun n => ?_
  · intro s n s' h
    refine updateSubtask_levels h (fun _ => ⟨rfl, rfl⟩) fun r _ hr => .inr (.inr (.inl ⟨?_, nofun⟩))
    simp [hr.1, SubtaskState.isTerminal]
  · split_ifs
    · refine .bind .get fun s => ?_
      dsimp only
      split_ifs
      · exact .pure _
      · exact .fail _
    · exact levels_of_side (insertReadyQueueItem_touches (by decide))

theorem enqueueForApply_levels {req : EnqueueForApplyReq} :
    Tx.Keeps (Levels K X) (enqueueForApply req now) := by
  refine mutation_keeps levels_overlooks <|
    .bind (levels_of_side requireActiveSession_touches) fun _ =>
    .bind (.lift _) fun _ => .bind (.lift _) fun _ => .bind (.lift _) fun _ =>
    .bind (levels_of_side load_touches) fun r => .bind (.lift _) fun _ =>
    .bind (levels_of_side ensureMetaTaskIsSchedulable_touches) fun _ =>
    .bind (.ensure _ _) fun _ => .bind (.bind ?_ fun _ => .pure _) fun found => ?_
  · exact levels_of_side selectFrom_touches
  · split
    · exact .pure _
    · refine .bind (.lift _) fun _ => .bind enqueueApprovedSubtaskForApply_levels fun queued => ?_
      cases queued with
      | none => exact .fail _
      | some queueId => exact .pure _

theorem reconcileApplyQueue_levels {req : ReconcileApplyQueueReq} :
    Tx.Keeps (Levels K X) (reconcileApplyQueue req now) :=
  leasedMutation_keeps levels_overlooks fun _ =>
    .bind (levels_of_side requireRole_touches) fun _ =>
    .bind (levels_of_side (requeueStaleReadyQueueClaims_touches (by decide))) fun _ =>
    .bind (.bind .get fun _ => .mapEach fun _ _ => enqueueApprovedSubtaskForApply_levels) fun _ =>
    .bind (.bind .get fun _ => .mapEach fun _ _ =>
      levels_of_side (insertReadyQueueItem_touches (by decide))) fun _ => .pure _

/-! ### Archive cleanups -/

theorem endCleanupClaim_levels {row : CleanupClaimRow} {claimState : ClaimState}
    {subtaskState : SubtaskState} (hres : ReservedId row.cleanupSubtaskId) :
    Tx.Keeps (Levels K X) (endCleanupClaim row claimState subtaskState now) :=
  .bind (levels_of_side (updateIn_touches (fun _ _ => rfl) _ _)) fun _ =>
    .bind (fun _ _ _ h => updateSubtask_levels h (fun _ => ⟨rfl, rfl⟩) fun _ _ _ => .inl hres)
      fun _ => levels_of_side (releaseActiveReservationsForSubtask_touches (by decide))

theorem retireStaleCleanupClaim_levels {changeId : OpenSpecChangeId}
    (ha : Anchored s.board.toLeases)
    (h : retireStaleCleanupClaim changeId leaseNow now s = (.ok u, s')) : Levels K X s s' := by
  simp only [retireStaleCleanupClaim, Tx.bind_ok, Tx.get_ok, and_assoc, exists_and_left,
    exists_eq_left'] at h
  cases hrow : s.cleanupClaims.get? changeId with
  | none =>
    simp only [hrow, Tx.pure_ok] at h
    obtain ⟨-, rfl⟩ := h
    exact .of_same rfl rfl
  | some row =>
    simp only [hrow] at h
    exact Tx.Keeps.whenever (fun _ => endCleanupClaim_levels ⟨_, (ha.cleanup hrow).1⟩) h

theorem ensureCleanupSubtask_levels {id : SubtaskId} {m : MetaTaskId} {title : SubtaskTitle}
    {lane : RoutingKey} (hres : ReservedId id) (hm : K m) :
    Tx.Keeps (Levels K X) (ensureCleanupSubtask id m title lane now) := by
  refine .bind (levels_of_side subtaskExists_touches) fun _ =>
    .bind (.whenever fun _ s _ s' h => ?_) fun _ => .bind (fun _ _ _ h => ?_) fun _ => .pure _
  · obtain ⟨habsent, hb⟩ := insertSubtaskRow_board h
    have htouches := (insertSubtaskRow_touches (List.Subset.refl _) _).run h
    refine ⟨?_, htouches.same fun _ => rfl⟩
    rw [hb]
    exact Level.put_new (.inr hm) habsent (.inl hres)
  · exact updateSubtask_levels h (fun _ => ⟨rfl, rfl⟩) fun _ _ _ => .inl hres

theorem openCleanupClaim_levels {req : BeginOpenSpecArchiveCleanupReq}
    {blockers : List OpenSpecArchiveStatusRow} {result : OpenSpecArchiveCleanupClaim}
    (hK : ∀ {m r}, s.metaTasks.get? m = some r → K m)
    (h : openCleanupClaim req blockers leaseNow now s = (.ok result, s')) : Levels K X s s' := by
  simp only [openCleanupClaim, Tx.bind_ok, loadMetaTask_ok, cleanupSubtaskId_ok, Tx.lift_ok,
    Tx.pure_ok, and_assoc, exists_and_left, exists_eq_left', Tx.exists_unit] at h
  obtain ⟨metaTaskId, s₀, hmeta, m, hm, -, id, hid, title, -, lane, -, s₁, hensure, fence, s₂, hfence,
    claimId, s₃, hclaimId, deadline, hdeadline, s₄, hupsert, _, s₅, hsubtask, s₆, hreserve, s₇, hrow,
    s₈, hevent, -, rfl⟩ := h
  obtain rfl : s = s₀ := (cleanupMetaTaskId_readOnly.state hmeta).symm
  have hres : ReservedId id := ⟨_, hid⟩
  have hensure : Levels K X s s₁ := ensureCleanupSubtask_levels hres (hK hm) hensure
  have hfence : Levels K X s₁ s₂ := levels_of_side (issueFenceSeq_touches (by decide)) hfence
  have hclaimId : Levels K X s₂ s₃ := levels_of_side cleanupClaimId_touches hclaimId
  have hupsert : Levels K X s₃ s₄ := levels_of_side (upsertCleanupClaim_touches (by decide)) hupsert
  have hsubtask : Levels K X s₄ s₅ :=
    updateSubtask_levels hsubtask (fun _ => ⟨rfl, rfl⟩) fun _ _ _ => .inl hres
  have hreserve : Levels K X s₅ s₆ := by
    refine ⟨?_, ((Tx.Within.forEach (fun _ => reserveArchivePath_touches) _).run hreserve).same
      fun _ => rfl⟩
    rw [show s₆.board = s₅.board from
      Tx.Keeps.forEach (fun _ _ => reserveArchivePath_sameBoard) hreserve]
    exact .refl _
  have hrow : Levels K X s₆ s₇ := levels_of_side (upsertCleanupClaimRow_touches (by decide)) hrow
  exact ((((((hensure.trans hfence).trans hclaimId).trans hupsert).trans hsubtask).trans
    hreserve).trans hrow).trans (appendSessionEvent_levels hevent)

theorem beginOpenSpecArchiveCleanup_levels {req : BeginOpenSpecArchiveCleanupReq}
    (ha : Anchored s.board.toLeases) (hK : ∀ {m r}, s.metaTasks.get? m = some r → K m)
    (h : beginOpenSpecArchiveCleanup req now s = (.ok v, s')) : Levels K X s s' := by
  refine leasedMutation_from levels_overlooks (fun {leaseNow s₀ s'} _ hs₀ hrun => ?_) h
  simp only [Tx.bind_ok, requireRole_ok, and_assoc, exists_and_left, exists_eq_left'] at hrun
  obtain ⟨_, -, -, -, -, eligibility, s₁, heligible, _, s₂, hready, existing, s₃, hload, hrun⟩ := hrun
  obtain rfl : s₀ = s₁ := (archiveEligibilityForChange_readOnly.state heligible).symm
  obtain rfl : s₀ = s₂ := by
    rcases Tx.whenever_ok.mp hready with ⟨-, h⟩ | ⟨-, h⟩
    · exact (cleanupMissing_readOnly.state h).symm
    · exact h
  obtain rfl : s₀ = s₃ := (loadCleanupClaimForChange_readOnly.state hload).symm
  subst hs₀
  cases existing with
  | some claim =>
    obtain ⟨-, rfl⟩ := Tx.pure_ok.mp hrun
    exact .of_same rfl rfl
  | none =>
    simp only [Tx.bind_ok, Tx.pure_ok] at hrun
    obtain ⟨_, s₁, hretire, _, s₂, hopen, -, rfl⟩ := hrun
    have hmeta : s₁.metaTasks = s.metaTasks :=
      (retireStaleCleanupClaim_touches.run hretire).same fun _ => rfl
    refine (retireStaleCleanupClaim_levels (by exact ha) hretire).trans (openCleanupClaim_levels ?_ hopen)
    rw [hmeta]
    exact hK

theorem finishOpenSpecArchiveCleanup_levels {req : FinishOpenSpecArchiveCleanupReq}
    (ha : Anchored s.board.toLeases)
    (h : finishOpenSpecArchiveCleanup req now s = (.ok v, s')) : Levels K X s s' := by
  refine mutation_from levels_overlooks (fun {s'} hrun => ?_) h
  simp only [Tx.bind_ok, requireRole_ok, Tx.get_ok, and_assoc, exists_and_left,
    exists_eq_left'] at hrun
  obtain ⟨_, -, -, -, -, hrun⟩ := hrun
  cases hfound : (s.cleanupClaims.get? req.openspecChangeId).filter
      (fun row => row.cleanupClaimId = req.cleanupClaimId) with
  | none => simp [hfound] at hrun
  | some row =>
    have hrow : s.board.cleanup req.openspecChangeId = some row :=
      (Option.filter_eq_some_iff.mp hfound).1
    simp only [hfound, Tx.bind_ok, requireCurrentClaim_ok, and_assoc, exists_and_left,
      exists_eq_left'] at hrun
    obtain ⟨-, _, -, -, -, -, -, -, blockers, s₂, hload, hrun⟩ := hrun
    obtain rfl : s = s₂ := (loadOpenArchiveBlockers_readOnly.state hload).symm
    split_ifs at hrun
    · simp only [Tx.bind_ok, Tx.pure_ok] at hrun
      obtain ⟨_, _, hfinish, -, rfl⟩ := hrun
      refine levels_of_side ?_ hfinish
      exact .bind (.whenever fun _ => .of_readOnly cleanupMissing_readOnly) fun _ =>
        .bind selectFrom_touches fun _ =>
        .bind (releaseActiveReservationsForSubtask_touches (by decide)) fun _ => .pure _
    · simp only [Tx.bind_ok, Tx.lift_ok, Tx.pure_ok, and_assoc, exists_and_left, exists_eq_left',
        Tx.exists_unit] at hrun
      obtain ⟨s₃, hblockers, n, s₄, hmark, s₅, hend, _, -, _, hevent, -, rfl⟩ := hrun
      have hblockers : Levels K X s s₃ := Tx.Keeps.forEach
        (fun _ _ => levels_of_side (archiveBlocker_touches (by decide))) hblockers
      have hmark : Levels K X s₃ s₄ := levels_of_side (updateIn_touches (fun _ _ => rfl) _ _) hmark
      exact ((hblockers.trans hmark).trans
        (endCleanupClaim_levels ⟨_, (ha.cleanup hrow).1⟩ hend)).trans
        (appendSessionEvent_levels hevent)

end Quiet

end Covey

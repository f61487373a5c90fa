import Covey.Commits
import Covey.Dependencies
import Covey.Lib.Acyclic
import Covey.Script
import Covey.Turns

/-!
# Repair follow-ups over runs

A failed review has a follow-up: new work that repairs what the review found. It is created with
the verdict, and reconciliation creates it where it is missing and brings it back where it was
abandoned untouched.

* `Board.Mended`: the records link failed reviews to work of the same kind, every follow-up repairs
  one subtask, and the links lead back to a first subtask.
* `Dead`: work that a review failed never comes under review again.
* `followupBlocks_reconciles`, `followupBlocks_idle`: a second reconciliation finds nothing to do.
* `followups_kept`: what holds of the repairs in every run.
-/

namespace Covey

open Relational

variable {now : ℤ} {w : Write} {b b' : Board} {x x' : Rounds}

/-! ## Published work -/

/-- A row with an artifact is one that work has before its publication only if it does not load. -/
theorem SubtaskRow.Loads.published {r : SubtaskRow} (h : r.Loads) (hartifact : r.artifactDigest.isSome) :
    r.state ≠ .available ∧ r.state ≠ .claimed ∧ r.state ≠ .inProgress := by
  have hlife := (SubtaskRow.loads_iff.mp h).1
  refine ⟨fun hs => ?_, fun hs => ?_, fun hs => ?_⟩ <;>
  · by_cases hclaim : r.currentClaimId = none <;>
      simp [SubtaskRow.lifecycle, hs, hartifact, hclaim, invalidRow] at hlife

/-- Only an available subtask can be claimed. -/
theorem SubtaskKind.available_of_allows {kind : SubtaskKind} {state : SubtaskState}
    (h : kind.allows state .claimed = true) : state = .available := by
  cases kind <;> cases state <;> simp [SubtaskKind.allows] at h ⊢

/-- No move takes an artifact back. -/
theorem RowStep.artifact_isSome {id : SubtaskId} {r r' : SubtaskRow} (h : RowStep b now id w r r')
    (hr : r.artifactDigest.isSome) : r'.artifactDigest.isSome := by
  cases h with
  | same | apply | beginCleanup | endCleanup => exact hr
  | edit h =>
    cases h with
    | publish => rfl
    | advance | complete | retitle | revive | cancel | reopen | strand => exact hr
  | detach _ h => cases h <;> exact hr
  | claim loads allowed =>
    exact absurd (SubtaskKind.available_of_allows allowed) (loads.published hr).1

/-- Work that a review failed: it stays as it is, unless it is given up or a cleanup takes its row.
    No such row is one that a subtask operation accepts. -/
def SubtaskRow.Dead (r : SubtaskRow) : Prop :=
  r.kind = .work ∧ r.artifactDigest.isSome ∧
    (r.state = .changesRequested ∨ r.state = .blocked ∨ r.state = .abandoned ∨
      r.state = .available ∨ r.state = .claimed ∨ r.state = .inProgress)

theorem SubtaskRow.awaitsRepair.dead {r : SubtaskRow} (h : r.awaitsRepair)
    (hartifact : r.artifactDigest.isSome) : r.Dead :=
  ⟨h.1, hartifact, h.2.imp_right .inl⟩

/-- No transition is declared for it. -/
theorem SubtaskRow.Dead.stuck {r : SubtaskRow} (h : r.Dead) (hloads : r.Loads) (target : SubtaskState) :
    r.kind.allows r.state target = false := by
  obtain ⟨ha, hc, hi⟩ := hloads.published h.2.1
  rw [h.1]
  rcases h.2.2 with hs | hs | hs | hs | hs | hs
  · rw [hs]; cases target <;> rfl
  · rw [hs]; cases target <;> rfl
  · rw [hs]; cases target <;> rfl
  · exact absurd hs ha
  · exact absurd hs hc
  · exact absurd hs hi

theorem SubtaskRow.Dead.cancelled {r : SubtaskRow} (h : r.Dead) : (r.cancelled now).Dead := by
  refine ⟨h.1, h.2.1, ?_⟩
  unfold SubtaskRow.cancelled
  rcases h.2.2 with hs | hs | hs | hs | hs | hs <;> simp [hs, SubtaskState.isTerminal]

theorem SubtaskRow.Dead.lapsed {r : SubtaskRow} (h : r.Dead) : (r.lapsed now).Dead := by
  refine ⟨h.1, h.2.1, ?_⟩
  unfold SubtaskRow.lapsed
  rcases h.2.2 with hs | hs | hs | hs | hs | hs <;> simp [hs]

theorem RowStep.dead {id : SubtaskId} {r r' : SubtaskRow} (h : RowStep b now id w r r')
    (hr : r.Dead) : r'.Dead := by
  have hstuck : ∀ {target}, r.Loads → r.kind.allows r.state target = true → False :=
    fun hloads hallowed => by simp [hr.stuck hloads] at hallowed
  cases h with
  | same => exact hr
  | edit h =>
    cases h with
    | advance _ loads allowed => exact (hstuck loads allowed).elim
    | publish loads _ _ allowed => exact (hstuck loads allowed).elim
    | complete loads allowed => exact (hstuck loads allowed).elim
    | strand loads allowed => exact (hstuck loads allowed).elim
    | retitle => exact hr
    | revive => exact ⟨hr.1, hr.2.1, .inr (.inr (.inr (.inl rfl)))⟩
    | cancel => exact hr.cancelled
    | reopen => exact ⟨hr.1, hr.2.1, .inr (.inr (.inr (.inl rfl)))⟩
  | detach _ h =>
    cases h with
    | lapse => exact hr.lapsed
    | abandon => exact ⟨hr.1, hr.2.1, .inr (.inr (.inl rfl))⟩
    | cancel => exact hr.cancelled
    | outcome loads _ _ allowed => exact (hstuck loads allowed).elim
    | decide loads allowed => exact (hstuck loads allowed).elim
    | complete loads allowed => exact (hstuck loads allowed).elim
  | claim loads allowed => exact (hstuck loads allowed).elim
  | apply _ _ ready =>
    have hstate := hr.2.2
    simp [ready] at hstate
  | beginCleanup => exact ⟨hr.1, hr.2.1, .inr (.inr (.inr (.inr (.inr rfl))))⟩
  | endCleanup _ _ left =>
    rcases left with rfl | rfl
    · exact ⟨hr.1, hr.2.1, .inr (.inr (.inr (.inl rfl)))⟩
    · exact ⟨hr.1, hr.2.1, .inr (.inr (.inl rfl))⟩

theorem Steps.dead {L : Set Write} (h : Steps L now b b') {id : SubtaskId}
    (hdead : ∃ r, b.subtask id = some r ∧ r.Dead) : ∃ r, b'.subtask id = some r ∧ r.Dead := by
  refine Steps.invariant (I := fun b => ∃ r, b.subtask id = some r ∧ r.Dead)
    (fun _ m ⟨r, hr, hd⟩ => ?_) h hdead
  obtain ⟨r', hr', hstep⟩ := (m.subtask id).of_some hr
  exact ⟨r', hr', hstep.dead hd⟩

/-! ## The repair graph -/

/-- The records of repairs: every review is of work that was published, every follow-up is work
    like the work that it repairs, no subtask is the follow-up of two records, and the way back to
    what was repaired comes to an end. -/
structure Board.Mended (b : Board) : Prop where
  reviewed : ∀ {k v}, b.review k = some v →
    ∃ r, b.subtask v.subtaskId = some r ∧ r.artifactDigest.isSome
  linked : ∀ {k f}, b.followup k = some f → ∃ v r r', b.review k = some v ∧ v.isFailed ∧
    v.subtaskId = f.sourceSubtaskId ∧ b.subtask f.sourceSubtaskId = some r ∧
    b.subtask f.followupSubtaskId = some r' ∧ r'.kind = .work ∧ r.Bequeaths r'
  alone : ∀ {k k' f f'}, b.followup k = some f → b.followup k' = some f' →
    f.followupSubtaskId = f'.followupSubtaskId → k = k'
  grounded : WellFounded (Repairs b)

/-- A review was there before the move, or it is of work that was just published. -/
theorem Move.review_from (m : Move now w b b') {k : ReviewId} {v' : ReviewRow}
    (h : b'.review k = some v') : (∃ v, b.review k = some v ∧ v'.subtaskId = v.subtaskId) ∨
      ∃ r, b.subtask v'.subtaskId = some r ∧ r.artifactDigest.isSome := by
  cases m with
  | lease | apply => exact .inl ⟨v', h, rfl⟩
  | ledger m =>
    cases m with
    | artifact | followup | permissive | enqueue | queue | verify => exact .inl ⟨v', h, rfl⟩
    | @review v r new requested subtask policy digest =>
      rcases put_eq_some.mp h with ⟨-, rfl⟩ | ⟨-, h⟩
      · exact .inr ⟨r, subtask, by simp [digest]⟩
      · exact .inl ⟨v', h, rfl⟩
    | reviews evolved =>
      obtain ⟨v, hv, rfl | ⟨-, -, hsame⟩⟩ := rel_of_some' (evolved k) h
      · exact .inl ⟨v', hv, rfl⟩
      · exact .inl ⟨v, hv, hsame.subtask⟩
    | @verdict v _ current _ same =>
      rcases put_eq_some.mp h with ⟨rfl, rfl⟩ | ⟨-, h⟩
      · exact .inl ⟨v, current, same.subtask⟩
      · exact .inl ⟨v', h, rfl⟩

/-- A record of a repair was there before the move, or it is new and leads to work that nobody
    has published. -/
theorem Move.followup_from (m : Move now w b b') {k : ReviewId} {f : ReviewFollowupRow}
    (h : b'.followup k = some f) : b.followup k = some f ∨
      b.followup k = none ∧ (∀ k' ≠ k, b'.followup k' = b.followup k') ∧
      ∃ v r r', b.review k = some v ∧ v.isFailed ∧ v.subtaskId = f.sourceSubtaskId ∧
        b.subtask f.sourceSubtaskId = some r ∧ b.subtask f.followupSubtaskId = some r' ∧
        r'.kind = .work ∧ r'.artifactDigest = none ∧ r.Bequeaths r' ∧
        ∀ k f', b.followup k = some f' → f'.followupSubtaskId ≠ f.followupSubtaskId := by
  cases m with
  | lease | apply => exact .inl h
  | ledger m =>
    cases m with
    | artifact | review | reviews | verdict | permissive | enqueue | queue | verify => exact .inl h
    | @followup f' v r r' new review failed source repaired repair kind unpublished inherits unlinked =>
      rcases put_eq_some.mp h with ⟨rfl, rfl⟩ | ⟨-, h⟩
      · exact .inr ⟨new, fun _ hk => put_of_ne hk, v, r, r', review, failed, source, repaired, repair,
          kind, unpublished, inherits, unlinked⟩
      · exact .inl h

theorem SubtaskRow.Bequeaths.sameWork {r r' q q' : SubtaskRow} (h : r.Bequeaths r')
    (hr : r.SameWork q) (hr' : r'.SameWork q') : q.Bequeaths q' where
  metaTask := by rw [hr'.metaTask, h.metaTask, hr.metaTask]
  policy := by rw [hr'.policy, h.policy, hr.policy]
  lane := by rw [hr'.lane, h.lane, hr.lane]
  priority := by rw [hr'.priority, h.priority, hr.priority]

/-- The work that a record repairs has been published. -/
theorem Board.Mended.source_published (h : b.Mended) {k : ReviewId} {v : ReviewRow} {id : SubtaskId}
    {r : SubtaskRow} (hv : b.review k = some v) (hid : v.subtaskId = id)
    (hr : b.subtask id = some r) : r.artifactDigest ≠ none := by
  obtain ⟨r₀, hr₀, hartifact⟩ := h.reviewed hv
  rw [hid, hr] at hr₀
  obtain rfl : r = r₀ := Option.some.inj hr₀
  exact Option.isSome_iff_ne_none.mp hartifact

theorem Board.Mended.move (h : b.Mended) (m : Move now w b b') : b'.Mended := by
  have hpublished : ∀ {id r}, b.subtask id = some r → r.artifactDigest.isSome →
      ∃ r', b'.subtask id = some r' ∧ r'.artifactDigest.isSome := by
    intro id r hr hartifact
    obtain ⟨r', hr', hstep⟩ := (m.subtask id).of_some hr
    exact ⟨r', hr', hstep.artifact_isSome hartifact⟩
  refine ⟨fun {k v'} hv' => ?_, fun {k f} hf => ?_, fun {k k' f f'} hf hf' heq => ?_, ?_⟩
  · rcases m.review_from hv' with ⟨v, hv, hid⟩ | ⟨r, hr, hartifact⟩
    · obtain ⟨r, hr, hartifact⟩ := h.reviewed hv
      rw [hid]
      exact hpublished hr hartifact
    · exact hpublished hr hartifact
  · obtain ⟨v, r, r', hv, hfailed, hid, hr, hr', hkind, hinherits⟩ : ∃ v r r', b.review k = some v ∧
        v.isFailed ∧ v.subtaskId = f.sourceSubtaskId ∧ b.subtask f.sourceSubtaskId = some r ∧
        b.subtask f.followupSubtaskId = some r' ∧ r'.kind = .work ∧ r.Bequeaths r' := by
      rcases m.followup_from hf with hf | ⟨-, -, v, r, r', hv, hfailed, hid, hr, hr', hkind, -, hinherits, -⟩
      · exact h.linked hf
      · exact ⟨v, r, r', hv, hfailed, hid, hr, hr', hkind, hinherits⟩
    obtain ⟨v', hv', -, hsame⟩ := m.evolves.review hv
    rw [hsame hfailed.1] at hv'
    obtain ⟨q, hq, hrq⟩ := m.evolves.subtask hr
    obtain ⟨q', hq', hrq'⟩ := m.evolves.subtask hr'
    exact ⟨v, q, q', hv', hfailed, hid, hq, hq', hrq'.kind.trans hkind, hinherits.sameWork hrq hrq'⟩
  · rcases m.followup_from hf with hold | ⟨-, hother, v, r, r', -, -, -, -, -, -, -, -, hnew⟩
    · rcases m.followup_from hf' with hold' | ⟨-, -, v, r, r', -, -, -, -, -, -, -, -, hnew'⟩
      · exact h.alone hold hold' heq
      · exact absurd heq (hnew' k f hold)
    · by_contra hne
      rw [hother k' fun hk => hne hk.symm] at hf'
      exact hnew k' f' hf' heq.symm
  · by_cases hsame : ∀ k f, b'.followup k = some f → b.followup k = some f
    · refine Subrelation.wf (fun {x y} hxy => ?_) h.grounded
      obtain ⟨k, f, hf, hlinks⟩ := hxy
      exact ⟨k, f, hsame k f hf, hlinks⟩
    · push Not at hsame
      obtain ⟨k, f, hf, hnot⟩ := hsame
      obtain ⟨-, hother, v, r, r', hv, -, hid, hr, hr', -, hbare, -, -⟩ :=
        (m.followup_from hf).resolve_left hnot
      refine WellFounded.extend (n := f.followupSubtaskId) h.grounded (fun x y hxy => ?_) fun y hxy => ?_
      · obtain ⟨k', f', hf', hsource, htarget⟩ := hxy
        by_cases hk : k' = k
        · subst hk
          obtain rfl : f = f' := Option.some.inj (hf.symm.trans hf')
          exact .inr htarget.symm
        · rw [hother k' hk] at hf'
          exact .inl ⟨k', f', hf', hsource, htarget⟩
      · -- The work that was repaired so far has been published, the new follow-up has not.
        obtain ⟨k', f', hf', hsource, -⟩ := hxy
        rw [← hsource] at hr'
        by_cases hk : k' = k
        · subst hk
          obtain rfl : f = f' := Option.some.inj (hf.symm.trans hf')
          exact h.source_published hv hid hr' hbare
        · rw [hother k' hk] at hf'
          obtain ⟨v', -, -, hv', -, hid', -⟩ := h.linked hf'
          exact h.source_published hv' hid' hr' hbare

/-! ## Failing verdicts -/

/-- Only a verdict fails a review. -/
theorem Move.failed_from (m : Move now w b b') (hw : w ≠ .verdict) {k : ReviewId} {v : ReviewRow}
    (h : b'.review k = some v) (hf : v.isFailed) : b.review k = some v := by
  cases m with
  | lease | apply => exact h
  | ledger m =>
    cases m with
    | artifact | followup | permissive | enqueue | queue | verify => exact h
    | review new requested =>
      rcases put_eq_some.mp h with ⟨-, rfl⟩ | ⟨-, h⟩
      · exact absurd (hf.1.symm.trans requested) (by decide)
      · exact h
    | reviews evolved =>
      obtain ⟨v₀, hv₀, rfl | ⟨-, hundecided, -⟩⟩ := rel_of_some' (evolved k) h
      · exact hv₀
      · exact absurd hf.1 hundecided
    | verdict => exact absurd rfl hw

theorem Steps.failed_from {L : Set Write} (h : Steps L now b b') (hL : .verdict ∉ L) {k : ReviewId}
    {v : ReviewRow} (hv : b'.review k = some v) (hf : v.isFailed) : b.review k = some v :=
  Steps.invariant (I := fun b' => ∀ v, b'.review k = some v → v.isFailed → b.review k = some v)
    (fun hw m ih v hv hf => ih v (m.failed_from (fun h => hL (h ▸ hw)) hv hf) hf) h
    (fun _ hv _ => hv) v hv hf

/-- A decision leaves the failed reviews as they are or adds one, of work that was under review and
    is dead afterwards. -/
theorem Turn.failed_from {op : Operation} (h : Turn now x op x')
    (hop : (∃ req, op = .decideReview req) ∨ ∃ req, op = .recordPermissiveLandingReceipt req)
    {k : ReviewId} {v : ReviewRow} (hv : x'.review k = some v) (hf : v.isFailed) :
    x.review k = some v ∨ op.Fails k ∧ ∃ r r', x.subtask v.subtaskId = some r ∧
      r.state = .reviewPending ∧ x'.subtask v.subtaskId = some r' ∧ r'.Dead := by
  cases h with
  | release | abandon | cancel | start | publish | request =>
    rcases hop with ⟨_, hop⟩ | ⟨_, hop⟩ <;> cases hop
  | @decide _ v₀ v' t t' r r' claim review started decided same subtask kind active done sameReview work
      distinct digest live judged sameWork owners failed =>
    rcases put_eq_some.mp hv with ⟨rfl, rfl⟩ | ⟨-, hv⟩
    · obtain ⟨hfails, hpending, hawaits, hartifact⟩ := failed hf
      refine .inr ⟨hfails, r, r', by rw [same.subtask]; exact work, hpending, ?_, ?_⟩
      · rw [same.subtask]
        exact put_self
      · exact hawaits.dead (by rw [hartifact, digest]; rfl)
    · exact .inl hv

/-! ## Reconciliation -/

/-- The subtask was created to repair work that still awaits its repair. -/
def Board.Repairing (b : Board) (id : SubtaskId) : Prop :=
  ∃ k f v r, b.followup k = some f ∧ f.followupSubtaskId = id ∧ b.review k = some v ∧ v.isFailed ∧
    b.subtask v.subtaskId = some r ∧ r.awaitsRepair

/-- A follow-up that reconciliation brings back. -/
def Board.Stranded (b : Board) (r : SubtaskRow) : Prop :=
  r.kind = .work ∧ r.isRevivable ∧ b.Repairing r.subtaskId

/-- Reconciliation has nothing to do: no follow-up is stranded and none is missing. -/
structure Board.Reconciled (b : Board) : Prop where
  revived : ∀ {id r}, b.subtask id = some r → ¬b.Stranded r
  created : ∀ {k v r}, b.review k = some v → v.isFailed → b.subtask v.subtaskId = some r →
    r.awaitsRepair → (b.followup k).isSome

/-- What bringing back the stranded follow-ups does to a subtask. -/
def Board.Revival (b : Board) (now : ℤ) (r r' : SubtaskRow) : Prop :=
  r' = r ∧ ¬b.Stranded r ∨
    b.Stranded r ∧ r' = { r with state := .available, updatedAt := now }

section Reconcile

variable {s s' : Db} {u : Unit} {k : SessionToken} {ids : List SubtaskId}

theorem awaited_iff {v : ReviewRow} :
    (v.isFailed ∧ (s.subtasks.get? v.subtaskId).any (fun r => r.awaitsRepair) = true) ↔
      v.isFailed ∧ ∃ r, s.board.subtask v.subtaskId = some r ∧ r.awaitsRepair := by
  refine and_congr_right fun _ => ?_
  rw [Option.any_eq_true]
  simp only [decide_eq_true_eq]
  rfl

/-- The condition of the query for stranded follow-ups. -/
theorem stranded_iff {r : SubtaskRow} :
    (r.kind = .work ∧ r.isRevivable ∧
      ∃ f ∈ s.reviewFollowups.rows, f.followupSubtaskId = r.subtaskId ∧
        (s.reviews.get? f.reviewId).any (fun review => review.isFailed ∧
          (s.subtasks.get? review.subtaskId).any (fun source => source.awaitsRepair) = true) = true) ↔
      s.board.Stranded r := by
  refine and_congr_right fun _ => and_congr_right fun _ => ?_
  constructor
  · rintro ⟨f, hf, hid, hany⟩
    rw [Option.any_eq_true] at hany
    obtain ⟨v, hv, hawaited⟩ := hany
    obtain ⟨hfailed, r, hr, hawaits⟩ := awaited_iff.mp (of_decide_eq_true hawaited)
    exact ⟨f.reviewId, f, v, r, Table.get?_key hf, hid, hv, hfailed, hr, hawaits⟩
  · rintro ⟨k, f, v, r, hf, hid, hv, hfailed, hr, hawaits⟩
    have hkey : f.reviewId = k := Table.key_of_get? hf
    refine ⟨f, Table.mem_of_get? hf, hid, ?_⟩
    rw [Option.any_eq_true]
    exact ⟨v, hkey ▸ hv, decide_eq_true (awaited_iff.mpr ⟨hfailed, r, hr, hawaits⟩)⟩

/-- The loop that brings follow-ups back, one after the other. -/
theorem reviveEach_board (h : Tx.forEach ids (fun followupSubtaskId => do
      let _ ← updateIn Rel.subtasks
        (fun r => r.subtaskId = followupSubtaskId ∧ r.isRevivable) fun r =>
        { r with state := .available, updatedAt := now }
      pure ()) s = (.ok u, s')) (id : SubtaskId) :
    s'.board.subtask id = (s.board.subtask id).map fun r =>
      if id ∈ ids ∧ r.isRevivable then { r with state := .available, updatedAt := now } else r := by
  induction ids generalizing s with
  | nil =>
    obtain ⟨-, rfl⟩ := Tx.pure_ok.mp h
    simp
  | cons id₀ ids ih =>
    simp only [Tx.forEach_cons_ok, Tx.bind_ok, Tx.pure_ok] at h
    obtain ⟨_, ⟨n, s₁, hupd, -, rfl⟩, hrest⟩ := h
    have hstep : s₁.board.subtask id = modify s.board.subtask id₀ _ id :=
      congrFun (congrArg (fun b : Board => b.subtask) (updateSubtask_board hupd fun _ => rfl).2) id
    rw [ih hrest, hstep, modify_apply, Option.map_map]
    refine congrArg (fun f => Option.map f _) (funext fun r => ?_)
    -- A follow-up that came back is not brought back again.
    have hback : ¬({ r with state := .available, updatedAt := now } : SubtaskRow).isRevivable :=
      fun h => by cases h.1
    by_cases hid : id = id₀ <;> by_cases hr : r.isRevivable <;> simp [hid, hr, hback]

theorem reviveAbandonedReviewFollowups_run
    (h : reviveAbandonedReviewFollowups now s = (.ok ids, s')) :
    s'.board.review = s.board.review ∧ s'.board.followup = s.board.followup ∧
      (∀ id, Option.Rel (s.board.Revival now) (s.board.subtask id) (s'.board.subtask id)) := by
  have htouches : Touches [.subtasks] s s' :=
    (reviveAbandonedReviewFollowups_touches (List.Subset.refl _)).run h
  have hreviews : s'.reviews = s.reviews := htouches.same fun _ => rfl
  have hfollowups : s'.reviewFollowups = s.reviewFollowups := htouches.same fun _ => rfl
  refine ⟨congrArg Table.get? hreviews, congrArg Table.get? hfollowups, fun id => ?_⟩
  simp only [reviveAbandonedReviewFollowups, Tx.bind_ok, Tx.get_ok, Tx.pure_ok, and_assoc,
    exists_and_left, exists_eq_left', Tx.exists_unit] at h
  obtain ⟨_, hloop, -, rfl⟩ := h
  rw [reviveEach_board hloop id]
  refine rel_map fun r hr => ?_
  have hkey : r.subtaskId = id := Table.key_of_get? hr
  split_ifs with hcond
  · obtain ⟨hmem, -⟩ := hcond
    obtain ⟨r₀, hr₀, hid⟩ := List.mem_map.mp hmem
    rw [List.mem_insertionSort, Table.mem_select] at hr₀
    have heq : s.board.subtask id = some r₀ := hid ▸ Table.get?_key hr₀.1
    obtain rfl : r = r₀ := Option.some.inj (hr.symm.trans heq)
    exact .inr ⟨stranded_iff.mp hr₀.2, rfl⟩
  · refine .inl ⟨rfl, fun hstranded => hcond ⟨List.mem_map.mpr ⟨r, ?_, hkey⟩, hstranded.2.1⟩⟩
    rw [List.mem_insertionSort, Table.mem_select]
    exact ⟨Table.mem_of_get? hr, stranded_iff.mpr hstranded⟩

/-- Repairs are created for work that awaits one; nothing else on the board changes. -/
structure Mends (s s' : Db) : Prop where
  review : s'.board.review = s.board.review
  subtask : ∀ id, Change Eq (fun r => r.state = .available ∧ r.kind = .work ∧
    ∃ id₀ r₀, s.board.subtask id₀ = some r₀ ∧ r₀.awaitsRepair ∧ r₀.Bequeaths r)
    (s.board.subtask id) (s'.board.subtask id)
  followup : ∀ k, Change Eq (fun f => ∃ r, s'.board.subtask f.followupSubtaskId = some r ∧
    r.state = .available) (s.board.followup k) (s'.board.followup k)

theorem Mends.refl (s : Db) : Mends s s :=
  ⟨rfl, fun _ => Change.same (fun _ => rfl) _, fun _ => Change.same (fun _ => rfl) _⟩

/-- Work that awaits its repair was not created just now. -/
theorem Mends.awaiting (h : Mends s s') {id : SubtaskId} {r : SubtaskRow}
    (hr : s'.board.subtask id = some r) (hawaits : r.awaitsRepair) : s.board.subtask id = some r := by
  rcases (h.subtask id).of_some' hr with ⟨_, hr₀, rfl⟩ | ⟨-, hstate, -⟩
  · exact hr₀
  · have := hawaits.2
    simp [hstate] at this

theorem Mends.trans {s₁ : Db} (h : Mends s s₁) (h' : Mends s₁ s') : Mends s s' where
  review := h'.review.trans h.review
  subtask id := by
    have hnew := h.subtask id
    have hnew' := h'.subtask id
    cases hr' : s'.board.subtask id with
    | none =>
      rw [hr'] at hnew'
      cases hr₁ : s₁.board.subtask id with
      | none =>
        rw [hr₁] at hnew
        exact hnew.mono (fun _ _ h => h) fun _ h => h
      | some r₁ =>
        rw [hr₁] at hnew'
        exact hnew'.elim
    | some r' =>
      rcases hnew'.of_some' hr' with ⟨_, hr₁, rfl⟩ | ⟨hr₁, hstate, hkind, id₀, r₀, hr₀, hawaits, hsame⟩
      · rw [hr₁] at hnew
        exact hnew
      · cases hr : s.board.subtask id with
        | none => exact ⟨hstate, hkind, id₀, r₀, h.awaiting hr₀ hawaits, hawaits, hsame⟩
        | some r =>
          obtain ⟨_, hr₁', -⟩ := hnew.of_some hr
          rw [hr₁] at hr₁'
          cases hr₁'
  followup k := by
    have hnew := h.followup k
    have hnew' := h'.followup k
    cases hf' : s'.board.followup k with
    | none =>
      cases hf : s.board.followup k with
      | none => trivial
      | some f =>
        obtain ⟨f₁, hf₁, -⟩ := hnew.of_some hf
        obtain ⟨f₂, hf₂, -⟩ := hnew'.of_some hf₁
        rw [hf'] at hf₂
        cases hf₂
    | some f' =>
      rcases hnew'.of_some' hf' with ⟨_, hf₁, rfl⟩ | ⟨hf₁, havailable⟩
      · rcases hnew.of_some' hf₁ with ⟨_, hf, rfl⟩ | ⟨hf, r, hr, hstate⟩
        · rw [hf]
          rfl
        · rw [hf]
          obtain ⟨_, hr', rfl⟩ := (h'.subtask _).of_some hr
          exact ⟨r, hr', hstate⟩
      · cases hf : s.board.followup k with
        | none => exact havailable
        | some f =>
          obtain ⟨_, hf₁', -⟩ := hnew.of_some hf
          rw [hf₁] at hf₁'
          cases hf₁'

/-- A new subtask and the record that names it. -/
theorem insertRepair_board {t : SubtaskRow} {f : ReviewFollowupRow} {s₁ s₂ : Db} {u' : Unit}
    (hsame : SameBoard s s₁) (hins : insertSubtask t s₁ = (.ok u, s₂))
    (hfollow : insertInto Rel.reviewFollowups f s₂ = (.ok u', s')) :
    s.board.subtask t.subtaskId = none ∧ s.board.followup f.reviewId = none ∧
      ∃ fence, s'.board = { s.board with
        subtask := put s.board.subtask t.subtaskId t
        fence := fence
        followup := put s.board.followup f.reviewId f } := by
  have hb₁ : s₁.board = s.board := hsame
  obtain ⟨habsent, -, hb₂⟩ := insertSubtask_board hins
  obtain ⟨hnew, hb₃⟩ := insertFollowup_board hfollow
  rw [hb₂, hb₁] at hnew hb₃
  rw [hb₁] at habsent
  exact ⟨habsent, hnew, _, hb₃⟩

/-- The new subtask and its record. -/
theorem createReviewFollowupSubtask_board {source : SubtaskRow} {digest : ArtifactDigest}
    {findings : FindingsDigest} {reviewId : ReviewId} {id : SubtaskId}
    (h : createReviewFollowupSubtask source digest findings k reviewId now s = (.ok id, s')) :
    s.board.subtask id = none ∧ s.board.followup reviewId = none ∧
      ∃ t f fence, t.state = .available ∧ t.kind = .work ∧ source.Bequeaths t ∧
        f.followupSubtaskId = id ∧ s'.board = { s.board with
          subtask := put s.board.subtask id t
          fence := fence
          followup := put s.board.followup reviewId f } := by
  simp only [createReviewFollowupSubtask, Tx.bind_ok, lookup_ok, Tx.lift_ok, Tx.pure_ok, and_assoc,
    exists_and_left, exists_eq_left', Tx.exists_unit] at h
  obtain ⟨_, s₁, hid, title, -, s₂, hins, s₃, hfollow, rfl, rfl⟩ := h
  obtain ⟨habsent, hnew, fence, hb⟩ := insertRepair_board (freshId_sameBoard hid) hins hfollow
  refine ⟨habsent, hnew, _, _, fence, ?_, ?_, ?_, ?_, hb⟩
  · rfl
  · rfl
  · exact ⟨rfl, rfl, rfl, rfl⟩
  · rfl

theorem createReviewFollowupSubtask_mends {source : SubtaskRow} {digest : ArtifactDigest}
    {findings : FindingsDigest} {reviewId : ReviewId} {id id₀ : SubtaskId}
    (hsource : s.board.subtask id₀ = some source) (hawaits : source.awaitsRepair)
    (h : createReviewFollowupSubtask source digest findings k reviewId now s = (.ok id, s')) :
    Mends s s' ∧ (s'.board.followup reviewId).isSome := by
  obtain ⟨habsent, hnew, t, f, fence, hstate, hkind, hsame, hid, hb⟩ :=
    createReviewFollowupSubtask_board h
  constructor
  · refine ⟨by rw [hb], fun x => ?_, fun x => ?_⟩
    · rw [hb]
      refine Change.of_put (fun _ => rfl) fun _ => ?_
      rw [habsent]
      exact ⟨hstate, hkind, id₀, source, hsource, hawaits, hsame⟩
    · rw [hb]
      refine Change.of_put (fun _ => rfl) fun _ => ?_
      rw [hnew]
      exact ⟨t, by rw [hid]; exact put_self, hstate⟩
  · rw [hb]
    exact Option.isSome_iff_exists.mpr ⟨f, put_self⟩

theorem createFollowups_mends {rows : List ReviewRow}
    (hrows : ∀ row ∈ rows, s.board.review row.reviewId = some row ∧
      ∃ r, s.board.subtask row.subtaskId = some r ∧ r.awaitsRepair)
    (h : Tx.mapEach rows (fun row => do
      let review ← loadReview row.reviewId
      let source ← loadSubtask review.subtaskId
      match review.findingsDigest with
      | none =>
        Tx.fail (.illegalTransition (.review review.state) (.subtask .available) .subtask)
      | some findingsDigest =>
        createReviewFollowupSubtask source review.artifactDigest findingsDigest k
          review.reviewId now) s = (.ok ids, s')) :
    Mends s s' ∧ ∀ row ∈ rows, (s'.board.followup row.reviewId).isSome := by
  induction rows generalizing s ids with
  | nil =>
    obtain ⟨-, rfl⟩ := Tx.mapEach_nil.mp h
    exact ⟨.refl s, fun _ hrow => nomatch hrow⟩
  | cons row rows ih =>
    obtain ⟨id, s₁, hcreate, rest, hrest, -⟩ := Tx.mapEach_cons_ok.mp h
    simp only [Tx.bind_ok, loadReview_ok, loadSubtask_ok, and_assoc, exists_and_left,
      exists_eq_left'] at hcreate
    obtain ⟨review, hreview, -, source, hsource, -, hcreate⟩ := hcreate
    obtain ⟨hrow, r, hr, hawaits⟩ := hrows row List.mem_cons_self
    obtain rfl : row = review := Option.some.inj (hrow.symm.trans hreview)
    obtain rfl : source = r := Option.some.inj (hsource.symm.trans hr)
    cases hfindings : row.findingsDigest with
    | none => simp [hfindings] at hcreate
    | some findings =>
      simp only [hfindings] at hcreate
      obtain ⟨hmends, hsome⟩ := createReviewFollowupSubtask_mends hr hawaits hcreate
      have hrows' : ∀ row ∈ rows, s₁.board.review row.reviewId = some row ∧
          ∃ r, s₁.board.subtask row.subtaskId = some r ∧ r.awaitsRepair := by
        intro row' hmem
        obtain ⟨hrow', r', hr', hawaits'⟩ := hrows row' (List.mem_cons_of_mem _ hmem)
        obtain ⟨r', hr₁, rfl⟩ := (hmends.subtask _).of_some hr'
        exact ⟨by rw [hmends.review]; exact hrow', r', hr₁, hawaits'⟩
      obtain ⟨hmends', hall⟩ := ih hrows' hrest
      refine ⟨hmends.trans hmends', fun row' hmem => ?_⟩
      rcases List.mem_cons.mp hmem with rfl | hmem
      · obtain ⟨f, hf⟩ := Option.isSome_iff_exists.mp hsome
        obtain ⟨f', hf', -⟩ := (hmends'.followup _).of_some hf
        exact Option.isSome_iff_exists.mpr ⟨f', hf'⟩
      · exact hall row' hmem

/-- Reconciliation: the stranded follow-ups come back, then the missing ones are created. -/
theorem followupBlocks_run (h : ensureChangesRequestedFollowupBlocks k now s = (.ok ids, s')) :
    ∃ s₁, (s₁.board.review = s.board.review ∧ s₁.board.followup = s.board.followup ∧
        ∀ id, Option.Rel (s.board.Revival now) (s.board.subtask id) (s₁.board.subtask id)) ∧
      Mends s₁ s' ∧
      ∀ {k v r}, s₁.board.review k = some v → v.isFailed → s₁.board.subtask v.subtaskId = some r →
        r.awaitsRepair → (s'.board.followup k).isSome := by
  simp only [ensureChangesRequestedFollowupBlocks, Tx.bind_ok, Tx.get_ok, Tx.pure_ok, and_assoc,
    exists_and_left, exists_eq_left'] at h
  obtain ⟨revived, s₁, hrevive, created, s₂, hcreate, -, rfl⟩ := h
  obtain ⟨hmends, hall⟩ := createFollowups_mends (s := s₁) (by
    intro row hrow
    rw [List.mem_insertionSort, Table.mem_select] at hrow
    obtain ⟨hmem, hfailed, hsource, -⟩ := hrow
    exact ⟨Table.get?_key hmem, (awaited_iff.mp ⟨hfailed, hsource⟩).2⟩) hcreate
  refine ⟨s₁, reviveAbandonedReviewFollowups_run hrevive, hmends, ?_⟩
  intro k v r hv hfailed hr hawaits
  have hkey : v.reviewId = k := Table.key_of_get? hv
  cases hf : s₁.board.followup k with
  | some f =>
    obtain ⟨f', hf', -⟩ := (hmends.followup k).of_some hf
    exact Option.isSome_iff_exists.mpr ⟨f', hf'⟩
  | none =>
    rw [← hkey]
    refine hall v ?_
    rw [List.mem_insertionSort, Table.mem_select]
    have hawaited := awaited_iff.mpr ⟨hfailed, r, hr, hawaits⟩
    exact ⟨Table.mem_of_get? hv, hawaited.1, hawaited.2, hkey ▸ hf⟩

/-- Work that awaits its repair is not one of the follow-ups that came back. -/
theorem awaiting_of_revival {s₁ : Db}
    (h : ∀ id, Option.Rel (s.board.Revival now) (s.board.subtask id) (s₁.board.subtask id))
    {id : SubtaskId} {r : SubtaskRow} (hr : s₁.board.subtask id = some r) (hawaits : r.awaitsRepair) :
    s.board.subtask id = some r := by
  obtain ⟨r₀, hr₀, ⟨rfl, -⟩ | ⟨-, rfl⟩⟩ := rel_of_some' (h id) hr
  · exact hr₀
  · have := hawaits.2
    simp at this

/-- Reconciliation leaves nothing to reconcile. -/
theorem followupBlocks_reconciles
    (h : ensureChangesRequestedFollowupBlocks k now s = (.ok ids, s')) : s'.board.Reconciled := by
  obtain ⟨s₁, ⟨hreview, hfollowup, hrevival⟩, hmends, hcreated⟩ := followupBlocks_run h
  refine ⟨fun {id r} hr hstranded => ?_, fun {k v r} hv hfailed hr hawaits => ?_⟩
  · obtain ⟨hkind, hrevivable, k, f, v, source, hf, hid, hv, hfailed, hsource, hawaits⟩ := hstranded
    have hkey : r.subtaskId = id := Table.key_of_get? hr
    rw [hmends.review, hreview] at hv
    have hsource := awaiting_of_revival hrevival (hmends.awaiting hsource hawaits) hawaits
    rcases (hmends.subtask id).of_some' hr with ⟨r, hr₁, rfl⟩ | ⟨-, hstate, -⟩
    · rcases (hmends.followup k).of_some' hf with ⟨f, hf₁, rfl⟩ | ⟨-, r', hr', hstate'⟩
      · -- The record is an old one, so the follow-up was stranded and came back.
        rw [hfollowup] at hf₁
        obtain ⟨r₀, hr₀, ⟨rfl, hnot⟩ | ⟨-, rfl⟩⟩ := rel_of_some' (hrevival id) hr₁
        · exact hnot ⟨hkind, hrevivable, k, f, v, source, hf₁, hid, hv, hfailed, hsource, hawaits⟩
        · cases hrevivable.1
      · rw [hid, hkey, hr] at hr'
        obtain rfl : r = r' := Option.some.inj hr'
        rw [hrevivable.1] at hstate'
        cases hstate'
    · rw [hrevivable.1] at hstate
      cases hstate
  · rw [hmends.review] at hv
    exact hcreated hv hfailed (hmends.awaiting hr hawaits) hawaits

/-- A reconciled store is left as it is. -/
theorem followupBlocks_idle (hs : s.board.Reconciled) :
    ensureChangesRequestedFollowupBlocks k now s = (.ok [], s) := by
  have hrevived : s.subtasks.select (fun r => r.kind = .work ∧ r.isRevivable ∧
      ∃ f ∈ s.reviewFollowups.rows, f.followupSubtaskId = r.subtaskId ∧
        (s.reviews.get? f.reviewId).any (fun review => review.isFailed ∧
          (s.subtasks.get? review.subtaskId).any (fun source => source.awaitsRepair) = true) = true) =
      [] := by
    refine List.eq_nil_iff_forall_not_mem.mpr fun r hr => ?_
    obtain ⟨hmem, hcond⟩ := Table.mem_select.mp hr
    exact hs.revived (Table.get?_key hmem) (stranded_iff.mp hcond)
  have hfailed : s.reviews.select (fun r => r.isFailed ∧
      (s.subtasks.get? r.subtaskId).any (fun source => source.awaitsRepair) = true ∧
      s.reviewFollowups.get? r.reviewId = none) = [] := by
    refine List.eq_nil_iff_forall_not_mem.mpr fun v hv => ?_
    obtain ⟨hmem, hfailed, hsource, hnone⟩ := Table.mem_select.mp hv
    obtain ⟨-, r, hr, hawaits⟩ := awaited_iff.mp ⟨hfailed, hsource⟩
    have hsome := hs.created (Table.get?_key hmem) hfailed hr hawaits
    rw [show s.board.followup (reviewSchema.key v) = none from hnone] at hsome
    cases hsome
  have hrevive : reviveAbandonedReviewFollowups now s = (.ok [], s) := by
    unfold reviveAbandonedReviewFollowups
    rw [Tx.bind_of_ok (Tx.get_ok.mpr ⟨rfl, rfl⟩)]
    simp only [hrevived]
    rfl
  unfold ensureChangesRequestedFollowupBlocks
  rw [Tx.bind_of_ok hrevive, Tx.bind_of_ok (Tx.get_ok.mpr ⟨rfl, rfl⟩)]
  simp only [hfailed]
  rfl

end Reconcile

/-! ## Runs -/

section Runs

variable {env : Env} {s : Db} {c : Call} {calls : List Call}

theorem Operation.verdict_mem_writes {op : Operation} (h : .verdict ∈ op.writes) :
    (∃ req, op = .decideReview req) ∨ ∃ req, op = .recordPermissiveLandingReceipt req := by
  cases op with
  | decideReview req => exact .inl ⟨req, rfl⟩
  | recordPermissiveLandingReceipt req => exact .inr ⟨req, rfl⟩
  | _ => simp [Operation.writes] at h

/-- A verdict, up to the judgement of the work and on from there. A failing one comes with its
    follow-up. -/
theorem Call.Commits.judges {req : DecideReviewReq} (hc : c.Commits env s)
    (hop : c.op = .decideReview req) (ha : Anchored s.board.toLeases) :
    (∃ s₁ : Db, Turn c.now s.rounds c.op s₁.rounds ∧ Moves {.declared} c.now s₁ (next env s c)) ∧
      (req.verdict ≠ .approve → ((next env s c).board.followup req.reviewId).isSome) := by
  obtain ⟨-, leaseNow, s₀, v, s₁, t, -, hs₀, hbody, hnext, -⟩ :=
    hc.leasedMutation (by rw [hop]; rfl) (by rw [hop]; rfl)
  simp only [Tx.bind_ok, requireRole_ok, Tx.lift_ok, requireReviewPolicy_ok,
    ensureSubtaskTransition_ok, Tx.pure_ok, and_assoc, exists_and_left, exists_eq_left',
    Tx.exists_unit] at hbody
  obtain ⟨session, hsession, -, -, hrole, -, -, -, ctx, s₀, hload, s₂, hclose, hpolicy, hallowed, s₃,
    hrelease, s₄, hset, decision, s₅, hdecision, s₆, hevent, s₇, hfollow, s₈, hrefresh, -, rfl⟩ := hbody
  obtain ⟨rfl, hctx, -, -⟩ := loadReviewContext_ok hload
  have hboard : s₀.board = s.board := by rw [hs₀]; rfl
  obtain ⟨hturn, -, hmoves⟩ := judgement_turn (hboard ▸ ha) hsession (List.mem_singleton.mp hrole)
    hctx hclose hpolicy hallowed hrelease hset hdecision hevent hfollow hrefresh
  rw [show s₀.rounds = s.rounds from congrArg Board.rounds hboard] at hturn
  rw [hnext, hop]
  refine ⟨⟨s₄, hturn, hmoves⟩, fun hverdict => ?_⟩
  obtain ⟨f, hf⟩ : ∃ f, s₅.board.followup req.reviewId = some f := by
    rw [recordDecision, if_neg hverdict] at hdecision
    simp only [Tx.bind_ok, Tx.pure_ok] at hdecision
    obtain ⟨id, _, hcreate, -, rfl⟩ := hdecision
    obtain ⟨-, -, _, f, _, -, -, -, -, hb⟩ := createReviewFollowupSubtask_board hcreate
    exact ⟨f, by rw [hb]; exact put_self⟩
  have hrest : Moves {.declared} c.now s₅ s₈ :=
    ((appendSessionEvent_sameBoard hevent).moves.trans
      (followApproval_moves (L := {.declared}) rfl hfollow)).trans
      (refreshMetaTaskState_sameBoard hrefresh).moves
  exact Option.isSome_iff_exists.mpr ⟨f, hrest.evolves.followup hf⟩

/-- A review that has failed after a call had failed before, or the call fails it: the work was
    under review and is dead afterwards. -/
theorem next_failed (hc : c.Fresh s) (ha : Anchored s.board.toLeases) {k : ReviewId} {v : ReviewRow}
    (hv : (next env s c).board.review k = some v) (hf : v.isFailed) :
    s.board.review k = some v ∨ c.Commits env s ∧ c.op.Fails k ∧
      (∃ r, s.board.subtask v.subtaskId = some r ∧ r.state = .reviewPending) ∧
      ∃ r', (next env s c).board.subtask v.subtaskId = some r' ∧ r'.Dead := by
  by_cases hcommits : c.Commits env s
  swap
  · rw [(next_of_idle hcommits).board] at hv
    exact .inl hv
  by_cases hw : .verdict ∈ c.op.writes
  swap
  · refine .inl ((next_moves hc ha).failed_from ?_ hv hf)
    rintro (((h | ⟨h, -⟩) | ⟨h, -⟩) | ⟨h, -⟩)
    · exact hw h
    all_goals cases h
  rcases Operation.verdict_mem_writes hw with ⟨req, hop⟩ | ⟨req, hop⟩
  · obtain ⟨⟨s₁, hturn, hmoves⟩, -⟩ := hcommits.judges hop ha
    have hv₁ : s₁.rounds.review k = some v := hmoves.failed_from (by simp) hv hf
    rcases hturn.failed_from (.inl ⟨req, hop⟩) hv₁ hf with hold | ⟨hfails, r, r', hr, hpending, hr', hdead⟩
    · exact .inl hold
    · exact .inr ⟨hcommits, hfails, ⟨r, hr, hpending⟩, hmoves.dead ⟨r', hr', hdead⟩⟩
  · obtain ⟨value, s₀, rfl, hrun⟩ := hcommits.1.run
    rw [hop] at hrun
    refine .inl ?_
    rcases recordPermissiveLandingReceipt_turn hrun with hsame | hturn
    · exact (congrFun (congrArg Rounds.review hsame) k).symm.trans hv
    · refine (hturn.failed_from (.inr ⟨req, rfl⟩) hv hf).resolve_right ?_
      rintro ⟨⟨_, hcase, -⟩, -⟩
      cases hcase

/-- The invariants of the repairs, at the end of every call. -/
structure Db.Repaired (s : Db) : Prop where
  anchored : Anchored s.board.toLeases
  mended : s.board.Mended
  dead : ∀ {k v}, s.board.review k = some v → v.isFailed →
    ∃ r, s.board.subtask v.subtaskId = some r ∧ r.Dead
  single : ∀ {k k' v v'}, s.board.review k = some v → v.isFailed → s.board.review k' = some v' →
    v'.isFailed → v.subtaskId = v'.subtaskId → k = k'
  recorded : ∀ {k v}, s.board.review k = some v → v.isFailed → (s.board.followup k).isSome

/-- Dead work is not under review. -/
theorem Db.Repaired.judged_once (h : s.Repaired) {k : ReviewId} {v : ReviewRow} {r : SubtaskRow}
    (hv : s.board.review k = some v) (hf : v.isFailed) (hr : s.board.subtask v.subtaskId = some r) :
    r.state ≠ .reviewPending := by
  intro hpending
  obtain ⟨r', hr', -, -, hstate⟩ := h.dead hv hf
  obtain rfl : r = r' := Option.some.inj (hr.symm.trans hr')
  simp [hpending] at hstate

theorem next_repaired (hc : c.Fresh s) (h : s.Repaired) : (next env s c).Repaired where
  anchored := next_anchored hc h.anchored
  mended := hc.invariant h.anchored (fun m hb => hb.move m) h.mended
  dead hv hf := by
    rcases next_failed hc h.anchored hv hf with hold | ⟨-, -, -, hdead⟩
    · exact (next_moves hc h.anchored).dead (h.dead hold hf)
    · exact hdead
  single hv hf hv' hf' heq := by
    rcases next_failed hc h.anchored hv hf with hold | ⟨-, hfails, ⟨r, hr, hpending⟩, -⟩ <;>
      rcases next_failed hc h.anchored hv' hf' with hold' | ⟨-, hfails', ⟨r', hr', hpending'⟩, -⟩
    · exact h.single hold hf hold' hf' heq
    · exact absurd hpending' (h.judged_once hold hf (heq ▸ hr'))
    · exact absurd hpending (h.judged_once hold' hf' (heq ▸ hr))
    · obtain ⟨req, hop, rfl, -⟩ := hfails
      obtain ⟨req', hop', rfl, -⟩ := hfails'
      rw [hop] at hop'
      cases hop'
      rfl
  recorded hv hf := by
    rcases next_failed hc h.anchored hv hf with hold | ⟨hcommits, ⟨req, hop, rfl, hverdict⟩, -⟩
    · obtain ⟨f, hfollow⟩ := Option.isSome_iff_exists.mp (h.recorded hold hf)
      have hevolves : s.board.Evolves (next env s c).board := (next_moves hc h.anchored).evolves
      exact Option.isSome_iff_exists.mpr ⟨f, hevolves.followup hfollow⟩
    · exact (hcommits.judges hop h.anchored).2 hverdict

theorem init_repaired : Db.init.Repaired where
  anchored := init_anchored
  mended :=
    { reviewed := (nomatch ·)
      linked := (nomatch ·)
      alone := (nomatch ·)
      grounded := ⟨fun _ => ⟨_, fun _ ⟨_, _, hf, _⟩ => nomatch hf⟩⟩ }
  dead := (nomatch ·)
  single := (nomatch ·)
  recorded := (nomatch ·)

theorem reach_repaired (hrun : Run.Along (next env) Call.Fresh Db.init calls) :
    (reach env calls).Repaired :=
  Run.invariant (I := Db.Repaired) (fun _ _ => next_repaired) hrun init_repaired

/-- A reconciliation that commits leaves a reconciled store. -/
theorem Call.Commits.reconciles {req : ReconcileChangesRequestedFollowupsReq}
    (hc : c.Commits env s) (hop : c.op = .reconcileChangesRequestedFollowups req) :
    (next env s c).board.Reconciled := by
  obtain ⟨-, s₀, v, s₁, t, -, hbody, hnext, -⟩ :=
    hc.mutation (by rw [hop]; rfl) (by rw [hop]; rfl)
  simp only [Tx.bind_ok, requireRole_ok, Tx.pure_ok, and_assoc, exists_and_left,
    exists_eq_left'] at hbody
  obtain ⟨_, -, -, -, -, ids, s₁, hblocks, -, rfl⟩ := hbody
  have hs₁ : s₁.board.Reconciled := followupBlocks_reconciles hblocks
  rw [hnext]
  exact hs₁

/-- A reconciliation of a reconciled store reports nothing and changes nothing. -/
theorem Call.Commits.reconciled {req : ReconcileChangesRequestedFollowupsReq}
    (hc : c.Commits env s) (hop : c.op = .reconcileChangesRequestedFollowups req)
    (hs : s.board.Reconciled) :
    (step env s c).1 = .ok (.followups []) ∧ (next env s c).board = s.board := by
  obtain ⟨-, s₀, v, s₁, t, rfl, hbody, hnext, hresult⟩ :=
    hc.mutation (by rw [hop]; rfl) (by rw [hop]; rfl)
  simp only [Tx.bind_ok, requireRole_ok, Tx.pure_ok, and_assoc, exists_and_left,
    exists_eq_left'] at hbody
  obtain ⟨_, -, -, -, -, ids, _, hblocks, rfl, rfl⟩ := hbody
  rw [followupBlocks_idle (s := { s with uuids := c.uuids }) hs] at hblocks
  obtain ⟨hids, rfl⟩ := Prod.mk.inj hblocks
  obtain rfl : [] = ids := Except.ok.inj hids
  exact ⟨hresult, by rw [hnext]; rfl⟩

/-- Every failed review has its one follow-up, work of the same meta-task, policy, lane and priority;
    no subtask is repaired twice or repairs two; the way back to the first of them ends; and a
    reconciliation after a reconciliation does nothing. -/
theorem followups_kept (hrun : Run.Along (next env) Call.Fresh Db.init calls) :
    (∀ v ∈ (reach env calls).reviews.rows, v.isFailed →
      ∃! f, f ∈ (reach env calls).reviewFollowups.rows ∧ f.reviewId = v.reviewId) ∧
    (∀ f ∈ (reach env calls).reviewFollowups.rows, ∃ v r r',
      (reach env calls).reviews.get? f.reviewId = some v ∧ v.isFailed ∧
      (reach env calls).subtasks.get? f.sourceSubtaskId = some r ∧
      (reach env calls).subtasks.get? f.followupSubtaskId = some r' ∧
      v.subtaskId = f.sourceSubtaskId ∧ r'.kind = .work ∧ r.Bequeaths r') ∧
    (∀ f ∈ (reach env calls).reviewFollowups.rows, ∀ f' ∈ (reach env calls).reviewFollowups.rows,
      f.sourceSubtaskId = f'.sourceSubtaskId ∨ f.followupSubtaskId = f'.followupSubtaskId → f = f') ∧
    WellFounded (Repairs (reach env calls).board) ∧
    ∀ c c' req req', c.op = .reconcileChangesRequestedFollowups req →
      c'.op = .reconcileChangesRequestedFollowups req' → c.Commits env (reach env calls) →
      c'.Commits env (reach env (calls ++ [c])) →
      (step env (reach env (calls ++ [c])) c').1 = .ok (.followups []) ∧
        (reach env (calls ++ [c, c'])).board = (reach env (calls ++ [c])).board := by
  obtain ⟨-, hmended, -, hsingle, hrecorded⟩ := reach_repaired hrun
  refine ⟨fun v hv hf => ?_, fun f hf => ?_, fun f hf f' hf' heq => ?_, hmended.grounded,
    fun c c' req req' hop hop' hc hc' => ?_⟩
  · obtain ⟨f, hfollow⟩ := Option.isSome_iff_exists.mp (hrecorded (Table.get?_key hv) hf)
    refine ⟨f, ⟨Table.mem_of_get? hfollow, Table.key_of_get? hfollow⟩, fun f' hf' => ?_⟩
    have hfollow' : (reach env calls).board.followup v.reviewId = some f' :=
      hf'.2 ▸ Table.get?_key hf'.1
    exact Option.some.inj (hfollow'.symm.trans hfollow)
  · obtain ⟨v, r, r', hv, hfailed, hid, hr, hr', hkind, hsame⟩ :=
      hmended.linked (k := f.reviewId) (Table.get?_key hf)
    exact ⟨v, r, r', hv, hfailed, hr, hr', hid, hkind, hsame⟩
  · have hkey : f.reviewId = f'.reviewId := by
      rcases heq with hsource | hfollow
      · obtain ⟨v, -, -, hv, hfailed, hid, -⟩ := hmended.linked (Table.get?_key hf)
        obtain ⟨v', -, -, hv', hfailed', hid', -⟩ := hmended.linked (Table.get?_key hf')
        exact hsingle hv hfailed hv' hfailed' (by rw [hid, hid', hsource])
      · exact hmended.alone (Table.get?_key hf) (Table.get?_key hf') hfollow
    exact Table.eq_of_key_eq _ hf hf' hkey
  · have hs : (reach env (calls ++ [c])).board.Reconciled := by
      rw [reach_concat]
      exact hc.reconciles hop
    have hsplit : reach env (calls ++ [c, c']) = next env (reach env (calls ++ [c])) c' := by
      rw [← reach_concat, List.append_assoc]
      rfl
    rw [hsplit]
    exact hc'.reconciled hop' hs

end Runs

section Scripts

open Script

/-- A review is decided with changes requested. -/
def changesAsked : List Call :=
  calls (underReview .canonicalApply ++
    [(9, judge (session 2) (review 8) (claim 9) (fence 0) .changesRequested)])

theorem changesAsked_run : Run.Along (next env) Call.Fresh Db.init changesAsked ∧
    (reach env changesAsked).reviews.rows.any (fun v => decide v.isFailed) = true := by
  decide +kernel

theorem followups_kept_changesAsked :
    Run.Along (next env) Call.Fresh Db.init changesAsked ∧
      ∃ v ∈ (reach env changesAsked).reviews.rows, v.isFailed ∧
        ∃! f, f ∈ (reach env changesAsked).reviewFollowups.rows ∧ f.reviewId = v.reviewId := by
  obtain ⟨hrun, hany⟩ := changesAsked_run
  obtain ⟨v, hv, hf⟩ := List.any_eq_true.mp hany
  have hf := of_decide_eq_true hf
  exact ⟨hrun, v, hv, hf, (followups_kept hrun).1 v hv hf⟩

end Scripts

end Covey

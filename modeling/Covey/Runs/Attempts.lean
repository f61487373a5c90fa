import Covey.Footprint.Calls
import Covey.Runs.Claims

/-!
# Attempts at direct work

Direct work ends by an attempt outcome that its executor records under its claim
(`record_direct_outcome_tx`, completion.rs:137-247).

* `Attempted.move`: no other move completes or fails direct work, or takes such an end
  back.
* `outcomes_kept`: direct work is completed or failed exactly if the last outcome on
  record says so, and every outcome closes the live claim it was recorded under.
-/

namespace Covey

open Relational

variable {now : ℤ} {w : Write} {b b' : Board} {id : SubtaskId} {r r' : SubtaskRow}
  {outcomes : List AttemptOutcomeRow}

/-! ## What other moves leave alone -/

/-- The work is completed or failed. -/
def SubtaskState.isEnded (x : SubtaskState) : Prop := x = .completed ∨ x = .failed

theorem SubtaskKind.allows_not_ended {kind : SubtaskKind} {x y : SubtaskState}
    (h : kind.allows x y = true) : ¬x.isEnded := by
  cases kind <;> cases x <;> cases y <;> simp [SubtaskKind.allows, SubtaskState.isEnded] at h ⊢

/-- Direct work that has ended stays so, without a claim; other direct work does not end. -/
def SubtaskRow.KeepsEnd (r r' : SubtaskRow) : Prop :=
  r.state.isEnded ∧ r'.state = r.state ∧ r'.currentClaimId = none ∨
    ¬r.state.isEnded ∧ ¬r'.state.isEnded

theorem SubtaskRow.cancelled_keepsEnd (hfree : r.state.isEnded → r.currentClaimId = none) :
    r.KeepsEnd (r.cancelled now) := by
  by_cases hend : r.state.isEnded
  · refine .inl ⟨hend, ?_, rfl⟩
    rcases hend with h | h <;> simp [SubtaskRow.cancelled, SubtaskState.isTerminal, h]
  · refine .inr ⟨hend, ?_⟩
    unfold SubtaskRow.cancelled
    split_ifs
    · exact hend
    · simp [SubtaskState.isEnded]

theorem Edit.keepsEnd (h : Edit b now w r r') (hdirect : r.completionPolicy = .direct)
    (hfree : r.state.isEnded → r.currentClaimId = none) : r.KeepsEnd r' := by
  cases h with
  | @advance _ _ target _ _ allowed ready =>
    refine .inr ⟨SubtaskKind.allows_not_ended allowed, ?_⟩
    rintro (rfl | rfl) <;> exact ready
  | publish _ _ policy => exact absurd hdirect policy
  | complete _ _ policy =>
    rw [hdirect] at policy
    cases policy
  | retitle =>
    by_cases hend : r.state.isEnded
    · exact .inl ⟨hend, rfl, hfree hend⟩
    · exact .inr ⟨hend, hend⟩
  | revive _ revivable => exact .inr ⟨by simp [SubtaskState.isEnded, revivable.1],
      by simp [SubtaskState.isEnded]⟩
  | cancel => exact SubtaskRow.cancelled_keepsEnd hfree
  | reopen _ abandoned => exact .inr ⟨by simp [SubtaskState.isEnded, abandoned],
      by simp [SubtaskState.isEnded]⟩
  | strand _ allowed => exact .inr ⟨SubtaskKind.allows_not_ended allowed,
      by simp [SubtaskState.isEnded]⟩

theorem Detach.keepsEnd (h : Detach now w r r') (hw : w ≠ .attempt)
    (hdirect : r.completionPolicy = .direct)
    (hfree : r.state.isEnded → r.currentClaimId = none) : r.KeepsEnd r' := by
  cases h with
  | lapse =>
    by_cases hend : r.state.isEnded
    · refine .inl ⟨hend, ?_, rfl⟩
      rcases hend with h | h <;> simp [SubtaskRow.lapsed, h]
    · refine .inr ⟨hend, ?_⟩
      unfold SubtaskRow.lapsed
      split_ifs
      · simp [SubtaskState.isEnded]
      · exact hend
  | abandon going =>
    refine .inr ⟨fun hend => going ?_, by simp [SubtaskState.isEnded]⟩
    rcases hend with h | h <;> simp [SubtaskState.isTerminal, h]
  | cancel => exact SubtaskRow.cancelled_keepsEnd hfree
  | outcome => exact absurd rfl hw
  | decide _ allowed =>
    exact .inr ⟨SubtaskKind.allows_not_ended allowed, by simp [SubtaskState.isEnded]⟩
  | complete _ _ policy =>
    rw [hdirect] at policy
    cases policy

theorem RowStep.keepsEnd (h : RowStep b now id w r r') (hw : w ≠ .attempt)
    (hdirect : r.completionPolicy = .direct)
    (hfree : r.state.isEnded → r.currentClaimId = none) : r.KeepsEnd r' := by
  cases h with
  | same =>
    by_cases hend : r.state.isEnded
    · exact .inl ⟨hend, rfl, hfree hend⟩
    · exact .inr ⟨hend, hend⟩
  | edit h => exact h.keepsEnd hdirect hfree
  | detach _ h => exact h.keepsEnd hw hdirect hfree
  | claim _ allowed =>
    exact .inr ⟨SubtaskKind.allows_not_ended allowed, by simp [SubtaskState.isEnded]⟩
  | apply _ policy =>
    rw [hdirect] at policy
    cases policy
  | beginCleanup _ available => exact .inr ⟨by simp [SubtaskState.isEnded, available],
      by simp [SubtaskState.isEnded]⟩
  | endCleanup _ claimed left =>
    refine .inr ⟨fun hend => ?_, ?_⟩
    · rw [hfree hend] at claimed
      cases claimed
    · rcases left with rfl | rfl <;> simp [SubtaskState.isEnded]

/-! ## Outcomes and subtasks -/

/-- The outcomes are of direct work and carry the evidence it requires; direct work is completed
    or failed exactly if an outcome says so, and then has no claim. -/
structure Attempted (outcomes : List AttemptOutcomeRow) (b : Board) : Prop where
  direct : ∀ o ∈ outcomes, ∃ r, b.subtask o.subtaskId = some r ∧ r.completionPolicy = .direct ∧
    (r.evidencePolicy = .required → o.evidenceDigest.isSome)
  ended : ∀ {id r}, b.subtask id = some r → r.completionPolicy = .direct →
    (r.state = .completed ↔ ∃ o ∈ outcomes, o.subtaskId = id ∧ o.outcomeKind = .succeeded) ∧
    (r.state = .failed ↔ ∃ o ∈ outcomes, o.subtaskId = id ∧ o.outcomeKind = .terminalFailure)
  free : ∀ {id r}, b.subtask id = some r → r.completionPolicy = .direct → r.state.isEnded →
    r.currentClaimId = none

theorem SubtaskRow.KeepsEnd.completed (h : r.KeepsEnd r') :
    (r'.state = .completed ↔ r.state = .completed) ∧ (r'.state = .failed ↔ r.state = .failed) := by
  unfold SubtaskRow.KeepsEnd SubtaskState.isEnded at h
  rcases h with ⟨-, hstate, -⟩ | h
  · rw [hstate]
    exact ⟨Iff.rfl, Iff.rfl⟩
  · tauto

theorem Attempted.move (m : Move now w b b') (hw : w ≠ .attempt) (h : Attempted outcomes b) :
    Attempted outcomes b' where
  direct o ho := by
    obtain ⟨r, hr, hpolicy, hevidence⟩ := h.direct o ho
    obtain ⟨r', hr', hstep⟩ := (m.subtask _).of_some hr
    refine ⟨r', hr', hstep.sameWork.policy.trans hpolicy, fun hreq => hevidence ?_⟩
    exact hstep.sameWork.evidence.symm.trans hreq
  ended := by
    intro id r' hr' hdirect
    rcases (m.subtask id).of_some' hr' with ⟨r, hr, hstep⟩ | ⟨hnone, hnew⟩
    · have hpolicy := hstep.sameWork.policy.symm.trans hdirect
      have hkeeps := (hstep.keepsEnd hw hpolicy (h.free hr hpolicy)).completed
      rw [hkeeps.1, hkeeps.2]
      exact h.ended hr hpolicy
    · -- No outcome is of a subtask that was not there.
      have hnot : ∀ o ∈ outcomes, o.subtaskId ≠ id := by
        rintro o ho rfl
        obtain ⟨r, hr, -⟩ := h.direct o ho
        rw [hnone] at hr
        cases hr
      rw [hnew.fresh.state]
      refine ⟨⟨fun h => (nomatch h), ?_⟩, ⟨fun h => (nomatch h), ?_⟩⟩
      · rintro ⟨o, ho, hid, -⟩
        exact absurd hid (hnot o ho)
      · rintro ⟨o, ho, hid, -⟩
        exact absurd hid (hnot o ho)
  free := by
    intro id r' hr' hdirect hend
    rcases (m.subtask id).of_some' hr' with ⟨r, hr, hstep⟩ | ⟨-, hnew⟩
    · have hpolicy := hstep.sameWork.policy.symm.trans hdirect
      rcases hstep.keepsEnd hw hpolicy (h.free hr hpolicy) with ⟨-, -, hfree⟩ | ⟨-, hnot⟩
      · exact hfree
      · exact absurd hend hnot
    · exact hnew.fresh.claim

/-! ## Recording an outcome -/

section Runs

variable {env : Env} {s s' : Db} {c : Call} {calls : List Call} {leaseNow : ℤ} {v : Response}

/-- The outcome is recorded under a live claim of its session on direct work in progress, whose
    fence it carries; the claim is released and the work goes on to the state of the outcome. -/
structure OutcomeRecorded (s s' : Db) (leaseNow now : ℤ) (o : AttemptOutcomeRow) : Prop where
  claim : ∃ row, s.claims.get? o.claimId = some row ∧ row.subtaskId = o.subtaskId ∧
    row.fenceSeq = o.fenceSeq ∧ row.ownerSessionToken = o.recordedBySession ∧ row.state = .held ∧
    leaseNow < row.leaseDeadline ∧
    s'.claims.get? o.claimId = some { row with state := .released, updatedAt := now }
  subtask : ∃ r, s.subtasks.get? o.subtaskId = some r ∧ r.completionPolicy = .direct ∧
    r.state = .inProgress ∧ (r.evidencePolicy = .required → o.evidenceDigest.isSome) ∧
    s'.subtasks.get? = put s.subtasks.get? o.subtaskId
      { r with state := o.outcomeKind.nextState, currentClaimId := none, updatedAt := now }

theorem Touches.attemptOutcomes_eq {l : List TableName} (hl : .attemptOutcomes ∉ l)
    (h : Touches l s s') : s'.attemptOutcomes = s.attemptOutcomes := by
  have hrows := congrArg Db.attemptOutcomes h.rows
  simpa only [Db.rows, Db.without, if_neg hl] using hrows

theorem insertOutcome_rows {o : AttemptOutcomeRow} {u : Unit}
    (h : insertInto Rel.attemptOutcomes o s = (.ok u, s')) :
    s'.attemptOutcomes.rows = s.attemptOutcomes.rows ++ [o] := by
  obtain ⟨t, ht, rfl⟩ := insertInto_ok.mp h
  exact Table.insert_eq_some.mp ht

theorem recordDirectOutcome_run {eventType : EventType} {input : OutcomeInput}
    (h : recordDirectOutcome eventType input leaseNow now s = (.ok v, s')) :
    ∃ o, s'.attemptOutcomes.rows = s.attemptOutcomes.rows ++ [o] ∧
      OutcomeRecorded s s' leaseNow now o := by
  simp only [recordDirectOutcome, Tx.bind_ok, Tx.lift_ok, ensureMetaTaskIsSchedulable_ok,
    requireSessionCanClaimKind_ok, ensureSubtaskTransition_ok, Tx.ensure_ok, Tx.pure_ok, and_assoc,
    exists_and_left, exists_eq_left', Tx.exists_unit] at h
  obtain ⟨ctx, _, hload, -, -, hpolicy, hevidence, -, s₂, hins, s₃, hclose, s₄, hreserve, n, s₅,
    hupd, hn, s₆, hclear, s₇, hrefresh, s₈, hevent, -, rfl⟩ := h
  obtain ⟨rfl, hctx⟩ := loadClaimContext_ok hload
  have hb₂ : s₂.board = s.board := insertInto_sameBoard (fun _ _ => rfl) _ hins
  have hrows := insertOutcome_rows hins
  obtain ⟨row, hrow, -, hb₃⟩ := closeClaimAndDetach_board hclose
  rw [hb₂] at hrow hb₃
  rw [hctx.claimKey, hctx.claim] at hrow
  cases hrow
  have hb₄ : s₄.board = s₃.board := releaseActiveReservations_sameBoard hreserve
  obtain ⟨hfound, hb₅⟩ := updateSubtask_board hupd fun _ => rfl
  obtain ⟨r, hr, hstarted, hcur⟩ := hfound (by omega)
  rw [hb₄, hb₃, hctx.subtaskKey] at hr hb₅
  obtain rfl : ctx.subtask = r := Option.some.inj (hctx.subtask.symm.trans hr)
  have hb := clearSessionActiveSubtask_board hclear
  have hb₇ : s₇.board = s₆.board := refreshMetaTaskState_sameBoard hrefresh
  have hb₈ := appendSessionEvent_sameBoard hevent
  have hb₈ : s₈.board = { s.board with
      session := s₈.board.session
      subtask := put s.board.subtask ctx.claim.subtaskId
        { ctx.subtask with
          state := input.outcomeKind.nextState, currentClaimId := none, updatedAt := now }
      claim := put s.board.claim ctx.claim.claimId
        { ctx.claim with state := .released, updatedAt := now } } := by
    rw [hb₈, hb₇, hb, hb₅, modify_of_some hctx.subtask, if_pos ⟨hstarted, hcur⟩]
  -- The statements after the insertion leave the outcomes alone.
  have hupdate : Touches (outcomeTables.erase .attemptOutcomes) s₄ s₅ :=
    (updateSubtasks_touches (by decide) _ _ (by exact fun _ => rfl)).run hupd
  have hkeep : s₈.attemptOutcomes = s₂.attemptOutcomes :=
    Touches.attemptOutcomes_eq (by decide)
      (((closeClaimAndDetach_touches (by decide)).run hclose).trans <|
        ((releaseActiveReservations_touches (by decide)).run hreserve).trans <| hupdate.trans <|
        ((clearSessionActiveSubtask_touches (by decide)).run hclear).trans <|
        ((refreshMetaTaskState_touches (by decide)).run hrefresh).trans <|
        (appendSessionEvent_touches (by decide)).run hevent)
  have hclaim₈ : s₈.board.claim ctx.claim.claimId =
      some { ctx.claim with state := .released, updatedAt := now } := by
    rw [hb₈]
    exact put_self
  have hsub₈ : s₈.board.subtask = put s.board.subtask ctx.claim.subtaskId
      { ctx.subtask with
        state := input.outcomeKind.nextState, currentClaimId := none, updatedAt := now } := by
    rw [hb₈]
  rw [← hctx.subtaskKey] at hsub₈
  refine ⟨_, (congrArg Table.rows hkeep).trans hrows, ?_⟩
  refine ⟨⟨ctx.claim, ?_, hctx.subtaskKey.symm, rfl, hctx.owner, hctx.held, hctx.live, hclaim₈⟩,
    ctx.subtask, ?_, hpolicy, hstarted, fun hreq => ?_, hsub₈⟩
  · show s.claims.get? ctx.claim.claimId = some ctx.claim
    rw [hctx.claimKey]
    exact hctx.claim
  · show s.subtasks.get? ctx.subtask.subtaskId = some ctx.subtask
    rw [hctx.subtaskKey]
    exact hctx.subtask
  · exact hevidence.resolve_right (not_not.mpr hreq)

/-- The operations that record an outcome. -/
def Operation.Attempts : Operation → Prop
  | .finishSubtask _ | .retrySubtask _ | .failSubtask _ => True
  | _ => False

theorem Operation.attempts_of_mem {op : Operation} (h : .attempt ∈ op.writes) : op.Attempts := by
  cases op <;> simp [Operation.writes, Operation.Attempts] at h ⊢

theorem Operation.attemptOutcomes_untouched {op : Operation} (h : ¬op.Attempts) :
    .attemptOutcomes ∉ op.tables := by
  cases op
  case finishSubtask | retrySubtask | failSubtask => exact absurd trivial h
  all_goals exact of_decide_eq_false rfl

/-- An accepted outcome that is not a replay. -/
theorem Call.Commits.attempts (hcommits : c.Commits env s) (h : c.op.Attempts) :
    ∃ o, (next env s c).attemptOutcomes.rows = s.attemptOutcomes.rows ++ [o] ∧
      OutcomeRecorded s (next env s c) (max s.leaseClock (max c.now 0)) c.now o := by
  obtain ⟨hok, hrec⟩ := hcommits
  obtain ⟨v, s₀, hs₀, hrun⟩ := hok.run
  have hlift : ∀ {actor operation key request body} {eventType : EventType} {input : OutcomeInput},
      c.op.entry env = some ⟨actor, operation, key.val, request⟩ →
      body = recordDirectOutcome eventType input →
      Covey.leasedMutation actor operation key request c.now (body · c.now) s₀ =
        (.ok v, next env s c) →
      ∃ o, (next env s c).attemptOutcomes.rows = s.attemptOutcomes.rows ++ [o] ∧
        OutcomeRecorded s (next env s c) (max s.leaseClock (max c.now 0)) c.now o := by
    rintro actor operation key request body eventType input hentry rfl hrun
    obtain ⟨leaseNow, hlease, hrun⟩ := leasedMutation_ok.mp hrun
    obtain ⟨-, ⟨row, hrow, hreq, hresp, -⟩ | ⟨-, s₁, hbody, t, -, hs'⟩⟩ :=
      withIdempotentMutation_ok.mp (mutation_ok.mp hrun).2
    · exact absurd (Call.recorded_of hs₀ hentry ⟨row, hrow, hreq, hresp⟩) hrec
    · obtain ⟨o, hrows, hrecorded⟩ := recordDirectOutcome_run hbody
      rw [hs', ← show s₀.leaseClock = s.leaseClock by rw [hs₀], ← hlease]
      subst hs₀
      exact ⟨o, hrows, hrecorded.claim, hrecorded.subtask⟩
  cases hop : c.op <;> rw [hop] at h hrun <;> try exact absurd h id
  case finishSubtask req => exact hlift (by rw [hop]; rfl) rfl hrun
  case retrySubtask req => exact hlift (by rw [hop]; rfl) rfl hrun
  case failSubtask req => exact hlift (by rw [hop]; rfl) rfl hrun

/-! ## Runs -/

/-- A claim has one outcome at most; outcomes are of direct work and carry the evidence it requires;
    direct work is completed, or failed, exactly if an outcome says so; and after such an outcome
    no other is recorded for the work. -/
structure OutcomesSound (s : Db) : Prop where
  single : ∀ o ∈ s.attemptOutcomes.rows, ∀ o' ∈ s.attemptOutcomes.rows, o'.claimId = o.claimId →
    o' = o
  direct : ∀ o ∈ s.attemptOutcomes.rows, ∃ r, s.subtasks.get? o.subtaskId = some r ∧
    r.completionPolicy = .direct ∧ (r.evidencePolicy = .required → o.evidenceDigest.isSome)
  ended : ∀ {id r}, s.subtasks.get? id = some r → r.completionPolicy = .direct →
    (r.state = .completed ↔
      ∃ o ∈ s.attemptOutcomes.rows, o.subtaskId = id ∧ o.outcomeKind = .succeeded) ∧
    (r.state = .failed ↔
      ∃ o ∈ s.attemptOutcomes.rows, o.subtaskId = id ∧ o.outcomeKind = .terminalFailure)
  last : ∀ before o after, s.attemptOutcomes.rows = before ++ o :: after →
    o.outcomeKind ≠ .retryableFailure → ∀ o' ∈ after, o'.subtaskId ≠ o.subtaskId

/-- No outcome comes after one that ends the same work. -/
def EndsLast (outcomes : List AttemptOutcomeRow) : Prop :=
  outcomes.Pairwise fun o o' => o.outcomeKind ≠ .retryableFailure → o'.subtaskId ≠ o.subtaskId

/-- Recording an outcome brings the work to the state that the outcome names. -/
theorem Attempted.record {o : AttemptOutcomeRow} {leaseNow : ℤ}
    (h : Attempted outcomes s.board) (hlast : EndsLast outcomes)
    (hrec : OutcomeRecorded s s' leaseNow now o) :
    Attempted (outcomes ++ [o]) s'.board ∧ EndsLast (outcomes ++ [o]) := by
  obtain ⟨r, hr, hdirect, hstarted, hevidence, hput⟩ := hrec.subtask
  have hput : s'.board.subtask = put s.board.subtask o.subtaskId _ := hput
  -- The work is in progress, so none of its outcomes has ended it.
  have hopen : ∀ o' ∈ outcomes, o'.subtaskId = o.subtaskId → o'.outcomeKind = .retryableFailure := by
    intro o' ho' hid
    obtain ⟨hsucceeded, hfailed⟩ := h.ended hr hdirect
    rw [hstarted] at hsucceeded hfailed
    cases hkind : o'.outcomeKind with
    | retryableFailure => rfl
    | succeeded => cases hsucceeded.mpr ⟨o', ho', hid, hkind⟩
    | terminalFailure => cases hfailed.mpr ⟨o', ho', hid, hkind⟩
  refine ⟨⟨fun o' ho' => ?_, fun {id r'} hr' hdirect' => ?_, fun {id r'} hr' hdirect' hend => ?_⟩, ?_⟩
  · rw [hput]
    rcases List.mem_append.mp ho' with ho' | ho'
    · obtain ⟨r', hr', hrest⟩ := h.direct o' ho'
      by_cases hid : o'.subtaskId = o.subtaskId
      · rw [hid] at hr' ⊢
        obtain rfl : r = r' := Option.some.inj (hr.symm.trans hr')
        exact ⟨_, put_self, hrest⟩
      · exact ⟨r', (put_of_ne hid).trans hr', hrest⟩
    · rw [List.mem_singleton.mp ho']
      exact ⟨_, put_self, hdirect, hevidence⟩
  · rw [hput] at hr'
    simp only [List.mem_append, List.mem_singleton, or_and_right, exists_or, exists_eq_left]
    rcases put_eq_some.mp hr' with ⟨rfl, rfl⟩ | ⟨hne, hr'⟩
    · constructor
      · constructor
        · intro hstate
          refine .inr ⟨rfl, ?_⟩
          cases hkind : o.outcomeKind <;> simp [AttemptOutcomeKind.nextState, hkind] at hstate ⊢
        · rintro (⟨o', ho', hid, hkind⟩ | ⟨-, hkind⟩)
          · rw [hopen o' ho' hid] at hkind
            cases hkind
          · simp [AttemptOutcomeKind.nextState, hkind]
      · constructor
        · intro hstate
          refine .inr ⟨rfl, ?_⟩
          cases hkind : o.outcomeKind <;> simp [AttemptOutcomeKind.nextState, hkind] at hstate ⊢
        · rintro (⟨o', ho', hid, hkind⟩ | ⟨-, hkind⟩)
          · rw [hopen o' ho' hid] at hkind
            cases hkind
          · simp [AttemptOutcomeKind.nextState, hkind]
    · have hnot : o.subtaskId ≠ id := fun h => hne h.symm
      simp only [hnot, false_and, or_false]
      exact h.ended hr' hdirect'
  · rw [hput] at hr'
    rcases put_eq_some.mp hr' with ⟨-, rfl⟩ | ⟨-, hr'⟩
    · rfl
    · exact h.free hr' hdirect' hend
  · refine List.pairwise_append.mpr ⟨hlast, List.pairwise_singleton _ _, fun o' ho' o'' ho'' => ?_⟩
    rw [List.mem_singleton.mp ho'']
    exact fun hkind hid => hkind (hopen o' ho' hid.symm)

theorem Call.attempts_of_mem (h : .attempt ∈ c.writes env s) : c.op.Attempts := by
  simp only [Call.writes, Set.mem_union, Set.mem_setOf_eq, reduceCtorEq, false_and, or_false] at h
  exact Operation.attempts_of_mem h

/-- A call records one outcome, or leaves the outcomes alone and ends no direct work. -/
theorem next_outcomes (hc : c.Fresh s) (ha : Anchored s.board.toLeases) :
    (next env s c).attemptOutcomes = s.attemptOutcomes ∧
        (∀ {outcomes}, Attempted outcomes s.board → Attempted outcomes (next env s c).board) ∨
      ∃ o, (next env s c).attemptOutcomes.rows = s.attemptOutcomes.rows ++ [o] ∧
        OutcomeRecorded s (next env s c) (max s.leaseClock (max c.now 0)) c.now o := by
  by_cases hop : c.op.Attempts
  · by_cases hcommits : c.Commits env s
    · exact .inr (hcommits.attempts hop)
    · left
      by_cases hrec : c.Recorded env s
      · obtain ⟨clock, uuids, hsame⟩ : SameRows s (next env s c) := next_of_recorded hrec
        rw [hsame]
        exact ⟨rfl, id⟩
      · rw [next_of_failed fun hok => hcommits ⟨hok, hrec⟩]
        exact ⟨rfl, id⟩
  · refine .inl ⟨Touches.attemptOutcomes_eq (Operation.attemptOutcomes_untouched hop) next_touches,
      fun {outcomes} h => ?_⟩
    refine Steps.invariant (I := Attempted outcomes) (fun hw m h => h.move m ?_) (next_moves hc ha) h
    rintro rfl
    exact hop (Call.attempts_of_mem hw)

theorem reach_attempted (hrun : Run.Along (next env) Call.Fresh Db.init calls) :
    Attempted (reach env calls).attemptOutcomes.rows (reach env calls).board ∧
      EndsLast (reach env calls).attemptOutcomes.rows := by
  refine (Run.invariant (I := fun s : Db => Anchored s.board.toLeases ∧
      Attempted s.attemptOutcomes.rows s.board ∧ EndsLast s.attemptOutcomes.rows)
    (fun s c hc h => ⟨next_anchored hc h.1, ?_⟩) hrun ⟨init_anchored, ?_, ?_⟩).2
  · obtain ⟨ha, hatt, hlast⟩ := h
    rcases next_outcomes hc ha with ⟨hsame, hkeep⟩ | ⟨o, hrows, hrec⟩
    · rw [hsame]
      exact ⟨hkeep hatt, hlast⟩
    · rw [hrows]
      exact hatt.record hlast hrec
  · exact ⟨fun o ho => absurd ho List.not_mem_nil, fun h => (nomatch h), fun h => (nomatch h)⟩
  · exact List.Pairwise.nil

theorem reach_outcomesSound (hrun : Run.Along (next env) Call.Fresh Db.init calls) :
    OutcomesSound (reach env calls) := by
  obtain ⟨hatt, hlast⟩ := reach_attempted hrun
  refine ⟨fun o ho o' ho' hid => ?_, hatt.direct, hatt.ended, fun before o after hrows hkind => ?_⟩
  · exact (reach env calls).attemptOutcomes.eq_of_key_eq ho' ho hid
  · unfold EndsLast at hlast
    rw [hrows, List.pairwise_append, List.pairwise_cons] at hlast
    exact fun o' ho' => hlast.2.1.1 o' ho' hkind

/-- In every run the outcomes on record are sound, and each call either leaves them as they are or
    adds one, under a live claim on direct work in progress that it releases. -/
theorem outcomes_kept (hrun : Run.Along (next env) Call.Fresh Db.init calls) :
    OutcomesSound (reach env calls) ∧
      ∀ before c after, calls = before ++ c :: after →
        (reach env (before ++ [c])).attemptOutcomes = (reach env before).attemptOutcomes ∨
        ∃ o, (reach env (before ++ [c])).attemptOutcomes.rows =
            (reach env before).attemptOutcomes.rows ++ [o] ∧
          OutcomeRecorded (reach env before) (reach env (before ++ [c]))
            (max (reach env before).leaseClock (max c.now 0)) c.now o := by
  refine ⟨reach_outcomesSound hrun, ?_⟩
  rintro before c after rfl
  obtain ⟨hbefore, hc, -⟩ := Run.along_append.mp hrun
  rw [reach_concat]
  exact (next_outcomes hc (reach_fenced hbefore).1).imp And.left id

end Runs

open Script in
/-- An executor finishes direct work. -/
def finished : List Call :=
  calls [(0, register "orch" .orchestrator), (0, register "exec" .executor), (1, submit (session 0)),
    (2, create (session 0) (metaTask 2) "a" .direct), (3, take (session 1) "a"),
    (4, start (session 1) (claim 4) (fence 0)),
    (5, fun key => .finishSubtask
      ⟨session 1, claim 4, fence 0, some (text "sha256:evidence"), text "done", key⟩)]

theorem outcomes_kept_finished :
    Run.Along (next Script.env) Call.Fresh Db.init finished ∧
      OutcomesSound (reach Script.env finished) ∧
      (reach Script.env finished).attemptOutcomes.rows.length = 1 := by
  have hrun : Run.Along (next Script.env) Call.Fresh Db.init finished ∧
      (reach Script.env finished).attemptOutcomes.rows.length = 1 := by decide +kernel
  exact ⟨hrun.1, (outcomes_kept hrun.1).1, hrun.2⟩

end Covey

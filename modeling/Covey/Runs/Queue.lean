import Covey.Runs.Evidence

/-!
# The apply queue along runs

A queue row is claimed, let go and claimed again any number of times before it is
applied, superseded or cancelled.

* `ReadyQueueRow.Follows`: what can become of a row. Its fence does not decrease, a
  claim of it takes a larger one, and a settled row stays as it is.
* `Exhausted`: after its artifact was applied, a subtask does not get ready for apply
  again. This holds even of work under a reserved id, which a cleanup may take out of
  its applied state: the row it leaves behind does not load.
* `queue_kept`: what holds of the queue after every run, and what its last call can do.
-/

namespace Covey

open Relational

section Rows

variable {now : ℤ} {w : Write} {b b' : Board} {id : SubtaskId} {r r' : SubtaskRow}
  {q q' q'' : ReadyQueueRow}

/-! ## The life of a row -/

/-- The fence under which the row was claimed last; `0` before the first claim. -/
def ReadyQueueRow.fence (q : ReadyQueueRow) : ℕ := q.claimFenceSeq.getD 0

/-- What can become of a queue row. -/
structure ReadyQueueRow.Follows (q q' : ReadyQueueRow) : Prop where
  subtask : q'.subtaskId = q.subtaskId
  artifact : q'.artifactDigest = q.artifactDigest
  fence : q.fence ≤ q'.fence
  claimed : q'.state = .inFlight → q' = q ∨ q.fence < q'.fence
  settled : ¬q.isOpen → q' = q

namespace ReadyQueueRow.Follows

theorem refl (q : ReadyQueueRow) : q.Follows q :=
  ⟨rfl, rfl, le_refl _, fun _ => .inl rfl, fun _ => rfl⟩

theorem trans (h : q.Follows q') (h' : q'.Follows q'') : q.Follows q'' where
  subtask := h'.subtask.trans h.subtask
  artifact := h'.artifact.trans h.artifact
  fence := h.fence.trans h'.fence
  claimed hs := by
    rcases h'.claimed hs with rfl | hlt
    · exact h.claimed hs
    · exact .inr (h.fence.trans_lt hlt)
  settled hopen := by
    have hsame := h.settled hopen
    subst hsame
    exact h'.settled hopen

end ReadyQueueRow.Follows

theorem ReadyQueueRow.Evolves.follows (h : q.Evolves q') : q.Follows q' := by
  cases h with
  | same => exact .refl q
  | claim queued =>
    have hlt : q.fence < q.fence + 1 := Nat.lt_succ_self _
    exact ⟨rfl, rfl, hlt.le, fun _ => .inr hlt, fun hopen => absurd (.inl queued) hopen⟩
  | vacate going left =>
    refine ⟨rfl, rfl, le_refl _, fun hs => ?_, fun hopen => absurd going hopen⟩
    rcases left with rfl | rfl | rfl <;> cases hs

theorem Move.queue_follows (m : Move now w b b') {k : QueueId} (hq : b.queue k = some q) :
    ∃ q', b'.queue k = some q' ∧ q.Follows q' := by
  cases m with
  | lease => exact ⟨q, hq, .refl q⟩
  | ledger m =>
    cases m with
    | enqueue new => exact ⟨q, put_of_new new hq, .refl q⟩
    | queue evolved =>
      obtain ⟨q', hq', hstep⟩ := rel_of_some (evolved k) hq
      exact ⟨q', hq', hstep.follows⟩
    | _ => exact ⟨q, hq, .refl q⟩
  | @apply _ q₀ r n queued inFlight =>
    by_cases hk : k = q₀.queueId
    · subst hk
      obtain rfl : q₀ = q := Option.some.inj (queued.symm.trans hq)
      refine ⟨_, put_self, rfl, rfl, le_refl _, fun hs => ?_, fun hopen => ?_⟩
      · cases hs
      · exact absurd (.inr inFlight) hopen
    · exact ⟨q, (put_of_ne hk).trans hq, .refl q⟩

theorem Steps.queue_follows {L : Set Write} (h : Steps L now b b') {k : QueueId}
    (hq : b.queue k = some q) : ∃ q', b'.queue k = some q' ∧ q.Follows q' := by
  refine Steps.invariant (I := fun b' => ∃ q', b'.queue k = some q' ∧ q.Follows q')
    (fun _ m hI => ?_) h ⟨q, hq, .refl q⟩
  obtain ⟨q₁, hq₁, hfollows⟩ := hI
  obtain ⟨q₂, hq₂, hfollows'⟩ := m.queue_follows hq₁
  exact ⟨q₂, hq₂, hfollows.trans hfollows'⟩

/-! ## Exhausted work -/

/-- Work that has an artifact and is in none of the states on the way to its application. -/
structure SubtaskRow.Exhausted (r : SubtaskRow) : Prop where
  kind : r.kind = .work
  artifact : r.artifactDigest.isSome
  state : r.state = .applied ∨ r.state = .abandoned ∨ r.state.isBare

theorem SubtaskRow.Loads.bare (h : r.Loads) (hbare : r.state.isBare) : r.artifactDigest = none := by
  have hlife := (SubtaskRow.loads_iff.mp h).1
  cases hartifact : r.artifactDigest with
  | none => rfl
  | some digest =>
    rcases hbare with hs | hs | hs | hs | hs <;> cases hclaim : r.currentClaimId <;>
      simp [SubtaskRow.lifecycle, hs, hartifact, hclaim, invalidRow] at hlife

namespace SubtaskRow.Exhausted

/-- No change that loads exhausted work and asks for a declared transition gets through. -/
theorem not_allows (h : r.Exhausted) (hloads : r.Loads) {y : SubtaskState} :
    r.kind.allows r.state y = false := by
  rw [h.kind]
  rcases h.state with hs | hs | hbare
  · rw [hs]
    exact SubtaskKind.allows_from_applied
  · rw [hs]
    cases y <;> rfl
  · -- The loader refuses an artifact in these states.
    have hartifact := h.artifact
    rw [hloads.bare hbare] at hartifact
    cases hartifact

theorem of_state (h : r.Exhausted) (hkind : r'.kind = r.kind)
    (hartifact : r'.artifactDigest = r.artifactDigest)
    (hstate : r'.state = r.state ∨ r'.state = .abandoned ∨ r'.state = .available ∨
      r'.state = .inProgress) : r'.Exhausted where
  kind := hkind.trans h.kind
  artifact := by rw [hartifact]; exact h.artifact
  state := by
    rcases hstate with hs | hs | hs | hs
    · rw [hs]
      exact h.state
    · exact .inr (.inl hs)
    · exact .inr (.inr (.inl hs))
    · exact .inr (.inr (.inr (.inr (.inl hs))))

theorem cancelled (h : r.Exhausted) : (r.cancelled now).Exhausted := by
  refine h.of_state rfl rfl ?_
  by_cases hterm : r.state.isTerminal
  · exact .inl (SubtaskRow.cancelled_state_of_terminal hterm)
  · exact .inr (.inl (SubtaskRow.cancelled_state hterm))

theorem edit (h : r.Exhausted) (he : Edit b now w r r') : r'.Exhausted := by
  cases he with
  | advance _ loads allowed | publish loads _ _ allowed | complete loads allowed
  | strand loads allowed =>
    rw [h.not_allows loads] at allowed
    cases allowed
  | retitle => exact h.of_state rfl rfl (.inl rfl)
  | revive _ revivable =>
    have hartifact := h.artifact
    simp [revivable.2.2] at hartifact
  | cancel => exact h.cancelled
  | reopen kind => cases h.kind.symm.trans kind

theorem detach (h : r.Exhausted) (hd : Detach now w r r') : r'.Exhausted := by
  cases hd with
  | lapse =>
    refine h.of_state rfl rfl ?_
    by_cases hheld : r.state = .claimed ∨ r.state = .inProgress
    · exact .inr (.inr (.inl (if_pos hheld)))
    · exact .inl (if_neg hheld)
  | abandon => exact h.of_state rfl rfl (.inr (.inl rfl))
  | cancel => exact h.cancelled
  | outcome loads _ _ allowed | decide loads allowed | complete loads allowed =>
    rw [h.not_allows loads] at allowed
    cases allowed

theorem step (h : r.Exhausted) (hstep : RowStep b now id w r r') : r'.Exhausted := by
  cases hstep with
  | same => exact h
  | edit he => exact h.edit he
  | detach _ hd => exact h.detach hd
  | claim loads allowed =>
    rw [h.not_allows loads] at allowed
    cases allowed
  | apply kind => exact ⟨kind, h.artifact, .inl rfl⟩
  | beginCleanup => exact h.of_state rfl rfl (.inr (.inr (.inr rfl)))
  | endCleanup _ _ left =>
    rcases left with rfl | rfl
    · exact h.of_state rfl rfl (.inr (.inr (.inl rfl)))
    · exact h.of_state rfl rfl (.inr (.inl rfl))

theorem not_ready (h : r.Exhausted) : r.state ≠ .readyForApply := by
  intro hs
  have hstate := h.state
  simp [hs, SubtaskState.isBare] at hstate

end SubtaskRow.Exhausted

/-! ## The queue -/

/-- A subtask has one open row at most, and none once one of its rows is applied. -/
structure QueueOrdered (b : Board) : Prop where
  single : ∀ {k q k' q'}, b.queue k = some q → q.isOpen → b.queue k' = some q' → q'.isOpen →
    q.subtaskId = q'.subtaskId → k = k'
  exhausted : ∀ {k q}, b.queue k = some q → q.state = .applied →
    ∃ r, b.subtask q.subtaskId = some r ∧ r.Exhausted
  closed : ∀ {k q k' q'}, b.queue k = some q → q.state = .applied → b.queue k' = some q' →
    q'.isOpen → q'.subtaskId ≠ q.subtaskId

theorem ReadyQueueRow.Evolves.isOpen (h : q.Evolves q') (hopen : q'.isOpen) : q.isOpen := by
  cases h with
  | same => exact hopen
  | claim queued => exact .inl queued
  | vacate going => exact going

theorem ReadyQueueRow.Evolves.of_applied (h : q.Evolves q') (hs : q'.state = .applied) : q' = q := by
  cases h with
  | same => rfl
  | claim => cases hs
  | vacate _ left => rcases left with rfl | rfl | rfl <;> cases hs

theorem ReadyQueueRow.not_isOpen_of_applied (h : q.state = .applied) : ¬q.isOpen := by
  rintro (hs | hs) <;> cases h.symm.trans hs

/-- The same queue, and subtasks that have taken a step. -/
theorem QueueOrdered.of_queue (h : QueueOrdered b) (hqueue : b'.queue = b.queue)
    (hsub : ∀ {id r}, b.subtask id = some r → r.Exhausted →
      ∃ r', b'.subtask id = some r' ∧ r'.Exhausted) : QueueOrdered b' where
  single hq hopen hq' hopen' := by
    rw [hqueue] at hq hq'
    exact h.single hq hopen hq' hopen'
  exhausted hq hs := by
    rw [hqueue] at hq
    obtain ⟨r, hr, hexhausted⟩ := h.exhausted hq hs
    exact hsub hr hexhausted
  closed hq hs hq' hopen' := by
    rw [hqueue] at hq hq'
    exact h.closed hq hs hq' hopen'

theorem QueueOrdered.enqueue (h : QueueOrdered b) (hnew : q.state = .queued)
    (hr : b.subtask q.subtaskId = some r) (hready : r.state = .readyForApply)
    (halone : ∀ k q', b.queue k = some q' → q'.isOpen → q'.subtaskId ≠ q.subtaskId) :
    QueueOrdered ⟨b.toLeases, { b.toLedger with queue := put b.queue q.queueId q }⟩ where
  single {k₁ q₁ k₂ q₂} hq₁ hopen₁ hq₂ hopen₂ hsub := by
    rcases put_eq_some.mp hq₁ with ⟨rfl, rfl⟩ | ⟨-, hq₁⟩ <;>
      rcases put_eq_some.mp hq₂ with ⟨rfl, rfl⟩ | ⟨-, hq₂⟩
    · rfl
    · exact absurd hsub.symm (halone _ _ hq₂ hopen₂)
    · exact absurd hsub (halone _ _ hq₁ hopen₁)
    · exact h.single hq₁ hopen₁ hq₂ hopen₂ hsub
  exhausted {k₁ q₁} hq₁ hs := by
    rcases put_eq_some.mp hq₁ with ⟨-, rfl⟩ | ⟨-, hq₁⟩
    · cases hnew.symm.trans hs
    · exact h.exhausted hq₁ hs
  closed {k₁ q₁ k₂ q₂} hq₁ hs hq₂ hopen₂ hsub := by
    rcases put_eq_some.mp hq₁ with ⟨-, rfl⟩ | ⟨-, hq₁⟩
    · cases hnew.symm.trans hs
    rcases put_eq_some.mp hq₂ with ⟨-, rfl⟩ | ⟨-, hq₂⟩
    · -- The new row's subtask is ready for apply, that of an applied row never is.
      obtain ⟨r₁, hr₁, hexhausted⟩ := h.exhausted hq₁ hs
      rw [← hsub, hr] at hr₁
      cases hr₁
      exact hexhausted.not_ready hready
    · exact h.closed hq₁ hs hq₂ hopen₂ hsub

theorem QueueOrdered.evolve (h : QueueOrdered b) {g : QueueId → Option ReadyQueueRow}
    (hevolved : ∀ k, Option.Rel ReadyQueueRow.Evolves (b.queue k) (g k)) :
    QueueOrdered ⟨b.toLeases, { b.toLedger with queue := g }⟩ where
  single {k₁ q₁ k₂ q₂} hq₁ hopen₁ hq₂ hopen₂ hsub := by
    obtain ⟨p₁, hp₁, he₁⟩ := rel_of_some' (hevolved k₁) hq₁
    obtain ⟨p₂, hp₂, he₂⟩ := rel_of_some' (hevolved k₂) hq₂
    refine h.single hp₁ (he₁.isOpen hopen₁) hp₂ (he₂.isOpen hopen₂) ?_
    rw [← he₁.subtask, ← he₂.subtask]
    exact hsub
  exhausted {k₁ q₁} hq₁ hs := by
    obtain ⟨p₁, hp₁, he₁⟩ := rel_of_some' (hevolved k₁) hq₁
    obtain rfl := he₁.of_applied hs
    exact h.exhausted hp₁ hs
  closed {k₁ q₁ k₂ q₂} hq₁ hs hq₂ hopen₂ := by
    obtain ⟨p₁, hp₁, he₁⟩ := rel_of_some' (hevolved k₁) hq₁
    obtain ⟨p₂, hp₂, he₂⟩ := rel_of_some' (hevolved k₂) hq₂
    obtain rfl := he₁.of_applied hs
    rw [he₂.subtask]
    exact h.closed hp₁ hs hp₂ (he₂.isOpen hopen₂)

theorem QueueOrdered.move (m : Move now w b b') (h : QueueOrdered b) : QueueOrdered b' := by
  have hsub : ∀ {id r}, b.subtask id = some r → r.Exhausted →
      ∃ r', b'.subtask id = some r' ∧ r'.Exhausted := by
    intro id r hr hexhausted
    obtain ⟨r', hr', hstep⟩ := (m.subtask id).of_some hr
    exact ⟨r', hr', hexhausted.step hstep⟩
  cases m with
  | lease => exact h.of_queue rfl hsub
  | ledger m =>
    cases m with
    | enqueue _ queued _ subtask _ ready _ alone => exact h.enqueue queued subtask ready alone
    | queue evolved => exact h.evolve evolved
    | _ => exact h.of_queue rfl hsub
  | @apply _ q r n queued inFlight _ _ subtask kind _ _ digest =>
    refine ⟨?_, ?_, ?_⟩
    · intro k₁ q₁ k₂ q₂ hq₁ hopen₁ hq₂ hopen₂ hsame
      rcases put_eq_some.mp hq₁ with ⟨-, rfl⟩ | ⟨-, hq₁⟩
      · exact absurd hopen₁ (ReadyQueueRow.not_isOpen_of_applied rfl)
      rcases put_eq_some.mp hq₂ with ⟨-, rfl⟩ | ⟨-, hq₂⟩
      · exact absurd hopen₂ (ReadyQueueRow.not_isOpen_of_applied rfl)
      · exact h.single hq₁ hopen₁ hq₂ hopen₂ hsame
    · intro k₁ q₁ hq₁ hs
      rcases put_eq_some.mp hq₁ with ⟨-, rfl⟩ | ⟨-, hq₁⟩
      · exact ⟨_, put_self, kind, Option.isSome_of_eq_some digest, .inl rfl⟩
      · obtain ⟨r₁, hr₁, hexhausted⟩ := h.exhausted hq₁ hs
        exact hsub hr₁ hexhausted
    · intro k₁ q₁ k₂ q₂ hq₁ hs hq₂ hopen₂ hsame
      rcases put_eq_some.mp hq₂ with ⟨-, rfl⟩ | ⟨hk₂, hq₂⟩
      · exact absurd hopen₂ (ReadyQueueRow.not_isOpen_of_applied rfl)
      rcases put_eq_some.mp hq₁ with ⟨-, rfl⟩ | ⟨-, hq₁⟩
      · -- The row that is applied was the only open one of its subtask.
        exact hk₂ (h.single hq₂ hopen₂ queued (.inr inFlight) hsame)
      · exact h.closed hq₁ hs hq₂ hopen₂ hsame

end Rows

/-! ## Runs -/

/-- What holds of the queue: a subtask has one queued or in-flight row at most, and none once one
    of its rows is applied; a row has an owner and a deadline exactly while it is in flight. -/
structure QueueSound (b : Board) : Prop where
  single : ∀ {k q k' q'}, b.queue k = some q → q.isOpen → b.queue k' = some q' → q'.isOpen →
    q.subtaskId = q'.subtaskId → k = k'
  held : ∀ {k q}, b.queue k = some q →
    (q.state = .inFlight ↔ q.claimedBySessionToken.isSome) ∧
      (q.state = .inFlight ↔ q.claimLeaseDeadline.isSome)
  closed : ∀ {k q k' q'}, b.queue k = some q → q.state = .applied → b.queue k' = some q' →
    q'.isOpen → q'.subtaskId ≠ q.subtaskId

section Runs

variable {env : Env} {s : Db} {c : Call} {calls : List Call}

/-- The `CHECK` of the queue table. -/
theorem Db.queue_held {k : QueueId} {q : ReadyQueueRow} (hq : s.board.queue k = some q) :
    (q.state = .inFlight ↔ q.claimedBySessionToken.isSome) ∧
      (q.state = .inFlight ↔ q.claimLeaseDeadline.isSome) := by
  have hcheck := Table.check_of_get? hq
  simp only [readyQueueSchema, decide_eq_true_eq] at hcheck
  rcases hcheck with ⟨hs, howner, -, hdeadline⟩ | ⟨hs, howner, hdeadline⟩
  · simp [hs, howner, hdeadline]
  · simp [hs, howner, hdeadline]

theorem QueueOrdered.sound (h : QueueOrdered s.board) : QueueSound s.board :=
  ⟨h.single, Db.queue_held, h.closed⟩

theorem init_queueOrdered : QueueOrdered Db.init.board where
  single h := nomatch h
  exhausted h := nomatch h
  closed h := nomatch h

theorem reach_queueOrdered (hrun : Run.Along (next env) Call.Fresh Db.init calls) :
    QueueOrdered (reach env calls).board :=
  (Run.invariant (I := fun s => Anchored s.board.toLeases ∧ QueueOrdered s.board)
    (fun _ _ hc h => ⟨next_anchored hc h.1, hc.invariant h.1 (fun m h => h.move m) h.2⟩)
    hrun ⟨init_anchored, init_queueOrdered⟩).2

theorem next_queue_follows (hc : c.Fresh s) (ha : Anchored s.board.toLeases) {k : QueueId}
    {q : ReadyQueueRow} (hq : s.board.queue k = some q) :
    ∃ q', (next env s c).board.queue k = some q' ∧ q.Follows q' :=
  Steps.queue_follows (next_moves hc ha) hq

/-- From every point of a run on, the rows of the queue follow from those that were there. -/
theorem reach_queue_follows {rest : List Call}
    (hrun : Run.Along (next env) Call.Fresh Db.init (calls ++ rest)) {k : QueueId}
    {q : ReadyQueueRow} (hq : (reach env calls).board.queue k = some q) :
    ∃ q', (reach env (calls ++ rest)).board.queue k = some q' ∧ q.Follows q' := by
  obtain ⟨hbefore, hrest⟩ := Run.along_append.mp hrun
  rw [reach_append]
  refine (Run.invariant (I := fun s => Anchored s.board.toLeases ∧
    ∃ q', s.board.queue k = some q' ∧ q.Follows q') (fun s c hc h => ?_) hrest
    ⟨(reach_fenced hbefore).1, q, hq, .refl q⟩).2
  obtain ⟨ha, q₁, hq₁, hfollows⟩ := h
  obtain ⟨q₂, hq₂, hfollows'⟩ : ∃ q₂, (next env s c).board.queue k = some q₂ ∧ q₁.Follows q₂ :=
    next_queue_follows hc ha hq₁
  exact ⟨next_anchored hc ha, q₂, hq₂, hfollows.trans hfollows'⟩

/-- A `mark_applied` that is accepted and not a replay finds the row in flight: held by the session,
    under the presented fence and before its deadline. -/
theorem Call.Commits.appliable {req : MarkAppliedReq} (h : c.Commits env s)
    (hop : c.op = .markApplied req) :
    ∃ q r, Appliable s.board req (max s.leaseClock (max c.now 0)) q r := by
  obtain ⟨hok, hrec⟩ := h
  obtain ⟨v, s₀, hs₀, hrun⟩ := hok.run
  rw [hop] at hrun
  rcases markApplied_run hrun with ⟨hrecorded, -⟩ | ⟨q, r, happliable, -⟩
  · exact absurd (Call.recorded_of hs₀ (by rw [hop]; rfl) hrecorded) hrec
  · rw [hs₀] at happliable
    exact ⟨q, r, happliable⟩

/-- After every run the queue is sound. Its last call leaves every row with a fence that is no
    smaller, and larger if the row was claimed; it changes no applied, superseded or cancelled row.
    If it is a `mark_applied` that is accepted and not a replay, its session holds the row under the
    largest fence the row ever had, before its deadline. -/
theorem queue_kept (hrun : Run.Along (next env) Call.Fresh Db.init (calls ++ [c])) :
    QueueSound (reach env (calls ++ [c])).board ∧
    (∀ k q, (reach env calls).board.queue k = some q →
      ∃ q', (reach env (calls ++ [c])).board.queue k = some q' ∧ q.Follows q') ∧
    ∀ req, c.op = .markApplied req → c.Commits env (reach env calls) →
      ∃ q deadline, (reach env calls).board.queue req.queueId = some q ∧ q.state = .inFlight ∧
        q.claimedBySessionToken = some req.sessionToken ∧
        q.claimFenceSeq = some req.claimFenceSeq.val ∧ q.claimLeaseDeadline = some deadline ∧
        max (reach env calls).leaseClock (max c.now 0) < deadline ∧
        ∀ before rest q₀, calls = before ++ rest →
          (reach env before).board.queue req.queueId = some q₀ →
          q₀.fence ≤ req.claimFenceSeq.val := by
  refine ⟨(reach_queueOrdered hrun).sound, fun k q hq => reach_queue_follows hrun hq, ?_⟩
  intro req hop hcommit
  obtain ⟨q, r, happliable⟩ := hcommit.appliable hop
  obtain ⟨deadline, hdeadline, hlive⟩ := happliable.live
  refine ⟨q, deadline, happliable.row, happliable.inFlight, happliable.owner, happliable.fence,
    hdeadline, hlive, ?_⟩
  rintro before rest q₀ rfl hq₀
  obtain ⟨q₁, hq₁, hfollows⟩ := reach_queue_follows (Run.along_append.mp hrun).1 hq₀
  obtain rfl : q = q₁ := Option.some.inj (happliable.row.symm.trans hq₁)
  have hfence : q.fence = req.claimFenceSeq.val := by
    rw [ReadyQueueRow.fence, happliable.fence, Option.getD_some]
  rw [← hfence]
  exact hfollows.fence

end Runs

section Scripts

open Script

theorem queue_kept_appliedWork :
    Run.Along (next env) Call.Fresh Db.init (verifiedWork ++ [applyCall]) ∧
      QueueSound (reach env (verifiedWork ++ [applyCall])).board ∧
      applyCall.Commits env (reach env verifiedWork) ∧
      ∃ q deadline, (reach env verifiedWork).board.queue (queued 15 0) = some q ∧
        q.claimedBySessionToken = some (session 3) ∧ q.claimLeaseDeadline = some deadline ∧
        max (reach env verifiedWork).leaseClock 3 < deadline := by
  obtain ⟨hrun, -, hcommit, -⟩ := appliedWork_run
  have hfresh : Run.Along (next env) Call.Fresh Db.init (verifiedWork ++ [applyCall]) :=
    Call.Proper.along_fresh (Run.along_append.mp hrun).1
  obtain ⟨hsound, -, hheld⟩ := queue_kept hfresh
  obtain ⟨q, deadline, hq, -, howner, -, hdeadline, hlive, -⟩ := hheld _ rfl hcommit
  exact ⟨hfresh, hsound, hcommit, q, deadline, hq, howner, hdeadline, hlive⟩

/-- `mark_applied`, sent once more, is accepted although nobody holds the row any longer. -/
theorem reapply_accepted :
    Run.Along (next env) Call.Fresh Db.init (appliedWork ++ [reapply]) ∧
      reapply.Succeeds env (reach env appliedWork) ∧
      ∃ q, (reach env appliedWork).board.queue (queued 15 0) = some q ∧
        q.state = .applied ∧ q.claimedBySessionToken = none := by
  obtain ⟨hrun, hrow, -, hok⟩ := appliedWork_run
  obtain ⟨q, hq, heq⟩ := Option.map_eq_some_iff.mp hrow
  have hstate := (Prod.mk.inj heq).1
  refine ⟨Call.Proper.along_fresh hrun, hok, q, hq, hstate, ?_⟩
  have hheld := (Db.queue_held hq).1
  simpa [hstate] using hheld

end Scripts

end Covey

import Covey.Runs.Lifecycle

/-!
# The evidence behind applied work

Applied work rests on records in six tables that different calls wrote. None of
these records is taken back, and applied work is not touched again, so it is
enough to look at the moves that apply something.

* `Move.applied`: how a move can leave work applied.
* `applied_evidenced`: every applied queue row and every applied work subtask has
  its evidence, in every run in which no caller gives a reserved id to work.
-/

namespace Covey

open Relational

section Rows

variable {now : ℤ} {w : Write} {b b' : Board} {id : SubtaskId} {r r' : SubtaskRow}

/-! ## Applied work -/

/-- The row is one of applied work with the artifact `digest`. -/
structure SubtaskRow.Applied (r : SubtaskRow) (digest : ArtifactDigest) : Prop where
  kind : r.kind = .work
  state : r.state = .applied
  artifact : r.artifactDigest = some digest

theorem SubtaskState.applied_isFinal : SubtaskState.applied.isFinal := .inl rfl

theorem SubtaskKind.allows_from_applied {kind : SubtaskKind} {y : SubtaskState} :
    kind.allows .applied y = false := by
  cases h : kind.allows .applied y with
  | false => rfl
  | true => exact absurd SubtaskState.applied_isFinal (SubtaskKind.allows_not_final h)

/-- An edit of an applied row keeps its state and its artifact. -/
theorem Edit.of_applied (h : Edit b now w r r') (hs : r.state = .applied) (hkind : r.kind = .work) :
    r'.state = .applied ∧ r'.artifactDigest = r.artifactDigest := by
  cases h with
  | advance _ _ allowed | publish _ _ _ allowed | complete _ allowed | strand _ allowed =>
    rw [hs, SubtaskKind.allows_from_applied] at allowed
    cases allowed
  | retitle => exact ⟨hs, rfl⟩
  | revive _ revivable => cases hs.symm.trans revivable.1
  | cancel =>
    refine ⟨?_, rfl⟩
    rw [SubtaskRow.cancelled_state_of_terminal (.inl hs), hs]
  | reopen kind => cases hkind.symm.trans kind

theorem Detach.of_applied (h : Detach now w r r') (hs : r.state = .applied) :
    r'.state = .applied ∧ r'.artifactDigest = r.artifactDigest := by
  cases h with
  | lapse => exact ⟨(if_neg (by simp [hs])).trans hs, rfl⟩
  | abandon going => exact absurd (.inl hs) going
  | cancel =>
    refine ⟨?_, rfl⟩
    rw [SubtaskRow.cancelled_state_of_terminal (.inl hs), hs]
  | outcome _ _ started => cases hs.symm.trans started
  | decide _ allowed | complete _ allowed =>
    rw [hs, SubtaskKind.allows_from_applied] at allowed
    cases allowed

/-- Applied work under an id that is not reserved stays as it is. -/
theorem RowStep.of_applied (h : RowStep b now id w r r') (hs : r.state = .applied)
    (hkind : r.kind = .work) (hid : ¬ReservedId id) (ha : Anchored b.toLeases) :
    r'.state = .applied ∧ r'.artifactDigest = r.artifactDigest := by
  cases h with
  | same => exact ⟨hs, rfl⟩
  | edit edit => exact edit.of_applied hs hkind
  | detach _ detach => exact detach.of_applied hs
  | claim _ allowed =>
    rw [hs, SubtaskKind.allows_from_applied] at allowed
    cases allowed
  | apply _ _ ready => cases hs.symm.trans ready
  | beginCleanup reserved => exact absurd reserved hid
  | endCleanup recorded =>
    obtain ⟨k, row, hrow, rfl⟩ := recorded
    exact absurd ⟨k, (ha.cleanup hrow).1⟩ hid

theorem SubtaskRow.Applied.step {digest : ArtifactDigest} (h : r.Applied digest)
    (hstep : RowStep b now id w r r') (hid : ¬ReservedId id) (ha : Anchored b.toLeases) :
    r'.Applied digest := by
  obtain ⟨hstate, hartifact⟩ := hstep.of_applied h.state h.kind hid ha
  exact ⟨hstep.sameWork.kind.trans h.kind, hstate, hartifact.trans h.artifact⟩

/-- An edit that leaves work applied found it applied, or settles it by its review. -/
theorem Edit.applied (h : Edit b now w r r') (hs : r'.state = .applied) :
    (r.state = .applied ∧ r'.artifactDigest = r.artifactDigest) ∨
      ∃ digest, r'.artifactDigest = some digest ∧ SettledByReview b r.subtaskId digest := by
  cases h with
  | advance _ _ _ ready =>
    subst hs
    obtain ⟨-, -, digest, hdigest, hsettled⟩ := ready
    exact .inr ⟨digest, hdigest, hsettled⟩
  | retitle => exact .inl ⟨hs, rfl⟩
  | cancel =>
    refine .inl ⟨?_, rfl⟩
    by_cases hterm : r.state.isTerminal
    · rwa [SubtaskRow.cancelled_state_of_terminal hterm] at hs
    · rw [SubtaskRow.cancelled_state hterm] at hs
      cases hs
  | publish | complete | revive | reopen | strand => cases hs

theorem Detach.applied (h : Detach now w r r') (hs : r'.state = .applied) :
    r.state = .applied ∧ r'.artifactDigest = r.artifactDigest := by
  cases h with
  | lapse =>
    refine ⟨?_, rfl⟩
    by_cases hheld : r.state = .claimed ∨ r.state = .inProgress
    · rw [show (r.lapsed now).state = .available from if_pos hheld] at hs
      cases hs
    · rwa [show (r.lapsed now).state = r.state from if_neg hheld] at hs
  | cancel =>
    refine ⟨?_, rfl⟩
    by_cases hterm : r.state.isTerminal
    · rwa [SubtaskRow.cancelled_state_of_terminal hterm] at hs
    · rw [SubtaskRow.cancelled_state hterm] at hs
      cases hs
  | @outcome _ kind => cases kind <;> cases hs
  | abandon | decide | complete => cases hs

/-- A lease move that leaves a subtask applied found it applied, or settles it by its review. -/
theorem LeaseMove.applied {l : Leases} (m : LeaseMove now b w l) (hk : Keyed b)
    (hr' : l.subtask id = some r') (hs : r'.state = .applied) :
    (∃ r, b.subtask id = some r ∧ r.kind = r'.kind ∧ r.state = .applied ∧
      r'.artifactDigest = r.artifactDigest) ∨
    ∃ digest, r'.artifactDigest = some digest ∧ SettledByReview b id digest := by
  have hself : b.subtask id = some r' → (∃ r, b.subtask id = some r ∧ r.kind = r'.kind ∧
      r.state = .applied ∧ r'.artifactDigest = r.artifactDigest) ∨
      ∃ digest, r'.artifactDigest = some digest ∧ SettledByReview b id digest :=
    fun hr => .inl ⟨r', hr, rfl, hs, rfl⟩
  cases m with
  | register | touch | exit | renew | markCleanup => exact hself hr'
  | create fresh | createCleanup fresh =>
    rcases put_eq_some.mp hr' with ⟨-, rfl⟩ | ⟨-, hr⟩
    · cases fresh.state.symm.trans hs
    · exact hself hr
  | edit edited =>
    obtain ⟨r, hr, rfl | hedit⟩ := rel_of_some' (edited id) hr'
    · exact hself hr
    · rcases hedit.applied hs with ⟨hstate, hartifact⟩ | hsettled
      · exact .inl ⟨r, hr, hedit.sameWork.kind.symm, hstate, hartifact⟩
      · exact .inr (hk hr ▸ hsettled)
  | claim =>
    rcases put_eq_some.mp hr' with ⟨-, rfl⟩ | ⟨-, hr⟩
    · cases hs
    · exact hself hr
  | close _ _ _ detach =>
    obtain ⟨r, hr, rfl⟩ := modify_eq_some.mp hr'
    split_ifs at hs ⊢ with hid hcur
    · subst hid
      have hdetach := detach r hr hcur
      obtain ⟨hstate, hartifact⟩ := hdetach.applied hs
      exact .inl ⟨r, hr, hdetach.sameWork.kind.symm, hstate, hartifact⟩
    · exact .inl ⟨r, hr, rfl, hs, rfl⟩
    · exact .inl ⟨r, hr, rfl, hs, rfl⟩
  | openCleanup =>
    obtain ⟨r, hr, rfl⟩ := modify_eq_some.mp hr'
    split_ifs at hs ⊢
    all_goals exact .inl ⟨r, hr, rfl, hs, rfl⟩
  | endCleanup _ _ left =>
    obtain ⟨r, hr, rfl⟩ := modify_eq_some.mp hr'
    split_ifs at hs ⊢
    · rcases left with rfl | rfl <;> cases hs
    · exact .inl ⟨r, hr, rfl, hs, rfl⟩
    · exact .inl ⟨r, hr, rfl, hs, rfl⟩

/-! ## Evidence is not taken back -/

theorem Board.Evolves.decided {k : ReviewId} {v : ReviewRow} (h : b.Evolves b')
    (hv : b.review k = some v) (hdecided : v.state = .decided) : b'.review k = some v := by
  obtain ⟨v', hv', -, hsame⟩ := h.review hv
  rwa [hsame hdecided] at hv'

theorem Approval.mono {digest : ArtifactDigest} {review : ReviewRow}
    (h : Approval b id digest review) (hevolves : b.Evolves b') : Approval b' id digest review := by
  obtain ⟨artifact, producer, reviewer, hartifact, hproducer, hreviewer, hne⟩ := h.separated
  obtain ⟨producer', hproducer', hp, -⟩ := hevolves.session hproducer
  obtain ⟨reviewer', hreviewer', hr, -⟩ := hevolves.session hreviewer
  refine { h with recorded := hevolves.decided h.recorded h.decided, separated := ?_ }
  exact ⟨artifact, producer', reviewer', hevolves.artifact hartifact, hproducer', hreviewer',
    by rwa [hp, hr]⟩

theorem SettledByReview.mono {digest : ArtifactDigest} (h : SettledByReview b id digest)
    (hevolves : b.Evolves b') : SettledByReview b' id digest := by
  obtain ⟨review, happroval, hhow⟩ := h
  refine ⟨review, happroval.mono hevolves, ?_⟩
  rcases hhow with ⟨p, hp, hdigest⟩ | ⟨a, ha, hkind⟩
  · exact .inl ⟨p, hevolves.permissive hp, hdigest⟩
  · exact .inr ⟨a, hevolves.artifact ha, hkind⟩

theorem Verified.mono {v : ApplyVerificationRow} (h : Verified b v) (hevolves : b.Evolves b') :
    Verified b' v := by
  obtain ⟨review, hreview, hdigest, hdecided, hverdict, hfindings, artifact, producer, reviewer,
    gate, hartifact, hproducer, hreviewer, hgate, hpr, hgp, hgr⟩ := h.review
  obtain ⟨producer', hproducer', hp, -⟩ := hevolves.session hproducer
  obtain ⟨reviewer', hreviewer', hr, -⟩ := hevolves.session hreviewer
  obtain ⟨gate', hgate', hg, -⟩ := hevolves.session hgate
  exact ⟨review, hevolves.decided hreview hdecided, hdigest, hdecided, hverdict, hfindings, artifact,
    producer', reviewer', gate', hevolves.artifact hartifact, hproducer', hreviewer', hgate',
    by rwa [hp, hr], by rwa [hg, hp], by rwa [hg, hr]⟩

theorem VerifiedFor.mono {q : ReadyQueueRow} {n : ℕ} (h : VerifiedFor b q n)
    (hevolves : b.Evolves b') : VerifiedFor b' q n := by
  obtain ⟨key, v, review, hv, hqueue, hdigest, hfence, hreview, hsub⟩ := h
  obtain ⟨review', hreview', hsame, -⟩ := hevolves.review hreview
  exact ⟨key, v, review', hevolves.verification hv, hqueue, hdigest, hfence, hreview',
    hsame.trans hsub⟩

/-! ## The invariant -/

/-- What an applied queue row rests on. -/
structure ReadyQueueRow.Landed (b : Board) (q : ReadyQueueRow) : Prop where
  work : ∃ r, b.subtask q.subtaskId = some r ∧ r.Applied q.artifactDigest ∧
    r.completionPolicy = .canonicalApply
  verified : ∃ n, q.claimFenceSeq = some n ∧ VerifiedFor b q n

/-- Applied work rests on an applied queue row or on its review. -/
def Settled (b : Board) (id : SubtaskId) (digest : ArtifactDigest) : Prop :=
  (∃ k q, b.queue k = some q ∧ q.state = .applied ∧ q.subtaskId = id ∧ q.artifactDigest = digest) ∨
    SettledByReview b id digest

theorem Settled.mono {digest : ArtifactDigest} (h : Settled b id digest) (hevolves : b.Evolves b') :
    Settled b' id digest := by
  rcases h with ⟨k, q, hq, hstate, hsub, hdigest⟩ | h
  · obtain ⟨q', hq', -, hsame⟩ := hevolves.queue hq
    rw [hsame hstate] at hq'
    exact .inl ⟨k, q, hq', hstate, hsub, hdigest⟩
  · exact .inr (h.mono hevolves)

structure Evidenced (b : Board) : Prop where
  queue : ∀ {k q}, b.queue k = some q → q.state = .applied → q.Landed b
  work : ∀ {id r}, b.subtask id = some r → r.kind = .work → r.state = .applied →
    ∃ digest, r.artifactDigest = some digest ∧ Settled b id digest
  verification : ∀ {k v}, b.verification k = some v → Verified b v

/-- An applied queue row of the new board was applied before, or the move applies it. -/
theorem Move.queue_applied (m : Move now w b b') {k : QueueId} {q : ReadyQueueRow}
    (hq : b'.queue k = some q) (hs : q.state = .applied) :
    b.queue k = some q ∨ q.Landed b' := by
  cases m with
  | lease => exact .inl hq
  | ledger m =>
    cases m with
    | enqueue _ queued =>
      rcases put_eq_some.mp hq with ⟨-, rfl⟩ | ⟨-, hq⟩
      · cases queued.symm.trans hs
      · exact .inl hq
    | queue evolved =>
      obtain ⟨q₀, hq₀, hstep⟩ := rel_of_some' (evolved k) hq
      cases hstep with
      | same => exact .inl hq₀
      | claim => cases hs
      | vacate _ left => rcases left with rfl | rfl | rfl <;> cases hs
    | _ => exact .inl hq
  | @apply _ q₀ r n queued inFlight fence verified subtask kind policy ready digest =>
    rcases put_eq_some.mp hq with ⟨-, rfl⟩ | ⟨-, hq⟩
    · exact .inr ⟨⟨_, put_self, ⟨kind, rfl, digest⟩, policy⟩, n, fence, verified⟩
    · exact .inl hq

/-- Applied work of the new board was applied before with the same artifact, or the move settles
    it. -/
theorem Move.applied (m : Move now w b b') (hk : Keyed b) (hr' : b'.subtask id = some r')
    (hkind : r'.kind = .work) (hs : r'.state = .applied) :
    (∃ r, b.subtask id = some r ∧ r.kind = .work ∧ r.state = .applied ∧
      r'.artifactDigest = r.artifactDigest) ∨
    ∃ digest, r'.artifactDigest = some digest ∧ Settled b' id digest := by
  have hevolves := m.evolves
  cases m with
  | lease m =>
    rcases m.applied hk hr' hs with ⟨r, hr, hsame, hstate, hartifact⟩ | ⟨digest, hdigest, hsettled⟩
    · exact .inl ⟨r, hr, hsame.trans hkind, hstate, hartifact⟩
    · exact .inr ⟨digest, hdigest, .inr (hsettled.mono hevolves)⟩
  | ledger => exact .inl ⟨r', hr', hkind, hs, rfl⟩
  | @apply _ q r n _ _ _ _ _ _ _ _ digest =>
    rcases put_eq_some.mp hr' with ⟨rfl, rfl⟩ | ⟨-, hr⟩
    · exact .inr ⟨q.artifactDigest, digest, .inl ⟨q.queueId, _, put_self, rfl, rfl, rfl⟩⟩
    · exact .inl ⟨r', hr, hkind, hs, rfl⟩

theorem Move.verification (m : Move now w b b') {k : QueueId × ℕ × ArtifactDigest}
    {v : ApplyVerificationRow} (hv : b'.verification k = some v) :
    b.verification k = some v ∨ Verified b v := by
  cases m with
  | lease | apply => exact .inl hv
  | ledger m =>
    cases m with
    | verify _ verified =>
      rcases put_eq_some.mp hv with ⟨-, rfl⟩ | ⟨-, hv⟩
      · exact .inr verified
      · exact .inl hv
    | _ => exact .inl hv

theorem Evidenced.move (m : Move now w b b') (h : Evidenced b) (hc : Coherent b.toLeases)
    (hk : Keyed b) : Evidenced b' where
  queue {k q} hq hs := by
    rcases m.queue_applied hq hs with hq | hlanded
    · obtain ⟨⟨r, hr, happlied, hpolicy⟩, n, hfence, hverified⟩ := h.queue hq hs
      have hid : ¬ReservedId q.subtaskId := fun hres => by
        cases happlied.kind.symm.trans (hc.named hr hres)
      obtain ⟨r', hr', hstep⟩ := (m.subtask q.subtaskId).of_some hr
      exact ⟨⟨r', hr', happlied.step hstep hid hc.anchored, hstep.sameWork.policy.trans hpolicy⟩,
        n, hfence, hverified.mono m.evolves⟩
    · exact hlanded
  work {id r'} hr' hkind hs := by
    rcases m.applied hk hr' hkind hs with ⟨r, hr, hkind, hstate, hartifact⟩ | hsettled
    · obtain ⟨digest, hdigest, hsettled⟩ := h.work hr hkind hstate
      exact ⟨digest, hartifact.trans hdigest, hsettled.mono m.evolves⟩
    · exact hsettled
  verification hv := by
    rcases m.verification hv with hv | hverified
    · exact (h.verification hv).mono m.evolves
    · exact hverified.mono m.evolves

end Rows

/-! ## Runs -/

/-- What applied queue rows and applied work rest on. An applied queue row is one of applied
    canonical-apply work with the same artifact; an approval of exactly that artifact of that work,
    and a verification of it under the row's final fence, are on record; and producer, reviewer and
    verifying session are three principals. Applied work has an approval by another principal than
    its producer, and was queued and applied, landed permissively under that approval, or has an
    artifact that is not one to be applied. -/
structure AppliedEvidence (b : Board) : Prop where
  queue : ∀ {k q}, b.queue k = some q → q.state = .applied →
    (∃ r, b.subtask q.subtaskId = some r ∧ r.Applied q.artifactDigest ∧
      r.completionPolicy = .canonicalApply) ∧
    ∃ key v review, b.verification key = some v ∧ v.queueId = q.queueId ∧
      v.artifactDigest = q.artifactDigest ∧ q.claimFenceSeq = some v.claimFenceSeq ∧
      v.reviewId = review.reviewId ∧ review.findingsDigest = some v.findingsDigest ∧
      Approval b q.subtaskId q.artifactDigest review ∧
      ∃ artifact producer reviewer gate, b.artifact q.artifactDigest = some artifact ∧
        b.session artifact.producedBySession = some producer ∧
        b.session review.reviewerSession = some reviewer ∧
        b.session v.recordedBySession = some gate ∧
        [producer.agentPrincipalId, reviewer.agentPrincipalId, gate.agentPrincipalId].Nodup
  work : ∀ {id r}, b.subtask id = some r → r.kind = .work → r.state = .applied →
    ∃ digest review, r.artifactDigest = some digest ∧ Approval b id digest review ∧
      ((∃ k q, b.queue k = some q ∧ q.state = .applied ∧ q.subtaskId = id ∧
          q.artifactDigest = digest) ∨
        (∃ p, b.permissive review.reviewId = some p ∧ p.artifactDigest = digest) ∨
        ∃ a, b.artifact digest = some a ∧ ¬a.artifactKind.isApplyable)

section Runs

variable {env : Env} {b : Board} {s : Db} {c : Call} {calls : List Call}

/-- The approval behind a verified queue row, with the principals that the verification
    separates. -/
theorem Evidenced.approval (h : Evidenced b) (hkeyed : ∀ {k v}, b.review k = some v → v.reviewId = k)
    {q : ReadyQueueRow} {n : ℕ} (hv : VerifiedFor b q n) :
    ∃ key v review, b.verification key = some v ∧ v.queueId = q.queueId ∧
      v.artifactDigest = q.artifactDigest ∧ v.claimFenceSeq = n ∧
      v.reviewId = review.reviewId ∧ review.findingsDigest = some v.findingsDigest ∧
      Approval b q.subtaskId q.artifactDigest review ∧
      ∃ artifact producer reviewer gate, b.artifact q.artifactDigest = some artifact ∧
        b.session artifact.producedBySession = some producer ∧
        b.session review.reviewerSession = some reviewer ∧
        b.session v.recordedBySession = some gate ∧
        [producer.agentPrincipalId, reviewer.agentPrincipalId, gate.agentPrincipalId].Nodup := by
  obtain ⟨key, v, review, hv, hqueue, hdigest, hfence, hreview, hsub⟩ := hv
  obtain ⟨review', hreview', hdigest', hdecided, hverdict, hfindings, artifact, producer, reviewer,
    gate, hartifact, hproducer, hreviewer, hgate, hpr, hgp, hgr⟩ := (h.verification hv).review
  obtain rfl : review = review' := Option.some.inj (hreview.symm.trans hreview')
  have hkey := hkeyed hreview
  rw [hdigest] at hartifact hdigest'
  refine ⟨key, v, review, hv, hqueue, hdigest, hfence, hkey.symm, hfindings, ?_, artifact, producer,
    reviewer, gate, hartifact, hproducer, hreviewer, hgate, ?_⟩
  · exact ⟨hkey ▸ hreview, hsub, hdigest', hdecided, hverdict,
      artifact, producer, reviewer, hartifact, hproducer, hreviewer, hpr⟩
  · simp [hpr, hgp.symm, hgr.symm]

theorem Evidenced.appliedEvidence (h : Evidenced b)
    (hkeyed : ∀ {k v}, b.review k = some v → v.reviewId = k) : AppliedEvidence b where
  queue {k q} hq hs := by
    obtain ⟨hwork, n, hfence, hverified⟩ := h.queue hq hs
    obtain ⟨key, v, review, hv, hqueue, hdigest, hn, hrest⟩ := h.approval hkeyed hverified
    exact ⟨hwork, key, v, review, hv, hqueue, hdigest, hn ▸ hfence, hrest⟩
  work {id r} hr hkind hs := by
    obtain ⟨digest, hdigest, ⟨k, q, hq, hstate, rfl, rfl⟩ | ⟨review, happroval, hhow⟩⟩ :=
      h.work hr hkind hs
    · obtain ⟨-, n, -, hverified⟩ := h.queue hq hstate
      obtain ⟨-, -, review, -, -, -, -, -, -, happroval, -⟩ := h.approval hkeyed hverified
      exact ⟨_, review, hdigest, happroval, .inl ⟨k, q, hq, hstate, rfl, rfl⟩⟩
    · exact ⟨digest, review, hdigest, happroval, .inr hhow⟩

theorem init_evidenced : Evidenced Db.init.board where
  queue h := nomatch h
  work h := nomatch h
  verification h := nomatch h

theorem next_evidenced (hc : c.Proper s) (hcoherent : Coherent s.board.toLeases)
    (h : Evidenced s.board) : Evidenced (next env s c).board :=
  (hc.invariant (I := fun b => Coherent b.toLeases ∧ Keyed b ∧ Evidenced b) hcoherent.anchored
    (fun hw m h => ⟨h.1.move m hw, h.2.1.move m, h.2.2.move m h.1 h.2.1⟩)
    ⟨hcoherent, Db.keyed s, h⟩).2.2

/-- After every run in which no caller gives a reserved id to work or to a review, every applied
    queue row and all applied work have their evidence. -/
theorem applied_evidenced (hrun : Run.Along (next env) Call.Proper Db.init calls) :
    AppliedEvidence (reach env calls).board := by
  have h := Run.invariant (I := fun s => Coherent s.board.toLeases ∧ Evidenced s.board)
    (fun _ _ hc h => ⟨next_coherent hc h.1, next_evidenced hc h.1 h.2⟩) hrun
    ⟨init_coherent, init_evidenced⟩
  exact h.2.appliedEvidence fun hv => Table.key_of_get? hv

end Runs

section Scripts

open Script

/-- The work `a` is approved, queued, verified and applied. -/
def appliedWork : List Call := calls (approvedWork ++ landing 16 3 (digest "a") (review 12))

/-- All of this but the last call. -/
def verifiedWork : List Call :=
  calls (approvedWork ++ (landing 16 3 (digest "a") (review 12)).take 2)

def applyCall : Call := ⟨apply (session 3) (queued 15 0) (fence 0) (text "18"), 3, uuid 18⟩

/-- The last call, sent once more. -/
def reapply : Call := ⟨apply (session 3) (queued 15 0) (fence 0) (text "18"), 4, uuid 19⟩

theorem appliedWork_run : Run.Along (next env) Call.Proper Db.init (appliedWork ++ [reapply]) ∧
    ((reach env appliedWork).board.queue (queued 15 0)).map (fun q => (q.state, q.subtaskId)) =
      some (.applied, text "a") ∧
    applyCall.Commits env (reach env verifiedWork) ∧
    (step env (reach env appliedWork) reapply).1.isOk = true := by
  decide +kernel

theorem applied_evidenced_appliedWork :
    Run.Along (next env) Call.Proper Db.init appliedWork ∧
      ((reach env appliedWork).board.queue (queued 15 0)).map (·.state) = some .applied ∧
      AppliedEvidence (reach env appliedWork).board := by
  obtain ⟨hrun, hrow, -⟩ := appliedWork_run
  replace hrun := (Run.along_append.mp hrun).1
  obtain ⟨q, hq, heq⟩ := Option.map_eq_some_iff.mp hrow
  refine ⟨hrun, ?_, applied_evidenced hrun⟩
  rw [hq, Option.map_some]
  exact congrArg some (Prod.mk.inj heq).1

/-- Work under the reserved id of a change is applied; then the cleanup of the change is begun and
    finished. Beginning it takes over the claim that the producer still has on the work. -/
def reservedWork : List Call :=
  calls (staffed ++
    [(1, fun _ => .importOpenSpec (session 0) source),
      (1, create (session 0) (text "openspec:change") cleanupTask.val .canonicalApply)] ++
    approval 9 2 task .findingsBundle (digest "a") "review" ++
    [(2, release (session 1) (claim 9) (fence 0))] ++
    approval 17 3 cleanupTask .patchBundle (digest "b") "review2" ++
    landing 24 4 (digest "b") (review 20) ++
    [(5, beginCleanup (session 0)), (5, finishCleanup (session 0) (claim 17) (fence 1))])

theorem reservedWork_run :
    Run.Along (next env) (fun s c => c.Fresh s ∧ c.Commits env s) Db.init reservedWork ∧
    ((reach env reservedWork).board.queue (queued 23 0)).map (fun q => (q.state, q.subtaskId)) =
      some (.applied, cleanupTask) ∧
    ((reach env reservedWork).board.subtask cleanupTask).map (·.state) = some .abandoned := by
  decide +kernel

/-- Finishing the cleanup abandons the work of an applied queue row. -/
theorem reservedWork_unevidenced :
    Run.Along (next env) (fun s c => c.Fresh s ∧ c.Commits env s) Db.init reservedWork ∧
      ¬AppliedEvidence (reach env reservedWork).board := by
  obtain ⟨hrun, hqueue, hwork⟩ := reservedWork_run
  refine ⟨hrun, fun h => ?_⟩
  obtain ⟨q, hq, heq⟩ := Option.map_eq_some_iff.mp hqueue
  obtain ⟨hstate, hsub⟩ := Prod.mk.inj heq
  obtain ⟨⟨r, hr, happlied, -⟩, -⟩ := h.queue hq hstate
  rw [hsub] at hr
  rw [hr, Option.map_some, happlied.state] at hwork
  cases hwork

end Scripts

end Covey

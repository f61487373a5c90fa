import Covey.Moves

/-!
# What a move does to one row

Each lemma here looks at a single row of one table and says everything a move
can do to it. The invariants about that table then follow by cases on the row's
change and never look at the moves again.

* `Move.subtask`: subtasks change by a `RowStep`.
* `Move.claim`: claims keep their subtask, owner and fence, unless a cleanup
  reuses their row.
* `Move.evolves`: sessions, subtasks and the records about artifacts outlive every
  move, and what is settled stays as it is.
-/

namespace Covey

open Relational

variable {now : ℤ} {w : Write} {b b' : Board}

/-! ## Subtasks -/

/-- What a move can do to the subtask `id`. -/
inductive RowStep (b : Board) (now : ℤ) (id : SubtaskId) : Write → SubtaskRow → SubtaskRow → Prop
  | same {w : Write} (r : SubtaskRow) : RowStep b now id w r r
  | edit {w : Write} {r r' : SubtaskRow} (edit : Edit b now w r r') : RowStep b now id w r r'
  | detach {w : Write} {r r' : SubtaskRow} (claimed : r.currentClaimId.isSome)
      (detach : Detach now w r r') : RowStep b now id w r r'
  | claim {r : SubtaskRow} {c : ClaimId} (loads : r.Loads)
      (allowed : r.kind.allows r.state .claimed = true) :
      RowStep b now id .declared r
        { r with state := .claimed, currentClaimId := some c, artifactDigest := none,
                 updatedAt := now }
  | apply {r : SubtaskRow} (kind : r.kind = .work) (policy : r.completionPolicy = .canonicalApply)
      (ready : r.state = .readyForApply) :
      RowStep b now id .declared r { r with state := .applied, updatedAt := now }
  | beginCleanup {w : Write} {r : SubtaskRow} {c : ClaimId} (reserved : ReservedId id)
      (available : r.state = .available) (free : r.currentClaimId = none) :
      RowStep b now id w r
        { r with state := .inProgress, currentClaimId := some c, updatedAt := now }
  | endCleanup {w : Write} {r : SubtaskRow} {target : SubtaskState}
      (recorded : ∃ k row, b.cleanup k = some row ∧ row.cleanupSubtaskId = id)
      (claimed : r.currentClaimId.isSome) (left : target = .available ∨ target = .abandoned) :
      RowStep b now id w r { r with state := target, currentClaimId := none, updatedAt := now }

/-- A subtask that a move creates under `id`. -/
structure CreatedRow (now : ℤ) (id : SubtaskId) (w : Write) (r : SubtaskRow) : Prop where
  fresh : r.Fresh now
  keyed : r.subtaskId = id
  named : r.kind ≠ .cleanup ∧ (w = r.kind.createLabel ∧ ¬ReservedId id ∨ w = .misname) ∨
    r.kind = .cleanup ∧ ReservedId id

theorem LeaseMove.subtask {l : Leases} (m : LeaseMove now b w l) (id : SubtaskId) :
    Change (RowStep b now id w) (CreatedRow now id w) (b.subtask id) (l.subtask id) := by
  cases m with
  | register | touch | exit | renew | markCleanup => exact Change.same RowStep.same _
  | create fresh kind named absent =>
    refine Change.of_put RowStep.same fun hid => ?_
    rw [absent]
    exact ⟨fresh, hid.symm, .inl ⟨kind, hid ▸ named⟩⟩
  | edit edited =>
    refine (Change.of_rel (edited id)).mono ?_ fun _ h => h
    rintro r r' (rfl | h)
    · exact .same r'
    · exact .edit h
  | claim subtask loads allowed =>
    refine Change.of_put RowStep.same fun _ => ?_
    rw [subtask]
    exact RowStep.claim loads allowed
  | close _ _ _ detach =>
    refine Change.of_modify RowStep.same fun _ r hr => ?_
    split_ifs with hc
    · exact .detach (by simp [hc]) (detach r hr hc)
    · exact .same r
  | createCleanup fresh kind reserved absent =>
    refine Change.of_put RowStep.same fun hid => ?_
    rw [absent]
    exact ⟨fresh, hid.symm, .inr ⟨kind, hid ▸ reserved⟩⟩
  | openCleanup reserved =>
    refine Change.of_modify RowStep.same fun hid r _ => ?_
    split_ifs with hc
    · exact .beginCleanup ⟨_, hid ▸ reserved⟩ hc.1 hc.2
    · exact .same r
  | endCleanup recorded _ left =>
    refine Change.of_modify RowStep.same fun hid r _ => ?_
    split_ifs with hc
    · exact .endCleanup ⟨_, _, recorded, hid.symm⟩ (by simp [hc]) left
    · exact .same r

/-- What a move does to one subtask. -/
theorem Move.subtask (m : Move now w b b') (id : SubtaskId) :
    Change (RowStep b now id w) (CreatedRow now id w) (b.subtask id) (b'.subtask id) := by
  cases m with
  | lease m => exact m.subtask id
  | ledger m => exact Change.same RowStep.same _
  | apply _ _ _ _ subtask kind policy ready =>
    refine Change.of_put RowStep.same fun _ => ?_
    rw [subtask]
    exact RowStep.apply kind policy ready

/-! ## Claims -/

/-- The claim is on the same subtask, by the same session and under the same fence, and a
    closed one stays closed. -/
structure ClaimRow.Continues (c c' : ClaimRow) : Prop where
  subtask : c'.subtaskId = c.subtaskId
  owner : c'.ownerSessionToken = c.ownerSessionToken
  fence : c'.fenceSeq = c.fenceSeq
  closed : c.state ≠ .held → c'.state = c.state

theorem ClaimRow.Continues.refl (c : ClaimRow) : c.Continues c := ⟨rfl, rfl, rfl, fun _ => rfl⟩

theorem ClaimRow.Continues.trans {c c' c'' : ClaimRow} (h : c.Continues c') (h' : c'.Continues c'') :
    c.Continues c'' := by
  refine ⟨h'.subtask.trans h.subtask, h'.owner.trans h.owner, h'.fence.trans h.fence, ?_⟩
  intro hc
  have hstate := h.closed hc
  rw [h'.closed (hstate ▸ hc), hstate]

/-- What a move can do to a claim. -/
def ClaimStep (w : Write) (c c' : ClaimRow) : Prop :=
  c.Continues c' ∨ (w = .reuse ∧ c'.subtaskId = c.subtaskId)

/-- What a move does to one claim. -/
theorem Move.claim (m : Move now w b b') (k : ClaimId) :
    Change (ClaimStep w) (fun c => c.state = .held) (b.claim k) (b'.claim k) := by
  have hself : ∀ c, ClaimStep w c c := fun c => .inl (.refl c)
  cases m with
  | ledger | apply => exact Change.same hself _
  | lease m =>
    cases m with
    | register | touch | exit | create | edit | createCleanup | markCleanup =>
      exact Change.same hself _
    | claim _ _ _ _ _ _ _ new held =>
      refine Change.of_put hself fun _ => ?_
      rw [new]
      exact held
    | close current held closed =>
      refine Change.of_put hself fun _ => ?_
      rw [current]
      exact .inl ⟨rfl, rfl, rfl, fun h => absurd held h⟩
    | renew current =>
      refine Change.of_put hself fun _ => ?_
      rw [current]
      exact .inl ⟨rfl, rfl, rfl, fun _ => rfl⟩
    | openCleanup _ _ _ held _ _ source =>
      refine Change.of_put hself fun _ => ?_
      rcases source with ⟨-, new, -⟩ | ⟨hw, old, hold, hsub, -⟩
      · rw [new]
        exact held
      · rw [hold]
        exact .inr ⟨hw, hsub⟩
    | endCleanup _ closed =>
      refine Change.of_modify hself fun _ c _ => ?_
      split_ifs with hc
      · exact .inl ⟨rfl, rfl, rfl, fun h => absurd hc h⟩
      · exact hself c

/-! ## What outlives every move -/

/-- What a subtask keeps through every change. -/
structure SubtaskRow.SameWork (r r' : SubtaskRow) : Prop where
  kind : r'.kind = r.kind
  policy : r'.completionPolicy = r.completionPolicy
  keyed : r'.subtaskId = r.subtaskId
  created : r'.createdAt = r.createdAt
  metaTask : r'.metaTaskId = r.metaTaskId
  lane : r'.routingKey = r.routingKey
  priority : r'.priority = r.priority
  evidence : r'.evidencePolicy = r.evidencePolicy

theorem Edit.sameWork {r r' : SubtaskRow} (h : Edit b now w r r') : r.SameWork r' := by
  cases h <;> exact ⟨rfl, rfl, rfl, rfl, rfl, rfl, rfl, rfl⟩

theorem Detach.sameWork {r r' : SubtaskRow} (h : Detach now w r r') : r.SameWork r' := by
  cases h <;> exact ⟨rfl, rfl, rfl, rfl, rfl, rfl, rfl, rfl⟩

theorem RowStep.sameWork {id : SubtaskId} {r r' : SubtaskRow} (h : RowStep b now id w r r') :
    r.SameWork r' := by
  cases h with
  | edit h => exact h.sameWork
  | detach _ h => exact h.sameWork
  | _ => exact ⟨rfl, rfl, rfl, rfl, rfl, rfl, rfl, rfl⟩

theorem SubtaskRow.SameWork.refl (r : SubtaskRow) : r.SameWork r :=
  ⟨rfl, rfl, rfl, rfl, rfl, rfl, rfl, rfl⟩

theorem SubtaskRow.SameWork.trans {r r' r'' : SubtaskRow} (h : r.SameWork r')
    (h' : r'.SameWork r'') : r.SameWork r'' :=
  ⟨h'.kind.trans h.kind, h'.policy.trans h.policy, h'.keyed.trans h.keyed,
    h'.created.trans h.created, h'.metaTask.trans h.metaTask, h'.lane.trans h.lane,
    h'.priority.trans h.priority, h'.evidence.trans h.evidence⟩

theorem SubtaskRow.SameWork.bequeaths {r r' : SubtaskRow} (h : r.SameWork r') : r.Bequeaths r' :=
  ⟨h.metaTask, h.policy, h.lane, h.priority⟩

/-- Sessions keep their agent and role, subtasks what they are; records are never
    taken back, and decided reviews and applied queue rows never change. -/
structure Board.Evolves (b b' : Board) : Prop where
  session : ∀ {k r}, b.session k = some r → ∃ r', b'.session k = some r' ∧
    r'.agentPrincipalId = r.agentPrincipalId ∧ r'.role = r.role
  agent : ∀ {k r}, b.session k = some r → ∃ r', b'.session k = some r' ∧
    r'.agentInstanceId = r.agentInstanceId
  subtask : ∀ {k r}, b.subtask k = some r → ∃ r', b'.subtask k = some r' ∧ r.SameWork r'
  artifact : ∀ {k r}, b.artifact k = some r → b'.artifact k = some r
  review : ∀ {k r}, b.review k = some r → ∃ r', b'.review k = some r' ∧
    r'.subtaskId = r.subtaskId ∧ (r.state = .decided → r' = r)
  followup : ∀ {k r}, b.followup k = some r → b'.followup k = some r
  permissive : ∀ {k r}, b.permissive k = some r → b'.permissive k = some r
  queue : ∀ {k q}, b.queue k = some q → ∃ q', b'.queue k = some q' ∧
    q'.subtaskId = q.subtaskId ∧ (q.state = .applied → q' = q)
  verification : ∀ {k r}, b.verification k = some r → b'.verification k = some r

namespace Board.Evolves

theorem refl (b : Board) : b.Evolves b where
  session h := ⟨_, h, rfl, rfl⟩
  agent h := ⟨_, h, rfl⟩
  subtask h := ⟨_, h, .refl _⟩
  artifact h := h
  review h := ⟨_, h, rfl, fun _ => rfl⟩
  followup h := h
  permissive h := h
  queue h := ⟨_, h, rfl, fun _ => rfl⟩
  verification h := h

theorem trans {b'' : Board} (h : b.Evolves b') (h' : b'.Evolves b'') : b.Evolves b'' where
  session hr := by
    obtain ⟨r₁, h₁, hp, hr⟩ := h.session hr
    obtain ⟨r₂, h₂, hp', hr'⟩ := h'.session h₁
    exact ⟨r₂, h₂, hp'.trans hp, hr'.trans hr⟩
  agent hr := by
    obtain ⟨r₁, h₁, ha⟩ := h.agent hr
    obtain ⟨r₂, h₂, ha'⟩ := h'.agent h₁
    exact ⟨r₂, h₂, ha'.trans ha⟩
  subtask hr := by
    obtain ⟨r₁, h₁, hsame⟩ := h.subtask hr
    obtain ⟨r₂, h₂, hsame'⟩ := h'.subtask h₁
    exact ⟨r₂, h₂, hsame.trans hsame'⟩
  artifact hr := h'.artifact (h.artifact hr)
  review hr := by
    obtain ⟨r₁, h₁, hs, hd⟩ := h.review hr
    obtain ⟨r₂, h₂, hs', hd'⟩ := h'.review h₁
    refine ⟨r₂, h₂, hs'.trans hs, fun hdec => ?_⟩
    rw [hd' (by rw [hd hdec]; exact hdec), hd hdec]
  followup hr := h'.followup (h.followup hr)
  permissive hr := h'.permissive (h.permissive hr)
  queue hr := by
    obtain ⟨r₁, h₁, hs, hd⟩ := h.queue hr
    obtain ⟨r₂, h₂, hs', hd'⟩ := h'.queue h₁
    refine ⟨r₂, h₂, hs'.trans hs, fun hdec => ?_⟩
    rw [hd' (by rw [hd hdec]; exact hdec), hd hdec]
  verification hr := h'.verification (h.verification hr)

end Board.Evolves

theorem LeaseMove.sameAgent {l : Leases} (m : LeaseMove now b w l) {k : SessionToken} {r : SessionRow}
    (h : b.session k = some r) : ∃ r', l.session k = some r' ∧
      r'.agentPrincipalId = r.agentPrincipalId ∧ r'.role = r.role ∧
        r'.agentInstanceId = r.agentInstanceId := by
  cases m with
  | create | edit | renew | createCleanup | openCleanup | endCleanup | markCleanup =>
    exact ⟨r, h, rfl, rfl, rfl⟩
  | register fresh => exact ⟨r, put_of_new fresh h, rfl, rfl, rfl⟩
  | touch touched =>
    obtain ⟨r', hr', ht⟩ := rel_of_some (touched k) h
    exact ⟨r', hr', ht.principal, ht.role, ht.agent⟩
  | @exit k' r₀ session =>
    by_cases hk : k = k'
    · subst hk
      obtain rfl : r₀ = r := Option.some.inj (session.symm.trans h)
      exact ⟨_, put_self, rfl, rfl, rfl⟩
    · exact ⟨r, (put_of_ne hk).trans h, rfl, rfl, rfl⟩
  | @claim _ σ c _ _ _ session =>
    by_cases hk : k = c.ownerSessionToken
    · subst hk
      obtain rfl : σ = r := Option.some.inj (session.symm.trans h)
      exact ⟨_, put_self, rfl, rfl, rfl⟩
    · exact ⟨r, (put_of_ne hk).trans h, rfl, rfl, rfl⟩
  | close =>
    refine ⟨_, modify_eq_some.mpr ⟨r, h, rfl⟩, ?_⟩
    split_ifs <;> exact ⟨rfl, rfl, rfl⟩

theorem ReadyQueueRow.Evolves.subtask {q q' : ReadyQueueRow} (h : q.Evolves q') :
    q'.subtaskId = q.subtaskId := by
  cases h <;> rfl

theorem ReadyQueueRow.Evolves.applied {q q' : ReadyQueueRow} (h : q.Evolves q')
    (happ : q.state = .applied) : q' = q := by
  cases h with
  | same => rfl
  | claim queued => simp [queued] at happ
  | vacate going => simp [ReadyQueueRow.isOpen, happ] at going

theorem Move.evolves (m : Move now w b b') : b.Evolves b' := by
  have hsub : ∀ {k r}, b.subtask k = some r → ∃ r', b'.subtask k = some r' ∧ r.SameWork r' := by
    intro k r h
    obtain ⟨r', hr', hstep⟩ := (m.subtask k).of_some h
    exact ⟨r', hr', hstep.sameWork⟩
  cases m with
  | lease m =>
    refine { Board.Evolves.refl b with session := fun h => ?_, agent := fun h => ?_, subtask := hsub }
    · obtain ⟨r', hr', hp, hrole, -⟩ := m.sameAgent h
      exact ⟨r', hr', hp, hrole⟩
    · obtain ⟨r', hr', -, -, hagent⟩ := m.sameAgent h
      exact ⟨r', hr', hagent⟩
  | ledger m =>
    cases m with
    | artifact new => exact { Board.Evolves.refl b with artifact := put_of_new new }
    | followup new => exact { Board.Evolves.refl b with followup := put_of_new new }
    | permissive new => exact { Board.Evolves.refl b with permissive := put_of_new new }
    | verify new => exact { Board.Evolves.refl b with verification := put_of_new new }
    | review new =>
      refine { Board.Evolves.refl b with review := fun h => ⟨_, put_of_new new h, rfl, ?_⟩ }
      exact fun _ => rfl
    | enqueue new =>
      refine { Board.Evolves.refl b with queue := fun h => ⟨_, put_of_new new h, rfl, ?_⟩ }
      exact fun _ => rfl
    | reviews evolved =>
      refine { Board.Evolves.refl b with review := fun h => ?_ }
      obtain ⟨r', hr', rfl | ⟨hopen, -, hsame⟩⟩ := rel_of_some (evolved _) h
      · exact ⟨_, hr', rfl, fun _ => rfl⟩
      · exact ⟨r', hr', hsame.subtask, fun hdec => absurd hdec hopen⟩
    | @verdict v v' current undecided same =>
      refine { Board.Evolves.refl b with review := fun {k r} h => ?_ }
      by_cases hk : k = v.reviewId
      · subst hk
        obtain rfl : v = r := Option.some.inj (current.symm.trans h)
        exact ⟨v', put_self, same.subtask, fun hdec => absurd hdec undecided⟩
      · exact ⟨r, (put_of_ne hk).trans h, rfl, fun _ => rfl⟩
    | queue evolved =>
      refine { Board.Evolves.refl b with queue := fun h => ?_ }
      obtain ⟨q', hq', hstep⟩ := rel_of_some (evolved _) h
      exact ⟨q', hq', hstep.subtask, hstep.applied⟩
  | @apply _ q r n queued inFlight =>
    refine { Board.Evolves.refl b with subtask := hsub, queue := fun {k q₀} h => ?_ }
    by_cases hk : k = q.queueId
    · subst hk
      obtain rfl : q = q₀ := Option.some.inj (queued.symm.trans h)
      refine ⟨_, put_self, rfl, fun happ => ?_⟩
      rw [inFlight] at happ
      cases happ
    · exact ⟨q₀, (put_of_ne hk).trans h, rfl, fun _ => rfl⟩

theorem Steps.evolves {L : Set Write} (h : Steps L now b b') : b.Evolves b' := by
  induction h with
  | refl => exact .refl b
  | tail _ hmove ih =>
    obtain ⟨w, -, hmove⟩ := hmove
    exact ih.trans hmove.evolves

end Covey

import Covey.Dependencies
import Covey.Runs.Claims

/-!
# The lifecycle of subtasks along runs

Several operations write the state of a subtask without asking the transition
relation. What they can do to work and to reviews is `StateStep`; the invariants
of the states follow from it.

* `lifecycle_kept`: every change of state is a declared transition, the lapse of a
  claim, an abandonment or the revival of a follow-up; what is settled stays
  settled, and so do the dependencies on it.
* `subtasks_load`: every subtask row is one that the typed loader accepts, unless a
  review blocks work that its producer still holds.
-/

namespace Covey

open Relational

section Rows

variable {now : ℤ} {w : Write} {b b' : Board} {L : Set Write} {id : SubtaskId} {r r' : SubtaskRow}

/-! ## Transitions -/

/-- One change of state of a work or review subtask, made for `w`. -/
inductive StateStep (b : Board) (kind : SubtaskKind) (id : SubtaskId) (w : Write) :
    SubtaskState → SubtaskState → Prop
  | declared {x y : SubtaskState} (allowed : kind.allows x y = true) : StateStep b kind id w x y
  | lapse {x : SubtaskState} (label : w = .lapse) (held : x = .claimed ∨ x = .inProgress) :
      StateStep b kind id w x .available
  | abandon {x : SubtaskState} (label : w = .abandon) (going : ¬x.isTerminal) :
      StateStep b kind id w x .abandoned
  | revive (label : w = .revive)
      (followup : ∃ k f, b.followup k = some f ∧ f.followupSubtaskId = id) :
      StateStep b kind id w .abandoned .available

theorem StateStep.mono {kind : SubtaskKind} {x y : SubtaskState} (h : StateStep b kind id w x y)
    (hevolves : b.Evolves b') : StateStep b' kind id w x y := by
  cases h with
  | declared allowed => exact .declared allowed
  | lapse label held => exact .lapse label held
  | abandon label going => exact .abandon label going
  | revive label followup =>
    obtain ⟨k, f, hf, hid⟩ := followup
    exact .revive label ⟨k, f, hevolves.followup hf, hid⟩

theorem SubtaskRow.cancelled_state (h : ¬r.state.isTerminal) :
    (r.cancelled now).state = .abandoned :=
  if_neg h

theorem SubtaskRow.cancelled_state_of_terminal (h : r.state.isTerminal) :
    (r.cancelled now).state = r.state :=
  if_pos h

theorem Edit.state (h : Edit b now w r r') (hkind : r.kind ≠ .cleanup) (hkey : r.subtaskId = id) :
    r'.state = r.state ∨ StateStep b r.kind id w r.state r'.state := by
  cases h with
  | advance _ _ allowed => exact .inr (.declared allowed)
  | publish _ _ _ allowed => exact .inr (.declared allowed)
  | complete _ allowed => exact .inr (.declared allowed)
  | retitle => exact .inl rfl
  | revive _ revivable followup =>
    rw [revivable.1]
    exact .inr (.revive rfl (hkey ▸ followup))
  | cancel =>
    by_cases hterm : r.state.isTerminal
    · exact .inl (SubtaskRow.cancelled_state_of_terminal hterm)
    · rw [SubtaskRow.cancelled_state hterm]
      exact .inr (.abandon rfl hterm)
  | reopen kind => exact absurd kind hkind
  | strand _ allowed => exact .inr (.declared allowed)

theorem Detach.state (h : Detach now w r r') :
    r'.state = r.state ∨ StateStep b r.kind id w r.state r'.state := by
  cases h with
  | lapse =>
    by_cases hheld : r.state = .claimed ∨ r.state = .inProgress
    · rw [show (r.lapsed now).state = .available from if_pos hheld]
      exact .inr (.lapse rfl hheld)
    · exact .inl (if_neg hheld)
  | abandon going => exact .inr (.abandon rfl going)
  | cancel =>
    by_cases hterm : r.state.isTerminal
    · exact .inl (SubtaskRow.cancelled_state_of_terminal hterm)
    · rw [SubtaskRow.cancelled_state hterm]
      exact .inr (.abandon rfl hterm)
  | outcome _ _ _ allowed => exact .inr (.declared allowed)
  | decide _ allowed => exact .inr (.declared allowed)
  | complete _ allowed => exact .inr (.declared allowed)

/-- What a move can do to the state of work or of a review that has no reserved id. -/
theorem RowStep.state (h : RowStep b now id w r r') (hkind : r.kind ≠ .cleanup)
    (hkey : r.subtaskId = id) (hid : ¬ReservedId id) (ha : Anchored b.toLeases) :
    r'.state = r.state ∨ StateStep b r.kind id w r.state r'.state := by
  cases h with
  | same => exact .inl rfl
  | edit edit => exact edit.state hkind hkey
  | detach _ detach => exact detach.state
  | claim _ allowed => exact .inr (.declared allowed)
  | apply kind _ ready =>
    rw [kind, ready]
    exact .inr (.declared rfl)
  | beginCleanup reserved => exact absurd reserved hid
  | endCleanup recorded =>
    obtain ⟨k, row, hrow, rfl⟩ := recorded
    exact absurd ⟨k, (ha.cleanup hrow).1⟩ hid

/-- Subtasks are stored under their ids. -/
def Keyed (b : Board) : Prop := ∀ ⦃id r⦄, b.subtask id = some r → r.subtaskId = id

theorem Db.keyed (s : Db) : Keyed s.board := fun _ _ h => Table.key_of_get? h

theorem Keyed.move (m : Move now w b b') (hb : Keyed b) : Keyed b' := by
  intro id r' hr'
  rcases (m.subtask id).of_some' hr' with ⟨r, hr, hstep⟩ | ⟨-, hnew⟩
  · rw [hstep.sameWork.keyed]
    exact hb hr
  · exact hnew.keyed

/-- The changes of state that a sequence of moves makes to one subtask. -/
theorem Steps.states (h : Steps L now b b') (hL : .misname ∉ L) (hc : Coherent b.toLeases)
    (hk : Keyed b) (hr : b.subtask id = some r) (hkind : r.kind ≠ .cleanup) :
    ∃ r', b'.subtask id = some r' ∧ r'.kind = r.kind ∧
      Relation.ReflTransGen (fun x y => ∃ w ∈ L, StateStep b' r.kind id w x y) r.state r'.state := by
  have hid : ¬ReservedId id := fun hres => hkind (hc.named hr hres)
  refine (Steps.invariant (I := fun b' => Coherent b'.toLeases ∧ Keyed b' ∧
    ∃ r', b'.subtask id = some r' ∧ r'.kind = r.kind ∧
      Relation.ReflTransGen (fun x y => ∃ w ∈ L, StateStep b' r.kind id w x y) r.state r'.state)
    (fun {w b₁ b₂} hw m hI => ?_) h ⟨hc, hk, r, hr, rfl, .refl⟩).2.2
  obtain ⟨hc₁, hk₁, r₁, hr₁, hkind₁, hpath⟩ := hI
  obtain ⟨r₂, hr₂, hstep⟩ := (m.subtask id).of_some hr₁
  refine ⟨hc₁.move m fun hmis => hL (hmis ▸ hw), hk₁.move m, r₂, hr₂,
    hstep.sameWork.kind.trans hkind₁, ?_⟩
  have hpath₂ : Relation.ReflTransGen (fun x y => ∃ w ∈ L, StateStep b₂ r.kind id w x y)
      r.state r₁.state :=
    Relation.ReflTransGen.mono (fun _ _ ⟨w, hw, hs⟩ => ⟨w, hw, hs.mono m.evolves⟩) _ _ hpath
  rcases hstep.state (hkind₁ ▸ hkind) (hk₁ hr₁) hid hc₁.anchored with hsame | hs
  · rw [hsame]
    exact hpath₂
  · exact hpath₂.tail ⟨w, hw, hkind₁ ▸ hs.mono m.evolves⟩

/-- The states that are never left. -/
def SubtaskState.isFinal (x : SubtaskState) : Prop :=
  x = .applied ∨ x = .completed ∨ x = .failed ∨ x = .decided

theorem SubtaskKind.allows_not_final {kind : SubtaskKind} {x y : SubtaskState}
    (h : kind.allows x y = true) : ¬x.isFinal := by
  unfold SubtaskKind.allows at h
  split at h <;> simp [SubtaskState.isFinal] at h ⊢

theorem StateStep.not_final {kind : SubtaskKind} {x y : SubtaskState}
    (h : StateStep b kind id w x y) : ¬x.isFinal := by
  cases h with
  | declared allowed => exact SubtaskKind.allows_not_final allowed
  | lapse _ held => rcases held with rfl | rfl <;> simp [SubtaskState.isFinal]
  | abandon _ going =>
    rintro (h | h | h | h) <;> exact going (by simp [SubtaskState.isTerminal, h])
  | revive => simp [SubtaskState.isFinal]

/-- A final state is not left. -/
theorem final_kept {kind : SubtaskKind} {x y : SubtaskState} (hx : x.isFinal)
    (h : Relation.ReflTransGen (fun x y => ∃ w ∈ L, StateStep b kind id w x y) x y) : y = x := by
  rcases h.cases_head with heq | ⟨z, ⟨w, -, hstep⟩, -⟩
  · exact heq.symm
  · exact absurd hx hstep.not_final

/-! ## Policies -/

/-- The states that only canonical-apply work goes through. -/
def SubtaskState.isCanonical (x : SubtaskState) : Prop :=
  x = .approved ∨ x = .readyForApply ∨ x = .applied

/-- What the policy and the kind of a subtask rule out in its own row. -/
structure SubtaskRow.Policied (r : SubtaskRow) : Prop where
  direct : r.completionPolicy = .direct → r.artifactDigest = none
  canonical : r.state.isCanonical → r.completionPolicy = .canonicalApply
  cleanup : r.kind = .cleanup → ¬r.state.isFinal

/-- A change to a state that is neither final nor one of the canonical-apply ones. -/
theorem SubtaskRow.Policied.of_state (hr : r.Policied) (hpolicy : r'.completionPolicy = r.completionPolicy)
    (hkind : r'.kind = r.kind)
    (hartifact : r'.artifactDigest = r.artifactDigest ∨ r'.artifactDigest = none)
    (hstate : r'.state = r.state ∨ ¬r'.state.isCanonical ∧ ¬r'.state.isFinal) : r'.Policied where
  direct h := by
    rcases hartifact with hsame | hnone
    · rw [hsame]
      exact hr.direct (hpolicy ▸ h)
    · exact hnone
  canonical h := by
    rw [hpolicy]
    rcases hstate with hsame | ⟨hnot, -⟩
    · exact hr.canonical (hsame ▸ h)
    · exact absurd h hnot
  cleanup h := by
    rcases hstate with hsame | ⟨-, hnot⟩
    · rw [hsame]
      exact hr.cleanup (hkind ▸ h)
    · exact hnot

theorem SubtaskKind.not_cleanup_of_allows {kind : SubtaskKind} {x y : SubtaskState}
    (h : kind.allows x y = true) (hy : y = .completed ∨ y = .failed ∨ y = .decided) :
    kind ≠ .cleanup := by
  rintro rfl
  rcases hy with rfl | rfl | rfl <;> cases x <;> cases h

theorem Edit.policied (h : Edit b now w r r') (hr : r.Policied) : r'.Policied := by
  cases h with
  | @advance _ _ target _ _ _ ready =>
    refine ⟨hr.direct, fun hcanonical => ?_, fun hkind hfinal => ?_⟩
    · rcases hcanonical with rfl | rfl | rfl
      exacts [ready, ready, ready.2.1]
    · rcases hfinal with rfl | rfl | rfl | rfl
      · cases hkind.symm.trans ready.1
      all_goals exact ready
  | publish _ kind policy =>
    refine ⟨fun h => absurd h policy, fun h => ?_, fun hkind => ?_⟩
    · simp [SubtaskState.isCanonical] at h
    · cases hkind.symm.trans kind
  | complete _ allowed =>
    refine ⟨hr.direct, fun h => ?_, fun hkind => ?_⟩
    · simp [SubtaskState.isCanonical] at h
    · exact absurd hkind (SubtaskKind.not_cleanup_of_allows allowed (.inl rfl))
  | retitle => exact hr.of_state rfl rfl (.inl rfl) (.inl rfl)
  | cancel =>
    refine hr.of_state rfl rfl (.inl rfl) ?_
    by_cases hterm : r.state.isTerminal
    · exact .inl (SubtaskRow.cancelled_state_of_terminal hterm)
    · rw [SubtaskRow.cancelled_state hterm]
      exact .inr (by simp [SubtaskState.isCanonical, SubtaskState.isFinal])
  | revive | reopen | strand =>
    exact hr.of_state rfl rfl (.inl rfl)
      (.inr (by simp [SubtaskState.isCanonical, SubtaskState.isFinal]))

theorem Detach.policied (h : Detach now w r r') (hr : r.Policied) : r'.Policied := by
  cases h with
  | lapse =>
    refine hr.of_state rfl rfl (.inl rfl) ?_
    by_cases hheld : r.state = .claimed ∨ r.state = .inProgress
    · rw [show (r.lapsed now).state = .available from if_pos hheld]
      exact .inr (by simp [SubtaskState.isCanonical, SubtaskState.isFinal])
    · exact .inl (if_neg hheld)
  | abandon =>
    exact hr.of_state rfl rfl (.inl rfl)
      (.inr (by simp [SubtaskState.isCanonical, SubtaskState.isFinal]))
  | cancel =>
    refine hr.of_state rfl rfl (.inl rfl) ?_
    by_cases hterm : r.state.isTerminal
    · exact .inl (SubtaskRow.cancelled_state_of_terminal hterm)
    · rw [SubtaskRow.cancelled_state hterm]
      exact .inr (by simp [SubtaskState.isCanonical, SubtaskState.isFinal])
  | @outcome _ kind _ _ _ allowed =>
    refine ⟨hr.direct, fun h => ?_, fun hkind hfinal => ?_⟩
    · cases kind <;> simp [SubtaskState.isCanonical, AttemptOutcomeKind.nextState] at h
    · refine SubtaskKind.not_cleanup_of_allows allowed ?_ hkind
      cases kind <;> simp [SubtaskState.isFinal, AttemptOutcomeKind.nextState] at hfinal ⊢
  | decide _ allowed =>
    refine ⟨hr.direct, fun h => ?_, fun hkind => ?_⟩
    · simp [SubtaskState.isCanonical] at h
    · exact absurd hkind (SubtaskKind.not_cleanup_of_allows allowed (.inr (.inr rfl)))
  | complete _ allowed =>
    refine ⟨hr.direct, fun h => ?_, fun hkind => ?_⟩
    · simp [SubtaskState.isCanonical] at h
    · exact absurd hkind (SubtaskKind.not_cleanup_of_allows allowed (.inl rfl))

theorem RowStep.policied (h : RowStep b now id w r r') (hr : r.Policied) : r'.Policied := by
  cases h with
  | same => exact hr
  | edit edit => exact edit.policied hr
  | detach _ detach => exact detach.policied hr
  | claim =>
    exact hr.of_state rfl rfl (.inr rfl)
      (.inr (by simp [SubtaskState.isCanonical, SubtaskState.isFinal]))
  | apply kind policy =>
    exact ⟨hr.direct, fun _ => policy, fun hkind => by cases hkind.symm.trans kind⟩
  | beginCleanup =>
    exact hr.of_state rfl rfl (.inl rfl)
      (.inr (by simp [SubtaskState.isCanonical, SubtaskState.isFinal]))
  | endCleanup _ _ left =>
    rcases left with rfl | rfl <;>
      exact hr.of_state rfl rfl (.inl rfl)
        (.inr (by simp [SubtaskState.isCanonical, SubtaskState.isFinal]))

/-- Records about artifacts are kept for work whose policy asks for them. -/
structure Policied (b : Board) : Prop where
  row : ∀ {id r}, b.subtask id = some r → r.Policied
  artifact : ∀ {k a}, b.artifact k = some a →
    ∃ r, b.subtask a.producedBySubtaskId = some r ∧ r.completionPolicy ≠ .direct
  review : ∀ {k v}, b.review k = some v →
    ∃ r, b.subtask v.subtaskId = some r ∧ r.completionPolicy ≠ .direct
  queue : ∀ {k q}, b.queue k = some q →
    ∃ r, b.subtask q.subtaskId = some r ∧ r.completionPolicy = .canonicalApply

theorem Policied.move (m : Move now w b b') (hb : Policied b) : Policied b' := by
  -- A subtask keeps its policy.
  have hkeep : ∀ {id} {P : CompletionPolicy → Prop},
      (∃ r, b.subtask id = some r ∧ P r.completionPolicy) →
      ∃ r, b'.subtask id = some r ∧ P r.completionPolicy := by
    rintro id P ⟨r, hr, hp⟩
    obtain ⟨r', hr', hsame⟩ := m.evolves.subtask hr
    exact ⟨r', hr', hsame.policy ▸ hp⟩
  refine ⟨?_, ?_, ?_, ?_⟩
  · intro id r' hr'
    rcases (m.subtask id).of_some' hr' with ⟨r, hr, hstep⟩ | ⟨-, hnew⟩
    · exact hstep.policied (hb.row hr)
    · refine ⟨fun _ => hnew.fresh.artifact, ?_, ?_⟩
      · rw [hnew.fresh.state]
        simp [SubtaskState.isCanonical]
      · rw [hnew.fresh.state]
        simp [SubtaskState.isFinal]
  · intro k a ha
    cases m with
    | lease | apply => exact hkeep (P := (· ≠ .direct)) (hb.artifact ha)
    | ledger m =>
      cases m with
      | artifact _ subtask policy =>
        rcases put_eq_some.mp ha with ⟨-, rfl⟩ | ⟨-, ha⟩
        · exact ⟨_, subtask, policy⟩
        · exact hb.artifact ha
      | _ => exact hb.artifact ha
  · intro k v hv
    cases m with
    | lease | apply => exact hkeep (P := (· ≠ .direct)) (hb.review hv)
    | ledger m =>
      cases m with
      | review _ _ subtask policy =>
        rcases put_eq_some.mp hv with ⟨-, rfl⟩ | ⟨-, hv⟩
        · exact ⟨_, subtask, policy⟩
        · exact hb.review hv
      | reviews evolved =>
        obtain ⟨v₀, hv₀, rfl | ⟨-, -, hsame⟩⟩ := rel_of_some' (evolved k) hv
        · exact hb.review hv₀
        · rw [hsame.subtask]
          exact hb.review hv₀
      | verdict current _ same =>
        rcases put_eq_some.mp hv with ⟨-, rfl⟩ | ⟨-, hv⟩
        · rw [same.subtask]
          exact hb.review current
        · exact hb.review hv
      | _ => exact hb.review hv
  · intro k q hq
    cases m with
    | lease => exact hkeep (P := (· = .canonicalApply)) (hb.queue hq)
    | apply queued =>
      rcases put_eq_some.mp hq with ⟨-, rfl⟩ | ⟨-, hq⟩
      · obtain ⟨r, hr, hpolicy⟩ := hb.queue queued
        exact hkeep (P := (· = .canonicalApply)) ⟨r, hr, hpolicy⟩
      · exact hkeep (P := (· = .canonicalApply)) (hb.queue hq)
    | ledger m =>
      cases m with
      | enqueue _ _ _ subtask policy =>
        rcases put_eq_some.mp hq with ⟨-, rfl⟩ | ⟨-, hq⟩
        · exact ⟨_, subtask, policy⟩
        · exact hb.queue hq
      | queue evolved =>
        obtain ⟨q₀, hq₀, hstep⟩ := rel_of_some' (evolved k) hq
        rw [hstep.subtask]
        exact hb.queue hq₀
      | _ => exact hb.queue hq

/-! ## Dependencies -/

/-- A settled subtask stays settled. -/
theorem SubtaskRow.settled_kept (hr : r.settled) (hkind : r'.kind = r.kind)
    (hpolicy : r'.completionPolicy = r.completionPolicy) (hstate : r'.state = r.state) :
    r'.settled := by
  unfold SubtaskRow.settled at hr ⊢
  rwa [hkind, hpolicy, hstate]

theorem SubtaskRow.settled.final (hr : r.settled) : r.state.isFinal := by
  rcases hr with ⟨-, h⟩ | ⟨-, h⟩ | ⟨-, h⟩ <;> simp [SubtaskState.isFinal, h]

/-- A dependency that is satisfied stays satisfied: no settled subtask is touched again, and no
    follow-up record is taken back. -/
theorem Steps.satisfied (h : Steps L now b b') (hL : .misname ∉ L) (hc : Coherent b.toLeases)
    (hk : Keyed b) (hp : Policied b) (hsat : Satisfied b id) : Satisfied b' id := by
  obtain ⟨x, r, hchain, hr, hsettled⟩ := hsat
  have hkind : r.kind ≠ .cleanup := fun hcleanup => (hp.row hr).cleanup hcleanup hsettled.final
  obtain ⟨r', hr', hkind', hpath⟩ := h.states hL hc hk hr hkind
  obtain ⟨r'', hr'', hsame⟩ := h.evolves.subtask hr
  obtain rfl : r' = r'' := Option.some.inj (hr'.symm.trans hr'')
  refine ⟨x, r', Relation.ReflTransGen.mono ?_ _ _ hchain, hr',
    SubtaskRow.settled_kept hsettled hkind' hsame.policy (final_kept hsettled.final hpath)⟩
  rintro x y ⟨k, f, hf, hsource, htarget⟩
  exact ⟨k, f, h.evolves.followup hf, hsource, htarget⟩

/-! ## What the loader accepts -/

/-- Nobody holds a subtask in this state. -/
def SubtaskState.isFree (x : SubtaskState) : Prop :=
  x = .available ∨ x = .blocked ∨ x = .decided ∨ x = .completed ∨ x = .failed ∨ x = .abandoned

/-- Work in this state has an artifact. -/
def SubtaskState.isPublished (x : SubtaskState) : Prop :=
  x = .blocked ∨ x = .artifactPublished ∨ x = .reviewPending ∨ x = .changesRequested ∨
    x = .approved ∨ x = .readyForApply ∨ x = .applied

/-- A subtask in this state has no artifact. -/
def SubtaskState.isBare (x : SubtaskState) : Prop :=
  x = .available ∨ x = .claimed ∨ x = .inProgress ∨ x = .decided ∨ x = .failed

/-- What the typed loader asks of a subtask row, and what makes that an invariant: only work has
    an artifact, and no row is from later than `t`. -/
structure SubtaskRow.Shaped (t : ℤ) (r : SubtaskRow) : Prop where
  held : r.state = .claimed ∨ r.state = .inProgress → r.currentClaimId.isSome
  free : r.state.isFree → r.currentClaimId = none
  published : r.state.isPublished → r.artifactDigest.isSome
  bare : r.state.isBare → r.artifactDigest = none
  work : r.kind ≠ .work → r.artifactDigest = none ∧ ¬r.state.isPublished ∧
    r.state ≠ .completed ∧ r.state ≠ .failed
  decided : r.state = .decided → r.kind = .review
  direct : r.completionPolicy = .direct → r.artifactDigest = none
  canonical : r.state.isCanonical → r.completionPolicy = .canonicalApply
  failed : r.state = .failed → r.completionPolicy = .direct
  completed : r.state = .completed → r.completionPolicy ≠ .canonicalApply ∧
    (r.completionPolicy = .reviewed → r.artifactDigest.isSome)
  ordered : r.createdAt ≤ r.updatedAt
  recent : r.createdAt ≤ t

namespace SubtaskRow.Shaped

variable {t : ℤ}

theorem mono {t' : ℤ} (h : r.Shaped t) (ht : t ≤ t') : r.Shaped t' :=
  { h with recent := h.recent.trans ht }

theorem of_fresh (h : r.Fresh t) : r.Shaped t := by
  obtain ⟨hstate, hclaim, hartifact, hcreated, hupdated⟩ := h
  constructor <;> simp [hstate, hclaim, hartifact, hcreated, hupdated, SubtaskState.isFree,
    SubtaskState.isPublished, SubtaskState.isBare, SubtaskState.isCanonical]

theorem lifecycle_ok (h : r.Shaped t) : r.lifecycle = .ok () := by
  have hheld := h.held
  have hfree := h.free
  have hpublished := h.published
  have hbare := h.bare
  simp only [SubtaskState.isFree, SubtaskState.isPublished, SubtaskState.isBare] at hfree hpublished hbare
  unfold SubtaskRow.lifecycle
  cases hs : r.state <;> simp_all

theorem allowedForKind_ok (h : r.Shaped t) : r.allowedForKind = .ok () := by
  have hwork := h.work
  have hdecided := h.decided
  unfold SubtaskRow.allowedForKind
  cases hk : r.kind <;> cases hs : r.state <;> simp_all [SubtaskState.isPublished]

theorem allowedForCompletionPolicy_ok (h : r.Shaped t) : r.allowedForCompletionPolicy = .ok () := by
  have hdirect := h.direct
  have hcanonical := h.canonical
  have hfailed := h.failed
  have hcompleted := h.completed
  unfold SubtaskRow.allowedForCompletionPolicy
  cases hp : r.completionPolicy <;> cases hs : r.state <;> simp_all [SubtaskState.isCanonical]

theorem loads (h : r.Shaped t) : r.Loads :=
  SubtaskRow.loads_iff.mpr ⟨h.lifecycle_ok, h.allowedForKind_ok,
    fun _ => h.allowedForCompletionPolicy_ok, h.ordered⟩

/-- A subtask that is let go: what it becomes holds no claim. -/
theorem letGo {target : SubtaskState} (h : r.Shaped now) (hfree : target.isFree)
    (hbare : target.isBare → r.artifactDigest = none)
    (hpublished : target.isPublished → r.artifactDigest.isSome ∧ r.kind = .work)
    (hdecided : target = .decided → r.kind = .review)
    (hfailed : target = .failed → r.completionPolicy = .direct ∧ r.kind = .work)
    (hcompleted : target = .completed → r.kind = .work ∧ r.completionPolicy ≠ .canonicalApply ∧
      (r.completionPolicy = .reviewed → r.artifactDigest.isSome)) :
    SubtaskRow.Shaped now
      { r with state := target, currentClaimId := none, updatedAt := now } where
  held hheld := by
    rcases hheld with rfl | rfl <;> simp [SubtaskState.isFree] at hfree
  free _ := rfl
  published hp := (hpublished hp).1
  bare := hbare
  work hkind := ⟨(h.work hkind).1, fun hp => hkind (hpublished hp).2,
    fun hc => hkind (hcompleted hc).1, fun hf => hkind (hfailed hf).2⟩
  decided := hdecided
  direct := h.direct
  canonical hc := by
    rcases hc with rfl | rfl | rfl <;> simp [SubtaskState.isFree] at hfree
  failed hf := (hfailed hf).1
  completed hc := (hcompleted hc).2
  ordered := h.recent
  recent := h.recent

/-- Work whose artifact moves on. -/
theorem moveOn {target : SubtaskState} {digest : Option ArtifactDigest} (h : r.Shaped now)
    (htarget : target.isPublished) (hkind : r.kind = .work) (hdigest : digest.isSome)
    (hpolicy : r.completionPolicy ≠ .direct)
    (hcanonical : target.isCanonical → r.completionPolicy = .canonicalApply)
    (hblocked : target = .blocked → r.currentClaimId = none) :
    SubtaskRow.Shaped now
      { r with artifactDigest := digest, state := target, updatedAt := now } where
  held hheld := by
    rcases hheld with rfl | rfl <;> simp [SubtaskState.isPublished] at htarget
  free hfree := by
    refine hblocked ?_
    rcases htarget with rfl | rfl | rfl | rfl | rfl | rfl | rfl <;>
      simp [SubtaskState.isFree] at hfree ⊢
  published _ := hdigest
  bare hbare := by
    rcases htarget with rfl | rfl | rfl | rfl | rfl | rfl | rfl <;>
      simp [SubtaskState.isBare] at hbare
  work hne := absurd hkind hne
  decided hd := by subst hd; simp [SubtaskState.isPublished] at htarget
  direct hd := absurd hd hpolicy
  canonical := hcanonical
  failed hf := by subst hf; simp [SubtaskState.isPublished] at htarget
  completed hc := by subst hc; simp [SubtaskState.isPublished] at htarget
  ordered := h.recent
  recent := h.recent

/-- A subtask that loses its claim in a state that needs none. -/
theorem unclaimed (h : r.Shaped now) (hstate : ¬(r.state = .claimed ∨ r.state = .inProgress)) :
    SubtaskRow.Shaped now { r with currentClaimId := none, updatedAt := now } :=
  { h with
    held := fun hheld => absurd hheld hstate
    free := fun _ => rfl
    ordered := h.recent }

theorem abandoned (h : r.Shaped now) :
    SubtaskRow.Shaped now
      { r with state := .abandoned, currentClaimId := none, updatedAt := now } := by
  apply h.letGo <;> simp [SubtaskState.isFree, SubtaskState.isBare, SubtaskState.isPublished]

theorem available (h : r.Shaped now) (hartifact : r.artifactDigest = none) :
    SubtaskRow.Shaped now
      { r with state := .available, currentClaimId := none, updatedAt := now } := by
  apply h.letGo <;> simp [SubtaskState.isFree, SubtaskState.isPublished, hartifact]

theorem cancelled (h : r.Shaped now) : (r.cancelled now).Shaped now := by
  unfold SubtaskRow.cancelled
  by_cases hterm : r.state.isTerminal
  · rw [if_pos hterm]
    refine h.unclaimed ?_
    rintro (hs | hs) <;> simp [hs, SubtaskState.isTerminal] at hterm
  · rw [if_neg hterm]
    exact h.abandoned

theorem lapsed (h : r.Shaped now) : (r.lapsed now).Shaped now := by
  unfold SubtaskRow.lapsed
  by_cases hheld : r.state = .claimed ∨ r.state = .inProgress
  · rw [if_pos hheld]
    refine h.available (h.bare ?_)
    rcases hheld with hs | hs <;> simp [hs, SubtaskState.isBare]
  · rw [if_neg hheld]
    exact h.unclaimed hheld

end SubtaskRow.Shaped

theorem SubtaskKind.allows_inProgress {kind : SubtaskKind} {x : SubtaskState}
    (h : kind.allows x .inProgress = true) : x = .claimed := by
  cases kind <;> cases x <;> cases h <;> rfl

/-- A change to a state of published work starts from one, the publication itself apart. -/
theorem SubtaskKind.allows_published {kind : SubtaskKind} {x y : SubtaskState}
    (h : kind.allows x y = true) (hy : y.isPublished) (hfirst : y ≠ .artifactPublished)
    (hkind : y = .applied → kind = .work) : kind = .work ∧ x.isPublished := by
  unfold SubtaskKind.allows at h
  split at h <;> simp [SubtaskState.isPublished] at h hy hfirst hkind ⊢

theorem SubtaskKind.allows_completed {kind : SubtaskKind} {x y : SubtaskState}
    (h : kind.allows x y = true) (hy : y = .completed ∨ y = .failed) : kind = .work := by
  rcases hy with rfl | rfl <;> cases kind <;> cases x <;> cases h <;> rfl

theorem SubtaskKind.allows_decided {kind : SubtaskKind} {x : SubtaskState}
    (h : kind.allows x .decided = true) : kind = .review ∧ x = .inProgress := by
  cases kind <;> cases x <;> cases h <;> exact ⟨rfl, rfl⟩

theorem ReadyFor.published {target : SubtaskState} (h : ReadyFor b r target)
    (hne : target ≠ .inProgress) : target.isPublished ∧ target ≠ .artifactPublished := by
  cases target <;> simp [ReadyFor, SubtaskState.isPublished] at h hne ⊢

namespace SubtaskRow.Shaped

/-- A start: the claimed subtask keeps its claim. -/
theorem started (h : r.Shaped now) (hstate : r.state = .claimed) :
    SubtaskRow.Shaped now { r with state := .inProgress, updatedAt := now } := by
  have hbare := h.bare (.inr (.inl hstate))
  refine { h with
    held := fun _ => h.held (.inl hstate), bare := fun _ => hbare, ordered := h.recent
    free := ?_, published := ?_, work := ?_, decided := ?_, canonical := ?_, failed := ?_
    completed := ?_ } <;>
    simp [SubtaskState.isFree, SubtaskState.isPublished, SubtaskState.isCanonical, hbare]

theorem completedWork (h : r.Shaped now) (hkind : r.kind = .work)
    (hpolicy : r.completionPolicy ≠ .canonicalApply)
    (hartifact : r.completionPolicy = .reviewed → r.artifactDigest.isSome) :
    SubtaskRow.Shaped now
      { r with state := .completed, currentClaimId := none, updatedAt := now } := by
  apply h.letGo <;> simp_all [SubtaskState.isFree, SubtaskState.isBare, SubtaskState.isPublished]

end SubtaskRow.Shaped

theorem Edit.shaped (h : Edit b now w r r') (hw : w ≠ .strand) (hr : r.Shaped now) :
    r'.Shaped now := by
  cases h with
  | @advance _ _ target _ _ allowed ready =>
    by_cases htarget : target = .inProgress
    · subst htarget
      exact hr.started (SubtaskKind.allows_inProgress allowed)
    · obtain ⟨hpublished, hfirst⟩ := ready.published htarget
      obtain ⟨hkind, hfrom⟩ := SubtaskKind.allows_published allowed hpublished hfirst
        fun happlied => by subst happlied; exact ready.1
      have hartifact := hr.published hfrom
      have hpolicy : r.completionPolicy ≠ .direct := fun hdirect => by
        simp [hr.direct hdirect] at hartifact
      refine hr.moveOn hpublished hkind hartifact hpolicy (fun hcanonical => ?_) fun hblocked => ?_
      · rcases hcanonical with rfl | rfl | rfl
        exacts [ready, ready, ready.2.1]
      · subst hblocked
        exact ready
  | publish _ kind policy =>
    exact hr.moveOn (.inr (.inl rfl)) kind rfl policy (by simp [SubtaskState.isCanonical]) (by simp)
  | complete _ allowed policy artifact =>
    exact hr.completedWork (SubtaskKind.allows_completed allowed (.inl rfl)) (by simp [policy])
      fun _ => artifact
  | retitle => exact { hr with ordered := hr.recent }
  | revive _ revivable =>
    have h := hr.available revivable.2.2
    rw [← revivable.2.1] at h
    exact h
  | cancel => exact hr.cancelled
  | reopen kind => exact hr.available (hr.work (by simp [kind])).1
  | strand => exact absurd rfl hw

theorem Detach.shaped (h : Detach now w r r') (hr : r.Shaped now) : r'.Shaped now := by
  cases h with
  | lapse => exact hr.lapsed
  | abandon => exact hr.abandoned
  | cancel => exact hr.cancelled
  | @outcome _ kind _ policy started allowed =>
    have hbare := hr.bare (by simp [started, SubtaskState.isBare])
    cases kind with
    | succeeded =>
      exact hr.completedWork (SubtaskKind.allows_completed allowed (.inl rfl)) (by simp [policy])
        (by simp [policy])
    | retryableFailure => exact hr.available hbare
    | terminalFailure =>
      have hkind := SubtaskKind.allows_completed allowed (.inr rfl)
      apply hr.letGo <;>
        simp [AttemptOutcomeKind.nextState, SubtaskState.isFree, SubtaskState.isPublished, hbare,
          policy, hkind]
  | decide _ allowed =>
    obtain ⟨hkind, hstate⟩ := SubtaskKind.allows_decided allowed
    have hbare := hr.bare (by simp [hstate, SubtaskState.isBare])
    apply hr.letGo <;> simp [SubtaskState.isFree, SubtaskState.isPublished, hbare, hkind]
  | complete _ allowed policy artifact =>
    exact hr.completedWork (SubtaskKind.allows_completed allowed (.inl rfl)) (by simp [policy])
      fun _ => artifact

/-- What a move does to a row that is not from later keeps its shape, unless it blocks work whose
    producer still holds it. -/
theorem RowStep.shaped (h : RowStep b now id w r r') (hw : w ≠ .strand) (hr : r.Shaped now)
    (hnamed : ReservedId id → r.kind = .cleanup) (ha : Anchored b.toLeases) : r'.Shaped now := by
  -- The cleanup subtasks never carry an artifact.
  have hcleanup : ReservedId id → r.artifactDigest = none := fun hres =>
    (hr.work (by simp [hnamed hres])).1
  cases h with
  | same => exact hr
  | edit edit => exact edit.shaped hw hr
  | detach _ detach => exact detach.shaped hr
  | claim _ allowed =>
    constructor <;>
      simp [SubtaskState.isFree, SubtaskState.isPublished, SubtaskState.isCanonical, hr.recent]
  | apply kind policy ready =>
    have hartifact := hr.published (by simp [ready, SubtaskState.isPublished])
    exact hr.moveOn (by simp [SubtaskState.isPublished]) kind hartifact (by simp [policy])
      (fun _ => policy) (by simp)
  | beginCleanup reserved available free =>
    have hbare := hcleanup reserved
    refine { hr with
      held := fun _ => rfl, bare := fun _ => hbare, ordered := hr.recent
      free := ?_, published := ?_, work := ?_, decided := ?_, canonical := ?_, failed := ?_
      completed := ?_ } <;>
      simp [SubtaskState.isFree, SubtaskState.isPublished, SubtaskState.isCanonical, hbare]
  | endCleanup recorded _ left =>
    obtain ⟨k, row, hrow, rfl⟩ := recorded
    have hbare := hcleanup ⟨k, (ha.cleanup hrow).1⟩
    rcases left with rfl | rfl
    · exact hr.available hbare
    · exact hr.abandoned

end Rows

/-! ## Runs -/

/-- The operations that let a claim lapse: its release, the expiry of claims on its own or on the
    way of a new claim, the reaping of stale sessions and the exit of a session. -/
def Operation.Lapses : Operation → Prop
  | .releaseClaim _ | .expireOldClaims | .claimSubtask _ | .claimNextSubtask _
  | .claimNextRoutedSubtask _ | .reapStaleSessions _ | .exitSession _ => True
  | _ => False

/-- The operations that abandon subtasks. -/
def Operation.Abandons : Operation → Prop
  | .abandonSubtask _ | .cancelMetaTask _ => True
  | _ => False

/-- The operations that revive abandoned follow-ups. -/
def Operation.Revives : Operation → Prop
  | .claimNextSubtask _ | .claimNextRoutedSubtask _ | .reconcileChangesRequestedFollowups _ => True
  | _ => False

/-- One change of state that an operation makes to a work or review subtask. -/
inductive Operation.Transition (op : Operation) (b : Board) (kind : SubtaskKind) (id : SubtaskId) :
    SubtaskState → SubtaskState → Prop
  | declared {x y : SubtaskState} (allowed : kind.allows x y = true) : op.Transition b kind id x y
  | lapse {x : SubtaskState} (lapses : op.Lapses) (held : x = .claimed ∨ x = .inProgress) :
      op.Transition b kind id x .available
  | abandon {x : SubtaskState} (abandons : op.Abandons) (going : ¬x.isTerminal) :
      op.Transition b kind id x .abandoned
  | revive (revives : op.Revives)
      (followup : ∃ k f, b.followup k = some f ∧ f.followupSubtaskId = id) :
      op.Transition b kind id .abandoned .available

section Runs

variable {env : Env} {s : Db} {c : Call} {calls : List Call}

theorem Operation.lapses_of_mem {op : Operation} (h : .lapse ∈ op.writes) : op.Lapses := by
  cases op <;> simp [Operation.writes, Operation.Lapses] at h ⊢

theorem Operation.abandons_of_mem {op : Operation} (h : .abandon ∈ op.writes) : op.Abandons := by
  cases op <;> simp [Operation.writes, Operation.Abandons] at h ⊢

theorem Operation.revives_of_mem {op : Operation} (h : .revive ∈ op.writes) : op.Revives := by
  cases op <;> simp [Operation.writes, Operation.Revives] at h ⊢

theorem Call.mem_writes {w : Write} (h : w ∈ c.writes env s) (hmis : w ≠ .misname)
    (hstrand : w ≠ .strand) (hreuse : w ≠ .reuse) : w ∈ c.op.writes := by
  rcases h with ((h | ⟨h, -⟩) | ⟨h, -⟩) | ⟨h, -⟩
  exacts [h, absurd h hmis, absurd h hstrand, absurd h hreuse]

theorem StateStep.transition {b : Board} {kind : SubtaskKind} {id : SubtaskId} {w : Write}
    {x y : SubtaskState} (h : StateStep b kind id w x y) (hw : w ∈ c.writes env s) :
    c.op.Transition b kind id x y := by
  cases h with
  | declared allowed => exact .declared allowed
  | lapse label held =>
    subst label
    exact .lapse (Operation.lapses_of_mem (Call.mem_writes hw (by simp) (by simp) (by simp))) held
  | abandon label going =>
    subst label
    exact .abandon (Operation.abandons_of_mem (Call.mem_writes hw (by simp) (by simp) (by simp)))
      going
  | revive label followup =>
    subst label
    exact .revive (Operation.revives_of_mem (Call.mem_writes hw (by simp) (by simp) (by simp)))
      followup

theorem init_policied : Policied Db.init.board where
  row h := nomatch h
  artifact h := nomatch h
  review h := nomatch h
  queue h := nomatch h

theorem reach_policied (hrun : Run.Along (next env) Call.Fresh Db.init calls) :
    Policied (reach env calls).board :=
  (Run.invariant (I := fun s => Anchored s.board.toLeases ∧ Policied s.board)
    (fun _ _ hc h => ⟨next_anchored hc h.1, hc.invariant h.1 (fun m h => h.move m) h.2⟩)
    hrun ⟨init_anchored, init_policied⟩).2

/-- Direct work has no artifact, no review and no queue row; reviewed work has no queue row and is
    never in a state of the apply path. -/
structure PoliciesRespected (b : Board) : Prop where
  direct : ∀ {id r}, b.subtask id = some r → r.completionPolicy = .direct →
    r.artifactDigest = none ∧ (∀ k a, b.artifact k = some a → a.producedBySubtaskId ≠ id) ∧
      (∀ k v, b.review k = some v → v.subtaskId ≠ id) ∧
      ∀ k q, b.queue k = some q → q.subtaskId ≠ id
  reviewed : ∀ {id r}, b.subtask id = some r → r.completionPolicy = .reviewed →
    (∀ k q, b.queue k = some q → q.subtaskId ≠ id) ∧
      r.state ≠ .approved ∧ r.state ≠ .readyForApply ∧ r.state ≠ .applied

theorem Policied.respected {b : Board} (h : Policied b) : PoliciesRespected b where
  direct {id r} hr hpolicy := by
    refine ⟨(h.row hr).direct hpolicy, fun k a ha hid => ?_, fun k v hv hid => ?_,
      fun k q hq hid => ?_⟩
    · obtain ⟨r', hr', hne⟩ := h.artifact ha
      rw [hid, hr] at hr'
      cases hr'
      exact hne hpolicy
    · obtain ⟨r', hr', hne⟩ := h.review hv
      rw [hid, hr] at hr'
      cases hr'
      exact hne hpolicy
    · obtain ⟨r', hr', hcanonical⟩ := h.queue hq
      rw [hid, hr] at hr'
      cases hr'
      cases hpolicy.symm.trans hcanonical
  reviewed {id r} hr hpolicy := by
    have hstate : ¬r.state.isCanonical := fun hc => by
      cases hpolicy.symm.trans ((h.row hr).canonical hc)
    refine ⟨fun k q hq hid => ?_, fun hs => hstate (.inl hs), fun hs => hstate (.inr (.inl hs)),
      fun hs => hstate (.inr (.inr hs))⟩
    obtain ⟨r', hr', hcanonical⟩ := h.queue hq
    rw [hid, hr] at hr'
    cases hr'
    cases hpolicy.symm.trans hcanonical

theorem Call.Proper.along_fresh (hrun : Run.Along (next env) Call.Proper Db.init calls) :
    Run.Along (next env) Call.Fresh Db.init calls :=
  hrun.mono fun _ _ h => h.1

theorem strand_notMem_writes (h : ¬c.Strands env s) : .strand ∉ c.writes env s := by
  rintro (((hw | ⟨hw, -⟩) | ⟨-, hstrand⟩) | ⟨hw, -⟩)
  · cases hop : c.op <;> simp [hop, Operation.writes] at hw
  · cases hw
  · exact h hstrand
  · cases hw

/-- A proper call that strands no work keeps the shape of every row that is not from later. -/
theorem next_shaped (hproper : c.Proper s) (hstrand : ¬c.Strands env s)
    (hcoherent : Coherent s.board.toLeases)
    (h : ∀ id r, s.board.subtask id = some r → r.Shaped c.now) :
    ∀ id r, (next env s c).board.subtask id = some r → r.Shaped c.now := by
  refine (Steps.invariant (I := fun b => Coherent b.toLeases ∧
      ∀ id r, b.subtask id = some r → r.Shaped c.now) (fun {w b b'} hw m hI => ?_)
    (next_moves hproper.1 hcoherent.anchored) ⟨hcoherent, h⟩).2
  obtain ⟨hc, hshaped⟩ := hI
  refine ⟨hc.move m fun hmis => misname_notMem_writes hproper.2 (hmis ▸ hw), fun id r' hr' => ?_⟩
  rcases (m.subtask id).of_some' hr' with ⟨r, hr, hstep⟩ | ⟨-, hnew⟩
  · exact hstep.shaped (fun hst => strand_notMem_writes hstrand (hst ▸ hw)) (hshaped id r hr)
      (hc.named hr) hc.anchored
  · exact .of_fresh hnew.fresh

/-- In every run under a clock that does not go back, in which no caller gives a reserved id to
    work or to a review and no verdict blocks work that its producer still holds, every subtask
    row is one that the typed loader accepts. -/
theorem subtasks_load
    (hrun : Run.Along (next env) (fun s c => c.Proper s ∧ ¬c.Strands env s) Db.init calls)
    (hclock : calls.Pairwise fun c c' => c.now ≤ c'.now) :
    ∀ id r, (reach env calls).subtasks.get? id = some r → r.Loads := by
  intro id r hr
  -- The rows are at most as old as the last call; in front of the first call there is none.
  obtain ⟨t, hle⟩ : ∃ t, ∀ c ∈ calls, t ≤ c.now := by
    cases calls with
    | nil => exact ⟨0, by simp⟩
    | cons c rest =>
      refine ⟨c.now, fun c' hc' => ?_⟩
      rcases List.mem_cons.mp hc' with rfl | hc'
      · exact le_refl _
      · exact (List.pairwise_cons.mp hclock).1 c' hc'
  have hstep : ∀ s c, (c.Proper s ∧ ¬c.Strands env s) →
      (Coherent s.board.toLeases ∧ ∀ id r, s.board.subtask id = some r → r.Shaped c.now) →
      Coherent (next env s c).board.toLeases ∧
        ∀ id r, (next env s c).board.subtask id = some r → r.Shaped c.now :=
    fun s c hc h => ⟨next_coherent hc.1 h.1, next_shaped hc.1 hc.2 h.1 h.2⟩
  obtain ⟨t', -, -, -, hshaped⟩ := Run.invariant_timed
    (I := fun (t : ℤ) (s : Db) => Coherent s.board.toLeases ∧
      ∀ id r, s.board.subtask id = some r → r.Shaped t)
    (fun _ _ _ ht h => ⟨h.1, fun id r hr => (h.2 id r hr).mono ht⟩) hstep hrun hclock hle
    ⟨init_coherent, fun _ _ h => nomatch h⟩
  exact (hshaped id r hr).loads

end Runs

section Scripts

open Script

/-- The executor of the started work lets it go. -/
def letGo : Call := ⟨release (session 1) (claim 4) (fence 0) (text "6"), 6, uuid 6⟩

theorem letGo_run : Run.Along (next env) Call.Proper Db.init (started ++ [letGo]) ∧
    ((reach env (started ++ [letGo])).board.subtask (text "a")).map (·.state) =
      some .available := by
  decide +kernel

theorem subtasks_load_started :
    Run.Along (next env) (fun s c => c.Proper s ∧ ¬c.Strands env s) Db.init started ∧
      (started.Pairwise fun c c' => c.now ≤ c'.now) ∧
      ((reach env started).subtasks.get? (text "a")).isSome ∧
      ∀ id r, (reach env started).subtasks.get? id = some r → r.Loads := by
  have hnone : ∀ c ∈ started, c.op.blocks = none := by
    simp [started, calls, register, submit, create, take, start, Operation.blocks]
  have hrun : Run.Along (next env) (fun s c => c.Proper s ∧ ¬c.Strands env s) Db.init started := by
    refine started_run.1.and (Run.along_iff.mpr ?_)
    rintro before c rest hsplit ⟨-, id, hid, -⟩
    rw [hnone c (by simp [hsplit])] at hid
    cases hid
  have hclock : started.Pairwise fun c c' => c.now ≤ c'.now := by decide +kernel
  obtain ⟨r, hr, -⟩ := Option.map_eq_some_iff.mp started_run.2
  exact ⟨hrun, hclock, Option.isSome_of_eq_some hr, subtasks_load hrun hclock⟩

/-- The reviewer blocks the work `a` while its producer still holds it. -/
def blockedHeld : List Call :=
  calls (underReview .canonicalApply ++
    [(9, judge (session 2) (review 8) (claim 9) (fence 0) .blocked)])

/-- The verdict is accepted, and no later load accepts the work's row. -/
theorem blockedHeld_unloadable :
    Run.Along (next env) (fun s c => c.Proper s ∧ c.Commits env s) Db.init blockedHeld ∧
      (blockedHeld.Pairwise fun c c' => c.now ≤ c'.now) ∧
      ∃ r ∈ (reach env blockedHeld).subtasks.get? (text "a"), r.load.isOk = false := by
  decide +kernel

end Scripts

end Covey

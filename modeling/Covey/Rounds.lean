import Covey.Cleanups
import Covey.Runs.Claims

/-!
# Review rounds

A review is a row of its own beside the work that it judges and the review subtask that a
reviewer claims. Within one operation the three are changed one after another, so that a
fact about all of them holds between operations only. This module says what whole
operations do to them.

* `Rounds`: the subtasks, reviews, claims and artifacts of a store.
* `Calm`: a change that leaves the reviews, and the progress of their subtasks, alone.
* `RoundMove`: such a change, or the expiry of a claim.
* `Call.Turn`: what a call does.
-/

namespace Covey

open Relational

/-- Subtasks, reviews, claims and the digests of artifacts. -/
structure Rounds where
  subtask : SubtaskId → Option SubtaskRow
  review : ReviewId → Option ReviewRow
  claim : ClaimId → Option ClaimRow
  known : ArtifactDigest → Prop

def Board.rounds (b : Board) : Rounds :=
  ⟨b.subtask, b.review, b.claim, fun digest => (b.artifact digest).isSome⟩

def Db.rounds (s : Db) : Rounds := s.board.rounds

variable {now : ℤ} {w : Write} {b b' : Board} {x x' : Rounds}

/-! ## Calm changes -/

/-- A change of a subtask that no review is concerned with: a claim, the progress of work that
    is not in review, or anything that a cleanup does to its subtask. -/
inductive CalmRow (r r' : SubtaskRow) : Prop
  | same (state : r'.state = r.state) (artifact : r'.artifactDigest = r.artifactDigest)
      (claim : r'.currentClaimId = r.currentClaimId)
  | claim (available : r.state = .available) (claimed : r'.state = .claimed)
  | work (kind : r.kind = .work) (idle : r.state ≠ .reviewPending) (idle' : r'.state ≠ .reviewPending)
      (bare : r.state = .abandoned → r.artifactDigest = none)
  | cleanup (kind : r.kind = .cleanup)

/-- A subtask changes calmly and stays of its kind and meta-task. -/
def CalmStep (r r' : SubtaskRow) : Prop :=
  CalmRow r r' ∧ r'.kind = r.kind ∧ r'.metaTaskId = r.metaTaskId

theorem CalmStep.refl (r : SubtaskRow) : CalmStep r r := ⟨.same rfl rfl rfl, rfl, rfl⟩

/-- Work or a cleanup as it is created. -/
def CalmNew (r : SubtaskRow) : Prop :=
  r.kind = .work ∧ r.state = .available ∨ r.kind = .cleanup

/-- A change that leaves the reviews and the progress of their subtasks alone: a review subtask
    is claimed at most, and the claims on it stay their owners'. -/
structure Calm (x x' : Rounds) : Prop where
  review : x'.review = x.review
  known : ∀ {digest}, x.known digest → x'.known digest
  subtask : ∀ id, Change CalmStep CalmNew (x.subtask id) (x'.subtask id)
  owner : ∀ {k c t}, x.claim k = some c → x.subtask c.subtaskId = some t → t.kind = .review →
    ∃ c', x'.claim k = some c' ∧ c'.ownerSessionToken = c.ownerSessionToken

/-- The labels of calm moves. -/
def Write.IsCalm (w : Write) : Prop :=
  w = .declared ∨ w = .attempt ∨ w = .revive ∨ w = .cleanup ∨ w = .reuse

theorem Calm.of_subtasks (review : x'.review = x.review)
    (known : ∀ {digest}, x.known digest → x'.known digest) (claim : x'.claim = x.claim)
    (subtask : ∀ id, Change CalmStep CalmNew (x.subtask id) (x'.subtask id)) : Calm x x' where
  review := review
  known := known
  subtask := subtask
  owner h _ _ := ⟨_, (congrFun claim _).trans h, rfl⟩

theorem Calm.refl (x : Rounds) : Calm x x :=
  .of_subtasks rfl id rfl fun _ => Change.same CalmStep.refl _

/-- The edits of calm moves. -/
theorem Edit.calm {r r' : SubtaskRow} (h : Edit b now w r r') (hw : w.IsCalm) : CalmStep r r' := by
  cases h with
  | @advance _ r target label loads allowed =>
    refine ⟨?_, rfl, rfl⟩
    subst label
    unfold advanceLabel at hw
    split at hw
    · -- Work that is ready for apply has been approved.
      cases hk : r.kind <;> cases hs : r.state <;>
        simp [hk, hs, SubtaskKind.allows] at allowed
      exact .work hk (by simp [hs]) (by simp) (by simp [hs])
    · cases hk : r.kind with
      | work =>
        cases hs : r.state <;> simp [hk, hs, SubtaskKind.allows] at allowed
        exact .work hk (by simp [hs]) (by simp) (by simp [hs])
      | review => simp [hk, Write.IsCalm] at hw
      | cleanup => exact .cleanup hk
    · simp [Write.IsCalm] at hw
  | publish | complete | cancel | strand => simp [Write.IsCalm] at hw
  | retitle => exact ⟨.same rfl rfl rfl, rfl, rfl⟩
  | revive kind revivable =>
    refine ⟨.work kind ?_ (by simp) fun _ => revivable.2.2, rfl, rfl⟩
    rw [revivable.1]
    decide
  | reopen kind => exact ⟨.cleanup kind, rfl, rfl⟩

/-- Only a direct attempt ends by a calm move. -/
theorem Detach.calm {r r' : SubtaskRow} (h : Detach now w r r') (hw : w.IsCalm) :
    CalmStep r r' := by
  cases h with
  | lapse | abandon | cancel | decide | complete => simp [Write.IsCalm] at hw
  | @outcome r kind loads policy started allowed =>
    have hkind : r.kind = .work := by
      cases hk : r.kind <;> cases kind <;>
        simp [hk, started, SubtaskKind.allows, AttemptOutcomeKind.nextState] at allowed ⊢
    refine ⟨.work hkind ?_ ?_ ?_, rfl, rfl⟩
    · rw [started]
      decide
    · cases kind <;> simp [AttemptOutcomeKind.nextState]
    · simp [started]

/-- A claim that is written over keeps its owner. -/
theorem owner_put {f : ClaimId → Option ClaimRow} {c₀ c₁ c : ClaimRow} {k : ClaimId}
    (hc₀ : f c₀.claimId = some c₀) (hown : c₁.ownerSessionToken = c₀.ownerSessionToken)
    (h : f k = some c) :
    ∃ c', put f c₀.claimId c₁ k = some c' ∧ c'.ownerSessionToken = c.ownerSessionToken := by
  by_cases hk : k = c₀.claimId
  · subst hk
    obtain rfl : c₀ = c := Option.some.inj (hc₀.symm.trans h)
    exact ⟨_, put_self, hown⟩
  · exact ⟨c, (put_of_ne hk).trans h, rfl⟩

theorem LeaseMove.calm {l : Leases} (m : LeaseMove now b w l) (hw : w.IsCalm)
    (ha : Anchored b.toLeases) (hn : Named b.toLeases) :
    Calm b.rounds (Board.rounds ⟨l, b.toLedger⟩) := by
  cases m with
  | register | touch | exit | markCleanup => exact .refl _
  | @create _ r fresh kind named absent =>
    refine .of_subtasks rfl id rfl fun id => Change.of_put CalmStep.refl fun _ => ?_
    show Change _ _ (b.subtask _) _
    rw [absent]
    refine .inl ⟨?_, fresh.state⟩
    rcases named with ⟨hlabel, -⟩ | hmis
    · cases hk : r.kind with
      | work => rfl
      | review =>
        rw [hlabel, hk] at hw
        simp [SubtaskKind.createLabel, Write.IsCalm] at hw
      | cleanup => exact absurd hk kind
    · simp [hmis, Write.IsCalm] at hw
  | edit edited =>
    refine .of_subtasks rfl id rfl fun id => (Change.of_rel (edited id)).mono ?_ fun _ h => h
    rintro r r' (rfl | h)
    · exact .refl r'
    · exact h.calm hw
  | @claim r σ c subtask loads allowed session active idle role new held free =>
    have havailable : r.state = .available := by
      cases hk : r.kind <;> cases hs : r.state <;> simp [hk, hs, SubtaskKind.allows] at allowed ⊢
    refine ⟨rfl, id, fun id => Change.of_put CalmStep.refl fun _ => ?_,
      fun h _ _ => ⟨_, put_of_new new h, rfl⟩⟩
    show Change _ _ (b.subtask _) _
    rw [subtask]
    exact ⟨.claim havailable rfl, rfl, rfl⟩
  | @close _ c state g clears _ current held closed detach cleared =>
    refine ⟨rfl, id, fun id => Change.of_modify CalmStep.refl fun _ r hr => ?_,
      fun h _ _ => owner_put current rfl h⟩
    split_ifs with hc
    · exact (detach r hr hc).calm hw
    · exact .refl r
  | @renew c deadline current =>
    exact ⟨rfl, id, fun id => Change.same CalmStep.refl _, fun h _ _ => owner_put current rfl h⟩
  | @createCleanup r fresh kind reserved absent =>
    refine .of_subtasks rfl id rfl fun id => Change.of_put CalmStep.refl fun _ => ?_
    show Change _ _ (b.subtask _) _
    rw [absent]
    exact .inr kind
  | @openCleanup _ changeId id₀ c row σ reserved session role held fence only source subtask =>
    have hkind : ∀ {r}, b.subtask id₀ = some r → r.kind = .cleanup := fun hr => hn hr ⟨_, reserved⟩
    refine ⟨rfl, id, fun id => Change.of_modify CalmStep.refl fun _ r hr => ?_,
      fun {k c₀ t} h ht hreview => ⟨c₀, (put_of_ne ?_).trans h, rfl⟩⟩
    · split_ifs
      · exact ⟨.cleanup (hkind hr), rfl, rfl⟩
      · exact .refl r
    · -- The claim of the cleanup is on its subtask.
      rintro rfl
      have ht' : b.subtask id₀ = some t := by
        rw [← (ha.opens reserved source).2 _ h]
        exact ht
      rw [hkind ht'] at hreview
      cases hreview
  | @endCleanup changeId row state target recorded closed left =>
    refine ⟨rfl, id, fun id => Change.of_modify CalmStep.refl fun _ r hr => ?_,
      fun {k c t} h _ _ => ⟨_, modify_eq_some.mpr ⟨c, h, rfl⟩, ?_⟩⟩
    · split_ifs
      · exact ⟨.cleanup (hn hr ⟨_, (ha.cleanup recorded).1⟩), rfl, rfl⟩
      · exact .refl r
    · split_ifs <;> rfl

theorem Move.calm (m : Move now w b b') (hw : w.IsCalm) (ha : Anchored b.toLeases)
    (hn : Named b.toLeases) : Calm b.rounds b'.rounds := by
  cases m with
  | lease m => exact m.calm hw ha hn
  | ledger m =>
    cases m with
    | @artifact a r new subtask policy =>
      refine .of_subtasks rfl (fun {digest} h => ?_) rfl fun _ => Change.same CalmStep.refl _
      obtain ⟨row, hrow⟩ := Option.isSome_iff_exists.mp h
      exact Option.isSome_iff_exists.mpr ⟨row, put_of_new new hrow⟩
    | review | reviews | verdict => simp [Write.IsCalm] at hw
    | followup | permissive | enqueue | queue | verify => exact .refl _
  | @apply _ q r n queued inFlight fence verified subtask kind policy ready digest =>
    refine .of_subtasks rfl id rfl fun id => Change.of_put CalmStep.refl fun _ => ?_
    show Change _ _ (b.subtask _) _
    rw [subtask]
    refine ⟨.work kind ?_ (by simp) ?_, rfl, rfl⟩
    · rw [ready]
      decide
    · simp [ready]

/-! ## Expiry -/

/-- The current claim of a review subtask is the claim that is held on it. -/
def Rounds.Tied (x : Rounds) : Prop :=
  ∀ ⦃id t⦄, x.subtask id = some t → t.kind = .review → ∀ k,
    (t.currentClaimId = some k ↔
      ∃ c, x.claim k = some c ∧ c.subtaskId = id ∧ c.state = .held)

theorem Linked.tied (h : Linked b.toLeases) : b.rounds.Tied := by
  intro id t ht hkind k
  refine (h.current ht (by rw [hkind]; decide)).trans ⟨?_, ?_⟩
  · rintro ⟨_, c, hc, hid, -, hheld⟩
    exact ⟨c, hc, hid, hheld⟩
  · rintro ⟨c, hc, hid, hheld⟩
    exact ⟨_, c, hc, hid, rfl, hheld⟩

/-- A claim is closed and its subtask let go of. -/
def Rounds.close (x : Rounds) (c : ClaimRow) (state : ClaimState) (f : SubtaskRow → SubtaskRow)
    (now : ℤ) : Rounds :=
  { x with
    subtask := modify x.subtask c.subtaskId fun r =>
      if r.currentClaimId = some c.claimId then f r else r
    claim := put x.claim c.claimId { c with state := state, updatedAt := now } }

/-- A review that was in progress is requested again. -/
def ReviewRow.reset (id : SubtaskId) (now : ℤ) (v : ReviewRow) : ReviewRow :=
  if v.reviewSubtaskId = id ∧ v.state = .inProgress then
    { v with state := .requested, updatedAt := now }
  else v

/-- A claim expires. -/
def Rounds.expire (x : Rounds) (c : ClaimRow) (now : ℤ) : Rounds :=
  { x.close c .expired (SubtaskRow.lapsed now) now with
    review := fun k => (x.review k).map (ReviewRow.reset c.subtaskId now) }

/-- A calm change, or the expiry of a claim. -/
inductive RoundMove (now : ℤ) (x : Rounds) : Rounds → Prop
  | calm {x' : Rounds} (calm : Calm x x') (tied : x'.Tied) : RoundMove now x x'
  | expire {c : ClaimRow} (claim : x.claim c.claimId = some c) (held : c.state = .held) :
      RoundMove now x (x.expire c now)

/-- A sequence of such changes. -/
def Settles (now : ℤ) : Rounds → Rounds → Prop := Relation.ReflTransGen (RoundMove now)

theorem Settles.of_eq (h : x' = x) : Settles now x x' := by
  subst h
  exact .refl

theorem Settles.trans {x'' : Rounds} (h : Settles now x x') (h' : Settles now x' x'') :
    Settles now x x'' :=
  Relation.ReflTransGen.trans h h'

/-- What every change preserves, a sequence of them preserves. -/
theorem Settles.invariant {I : Rounds → Prop}
    (hstep : ∀ {x x'}, RoundMove now x x' → I x → I x') (h : Settles now x x') (hx : I x) : I x' := by
  induction h with
  | refl => exact hx
  | tail _ hmove ih => exact hstep hmove ih

section Runs

variable {L : Set Write} {s s' s₁ : Db} {u : Unit} {v : Response}

theorem SameBoard.rounds (h : SameBoard s s') : s'.rounds = s.rounds := congrArg Board.rounds h

/-- Calm moves. -/
theorem Moves.settles (hL : ∀ w ∈ L, w.IsCalm) (hs : Coherent s.board.toLeases)
    (h : Moves L now s s') : Settles now s.rounds s'.rounds :=
  (Steps.invariant
    (I := fun b => Coherent b.toLeases ∧ Settles now s.rounds b.rounds)
    (fun {w b b'} hw m ⟨hb, hsettles⟩ => by
      have hcalm := hL w hw
      have hb' : Coherent b'.toLeases := hb.move m fun hmis => by
        simp [hmis, Write.IsCalm] at hcalm
      exact ⟨hb', hsettles.tail (.calm (m.calm hcalm hb.anchored hb.named) hb'.linked.tied)⟩)
    h ⟨hs, .refl⟩).2

theorem updateReviews_map {n : ℕ} {p : ReviewRow → Prop} [DecidablePred p]
    {f : ReviewRow → ReviewRow} (h : updateIn Rel.reviews p f s = (.ok n, s'))
    (hkey : ∀ r, (f r).reviewId = r.reviewId) :
    s'.board = { s.board with
      review := fun k => (s.board.review k).map fun r => if p r then f r else r } :=
  updateIn_map_board (B := fun g => { s.board with review := g }) (fun _ => rfl) h fun r _ => hkey r

theorem expireClaim_settles {claim : ClaimRow} (htraced : Traced s.board claim)
    (h : expireClaim claim now s = (.ok u, s')) : Settles now s.rounds s'.rounds := by
  simp only [expireClaim, Tx.bind_ok, Tx.pure_ok] at h
  obtain ⟨_, s₁, hclose, _, s₂, hreset, n, s₃, hdetach, -, rfl⟩ := h
  simp only [resetInProgressReviewForExpiredClaim, Tx.bind_ok, Tx.pure_ok] at hreset
  obtain ⟨_, _, hreset, -, rfl⟩ := hreset
  obtain ⟨row, hrow, hheld, hb₁⟩ := closeClaimAndDetach_board hclose
  have hkey : row.claimId = claim.claimId := Table.key_of_get? hrow
  have hb₂ := updateReviews_map hreset fun _ => rfl
  have hb₃ := (updateSubtask_board hdetach fun _ => rfl).2
  have hexpire : s₃.rounds = s.rounds.expire row now := by
    show s₃.board.rounds = _
    rw [hb₃, hb₂, hb₁, ← hkey, ← (htraced row hrow).1]
    rfl
  rw [hexpire]
  exact .single (.expire (hkey ▸ hrow) hheld)

/-- A claim that was read before another expired is still where it was read. -/
theorem Traced.expired {claim claim' : ClaimRow} (h : Traced s.board claim')
    (hexp : expireClaim claim now s = (.ok u, s')) : Traced s'.board claim' := by
  obtain ⟨row, g, hrow, -, -, hb⟩ := expireClaim_board hexp
  intro row' hrow'
  rw [hb] at hrow'
  rcases put_eq_some.mp hrow' with ⟨heq, rfl⟩ | ⟨-, hrow'⟩
  · exact h row (by rw [heq]; exact hrow)
  · exact h row' hrow'

theorem clearOwnerOfClaim_rounds {claim : ClaimRow}
    (h : clearOwnerOfClaim claim now s = (.ok u, s')) : s'.rounds = s.rounds := by
  show s'.board.rounds = _
  rw [clearOwnerOfClaim_board h]
  rfl

/-- Claims expire one by one, whatever their owners' rows become. -/
theorem forEach_expire_settles {claims : List ClaimRow} {body : ClaimRow → Txn Unit}
    (hbody : ∀ {claim s s' u}, body claim s = (.ok u, s') →
      ∃ s₁, expireClaim claim now s = (.ok (), s₁) ∧ s'.rounds = s₁.rounds ∧
        ∀ c, Traced s₁.board c → Traced s'.board c)
    (htraced : ∀ c ∈ claims, Traced s.board c)
    (h : Tx.forEach claims body s = (.ok u, s')) : Settles now s.rounds s'.rounds := by
  induction claims generalizing s with
  | nil =>
    obtain ⟨-, rfl⟩ := Tx.pure_ok.mp h
    exact .refl
  | cons claim claims ih =>
    obtain ⟨s₂, hfirst, hrest⟩ := Tx.forEach_cons_ok.mp h
    obtain ⟨s₁, hexp, hrounds, hkeeps⟩ := hbody hfirst
    have hstep := expireClaim_settles (htraced claim List.mem_cons_self) hexp
    rw [← hrounds] at hstep
    exact hstep.trans (ih (fun c hc => hkeeps c
      ((htraced c (List.mem_cons_of_mem _ hc)).expired hexp)) hrest)

theorem expireClaims_settles {claims : List ClaimRow} (htraced : ∀ c ∈ claims, Traced s.board c)
    (h : expireClaims claims now s = (.ok u, s')) : Settles now s.rounds s'.rounds := by
  refine forEach_expire_settles (fun {claim s s' u} h => ?_) htraced h
  obtain ⟨_, s₁, hexp, hclear⟩ := Tx.bind_ok.mp h
  refine ⟨s₁, hexp, clearOwnerOfClaim_rounds hclear, fun c hc row hrow => hc row ?_⟩
  rw [clearOwnerOfClaim_board hclear] at hrow
  exact hrow

/-! ### Operations that expire claims -/

section Mutation

variable {actorKey operation : String} {key : IdempotencyKey} {request : Request}
  {R : Rounds → Prop}

/-- A mutation changes the rounds as its body does; a replay leaves them alone. -/
theorem mutation_rounds {body : Txn Response} (hidle : R s.rounds)
    (hbody : ∀ {v s₁}, body s = (.ok v, s₁) → R s₁.rounds)
    (h : mutation actorKey operation key request now body s = (.ok v, s')) : R s'.rounds := by
  rcases mutation_run h with ⟨-, rfl⟩ | ⟨s₁, hrun, hb⟩
  · exact hidle
  · rw [SameBoard.rounds hb]
    exact hbody hrun

theorem leasedMutation_rounds {body : ℤ → Txn Response} (hidle : R s.rounds)
    (hbody : ∀ {leaseNow s₀ v s₁}, s₀.board = s.board → body leaseNow s₀ = (.ok v, s₁) → R s₁.rounds)
    (h : leasedMutation actorKey operation key request now body s = (.ok v, s')) :
    R s'.rounds := by
  obtain ⟨leaseNow, -, ⟨-, hb⟩ | ⟨s₀, s₁, hs₀, hrun, hb⟩⟩ := leasedMutation_run h
  · rw [SameBoard.rounds hb]
    exact hidle
  · rw [SameBoard.rounds hb]
    exact hbody (by rw [hs₀]; rfl) hrun

end Mutation

theorem exitSession_settles {req : ExitSessionReq} (h : exitSession req now s = (.ok v, s')) :
    Settles now s.rounds s'.rounds := by
  refine mutation_rounds (R := Settles now s.rounds) .refl (fun {v s₁} h => ?_) h
  simp only [expireHeldClaimsForExitedSession, Tx.bind_ok, loadSession_ok, Tx.lift_ok, Tx.ensure_ok,
    selectFrom_ok, Tx.pure_ok, ensureTransition_ok, and_assoc, exists_and_left, exists_eq_left',
    Tx.exists_unit] at h
  obtain ⟨session, -, -, -, n, s₂, hupd, -, s₃, ⟨claims, s₄, hload, hloop⟩, _, hevent, -, rfl⟩ := h
  obtain ⟨rfl, rfl⟩ := Tx.mapEach_lift_ok ClaimRow.load_val hload
  have hsessions : s₄.rounds = s.rounds := by
    show s₄.board.rounds = _
    rw [(updateSession_board hupd fun _ => rfl).2]
    rfl
  rw [(appendSessionEvent_sameBoard hevent).rounds, ← hsessions]
  refine forEach_expire_settles (fun {claim s s' u} h => ⟨s', h, rfl, fun _ => id⟩)
    (fun c hc row hrow => ?_) hloop
  have hmem := (Table.mem_select.mp ((List.mem_insertionSort _).mp hc)).1
  obtain rfl : c = row := Option.some.inj ((Table.mem_iff_get?.mp hmem).symm.trans hrow)
  exact ⟨rfl, rfl⟩

/-- The claims that `loadExpirableClaims` finds, expired one by one. -/
theorem expireLoaded_settles {leaseNow : ℤ} {claims : List ClaimRow}
    (hload : loadExpirableClaims leaseNow s = (.ok claims, s₁))
    (h : expireClaims claims now s₁ = (.ok u, s')) : Settles now s.rounds s'.rounds := by
  obtain ⟨rfl, hclaims⟩ := loadExpirableClaims_ok hload
  refine expireClaims_settles (fun c hc row hrow => ?_) h
  obtain rfl : c = row := Option.some.inj ((hclaims c hc).1.symm.trans hrow)
  exact ⟨rfl, rfl⟩

theorem reapStaleSessions_settles {staleThreshold : ℤ}
    (h : reapStaleSessions staleThreshold now s = (.ok v, s')) :
    Settles now s.rounds s'.rounds := by
  simp only [reapStaleSessions, Tx.bind_ok, Tx.pure_ok, Tx.exists_unit] at h
  obtain ⟨leaseNow, s₁, hclock, n, s₂, hstale, claims, s₃, hload, s₄, hexp, s₅, hevent, -, rfl⟩ := h
  have hclock : s₁.rounds = s.rounds := by
    obtain ⟨-, rfl⟩ := advanceLeaseClock_ok.mp hclock
    rfl
  have hstale : s₂.rounds = s₁.rounds := by
    show s₂.board.rounds = _
    rw [updateIn_map_board (B := fun g => { s₁.board with session := g }) (fun _ => rfl) hstale
      fun _ _ => rfl]
    rfl
  have hevent : SameBoard s₄ s₅ := Tx.Keeps.whenever (fun _ => appendEvent_sameBoard) hevent
  rw [hevent.rounds, ← hclock, ← hstale]
  exact expireLoaded_settles hload hexp

theorem expireOldClaims_settles (h : expireOldClaims now s = (.ok v, s')) :
    Settles now s.rounds s'.rounds := by
  simp only [expireOldClaims, Tx.bind_ok, Tx.pure_ok, Tx.exists_unit] at h
  obtain ⟨leaseNow, s₁, hclock, claims, s₃, hload, s₄, hexp, s₅, hevent, -, rfl⟩ := h
  have hclock : s₁.rounds = s.rounds := by
    obtain ⟨-, rfl⟩ := advanceLeaseClock_ok.mp hclock
    rfl
  have hevent : SameBoard s₄ s₅ := Tx.Keeps.whenever (fun _ => appendEvent_sameBoard) hevent
  rw [hevent.rounds, ← hclock]
  exact expireLoaded_settles hload hexp

theorem expireClaimIfNeeded_settles {id : SubtaskId} {leaseNow : ℤ}
    (h : expireClaimIfNeededForSubtask id leaseNow now s = (.ok u, s')) :
    Settles now s.rounds s'.rounds := by
  simp only [expireClaimIfNeededForSubtask, Tx.bind_ok, Tx.get_ok, and_assoc, exists_and_left,
    exists_eq_left'] at h
  generalize hfound : List.head? _ = found at h
  cases found with
  | none =>
    obtain ⟨-, rfl⟩ := Tx.pure_ok.mp h
    exact .refl
  | some row =>
    simp only [Tx.bind_ok, Tx.lift_ok, and_assoc, exists_and_left, exists_eq_left',
      Tx.exists_unit] at h
    obtain ⟨claim, hload, s₁, hexp, hclear⟩ := h
    obtain rfl := ClaimRow.load_val hload
    rw [clearOwnerOfClaim_rounds hclear]
    refine expireClaim_settles (fun row' hrow' => ?_) hexp
    have hmem := (Table.mem_select.mp (List.mem_of_mem_head? hfound)).1
    obtain rfl : claim = row' := Option.some.inj ((Table.mem_iff_get?.mp hmem).symm.trans hrow')
    exact ⟨rfl, rfl⟩

theorem Moves.coherent (hL : .misname ∉ L) (h : Moves L now s s')
    (hs : Coherent s.board.toLeases) : Coherent s'.board.toLeases :=
  Steps.invariant (I := fun b => Coherent b.toLeases)
    (fun hw m hb => hb.move m fun hmis => hL (hmis ▸ hw)) h hs

section Claim

variable {session : SessionRow} {k : SessionToken} {id : SubtaskId} {duration : LeaseDurationMs}
  {leaseNow : ℤ}

theorem claimSelectedSubtask_settles {result : ClaimResult} (hs : Coherent s.board.toLeases)
    (hsession : ∃ row, s.board.session k = some row ∧ row.role = session.role)
    (h : claimSelectedSubtask session k id duration leaseNow now s = (.ok result, s')) :
    Settles now s.rounds s'.rounds := by
  simp only [claimSelectedSubtask, Tx.bind_ok] at h
  obtain ⟨r, s₁, hclaimable, hopen⟩ := h
  obtain ⟨hexp, hr⟩ := requireClaimable_ok hclaimable
  have hmoves : Moves {.review, .lapse} now s s₁ :=
    expireClaimIfNeeded_moves (.inl rfl) (.inr rfl) hexp
  obtain ⟨row, hrow, hrole⟩ := hsession
  obtain ⟨row', hrow', -, hrole'⟩ := hmoves.evolves.session hrow
  refine (expireClaimIfNeeded_settles hexp).trans (Moves.settles (L := {.declared}) ?_
    (hmoves.coherent (by simp) hs) (openClaim_moves rfl hr ⟨row', hrow', hrole'.trans hrole⟩ hopen))
  rintro w rfl
  exact .inl rfl

theorem claimSelectedSubtask_lost_settles {e : CoveyError}
    (h : claimSelectedSubtask session k id duration leaseNow now s = (.error e, s'))
    (hlost : e.isLostRace = true) : Settles now s.rounds s'.rounds := by
  have hnot : ¬e.Surfaces := by simp [CoveyError.Surfaces, hlost]
  rcases Tx.bind_error.mp h with h | ⟨r, s₁, hclaimable, h⟩
  · rcases requireClaimable_error h with hs | hexp
    · exact absurd hs hnot
    · exact expireClaimIfNeeded_settles hexp
  · exact absurd (openClaim_raises (requireClaimable_ok hclaimable).2 h) hnot

theorem claimNextBody_settles {lane : RoutingKey} {m : Option MetaTaskId}
    (hs : Coherent s.board.toLeases)
    (h : claimNextBody k duration lane m leaseNow now s = (.ok v, s')) :
    Settles now s.rounds s'.rounds := by
  obtain ⟨session, kind, s₁, found, ⟨hsession, -⟩, -, hblocks, -, h⟩ := claimNextBody_ok h
  have hblocks : Moves {.declared, .revive} now s s₁ := by
    refine Tx.Keeps.whenever (fun _ => ?_) hblocks
    exact .bind (fun _ _ _ => followupBlocks_moves (.inl rfl) (.inr rfl)) fun _ => .pure _
  have hfirst : Settles now s.rounds s₁.rounds := by
    refine hblocks.settles ?_ hs
    rintro w (rfl | rfl)
    exacts [.inl rfl, .inr (.inr (.inl rfl))]
  refine hfirst.trans ?_
  rcases h with ⟨-, -, rfl⟩ | ⟨id, -, ⟨result, hclaim, -⟩ | ⟨e, herror, hlost, -⟩⟩
  · exact .refl
  · obtain ⟨row, hrow, -, hrole⟩ := hblocks.evolves.session hsession
    exact claimSelectedSubtask_settles (hblocks.coherent (by simp) hs) ⟨row, hrow, hrole⟩ hclaim
  · exact claimSelectedSubtask_lost_settles herror hlost

theorem claimSubtask_settles {req : ClaimSubtaskReq} (hs : Coherent s.board.toLeases)
    (h : claimSubtask req now s = (.ok v, s')) : Settles now s.rounds s'.rounds := by
  refine leasedMutation_rounds (R := Settles now s.rounds) .refl
    (fun {leaseNow s₀ v s₁} hs₀ h => ?_) h
  simp only [Tx.bind_ok, requireIdleSession_ok, subtaskExists_ok, Tx.ensure_ok, Tx.pure_ok,
    and_assoc, exists_and_left, exists_eq_left', Tx.exists_unit] at h
  obtain ⟨session, hsession, -, -, -, -, result, _, hclaim, -, rfl⟩ := h
  rw [← SameBoard.rounds hs₀]
  exact claimSelectedSubtask_settles (hs₀ ▸ hs) ⟨session, hsession, rfl⟩ hclaim

theorem claimNextSubtask_settles {env : Env} {req : ClaimNextReq} (hs : Coherent s.board.toLeases)
    (h : claimNextSubtask env req now s = (.ok v, s')) : Settles now s.rounds s'.rounds :=
  leasedMutation_rounds (R := Settles now s.rounds) .refl (fun hs₀ h => by
    rw [← SameBoard.rounds hs₀]
    exact claimNextBody_settles (hs₀ ▸ hs) h) h

theorem claimNextRoutedSubtask_settles {req : ClaimNextRoutedReq} (hs : Coherent s.board.toLeases)
    (h : claimNextRoutedSubtask req now s = (.ok v, s')) : Settles now s.rounds s'.rounds :=
  leasedMutation_rounds (R := Settles now s.rounds) .refl (fun hs₀ h => by
    rw [← SameBoard.rounds hs₀]
    exact claimNextBody_settles (hs₀ ▸ hs) h) h

end Claim

end Runs

end Covey

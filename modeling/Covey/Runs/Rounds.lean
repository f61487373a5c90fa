import Covey.Turns

/-!
# Review rounds over runs

* `Rounds.Paired`: every review has a review subtask of its own and work of the same meta-task.
* `Rounds.Pending`: work is under review exactly as long as it has an open review.
* `Rounds.Attended`: a review is in progress exactly as long as its reviewer works on it.
* `Rounds.Startable`: a review subtask that can be claimed belongs to a review that can be started.
-/

namespace Covey

open Relational

variable {now : ℤ} {x x' : Rounds} {op : Operation}

/-! ## Reviews and their subtasks -/

/-- Every review has a review subtask of its own and work of the same meta-task, and every review
    subtask has a review. -/
structure Rounds.Paired (x : Rounds) : Prop where
  subtask : ∀ {k v}, x.review k = some v → ∃ t r, x.subtask v.reviewSubtaskId = some t ∧
    t.kind = .review ∧ x.subtask v.subtaskId = some r ∧ r.kind = .work ∧
    t.metaTaskId = r.metaTaskId
  alone : ∀ {k k' v v'}, x.review k = some v → x.review k' = some v' →
    v.reviewSubtaskId = v'.reviewSubtaskId → k = k'
  review : ∀ {id t}, x.subtask id = some t → t.kind = .review →
    ∃ k v, x.review k = some v ∧ v.reviewSubtaskId = id
  known : ∀ {k v}, x.review k = some v → x.known v.artifactDigest

/-- A change that leaves reviews, review subtasks and work together. -/
structure Rounds.Keeps (x x' : Rounds) : Prop where
  review : ∀ k, Option.Rel ReviewRow.SameRound (x.review k) (x'.review k)
  subtask : ∀ id, Change (fun r r' => r'.kind = r.kind ∧ r'.metaTaskId = r.metaTaskId)
    (fun r => r.kind ≠ .review) (x.subtask id) (x'.subtask id)
  known : ∀ {digest}, x.known digest → x'.known digest

theorem ReviewRow.SameRound.refl (v : ReviewRow) : v.SameRound v := ⟨rfl, rfl, rfl, rfl⟩

theorem Rounds.Paired.keeps (hx : x.Paired) (h : x.Keeps x') : x'.Paired where
  subtask := by
    intro k v' hv'
    obtain ⟨v, hv, hsame⟩ := rel_of_some' (h.review k) hv'
    obtain ⟨t, r, ht, htk, hr, hrk, hm⟩ := hx.subtask hv
    obtain ⟨t', ht', htk', htm⟩ := (h.subtask _).of_some ht
    obtain ⟨r', hr', hrk', hrm⟩ := (h.subtask _).of_some hr
    rw [hsame.reviewSubtask, hsame.subtask]
    exact ⟨t', r', ht', htk'.trans htk, hr', hrk'.trans hrk, by rw [htm, hrm, hm]⟩
  alone := by
    intro k₁ k₂ v₁' v₂' h₁ h₂ heq
    obtain ⟨v₁, hv₁, hsame₁⟩ := rel_of_some' (h.review k₁) h₁
    obtain ⟨v₂, hv₂, hsame₂⟩ := rel_of_some' (h.review k₂) h₂
    rw [hsame₁.reviewSubtask, hsame₂.reviewSubtask] at heq
    exact hx.alone hv₁ hv₂ heq
  review := by
    intro id t' ht' hkind
    rcases (h.subtask id).of_some' ht' with ⟨t, ht, hk, -⟩ | ⟨-, hnew⟩
    · obtain ⟨k, v, hv, hid⟩ := hx.review ht (hk.symm.trans hkind)
      obtain ⟨v', hv', hsame⟩ := rel_of_some (h.review k) hv
      exact ⟨k, v', hv', hsame.reviewSubtask.trans hid⟩
    · exact absurd hkind hnew
  known := by
    intro k v' hv'
    obtain ⟨v, hv, hsame⟩ := rel_of_some' (h.review k) hv'
    rw [hsame.artifact]
    exact h.known (hx.known hv)

/-- The links of a row that is written over in place. -/
theorem keeps_put {f : SubtaskId → Option SubtaskRow} {id : SubtaskId} {r r' : SubtaskRow}
    (hr : f id = some r) (h : r'.kind = r.kind ∧ r'.metaTaskId = r.metaTaskId) (k : SubtaskId) :
    Change (fun r r' => r'.kind = r.kind ∧ r'.metaTaskId = r.metaTaskId) (fun r => r.kind ≠ .review)
      (f k) (put f id r' k) := by
  refine Change.of_put (fun _ => ⟨rfl, rfl⟩) fun _ => ?_
  rw [hr]
  exact h

theorem Rounds.keeps_close {c : ClaimRow} {state : ClaimState} {f : SubtaskRow → SubtaskRow}
    (hf : ∀ r, (f r).kind = r.kind ∧ (f r).metaTaskId = r.metaTaskId) :
    x.Keeps (x.close c state f now) where
  review k := rel_refl ReviewRow.SameRound.refl _
  subtask id := Change.of_modify (fun _ => ⟨rfl, rfl⟩) fun _ r _ => by
    split_ifs
    · exact hf r
    · exact ⟨rfl, rfl⟩
  known h := h

theorem ReviewRow.sameRound_reset (id : SubtaskId) (now : ℤ) (v : ReviewRow) :
    v.SameRound (v.reset id now) := by
  unfold ReviewRow.reset
  split_ifs <;> exact ⟨rfl, rfl, rfl, rfl⟩

theorem ReviewRow.sameRound_start (id : SubtaskId) (k : SessionToken) (now : ℤ) (v : ReviewRow) :
    v.SameRound (v.start id k now) := by
  unfold ReviewRow.start
  split_ifs <;> exact ⟨rfl, rfl, rfl, rfl⟩

theorem ReviewRow.sameRound_supersede (id : SubtaskId) (digest : ArtifactDigest) (now : ℤ)
    (v : ReviewRow) : v.SameRound (v.supersede id digest now) := by
  unfold ReviewRow.supersede
  split_ifs <;> exact ⟨rfl, rfl, rfl, rfl⟩

theorem RoundMove.keeps (h : RoundMove now x x') : x.Keeps x' := by
  cases h with
  | calm calm tied =>
    refine ⟨fun k => ?_, fun id => (calm.subtask id).mono (fun _ _ h => h.2) fun r h => ?_, calm.known⟩
    · rw [calm.review]
      exact rel_refl ReviewRow.SameRound.refl _
    · rcases h with ⟨hkind, -⟩ | hkind <;> rw [hkind] <;> decide
  | @expire c claim held =>
    have hclose : x.Keeps (x.close c .expired (SubtaskRow.lapsed now) now) :=
      x.keeps_close fun _ => ⟨rfl, rfl⟩
    exact ⟨fun k => rel_map fun v _ => v.sameRound_reset _ now, hclose.subtask, hclose.known⟩

/-- A request for a review makes the links of its round. -/
theorem Rounds.Paired.request {r r' t : SubtaskRow} {v : ReviewRow} (hx : x.Paired)
    (work : x.subtask v.subtaskId = some r) (workKind : r.kind = .work)
    (known : x.known v.artifactDigest) (absent : x.subtask v.reviewSubtaskId = none)
    (kind : t.kind = .review) (metaTask : t.metaTaskId = r.metaTaskId)
    (new : x.review v.reviewId = none)
    (same : r'.kind = r.kind ∧ r'.metaTaskId = r.metaTaskId) :
    Rounds.Paired { x with
      subtask := put (put x.subtask v.reviewSubtaskId t) v.subtaskId r'
      review := put x.review v.reviewId v } := by
  have hne : v.reviewSubtaskId ≠ v.subtaskId := by
    intro heq
    rw [heq, work] at absent
    cases absent
  have hold : ∀ {id s}, x.subtask id = some s → ∃ s',
      put (put x.subtask v.reviewSubtaskId t) v.subtaskId r' id = some s' ∧ s'.kind = s.kind ∧
        s'.metaTaskId = s.metaTaskId := by
    intro id s hs
    exact (keeps_put (put_of_new absent work) same id).of_some (put_of_new absent hs)
  refine ⟨fun {k v₁} h => ?_, fun {k₁ k₂ v₁ v₂} h₁ h₂ heq => ?_, fun {id t'} ht' htk => ?_,
    fun {k v₁} h => ?_⟩
  · rcases put_eq_some.mp h with ⟨-, rfl⟩ | ⟨-, h⟩
    · exact ⟨t, r', (put_of_ne hne).trans put_self, kind, put_self, same.1.trans workKind,
        metaTask.trans same.2.symm⟩
    · obtain ⟨t₁, r₁, ht, htk, hr, hrk, hm⟩ := hx.subtask h
      obtain ⟨t₁', ht', htk', htm⟩ := hold ht
      obtain ⟨r₁', hr', hrk', hrm⟩ := hold hr
      exact ⟨t₁', r₁', ht', htk'.trans htk, hr', hrk'.trans hrk, by rw [htm, hrm, hm]⟩
  · -- The new review subtask has no other review: it is new.
    have hfresh : ∀ {k v'}, x.review k = some v' → v'.reviewSubtaskId ≠ v.reviewSubtaskId := by
      intro k v' hv' heq
      obtain ⟨t₁, -, ht, -⟩ := hx.subtask hv'
      rw [heq, absent] at ht
      cases ht
    rcases put_eq_some.mp h₁ with ⟨rfl, rfl⟩ | ⟨-, h₁⟩ <;>
      rcases put_eq_some.mp h₂ with ⟨rfl, rfl⟩ | ⟨-, h₂⟩
    · rfl
    · exact absurd heq.symm (hfresh h₂)
    · exact absurd heq (hfresh h₁)
    · exact hx.alone h₁ h₂ heq
  · rcases put_eq_some.mp ht' with ⟨-, rfl⟩ | ⟨-, ht'⟩
    · rw [same.1, workKind] at htk
      cases htk
    · rcases put_eq_some.mp ht' with ⟨rfl, -⟩ | ⟨-, ht'⟩
      · exact ⟨v.reviewId, v, put_self, rfl⟩
      · obtain ⟨k, v₁, hv₁, hid⟩ := hx.review ht' htk
        exact ⟨k, v₁, put_of_new new hv₁, hid⟩
  · rcases put_eq_some.mp h with ⟨-, rfl⟩ | ⟨-, h⟩
    · exact known
    · exact hx.known h

/-- A request for a review makes the links of its round; the other turns keep the links. -/
theorem Rounds.Paired.turn (hx : x.Paired) (h : Turn now x op x') : x'.Paired := by
  cases h with
  | release => exact hx.keeps (x.keeps_close fun _ => ⟨rfl, rfl⟩)
  | abandon => exact hx.keeps (x.keeps_close fun _ => ⟨rfl, rfl⟩)
  | cancel =>
    refine hx.keeps ⟨fun k => rel_refl ReviewRow.SameRound.refl _, fun id =>
      Change.of_rel (rel_map fun r _ => ?_), id⟩
    split_ifs <;> exact ⟨rfl, rfl⟩
  | start _ _ _ subtask _ _ _ _ started =>
    refine hx.keeps ⟨fun k => ?_, keeps_put subtask ⟨rfl, rfl⟩, id⟩
    rcases started with ⟨-, rfl⟩ | ⟨-, rfl⟩
    · exact rel_refl ReviewRow.SameRound.refl _
    · exact rel_map fun v _ => v.sameRound_start _ _ now
  | publish _ subtask _ _ knows reviews =>
    refine hx.keeps ⟨fun k => ?_, keeps_put subtask ⟨rfl, rfl⟩, knows⟩
    rcases reviews with ⟨-, rfl⟩ | ⟨-, rfl⟩
    · exact rel_refl ReviewRow.SameRound.refl _
    · exact rel_map fun v _ => v.sameRound_supersede _ _ now
  | request work workKind _ _ known absent kind _ metaTask new =>
    exact hx.request work workKind known absent kind metaTask new ⟨rfl, rfl⟩
  | @decide _ v _ _ _ _ r' _ review _ _ same subtask _ _ _ sameReview work _ _ _ _ sameWork =>
    refine hx.keeps ⟨rel_put ReviewRow.SameRound.refl review same, fun id => ?_, id⟩
    by_cases hid : id = v.subtaskId
    · subst hid
      show Change _ _ (x.subtask _) (put _ _ r' _)
      rw [work, put_self]
      exact sameWork
    · show Change _ _ (x.subtask _) (put _ _ r' _)
      rw [put_of_ne hid]
      exact keeps_put subtask sameReview id

/-! ## Calls -/

theorem Rounds.Tied.close {c : ClaimRow} {state : ClaimState} {f : SubtaskRow → SubtaskRow}
    (hx : x.Tied) (hclaim : x.claim c.claimId = some c) (hclosed : state ≠ .held)
    (hf : ∀ r, (f r).kind = r.kind ∧ (f r).currentClaimId = none) :
    (x.close c state f now).Tied := by
  intro id t' ht' hkind k
  obtain ⟨t, ht, rfl⟩ := modify_eq_some.mp ht'
  have htk : t.kind = .review := by
    split_ifs at hkind
    · exact (hf t).1.symm.trans hkind
    · exact hkind
    · exact hkind
  have htied := hx ht htk k
  by_cases hcur : id = c.subtaskId ∧ t.currentClaimId = some c.claimId
  · rw [if_pos hcur.1, if_pos hcur.2, (hf t).2]
    refine ⟨(nomatch ·), ?_⟩
    rintro ⟨c', hc', hid, hheld⟩
    rcases put_eq_some.mp hc' with ⟨-, rfl⟩ | ⟨hne, hc'⟩
    · exact absurd hheld hclosed
    · have := htied.mpr ⟨c', hc', hid, hheld⟩
      rw [hcur.2] at this
      cases this
      exact absurd rfl hne
  · have hsame : (if id = c.subtaskId then if t.currentClaimId = some c.claimId then f t else t
        else t) = t := by
      split_ifs with hid hc
      · exact absurd ⟨hid, hc⟩ hcur
      · rfl
      · rfl
    rw [hsame, htied]
    refine ⟨?_, ?_⟩
    · rintro ⟨c', hc', hid, hheld⟩
      refine ⟨c', (put_of_ne ?_).trans hc', hid, hheld⟩
      rintro rfl
      obtain rfl : c = c' := Option.some.inj (hclaim.symm.trans hc')
      exact hcur ⟨hid.symm, htied.mpr ⟨c, hc', hid, hheld⟩⟩
    · rintro ⟨c', hc', hid, hheld⟩
      rcases put_eq_some.mp hc' with ⟨-, rfl⟩ | ⟨-, hc'⟩
      · exact absurd hheld hclosed
      · exact ⟨c', hc', hid, hheld⟩

theorem RoundMove.tied (h : RoundMove now x x') (hx : x.Tied) : x'.Tied := by
  cases h with
  | calm calm tied => exact tied
  | @expire c claim held =>
    have hclose : (x.close c .expired (SubtaskRow.lapsed now) now).Tied :=
      hx.close claim (by decide) fun _ => ⟨rfl, rfl⟩
    exact hclose

section Runs

variable {env : Env} {s : Db} {c : Call} {calls : List Call}

/-- What turns and settling keep, a call keeps. -/
theorem next_rounds {I : Rounds → Prop} (hc : c.Proper s) (hs : Coherent s.board.toLeases)
    (hmove : ∀ {x x'}, RoundMove c.now x x' → x.Tied → I x → I x')
    (hturn : ∀ {x}, c.Commits env s → Turn c.now s.rounds c.op x → I s.rounds → I x)
    (h : I s.rounds) : I (next env s c).rounds := by
  obtain ⟨x, hx, htied, hsettles⟩ : ∃ x,
      (x = s.rounds ∨ c.Commits env s ∧ Turn c.now s.rounds c.op x) ∧ x.Tied ∧
        Settles c.now x (next env s c).rounds := next_turns hc hs
  have hIx : I x := by
    rcases hx with rfl | ⟨hcommits, hturns⟩
    · exact h
    · exact hturn hcommits hturns h
  exact (hsettles.invariant (I := fun x => x.Tied ∧ I x)
    (fun hm ⟨ht, hI⟩ => ⟨hm.tied ht, hmove hm ht hI⟩) ⟨htied, hIx⟩).2

/-- What turns and settling keep is kept by every run of proper calls that meet the guard. -/
theorem reach_rounds {I : Rounds → Prop} {G : Db → Call → Prop}
    (hrun : Run.Along (next env) (fun s c => c.Proper s ∧ G s c) Db.init calls)
    (hinit : I Db.init.rounds)
    (hmove : ∀ {now x x'}, RoundMove now x x' → x.Tied → x.Paired → I x → I x')
    (hturn : ∀ {s c x}, G s c → c.Commits env s → Turn c.now s.rounds c.op x → s.rounds.Tied →
      s.rounds.Paired → I s.rounds → I x) :
    (reach env calls).rounds.Paired ∧ I (reach env calls).rounds := by
  refine (Run.invariant (I := fun s => Coherent s.board.toLeases ∧ s.rounds.Paired ∧ I s.rounds)
    (fun s c hG h => ?_) hrun ⟨init_coherent, ?_, hinit⟩).2
  · obtain ⟨hc, hG⟩ := hG
    obtain ⟨hs, hI⟩ := h
    exact ⟨next_coherent hc hs, next_rounds (I := fun x => x.Paired ∧ I x) hc hs
      (fun hm ht ⟨hp, hI⟩ => ⟨hp.keeps hm.keeps, hmove hm ht hp hI⟩)
      (fun hcommits hturns ⟨hp, hI⟩ =>
        ⟨hp.turn hturns, hturn hG hcommits hturns hs.linked.tied hp hI⟩) hI⟩
  · exact ⟨(nomatch ·), (nomatch ·), (nomatch ·), (nomatch ·)⟩

end Runs

/-! ## Work under review -/

/-- Work has one open review at most. An open review is of the work's current artifact, and the
    work is under review or has been abandoned; work that is under review has an open review. -/
structure Rounds.Pending (x : Rounds) : Prop where
  single : ∀ {k k' v v'}, x.review k = some v → v.isOpen → x.review k' = some v' → v'.isOpen →
    v.subtaskId = v'.subtaskId → k = k'
  current : ∀ {k v r}, x.review k = some v → v.isOpen → x.subtask v.subtaskId = some r →
    r.artifactDigest = some v.artifactDigest ∧ (r.state = .reviewPending ∨ r.state = .abandoned)
  reviewed : ∀ {id r}, x.subtask id = some r → r.kind = .work → r.state = .reviewPending →
    ∃ k v, x.review k = some v ∧ v.isOpen ∧ v.subtaskId = id

/-- A review of the same round that is as open as before. -/
def ReviewRow.Stays (v v' : ReviewRow) : Prop := v.SameRound v' ∧ (v'.isOpen ↔ v.isOpen)

/-- Work that is under review or abandoned with an artifact stays so with this artifact, and
    other work does not come under review. -/
def SteadyRow (r r' : SubtaskRow) : Prop :=
  r'.kind = r.kind ∧ (r.kind = .work → (r'.state = .reviewPending → r.state = .reviewPending) ∧
    (r.state = .reviewPending ∨ r.state = .abandoned → r.artifactDigest = none ∨
      r'.artifactDigest = r.artifactDigest ∧
        (r'.state = .reviewPending ∨ r'.state = .abandoned)))

/-- A change that neither opens nor closes reviews nor takes work in or out of review. -/
structure Rounds.Steady (x x' : Rounds) : Prop where
  review : ∀ k, Option.Rel ReviewRow.Stays (x.review k) (x'.review k)
  subtask : ∀ id, Change SteadyRow (fun r => r.kind = .work → r.state ≠ .reviewPending)
    (x.subtask id) (x'.subtask id)

theorem ReviewRow.Stays.refl (v : ReviewRow) : v.Stays v := ⟨.refl v, Iff.rfl⟩

theorem SteadyRow.of_same {r r' : SubtaskRow} (hkind : r'.kind = r.kind) (hstate : r'.state = r.state)
    (hdigest : r'.artifactDigest = r.artifactDigest) : SteadyRow r r' :=
  ⟨hkind, fun _ => ⟨fun h => hstate ▸ h, fun h => .inr ⟨hdigest, hstate ▸ h⟩⟩⟩

theorem SteadyRow.refl (r : SubtaskRow) : SteadyRow r r := .of_same rfl rfl rfl

theorem Rounds.Pending.steady (hp : x.Paired) (hx : x.Pending) (h : x.Steady x') : x'.Pending where
  single := by
    intro k₁ k₂ v₁' v₂' h₁ ho₁ h₂ ho₂ heq
    obtain ⟨v₁, hv₁, hs₁, hopen₁⟩ := rel_of_some' (h.review k₁) h₁
    obtain ⟨v₂, hv₂, hs₂, hopen₂⟩ := rel_of_some' (h.review k₂) h₂
    rw [hs₁.subtask, hs₂.subtask] at heq
    exact hx.single hv₁ (hopen₁.mp ho₁) hv₂ (hopen₂.mp ho₂) heq
  current := by
    intro k v' r' hv' hopen' hr'
    obtain ⟨v, hv, hs, hopen⟩ := rel_of_some' (h.review k) hv'
    obtain ⟨-, r, -, -, hr, hrk, -⟩ := hp.subtask hv
    rw [hs.subtask] at hr'
    rw [hs.artifact]
    obtain ⟨hdigest, hstate⟩ := hx.current hv (hopen.mp hopen') hr
    obtain ⟨r₁, hr₁, -, hrow⟩ := (h.subtask _).of_some hr
    obtain rfl : r' = r₁ := Option.some.inj (hr'.symm.trans hr₁)
    rcases (hrow hrk).2 hstate with hnone | ⟨hsame, hstate'⟩
    · rw [hnone] at hdigest
      cases hdigest
    · exact ⟨hsame.trans hdigest, hstate'⟩
  reviewed := by
    intro id r' hr' hkind hpending
    rcases (h.subtask id).of_some' hr' with ⟨r, hr, hk, hrow⟩ | ⟨-, hnew⟩
    · have hrk : r.kind = .work := hk.symm.trans hkind
      obtain ⟨k, v, hv, hopen, hid⟩ := hx.reviewed hr hrk ((hrow hrk).1 hpending)
      obtain ⟨v', hv', hs, hopen'⟩ := rel_of_some (h.review k) hv
      exact ⟨k, v', hv', hopen'.mpr hopen, hs.subtask.trans hid⟩
    · exact absurd hpending (hnew hkind)

theorem SubtaskRow.lapsed_steady (r : SubtaskRow) : SteadyRow r (r.lapsed now) := by
  refine ⟨rfl, fun _ => ⟨fun h => ?_, fun h => .inr ⟨rfl, ?_⟩⟩⟩
  · unfold SubtaskRow.lapsed at h
    dsimp only at h
    split_ifs at h
    exact h
  · unfold SubtaskRow.lapsed
    rcases h with h | h <;> simp [h]

theorem SubtaskRow.given_steady (r : SubtaskRow) : SteadyRow r (r.given now) :=
  ⟨rfl, fun _ => ⟨(nomatch ·), fun _ => .inr ⟨rfl, .inr rfl⟩⟩⟩

theorem SubtaskRow.cancelled_steady (r : SubtaskRow) : SteadyRow r (r.cancelled now) := by
  refine ⟨rfl, fun _ => ⟨fun h => ?_, fun h => .inr ⟨rfl, ?_⟩⟩⟩
  · unfold SubtaskRow.cancelled at h
    dsimp only at h
    split_ifs at h
    exact h
  · unfold SubtaskRow.cancelled
    rcases h with h | h <;> simp [h, SubtaskState.isTerminal]

theorem CalmStep.steady {r r' : SubtaskRow} (h : CalmStep r r') : SteadyRow r r' := by
  obtain ⟨hrow, hkind, -⟩ := h
  cases hrow with
  | same hstate hdigest _ => exact .of_same hkind hstate hdigest
  | claim available claimed =>
    refine ⟨hkind, fun _ => ⟨fun h => ?_, fun h => ?_⟩⟩
    · rw [claimed] at h
      cases h
    · rw [available] at h
      rcases h with h | h <;> cases h
  | work _ idle idle' bare =>
    refine ⟨hkind, fun _ => ⟨fun h => absurd h idle', fun h => .inl ?_⟩⟩
    exact bare (h.resolve_left idle)
  | cleanup hcleanup =>
    refine ⟨hkind, fun hwork => ?_⟩
    rw [hcleanup] at hwork
    cases hwork

theorem Rounds.steady_close {c : ClaimRow} {state : ClaimState} {f : SubtaskRow → SubtaskRow}
    (hf : ∀ r, SteadyRow r (f r)) : x.Steady (x.close c state f now) where
  review k := rel_refl ReviewRow.Stays.refl _
  subtask id := Change.of_modify SteadyRow.refl fun _ r _ => by
    split_ifs
    · exact hf r
    · exact .refl r

theorem ReviewRow.stays_reset (id : SubtaskId) (now : ℤ) (v : ReviewRow) :
    v.Stays (v.reset id now) := by
  refine ⟨v.sameRound_reset id now, ?_⟩
  unfold ReviewRow.reset
  split_ifs with h
  · simp [ReviewRow.isOpen, h.2]
  · exact Iff.rfl

theorem ReviewRow.stays_start (id : SubtaskId) (k : SessionToken) (now : ℤ) (v : ReviewRow) :
    v.Stays (v.start id k now) := by
  refine ⟨v.sameRound_start id k now, ?_⟩
  unfold ReviewRow.start
  split_ifs with h
  · simp [ReviewRow.isOpen, h.2]
  · exact Iff.rfl

theorem RoundMove.steady (h : RoundMove now x x') : x.Steady x' := by
  cases h with
  | calm calm tied =>
    refine ⟨fun k => ?_, fun id => (calm.subtask id).mono (fun _ _ h => h.steady) fun r h hwork => ?_⟩
    · rw [calm.review]
      exact rel_refl ReviewRow.Stays.refl _
    · rcases h with ⟨-, hstate⟩ | hcleanup
      · rw [hstate]
        decide
      · rw [hcleanup] at hwork
        cases hwork
  | @expire c claim held =>
    have hclose : x.Steady (x.close c .expired (SubtaskRow.lapsed now) now) :=
      x.steady_close SubtaskRow.lapsed_steady
    exact ⟨fun k => rel_map fun v _ => v.stays_reset _ now, hclose.subtask⟩

/-- The request of an operation that publishes an artifact. -/
def Operation.publishes : Operation → Option PublishArtifactReq
  | .publishArtifact req => some req
  | _ => none

/-- An artifact that was published before is published for work with an open review. -/
def Rounds.Republishes (x : Rounds) (op : Operation) : Prop :=
  ∃ req ∈ op.publishes, x.known req.artifactDigest ∧
    ∃ c ∈ x.claim req.claimId, ∃ k v, x.review k = some v ∧ v.isOpen ∧ v.subtaskId = c.subtaskId

/-- A review that was not open does not become open by being superseded, and one that stays open
    is of the artifact or of other work. -/
theorem ReviewRow.isOpen_supersede {id : SubtaskId} {digest : ArtifactDigest} {v : ReviewRow}
    (h : (v.supersede id digest now).isOpen) :
    v.isOpen ∧ (v.subtaskId = id → v.artifactDigest = digest) := by
  unfold ReviewRow.supersede at h
  split_ifs at h with hcond
  · rcases h with h | h <;> cases h
  · refine ⟨h, fun hid => ?_⟩
    by_contra hne
    exact hcond ⟨hid, hne, h⟩

/-- Work leaves review as it is published: no review of it stays open. -/
theorem Rounds.Pending.publish {r' : SubtaskRow} {id : SubtaskId}
    {review : ReviewId → Option ReviewRow} {known : ArtifactDigest → Prop} (hx : x.Pending)
    (hstate : r'.state ≠ .reviewPending)
    (hreview : ∀ k, Option.Rel (fun v v' => v.SameRound v' ∧ (v'.isOpen → v.isOpen) ∧
      (v.subtaskId ≠ id → v' = v)) (x.review k) (review k))
    (hnone : ∀ {k v}, review k = some v → v.isOpen → v.subtaskId ≠ id) :
    Rounds.Pending { x with subtask := put x.subtask id r', review := review, known := known } where
  single := by
    intro k₁ k₂ v₁' v₂' h₁ ho₁ h₂ ho₂ heq
    obtain ⟨v₁, hv₁, hs₁, hopen₁, -⟩ := rel_of_some' (hreview k₁) h₁
    obtain ⟨v₂, hv₂, hs₂, hopen₂, -⟩ := rel_of_some' (hreview k₂) h₂
    rw [hs₁.subtask, hs₂.subtask] at heq
    exact hx.single hv₁ (hopen₁ ho₁) hv₂ (hopen₂ ho₂) heq
  current := by
    intro k v' r₁ hv' hopen' hr₁
    have hne := hnone hv' hopen'
    obtain ⟨v, hv, hs, hopen, -⟩ := rel_of_some' (hreview k) hv'
    rw [hs.subtask] at hr₁ hne
    rw [hs.artifact]
    exact hx.current hv (hopen hopen') ((put_of_ne hne).symm.trans hr₁)
  reviewed := by
    intro id' r₁ hr₁ hwork hpending
    rcases put_eq_some.mp hr₁ with ⟨-, rfl⟩ | ⟨hne, hr₁⟩
    · exact absurd hpending hstate
    · obtain ⟨k, v, hv, hopen, hid⟩ := hx.reviewed hr₁ hwork hpending
      obtain ⟨v', hv', -, -, hsame⟩ := rel_of_some (hreview k) hv
      rw [hsame (by rw [hid]; exact hne)] at hv'
      exact ⟨k, v, hv', hopen, hid⟩

/-- Work comes under review with a request. -/
theorem Rounds.Pending.request {r t : SubtaskRow} {v : ReviewRow} (hp : x.Paired) (hx : x.Pending)
    (work : x.subtask v.subtaskId = some r) (published : r.state = .artifactPublished)
    (digest : r.artifactDigest = some v.artifactDigest)
    (absent : x.subtask v.reviewSubtaskId = none) (kind : t.kind = .review)
    (new : x.review v.reviewId = none) (requested : v.state = .requested) :
    Rounds.Pending { x with
      subtask := put (put x.subtask v.reviewSubtaskId t) v.subtaskId
        { r with state := .reviewPending, updatedAt := now }
      review := put x.review v.reviewId v } := by
  have hclosed : ∀ {k v'}, x.review k = some v' → v'.isOpen → v'.subtaskId ≠ v.subtaskId := by
    intro k v' hv' hopen heq
    obtain ⟨-, hstate⟩ := hx.current hv' hopen (by rw [heq]; exact work)
    rw [published] at hstate
    rcases hstate with h | h <;> cases h
  refine ⟨fun {k₁ k₂ v₁ v₂} h₁ ho₁ h₂ ho₂ heq => ?_, fun {k v₁ r₁} h hopen hr₁ => ?_,
    fun {id r₁} hr₁ hwork hpending => ?_⟩
  · rcases put_eq_some.mp h₁ with ⟨rfl, rfl⟩ | ⟨-, h₁⟩ <;>
      rcases put_eq_some.mp h₂ with ⟨rfl, rfl⟩ | ⟨-, h₂⟩
    · rfl
    · exact absurd heq.symm (hclosed h₂ ho₂)
    · exact absurd heq (hclosed h₁ ho₁)
    · exact hx.single h₁ ho₁ h₂ ho₂ heq
  · rcases put_eq_some.mp h with ⟨-, rfl⟩ | ⟨-, h⟩
    · rw [← Option.some.inj (put_self.symm.trans hr₁)]
      exact ⟨digest, .inl rfl⟩
    · obtain ⟨-, r₂, -, -, hr₂, -⟩ := hp.subtask h
      have hr₁ := (put_of_ne (hclosed h hopen)).symm.trans hr₁
      obtain rfl := Option.some.inj ((put_of_new absent hr₂).symm.trans hr₁)
      exact hx.current h hopen hr₂
  · rcases put_eq_some.mp hr₁ with ⟨rfl, -⟩ | ⟨-, hr₁⟩
    · exact ⟨_, v, put_self, .inl requested, rfl⟩
    · rcases put_eq_some.mp hr₁ with ⟨-, rfl⟩ | ⟨-, hr₁⟩
      · rw [kind] at hwork
        cases hwork
      · obtain ⟨k, v₁, hv₁, hopen, hid⟩ := hx.reviewed hr₁ hwork hpending
        exact ⟨k, v₁, put_of_new new hv₁, hopen, hid⟩

/-- Work leaves review with a verdict. -/
theorem Rounds.Pending.decide {t t' r' : SubtaskRow} {v v' : ReviewRow}
    {claim : ClaimId → Option ClaimRow} (hp : x.Paired) (hx : x.Pending)
    (review : x.review v.reviewId = some v) (started : v.state = .inProgress)
    (decided : v'.state = .decided) (subtask : x.subtask v.reviewSubtaskId = some t)
    (kind : t.kind = .review) (done : t'.state = .decided) (judged : r'.state ≠ .reviewPending) :
    Rounds.Pending { x with
      subtask := put (put x.subtask v.reviewSubtaskId t') v.subtaskId r'
      review := put x.review v.reviewId v'
      claim := claim } := by
  have hothers : ∀ {k v₁}, put x.review v.reviewId v' k = some v₁ → v₁.isOpen →
      k ≠ v.reviewId ∧ x.review k = some v₁ := by
    intro k v₁ h hopen
    rcases put_eq_some.mp h with ⟨-, rfl⟩ | ⟨hne, h⟩
    · simp [ReviewRow.isOpen, decided] at hopen
    · exact ⟨hne, h⟩
  refine ⟨fun {k₁ k₂ v₁ v₂} h₁ ho₁ h₂ ho₂ heq => ?_, fun {k v₁ r₁} h hopen hr₁ => ?_,
    fun {id r₁} hr₁ hwork hpending => ?_⟩
  · exact hx.single (hothers h₁ ho₁).2 ho₁ (hothers h₂ ho₂).2 ho₂ heq
  · obtain ⟨hne, h⟩ := hothers h hopen
    obtain ⟨-, r₂, -, -, hr₂, hrk, -⟩ := hp.subtask h
    have hwork : v₁.subtaskId ≠ v.subtaskId := fun heq =>
      hne (hx.single h hopen review (.inr started) heq)
    have hreview : v₁.subtaskId ≠ v.reviewSubtaskId := by
      intro heq
      rw [heq, subtask] at hr₂
      cases hr₂
      rw [kind] at hrk
      cases hrk
    exact hx.current h hopen (((put_of_ne hwork).trans (put_of_ne hreview)).symm.trans hr₁)
  · rcases put_eq_some.mp hr₁ with ⟨-, rfl⟩ | ⟨hne, hr₁⟩
    · exact absurd hpending judged
    · rcases put_eq_some.mp hr₁ with ⟨-, rfl⟩ | ⟨-, hr₁⟩
      · rw [done] at hpending
        cases hpending
      · obtain ⟨k, v₁, hv₁, hopen, hid⟩ := hx.reviewed hr₁ hwork hpending
        refine ⟨k, v₁, (put_of_ne ?_).trans hv₁, hopen, hid⟩
        rintro rfl
        rw [review] at hv₁
        cases hv₁
        exact hne hid.symm

theorem Rounds.Pending.turn (hp : x.Paired) (hx : x.Pending) (h : Turn now x op x')
    (hop : ¬x.Republishes op) : x'.Pending := by
  cases h with
  | release => exact hx.steady hp (x.steady_close SubtaskRow.lapsed_steady)
  | abandon => exact hx.steady hp (x.steady_close SubtaskRow.given_steady)
  | cancel =>
    refine hx.steady hp ⟨fun k => rel_refl ReviewRow.Stays.refl _, fun id =>
      Change.of_rel (rel_map fun r _ => ?_)⟩
    split_ifs
    · exact r.cancelled_steady
    · exact .refl r
  | @start _ c t _ _ _ _ _ subtask kind _ _ _ started =>
    refine hx.steady hp ⟨fun k => ?_, fun id => Change.of_put SteadyRow.refl fun _ => ?_⟩
    · rcases started with ⟨-, rfl⟩ | ⟨-, rfl⟩
      · exact rel_refl ReviewRow.Stays.refl _
      · exact rel_map fun v _ => v.stays_start _ _ now
    · rw [subtask]
      refine ⟨rfl, fun hwork => ?_⟩
      rw [kind] at hwork
      cases hwork
  | @publish req c r review known claim subtask kind allowed knows reviews =>
    rcases reviews with ⟨hknown, rfl⟩ | ⟨hnew, rfl⟩
    · refine hx.publish (by simp)
        (fun k => rel_refl (fun v => ⟨.refl v, id, fun _ => rfl⟩) _) fun {k v} hv hopen hid => ?_
      exact hop ⟨req, rfl, hknown, c, claim, k, v, hv, hopen, hid⟩
    · refine hx.publish (by simp) (fun k => rel_map fun v _ =>
        ⟨v.sameRound_supersede _ _ now, fun h => (ReviewRow.isOpen_supersede h).1, fun hne => ?_⟩)
        fun {k v'} hv' hopen hid => ?_
      · rw [ReviewRow.supersede, if_neg fun h => hne h.1]
      · -- An open review is of a digest that is known, and this one is new.
        obtain ⟨v, hv, rfl⟩ := Option.map_eq_some_iff.mp hv'
        obtain ⟨-, hdigest⟩ := ReviewRow.isOpen_supersede hopen
        rw [(v.sameRound_supersede _ _ now).subtask] at hid
        exact hnew (hdigest hid ▸ hp.known hv)
  | request work _ published digest _ absent kind _ _ new requested =>
    exact hx.request hp work published digest absent kind new requested
  | decide review started decided _ subtask kind _ done _ _ _ _ _ judged =>
    exact hx.decide hp review started decided subtask kind done judged

section Runs

variable {env : Env} {calls : List Call}

/-- The call publishes an artifact that was published before, for work with an open review. -/
def Call.Republishes (env : Env) (s : Db) (c : Call) : Prop :=
  c.Commits env s ∧ ∃ req ∈ c.op.publishes, (s.artifacts.get? req.artifactDigest).isSome ∧
    ∃ claim ∈ s.claims.get? req.claimId, ∃ v ∈ s.reviews.rows, v.isOpen ∧
      v.subtaskId = claim.subtaskId

instance (env : Env) (s : Db) (c : Call) : Decidable (c.Republishes env s) :=
  inferInstanceAs (Decidable (_ ∧ ∃ _ ∈ _, _))

/-- The review is an open one of the work. -/
def Board.OpenReview (b : Board) (id : SubtaskId) (k : ReviewId) : Prop :=
  ∃ v, b.review k = some v ∧ v.isOpen ∧ v.subtaskId = id

/-- Work that is not abandoned has one open review at most, which is of its current artifact, and
    it is under review exactly if it has one. -/
structure ReviewsMatch (b : Board) : Prop where
  single : ∀ {id r}, b.subtask id = some r → r.kind = .work → r.state ≠ .abandoned →
    ∀ k k', b.OpenReview id k → b.OpenReview id k' → k = k'
  pending : ∀ {id r}, b.subtask id = some r → r.kind = .work → r.state ≠ .abandoned →
    (r.state = .reviewPending ↔ ∃! k, b.OpenReview id k)
  current : ∀ {id r}, b.subtask id = some r → r.kind = .work → r.state ≠ .abandoned →
    ∀ k v, b.review k = some v → v.isOpen → v.subtaskId = id →
      r.artifactDigest = some v.artifactDigest

/-- As long as no artifact is published again for work with an open review, work is under review
    exactly as long as it has an open review. -/
theorem reviews_match (hrun : Run.Along (next env)
      (fun s c => c.Proper s ∧ ¬c.Republishes env s) Db.init calls) :
    ReviewsMatch (reach env calls).board := by
  obtain ⟨-, hpending⟩ := reach_rounds (I := Rounds.Pending) hrun
    ⟨(nomatch ·), (nomatch ·), (nomatch ·)⟩ (fun hm _ hp h => h.steady hp hm.steady)
    fun {s c x} hG hcommits hturn _ hp h => h.turn hp hturn fun ⟨req, hreq, hknown, claim, hclaim, k, v, hv, hopen, hid⟩ =>
      hG ⟨hcommits, req, hreq, hknown, claim, hclaim, v, Table.mem_of_get? hv, hopen, hid⟩
  have hsingle : ∀ {id k k'}, (reach env calls).board.OpenReview id k →
      (reach env calls).board.OpenReview id k' → k = k' := by
    rintro id k k' ⟨v, hv, hopen, hid⟩ ⟨v', hv', hopen', hid'⟩
    exact hpending.single hv hopen hv' hopen' (hid.trans hid'.symm)
  refine ⟨fun _ _ _ k k' => hsingle, fun {id r} hr hkind hlive => ⟨fun h => ?_, ?_⟩,
    fun hr _ _ k v hv hopen hid => (hpending.current hv hopen (by rw [hid]; exact hr)).1⟩
  · obtain ⟨k, hk⟩ := hpending.reviewed hr hkind h
    exact ⟨k, hk, fun k' hk' => hsingle hk' hk⟩
  · rintro ⟨k, ⟨v, hv, hopen, hid⟩, -⟩
    exact (hpending.current hv hopen (by rw [hid]; exact hr)).2.resolve_right hlive

end Runs

namespace Script

/-- A review is under way, and the executor publishes the reviewed artifact once more. -/
def republished : List Call :=
  calls (underReview .canonicalApply ++
    [(9, publish (session 1) (claim 5) (fence 0) .patchBundle (digest "a"))])

end Script

open Script in
/-- Publishing the same artifact again takes the work out of review but leaves the review open. It
    cannot be decided any more, and no new one can be requested. -/
theorem reviews_match_republished :
    Run.Along (next Script.env) Call.Proper Db.init republished ∧
      ¬ReviewsMatch (reach Script.env republished).board ∧
      (∀ verdict ∈ [.approve, .changesRequested, .blocked],
        (step Script.env (reach Script.env republished)
          ⟨judge (session 2) (review 8) (claim 9) (fence 0) verdict (text "k"), 10, uuid 20⟩).1.isOk =
            false) ∧
      (step Script.env (reach Script.env republished)
        ⟨ask (session 0) (text "a") (digest "a") "again" (text "k"), 10, uuid 20⟩).1.isOk = false := by
  have hfacts : Run.Along (next Script.env) Call.Proper Db.init republished ∧
      (∃ r ∈ (reach Script.env republished).board.subtask (text "a"), r.kind = .work ∧
        r.state = .artifactPublished) ∧
      (∃ v ∈ (reach Script.env republished).board.review (review 8), v.isOpen ∧
        v.subtaskId = text "a") ∧
      (∀ verdict ∈ [.approve, .changesRequested, .blocked],
        (step Script.env (reach Script.env republished)
          ⟨judge (session 2) (review 8) (claim 9) (fence 0) verdict (text "k"), 10, uuid 20⟩).1.isOk =
            false) ∧
      (step Script.env (reach Script.env republished)
        ⟨ask (session 0) (text "a") (digest "a") "again" (text "k"), 10, uuid 20⟩).1.isOk = false := by
    decide +kernel
  obtain ⟨hrun, ⟨r, hr, hkind, hstate⟩, ⟨v, hv, hopen⟩, hstuck⟩ := hfacts
  refine ⟨hrun, fun h => ?_, hstuck⟩
  have hlive : r.state ≠ .abandoned := by
    rw [hstate]
    decide
  have hpending := (h.pending hr hkind hlive).mpr
    ⟨_, ⟨v, hv, hopen⟩, fun k hk => h.single hr hkind hlive _ _ hk ⟨v, hv, hopen⟩⟩
  rw [hstate] at hpending
  cases hpending

open Script in
theorem reviews_match_underReview :
    Run.Along (next Script.env) (fun s c => c.Proper s ∧ ¬c.Republishes Script.env s) Db.init
        (calls (underReview .canonicalApply)) ∧
      ReviewsMatch (reach Script.env (calls (underReview .canonicalApply))).board := by
  have hrun : Run.Along (next Script.env) (fun s c => c.Proper s ∧ ¬c.Republishes Script.env s)
      Db.init (calls (underReview .canonicalApply)) := by decide +kernel
  exact ⟨hrun, reviews_match hrun⟩

end Covey

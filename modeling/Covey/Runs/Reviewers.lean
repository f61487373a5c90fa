import Covey.Commits
import Covey.Ops.Status
import Covey.Runs.Rounds

/-!
# Reviewers and their reviews

A review and its review subtask are advanced by different statements. Expiry puts an open review
back with its subtask; `release_claim`, `abandon_subtask` and `cancel_meta_task` change the subtask
alone, and `publish_artifact` changes the review alone.

* `reviewers_match`: a review is in progress exactly as long as its reviewer works on its subtask,
  in runs in which no reviewer drops a review.
* `reviews_startable`: a review subtask that is offered can be started, in runs in which
  the work of an unfinished review subtask is left alone.
-/

namespace Covey

open Relational

variable {now : ℤ} {x x' : Rounds} {op : Operation}

/-! ## Reviews in progress -/

/-- The open review `v` and its review subtask `t` agree: the review is in progress exactly if its
    subtask is, and then the owner of the subtask's claim is the reviewer. -/
structure Rounds.AttendedBy (x : Rounds) (v : ReviewRow) (t : SubtaskRow) : Prop where
  live : t.state = .available ∨ t.state = .claimed ∨ t.state = .inProgress
  started : v.state = .inProgress ↔ t.state = .inProgress
  reviewer : v.state = .inProgress → ∃ k c, t.currentClaimId = some k ∧ x.claim k = some c ∧
    c.ownerSessionToken = v.reviewerSession

/-- Every open review agrees with its review subtask. -/
def Rounds.Attended (x : Rounds) : Prop :=
  ∀ ⦃k v t⦄, x.review k = some v → v.isOpen → x.subtask v.reviewSubtaskId = some t →
    x.AttendedBy v t

/-- Nothing about the review and its subtask has changed, or the subtask has been claimed. -/
theorem Rounds.AttendedBy.mono {v : ReviewRow} {t t' : SubtaskRow} (h : x.AttendedBy v t)
    (ht : t'.state = t.state ∧ t'.currentClaimId = t.currentClaimId ∨
      t.state = .available ∧ t'.state = .claimed)
    (howner : ∀ {k c}, t.currentClaimId = some k → x.claim k = some c →
      ∃ c', x'.claim k = some c' ∧ c'.ownerSessionToken = c.ownerSessionToken) :
    x'.AttendedBy v t' := by
  rcases ht with ⟨hstate, hcur⟩ | ⟨havailable, hclaimed⟩
  · refine ⟨hstate ▸ h.live, hstate ▸ h.started, fun hv => ?_⟩
    obtain ⟨k, c, hk, hc, hown⟩ := h.reviewer hv
    obtain ⟨c', hc', hown'⟩ := howner hk hc
    exact ⟨k, c', hcur.trans hk, hc', hown'.trans hown⟩
  · have hnot : v.state ≠ .inProgress := by
      rw [Ne, h.started, havailable]
      decide
    exact ⟨.inr (.inl hclaimed), iff_of_false hnot (by rw [hclaimed]; decide),
      fun hv => absurd hv hnot⟩

/-- A review that is requested, with a subtask that is available. -/
theorem Rounds.AttendedBy.of_available {v : ReviewRow} {t : SubtaskRow}
    (hv : v.state = .requested) (ht : t.state = .available) : x.AttendedBy v t := by
  have hnot : v.state ≠ .inProgress := by
    rw [hv]
    decide
  exact ⟨.inl ht, iff_of_false hnot (by rw [ht]; decide), fun h => absurd h hnot⟩

theorem SubtaskRow.lapsed_available {t : SubtaskRow}
    (h : t.state = .available ∨ t.state = .claimed ∨ t.state = .inProgress) :
    (t.lapsed now).state = .available := by
  rcases h with h | h | h <;> simp [SubtaskRow.lapsed, h]

/-- The claim that is closed is the current one of the review subtask that it is on, and no other
    review subtask changes. -/
theorem Rounds.Tied.close_subtask {c : ClaimRow} {state : ClaimState} {f : SubtaskRow → SubtaskRow}
    {id : SubtaskId} {t' : SubtaskRow} (htied : x.Tied) (hclaim : x.claim c.claimId = some c)
    (hheld : c.state = .held) (hf : ∀ r, (f r).kind = r.kind)
    (h : (x.close c state f now).subtask id = some t') (hkind : t'.kind = .review) :
    ∃ t, x.subtask id = some t ∧ t.kind = .review ∧
      (id = c.subtaskId ∧ t' = f t ∨ id ≠ c.subtaskId ∧ t' = t) := by
  obtain ⟨t, ht, rfl⟩ := modify_eq_some.mp h
  have htk : t.kind = .review := by
    split_ifs at hkind
    · exact (hf t).symm.trans hkind
    · exact hkind
    · exact hkind
  refine ⟨t, ht, htk, ?_⟩
  by_cases hid : id = c.subtaskId
  · refine .inl ⟨hid, ?_⟩
    rw [if_pos hid, if_pos ((htied ht htk _).mpr ⟨c, hclaim, hid.symm, hheld⟩)]
  · exact .inr ⟨hid, if_neg hid⟩

/-- Closing a claim, for the reviews of other subtasks. -/
theorem Rounds.Attended.close {c : ClaimRow} {state : ClaimState} {f : SubtaskRow → SubtaskRow}
    {k : ReviewId} {v : ReviewRow} {t' : SubtaskRow} (hx : x.Attended) (hp : x.Paired)
    (htied : x.Tied) (hclaim : x.claim c.claimId = some c) (hheld : c.state = .held)
    (hf : ∀ r, (f r).kind = r.kind) (hv : x.review k = some v) (hopen : v.isOpen)
    (ht' : (x.close c state f now).subtask v.reviewSubtaskId = some t') :
    (∃ t, x.subtask v.reviewSubtaskId = some t ∧ v.reviewSubtaskId = c.subtaskId ∧ t' = f t ∧
      x.AttendedBy v t) ∨
      v.reviewSubtaskId ≠ c.subtaskId ∧ (x.close c state f now).AttendedBy v t' := by
  obtain ⟨t₀, -, ht₀, htk₀, -⟩ := hp.subtask hv
  have hkind : t'.kind = .review := by
    obtain ⟨t, ht, rfl⟩ := modify_eq_some.mp ht'
    obtain rfl : t₀ = t := Option.some.inj (ht₀.symm.trans ht)
    split_ifs
    · exact (hf t₀).trans htk₀
    · exact htk₀
    · exact htk₀
  obtain ⟨t, ht, htk, ⟨hid, rfl⟩ | ⟨hid, rfl⟩⟩ := htied.close_subtask hclaim hheld hf ht' hkind
  · exact .inl ⟨t, ht, hid, rfl, hx hv hopen ht⟩
  · exact .inr ⟨hid, (hx hv hopen ht).mono (.inl ⟨rfl, rfl⟩) fun _ hc => owner_put hclaim rfl hc⟩

theorem RoundMove.attended (h : RoundMove now x x') (hp : x.Paired) (htied : x.Tied)
    (hx : x.Attended) : x'.Attended := by
  cases h with
  | calm calm _ =>
    intro k v t' hv hopen ht'
    rw [calm.review] at hv
    obtain ⟨t, -, ht, htk, -⟩ := hp.subtask hv
    obtain ⟨t₁, ht₁, hrow, -⟩ := (calm.subtask _).of_some ht
    obtain rfl : t' = t₁ := Option.some.inj (ht'.symm.trans ht₁)
    refine (hx hv hopen ht).mono ?_ fun {j c} hj hc => ?_
    · cases hrow with
      | same hstate _ hcur => exact .inl ⟨hstate, hcur⟩
      | claim available claimed => exact .inr ⟨available, claimed⟩
      | work kind =>
        rw [kind] at htk
        cases htk
      | cleanup kind =>
        rw [kind] at htk
        cases htk
    · obtain ⟨c', hc', hid, -⟩ := (htied ht htk j).mp hj
      obtain rfl : c = c' := Option.some.inj (hc.symm.trans hc')
      exact calm.owner hc (by rw [hid]; exact ht) htk
  | @expire c claim held =>
    intro k v' t' hv' hopen' ht'
    obtain ⟨v, hv, rfl⟩ := Option.map_eq_some_iff.mp hv'
    have hstays := v.stays_reset c.subtaskId now
    rw [hstays.1.reviewSubtask] at ht'
    have ht' : (x.close c .expired (SubtaskRow.lapsed now) now).subtask v.reviewSubtaskId = some t' :=
      ht'
    rcases hx.close (f := SubtaskRow.lapsed now) hp htied claim held (fun _ => rfl) hv (hstays.2.mp hopen') ht' with
      ⟨t, ht, hid, rfl, hattended⟩ | ⟨hid, hattended⟩
    · -- The review is put back with its subtask.
      refine .of_available ?_ (SubtaskRow.lapsed_available hattended.live)
      rcases hstays.2.mp hopen' with h | h
      · simp [ReviewRow.reset, h]
      · simp [ReviewRow.reset, hid, h]
    · rw [ReviewRow.reset, if_neg fun h => hid h.1]
      exact ⟨hattended.live, hattended.started, hattended.reviewer⟩

/-- The request of an operation that releases a claim. -/
def Operation.releases : Operation → Option ReleaseClaimReq
  | .releaseClaim req => some req
  | _ => none

/-- The request of an operation that abandons a subtask. -/
def Operation.abandons : Operation → Option AbandonSubtaskReq
  | .abandonSubtask req => some req
  | _ => none

/-- The request of an operation that cancels a meta-task. -/
def Operation.cancels : Operation → Option CancelMetaTaskReq
  | .cancelMetaTask req => some req
  | _ => none

/-- An open review loses its review subtask `t`: the subtask is released after it was started, it
    is abandoned, or its meta-task is cancelled. -/
def Operation.DropsReview (claim : ClaimId → Option ClaimRow) (op : Operation) (v : ReviewRow)
    (t : SubtaskRow) : Prop :=
  (∃ req ∈ op.releases, ∃ c ∈ claim req.claimId, c.subtaskId = v.reviewSubtaskId ∧
      t.state = .inProgress) ∨
    (∃ req ∈ op.abandons, ∃ c ∈ claim req.claimId, c.subtaskId = v.reviewSubtaskId) ∨
    ∃ req ∈ op.cancels, t.metaTaskId = req.metaTaskId

theorem Rounds.Attended.turn (hp : x.Paired) (htied : x.Tied) (hx : x.Attended)
    (h : Turn now x op x')
    (hop : ∀ {k v t}, x.review k = some v → v.isOpen → x.subtask v.reviewSubtaskId = some t →
      ¬op.DropsReview x.claim v t) : x'.Attended := by
  cases h with
  | @release req c named claim held =>
    intro k v t' hv hopen ht'
    rcases hx.close (f := SubtaskRow.lapsed now) hp htied claim held (fun _ => rfl) hv hopen ht' with
      ⟨t, ht, hid, rfl, hattended⟩ | ⟨-, hattended⟩
    · -- It was not started, so the review is still requested.
      have hidle : t.state ≠ .inProgress := fun hstate => hop hv hopen ht
        (.inl ⟨req, rfl, c, named ▸ claim, hid.symm, hstate⟩)
      refine .of_available ?_ (SubtaskRow.lapsed_available hattended.live)
      exact hopen.resolve_right fun h => hidle (hattended.started.mp h)
    · exact hattended
  | @abandon req c named claim held =>
    intro k v t' hv hopen ht'
    rcases hx.close (f := SubtaskRow.given now) hp htied claim held (fun _ => rfl) hv hopen ht' with
      ⟨t, ht, hid, -⟩ | ⟨-, hattended⟩
    · exact absurd (.inr (.inl ⟨req, rfl, c, named ▸ claim, hid.symm⟩)) (hop hv hopen ht)
    · exact hattended
  | @cancel req claim owners =>
    intro k v t' hv hopen ht'
    obtain ⟨t, ht, rfl⟩ := Option.map_eq_some_iff.mp ht'
    have hm : t.metaTaskId ≠ req.metaTaskId := fun hm =>
      hop hv hopen ht (.inr (.inr ⟨req, rfl, hm⟩))
    rw [if_neg hm]
    exact (hx hv hopen ht).mono (.inl ⟨rfl, rfl⟩) fun _ hc => owners hc
  | @start req c t v review claim held owner subtask kind claimed found of started =>
    -- The review of the started subtask is requested: its subtask was not in progress.
    have hrequested : v.state = .requested ∧ review = fun k =>
        (x.review k).map (ReviewRow.start c.subtaskId req.sessionToken now) := by
      rcases started with ⟨hstate, -⟩ | h
      · have := ((hx found (.inr hstate) (by rw [of]; exact subtask)).started).mp hstate
        rw [claimed] at this
        cases this
      · exact h
    obtain ⟨hrequested, rfl⟩ := hrequested
    intro k v₁' t' hv₁' hopen' ht'
    obtain ⟨v₁, hv₁, rfl⟩ := Option.map_eq_some_iff.mp hv₁'
    have hstays := v₁.stays_start c.subtaskId req.sessionToken now
    rw [hstays.1.reviewSubtask] at ht'
    by_cases hid : v₁.reviewSubtaskId = c.subtaskId
    · obtain rfl : k = v.reviewId := hp.alone hv₁ found (hid.trans of.symm)
      obtain rfl : v₁ = v := Option.some.inj (hv₁.symm.trans found)
      rw [hid] at ht'
      rw [← Option.some.inj (put_self.symm.trans ht'), ReviewRow.start, if_pos ⟨hid, hrequested⟩]
      exact ⟨.inr (.inr rfl), iff_of_true rfl rfl, fun _ => ⟨c.claimId, c,
        (htied subtask kind _).mpr ⟨c, claim, rfl, held⟩, claim, owner⟩⟩
    · rw [ReviewRow.start, if_neg fun h => hid h.1]
      exact (hx hv₁ (hstays.2.mp hopen') ((put_of_ne hid).symm.trans ht')).mono (.inl ⟨rfl, rfl⟩)
        fun _ hc => ⟨_, hc, rfl⟩
  | @publish req c r review known claim subtask kind allowed knows reviews =>
    intro k v' t' hv' hopen ht'
    obtain ⟨v, hv, rfl⟩ : ∃ v, x.review k = some v ∧ v' = v := by
      rcases reviews with ⟨-, rfl⟩ | ⟨-, rfl⟩
      · exact ⟨v', hv', rfl⟩
      · obtain ⟨v, hv, rfl⟩ := Option.map_eq_some_iff.mp hv'
        refine ⟨v, hv, ?_⟩
        unfold ReviewRow.supersede at hopen ⊢
        split_ifs at hopen ⊢ with hcond
        · rcases hopen with h | h <;> cases h
        · rfl
    obtain ⟨t, -, ht, htk, -⟩ := hp.subtask hv
    have hid : v'.reviewSubtaskId ≠ c.subtaskId := by
      intro hid
      rw [hid, subtask] at ht
      cases ht
      rw [kind] at htk
      cases htk
    exact (hx hv hopen ((put_of_ne hid).symm.trans ht')).mono (.inl ⟨rfl, rfl⟩)
      fun _ hc => ⟨_, hc, rfl⟩
  | @request _ r t v work workKind published digest known absent kind available metaTask new requested =>
    intro k v₁ t' hv₁ hopen ht'
    have hne : v.reviewSubtaskId ≠ v.subtaskId := by
      intro heq
      rw [heq, work] at absent
      cases absent
    rcases put_eq_some.mp hv₁ with ⟨-, rfl⟩ | ⟨-, hv₁⟩
    · rw [← Option.some.inj (((put_of_ne hne).trans put_self).symm.trans ht')]
      exact .of_available requested available
    · obtain ⟨t₁, -, ht₁, htk₁, -⟩ := hp.subtask hv₁
      have hwork : v₁.reviewSubtaskId ≠ v.subtaskId := by
        intro heq
        rw [heq, work] at ht₁
        cases ht₁
        rw [workKind] at htk₁
        cases htk₁
      rw [← Option.some.inj (((put_of_ne hwork).trans (put_of_new absent ht₁)).symm.trans ht')]
      exact (hx hv₁ hopen ht₁).mono (.inl ⟨rfl, rfl⟩) fun _ hc => ⟨_, hc, rfl⟩
  | @decide _ v v' t t' r r' claim review started decided same subtask kind active done sameReview work
      distinct digest live judged sameWork owners =>
    intro k v₁ t₁ hv₁ hopen ht₁
    rcases put_eq_some.mp hv₁ with ⟨-, rfl⟩ | ⟨hk, hv₁⟩
    · simp [ReviewRow.isOpen, decided] at hopen
    · obtain ⟨-, r₀, -, -, hr₀, hrk, -⟩ := hp.subtask review
      obtain ⟨t₂, -, ht₂, htk₂, -⟩ := hp.subtask hv₁
      have hreview : v₁.reviewSubtaskId ≠ v.reviewSubtaskId := fun heq => hk (hp.alone hv₁ review heq)
      have hwork : v₁.reviewSubtaskId ≠ v.subtaskId := by
        intro heq
        rw [heq, hr₀] at ht₂
        cases ht₂
        rw [hrk] at htk₂
        cases htk₂
      exact (hx hv₁ hopen (((put_of_ne hwork).trans (put_of_ne hreview)).symm.trans ht₁)).mono
        (.inl ⟨rfl, rfl⟩) fun _ hc => owners hc

section Runs

variable {env : Env} {calls : List Call}

/-- The call takes the review subtask away from an open review. -/
def Call.DropsReview (env : Env) (s : Db) (c : Call) : Prop :=
  c.Commits env s ∧ ∃ v ∈ s.reviews.rows, v.isOpen ∧
    ∃ t ∈ s.subtasks.get? v.reviewSubtaskId, c.op.DropsReview s.claims.get? v t

instance (claim : ClaimId → Option ClaimRow) (op : Operation) (v : ReviewRow) (t : SubtaskRow) :
    Decidable (op.DropsReview claim v t) :=
  inferInstanceAs (Decidable ((∃ _ ∈ _, ∃ _ ∈ _, _) ∨ (∃ _ ∈ _, ∃ _ ∈ _, _) ∨ ∃ _ ∈ _, _))

instance (env : Env) (s : Db) (c : Call) : Decidable (c.DropsReview env s) :=
  inferInstanceAs (Decidable (_ ∧ ∃ _ ∈ _, _))

/-- The subtask of an open review is not terminal, and the review is in progress exactly if its
    subtask is; then the subtask's held claim is the reviewer's. -/
def ReviewersMatch (b : Board) : Prop :=
  ∀ ⦃k v⦄, b.review k = some v → v.isOpen → ∃ t, b.subtask v.reviewSubtaskId = some t ∧
    ¬t.state.isTerminal ∧ (v.state = .inProgress ↔ t.state = .inProgress) ∧
    (v.state = .inProgress →
      (∃ c row, b.claim c = some row ∧ row.subtaskId = v.reviewSubtaskId ∧ row.state = .held) ∧
      ∀ c row, b.claim c = some row → row.subtaskId = v.reviewSubtaskId → row.state = .held →
        row.ownerSessionToken = v.reviewerSession)

/-- As long as no reviewer drops a review, a review is in progress exactly as long as its reviewer
    works on its subtask. -/
theorem reviewers_match (hrun : Run.Along (next env)
      (fun s c => c.Proper s ∧ ¬c.DropsReview env s) Db.init calls) :
    ReviewersMatch (reach env calls).board := by
  obtain ⟨hp, hattended⟩ := reach_rounds (I := Rounds.Attended) hrun
    (fun _ _ _ h => nomatch h) (fun hm htied hp h => hm.attended hp htied h)
    fun {s c x} hG hcommits hturn htied hp h => h.turn hp htied hturn fun {k v t} hv hopen ht hdrops =>
      hG ⟨hcommits, v, Table.mem_of_get? hv, hopen, t, ht, hdrops⟩
  have htied : (reach env calls).rounds.Tied := (reach_coherent (Run.Along.mono (fun _ _ h => h.1) hrun)).linked.tied
  intro k v hv hopen
  obtain ⟨t, -, ht, htk, -⟩ := hp.subtask hv
  have h := hattended hv hopen ht
  refine ⟨t, ht, ?_, h.started, fun hstate => ?_⟩
  · rcases h.live with h | h | h <;> rw [h] <;> decide
  · obtain ⟨j, c, hj, hc, hown⟩ := h.reviewer hstate
    obtain ⟨c', hc', hid, hheld⟩ := (htied ht htk j).mp hj
    refine ⟨⟨j, c', hc', hid, hheld⟩, fun j' row hrow hid' hheld' => ?_⟩
    have hj' := (htied ht htk j').mpr ⟨row, hrow, hid', hheld'⟩
    rw [hj] at hj'
    cases hj'
    rw [Option.some.inj (hrow.symm.trans hc), hown]

end Runs

namespace Script

/-- A review is under way, and the reviewer releases the claim on the review subtask. -/
def releasedReview : List Call :=
  calls (underReview .canonicalApply ++ [(9, release (session 2) (claim 9) (fence 0))])

/-- A review is under way, and the reviewer abandons the review subtask. -/
def abandonedReview : List Call :=
  calls (underReview .canonicalApply ++
    [(9, fun key => .abandonSubtask ⟨session 2, claim 9, fence 0, key⟩)])

end Script

open Script in
/-- A reviewer that releases the claim leaves the review in progress, without a reviewer; one that
    abandons the review subtask leaves the review open, with a subtask that has ended. -/
theorem reviewers_match_dropped :
    (Run.Along (next Script.env) Call.Proper Db.init releasedReview ∧
      ¬ReviewersMatch (reach Script.env releasedReview).board) ∧
    Run.Along (next Script.env) Call.Proper Db.init abandonedReview ∧
      ¬ReviewersMatch (reach Script.env abandonedReview).board := by
  have hfacts : (Run.Along (next Script.env) Call.Proper Db.init releasedReview ∧
        ∃ v ∈ (reach Script.env releasedReview).board.review (review 8), v.state = .inProgress ∧
          ∃ t ∈ (reach Script.env releasedReview).board.subtask v.reviewSubtaskId,
            t.state = .available) ∧
      Run.Along (next Script.env) Call.Proper Db.init abandonedReview ∧
        ∃ v ∈ (reach Script.env abandonedReview).board.review (review 8), v.state = .inProgress ∧
          ∃ t ∈ (reach Script.env abandonedReview).board.subtask v.reviewSubtaskId,
            t.state = .abandoned := by
    decide +kernel
  obtain ⟨⟨hrun, v, hv, hstate, t, ht, havailable⟩, hrun', v', hv', hstate', t', ht', hgone⟩ := hfacts
  refine ⟨⟨hrun, fun h => ?_⟩, hrun', fun h => ?_⟩
  · obtain ⟨t₁, ht₁, -, hstarted, -⟩ := h hv (.inr hstate)
    rw [Option.some.inj (ht₁.symm.trans ht), havailable] at hstarted
    cases hstarted.mp hstate
  · obtain ⟨t₁, ht₁, hterminal, -⟩ := h hv' (.inr hstate')
    rw [Option.some.inj (ht₁.symm.trans ht'), hgone] at hterminal
    exact hterminal (by decide)

open Script in
theorem reviewers_match_underReview :
    Run.Along (next Script.env) (fun s c => c.Proper s ∧ ¬c.DropsReview Script.env s) Db.init
        (calls (underReview .canonicalApply)) ∧
      ReviewersMatch (reach Script.env (calls (underReview .canonicalApply))).board := by
  have hrun : Run.Along (next Script.env) (fun s c => c.Proper s ∧ ¬c.DropsReview Script.env s)
      Db.init (calls (underReview .canonicalApply)) := by decide +kernel
  exact ⟨hrun, reviewers_match hrun⟩

/-! ## Review subtasks on offer -/

/-- A review subtask that a reviewer can still claim, start or decide. -/
def SubtaskRow.Unfinished (t : SubtaskRow) : Prop :=
  t.state = .available ∨ t.state = .claimed ∨ t.state = .inProgress

instance (t : SubtaskRow) : Decidable t.Unfinished := inferInstanceAs (Decidable (_ ∨ _))

/-- The review of a subtask in this state. -/
def SubtaskRow.reviewState (t : SubtaskRow) : ReviewState :=
  if t.state = .inProgress then .inProgress else .requested

/-- An unfinished review subtask has a review that is as far as it is, of work that is under review
    with the reviewed artifact. Work has one unfinished review subtask at most. -/
structure Rounds.Startable (x : Rounds) : Prop where
  review : ∀ {k v t}, x.review k = some v → x.subtask v.reviewSubtaskId = some t →
    t.Unfinished → v.state = t.reviewState
  work : ∀ {k v t r}, x.review k = some v → x.subtask v.reviewSubtaskId = some t → t.Unfinished →
    x.subtask v.subtaskId = some r →
    r.state = .reviewPending ∧ r.artifactDigest = some v.artifactDigest
  single : ∀ {k k' v v' t t'}, x.review k = some v → x.subtask v.reviewSubtaskId = some t →
    t.Unfinished → x.review k' = some v' → x.subtask v'.reviewSubtaskId = some t' → t'.Unfinished →
    v.subtaskId = v'.subtaskId → k = k'

/-- A change after which an unfinished review subtask was unfinished before, with its review as far
    as it is and its work still under review. -/
theorem Rounds.Startable.of_back (hp : x.Paired) (hx : x.Startable)
    (hback : ∀ {k v' t'}, x'.review k = some v' → x'.subtask v'.reviewSubtaskId = some t' →
      t'.Unfinished → ∃ v t, x.review k = some v ∧ v.SameRound v' ∧
        x.subtask v.reviewSubtaskId = some t ∧ t.Unfinished ∧ v'.state = t'.reviewState ∧
        ∀ {r r'}, x.subtask v.subtaskId = some r → r.state = .reviewPending →
          x'.subtask v.subtaskId = some r' →
          r'.state = .reviewPending ∧ r'.artifactDigest = r.artifactDigest) : x'.Startable where
  review hv' ht' hun := by
    obtain ⟨v, t, -, -, -, -, hstate, -⟩ := hback hv' ht' hun
    exact hstate
  work := by
    intro k v' t' r' hv' ht' hun hr'
    obtain ⟨v, t, hv, hsame, ht, hun', -, hkept⟩ := hback hv' ht' hun
    obtain ⟨-, r, -, -, hr, -⟩ := hp.subtask hv
    obtain ⟨hstate, hdigest⟩ := hx.work hv ht hun' hr
    rw [hsame.subtask] at hr'
    obtain ⟨hstate', hdigest'⟩ := hkept hr hstate hr'
    exact ⟨hstate', by rw [hdigest', hdigest, hsame.artifact]⟩
  single := by
    intro k₁ k₂ v₁' v₂' t₁' t₂' h₁ ht₁ hun₁ h₂ ht₂ hun₂ heq
    obtain ⟨v₁, t₁, hv₁, hs₁, ht₁, hun₁, -⟩ := hback h₁ ht₁ hun₁
    obtain ⟨v₂, t₂, hv₂, hs₂, ht₂, hun₂, -⟩ := hback h₂ ht₂ hun₂
    rw [hs₁.subtask, hs₂.subtask] at heq
    exact hx.single hv₁ ht₁ hun₁ hv₂ ht₂ hun₂ heq

theorem SubtaskRow.Unfinished.of_lapsed {t : SubtaskRow} (h : (t.lapsed now).Unfinished) :
    t.Unfinished := by
  unfold SubtaskRow.lapsed SubtaskRow.Unfinished at h
  dsimp only at h
  split_ifs at h with hstate
  · exact .inr hstate
  · exact h

/-- Work under review stays so when its claim lapses. -/
theorem Rounds.lapsed_work {c : ClaimRow} {id : SubtaskId} {r r' : SubtaskRow}
    (hr : x.subtask id = some r) (hstate : r.state = .reviewPending)
    (hr' : modify x.subtask c.subtaskId (fun r =>
      if r.currentClaimId = some c.claimId then r.lapsed now else r) id = some r') :
    r'.state = .reviewPending ∧ r'.artifactDigest = r.artifactDigest := by
  obtain ⟨r₁, hr₁, rfl⟩ := modify_eq_some.mp hr'
  obtain rfl : r = r₁ := Option.some.inj (hr.symm.trans hr₁)
  split_ifs
  · exact ⟨by simp [SubtaskRow.lapsed, hstate], rfl⟩
  · exact ⟨hstate, rfl⟩
  · exact ⟨hstate, rfl⟩

/-- The review subtask of a review, after a change that keeps the links. -/
theorem Rounds.Paired.kind_of_keeps {k : ReviewId} {v : ReviewRow} {t' : SubtaskRow} (hp : x.Paired)
    (hkeeps : x.Keeps x') (hv : x.review k = some v)
    (ht' : x'.subtask v.reviewSubtaskId = some t') : t'.kind = .review := by
  obtain ⟨t, -, ht, htk, -⟩ := hp.subtask hv
  obtain ⟨t₁, ht₁, hkind, -⟩ := (hkeeps.subtask _).of_some ht
  rw [Option.some.inj (ht'.symm.trans ht₁), hkind, htk]

theorem RoundMove.startable (h : RoundMove now x x') (hp : x.Paired) (htied : x.Tied)
    (hx : x.Startable) : x'.Startable := by
  refine hx.of_back hp fun {k v' t'} hv' ht' hun => ?_
  have hkeeps := h.keeps
  cases h with
  | calm calm _ =>
    rw [calm.review] at hv'
    obtain ⟨t, -, ht, htk, -⟩ := hp.subtask hv'
    obtain ⟨t₁, ht₁, hrow, -⟩ := (calm.subtask _).of_some ht
    obtain rfl : t' = t₁ := Option.some.inj (ht'.symm.trans ht₁)
    have hsame : t.Unfinished ∧ t.reviewState = t'.reviewState := by
      cases hrow with
      | same hstate _ _ =>
        unfold SubtaskRow.Unfinished SubtaskRow.reviewState at *
        rw [hstate] at hun ⊢
        exact ⟨hun, rfl⟩
      | claim available claimed => exact ⟨.inl available, by simp [SubtaskRow.reviewState, *]⟩
      | work kind =>
        rw [kind] at htk
        cases htk
      | cleanup kind =>
        rw [kind] at htk
        cases htk
    refine ⟨v', t, hv', .refl v', ht, hsame.1, (hx.review hv' ht hsame.1).trans hsame.2,
      fun {r r'} hr hstate hr' => ?_⟩
    obtain ⟨-, r₀, -, -, hr₀, hrk, -⟩ := hp.subtask hv'
    obtain rfl : r = r₀ := Option.some.inj (hr.symm.trans hr₀)
    obtain ⟨r₁, hr₁, hrow, -⟩ := (calm.subtask _).of_some hr
    obtain rfl : r' = r₁ := Option.some.inj (hr'.symm.trans hr₁)
    cases hrow with
    | same hstate' hdigest _ => exact ⟨hstate'.trans hstate, hdigest⟩
    | claim available =>
      rw [available] at hstate
      cases hstate
    | work _ idle => exact absurd hstate idle
    | cleanup kind =>
      rw [kind] at hrk
      cases hrk
  | @expire c claim held =>
    obtain ⟨v, hv, rfl⟩ := Option.map_eq_some_iff.mp hv'
    have hsame := v.sameRound_reset c.subtaskId now
    rw [hsame.reviewSubtask] at ht'
    have hkind := hp.kind_of_keeps hkeeps hv ht'
    have ht' : (x.close c .expired (SubtaskRow.lapsed now) now).subtask v.reviewSubtaskId = some t' :=
      ht'
    obtain ⟨t, ht, htk, hcase⟩ := htied.close_subtask (f := SubtaskRow.lapsed now) claim held
      (fun _ => rfl) ht' hkind
    have hun' : t.Unfinished := by
      rcases hcase with ⟨-, rfl⟩ | ⟨-, rfl⟩
      · exact hun.of_lapsed
      · exact hun
    refine ⟨v, t, hv, hsame, ht, hun', ?_, fun hr hstate hr' => Rounds.lapsed_work hr hstate hr'⟩
    have hstate := hx.review hv ht hun'
    rcases hcase with ⟨hid, rfl⟩ | ⟨hid, rfl⟩
    · rw [SubtaskRow.reviewState, SubtaskRow.lapsed_available hun', if_neg (by decide)]
      unfold SubtaskRow.reviewState at hstate
      split_ifs at hstate
      · simp [ReviewRow.reset, hid, hstate]
      · simp [ReviewRow.reset, hstate]
    · rw [ReviewRow.reset, if_neg fun h => hid h.1]
      exact hstate

/-- The work or the review subtask of an unfinished review is disturbed: the review subtask is
    released after it was started, or the work is abandoned or published again. -/
def Operation.DisturbsReview (claim : ClaimId → Option ClaimRow) (op : Operation) (v : ReviewRow)
    (t : SubtaskRow) : Prop :=
  (∃ req ∈ op.releases, ∃ c ∈ claim req.claimId, c.subtaskId = v.reviewSubtaskId ∧
      t.state = .inProgress) ∨
    (∃ req ∈ op.abandons, ∃ c ∈ claim req.claimId, c.subtaskId = v.subtaskId) ∨
    ∃ req ∈ op.publishes, ∃ c ∈ claim req.claimId, c.subtaskId = v.subtaskId

/-- A request makes a review that can be started. -/
theorem Rounds.Startable.request {r t : SubtaskRow} {v : ReviewRow} (hp : x.Paired)
    (hx : x.Startable) (work : x.subtask v.subtaskId = some r) (workKind : r.kind = .work)
    (published : r.state = .artifactPublished) (digest : r.artifactDigest = some v.artifactDigest)
    (absent : x.subtask v.reviewSubtaskId = none) (available : t.state = .available)
    (requested : v.state = .requested) :
    Rounds.Startable { x with
      subtask := put (put x.subtask v.reviewSubtaskId t) v.subtaskId
        { r with state := .reviewPending, updatedAt := now }
      review := put x.review v.reviewId v } := by
  have hne : v.reviewSubtaskId ≠ v.subtaskId := by
    intro heq
    rw [heq, work] at absent
    cases absent
  -- An unfinished review subtask of an old review is of other work.
  have hold : ∀ {k v₁ t'}, x.review k = some v₁ →
      put (put x.subtask v.reviewSubtaskId t) v.subtaskId
        { r with state := .reviewPending, updatedAt := now } v₁.reviewSubtaskId = some t' →
      t'.Unfinished → x.subtask v₁.reviewSubtaskId = some t' ∧ v₁.subtaskId ≠ v.subtaskId := by
    intro k v₁ t' hv₁ ht' hun
    obtain ⟨t₁, r₁, ht₁, htk₁, hr₁, -⟩ := hp.subtask hv₁
    have hwork : v₁.reviewSubtaskId ≠ v.subtaskId := by
      intro heq
      rw [heq, work] at ht₁
      cases ht₁
      rw [workKind] at htk₁
      cases htk₁
    obtain rfl : t₁ = t' :=
      Option.some.inj (((put_of_ne hwork).trans (put_of_new absent ht₁)).symm.trans ht')
    refine ⟨ht₁, fun heq => ?_⟩
    rw [heq, work] at hr₁
    cases hr₁
    have := (hx.work hv₁ ht₁ hun (by rw [heq]; exact work)).1
    rw [published] at this
    cases this
  have hnew : ∀ {t'}, put (put x.subtask v.reviewSubtaskId t) v.subtaskId
      { r with state := .reviewPending, updatedAt := now } v.reviewSubtaskId = some t' → t' = t :=
    fun h => (Option.some.inj (((put_of_ne hne).trans put_self).symm.trans h)).symm
  refine ⟨fun {k v₁ t'} hv₁ ht' hun => ?_, fun {k v₁ t' r₁} hv₁ ht' hun hr₁ => ?_,
    fun {k₁ k₂ v₁ v₂ t₁ t₂} h₁ ht₁ hun₁ h₂ ht₂ hun₂ heq => ?_⟩
  · rcases put_eq_some.mp hv₁ with ⟨-, rfl⟩ | ⟨-, hv₁⟩
    · rw [hnew ht', requested, SubtaskRow.reviewState, available, if_neg (by decide)]
    · exact hx.review hv₁ (hold hv₁ ht' hun).1 hun
  · rcases put_eq_some.mp hv₁ with ⟨-, rfl⟩ | ⟨-, hv₁⟩
    · rw [← Option.some.inj (put_self.symm.trans hr₁)]
      exact ⟨rfl, digest⟩
    · obtain ⟨ht₁, hwork⟩ := hold hv₁ ht' hun
      obtain ⟨-, r₂, -, -, hr₂, -⟩ := hp.subtask hv₁
      obtain rfl := Option.some.inj
        (((put_of_ne hwork).trans (put_of_new absent hr₂)).symm.trans hr₁)
      exact hx.work hv₁ ht₁ hun hr₂
  · rcases put_eq_some.mp h₁ with ⟨rfl, rfl⟩ | ⟨-, h₁⟩ <;>
      rcases put_eq_some.mp h₂ with ⟨rfl, rfl⟩ | ⟨-, h₂⟩
    · rfl
    · exact absurd heq.symm (hold h₂ ht₂ hun₂).2
    · exact absurd heq (hold h₁ ht₁ hun₁).2
    · exact hx.single h₁ (hold h₁ ht₁ hun₁).1 hun₁ h₂ (hold h₂ ht₂ hun₂).1 hun₂ heq

theorem Rounds.Startable.turn (hp : x.Paired) (htied : x.Tied) (hx : x.Startable)
    (h : Turn now x op x')
    (hop : ∀ {k v t}, x.review k = some v → x.subtask v.reviewSubtaskId = some t → t.Unfinished →
      ¬op.DisturbsReview x.claim v t) : x'.Startable := by
  cases h with
  | @release req c named claim held =>
    refine hx.of_back hp fun {k v t'} hv ht' hun => ?_
    obtain ⟨t, ht, htk, hcase⟩ := htied.close_subtask (f := SubtaskRow.lapsed now) claim held
      (fun _ => rfl) ht' (hp.kind_of_keeps (x.keeps_close (f := SubtaskRow.lapsed now) fun _ => ⟨rfl, rfl⟩)
        hv ht')
    have hun' : t.Unfinished := by
      rcases hcase with ⟨-, rfl⟩ | ⟨-, rfl⟩
      · exact hun.of_lapsed
      · exact hun
    refine ⟨v, t, hv, .refl v, ht, hun', ?_, fun hr hstate hr' => Rounds.lapsed_work hr hstate hr'⟩
    have hstate := hx.review hv ht hun'
    rcases hcase with ⟨hid, rfl⟩ | ⟨-, rfl⟩
    · have hidle : t.state ≠ .inProgress := fun hstate => hop hv ht hun'
        (.inl ⟨req, rfl, c, named ▸ claim, hid.symm, hstate⟩)
      rw [hstate, SubtaskRow.reviewState, SubtaskRow.reviewState,
        SubtaskRow.lapsed_available hun', if_neg hidle, if_neg (by decide)]
    · exact hstate
  | @abandon req c named claim held =>
    refine hx.of_back hp fun {k v t'} hv ht' hun => ?_
    obtain ⟨t, ht, htk, ⟨-, rfl⟩ | ⟨-, rfl⟩⟩ := htied.close_subtask (f := SubtaskRow.given now) claim
      held (fun _ => rfl) ht' (hp.kind_of_keeps (x.keeps_close (f := SubtaskRow.given now) fun _ => ⟨rfl, rfl⟩)
        hv ht')
    · rcases hun with h | h | h <;> cases h
    · refine ⟨v, t', hv, .refl v, ht, hun, hx.review hv ht hun, fun {r r'} hr hstate hr' => ?_⟩
      have hid : v.subtaskId ≠ c.subtaskId := fun hid => hop hv ht hun
        (.inr (.inl ⟨req, rfl, c, named ▸ claim, hid.symm⟩))
      rw [Option.some.inj (((modify_of_ne hid).trans hr).symm.trans hr')] at *
      exact ⟨hstate, rfl⟩
  | @cancel req claim owners =>
    refine hx.of_back hp fun {k v t'} hv ht' hun => ?_
    obtain ⟨t, ht, rfl⟩ := Option.map_eq_some_iff.mp ht'
    obtain ⟨t₁, r₁, ht₁, -, hr₁, -, hmeta⟩ := hp.subtask hv
    obtain rfl : t = t₁ := Option.some.inj (ht.symm.trans ht₁)
    have hm : t.metaTaskId ≠ req.metaTaskId := by
      intro hm
      rw [if_pos hm] at hun
      unfold SubtaskRow.cancelled SubtaskRow.Unfinished at hun
      dsimp only at hun
      split_ifs at hun with hterminal
      · unfold SubtaskState.isTerminal at hterminal
        rcases hun with h | h | h <;> simp [h] at hterminal
      · rcases hun with h | h | h <;> cases h
    rw [if_neg hm] at hun ⊢
    refine ⟨v, t, hv, .refl v, ht, hun, hx.review hv ht hun, fun {r r'} hr hstate hr' => ?_⟩
    obtain ⟨r₂, hr₂, rfl⟩ := Option.map_eq_some_iff.mp hr'
    obtain rfl : r = r₂ := Option.some.inj (hr.symm.trans hr₂)
    obtain rfl : r = r₁ := Option.some.inj (hr.symm.trans hr₁)
    rw [if_neg (hmeta ▸ hm)]
    exact ⟨hstate, rfl⟩
  | @start req c t v review claim held owner subtask kind claimed found of started =>
    have hstate : v.state = .requested := by
      rw [hx.review found (by rw [of]; exact subtask) (.inr (.inl claimed)), SubtaskRow.reviewState,
        claimed, if_neg (by decide)]
    have hreview : review = fun k => (x.review k).map (ReviewRow.start c.subtaskId req.sessionToken now) := by
      rcases started with ⟨hstarted, -⟩ | h
      · rw [hstate] at hstarted
        cases hstarted
      · exact h.2
    subst hreview
    refine hx.of_back hp fun {k v₁' t'} hv₁' ht' hun => ?_
    obtain ⟨v₁, hv₁, rfl⟩ := Option.map_eq_some_iff.mp hv₁'
    have hsame := v₁.sameRound_start c.subtaskId req.sessionToken now
    rw [hsame.reviewSubtask] at ht'
    have hwork : ∀ {r r'}, x.subtask v₁.subtaskId = some r → r.state = .reviewPending →
        put x.subtask c.subtaskId { t with state := .inProgress, updatedAt := now } v₁.subtaskId =
          some r' → r'.state = .reviewPending ∧ r'.artifactDigest = r.artifactDigest := by
      intro r r' hr hpending hr'
      have hid : v₁.subtaskId ≠ c.subtaskId := by
        intro hid
        rw [hid, subtask] at hr
        cases hr
        rw [claimed] at hpending
        cases hpending
      rw [← Option.some.inj (((put_of_ne hid).trans hr).symm.trans hr')]
      exact ⟨hpending, rfl⟩
    by_cases hid : v₁.reviewSubtaskId = c.subtaskId
    · obtain rfl : k = v.reviewId := hp.alone hv₁ found (hid.trans of.symm)
      obtain rfl : v₁ = v := Option.some.inj (hv₁.symm.trans found)
      refine ⟨v₁, t, hv₁, hsame, by rw [hid]; exact subtask, .inr (.inl claimed), ?_, hwork⟩
      rw [hid] at ht'
      rw [← Option.some.inj (put_self.symm.trans ht'), ReviewRow.start, if_pos ⟨hid, hstate⟩]
      rfl
    · have ht := (put_of_ne hid).symm.trans ht'
      refine ⟨v₁, t', hv₁, hsame, ht, hun, ?_, hwork⟩
      rw [ReviewRow.start, if_neg fun h => hid h.1]
      exact hx.review hv₁ ht hun
  | @publish req c r review known claim subtask kind allowed knows reviews =>
    have hside : ∀ {k v t'}, x.review k = some v →
        put x.subtask c.subtaskId { r with artifactDigest := some req.artifactDigest, state := .artifactPublished, updatedAt := now } v.reviewSubtaskId = some t' → t'.Unfinished →
        x.subtask v.reviewSubtaskId = some t' ∧ v.subtaskId ≠ c.subtaskId := by
      intro k v t' hv ht' hun
      obtain ⟨t, -, ht, htk, -⟩ := hp.subtask hv
      have hid : v.reviewSubtaskId ≠ c.subtaskId := by
        intro hid
        rw [hid, subtask] at ht
        cases ht
        rw [kind] at htk
        cases htk
      have ht' := (put_of_ne hid).symm.trans ht'
      exact ⟨ht', fun hid => hop hv ht' hun (.inr (.inr ⟨req, rfl, c, claim, hid.symm⟩))⟩
    refine hx.of_back hp fun {k v' t'} hv' ht' hun => ?_
    obtain ⟨v, hv, hsame, hstays⟩ : ∃ v, x.review k = some v ∧ v.SameRound v' ∧
        (v.subtaskId ≠ c.subtaskId → v' = v) := by
      rcases reviews with ⟨-, rfl⟩ | ⟨-, rfl⟩
      · exact ⟨v', hv', .refl v', fun _ => rfl⟩
      · obtain ⟨v, hv, rfl⟩ := Option.map_eq_some_iff.mp hv'
        exact ⟨v, hv, v.sameRound_supersede _ _ now, fun hne => if_neg fun h => hne h.1⟩
    rw [hsame.reviewSubtask] at ht'
    obtain ⟨ht, hne⟩ := hside hv ht' hun
    rw [hstays hne]
    refine ⟨v, t', hv, .refl v, ht, hun, hx.review hv ht hun, fun {r₁ r'} hr hstate hr' => ?_⟩
    rw [← Option.some.inj (((put_of_ne hne).trans hr).symm.trans hr')]
    exact ⟨hstate, rfl⟩
  | request work workKind published digest _ absent _ available _ _ requested =>
    exact hx.request hp work workKind published digest absent available requested
  | @decide _ v v' t t' r r' claim review started decided same subtask kind active done sameReview work
      distinct digest live judged sameWork owners =>
    refine hx.of_back hp fun {k v₁ t₁} hv₁ ht₁ hun => ?_
    obtain ⟨-, r₀, -, -, hr₀, hrk, -⟩ := hp.subtask review
    have hreviewNe : ∀ {k v₂}, x.review k = some v₂ → v₂.reviewSubtaskId ≠ v.subtaskId := by
      intro k v₂ hv₂ heq
      obtain ⟨t₂, -, ht₂, htk₂, -⟩ := hp.subtask hv₂
      rw [heq, hr₀] at ht₂
      cases ht₂
      rw [hrk] at htk₂
      cases htk₂
    rcases put_eq_some.mp hv₁ with ⟨rfl, rfl⟩ | ⟨hk, hv₁⟩
    · -- The decided review subtask has ended.
      rw [same.reviewSubtask] at ht₁
      rw [← Option.some.inj (((put_of_ne (hreviewNe review)).trans put_self).symm.trans ht₁)] at hun
      rcases hun with h | h | h <;> rw [done] at h <;> cases h
    · have hreview : v₁.reviewSubtaskId ≠ v.reviewSubtaskId := fun heq => hk (hp.alone hv₁ review heq)
      have ht := ((put_of_ne (hreviewNe hv₁)).trans (put_of_ne hreview)).symm.trans ht₁
      have hwork : v₁.subtaskId ≠ v.subtaskId := fun heq =>
        hk (hx.single hv₁ ht hun review subtask (.inr (.inr active)) heq)
      refine ⟨v₁, t₁, hv₁, .refl v₁, ht, hun, hx.review hv₁ ht hun, fun {r₁ r₂} hr hstate hr' => ?_⟩
      have hne : v₁.subtaskId ≠ v.reviewSubtaskId := by
        intro heq
        rw [heq, subtask] at hr
        cases hr
        rw [active] at hstate
        cases hstate
      rw [← Option.some.inj (((put_of_ne hwork).trans ((put_of_ne hne).trans hr)).symm.trans hr')]
      exact ⟨hstate, rfl⟩

/-- The review subtask is on offer: `claim_next` hands it out next, or the reviewers' candidate list
    or availability count includes it. -/
inductive Db.OffersReview (s : Db) (id : SubtaskId) : Prop
  | next {routingKey : RoutingKey} {m : Option MetaTaskId} {now : ℤ}
      (h : (orderedClaimCandidate .review .available routingKey m now s).1 = .ok (some id))
  | listed {routingKey : RoutingKey} {limit : ℕ} {m : Option MetaTaskId} {now : ℤ}
      {candidates : List SubtaskCandidate}
      (h : subtaskCandidatesRouted s .reviewer routingKey limit m now = .ok candidates)
      (mem : id ∈ candidates.map (·.subtaskId))
  | counted {routingKey : RoutingKey} {m : Option MetaTaskId}
      (mem : id ∈ (claimableReviews s routingKey m).map (·.subtaskId))

/-- Every review subtask on offer belongs to a requested review of work that is under review with
    the reviewed artifact, and whoever claims it can start it. -/
def ReviewsStartable (s : Db) : Prop :=
  ∀ ⦃id⦄, s.OffersReview id → ∃ k v r, s.board.review k = some v ∧ v.reviewSubtaskId = id ∧
    v.state = .requested ∧ s.board.subtask v.subtaskId = some r ∧ r.state = .reviewPending ∧
    r.artifactDigest = some v.artifactDigest ∧
    ∀ token now, (startReview id token now s).1.isOk = true

theorem ReviewsStartable.exists_requested {s : Db} {id : SubtaskId} (h : ReviewsStartable s)
    (hoffers : s.OffersReview id) :
    ∃ v ∈ s.reviews.rows, v.reviewSubtaskId = id ∧ v.state = .requested := by
  obtain ⟨k, v, -, hv, hid, hstate, -⟩ := h hoffers
  exact ⟨v, Table.mem_of_get? hv, hid, hstate⟩

theorem mem_of_mem_sqlLimit {α : Type} {limit : ℕ} {rows : List α} {a : α}
    (h : a ∈ sqlLimit limit rows) : a ∈ rows := by
  unfold sqlLimit at h
  dsimp only at h
  split_ifs at h
  · exact h
  · exact List.mem_of_mem_take h

theorem SubtaskCandidate.new_ok {r : SubtaskRow} {effectivePriority : ℤ} {repair : Bool} {n : ℕ}
    {c : SubtaskCandidate} (h : SubtaskCandidate.new r effectivePriority repair n = .ok c) :
    c.subtaskId = r.subtaskId := by
  unfold SubtaskCandidate.new at h
  cases htarget : r.reviewTarget with
  | error reason => simp [htarget, bind, Except.bind] at h
  | ok target =>
    simp only [htarget, bind, Except.bind] at h
    split_ifs at h
    cases h
    rfl

/-- Whatever offers a review subtask, it is an available one. -/
theorem Db.OffersReview.available {s : Db} {id : SubtaskId} (h : s.OffersReview id) :
    ∃ t, s.board.subtask id = some t ∧ t.kind = .review ∧ t.state = .available := by
  have hcounted : ∀ {routingKey m}, id ∈ (claimableReviews s routingKey m).map (·.subtaskId) →
      ∃ t, s.board.subtask id = some t ∧ t.kind = .review ∧ t.state = .available := by
    intro routingKey m hmem
    obtain ⟨t, ht, rfl⟩ := List.mem_map.mp hmem
    obtain ⟨hrow, hkind, hstate, -⟩ := Table.mem_select.mp ht
    exact ⟨t, Table.mem_iff_get?.mp hrow, hkind, hstate⟩
  cases h with
  | counted mem => exact hcounted mem
  | @listed routingKey limit m now candidates h mem =>
    obtain ⟨c, hc, rfl⟩ := List.mem_map.mp mem
    unfold subtaskCandidatesRouted at h
    split_ifs at h
    · cases h
      cases hc
    · obtain ⟨r, hr, hnew⟩ := (mem_of_mapM h).mp hc
      refine @hcounted routingKey m (List.mem_map.mpr ⟨r, ?_, ?_⟩)
      · exact (List.mem_insertionSort _).mp (mem_of_mem_sqlLimit hr)
      · cases hcand : SubtaskCandidate.new r r.priority.val false 0 with
        | error reason => simp [hcand, observed] at hnew
        | ok c' =>
          rw [hcand] at hnew
          cases hnew
          exact (SubtaskCandidate.new_ok hcand).symm
  | @next routingKey m now h =>
    obtain ⟨t, ht, rfl⟩ : ∃ t ∈ s.subtasks.select (fun r => r.kind = .review ∧ r.state = .available ∧
        r.routingKey = routingKey ∧ (∀ m' ∈ m, r.metaTaskId = m') ∧
        metaTaskIsClaimable s r.metaTaskId), t.subtaskId = id := by
      have hhead : (((s.subtasks.select (fun r => r.kind = .review ∧ r.state = .available ∧
        r.routingKey = routingKey ∧ (∀ m' ∈ m, r.metaTaskId = m') ∧
        metaTaskIsClaimable s r.metaTaskId)).insertionSort reviewOrder).head?.map (·.subtaskId)) =
          some id := Except.ok.inj h
      obtain ⟨t, ht, hid⟩ := Option.map_eq_some_iff.mp hhead
      exact ⟨t, (List.mem_insertionSort _).mp (List.mem_of_mem_head? ht), hid⟩
    obtain ⟨hrow, hkind, hstate, -⟩ := Table.mem_select.mp ht
    exact ⟨t, Table.mem_iff_get?.mp hrow, hkind, hstate⟩

/-- A requested review can be started. -/
theorem startReview_isOk {s : Db} {v : ReviewRow} {token : SessionToken} (hv : v ∈ s.reviews.rows)
    (hstate : v.state = .requested) (halone : ∀ v' ∈ s.reviews.rows,
      v'.reviewSubtaskId = v.reviewSubtaskId → v' = v) :
    (startReview v.reviewSubtaskId token now s).1.isOk = true := by
  have hmem : v ∈ s.reviews.select fun r => r.reviewSubtaskId = v.reviewSubtaskId :=
    Table.mem_select.mpr ⟨hv, rfl⟩
  obtain ⟨v', hhead⟩ : ∃ v', (s.reviews.select fun r =>
      r.reviewSubtaskId = v.reviewSubtaskId).head? = some v' :=
    Option.isSome_iff_exists.mp (by
      rw [List.isSome_head?]
      exact List.ne_nil_of_mem hmem)
  obtain ⟨hv', hsame⟩ := Table.mem_select.mp (List.mem_of_mem_head? hhead)
  obtain rfl := halone v' hv' hsame
  obtain ⟨reviews, hupdate⟩ := Table.exists_update (t := s.reviews)
    (p := fun r => r.reviewSubtaskId = v'.reviewSubtaskId ∧ r.state = v'.state)
    (f := fun r => { r with state := .inProgress, reviewerSession := token, updatedAt := now })
    (fun _ _ => rfl) (by simp +contextual [reviewSchema, hstate])
    (by simp +contextual [reviewSchema, ReviewRow.isOpen, hstate])
    (by simp +contextual [reviewSchema, ReviewRow.isOpen, hstate])
  have hrun : startReview v'.reviewSubtaskId token now s = (.ok (), { s with reviews }) := by
    simp only [startReview, Tx.bind_ok, selectFrom_ok, and_assoc, exists_and_left,
      exists_eq_left']
    erw [hhead]
    refine Tx.whenever_ok.mpr (.inl ⟨by simp [hstate], ?_⟩)
    simp only [Tx.bind_ok, Tx.lift_ok, ensureReviewTransition_ok, updateIn_ok, Tx.pure_ok, and_assoc,
        exists_and_left, exists_eq_left', Tx.exists_unit]
    refine ⟨by rw [hstate]; rfl, _, _, ⟨_, hupdate, rfl, rfl⟩, trivial, rfl⟩
  rw [hrun]
  rfl

section Runs

variable {env : Env} {calls : List Call}

/-- The call disturbs the review of an unfinished review subtask. -/
def Call.DisturbsReview (env : Env) (s : Db) (c : Call) : Prop :=
  c.Commits env s ∧ ∃ v ∈ s.reviews.rows, ∃ t ∈ s.subtasks.get? v.reviewSubtaskId,
    t.Unfinished ∧ c.op.DisturbsReview s.claims.get? v t

instance (claim : ClaimId → Option ClaimRow) (op : Operation) (v : ReviewRow) (t : SubtaskRow) :
    Decidable (op.DisturbsReview claim v t) :=
  inferInstanceAs (Decidable ((∃ _ ∈ _, ∃ _ ∈ _, _) ∨ (∃ _ ∈ _, ∃ _ ∈ _, _) ∨ ∃ _ ∈ _, ∃ _ ∈ _, _))

instance (env : Env) (s : Db) (c : Call) : Decidable (c.DisturbsReview env s) :=
  inferInstanceAs (Decidable (_ ∧ ∃ _ ∈ _, ∃ _ ∈ _, _))

/-- As long as the work of an unfinished review subtask is left alone, and no reviewer releases a
    review subtask after starting it, every review subtask on offer can be started. -/
theorem reviews_startable (hrun : Run.Along (next env)
      (fun s c => c.Proper s ∧ ¬c.DisturbsReview env s) Db.init calls) :
    ReviewsStartable (reach env calls) := by
  obtain ⟨hp, hx⟩ := reach_rounds (I := Rounds.Startable) hrun
    ⟨(nomatch ·), (nomatch ·), (nomatch ·)⟩ (fun hm htied hp h => hm.startable hp htied h)
    fun {s c x} hG hcommits hturn htied hp h => h.turn hp htied hturn fun {k v t} hv ht hun hdisturbs =>
      hG ⟨hcommits, v, Table.mem_of_get? hv, t, ht, hun, hdisturbs⟩
  intro id hoffers
  obtain ⟨t, ht, hkind, havailable⟩ := hoffers.available
  obtain ⟨k, v, hv, rfl⟩ := hp.review ht hkind
  obtain ⟨-, r, -, -, hr, -⟩ := hp.subtask hv
  obtain ⟨hpending, hdigest⟩ := hx.work hv ht (.inl havailable) hr
  have hstate : v.state = .requested := by
    rw [hx.review hv ht (.inl havailable), SubtaskRow.reviewState, havailable, if_neg (by decide)]
  refine ⟨k, v, r, hv, rfl, hstate, hr, hpending, hdigest, fun token now =>
    startReview_isOk (Table.mem_of_get? hv) hstate fun v' hv' heq => ?_⟩
  have hk := hp.alone (Table.mem_iff_get?.mp hv') hv heq
  have hget := Table.mem_iff_get?.mp hv'
  rw [hk] at hget
  exact Option.some.inj (hget.symm.trans hv)

end Runs

namespace Script

/-- A review of the artifact of the work `a` is requested, and before anyone claims it the executor
    publishes another artifact, of which a review is requested as well. -/
def supersededReview : List (ℤ × (IdempotencyKey → Operation)) :=
  (underReview .canonicalApply).take 9 ++
    [(7, publish (session 1) (claim 5) (fence 0) .patchBundle (digest "b")),
      (8, ask (session 0) (text "a") (digest "b") "review2")]

/-- The reviewer takes what `claim_next` hands out, here as call 11. -/
def takeNext (k : SessionToken) (key : IdempotencyKey) : Operation :=
  .claimNextSubtask ⟨k, lease, none, key⟩

end Script

open Script in
/-- The superseded round keeps the head of the reviewers' queue: it is what `claim_next` hands out, and
    whoever claims it cannot start it. -/
theorem reviews_startable_superseded :
    Run.Along (next Script.env) Call.Proper Db.init (calls supersededReview) ∧
      ¬ReviewsStartable (reach Script.env (calls supersededReview)) ∧
      (orderedClaimCandidate .review .available (text "lane") none 9
        (reach Script.env (calls supersededReview))).1 = .ok (some (text "review")) ∧
      (step Script.env (reach Script.env (calls (supersededReview ++ [(9, takeNext (session 2))])))
        ⟨start (session 2) (claim 11) (fence 0) (text "k"), 10, uuid 20⟩).1.isOk = false := by
  have hfacts : Run.Along (next Script.env) Call.Proper Db.init (calls supersededReview) ∧
      (∀ v ∈ (reach Script.env (calls supersededReview)).reviews.rows,
        v.reviewSubtaskId = text "review" → v.state ≠ .requested) ∧
      (orderedClaimCandidate .review .available (text "lane") none 9
        (reach Script.env (calls supersededReview))).1.toOption = some (some (text "review")) ∧
      (step Script.env (reach Script.env (calls (supersededReview ++ [(9, takeNext (session 2))])))
        ⟨start (session 2) (claim 11) (fence 0) (text "k"), 10, uuid 20⟩).1.isOk = false := by
    decide +kernel
  obtain ⟨hrun, hclosed, hnext, hstart⟩ := hfacts
  have hnext : (orderedClaimCandidate .review .available (text "lane") none 9
      (reach Script.env (calls supersededReview))).1 = .ok (some (text "review")) :=
    eq_ok_of_toOption hnext
  refine ⟨hrun, fun h => ?_, hnext, hstart⟩
  obtain ⟨v, hv, hid, hstate⟩ := h.exists_requested (.next hnext)
  exact hclosed v hv hid hstate

open Script in
theorem reviews_startable_requested :
    Run.Along (next Script.env) (fun s c => c.Proper s ∧ ¬c.DisturbsReview Script.env s) Db.init
        (calls ((underReview .canonicalApply).take 9)) ∧
      ReviewsStartable (reach Script.env (calls ((underReview .canonicalApply).take 9))) := by
  have hrun : Run.Along (next Script.env) (fun s c => c.Proper s ∧ ¬c.DisturbsReview Script.env s)
      Db.init (calls ((underReview .canonicalApply).take 9)) := by decide +kernel
  exact ⟨hrun, reviews_startable hrun⟩

end Covey

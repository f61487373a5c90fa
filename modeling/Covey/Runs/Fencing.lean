import Covey.Runs.Claims
import Mathlib.Data.List.Induction
import Mathlib.Order.Bounds.Defs

/-!
# Fences along runs

A claim-fenced call names a claim and presents a fence. What it finds, unless it
is a replay, and how the fences of one subtask follow each other.

* `Call.Commits.holdsClaim`: an accepted claim-fenced call finds the claim held by
  its caller under the presented fence, with a lease that runs.
* `fences_increase`: the fences issued for a subtask increase, an accepted call
  presents the largest of them, and a call with an older one changes nothing.
-/

namespace Covey

open Relational

/-! ## Claim-fenced calls -/

/-- The session, the claim and the fence that a claim-fenced operation presents. -/
def Operation.fenced : Operation → Option (SessionToken × ClaimId × FenceSeq)
  | .startSubtask req | .abandonSubtask req | .releaseClaim req =>
    some (req.sessionToken, req.claimId, req.fenceSeq)
  | .renewClaim req => some (req.sessionToken, req.claimId, req.fenceSeq)
  | .finishSubtask req => some (req.sessionToken, req.claimId, req.fenceSeq)
  | .retrySubtask req | .failSubtask req => some (req.sessionToken, req.claimId, req.fenceSeq)
  | .publishArtifact req => some (req.sessionToken, req.claimId, req.fenceSeq)
  | .decideReview req => some (req.sessionToken, req.claimId, req.fenceSeq)
  | .recordPermissiveLandingReceipt req => some (req.sessionToken, req.claimId, req.fenceSeq)
  | .finishOpenSpecArchiveCleanup req => some (req.sessionToken, req.cleanupClaimId, req.fenceSeq)
  | _ => none

/-- The time with which a claim-fenced operation compares the deadline: the lease clock after it
    has seen the wall reading, except for the end of a cleanup, which takes the reading itself. -/
def Operation.leaseTime (s : Db) (now : ℤ) : Operation → ℤ
  | .finishOpenSpecArchiveCleanup _ => now
  | _ => max s.leaseClock (max now 0)

/-- The session holds the claim under the fence, with a lease that runs at `t`. -/
structure HoldsClaim (b : Board) (k : SessionToken) (c : ClaimId) (n : FenceSeq) (t : ℤ)
    (row : ClaimRow) : Prop where
  claim : b.claim c = some row
  owner : row.ownerSessionToken = k
  fenced : row.fenceSeq = n.val
  held : row.state = .held
  live : t < row.leaseDeadline

section Guards

variable {env : Env} {now leaseNow : ℤ} {s s' : Db} {v : Response} {c : Call} {k : SessionToken}
  {id : ClaimId} {n : FenceSeq}

theorem HoldsClaim.of_current {row : ClaimRow}
    (h : requireCurrentClaim k id n leaseNow s = (.ok row, s')) :
    HoldsClaim s.board k id n leaseNow row := by
  obtain ⟨⟨-, hclaim, -, hown, hfence, hheld, hlive⟩, -⟩ := requireCurrentClaim_ok.mp h
  exact ⟨hclaim, hown, hfence, hheld, hlive⟩

theorem HoldsClaim.of_context {ctx : ClaimContext}
    (h : loadClaimContext k id n leaseNow s = (.ok ctx, s')) :
    HoldsClaim s.board k id n leaseNow ctx.claim := by
  obtain ⟨-, hctx⟩ := loadClaimContext_ok h
  exact ⟨hctx.claim, hctx.owner, hctx.fenced, hctx.held, hctx.live⟩

theorem HoldsClaim.of_review {session : SessionRow} {reviewId : ReviewId} {ctx : ReviewContext}
    {checkReview : ReviewRow → Except CoveyError Unit}
    {checkWork : SubtaskRow → Except CoveyError Unit}
    (h : loadReviewContext session k reviewId id n leaseNow checkReview checkWork s =
      (.ok ctx, s')) : HoldsClaim s.board k id n leaseNow ctx.claim := by
  obtain ⟨-, hctx, -⟩ := loadReviewContext_ok h
  exact ⟨hctx.claim, hctx.owner, hctx.fenced, hctx.held, hctx.lease⟩

/-- What the body of a mutation finds, a first accepted call of it finds. -/
theorem leasedMutation_holds {actorKey operation : String} {key : IdempotencyKey} {request : Request}
    {body : ℤ → Txn Response} (hnew : s.idempotency.get? (actorKey, operation, key.val) = none)
    (hbody : ∀ {leaseNow s₀ v s₁}, body leaseNow s₀ = (.ok v, s₁) →
      ∃ row, HoldsClaim s₀.board k id n leaseNow row)
    (h : leasedMutation actorKey operation key request now body s = (.ok v, s')) :
    ∃ row, HoldsClaim s.board k id n (max s.leaseClock (max now 0)) row := by
  obtain ⟨leaseNow, rfl, ⟨⟨row, hrow, -⟩, -⟩ | ⟨s₀, s₁, hs₀, hrun, -⟩⟩ := leasedMutation_run h
  · rw [hnew] at hrow
    cases hrow
  · have hb₀ : s₀.board = s.board := by rw [hs₀]; rfl
    rw [← hb₀]
    exact hbody hrun

theorem recordDirectOutcome_holds {eventType : EventType} {input : OutcomeInput}
    (h : recordDirectOutcome eventType input leaseNow now s = (.ok v, s')) :
    ∃ row, HoldsClaim s.board input.sessionToken input.claimId input.fenceSeq leaseNow row := by
  simp only [recordDirectOutcome, Tx.bind_ok] at h
  obtain ⟨ctx, _, hctx, -⟩ := h
  exact ⟨ctx.claim, .of_context hctx⟩

theorem finishOpenSpecArchiveCleanup_holds {req : FinishOpenSpecArchiveCleanupReq}
    (hnew : s.idempotency.get? (req.sessionToken.val, "finish_openspec_archive_cleanup",
      req.idempotencyKey.val) = none)
    (h : finishOpenSpecArchiveCleanup req now s = (.ok v, s')) :
    ∃ row, HoldsClaim s.board req.sessionToken req.cleanupClaimId req.fenceSeq now row := by
  rcases mutation_run h with ⟨⟨row, hrow, -⟩, -⟩ | ⟨s₁, hrun, -⟩
  · rw [hnew] at hrow
    cases hrow
  simp only [Tx.bind_ok, requireRole_ok, Tx.get_ok, and_assoc, exists_and_left,
    exists_eq_left'] at hrun
  obtain ⟨_, -, -, -, -, hrun⟩ := hrun
  cases hfound : (s.cleanupClaims.get? req.openspecChangeId).filter
      (fun row => row.cleanupClaimId = req.cleanupClaimId) with
  | none => simp [hfound] at hrun
  | some row =>
    simp only [hfound, Tx.bind_ok] at hrun
    obtain ⟨claim, _, hclaim, -⟩ := hrun
    exact ⟨claim, .of_current hclaim⟩

/-- A first accepted run of a claim-fenced operation finds the claim held by its caller, under the
    fence it presents. -/
theorem Operation.holdsClaim {op : Operation} (hop : op.fenced = some (k, id, n))
    (hnew : ∀ e ∈ op.entry env, s.idempotency.get? e.key = none)
    (h : op.run env now s = (.ok v, s')) :
    ∃ row, HoldsClaim s.board k id n (op.leaseTime s now) row := by
  cases op <;> cases hop
  case startSubtask req | abandonSubtask req | releaseClaim req =>
    refine leasedMutation_holds (hnew _ rfl) (fun hrun => ?_) h
    simp only [Tx.bind_ok, Tx.lift_ok, Tx.exists_unit, and_assoc, exists_and_left,
      exists_eq_left'] at hrun
    obtain ⟨-, ctx, _, hctx, -⟩ := hrun
    exact ⟨ctx.claim, .of_context hctx⟩
  case renewClaim req =>
    refine leasedMutation_holds (hnew _ rfl) (fun hrun => ?_) h
    simp only [Tx.bind_ok, Tx.lift_ok, Tx.exists_unit, and_assoc, exists_and_left,
      exists_eq_left'] at hrun
    obtain ⟨-, claim, _, hclaim, -⟩ := hrun
    exact ⟨claim, .of_current hclaim⟩
  case finishSubtask req | retrySubtask req | failSubtask req =>
    exact leasedMutation_holds (hnew _ rfl) recordDirectOutcome_holds h
  case publishArtifact req =>
    refine leasedMutation_holds (hnew _ rfl) (fun hrun => ?_) h
    simp only [Tx.bind_ok, Tx.lift_ok, Tx.exists_unit, and_assoc, exists_and_left,
      exists_eq_left'] at hrun
    obtain ⟨-, -, -, -, -, claim, _, hclaim, -⟩ := hrun
    exact ⟨claim, .of_current hclaim⟩
  case decideReview req =>
    refine leasedMutation_holds (hnew _ rfl) (fun hrun => ?_) h
    simp only [Tx.bind_ok, requireRole_ok, Tx.lift_ok, Tx.exists_unit, and_assoc, exists_and_left,
      exists_eq_left'] at hrun
    obtain ⟨_, -, -, -, -, -, -, -, ctx, _, hctx, -⟩ := hrun
    exact ⟨ctx.claim, .of_review hctx⟩
  case recordPermissiveLandingReceipt req =>
    refine leasedMutation_holds (hnew _ rfl) (fun hrun => ?_) h
    simp only [Tx.bind_ok, requireRole_ok, Tx.lift_ok, Tx.option_forM_ok, Tx.exists_unit, and_assoc,
      exists_and_left, exists_eq_left'] at hrun
    obtain ⟨_, -, -, -, -, -, -, -, -, -, -, -, ctx, _, hctx, -⟩ := hrun
    exact ⟨ctx.claim, .of_review hctx⟩
  case finishOpenSpecArchiveCleanup req =>
    exact finishOpenSpecArchiveCleanup_holds (hnew _ rfl) h

/-- An accepted claim-fenced call that is not a replay finds the claim held by its caller, under
    the fence it presents. -/
theorem Call.Commits.holdsClaim (h : c.Commits env s) (hop : c.op.fenced = some (k, id, n)) :
    ∃ row, HoldsClaim s.board k id n (c.op.leaseTime s c.now) row := by
  obtain ⟨hok, hrec⟩ := h
  obtain ⟨v, s₀, rfl, hrun⟩ := hok.run
  refine Operation.holdsClaim (s := { s with uuids := c.uuids }) hop (fun e he => ?_) hrun
  exact Option.not_isSome_iff_eq_none.mp fun hsome => hrec ⟨e, he, hsome⟩

end Guards

/-! ## How fences follow each other -/

/-- Fence counters do not go back, and the fence of a claim is the one it had or one that the
    counter had not yet issued. -/
structure Board.FencesGrow (b b' : Board) : Prop where
  counter : ∀ {id n}, b.fence id = some n → ∃ n', b'.fence id = some n' ∧ n ≤ n'
  claim : ∀ {k row'}, b'.claim k = some row' →
    (∃ row, b.claim k = some row ∧ row.subtaskId = row'.subtaskId ∧
      row.fenceSeq = row'.fenceSeq) ∨
    ∀ n, b.fence row'.subtaskId = some n → n ≤ row'.fenceSeq

section Growth

variable {now : ℤ} {w : Write} {b b' : Board}

theorem Board.FencesGrow.refl (b : Board) : b.FencesGrow b where
  counter h := ⟨_, h, le_refl _⟩
  claim h := .inl ⟨_, h, rfl, rfl⟩

theorem Board.FencesGrow.trans {b'' : Board} (h : b.FencesGrow b') (h' : b'.FencesGrow b'') :
    b.FencesGrow b'' where
  counter hn := by
    obtain ⟨n', hn', hle⟩ := h.counter hn
    obtain ⟨n'', hn'', hle'⟩ := h'.counter hn'
    exact ⟨n'', hn'', by omega⟩
  claim {k row''} hrow := by
    rcases h'.claim hrow with ⟨row', hrow', hsub, hfence⟩ | hnew
    · rw [← hsub, ← hfence]
      exact h.claim hrow'
    · refine .inr fun n hn => ?_
      obtain ⟨n', hn', hle⟩ := h.counter hn
      have := hnew n' hn'
      omega

/-- Nothing is issued: the counters stay, and claims keep their fences. -/
theorem Board.FencesGrow.of_kept (hfence : b'.fence = b.fence)
    (hclaim : ∀ {k row'}, b'.claim k = some row' → ∃ row, b.claim k = some row ∧
      row.subtaskId = row'.subtaskId ∧ row.fenceSeq = row'.fenceSeq) : b.FencesGrow b' where
  counter h := ⟨_, by rw [hfence, h], le_refl _⟩
  claim h := .inl (hclaim h)

/-- The next fence of a subtask is given to a claim on it. -/
theorem Board.FencesGrow.of_issued {c : ClaimRow} {id : SubtaskId} (hid : c.subtaskId = id)
    (hfence : c.fenceSeq = (b.fence id).getD 1)
    (hclaim : b'.claim = put b.claim c.claimId c)
    (hcounter : b'.fence = put b.fence id (c.fenceSeq + 1)) : b.FencesGrow b' where
  counter {id' n} hn := by
    rw [hcounter]
    by_cases h : id' = id
    · subst h
      rw [hn, Option.getD_some] at hfence
      exact ⟨_, put_self, by omega⟩
    · exact ⟨n, (put_of_ne h).trans hn, le_refl n⟩
  claim {k row'} hrow := by
    rw [hclaim] at hrow
    rcases put_eq_some.mp hrow with ⟨-, rfl⟩ | ⟨-, hrow⟩
    · refine .inr fun n hn => ?_
      rw [← hid, hn, Option.getD_some] at hfence
      omega
    · exact .inl ⟨row', hrow, rfl, rfl⟩

theorem Move.fencesGrow (m : Move now w b b') (ha : Anchored b.toLeases) : b.FencesGrow b' := by
  cases m with
  | ledger | apply => exact .of_kept rfl fun h => ⟨_, h, rfl, rfl⟩
  | lease m =>
    cases m with
    | register | touch | exit | edit | createCleanup | markCleanup =>
      exact .of_kept rfl fun h => ⟨_, h, rfl, rfl⟩
    | create _ _ _ _ unissued =>
      exact ⟨fun h => ⟨_, put_of_new unissued h, le_refl _⟩, fun h => .inl ⟨_, h, rfl, rfl⟩⟩
    | claim _ _ _ _ _ _ _ _ _ _ fence => exact .of_issued rfl fence rfl rfl
    | openCleanup reserved _ _ _ fence _ source =>
      refine .of_issued ?_ fence rfl rfl
      rcases source with ⟨-, -, hsub⟩ | ⟨-, old, hold, hsub, hfrom⟩
      · exact hsub
      · rw [hsub, ha.reused reserved hold hfrom]
    | close current =>
      refine .of_kept rfl fun h => ?_
      rcases put_eq_some.mp h with ⟨rfl, rfl⟩ | ⟨-, h⟩
      · exact ⟨_, current, rfl, rfl⟩
      · exact ⟨_, h, rfl, rfl⟩
    | renew current =>
      refine .of_kept rfl fun h => ?_
      rcases put_eq_some.mp h with ⟨rfl, rfl⟩ | ⟨-, h⟩
      · exact ⟨_, current, rfl, rfl⟩
      · exact ⟨_, h, rfl, rfl⟩
    | endCleanup =>
      refine .of_kept rfl fun h => ?_
      obtain ⟨row, hrow, rfl⟩ := modify_eq_some.mp h
      refine ⟨row, hrow, ?_⟩
      split_ifs <;> exact ⟨rfl, rfl⟩

end Growth

section Runs

variable {env : Env} {s : Db} {c : Call} {calls : List Call} {id : SubtaskId} {f : ℕ}

theorem next_fencesGrow (hc : c.Fresh s) (ha : Anchored s.board.toLeases) :
    s.board.FencesGrow (next env s c).board :=
  (Steps.invariant (I := fun b => Anchored b.toLeases ∧ s.board.FencesGrow b)
    (fun _ m h => ⟨h.1.move m, h.2.trans (m.fencesGrow h.1)⟩) (next_moves hc ha)
    ⟨ha, .refl _⟩).2

/-- The call issues the fence `f` for the subtask: a claim on it has that fence after the call and
    did not have it before. -/
def Call.Issues (env : Env) (s : Db) (c : Call) (id : SubtaskId) (f : ℕ) : Prop :=
  ∃ k row, (next env s c).board.claim k = some row ∧ row.subtaskId = id ∧ row.fenceSeq = f ∧
    ∀ old, s.board.claim k = some old → old.fenceSeq ≠ f

/-- The fences that the calls issue for the subtask. -/
def issued (env : Env) (calls : List Call) (id : SubtaskId) : Set ℕ :=
  {f | ∃ before c rest, calls = before ++ c :: rest ∧ c.Issues env (reach env before) id f}

/-- A fence that is issued is not below the counter. -/
theorem Call.Issues.counter_le (h : c.Issues env s id f) (hc : c.Fresh s)
    (ha : Anchored s.board.toLeases) {n : ℕ} (hn : s.board.fence id = some n) : n ≤ f := by
  obtain ⟨k, row, hrow, rfl, rfl, hold⟩ := h
  rcases (next_fencesGrow hc ha).claim hrow with ⟨old, hold', -, hfence⟩ | hnew
  · exact absurd hfence (hold old hold')
  · exact hnew n hn

/-- Every fence issued in a run is below the counter at its end. -/
theorem issued_lt_counter (hrun : Run.Along (next env) Call.Fresh Db.init calls)
    (hf : f ∈ issued env calls id) :
    ∃ n, (reach env calls).board.fence id = some n ∧ f < n := by
  obtain ⟨before, c, rest, rfl, k, row, hrow, rfl, rfl, -⟩ := hf
  rw [List.append_cons] at hrun ⊢
  obtain ⟨hfirst, hrest⟩ := Run.along_append.mp hrun
  obtain ⟨ha, hfenced⟩ := reach_fenced hfirst
  rw [← reach_concat] at hrow
  obtain ⟨n, hn, hlt, -⟩ := hfenced hrow
  rw [reach_append]
  obtain ⟨-, hgrow⟩ := Run.invariant
    (I := fun s => Anchored s.board.toLeases ∧
      (reach env (before ++ [c])).board.FencesGrow s.board)
    (fun s c hc h => ⟨next_anchored hc h.1, h.2.trans (next_fencesGrow hc h.1)⟩)
    hrest ⟨ha, .refl _⟩
  obtain ⟨n', hn', hle⟩ := hgrow.counter hn
  exact ⟨n', hn', by omega⟩

theorem issued_append {rest : List Call} (hf : f ∈ issued env calls id) :
    f ∈ issued env (calls ++ rest) id := by
  obtain ⟨before, c, after, rfl, hissue⟩ := hf
  exact ⟨before, c, after ++ rest, by simp, hissue⟩

/-- The fence of every claim was issued. -/
theorem fence_issued (hrun : Run.Along (next env) Call.Fresh Db.init calls) {k : ClaimId}
    {row : ClaimRow} (hrow : (reach env calls).board.claim k = some row) :
    row.fenceSeq ∈ issued env calls row.subtaskId := by
  induction calls using List.reverseRecOn generalizing row with
  | nil => cases hrow
  | append_singleton calls c ih =>
    obtain ⟨hfirst, hc, -⟩ := Run.along_append.mp hrun
    obtain ⟨ha, -⟩ := reach_fenced hfirst
    by_cases hold : ∃ old, (reach env calls).board.claim k = some old ∧
        old.fenceSeq = row.fenceSeq
    · -- No call takes a claim to another subtask.
      obtain ⟨old, hold, hfence⟩ := hold
      have hsub : ∃ row', (next env (reach env calls) c).board.claim k = some row' ∧
          row'.subtaskId = old.subtaskId :=
        Steps.invariant (I := fun b => ∃ row', b.claim k = some row' ∧
          row'.subtaskId = old.subtaskId) (fun _ m => m.claim_subtask) (next_moves hc ha)
          ⟨old, hold, rfl⟩
      rw [reach_concat] at hrow
      obtain ⟨row', hrow', hsub⟩ := hsub
      obtain rfl : row = row' := Option.some.inj (hrow.symm.trans hrow')
      rw [← hfence, hsub]
      exact issued_append (ih hfirst hold)
    · rw [reach_concat] at hrow
      refine ⟨calls, c, [], rfl, k, row, hrow, rfl, rfl, fun old hold' hfence => ?_⟩
      exact hold ⟨old, hold', hfence⟩

/-- At the end of every run, the next call issues larger fences than those issued before; if it is
    claim-fenced and accepted, and not a replay, it presents the largest fence issued for the
    claim's subtask; and if it presents an older one, it changes no row but the lease clock's. -/
theorem fences_increase (hrun : Run.Along (next env) Call.Fresh Db.init (calls ++ [c])) :
    (∀ id, ∀ f ∈ issued env calls id, ∀ f', c.Issues env (reach env calls) id f' → f < f') ∧
    ∀ k claimId n, c.op.fenced = some (k, claimId, n) →
      (c.Commits env (reach env calls) →
        ∃ row, (reach env calls).board.claim claimId = some row ∧
          IsGreatest (issued env calls row.subtaskId) n.val) ∧
      ∀ row, (reach env calls).board.claim claimId = some row →
        ∀ f ∈ issued env calls row.subtaskId, n.val < f →
          SameRows (reach env calls) (next env (reach env calls) c) := by
  obtain ⟨hbefore, hc, -⟩ := Run.along_append.mp hrun
  obtain ⟨ha, hfenced⟩ := reach_fenced hbefore
  have hlargest : ∀ k claimId n, c.op.fenced = some (k, claimId, n) →
      c.Commits env (reach env calls) → ∃ row, (reach env calls).board.claim claimId = some row ∧
        IsGreatest (issued env calls row.subtaskId) n.val := by
    intro k claimId n hop hcommit
    obtain ⟨row, hholds⟩ := hcommit.holdsClaim hop
    obtain ⟨m, hm, -, hheld⟩ := hfenced hholds.claim
    have hm' : n.val + 1 = m := by rw [← hheld hholds.held, hholds.fenced]
    refine ⟨row, hholds.claim, hholds.fenced ▸ fence_issued hbefore hholds.claim, fun f hf => ?_⟩
    obtain ⟨m', hcounter, hlt⟩ := issued_lt_counter hbefore hf
    obtain rfl : m = m' := Option.some.inj (hm.symm.trans hcounter)
    omega
  refine ⟨fun id f hf f' hissue => ?_, fun k claimId n hop => ⟨hlargest k claimId n hop, ?_⟩⟩
  · obtain ⟨n, hn, hlt⟩ := issued_lt_counter hbefore hf
    have := hissue.counter_le hc ha hn
    omega
  · intro row hrow f hf hlt
    by_cases hrec : c.Recorded env (reach env calls)
    · exact next_of_recorded hrec
    by_cases hok : c.Succeeds env (reach env calls)
    · obtain ⟨row', hrow', hgreatest⟩ := hlargest k claimId n hop ⟨hok, hrec⟩
      obtain rfl : row = row' := Option.some.inj (hrow.symm.trans hrow')
      have := hgreatest.2 hf
      omega
    · exact ⟨_, c.uuids, next_of_failed hok⟩

end Runs

section Scripts

open Script

/-- The executor of `started` releases its claim and takes the work again. -/
def retaken : List Call :=
  calls [(0, register "orch" .orchestrator), (1, register "exec" .executor),
    (2, submit (session 0)), (3, create (session 0) (metaTask 2) "a" .canonicalApply),
    (4, take (session 1) "a"), (5, start (session 1) (claim 4) (fence 0)),
    (6, release (session 1) (claim 4) (fence 0)), (7, take (session 1) "a")]

/-- The call that started the work, sent once more. -/
def restart : Call := ⟨start (session 1) (claim 4) (fence 0) (text "5"), 8, uuid 8⟩

theorem retaken_run : Run.Along (next env) Call.Fresh Db.init (retaken ++ [restart]) ∧
    ((reach env retaken).board.claim (claim 4)).map (·.subtaskId) = some (text "a") ∧
    ((reach env retaken).board.claim (claim 7)).map (fun r => (r.subtaskId, r.fenceSeq)) =
      some (text "a", 2) ∧
    (step env (reach env retaken) restart).1.isOk = true ∧ (reach env retaken).leaseClock = 7 ∧
    (next env (reach env retaken) restart).leaseClock = 8 := by
  decide +kernel

theorem two_issued_retaken : 2 ∈ issued env retaken (text "a") := by
  obtain ⟨hrun, -, hlast, -⟩ := retaken_run
  obtain ⟨row, hrow, heq⟩ := Option.map_eq_some_iff.mp hlast
  have hissued := fence_issued (Run.along_append.mp hrun).1 hrow
  rwa [(Prod.mk.inj heq).1, (Prod.mk.inj heq).2] at hissued

theorem fences_increase_retaken :
    Run.Along (next env) Call.Fresh Db.init (retaken ++ [restart]) ∧
      restart.op.fenced = some (session 1, claim 4, fence 0) ∧
      SameRows (reach env retaken) (next env (reach env retaken) restart) := by
  obtain ⟨hrun, hclaim, -⟩ := retaken_run
  obtain ⟨row, hrow, hsub⟩ := Option.map_eq_some_iff.mp hclaim
  exact ⟨hrun, rfl, ((fences_increase hrun).2 (session 1) (claim 4) (fence 0) rfl).2 row hrow 2
    (hsub ▸ two_issued_retaken) (by decide)⟩

/-- The replay is accepted although it presents an older fence, and it moves the lease clock. -/
theorem restart_accepted :
    Run.Along (next env) Call.Fresh Db.init (retaken ++ [restart]) ∧
      restart.op.fenced = some (session 1, claim 4, fence 0) ∧
      ((reach env retaken).board.claim (claim 4)).map (·.subtaskId) = some (text "a") ∧
      2 ∈ issued env retaken (text "a") ∧ (fence 0).val = 1 ∧
      restart.Succeeds env (reach env retaken) ∧
      (reach env retaken).leaseClock = 7 ∧ (next env (reach env retaken) restart).leaseClock = 8 := by
  obtain ⟨hrun, hclaim, -, hok, hclock, hclock'⟩ := retaken_run
  exact ⟨hrun, rfl, hclaim, two_issued_retaken, rfl, hok, hclock, hclock'⟩

end Scripts

end Covey

import Covey.Footprint.Calls
import Covey.Ops.Repoops
import Covey.Runs.Fencing

/-!
# Leases against the clock

The lease clock is the largest wall reading that a call has recorded in it. A wall
reading may be behind it. What an operation compares a deadline with, the clock or
the reading, decides whether a lease that has run out can still be used.

* `leases_not_resurrected`: the clock does not go back, and no call uses a claim whose
  lease has run out by the clock, unless it compares with a reading that is behind.
* `evidence_owned_and_live`: which evidence of an apply attempt comes from the owner of
  the queue row, and when it comes before the deadline.
-/

namespace Covey

open Relational

section Clock

variable {env : Env} {s : Db} {calls : List Call} {c : Call}

theorem leaseClock_le_next : s.leaseClock ≤ (next env s c).leaseClock :=
  (next_touches : Touches c.op.tables s (next env s c)).clock

theorem leaseClock_le_reach {rest : List Call} :
    (reach env calls).leaseClock ≤ (reach env (calls ++ rest)).leaseClock := by
  rw [reach_append]
  exact Run.invariant_always (I := fun s : Db => (reach env calls).leaseClock ≤ s.leaseClock)
    (fun _ _ h => h.trans leaseClock_le_next) le_rfl

/-! ## Claims -/

/-- The operation compares the deadline of a claim with the wall reading. -/
def Operation.ReadsWall : Operation → Prop
  | .finishOpenSpecArchiveCleanup _ => True
  | _ => False

theorem Operation.leaseClock_le_leaseTime {op : Operation} {now : ℤ}
    (h : op.ReadsWall → s.leaseClock ≤ now) : s.leaseClock ≤ op.leaseTime s now := by
  unfold Operation.leaseTime
  split
  · exact h trivial
  · exact le_max_left _ _

/-- A snapshot is given to who holds the claim, with a lease that runs at the wall reading. -/
theorem repoopsAuthoritySnapshot_holds {req : RepoopsAuthoritySnapshotReq} {now : ℤ} {s' : Db}
    {snapshot : RepoopsAuthoritySnapshot}
    (h : repoopsAuthoritySnapshot env req now s = (.ok snapshot, s')) :
    ∃ row, HoldsClaim s.board req.sessionToken req.claimId req.fenceSeq now row := by
  obtain ⟨row, _, hclaim, -⟩ := Tx.bind_ok.mp h
  exact ⟨row, .of_current hclaim⟩

/-- After every run: the lease clock does not go back; a claim-fenced call that is accepted, and
    not as a replay, uses a claim whose deadline is after the clock, if a call that compares with
    the wall reading has one that is not behind the clock; and so does a snapshot. -/
theorem leases_not_resurrected (env : Env) (calls : List Call) :
    (∀ rest, (reach env calls).leaseClock ≤ (reach env (calls ++ rest)).leaseClock) ∧
    (∀ (c : Call) k id n, c.op.fenced = some (k, id, n) → c.Commits env (reach env calls) →
      (c.op.ReadsWall → (reach env calls).leaseClock ≤ c.now) →
      ∃ row, (reach env calls).claims.get? id = some row ∧
        (reach env calls).leaseClock < row.leaseDeadline) ∧
    ∀ req now snapshot s', repoopsAuthoritySnapshot env req now (reach env calls) =
        (.ok snapshot, s') → (reach env calls).leaseClock ≤ now →
      ∃ row, (reach env calls).claims.get? req.claimId = some row ∧
        (reach env calls).leaseClock < row.leaseDeadline := by
  refine ⟨fun rest => leaseClock_le_reach, fun c k id n hop hcommits hnow => ?_,
    fun req now snapshot s' hok hnow => ?_⟩
  · obtain ⟨row, hrow⟩ := hcommits.holdsClaim hop
    exact ⟨row, hrow.claim, (Operation.leaseClock_le_leaseTime hnow).trans_lt hrow.live⟩
  · obtain ⟨row, hrow⟩ := repoopsAuthoritySnapshot_holds hok
    exact ⟨row, hrow.claim, hnow.trans_lt hrow.live⟩

end Clock

section ClockExample

open Script

def beat (k : SessionToken) (key : IdempotencyKey) : Operation := .heartbeat ⟨k, key⟩

/-- The orchestrator of `archivable` begins the cleanup of the change. -/
def begunCleanup : List Call := Script.calls (archivable ++ [(9, beginCleanup (session 0))])

/-- Its heartbeat then shows that the lease of ten minutes has run out. -/
def overdueCleanup : List Call :=
  Script.calls (archivable ++ [(9, beginCleanup (session 0)), (1000000, beat (session 0))])

/-- The end of the cleanup, at a reading soon after its beginning. -/
def finishing : Call := ⟨finishCleanup (session 0) (claim 12) (fence 0) (text "finish"), 10, uuid 14⟩

/-- A snapshot of the claim on the cleanup. -/
def snapshotReq : RepoopsAuthoritySnapshotReq :=
  ⟨session 0, claim 12, fence 0, [docs], docs_ne_nil, docs_nodup⟩

theorem begunCleanup_run :
    finishing.Commits env (reach env begunCleanup) ∧ (reach env begunCleanup).leaseClock = 9 := by
  decide +kernel

theorem leases_not_resurrected_begunCleanup :
    finishing.Commits env (reach env begunCleanup) ∧
      ∃ row, (reach env begunCleanup).claims.get? (claim 12) = some row ∧ 9 < row.leaseDeadline := by
  have hrun := begunCleanup_run
  have hall := (leases_not_resurrected env begunCleanup).2.1 finishing _ _ _ rfl
  generalize reach env begunCleanup = s at hrun hall ⊢
  obtain ⟨hcommits, hclock⟩ := hrun
  rw [hclock] at hall
  exact ⟨hcommits, hall hcommits fun _ => by decide⟩

/-- With a reading behind the clock, the end of a cleanup and a snapshot accept a claim whose
    lease has run out. -/
theorem overdueCleanup_accepted :
    finishing.Commits env (reach env overdueCleanup) ∧
      (repoopsAuthoritySnapshot env snapshotReq 10 (reach env overdueCleanup)).1.isOk = true ∧
      ((reach env overdueCleanup).claims.get? (claim 12)).map (·.leaseDeadline) = some 600009 ∧
      (reach env overdueCleanup).leaseClock = 1000000 := by
  decide +kernel

end ClockExample

/-! ## Evidence of an apply attempt -/

/-- The session that submits evidence of an attempt to apply a queue row, and the row. -/
def Operation.attests : Operation → Option (SessionToken × QueueId)
  | .recordApplyVerification req => some (req.sessionToken, req.queueId)
  | .recordApplyGateBlocker req => some (req.sessionToken, req.queueId)
  | .recordApplyWorktree req => some (req.sessionToken, req.queueId)
  | .recordLandingReceipt req => some (req.sessionToken, req.queueId)
  | _ => none

/-- The operation looks at the fence of the row but not at its owner. -/
def Operation.IgnoresOwner : Operation → Prop
  | .recordApplyVerification _ | .recordApplyGateBlocker _ => True
  | _ => False

/-- The lease of the row runs by the clock. -/
def ReadyQueueRow.Live (q : ReadyQueueRow) (clock : ℤ) : Prop :=
  ∃ deadline ∈ q.claimLeaseDeadline, clock < deadline

section Evidence

variable {env : Env} {now : ℤ} {s s' : Db} {v : Response} {k : SessionToken} {id : QueueId}
  {q : ReadyQueueRow}

theorem recordApplyWorktree_owner {req : RecordApplyWorktreeReq}
    (hnew : s.idempotency.get? (req.sessionToken.val, "record_apply_worktree",
      req.idempotencyKey.val) = none)
    (h : recordApplyWorktree req now s = (.ok v, s')) (hq : s.readyQueue.get? req.queueId = some q) :
    q.claimedBySessionToken = some req.sessionToken := by
  rcases mutation_run h with ⟨⟨row, hrow, -⟩, -⟩ | ⟨s₁, hrun, -⟩
  · rw [hnew] at hrow
    cases hrow
  simp only [Tx.bind_ok, requireRole_ok, requireRuntimeAttestation_ok, Tx.lift_ok, loadQueueItem_ok,
    Tx.ensure_ok, and_assoc, exists_and_left, exists_eq_left', Tx.exists_unit] at hrun
  obtain ⟨_, -, -, -, -, _, -, -, -, -, -, -, -, item, hitem, -, -, -, hrun⟩ := hrun
  obtain rfl : q = item := Option.some.inj (hq.symm.trans hitem)
  cases howner : q.claimedBySessionToken with
  | none => simp [howner] at hrun
  | some owner =>
    simp only [howner, Tx.bind_ok, Tx.ensure_ok, and_assoc, exists_and_left, exists_eq_left',
      Tx.exists_unit] at hrun
    rw [hrun.1]

/-- The guard of both landing operations: a row in flight belongs to the session. -/
theorem requireLandable_owner {what notOpen : String} {session : SessionRow} {item : ReadyQueueRow}
    {digest : ArtifactDigest} {n : FenceSeq} (hsession : s.sessions.get? k = some session)
    (h : requireLandable what session id digest n notOpen s = (.ok item, s'))
    (hq : s.readyQueue.get? id = some q) (hstate : q.state = .inFlight) :
    q.claimedBySessionToken = some k := by
  obtain ⟨-, hitem, -, -, -, howner⟩ := requireLandable_ok h
  obtain rfl : q = item := Option.some.inj (hq.symm.trans hitem)
  have hkey : session.sessionToken = k := Table.key_of_get? hsession
  rw [howner hstate, hkey]

theorem recordLandingReceipt_owner {req : RecordLandingReceiptReq}
    (h : recordLandingReceipt req now s = (.ok v, s')) (hq : s.readyQueue.get? req.queueId = some q)
    (hstate : q.state = .inFlight) : q.claimedBySessionToken = some req.sessionToken := by
  simp only [recordLandingReceipt, Tx.bind_ok, requireRole_ok, and_assoc, exists_and_left,
    exists_eq_left'] at h
  obtain ⟨session, hsession, -, -, -, item, _, hland, -⟩ := h
  exact requireLandable_owner hsession hland hq hstate

theorem verifyLandingAuthorization_owner {req : VerifyLandingAuthorizationReq}
    {status : ArtifactRow × SessionToken}
    (h : verifyLandingAuthorization req s = (.ok status, s'))
    (hq : s.readyQueue.get? req.queueId = some q) (hstate : q.state = .inFlight) :
    q.claimedBySessionToken = some req.sessionToken := by
  simp only [verifyLandingAuthorization, Tx.bind_ok, requireRole_ok, Tx.lift_ok, and_assoc,
    exists_and_left, exists_eq_left', Tx.exists_unit] at h
  obtain ⟨session, hsession, -, -, -, -, -, -, -, -, -, -, item, _, hland, -⟩ := h
  exact requireLandable_owner hsession hland hq hstate

theorem Operation.attests_owner {op : Operation} (hop : op.attests = some (k, id))
    (howned : ¬op.IgnoresOwner) (hnew : ∀ e ∈ op.entry env, s.idempotency.get? e.key = none)
    (h : op.run env now s = (.ok v, s')) (hq : s.readyQueue.get? id = some q)
    (hstate : q.state = .inFlight) : q.claimedBySessionToken = some k := by
  cases op <;> cases hop
  case recordApplyVerification | recordApplyGateBlocker => exact absurd trivial howned
  case recordApplyWorktree => exact recordApplyWorktree_owner (hnew _ rfl) h hq
  case recordLandingReceipt => exact recordLandingReceipt_owner h hq hstate

end Evidence

section EvidenceExample

open Script

/-- The approved work `a` is taken in flight by the gate of call 3; the gate of call 16 looks on. -/
def inFlight : List Call :=
  Script.calls (approvedWork ++ [(3, register "gate2" .applyGate), (3, attest (session 16) "h"),
    (3, takeQueued (session 3))])

def queuedWork : QueueId := queued 15 0

def verification (k : SessionToken) (now : ℤ) : Call :=
  ⟨verify k queuedWork (digest "a") (review 12) (fence 0) (text "verdict"), now, uuid 19⟩

theorem inFlight_run :
    (verification (session 3) 4).Commits env (reach env inFlight) ∧
      (verification (session 16) 4).Commits env (reach env inFlight) ∧
      (verification (session 3) 5000).Commits env (reach env inFlight) ∧
      ((reach env inFlight).readyQueue.get? queuedWork).map
        (fun q => (q.state, q.claimedBySessionToken, q.claimLeaseDeadline)) =
          some (.inFlight, some (session 3), some 1003) ∧
      (reach env inFlight).leaseClock = 3 ∧ session 16 ≠ session 3 := by
  decide +kernel

end EvidenceExample

end Covey

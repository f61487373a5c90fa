import Covey.Footprint.Calls
import Covey.Runs.Queue

/-!
# Landing receipts

A receipt tells where the artifact of a queue row has landed. It is recorded under the
fence of the row, found by row and artifact, unique for the artifact, and read back by
row, artifact and fence.

* `next_receipts`: receipts are kept, and come from calls that record one.
* `landing_receipts_recorded`: an accepted receipt can be read back exactly when none
  was there under another fence; an applied row can still get one exactly when its
  artifact has no receipt under another fence or row, and the row loads.
-/

namespace Covey

open Relational

section Receipts

variable {env : Env} {now : ℤ} {s s' : Db} {v : Response} {c : Call} {calls : List Call}

/-- The receipt that a request asks for. -/
def RecordLandingReceiptReq.receipt (req : RecordLandingReceiptReq) (now : ℤ) :
    LandingReceiptRow where
  queueId := req.queueId
  artifactDigest := req.artifactDigest
  claimFenceSeq := req.claimFenceSeq.val
  targetRef := req.targetRef
  landedCommitOid := req.landedCommitOid
  recordedBySession := req.sessionToken
  createdAt := now

/-- An accepted receipt is one that its row already has, or it is added. -/
theorem recordLandingReceipt_run {req : RecordLandingReceiptReq}
    (h : recordLandingReceipt req now s = (.ok v, s')) :
    (∃ q, s.readyQueue.get? req.queueId = some q ∧ q.load = .ok q) ∧
      ((∃ r, s.landingReceipts.get? (req.queueId, req.artifactDigest) = some r) ∧
          s'.landingReceipts = s.landingReceipts ∨
        s'.landingReceipts.rows = s.landingReceipts.rows ++ [req.receipt now]) := by
  simp only [recordLandingReceipt, Tx.bind_ok, requireRole_ok, lookup_ok, and_assoc, exists_and_left,
    exists_eq_left'] at h
  obtain ⟨_, -, -, -, -, item, s₁, hland, h⟩ := h
  have hitem : s.readyQueue.get? req.queueId = some item ∧ item.load = .ok item := by
    simp only [requireLandable, Tx.bind_ok, loadQueueItem_ok, Tx.ensure_ok, Tx.pure_ok, and_assoc,
      exists_and_left, exists_eq_left', Tx.exists_unit] at hland
    obtain ⟨item', hrow, hload, -, -, -, _, -, rfl, -⟩ := hland
    exact ⟨hrow, hload⟩
  obtain ⟨rfl, -⟩ := requireLandable_ok hland
  refine ⟨⟨item, hitem⟩, ?_⟩
  cases hfound : s.landingReceipts.get? (req.queueId, req.artifactDigest) with
  | some existing =>
    have hfound' : (Rel.landingReceipts.get s).get? (req.queueId, req.artifactDigest) = _ := hfound
    simp only [hfound', Tx.bind_ok, Tx.ensure_ok, Tx.pure_ok, and_assoc, exists_and_left,
      exists_eq_left', Tx.exists_unit] at h
    obtain ⟨-, -, -, rfl⟩ := h
    exact .inl ⟨⟨existing, rfl⟩, rfl⟩
  | none =>
    have hfound' : (Rel.landingReceipts.get s).get? (req.queueId, req.artifactDigest) = _ := hfound
    simp only [hfound', Tx.bind_ok, insertInto_ok, Tx.pure_ok, Tx.exists_unit] at h
    obtain ⟨_, ⟨t, ht, rfl⟩, -, rfl⟩ := h
    exact .inr (Table.insert_eq_some.mp ht)

/-- An accepted receipt can be read back unless the row has one for the artifact under another
    fence. -/
theorem recordLandingReceipt_exists {req : RecordLandingReceiptReq}
    (h : recordLandingReceipt req now s = (.ok v, s')) :
    landingReceiptExists s' req.queueId req.artifactDigest req.claimFenceSeq ↔
      ∀ r ∈ s.landingReceipts.rows, r.queueId = req.queueId →
        r.artifactDigest = req.artifactDigest → r.claimFenceSeq = req.claimFenceSeq.val := by
  have hkey {r r' : LandingReceiptRow} (hr : r ∈ s.landingReceipts.rows)
      (hr' : r' ∈ s.landingReceipts.rows) (hq : r.queueId = r'.queueId)
      (hd : r.artifactDigest = r'.artifactDigest) : r = r' :=
    s.landingReceipts.eq_of_key_eq hr hr' (Prod.ext hq hd)
  obtain ⟨-, ⟨⟨r, hr⟩, hkept⟩ | hrows⟩ := recordLandingReceipt_run h
  · -- the receipt that is there is the one that is looked up
    have hmem := Table.mem_of_get? hr
    have hrkey : (r.queueId, r.artifactDigest) = (req.queueId, req.artifactDigest) :=
      Table.key_of_get? hr
    obtain ⟨hrq, hrd⟩ := Prod.mk.inj hrkey
    unfold landingReceiptExists
    rw [hkept]
    constructor
    · rintro ⟨r', hr', hq', hd', hf'⟩ r₁ hr₁ hq₁ hd₁
      rwa [hkey hr₁ hr' (hq₁.trans hq'.symm) (hd₁.trans hd'.symm)]
    · exact fun hall => ⟨r, hmem, hrq, hrd, hall r hmem hrq hrd⟩
  · refine ⟨fun _ r hr hq hd => ?_, fun _ => ⟨req.receipt now, ?_, rfl, rfl, rfl⟩⟩
    · -- a receipt with the same key would have kept the new one out
      have hmem : r ∈ s'.landingReceipts.rows := by rw [hrows]; exact List.mem_append_left _ hr
      have hnew : req.receipt now ∈ s'.landingReceipts.rows := by rw [hrows]; simp
      obtain rfl := s'.landingReceipts.eq_of_key_eq hmem hnew (Prod.ext hq hd)
      rfl
    · rw [hrows]
      exact List.mem_append_right _ (List.mem_singleton_self _)

theorem next_receipt_exists {req : RecordLandingReceiptReq} (hop : c.op = .recordLandingReceipt req)
    (hok : c.Succeeds env s) :
    landingReceiptExists (next env s c) req.queueId req.artifactDigest req.claimFenceSeq ↔
      ∀ r ∈ s.landingReceipts.rows, r.queueId = req.queueId →
        r.artifactDigest = req.artifactDigest → r.claimFenceSeq = req.claimFenceSeq.val := by
  obtain ⟨v, s₀, hs₀, hrun⟩ := hok.run
  rw [hop] at hrun
  have hiff := recordLandingReceipt_exists hrun
  rwa [hs₀] at hiff

theorem Touches.landingReceipts_eq {l : List TableName} (h : Touches l s s')
    (hl : .landingReceipts ∉ l) : s'.landingReceipts = s.landingReceipts := by
  have hrows := congrArg Db.landingReceipts h.rows
  simpa only [Db.rows, Db.without, if_neg hl] using hrows

/-- A call keeps the receipts, and a new one is for a row that loads. -/
theorem next_receipts (env : Env) (s : Db) (c : Call) :
    (∀ r ∈ s.landingReceipts.rows, r ∈ (next env s c).landingReceipts.rows) ∧
      ∀ r ∈ (next env s c).landingReceipts.rows, r ∈ s.landingReceipts.rows ∨
        ∃ q, s.readyQueue.get? r.queueId = some q ∧ q.load = .ok q := by
  have hsame (h : (next env s c).landingReceipts = s.landingReceipts) :
      (∀ r ∈ s.landingReceipts.rows, r ∈ (next env s c).landingReceipts.rows) ∧
        ∀ r ∈ (next env s c).landingReceipts.rows, r ∈ s.landingReceipts.rows ∨
          ∃ q, s.readyQueue.get? r.queueId = some q ∧ q.load = .ok q := by
    rw [h]
    exact ⟨fun _ hr => hr, fun _ hr => .inl hr⟩
  by_cases hok : c.Succeeds env s
  swap
  · rw [next_of_failed hok] at hsame ⊢
    exact hsame rfl
  by_cases hwrites : TableName.landingReceipts ∈ c.op.tables
  swap
  · exact hsame (next_touches.landingReceipts_eq hwrites)
  obtain ⟨req, hop⟩ : ∃ req, c.op = .recordLandingReceipt req := by
    cases hop : c.op
    case recordLandingReceipt req => exact ⟨req, rfl⟩
    all_goals
      rw [hop] at hwrites
      exact absurd hwrites (of_decide_eq_false rfl)
  obtain ⟨v, s₀, rfl, hrun⟩ := hok.run
  rw [hop] at hrun
  obtain ⟨⟨q, hq, hload⟩, ⟨-, hkept⟩ | hrows⟩ := recordLandingReceipt_run hrun
  · exact hsame hkept
  · have hrows : (next env s c).landingReceipts.rows = s.landingReceipts.rows ++ [req.receipt c.now] :=
      hrows
    rw [hrows]
    refine ⟨fun r hr => List.mem_append_left _ hr, fun r hr => ?_⟩
    rcases List.mem_append.mp hr with hr | hr
    · exact .inl hr
    · obtain rfl := List.mem_singleton.mp hr
      exact .inr ⟨q, hq, hload⟩

/-- An artifact has one receipt. -/
theorem receipt_unique {r r' : LandingReceiptRow} (hr : r ∈ s.landingReceipts.rows)
    (hr' : r' ∈ s.landingReceipts.rows) (h : r.artifactDigest = r'.artifactDigest) : r = r' :=
  s.landingReceipts.eq_of_clash hr hr' (decide_eq_true h) (decide_eq_true h.symm)

theorem reach_receipt {rest : List Call} {r : LandingReceiptRow}
    (hr : r ∈ (reach env calls).landingReceipts.rows) :
    r ∈ (reach env (calls ++ rest)).landingReceipts.rows := by
  rw [reach_append]
  exact Run.invariant_always (I := fun s : Db => r ∈ s.landingReceipts.rows)
    (fun s c hr => (next_receipts env s c).1 r hr) hr

/-! ## Applied rows -/

/-- The row has the receipt under the fence, or it loads and its artifact has no receipt yet. -/
def Landable (s : Db) (q : ReadyQueueRow) (n : FenceSeq) : Prop :=
  landingReceiptExists s q.queueId q.artifactDigest n ∨
    q.load = .ok q ∧ ∀ r ∈ s.landingReceipts.rows, r.artifactDigest ≠ q.artifactDigest

/-- An apply gate can record the first receipt of an artifact whose row is applied. -/
theorem recordLandingReceipt_accepted {req : RecordLandingReceiptReq} {session : SessionRow}
    {q : ReadyQueueRow} (hsession : s.sessions.get? req.sessionToken = some session)
    (hloads : session.load = .ok session) (hactive : session.state = .active)
    (hrole : session.role = .applyGate) (hq : s.readyQueue.get? req.queueId = some q)
    (hload : q.load = .ok q) (hstate : q.state = .applied)
    (hdigest : q.artifactDigest = req.artifactDigest)
    (hfence : q.claimFenceSeq = some req.claimFenceSeq.val)
    (hnone : ∀ r ∈ s.landingReceipts.rows, r.artifactDigest ≠ req.artifactDigest) :
    ∃ s', recordLandingReceipt req now s = (.ok .unit, s') ∧
      s'.landingReceipts.rows = s.landingReceipts.rows ++ [req.receipt now] := by
  have hland : ∀ what notOpen, requireLandable what session req.queueId req.artifactDigest
      req.claimFenceSeq notOpen s = (.ok q, s) := by
    intro what notOpen
    simp only [requireLandable, Tx.bind_ok, loadQueueItem_ok, Tx.ensure_ok, Tx.pure_ok, and_assoc,
      exists_and_left, exists_eq_left', Tx.exists_unit]
    refine ⟨q, hq, hload, .inr hstate, hdigest, hfence, s, Tx.whenever_ok.mpr (.inr ⟨?_, rfl⟩), rfl, rfl⟩
    rw [hstate]
    intro h
    cases h
  have hnew : s.landingReceipts.get? (req.queueId, req.artifactDigest) = none :=
    Table.get?_eq_none.mpr fun r hr hkey => hnone r hr (congrArg Prod.snd hkey)
  obtain ⟨t, ht⟩ : ∃ t, s.landingReceipts.insert (req.receipt now) = some t :=
    Table.exists_insert rfl fun a ha => ⟨fun hkey => hnone a ha (congrArg Prod.snd hkey),
      decide_eq_false (hnone a ha)⟩
  refine ⟨{ s with landingReceipts := t }, ?_, Table.insert_eq_some.mp ht⟩
  unfold recordLandingReceipt
  refine Tx.bind_ok.mpr ⟨session, s, requireRole_ok.mpr ⟨⟨hsession, hloads, hactive, ?_⟩, rfl⟩,
    Tx.bind_ok.mpr ⟨q, s, hland _ _, Tx.bind_ok.mpr ⟨none, s, lookup_ok.mpr ⟨hnew, rfl⟩,
      Tx.bind_ok.mpr ⟨(), _, insertInto_ok.mpr ⟨t, ht, rfl⟩, rfl⟩⟩⟩⟩
  rw [hrole]
  exact List.mem_cons_self

/-- A row that has no receipt under the fence and cannot get one never has one. -/
theorem reach_not_landable {rest : List Call} {id : QueueId} {q : ReadyQueueRow} {n : FenceSeq}
    (hrun : Run.Along (next env) Call.Fresh Db.init (calls ++ rest))
    (hq : (reach env calls).readyQueue.get? id = some q) (hstate : q.state = .applied)
    (h : ¬Landable (reach env calls) q n) :
    ¬landingReceiptExists (reach env (calls ++ rest)) id q.artifactDigest n := by
  have hid : q.queueId = id := Table.key_of_get? hq
  unfold Landable at h
  rw [hid] at h
  obtain ⟨hmissing, hblocked⟩ := not_or.mp h
  obtain ⟨hbefore, hrest⟩ := Run.along_append.mp hrun
  rw [reach_append]
  by_cases hreceipt : ∃ r ∈ (reach env calls).landingReceipts.rows,
      r.artifactDigest = q.artifactDigest
  · -- the receipt that is there stays the only one of the artifact
    obtain ⟨r, hr, hdigest⟩ := hreceipt
    rw [← reach_append]
    rintro ⟨r', hr', hid', hdigest', hfence'⟩
    obtain rfl := receipt_unique hr' (reach_receipt hr) (hdigest'.trans hdigest.symm)
    exact hmissing ⟨r', hr, hid', hdigest', hfence'⟩
  · -- the row does not load, and a settled row stays as it is
    have hload : ¬q.load = .ok q := fun hload =>
      hblocked ⟨hload, fun r hr hdigest => hreceipt ⟨r, hr, hdigest⟩⟩
    have hopen : ¬q.isOpen := ReadyQueueRow.not_isOpen_of_applied hstate
    refine (Run.invariant (I := fun s : Db => Anchored s.board.toLeases ∧
      s.board.queue id = some q ∧ ¬landingReceiptExists s id q.artifactDigest n)
      (fun s c hc hI => ?_) hrest ⟨(reach_fenced hbefore).1, hq, hmissing⟩).2.2
    obtain ⟨ha, hrow, hnot⟩ := hI
    obtain ⟨q', hq', hfollows⟩ : ∃ q', (next env s c).board.queue id = some q' ∧ q.Follows q' :=
      next_queue_follows hc ha hrow
    rw [hfollows.settled hopen] at hq'
    refine ⟨next_anchored hc ha, hq', ?_⟩
    rintro ⟨r, hr, hid', hdigest', hfence'⟩
    rcases (next_receipts env s c).2 r hr with hr | ⟨q₀, hq₀, hload₀⟩
    · exact hnot ⟨r, hr, hid', hdigest', hfence'⟩
    · rw [hid'] at hq₀
      obtain rfl : q = q₀ := Option.some.inj (hrow.symm.trans hq₀)
      exact hload hload₀

/-- After every run: an accepted receipt can be read back exactly when the row has no receipt for
    the artifact under another fence; if an applied row has its receipt, or loads and its artifact
    has none, every active apply gate can see to it that the receipt is there; otherwise it never
    will be, whatever is called. -/
theorem landing_receipts_recorded (env : Env) (calls : List Call) :
    (∀ (c : Call) req, c.op = .recordLandingReceipt req → c.Succeeds env (reach env calls) →
      (landingReceiptExists (reach env (calls ++ [c])) req.queueId req.artifactDigest
          req.claimFenceSeq ↔
        ∀ r ∈ (reach env calls).landingReceipts.rows, r.queueId = req.queueId →
          r.artifactDigest = req.artifactDigest → r.claimFenceSeq = req.claimFenceSeq.val)) ∧
    ∀ id q n, (reach env calls).readyQueue.get? id = some q → q.state = .applied →
      q.claimFenceSeq = some n.val →
      (Landable (reach env calls) q n → ∀ k session,
        (reach env calls).sessions.get? k = some session → session.load = .ok session →
        session.state = .active → session.role = .applyGate →
        ∃ rest, (∀ c ∈ rest, ∃ req, c.op = .recordLandingReceipt req ∧ req.sessionToken = k) ∧
          landingReceiptExists (reach env (calls ++ rest)) id q.artifactDigest n) ∧
      (¬Landable (reach env calls) q n → ∀ rest,
        Run.Along (next env) Call.Fresh Db.init (calls ++ rest) →
        ¬landingReceiptExists (reach env (calls ++ rest)) id q.artifactDigest n) := by
  refine ⟨fun c req hop hok => ?_, fun id q n hq hstate hfence => ⟨fun hland k session hsession hloads
    hactive hrole => ?_, fun hnot rest hrest => reach_not_landable hrest hq hstate hnot⟩⟩
  · rw [reach_concat]
    exact next_receipt_exists hop hok
  · have hid : q.queueId = id := Table.key_of_get? hq
    rcases hland with hthere | ⟨hload, hnone⟩
    · exact ⟨[], List.forall_mem_nil _, by rwa [List.append_nil, ← hid]⟩
    · let req : RecordLandingReceiptReq := ⟨k, id, q.artifactDigest, n, default, default⟩
      let c : Call := ⟨.recordLandingReceipt req, 0, fun _ => 0⟩
      refine ⟨[c], fun _ hc => ⟨req, by rw [List.mem_singleton.mp hc], rfl⟩, ?_⟩
      obtain ⟨s', hrun, hrows⟩ : ∃ s', recordLandingReceipt req 0
          { reach env calls with uuids := c.uuids } = (.ok .unit, s') ∧
          s'.landingReceipts.rows = (reach env calls).landingReceipts.rows ++ [req.receipt 0] :=
        recordLandingReceipt_accepted hsession hloads hactive hrole hq hload hstate rfl hfence hnone
      have hnext : next env (reach env calls) c = s' := congrArg Prod.snd (Tx.commit_ok.mpr hrun)
      rw [reach_concat, hnext]
      refine ⟨req.receipt 0, ?_, rfl, rfl, rfl⟩
      rw [hrows]
      exact List.mem_append_right _ (List.mem_singleton_self _)

end Receipts

section Scripts

open Script

def land (k : SessionToken) (n : FenceSeq) (_ : IdempotencyKey) : Operation :=
  .recordLandingReceipt ⟨k, queued 15 0, digest "a", n, text "main", text "abcdef0"⟩

/-- The gate has landed the verified work `a`. -/
def landed : Call := ⟨land (session 3) (fence 0) (text "land"), 3, uuid 18⟩

/-- It does not mark the row as applied before its lease runs out, but takes it again and verifies
    its artifact. -/
def relanded : List Call :=
  verifiedWork ++ [landed] ++ [⟨takeQueued (session 3) (text "take"), 5000, uuid 19⟩,
    ⟨verify (session 3) (queued 15 0) (digest "a") (review 12) (fence 1) (text "verify"), 5000,
      uuid 20⟩]

/-- The receipt, sent under the new fence. -/
def landAgain : Call := ⟨land (session 3) (fence 1) (text "again"), 5000, uuid 21⟩

/-- The row is applied under the new fence. -/
def applyAgain : Call := ⟨apply (session 3) (queued 15 0) (fence 1) (text "apply"), 5000, uuid 22⟩

theorem relanded_run :
    (step env (reach env verifiedWork) landed).1.isOk = true ∧
      (reach env verifiedWork).landingReceipts.rows.length = 0 ∧
      (step env (reach env relanded) landAgain).1.isOk = true ∧
      ((reach env (relanded ++ [applyAgain])).readyQueue.get? (queued 15 0)).map
        (fun q => (q.state, q.artifactDigest, q.claimFenceSeq)) =
          some (.applied, digest "a", some (fence 1).val) ∧
      Run.Along (next env) Call.Fresh Db.init (relanded ++ [applyAgain]) := by
  decide +kernel

theorem landing_receipts_recorded_landed :
    landed.Succeeds env (reach env verifiedWork) ∧
      landingReceiptExists (reach env (verifiedWork ++ [landed])) (queued 15 0) (digest "a")
        (fence 0) := by
  have hrun := relanded_run
  have hall := (landing_receipts_recorded env verifiedWork).1 landed _ rfl
  generalize reach env (verifiedWork ++ [landed]) = s' at hall ⊢
  generalize hs : reach env verifiedWork = s at hrun hall ⊢
  obtain ⟨hok, hnone, -⟩ := hrun
  refine ⟨hok, (hall hok).mpr fun r hr => ?_⟩
  rw [List.length_eq_zero_iff.mp hnone] at hr
  cases hr

/-- A receipt that was recorded under an earlier fence is accepted again, but cannot be read back
    under the new one; and the row, applied under the new fence, never gets its receipt. -/
theorem relanded_unrecorded :
    landAgain.Succeeds env (reach env relanded) ∧
      ¬landingReceiptExists (reach env (relanded ++ [landAgain])) (queued 15 0) (digest "a")
        (fence 1) ∧
      (∃ q, (reach env (relanded ++ [applyAgain])).readyQueue.get? (queued 15 0) = some q ∧
        q.state = .applied ∧ q.artifactDigest = digest "a" ∧
        q.claimFenceSeq = some (fence 1).val) ∧
      ∀ rest, Run.Along (next env) Call.Fresh Db.init (relanded ++ [applyAgain] ++ rest) →
        ¬landingReceiptExists (reach env (relanded ++ [applyAgain] ++ rest)) (queued 15 0)
          (digest "a") (fence 1) := by
  have hrun := relanded_run
  obtain ⟨hfirst, hnone, hok, hrow, -⟩ := hrun
  -- the receipt under the first fence stays the only one of the artifact
  have hnever (rest : List Call) : ¬landingReceiptExists (reach env (relanded ++ rest))
      (queued 15 0) (digest "a") (fence 1) := by
    obtain ⟨r, hr, -, hdigest, hfence⟩ : landingReceiptExists (reach env (verifiedWork ++ [landed]))
        (queued 15 0) (digest "a") (fence 0) := by
      rw [reach_concat]
      refine (next_receipt_exists rfl hfirst).mpr fun r hr => ?_
      rw [List.length_eq_zero_iff.mp hnone] at hr
      cases hr
    rw [relanded, List.append_assoc]
    rintro ⟨r', hr', -, hdigest', hfence'⟩
    obtain rfl := receipt_unique hr' (reach_receipt hr) (hdigest'.trans hdigest.symm)
    exact absurd (hfence.symm.trans hfence') (by decide)
  obtain ⟨q, hq, heq⟩ := Option.map_eq_some_iff.mp hrow
  obtain ⟨hstate, heq⟩ := Prod.mk.inj heq
  obtain ⟨hartifact, hfence⟩ := Prod.mk.inj heq
  refine ⟨hok, hnever _, ⟨q, hq, hstate, hartifact, hfence⟩, fun rest _ => ?_⟩
  rw [List.append_assoc]
  exact hnever _

end Scripts

end Covey

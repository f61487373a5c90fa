import Covey.Commits
import Covey.Refine.Claims
import Covey.Runs.Prerequisites
import Covey.Script

/-!
# Taking the next row of the apply queue

`claim_next_ready_queue_item` (queue.rs:296-356) first fills the queue: rows whose lease has run
out or whose owner is gone go back to it, and ready work without a row gets one. It then tries
the earliest queued row again and again, until one can be taken or none is left. A row that
cannot be taken leaves the queue.

* `Restocked`: what the queue looks like before the loop.
* `claimReadyQueueItem_ok`: one round.
* `claimNextQueued_rounds`: the loop ends, one row leaving the queue in each round.
* `claimNextQueued_ok`: the loop invariant, row by row.
-/

namespace Covey

open Relational

/-- The first of some sorted elements comes before all of them. -/
theorem head?_insertionSort {α : Type} {r : α → α → Prop} [DecidableRel r] [Std.Total r]
    [IsTrans α r] {l : List α} {a : α} (h : (l.insertionSort r).head? = some a) :
    a ∈ l ∧ ∀ b ∈ l, r a b := by
  obtain ⟨rest, hrest⟩ := List.head?_eq_some_iff.mp h
  have hmem : ∀ b, b ∈ l ↔ b ∈ a :: rest := fun b => by
    rw [← hrest, List.mem_insertionSort]
  have hsorted := List.pairwise_insertionSort r l
  rw [hrest, List.pairwise_cons] at hsorted
  refine ⟨(hmem a).mpr List.mem_cons_self, fun b hb => ?_⟩
  rcases List.mem_cons.mp ((hmem b).mp hb) with rfl | hb
  · exact (Std.Total.total b b).elim id id
  · exact hsorted.1 b hb

section Rounds

variable {s s' : Db} {k : SessionToken} {duration : LeaseDurationMs} {leaseNow now : ℤ}
  {found : Option ReadyQueueClaim}

/-! ## One round -/

/-- The row can be taken: it is queued, and its subtask, in an open meta-task, is ready for apply
    with the row's artifact. -/
def ReadyQueueRow.Takeable (s : Db) (q : ReadyQueueRow) : Prop :=
  q.state = .queued ∧ ∃ r m, s.subtasks.get? q.subtaskId = some r ∧
    s.metaTasks.get? r.metaTaskId = some m ∧ m.state ≠ .completed ∧ m.state ≠ .cancelled ∧
    r.state = .readyForApply ∧ r.artifactDigest = some q.artifactDigest

def ReadyQueueRow.Discarded (q : ReadyQueueRow) : Prop :=
  q.state = .cancelled ∨ q.state = .superseded

/-- The row in flight for a session. -/
def ReadyQueueRow.taken (q : ReadyQueueRow) (k : SessionToken) (deadline now : ℤ) : ReadyQueueRow :=
  { q with state := .inFlight, claimedBySessionToken := some k,
           claimFenceSeq := some (q.claimFenceSeq.getD 0 + 1),
           claimLeaseDeadline := some deadline, updatedAt := now }

/-- What the session is told about it. -/
def ReadyQueueRow.claim (q : ReadyQueueRow) (deadline : ℤ) : ReadyQueueClaim :=
  ⟨q.queueId, q.artifactDigest, q.subtaskId, q.claimFenceSeq.getD 0 + 1, deadline⟩

/-- The same work waits for a row of the queue. -/
def SameCandidates (s s' : Db) : Prop :=
  ∀ state, applyCandidates s' state = applyCandidates s state

instance : Std.Refl SameCandidates := ⟨fun _ _ => rfl⟩

instance : IsTrans Db SameCandidates := ⟨fun _ _ _ h h' state => (h' state).trans (h state)⟩

/-- A row that goes back to the queue still is the row of its artifact. -/
theorem vacateQueueItem_candidates {queueId : QueueId} :
    Tx.Keeps SameCandidates (vacateQueueItem queueId .inFlight .queued now) := by
  intro s n s' h state
  obtain ⟨t, rfl, ht⟩ := updateIn_map h fun _ _ => rfl
  have hactive : ∀ id d,
      (∃ q ∈ t.rows, q.subtaskId = id ∧ q.artifactDigest = d ∧ q.isActive) ↔
        ∃ q ∈ s.readyQueue.rows, q.subtaskId = id ∧ q.artifactDigest = d ∧ q.isActive := by
    intro id d
    refine (Table.exists_mem_of_map ht).trans (exists_congr fun q => and_congr_right fun _ => ?_)
    split_ifs with hq
    · simp [ReadyQueueRow.isActive, hq.2]
    · rfl
  show applyCandidates { s with readyQueue := t } state = _
  simp only [applyCandidates, hactive]
  rfl

theorem requeueStaleReadyQueueClaims_candidates :
    Tx.Keeps SameCandidates (requeueStaleReadyQueueClaims leaseNow now) := by
  refine .bind .get fun _ => .forEach fun _ _ => ?_
  exact .bind vacateQueueItem_candidates fun _ => .pure _

/-- The number of queued rows. -/
def queuedCount (s : Db) : ℕ := (s.readyQueue.select fun q => q.state = .queued).length

/-- `ORDER BY enqueued_at ASC`. -/
instance : Std.Total fun a b : ReadyQueueRow => a.enqueuedAt ≤ b.enqueuedAt :=
  ⟨fun _ _ => le_total _ _⟩

instance : IsTrans ReadyQueueRow fun a b => a.enqueuedAt ≤ b.enqueuedAt :=
  ⟨fun _ _ _ => le_trans⟩

/-- The candidate is an earliest queued row. -/
theorem orderedReadyQueueCandidate_ok {candidate : Option QueueId}
    (h : orderedReadyQueueCandidate s = (.ok candidate, s')) :
    s' = s ∧ (candidate = none → ∀ q ∈ s.readyQueue.rows, q.state ≠ .queued) ∧
      ∀ id, candidate = some id → ∃ q, s.readyQueue.get? id = some q ∧ q.state = .queued ∧
        ∀ q' ∈ s.readyQueue.rows, q'.state = .queued → q.enqueuedAt ≤ q'.enqueuedAt := by
  have hread := orderedReadyQueueCandidate_readOnly.state h
  simp only [orderedReadyQueueCandidate, Tx.bind_ok, selectFrom_ok, Tx.pure_ok, and_assoc,
    exists_and_left, exists_eq_left'] at h
  have hhead : ((s.readyQueue.select fun q => q.state = .queued).insertionSort
      fun a b => a.enqueuedAt ≤ b.enqueuedAt).head?.map (·.queueId) = candidate := h.1
  refine ⟨hread, fun hnone q hq hqueued => ?_, fun id hsome => ?_⟩
  · rw [hnone, Option.map_eq_none_iff, List.head?_eq_none_iff] at hhead
    have hmem : q ∈ s.readyQueue.select fun q => q.state = .queued :=
      Table.mem_select.mpr ⟨hq, hqueued⟩
    rw [← List.mem_insertionSort fun a b : ReadyQueueRow => a.enqueuedAt ≤ b.enqueuedAt,
      hhead] at hmem
    cases hmem
  · rw [hsome, Option.map_eq_some_iff] at hhead
    obtain ⟨q, hq, rfl⟩ := hhead
    obtain ⟨hmem, hfirst⟩ := head?_insertionSort hq
    obtain ⟨hrow, hqueued⟩ := Table.mem_select.mp hmem
    exact ⟨q, Table.get?_key hrow, hqueued, fun q' hq' hqueued' =>
      hfirst q' (Table.mem_select.mpr ⟨hq', hqueued'⟩)⟩

/-- The statement that takes a row out of the queue. -/
theorem unqueue_ok {id : QueueId} {q : ReadyQueueRow} {f : ReadyQueueRow → ReadyQueueRow} {n : ℕ}
    (h : updateIn Rel.readyQueue (fun q => q.queueId = id ∧ q.state = .queued) f s = (.ok n, s'))
    (hq : s.readyQueue.get? id = some q) (hqueued : q.state = .queued)
    (hkey : ∀ q, (f q).queueId = q.queueId) (hf : ∀ q, (f q).state ≠ .queued) :
    n = 1 ∧ queuedCount s' < queuedCount s ∧ ∃ table, s' = { s with readyQueue := table } ∧
      table.get? = put s.readyQueue.get? id (f q) := by
  obtain ⟨table, hupdate, hcount, rfl⟩ := updateIn_ok.mp h
  have hid : q.queueId = id := Table.key_of_get? hq
  refine ⟨?_, ?_, table, rfl, ?_⟩
  · rw [← hcount]
    exact Table.count_key_one hq hqueued
  · exact Table.length_select_update_lt hupdate (Table.mem_of_get? hq) ⟨hid, hqueued⟩ hqueued
      fun q _ => hf q
  · have hget := Table.get?_update_at hupdate hkey
    rw [hget, show (Rel.readyQueue.get s).get? = s.readyQueue.get? from rfl, modify_of_some hq,
      if_pos hqueued]

/-- One round on a queued row takes it, or discards it if it cannot be taken. -/
theorem claimReadyQueueItem_ok {id : QueueId}
    (h : claimReadyQueueItem id k duration leaseNow now s = (.ok found, s')) :
    ∃ q table, s.readyQueue.get? id = some q ∧ q.state = .queued ∧
      s' = { s with readyQueue := table } ∧ queuedCount s' < queuedCount s ∧
      (found = none ∧ ¬q.Takeable s ∧
          (∃ q', q'.Discarded ∧ table.get? = put s.readyQueue.get? id q') ∨
        found = some (q.claim (addI64 leaseNow duration.val)) ∧ q.Takeable s ∧
          0 ≤ addI64 leaseNow duration.val ∧
          table.get? = put s.readyQueue.get? id
            (q.taken k (addI64 leaseNow duration.val) now)) := by
  simp only [claimReadyQueueItem, Tx.bind_ok, loadQueueItem_ok, Tx.lift_ok, loadSubtask_ok,
    loadMetaTask_ok, ensureReadyQueueTransition_ok, and_assoc, exists_and_left, exists_eq_left',
    Tx.exists_unit] at h
  obtain ⟨q, hq, -, hallows, r, hr, -, m, hm, -, h⟩ := h
  have hqueued : q.state = .queued := by
    cases hstate : q.state <;> simp [hstate, ReadyQueueState.allows] at hallows ⊢
  have hid : q.queueId = id := Table.key_of_get? hq
  split_ifs at h with hclosed hstale
  · simp only [vacateQueueItem, Tx.bind_ok, Tx.pure_ok] at h
    obtain ⟨_, _, hvacate, rfl, rfl⟩ := h
    obtain ⟨-, hcount, table, hs', hget⟩ := unqueue_ok hvacate hq hqueued (fun _ => rfl) (by simp)
    refine ⟨q, table, hq, hqueued, hs', hcount, .inl ⟨rfl, ?_, _, .inl rfl, hget⟩⟩
    rintro ⟨-, r', m', hr', hm', hcompleted, hcancelled, -⟩
    obtain rfl := Option.some.inj (hr.symm.trans hr')
    obtain rfl := Option.some.inj (hm.symm.trans hm')
    exact hclosed.elim hcompleted hcancelled
  · simp only [vacateQueueItem, Tx.bind_ok, Tx.pure_ok] at h
    obtain ⟨_, _, hvacate, rfl, rfl⟩ := h
    obtain ⟨-, hcount, table, hs', hget⟩ := unqueue_ok hvacate hq hqueued (fun _ => rfl) (by simp)
    refine ⟨q, table, hq, hqueued, hs', hcount, .inl ⟨rfl, ?_, _, .inr rfl, hget⟩⟩
    rintro ⟨-, r', m', hr', -, -, -, hready, hdigest⟩
    obtain rfl := Option.some.inj (hr.symm.trans hr')
    exact hstale.elim (fun h => h hready) fun h => h hdigest
  · simp only [Tx.bind_ok, Tx.lift_ok, typed_ok, LeaseDeadlineMs.parse_ok, and_assoc,
      exists_and_left, exists_eq_left'] at h
    obtain ⟨hpos, n, s₁, hupdate, h⟩ := h
    obtain ⟨hn, hcount, table, hs₁, hget⟩ :=
      unqueue_ok hupdate hq hqueued (fun _ => rfl) (by simp)
    rw [if_neg (by omega)] at h
    obtain ⟨rfl, rfl⟩ := Tx.pure_ok.mp h
    rw [not_or, not_not, not_not] at hstale
    rw [not_or] at hclosed
    exact ⟨q, table, hq, hqueued, hs₁, hcount, .inr ⟨rfl, ⟨hqueued, r, m, hr, hm, hclosed.1,
      hclosed.2, hstale.1, hstale.2⟩, hpos, hget⟩⟩

/-! ## The loop -/

/-- One round more than there are queued rows is enough: further rounds change nothing. -/
theorem claimNextQueued_rounds {rounds rounds' : ℕ} (h : queuedCount s < rounds)
    (h' : queuedCount s < rounds') :
    claimNextQueued k duration leaseNow now rounds s =
      claimNextQueued k duration leaseNow now rounds' s := by
  induction rounds generalizing s rounds' with
  | zero => omega
  | succ rounds ih =>
    obtain ⟨rounds', rfl⟩ : ∃ n, rounds' = n + 1 := ⟨rounds' - 1, by omega⟩
    obtain ⟨candidate, hcandidate⟩ : ∃ candidate,
        orderedReadyQueueCandidate s = (.ok candidate, s) := ⟨_, rfl⟩
    rw [claimNextQueued, claimNextQueued, Tx.bind_of_ok hcandidate, Tx.bind_of_ok hcandidate]
    cases candidate with
    | none => rfl
    | some id =>
      rcases hclaim : claimReadyQueueItem id k duration leaseNow now s with ⟨e | found, s₁⟩
      · exact (Tx.bind_error.mpr (.inl hclaim)).trans (Tx.bind_error.mpr (.inl hclaim)).symm
      · obtain ⟨_, _, -, -, -, hcount, -⟩ := claimReadyQueueItem_ok hclaim
        refine (Tx.bind_of_ok hclaim).trans (Eq.trans ?_ (Tx.bind_of_ok hclaim).symm)
        cases found with
        | none => exact ih (by omega) (by omega)
        | some claim => rfl

/-- What becomes of a row while the loop looks for the next one and finds `chosen`. -/
inductive ReadyQueueRow.Fate (s : Db) (k : SessionToken) (deadline now : ℤ)
    (chosen : Option ReadyQueueRow) (q : ReadyQueueRow) : ReadyQueueRow → Prop
  | idle (unqueued : q.state ≠ .queued) : q.Fate s k deadline now chosen q
  | passed {q' : ReadyQueueRow} (queued : q.state = .queued) (unfit : ¬q.Takeable s)
      (discarded : q'.Discarded) : q.Fate s k deadline now chosen q'
  | taken (first : chosen = some q) (fit : q.Takeable s) :
      q.Fate s k deadline now chosen (q.taken k deadline now)
  | waiting {q₀ : ReadyQueueRow} (first : chosen = some q₀) (queued : q.state = .queued)
      (later : q₀.enqueuedAt ≤ q.enqueuedAt) : q.Fate s k deadline now chosen q

theorem ReadyQueueRow.Discarded.not_queued {q : ReadyQueueRow} (h : q.Discarded) :
    q.state ≠ .queued := by
  rcases h with h | h <;> rw [h] <;> decide

/-- A row that has left the queue stays as it is. -/
theorem ReadyQueueRow.Fate.eq_of_not_queued {deadline : ℤ} {chosen : Option ReadyQueueRow}
    {q q' : ReadyQueueRow} (h : q.Fate s k deadline now chosen q') (hq : q.state ≠ .queued) :
    q' = q := by
  cases h with
  | idle => rfl
  | passed queued => exact absurd queued hq
  | taken _ fit => exact absurd fit.1 hq
  | waiting => rfl

theorem ReadyQueueRow.Fate.congr {deadline : ℤ} {chosen : Option ReadyQueueRow}
    {q q' : ReadyQueueRow} (hfit : ∀ q : ReadyQueueRow, q.Takeable s ↔ q.Takeable s')
    (h : q.Fate s k deadline now chosen q') : q.Fate s' k deadline now chosen q' := by
  cases h with
  | idle unqueued => exact .idle unqueued
  | passed queued unfit discarded =>
    exact .passed queued (fun fit => unfit ((hfit q).mpr fit)) discarded
  | taken first fit => exact .taken first ((hfit q).mp fit)
  | waiting first queued later => exact .waiting first queued later

/-- The loop takes the first row that can be taken, discards those before it, and leaves the rest
    alone. -/
theorem claimNextQueued_ok {rounds : ℕ} (hrounds : queuedCount s < rounds)
    (h : claimNextQueued k duration leaseNow now rounds s = (.ok found, s')) :
    ∃ chosen : Option ReadyQueueRow,
      found = chosen.map (·.claim (addI64 leaseNow duration.val)) ∧
      (∀ q ∈ chosen, s.readyQueue.get? q.queueId = some q ∧ q.Takeable s ∧
        0 ≤ addI64 leaseNow duration.val ∧
        s'.readyQueue.get? q.queueId = some (q.taken k (addI64 leaseNow duration.val) now)) ∧
      ∀ id, Option.Rel (ReadyQueueRow.Fate s k (addI64 leaseNow duration.val) now chosen)
        (s.readyQueue.get? id) (s'.readyQueue.get? id) := by
  generalize hdeadline : addI64 leaseNow duration.val = deadline
  induction rounds generalizing s with
  | zero => omega
  | succ rounds ih =>
    simp only [claimNextQueued, Tx.bind_ok] at h
    obtain ⟨candidate, s₁, hcandidate, h⟩ := h
    obtain ⟨rfl, hnone, hsome⟩ := orderedReadyQueueCandidate_ok hcandidate
    cases candidate with
    | none =>
      obtain ⟨rfl, rfl⟩ := Tx.pure_ok.mp h
      refine ⟨none, rfl, by simp, fun id => ?_⟩
      cases hq : s₁.readyQueue.get? id with
      | none => exact .none
      | some q => exact .some (.idle (hnone rfl q (Table.mem_of_get? hq)))
    | some id =>
      simp only [Tx.bind_ok] at h
      obtain ⟨found', s₂, hclaim, h⟩ := h
      obtain ⟨q, hq, hqueued, hfirst⟩ := hsome id rfl
      obtain ⟨q', table, hq', -, hs₂, hcount, hround⟩ := claimReadyQueueItem_ok hclaim
      obtain rfl := Option.some.inj (hq.symm.trans hq')
      rw [hdeadline] at hround
      rcases hround with ⟨rfl, hunfit, q', hdiscarded, hget⟩ | ⟨rfl, hfit, hpos, hget⟩
      · -- the row is discarded, and the next round sees a queue without it
        obtain ⟨chosen, hfound, hchosen, hfate⟩ := ih (by omega) h
        have hget' : s₂.readyQueue.get? = put s₁.readyQueue.get? id q' := by rw [hs₂, hget]
        have hfit : ∀ q₀ : ReadyQueueRow, q₀.Takeable s₂ ↔ q₀.Takeable s₁ := by
          intro q₀
          rw [hs₂]
          rfl
        refine ⟨chosen, hfound, fun q₀ hq₀ => ?_, fun id' => ?_⟩
        · obtain ⟨hrow, htake, hpos, htaken⟩ := hchosen q₀ hq₀
          rw [hget', put_eq_some] at hrow
          rcases hrow with ⟨-, rfl⟩ | ⟨-, hrow⟩
          · exact absurd htake.1 hdiscarded.not_queued
          · exact ⟨hrow, (hfit q₀).mp htake, hpos, htaken⟩
        · have hrel := hfate id'
          by_cases hid : id' = id
          · subst hid
            rw [hget', put_self] at hrel
            obtain ⟨q'', hq'', hrow⟩ := rel_of_some hrel rfl
            rw [hq, hq'', hrow.eq_of_not_queued hdiscarded.not_queued]
            exact .some (.passed hqueued hunfit hdiscarded)
          · rw [hget', put_of_ne hid] at hrel
            cases hrow : s₁.readyQueue.get? id' with
            | none =>
              rw [rel_of_none hrel hrow]
              exact .none
            | some a =>
              obtain ⟨b, hb, hab⟩ := rel_of_some hrel hrow
              rw [hb]
              exact .some (hab.congr hfit)
      · simp only [Tx.bind_ok, Tx.pure_ok, Tx.exists_unit] at h
        obtain ⟨s₃, hevent, rfl, rfl⟩ := h
        have hid : q.queueId = id := Table.key_of_get? hq
        have hget' : s₃.readyQueue.get? = put s₁.readyQueue.get? id (q.taken k deadline now) := by
          rw [((appendSessionEvent_touches (List.Subset.refl _)).run hevent :
            Touches [.events] s₂ s₃).same (f := fun s => s.readyQueue) fun _ => rfl, hs₂, hget]
        refine ⟨some q, rfl, fun q₀ hq₀ => ?_, fun id' => ?_⟩
        · obtain rfl := Option.some.inj hq₀
          rw [hid]
          exact ⟨hq, hfit, hpos, by rw [hget', put_self]⟩
        · by_cases hid' : id' = id
          · rw [hget', hid', put_self, hq]
            exact .some (.taken rfl hfit)
          · rw [hget', put_of_ne hid']
            cases hrow : s₁.readyQueue.get? id' with
            | none => exact .none
            | some a =>
              by_cases hqueued' : a.state = .queued
              · exact .some (.waiting rfl hqueued' (hfirst a (Table.mem_of_get? hrow) hqueued'))
              · exact .some (.idle hqueued')

/-! ## The queue before the loop -/

/-- The lease of the row has run out, or who holds it is gone. -/
def ReadyQueueRow.Lapsed (s : Db) (leaseNow : ℤ) (q : ReadyQueueRow) : Prop :=
  q.state = .inFlight ∧
    ((∃ deadline ∈ q.claimLeaseDeadline, deadline ≤ leaseNow) ∨
      ∀ token ∈ q.claimedBySessionToken,
        (s.sessions.get? token).all (fun r => r.state = .stale ∨ r.state = .exited) = true)

/-- The row back in the queue. -/
def ReadyQueueRow.requeued (now : ℤ) (q : ReadyQueueRow) : ReadyQueueRow :=
  { q with state := .queued, claimedBySessionToken := none, claimLeaseDeadline := none,
           updatedAt := now }

/-- The queue of `s₁` is that of `s` with the lapsed rows requeued, and with a new row for each
    piece of ready work that has none. -/
structure Restocked (s s₁ : Db) (leaseNow now : ℤ) : Prop where
  rows : ∀ id q, s.readyQueue.get? id = some q →
    q.Lapsed s leaseNow ∧ s₁.readyQueue.get? id = some (q.requeued now) ∨
      ¬q.Lapsed s leaseNow ∧ s₁.readyQueue.get? id = some q
  added : ∀ id q, s.readyQueue.get? id = none → s₁.readyQueue.get? id = some q →
    q.state = .queued ∧ q.enqueuedAt = now ∧
      (q.subtaskId, q.artifactDigest) ∈ applyCandidates s .readyForApply
  stocked : ∀ p ∈ applyCandidates s .readyForApply, ∃ q ∈ s₁.readyQueue.rows,
    q.subtaskId = p.1 ∧ q.artifactDigest = p.2 ∧ q.isActive
  subtasks : s₁.subtasks = s.subtasks
  metaTasks : s₁.metaTasks = s.metaTasks

theorem vacateEach_updates {l : List ReadyQueueRow} {u : Unit}
    (h : Tx.forEach l (fun q => do
      let _ ← vacateQueueItem q.queueId .inFlight .queued now) s = (.ok u, s')) :
    ∃ table, s' = { s with readyQueue := table } ∧
      Table.Updates (fun r => ∃ q ∈ l, q.queueId = r.queueId ∧ r.state = .inFlight)
        (ReadyQueueRow.requeued now) s.readyQueue table := by
  induction l generalizing s with
  | nil =>
    obtain ⟨-, rfl⟩ := Tx.pure_ok.mp h
    exact ⟨s.readyQueue, rfl, .none (by simp)⟩
  | cons q l ih =>
    obtain ⟨s₁, hvacate, h⟩ := Tx.forEach_cons_ok.mp h
    obtain ⟨_, s₂, hupdate, hpure⟩ := Tx.bind_ok.mp hvacate
    obtain ⟨t, ht, -, rfl⟩ := updateIn_ok.mp hupdate
    obtain ⟨-, rfl⟩ := Tx.pure_ok.mp hpure
    obtain ⟨table, rfl, hrest⟩ := ih h
    refine ⟨table, rfl, ((Table.Updates.of_update ht).trans hrest ?_).congr fun r => ?_⟩
    · rintro r - ⟨_, -, -, hstate⟩
      cases hstate
    · simp [eq_comm]

theorem requeueStaleReadyQueueClaims_ok {u : Unit}
    (h : requeueStaleReadyQueueClaims leaseNow now s = (.ok u, s')) :
    ∃ table, s' = { s with readyQueue := table } ∧
      ∀ id, Option.Rel (fun q q' => q.Lapsed s leaseNow ∧ q' = q.requeued now ∨
        ¬q.Lapsed s leaseNow ∧ q' = q) (s.readyQueue.get? id) (table.get? id) := by
  simp only [requeueStaleReadyQueueClaims, Tx.bind_ok, Tx.get_ok, and_assoc, exists_and_left,
    exists_eq_left'] at h
  obtain ⟨table, hs', hupdates⟩ := vacateEach_updates h
  refine ⟨table, hs', fun id => ?_⟩
  have hrel := hupdates.get?_rel (fun _ _ => rfl) id
  cases hq : s.readyQueue.get? id with
  | none =>
    rw [rel_of_none hrel hq]
    exact .none
  | some q =>
    obtain ⟨q', hq', hrow⟩ := rel_of_some hrel hq
    rw [hq']
    simp only [List.mem_insertionSort, Table.mem_select] at hrow
    -- the rows that are named are the lapsed ones, keys being unique
    rcases hrow with ⟨⟨r, ⟨hr, hlapsed⟩, hkey, -⟩, rfl⟩ | ⟨hkept, hsame⟩
    · obtain rfl : q = r := s.readyQueue.eq_of_key_eq (Table.mem_of_get? hq) hr hkey.symm
      exact .some (.inl ⟨hlapsed, rfl⟩)
    · exact .some (.inr ⟨fun hlapsed =>
        hkept ⟨q, ⟨Table.mem_of_get? hq, hlapsed⟩, rfl, hlapsed.1⟩, hsame⟩)

/-- The row that puts an artifact into the queue, unless it has one. -/
theorem insertReadyQueueItem_rows {id : SubtaskId} {digest : ArtifactDigest} {key : String}
    {inserted : Option QueueId}
    (h : insertReadyQueueItem k id digest now key s = (.ok inserted, s')) :
    (∃ q ∈ s'.readyQueue.rows, q.subtaskId = id ∧ q.artifactDigest = digest ∧ q.isActive) ∧
    ∃ new, s'.readyQueue.rows = s.readyQueue.rows ++ new ∧ ∀ q ∈ new, q.state = .queued ∧
      q.enqueuedAt = now ∧ q.subtaskId = id ∧ q.artifactDigest = digest := by
  simp only [insertReadyQueueItem, Tx.bind_ok, activeQueueIdForArtifact_ok] at h
  obtain ⟨active, _, ⟨hactive, rfl⟩, h⟩ := h
  cases active with
  | some queueId =>
    obtain ⟨-, rfl⟩ := Tx.pure_ok.mp h
    obtain ⟨q, hq, -⟩ := Option.map_eq_some_iff.mp hactive
    obtain ⟨hmem, -⟩ := head?_insertionSort hq
    exact ⟨⟨q, Table.mem_select.mp hmem⟩, [], (List.append_nil _).symm, by simp⟩
  | none =>
    simp only [Tx.bind_ok, Tx.lift_ok, Tx.pure_ok, and_assoc, exists_and_left, exists_eq_left',
      Tx.exists_unit] at h
    obtain ⟨queueId, s₁, hid, s₂, hins, _, -, s₃, hevent, -, rfl⟩ := h
    obtain ⟨-, hs₁⟩ := freshId_ok.mp hid
    obtain ⟨table, hinsert, hs₂⟩ := insertInto_ok.mp hins
    have hrows := Table.insert_eq_some.mp hinsert
    have hqueue : s₃.readyQueue = table := by
      rw [((appendSessionEvent_touches (List.Subset.refl _)).run hevent :
        Touches [.events] s₂ s₃).same (f := fun s => s.readyQueue) fun _ => rfl, ← hs₂]
      rfl
    rw [show Rel.readyQueue.get s₁ = s.readyQueue by rw [hs₁]; rfl, ← hqueue] at hrows
    refine ⟨⟨_, hrows ▸ List.mem_append_right _ List.mem_cons_self, rfl, rfl, .inl rfl⟩, _, hrows,
      fun q hq => ?_⟩
    rw [List.mem_singleton.mp hq]
    exact ⟨rfl, rfl, rfl, rfl⟩

theorem insertEach_rows {items : List (SubtaskId × ArtifactDigest)}
    {key : SubtaskId × ArtifactDigest → String} {inserted : List (Option QueueId)}
    (h : Tx.mapEach items (fun p => insertReadyQueueItem k p.1 p.2 now (key p)) s =
      (.ok inserted, s')) :
    (∀ p ∈ items, ∃ q ∈ s'.readyQueue.rows,
      q.subtaskId = p.1 ∧ q.artifactDigest = p.2 ∧ q.isActive) ∧
    ∃ new, s'.readyQueue.rows = s.readyQueue.rows ++ new ∧ ∀ q ∈ new, q.state = .queued ∧
      q.enqueuedAt = now ∧ (q.subtaskId, q.artifactDigest) ∈ items := by
  induction items generalizing s inserted with
  | nil =>
    obtain ⟨-, rfl⟩ := Tx.mapEach_nil.mp h
    exact ⟨by simp, [], (List.append_nil _).symm, by simp⟩
  | cons p items ih =>
    obtain ⟨_, s₁, hinsert, _, hrest, -⟩ := Tx.mapEach_cons_ok.mp h
    obtain ⟨⟨q, hq, hactive⟩, new, hnew, hrows⟩ := insertReadyQueueItem_rows hinsert
    obtain ⟨hall, new', hnew', hrows'⟩ := ih hrest
    refine ⟨List.forall_mem_cons.mpr ⟨⟨q, ?_, hactive⟩, hall⟩, new ++ new', ?_, fun q hq => ?_⟩
    · rw [hnew']
      exact List.mem_append_left _ hq
    · rw [hnew', hnew, List.append_assoc]
    · rcases List.mem_append.mp hq with hq | hq
      · obtain ⟨hqueued, htime, hid, hdigest⟩ := hrows q hq
        refine ⟨hqueued, htime, ?_⟩
        rw [hid, hdigest]
        exact List.mem_cons_self
      · obtain ⟨hqueued, htime, hmem⟩ := hrows' q hq
        exact ⟨hqueued, htime, List.mem_cons_of_mem _ hmem⟩

/-- The two steps before the loop restock the queue. -/
theorem restocked {s₁ : Db} {u : Unit} {inserted : List (Option QueueId)}
    (hrequeue : requeueStaleReadyQueueClaims leaseNow now s = (.ok u, s₁))
    (horphans : enqueueOrphanedReadyForApplyItems k now s₁ = (.ok inserted, s')) :
    Restocked s s' leaseNow now := by
  have hcandidates := requeueStaleReadyQueueClaims_candidates hrequeue .readyForApply
  have htouch : Touches [.readyQueue, .events] s s' :=
    ((requeueStaleReadyQueueClaims_touches (by decide)).run hrequeue).trans
      ((enqueueOrphanedReadyForApplyItems_touches (by decide)).run horphans)
  obtain ⟨table, hs₁, hrel⟩ := requeueStaleReadyQueueClaims_ok hrequeue
  simp only [enqueueOrphanedReadyForApplyItems, Tx.bind_ok, Tx.get_ok, and_assoc, exists_and_left,
    exists_eq_left'] at horphans
  obtain ⟨hall, new, hnew, hrows⟩ := insertEach_rows horphans
  rw [hcandidates] at hall hrows
  have hold : ∀ id q, table.get? id = some q → s'.readyQueue.get? id = some q := by
    intro id q hq
    have hmem : q ∈ s'.readyQueue.rows := by
      rw [hnew, hs₁]
      exact List.mem_append_left _ (Table.mem_of_get? hq)
    have hget := Table.get?_key hmem
    rwa [Table.key_of_get? hq] at hget
  refine ⟨fun id q hq => ?_, fun id q hnone hq => ?_, hall, htouch.same fun _ => rfl,
    htouch.same fun _ => rfl⟩
  · obtain ⟨q', hq', ⟨hlapsed, rfl⟩ | ⟨hkept, rfl⟩⟩ := rel_of_some (hrel id) hq
    · exact .inl ⟨hlapsed, hold id _ hq'⟩
    · exact .inr ⟨hkept, hold id _ hq'⟩
  · have hmem := Table.mem_of_get? hq
    rw [hnew, hs₁] at hmem
    rcases List.mem_append.mp hmem with hmem | hmem
    · have hget := Table.get?_key hmem
      rw [show readyQueueSchema.key q = id from Table.key_of_get? hq,
        show table.get? id = none from rel_of_none (hrel id) hnone] at hget
      cases hget
    · exact hrows q hmem

end Rounds

/-! ## The operation -/

section Operation

variable {env : Env} {s : Db} {c : Call}

/-- What the loop does to the restocked queue. With a claim, an earliest row that can be taken is
    in flight for the caller, and what was queued before it is discarded. Without one there was
    nothing to take, and nothing is left in the queue. -/
structure Dispatched (s s' : Db) (k : SessionToken) (deadline now : ℤ)
    (found : Option ReadyQueueClaim) : Prop where
  claimed : ∀ claim ∈ found, ∃ q, s.readyQueue.get? claim.queueId = some q ∧ q.Takeable s ∧
    claim = q.claim deadline ∧ s'.readyQueue.get? claim.queueId = some (q.taken k deadline now) ∧
    (∀ q' ∈ s.readyQueue.rows, q'.Takeable s → q.enqueuedAt ≤ q'.enqueuedAt) ∧
    ∀ id q', s.readyQueue.get? id = some q' → q'.state = .queued → q'.enqueuedAt < q.enqueuedAt →
      ∃ q'', s'.readyQueue.get? id = some q'' ∧ q''.Discarded
  nothing : found = none → (∀ q ∈ s.readyQueue.rows, ¬q.Takeable s) ∧
    ∀ id q, s.readyQueue.get? id = some q → q.state = .queued →
      ∃ q', s'.readyQueue.get? id = some q' ∧ q'.Discarded
  others : ∀ id q, s.readyQueue.get? id = some q → s'.readyQueue.get? id = some q ∨
    (∃ claim ∈ found, claim.queueId = id) ∨
    q.state = .queued ∧ ¬q.Takeable s ∧ ∃ q', s'.readyQueue.get? id = some q' ∧ q'.Discarded

theorem dispatched {s' : Db} {k : SessionToken} {duration : LeaseDurationMs} {leaseNow now : ℤ}
    {rounds : ℕ} {found : Option ReadyQueueClaim} (hrounds : queuedCount s < rounds)
    (h : claimNextQueued k duration leaseNow now rounds s = (.ok found, s')) :
    Dispatched s s' k (addI64 leaseNow duration.val) now found := by
  obtain ⟨chosen, hfound, hchosen, hfate⟩ := claimNextQueued_ok hrounds h
  have hrow : ∀ id q, s.readyQueue.get? id = some q → ∃ q', s'.readyQueue.get? id = some q' ∧
      q.Fate s k (addI64 leaseNow duration.val) now chosen q' :=
    fun id q hq => rel_of_some (hfate id) hq
  subst hfound
  refine ⟨fun claim hclaim => ?_, fun hnone => ?_, fun id q hq => ?_⟩
  · obtain ⟨q, rfl, rfl⟩ := Option.map_eq_some_iff.mp hclaim
    obtain ⟨hq, hfit, -, htaken⟩ := hchosen q rfl
    refine ⟨q, hq, hfit, rfl, htaken, fun q₁ hmem hfit₁ => ?_, fun id q₁ hq₁ hqueued hbefore => ?_⟩
    · obtain ⟨q₂, -, hfate⟩ := hrow _ _ (Table.get?_key hmem)
      cases hfate with
      | idle unqueued => exact absurd hfit₁.1 unqueued
      | passed _ unfit => exact absurd hfit₁ unfit
      | taken first =>
        obtain rfl := Option.some.inj first
        exact le_rfl
      | waiting first _ later =>
        obtain rfl := Option.some.inj first
        exact later
    · obtain ⟨q₂, hq₂, hfate⟩ := hrow _ _ hq₁
      cases hfate with
      | idle unqueued => exact absurd hqueued unqueued
      | passed _ _ discarded => exact ⟨q₂, hq₂, discarded⟩
      | taken first =>
        obtain rfl := Option.some.inj first
        exact absurd hbefore (lt_irrefl _)
      | waiting first _ later =>
        obtain rfl := Option.some.inj first
        exact absurd later (not_le.mpr hbefore)
  · rw [Option.map_eq_none_iff] at hnone
    subst hnone
    have hpassed : ∀ id q, s.readyQueue.get? id = some q → q.state = .queued →
        ¬q.Takeable s ∧ ∃ q', s'.readyQueue.get? id = some q' ∧ q'.Discarded := by
      intro id q hq hqueued
      obtain ⟨q', hq', hfate⟩ := hrow id q hq
      cases hfate with
      | idle unqueued => exact absurd hqueued unqueued
      | passed _ unfit discarded => exact ⟨unfit, q', hq', discarded⟩
      | taken first => cases first
      | waiting first => cases first
    exact ⟨fun q hq hfit => (hpassed _ q (Table.get?_key hq) hfit.1).1 hfit,
      fun id q hq hqueued => (hpassed id q hq hqueued).2⟩
  · obtain ⟨q', hq', hfate⟩ := hrow id q hq
    cases hfate with
    | idle => exact .inl hq'
    | passed queued unfit discarded => exact .inr (.inr ⟨queued, unfit, q', hq', discarded⟩)
    | taken first =>
      subst first
      exact .inr (.inl ⟨_, rfl, Table.key_of_get? hq⟩)
    | waiting => exact .inl hq'

/-- The loop of `claim_next_ready_queue_item` ends whatever is in the queue: beyond as many rounds
    as there are queued rows, and one more, nothing changes. A call that is accepted restocks the
    queue and then takes an earliest row that can be taken, if there is one. -/
theorem claim_next_takes_earliest (env : Env) (calls : List Call) (c : Call)
    (req : ClaimReadyQueueReq) (hop : c.op = .claimNextReadyQueueItem req) :
    (∀ s rounds, queuedCount s < rounds → ∀ leaseNow,
      claimNextQueued req.sessionToken req.leaseDurationMs leaseNow c.now rounds s =
        claimNextQueued req.sessionToken req.leaseDurationMs leaseNow c.now (queuedCount s + 1) s) ∧
    (c.Commits env (reach env calls) → ∃ found s₁,
      (step env (reach env calls) c).1 = .ok (.nextQueueClaim found) ∧
      Restocked (reach env calls) s₁ (max (reach env calls).leaseClock (max c.now 0)) c.now ∧
      Dispatched s₁ (reach env (calls ++ [c])) req.sessionToken
        (addI64 (max (reach env calls).leaseClock (max c.now 0)) req.leaseDurationMs.val) c.now
        found) := by
  rw [reach_concat]
  generalize reach env calls = s
  refine ⟨fun s rounds hrounds leaseNow => claimNextQueued_rounds hrounds (by omega), fun hc => ?_⟩
  obtain ⟨-, leaseNow, s₀, v, s', t, rfl, hs₀, hrun, hnext, hstep⟩ :=
    hc.leasedMutation (by rw [hop]; rfl) (by rw [hop]; rfl)
  simp only [Tx.bind_ok, requireRole_ok, selectFrom_ok, Tx.pure_ok, and_assoc, exists_and_left,
    exists_eq_left', Tx.exists_unit] at hrun
  obtain ⟨_, -, -, -, -, s₁, hrequeue, inserted, s₂, horphans, found, s₃, hloop, rfl, rfl⟩ := hrun
  refine ⟨found, s₂, hstep, ?_, ?_⟩
  · have h := restocked hrequeue horphans
    rw [hs₀] at h
    exact ⟨h.rows, h.added, h.stocked, h.subtasks, h.metaTasks⟩
  · have h := dispatched (Nat.lt_succ_self _) hloop
    rw [hnext]
    exact ⟨h.claimed, h.nothing, h.others⟩

end Operation

section Scripts

open Script

/-- The gate takes the row of the approved work. -/
def takeApproved : Call := ⟨takeQueued (session 3) (text "take"), 3, uuid 16⟩

theorem claim_next_takes_earliest_approvedWork :
    takeApproved.Commits env (reach env (Script.calls approvedWork)) ∧ ∃ found s₁,
      (step env (reach env (Script.calls approvedWork)) takeApproved).1 =
        .ok (.nextQueueClaim found) ∧
      Dispatched s₁ (reach env (Script.calls approvedWork ++ [takeApproved])) (session 3)
        (addI64 (max (reach env (Script.calls approvedWork)).leaseClock (max takeApproved.now 0))
          lease.val) takeApproved.now found := by
  have hcommits : takeApproved.Commits env (reach env (Script.calls approvedWork)) := by
    decide +kernel
  obtain ⟨-, htakes⟩ := claim_next_takes_earliest env (Script.calls approvedWork) takeApproved
    ⟨session 3, lease, text "take"⟩ rfl
  obtain ⟨found, s₁, hstep, -, hdispatched⟩ := htakes hcommits
  exact ⟨hcommits, found, s₁, hstep, hdispatched⟩

end Scripts

end Covey

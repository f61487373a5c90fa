import Covey.Runs.Dispatch
import Covey.Runs.Expiry
import Covey.Runs.Queue
import Covey.Scopes

/-!
# Sums of leases

A deadline is a reading of the lease clock, or an old deadline, plus a duration that is bounded
by nothing but its type. The sum is computed on 64 bits and may wrap around. It is then negative,
and all operations but `request_reservation` look at the sign before they commit.

* `addI64_exact`: a sum that is not negative is the sum.
* `lease_sums`: what the operations that lease store.
-/

namespace Covey

open Relational

/-- A sum of two non-negative readings that wraps around is negative. -/
theorem addI64_exact {a b : ℤ} (ha : 0 ≤ a) (ha' : InI64 a) (hb : 0 < b) (hb' : b < 2 ^ 63)
    (h : 0 ≤ addI64 a b) : addI64 a b = a + b := by
  unfold InI64 at ha'
  unfold addI64 Int.bmod at h ⊢
  norm_num at h ha' hb' ⊢
  split_ifs at h ⊢ <;> omega

/-- A difference of two of them does not wrap around. -/
theorem subI64_exact {a b : ℤ} (ha : 0 ≤ a) (ha' : InI64 a) (hb : 0 < b) (hb' : b < 2 ^ 63) :
    subI64 a b = a - b := by
  unfold InI64 at ha'
  unfold subI64
  exact Int.bmod_eq_of_le (by omega) (by omega)

/-! ## Deadlines by key -/

def Db.claimDeadline (s : Db) (k : ClaimId) : Option ℤ := (s.claims.get? k).map (·.leaseDeadline)

def Db.reservationDeadline (s : Db) (k : ReservationId) : Option ℤ :=
  (s.reservations.get? k).map (·.leaseDeadline)

def Db.queueDeadline (s : Db) (k : QueueId) : Option ℤ :=
  (s.readyQueue.get? k).bind (·.claimLeaseDeadline)

/-- A new lease, of the given duration from now on. -/
def LeaseOpened {κ : Type} [DecidableEq κ] (leaseNow duration : ℤ) (D D' : κ → Option ℤ) : Prop :=
  ∃ k, D k = none ∧ D' = put D k (leaseNow + duration)

/-- The lease `k` is extended, from its deadline or from now on. -/
def LeaseExtended {κ : Type} [DecidableEq κ] (leaseNow duration : ℤ) (k : κ) (D D' : κ → Option ℤ) :
    Prop :=
  ∃ deadline, D k = some deadline ∧ D' = put D k (max deadline leaseNow + duration)

/-- The integers of the leases are 64-bit ones, as the columns are. -/
structure Db.Ranged (s : Db) (now : ℤ) : Prop where
  clock : InI64 s.leaseClock
  reading : InI64 now
  claims : ∀ k deadline, s.claimDeadline k = some deadline → InI64 deadline
  reservations : ∀ k deadline, s.reservationDeadline k = some deadline → InI64 deadline

theorem Db.Ranged.of_rows {s : Db} {now : ℤ} (hclock : InI64 s.leaseClock) (hnow : InI64 now)
    (hclaims : ∀ r ∈ s.claims.rows, InI64 r.leaseDeadline)
    (hreservations : ∀ r ∈ s.reservations.rows, InI64 r.leaseDeadline) : s.Ranged now := by
  refine ⟨hclock, hnow, fun k deadline h => ?_, fun k deadline h => ?_⟩
  · obtain ⟨r, hr, rfl⟩ := Option.map_eq_some_iff.mp h
    exact hclaims r (Table.mem_of_get? hr)
  · obtain ⟨r, hr, rfl⟩ := Option.map_eq_some_iff.mp h
    exact hreservations r (Table.mem_of_get? hr)

section Claims

variable {s s' : Db} {now leaseNow : ℤ}

/-- What a claim's lease is after one row of the claims has been written. -/
theorem Db.claimDeadline_put {k : ClaimId} {r : ClaimRow}
    (h : s'.board.claim = put s.board.claim k r) :
    s'.claimDeadline = put s.claimDeadline k r.leaseDeadline := by
  have hmap := map_put (f := s.board.claim) (k := k) (r := r) (c := (·.leaseDeadline))
  rw [← h] at hmap
  exact hmap

/-- Closing a claim keeps its deadline. -/
theorem expireClaimIfNeeded_deadlines {id : SubtaskId} {u : Unit}
    (h : expireClaimIfNeededForSubtask id leaseNow now s = (.ok u, s')) :
    s'.claimDeadline = s.claimDeadline := by
  simp only [expireClaimIfNeededForSubtask, Tx.bind_ok, Tx.get_ok, and_assoc, exists_and_left,
    exists_eq_left'] at h
  generalize List.head? _ = due at h
  cases due with
  | none =>
    obtain ⟨-, rfl⟩ := Tx.pure_ok.mp h
    rfl
  | some row =>
    simp only [Tx.bind_ok, Tx.lift_ok, and_assoc, exists_and_left, exists_eq_left',
      Tx.exists_unit] at h
    obtain ⟨claim, -, s₁, hexpire, hclear⟩ := h
    obtain ⟨r, g, hr, -, -, hb⟩ := expireClaim_board hexpire
    have hkey : r.claimId = claim.claimId := Table.key_of_get? hr
    have hput : s'.claimDeadline = put s.claimDeadline r.claimId r.leaseDeadline :=
      Db.claimDeadline_put (r := { r with state := .expired, updatedAt := now })
        (by rw [clearOwnerOfClaim_board hclear, hb, hkey])
    rw [hput, hkey]
    refine Function.update_eq_self_iff.mpr ?_
    exact (congrArg (Option.map _) hr).symm

/-- A claim is opened with a lease from now on. -/
theorem openClaim_deadlines {k : SessionToken} {r : SubtaskRow} {duration : LeaseDurationMs}
    {result : ClaimResult} (h : openClaim k r duration leaseNow now s = (.ok result, s')) :
    0 ≤ addI64 leaseNow duration.val ∧ s.claimDeadline result.claimId = none ∧
      s'.claimDeadline = put s.claimDeadline result.claimId (addI64 leaseNow duration.val) := by
  simp only [openClaim, Tx.bind_ok, Tx.lift_ok, typed_ok, LeaseDeadlineMs.parse_ok, and_assoc,
    exists_and_left, exists_eq_left', Tx.exists_unit] at h
  obtain ⟨fence, s₁, hfence, claimId, s₂, hid, hpos, s₃, hins, n, s₄, hsub, h⟩ := h
  split_ifs at h with hn
  · simp at h
  simp only [Tx.bind_ok] at h
  obtain ⟨n', s₅, hses, h⟩ := h
  split_ifs at h with hn'
  · simp at h
  simp only [Tx.bind_ok, Tx.pure_ok, Tx.exists_unit] at h
  obtain ⟨s₆, hevent, rfl, rfl⟩ := h
  obtain ⟨-, hb₁⟩ := issueFenceSeq_board hfence
  have hb₂ : s₂.board = s₁.board := freshId_sameBoard hid
  obtain ⟨hnew, hb₃⟩ := insertClaim_board hins
  obtain ⟨-, hb₄⟩ := updateSubtask_board hsub fun _ => rfl
  obtain ⟨-, hb₅⟩ := updateSession_board hses fun _ => rfl
  have hclaims : s₂.board.claim = s.board.claim := by rw [hb₂, hb₁]
  rw [hclaims] at hnew
  refine ⟨hpos, congrArg (Option.map _) hnew, Db.claimDeadline_put (r := ⟨claimId, r.subtaskId, k,
    fence, addI64 leaseNow duration.val, .held, now, now⟩) ?_⟩
  rw [appendSessionEvent_sameBoard hevent, hb₅, hb₄, hb₃, hclaims]

theorem claimSelectedSubtask_deadlines {session : SessionRow} {k : SessionToken} {id : SubtaskId}
    {duration : LeaseDurationMs} {result : ClaimResult}
    (h : claimSelectedSubtask session k id duration leaseNow now s = (.ok result, s')) :
    0 ≤ addI64 leaseNow duration.val ∧ s.claimDeadline result.claimId = none ∧
      s'.claimDeadline = put s.claimDeadline result.claimId (addI64 leaseNow duration.val) := by
  simp only [claimSelectedSubtask, Tx.bind_ok] at h
  obtain ⟨r, s₁, hclaimable, hopen⟩ := h
  rw [← expireClaimIfNeeded_deadlines (requireClaimable_ok hclaimable).1]
  exact openClaim_deadlines hopen

/-- A race that is lost leaves the leases as they are. -/
theorem claimSelectedSubtask_lost_deadlines {session : SessionRow} {k : SessionToken}
    {id : SubtaskId} {duration : LeaseDurationMs} {e : CoveyError}
    (h : claimSelectedSubtask session k id duration leaseNow now s = (.error e, s'))
    (hlost : e.isLostRace = true) : s'.claimDeadline = s.claimDeadline := by
  have hnot : ¬e.Surfaces := by simp [CoveyError.Surfaces, hlost]
  rcases Tx.bind_error.mp h with h | ⟨r, s₁, hclaimable, h⟩
  · rcases requireClaimable_error h with hs | hexpire
    · exact absurd hs hnot
    · exact expireClaimIfNeeded_deadlines hexpire
  · exact absurd (openClaim_raises (requireClaimable_ok hclaimable).2 h) hnot

theorem claimNextBody_deadlines {k : SessionToken} {duration : LeaseDurationMs} {lane : RoutingKey}
    {m : Option MetaTaskId} {v : Response}
    (h : claimNextBody k duration lane m leaseNow now s = (.ok v, s')) :
    (v = .nextClaim none ∧ s'.claimDeadline = s.claimDeadline) ∨
      ∃ result, v = .nextClaim (some result) ∧ 0 ≤ addI64 leaseNow duration.val ∧
        s.claimDeadline result.claimId = none ∧
        s'.claimDeadline = put s.claimDeadline result.claimId (addI64 leaseNow duration.val) := by
  obtain ⟨session, kind, s₁, found, -, -, hblocks, -, h⟩ := claimNextBody_ok h
  have hclaims : s₁.claimDeadline = s.claimDeadline := by
    have htouch : Touches followupTables s s₁ := Tx.Within.run (.whenever fun _ =>
      .bind (ensureChangesRequestedFollowupBlocks_touches (List.Subset.refl _)) fun _ => .pure _)
      hblocks
    unfold Db.claimDeadline
    rw [htouch.same (f := fun s => s.claims) fun _ => rfl]
  rw [← hclaims]
  rcases h with ⟨-, rfl, rfl⟩ | ⟨id, -, ⟨result, hclaim, rfl⟩ | ⟨e, herror, hlost, rfl⟩⟩
  · exact .inl ⟨rfl, rfl⟩
  · exact .inr ⟨result, rfl, claimSelectedSubtask_deadlines hclaim⟩
  · exact .inl ⟨rfl, claimSelectedSubtask_lost_deadlines herror hlost⟩

end Claims

/-! ## Calls -/

section Calls

variable {env : Env} {s : Db} {c : Call}

/-- The duration for which an operation claims a subtask. -/
def Operation.claimFor : Operation → Option LeaseDurationMs
  | .claimNextSubtask req => some req.leaseDurationMs
  | .claimNextRoutedSubtask req => some req.leaseDurationMs
  | .claimSubtask req => some req.leaseDurationMs
  | _ => none

/-- The duration for which an operation takes a row of the apply queue. -/
def Operation.takeFor : Operation → Option LeaseDurationMs
  | .claimNextReadyQueueItem req => some req.leaseDurationMs
  | .markInFlight req => some req.leaseDurationMs
  | _ => none

/-- The lease clock as the call advances it. -/
def Call.leaseNow (s : Db) (c : Call) : ℤ := max s.leaseClock (max c.now 0)

theorem Db.Ranged.leaseNow (h : s.Ranged c.now) : 0 ≤ c.leaseNow s ∧ InI64 (c.leaseNow s) := by
  have hclock := h.clock
  have hreading := h.reading
  unfold Call.leaseNow
  unfold InI64 at *
  omega

/-- A lease that is not negative is the sum. -/
theorem LeaseOpened.of_addI64 {κ : Type} [DecidableEq κ] {t : ℤ} {d : LeaseDurationMs} {k : κ}
    {D D' : κ → Option ℤ} (ht : 0 ≤ t ∧ InI64 t)
    (h : 0 ≤ addI64 t d.val ∧ D k = none ∧ D' = put D k (addI64 t d.val)) :
    LeaseOpened t d.val D D' := by
  obtain ⟨hsum, hnew, hput⟩ := h
  refine ⟨k, hnew, ?_⟩
  rw [hput, addI64_exact ht.1 ht.2 d.pos d.lt hsum]

theorem LeaseExtended.of_addI64 {κ : Type} [DecidableEq κ] {t deadline : ℤ} {d : LeaseDurationMs}
    {k : κ} {D D' : κ → Option ℤ} (ht : 0 ≤ t ∧ InI64 t) (hk : D k = some deadline)
    (hdeadline : InI64 deadline) (hsum : 0 ≤ addI64 (max deadline t) d.val)
    (h : D' = put D k (addI64 (max deadline t) d.val)) : LeaseExtended t d.val k D D' := by
  refine ⟨deadline, hk, ?_⟩
  have hmax : 0 ≤ max deadline t := le_max_of_le_right ht.1
  have hin : InI64 (max deadline t) := by
    rcases max_choice deadline t with h | h <;> rw [h]
    · exact hdeadline
    · exact ht.2
  rw [h, addI64_exact hmax hin d.pos d.lt hsum]

theorem Call.Commits.claimsNext {d : LeaseDurationMs} {k : SessionToken} {lane : RoutingKey}
    {m : Option MetaTaskId} {actorKey operation : String} {key : IdempotencyKey} {request : Request}
    (hc : c.Commits env s) (hrange : s.Ranged c.now)
    (hop : c.op.run env c.now =
      Covey.leasedMutation actorKey operation key request c.now
        (claimNextBody k d lane m · c.now))
    (hentry : c.op.entry env = some ⟨actorKey, operation, key.val, request⟩) :
    (step env s c).1 = .ok (.nextClaim none) ∧ (next env s c).claimDeadline = s.claimDeadline ∨
      LeaseOpened (c.leaseNow s) d.val s.claimDeadline (next env s c).claimDeadline := by
  obtain ⟨-, _, s₀, v, s₁, t, rfl, hs₀, hbody, hnext, hstep⟩ := hc.leasedMutation hop hentry
  have hclaims : s₀.claimDeadline = s.claimDeadline := by rw [hs₀]; rfl
  have hlater : (next env s c).claimDeadline = s₁.claimDeadline := by rw [hnext]; rfl
  rw [hlater, ← hclaims]
  rcases claimNextBody_deadlines hbody with ⟨rfl, hsame⟩ | ⟨result, -, hopened⟩
  · exact .inl ⟨hstep, hsame⟩
  · exact .inr (.of_addI64 hrange.leaseNow hopened)

/-- A committed claim opens a lease of its duration, unless there is nothing to claim. -/
theorem Call.Commits.claims {d : LeaseDurationMs} (hc : c.Commits env s)
    (hrange : s.Ranged c.now) (hop : c.op.claimFor = some d) :
    (step env s c).1 = .ok (.nextClaim none) ∧ (next env s c).claimDeadline = s.claimDeadline ∨
      LeaseOpened (c.leaseNow s) d.val s.claimDeadline (next env s c).claimDeadline := by
  cases hc' : c.op <;>
    simp only [hc', Operation.claimFor, reduceCtorEq, Option.some.injEq] at hop
  case claimNextSubtask req =>
    subst hop
    exact hc.claimsNext hrange (by rw [hc']; rfl) (by rw [hc']; rfl)
  case claimNextRoutedSubtask req =>
    subst hop
    exact hc.claimsNext hrange (by rw [hc']; rfl) (by rw [hc']; rfl)
  case claimSubtask req =>
    subst hop
    obtain ⟨-, _, s₀, v, s₁, t, rfl, hs₀, hbody, hnext, -⟩ :=
      hc.leasedMutation (by rw [hc']; rfl) (by rw [hc']; rfl)
    simp only [Tx.bind_ok, requireIdleSession_ok, subtaskExists_ok, Tx.ensure_ok, Tx.pure_ok,
      and_assoc, exists_and_left, exists_eq_left', Tx.exists_unit] at hbody
    obtain ⟨_, -, -, -, -, -, result, _, hclaim, -, rfl⟩ := hbody
    have hopened := claimSelectedSubtask_deadlines hclaim
    rw [show s₀.claimDeadline = s.claimDeadline by rw [hs₀]; rfl] at hopened
    rw [hnext]
    exact .inr (.of_addI64 hrange.leaseNow hopened)

theorem Call.Commits.renewsClaim {req : RenewClaimReq} (hc : c.Commits env s)
    (hrange : s.Ranged c.now) (hop : c.op = .renewClaim req) :
    LeaseExtended (c.leaseNow s) req.extendByMs.val req.claimId s.claimDeadline
      (next env s c).claimDeadline := by
  obtain ⟨-, leaseNow, s₀, v, s', t, hlease, hs₀, hrun, hnext, -⟩ :=
    hc.leasedMutation (by rw [hop]; rfl) (by rw [hop]; rfl)
  simp only [Tx.bind_ok, Tx.lift_ok, typed_ok, LeaseDeadlineMs.parse_ok, requireCurrentClaim_ok,
    Tx.ensure_ok, Tx.pure_ok, and_assoc, exists_and_left, exists_eq_left', Tx.exists_unit] at hrun
  obtain ⟨-, -, claim, hclaim, -, hown, hfence, hheld, -, n, s₂, hupdate, -, hsum, s₃, hevent, -,
    rfl⟩ := hrun
  obtain ⟨-, hb⟩ := updateClaim_board hupdate fun _ => rfl
  replace hclaim : s₀.board.claim req.claimId = some claim := hclaim
  have hkey : claim.claimId = req.claimId := Table.key_of_get? hclaim
  have hdeadlines : s₀.claimDeadline = s.claimDeadline := by rw [hs₀]; rfl
  have hold : s.claimDeadline req.claimId = some claim.leaseDeadline := by
    rw [← hdeadlines]
    exact congrArg (Option.map _) hclaim
  rw [modify_of_some hclaim, if_pos ⟨hheld, hown, hfence⟩] at hb
  have hboard : s₃.board.claim = put s₀.board.claim claim.claimId { claim with
      leaseDeadline := addI64 (max claim.leaseDeadline leaseNow) req.extendByMs.val
      updatedAt := c.now } := by
    rw [appendSessionEvent_sameBoard hevent, hb, hkey]
  have hput := Db.claimDeadline_put hboard
  rw [hdeadlines, hkey] at hput
  subst hlease
  rw [hnext]
  exact .of_addI64 hrange.leaseNow hold (hrange.claims _ _ hold) hsum hput

/-- What a reservation's lease is after one row of the reservations has been written. -/
theorem Db.reservationDeadline_put {s' : Db} {k : ReservationId} {r : ReservationRow}
    (h : s'.reservations.get? = put s.reservations.get? k r) :
    s'.reservationDeadline = put s.reservationDeadline k r.leaseDeadline := by
  have hmap := map_put (f := s.reservations.get?) (k := k) (r := r) (c := (·.leaseDeadline))
  rw [← h] at hmap
  exact hmap

/-- Nothing looks at the sign here: the sum has to be a 64-bit integer. -/
theorem Call.Commits.reserves {req : RequestReservationReq} (hc : c.Commits env s)
    (hop : c.op = .requestReservation req)
    (hsum : InI64 (c.leaseNow s + req.leaseDurationMs.val)) :
    LeaseOpened (c.leaseNow s) req.leaseDurationMs.val s.reservationDeadline
      (next env s c).reservationDeadline := by
  obtain ⟨r, hrows, -, -, -, -, hdeadline, -⟩ := requestReservation_stores hop hc
  have hinsert : s.reservations.insert r = some (next env s c).reservations :=
    Table.insert_eq_some.mpr hrows
  refine ⟨r.reservationId, congrArg (Option.map _) (Table.get?_of_insert_none hinsert), ?_⟩
  rw [Db.reservationDeadline_put (Table.get?_insert_put hinsert), hdeadline]
  exact congrArg _ (addI64_of_inI64 hsum)

theorem Call.Commits.renewsReservation {req : RenewReservationReq} (hc : c.Commits env s)
    (hrange : s.Ranged c.now) (hop : c.op = .renewReservation req) :
    LeaseExtended (c.leaseNow s) req.extendByMs.val req.reservationId s.reservationDeadline
      (next env s c).reservationDeadline := by
  obtain ⟨-, leaseNow, s₀, v, s', t, hlease, hs₀, hrun, hnext, -⟩ :=
    hc.leasedMutation (by rw [hop]; rfl) (by rw [hop]; rfl)
  simp only [loadReservation, Tx.bind_ok, requireRole_ok, Tx.lift_ok, Tx.ensure_ok, Tx.pure_ok,
    and_assoc, exists_and_left, exists_eq_left', Tx.exists_unit,
    load_val_ok ReservationRow.load_val] at hrun
  obtain ⟨_, -, -, -, -, -, r, hr, -, hactive, -, n, s₁, hupdate, -, hsum, -, s₂, hevent, -, rfl⟩ :=
    hrun
  replace hr : s₀.reservations.get? req.reservationId = some r := hr
  obtain ⟨-, table, hs₁, htable⟩ := updateIn_get? hupdate fun _ => rfl
  have hkey : r.reservationId = req.reservationId := Table.key_of_get? hr
  have hdeadlines : s₀.reservationDeadline = s.reservationDeadline := by rw [hs₀]; rfl
  have hold : s.reservationDeadline req.reservationId = some r.leaseDeadline := by
    rw [← hdeadlines]
    exact congrArg (Option.map _) hr
  have hsame : s₂.reservations = table := by
    rw [((appendSessionEvent_touches (List.Subset.refl _)).run hevent :
      Touches [.events] s₁ s₂).same (f := fun s => s.reservations) fun _ => rfl, hs₁]
    rfl
  rw [show (Rel.reservations.get s₀).get? = s₀.reservations.get? from rfl, modify_of_some hr,
    if_pos hactive, ← hsame] at htable
  have hrows : s₂.reservations.get? = put s₀.reservations.get? r.reservationId { r with
      leaseDeadline := addI64 (max r.leaseDeadline leaseNow) req.extendByMs.val
      updatedAt := c.now } := by
    rw [htable, hkey]
  have hput := Db.reservationDeadline_put hrows
  rw [hdeadlines, hkey] at hput
  subst hlease
  rw [hnext]
  exact .of_addI64 hrange.leaseNow hold (hrange.reservations _ _ hold) hsum hput

/-- A row that is not in flight has no lease. -/
theorem Db.queueDeadline_of_state {id : QueueId} {q : ReadyQueueRow}
    (hq : s.readyQueue.get? id = some q) (hstate : q.state ≠ .inFlight) :
    s.queueDeadline id = none := by
  have hheld := (Db.queue_held (s := s) hq).2
  unfold Db.queueDeadline
  rw [hq]
  show q.claimLeaseDeadline = none
  exact Option.not_isSome_iff_eq_none.mp fun hsome => hstate (hheld.mpr hsome)

/-- The leases of the queue after a search for a row to take: no row has another one than before
    but the row that was found. -/
structure QueueLeased (deadline : ℤ) (s s' : Db) (found : Option ReadyQueueClaim) : Prop where
  rows : ∀ id, s'.queueDeadline id = s.queueDeadline id ∨ s'.queueDeadline id = none ∨
    ∃ claim ∈ found, claim.queueId = id
  taken : ∀ claim ∈ found, 0 ≤ deadline ∧ claim.leaseDeadline = deadline ∧
    s'.queueDeadline claim.queueId = some deadline

theorem QueueLeased.after {deadline : ℤ} {s s₁ s' : Db} {found : Option ReadyQueueClaim}
    (hbefore : ∀ id, s₁.queueDeadline id = s.queueDeadline id ∨ s₁.queueDeadline id = none)
    (h : QueueLeased deadline s₁ s' found) : QueueLeased deadline s s' found := by
  refine ⟨fun id => ?_, h.taken⟩
  rcases h.rows id with hsame | hrest
  · rcases hbefore id with hold | hnone
    · exact .inl (hsame.trans hold)
    · exact .inr (.inl (hsame.trans hnone))
  · exact .inr hrest

theorem queueDeadline_taken {s' : Db} {q : ReadyQueueRow} {k : SessionToken} {deadline : ℤ}
    (now : ℤ) {id : QueueId} (h : s'.readyQueue.get? id = some (q.taken k deadline now)) :
    s'.queueDeadline id = some deadline := by
  unfold Db.queueDeadline
  rw [h]
  rfl

theorem claimNextQueued_leased {s' : Db} {k : SessionToken} {d : LeaseDurationMs}
    {leaseNow now : ℤ} {rounds : ℕ} {found : Option ReadyQueueClaim}
    (hrounds : queuedCount s < rounds)
    (h : claimNextQueued k d leaseNow now rounds s = (.ok found, s')) :
    QueueLeased (addI64 leaseNow d.val) s s' found := by
  obtain ⟨chosen, rfl, hchosen, hfate⟩ := claimNextQueued_ok hrounds h
  refine ⟨fun id => ?_, fun claim hclaim => ?_⟩
  · cases hq : s.readyQueue.get? id with
    | none =>
      left
      unfold Db.queueDeadline
      rw [rel_of_none (hfate id) hq, hq]
    | some q =>
      obtain ⟨q', hq', hrow⟩ := rel_of_some (hfate id) hq
      have hkept : q' = q → s'.queueDeadline id = s.queueDeadline id := by
        rintro rfl
        unfold Db.queueDeadline
        rw [hq, hq']
      cases hrow with
      | idle => exact .inl (hkept rfl)
      | passed _ _ discarded =>
        refine .inr (.inl (Db.queueDeadline_of_state hq' ?_))
        rcases discarded with hstate | hstate <;> rw [hstate] <;> decide
      | taken first => exact .inr (.inr ⟨_, by rw [first]; rfl, Table.key_of_get? hq⟩)
      | waiting => exact .inl (hkept rfl)
  · obtain ⟨q, rfl, rfl⟩ := Option.map_eq_some_iff.mp hclaim
    obtain ⟨-, -, hpos, htaken⟩ := hchosen q rfl
    exact ⟨hpos, rfl, queueDeadline_taken now htaken⟩

theorem claimReadyQueueItem_leased {s' : Db} {id : QueueId} {k : SessionToken}
    {d : LeaseDurationMs} {leaseNow now : ℤ} {found : Option ReadyQueueClaim}
    (h : claimReadyQueueItem id k d leaseNow now s = (.ok found, s')) :
    QueueLeased (addI64 leaseNow d.val) s s' found := by
  obtain ⟨q, table, hq, -, rfl, -, hround⟩ := claimReadyQueueItem_ok h
  have hrest : ∀ {q' id'}, table.get? = put s.readyQueue.get? id q' → id' ≠ id →
      ({ s with readyQueue := table } : Db).queueDeadline id' = s.queueDeadline id' := by
    intro q' id' hget hne
    unfold Db.queueDeadline
    rw [show ({ s with readyQueue := table } : Db).readyQueue.get? id' = s.readyQueue.get? id' from
      (congrFun hget id').trans (put_of_ne hne)]
  rcases hround with ⟨rfl, -, q', hdiscarded, hget⟩ | ⟨rfl, -, hpos, hget⟩
  · refine ⟨fun id' => ?_, by simp⟩
    by_cases hid : id' = id
    · subst hid
      refine .inr (.inl (Db.queueDeadline_of_state (q := q') ?_ ?_))
      · exact (congrFun hget id').trans put_self
      · rcases hdiscarded with hstate | hstate <;> rw [hstate] <;> decide
    · exact .inl (hrest hget hid)
  · have hkey : q.queueId = id := Table.key_of_get? hq
    refine ⟨fun id' => ?_, fun claim hclaim => ?_⟩
    · by_cases hid : id' = id
      · exact .inr (.inr ⟨_, rfl, hkey.trans hid.symm⟩)
      · exact .inl (hrest hget hid)
    · obtain rfl := Option.some.inj hclaim
      refine ⟨hpos, rfl, queueDeadline_taken (q := q) (k := k) now ?_⟩
      show table.get? q.queueId = _
      rw [hkey, hget, put_self]

/-- Requeueing takes leases away and gives none. -/
theorem requeue_deadlines {s' : Db} {leaseNow now : ℤ} {u : Unit}
    (h : requeueStaleReadyQueueClaims leaseNow now s = (.ok u, s')) (id : QueueId) :
    s'.queueDeadline id = s.queueDeadline id ∨ s'.queueDeadline id = none := by
  obtain ⟨table, rfl, hrel⟩ := requeueStaleReadyQueueClaims_ok h
  unfold Db.queueDeadline
  show (table.get? id).bind _ = _ ∨ (table.get? id).bind _ = none
  cases hq : s.readyQueue.get? id with
  | none =>
    rw [rel_of_none (hrel id) hq]
    exact .inr rfl
  | some q =>
    obtain ⟨q', hq', ⟨-, rfl⟩ | ⟨-, rfl⟩⟩ := rel_of_some (hrel id) hq
    · rw [hq']
      exact .inr rfl
    · rw [hq']
      exact .inl rfl

theorem Restocked.deadlines {s₁ : Db} {leaseNow now : ℤ} (h : Restocked s s₁ leaseNow now)
    (id : QueueId) :
    s₁.queueDeadline id = s.queueDeadline id ∨ s₁.queueDeadline id = none := by
  cases hq : s.readyQueue.get? id with
  | none =>
    cases hq₁ : s₁.readyQueue.get? id with
    | none =>
      right
      unfold Db.queueDeadline
      rw [hq₁]
      rfl
    | some q =>
      refine .inr (Db.queueDeadline_of_state hq₁ ?_)
      rw [(h.added id q hq hq₁).1]
      decide
  | some q =>
    rcases h.rows id q hq with ⟨-, hq₁⟩ | ⟨-, hq₁⟩
    · exact .inr (Db.queueDeadline_of_state hq₁ (by simp [ReadyQueueRow.requeued]))
    · left
      unfold Db.queueDeadline
      rw [hq, hq₁]

theorem QueueLeased.of_addI64 {t : ℤ} {d : LeaseDurationMs} {s' : Db}
    {found : Option ReadyQueueClaim} (ht : 0 ≤ t ∧ InI64 t)
    (h : QueueLeased (addI64 t d.val) s s' found) : QueueLeased (t + d.val) s s' found := by
  refine ⟨h.rows, fun claim hclaim => ?_⟩
  have htaken := h.taken claim hclaim
  rwa [addI64_exact ht.1 ht.2 d.pos d.lt htaken.1] at htaken

/-- A row of the queue is taken for the duration from now on. -/
theorem Call.Commits.takes {d : LeaseDurationMs} (hc : c.Commits env s) (hrange : s.Ranged c.now)
    (hop : c.op.takeFor = some d) :
    ∃ found, QueueLeased (c.leaseNow s + d.val) s (next env s c) found ∧
      ((step env s c).1 = .ok (.nextQueueClaim found) ∨
        ∃ claim, found = some claim ∧ (step env s c).1 = .ok (.queueClaim claim)) := by
  cases hc' : c.op <;> simp only [hc', Operation.takeFor, reduceCtorEq, Option.some.injEq] at hop
  case claimNextReadyQueueItem req =>
    subst hop
    obtain ⟨-, leaseNow, s₀, v, s', t, rfl, hs₀, hrun, hnext, hstep⟩ :=
      hc.leasedMutation (by rw [hc']; rfl) (by rw [hc']; rfl)
    simp only [Tx.bind_ok, requireRole_ok, selectFrom_ok, Tx.pure_ok, and_assoc, exists_and_left,
      exists_eq_left', Tx.exists_unit] at hrun
    obtain ⟨_, -, -, -, -, s₁, hrequeue, _, s₂, horphans, found, s₃, hloop, rfl, rfl⟩ := hrun
    have hleased := (claimNextQueued_leased (Nat.lt_succ_self _) hloop).after
      (restocked hrequeue horphans).deadlines
    rw [hs₀] at hleased
    refine ⟨found, .of_addI64 hrange.leaseNow ?_, .inl hstep⟩
    rw [hnext]
    exact ⟨hleased.rows, hleased.taken⟩
  case markInFlight req =>
    subst hop
    obtain ⟨-, leaseNow, s₀, v, s', t, rfl, hs₀, hrun, hnext, hstep⟩ :=
      hc.leasedMutation (by rw [hc']; rfl) (by rw [hc']; rfl)
    simp only [Tx.bind_ok, requireRole_ok, Tx.lift_ok, loadQueueItem_ok, and_assoc,
      exists_and_left, exists_eq_left', Tx.exists_unit] at hrun
    obtain ⟨_, -, -, -, -, -, s₁, hrequeue, item, -, -, found, s₂, hclaim, hrun⟩ := hrun
    cases found with
    | none => simp at hrun
    | some claim =>
      simp only [Tx.bind_ok, Tx.pure_ok, Tx.exists_unit] at hrun
      obtain ⟨s₃, hevent, rfl, rfl⟩ := hrun
      have hleased := (claimReadyQueueItem_leased hclaim).after (requeue_deadlines hrequeue)
      rw [hs₀] at hleased
      have hsame : s₃.readyQueue = s₂.readyQueue :=
        ((appendSessionEvent_touches (List.Subset.refl _)).run hevent :
          Touches [.events] s₂ s₃).same fun _ => rfl
      have hqueue : (next env s c).queueDeadline = s₂.queueDeadline := by
        rw [hnext]
        unfold Db.queueDeadline
        rw [← hsame]
      refine ⟨some claim, .of_addI64 hrange.leaseNow ⟨fun id => ?_, fun claim hclaim => ?_⟩,
        .inr ⟨claim, rfl, hstep⟩⟩
      · rw [hqueue]
        exact hleased.rows id
      · rw [hqueue]
        exact hleased.taken claim hclaim

end Calls

section Scripts

open Script

/-- A reservation that is renewed by the longest duration there is. -/
def renewForever : Call :=
  ⟨.renewReservation ⟨session 0, idAt .reservationId "reservation" 3 0,
    forever, text "4"⟩, 3, uuid 4⟩

end Scripts

end Covey

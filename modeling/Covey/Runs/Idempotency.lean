import Covey.Footprint.Calls
import Covey.Script

/-!
# Idempotency keys

A mutation looks its key up before anything else, so once it has succeeded its
response is what every later call under that key returns, whatever happened in
between.

* `Operation.opens`: an operation with an entry does nothing before the lookup but
  advance the lease clock and check the wall reading. The batch import of beads, which
  checks the path of its source first, is left out.
* `Call.recorded`: a call that succeeds leaves its response on record.
* `response_replayed`: what a later call under the same key returns.
-/

namespace Covey

open Relational

section Replays

variable {env : Env} {now : ℤ} {op : Operation} {e : Entry} {s s' : Db} {v : Response}

/-- The batch import of beads reads its source before it enters the idempotency table. -/
def Operation.isBatchImport : Operation → Bool
  | .importBdV1 _ _ => true
  | _ => false

/-- The body enters the idempotency table, with or without an advance of the lease clock first. -/
inductive Entry.Opens (e : Entry) (now : ℤ) : Txn Response → Prop
  | lookup (body : Txn Response) :
      e.Opens now (do
        let createdAt ← typed (TimestampMs.parse now)
        withIdempotentMutation e.actorKey e.operation e.idempotencyKey e.request createdAt body)
  | leased {x : ℤ → Txn Response} (opens : ∀ leaseNow, e.Opens now (x leaseNow)) :
      e.Opens now (do
        let leaseNow ← advanceLeaseClock now
        x leaseNow)

theorem Entry.Opens.mutation {key : IdempotencyKey} (hkey : key.val = e.idempotencyKey)
    (body : Txn Response) :
    e.Opens now (mutation e.actorKey e.operation key e.request now body) := by
  unfold Covey.mutation
  rw [hkey]
  exact .lookup body

theorem Entry.Opens.leasedMutation {key : IdempotencyKey} (hkey : key.val = e.idempotencyKey)
    (body : ℤ → Txn Response) :
    e.Opens now (leasedMutation e.actorKey e.operation key e.request now body) :=
  .leased fun leaseNow => .mutation hkey (body leaseNow)

/-- Identifiers are no longer than 256 bytes. -/
theorem utf8ByteSize_of_tokenish {v : String} (h : validateTokenish v = none) :
    v.utf8ByteSize ≤ 256 := by
  unfold validateTokenish at h
  split_ifs at h with hblank hsize
  omega

theorem ensureLength_of_le {field value : String} {n : ℕ} (h : value.utf8ByteSize ≤ n) :
    ensureLength field value n = .ok () := by
  unfold ensureLength
  rw [if_neg (by omega)]

/-- The checks of a registration pass for every request. -/
theorem registerSession_eq {req : RegisterSessionReq} {now : ℤ} :
    ∃ body, registerSession req now = leasedMutation req.agentPrincipalId.val "register_session"
      req.idempotencyKey (.registerSession req) now body := by
  have hprincipal := utf8ByteSize_of_tokenish req.agentPrincipalId.ok
  have hinstance := utf8ByteSize_of_tokenish req.agentInstanceId.ok
  unfold registerSession
  rw [ensureLength_of_le (by omega), ensureLength_of_le (by omega), Tx.lift_bind, Tx.lift_bind]
  exact ⟨_, rfl⟩

/-- Every operation with an entry, the batch import apart, looks its key up first. -/
theorem Operation.opens (he : op.entry env = some e) (hbatch : op.isBatchImport = false) :
    e.Opens now (op.run env now) := by
  cases op <;> cases he
  case registerSession req =>
    show Entry.Opens _ now (Covey.registerSession req now)
    obtain ⟨body, hbody⟩ : ∃ body, Covey.registerSession req now = _ := registerSession_eq
    rw [hbody]
    exact .leasedMutation rfl body
  case importBdV1WorkSubtask req => exact .lookup _
  case importBdV1 req source => cases hbatch
  all_goals first | exact .mutation rfl _ | exact .leasedMutation rfl _

/-- The response on record for the request of the entry. -/
def Entry.Answered (e : Entry) (v : Response) (s : Db) : Prop :=
  validateIdempotencyKey e.idempotencyKey = .ok () ∧
    ∃ row, s.idempotency.get? e.key = some row ∧ row.request = e.request ∧ row.response = v

/-- A mutation that succeeds leaves its response on record. -/
theorem Entry.Enters.answered {x : Txn Response} (hx : e.Enters now x) (h : x s = (.ok v, s')) :
    e.Answered v s' := by
  induction hx generalizing s with
  | lookup body =>
    obtain ⟨createdAt, _, -, h⟩ := Tx.bind_ok.mp h
    obtain ⟨hkey, ⟨row, hrow, hreq, hresp, rfl⟩ | ⟨-, s₁, -, t, ht, rfl⟩⟩ :=
      withIdempotentMutation_ok.mp h
    · exact ⟨hkey, row, hrow, hreq, hresp⟩
    · have hput := congrFun (Table.get?_insert_put ht) e.key
      exact ⟨hkey, ⟨_, _, _, e.request, v, createdAt⟩, hput.trans put_self, rfl, rfl⟩
  | leased enters ih =>
    obtain ⟨leaseNow, s₁, -, h⟩ := Tx.bind_ok.mp h
    exact ih leaseNow h
  | checked check enters ih =>
    obtain ⟨_, _, -, h⟩ := Tx.bind_ok.mp h
    exact ih h

/-- Under a key on record a mutation does not run its body. -/
theorem Entry.Opens.recorded {x : Txn Response} {row : IdempotencyRow} (hx : e.Opens now x)
    (hnow : 0 ≤ now) (hkey : validateIdempotencyKey e.idempotencyKey = .ok ())
    (hrow : s.idempotency.get? e.key = some row) :
    ∃ clock, x s = (if row.request = e.request then .ok row.response
      else .error (.idempotencyConflict e.actorKey e.operation e.idempotencyKey),
      { s with leaseClock := clock }) := by
  induction hx generalizing s with
  | lookup body =>
    refine ⟨s.leaseClock, ?_⟩
    have hparse : typed (TimestampMs.parse now) = .ok now :=
      typed_ok.mpr (TimestampMs.parse_ok.mpr ⟨hnow, rfl⟩)
    rw [Tx.bind_of_ok (Tx.lift_ok.mpr ⟨hparse, rfl⟩), withIdempotentMutation_recorded hrow, hkey]
    rfl
  | leased opens ih =>
    rw [Tx.bind_of_ok (advanceLeaseClock_ok.mpr ⟨rfl, rfl⟩)]
    obtain ⟨clock, hclock⟩ :=
      ih (max s.leaseClock (max now 0)) (s := { s with leaseClock := max s.leaseClock (max now 0) })
        hrow
    exact ⟨clock, hclock⟩

/-- A call that succeeds leaves its response on record. -/
theorem Call.answered {c : Call} (he : c.op.entry env = some e) (hc : (step env s c).1 = .ok v) :
    e.Answered v (next env s c) := by
  cases hstep : step env s c with
  | mk r s' =>
    rw [hstep] at hc
    obtain rfl : r = .ok v := hc
    have hrun := Tx.commit_ok.mp hstep
    rw [next, hstep]
    exact (Operation.enters he).answered hrun

/-- What is on record stays on record. -/
theorem Entry.Answered.after {calls : List Call} (h : e.Answered v s) :
    e.Answered v (Run.after (next env) s calls) := by
  refine Run.invariant_always (fun s c hs => ?_) h
  obtain ⟨hkey, row, hrow, heq⟩ := hs
  exact ⟨hkey, row, next_touches.idempotency _ row hrow, heq⟩

/-- Once a call has succeeded with a response, every call of the same actor under the same
    operation and key returns this response if it makes the same request and fails with a conflict
    if it makes another one, and changes no row, the lease clock apart. -/
theorem response_replayed {before between : List Call} {c c' : Call} {e' : Entry}
    (he : c.op.entry env = some e) (hc : (step env (reach env before) c).1 = .ok v)
    (he' : c'.op.entry env = some e') (hkey : e'.key = e.key)
    (hbatch : c'.op.isBatchImport = false) (hnow : 0 ≤ c'.now) :
    (step env (reach env (before ++ c :: between)) c').1 =
        (if e'.request = e.request then .ok v
          else .error (.idempotencyConflict e.actorKey e.operation e.idempotencyKey)) ∧
      SameRows (reach env (before ++ c :: between))
        (next env (reach env (before ++ c :: between)) c') := by
  -- The response is on record after `c` and after everything that follows.
  have hanswered : e.Answered v (reach env (before ++ c :: between)) := by
    rw [reach_append, Run.after_cons]
    exact (Call.answered he hc).after
  generalize reach env (before ++ c :: between) = s at hanswered ⊢
  obtain ⟨hvalid, row, hrow, hreq, hresp⟩ := hanswered
  obtain ⟨hactor, hop, hid⟩ : e'.actorKey = e.actorKey ∧ e'.operation = e.operation ∧
      e'.idempotencyKey = e.idempotencyKey := by simpa [Entry.key] using hkey
  obtain ⟨clock, hrun⟩ := (Operation.opens he' hbatch).recorded (s := { s with uuids := c'.uuids })
    hnow (hid ▸ hvalid) (hkey ▸ hrow)
  rw [hreq, hresp, hactor, hop, hid] at hrun
  by_cases hsame : e'.request = e.request
  · rw [if_pos hsame.symm] at hrun
    have hstep : step env s c' = (.ok v, { s with leaseClock := clock, uuids := c'.uuids }) :=
      Tx.commit_ok.mpr hrun
    refine ⟨?_, clock, c'.uuids, ?_⟩
    · rw [hstep, if_pos hsame]
    · rw [next, hstep]
  · rw [if_neg (Ne.symm hsame)] at hrun
    have hstep : step env s c' = (.error (.idempotencyConflict e.actorKey e.operation
        e.idempotencyKey), { s with uuids := c'.uuids }) := by
      rw [step, Tx.commit, hrun]
    refine ⟨?_, s.leaseClock, c'.uuids, ?_⟩
    · rw [hstep, if_neg hsame]
    · rw [next, hstep]

/-- A call that succeeds returns a response. -/
theorem Call.Succeeds.value {c : Call} (h : c.Succeeds env s) : ∃ v, (step env s c).1 = .ok v := by
  unfold Call.Succeeds at h
  cases hr : (step env s c).1 with
  | error err =>
    rw [hr] at h
    cases h
  | ok v => exact ⟨v, rfl⟩

end Replays

section Scripts

open Script

/-- A registration under the key `k` at the given time. -/
def registration (role : SessionRole) (now : ℤ) (n : ℕ) : Call :=
  ⟨register "orch" role (text "k"), now, uuid n⟩

def otherRegistration : Call := ⟨register "exec" .executor (text "k"), 1, uuid 1⟩

theorem registration_run :
    (registration .orchestrator 0 0).Succeeds env (reach env []) ∧
      ¬(registration .orchestrator (-1) 2).Succeeds env
        (reach env [registration .orchestrator 0 0]) := by
  unfold Call.Succeeds
  decide +kernel

/-- A registration is made again after another one, and then under another role. -/
theorem response_replayed_registration :
    ∃ v, (step env (reach env []) (registration .orchestrator 0 0)).1 = .ok v ∧
      (step env (reach env [registration .orchestrator 0 0, otherRegistration])
        (registration .orchestrator 2 2)).1 = .ok v ∧
      (step env (reach env [registration .orchestrator 0 0, otherRegistration])
        (registration .reviewer 2 2)).1 =
          .error (.idempotencyConflict (text "orch" : AgentPrincipalId).val "register_session"
            (text "k" : IdempotencyKey).val) := by
  obtain ⟨v, hv⟩ := registration_run.1.value
  have hentry : ∀ role n, (registration role n n.toNat).op.entry env =
      some ⟨(text "orch" : AgentPrincipalId).val, "register_session",
        (text "k" : IdempotencyKey).val, .registerSession ⟨text "orch", text "orch", role, text "k"⟩⟩ :=
    fun _ _ => rfl
  have hlater : ∀ role, (step env (reach env ([] ++ registration .orchestrator 0 0 ::
      [otherRegistration])) (registration role 2 2)).1 = _ :=
    fun role => (response_replayed (hentry _ 0) hv (hentry role 2) rfl rfl
      (by decide : (0 : ℤ) ≤ 2)).1
  refine ⟨v, hv, ?_, ?_⟩
  · exact (hlater .orchestrator).trans (if_pos rfl)
  · exact (hlater .reviewer).trans (if_neg (by simp [register]))

/-- At a reading before the epoch a call is refused, whatever is on record under its key. -/
theorem registration_refused :
    ∃ v, (step env (reach env []) (registration .orchestrator 0 0)).1 = .ok v ∧
      (step env (reach env [registration .orchestrator 0 0])
        (registration .orchestrator (-1) 2)).1 ≠ .ok v := by
  obtain ⟨hfirst, hlater⟩ := registration_run
  obtain ⟨v, hv⟩ := hfirst.value
  refine ⟨v, hv, fun h => hlater ?_⟩
  rw [Call.Succeeds, h]
  rfl

end Scripts

end Covey

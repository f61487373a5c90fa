import Covey.Ownership
import Covey.Script

/-!
# Claims along runs

What holds of claims after any number of calls by any callers.

* `reach_coherent`: the invariants of claims hold after every run in which no
  caller gives a reserved id to work or to a review.
* `claims_agree`: the three tables that say who holds a work or review subtask
  agree.
* `claims_continue`: claims keep their subtask, owner and fence and stay closed,
  exactly as long as no cleanup uses a claim row again.
-/

namespace Covey

open Relational

/-! ## Runs -/

/-- No caller gives a reserved id to work or to a review, and a UUID that is not in use comes from
    the generator. -/
def Call.Proper (s : Db) (c : Call) : Prop := c.Fresh s ∧ ¬c.op.Misnames

instance (s : Db) (c : Call) : Decidable (c.Proper s) := inferInstanceAs (Decidable (_ ∧ _))

/-- Claims, current claims, fences and active subtasks agree. -/
structure Coherent (l : Leases) : Prop where
  anchored : Anchored l
  fenced : Fenced l
  named : Named l
  linked : Linked l

section Runs

variable {env : Env} {now : ℤ} {w : Write} {b b' : Board} {s : Db} {c : Call} {calls : List Call}

theorem Coherent.move (m : Move now w b b') (hw : w ≠ .misname) (h : Coherent b.toLeases) :
    Coherent b'.toLeases where
  anchored := h.anchored.move m
  fenced := h.fenced.move m h.anchored
  named := h.named.move m hw
  linked := h.linked.move m h.anchored h.named

theorem misname_notMem_writes (h : ¬c.op.Misnames) : .misname ∉ c.writes env s := by
  rintro (((hw | ⟨-, hmis⟩) | ⟨hw, -⟩) | ⟨hw, -⟩)
  · cases hop : c.op <;> simp [hop, Operation.writes] at hw
  · exact h hmis
  · cases hw
  · cases hw

/-- What every move of a proper call keeps, the call keeps. -/
theorem Call.Proper.invariant {I : Board → Prop} (hc : c.Proper s) (ha : Anchored s.board.toLeases)
    (hmove : ∀ {w b b'}, w ≠ .misname → Move c.now w b b' → I b → I b') (hs : I s.board) :
    I (next env s c).board :=
  Steps.invariant (fun hw m => hmove (fun h => misname_notMem_writes hc.2 (h ▸ hw)) m)
    (next_moves hc.1 ha) hs

/-- What every move keeps, a call keeps. -/
theorem Call.Fresh.invariant {I : Board → Prop} (hc : c.Fresh s) (ha : Anchored s.board.toLeases)
    (hmove : ∀ {w b b'}, Move c.now w b b' → I b → I b') (hs : I s.board) :
    I (next env s c).board :=
  Steps.invariant (fun _ m => hmove m) (next_moves hc ha) hs

theorem next_anchored (hc : c.Fresh s) (ha : Anchored s.board.toLeases) :
    Anchored (next env s c).board.toLeases :=
  (next_moves hc ha).anchored ha

theorem next_coherent (hc : c.Proper s) (h : Coherent s.board.toLeases) :
    Coherent (next env s c).board.toLeases :=
  hc.invariant (I := fun b => Coherent b.toLeases) h.anchored (fun hw m h => h.move m hw) h

theorem init_anchored : Anchored Db.init.board.toLeases where
  current h := nomatch h
  cleanup h := nomatch h

theorem init_coherent : Coherent Db.init.board.toLeases where
  anchored := init_anchored
  fenced _ _ h := nomatch h
  named _ _ h := nomatch h
  linked :=
    { current := fun h => nomatch h
      active := fun h => nomatch h
      role := fun h => nomatch h
      exited := fun h => nomatch h
      owner := fun h => nomatch h
      subtask := fun h => nomatch h
      known := fun h => nomatch h }

/-- Claims, current claims, fences and active subtasks agree after every run of proper calls. -/
theorem reach_coherent (hrun : Run.Along (next env) Call.Proper Db.init calls) :
    Coherent (reach env calls).board.toLeases :=
  Run.invariant (I := fun s => Coherent s.board.toLeases) (fun _ _ => next_coherent) hrun
    init_coherent

/-! ## Who holds what -/

/-- The three tables agree on who holds a work or review subtask: the current claim of the
    subtask is its held claim, the active subtask of a session is the one on which it owns the
    held claim, a session holds one such claim at most, and an exited session none. -/
structure ClaimsAgree (l : Leases) : Prop where
  current : ∀ {id r}, l.subtask id = some r → r.kind ≠ .cleanup →
    ∀ c, r.currentClaimId = some c ↔ ∃ k, HeldBy l c k id
  active : ∀ {k σ id r}, l.session k = some σ → l.subtask id = some r → r.kind ≠ .cleanup →
    (σ.activeSubtaskId = some id ↔ ∃ c, HeldBy l c k id)
  single : ∀ {k id id' r r' c c'}, l.subtask id = some r → r.kind ≠ .cleanup →
    l.subtask id' = some r' → r'.kind ≠ .cleanup → HeldBy l c k id → HeldBy l c' k id' →
    id = id' ∧ c = c'
  exited : ∀ {k σ id r c}, l.session k = some σ → σ.state = .exited → l.subtask id = some r →
    r.kind ≠ .cleanup → ¬HeldBy l c k id

theorem Linked.claimsAgree (h : Linked b.toLeases) : ClaimsAgree b.toLeases where
  current hr hk c := h.current hr hk
  active := h.active
  single hr hk hr' hk' hc hc' := by
    obtain rfl := h.held_elsewhere hc hc' hr' hk'
    exact ⟨rfl, h.held_unique hr hk hc hc'⟩
  exited hσ hexit hr hk hheld := by
    have hactive := h.active_of_held hheld hσ hr hk
    rw [h.exited hσ hexit] at hactive
    cases hactive

/-- After every run in which no caller gives a reserved id to work or to a review, the claim
    tables agree. -/
theorem claims_agree (hrun : Run.Along (next env) Call.Proper Db.init calls) :
    ClaimsAgree (reach env calls).board.toLeases :=
  (reach_coherent hrun).linked.claimsAgree

/-! ## The life of a claim -/

/-- Every claim is on the same subtask, by the same session and under the same fence as before,
    and the closed ones are closed as they were. -/
def Board.ClaimsContinue (b b' : Board) : Prop :=
  ∀ ⦃k row⦄, b.claim k = some row → ∃ row', b'.claim k = some row' ∧ row.Continues row'

theorem Board.ClaimsContinue.trans {b'' : Board} (h : b.ClaimsContinue b')
    (h' : b'.ClaimsContinue b'') : b.ClaimsContinue b'' := by
  intro k row hrow
  obtain ⟨row₁, hrow₁, hcont⟩ := h hrow
  obtain ⟨row₂, hrow₂, hcont'⟩ := h' hrow₁
  exact ⟨row₂, hrow₂, hcont.trans hcont'⟩

theorem Move.claimsContinue (m : Move now w b b') (hw : w ≠ .reuse) : b.ClaimsContinue b' := by
  intro k row hrow
  obtain ⟨row', hrow', hcont | ⟨hreuse, -⟩⟩ := (m.claim k).of_some hrow
  · exact ⟨row', hrow', hcont⟩
  · exact absurd hreuse hw

theorem reuse_notMem_writes (h : ¬c.Reuses env s) : .reuse ∉ c.writes env s := by
  rintro (((hw | ⟨hw, -⟩) | ⟨hw, -⟩) | ⟨-, hreuse⟩)
  · cases hop : c.op <;> simp [hop, Operation.writes] at hw
  · cases hw
  · cases hw
  · exact h hreuse

/-- A call that uses no claim row again continues every claim. -/
theorem next_claimsContinue (hfresh : c.Fresh s) (ha : Anchored s.board.toLeases)
    (hreuse : ¬c.Reuses env s) : s.board.ClaimsContinue (next env s c).board := by
  refine Steps.invariant (I := s.board.ClaimsContinue) (fun hw m h => ?_) (next_moves hfresh ha)
    fun k row hrow => ⟨row, hrow, .refl row⟩
  exact h.trans (m.claimsContinue fun hw' => reuse_notMem_writes hreuse (hw' ▸ hw))

/-- Opening a cleanup claim on a subtask that was claimed before gives some claim a new fence. -/
theorem openCleanupClaim_refences {s₀ s₁ s₂ : Db} {req : BeginOpenSpecArchiveCleanupReq}
    {leaseNow : ℤ} {u : Unit} {blockers : List OpenSpecArchiveStatusRow}
    {claim : OpenSpecArchiveCleanupClaim} {earlier : ClaimRow} (hfresh : ClaimIdFresh s₀)
    (ha : Anchored s₀.board.toLeases) (hf : Fenced s₀.board.toLeases)
    (hearlier : earlier ∈ s₀.claims.rows)
    (hname : earlier.subtaskId.val = cleanupSubtaskName req.openspecChangeId)
    (hretire : retireStaleCleanupClaim req.openspecChangeId leaseNow now s₀ = (.ok u, s₁))
    (hopened : openCleanupClaim req blockers leaseNow now s₁ = (.ok claim, s₂)) :
    ∃ k row row', s₀.board.claim k = some row ∧ s₂.board.claim k = some row' ∧
      row.fenceSeq < row'.fenceSeq := by
  obtain ⟨s', metaTaskId, title, lane, opened, hensure, hopen, -⟩ :=
    openCleanupClaim_run (hfresh.retire hretire) hopened
  obtain ⟨-, hclaims, -⟩ := retireStaleCleanupClaim_before hretire
  obtain ⟨hb', -⟩ := ensureCleanupSubtask_before hensure
  have hmoves : Moves {.cleanup} now s₀ s' :=
    (retireStaleCleanupClaim_moves (Set.mem_singleton _) hretire).trans
      (ensureCleanupSubtask_moves (Set.mem_singleton _) ⟨_, hopen.named⟩ hensure)
  obtain ⟨ha', hf'⟩ : Anchored s'.board.toLeases ∧ Fenced s'.board.toLeases :=
    Steps.invariant (I := fun b => Anchored b.toLeases ∧ Fenced b.toLeases)
      (fun _ m h => ⟨h.1.move m, h.2.move m h.1⟩) hmoves ⟨ha, hf⟩
  have hclaim' : s'.board.claim = s₁.board.claim := by rw [hb']
  obtain ⟨row₁, hrow₁, hcont, -⟩ := rel_of_some (hclaims _) (Table.get?_key hearlier)
  have hfinds : FindsCleanupClaim s'.board req.openspecChangeId claim.cleanupSubtaskId
      opened.claimId := by
    refine hopen.found.resolve_right fun hnone => hnone _ row₁ (hclaim' ▸ hrow₁) ?_
    exact hcont.subtask.trans (Text.ext (hname.trans hopen.named.symm))
  obtain ⟨old, hold, hsub⟩ := hfinds.claim ha' hopen.named
  obtain ⟨n, hn, hlt, -⟩ := hf' hold
  obtain ⟨row, hrow, hcont, -⟩ := rel_of_some' (hclaims _) (hclaim' ▸ hold)
  obtain ⟨_, -, -, hb₂⟩ := hopen.board
  refine ⟨opened.claimId, row, opened, hrow, by rw [hb₂]; exact put_self, ?_⟩
  have hfence := hopen.fence
  rw [← hsub, hn, Option.getD_some] at hfence
  rw [← hcont.fence, hfence]
  exact hlt

/-- A call that uses a claim row again gives it a new fence. -/
theorem Call.Reuses.refences (h : c.Reuses env s) (hfresh : c.Fresh s)
    (ha : Anchored s.board.toLeases) (hf : Fenced s.board.toLeases) :
    ∃ k row row', s.board.claim k = some row ∧ (next env s c).board.claim k = some row' ∧
      row.fenceSeq < row'.fenceSeq := by
  obtain ⟨⟨hok, hrec⟩, changeId, hbegins, ⟨earlier, hearlier, hname⟩, hdead⟩ := h
  obtain ⟨v, s₀, hs₀, hrun⟩ := hok.run
  have hb₀ : s₀.board = s.board := by rw [hs₀]; rfl
  cases hop : c.op <;> simp only [hop, Operation.begins, Option.mem_def, reduceCtorEq] at hbegins
  case beginOpenSpecArchiveCleanup req =>
    obtain rfl := Option.some.inj hbegins
    rw [hop] at hrun
    cases beginOpenSpecArchiveCleanup_run hrun with
    | replayed recorded => exact absurd (Call.recorded_of hs₀ (by rw [hop]; rfl) recorded) hrec
    | returned board loaded =>
      obtain ⟨row, held, hrow, hheld, hproof, hst, hlive, -⟩ := loadCleanupClaimForChange_some loaded
      rw [board, hb₀] at hrow hheld
      rw [show s₀.leaseClock = s.leaseClock by rw [hs₀]] at hlive
      exact absurd ⟨row, hrow, held, hheld, hproof, hst, hlive⟩ hdead
    | @opened σ claim blockers s₁ s₂ s₃ board uuids _ _ _ retire opened _ same =>
      have hb₁ : s₁.board = s.board := board.trans hb₀
      have hfresh₁ : ClaimIdFresh s₁ := by
        intro id hid
        rw [uuids, hs₀] at hid
        rw [hb₁]
        exact hfresh id (by rw [hid]; rfl)
      have hearlier₁ : earlier ∈ s₁.claims.rows := by
        have hget : s₁.board.claim earlier.claimId = some earlier := by
          rw [hb₁]
          exact Table.get?_key hearlier
        exact Table.mem_of_get? hget
      rw [same, ← hb₁]
      exact openCleanupClaim_refences hfresh₁ (hb₁ ▸ ha) (hb₁ ▸ hf) hearlier₁ hname retire opened

/-- Whatever the callers name, current claims are claims on their subtask and fences come from the
    counters. -/
theorem reach_fenced (hrun : Run.Along (next env) Call.Fresh Db.init calls) :
    Anchored (reach env calls).board.toLeases ∧ Fenced (reach env calls).board.toLeases :=
  Run.invariant (I := fun s => Anchored s.board.toLeases ∧ Fenced s.board.toLeases)
    (fun s c hc h => hc.invariant (I := fun b => Anchored b.toLeases ∧ Fenced b.toLeases) h.1
      (fun m h => ⟨h.1.move m, h.2.move m h.1⟩) h)
    hrun ⟨init_anchored, init_coherent.fenced⟩

end Runs

section Scripts

open Script

/-- An executor starts the work `a`. -/
def started : List Call :=
  calls [(0, register "orch" .orchestrator), (1, register "exec" .executor),
    (2, submit (session 0)), (3, create (session 0) (metaTask 2) "a" .canonicalApply),
    (4, take (session 1) "a"), (5, start (session 1) (claim 4) (fence 0))]

theorem started_run : Run.Along (next env) Call.Proper Db.init started ∧
    ((reach env started).board.subtask (text "a")).map (fun r => (r.kind, r.state, r.currentClaimId)) =
      some (.work, .inProgress, some (claim 4)) := by
  decide +kernel

theorem claims_agree_started :
    Run.Along (next env) Call.Proper Db.init started ∧
      ClaimsAgree (reach env started).board.toLeases ∧
      ((reach env started).board.subtask (text "a")).map (·.currentClaimId) =
        some (some (claim 4)) := by
  obtain ⟨hrun, hrow⟩ := started_run
  obtain ⟨r, hr, heq⟩ := Option.map_eq_some_iff.mp hrow
  refine ⟨hrun, claims_agree hrun, ?_⟩
  rw [hr, Option.map_some]
  exact congrArg some (congrArg (·.2.2) heq)

/-- A cleanup is begun, and begun again by another orchestrator after its lease has run out. -/
def begunTwice : List Call :=
  calls (archivable ++ [(9, beginCleanup (session 0)), (700000, beginCleanup (session 1))])

theorem begunTwice_run : Run.Along (next env) Call.Fresh Db.init begunTwice ∧
    ((reach env (begunTwice.take 13)).board.claim (claim 12)).map (·.fenceSeq) = some 1 ∧
    ((reach env begunTwice).board.claim (claim 12)).map (·.fenceSeq) = some 2 := by
  decide +kernel

end Scripts

end Covey

import Covey.Ops.Archive
import Covey.Ops.Import

/-!
# The board

The part of the store that the lifecycle of work is about, as functions from
keys to rows: who is registered, what each subtask is doing, who holds which
claim, and the evidence on record. Two stores with the same board differ only in
tables that no lifecycle guard writes (meta-tasks, events, reservations, scopes,
idempotency records and the like).

* `Db.board`: the board of a store.
* `SameBoard`: what a transaction that writes none of these tables keeps.
* The lemmas ending in `_board` say what one statement does to the board.
-/

namespace Covey

open Relational

/-- Who holds what: sessions, subtasks, claims, the next fence of each subtask, and the
    recorded cleanup claims. -/
structure Leases where
  session : SessionToken → Option SessionRow
  subtask : SubtaskId → Option SubtaskRow
  claim : ClaimId → Option ClaimRow
  fence : SubtaskId → Option ℕ
  cleanup : OpenSpecChangeId → Option CleanupClaimRow

/-- What is on record about artifacts. -/
structure Ledger where
  artifact : ArtifactDigest → Option ArtifactRow
  review : ReviewId → Option ReviewRow
  followup : ReviewId → Option ReviewFollowupRow
  permissive : ReviewId → Option PermissiveLandingReceiptRow
  queue : QueueId → Option ReadyQueueRow
  verification : QueueId × ℕ × ArtifactDigest → Option ApplyVerificationRow

structure Board extends Leases, Ledger

/-- The board of a store. -/
def Db.board (s : Db) : Board where
  session := s.sessions.get?
  subtask := s.subtasks.get?
  claim := s.claims.get?
  fence k := (s.fenceCounters.get? k).map (·.nextFenceSeq)
  cleanup := s.cleanupClaims.get?
  artifact := s.artifacts.get?
  review := s.reviews.get?
  followup := s.reviewFollowups.get?
  permissive := s.permissiveLandingReceipts.get?
  queue := s.readyQueue.get?
  verification := s.applyVerifications.get?

/-- A subtask id that `begin_openspec_archive_cleanup` derives from some change. -/
def ReservedId (id : SubtaskId) : Prop :=
  ∃ changeId : OpenSpecChangeId, id.val = cleanupSubtaskName changeId

/-- The change whose reserved cleanup id this could be: what stands between the two fixed
    parts of `cleanupSubtaskName`. -/
def reservedChange (id : SubtaskId) : Option OpenSpecChangeId :=
  let rest := id.val.toList.drop "openspec:".toList.length
  let name := rest.take (rest.length - ":cleanup:archive".toList.length)
  (Text.parse .openSpecChangeId (String.ofList name)).toOption

theorem reservedId_iff {id : SubtaskId} :
    ReservedId id ↔ ∃ changeId ∈ reservedChange id, id.val = cleanupSubtaskName changeId := by
  constructor
  · rintro ⟨changeId, h⟩
    have hlist : id.val.toList =
        "openspec:".toList ++ (changeId.val.toList ++ ":cleanup:archive".toList) := by
      rw [h, cleanupSubtaskName, String.toList_append, String.toList_append, List.append_assoc]
    have hparse : Text.parse .openSpecChangeId (String.ofList changeId.val.toList) = .ok changeId :=
      Text.parse_ok.mpr String.ofList_toList.symm
    refine ⟨changeId, ?_, h⟩
    simp only [reservedChange, hlist, List.drop_left, List.length_append, Nat.add_sub_cancel,
      List.take_left, hparse]
    rfl
  · rintro ⟨changeId, -, h⟩
    exact ⟨changeId, h⟩

instance (id : SubtaskId) : Decidable (ReservedId id) := decidable_of_iff _ reservedId_iff.symm

/-! ## Transactions that leave the board alone -/

/-- The two stores have the same board. -/
def SameBoard (s s' : Db) : Prop := s'.board = s.board

instance : Std.Refl SameBoard := ⟨fun _ => rfl⟩

theorem SameBoard.trans {s s' s'' : Db} (h : SameBoard s s') (h' : SameBoard s' s'') :
    SameBoard s s'' :=
  Eq.trans h' h

instance : IsTrans Db SameBoard := ⟨fun _ _ _ => SameBoard.trans⟩

section Frame

variable {κ ρ : Type} [DecidableEq κ] {S : Schema κ ρ} {T : Tx.Field Db S}

theorem insertInto_sameBoard (hT : ∀ s t, (T.set s t).board = s.board) (r : ρ) :
    Tx.Keeps SameBoard (insertInto T r) :=
  insertInto_agree hT r

theorem updateIn_sameBoard (hT : ∀ s t, (T.set s t).board = s.board) (p : ρ → Prop)
    [DecidablePred p] (f : ρ → ρ) : Tx.Keeps SameBoard (updateIn T p f) :=
  updateIn_agree hT p f

theorem sameBoard_of_readOnly {α : Type} {x : Txn α} (hx : x.ReadOnly) : Tx.Keeps SameBoard x :=
  agree_of_readOnly hx

end Frame

theorem appendEvent_sameBoard {eventType : EventType} {objectType : ObjectType} {objectId : String}
    {actor : Option SessionToken} {now : ℤ} :
    Tx.Keeps SameBoard (appendEvent eventType objectType objectId actor now) := by
  intro s _ s' h
  obtain ⟨-, -, rfl⟩ := appendEvent_ok.mp h
  rfl

theorem appendSessionEvent_sameBoard {eventType : EventType} {objectType : ObjectType}
    {objectId : String} {actor : SessionToken} {now : ℤ} :
    Tx.Keeps SameBoard (appendSessionEvent eventType objectType objectId actor now) :=
  appendEvent_sameBoard

theorem freshId_sameBoard {f : ScalarField} {stem : String} :
    Tx.Keeps SameBoard (freshId f stem) := by
  intro s _ s' h
  obtain ⟨-, rfl⟩ := freshId_ok.mp h
  rfl

theorem refreshMetaTaskState_sameBoard {metaTaskId : MetaTaskId} {now : ℤ} :
    Tx.Keeps SameBoard (refreshMetaTaskState metaTaskId now) := by
  unfold refreshMetaTaskState
  exact .bind (sameBoard_of_readOnly load_readOnly) fun _ => .whenever fun _ =>
    .bind (sameBoard_of_readOnly selectFrom_readOnly) fun _ =>
    .whenever fun _ => .bind (updateIn_sameBoard (fun _ _ => rfl) _ _) fun _ => .pure _

/-! ## What a statement does to the board

`B f` is the board in which the statement's table reads as `f`. -/

section Statements

variable {κ ρ : Type} [DecidableEq κ] {S : Schema κ ρ} {T : Tx.Field Db S} {s s' : Db}
  {B : (κ → Option ρ) → Board}

theorem insertInto_board (hT : ∀ t, (T.set s t).board = B t.get?) {r : ρ} {u : Unit}
    (h : insertInto T r s = (.ok u, s')) :
    (T.get s).get? (S.key r) = none ∧
      s'.board = B (put (T.get s).get? (S.key r) r) := by
  obtain ⟨hnone, t, rfl, ht⟩ := insertInto_get? h
  exact ⟨hnone, by rw [hT, ht]⟩

theorem updateIn_board (hT : ∀ t, (T.set s t).board = B t.get?) {k : κ} {q : ρ → Prop}
    [DecidablePred q] {f : ρ → ρ} {n : ℕ}
    (h : updateIn T (fun r => S.key r = k ∧ q r) f s = (.ok n, s'))
    (hf : ∀ r, S.key (f r) = S.key r) :
    (n ≠ 0 → ∃ r, (T.get s).get? k = some r ∧ q r) ∧
      s'.board = B (modify (T.get s).get? k fun r => if q r then f r else r) := by
  obtain ⟨hn, t, rfl, ht⟩ := updateIn_get? h hf
  exact ⟨hn, by rw [hT, ht]⟩

theorem updateIn_key_board (hT : ∀ t, (T.set s t).board = B t.get?) {k : κ} {f : ρ → ρ} {n : ℕ}
    (h : updateIn T (fun r => S.key r = k) f s = (.ok n, s')) (hf : ∀ r, S.key (f r) = S.key r) :
    s'.board = B (modify (T.get s).get? k f) := by
  obtain ⟨t, ht, -, rfl⟩ := updateIn_ok.mp h
  rw [hT, Table.get?_update_key ht hf]

theorem updateIn_map_board (hT : ∀ t, (T.set s t).board = B t.get?) {p : ρ → Prop}
    [DecidablePred p] {f : ρ → ρ} {n : ℕ} (h : updateIn T p f s = (.ok n, s'))
    (hf : ∀ r, p r → S.key (f r) = S.key r) :
    s'.board = B fun k => ((T.get s).get? k).map fun r => if p r then f r else r := by
  obtain ⟨t, rfl, ht⟩ := updateIn_map h hf
  rw [hT, ht]

end Statements

section Tables

variable {s s' : Db} {n : ℕ} {u : Unit}

theorem insertSession_board {r : SessionRow} (h : insertInto Rel.sessions r s = (.ok u, s')) :
    s.board.session r.sessionToken = none ∧
      s'.board = { s.board with session := put s.board.session r.sessionToken r } :=
  insertInto_board (B := fun g => { s.board with session := g }) (fun _ => rfl) h

theorem insertSubtaskRow_board {r : SubtaskRow} (h : insertInto Rel.subtasks r s = (.ok u, s')) :
    s.board.subtask r.subtaskId = none ∧
      s'.board = { s.board with subtask := put s.board.subtask r.subtaskId r } :=
  insertInto_board (B := fun g => { s.board with subtask := g }) (fun _ => rfl) h

theorem insertClaim_board {r : ClaimRow} (h : insertInto Rel.claims r s = (.ok u, s')) :
    s.board.claim r.claimId = none ∧
      s'.board = { s.board with claim := put s.board.claim r.claimId r } :=
  insertInto_board (B := fun g => { s.board with claim := g }) (fun _ => rfl) h

theorem insertArtifact_board {r : ArtifactRow} (h : insertInto Rel.artifacts r s = (.ok u, s')) :
    s.board.artifact r.artifactDigest = none ∧
      s'.board = { s.board with artifact := put s.board.artifact r.artifactDigest r } :=
  insertInto_board (B := fun g => { s.board with artifact := g }) (fun _ => rfl) h

theorem insertReview_board {r : ReviewRow} (h : insertInto Rel.reviews r s = (.ok u, s')) :
    s.board.review r.reviewId = none ∧
      s'.board = { s.board with review := put s.board.review r.reviewId r } :=
  insertInto_board (B := fun g => { s.board with review := g }) (fun _ => rfl) h

theorem insertFollowup_board {r : ReviewFollowupRow} (h : insertInto Rel.reviewFollowups r s = (.ok u, s')) :
    s.board.followup r.reviewId = none ∧
      s'.board = { s.board with followup := put s.board.followup r.reviewId r } :=
  insertInto_board (B := fun g => { s.board with followup := g }) (fun _ => rfl) h

/-- One record per follow-up. -/
theorem insertFollowup_unlinked {r : ReviewFollowupRow}
    (h : insertInto Rel.reviewFollowups r s = (.ok u, s')) :
    ∀ k f, s.board.followup k = some f → f.followupSubtaskId ≠ r.followupSubtaskId := by
  intro k f hf heq
  obtain ⟨t, ht, -⟩ := insertInto_ok.mp h
  have hfree := Table.clash_of_insert ht (Table.mem_of_get? hf)
  simp [reviewFollowupSchema, heq] at hfree

theorem insertPermissive_board {r : PermissiveLandingReceiptRow} (h : insertInto Rel.permissiveLandingReceipts r s = (.ok u, s')) :
    s.board.permissive r.reviewId = none ∧
      s'.board = { s.board with permissive := put s.board.permissive r.reviewId r } :=
  insertInto_board (B := fun g => { s.board with permissive := g }) (fun _ => rfl) h

theorem insertQueue_board {r : ReadyQueueRow} (h : insertInto Rel.readyQueue r s = (.ok u, s')) :
    s.board.queue r.queueId = none ∧
      s'.board = { s.board with queue := put s.board.queue r.queueId r } :=
  insertInto_board (B := fun g => { s.board with queue := g }) (fun _ => rfl) h

theorem insertVerification_board {r : ApplyVerificationRow} (h : insertInto Rel.applyVerifications r s = (.ok u, s')) :
    s.board.verification (r.queueId, r.claimFenceSeq, r.sealDigest) = none ∧
      s'.board = { s.board with verification := put s.board.verification (r.queueId, r.claimFenceSeq, r.sealDigest) r } :=
  insertInto_board (B := fun g => { s.board with verification := g }) (fun _ => rfl) h

theorem insertCleanup_board {r : CleanupClaimRow} (h : insertInto Rel.cleanupClaims r s = (.ok u, s')) :
    s.board.cleanup r.openspecChangeId = none ∧
      s'.board = { s.board with cleanup := put s.board.cleanup r.openspecChangeId r } :=
  insertInto_board (B := fun g => { s.board with cleanup := g }) (fun _ => rfl) h

theorem updateSession_board {k : SessionToken} {q : SessionRow → Prop} [DecidablePred q]
    {f : SessionRow → SessionRow}
    (h : updateIn Rel.sessions (fun r => r.sessionToken = k ∧ q r) f s = (.ok n, s'))
    (hf : ∀ r, (f r).sessionToken = r.sessionToken) :
    (n ≠ 0 → ∃ r, s.board.session k = some r ∧ q r) ∧
      s'.board = { s.board with
        session := modify s.board.session k fun r => if q r then f r else r } :=
  updateIn_board (B := fun g => { s.board with session := g }) (fun _ => rfl) h hf

theorem updateSubtask_board {k : SubtaskId} {q : SubtaskRow → Prop} [DecidablePred q]
    {f : SubtaskRow → SubtaskRow}
    (h : updateIn Rel.subtasks (fun r => r.subtaskId = k ∧ q r) f s = (.ok n, s'))
    (hf : ∀ r, (f r).subtaskId = r.subtaskId) :
    (n ≠ 0 → ∃ r, s.board.subtask k = some r ∧ q r) ∧
      s'.board = { s.board with
        subtask := modify s.board.subtask k fun r => if q r then f r else r } :=
  updateIn_board (B := fun g => { s.board with subtask := g }) (fun _ => rfl) h hf

/-- An update of one subtask that is there and qualifies changes one row. -/
theorem updateSubtask_one {k : SubtaskId} {q : SubtaskRow → Prop} [DecidablePred q]
    {f : SubtaskRow → SubtaskRow} {r : SubtaskRow}
    (h : updateIn Rel.subtasks (fun r => r.subtaskId = k ∧ q r) f s = (.ok n, s'))
    (hr : s.board.subtask k = some r) (hq : q r) : n = 1 := by
  obtain ⟨-, -, rfl, -⟩ := updateIn_ok.mp h
  exact Table.count_key_one hr hq

theorem updateReview_board {k : ReviewId} {q : ReviewRow → Prop} [DecidablePred q]
    {f : ReviewRow → ReviewRow}
    (h : updateIn Rel.reviews (fun r => r.reviewId = k ∧ q r) f s = (.ok n, s'))
    (hf : ∀ r, (f r).reviewId = r.reviewId) :
    (n ≠ 0 → ∃ r, s.board.review k = some r ∧ q r) ∧
      s'.board = { s.board with
        review := modify s.board.review k fun r => if q r then f r else r } :=
  updateIn_board (B := fun g => { s.board with review := g }) (fun _ => rfl) h hf

theorem updateQueueItem_board {k : QueueId} {q : ReadyQueueRow → Prop} [DecidablePred q]
    {f : ReadyQueueRow → ReadyQueueRow}
    (h : updateIn Rel.readyQueue (fun r => r.queueId = k ∧ q r) f s = (.ok n, s'))
    (hf : ∀ r, (f r).queueId = r.queueId) :
    (n ≠ 0 → ∃ r, s.board.queue k = some r ∧ q r) ∧
      s'.board = { s.board with
        queue := modify s.board.queue k fun r => if q r then f r else r } :=
  updateIn_board (B := fun g => { s.board with queue := g }) (fun _ => rfl) h hf

/-- A bulk update of subtasks. -/
theorem updateSubtasks_board {p : SubtaskRow → Prop} [DecidablePred p] {f : SubtaskRow → SubtaskRow}
    (h : updateIn Rel.subtasks p f s = (.ok n, s')) (hf : ∀ r, (f r).subtaskId = r.subtaskId) :
    s'.board = { s.board with
      subtask := fun k => (s.board.subtask k).map fun r => if p r then f r else r } :=
  updateIn_map_board (B := fun g => { s.board with subtask := g }) (fun _ => rfl) h fun r _ => hf r

theorem updateClaim_board {k : ClaimId} {q : ClaimRow → Prop} [DecidablePred q]
    {f : ClaimRow → ClaimRow}
    (h : updateIn Rel.claims (fun r => r.claimId = k ∧ q r) f s = (.ok n, s'))
    (hf : ∀ r, (f r).claimId = r.claimId) :
    (n ≠ 0 → ∃ r, s.board.claim k = some r ∧ q r) ∧
      s'.board = { s.board with
        claim := modify s.board.claim k fun r => if q r then f r else r } :=
  updateIn_board (B := fun g => { s.board with claim := g }) (fun _ => rfl) h hf

end Tables

end Covey

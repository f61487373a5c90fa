import Covey.Board
import Covey.Lib.Reach

/-!
# Dependencies on the board

A dependency counts once the subtask, or one of the follow-ups that repair it,
has reached the state that its policy asks for. The source walks the follow-ups
with a recursive query; here the chain is the transitive closure of the records.
-/

namespace Covey

open Relational

/-- A follow-up record leads from one subtask to the other. -/
def Repairs (b : Board) (x y : SubtaskId) : Prop :=
  ∃ k f, b.followup k = some f ∧ f.sourceSubtaskId = x ∧ f.followupSubtaskId = y

/-- The subtask, or one of a chain of follow-ups of any length, has reached the state that its
    policy asks for. -/
def Satisfied (b : Board) (id : SubtaskId) : Prop :=
  ∃ x r, Relation.ReflTransGen (Repairs b) id x ∧ b.subtask x = some r ∧ r.settled

theorem followupChain_eq {rows : List ReviewFollowupRow} {n : ℕ} {sources : List SubtaskId} :
    followupChain rows n sources =
      Reach.rounds (·.sourceSubtaskId) (·.followupSubtaskId) rows n sources := by
  induction n generalizing sources with
  | zero => rfl
  | succ n ih =>
    rw [followupChain, ih]
    rfl

theorem repairs_iff_edge {s : Db} {x y : SubtaskId} : Repairs s.board x y ↔
    Reach.Edge (·.sourceSubtaskId) (·.followupSubtaskId) s.reviewFollowups.rows x y := by
  constructor
  · rintro ⟨k, f, hf, hsource, htarget⟩
    exact ⟨f, Table.mem_of_get? hf, hsource, htarget⟩
  · rintro ⟨f, hf, hsource, htarget⟩
    exact ⟨_, f, Table.get?_key hf, hsource, htarget⟩

/-- The chain query reaches the follow-ups of follow-ups of any depth. -/
theorem mem_followupChain {s : Db} {id x : SubtaskId} :
    x ∈ followupChain s.reviewFollowups.rows s.reviewFollowups.rows.length [id] ↔
      Relation.TransGen (Repairs s.board) id x := by
  rw [followupChain_eq, Reach.mem_rounds_length]
  have hedges : Reach.Edge (·.sourceSubtaskId) (·.followupSubtaskId) s.reviewFollowups.rows =
      Repairs s.board := by
    funext x y
    exact propext repairs_iff_edge.symm
  rw [hedges]

theorem dependencySatisfied_iff {s : Db} {id : SubtaskId} {dep : SubtaskRow}
    (hdep : s.board.subtask id = some dep) : dependencySatisfied s dep ↔ Satisfied s.board id := by
  have hkey : dep.subtaskId = id := Table.key_of_get? hdep
  constructor
  · rintro (hsettled | hchain)
    · exact ⟨id, dep, .refl, hdep, hsettled⟩
    · obtain ⟨x, hx, hsettled⟩ := List.any_eq_true.mp hchain
      rw [hkey, mem_followupChain] at hx
      cases hr : s.subtasks.get? x with
      | none => simp [hr] at hsettled
      | some r => exact ⟨x, r, hx.to_reflTransGen, hr, by simpa [hr] using hsettled⟩
  · rintro ⟨x, r, hchain, hr, hsettled⟩
    rcases Relation.reflTransGen_iff_eq_or_transGen.mp hchain with rfl | hchain
    · obtain rfl : dep = r := Option.some.inj (hdep.symm.trans hr)
      exact .inl hsettled
    · refine .inr (List.any_eq_true.mpr ⟨x, by rw [hkey, mem_followupChain]; exact hchain, ?_⟩)
      have hr : s.subtasks.get? x = some r := hr
      simp [hr, hsettled]

end Covey

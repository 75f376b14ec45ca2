import Mathlib.Data.List.Count
import ProjectTetris.Lib.Transition

/-!
# A copy that follows by notices

Something is there or is not, and every change of it is told to a copy. The notices of the
changes wait where they may pass each other; once they have been handed over, the copy
takes them in their order. It takes one more entry for each thing added, and gives up one,
if it has one, for each thing removed.

However the notices pass each other, what is there is in the copy or on its way to it. That
the copy has nothing else, and has it once, takes more: a change has to wait until the
notice of the change before it has been handed over.
-/

namespace Notices

open Transition

/-- What the copy makes of a notice. -/
def take (copies : Nat) (added : Bool) : Nat := if added then copies + 1 else copies - 1

structure State where
  original : Bool
  /-- The entries of the copy. -/
  copies : Nat
  told : List Bool := []
  waiting : List Bool := []

inductive Next (oneByOne : Prop) : State → State → Prop
  | changes (s : State) {added : Bool} {waiting : List Bool} (hchange : s.original = !added)
      (hone : oneByOne → s.waiting = []) (hperm : waiting.Perm (added :: s.waiting)) :
      Next oneByOne s { s with original := added, waiting := waiting }
  | passes (s : State) {waiting : List Bool} (hperm : waiting.Perm s.waiting) :
      Next oneByOne s { s with waiting := waiting }
  | handsOver (s : State) {added : Bool} {waiting : List Bool}
      (hperm : s.waiting.Perm (added :: waiting)) :
      Next oneByOne s { s with told := s.told ++ [added], waiting := waiting }
  | takes (s : State) {added : Bool} {told : List Bool} (htold : s.told = added :: told) :
      Next oneByOne s { s with copies := take s.copies added, told := told }

/-- From where the copy is right and knows it. -/
def system (oneByOne : Prop) : System State :=
  ⟨fun s => s.copies = s.original.toNat ∧ s.told = [] ∧ s.waiting = [], Next oneByOne⟩

variable {oneByOne : Prop} {s s' : State}

/-- What is on its way to be added makes up for what the copy lacks. -/
def Covered (s : State) : Prop :=
  s.original.toNat + (s.told.count false + s.waiting.count false) ≤
    s.copies + (s.told.count true + s.waiting.count true)

theorem covered_next (h : Covered s) (hnext : Next oneByOne s s') : Covered s' := by
  unfold Covered at h ⊢
  cases hnext with
  | @changes added waiting hchange _ hperm =>
      rw [hchange] at h
      rw [hperm.count_eq, hperm.count_eq]
      cases added with
      | true => simp at h ⊢; omega
      | false => simp at h ⊢; omega
  | passes hperm =>
      rw [hperm.count_eq, hperm.count_eq]
      exact h
  | @handsOver added waiting hperm =>
      rw [hperm.count_eq, hperm.count_eq] at h
      cases added with
      | true => simp at h ⊢; omega
      | false => simp at h ⊢; omega
  | @takes added told htold =>
      rw [htold] at h
      -- a copy with no entry to give up still has one less to make up for
      cases added with
      | true => simp [take] at h ⊢; omega
      | false => simp [take] at h ⊢; omega

/-- **Nothing is missing** from the copy that is not on its way to it. -/
theorem nothing_missing (h : (system oneByOne).Reachable s) (horiginal : s.original = true) :
    0 < s.copies ∨ true ∈ s.told ∨ true ∈ s.waiting := by
  have hcovered : Covered s := by
    refine invariant (S := system oneByOne) ?_ (fun _ _ => covered_next) h
    intro s ⟨hcopies, htold, hwaiting⟩
    unfold Covered
    rw [hcopies, htold, hwaiting]
    exact Nat.le_refl _
  unfold Covered at hcovered
  rw [horiginal, Bool.toNat_true] at hcovered
  by_cases htold : true ∈ s.told
  · exact .inr (.inl htold)
  · by_cases hwaiting : true ∈ s.waiting
    · exact .inr (.inr hwaiting)
    · rw [List.count_eq_zero.mpr htold, List.count_eq_zero.mpr hwaiting] at hcovered
      exact .inl (by omega)

/-- The copy, when it has taken all there is, and there is one notice at most that could pass
another. -/
def OneByOne (s : State) : Prop :=
  (s.told ++ s.waiting).foldl take s.copies = s.original.toNat ∧ s.waiting.length ≤ 1

theorem oneByOne_next (h : OneByOne s) (hone : oneByOne) (hnext : Next oneByOne s s') :
    OneByOne s' := by
  obtain ⟨hreplay, hlength⟩ := h
  cases hnext with
  | @changes added waiting hchange hempty hperm =>
      have hwaiting := hempty hone
      rw [hwaiting] at hperm
      rw [hwaiting, List.append_nil, hchange] at hreplay
      rw [OneByOne, List.perm_singleton.mp hperm]
      refine ⟨?_, Nat.le_refl 1⟩
      dsimp only
      rw [List.foldl_append, hreplay]
      cases added with
      | true => rfl
      | false => rfl
  | @passes waiting hperm =>
      -- a single notice has no other to pass
      have hsame : waiting = s.waiting := by
        rcases Nat.le_one_iff_eq_zero_or_eq_one.mp hlength with hzero | hone
        · rw [List.length_eq_zero_iff.mp hzero] at hperm ⊢
          exact List.perm_nil.mp hperm
        · obtain ⟨added, hadded⟩ := List.length_eq_one_iff.mp hone
          rw [hadded] at hperm ⊢
          exact List.perm_singleton.mp hperm
      rw [hsame]
      exact ⟨hreplay, hlength⟩
  | @handsOver added waiting hperm =>
      -- the one that waited is told last, as it would have been
      have hlength' := hperm.length_eq
      rw [List.length_cons] at hlength'
      have hnone : waiting = [] := List.length_eq_zero_iff.mp (by omega)
      rw [hnone] at hperm ⊢
      rw [List.perm_singleton.mp hperm] at hreplay
      refine ⟨?_, Nat.zero_le 1⟩
      dsimp only
      rw [List.append_nil]
      exact hreplay
  | takes htold =>
      rw [htold, List.cons_append, List.foldl_cons] at hreplay
      exact ⟨hreplay, hlength⟩

/-- **The copy is right** once it has taken all there is, if the changes have gone one by one. -/
theorem copy_right (hone : oneByOne) (h : (system oneByOne).Reachable s) (htold : s.told = [])
    (hwaiting : s.waiting = []) : s.copies = s.original.toNat := by
  have hinv : OneByOne s := by
    refine invariant (S := system oneByOne) ?_ (fun _ _ hs => oneByOne_next hs hone) h
    intro s ⟨hcopies, htold, hwaiting⟩
    rw [OneByOne, htold, hwaiting]
    exact ⟨hcopies, Nat.zero_le 1⟩
  have hreplay := hinv.1
  rw [htold, hwaiting] at hreplay
  exact hreplay

end Notices

import Mathlib.Data.List.Basic
import Mathlib.Data.List.Nodup

/-!
# A cursor over a list that changes

A walk reads a list by index while others append to it and erase from it. What is behind
the cursor stays behind it. What is ahead stays ahead as long as nothing behind the cursor
is erased.
-/

namespace Cursor

variable {α : Type} {l l' : List α} {n : Nat} {x k : α}

/-- The next one is read: the one that is looked for, or it is ahead still. -/
theorem read_next (hget : l[n]? = some k) (hx : x ∈ l.drop n) : x = k ∨ x ∈ l.drop (n + 1) := by
  obtain ⟨hn, heq⟩ := List.getElem?_eq_some_iff.mp hget
  rw [List.drop_eq_getElem_cons hn, heq, List.mem_cons] at hx
  exact hx

/-- What has been read is behind. -/
theorem read_behind (hget : l[n]? = some k) : k ∈ l.take (n + 1) := by
  obtain ⟨hn, heq⟩ := List.getElem?_eq_some_iff.mp hget
  rw [List.take_add_one, hget]
  simp

theorem not_ahead_of_end (hget : l[n]? = none) : x ∉ l.drop n := by
  rw [List.drop_eq_nil_of_le (List.getElem?_eq_none_iff.mp hget)]
  exact List.not_mem_nil

/-- In a list without duplicates nothing is both behind and ahead. -/
theorem not_behind_and_ahead (hnodup : l.Nodup) (hbehind : x ∈ l.take n) : x ∉ l.drop n :=
  fun hahead => List.disjoint_take_drop hnodup (Nat.le_refl n) hbehind hahead

variable [DecidableEq α]

/-- What one change does to the list. -/
inductive Edit (l l' : List α) : Prop
  | same (h : l' = l)
  | add (k : α) (hnew : k ∉ l) (h : l' = l ++ [k])
  | erase (k : α) (h : l' = l.erase k)

/-- Nothing behind the cursor is erased, unless nothing is ahead. -/
def Undisturbed (n : Nat) (l l' : List α) : Prop := ∀ k ∈ l.take n, k ∉ l' → l.drop n = []

theorem mem_take_erase (hne : x ≠ k) (h : x ∈ l.take n) : x ∈ (l.erase k).take n := by
  induction l generalizing n with
  | nil => simp at h
  | cons a l ih =>
      cases n with
      | zero => simp at h
      | succ n =>
          rw [List.take_succ_cons, List.mem_cons] at h
          by_cases hka : a = k
          · subst hka
            rw [List.erase_cons_head]
            rcases h with h | h
            · exact absurd h hne
            · exact List.take_subset_take_left l (Nat.le_succ n) h
          · rw [List.erase_cons_tail (by simpa using hka), List.take_succ_cons, List.mem_cons]
            rcases h with h | h
            · exact Or.inl h
            · exact Or.inr (ih h)

theorem mem_drop_erase (hk : k ∉ l.take n) (hne : x ≠ k) (h : x ∈ l.drop n) :
    x ∈ (l.erase k).drop n := by
  induction l generalizing n with
  | nil => simp at h
  | cons a l ih =>
      cases n with
      | zero =>
          rw [List.drop_zero] at h ⊢
          exact (List.mem_erase_of_ne hne).mpr h
      | succ n =>
          rw [List.take_succ_cons, List.mem_cons, not_or] at hk
          rw [List.drop_succ_cons] at h
          rw [List.erase_cons_tail (by simpa using Ne.symm hk.1), List.drop_succ_cons]
          exact ih hk.2 h

theorem Edit.behind (h : Edit l l') (hnodup : l.Nodup) (hstays : x ∈ l') (hx : x ∈ l.take n) :
    x ∈ l'.take n := by
  cases h with
  | same h => rwa [h]
  | add k _ h =>
      rw [h, List.take_append]
      exact List.mem_append_left _ hx
  | erase k h =>
      subst h
      refine mem_take_erase ?_ hx
      rintro rfl
      exact hnodup.not_mem_erase hstays

theorem Edit.ahead (h : Edit l l') (hnodup : l.Nodup) (hundisturbed : Undisturbed n l l')
    (hstays : x ∈ l') (hx : x ∈ l.drop n) : x ∈ l'.drop n := by
  cases h with
  | same h => rwa [h]
  | add k _ h =>
      rw [h, List.drop_append]
      exact List.mem_append_left _ hx
  | erase k h =>
      subst h
      refine mem_drop_erase ?_ ?_ hx
      · intro hk
        rw [hundisturbed k hk hnodup.not_mem_erase] at hx
        simp at hx
      · rintro rfl
        exact hnodup.not_mem_erase hstays

end Cursor

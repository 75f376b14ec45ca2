import Mathlib.Algebra.GroupWithZero.Nat

/-!
# Accumulate and flush

Items of different sizes are gathered in a buffer of limited capacity; when the next one
does not fit, what has been gathered goes out as one batch and the gathering starts again.

The batches are the items, whole and in order; none of them is empty, and none is larger
than the buffer, as long as no item is.
-/

namespace Batching

variable {α : Type} (size : α → Nat) (capacity : Nat)

def total (batch : List α) : Nat := (batch.map size).sum

/-- The batches that come of the items, after `batch` has been gathered. -/
def batches : List α → List α → List (List α)
  | [], [] => []
  | batch, [] => [batch]
  | batch, item :: rest =>
      if total size batch + size item > capacity then batch :: batches [item] rest
      else batches (batch ++ [item]) rest

variable {size capacity}

@[simp] theorem total_nil : total size [] = 0 := rfl

theorem total_snoc (batch : List α) (item : α) :
    total size (batch ++ [item]) = total size batch + size item := by
  simp [total]

/-- **Nothing is lost, split or moved.** -/
theorem batches_flatten (items : List α) :
    ∀ batch, (batches size capacity batch items).flatten = batch ++ items := by
  induction items with
  | nil =>
      intro batch
      cases batch with
      | nil => rfl
      | cons item rest => simp [batches]
  | cons item rest ih =>
      intro batch
      rw [batches]
      split
      · rw [List.flatten_cons, ih]
        rfl
      · rw [ih, List.append_assoc]
        rfl

/-- **No batch is empty or larger than the buffer.** -/
theorem batches_fit {items : List α} : ∀ {batch : List α}, (∀ item ∈ items, size item ≤ capacity) →
    total size batch ≤ capacity →
    ∀ b ∈ batches size capacity batch items, b ≠ [] ∧ total size b ≤ capacity := by
  induction items with
  | nil =>
      intro batch _ hbatch b hb
      cases batch with
      | nil => exact absurd hb List.not_mem_nil
      | cons item rest =>
          rw [batches] at hb
          · rw [List.mem_singleton.mp hb]
            exact ⟨List.cons_ne_nil _ _, hbatch⟩
          · exact List.cons_ne_nil _ _
  | cons item rest ih =>
      intro batch hitems hbatch b hb
      have hitem := hitems item (List.mem_cons_self ..)
      have hrest : ∀ i ∈ rest, size i ≤ capacity :=
        fun i hi => hitems i (List.mem_cons_of_mem _ hi)
      rw [batches] at hb
      split at hb
      · rename_i hfull
        rcases List.mem_cons.mp hb with rfl | hb
        · refine ⟨?_, hbatch⟩
          -- an empty buffer takes any single item
          rintro rfl
          rw [total_nil] at hfull
          omega
        · exact ih hrest (by rw [← List.nil_append [item], total_snoc, total_nil]; omega) b hb
      · exact ih hrest (by rw [total_snoc]; omega) b hb

/-- A batch is a stretch of what was gathered. -/
theorem infix_of_mem_batches {items b : List α} (h : b ∈ batches size capacity [] items) :
    b <:+: items := by
  have hstretch := List.infix_of_mem_flatten h
  rwa [batches_flatten, List.nil_append] at hstretch

/-- The batches are the items in any reading that goes item by item. -/
theorem batches_flatMap {β : Type} (f : α → List β) (items : List α) :
    (batches size capacity [] items).flatMap (fun b => b.flatMap f) = items.flatMap f := by
  have hflatten := @batches_flatten _ size capacity items []
  rw [List.nil_append] at hflatten
  calc (batches size capacity [] items).flatMap (fun b => b.flatMap f)
      = (batches size capacity [] items).flatten.flatMap f := by
        rw [List.flatten_eq_flatMap, List.flatMap_assoc]
        rfl
    _ = items.flatMap f := by rw [hflatten]

end Batching

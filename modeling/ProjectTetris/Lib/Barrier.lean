import Mathlib.Data.Finset.Card

/-!
# Barriers

Each member of a group counts itself once. The group is complete when the counter has
reached the size of the group, and then nobody is missing.
-/

namespace Barrier

variable {ι : Type} {members arrived : Finset ι} {count : Nat} {i : ι}

/-- Those who have counted themselves. -/
structure Counted (members arrived : Finset ι) (count : Nat) : Prop where
  subset : arrived ⊆ members
  card : count = arrived.card

theorem counted_none (members : Finset ι) : Counted members ∅ 0 := ⟨Finset.empty_subset _, rfl⟩

/-- **The last one to arrive** finds that nobody is missing. -/
theorem Counted.all_arrived (h : Counted members arrived count) (hfull : count = members.card) :
    arrived = members :=
  Finset.eq_of_subset_of_card_le h.subset (by rw [← h.card, hfull])

variable [DecidableEq ι]

theorem Counted.arrive (h : Counted members arrived count) (hi : i ∈ members)
    (hnew : i ∉ arrived) :
    Counted members (insert i arrived) (count + 1) := by
  refine ⟨Finset.insert_subset hi h.subset, ?_⟩
  rw [Finset.card_insert_of_notMem hnew, h.card]

theorem Counted.complete (h : Counted members arrived count) (hi : i ∈ members)
    (hnew : i ∉ arrived) (hfull : count + 1 = members.card) : insert i arrived = members :=
  (h.arrive hi hnew).all_arrived hfull

end Barrier

import Mathlib.Data.List.Basic

/-!
# The table of friends

A friendship is two rows, one for each of the two players. Every statement that writes the
table writes both, and the number of affected rows tells whether both were written.
-/

namespace ProjectTetris

/-- The rows `(my_id, friend_id)` of `friends`. -/
abbrev FriendTable := List (Int × Int)

namespace FriendTable

/-- `INSERT IGNORE`: a row that is there is not inserted again. -/
def insertIgnore (friends : FriendTable) (row : Int × Int) : FriendTable :=
  if row ∈ friends then friends else friends ++ [row]

/-- The rows after `SQL_ADD_FRIEND`. -/
def addRows (friends : FriendTable) (acceptorId requesterId : Int) : FriendTable :=
  (friends.insertIgnore (acceptorId, requesterId)).insertIgnore (requesterId, acceptorId)

/-- The rows after `SQL_DELETE_FRIEND`. -/
def deleteRows (friends : FriendTable) (requesterId targetId : Int) : FriendTable :=
  friends.filter fun row => row ≠ (requesterId, targetId) ∧ row ≠ (targetId, requesterId)

/-- Friendship is mutual, and nobody is his own friend. -/
structure Mutual (friends : FriendTable) : Prop where
  symm : ∀ a b, (a, b) ∈ friends → (b, a) ∈ friends
  irrefl : ∀ a, (a, a) ∉ friends

variable {friends : FriendTable} {a b : Int}

theorem Mutual.nil : Mutual [] :=
  ⟨fun _ _ h => absurd h List.not_mem_nil, fun _ => List.not_mem_nil⟩

/-- Both rows are new: both are inserted. -/
theorem addRows_eq (hab : a ≠ b) (h : (a, b) ∉ friends) (h' : (b, a) ∉ friends) :
    friends.addRows a b = friends ++ [(a, b), (b, a)] := by
  have hne : ((b, a) : Int × Int) ≠ (a, b) := fun heq => hab (Prod.mk.inj heq).2
  have hnot : (b, a) ∉ friends ++ [(a, b)] := by simp [h', hne]
  rw [addRows, insertIgnore, insertIgnore, if_neg h, if_neg hnot, List.append_assoc]
  rfl

theorem length_insertIgnore_le (friends : FriendTable) (row : Int × Int) :
    (friends.insertIgnore row).length ≤ friends.length + 1 := by
  unfold insertIgnore
  split
  · omega
  · simp

/-- Two affected rows: neither was there, and they are two. -/
theorem new_of_affected (h : 2 ≤ (friends.addRows a b).length - friends.length) :
    a ≠ b ∧ (a, b) ∉ friends ∧ (b, a) ∉ friends := by
  have hsecond := length_insertIgnore_le (friends.insertIgnore (a, b)) (b, a)
  have hfirst : (a, b) ∉ friends := by
    intro hmem
    have hsame : friends.insertIgnore (a, b) = friends := if_pos hmem
    rw [addRows, hsame] at h
    rw [hsame] at hsecond
    omega
  have hlast : (b, a) ∉ friends.insertIgnore (a, b) := by
    intro hmem
    have hsame : (friends.insertIgnore (a, b)).insertIgnore (b, a) = friends.insertIgnore (a, b) :=
      if_pos hmem
    have hlength := length_insertIgnore_le friends (a, b)
    rw [addRows, hsame] at h
    omega
  have hold : friends.insertIgnore (a, b) = friends ++ [(a, b)] := if_neg hfirst
  rw [hold] at hlast
  refine ⟨?_, hfirst, ?_⟩
  · intro hab
    subst hab
    exact hlast (List.mem_append_right _ (List.mem_singleton.mpr rfl))
  · intro hmem
    exact hlast (List.mem_append_left _ hmem)

/-- A new friendship. -/
theorem Mutual.add (h : Mutual friends) (hab : a ≠ b) : Mutual (friends ++ [(a, b), (b, a)]) := by
  refine ⟨fun x y hxy => ?_, fun x hx => ?_⟩
  · rcases List.mem_append.mp hxy with hxy | hxy
    · exact List.mem_append_left _ (h.symm x y hxy)
    · refine List.mem_append_right _ ?_
      rcases List.mem_pair.mp hxy with hxy | hxy
      · cases hxy
        exact List.mem_pair.mpr (.inr rfl)
      · cases hxy
        exact List.mem_pair.mpr (.inl rfl)
  · rcases List.mem_append.mp hx with hx | hx
    · exact h.irrefl x hx
    · rcases List.mem_pair.mp hx with hx | hx
      · cases hx
        exact hab rfl
      · cases hx
        exact hab rfl

theorem mem_deleteRows {row : Int × Int} :
    row ∈ friends.deleteRows a b ↔ row ∈ friends ∧ row ≠ (a, b) ∧ row ≠ (b, a) := by
  simp [deleteRows]

theorem Mutual.deleteRows (h : Mutual friends) : Mutual (friends.deleteRows a b) := by
  refine ⟨fun x y hxy => ?_, fun x hx => ?_⟩
  · obtain ⟨hmem, hne, hne'⟩ := mem_deleteRows.mp hxy
    refine mem_deleteRows.mpr ⟨h.symm x y hmem, ?_, ?_⟩
    · intro heq
      cases heq
      exact hne' rfl
    · intro heq
      cases heq
      exact hne rfl
  · exact h.irrefl x (mem_deleteRows.mp hx).1

end FriendTable

end ProjectTetris

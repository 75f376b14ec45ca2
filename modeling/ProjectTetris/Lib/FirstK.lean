import Mathlib.Data.List.Sort

/-!
# The first `k` of a list

The first `k` entries of a list in an order, and the rules by which they can be kept up to
date without looking at the others: what is not among them can be left out, and a new entry
has to be compared with them only.
-/

namespace FirstK

open scoped List

variable {α : Type} (le : α → α → Bool) (k : Nat)

def firstK (l : List α) : List α := (l.mergeSort le).take k

/-- No two entries share a place. -/
def Strict (l : List α) : Prop := ∀ a ∈ l, ∀ b ∈ l, le a b → le b a → a = b

variable {le k} {a b : α} {l l' r : List α}

theorem Strict.of_subset (h : Strict le l) (hsub : l' ⊆ l) : Strict le l' :=
  fun a ha b hb => h a (hsub ha) b (hsub hb)

theorem Strict.perm (h : Strict le l) (hperm : l' ~ l) : Strict le l' := h.of_subset hperm.subset

/-- Who is in both parts was there twice. -/
theorem mem_of_twice (hperm : a :: l ~ r ++ l') (hr : a ∈ r) (hl' : a ∈ l') : a ∈ l := by
  classical
  have hcount := hperm.count_eq a
  have hfirst := List.count_pos_iff.mpr hr
  have hsecond := List.count_pos_iff.mpr hl'
  rw [List.count_cons_self, List.count_append] at hcount
  exact List.count_pos_iff.mp (by omega)

section Order

variable (trans : ∀ a b c, le a b → le b c → le a c) (total : ∀ a b, le a b || le b a)

include trans total

/-- The first `k` are in order, they come before the others, and only as many as there are can be
fewer. -/
theorem firstK_spec (l : List α) :
    ∃ rest, l ~ firstK le k l ++ rest ∧ (firstK le k l ++ rest).Pairwise (fun a b => le a b) ∧
      (firstK le k l).length = min k l.length := by
  refine ⟨(l.mergeSort le).drop k, ?_, ?_, ?_⟩
  · unfold firstK
    rw [List.take_append_drop]
    exact (List.mergeSort_perm l le).symm
  · unfold firstK
    rw [List.take_append_drop]
    exact List.pairwise_mergeSort trans total l
  · rw [firstK, List.length_take, List.length_mergeSort]

/-- **The first `k` are the only such list.** -/
theorem eq_firstK {rest : List α} (hstrict : Strict le l) (hperm : l ~ r ++ rest)
    (hsorted : r.Pairwise fun a b => le a b) (hbefore : ∀ a ∈ r, ∀ b ∈ rest, le a b)
    (hlength : r.length = min k l.length) : firstK le k l = r := by
  have hall : l.mergeSort le = r ++ rest.mergeSort le := by
    have hperm' : l.mergeSort le ~ r ++ rest.mergeSort le :=
      (List.mergeSort_perm l le).trans
        (hperm.trans ((List.mergeSort_perm rest le).symm.append_left r))
    refine hperm'.eq_of_pairwise ?_ (List.pairwise_mergeSort trans total l) ?_
    · intro a b ha hb
      exact hstrict a (List.mem_mergeSort.mp ha) b
        ((List.mergeSort_perm l le).subset (hperm'.symm.subset hb))
    · refine List.pairwise_append.mpr ⟨hsorted, List.pairwise_mergeSort trans total rest, ?_⟩
      intro a ha b hb
      exact hbefore a ha b (List.mem_mergeSort.mp hb)
  have hsum : l.length = r.length + rest.length := by
    rw [hperm.length_eq, List.length_append]
  rw [firstK, hall]
  by_cases hk : k ≤ l.length
  · rw [List.take_append_of_le_length (by omega), List.take_of_length_le (by omega)]
  · have hnil : rest = [] := List.eq_nil_of_length_eq_zero (by omega)
    rw [hnil, List.mergeSort_nil, List.append_nil, List.take_of_length_le (by omega)]

theorem firstK_perm (hstrict : Strict le l) (hperm : l' ~ l) : firstK le k l' = firstK le k l := by
  obtain ⟨rest, hrest, hsorted, hlength⟩ := firstK_spec (k := k) trans total l
  obtain ⟨hfirst, _, hbefore⟩ := List.pairwise_append.mp hsorted
  exact eq_firstK trans total (hstrict.perm hperm) (hperm.trans hrest) hfirst hbefore
    (by rw [hlength, hperm.length_eq])

omit trans total in
/-- What is in order already, and not too long. -/
theorem firstK_self (hsorted : l.Pairwise fun a b => le a b) (hlength : l.length ≤ k) :
    firstK le k l = l := by
  rw [firstK, List.mergeSort_of_pairwise hsorted, List.take_of_length_le hlength]

/-- **An entry that is not among the first `k` can be left out.** -/
theorem firstK_leave (hstrict : Strict le (a :: l)) (hnot : a ∉ firstK le k (a :: l)) :
    firstK le k l = firstK le k (a :: l) := by
  obtain ⟨rest, hrest, hsorted, hlength⟩ := firstK_spec (k := k) trans total (a :: l)
  obtain ⟨hfirst, _, hbefore⟩ := List.pairwise_append.mp hsorted
  have hmem : a ∈ rest := by
    rcases List.mem_append.mp (hrest.subset (List.mem_cons_self ..)) with h | h
    · exact absurd h hnot
    · exact h
  obtain ⟨before, after, rfl⟩ := List.append_of_mem hmem
  have hperm : l ~ firstK le k (a :: l) ++ (before ++ after) := by
    have hfront : firstK le k (a :: l) ++ (before ++ a :: after) ~ a ::
        (firstK le k (a :: l) ++ (before ++ after)) := by
      rw [← List.append_assoc, ← List.append_assoc]
      exact List.perm_middle
    exact (hrest.trans hfront).cons_inv
  have hlengths := hrest.length_eq
  simp only [List.length_cons, List.length_append] at hlengths hlength
  refine eq_firstK trans total (hstrict.of_subset (List.subset_cons_self ..)) hperm hfirst
    ?_ (by omega)
  intro b hb c hc
  refine hbefore b hb c ?_
  rcases List.mem_append.mp hc with hc | hc
  · exact List.mem_append_left _ hc
  · exact List.mem_append_right _ (List.mem_cons_of_mem _ hc)

/-- **A new entry is compared with the first `k` only.** -/
theorem firstK_cons (hstrict : Strict le (a :: l)) :
    firstK le k (a :: firstK le k l) = firstK le k (a :: l) := by
  obtain ⟨rest, hrest, hsorted, hlength⟩ := firstK_spec (k := k) trans total l
  obtain ⟨rest', hrest', hsorted', hlength'⟩ :=
    firstK_spec (k := k) trans total (a :: firstK le k l)
  obtain ⟨hfirst, _, hbefore⟩ := List.pairwise_append.mp hsorted
  obtain ⟨hfirst', _, hbefore'⟩ := List.pairwise_append.mp hsorted'
  have hperm : a :: l ~ firstK le k (a :: firstK le k l) ++ (rest' ++ rest) := by
    rw [← List.append_assoc]
    exact (hrest.cons a).trans (hrest'.append_right rest)
  refine (eq_firstK trans total hstrict hperm hfirst' ?_ ?_).symm
  · intro b hb c hc
    rcases List.mem_append.mp hc with hc | hc
    · exact hbefore' b hb c hc
    · rcases List.mem_cons.mp (hrest'.symm.subset (List.mem_append_left _ hb)) with hba | hb'
      · -- the new entry: it comes before the one it has driven out
        subst hba
        have hlengths := hrest.length_eq
        have hlengths' := hrest'.length_eq
        simp only [List.length_cons, List.length_append] at hlengths hlengths' hlength'
        have hpos : 0 < rest.length := List.length_pos_of_mem hc
        have hout : 0 < rest'.length := by omega
        obtain ⟨w, hw⟩ := List.exists_mem_of_length_pos hout
        have hbw := hbefore' b hb w hw
        rcases List.mem_cons.mp (hrest'.symm.subset (List.mem_append_right _ hw)) with hwb | hw'
        · subst hwb
          exact hbefore w (mem_of_twice hrest' hb hw) c hc
        · exact trans _ _ _ hbw (hbefore w hw' c hc)
      · exact hbefore b hb' c hc
  · have hlengths := hrest.length_eq
    have hlengths' := hrest'.length_eq
    simp only [List.length_cons, List.length_append] at hlengths hlengths' hlength' ⊢
    omega

/-- **An entry among the first `k` that moves up stays there**, and nobody else changes. -/
theorem firstK_improve {before after : List α} (hl : l ~ a :: l')
    (hfirst : firstK le k l = before ++ a :: after) (hbetter : ∀ c, le a c → le b c)
    (hstrict : Strict le (b :: l')) :
    firstK le k (before ++ b :: after) = firstK le k (b :: l') := by
  obtain ⟨rest, hrest, hsorted, hlength⟩ := firstK_spec (k := k) trans total l
  rw [hfirst] at hrest hsorted hlength
  obtain ⟨_, _, hbefore⟩ := List.pairwise_append.mp hsorted
  have hothers : l' ~ before ++ after ++ rest := by
    have hfront : before ++ a :: after ++ rest ~ a :: (before ++ after ++ rest) :=
      List.perm_middle.append_right rest
    exact ((hl.symm.trans hrest).trans hfront).cons_inv
  -- all of the replaced first `k` are kept
  obtain ⟨rest', hrest', hsorted', hlength'⟩ :=
    firstK_spec (k := k) trans total (before ++ b :: after)
  have hlengths := hl.length_eq
  have hlengths' := hrest'.length_eq
  have hlengths'' := hothers.length_eq
  simp only [List.length_append, List.length_cons]
    at hlength hlength' hlengths hlengths' hlengths''
  have hnil : rest' = [] := List.eq_nil_of_length_eq_zero (by omega)
  rw [hnil, List.append_nil] at hrest' hsorted'
  have hfront : b :: (before ++ after) ~ before ++ b :: after := List.perm_middle.symm
  have hperm : b :: l' ~ firstK le k (before ++ b :: after) ++ rest := by
    refine (hothers.cons b).trans ?_
    rw [← List.cons_append]
    exact (hfront.trans hrest').append_right rest
  refine (eq_firstK trans total hstrict hperm hsorted' ?_ ?_).symm
  · intro c hc d hd
    rcases List.mem_append.mp (hrest'.symm.subset hc) with hc | hc
    · exact hbefore c (List.mem_append_left _ hc) d hd
    · rcases List.mem_cons.mp hc with hcb | hc
      · subst hcb
        exact hbetter d (hbefore a (by simp) d hd)
      · exact hbefore c (by simp [hc]) d hd
  · rw [List.length_cons]
    omega

/-- **A full list stays as it is** if and only if the new entry comes after its last one. -/
theorem firstK_cons_eq_iff {c : α} (hsorted : l.Pairwise fun a b => le a b)
    (hlength : l.length = k) (hlast : l.getLast? = some c) (hstrict : Strict le (a :: l)) :
    firstK le k (a :: l) = l ↔ le c a := by
  obtain ⟨before, rfl⟩ := List.getLast?_eq_some_iff.mp hlast
  constructor
  · intro heq
    obtain ⟨rest, hrest, hsorted', _⟩ := firstK_spec (k := k) trans total (a :: (before ++ [c]))
    rw [heq] at hrest hsorted'
    have hmem : rest ~ [a] := by
      have hback : a :: (before ++ [c]) ~ before ++ [c] ++ [a] :=
        (List.perm_append_singleton a _).symm
      exact (List.perm_append_left_iff _).mp (hrest.symm.trans hback)
    rw [List.perm_singleton.mp hmem] at hsorted'
    exact (List.pairwise_append.mp hsorted').2.2 c (by simp) a (List.mem_singleton_self a)
  · intro hca
    refine eq_firstK trans total hstrict (List.perm_append_singleton a _).symm hsorted ?_ ?_
    · intro x hx y hy
      rw [List.mem_singleton.mp hy]
      rcases List.mem_append.mp hx with hxb | hxc
      · exact trans _ _ _ ((List.pairwise_append.mp hsorted).2.2 x hxb c
          (List.mem_singleton_self c)) hca
      · rwa [List.mem_singleton.mp hxc]
    · rw [List.length_cons]
      omega

end Order

end FirstK

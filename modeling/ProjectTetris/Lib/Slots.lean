/-!
# A row of slots

Facts about a list of fixed length of which one slot is changed at a time: what is true
of some slot is true of one of the others, or of the slot itself.
-/

namespace Slots

variable {α β : Type}

theorem modify_eq_set {l : List α} {i : Nat} {a : α} (ha : l[i]? = some a) (f : α → α) :
    l.modify i f = l.set i (f a) := by
  refine List.ext_getElem? fun j => ?_
  rw [List.getElem?_modify, List.getElem?_set]
  by_cases hij : i = j
  · subst hij
    obtain ⟨hlt, heq⟩ := List.getElem?_eq_some_iff.mp ha
    simp [hlt, heq]
  · simp [hij]

/-- Some slot other than `i` satisfies `Q`. -/
def Others (l : List α) (i : Nat) (Q : α → Prop) : Prop :=
  ∃ (k : Nat) (b : α), k ≠ i ∧ l[k]? = some b ∧ Q b

theorem exists_mem_iff {l : List α} {i : Nat} {a : α} (ha : l[i]? = some a) (Q : α → Prop) :
    (∃ b ∈ l, Q b) ↔ Others l i Q ∨ Q a := by
  constructor
  · rintro ⟨b, hb, hQ⟩
    obtain ⟨k, hk⟩ := List.mem_iff_getElem?.mp hb
    by_cases hki : k = i
    · subst hki
      rw [ha] at hk
      exact .inr (Option.some.inj hk ▸ hQ)
    · exact .inl ⟨k, b, hki, hk, hQ⟩
  · rintro (⟨k, b, _, hk, hQ⟩ | hQ)
    · exact ⟨b, List.mem_of_getElem? hk, hQ⟩
    · exact ⟨a, List.mem_of_getElem? ha, hQ⟩

/-- Two rows that agree on the other slots. -/
theorem others_iff {l : List α} {m : List β} {i : Nat} {Q : β → Prop} {Q' : α → Prop}
    (hlen : m.length = l.length)
    (h : ∀ (k : Nat) (a : α), k ≠ i → l[k]? = some a → ∃ b, m[k]? = some b ∧ (Q b ↔ Q' a)) :
    Others m i Q ↔ Others l i Q' := by
  constructor
  · rintro ⟨k, b, hk, hb, hQ⟩
    have hlt : k < l.length := hlen ▸ (List.getElem?_eq_some_iff.mp hb).1
    obtain ⟨b', hb', hiff⟩ := h k _ hk (List.getElem?_eq_getElem hlt)
    rw [hb] at hb'
    exact ⟨k, _, hk, List.getElem?_eq_getElem hlt, hiff.mp (Option.some.inj hb' ▸ hQ)⟩
  · rintro ⟨k, a, hk, ha, hQ⟩
    obtain ⟨b, hb, hiff⟩ := h k a hk ha
    exact ⟨k, b, hk, hb, hiff.mpr hQ⟩

theorem others_set {l : List α} {i : Nat} (a : α) (Q : α → Prop) :
    Others (l.set i a) i Q ↔ Others l i Q := by
  refine others_iff List.length_set fun k b hk hb => ⟨b, ?_, Iff.rfl⟩
  rw [List.getElem?_set_ne (Ne.symm hk)]
  exact hb

/-- A slot overwritten, and the same slots otherwise. -/
theorem exists_set_iff {l : List α} {i : Nat} (hi : i < l.length) (a : α) (Q : α → Prop) :
    (∃ b ∈ l.set i a, Q b) ↔ Others l i Q ∨ Q a := by
  have hslot : (l.set i a)[i]? = some a := by
    rw [List.getElem?_set_self hi]
  rw [exists_mem_iff hslot, others_set]

/-- A slot modified, and the same slots otherwise. -/
theorem exists_modify_iff {l : List α} {i : Nat} {a : α} (ha : l[i]? = some a) (f : α → α)
    (Q : α → Prop) : (∃ b ∈ l.modify i f, Q b) ↔ Others l i Q ∨ Q (f a) := by
  rw [modify_eq_set ha, exists_set_iff (List.getElem?_eq_some_iff.mp ha).1]

end Slots

import Mathlib.Data.Nat.ModEq

/-!
# A ring with two counters that wrap

A queue in an array of fixed size: one counter says where the next value is written, the
other where the next one is read, and neither is ever set back. They are words, so they
come round; as the size of the array divides their range, the cell a count stands for is
the same whether or not the counter has wrapped.

`Holds` is what the ring stands for: everything that has been pushed, and how much of it
has been popped.
-/

/-- A ring of `capacity` cells, of which only those below `capacity` are used. -/
structure WordRing (α : Type) (width capacity : Nat) where
  cells : Nat → α
  write : BitVec width
  read : BitVec width

namespace WordRing

variable {α : Type} {width capacity : Nat}

/-- A full ring takes nothing. -/
def push (r : WordRing α width capacity) (x : α) : Option (WordRing α width capacity) :=
  if (r.write - r.read).toNat ≥ capacity then none
  else some { r with
    cells := fun i => if i = r.write.toNat % capacity then x else r.cells i
    write := r.write + 1 }

/-- The oldest value, and the ring without it. -/
def pop (r : WordRing α width capacity) : Option (α × WordRing α width capacity) :=
  if r.read = r.write then none
  else some (r.cells (r.read.toNat % capacity), { r with read := r.read + 1 })

/-- Both counters start at zero; the cells may hold anything. -/
def emptyOf (cells : Nat → α) : WordRing α width capacity := ⟨cells, 0, 0⟩

/-- The ring after these pushes and this many pops. -/
structure Holds (r : WordRing α width capacity) (pushed : List α) (popped : Nat) : Prop where
  le : popped ≤ pushed.length
  room : pushed.length ≤ popped + capacity
  write : r.write = BitVec.ofNat width pushed.length
  read : r.read = BitVec.ofNat width popped
  cells : ∀ i x, popped ≤ i → pushed[i]? = some x → r.cells (i % capacity) = x

theorem holds_emptyOf (cells : Nat → α) :
    (emptyOf cells : WordRing α width capacity).Holds [] 0 where
  le := Nat.le_refl 0
  room := Nat.zero_le _
  write := rfl
  read := rfl
  cells := by
    intro i x _ h
    simp at h

/-- Counts less than a capacity apart stand for different cells. -/
theorem mod_ne_of_between {i j c : Nat} (h : i < j) (hc : j < i + c) : i % c ≠ j % c := by
  intro heq
  have hdvd : c ∣ j - i := (Nat.modEq_iff_dvd' (Nat.le_of_lt h)).mp heq
  have hle : c ≤ j - i := Nat.le_of_dvd (by omega) hdvd
  omega

section Wrapping

variable (hdvd : capacity ∣ 2 ^ width) (hlt : capacity < 2 ^ width)
variable {r r' : WordRing α width capacity} {pushed : List α} {popped : Nat} {x : α}

include hdvd in
/-- The cell a counter stands for does not depend on how often it has wrapped. -/
theorem ofNat_mod_capacity (n : Nat) : (BitVec.ofNat width n).toNat % capacity = n % capacity := by
  rw [BitVec.toNat_ofNat, Nat.mod_mod_of_dvd _ hdvd]

include hlt in
/-- The difference of the counters is how many values are waiting. -/
theorem Holds.waiting (h : r.Holds pushed popped) :
    (r.write - r.read).toNat = pushed.length - popped := by
  obtain ⟨k, hk⟩ := Nat.exists_eq_add_of_le h.le
  have hsmall : k < 2 ^ width := by
    have := h.room
    omega
  have hsub : r.write - r.read = BitVec.ofNat width k := by
    rw [h.write, h.read, hk, BitVec.ofNat_add, BitVec.add_comm, BitVec.add_sub_cancel]
  rw [hsub, BitVec.toNat_ofNat, Nat.mod_eq_of_lt hsmall]
  omega

include hlt in
theorem Holds.read_eq_write_iff (h : r.Holds pushed popped) :
    r.read = r.write ↔ popped = pushed.length := by
  constructor
  · intro heq
    have hzero := h.waiting hlt
    rw [heq, BitVec.sub_self, BitVec.toNat_zero] at hzero
    have := h.le
    omega
  · intro heq
    rw [h.read, h.write, heq]

theorem waiting_of_pop_none (hpop : r.pop = none) : (r.write - r.read).toNat = 0 := by
  unfold WordRing.pop at hpop
  split at hpop
  next heq => rw [heq, BitVec.sub_self, BitVec.toNat_zero]
  next => cases hpop

include hdvd hlt in
theorem Holds.push (h : r.Holds pushed popped) (hpush : r.push x = some r') :
    r'.Holds (pushed ++ [x]) popped := by
  unfold WordRing.push at hpush
  split at hpush
  next => cases hpush
  next hroom =>
    cases hpush
    rw [h.waiting hlt] at hroom
    have hle := h.le
    refine ⟨by simp; omega, by simp; omega, by simp [h.write, BitVec.ofNat_add], h.read, ?_⟩
    intro i y hi hy
    have hcell : r.write.toNat % capacity = pushed.length % capacity := by
      rw [h.write, ofNat_mod_capacity hdvd]
    show (if i % capacity = r.write.toNat % capacity then x else r.cells (i % capacity)) = y
    rw [hcell]
    rcases Nat.lt_trichotomy i pushed.length with hbefore | rfl | hafter
    · -- the new value goes to a cell no waiting one is in
      rw [if_neg (mod_ne_of_between hbefore (by omega))]
      rw [List.getElem?_append_left hbefore] at hy
      exact h.cells i y hi hy
    · simpa using hy
    · rw [List.getElem?_eq_none (by simp; omega)] at hy
      cases hy

include hdvd hlt in
theorem Holds.pop (h : r.Holds pushed popped) (hpop : r.pop = some (x, r')) :
    pushed[popped]? = some x ∧ r'.Holds pushed (popped + 1) := by
  unfold WordRing.pop at hpop
  split at hpop
  next => cases hpop
  next hne =>
    cases hpop
    have hlen : popped < pushed.length := by
      have hle := h.le
      have : popped ≠ pushed.length := fun heq => hne ((h.read_eq_write_iff hlt).mpr heq)
      omega
    have hroom := h.room
    refine ⟨?_, hlen, by omega, h.write, by simp [h.read, BitVec.ofNat_add], ?_⟩
    · have hcell : r.read.toNat % capacity = popped % capacity := by
        rw [h.read, ofNat_mod_capacity hdvd]
      rw [hcell, h.cells popped _ (Nat.le_refl _) (List.getElem?_eq_getElem hlen),
        List.getElem?_eq_getElem hlen]
    · intro i y hi hy
      exact h.cells i y (by omega) hy

include hlt in
theorem Holds.waiting_of_pop_some (h : r.Holds pushed popped)
    {taken : α × WordRing α width capacity} (hpop : r.pop = some taken) :
    (r.write - r.read).toNat ≠ 0 := by
  intro hzero
  rw [h.waiting hlt] at hzero
  have hle := h.le
  have heq := (h.read_eq_write_iff hlt).mpr (by omega)
  simp [WordRing.pop, heq] at hpop

end Wrapping

end WordRing

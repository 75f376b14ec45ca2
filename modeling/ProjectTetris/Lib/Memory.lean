/-!
# Bytes read and written within bounds

A piece of memory is the list of its bytes. A read or a write that does not stay inside it
is `none`. `strnlen` reads a byte at a time and stops at the first zero, so how far it
reads depends on what is there.
-/

namespace Memory

/-- The `n` bytes from `offset` on. -/
def readAt (l : List UInt8) (offset n : Nat) : Option (List UInt8) :=
  if offset + n ≤ l.length then some ((l.drop offset).take n) else none

/-- The number of bytes from `offset` on before the first zero, at most `n`. -/
def strnlen (l : List UInt8) (offset : Nat) : Nat → Option Nat
  | 0 => some 0
  | n + 1 => do
      let byte ← l[offset]?
      if byte = 0 then some 0
      else
        let length ← strnlen l (offset + 1) n
        some (length + 1)

/-- The text in a field of `n` bytes, which need not end in a zero. -/
def textAt (l : List UInt8) (offset n : Nat) : Option (List UInt8) := do
  let length ← strnlen l offset n
  readAt l offset length

/-- `memcpy` into `l` from `offset` on. -/
def writeAt (l : List UInt8) (offset : Nat) (bytes : List UInt8) : Option (List UInt8) :=
  if offset + bytes.length ≤ l.length then
    some (l.take offset ++ bytes ++ l.drop (offset + bytes.length)) else none

/-- A field of `n` bytes at `offset` is in `l`. -/
def Fits (l : List UInt8) (offset n : Nat) : Prop := offset + n ≤ l.length

/-- So much of a text field is in `l` as is read: all of it, or a zero that ends it. -/
def TextFits (l : List UInt8) (offset n : Nat) : Prop := offset + n ≤ l.length ∨ 0 ∈ l.drop offset

variable {l l' bytes : List UInt8} {offset n : Nat}

theorem readAt_iff : (∃ bytes, readAt l offset n = some bytes) ↔ Fits l offset n := by
  unfold readAt Fits
  split
  · rename_i h
    exact ⟨fun _ => h, fun _ => ⟨_, rfl⟩⟩
  · rename_i h
    exact ⟨fun ⟨_, h'⟩ => absurd h' (by simp), fun h' => absurd h' h⟩

theorem readAt_eq (h : readAt l offset n = some bytes) :
    bytes = (l.drop offset).take n ∧ bytes.length = n := by
  unfold readAt at h
  split at h
  · rename_i hle
    cases h
    refine ⟨rfl, ?_⟩
    rw [List.length_take, List.length_drop]
    omega
  · cases h

/-- Nothing is read before the offset, so the offset itself has to be inside. -/
theorem strnlen_iff (hn : 0 < n) :
    (∃ length, strnlen l offset n = some length) ↔ TextFits l offset n := by
  induction n generalizing offset with
  | zero => exact absurd hn (Nat.lt_irrefl _)
  | succ n ih =>
      unfold TextFits
      by_cases hoffset : offset < l.length
      · have hbyte : l[offset]? = some l[offset] := List.getElem?_eq_getElem hoffset
        have hdrop : l.drop offset = l[offset] :: l.drop (offset + 1) :=
          List.drop_eq_getElem_cons hoffset
        simp only [strnlen, hbyte, Option.bind_eq_bind, Option.bind_some]
        by_cases hzero : l[offset] = 0
        · rw [if_pos hzero, hdrop, hzero]
          exact ⟨fun _ => .inr (List.mem_cons_self ..), fun _ => ⟨0, rfl⟩⟩
        · have hmem : 0 ∈ l.drop offset ↔ 0 ∈ l.drop (offset + 1) := by
            rw [hdrop, List.mem_cons]
            exact ⟨fun h => h.resolve_left (fun h => hzero h.symm), .inr⟩
          have hrest : (∃ length, strnlen l (offset + 1) n = some length) ↔
              (offset + (n + 1) ≤ l.length ∨ 0 ∈ l.drop (offset + 1)) := by
            cases n with
            | zero => exact ⟨fun _ => .inl hoffset, fun _ => ⟨0, rfl⟩⟩
            | succ n =>
                rw [ih (Nat.succ_pos n), TextFits,
                  show offset + 1 + (n + 1) = offset + (n + 1 + 1) by omega]
          rw [if_neg hzero, hmem, ← hrest]
          constructor
          · rintro ⟨length, h⟩
            cases hlength : strnlen l (offset + 1) n with
            | none => simp [hlength] at h
            | some length' => exact ⟨length', rfl⟩
          · rintro ⟨length, h⟩
            exact ⟨length + 1, by simp [h]⟩
      · have hbyte : l[offset]? = none := List.getElem?_eq_none (by omega)
        have hdrop : l.drop offset = [] := List.drop_eq_nil_of_le (by omega)
        simp only [strnlen, hbyte, hdrop, Option.bind_eq_bind, Option.bind_none]
        exact ⟨fun ⟨_, h⟩ => absurd h (by simp), fun h => by
          rcases h with h | h
          · omega
          · cases h⟩

/-- What `strnlen` has counted is inside. -/
theorem strnlen_fits {length : Nat} (hoffset : offset ≤ l.length)
    (h : strnlen l offset n = some length) :
    offset + length ≤ l.length := by
  induction n generalizing offset length with
  | zero =>
      cases h
      exact hoffset
  | succ n ih =>
      simp only [strnlen, Option.bind_eq_bind, Option.bind_eq_some_iff] at h
      obtain ⟨byte, hbyte, h⟩ := h
      obtain ⟨hlt, _⟩ := List.getElem?_eq_some_iff.1 hbyte
      split at h
      · cases h
        exact hoffset
      · obtain ⟨length', hlength, h⟩ := Option.bind_eq_some_iff.1 h
        cases h
        have := ih hlt hlength
        omega

theorem textAt_iff (hn : 0 < n) :
    (∃ text, textAt l offset n = some text) ↔ TextFits l offset n := by
  rw [← strnlen_iff hn]
  constructor
  · rintro ⟨text, h⟩
    obtain ⟨length, hlength, _⟩ := Option.bind_eq_some_iff.1 h
    exact ⟨length, hlength⟩
  · rintro ⟨length, h⟩
    have hoffset : offset ≤ l.length := by
      rcases (strnlen_iff hn).1 ⟨length, h⟩ with hle | hmem
      · omega
      · rcases Nat.lt_or_ge l.length offset with hlt | hle
        · rw [List.drop_eq_nil_of_le (by omega)] at hmem
          cases hmem
        · exact hle
    obtain ⟨text, htext⟩ := readAt_iff.2 (strnlen_fits hoffset h)
    exact ⟨text, by simp [textAt, h, htext]⟩

/-- A field in the middle of others is counted up to its first zero. -/
theorem strnlen_append (front l rest : List UInt8) :
    strnlen (front ++ l ++ rest) front.length l.length = some (l.takeWhile (· ≠ 0)).length := by
  induction l generalizing front with
  | nil => rfl
  | cons byte l ih =>
      have hbyte : (front ++ byte :: l ++ rest)[front.length]? = some byte := by simp
      simp only [List.length_cons, strnlen, hbyte, Option.bind_eq_bind, Option.bind_some]
      by_cases hzero : byte = 0
      · simp [hzero]
      · have hnext : front ++ byte :: l ++ rest = front ++ [byte] ++ l ++ rest := by simp
        have hrest := ih (front ++ [byte])
        rw [List.length_append, List.length_singleton, ← hnext] at hrest
        rw [if_neg hzero, hrest, List.takeWhile_cons_of_pos (by simpa using hzero)]
        rfl

/-- **A text field in the middle of others is read up to its first zero**, or to its end. -/
theorem textAt_append (front l rest : List UInt8) :
    textAt (front ++ l ++ rest) front.length l.length = some (l.takeWhile (· ≠ 0)) := by
  have hle : (l.takeWhile (· ≠ 0)).length ≤ l.length := (List.takeWhile_sublist _).length_le
  rw [textAt, strnlen_append]
  show readAt _ _ _ = _
  rw [readAt, if_pos (by simp only [List.length_append]; omega), List.append_assoc, List.drop_left,
    List.take_append_of_le_length hle]
  exact congrArg some (List.prefix_iff_eq_take.mp (List.takeWhile_prefix _)).symm

theorem writeAt_iff : (∃ l', writeAt l offset bytes = some l') ↔
    offset + bytes.length ≤ l.length := by
  unfold writeAt
  split
  · rename_i h
    exact ⟨fun _ => h, fun _ => ⟨_, rfl⟩⟩
  · rename_i h
    exact ⟨fun ⟨_, h'⟩ => absurd h' (by simp), fun h' => absurd h' h⟩

theorem length_writeAt (h : writeAt l offset bytes = some l') : l'.length = l.length := by
  unfold writeAt at h
  split at h
  · cases h
    simp only [List.length_append, List.length_take, List.length_drop]
    omega
  · cases h

/-- A write that goes on where the last one ended. -/
theorem writeAt_append (front : List UInt8) {rest bytes : List UInt8}
    (h : bytes.length ≤ rest.length) :
    writeAt (front ++ rest) front.length bytes =
      some (front ++ bytes ++ rest.drop bytes.length) := by
  rw [writeAt, if_pos (by simp; omega), List.take_left, List.drop_append, Nat.add_sub_cancel_left,
    List.drop_eq_nil_of_le (by omega), List.nil_append]

end Memory

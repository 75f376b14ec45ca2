import Mathlib.Algebra.GroupWithZero.Nat

/-!
# Numbers and text as bytes

Little-endian numbers of a fixed width, signed and unsigned, and UTF-8. Each writer has a
reader that takes back what it wrote. The reader of text is a lenient one: it skips what
is not UTF-8, a byte at a time.
-/

namespace Bytes

/-! ## Little-endian numbers -/

/-- The low `n` bytes of `v`, the lowest first. -/
def leBytes : Nat → Nat → List UInt8
  | 0, _ => []
  | n + 1, v => UInt8.ofNat (v % 256) :: leBytes n (v / 256)

/-- The number with these bytes. -/
def ofLeBytes : List UInt8 → Nat
  | [] => 0
  | b :: rest => b.toNat + 256 * ofLeBytes rest

/-- The two's complement number with these bytes. -/
def signedOfLeBytes (l : List UInt8) : Int := Int.bmod (ofLeBytes l) (256 ^ l.length)

@[simp] theorem length_leBytes : ∀ n v : Nat, (leBytes n v).length = n
  | 0, _ => rfl
  | n + 1, v => congrArg (· + 1) (length_leBytes n (v / 256))

theorem ofLeBytes_leBytes : ∀ {n v : Nat}, v < 256 ^ n → ofLeBytes (leBytes n v) = v
  | 0, v, h => by
      rw [Nat.pow_zero, Nat.lt_one_iff] at h
      rw [h]
      rfl
  | n + 1, v, h => by
      have hdiv : v / 256 < 256 ^ n := by
        rw [Nat.pow_succ] at h
        exact Nat.div_lt_of_lt_mul (by rw [Nat.mul_comm]; exact h)
      have hlow : (UInt8.ofNat (v % 256)).toNat = v % 256 := by
        rw [UInt8.toNat_ofNat']
        exact Nat.mod_mod_of_dvd _ (Nat.dvd_refl _)
      rw [leBytes, ofLeBytes, ofLeBytes_leBytes hdiv, hlow]
      exact Nat.mod_add_div v 256

theorem ofLeBytes_uint64 (v : UInt64) : ofLeBytes (leBytes 8 v.toNat) = v.toNat :=
  ofLeBytes_leBytes v.toNat_lt

theorem signedOfLeBytes_int32 (v : Int32) :
    signedOfLeBytes (leBytes 4 v.toUInt32.toNat) = v.toInt := by
  rw [signedOfLeBytes, ofLeBytes_leBytes v.toUInt32.toNat_lt, length_leBytes]
  exact (BitVec.toInt_eq_toNat_bmod v.toBitVec).symm

theorem signedOfLeBytes_int8 (v : Int8) :
    signedOfLeBytes (leBytes 1 v.toUInt8.toNat) = v.toInt := by
  rw [signedOfLeBytes, ofLeBytes_leBytes v.toUInt8.toNat_lt, length_leBytes]
  exact (BitVec.toInt_eq_toNat_bmod v.toBitVec).symm

/-- A signed number in `n` bytes is read as it was written, if it is in their range. -/
theorem signedOfLeBytes_emod {n m : Nat} {v : Int} (hm : m = 256 ^ n) (hlow : -(m : Int) ≤ v * 2)
    (hhigh : v * 2 < m) :
    signedOfLeBytes (leBytes n (v % m).toNat) = v := by
  have hpos : (m : Int) ≠ 0 := by
    rw [hm]
    exact Int.ofNat_ne_zero.mpr (Nat.ne_of_gt (Nat.pow_pos (by decide)))
  have hnonneg := Int.emod_nonneg v hpos
  have hlt : (v % m).toNat < 256 ^ n := by
    have := Int.emod_lt v hpos
    omega
  rw [signedOfLeBytes, ofLeBytes_leBytes hlt, length_leBytes, Int.toNat_of_nonneg hnonneg, ← hm,
    Int.emod_bmod, Int.bmod_eq_of_le_mul_two hlow hhigh]

/-! ## Text -/

/-- `s.encode("utf-8")`. -/
def utf8 (s : String) : List UInt8 := s.toList.flatMap String.utf8EncodeChar

/-- The characters of the first `fuel` bytes, whatever is no character left out. -/
def decodeFrom : Nat → List UInt8 → List Char
  | 0, _ => []
  | _ + 1, [] => []
  | fuel + 1, b :: rest =>
      match (b :: rest).toByteArray.utf8DecodeChar? 0 with
      | some c => c :: decodeFrom fuel ((b :: rest).drop c.utf8Size)
      | none => decodeFrom fuel rest

/-- `l.decode("utf-8", errors="ignore")`. -/
def decodeIgnore (l : List UInt8) : String := String.ofList (decodeFrom l.length l)

theorem decodeFrom_utf8 : ∀ {cs : List Char} {fuel : Nat},
    (cs.flatMap String.utf8EncodeChar).length ≤ fuel →
    decodeFrom fuel (cs.flatMap String.utf8EncodeChar) = cs
  | [], 0, _ => rfl
  | [], _ + 1, _ => rfl
  | c :: cs, 0, h => by
      rw [List.flatMap_cons, List.length_append, String.length_utf8EncodeChar] at h
      exact absurd c.utf8Size_pos (by omega)
  | c :: cs, fuel + 1, h => by
      have hlen : (String.utf8EncodeChar c).length = c.utf8Size := String.length_utf8EncodeChar c
      have hpos := c.utf8Size_pos
      rw [List.flatMap_cons, List.length_append] at h
      have hdecode : (String.utf8EncodeChar c ++
          cs.flatMap String.utf8EncodeChar).toByteArray.utf8DecodeChar? 0 =
          some c := by
        rw [List.toByteArray_append]
        exact ByteArray.utf8DecodeChar?_utf8EncodeChar_append
      have hrest : (String.utf8EncodeChar c ++ cs.flatMap String.utf8EncodeChar).drop c.utf8Size =
          cs.flatMap String.utf8EncodeChar := by
        rw [← hlen, List.drop_left]
      rw [List.flatMap_cons]
      cases hbytes : String.utf8EncodeChar c ++ cs.flatMap String.utf8EncodeChar with
      | nil =>
          rw [List.append_eq_nil_iff] at hbytes
          rw [hbytes.1] at hlen
          exact absurd hlen.symm (Nat.ne_of_gt hpos)
      | cons b rest =>
          rw [hbytes] at hdecode hrest
          rw [decodeFrom, hdecode]
          dsimp only
          rw [hrest, decodeFrom_utf8 (by omega)]

/-- **Text is read as it was written.** -/
theorem decodeIgnore_utf8 (s : String) : decodeIgnore (utf8 s) = s := by
  rw [decodeIgnore, utf8, decodeFrom_utf8 (Nat.le_refl _), String.ofList_toList]

end Bytes

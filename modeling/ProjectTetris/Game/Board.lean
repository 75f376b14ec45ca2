import ProjectTetris.Game.Tetromino

/-!
# The board

`board_` is a 25 by 10 array of booleans, five hidden rows on top. A `Board`
carries its dimensions, so every operation below has to say why it keeps them.

Reads and writes at a computed index are *checked*: they return `none` outside
the array, which is where the source would have undefined behaviour. Proving
that nothing the game does ever returns `none` is proving that every index it
uses is inside the board.
-/

namespace ProjectTetris

def hiddenHeight : Nat := 5
def boardWidth : Nat := 10
def boardHeight : Nat := 20
def totalHeight : Nat := boardHeight + hiddenHeight

/-- `std::rotate(begin + first, begin + middle, begin + last)`. -/
def stdRotate {α : Type} (l : List α) (first middle last : Nat) : List α :=
  l.take first ++ ((l.take last).drop middle ++ (l.take middle).drop first) ++ l.drop last

theorem stdRotate_length {α : Type} (l : List α) {first middle last : Nat}
    (h1 : first ≤ middle) (h2 : middle ≤ last) (h3 : last ≤ l.length) :
    (stdRotate l first middle last).length = l.length := by
  simp only [stdRotate, List.length_append, List.length_take, List.length_drop]
  omega

theorem mem_stdRotate {α : Type} {l : List α} {first middle last : Nat} {a : α}
    (h : a ∈ stdRotate l first middle last) : a ∈ l := by
  simp only [stdRotate, List.mem_append] at h
  rcases h with (h | h | h) | h
  · exact List.mem_of_mem_take h
  · exact List.mem_of_mem_take (List.mem_of_mem_drop h)
  · exact List.mem_of_mem_take (List.mem_of_mem_drop h)
  · exact List.mem_of_mem_drop h

/-- Rotating the range `[0, y]` by `y` brings row `y` to the front. -/
theorem stdRotate_to_front {α : Type} (l : List α) {y : Nat} (h : y < l.length) :
    stdRotate l 0 y (y + 1) = l[y] :: (l.take y ++ l.drop (y + 1)) := by
  have h1 : (l.take (y + 1)).drop y = [l[y]] := by
    rw [List.take_add_one, List.drop_append_of_le_length (by simp; omega)]
    simp [List.getElem?_eq_getElem h]
  simp [stdRotate, h1]

/-- Rotating the whole list by one sends the first row to the end. -/
theorem stdRotate_to_back {α : Type} (a : α) (l : List α) :
    stdRotate (a :: l) 0 1 (a :: l).length = l ++ [a] := by
  simp [stdRotate]

/-- A row of `false`. -/
def emptyRow : List Bool := List.replicate boardWidth false

/-- A garbage row: `true` everywhere but at the hole. -/
def garbageRow (holeX : Nat) : List Bool := (List.replicate boardWidth true).set holeX false

/-- `board_`, with its dimensions. -/
structure Board where
  rows : List (List Bool)
  height : rows.length = totalHeight
  width : ∀ r ∈ rows, r.length = boardWidth

namespace Board

theorem ext_rows {b c : Board} (h : b.rows = c.rows) : b = c := by
  cases b; cases c; simp only at h; subst h; rfl

/-- The board `Clear` leaves. -/
def empty : Board where
  rows := List.replicate totalHeight emptyRow
  height := List.length_replicate
  width := by
    intro r hr
    rw [List.eq_of_mem_replicate hr]
    rfl

/-- Inside the array. -/
def InRange (y x : Int) : Prop := 0 ≤ y ∧ y < totalHeight ∧ 0 ≤ x ∧ x < boardWidth

instance (y x : Int) : Decidable (InRange y x) := by unfold InRange; infer_instance

/-- `board_[y][x]`, checked. -/
def cell? (b : Board) (y x : Int) : Option Bool :=
  if 0 ≤ y ∧ 0 ≤ x then (b.rows[y.toNat]?).bind (·[x.toNat]?) else none

/-- `board_[y][x] = true`, checked. -/
def fill? (b : Board) (y x : Int) : Option Board :=
  if InRange y x then
    some
      { rows := b.rows.modify y.toNat (·.set x.toNat true)
        height := by rw [List.length_modify]; exact b.height
        width := by
          intro r hr
          obtain ⟨i, hi, rfl⟩ := List.getElem_of_mem hr
          rw [List.getElem_modify]
          rw [List.length_modify] at hi
          split
          · rw [List.length_set]; exact b.width _ (List.getElem_mem hi)
          · exact b.width _ (List.getElem_mem hi) }
  else none

theorem cell?_isSome {b : Board} {y x : Int} : (b.cell? y x).isSome ↔ InRange y x := by
  unfold cell? InRange
  split
  · rename_i h
    constructor
    · intro hs
      rw [Option.isSome_iff_exists] at hs
      obtain ⟨v, hv⟩ := hs
      obtain ⟨r, hr, hx⟩ := Option.bind_eq_some_iff.mp hv
      have h1 := (List.getElem?_eq_some_iff.mp hr).1
      have h2 := (List.getElem?_eq_some_iff.mp hx).1
      rw [b.height] at h1
      rw [b.width r (List.mem_of_getElem? hr)] at h2
      omega
    · intro hr
      have h1 : y.toNat < b.rows.length := by rw [b.height]; omega
      have h2 : x.toNat < (b.rows[y.toNat]).length := by
        rw [b.width _ (List.getElem_mem h1)]; omega
      simp [List.getElem?_eq_getElem h1, List.getElem?_eq_getElem h2]
  · rename_i h
    simp only [Option.isSome_none, Bool.false_eq_true, false_iff]
    omega

theorem exists_cell? {b : Board} {y x : Int} (h : InRange y x) : ∃ v, b.cell? y x = some v :=
  Option.isSome_iff_exists.mp (cell?_isSome.mpr h)

theorem inRange_of_cell? {b : Board} {y x : Int} {v : Bool} (h : b.cell? y x = some v) :
    InRange y x := cell?_isSome.mp (by rw [h]; rfl)

theorem fill?_isSome {b : Board} {y x : Int} (h : InRange y x) : ∃ c, b.fill? y x = some c := by
  unfold fill?
  rw [if_pos h]
  exact ⟨_, rfl⟩

/-- `row? y`: the checked read of a whole row. -/
def row? (b : Board) (y : Nat) : Option (List Bool) := b.rows[y]?

theorem cell?_natCast (b : Board) (y x : Nat) :
    b.cell? y x = (b.row? y).bind (·[x]?) := by
  simp [cell?, row?]

/-- A cell read at nonnegative indices is a row read. -/
theorem cell?_of_nonneg {b : Board} {y x : Int} (hy : 0 ≤ y) (hx : 0 ≤ x) :
    b.cell? y x = (b.row? y.toNat).bind (·[x.toNat]?) := by
  simp [cell?, row?, hy, hx]

/-! ## What one write changes -/

theorem fill?_row {b c : Board} {y x : Int} (h : b.fill? y x = some c) (i : Nat) :
    c.row? i = (b.row? i).map fun r => if i = y.toNat then r.set x.toNat true else r := by
  unfold fill? at h
  split at h
  · injection h with h
    subst h
    simp only [row?, List.getElem?_modify]
    cases b.rows[i]? with
    | none => rfl
    | some r =>
        by_cases hi : i = y.toNat
        · simp [hi]
        · simp [hi, Ne.symm hi]
  · exact absurd h (by simp)

theorem fill?_range {b c : Board} {y x : Int} (h : b.fill? y x = some c) : InRange y x := by
  unfold fill? at h
  split at h
  · assumption
  · exact absurd h (by simp)

/-- Writing a cell fills it and leaves the others alone. -/
theorem cell?_fill? {b c : Board} {y x : Int} (h : b.fill? y x = some c) (y' x' : Int) :
    c.cell? y' x' = if y' = y ∧ x' = x then some true else b.cell? y' x' := by
  have hr := fill?_range h
  have hrow := fill?_row h
  by_cases hn : 0 ≤ y' ∧ 0 ≤ x'
  · rw [cell?_of_nonneg hn.1 hn.2, cell?_of_nonneg hn.1 hn.2, hrow]
    obtain ⟨h1, h2, h3, h4⟩ := hr
    by_cases hy : y' = y
    · subst hy
      obtain ⟨r, hrr⟩ : ∃ r, b.row? y'.toNat = some r :=
        ⟨_, List.getElem?_eq_getElem (by rw [b.height]; omega)⟩
      have hw : r.length = boardWidth := b.width r (List.mem_of_getElem? hrr)
      by_cases hx : x' = x
      · subst hx
        have hlt : x'.toNat < r.length := by rw [hw]; omega
        simp [hrr, hlt]
      · have hne : x.toNat ≠ x'.toNat := by omega
        simp [hrr, hx, List.getElem?_set_ne hne]
    · have hne : y'.toNat ≠ y.toNat := by omega
      cases hb : b.row? y'.toNat with
      | none => simp [hy]
      | some r => simp [hy, hne]
  · have h1 : c.cell? y' x' = none := by unfold cell?; rw [if_neg hn]
    have h2 : b.cell? y' x' = none := by unfold cell?; rw [if_neg hn]
    obtain ⟨h3, h4, h5, h6⟩ := hr
    rw [h1, h2, if_neg (by omega)]

/-! ## The two row operations of the source -/

/-- Row `y` is filled with `false` and rotated to the top, as `ClearLine` does it. -/
def clearRow? (b : Board) (y : Nat) : Option Board :=
  if h : y < totalHeight then
    some
      { rows := stdRotate (b.rows.set y emptyRow) 0 y (y + 1)
        height := by
          rw [stdRotate_length _ (Nat.zero_le y) (Nat.le_succ y)
            (by rw [List.length_set, b.height]; omega), List.length_set, b.height]
        width := by
          intro r hr
          rcases List.mem_or_eq_of_mem_set (mem_stdRotate hr) with hr | rfl
          · exact b.width r hr
          · rfl }
  else none

/-- Every row moves up one, and the last becomes a garbage row with its hole at `holeX`. -/
def pushGarbage? (b : Board) (holeX : Nat) : Option Board :=
  if holeX < boardWidth then
    some
      { rows := (stdRotate b.rows 0 1 totalHeight).set (totalHeight - 1) (garbageRow holeX)
        height := by
          rw [List.length_set,
            stdRotate_length _ (Nat.zero_le 1) (by decide) (Nat.le_of_eq b.height.symm), b.height]
        width := by
          intro r hr
          rcases List.mem_or_eq_of_mem_set hr with hr | rfl
          · exact b.width r (mem_stdRotate hr)
          · simp [garbageRow] }
  else none

theorem clearRow?_rows {b c : Board} {y : Nat} (h : b.clearRow? y = some c) :
    c.rows = emptyRow :: b.rows.eraseIdx y := by
  unfold clearRow? at h
  split at h
  · rename_i hy
    injection h with h
    subst h
    have hlt : y < (b.rows.set y emptyRow).length := by rw [List.length_set, b.height]; exact hy
    simp only [stdRotate_to_front _ hlt, List.getElem_set_self,
      List.take_set_of_le (Nat.le_refl y),
      List.drop_set_of_lt (Nat.lt_succ_self y), List.eraseIdx_eq_take_drop_succ]
  · exact absurd h (by simp)

theorem pushGarbage?_rows {b c : Board} {holeX : Nat} (h : b.pushGarbage? holeX = some c) :
    c.rows = b.rows.drop 1 ++ [garbageRow holeX] := by
  unfold pushGarbage? at h
  split at h
  · injection h with h
    subst h
    obtain ⟨rows, hh, hw⟩ := b
    cases rows with
    | nil => exact absurd hh (by decide)
    | cons r rs =>
        have hlen : totalHeight = (r :: rs).length := hh.symm
        have hlast : totalHeight - 1 = rs.length := by rw [hlen]; rfl
        simp only [List.drop_succ_cons, List.drop_zero]
        rw [show stdRotate (r :: rs) 0 1 totalHeight = rs ++ [r] by
          rw [hlen]; exact stdRotate_to_back r rs]
        rw [hlast, List.set_append_right _ _ (Nat.le_refl _)]
        simp
  · exact absurd h (by simp)

theorem pushGarbage?_row {b c : Board} {holeX : Nat} (h : b.pushGarbage? holeX = some c)
    {i : Nat} (hi : i + 1 < totalHeight) : c.row? i = b.row? (i + 1) := by
  have hb := b.height
  simp only [row?, pushGarbage?_rows h]
  rw [List.getElem?_append_left (by rw [List.length_drop]; omega), List.getElem?_drop,
    Nat.add_comm]

/-- Above the new garbage row, a cell is what was one row further down. -/
theorem cell?_pushGarbage? {b c : Board} {holeX : Nat} (h : b.pushGarbage? holeX = some c)
    {y x : Int} (hy : 0 ≤ y) (hy' : y + 1 < totalHeight) : c.cell? y x = b.cell? (y + 1) x := by
  by_cases hx : 0 ≤ x
  · rw [cell?_of_nonneg hy hx, cell?_of_nonneg (by omega) hx,
      pushGarbage?_row h (by omega), show (y + 1).toNat = y.toNat + 1 by omega]
  · simp [cell?, hx]

/-! ## Hidden rows and full rows -/

/-- The five rows above the visible field hold no block. -/
def HiddenEmpty (b : Board) : Prop :=
  ∀ y < hiddenHeight, ∀ x < boardWidth, b.cell? y x = some false

/-- No visible row is complete. -/
def NoFullRow (b : Board) : Prop :=
  ∀ y, hiddenHeight ≤ y → y < totalHeight → ∃ x < boardWidth, b.cell? y x = some false

instance (b : Board) : Decidable b.HiddenEmpty := by unfold HiddenEmpty; infer_instance

theorem HiddenEmpty.cell {b : Board} (h : b.HiddenEmpty) {y x : Int} (hr : InRange y x)
    (hy : y < hiddenHeight) : b.cell? y x = some false := by
  obtain ⟨h1, h2, h3, h4⟩ := hr
  have := h y.toNat (by omega) x.toNat (by omega)
  rwa [show ((y.toNat : Nat) : Int) = y by omega, show ((x.toNat : Nat) : Int) = x by omega]
  at this

/-- A row all of whose cells are known to be free somewhere is not all `true`. -/
theorem row_not_full_iff {b : Board} {y : Nat} {r : List Bool} (hr : b.row? y = some r) :
    (∃ x < boardWidth, b.cell? y x = some false) ↔ r.all id = false := by
  have hw : r.length = boardWidth := b.width r (List.mem_of_getElem? hr)
  simp only [cell?_natCast, hr, Option.bind_some, List.all_eq_false, id_eq, Bool.not_eq_true]
  constructor
  · rintro ⟨x, _, hx⟩
    exact ⟨_, List.mem_of_getElem? hx, rfl⟩
  · rintro ⟨v, hv, rfl⟩
    obtain ⟨x, hx, hv⟩ := List.getElem_of_mem hv
    exact ⟨x, hw ▸ hx, by rw [List.getElem?_eq_getElem hx, hv]⟩

theorem noFullRow_iff {b : Board} :
    b.NoFullRow ↔ ∀ r ∈ b.rows.drop hiddenHeight, r.all id = false := by
  have hb := b.height
  constructor
  · intro h r hr
    obtain ⟨i, hi, rfl⟩ := List.getElem_of_mem hr
    rw [List.length_drop] at hi
    have hrow : b.row? (hiddenHeight + i) = some ((b.rows.drop hiddenHeight)[i]) := by
      rw [List.getElem_drop]; exact List.getElem?_eq_getElem _
    exact (row_not_full_iff hrow).mp (h _ (by omega) (by omega))
  · intro h y hy hy'
    have hrow : b.row? y = some (b.rows[y]) := List.getElem?_eq_getElem (by omega)
    refine (row_not_full_iff hrow).mpr (h _ ?_)
    rw [List.mem_drop_iff_getElem]
    exact ⟨y - hiddenHeight, by omega, by simp [Nat.add_sub_cancel' hy]⟩

theorem garbageRow_not_full {holeX : Nat} (h : holeX < boardWidth) :
    (garbageRow holeX).all id = false := by
  rw [List.all_eq_false]
  exact ⟨false, List.mem_of_getElem? (i := holeX) (by simp [garbageRow, h]), by simp⟩

/-- **A garbage line never completes a row, and lifts no incomplete row into a complete one.** -/
theorem NoFullRow.pushGarbage {b c : Board} {holeX : Nat} (h : b.NoFullRow)
    (hc : b.pushGarbage? holeX = some c) : c.NoFullRow := by
  have hx : holeX < boardWidth := by
    unfold pushGarbage? at hc
    split at hc
    · assumption
    · exact absurd hc (by simp)
  rw [noFullRow_iff] at h ⊢
  have hb := b.height
  rw [pushGarbage?_rows hc, List.drop_append_of_le_length (by
    rw [List.length_drop, hb]; decide), List.drop_drop]
  intro r hr
  rcases List.mem_append.mp hr with hr | hr
  · rw [Nat.add_comm, ← List.drop_drop] at hr
    exact h r (List.mem_of_mem_drop hr)
  · rw [List.mem_singleton.mp hr]
    exact garbageRow_not_full hx

theorem empty_hiddenEmpty : Board.empty.HiddenEmpty := by decide

theorem empty_noFullRow : Board.empty.NoFullRow := by
  rw [noFullRow_iff]
  decide

end Board

end ProjectTetris

import ProjectTetris.Game.TickLog

/-!
# How many lines a tick clears

A full row of the visible part goes away with the next fix, so between two ticks a player
in the game has none, and a fix completes at most the four rows its piece lies in. A tick
has one fix at most. Both are about what a player can do to the others in one tick.
-/

namespace ProjectTetris

open Checked

/-! ## The rows that go -/

/-- The full rows of the visible part, by their index in the board before any is removed. -/
def Board.fullRows (b : Board) : List Nat :=
  (List.range' hiddenHeight boardHeight).filter fun y => ((b.row? y).getD []).all id

/-- Reading a stretch of rows by index. -/
theorem map_getElem?_range' (rows : List (List Bool)) (m : Nat) :
    ∀ n, m + n ≤ rows.length →
      (List.range' m n).map (fun y => (rows[y]?).getD []) = (rows.drop m).take n := by
  intro n
  induction n with
  | zero => intro _; simp
  | succ n ih =>
      intro hn
      have hlt : n < (rows.drop m).length := by rw [List.length_drop]; omega
      rw [List.range'_concat, List.map_append, ih (by omega), List.take_add_one,
        List.getElem?_eq_getElem hlt]
      simp [List.getElem?_eq_getElem (by omega : m + n < rows.length)]

/-- As many indices as there are full rows. -/
theorem Board.fullRows_length (b : Board) :
    b.fullRows.length = ((b.rows.drop hiddenHeight).filter fun r => r.all id).length := by
  have hb := b.height
  have hvisible : (b.rows.drop hiddenHeight).take boardHeight = b.rows.drop hiddenHeight :=
    List.take_of_length_le (by rw [List.length_drop, hb]; decide)
  rw [← hvisible, ← map_getElem?_range' b.rows hiddenHeight boardHeight (by rw [hb]; decide),
    List.filter_map, List.length_map]
  rfl

/-- The rows that go and the rows that stay are the board. -/
theorem keptRows_length (b : Board) :
    b.fullRows.length + (Tetris.keptRows b.rows).length = totalHeight := by
  have hb := b.height
  have hsplit :=
    List.length_eq_countP_add_countP (fun r => r.all id) (l := b.rows.drop hiddenHeight)
  simp only [List.length_drop, hb, List.countP_eq_length_filter, Bool.not_eq_true,
    Bool.decide_eq_false] at hsplit
  rw [b.fullRows_length, Tetris.keptRows, List.length_append, List.length_take, hb]
  have hle : hiddenHeight ≤ totalHeight := by decide
  omega

namespace Tetris

variable {s s' : Tetris} {t : Int}

/-! ## One fix -/

/-- A row that is full once the piece is fixed, and was not before, has a cell of the piece in it.
-/
theorem mem_fullRows_fixed {b fixed : Board} {cells : List Position} (hfull : b.NoFullRow)
    (hcells : ∀ y x, fixed.cell? y x = if ⟨x, y⟩ ∈ cells then some true else b.cell? y x)
    {y : Nat} (hy : y ∈ fixed.fullRows) : y ∈ cells.map fun p => p.y.toNat := by
  obtain ⟨hrange, hall⟩ := List.mem_filter.mp hy
  obtain ⟨hlow, hhigh⟩ := List.mem_range'_1.mp hrange
  have hlt : y < totalHeight := hhigh
  -- a column that was free in this row
  obtain ⟨x, hx, hfree⟩ := hfull y hlow hlt
  have hlt' : y < fixed.rows.length := by rw [fixed.height]; exact hlt
  have hrow : fixed.row? y = some fixed.rows[y] := List.getElem?_eq_getElem hlt'
  have hwidth : fixed.rows[y].length = boardWidth := fixed.width _ (List.getElem_mem hlt')
  have hfilled : fixed.cell? (y : Nat) (x : Nat) = some true := by
    rw [hrow, Option.getD_some] at hall
    rw [Board.cell?_natCast, hrow, Option.bind_some, List.getElem?_eq_getElem (by omega)]
    exact congrArg some (List.all_eq_true.mp hall _ (List.getElem_mem _))
  rw [hcells] at hfilled
  split at hfilled
  · rename_i hmem
    exact List.mem_map.mpr ⟨_, hmem, Int.toNat_natCast y⟩
  · rw [hfree] at hfilled
    exact absurd hfilled (by decide)

theorem fullRows_nodup (b : Board) : b.fullRows.Nodup := (List.nodup_range' ..).filter _

/-- **A fix clears as many rows as the piece is tall, at most.** -/
theorem Settled.cleared_le (h : Settled s t s') (hfull : s.board.NoFullRow) :
    s'.clearedLineCount ≤ s.clearedLineCount + 4 := by
  obtain ⟨fixed, cleared, _, hcells, _, hspec, rfl⟩ := h
  obtain ⟨⟨k, hrows, hk, hcount⟩, _, _⟩ := hspec
  rw [List.take_of_length_le (Nat.le_of_eq fixed.height)] at hk
  have hlen := keptRows_length fixed
  have hsub : fixed.fullRows ⊆ s.currentTetromino.boardPositions.map fun p => p.y.toNat :=
    fun y hy => mem_fullRows_fixed hfull hcells hy
  have hle := (fullRows_nodup fixed).length_le_of_subset hsub
  rw [List.length_map, Tetromino.boardPositions_length] at hle
  have hverdict : cleared.withVerdict.clearedLineCount = cleared.clearedLineCount := by
    unfold withVerdict
    split <;> rfl
  rw [hverdict, hcount]
  dsimp only
  omega

/-! ## A tick -/

/-- One input on: it has fixed the piece at most once, and what it cleared is bounded by that. -/
structure TickBounds (inGame : Prop) (t : Int) (s : Tetris) : Prop where
  inBoard : InBoard s.currentTetromino
  once : FixOnce t s
  fixes : countEvent s.sendTasks .fix ≤ 1
  live : inGame → Live s
  before : hasEvent s.sendTasks .fix = false →
    s.clearedLineCount = 0 ∧ hasEvent s.sendTasks .gameOver = false
  cleared : inGame → s.clearedLineCount ≤ 4

theorem tickBounds_input {inGame : Prop} {m : EventType} (h : TickBounds inGame t s)
    (ho : InputOutcome s m t s') : TickBounds inGame t s' := by
  have hin := inBoard_input h.inBoard ho
  have honce := fixOnce_input h.once ho
  have hlive : inGame → Live s' := fun hg => live_input (h.live hg) ho
  cases ho with
  | idle => exact h
  | moved _ _ _ =>
      refine ⟨hin, honce, ?_, hlive, fun hf => ?_, h.cleared⟩
      · have := h.fixes
        simpa [countEvent, TaskType.eventType] using this
      · have hbefore := h.before (by simpa [TaskType.eventType] using hf)
        exact ⟨hbefore.1, by simpa [TaskType.eventType] using hbefore.2⟩
  | settled q hm ha _ hs =>
      -- a second fix would need an input the first one has disabled
      have hnofix : hasEvent s.sendTasks .fix = false := by
        refine Bool.eq_false_iff.mpr fun hf => ?_
        obtain ⟨hdown, hdrop⟩ := h.once hf
        rcases hm with rfl | rfl
        · exact absurd (hdown.symm.trans ha) (by decide)
        · exact absurd (hdrop.symm.trans ha) (by decide)
      obtain ⟨hzero, hnoover⟩ := h.before hnofix
      refine ⟨hin, honce, ?_, hlive, fun hf => ?_, fun hg => ?_⟩
      · obtain ⟨ys, _, htasks⟩ := hs.tasks
        have hnone : countEvent (ys.map TaskType.clearLine ++
            if s'.board.HiddenEmpty then [] else [.gameOver]) .fix = 0 := by
          rw [countEvent_eq_zero, hasEvent_append, Bool.or_eq_false_iff]
          refine ⟨by simp [hasEvent, TaskType.eventType], ?_⟩
          split <;> simp [TaskType.eventType]
        rw [htasks, List.append_assoc, countEvent_append, hnone, countEvent_append,
          countEvent_eq_zero.mpr hnofix]
        simp [countEvent, TaskType.eventType]
      · rw [hs.hasEvent_fix] at hf
        simp [TaskType.eventType] at hf
      · have hle := hs.cleared_le ((h.live hg).clean hnoover).2
        dsimp only at hle
        omega

/-- **In one tick there is one fix at most, and it clears four lines at most** for a player in the
game. -/
theorem processTick_bounds {inGame : Prop} (hin : InBoard s.currentTetromino)
    (hfresh : s.sendTasks = []) (hcleared : s.clearedLineCount = 0) (hlive : inGame → Live s) :
    Ok (s.processTick t) (TickBounds inGame t) := by
  refine processTick_ok (I := fun _ => TickBounds inGame t) (fun _ _ h => h.inBoard)
    (fun _ _ _ _ h ho => tickBounds_input h ho) ?_
  obtain ⟨moves, inputs, timers, heq⟩ := ready_eq s t
  show TickBounds inGame t (s.ready t)
  rw [heq]
  refine ⟨hin, ?_, ?_, fun hg => ⟨(hlive hg).clean, (hlive hg).free⟩,
    fun _ => ⟨hcleared, ?_⟩, fun _ => ?_⟩
  · intro hf
    dsimp only at hf
    rw [hfresh] at hf
    exact absurd hf (by decide)
  · dsimp only
    rw [hfresh]
    exact Nat.zero_le 1
  · dsimp only
    rw [hfresh]
    rfl
  · dsimp only
    omega

/-! ## The lines a tick begins with -/

theorem countEvent_addLine_input {m : EventType} (ho : InputOutcome s m t s') :
    countEvent s'.sendTasks .addLine = countEvent s.sendTasks .addLine := by
  cases ho with
  | idle => rfl
  | moved _ _ _ => simp [countEvent, TaskType.eventType]
  | settled q _ _ _ hs =>
      obtain ⟨ys, _, htasks⟩ := hs.tasks
      have hnone : countEvent (ys.map TaskType.clearLine ++
          if s'.board.HiddenEmpty then [] else [.gameOver]) .addLine = 0 := by
        rw [countEvent_eq_zero, hasEvent_append, Bool.or_eq_false_iff]
        refine ⟨by simp [hasEvent, TaskType.eventType], ?_⟩
        split <;> simp [TaskType.eventType]
      rw [htasks, List.append_assoc, countEvent_append, hnone]
      simp [countEvent, TaskType.eventType]

/-- **`ProcessTick` asks for one line if the clock says so**, and inserts none. -/
theorem processTick_garbage (hin : InBoard s.currentTetromino) :
    Ok (s.processTick t) fun s' =>
      s'.pendingGarbageLineCount =
        s.pendingGarbageLineCount + (if s.timers.isGarbageLineDue t then 1 else 0) ∧
      countEvent s'.sendTasks .addLine = countEvent s.sendTasks .addLine := by
  refine (processTick_ok (I := fun _ s' => InBoard s'.currentTetromino ∧
    s'.pendingGarbageLineCount =
      s.pendingGarbageLineCount + (if s.timers.isGarbageLineDue t then 1 else 0) ∧
    countEvent s'.sendTasks .addLine = countEvent s.sendTasks .addLine) (fun _ _ h => h.1)
    ?_ ?_).mono fun s' h => h.2
  · rintro n s₁ s₂ m ⟨hin₁, hcount, hlines⟩ ho
    exact ⟨inBoard_input hin₁ ho, (pendingGarbage_input ho).trans hcount,
      (countEvent_addLine_input ho).trans hlines⟩
  · obtain ⟨moves, inputs, timers, heq⟩ := ready_eq s t
    rw [show ((s.addDueGarbageLine t).addDueAutoDown t).mergeInputs = _ from heq]
    exact ⟨hin, rfl, rfl⟩

end Tetris

end ProjectTetris

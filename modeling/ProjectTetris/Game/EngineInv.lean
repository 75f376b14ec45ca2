import ProjectTetris.Game.EngineSpec

/-!
# What every tick keeps

Two invariants, of different strength. `InBoard` of the current piece holds for
every player that is ever ticked, eliminated or not, and is all that the unguarded
writes of `FixTetromino` and the unguarded lift of `AddGarbageLines` need.

`Live` is about players still in the game. It is stated relative to the tasks of
the tick, because inside a tick it is only true of what has not been announced
yet: after a `FIX` the piece overlaps the board until the room spawns the next
one, and after a `GAME_OVER` nothing is promised at all.
-/

namespace ProjectTetris

open Checked

namespace Tetris

/--
What is true of a player whose elimination has not been announced in this tick:
the hidden rows are empty, no visible row is complete, and the piece fits unless
it has been fixed.
-/
structure Live (s : Tetris) : Prop where
  clean : hasEvent s.sendTasks .gameOver = false → s.board.HiddenEmpty ∧ s.board.NoFullRow
  free : hasEvent s.sendTasks .gameOver = false → hasEvent s.sendTasks .fix = false →
    Valid s.board s.currentTetromino

/-- After a fix, no input of the same tick can fix again. -/
def FixOnce (t : Int) (s : Tetris) : Prop :=
  hasEvent s.sendTasks .fix = true → s.timers.NoFixAllowed t

/-! ## Fixing and clearing -/

namespace Settled

variable {s s' : Tetris} {t : Int}

theorem current (h : Settled s t s') : s'.currentTetromino = s.currentTetromino := by
  obtain ⟨fixed, cleared, _, _, _, hc, rfl⟩ := h
  rw [withVerdict_current, hc.rest]

theorem timers (h : Settled s t s') :
    s'.timers = ((s.timers.recordInput .down t).restartAutoDown t).recordInput .drop t := by
  obtain ⟨fixed, cleared, _, _, _, hc, rfl⟩ := h
  rw [withVerdict_timers, hc.rest]

/-- The cleared rows, then the verdict, are all that is recorded. -/
theorem tasks (h : Settled s t s') : ∃ ys : List Nat, ys.length ≤ boardHeight ∧
    s'.sendTasks = s.sendTasks ++ ys.map .clearLine ++
      if s'.board.HiddenEmpty then [] else [.gameOver] := by
  obtain ⟨fixed, cleared, _, _, _, hc, rfl⟩ := h
  rw [withVerdict_sendTasks, withVerdict_board, hc.tasks]
  refine ⟨_, ?_, rfl⟩
  refine Nat.le_trans (List.length_filter_le _ _) ?_
  rw [List.length_range']
  decide

theorem hasEvent_fix (h : Settled s t s') :
    hasEvent s'.sendTasks .fix = hasEvent s.sendTasks .fix := by
  obtain ⟨ys, _, hys⟩ := h.tasks
  have hclear : hasEvent (ys.map TaskType.clearLine) .fix = false := by
    simp [hasEvent, TaskType.eventType]
  rw [hys, hasEvent_append, hasEvent_append, hclear]
  split <;> simp [TaskType.eventType]

theorem hasEvent_gameOver (h : Settled s t s') : hasEvent s'.sendTasks .gameOver = false →
    hasEvent s.sendTasks .gameOver = false ∧ s'.board.HiddenEmpty := by
  obtain ⟨ys, _, hys⟩ := h.tasks
  rw [hys, hasEvent_append, hasEvent_append, Bool.or_eq_false_iff, Bool.or_eq_false_iff]
  rintro ⟨⟨h1, _⟩, h2⟩
  refine ⟨h1, Decidable.byContradiction fun hn => ?_⟩
  rw [if_neg hn] at h2
  exact absurd h2 (by decide)

/--
**Clearing leaves no complete row behind.**

`ClearLine` never looks at the hidden rows, so this needs that they are not
complete themselves: they were empty, and one piece has at most four columns.
-/
theorem noFullRow (h : Settled s t s') (hempty : s.board.HiddenEmpty) : s'.board.NoFullRow := by
  obtain ⟨fixed, cleared, _, hcells, _, hc, rfl⟩ := h
  rw [withVerdict_board]
  refine hc.noFullRow fixed.height fun r hr => ?_
  obtain ⟨y, hy, rfl⟩ := List.getElem_of_mem hr
  rw [List.length_take] at hy
  have hrow : fixed.row? y = some ((fixed.rows.take hiddenHeight)[y]) := by
    rw [List.getElem_take]; exact List.getElem?_eq_getElem _
  refine (Board.row_not_full_iff hrow).mp ?_
  -- a column the piece does not reach
  obtain ⟨x, hx, hfree⟩ : ∃ x < boardWidth,
      ∀ p ∈ s.currentTetromino.boardPositions, p.x ≠ (x : Nat) := by
    have hbox : ∀ p ∈ s.currentTetromino.boardPositions,
        s.currentTetromino.movedPos.x ≤ p.x ∧ p.x ≤ s.currentTetromino.movedPos.x + 3 := by
      intro p hp
      obtain ⟨d, hd, rfl⟩ := List.mem_map.mp hp
      have := s.currentTetromino.defaultPos_box hd
      dsimp only
      omega
    by_cases h0 : 0 < s.currentTetromino.movedPos.x
    · exact ⟨0, by decide, fun p hp => by have := hbox p hp; omega⟩
    · exact ⟨9, by decide, fun p hp => by have := hbox p hp; omega⟩
  refine ⟨x, hx, ?_⟩
  rw [hcells, if_neg fun hmem => hfree _ hmem rfl]
  exact hempty y (by unfold hiddenHeight at hy ⊢; omega) x hx

end Settled

/-! ## One input -/

theorem inBoard_input {s s' : Tetris} {m : EventType} {t : Int} (h : InBoard s.currentTetromino)
    (ho : InputOutcome s m t s') : InBoard s'.currentTetromino := by
  cases ho with
  | idle => exact h
  | moved _ hv _ => exact hv.inBoard
  | settled q _ _ hq hs =>
      rw [hs.current]
      exact hq.inBoard h

theorem live_input {s s' : Tetris} {m : EventType} {t : Int} (h : Live s)
    (ho : InputOutcome s m t s') : Live s' := by
  cases ho with
  | idle => exact h
  | moved hm hv _ =>
      refine ⟨fun hg => h.clean ?_, fun _ _ => hv⟩
      simpa [TaskType.eventType] using hg
  | settled q _ _ _ hs =>
      refine ⟨fun hg => ?_, fun hg hf => ?_⟩
      · obtain ⟨hbefore, hempty⟩ := hs.hasEvent_gameOver hg
        refine ⟨hempty, hs.noFullRow (h.clean ?_).1⟩
        simpa [TaskType.eventType] using hbefore
      · rw [hs.hasEvent_fix] at hf
        simp [TaskType.eventType] at hf

theorem fixOnce_input {s s' : Tetris} {m : EventType} {t : Int} (h : FixOnce t s)
    (ho : InputOutcome s m t s') : FixOnce t s' := by
  cases ho with
  | idle => exact h
  | moved hm _ ha =>
      intro hf
      have hno : s.timers.NoFixAllowed t := h (by simpa [TaskType.eventType] using hf)
      have hd : m ≠ .down := by
        rintro rfl
        rw [hno.1] at ha
        exact absurd ha (by decide)
      rw [movedTimers, if_neg hd]
      refine hno.recordInput ?_
      rcases hm with rfl | rfl | rfl | rfl
      · exact .inl rfl
      · exact .inr (.inl rfl)
      · exact .inr (.inr rfl)
      · exact absurd rfl hd
  | settled q _ _ _ hs =>
      intro _
      rw [hs.timers]
      exact TetrisTimers.noFixAllowed_of_fix _ t

/-! ## One garbage line -/

/--
**The unchecked lift stays on the board.**

With the hidden rows empty the overlap is at row 5 or below, and a piece is at
most four rows tall: its top cell is at row 2 or below.
-/
theorem lift_inBoard {b : Board} {p : Tetromino} (hp : InBoard p) (hempty : b.HiddenEmpty)
    (hv : ¬ Valid b p) : InBoard (p.shift 0 (-1)) := by
  simp only [Valid, Classical.not_forall] at hv
  obtain ⟨c, hc, hne⟩ := hv
  have hrow : (hiddenHeight : Int) ≤ c.y :=
    Int.not_lt.mp fun hlt => hne (hempty.cell (hp c hc) hlt)
  intro q hq
  obtain ⟨d, hd, rfl⟩ := Tetromino.mem_boardPositions_shift.mp hq
  have hheight := p.boardPositions_height hc hd
  have hin := hp d hd
  unfold Board.InRange hiddenHeight at *
  dsimp only
  omega

/-- A piece that was free before the rows moved up is free one row higher. -/
theorem lift_valid {b c : Board} {p : Tetromino} {holeX : Nat} (hv : Valid b p)
    (hc : b.pushGarbage? holeX = some c) (hin : InBoard (p.shift 0 (-1))) :
    Valid c (p.shift 0 (-1)) := by
  intro q hq
  have hrange := hin q hq
  obtain ⟨c, hcell, rfl⟩ := Tetromino.mem_boardPositions_shift.mp hq
  have hrow := (Board.inRange_of_cell? (hv c hcell)).2.1
  dsimp only at hrange ⊢
  rw [Board.cell?_pushGarbage? hc hrange.1 (by omega), Int.add_zero,
    show c.y + -1 + 1 = c.y by omega]
  exact hv c hcell

theorem inBoard_garbage {s s' : Tetris} {holeX : Nat} {goOn : Bool}
    (h : InBoard s.currentTetromino) (ho : GarbageOutcome s holeX s' goOn) :
    InBoard s'.currentTetromino := by
  cases ho with
  | toppedOut => exact h
  | fits => exact h
  | lifted b _ hempty hv => exact lift_inBoard h hempty hv

theorem live_garbage {s s' : Tetris} {holeX : Nat} {goOn : Bool} (hin : InBoard s.currentTetromino)
    (h : Live s) (ho : GarbageOutcome s holeX s' goOn) : Live s' := by
  cases ho with
  | toppedOut b hb hover =>
      constructor <;> intro hg <;> simp [TaskType.eventType] at hg
  | fits b hb hempty hv =>
      refine ⟨fun hg => ⟨hempty, ?_⟩, fun _ _ => hv⟩
      exact (h.clean (by simpa [TaskType.eventType] using hg)).2.pushGarbage hb
  | lifted b hb hempty hv =>
      refine ⟨fun hg => ⟨hempty, ?_⟩, fun hg hf => ?_⟩
      · exact (h.clean (by simpa [TaskType.eventType] using hg)).2.pushGarbage hb
      · exact lift_valid (h.free (by simpa [TaskType.eventType] using hg)
          (by simpa [TaskType.eventType] using hf)) hb (lift_inBoard hin hempty hv)

/-! ## Whole ticks -/

/-- The state in which the inputs of a tick are handled. -/
def ready (s : Tetris) (t : Int) : Tetris :=
  ((s.addDueGarbageLine t).addDueAutoDown t).mergeInputs

theorem addDueGarbageLine_eq (s : Tetris) (t : Int) : ∃ timers, s.addDueGarbageLine t = { s with
    timers := timers
    pendingGarbageLineCount := s.pendingGarbageLineCount +
      if s.timers.isGarbageLineDue t then 1 else 0 } := by
  unfold addDueGarbageLine
  split
  · exact ⟨_, rfl⟩
  · exact ⟨_, rfl⟩

theorem addDueAutoDown_eq (s : Tetris) (t : Int) : ∃ inputs timers, s.addDueAutoDown t = { s with
    inputTasks := inputs
    timers := timers } := by
  unfold addDueAutoDown
  split
  · exact ⟨_, _, rfl⟩
  · exact ⟨_, _, rfl⟩

/-- What comes before the inputs: merging them, restarting the timers, and a line that is due. -/
theorem ready_eq (s : Tetris) (t : Int) : ∃ moves inputs timers, s.ready t = { s with
    pendingMoves := moves
    inputTasks := inputs
    timers := timers
    pendingGarbageLineCount := s.pendingGarbageLineCount +
      if s.timers.isGarbageLineDue t then 1 else 0 } := by
  obtain ⟨timers, hgarbage⟩ := s.addDueGarbageLine_eq t
  obtain ⟨inputs, timers', hdown⟩ := (s.addDueGarbageLine t).addDueAutoDown_eq t
  rw [ready, hdown, hgarbage]
  exact ⟨_, _, _, rfl⟩

/-- **`ProcessTick` stays on the board**, and keeps what each of its five inputs keeps. -/
theorem processTick_ok {I : Nat → Tetris → Prop} {t : Int}
    (hin : ∀ n s, I n s → InBoard s.currentTetromino)
    (hstep : ∀ n s s' m, I n s → InputOutcome s m t s' → I (n + 1) s') {s : Tetris}
    (h : I 0 (((s.addDueGarbageLine t).addDueAutoDown t).mergeInputs)) :
    Ok (s.processTick t) (I inputTypeCount) := by
  have hloop : Ok (s.processTick t) (I (0 + inputOrder.length)) :=
    Ok.foldlM_indexed h fun n s' m _ hs' =>
      (processInput_ok m t (hin n s' hs')).mono fun _ ho => hstep n s' _ m hs' ho
  exact hloop

end Tetris

end ProjectTetris

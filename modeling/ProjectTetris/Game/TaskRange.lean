import ProjectTetris.Game.TickLog

/-!
# The numbers in a log

Every number the engine writes into a task is a place on the board, or close to it: the
corner of a piece that is fixed lies at most three cells outside, as its cells lie inside.
-/

namespace ProjectTetris

open Checked

/-- The numbers of a task are within these bounds, whatever the game looks like. -/
def TaskType.InRange : TaskType → Prop
  | .fix x y => -3 ≤ x ∧ x < boardWidth ∧ -3 ≤ y ∧ y < totalHeight
  | .clearLine y => y < totalHeight
  | .addLine holeX => holeX < boardWidth
  | _ => True

namespace Tetris

variable {s s' : Tetris} {t : Int}

/-- The tasks of the tick so far, and the piece the next one may be about. -/
structure LogInRange (s : Tetris) : Prop where
  inBoard : InBoard s.currentTetromino
  tasks : ∀ task ∈ s.sendTasks, task.InRange

/-- A piece on the board is fixed close to it. -/
theorem fix_inRange {q : Tetromino} (h : InBoard q) :
    (TaskType.fix q.movedPos.x q.movedPos.y).InRange := by
  obtain ⟨pos, hpos⟩ :=
    List.exists_mem_of_length_pos (Nat.lt_of_lt_of_eq (by decide) q.boardPositions_length.symm)
  have hin := h pos hpos
  rw [Tetromino.boardPositions, List.mem_map] at hpos
  obtain ⟨d, hd, rfl⟩ := hpos
  have hbox := q.defaultPos_box hd
  simp only [Board.InRange] at hin
  simp only [TaskType.InRange]
  omega

theorem addLine_inRange {b c : Board} {holeX : Nat} (h : b.pushGarbage? holeX = some c) :
    (TaskType.addLine holeX).InRange := by
  unfold Board.pushGarbage? at h
  split at h
  next hx => exact hx
  next => cases h

/-- Fixing a piece records full rows of the board, and perhaps that the game is over. -/
theorem settled_inRange (h : Settled s t s') (hs : ∀ task ∈ s.sendTasks, task.InRange) :
    ∀ task ∈ s'.sendTasks, task.InRange := by
  obtain ⟨fixed, cleared, _, _, _, hcleared, rfl⟩ := h
  have hrows : ∀ task ∈ cleared.sendTasks, task.InRange := by
    intro task ht
    rw [hcleared.tasks] at ht
    rcases List.mem_append.mp ht with hold | hnew
    · exact hs task hold
    · obtain ⟨y, hy, rfl⟩ := List.mem_map.mp hnew
      obtain ⟨_, hlt⟩ := List.mem_range'_1.mp (List.mem_filter.mp hy).1
      simp only [TaskType.InRange]
      simp only [hiddenHeight, totalHeight] at hlt ⊢
      omega
  intro task ht
  rw [withVerdict_sendTasks] at ht
  rcases List.mem_append.mp ht with hrow | hover
  · exact hrows task hrow
  · split at hover
    · cases hover
    · rw [List.mem_singleton.mp hover]
      trivial

theorem logInRange_input {m : EventType} (h : LogInRange s) (ho : InputOutcome s m t s') :
    LogInRange s' := by
  refine ⟨inBoard_input h.inBoard ho, ?_⟩
  cases ho with
  | idle => exact h.tasks
  | moved =>
      intro task ht
      rcases List.mem_append.mp ht with hold | hnew
      · exact h.tasks task hold
      · rw [List.mem_singleton.mp hnew]
        trivial
  | settled q _ _ hq hs =>
      refine settled_inRange hs fun task ht => ?_
      rcases List.mem_append.mp ht with hold | hnew
      · exact h.tasks task hold
      · rw [List.mem_singleton.mp hnew]
        exact fix_inRange (hq.inBoard h.inBoard)

/-- **`ProcessTick` keeps the log in range.** -/
theorem processTick_inRange (h : LogInRange s) : Ok (s.processTick t) LogInRange := by
  refine processTick_ok (I := fun _ => LogInRange) (fun _ _ h => h.inBoard)
    (fun _ _ _ _ h ho => logInRange_input h ho) ?_
  obtain ⟨moves, inputs, timers, heq⟩ := ready_eq s t
  rw [show ((s.addDueGarbageLine t).addDueAutoDown t).mergeInputs = _ from heq]
  exact ⟨h.inBoard, h.tasks⟩

theorem logInRange_garbage {holeX : Nat} {goOn : Bool} (h : LogInRange s)
    (ho : GarbageOutcome s holeX s' goOn) :
    LogInRange s' := by
  refine ⟨inBoard_garbage h.inBoard ho, ?_⟩
  obtain ⟨rest, htasks, hline, hrest⟩ : ∃ rest, s'.sendTasks =
      s.sendTasks ++ .addLine holeX :: rest ∧
      (TaskType.addLine holeX).InRange ∧ ∀ task ∈ rest, task.InRange := by
    cases ho with
    | toppedOut b hb _ => exact ⟨[.gameOver], rfl, addLine_inRange hb, by simp [TaskType.InRange]⟩
    | fits b hb _ _ => exact ⟨[], rfl, addLine_inRange hb, by simp⟩
    | lifted b hb _ _ => exact ⟨[.move .up], rfl, addLine_inRange hb, by simp [TaskType.InRange]⟩
  intro task ht
  rw [htasks] at ht
  rcases List.mem_append.mp ht with hold | hnew
  · exact h.tasks task hold
  · rcases List.mem_cons.mp hnew with rfl | hmem
    · exact hline
    · exact hrest task hmem

/-- **So does `AddGarbageLines`.** -/
theorem addGarbageLines_inRange (h : LogInRange s) (holes : Nat → Fin boardWidth) :
    Ok (s.addGarbageLines holes) LogInRange :=
  (addGarbageLines_ok (I := fun _ => LogInRange)
    (fun _ _ _ _ _ h ho => logInRange_garbage h ho) h holes).mono fun _ ⟨_, _, hlog⟩ => hlog

end Tetris

end ProjectTetris

import ProjectTetris.Game.Gravity

/-!
# The inputs of a tick are a set

`ProcessTick` merges the inputs it has received before it handles any of them: of a queue,
only which inputs are in it counts. The queue itself is carried along, untouched, until
`ResetTickData` empties it.
-/

namespace ProjectTetris

open Checked

namespace Tetris

/-- The engine without its queue. -/
def unqueued (s : Tetris) : Tetris := { s with inputTasks := [] }

@[simp] theorem unqueued_unqueued (s : Tetris) : s.unqueued.unqueued = s.unqueued := rfl

/-! ## Nothing reads the queue -/

theorem clearLineAt_unqueued (s : Tetris) (y : Nat) :
    clearLineAt s.unqueued y = (clearLineAt s y).map unqueued := by
  unfold clearLineAt
  rw [show s.unqueued.board = s.board from rfl]
  cases s.board.row? y with
  | none => rfl
  | some row =>
      dsimp only [Option.bind_eq_bind, Option.bind_some]
      split
      · cases s.board.clearRow? y <;> rfl
      · rfl

theorem clearLine_unqueued (s : Tetris) : clearLine s.unqueued = (clearLine s).map unqueued :=
  foldlM_commutes clearLineAt_unqueued _ s

theorem checkGameOver_unqueued (s : Tetris) :
    checkGameOver s.unqueued = (checkGameOver s).map fun x => (x.1.unqueued, x.2) := by
  unfold checkGameOver
  rw [show s.unqueued.board = s.board from rfl]
  cases isGameOver s.board with
  | none => rfl
  | some isOver => cases isOver <;> rfl

theorem fixTetromino_unqueued (s : Tetris) :
    fixTetromino s.unqueued = (fixTetromino s).map unqueued := by
  unfold fixTetromino
  rw [show fixCells s.unqueued.board s.unqueued.currentTetromino.boardPositions =
    fixCells s.board s.currentTetromino.boardPositions from rfl]
  cases fixCells s.board s.currentTetromino.boardPositions <;> rfl

theorem settle_unqueued (s : Tetris) (t : Int) :
    s.unqueued.settle t = (s.settle t).map unqueued := by
  unfold settle
  rw [fixTetromino_unqueued]
  cases s.fixTetromino with
  | none => rfl
  | some s =>
      dsimp only [Option.map_some, Option.bind_eq_bind, Option.bind_some]
      let s' : Tetris := { s with
        timers := ((s.timers.recordInput .down t).restartAutoDown t).recordInput .drop t }
      show (clearLine s'.unqueued).bind _ = Option.map unqueued ((clearLine s').bind _)
      rw [clearLine_unqueued]
      cases clearLine s' with
      | none => rfl
      | some s =>
          dsimp only [Option.map_some, Option.bind_some]
          rw [checkGameOver_unqueued]
          cases checkGameOver s <;> rfl

theorem tryMove_unqueued (s : Tetris) (moveType : EventType) (candidate : Tetromino) (t : Int) :
    s.unqueued.tryMove moveType candidate t =
      (s.tryMove moveType candidate t).map fun x => (x.1.unqueued, x.2) := by
  unfold tryMove
  rw [show s.unqueued.board = s.board from rfl]
  cases isValidPosition s.board candidate with
  | none => rfl
  | some valid => cases valid <;> rfl

theorem moveDown_unqueued (s : Tetris) (t : Int) :
    s.unqueued.moveDown t = (s.moveDown t).map fun x => (x.1.unqueued, x.2) := by
  unfold moveDown
  rw [show s.unqueued.board = s.board from rfl,
    show s.unqueued.currentTetromino = s.currentTetromino from rfl]
  dsimp only
  cases isValidPosition s.board (s.currentTetromino.shift 0 1) with
  | none => rfl
  | some valid => cases valid <;> rfl

theorem moveDrop_unqueued (s : Tetris) (t : Int) :
    s.unqueued.moveDrop t = (s.moveDrop t).map fun x => (x.1.unqueued, x.2) := by
  unfold moveDrop
  rw [show s.unqueued.board = s.board from rfl,
    show s.unqueued.currentTetromino = s.currentTetromino from rfl]
  cases dropLoop s.board dropFuel s.currentTetromino s.currentTetromino <;> rfl

theorem processMoveInput_unqueued (s : Tetris) (moveType : EventType) (t : Int) :
    s.unqueued.processMoveInput moveType t =
      (s.processMoveInput moveType t).map fun x => (x.1.unqueued, x.2) := by
  unfold processMoveInput
  rw [show s.unqueued.timers = s.timers from rfl,
    show s.unqueued.currentTetromino = s.currentTetromino from rfl]
  split
  · cases moveType with
    | right | left | rotate => exact tryMove_unqueued s _ _ t
    | down => exact moveDown_unqueued s t
    | drop => exact moveDrop_unqueued s t
    | _ => rfl
  · rfl

theorem processInput_unqueued (t : Int) (s : Tetris) (m : EventType) :
    processInput t s.unqueued m = (processInput t s m).map unqueued := by
  unfold processInput
  split
  · rw [show s.unqueued.pendingMoves = s.pendingMoves from rfl]
    split
    · rw [processMoveInput_unqueued]
      cases s.processMoveInput m t with
      | none => rfl
      | some x =>
          obtain ⟨s', result⟩ := x
          dsimp only [Option.map_some, Option.bind_eq_bind, Option.bind_some]
          split
          · exact settle_unqueued s' t
          · rfl
    · rfl
  · rfl

theorem addGarbageLine_unqueued (s : Tetris) (holeX : Nat) :
    s.unqueued.addGarbageLine holeX = (s.addGarbageLine holeX).map fun x =>
    (x.1.unqueued, x.2) := by
  unfold addGarbageLine
  rw [show s.unqueued.board = s.board from rfl]
  cases s.board.pushGarbage? holeX with
  | none => rfl
  | some b =>
      dsimp only [Option.bind_eq_bind, Option.bind_some]
      let s' : Tetris :=
        { s with board := b, sendTasks := s.sendTasks ++ [TaskType.addLine holeX] }
      show (checkGameOver s'.unqueued).bind _ = Option.map _ ((checkGameOver s').bind _)
      rw [checkGameOver_unqueued]
      cases checkGameOver s' with
      | none => rfl
      | some x =>
          obtain ⟨s'', isOver⟩ := x
          dsimp only [Option.map_some, Option.bind_some]
          cases isOver with
          | true => rfl
          | false =>
              rw [if_neg Bool.false_ne_true, if_neg Bool.false_ne_true]
              rw [show s''.unqueued.board = s''.board from rfl,
                show s''.unqueued.currentTetromino = s''.currentTetromino from rfl]
              cases isValidPosition s''.board s''.currentTetromino with
              | none => rfl
              | some valid => cases valid <;> rfl

theorem addGarbageLoop_unqueued : ∀ (l : List Nat) (s : Tetris),
    s.unqueued.addGarbageLoop l = (s.addGarbageLoop l).map unqueued := by
  intro l
  induction l with
  | nil => exact fun s => rfl
  | cons holeX rest ih =>
      intro s
      rw [addGarbageLoop, addGarbageLoop, addGarbageLine_unqueued]
      cases s.addGarbageLine holeX with
      | none => rfl
      | some x =>
          obtain ⟨s', goOn⟩ := x
          dsimp only [Option.map_some, Option.bind_eq_bind, Option.bind_some]
          split
          · exact ih s'
          · rfl

theorem addGarbageLines_unqueued (s : Tetris) (holes : Nat → Fin boardWidth) :
    s.unqueued.addGarbageLines holes = (s.addGarbageLines holes).map unqueued :=
  addGarbageLoop_unqueued _ s

/-! ## Two queues with the same inputs -/

/-- The two queues ask for the same inputs. What is no input does not count. -/
def SameInputs (l₁ l₂ : List Int) : Prop :=
  ∀ i : Fin inputTypeCount, (i : Int) ∈ l₁ ↔ (i : Int) ∈ l₂

theorem foldl_mergeInput_congr {l₁ l₂ : List Int} (h : SameInputs l₁ l₂)
    (pending : Fin inputTypeCount → Bool) :
    l₁.foldl mergeInput pending = l₂.foldl mergeInput pending := by
  funext i
  rw [Bool.eq_iff_iff, foldl_mergeInput, foldl_mergeInput, h i]

theorem SameInputs.append {l₁ l₂ : List Int} (h : SameInputs l₁ l₂) (l : List Int) :
    SameInputs (l₁ ++ l) (l₂ ++ l) := by
  intro i
  rw [List.mem_append, List.mem_append, h i]

/-- Up to the queue, the engine is ready for the same things. -/
theorem ready_sameInputs (s : Tetris) (t : Int) {l₁ l₂ : List Int} (h : SameInputs l₁ l₂) :
    (ready { s with inputTasks := l₁ } t).unqueued =
      (ready { s with inputTasks := l₂ } t).unqueued := by
  unfold ready addDueGarbageLine addDueAutoDown mergeInputs
  dsimp only
  split
  · split
    · simp only [unqueued, foldl_mergeInput_congr (h.append _)]
    · simp only [unqueued, foldl_mergeInput_congr h]
  · split
    · simp only [unqueued, foldl_mergeInput_congr (h.append _)]
    · simp only [unqueued, foldl_mergeInput_congr h]

/-- **`ProcessTick` does the same for two queues that ask for the same inputs.** -/
theorem processTick_sameInputs (s : Tetris) (t : Int) {l₁ l₂ : List Int} (h : SameInputs l₁ l₂) :
    (processTick { s with inputTasks := l₁ } t).map unqueued =
      (processTick { s with inputTasks := l₂ } t).map unqueued := by
  have hloop : ∀ s : Tetris, (inputOrder.foldlM (processInput t) s).map unqueued =
      inputOrder.foldlM (processInput t) s.unqueued := fun s =>
    (foldlM_commutes (processInput_unqueued t) inputOrder s).symm
  rw [show processTick { s with inputTasks := l₁ } t = inputOrder.foldlM (processInput t)
      (ready { s with inputTasks := l₁ } t) from rfl,
    show processTick { s with inputTasks := l₂ } t = inputOrder.foldlM (processInput t)
      (ready { s with inputTasks := l₂ } t) from rfl, hloop, hloop, ready_sameInputs s t h]

end Tetris

end ProjectTetris

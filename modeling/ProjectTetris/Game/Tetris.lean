import ProjectTetris.Game.Board
import ProjectTetris.Game.TaskType

/-!
# The engine

`Tetris.cpp`, function by function. The board accesses are the checked ones of
`Board`, so every function that touches the board lives in `Option`; `none`
means an index outside the array, and nothing else. The steady clock and the
random holes of `GenerateRandomGarbageHole` are arguments.

`ProcessTick` handles the inputs of a tick in the order `DROP`, `DOWN`,
`ROTATE`, `LEFT`, `RIGHT`, and it does not stop when one of them fixes the piece:
the piece keeps being moved until the room spawns the next one.
-/

namespace ProjectTetris

/-- `Tetris`: one player's board, piece and the bookkeeping of the current tick. -/
structure Tetris where
  board : Board
  /-- `pending_moves_`: which inputs the tick will handle, repetitions merged. -/
  pendingMoves : Fin inputTypeCount → Bool
  /-- `input_tasks_`: the underlying values of the events received, unchecked. -/
  inputTasks : List Int
  sendTasks : List TaskType
  currentTetromino : Tetromino
  timers : TetrisTimers
  pendingGarbageLineCount : Nat
  clearedLineCount : Nat

namespace Tetris

/-! ## Positions -/

/-- The loop of `IsValidPosition` over the four cells: range first, then the board. -/
def isValidCells (b : Board) : List Position → Option Bool
  | [] => some true
  | pos :: rest =>
      if pos.x < 0 ∨ pos.x > (boardWidth : Int) - 1 then some false
      else if pos.y < 0 ∨ pos.y > (totalHeight : Int) - 1 then some false
      else do
        if ← b.cell? pos.y pos.x then some false else isValidCells b rest

def isValidPosition (b : Board) (t : Tetromino) : Option Bool := isValidCells b t.boardPositions

/-- All four cells are inside the board and free. -/
def Valid (b : Board) (t : Tetromino) : Prop :=
  ∀ p ∈ t.boardPositions, b.cell? p.y p.x = some false

instance (b : Board) (t : Tetromino) : Decidable (Valid b t) := by unfold Valid; infer_instance

/-- All four cells are inside the board. -/
def InBoard (t : Tetromino) : Prop := ∀ p ∈ t.boardPositions, Board.InRange p.y p.x

instance (t : Tetromino) : Decidable (InBoard t) := by unfold InBoard; infer_instance

/-- The writes of `FixTetromino`, one cell after the other, none of them guarded. -/
def fixCells (b : Board) : List Position → Option Board
  | [] => some b
  | pos :: rest => do fixCells (← b.fill? pos.y pos.x) rest

def fixTetromino (s : Tetris) : Option Tetris := do
  some { s with board := ← fixCells s.board s.currentTetromino.boardPositions }

/-! ## Lines -/

/-- One turn of `ClearLine`'s loop, for row `y`. -/
def clearLineAt (s : Tetris) (y : Nat) : Option Tetris := do
  if (← s.board.row? y).all id then
    some { s with
      board := ← s.board.clearRow? y
      sendTasks := s.sendTasks ++ [.clearLine y]
      clearedLineCount := s.clearedLineCount + 1 }
  else some s

/-- `ClearLine`: the visible rows, top to bottom. -/
def clearLine (s : Tetris) : Option Tetris :=
  (List.range' hiddenHeight boardHeight).foldlM clearLineAt s

/-- `CheckGameOver`'s verdict: some hidden cell is filled. -/
def isGameOver (b : Board) : Option Bool := do
  let cells ← (List.range boardWidth).mapM fun x =>
    (List.range hiddenHeight).mapM fun y => b.cell? (y : Nat) (x : Nat)
  some (cells.any fun column => column.any id)

/-- `CheckGameOver`: the verdict, and a `GAME_OVER` task when it is positive. -/
def checkGameOver (s : Tetris) : Option (Tetris × Bool) := do
  if ← isGameOver s.board then some ({ s with sendTasks := s.sendTasks ++ [.gameOver] }, true)
  else some (s, false)

/--
One turn of `AddGarbageLines`' loop, and whether the loop goes on.

A piece the rising board now overlaps is lifted by one row, without a check.
-/
def addGarbageLine (s : Tetris) (holeX : Nat) : Option (Tetris × Bool) := do
  let s := { s with
    board := ← s.board.pushGarbage? holeX
    sendTasks := s.sendTasks ++ [TaskType.addLine holeX] }
  let (s, isOver) ← s.checkGameOver
  if isOver then some (s, false)
  else if ← isValidPosition s.board s.currentTetromino then some (s, true)
  else
    some ({ s with
      currentTetromino := s.currentTetromino.shift 0 (-1)
      sendTasks := s.sendTasks ++ [TaskType.move .up] }, true)

/-- `AddGarbageLines`' loop, over the holes the generator will return. -/
def addGarbageLoop (s : Tetris) : List Nat → Option Tetris
  | [] => some s
  | holeX :: rest => do
      let (s, goOn) ← s.addGarbageLine holeX
      if goOn then s.addGarbageLoop rest else some s

/-- `AddGarbageLines`: `pending_garbage_line_count_` lines, `holes i` the hole of line `i`. -/
def addGarbageLines (s : Tetris) (holes : Nat → Fin boardWidth) : Option Tetris :=
  s.addGarbageLoop ((List.range s.pendingGarbageLineCount).map fun i => (holes i : Nat))

/-! ## Inputs -/

/-- `RIGHT`, `LEFT` and `ROTATE`: take the candidate if it fits, else nothing. -/
def tryMove (s : Tetris) (moveType : EventType) (candidate : Tetromino) (t : Int) :
    Option (Tetris × EventType) := do
  if ← isValidPosition s.board candidate then
    some ({ s with
      currentTetromino := candidate
      sendTasks := s.sendTasks ++ [.move moveType]
      timers := s.timers.recordInput moveType t }, moveType)
  else some (s, .none)

/-- The task `DOWN` and `DROP` record when the piece can go no further. -/
def fixTask (s : Tetris) : TaskType :=
  .fix s.currentTetromino.movedPos.x s.currentTetromino.movedPos.y

/-- `DOWN`: one row down, or the piece is to be fixed where it is. -/
def moveDown (s : Tetris) (t : Int) : Option (Tetris × EventType) := do
  let candidate := s.currentTetromino.shift 0 1
  if ← isValidPosition s.board candidate then
    some ({ s with
      currentTetromino := candidate
      sendTasks := s.sendTasks ++ [.move .down]
      timers := (s.timers.recordInput .down t).restartAutoDown t }, .down)
  else some ({ s with sendTasks := s.sendTasks ++ [s.fixTask] }, .fix)

/--
`DROP`'s `while (true)`: `candidate` is the next position to try.

The fuel bounds the turns; running out of it would be the loop not ending.
-/
def dropLoop (b : Board) : Nat → Tetromino → Tetromino → Option Tetromino
  | 0, _, _ => none
  | fuel + 1, current, candidate => do
      if ← isValidPosition b candidate then dropLoop b fuel candidate (candidate.shift 0 1)
      else some current

/-- More turns than there are rows a valid piece can occupy. -/
def dropFuel : Nat := totalHeight + 5

/-- `DROP`: down until the next row does not fit, and fixed there. -/
def moveDrop (s : Tetris) (t : Int) : Option (Tetris × EventType) := do
  let s := { s with
    currentTetromino := ← dropLoop s.board dropFuel s.currentTetromino s.currentTetromino }
  some ({ s with
    sendTasks := s.sendTasks ++ [s.fixTask]
    timers := s.timers.recordInput .drop t }, .fix)

def processMoveInput (s : Tetris) (moveType : EventType) (t : Int) : Option (Tetris × EventType) :=
  if s.timers.isInputAllowed moveType t then
    match moveType with
    | .right => s.tryMove .right (s.currentTetromino.shift 1 0) t
    | .left => s.tryMove .left (s.currentTetromino.shift (-1) 0) t
    | .down => s.moveDown t
    | .rotate => s.tryMove .rotate s.currentTetromino.rotated t
    | .drop => s.moveDrop t
    | _ => some (s, .none)
  else some (s, .none)

/-! ## The tick -/

/-- What `ProcessTick` does when an input fixed the piece. -/
def settle (s : Tetris) (t : Int) : Option Tetris := do
  let s ← s.fixTetromino
  let s := { s with
    timers := ((s.timers.recordInput .down t).restartAutoDown t).recordInput .drop t }
  let s ← s.clearLine
  -- the verdict is not used here: the room applies the task later
  let (s, _) ← s.checkGameOver
  some s

/-- One turn of `ProcessTick`'s loop over the inputs. -/
def processInput (t : Int) (s : Tetris) (moveType : EventType) : Option Tetris :=
  if h : 0 ≤ moveType.toInt ∧ moveType.toInt < inputTypeCount then
    if s.pendingMoves ⟨moveType.toInt.toNat, by omega⟩ then do
      let (s, result) ← s.processMoveInput moveType t
      if result = .fix then s.settle t else some s
    else some s
  else some s

/-- A line is due every `GARBAGE_LINE_TIMEOUT_MS`. -/
def addDueGarbageLine (s : Tetris) (t : Int) : Tetris :=
  if s.timers.isGarbageLineDue t then
    { s with
      timers := s.timers.restartGarbageLine t
      pendingGarbageLineCount := s.pendingGarbageLineCount + 1 }
  else s

/-- The automatic `DOWN` joins the inputs of the tick. -/
def addDueAutoDown (s : Tetris) (t : Int) : Tetris :=
  if s.timers.isAutoDownDue t then
    { s with
      timers := s.timers.restartAutoDown t
      inputTasks := s.inputTasks ++ [EventType.down.toInt] }
  else s

/-- Merge one received event into `pending_moves_`; a value that is no input is dropped. -/
def mergeInput (pending : Fin inputTypeCount → Bool) (type : Int) : Fin inputTypeCount → Bool :=
  fun i => if (i : Int) = type then true else pending i

def mergeInputs (s : Tetris) : Tetris :=
  { s with pendingMoves := s.inputTasks.foldl mergeInput s.pendingMoves }

def processTick (s : Tetris) (t : Int) : Option Tetris :=
  inputOrder.foldlM (processInput t) (((s.addDueGarbageLine t).addDueAutoDown t).mergeInputs)

/-! ## Setting up and clearing -/

def initNewTetromino (s : Tetris) (type : TetrominoType) (spawnPos : Position) : Tetris :=
  { s with currentTetromino := .spawn type spawnPos }

def resetTetrominoPosition (s : Tetris) (spawnPos : Position) : Tetris :=
  { s with currentTetromino := { s.currentTetromino with movedPos := spawnPos } }

/-- `Clear`: the board, the merged inputs and the timers; nothing else. -/
def clear (s : Tetris) (now : Int) : Tetris :=
  { s with board := .empty, pendingMoves := fun _ => false, timers := .reset now }

def resetTickData (s : Tetris) : Tetris :=
  { s with
    pendingMoves := fun _ => false
    inputTasks := []
    sendTasks := []
    pendingGarbageLineCount := 0
    clearedLineCount := 0 }

def addPendingGarbageLines (s : Tetris) (val : Nat) : Tetris :=
  { s with pendingGarbageLineCount := s.pendingGarbageLineCount + val }

/--
`Tetris()`. The source leaves `current_tetromino_` uninitialised here; no function
reads it before `InitNewTetromino` has written it, and the model starts it at `I`.
-/
def init (now : Int) : Tetris where
  board := .empty
  pendingMoves := fun _ => false
  inputTasks := []
  sendTasks := []
  currentTetromino := .spawn .I ⟨0, 0⟩
  timers := .reset now
  pendingGarbageLineCount := 0
  clearedLineCount := 0

end Tetris

end ProjectTetris

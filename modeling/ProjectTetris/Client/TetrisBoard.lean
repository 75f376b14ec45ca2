import ProjectTetris.Game.Tetromino
import ProjectTetris.Net.S2CType

/-!
# The client's board

The second implementation of the game: `tetromino.py`, `tetris_board.py` and the packet
handler of `tetris_session.py`. It has tables of its own and no rules; it does what the
packets of a tick say, in their order.

`none` is an exception. Python counts a negative index from the end of the list, so a
wrong coordinate is not always an error there.
-/

namespace ProjectTetris

namespace Client

def boardCols : Nat := 10
def boardRows : Nat := 25

/-- The keys of `SHAPES`, and `'G'` for garbage, which has no shape. -/
inductive ShapeKey where
  | I | J | L | O | S | T | Z | G
  deriving DecidableEq, Repr

private def shapeOf (ps : List (Int × Int)) : List Position := ps.map fun p => ⟨p.1, p.2⟩

/-- `SHAPES[key]`: the rotations of a shape. -/
def shapes : ShapeKey → Option (List (List Position))
  | .I => some
      [shapeOf [(0,1), (1,1), (2,1), (3,1)],
       shapeOf [(2,0), (2,1), (2,2), (2,3)]]
  | .J => some
      [shapeOf [(0,0), (0,1), (1,1), (2,1)],
       shapeOf [(1,0), (2,0), (1,1), (1,2)],
       shapeOf [(0,1), (1,1), (2,1), (2,2)],
       shapeOf [(1,0), (1,1), (0,2), (1,2)]]
  | .L => some
      [shapeOf [(2,0), (0,1), (1,1), (2,1)],
       shapeOf [(1,0), (1,1), (1,2), (2,2)],
       shapeOf [(0,1), (1,1), (2,1), (0,2)],
       shapeOf [(0,0), (1,0), (1,1), (1,2)]]
  | .O => some
      [shapeOf [(1,0), (2,0), (1,1), (2,1)]]
  | .S => some
      [shapeOf [(1,1), (2,1), (0,2), (1,2)],
       shapeOf [(1,0), (1,1), (2,1), (2,2)]]
  | .T => some
      [shapeOf [(1,0), (0,1), (1,1), (2,1)],
       shapeOf [(1,0), (1,1), (2,1), (1,2)],
       shapeOf [(0,1), (1,1), (2,1), (1,2)],
       shapeOf [(1,0), (0,1), (1,1), (1,2)]]
  | .Z => some
      [shapeOf [(0,1), (1,1), (1,2), (2,2)],
       shapeOf [(2,0), (1,1), (2,1), (1,2)]]
  | .G => none

/-- `SHAPES_INDEX[i]`. -/
def shapesIndex : Nat → Option ShapeKey
  | 0 => some .I
  | 1 => some .J
  | 2 => some .L
  | 3 => some .O
  | 4 => some .S
  | 5 => some .T
  | 6 => some .Z
  | 7 => some .G
  | _ => none

/-- The position `l[i]` refers to, in a list of this length. -/
def pyIndex (length : Nat) (i : Int) : Option Nat :=
  if 0 ≤ i ∧ i < length then some i.toNat
  else if -length ≤ i ∧ i < 0 then some (i + length).toNat
  else none

theorem pyIndex_natCast {length i : Nat} (h : i < length) : pyIndex length i = some i := by
  rw [pyIndex, if_pos (by omega), Int.toNat_natCast]

theorem pyIndex_of_nonneg {length : Nat} {i : Int} (h : 0 ≤ i) (hi : i < length) :
    pyIndex length i = some i.toNat := by
  rw [pyIndex, if_pos ⟨h, hi⟩]

/-! ## The piece -/

structure Tetromino where
  shapeKey : ShapeKey
  x : Int
  y : Int
  rotation : Int
  deriving DecidableEq, Repr

namespace Tetromino

/-- `blocks`: the absolute cells. -/
def blocks (t : Tetromino) : Option (List Position) := do
  let rotations ← shapes t.shapeKey
  let shape ← rotations[← pyIndex rotations.length t.rotation]?
  some (shape.map fun c => ⟨t.x + c.x, t.y + c.y⟩)

def rotated (t : Tetromino) (delta : Int) : Option Tetromino := do
  let rotations ← shapes t.shapeKey
  some { t with rotation := (t.rotation + delta) % rotations.length }

end Tetromino

/-! ## The board -/

/-- A row of `None`. -/
def emptyRow : List (Option ShapeKey) := List.replicate boardCols none

/-- `grid`, as `__init__` and `_clear_board` leave it. -/
def emptyGrid : List (List (Option ShapeKey)) := List.replicate boardRows emptyRow

structure TetrisBoard where
  grid : List (List (Option ShapeKey))
  currentTetromino : Option Tetromino
  nextTetrominoShape : Option ShapeKey
  deriving DecidableEq, Repr

namespace TetrisBoard

/-- `self.grid[y][x] = value`. -/
def setCell (grid : List (List (Option ShapeKey))) (y x : Int) (value : Option ShapeKey) :
    Option (List (List (Option ShapeKey))) := do
  let i ← pyIndex grid.length y
  let row ← grid[i]?
  let j ← pyIndex row.length x
  some (grid.set i (row.set j value))

/-- The loop of `fix` over the blocks of the piece. -/
def fixBlocks (key : ShapeKey) (grid : List (List (Option ShapeKey))) (blocks : List Position) :
    Option (List (List (Option ShapeKey))) :=
  blocks.foldlM (fun grid c => setCell grid c.y c.x (some key)) grid

def fix (b : TetrisBoard) (fixX fixY : Int) : Option TetrisBoard :=
  match b.currentTetromino with
  | none => some b
  | some t => do
      let blocks ← { t with x := fixX, y := fixY }.blocks
      some { b with grid := ← fixBlocks t.shapeKey b.grid blocks, currentTetromino := none }

def clearLines (b : TetrisBoard) (rowIndex : Int) : Option TetrisBoard := do
  let i ← pyIndex b.grid.length rowIndex
  some { b with grid := emptyRow :: b.grid.eraseIdx i }

def addLine (b : TetrisBoard) (holeX : Int) : Option TetrisBoard := do
  let newLine := List.replicate boardCols (some ShapeKey.G)
  let j ← pyIndex newLine.length holeX
  let i ← pyIndex (b.grid.length + 1) 0
  some { b with grid := (b.grid ++ [newLine.set j none]).eraseIdx i }

def move (b : TetrisBoard) (dx dy : Int) : TetrisBoard :=
  { b with
    currentTetromino := b.currentTetromino.map fun t => { t with x := t.x + dx, y := t.y + dy } }

def rotate (b : TetrisBoard) (delta : Int) : Option TetrisBoard :=
  match b.currentTetromino with
  | none => some b
  | some t => do some { b with currentTetromino := some (← t.rotated delta) }

/-! ### `MoveType` -/

def moveRight : Int := 0
def moveLeft : Int := 1
def moveRotate : Int := 2
def moveDown : Int := 3
def moveUp : Int := 5

def handleMove (b : TetrisBoard) (moveType : Int) : Option TetrisBoard :=
  match b.currentTetromino with
  | none => some b
  | some _ =>
      if moveType = moveLeft then some (b.move (-1) 0)
      else if moveType = moveRight then some (b.move 1 0)
      else if moveType = moveDown then some (b.move 0 1)
      else if moveType = moveRotate then b.rotate 1
      else if moveType = moveUp then some (b.move 0 (-1))
      else some b

/-- `TetrisSession.handle_packet`, on the board. Only the packets of its own player get here. -/
def handlePacket (b : TetrisBoard) : S2CPacket → Option TetrisBoard
  | .move _ moveType => b.handleMove moveType
  | .spawn _ type next spawnX spawnY => do
      let key ← shapesIndex type
      let nextKey ← shapesIndex next
      some { b with
        currentTetromino := some ⟨key, spawnX, spawnY, 0⟩
        nextTetrominoShape := some nextKey }
  | .fix _ fixedX fixedY => b.fix fixedX fixedY
  | .clearLine _ lineIndex _ _ => b.clearLines lineIndex
  | .addLine _ holeX => b.addLine holeX
  -- `S2C_GAMEOVER` starts an animation and is no business of the board's
  | _ => some b

/-- A stretch of packets, in order. -/
def handlePackets (b : TetrisBoard) (packets : List S2CPacket) : Option TetrisBoard :=
  packets.foldlM handlePacket b

@[simp] theorem handlePackets_nil (b : TetrisBoard) : b.handlePackets [] = some b := rfl

@[simp] theorem handlePackets_cons (b : TetrisBoard) (packet : S2CPacket)
    (packets : List S2CPacket) :
    b.handlePackets (packet :: packets) =
      (b.handlePacket packet).bind (·.handlePackets packets) := by
  rw [handlePackets, List.foldlM_cons]; rfl

theorem handlePackets_append (b : TetrisBoard) (l₁ l₂ : List S2CPacket) :
    b.handlePackets (l₁ ++ l₂) = (b.handlePackets l₁).bind (·.handlePackets l₂) := by
  rw [handlePackets, List.foldlM_append]; rfl

end TetrisBoard

end Client

namespace S2CPacket

/-- The `id` of an `IngamePacket`; the play states hand it to the session with this id. -/
def ingameId : S2CPacket → Option Int
  | move id _ | spawn id .. | fix id .. | clearLine id .. | addLine id _ | gameOver id => some id
  | _ => none

end S2CPacket

/-- The packets for the player `id`. -/
def packetsFor (id : Int) (packets : List S2CPacket) : List S2CPacket :=
  packets.filter fun packet => packet.ingameId = some id

@[simp] theorem packetsFor_append (id : Int) (l₁ l₂ : List S2CPacket) :
    packetsFor id (l₁ ++ l₂) = packetsFor id l₁ ++ packetsFor id l₂ := List.filter_append ..

end ProjectTetris

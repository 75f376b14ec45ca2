/-!
# Tetrominoes

The piece table of `Tetromino.h`. A piece is stored as a table shape plus an
offset: `defaultPos` is the shape's four cells, `movedPos` the displacement the
inputs have accumulated, and the cells on the board are the sums of the two.

The record carries the fact that its cells really are the table's entry for its
type and rotation, so no later proof has to ask whether a piece is one of ours.
-/

namespace ProjectTetris

/-- `Position`: a column and a row, signed as the source's `char` is. -/
structure Position where
  x : Int
  y : Int
  deriving DecidableEq, Repr

/-- The piece types, `constexpr char I = 0` to `Z = 6`. -/
inductive TetrominoType where
  | I | J | L | O | S | T | Z
  deriving DecidableEq, Repr

namespace TetrominoType

/-- The `char` a type is stored and sent as. -/
def toIndex : TetrominoType → Nat
  | I => 0 | J => 1 | L => 2 | O => 3 | S => 4 | T => 5 | Z => 6

/-- Every type, in the order of the bag `AppendTetromino7Bag` shuffles. -/
def all : List TetrominoType := [I, J, L, O, S, T, Z]

end TetrominoType

private def cellsOf (ps : List (Int × Int)) : List Position := ps.map fun p => ⟨p.1, p.2⟩

/-- `TETROMINOS`: the rotations of each type, as the four cells of each. -/
def tetrominos : TetrominoType → List (List Position)
  | .I => [cellsOf [(0,1), (1,1), (2,1), (3,1)],
           cellsOf [(2,0), (2,1), (2,2), (2,3)]]
  | .J => [cellsOf [(0,0), (0,1), (1,1), (2,1)],
           cellsOf [(1,0), (2,0), (1,1), (1,2)],
           cellsOf [(0,1), (1,1), (2,1), (2,2)],
           cellsOf [(1,0), (1,1), (0,2), (1,2)]]
  | .L => [cellsOf [(2,0), (0,1), (1,1), (2,1)],
           cellsOf [(1,0), (1,1), (1,2), (2,2)],
           cellsOf [(0,1), (1,1), (2,1), (0,2)],
           cellsOf [(0,0), (1,0), (1,1), (1,2)]]
  | .O => [cellsOf [(1,0), (2,0), (1,1), (2,1)]]
  | .S => [cellsOf [(1,1), (2,1), (0,2), (1,2)],
           cellsOf [(1,0), (1,1), (2,1), (2,2)]]
  | .T => [cellsOf [(1,0), (0,1), (1,1), (2,1)],
           cellsOf [(1,0), (1,1), (2,1), (1,2)],
           cellsOf [(0,1), (1,1), (2,1), (1,2)],
           cellsOf [(1,0), (0,1), (1,1), (1,2)]]
  | .Z => [cellsOf [(0,1), (1,1), (1,2), (2,2)],
           cellsOf [(2,0), (1,1), (2,1), (1,2)]]

/-- `Tetromino`, with the table entry its cells were copied from. -/
structure Tetromino where
  type : TetrominoType
  shapeIndex : Nat
  movedPos : Position
  defaultPos : List Position
  /-- The cells are the table's cells for this type and rotation. -/
  shape : (tetrominos type)[shapeIndex]? = some defaultPos

namespace Tetromino

/-- The absolute cells, `default_pos[i] + moved_pos`. -/
def boardPositions (t : Tetromino) : List Position :=
  t.defaultPos.map fun d => ⟨d.x + t.movedPos.x, d.y + t.movedPos.y⟩

/-- The piece displaced by `(dx, dy)`. -/
def shift (t : Tetromino) (dx dy : Int) : Tetromino :=
  { t with movedPos := ⟨t.movedPos.x + dx, t.movedPos.y + dy⟩ }

/-- Rotation `0` of a type, at a position: what `InitNewTetromino` installs. -/
def spawn (type : TetrominoType) (pos : Position) : Tetromino where
  type := type
  shapeIndex := 0
  movedPos := pos
  defaultPos := ((tetrominos type)[0]?).getD []
  shape := by cases type <;> rfl

/-- The index `ROTATE` moves to: the next one, or back to the first. -/
def nextShapeIndex (t : Tetromino) : Nat :=
  if t.shapeIndex + 1 < (tetrominos t.type).length then t.shapeIndex + 1 else 0

theorem nextShapeIndex_lt (t : Tetromino) : t.nextShapeIndex < (tetrominos t.type).length := by
  unfold nextShapeIndex
  split
  · assumption
  · cases t.type <;> decide

/-- The piece turned once, in place. -/
def rotated (t : Tetromino) : Tetromino where
  type := t.type
  shapeIndex := t.nextShapeIndex
  movedPos := t.movedPos
  defaultPos := (tetrominos t.type).get ⟨t.nextShapeIndex, t.nextShapeIndex_lt⟩
  shape := List.getElem?_eq_getElem t.nextShapeIndex_lt

@[simp] theorem shift_type (t : Tetromino) (dx dy : Int) : (t.shift dx dy).type = t.type := rfl

@[simp] theorem shift_shapeIndex (t : Tetromino) (dx dy : Int) :
    (t.shift dx dy).shapeIndex = t.shapeIndex := rfl

@[simp] theorem shift_movedPos (t : Tetromino) (dx dy : Int) :
    (t.shift dx dy).movedPos = ⟨t.movedPos.x + dx, t.movedPos.y + dy⟩ := rfl

@[simp] theorem shift_zero (t : Tetromino) : t.shift 0 0 = t := by
  simp [shift]

theorem shift_shift (t : Tetromino) (dx dy dx' dy' : Int) :
    (t.shift dx dy).shift dx' dy' = t.shift (dx + dx') (dy + dy') := by
  simp [shift, Int.add_assoc]

theorem mem_boardPositions_shift {t : Tetromino} {dx dy : Int} {p : Position} :
    p ∈ (t.shift dx dy).boardPositions ↔
      ∃ q ∈ t.boardPositions, p = ⟨q.x + dx, q.y + dy⟩ := by
  simp only [boardPositions, shift, List.mem_map]
  constructor
  · rintro ⟨d, hd, rfl⟩
    exact ⟨_, ⟨d, hd, rfl⟩, by simp only [Position.mk.injEq]; omega⟩
  · rintro ⟨_, ⟨d, hd, rfl⟩, rfl⟩
    exact ⟨d, hd, by simp only [Position.mk.injEq]; omega⟩

/-- Every cell of the table lies in a box four columns wide and four rows tall. -/
theorem tetrominos_box (ty : TetrominoType) :
    ∀ cells ∈ tetrominos ty, ∀ d ∈ cells, 0 ≤ d.x ∧ d.x ≤ 3 ∧ 0 ≤ d.y ∧ d.y ≤ 3 := by
  cases ty <;> decide

theorem defaultPos_box (t : Tetromino) {d : Position} (hd : d ∈ t.defaultPos) :
    0 ≤ d.x ∧ d.x ≤ 3 ∧ 0 ≤ d.y ∧ d.y ≤ 3 :=
  tetrominos_box t.type _ (List.mem_of_getElem? t.shape) d hd

/-- **No piece is taller than four rows.** -/
theorem boardPositions_height (t : Tetromino) {p q : Position}
    (hp : p ∈ t.boardPositions) (hq : q ∈ t.boardPositions) : p.y ≤ q.y + 3 := by
  simp only [boardPositions, List.mem_map] at hp hq
  obtain ⟨d, hd, rfl⟩ := hp
  obtain ⟨e, he, rfl⟩ := hq
  have := t.defaultPos_box hd
  have := t.defaultPos_box he
  dsimp only
  omega

/-- A piece has four cells. -/
theorem boardPositions_length (t : Tetromino) : t.boardPositions.length = 4 := by
  have h : ∀ cells ∈ tetrominos t.type, cells.length = 4 := by cases t.type <;> decide
  rw [boardPositions, List.length_map]
  exact h _ (List.mem_of_getElem? t.shape)

/-- A piece has at least one cell. -/
theorem defaultPos_ne_nil (t : Tetromino) : t.defaultPos ≠ [] := by
  intro h
  have hlen := t.boardPositions_length
  rw [boardPositions, h] at hlen
  exact absurd hlen (by simp)

theorem exists_boardPosition (t : Tetromino) : ∃ p, p ∈ t.boardPositions := by
  obtain ⟨d, hd⟩ := List.exists_mem_of_ne_nil _ t.defaultPos_ne_nil
  exact ⟨_, List.mem_map_of_mem hd⟩

end Tetromino

end ProjectTetris

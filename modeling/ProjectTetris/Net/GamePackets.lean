import ProjectTetris.Net.Wire

/-!
# The packets of a game

What `AppendTickPacket` puts into a player's buffer, from `TetrisRoomPackets.cpp`. Most
numbers of a game go into a `char`: the conversion keeps the lowest eight bits, whatever
the number was.
-/

namespace ProjectTetris

open Bytes

theorem noNul_empty : 0 ∉ utf8 "" := by decide

theorem S2CType.size_lt_max (type : S2CType) : type.size + (utf8 "").length < 2 ^ 16 := by
  cases type <;> decide

/-- A struct with nothing behind it. -/
def plainStruct (type : S2CType) (values : List FieldValue)
    (typed : values.map FieldValue.type = type.fields) :
    S2CStruct where
  type := type
  values := values
  body := ""
  typed := typed
  body_noNul := noNul_empty
  body_empty := fun _ => rfl
  size_lt := type.size_lt_max

/-- A number in a `char`. -/
def narrow (v : Int) : FieldValue := .char (Int8.ofInt v)

def playerIdField (v : Int) : FieldValue := .int (Int32.ofInt v)

def appendMovePacket (playerId moveType : Int) : S2CStruct :=
  plainStruct .move [playerIdField playerId, narrow moveType] rfl

def appendFixPacket (playerId fixedX fixedY : Int) : S2CStruct :=
  plainStruct .fix [playerIdField playerId, narrow fixedX, narrow fixedY] rfl

def appendClearLinePacket (playerId lineIndex combo score : Int) : S2CStruct :=
  plainStruct .clearLine [playerIdField playerId, narrow lineIndex, narrow combo,
    .int (Int32.ofInt score)] rfl

def appendSpawnPacket (playerId tetrominoType nextTetrominoType spawnX spawnY : Int) : S2CStruct :=
  plainStruct .spawn
    [playerIdField playerId, narrow tetrominoType, narrow nextTetrominoType,
      narrow spawnX, narrow spawnY] rfl

def appendAddLinePacket (playerId holeX : Int) : S2CStruct :=
  plainStruct .addLine [playerIdField playerId, narrow holeX] rfl

def appendGameOverPacket (playerId : Int) : S2CStruct :=
  plainStruct .gameOver [playerIdField playerId] rfl

def appendGameEndPacket (winnerId : Int) : S2CStruct :=
  plainStruct .gameEnd [playerIdField winnerId] rfl

namespace S2CPacket

/-- The struct `AppendTickPacket` builds, for the packets of a game. -/
def gameStruct : S2CPacket → Option S2CStruct
  | .move playerId moveType => some (appendMovePacket playerId moveType)
  | .fix playerId x y => some (appendFixPacket playerId x y)
  | .clearLine playerId y combo score => some (appendClearLinePacket playerId y combo score)
  | .spawn playerId type next x y => some (appendSpawnPacket playerId type next x y)
  | .addLine playerId holeX => some (appendAddLinePacket playerId holeX)
  | .gameOver playerId => some (appendGameOverPacket playerId)
  | .gameEnd winnerId => some (appendGameEndPacket winnerId)
  | _ => none

/-- The members that are narrowed, with the integers the server holds for them. -/
def charMembers : S2CPacket → List (String × Int)
  | .move _ moveType => [("move_type", moveType)]
  | .fix _ x y => [("fixed_x", x), ("fixed_y", y)]
  | .clearLine _ y combo _ => [("line_index", y), ("combo", combo)]
  | .spawn _ type next x y =>
      [("tetromino_type", type), ("next_tetromino_type", next), ("spawn_x", x), ("spawn_y", y)]
  | .addLine _ holeX => [("hole_x", holeX)]
  | _ => []

end S2CPacket

end ProjectTetris

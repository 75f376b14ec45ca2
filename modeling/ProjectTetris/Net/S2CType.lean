import Mathlib.Algebra.GroupWithZero.Nat

/-!
# Server-to-client packets

The packet structs of `Packets/*.h`. Each is a `PACKET_HEADER` followed by the
fields listed in `fields`, packed (`#pragma pack(push, 1)`), so a struct is known
by its type byte and that list; `sizeof` is a sum.

`S2CPacket` is the other view of the packets rooms send: the values, by name.
-/

namespace ProjectTetris

/-- The C++ types packet fields are made of. -/
inductive FieldType where
  /-- `char`, signed. -/
  | char
  | bool
  /-- `int`, 32 bits. -/
  | int
  /-- `RoomKey`, `std::uint64_t`. -/
  | roomKey
  /-- `char[n]`. -/
  | charBuf (n : Nat)
  deriving DecidableEq, Repr

namespace FieldType

/-- `sizeof`. -/
def size : FieldType → Nat
  | char => 1
  | bool => 1
  | int => 4
  | roomKey => 8
  | charBuf n => n

end FieldType

def maxPlayerNameSize : Nat := 48
def maxRoomNameSize : Nat := 48
def maxRoomPasswordSize : Nat := 48

/-- `sizeof(PACKET_HEADER)`: a `uint16_t` and a `uint8_t`. -/
def packetHeaderSize : Nat := 3

/-- `BUF_SIZE`. -/
def bufSize : Nat := 2048

/-- The server-to-client types the client's `PACKET_REGISTRY` knows. -/
inductive S2CType where
  | error | login | message | disconnect | addPublicRoom | addPrivateRoom | addPlayer
  | removePlayer | ready | singleStart | multiStart | kick | move | spawn | gameOver | gameEnd
  | clearLine | fix | addLine | updateScore | matchRecord | updateHost | roomInfo
  | addFriendRequest | deleteFriend | addFriend | lobbyPlayerInfo | friendInfo | rankingInfo | info
  deriving DecidableEq, Repr

namespace S2CType

/-- `packet_types.h`. -/
def code : S2CType → Nat
  | error => 0
  | login => 1
  | message => 3
  | disconnect => 7
  | addPublicRoom => 10
  | addPrivateRoom => 12
  | addPlayer => 14
  | removePlayer => 16
  | ready => 18
  | singleStart => 20
  | kick => 22
  | move => 24
  | spawn => 25
  | gameOver => 27
  | gameEnd => 29
  | clearLine => 31
  | fix => 33
  | addLine => 35
  | updateScore => 37
  | multiStart => 39
  | matchRecord => 41
  | updateHost => 43
  | roomInfo => 49
  | addFriendRequest => 55
  | deleteFriend => 56
  | addFriend => 57
  | lobbyPlayerInfo => 59
  | friendInfo => 61
  | rankingInfo => 63
  | info => 100

/-- The fields of each struct after its header. -/
def fields : S2CType → List FieldType
  | error => [.int]
  | login => [.int, .int, .int, .int, .charBuf maxPlayerNameSize]
  | message => [.int, .charBuf maxPlayerNameSize]
  | disconnect => [.int]
  | addPublicRoom => [.roomKey, .char, .charBuf maxRoomNameSize]
  | addPrivateRoom => [.roomKey, .char, .charBuf maxRoomNameSize, .charBuf maxRoomPasswordSize]
  | addPlayer => [.int, .charBuf maxPlayerNameSize]
  | removePlayer => [.int]
  | ready => [.int, .bool]
  | singleStart => [.int]
  | multiStart => []
  | kick => [.int]
  | move => [.int, .char]
  | spawn => [.int, .char, .char, .char, .char]
  | gameOver => [.int]
  | gameEnd => [.int]
  | clearLine => [.int, .char, .char, .int]
  | fix => [.int, .char, .char]
  | addLine => [.int, .char]
  | updateScore => [.int]
  | matchRecord => [.int, .int]
  | updateHost => [.int]
  | roomInfo => [.roomKey, .charBuf maxRoomNameSize, .char, .char, .bool, .bool]
  | addFriendRequest => [.int, .charBuf maxPlayerNameSize]
  | deleteFriend => [.int]
  | addFriend => [.int, .charBuf maxPlayerNameSize]
  | lobbyPlayerInfo => [.int, .charBuf maxPlayerNameSize]
  | friendInfo => [.int, .charBuf maxPlayerNameSize, .bool]
  | rankingInfo => [.charBuf maxPlayerNameSize, .int]
  | info => [.int]

/-- `sizeof` of the struct. -/
def size (type : S2CType) : Nat := packetHeaderSize + (type.fields.map FieldType.size).sum

theorem packetHeaderSize_le_size (type : S2CType) : packetHeaderSize ≤ type.size :=
  Nat.le_add_right _ _

end S2CType

/--
The packets rooms send, with their values.

Names are the struct's without `S2C_` and `_PACKET`; the header is determined by
the constructor.
-/
inductive S2CPacket where
  | error (errorCode : Int)
  | info (infoCode : Int)
  | addPublicRoom (roomKey : Nat) (maxPlayerCount : Int) (roomName : String)
  | addPrivateRoom (roomKey : Nat) (maxPlayerCount : Int) (roomName roomPassword : String)
  | addPlayer (playerId : Int) (nickname : String)
  | removePlayer (playerId : Int)
  | updateHost (newHostId : Int)
  | ready (playerId : Int) (isReady : Bool)
  | singleStart (score : Int)
  | multiStart
  | move (playerId : Int) (moveType : Int)
  | spawn (playerId : Int) (tetrominoType nextTetrominoType : Nat) (spawnX spawnY : Int)
  | fix (playerId : Int) (fixedX fixedY : Int)
  | clearLine (playerId : Int) (lineIndex : Nat) (combo score : Int)
  | addLine (playerId : Int) (holeX : Nat)
  | gameOver (playerId : Int)
  | gameEnd (winnerId : Int)
  deriving DecidableEq, Repr

namespace S2CPacket

/-- `header.type`. -/
def type : S2CPacket → S2CType
  | error _ => .error
  | info _ => .info
  | addPublicRoom .. => .addPublicRoom
  | addPrivateRoom .. => .addPrivateRoom
  | addPlayer .. => .addPlayer
  | removePlayer _ => .removePlayer
  | updateHost _ => .updateHost
  | ready .. => .ready
  | singleStart _ => .singleStart
  | multiStart => .multiStart
  | move .. => .move
  | spawn .. => .spawn
  | fix .. => .fix
  | clearLine .. => .clearLine
  | addLine .. => .addLine
  | gameOver _ => .gameOver
  | gameEnd _ => .gameEnd

/-- `header.size`, which every sender sets to `sizeof` of the struct. -/
def size (p : S2CPacket) : Nat := p.type.size

end S2CPacket

end ProjectTetris

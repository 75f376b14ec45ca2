import ProjectTetris.Lib.Bytes
import ProjectTetris.Net.S2CType

/-!
# Packets on the wire

A `PACKET_HEADER` is three bytes, `size` and `type`; the struct's members follow without
padding, lowest byte first. Names are copied into buffers of a fixed size that end in no
zero when the name fills them. `S2C_MESSAGE` alone is longer than its struct: the text
comes after it, with no length of its own.
-/

namespace ProjectTetris

open Bytes

/-- A `std::string` that fits a `char[n]` and has no zero in it. -/
structure Text (n : Nat) where
  str : String
  size_le : (utf8 str).length ≤ n
  noNul : 0 ∉ utf8 str

/-- `StringToCharBuf`: all zeros, then as much of the string as there is room for. -/
def stringToCharBuf (str : List UInt8) (bufSize : Nat) : List UInt8 :=
  let buf := List.replicate bufSize 0
  let copySize := min str.length bufSize
  str.take copySize ++ buf.drop copySize

/-- A string that fits is followed by nothing but zeros. -/
theorem stringToCharBuf_of_le {str : List UInt8} {bufSize : Nat} (h : str.length ≤ bufSize) :
    stringToCharBuf str bufSize = str ++ List.replicate (bufSize - str.length) 0 := by
  rw [stringToCharBuf, Nat.min_eq_left h, List.take_length, List.drop_replicate]

@[simp] theorem length_stringToCharBuf (str : List UInt8) (bufSize : Nat) :
    (stringToCharBuf str bufSize).length = bufSize := by
  rw [stringToCharBuf, List.length_append, List.length_take, List.length_drop,
    List.length_replicate]
  omega

/-- The value of a member, with its type. -/
inductive FieldValue where
  | char (v : Int8)
  | bool (v : Bool)
  | int (v : Int32)
  | roomKey (v : UInt64)
  | charBuf (n : Nat) (v : Text n)

namespace FieldValue

def type : FieldValue → FieldType
  | char _ => .char
  | bool _ => .bool
  | int _ => .int
  | roomKey _ => .roomKey
  | charBuf n _ => .charBuf n

/-- The bytes a member is in memory. -/
def bytes : FieldValue → List UInt8
  | char v => leBytes 1 v.toUInt8.toNat
  | bool v => [if v then 1 else 0]
  | int v => leBytes 4 v.toUInt32.toNat
  | roomKey v => leBytes 8 v.toNat
  | charBuf n v => stringToCharBuf (utf8 v.str) n

@[simp] theorem length_bytes (v : FieldValue) : v.bytes.length = v.type.size := by
  cases v with
  | char v => exact length_leBytes 1 _
  | bool v => rfl
  | int v => exact length_leBytes 4 _
  | roomKey v => exact length_leBytes 8 _
  | charBuf n v => exact length_stringToCharBuf _ n

theorem length_flatMap_bytes : ∀ values : List FieldValue,
    (values.flatMap bytes).length = ((values.map type).map FieldType.size).sum
  | [] => rfl
  | v :: values => by
      rw [List.flatMap_cons, List.length_append, length_bytes, length_flatMap_bytes values]
      rfl

end FieldValue

namespace S2CType

/-- The members of each struct after its header, in order. -/
def members : S2CType → List String
  | error => ["error_code"]
  | login => ["player_id", "max_score", "win_count", "lose_count", "nickname"]
  | message => ["player_id", "nickname"]
  | disconnect => ["player_id"]
  | addPublicRoom => ["room_key", "max_player_count", "room_name"]
  | addPrivateRoom => ["room_key", "max_player_count", "room_name", "room_password"]
  | addPlayer => ["player_id", "nickname"]
  | removePlayer => ["player_id"]
  | ready => ["player_id", "is_ready"]
  | singleStart => ["score"]
  | multiStart => []
  | kick => ["kick_player_id"]
  | move => ["player_id", "move_type"]
  | spawn => ["player_id", "tetromino_type", "next_tetromino_type", "spawn_x", "spawn_y"]
  | gameOver => ["player_id"]
  | gameEnd => ["winner_id"]
  | clearLine => ["player_id", "line_index", "combo", "score"]
  | fix => ["player_id", "fixed_x", "fixed_y"]
  | addLine => ["player_id", "hole_x"]
  | updateScore => ["max_score"]
  | matchRecord => ["win_count", "lose_count"]
  | updateHost => ["new_host_id"]
  | roomInfo => ["room_key", "room_name", "max_player_count", "current_player_count", "is_private",
      "is_play"]
  | addFriendRequest => ["requester_id", "requester_nickname"]
  | deleteFriend => ["target_id"]
  | addFriend => ["friend_id", "friend_nickname"]
  | lobbyPlayerInfo => ["player_id", "nickname"]
  | friendInfo => ["player_id", "nickname", "is_lobby"]
  | rankingInfo => ["nickname", "score"]
  | info => ["info_code"]

theorem length_members (type : S2CType) : type.members.length = type.fields.length := by
  cases type <;> rfl

theorem code_lt (type : S2CType) : type.code < 256 := by cases type <;> decide

end S2CType

/--
**A packet as the server sends it.**

`body` is what follows the struct, which only a message has. The header has to be able
to say how long the whole is.
-/
structure S2CStruct where
  type : S2CType
  values : List FieldValue
  body : String
  typed : values.map FieldValue.type = type.fields
  body_noNul : 0 ∉ utf8 body
  body_empty : type ≠ .message → body = ""
  size_lt : type.size + (utf8 body).length < 2 ^ 16

namespace S2CStruct

/-- `header.size`. -/
def size (p : S2CStruct) : Nat := p.type.size + (utf8 p.body).length

def headerBytes (p : S2CStruct) : List UInt8 := leBytes 2 p.size ++ leBytes 1 p.type.code

/-- What goes out on the socket. -/
def bytes (p : S2CStruct) : List UInt8 :=
  p.headerBytes ++ p.values.flatMap FieldValue.bytes ++ utf8 p.body

theorem length_headerBytes (p : S2CStruct) : p.headerBytes.length = packetHeaderSize := by
  rw [headerBytes, List.length_append, length_leBytes, length_leBytes]
  rfl

/-- The struct without the body is as long as `sizeof` says. -/
theorem length_struct (p : S2CStruct) :
    (p.headerBytes ++ p.values.flatMap FieldValue.bytes).length = p.type.size := by
  rw [List.length_append, p.length_headerBytes, FieldValue.length_flatMap_bytes, p.typed]
  rfl

theorem length_bytes (p : S2CStruct) : p.bytes.length = p.size := by
  rw [bytes, List.length_append, p.length_struct]
  rfl

theorem size_of_body_empty {p : S2CStruct} (h : p.type ≠ .message) : p.size = p.type.size := by
  rw [size, p.body_empty h]
  rfl

theorem packetHeaderSize_le_size (p : S2CStruct) : packetHeaderSize ≤ p.size :=
  Nat.le_trans p.type.packetHeaderSize_le_size (Nat.le_add_right _ _)

end S2CStruct

end ProjectTetris

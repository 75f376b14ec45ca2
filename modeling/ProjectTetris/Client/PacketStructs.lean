import ProjectTetris.Net.Wire

/-!
# The client's packet classes

`packet_structs.py`: a dataclass per packet type, with a `struct` format and the fields
the unpacked values go into, in this order. Formats begin with `<`: no padding, lowest byte
first. Only the server-to-client classes are here; the others have no `fill_data`.
-/

namespace ProjectTetris.Client

open Bytes

/-- The characters `struct` formats are made of, a string with its count. -/
inductive FormatCode where
  | H
  | B
  | b
  | i
  | Q
  /-- `?`. -/
  | bool
  | s (count : Nat)
  deriving DecidableEq, Repr

inductive PyValue where
  | int (v : Int)
  | bool (v : Bool)
  | bytes (v : List UInt8)
  | str (v : String)
  deriving DecidableEq, Repr

inductive PyError where
  | valueError (message : String)
  /-- `struct.error`. -/
  | structError
  /-- `KeyError`, or for a client-to-server type whatever its class raises. -/
  | notReceivable (type : Nat)
  deriving DecidableEq, Repr

namespace FormatCode

def size : FormatCode → Nat
  | H => 2
  | B => 1
  | b => 1
  | i => 4
  | Q => 8
  | bool => 1
  | s count => count

/-- What is made of the bytes of one value. -/
def value : FormatCode → List UInt8 → PyValue
  | H, l => .int (ofLeBytes l)
  | B, l => .int (ofLeBytes l)
  | b, l => .int (signedOfLeBytes l)
  | i, l => .int (signedOfLeBytes l)
  | Q, l => .int (ofLeBytes l)
  | bool, l => .bool (l.any (· ≠ 0))
  | s _, l => .bytes l

end FormatCode

/-- `struct.calcsize`. -/
def calcsize (fmt : List FormatCode) : Nat := (fmt.map FormatCode.size).sum

/-- The values one after the other. -/
def unpackValues : List FormatCode → List UInt8 → List PyValue
  | [], _ => []
  | c :: fmt, l => c.value (l.take c.size) :: unpackValues fmt (l.drop c.size)

/-- `struct.unpack_from`. -/
def unpackFrom (fmt : List FormatCode) (buf : List UInt8) (offset : Nat) :
    Except PyError (List PyValue) :=
  if offset + calcsize fmt ≤ buf.length then .ok (unpackValues fmt (buf.drop offset))
  else .error .structError

/-- `struct.unpack`. -/
def unpack (fmt : List FormatCode) (buf : List UInt8) : Except PyError (List PyValue) :=
  if buf.length = calcsize fmt then .ok (unpackValues fmt buf) else .error .structError

/-- The types the fields of the classes are annotated with. -/
inductive Annotation where
  | int
  | bool
  | str
  deriving DecidableEq, Repr

/-- A string is what stands before the first zero; what is not UTF-8 in it is ignored. -/
def Annotation.fill : Annotation → PyValue → PyValue
  | str, .bytes v => .str (decodeIgnore (v.takeWhile (· ≠ 0)))
  | _, v => v

/-- A subclass of `RecvPacketStruct`: `FMT`, and the fields other than `header`. -/
structure PacketStruct where
  name : String
  fmt : List FormatCode
  fields : List (String × Annotation)
  deriving DecidableEq, Repr

/-- An object of one of these classes, filled. -/
structure RecvPacket where
  cls : PacketStruct
  size : Int
  type : Int
  attributes : List (String × PyValue)
  deriving DecidableEq, Repr

/-- `PacketHeader.BODY_FMT`. -/
def headerFmt : List FormatCode := [.H, .B]

/-- A class that extends `RecvPacketStruct` directly. -/
def recvPacketStruct (name : String) (bodyFmt : List FormatCode)
    (fields : List (String × Annotation)) :
    PacketStruct where
  name := name
  fmt := headerFmt ++ bodyFmt
  fields := fields

/-- A class that extends `IngamePacket`, which puts an `id` first. -/
def ingamePacket (name : String) (bodyFmt : List FormatCode)
    (fields : List (String × Annotation)) :
    PacketStruct where
  name := name
  fmt := headerFmt ++ [.i] ++ bodyFmt
  fields := ("id", .int) :: fields

/-- `fill_data`: the first two values go into the header. -/
def PacketStruct.fillData (cls : PacketStruct) (values : List PyValue) :
    Except PyError RecvPacket :=
  if values.length ≠ cls.fields.length + 2 then
    .error (.valueError
      s!"Field count mismatch tuple={values.length} / dataclass_fields={cls.fields.length + 2}")
  else
    match values with
    | .int size :: .int type :: rest =>
        .ok ⟨cls, size, type, List.zipWith (fun f v => (f.1, f.2.fill v)) cls.fields rest⟩
    -- never: every format begins with `HB`
    | _ => .error (.valueError "")

def maxUserName : Nat := 16 * 3
def maxRoomName : Nat := 16 * 3
def maxRoomPassword : Nat := 16 * 3

def s2cErrorPacket : PacketStruct :=
  recvPacketStruct "S2C_ERROR_PACKET" [.i] [("error_code", .int)]

def s2cLoginPacket : PacketStruct :=
  recvPacketStruct "S2C_LOGIN_PACKET" [.i, .i, .i, .i, .s maxUserName]
    [("id", .int), ("max_score", .int), ("win_count", .int), ("lose_count", .int),
      ("user_name", .str)]

/-- `message` has no part in the format. -/
def s2cMessagePacket : PacketStruct :=
  recvPacketStruct "S2C_MESSAGE_PACKET" [.i, .s maxUserName]
    [("id", .int), ("user_name", .str), ("message", .str)]

def s2cDisconnectPacket : PacketStruct :=
  recvPacketStruct "S2C_DISCONNECT_PACKET" [.i] [("id", .int)]

def s2cAddOpenRoomPacket : PacketStruct :=
  recvPacketStruct "S2C_ADD_OPEN_ROOM_PACKET" [.Q, .b, .s maxRoomName]
    [("room_key", .int), ("max_user", .int), ("room_name", .str)]

def s2cAddLockRoomPacket : PacketStruct :=
  recvPacketStruct "S2C_ADD_LOCK_ROOM_PACKET" [.Q, .b, .s maxRoomName, .s maxRoomPassword]
    [("room_key", .int), ("max_user", .int), ("room_name", .str), ("room_password", .str)]

def s2cAddUserPacket : PacketStruct :=
  recvPacketStruct "S2C_ADD_USER_PACKET" [.i, .s maxUserName] [("id", .int), ("name", .str)]

def s2cDeleteUserPacket : PacketStruct :=
  recvPacketStruct "S2C_DELETE_USER_PACKET" [.i] [("id", .int)]

def s2cReadyPacket : PacketStruct :=
  recvPacketStruct "S2C_READY_PACKET" [.i, .bool] [("id", .int), ("is_ready", .bool)]

def s2cSingleStartPacket : PacketStruct :=
  recvPacketStruct "S2C_SINGLE_START_PACKET" [.i] [("score", .int)]

def s2cMultiStartPacket : PacketStruct := recvPacketStruct "S2C_MULTI_START_PACKET" [] []

def s2cKickPacket : PacketStruct :=
  recvPacketStruct "S2C_KICK_PACKET" [.i] [("kick_user_id", .int)]

def s2cMovePacket : PacketStruct := ingamePacket "S2C_MOVE_PACKET" [.b] [("move_type", .int)]

def s2cSpawnPacket : PacketStruct :=
  ingamePacket "S2C_SPAWN_PACKET" [.b, .b, .b, .b]
    [("tetromino_type", .int), ("next_tetromino_type", .int), ("spawn_x", .int), ("spawn_y", .int)]

def s2cFixPacket : PacketStruct :=
  ingamePacket "S2C_FIX_PACKET" [.b, .b] [("fixed_x", .int), ("fixed_y", .int)]

def s2cClearlinePacket : PacketStruct :=
  ingamePacket "S2C_CLEARLINE_PACKET" [.b, .b, .i]
    [("line_index", .int), ("combo", .int), ("score", .int)]

def s2cAddlinePacket : PacketStruct := ingamePacket "S2C_ADDLINE_PACKET" [.b] [("hole_x", .int)]

def s2cGameoverPacket : PacketStruct := ingamePacket "S2C_GAMEOVER_PACKET" [] []

def s2cGameendPacket : PacketStruct :=
  recvPacketStruct "S2C_GAMEEND_PACKET" [.i] [("winner_id", .int)]

def s2cUpdateScorePacket : PacketStruct :=
  recvPacketStruct "S2C_UPDATE_SCORE_PACKET" [.i] [("max_score", .int)]

def s2cMatchRecordPacket : PacketStruct :=
  recvPacketStruct "S2C_MATCH_RECORD_PACKET" [.i, .i] [("win_count", .int), ("lose_count", .int)]

def s2cUpdateHostPacket : PacketStruct :=
  recvPacketStruct "S2C_UPDATE_HOST_PACKET" [.i] [("new_host_id", .int)]

def s2cRoomInfoPacket : PacketStruct :=
  recvPacketStruct "S2C_ROOM_INFO_PACKET" [.Q, .s maxRoomName, .b, .b, .bool, .bool]
    [("room_key", .int), ("room_name", .str), ("max_user", .int), ("cur_user", .int),
      ("is_private", .bool), ("is_play", .bool)]

def s2cInfoPacket : PacketStruct := recvPacketStruct "S2C_INFO_PACKET" [.i] [("info_type", .int)]

def s2cRequestFriendPacket : PacketStruct :=
  recvPacketStruct "S2C_REQUEST_FRIEND_PACKET" [.i, .s maxUserName]
    [("requester_id", .int), ("requester_nickname", .str)]

def s2cDeleteFriendPacket : PacketStruct :=
  recvPacketStruct "S2C_DELETE_FRIEND_PACKET" [.i] [("target_id", .int)]

def s2cAddFriendPacket : PacketStruct :=
  recvPacketStruct "S2C_ADD_FRIEND_PACKET" [.i, .s maxUserName]
    [("friend_id", .int), ("friend_nickname", .str)]

def s2cLobbyUserInfoPacket : PacketStruct :=
  recvPacketStruct "S2C_LOBBY_USER_INFO_PACKET" [.i, .s maxUserName]
    [("user_id", .int), ("nickname", .str)]

def s2cFriendInfoPacket : PacketStruct :=
  recvPacketStruct "S2C_FRIEND_INFO_PACKET" [.i, .s maxUserName, .bool]
    [("user_id", .int), ("nickname", .str), ("is_lobby", .bool)]

def s2cRankingInfoPacket : PacketStruct :=
  recvPacketStruct "S2C_RANKING_INFO_PACKET" [.s maxUserName, .i] [("nickname", .str),
    ("score", .int)]

/-- `S2C_MESSAGE`. -/
def s2cMessage : Nat := 3

/-- `PACKET_REGISTRY`, without the classes that only send. -/
def packetRegistry : Nat → Option PacketStruct
  | 0 => some s2cErrorPacket
  | 1 => some s2cLoginPacket
  | 3 => some s2cMessagePacket
  | 7 => some s2cDisconnectPacket
  | 10 => some s2cAddOpenRoomPacket
  | 12 => some s2cAddLockRoomPacket
  | 14 => some s2cAddUserPacket
  | 16 => some s2cDeleteUserPacket
  | 18 => some s2cReadyPacket
  | 20 => some s2cSingleStartPacket
  | 39 => some s2cMultiStartPacket
  | 22 => some s2cKickPacket
  | 24 => some s2cMovePacket
  | 25 => some s2cSpawnPacket
  | 27 => some s2cGameoverPacket
  | 29 => some s2cGameendPacket
  | 31 => some s2cClearlinePacket
  | 33 => some s2cFixPacket
  | 35 => some s2cAddlinePacket
  | 37 => some s2cUpdateScorePacket
  | 41 => some s2cMatchRecordPacket
  | 43 => some s2cUpdateHostPacket
  | 49 => some s2cRoomInfoPacket
  | 55 => some s2cRequestFriendPacket
  | 56 => some s2cDeleteFriendPacket
  | 57 => some s2cAddFriendPacket
  | 59 => some s2cLobbyUserInfoPacket
  | 61 => some s2cFriendInfoPacket
  | 63 => some s2cRankingInfoPacket
  | 100 => some s2cInfoPacket
  | _ => none

/-! ## The same layouts as the server's -/

/-- What the client calls a member of a server struct. -/
def attributeOf (type : S2CType) (member : String) : String :=
  match member with
  | "player_id" => if type = .lobbyPlayerInfo ∨ type = .friendInfo then "user_id" else "id"
  | "nickname" =>
      if type = .login ∨ type = .message then "user_name"
      else if type = .addPlayer then "name"
      else "nickname"
  | "max_player_count" => "max_user"
  | "current_player_count" => "cur_user"
  | "kick_player_id" => "kick_user_id"
  | "info_code" => "info_type"
  | other => other

/-- The character that reads a member of this type. -/
def formatOf : FieldType → FormatCode
  | .char => .b
  | .bool => .bool
  | .int => .i
  | .roomKey => .Q
  | .charBuf n => .s n

def annotationOf : FieldType → Annotation
  | .char => .int
  | .bool => .bool
  | .int => .int
  | .roomKey => .int
  | .charBuf _ => .str

/-- The field `message` is for what follows the struct. -/
def bodyFields (type : S2CType) : List (String × Annotation) :=
  if type = .message then [("message", .str)] else []

/-- **The two sides have written down the same layouts**: every type the server sends is
registered, with a class that reads its members and calls them by their names. -/
theorem packetRegistry_code (type : S2CType) : ∃ cls, packetRegistry type.code = some cls ∧
    cls.fmt = headerFmt ++ type.fields.map formatOf ∧
    cls.fields = (type.members.map (attributeOf type)).zip (type.fields.map annotationOf) ++
      bodyFields type := by
  cases type <;> exact ⟨_, rfl, rfl, rfl⟩

theorem code_eq_s2cMessage {type : S2CType} : type.code = s2cMessage ↔ type = .message := by
  cases type <;> decide

end ProjectTetris.Client

import ProjectTetris.Net.S2CType

/-!
# Client-to-server packets

The types the server handles, and the structs of `Packets/*.h` their packets are cast to.
-/

namespace ProjectTetris

def maxPlayerIdSize : Nat := 48
def maxPlayerPasswordSize : Nat := 48

inductive C2SType where
  | login | message | test | disconnect | addPublicRoom | addPrivateRoom | joinPublicRoom
  | removePlayer
  | ready | start | kick | move | giveUp | requestRoomList | joinPrivateRoom | fastMatching
  | addFriendRequest | deleteFriend | acceptFriend | requestLobbyPlayerList | requestFriendList
  | requestRankings | testLogin
  deriving DecidableEq, Repr

namespace C2SType

/-- `packet_types.h`. -/
def code : C2SType → Nat
  | login => 2
  | message => 4
  | test => 6
  | disconnect => 8
  | addPublicRoom => 9
  | addPrivateRoom => 11
  | joinPublicRoom => 13
  | removePlayer => 15
  | ready => 17
  | start => 19
  | kick => 21
  | move => 23
  | giveUp => 45
  | requestRoomList => 47
  | joinPrivateRoom => 50
  | fastMatching => 51
  | addFriendRequest => 52
  | deleteFriend => 53
  | acceptFriend => 54
  | requestLobbyPlayerList => 58
  | requestFriendList => 60
  | requestRankings => 62
  | testLogin => 102

def all : List C2SType :=
  [login, message, test, disconnect, addPublicRoom, addPrivateRoom, joinPublicRoom, removePlayer,
    ready, start,
    kick, move, giveUp, requestRoomList, joinPrivateRoom, fastMatching, addFriendRequest,
    deleteFriend, acceptFriend,
    requestLobbyPlayerList, requestFriendList, requestRankings, testLogin]

/-- The type with this code, if the server knows one. -/
def ofCode? (code : Nat) : Option C2SType := all.find? (·.code = code)

theorem ofCode?_code (type : C2SType) : ofCode? type.code = some type := by cases type <;> decide

/-- The members of each struct after its header; `C2S_TEST` has a `long long`, which no other
struct has. -/
def fields : C2SType → Option (List FieldType)
  | login => some [.charBuf maxPlayerIdSize, .charBuf maxPlayerPasswordSize]
  | addPublicRoom => some [.char, .charBuf maxRoomNameSize]
  | addPrivateRoom => some [.char, .charBuf maxRoomNameSize, .charBuf maxRoomPasswordSize]
  | joinPublicRoom => some [.roomKey]
  | joinPrivateRoom => some [.roomKey, .charBuf maxRoomPasswordSize]
  | kick => some [.int]
  | move => some [.char]
  | fastMatching => some [.char]
  | addFriendRequest | deleteFriend | acceptFriend => some [.int]
  | testLogin => some [.int, .charBuf maxPlayerIdSize, .charBuf maxPlayerPasswordSize]
  | test => none
  | message | disconnect | removePlayer | ready | start | giveUp | requestRoomList
  | requestLobbyPlayerList
  | requestFriendList | requestRankings => some []

/-- `sizeof` of the struct. -/
def size (type : C2SType) : Option Nat :=
  type.fields.map fun fields => packetHeaderSize + (fields.map FieldType.size).sum

end C2SType

end ProjectTetris

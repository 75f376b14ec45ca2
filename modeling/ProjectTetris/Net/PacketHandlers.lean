import ProjectTetris.Lib.Bytes
import ProjectTetris.Lib.Memory
import ProjectTetris.Net.C2SType
import ProjectTetris.Net.RecvBuffer
import ProjectTetris.Net.Wire
import ProjectTetris.Rooms.TetrisRoom

/-!
# The handlers of a packet

What `RoutePacket` reaches: `LobbyThreadManager::ProcessPacket` with the handlers it calls,
and `HandlePacket` of the rooms. A packet is the copy of its bytes that the receive path
made, as long as its header declares. A handler casts it to the struct of its type; every
read of a member, every read and write of a buffer and every length is checked, and `none`
is the first that is outside or negative.
-/

namespace ProjectTetris

open Bytes Memory

def maxPlayerCount : Nat := 10000

/-- `sizeof` of the structs of the test, which holds a `long long`. -/
def c2sTestPacketSize : Nat := packetHeaderSize + 8
def s2cTestPacketSize : Nat := packetHeaderSize + 4 + 8

/-- `S2C_TEST`. -/
def s2cTestCode : Nat := 5

/-! ## What the handlers find -/

structure RoomInfoSnapshot where
  roomKey : UInt64
  roomName : List UInt8
  maxPlayerCount : Int8
  currentPlayerCount : Int8
  isPrivate : Bool
  roomState : RoomState

structure LobbyPlayer where
  playerId : Int32
  nickname : List UInt8
  modeState : ModeState

/-- A friend, with the player id and the mode of the session that `FindSession` gives for its key.
-/
structure FriendEntry where
  playerId : Int32
  nickname : List UInt8
  session : Option (Int32 × ModeState)

structure RankingInfo where
  nickname : List UInt8
  score : Int32

/-- The session's room, as far as `HandlePacket` reads it. -/
structure RoomOfSession where
  isSingle : Bool
  /-- `IsPlayerInRoom`. -/
  hasPlayer : Bool
  roomState : RoomState

/-- The session a packet is processed for, with what handlers read of the server. -/
structure PacketContext where
  modeState : ModeState
  isTestMode : Bool
  playerId : Int32
  nickname : List UInt8
  /-- `BeginRoomTransition` succeeds. -/
  beginsTransition : Bool
  room : Option RoomOfSession
  activeRooms : List RoomInfoSnapshot
  activeSessions : List LobbyPlayer
  friends : List FriendEntry
  rankings : List RankingInfo

/-- What a handler does with what it has read. -/
inductive HandlerEffect where
  | sendError (errorCode : Int)
  /-- `DBLoginTask`. -/
  | login (loginId password : List UInt8)
  | testLogin (playerId : Int) (loginId : List UInt8)
  /-- `BroadcastToLobby` of a packet in a buffer of its own, of which so many bytes were written.
  -/
  | relay (packet : List UInt8) (written : Nat)
  /-- A `RoomLifecycleTask` with its copy of the packet. -/
  | createRoom (packet : List UInt8)
  | tryJoinRoom (roomKey : Nat) (roomPassword : List UInt8)
  | findMatch (maxPlayerCount : Int)
  /-- The friend tasks, with the other player's id. -/
  | friendTask (type : C2SType) (playerId : Int)
  | send (bytes : List UInt8)
  /-- A `RoomTask`, or a lobby transition. -/
  | roomTask (type : C2SType)
  | kick (playerId : Int)
  | move (moveType : Int)

/-! ## Members -/

def readInt (packet : List UInt8) (offset : Nat) : Option Int :=
  (readAt packet offset 4).map signedOfLeBytes

def readChar (packet : List UInt8) (offset : Nat) : Option Int :=
  (readAt packet offset 1).map signedOfLeBytes

def readRoomKey (packet : List UInt8) (offset : Nat) : Option Nat :=
  (readAt packet offset 8).map ofLeBytes

/-- `CharBufToString`. -/
def charBufToString (packet : List UInt8) (offset bufSize : Nat) : Option (List UInt8) :=
  textAt packet offset bufSize

/-! ## Lists, packed into a buffer -/

/-- A packet of this type with these bytes after the header. -/
def packetOf (type : S2CType) (body : List UInt8) : List UInt8 :=
  leBytes 2 type.size ++ leBytes 1 type.code ++ body

/-- The loop's state: the buffers sent, the buffer and `packet_size`. -/
structure ListBuffer where
  sent : List (List UInt8)
  packetBuffer : List UInt8
  packetSize : Nat

namespace ListBuffer

/-- A buffer without room for one packet more is sent before the packet is copied. -/
def add (b : ListBuffer) (packet : List UInt8) : Option ListBuffer := do
  let b := if b.packetSize + packet.length > bufSize
    then { b with sent := b.sent ++ [b.packetBuffer.take b.packetSize], packetSize := 0 } else b
  let packetBuffer ← writeAt b.packetBuffer b.packetSize packet
  some { b with packetBuffer := packetBuffer, packetSize := b.packetSize + packet.length }

end ListBuffer

def sendList (packets : List (List UInt8)) : Option (List HandlerEffect) := do
  let b ← packets.foldlM ListBuffer.add ⟨[], List.replicate bufSize 0, 0⟩
  some ((b.sent ++ [b.packetBuffer.take b.packetSize]).map .send)

def boolByte (b : Bool) : List UInt8 := [if b then 1 else 0]

def roomInfoPacket (room : RoomInfoSnapshot) : List UInt8 :=
  packetOf .roomInfo (leBytes 8 room.roomKey.toNat ++ stringToCharBuf room.roomName
    maxRoomNameSize ++
    leBytes 1 room.maxPlayerCount.toUInt8.toNat ++ leBytes 1
    room.currentPlayerCount.toUInt8.toNat ++
    boolByte room.isPrivate ++ boolByte (room.roomState = .play))

def sendRoomList (c : PacketContext) : Option (List HandlerEffect) :=
  sendList ((c.activeRooms.filter fun room => room.roomState = .wait || room.roomState = .play).map
    roomInfoPacket)

def lobbyPlayerInfoPacket (player : LobbyPlayer) : List UInt8 :=
  packetOf .lobbyPlayerInfo
    (leBytes 4 player.playerId.toUInt32.toNat ++ stringToCharBuf player.nickname maxRoomNameSize)

def sendLobbyPlayerList (c : PacketContext) : Option (List HandlerEffect) :=
  if c.modeState ≠ .lobby then some []
  else sendList ((c.activeSessions.filter fun player =>
    player.playerId ≠ c.playerId && player.modeState = .lobby).map lobbyPlayerInfoPacket)

def friendInfoPacket (entry : FriendEntry) : List UInt8 :=
  packetOf .friendInfo (leBytes 4 entry.playerId.toUInt32.toNat ++
    stringToCharBuf entry.nickname maxPlayerNameSize ++ boolByte
    (entry.session.any (·.2 = .lobby)))

/-- A friend whose key leads to another player's session is left out. -/
def sendFriendList (c : PacketContext) : Option (List HandlerEffect) :=
  if c.modeState ≠ .lobby then some []
  else sendList ((c.friends.filter fun entry => entry.session.all (·.1 = entry.playerId)).map
    friendInfoPacket)

def rankingInfoPacket (ranking : RankingInfo) : List UInt8 :=
  packetOf .rankingInfo
    (stringToCharBuf ranking.nickname maxPlayerNameSize ++ leBytes 4 ranking.score.toUInt32.toNat)

def sendRankings (c : PacketContext) : Option (List HandlerEffect) :=
  if c.modeState ≠ .lobby || c.rankings.isEmpty then some []
  else sendList (c.rankings.map rankingInfoPacket)

/-! ## The relays -/

/-- `C2S_MESSAGE`: the text after the header, behind a struct with the sender's name. -/
def relayMessage (c : PacketContext) (packet : List UInt8) : Option (List HandlerEffect) := do
  let size ← headerSize packet
  let msgSize : Int := size - packetHeaderSize
  if msgSize = 0 then some []
  else if msgSize < 0 then none
  else
    let sendSize := S2CType.message.size + msgSize.toNat
    let front := leBytes 2 (sendSize % 65536) ++ leBytes 1 S2CType.message.code ++
      leBytes 4 c.playerId.toUInt32.toNat ++ stringToCharBuf c.nickname maxPlayerNameSize
    let sendBuffer ← writeAt (List.replicate sendSize 0) 0 front
    let msg ← readAt packet packetHeaderSize msgSize.toNat
    let sendBuffer ← writeAt sendBuffer S2CType.message.size msg
    some [.relay sendBuffer (front.length + msg.length)]

/-- `C2S_TEST`: the buffer is as long as the packet that came in. -/
def relayTest (c : PacketContext) (packet : List UInt8) : Option (List HandlerEffect) := do
  let size ← headerSize packet
  let msgSize : Int := size - c2sTestPacketSize
  let lastTime ← readAt packet packetHeaderSize 8
  let front :=
    leBytes 2 size ++ leBytes 1 s2cTestCode ++ leBytes 4 c.playerId.toUInt32.toNat ++ lastTime
  let sendBuffer ← writeAt (List.replicate size 0) 0 front
  if msgSize < 0 then none
  else
    let msg ← readAt packet c2sTestPacketSize msgSize.toNat
    let sendBuffer ← writeAt sendBuffer s2cTestPacketSize msg
    some [.relay sendBuffer (front.length + msg.length)]

/-! ## The lobby -/

def processLogin (c : PacketContext) (packet : List UInt8) : Option (List HandlerEffect) :=
  if c.modeState ≠ .login then some []
  else do
    let loginId ← charBufToString packet packetHeaderSize maxPlayerIdSize
    let password ← charBufToString packet (packetHeaderSize + maxPlayerIdSize)
      maxPlayerPasswordSize
    some [.login loginId password]

def processTestLogin (c : PacketContext) (packet : List UInt8) : Option (List HandlerEffect) :=
  if c.modeState ≠ .login then some []
  else do
    let playerId ← readInt packet packetHeaderSize
    if playerId ≤ 0 ∨ playerId > maxPlayerCount then some [.sendError invalidRequest]
    else
      let loginId ← charBufToString packet (packetHeaderSize + 4) maxPlayerIdSize
      some [.testLogin playerId loginId]

/-- The friend cases: an id, which is read in the lobby. -/
def processFriend (c : PacketContext) (type : C2SType) (packet : List UInt8) :
    Option (List HandlerEffect) :=
  if c.modeState ≠ .lobby then some []
  else do
    let playerId ← readInt packet packetHeaderSize
    some [.friendTask type playerId]

/-- `LobbyThreadManager::ProcessPacket`; the type is in the header's third byte. -/
def processPacket (c : PacketContext) (packet : List UInt8) : Option (List HandlerEffect) := do
  let type ← packet[2]?
  match C2SType.ofCode? type.toNat with
  | some .login => if c.isTestMode then some [] else processLogin c packet
  | some .testLogin => if c.isTestMode then processTestLogin c packet else some []
  | some .message => if c.modeState ≠ .lobby then some [] else relayMessage c packet
  | some .test => relayTest c packet
  | some .addPublicRoom | some .addPrivateRoom =>
      if c.beginsTransition then do
        let size ← headerSize packet
        let copy ← readAt packet 0 size
        some [.createRoom copy]
      else some []
  | some .joinPublicRoom => do
      let roomKey ← readRoomKey packet packetHeaderSize
      some [.tryJoinRoom roomKey []]
  | some .joinPrivateRoom => do
      let roomKey ← readRoomKey packet packetHeaderSize
      let roomPassword ← charBufToString packet (packetHeaderSize + 8) maxRoomPasswordSize
      some [.tryJoinRoom roomKey roomPassword]
  | some .requestRoomList => sendRoomList c
  | some .requestLobbyPlayerList => sendLobbyPlayerList c
  | some .requestFriendList => sendFriendList c
  | some .requestRankings => sendRankings c
  | some .fastMatching => do
      let maxPlayerCount ← readChar packet packetHeaderSize
      some [.findMatch maxPlayerCount]
  | some .addFriendRequest => processFriend c .addFriendRequest packet
  | some .acceptFriend => processFriend c .acceptFriend packet
  | some .deleteFriend => processFriend c .deleteFriend packet
  | _ => some []

/-! ## Rooms -/

/-- `TetrisRoom::HandlePacket`. -/
def RoomOfSession.handleCommon (room : RoomOfSession) (type : Option C2SType)
    (packet : List UInt8) :
    Option (List HandlerEffect) :=
  match type with
  | some .removePlayer => some [.roomTask .removePlayer]
  | some .start => some [.roomTask .start]
  | some .move =>
      if !room.hasPlayer || room.roomState ≠ .play then some []
      else do
        let moveType ← readChar packet packetHeaderSize
        some [.move moveType]
  | _ => some []

/-- `HandlePacket` of `SingleRoom` and of `MultiRoom`. -/
def RoomOfSession.handlePacket (room : RoomOfSession) (packet : List UInt8) :
    Option (List HandlerEffect) := do
  let code ← packet[2]?
  let type := C2SType.ofCode? code.toNat
  if room.isSingle then
    match type with
    | some .giveUp => some [.roomTask .giveUp]
    | type => room.handleCommon type packet
  else
    match type with
    | some .ready => some [.roomTask .ready]
    | some .kick => do
        let playerId ← readInt packet packetHeaderSize
        some [.kick playerId]
    | type => room.handleCommon type packet

/-- `RoutePacket`, and `GameThreadManager::ProcessPacket` for a session in a room. -/
def routePacket (c : PacketContext) (packet : List UInt8) : Option (List HandlerEffect) :=
  match c.modeState with
  | .none => some []
  | .login | .lobby => processPacket c packet
  | .room =>
      match c.room with
      | none => some [.sendError invalidRequest]
      | some room => room.handlePacket packet

/-! ## Creation, from the copied packet -/

/-- The counts a room can have. -/
def isRoomSize (count : Int) : Bool := count = 1 || count = 2 || count = 5

/-- What `CreatePublicRoom` and `CreatePrivateRoom` read; a count that no room has is the end of
it. -/
def readCreateRequest (packet : List UInt8) : Option (Option (Int × List UInt8 × List UInt8)) := do
  let code ← packet[2]?
  let count ← readChar packet packetHeaderSize
  if !isRoomSize count then some none
  else
    let roomName ← charBufToString packet (packetHeaderSize + 1) maxRoomNameSize
    if C2SType.ofCode? code.toNat = some .addPrivateRoom then
      let roomPassword ← charBufToString packet (packetHeaderSize + 1 + maxRoomNameSize)
        maxRoomPasswordSize
      some (some (count, roomName, roomPassword))
    else some (some (count, roomName, []))

end ProjectTetris

import Mathlib.Algebra.Ring.Int.Defs
import Mathlib.Data.List.Forall2
import Mathlib.Data.List.TakeWhile
import ProjectTetris.Client.PacketStructs
import ProjectTetris.Net.InsidePacket

/-!
# Packets the client builds

`PacketBuilder` and the classes it fills, from `packet_builder.py` and `packet_structs.py`.
They are the second place where the client-to-server packets are written down: the types,
the formats and the lengths of the strings are the client's own.

A string is cut to its field and filled up with zeros; one that fills the field has no zero
at its end. A chat message comes after the header, and an empty one is no packet at all.
-/

namespace ProjectTetris.Client

open Bytes Framing Memory

/-! ## `struct.pack` -/

/-- One value; a wrong type or a number out of range is `struct.error`. -/
def FormatCode.pack : FormatCode → PyValue → Option (List UInt8)
  | H, .int v => if 0 ≤ v ∧ v < 2 ^ 16 then some (leBytes 2 v.toNat) else none
  | B, .int v => if 0 ≤ v ∧ v < 2 ^ 8 then some (leBytes 1 v.toNat) else none
  | b, .int v => if -2 ^ 7 ≤ v ∧ v < 2 ^ 7 then some (leBytes 1 (v % 2 ^ 8).toNat) else none
  | i, .int v => if -2 ^ 31 ≤ v ∧ v < 2 ^ 31 then some (leBytes 4 (v % 2 ^ 32).toNat) else none
  | Q, .int v => if 0 ≤ v ∧ v < 2 ^ 64 then some (leBytes 8 v.toNat) else none
  | bool, .bool v => some [if v then 1 else 0]
  | s count, .bytes l => some (l.take count ++ List.replicate (count - l.length) 0)
  | _, _ => none

/-- As many values as the format has characters. -/
def pack : List FormatCode → List PyValue → Option (List UInt8)
  | [], [] => some []
  | c :: fmt, v :: values => do
      let l ← c.pack v
      let rest ← pack fmt values
      some (l ++ rest)
  | _, _ => none

/-! ## The classes -/

/-- A subclass of `SendPacketStruct`: `FMT`, and the fields other than `header` with their
defaults. -/
structure SendPacketStruct where
  name : String
  fmt : List FormatCode
  fields : List (String × PyValue)

/-- An object of one of these classes. -/
structure SendPacket where
  cls : SendPacketStruct
  size : Int
  type : Int
  attributes : List (String × PyValue)

def sendPacketStruct (name : String) (bodyFmt : List FormatCode)
    (fields : List (String × PyValue)) :
    SendPacketStruct where
  name := name
  fmt := headerFmt ++ bodyFmt
  fields := fields

namespace SendPacket

/-- The class called without arguments. -/
def new (cls : SendPacketStruct) : SendPacket := ⟨cls, -1, -1, cls.fields⟩

def setHeader (data : SendPacket) (packetType : Int) (packetSize : Option Int) : SendPacket :=
  { data with type := packetType, size := packetSize.getD (calcsize data.cls.fmt) }

/-- `data.name = value`. -/
def setField (data : SendPacket) (name : String) (value : PyValue) : SendPacket :=
  { data with attributes := data.attributes.map fun f => if f.1 = name then (name, value) else f }

def toValues (data : SendPacket) : List PyValue :=
  .int data.size :: .int data.type :: data.attributes.map (·.2)

end SendPacket

def maxUserId : Nat := 16 * 3
def maxUserPassword : Nat := 16 * 3

def c2sLoginPacket : SendPacketStruct :=
  sendPacketStruct "C2S_LOGIN_PACKET" [.s maxUserId, .s maxUserPassword] [("user_id", .bytes []),
    ("user_password", .bytes [])]

def c2sMessagePacket : SendPacketStruct := sendPacketStruct "C2S_MESSAGE_PACKET" [] []

def c2sDisconnectPacket : SendPacketStruct := sendPacketStruct "C2S_DISCONNECT_PACKET" [] []

def c2sAddOpenRoomPacket : SendPacketStruct :=
  sendPacketStruct "C2S_ADD_OPEN_ROOM_PACKET" [.b, .s maxRoomName] [("max_user", .int (-1)),
    ("room_name", .bytes [])]

def c2sAddLockRoomPacket : SendPacketStruct :=
  sendPacketStruct "C2S_ADD_LOCK_ROOM_PACKET" [.b, .s maxRoomName, .s maxRoomPassword]
    [("max_user", .int (-1)), ("room_name", .bytes []), ("room_password", .bytes [])]

def c2sJoinOpenRoomPacket : SendPacketStruct :=
  sendPacketStruct "C2S_JOIN_OPEN_ROOM_PACKET" [.Q] [("room_key", .int 0)]

def c2sJoinLockRoomPacket : SendPacketStruct :=
  sendPacketStruct "C2S_JOIN_LOCK_ROOM_PACKET" [.Q, .s maxRoomPassword] [("room_key", .int 0),
    ("room_password", .bytes [])]

def c2sDeleteUserPacket : SendPacketStruct := sendPacketStruct "C2S_DELETE_USER_PACKET" [] []

def c2sReadyPacket : SendPacketStruct := sendPacketStruct "C2S_READY_PACKET" [] []

def c2sStartPacket : SendPacketStruct := sendPacketStruct "C2S_START_PACKET" [] []

def c2sKickPacket : SendPacketStruct :=
  sendPacketStruct "C2S_KICK_PACKET" [.i] [("kick_user_id", .int (-1))]

def c2sMovePacket : SendPacketStruct :=
  sendPacketStruct "C2S_MOVE_PACKET" [.b] [("move_type", .int (-1))]

def c2sGiveupPacket : SendPacketStruct := sendPacketStruct "C2S_GIVEUP_PACKET" [] []

def c2sRequestRoomListPacket : SendPacketStruct :=
  sendPacketStruct "C2S_REQUEST_ROOM_LIST_PACKET" [] []

def c2sFastMatchingPacket : SendPacketStruct :=
  sendPacketStruct "C2S_FAST_MATCHING_PACKET" [.b] [("max_user", .int (-1))]

def c2sRequestFriendPacket : SendPacketStruct :=
  sendPacketStruct "C2S_REQUEST_FRIEND_PACKET" [.i] [("recver_id", .int (-1))]

def c2sDeleteFriendPacket : SendPacketStruct :=
  sendPacketStruct "C2S_DELETE_FRIEND_PACKET" [.i] [("target_id", .int (-1))]

def c2sAcceptFriendPacket : SendPacketStruct :=
  sendPacketStruct "C2S_ACCEPT_FRIEND_PACKET" [.i] [("requester_id", .int (-1))]

def c2sRequestLobbyUserListPacket : SendPacketStruct :=
  sendPacketStruct "C2S_REQUEST_LOBBY_USER_LIST_PACKET" [] []

def c2sRequestFriendListPacket : SendPacketStruct :=
  sendPacketStruct "C2S_REQUEST_FRIEND_LIST_PACKET" [] []

def c2sRequestRankingPacket : SendPacketStruct :=
  sendPacketStruct "C2S_REQUEST_RANKING_PACKET" [] []

/-! ### `packet_types.py` -/

def c2sLogin : Int := 2
def c2sMessage : Int := 4
def c2sDisconnect : Int := 8
def c2sAddOpenRoom : Int := 9
def c2sAddLockRoom : Int := 11
def c2sJoinOpenRoom : Int := 13
def c2sDeleteUser : Int := 15
def c2sReady : Int := 17
def c2sStart : Int := 19
def c2sKick : Int := 21
def c2sMove : Int := 23
def c2sGiveup : Int := 45
def c2sRequestRoomList : Int := 47
def c2sJoinLockRoom : Int := 50
def c2sFastMatching : Int := 51
def c2sRequestFriend : Int := 52
def c2sDeleteFriend : Int := 53
def c2sAcceptFriend : Int := 54
def c2sRequestLobbyUserList : Int := 58
def c2sRequestFriendList : Int := 60
def c2sRequestRanking : Int := 62

/-! ## The builder -/

namespace PacketBuilder

def strToBytes (s : String) (arrayLen : Nat) : List UInt8 :=
  let encoded := (utf8 s).take arrayLen
  encoded ++ List.replicate (arrayLen - encoded.length) 0

def packStruct (data : SendPacket) : Option (List UInt8) := pack data.cls.fmt data.toValues

/-- A packet that is only a header. -/
def buildHeader (cls : SendPacketStruct) (packetType : Int) : Option (List UInt8) :=
  packStruct ((SendPacket.new cls).setHeader packetType none)

/-- A packet with one number. -/
def buildInt (cls : SendPacketStruct) (packetType : Int) (field : String) (v : Int) :
    Option (List UInt8) :=
  packStruct (((SendPacket.new cls).setHeader packetType none).setField field (.int v))

def buildLoginPkt (id pw : String) : Option (List UInt8) :=
  packStruct ((((SendPacket.new c2sLoginPacket).setHeader c2sLogin none).setField "user_id"
    (.bytes (strToBytes id maxUserId))).setField "user_password"
    (.bytes (strToBytes pw maxUserPassword)))

def buildMessagePkt (message : String) : Option (List UInt8) :=
  if message.length = 0 then some []
  else do
    let encoded := utf8 message
    let messageBytes := encoded.length
    let header ← packStruct ((SendPacket.new c2sMessagePacket).setHeader c2sMessage
      (some (calcsize c2sMessagePacket.fmt + messageBytes : Nat)))
    let body ← pack [.s messageBytes] [.bytes encoded]
    some (header ++ body)

/-- A password that is `None` or empty is none. -/
def buildJoinRoomPkt (roomKey : Int) (roomPw : Option String) : Option (List UInt8) :=
  if roomPw.getD "" ≠ "" then
    packStruct
      ((((SendPacket.new c2sJoinLockRoomPacket).setHeader c2sJoinLockRoom none).setField "room_key"
      (.int roomKey)).setField "room_password"
      (.bytes (strToBytes (roomPw.getD "") maxRoomPassword)))
  else
    packStruct
      (((SendPacket.new c2sJoinOpenRoomPacket).setHeader c2sJoinOpenRoom none).setField "room_key"
      (.int roomKey))

def buildCreateRoom (title : String) (playersNum : Int) (isOpen : Bool) (pw : Option String) :
    Option (List UInt8) :=
  let titleBytes := strToBytes title maxRoomName
  if isOpen then
    packStruct
      ((((SendPacket.new c2sAddOpenRoomPacket).setHeader c2sAddOpenRoom none).setField "max_user"
      (.int playersNum)).setField "room_name" (.bytes titleBytes))
  else
    packStruct
      (((((SendPacket.new c2sAddLockRoomPacket).setHeader c2sAddLockRoom none).setField "max_user"
      (.int playersNum)).setField "room_name" (.bytes titleBytes)).setField "room_password"
      (.bytes (strToBytes (pw.getD "") maxRoomPassword)))

def buildMovePkt (moveType : Int) := buildInt c2sMovePacket c2sMove "move_type" moveType
def buildFastMatching (maxUser : Int) :=
  buildInt c2sFastMatchingPacket c2sFastMatching "max_user" maxUser
def buildKickPkt (targetId : Int) := buildInt c2sKickPacket c2sKick "kick_user_id" targetId
def buildRequestFriendPkt (recverId : Int) :=
  buildInt c2sRequestFriendPacket c2sRequestFriend "recver_id" recverId
def buildDeleteFriendPkt (targetId : Int) :=
  buildInt c2sDeleteFriendPacket c2sDeleteFriend "target_id" targetId
def buildAcceptFriendPkt (requesterId : Int) :=
  buildInt c2sAcceptFriendPacket c2sAcceptFriend "requester_id" requesterId

def buildRequestRoomListPkt := buildHeader c2sRequestRoomListPacket c2sRequestRoomList
def buildDisconnectPkt := buildHeader c2sDisconnectPacket c2sDisconnect
def buildStartPkt := buildHeader c2sStartPacket c2sStart
def buildReadyPkt := buildHeader c2sReadyPacket c2sReady
def buildDeleteUserPkt := buildHeader c2sDeleteUserPacket c2sDeleteUser
def buildGiveupPkt := buildHeader c2sGiveupPacket c2sGiveup
def buildRequestLobbyUserListPkt :=
  buildHeader c2sRequestLobbyUserListPacket c2sRequestLobbyUserList
def buildRequestFriendListPkt := buildHeader c2sRequestFriendListPacket c2sRequestFriendList
def buildRequestRankingPkt := buildHeader c2sRequestRankingPacket c2sRequestRanking

end PacketBuilder

/-- A call of one of the builder's functions. -/
inductive BuilderCall where
  | login (id pw : String)
  | message (message : String)
  | joinRoom (roomKey : Int) (roomPw : Option String)
  | requestRoomList
  | disconnect
  | move (moveType : Int)
  | createRoom (title : String) (playersNum : Int) (isOpen : Bool) (pw : Option String)
  | fastMatching (maxUser : Int)
  | start
  | ready
  | deleteUser
  | giveup
  | kick (targetId : Int)
  | requestFriend (recverId : Int)
  | deleteFriend (targetId : Int)
  | acceptFriend (requesterId : Int)
  | requestLobbyUserList
  | requestFriendList
  | requestRanking

open PacketBuilder in
def BuilderCall.build : BuilderCall → Option (List UInt8)
  | login id pw => buildLoginPkt id pw
  | message m => buildMessagePkt m
  | joinRoom roomKey roomPw => buildJoinRoomPkt roomKey roomPw
  | requestRoomList => buildRequestRoomListPkt
  | disconnect => buildDisconnectPkt
  | move moveType => buildMovePkt moveType
  | createRoom title playersNum isOpen pw => buildCreateRoom title playersNum isOpen pw
  | fastMatching maxUser => buildFastMatching maxUser
  | start => buildStartPkt
  | ready => buildReadyPkt
  | deleteUser => buildDeleteUserPkt
  | giveup => buildGiveupPkt
  | kick targetId => buildKickPkt targetId
  | requestFriend recverId => buildRequestFriendPkt recverId
  | deleteFriend targetId => buildDeleteFriendPkt targetId
  | acceptFriend requesterId => buildAcceptFriendPkt requesterId
  | requestLobbyUserList => buildRequestLobbyUserListPkt
  | requestFriendList => buildRequestFriendListPkt
  | requestRanking => buildRequestRankingPkt

/-! ## What the server reads -/

/-- A member as the server's code reads it. -/
inductive MemberValue where
  | int (v : Int)
  | text (l : List UInt8)
  deriving DecidableEq

/-- A member read through the struct. -/
def readMember (packet : List UInt8) (offset : Nat) : FieldType → Option MemberValue
  | .char => (readChar packet offset).map .int
  | .bool => (readAt packet offset 1).map fun l => .int (if l.any (· ≠ 0) then 1 else 0)
  | .int => (readInt packet offset).map .int
  | .roomKey => (readRoomKey packet offset).map fun v => .int v
  | .charBuf n => (charBufToString packet offset n).map .text

/-- The members one after the other, from an offset on. -/
def readMembers (packet : List UInt8) : Nat → List FieldType → Option (List MemberValue)
  | _, [] => some []
  | offset, f :: fields => do
      let v ← readMember packet offset f
      let rest ← readMembers packet (offset + f.size) fields
      some (v :: rest)

/-- The bytes of a string up to its first NUL, as many as a field has. -/
def fieldText (s : String) (n : Nat) : MemberValue := .text (((utf8 s).takeWhile (· ≠ 0)).take n)

namespace BuilderCall

/-- The struct the packet is meant for. -/
def type : BuilderCall → C2SType
  | login _ _ => .login
  | message _ => .message
  | joinRoom _ roomPw => if roomPw.getD "" ≠ "" then .joinPrivateRoom else .joinPublicRoom
  | requestRoomList => .requestRoomList
  | disconnect => .disconnect
  | move _ => .move
  | createRoom _ _ isOpen _ => if isOpen then .addPublicRoom else .addPrivateRoom
  | fastMatching _ => .fastMatching
  | start => .start
  | ready => .ready
  | deleteUser => .removePlayer
  | giveup => .giveUp
  | kick _ => .kick
  | requestFriend _ => .addFriendRequest
  | deleteFriend _ => .deleteFriend
  | acceptFriend _ => .acceptFriend
  | requestLobbyUserList => .requestLobbyPlayerList
  | requestFriendList => .requestFriendList
  | requestRanking => .requestRankings

/-- The values given, in the order of the struct's members. -/
def given : BuilderCall → List MemberValue
  | login id pw => [fieldText id maxPlayerIdSize, fieldText pw maxPlayerPasswordSize]
  | joinRoom roomKey roomPw =>
      if roomPw.getD "" ≠ "" then [.int roomKey, fieldText (roomPw.getD "") maxRoomPasswordSize]
      else [.int roomKey]
  | createRoom title playersNum isOpen pw =>
      if isOpen then [.int playersNum, fieldText title maxRoomNameSize]
      else [.int playersNum, fieldText title maxRoomNameSize,
        fieldText (pw.getD "") maxRoomPasswordSize]
  | move v | fastMatching v | kick v | requestFriend v | deleteFriend v
  | acceptFriend v => [.int v]
  | message _ | requestRoomList | disconnect | start | ready | deleteUser | giveup
  | requestLobbyUserList
  | requestFriendList | requestRanking => []

/-- Numbers in the ranges of their fields, and messages that fit a packet. -/
def InRange : BuilderCall → Prop
  | message m => (utf8 m).length ≤ 2045
  | joinRoom roomKey _ => 0 ≤ roomKey ∧ roomKey < 2 ^ 64
  | createRoom _ v _ _ | move v | fastMatching v => -2 ^ 7 ≤ v ∧ v < 2 ^ 7
  | kick v | requestFriend v | deleteFriend v | acceptFriend v => -2 ^ 31 ≤ v ∧ v < 2 ^ 31
  | _ => True

end BuilderCall

/-- These bytes are one packet, and the server reads from it what was given. -/
structure Decodes (call : BuilderCall) (bytes : List UInt8) : Prop where
  /-- Whatever follows it in the stream, it is the next packet. -/
  cut : ∀ rest, packetFramer.cut (bytes ++ rest) =
    { packetFramer.cut rest with frames := bytes :: (packetFramer.cut rest).frames }
  declared : headerSize bytes = some bytes.length
  type : typeOf bytes = some call.type
  sizeof : call.type ≠ .message → call.type.size = some bytes.length
  members : (call.type.fields.bind fun fields => readMembers bytes packetHeaderSize fields) =
    some call.given
  body : ∀ m, call = .message m → bytes.drop packetHeaderSize = utf8 m

/-! ## A member for a character -/

variable {f : FieldType} {v : PyValue} {l front rest : List UInt8}

/-- A value a member of this type can have, packed. -/
def FitsMember : FieldType → PyValue → Prop
  | .char, .int v => -2 ^ 7 ≤ v ∧ v < 2 ^ 7
  | .int, .int v => -2 ^ 31 ≤ v ∧ v < 2 ^ 31
  | .roomKey, .int v => 0 ≤ v ∧ v < 2 ^ 64
  | .charBuf n, .bytes l => l.length = n
  | _, _ => False

/-- The value as the server sees it. -/
def memberOf : PyValue → MemberValue
  | .int v => .int v
  | .bytes l => .text (l.takeWhile (· ≠ 0))
  | .bool v => .int (if v then 1 else 0)
  | .str s => .text (utf8 s)

theorem readAt_append (front l rest : List UInt8) :
    readAt (front ++ l ++ rest) front.length l.length = some l := by
  rw [readAt, if_pos (by simp only [List.length_append]; omega), List.append_assoc, List.drop_left,
    List.take_left]

/-- **The character that packs a member of this type writes what the server reads there.** -/
theorem pack_member (h : FitsMember f v) : ∃ l, (formatOf f).pack v = some l ∧ l.length = f.size ∧
    ∀ front rest, readMember (front ++ l ++ rest) front.length f = some (memberOf v) := by
  cases f with
  | char =>
      cases v with
      | int v =>
          obtain ⟨hlow, hhigh⟩ := h
          refine ⟨_, if_pos ⟨hlow, hhigh⟩, length_leBytes 1 _, fun front rest => ?_⟩
          have hread := readAt_append front (leBytes 1 (v % 2 ^ 8).toNat) rest
          rw [length_leBytes] at hread
          rw [readMember, readChar, hread]
          exact congrArg (fun v => some (MemberValue.int v))
            (signedOfLeBytes_emod (m := 256) rfl (by omega) (by omega))
      | _ => exact h.elim
  | int =>
      cases v with
      | int v =>
          obtain ⟨hlow, hhigh⟩ := h
          refine ⟨_, if_pos ⟨hlow, hhigh⟩, length_leBytes 4 _, fun front rest => ?_⟩
          have hread := readAt_append front (leBytes 4 (v % 2 ^ 32).toNat) rest
          rw [length_leBytes] at hread
          rw [readMember, readInt, hread]
          exact congrArg (fun v => some (MemberValue.int v))
            (signedOfLeBytes_emod (m := 4294967296) rfl (by omega) (by omega))
      | _ => exact h.elim
  | roomKey =>
      cases v with
      | int v =>
          obtain ⟨hlow, hhigh⟩ := h
          refine ⟨_, if_pos ⟨hlow, hhigh⟩, length_leBytes 8 _, fun front rest => ?_⟩
          have hread := readAt_append front (leBytes 8 v.toNat) rest
          rw [length_leBytes] at hread
          rw [readMember, readRoomKey, hread]
          have hvalue : ofLeBytes (leBytes 8 v.toNat) = v.toNat := ofLeBytes_leBytes (by omega)
          show some (MemberValue.int (ofLeBytes (leBytes 8 v.toNat))) = _
          rw [hvalue, Int.toNat_of_nonneg hlow]
          rfl
      | _ => exact h.elim
  | charBuf n =>
      cases v with
      | bytes l =>
          have hlength : l.length = n := h
          refine ⟨l, ?_, hlength, fun front rest => ?_⟩
          · show some (l.take n ++ List.replicate (n - l.length) 0) = some l
            rw [← hlength, List.take_length, Nat.sub_self, List.replicate_zero, List.append_nil]
          · rw [readMember, charBufToString, ← hlength, textAt_append]
            rfl
      | _ => exact h.elim
  | bool => exact h.elim

/-- The members of a struct, packed and read. -/
theorem pack_members :
    ∀ {fields : List FieldType} {values : List PyValue}, List.Forall₂ FitsMember fields values →
    ∃ l, pack (fields.map formatOf) values = some l ∧ l.length = (fields.map FieldType.size).sum ∧
      ∀ front, readMembers (front ++ l) front.length fields = some (values.map memberOf)
  | _, _, .nil => ⟨[], rfl, rfl, fun _ => rfl⟩
  | f :: fields, v :: values, .cons hv hvalues => by
      obtain ⟨l, hpack, hlength, hread⟩ := pack_member hv
      obtain ⟨rest, hpackRest, hlengthRest, hreadRest⟩ := pack_members hvalues
      refine ⟨l ++ rest, by simp [pack, hpack, hpackRest], by simp [hlength, hlengthRest],
        fun front => ?_⟩
      have hnext := hreadRest (front ++ l)
      rw [List.length_append, hlength] at hnext
      rw [readMembers, ← List.append_assoc, hread front rest, hnext]
      rfl

/-! ## A packet -/

theorem takeWhile_take {α : Type} (p : α → Bool) :
    ∀ (n : Nat) (l : List α), (l.take n).takeWhile p = (l.takeWhile p).take n
  | 0, _ => by simp
  | _ + 1, [] => by simp
  | n + 1, a :: l => by
      rw [List.take_succ_cons, List.takeWhile_cons, List.takeWhile_cons]
      split
      · rw [List.take_succ_cons, takeWhile_take p n l]
      · simp

/-- Zeros at the end are behind the first one. -/
theorem takeWhile_padded (l : List UInt8) (k : Nat) :
    (l ++ List.replicate k 0).takeWhile (· ≠ 0) = l.takeWhile (· ≠ 0) := by
  by_cases hzero : ∀ b ∈ l, (decide (b ≠ 0)) = true
  · rw [List.takeWhile_append_of_pos hzero, List.takeWhile_eq_self_iff.mpr hzero]
    cases k with
    | zero => rw [List.replicate_zero, List.takeWhile_nil, List.append_nil]
    | succ k => rw [List.replicate_succ, List.takeWhile_cons_of_neg (by decide), List.append_nil]
  · rw [List.takeWhile_append, if_neg]
    intro hlength
    exact hzero (List.takeWhile_eq_self_iff.mp (List.takeWhile_prefix _ |>.eq_of_length hlength))

namespace PacketBuilder

theorem length_strToBytes (s : String) (n : Nat) : (strToBytes s n).length = n := by
  simp only [strToBytes, List.length_append, List.length_replicate, List.length_take]
  omega

/-- The zeros behind a string are no part of it. -/
theorem memberOf_strToBytes (s : String) (n : Nat) :
    memberOf (.bytes (strToBytes s n)) = fieldText s n := by
  rw [memberOf, fieldText, strToBytes, takeWhile_padded, takeWhile_take]

theorem fitsMember_strToBytes (s : String) (n : Nat) :
    FitsMember (.charBuf n) (.bytes (strToBytes s n)) :=
  length_strToBytes s n

end PacketBuilder

/-- Bytes with a header that says how many they are are one packet. -/
theorem cut_packet {size : Nat} {more : List UInt8}
    (hsize : (leBytes 2 size ++ more).length = size) (hmin : packetHeaderSize ≤ size)
    (hmax : size ≤ bufSize) (rest : List UInt8) :
    packetFramer.cut (leBytes 2 size ++ more ++ rest) =
      { packetFramer.cut rest with frames := (leBytes
        2 size ++ more) :: (packetFramer.cut rest).frames } := by
  have hlt : size < 256 ^ 2 := Nat.lt_of_le_of_lt hmax (by decide)
  refine packetFramer.cut_frame_append rest ?_
  rw [hsize]
  exact packetHeader.front_of_announced (headerSize_of_append more hlt) hmin hmax
    (Nat.le_of_eq hsize.symm)

theorem size_le {type : C2SType} {size : Nat} (h : type.size = some size) : size ≤ bufSize := by
  cases type <;> cases h <;> decide

theorem typeOf_packet (size : Nat) (type : C2SType) (more : List UInt8) :
    typeOf (leBytes 2 size ++ (leBytes 1 type.code ++ more)) = some type := by
  have hcode : (UInt8.ofNat (type.code % 256)).toNat = type.code := by cases type <;> rfl
  show C2SType.ofCode? (UInt8.ofNat (type.code % 256)).toNat = some type
  rw [hcode, C2SType.ofCode?_code]

/-- The header of a packet with so many bytes. -/
theorem pack_header {n : Nat} {type : C2SType} (hn : n < 2 ^ 16) {fmt : List FormatCode}
    {values : List PyValue} {body : List UInt8} (hpack : pack fmt values = some body) :
    pack (headerFmt ++ fmt) (.int n :: .int type.code :: values) =
      some (leBytes 2 n ++ (leBytes 1 type.code ++ body)) := by
  have hcode : type.code < 2 ^ 8 := by cases type <;> decide
  have hH : FormatCode.pack .H (.int n) = some (leBytes 2 n) := by
    rw [FormatCode.pack, if_pos ⟨Int.natCast_nonneg n, by exact_mod_cast hn⟩, Int.toNat_natCast]
  have hB : FormatCode.pack .B (.int type.code) = some (leBytes 1 type.code) := by
    rw [FormatCode.pack, if_pos ⟨Int.natCast_nonneg _, by exact_mod_cast hcode⟩, Int.toNat_natCast]
  simp only [headerFmt, List.cons_append, List.nil_append, pack, hH, hB, hpack,
    Option.bind_eq_bind, Option.bind_some]

/-- **A packet of a class that has the struct's layout is read as it was filled.** -/
theorem packStruct_decodes {call : BuilderCall} (data : SendPacket) {fields : List FieldType}
    (values : List PyValue) (hfields : call.type.fields = some fields)
    (hmessage : call.type ≠ .message) (hfmt : data.cls.fmt = headerFmt ++ fields.map formatOf)
    (hsize : data.size = calcsize data.cls.fmt) (htype : data.type = call.type.code)
    (hattributes : data.attributes.map (·.2) = values)
    (hvalues : List.Forall₂ FitsMember fields values)
    (hgiven : values.map memberOf = call.given) :
    ∃ bytes, PacketBuilder.packStruct data = some bytes ∧ Decodes call bytes := by
  obtain ⟨body, hpack, hlength, hread⟩ := pack_members hvalues
  have hcalc : calcsize data.cls.fmt = packetHeaderSize + body.length := by
    rw [hfmt, hlength, calcsize, headerFmt, List.map_append, List.map_map]
    have hsizes : fields.map (FormatCode.size ∘ formatOf) = fields.map FieldType.size :=
      List.map_congr_left fun f _ => by cases f <;> rfl
    rw [hsizes]
    simp only [List.map_cons, List.map_nil, List.sum_append, List.sum_cons, List.sum_nil,
      FormatCode.size, packetHeaderSize]
    omega
  have hsizeof : call.type.size = some (packetHeaderSize + body.length) := by
    rw [C2SType.size, hfields, hlength]; rfl
  have hmax := size_le hsizeof
  generalize hn : packetHeaderSize + body.length = n at *
  have hnlt : n < 2 ^ 16 := Nat.lt_of_le_of_lt hmax (by decide)
  have hbytes : (leBytes 2 n ++ (leBytes 1 call.type.code ++ body)).length = n := by
    simp only [List.length_append, length_leBytes]
    rw [← hn, packetHeaderSize]
    omega
  refine ⟨leBytes 2 n ++ (leBytes 1 call.type.code ++ body), ?_, ?_⟩
  · rw [PacketBuilder.packStruct, SendPacket.toValues, hsize, htype, hattributes, hcalc, hfmt]
    exact pack_header hnlt hpack
  · refine ⟨fun rest => cut_packet hbytes (by omega) hmax rest, ?_, ?_,
      fun _ => ?_, ?_, fun m hm => ?_⟩
    · rw [hbytes]
      exact headerSize_of_append _ (by omega)
    · exact typeOf_packet n call.type body
    · rw [hbytes, hsizeof]
    · rw [hfields, Option.bind_some, ← List.append_assoc, ← hgiven]
      have hfront : (leBytes 2 n ++ leBytes 1 call.type.code).length = packetHeaderSize := by
        simp [length_leBytes, packetHeaderSize]
      rw [← hfront]
      exact hread _
    · subst hm
      exact absurd rfl hmessage

namespace PacketBuilder

/-- A chat message: the header, with the text behind it. -/
theorem buildMessagePkt_decodes {message : String} (hne : message ≠ "")
    (hle : (utf8 message).length ≤ 2045) :
    ∃ bytes, buildMessagePkt message = some bytes ∧ Decodes (.message message) bytes := by
  have hlength : message.length ≠ 0 := fun h => hne (String.length_eq_zero_iff.mp h)
  generalize hn : packetHeaderSize + (utf8 message).length = n
  have hheader : packetHeaderSize = 3 := rfl
  have hbytes : (leBytes 2 n ++ (leBytes 1 C2SType.message.code ++ utf8 message)).length = n := by
    simp only [List.length_append, length_leBytes]
    omega
  refine ⟨leBytes 2 n ++ (leBytes 1 C2SType.message.code ++ utf8 message), ?_, ?_⟩
  · have hpack : packStruct ((SendPacket.new c2sMessagePacket).setHeader c2sMessage
        (some (calcsize c2sMessagePacket.fmt + (utf8 message).length : Nat))) =
        some (leBytes 2 n ++ (leBytes 1 C2SType.message.code ++ [])) := by
      have hcalc : calcsize c2sMessagePacket.fmt = packetHeaderSize := rfl
      show pack (headerFmt ++ [])
        [.int ((calcsize c2sMessagePacket.fmt + (utf8 message).length : Nat) : Int),
        .int (C2SType.message.code : Int)] = _
      rw [hcalc, hn]
      exact pack_header (by omega) rfl
    have hbody : pack [.s (utf8 message).length] [.bytes (utf8 message)] =
        some (utf8 message) := by
      simp [pack, FormatCode.pack]
    rw [buildMessagePkt, if_neg hlength]
    simp only [hpack, hbody, Option.bind_eq_bind, Option.bind_some, List.append_nil,
      List.append_assoc]
  · refine ⟨fun rest => cut_packet hbytes (by omega) (by unfold bufSize; omega) rest, ?_,
      typeOf_packet n .message (utf8 message), fun h => absurd rfl h, rfl, fun m hm => ?_⟩
    · rw [hbytes]
      exact headerSize_of_append _ (by omega)
    · cases hm
      rw [← List.append_assoc]
      exact List.drop_left' (by rw [List.length_append, length_leBytes, length_leBytes, hheader])

theorem buildLoginPkt_decodes (id pw : String) :
    ∃ bytes, buildLoginPkt id pw = some bytes ∧ Decodes (.login id pw) bytes := by
  refine packStruct_decodes _ [.bytes (strToBytes id maxUserId),
    .bytes (strToBytes pw maxUserPassword)] rfl nofun rfl rfl
    rfl rfl (.cons (fitsMember_strToBytes ..) (.cons (fitsMember_strToBytes ..) .nil)) ?_
  simp only [List.map_cons, List.map_nil, memberOf_strToBytes]
  rfl

end PacketBuilder

open PacketBuilder in
/--
**Every packet the client builds is decoded to what was built.** It is one packet of the
stream, as long as its header and its struct say, its members are the values given, and a
string reads as far as its first NUL and the length of its field. Only an empty chat message
is no packet: nothing is sent.
-/
theorem built_decodes (call : BuilderCall) (h : call.InRange) : ∃ bytes, call.build = some bytes ∧
    (call = .message "" ∧ bytes = [] ∨ call ≠ .message "" ∧ Decodes call bytes) := by
  have hstruct : (∃ bytes, call.build = some bytes ∧ Decodes call bytes) → call ≠ .message "" →
      ∃ bytes, call.build = some bytes ∧
      (call = .message "" ∧ bytes = [] ∨ call ≠ .message "" ∧ Decodes call bytes) :=
    fun ⟨bytes, hbuild, hdecodes⟩ hne => ⟨bytes, hbuild, .inr ⟨hne, hdecodes⟩⟩
  cases call with
  | message m =>
      by_cases hm : m = ""
      · subst hm
        exact ⟨[], rfl, .inl ⟨rfl, rfl⟩⟩
      · exact hstruct (buildMessagePkt_decodes hm h) (by simpa using hm)
  | login id pw => exact hstruct (buildLoginPkt_decodes id pw) nofun
  | joinRoom roomKey roomPw =>
      by_cases hpw : roomPw.getD "" ≠ ""
      · have htype : (BuilderCall.joinRoom roomKey roomPw).type = .joinPrivateRoom := if_pos hpw
        have hfields : (BuilderCall.joinRoom roomKey roomPw).type.fields =
            some [.roomKey, .charBuf maxRoomPasswordSize] := by rw [htype]; rfl
        have hcode : c2sJoinLockRoom =
            ((BuilderCall.joinRoom roomKey roomPw).type.code : Int) := by rw [htype]; rfl
        refine hstruct ?_ nofun
        rw [BuilderCall.build, buildJoinRoomPkt, if_pos hpw]
        refine packStruct_decodes _ [.int roomKey,
          .bytes (strToBytes (roomPw.getD "") maxRoomPassword)]
          hfields (by rw [htype]; nofun) rfl rfl hcode rfl
          (.cons h (.cons (fitsMember_strToBytes ..) .nil)) ?_
        simp only [List.map_cons, List.map_nil, memberOf_strToBytes, BuilderCall.given, if_pos hpw]
        rfl
      · have htype : (BuilderCall.joinRoom roomKey roomPw).type = .joinPublicRoom := if_neg hpw
        have hfields : (BuilderCall.joinRoom roomKey roomPw).type.fields = some [.roomKey] := by
          rw [htype]; rfl
        have hcode : c2sJoinOpenRoom =
            ((BuilderCall.joinRoom roomKey roomPw).type.code : Int) := by rw [htype]; rfl
        refine hstruct ?_ nofun
        rw [BuilderCall.build, buildJoinRoomPkt, if_neg hpw]
        refine packStruct_decodes _ [.int roomKey] hfields (by rw [htype]; nofun) rfl rfl hcode rfl
          (.cons h .nil) ?_
        simp only [List.map_cons, List.map_nil, BuilderCall.given, if_neg hpw]
        rfl
  | createRoom title playersNum isOpen pw =>
      cases isOpen with
      | true =>
          refine hstruct (packStruct_decodes _ [.int playersNum,
            .bytes (strToBytes title maxRoomName)] rfl nofun rfl rfl
            rfl rfl (.cons h (.cons (fitsMember_strToBytes ..) .nil)) ?_) nofun
          simp only [List.map_cons, List.map_nil, memberOf_strToBytes]
          rfl
      | false =>
          refine hstruct
            (packStruct_decodes _ [.int playersNum, .bytes (strToBytes title maxRoomName),
            .bytes (strToBytes (pw.getD "") maxRoomPassword)] rfl nofun rfl rfl rfl rfl
            (.cons h (.cons (fitsMember_strToBytes ..) (.cons (fitsMember_strToBytes ..) .nil)))
            ?_) nofun
          simp only [List.map_cons, List.map_nil, memberOf_strToBytes]
          rfl
  | move v | fastMatching v | kick v | requestFriend v | deleteFriend v | acceptFriend v =>
      exact hstruct (packStruct_decodes _ [.int v] rfl nofun rfl rfl rfl rfl (.cons h .nil) rfl)
        nofun
  | _ => exact hstruct (packStruct_decodes _ [] rfl nofun rfl rfl rfl rfl .nil rfl) nofun

/-- A room with a password as long as its field. -/
theorem built_decodes_lockedRoom : ∃ bytes,
    (BuilderCall.createRoom "t" 2 false
      (some "0123456789abcdef0123456789abcdef0123456789abcdef")).build = some bytes ∧
      Decodes (.createRoom "t" 2 false (some "0123456789abcdef0123456789abcdef0123456789abcdef"))
      bytes := by
  obtain ⟨bytes, hbuild, ⟨hcall, _⟩ | ⟨_, hdecodes⟩⟩ := built_decodes
    (.createRoom "t" 2 false (some "0123456789abcdef0123456789abcdef0123456789abcdef"))
    ⟨by decide, by decide⟩
  · cases hcall
  · exact ⟨bytes, hbuild, hdecodes⟩

end ProjectTetris.Client

import ProjectTetris.Net.S2CType
import ProjectTetris.Threads.RoomCreation

/-!
# Walking over the active rooms

`SendRoomList` and `FindMatch` ask `GetActiveRoom` for the room at one index after the
other, on a lobby thread, while game threads create and delete rooms. Each time the list
is read, then the registry, then the array; each has a lock of its own, so each read is a
step. The walk ends at the first index without a room.
-/

namespace ProjectTetris

open Transition

def notFoundJoinableRoom : Int := 13

/-- What a room keeps for its whole life. -/
structure RoomAttributes where
  maxPlayerCount : Int
  roomName : String
  roomPassword : String

/-- `IsPrivate`. -/
def RoomAttributes.isPrivate (room : RoomAttributes) : Bool := !room.roomPassword.isEmpty

/-- `S2C_ROOM_INFO`. -/
structure RoomInfoPacket where
  roomKey : RoomKey
  maxPlayerCount : Int
  currentPlayerCount : Int
  roomName : String
  isPrivate : Bool
  isPlay : Bool

inductive RoomQuery where
  | sendRoomList
  | findMatch (maxPlayerCount : Int)

/-- Where the walk is; it is about to take the step it names. -/
inductive WalkStep where
  | begin
  | readKey
  | findIndex (roomKey : RoomKey)
  | readRoom (roomKey : RoomKey) (index : Nat)
  | visit (room : RoomObject)
  /-- `GetRoomInfoSnapshot`: the number of players, and then the state. -/
  | readCount (room : RoomObject)
  | readState (room : RoomObject) (currentPlayerCount : Int)
  /-- `TryJoinRoom`: the session, then `FindRoomByKey`, then `BeginRoomTransition`. -/
  | tryJoin (roomKey : RoomKey)
  | joinIndex (roomKey : RoomKey)
  | joinRoom (roomKey : RoomKey) (index : Nat)
  | joinSession (room : RoomObject)
  | done

structure RoomWalk where
  manager : RoomManager
  attributes : RoomObject → RoomAttributes
  roomState : RoomObject → RoomState
  currentPlayerCount : RoomObject → Int
  query : RoomQuery
  walkStep : WalkStep := .begin
  activeRoomIndex : Nat := 0
  packetBuffer : List RoomInfoPacket := []
  sent : List (List RoomInfoPacket) := []
  /-- What `FindMatch` has answered; `success` stands for the join it has asked for. -/
  answer : Option Int := none

namespace RoomWalk

def goTo (s : RoomWalk) (walkStep : WalkStep) : RoomWalk := { s with walkStep := walkStep }

/-- No room at the index. -/
def finish (s : RoomWalk) : RoomWalk :=
  match s.query with
  | .sendRoomList =>
      { s with walkStep := .done, sent := s.sent ++ [s.packetBuffer], packetBuffer := [] }
  | .findMatch _ => { s with walkStep := .done, answer := some notFoundJoinableRoom }

def reply (s : RoomWalk) (result : Int) : RoomWalk :=
  { s with walkStep := .done, answer := some result }

def append (s : RoomWalk) (packet : RoomInfoPacket) : RoomWalk :=
  if s.packetBuffer.length * S2CType.roomInfo.size + S2CType.roomInfo.size > bufSize then
    { s with sent := s.sent ++ [s.packetBuffer], packetBuffer := [packet] }
  else { s with packetBuffer := s.packetBuffer ++ [packet] }

/-- A public room of a size that is asked for: 0 is for any size but one. -/
def isOfSize (maxPlayerCount : Int) (room : RoomAttributes) : Bool :=
  !room.isPrivate && (if maxPlayerCount = 0 then room.maxPlayerCount = 2 || room.maxPlayerCount = 5
    else room.maxPlayerCount = maxPlayerCount)

/-- The visit of a room, whose state has been read. -/
def visited (s : RoomWalk) (room : RoomObject) (currentPlayerCount : Int) : RoomWalk :=
  let state := s.roomState room
  let a := s.attributes room
  match s.query with
  | .sendRoomList =>
      if state ≠ .wait ∧ state ≠ .play then s.goTo .readKey
      else (s.append ⟨room.roomKey, a.maxPlayerCount, currentPlayerCount, a.roomName,
        a.isPrivate, state = .play⟩).goTo .readKey
  | .findMatch _ =>
      if state ≠ .wait ∨ a.maxPlayerCount ≤ currentPlayerCount then s.goTo .readKey
      else s.goTo (.tryJoin room.roomKey)

/-- The next step. `sessionOk`: what the step finds of the session it is for. -/
def walk (s : RoomWalk) (sessionOk : Bool) : Option RoomWalk :=
  match s.walkStep with
  | .begin =>
      match s.query with
      | .sendRoomList => some (s.goTo .readKey)
      | .findMatch maxPlayerCount =>
          if !sessionOk then some (s.goTo .done)
          else if maxPlayerCount = 0 ∨ maxPlayerCount = 2 ∨
            maxPlayerCount = 5 then some (s.goTo .readKey)
          else some (s.reply invalidRequest)
  | .readKey =>
      match s.manager.tables.activeRoomKeys[s.activeRoomIndex]? with
      | none => some s.finish
      | some roomKey =>
          some { s with walkStep := .findIndex roomKey, activeRoomIndex := s.activeRoomIndex + 1 }
  | .findIndex roomKey =>
      match s.manager.tables.roomIndexRegistry roomKey with
      | none => some s.finish
      | some index => some (s.goTo (.readRoom roomKey index))
  | .readRoom roomKey index =>
      match (s.manager.tables.rooms index).filter (·.roomKey = roomKey) with
      | none => some s.finish
      | some room => some (s.goTo (.visit room))
  | .visit room =>
      match s.query with
      | .sendRoomList => some (s.goTo (.readCount room))
      | .findMatch maxPlayerCount =>
          if isOfSize maxPlayerCount (s.attributes room) then some (s.goTo (.readCount room))
          else some (s.goTo .readKey)
  | .readCount room => some (s.goTo (.readState room (s.currentPlayerCount room)))
  | .readState room currentPlayerCount => some (s.visited room currentPlayerCount)
  | .tryJoin roomKey =>
      if sessionOk then some (s.goTo (.joinIndex roomKey)) else some (s.reply invalidRequest)
  | .joinIndex roomKey =>
      match s.manager.tables.roomIndexRegistry roomKey with
      | none => some (s.goTo .readKey)
      | some index => some (s.goTo (.joinRoom roomKey index))
  | .joinRoom roomKey index =>
      match (s.manager.tables.rooms index).filter (·.roomKey = roomKey) with
      | none => some (s.goTo .readKey)
      | some room =>
          if (s.attributes room).maxPlayerCount = 1 then some (s.reply invalidRequest)
          else some (s.goTo (.joinSession room))
  | .joinSession _ => some (s.reply (if sessionOk then success else invalidRequest))
  | .done => none

/-- The rooms, the creations and deletions, and the walk. -/
inductive Next : RoomWalk → RoomWalk → Prop
  | manager (s : RoomWalk) {manager : RoomManager} (h : RoomManager.Next s.manager manager) :
      Next s { s with manager := manager }
  | roomState (s : RoomWalk) (room : RoomObject) (state : RoomState) :
      Next s { s with roomState := Function.update s.roomState room state }
  | playerCount (s : RoomWalk) (room : RoomObject) (count : Int) :
      Next s { s with currentPlayerCount := Function.update s.currentPlayerCount room count }
  | walk (s : RoomWalk) (sessionOk : Bool) {s' : RoomWalk} (h : s.walk sessionOk = some s') :
      Next s s'

/-- The walk begins at any time. -/
def Initial (s : RoomWalk) : Prop :=
  RoomManager.Initial s.manager ∧ s.walkStep = .begin ∧ s.activeRoomIndex = 0 ∧
    s.packetBuffer = [] ∧ s.sent = [] ∧
    s.answer = none

def system : System RoomWalk := ⟨Initial, Next⟩

/-- What has been sent, and what is to be sent with it. -/
def listed (s : RoomWalk) : List RoomInfoPacket := s.sent.flatten ++ s.packetBuffer

end RoomWalk

end ProjectTetris

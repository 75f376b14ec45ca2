import ProjectTetris.Game.Tetris
import ProjectTetris.Net.S2CType

/-!
# Room slots

`Player` is one slot of a room: whose it is, how far the hand-over of that session
has got, and the game of whoever sits there. Slots are never created or destroyed;
`ClearPlayer` makes one free again.

What a slot asks of the server and of the session is an argument: a `SessionView`
is what the room reads of one session while it handles one event.
-/

namespace ProjectTetris

/-- `SessionKey`: the slot index, the account and the connection number. -/
structure SessionKey where
  sessionIndex : Int
  playerId : Int
  sessionId : Nat
  deriving DecidableEq, Repr

/-- `SessionKey{}`. -/
def SessionKey.empty : SessionKey := ⟨-1, -1, 0⟩

inductive RoomPlayerState where
  | empty | wait | ready | play | gameOver
  deriving DecidableEq, Repr

inductive ActiveEntryState where
  | empty | active | pending
  deriving DecidableEq, Repr

inductive LifeState where
  | none | initializing | active | disconnectPending | disconnecting
  deriving DecidableEq, Repr

inductive ModeState where
  | none | login | lobby | room
  deriving DecidableEq, Repr

/-- What `FindSession` gives access to, as far as rooms read it. -/
structure SessionView where
  lifeState : LifeState
  modeState : ModeState
  roomIndex : Int
  /-- `GetDBInfo().player_id`. -/
  playerId : Int
  nickname : String
  maxScore : Int
  /-- What `TryStartTaskProcessing` answers. -/
  tryStart : Bool
  /-- What `TrySetRoomMode` answers; it checks again, under the session's lock. -/
  trySetRoomMode : Bool

/-- `Player`. The send buffer is the packets appended so far; its bytes are theirs. -/
structure Player where
  sessionKey : SessionKey
  activeState : ActiveEntryState
  tetris : Tetris
  sendBuffer : List S2CPacket
  roomPlayerState : RoomPlayerState
  prevRoomPlayerState : RoomPlayerState
  tetrominoIndex : Nat
  score : Int
  combo : Int

namespace Player

def hasSession (p : Player) : Bool := p.activeState ≠ .empty

def isActive (p : Player) : Bool := p.activeState = .active

def matchesSessionKey (p : Player) (key : SessionKey) : Bool :=
  p.hasSession ∧ p.sessionKey.sessionIndex = key.sessionIndex ∧
    p.sessionKey.playerId = key.playerId ∧ p.sessionKey.sessionId = key.sessionId

/-- `send_data_size_`. -/
def sendDataSize (p : Player) : Nat := (p.sendBuffer.map S2CPacket.size).sum

/-- `AddToSendBuffer`: appended whole, or refused. -/
def addToSendBuffer (p : Player) (packet : S2CPacket) : Option Player :=
  if p.sendDataSize + packet.size > bufSize then none
  else some { p with sendBuffer := p.sendBuffer ++ [packet] }

def clearSendBuffer (p : Player) : Player := { p with sendBuffer := [] }

/-- The writes `ClearPlayer` and `ResetGameData` share. -/
def resetGameData (p : Player) (now : Int) : Player :=
  { p with
    tetris := p.tetris.clear now
    roomPlayerState := .wait
    prevRoomPlayerState := .wait
    tetrominoIndex := 0
    score := 0
    sendBuffer := [] }

def clearPlayer (p : Player) (now : Int) : Player :=
  { p.resetGameData now with sessionKey := .empty, activeState := .empty }

/--
`InitPlayer`, for the session `v`, whose key is `key`. The slot is taken before the
session is asked for its mode, and given back when the session refuses.
-/
def initPlayer (p : Player) (v : SessionView) (key : SessionKey) (roomIndex now : Int) :
    Player × Bool :=
  if v.lifeState ≠ .active then (p, false)
  else if p.activeState ≠ .empty then (p, false)
  else
    let p := { p with activeState := .pending, sessionKey := key }
    if v.modeState = .lobby then
      if v.trySetRoomMode then (p.resetGameData now, true) else (p.clearPlayer now, false)
    else if v.modeState ≠ .room ∨ v.roomIndex ≠ roomIndex then (p.clearPlayer now, false)
    else (p.resetGameData now, true)

def activate (p : Player) (key : SessionKey) : Player × Bool :=
  if p.matchesSessionKey key ∧ p.activeState = .pending then
    ({ p with activeState := .active }, true)
  else (p, false)

def trySetPending (p : Player) (key : SessionKey) : Player × Bool :=
  if p.matchesSessionKey key ∧ p.activeState = .active then
    ({ p with activeState := .pending }, true)
  else (p, false)

/-- `Player()`. -/
def init (now : Int) : Player where
  sessionKey := .empty
  activeState := .empty
  tetris := .init now
  sendBuffer := []
  roomPlayerState := .wait
  prevRoomPlayerState := .wait
  tetrominoIndex := 0
  score := 0
  combo := 0

end Player

end ProjectTetris

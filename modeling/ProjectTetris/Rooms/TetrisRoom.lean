import ProjectTetris.Rooms.Player

/-!
# Rooms: what every kind of room does

`TetrisRoom.cpp` and `TetrisRoomPackets.cpp`. Single, two-player and five-player
rooms are one record here, with the kind as a field; the functions the source makes
virtual are in `MultiRoom` and `SingleRoom`.

Only the thread that processes the room changes it, so each function is a plain
function of the room. What it sends and what it enqueues elsewhere is appended to
`out`, in order. What it reads from outside (sessions, the clock, the random
generators) is a `RoomEnv`.

Indexing `tetromino_spawn_list_` is checked like the board accesses: `none` is a
read past its end.
-/

namespace ProjectTetris

inductive RoomState where
  | empty | wait | play | waitingDelete | deletePost
  deriving DecidableEq, Repr

inductive RoomExitType where
  | leave | kick
  deriving DecidableEq, Repr

inductive RoomTaskType where
  | join | removePlayer | ready | kick | start | giveUp
  deriving DecidableEq, Repr

structure RoomTask where
  taskType : RoomTaskType
  sessionKey : SessionKey
  roomPassword : String
  targetPlayerId : Int
  matchingMaxPlayerCount : Int
  deriving DecidableEq, Repr

structure PlayerInputTask where
  /-- The `EventType` the client's byte was cast to, unchecked. -/
  eventType : Int
  playerId : Int
  playGeneration : Nat
  deriving DecidableEq, Repr

/-! ## Error codes -/

def success : Int := 0
def invalidRequest : Int := 2
def roomNotFound : Int := 10
def roomFull : Int := 11
def roomInGame : Int := 12
def roomNotAllReady : Int := 20
def roomNotEnoughPlayers : Int := 21
def roomInvalidPassword : Int := 22

/-- `InfoCode::KICKED`. -/
def kicked : Int := 0

/-- What a room does to the rest of the server. -/
inductive RoomEffect where
  /-- `SendPacket` with these packets, whole and in this order. -/
  | send (dest : SessionKey) (packets : List S2CPacket)
  /-- A `ROOM_TRANSITION_RESULT` lobby task. -/
  | roomTransitionResult (key : SessionKey) (result matchingMaxPlayerCount : Int)
  /-- An `ENTER_LOBBY` lobby task. -/
  | enterLobby (key : SessionKey) (roomIndex : Int)
  | completeRoomDisconnect (key : SessionKey)
  | updateMatchResult (winnerKey : SessionKey) (playerKeys : List SessionKey)
  | updateScore (key : SessionKey) (score : Int)
  deriving DecidableEq, Repr

/-- The three classes derived from `TetrisRoom`, by the slots they have. -/
inductive RoomKind where
  | single | two | five
  deriving DecidableEq, Repr

namespace RoomKind

def slotCount : RoomKind → Nat
  | single => 1
  | two => 2
  | five => 5

end RoomKind

/-- A shuffled bag: the seven types in some order. -/
structure Bag where
  types : List TetrominoType
  perm : types.Perm TetrominoType.all

/--
What a room reads from outside while it handles one event.

The random readings are functions of the place they are used at, so that any
sequence of readings is some `RoomEnv`.
-/
structure RoomEnv where
  findSession : SessionKey → Option SessionView
  /-- The steady clock, where the slot of this session clears its game. -/
  now : SessionKey → Int
  /-- The bag drawn when the spawn list has this length. -/
  bag : Nat → Bag
  /-- The holes drawn for the player of this session. -/
  holes : SessionKey → Nat → Fin boardWidth
  isTestMode : Bool

structure TetrisRoom where
  kind : RoomKind
  roomState : RoomState
  roomTasks : List RoomTask
  playTasks : List PlayerInputTask
  playGeneration : Nat
  tetrominoSpawnList : List TetrominoType
  roomIndex : Int
  roomKey : Nat
  roomName : String
  roomPassword : String
  maxPlayerCount : Int
  currentPlayerCount : Int
  roomPlayers : List Player
  /-- Used by rooms for several players only. -/
  hostId : Int
  winnerId : Int
  out : List RoomEffect

/-- `spawn_pos_`. -/
def spawnPos : Position := ⟨3, 0⟩

namespace TetrisRoom

/-! ## Access -/

/-- `FindSession(player)`. -/
def findSession (env : RoomEnv) (p : Player) : Option SessionView :=
  if p.isActive then env.findSession p.sessionKey else none

/-- The index of the slot `FindPlayer` returns. -/
def findPlayer (r : TetrisRoom) (key : SessionKey) : Option Nat :=
  r.roomPlayers.findIdx? fun p => p.matchesSessionKey key

def emit (r : TetrisRoom) (e : RoomEffect) : TetrisRoom := { r with out := r.out ++ [e] }

def modifyPlayer (r : TetrisRoom) (i : Nat) (f : Player → Player) : TetrisRoom :=
  { r with roomPlayers := r.roomPlayers.modify i f }

/-- The loops `for (room_player : room_players) { if (!FindSession(room_player)) continue; … }`. -/
def forSessions (r : TetrisRoom) (env : RoomEnv) (f : Player → Player) : TetrisRoom :=
  { r with roomPlayers := r.roomPlayers.map fun p => if (findSession env
    p).isSome then f p else p }

/-- The sessions `Broadcast` and `BroadcastPackets` send to. -/
def targets (r : TetrisRoom) (env : RoomEnv) : List SessionKey :=
  (r.roomPlayers.filter fun p => (findSession env p).isSome).map (·.sessionKey)

/-- One `SendPacket` to every session of the room. -/
def sendAll (r : TetrisRoom) (env : RoomEnv) (packets : List S2CPacket) : TetrisRoom :=
  { r with out := r.out ++ (r.targets env).map fun key => .send key packets }

def broadcast (r : TetrisRoom) (env : RoomEnv) (packet : S2CPacket) : TetrisRoom :=
  r.sendAll env [packet]

/-! ## Slots -/

/--
`ClearPlayer`: the slot is freed; the key comes back if its session is being
disconnected, so that the caller can report the removal.
-/
def clearPlayer (r : TetrisRoom) (env : RoomEnv) (i : Nat) : TetrisRoom × Option SessionKey :=
  match r.roomPlayers[i]? with
  | none => (r, none)
  | some p =>
      let cleared := r.modifyPlayer i (·.clearPlayer (env.now p.sessionKey))
      match env.findSession p.sessionKey with
      | none => (cleared, none)
      | some v =>
          if v.lifeState = .disconnectPending ∨ v.lifeState = .disconnecting then
            (cleared, some p.sessionKey)
          else (cleared, none)

def initHostSession (r : TetrisRoom) (env : RoomEnv) (v : SessionView) (key : SessionKey) :
    TetrisRoom × Bool :=
  match r.roomPlayers[0]? with
  | none => (r, false)
  | some p =>
      if p.hasSession then (r, false)
      else
        let (p', ok) := p.initPlayer v key r.roomIndex (env.now key)
        let r := r.modifyPlayer 0 fun _ => p'
        if ok then ({ r with currentPlayerCount := 1 }, true) else (r, false)

def activatePlayer (r : TetrisRoom) (key : SessionKey) : TetrisRoom :=
  match r.findPlayer key with
  | none => r
  | some i => r.modifyPlayer i fun p => (p.activate key).1

def storeRoomState (r : TetrisRoom) (state : RoomState) : TetrisRoom :=
  { r with roomState := state }

def completeRoomInitialization (r : TetrisRoom) : TetrisRoom :=
  let r :=
    match r.roomPlayers[0]? with
    | some p => if p.hasSession then r.modifyPlayer 0 fun p => (p.activate p.sessionKey).1 else r
    | none => r
  r.storeRoomState .wait

def addRoomTask (r : TetrisRoom) (task : RoomTask) : TetrisRoom × Bool :=
  if r.roomState ≠ .wait ∧ r.roomState ≠ .play then (r, false)
  else ({ r with roomTasks := r.roomTasks ++ [task] }, true)

def addPlayTask (r : TetrisRoom) (task : PlayerInputTask) : TetrisRoom :=
  { r with playTasks := r.playTasks ++ [task] }

def beginRoomDelete (r : TetrisRoom) : TetrisRoom := r.storeRoomState .waitingDelete

def clearPlayTasks (r : TetrisRoom) : TetrisRoom := { r with playTasks := [] }

/-- `IsPlayerInRoom`, for a session that was found. -/
def isPlayerInRoom (r : TetrisRoom) (v : SessionView) : Bool :=
  v.modeState = .room ∧ v.roomIndex = r.roomIndex

/-! ## Games -/

def initGame (r : TetrisRoom) (env : RoomEnv) : TetrisRoom :=
  r.forSessions env fun p => { p with tetris := p.tetris.clear (env.now p.sessionKey) }

def clearGame (r : TetrisRoom) (env : RoomEnv) : TetrisRoom :=
  let r := (r.storeRoomState .wait).clearPlayTasks
  let r := { r with tetrominoSpawnList := [] }
  r.forSessions env fun p => p.resetGameData (env.now p.sessionKey)

def appendTetromino7Bag (r : TetrisRoom) (env : RoomEnv) : TetrisRoom :=
  { r with
    tetrominoSpawnList := r.tetrominoSpawnList ++ (env.bag r.tetrominoSpawnList.length).types }

/-- `InitNewTetromino(tetromino_spawn_list_[GetTetrominoIndex()], spawn_pos_)` on one slot. -/
def initTetromino (spawnList : List TetrominoType) (p : Player) : Option Player := do
  let type ← spawnList[p.tetrominoIndex]?
  some { p with tetris := p.tetris.initNewTetromino type spawnPos }

/-- `SpawnTetromino`: the first slot whose session has this id. -/
def spawnTetromino (r : TetrisRoom) (env : RoomEnv) (playerId : Int) :
    Option (TetrisRoom × Bool) :=
  match r.roomPlayers.findIdx? fun p => (findSession env p).any (·.playerId = playerId) with
  | none => some (r, false)
  | some i => do
      let p ← r.roomPlayers[i]?
      let p ← initTetromino r.tetrominoSpawnList p
      some (r.modifyPlayer i fun _ => p, true)

/-- `ClearRoom`: every slot freed, then every removal reported. -/
def clearRoom (r : TetrisRoom) (env : RoomEnv) : TetrisRoom :=
  let r := { r.clearPlayTasks with tetrominoSpawnList := [] }
  let (r, keys) := (List.range r.roomPlayers.length).foldl
    (fun (acc : TetrisRoom × List SessionKey) i =>
      let (r, key) := acc.1.clearPlayer env i
      (r, acc.2 ++ key.toList)) (r, [])
  let r := { r with currentPlayerCount := 0, roomState := .empty }
  keys.foldl (fun r key => r.emit (.completeRoomDisconnect key)) r

/-! ## The tick -/

/-- `AddGarbageLines`, on one slot. -/
def addGarbageLinesTo (env : RoomEnv) (p : Player) : Option Player :=
  if p.isActive ∧ p.roomPlayerState = .play then do
    some { p with tetris := ← p.tetris.addGarbageLines (env.holes p.sessionKey) }
  else some p

def addGarbageLines (r : TetrisRoom) (env : RoomEnv) : Option TetrisRoom := do
  some { r with roomPlayers := ← r.roomPlayers.mapM (addGarbageLinesTo env) }

/-- `AddSpawnTasks`, on one slot. -/
def addSpawnTask (p : Player) : Player :=
  if p.isActive ∧ p.roomPlayerState = .play ∧ hasEvent p.tetris.sendTasks .fix then
    { p with tetris := { p.tetris with sendTasks := p.tetris.sendTasks ++ [.spawn] } }
  else p

def addSpawnTasks (r : TetrisRoom) : TetrisRoom :=
  { r with roomPlayers := r.roomPlayers.map addSpawnTask }

def resetPlayerTickState (r : TetrisRoom) (env : RoomEnv) : TetrisRoom :=
  r.forSessions env fun p =>
    let tetris := if env.isTestMode then p.tetris.resetTetrominoPosition spawnPos else p.tetris
    { p with tetris := tetris.resetTickData }

/-- The loop of `ProcessGameTick` over the sessions: `ProcessTick` on one slot. -/
def processTickOf (env : RoomEnv) (t : Int) (p : Player) : Option Player :=
  if (findSession env p).isSome then do
    some { p with tetris := ← p.tetris.processTick t }
  else some p

def processTicks (r : TetrisRoom) (env : RoomEnv) (t : Int) : Option TetrisRoom := do
  some { r with roomPlayers := ← r.roomPlayers.mapM (processTickOf env t) }

/-- One input of `ProcessRoomTick`: handed to the first session with its player id. -/
def distributeInput (r : TetrisRoom) (env : RoomEnv) (task : PlayerInputTask) : TetrisRoom :=
  if task.playGeneration ≠ r.playGeneration then r
  else
    match r.roomPlayers.findIdx? fun p => (findSession env p).any (·.playerId = task.playerId) with
    | none => r
    | some i => r.modifyPlayer i fun p =>
        { p with
          tetris := { p.tetris with inputTasks := p.tetris.inputTasks ++ [task.eventType] } }

def distributeInputs (r : TetrisRoom) (env : RoomEnv) : TetrisRoom :=
  r.playTasks.foldl (fun r task => r.distributeInput env task) r.clearPlayTasks

/-! ## Packets of a tick -/

/--
`ApplySendTaskState`, for the slot `i` and a task of its own. `false` means that no
packet follows.
-/
def applySendTaskState (r : TetrisRoom) (env : RoomEnv) (i : Nat) (playerId : Int) :
    TaskType → Option (TetrisRoom × Bool)
  | .spawn => do
      let p ← r.roomPlayers[i]?
      -- written as `index == size() - 2`; on lists shorter than two that is false on both sides
      let r :=
        if p.tetrominoIndex + 2 = r.tetrominoSpawnList.length then r.appendTetromino7Bag env else r
      let r := r.modifyPlayer i fun p => { p with tetrominoIndex := p.tetrominoIndex + 1 }
      r.spawnTetromino env playerId
  | .gameOver => some (r.modifyPlayer i fun p => { p with roomPlayerState := .gameOver }, true)
  | _ => some (r, true)

/-- The packet `AppendTickPacket` builds for a task of the player `p`; none for the other tasks. -/
def tickPacket (spawnList : List TetrominoType) (p : Player) (playerId : Int) :
    TaskType → Option S2CPacket
  | .move moveType => some (.move playerId moveType.toInt)
  | .fix x y => some (.fix playerId x y)
  | .clearLine y => some (.clearLine playerId y p.combo p.score)
  | .spawn => do
      let type ← spawnList[p.tetrominoIndex]?
      let next ← spawnList[p.tetrominoIndex + 1]?
      some (.spawn playerId type.toIndex next.toIndex spawnPos.x spawnPos.y)
  | .addLine holeX => some (.addLine playerId holeX)
  | .gameOver => some (.gameOver playerId)
  | .gameEnd winnerId => some (.gameEnd winnerId)

/-- What `AppendTickPackets` ends with: everything appended, or the session whose buffer is full.
-/
inductive AppendResult where
  | done
  | failed (key : SessionKey)
  deriving DecidableEq, Repr

/-- The loop over the tasks of the slot `i`. -/
def appendTasks (env : RoomEnv) (i : Nat) (playerId : Int) (key : SessionKey) :
    TetrisRoom → List TaskType → Option (TetrisRoom × AppendResult)
  | r, [] => some (r, .done)
  | r, task :: rest => do
      let (r, goOn) ← r.applySendTaskState env i playerId task
      if goOn then
        let p ← r.roomPlayers[i]?
        let packet ← tickPacket r.tetrominoSpawnList p playerId task
        match p.addToSendBuffer packet with
        | none => some (r, .failed key)
        | some p => appendTasks env i playerId key (r.modifyPlayer i fun _ => p) rest
      else appendTasks env i playerId key r rest

/-- `AppendTickPackets` for the slot `i`: only a player still in the game has packets. -/
def appendSlotPackets (r : TetrisRoom) (env : RoomEnv) (i : Nat) :
    Option (TetrisRoom × AppendResult) :=
  match r.roomPlayers[i]? with
  | none => some (r, .done)
  | some p =>
      if p.roomPlayerState ≠ .play then some (r, .done)
      else
        match findSession env p with
        | none => some (r, .done)
        | some v => appendTasks env i v.playerId p.sessionKey r p.tetris.sendTasks

/-- `AppendTickPackets`, from slot `i` on. -/
def appendFrom (env : RoomEnv) : List Nat → TetrisRoom → Option (TetrisRoom × AppendResult)
  | [], r => some (r, .done)
  | i :: rest, r => do
      let (r, result) ← r.appendSlotPackets env i
      match result with
      | .done => appendFrom env rest r
      | .failed key => some (r, .failed key)

def appendTickPackets (r : TetrisRoom) (env : RoomEnv) : Option (TetrisRoom × AppendResult) :=
  appendFrom env (List.range r.roomPlayers.length) r

/--
The gathering loop of `BroadcastPackets`: `send_buffer` with the packets gathered so
far, sent to everybody when the next player's would not fit.
-/
def gather (env : RoomEnv) :
    TetrisRoom → List Player → List S2CPacket → TetrisRoom × List S2CPacket
  | r, [], buffer => (r, buffer)
  | r, source :: rest, buffer =>
      if (findSession env source).isNone ∨ source.sendDataSize = 0 then gather env r rest buffer
      else if (buffer.map S2CPacket.size).sum + source.sendDataSize > bufSize then
        gather env (r.sendAll env buffer) rest source.sendBuffer
      else gather env r rest (buffer ++ source.sendBuffer)

def broadcastPackets (r : TetrisRoom) (env : RoomEnv) : TetrisRoom :=
  let (r, buffer) := gather env r r.roomPlayers []
  let r := if (buffer.map S2CPacket.size).sum > 0 then r.sendAll env buffer else r
  r.forSessions env Player.clearSendBuffer

end TetrisRoom

end ProjectTetris

import ProjectTetris.Rooms.TetrisRoom

/-!
# Rooms for several players

`MultiRoom.cpp`: hosts, ready states, attacks and the decision who won.
-/

namespace ProjectTetris

namespace TetrisRoom

/-- The packet that tells a client which room it is in. -/
def createRoomPacket (r : TetrisRoom) : S2CPacket :=
  if r.roomPassword = "" then .addPublicRoom r.roomKey r.maxPlayerCount r.roomName
  else .addPrivateRoom r.roomKey r.maxPlayerCount r.roomName r.roomPassword

/-- `SendCreateRoom`; the two kinds of rooms have the same body. -/
def sendCreateRoom (r : TetrisRoom) (key : SessionKey) : TetrisRoom :=
  r.emit (.send key [r.createRoomPacket])

namespace MultiRoom

def addHostSession (r : TetrisRoom) (env : RoomEnv) (v : SessionView) (key : SessionKey) :
    TetrisRoom × Bool :=
  let (r, ok) := r.initHostSession env v key
  if ok then ({ r with hostId := v.playerId }, true) else (r, false)

/-! ## Members -/

/-- The sessions of the slots other than `added`, with what the room reads of them. -/
def otherSessions (r : TetrisRoom) (env : RoomEnv) (added : Nat) :
    List (SessionKey × SessionView) :=
  (r.roomPlayers.zipIdx.filter fun slot => slot.2 ≠ added).filterMap fun slot =>
    (findSession env slot.1).map fun v => (slot.1.sessionKey, v)

/-- What everybody is told when the slot `added` has been taken by the session `v`. -/
def announceJoin (r : TetrisRoom) (env : RoomEnv) (added : Nat) (v : SessionView)
    (key : SessionKey) : TetrisRoom :=
  let others := otherSessions r env added
  let r := r.emit (.send key [r.createRoomPacket])
  let r :=
    others.foldl (fun r other => r.emit (.send other.1 [.addPlayer v.playerId v.nickname])) r
  let r := others.foldl
    (fun r other => r.emit (.send key [.addPlayer other.2.playerId other.2.nickname])) r
  r.emit (.send key [.updateHost r.hostId])

def addPlayer (r : TetrisRoom) (env : RoomEnv) (v : SessionView) (key : SessionKey)
    (roomPassword : String) : TetrisRoom × Int :=
  if v.lifeState ≠ .active ∨ v.modeState ≠ .lobby then (r, invalidRequest)
  else if r.roomPassword ≠ roomPassword then (r, roomInvalidPassword)
  else if r.roomState = .play then (r, roomInGame)
  else if r.roomState ≠ .wait then (r, roomNotFound)
  else if (r.findPlayer key).isSome then (r, invalidRequest)
  else
    match r.roomPlayers.findIdx? fun p => !p.hasSession with
    | none => (r, roomFull)
    | some i =>
        match r.roomPlayers[i]? with
        | none => (r, roomFull)
        | some p =>
            let (p', ok) := p.initPlayer v key r.roomIndex (env.now key)
            let r := r.modifyPlayer i fun _ => p'
            if ok then
              (announceJoin { r with currentPlayerCount := r.currentPlayerCount + 1 } env i v key,
                success)
            else (r, invalidRequest)

/-- `FindNewHost`: the first slot with a session; a room nobody is left in is deleted. -/
def findNewHost (r : TetrisRoom) (env : RoomEnv) : TetrisRoom :=
  let host :=
    if r.currentPlayerCount ≠ 0 then
      r.roomPlayers.findIdx? fun p => (findSession env p).isSome
    else none
  match host with
  | some i =>
      let id := ((r.roomPlayers[i]?).bind (findSession env)).elim r.hostId (·.playerId)
      let r := { r with hostId := id }
      -- a player who was ready is not ready any more once the room is his
      let r := if r.roomState = .wait then r.modifyPlayer i fun p =>
        { p with roomPlayerState := .wait } else r
      r.broadcast env (.updateHost id)
  | none => if r.currentPlayerCount = 0 then r.beginRoomDelete else { r with hostId := -1 }

def completePlayerRemoval (r : TetrisRoom) (env : RoomEnv) (key : SessionKey)
    (exitType : RoomExitType) : TetrisRoom :=
  match r.findPlayer key with
  | none => r
  | some i =>
      let playerId := ((r.roomPlayers[i]?).map (·.sessionKey.playerId)).getD (-1)
      let r := if r.currentPlayerCount = 1 then r.beginRoomDelete else r
      let r := r.broadcast env (.removePlayer playerId)
      let r :=
        if exitType = .kick ∧ (env.findSession key).isSome then
          r.emit (.send key [.info kicked]) else r
      let (r, disconnected) := r.clearPlayer env i
      let r := { r with currentPlayerCount := r.currentPlayerCount - 1 }
      let r := if playerId = r.hostId then findNewHost r env else r
      match disconnected with
      | some key => r.emit (.completeRoomDisconnect key)
      | none => r

/-- `RequestLobbyTransition`, with this class's `CompletePlayerRemoval`. -/
def requestLobbyTransition (r : TetrisRoom) (env : RoomEnv) (key : SessionKey)
    (exitType : RoomExitType) : TetrisRoom :=
  match r.findPlayer key with
  | none => r
  | some i =>
      match r.roomPlayers[i]? with
      | none => r
      | some p =>
          let (p', ok) := p.trySetPending key
          if ok then
            (completePlayerRemoval (r.modifyPlayer i fun _ => p') env key exitType).emit
              (.enterLobby key r.roomIndex)
          else r

def removePlayer (r : TetrisRoom) (env : RoomEnv) (key : SessionKey) : TetrisRoom :=
  match env.findSession key with
  | some v =>
      if v.lifeState = .active then requestLobbyTransition r env key .leave
      else completePlayerRemoval r env key .leave
  | none => completePlayerRemoval r env key .leave

/-- The index of the first slot whose session has this player id. -/
def findHostIndex (r : TetrisRoom) (env : RoomEnv) (playerId : Int) : Option Nat :=
  r.roomPlayers.findIdx? fun p => (findSession env p).any (·.playerId = playerId)

/-- The state `TogglePlayerReady` leaves a slot in, and the flag it announces. -/
def toggled : RoomPlayerState → RoomPlayerState × Bool
  | .ready => (.wait, false)
  | .wait => (.ready, true)
  | state => (state, false)

def togglePlayerReady (r : TetrisRoom) (env : RoomEnv) (playerId : Int) : TetrisRoom :=
  if r.hostId = playerId then r
  else
    match findHostIndex r env playerId with
    | none => r
    | some i =>
        let isReady := ((r.roomPlayers[i]?).map fun p => (toggled p.roomPlayerState).2).getD false
        let r :=
          r.modifyPlayer i fun p => { p with roomPlayerState := (toggled p.roomPlayerState).1 }
        r.broadcast env (.ready playerId isReady)

/-- `KickPlayer`; `false` means the task has to be tried again. -/
def kickPlayer (r : TetrisRoom) (env : RoomEnv) (requesterId kickPlayerId : Int) :
    TetrisRoom × Bool :=
  if requesterId ≠ r.hostId then (r, true)
  else if kickPlayerId = r.hostId then (r, true)
  else
    match r.roomPlayers.find? fun p =>
        p.sessionKey.playerId = kickPlayerId ∧ (findSession env p).isSome with
    | none => (r, true)
    | some p =>
        match findSession env p with
        | none => (r, true)
        | some v =>
            if !v.tryStart then (r, false)
            else if !r.isPlayerInRoom v then (r, true)
            else (requestLobbyTransition r env p.sessionKey .kick, true)

/-! ## Starting -/

/-- The sessions `StartGame` counts as ready: the host, and who is in `READY`. -/
def readyPlayerCount (r : TetrisRoom) (env : RoomEnv) : Nat :=
  (r.roomPlayers.filter fun p =>
    (findSession env p).any fun v => v.playerId = r.hostId || p.roomPlayerState = .ready).length

/-- What `StartGame` decides from the counts. -/
def startResult (r : TetrisRoom) (env : RoomEnv) : Int :=
  if (readyPlayerCount r env : Int) = r.currentPlayerCount then
    if r.currentPlayerCount = 1 then roomNotEnoughPlayers else success
  else roomNotAllReady

/-- One player of `StartGame`'s loop: in the game, with the first piece. -/
def enterGame (env : RoomEnv) (spawnList : List TetrominoType) (p : Player) : Option Player :=
  if (findSession env p).isSome then
    initTetromino spawnList { p with roomPlayerState := .play }
  else some p

/-- The `S2C_SPAWN` `StartGame` broadcasts for one slot. -/
def startSpawnPacket (env : RoomEnv) (spawnList : List TetrominoType) (p : Player) :
    Option (Option S2CPacket) :=
  match findSession env p with
  | none => some none
  | some v => (tickPacket spawnList p v.playerId .spawn).map some

def broadcastSpawns (r : TetrisRoom) (env : RoomEnv) : Option TetrisRoom := do
  let packets ← r.roomPlayers.mapM (startSpawnPacket env r.tetrominoSpawnList)
  some (packets.reduceOption.foldl (fun r packet => r.broadcast env packet) r)

def startGame (r : TetrisRoom) (env : RoomEnv) (requesterId : Int) : Option TetrisRoom :=
  if requesterId ≠ r.hostId then some r
  else if r.roomState = .play then some r
  else if startResult r env ≠ success then
    match findHostIndex r env r.hostId with
    | none => some r
    | some i =>
        match r.roomPlayers[i]? with
        | none => some r
        | some p => some (r.emit (.send p.sessionKey [.error (startResult r env)]))
  else if r.roomState ≠ .wait then some r
  else do
    let r := { r with roomState := .play, playGeneration := r.playGeneration + 1 }
    let r := r.broadcast env .multiStart
    let r := r.appendTetromino7Bag env
    let r := { r with roomPlayers := ← r.roomPlayers.mapM (enterGame env r.tetrominoSpawnList) }
    broadcastSpawns (r.initGame env) env

/-! ## Attacks -/

def calculateGarbageLineCount (clearedLineCount : Nat) : Nat :=
  match clearedLineCount with
  | 2 => 1
  | 3 => 2
  | 4 => 4
  | _ => 0

/-- A player `DistributeGarbageLines` reads or writes. -/
def inPlay (p : Player) : Bool := p.isActive ∧ p.roomPlayerState = .play

/-- The lines the slot `i` sends to each of the others. -/
def attackOf (r : TetrisRoom) (i : Nat) : Nat :=
  match r.roomPlayers[i]? with
  | some p => if inPlay p then calculateGarbageLineCount p.tetris.clearedLineCount else 0
  | none => 0

/-- One turn of the outer loop of `DistributeGarbageLines`. -/
def attackFrom (r : TetrisRoom) (i : Nat) : TetrisRoom :=
  let lines := attackOf r i
  { r with roomPlayers := r.roomPlayers.mapIdx fun j p =>
      if inPlay p ∧ i ≠ j ∧ lines > 0 then
        { p with tetris := p.tetris.addPendingGarbageLines lines }
      else p }

def distributeGarbageLines (r : TetrisRoom) : TetrisRoom :=
  (List.range r.roomPlayers.length).foldl attackFrom r

/-! ## The end of a game -/

def updatePrevPlayerStates (r : TetrisRoom) (env : RoomEnv) : TetrisRoom :=
  if r.roomState ≠ .play then r
  else r.forSessions env fun p => { p with prevRoomPlayerState := p.roomPlayerState }

/-- The players `ResolveWinner` counts: in the game, with a session. -/
def survivors (r : TetrisRoom) (env : RoomEnv) : List Player :=
  r.roomPlayers.filter fun p => p.roomPlayerState = .play ∧ (findSession env p).isSome

/-- The slot `ResolveWinner` takes when nobody is counted any more. -/
def drawnWinner (env : RoomEnv) (p : Player) : Bool :=
  (p.roomPlayerState = .gameOver ∨ p.prevRoomPlayerState = .play) ∧ (findSession env p).isSome

/-- `new_winner_id`. -/
def newWinnerId (r : TetrisRoom) (env : RoomEnv) : Int :=
  let winner : Option Player :=
    match (survivors r env).length with
    | 0 => r.roomPlayers.find? (drawnWinner env)
    | 1 => r.roomPlayers.find? fun p => p.roomPlayerState = .play ∧ (findSession env p).isSome
    | _ => none
  ((winner.bind (findSession env)).map (·.playerId)).getD (-1)

def resolveWinner (r : TetrisRoom) (env : RoomEnv) : TetrisRoom × Bool :=
  let id := newWinnerId r env
  if id = -1 then (r, false)
  else
    (({ r with winnerId := id }).forSessions env fun p =>
      { p with tetris := { p.tetris with sendTasks := p.tetris.sendTasks ++ [TaskType.gameEnd
        id] } }, true)

def requestUpdateMatchResult (r : TetrisRoom) (env : RoomEnv) : TetrisRoom :=
  let keys := r.targets env
  let winnerKey := (keys.reverse.find? fun key => key.playerId = r.winnerId).getD
    ⟨-1, r.winnerId, 0⟩
  r.emit (.updateMatchResult winnerKey keys)

/-- The state in which `ProcessGameTick` asks for the winner. -/
def beforeVerdict (r : TetrisRoom) (env : RoomEnv) (t : Int) : Option TetrisRoom := do
  let r ← (updatePrevPlayerStates r env).processTicks env t
  (distributeGarbageLines r).addGarbageLines env

/-- What `ProcessGameTick` does once the packets are in the buffers. -/
def finishTick (r : TetrisRoom) (env : RoomEnv) (isGameEnd : Bool) : TetrisRoom :=
  let r := (r.resetPlayerTickState env).broadcastPackets env
  if isGameEnd then
    let r := if env.isTestMode then r else requestUpdateMatchResult r env
    r.clearGame env
  else r

def processGameTick (r : TetrisRoom) (env : RoomEnv) (t : Int) : Option TetrisRoom := do
  let r ← beforeVerdict r env t
  let (r, isGameEnd) := resolveWinner r env
  let r := if isGameEnd then r else r.addSpawnTasks
  let (r, result) ← r.appendTickPackets env
  match result with
  | .failed key => some (r.addRoomTask ⟨.removePlayer, key, "", -1, -1⟩).1
  | .done => some (finishTick r env isGameEnd)

def processSpecificRoomTask (r : TetrisRoom) (env : RoomEnv) (v : SessionView) (task : RoomTask) :
    Option (TetrisRoom × Bool) :=
  match task.taskType with
  | .ready => some (if r.isPlayerInRoom v then togglePlayerReady r env v.playerId else r, true)
  | .kick =>
      some (if r.isPlayerInRoom v then kickPlayer r env v.playerId task.targetPlayerId
        else (r, true))
  | .start => do
      if r.isPlayerInRoom v then some (← startGame r env v.playerId, true) else some (r, true)
  | _ => some (r, true)

end MultiRoom

end TetrisRoom

end ProjectTetris

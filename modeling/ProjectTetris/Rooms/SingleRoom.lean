import ProjectTetris.Rooms.MultiRoom

/-!
# Rooms for one player, and the tasks of any room

`SingleRoom.cpp`, and the functions of `TetrisRoom.cpp` that call the virtual ones:
here the kind of the room decides which class they mean.
-/

namespace ProjectTetris

namespace TetrisRoom

namespace SingleRoom

/-- The only slot. -/
def slot (r : TetrisRoom) : Option Player := r.roomPlayers[0]?

def addedScore (clearLineCount : Nat) : Int :=
  match clearLineCount with
  | 1 => 100
  | 2 => 300
  | 3 => 500
  | 4 => 800
  | _ => 0

/-- `CalculateScore`, on the slot; the combo counts before it pays. -/
def calculateScore (p : Player) (clearLineCount : Nat) : Player :=
  if clearLineCount = 0 then { p with combo := 0 }
  else
    let added := addedScore clearLineCount
    let combo := p.combo + 1
    { p with combo := combo, score := p.score + (added + combo * (added / 10)) }

def requestUpdateScore (r : TetrisRoom) (env : RoomEnv) : TetrisRoom :=
  match slot r with
  | none => r
  | some p =>
      match findSession env p with
      | none => r
      | some v => if v.maxScore < p.score then r.emit (.updateScore p.sessionKey p.score) else r

/-- The writes at the end of a game, unless the server runs its test mode. -/
def endGame (r : TetrisRoom) (env : RoomEnv) : TetrisRoom :=
  (if env.isTestMode then r else requestUpdateScore r env).clearGame env

/-- `GiveUp`, for the session with this key. -/
def giveUp (r : TetrisRoom) (env : RoomEnv) (v : SessionView) (key : SessionKey) : TetrisRoom :=
  if !r.isPlayerInRoom v then r
  else if r.roomState ≠ .play then r
  else
    match slot r with
    | none => r
    | some p =>
        match findSession env p with
        | none => r
        | some owner =>
            -- the source compares the two session objects
            if p.sessionKey.sessionIndex ≠ key.sessionIndex then r
            else endGame (r.emit (.send p.sessionKey [.gameOver owner.playerId])) env

def startGame (r : TetrisRoom) (env : RoomEnv) : Option TetrisRoom :=
  if r.roomState ≠ .wait then some r
  else do
    let r := { r with roomState := .play, playGeneration := r.playGeneration + 1 }
    let r := (r.initGame env).appendTetromino7Bag env
    let r := { r with
      roomPlayers := ← r.roomPlayers.mapM (MultiRoom.enterGame env r.tetrominoSpawnList) }
    MultiRoom.broadcastSpawns (r.broadcast env (.singleStart 0)) env

/-- `CheckGameOver` on the slot, the spawn task it suppresses, and the score of a fix. -/
def judge (p : Player) : Option (Player × Bool) := do
  let (tetris, isGameOver) ← p.tetris.checkGameOver
  let p := { p with tetris := tetris }
  let p := if isGameOver then p else addSpawnTask p
  let p :=
    if hasEvent p.tetris.sendTasks .fix then calculateScore p p.tetris.clearedLineCount else p
  some (p, isGameOver)

/-- What `ProcessGameTick` does once the packets are in the buffers. -/
def finishTick (r : TetrisRoom) (env : RoomEnv) (isGameOver : Bool) : TetrisRoom :=
  let r := (r.resetPlayerTickState env).broadcastPackets env
  if isGameOver then endGame r env else r

def processGameTick (r : TetrisRoom) (env : RoomEnv) (t : Int) : Option TetrisRoom :=
  match slot r with
  | none => some r
  | some p =>
      if !p.isActive then some r
      else do
        let r ← (← r.processTicks env t).addGarbageLines env
        let p ← slot r
        let (p, isGameOver) ← judge p
        let r := r.modifyPlayer 0 fun _ => p
        let (r, result) ← r.appendTickPackets env
        match result with
        | .failed key => some (r.addRoomTask ⟨.removePlayer, key, "", -1, -1⟩).1
        | .done => some (finishTick r env isGameOver)

/-- `CompletePlayerRemoval`: the room is cleared and will be deleted. -/
def completePlayerRemoval (r : TetrisRoom) (env : RoomEnv) (key : SessionKey) : TetrisRoom :=
  match r.findPlayer key with
  | none => r
  | some i =>
      let playerId := ((r.roomPlayers[i]?).map (·.sessionKey.playerId)).getD (-1)
      ((r.broadcast env (.removePlayer playerId)).clearRoom env).beginRoomDelete

def requestLobbyTransition (r : TetrisRoom) (env : RoomEnv) (key : SessionKey) : TetrisRoom :=
  match r.findPlayer key with
  | none => r
  | some i =>
      match r.roomPlayers[i]? with
      | none => r
      | some p =>
          let (p', ok) := p.trySetPending key
          if ok then
            (completePlayerRemoval (r.modifyPlayer i fun _ => p') env key).emit
              (.enterLobby key r.roomIndex)
          else r

def removePlayer (r : TetrisRoom) (env : RoomEnv) (key : SessionKey) : TetrisRoom :=
  match env.findSession key with
  | some v =>
      if v.lifeState = .active then requestLobbyTransition r env key
      else completePlayerRemoval r env key
  | none => completePlayerRemoval r env key

def processSpecificRoomTask (r : TetrisRoom) (env : RoomEnv) (v : SessionView) (task : RoomTask) :
    Option (TetrisRoom × Bool) :=
  match task.taskType with
  | .start => do
      if r.isPlayerInRoom v then some (← startGame r env, true) else some (r, true)
  | .giveUp => some (giveUp r env v task.sessionKey, true)
  | _ => some (r, true)

end SingleRoom

/-! ## Dispatch -/

def addHostSession (r : TetrisRoom) (env : RoomEnv) (v : SessionView) (key : SessionKey) :
    TetrisRoom × Bool :=
  match r.kind with
  | .single => r.initHostSession env v key
  | _ => MultiRoom.addHostSession r env v key

def addPlayer (r : TetrisRoom) (env : RoomEnv) (v : SessionView) (key : SessionKey)
    (roomPassword : String) : TetrisRoom × Int :=
  match r.kind with
  | .single => (r, invalidRequest)
  | _ => MultiRoom.addPlayer r env v key roomPassword

def removePlayer (r : TetrisRoom) (env : RoomEnv) (key : SessionKey) : TetrisRoom :=
  match r.kind with
  | .single => SingleRoom.removePlayer r env key
  | _ => MultiRoom.removePlayer r env key

/-- A `C2S_REMOVE_PLAYER` packet: `HandlePacket` calls `RequestLobbyTransition` at once. -/
def requestLobbyTransition (r : TetrisRoom) (env : RoomEnv) (key : SessionKey) : TetrisRoom :=
  match r.kind with
  | .single => SingleRoom.requestLobbyTransition r env key
  | _ => MultiRoom.requestLobbyTransition r env key .leave

def processSpecificRoomTask (r : TetrisRoom) (env : RoomEnv) (v : SessionView) (task : RoomTask) :
    Option (TetrisRoom × Bool) :=
  match r.kind with
  | .single => SingleRoom.processSpecificRoomTask r env v task
  | _ => MultiRoom.processSpecificRoomTask r env v task

def processGameTick (r : TetrisRoom) (env : RoomEnv) (t : Int) : Option TetrisRoom :=
  match r.kind with
  | .single => SingleRoom.processGameTick r env t
  | _ => MultiRoom.processGameTick r env t

/-- `TryProcessJoinTask`; `false` means the task has to be tried again. -/
def tryProcessJoinTask (r : TetrisRoom) (env : RoomEnv) (task : RoomTask) : TetrisRoom × Bool :=
  match env.findSession task.sessionKey with
  | none =>
      (r.emit (.roomTransitionResult task.sessionKey invalidRequest task.matchingMaxPlayerCount),
        true)
  | some v =>
      if !v.tryStart then (r, false)
      else
        let (r, result) :=
          if v.lifeState = .active ∧ v.modeState = .lobby then
            let (r, result) := r.addPlayer env v task.sessionKey task.roomPassword
            (if result = success then r.activatePlayer task.sessionKey else r, result)
          else (r, invalidRequest)
        (r.emit (.roomTransitionResult task.sessionKey result task.matchingMaxPlayerCount), true)

/-- `TryProcessRoomTask`; `false` means the task has to be tried again. -/
def tryProcessRoomTask (r : TetrisRoom) (env : RoomEnv) (task : RoomTask) :
    Option (TetrisRoom × Bool) :=
  if task.taskType = .join then some (r.tryProcessJoinTask env task)
  else
    match env.findSession task.sessionKey with
    | none =>
        some (if task.taskType = .removePlayer then r.removePlayer env task.sessionKey else r,
          true)
    | some v =>
        if !v.tryStart then some (r, false)
        else if task.taskType = .removePlayer then some (r.removePlayer env task.sessionKey, true)
        else
          match (r.findPlayer task.sessionKey).bind fun i => r.roomPlayers[i]? with
          | none => some (r, true)
          | some p =>
              if !p.isActive then some (r, true)
              else if v.lifeState ≠ .active ∨ v.modeState ≠ .room ∨ v.roomIndex ≠ r.roomIndex then
                some (r, true)
              else r.processSpecificRoomTask env v task

/-- The last part of `ProcessRoomTick`: the queued inputs, and a tick if a game is on. -/
def processRoomTick (r : TetrisRoom) (env : RoomEnv) (t : Int) : Option TetrisRoom :=
  if r.roomState ≠ .play then some r.clearPlayTasks
  else (r.distributeInputs env).processGameTick env t

end TetrisRoom

end ProjectTetris

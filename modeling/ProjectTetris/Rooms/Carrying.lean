import ProjectTetris.Rooms.VeiledEvents

/-!
# What a room only carries along

The queued inputs, the number of the game and the last winner are of no concern to what a
room for several players does outside ticks: with others it does the same and carries
those along. A start counts the game, and nothing else touches any of the three.
-/

namespace ProjectTetris

namespace TetrisRoom

/-- The room with another queue, another number of the game and another winner. -/
def carrying (r : TetrisRoom) (l : List PlayerInputTask) (g : Nat) (w : Int) : TetrisRoom :=
  { r with playTasks := l, playGeneration := g, winnerId := w }

section fields

variable (r : TetrisRoom) (l : List PlayerInputTask) (g : Nat) (w : Int)

theorem carrying_own : r.carrying r.playTasks r.playGeneration r.winnerId = r := rfl

theorem carrying_emit (e : RoomEffect) : (r.carrying l g w).emit e = (r.emit e).carrying l g w :=
  rfl

theorem carrying_broadcast (env : RoomEnv) (packet : S2CPacket) :
    (r.carrying l g w).broadcast env packet = (r.broadcast env packet).carrying l g w := rfl

theorem carrying_modifyPlayer (i : Nat) (f : Player → Player) :
    (r.carrying l g w).modifyPlayer i f = (r.modifyPlayer i f).carrying l g w := rfl

theorem carrying_foldl_emit {α : Type} (as : List α) (e : α → RoomEffect) :
    as.foldl (fun r a => r.emit (e a)) (r.carrying l g w) =
      (as.foldl (fun r a => r.emit (e a)) r).carrying l g w := by
  induction as generalizing r with
  | nil => rfl
  | cons a as ih => exact ih (r.emit (e a))

theorem carrying_foldl_broadcast (env : RoomEnv) (packets : List S2CPacket) :
    packets.foldl (fun r packet => r.broadcast env packet) (r.carrying l g w) =
      (packets.foldl (fun r packet => r.broadcast env packet) r).carrying l g w := by
  induction packets generalizing r with
  | nil => rfl
  | cons packet packets ih => exact ih (r.broadcast env packet)

theorem carrying_ite (c : Prop) [Decidable c] (a b : TetrisRoom) :
    (if c then a.carrying l g w else b.carrying l g w) = (if c then a else b).carrying l g w := by
  split <;> rfl

end fields

/-! ## Members -/

section members

variable (r : TetrisRoom) (env : RoomEnv) (l : List PlayerInputTask) (g : Nat) (w : Int)

theorem clearPlayer_carrying (i : Nat) : (r.carrying l g w).clearPlayer env i =
    ((r.clearPlayer env i).1.carrying l g w, (r.clearPlayer env i).2) := by
  unfold clearPlayer
  rw [show (r.carrying l g w).roomPlayers = r.roomPlayers from rfl]
  cases r.roomPlayers[i]? with
  | none => rfl
  | some p =>
      dsimp only
      cases env.findSession p.sessionKey with
      | none => rfl
      | some v =>
          dsimp only
          split <;> rfl

theorem activatePlayer_carrying (key : SessionKey) :
    (r.carrying l g w).activatePlayer key = (r.activatePlayer key).carrying l g w := by
  unfold activatePlayer
  rw [show (r.carrying l g w).findPlayer key = r.findPlayer key from rfl]
  cases r.findPlayer key <;> rfl

theorem announceJoin_carrying (added : Nat) (v : SessionView) (key : SessionKey) :
    MultiRoom.announceJoin (r.carrying l g w) env added v key =
      (MultiRoom.announceJoin r env added v key).carrying l g w := by
  unfold MultiRoom.announceJoin
  dsimp only
  rw [carrying_emit, carrying_foldl_emit, carrying_foldl_emit]
  rfl

theorem addPlayer_carrying (v : SessionView) (key : SessionKey) (roomPassword : String) :
    MultiRoom.addPlayer (r.carrying l g w) env v key roomPassword =
      ((MultiRoom.addPlayer r env v key roomPassword).1.carrying l g w,
        (MultiRoom.addPlayer r env v key roomPassword).2) := by
  unfold MultiRoom.addPlayer
  rw [show (r.carrying l g w).roomPassword = r.roomPassword from rfl,
    show (r.carrying l g w).roomState = r.roomState from rfl,
    show (r.carrying l g w).findPlayer key = r.findPlayer key from rfl,
    show (r.carrying l g w).roomPlayers = r.roomPlayers from rfl,
    show (r.carrying l g w).roomIndex = r.roomIndex from rfl]
  split
  · rfl
  split
  · rfl
  split
  · rfl
  split
  · rfl
  split
  · rfl
  cases r.roomPlayers.findIdx? fun p => !p.hasSession with
  | none => rfl
  | some i =>
      dsimp only
      cases r.roomPlayers[i]? with
      | none => rfl
      | some p =>
          dsimp only
          cases (p.initPlayer v key r.roomIndex (env.now key)).2 with
          | false => rfl
          | true =>
              let joined : TetrisRoom :=
                { r.modifyPlayer i fun _ => (p.initPlayer v key r.roomIndex (env.now key)).1 with
                currentPlayerCount := r.currentPlayerCount + 1 }
              exact Prod.ext (announceJoin_carrying joined env l g w i v key) rfl

theorem findNewHost_carrying :
    MultiRoom.findNewHost (r.carrying l g w) env =
      (MultiRoom.findNewHost r env).carrying l g w := by
  unfold MultiRoom.findNewHost
  rw [show (r.carrying l g w).currentPlayerCount = r.currentPlayerCount from rfl,
    show (r.carrying l g w).roomPlayers = r.roomPlayers from rfl]
  dsimp only
  cases (if r.currentPlayerCount ≠ 0 then r.roomPlayers.findIdx? fun p =>
    (findSession env p).isSome else none) with
  | none =>
      dsimp only
      split <;> rfl
  | some i =>
      dsimp only
      rw [show (r.carrying l g w).roomState = r.roomState from rfl]
      split <;> rfl

theorem completePlayerRemoval_carrying (key : SessionKey) (exitType : RoomExitType) :
    MultiRoom.completePlayerRemoval (r.carrying l g w) env key exitType =
      (MultiRoom.completePlayerRemoval r env key exitType).carrying l g w := by
  unfold MultiRoom.completePlayerRemoval
  rw [show (r.carrying l g w).findPlayer key = r.findPlayer key from rfl,
    show (r.carrying l g w).currentPlayerCount = r.currentPlayerCount from rfl,
    show (r.carrying l g w).roomPlayers = r.roomPlayers from rfl]
  cases r.findPlayer key with
  | none => rfl
  | some i =>
      dsimp only
      rw [show (r.carrying l g w).beginRoomDelete = r.beginRoomDelete.carrying l g w from rfl,
        carrying_ite, carrying_broadcast, carrying_emit, carrying_ite, clearPlayer_carrying]
      generalize TetrisRoom.clearPlayer _ env i = left
      have hhost : ∀ (id : Int) (a : TetrisRoom),
          (if id = (a.carrying l g w).hostId then MultiRoom.findNewHost (a.carrying l g w) env
            else a.carrying l g w) =
              (if id = a.hostId then MultiRoom.findNewHost a env else a).carrying l g w := by
        intro id a
        rw [findNewHost_carrying]
        exact carrying_ite l g w _ _ _
      have hleft := hhost (((r.roomPlayers[i]?).map (·.sessionKey.playerId)).getD (-1))
        { left.1 with currentPlayerCount := left.1.currentPlayerCount - 1 }
      cases left.2 with
      | none => exact hleft
      | some key =>
          exact congrArg (fun a : TetrisRoom => a.emit (.completeRoomDisconnect key)) hleft

theorem requestLobbyTransition_carrying (key : SessionKey) (exitType : RoomExitType) :
    MultiRoom.requestLobbyTransition (r.carrying l g w) env key exitType =
      (MultiRoom.requestLobbyTransition r env key exitType).carrying l g w := by
  unfold MultiRoom.requestLobbyTransition
  rw [show (r.carrying l g w).findPlayer key = r.findPlayer key from rfl,
    show (r.carrying l g w).roomPlayers = r.roomPlayers from rfl,
    show (r.carrying l g w).roomIndex = r.roomIndex from rfl]
  cases r.findPlayer key with
  | none => rfl
  | some i =>
      dsimp only
      cases r.roomPlayers[i]? with
      | none => rfl
      | some p =>
          dsimp only
          rw [carrying_modifyPlayer, completePlayerRemoval_carrying, carrying_emit, carrying_ite]

theorem removePlayer_carrying (key : SessionKey) :
    MultiRoom.removePlayer (r.carrying l g w) env key =
      (MultiRoom.removePlayer r env key).carrying l g w := by
  unfold MultiRoom.removePlayer
  cases env.findSession key with
  | none => exact completePlayerRemoval_carrying r env l g w key .leave
  | some v =>
      dsimp only
      rw [requestLobbyTransition_carrying, completePlayerRemoval_carrying, carrying_ite]

theorem togglePlayerReady_carrying (playerId : Int) :
    MultiRoom.togglePlayerReady (r.carrying l g w) env playerId =
      (MultiRoom.togglePlayerReady r env playerId).carrying l g w := by
  unfold MultiRoom.togglePlayerReady
  rw [show (r.carrying l g w).hostId = r.hostId from rfl]
  split
  · rfl
  rw [show MultiRoom.findHostIndex (r.carrying l g w) env playerId =
    MultiRoom.findHostIndex r env playerId from rfl]
  cases MultiRoom.findHostIndex r env playerId <;> rfl

theorem kickPlayer_carrying (requesterId kickPlayerId : Int) :
    MultiRoom.kickPlayer (r.carrying l g w) env requesterId kickPlayerId =
      ((MultiRoom.kickPlayer r env requesterId kickPlayerId).1.carrying l g w,
        (MultiRoom.kickPlayer r env requesterId kickPlayerId).2) := by
  unfold MultiRoom.kickPlayer
  rw [show (r.carrying l g w).hostId = r.hostId from rfl,
    show (r.carrying l g w).roomPlayers = r.roomPlayers from rfl]
  split
  · rfl
  split
  · rfl
  cases r.roomPlayers.find? fun p => p.sessionKey.playerId = kickPlayerId ∧
    (findSession env p).isSome with
  | none => rfl
  | some p =>
      dsimp only
      cases findSession env p with
      | none => rfl
      | some v =>
          dsimp only
          rw [show (r.carrying l g w).isPlayerInRoom v = r.isPlayerInRoom v from rfl]
          split
          · rfl
          split
          · rfl
          · rw [requestLobbyTransition_carrying]

end members

/-! ## Starting -/

section starting

variable (r : TetrisRoom) (env : RoomEnv)

theorem broadcastSpawns_carrying (l : List PlayerInputTask) (g : Nat) (w : Int) :
    MultiRoom.broadcastSpawns (r.carrying l g w) env =
      (MultiRoom.broadcastSpawns r env).map (·.carrying l g w) := by
  unfold MultiRoom.broadcastSpawns
  rw [show (r.carrying l g w).roomPlayers = r.roomPlayers from rfl,
    show (r.carrying l g w).tetrominoSpawnList = r.tetrominoSpawnList from rfl]
  cases r.roomPlayers.mapM (MultiRoom.startSpawnPacket env r.tetrominoSpawnList) with
  | none => rfl
  | some packets => exact congrArg some (carrying_foldl_broadcast r l g w env packets.reduceOption)

/-- The room of several players once the start is announced and the first bag is drawn. -/
def begun : TetrisRoom :=
  ((({ r with roomState := .play, playGeneration := r.playGeneration + 1 } : TetrisRoom).broadcast
    env .multiStart).appendTetromino7Bag env)

theorem startGame_begun {requesterId : Int} (hhost : requesterId = r.hostId)
    (hwait : r.roomState = .wait) (hresult : MultiRoom.startResult r env = success) :
    MultiRoom.startGame r env requesterId =
      ((begun r env).roomPlayers.mapM
        (MultiRoom.enterGame env (begun r env).tetrominoSpawnList)).bind fun ps =>
        MultiRoom.broadcastSpawns ({ begun r env with roomPlayers := ps }.initGame env) env := by
  have hplay : r.roomState ≠ .play := by
    rw [hwait]
    decide
  unfold MultiRoom.startGame
  rw [if_neg (fun hc => hc hhost), if_neg hplay, if_neg (fun hc => hc hresult),
    if_neg (fun hc => hc hwait)]
  rfl

/-- A start that succeeds makes it one game more. -/
theorem startGame_carrying (requesterId : Int) : ∃ n, (n = 0 ∨ r.roomState = .wait) ∧ ∀ l g w,
    MultiRoom.startGame (r.carrying l g w) env requesterId =
      (MultiRoom.startGame r env requesterId).map (·.carrying l (g + n) w) := by
  by_cases hgo : requesterId = r.hostId ∧ r.roomState = .wait ∧
    MultiRoom.startResult r env = success
  · obtain ⟨hhost, hwait, hresult⟩ := hgo
    refine ⟨1, .inr hwait, fun l g w => ?_⟩
    rw [startGame_begun r env hhost hwait hresult,
      startGame_begun (r.carrying l g w) env hhost hwait hresult,
      show (begun (r.carrying l g w) env).roomPlayers = (begun r env).roomPlayers from rfl,
      show (begun (r.carrying l g w) env).tetrominoSpawnList = (begun r env).tetrominoSpawnList
        from rfl]
    cases (begun r env).roomPlayers.mapM (MultiRoom.enterGame env (begun r env).tetrominoSpawnList)
      with
    | none => rfl
    | some ps =>
        exact broadcastSpawns_carrying ({ begun r env with roomPlayers := ps }.initGame env)
          env l (g + 1) w
  · refine ⟨0, .inl rfl, fun l g w => ?_⟩
    unfold MultiRoom.startGame
    rw [show MultiRoom.startResult (r.carrying l g w) env = MultiRoom.startResult r env from rfl,
      show (r.carrying l g w).hostId = r.hostId
        from rfl, show (r.carrying l g w).roomState = r.roomState from rfl,
      show MultiRoom.findHostIndex (r.carrying l g w) env r.hostId =
        MultiRoom.findHostIndex r env r.hostId from rfl]
    split
    · rfl
    rename_i hhost
    split
    · rfl
    split
    · cases MultiRoom.findHostIndex r env r.hostId with
      | none => rfl
      | some i =>
          dsimp only
          rw [show (r.carrying l g w).roomPlayers = r.roomPlayers from rfl]
          cases r.roomPlayers[i]? <;> rfl
    rename_i hresult
    split
    · rfl
    · rename_i hwait
      exact absurd ⟨Decidable.not_not.mp hhost, Decidable.not_not.mp hwait,
        Decidable.not_not.mp hresult⟩ hgo

theorem processSpecificRoomTask_carrying (v : SessionView) (task : RoomTask) :
    ∃ n, (n = 0 ∨ r.roomState = .wait) ∧ ∀ l g w,
      MultiRoom.processSpecificRoomTask (r.carrying l g w) env v task =
        (MultiRoom.processSpecificRoomTask r env v task).map fun x =>
        (x.1.carrying l (g + n) w, x.2) := by
  unfold MultiRoom.processSpecificRoomTask
  cases task.taskType with
  | start =>
      obtain ⟨n, hn, hstart⟩ := startGame_carrying r env v.playerId
      by_cases hin : r.isPlayerInRoom v = true
      · refine ⟨n, hn, fun l g w => ?_⟩
        dsimp only
        rw [if_pos hin, if_pos (show (r.carrying l g w).isPlayerInRoom v = true from hin), hstart]
        cases MultiRoom.startGame r env v.playerId <;> rfl
      · refine ⟨0, .inl rfl, fun l g w => ?_⟩
        dsimp only
        rw [if_neg hin, if_neg (show ¬ (r.carrying l g w).isPlayerInRoom v = true from hin)]
        rfl
  | ready =>
      refine ⟨0, .inl rfl, fun l g w => ?_⟩
      dsimp only
      rw [show (r.carrying l g w).isPlayerInRoom v = r.isPlayerInRoom v from rfl,
        togglePlayerReady_carrying, carrying_ite]
      rfl
  | kick =>
      refine ⟨0, .inl rfl, fun l g w => ?_⟩
      dsimp only
      rw [show (r.carrying l g w).isPlayerInRoom v = r.isPlayerInRoom v from rfl,
        kickPlayer_carrying]
      split <;> rfl
  | join | removePlayer | giveUp => exact ⟨0, .inl rfl, fun l g w => rfl⟩

theorem tryProcessJoinTask_carrying (hkind : r.kind ≠ .single) (task : RoomTask)
    (l : List PlayerInputTask) (g : Nat) (w : Int) :
    (r.carrying l g w).tryProcessJoinTask env task =
      ((r.tryProcessJoinTask env task).1.carrying l g w, (r.tryProcessJoinTask env task).2) := by
  have hadd : ∀ {r : TetrisRoom}, r.kind ≠ .single →
      ∀ v, r.addPlayer env v task.sessionKey task.roomPassword
      = MultiRoom.addPlayer r env v task.sessionKey task.roomPassword := by
    intro r hkind v
    unfold TetrisRoom.addPlayer
    cases hk : r.kind with
    | single => exact absurd hk hkind
    | two | five => rfl
  unfold tryProcessJoinTask
  cases env.findSession task.sessionKey with
  | none => rfl
  | some v =>
      dsimp only
      split
      · rfl
      rw [hadd hkind, hadd (r := r.carrying l g w) hkind, addPlayer_carrying]
      split
      · dsimp only
        rw [activatePlayer_carrying]
        split <;> rfl
      · rfl

theorem removePlayer_carrying_multi (hkind : r.kind ≠ .single) (key : SessionKey)
    (l : List PlayerInputTask) (g : Nat) (w : Int) :
    (r.carrying l g w).removePlayer env key = (r.removePlayer env key).carrying l g w := by
  unfold TetrisRoom.removePlayer
  rw [show (r.carrying l g w).kind = r.kind from rfl]
  cases hk : r.kind with
  | single => exact absurd hk hkind
  | two | five => exact removePlayer_carrying r env l g w key

theorem requestLobbyTransition_carrying_multi (hkind : r.kind ≠ .single) (key : SessionKey)
    (l : List PlayerInputTask) (g : Nat) (w : Int) :
    (r.carrying l g w).requestLobbyTransition env key =
      (r.requestLobbyTransition env key).carrying l g w := by
  unfold TetrisRoom.requestLobbyTransition
  rw [show (r.carrying l g w).kind = r.kind from rfl]
  cases hk : r.kind with
  | single => exact absurd hk hkind
  | two | five => exact requestLobbyTransition_carrying r env l g w key .leave

/-- **Tasks leave the queue and the winner alone**, and only a start counts. -/
theorem tryProcessRoomTask_carrying (hkind : r.kind ≠ .single) (task : RoomTask) :
    ∃ n, (n = 0 ∨ r.roomState = .wait) ∧ ∀ l g w, (r.carrying l g w).tryProcessRoomTask env task =
      (r.tryProcessRoomTask env task).map fun x => (x.1.carrying l (g + n) w, x.2) := by
  unfold tryProcessRoomTask
  by_cases hjoin : task.taskType = .join
  · refine ⟨0, .inl rfl, fun l g w => ?_⟩
    rw [if_pos hjoin, if_pos hjoin, tryProcessJoinTask_carrying r env hkind]
    rfl
  rw [if_neg hjoin]
  cases env.findSession task.sessionKey with
  | none =>
      refine ⟨0, .inl rfl, fun l g w => ?_⟩
      rw [if_neg hjoin]
      dsimp only
      rw [removePlayer_carrying_multi r env hkind, carrying_ite]
      rfl
  | some v =>
      obtain ⟨n, hn, hspecific⟩ := processSpecificRoomTask_carrying r env v task
      dsimp only
      by_cases htry : (!v.tryStart) = true
      · refine ⟨0, .inl rfl, fun l g w => ?_⟩
        rw [if_neg hjoin, if_pos htry, if_pos htry]
        rfl
      by_cases hremove : task.taskType = .removePlayer
      · refine ⟨0, .inl rfl, fun l g w => ?_⟩
        rw [if_neg hjoin, if_neg htry, if_neg htry, if_pos hremove, if_pos hremove,
          removePlayer_carrying_multi r env hkind]
        rfl
      cases hslot : (r.findPlayer task.sessionKey).bind fun i => r.roomPlayers[i]? with
      | none =>
          refine ⟨0, .inl rfl, fun l g w => ?_⟩
          rw [if_neg hjoin, if_neg htry, if_neg htry, if_neg hremove, if_neg hremove,
            show ((r.carrying l g w).findPlayer task.sessionKey).bind
              (fun i => (r.carrying l g w).roomPlayers[i]?) =
              none from hslot]
          rfl
      | some p =>
          by_cases hturned : (!p.isActive) = true ∨
              (v.lifeState ≠ .active ∨ v.modeState ≠ .room ∨ v.roomIndex ≠ r.roomIndex)
          · refine ⟨0, .inl rfl, fun l g w => ?_⟩
            rw [if_neg hjoin, if_neg htry, if_neg htry, if_neg hremove, if_neg hremove,
              show ((r.carrying l g w).findPlayer task.sessionKey).bind
                (fun i => (r.carrying l g w).roomPlayers[i]?) =
                some p from hslot]
            dsimp only
            split
            · rfl
            · rename_i hactive
              have hgone := hturned.resolve_left hactive
              rw [if_pos hgone, if_pos (show v.lifeState ≠ .active ∨ v.modeState ≠ .room ∨
                v.roomIndex ≠ (r.carrying l g w).roomIndex from hgone)]
              rfl
          · rw [not_or] at hturned
            refine ⟨n, hn, fun l g w => ?_⟩
            rw [if_neg hjoin, if_neg htry, if_neg htry, if_neg hremove, if_neg hremove,
              show ((r.carrying l g w).findPlayer task.sessionKey).bind
                (fun i => (r.carrying l g w).roomPlayers[i]?) =
                some p from hslot]
            dsimp only
            rw [if_neg hturned.1, if_neg hturned.1, if_neg hturned.2,
              if_neg (show ¬ (v.lifeState ≠ .active ∨ v.modeState ≠ .room ∨
                v.roomIndex ≠ (r.carrying l g w).roomIndex) from hturned.2),
              Alike.processSpecificRoomTask_multi hkind,
              Alike.processSpecificRoomTask_multi (r := r.carrying l g w) hkind]
            exact hspecific l g w

end starting

/-! ## The tick -/

section tick

variable (r : TetrisRoom) (env : RoomEnv) (l : List PlayerInputTask) (g : Nat) (w : Int)

theorem beforeVerdict_carrying (t : Int) : MultiRoom.beforeVerdict (r.carrying l g w) env t =
    (MultiRoom.beforeVerdict r env t).map (·.carrying l g w) := by
  have hprev : MultiRoom.updatePrevPlayerStates (r.carrying l g w) env =
      (MultiRoom.updatePrevPlayerStates r env).carrying l g w := by
    unfold MultiRoom.updatePrevPlayerStates
    rw [show (r.carrying l g w).roomState = r.roomState from rfl]
    split <;> rfl
  have hengines : ∀ r : TetrisRoom, (r.carrying l g w).processTicks env t =
      (r.processTicks env t).map (·.carrying l g w) := by
    intro r
    unfold processTicks
    rw [show (r.carrying l g w).roomPlayers = r.roomPlayers from rfl]
    cases r.roomPlayers.mapM (processTickOf env t) <;> rfl
  have hattacks : ∀ r : TetrisRoom, MultiRoom.distributeGarbageLines (r.carrying l g w) =
      (MultiRoom.distributeGarbageLines r).carrying l g w :=
    fun r => List.foldl_hom (fun r : TetrisRoom => r.carrying l g w) fun r i => rfl
  have hlines : ∀ r : TetrisRoom, (r.carrying l g w).addGarbageLines env =
      (r.addGarbageLines env).map (·.carrying l g w) := by
    intro r
    unfold addGarbageLines
    rw [show (r.carrying l g w).roomPlayers = r.roomPlayers from rfl]
    cases r.roomPlayers.mapM (addGarbageLinesTo env) <;> rfl
  unfold MultiRoom.beforeVerdict
  rw [hprev, hengines]
  cases (MultiRoom.updatePrevPlayerStates r env).processTicks env t with
  | none => rfl
  | some r₁ =>
      dsimp only [Option.map_some, Option.bind_eq_bind, Option.bind_some]
      rw [hattacks, hlines]

theorem spawnTetromino_carrying (playerId : Int) : (r.carrying l g w).spawnTetromino env playerId =
    (r.spawnTetromino env playerId).map fun x => (x.1.carrying l g w, x.2) := by
  unfold spawnTetromino
  rw [show (r.carrying l g w).roomPlayers = r.roomPlayers from rfl,
    show (r.carrying l g w).tetrominoSpawnList = r.tetrominoSpawnList from rfl]
  cases r.roomPlayers.findIdx? fun p => (findSession env p).any (·.playerId = playerId) with
  | none => rfl
  | some i =>
      dsimp only
      cases r.roomPlayers[i]? with
      | none => rfl
      | some p =>
          dsimp only [Option.bind_eq_bind, Option.bind_some]
          cases initTetromino r.tetrominoSpawnList p <;> rfl

theorem applySendTaskState_carrying (i : Nat) (playerId : Int) (task : TaskType) :
    (r.carrying l g w).applySendTaskState env i playerId task =
      (r.applySendTaskState env i playerId task).map fun x => (x.1.carrying l g w, x.2) := by
  cases task with
  | spawn =>
      unfold applySendTaskState
      rw [show (r.carrying l g w).roomPlayers = r.roomPlayers from rfl]
      cases r.roomPlayers[i]? with
      | none => rfl
      | some p =>
          dsimp only [Option.bind_eq_bind, Option.bind_some]
          rw [show (r.carrying l g w).tetrominoSpawnList = r.tetrominoSpawnList from rfl,
            show (r.carrying l g w).appendTetromino7Bag env =
              (r.appendTetromino7Bag env).carrying l g w from rfl,
            carrying_ite, carrying_modifyPlayer]
          exact spawnTetromino_carrying _ env l g w playerId
  | gameOver | move | fix | clearLine | addLine | gameEnd => rfl

theorem appendTasks_carrying (i : Nat) (playerId : Int) (key : SessionKey) :
    ∀ (tasks : List TaskType)
    (r : TetrisRoom), appendTasks env i playerId key (r.carrying l g w) tasks =
      (appendTasks env i playerId key r tasks).map fun x => (x.1.carrying l g w, x.2) := by
  intro tasks
  induction tasks with
  | nil => exact fun r => rfl
  | cons task rest ih =>
      intro r
      rw [appendTasks, appendTasks, applySendTaskState_carrying]
      cases r.applySendTaskState env i playerId task with
      | none => rfl
      | some x =>
          obtain ⟨r₁, goOn⟩ := x
          dsimp only [Option.map_some, Option.bind_eq_bind, Option.bind_some]
          cases goOn with
          | false => exact ih r₁
          | true =>
              rw [if_pos rfl, if_pos rfl, show (r₁.carrying l g w).roomPlayers = r₁.roomPlayers
                from rfl,
                show (r₁.carrying l g w).tetrominoSpawnList = r₁.tetrominoSpawnList from rfl]
              cases r₁.roomPlayers[i]? with
              | none => rfl
              | some p =>
                  dsimp only [Option.bind_some]
                  cases tickPacket r₁.tetrominoSpawnList p playerId task with
                  | none => rfl
                  | some packet =>
                      dsimp only [Option.bind_some]
                      cases p.addToSendBuffer packet with
                      | none => rfl
                      | some q => exact ih (r₁.modifyPlayer i fun _ => q)

theorem appendFrom_carrying :
    ∀ (is : List Nat) (r : TetrisRoom), appendFrom env is (r.carrying l g w) =
    (appendFrom env is r).map fun x => (x.1.carrying l g w, x.2) := by
  have hslot : ∀ (i : Nat) (r : TetrisRoom), (r.carrying l g w).appendSlotPackets env i =
      (r.appendSlotPackets env i).map fun x => (x.1.carrying l g w, x.2) := by
    intro i r
    unfold appendSlotPackets
    rw [show (r.carrying l g w).roomPlayers = r.roomPlayers from rfl]
    cases r.roomPlayers[i]? with
    | none => rfl
    | some p =>
        dsimp only
        split
        · rfl
        · cases findSession env p with
          | none => rfl
          | some v =>
              exact appendTasks_carrying env l g w i v.playerId p.sessionKey p.tetris.sendTasks r
  intro is
  induction is with
  | nil => exact fun r => rfl
  | cons i rest ih =>
      intro r
      rw [appendFrom, appendFrom, hslot]
      cases r.appendSlotPackets env i with
      | none => rfl
      | some x =>
          obtain ⟨r₁, result⟩ := x
          cases result with
          | done => exact ih r₁
          | failed key => rfl

theorem gather_carrying : ∀ (ps : List Player) (r : TetrisRoom) (buffer : List S2CPacket),
    gather env (r.carrying l g w) ps buffer =
      ((gather env r ps buffer).1.carrying l g w, (gather env r ps buffer).2) := by
  intro ps
  induction ps with
  | nil => exact fun r buffer => rfl
  | cons p rest ih =>
      intro r buffer
      rw [gather, gather]
      split
      · exact ih r buffer
      · split
        · exact ih (r.sendAll env buffer) _
        · exact ih r _

theorem broadcastPackets_carrying :
    (r.carrying l g w).broadcastPackets env = (r.broadcastPackets env).carrying l g w := by
  unfold broadcastPackets
  rw [show (r.carrying l g w).roomPlayers = r.roomPlayers from rfl, gather_carrying]
  dsimp only
  split <;> rfl

/-- What is left of a tick that does not end the game. -/
def goOn : Option TetrisRoom :=
  (r.addSpawnTasks.appendTickPackets env).bind fun x =>
    match x.2 with
    | .failed key => some (x.1.addRoomTask ⟨.removePlayer, key, "", -1, -1⟩).1
    | .done => some (MultiRoom.finishTick x.1 env false)

theorem goOn_carrying : (r.carrying l g w).goOn env = (r.goOn env).map (·.carrying l g w) := by
  unfold goOn appendTickPackets
  rw [show (r.carrying l g w).addSpawnTasks = r.addSpawnTasks.carrying l g w from rfl,
    show (r.addSpawnTasks.carrying l g w).roomPlayers = r.addSpawnTasks.roomPlayers
      from rfl, appendFrom_carrying]
  cases appendFrom env (List.range r.addSpawnTasks.roomPlayers.length) r.addSpawnTasks with
  | none => rfl
  | some x =>
      obtain ⟨r₁, result⟩ := x
      cases result with
      | done =>
          refine congrArg some ?_
          show ((r₁.carrying l g w).resetPlayerTickState env).broadcastPackets env = _
          rw [show (r₁.carrying l g w).resetPlayerTickState env =
            (r₁.resetPlayerTickState env).carrying l g w from rfl, broadcastPackets_carrying]
          rfl
      | failed key =>
          refine congrArg some ?_
          unfold addRoomTask
          rw [show (r₁.carrying l g w).roomState = r₁.roomState from rfl]
          dsimp only
          split <;> rfl

/-- A tick that ends the game names the winner anew; any other does not ask for him. -/
theorem processGameTick_carrying (t : Int) {a b : TetrisRoom}
    (ha : MultiRoom.processGameTick r env t = some a)
    (hb : MultiRoom.processGameTick (r.carrying r.playTasks r.playGeneration w) env t = some b) :
    ∃ w', b = a.carrying a.playTasks a.playGeneration w' := by
  have hown := beforeVerdict_carrying r env r.playTasks r.playGeneration r.winnerId t
  rw [carrying_own] at hown
  unfold MultiRoom.processGameTick at ha hb
  rw [beforeVerdict_carrying] at hb
  obtain ⟨r₁, hr₁, ha⟩ := Option.bind_eq_some_iff.mp ha
  rw [hr₁, Option.map_some, Option.some.injEq] at hown
  rw [hr₁, Option.map_some, show r₁.carrying r.playTasks r.playGeneration w =
    r₁.carrying r₁.playTasks r₁.playGeneration w from by rw [hown]; rfl] at hb
  dsimp only [Option.bind_eq_bind, Option.bind_some] at ha hb
  by_cases hid : MultiRoom.newWinnerId r₁ env = -1
  · have hresolve : ∀ r : TetrisRoom, MultiRoom.newWinnerId r env = -1 →
        MultiRoom.resolveWinner r env = (r, false) :=
      fun r hid => if_pos hid
    rw [hresolve r₁ hid] at ha
    rw [hresolve (r₁.carrying r₁.playTasks r₁.playGeneration w) hid] at hb
    replace ha : r₁.goOn env = some a := ha
    replace hb : (r₁.carrying r₁.playTasks r₁.playGeneration w).goOn env = some b := hb
    have hsame := goOn_carrying r₁ env r₁.playTasks r₁.playGeneration r₁.winnerId
    rw [carrying_own, ha, Option.map_some, Option.some.injEq] at hsame
    rw [goOn_carrying, ha, Option.map_some, Option.some.injEq] at hb
    refine ⟨w, hb.symm.trans ?_⟩
    rw [hsame]
    rfl
  · have hresolve : MultiRoom.resolveWinner (r₁.carrying r₁.playTasks r₁.playGeneration w) env =
        MultiRoom.resolveWinner r₁ env := by
      unfold MultiRoom.resolveWinner
      rw [show MultiRoom.newWinnerId (r₁.carrying r₁.playTasks r₁.playGeneration w) env =
        MultiRoom.newWinnerId r₁ env from rfl]
      dsimp only
      rw [if_neg hid, if_neg hid]
      rfl
    rw [hresolve] at hb
    exact ⟨a.winnerId, Option.some.inj (hb.symm.trans ha)⟩

end tick

end TetrisRoom

end ProjectTetris

import ProjectTetris.Game.InputSet
import ProjectTetris.Rooms.EngineSafe
import ProjectTetris.Rooms.Inputs

/-!
# The order in which inputs arrive

Two contents of `play_tasks_` with the same inputs in them leave the slots with different
queues, and with nothing else that differs. The engines merge their queues; everything a
tick does after that commutes with forgetting them, and the tick ends by emptying them.
-/

namespace ProjectTetris

open Checked

/-- The slot with no queue of inputs. -/
def Player.unqueued (p : Player) : Player := { p with tetris := p.tetris.unqueued }

namespace TetrisRoom

/-- The room with no input queued anywhere. -/
def unqueued (r : TetrisRoom) : TetrisRoom :=
  { r with roomPlayers := r.roomPlayers.map Player.unqueued }

section Unqueued

variable (r : TetrisRoom) (env : RoomEnv)

/-! ## Loops over the slots -/

theorem getElem?_unqueued (i : Nat) :
    r.unqueued.roomPlayers[i]? = (r.roomPlayers[i]?).map Player.unqueued := List.getElem?_map

theorem length_unqueued : r.unqueued.roomPlayers.length = r.roomPlayers.length := List.length_map _

theorem forSessions_unqueued {f : Player → Player} (hf : ∀ p, f p.unqueued = (f p).unqueued) :
    r.unqueued.forSessions env f = (r.forSessions env f).unqueued := by
  unfold forSessions unqueued
  dsimp only
  rw [List.map_map, List.map_map]
  congr 1
  refine List.map_congr_left fun p _ => ?_
  dsimp only [Function.comp_apply]
  rw [show findSession env p.unqueued = findSession env p from rfl]
  split
  · exact hf p
  · rfl

theorem modifyPlayer_unqueued (i : Nat) {f g : Player → Player}
    (hf : ∀ p, f p.unqueued = (g p).unqueued) :
    r.unqueued.modifyPlayer i f = (r.modifyPlayer i g).unqueued := by
  unfold modifyPlayer unqueued
  dsimp only
  congr 1
  refine List.ext_getElem? fun j => ?_
  rw [List.getElem?_modify, List.getElem?_map, List.getElem?_map, List.getElem?_modify]
  cases r.roomPlayers[j]? with
  | none => rfl
  | some p =>
      by_cases hij : i = j
      · simp [hij, hf]
      · simp [hij]

theorem targets_unqueued : r.unqueued.targets env = r.targets env := by
  unfold targets unqueued
  dsimp only
  rw [List.filter_map, List.map_map]
  rfl

theorem sendAll_unqueued (packets : List S2CPacket) :
    r.unqueued.sendAll env packets = (r.sendAll env packets).unqueued := by
  unfold sendAll
  rw [targets_unqueued]
  rfl

/-! ## Attacks and lines -/

theorem addGarbageLinesTo_unqueued (p : Player) :
    addGarbageLinesTo env p.unqueued = (addGarbageLinesTo env p).map Player.unqueued := by
  unfold addGarbageLinesTo
  rw [show p.unqueued.isActive = p.isActive from rfl,
    show p.unqueued.roomPlayerState = p.roomPlayerState from rfl]
  split
  · rw [show p.unqueued.tetris.addGarbageLines (env.holes p.unqueued.sessionKey) = _ from
      p.tetris.addGarbageLines_unqueued (env.holes p.sessionKey)]
    cases p.tetris.addGarbageLines (env.holes p.sessionKey) <;> rfl
  · rfl

theorem addGarbageLines_unqueued :
    r.unqueued.addGarbageLines env = (r.addGarbageLines env).map unqueued := by
  unfold addGarbageLines
  rw [show r.unqueued.roomPlayers = r.roomPlayers.map Player.unqueued from rfl,
    mapM_commutes (addGarbageLinesTo_unqueued env)]
  cases r.roomPlayers.mapM (addGarbageLinesTo env) <;> rfl

theorem attackOf_unqueued (i : Nat) :
    MultiRoom.attackOf r.unqueued i = MultiRoom.attackOf r i := by
  unfold MultiRoom.attackOf
  rw [getElem?_unqueued]
  cases r.roomPlayers[i]? <;> rfl

theorem attackFrom_unqueued (i : Nat) :
    MultiRoom.attackFrom r.unqueued i = (MultiRoom.attackFrom r i).unqueued := by
  unfold MultiRoom.attackFrom
  rw [attackOf_unqueued]
  unfold unqueued
  dsimp only
  congr 1
  refine List.ext_getElem? fun j => ?_
  rw [List.getElem?_mapIdx, List.getElem?_map, List.getElem?_map, List.getElem?_mapIdx]
  cases r.roomPlayers[j]? with
  | none => rfl
  | some p =>
      dsimp only [Option.map_some]
      rw [show MultiRoom.inPlay p.unqueued = MultiRoom.inPlay p from rfl]
      split <;> rfl

theorem distributeGarbageLines_unqueued :
    MultiRoom.distributeGarbageLines r.unqueued =
      (MultiRoom.distributeGarbageLines r).unqueued := by
  unfold MultiRoom.distributeGarbageLines
  rw [length_unqueued]
  exact List.foldl_hom unqueued fun r i => attackFrom_unqueued r i

/-! ## The verdict -/

theorem newWinnerId_unqueued :
    MultiRoom.newWinnerId r.unqueued env = MultiRoom.newWinnerId r env := by
  have hsurvivors : (MultiRoom.survivors r.unqueued env).length =
      (MultiRoom.survivors r env).length := by
    unfold MultiRoom.survivors unqueued
    dsimp only
    rw [List.filter_map, List.length_map]
    rfl
  have hfind : ∀ f : Player → Bool, (∀ p, f p.unqueued = f p) →
      (r.unqueued.roomPlayers.find? f).bind (findSession env) =
        (r.roomPlayers.find? f).bind (findSession env) := by
    intro f hf
    unfold unqueued
    dsimp only
    rw [List.find?_map, show f ∘ Player.unqueued = f from funext hf]
    cases r.roomPlayers.find? f <;> rfl
  unfold MultiRoom.newWinnerId
  rw [hsurvivors]
  dsimp only
  split
  · rw [hfind _ fun p => rfl]
  · rw [hfind _ fun p => rfl]
  · rfl

theorem resolveWinner_unqueued : MultiRoom.resolveWinner r.unqueued env =
    ((MultiRoom.resolveWinner r env).1.unqueued, (MultiRoom.resolveWinner r env).2) := by
  unfold MultiRoom.resolveWinner
  rw [newWinnerId_unqueued]
  dsimp only
  split
  · rfl
  · exact Prod.ext (forSessions_unqueued { r with winnerId := MultiRoom.newWinnerId r env } env
      fun p => rfl) rfl

theorem addSpawnTask_unqueued (p : Player) :
    addSpawnTask p.unqueued = (addSpawnTask p).unqueued := by
  unfold addSpawnTask
  rw [show p.unqueued.isActive = p.isActive from rfl,
    show p.unqueued.roomPlayerState = p.roomPlayerState from rfl,
    show p.unqueued.tetris.sendTasks = p.tetris.sendTasks from rfl]
  split <;> rfl

theorem addSpawnTasks_unqueued : r.unqueued.addSpawnTasks = r.addSpawnTasks.unqueued := by
  unfold addSpawnTasks unqueued
  dsimp only
  rw [List.map_map, List.map_map]
  congr 1
  exact List.map_congr_left fun p _ => addSpawnTask_unqueued p

/-! ## Packets -/

theorem spawnTetromino_unqueued (playerId : Int) : r.unqueued.spawnTetromino env playerId =
    (r.spawnTetromino env playerId).map fun x => (x.1.unqueued, x.2) := by
  have hfind :
      (r.unqueued.roomPlayers.findIdx? fun p => (findSession env p).any (·.playerId = playerId)) =
      r.roomPlayers.findIdx? fun p => (findSession env p).any (·.playerId = playerId) := by
    unfold unqueued
    dsimp only
    rw [List.findIdx?_map]
    rfl
  unfold spawnTetromino
  rw [hfind]
  cases r.roomPlayers.findIdx? fun p => (findSession env p).any (·.playerId = playerId) with
  | none => rfl
  | some i =>
      dsimp only
      rw [getElem?_unqueued]
      cases r.roomPlayers[i]? with
      | none => rfl
      | some p =>
          dsimp only [Option.map_some, Option.bind_eq_bind, Option.bind_some]
          unfold initTetromino
          rw [show r.unqueued.tetrominoSpawnList = r.tetrominoSpawnList from rfl,
            show p.unqueued.tetrominoIndex = p.tetrominoIndex from rfl]
          cases r.tetrominoSpawnList[p.tetrominoIndex]? with
          | none => rfl
          | some type =>
              exact congrArg some (Prod.ext (modifyPlayer_unqueued r i fun _ => rfl) rfl)

theorem applySendTaskState_unqueued (i : Nat) (playerId : Int) (task : TaskType) :
    r.unqueued.applySendTaskState env i playerId task =
      (r.applySendTaskState env i playerId task).map fun x => (x.1.unqueued, x.2) := by
  cases task with
  | spawn =>
      unfold applySendTaskState
      rw [getElem?_unqueued]
      cases r.roomPlayers[i]? with
      | none => rfl
      | some p =>
          dsimp only [Option.map_some, Option.bind_eq_bind, Option.bind_some]
          rw [show p.unqueued.tetrominoIndex = p.tetrominoIndex from rfl,
            show r.unqueued.tetrominoSpawnList = r.tetrominoSpawnList from rfl]
          have hbag : (if p.tetrominoIndex + 2 = r.tetrominoSpawnList.length then
                r.unqueued.appendTetromino7Bag env else r.unqueued) =
              (if p.tetrominoIndex + 2 = r.tetrominoSpawnList.length then
                r.appendTetromino7Bag env else r).unqueued := by
            split <;> rfl
          rw [hbag, modifyPlayer_unqueued
            (g := fun p => { p with tetrominoIndex := p.tetrominoIndex + 1 }) _ i fun p => rfl]
          exact spawnTetromino_unqueued _ env playerId
  | gameOver => exact congrArg some (Prod.ext (modifyPlayer_unqueued r i fun _ => rfl) rfl)
  | move | fix | clearLine | addLine | gameEnd => rfl

theorem tickPacket_unqueued (spawnList : List TetrominoType) (p : Player) (playerId : Int)
    (task : TaskType) :
    tickPacket spawnList p.unqueued playerId task = tickPacket spawnList p playerId task := by
  cases task <;> rfl

theorem appendTasks_unqueued (i : Nat) (playerId : Int) (key : SessionKey) :
    ∀ (tasks : List TaskType)
    (r : TetrisRoom), appendTasks env i playerId key r.unqueued tasks =
      (appendTasks env i playerId key r tasks).map fun x => (x.1.unqueued, x.2) := by
  intro tasks
  induction tasks with
  | nil => exact fun r => rfl
  | cons task rest ih =>
      intro r
      rw [appendTasks, appendTasks, applySendTaskState_unqueued]
      cases r.applySendTaskState env i playerId task with
      | none => rfl
      | some x =>
          obtain ⟨r₁, goOn⟩ := x
          dsimp only [Option.map_some, Option.bind_eq_bind, Option.bind_some]
          cases goOn with
          | false => exact ih r₁
          | true =>
              rw [if_pos rfl, if_pos rfl, getElem?_unqueued]
              cases r₁.roomPlayers[i]? with
              | none => rfl
              | some p =>
                  dsimp only [Option.map_some, Option.bind_some]
                  rw [show r₁.unqueued.tetrominoSpawnList = r₁.tetrominoSpawnList from rfl,
                    tickPacket_unqueued]
                  cases tickPacket r₁.tetrominoSpawnList p playerId task with
                  | none => rfl
                  | some packet =>
                      dsimp only [Option.bind_some]
                      have hadd : p.unqueued.addToSendBuffer packet =
                          (p.addToSendBuffer packet).map Player.unqueued := by
                        unfold Player.addToSendBuffer
                        rw [show p.unqueued.sendDataSize = p.sendDataSize from rfl]
                        split <;> rfl
                      rw [hadd]
                      cases p.addToSendBuffer packet with
                      | none => rfl
                      | some q =>
                          dsimp only [Option.map_some]
                          rw [modifyPlayer_unqueued (g := fun _ => q) r₁ i fun _ => rfl]
                          exact ih _

theorem appendSlotPackets_unqueued (i : Nat) : r.unqueued.appendSlotPackets env i =
    (r.appendSlotPackets env i).map fun x => (x.1.unqueued, x.2) := by
  unfold appendSlotPackets
  rw [getElem?_unqueued]
  cases r.roomPlayers[i]? with
  | none => rfl
  | some p =>
      dsimp only [Option.map_some]
      rw [show p.unqueued.roomPlayerState = p.roomPlayerState from rfl,
        show findSession env p.unqueued = findSession env p from rfl]
      split
      · rfl
      · cases findSession env p with
        | none => rfl
        | some v => exact appendTasks_unqueued env i v.playerId p.sessionKey p.tetris.sendTasks r

theorem appendFrom_unqueued : ∀ (is : List Nat) (r : TetrisRoom), appendFrom env is r.unqueued =
    (appendFrom env is r).map fun x => (x.1.unqueued, x.2) := by
  intro is
  induction is with
  | nil => exact fun r => rfl
  | cons i rest ih =>
      intro r
      rw [appendFrom, appendFrom, appendSlotPackets_unqueued]
      cases r.appendSlotPackets env i with
      | none => rfl
      | some x =>
          obtain ⟨r₁, result⟩ := x
          cases result with
          | done => exact ih r₁
          | failed key => rfl

theorem appendTickPackets_unqueued : r.unqueued.appendTickPackets env =
    (r.appendTickPackets env).map fun x => (x.1.unqueued, x.2) := by
  unfold appendTickPackets
  rw [length_unqueued]
  exact appendFrom_unqueued env _ r

theorem gather_unqueued : ∀ (ps : List Player) (r : TetrisRoom) (buffer : List S2CPacket),
    gather env r.unqueued (ps.map Player.unqueued) buffer =
      ((gather env r ps buffer).1.unqueued, (gather env r ps buffer).2) := by
  intro ps
  induction ps with
  | nil => exact fun r buffer => rfl
  | cons p rest ih =>
      intro r buffer
      rw [List.map_cons, gather, gather]
      rw [show findSession env p.unqueued = findSession env p from rfl,
        show p.unqueued.sendDataSize = p.sendDataSize from rfl,
        show p.unqueued.sendBuffer = p.sendBuffer from rfl, sendAll_unqueued]
      split
      · exact ih r buffer
      · split
        · exact ih _ _
        · exact ih r _

theorem broadcastPackets_unqueued :
    r.unqueued.broadcastPackets env = (r.broadcastPackets env).unqueued := by
  unfold broadcastPackets
  rw [show r.unqueued.roomPlayers = r.roomPlayers.map Player.unqueued from rfl, gather_unqueued]
  dsimp only
  rw [sendAll_unqueued]
  split
  · exact forSessions_unqueued _ env fun _ => rfl
  · exact forSessions_unqueued _ env fun _ => rfl

/-! ## The end of a tick -/

theorem resetPlayerTickState_unqueued :
    r.unqueued.resetPlayerTickState env = (r.resetPlayerTickState env).unqueued := by
  unfold resetPlayerTickState
  refine forSessions_unqueued r env fun p => ?_
  dsimp only
  split <;> rfl

theorem clearGame_unqueued : r.unqueued.clearGame env = (r.clearGame env).unqueued :=
  forSessions_unqueued { (r.storeRoomState .wait).clearPlayTasks with tetrominoSpawnList := [] }
    env fun _ => rfl

theorem addRoomTask_unqueued (task : RoomTask) :
    (r.unqueued.addRoomTask task).1 = (r.addRoomTask task).1.unqueued := by
  unfold addRoomTask
  rw [show r.unqueued.roomState = r.roomState from rfl]
  split <;> rfl

theorem finishTick_unqueued (isGameEnd : Bool) : MultiRoom.finishTick r.unqueued env isGameEnd =
    (MultiRoom.finishTick r env isGameEnd).unqueued := by
  unfold MultiRoom.finishTick
  rw [resetPlayerTickState_unqueued, broadcastPackets_unqueued]
  dsimp only
  split
  · split
    · exact clearGame_unqueued _ env
    · have hrecord : ∀ r : TetrisRoom, MultiRoom.requestUpdateMatchResult r.unqueued env =
          (MultiRoom.requestUpdateMatchResult r env).unqueued := by
        intro r
        unfold MultiRoom.requestUpdateMatchResult
        rw [targets_unqueued]
        rfl
      rw [hrecord]
      exact clearGame_unqueued _ env
  · rfl

theorem endGame_unqueued :
    SingleRoom.endGame r.unqueued env = (SingleRoom.endGame r env).unqueued := by
  have hscore : SingleRoom.requestUpdateScore r.unqueued env =
      (SingleRoom.requestUpdateScore r env).unqueued := by
    unfold SingleRoom.requestUpdateScore SingleRoom.slot
    rw [getElem?_unqueued]
    cases r.roomPlayers[0]? with
    | none => rfl
    | some p =>
        dsimp only [Option.map_some]
        rw [show findSession env p.unqueued = findSession env p from rfl]
        cases findSession env p with
        | none => rfl
        | some v =>
            dsimp only
            rw [show p.unqueued.score = p.score from rfl]
            split <;> rfl
  unfold SingleRoom.endGame
  rw [hscore]
  split
  · exact clearGame_unqueued r env
  · exact clearGame_unqueued _ env

theorem judge_unqueued (p : Player) : SingleRoom.judge p.unqueued =
    (SingleRoom.judge p).map fun x => (x.1.unqueued, x.2) := by
  unfold SingleRoom.judge
  rw [show p.unqueued.tetris.checkGameOver = _ from p.tetris.checkGameOver_unqueued]
  cases p.tetris.checkGameOver with
  | none => rfl
  | some x =>
      obtain ⟨s, isGameOver⟩ := x
      dsimp only [Option.map_some, Option.bind_eq_bind, Option.bind_some]
      let q : Player := { p with tetris := s }
      have hscored : ∀ q : Player,
          (if hasEvent q.unqueued.tetris.sendTasks .fix then
            SingleRoom.calculateScore q.unqueued q.unqueued.tetris.clearedLineCount
              else q.unqueued) =
          (if hasEvent q.tetris.sendTasks .fix then
            SingleRoom.calculateScore q q.tetris.clearedLineCount else q).unqueued := by
        intro q
        rw [show q.unqueued.tetris.sendTasks = q.tetris.sendTasks from rfl,
          show q.unqueued.tetris.clearedLineCount = q.tetris.clearedLineCount from rfl]
        split
        · unfold SingleRoom.calculateScore
          split <;> rfl
        · rfl
      have hspawned : (if isGameOver = true then q.unqueued else addSpawnTask q.unqueued) =
          (if isGameOver = true then q else addSpawnTask q).unqueued := by
        split
        · rfl
        · exact addSpawnTask_unqueued q
      refine congrArg some (Prod.ext ?_ rfl)
      show (if hasEvent (if isGameOver = true then q.unqueued
        else addSpawnTask q.unqueued).tetris.sendTasks .fix then
        SingleRoom.calculateScore
          (if isGameOver = true then q.unqueued else addSpawnTask q.unqueued)
          (if isGameOver = true then q.unqueued
            else addSpawnTask q.unqueued).tetris.clearedLineCount
        else if isGameOver = true then q.unqueued else addSpawnTask q.unqueued) = _
      rw [hspawned]
      exact hscored _

end Unqueued

/-! ## A tick, from the engines on -/

/-- What `MultiRoom::ProcessGameTick` does once the engines have been advanced. -/
def MultiRoom.afterTicks (env : RoomEnv) (r : TetrisRoom) : Option TetrisRoom := do
  let r ← (distributeGarbageLines r).addGarbageLines env
  let (r, isGameEnd) := resolveWinner r env
  let r := if isGameEnd then r else r.addSpawnTasks
  let (r, result) ← r.appendTickPackets env
  match result with
  | .failed key => some (r.addRoomTask ⟨.removePlayer, key, "", -1, -1⟩).1
  | .done => some (finishTick r env isGameEnd)

theorem MultiRoom.processGameTick_eq (r : TetrisRoom) (env : RoomEnv) (t : Int) :
    processGameTick r env t =
      ((updatePrevPlayerStates r env).processTicks env t).bind (afterTicks env) := by
  unfold processGameTick beforeVerdict
  dsimp only [Option.bind_eq_bind]
  rw [Option.bind_assoc]
  rfl

theorem MultiRoom.afterTicks_unqueued (env : RoomEnv) (r : TetrisRoom) :
    afterTicks env r.unqueued = (afterTicks env r).map unqueued := by
  unfold afterTicks
  rw [distributeGarbageLines_unqueued, addGarbageLines_unqueued]
  cases (distributeGarbageLines r).addGarbageLines env with
  | none => rfl
  | some r =>
      dsimp only [Option.map_some, Option.bind_eq_bind, Option.bind_some]
      rw [resolveWinner_unqueued]
      have hspawned : (if (resolveWinner r env).2 = true then (resolveWinner r env).1.unqueued
            else (resolveWinner r env).1.unqueued.addSpawnTasks) =
          (if (resolveWinner r env).2 = true then (resolveWinner r env).1
            else (resolveWinner r env).1.addSpawnTasks).unqueued := by
        split
        · rfl
        · exact addSpawnTasks_unqueued _
      dsimp only
      rw [hspawned, appendTickPackets_unqueued]
      cases (if (resolveWinner r env).2 = true then (resolveWinner r env).1
          else (resolveWinner r env).1.addSpawnTasks).appendTickPackets env with
      | none => rfl
      | some x =>
          obtain ⟨r', result⟩ := x
          dsimp only [Option.map_some, Option.bind_some]
          cases result with
          | failed key => exact congrArg some (addRoomTask_unqueued r' _)
          | done => exact congrArg some (finishTick_unqueued r' env _)

/-- What `SingleRoom::ProcessGameTick` does once the engine has been advanced. -/
def SingleRoom.afterTicks (env : RoomEnv) (r : TetrisRoom) : Option TetrisRoom := do
  let r ← r.addGarbageLines env
  let p ← slot r
  let (p, isGameOver) ← judge p
  let r := r.modifyPlayer 0 fun _ => p
  let (r, result) ← r.appendTickPackets env
  match result with
  | .failed key => some (r.addRoomTask ⟨.removePlayer, key, "", -1, -1⟩).1
  | .done => some (finishTick r env isGameOver)

theorem SingleRoom.afterTicks_unqueued (env : RoomEnv) (r : TetrisRoom) :
    afterTicks env r.unqueued = (afterTicks env r).map unqueued := by
  unfold afterTicks
  rw [addGarbageLines_unqueued]
  cases r.addGarbageLines env with
  | none => rfl
  | some r =>
      dsimp only [Option.map_some, Option.bind_eq_bind, Option.bind_some]
      rw [show slot r.unqueued = (slot r).map Player.unqueued from getElem?_unqueued r 0]
      cases slot r with
      | none => rfl
      | some p =>
          dsimp only [Option.map_some, Option.bind_some]
          rw [judge_unqueued]
          cases judge p with
          | none => rfl
          | some x =>
              obtain ⟨q, isGameOver⟩ := x
              dsimp only [Option.map_some, Option.bind_some]
              rw [modifyPlayer_unqueued (g := fun _ => q) r 0 fun _ => rfl,
                appendTickPackets_unqueued]
              cases (r.modifyPlayer 0 fun _ => q).appendTickPackets env with
              | none => rfl
              | some x =>
                  obtain ⟨r', result⟩ := x
                  dsimp only [Option.map_some, Option.bind_some]
                  cases result with
                  | failed key => exact congrArg some (addRoomTask_unqueued r' _)
                  | done =>
                      refine congrArg some ?_
                      unfold finishTick
                      rw [resetPlayerTickState_unqueued, broadcastPackets_unqueued]
                      dsimp only
                      split
                      · exact endGame_unqueued _ env
                      · rfl

theorem SingleRoom.processGameTick_eq {r : TetrisRoom} {env : RoomEnv} {t : Int} {p : Player}
    (hp : slot r = some p) (ha : p.isActive = true) :
    processGameTick r env t = (r.processTicks env t).bind (afterTicks env) := by
  unfold processGameTick
  rw [hp]
  dsimp only
  rw [ha]
  rfl

/-- Two computations that agree before a step that commutes with `h` agree after it. -/
theorem bind_agree {α : Type} {h : α → α} {f : α → Option α} (hf : ∀ a, f (h a) = (f a).map h)
    {x y : Option α} (hxy : x.map h = y.map h) : (x.bind f).map h = (y.bind f).map h := by
  have hcomm : ∀ x : Option α, (x.bind f).map h = (x.map h).bind f := by
    intro x
    cases x with
    | none => rfl
    | some a => exact (hf a).symm
  rw [hcomm, hcomm, hxy]

/-! ## Inputs that count -/

/-- One of the five inputs, for the game that is on, from somebody in the room. -/
structure Counts (r : TetrisRoom) (task : PlayerInputTask) : Prop where
  generation : task.playGeneration = r.playGeneration
  type : EventType.right.toInt ≤ task.eventType ∧ task.eventType ≤ EventType.drop.toInt
  player : ∃ p ∈ r.roomPlayers, p.isActive = true ∧ task.playerId = p.sessionKey.playerId

section SameInputs

variable {r : TetrisRoom} {env : RoomEnv} {l₁ l₂ : List PlayerInputTask}

theorem inputsFor_subset {p : Player} (hp : p ∈ r.roomPlayers)
    (h : ∀ task, r.Counts task → task ∈ l₁ → task ∈ l₂) (i : Fin inputTypeCount)
    (hi : (i : Int) ∈ inputsFor { r with playTasks := l₁ } p) :
    (i : Int) ∈ inputsFor { r with playTasks := l₂ } p := by
  obtain ⟨task, hmem, htype⟩ := List.mem_map.mp hi
  obtain ⟨hmem, hfor⟩ := List.mem_filter.mp hmem
  obtain ⟨hgen, ha, hid⟩ := isFor_iff.mp hfor
  have hlt : (i : Nat) < 5 := i.isLt
  have hrange : EventType.right.toInt ≤ task.eventType ∧
      task.eventType ≤ EventType.drop.toInt := by
    rw [htype, show EventType.right.toInt = 0 from rfl, show EventType.drop.toInt = 4 from rfl]
    omega
  exact List.mem_map.mpr ⟨task,
    List.mem_filter.mpr ⟨h task ⟨hgen, hrange, p, hp, ha, hid⟩ hmem, hfor⟩, htype⟩

/-- Two contents with the same inputs that count give every player the same inputs. -/
theorem sameInputs_inputsFor {p : Player} (hp : p ∈ r.roomPlayers)
    (h : ∀ task, r.Counts task → (task ∈ l₁ ↔ task ∈ l₂)) :
    Tetris.SameInputs (inputsFor { r with playTasks := l₁ } p)
      (inputsFor { r with playTasks := l₂ } p) := by
  intro i
  exact ⟨inputsFor_subset hp (fun task hc => (h task hc).mp) i,
    inputsFor_subset hp (fun task hc => (h task hc).mpr) i⟩

/-- Nobody gets an input on a free slot. -/
theorem inputsFor_idle {p : Player} (ha : p.isActive = false) (r : TetrisRoom) :
    r.inputsFor p = [] := by
  unfold inputsFor
  rw [List.filter_eq_nil_iff.mpr fun task _ hfor => ?_]
  · rfl
  · rw [(isFor_iff.mp hfor).2.1] at ha
    exact absurd ha (by decide)

theorem processTickOf_agree (t : Int) (p : Player) {x y : List Int} (h : Tetris.SameInputs x y)
    (hidle : (findSession env p).isSome = false → x = y) :
    (processTickOf env t (p.queueInputs x)).map Player.unqueued =
      (processTickOf env t (p.queueInputs y)).map Player.unqueued := by
  cases hsome : (findSession env p).isSome with
  | false => rw [hidle hsome]
  | true =>
      have hadvance : ∀ x : List Int, (processTickOf env t (p.queueInputs x)).map Player.unqueued =
          ((Tetris.processTick { p.tetris with inputTasks := p.tetris.inputTasks ++ x } t).map
            Tetris.unqueued).map fun s => { p with tetris := s } := by
        intro x
        unfold processTickOf
        rw [show findSession env (p.queueInputs x) = findSession env p from rfl, if_pos hsome]
        show Option.map
          _ ((Tetris.processTick { p.tetris with inputTasks := p.tetris.inputTasks ++ x } t).bind
            _) = _
        cases Tetris.processTick { p.tetris with inputTasks := p.tetris.inputTasks ++ x } t <;> rfl
      have hboth : Tetris.SameInputs (p.tetris.inputTasks ++ x) (p.tetris.inputTasks ++ y) := by
        intro i
        rw [List.mem_append, List.mem_append, h i]
      rw [hadvance, hadvance, Tetris.processTick_sameInputs p.tetris t hboth]

/-- The inputs of `l` have been handed out. -/
def dealt (r : TetrisRoom) (l : List PlayerInputTask) : TetrisRoom :=
  { r with
    playTasks := []
    roomPlayers := r.roomPlayers.map fun p =>
      p.queueInputs (inputsFor { r with playTasks := l } p) }

theorem dealt_unqueued (r : TetrisRoom) (l : List PlayerInputTask) :
    (r.dealt l).unqueued = unqueued { r with playTasks := [] } := by
  unfold unqueued dealt
  dsimp only
  rw [List.map_map]
  rfl

/-- The engines do the same with the two contents, whatever was noted on the slots before. -/
theorem processTicks_agree (t : Int) (hs : Seated env r.roomPlayers)
    (h : ∀ task, r.Counts task → (task ∈ l₁ ↔ task ∈ l₂)) (note : Player → Player)
    (hnote : ∀ p x, note (p.queueInputs x) = (note p).queueInputs x)
    (hseat : ∀ p, (note p).seat = p.seat) :
    (processTicks { r.dealt l₁ with roomPlayers := (r.dealt l₁).roomPlayers.map note } env t).map
      unqueued =
      (processTicks { r.dealt l₂ with roomPlayers := (r.dealt l₂).roomPlayers.map note } env t).map
        unqueued := by
  have hloop : (((r.dealt l₁).roomPlayers.map note).mapM (processTickOf env t)).map
      (List.map Player.unqueued) =
      (((r.dealt l₂).roomPlayers.map note).mapM (processTickOf env t)).map
      (List.map Player.unqueued) := by
    unfold dealt
    dsimp only
    rw [List.map_map, List.map_map, List.mapM_map, List.mapM_map]
    refine mapM_agree fun p hp => ?_
    dsimp only [Function.comp_apply]
    rw [hnote, hnote]
    refine processTickOf_agree t (note p) (sameInputs_inputsFor hp h) fun hnone => ?_
    rw [findSession_of_seat env (hseat p), hs.isSome hp] at hnone
    rw [inputsFor_idle hnone, inputsFor_idle hnone]
  have hroom : ∀ (l : List PlayerInputTask) (o : Option (List Player)),
      (o.bind fun ps => some { r.dealt l with roomPlayers := ps }).map unqueued =
        (o.map (List.map Player.unqueued)).map fun ps =>
        { r with playTasks := [], roomPlayers := ps } := by
    intro l o
    cases o <;> rfl
  exact (hroom l₁ _).trans ((congrArg _ hloop).trans (hroom l₂ _).symm)

/-- Between two events nothing is queued. -/
theorem RoomOk.unqueued (h : RoomOk r) : r.unqueued = r := by
  have hslots : r.roomPlayers.map Player.unqueued = r.roomPlayers := by
    refine (List.map_congr_left fun p hp => ?_).trans (List.map_id _)
    have hinputs := (h.slots p hp).fresh.inputs
    show { p with tetris := { p.tetris with inputTasks := [] } } = p
    rw [← hinputs]
  rw [TetrisRoom.unqueued, hslots]

/-- Up to the queues, a tick does the same with the two contents. -/
theorem tick_agree (t : Int) (hs : Seated env r.roomPlayers) (hplay : r.roomState = .play)
    (h : ∀ task, r.Counts task → (task ∈ l₁ ↔ task ∈ l₂)) :
    (({ r with playTasks := l₁ } : TetrisRoom).processRoomTick env t).map unqueued =
      (({ r with playTasks := l₂ } : TetrisRoom).processRoomTick env t).map unqueued := by
  have hdealt : ∀ l, ({ r with playTasks := l } : TetrisRoom).processRoomTick env t =
      (r.dealt l).processGameTick env t := by
    intro l
    unfold processRoomTick
    rw [if_neg (fun hc => hc hplay), distributeInputs_eq (r := { r with playTasks := l }) hs]
    rfl
  rw [hdealt, hdealt]
  by_cases hkind : r.kind = .single
  · rw [processGameTick_single (r := r.dealt l₁) hkind,
      processGameTick_single (r := r.dealt l₂) hkind]
    have hslot : ∀ l, SingleRoom.slot (r.dealt l) =
        (r.roomPlayers[0]?).map fun p => p.queueInputs (inputsFor { r with playTasks := l } p) :=
      fun l => List.getElem?_map
    have hstay : (∀ p, r.roomPlayers[0]? = some p → p.isActive = false) →
        ∀ l, SingleRoom.processGameTick (r.dealt l) env t = some (r.dealt l) := by
      intro hidle l
      unfold SingleRoom.processGameTick
      rw [hslot]
      cases hp : r.roomPlayers[0]? with
      | none => rfl
      | some p =>
          dsimp only [Option.map_some]
          rw [show (p.queueInputs (inputsFor { r with playTasks := l } p)).isActive = false
            from hidle p hp]
          rfl
    by_cases hidle : ∀ p, r.roomPlayers[0]? = some p → p.isActive = false
    · rw [hstay hidle, hstay hidle]
      exact congrArg some ((dealt_unqueued r l₁).trans (dealt_unqueued r l₂).symm)
    · obtain ⟨p, hp, ha⟩ : ∃ p, r.roomPlayers[0]? = some p ∧ p.isActive = true := by
        simpa using hidle
      rw [SingleRoom.processGameTick_eq ((hslot l₁).trans (congrArg _ hp)) ha,
        SingleRoom.processGameTick_eq ((hslot l₂).trans (congrArg _ hp)) ha]
      refine bind_agree (SingleRoom.afterTicks_unqueued env) ?_
      have hagree := @processTicks_agree r env l₁ l₂ t hs h id (fun _ _ => rfl) fun _ => rfl
      rwa [List.map_id, List.map_id] at hagree
  · rw [processGameTick_multi (r := r.dealt l₁) hkind,
      processGameTick_multi (r := r.dealt l₂) hkind,
      MultiRoom.processGameTick_eq, MultiRoom.processGameTick_eq]
    refine bind_agree (MultiRoom.afterTicks_unqueued env) ?_
    let noted : Player → Player := fun p =>
      if (findSession env p).isSome then { p with prevRoomPlayerState := p.roomPlayerState } else p
    have hnoted : ∀ l, MultiRoom.updatePrevPlayerStates (r.dealt l) env =
        { r.dealt l with roomPlayers := (r.dealt l).roomPlayers.map noted } := by
      intro l
      unfold MultiRoom.updatePrevPlayerStates
      rw [if_neg (fun hc => hc hplay)]
      rfl
    rw [hnoted, hnoted]
    refine processTicks_agree t hs h noted (fun p x => ?_) fun p => ?_
    · show (if (findSession env p).isSome then _ else _) =
        Player.queueInputs (if (findSession env p).isSome then _ else _) x
      split <;> rfl
    · show (if (findSession env p).isSome then _ else _ : Player).seat = _
      split <;> rfl

/--
**A tick does not depend on the order in which inputs arrive.**

Whatever room is in a game, and whatever is in its queue: two contents with the same inputs
that count, in any order, any number of times and among anything else, lead to the same room
and to the same packets.
-/
theorem tick_arrival_order (hr : Reachable r) (hplay : r.roomState = .play) (t : Int)
    (hserves : env.Serves r (.tick t)) (h : ∀ task, r.Counts task → (task ∈ l₁ ↔ task ∈ l₂)) :
    ∃ r', ({ r with playTasks := l₁ } : TetrisRoom).step env (.tick t) = some r' ∧
      ({ r with playTasks := l₂ } : TetrisRoom).step env (.tick t) = some r' := by
  have hok := roomOk_reachable hr
  have hend : ∀ l : List PlayerInputTask, ∃ r',
      ({ r with playTasks := l } : TetrisRoom).step env (.tick t) = some r' ∧
      r'.unqueued = r' := by
    intro l
    have hokl : RoomOk { r with playTasks := l } :=
      ⟨hok.length, hok.slots, hok.distinct, hok.count⟩
    have hservesl : env.Serves { r with playTasks := l } (.tick t) := hserves.of_players rfl
    obtain ⟨r', hr', hstepped⟩ := step_ok hokl hservesl
    exact ⟨r', hr', (roomOk_stepped hokl hservesl hstepped).unqueued⟩
  obtain ⟨r₁, hr₁, hq₁⟩ := hend l₁
  obtain ⟨r₂, hr₂, hq₂⟩ := hend l₂
  have hs : Seated env ({ r with out := [] } : TetrisRoom).roomPlayers := hok.seated hserves
  have hagree := @tick_agree { r with out := [] } env l₁ l₂ t hs hplay
    fun task hc => h task ⟨hc.generation, hc.type, hc.player⟩
  have hsame : (some r₁).map unqueued = (some r₂).map unqueued := by
    rw [← hr₁, ← hr₂]
    exact hagree
  have heq : r₁ = r₂ := hq₁.symm.trans ((Option.some.inj hsame).trans hq₂)
  exact ⟨r₁, hr₁, heq ▸ hr₂⟩

end SameInputs

/-- The same inputs twice: in the other order, one of them repeated, and with three that do not
count. -/
theorem tick_arrival_order_gameOfTwo : ∃ r r', gameOfTwo 0 = some r ∧
    ({ r with playTasks := [⟨4, 1, 1⟩, ⟨1, 2, 1⟩] } : TetrisRoom).step
      (scenarioEnv [hostKey, guestKey] .room 0) (.tick 20000) = some r' ∧
    ({ r with playTasks := [⟨1, 2, 1⟩, ⟨0, 1, 7⟩, ⟨9, 2, 1⟩, ⟨4, 1, 1⟩,
      ⟨0, 99, 1⟩, ⟨1, 2, 1⟩] } : TetrisRoom).step
      (scenarioEnv [hostKey, guestKey] .room 0) (.tick 20000) = some r' := by
  have hrun : (gameOfTwo 0).any (fun r =>
      decide (r.roomState = .play ∧ r.playGeneration = 1 ∧ AllOf [hostKey, guestKey] r ∧
        ∀ p ∈ r.roomPlayers, p.sessionKey.playerId ≠ 99)) = true := by decide +kernel
  simp only [Option.any_eq_true, decide_eq_true_eq] at hrun
  obtain ⟨r, hr, hplay, hgen, hall, hknown⟩ := hrun
  refine ⟨r, _, hr, (tick_arrival_order (gameOfTwo_reachable hr) hplay 20000
    (scenarioEnv_serves .room 0 (by decide) hall) fun task hc => ?_).choose_spec⟩
  obtain ⟨hgeneration, htype, p, hp, _, hid⟩ := hc
  have hgeneration : task.playGeneration = 1 := hgeneration.trans hgen
  have hid : task.playerId ≠ 99 := fun h => hknown p hp (hid.symm.trans h)
  obtain ⟨eventType, playerId, playGeneration⟩ := task
  dsimp only at hgeneration htype hid
  subst hgeneration
  have hlast : eventType ≤ 4 := htype.2
  have hnine : eventType ≠ 9 := by omega
  simp only [List.mem_cons, List.not_mem_nil, or_false, PlayerInputTask.mk.injEq, hnine]
  grind

end TetrisRoom

end ProjectTetris

import ProjectTetris.Rooms.SingleRoom

/-!
# Runs of a room

A room lives from `CompleteRoomInitialization`, with its host in slot 0, through any
sequence of events: tasks taken from `room_tasks_`, leave packets of its own players,
inputs queued for the game, and ticks. An event handles one of them to its end; the
`out` of the room it leaves holds what that event sent.

`RoomEnv.Serves` collects what the rest of the server promises a room for one event: a
session is finalised only after its slot was freed, an event names the session it comes
from by its own key, and no account is logged in twice.
-/

namespace ProjectTetris

inductive RoomEvent where
  | task (task : RoomTask)
  /-- `C2S_REMOVE_PLAYER`, read from the queue of the session with this key. -/
  | leavePacket (key : SessionKey)
  | input (task : PlayerInputTask)
  | tick (tickTimeMs : Int)

/-- The session that an event is looked up by. -/
def RoomEvent.sender : RoomEvent → Option SessionKey
  | .task roomTask => some roomTask.sessionKey
  | .leavePacket key => some key
  | .input _ | .tick _ => none

namespace TetrisRoom

/-- The constructor: an empty room. -/
def new (kind : RoomKind) (roomIndex : Int) (roomKey : Nat) (roomName roomPassword : String)
    (now : Int) : TetrisRoom where
  kind := kind
  roomState := .empty
  roomTasks := []
  playTasks := []
  playGeneration := 0
  tetrominoSpawnList := []
  roomIndex := roomIndex
  roomKey := roomKey
  roomName := roomName
  roomPassword := roomPassword
  maxPlayerCount := kind.slotCount
  currentPlayerCount := 0
  roomPlayers := List.replicate kind.slotCount (Player.init now)
  hostId := -1
  winnerId := -1
  out := []

def handle (r : TetrisRoom) (env : RoomEnv) : RoomEvent → Option TetrisRoom
  | .task task => (r.tryProcessRoomTask env task).map (·.1)
  | .leavePacket key => some (r.requestLobbyTransition env key)
  | .input task => some (r.addPlayTask task)
  | .tick t => r.processRoomTick env t

/-- One event, with a log of its own. -/
def step (r : TetrisRoom) (env : RoomEnv) (e : RoomEvent) : Option TetrisRoom :=
  { r with out := [] }.handle env e

end TetrisRoom

/--
What the server promises the room `r` for the event `e`.

The session of an occupied slot is found, as the account the slot holds. The one the
event comes from, if it is found, is that of the account in its key, and if it is not in
the room, nobody in the room has that account.
-/
structure RoomEnv.Serves (env : RoomEnv) (r : TetrisRoom) (e : RoomEvent) : Prop where
  found : ∀ p ∈ r.roomPlayers, p.hasSession = true →
    ∃ v, env.findSession p.sessionKey = some v ∧ v.playerId = p.sessionKey.playerId
  account : ∀ key, e.sender = some key → ∀ v, env.findSession key = some v →
    v.playerId = key.playerId
  single : ∀ p ∈ r.roomPlayers, p.hasSession = true → ∀ key, e.sender = some key →
    (env.findSession key).isSome → p.sessionKey.playerId = key.playerId → p.sessionKey = key

/-- It promises the same for a room with the same slots. -/
theorem RoomEnv.Serves.of_players {env : RoomEnv} {r r' : TetrisRoom} {e : RoomEvent}
    (h : env.Serves r e) (hplayers : r'.roomPlayers = r.roomPlayers) : env.Serves r' e :=
  ⟨hplayers ▸ h.found, h.account, hplayers ▸ h.single⟩

namespace TetrisRoom

/-- The room as its creation leaves it. -/
inductive Created : TetrisRoom → Prop
  | intro (kind : RoomKind) (roomIndex : Int) (roomKey : Nat) (roomName roomPassword : String)
      (now : Int) (env : RoomEnv) (v : SessionView) (key : SessionKey) {r : TetrisRoom}
      (hv : env.findSession key = some v) (hid : v.playerId = key.playerId)
      (hadd : (TetrisRoom.new kind roomIndex roomKey roomName roomPassword now).addHostSession
        env v key = (r, true)) :
      Created ((r.sendCreateRoom key).completeRoomInitialization)

/-- The rooms a run can reach; every event may meet a different world. -/
inductive Reachable : TetrisRoom → Prop
  | created {r : TetrisRoom} (h : Created r) : Reachable r
  | step {r r' : TetrisRoom} (h : Reachable r) (env : RoomEnv) (e : RoomEvent)
      (hserves : env.Serves r e) (hstep : r.step env e = some r') : Reachable r'

end TetrisRoom

end ProjectTetris

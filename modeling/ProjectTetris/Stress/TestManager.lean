import ProjectTetris.Lib.WordRing
import ProjectTetris.Rooms.TetrisRoom

/-!
# What the stress client measures

`TestManager` sends a move every `MOVE_INTERVAL_MS` and writes down when; a `S2C_MOVE` with
its player's id takes the oldest time still waiting, and the difference is the sample. A run
is one connection, from `InitSession` on: the client, the moves and the packets under way,
and the engine the moves are for, which ticks by its own clock.

Nothing in a `S2C_MOVE` says which move it answers. The times are taken in the order they
were written, so they are right as long as every move is answered, once and in order, and
nothing else is announced. The engine does not work like that: gravity and rising lines move
the piece too, moves of one tick are merged, and a move that does not fit is not answered.
-/

namespace ProjectTetris

/-! ## The client -/

def moveTimeQueueSize : Nat := 64
def moveIntervalMs : Int := 100
def measurementSeconds : Int := 30

/-- `move_send_times_` with its two indices of type `std::uint32_t`. -/
abbrev MoveSendTimes := WordRing Int 32 moveTimeQueueSize

/-- The states of `SessionState` a game leads through. -/
inductive StressState where
  | room
  | playing
  deriving DecidableEq

/-- `Session`, as far as a game needs it. -/
structure StressSession where
  playerId : Int
  state : StressState
  lastSendTime : Int
  moveSendTimes : MoveSendTimes
  nextMoveType : Int

/-- `LatencyRecorder`; times are those of the steady clock, in milliseconds. -/
structure LatencyRecorder where
  isStarted : Bool
  isFinishing : Bool
  finishTime : Int
  latencySamples : List Int

namespace LatencyRecorder

def tryStart (r : LatencyRecorder) (now : Int) : LatencyRecorder :=
  if r.isStarted then r
  else { r with finishTime := now + measurementSeconds * 1000, isStarted := true }

/-- A sample is taken at this time. -/
def isMeasuring (r : LatencyRecorder) (now : Int) : Bool :=
  r.isStarted && !r.isFinishing && now < r.finishTime

def record (r : LatencyRecorder) (now latencyMs : Int) : LatencyRecorder :=
  if r.isMeasuring now then { r with latencySamples := r.latencySamples ++ [latencyMs] } else r

def tryFinish (r : LatencyRecorder) (now : Int) : LatencyRecorder :=
  if !r.isStarted || now < r.finishTime then r else { r with isFinishing := true }

end LatencyRecorder

namespace StressSession

/-- `InitSession`; the array keeps what an earlier connection has left in it. -/
def initSession (playerId : Int) (left : Nat → Int) : StressSession where
  playerId := playerId
  state := .room
  lastSendTime := -1
  moveSendTimes := .emptyOf left
  nextMoveType := 0

def pushMoveSendTime (s : StressSession) (sendTime : Int) : Option StressSession :=
  (s.moveSendTimes.push sendTime).map fun times => { s with moveSendTimes := times }

def popMoveSendTime (s : StressSession) : StressSession × Option Int :=
  match s.moveSendTimes.pop with
  | none => (s, none)
  | some (sendTime, times) => ({ s with moveSendTimes := times }, some sendTime)

/-- `GetNextMoveType`: right and left in turns. -/
def getNextMoveType (s : StressSession) : StressSession × Int :=
  ({ s with nextMoveType := if s.nextMoveType = 0 then 1 else 0 }, s.nextMoveType)

/-- `SendMove`, with the type of the move that goes out; a full queue sends nothing. -/
def sendMove (s : StressSession) (sendTime : Int) : StressSession × Option Int :=
  match s.pushMoveSendTime sendTime with
  | none => (s, none)
  | some s =>
      let (s, moveType) := s.getNextMoveType
      (s, some moveType)

/-- One turn of `ProcessSend`, for this session. -/
def processSend (s : StressSession) (now : Int) : StressSession × Option Int :=
  if s.state ≠ .playing then (s, none)
  else if now - s.lastSendTime < moveIntervalMs then (s, none)
  else { s with lastSendTime := now }.sendMove now

/-- `HandlePacket`, on the packets that matter in a game. -/
def handlePacket (s : StressSession) (recorder : LatencyRecorder) (now : Int) :
    S2CPacket → StressSession × LatencyRecorder
  | .multiStart =>
      if s.state = .playing then (s, recorder)
      else ({ s with lastSendTime := now, state := .playing }, recorder)
  | .gameEnd _ =>
      if s.state ≠ .playing then (s, recorder) else ({ s with state := .room }, recorder)
  | .move playerId _ =>
      if playerId ≠ s.playerId then (s, recorder)
      else
        match s.popMoveSendTime with
        | (s, some sendTime) => (s, recorder.record now (now - sendTime))
        | (s, none) => (s, recorder)
  | _ => (s, recorder)

/-- How many moves are waiting for a `S2C_MOVE`. -/
def waiting (s : StressSession) : Nat := (s.moveSendTimes.write - s.moveSendTimes.read).toNat

end StressSession

/-! ## The run -/

/-- A `S2C` packet, with the numbers of the moves it answers. -/
structure Answer where
  packet : S2CPacket
  causes : List Nat

/-- A sample as it should have been: when the packet was handled, and what it answered. -/
structure Measured where
  receivedAt : Int
  causes : List Nat
  deriving DecidableEq

/-- The client and its player's engine, with what is under way between them. -/
structure StressRun where
  client : StressSession
  recorder : LatencyRecorder
  /-- The client's clock does not go back. -/
  clock : Int
  /-- When each `C2S_MOVE` was sent; a move is known by its place in this list. -/
  sends : List Int
  toServer : List (Nat × Int)
  engine : Tetris
  /-- The moves of the tick that has not begun yet. -/
  arrived : List (Nat × Int)
  toClient : List Answer
  /-- Beside each sample, what it should tell. -/
  measured : List Measured

inductive StressAction where
  /-- `ProcessSend` comes to this session. -/
  | processSend (now : Int)
  /-- The server takes the oldest move into the engine. -/
  | playerInput
  /-- The server does not pass the oldest move on, or it has been lost. -/
  | reject
  /--
  The room's tick, with the lines the others have sent, the holes of the rising lines and
  what comes next.
  -/
  | tick (tickTimeMs : Int) (lines : Nat) (holes : Nat → Fin boardWidth)
      (spawn : Option TetrominoType)
  /-- A game begins. -/
  | startGame (now : Int) (type : TetrominoType)
  /-- The server sends a packet that is no move of this player. -/
  | sendOther (packet : S2CPacket)
  | receive (now : Int)
  | tryStart (now : Int)
  | tryFinish (now : Int)

namespace StressRun

/-- The numbers of the moves that a task of this tick answers. -/
def causesOf (arrived : List (Nat × Int)) : TaskType → List Nat
  | .move moveType => (arrived.filter fun move => move.2 = moveType.toInt).map (·.1)
  | _ => []

/-- The packets of the player's `send_tasks_` that concern his moves. -/
def answersOf (playerId : Int) (arrived : List (Nat × Int))
    (tasks : List TaskType) : List Answer :=
  tasks.filterMap fun task =>
    match task with
    | .move moveType => some ⟨.move playerId moveType.toInt, causesOf arrived task⟩
    | _ => none

/--
The part of `ProcessGameTick` this engine goes through. The client logs in with
`C2S_TEST_LOGIN`, which only a server in test mode takes, and that puts the piece back to where
it has come in at the end of every tick.
-/
def tickEngine (e : Tetris) (tickTimeMs : Int) (lines : Nat) (holes : Nat → Fin boardWidth)
    (spawn : Option TetrominoType) : Option (Tetris × List TaskType) := do
  let e ← e.processTick tickTimeMs
  let e ← (e.addPendingGarbageLines lines).addGarbageLines holes
  let next := (spawn.map fun type => e.initNewTetromino type spawnPos).getD e
  some ((next.resetTetrominoPosition spawnPos).resetTickData, e.sendTasks)

/-- No `S2C_MOVE` of the player. -/
def isOther (playerId : Int) : S2CPacket → Bool
  | .move id _ => id ≠ playerId
  | _ => true

def step : StressAction → StressRun → Option StressRun
  | .processSend now, s =>
      if now < s.clock then none
      else
        match s.client.processSend now with
        | (client, none) => some { s with client := client, clock := now }
        | (client, some moveType) => some { s with
            client := client
            clock := now
            sends := s.sends ++ [now]
            toServer := s.toServer ++ [(s.sends.length, moveType)] }
  | .playerInput, s =>
      match s.toServer with
      | [] => none
      | move :: rest => some { s with
          toServer := rest
          engine := { s.engine with inputTasks := s.engine.inputTasks ++ [move.2] }
          arrived := s.arrived ++ [move] }
  | .reject, s =>
      match s.toServer with
      | [] => none
      | _ :: rest => some { s with toServer := rest }
  | .tick tickTimeMs lines holes spawn, s =>
      (tickEngine s.engine tickTimeMs lines holes spawn).map fun r => { s with
        engine := r.1
        arrived := []
        toClient := s.toClient ++ answersOf s.client.playerId s.arrived r.2 }
  | .startGame now type, s => some { s with
      engine := (s.engine.resetTickData.clear now).initNewTetromino type spawnPos
      arrived := [] }
  | .sendOther packet, s =>
      if isOther s.client.playerId packet then
        some { s with toClient := s.toClient ++ [⟨packet, []⟩] } else none
  | .receive now, s =>
      match s.toClient with
      | [] => none
      | answer :: rest =>
          if now < s.clock then none
          else
            let (client, recorder) := s.client.handlePacket s.recorder now answer.packet
            some { s with
              client := client
              recorder := recorder
              clock := now
              toClient := rest
              measured :=
                if recorder.latencySamples.length = s.recorder.latencySamples.length then
                  s.measured
                else s.measured ++ [⟨now, answer.causes⟩] }
  | .tryStart now, s =>
      if now < s.clock then none
      else some { s with recorder := s.recorder.tryStart now, clock := now }
  | .tryFinish now, s =>
      if now < s.clock then none
      else some { s with recorder := s.recorder.tryFinish now, clock := now }

/-- What the actions lead to, one after the other. -/
def run : List StressAction → StressRun → Option StressRun
  | [], s => some s
  | a :: as, s => (step a s).bind (run as)

/-- A connection right after `InitSession`: nothing sent, nothing measured. -/
def start (playerId : Int) (left : Nat → Int) (engine : Tetris) (now : Int) : StressRun where
  client := .initSession playerId left
  recorder := { isStarted := false, isFinishing := false, finishTime := 0, latencySamples := [] }
  clock := now
  sends := []
  toServer := []
  engine := engine
  arrived := []
  toClient := []
  measured := []

/-! ## True latencies -/

/-- The sample is the time since a move that the packet answers was sent. -/
def IsTrue (sends : List Int) (sample : Int) (m : Measured) : Prop :=
  ∃ k ∈ m.causes, ∃ sendTime, sends[k]? = some sendTime ∧ sample = m.receivedAt - sendTime

/-- Every sample is a true latency. -/
def TrueLatencies (s : StressRun) : Prop :=
  List.Forall₂ (IsTrue s.sends) s.recorder.latencySamples s.measured

/-- The number of the oldest move still waiting. -/
def oldest (s : StressRun) : Nat := s.sends.length - s.client.waiting

/--
The packet about to be handled answers the oldest move still waiting, unless it takes no
sample.
-/
def AnswersOldest (s : StressRun) : StressAction → Prop
  | .receive now =>
      match s.toClient with
      | ⟨.move playerId _, causes⟩ :: _ =>
          playerId = s.client.playerId → s.client.waiting ≠ 0 → s.recorder.isMeasuring now = true →
            s.oldest ∈ causes
      | _ => True
  | _ => True

/-- Every packet handled on the way answers the oldest move waiting at the time. -/
def AllInOrder : List StressAction → StressRun → Prop
  | [], _ => True
  | a :: as, s => s.AnswersOldest a ∧ ∀ s', step a s = some s' → AllInOrder as s'

end StressRun

end ProjectTetris

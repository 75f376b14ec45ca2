import Mathlib.Data.Finset.Range
import ProjectTetris.Lib.Barrier
import ProjectTetris.Lib.Transition
import ProjectTetris.Rooms.Player

/-!
# Who is logged in

`ActivePlayerManager` and the sessions it speaks of, as the threads of the lobby and of
the rooms use them. A phase of the lobby has a lifecycle stage, in which sessions are
finalized, and a session stage, in which their tasks are processed; no thread enters the
second before all have left the first. A step is one access to what the threads share.
-/

namespace ProjectTetris

open Transition

/-- A `Session`, as far as logging in and disconnecting go. -/
structure LoginSession where
  lifeState : LifeState := .none
  modeState : ModeState := .none
  /-- Of `session_key_`; 0 while the slot is free. -/
  sessionId : Nat := 0
  /-- Of `session_key_` and of `db_info_`, which change together. -/
  playerId : Int := -1
  isProcessingTasks : Bool := false

/-- Whose loop over the tasks of a session: the lobby's, or that of some room. -/
inductive LoopOwner where
  | lobby
  | room
  deriving DecidableEq

/-- The modes in which the loop processes a session's tasks. -/
def LoopOwner.Accepts : LoopOwner → ModeState → Prop
  | .lobby, mode => mode = .login ∨ mode = .lobby
  | .room, mode => mode = .room

/-- A call of `AddPlayer`, with what there was when it got the mutex. -/
structure AddPlayerCall where
  owner : LoopOwner
  index : Int
  /-- `login_result->player_id`. -/
  playerId : Int
  playersBefore : Int → Option SessionKey
  keyBefore : SessionKey

inductive AddPlayerStep where
  | find
  | applyLoginResult
  | getSessionKey
  | insert (key : SessionKey)
  | unlock (result : Bool)

/-- `FinalizeDisconnect`; `current` is the key it has read. -/
inductive RemovalStep where
  | findSession
  | getLifeState
  | tryStart
  | matchesKey
  | recheckLife
  | getSessionKey
  | getRoomSnapshot (current : SessionKey)
  | getDBInfo (current : SessionKey)
  | removePlayer (current : SessionKey) (playerId : Int)
  /-- What it does to the lobby and to the tasks of the session is done. -/
  | completeTasks (current : SessionKey)
  | finalizeDisconnect (current : SessionKey)
  /-- `CompleteTaskProcessing`, and nothing after it. -/
  | giveUp

/-- Where a thread is; each is about to take the step it names. -/
inductive LoginThread where
  -- a lobby thread
  | available
  | lifecycle
  | arrived
  | sessions
  | stopped
  -- a game thread
  | idle
  -- the loop over the tasks of the session at this index
  | start (owner : LoopOwner) (index : Int)
  | checkMode (owner : LoopOwner) (index : Int)
  | checkLife (owner : LoopOwner) (index : Int)
  | process (owner : LoopOwner) (index : Int)
  | lock (owner : LoopOwner) (index playerId : Int)
  | addPlayer (call : AddPlayerCall) (step : AddPlayerStep)
  | complete (owner : LoopOwner) (index : Int)
  /-- `ENTER_LOBBY`, or the creation of a room: neither processes a task. -/
  | other (owner : LoopOwner) (index : Int)
  | finalize (key : SessionKey) (step : RemovalStep)

/-- Where the loop goes on. -/
def LoopOwner.back : LoopOwner → LoginThread
  | .lobby => .sessions
  | .room => .idle

/-- Where the other holders of the flag come from. -/
def LoopOwner.outside : LoopOwner → LoginThread
  | .lobby => .lifecycle
  | .room => .idle

structure ActivePlayers where
  isRunning : Bool := true
  sessions : Int → LoginSession := fun _ => {}
  /-- The ids that `GenerateSessionID` has given; it gives none twice. -/
  issued : List Nat := []
  activePlayers : Int → Option SessionKey := fun _ => none
  /-- `active_players_mutex_`. -/
  isLocked : Bool := false
  completedLifecycleThreadCount : Nat := 0
  /-- The threads that have counted themselves as completed. -/
  arrived : Finset Nat := ∅
  threads : Nat → LoginThread
  /-- The keys `FinalizeDisconnect` has called `RemovePlayer` with. -/
  removed : List SessionKey := []

namespace ActivePlayers

def setThread (s : ActivePlayers) (t : Nat) (thread : LoginThread) : ActivePlayers :=
  { s with threads := Function.update s.threads t thread }

def setSession (s : ActivePlayers) (i : Int) (session : LoginSession) : ActivePlayers :=
  { s with sessions := Function.update s.sessions i session }

def setFlag (s : ActivePlayers) (i : Int) (isProcessingTasks : Bool) : ActivePlayers :=
  s.setSession i { s.sessions i with isProcessingTasks }

/-- `GetSessionKey`. -/
def sessionKey (s : ActivePlayers) (i : Int) : SessionKey :=
  ⟨i, (s.sessions i).playerId, (s.sessions i).sessionId⟩

/-- `MatchesSessionKey`, of a slot that is in use. -/
def Matches (s : ActivePlayers) (key : SessionKey) : Prop :=
  (s.sessions key.sessionIndex).lifeState ≠ .none ∧ (s.sessions key.sessionIndex).sessionId =
    key.sessionId

/-- `InitSession`. -/
def initSession (s : ActivePlayers) (i : Int) (sessionId : Nat) : ActivePlayers :=
  let session := { s.sessions i with
    lifeState := .active
    modeState := .login
    sessionId
    playerId := -1 }
  { s.setSession i session with issued := sessionId :: s.issued }

def setLife (s : ActivePlayers) (i : Int) (lifeState : LifeState) : ActivePlayers :=
  s.setSession i { s.sessions i with lifeState }

def setMode (s : ActivePlayers) (i : Int) (modeState : ModeState) : ActivePlayers :=
  s.setSession i { s.sessions i with modeState }

/-- `ApplyLoginResult`, of an active session that has yet to log in. -/
def applyLoginResult (s : ActivePlayers) (i playerId : Int) : ActivePlayers :=
  s.setSession i { s.sessions i with playerId, modeState := .lobby }

/-- `Session::FinalizeDisconnect`, of the session the key belongs to. -/
def finalizeDisconnect (s : ActivePlayers) (i : Int) : ActivePlayers :=
  s.setSession i
    { s.sessions i with lifeState := .none, modeState := .none, sessionId := 0, playerId := -1 }

def insert (s : ActivePlayers) (playerId : Int) (key : SessionKey) : ActivePlayers :=
  { s with activePlayers := Function.update s.activePlayers playerId (some key) }

/-- `RemovePlayer`: an entry with another key stays. -/
def removePlayer (s : ActivePlayers) (playerId : Int) (key : SessionKey) : ActivePlayers :=
  { s with
    activePlayers :=
      if s.activePlayers playerId = some key then Function.update s.activePlayers playerId none
      else s.activePlayers
    removed := key :: s.removed }

inductive Next (threadCount : Nat) : ActivePlayers → ActivePlayers → Prop
  -- the phases of the lobby
  | startLobbyPhase (s : ActivePlayers) (hrunning : s.isRunning = true)
      (hfree : ∀ t < threadCount, s.threads t = .available) :
      Next threadCount s { s with
        completedLifecycleThreadCount := 0
        arrived := ∅
        threads := fun t => if t < threadCount then .lifecycle else s.threads t }
  | stop (s : ActivePlayers) : Next threadCount s { s with isRunning := false }
  | arrive (s : ActivePlayers) {t : Nat} (h : s.threads t = .lifecycle) :
      Next threadCount s ({ s with
        completedLifecycleThreadCount := s.completedLifecycleThreadCount + 1
        arrived := Insert.insert t s.arrived }.setThread t .arrived)
  | pass (s : ActivePlayers) {t : Nat} (h : s.threads t = .arrived)
      (hall : threadCount ≤ s.completedLifecycleThreadCount) :
      Next threadCount s (s.setThread t .sessions)
  | quit (s : ActivePlayers) {t : Nat} (h : s.threads t = .arrived) (hstop : s.isRunning = false) :
      Next threadCount s (s.setThread t .stopped)
  | leave (s : ActivePlayers) {t : Nat} (h : s.threads t = .sessions) :
      Next threadCount s (s.setThread t .available)
  -- connections, and what other threads do to a session
  | accept (s : ActivePlayers) {i : Int} {sessionId : Nat} (hindex : 0 ≤ i)
      (hfree : (s.sessions i).lifeState = .none) (hid : sessionId ≠ 0)
      (hnew : sessionId ∉ s.issued) :
      Next threadCount s (s.initSession i sessionId)
  /-- `BeginDisconnect`, with or without operations outstanding. -/
  | beginDisconnect (s : ActivePlayers) {i : Int} {lifeState : LifeState}
      (h : (s.sessions i).lifeState = .active)
      (hlife : lifeState = .disconnectPending ∨ lifeState = .disconnecting) :
      Next threadCount s (s.setLife i lifeState)
  | completeIo (s : ActivePlayers) {i : Int} (h : (s.sessions i).lifeState = .disconnectPending) :
      Next threadCount s (s.setLife i .disconnecting)
  | completeRoomRemoval (s : ActivePlayers) {i : Int}
      (h : (s.sessions i).lifeState = .disconnectPending ∨
        (s.sessions i).lifeState = .disconnecting)
      (hmode : (s.sessions i).modeState = .room) : Next threadCount s (s.setMode i .none)
  | trySetRoomMode (s : ActivePlayers) {i : Int} (h : (s.sessions i).lifeState = .active)
      (hmode : (s.sessions i).modeState = .lobby) : Next threadCount s (s.setMode i .room)
  | trySetLobbyMode (s : ActivePlayers) {i : Int} (h : (s.sessions i).lifeState = .active)
      (hmode : (s.sessions i).modeState = .room) : Next threadCount s (s.setMode i .lobby)
  -- a loop over the tasks of a session
  | visit (s : ActivePlayers) {t : Nat} (owner : LoopOwner) (i : Int)
      (h : s.threads t = owner.back) :
      Next threadCount s (s.setThread t (.start owner i))
  | notStarted (s : ActivePlayers) {t : Nat} {owner : LoopOwner} {i : Int}
      (h : s.threads t = .start owner i)
      (hbusy : (s.sessions i).isProcessingTasks = true) :
      Next threadCount s (s.setThread t owner.back)
  | started (s : ActivePlayers) {t : Nat} {owner : LoopOwner} {i : Int}
      (h : s.threads t = .start owner i)
      (hfree : (s.sessions i).isProcessingTasks = false) :
      Next threadCount s ((s.setFlag i true).setThread t (.checkMode owner i))
  | modeChecked (s : ActivePlayers) {t : Nat} {owner : LoopOwner} {i : Int}
      (h : s.threads t = .checkMode owner i)
      (hmode : owner.Accepts (s.sessions i).modeState) :
      Next threadCount s (s.setThread t (.checkLife owner i))
  | modeRefused (s : ActivePlayers) {t : Nat} {owner : LoopOwner} {i : Int}
      (h : s.threads t = .checkMode owner i)
      (hmode : ¬ owner.Accepts (s.sessions i).modeState) :
      Next threadCount s (s.setThread t (.complete owner i))
  | lifeChecked (s : ActivePlayers) {t : Nat} {owner : LoopOwner} {i : Int}
      (h : s.threads t = .checkLife owner i)
      (hlife : (s.sessions i).lifeState = .active) :
      Next threadCount s (s.setThread t (.process owner i))
  | lifeRefused (s : ActivePlayers) {t : Nat} {owner : LoopOwner} {i : Int}
      (h : s.threads t = .checkLife owner i)
      (hlife : (s.sessions i).lifeState ≠ .active) :
      Next threadCount s (s.setThread t (.complete owner i))
  /-- A task is the successful result of a login, of the session that is there. -/
  | loginResult (s : ActivePlayers) {t : Nat} {owner : LoopOwner} {i : Int} (playerId : Int)
      (h : s.threads t = .process owner i) :
      Next threadCount s (s.setThread t (.lock owner i playerId))
  | processed (s : ActivePlayers) {t : Nat} {owner : LoopOwner} {i : Int}
      (h : s.threads t = .process owner i) :
      Next threadCount s (s.setThread t (.complete owner i))
  | completed (s : ActivePlayers) {t : Nat} {owner : LoopOwner} {i : Int}
      (h : s.threads t = .complete owner i) :
      Next threadCount s ((s.setFlag i false).setThread t owner.back)
  -- `AddPlayer`
  | locked (s : ActivePlayers) {t : Nat} {owner : LoopOwner} {i playerId : Int}
      (h : s.threads t = .lock owner i playerId) (hfree : s.isLocked = false) :
      Next threadCount s ({ s with isLocked := true }.setThread t
        (.addPlayer ⟨owner, i, playerId, s.activePlayers, s.sessionKey i⟩ .find))
  | found (s : ActivePlayers) {t : Nat} {call : AddPlayerCall}
      (h : s.threads t = .addPlayer call .find)
      (hfound : (s.activePlayers call.playerId).isSome = true) :
      Next threadCount s (s.setThread t (.addPlayer call (.unlock false)))
  | notFound (s : ActivePlayers) {t : Nat} {call : AddPlayerCall}
      (h : s.threads t = .addPlayer call .find)
      (hnone : s.activePlayers call.playerId = none) :
      Next threadCount s (s.setThread t (.addPlayer call .applyLoginResult))
  | applied (s : ActivePlayers) {t : Nat} {call : AddPlayerCall}
      (h : s.threads t = .addPlayer call .applyLoginResult)
      (hmode : (s.sessions call.index).modeState = .login)
      (hlife : (s.sessions call.index).lifeState = .active) :
      Next threadCount s ((s.applyLoginResult call.index call.playerId).setThread t
        (.addPlayer call .getSessionKey))
  | notApplied (s : ActivePlayers) {t : Nat} {call : AddPlayerCall}
      (h : s.threads t = .addPlayer call .applyLoginResult)
      (hno : ¬ ((s.sessions call.index).modeState = .login ∧
        (s.sessions call.index).lifeState = .active)) :
      Next threadCount s (s.setThread t (.addPlayer call (.unlock false)))
  | keyRead (s : ActivePlayers) {t : Nat} {call : AddPlayerCall}
      (h : s.threads t = .addPlayer call .getSessionKey) :
      Next threadCount s (s.setThread t (.addPlayer call (.insert (s.sessionKey call.index))))
  | inserted (s : ActivePlayers) {t : Nat} {call : AddPlayerCall} {key : SessionKey}
      (h : s.threads t = .addPlayer call (.insert key)) :
      Next threadCount s
      ((s.insert call.playerId key).setThread t (.addPlayer call (.unlock true)))
  | unlocked (s : ActivePlayers) {t : Nat} {call : AddPlayerCall} {result : Bool}
      (h : s.threads t = .addPlayer call (.unlock result)) :
      Next threadCount s
      ({ s with isLocked := false }.setThread t (.process call.owner call.index))
  -- other holders of the flag
  | otherStart (s : ActivePlayers) {t : Nat} (owner : LoopOwner) (i : Int)
      (h : s.threads t = owner.outside)
      (hfree : (s.sessions i).isProcessingTasks = false) :
      Next threadCount s ((s.setFlag i true).setThread t (.other owner i))
  | otherComplete (s : ActivePlayers) {t : Nat} {owner : LoopOwner} {i : Int}
      (h : s.threads t = .other owner i) :
      Next threadCount s ((s.setFlag i false).setThread t owner.outside)
  -- `FinalizeDisconnect`, for a `DISCONNECT` task
  | finalize (s : ActivePlayers) {t : Nat} (key : SessionKey) (h : s.threads t = .lifecycle) :
      Next threadCount s (s.setThread t (.finalize key .findSession))
  | sessionFound (s : ActivePlayers) {t : Nat} {key : SessionKey}
      (h : s.threads t = .finalize key .findSession)
      (hmatches : s.Matches key) : Next threadCount s (s.setThread t (.finalize key .getLifeState))
  | sessionNotFound (s : ActivePlayers) {t : Nat} {key : SessionKey}
      (h : s.threads t = .finalize key .findSession)
      (hmatches : ¬ s.Matches key) : Next threadCount s (s.setThread t .lifecycle)
  | disconnecting (s : ActivePlayers) {t : Nat} {key : SessionKey}
      (h : s.threads t = .finalize key .getLifeState)
      (hlife : (s.sessions key.sessionIndex).lifeState = .disconnecting) :
      Next threadCount s (s.setThread t (.finalize key .tryStart))
  | notDisconnecting (s : ActivePlayers) {t : Nat} {key : SessionKey}
      (h : s.threads t = .finalize key .getLifeState)
      (hlife : (s.sessions key.sessionIndex).lifeState ≠ .disconnecting) :
      Next threadCount s (s.setThread t .lifecycle)
  /-- The task is enqueued again. -/
  | finalizeNotStarted (s : ActivePlayers) {t : Nat} {key : SessionKey}
      (h : s.threads t = .finalize key .tryStart)
      (hbusy : (s.sessions key.sessionIndex).isProcessingTasks = true) :
      Next threadCount s (s.setThread t .lifecycle)
  | finalizeStarted (s : ActivePlayers) {t : Nat} {key : SessionKey}
      (h : s.threads t = .finalize key .tryStart)
      (hfree : (s.sessions key.sessionIndex).isProcessingTasks = false) :
      Next threadCount s ((s.setFlag key.sessionIndex true).setThread t
        (.finalize key .matchesKey))
  | keyMatched (s : ActivePlayers) {t : Nat} {key : SessionKey}
      (h : s.threads t = .finalize key .matchesKey)
      (hmatches : s.Matches key) : Next threadCount s (s.setThread t (.finalize key .recheckLife))
  | keyNotMatched (s : ActivePlayers) {t : Nat} {key : SessionKey}
      (h : s.threads t = .finalize key .matchesKey)
      (hmatches : ¬ s.Matches key) : Next threadCount s (s.setThread t (.finalize key .giveUp))
  | lifeRechecked (s : ActivePlayers) {t : Nat} {key : SessionKey}
      (h : s.threads t = .finalize key .recheckLife)
      (hlife : (s.sessions key.sessionIndex).lifeState = .disconnecting) :
      Next threadCount s (s.setThread t (.finalize key .getSessionKey))
  | lifeNotRechecked (s : ActivePlayers) {t : Nat} {key : SessionKey}
      (h : s.threads t = .finalize key .recheckLife)
      (hlife : (s.sessions key.sessionIndex).lifeState ≠ .disconnecting) :
      Next threadCount s (s.setThread t (.finalize key .giveUp))
  | currentKeyRead (s : ActivePlayers) {t : Nat} {key : SessionKey}
      (h : s.threads t = .finalize key .getSessionKey) :
      Next threadCount s
      (s.setThread t (.finalize key (.getRoomSnapshot (s.sessionKey key.sessionIndex))))
  /-- The room is asked to remove the player, or has been deleted. -/
  | inRoom (s : ActivePlayers) {t : Nat} {key current : SessionKey}
      (h : s.threads t = .finalize key (.getRoomSnapshot current))
      (hmode : (s.sessions key.sessionIndex).modeState = .room) :
      Next threadCount s (s.setThread t (.finalize key .giveUp))
  | notInRoom (s : ActivePlayers) {t : Nat} {key current : SessionKey}
      (h : s.threads t = .finalize key (.getRoomSnapshot current))
      (hmode : (s.sessions key.sessionIndex).modeState ≠ .room) :
      Next threadCount s (s.setThread t (.finalize key (.getDBInfo current)))
  | dbInfoRead (s : ActivePlayers) {t : Nat} {key current : SessionKey}
      (h : s.threads t = .finalize key (.getDBInfo current)) :
      Next threadCount s
        (s.setThread t
          (.finalize key (.removePlayer current (s.sessions key.sessionIndex).playerId)))
  | playerRemoved (s : ActivePlayers) {t : Nat} {key current : SessionKey} {playerId : Int}
      (h : s.threads t = .finalize key (.removePlayer current playerId))
      (hfree : s.isLocked = false) :
      Next threadCount s ((s.removePlayer playerId current).setThread t
        (.finalize key (.completeTasks current)))
  | tasksCompleted (s : ActivePlayers) {t : Nat} {key current : SessionKey}
      (h : s.threads t = .finalize key (.completeTasks current)) :
      Next threadCount s
        ((s.setFlag key.sessionIndex false).setThread t
          (.finalize key (.finalizeDisconnect current)))
  | finalized (s : ActivePlayers) {t : Nat} {key current : SessionKey}
      (h : s.threads t = .finalize key (.finalizeDisconnect current))
      (hlife : (s.sessions key.sessionIndex).lifeState = .disconnecting)
      (hid : (s.sessions key.sessionIndex).sessionId = current.sessionId) :
      Next threadCount s ((s.finalizeDisconnect key.sessionIndex).setThread t .lifecycle)
  | notFinalized (s : ActivePlayers) {t : Nat} {key current : SessionKey}
      (h : s.threads t = .finalize key (.finalizeDisconnect current))
      (hno : ¬ ((s.sessions key.sessionIndex).lifeState = .disconnecting ∧
        (s.sessions key.sessionIndex).sessionId = current.sessionId)) :
      Next threadCount s (s.setThread t .lifecycle)
  | gaveUp (s : ActivePlayers) {t : Nat} {key : SessionKey}
      (h : s.threads t = .finalize key .giveUp) :
      Next threadCount s ((s.setFlag key.sessionIndex false).setThread t .lifecycle)

/-- Nobody is connected, and the lobby threads wait for a phase. -/
def start (threadCount : Nat) : ActivePlayers where
  threads t := if t < threadCount then .available else .idle

/-- The runs of so many lobby threads, with any number of game threads and of slots. -/
def system (threadCount : Nat) : System ActivePlayers :=
  ⟨fun s => s = start threadCount, Next threadCount⟩

end ActivePlayers

end ProjectTetris

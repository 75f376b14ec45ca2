import Mathlib.Logic.Function.Basic
import ProjectTetris.Lib.Transition
import ProjectTetris.Net.C2SType
import ProjectTetris.Rooms.Player
import ProjectTetris.Threads.ConcurrentTaskQueue

/-!
# The tasks of one session

`Session` as the threads around it use its queue: producers in `TryEnqueueTask`, the loops
of the lobby's threads and of the rooms', and `FinalizeDisconnect`. The state is that of
one connection, from its login until its slot is emptied. A step is one access to what the
threads share; a producer and `BeginDisconnect` hold `session_mutex_`, so neither takes a
step while the other is between two.
-/

namespace ProjectTetris

open Transition

/-- A `SessionTask` in the queue; of a packet, its type. -/
inductive QueuedTask where
  | packet (type : Nat)
  | dbResult
  | addFriend
  | deleteFriend
  | friendRequest
  | disconnect
  deriving DecidableEq, Repr

inductive SessionTaskProcessResult where
  | continue
  | restoreRemaining
  | discardRemaining
  deriving DecidableEq, Repr

/-- What `ProcessSessionTask` returns for a task of this connection. -/
def QueuedTask.result : QueuedTask → SessionTaskProcessResult
  | .packet type =>
      if type = C2SType.disconnect.code then .discardRemaining
      else if type = C2SType.removePlayer.code then .restoreRemaining
      else .continue
  | .disconnect => .discardRemaining
  | .dbResult | .addFriend | .deleteFriend | .friendRequest => .continue

/-- What has become of a task that was dequeued. -/
inductive TaskFate where
  | processed
  /-- `ProcessSessionTask` has found the slot emptied. -/
  | ignored
  | discarded
  deriving DecidableEq, Repr

/-- Which loop: the lobby's, or that of the room with this index. -/
inductive TaskLoop where
  | lobby
  | room (index : Int)

/-- A thing a loop looks at before it goes on. -/
inductive LoopCheck where
  /-- The session's mode; for a room, its room index too. -/
  | mode
  /-- The session's entry in the lobby, or the player in the room. -/
  | entry
  | life
  deriving DecidableEq

/-- Before `TryStartTaskProcessing`. -/
def TaskLoop.looks : TaskLoop → List LoopCheck
  | .lobby => [.entry, .life, .entry, .mode]
  | .room _ => [.entry, .life, .mode]

/-- After it, and after every task. -/
def TaskLoop.checks : TaskLoop → List LoopCheck
  | .lobby | .room _ => [.mode, .entry, .life]

/-- Who calls `DiscardTasks`. -/
inductive DiscardCaller where
  | loop
  | finalizeDisconnect

/-- Where a thread is; each is about to take the step it names. -/
inductive ConsumerStep where
  | idle
  | look (loop : TaskLoop) (checks : List LoopCheck)
  /-- The flag is this thread's from here on. -/
  | recheck (loop : TaskLoop) (checks : List LoopCheck)
  | claim (loop : TaskLoop)
  /-- So many of the claimed tasks are still in the queue. -/
  | dequeue (loop : TaskLoop) (remaining : Nat)
  | process (loop : TaskLoop) (task : QueuedTask) (remaining : Nat)
  | afterTask (loop : TaskLoop) (remaining : Nat) (checks : List LoopCheck)
  | restore (remaining : Nat)
  /-- `DISCARD_REMAINING`: the claimed tasks first, and then `DiscardTasks`. -/
  | drop (remaining : Nat)
  | discardClaim (caller : DiscardCaller)
  | discard (caller : DiscardCaller) (remaining : Nat)
  | complete (caller : DiscardCaller)
  | finalizeStart
  | finalizeCheck
  /-- `Session::FinalizeDisconnect`, when the flag has been released. -/
  | finalize
  /-- Another holder of the flag, which takes no task. -/
  | other

structure SessionQueue where
  sessionTasks : ConcurrentTaskQueue QueuedTask
  isProcessingTasks : Bool
  lifeState : LifeState
  modeState : ModeState
  roomIndex : Int
  lobbyEntry : Bool
  roomPlayer : Int → Bool
  /-- The task of a producer that has counted it and not pushed it. -/
  enqueuing : Option QueuedTask
  threads : Nat → ConsumerStep
  /-- Every task that was accepted, in order. -/
  accepted : List QueuedTask
  /-- Every task that was dequeued and dealt with, in order. -/
  done : List (QueuedTask × TaskFate)

namespace SessionQueue

def setThread (s : SessionQueue) (t : Nat) (step : ConsumerStep) : SessionQueue :=
  { s with threads := Function.update s.threads t step }

def setQueue (s : SessionQueue) (sessionTasks : ConcurrentTaskQueue QueuedTask) : SessionQueue :=
  { s with sessionTasks := sessionTasks }

def setFlag (s : SessionQueue) (isProcessingTasks : Bool) : SessionQueue :=
  { s with isProcessingTasks := isProcessingTasks }

def setLife (s : SessionQueue) (lifeState : LifeState) : SessionQueue :=
  { s with lifeState := lifeState }

/-- A task has been dealt with. -/
def finish (s : SessionQueue) (task : QueuedTask) (fate : TaskFate) : SessionQueue :=
  { s with done := s.done ++ [(task, fate)] }

/-- `BeginDisconnect`, of a session that is no longer active: nothing. -/
def beginDisconnect (s : SessionQueue) : SessionQueue :=
  if s.lifeState = .active then s.setLife .disconnectPending else s

/-- What a check finds. -/
def Holds (s : SessionQueue) : TaskLoop → LoopCheck → Prop
  | .lobby, .mode => s.modeState = .login ∨ s.modeState = .lobby
  | .room index, .mode => s.modeState = .room ∧ s.roomIndex = index
  | .lobby, .entry => s.lobbyEntry = true
  | .room index, .entry => s.roomPlayer index = true
  | _, .life => s.lifeState = .active

inductive Next : SessionQueue → SessionQueue → Prop
  -- `TryEnqueueTask`
  | accept (s : SessionQueue) (task : QueuedTask) (hfree : s.enqueuing = none)
      (hlife : s.lifeState = .active) :
      Next s { s with
        sessionTasks := s.sessionTasks.countTask, enqueuing := some task,
          accepted := s.accepted ++ [task] }
  | push (s : SessionQueue) {task : QueuedTask} (h : s.enqueuing = some task) :
      Next s { s with sessionTasks := s.sessionTasks.push task, enqueuing := none }
  -- what handlers and other threads change
  | move (s : SessionQueue) (modeState : ModeState) (roomIndex : Int) (lobbyEntry : Bool)
      (roomPlayer : Int → Bool) :
      Next s { s with
        modeState := modeState, roomIndex := roomIndex, lobbyEntry := lobbyEntry,
          roomPlayer := roomPlayer }
  /-- No operation on the socket is outstanding any more. -/
  | completeIO (s : SessionQueue) (hlife : s.lifeState = .disconnectPending) :
      Next s (s.setLife .disconnecting)
  | otherStart (s : SessionQueue) {t : Nat} (h : s.threads t = .idle)
      (hfree : s.isProcessingTasks = false) :
      Next s ((s.setFlag true).setThread t .other)
  | otherComplete (s : SessionQueue) {t : Nat} (h : s.threads t = .other) :
      Next s ((s.setFlag false).setThread t .idle)
  -- a loop comes to the session
  | loopBegin (s : SessionQueue) {t : Nat} (loop : TaskLoop) (h : s.threads t = .idle) :
      Next s (s.setThread t (.look loop loop.looks))
  | looked (s : SessionQueue) {t : Nat} {loop : TaskLoop} {check : LoopCheck}
      {checks : List LoopCheck}
      (h : s.threads t = .look loop (check :: checks)) (hholds : s.Holds loop check) :
      Next s (s.setThread t (.look loop checks))
  | lookFailed (s : SessionQueue) {t : Nat} {loop : TaskLoop} {check : LoopCheck}
      {checks : List LoopCheck}
      (h : s.threads t = .look loop (check :: checks)) (hno : ¬ s.Holds loop check) :
      Next s (s.setThread t .idle)
  -- `TryStartTaskProcessing`
  | notStarted (s : SessionQueue) {t : Nat} {loop : TaskLoop} (h : s.threads t = .look loop [])
      (hbusy : s.isProcessingTasks = true) : Next s (s.setThread t .idle)
  | started (s : SessionQueue) {t : Nat} {loop : TaskLoop} (h : s.threads t = .look loop [])
      (hfree : s.isProcessingTasks = false) :
      Next s ((s.setFlag true).setThread t (.recheck loop loop.checks))
  | rechecked (s : SessionQueue) {t : Nat} {loop : TaskLoop} {check : LoopCheck}
      {checks : List LoopCheck}
      (h : s.threads t = .recheck loop (check :: checks)) (hholds : s.Holds loop check) :
      Next s (s.setThread t (.recheck loop checks))
  | recheckFailed (s : SessionQueue) {t : Nat} {loop : TaskLoop} {check : LoopCheck}
      {checks : List LoopCheck}
      (h : s.threads t = .recheck loop (check :: checks)) (hno : ¬ s.Holds loop check) :
      Next s (s.setThread t (.complete .loop))
  | ready (s : SessionQueue) {t : Nat} {loop : TaskLoop} (h : s.threads t = .recheck loop []) :
      Next s (s.setThread t (.claim loop))
  -- the loop over the claimed tasks
  | claimed (s : SessionQueue) {t : Nat} {loop : TaskLoop} (h : s.threads t = .claim loop) :
      Next s ((s.setQueue s.sessionTasks.claimTaskCount).setThread t
        (.dequeue loop s.sessionTasks.taskCount))
  | loopEnd (s : SessionQueue) {t : Nat} {loop : TaskLoop} (h : s.threads t = .dequeue loop 0) :
      Next s (s.setThread t (.complete .loop))
  | dequeued (s : SessionQueue) {t : Nat} {loop : TaskLoop} {n : Nat} {task : QueuedTask}
      {q : ConcurrentTaskQueue QueuedTask} (h : s.threads t = .dequeue loop (n + 1))
      (hpop : s.sessionTasks.tryPop = some (task, q)) :
      Next s ((s.setQueue q).setThread t (.process loop task n))
  -- `ProcessSessionTask`
  | ignored (s : SessionQueue) {t : Nat} {loop : TaskLoop} {n : Nat} {task : QueuedTask}
      (h : s.threads t = .process loop task n) (hlife : s.lifeState = .none) :
      Next s ((s.finish task .ignored).setThread t (.afterTask loop n loop.checks))
  | processed (s : SessionQueue) {t : Nat} {loop : TaskLoop} {n : Nat} {task : QueuedTask}
      (h : s.threads t = .process loop task n) (hlife : s.lifeState ≠ .none)
      (hresult : task.result = .continue) :
      Next s ((s.finish task .processed).setThread t (.afterTask loop n loop.checks))
  | processedRestore (s : SessionQueue) {t : Nat} {loop : TaskLoop} {n : Nat} {task : QueuedTask}
      (h : s.threads t = .process loop task n) (hlife : s.lifeState ≠ .none)
      (hresult : task.result = .restoreRemaining) :
      Next s ((s.finish task .processed).setThread t (.restore n))
  /-- `BeginDisconnect`. -/
  | processedDisconnect (s : SessionQueue) {t : Nat} {loop : TaskLoop} {n : Nat}
      {task : QueuedTask}
      (h : s.threads t = .process loop task n) (hlife : s.lifeState ≠ .none)
      (hresult : task.result = .discardRemaining) (hfree : s.enqueuing = none) :
      Next s ((s.beginDisconnect.finish task .processed).setThread t (.drop n))
  | checked (s : SessionQueue) {t : Nat} {loop : TaskLoop} {n : Nat} {check : LoopCheck}
      {checks : List LoopCheck}
      (h : s.threads t = .afterTask loop n (check :: checks)) (hholds : s.Holds loop check) :
      Next s (s.setThread t (.afterTask loop n checks))
  | checkFailed (s : SessionQueue) {t : Nat} {loop : TaskLoop} {n : Nat} {check : LoopCheck}
      {checks : List LoopCheck} (h : s.threads t = .afterTask loop n (check :: checks))
      (hno : ¬ s.Holds loop check) : Next s (s.setThread t (.restore n))
  | again (s : SessionQueue) {t : Nat} {loop : TaskLoop} {n : Nat}
      (h : s.threads t = .afterTask loop n []) :
      Next s (s.setThread t (.dequeue loop n))
  | restored (s : SessionQueue) {t : Nat} {n : Nat} (h : s.threads t = .restore n) :
      Next s ((s.setQueue (s.sessionTasks.restoreClaimedTaskCount n)).setThread t
        (.complete .loop))
  | dropped (s : SessionQueue) {t : Nat} {n : Nat} {task : QueuedTask}
      {q : ConcurrentTaskQueue QueuedTask}
      (h : s.threads t = .drop (n + 1)) (hpop : s.sessionTasks.tryPop = some (task, q)) :
      Next s (((s.setQueue q).finish task .discarded).setThread t (.drop n))
  | allDropped (s : SessionQueue) {t : Nat} (h : s.threads t = .drop 0) :
      Next s (s.setThread t (.discardClaim .loop))
  -- `DiscardTasks`
  | discardClaimed (s : SessionQueue) {t : Nat} {caller : DiscardCaller}
      (h : s.threads t = .discardClaim caller) :
      Next s ((s.setQueue s.sessionTasks.claimTaskCount).setThread t
        (.discard caller s.sessionTasks.taskCount))
  | discarded (s : SessionQueue) {t : Nat} {caller : DiscardCaller} {n : Nat} {task : QueuedTask}
      {q : ConcurrentTaskQueue QueuedTask} (h : s.threads t = .discard caller (n + 1))
      (hpop : s.sessionTasks.tryPop = some (task, q)) :
      Next s (((s.setQueue q).finish task .discarded).setThread t (.discard caller n))
  | allDiscarded (s : SessionQueue) {t : Nat} {caller : DiscardCaller}
      (h : s.threads t = .discard caller 0) :
      Next s (s.setThread t (.complete caller))
  -- `CompleteTaskProcessing`
  | completed (s : SessionQueue) {t : Nat} (h : s.threads t = .complete .loop) :
      Next s ((s.setFlag false).setThread t .idle)
  | finalizeCompleted (s : SessionQueue) {t : Nat}
      (h : s.threads t = .complete .finalizeDisconnect) :
      Next s ((s.setFlag false).setThread t .finalize)
  -- `FinalizeDisconnect`
  | finalizeBegin (s : SessionQueue) {t : Nat} (h : s.threads t = .idle)
      (hlife : s.lifeState = .disconnecting) :
      Next s (s.setThread t .finalizeStart)
  | finalizeNotStarted (s : SessionQueue) {t : Nat} (h : s.threads t = .finalizeStart)
      (hbusy : s.isProcessingTasks = true) : Next s (s.setThread t .idle)
  | finalizeStarted (s : SessionQueue) {t : Nat} (h : s.threads t = .finalizeStart)
      (hfree : s.isProcessingTasks = false) :
      Next s ((s.setFlag true).setThread t .finalizeCheck)
  /-- Another call was first, or the session is still in a room. -/
  | finalizeNot (s : SessionQueue) {t : Nat} (h : s.threads t = .finalizeCheck)
      (hno : s.lifeState ≠ .disconnecting ∨ s.modeState = .room) :
      Next s (s.setThread t (.complete .loop))
  | finalizeChecked (s : SessionQueue) {t : Nat} (h : s.threads t = .finalizeCheck)
      (hlife : s.lifeState = .disconnecting) (hmode : s.modeState ≠ .room) :
      Next s (s.setThread t (.discardClaim .finalizeDisconnect))
  | finalized (s : SessionQueue) {t : Nat} (h : s.threads t = .finalize)
      (hlife : s.lifeState = .disconnecting)
      (hfree : s.enqueuing = none) : Next s ((s.setLife .none).setThread t .idle)
  | finalizedBefore (s : SessionQueue) {t : Nat} (h : s.threads t = .finalize)
      (hlife : s.lifeState ≠ .disconnecting) : Next s (s.setThread t .idle)

/-- A connection that was just accepted: no task yet, and nobody at it. -/
def Initial (s : SessionQueue) : Prop :=
  s.sessionTasks = ⟨[], 0⟩ ∧ s.isProcessingTasks = false ∧ s.lifeState = .active ∧
    s.enqueuing = none ∧
    (∀ t, s.threads t = .idle) ∧ s.accepted = [] ∧ s.done = []

def system : System SessionQueue := ⟨Initial, Next⟩

end SessionQueue

end ProjectTetris

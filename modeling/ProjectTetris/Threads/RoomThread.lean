import ProjectTetris.Lib.Transition
import ProjectTetris.Rooms.RoomInv
import ProjectTetris.Rooms.Membership

/-!
# A room and its threads

One thread at a time processes a room, and it alone changes the room's players. Any other
thread can add a task to `room_tasks_`, under `room_mutex_`. What the two sides share is
`room_state_`, the queue and its counter; here every access to them is a step of its own.
-/

namespace ProjectTetris

open Transition

/-- `AddRoomTask`, of which one at a time holds `room_mutex_`. -/
inductive Adder where
  | idle
  /-- The room was in `WAIT` or `PLAY`. -/
  | checked (task : RoomTask)
  /-- `Enqueue` has counted the task, and has yet to push it. -/
  | counted (task : RoomTask)

/-- `ProcessRoomTick` processes the room's tasks twice. -/
inductive TaskPass where
  | first | second
  deriving DecidableEq

/-- A write to `room_state_`; `BeginRoomDelete` writes under `room_mutex_`. -/
structure StateStore where
  state : RoomState
  locked : Bool
  deriving DecidableEq

/-- Where the room's thread is in `ProcessRoomTick`. -/
inductive RoomPc where
  | idle
  /-- `ProcessRoomTasks` begins, with the deferred task. -/
  | deferred (pass : TaskPass)
  | claim (pass : TaskPass)
  /-- So many claimed tasks are still to be dequeued. -/
  | claimed (pass : TaskPass) (taskCount : Nat)
  | restore (pass : TaskPass) (taskCount : Nat)
  | tryPost (pass : TaskPass)
  /-- `DELETE_POST` is stored. -/
  | post (pass : TaskPass)
  | sessionTasks
  | gameTick
  /-- These writes to `room_state_` are left of what has been processed. -/
  | store (stores : List StateStore) (next : RoomPc)
  deriving DecidableEq

/-- What follows a `ProcessRoomTasks`. -/
def TaskPass.after : TaskPass → RoomPc
  | first => .sessionTasks
  | second => .gameTick

structure RoomThread where
  /-- What the room's own thread has made of the room. -/
  room : TetrisRoom
  /-- `room_state_`, as the other threads see it. -/
  roomState : RoomState
  /-- `room_tasks_` and its `task_count_`. -/
  roomTasks : List RoomTask
  taskCount : Nat
  pendingRoomTask : Option RoomTask
  adder : Adder
  pc : RoomPc
  /-- The `DELETE_ROOM` tasks enqueued. -/
  lifecycleTasks : Nat
  /-- The tasks `AddRoomTask` has returned `true` for. -/
  accepted : List RoomTask

namespace TetrisRoom

/--
The writes to `room_state_` that turn `r` into `r'`. The last player of a room for
several players is its host: `CompletePlayerRemoval` and `FindNewHost` both begin the
deletion. A room for one player is cleared first.
-/
def stateStores (r r' : TetrisRoom) : List StateStore :=
  if r'.roomState = r.roomState then []
  else if r'.roomState = .waitingDelete then
    if r.kind = .single then [⟨.empty, false⟩, ⟨.waitingDelete, true⟩]
    else [⟨.waitingDelete, true⟩, ⟨.waitingDelete, true⟩]
  else [⟨r'.roomState, false⟩]

end TetrisRoom

namespace RoomThread

/-- The room has processed something: it is `r'`, once `room_state_` says so too. -/
def processed (s : RoomThread) (r' : TetrisRoom) (next : RoomPc) : RoomThread :=
  { s with room := r', pc := .store (s.room.stateStores r') next }

/-- One step of one of the threads. -/
inductive Next : RoomThread → RoomThread → Prop
  -- `AddRoomTask`; where the room is in another state, it changes nothing
  | addCheck (s : RoomThread) (task : RoomTask) (hfree : s.adder = .idle)
      (hstate : s.roomState = .wait ∨ s.roomState = .play) :
      Next s { s with adder := .checked task }
  | addCount (s : RoomThread) {task : RoomTask} (h : s.adder = .checked task) :
      Next s { s with taskCount := s.taskCount + 1, adder := .counted task }
  | addPush (s : RoomThread) {task : RoomTask} (h : s.adder = .counted task) :
      Next s { s with
        roomTasks := s.roomTasks ++ [task], adder := .idle, accepted := s.accepted ++ [task] }
  -- `ProcessRoomTasks`
  | beginTick (s : RoomThread) (h : s.pc = .idle) : Next s { s with pc := .deferred .first }
  | noneDeferred (s : RoomThread) {pass : TaskPass} (h : s.pc = .deferred pass)
      (hnone : s.pendingRoomTask = none) : Next s { s with pc := .claim pass }
  | deferredDone (s : RoomThread) {pass : TaskPass} {task : RoomTask} {r' : TetrisRoom}
      (h : s.pc = .deferred pass) (hsome : s.pendingRoomTask = some task) (env : RoomEnv)
      (hserves : env.Serves s.room (.task task))
      (htry : { s.room with out := [] }.tryProcessRoomTask env task = some (r', true)) :
      Next s ({ s with pendingRoomTask := none }.processed r' (.claim pass))
  | deferredAgain (s : RoomThread) {pass : TaskPass} {task : RoomTask} {r' : TetrisRoom}
      (h : s.pc = .deferred pass) (hsome : s.pendingRoomTask = some task) (env : RoomEnv)
      (hserves : env.Serves s.room (.task task))
      (htry : { s.room with out := [] }.tryProcessRoomTask env task = some (r', false)) :
      Next s (s.processed r' pass.after)
  | claim (s : RoomThread) {pass : TaskPass} (h : s.pc = .claim pass) :
      Next s { s with taskCount := 0, pc := .claimed pass s.taskCount }
  | taskDone (s : RoomThread) {pass : TaskPass} {n : Nat} {task : RoomTask} {rest : List RoomTask}
      {r' : TetrisRoom} (h : s.pc = .claimed pass (n + 1)) (htask : s.roomTasks = task :: rest)
      (env : RoomEnv) (hserves : env.Serves s.room (.task task))
      (htry : { s.room with out := [] }.tryProcessRoomTask env task = some (r', true)) :
      Next s ({ s with roomTasks := rest }.processed r' (.claimed pass n))
  | taskDeferred (s : RoomThread) {pass : TaskPass} {n : Nat} {task : RoomTask}
      {rest : List RoomTask}
      {r' : TetrisRoom} (h : s.pc = .claimed pass (n + 1)) (htask : s.roomTasks = task :: rest)
      (env : RoomEnv) (hserves : env.Serves s.room (.task task))
      (htry : { s.room with out := [] }.tryProcessRoomTask env task = some (r', false)) :
      Next s ({ s with roomTasks := rest, pendingRoomTask := some task }.processed r'
        (.restore pass n))
  | restore (s : RoomThread) {pass : TaskPass} {n : Nat} (h : s.pc = .restore pass n) :
      Next s { s with taskCount := s.taskCount + n, pc := pass.after }
  | claimsDone (s : RoomThread) {pass : TaskPass} (h : s.pc = .claimed pass 0) :
      Next s { s with pc := .tryPost pass }
  -- `TryPostRoomDelete`
  | notPosted (s : RoomThread) {pass : TaskPass} (h : s.pc = .tryPost pass)
      (hfree : s.adder = .idle)
      (hnot : s.roomState ≠ .waitingDelete ∨ s.taskCount ≠ 0) : Next s { s with pc := pass.after }
  | posted (s : RoomThread) {pass : TaskPass} (h : s.pc = .tryPost pass) (hfree : s.adder = .idle)
      (hstate : s.roomState = .waitingDelete) (hcount : s.taskCount = 0) :
      Next s { s with
        room := s.room.storeRoomState .deletePost, roomState := .deletePost, pc := .post pass }
  | post (s : RoomThread) {pass : TaskPass} (h : s.pc = .post pass) :
      Next s { s with lifecycleTasks := s.lifecycleTasks + 1, pc := pass.after }
  -- `ProcessSessionTasks`, packet by packet, and the tick of the game
  | sessionTask (s : RoomThread) {e : RoomEvent} {r' : TetrisRoom} (h : s.pc = .sessionTasks)
      (he : (∃ key, e = .leavePacket key) ∨ ∃ input, e = .input input) (env : RoomEnv)
      (hserves : env.Serves s.room e) (hstep : s.room.step env e = some r') :
      Next s (s.processed r' .sessionTasks)
  | sessionsDone (s : RoomThread) (h : s.pc = .sessionTasks) :
      Next s { s with pc := .deferred .second }
  | gameTick (s : RoomThread) {r' : TetrisRoom} (h : s.pc = .gameTick) (env : RoomEnv)
      (tickTimeMs : Int)
      (hserves : env.Serves s.room (.tick tickTimeMs))
      (hstep : s.room.step env (.tick tickTimeMs) = some r') :
      Next s (s.processed r' .idle)
  | store (s : RoomThread) {w : StateStore} {stores : List StateStore} {next : RoomPc}
      (h : s.pc = .store (w :: stores) next) (hlock : w.locked = true → s.adder = .idle) :
      Next s { s with roomState := w.state, pc := .store stores next }
  | stored (s : RoomThread) {next : RoomPc} (h : s.pc = .store [] next) :
      Next s { s with pc := next }

/-- A room that has just been created, with nothing to do. -/
def Initial (s : RoomThread) : Prop :=
  ∃ r, TetrisRoom.Created r ∧ s = ⟨r, r.roomState, [], 0, none, .idle, .idle, 0, []⟩

def system : System RoomThread := ⟨Initial, Next⟩

end RoomThread

end ProjectTetris

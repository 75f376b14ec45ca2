import Mathlib.Logic.Function.Basic
import ProjectTetris.Lib.Transition
import ProjectTetris.Rooms.Player

/-!
# A database thread and its queue

`DBThread`: any number of threads enqueue tasks, one thread takes them out and executes
them, and `Close` stops it. The queue is filled under `wait_mutex_` and emptied without it.
A task whose statement throws goes back into the queue, behind those that came meanwhile.

A step is one access to what the threads share. `accepted`, `fates` and `retried` are not
of the source: they say what has happened.
-/

namespace ProjectTetris

open Transition

/-- `DBOperationType`, as far as there are tasks of it. -/
inductive DBTaskType where
  | login | loadRankings | updateScore | updateMatchResult
  | addFriend | deleteFriend | addFriendRequest | loadFriendList
  deriving DecidableEq, Repr

inductive DBTaskTarget where
  | server
  | session (key : SessionKey)
  | multiSession (playerKeys : List SessionKey)
  deriving DecidableEq, Repr

structure DBTask where
  operationType : DBTaskType
  target : DBTaskTarget
  deriving DecidableEq, Repr

/-- A completion posted to the completion port: whom it is for, and what it answers. -/
structure DBCompletion where
  /-- `none` for `DB_SERVER_COMPLETION`. -/
  sessionKey : Option SessionKey
  operationType : DBTaskType
  deriving DecidableEq, Repr

/-- What a task is answered with, by its own `Execute` function and by `PostDBFailure` alike. -/
def DBTask.completions (task : DBTask) : List DBCompletion :=
  match task.target with
  | .server => [⟨none, task.operationType⟩]
  | .session key => [⟨some key, task.operationType⟩]
  | .multiSession playerKeys => playerKeys.map fun key => ⟨some key, task.operationType⟩

/-- What has become of a task. -/
inductive DBTaskFate where
  | completed
  /-- `PostDBFailure`. -/
  | failed
  /-- Destroyed unanswered: the thread has been closed. -/
  | discarded
  deriving DecidableEq, Repr

/-- Where `Enqueue` is; `TryEnqueue` is all of it but the first. -/
inductive EnqueueStep where
  | whileRunning
  | lock
  -- `wait_mutex_` is held from here
  | checkRunning
  | push
  | unlockRefused
  | unlockPushed
  -- to here
  | notify
  deriving DecidableEq

inductive CloseStep where
  | lock
  -- `wait_mutex_` is held from here
  | store
  | unlock
  -- to here
  | notify
  deriving DecidableEq

/-- Where a thread is that uses the queue from outside; each is about to take the step it names. -/
inductive DBCallStep where
  | idle
  | enqueue (task : DBTask) (step : EnqueueStep)
  | close (step : CloseStep)

/-- How `Run` goes on when it has let go of the mutex. -/
inductive DBRunNext where
  | loop
  | process (task : DBTask)
  | discard

/-- Where `Run` is. -/
inductive DBRunStep where
  | connect
  -- the connection has failed
  | failLock
  | failStore
  | failUnlock
  | failPop
  -- the loop
  | whileRunning
  | tryPop
  | lock
  -- the condition of `cv_.wait`
  | waitEmpty
  | waitRunning
  /-- The condition does not hold. -/
  | sleep
  /-- In `cv_.wait`, without the mutex. -/
  | asleep
  | relock
  | checkRunning
  | tryPopAgain
  | unlock (next : DBRunNext)
  | process (task : DBTask)
  /-- The statement has thrown: the loop around `TryEnqueue`. -/
  | retry (task : DBTask) (step : EnqueueStep)
  /-- So many completions are yet to be posted. -/
  | post (task : DBTask) (fate : DBTaskFate) (rest : List DBCompletion) (next : DBRunStep)
  -- the loop has ended
  | discard
  | stopped

structure DBThread where
  isRunning : Bool := true
  taskQueue : List DBTask := []
  /-- `wait_mutex_`, with the thread that holds it: `Run`, or a caller. -/
  waitMutex : Option (Option Nat) := none
  run : DBRunStep := .connect
  callers : Nat → DBCallStep := fun _ => .idle
  posted : List DBCompletion := []
  /-- Every task that `Enqueue` has taken, in order. -/
  accepted : List DBTask := []
  fates : List (DBTask × DBTaskFate) := []
  /-- Some statement has thrown and its task has gone back into the queue. -/
  retried : Bool := false

namespace DBThread

/-- Who enqueues: `Run`, which tries again, or a caller. -/
abbrev Who := Option Nat

/-- The thread is in `Enqueue`, or in the loop that is like it, with this task. -/
def Enqueuing (s : DBThread) (task : DBTask) (step : EnqueueStep) : Who → Prop
  | none => s.run = .retry task step
  | some t => s.callers t = .enqueue task step

def setRun (s : DBThread) (step : DBRunStep) : DBThread := { s with run := step }

def setCaller (s : DBThread) (t : Nat) (step : DBCallStep) : DBThread :=
  { s with callers := Function.update s.callers t step }

def setEnqueue (s : DBThread) (task : DBTask) (step : EnqueueStep) : Who → DBThread
  | none => s.setRun (.retry task step)
  | some t => s.setCaller t (.enqueue task step)

/-- The call is over. -/
def setDone (s : DBThread) : Who → DBThread
  | none => s.setRun .whileRunning
  | some t => s.setCaller t .idle

def setMutex (s : DBThread) (waitMutex : Option Who) : DBThread := { s with waitMutex }

/-- `cv_.notify_one()`: only `Run` waits. -/
def notify (s : DBThread) : DBThread :=
  match s.run with
  | .asleep => s.setRun .relock
  | _ => s

/-- `push`, by whoever enqueues. -/
def push (s : DBThread) (task : DBTask) : Who → DBThread
  | none => { s with taskQueue := s.taskQueue ++ [task], retried := true }
  | some _ => { s with taskQueue := s.taskQueue ++ [task], accepted := s.accepted ++ [task] }

def finish (s : DBThread) (task : DBTask) (fate : DBTaskFate) : DBThread :=
  { s with fates := s.fates ++ [(task, fate)] }

inductive Next : DBThread → DBThread → Prop
  -- `Enqueue`
  | begin (s : DBThread) {t : Nat} (task : DBTask) (h : s.callers t = .idle) :
      Next s (s.setCaller t (.enqueue task .whileRunning))
  | running (s : DBThread) {who : Who} {task : DBTask} (h : s.Enqueuing task .whileRunning who)
      (hrunning : s.isRunning = true) : Next s (s.setEnqueue task .lock who)
  | refused (s : DBThread) {t : Nat} {task : DBTask}
      (h : s.callers t = .enqueue task .whileRunning)
      (hstopped : s.isRunning = false) : Next s (s.setCaller t .idle)
  /-- The task that has thrown is given up. -/
  | givenUp (s : DBThread) {task : DBTask} (h : s.run = .retry task .whileRunning)
      (hstopped : s.isRunning = false) :
      Next s ((s.finish task .discarded).setRun .whileRunning)
  -- `TryEnqueue`
  | locked (s : DBThread) {who : Who} {task : DBTask} (h : s.Enqueuing task .lock who)
      (hfree : s.waitMutex = none) :
      Next s ((s.setMutex (some who)).setEnqueue task .checkRunning who)
  | checked (s : DBThread) {who : Who} {task : DBTask} (h : s.Enqueuing task .checkRunning who)
      (hrunning : s.isRunning = true) : Next s (s.setEnqueue task .push who)
  | notRunning (s : DBThread) {who : Who} {task : DBTask} (h : s.Enqueuing task .checkRunning who)
      (hstopped : s.isRunning = false) : Next s (s.setEnqueue task .unlockRefused who)
  | pushed (s : DBThread) {who : Who} {task : DBTask} (h : s.Enqueuing task .push who) :
      Next s ((s.push task who).setEnqueue task .unlockPushed who)
  /-- `push` has thrown. -/
  | pushThrew (s : DBThread) {who : Who} {task : DBTask} (h : s.Enqueuing task .push who) :
      Next s (s.setEnqueue task .unlockRefused who)
  | unlockedRefused (s : DBThread) {who : Who} {task : DBTask}
      (h : s.Enqueuing task .unlockRefused who) :
      Next s ((s.setMutex none).setEnqueue task .whileRunning who)
  | unlockedPushed (s : DBThread) {who : Who} {task : DBTask}
      (h : s.Enqueuing task .unlockPushed who) :
      Next s ((s.setMutex none).setEnqueue task .notify who)
  | notified (s : DBThread) {who : Who} {task : DBTask} (h : s.Enqueuing task .notify who) :
      Next s (s.notify.setDone who)
  -- `Close` and `Wake`
  | closeBegin (s : DBThread) {t : Nat} (h : s.callers t = .idle) :
      Next s (s.setCaller t (.close .lock))
  | closeLocked (s : DBThread) {t : Nat} (h : s.callers t = .close .lock)
      (hfree : s.waitMutex = none) :
      Next s ((s.setMutex (some (some t))).setCaller t (.close .store))
  | closeStored (s : DBThread) {t : Nat} (h : s.callers t = .close .store) :
      Next s ({ s with isRunning := false }.setCaller t (.close .unlock))
  | closeUnlocked (s : DBThread) {t : Nat} (h : s.callers t = .close .unlock) :
      Next s ((s.setMutex none).setCaller t (.close .notify))
  | closeNotified (s : DBThread) {t : Nat} (h : s.callers t = .close .notify) :
      Next s (s.notify.setCaller t .idle)
  | wake (s : DBThread) {t : Nat} (h : s.callers t = .idle) : Next s s.notify
  -- `Run`, without a connection
  | connectFailed (s : DBThread) (h : s.run = .connect) : Next s (s.setRun .failLock)
  | failLocked (s : DBThread) (h : s.run = .failLock) (hfree : s.waitMutex = none) :
      Next s ((s.setMutex (some none)).setRun .failStore)
  | failStored (s : DBThread) (h : s.run = .failStore) :
      Next s ({ s with isRunning := false }.setRun .failUnlock)
  | failUnlocked (s : DBThread) (h : s.run = .failUnlock) :
      Next s ((s.setMutex none).setRun .failPop)
  | failPopped (s : DBThread) {task : DBTask} {rest : List DBTask} (h : s.run = .failPop)
      (hpop : s.taskQueue = task :: rest) :
      Next s ({ s with taskQueue := rest }.setRun (.post task .failed task.completions .failPop))
  | failEmpty (s : DBThread) (h : s.run = .failPop) (hempty : s.taskQueue = []) :
      Next s (s.setRun .stopped)
  -- `Run`, the loop
  | connected (s : DBThread) (h : s.run = .connect) : Next s (s.setRun .whileRunning)
  | goesOn (s : DBThread) (h : s.run = .whileRunning) (hrunning : s.isRunning = true) :
      Next s (s.setRun .tryPop)
  | loopEnds (s : DBThread) (h : s.run = .whileRunning) (hstopped : s.isRunning = false) :
      Next s (s.setRun .discard)
  | popped (s : DBThread) {task : DBTask} {rest : List DBTask} (h : s.run = .tryPop)
      (hpop : s.taskQueue = task :: rest) :
      Next s ({ s with taskQueue := rest }.setRun (.process task))
  | empty (s : DBThread) (h : s.run = .tryPop) (hempty : s.taskQueue = []) :
      Next s (s.setRun .lock)
  | runLocked (s : DBThread) (h : s.run = .lock ∨ s.run = .relock) (hfree : s.waitMutex = none) :
      Next s ((s.setMutex (some none)).setRun .waitEmpty)
  | waitedTask (s : DBThread) (h : s.run = .waitEmpty) (hready : s.taskQueue ≠ []) :
      Next s (s.setRun .checkRunning)
  | waitsEmpty (s : DBThread) (h : s.run = .waitEmpty) (hempty : s.taskQueue = []) :
      Next s (s.setRun .waitRunning)
  | waitedClose (s : DBThread) (h : s.run = .waitRunning) (hstopped : s.isRunning = false) :
      Next s (s.setRun .checkRunning)
  | waitsRunning (s : DBThread) (h : s.run = .waitRunning) (hrunning : s.isRunning = true) :
      Next s (s.setRun .sleep)
  | sleeps (s : DBThread) (h : s.run = .sleep) : Next s ((s.setMutex none).setRun .asleep)
  | spurious (s : DBThread) (h : s.run = .asleep) : Next s (s.setRun .relock)
  | closed (s : DBThread) (h : s.run = .checkRunning) (hstopped : s.isRunning = false) :
      Next s (s.setRun (.unlock .discard))
  | notClosed (s : DBThread) (h : s.run = .checkRunning) (hrunning : s.isRunning = true) :
      Next s (s.setRun .tryPopAgain)
  | poppedAgain (s : DBThread) {task : DBTask} {rest : List DBTask} (h : s.run = .tryPopAgain)
      (hpop : s.taskQueue = task :: rest) :
      Next s ({ s with taskQueue := rest }.setRun (.unlock (.process task)))
  | emptyAgain (s : DBThread) (h : s.run = .tryPopAgain) (hempty : s.taskQueue = []) :
      Next s (s.setRun (.unlock .loop))
  | unlockedLoop (s : DBThread) (h : s.run = .unlock .loop) :
      Next s ((s.setMutex none).setRun .whileRunning)
  | unlockedProcess (s : DBThread) {task : DBTask} (h : s.run = .unlock (.process task)) :
      Next s ((s.setMutex none).setRun (.process task))
  | unlockedDiscard (s : DBThread) (h : s.run = .unlock .discard) :
      Next s ((s.setMutex none).setRun .discard)
  -- `ProcessTask`
  | executed (s : DBThread) {task : DBTask} (h : s.run = .process task) :
      Next s (s.setRun (.post task .completed task.completions .whileRunning))
  | sqlException (s : DBThread) {task : DBTask} (h : s.run = .process task) :
      Next s (s.setRun (.retry task .whileRunning))
  | exception (s : DBThread) {task : DBTask} (h : s.run = .process task) :
      Next s (s.setRun (.post task .failed task.completions .whileRunning))
  | posts (s : DBThread) {task : DBTask} {fate : DBTaskFate} {completion : DBCompletion}
      {rest : List DBCompletion}
      {next : DBRunStep} (h : s.run = .post task fate (completion :: rest) next) :
      Next s ({ s with posted := s.posted ++ [completion] }.setRun (.post task fate rest next))
  | answered (s : DBThread) {task : DBTask} {fate : DBTaskFate} {next : DBRunStep}
      (h : s.run = .post task fate [] next) : Next s ((s.finish task fate).setRun next)
  -- after the loop
  | discarded (s : DBThread) {task : DBTask} {rest : List DBTask} (h : s.run = .discard)
      (hpop : s.taskQueue = task :: rest) :
      Next s ({ s with taskQueue := rest }.finish task .discarded)
  | disconnected (s : DBThread) (h : s.run = .discard) (hempty : s.taskQueue = []) :
      Next s (s.setRun .stopped)

/-- After `Init` and `Start`. -/
def start : DBThread := {}

def system : System DBThread := ⟨fun s => s = start, Next⟩

/-! ## What each leaves alone -/

section Fields

variable (s : DBThread) (task : DBTask) (step : EnqueueStep) (who : Who)

theorem notify_eq : s.notify = s ∨ s.run = .asleep ∧ s.notify = s.setRun .relock := by
  unfold notify
  split
  next hasleep => exact .inr ⟨hasleep, rfl⟩
  next => exact .inl rfl

@[simp] theorem notify_isRunning : s.notify.isRunning = s.isRunning := by
  unfold notify
  split <;> rfl

@[simp] theorem notify_taskQueue : s.notify.taskQueue = s.taskQueue := by
  unfold notify
  split <;> rfl

@[simp] theorem notify_waitMutex : s.notify.waitMutex = s.waitMutex := by
  unfold notify
  split <;> rfl

@[simp] theorem notify_callers : s.notify.callers = s.callers := by
  unfold notify
  split <;> rfl

@[simp] theorem notify_posted : s.notify.posted = s.posted := by
  unfold notify
  split <;> rfl

@[simp] theorem notify_fates : s.notify.fates = s.fates := by
  unfold notify
  split <;> rfl

@[simp] theorem setEnqueue_isRunning : (s.setEnqueue task step who).isRunning = s.isRunning := by
  cases who <;> rfl

@[simp] theorem setEnqueue_taskQueue : (s.setEnqueue task step who).taskQueue = s.taskQueue := by
  cases who <;> rfl

@[simp] theorem setEnqueue_waitMutex : (s.setEnqueue task step who).waitMutex = s.waitMutex := by
  cases who <;> rfl

@[simp] theorem setEnqueue_posted : (s.setEnqueue task step who).posted = s.posted := by
  cases who <;> rfl

@[simp] theorem setEnqueue_fates : (s.setEnqueue task step who).fates = s.fates := by
  cases who <;> rfl

@[simp] theorem setDone_isRunning : (s.setDone who).isRunning = s.isRunning := by
  cases who <;> rfl

@[simp] theorem setDone_taskQueue : (s.setDone who).taskQueue = s.taskQueue := by
  cases who <;> rfl

@[simp] theorem setDone_waitMutex : (s.setDone who).waitMutex = s.waitMutex := by
  cases who <;> rfl

@[simp] theorem setDone_posted : (s.setDone who).posted = s.posted := by
  cases who <;> rfl

@[simp] theorem setDone_fates : (s.setDone who).fates = s.fates := by
  cases who <;> rfl

@[simp] theorem push_taskQueue : (s.push task who).taskQueue = s.taskQueue ++ [task] := by
  cases who <;> rfl

@[simp] theorem push_isRunning : (s.push task who).isRunning = s.isRunning := by
  cases who <;> rfl

@[simp] theorem push_waitMutex : (s.push task who).waitMutex = s.waitMutex := by
  cases who <;> rfl

@[simp] theorem push_run : (s.push task who).run = s.run := by
  cases who <;> rfl

@[simp] theorem push_callers : (s.push task who).callers = s.callers := by
  cases who <;> rfl

@[simp] theorem push_posted : (s.push task who).posted = s.posted := by
  cases who <;> rfl

@[simp] theorem push_fates : (s.push task who).fates = s.fates := by
  cases who <;> rfl

end Fields

end DBThread

end ProjectTetris

import Mathlib.Data.Fintype.Card
import ProjectTetris.Lib.Transition
import ProjectTetris.Threads.ConcurrentTaskQueue

/-!
# Lobby phases

`StartLobbyPhase` starts a phase on all lobby threads at once, when all of them are
available. They process the lifecycle tasks that were counted, wait for each other and then
share out the active sessions. Between two phases they sleep in `WaitLobbyPhase`.

A step is one access to what the threads share. What a session's turn does to the session,
and what a lifecycle task does, is left open; either may enqueue lifecycle tasks.
-/

namespace ProjectTetris

open Transition

inductive LobbyThreadState where
  | available | processing
  deriving DecidableEq

inductive LobbyPhase where
  | none | sessionProcess
  deriving DecidableEq

/-- `LobbyPhaseContext`, of as many threads as there are. -/
structure LobbyPhaseContext (n : Nat) where
  nextLifecycleTaskIndex : Nat := 0
  completedLifecycleThreadCount : Nat := 0
  nextActiveSessionIndex : Nat := 0
  lifecycleTaskCount : Nat := 0
  /-- The threads that have counted themselves as completed. -/
  arrived : Finset (Fin n) := ∅
  /-- The indices whose task has been processed. -/
  processed : List Nat := []
  /-- The indices with which `GetActiveSession` has been called. -/
  visited : List Nat := []

/-- Where `LobbyThread::Run` is; each is about to take the step it names. -/
inductive LobbyStep (Task : Type) where
  | whileRunning
  -- `WaitLobbyPhase`
  | lock
  | waitCheck
  /-- The condition does not hold. -/
  | sleep
  /-- In `lobby_cv_.wait`, without the mutex. -/
  | asleep
  | relock
  | unlock
  | checkRunning
  -- the phase
  | readContext
  | fetch (p : Nat)
  | dequeue (p index : Nat)
  /-- `position`: how many tasks had been taken from the queue before this one. -/
  | process (p index position : Nat) (task : Task)
  | arrive (p : Nat)
  | await (p : Nat)
  | whileSessions (p : Nat)
  | session (p index : Nat)
  | resetContext
  | storeNone
  | storeAvailable
  | stopped
  /-- The context that was read is null. -/
  | crashed

structure LobbyThread (Task : Type) where
  isRunning : Bool := true
  state : LobbyThreadState := .available
  phase : LobbyPhase := .none
  phaseContext : Option Nat := none
  step : LobbyStep Task := .whileRunning

/-- What a `notify_all` does to the thread. -/
def LobbyThread.wake {Task : Type} (thread : LobbyThread Task) : LobbyThread Task :=
  match thread.step with
  | .asleep => { thread with step := .relock }
  | _ => thread

/-- Where `StartLobbyPhase` is, with the thread it has come to and the context it hands out. -/
inductive StarterStep where
  | idle
  | checkAvailable (i : Nat)
  | claim
  | lock (p : Nat)
  | setState (i p : Nat)
  | setContext (i p : Nat)
  | setPhase (i p : Nat)
  | notify

structure LobbyPhases (n : Nat) (Task : Type) where
  serverIsRunning : Bool := true
  threads : Fin n → LobbyThread Task := fun _ => {}
  contexts : Nat → LobbyPhaseContext n := fun _ => {}
  contextCount : Nat := 0
  starter : StarterStep := .idle
  /-- `lobby_mutex_`, with the thread that holds it; `some none` is `StartLobbyPhase`. -/
  lobbyMutex : Option (Option (Fin n)) := none
  /-- The calls of `Close` that have cleared a flag and have yet to notify. -/
  closing : Nat → Option (Fin n) := fun _ => none
  lifecycleTasks : ConcurrentTaskQueue Task := ⟨[], 0⟩
  /-- The tasks that are counted and not pushed. -/
  enqueuing : List Task := []
  /-- The tasks that have been pushed, and how many of them have been taken. -/
  accepted : List Task := []
  taken : Nat := 0
  /-- The tasks that have been processed, by their positions in `accepted`. -/
  processed : List Nat := []

namespace LobbyPhases

variable {n : Nat} {Task : Type}

def setThread (s : LobbyPhases n Task) (t : Fin n) (thread : LobbyThread Task) :
    LobbyPhases n Task :=
  { s with threads := Function.update s.threads t thread }

def goTo (s : LobbyPhases n Task) (t : Fin n) (step : LobbyStep Task) : LobbyPhases n Task :=
  s.setThread t { s.threads t with step }

def setContext (s : LobbyPhases n Task) (p : Nat) (c : LobbyPhaseContext n) : LobbyPhases n Task :=
  { s with contexts := Function.update s.contexts p c }

def setMutex (s : LobbyPhases n Task) (lobbyMutex : Option (Option (Fin n))) :
    LobbyPhases n Task :=
  { s with lobbyMutex }

def setStarter (s : LobbyPhases n Task) (starter : StarterStep) : LobbyPhases n Task :=
  { s with starter }

/-- `lobby_cv_.notify_all()`. -/
def notifyAll (s : LobbyPhases n Task) : LobbyPhases n Task :=
  { s with threads := fun t => (s.threads t).wake }

/-- `is_running_.load() && tetris_server_.IsRunning()`. -/
def Runs (s : LobbyPhases n Task) (t : Fin n) : Prop :=
  (s.threads t).isRunning = true ∧ s.serverIsRunning = true

/-- What `WaitLobbyPhase` waits for. -/
def Awaited (s : LobbyPhases n Task) (t : Fin n) : Prop := ¬ s.Runs t ∨ (s.threads t).phase ≠ .none

inductive Next : LobbyPhases n Task → LobbyPhases n Task → Prop
  -- `StartLobbyPhase`
  | startBegins (s) (h : s.starter = .idle) (hrunning : s.serverIsRunning = true) :
      Next s (s.setStarter (.checkAvailable 0))
  | seesProcessing (s) {i : Fin n} (h : s.starter = .checkAvailable i)
      (hstate : (s.threads i).state = .processing) :
      Next s (s.setStarter .idle)
  | seesAvailable (s) {i : Fin n} (h : s.starter = .checkAvailable i)
      (hstate : (s.threads i).state = .available) :
      Next s (s.setStarter (.checkAvailable (i + 1)))
  | allAvailable (s) (h : s.starter = .checkAvailable n) : Next s (s.setStarter .claim)
  | claims (s) (h : s.starter = .claim) :
      Next s ({ s with
        lifecycleTasks := s.lifecycleTasks.claimTaskCount
        contextCount := s.contextCount + 1
        starter := .lock s.contextCount }.setContext s.contextCount
        { lifecycleTaskCount := s.lifecycleTasks.taskCount })
  | startLocks (s) {p : Nat} (h : s.starter = .lock p) (hfree : s.lobbyMutex = none) :
      Next s ((s.setMutex (some none)).setStarter (.setState 0 p))
  | setsState (s) {i : Fin n} {p : Nat} (h : s.starter = .setState i p) :
      Next s ((s.setThread i { s.threads i with state := .processing }).setStarter
        (.setContext i p))
  | setsContext (s) {i : Fin n} {p : Nat} (h : s.starter = .setContext i p) :
      Next s ((s.setThread i { s.threads i with phaseContext := some p }).setStarter
        (.setPhase i p))
  | setsPhase (s) {i : Fin n} {p : Nat} (h : s.starter = .setPhase i p) :
      Next s ((s.setThread i { s.threads i with phase := .sessionProcess }).setStarter
        (.setState (i + 1) p))
  | startUnlocks (s) {p : Nat} (h : s.starter = .setState n p) :
      Next s ((s.setMutex none).setStarter .notify)
  | startNotifies (s) (h : s.starter = .notify) : Next s (s.notifyAll.setStarter .idle)
  -- `Run` and `WaitLobbyPhase`
  | goesOn (s) {t : Fin n} (h : (s.threads t).step = .whileRunning) (hruns : s.Runs t) :
      Next s (s.goTo t .lock)
  | leaves (s) {t : Fin n} (h : (s.threads t).step = .whileRunning) (hruns : ¬ s.Runs t) :
      Next s (s.goTo t .stopped)
  | locks (s) {t : Fin n} (h : (s.threads t).step = .lock ∨ (s.threads t).step = .relock)
      (hfree : s.lobbyMutex = none) :
      Next s ((s.setMutex (some (some t))).goTo t .waitCheck)
  | waited (s) {t : Fin n} (h : (s.threads t).step = .waitCheck) (hawaited : s.Awaited t) :
      Next s (s.goTo t .unlock)
  | waits (s) {t : Fin n} (h : (s.threads t).step = .waitCheck) (hawaited : ¬ s.Awaited t) :
      Next s (s.goTo t .sleep)
  | sleeps (s) {t : Fin n} (h : (s.threads t).step = .sleep) :
      Next s ((s.setMutex none).goTo t .asleep)
  | spurious (s) {t : Fin n} (h : (s.threads t).step = .asleep) : Next s (s.goTo t .relock)
  | unlocks (s) {t : Fin n} (h : (s.threads t).step = .unlock) :
      Next s ((s.setMutex none).goTo t .checkRunning)
  | enters (s) {t : Fin n} (h : (s.threads t).step = .checkRunning) (hruns : s.Runs t) :
      Next s (s.goTo t .readContext)
  | breaks (s) {t : Fin n} (h : (s.threads t).step = .checkRunning) (hruns : ¬ s.Runs t) :
      Next s (s.goTo t .stopped)
  -- the phase
  | readsContext (s) {t : Fin n} {p : Nat} (h : (s.threads t).step = .readContext)
      (hcontext : (s.threads t).phaseContext = some p) : Next s (s.goTo t (.fetch p))
  | crashes (s) {t : Fin n} (h : (s.threads t).step = .readContext)
      (hcontext : (s.threads t).phaseContext = none) :
      Next s (s.goTo t .crashed)
  | fetches (s) {t : Fin n} {p : Nat} (h : (s.threads t).step = .fetch p)
      (hlt : (s.contexts p).nextLifecycleTaskIndex < (s.contexts p).lifecycleTaskCount) :
      Next s ((s.setContext p { s.contexts p with
        nextLifecycleTaskIndex := (s.contexts p).nextLifecycleTaskIndex + 1 }).goTo t
        (.dequeue p (s.contexts p).nextLifecycleTaskIndex))
  | fetchesNone (s) {t : Fin n} {p : Nat} (h : (s.threads t).step = .fetch p)
      (hge : ¬ (s.contexts p).nextLifecycleTaskIndex < (s.contexts p).lifecycleTaskCount) :
      Next s ((s.setContext p { s.contexts p with
        nextLifecycleTaskIndex := (s.contexts p).nextLifecycleTaskIndex + 1 }).goTo t (.arrive p))
  | dequeues (s) {t : Fin n} {p index : Nat} {task : Task} {rest : ConcurrentTaskQueue Task}
      (h : (s.threads t).step = .dequeue p index)
      (hpop : s.lifecycleTasks.tryPop = some (task, rest)) :
      Next s ({ s with lifecycleTasks := rest, taken := s.taken + 1 }.goTo t
        (.process p index s.taken task))
  | processes (s) {t : Fin n} {p index position : Nat} {task : Task}
      (h : (s.threads t).step = .process p index position task) :
      Next s (({ s with processed := s.processed ++ [position] }.setContext p
        { s.contexts p with processed := (s.contexts p).processed ++ [index] }).goTo t (.fetch p))
  | arrives (s) {t : Fin n} {p : Nat} (h : (s.threads t).step = .arrive p) :
      Next s ((s.setContext p { s.contexts p with
        completedLifecycleThreadCount := (s.contexts p).completedLifecycleThreadCount + 1
        arrived := insert t (s.contexts p).arrived }).goTo t (.await p))
  | awaited (s) {t : Fin n} {p : Nat} (h : (s.threads t).step = .await p)
      (hend : ¬ s.Runs t ∨ ¬ (s.contexts p).completedLifecycleThreadCount < n) :
      Next s (s.goTo t (.whileSessions p))
  | nextSession (s) {t : Fin n} {p : Nat} (h : (s.threads t).step = .whileSessions p)
      (hruns : s.Runs t) :
      Next s ((s.setContext p { s.contexts p with
        nextActiveSessionIndex := (s.contexts p).nextActiveSessionIndex + 1
        visited := (s.contexts p).visited ++ [(s.contexts p).nextActiveSessionIndex] }).goTo t
        (.session p (s.contexts p).nextActiveSessionIndex))
  | sessionsStop (s) {t : Fin n} {p : Nat} (h : (s.threads t).step = .whileSessions p)
      (hruns : ¬ s.Runs t) :
      Next s (s.goTo t .resetContext)
  | sessionDone (s) {t : Fin n} {p index : Nat} (h : (s.threads t).step = .session p index) :
      Next s (s.goTo t (.whileSessions p))
  | noSession (s) {t : Fin n} {p index : Nat} (h : (s.threads t).step = .session p index) :
      Next s (s.goTo t .resetContext)
  | resetsContext (s) {t : Fin n} (h : (s.threads t).step = .resetContext) :
      Next s (s.setThread t { s.threads t with phaseContext := none, step := .storeNone })
  | storesNone (s) {t : Fin n} (h : (s.threads t).step = .storeNone) :
      Next s (s.setThread t { s.threads t with phase := .none, step := .storeAvailable })
  | storesAvailable (s) {t : Fin n} (h : (s.threads t).step = .storeAvailable) :
      Next s (s.setThread t { s.threads t with state := .available, step := .whileRunning })
  -- everybody else
  | stops (s) : Next s { s with serverIsRunning := false }
  /-- `Close`, up to its `notify_all`. -/
  | closes (s) {c : Nat} {t : Fin n} (h : s.closing c = none) (hfree : s.lobbyMutex = none) :
      Next s ({ s with closing := Function.update s.closing c (some t) }.setThread t
        { s.threads t with isRunning := false })
  | closeNotifies (s) {c : Nat} {t : Fin n} (h : s.closing c = some t) :
      Next s { s with closing := Function.update s.closing c none }.notifyAll
  | counts (s) (task : Task) :
      Next s
      { s with lifecycleTasks := s.lifecycleTasks.countTask, enqueuing := s.enqueuing ++ [task] }
  | pushes (s) {i : Nat} {task : Task} (h : s.enqueuing[i]? = some task) :
      Next s { s with
        lifecycleTasks := s.lifecycleTasks.push task
        enqueuing := s.enqueuing.eraseIdx i
        accepted := s.accepted ++ [task] }

/-- After `Start`. -/
def start : LobbyPhases n Task := {}

def system : System (LobbyPhases n Task) := ⟨fun s => s = start, Next⟩

end LobbyPhases

end ProjectTetris

import Mathlib.Data.Finset.Card
import ProjectTetris.Lib.Transition
import ProjectTetris.Threads.ConcurrentTaskQueue

/-!
# Game phases

The timer starts a phase on the game threads that are free, while threads of earlier
phases may still be at work. In its lifecycle stage the threads of a phase process the
tasks that one of them has claimed; then they share out the active rooms. A step is one
access to what the threads share.
-/

namespace ProjectTetris

open Transition

/-- `GamePhaseContext`. -/
structure GamePhaseContext where
  /-- The threads that have the phase; `thread_count` is their number. -/
  threads : Finset Nat
  tickTimeMs : Int
  isLifecyclePreparing : Bool := false
  isLifecycleReady : Bool := false
  isLifecycleComplete : Bool := false
  nextLifecycleTaskIndex : Nat := 0
  completedLifecycleThreadCount : Nat := 0
  nextActiveRoomIndex : Nat := 0
  lifecycleTaskCount : Nat := 0
  /-- The threads that have counted themselves as completed. -/
  arrived : Finset Nat := ∅
  /-- The threads that have a task index and have yet to dequeue. -/
  holders : Finset Nat := ∅

def GamePhaseContext.threadCount (c : GamePhaseContext) : Nat := c.threads.card

/-- Where a thread is in its phase; each is about to take the step it names. -/
inductive PhaseStep (Task Room : Type) where
  | prepare
  /-- The leader, until `is_lifecycle_processing_` is its phase's. -/
  | lead
  | claim
  | publish
  | awaitReady
  | fetch
  | dequeue
  | process (task : Task)
  | arrive
  /-- The last one to arrive. -/
  | finish
  | release
  | awaitComplete
  | nextRoom
  | lookUp (index : Nat)
  | enter (room : Room)
  | tick (room : Room)
  | leave
  deriving DecidableEq

inductive GameThread (Task Room : Type) where
  | available
  | stopped
  | inPhase (phase : Nat) (step : PhaseStep Task Room)
  deriving DecidableEq

structure GamePhases (Task Room : Type) where
  isRunning : Bool := true
  threads : Nat → GameThread Task Room := fun _ => .available
  phases : Nat → GamePhaseContext := fun _ => { threads := ∅, tickTimeMs := 0 }
  phaseCount : Nat := 0
  /-- The phase that `is_lifecycle_processing_` is set for. -/
  processingPhase : Option Nat := none
  lifecycleTasks : ConcurrentTaskQueue Task := ⟨[], 0⟩
  /-- The tasks that are counted and not pushed. -/
  enqueuing : List Task := []
  /-- The rooms `GetActiveRoom` finds, by their index. -/
  activeRooms : List Room := []
  /-- The rooms whose `processing_state_` is `PROCESSING`: a room begins with it, and has it during
  a tick. -/
  processing : Room → Bool := fun _ => true
  /-- The rooms whose initialization has been completed. -/
  initialized : Room → Bool := fun _ => false
  /-- How many tasks are claimed and not dequeued. -/
  claimed : Nat := 0
  /-- The tasks that have been pushed. -/
  accepted : List Task := []
  /-- Which thread, in which phase, has dequeued and processed which task. -/
  dequeued : List (Nat × Nat × Task) := []
  processed : List (Nat × Nat × Task) := []
  /-- In which phase `GetActiveRoom` has given which room to a thread. -/
  found : List (Nat × Room) := []
  /-- In which phase which room was ticked. -/
  ticks : List (Nat × Room) := []

inductive GameAction (Task Room : Type) where
  | startGamePhase (threads : Finset Nat) (tickTimeMs : Int)
  | stop
  | count (task : Task)
  | push (n : Nat)
  | act (thread : Nat)
  /-- A lifecycle task is processed; what it makes of the active rooms is left open, and so is the
  room that it may have created. -/
  | process (thread : Nat) (activeRooms : List Room) (created : Option Room)
  /-- The room of the key that was read has been deleted. -/
  | unresolved (thread : Nat)
  /-- A thread finds that the server, or it, is to stop. -/
  | quit (thread : Nat)

namespace GamePhases

variable {Task Room : Type} [DecidableEq Room]

def setThread (s : GamePhases Task Room) (t : Nat) (thread : GameThread Task Room) :
    GamePhases Task Room :=
  { s with threads := Function.update s.threads t thread }

def setPhase (s : GamePhases Task Room) (p : Nat) (c : GamePhaseContext) : GamePhases Task Room :=
  { s with phases := Function.update s.phases p c }

def goTo (s : GamePhases Task Room) (t p : Nat) (step : PhaseStep Task Room) :
    GamePhases Task Room :=
  s.setThread t (.inPhase p step)

def setProcessing (s : GamePhases Task Room) (room : Room) (isProcessing : Bool) :
    GamePhases Task Room :=
  { s with processing := Function.update s.processing room isProcessing }

/-- The next step of thread `t` in phase `p`; `none` is to wait. -/
def act (s : GamePhases Task Room) (t p : Nat) :
    PhaseStep Task Room → Option (GamePhases Task Room)
  | .prepare =>
      let c := s.phases p
      if c.isLifecyclePreparing then some (s.goTo t p .awaitReady)
      else some ((s.setPhase p { c with isLifecyclePreparing := true }).goTo t p .lead)
  | .lead =>
      match s.processingPhase with
      | none => some ({ s with processingPhase := some p }.goTo t p .claim)
      | some _ => none
  | .claim =>
      let taskCount := s.lifecycleTasks.taskCount
      let c := { s.phases p with lifecycleTaskCount := taskCount }
      let s := { s with
        lifecycleTasks := s.lifecycleTasks.claimTaskCount
        claimed := taskCount }
      some ((s.setPhase p c).goTo t p .publish)
  | .publish =>
      some ((s.setPhase p { s.phases p with isLifecycleReady := true }).goTo t p .awaitReady)
  | .awaitReady => if (s.phases p).isLifecycleReady then some (s.goTo t p .fetch) else none
  | .fetch =>
      let c := s.phases p
      let c' := { c with nextLifecycleTaskIndex := c.nextLifecycleTaskIndex + 1 }
      if c.nextLifecycleTaskIndex < c.lifecycleTaskCount then
        some ((s.setPhase p { c' with holders := insert t c.holders }).goTo t p .dequeue)
      else some ((s.setPhase p c').goTo t p .arrive)
  | .dequeue =>
      match s.lifecycleTasks.tryPop with
      | none => none
      | some (task, rest) =>
          let c := s.phases p
          some (({ s with
            lifecycleTasks := rest
            claimed := s.claimed - 1
            dequeued := s.dequeued ++ [(p, t, task)] }.setPhase p
              { c with holders := c.holders.erase t }).goTo t p
            (.process task))
  | .process _ => none
  | .arrive =>
      let c := s.phases p
      let count := c.completedLifecycleThreadCount + 1
      let c' := { c with completedLifecycleThreadCount := count, arrived := insert t c.arrived }
      some ((s.setPhase p c').goTo t p (if count = c.threadCount then .finish else .awaitComplete))
  | .finish =>
      some ((s.setPhase p { s.phases p with isLifecycleComplete := true }).goTo t p .release)
  | .release => some ({ s with processingPhase := none }.goTo t p .awaitComplete)
  | .awaitComplete =>
      if (s.phases p).isLifecycleComplete then some (s.goTo t p .nextRoom) else none
  | .nextRoom =>
      let c := s.phases p
      some ((s.setPhase p { c with nextActiveRoomIndex := c.nextActiveRoomIndex + 1 }).goTo t p
        (.lookUp c.nextActiveRoomIndex))
  | .lookUp index =>
      match s.activeRooms[index]? with
      | none => some (s.goTo t p .leave)
      | some room => some ({ s with found := s.found ++ [(p, room)] }.goTo t p (.enter room))
  | .enter room =>
      if s.processing room then some (s.goTo t p .nextRoom)
      else some ({ s with ticks := s.ticks ++ [(p, room)] }.setProcessing room true |>.goTo t p
        (.tick room))
  | .tick room => some ((s.setProcessing room false).goTo t p .nextRoom)
  | .leave => some (s.setThread t .available)

/-- What a thread that is to stop does where it looks: the last wait is left for the rooms. -/
def quit (s : GamePhases Task Room) (t : Nat) : Option (GamePhases Task Room) :=
  match s.threads t with
  | .available | .inPhase _ .prepare | .inPhase _ .lead | .inPhase _ .awaitReady =>
      some (s.setThread t .stopped)
  | .inPhase p .awaitComplete => some (s.goTo t p .nextRoom)
  | _ => none

/-- The phase gets threads that are available, half of all at least. -/
def startGamePhase (s : GamePhases Task Room) (threads : Finset Nat) (tickTimeMs : Int) :
    GamePhases Task Room :=
  { s with
    threads := fun t => if t ∈ threads then .inPhase s.phaseCount .prepare else s.threads t
    phases := Function.update s.phases s.phaseCount { threads, tickTimeMs }
    phaseCount := s.phaseCount + 1 }

/-- `CompleteRoomInitialization`, of a new room, if the task has created one. -/
def completeRoomInitialization (s : GamePhases Task Room) : Option Room → GamePhases Task Room
  | none => s
  | some room =>
      if s.initialized room then s
      else
        { s.setProcessing room false with
          initialized := Function.update s.initialized room true }

variable [DecidableEq Task]

def step (threadCount : Nat) (s : GamePhases Task Room) :
    GameAction Task Room → Option (GamePhases Task Room)
  | .startGamePhase threads tickTimeMs =>
      if s.isRunning ∧ (∀ t ∈ threads, t < threadCount ∧ s.threads t = .available) ∧
          threadCount / 2 ≤ threads.card ∧
          (∀ p < s.phaseCount, (s.phases p).tickTimeMs ≤ tickTimeMs) then
        some (s.startGamePhase threads tickTimeMs)
      else none
  | .stop => some { s with isRunning := false }
  | .count task =>
      some { s with
        lifecycleTasks := s.lifecycleTasks.countTask
        enqueuing := s.enqueuing ++ [task] }
  | .push n =>
      match s.enqueuing[n]? with
      | none => none
      | some task =>
          some { s with
            lifecycleTasks := s.lifecycleTasks.push task
            enqueuing := s.enqueuing.eraseIdx n
            accepted := s.accepted ++ [task] }
  | .act t =>
      match s.threads t with
      | .inPhase p step => s.act t p step
      | .available | .stopped => none
  | .process t activeRooms created =>
      match s.threads t with
      | .inPhase p (.process task) =>
          let s' := { s with activeRooms, processed := s.processed ++ [(p, t, task)] }
          some ((s'.completeRoomInitialization created).goTo t p .fetch)
      | _ => none
  | .unresolved t =>
      match s.threads t with
      | .inPhase p (.lookUp _) => some (s.goTo t p .leave)
      | _ => none
  | .quit t => if s.isRunning then none else s.quit t

end GamePhases

/-- The runs of any number of game threads, over any rooms there are at the start. -/
def gamePhaseSystem (Task Room : Type) [DecidableEq Task] [DecidableEq Room] (threadCount : Nat)
    (allowed : GameAction Task Room → GamePhases Task Room → Prop) :
    System (GamePhases Task Room) :=
  .taking (fun s => ∃ activeRooms initialized,
    s = { activeRooms, initialized, processing := fun room => !initialized room })
    (fun action s => s.step threadCount action) allowed

end ProjectTetris

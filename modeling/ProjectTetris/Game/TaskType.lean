import ProjectTetris.Game.Tetromino

/-!
# Events, tasks and timers

The vocabulary of one tick: the event types of `enum_class.h`, the send tasks of
`task_type.h` that record what a tick did, and the cool-downs of
`TetrisTimers`.
-/

namespace ProjectTetris

/-- `EventType`, in the source's order (`NONE = -1`). -/
inductive EventType where
  | none | right | left | rotate | down | drop | up | move | fix | clearLine | addLine
  | gameOver | gameEnd | spawn
  deriving DecidableEq, Repr

namespace EventType

/-- The underlying value of the enumerator. -/
def toInt : EventType → Int
  | none => -1 | right => 0 | left => 1 | rotate => 2 | down => 3 | drop => 4 | up => 5
  | move => 6 | fix => 7 | clearLine => 8 | addLine => 9 | gameOver => 10 | gameEnd => 11
  | spawn => 12

end EventType

/-- `INPUT_TYPE_COUNT`: the inputs are `RIGHT` to `DROP`, values `0` to `4`. -/
def inputTypeCount : Nat := 5

/-- The inputs in the order `ProcessTick` handles them, `DROP` down to `RIGHT`. -/
def inputOrder : List EventType := [.drop, .down, .rotate, .left, .right]

/--
`TaskType`: one thing a tick did, with the data its packet will need.

The source pairs an `EventType` with a variant; the constructor is the pair.
-/
inductive TaskType where
  | move (moveType : EventType)
  | clearLine (lineIndex : Nat)
  | addLine (holeX : Nat)
  | fix (fixedX fixedY : Int)
  | gameOver
  | gameEnd (winnerId : Int)
  | spawn
  deriving DecidableEq, Repr

/-- `task.event_type`. -/
def TaskType.eventType : TaskType → EventType
  | move _ => .move
  | clearLine _ => .clearLine
  | addLine _ => .addLine
  | fix _ _ => .fix
  | gameOver => .gameOver
  | gameEnd _ => .gameEnd
  | spawn => .spawn

/-- Some task of the list is an event of this kind: how the rooms look for a `FIX`. -/
def hasEvent (tasks : List TaskType) (e : EventType) : Bool :=
  tasks.any fun task => task.eventType = e

@[simp] theorem hasEvent_nil (e : EventType) : hasEvent [] e = false := rfl

@[simp] theorem hasEvent_append (l₁ l₂ : List TaskType) (e : EventType) :
    hasEvent (l₁ ++ l₂) e = (hasEvent l₁ e || hasEvent l₂ e) := List.any_append

@[simp] theorem hasEvent_cons (task : TaskType) (l : List TaskType) (e : EventType) :
    hasEvent (task :: l) e = (decide (task.eventType = e) || hasEvent l e) := List.any_cons

/-- How many of these tasks are events of this kind. -/
def countEvent (tasks : List TaskType) (e : EventType) : Nat :=
  tasks.countP fun task => task.eventType = e

@[simp] theorem countEvent_append (l₁ l₂ : List TaskType) (e : EventType) :
    countEvent (l₁ ++ l₂) e = countEvent l₁ e + countEvent l₂ e := List.countP_append ..

theorem countEvent_eq_zero {tasks : List TaskType} {e : EventType} :
    countEvent tasks e = 0 ↔ hasEvent tasks e = false := by
  rw [countEvent, List.countP_eq_zero, hasEvent, List.any_eq_false]

/-! ## Settings -/

def moveTimeoutMs : Int := 50
def rotateTimeoutMs : Int := 100
def downTimeoutMs : Int := 500
def dropTimeoutMs : Int := 100
def garbageLineTimeoutMs : Int := 10000

/-! ## Timers -/

/-- `TetrisTimers`: when each input is allowed again, and when the clock acts on its own. -/
structure TetrisTimers where
  leftInputAvailableTimeMs : Int
  rightInputAvailableTimeMs : Int
  downInputAvailableTimeMs : Int
  rotateInputAvailableTimeMs : Int
  dropInputAvailableTimeMs : Int
  nextAutoDownTimeMs : Int
  nextGarbageLineTimeMs : Int
  deriving DecidableEq, Repr

namespace TetrisTimers

/-- `Reset`, with the reading of the steady clock as an argument. -/
def reset (now : Int) : TetrisTimers where
  leftInputAvailableTimeMs := now
  rightInputAvailableTimeMs := now
  downInputAvailableTimeMs := now
  rotateInputAvailableTimeMs := now
  dropInputAvailableTimeMs := now
  nextAutoDownTimeMs := now + downTimeoutMs
  nextGarbageLineTimeMs := now + garbageLineTimeoutMs

def isInputAllowed (s : TetrisTimers) (moveType : EventType) (t : Int) : Bool :=
  match moveType with
  | .left => s.leftInputAvailableTimeMs ≤ t
  | .right => s.rightInputAvailableTimeMs ≤ t
  | .down => s.downInputAvailableTimeMs ≤ t
  | .rotate => s.rotateInputAvailableTimeMs ≤ t
  | .drop => s.dropInputAvailableTimeMs ≤ t
  | _ => false

def recordInput (s : TetrisTimers) (moveType : EventType) (t : Int) : TetrisTimers :=
  match moveType with
  | .left => { s with leftInputAvailableTimeMs := t + moveTimeoutMs }
  | .right => { s with rightInputAvailableTimeMs := t + moveTimeoutMs }
  | .down => { s with downInputAvailableTimeMs := t + moveTimeoutMs }
  | .rotate => { s with rotateInputAvailableTimeMs := t + rotateTimeoutMs }
  | .drop => { s with dropInputAvailableTimeMs := t + dropTimeoutMs }
  | _ => s

def isAutoDownDue (s : TetrisTimers) (t : Int) : Bool := s.nextAutoDownTimeMs ≤ t

def restartAutoDown (s : TetrisTimers) (t : Int) : TetrisTimers :=
  { s with nextAutoDownTimeMs := t + downTimeoutMs }

def isGarbageLineDue (s : TetrisTimers) (t : Int) : Bool := s.nextGarbageLineTimeMs ≤ t

def restartGarbageLine (s : TetrisTimers) (t : Int) : TetrisTimers :=
  { s with nextGarbageLineTimeMs := t + garbageLineTimeoutMs }

/-- `DOWN` and `DROP`, the two inputs that can fix a piece, are both cooling down at `t`. -/
def NoFixAllowed (s : TetrisTimers) (t : Int) : Prop :=
  s.isInputAllowed .down t = false ∧ s.isInputAllowed .drop t = false

/-- **What `ProcessTick` records after a fix blocks a second one in the same tick.** -/
theorem noFixAllowed_of_fix (s : TetrisTimers) (t : Int) :
    NoFixAllowed (((s.recordInput .down t).restartAutoDown t).recordInput .drop t) t := by
  simp only [NoFixAllowed, isInputAllowed, decide_eq_false_iff_not]
  simp only [recordInput, restartAutoDown, moveTimeoutMs, dropTimeoutMs]
  omega

/-- Moving sideways or turning records nothing about the inputs that fix. -/
theorem NoFixAllowed.recordInput {s : TetrisTimers} {t : Int} (h : NoFixAllowed s t)
    {m : EventType} (hm : m = .right ∨ m = .left ∨ m = .rotate) :
    NoFixAllowed (s.recordInput m t) t := by
  rcases hm with rfl | rfl | rfl <;> exact h

end TetrisTimers

end ProjectTetris

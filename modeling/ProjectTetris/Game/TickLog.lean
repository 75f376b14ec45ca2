import ProjectTetris.Game.Replay
import ProjectTetris.Net.S2CType

/-!
# One player's tick, as a whole

The invariants of the engine, put together for the two calls a room makes on every
player per tick, `ProcessTick` and `AddGarbageLines`, and with a bound on the bytes
the recorded tasks will need as packets. A `SendBuffer` that is full would make the
room abandon the tick half way; the bound is why that never happens.
-/

namespace ProjectTetris

open Checked

namespace TaskType

/-- The struct `AppendTickPacket` builds for a task. -/
def packetType : TaskType → S2CType
  | move _ => .move
  | clearLine _ => .clearLine
  | addLine _ => .addLine
  | fix _ _ => .fix
  | gameOver => .gameOver
  | gameEnd _ => .gameEnd
  | spawn => .spawn

/-- A task the engine records by itself; spawns and the end of the game are the room's. -/
def isEngine : TaskType → Bool
  | gameEnd _ => false
  | spawn => false
  | _ => true

end TaskType

/-- The bytes of the packets for these tasks. -/
def tasksSize (tasks : List TaskType) : Nat := (tasks.map fun task => task.packetType.size).sum

@[simp] theorem tasksSize_nil : tasksSize [] = 0 := rfl

@[simp] theorem tasksSize_cons (task : TaskType) (l : List TaskType) :
    tasksSize (task :: l) = task.packetType.size + tasksSize l := by simp [tasksSize]

@[simp] theorem tasksSize_append (l₁ l₂ : List TaskType) :
    tasksSize (l₁ ++ l₂) = tasksSize l₁ + tasksSize l₂ := by simp [tasksSize]

theorem tasksSize_clearLines (ys : List Nat) :
    tasksSize (ys.map .clearLine) = ys.length * S2CType.clearLine.size := by
  induction ys with
  | nil => simp
  | cons y ys ih =>
      rw [List.map_cons, tasksSize_cons, ih, List.length_cons, Nat.succ_mul, Nat.add_comm]
      rfl

/-- The most one input can record: a fix, a full board of cleared rows, a game over. -/
def inputBudget : Nat :=
  S2CType.fix.size + boardHeight * S2CType.clearLine.size + S2CType.gameOver.size

/-- The most one garbage line can record: the line, and either a lift or a game over. -/
def garbageBudget : Nat := S2CType.addLine.size + S2CType.move.size

namespace Tetris

/--
The state of a player's tick so far.

`inGame` says that the player had not been eliminated when the tick began, `v₀` is
what a client saw at that moment, and `budget` bounds the packets recorded since.
-/
structure TickLog (inGame : Prop) (v₀ : View) (t : Int) (budget : Nat) (s : Tetris) : Prop where
  inBoard : InBoard s.currentTetromino
  engine : ∀ task ∈ s.sendTasks, task.isEngine = true
  size : tasksSize s.sendTasks ≤ budget
  live : inGame → Live s
  once : inGame → FixOnce t s
  replays : inGame → Replays v₀ s

variable {inGame : Prop} {v₀ : View} {t : Int} {budget : Nat} {s s' : Tetris}

/-- Pending lines are not part of the account. -/
theorem TickLog.addPending (h : TickLog inGame v₀ t budget s) (n : Nat) :
    TickLog inGame v₀ t budget (s.addPendingGarbageLines n) :=
  ⟨h.inBoard, h.engine, h.size, fun hg => ⟨(h.live hg).clean, (h.live hg).free⟩, h.once, h.replays⟩

/-- `CheckGameOver` asked once more, at the end of the tick, records at most one more task. -/
theorem TickLog.withVerdict (h : TickLog inGame v₀ t budget s) :
    TickLog inGame v₀ t (budget + S2CType.gameOver.size) s.withVerdict := by
  have hfix : hasEvent s.withVerdict.sendTasks .fix = hasEvent s.sendTasks .fix := by
    rw [withVerdict_sendTasks]
    split <;> simp [TaskType.eventType]
  have hover : hasEvent s.withVerdict.sendTasks .gameOver = false →
      hasEvent s.sendTasks .gameOver = false := by
    rw [withVerdict_sendTasks, hasEvent_append, Bool.or_eq_false_iff]
    exact And.left
  refine ⟨by rw [withVerdict_current]; exact h.inBoard, ?_, ?_,
    fun hg => ⟨fun ho => ?_, fun ho hf => ?_⟩, fun hg hf => ?_, fun hg => ?_⟩
  · rw [withVerdict_sendTasks]
    intro task ht
    rcases List.mem_append.mp ht with ht | ht
    · exact h.engine task ht
    · split at ht
      · exact absurd ht (List.not_mem_nil)
      · rw [List.mem_singleton.mp ht]; rfl
  · have hsize := h.size
    rw [withVerdict_sendTasks, tasksSize_append]
    split
    · exact Nat.le_trans hsize (Nat.le_add_right _ _)
    · exact Nat.add_le_add_right hsize _
  · rw [withVerdict_board]
    exact (h.live hg).clean (hover ho)
  · rw [withVerdict_board, withVerdict_current]
    exact (h.live hg).free (hover ho) (hfix.symm.trans hf)
  · rw [withVerdict_timers]
    exact h.once hg (hfix.symm.trans hf)
  · have hreplays := h.replays hg
    unfold Replays view at hreplays ⊢
    rw [hfix, withVerdict_board, withVerdict_current, withVerdict_sendTasks, View.replay_append,
      hreplays, Option.bind_some]
    by_cases hempty : s.board.HiddenEmpty
    · rw [if_pos hempty]; rfl
    · rw [if_neg hempty]; rfl

/-! ## One input -/

theorem Settled.size (h : Settled s t s') :
    tasksSize s'.sendTasks + S2CType.fix.size ≤ tasksSize s.sendTasks + inputBudget := by
  obtain ⟨ys, hlen, htasks⟩ := h.tasks
  have hclears : ys.length * S2CType.clearLine.size ≤ boardHeight * S2CType.clearLine.size :=
    Nat.mul_le_mul_right _ hlen
  have hverdict : tasksSize (if s'.board.HiddenEmpty then [] else [.gameOver]) ≤
      S2CType.gameOver.size := by
    split
    · exact Nat.zero_le _
    · exact Nat.le_refl _
  rw [htasks, tasksSize_append, tasksSize_append, tasksSize_clearLines, inputBudget]
  omega

theorem engine_settled (h : Settled s t s') (he : ∀ task ∈ s.sendTasks, task.isEngine = true) :
    ∀ task ∈ s'.sendTasks, task.isEngine = true := by
  obtain ⟨ys, _, htasks⟩ := h.tasks
  intro task ht
  rw [htasks] at ht
  rcases List.mem_append.mp ht with ht | ht
  · rcases List.mem_append.mp ht with ht | ht
    · exact he task ht
    · obtain ⟨y, _, rfl⟩ := List.mem_map.mp ht
      rfl
  · split at ht
    · exact absurd ht (List.not_mem_nil)
    · rw [List.mem_singleton.mp ht]; rfl

/-- **One input keeps the account of the tick.** -/
theorem tickLog_input {m : EventType} (h : TickLog inGame v₀ t budget s)
    (ho : InputOutcome s m t s') : TickLog inGame v₀ t (budget + inputBudget) s' := by
  refine ⟨inBoard_input h.inBoard ho, ?_, ?_, fun hg => live_input (h.live hg) ho,
    fun hg => fixOnce_input (h.once hg) ho,
    fun hg => replays_input (h.replays hg) (h.once hg) ho⟩
  · cases ho with
    | idle => exact h.engine
    | moved =>
        intro task ht
        rcases List.mem_append.mp ht with ht | ht
        · exact h.engine task ht
        · rw [List.mem_singleton.mp ht]; rfl
    | settled q _ _ _ hs =>
        refine engine_settled hs fun task ht => ?_
        rcases List.mem_append.mp ht with ht | ht
        · exact h.engine task ht
        · rw [List.mem_singleton.mp ht]; rfl
  · have hsize := h.size
    have hmove : S2CType.move.size ≤ inputBudget := by decide
    cases ho with
    | idle => omega
    | moved =>
        have hone : tasksSize [.move m] = S2CType.move.size := rfl
        rw [tasksSize_append, hone]
        omega
    | settled q _ _ _ hs =>
        have hfix := hs.size
        have hone : tasksSize [.fix q.movedPos.x q.movedPos.y] = S2CType.fix.size := rfl
        rw [tasksSize_append, hone] at hfix
        omega

theorem pendingGarbage_input {m : EventType} (ho : InputOutcome s m t s') :
    s'.pendingGarbageLineCount = s.pendingGarbageLineCount := by
  cases ho with
  | idle => rfl
  | moved => rfl
  | settled q _ _ _ hs =>
      obtain ⟨fixed, cleared, _, _, _, hc, rfl⟩ := hs
      unfold withVerdict
      split <;> rw [hc.rest]

/-! ## A tick -/

/-- A player's state between two ticks: nothing recorded, nothing pending. -/
structure Fresh (s : Tetris) : Prop where
  moves : s.pendingMoves = fun _ => false
  inputs : s.inputTasks = []
  tasks : s.sendTasks = []
  garbage : s.pendingGarbageLineCount = 0
  cleared : s.clearedLineCount = 0

theorem resetTickData_fresh (s : Tetris) : s.resetTickData.Fresh := ⟨rfl, rfl, rfl, rfl, rfl⟩

theorem Fresh.clear (h : Fresh s) (now : Int) : (s.clear now).Fresh :=
  ⟨rfl, h.inputs, h.tasks, h.garbage, h.cleared⟩

theorem init_fresh (now : Int) : (Tetris.init now).Fresh := ⟨rfl, rfl, rfl, rfl, rfl⟩

/-- What is true, between two ticks, of a player who has not been eliminated. -/
structure Playing (s : Tetris) : Prop where
  hidden : s.board.HiddenEmpty
  noFullRow : s.board.NoFullRow
  valid : Valid s.board s.currentTetromino

/-- **`ProcessTick`, from between two ticks.** Whatever inputs have been queued. -/
theorem processTick_log (hb : InBoard s.currentTetromino) (htasks : s.sendTasks = [])
    (hgarbage : s.pendingGarbageLineCount = 0) (hplaying : inGame → Playing s) :
    Ok (s.processTick t) fun s' =>
      TickLog inGame ⟨s.board, some s.currentTetromino⟩ t (inputTypeCount * inputBudget) s' ∧
        s'.pendingGarbageLineCount ≤ 1 := by
  obtain ⟨moves, inputs, timers, heq⟩ := ready_eq s t
  refine processTick_ok (I := fun n s' =>
    TickLog inGame ⟨s.board, some s.currentTetromino⟩ t (n * inputBudget) s' ∧
      s'.pendingGarbageLineCount ≤ 1) (fun n s' h => h.1.inBoard) ?_ ?_
  · rintro n s₁ s₂ m ⟨hlog, hcount⟩ ho
    rw [Nat.succ_mul]
    exact ⟨tickLog_input hlog ho, by rw [pendingGarbage_input ho]; exact hcount⟩
  · rw [show ((s.addDueGarbageLine t).addDueAutoDown t).mergeInputs = _ from heq]
    have hle : s.pendingGarbageLineCount + (if s.timers.isGarbageLineDue t then 1 else 0) ≤ 1 := by
      rw [hgarbage]
      split <;> decide
    refine ⟨⟨hb, ?_, ?_, fun hg => ⟨fun _ => ?_, fun _ _ => ?_⟩, fun _ hf => ?_, fun _ => ?_⟩, hle⟩
    · rw [htasks]; intro task ht; exact absurd ht (List.not_mem_nil)
    · rw [htasks]; exact Nat.zero_le _
    · exact ⟨(hplaying hg).hidden, (hplaying hg).noFullRow⟩
    · exact (hplaying hg).valid
    · rw [htasks] at hf; exact absurd hf (by decide)
    · exact replays_of_empty htasks

theorem tickLog_garbage {holeX : Nat} {goOn : Bool} (h : TickLog inGame v₀ t budget s)
    (ho : GarbageOutcome s holeX s' goOn) : TickLog inGame v₀ t (budget + garbageBudget) s' := by
  refine ⟨inBoard_garbage h.inBoard ho, ?_, ?_,
    fun hg => live_garbage h.inBoard (h.live hg) ho, ?_,
    fun hg => replays_garbage (h.replays hg) ho⟩
  · cases ho <;>
    · intro task ht
      rcases List.mem_append.mp ht with ht | ht
      · exact h.engine task ht
      · simp only [List.mem_cons, List.not_mem_nil, or_false] at ht
        rcases ht with rfl | rfl <;> rfl
  · have hsize := h.size
    have hover : S2CType.addLine.size + S2CType.gameOver.size ≤ garbageBudget := by decide
    have hfits : S2CType.addLine.size ≤ garbageBudget := by decide
    cases ho with
    | toppedOut =>
        simp only [tasksSize_append, tasksSize_cons, tasksSize_nil, TaskType.packetType]; omega
    | fits =>
        simp only [tasksSize_append, tasksSize_cons, tasksSize_nil, TaskType.packetType]; omega
    | lifted =>
        simp only [tasksSize_append, tasksSize_cons, tasksSize_nil, TaskType.packetType,
          garbageBudget]
        omega
  · intro hg hf
    have honce := h.once hg
    cases ho <;> exact honce (by simpa [TaskType.eventType] using hf)

/-- **`AddGarbageLines`, in the same tick.** -/
theorem addGarbageLines_log (h : TickLog inGame v₀ t budget s) (holes : Nat → Fin boardWidth) :
    Ok (s.addGarbageLines holes) fun s' =>
      TickLog inGame v₀ t (budget + s.pendingGarbageLineCount * garbageBudget) s' := by
  refine (addGarbageLines_ok (I := fun n s' =>
    TickLog inGame v₀ t (budget + n * garbageBudget) s') ?_ (by simpa using h) holes).mono ?_
  · intro n s₁ s₂ holeX goOn hlog ho
    rw [Nat.succ_mul, ← Nat.add_assoc]
    exact tickLog_garbage hlog ho
  · rintro s' ⟨n, hn, hlog⟩
    have hmul := Nat.mul_le_mul_right garbageBudget hn
    exact { hlog with size := by have := hlog.size; omega }

end Tetris

end ProjectTetris

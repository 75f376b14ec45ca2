import ProjectTetris.Rooms.GameEnd

/-!
# Is topping out the last thing that happens on a board?

`CheckGameOver` is asked after every fix and after every garbage line. After a garbage
line its verdict ends the loop; after a fix nobody uses it, and the tick goes on with
later inputs, with the garbage, and with the next piece.
-/

namespace ProjectTetris

open Checked

/-- `GAME_OVER` stands at the end, if anywhere. -/
def OverIsLast (tasks : List TaskType) : Prop :=
  ∀ before after, tasks = before ++ .gameOver :: after → after = []

theorem overIsLast_of_not_mem {tasks : List TaskType} (h : .gameOver ∉ tasks) :
    OverIsLast tasks := by
  intro before after heq
  exact absurd (heq ▸ by simp) h

theorem overIsLast_append {tasks : List TaskType} (h : .gameOver ∉ tasks) :
    OverIsLast (tasks ++ [.gameOver]) := by
  intro before after heq
  rcases List.eq_nil_or_concat after with rfl | ⟨rest, last, rfl⟩
  · rfl
  · -- with more behind it, the task would be among those before the last
    have hall : tasks ++ [.gameOver] = (before ++ .gameOver :: rest) ++ [last] := by
      rw [heq]
      simp
    have hbefore := (List.append_inj' hall rfl).1
    exact absurd (hbefore ▸ by simp) h

theorem not_mem_of_hasEvent {tasks : List TaskType} (h : hasEvent tasks .gameOver = false) :
    .gameOver ∉ tasks := by
  intro hmem
  have hsome : hasEvent tasks .gameOver = true :=
    List.any_eq_true.mpr ⟨_, hmem, by simp [TaskType.eventType]⟩
  rw [h] at hsome
  cases hsome

theorem overIsLast_cases {tasks : List TaskType} (h : OverIsLast tasks) :
    .gameOver ∉ tasks ∨ ∃ before, tasks = before ++ [.gameOver] ∧ .gameOver ∉ before := by
  by_cases hmem : TaskType.gameOver ∈ tasks
  · obtain ⟨before, after, heq, hno⟩ := List.eq_append_cons_of_mem hmem
    have hnil := h before after heq
    subst hnil
    exact .inr ⟨before, heq, hno⟩
  · exact .inl hmem

theorem hasEvent_of_mem {tasks : List TaskType} (h : .gameOver ∈ tasks) :
    hasEvent tasks .gameOver = true :=
  List.any_eq_true.mpr ⟨_, h, by simp [TaskType.eventType]⟩

namespace Tetris

variable {s s' : Tetris}

/-- One garbage line: it tops the board out and ends the loop, or does not. -/
theorem addGarbageLine_over {holeX : Nat} {goOn : Bool}
    (h : s.addGarbageLine holeX = some (s', goOn)) (hno : .gameOver ∉ s.sendTasks) :
    (goOn = false ∧ OverIsLast s'.sendTasks) ∨ (goOn = true ∧ .gameOver ∉ s'.sendTasks) := by
  obtain ⟨board, _, h⟩ := Option.bind_eq_some_iff.mp h
  obtain ⟨⟨s₁, isOver⟩, hcheck, h⟩ := Option.bind_eq_some_iff.mp h
  have hpushed : .gameOver ∉ s.sendTasks ++ [TaskType.addLine holeX] := by simpa using hno
  obtain ⟨verdict, _, hcheck⟩ := Option.bind_eq_some_iff.mp hcheck
  dsimp only at hcheck h
  cases verdict with
  | true =>
      cases hcheck
      cases h
      exact .inl ⟨rfl, overIsLast_append hpushed⟩
  | false =>
      cases hcheck
      obtain ⟨fits, _, h⟩ := Option.bind_eq_some_iff.mp h
      cases fits with
      | true =>
          cases h
          exact .inr ⟨rfl, hpushed⟩
      | false =>
          cases h
          exact .inr ⟨rfl, by simpa using hno⟩

/-- **Garbage tops a board out last**, if no fix has topped it out before. -/
theorem addGarbageLoop_over {holes : List Nat} (h : s.addGarbageLoop holes = some s')
    (hno : .gameOver ∉ s.sendTasks) :
    OverIsLast s'.sendTasks := by
  induction holes generalizing s with
  | nil =>
      cases h
      exact overIsLast_of_not_mem hno
  | cons holeX rest ih =>
      obtain ⟨⟨s₁, goOn⟩, hone, h⟩ := Option.bind_eq_some_iff.mp h
      dsimp only at h
      rcases addGarbageLine_over hone hno with ⟨rfl, hlast⟩ | ⟨rfl, hno₁⟩
      · cases h
        exact hlast
      · exact ih h hno₁

end Tetris

namespace TetrisRoom

variable {r rv : TetrisRoom} {env : RoomEnv} {t : Int}

/-- No piece that this tick fixes for a player in `PLAY` tops his board out. -/
def FixesFit (r : TetrisRoom) (t : Int) : Prop :=
  ∀ p ∈ r.roomPlayers, playing p → ∀ s, p.tetris.processTick t = some s →
    hasEvent s.sendTasks .gameOver = false

namespace MultiRoom

/-- **If no fix tops a board out, only garbage does, and last.** -/
theorem beforeVerdict_over (hs : Seated env r.roomPlayers) (h : beforeVerdict r env t = some rv)
    (hfits : FixesFit r t) {q : Player} (hq : q ∈ rv.roomPlayers) (hplay : playing q) :
    OverIsLast q.tetris.sendTasks := by
  obtain ⟨i, hi⟩ := List.mem_iff_getElem?.mp hq
  obtain ⟨p, s, hp, hactive, hstate, htick, -, hraised⟩ := beforeVerdict_engine hs h hi hplay.2
  obtain ⟨lines, hgarbage⟩ := hraised hplay.1
  exact Tetris.addGarbageLoop_over hgarbage
    (not_mem_of_hasEvent
      (hfits p (List.mem_of_getElem? hp) ⟨hstate.trans hplay.1, hactive⟩ s htick))

/-- In a game that goes on, no board with a piece fixed in this tick is topped out by garbage. -/
def GarbageFits (r : TetrisRoom) (env : RoomEnv) (t : Int) : Prop :=
  ∀ rv, beforeVerdict r env t = some rv → newWinnerId rv env = -1 →
    ∀ q ∈ rv.roomPlayers, playing q →
    hasEvent q.tetris.sendTasks .fix = true → hasEvent q.tetris.sendTasks .gameOver = false

end MultiRoom

/-- In this tick nothing tops out the board of the one who plays. -/
def SingleRoom.BoardFits (r : TetrisRoom) (env : RoomEnv) (t : Int) : Prop :=
  ∀ rv, beforeVerdict r env t = some rv → ∀ q ∈ rv.roomPlayers, playing q →
    hasEvent q.tetris.sendTasks .gameOver = false

/-- A tick in which nobody is topped out by what is not the last of his tick. -/
def TickFits (r : TetrisRoom) (env : RoomEnv) (t : Int) : Prop :=
  if r.kind = .single then SingleRoom.BoardFits r env t
  else FixesFit r t ∧ MultiRoom.GarbageFits r env t

/-- An event that is no such tick. -/
def StepFits (r : TetrisRoom) (env : RoomEnv) (e : RoomEvent) : Prop :=
  ∀ t, e = .tick t → r.roomState = .play →
    TickFits ({ r with out := [] }.distributeInputs env) env t

/-! ## Runs can be checked for it -/

instance (r : TetrisRoom) (t : Int) : Decidable (FixesFit r t) :=
  decidable_of_iff
    (∀ p ∈ r.roomPlayers, playing p → ∀ s ∈ p.tetris.processTick t,
      hasEvent s.sendTasks .gameOver = false) .rfl

instance (r : TetrisRoom) (env : RoomEnv) (t : Int) : Decidable (MultiRoom.GarbageFits r env t) :=
  decidable_of_iff
    (∀ rv ∈ MultiRoom.beforeVerdict r env t, MultiRoom.newWinnerId rv env = -1 →
      ∀ q ∈ rv.roomPlayers,
      playing q → hasEvent q.tetris.sendTasks .fix = true →
      hasEvent q.tetris.sendTasks .gameOver = false) .rfl

instance (r : TetrisRoom) (env : RoomEnv) (t : Int) : Decidable (SingleRoom.BoardFits r env t) :=
  decidable_of_iff
    (∀ rv ∈ SingleRoom.beforeVerdict r env t, ∀ q ∈ rv.roomPlayers, playing q →
      hasEvent q.tetris.sendTasks .gameOver = false) .rfl

instance (r : TetrisRoom) (env : RoomEnv) (t : Int) : Decidable (TickFits r env t) := by
  unfold TickFits; infer_instance

/-- Only a tick asks for anything. -/
instance (r : TetrisRoom) (env : RoomEnv) (e : RoomEvent) : Decidable (StepFits r env e) :=
  match e with
  | .tick t =>
      decidable_of_iff
        (r.roomState = .play → TickFits ({ r with out := [] }.distributeInputs env) env t)
        ⟨fun h _ heq => RoomEvent.tick.inj heq ▸ h, fun h => h t rfl⟩
  | .task _ | .leavePacket _ | .input _ => isTrue fun _ heq => RoomEvent.noConfusion heq

end TetrisRoom

end ProjectTetris

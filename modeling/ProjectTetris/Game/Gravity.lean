import ProjectTetris.Game.EngineInv

/-!
# Gravity

The automatic down is queued like an input of the player: it has to pass the cool-down of
`DOWN`, and its own timer is restarted before anybody knows whether it did. It always does
pass, because the two timers are never far apart: `DOWN` is allowed again 450 ms before the
automatic down is due. `DownFirst` says that, and everything that writes either timer keeps it.

`DOWN` is handled once in a tick, so a tick lowers a piece by at most one row, unless the
player drops it.
-/

namespace ProjectTetris

open Checked

/-- `DOWN` is allowed again well before the automatic down is due. -/
def TetrisTimers.DownFirst (s : TetrisTimers) : Prop :=
  s.downInputAvailableTimeMs + (downTimeoutMs - moveTimeoutMs) ≤ s.nextAutoDownTimeMs

namespace TetrisTimers

variable {s : TetrisTimers} {t : Int}

theorem downFirst_reset (now : Int) : (reset now).DownFirst := by
  unfold DownFirst reset downTimeoutMs moveTimeoutMs
  dsimp only
  omega

theorem DownFirst.recordInput (h : s.DownFirst) {m : EventType} (hm : m ≠ .down) :
    (s.recordInput m t).DownFirst := by
  cases m with
  | down => exact absurd rfl hm
  | _ => exact h

/-- A `DOWN` that is recorded restarts the automatic one. -/
theorem downFirst_down (s : TetrisTimers) (t : Int) :
    ((s.recordInput .down t).restartAutoDown t).DownFirst := by
  unfold DownFirst TetrisTimers.recordInput restartAutoDown downTimeoutMs moveTimeoutMs
  dsimp only
  omega

/-- The clock restarts the automatic down only when it is due, so it never moves backwards. -/
theorem DownFirst.restartAutoDown (h : s.DownFirst) (hdue : s.isAutoDownDue t = true) :
    (s.restartAutoDown t).DownFirst := by
  have hle : s.nextAutoDownTimeMs ≤ t := of_decide_eq_true hdue
  unfold DownFirst TetrisTimers.restartAutoDown downTimeoutMs moveTimeoutMs at *
  dsimp only
  omega

/-- **When the automatic down is due, `DOWN` is allowed.** -/
theorem DownFirst.allowed (h : s.DownFirst) (hdue : s.isAutoDownDue t = true) :
    s.isInputAllowed .down t = true := by
  have hle : s.nextAutoDownTimeMs ≤ t := of_decide_eq_true hdue
  unfold DownFirst downTimeoutMs moveTimeoutMs at h
  refine decide_eq_true ?_
  omega

end TetrisTimers

namespace Tetris

variable {s s' : Tetris} {t : Int}

/-! ## What keeps the two timers apart -/

theorem downFirst_input {m : EventType} (h : s.timers.DownFirst) (ho : InputOutcome s m t s') :
    s'.timers.DownFirst := by
  cases ho with
  | idle => exact h
  | moved _ _ _ =>
      dsimp only
      unfold movedTimers
      split
      · rename_i hm
        subst hm
        exact TetrisTimers.downFirst_down s.timers t
      · rename_i hm
        exact h.recordInput hm
  | settled q _ _ _ hs =>
      rw [hs.timers]
      exact (TetrisTimers.downFirst_down _ t).recordInput (by decide)

theorem timers_garbage {holeX : Nat} {goOn : Bool} (ho : GarbageOutcome s holeX s' goOn) :
    s'.timers = s.timers := by
  cases ho <;> rfl

theorem downFirst_addGarbageLines (h : s.timers.DownFirst) (holes : Nat → Fin boardWidth)
    (hs' : s.addGarbageLines holes = some s') : s'.timers.DownFirst := by
  obtain ⟨_, _, hkept⟩ := (addGarbageLines_ok (I := fun _ s => s.timers.DownFirst)
    (fun _ _ _ _ _ hs ho => timers_garbage ho ▸ hs) h holes).of_eq_some hs'
  exact hkept

theorem ready_current (s : Tetris) (t : Int) :
    (s.ready t).currentTetromino = s.currentTetromino := by
  obtain ⟨_, _, _, heq⟩ := ready_eq s t
  rw [heq]

theorem ready_board (s : Tetris) (t : Int) : (s.ready t).board = s.board := by
  obtain ⟨_, _, _, heq⟩ := ready_eq s t
  rw [heq]

theorem ready_sendTasks (s : Tetris) (t : Int) : (s.ready t).sendTasks = s.sendTasks := by
  obtain ⟨_, _, _, heq⟩ := ready_eq s t
  rw [heq]

/-- Restarting the automatic down says nothing about the inputs of the player. -/
theorem ready_isInputAllowed (s : Tetris) (t : Int) (m : EventType) :
    (s.ready t).timers.isInputAllowed m t = s.timers.isInputAllowed m t := by
  unfold ready addDueAutoDown addDueGarbageLine mergeInputs
  split <;> split <;> cases m <;> rfl

theorem ready_downFirst (h : s.timers.DownFirst) (t : Int) : (s.ready t).timers.DownFirst := by
  have hgarbage : (s.addDueGarbageLine t).timers.DownFirst := by
    unfold addDueGarbageLine
    split
    · exact h
    · exact h
  show ((s.addDueGarbageLine t).addDueAutoDown t).timers.DownFirst
  unfold addDueAutoDown
  split
  · rename_i hdue
    exact hgarbage.restartAutoDown hdue
  · exact hgarbage

theorem downFirst_processTick (hin : InBoard s.currentTetromino) (h : s.timers.DownFirst)
    (hs' : s.processTick t = some s') : s'.timers.DownFirst := by
  refine ((processTick_ok (I := fun _ s => InBoard s.currentTetromino ∧ s.timers.DownFirst)
    (fun _ _ hI => hI.1) (fun _ _ _ _ hI ho =>
      ⟨inBoard_input hI.1 ho, downFirst_input hI.2 ho⟩) ?_).of_eq_some hs').2
  have hcurrent : (s.ready t).currentTetromino = s.currentTetromino := ready_current s t
  exact ⟨hcurrent.symm ▸ hin, ready_downFirst h t⟩

/-! ## Which inputs are pending -/

/-- An input is pending if it was, or if one of the events received is it. -/
theorem foldl_mergeInput (types : List Int) (pending : Fin inputTypeCount → Bool)
    (i : Fin inputTypeCount) :
    types.foldl mergeInput pending i = true ↔ pending i = true ∨ (i : Int) ∈ types := by
  induction types generalizing pending with
  | nil => simp
  | cons type rest ih =>
      rw [List.foldl_cons, ih, mergeInput, List.mem_cons]
      by_cases htype : (i : Int) = type
      · simp [htype]
      · simp [htype]

/-- The automatic down counts as a `DOWN` of the player. -/
theorem ready_pending_down (hdue : s.timers.isAutoDownDue t = true) :
    (s.ready t).pendingMoves ⟨3, by decide⟩ = true := by
  have hdue' : (s.addDueGarbageLine t).timers.isAutoDownDue t = true := by
    unfold addDueGarbageLine
    split <;> exact hdue
  refine (foldl_mergeInput _ _ _).mpr (.inr ?_)
  unfold addDueAutoDown
  rw [if_pos hdue']
  exact List.mem_append_right _ (List.mem_singleton.mpr rfl)

/-! ## One input -/

/-- A turn of `DOWN`: nothing, if it was not asked for or is cooling down; else a row, or a fix. -/
inductive DownOutcome (s : Tetris) (t : Int) (s' : Tetris) : Prop
  | refused
      (hno : ¬ (s.pendingMoves ⟨3, by decide⟩ = true ∧ s.timers.isInputAllowed .down t = true))
      (h : s' = s)
  | lowered (ha : s.timers.isInputAllowed .down t = true)
      (hpiece : s'.currentTetromino = s.currentTetromino.shift 0 1)
      (htasks : s'.sendTasks = s.sendTasks ++ [.move .down])
  | fixed (ha : s.timers.isInputAllowed .down t = true)
      (hpiece : s'.currentTetromino = s.currentTetromino)
      (htasks : ∃ more, s'.sendTasks = s.sendTasks ++ more ∧ .move .down ∉ more ∧
        hasEvent more .fix = true)

/-- What is recorded after a fix is no move. -/
theorem Settled.noMove (h : Settled s t s') : ∃ more, s'.sendTasks = s.sendTasks ++ more ∧
    .move .down ∉ more := by
  obtain ⟨ys, _, hys⟩ := h.tasks
  refine ⟨ys.map .clearLine ++ if s'.board.HiddenEmpty then [] else [.gameOver],
    by rw [hys, List.append_assoc], fun hc => ?_⟩
  rcases List.mem_append.mp hc with hc | hc
  · obtain ⟨y, _, hy⟩ := List.mem_map.mp hc
    exact TaskType.noConfusion hy
  · split at hc
    · exact absurd hc List.not_mem_nil
    · exact TaskType.noConfusion (List.mem_singleton.mp hc)

/-- The log of an input that fixed the piece. -/
theorem Settled.fixLog {q : Tetromino} {timers : TetrisTimers} {x y : Int}
    (h : Settled { s with
      currentTetromino := q
      sendTasks := s.sendTasks ++ [.fix x y]
      timers := timers } t s') :
    ∃ more, s'.sendTasks = s.sendTasks ++ more ∧ .move .down ∉ more ∧
      hasEvent more .fix = true := by
  obtain ⟨more, hmore, hno⟩ := h.noMove
  refine ⟨.fix x y :: more, by rw [hmore, List.append_assoc]; rfl, ?_, ?_⟩
  · simpa using hno
  · simp [TaskType.eventType]

theorem processInput_down (s : Tetris) (t : Int) (hb : InBoard s.currentTetromino) :
    Ok (processInput t s .down) (DownOutcome s t) := by
  unfold processInput
  rw [dif_pos (by decide)]
  split
  · rename_i hpending
    unfold processMoveInput
    split
    · rename_i ha
      dsimp only
      rw [moveDown, isValidPosition_eq]
      by_cases hv : Valid s.board (s.currentTetromino.shift 0 1)
      · rw [decide_eq_true hv]
        exact Ok.pure (.lowered ha rfl rfl)
      · rw [decide_eq_false hv]
        refine (settle_ok t (s := { s with sendTasks := s.sendTasks ++ [s.fixTask] }) hb).mono ?_
        intro s' hs
        exact .fixed ha hs.current hs.fixLog
    · rename_i hno
      exact Ok.pure (.refused (fun hc => hno hc.2) rfl)
  · rename_i hno
    exact Ok.pure (.refused (fun hc => hno hc.1) rfl)

/-- The inputs that move a piece within its row: the row stays, and no `DOWN` is recorded. -/
structure SameRow (s s' : Tetris) : Prop where
  inBoard : InBoard s'.currentTetromino
  row : s'.currentTetromino.movedPos.y = s.currentTetromino.movedPos.y
  tasks : ∃ more, s'.sendTasks = s.sendTasks ++ more ∧ .move .down ∉ more

theorem processInput_sameRow {m : EventType} (hm : m = .rotate ∨ m = .left ∨ m = .right)
    (hb : InBoard s.currentTetromino) : Ok (processInput t s m) (SameRow s) := by
  refine (processInput_ok m t hb).mono fun s' ho => ⟨inBoard_input hb ho, ?_, ?_⟩
  · cases ho with
    | idle => rfl
    | moved _ _ _ =>
        rcases hm with rfl | rfl | rfl
        · rfl
        · exact Int.add_zero _
        · exact Int.add_zero _
    | settled q hfix _ _ _ =>
        rcases hm with rfl | rfl | rfl <;> rcases hfix with hfix | hfix <;> cases hfix
  · cases ho with
    | idle => exact ⟨[], by simp, by simp⟩
    | moved _ _ _ =>
        refine ⟨[.move m], rfl, ?_⟩
        rcases hm with rfl | rfl | rfl <;> decide
    | settled q hfix _ _ _ =>
        rcases hm with rfl | rfl | rfl <;> rcases hfix with hfix | hfix <;> cases hfix

theorem SameRow.trans {s₁ s₂ s₃ : Tetris} (h₁ : SameRow s₁ s₂) (h₂ : SameRow s₂ s₃) :
    SameRow s₁ s₃ := by
  obtain ⟨more₁, htasks₁, hno₁⟩ := h₁.tasks
  obtain ⟨more₂, htasks₂, hno₂⟩ := h₂.tasks
  refine ⟨h₂.inBoard, h₂.row.trans h₁.row, more₁ ++ more₂, ?_, ?_⟩
  · rw [htasks₂, htasks₁, List.append_assoc]
  · rw [List.mem_append]
    exact fun hc => hc.elim hno₁ hno₂

/-! ## The tick -/

/-- How a piece can have come down in the tick at `t`. -/
inductive Fell (s : Tetris) (t : Int) (s' : Tetris) : Prop
  /-- It is in its row: nothing lowered it, or it has been fixed there. -/
  | stayed (hrow : s'.currentTetromino.movedPos.y = s.currentTetromino.movedPos.y)
      (hno : .move .down ∉ s'.sendTasks)
      (hwhy : hasEvent s'.sendTasks .fix = true ∨
        ¬ ((s.ready t).pendingMoves ⟨3, by decide⟩ = true ∧
          s.timers.isInputAllowed .down t = true))
  /-- It is one row further down, and the log says so once. -/
  | lowered (hrow : s'.currentTetromino.movedPos.y = s.currentTetromino.movedPos.y + 1)
      (honce : s'.sendTasks.count (.move .down) = 1)
  /-- The player has dropped it, and it is fixed where `DROP` left it. -/
  | dropped (q : Tetromino) (hask : (s.ready t).pendingMoves ⟨4, by decide⟩ = true)
      (ha : s.timers.isInputAllowed .drop t = true)
      (hq : Lands s.board s.currentTetromino q)
      (hrow : s'.currentTetromino.movedPos.y = q.movedPos.y)
      (hno : .move .down ∉ s'.sendTasks) (hfix : hasEvent s'.sendTasks .fix = true)

/-- Moving within the row changes nothing about how the piece came down. -/
theorem Fell.sameRow {s₁ s₂ : Tetris} (h : Fell s t s₁) (hsame : SameRow s₁ s₂) : Fell s t s₂ := by
  obtain ⟨more, htasks, hmore⟩ := hsame.tasks
  have hfix : hasEvent s₁.sendTasks .fix = true → hasEvent s₂.sendTasks .fix = true := by
    intro hf
    rw [htasks, hasEvent_append, hf, Bool.true_or]
  have hdown : .move .down ∉ s₁.sendTasks → .move .down ∉ s₂.sendTasks := by
    intro hno
    rw [htasks, List.mem_append]
    exact fun hc => hc.elim hno hmore
  cases h with
  | stayed hrow hno hwhy =>
      exact .stayed (hsame.row.trans hrow) (hdown hno) (hwhy.imp_left hfix)
  | lowered hrow honce =>
      refine .lowered (hsame.row.trans hrow) ?_
      rw [htasks, List.count_append, honce, List.count_eq_zero.mpr hmore]
  | dropped q hask ha hq hrow hno hf =>
      exact .dropped q hask ha hq (hsame.row.trans hrow) (hdown hno) (hfix hf)

/-- `DROP`, the first input of a tick. -/
inductive DropOutcome (s : Tetris) (t : Int) (s' : Tetris) : Prop
  | refused (h : s' = s)
  | fixed (q : Tetromino) (hask : s.pendingMoves ⟨4, by decide⟩ = true)
      (ha : s.timers.isInputAllowed .drop t = true) (hq : Lands s.board s.currentTetromino q)
      (hpiece : s'.currentTetromino = q)
      (htasks : ∃ more, s'.sendTasks = s.sendTasks ++ more ∧ .move .down ∉ more ∧
        hasEvent more .fix = true)
      (hno : s'.timers.NoFixAllowed t)

theorem processInput_drop (s : Tetris) (t : Int) (hb : InBoard s.currentTetromino) :
    Ok (processInput t s .drop) (DropOutcome s t) := by
  unfold processInput
  rw [dif_pos (by decide)]
  split
  · rename_i hpending
    unfold processMoveInput
    split
    · rename_i ha
      dsimp only
      obtain ⟨q, hdrop, hq⟩ := moveDrop_land (b := s.board) hb
      rw [moveDrop, hdrop]
      refine (settle_ok t (s := { s with
        currentTetromino := q
        sendTasks := s.sendTasks ++ [.fix q.movedPos.x q.movedPos.y]
        timers := s.timers.recordInput .drop t }) (hq.inBoard hb)).mono ?_
      intro s' hs
      refine .fixed q hpending ha hq hs.current hs.fixLog ?_
      rw [hs.timers]
      exact TetrisTimers.noFixAllowed_of_fix _ t
    · exact Ok.pure (.refused rfl)
  · exact Ok.pure (.refused rfl)

/-- `DROP` and `DOWN`, the two inputs that lower a piece. -/
theorem fell_down {s₁ s₂ : Tetris} (htasks : s.sendTasks = [])
    (hdrop : DropOutcome (s.ready t) t s₁) (hdown : DownOutcome s₁ t s₂) : Fell s t s₂ := by
  have hstart := ready_sendTasks s t
  rw [htasks] at hstart
  cases hdrop with
  | refused h =>
      subst h
      cases hdown with
      | refused hno h =>
          subst h
          refine .stayed (by rw [ready_current]) (by simp [hstart]) (.inr ?_)
          rwa [ready_isInputAllowed] at hno
      | lowered _ hpiece hlog =>
          refine .lowered ?_ ?_
          · rw [hpiece, ready_current]
            rfl
          · rw [hlog, hstart]
            rfl
      | fixed _ hpiece hlog =>
          obtain ⟨more, hlog, hno, hf⟩ := hlog
          rw [hstart, List.nil_append] at hlog
          exact .stayed (by rw [hpiece, ready_current]) (hlog ▸ hno) (.inl (hlog ▸ hf))
  | fixed q hask ha hq hpiece hlog hcool =>
      obtain ⟨more, hlog, hno, hf⟩ := hlog
      rw [hstart, List.nil_append] at hlog
      have hcool : s₁.timers.isInputAllowed .down t = false := hcool.1
      -- the fix has started the cool-down of `DOWN`
      have hsame : s₂ = s₁ := by
        cases hdown with
        | refused _ h => exact h
        | lowered h _ _ => exact absurd (hcool.symm.trans h) (by decide)
        | fixed h _ _ => exact absurd (hcool.symm.trans h) (by decide)
      subst hsame
      rw [ready_isInputAllowed] at ha
      rw [ready_board, ready_current] at hq
      exact .dropped q hask ha hq (by rw [hpiece]) (hlog ▸ hno) (hlog ▸ hf)

/-- **In one tick a piece comes down by a row at most**, or by a drop. -/
theorem processTick_fell (hb : InBoard s.currentTetromino) (htasks : s.sendTasks = []) :
    Ok (s.processTick t) (Fell s t) := by
  have hb₀ : InBoard (s.ready t).currentTetromino := by rw [ready_current]; exact hb
  show Ok (inputOrder.foldlM (processInput t) (s.ready t)) (Fell s t)
  simp only [inputOrder, List.foldlM_cons, List.foldlM_nil]
  obtain ⟨s₁, hs₁, hdrop⟩ := processInput_drop (s.ready t) t hb₀
  have hb₁ := inBoard_input hb₀ ((processInput_ok .drop t hb₀).of_eq_some hs₁)
  obtain ⟨s₂, hs₂, hdown⟩ := processInput_down s₁ t hb₁
  have hb₂ := inBoard_input hb₁ ((processInput_ok .down t hb₁).of_eq_some hs₂)
  obtain ⟨s₃, hs₃, hrotate⟩ := processInput_sameRow (m := .rotate) (t := t) (.inl rfl) hb₂
  obtain ⟨s₄, hs₄, hleft⟩ :=
    processInput_sameRow (m := .left) (t := t) (.inr (.inl rfl)) hrotate.inBoard
  obtain ⟨s₅, hs₅, hright⟩ :=
    processInput_sameRow (m := .right) (t := t) (.inr (.inr rfl)) hleft.inBoard
  refine ⟨s₅, ?_, (fell_down htasks hdrop hdown).sameRow ((hrotate.trans hleft).trans hright)⟩
  simp only [hs₁, hs₂, hs₃, hs₄, hs₅, Option.bind_eq_bind, Option.bind_some]
  rfl

/-- **A due automatic down lowers the piece or fixes it**, whatever else the tick is asked to do.
-/
theorem Fell.of_due (h : Fell s t s') (hkept : s.timers.DownFirst)
    (hdue : s.timers.isAutoDownDue t = true) :
    hasEvent s'.sendTasks .fix = true ∨
      s'.currentTetromino.movedPos.y = s.currentTetromino.movedPos.y + 1 ∧
        .move .down ∈ s'.sendTasks := by
  cases h with
  | stayed _ _ hwhy =>
      rcases hwhy with hfix | hno
      · exact .inl hfix
      · exact absurd ⟨ready_pending_down hdue, hkept.allowed hdue⟩ hno
  | lowered hrow honce => exact .inr ⟨hrow, List.count_pos_iff.mp (by omega)⟩
  | dropped _ _ _ _ _ _ hfix => exact .inl hfix

end Tetris

end ProjectTetris

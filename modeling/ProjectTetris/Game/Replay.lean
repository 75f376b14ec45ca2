import ProjectTetris.Game.EngineInv

/-!
# The task log is a faithful account of the tick

A client never sees a `Tetris`; it sees the tasks. `View` is what those tasks
speak about (a board and, unless it has been fixed, a piece) and `View.apply` is
what one task means. The theorem of this file is that replaying the tasks of a tick
from the view before it gives the view after it.

Nothing here is translated from the source: `View` is the abstract level between
the engine, which writes the log, and the client, which reads it.
-/

namespace ProjectTetris

open Checked

/-- The part of a game the tasks of a tick describe; no piece between a fix and the next spawn. -/
structure View where
  board : Board
  piece : Option Tetromino

namespace View

/-- The meaning of one task. A move finds no piece after a fix and is then void. -/
def apply (v : View) : TaskType → Option View
  | .move moveType => some { v with piece := v.piece.map (·.moved moveType) }
  | .fix x y =>
      match v.piece with
      | none => some v
      | some p =>
          do some ⟨← Tetris.fixCells v.board { p with movedPos := ⟨x, y⟩ }.boardPositions, none⟩
  | .clearLine y => do some { v with board := ← v.board.clearRow? y }
  | .addLine holeX => do some { v with board := ← v.board.pushGarbage? holeX }
  | .gameOver => some v
  | .gameEnd _ => some v
  | .spawn => some v

/-- A whole log. -/
def replay (v : View) (tasks : List TaskType) : Option View := tasks.foldlM apply v

@[simp] theorem replay_nil (v : View) : v.replay [] = some v := rfl

@[simp] theorem replay_cons (v : View) (task : TaskType) (tasks : List TaskType) :
    v.replay (task :: tasks) = (v.apply task).bind (·.replay tasks) := by
  rw [replay, List.foldlM_cons]; rfl

theorem replay_append (v : View) (l₁ l₂ : List TaskType) :
    v.replay (l₁ ++ l₂) = (v.replay l₁).bind (·.replay l₂) := by
  rw [replay, List.foldlM_append]; rfl

end View

namespace Tetris

/-- What a player's state looks like to somebody who reads the tasks of the current tick. -/
def view (s : Tetris) : View where
  board := s.board
  piece := if hasEvent s.sendTasks .fix then none else some s.currentTetromino

/-- The tasks recorded so far, replayed from `v₀`, lead to the present view. -/
def Replays (v₀ : View) (s : Tetris) : Prop := v₀.replay s.sendTasks = some s.view

/-- Between ticks, when no task is recorded, the view is the board and the piece. -/
theorem replays_of_empty {s : Tetris} (h : s.sendTasks = []) :
    Replays ⟨s.board, some s.currentTetromino⟩ s := by
  simp [Replays, view, h]

/-! ## Clearing lines, replayed -/

theorem clearLineAt_replay {s s' : Tetris} {y : Nat} (h : s.clearLineAt y = some s') :
    ∃ new, s'.sendTasks = s.sendTasks ++ new ∧
      ∀ piece, (⟨s.board, piece⟩ : View).replay new = some ⟨s'.board, piece⟩ := by
  unfold clearLineAt at h
  cases hr : s.board.row? y with
  | none => rw [hr] at h; exact absurd h (by simp)
  | some r =>
      rw [hr, Option.bind_eq_bind, Option.bind_some] at h
      by_cases hfull : r.all id
      · rw [if_pos hfull] at h
        obtain ⟨c, hc, hs'⟩ := Option.bind_eq_some_iff.mp h
        injection hs' with hs'
        subst hs'
        exact ⟨[.clearLine y], rfl, fun piece => by simp [View.apply, hc]⟩
      · rw [if_neg hfull] at h
        injection h with h
        subst h
        exact ⟨[], by simp, fun piece => rfl⟩

theorem clearLoop_replay : ∀ (l : List Nat) {s s' : Tetris}, l.foldlM clearLineAt s = some s' →
    ∃ new, s'.sendTasks = s.sendTasks ++ new ∧
      ∀ piece, (⟨s.board, piece⟩ : View).replay new = some ⟨s'.board, piece⟩
  | [], s, s', h => by
      injection h with h
      subst h
      exact ⟨[], by simp, fun piece => rfl⟩
  | y :: rest, s, s', h => by
      rw [List.foldlM_cons] at h
      obtain ⟨mid, hmid, hrest⟩ := Option.bind_eq_some_iff.mp h
      obtain ⟨new₁, htasks₁, hreplay₁⟩ := clearLineAt_replay hmid
      obtain ⟨new₂, htasks₂, hreplay₂⟩ := clearLoop_replay rest hrest
      refine ⟨new₁ ++ new₂, by rw [htasks₂, htasks₁, List.append_assoc], fun piece => ?_⟩
      rw [View.replay_append, hreplay₁, Option.bind_some, hreplay₂]

/-! ## The steps of a tick, replayed -/

theorem replays_moved {v₀ : View} {s : Tetris} (h : Replays v₀ s) (m : EventType)
    (b : TetrisTimers) :
    Replays v₀ { s with
      currentTetromino := s.currentTetromino.moved m
      sendTasks := s.sendTasks ++ [.move m]
      timers := b } := by
  unfold Replays at h ⊢
  rw [View.replay_append, h, Option.bind_some]
  cases hf : hasEvent s.sendTasks .fix <;> simp [view, View.apply, hf, TaskType.eventType]

/--
A fix is replayed by the position the task carries, not by the moves before it:
a `DROP` records no moves at all.
-/
theorem replays_settled {v₀ : View} {s s' : Tetris} {t : Int} {q : Tetromino}
    {timers : TetrisTimers} (h : Replays v₀ s) (hnofix : hasEvent s.sendTasks .fix = false)
    (hq : Lands s.board s.currentTetromino q)
    (hs : Settled { s with
      currentTetromino := q
      sendTasks := s.sendTasks ++ [.fix q.movedPos.x q.movedPos.y]
      timers := timers } t s') : Replays v₀ s' := by
  have hfix' : hasEvent s'.sendTasks .fix = true := by
    rw [hs.hasEvent_fix]; simp [TaskType.eventType]
  obtain ⟨fixed, cleared, hfix, _, hclear, _, rfl⟩ := hs
  obtain ⟨new, htasks, hreplay⟩ := clearLoop_replay _ hclear
  dsimp only at hfix htasks hreplay
  -- the piece the log holds, moved to where the fix says, is the piece that was fixed
  have hpos : ({ s.currentTetromino with movedPos := ⟨q.movedPos.x, q.movedPos.y⟩ } : Tetromino) =
      q :=
    hq.shape.symm
  have hview : s.view = ⟨s.board, some s.currentTetromino⟩ := by simp [view, hnofix]
  have hafter : cleared.withVerdict.view = ⟨cleared.board, none⟩ := by
    simp [view, hfix']
  have hverdict : ∀ v : View,
      v.replay (if cleared.board.HiddenEmpty then [] else [.gameOver]) = some v := by
    intro v
    split <;> rfl
  rw [Replays, withVerdict_sendTasks, htasks, View.replay_append, View.replay_append,
    View.replay_append, h, hview, hafter]
  simp only [Option.bind_some, View.replay_cons, View.apply, hpos, hfix, View.replay_nil,
    Option.bind_eq_bind, hreplay, hverdict]

theorem replays_input {v₀ : View} {s s' : Tetris} {m : EventType} {t : Int} (h : Replays v₀ s)
    (honce : FixOnce t s) (ho : InputOutcome s m t s') : Replays v₀ s' := by
  cases ho with
  | idle => exact h
  | moved _ _ _ => exact replays_moved h m _
  | settled q hm ha hq hs =>
      refine replays_settled h ?_ hq hs
      -- a second fix would need an input that the first one disabled
      refine Bool.eq_false_iff.mpr fun hf => ?_
      obtain ⟨hdown, hdrop⟩ := honce hf
      rcases hm with rfl | rfl
      · rw [hdown] at ha; exact absurd ha (by decide)
      · rw [hdrop] at ha; exact absurd ha (by decide)

theorem replays_garbage {v₀ : View} {s s' : Tetris} {holeX : Nat} {goOn : Bool} (h : Replays v₀ s)
    (ho : GarbageOutcome s holeX s' goOn) : Replays v₀ s' := by
  unfold Replays at h ⊢
  cases ho with
  | toppedOut b hb _ =>
      rw [View.replay_append, h]
      simp [view, View.apply, hb, TaskType.eventType]
  | fits b hb _ _ =>
      rw [View.replay_append, h]
      simp [view, View.apply, hb, TaskType.eventType]
  | lifted b hb _ _ =>
      rw [View.replay_append, h]
      cases hf : hasEvent s.sendTasks .fix <;>
        simp [view, View.apply, hb, hf, TaskType.eventType]

end Tetris

end ProjectTetris

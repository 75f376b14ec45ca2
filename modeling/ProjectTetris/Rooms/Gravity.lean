import ProjectTetris.Game.Gravity
import ProjectTetris.Rooms.EngineSafe
import ProjectTetris.Rooms.SlotChanges

/-!
# Gravity in a room

The timers of a slot are set by the clock and by what its player does, in every kind of
room and over any number of games. `DownFirst` survives all of it, so nobody in a game can
keep a piece in the air by sending inputs.
-/

namespace ProjectTetris

open Checked

namespace TetrisRoom

/-- Nothing that happens to a slot moves its automatic down in front of its `DOWN`. -/
theorem downFirst_change {kind : RoomKind} {p q : Player} (h : SlotChange kind p q)
    (hp : p.tetris.timers.DownFirst) : q.tetris.timers.DownFirst := by
  cases h with
  | cleared _ now => exact TetrisTimers.downFirst_reset now
  | joined _ key now => exact TetrisTimers.downFirst_reset now
  | started _ type now => exact TetrisTimers.downFirst_reset now
  | reset _ now => exact TetrisTimers.downFirst_reset now
  | seated _ _ => exact hp
  | queued _ _ => exact hp
  | noted _ => exact hp
  | ticked _ t hin h => exact Tetris.downFirst_processTick hin hp h
  | attacked _ _ => exact hp
  | raised _ holes h => exact Tetris.downFirst_addGarbageLines hp holes h
  | judged _ _ =>
      rw [(judged_fields p).2.2, Tetris.withVerdict_timers]
      exact hp
  | told _ _ => exact hp
  | delivered l h =>
      rcases h with ⟨_, happ⟩ | ⟨_, rfl⟩
      · cases happ with
        | plain _ => exact hp
        | respawned => exact hp
      · exact hp
  | tidied env _ =>
      unfold tidy
      dsimp only
      split
      · exact hp
      · exact hp

/-- **Gravity**: the invariant of the timers, in every room. -/
theorem downFirst_reachable {r : TetrisRoom} (h : Reachable r) :
    ∀ p ∈ r.roomPlayers, p.tetris.timers.DownFirst :=
  slots_reachable (fun now => TetrisTimers.downFirst_reset now) (fun _ _ _ => downFirst_change) h

/--
**Gravity is never starved.**

Whatever inputs reach a player in the game, and whatever the time: a tick in which the
automatic down is due lowers the piece by one row or fixes it, and no tick lowers it by more
than one row unless the player drops it.
-/
theorem gravity_never_starved {r : TetrisRoom} (h : Reachable r) {p : Player}
    (hp : p ∈ r.roomPlayers) (hplay : p.roomPlayerState = .play) (inputs : List Int) (t : Int) :
    ∃ s', ({ p.tetris with inputTasks := inputs }).processTick t = some s' ∧
      Tetris.Fell { p.tetris with inputTasks := inputs } t s' ∧
      (p.tetris.timers.isAutoDownDue t = true →
        hasEvent s'.sendTasks .fix = true ∨
          s'.currentTetromino.movedPos.y = p.tetris.currentTetromino.movedPos.y + 1 ∧
            .move .down ∈ s'.sendTasks) := by
  have hok := roomOk_reachable h
  have hin := (hok.live hp hplay).valid.inBoard
  have htasks := (hok.slots p hp).fresh.tasks
  obtain ⟨s', hs', hfell⟩ := Tetris.processTick_fell (t := t)
    (s := { p.tetris with inputTasks := inputs }) hin htasks
  exact ⟨s', hs', hfell, fun hdue => hfell.of_due (downFirst_reachable h p hp) hdue⟩

/-- The guest of a game that has just started, in a tick long after that. -/
theorem gravity_never_starved_gameOfTwo : ∃ r p s', gameOfTwo 0 = some r ∧ p ∈ r.roomPlayers ∧
    p.roomPlayerState = .play ∧
    ({ p.tetris with inputTasks := [0, 0, 2] }).processTick 20000 = some s' ∧
    Tetris.Fell { p.tetris with inputTasks := [0, 0, 2] } 20000 s' ∧
    (p.tetris.timers.isAutoDownDue 20000 = true →
      hasEvent s'.sendTasks .fix = true ∨
        s'.currentTetromino.movedPos.y = p.tetris.currentTetromino.movedPos.y + 1 ∧
          .move .down ∈ s'.sendTasks) := by
  have hrun : (gameOfTwo 0).any (fun r => r.roomPlayers.any fun p => p.roomPlayerState = .play) =
      true := by decide +kernel
  cases hr : gameOfTwo 0 with
  | none => rw [hr] at hrun; exact absurd hrun (by decide)
  | some r =>
      rw [hr] at hrun
      simp only [Option.any_some, List.any_eq_true, decide_eq_true_eq] at hrun
      obtain ⟨p, hp, hplay⟩ := hrun
      obtain ⟨s', hs', hfell, hdue⟩ :=
        gravity_never_starved (gameOfTwo_reachable hr) hp hplay [0, 0, 2] 20000
      exact ⟨r, p, s', rfl, hp, hplay, hs', hfell, hdue⟩

end TetrisRoom

end ProjectTetris

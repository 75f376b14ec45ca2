import ProjectTetris.Rooms.Scenario

/-!
# The engine is safe

What the invariant of a room says about its games: a player who has not been
eliminated has a clean board with a piece on it that fits, and no board of the room,
an eliminated player's included, is ever read or written outside its array.
-/

namespace ProjectTetris

namespace TetrisRoom

/-- Whoever is in the game sits in an active slot of a room in which a game is on. -/
theorem RoomOk.live {r : TetrisRoom} (h : RoomOk r) {p : Player} (hp : p ∈ r.roomPlayers)
    (hplay : p.roomPlayerState = .play) : p.tetris.Playing := by
  have hok := h.slots p hp
  have hin : r.roomState = .play ∧ p.isActive = true := by
    refine Decidable.byContradiction fun hno => ?_
    rcases (hok.idle hno).1 with hs | hs <;> rw [hplay] at hs <;> exact absurd hs (by decide)
  exact (hok.inGame hin.1 hin.2).live hplay

/--
**The engine invariant.** Between two events of a game, everybody in `PLAY` has empty
hidden rows, no complete row, and a piece of four free cells inside the board; and no
event, whatever it is, makes any of the room's functions leave a board.
-/
theorem engine_invariant {r : TetrisRoom} (h : Reachable r) :
    (∀ p ∈ r.roomPlayers, p.roomPlayerState = .play →
      p.tetris.board.HiddenEmpty ∧ p.tetris.board.NoFullRow ∧
      p.tetris.currentTetromino.boardPositions.length = 4 ∧
      Tetris.InBoard p.tetris.currentTetromino ∧
      Tetris.Valid p.tetris.board p.tetris.currentTetromino) ∧
    ∀ (env : RoomEnv) (e : RoomEvent), env.Serves r e → ∃ r', r.step env e = some r' := by
  have hok := roomOk_reachable h
  refine ⟨fun p hp hplay => ?_, fun env e hserves => ?_⟩
  · have hlive := hok.live hp hplay
    refine ⟨hlive.hidden, hlive.noFullRow, Tetromino.boardPositions_length _, ?_, hlive.valid⟩
    intro pos hpos
    exact Board.inRange_of_cell? (hlive.valid pos hpos)
  · obtain ⟨r', hstep, _⟩ := step_ok hok hserves
    exact ⟨r', hstep⟩

/-! ## A game of two -/

def hostKey : SessionKey := ⟨0, 1, 1⟩

def guestKey : SessionKey := ⟨1, 2, 1⟩

def thirdKey : SessionKey := ⟨2, 3, 1⟩

/-- The guest joins, gets ready, and the host starts the game. -/
def startOfTwo : List (ModeState × RoomEvent) :=
  [(.lobby, taskOf guestKey .join), (.room, taskOf guestKey .ready),
    (.room, taskOf hostKey .start)]

/-- A tick in which the two players have each dropped their piece, with a garbage line due. -/
def dropRound (n : Nat) : List (ModeState × RoomEvent) :=
  [(.room, .input ⟨EventType.drop.toInt, 1, 1⟩), (.room, .input ⟨EventType.drop.toInt, 2, 1⟩),
    (.room, .tick (20000 * (n + 1)))]

/-- The game of the host and the guest after `n` such ticks. -/
def gameOfTwo (n : Nat) : Option TetrisRoom :=
  scenario [hostKey, guestKey] (scenarioRoom .two [hostKey, guestKey] hostKey)
    (startOfTwo ++ (List.range n).flatMap dropRound)

theorem gameOfTwo_reachable {n : Nat} {r : TetrisRoom} (h : gameOfTwo n = some r) : Reachable r :=
  scenario_reachable (by decide) (.created (scenarioRoom_created .two (by decide))) h

theorem engine_invariant_gameOfTwo : ∃ r, gameOfTwo 1 = some r ∧
    (∃ p ∈ r.roomPlayers, p.roomPlayerState = .play) ∧
    (∀ p ∈ r.roomPlayers, p.roomPlayerState = .play →
      p.tetris.board.HiddenEmpty ∧ p.tetris.board.NoFullRow ∧
      p.tetris.currentTetromino.boardPositions.length = 4 ∧
      Tetris.InBoard p.tetris.currentTetromino ∧
      Tetris.Valid p.tetris.board p.tetris.currentTetromino) ∧
    ∀ (env : RoomEnv) (e : RoomEvent), env.Serves r e → ∃ r', r.step env e = some r' := by
  have hrun : (gameOfTwo 1).any (fun r => r.roomPlayers.any fun p => p.roomPlayerState = .play) =
      true := by decide +kernel
  cases hr : gameOfTwo 1 with
  | none => rw [hr] at hrun; exact absurd hrun (by decide)
  | some r =>
      rw [hr] at hrun
      refine ⟨r, rfl, by simpa using hrun, engine_invariant (gameOfTwo_reachable hr)⟩

end TetrisRoom

end ProjectTetris

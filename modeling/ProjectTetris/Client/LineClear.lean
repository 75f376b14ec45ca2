import ProjectTetris.Client.Agreement
import ProjectTetris.Game.FullRows

/-!
# Clearing lines, on the server and on the client

`ClearLine` removes the full rows where it finds them, while it scans: every removal
rotates the rows above it down by one, so an index it reports is an index into the board
of that moment. The client removes what is reported, one row after the other.

What both of them compute is a filter: the rows that are not full, in their order, below
as many empty rows as were removed.
-/

namespace ProjectTetris

open Checked

/-! ## The client's turn -/

namespace Client

/-- A log of cleared lines, on a grid that shows the server's board. -/
theorem clearLines_replay (piece : Option ProjectTetris.Tetromino) :
    ∀ (ys : List Nat) {board board' : Board} {b : TetrisBoard}, blocksOf b.grid = board.rows →
      (⟨board, piece⟩ : View).replay (ys.map .clearLine) = some ⟨board', piece⟩ →
      ∃ b', ys.foldlM (fun b y => b.clearLines y) b = some b' ∧
        blocksOf b'.grid = board'.rows ∧ b'.currentTetromino = b.currentTetromino := by
  intro ys
  induction ys with
  | nil =>
      intro board board' b h hreplay
      injection hreplay with hreplay
      injection hreplay with hboard _
      exact ⟨b, rfl, hboard ▸ h, rfl⟩
  | cons y ys ih =>
      intro board board' b h hreplay
      rw [List.map_cons, View.replay_cons] at hreplay
      obtain ⟨mid, happly, hreplay⟩ := Option.bind_eq_some_iff.mp hreplay
      obtain ⟨board₁, hclear, happly⟩ := Option.bind_eq_some_iff.mp happly
      injection happly with happly
      subst happly
      obtain ⟨b₁, hb₁, h₁, hpiece₁⟩ := clearLines_agrees h hclear
      obtain ⟨b₂, hb₂, h₂, hpiece₂⟩ := ih h₁ hreplay
      refine ⟨b₂, ?_, h₂, hpiece₂.trans hpiece₁⟩
      rw [List.foldlM_cons, hb₁]
      exact hb₂

end Client

namespace Tetris

/--
**`ClearLine` is a filter, and the client can replay it.**

The new board is one empty row for every full row of the visible part, and below them the
other rows in their order; `ClearLine` reports as many rows as it removed, and a client
that removes the reported rows one by one, with an empty row put on top each time, turns
any grid that showed the old board into one that shows the new board.
-/
theorem clearLine_filters (s : Tetris) :
    ∃ s', s.clearLine = some s' ∧
      s'.board.rows = List.replicate s.board.fullRows.length emptyRow ++ keptRows s.board.rows ∧
      s.board.fullRows.length =
        ((s.board.rows.drop hiddenHeight).filter fun r => r.all id).length ∧
      s'.clearedLineCount = s.clearedLineCount + s.board.fullRows.length ∧
      s' = { s with
        board := s'.board, sendTasks := s'.sendTasks, clearedLineCount := s'.clearedLineCount } ∧
      ∃ ys : List Nat, ys.length = s.board.fullRows.length ∧
        s'.sendTasks = s.sendTasks ++ ys.map .clearLine ∧
        ∀ b : Client.TetrisBoard, Client.blocksOf b.grid = s.board.rows →
          ∃ b', ys.foldlM (fun b y => b.clearLines y) b = some b' ∧
            Client.blocksOf b'.grid = s'.board.rows ∧
            b'.currentTetromino = b.currentTetromino := by
  obtain ⟨s', hs', hcleared⟩ := clearLine_ok s
  obtain ⟨⟨k, hrows, hk, hcount⟩, htasks, hrest⟩ := hcleared
  have hb := s.board.height
  rw [List.take_of_length_le (Nat.le_of_eq hb)] at hrows hk
  rw [List.drop_of_length_le (Nat.le_of_eq hb), List.append_nil] at hrows
  have hlen := keptRows_length s.board
  have hkeq : k = s.board.fullRows.length := by omega
  subst hkeq
  refine ⟨s', hs', hrows, s.board.fullRows_length, hcount, hrest,
    s.board.fullRows, rfl, htasks, ?_⟩
  -- the log `ClearLine` appends is the list of full rows, and it replays
  obtain ⟨new, hnew, hreplay⟩ := clearLoop_replay _ hs'
  have hsame : new = s.board.fullRows.map .clearLine :=
    List.append_cancel_left (hnew.symm.trans htasks)
  subst hsame
  intro b hgrid
  exact Client.clearLines_replay none _ hgrid (hreplay none)

end Tetris

end ProjectTetris

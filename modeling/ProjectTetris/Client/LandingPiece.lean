import ProjectTetris.Client.Agreement

/-!
# The landing piece

The play screen shows where a hard drop would leave the piece. The server tests a row and
then moves into it; `make_landing_tetromino` looks one row ahead and stays where it is when
that row is taken. Both stop above the first row that does not fit.
-/

namespace ProjectTetris

open Checked

namespace Client

namespace TetrisBoard

/-- `self.grid[y][x]`. -/
def readCell (grid : List (List (Option ShapeKey))) (y x : Int) : Option (Option ShapeKey) := do
  let row ← grid[← pyIndex grid.length y]?
  row[← pyIndex row.length x]?

/-- The `for` over the blocks one row further down: whether one of them is out or taken. -/
def isBlocked (grid : List (List (Option ShapeKey))) : List Position → Option Bool
  | [] => some false
  | pos :: rest =>
      if pos.x < 0 ∨ pos.x ≥ boardCols ∨ pos.y < 0 ∨ pos.y ≥ boardRows then some true
      else do
        if (← readCell grid pos.y pos.x).isSome then some true else isBlocked grid rest

/-- The `while True`; running out of fuel would be the loop not ending. -/
def landingLoop (grid : List (List (Option ShapeKey))) : Nat → Tetromino → Option Tetromino
  | 0, _ => none
  | fuel + 1, landing => do
      let moved : Tetromino := { landing with y := landing.y + 1 }
      if ← isBlocked grid (← moved.blocks) then some landing else landingLoop grid fuel moved

def makeLandingTetromino (b : TetrisBoard) (fuel : Nat) : Option (Option Tetromino) :=
  match b.currentTetromino with
  | none => some none
  | some t => do some (some (← landingLoop b.grid fuel t))

end TetrisBoard

open TetrisBoard

/-! ## Reading the grid -/

/-- The client reads a block exactly where the server's board has one. -/
theorem readCell_agrees {grid : List (List (Option ShapeKey))} {board : Board} {y x : Int}
    (h : blocksOf grid = board.rows) (hr : Board.InRange y x) :
    ∃ c, readCell grid y x = some c ∧ board.cell? y x = some c.isSome := by
  obtain ⟨hy, hy', hx, hx'⟩ := hr
  have hheight : grid.length = totalHeight := by
    rw [← board.height, ← h, blocksOf, List.length_map]
  have hlt : y.toNat < grid.length := by omega
  have hrow : board.rows[y.toNat]? = some (grid[y.toNat].map Option.isSome) := by
    rw [← h, blocksOf, List.getElem?_map, List.getElem?_eq_getElem hlt]
    rfl
  have hwidth : (grid[y.toNat]).length = boardWidth := by
    rw [← board.width _ (List.mem_of_getElem? hrow), List.length_map]
  have hltx : x.toNat < (grid[y.toNat]).length := by omega
  refine ⟨grid[y.toNat][x.toNat], ?_, ?_⟩
  · simp only [readCell, pyIndex_of_nonneg hy (by omega : y < grid.length),
      Option.bind_eq_bind, Option.bind_some, List.getElem?_eq_getElem hlt,
      pyIndex_of_nonneg hx (by omega : x < (grid[y.toNat]).length),
      List.getElem?_eq_getElem hltx]
  · rw [Board.cell?_of_nonneg hy hx, Board.row?, hrow, Option.bind_some, List.getElem?_map,
      List.getElem?_eq_getElem hltx]
    rfl

/-- **The client's test is the server's**, on every list of cells. -/
theorem isBlocked_agrees {grid : List (List (Option ShapeKey))} {board : Board}
    (h : blocksOf grid = board.rows) : ∀ cells : List Position,
    isBlocked grid cells =
      some (decide (¬ ∀ p ∈ cells, board.cell? p.y p.x = some false)) := by
  intro cells
  induction cells with
  | nil => simp [isBlocked]
  | cons pos rest ih =>
      have hno : ¬ Board.InRange pos.y pos.x →
          ¬ ∀ p ∈ pos :: rest, board.cell? p.y p.x = some false :=
        fun hn hall => hn (Board.inRange_of_cell? (hall pos (List.mem_cons_self ..)))
      rw [isBlocked]
      by_cases hr : Board.InRange pos.y pos.x
      · obtain ⟨c, hread, hcell⟩ := readCell_agrees h hr
        have hin : ¬ (pos.x < 0 ∨ pos.x ≥ boardCols ∨ pos.y < 0 ∨ pos.y ≥ boardRows) := by
          unfold Board.InRange totalHeight boardHeight hiddenHeight boardWidth at hr
          unfold boardCols boardRows
          omega
        rw [if_neg hin, hread, Option.bind_eq_bind, Option.bind_some]
        cases c with
        | none => simp [ih, hcell]
        | some key => simp [hcell]
      · have hout : pos.x < 0 ∨ pos.x ≥ boardCols ∨ pos.y < 0 ∨ pos.y ≥ boardRows := by
          unfold Board.InRange totalHeight boardHeight hiddenHeight boardWidth at hr
          unfold boardCols boardRows
          omega
        rw [if_pos hout, decide_eq_true (hno hr)]

/-! ## The loop -/

/-- The client's candidate is the server's piece one row down. -/
theorem pieceOf_below (p : ProjectTetris.Tetromino) :
    ({ pieceOf p with y := (pieceOf p).y + 1 } : Tetromino) = pieceOf (p.shift 0 1) := by
  simp [pieceOf]

/-- One turn of the loop, in the server's terms. -/
theorem landingLoop_succ {grid : List (List (Option ShapeKey))} {board : Board}
    (h : blocksOf grid = board.rows) (fuel : Nat) (p : ProjectTetris.Tetromino) :
    landingLoop grid (fuel + 1) (pieceOf p) =
      if Tetris.Valid board (p.shift 0 1) then landingLoop grid fuel (pieceOf (p.shift 0 1))
      else some (pieceOf p) := by
  have hblocked : isBlocked grid (p.shift 0 1).boardPositions =
      some (decide (¬ Tetris.Valid board (p.shift 0 1))) := isBlocked_agrees h _
  rw [landingLoop, pieceOf_below, blocks_pieceOf]
  simp only [Option.bind_eq_bind, Option.bind_some, hblocked]
  by_cases hv : Tetris.Valid board (p.shift 0 1)
  · rw [if_pos hv, decide_eq_false (not_not_intro hv), if_neg Bool.false_ne_true]
  · rw [if_neg hv, decide_eq_true hv, if_pos rfl]

/--
The loop, started at the piece `p`, ends `k` rows further down if the `k` rows below `p`
are free and the one after them is not.
-/
theorem landingLoop_ok {grid : List (List (Option ShapeKey))} {board : Board}
    (h : blocksOf grid = board.rows) :
    ∀ (k fuel : Nat) {p : ProjectTetris.Tetromino}, k < fuel →
      (∀ i : Nat, i ≤ k → Tetris.Valid board (p.shift 0 i)) →
      ¬ Tetris.Valid board (p.shift 0 ((k + 1 : Nat) : Int)) →
      landingLoop grid fuel (pieceOf p) = some (pieceOf (p.shift 0 k)) := by
  intro k
  induction k with
  | zero =>
      intro fuel p hfuel _ hstop
      obtain ⟨fuel, rfl⟩ : ∃ n, fuel = n + 1 := ⟨fuel - 1, by omega⟩
      rw [landingLoop_succ h, if_neg (by simpa using hstop)]
      simp
  | succ k ih =>
      intro fuel p hfuel hfree hstop
      obtain ⟨fuel, rfl⟩ : ∃ n, fuel = n + 1 := ⟨fuel - 1, by omega⟩
      -- the rows below `p` are the rows below the piece one row down
      have hbelow : ∀ i : Nat, (p.shift 0 1).shift 0 i = p.shift 0 ((i + 1 : Nat) : Int) := by
        intro i
        rw [Tetromino.shift_shift, Int.add_zero, Int.add_comm]
        rfl
      have hone : Tetris.Valid board (p.shift 0 1) := hfree 1 (by omega)
      rw [landingLoop_succ h, if_pos hone, ih fuel (by omega), hbelow]
      · intro i hi
        rw [hbelow]
        exact hfree (i + 1) (by omega)
      · rw [hbelow]
        exact hstop

/-- A piece that is free `k` rows further down has not more than the board's rows below it. -/
theorem fall_lt {board : Board} {p : ProjectTetris.Tetromino} {k : Nat}
    (hv : Tetris.Valid board p) (hk : Tetris.Valid board (p.shift 0 k)) : k < boardRows := by
  obtain ⟨c, hc⟩ := p.exists_boardPosition
  have htop := (Board.inRange_of_cell? (hv c hc)).1
  have hbottom := (Board.inRange_of_cell? (hk _
    (Tetromino.mem_boardPositions_shift.mpr ⟨c, hc, rfl⟩))).2.1
  unfold totalHeight boardHeight hiddenHeight at hbottom
  unfold boardRows
  dsimp only at hbottom
  omega

/--
**The landing piece shows where a hard drop lands.**

On a client that shows the server's board and piece, `make_landing_tetromino` ends within
as many turns as the board has rows, and returns the position in which the server's `DROP`
fixes the piece: a position that fits, above one that does not.
-/
theorem landing_is_drop {s : ProjectTetris.Tetris} {b : TetrisBoard}
    (hgrid : blocksOf b.grid = s.board.rows)
    (hpiece : b.currentTetromino = some (pieceOf s.currentTetromino))
    (hv : Tetris.Valid s.board s.currentTetromino) :
    ∃ q : ProjectTetris.Tetromino,
      (∀ fuel, boardRows ≤ fuel → b.makeLandingTetromino fuel = some (some (pieceOf q))) ∧
      (∀ t, s.timers.isInputAllowed .drop t = true →
        ∃ s', s.processMoveInput .drop t = some (s', .fix) ∧ s'.currentTetromino = q ∧
          s'.board = s.board ∧
          s'.sendTasks = s.sendTasks ++ [.fix q.movedPos.x q.movedPos.y]) ∧
      Tetris.Valid s.board q ∧ ¬ Tetris.Valid s.board (q.shift 0 1) := by
  obtain ⟨q, hdrop, hlands⟩ := Tetris.moveDrop_land (b := s.board) hv.inBoard
  obtain ⟨hn, _⟩ | ⟨k, rfl, hfree, hstop⟩ := hlands
  · exact absurd hv hn
  refine ⟨_, ?_, ?_, hfree k (Nat.le_refl k), ?_⟩
  · intro fuel hfuel
    have hk := fall_lt hv (hfree k (Nat.le_refl k))
    rw [makeLandingTetromino, hpiece]
    dsimp only
    rw [landingLoop_ok hgrid k fuel (by omega) hfree hstop]
    rfl
  · intro t ha
    have hmove : s.processMoveInput .drop t = s.moveDrop t := by
      rw [Tetris.processMoveInput, if_pos ha]
    rw [hmove, Tetris.moveDrop, hdrop]
    exact ⟨_, rfl, rfl, rfl, rfl⟩
  · rwa [Tetromino.shift_shift, Int.add_zero, show (k : Int) + 1 = ((k + 1 : Nat) : Int) by omega]

/-- A new piece over an empty board. -/
theorem landing_is_drop_spawned :
    ∃ q : ProjectTetris.Tetromino,
      (∀ fuel, boardRows ≤ fuel →
        (⟨emptyGrid, some ⟨.I, 0, 0, 0⟩, none⟩ : TetrisBoard).makeLandingTetromino fuel =
          some (some (pieceOf q))) ∧
      (∀ t, (Tetris.init 0).timers.isInputAllowed .drop t = true →
        ∃ s', (Tetris.init 0).processMoveInput .drop t = some (s', .fix) ∧
          s'.currentTetromino = q ∧ s'.board = (Tetris.init 0).board ∧
          s'.sendTasks = (Tetris.init 0).sendTasks ++ [.fix q.movedPos.x q.movedPos.y]) ∧
      Tetris.Valid (Tetris.init 0).board q ∧
      ¬ Tetris.Valid (Tetris.init 0).board (q.shift 0 1) :=
  landing_is_drop blocksOf_emptyGrid rfl (by decide)

end Client

end ProjectTetris

import ProjectTetris.Client.TetrisBoard
import ProjectTetris.Game.Replay

/-!
# The client replays the log

A client board agrees with a `View` when its grid has a block exactly where the view's
board has one, and its piece is the view's piece. Every task of a tick, sent as its
packet, keeps the two in agreement; so does a spawn.
-/

namespace ProjectTetris

namespace Client

/-- The client's key for a type. -/
def keyOf : TetrominoType → ShapeKey
  | .I => .I | .J => .J | .L => .L | .O => .O | .S => .S | .T => .T | .Z => .Z

theorem shapesIndex_toIndex (type : TetrominoType) :
    shapesIndex type.toIndex = some (keyOf type) := by cases type <;> rfl

/-- **The two tables of shapes are the same.** -/
theorem shapes_keyOf (type : TetrominoType) : shapes (keyOf type) = some (tetrominos type) := by
  cases type <;> rfl

/-- The client's piece for a piece of the server. -/
def pieceOf (t : ProjectTetris.Tetromino) : Tetromino where
  shapeKey := keyOf t.type
  x := t.movedPos.x
  y := t.movedPos.y
  rotation := t.shapeIndex

theorem blocks_pieceOf (t : ProjectTetris.Tetromino) :
    (pieceOf t).blocks = some t.boardPositions := by
  have hlt := (List.getElem?_eq_some_iff.mp t.shape).1
  simp only [Tetromino.blocks, pieceOf, shapes_keyOf, Option.bind_eq_bind, Option.bind_some,
    pyIndex_natCast hlt, t.shape, ProjectTetris.Tetromino.boardPositions, Option.some.injEq]
  refine List.map_congr_left fun d _ => ?_
  rw [Int.add_comm, Int.add_comm t.movedPos.y]

theorem rotated_pieceOf (t : ProjectTetris.Tetromino) :
    (pieceOf t).rotated 1 = some (pieceOf t.rotated) := by
  have hlt := (List.getElem?_eq_some_iff.mp t.shape).1
  simp only [Tetromino.rotated, pieceOf, shapes_keyOf, Option.bind_eq_bind, Option.bind_some,
    ProjectTetris.Tetromino.rotated, ProjectTetris.Tetromino.nextShapeIndex, Option.some.injEq,
    Tetromino.mk.injEq, true_and]
  split
  · rename_i hnext
    exact Int.emod_eq_of_lt (by omega) (by omega)
  · have hlast : t.shapeIndex + 1 = (tetrominos t.type).length := by omega
    rw [show (t.shapeIndex : Int) + 1 = ((tetrominos t.type).length : Int) by omega]
    exact Int.emod_self

/-- The server's rows, as the client's grid shows them. -/
def blocksOf (grid : List (List (Option ShapeKey))) : List (List Bool) :=
  grid.map fun row => row.map Option.isSome

theorem blocksOf_emptyGrid : blocksOf emptyGrid = Board.empty.rows := by decide

/-- The client shows what the view says. -/
structure Agrees (v : View) (b : TetrisBoard) : Prop where
  grid : blocksOf b.grid = v.board.rows
  piece : b.currentTetromino = v.piece.map pieceOf

variable {v v' : View} {b : TetrisBoard}

theorem Agrees.height (h : Agrees v b) : b.grid.length = totalHeight := by
  rw [← v.board.height, ← h.grid, blocksOf, List.length_map]

/-! ## Fixing a piece -/

/-- Writing one block. -/
theorem setCell_agrees {grid : List (List (Option ShapeKey))} {board board' : Board} {y x : Int}
    {key : ShapeKey} (h : blocksOf grid = board.rows) (hfill : board.fill? y x = some board') :
    ∃ grid', TetrisBoard.setCell grid y x (some key) = some grid' ∧
    blocksOf grid' = board'.rows := by
  obtain ⟨hy, hy', hx, hx'⟩ := Board.fill?_range hfill
  have hheight : grid.length = totalHeight := by
    rw [← board.height, ← h, blocksOf, List.length_map]
  have hlt : y.toNat < grid.length := by omega
  have hrow : board.rows[y.toNat]? = some (grid[y.toNat].map Option.isSome) := by
    rw [← h, blocksOf, List.getElem?_map, List.getElem?_eq_getElem hlt]
    rfl
  have hwidth : (grid[y.toNat]).length = boardWidth := by
    rw [← board.width _ (List.mem_of_getElem? hrow), List.length_map]
  refine ⟨grid.set y.toNat ((grid[y.toNat]).set x.toNat (some key)), ?_, ?_⟩
  · simp only [TetrisBoard.setCell, pyIndex_of_nonneg hy (by omega : y < grid.length),
      Option.bind_eq_bind, Option.bind_some, List.getElem?_eq_getElem hlt,
      pyIndex_of_nonneg hx (by omega : x < (grid[y.toNat]).length)]
  · have hrows : board'.rows = board.rows.modify y.toNat (·.set x.toNat true) := by
      unfold Board.fill? at hfill
      rw [if_pos ⟨hy, hy', hx, hx'⟩] at hfill
      injection hfill with hfill
      rw [← hfill]
    rw [hrows, ← h, blocksOf, blocksOf, List.map_set, List.map_set]
    refine List.ext_getElem? fun i => ?_
    rw [List.getElem?_set, List.getElem?_modify, List.getElem?_map]
    by_cases hi : y.toNat = i
    · subst hi
      simp [hlt]
    · simp [hi]

theorem fixBlocks_agrees {key : ShapeKey} : ∀ {cells : List Position}
    {grid : List (List (Option ShapeKey))} {board board' : Board}, blocksOf grid = board.rows →
    Tetris.fixCells board cells = some board' →
    ∃ grid', TetrisBoard.fixBlocks key grid cells = some grid' ∧ blocksOf grid' = board'.rows
  | [], grid, board, board', h, hfix => by
      injection hfix with hfix
      exact ⟨grid, rfl, hfix ▸ h⟩
  | pos :: rest, grid, board, board', h, hfix => by
      obtain ⟨mid, hfill, hrest⟩ := Option.bind_eq_some_iff.mp hfix
      obtain ⟨grid₁, hset, h₁⟩ := @setCell_agrees _ _ _ _ _ key h hfill
      obtain ⟨grid₂, hloop, h₂⟩ := @fixBlocks_agrees key _ _ _ _ h₁ hrest
      refine ⟨grid₂, ?_, h₂⟩
      rw [TetrisBoard.fixBlocks, List.foldlM_cons, hset]
      exact hloop

/-! ## Clearing a line -/

/-- Removing a row and putting an empty one on top does to the grid what it does to the board. -/
theorem clearLines_agrees {board board' : Board} {y : Nat} (h : blocksOf b.grid = board.rows)
    (hclear : board.clearRow? y = some board') :
    ∃ b', b.clearLines y = some b' ∧ blocksOf b'.grid = board'.rows ∧
      b'.currentTetromino = b.currentTetromino := by
  have hheight : b.grid.length = totalHeight := by
    rw [← board.height, ← h, blocksOf, List.length_map]
  have hy : y < b.grid.length := by
    rw [hheight]
    unfold Board.clearRow? at hclear
    split at hclear
    · assumption
    · exact absurd hclear (by simp)
  refine ⟨{ b with grid := emptyRow :: b.grid.eraseIdx y }, ?_, ?_, rfl⟩
  · rw [TetrisBoard.clearLines, pyIndex_natCast hy]
    rfl
  · rw [Board.clearRow?_rows hclear, ← h, blocksOf, blocksOf, List.map_cons,
      List.eraseIdx_eq_take_drop_succ, List.eraseIdx_eq_take_drop_succ, List.map_append,
      List.map_take, List.map_drop]
    rfl

/-! ## One packet -/

/-- The tasks a player's own game records, and the packets for them. -/
inductive PacketOf (id : Int) : TaskType → S2CPacket → Prop
  | move (m : EventType) : PacketOf id (.move m) (.move id m.toInt)
  | fix (x y : Int) : PacketOf id (.fix x y) (.fix id x y)
  | clearLine (y : Nat) (combo score : Int) :
      PacketOf id (.clearLine y) (.clearLine id y combo score)
  | addLine (holeX : Nat) : PacketOf id (.addLine holeX) (.addLine id holeX)
  | gameOver : PacketOf id .gameOver (.gameOver id)

theorem PacketOf.ingameId {id : Int} {task : TaskType} {packet : S2CPacket}
    (h : PacketOf id task packet) : packet.ingameId = some id := by cases h <;> rfl

/-- A move, of a piece the client has. -/
theorem handleMove_pieceOf {t : ProjectTetris.Tetromino}
    (h : b.currentTetromino = some (pieceOf t)) (m : EventType) :
    b.handleMove m.toInt = some { b with currentTetromino := some (pieceOf (t.moved m)) } := by
  have hshift : ∀ dx dy, some (b.move dx dy) =
      some { b with currentTetromino := some (pieceOf (t.shift dx dy)) } := by
    intro dx dy
    rw [TetrisBoard.move, h]
    rfl
  have hsame : some b = some { b with currentTetromino := some (pieceOf t) } := by rw [← h]
  rw [TetrisBoard.handleMove, h]
  cases m with
  | left => exact hshift (-1) 0
  | right => exact hshift 1 0
  | down => exact hshift 0 1
  | up => exact hshift 0 (-1)
  | rotate =>
      show b.rotate 1 = _
      rw [TetrisBoard.rotate, h]
      dsimp only
      rw [rotated_pieceOf]
      rfl
  | _ => exact hsame

/-- **Every task, sent as its packet, does to the client what it does to the view.** -/
theorem agrees_apply {id : Int} {task : TaskType} {packet : S2CPacket} (h : Agrees v b)
    (hp : PacketOf id task packet) (happly : v.apply task = some v') :
    ∃ b', b.handlePacket packet = some b' ∧ Agrees v' b' := by
  have hheight := h.height
  cases hp with
  | move m =>
      injection happly with happly
      subst happly
      cases hpiece : v.piece with
      | none =>
          -- the piece has been fixed, and the client has none either
          refine ⟨b, ?_, h.grid, by rw [h.piece, hpiece]; rfl⟩
          rw [TetrisBoard.handlePacket, TetrisBoard.handleMove, h.piece, hpiece]
          rfl
      | some t => exact ⟨_, handleMove_pieceOf (by rw [h.piece, hpiece]; rfl) m, h.grid, rfl⟩
  | fix x y =>
      cases hpiece : v.piece with
      | none =>
          rw [View.apply, hpiece] at happly
          injection happly with happly
          subst happly
          refine ⟨b, ?_, h⟩
          rw [TetrisBoard.handlePacket, TetrisBoard.fix, h.piece, hpiece]
          rfl
      | some t =>
          rw [View.apply, hpiece] at happly
          obtain ⟨board, hfix, happly⟩ := Option.bind_eq_some_iff.mp happly
          injection happly with happly
          subst happly
          obtain ⟨grid, hgrid, hrows⟩ := @fixBlocks_agrees (keyOf t.type) _ _ _ _ h.grid hfix
          refine ⟨{ b with grid := grid, currentTetromino := none }, ?_, hrows, rfl⟩
          have hblocks := blocks_pieceOf { t with movedPos := ⟨x, y⟩ }
          rw [TetrisBoard.handlePacket, TetrisBoard.fix, h.piece, hpiece]
          show ((pieceOf { t with movedPos := ⟨x, y⟩ }).blocks.bind fun blocks =>
            (TetrisBoard.fixBlocks (keyOf t.type) b.grid blocks).bind _) = _
          rw [hblocks, Option.bind_some, hgrid]
          rfl
  | clearLine y combo score =>
      obtain ⟨board, hclear, happly⟩ := Option.bind_eq_some_iff.mp happly
      injection happly with happly
      subst happly
      obtain ⟨b', hb', hgrid, hpiece⟩ := clearLines_agrees h.grid hclear
      exact ⟨b', hb', hgrid, hpiece.trans h.piece⟩
  | addLine holeX =>
      obtain ⟨board, hpush, happly⟩ := Option.bind_eq_some_iff.mp happly
      injection happly with happly
      subst happly
      have hx : holeX < (List.replicate boardCols (some ShapeKey.G)).length := by
        unfold Board.pushGarbage? at hpush
        split at hpush
        · assumption
        · exact absurd hpush (by simp)
      let grid :=
        (b.grid ++ [(List.replicate boardCols (some ShapeKey.G)).set holeX none]).eraseIdx 0
      refine ⟨{ b with grid := grid }, ?_, ?_, h.piece⟩
      · rw [TetrisBoard.handlePacket, TetrisBoard.addLine]
        rw [pyIndex_natCast hx, show (0 : Int) = ((0 : Nat) : Int) from rfl,
          pyIndex_natCast (Nat.succ_pos _)]
        rfl
      · rw [Board.pushGarbage?_rows hpush, ← h.grid]
        dsimp only [grid]
        obtain ⟨first, rest, hrest⟩ : ∃ first rest, b.grid = first :: rest := by
          cases hb : b.grid with
          | nil => rw [hb] at hheight; exact absurd hheight (by decide)
          | cons first rest => exact ⟨first, rest, rfl⟩
        rw [hrest, blocksOf, blocksOf, List.cons_append, List.eraseIdx_zero, List.tail_cons,
          List.map_append, List.map_singleton, List.map_set, List.map_replicate]
        rfl
  | gameOver =>
      injection happly with happly
      exact ⟨b, rfl, happly ▸ h⟩

/-- **A whole log.** -/
theorem agrees_replay (id : Int) (packetOf : TaskType → Option S2CPacket) :
    ∀ {tasks : List TaskType} {v v' : View} {b : TetrisBoard}, Agrees v b →
      (∀ task ∈ tasks, ∃ packet, packetOf task = some packet ∧ PacketOf id task packet) →
      v.replay tasks = some v' →
      ∃ b', b.handlePackets (tasks.filterMap packetOf) = some b' ∧ Agrees v' b'
  | [], v, v', b, h, _, hreplay => by
      injection hreplay with hreplay
      exact ⟨b, rfl, hreplay ▸ h⟩
  | task :: tasks, v, v', b, h, hall, hreplay => by
      rw [View.replay_cons] at hreplay
      obtain ⟨mid, happly, hreplay⟩ := Option.bind_eq_some_iff.mp hreplay
      obtain ⟨packet, hpacket, hp⟩ := hall task (List.mem_cons_self ..)
      obtain ⟨b₁, hb₁, h₁⟩ := agrees_apply h hp happly
      obtain ⟨b₂, hb₂, h₂⟩ :=
        agrees_replay id packetOf h₁ (fun t ht => hall t (List.mem_cons_of_mem _ ht)) hreplay
      refine ⟨b₂, ?_, h₂⟩
      rw [List.filterMap_cons_some hpacket, TetrisBoard.handlePackets_cons, hb₁,
        Option.bind_some, hb₂]

/-- **A spawn gives the client the piece the server has.** -/
theorem agrees_spawn {board : Board} (id : Int) (type next : TetrominoType) (pos : Position)
    (h : blocksOf b.grid = board.rows) :
    ∃ b', b.handlePacket (.spawn id type.toIndex next.toIndex pos.x pos.y) = some b' ∧
      Agrees ⟨board, some (.spawn type pos)⟩ b' := by
  refine ⟨{ b with
    currentTetromino := some (pieceOf (.spawn type pos))
    nextTetrominoShape := some (keyOf next) }, ?_, h, rfl⟩
  rw [TetrisBoard.handlePacket, shapesIndex_toIndex, shapesIndex_toIndex]
  rfl

end Client

end ProjectTetris

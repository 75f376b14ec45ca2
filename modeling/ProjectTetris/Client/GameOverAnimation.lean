import Mathlib.Algebra.Order.Archimedean.Basic
import Mathlib.Tactic.Linarith
import ProjectTetris.Client.GameOverLast

/-!
# The game-over animation

`find_anim_start_line` looks for the lowest line with a block that is not garbage, and
`animate_gameover` turns the lines from there upwards to garbage, one at a time, until it
comes to a line without blocks. Nothing but such a line ends it: the number of the line is
lowered without a look at it, and below zero Python counts from the end of the grid. Times
are in milliseconds and need not be whole; rational ones stand for the floating point.

A hidden row is not always free when a player is out. A long piece that is fixed upright on
a full stack ends in row 1, and the line of garbage of the same tick lifts it to row 0.
-/

namespace ProjectTetris

namespace Client

/-- Not `None`, and not `'G'` either. -/
def isColoured (c : Option ShapeKey) : Bool := c ≠ none && c ≠ some .G

/-- The cells `grid[line][0]` to `grid[line][BOARD_COLS - 1]`. -/
def readRow (grid : List (List (Option ShapeKey))) (line : Int) :
    Option (List (Option ShapeKey)) := do
  let row ← grid[← pyIndex grid.length line]?
  if boardCols ≤ row.length then some (row.take boardCols) else none

/-- The loop of `find_anim_start_line`, from a line upwards. -/
def findAnimStartLine (grid : List (List (Option ShapeKey))) : Nat → Option Nat
  | 0 => do
      let _ ← readRow grid 0
      some 0
  | line + 1 => do
      let row ← readRow grid ((line + 1 : Nat) : Int)
      if row.any isColoured then some (line + 1) else findAnimStartLine grid line

/-- `frame_time`: the loop updates when more than this has passed. -/
def frameTimeMs : ℚ := 1000 / 60

/-- What the animation works on. -/
structure GameOverAnimation where
  grid : List (List (Option ShapeKey))
  animElapsedMs : ℚ
  animTargetLine : Int
  /-- The lines it has looked at, the last one first. -/
  lines : List Int

namespace GameOverAnimation

/-- The cell after the animation has passed it. -/
def recolour (c : Option ShapeKey) : Option ShapeKey := c.map fun _ => .G

/-- `animate_gameover`, and whether it is done. -/
def animateGameover (a : GameOverAnimation) (dtMs : ℚ) : Option (GameOverAnimation × Bool) :=
  let elapsed := a.animElapsedMs + dtMs
  if elapsed > 100 then do
    let i ← pyIndex a.grid.length a.animTargetLine
    let row ← readRow a.grid a.animTargetLine
    some
      ({ grid := a.grid.set i (row.map recolour)
         animElapsedMs := elapsed - 100
         animTargetLine := a.animTargetLine - 1
         lines := a.animTargetLine :: a.lines },
        row.all (· = none))
  else some ({ a with animElapsedMs := elapsed }, false)

/-- At most `n` frames of these times, until it is done. -/
def run : Nat → (Nat → ℚ) → GameOverAnimation → Option (GameOverAnimation × Bool)
  | 0, _, a => some (a, false)
  | n + 1, dts, a => do
      let (a', done) ← a.animateGameover (dts 0)
      if done then some (a', true) else run n (fun k => dts (k + 1)) a'

end GameOverAnimation

/-- `process_gameover`: the animation of this grid is about to start. -/
def processGameover (grid : List (List (Option ShapeKey))) (animElapsedMs : ℚ) :
    Option GameOverAnimation := do
  let start ← findAnimStartLine grid (boardRows - 1)
  some ⟨grid, animElapsedMs, start, []⟩

/--
With frames of these times, the animation comes to its end, has looked at no line outside
the board and none below the one it has started with, and has left those as they were.
-/
def AnimationFinishes (grid : List (List (Option ShapeKey))) (animElapsedMs : ℚ)
    (dts : Nat → ℚ) : Prop :=
  ∃ a n a', processGameover grid animElapsedMs = some a ∧
    GameOverAnimation.run n dts a = some (a', true) ∧
    (∀ line ∈ a'.lines, 0 ≤ line ∧ line ≤ a.animTargetLine ∧ line < boardRows) ∧
    ∀ y : Nat, a.animTargetLine < y → a'.grid[y]? = grid[y]?

def RowEmpty (grid : List (List (Option ShapeKey))) (y : Nat) : Prop :=
  ∃ row, grid[y]? = some row ∧ ∀ c ∈ row, c = none

def RowColoured (grid : List (List (Option ShapeKey))) (y : Nat) : Prop :=
  ∃ row, grid[y]? = some row ∧ ∃ c ∈ row, isColoured c = true

/-- The top row is without blocks, or another row that has a coloured block somewhere below it. -/
def HasFreeRow (grid : List (List (Option ShapeKey))) : Prop :=
  ∃ y, RowEmpty grid y ∧ (y = 0 ∨ ∃ y', y < y' ∧ RowColoured grid y')

/-! ## The grid keeps its size -/

structure Shaped (grid : List (List (Option ShapeKey))) : Prop where
  height : grid.length = boardRows
  width : ∀ row ∈ grid, row.length = boardCols

variable {grid grid' : List (List (Option ShapeKey))} {b b' : TetrisBoard}

theorem shaped_emptyGrid : Shaped emptyGrid := ⟨by decide, by decide⟩

/-- A row takes the place of another one. -/
theorem Shaped.set (h : Shaped grid) (i : Nat) {row : List (Option ShapeKey)}
    (hrow : row.length = boardCols) :
    Shaped (grid.set i row) := by
  refine ⟨by rw [List.length_set, h.height], fun row' hmem => ?_⟩
  rcases List.mem_or_eq_of_mem_set hmem with hmem | rfl
  · exact h.width row' hmem
  · exact hrow

theorem Shaped.setCell (h : Shaped grid) {y x : Int} {value : Option ShapeKey}
    (hset : TetrisBoard.setCell grid y x value = some grid') : Shaped grid' := by
  obtain ⟨i, _, hset⟩ := Option.bind_eq_some_iff.mp hset
  obtain ⟨row, hrow, hset⟩ := Option.bind_eq_some_iff.mp hset
  obtain ⟨j, _, hset⟩ := Option.bind_eq_some_iff.mp hset
  cases hset
  exact h.set i (by rw [List.length_set, h.width row (List.mem_of_getElem? hrow)])

theorem Shaped.fixBlocks {key : ShapeKey} :
    ∀ {cells : List Position} {grid grid' : List (List (Option ShapeKey))},
    Shaped grid → TetrisBoard.fixBlocks key grid cells = some grid' → Shaped grid'
  | [], _, _, h, hfix => by
      cases hfix
      exact h
  | c :: cells, _, _, h, hfix => by
      rw [TetrisBoard.fixBlocks, List.foldlM_cons] at hfix
      obtain ⟨grid₁, hset, hfix⟩ := Option.bind_eq_some_iff.mp hfix
      exact Shaped.fixBlocks (h.setCell hset) hfix

/-- The board handles one row for another. -/
theorem Shaped.eraseIdx {i : Nat} (hheight : grid.length = boardRows + 1)
    (hwidth : ∀ row ∈ grid, row.length = boardCols) (hi : i < boardRows + 1) :
    Shaped (grid.eraseIdx i) :=
  ⟨by rw [List.length_eraseIdx_of_lt (by omega), hheight]; rfl,
    fun row hmem => hwidth row (List.mem_of_mem_eraseIdx hmem)⟩

theorem shaped_handlePacket (h : Shaped b.grid) {packet : S2CPacket}
    (hpacket : b.handlePacket packet = some b') :
    Shaped b'.grid := by
  cases packet with
  | move id moveType =>
      rw [TetrisBoard.handlePacket, TetrisBoard.handleMove] at hpacket
      have hrotate : ∀ {b' : TetrisBoard}, b.rotate 1 = some b' → b'.grid = b.grid := by
        intro b' hr
        rw [TetrisBoard.rotate] at hr
        split at hr
        · cases hr
          rfl
        · obtain ⟨t, _, hr⟩ := Option.bind_eq_some_iff.mp hr
          cases hr
          rfl
      split at hpacket
      · cases hpacket
        exact h
      · split_ifs at hpacket
        all_goals first
          | rw [hrotate hpacket]; exact h
          | cases hpacket; exact h
  | spawn id type next x y =>
      obtain ⟨key, _, hpacket⟩ := Option.bind_eq_some_iff.mp hpacket
      obtain ⟨nextKey, _, hpacket⟩ := Option.bind_eq_some_iff.mp hpacket
      cases hpacket
      exact h
  | fix id x y =>
      rw [TetrisBoard.handlePacket, TetrisBoard.fix] at hpacket
      split at hpacket
      · cases hpacket
        exact h
      · obtain ⟨blocks, _, hpacket⟩ := Option.bind_eq_some_iff.mp hpacket
        obtain ⟨grid', hfix, hpacket⟩ := Option.bind_eq_some_iff.mp hpacket
        cases hpacket
        exact h.fixBlocks hfix
  | clearLine id line score combo =>
      obtain ⟨i, hi, hpacket⟩ := Option.bind_eq_some_iff.mp hpacket
      cases hpacket
      have hlt : i < b.grid.length := by
        unfold pyIndex at hi
        split_ifs at hi <;> cases hi <;> omega
      refine ⟨?_, fun row hmem => ?_⟩
      -- a row goes and an empty one comes in at the top
      · show (emptyRow :: b.grid.eraseIdx i).length = boardRows
        rw [List.length_cons, List.length_eraseIdx_of_lt hlt, h.height]
        rfl
      · rcases List.mem_cons.mp hmem with rfl | hmem
        · rfl
        · exact h.width row (List.mem_of_mem_eraseIdx hmem)
  | addLine id holeX =>
      obtain ⟨j, _, hpacket⟩ := Option.bind_eq_some_iff.mp hpacket
      obtain ⟨i, hi, hpacket⟩ := Option.bind_eq_some_iff.mp hpacket
      cases hpacket
      -- a row comes in at the bottom and the first one goes
      refine Shaped.eraseIdx (by rw [List.length_append, h.height]; rfl) (fun row hmem => ?_) ?_
      · rcases List.mem_append.mp hmem with hmem | hmem
        · exact h.width row hmem
        · rw [List.mem_singleton.mp hmem, List.length_set, List.length_replicate]
      · rw [h.height, pyIndex_of_nonneg (by decide) (by decide)] at hi
        cases hi
        decide
  | _ =>
      cases hpacket
      exact h

theorem shaped_handlePackets : ∀ {packets : List S2CPacket} {b b' : TetrisBoard}, Shaped b.grid →
    b.handlePackets packets = some b' → Shaped b'.grid
  | [], _, _, h, hb => by
      cases hb
      exact h
  | packet :: rest, _, _, h, hb => by
      rw [TetrisBoard.handlePackets_cons] at hb
      obtain ⟨b₁, hpacket, hb⟩ := Option.bind_eq_some_iff.mp hb
      exact shaped_handlePackets (shaped_handlePacket h hpacket) hb

/-! ## Where the animation starts -/

theorem Shaped.row (h : Shaped grid) {y : Nat} (hy : y < boardRows) :
    ∃ row, grid[y]? = some row ∧ readRow grid y = some row ∧ row.length = boardCols := by
  have hlt : y < grid.length := by rw [h.height]; exact hy
  have hwidth := h.width _ (List.getElem_mem hlt)
  refine ⟨grid[y], List.getElem?_eq_getElem hlt, ?_, hwidth⟩
  simp only [readRow, pyIndex_natCast hlt, List.getElem?_eq_getElem hlt, Option.bind_eq_bind,
    Option.bind_some]
  rw [if_pos (Nat.le_of_eq hwidth.symm), List.take_of_length_le (Nat.le_of_eq hwidth)]

/-- The start has a coloured block or is the top, and there is none below it. -/
theorem findAnimStartLine_spec (h : Shaped grid) : ∀ line : Nat, line < boardRows →
    ∃ start, findAnimStartLine grid line = some start ∧ start ≤ line ∧
      (start = 0 ∨ RowColoured grid start) ∧
      ∀ y, start < y → y ≤ line → ¬ RowColoured grid y
  | 0, hline => by
      obtain ⟨row, _, hread, _⟩ := h.row hline
      refine ⟨0, ?_, Nat.le_refl _, .inl rfl, fun y hy hle => absurd hle (by omega)⟩
      simp only [findAnimStartLine]
      rw [show readRow grid 0 = some row from hread]
      rfl
  | line + 1, hline => by
      obtain ⟨row, hrow, hread, _⟩ := h.row hline
      simp only [findAnimStartLine, hread, Option.bind_eq_bind, Option.bind_some]
      split
      · rename_i hany
        obtain ⟨c, hc, hcoloured⟩ := List.any_eq_true.mp hany
        exact ⟨line + 1, rfl, Nat.le_refl _, .inr ⟨row, hrow, c, hc, hcoloured⟩,
          fun y hy hle => absurd hle (by omega)⟩
      · rename_i hany
        obtain ⟨start, hstart, hle, hat, hbelow⟩ := findAnimStartLine_spec h line (by omega)
        refine ⟨start, hstart, Nat.le_succ_of_le hle, hat, fun y hy hy' => ?_⟩
        rcases Nat.lt_or_eq_of_le hy' with hlt | rfl
        · exact hbelow y hy (by omega)
        · rintro ⟨row', hrow', c, hc, hcoloured⟩
          rw [hrow] at hrow'
          cases hrow'
          exact hany (List.any_eq_true.mpr ⟨c, hc, hcoloured⟩)

theorem not_coloured_of_empty {y : Nat} (h : RowEmpty grid y) : ¬ RowColoured grid y := by
  rintro ⟨row', hrow', c, hc, hcoloured⟩
  obtain ⟨row, hrow, hnone⟩ := h
  rw [hrow] at hrow'
  cases hrow'
  rw [hnone c hc] at hcoloured
  cases hcoloured

/-- A free row is one that the animation comes to. -/
theorem hasFreeRow_iff {start : Nat} (hstart : start = 0 ∨ RowColoured grid start)
    (hbelow : ∀ y, start < y → ¬ RowColoured grid y) :
    HasFreeRow grid ↔ ∃ y ≤ start, RowEmpty grid y := by
  constructor
  · rintro ⟨y, hempty, rfl | ⟨y', hlt, hcoloured⟩⟩
    · exact ⟨0, Nat.zero_le _, hempty⟩
    · have hle : y' ≤ start := Nat.not_lt.mp fun hlt' => hbelow y' hlt' hcoloured
      exact ⟨y, by omega, hempty⟩
  · rintro ⟨y, hle, hempty⟩
    rcases Nat.lt_or_eq_of_le hle with hlt | rfl
    · rcases hstart with rfl | hcoloured
      · exact absurd hlt (Nat.not_lt_zero y)
      · exact ⟨y, hempty, .inr ⟨start, hlt, hcoloured⟩⟩
    · exact ⟨y, hempty, .inl (hstart.resolve_right (not_coloured_of_empty hempty))⟩

/-! ## Frame by frame -/

namespace GameOverAnimation

theorem frameTimeMs_pos : 0 < frameTimeMs := by
  rw [frameTimeMs]
  norm_num

variable {a a' : GameOverAnimation} {dt : ℚ} {dts : Nat → ℚ} {done : Bool}

/-- A frame that looks at a line of the board. -/
theorem animateGameover_line (h : Shaped a.grid) {y : Nat} (hline : a.animTargetLine = y)
    (hy : y < boardRows) (hdue : a.animElapsedMs + dt > 100) :
    ∃ row, a.grid[y]? = some row ∧ row.length = boardCols ∧
    a.animateGameover dt = some
      (⟨a.grid.set y (row.map recolour), a.animElapsedMs + dt - 100, (y : Int) - 1, y :: a.lines⟩,
        row.all (· = none)) := by
  obtain ⟨row, hrow, hread, hwidth⟩ := h.row hy
  refine ⟨row, hrow, hwidth, ?_⟩
  have hlt : y < a.grid.length := by rw [h.height]; exact hy
  simp only [animateGameover, hline, if_pos hdue, pyIndex_natCast hlt, hread, Option.bind_eq_bind,
    Option.bind_some]

theorem run_succ {n : Nat} (hframe : a.animateGameover (dts 0) = some (a', false)) :
    run (n + 1) dts a = run n (fun k => dts (k + 1)) a' := by
  rw [run, hframe]
  rfl

theorem run_done (hframe : a.animateGameover (dts 0) = some (a', true)) :
    run 1 dts a = some (a', true) := by
  rw [run, hframe]
  rfl

/-- A row that is not the one the animation is at is as empty as before. -/
theorem rowEmpty_set {y y' : Nat} {row : List (Option ShapeKey)} (hne : y ≠ y') :
    RowEmpty (grid.set y row) y' ↔ RowEmpty grid y' := by
  simp only [RowEmpty, List.getElem?_set_ne hne]

/-- **Frames pass until the next line is due**, and nothing but the time is different then. -/
theorem exists_due (a : GameOverAnimation) {dts : Nat → ℚ} (hdts : ∀ k, frameTimeMs < dts k) :
    ∃ n elapsed, elapsed + dts n > 100 ∧
      ∀ m, run (n + m) dts a = run m (fun k => dts (n + k))
      { a with animElapsedMs := elapsed } := by
  obtain ⟨frames, hframes⟩ : ∃ frames : Nat, (100 - a.animElapsedMs) / frameTimeMs ≤ frames :=
    exists_nat_ge _
  rw [div_le_iff₀ frameTimeMs_pos] at hframes
  induction frames generalizing a dts with
  | zero =>
      have hframe := hdts 0
      have hpos := frameTimeMs_pos
      refine ⟨0, a.animElapsedMs, ?_, fun m => ?_⟩
      · rw [Nat.cast_zero, zero_mul] at hframes
        linarith
      · simp only [Nat.zero_add]
  | succ frames ih =>
      by_cases hdue : a.animElapsedMs + dts 0 > 100
      · exact ⟨0, a.animElapsedMs, hdue, fun m => by simp only [Nat.zero_add]⟩
      · have hframe : a.animateGameover (dts 0) =
            some ({ a with animElapsedMs := a.animElapsedMs + dts 0 }, false) := if_neg hdue
        have hpassed := hdts 0
        obtain ⟨n, elapsed, hdue', hrun⟩ := @ih { a with animElapsedMs := a.animElapsedMs + dts 0 }
          (fun k => dts (k + 1)) (fun k => hdts (k + 1)) (by
            rw [Nat.cast_succ, add_mul, one_mul] at hframes
            show 100 - (a.animElapsedMs + dts 0) ≤ _
            linarith)
        refine ⟨n + 1, elapsed, hdue', fun m => ?_⟩
        rw [Nat.add_right_comm, run_succ hframe, hrun]
        simp only [Nat.add_right_comm]

/-- **With a free row on its way, the animation finishes.** -/
theorem run_finishes {y : Nat} :
    ∀ {a : GameOverAnimation} {dts : Nat → ℚ}, Shaped a.grid → a.animTargetLine = y →
    y < boardRows → (∃ y' ≤ y, RowEmpty a.grid y') → (∀ k, frameTimeMs < dts k) →
    ∃ n a', run n dts a = some (a', true) ∧
      (∀ line ∈ a'.lines, line ∈ a.lines ∨ 0 ≤ line ∧ line ≤ y) ∧ ∀ y', y < y' →
      a'.grid[y']? = a.grid[y']? := by
  induction y using Nat.strongRecOn with
  | ind y ih =>
      intro a dts hshaped hline hy hfree hdts
      obtain ⟨wait, elapsed, hdue, hwaited⟩ := exists_due a hdts
      obtain ⟨row, hrow, hwidth, hframe⟩ :=
        animateGameover_line (a := { a with animElapsedMs := elapsed }) hshaped hline hy hdue
      cases hdone : row.all (· = none) with
      | true =>
          rw [hdone] at hframe
          refine ⟨wait + 1, _, (hwaited 1).trans (run_done hframe), fun line hmem => ?_,
            fun y' hlt => List.getElem?_set_ne (by omega)⟩
          rcases List.mem_cons.mp hmem with rfl | hmem
          · exact .inr ⟨by omega, by omega⟩
          · exact .inl hmem
      | false =>
          rw [hdone] at hframe
          -- the line is not the free one, which is further up
          obtain ⟨y', hle, hempty⟩ := hfree
          have hne : y' ≠ y := by
            rintro rfl
            obtain ⟨row', hrow', hnone⟩ := hempty
            rw [hrow] at hrow'
            cases hrow'
            exact Bool.false_ne_true
              (hdone.symm.trans (List.all_eq_true.mpr fun c hc => decide_eq_true (hnone c hc)))
          have hline' : (y : Int) - 1 = (y - 1 : Nat) := by omega
          rw [hline'] at hframe
          obtain ⟨n, a', hrun, hlines, hbelow⟩ := @ih (y - 1) (by omega)
            ⟨a.grid.set y (row.map recolour), elapsed + dts wait - 100, (y - 1 : Nat),
              y :: a.lines⟩
            (fun k => dts (wait + (k + 1))) (hshaped.set y (by rw [List.length_map, hwidth]))
            rfl (by omega)
            ⟨y', by omega, (rowEmpty_set (Ne.symm hne)).mpr hempty⟩
            (fun k => hdts (wait + (k + 1)))
          refine ⟨wait + (n + 1), a', (hwaited (n + 1)).trans ((run_succ hframe).trans hrun),
            fun line hmem => ?_, fun y'' hlt => ?_⟩
          · rcases hlines line hmem with hmem | ⟨hpos, hle⟩
            · rcases List.mem_cons.mp hmem with rfl | hmem
              · exact .inr ⟨by omega, by omega⟩
              · exact .inl hmem
            · exact .inr ⟨hpos, by omega⟩
          · rw [hbelow y'' (by omega)]
            exact List.getElem?_set_ne (by omega)

/-- The lines looked at are kept. -/
theorem lines_animateGameover (hframe : a.animateGameover dt = some (a', done)) :
    ∀ line ∈ a.lines, line ∈ a'.lines := by
  unfold animateGameover at hframe
  dsimp only at hframe
  split at hframe
  · obtain ⟨i, _, hframe⟩ := Option.bind_eq_some_iff.mp hframe
    obtain ⟨row, _, hframe⟩ := Option.bind_eq_some_iff.mp hframe
    cases hframe
    exact fun line hmem => .tail _ hmem
  · cases hframe
    exact fun line hmem => hmem

theorem lines_run : ∀ {n : Nat} {dts : Nat → ℚ} {a a' : GameOverAnimation} {done : Bool},
    run n dts a = some (a', done) → ∀ line ∈ a.lines, line ∈ a'.lines
  | 0, _, _, _, _, hrun => by
      cases hrun
      exact fun line hmem => hmem
  | n + 1, dts, a, a', done, hrun => by
      obtain ⟨⟨a₁, done₁⟩, hframe, hrun⟩ := Option.bind_eq_some_iff.mp hrun
      dsimp only at hrun
      split at hrun
      · cases hrun
        exact lines_animateGameover hframe
      · exact fun line hmem => lines_run hrun line (lines_animateGameover hframe line hmem)

/-- **With no free row on its way, it does not**, unless it leaves the board. -/
theorem run_not_done {start : Nat} (hstart : start < boardRows) :
    ∀ {n : Nat} {dts : Nat → ℚ} {a a' : GameOverAnimation},
    Shaped a.grid → (∀ y ≤ start, ¬ RowEmpty a.grid y) → run n dts a = some (a', true) →
    ∃ line ∈ a'.lines, ¬ (0 ≤ line ∧ line ≤ start)
  | 0, _, _, _, _, _, hrun => by cases hrun
  | n + 1, dts, a, a', hshaped, hfull, hrun => by
      by_cases hdue : a.animElapsedMs + dts 0 > 100
      · by_cases hin : 0 ≤ a.animTargetLine ∧ a.animTargetLine ≤ start
        · obtain ⟨y, hline⟩ := Int.eq_ofNat_of_zero_le hin.1
          have hle : y ≤ start := by omega
          obtain ⟨row, hrow, hwidth, hframe⟩ := animateGameover_line hshaped hline (by omega) hdue
          have hdone : row.all (· = none) = false := by
            rw [Bool.eq_false_iff]
            exact fun hall => hfull y hle ⟨row, hrow,
              fun c hc => of_decide_eq_true (List.all_eq_true.mp hall c hc)⟩
          rw [hdone] at hframe
          rw [run_succ hframe] at hrun
          refine run_not_done hstart (hshaped.set y (by rw [List.length_map, hwidth]))
            (fun y' hle' => ?_) hrun
          by_cases heq : y = y'
          · subst heq
            rintro ⟨row', hrow', hnone⟩
            rw [List.getElem?_set_self (by rw [hshaped.height]; omega)] at hrow'
            cases hrow'
            refine hfull y hle ⟨row, hrow, fun c hc => ?_⟩
            have hnone' := hnone (recolour c) (List.mem_map_of_mem hc)
            exact Option.map_eq_none_iff.mp hnone'
          · rw [rowEmpty_set heq]
            exact hfull y' hle'
        · obtain ⟨⟨a₁, done₁⟩, hframe, hrun⟩ := Option.bind_eq_some_iff.mp hrun
          refine ⟨a.animTargetLine, ?_, hin⟩
          have hlooked : a.animTargetLine ∈ a₁.lines := by
            rw [animateGameover, if_pos hdue] at hframe
            obtain ⟨i, _, hframe⟩ := Option.bind_eq_some_iff.mp hframe
            obtain ⟨row, _, hframe⟩ := Option.bind_eq_some_iff.mp hframe
            cases hframe
            exact List.mem_cons_self ..
          dsimp only at hrun
          split at hrun
          · cases hrun
            exact hlooked
          · exact lines_run hrun _ hlooked
      · have hframe : a.animateGameover (dts 0) =
            some ({ a with animElapsedMs := a.animElapsedMs + dts 0 }, false) := if_neg hdue
        rw [run_succ hframe] at hrun
        exact run_not_done hstart (a := { a with animElapsedMs := a.animElapsedMs + dts 0 })
          hshaped hfull hrun

end GameOverAnimation

/-- The start of the animation, on a grid of the board's size. -/
theorem processGameover_spec (h : Shaped grid) (animElapsedMs : ℚ) : ∃ start < boardRows,
    processGameover grid animElapsedMs = some ⟨grid, animElapsedMs, start, []⟩ ∧
      (HasFreeRow grid ↔ ∃ y ≤ start, RowEmpty grid y) := by
  obtain ⟨start, hfind, hle, hat, hbelow⟩ := findAnimStartLine_spec h (boardRows - 1) (by decide)
  have hlt : start < boardRows := Nat.lt_of_le_of_lt hle (by decide)
  refine ⟨start, hlt, by simp [processGameover, hfind],
    hasFreeRow_iff hat fun y hy hcoloured => ?_⟩
  have ⟨row, hrow, _⟩ := hcoloured
  obtain ⟨hy', _⟩ := List.getElem?_eq_some_iff.mp hrow
  rw [h.height] at hy'
  exact hbelow y hy (by omega) hcoloured

theorem animationFinishes_iff (h : Shaped grid) (animElapsedMs : ℚ) {dts : Nat → ℚ}
    (hdts : ∀ k, frameTimeMs < dts k) :
    AnimationFinishes grid animElapsedMs dts ↔ HasFreeRow grid := by
  obtain ⟨start, hlt, hprocess, hfree⟩ := processGameover_spec h animElapsedMs
  rw [hfree]
  constructor
  · rintro ⟨a, n, a', ha, hrun, hlines, _⟩
    rw [hprocess] at ha
    cases ha
    refine Classical.byContradiction fun hnone => ?_
    obtain ⟨line, hmem, hout⟩ := GameOverAnimation.run_not_done hlt h
      (fun y hle hempty => hnone ⟨y, hle, hempty⟩) hrun
    obtain ⟨hpos, hle, _⟩ := hlines line hmem
    exact hout ⟨hpos, hle⟩
  · intro hrow
    obtain ⟨n, a', hrun, hlines, hbelow⟩ := GameOverAnimation.run_finishes
      (a := ⟨grid, animElapsedMs, start, []⟩) h rfl hlt hrow hdts
    refine ⟨_, n, a', hprocess, hrun,
      fun line hmem => ?_, fun y hy => hbelow y (Int.ofNat_lt.mp hy)⟩
    obtain hmem | ⟨hpos, hle⟩ := hlines line hmem
    · cases hmem
    · exact ⟨hpos, hle, by omega⟩

/--
**When the game-over animation finishes.** Whatever packets have led to the grid, and
whatever times the frames of the loop take: it comes to its end, on the board and not below
its start, exactly when the top row is free or a row above a coloured block is.
-/
theorem gameOverAnimation_finishes_iff {packets : List S2CPacket} {b b' : TetrisBoard}
    (hb : b.grid = emptyGrid) (h : b.handlePackets packets = some b') (animElapsedMs : ℚ)
    {dts : Nat → ℚ} (hdts : ∀ k, frameTimeMs < dts k) :
    AnimationFinishes b'.grid animElapsedMs dts ↔ HasFreeRow b'.grid :=
  animationFinishes_iff (shaped_handlePackets (hb ▸ shaped_emptyGrid) h) animElapsedMs hdts

end Client

/-! ## A stack up to the top -/

namespace TetrisRoom

open Client

/-- The world of one player, which deals these pieces and leaves the next hole here. -/
def stackWorld (hole : Fin boardWidth) : RoomEnv := { worldOf [hostKey] with
  bag := fun _ => ⟨[.O, .J, .Z, .T, .L, .S, .I], by decide⟩
  holes := fun _ _ => hole }

theorem stackWorld_serves (hole : Fin boardWidth) {r : TetrisRoom} {e : RoomEvent}
    (h : AllOf [hostKey] r) :
    (stackWorld hole).Serves r e := by
  have hserves : (scenarioEnv [hostKey] .room 0).Serves r e :=
    scenarioEnv_serves .room 0 (by decide) h
  exact ⟨hserves.found, hserves.account, hserves.single⟩

/-- A game played on, with the hole of the next line of garbage at each event. -/
def stackOn : List RoomEffect → TetrisRoom → List (Fin boardWidth × RoomEvent) →
    Option (List RoomEffect × TetrisRoom)
  | log, r, [] => some (log, r)
  | log, r, (hole, e) :: rest =>
      if AllOf [hostKey] r then
        (r.step (stackWorld hole) e).bind fun r' =>
          if r'.roomState = .play then stackOn (log ++ r'.out) r' rest else none
      else none

theorem stackOn_gameLog :
    ∀ {es : List (Fin boardWidth × RoomEvent)} {log log' : List RoomEffect} {r r' : TetrisRoom},
    GameLog log r → stackOn log r es = some (log', r') → GameLog log' r'
  | [], log, log', r, r', hr, h => by
      injection h with h
      injection h with h₁ h₂
      exact h₁ ▸ h₂ ▸ hr
  | (hole, e) :: rest, log, log', r, r', hr, h => by
      rw [stackOn] at h
      split at h
      · rename_i hall
        obtain ⟨r₁, hstep, h⟩ := Option.bind_eq_some_iff.mp h
        split at h
        · rename_i hplay
          exact stackOn_gameLog (hr.step _ e (stackWorld_serves hole hall) rfl hstep hplay) h
        · exact absurd h (by simp)
      · exact absurd h (by simp)

theorem five_lt_boardWidth : 5 < boardWidth := by decide

/-- So many pieces are dropped where they appear. -/
def pile (n : Nat) : List (Fin boardWidth × RoomEvent) :=
  (List.range n).flatMap fun k =>
    [(⟨5, five_lt_boardWidth⟩, .input ⟨EventType.drop.toInt, 1, 1⟩),
      (⟨5, five_lt_boardWidth⟩, .tick (500 * (k + 1)))]

/-- **Thirteen pieces, one upon the other**: the last one tops out below a free row, and the
animation finishes. -/
theorem gameOverAnimation_finishes_iff_pile :
    ∃ log r env e r' before b, GameLog log r ∧ env.Serves r e ∧
    r.step env e = some r' ∧ packetsFor 1 (received hostKey (log ++ r'.out)) =
      before ++ [.gameOver 1] ∧
    (⟨emptyGrid, none, none⟩ : TetrisBoard).handlePackets before = some b ∧ RowColoured b.grid 24 ∧
    AnimationFinishes b.grid 0 fun _ => 167 / 10 := by
  have hrun : ((gathering .single hostKey []).any fun r₀ =>
      decide (AllOf [hostKey] r₀ ∧ r₀.roomState = .wait) &&
      (r₀.step (stackWorld ⟨5, five_lt_boardWidth⟩) (taskOf hostKey .start)).any fun r₁ =>
        decide (r₁.roomState = .play) &&
        (stackOn r₁.out r₁
            (pile 12 ++ [(⟨5, five_lt_boardWidth⟩, .input ⟨EventType.drop.toInt, 1, 1⟩)])).any
            fun res =>
          decide (AllOf [hostKey] res.2) &&
          (res.2.step (stackWorld ⟨5, five_lt_boardWidth⟩) (.tick 6500)).any fun r' =>
            let packets := packetsFor 1 (received hostKey (res.1 ++ r'.out))
            decide (packets.getLast? = some (.gameOver 1)) &&
            ((⟨emptyGrid, none, none⟩ : TetrisBoard).handlePackets packets.dropLast).any fun b =>
              b.grid[0]?.any (fun row => row.all (· = none)) &&
              b.grid[24]?.any fun row => row.any isColoured) = true := by
    decide +kernel
  simp only [Option.any_eq_true, Bool.and_eq_true, decide_eq_true_eq] at hrun
  obtain ⟨r₀, hr₀, ⟨hall₀, hwait⟩, r₁, hstart, hplay, ⟨log, r⟩, hlog, hall, r', hstep,
    hlast, b, hb, ⟨top, htop, hfree⟩, bottom, hbottom, hcoloured⟩ := hrun
  have hreach : Reachable r₀ := scenario_reachable (by decide)
    (.created (scenarioRoom_created .single (by decide))) hr₀
  have hgame : GameLog log r := stackOn_gameLog
    (.start hreach hwait _ _ (stackWorld_serves _ hall₀) hstart hplay) hlog
  have hempty : RowEmpty b.grid 0 :=
    ⟨top, htop, fun c hc => of_decide_eq_true (List.all_eq_true.mp hfree c hc)⟩
  have hframe : ∀ _k : Nat, frameTimeMs < 167 / 10 := fun _ => by
    rw [frameTimeMs]
    norm_num
  exact ⟨log, r, _, _, r', _, b, hgame, stackWorld_serves _ hall, hstep,
    (List.dropLast_append_getLast? _ hlast).symm, hb,
    ⟨bottom, hbottom, List.any_eq_true.mp hcoloured⟩,
    (gameOverAnimation_finishes_iff rfl hb 0 hframe).mpr ⟨0, hempty, .inl rfl⟩⟩

theorem six_lt_boardWidth : 6 < boardWidth := by decide

/-- Ten seconds later, with or without a drop before. -/
def lineDue (drops : Bool) (n : Nat) : List (Fin boardWidth × RoomEvent) :=
  let hole : Fin boardWidth :=
    if n % 2 = 0 then ⟨6, six_lt_boardWidth⟩ else ⟨5, five_lt_boardWidth⟩
  (if drops then [(hole, .input ⟨EventType.drop.toInt, 1, 1⟩)] else []) ++
    [(hole, .tick (10000 * n))]

/-- Four lines of garbage, six pieces with a line each, and the long piece turned upright. -/
def fullStack : List (Fin boardWidth × RoomEvent) :=
  [1, 2, 3, 4].flatMap (lineDue false) ++ [5, 6, 7, 8, 9, 10].flatMap (lineDue true) ++
    [(⟨6, six_lt_boardWidth⟩, .input ⟨EventType.rotate.toInt, 1, 1⟩),
      (⟨6, six_lt_boardWidth⟩, .tick 100100)]

/-- **The last piece tops the player out and garbage lifts it to row 0**; the animation leaves the
grid. -/
theorem animation_leaves_grid :
    ∃ log r env e r' before b, GameLog log r ∧ env.Serves r e ∧ r.step env e = some r' ∧
    packetsFor 1 (received hostKey (log ++ r'.out)) = before ++ [.gameOver 1] ∧
    (⟨emptyGrid, none, none⟩ : TetrisBoard).handlePackets before = some b ∧
    (∀ dts : Nat → ℚ, (∀ k, frameTimeMs < dts k) → ¬ AnimationFinishes b.grid 0 dts) ∧
    (processGameover b.grid 0).bind (GameOverAnimation.run 60 fun _ => 101) = none := by
  have hrun : ((gathering .single hostKey []).any fun r₀ =>
      decide (AllOf [hostKey] r₀ ∧ r₀.roomState = .wait) &&
      (r₀.step (stackWorld ⟨5, by decide⟩) (taskOf hostKey .start)).any fun r₁ =>
        decide (r₁.roomState = .play) &&
        (stackOn r₁.out r₁
          (fullStack ++ [(⟨5, by decide⟩, .input ⟨EventType.drop.toInt, 1, 1⟩)])).any fun res =>
          decide (AllOf [hostKey] res.2) &&
          (res.2.step (stackWorld ⟨5, by decide⟩) (.tick 110000)).any fun r' =>
            let packets := packetsFor 1 (received hostKey (res.1 ++ r'.out))
            decide (packets.getLast? = some (.gameOver 1)) &&
            ((⟨emptyGrid, none, none⟩ : TetrisBoard).handlePackets packets.dropLast).any fun b =>
              decide (((processGameover b.grid 0).bind
                (GameOverAnimation.run 60 fun _ => 101)).isNone = true) &&
              decide (∀ row ∈ b.grid, ∃ c ∈ row, c ≠ none)) = true := by
    decide +kernel
  simp only [Option.any_eq_true, Bool.and_eq_true, decide_eq_true_eq] at hrun
  obtain ⟨r₀, hr₀, ⟨hall₀, hwait⟩, r₁, hstart, hplay, ⟨log, r⟩, hlog, hall, r', hstep, hlast, b,
    hb, hnone, hfull⟩ := hrun
  have hreach : Reachable r₀ := scenario_reachable (by decide)
    (.created (scenarioRoom_created .single (by decide))) hr₀
  have hgame : GameLog log r := stackOn_gameLog
    (.start hreach hwait _ _ (stackWorld_serves _ hall₀) hstart hplay) hlog
  refine ⟨log, r, _, _, r', _, b, hgame, stackWorld_serves _ hall, hstep,
    (List.dropLast_append_getLast? _ hlast).symm, hb,
    fun dts hdts hfinishes => ?_, Option.isNone_iff_eq_none.mp hnone⟩
  have hshaped : Shaped b.grid :=
    shaped_handlePackets (b := ⟨emptyGrid, none, none⟩) shaped_emptyGrid hb
  obtain ⟨y, ⟨row, hrow, hempty⟩, _⟩ := (animationFinishes_iff hshaped 0 hdts).mp hfinishes
  obtain ⟨c, hc, hne⟩ := hfull row (List.mem_of_getElem? hrow)
  exact hne (hempty c hc)

end TetrisRoom

end ProjectTetris

import ProjectTetris.Game.Tetris
import ProjectTetris.Lib.Checked

/-!
# What each engine function does

One specification per function of `Tetris.lean`, stated once and for every input:
the value it computes, the tasks it records and the fact that it does not read or
write outside the board. Everything proved about the game later cites these and
never unfolds the functions again.
-/

namespace ProjectTetris

open Checked

/-- The position a `MOVE` of each kind leads to, on the server and on the client. -/
def Tetromino.moved (t : Tetromino) : EventType → Tetromino
  | .right => t.shift 1 0
  | .left => t.shift (-1) 0
  | .rotate => t.rotated
  | .down => t.shift 0 1
  | .up => t.shift 0 (-1)
  | _ => t

namespace Tetris

/-! ## Reading the board -/

theorem isValidCells_eq (b : Board) :
    ∀ l, isValidCells b l = some (decide (∀ p ∈ l, b.cell? p.y p.x = some false))
  | [] => by simp [isValidCells]
  | pos :: rest => by
      have out : ∀ v, b.cell? pos.y pos.x = some v → Board.InRange pos.y pos.x :=
        fun v hv => Board.inRange_of_cell? hv
      have hno : ¬ Board.InRange pos.y pos.x →
          ¬ ∀ p ∈ pos :: rest, b.cell? p.y p.x = some false :=
        fun hn h => hn (out _ (h pos (List.mem_cons_self ..)))
      rw [isValidCells]
      split
      · rw [decide_eq_false (hno (by unfold Board.InRange; omega))]
      · split
        · rw [decide_eq_false (hno (by unfold Board.InRange; omega))]
        · obtain ⟨v, hv⟩ := Board.exists_cell? (b := b) (y := pos.y) (x := pos.x)
            (by unfold Board.InRange; omega)
          cases v <;> simp [hv, isValidCells_eq b rest]

/-- **`IsValidPosition` never reads outside the board**, and decides `Valid`. -/
theorem isValidPosition_eq (b : Board) (t : Tetromino) :
    isValidPosition b t = some (decide (Valid b t)) := isValidCells_eq b t.boardPositions

theorem isGameOver_eq (b : Board) : isGameOver b = some (decide (¬ b.HiddenEmpty)) := by
  have hcell : ∀ y < hiddenHeight, ∀ x < boardWidth,
      b.cell? (y : Nat) (x : Nat) = some ((b.cell? (y : Nat) (x : Nat)).getD false) := by
    intro y hy x hx
    obtain ⟨v, hv⟩ := Board.exists_cell? (b := b) (y := y) (x := x) (by
      unfold hiddenHeight at hy
      unfold Board.InRange totalHeight boardHeight hiddenHeight
      omega)
    rw [hv]; rfl
  have hcol : ∀ x ∈ List.range boardWidth,
      ((List.range hiddenHeight).mapM fun y : Nat => b.cell? (y : Nat) (x : Nat)) =
        some ((List.range hiddenHeight).map fun y : Nat =>
          (b.cell? (y : Nat) (x : Nat)).getD false) := fun x hx =>
    mapM_eq_some fun y hy => hcell y (List.mem_range.mp hy) x (List.mem_range.mp hx)
  rw [isGameOver, mapM_eq_some hcol]
  simp only [Option.bind_eq_bind, Option.bind_some, Option.some.injEq]
  rw [Bool.eq_iff_iff]
  simp only [List.any_map, List.any_eq_true, List.mem_range, Function.comp_apply, id_eq,
    decide_eq_true_eq]
  constructor
  · rintro ⟨x, hx, y, hy, h⟩ hall
    rw [hall y hy x hx] at h
    exact absurd h (by simp)
  · intro h
    simp only [Board.HiddenEmpty, Classical.not_forall] at h
    obtain ⟨y, hy, x, hx, h⟩ := h
    refine ⟨x, hx, y, hy, ?_⟩
    rw [hcell y hy x hx] at h
    cases hv : (b.cell? (y : Nat) (x : Nat)).getD false with
    | true => rfl
    | false => exact absurd (by rw [hv]) h

/-- The state with a `GAME_OVER` task recorded if some hidden cell is filled. -/
def withVerdict (s : Tetris) : Tetris :=
  if s.board.HiddenEmpty then s else { s with sendTasks := s.sendTasks ++ [.gameOver] }

theorem checkGameOver_eq (s : Tetris) :
    s.checkGameOver = some (s.withVerdict, decide (¬ s.board.HiddenEmpty)) := by
  rw [checkGameOver, isGameOver_eq]
  by_cases h : s.board.HiddenEmpty <;> simp [h, withVerdict]

@[simp] theorem withVerdict_board (s : Tetris) : s.withVerdict.board = s.board := by
  unfold withVerdict; split <;> rfl

@[simp] theorem withVerdict_current (s : Tetris) :
    s.withVerdict.currentTetromino = s.currentTetromino := by
  unfold withVerdict; split <;> rfl

@[simp] theorem withVerdict_timers (s : Tetris) : s.withVerdict.timers = s.timers := by
  unfold withVerdict; split <;> rfl

theorem withVerdict_sendTasks (s : Tetris) :
    s.withVerdict.sendTasks = s.sendTasks ++ if s.board.HiddenEmpty then [] else [.gameOver] := by
  unfold withVerdict; split <;> simp

/-! ## Fixing -/

/-- **`FixTetromino` writes inside the board** as long as the piece is inside, and fills just its
cells. -/
theorem fixCells_ok : ∀ (l : List Position) (b : Board), (∀ p ∈ l, Board.InRange p.y p.x) →
    Ok (fixCells b l) fun c => ∀ y x,
      c.cell? y x = if ⟨x, y⟩ ∈ l then some true else b.cell? y x
  | [], b, _ => Ok.pure (by simp)
  | pos :: rest, b, h => by
      obtain ⟨c, hc⟩ := Board.fill?_isSome (b := b) (h pos (List.mem_cons_self ..))
      rw [fixCells, hc]
      refine (fixCells_ok rest c fun p hp => h p (List.mem_cons_of_mem _ hp)).mono
        fun d hd y x => ?_
      rw [hd, Board.cell?_fill? hc]
      obtain ⟨px, py⟩ := pos
      simp only [List.mem_cons, Position.mk.injEq]
      by_cases h1 : (⟨x, y⟩ : Position) ∈ rest
      · simp [h1]
      · by_cases h2 : y = py ∧ x = px
        · simp [h2.1, h2.2]
        · rw [if_neg h1, if_neg h2, if_neg (by
            rintro (h3 | h3)
            · exact h2 ⟨h3.2, h3.1⟩
            · exact h1 h3)]

/-! ## Clearing lines -/

/-- What `ClearLine` keeps: the rows above `hiddenHeight`, and the visible ones that are not full.
-/
def keptRows (rows : List (List Bool)) : List (List Bool) :=
  rows.take hiddenHeight ++ (rows.drop hiddenHeight).filter fun r => !r.all id

/--
The loop of `ClearLine` before row `y`, over the board it started with.

The rows above `y` are the kept ones with an empty row on top for each one
removed; the rows from `y` on have not been touched, so row `y` of the current
board is row `y` of the original.
-/
structure Cleared (rows : List (List Bool)) (s₀ : Tetris) (y : Nat) (s : Tetris) : Prop where
  rows_eq : ∃ k, s.board.rows =
      List.replicate k emptyRow ++ keptRows (rows.take y) ++ rows.drop y ∧
      k + (keptRows (rows.take y)).length = y ∧
      s.clearedLineCount = s₀.clearedLineCount + k
  /-- The tasks recorded are the full rows, by index, in order. -/
  tasks : s.sendTasks = s₀.sendTasks ++
    ((List.range' hiddenHeight (y - hiddenHeight)).filter
      fun i => ((rows[i]?).getD []).all id).map .clearLine
  rest : s = { s₀ with
    board := s.board, sendTasks := s.sendTasks, clearedLineCount := s.clearedLineCount }

theorem keptRows_take_succ {rows : List (List Bool)} {y : Nat} (hy : hiddenHeight ≤ y)
    {r : List Bool} (hr : rows[y]? = some r) :
    keptRows (rows.take (y + 1)) =
      keptRows (rows.take y) ++ if r.all id then [] else [r] := by
  have hlt : y < rows.length := (List.getElem?_eq_some_iff.mp hr).1
  have htake : rows.take (y + 1) = rows.take y ++ [r] := by
    rw [List.take_add_one, hr]; rfl
  have hlen : hiddenHeight ≤ (rows.take y).length := by rw [List.length_take]; omega
  rw [keptRows, keptRows, htake, List.take_append_of_le_length hlen,
    List.drop_append_of_le_length hlen, List.filter_append, List.append_assoc]
  by_cases h : r.all id <;> simp [h]

theorem clearLineAt_ok {rows : List (List Bool)} {s₀ s : Tetris} {y : Nat}
    (hrows : rows.length = totalHeight) (hy : hiddenHeight ≤ y) (hy' : y < totalHeight)
    (h : Cleared rows s₀ y s) : Ok (clearLineAt s y) (Cleared rows s₀ (y + 1)) := by
  obtain ⟨⟨k, hk1, hk2, hk3⟩, ht, hrest⟩ := h
  obtain ⟨r, hr⟩ : ∃ r, rows[y]? = some r :=
    ⟨_, List.getElem?_eq_getElem (by omega)⟩
  have hpre : (List.replicate k emptyRow ++ keptRows (rows.take y)).length = y := by
    rw [List.length_append, List.length_replicate]; exact hk2
  -- row `y` of the current board is still the original one
  have hrow : s.board.row? y = some r := by
    rw [Board.row?, hk1, List.getElem?_append_right (by omega), hpre, Nat.sub_self,
      List.getElem?_drop, Nat.add_zero, hr]
  have hdrop : rows.drop y = r :: rows.drop (y + 1) := by
    rw [List.drop_eq_getElem_cons (by omega)]
    congr 1
    exact (List.getElem?_eq_some_iff.mp hr).2
  have hkept := keptRows_take_succ hy hr
  have hrange : List.range' hiddenHeight (y + 1 - hiddenHeight) =
      List.range' hiddenHeight (y - hiddenHeight) ++ [y] := by
    rw [show y + 1 - hiddenHeight = (y - hiddenHeight) + 1 by omega, List.range'_concat]
    simp [Nat.add_sub_cancel' hy]
  rw [clearLineAt, hrow]
  by_cases hfull : r.all id
  · obtain ⟨c, hc⟩ : ∃ c, s.board.clearRow? y = some c := by
      unfold Board.clearRow?; rw [dif_pos hy']; exact ⟨_, rfl⟩
    refine Ok.intro (a := { s with
      board := c, sendTasks := s.sendTasks ++ [.clearLine y],
      clearedLineCount := s.clearedLineCount + 1 }) (by
        rw [Option.bind_eq_bind, Option.bind_some, if_pos hfull, hc]; rfl) ?_
    refine ⟨⟨k + 1, ?_, ?_, ?_⟩, ?_, ?_⟩
    · rw [Board.clearRow?_rows hc, hk1, hkept, if_pos hfull, List.append_nil, hdrop,
        List.eraseIdx_append_of_length_le (by omega), hpre, Nat.sub_self, List.eraseIdx_cons_zero,
        List.replicate_succ]
      rfl
    · rw [hkept, if_pos hfull, List.append_nil]; omega
    · simp only [hk3]; omega
    · simp only [ht, hrange, List.filter_append, List.map_append, List.append_assoc]
      simp [hr, hfull]
    · rw [hrest]
  · refine Ok.intro (a := s) (by rw [Option.bind_eq_bind, Option.bind_some, if_neg hfull]) ?_
    refine ⟨⟨k, ?_, ?_, hk3⟩, ?_, hrest⟩
    · rw [hk1, hkept, if_neg hfull, hdrop]
      simp
    · rw [hkept, if_neg hfull, List.length_append]
      simp only [List.length_singleton]; omega
    · rw [ht, hrange, List.filter_append]
      simp [hr, hfull]

/-- **`ClearLine` is a filter**: it stays on the board and ends in the state `Cleared` describes.
-/
theorem clearLine_ok (s : Tetris) : Ok s.clearLine (Cleared s.board.rows s totalHeight) := by
  have hloop : ∀ n, hiddenHeight + n ≤ totalHeight →
      Ok ((List.range' hiddenHeight n).foldlM clearLineAt s)
        (Cleared s.board.rows s (hiddenHeight + n)) := by
    intro n
    induction n with
    | zero =>
        intro _
        have hlen : (s.board.rows.take hiddenHeight).length = hiddenHeight := by
          rw [List.length_take, s.board.height]; decide
        have hkept : keptRows (s.board.rows.take hiddenHeight) =
            s.board.rows.take hiddenHeight := by
          rw [keptRows, List.take_of_length_le (Nat.le_of_eq hlen),
            List.drop_of_length_le (Nat.le_of_eq hlen)]
          simp
        refine Ok.pure ⟨⟨0, ?_, ?_, rfl⟩, by simp, rfl⟩
        · simp [hkept]
        · rw [Nat.zero_add, Nat.add_zero, hkept]; exact hlen
    | succ n ih =>
        intro hn
        rw [List.range'_concat, List.foldlM_append]
        refine Ok.bind (ih (by omega)) fun s' hs' => ?_
        simp only [List.foldlM_cons, List.foldlM_nil, Nat.one_mul]
        refine Ok.bind (clearLineAt_ok s.board.height (by omega) (by omega) hs') fun s'' hs'' => ?_
        exact Ok.pure hs''
  exact hloop boardHeight (by decide)

theorem Cleared.noFullRow {rows : List (List Bool)} {s₀ s : Tetris}
    (h : Cleared rows s₀ totalHeight s) (hh : rows.length = totalHeight)
    (hid : ∀ r ∈ rows.take hiddenHeight, r.all id = false) : s.board.NoFullRow := by
  obtain ⟨⟨k, hk, _, _⟩, _, _⟩ := h
  rw [Board.noFullRow_iff]
  intro r hr
  rw [hk, List.take_of_length_le (Nat.le_of_eq hh), List.drop_of_length_le (Nat.le_of_eq hh),
    List.append_nil] at hr
  rcases List.mem_append.mp (List.mem_of_mem_drop hr) with h1 | h1
  · rw [List.eq_of_mem_replicate h1]; rfl
  · rcases List.mem_append.mp h1 with h2 | h2
    · exact hid r h2
    · simpa using (List.mem_filter.mp h2).2

/-! ## Moving -/

theorem Valid.inBoard {b : Board} {t : Tetromino} (h : Valid b t) : InBoard t :=
  fun p hp => Board.inRange_of_cell? (h p hp)

/--
Where `DROP` leaves a piece: where it is if that is no valid position, else as far
down as the positions stay valid.
-/
def Lands (b : Board) (p q : Tetromino) : Prop :=
  (¬ Valid b p ∧ q = p) ∨
  ∃ k : Nat, q = p.shift 0 k ∧ (∀ i : Nat, i ≤ k → Valid b (p.shift 0 i)) ∧
    ¬ Valid b (p.shift 0 ((k + 1 : Nat) : Int))

theorem Lands.inBoard {b : Board} {p q : Tetromino} (h : Lands b p q) (hp : InBoard p) :
    InBoard q := by
  rcases h with ⟨_, rfl⟩ | ⟨k, rfl, hv, _⟩
  · exact hp
  · exact (hv k (Nat.le_refl k)).inBoard

theorem Lands.valid {b : Board} {p q : Tetromino} (h : Lands b p q) (hp : Valid b p) :
    Valid b q := by
  rcases h with ⟨hn, _⟩ | ⟨k, rfl, hv, _⟩
  · exact absurd hp hn
  · exact hv k (Nat.le_refl k)

theorem Lands.shape {b : Board} {p q : Tetromino} (h : Lands b p q) :
    q = { p with movedPos := q.movedPos } := by
  rcases h with ⟨_, rfl⟩ | ⟨k, rfl, _, _⟩ <;> rfl

/-- The loop of `DROP` after `j` rows: it ends, because every turn lowers the cell `c`. -/
theorem dropLoop_ok {b : Board} {p : Tetromino} {c : Position} (hc : c ∈ p.boardPositions) :
    ∀ (fuel j : Nat), (∀ i : Nat, i ≤ j → Valid b (p.shift 0 i)) →
      (totalHeight : Int) - (c.y + j) < fuel →
      Ok (dropLoop b fuel (p.shift 0 j) (p.shift 0 ((j + 1 : Nat) : Int))) (Lands b p) := by
  have hrow : ∀ i : Nat, Valid b (p.shift 0 i) → c.y + i < totalHeight := by
    intro i hi
    have := Board.inRange_of_cell? (hi _ (Tetromino.mem_boardPositions_shift.mpr ⟨c, hc, rfl⟩))
    exact this.2.1
  intro fuel
  induction fuel with
  | zero =>
      intro j hj hfuel
      have := hrow j (hj j (Nat.le_refl j))
      omega
  | succ fuel ih =>
      intro j hj hfuel
      rw [dropLoop, isValidPosition_eq]
      by_cases hv : Valid b (p.shift 0 ((j + 1 : Nat) : Int))
      · have hj' : ∀ i : Nat, i ≤ j + 1 → Valid b (p.shift 0 i) := by
          intro i hi
          rcases Nat.le_succ_iff.mp hi with hi | rfl
          · exact hj i hi
          · exact hv
        rw [decide_eq_true hv]
        simp only [Option.bind_eq_bind, Option.bind_some, if_true, Tetromino.shift_shift,
          Int.add_zero]
        exact ih (j + 1) hj' (by omega)
      · rw [decide_eq_false hv]
        exact Ok.pure (Or.inr ⟨j, rfl, hj, hv⟩)

/-- **A hard drop ends**, in the position `Lands` describes. -/
theorem moveDrop_land {b : Board} {p : Tetromino} (hp : InBoard p) :
    Ok (dropLoop b dropFuel p p) (Lands b p) := by
  obtain ⟨c, hc⟩ := p.exists_boardPosition
  have hc0 := (hp c hc).1
  rw [show dropFuel = (totalHeight + 4) + 1 from rfl, dropLoop, isValidPosition_eq]
  by_cases hv : Valid b p
  · rw [decide_eq_true hv]
    have := dropLoop_ok (b := b) hc (totalHeight + 4) 0 (by
      intro i hi
      rw [Nat.le_zero.mp hi]
      simpa using hv) (by unfold totalHeight boardHeight hiddenHeight; omega)
    simpa using this
  · rw [decide_eq_false hv]
    exact Ok.pure (Or.inl ⟨hv, rfl⟩)

/-- The inputs that move a piece when the target is free. -/
def MoveInput (m : EventType) : Prop := m = .right ∨ m = .left ∨ m = .rotate ∨ m = .down

/-- What `RecordInput` and, after a `DOWN`, `RestartAutoDown` leave. -/
def movedTimers (timers : TetrisTimers) (m : EventType) (t : Int) : TetrisTimers :=
  if m = .down then (timers.recordInput m t).restartAutoDown t else timers.recordInput m t

/-- A `DROP` records itself before the piece is fixed, a `DOWN` does not. -/
def fixTimers (timers : TetrisTimers) (m : EventType) (t : Int) : TetrisTimers :=
  if m = .drop then timers.recordInput .drop t else timers

/--
Everything `ProcessMoveInput` can do, with its guards.

`rejected` covers the cool-down, the candidate that does not fit and the values
that are no input; `fixed` is a `DOWN` that cannot go further or a `DROP`.
-/
inductive MoveOutcome (s : Tetris) (m : EventType) (t : Int) : Tetris → EventType → Prop
  | rejected : MoveOutcome s m t s .none
  | moved (hm : MoveInput m) (hv : Valid s.board (s.currentTetromino.moved m))
      (ha : s.timers.isInputAllowed m t = true) :
      MoveOutcome s m t
        { s with
          currentTetromino := s.currentTetromino.moved m
          sendTasks := s.sendTasks ++ [.move m]
          timers := movedTimers s.timers m t } m
  | fixed (q : Tetromino) (hm : m = .down ∨ m = .drop)
      (ha : s.timers.isInputAllowed m t = true) (hq : Lands s.board s.currentTetromino q) :
      MoveOutcome s m t
        { s with
          currentTetromino := q
          sendTasks := s.sendTasks ++ [.fix q.movedPos.x q.movedPos.y]
          timers := fixTimers s.timers m t } .fix

theorem tryMove_ok {s : Tetris} {m : EventType} {t : Int} (hm : MoveInput m) (hd : m ≠ .down)
    (ha : s.timers.isInputAllowed m t = true) :
    Ok (s.tryMove m (s.currentTetromino.moved m) t) fun r => MoveOutcome s m t r.1 r.2 := by
  rw [tryMove, isValidPosition_eq]
  by_cases hv : Valid s.board (s.currentTetromino.moved m)
  · rw [decide_eq_true hv]
    refine Ok.pure ?_
    have h := MoveOutcome.moved (t := t) hm hv ha
    rwa [movedTimers, if_neg hd] at h
  · rw [decide_eq_false hv]
    exact Ok.pure .rejected

theorem moveDown_ok {s : Tetris} {t : Int} (ha : s.timers.isInputAllowed .down t = true) :
    Ok (s.moveDown t) fun r => MoveOutcome s .down t r.1 r.2 := by
  rw [moveDown, isValidPosition_eq]
  by_cases hv : Valid s.board (s.currentTetromino.shift 0 1)
  · rw [decide_eq_true hv]
    exact Ok.pure (MoveOutcome.moved (.inr (.inr (.inr rfl))) hv ha)
  · rw [decide_eq_false hv]
    have hq : Lands s.board s.currentTetromino s.currentTetromino := by
      by_cases hc : Valid s.board s.currentTetromino
      · refine Or.inr ⟨0, by simp, fun i hi => ?_, by simpa using hv⟩
        rw [Nat.le_zero.mp hi]
        simpa using hc
      · exact Or.inl ⟨hc, rfl⟩
    exact Ok.pure (MoveOutcome.fixed _ (.inl rfl) ha hq)

theorem moveDrop_ok {s : Tetris} {t : Int} (hb : InBoard s.currentTetromino)
    (ha : s.timers.isInputAllowed .drop t = true) :
    Ok (s.moveDrop t) fun r => MoveOutcome s .drop t r.1 r.2 := by
  rw [moveDrop]
  refine Ok.bind (moveDrop_land hb) fun q hq => ?_
  exact Ok.pure (MoveOutcome.fixed q (.inr rfl) ha hq)

/-- **`ProcessMoveInput` stays on the board** and does one of the three things of `MoveOutcome`. -/
theorem processMoveInput_ok {s : Tetris} (m : EventType) (t : Int)
    (hb : InBoard s.currentTetromino) :
    Ok (s.processMoveInput m t) fun r => MoveOutcome s m t r.1 r.2 := by
  unfold processMoveInput
  split
  · rename_i ha
    split
    · exact tryMove_ok (.inl rfl) (by decide) ha
    · exact tryMove_ok (.inr (.inl rfl)) (by decide) ha
    · exact moveDown_ok ha
    · exact tryMove_ok (.inr (.inr (.inl rfl))) (by decide) ha
    · exact moveDrop_ok hb ha
    · exact Ok.pure .rejected
  · exact Ok.pure .rejected

/-! ## Settling -/

/--
What `ProcessTick` does once an input has fixed the piece: the cells of the piece
are filled (`fixed`), the full visible rows of the result removed (`cleared`), and
a `GAME_OVER` recorded if a hidden cell is filled.
-/
structure Settled (s : Tetris) (t : Int) (s' : Tetris) : Prop where
  steps : ∃ (fixed : Board) (cleared : Tetris),
    fixCells s.board s.currentTetromino.boardPositions = some fixed ∧
    (∀ y x, fixed.cell? y x =
      if ⟨x, y⟩ ∈ s.currentTetromino.boardPositions then some true else s.board.cell? y x) ∧
    clearLine { s with
      board := fixed
      timers := ((s.timers.recordInput .down t).restartAutoDown t).recordInput .drop t } =
        some cleared ∧
    Cleared fixed.rows { s with
      board := fixed
      timers := ((s.timers.recordInput .down t).restartAutoDown t).recordInput .drop t }
        totalHeight cleared ∧
    s' = cleared.withVerdict

theorem settle_ok {s : Tetris} (t : Int) (hb : InBoard s.currentTetromino) :
    Ok (s.settle t) (Settled s t) := by
  obtain ⟨fixed, hfix, hcells⟩ := fixCells_ok s.currentTetromino.boardPositions s.board hb
  obtain ⟨cleared, hclear, hspec⟩ := clearLine_ok { s with
    board := fixed
    timers := ((s.timers.recordInput .down t).restartAutoDown t).recordInput .drop t }
  refine Ok.intro (a := cleared.withVerdict) ?_
    ⟨fixed, cleared, hfix, hcells, hclear, hspec, rfl⟩
  simp only [settle, fixTetromino, hfix, Option.bind_eq_bind, Option.bind_some, hclear,
    checkGameOver_eq]

/-- One turn of `ProcessTick`'s loop: nothing, a move, or a fix that is settled at once. -/
inductive InputOutcome (s : Tetris) (m : EventType) (t : Int) : Tetris → Prop
  | idle : InputOutcome s m t s
  | moved (hm : MoveInput m) (hv : Valid s.board (s.currentTetromino.moved m))
      (ha : s.timers.isInputAllowed m t = true) :
      InputOutcome s m t
        { s with
          currentTetromino := s.currentTetromino.moved m
          sendTasks := s.sendTasks ++ [.move m]
          timers := movedTimers s.timers m t }
  | settled (q : Tetromino) (hm : m = .down ∨ m = .drop)
      (ha : s.timers.isInputAllowed m t = true) (hq : Lands s.board s.currentTetromino q)
      {s' : Tetris}
      (hs : Settled
        { s with
          currentTetromino := q
          sendTasks := s.sendTasks ++ [.fix q.movedPos.x q.movedPos.y]
          timers := fixTimers s.timers m t } t s') :
      InputOutcome s m t s'

theorem processInput_ok {s : Tetris} (m : EventType) (t : Int) (hb : InBoard s.currentTetromino) :
    Ok (processInput t s m) (InputOutcome s m t) := by
  unfold processInput
  split
  · split
    · refine Ok.bind (processMoveInput_ok m t hb) ?_
      rintro ⟨s', result⟩ hout
      dsimp only at hout ⊢
      cases hout with
      | rejected => exact Ok.pure .idle
      | moved hm hv ha =>
          have hne : m ≠ .fix := by rcases hm with rfl | rfl | rfl | rfl <;> decide
          rw [if_neg hne]
          exact Ok.pure (.moved hm hv ha)
      | fixed q hm ha hq =>
          rw [if_pos rfl]
          exact (settle_ok t (hq.inBoard hb)).mono fun s' hs => .settled q hm ha hq hs
    · exact Ok.pure .idle
  · exact Ok.pure .idle

/-! ## Garbage -/

/-- Everything one turn of `AddGarbageLines` can do; the flag says whether the loop goes on. -/
inductive GarbageOutcome (s : Tetris) (holeX : Nat) : Tetris → Bool → Prop
  | toppedOut (b : Board) (hb : s.board.pushGarbage? holeX = some b) (hover : ¬ b.HiddenEmpty) :
      GarbageOutcome s holeX
        { s with board := b, sendTasks := s.sendTasks ++ [.addLine holeX, .gameOver] } false
  | fits (b : Board) (hb : s.board.pushGarbage? holeX = some b) (hempty : b.HiddenEmpty)
      (hv : Valid b s.currentTetromino) :
      GarbageOutcome s holeX
        { s with board := b, sendTasks := s.sendTasks ++ [.addLine holeX] } true
  | lifted (b : Board) (hb : s.board.pushGarbage? holeX = some b) (hempty : b.HiddenEmpty)
      (hv : ¬ Valid b s.currentTetromino) :
      GarbageOutcome s holeX
        { s with
          board := b
          currentTetromino := s.currentTetromino.moved .up
          sendTasks := s.sendTasks ++ [.addLine holeX, .move .up] } true

theorem addGarbageLine_ok (s : Tetris) {holeX : Nat} (hx : holeX < boardWidth) :
    Ok (s.addGarbageLine holeX) fun r => GarbageOutcome s holeX r.1 r.2 := by
  obtain ⟨b, hb⟩ : ∃ b, s.board.pushGarbage? holeX = some b := by
    unfold Board.pushGarbage?
    rw [if_pos hx]
    exact ⟨_, rfl⟩
  simp only [addGarbageLine, hb, Option.bind_eq_bind, Option.bind_some, checkGameOver_eq,
    withVerdict]
  by_cases hempty : b.HiddenEmpty
  · by_cases hv : Valid b s.currentTetromino
    · refine ⟨(_, _), ?_, GarbageOutcome.fits b hb hempty hv⟩
      simp [hempty, isValidPosition_eq, hv]
    · refine ⟨(_, _), ?_, GarbageOutcome.lifted b hb hempty hv⟩
      simp [hempty, isValidPosition_eq, hv, Tetromino.moved]
  · refine ⟨(_, _), ?_, GarbageOutcome.toppedOut b hb hempty⟩
    simp [hempty]

/--
**`AddGarbageLines` never leaves the board**; what every turn of it keeps holds at
the end, after at most as many turns as lines were pending.
-/
theorem addGarbageLines_ok {I : Nat → Tetris → Prop}
    (hstep : ∀ n s s' holeX goOn, I n s → GarbageOutcome s holeX s' goOn → I (n + 1) s')
    {s : Tetris} (h : I 0 s) (holes : Nat → Fin boardWidth) :
    Ok (s.addGarbageLines holes) fun s' => ∃ n ≤ s.pendingGarbageLineCount, I n s' := by
  have hloop : ∀ l : List Nat, (∀ x ∈ l, x < boardWidth) → ∀ n s, I n s →
      Ok (s.addGarbageLoop l) fun s' => ∃ m ≤ n + l.length, I m s' := by
    intro l
    induction l with
    | nil => exact fun _ n s hs => Ok.pure ⟨n, Nat.le_refl _, hs⟩
    | cons holeX rest ih =>
        intro hl n s hs
        rw [addGarbageLoop]
        refine Ok.bind (addGarbageLine_ok s (hl holeX (List.mem_cons_self ..))) ?_
        rintro ⟨s', goOn⟩ hout
        have hs' := hstep _ _ _ _ _ hs hout
        rw [List.length_cons]
        cases goOn with
        | true =>
            refine (ih (fun x hx => hl x (List.mem_cons_of_mem _ hx)) (n + 1) s' hs').mono ?_
            rintro s'' ⟨m, hm, hI⟩
            exact ⟨m, by omega, hI⟩
        | false => exact Ok.pure ⟨n + 1, by omega, hs'⟩
  have hall := hloop ((List.range s.pendingGarbageLineCount).map fun i => (holes i : Nat))
    (fun x hx => by
      obtain ⟨i, _, rfl⟩ := List.mem_map.mp hx
      exact (holes i).isLt) 0 s h
  rw [List.length_map, List.length_range, Nat.zero_add] at hall
  exact hall

end Tetris

end ProjectTetris

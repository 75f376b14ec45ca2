import ProjectTetris.Game.EngineInv

/-!
# Garbage from below

`AddGarbageLines` raises the board one line at a time. A piece the risen board overlaps is
lifted by one row, without a second look and without a bound on its position; one row is
always enough, because the board rose by one row and the piece was free before.

The board after `n` lines does not depend on the piece, so whether the insertion tops out,
and at which line, is a fact about the board and the holes alone.
-/

namespace ProjectTetris

open Checked

/-! ## The risen board -/

/-- The board moved up by `n` rows, with `n` garbage rows under it. -/
def Board.risen (b : Board) (holes : Nat → Fin boardWidth) (n : Nat) : Board where
  rows := (b.rows ++ (List.range n).map fun i => garbageRow (holes i)).drop n
  height := by
    rw [List.length_drop, List.length_append, List.length_map, List.length_range, b.height,
      Nat.add_sub_cancel]
  width := by
    intro r hr
    rcases List.mem_append.mp (List.mem_of_mem_drop hr) with hr | hr
    · exact b.width r hr
    · obtain ⟨i, _, rfl⟩ := List.mem_map.mp hr
      simp [garbageRow]

theorem Board.risen_zero (b : Board) (holes : Nat → Fin boardWidth) : b.risen holes 0 = b :=
  Board.ext_rows (by simp [Board.risen])

/-- One more line is one more turn of the loop. -/
theorem Board.pushGarbage?_risen (b : Board) (holes : Nat → Fin boardWidth) (n : Nat) {c : Board}
    (h : (b.risen holes n).pushGarbage? (holes n) = some c) : c = b.risen holes (n + 1) := by
  refine Board.ext_rows ?_
  have hb := b.height
  have hle : n + 1 ≤ (b.rows ++ (List.range n).map fun i => garbageRow (holes i)).length := by
    rw [List.length_append, List.length_map, List.length_range, hb]
    unfold totalHeight boardHeight
    omega
  rw [Board.pushGarbage?_rows h]
  simp only [Board.risen]
  rw [List.drop_drop, List.range_succ, List.map_append, ← List.append_assoc,
    List.drop_append_of_le_length hle, List.map_singleton]

namespace Tetris

/-! ## The log -/

/-- The tasks of `n` lines, when the piece is lifted at the lines `up` says. -/
def garbageTasks (holes : Nat → Fin boardWidth) (up : Nat → Bool) (n : Nat) : List TaskType :=
  (List.range n).flatMap fun i =>
    .addLine (holes i) :: if up i then [.move .up] else []

/-- How often the piece is lifted in `n` lines. -/
def lifts (up : Nat → Bool) (n : Nat) : Nat := (List.range n).countP up

theorem garbageTasks_succ (holes : Nat → Fin boardWidth) (up : Nat → Bool) (n : Nat) :
    garbageTasks holes up (n + 1) =
      garbageTasks holes up n ++ .addLine (holes n) :: if up n then [.move .up] else [] := by
  rw [garbageTasks, garbageTasks, List.range_succ, List.flatMap_append, List.flatMap_singleton]

theorem lifts_succ (up : Nat → Bool) (n : Nat) :
    lifts up (n + 1) = lifts up n + if up n then 1 else 0 := by
  rw [lifts, lifts, List.range_succ, List.countP_append, List.countP_singleton]

/-- What is said of the lines before `n` does not depend on what happens at line `n`. -/
theorem lifts_congr {up up' : Nat → Bool} {n : Nat} (h : ∀ i < n, up' i = up i) :
    lifts up' n = lifts up n ∧
      ∀ holes, garbageTasks holes up' n = garbageTasks holes up n := by
  constructor
  · exact List.countP_congr fun i hi => by rw [h i (List.mem_range.mp hi)]
  · intro holes
    rw [garbageTasks, garbageTasks, List.flatMap_def, List.flatMap_def]
    refine congrArg List.flatten (List.map_congr_left fun i hi => ?_)
    rw [h i (List.mem_range.mp hi)]

/-- **At most one lift for each line.** -/
theorem lifts_le (up : Nat → Bool) (n : Nat) : lifts up n ≤ n := by
  have h := List.countP_le_length (p := up) (l := List.range n)
  rwa [List.length_range] at h

/-! ## What the loop keeps -/

/--
`n` lines have been inserted and none of them topped out.

The board is the risen one and the piece is free in it; of the piece only the row has
changed, by as many rows as lifts were recorded.
-/
structure Inserted (s : Tetris) (holes : Nat → Fin boardWidth) (n : Nat) (s' : Tetris) : Prop where
  board : s'.board = s.board.risen holes n
  valid : Valid s'.board s'.currentTetromino
  moved : ∃ up : Nat → Bool,
    s'.currentTetromino = s.currentTetromino.shift 0 (-(lifts up n : Nat)) ∧
    s'.sendTasks = s.sendTasks ++ garbageTasks holes up n
  rest : s' = { s with
    board := s'.board, currentTetromino := s'.currentTetromino, sendTasks := s'.sendTasks }

/-- The next line puts a block in the hidden rows: it is announced, and nothing else happens. -/
structure ToppedOut (s : Tetris) (holeX : Nat) (s' : Tetris) : Prop where
  push : s.board.pushGarbage? holeX = some s'.board
  reached : ¬ s'.board.HiddenEmpty
  tasks : s'.sendTasks = s.sendTasks ++ [.addLine holeX, .gameOver]
  rest : s' = { s with board := s'.board, sendTasks := s'.sendTasks }

theorem inserted_zero {s : Tetris} (hv : Valid s.board s.currentTetromino)
    (holes : Nat → Fin boardWidth) : Inserted s holes 0 s where
  board := (s.board.risen_zero holes).symm
  valid := hv
  moved := ⟨fun _ => false, by simp [lifts], by simp [garbageTasks]⟩
  rest := rfl

/-- Recording one more line, lifted or not, after the `n` before it. -/
theorem Inserted.snoc {s s₁ : Tetris} {holes : Nat → Fin boardWidth} {n : Nat}
    (h : Inserted s holes n s₁) {b : Board} (hb : s₁.board.pushGarbage? (holes n) = some b)
    (lift : Bool)
    (hv : Valid b (s₁.currentTetromino.shift 0 (-(if lift then 1 else 0)))) :
    Inserted s holes (n + 1)
      { s₁ with
        board := b
        currentTetromino := s₁.currentTetromino.shift 0 (-(if lift then 1 else 0))
        sendTasks := s₁.sendTasks ++ .addLine (holes n) :: if lift then [.move .up] else [] } := by
  obtain ⟨hboard, _, ⟨up, hpiece, htasks⟩, hrest⟩ := h
  have hrisen : b = s.board.risen holes (n + 1) :=
    s.board.pushGarbage?_risen holes n (by rw [← hboard]; exact hb)
  -- the lifts so far, and this one
  let up' : Nat → Bool := fun i => if i = n then lift else up i
  have hold : ∀ i < n, up' i = up i := fun i hi => if_neg (Nat.ne_of_lt hi)
  have hnew : up' n = lift := if_pos rfl
  obtain ⟨hcount, hlog⟩ := lifts_congr hold
  refine ⟨hrisen, hv, ⟨up', ?_, ?_⟩, by rw [hrest]⟩
  · dsimp only
    rw [hpiece, Tetromino.shift_shift, lifts_succ, hcount, hnew]
    congr 1
    split <;> omega
  · dsimp only
    rw [htasks, garbageTasks_succ, hlog, hnew, List.append_assoc]

/-- One turn of the loop: the line tops out, or the state is the one of one line more. -/
theorem Inserted.step {s s₁ s₂ : Tetris} {holes : Nat → Fin boardWidth} {n : Nat} {goOn : Bool}
    (h : Inserted s holes n s₁) (ho : GarbageOutcome s₁ (holes n) s₂ goOn) :
    (goOn = false ∧ ToppedOut s₁ (holes n) s₂) ∨
      (goOn = true ∧ (s.board.risen holes (n + 1)).HiddenEmpty ∧ Inserted s holes (n + 1) s₂) := by
  cases ho with
  | toppedOut b hb hover => exact .inl ⟨rfl, hb, hover, rfl, rfl⟩
  | fits b hb hempty hv =>
      have hnext := h.snoc hb false (by simpa using hv)
      refine .inr ⟨rfl, hnext.board ▸ hempty, ?_⟩
      simpa using hnext
  | lifted b hb hempty hv =>
      -- the overlap is below the hidden rows, so the lifted piece is still on the board
      have hin := lift_inBoard h.valid.inBoard hempty hv
      have hnext := h.snoc hb true (by simpa using lift_valid h.valid hb hin)
      refine .inr ⟨rfl, hnext.board ▸ hempty, ?_⟩
      simpa [Tetromino.moved] using hnext

/-- How `AddGarbageLines` can end when `n` lines are pending. -/
inductive GarbageEnd (s : Tetris) (holes : Nat → Fin boardWidth) (n : Nat) (s' : Tetris) : Prop
  /-- Line `m` is the first that reaches the hidden rows; the lines after it are not inserted. -/
  | toppedOut (m : Nat) (hm : m < n)
      (hfirst : ∀ j ≤ m, (s.board.risen holes j).HiddenEmpty)
      (hover : ¬ (s.board.risen holes (m + 1)).HiddenEmpty) (mid : Tetris)
      (hmid : Inserted s holes m mid) (hend : ToppedOut mid (holes m) s')
      (hboard : s'.board = s.board.risen holes (m + 1))
  /-- No line reaches the hidden rows, and all are inserted. -/
  | inserted (hall : ∀ j ≤ n, (s.board.risen holes j).HiddenEmpty) (hend : Inserted s holes n s')

/-- The loop, from line `m` on. -/
theorem addGarbageLoop_ok {s : Tetris} {holes : Nat → Fin boardWidth} :
    ∀ (k m : Nat) {s₁ : Tetris}, Inserted s holes m s₁ →
      (∀ j ≤ m, (s.board.risen holes j).HiddenEmpty) →
      Ok (s₁.addGarbageLoop ((List.range' m k).map fun i => (holes i : Nat)))
        (GarbageEnd s holes (m + k)) := by
  intro k
  induction k with
  | zero => exact fun m s₁ h hall => Ok.pure (.inserted hall h)
  | succ k ih =>
      intro m s₁ h hall
      rw [List.range'_succ, List.map_cons, addGarbageLoop]
      refine Ok.bind (addGarbageLine_ok s₁ (holes m).isLt) ?_
      rintro ⟨s₂, goOn⟩ hout
      dsimp only at hout ⊢
      rcases h.step hout with ⟨rfl, htop⟩ | ⟨rfl, hempty, hnext⟩
      · have hboard : s₂.board = s.board.risen holes (m + 1) :=
          s.board.pushGarbage?_risen holes m (h.board ▸ htop.push)
        exact Ok.pure (.toppedOut m (by omega) hall (hboard ▸ htop.reached) s₁ h htop hboard)
      · have hall' : ∀ j ≤ m + 1, (s.board.risen holes j).HiddenEmpty := by
          intro j hj
          rcases Nat.le_succ_iff.mp hj with hj | rfl
          · exact hall j hj
          · exact hempty
        rw [if_pos rfl, show m + (k + 1) = m + 1 + k by omega]
        exact ih (m + 1) hnext hall'

/--
**Garbage insertion is safe and exact.**

It never leaves the board. Either some line is the first to reach the hidden rows, and it
is inserted, announced and followed by nothing; or all pending lines are inserted, and the
piece is free on the risen board, lifted at most once for each line.
-/
theorem addGarbageLines_exact (s : Tetris) (holes : Nat → Fin boardWidth)
    (hempty : s.board.HiddenEmpty) (hv : Valid s.board s.currentTetromino) :
    ∃ s', s.addGarbageLines holes = some s' ∧
      GarbageEnd s holes s.pendingGarbageLineCount s' := by
  have hzero : ∀ j ≤ 0, (s.board.risen holes j).HiddenEmpty := by
    intro j hj
    rw [Nat.le_zero.mp hj, Board.risen_zero]
    exact hempty
  have hloop := addGarbageLoop_ok s.pendingGarbageLineCount 0 (inserted_zero hv holes) hzero
  rw [Nat.zero_add, ← List.range_eq_range'] at hloop
  exact hloop

/-- All lines with the same hole. -/
def holesAtThree : Nat → Fin boardWidth := fun _ => ⟨3, by decide⟩

/-- A long piece on the floor, and two lines to come. -/
def lyingPiece : Tetris := { Tetris.init 0 with
  currentTetromino := (Tetris.init 0).currentTetromino.shift 0 23
  pendingGarbageLineCount := 2 }

/-- Garbage up to the last row but one, and three lines to come. -/
def nearlyFull : Tetris := { Tetris.init 0 with
  board := Board.empty.risen holesAtThree 19
  pendingGarbageLineCount := 3 }

/-- The piece is lifted with each line; the second line tops out, and the third is not inserted. -/
theorem addGarbageLines_exact_both :
    (∃ s', lyingPiece.addGarbageLines holesAtThree = some s' ∧
      GarbageEnd lyingPiece holesAtThree 2 s' ∧
      s'.sendTasks = [.addLine 3, .move .up, .addLine 3, .move .up]) ∧
    ∃ s', nearlyFull.addGarbageLines holesAtThree = some s' ∧
      GarbageEnd nearlyFull holesAtThree 3 s' ∧
      s'.sendTasks = [.addLine 3, .addLine 3, .gameOver] := by
  have hlifted : (lyingPiece.addGarbageLines holesAtThree).map (·.sendTasks) =
      some [.addLine 3, .move .up, .addLine 3, .move .up] := by decide
  have hstopped : (nearlyFull.addGarbageLines holesAtThree).map (·.sendTasks) =
      some [.addLine 3, .addLine 3, .gameOver] := by decide
  obtain ⟨s, hs, hend⟩ := addGarbageLines_exact lyingPiece holesAtThree (by decide) (by decide)
  obtain ⟨s', hs', hend'⟩ := addGarbageLines_exact nearlyFull holesAtThree (by decide) (by decide)
  rw [hs] at hlifted
  rw [hs'] at hstopped
  exact ⟨⟨s, hs, hend, Option.some.inj hlifted⟩, s', hs', hend', Option.some.inj hstopped⟩

/-! ## Any player's lines

A player whose elimination is announced in the same tick still has his lines inserted, on a
board whose hidden rows are no longer empty. -/

/-- What the loop records: as many lines as it inserts, and whether it was stopped. -/
structure LinesLogged (n : Nat) (new : List TaskType) : Prop where
  goesOn : hasEvent new .gameOver = false → countEvent new .addLine = n
  stopped : hasEvent new .gameOver = true →
    1 ≤ countEvent new .addLine ∧ countEvent new .addLine ≤ n
  /-- The line that stops it is the last thing said, but for the end itself. -/
  last : hasEvent new .gameOver = true →
    ∃ before holeX, new = before ++ [.addLine holeX, .gameOver] ∧ hasEvent before .gameOver = false

theorem garbageOutcome_log {s s' : Tetris} {holeX : Nat} {goOn : Bool}
    (h : GarbageOutcome s holeX s' goOn) : ∃ new, s'.sendTasks = s.sendTasks ++ new ∧
      countEvent new .addLine = 1 ∧ hasEvent new .gameOver = !goOn ∧
      (goOn = false → new = [.addLine holeX, .gameOver]) := by
  cases h with
  | toppedOut b _ _ => exact ⟨_, rfl, rfl, rfl, fun _ => rfl⟩
  | fits b _ _ _ => exact ⟨_, rfl, rfl, rfl, fun hc => Bool.noConfusion hc⟩
  | lifted b _ _ _ => exact ⟨_, rfl, rfl, rfl, fun hc => Bool.noConfusion hc⟩

theorem addGarbageLoop_log : ∀ {l : List Nat} {s : Tetris}, (∀ x ∈ l, x < boardWidth) →
    Ok (s.addGarbageLoop l) fun s' => ∃ new, s'.sendTasks = s.sendTasks ++ new ∧
      LinesLogged l.length new := by
  intro l
  induction l with
  | nil =>
      exact fun _ => Ok.pure ⟨[], (List.append_nil _).symm,
        fun _ => rfl, fun hc => absurd hc (by decide), fun hc => absurd hc (by decide)⟩
  | cons holeX rest ih =>
      intro s hl
      rw [addGarbageLoop]
      refine Ok.bind (addGarbageLine_ok s (hl holeX (List.mem_cons_self ..))) ?_
      rintro ⟨s₁, goOn⟩ hout
      obtain ⟨first, hfirst, hone, hflag, hend⟩ := garbageOutcome_log hout
      dsimp only at hfirst hflag hend ⊢
      cases goOn with
      | false =>
          refine Ok.pure ⟨first, hfirst,
            fun hc => ?_, fun _ => ?_, fun _ => ⟨[], holeX, hend rfl, rfl⟩⟩
          · exact absurd (hc.symm.trans hflag) (by decide)
          · rw [hone, List.length_cons]
            omega
      | true =>
          refine (ih fun x hx => hl x (List.mem_cons_of_mem _ hx)).mono ?_
          rintro s₂ ⟨more, hmore, hlogged⟩
          have hover : hasEvent (first ++ more) .gameOver = hasEvent more .gameOver := by
            rw [hasEvent_append, hflag]
            rfl
          refine ⟨first ++ more, by rw [hmore, hfirst, List.append_assoc],
            fun hc => ?_, fun hc => ?_, fun hc => ?_⟩
          · rw [countEvent_append, hone, hlogged.goesOn (hover ▸ hc), List.length_cons,
              Nat.add_comm]
          · have hmany := hlogged.stopped (hover ▸ hc)
            rw [countEvent_append, hone, List.length_cons]
            omega
          · obtain ⟨before, x, rfl, hbefore⟩ := hlogged.last (hover ▸ hc)
            refine ⟨first ++ before, x, (List.append_assoc ..).symm, ?_⟩
            rw [hasEvent_append, hflag, hbefore]
            rfl

/-- **`AddGarbageLines` records every pending line**, unless one of them puts a block in the hidden
rows. -/
theorem addGarbageLines_logged (s : Tetris) (holes : Nat → Fin boardWidth) :
    Ok (s.addGarbageLines holes) fun s' => ∃ new, s'.sendTasks = s.sendTasks ++ new ∧
      LinesLogged s.pendingGarbageLineCount new := by
  have hloop := addGarbageLoop_log (s := s)
    (l := (List.range s.pendingGarbageLineCount).map fun i => (holes i : Nat)) fun x hx => by
      obtain ⟨i, _, rfl⟩ := List.mem_map.mp hx
      exact (holes i).isLt
  rwa [List.length_map, List.length_range] at hloop

end Tetris

end ProjectTetris

import ProjectTetris.Rooms.TickPackets

/-!
# The stages of a tick

Between two ticks a slot is quiet: nothing queued, nothing pending, nothing in its
buffer. This file follows one slot from there through the stages a tick has before
its packets are built, the same for every kind of room: inputs are handed out, the
engine runs, and garbage is added.
-/

namespace ProjectTetris

open Checked

/-- A slot whose player takes part in a running game. -/
structure InGame (spawnLength : Nat) (p : Player) : Prop where
  state : p.roomPlayerState = .play ∨ p.roomPlayerState = .gameOver
  inBoard : Tetris.InBoard p.tetris.currentTetromino
  index : p.tetrominoIndex + 2 ≤ spawnLength
  live : p.roomPlayerState = .play → p.tetris.Playing

/-- A slot between two events. -/
structure SlotOk (gameOn : Prop) (spawnLength : Nat) (p : Player) : Prop where
  settled : p.activeState ≠ .pending
  fresh : p.tetris.Fresh
  buffer : p.sendBuffer = []
  idle : ¬ (gameOn ∧ p.isActive = true) →
    (p.roomPlayerState = .wait ∨ p.roomPlayerState = .ready) ∧ p.tetrominoIndex = 0
  inGame : gameOn → p.isActive = true → InGame spawnLength p

namespace TetrisRoom

/-! ## Inputs -/

/-- The slot with other inputs queued, if anybody sits there. -/
def Queued (p q : Player) : Prop :=
  (∃ inputs, q = { p with tetris := { p.tetris with inputTasks := inputs } }) ∧
    (p.isActive = false → q = p)

theorem Queued.refl (p : Player) : Queued p p := ⟨⟨p.tetris.inputTasks, rfl⟩, fun _ => rfl⟩

theorem Queued.trans {p q r : Player} (h₁ : Queued p q) (h₂ : Queued q r) : Queued p r := by
  obtain ⟨⟨i₁, rfl⟩, h₁⟩ := h₁
  obtain ⟨⟨i₂, rfl⟩, h₂⟩ := h₂
  exact ⟨⟨i₂, rfl⟩, fun ha => (h₂ ha).trans (h₁ ha)⟩

theorem distributeInput_ok (r : TetrisRoom) (env : RoomEnv) (task : PlayerInputTask) :
    ∃ ps, r.distributeInput env task = { r with roomPlayers := ps } ∧
      SlotWise Queued r.roomPlayers ps := by
  unfold distributeInput
  split
  · exact ⟨r.roomPlayers, rfl, .refl fun p _ => .refl p⟩
  · split
    · exact ⟨r.roomPlayers, rfl, .refl fun p _ => .refl p⟩
    · rename_i i hfind
      refine ⟨_, rfl, .modify (fun p _ => .refl p) fun p hp => ⟨⟨_, rfl⟩, fun hidle => ?_⟩⟩
      -- the slot was found by its session, so somebody sits there
      obtain ⟨hlt, hany, _⟩ := List.findIdx?_eq_some_iff_getElem.mp hfind
      rw [(List.getElem?_eq_some_iff.mp hp).2, findSession, if_neg (by rw [hidle]; decide)] at hany
      exact absurd hany (by simp)

theorem distributeInputs_ok (r : TetrisRoom) (env : RoomEnv) :
    ∃ ps, r.distributeInputs env = { r with playTasks := [], roomPlayers := ps } ∧
      SlotWise Queued r.roomPlayers ps := by
  have hloop : ∀ (tasks : List PlayerInputTask) (r : TetrisRoom),
      ∃ ps, tasks.foldl (fun r task => r.distributeInput env task) r =
        { r with roomPlayers := ps } ∧
        SlotWise Queued r.roomPlayers ps := by
    intro tasks
    induction tasks with
    | nil => exact fun r => ⟨r.roomPlayers, rfl, .refl fun p _ => .refl p⟩
    | cons task rest ih =>
        intro r
        obtain ⟨ps, heq, hps⟩ := distributeInput_ok r env task
        obtain ⟨qs, heq', hqs⟩ := ih (r.distributeInput env task)
        refine ⟨qs, ?_, hps.comp (by rw [heq] at hqs; exact hqs) fun _ _ _ => Queued.trans⟩
        rw [List.foldl_cons, heq', heq]
  obtain ⟨ps, heq, hps⟩ := hloop r.playTasks r.clearPlayTasks
  exact ⟨ps, by rw [distributeInputs, heq]; rfl, hps⟩

/-- Inputs leave a room of its kind. -/
theorem distributeInputs_kind (r : TetrisRoom) (env : RoomEnv) :
    (r.distributeInputs env).kind = r.kind := by
  obtain ⟨ps, heq, _⟩ := distributeInputs_ok r env
  rw [heq]

/-! ## The engine -/

/-- Lines a player can have pending in one tick: one of his own, and four from each slot. -/
def garbageLimit : Nat := 1 + 5 * 4

/-- The most the engine can record in one tick of a room. -/
def tickBudget : Nat := inputTypeCount * inputBudget + garbageLimit * garbageBudget

/--
A slot `q` in the course of a tick that began with `p`: the seat, the state and the
place in the list of pieces are those of `p`, and the game of an active slot is one
the engine can have made of `p`'s.
-/
structure Ticked (t : Int) (budget : Nat) (p q : Player) : Prop where
  rest : q = { p with
    tetris := q.tetris
    prevRoomPlayerState := q.prevRoomPlayerState
    score := q.score
    combo := q.combo }
  idle : p.isActive = false → q = p
  log : p.isActive = true → Tetris.TickLog (p.roomPlayerState = .play)
    ⟨p.tetris.board, some p.tetris.currentTetromino⟩ t budget q.tetris

theorem Ticked.seat {t : Int} {budget : Nat} {p q : Player} (h : Ticked t budget p q) :
    q.seat = p.seat := by
  rw [h.rest]; rfl

theorem Ticked.isActive {t : Int} {budget : Nat} {p q : Player} (h : Ticked t budget p q) :
    q.isActive = p.isActive := isActive_of_seat h.seat

theorem Ticked.roomPlayerState {t : Int} {budget : Nat} {p q : Player} (h : Ticked t budget p q) :
    q.roomPlayerState = p.roomPlayerState := by
  rw [h.rest]

/-- The slot with its inputs queued, and perhaps the state of the last tick noted. -/
def Noted (p q : Player) : Prop :=
  (∃ prev inputs, q = { p with
    prevRoomPlayerState := prev, tetris := { p.tetris with inputTasks := inputs } }) ∧
  (p.isActive = false → q = p)

theorem Noted.seat {p q : Player} (h : Noted p q) : q.seat = p.seat := by
  obtain ⟨⟨prev, inputs, rfl⟩, _⟩ := h
  rfl

theorem Queued.noted {p q : Player} (h : Queued p q) : Noted p q := by
  obtain ⟨⟨inputs, rfl⟩, hidle⟩ := h
  exact ⟨⟨p.prevRoomPlayerState, inputs, rfl⟩, hidle⟩

/-- **`ProcessTick` on one slot**, from between two ticks. -/
theorem processTickOf_ok {env : RoomEnv} {t : Int} {n : Nat} {p q : Player}
    (hp : SlotOk True n p) (hq : Noted p q) (hsome : (findSession env p).isSome = p.isActive) :
    Ok (processTickOf env t q) fun q' =>
      Ticked t (inputTypeCount * inputBudget) p q' ∧
        q'.prevRoomPlayerState = q.prevRoomPlayerState ∧
        q'.tetris.pendingGarbageLineCount ≤ 1 := by
  rw [processTickOf, findSession_of_seat env hq.seat, hsome]
  obtain ⟨⟨prev, inputs, hrest⟩, hidle⟩ := hq
  cases ha : p.isActive with
  | false =>
      have hsame := hidle ha
      refine Ok.pure
        ⟨⟨by rw [hrest], fun _ => hsame, fun h => absurd (ha.symm.trans h) (by decide)⟩, rfl, ?_⟩
      rw [hsame, hp.fresh.garbage]
      exact Nat.zero_le 1
  | true =>
      obtain ⟨s', hs', hlog, hcount⟩ := @Tetris.processTick_log
        (p.roomPlayerState = .play) t { p.tetris with inputTasks := inputs }
        (hp.inGame trivial ha).inBoard hp.fresh.tasks hp.fresh.garbage
        fun hplay =>
          have hl := (hp.inGame trivial ha).live hplay
          ⟨hl.hidden, hl.noFullRow, hl.valid⟩
      have htetris : q.tetris = { p.tetris with inputTasks := inputs } := by rw [hrest]
      rw [if_pos rfl, htetris, hs']
      exact Ok.pure ⟨⟨by rw [hrest], fun h => absurd (ha.symm.trans h) (by decide), fun _ => hlog⟩,
        rfl, hcount⟩

/-- One slot's garbage: what has been asked for is added, within the budget. -/
theorem addGarbageLinesTo_ok {env : RoomEnv} {t : Int} {budget lines : Nat} {p q : Player}
    (h : Ticked t budget p q) (hlines : q.tetris.pendingGarbageLineCount ≤ lines) :
    Ok (addGarbageLinesTo env q) fun q' =>
      Ticked t (budget + lines * garbageBudget) p q' ∧
        q'.prevRoomPlayerState = q.prevRoomPlayerState := by
  have hweak : p.isActive = true → Tetris.TickLog (p.roomPlayerState = .play)
      ⟨p.tetris.board, some p.tetris.currentTetromino⟩ t (budget + lines * garbageBudget)
      q.tetris := fun ha =>
    { h.log ha with size := Nat.le_trans (h.log ha).size (Nat.le_add_right _ _) }
  rw [addGarbageLinesTo]
  split
  · rename_i hplay
    have ha : p.isActive = true := h.isActive ▸ hplay.1
    obtain ⟨s', hs', hlog⟩ := Tetris.addGarbageLines_log (h.log ha) (env.holes q.sessionKey)
    have hmul := Nat.mul_le_mul_right garbageBudget hlines
    rw [hs']
    refine Ok.pure ⟨⟨?_, fun hf => ?_, fun _ => ?_⟩, rfl⟩
    · rw [h.rest]
    · rw [hf] at ha; exact absurd ha (by decide)
    · exact { hlog with size := by have := hlog.size; dsimp only; omega }
  · exact Ok.pure ⟨⟨h.rest, h.idle, hweak⟩, rfl⟩

end TetrisRoom

end ProjectTetris

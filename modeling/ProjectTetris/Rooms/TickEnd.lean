import ProjectTetris.Rooms.TickSteps

/-!
# From the verdict to the next tick

The second half of a tick, for one slot: what the room adds to the tasks, what the
packets leave of it, and the tidying up. The slot is then quiet again, and a player
who is still in the game has a piece that fits.
-/

namespace ProjectTetris

open Checked

/-- **A piece fits at the spawn position whenever the hidden rows are empty**, turned or not. -/
theorem Tetris.inBoard_at_spawn {t : Tetromino} (h : t.movedPos = spawnPos) :
    Tetris.InBoard t := by
  intro p hp
  obtain ⟨d, hd, rfl⟩ := List.mem_map.mp hp
  have hbox := t.defaultPos_box hd
  rw [h]
  unfold Board.InRange spawnPos totalHeight boardHeight hiddenHeight boardWidth
  dsimp only
  omega

theorem Tetris.valid_at_spawn {b : Board} {t : Tetromino} (hb : b.HiddenEmpty)
    (h : t.movedPos = spawnPos) : Tetris.Valid b t := by
  intro p hp
  refine hb.cell (Tetris.inBoard_at_spawn h p hp) ?_
  obtain ⟨d, hd, rfl⟩ := List.mem_map.mp hp
  have hbox := t.defaultPos_box hd
  rw [h]
  unfold spawnPos hiddenHeight
  dsimp only
  omega

namespace TetrisRoom

/-! ## The tasks of the room -/

/-- The slot with more tasks. -/
def addTasks (p : Player) (extra : List TaskType) : Player :=
  { p with tetris := { p.tetris with sendTasks := p.tetris.sendTasks ++ extra } }

theorem addSpawnTask_eq (p : Player) : addSpawnTask p = addTasks p
    (if p.isActive ∧ p.roomPlayerState = .play ∧ hasEvent p.tetris.sendTasks .fix then [.spawn]
      else []) := by
  unfold addSpawnTask addTasks
  split
  · rfl
  · rw [List.append_nil]

/-- What a room ever adds: nothing, a spawn, or the end of the game. -/
inductive RoomTasks : List TaskType → Prop
  | none : RoomTasks []
  | spawn : RoomTasks [.spawn]
  | gameEnd (winnerId : Int) : RoomTasks [.gameEnd winnerId]

theorem roomTasks_addSpawnTask (p : Player) : RoomTasks
    (if p.isActive ∧ p.roomPlayerState = .play ∧ hasEvent p.tetris.sendTasks .fix then [.spawn]
      else []) := by
  split
  · exact .spawn
  · exact .none

/-- **The buffer always has room**: the engine and the room together stay far below `BUF_SIZE`. -/
theorem ready_addTasks {t : Int} {n : Nat} {p q : Player} {extra : List TaskType}
    {l : List TetrominoType} (hp : SlotOk True n p) (h : Ticked t tickBudget p q)
    (ha : p.isActive = true) (hextra : RoomTasks extra) (hl : n ≤ l.length) :
    Ready l (addTasks q extra) := by
  have hlog := h.log ha
  have hne : ∀ task ∈ q.tetris.sendTasks, task ≠ .spawn := by
    rintro task ht rfl
    exact absurd (hlog.engine _ ht) (by decide)
  have hbudget : tickBudget + S2CType.spawn.size ≤ bufSize := by decide
  have hsize := hlog.size
  have hbuffer : (addTasks q extra).sendDataSize = 0 := by
    have hempty : (addTasks q extra).sendBuffer = [] := by
      rw [addTasks, h.rest]; exact hp.buffer
    rw [Player.sendDataSize, hempty]; rfl
  have hindex : (addTasks q extra).tetrominoIndex + 2 ≤ l.length := by
    have hi := (hp.inGame trivial ha).index
    rw [addTasks, h.rest]
    exact Nat.le_trans hi hl
  refine ⟨?_, ?_, hindex⟩
  · cases hextra with
    | none => exact .inl (by simpa [addTasks] using hne)
    | spawn => exact .inr ⟨q.tetris.sendTasks, rfl, hne⟩
    | gameEnd id =>
        refine .inl fun task ht => ?_
        rcases List.mem_append.mp ht with ht | ht
        · exact hne task ht
        · rw [List.mem_singleton.mp ht]
          exact fun hc => TaskType.noConfusion hc
  · rw [hbuffer, addTasks, tasksSize_append]
    have hone : tasksSize extra ≤ S2CType.spawn.size := by
      cases hextra with
      | none => decide
      | spawn => decide
      | gameEnd id => exact (by decide : S2CType.gameEnd.size ≤ S2CType.spawn.size)
    omega

/-! ## The end of the tick -/

/-- `ResetPlayerTickState` and the clearing of the buffer, on one slot with a session. -/
def tidy (env : RoomEnv) (p : Player) : Player :=
  { p with
    tetris :=
      (if env.isTestMode then p.tetris.resetTetrominoPosition spawnPos else p.tetris).resetTickData
    sendBuffer := [] }

/-- What `AppendTickPackets` makes of any slot. -/
def Delivered (l : List TetrominoType) (p q : Player) : Prop :=
  (playing p ∧ Appended l p q) ∨ (¬ playing p ∧ q = p)

theorem Delivered.seat {l : List TetrominoType} {p q : Player} (h : Delivered l p q) :
    q.seat = p.seat := by
  rcases h with ⟨_, h⟩ | ⟨_, rfl⟩
  · exact h.seat
  · rfl

theorem tidy_inGame {env : RoomEnv} {n : Nat} {s : Player}
    (hstate : s.roomPlayerState = .play ∨ s.roomPlayerState = .gameOver)
    (hboard : Tetris.InBoard s.tetris.currentTetromino) (hindex : s.tetrominoIndex + 2 ≤ n)
    (hlive : s.roomPlayerState = .play → s.tetris.Playing) : InGame n (tidy env s) := by
  cases htest : env.isTestMode with
  | false =>
      refine ⟨hstate, by simpa [tidy, htest, Tetris.resetTickData] using hboard, hindex,
        fun hp => ?_⟩
      have hl := hlive hp
      constructor <;> simp only [tidy, htest, Tetris.resetTickData]
      · exact hl.hidden
      · exact hl.noFullRow
      · exact hl.valid
  | true =>
      refine ⟨hstate, ?_, hindex, fun hp => ?_⟩
      · simp only [tidy, htest, if_true, Tetris.resetTickData, Tetris.resetTetrominoPosition]
        exact Tetris.inBoard_at_spawn rfl
      · have hl := hlive hp
        constructor <;> simp only [tidy, htest, if_true, Tetris.resetTickData,
          Tetris.resetTetrominoPosition]
        · exact hl.hidden
        · exact hl.noFullRow
        · exact Tetris.valid_at_spawn hl.hidden rfl

/-- The state a player in the game has after the tasks `l` have been applied. -/
theorem appended_state {p : Player} (id : Int) (l : List TaskType)
    (hp : p.roomPlayerState = .play) :
    (appended p id l).roomPlayerState = .play ∧ hasEvent l .gameOver = false ∨
      (appended p id l).roomPlayerState = .gameOver := by
  simp only [appended]
  split
  · exact .inr rfl
  · exact .inl ⟨hp, Bool.eq_false_iff.mpr ‹_›⟩

/-- A player in the game whose piece was not fixed: no spawn, and the piece still fits. -/
theorem inGame_unfixed {t : Int} {n : Nat} {v₀ : View} {q s : Player} {l : List TetrominoType}
    (env : RoomEnv) (hlog : Tetris.TickLog True v₀ t tickBudget q.tetris)
    (hplay : q.roomPlayerState = .play) (hindex : q.tetrominoIndex + 2 ≤ n)
    (hfix : hasEvent q.tetris.sendTasks .fix = false) (happ : Appended l q s) :
    InGame n (tidy env s) := by
  cases happ with
  | plain _ =>
      have hstate := appended_state q.sessionKey.playerId q.tetris.sendTasks hplay
      refine tidy_inGame (hstate.imp And.left id) hlog.inBoard hindex fun hc => ?_
      have hover : hasEvent q.tetris.sendTasks .gameOver = false := by
        rcases hstate with ⟨_, hover⟩ | hstate
        · exact hover
        · rw [hstate] at hc; exact absurd hc (by decide)
      have hlive := hlog.live trivial
      obtain ⟨hhidden, hrows⟩ := hlive.clean hover
      exact ⟨hhidden, hrows, hlive.free hover hfix⟩
  | respawned engine htasks =>
      have hmem : TaskType.spawn ∈ q.tetris.sendTasks := by rw [htasks]; simp
      exact absurd (hlog.engine _ hmem) (by decide)

/-- A player in the game whose piece was fixed: the next one is at the spawn position. -/
theorem inGame_respawned {t : Int} {v₀ : View} {q s : Player} {l : List TetrominoType}
    (env : RoomEnv) (hlog : Tetris.TickLog True v₀ t tickBudget q.tetris)
    (hplay : q.roomPlayerState = .play) (happ : Appended l (addTasks q [.spawn]) s) :
    InGame l.length (tidy env s) := by
  cases happ with
  | plain hnone => exact absurd rfl (hnone .spawn (by simp [addTasks]))
  | respawned engine htasks hne type next htype hnext =>
      have hengine : engine = q.tetris.sendTasks := List.append_cancel_right htasks.symm
      subst hengine
      have hlt := (List.getElem?_eq_some_iff.mp hnext).1
      have hstate := appended_state (p := addTasks q [.spawn])
        (addTasks q [.spawn]).sessionKey.playerId q.tetris.sendTasks hplay
      refine tidy_inGame (hstate.imp And.left id) (Tetris.inBoard_at_spawn rfl) ?_ fun hc => ?_
      · simp only [spawned, appended, addTasks] at hlt ⊢
        omega
      · have hover : hasEvent q.tetris.sendTasks .gameOver = false := by
          rcases hstate with ⟨_, hover⟩ | hstate
          · exact hover
          · exact absurd (hstate.symm.trans hc) (by decide)
        obtain ⟨hhidden, hrows⟩ := (hlog.live trivial).clean hover
        exact ⟨hhidden, hrows, Tetris.valid_at_spawn hhidden rfl⟩

theorem TickLog_true {inGame : Prop} {v₀ : View} {t : Int} {budget : Nat} {s : Tetris}
    (hg : inGame) (h : Tetris.TickLog inGame v₀ t budget s) : Tetris.TickLog True v₀ t budget s :=
  ⟨h.inBoard, h.engine, h.size, fun _ => h.live hg, fun _ => h.once hg, fun _ => h.replays hg⟩

/-- A slot with a session, after the tick. -/
theorem inGame_next {env : RoomEnv} {t : Int} {n : Nat} {p q s : Player} {l : List TetrominoType}
    (hp : SlotOk True n p) (hn : n ≤ l.length) (h : Ticked t tickBudget p q)
    (hs : Delivered l (addSpawnTask q) s) (ha : p.isActive = true) :
    InGame l.length (tidy env s) := by
  have hin := hp.inGame trivial ha
  have hlog := h.log ha
  have hqactive : q.isActive = true := h.isActive.trans ha
  have hindex : q.tetrominoIndex + 2 ≤ n := by rw [h.rest]; exact hin.index
  rcases hin.state with hplay | hover
  · have hqplay : q.roomPlayerState = .play := h.roomPlayerState.trans hplay
    have hplaying : playing (addSpawnTask q) := by
      rw [addSpawnTask_eq]; exact ⟨hqplay, hqactive⟩
    have happ : Appended l (addSpawnTask q) s := by
      rcases hs with ⟨_, happ⟩ | ⟨hno, _⟩
      · exact happ
      · exact absurd hplaying hno
    by_cases hfix : hasEvent q.tetris.sendTasks .fix = true
    · rw [addSpawnTask_eq, if_pos ⟨hqactive, hqplay, hfix⟩] at happ
      exact inGame_respawned env (TickLog_true hplay hlog) hqplay happ
    · rw [addSpawnTask, if_neg fun hc => hfix hc.2.2] at happ
      exact inGame_unfixed env (TickLog_true hplay hlog) hqplay (Nat.le_trans hindex hn)
        (Bool.eq_false_iff.mpr hfix) happ
  · -- eliminated before: nothing was sent, and nothing but the board is promised
    have hqover : q.roomPlayerState = .gameOver := h.roomPlayerState.trans hover
    have hunchanged : addSpawnTask q = q := by
      rw [addSpawnTask, if_neg]
      rintro ⟨_, hc, _⟩
      rw [hqover] at hc
      exact absurd hc (by decide)
    have hsq : s = q := by
      rcases hs with ⟨⟨hc, _⟩, _⟩ | ⟨_, heq⟩
      · rw [hunchanged, hqover] at hc; exact absurd hc (by decide)
      · rw [heq, hunchanged]
    rw [hsq]
    refine tidy_inGame (.inr hqover) hlog.inBoard (Nat.le_trans hindex hn) fun hc => ?_
    rw [hqover] at hc
    exact absurd hc (by decide)

/-- Nobody there: nothing has touched the slot. -/
theorem slotOk_vacant {gameOn : Prop} {t : Int} {n m : Nat} {p q s : Player}
    {l : List TetrominoType} (hp : SlotOk True n p) (h : Ticked t tickBudget p q)
    (hs : Delivered l q s) (ha : p.isActive = false) : SlotOk gameOn m s := by
  have hqa : q.isActive = false := h.isActive.trans ha
  have hsq : s = q := by
    rcases hs with ⟨⟨_, hc⟩, _⟩ | ⟨_, heq⟩
    · rw [hqa] at hc; exact absurd hc (by decide)
    · exact heq
  have hidle := hp.idle (by rw [ha]; simp)
  have htetris := congrArg Player.tetris (h.idle ha)
  have hrest := h.rest
  rw [hsq]
  refine ⟨?_, by rw [htetris]; exact hp.fresh, ?_, fun _ => ?_, fun _ hc => ?_⟩
  · rw [hrest]; exact hp.settled
  · rw [hrest]; exact hp.buffer
  · rw [hrest]; exact hidle
  · rw [hqa] at hc; exact absurd hc (by decide)

/--
**A tick ends where it began**: whatever happened to the slot, it is quiet again,
and its player, if not eliminated, has empty hidden rows, no complete row and a
piece that fits.
-/
theorem slotOk_next {env : RoomEnv} {t : Int} {n : Nat} {p q s : Player} {l : List TetrominoType}
    (hp : SlotOk True n p) (hn : n ≤ l.length) (h : Ticked t tickBudget p q)
    (hs : Delivered l (addSpawnTask q) s) :
    SlotOk True l.length (if s.isActive then tidy env s else s) := by
  have hseat : s.seat = p.seat := by
    rw [hs.seat, addSpawnTask_eq]
    exact h.seat
  have hactive : s.isActive = p.isActive := isActive_of_seat hseat
  rw [hactive]
  cases ha : p.isActive with
  | false =>
      have hunchanged : addSpawnTask q = q := by
        rw [addSpawnTask, if_neg]
        rintro ⟨hc, _⟩
        rw [h.isActive, ha] at hc
        exact absurd hc (by decide)
      rw [hunchanged] at hs
      exact slotOk_vacant hp h hs ha
  | true =>
      rw [if_pos rfl]
      have hactive' : (tidy env s).isActive = true := hactive.trans ha
      have hsettled : (tidy env s).activeState = p.activeState := congrArg Prod.snd hseat
      exact ⟨by rw [hsettled]; exact hp.settled, Tetris.resetTickData_fresh _, rfl,
        fun hc => absurd ⟨trivial, hactive'⟩ hc, fun _ _ => inGame_next hp hn h hs ha⟩

end TetrisRoom

end ProjectTetris

import Mathlib.Data.Fintype.Pi
import ProjectTetris.Client.Delivery
import ProjectTetris.Game.TaskRange
import ProjectTetris.Net.GamePackets
import ProjectTetris.Rooms.FreshStart
import ProjectTetris.Rooms.SlotChanges
import ProjectTetris.Rooms.Winner

/-!
# Numbers in one byte

The client reads a `char` with the format `b`, so a number arrives as it was if it fits a
signed byte. Places on the board do, and so do pieces and moves. The combo is a counter that
only a fix without a line sets back, not even the end of a game does; after 127 fixes with a
line each the next one is announced as -128.
-/

namespace ProjectTetris

open Checked Client

/-! ## One number -/

theorem int8_toInt_ofInt_iff (v : Int) : (Int8.ofInt v).toInt = v ↔ -128 ≤ v ∧ v ≤ 127 := by
  constructor
  · intro h
    have hlow := (Int8.ofInt v).le_toInt
    have hhigh := (Int8.ofInt v).toInt_lt
    rw [h] at hlow hhigh
    omega
  · intro h
    exact Int8.toInt_ofInt_of_le (by omega) (by omega)

/-- The client has the same integers as the server in all members that were narrowed. -/
def DecodedExactly (packet : S2CPacket) : Prop :=
  ∀ p, packet.gameStruct = some p → ∃ recv, PacketManager.bytesToStruct p.bytes = .ok recv ∧
    ∀ m ∈ packet.charMembers, recv.attributes.lookup (attributeOf packet.type m.1) =
      some (.int m.2)

/-- The object a struct arrives as is the only one. -/
theorem decodedExactly_of_read {packet : S2CPacket} {p : S2CStruct}
    (h : packet.gameStruct = some p) :
    DecodedExactly packet ↔
      ∀ m ∈ packet.charMembers, p.read.attributes.lookup (attributeOf packet.type m.1) =
        some (.int m.2) := by
  have hread := p.bytesToStruct_bytes
  constructor
  · intro hdecoded
    obtain ⟨recv, hrecv, hmembers⟩ := hdecoded p h
    rw [hread] at hrecv
    cases hrecv
    exact hmembers
  · intro hmembers p' hp'
    rw [h] at hp'
    cases hp'
    exact ⟨p.read, hread, hmembers⟩

/-- **A packet is decoded exactly if its numbers fit a signed byte**, and only then. -/
theorem decodedExactly_iff (packet : S2CPacket) :
    DecodedExactly packet ↔ ∀ m ∈ packet.charMembers, -128 ≤ m.2 ∧ m.2 ≤ 127 := by
  have hint : ∀ a b : Int, some (PyValue.int a) = some (PyValue.int b) ↔ a = b := by simp
  cases packet with
  | move | addLine =>
      rw [decodedExactly_of_read rfl]
      simp only [S2CPacket.charMembers, List.mem_singleton, forall_eq, ← int8_toInt_ofInt_iff]
      exact hint _ _
  | fix | clearLine =>
      rw [decodedExactly_of_read rfl]
      simp only [S2CPacket.charMembers, List.mem_cons, List.not_mem_nil, or_false,
        forall_eq_or_imp, forall_eq, ← int8_toInt_ofInt_iff]
      exact and_congr (hint _ _) (hint _ _)
  | spawn =>
      rw [decodedExactly_of_read rfl]
      simp only [S2CPacket.charMembers, List.mem_cons, List.not_mem_nil, or_false,
        forall_eq_or_imp, forall_eq, ← int8_toInt_ofInt_iff]
      exact and_congr (hint _ _) (and_congr (hint _ _) (and_congr (hint _ _) (hint _ _)))
  | gameOver | gameEnd =>
      rw [decodedExactly_of_read rfl]
      simp only [S2CPacket.charMembers, List.not_mem_nil, false_imp_iff, implies_true]
  | _ =>
      simp only [DecodedExactly, S2CPacket.gameStruct, S2CPacket.charMembers]
      simp

/-! ## What a tick writes -/

namespace TetrisRoom

/-- A slot whose packets have not been built yet. -/
structure Fitting (p : Player) : Prop where
  combo : 0 ≤ p.combo
  buffer : p.sendBuffer = []
  inBoard : p.isActive = true → Tetris.InBoard p.tetris.currentTetromino
  tasks : ∀ task ∈ p.tetris.sendTasks, task.InRange

section Fitting

variable {r r' : TetrisRoom} {env : RoomEnv} {t : Int} {ps qs : List Player}

/-- The same slot, its engine further on. -/
theorem Fitting.advance {p : Player} {s : Tetris} (h : Fitting p)
    (hs : p.isActive = true → s.LogInRange)
    (hidle : p.isActive = false → s.sendTasks = p.tetris.sendTasks) :
    Fitting { p with tetris := s } where
  combo := h.combo
  buffer := h.buffer
  inBoard := fun ha => (hs ha).inBoard
  tasks := by
    intro task ht
    cases ha : p.isActive with
    | true => exact (hs ha).tasks task ht
    | false => exact h.tasks task (hidle ha ▸ ht)

theorem Fitting.log {p : Player} (h : Fitting p) (ha : p.isActive = true) : p.tetris.LogInRange :=
  ⟨h.inBoard ha, h.tasks⟩

/-- A change that leaves the piece and the log alone. -/
theorem Fitting.of_same {p q : Player} (h : Fitting p) (hcombo : q.combo = p.combo)
    (hbuffer : q.sendBuffer = p.sendBuffer) (hactive : q.isActive = p.isActive)
    (hpiece : q.tetris.currentTetromino = p.tetris.currentTetromino)
    (htasks : q.tetris.sendTasks = p.tetris.sendTasks) : Fitting q where
  combo := hcombo ▸ h.combo
  buffer := hbuffer.trans h.buffer
  inBoard := fun ha => hpiece ▸ h.inBoard (hactive ▸ ha)
  tasks := htasks ▸ h.tasks

theorem fitting_mapM {f : Player → Option Player}
    (hf : ∀ p q, Fitting p → f p = some q → Fitting q) (h : ps.mapM f = some qs)
    (hps : ∀ p ∈ ps, Fitting p) : ∀ q ∈ qs, Fitting q := by
  intro q hq
  obtain ⟨i, hi⟩ := List.mem_iff_getElem?.mp hq
  rw [getElem?_mapM h i] at hi
  obtain ⟨p, hp, hpq⟩ := Option.bind_eq_some_iff.mp hi
  exact hf p q (hps p (List.mem_of_getElem? hp)) hpq

theorem isActive_of_findSession {p : Player} (h : (findSession env p).isSome = true) :
    p.isActive = true := by
  unfold findSession at h
  split at h
  next ha => exact ha
  next => cases h

theorem fitting_distributeInputs (h : ∀ p ∈ r.roomPlayers, Fitting p) :
    ∀ p ∈ (r.distributeInputs env).roomPlayers, Fitting p := by
  obtain ⟨ps, heq, hps⟩ := distributeInputs_ok r env
  intro q hq
  rw [heq] at hq
  obtain ⟨p, hp, ⟨inputs, rfl⟩, _⟩ := hps.mem hq
  exact (h p hp).of_same rfl rfl rfl rfl rfl

theorem fitting_processTicks (h : ∀ p ∈ r.roomPlayers, Fitting p)
    (hr : r.processTicks env t = some r') :
    ∀ p ∈ r'.roomPlayers, Fitting p := by
  obtain ⟨ps, hps, hr'⟩ := Option.bind_eq_some_iff.mp hr
  cases hr'
  refine fitting_mapM (fun p q hp hq => ?_) hps h
  unfold processTickOf at hq
  split at hq
  next hsome =>
    obtain ⟨s, hs, hq⟩ := Option.bind_eq_some_iff.mp hq
    cases hq
    have ha := isActive_of_findSession hsome
    exact hp.advance (fun _ => (Tetris.processTick_inRange (hp.log ha)).of_eq_some hs)
      fun hno => absurd (hno.symm.trans ha) Bool.false_ne_true
  next =>
    cases hq
    exact hp

theorem fitting_addGarbageLines (h : ∀ p ∈ r.roomPlayers, Fitting p)
    (hr : r.addGarbageLines env = some r') :
    ∀ p ∈ r'.roomPlayers, Fitting p := by
  obtain ⟨ps, hps, hr'⟩ := Option.bind_eq_some_iff.mp hr
  cases hr'
  refine fitting_mapM (fun p q hp hq => ?_) hps h
  unfold addGarbageLinesTo at hq
  split at hq
  next hin =>
    obtain ⟨s, hs, hq⟩ := Option.bind_eq_some_iff.mp hq
    cases hq
    exact hp.advance (fun _ => (Tetris.addGarbageLines_inRange (hp.log hin.1) _).of_eq_some hs)
      fun hno => absurd (hno.symm.trans hin.1) Bool.false_ne_true
  next =>
    cases hq
    exact hp

theorem fitting_updatePrevPlayerStates (h : ∀ p ∈ r.roomPlayers, Fitting p) :
    ∀ p ∈ (MultiRoom.updatePrevPlayerStates r env).roomPlayers, Fitting p := by
  unfold MultiRoom.updatePrevPlayerStates
  split
  next => exact h
  next =>
    intro q hq
    obtain ⟨p, hp, rfl⟩ := List.mem_map.mp hq
    dsimp only
    split
    next => exact (h p hp).of_same rfl rfl rfl rfl rfl
    next => exact h p hp

theorem fitting_distributeGarbageLines (h : ∀ p ∈ r.roomPlayers, Fitting p) :
    ∀ p ∈ (MultiRoom.distributeGarbageLines r).roomPlayers, Fitting p := by
  have hloop : ∀ (is : List Nat) (r : TetrisRoom), (∀ p ∈ r.roomPlayers, Fitting p) →
      ∀ p ∈ (is.foldl MultiRoom.attackFrom r).roomPlayers, Fitting p := by
    intro is
    induction is with
    | nil => exact fun r h => h
    | cons i rest ih =>
        intro r h
        refine ih _ fun q hq => ?_
        obtain ⟨j, hj⟩ := List.mem_iff_getElem?.mp hq
        rw [getElem?_attackFrom, Option.map_eq_some_iff] at hj
        obtain ⟨p, hp, rfl⟩ := hj
        have hfit := h p (List.mem_of_getElem? hp)
        split
        next => exact hfit.of_same rfl rfl rfl rfl rfl
        next => exact hfit
  exact hloop _ r h

theorem fitting_beforeVerdict (h : ∀ p ∈ r.roomPlayers, Fitting p)
    (hr : MultiRoom.beforeVerdict (r.distributeInputs env) env t = some r') :
    ∀ p ∈ r'.roomPlayers, Fitting p := by
  obtain ⟨r₁, hticks, hgarbage⟩ := Option.bind_eq_some_iff.mp hr
  exact fitting_addGarbageLines (fitting_distributeGarbageLines
    (fitting_processTicks (fitting_updatePrevPlayerStates (fitting_distributeInputs h)) hticks))
    hgarbage

theorem fitting_beforeVerdict_single (h : ∀ p ∈ r.roomPlayers, Fitting p)
    (hr : SingleRoom.beforeVerdict (r.distributeInputs env) env t = some r') :
    ∀ p ∈ r'.roomPlayers, Fitting p := by
  obtain ⟨r₁, hticks, hgarbage⟩ := Option.bind_eq_some_iff.mp hr
  exact fitting_addGarbageLines (fitting_processTicks (fitting_distributeInputs h) hticks) hgarbage

theorem Fitting.addTasks {p : Player} (h : Fitting p) {extra : List TaskType}
    (hextra : ∀ task ∈ extra, task.InRange) : Fitting (addTasks p extra) where
  combo := h.combo
  buffer := h.buffer
  inBoard := h.inBoard
  tasks := by
    intro task ht
    rcases List.mem_append.mp ht with hold | hnew
    · exact h.tasks task hold
    · exact hextra task hnew

theorem calculateScore_combo {p : Player} (h : 0 ≤ p.combo) (n : Nat) :
    0 ≤ (SingleRoom.calculateScore p n).combo := by
  unfold SingleRoom.calculateScore
  split
  next => exact Int.le_refl 0
  next => exact Int.add_nonneg h (by decide)

theorem judged_combo {p : Player} (h : 0 ≤ p.combo) : 0 ≤ (judged p).combo := by
  unfold judged
  dsimp only
  split
  next => exact calculateScore_combo (p := { p with tetris := p.tetris.withVerdict }) h _
  next => exact h

theorem Fitting.judged {p : Player} (h : Fitting p) : Fitting (judged p) := by
  obtain ⟨hactive, _, htetris⟩ := judged_fields p
  refine ⟨judged_combo h.combo, ?_, fun ha => ?_, ?_⟩
  · have hbuffer : (TetrisRoom.judged p).sendBuffer = p.sendBuffer := by
      unfold TetrisRoom.judged SingleRoom.calculateScore
      dsimp only
      split
      next => split <;> rfl
      next => rfl
    exact hbuffer.trans h.buffer
  · rw [htetris, Tetris.withVerdict_current]
    exact h.inBoard (hactive ▸ ha)
  · rw [htetris, Tetris.withVerdict_sendTasks]
    intro task ht
    rcases List.mem_append.mp ht with hold | hover
    · exact h.tasks task hold
    · split at hover
      next => cases hover
      next =>
        rw [List.mem_singleton.mp hover]
        trivial

end Fitting

/-! ## What the packets say -/

/-- The combo of a packet that has one is no larger than a signed byte holds. -/
def ComboFits : S2CPacket → Prop
  | .clearLine _ _ combo _ => combo ≤ 127
  | _ => True

/-- A task of a log in range becomes a packet that is decoded exactly, unless it carries a large
combo. -/
theorem tickPacket_decoded {p : Player} {id : Int} {task : TaskType} {packet : S2CPacket}
    (hcombo : 0 ≤ p.combo) (htask : task.InRange) (h : tickPacket [] p id task = some packet) :
    DecodedExactly packet ↔ ComboFits packet := by
  rw [decodedExactly_iff]
  cases task with
  | spawn => cases h
  | move m =>
      cases h
      cases m <;> simp [S2CPacket.charMembers, ComboFits, EventType.toInt]
  | fix x y =>
      cases h
      simp only [TaskType.InRange, boardWidth, totalHeight, boardHeight, hiddenHeight] at htask
      simp only [S2CPacket.charMembers, ComboFits, List.mem_cons, List.not_mem_nil, or_false,
        forall_eq_or_imp, forall_eq, iff_true]
      omega
  | clearLine y =>
      cases h
      simp only [TaskType.InRange, totalHeight, boardHeight, hiddenHeight] at htask
      simp only [S2CPacket.charMembers, ComboFits, List.mem_cons, List.not_mem_nil, or_false,
        forall_eq_or_imp, forall_eq]
      omega
  | addLine holeX =>
      cases h
      simp only [TaskType.InRange, boardWidth] at htask
      simp only [S2CPacket.charMembers, ComboFits, List.mem_singleton, forall_eq, iff_true]
      omega
  | gameOver | gameEnd =>
      cases h
      simp [S2CPacket.charMembers, ComboFits]

theorem spawnPacket_decoded (p : Player) (type next : TetrominoType) :
    DecodedExactly (spawnPacket p type next) := by
  have hindex : ∀ type : TetrominoType, type.toIndex ≤ 6 := by
    intro type
    cases type <;> decide
  have htype := hindex type
  have hnext := hindex next
  rw [decodedExactly_iff]
  simp only [spawnPacket, S2CPacket.charMembers, spawnPos, List.mem_cons,
    List.not_mem_nil, or_false, forall_eq_or_imp, forall_eq]
  omega

/-- Every packet of a slot, when they have been built. -/
theorem delivered_decoded {l : List TetrominoType} {p q : Player} (hp : Fitting p)
    (h : Delivered l p q) :
    ∀ packet ∈ q.sendBuffer, (DecodedExactly packet ↔ ComboFits packet) := by
  have hengine : ∀ (id : Int) (tasks : List TaskType),
      (∀ task ∈ tasks, task ∈ p.tetris.sendTasks) →
      ∀ packet ∈ enginePackets p id tasks, (DecodedExactly packet ↔ ComboFits packet) := by
    intro id tasks hsub packet hpacket
    obtain ⟨task, htask, hbuilt⟩ := List.mem_filterMap.mp hpacket
    exact tickPacket_decoded hp.combo (hp.tasks task (hsub task htask)) hbuilt
  intro packet hpacket
  rcases h with ⟨_, happended⟩ | ⟨_, rfl⟩
  · cases happended with
    | plain =>
        have hmem : packet ∈ p.sendBuffer ++
            enginePackets p p.sessionKey.playerId p.tetris.sendTasks := hpacket
        rw [hp.buffer, List.nil_append] at hmem
        exact hengine _ _ (fun _ ht => ht) packet hmem
    | respawned engine htasks _ type next _ _ =>
        have hmem : packet ∈ p.sendBuffer ++ enginePackets p p.sessionKey.playerId engine ++
            [spawnPacket p type next] := hpacket
        rw [hp.buffer, List.nil_append] at hmem
        rcases List.mem_append.mp hmem with hold | hspawn
        · exact hengine _ _ (fun _ ht => htasks ▸ List.mem_append_left _ ht) packet hold
        · rw [List.mem_singleton.mp hspawn]
          exact iff_of_true (spawnPacket_decoded p type next) trivial
  · rw [hp.buffer] at hpacket
    cases hpacket

theorem tickRun_decoded {env : RoomEnv} {t : Int} {r r' : TetrisRoom}
    {extra : Player → List TaskType} {qs ss : List Player} (hqs : ∀ q ∈ qs, Fitting q)
    (hextra : ∀ q, ∀ task ∈ extra q, task.InRange) (hrun : TickRun env t r extra qs ss r')
    {key : SessionKey} {packet : S2CPacket} (h : packet ∈ received key r'.out) :
    DecodedExactly packet ↔ ComboFits packet := by
  rw [hrun.packets] at h
  split at h
  next =>
    obtain ⟨s, hs, hpacket⟩ := List.mem_flatMap.mp h
    obtain ⟨q, hq, hdelivered⟩ := hrun.delivered.mem (List.mem_filter.mp hs).1
    exact delivered_decoded ((hqs q hq).addTasks (hextra q)) hdelivered packet hpacket
  next => cases h

/-- Packets that are none of a game have nothing narrow in them. -/
theorem quiet_decoded {r : TetrisRoom} (h : r.Quiet) {key : SessionKey} {packet : S2CPacket}
    (hpacket : packet ∈ received key r.out) : DecodedExactly packet ↔ ComboFits packet := by
  obtain ⟨effect, heffect, hmem⟩ := List.mem_flatMap.mp hpacket
  have hquiet := h effect heffect
  have hshows : packet.showsGame = false := by
    cases effect with
    | send dest packets =>
        dsimp only at hmem
        split at hmem
        next => exact hquiet packet hmem
        next => cases hmem
    | _ => cases hmem
  rw [decodedExactly_iff]
  cases packet with
  | move | fix | clearLine | spawn | addLine | gameOver | gameEnd => cases hshows
  | _ => simp [S2CPacket.charMembers, ComboFits]

/-! ## Runs -/

/-- **No combo is negative**, in whatever room. -/
theorem combo_nonneg {r : TetrisRoom} (h : Reachable r) : ∀ p ∈ r.roomPlayers, 0 ≤ p.combo := by
  refine slots_reachable (I := fun p => 0 ≤ p.combo) (fun _ => Int.le_refl 0)
    (fun kind p q hchange hp => ?_) h
  cases hchange with
  | judged => exact judged_combo hp
  | delivered l h => exact (combo_delivered h).symm ▸ hp
  | _ => exact hp

theorem fitting_playing {r : TetrisRoom} (h : Reachable r) (hplay : r.roomState = .play) :
    ∀ p ∈ r.roomPlayers, Fitting p := by
  intro p hp
  have hslot := (roomOk_reachable h).playing hplay p hp
  refine ⟨combo_nonneg h p hp, hslot.buffer, fun ha => (hslot.inGame trivial ha).inBoard, ?_⟩
  rw [hslot.fresh.tasks]
  nofun

theorem spawnTasks_inRange (q : Player) : ∀ task ∈ spawnTasks q, task.InRange := by
  unfold spawnTasks
  split <;> simp [TaskType.InRange]

theorem endTasks_inRange (id : Int) (q : Player) : ∀ task ∈ endTasks id q, task.InRange := by
  unfold endTasks
  split <;> simp [TaskType.InRange]

/--
**A packet of a tick tells the client what the server holds exactly if its combo, should it have
one, is at most 127**, in every room a run can reach.
-/
theorem tick_packets_decoded_iff {r r' : TetrisRoom} {env : RoomEnv} {t : Int} (h : Reachable r)
    (hserves : env.Serves r (.tick t)) (hstep : r.step env (.tick t) = some r') {key : SessionKey}
    {packet : S2CPacket} (hpacket : packet ∈ received key r'.out) :
    DecodedExactly packet ↔ ComboFits packet := by
  have hok := roomOk_silent (roomOk_reachable h)
  have hs : Seated env ({ r with out := [] } : TetrisRoom).roomPlayers :=
    hok.seated (hserves.of_players rfl)
  have hfitting : r.roomState = .play → ∀ p ∈ ({ r with out := [] } : TetrisRoom).roomPlayers,
      Fitting p :=
    fitting_playing h
  have hended : ∀ {r₁ r' : TetrisRoom}, Ended env r₁ r' →
      received key r'.out = received key r₁.out := by
    rintro r₁ r' ⟨out, hnone, rfl⟩
    rw [received_append, hnone, List.append_nil]
  cases (step_ok (roomOk_reachable h) hserves).of_eq_some hstep with
  | handled hidle =>
      -- outside a game a tick sends nothing
      have hsilent : r' = ({ r with out := [] } : TetrisRoom).clearPlayTasks := by
        simp only [step, handle, processRoomTick, if_pos (hidle t rfl)] at hstep
        exact (Option.some.inj hstep).symm
      rw [hsilent] at hpacket
      cases hpacket
  | multi qs ss _ hplay hbefore _ hr =>
      have hqs : ∀ q ∈ qs, Fitting q :=
        fitting_beforeVerdict (hfitting hplay) hbefore
      cases hr with
      | goesOn _ hrun => exact tickRun_decoded hqs spawnTasks_inRange hrun hpacket
      | ends id _ _ hrun _ hend =>
          rw [hended hend] at hpacket
          exact tickRun_decoded hqs (endTasks_inRange id) hrun hpacket
  | single hkind hplay _ =>
      have htick :
          SingleRoom.processGameTick (({ r with out := [] } : TetrisRoom).distributeInputs env)
          env t = some r' := by
        rw [← processGameTick_single
          ((distributeInputs_kind { r with out := [] } env).trans hkind)]
        simp only [step, handle, processRoomTick] at hstep
        rwa [if_neg (fun hc => hc hplay)] at hstep
      have hqs : ∀ {q : Player},
          SingleRoom.beforeVerdict (({ r with out := [] } : TetrisRoom).distributeInputs env)
          env t = some { r with out := [], playTasks := [], roomPlayers := [q] } →
          ∀ x ∈ [judged q], Fitting x := by
        intro q hbefore x hx
        rw [List.mem_singleton.mp hx]
        exact (fitting_beforeVerdict_single (hfitting hplay) hbefore q
          (List.mem_singleton_self q)).judged
      cases (SingleRoom.processGameTick_verdict t hok hs hkind hplay rfl).of_eq_some htick with
      | idle ha =>
          have hsilent : ({ r with out := [] } : TetrisRoom).Quiet := nofun
          exact quiet_decoded (ha.quiet hsilent) hpacket
      | goesOn q ss hbefore _ hrun =>
          exact tickRun_decoded (hqs hbefore) spawnTasks_inRange hrun hpacket
      | ends q ss hbefore _ hrun hend =>
          rw [hended hend] at hpacket
          exact tickRun_decoded (hqs hbefore) (fun _ => by simp) hrun hpacket

/-! ## A combo of 128 -/

theorem bag_perm : [TetrominoType.I, .O, .J, .Z, .T, .L, .S].Perm TetrominoType.all := by decide

theorem hole_lt (n : Nat) : 5 + n % 2 < boardWidth := by
  simp only [boardWidth]
  omega

/-- The world of one player's game number `n`, which deals the long piece first. -/
def comboWorld (n : Nat) : RoomEnv := { scenarioEnv [hostKey] .room 0 with
  bag := fun _ => ⟨[.I, .O, .J, .Z, .T, .L, .S], bag_perm⟩
  now := fun _ => 20000 * n
  holes := fun _ _ => ⟨5 + n % 2, hole_lt n⟩ }

theorem comboWorld_serves (n : Nat) {r : TetrisRoom} {e : RoomEvent} (h : AllOf [hostKey] r) :
    (comboWorld n).Serves r e := by
  have hserves : (scenarioEnv [hostKey] .room 0).Serves r e :=
    scenarioEnv_serves .room 0 (by decide) h
  exact ⟨hserves.found, hserves.account, hserves.single⟩

/-- The piece is turned upright over the hole of the line that is due after ten seconds, and
dropped. -/
def untilDrop (n : Nat) : List RoomEvent :=
  let input (e : EventType) : RoomEvent := .input ⟨e.toInt, 1, n + 1⟩
  taskOf hostKey .start :: input .rotate :: (if n % 2 = 0 then [] else [input .right]) ++
    [.tick (20000 * n + 10000), input .drop]

def dropTime (n : Nat) : Int := 20000 * n + 10100

def playEvents (env : RoomEnv) : List RoomEvent → TetrisRoom → Option TetrisRoom
  | [], r => some r
  | e :: rest, r => if AllOf [hostKey] r then (r.step env e).bind (playEvents env rest) else none

theorem playEvents_reachable {n : Nat} : ∀ {es : List RoomEvent} {r r' : TetrisRoom}, Reachable r →
    playEvents (comboWorld n) es r = some r' → Reachable r'
  | [], _, _, hr, h => by
      cases h
      exact hr
  | e :: rest, r, r', hr, h => by
      rw [playEvents] at h
      split at h
      next hall =>
        obtain ⟨r₁, hstep, hrest⟩ := Option.bind_eq_some_iff.mp h
        exact playEvents_reachable (hr.step _ e (comboWorld_serves n hall) hstep) hrest
      next => cases h

/-- From game number `n` on, `k` games are given up as soon as the line is cleared. -/
def comboGames : Nat → Nat → TetrisRoom → Option TetrisRoom
  | _, 0, r => some r
  | n, k + 1, r =>
      (playEvents (comboWorld n)
        (untilDrop n ++ [.tick (dropTime n), taskOf hostKey .giveUp]) r).bind
        (comboGames (n + 1) k)

theorem comboGames_reachable : ∀ {k n : Nat} {r r' : TetrisRoom}, Reachable r →
    comboGames n k r = some r' →
    Reachable r'
  | 0, _, _, _, hr, h => by
      cases h
      exact hr
  | k + 1, n, r, r', hr, h => by
      obtain ⟨r₁, hgame, hrest⟩ := Option.bind_eq_some_iff.mp h
      exact comboGames_reachable (playEvents_reachable hr hgame) hrest

deriving instance DecidableEq for Tetromino, Board, Tetris, Player, TetrisRoom

/-- The room after `n` games, of which there is at least one: only the combo is left of them. -/
def betweenGames (n : Nat) : TetrisRoom :=
  let r := scenarioRoom .single [hostKey] hostKey
  { r with
    playGeneration := n
    roomPlayers := r.roomPlayers.map fun p =>
      { p with
        tetris := { p.tetris with
          timers := .reset (20000 * (n - 1))
          currentTetromino := .spawn .O spawnPos }
        combo := n }
    out := [.send hostKey [.gameOver hostKey.playerId], .updateScore hostKey (100 + 10 * n)] }

theorem comboGames_add : ∀ {k l n : Nat} {r : TetrisRoom},
    comboGames n (k + l) r = (comboGames n k r).bind (comboGames (n + k) l)
  | 0, l, n, r => by rw [Nat.zero_add]; rfl
  | k + 1, l, n, r => by
      rw [Nat.add_right_comm, comboGames, comboGames, Option.bind_assoc]
      refine congrArg _ (funext fun r₁ => ?_)
      rw [comboGames_add, Nat.add_right_comm, Nat.add_assoc]

/-- Sixteen games at a time, each run evaluated on its own. -/
theorem comboGames_sixteen {k : Nat} (hk : k < 7) :
    comboGames (15 + 16 * k) 16 (betweenGames (15 + 16 * k)) =
      some (betweenGames (15 + 16 * (k + 1))) := by
  match k, hk with
  | 0, _ | 1, _ | 2, _ | 3, _ | 4, _ | 5, _ | 6, _ => decide +kernel

theorem comboGames_between : ∀ {k : Nat}, k ≤ 7 →
    comboGames 0 (15 + 16 * k) (scenarioRoom .single [hostKey] hostKey) =
      some (betweenGames (15 + 16 * k))
  | 0, _ => by decide +kernel
  | k + 1, hk => by
      have hsplit : 15 + 16 * (k + 1) = (15 + 16 * k) + 16 := by omega
      rw [hsplit, comboGames_add, comboGames_between (Nat.le_of_succ_le hk), Option.bind_some,
        Nat.zero_add, comboGames_sixteen hk, hsplit]

/-- After that many games the line of the next one is announced with this combo. -/
def announcesCombo (games : Nat) : Bool :=
  (scenarioRoom .single [hostKey] hostKey |> comboGames 0 games).any fun r₀ =>
    (playEvents (comboWorld games) (untilDrop games) r₀).any fun r =>
      decide (AllOf [hostKey] r) &&
      (r.step (comboWorld games) (.tick (dropTime games))).any fun r' =>
        (received hostKey r'.out).any fun packet =>
          ("combo", (games : Int) + 1) ∈ packet.charMembers

theorem announcesCombo_spec {games : Nat} (h : announcesCombo games = true) :
    ∃ r r' packet, Reachable r ∧
    (comboWorld games).Serves r (.tick (dropTime games)) ∧
    r.step (comboWorld games) (.tick (dropTime games)) = some r' ∧
    packet ∈ received hostKey r'.out ∧ ("combo", (games : Int) + 1) ∈ packet.charMembers := by
  simp only [announcesCombo, Option.any_eq_true, Bool.and_eq_true, decide_eq_true_eq,
    List.any_eq_true] at h
  obtain ⟨r₀, hgames, r, hplayed, hall, r', hstep, packet, hmem, hcombo⟩ := h
  have hr₀ := comboGames_reachable (.created (scenarioRoom_created .single (by decide))) hgames
  exact ⟨r, r', packet, playEvents_reachable hr₀ hplayed, comboWorld_serves games hall, hstep,
    hmem, hcombo⟩

/-- The first game: a combo of one. -/
theorem tick_packets_decoded_first :
    ∃ r r' packet, Reachable r ∧ (comboWorld 0).Serves r (.tick (dropTime 0)) ∧
    r.step (comboWorld 0) (.tick (dropTime 0)) = some r' ∧ packet ∈ received hostKey r'.out ∧
    (DecodedExactly packet ↔ ComboFits packet) := by
  have hrun : announcesCombo 0 = true := by decide +kernel
  obtain ⟨r, r', packet, hr, hserves, hstep, hmem, _⟩ := announcesCombo_spec hrun
  exact ⟨r, r', packet, hr, hserves, hstep, hmem, tick_packets_decoded_iff hr hserves hstep hmem⟩

/-- **After 127 games that end with a line each, the next line is announced with a combo of -128.**
-/
theorem combo_overflows :
    ∃ r r' packet, Reachable r ∧ (comboWorld 127).Serves r (.tick (dropTime 127)) ∧
    r.step (comboWorld 127) (.tick (dropTime 127)) = some r' ∧ packet ∈ received hostKey r'.out ∧
    ("combo", 128) ∈ packet.charMembers ∧ ¬ DecodedExactly packet := by
  have hgames : comboGames 0 127 (scenarioRoom .single [hostKey] hostKey) =
      some (betweenGames 127) :=
    comboGames_between (k := 7) (Nat.le_refl 7)
  have hrun : announcesCombo 127 = true := by
    unfold announcesCombo
    rw [hgames]
    decide +kernel
  obtain ⟨r, r', packet, hr, hserves, hstep, hmem, hcombo⟩ := announcesCombo_spec hrun
  refine ⟨r, r', packet, hr, hserves, hstep, hmem, hcombo, fun hdecoded => ?_⟩
  have hfits := ((decodedExactly_iff packet).mp hdecoded _ hcombo).2
  exact absurd hfits (by decide)

end TetrisRoom

end ProjectTetris

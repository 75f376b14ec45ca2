import ProjectTetris.Client.Agreement
import ProjectTetris.Rooms.Winner

/-!
# Client and server show the same game

`GameLog` is a game from the event that starts it, with everything the room has sent
since. Whoever sits in the room receives, for each player still in the game, the packets
that make an empty client board into that player's game.

A tick may fix a piece, clear lines, add garbage and spawn, in the order the engine
recorded them; the argument is that the packets are the log and that the log replays.
-/

namespace ProjectTetris

open Client

namespace TetrisRoom

/-- A game so far, and what the room has sent in it. -/
inductive GameLog : List RoomEffect → TetrisRoom → Prop
  | start {r r' : TetrisRoom} (h : Reachable r) (hwait : r.roomState = .wait) (env : RoomEnv)
      (e : RoomEvent) (hserves : env.Serves r e) (hstep : r.step env e = some r')
      (hplay : r'.roomState = .play) : GameLog r'.out r'
  | step {log : List RoomEffect} {r r' : TetrisRoom} (h : GameLog log r) (env : RoomEnv)
      (e : RoomEvent) (hserves : env.Serves r e) (htest : env.isTestMode = false)
      (hstep : r.step env e = some r') (hplay : r'.roomState = .play) : GameLog (log ++ r'.out) r'

/-- The client has a block where the server has one, and the server's piece. -/
structure SameGame (s : Tetris) (b : TetrisBoard) : Prop where
  cells : ∀ y x : Nat, (∃ row key, b.grid[y]? = some row ∧ row[x]? = some (some key)) ↔
    s.board.cell? y x = some true
  piece : ∃ t, b.currentTetromino = some t ∧
    shapesIndex s.currentTetromino.type.toIndex = some t.shapeKey ∧
    t.x = s.currentTetromino.movedPos.x ∧ t.y = s.currentTetromino.movedPos.y ∧
    t.rotation = s.currentTetromino.shapeIndex

/-- What there is to see of a slot between two events. -/
def shown (p : Player) : View := ⟨p.tetris.board, some p.tetris.currentTetromino⟩

theorem sameGame_of_agrees {p : Player} {b : TetrisBoard} (h : Agrees (shown p) b) :
    SameGame p.tetris b := by
  refine ⟨fun y x => ?_, pieceOf p.tetris.currentTetromino, h.piece, shapesIndex_toIndex _,
    rfl, rfl, rfl⟩
  have hrows : p.tetris.board.row? y = (b.grid[y]?).map (·.map Option.isSome) := by
    rw [Board.row?, show p.tetris.board.rows = blocksOf b.grid from h.grid.symm, blocksOf,
      List.getElem?_map]
  rw [Board.cell?_natCast, hrows]
  constructor
  · rintro ⟨row, key, hrow, hx⟩
    simp [hrow, hx]
  · intro hcell
    obtain ⟨cells, hcells, hx⟩ := Option.bind_eq_some_iff.mp hcell
    obtain ⟨row, hrow, rfl⟩ := Option.map_eq_some_iff.mp hcells
    rw [List.getElem?_map] at hx
    obtain ⟨cell, hcell, hsome⟩ := Option.map_eq_some_iff.mp hx
    obtain ⟨key, rfl⟩ := Option.isSome_iff_exists.mp hsome
    exact ⟨row, key, hrow, hcell⟩

/-! ## Whose packets -/

/-- The packets of a slot are about its own player. -/
def OwnPackets (s : Player) : Prop :=
  ∀ packet ∈ s.sendBuffer, packet.ingameId = some s.sessionKey.playerId

theorem packetsFor_own {s : Player} (h : OwnPackets s) :
    packetsFor s.sessionKey.playerId s.sendBuffer = s.sendBuffer :=
  List.filter_eq_self.mpr fun packet hp => decide_eq_true (h packet hp)

/-- A slot speaks of nobody's game but its own player's. -/
def SpeaksForItself (s : Player) : Prop :=
  ∀ packet ∈ s.sendBuffer, ∀ id, packet.ingameId = some id → id = s.sessionKey.playerId

theorem OwnPackets.speaksForItself {s : Player} (h : OwnPackets s) : SpeaksForItself s := by
  intro packet hp id hid
  exact Option.some.inj (hid.symm.trans (h packet hp))

theorem buffers_cons (first : Player) (rest : List Player) :
    buffers (first :: rest) = (if first.isActive then first.sendBuffer else []) ++
      buffers rest := by
  unfold buffers
  rw [List.filter_cons]
  split
  · rw [List.flatMap_cons]
  · rfl

/-- Nobody sits there with this id, so nobody speaks of it. -/
theorem packetsFor_buffers_nobody {id : Int} {ss : List Player}
    (hown : ∀ s ∈ ss, s.isActive = true → SpeaksForItself s)
    (hno : ∀ s ∈ ss, s.isActive = true → s.sessionKey.playerId ≠ id) :
    packetsFor id (buffers ss) = [] := by
  refine List.filter_eq_nil_iff.mpr fun packet hp hc => ?_
  obtain ⟨s, hs, hp⟩ := List.mem_flatMap.mp hp
  obtain ⟨hs, ha⟩ := List.mem_filter.mp hs
  exact hno s hs ha (hown s hs ha packet hp id (of_decide_eq_true hc)).symm

/-- **Among the buffers of all slots, the packets for a player are in his own.** -/
theorem packetsFor_buffers_slot {s : Player} (ha : s.isActive = true) : ∀ {ss : List Player},
    (∀ s ∈ ss, s.isActive = true → SpeaksForItself s) →
    ss.Pairwise (fun s s' => s.isActive = true → s'.isActive = true →
      s.sessionKey.playerId ≠ s'.sessionKey.playerId) →
    s ∈ ss → packetsFor s.sessionKey.playerId (buffers ss) =
      packetsFor s.sessionKey.playerId s.sendBuffer
  | [], _, _, hs => absurd hs List.not_mem_nil
  | first :: rest, hown, hpair, hs => by
      obtain ⟨hfirst, hrest⟩ := List.pairwise_cons.mp hpair
      have hown' : ∀ s ∈ rest, s.isActive = true → SpeaksForItself s :=
        fun s hs => hown s (List.mem_cons_of_mem _ hs)
      rw [buffers_cons, packetsFor_append]
      rcases List.mem_cons.mp hs with rfl | hs
      · -- nobody after him has his id
        rw [if_pos ha, packetsFor_buffers_nobody hown' fun s' hs' ha' =>
          (hfirst s' hs' ha ha').symm, List.append_nil]
      · rw [packetsFor_buffers_slot ha hown' hrest hs]
        split
        · rename_i hf
          have hnone : packetsFor s.sessionKey.playerId first.sendBuffer = [] := by
            refine List.filter_eq_nil_iff.mpr fun packet hp hc => hfirst s hs hf ha ?_
            exact (hown first (List.mem_cons_self ..) hf packet hp _ (of_decide_eq_true hc)).symm
          rw [hnone, List.nil_append]
        · rfl

theorem packetsFor_buffers {s : Player} {ss : List Player} (ha : s.isActive = true)
    (hown : ∀ s ∈ ss, s.isActive = true → OwnPackets s)
    (hpair : ss.Pairwise fun s s' => s.isActive = true → s'.isActive = true →
      s.sessionKey.playerId ≠ s'.sessionKey.playerId)
    (hs : s ∈ ss) : packetsFor s.sessionKey.playerId (buffers ss) = s.sendBuffer := by
  rw [packetsFor_buffers_slot ha (fun s hs ha => (hown s hs ha).speaksForItself) hpair hs,
    packetsFor_own (hown s hs ha)]

theorem pairwise_ids {env : RoomEnv} {ps : List Player} (h : Seated env ps) :
    ps.Pairwise fun s s' => s.isActive = true → s'.isActive = true →
      s.sessionKey.playerId ≠ s'.sessionKey.playerId := by
  rw [List.pairwise_iff_getElem]
  intro i j hi hj hij ha hb hid
  exact Nat.ne_of_lt hij (h.distinct i j _ _ (List.getElem?_eq_getElem hi)
    (List.getElem?_eq_getElem hj) ha hb hid)

theorem showsGame_of_ingameId {packet : S2CPacket} {id : Int} (h : packet.ingameId = some id) :
    packet.showsGame = true := by
  cases packet <;> first | rfl | exact nomatch h

theorem packetsFor_quiet {packets : List S2CPacket} (id : Int)
    (h : ∀ packet ∈ packets, packet.showsGame = false) : packetsFor id packets = [] := by
  refine List.filter_eq_nil_iff.mpr fun packet hp hc => ?_
  have hshows := showsGame_of_ingameId (of_decide_eq_true hc)
  rw [h packet hp] at hshows
  exact Bool.noConfusion hshows

/-- A quiet room sends no player's packets to anybody. -/
theorem packetsFor_received_quiet {r : TetrisRoom} (h : r.Quiet) (id : Int) (key : SessionKey) :
    packetsFor id (received key r.out) = [] := by
  refine packetsFor_quiet id fun packet hp => ?_
  obtain ⟨effect, he, hp⟩ := List.mem_flatMap.mp hp
  have hquiet := h effect he
  cases effect with
  | send dest packets =>
      dsimp only at hp
      split at hp
      · exact hquiet packet hp
      · exact absurd hp List.not_mem_nil
  | _ => exact absurd hp List.not_mem_nil

/-! ## A tick -/

theorem packetOf_engine (l : List TetrominoType) (p : Player) (id : Int) {task : TaskType}
    (h : task.isEngine = true) :
    ∃ packet, tickPacket l p id task = some packet ∧ PacketOf id task packet := by
  cases task with
  | move m => exact ⟨_, rfl, .move m⟩
  | fix x y => exact ⟨_, rfl, .fix x y⟩
  | clearLine y => exact ⟨_, rfl, .clearLine y _ _⟩
  | addLine holeX => exact ⟨_, rfl, .addLine holeX⟩
  | gameOver => exact ⟨_, rfl, .gameOver⟩
  | gameEnd _ => exact absurd h Bool.false_ne_true
  | spawn => exact absurd h Bool.false_ne_true

/-- What the buffer of a slot holds when the packets of a tick that goes on have been built. -/
inductive Spoken (q s : Player) : Prop
  | silent (hplay : ¬ playing q) (hbuffer : s.sendBuffer = []) : Spoken q s
  | unfixed (hplay : playing q) (hfix : hasEvent q.tetris.sendTasks .fix = false)
      (hbuffer : s.sendBuffer = enginePackets q s.sessionKey.playerId q.tetris.sendTasks)
      (htetris : s.tetris = q.tetris) : Spoken q s
  | respawned (hplay : playing q) (hfix : hasEvent q.tetris.sendTasks .fix = true)
      (type next : TetrominoType)
      (hbuffer : s.sendBuffer = enginePackets q s.sessionKey.playerId q.tetris.sendTasks ++
        [.spawn s.sessionKey.playerId type.toIndex next.toIndex spawnPos.x spawnPos.y])
      (htetris : s.tetris.board = q.tetris.board ∧
        s.tetris.currentTetromino = .spawn type spawnPos) : Spoken q s

theorem spoken_of_delivered {q s : Player} {l : List TetrominoType}
    (hengine : playing q → ∀ task ∈ q.tetris.sendTasks, task.isEngine = true)
    (hbuffer : q.sendBuffer = []) (h : Delivered l (addTasks q (spawnTasks q)) s) :
    Spoken q s := by
  rcases h with ⟨hplay, happ⟩ | ⟨hno, rfl⟩
  · have hplay : playing q := hplay
    have hengine := hengine hplay
    have hne : ∀ task ∈ q.tetris.sendTasks, task ≠ .spawn := by
      rintro task ht rfl
      exact absurd (hengine _ ht) (by decide)
    cases hfix : hasEvent q.tetris.sendTasks .fix with
    | false =>
        have hnone : addTasks q (spawnTasks q) = q := by
          rw [spawnTasks, if_neg fun hc => absurd (hfix.symm.trans hc.2.2) (by decide)]
          simp [addTasks]
        rw [hnone] at happ
        cases happ with
        | plain _ =>
            refine .unfixed hplay hfix ?_ rfl
            show q.sendBuffer ++ _ = _
            rw [hbuffer, List.nil_append]
            rfl
        | respawned engine htasks =>
            exact absurd rfl (hne .spawn (by rw [htasks]; simp))
    | true =>
        have hone : spawnTasks q = [.spawn] := by rw [spawnTasks, if_pos ⟨hplay.2, hplay.1, hfix⟩]
        rw [hone] at happ
        cases happ with
        | plain hnone => exact absurd rfl (hnone .spawn (by simp [addTasks]))
        | respawned engine htasks _ type next _ _ =>
            have heq : engine = q.tetris.sendTasks := List.append_cancel_right htasks.symm
            subst heq
            refine .respawned hplay hfix type next ?_ ⟨rfl, rfl⟩
            show q.sendBuffer ++ enginePackets (addTasks q [.spawn]) _ _ ++ _ = _
            rw [hbuffer, List.nil_append, enginePackets_congr _ rfl rfl hne]
            rfl
  · exact .silent hno hbuffer

theorem Spoken.ownPackets {q s : Player} (h : Spoken q s)
    (hengine : playing q → ∀ task ∈ q.tetris.sendTasks, task.isEngine = true) : OwnPackets s := by
  have henginePackets : playing q →
      ∀ packet ∈ enginePackets q s.sessionKey.playerId q.tetris.sendTasks,
      packet.ingameId = some s.sessionKey.playerId := by
    intro hplay packet hp
    obtain ⟨task, htask, heq⟩ := List.mem_filterMap.mp hp
    obtain ⟨packet', heq', hof⟩ := packetOf_engine [] q s.sessionKey.playerId
      (hengine hplay task htask)
    exact Option.some.inj (heq.symm.trans heq') ▸ hof.ingameId
  intro packet hp
  cases h with
  | silent _ hbuffer => rw [hbuffer] at hp; exact absurd hp List.not_mem_nil
  | unfixed hplay _ hbuffer => exact henginePackets hplay packet (hbuffer ▸ hp)
  | respawned hplay _ type next hbuffer =>
      rw [hbuffer] at hp
      rcases List.mem_append.mp hp with hp | hp
      · exact henginePackets hplay packet hp
      · rw [List.mem_singleton.mp hp]
        rfl

/-- **One slot's packets of a tick** take a client that shows the slot to one that shows it again.
-/
theorem Spoken.agrees {t : Int} {p q s : Player} (h : Spoken q s) (hpq : Ticked t tickBudget p q)
    (hplay : playing q) {b : TetrisBoard} (hb : Agrees (shown p) b) :
    ∃ b', b.handlePackets s.sendBuffer = some b' ∧ Agrees (shown s) b' := by
  have hlog := hpq.log (hpq.isActive.symm.trans hplay.2)
  have hreplays : (shown p).replay q.tetris.sendTasks = some q.tetris.view :=
    hlog.replays (hpq.roomPlayerState.symm.trans hplay.1)
  obtain ⟨b₁, hb₁, h₁⟩ := agrees_replay s.sessionKey.playerId
    (tickPacket [] q s.sessionKey.playerId) hb
    (fun task ht => packetOf_engine _ _ _ (hlog.engine task ht)) hreplays
  cases h with
  | silent hno => exact absurd hplay hno
  | unfixed _ hfix hbuffer htetris =>
      refine ⟨b₁, by rw [hbuffer]; exact hb₁, ?_⟩
      rw [Tetris.view, hfix] at h₁
      rw [shown, htetris]
      exact h₁
  | respawned _ hfix type next hbuffer htetris =>
      -- the fix has taken the piece away; the spawn brings the next one
      obtain ⟨b₂, hb₂, h₂⟩ := agrees_spawn s.sessionKey.playerId type next spawnPos h₁.grid
      refine ⟨b₂, ?_, ?_⟩
      · rw [hbuffer, TetrisBoard.handlePackets_append]
        rw [enginePackets, hb₁, Option.bind_some, TetrisBoard.handlePackets_cons, hb₂]
        rfl
      · rw [shown, htetris.1, htetris.2]
        exact h₂

/-- A slot after a tick, with the slot it was before. -/
theorem spoken_slot {env : RoomEnv} {t : Int} {r r' : TetrisRoom} {qs ss : List Player}
    (h : RoomOk r) (hr : TickRun env t r spawnTasks qs ss r') {s : Player} (hs : s ∈ ss) :
    ∃ p ∈ r.roomPlayers, ∃ q, Ticked t tickBudget p q ∧ Spoken q s ∧ OwnPackets s ∧
      s.seat = p.seat ∧ (s.roomPlayerState = .play → q.roomPlayerState = .play) := by
  obtain ⟨q, hq, hqs⟩ := hr.delivered.mem hs
  obtain ⟨p, hp, hpq⟩ := hr.ticked.mem hq
  have hengine : playing q → ∀ task ∈ q.tetris.sendTasks, task.isEngine = true := fun hc =>
    (hpq.log (hpq.isActive.symm.trans hc.2)).engine
  have hspoken : Spoken q s := spoken_of_delivered hengine
    (by rw [hpq.rest]; exact (h.slots p hp).buffer) hqs
  refine ⟨p, hp, q, hpq, hspoken, hspoken.ownPackets hengine, hqs.seat.trans hpq.seat,
    fun hc => ?_⟩
  rcases hqs with ⟨hplay, _⟩ | ⟨_, rfl⟩
  · exact hplay.1
  · exact hc

/-- **A tick the game goes on after**, for a player still in the game. -/
theorem agrees_tick {env : RoomEnv} {t : Int} {r r' : TetrisRoom} {qs ss : List Player}
    (h : RoomOk r) (hs : Seated env r.roomPlayers) (htest : env.isTestMode = false)
    (hr : TickRun env t r spawnTasks qs ss r') {x : Player} (hx : x ∈ r'.roomPlayers)
    (ha : x.isActive = true) (hstate : x.roomPlayerState = .play) :
    ∃ p ∈ r.roomPlayers, p.seat = x.seat ∧ p.roomPlayerState = .play ∧
      ∀ b, Agrees (shown p) b → ∃ b',
        b.handlePackets (packetsFor x.sessionKey.playerId (buffers ss)) = some b' ∧
          Agrees (shown x) b' := by
  rw [hr.players] at hx
  obtain ⟨s, hmem, rfl⟩ := List.mem_map.mp hx
  obtain ⟨p, hp, q, hpq, hspoken, _, hseat, hqplay⟩ := spoken_slot h hr hmem
  obtain ⟨hxseat, hxstate⟩ := tidied_fields env s
  have hsa : s.isActive = true := (isActive_of_seat hxseat).symm.trans ha
  have hq : q.roomPlayerState = .play := hqplay (hxstate.symm.trans hstate)
  have hqa : q.isActive = true := hpq.isActive.trans ((isActive_of_seat hseat).symm.trans hsa)
  have hshown : shown (if s.isActive then tidy env s else s) = shown s := by
    rw [if_pos hsa, tidy, htest]
    rfl
  refine ⟨p, hp, (hxseat.trans hseat).symm, hpq.roomPlayerState.symm.trans hq, fun b hb => ?_⟩
  obtain ⟨b', hb', hagrees⟩ := hspoken.agrees hpq ⟨hq, hqa⟩ hb
  refine ⟨b', ?_, hshown ▸ hagrees⟩
  have hown : ∀ s ∈ ss, s.isActive = true → OwnPackets s := fun s hs _ => by
    obtain ⟨_, _, _, _, _, hown, _⟩ := spoken_slot h hr hs
    exact hown
  rw [show (if s.isActive then tidy env s else s).sessionKey = s.sessionKey
    from congrArg Prod.fst hxseat,
    packetsFor_buffers hsa hown (pairwise_ids (hs.of_sameSeats hr.sameSeats)) hmem, hb']

/-! ## The start -/

/-- Of the packets a game starts with, one spawn is for the player of each slot. -/
theorem packetsFor_startPackets {first : S2CPacket} {ps : List Player} {type next : TetrominoType}
    {p : Player} (hfirst : first.showsGame = false) (hp : p ∈ ps) (ha : p.isActive = true)
    (hpair : ps.Pairwise fun s s' => s.isActive = true → s'.isActive = true →
      s.sessionKey.playerId ≠ s'.sessionKey.playerId) :
    packetsFor p.sessionKey.playerId (startPackets first ps type next) =
      [.spawn p.sessionKey.playerId type.toIndex next.toIndex spawnPos.x spawnPos.y] := by
  -- as if every slot had its spawn in the buffer
  let spoken (p : Player) : Player := { p with
    sendBuffer := [.spawn p.sessionKey.playerId type.toIndex next.toIndex spawnPos.x spawnPos.y] }
  have hbuffers : startPackets first ps type next = [first] ++ buffers (ps.map spoken) := by
    rw [startPackets, buffers, List.filter_map, List.flatMap_map, List.singleton_append]
    congr 1
    exact List.map_eq_flatMap
  have hquiet : packetsFor p.sessionKey.playerId [first] = [] :=
    packetsFor_quiet _ fun packet hp => by rw [List.mem_singleton.mp hp, hfirst]
  rw [hbuffers, packetsFor_append, hquiet, List.nil_append]
  refine packetsFor_buffers (s := spoken p) ha (fun s hs _ => ?_) ?_ (List.mem_map_of_mem hp)
  · obtain ⟨s, _, rfl⟩ := List.mem_map.mp hs
    intro packet hpacket
    rw [List.mem_singleton.mp hpacket]
    rfl
  · exact List.pairwise_map.mpr hpair

/-- **The packets a game starts with make an empty client board into the game of each player.** -/
theorem agrees_start {env : RoomEnv} {r r' : TetrisRoom} {type : TetrominoType}
    (hs : Seated env r.roomPlayers) (hout : r.out = []) (h : Started env r r' type)
    {x viewer : Player} (hx : x ∈ r'.roomPlayers) (ha : x.isActive = true)
    (hv : viewer ∈ r'.roomPlayers) (hva : viewer.isActive = true) {b : TetrisBoard}
    (hb : b.grid = emptyGrid) :
    ∃ b', b.handlePackets (packetsFor x.sessionKey.playerId (received viewer.sessionKey r'.out)) =
      some b' ∧ Agrees (shown x) b' := by
  have hbefore : ∀ x ∈ r'.roomPlayers, x.isActive = true → ∃ p ∈ r.roomPlayers, p.isActive = true ∧
      x = startedSlot p type (env.now p.sessionKey) := by
    intro x hx ha
    rw [h.players] at hx
    obtain ⟨p, hp, rfl⟩ := List.mem_map.mp hx
    split at ha
    · rename_i hpa
      exact ⟨p, hp, hpa, if_pos hpa⟩
    · rename_i hpa
      exact absurd ha hpa
  obtain ⟨p, hp, hpa, rfl⟩ := hbefore x hx ha
  obtain ⟨w, hw, hwa, rfl⟩ := hbefore viewer hv hva
  obtain ⟨first, next, out, hfirst, _, hlog, hgot⟩ := h.packets
  obtain ⟨b', hb', hagrees⟩ := agrees_spawn p.sessionKey.playerId type next spawnPos
    (hb ▸ blocksOf_emptyGrid : blocksOf b.grid = Board.empty.rows)
  refine ⟨b', ?_, hagrees⟩
  show b.handlePackets (packetsFor p.sessionKey.playerId (received w.sessionKey r'.out)) = some b'
  rw [hlog, hout, List.nil_append, hgot, if_pos (mem_targets hs hw hwa)]
  rw [packetsFor_startPackets hfirst.1 hp hpa (pairwise_ids hs),
    TetrisBoard.handlePackets_cons, hb']
  rfl

/-! ## A whole game -/

theorem gameLog_ok {log : List RoomEffect} {r : TetrisRoom} (h : GameLog log r) :
    Reachable r ∧ r.roomState = .play := by
  induction h with
  | start h _ env e hserves hstep hplay => exact ⟨h.step env e hserves hstep, hplay⟩
  | step _ env e hserves _ hstep hplay ih => exact ⟨ih.1.step env e hserves hstep, hplay⟩

/-- An event that shows nobody the game leaves every client with what it has. -/
theorem agrees_quiet {r' : TetrisRoom} {log : List RoomEffect} {p x : Player} {key : SessionKey}
    {b b' : TetrisBoard} (hquiet : r'.Quiet) (hkept : Kept p x)
    (hb : b.handlePackets (packetsFor p.sessionKey.playerId (received key log)) = some b')
    (h : Agrees (shown p) b') :
    ∃ b', b.handlePackets (packetsFor x.sessionKey.playerId (received key (log ++ r'.out))) =
      some b' ∧
      Agrees (shown x) b' := by
  refine ⟨b', ?_, by rw [shown, hkept.tetris]; exact h⟩
  rw [show x.sessionKey = p.sessionKey from congrArg Prod.fst hkept.seat, received_append,
    packetsFor_append, packetsFor_received_quiet hquiet, List.append_nil, hb]

/-- A client, from the event that starts the game on. -/
theorem agrees_gameLog {log : List RoomEffect} {r : TetrisRoom} (h : GameLog log r)
    {x viewer : Player} (hx : x ∈ r.roomPlayers) (ha : x.isActive = true)
    (hstate : x.roomPlayerState = .play) (hv : viewer ∈ r.roomPlayers)
    (hva : viewer.isActive = true) {b : TetrisBoard} (hb : b.grid = emptyGrid) :
    ∃ b', b.handlePackets (packetsFor x.sessionKey.playerId (received viewer.sessionKey log)) =
      some b' ∧ Agrees (shown x) b' := by
  induction h generalizing x viewer with
  | start hreach hwait env e hserves hstep hplay =>
      have hok := roomOk_reachable hreach
      obtain ⟨type, hstarted⟩ := started_step ((step_ok hok hserves).of_eq_some hstep) hwait hplay
      exact agrees_start ((roomOk_silent hok).seated (hserves.of_players rfl))
        rfl hstarted hx ha hv hva hb
  | step h env e hserves htest hstep hplay' ih =>
      obtain ⟨hreach, hplay⟩ := gameLog_ok h
      have hok := roomOk_reachable hreach
      have hs : Seated env _ := hok.seated hserves
      rename_i log r r'
      -- a tick, for a viewer who was there when it began
      have htick : ∀ {t : Int} {qs ss : List Player},
          TickRun env t { r with out := [] } spawnTasks qs ss r' →
          ∃ b', b.handlePackets (packetsFor x.sessionKey.playerId
            (received viewer.sessionKey (log ++ r'.out))) = some b' ∧ Agrees (shown x) b' := by
        intro t qs ss hr
        obtain ⟨p, hp, hseat, hps, hnext⟩ :=
          agrees_tick (roomOk_silent hok) hs htest hr hx ha hstate
        obtain ⟨w, hw, hwseat, _⟩ := kept_tick hr hv
        have hwa : w.isActive = true := (isActive_of_seat hwseat).symm.trans hva
        obtain ⟨b₁, hb₁, h₁⟩ := ih hp ((isActive_of_seat hseat).trans ha) hps hw hwa
        obtain ⟨b₂, hb₂, h₂⟩ := hnext b₁ h₁
        have hmem : w.sessionKey ∈ ({ r with out := [] } : TetrisRoom).targets env :=
          mem_targets hs hw hwa
        have hkey : p.sessionKey = x.sessionKey := congrArg Prod.fst hseat
        have hwkey : viewer.sessionKey = w.sessionKey := congrArg Prod.fst hwseat
        refine ⟨b₂, ?_, h₂⟩
        rw [hwkey, received_append, packetsFor_append, TetrisBoard.handlePackets_append,
          ← hkey, hb₁, Option.bind_some, hr.packets, if_pos hmem, hkey, hb₂]
      -- anything else, which leaves the slots it does not free alone
      have hquiet : r'.Quiet →
          (∀ q ∈ r'.roomPlayers, q.isActive = true → ∃ p ∈ r.roomPlayers, Kept p q) →
          ∃ b', b.handlePackets (packetsFor x.sessionKey.playerId
            (received viewer.sessionKey (log ++ r'.out))) = some b' ∧ Agrees (shown x) b' := by
        intro hquiet hkept
        obtain ⟨p, hp, hpx⟩ := hkept x hx ha
        obtain ⟨w, hw, hwv⟩ := hkept viewer hv hva
        obtain ⟨b₁, hb₁, h₁⟩ := ih hp ((isActive_of_seat hpx.seat).symm.trans ha)
          (hpx.state hstate) hw ((isActive_of_seat hwv.seat).symm.trans hva)
        rw [show w.sessionKey = viewer.sessionKey from (congrArg Prod.fst hwv.seat).symm] at hb₁
        exact agrees_quiet hquiet hpx hb₁ h₁
      have hsilent : ({ r with out := [] } : TetrisRoom).Quiet :=
        fun e he => absurd he List.not_mem_nil
      cases (step_ok hok hserves).of_eq_some hstep with
      | handled _ h =>
          exact hquiet (quiet_handled h hplay hplay' hsilent) fun q hq ha =>
            kept_handled h hplay hplay' hq ha
      | multi qs ss _ _ _ _ h =>
          cases h with
          | goesOn _ h => exact htick h
          | ends _ _ _ _ _ hend =>
              rw [ended_wait hend] at hplay'
              exact absurd hplay' (by decide)
      | single _ _ h =>
          cases h with
          | idle h => exact hquiet (h.quiet hsilent) fun q hq _ => ⟨q, h.players ▸ hq, .refl q⟩
          | goesOn qs ss h => exact htick h
          | ends _ _ _ hend =>
              rw [ended_wait hend] at hplay'
              exact absurd hplay' (by decide)

/--
**Client and server boards agree.**

Take any game, up to any moment at which it is still on, and a player still in it. A
client that started with an empty board and has handled, in order, the packets for that
player among those the room has sent to somebody who sits in it shows exactly that
player's blocks and piece.
-/
theorem client_sameGame {log : List RoomEffect} {r : TetrisRoom} (h : GameLog log r)
    {p viewer : Player} (hp : p ∈ r.roomPlayers) (ha : p.isActive = true)
    (hstate : p.roomPlayerState = .play) (hv : viewer ∈ r.roomPlayers)
    (hva : viewer.isActive = true) {b : TetrisBoard} (hb : b.grid = emptyGrid) :
    ∃ b', b.handlePackets (packetsFor p.sessionKey.playerId (received viewer.sessionKey log)) =
      some b' ∧
      SameGame p.tetris b' := by
  obtain ⟨b', hb', hagrees⟩ := agrees_gameLog h hp ha hstate hv hva hb
  exact ⟨b', hb', sameGame_of_agrees hagrees⟩

/-! ## A game of two, watched -/

/-- A game played on in the world of these sessions, with what the room sends. -/
def logOn (keys : List SessionKey) :
    List RoomEffect → TetrisRoom → List RoomEvent → Option (List RoomEffect × TetrisRoom)
  | log, r, [] => some (log, r)
  | log, r, e :: rest =>
      if AllOf keys r then
        (r.step (worldOf keys) e).bind fun r' =>
          if r'.roomState = .play then logOn keys (log ++ r'.out) r' rest else none
      else none

theorem logOn_gameLog {keys : List SessionKey}
    (hkeys : keys.Pairwise fun k k' => k.playerId ≠ k'.playerId) :
    ∀ {es : List RoomEvent} {log log' : List RoomEffect} {r r' : TetrisRoom}, GameLog log r →
      logOn keys log r es = some (log', r') → GameLog log' r'
  | [], log, log', r, r', hr, h => by
      injection h with h
      injection h with h₁ h₂
      exact h₁ ▸ h₂ ▸ hr
  | e :: rest, log, log', r, r', hr, h => by
      rw [logOn] at h
      split at h
      · rename_i hall
        obtain ⟨r₁, hstep, h⟩ := Option.bind_eq_some_iff.mp h
        split at h
        · rename_i hplay
          exact logOn_gameLog hkeys
            (hr.step _ e (scenarioEnv_serves .room 0 hkeys hall) rfl hstep hplay) h
        · exact absurd h (by simp)
      · exact absurd h (by simp)

/-- The host turns and drops his piece while a line of garbage is due; then one more tick. -/
def turnAndDrop : List RoomEvent :=
  [.input ⟨EventType.rotate.toInt, 1, 1⟩, .input ⟨EventType.drop.toInt, 1, 1⟩, .tick 20000,
    .tick 20600]

/-- The guest's client, watching the host. -/
theorem client_sameGame_guest : ∃ log r p b', GameLog log r ∧ p ∈ r.roomPlayers ∧
    p.sessionKey = hostKey ∧ p.roomPlayerState = .play ∧
    (⟨emptyGrid, none, none⟩ : TetrisBoard).handlePackets (packetsFor 1 (received guestKey log)) =
      some b' ∧ SameGame p.tetris b' := by
  let keys := [hostKey, guestKey]
  have hrun : ((gathering .two hostKey [guestKey]).any fun r₀ =>
      decide (AllOf keys r₀ ∧ r₀.roomState = .wait) &&
      (r₀.step (worldOf keys) (taskOf hostKey .start)).any fun r₁ =>
        decide (r₁.roomState = .play) &&
        (logOn keys r₁.out r₁ turnAndDrop).any fun res =>
          decide ((∃ p ∈ res.2.roomPlayers, p.isActive = true ∧ p.roomPlayerState = .play ∧
            p.sessionKey = hostKey) ∧
            ∃ p ∈ res.2.roomPlayers, p.isActive = true ∧ p.sessionKey = guestKey)) = true := by
    decide +kernel
  simp only [Option.any_eq_true, Bool.and_eq_true, decide_eq_true_eq] at hrun
  obtain ⟨r₀, hr₀, ⟨hall, hwait⟩, r₁, hstart, hplay, ⟨log, r⟩, hlog,
    ⟨p, hp, ha, hstate, hkey⟩, viewer, hv, hva, hvkey⟩ := hrun
  have hreach : Reachable r₀ := scenario_reachable (by decide)
    (.created (scenarioRoom_created .two (by decide))) hr₀
  have hgame : GameLog log r := logOn_gameLog (by decide)
    (.start hreach hwait _ _ (scenarioEnv_serves .room 0 (by decide) hall) hstart hplay) hlog
  obtain ⟨b', hb', hsame⟩ := @client_sameGame log r hgame p viewer hp ha hstate hv hva
    ⟨emptyGrid, none, none⟩ rfl
  rw [hkey, hvkey] at hb'
  exact ⟨log, r, p, b', hgame, hp, hkey, hstate, hb', hsame⟩

end TetrisRoom

end ProjectTetris

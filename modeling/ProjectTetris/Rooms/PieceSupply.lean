import ProjectTetris.Client.SameGame
import ProjectTetris.Rooms.FreshStart

/-!
# The supply of pieces

All players of a game draw from one list. Each has a place in it of his own, and the
list grows by a bag whenever somebody is about to look past its end. So everybody gets
the same pieces, in the same order, however far he is; and as each spawn announces the
entry after its own, what is announced is what comes.
-/

namespace ProjectTetris

open Checked

/-- The spawns of the player `id` among these packets: the piece, and the one announced. -/
def spawnsOf (id : Int) (packets : List S2CPacket) : List (Nat × Nat) :=
  packets.filterMap fun packet =>
    match packet with
    | .spawn playerId type next _ _ => if playerId = id then some (type, next) else none
    | _ => none

@[simp] theorem spawnsOf_append (id : Int) (l₁ l₂ : List S2CPacket) :
    spawnsOf id (l₁ ++ l₂) = spawnsOf id l₁ ++ spawnsOf id l₂ := List.filterMap_append

/-- The spawns of a player are among the packets for him. -/
theorem spawnsOf_packetsFor (id : Int) (packets : List S2CPacket) :
    spawnsOf id (packetsFor id packets) = spawnsOf id packets := by
  induction packets with
  | nil => rfl
  | cons packet rest ih =>
      unfold spawnsOf packetsFor at ih ⊢
      rw [List.filter_cons]
      split
      · rw [List.filterMap_cons, List.filterMap_cons, ih]
      · rename_i hid
        rw [List.filterMap_cons, ih]
        cases packet with
        | spawn playerId =>
            have hne : playerId ≠ id := fun heq => hid (decide_eq_true (congrArg some heq))
            simp only [if_neg hne]
        | _ => rfl

/-! ## The list -/

/--
The pieces a player at the place `i` of the list has been given: the entries up to his
place, each with the entry after it announced.
-/
structure Supplied (l : List TetrominoType) (i : Nat) (spawns : List (Nat × Nat)) : Prop where
  count : spawns.length = i + 1
  entry : ∀ n ≤ i, ∃ type next, l[n]? = some type ∧ l[n + 1]? = some next ∧
    spawns[n]? = some (type.toIndex, next.toIndex)

theorem Supplied.grow {l l' : List TetrominoType} {i : Nat} {spawns : List (Nat × Nat)}
    (h : Supplied l i spawns) (hl : l <+: l') : Supplied l' i spawns := by
  obtain ⟨more, rfl⟩ := hl
  refine ⟨h.count, fun n hn => ?_⟩
  obtain ⟨type, next, htype, hnext, hspawn⟩ := h.entry n hn
  have hlt := (List.getElem?_eq_some_iff.mp hnext).1
  refine ⟨type, next, ?_, ?_, hspawn⟩
  · rw [List.getElem?_append_left (by omega), htype]
  · rw [List.getElem?_append_left hlt, hnext]

/-- One more piece. -/
theorem Supplied.next {l : List TetrominoType} {i : Nat} {spawns : List (Nat × Nat)}
    {type next : TetrominoType} (h : Supplied l i spawns) (htype : l[i + 1]? = some type)
    (hnext : l[i + 2]? = some next) :
    Supplied l (i + 1) (spawns ++ [(type.toIndex, next.toIndex)]) := by
  have hcount := h.count
  refine ⟨by rw [List.length_append, hcount]; rfl, fun n hn => ?_⟩
  by_cases hlast : n = i + 1
  · subst hlast
    exact ⟨type, next, htype, hnext, by rw [← hcount, List.getElem?_concat_length]⟩
  · obtain ⟨type', next', htype', hnext', hspawn⟩ := h.entry n (by omega)
    exact ⟨type', next', htype', hnext', by rw [List.getElem?_append_left (by omega), hspawn]⟩

/-- **Every aligned block of seven is a bag.** -/
theorem block_perm : ∀ (bags : List Bag) (k : Nat), 7 * k + 7 ≤ (bags.flatMap Bag.types).length →
    (((bags.flatMap Bag.types).drop (7 * k)).take 7).Perm TetrominoType.all
  | [], k, h => absurd h (by simp)
  | b :: rest, 0, _ => by
      have hlen := TetrisRoom.Bag.length b
      rw [List.flatMap_cons, List.drop_zero, List.take_append_of_le_length (by omega),
        List.take_of_length_le (by omega)]
      exact b.perm
  | b :: rest, k + 1, h => by
      have hlen := TetrisRoom.Bag.length b
      rw [List.flatMap_cons, List.length_append, hlen] at h
      have hdrop : (b.types ++ rest.flatMap Bag.types).drop (7 * (k + 1)) =
          (rest.flatMap Bag.types).drop (7 * k) := by
        rw [show 7 * (k + 1) = b.types.length + 7 * k by omega, List.drop_append,
          List.drop_of_length_le (by omega), List.nil_append]
        congr 1
        omega
      rw [List.flatMap_cons, hdrop]
      exact block_perm rest k (by omega)

theorem length_bags (bags : List Bag) : (bags.flatMap Bag.types).length = 7 * bags.length := by
  induction bags with
  | nil => rfl
  | cons b rest ih =>
      rw [List.flatMap_cons, List.length_append, ih, TetrisRoom.Bag.length, List.length_cons]
      omega

namespace TetrisRoom

/-! ## Places -/

/-- Every place is before the last entry, so that there is one to announce. -/
def InRange (r : TetrisRoom) : Prop :=
  ∀ p ∈ r.roomPlayers, p.tetrominoIndex + 1 < r.tetrominoSpawnList.length

theorem InRange.of_same {r r' : TetrisRoom} (h : InRange r)
    (hlist : r'.tetrominoSpawnList.length = r.tetrominoSpawnList.length)
    (hindex : r'.roomPlayers.map (·.tetrominoIndex) = r.roomPlayers.map (·.tetrominoIndex)) :
    InRange r' := by
  intro q hq
  have hmem : q.tetrominoIndex ∈ r.roomPlayers.map (·.tetrominoIndex) :=
    hindex ▸ List.mem_map_of_mem hq
  obtain ⟨p, hp, hpq⟩ := List.mem_map.mp hmem
  have hp := h p hp
  omega

theorem map_index_modify {ps : List Player} {i : Nat} {p q : Player} (hp : ps[i]? = some p)
    (hq : q.tetrominoIndex = p.tetrominoIndex) :
    (ps.modify i fun _ => q).map (·.tetrominoIndex) = ps.map (·.tetrominoIndex) := by
  refine List.ext_getElem? fun j => ?_
  rw [List.getElem?_map, List.getElem?_map, List.getElem?_modify]
  by_cases hij : i = j
  · subst hij
    simp [hp, hq]
  · simp [hij]

/-- A spawn moves one place on, and only where there is an entry after it. -/
theorem applySendTaskState_inRange {r r' : TetrisRoom} {env : RoomEnv} {i : Nat} {id : Int}
    {task : TaskType} {b : Bool} (h : InRange r)
    (hstep : r.applySendTaskState env i id task = some (r', b)) : InRange r' := by
  unfold applySendTaskState at hstep
  split at hstep
  · obtain ⟨p, hp, hstep⟩ := Option.bind_eq_some_iff.mp hstep
    dsimp only at hstep
    generalize hr₁ : (if p.tetrominoIndex + 2 = r.tetrominoSpawnList.length then
      r.appendTetromino7Bag env else r) = r₁ at hstep
    -- after the draw there are two entries after the old place of this slot
    have hdrawn : r₁.roomPlayers = r.roomPlayers ∧
        r.tetrominoSpawnList.length ≤ r₁.tetrominoSpawnList.length ∧
        p.tetrominoIndex + 2 < r₁.tetrominoSpawnList.length := by
      have hslot := h p (List.mem_of_getElem? hp)
      rw [← hr₁]
      split
      · rw [appendTetromino7Bag, List.length_append, Bag.length]
        exact ⟨rfl, by omega, by omega⟩
      · exact ⟨rfl, Nat.le_refl _, by omega⟩
    obtain ⟨hplayers, hlen, hroom⟩ := hdrawn
    have hmoved : InRange (r₁.modifyPlayer i fun p =>
        { p with tetrominoIndex := p.tetrominoIndex + 1 }) := by
      intro q hq
      obtain ⟨j, hj⟩ := List.mem_iff_getElem?.mp hq
      rw [modifyPlayer_getElem?, hplayers, Option.map_eq_some_iff] at hj
      obtain ⟨o, ho, rfl⟩ := hj
      split
      · rename_i hij
        subst hij
        rw [hp] at ho
        injection ho with ho
        subst ho
        exact hroom
      · exact Nat.lt_of_lt_of_le (h o (List.mem_of_getElem? ho)) hlen
    refine hmoved.of_same (congrArg List.length (spawnTetromino_spawnList hstep)) ?_
    unfold spawnTetromino at hstep
    split at hstep
    · injection hstep with hstep
      injection hstep with hstep
      rw [← hstep]
    · obtain ⟨q, hq, hstep⟩ := Option.bind_eq_some_iff.mp hstep
      obtain ⟨q', hq', hstep⟩ := Option.bind_eq_some_iff.mp hstep
      obtain ⟨type, _, hq'⟩ := Option.bind_eq_some_iff.mp hq'
      injection hstep with hstep
      injection hstep with hstep
      injection hq' with hq'
      rw [← hstep]
      exact map_index_modify hq (by rw [← hq'])
  · injection hstep with hstep
    injection hstep with hstep
    rw [← hstep]
    refine h.of_same rfl ?_
    refine List.ext_getElem? fun j => ?_
    rw [List.getElem?_map, List.getElem?_map, modifyPlayer_getElem?, Option.map_map]
    cases r.roomPlayers[j]? with
    | none => rfl
    | some p =>
        rw [Option.map_some, Option.map_some, Function.comp_apply]
        split <;> rfl
  · injection hstep with hstep
    injection hstep with hstep
    exact hstep ▸ h

/-- **All through `AppendTickPackets`, every place is in range.** -/
theorem Building.inRange {env : RoomEnv} {r₀ r : TetrisRoom} (h : Building env r₀ r)
    (h₀ : InRange r₀) : InRange r := by
  induction h with
  | start => exact h₀
  | applied _ i id task b hstep ih => exact applySendTaskState_inRange ih hstep
  | buffered _ i packet hp hadd ih =>
      refine ih.of_same rfl (map_index_modify hp ?_)
      unfold Player.addToSendBuffer at hadd
      split at hadd
      · exact absurd hadd (by simp)
      · injection hadd with hadd
        rw [← hadd]

/-! ## One tick -/

/-- No task of the engine is a spawn, so none has a spawn packet. -/
theorem spawnsOf_enginePackets (p : Player) (id id' : Int) {tasks : List TaskType}
    (h : ∀ task ∈ tasks, task ≠ .spawn) : spawnsOf id (enginePackets p id' tasks) = [] := by
  refine List.filterMap_eq_nil_iff.mpr fun packet hpacket => ?_
  obtain ⟨task, htask, heq⟩ := List.mem_filterMap.mp hpacket
  cases task with
  | spawn => exact absurd rfl (h _ htask)
  | move => injection heq with heq; subst heq; rfl
  | fix => injection heq with heq; subst heq; rfl
  | clearLine => injection heq with heq; subst heq; rfl
  | addLine => injection heq with heq; subst heq; rfl
  | gameOver => injection heq with heq; subst heq; rfl
  | gameEnd => injection heq with heq; subst heq; rfl

/-- What a tick gives the player of a slot, from a list that has become `l`. -/
inductive Served (l : List TetrominoType) (p x : Player) : List (Nat × Nat) → Prop
  | nothing (hindex : x.tetrominoIndex = p.tetrominoIndex)
      (htype : x.roomPlayerState = .play →
        x.tetris.currentTetromino.type = p.tetris.currentTetromino.type) : Served l p x []
  | piece (type next : TetrominoType) (hindex : x.tetrominoIndex = p.tetrominoIndex + 1)
      (htype : l[p.tetrominoIndex + 1]? = some type) (hnext : l[p.tetrominoIndex + 2]? = some next)
      (hcurrent : x.tetris.currentTetromino.type = type) :
      Served l p x [(type.toIndex, next.toIndex)]

theorem moved_type (t : Tetromino) (m : EventType) : (t.moved m).type = t.type := by
  cases m <;> rfl

/-- Whatever a task does to a piece, it stays the piece it was. -/
theorem apply_type {v v' : View} {task : TaskType} (h : v.apply task = some v') {q : Tetromino}
    (hq : v'.piece = some q) : ∃ p, v.piece = some p ∧ q.type = p.type := by
  cases task with
  | move m =>
      injection h with h
      rw [← h] at hq
      obtain ⟨p, hp, rfl⟩ := Option.map_eq_some_iff.mp hq
      exact ⟨p, hp, moved_type p m⟩
  | fix x y =>
      rw [View.apply] at h
      split at h
      · injection h with h
        exact ⟨q, h ▸ hq, rfl⟩
      · obtain ⟨b, _, h⟩ := Option.bind_eq_some_iff.mp h
        injection h with h
        rw [← h] at hq
        exact absurd hq (by simp)
  | clearLine y =>
      obtain ⟨b, _, h⟩ := Option.bind_eq_some_iff.mp h
      injection h with h
      rw [← h] at hq
      exact ⟨q, hq, rfl⟩
  | addLine holeX =>
      obtain ⟨b, _, h⟩ := Option.bind_eq_some_iff.mp h
      injection h with h
      rw [← h] at hq
      exact ⟨q, hq, rfl⟩
  | spawn => injection h with h; exact ⟨q, h ▸ hq, rfl⟩
  | gameOver => injection h with h; exact ⟨q, h ▸ hq, rfl⟩
  | gameEnd _ => injection h with h; exact ⟨q, h ▸ hq, rfl⟩

theorem replay_type : ∀ {tasks : List TaskType} {v v' : View}, v.replay tasks = some v' →
    ∀ {q : Tetromino}, v'.piece = some q → ∃ p, v.piece = some p ∧ q.type = p.type
  | [], v, v', h, q, hq => by
      injection h with h
      exact ⟨q, h ▸ hq, rfl⟩
  | task :: rest, v, v', h, q, hq => by
      rw [View.replay_cons] at h
      obtain ⟨v₁, hv₁, h⟩ := Option.bind_eq_some_iff.mp h
      obtain ⟨p, hp, hqp⟩ := replay_type h hq
      obtain ⟨o, ho, hpo⟩ := apply_type hv₁ hp
      exact ⟨o, ho, hqp.trans hpo⟩

/-- One slot of a tick the game goes on after: no piece, or the next of the list. -/
theorem served_slot {env : RoomEnv} {t : Int} {n : Nat} {p q s : Player} {l : List TetrominoType}
    (hp : SlotOk True n p) (hpq : Ticked t tickBudget p q)
    (hqs : Delivered l (addTasks q (spawnTasks q)) s) (ha : s.isActive = true) :
    Served l p (tidy env s) (spawnsOf s.sessionKey.playerId s.sendBuffer) := by
  have hbuffer : q.sendBuffer = [] := by rw [hpq.rest]; exact hp.buffer
  have hindex : q.tetrominoIndex = p.tetrominoIndex := by rw [hpq.rest]
  have hqa : q.isActive = true := (isActive_of_seat hqs.seat).symm.trans ha
  have hlog := hpq.log (hpq.isActive.symm.trans hqa)
  have htidy : (tidy env s).tetris.currentTetromino.type = s.tetris.currentTetromino.type := by
    cases htest : env.isTestMode <;> simp only [tidy, htest] <;> rfl
  have hne : ∀ task ∈ q.tetris.sendTasks, task ≠ .spawn := by
    rintro task ht rfl
    exact absurd (hlog.engine _ ht) (by decide)
  rcases hqs with ⟨hplaying, happ⟩ | ⟨hno, rfl⟩
  · have hplaying : playing q := hplaying
    have hpplay : p.roomPlayerState = .play := hpq.roomPlayerState.symm.trans hplaying.1
    cases hfix : hasEvent q.tetris.sendTasks .fix with
    | false =>
        have hnone : addTasks q (spawnTasks q) = q := by
          rw [spawnTasks, if_neg fun hc => absurd (hfix.symm.trans hc.2.2) (by decide)]
          simp [addTasks]
        rw [hnone] at happ
        cases happ with
        | respawned engine htasks => exact absurd rfl (hne .spawn (by rw [htasks]; simp))
        | plain _ =>
            have hspawns : spawnsOf q.sessionKey.playerId
                (q.sendBuffer ++ enginePackets q q.sessionKey.playerId q.tetris.sendTasks) =
                  [] := by
              rw [hbuffer, List.nil_append, spawnsOf_enginePackets _ _ _ hne]
            refine hspawns ▸ .nothing hindex fun _ => ?_
            -- what the log replays from and what it leads to are the same piece
            have hview : q.tetris.view.piece = some q.tetris.currentTetromino := by
              rw [Tetris.view, hfix]
              rfl
            obtain ⟨o, ho, htype⟩ := replay_type (hlog.replays hpplay) hview
            injection ho with ho
            exact htidy.trans (htype.trans (congrArg Tetromino.type ho.symm))
    | true =>
        have hone : spawnTasks q = [.spawn] := by
          rw [spawnTasks, if_pos ⟨hplaying.2, hplaying.1, hfix⟩]
        rw [hone] at happ
        cases happ with
        | plain hnone => exact absurd rfl (hnone .spawn (by simp [addTasks]))
        | respawned engine htasks _ type next htype hnext =>
            have heq : engine = q.tetris.sendTasks := List.append_cancel_right htasks.symm
            subst heq
            have hspawns : spawnsOf q.sessionKey.playerId (q.sendBuffer ++
                enginePackets (addTasks q [.spawn]) q.sessionKey.playerId q.tetris.sendTasks ++
                [spawnPacket (addTasks q [.spawn]) type next]) =
                  [(type.toIndex, next.toIndex)] := by
              rw [hbuffer, List.nil_append, spawnsOf_append, spawnsOf_enginePackets _ _ _ hne,
                List.nil_append]
              simp [spawnsOf, spawnPacket, addTasks]
            refine hspawns ▸ .piece type next ?_ (hindex ▸ htype) (hindex ▸ hnext) htidy
            exact congrArg (· + 1) hindex
  · -- nothing is sent for a player who has been eliminated before
    have hspawns : spawnsOf q.sessionKey.playerId q.sendBuffer = [] := by
      rw [hbuffer]
      rfl
    refine hspawns ▸ .nothing hindex fun hplay => ?_
    exact absurd ⟨hplay, hqa⟩ hno

/-- **A tick the game goes on after**, for anybody still in the room. -/
theorem served_tick {env : RoomEnv} {t : Int} {r r' : TetrisRoom} {qs ss : List Player}
    (h : RoomOk r) (hs : Seated env r.roomPlayers) (hplay : r.roomState = .play)
    (hr : TickRun env t r spawnTasks qs ss r') {x : Player} (hx : x ∈ r'.roomPlayers)
    (ha : x.isActive = true) :
    ∃ p ∈ r.roomPlayers, x.seat = p.seat ∧
      (x.roomPlayerState = .play → p.roomPlayerState = .play) ∧
      Served r'.tetrominoSpawnList p x (spawnsOf x.sessionKey.playerId (buffers ss)) := by
  rw [hr.players] at hx
  obtain ⟨s, hmem, rfl⟩ := List.mem_map.mp hx
  obtain ⟨hxseat, hxstate⟩ := tidied_fields env s
  have hsa : s.isActive = true := (isActive_of_seat hxseat).symm.trans ha
  obtain ⟨q, hq, hqs⟩ := hr.delivered.mem hmem
  obtain ⟨p, hp, hpq⟩ := hr.ticked.mem hq
  have hown : ∀ s ∈ ss, s.isActive = true → OwnPackets s := fun s hs _ => by
    obtain ⟨_, _, _, _, _, hown, _⟩ := spoken_slot h hr hs
    exact hown
  have hspawns : spawnsOf s.sessionKey.playerId (buffers ss) =
      spawnsOf s.sessionKey.playerId s.sendBuffer := by
    rw [← spawnsOf_packetsFor,
      packetsFor_buffers hsa hown (pairwise_ids (hs.of_sameSeats hr.sameSeats)) hmem]
  refine ⟨p, hp, hxseat.trans (hqs.seat.trans hpq.seat), fun hc => ?_, ?_⟩
  · rw [hxstate] at hc
    rw [← hpq.roomPlayerState]
    rcases hqs with ⟨hplaying, _⟩ | ⟨_, rfl⟩
    · exact hplaying.1
    · exact hc
  · rw [if_pos hsa]
    show Served _ p (tidy env s) (spawnsOf s.sessionKey.playerId (buffers ss))
    rw [hspawns]
    exact served_slot (h.playing hplay p hp) hpq hqs hsa

/-- Outside ticks the list of a running game stays as it is. -/
theorem spawnList_handled {env : RoomEnv} {r r' : TetrisRoom} (h : Handled env r r')
    (hplay : r.roomState = .play) (hplay' : r'.roomState = .play) :
    r'.tetrominoSpawnList = r.tetrominoSpawnList := by
  cases h with
  | aside h => exact h.spawnList
  | refused _ _ _ _ h => exact h.spawnList
  | joined _ _ hwait => rw [hplay] at hwait; exact absurd hwait (by decide)
  | removed _ _ _ h => exact h.spawnList hplay'
  | toggled _ h => exact h.spawnList
  | started _ h =>
      have hwait := h.wait
      rw [hplay] at hwait
      exact absurd hwait (by decide)
  | gaveUp _ _ hrest =>
      rw [hrest] at hplay'
      exact absurd hplay' (by simp [clearGame, storeRoomState, clearPlayTasks, forSessions])

/-! ## A whole game -/

/-- A game so far, with everything the room has sent since it started. -/
inductive GamePlay : List RoomEffect → TetrisRoom → Prop
  | start {r r' : TetrisRoom} (h : Reachable r) (hwait : r.roomState = .wait) (env : RoomEnv)
      (e : RoomEvent) (hserves : env.Serves r e) (hstep : r.step env e = some r')
      (hplay : r'.roomState = .play) : GamePlay r'.out r'
  | step {log : List RoomEffect} {r r' : TetrisRoom} (h : GamePlay log r) (env : RoomEnv)
      (e : RoomEvent) (hserves : env.Serves r e) (hstep : r.step env e = some r')
      (hplay : r'.roomState = .play) : GamePlay (log ++ r'.out) r'

theorem gamePlay_ok {log : List RoomEffect} {r : TetrisRoom} (h : GamePlay log r) :
    Reachable r ∧ r.roomState = .play := by
  induction h with
  | start h _ env e hserves hstep hplay => exact ⟨h.step env e hserves hstep, hplay⟩
  | step _ env e hserves hstep hplay ih => exact ⟨ih.1.step env e hserves hstep, hplay⟩

/-- What everybody who sits in the room knows of the pieces of the player `x`. -/
structure KnownSupply (log : List RoomEffect) (r : TetrisRoom) (x viewer : Player) : Prop where
  supplied : Supplied r.tetrominoSpawnList x.tetrominoIndex
    (spawnsOf x.sessionKey.playerId (received viewer.sessionKey log))
  current : x.roomPlayerState = .play →
    r.tetrominoSpawnList[x.tetrominoIndex]? = some x.tetris.currentTetromino.type

/-- The list of pieces of a game is a sequence of bags, at least one. -/
def BagsDrawn (l : List TetrominoType) : Prop :=
  ∃ bags : List Bag, bags ≠ [] ∧ l = bags.flatMap Bag.types

theorem BagsDrawn.grow {l l' : List TetrominoType} (h : BagsDrawn l) (hd : Drawn l l') :
    BagsDrawn l' := by
  obtain ⟨bags, hne, rfl⟩ := h
  obtain ⟨more, rfl⟩ := hd
  exact ⟨bags ++ more, fun hc => hne (List.append_eq_nil_iff.mp hc).1, List.flatMap_append.symm⟩

/-- **The start of a game**: one bag, and its first two entries announced for everybody. -/
theorem supply_start {env : RoomEnv} {r r' : TetrisRoom} {type : TetrominoType} (h : RoomOk r)
    (hs : Seated env r.roomPlayers) (hpieces : r.tetrominoSpawnList = []) (hout : r.out = [])
    (hr : Started env r r' type) :
    BagsDrawn r'.tetrominoSpawnList ∧ ∀ x ∈ r'.roomPlayers, x.isActive = true →
      ∀ viewer ∈ r'.roomPlayers, viewer.isActive = true → KnownSupply r'.out r' x viewer := by
  have hdrawn := hr.drawn
  rw [hpieces, List.nil_append] at hdrawn
  refine ⟨⟨[_], by simp, by rw [List.flatMap_singleton, hdrawn]⟩, ?_⟩
  have hbefore : ∀ x ∈ r'.roomPlayers, x.isActive = true → ∃ p ∈ r.roomPlayers, p.isActive = true ∧
      x = startedSlot p type (env.now p.sessionKey) := by
    intro x hx ha
    rw [hr.players] at hx
    obtain ⟨p, hp, rfl⟩ := List.mem_map.mp hx
    split at ha
    · rename_i hpa
      exact ⟨p, hp, hpa, if_pos hpa⟩
    · rename_i hpa
      exact absurd ha hpa
  intro x hx ha viewer hv hva
  obtain ⟨p, hp, hpa, rfl⟩ := hbefore x hx ha
  obtain ⟨w, hw, hwa, rfl⟩ := hbefore viewer hv hva
  obtain ⟨first, next, out, hfirst, hnext, hlog, hgot⟩ := hr.packets
  have hindex : p.tetrominoIndex = 0 :=
    ((h.slots p hp).idle fun hc => absurd (hr.wait.symm.trans hc.1) (by decide)).2
  have hspawns : spawnsOf p.sessionKey.playerId (received w.sessionKey r'.out) =
      [(type.toIndex, next.toIndex)] := by
    rw [hlog, hout, List.nil_append, hgot, if_pos (mem_targets hs hw hwa), ← spawnsOf_packetsFor,
      packetsFor_startPackets hfirst.1 hp hpa (pairwise_ids hs)]
    simp [spawnsOf]
  refine ⟨?_, fun _ => ?_⟩
  · show Supplied _ p.tetrominoIndex
      (spawnsOf p.sessionKey.playerId (received w.sessionKey r'.out))
    rw [hspawns, hindex]
    refine ⟨rfl, fun n hn => ?_⟩
    obtain rfl : n = 0 := Nat.le_zero.mp hn
    exact ⟨type, next, hr.current, hnext, rfl⟩
  · show r'.tetrominoSpawnList[p.tetrominoIndex]? = some type
    rw [hindex]
    exact hr.current

/-- What somebody is served, on top of what he had. -/
theorem KnownSupply.served {log more : List RoomEffect} {r r' : TetrisRoom} {p x viewer w : Player}
    (h : KnownSupply log r p w) (hl : r.tetrominoSpawnList <+: r'.tetrominoSpawnList)
    (hseat : x.seat = p.seat) (hviewer : viewer.seat = w.seat)
    (hstate : x.roomPlayerState = .play → p.roomPlayerState = .play)
    (hserved : Served r'.tetrominoSpawnList p x
      (spawnsOf x.sessionKey.playerId (received viewer.sessionKey more))) :
    KnownSupply (log ++ more) r' x viewer := by
  have hkey : x.sessionKey = p.sessionKey := congrArg Prod.fst hseat
  have hvkey : viewer.sessionKey = w.sessionKey := congrArg Prod.fst hviewer
  have hold : Supplied r'.tetrominoSpawnList p.tetrominoIndex
      (spawnsOf x.sessionKey.playerId (received viewer.sessionKey log)) := by
    rw [hkey, hvkey]
    exact h.supplied.grow hl
  generalize hspawns : spawnsOf x.sessionKey.playerId (received viewer.sessionKey more) = spawns
    at hserved
  cases hserved with
  | nothing hindex htype =>
      refine ⟨?_, fun hplay => ?_⟩
      · rw [received_append, spawnsOf_append, hspawns, List.append_nil, hindex]
        exact hold
      · have hcurrent := h.current (hstate hplay)
        have hlt := (List.getElem?_eq_some_iff.mp hcurrent).1
        obtain ⟨rest, hrest⟩ := hl
        rw [htype hplay, hindex, ← hcurrent, ← hrest, List.getElem?_append_left hlt]
  | piece type next hindex htype hnext hcurrent =>
      refine ⟨?_, fun _ => ?_⟩
      · rw [received_append, spawnsOf_append, hspawns, hindex]
        exact hold.next htype hnext
      · rw [hindex, htype, hcurrent]

/-- The supply of a game, from its start on. -/
theorem supply_gamePlay {log : List RoomEffect} {r : TetrisRoom} (h : GamePlay log r) :
    BagsDrawn r.tetrominoSpawnList ∧ ∀ x ∈ r.roomPlayers, x.isActive = true →
      ∀ viewer ∈ r.roomPlayers, viewer.isActive = true → KnownSupply log r x viewer := by
  induction h with
  | start hreach hwait env e hserves hstep hplay =>
      have hok := roomOk_reachable hreach
      obtain ⟨type, hstarted⟩ := started_step ((step_ok hok hserves).of_eq_some hstep) hwait hplay
      exact supply_start (roomOk_silent hok)
        (hok.seated hserves)
        ((rested_reachable hreach).pieces hwait) rfl hstarted
  | step h env e hserves hstep hplay' ih =>
      rename_i log r r'
      obtain ⟨hreach, hplay⟩ := gamePlay_ok h
      obtain ⟨hbags, hknown⟩ := ih
      have hok := roomOk_reachable hreach
      have hs : Seated env ({ r with out := [] } : TetrisRoom).roomPlayers := hok.seated hserves
      have htick : ∀ {t qs ss}, TickRun env t { r with out := [] } spawnTasks qs ss r' →
          BagsDrawn r'.tetrominoSpawnList ∧ ∀ x ∈ r'.roomPlayers, x.isActive = true →
            ∀ viewer ∈ r'.roomPlayers, viewer.isActive = true →
            KnownSupply (log ++ r'.out) r' x viewer := by
        intro t qs ss hr
        refine ⟨hbags.grow hr.drawn, fun x hx ha viewer hv hva => ?_⟩
        obtain ⟨p, hp, hseat, hstate, hserved⟩ := served_tick (roomOk_silent hok) hs hplay hr hx ha
        obtain ⟨w, hw, hwseat, _⟩ := kept_tick hr hv
        have hwa : w.isActive = true := (isActive_of_seat hwseat).symm.trans hva
        have hmem : viewer.sessionKey ∈ ({ r with out := [] } : TetrisRoom).targets env := by
          rw [show viewer.sessionKey = w.sessionKey from congrArg Prod.fst hwseat]
          exact mem_targets hs hw hwa
        refine (hknown p hp ((isActive_of_seat hseat).symm.trans ha) w hw hwa).served
          hr.grown hseat hwseat hstate ?_
        rw [hr.packets, if_pos hmem]
        exact hserved
      -- anything else shows nobody a piece, and keeps the list and the places
      have hquiet : r'.Quiet → r'.tetrominoSpawnList = r.tetrominoSpawnList →
          (∀ q ∈ r'.roomPlayers, q.isActive = true → ∃ p ∈ r.roomPlayers, Kept p q) →
          BagsDrawn r'.tetrominoSpawnList ∧ ∀ x ∈ r'.roomPlayers, x.isActive = true →
            ∀ viewer ∈ r'.roomPlayers, viewer.isActive = true →
            KnownSupply (log ++ r'.out) r' x viewer := by
        intro hquiet hlist hkept
        refine ⟨by rw [hlist]; exact hbags, fun x hx ha viewer hv hva => ?_⟩
        obtain ⟨p, hp, hpx⟩ := hkept x hx ha
        obtain ⟨w, hw, hwv⟩ := hkept viewer hv hva
        refine (hknown p hp ((isActive_of_seat hpx.seat).symm.trans ha) w hw
          ((isActive_of_seat hwv.seat).symm.trans hva)).served (hlist ▸ List.prefix_refl _)
          hpx.seat hwv.seat hpx.state ?_
        rw [← spawnsOf_packetsFor, packetsFor_received_quiet hquiet]
        exact .nothing hpx.index fun _ => by rw [hpx.tetris]
      have hsilent : ({ r with out := [] } : TetrisRoom).Quiet :=
        fun e he => absurd he List.not_mem_nil
      cases (step_ok hok hserves).of_eq_some hstep with
      | handled _ h =>
          have hlist := spawnList_handled h hplay hplay'
          exact hquiet (quiet_handled h hplay hplay' hsilent) hlist
            fun q hq ha => kept_handled h hplay hplay' hq ha
      | multi qs ss _ _ _ _ h =>
          cases h with
          | goesOn _ h => exact htick h
          | ends id _ _ _ _ hend =>
              rw [ended_wait hend] at hplay'
              exact absurd hplay' (by decide)
      | single _ _ h =>
          cases h with
          | idle h =>
              exact hquiet (h.quiet hsilent) h.spawnList fun q hq _ => ⟨q, h.players ▸ hq, .refl q⟩
          | goesOn qs ss h => exact htick h
          | ends qs ss _ hend =>
              rw [ended_wait hend] at hplay'
              exact absurd hplay' (by decide)

/-- In a running game every place, taken or not, has an entry after it. -/
theorem inRange_gamePlay {log : List RoomEffect} {r : TetrisRoom} (h : GamePlay log r) :
    InRange r := by
  obtain ⟨hreach, hplay⟩ := gamePlay_ok h
  obtain ⟨⟨bags, hne, hbags⟩, _⟩ := supply_gamePlay h
  have hlen : 7 ≤ r.tetrominoSpawnList.length := by
    have hpos := List.length_pos_iff.mpr hne
    rw [hbags, length_bags]
    omega
  intro p hp
  have hslot := (roomOk_reachable hreach).slots p hp
  by_cases ha : p.isActive = true
  · have hindex := (hslot.inGame hplay ha).index
    omega
  · have hindex := (hslot.idle fun hc => ha hc.2).2
    omega

/--
**The supply of pieces.** At every point of a game: every place has an entry after it,
also while a tick builds its packets; the list is made of whole bags; nothing an event
reads is missing; and for every player everybody in the room has been sent exactly the
entries up to his place, in order, each with the next one announced.
-/
theorem piece_supply {log : List RoomEffect} {r : TetrisRoom} (h : GamePlay log r) :
    InRange r ∧
    (∀ (env : RoomEnv) (r₀ r₁ : TetrisRoom), r₀.tetrominoSpawnList = r.tetrominoSpawnList →
      r₀.roomPlayers.map (·.tetrominoIndex) = r.roomPlayers.map (·.tetrominoIndex) →
      Building env r₀ r₁ → InRange r₁) ∧
    (∀ (env : RoomEnv) (e : RoomEvent), env.Serves r e → ∃ r', r.step env e = some r') ∧
    7 ∣ r.tetrominoSpawnList.length ∧
    (∀ k, 7 * k + 7 ≤ r.tetrominoSpawnList.length →
      ((r.tetrominoSpawnList.drop (7 * k)).take 7).Perm TetrominoType.all) ∧
    ∀ p ∈ r.roomPlayers, p.isActive = true →
      (p.roomPlayerState = .play →
        r.tetrominoSpawnList[p.tetrominoIndex]? = some p.tetris.currentTetromino.type) ∧
      ∀ viewer ∈ r.roomPlayers, viewer.isActive = true →
        Supplied r.tetrominoSpawnList p.tetrominoIndex
          (spawnsOf p.sessionKey.playerId (received viewer.sessionKey log)) := by
  have hrange := inRange_gamePlay h
  obtain ⟨⟨bags, _, hbags⟩, hknown⟩ := supply_gamePlay h
  refine ⟨hrange, fun env r₀ r₁ hlist hindex hbuilding => ?_,
    fun env e hserves => ?_, ?_, fun k hk => ?_, fun p hp ha => ?_⟩
  · exact hbuilding.inRange (hrange.of_same (congrArg List.length hlist) hindex)
  · obtain ⟨r', hr', _⟩ := step_ok (roomOk_reachable (gamePlay_ok h).1) hserves
    exact ⟨r', hr'⟩
  · rw [hbags, length_bags]
    exact Nat.dvd_mul_right ..
  · rw [hbags] at hk ⊢
    exact block_perm bags k hk
  · exact ⟨(hknown p hp ha p hp ha).current,
      fun viewer hv hva => (hknown p hp ha viewer hv hva).supplied⟩

/-- Two players, one of whom has dropped his first piece. -/
theorem piece_supply_twoPlayers : ∃ log r, GamePlay log r ∧ InRange r ∧
    ∀ p ∈ r.roomPlayers, p.isActive = true → ∀ viewer ∈ r.roomPlayers, viewer.isActive = true →
      Supplied r.tetrominoSpawnList p.tetrominoIndex
        (spawnsOf p.sessionKey.playerId (received viewer.sessionKey log)) := by
  let keys := [hostKey, guestKey]
  have hrun : ((gathering .two hostKey [guestKey]).any fun r₀ =>
      decide (AllOf keys r₀ ∧ r₀.roomState = .wait) &&
      (r₀.step (worldOf keys) (taskOf hostKey .start)).any fun r₁ =>
        decide (AllOf keys r₁ ∧ r₁.roomState = .play) &&
        (r₁.step (worldOf keys) (.input ⟨EventType.drop.toInt, 1, 1⟩)).any fun r₂ =>
          decide (AllOf keys r₂ ∧ r₂.roomState = .play) &&
          (r₂.step (worldOf keys) (.tick 20000)).any fun r₃ =>
            decide (r₃.roomState = .play)) = true := by
    decide +kernel
  simp only [Option.any_eq_true, Bool.and_eq_true, decide_eq_true_eq] at hrun
  obtain ⟨r₀, hr₀, ⟨hall₀, hwait⟩, r₁, hr₁, ⟨hall₁, hplay₁⟩, r₂, hr₂, ⟨hall₂, hplay₂⟩,
    r₃, hr₃, hplay₃⟩ := hrun
  have hkeys : keys.Pairwise fun k k' => k.playerId ≠ k'.playerId := by decide
  have hgame := ((GamePlay.start (scenario_reachable hkeys
    (.created (scenarioRoom_created .two (by decide))) hr₀) hwait _ _
    (scenarioEnv_serves .room 0 hkeys hall₀) hr₁ hplay₁).step _ _
    (scenarioEnv_serves .room 0 hkeys hall₁) hr₂ hplay₂).step _ _
    (scenarioEnv_serves .room 0 hkeys hall₂) hr₃ hplay₃
  obtain ⟨hrange, _, _, _, _, hsupplied⟩ := piece_supply hgame
  exact ⟨_, r₃, hgame, hrange, fun p hp ha => (hsupplied p hp ha).2⟩

end TetrisRoom

end ProjectTetris

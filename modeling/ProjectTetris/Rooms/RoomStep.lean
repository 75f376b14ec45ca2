import ProjectTetris.Rooms.TickSteps

/-!
# What one event does

A room handles one event at a time. `Handled` lists everything an event other than
a tick can do to the slots, the state and the list of pieces; invariants and runs are
argued from that list and never from the functions behind it. Who is told what is
left out of it, except for one fact: outside ticks nobody is sent a move.
-/

namespace ProjectTetris

namespace S2CPacket

/-- Packets that show a running game, or end it. -/
def showsGame : S2CPacket → Bool
  | move .. | spawn .. | fix .. | clearLine .. | addLine .. | gameOver _ | gameEnd _ => true
  | _ => false

/-- Packets a client keeps its picture of the members with. -/
def isRoomNews : S2CPacket → Bool
  | addPublicRoom .. | addPrivateRoom .. | addPlayer .. | removePlayer _ | updateHost _ | ready ..
  | gameEnd _ => true
  | _ => false

end S2CPacket

/-- An effect nobody's picture of a game depends on. -/
def RoomEffect.Quiet : RoomEffect → Prop
  | .send _ packets => ∀ packet ∈ packets, packet.showsGame = false
  | _ => True

namespace TetrisRoom

def Quiet (r : TetrisRoom) : Prop := ∀ e ∈ r.out, e.Quiet

theorem Quiet.emit {r : TetrisRoom} {e : RoomEffect} (h : r.Quiet) (he : e.Quiet) :
    (r.emit e).Quiet := by
  intro e' he'
  rcases List.mem_append.mp he' with he' | he'
  · exact h e' he'
  · rw [List.mem_singleton.mp he']; exact he

theorem quiet_send {dest : SessionKey} {packet : S2CPacket} (h : packet.showsGame = false) :
    (RoomEffect.send dest [packet]).Quiet := by
  intro packet' hp
  rw [List.mem_singleton.mp hp]; exact h

/-! ## Talking -/

/--
The room has sent something, or changed what no game depends on: the slots, the state
and the pieces are the same.
-/
structure Aside (r r' : TetrisRoom) : Prop where
  kind : r'.kind = r.kind
  capacity : r'.maxPlayerCount = r.maxPlayerCount
  state : r'.roomState = r.roomState
  players : r'.roomPlayers = r.roomPlayers
  spawnList : r'.tetrominoSpawnList = r.tetrominoSpawnList
  count : r'.currentPlayerCount = r.currentPlayerCount
  quiet : r.Quiet → r'.Quiet

theorem Aside.refl (r : TetrisRoom) : Aside r r := ⟨rfl, rfl, rfl, rfl, rfl, rfl, id⟩

theorem Aside.trans {r₁ r₂ r₃ : TetrisRoom} (h₁ : Aside r₁ r₂) (h₂ : Aside r₂ r₃) : Aside r₁ r₃ :=
  ⟨h₂.kind.trans h₁.kind, h₂.capacity.trans h₁.capacity, h₂.state.trans h₁.state,
    h₂.players.trans h₁.players,
    h₂.spawnList.trans h₁.spawnList, h₂.count.trans h₁.count, fun h => h₂.quiet (h₁.quiet h)⟩

theorem Aside.emit (r : TetrisRoom) {e : RoomEffect} (he : e.Quiet) : Aside r (r.emit e) :=
  ⟨rfl, rfl, rfl, rfl, rfl, rfl, fun h => h.emit he⟩

theorem Aside.broadcast (r : TetrisRoom) (env : RoomEnv) (packet : S2CPacket)
    (h : packet.showsGame = false) : Aside r (r.broadcast env packet) := by
  refine ⟨rfl, rfl, rfl, rfl, rfl, rfl, fun hq e he => ?_⟩
  rcases List.mem_append.mp he with he | he
  · exact hq e he
  · obtain ⟨key, _, rfl⟩ := List.mem_map.mp he
    exact quiet_send h

theorem Aside.modifyPlayer {r r' : TetrisRoom} (h : Aside r r') (i : Nat) (f : Player → Player) :
    Aside (r.modifyPlayer i f) (r'.modifyPlayer i f) where
  kind := h.kind
  capacity := h.capacity
  state := h.state
  players := congrArg (·.modify i f) h.players
  spawnList := h.spawnList
  count := h.count
  quiet := h.quiet

theorem Aside.foldl {α : Type} {f : TetrisRoom → α → TetrisRoom} (h : ∀ r a, Aside r (f r a)) :
    ∀ (l : List α) (r : TetrisRoom), Aside r (l.foldl f r)
  | [], r => .refl r
  | a :: rest, r => (h r a).trans (Aside.foldl h rest (f r a))

theorem createRoomPacket_showsGame (r : TetrisRoom) : r.createRoomPacket.showsGame = false := by
  unfold createRoomPacket
  split <;> rfl

theorem aside_announceJoin (r : TetrisRoom) (env : RoomEnv) (added : Nat) (v : SessionView)
    (key : SessionKey) : Aside r (MultiRoom.announceJoin r env added v key) := by
  unfold MultiRoom.announceJoin
  dsimp only
  refine .trans (.trans (.trans (.emit r ?_) (.foldl ?_ _ _)) (.foldl ?_ _ _)) (.emit _ ?_)
  · exact quiet_send (createRoomPacket_showsGame r)
  · exact fun r other => .emit r (quiet_send rfl)
  · exact fun r other => .emit r (quiet_send rfl)
  · exact quiet_send rfl

/-! ## What an event can do -/

/-- The slot after `InitPlayer` and `Activate`, for the session `key`. -/
def joinedSlot (p : Player) (key : SessionKey) (now : Int) : Player :=
  { p.resetGameData now with sessionKey := key, activeState := .active }

/-- The slot at the start of a game: cleared, in the game, with the first piece of the list. -/
def startedSlot (p : Player) (type : TetrominoType) (now : Int) : Player :=
  { p with
    roomPlayerState := .play
    tetris := (p.tetris.initNewTetromino type spawnPos).clear now }

/-- The player of slot `i` is gone, and the slot is free; the last to go takes the room along. -/
structure Removed (r : TetrisRoom) (i : Nat) (r' : TetrisRoom) : Prop where
  kind : r'.kind = r.kind
  capacity : r'.maxPlayerCount = r.maxPlayerCount
  state : (r.currentPlayerCount ≠ 1 ∧ r'.roomState = r.roomState) ∨
    (r.currentPlayerCount = 1 ∧ r'.roomState = .waitingDelete)
  spawnList : r'.roomState = .play → r'.tetrominoSpawnList = r.tetrominoSpawnList
  pieces : r'.tetrominoSpawnList = r.tetrominoSpawnList ∨ r'.tetrominoSpawnList = []
  count : r'.currentPlayerCount = r.currentPlayerCount - 1
  length : r'.roomPlayers.length = r.roomPlayers.length
  slot : ∀ p, r.roomPlayers[i]? = some p → ∃ now, r'.roomPlayers[i]? = some (p.clearPlayer now)
  others : ∀ (j : Nat) (p : Player), j ≠ i → r.roomPlayers[j]? = some p →
    ∃ q, r'.roomPlayers[j]? = some q ∧
      (q = p ∨ (r'.roomState = .wait ∧ q = { p with roomPlayerState := .wait }))
  quiet : r.Quiet → r'.Quiet

/-- What everybody is sent when a game starts: that it does, and each player's first two pieces. -/
def startPackets (first : S2CPacket) (ps : List Player) (type next : TetrominoType) :
    List S2CPacket :=
  first :: (ps.filter (·.isActive)).map fun p =>
    .spawn p.sessionKey.playerId type.toIndex next.toIndex spawnPos.x spawnPos.y

/-- A game has started, with everybody who is in the room. -/
structure Started (env : RoomEnv) (r r' : TetrisRoom) (type : TetrominoType) : Prop where
  wait : r.roomState = .wait
  play : r'.roomState = .play
  kind : r'.kind = r.kind
  capacity : r'.maxPlayerCount = r.maxPlayerCount
  host : r'.hostId = r.hostId
  count : r'.currentPlayerCount = r.currentPlayerCount
  spawnList : 2 ≤ r'.tetrominoSpawnList.length
  drawn : r'.tetrominoSpawnList = r.tetrominoSpawnList ++
    (env.bag r.tetrominoSpawnList.length).types
  current : r'.tetrominoSpawnList[0]? = some type
  players : r'.roomPlayers = r.roomPlayers.map fun p =>
    if p.isActive then startedSlot p type (env.now p.sessionKey) else p
  packets : ∃ first next out, (first.showsGame = false ∧ first.isRoomNews = false) ∧
    r'.tetrominoSpawnList[1]? = some next ∧
    r'.out = r.out ++ out ∧
    ∀ key, received key out =
      if key ∈ r.targets env then startPackets first r.roomPlayers type next else []

/-- Everything an event other than a tick can do to a room. -/
inductive Handled (env : RoomEnv) (r : TetrisRoom) : TetrisRoom → Prop
  | aside {r' : TetrisRoom} (h : Aside r r') : Handled env r r'
  /-- A free slot has its game cleared once more. -/
  | refused (i : Nat) {p : Player} (now : Int) {r' : TetrisRoom} (hp : r.roomPlayers[i]? = some p)
      (hfree : p.hasSession = false) (h : Aside (r.modifyPlayer i (·.clearPlayer now)) r') :
      Handled env r r'
  | joined (i : Nat) {p : Player} {key : SessionKey} (now : Int) {r' : TetrisRoom}
      (hwait : r.roomState = .wait) (hp : r.roomPlayers[i]? = some p)
      (hfree : p.hasSession = false)
      (hnew : ∀ q ∈ r.roomPlayers, q.hasSession = true → q.sessionKey.playerId ≠ key.playerId)
      (h : Aside ({ r with currentPlayerCount := r.currentPlayerCount + 1 }.modifyPlayer i
        (joinedSlot · key now)) r') : Handled env r r'
  | removed (i : Nat) {p : Player} {r' : TetrisRoom} (hp : r.roomPlayers[i]? = some p)
      (hsession : p.hasSession = true) (h : Removed r i r') : Handled env r r'
  | toggled (i : Nat) {r' : TetrisRoom}
      (h : Aside (r.modifyPlayer i fun p =>
        { p with roomPlayerState := (MultiRoom.toggled p.roomPlayerState).1 }) r') :
          Handled env r r'
  | started (type : TetrominoType) {r' : TetrisRoom} (h : Started env r r' type) : Handled env r r'
  /-- The game of a room for one player is given up. -/
  | gaveUp {r' : TetrisRoom} (hkind : r.kind = .single) (hplay : r.roomState = .play)
      (hrest : r' = { r.clearGame env with out := r'.out })
      (hsent : ∃ p ∈ r.roomPlayers, ∃ owner after, findSession env p = some owner ∧
        r'.out = r.out ++ .send p.sessionKey [.gameOver owner.playerId] :: after ∧
        ∀ key, received key after = []) : Handled env r r'

/-! ## Leaving -/

theorem clearPlayer_fst (r : TetrisRoom) (env : RoomEnv) (i : Nat) :
    ∃ now, (r.clearPlayer env i).1 = r.modifyPlayer i (·.clearPlayer now) := by
  unfold clearPlayer
  cases hp : r.roomPlayers[i]? with
  | none =>
      refine ⟨0, ?_⟩
      have hsame : r.roomPlayers.modify i (·.clearPlayer 0) = r.roomPlayers := by
        refine List.ext_getElem? fun j => ?_
        rw [List.getElem?_modify]
        by_cases hij : i = j
        · subst hij
          rw [hp]
          rfl
        · simp [hij]
      rw [modifyPlayer, hsame]
  | some p =>
      refine ⟨env.now p.sessionKey, ?_⟩
      dsimp only
      cases env.findSession p.sessionKey with
      | none => rfl
      | some v =>
          dsimp only
          split <;> rfl

/-- What `FindNewHost` can do: a new host in `WAIT` is no longer ready, and an empty room goes. -/
structure Rehosted (r r' : TetrisRoom) : Prop where
  kind : r'.kind = r.kind
  capacity : r'.maxPlayerCount = r.maxPlayerCount
  state : r'.roomState = r.roomState ∨
    (r.currentPlayerCount = 0 ∧ r'.roomState = .waitingDelete)
  spawnList : r'.tetrominoSpawnList = r.tetrominoSpawnList
  count : r'.currentPlayerCount = r.currentPlayerCount
  length : r'.roomPlayers.length = r.roomPlayers.length
  players : ∀ (j : Nat) (p : Player), r.roomPlayers[j]? = some p →
    ∃ q, r'.roomPlayers[j]? = some q ∧
    (q = p ∨ (r'.roomState = .wait ∧ q = { p with roomPlayerState := .wait }))
  quiet : r.Quiet → r'.Quiet

theorem Rehosted.of_aside {r r' : TetrisRoom} (h : Aside r r') : Rehosted r r' :=
  ⟨h.kind, h.capacity, .inl h.state, h.spawnList, h.count, by rw [h.players],
    fun j p hp => ⟨p, by rw [h.players]; exact hp, .inl rfl⟩, h.quiet⟩

theorem findNewHost_ok (r : TetrisRoom) (env : RoomEnv) :
    Rehosted r (MultiRoom.findNewHost r env) := by
  unfold MultiRoom.findNewHost
  dsimp only
  generalize (if r.currentPlayerCount ≠ 0 then
    r.roomPlayers.findIdx? fun p => (findSession env p).isSome else none) = host
  cases host with
  | none =>
      dsimp only
      split
      · rename_i hcount
        exact ⟨rfl, rfl, .inr ⟨hcount, rfl⟩, rfl, rfl, rfl, fun j p hp => ⟨p, hp, .inl rfl⟩, id⟩
      · exact .of_aside ⟨rfl, rfl, rfl, rfl, rfl, rfl, id⟩
  | some i =>
      dsimp only
      generalize (((r.roomPlayers[i]?).bind (findSession env)).elim r.hostId (·.playerId)) = id
      split
      · rename_i hwait
        have haside :=
          Aside.broadcast (({ r with hostId := id } : TetrisRoom).modifyPlayer i fun p =>
          { p with roomPlayerState := .wait }) env (.updateHost id) rfl
        refine ⟨haside.kind, haside.capacity, .inl haside.state, haside.spawnList, haside.count,
          ?_, fun j p hp => ?_, fun hq => haside.quiet hq⟩
        · rw [haside.players, modifyPlayer, List.length_modify]
        · rw [haside.players, modifyPlayer_getElem?, hp, Option.map_some]
          refine ⟨_, rfl, ?_⟩
          split
          · exact .inr ⟨haside.state.trans hwait, rfl⟩
          · exact .inl rfl
      · have haside := Aside.broadcast ({ r with hostId := id } : TetrisRoom) env
          (.updateHost id) rfl
        exact .of_aside ⟨haside.kind, haside.capacity, haside.state, haside.players,
          haside.spawnList, haside.count, fun hq => haside.quiet hq⟩

/-- `BeginRoomDelete`, when the last player is about to go. -/
def deleteIfLast (r : TetrisRoom) : TetrisRoom :=
  if r.currentPlayerCount = 1 then r.beginRoomDelete else r

/-- A removal, put together from its parts. -/
theorem removed_of_steps {r r₁ r₂ r₃ : TetrisRoom} {i : Nat} {now : Int}
    (h₁ : Aside (deleteIfLast r) r₁)
    (h₂ : Rehosted { r₁.modifyPlayer i (·.clearPlayer now) with
      currentPlayerCount := r₁.currentPlayerCount - 1 } r₂)
    (h₃ : Aside r₂ r₃) : Removed r i r₃ := by
  have hlast : (deleteIfLast r).kind = r.kind ∧ (deleteIfLast r).roomPlayers = r.roomPlayers ∧
      (deleteIfLast r).tetrominoSpawnList = r.tetrominoSpawnList ∧
      (deleteIfLast r).currentPlayerCount = r.currentPlayerCount ∧
      (deleteIfLast r).maxPlayerCount = r.maxPlayerCount ∧ (r.Quiet → (deleteIfLast r).Quiet) := by
    unfold deleteIfLast
    split <;> exact ⟨rfl, rfl, rfl, rfl, rfl, id⟩
  obtain ⟨hkind, hplayers, hlist, hcount, hcapacity, hquiet⟩ := hlast
  have hcount₁ : r₁.currentPlayerCount = r.currentPlayerCount := h₁.count.trans hcount
  have hplayers₁ : r₁.roomPlayers = r.roomPlayers := h₁.players.trans hplayers
  have hslots : ∀ (j : Nat) (p : Player), r.roomPlayers[j]? = some p →
      ∃ q, r₃.roomPlayers[j]? = some q ∧
        (q = (if i = j then p.clearPlayer now else p) ∨ (r₃.roomState = .wait ∧
          q = { (if i = j then p.clearPlayer now else p) with roomPlayerState := .wait })) := by
    intro j p hp
    obtain ⟨q, hq, hrel⟩ := h₂.players j (if i = j then p.clearPlayer now else p)
      (by simp [hplayers₁, hp])
    exact ⟨q, by rw [h₃.players]; exact hq, hrel.imp id fun h => ⟨h₃.state.trans h.1, h.2⟩⟩
  have hpieces : r₃.tetrominoSpawnList = r.tetrominoSpawnList :=
    h₃.spawnList.trans (h₂.spawnList.trans (h₁.spawnList.trans hlist))
  refine ⟨h₃.kind.trans (h₂.kind.trans (h₁.kind.trans hkind)),
    h₃.capacity.trans (h₂.capacity.trans (h₁.capacity.trans hcapacity)), ?_,
    fun _ => hpieces, .inl hpieces, ?_, ?_,
    fun p hp => ?_, fun j p hj hp => ?_, fun hq => h₃.quiet (h₂.quiet (h₁.quiet (hquiet hq)))⟩
  · -- nobody is left exactly if the last one went
    have hstate₁ : r₁.roomState = (deleteIfLast r).roomState := h₁.state
    by_cases hone : r.currentPlayerCount = 1
    · rw [deleteIfLast, if_pos hone] at hstate₁
      refine .inr ⟨hone, h₃.state.trans ?_⟩
      rcases h₂.state with hs | hs
      · exact hs.trans hstate₁
      · exact hs.2
    · rw [deleteIfLast, if_neg hone] at hstate₁
      refine .inl ⟨hone, h₃.state.trans ?_⟩
      rcases h₂.state with hs | ⟨hzero, _⟩
      · exact hs.trans hstate₁
      · exact absurd (by dsimp only at hzero; omega) hone
  · rw [h₃.count, h₂.count, ← hcount₁]
  · rw [h₃.players, h₂.length, ← hplayers₁]
    exact List.length_modify _ _ _
  · obtain ⟨q, hq, hrel⟩ := hslots i p hp
    rw [if_pos rfl] at hrel
    -- a slot that has just been cleared is in `WAIT` already
    refine ⟨now, hq.trans (congrArg some ?_)⟩
    rcases hrel with rfl | ⟨_, rfl⟩ <;> rfl
  · obtain ⟨q, hq, hrel⟩ := hslots j p hp
    rw [if_neg (Ne.symm hj)] at hrel
    exact ⟨q, hq, hrel⟩

/-- **`CompletePlayerRemoval` of a room for several players.** -/
theorem completePlayerRemoval_ok {r : TetrisRoom} {env : RoomEnv} {key : SessionKey} {i : Nat}
    (exitType : RoomExitType) (hfind : r.findPlayer key = some i) :
    Removed r i (MultiRoom.completePlayerRemoval r env key exitType) := by
  unfold MultiRoom.completePlayerRemoval
  rw [hfind]
  dsimp only
  generalize ((r.roomPlayers[i]?).map (·.sessionKey.playerId)).getD (-1) = playerId
  have hannounced :
    Aside (deleteIfLast r) ((deleteIfLast r).broadcast env (.removePlayer playerId)) :=
    .broadcast _ env _ rfl
  have h₁ : Aside (deleteIfLast r)
      (if exitType = .kick ∧ (env.findSession key).isSome = true then
        ((deleteIfLast r).broadcast env (.removePlayer playerId)).emit (.send key [.info kicked])
      else (deleteIfLast r).broadcast env (.removePlayer playerId)) := by
    split
    · exact hannounced.trans (.emit _ (quiet_send rfl))
    · exact hannounced
  rw [deleteIfLast] at h₁
  generalize hr₁ : (if exitType = .kick ∧ (env.findSession key).isSome = true then
        ((if r.currentPlayerCount = 1 then r.beginRoomDelete else r).broadcast env
          (.removePlayer playerId)).emit (.send key [.info kicked])
      else (if r.currentPlayerCount = 1 then r.beginRoomDelete else r).broadcast env
        (.removePlayer playerId)) = r₁ at h₁ ⊢
  obtain ⟨now, hclear⟩ := clearPlayer_fst r₁ env i
  cases hcleared : r₁.clearPlayer env i with
  | mk r₂ disconnected =>
      rw [hcleared] at hclear
      dsimp only at hclear ⊢
      subst hclear
      have h₂ : Rehosted { r₁.modifyPlayer i (·.clearPlayer now) with
            currentPlayerCount := r₁.currentPlayerCount - 1 }
          (if playerId = r₁.hostId then MultiRoom.findNewHost
            { r₁.modifyPlayer i (·.clearPlayer now) with
            currentPlayerCount := r₁.currentPlayerCount - 1 } env
          else { r₁.modifyPlayer i (·.clearPlayer now) with
            currentPlayerCount := r₁.currentPlayerCount - 1 }) := by
        split
        · exact findNewHost_ok _ env
        · exact .of_aside (.refl _)
      cases disconnected with
      | none => exact removed_of_steps h₁ h₂ (.refl _)
      | some key => exact removed_of_steps h₁ h₂ (.emit _ (by trivial))

theorem Removed.aside {r r' r'' : TetrisRoom} {i : Nat} (h : Removed r i r') (ha : Aside r' r'') :
    Removed r i r'' where
  kind := ha.kind.trans h.kind
  capacity := ha.capacity.trans h.capacity
  state := h.state.imp (fun hs => ⟨hs.1, ha.state.trans hs.2⟩) fun hs =>
    ⟨hs.1, ha.state.trans hs.2⟩
  spawnList hplay := ha.spawnList.trans (h.spawnList (ha.state.symm.trans hplay))
  pieces := h.pieces.imp ha.spawnList.trans ha.spawnList.trans
  count := ha.count.trans h.count
  length := by rw [ha.players, h.length]
  slot p hp := by rw [ha.players]; exact h.slot p hp
  others j p hj hp := by rw [ha.players, ha.state]; exact h.others j p hj hp
  quiet hq := ha.quiet (h.quiet hq)

/-- Setting the slot `PENDING` first makes no difference once it is cleared. -/
theorem Removed.of_pending {r r' : TetrisRoom} {i : Nat} {p : Player}
    (hp : r.roomPlayers[i]? = some p)
    (h : Removed (r.modifyPlayer i fun _ => { p with activeState := .pending }) i r') :
    Removed r i r' where
  kind := h.kind
  capacity := h.capacity
  state := h.state
  spawnList := h.spawnList
  pieces := h.pieces
  count := h.count
  length := h.length.trans (List.length_modify _ _ _)
  slot q hq := by
    rw [hp] at hq
    injection hq with hq
    subst hq
    exact h.slot { p with activeState := .pending } (by simp [hp])
  others j q hj hq := h.others j q hj (by simp [hq, Ne.symm hj])
  quiet := h.quiet

theorem findPlayer_slot {r : TetrisRoom} {key : SessionKey} {i : Nat}
    (h : r.findPlayer key = some i) :
    ∃ p, r.roomPlayers[i]? = some p ∧ p.matchesSessionKey key = true := by
  obtain ⟨hlt, hp, _⟩ := List.findIdx?_eq_some_iff_getElem.mp h
  exact ⟨_, List.getElem?_eq_getElem hlt, hp⟩

theorem hasSession_of_matches {p : Player} {key : SessionKey}
    (h : p.matchesSessionKey key = true) :
    p.hasSession = true := by
  simp only [Player.matchesSessionKey, decide_eq_true_eq] at h
  exact h.1

/-- `FindPlayer` looks at nothing but the sessions of the slots. -/
theorem findPlayer_modify {r : TetrisRoom} {key : SessionKey} {i : Nat} {f : Player → Player}
    (h : ∀ p, r.roomPlayers[i]? = some p → (f p).matchesSessionKey key = p.matchesSessionKey key) :
    (r.modifyPlayer i f).findPlayer key = r.findPlayer key := by
  have hmap : (r.roomPlayers.modify i f).map (·.matchesSessionKey key) =
      r.roomPlayers.map (·.matchesSessionKey key) := by
    refine List.ext_getElem? fun j => ?_
    simp only [List.getElem?_map, List.getElem?_modify, Option.map_eq_map]
    by_cases hij : i = j
    · subst hij
      cases hp : r.roomPlayers[i]? with
      | none => rfl
      | some p => simp [h p hp]
    · simp [hij]
  have hany : ∀ ps : List Player, (ps.findIdx? fun p => p.matchesSessionKey key) =
      (ps.map (·.matchesSessionKey key)).findIdx? id := by
    intro ps
    rw [List.findIdx?_map]
    rfl
  rw [findPlayer, findPlayer, hany, hany, modifyPlayer, hmap]

theorem requestLobbyTransition_ok {r : TetrisRoom} {env : RoomEnv} {key : SessionKey}
    (exitType : RoomExitType) :
    Handled env r (MultiRoom.requestLobbyTransition r env key exitType) := by
  unfold MultiRoom.requestLobbyTransition
  cases hfind : r.findPlayer key with
  | none => exact .aside (.refl r)
  | some i =>
      obtain ⟨p, hp, hkey⟩ := findPlayer_slot hfind
      dsimp only
      rw [hp]
      dsimp only
      unfold Player.trySetPending
      split
      · have hfind' :
            (r.modifyPlayer i fun _ => { p with activeState := .pending }).findPlayer key =
            some i := by
          rw [findPlayer_modify, hfind]
          rintro q hq
          rw [hp] at hq
          injection hq with hq
          subst hq
          rename_i hactive
          simp [Player.matchesSessionKey, Player.hasSession, hactive.2]
        exact .removed i hp (hasSession_of_matches hkey)
          (((completePlayerRemoval_ok exitType hfind').aside (.emit _ (by trivial))).of_pending hp)
      · exact .aside (.refl r)

theorem removal_ok {r : TetrisRoom} {env : RoomEnv} {key : SessionKey} (exitType : RoomExitType) :
    Handled env r (MultiRoom.completePlayerRemoval r env key exitType) := by
  cases hfind : r.findPlayer key with
  | none =>
      unfold MultiRoom.completePlayerRemoval
      rw [hfind]
      exact .aside (.refl r)
  | some i =>
      obtain ⟨p, hp, hkey⟩ := findPlayer_slot hfind
      exact .removed i hp (hasSession_of_matches hkey) (completePlayerRemoval_ok exitType hfind)

theorem removePlayer_ok {r : TetrisRoom} {env : RoomEnv} {key : SessionKey} :
    Handled env r (MultiRoom.removePlayer r env key) := by
  unfold MultiRoom.removePlayer
  split
  · split
    · exact requestLobbyTransition_ok .leave
    · exact removal_ok .leave
  · exact removal_ok .leave

/-! ### A room for one player -/

/-- **`CompletePlayerRemoval` of a room for one player** clears the room. -/
theorem SingleRoom.completePlayerRemoval_ok {r : TetrisRoom} {env : RoomEnv} {key : SessionKey}
    (hlen : r.roomPlayers.length = 1) (hcount : r.currentPlayerCount = 1)
    (hfind : r.findPlayer key = some 0) :
    Removed r 0 (SingleRoom.completePlayerRemoval r env key) := by
  unfold SingleRoom.completePlayerRemoval
  rw [hfind]
  dsimp only
  generalize ((r.roomPlayers[0]?).map (·.sessionKey.playerId)).getD (-1) = playerId
  have hannounced : Aside r (r.broadcast env (.removePlayer playerId)) := .broadcast _ env _ rfl
  generalize r.broadcast env (.removePlayer playerId) = r₁ at hannounced ⊢
  have hlen₁ : r₁.roomPlayers.length = 1 := by rw [hannounced.players, hlen]
  unfold clearRoom
  dsimp only
  rw [show (clearPlayTasks r₁).roomPlayers.length = 1 from hlen₁,
    show List.range 1 = [0] from rfl, List.foldl_cons, List.foldl_nil]
  dsimp only
  generalize hr₂ : ({ r₁.clearPlayTasks with tetrominoSpawnList := [] } : TetrisRoom) = r₂
  have hplayers₂ : r₂.roomPlayers = r.roomPlayers := by rw [← hr₂]; exact hannounced.players
  have hkind₂ : r₂.kind = r.kind := by rw [← hr₂]; exact hannounced.kind
  have hcapacity₂ : r₂.maxPlayerCount = r.maxPlayerCount := by
    rw [← hr₂]; exact hannounced.capacity
  have hquiet₂ : r.Quiet → r₂.Quiet := by rw [← hr₂]; exact hannounced.quiet
  obtain ⟨now, hclear⟩ := clearPlayer_fst r₂ env 0
  rw [hclear]
  -- the reports change nothing, and then the room is marked for deletion
  have hreports : Aside _ _ := Aside.foldl
    (f := fun (r : TetrisRoom) key => r.emit (.completeRoomDisconnect key))
    (fun r key => .emit r trivial) ([] ++ (r₂.clearPlayer env 0).2.toList)
    { r₂.modifyPlayer 0 (·.clearPlayer now) with currentPlayerCount := 0, roomState := .empty }
  refine ⟨hreports.kind.trans hkind₂, hreports.capacity.trans hcapacity₂, .inr ⟨hcount, rfl⟩,
    fun hplay => ?_, .inr ?_, ?_, ?_, fun p hp => ?_,
    fun j p hj hp => ?_, fun hq => hreports.quiet (hquiet₂ hq)⟩
  · exact absurd hplay (by simp [beginRoomDelete, storeRoomState])
  · refine hreports.spawnList.trans ?_
    rw [← hr₂]
    rfl
  · exact hreports.count.trans (by rw [hcount]; rfl)
  · refine (congrArg List.length hreports.players).trans ?_
    rw [modifyPlayer, List.length_modify, hplayers₂]
  · refine ⟨now, (congrArg (·[0]?) hreports.players).trans ?_⟩
    simp [hplayers₂, hp]
  · have hlt := (List.getElem?_eq_some_iff.mp hp).1
    omega

theorem SingleRoom.findPlayer_zero {r : TetrisRoom} {key : SessionKey} {i : Nat}
    (hlen : r.roomPlayers.length = 1) (hfind : r.findPlayer key = some i) : i = 0 := by
  obtain ⟨p, hp, _⟩ := findPlayer_slot hfind
  have hlt := (List.getElem?_eq_some_iff.mp hp).1
  omega

theorem SingleRoom.requestLobbyTransition_ok {r : TetrisRoom} {env : RoomEnv} {key : SessionKey}
    (hlen : r.roomPlayers.length = 1)
    (hcount : (r.findPlayer key).isSome = true → r.currentPlayerCount = 1) :
    Handled env r (SingleRoom.requestLobbyTransition r env key) := by
  unfold SingleRoom.requestLobbyTransition
  cases hfind : r.findPlayer key with
  | none => exact .aside (.refl r)
  | some i =>
      obtain rfl := SingleRoom.findPlayer_zero hlen hfind
      obtain ⟨p, hp, hkey⟩ := findPlayer_slot hfind
      dsimp only
      rw [hp]
      dsimp only
      unfold Player.trySetPending
      split
      · have hfind' :
            (r.modifyPlayer 0 fun _ => { p with activeState := .pending }).findPlayer key =
            some 0 := by
          rw [findPlayer_modify, hfind]
          rintro q hq
          rw [hp] at hq
          injection hq with hq
          subst hq
          rename_i hactive
          simp [Player.matchesSessionKey, Player.hasSession, hactive.2]
        refine .removed 0 hp (hasSession_of_matches hkey)
          (.of_pending hp (.aside ?_ (.emit _ (by trivial))))
        exact SingleRoom.completePlayerRemoval_ok ((List.length_modify _ _ _).trans hlen)
          (hcount (by rw [hfind]; rfl)) hfind'
      · exact .aside (.refl r)

theorem SingleRoom.removal_ok {r : TetrisRoom} {env : RoomEnv} {key : SessionKey}
    (hlen : r.roomPlayers.length = 1)
    (hcount : (r.findPlayer key).isSome = true → r.currentPlayerCount = 1) :
    Handled env r (SingleRoom.completePlayerRemoval r env key) := by
  cases hfind : r.findPlayer key with
  | none =>
      unfold SingleRoom.completePlayerRemoval
      rw [hfind]
      exact .aside (.refl r)
  | some i =>
      obtain rfl := SingleRoom.findPlayer_zero hlen hfind
      obtain ⟨p, hp, hkey⟩ := findPlayer_slot hfind
      exact .removed 0 hp (hasSession_of_matches hkey)
        (SingleRoom.completePlayerRemoval_ok hlen (hcount (by rw [hfind]; rfl)) hfind)

theorem SingleRoom.removePlayer_ok {r : TetrisRoom} {env : RoomEnv} {key : SessionKey}
    (hlen : r.roomPlayers.length = 1)
    (hcount : (r.findPlayer key).isSome = true → r.currentPlayerCount = 1) :
    Handled env r (SingleRoom.removePlayer r env key) := by
  unfold SingleRoom.removePlayer
  split
  · split
    · exact SingleRoom.requestLobbyTransition_ok hlen hcount
    · exact SingleRoom.removal_ok hlen hcount
  · exact SingleRoom.removal_ok hlen hcount

end TetrisRoom

end ProjectTetris

import ProjectTetris.Rooms.Veil

/-!
# Every event keeps the veil

One lemma for each function of a room for several players: on two rooms with the same
veil it does the same, and leaves two rooms with the same veil. What a function may
read of a slot that is not in `PLAY` is everything but the game.
-/

namespace ProjectTetris

open Checked

namespace Player

variable {p q : Player}

theorem veil_clearPlayer (now now' : Int) (h : p.veil = q.veil) (hnow : now = now') :
    (p.clearPlayer now).veil = (q.clearPlayer now').veil := by
  subst hnow
  exact veil_congr (f := fun p => p.clearPlayer now) (fun _ _ _ => rfl) h

theorem veil_initPlayer (v : SessionView) (key : SessionKey) (roomIndex now : Int)
    (h : p.veil = q.veil) :
    (p.initPlayer v key roomIndex now).1.veil = (q.initPlayer v key roomIndex now).1.veil ∧
      (p.initPlayer v key roomIndex now).2 = (q.initPlayer v key roomIndex now).2 := by
  rcases veil_cases h with rfl | ⟨hp, hq⟩
  · exact ⟨rfl, rfl⟩
  rw [hq]
  unfold initPlayer
  dsimp only
  split
  · exact ⟨(veil_tetris _ hp).symm, rfl⟩
  split
  · exact ⟨(veil_tetris _ hp).symm, rfl⟩
  split
  · split <;> exact ⟨rfl, rfl⟩
  · split <;> exact ⟨rfl, rfl⟩

end Player

namespace TetrisRoom

namespace Alike

variable {keep : PlayerInputTask → Bool} {r r' : TetrisRoom} {env : RoomEnv}

theorem foldl_emit {α : Type} (h : Alike keep r r') (l : List α) (e : α → RoomEffect) :
    Alike keep (l.foldl (fun r a => r.emit (e a)) r) (l.foldl (fun r a => r.emit (e a)) r') := by
  induction l generalizing r r' with
  | nil => exact h
  | cons a l ih => exact ih (h.emit (e a))

theorem foldl_broadcast (h : Alike keep r r') (packets : List S2CPacket) :
    Alike keep (packets.foldl (fun r packet => r.broadcast env packet) r)
      (packets.foldl (fun r packet => r.broadcast env packet) r') := by
  induction packets generalizing r r' with
  | nil => exact h
  | cons packet packets ih => exact ih (h.broadcast env packet)

theorem activatePlayer (h : Alike keep r r') (key : SessionKey) :
    Alike keep (r.activatePlayer key) (r'.activatePlayer key) := by
  unfold TetrisRoom.activatePlayer
  rw [← h.findPlayer key]
  cases r.findPlayer key with
  | none => exact h
  | some i =>
      refine h.modify i fun p q hpq => ?_
      refine Player.veil_congr (f := fun p => (p.activate key).1) (fun p t hp => ?_) hpq
      have hmatches : ({ p with tetris := t } : Player).matchesSessionKey key =
          p.matchesSessionKey key := rfl
      unfold Player.activate
      rw [hmatches]
      split
      · exact Player.veil_tetris (p := { p with activeState := .active }) t hp
      · exact Player.veil_tetris t hp

theorem clearPlayer (h : Alike keep r r') (env : RoomEnv) (i : Nat) :
    Alike keep (r.clearPlayer env i).1 (r'.clearPlayer env i).1 ∧
    (r.clearPlayer env i).2 = (r'.clearPlayer env i).2 := by
  unfold TetrisRoom.clearPlayer
  rcases h.slot i with ⟨hp, hq⟩ | ⟨p, q, hp, hq, hpq⟩
  · rw [hp, hq]
    exact ⟨h, rfl⟩
  · have hkey : p.sessionKey = q.sessionKey := Player.read_veil (fun _ _ => rfl) hpq
    have hcleared : Alike keep (r.modifyPlayer i (·.clearPlayer (env.now p.sessionKey)))
        (r'.modifyPlayer i (·.clearPlayer (env.now q.sessionKey))) :=
      h.modify i fun _ _ hveil => Player.veil_clearPlayer _ _ hveil (by rw [hkey])
    rw [hp, hq]
    dsimp only
    rw [← hkey] at hcleared ⊢
    cases env.findSession p.sessionKey with
    | none => exact ⟨hcleared, rfl⟩
    | some v =>
        dsimp only
        split
        · exact ⟨hcleared, rfl⟩
        · exact ⟨hcleared, rfl⟩

/-- A lookup by the session a slot has. -/
theorem findIdx (h : Alike keep r r') (env : RoomEnv) (f : Option SessionView → Bool) :
    (r.roomPlayers.findIdx? fun p => f (findSession env p)) =
      r'.roomPlayers.findIdx? fun p => f (findSession env p) :=
  find_veil h.players fun p => by rw [findSession_veil]

theorem otherSessions (h : Alike keep r r') (added : Nat) :
    MultiRoom.otherSessions r env added = MultiRoom.otherSessions r' env added := by
  refine h.read (fun r => MultiRoom.otherSessions r env added) fun r => ?_
  simp only [MultiRoom.otherSessions, veil, List.zipIdx_map, List.filter_map, List.filterMap_map]
  congr 1
  funext slot
  simp [Prod.map, findSession_veil]

theorem createRoomPacket (h : Alike keep r r') : r.createRoomPacket = r'.createRoomPacket :=
  h.read (·.createRoomPacket) fun _ => rfl

theorem announceJoin (h : Alike keep r r') (added : Nat) (v : SessionView) (key : SessionKey) :
    Alike keep (MultiRoom.announceJoin r env added v key)
      (MultiRoom.announceJoin r' env added v key) := by
  have hhost : ∀ (l : List (SessionKey × SessionView)) (e : SessionKey × SessionView → RoomEffect)
      (r : TetrisRoom), (l.foldl (fun r a => r.emit (e a)) r).hostId = r.hostId := by
    intro l e
    induction l with
    | nil => exact fun _ => rfl
    | cons a l ih => exact fun r => ih (r.emit (e a))
  unfold MultiRoom.announceJoin
  dsimp only
  rw [h.otherSessions added, h.createRoomPacket, hhost, hhost, hhost, hhost]
  rw [show (r.emit (RoomEffect.send key [r'.createRoomPacket])).hostId
      = (r'.emit (RoomEffect.send key [r'.createRoomPacket])).hostId
      from h.read (·.hostId) fun _ => rfl]
  exact (((h.emit _).foldl_emit _ _).foldl_emit _ _).emit _

theorem addPlayer (h : Alike keep r r') (env : RoomEnv) (v : SessionView) (key : SessionKey)
    (roomPassword : String) :
    Alike keep (MultiRoom.addPlayer r env v key roomPassword).1
      (MultiRoom.addPlayer r' env v key roomPassword).1 ∧
      (MultiRoom.addPlayer r env v key roomPassword).2 =
        (MultiRoom.addPlayer r' env v key roomPassword).2 := by
  have hfree : (r.roomPlayers.findIdx? fun p => !p.hasSession) =
      r'.roomPlayers.findIdx? fun p => !p.hasSession :=
    find_veil h.players fun p => by simp [Player.hasSession]
  have hfind := h.findPlayer key
  have hslot := h.slot
  obtain ⟨tasks, ps, htasks, rfl⟩ := h.exists_eq
  unfold MultiRoom.addPlayer
  rw [← hfind, ← hfree]
  dsimp only
  split
  · exact ⟨h, rfl⟩
  split
  · exact ⟨h, rfl⟩
  split
  · exact ⟨h, rfl⟩
  split
  · exact ⟨h, rfl⟩
  split
  · exact ⟨h, rfl⟩
  cases r.roomPlayers.findIdx? fun p => !p.hasSession with
  | none => exact ⟨h, rfl⟩
  | some i =>
      dsimp only
      rcases hslot i with ⟨hp, hq⟩ | ⟨p, q, hp, hq, hpq⟩
      · dsimp only at hq
        rw [hp, hq]
        exact ⟨h, rfl⟩
      · dsimp only at hq
        obtain ⟨hinit, hok⟩ := Player.veil_initPlayer v key r.roomIndex (env.now key) hpq
        have hseated := h.modify i (f := fun _ => (p.initPlayer v key r.roomIndex (env.now key)).1)
          (g := fun _ => (q.initPlayer v key r.roomIndex (env.now key)).1) fun _ _ _ => hinit
        rw [hp, hq]
        dsimp only
        rw [← hok]
        cases (p.initPlayer v key r.roomIndex (env.now key)).2 with
        | false => exact ⟨hseated, rfl⟩
        | true =>
            refine ⟨announceJoin ?_ i v key, rfl⟩
            let seat (x : TetrisRoom) : TetrisRoom :=
              { x with currentPlayerCount := r.currentPlayerCount + 1 }
            exact hseated.update (u := seat) fun _ => rfl

theorem findNewHost (h : Alike keep r r') :
    Alike keep (MultiRoom.findNewHost r env) (MultiRoom.findNewHost r' env) := by
  have hhost := h.findIdx env (·.isSome)
  have hslot := h.slot
  obtain ⟨tasks, ps, htasks, rfl⟩ := h.exists_eq
  unfold MultiRoom.findNewHost
  dsimp only at hhost hslot ⊢
  rw [← hhost]
  cases (if r.currentPlayerCount ≠ 0 then r.roomPlayers.findIdx? fun p =>
    (findSession env p).isSome else none) with
  | none =>
      dsimp only
      split
      · exact h.update (u := fun r => r.beginRoomDelete) fun _ => rfl
      · exact h.update (u := fun r => { r with hostId := -1 }) fun _ => rfl
  | some i =>
      have hid : ((r.roomPlayers[i]?).bind (findSession env)).elim r.hostId (·.playerId)
          = ((ps[i]?).bind (findSession env)).elim r.hostId (·.playerId) := by
        rcases hslot i with ⟨hp, hq⟩ | ⟨p, q, hp, hq, hpq⟩
        · rw [hp, hq]
        · rw [hp, hq, Option.bind_some, Option.bind_some,
            Player.read_veil (f := fun p => findSession env p) (fun _ _ => rfl) hpq]
      dsimp only
      rw [← hid]
      have hset := h.update (u := fun x => { x with
        hostId := ((r.roomPlayers[i]?).bind (findSession env)).elim r.hostId (·.playerId) })
          fun _ => rfl
      split
      · refine (hset.modify i fun p q hpq => ?_).broadcast env _
        exact Player.veil_congr (f := fun p => { p with roomPlayerState := .wait })
          (fun _ _ _ => rfl) hpq
      · exact hset.broadcast env _

theorem completePlayerRemoval (h : Alike keep r r') (key : SessionKey) (exitType : RoomExitType) :
    Alike keep (MultiRoom.completePlayerRemoval r env key exitType)
      (MultiRoom.completePlayerRemoval r' env key exitType) := by
  unfold MultiRoom.completePlayerRemoval
  rw [← h.findPlayer key]
  cases r.findPlayer key with
  | none => exact h
  | some i =>
      have hid : ((r.roomPlayers[i]?).map (·.sessionKey.playerId)).getD (-1)
          = ((r'.roomPlayers[i]?).map (·.sessionKey.playerId)).getD (-1) := by
        rcases h.slot i with ⟨hp, hq⟩ | ⟨p, q, hp, hq, hpq⟩
        · rw [hp, hq]
        · rw [hp, hq, Option.map_some, Option.map_some,
            Player.read_veil (f := fun p => p.sessionKey.playerId) (fun _ _ => rfl) hpq]
      dsimp only
      rw [← hid, ← h.read (·.currentPlayerCount) fun _ => rfl]
      generalize ((r.roomPlayers[i]?).map (·.sessionKey.playerId)).getD (-1) = playerId
      -- the room that is left by its last player is to be deleted
      have hdelete : Alike keep (if r.currentPlayerCount = 1 then r.beginRoomDelete else r)
          (if r.currentPlayerCount = 1 then r'.beginRoomDelete else r') := by
        split
        · exact h.update (u := fun r => r.beginRoomDelete) fun _ => rfl
        · exact h
      have htold : ∀ {a b : TetrisRoom}, Alike keep a b →
          Alike keep (if exitType = .kick ∧
            (env.findSession key).isSome then a.emit (.send key [.info kicked]) else a)
            (if exitType = .kick ∧ (env.findSession key).isSome then
              b.emit (.send key [.info kicked]) else b) := by
        intro a b hab
        split
        · exact hab.emit _
        · exact hab
      obtain ⟨hcleared, hkeys⟩ :=
        (htold (hdelete.broadcast env (.removePlayer playerId))).clearPlayer env i
      rw [← hkeys]
      have hleft :=
        hcleared.update (u := fun x => { x with currentPlayerCount := x.currentPlayerCount - 1 })
          fun _ => rfl
      have hhosted : ∀ {a b : TetrisRoom}, Alike keep a b →
          Alike keep (if playerId = a.hostId then MultiRoom.findNewHost a env else a)
            (if playerId = b.hostId then MultiRoom.findNewHost b env else b) := by
        intro a b hab
        rw [← hab.read (·.hostId) fun _ => rfl]
        split
        · exact hab.findNewHost
        · exact hab
      have hdone := hhosted hleft
      cases (TetrisRoom.clearPlayer _ env i).2 with
      | none => exact hdone
      | some _ => exact hdone.emit _

theorem requestLobbyTransition (h : Alike keep r r') (key : SessionKey) (exitType : RoomExitType) :
    Alike keep (MultiRoom.requestLobbyTransition r env key exitType)
      (MultiRoom.requestLobbyTransition r' env key exitType) := by
  have hindex : r.roomIndex = r'.roomIndex := h.read (·.roomIndex) fun _ => rfl
  unfold MultiRoom.requestLobbyTransition
  rw [← h.findPlayer key, hindex]
  cases r.findPlayer key with
  | none => exact h
  | some i =>
      dsimp only
      rcases h.slot i with ⟨hp, hq⟩ | ⟨p, q, hp, hq, hpq⟩
      · rw [hp, hq]
        exact h
      · rw [hp, hq]
        dsimp only
        have hpending : (p.trySetPending key).1.veil = (q.trySetPending key).1.veil := by
          refine Player.veil_congr (f := fun p => (p.trySetPending key).1) (fun p t hp => ?_) hpq
          have hmatches : ({ p with tetris := t } : Player).matchesSessionKey key =
              p.matchesSessionKey key := rfl
          unfold Player.trySetPending
          rw [hmatches]
          split
          · exact Player.veil_tetris (p := { p with activeState := .pending }) t hp
          · exact Player.veil_tetris t hp
        have hok : (p.trySetPending key).2 = (q.trySetPending key).2 := by
          refine Player.read_veil (f := fun p => (p.trySetPending key).2) (fun p t => ?_) hpq
          unfold Player.trySetPending
          split
          · rename_i hc
            rw [if_pos (show p.matchesSessionKey key = true ∧ p.activeState = .active from hc)]
          · rename_i hc
            rw [if_neg (show ¬ (p.matchesSessionKey key = true ∧ p.activeState = .active) from hc)]
        rw [← hok]
        split
        · exact ((h.modify i fun _ _ _ => hpending).completePlayerRemoval key exitType).emit _
        · exact h

theorem removePlayer (h : Alike keep r r') (key : SessionKey) :
    Alike keep (MultiRoom.removePlayer r env key) (MultiRoom.removePlayer r' env key) := by
  unfold MultiRoom.removePlayer
  cases env.findSession key with
  | none => exact h.completePlayerRemoval key .leave
  | some v =>
      dsimp only
      split
      · exact h.requestLobbyTransition key .leave
      · exact h.completePlayerRemoval key .leave

theorem togglePlayerReady (h : Alike keep r r') (playerId : Int) :
    Alike keep (MultiRoom.togglePlayerReady r env playerId)
      (MultiRoom.togglePlayerReady r' env playerId) := by
  have hfind : MultiRoom.findHostIndex r env playerId = MultiRoom.findHostIndex r' env playerId :=
    find_veil h.players fun p => by rw [findSession_veil]
  have hhost : r.hostId = r'.hostId := h.read (·.hostId) fun _ => rfl
  unfold MultiRoom.togglePlayerReady
  rw [← hfind, ← hhost]
  split
  · exact h
  cases MultiRoom.findHostIndex r env playerId with
  | none => exact h
  | some i =>
      have hready :
          ((r.roomPlayers[i]?).map fun p => (MultiRoom.toggled p.roomPlayerState).2).getD false
          = ((r'.roomPlayers[i]?).map fun p => (MultiRoom.toggled p.roomPlayerState).2).getD
          false := by
        rcases h.slot i with ⟨hp, hq⟩ | ⟨p, q, hp, hq, hpq⟩
        · rw [hp, hq]
        · rw [hp, hq, Option.map_some, Option.map_some,
            Player.read_veil (f := fun p => (MultiRoom.toggled p.roomPlayerState).2)
            (fun _ _ => rfl) hpq]
      dsimp only
      rw [← hready]
      refine (h.modify i fun p q hpq => ?_).broadcast env _
      refine Player.veil_congr
        (f := fun p => { p with roomPlayerState := (MultiRoom.toggled p.roomPlayerState).1 })
        (fun p t hp => ?_) hpq
      refine Player.veil_tetris
        (p := { p with roomPlayerState := (MultiRoom.toggled p.roomPlayerState).1 }) t ?_
      revert hp
      cases p.roomPlayerState <;> simp [MultiRoom.toggled]

theorem kickPlayer (h : Alike keep r r') (requesterId kickPlayerId : Int) :
    Alike keep (MultiRoom.kickPlayer r env requesterId kickPlayerId).1
      (MultiRoom.kickPlayer r' env requesterId kickPlayerId).1 := by
  have hhost : r.hostId = r'.hostId := h.read (·.hostId) fun _ => rfl
  have hindex : r.roomIndex = r'.roomIndex := h.read (·.roomIndex) fun _ => rfl
  -- the player to be kicked, as far as the rest reads him
  have hseat : (r.roomPlayers.find? fun p => p.sessionKey.playerId = kickPlayerId ∧
      (findSession env p).isSome).map
        Player.seat
      = (r'.roomPlayers.find? fun p => p.sessionKey.playerId = kickPlayerId ∧
        (findSession env p).isSome).map Player.seat := by
    refine h.read (fun r => (r.roomPlayers.find? fun p =>
      p.sessionKey.playerId = kickPlayerId ∧
        (findSession env p).isSome).map Player.seat) fun r => ?_
    simp only [veil, List.find?_map, Option.map_map]
    congr 1
    · funext p
      simp [Player.seat]
    · congr 1
      funext p
      simp [findSession_veil]
  unfold MultiRoom.kickPlayer
  rw [← hhost]
  split
  · exact h
  split
  · exact h
  revert hseat
  cases r.roomPlayers.find? fun p => p.sessionKey.playerId = kickPlayerId ∧
    (findSession env p).isSome with
  | none =>
      cases r'.roomPlayers.find? fun p => p.sessionKey.playerId = kickPlayerId ∧
        (findSession env p).isSome with
      | none => exact fun _ => h
      | some q => exact fun hc => absurd hc (by simp)
  | some p =>
      cases r'.roomPlayers.find? fun p => p.sessionKey.playerId = kickPlayerId ∧
        (findSession env p).isSome with
      | none => exact fun hc => absurd hc (by simp)
      | some q =>
          intro hseat
          have hpq : p.seat = q.seat := Option.some.inj hseat
          have hkey : p.sessionKey = q.sessionKey := congrArg Prod.fst hpq
          dsimp only
          rw [← findSession_of_seat env hpq, ← hkey]
          cases findSession env p with
          | none => exact h
          | some v =>
              dsimp only
              split
              · exact h
              rw [show r.isPlayerInRoom v = r'.isPlayerInRoom v
                from by simp only [isPlayerInRoom, hindex]]
              split
              · exact h
              · exact h.requestLobbyTransition p.sessionKey .kick

/-! ## Starting -/

theorem startResult (h : Alike keep r r') (env : RoomEnv) :
    MultiRoom.startResult r env = MultiRoom.startResult r' env := by
  refine h.read (fun r => MultiRoom.startResult r env) fun r => ?_
  have hcount : MultiRoom.readyPlayerCount r env =
      MultiRoom.readyPlayerCount (r.veil keep) env := by
    simp only [MultiRoom.readyPlayerCount, veil, List.filter_map, List.length_map]
    congr 1
    congr 1
    funext p
    simp only [Function.comp_apply, findSession_veil, Player.veil_roomPlayerState]
    rfl
  simp only [MultiRoom.startResult, hcount]
  rfl

theorem broadcastSpawns (h : Alike keep r r') {a b : TetrisRoom}
    (ha : MultiRoom.broadcastSpawns r env = some a)
    (hb : MultiRoom.broadcastSpawns r' env = some b) : Alike keep a b := by
  have hpackets : r.roomPlayers.mapM (MultiRoom.startSpawnPacket env r.tetrominoSpawnList)
      = r'.roomPlayers.mapM (MultiRoom.startSpawnPacket env r'.tetrominoSpawnList) := by
    refine h.read (fun r =>
      r.roomPlayers.mapM (MultiRoom.startSpawnPacket env r.tetrominoSpawnList)) fun r => ?_
    simp only [veil, List.mapM_map]
    congr 1
    funext p
    exact (Player.read_veil (f := MultiRoom.startSpawnPacket env r.tetrominoSpawnList)
      (fun _ _ => rfl) (Player.veil_veil p)).symm
  simp only [MultiRoom.broadcastSpawns, Option.bind_eq_bind, ← hpackets] at ha hb
  cases hspawns : r.roomPlayers.mapM (MultiRoom.startSpawnPacket env r.tetrominoSpawnList) with
  | none =>
      rw [hspawns] at ha
      cases ha
  | some packets =>
      rw [hspawns, Option.bind_some, Option.some.injEq] at ha hb
      rw [← ha, ← hb]
      exact h.foldl_broadcast _

/-- A slot that nobody plays on and its game of no tick, and what `StartGame` makes of it. -/
theorem started_veil {p q : Player} (hpq : p.veil = q.veil) (hp : p.tetris.Fresh)
    (hq : q.tetris.Fresh) (type : TetrominoType) (now : Int) :
    startedSlot p type now = startedSlot q type now := by
  rcases Player.veil_cases hpq with rfl | ⟨_, heq⟩
  · rfl
  · rw [heq]
    simp only [startedSlot, Tetris.initNewTetromino, Tetris.clear, hp.inputs, hp.tasks,
      hp.garbage, hp.cleared, hq.inputs, hq.tasks, hq.garbage, hq.cleared]

/-- **A game starts with the same pieces on the same boards**, whatever was left of the last one.
-/
theorem startGame (h : Alike keep r r') (hok : RoomOk r) (hok' : RoomOk r')
    (hs : Seated env r.roomPlayers) (hs' : Seated env r'.roomPlayers) (requesterId : Int)
    {a b : TetrisRoom} (ha : MultiRoom.startGame r env requesterId = some a)
    (hb : MultiRoom.startGame r' env requesterId = some b) :
    Alike keep a b := by
  have hresult := h.startResult env
  have hhost : MultiRoom.findHostIndex r env r.hostId = MultiRoom.findHostIndex r' env r.hostId :=
    find_veil h.players fun p => by rw [findSession_veil]
  have hslot := h.slot
  have hveil := h.players
  obtain ⟨tasks, ps, htasks, rfl⟩ := h.exists_eq
  unfold MultiRoom.startGame at ha hb
  rw [← hresult] at hb
  dsimp only at ha hb hslot hhost
  obtain ⟨hc₁, ha, hb⟩ | ⟨hc₁, ha, hb⟩ := both_ite ha hb
  · cases ha
    cases hb
    exact h
  obtain ⟨hc₂, ha, hb⟩ | ⟨hc₂, ha, hb⟩ := both_ite ha hb
  · cases ha
    cases hb
    exact h
  obtain ⟨hc₃, ha, hb⟩ | ⟨hc₃, ha, hb⟩ := both_ite ha hb
  · -- the host is told why not
    rw [← hhost] at hb
    cases hi : MultiRoom.findHostIndex r env r.hostId with
    | none =>
        rw [hi] at ha hb
        cases ha
        cases hb
        exact h
    | some i =>
        rw [hi] at ha hb
        dsimp only at ha hb
        rcases hslot i with ⟨hp, hq⟩ | ⟨p, q, hp, hq, hpq⟩
        · rw [hp] at ha
          rw [hq] at hb
          cases ha
          cases hb
          exact h
        · rw [hp] at ha
          rw [hq] at hb
          have hkey : p.sessionKey = q.sessionKey := Player.read_veil (fun _ _ => rfl) hpq
          cases ha
          cases hb
          rw [hkey]
          exact h.emit _
  obtain ⟨hc₄, ha, hb⟩ | ⟨hc₄, ha, hb⟩ := both_ite ha hb
  · cases ha
    cases hb
    exact h
  have hwait : r.roomState = .wait := Decidable.not_not.mp hc₄
  -- a waiting room has nobody in the middle of the list of pieces
  have hindex : ∀ {r : TetrisRoom}, RoomOk r → r.roomState = .wait →
      ∀ p ∈ r.roomPlayers, p.isActive = true →
      p.tetrominoIndex = 0 := fun hok hwait p hp _ =>
    ((hok.slots p hp).idle fun hc => absurd (hwait.symm.trans hc.1) (by decide)).2
  obtain ⟨type, next, htype, hnext⟩ :=
    exists_first_two (env.bag r.tetrominoSpawnList.length) r.tetrominoSpawnList
  have henter := enterGame_all hs htype (hindex hok hwait)
  have henter' := enterGame_all hs' htype (hindex hok' hwait)
  have htargets := h.targets env
  dsimp only [TetrisRoom.broadcast, TetrisRoom.sendAll, appendTetromino7Bag, TetrisRoom.targets]
    at ha hb henter henter' htargets
  rw [henter, Option.bind_eq_bind, Option.bind_some] at ha
  rw [henter', Option.bind_eq_bind, Option.bind_some, ← htargets] at hb
  -- both draw the same bag, and enter everybody with its first piece
  refine broadcastSpawns ?_ ha hb
  dsimp only [initGame, TetrisRoom.forSessions]
  refine intro htasks ?_
  dsimp only
  suffices hslots : ∀ p ∈ r.roomPlayers, ∀ q ∈ ps, p.veil = q.veil → _ from by
    simpa only [List.map_map, Function.comp_assoc] using map_veil hveil hslots
  intro p hp q hq hpq
  have hactive : p.isActive = q.isActive := Player.read_veil (fun _ _ => rfl) hpq
  have hsession : ∀ {x : Player}, x.isActive = false → (findSession env x).isSome = false := by
    intro x hx
    simp [findSession, hx]
  have hentered : ∀ x : Player, (findSession env (enteredSlot x type)).isSome =
      (findSession env x).isSome := fun _ => rfl
  rw [Function.comp_apply, Function.comp_apply, ← hactive]
  cases hact : p.isActive with
  | false =>
      rw [if_neg Bool.false_ne_true, if_neg Bool.false_ne_true, hsession hact,
        hsession (hactive ▸ hact)]
      exact hpq
  | true =>
      have hkey : p.sessionKey = q.sessionKey := Player.read_veil (fun _ _ => rfl) hpq
      rw [if_pos rfl, if_pos rfl, hentered, hentered, hs.isSome hp, hs'.isSome hq, ← hactive,
        hact, if_pos rfl, if_pos rfl]
      -- what the veil hides is reset by the start
      have hslots : startedSlot p type (env.now p.sessionKey) =
          startedSlot q type (env.now q.sessionKey) := by
        rw [← hkey]
        exact started_veil hpq (hok.slots p hp).fresh (hok'.slots q hq).fresh type _
      exact congrArg Player.veil hslots

/-! ## Tasks -/

theorem processSpecificRoomTask (h : Alike keep r r') (hok : RoomOk r) (hok' : RoomOk r')
    (hs : Seated env r.roomPlayers) (hs' : Seated env r'.roomPlayers) (v : SessionView)
    (task : RoomTask) {a b : TetrisRoom × Bool}
    (ha : MultiRoom.processSpecificRoomTask r env v task = some a)
    (hb : MultiRoom.processSpecificRoomTask r' env v task = some b) : Alike keep a.1 b.1 := by
  have hindex : r.roomIndex = r'.roomIndex := h.read (·.roomIndex) fun _ => rfl
  have hin : r.isPlayerInRoom v = r'.isPlayerInRoom v := by simp only [isPlayerInRoom, hindex]
  unfold MultiRoom.processSpecificRoomTask at ha hb
  rw [← hin] at hb
  cases htype : task.taskType with
  | ready =>
      rw [htype] at ha hb
      cases ha
      cases hb
      dsimp only
      split
      · exact h.togglePlayerReady v.playerId
      · exact h
  | kick =>
      rw [htype] at ha hb
      cases ha
      cases hb
      split
      · exact h.kickPlayer v.playerId task.targetPlayerId
      · exact h
  | start =>
      rw [htype] at ha hb
      dsimp only at ha hb
      obtain ⟨hc, ha, hb⟩ | ⟨hc, ha, hb⟩ := both_ite ha hb
      · obtain ⟨a', ha', ha⟩ := Option.bind_eq_some_iff.mp ha
        obtain ⟨b', hb', hb⟩ := Option.bind_eq_some_iff.mp hb
        cases ha
        cases hb
        exact h.startGame hok hok' hs hs' v.playerId ha' hb'
      · cases ha
        cases hb
        exact h
  | join | removePlayer | giveUp =>
      rw [htype] at ha hb
      cases ha
      cases hb
      exact h

theorem tryProcessJoinTask (h : Alike keep r r') (hkind : r.kind ≠ .single) (task : RoomTask) :
    Alike keep (r.tryProcessJoinTask env task).1 (r'.tryProcessJoinTask env task).1 := by
  have hkind' : r'.kind ≠ .single := h.read (·.kind) (fun _ => rfl) ▸ hkind
  have hadd : ∀ {r : TetrisRoom}, r.kind ≠ .single →
      ∀ v, r.addPlayer env v task.sessionKey task.roomPassword
      = MultiRoom.addPlayer r env v task.sessionKey task.roomPassword := by
    intro r hkind v
    unfold TetrisRoom.addPlayer
    cases hk : r.kind with
    | single => exact absurd hk hkind
    | two | five => rfl
  unfold TetrisRoom.tryProcessJoinTask
  cases env.findSession task.sessionKey with
  | none => exact h.emit _
  | some v =>
      dsimp only
      split
      · exact h
      rw [hadd hkind, hadd hkind']
      obtain ⟨hroom, hresult⟩ := h.addPlayer env v task.sessionKey task.roomPassword
      split
      · rw [hresult]
        dsimp only
        split
        · exact (hroom.activatePlayer task.sessionKey).emit _
        · exact hroom.emit _
      · exact h.emit _

theorem removePlayer_multi (h : Alike keep r r') (hkind : r.kind ≠ .single) (key : SessionKey) :
    Alike keep (r.removePlayer env key) (r'.removePlayer env key) := by
  have hsame : r.kind = r'.kind := h.read (·.kind) fun _ => rfl
  unfold TetrisRoom.removePlayer
  rw [← hsame]
  cases hk : r.kind with
  | single => exact absurd hk hkind
  | two | five => exact h.removePlayer key

theorem requestLobbyTransition_multi (h : Alike keep r r') (hkind : r.kind ≠ .single)
    (key : SessionKey) :
    Alike keep (r.requestLobbyTransition env key) (r'.requestLobbyTransition env key) := by
  have hsame : r.kind = r'.kind := h.read (·.kind) fun _ => rfl
  unfold TetrisRoom.requestLobbyTransition
  rw [← hsame]
  cases hk : r.kind with
  | single => exact absurd hk hkind
  | two | five => exact h.requestLobbyTransition key .leave

theorem processSpecificRoomTask_multi (hkind : r.kind ≠ .single) (v : SessionView)
    (task : RoomTask) :
    r.processSpecificRoomTask env v task = MultiRoom.processSpecificRoomTask r env v task := by
  unfold TetrisRoom.processSpecificRoomTask
  cases hk : r.kind with
  | single => exact absurd hk hkind
  | two | five => rfl

theorem tryProcessRoomTask (h : Alike keep r r') (hkind : r.kind ≠ .single) (hok : RoomOk r)
    (hok' : RoomOk r') (hs : Seated env r.roomPlayers) (hs' : Seated env r'.roomPlayers)
    (task : RoomTask) {a b : TetrisRoom × Bool} (ha : r.tryProcessRoomTask env task = some a)
    (hb : r'.tryProcessRoomTask env task = some b) :
    Alike keep a.1 b.1 := by
  have hkind' : r'.kind ≠ .single := h.read (·.kind) (fun _ => rfl) ▸ hkind
  have hindex : r.roomIndex = r'.roomIndex := h.read (·.roomIndex) fun _ => rfl
  unfold TetrisRoom.tryProcessRoomTask at ha hb
  by_cases hjoin : task.taskType = .join
  · rw [if_pos hjoin] at ha hb
    cases ha
    cases hb
    exact h.tryProcessJoinTask hkind task
  rw [if_neg hjoin] at ha hb
  cases hfound : env.findSession task.sessionKey with
  | none =>
      rw [hfound] at ha hb
      cases ha
      cases hb
      dsimp only
      split
      · exact h.removePlayer_multi hkind task.sessionKey
      · exact h
  | some v =>
      rw [hfound] at ha hb
      dsimp only at ha hb
      obtain ⟨hc₁, ha, hb⟩ | ⟨hc₁, ha, hb⟩ := both_ite ha hb
      · cases ha
        cases hb
        exact h
      obtain ⟨hc₂, ha, hb⟩ | ⟨hc₂, ha, hb⟩ := both_ite ha hb
      · cases ha
        cases hb
        exact h.removePlayer_multi hkind task.sessionKey
      rw [← h.findPlayer task.sessionKey, ← hindex] at hb
      cases hfind : r.findPlayer task.sessionKey with
      | none =>
          rw [hfind] at ha hb
          cases ha
          cases hb
          exact h
      | some i =>
          rw [hfind, Option.bind_some] at ha hb
          rcases h.slot i with ⟨hp, hq⟩ | ⟨p, q, hp, hq, hpq⟩
          · rw [hp] at ha
            rw [hq] at hb
            cases ha
            cases hb
            exact h
          · rw [hp] at ha
            rw [hq] at hb
            have hactive : p.isActive = q.isActive := Player.read_veil (fun _ _ => rfl) hpq
            dsimp only at ha hb
            rw [← hactive] at hb
            obtain ⟨hc₃, ha, hb⟩ | ⟨hc₃, ha, hb⟩ := both_ite ha hb
            · cases ha
              cases hb
              exact h
            obtain ⟨hc₄, ha, hb⟩ | ⟨hc₄, ha, hb⟩ := both_ite ha hb
            · cases ha
              cases hb
              exact h
            rw [processSpecificRoomTask_multi hkind'] at hb
            rw [processSpecificRoomTask_multi hkind] at ha
            exact h.processSpecificRoomTask hok hok' hs hs' v task ha hb

end Alike

end TetrisRoom

end ProjectTetris

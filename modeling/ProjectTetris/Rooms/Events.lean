import Mathlib.Data.List.ReduceOption
import ProjectTetris.Rooms.RoomStep

/-!
# Events outside ticks

Every task and packet a room can be given, shown to be one of the cases of
`Handled`. `RoomOk` is the invariant that makes it so: between two events nobody is
half way in or out, and the counter counts the players.
-/

namespace ProjectTetris

open Checked Slots

/-- A slot nobody is half way into is taken exactly if it is active. -/
theorem SlotOk.hasSession {gameOn : Prop} {n : Nat} {p : Player} (h : SlotOk gameOn n p) :
    p.hasSession = p.isActive := by
  have hsettled := h.settled
  unfold Player.hasSession Player.isActive
  cases hstate : p.activeState with
  | empty => rfl
  | active => rfl
  | pending => exact absurd hstate hsettled

namespace TetrisRoom

/-- **The invariant of a room**, between two events. -/
structure RoomOk (r : TetrisRoom) : Prop where
  length : r.roomPlayers.length = r.kind.slotCount
  slots : ∀ p ∈ r.roomPlayers, SlotOk (r.roomState = .play) r.tetrominoSpawnList.length p
  distinct : ∀ (i j : Nat) (p q : Player), r.roomPlayers[i]? = some p →
    r.roomPlayers[j]? = some q →
    p.isActive = true → q.isActive = true → p.sessionKey.playerId = q.sessionKey.playerId → i = j
  count : r.currentPlayerCount = (r.roomPlayers.countP (·.isActive) : Nat)

theorem RoomOk.seated {r : TetrisRoom} {env : RoomEnv} {e : RoomEvent} (h : RoomOk r)
    (hserves : env.Serves r e) :
    Seated env r.roomPlayers :=
  ⟨fun p hp ha => hserves.found p hp (by rw [(h.slots p hp).hasSession, ha]), h.distinct⟩

/-- Somebody in a room for one player is the one player of it. -/
theorem RoomOk.single {r : TetrisRoom} {key : SessionKey} (h : RoomOk r) (hkind : r.kind = .single)
    (hfind : (r.findPlayer key).isSome = true) : r.currentPlayerCount = 1 := by
  have hlen := h.length
  rw [hkind, show RoomKind.single.slotCount = 1 from rfl] at hlen
  obtain ⟨p, hps⟩ := List.length_eq_one_iff.mp hlen
  obtain ⟨i, hi⟩ := Option.isSome_iff_exists.mp hfind
  obtain ⟨q, hq, hkey⟩ := findPlayer_slot hi
  have hmem := List.mem_of_getElem? hq
  have hactive : q.isActive = true := by
    rw [← (h.slots q hmem).hasSession]
    exact hasSession_of_matches hkey
  rw [hps, List.mem_singleton] at hmem
  subst hmem
  rw [h.count, hps, List.countP_singleton, if_pos hactive]
  rfl

/-! ## Starting a game -/

/-- The targets of a broadcast depend on the seats only. -/
theorem targets_congr {r r' : TetrisRoom} (env : RoomEnv)
    (h : r'.roomPlayers.map Player.seat = r.roomPlayers.map Player.seat) :
    r'.targets env = r.targets env := by
  have hfind : ∀ p : Player, findSession env p =
      if p.seat.2 = .active then env.findSession p.seat.1 else none := by
    intro p
    by_cases ha : p.activeState = .active <;> simp [findSession, Player.isActive, Player.seat, ha]
  have hseat : ∀ r : TetrisRoom, r.targets env = ((r.roomPlayers.map Player.seat).filter fun s =>
      (if s.2 = .active then env.findSession s.1 else none).isSome).map Prod.fst := by
    intro r
    rw [List.filter_map, List.map_map, targets, funext fun p => congrArg Option.isSome (hfind p)]
    rfl
  rw [hseat, hseat, h]

/-- Several broadcasts reach everybody, in order. -/
theorem broadcasts_ok {env : RoomEnv} : ∀ (packets : List S2CPacket) (r : TetrisRoom),
    (r.targets env).Nodup → ∃ out,
      packets.foldl (fun r packet => r.broadcast env packet) r = { r with out := r.out ++ out } ∧
      ∀ key, received key out = if key ∈ r.targets env then packets else []
  | [], r, _ => ⟨[], by simp, fun key => by simp⟩
  | packet :: rest, r, hnd => by
      obtain ⟨out, heq, hout⟩ := broadcasts_ok rest (r.broadcast env packet) hnd
      refine ⟨((r.targets env).map fun key => .send key [packet]) ++ out, ?_, fun key => ?_⟩
      · rw [List.foldl_cons, heq, broadcast, sendAll]
        simp
      · rw [received_append, received_sendAll hnd, hout,
          show (r.broadcast env packet).targets env = r.targets env from rfl]
        split <;> rfl

/-- The slot of a player who has just been given his first piece. -/
def enteredSlot (p : Player) (type : TetrominoType) : Player :=
  { p with roomPlayerState := .play, tetris := p.tetris.initNewTetromino type spawnPos }

theorem initTetromino_eq {l : List TetrominoType} {p : Player} {type : TetrominoType}
    (h : l[p.tetrominoIndex]? = some type) :
    initTetromino l p = some { p with tetris := p.tetris.initNewTetromino type spawnPos } := by
  rw [initTetromino, h]
  rfl

theorem enterGame_all {env : RoomEnv} {ps : List Player} {l : List TetrominoType}
    {type : TetrominoType} (hs : Seated env ps) (htype : l[0]? = some type)
    (hindex : ∀ p ∈ ps, p.isActive = true → p.tetrominoIndex = 0) :
    ps.mapM (MultiRoom.enterGame env l) =
      some (ps.map fun p => if p.isActive then enteredSlot p type else p) := by
  refine mapM_eq_some fun p hp => ?_
  rw [MultiRoom.enterGame, hs.isSome hp]
  split
  · rename_i ha
    exact initTetromino_eq (show l[p.tetrominoIndex]? = some type by rw [hindex p hp ha, htype])
  · rfl

theorem broadcastSpawns_ok {r : TetrisRoom} {env : RoomEnv} {type next : TetrominoType}
    (hs : Seated env r.roomPlayers) (htype : r.tetrominoSpawnList[0]? = some type)
    (hnext : r.tetrominoSpawnList[1]? = some next)
    (hindex : ∀ p ∈ r.roomPlayers, p.isActive = true → p.tetrominoIndex = 0) :
    ∃ out, MultiRoom.broadcastSpawns r env = some { r with out := r.out ++ out } ∧
      ∀ key, received key out = if key ∈ r.targets env then
        (r.roomPlayers.filter (·.isActive)).map (fun p => S2CPacket.spawn p.sessionKey.playerId
          type.toIndex next.toIndex spawnPos.x spawnPos.y) else [] := by
  let packet (p : Player) : S2CPacket :=
    .spawn p.sessionKey.playerId type.toIndex next.toIndex spawnPos.x spawnPos.y
  have hpackets : r.roomPlayers.mapM (MultiRoom.startSpawnPacket env r.tetrominoSpawnList) =
      some (r.roomPlayers.map fun p => if p.isActive then some (packet p) else none) := by
    refine mapM_eq_some fun p hp => ?_
    rw [MultiRoom.startSpawnPacket]
    cases ha : p.isActive with
    | false =>
        have hnone := hs.isSome hp
        rw [ha, Option.isSome_eq_false_iff, Option.isNone_iff_eq_none] at hnone
        rw [hnone]
        rfl
    | true =>
        obtain ⟨v, hv, hid⟩ := hs.findSession hp ha
        rw [hv]
        dsimp only
        rw [tickPacket, hindex p hp ha, htype, Option.bind_eq_bind, Option.bind_some, hnext, hid]
        rfl
  have hreduce : ∀ ps : List Player,
      (ps.map fun p => if p.isActive then some (packet p) else none).reduceOption =
        (ps.filter (·.isActive)).map packet := by
    intro ps
    induction ps with
    | nil => rfl
    | cons p rest ih =>
        rw [List.map_cons]
        cases ha : p.isActive with
        | false =>
            rw [if_neg Bool.false_ne_true, List.reduceOption_cons_of_none, ih,
              List.filter_cons_of_neg (by simp [ha])]
        | true =>
            rw [if_pos rfl, List.reduceOption_cons_of_some, ih, List.filter_cons_of_pos ha,
              List.map_cons]
  obtain ⟨out, heq, hout⟩ := broadcasts_ok ((r.roomPlayers.filter (·.isActive)).map packet) r
    hs.targets_nodup
  refine ⟨out, ?_, hout⟩
  rw [MultiRoom.broadcastSpawns, hpackets, Option.bind_eq_bind, Option.bind_some, hreduce, heq]

/-- The room just before the first pieces are announced. -/
structure AboutToStart (env : RoomEnv) (r r₁ : TetrisRoom) (type next : TetrominoType)
    (first : S2CPacket) : Prop where
  play : r₁.roomState = .play
  kind : r₁.kind = r.kind
  capacity : r₁.maxPlayerCount = r.maxPlayerCount
  host : r₁.hostId = r.hostId
  count : r₁.currentPlayerCount = r.currentPlayerCount
  drawn : r₁.tetrominoSpawnList = r.tetrominoSpawnList ++
    (env.bag r.tetrominoSpawnList.length).types
  current : r₁.tetrominoSpawnList[0]? = some type
  preview : r₁.tetrominoSpawnList[1]? = some next
  players : r₁.roomPlayers = r.roomPlayers.map fun p =>
    if p.isActive then startedSlot p type (env.now p.sessionKey) else p
  out : r₁.out = r.out ++ (r.targets env).map fun key => .send key [first]

theorem started_ok {r r₁ : TetrisRoom} {env : RoomEnv} {type next : TetrominoType}
    {first : S2CPacket} (hs : Seated env r.roomPlayers) (hwait : r.roomState = .wait)
    (hindex : ∀ p ∈ r.roomPlayers, p.isActive = true → p.tetrominoIndex = 0)
    (hfirst : first.showsGame = false ∧ first.isRoomNews = false)
    (h : AboutToStart env r r₁ type next first) :
    Ok (MultiRoom.broadcastSpawns r₁ env) fun r' => Started env r r' type := by
  have hseat : ∀ p : Player, (if p.isActive then startedSlot p type (env.now p.sessionKey)
      else p).seat = p.seat := by
    intro p
    split <;> rfl
  have hseats : r₁.roomPlayers.map Player.seat = r.roomPlayers.map Player.seat := by
    rw [h.players, List.map_map]
    exact List.map_congr_left fun p _ => hseat p
  have hsame : SameSeats r.roomPlayers r₁.roomPlayers :=
    .of_map _ hseat fun i => by rw [h.players, List.getElem?_map]
  have hindex₁ : ∀ p ∈ r₁.roomPlayers, p.isActive = true → p.tetrominoIndex = 0 := by
    rw [h.players]
    intro q hq ha
    obtain ⟨p, hp, rfl⟩ := List.mem_map.mp hq
    have hactive : p.isActive = true := (isActive_of_seat (hseat p)).symm.trans ha
    rw [if_pos hactive]
    exact hindex p hp hactive
  obtain ⟨out, heq, hout⟩ := broadcastSpawns_ok (hs.of_sameSeats hsame) h.current h.preview hindex₁
  refine Ok.intro heq ⟨hwait, h.play, h.kind, h.capacity, h.host, h.count, ?_, h.drawn, h.current,
    h.players, first, next, _,
    hfirst, h.preview, (congrArg (· ++ out) h.out).trans (List.append_assoc ..), fun key => ?_⟩
  · exact (List.getElem?_eq_some_iff.mp h.preview).1
  · rw [received_append, received_sendAll hs.targets_nodup, hout, targets_congr env hseats]
    split
    · -- the players started are the players there were
      have hfilter : (r₁.roomPlayers.filter (·.isActive)).map (fun p => S2CPacket.spawn
            p.sessionKey.playerId type.toIndex next.toIndex spawnPos.x spawnPos.y) =
          (r.roomPlayers.filter (·.isActive)).map fun p => S2CPacket.spawn
            p.sessionKey.playerId type.toIndex next.toIndex spawnPos.x spawnPos.y := by
        rw [h.players, List.filter_map, List.map_map]
        have hactive : (fun p : Player => p.isActive) ∘ (fun p : Player =>
            if p.isActive then startedSlot p type (env.now p.sessionKey) else p) =
            fun p => p.isActive := funext fun p => isActive_of_seat (hseat p)
        rw [hactive]
        refine List.map_congr_left fun p _ => ?_
        have hkey :
          (if p.isActive then startedSlot p type (env.now p.sessionKey) else p).sessionKey =
          p.sessionKey := congrArg Prod.fst (hseat p)
        rw [Function.comp_apply, hkey]
      rw [hfilter]
      rfl
    · rfl

/-- With a bag drawn, there are two pieces to start with. -/
theorem exists_first_two (b : Bag) (l : List TetrominoType) :
    ∃ type next, (l ++ b.types)[0]? = some type ∧ (l ++ b.types)[1]? = some next := by
  have hlen : (l ++ b.types).length = l.length + 7 := by rw [List.length_append, Bag.length]
  exact ⟨_, _, List.getElem?_eq_getElem (by omega), List.getElem?_eq_getElem (by omega)⟩

/-- What comes of a request to start a game of several players. -/
inductive StartOutcome (env : RoomEnv) (r : TetrisRoom) : TetrisRoom → Prop
  | ignored : StartOutcome env r r
  | refused (key : SessionKey) (errorCode : Int) :
      StartOutcome env r (r.emit (.send key [.error errorCode]))
  | started (type : TetrominoType) {r' : TetrisRoom} (hall : MultiRoom.startResult r env = success)
      (h : Started env r r' type) : StartOutcome env r r'

/-- **A game of several players starts with everybody in it**, or a message says why not. -/
theorem startGame_outcome {r : TetrisRoom} {env : RoomEnv} (h : RoomOk r)
    (hs : Seated env r.roomPlayers) (requesterId : Int) :
    Ok (MultiRoom.startGame r env requesterId) (StartOutcome env r) := by
  unfold MultiRoom.startGame
  split
  · exact .pure .ignored
  split
  · exact .pure .ignored
  split
  · split
    · exact .pure .ignored
    · split
      · exact .pure .ignored
      · exact .pure (.refused _ _)
  rename_i hall
  split
  · exact .pure .ignored
  · rename_i hnot
    have hwait : r.roomState = .wait := Decidable.not_not.mp hnot
    have hindex : ∀ p ∈ r.roomPlayers, p.isActive = true → p.tetrominoIndex = 0 := fun p hp _ =>
      ((h.slots p hp).idle fun hc => absurd (hwait.symm.trans hc.1) (by decide)).2
    obtain ⟨type, next, htype, hnext⟩ :=
      exists_first_two (env.bag r.tetrominoSpawnList.length) r.tetrominoSpawnList
    have henter := enterGame_all hs htype hindex
    dsimp only [broadcast, sendAll, appendTetromino7Bag, targets] at henter ⊢
    rw [henter, Option.bind_eq_bind, Option.bind_some]
    refine Ok.mono (P := fun r' => Started env r r' type) ?_ fun r' hr' =>
      .started type (Decidable.not_not.mp hall) hr'
    have hfirst : S2CPacket.multiStart.showsGame = false ∧
        S2CPacket.multiStart.isRoomNews = false :=
      ⟨rfl, rfl⟩
    refine started_ok hs hwait hindex hfirst
      ⟨rfl, rfl, rfl, rfl, rfl, rfl, htype, hnext, ?_, rfl⟩
    -- the boards are cleared after the pieces have been given out
    dsimp only [initGame, forSessions]
    rw [List.map_map]
    refine List.map_congr_left fun p hp => ?_
    have hseat : (if p.isActive then enteredSlot p type else p).seat = p.seat := by split <;> rfl
    rw [Function.comp_apply, findSession_of_seat env hseat, hs.isSome hp]
    split <;> rfl

theorem startGame_ok {r : TetrisRoom} {env : RoomEnv} (h : RoomOk r)
    (hs : Seated env r.roomPlayers) (requesterId : Int) :
    Ok (MultiRoom.startGame r env requesterId) (Handled env r) := by
  refine (startGame_outcome h hs requesterId).mono fun r' hr' => ?_
  cases hr' with
  | ignored => exact .aside (.refl r)
  | refused key errorCode => exact .aside (.emit r (quiet_send rfl))
  | started type _ h => exact .started type h

/-- **A game of one player starts.** -/
theorem SingleRoom.startGame_ok {r : TetrisRoom} {env : RoomEnv} (h : RoomOk r)
    (hs : Seated env r.roomPlayers) : Ok (SingleRoom.startGame r env) (Handled env r) := by
  unfold SingleRoom.startGame
  split
  · exact .pure (.aside (.refl r))
  · rename_i hnot
    have hwait : r.roomState = .wait := Decidable.not_not.mp hnot
    have hindex : ∀ p ∈ r.roomPlayers, p.isActive = true → p.tetrominoIndex = 0 := fun p hp _ =>
      ((h.slots p hp).idle fun hc => absurd (hwait.symm.trans hc.1) (by decide)).2
    obtain ⟨type, next, htype, hnext⟩ :=
      exists_first_two (env.bag r.tetrominoSpawnList.length) r.tetrominoSpawnList
    -- the boards are cleared before the pieces are given out
    let cleared (p : Player) : Player :=
      if (findSession env p).isSome then { p with tetris := p.tetris.clear (env.now p.sessionKey) }
      else p
    have hseat : ∀ p, (cleared p).seat = p.seat := by
      intro p
      dsimp only [cleared]
      split <;> rfl
    have hsame : SameSeats r.roomPlayers (r.roomPlayers.map cleared) :=
      .of_map _ hseat fun i => List.getElem?_map ..
    have hindex' : ∀ q ∈ r.roomPlayers.map cleared, q.isActive = true → q.tetrominoIndex = 0 := by
      intro q hq ha
      obtain ⟨p, hp, rfl⟩ := List.mem_map.mp hq
      have hkeep : (cleared p).tetrominoIndex = p.tetrominoIndex := by
        dsimp only [cleared]
        split <;> rfl
      rw [hkeep]
      exact hindex p hp ((isActive_of_seat (hseat p)).symm.trans ha)
    have henter := enterGame_all (hs.of_sameSeats hsame) htype hindex'
    dsimp only [initGame, forSessions, appendTetromino7Bag] at henter ⊢
    rw [henter, Option.bind_eq_bind, Option.bind_some]
    have hplayers : ((r.roomPlayers.map cleared).map fun p =>
        if p.isActive then enteredSlot p type else p) =
        r.roomPlayers.map fun p =>
          if p.isActive then startedSlot p type (env.now p.sessionKey) else p := by
      rw [List.map_map]
      refine List.map_congr_left fun p hp => ?_
      rw [Function.comp_apply, isActive_of_seat (hseat p)]
      dsimp only [cleared]
      rw [hs.isSome hp]
      split <;> rfl
    rw [hplayers]
    have htargets : ∀ r' : TetrisRoom, (r'.roomPlayers = r.roomPlayers.map fun p =>
        if p.isActive then startedSlot p type (env.now p.sessionKey) else p) →
        r'.targets env = r.targets env := by
      intro r' hr'
      refine targets_congr env ?_
      rw [hr', List.map_map]
      refine List.map_congr_left fun p _ => ?_
      rw [Function.comp_apply]
      split <;> rfl
    refine Ok.mono (P := fun r' => Started env r r' type) ?_ fun r' hr' => .started type hr'
    have hfirst : (S2CPacket.singleStart 0).showsGame = false ∧
        (S2CPacket.singleStart 0).isRoomNews = false := ⟨rfl, rfl⟩
    refine started_ok hs hwait hindex hfirst
      ⟨rfl, rfl, rfl, rfl, rfl, rfl, htype, hnext, rfl, ?_⟩
    rw [broadcast, sendAll, htargets _ rfl]

/-! ## Joining -/

/-- `InitPlayer` on a free slot, for a session in the lobby. -/
theorem initPlayer_free {p : Player} {v : SessionView} (key : SessionKey) (roomIndex now : Int)
    (hfree : p.hasSession = false) (hlife : v.lifeState = .active) (hmode : v.modeState = .lobby) :
    p.initPlayer v key roomIndex now =
      if v.trySetRoomMode then
        ({ p.resetGameData now with activeState := .pending, sessionKey := key }, true)
      else (p.clearPlayer now, false) := by
  have hempty : p.activeState = .empty := by
    simpa [Player.hasSession] using hfree
  rw [Player.initPlayer, if_neg (by simp [hlife]), if_neg (by simp [hempty])]
  dsimp only
  rw [if_pos hmode]
  rfl

/-- The player found for a session that has just been given the slot `i` is that slot's. -/
theorem findPlayer_added {r : TetrisRoom} {key : SessionKey} {i : Nat} {p q : Player}
    (hnone : r.findPlayer key = none) (hp : r.roomPlayers[i]? = some p)
    (hq : q.matchesSessionKey key = true) :
    (r.modifyPlayer i fun _ => q).findPlayer key = some i := by
  have hlt := (List.getElem?_eq_some_iff.mp hp).1
  have hall := List.findIdx?_eq_none_iff.mp hnone
  rw [findPlayer, List.findIdx?_eq_some_iff_getElem]
  refine ⟨(List.length_modify _ _ _).symm ▸ hlt, ?_, fun j hj => ?_⟩
  · simpa [modifyPlayer, List.getElem_modify] using hq
  · have hne : i ≠ j := Nat.ne_of_gt hj
    have hlt' : j < r.roomPlayers.length := Nat.lt_trans hj hlt
    have hother := hall _ (List.getElem_mem hlt')
    simpa [modifyPlayer, List.getElem_modify, hne] using hother

/-- The slot `InitPlayer` leaves for the session `key`. -/
def takenSlot (p : Player) (key : SessionKey) (now : Int) : Player :=
  { p.resetGameData now with activeState := .pending, sessionKey := key }

/-- The room with `key` half way into the slot `i`, nobody told yet. -/
def seatIn (r : TetrisRoom) (i : Nat) (p : Player) (key : SessionKey) (now : Int) : TetrisRoom :=
  { r.modifyPlayer i fun _ => takenSlot p key now with
    currentPlayerCount := r.currentPlayerCount + 1 }

/-- What `AddPlayer` can do with a session that is in the lobby. -/
inductive Admission (env : RoomEnv) (r : TetrisRoom) (v : SessionView) (key : SessionKey) :
    TetrisRoom × Int → Prop
  | refused {code : Int} (hcode : code ≠ success) : Admission env r v key (r, code)
  /-- The session would not change its mode, and the slot is freed again. -/
  | givenBack (i : Nat) {p : Player} (hp : r.roomPlayers[i]? = some p)
      (hfree : p.hasSession = false) :
      Admission env r v key (r.modifyPlayer i (·.clearPlayer (env.now key)), invalidRequest)
  | admitted (i : Nat) {p : Player} (hwait : r.roomState = .wait) (hp : r.roomPlayers[i]? = some p)
      (hfree : p.hasSession = false) (hnone : r.findPlayer key = none) :
      Admission env r v key
        (MultiRoom.announceJoin (r.seatIn i p key (env.now key)) env i v key, success)

theorem addPlayer_admission {r : TetrisRoom} {env : RoomEnv} {v : SessionView} {key : SessionKey}
    (hlife : v.lifeState = .active) (hmode : v.modeState = .lobby) (roomPassword : String) :
    Admission env r v key (MultiRoom.addPlayer r env v key roomPassword) := by
  unfold MultiRoom.addPlayer
  split
  · exact .refused (by decide)
  split
  · exact .refused (by decide)
  split
  · exact .refused (by decide)
  split
  · exact .refused (by decide)
  split
  · exact .refused (by decide)
  rename_i hwait hfind
  have hwait : r.roomState = .wait := Decidable.not_not.mp hwait
  have hnone : r.findPlayer key = none := by simpa using hfind
  split
  · exact .refused (by decide)
  rename_i i hfree
  split
  · exact .refused (by decide)
  rename_i p hp
  have hfree : p.hasSession = false := by
    obtain ⟨hlt, hfree, _⟩ := List.findIdx?_eq_some_iff_getElem.mp hfree
    rw [(List.getElem?_eq_some_iff.mp hp).2] at hfree
    simpa using hfree
  rw [initPlayer_free key r.roomIndex (env.now key) hfree hlife hmode]
  cases htry : v.trySetRoomMode with
  | false =>
      have hclear : r.modifyPlayer i (·.clearPlayer (env.now key)) =
          r.modifyPlayer i fun _ => p.clearPlayer (env.now key) := modifyPlayer_congr hp rfl
      simp only [Bool.false_eq_true, if_false]
      rw [← hclear]
      exact .givenBack i hp hfree
  | true => exact .admitted i hwait hp hfree hnone

/-- The slot is active once `ActivatePlayer` has found it. -/
theorem activatePlayer_admitted {r r₁ : TetrisRoom} {key : SessionKey} {i : Nat} {p : Player}
    {now : Int} (hnone : r.findPlayer key = none) (hp : r.roomPlayers[i]? = some p)
    (hplayers : r₁.roomPlayers = (r.seatIn i p key now).roomPlayers) :
    r₁.activatePlayer key =
      { r₁ with roomPlayers := r.roomPlayers.modify i (joinedSlot · key now) } := by
  have hkey : (takenSlot p key now).matchesSessionKey key = true := by
    simp [takenSlot, Player.matchesSessionKey, Player.hasSession]
  have hfound : r₁.findPlayer key = some i := by
    rw [findPlayer, hplayers]
    exact findPlayer_added hnone hp hkey
  have hactive : ((takenSlot p key now).activate key).1 = joinedSlot p key now := by
    rw [Player.activate, if_pos ⟨hkey, rfl⟩]
    rfl
  have hslot : r₁.roomPlayers[i]? = some (takenSlot p key now) := by
    rw [hplayers]
    simp [seatIn, hp]
  rw [activatePlayer, hfound]
  dsimp only
  rw [modifyPlayer, modify_eq_set hslot, hactive, hplayers, modify_eq_set hp]
  show { r₁ with roomPlayers := (r.roomPlayers.modify i fun _ => takenSlot p key now).set i _ } = _
  rw [@modify_eq_set _ r.roomPlayers _ _ hp, List.set_set]

theorem aside_admitted {r : TetrisRoom} {p : Player} (env : RoomEnv) (i : Nat) (v : SessionView)
    (key : SessionKey) (now : Int) :
    Aside ({ r with currentPlayerCount := r.currentPlayerCount + 1 }.modifyPlayer i
      (joinedSlot · key now)) { MultiRoom.announceJoin (r.seatIn i p key now) env i v key with
        roomPlayers := r.roomPlayers.modify i (joinedSlot · key now) } := by
  have haside := aside_announceJoin (r.seatIn i p key now) env i v key
  exact ⟨haside.kind, haside.capacity, haside.state, rfl, haside.spawnList, haside.count,
    haside.quiet⟩

/-- An account sits in a room once, so a session that is not there brings a new one. -/
theorem account_new {r : TetrisRoom} {env : RoomEnv} {e : RoomEvent} {key : SessionKey}
    (hserves : env.Serves r e) (hsender : e.sender = some key)
    (hkey : (env.findSession key).isSome = true) (hnone : r.findPlayer key = none) :
    ∀ q ∈ r.roomPlayers, q.hasSession = true → q.sessionKey.playerId ≠ key.playerId := by
  intro q hq hsession hid
  have hsame := hserves.single q hq hsession key hsender hkey hid
  have hno := List.findIdx?_eq_none_iff.mp hnone q hq
  rw [← hsame] at hno
  simp [Player.matchesSessionKey, hsession] at hno

/-- **A session that joins gets a free slot**, all of it, or nothing happens to anybody. -/
theorem joined_ok {r : TetrisRoom} {env : RoomEnv} {event : RoomEvent} {v : SessionView}
    {key : SessionKey} (hserves : env.Serves r event) (hsender : event.sender = some key)
    (hv : env.findSession key = some v) (hlife : v.lifeState = .active)
    (hmode : v.modeState = .lobby) (roomPassword : String) {e : RoomEffect} (he : e.Quiet) :
    Handled env r
      ((if (MultiRoom.addPlayer r env v key roomPassword).2 = success then
        (MultiRoom.addPlayer r env v key roomPassword).1.activatePlayer key
      else (MultiRoom.addPlayer r env v key roomPassword).1).emit e) := by
  have hadmission := @addPlayer_admission r env v key hlife hmode roomPassword
  generalize MultiRoom.addPlayer r env v key roomPassword = added at hadmission ⊢
  cases hadmission with
  | refused hcode =>
      rw [if_neg hcode]
      exact .aside (.emit r he)
  | givenBack i hp hfree =>
      rw [if_neg (show ¬ invalidRequest = success by decide)]
      exact .refused i (env.now key) hp hfree (.emit _ he)
  | @admitted i p hwait hp hfree hnone =>
      have haside := aside_announceJoin (r.seatIn i p key (env.now key)) env i v key
      rw [if_pos rfl]
      dsimp only
      rw [activatePlayer_admitted hnone hp haside.players]
      refine @Handled.joined env r i p key (env.now key) _ hwait hp hfree
        (account_new hserves hsender (by rw [hv]; rfl) hnone) ?_
      exact (aside_admitted (p := p) env i v key (env.now key)).trans (.emit _ he)

theorem tryProcessJoinTask_ok {r : TetrisRoom} {env : RoomEnv} (task : RoomTask)
    (hserves : env.Serves r (.task task)) : Handled env r (r.tryProcessJoinTask env task).1 := by
  unfold tryProcessJoinTask
  split
  · exact .aside (.emit r (by trivial))
  · rename_i v hv
    split
    · exact .aside (.refl r)
    · by_cases hlobby : v.lifeState = .active ∧ v.modeState = .lobby
      · rw [if_pos hlobby]
        unfold addPlayer
        cases hkind : r.kind with
        | single => exact .aside (.emit r (by trivial))
        | two => exact joined_ok hserves rfl hv hlobby.1 hlobby.2 _ (by trivial)
        | five => exact joined_ok hserves rfl hv hlobby.1 hlobby.2 _ (by trivial)
      · rw [if_neg hlobby]
        exact .aside (.emit r (by trivial))

/-! ## The other tasks -/

theorem togglePlayerReady_ok {r : TetrisRoom} {env : RoomEnv} (playerId : Int) :
    Handled env r (MultiRoom.togglePlayerReady r env playerId) := by
  unfold MultiRoom.togglePlayerReady
  split
  · exact .aside (.refl r)
  · split
    · exact .aside (.refl r)
    · rename_i i _
      exact .toggled i (.broadcast _ env _ rfl)

theorem kickPlayer_ok {r : TetrisRoom} {env : RoomEnv} (requesterId kickPlayerId : Int) :
    Handled env r (MultiRoom.kickPlayer r env requesterId kickPlayerId).1 := by
  unfold MultiRoom.kickPlayer
  split
  · exact .aside (.refl r)
  split
  · exact .aside (.refl r)
  split
  · exact .aside (.refl r)
  split
  · exact .aside (.refl r)
  split
  · exact .aside (.refl r)
  split
  · exact .aside (.refl r)
  · exact requestLobbyTransition_ok .kick

theorem giveUp_ok {r : TetrisRoom} {env : RoomEnv} {v : SessionView} {key : SessionKey}
    (hkind : r.kind = .single) : Handled env r (SingleRoom.giveUp r env v key) := by
  unfold SingleRoom.giveUp
  split
  · exact .aside (.refl r)
  split
  · exact .aside (.refl r)
  rename_i hplay
  have hplay : r.roomState = .play := Decidable.not_not.mp hplay
  split
  · exact .aside (.refl r)
  rename_i p hslot
  have hp : p ∈ r.roomPlayers := List.mem_of_getElem? hslot
  split
  · exact .aside (.refl r)
  rename_i owner howner
  split
  · exact .aside (.refl r)
  · unfold SingleRoom.endGame SingleRoom.requestUpdateScore
    -- the score may or may not be sent on; the slots are the same
    have hsent : ∀ out, out = r.out ++ [RoomEffect.send p.sessionKey [.gameOver owner.playerId]] →
        ∃ p ∈ r.roomPlayers, ∃ owner after, findSession env p = some owner ∧
          out = r.out ++ .send p.sessionKey [.gameOver owner.playerId] :: after ∧
          ∀ key, received key after = [] :=
      fun out hout => ⟨p, hp, owner, [], howner, hout, fun _ => rfl⟩
    split
    · exact .gaveUp hkind hplay rfl (hsent _ rfl)
    split
    · exact .gaveUp hkind hplay rfl (hsent _ rfl)
    split
    · exact .gaveUp hkind hplay rfl (hsent _ rfl)
    split
    · exact .gaveUp hkind hplay rfl ⟨p, hp, owner, [_], howner, List.append_assoc .., fun _ => rfl⟩
    · exact .gaveUp hkind hplay rfl (hsent _ rfl)

theorem processSpecificRoomTask_ok {r : TetrisRoom} {env : RoomEnv} (h : RoomOk r)
    (hs : Seated env r.roomPlayers) (v : SessionView) (task : RoomTask) :
    Ok (r.processSpecificRoomTask env v task) fun res => Handled env r res.1 := by
  have hmulti : Ok (MultiRoom.processSpecificRoomTask r env v task) fun res =>
      Handled env r res.1 := by
    unfold MultiRoom.processSpecificRoomTask
    split
    · refine .pure ?_
      dsimp only
      split
      · exact togglePlayerReady_ok _
      · exact .aside (.refl r)
    · refine .pure ?_
      split
      · exact kickPlayer_ok _ _
      · exact .aside (.refl r)
    · split
      · exact (startGame_ok h hs v.playerId).bind fun r' hr' => .pure hr'
      · exact .pure (.aside (.refl r))
    · exact .pure (.aside (.refl r))
  unfold processSpecificRoomTask
  cases hkind : r.kind with
  | two => exact hmulti
  | five => exact hmulti
  | single =>
      dsimp only
      unfold SingleRoom.processSpecificRoomTask
      split
      · split
        · exact (SingleRoom.startGame_ok h hs).bind fun r' hr' => .pure hr'
        · exact .pure (.aside (.refl r))
      · exact .pure (giveUp_ok hkind)
      · exact .pure (.aside (.refl r))

theorem RoomOk.removePlayer {r : TetrisRoom} {env : RoomEnv} (h : RoomOk r) (key : SessionKey) :
    Handled env r (r.removePlayer env key) := by
  have hlen := h.length
  unfold TetrisRoom.removePlayer
  cases hkind : r.kind with
  | single => exact SingleRoom.removePlayer_ok (by rw [hlen, hkind]; rfl) (h.single hkind)
  | two => exact removePlayer_ok
  | five => exact removePlayer_ok

theorem RoomOk.requestLobbyTransition {r : TetrisRoom} {env : RoomEnv} (h : RoomOk r)
    (key : SessionKey) : Handled env r (r.requestLobbyTransition env key) := by
  have hlen := h.length
  unfold TetrisRoom.requestLobbyTransition
  cases hkind : r.kind with
  | single =>
      exact SingleRoom.requestLobbyTransition_ok (by rw [hlen, hkind]; rfl) (h.single hkind)
  | two => exact requestLobbyTransition_ok .leave
  | five => exact requestLobbyTransition_ok .leave

/-- **A task of any kind never fails**, and does one of the things `Handled` lists. -/
theorem tryProcessRoomTask_ok {r : TetrisRoom} {env : RoomEnv} (h : RoomOk r)
    (task : RoomTask) (hserves : env.Serves r (.task task)) :
    Ok (r.tryProcessRoomTask env task) fun res => Handled env r res.1 := by
  unfold tryProcessRoomTask
  split
  · exact .pure (tryProcessJoinTask_ok task hserves)
  split
  · refine .pure ?_
    dsimp only
    split
    · exact h.removePlayer _
    · exact .aside (.refl r)
  · split
    · exact .pure (.aside (.refl r))
    split
    · exact .pure (h.removePlayer _)
    split
    · exact .pure (.aside (.refl r))
    split
    · exact .pure (.aside (.refl r))
    split
    · exact .pure (.aside (.refl r))
    · exact processSpecificRoomTask_ok h (h.seated hserves) _ _

end TetrisRoom

end ProjectTetris

import ProjectTetris.Rooms.GameSteps

/-!
# News of the members

What an event does to the people in a room for several players, the host among them,
and what it tells each of them. `Managed` lists it, as `Handled` does, but with the host
and the packets a client keeps its picture of the members with.
-/

namespace ProjectTetris

open Checked

/-- What a log tells one session about the members of its room. -/
def news (key : SessionKey) (out : List RoomEffect) : List S2CPacket :=
  (received key out).filter (·.isRoomNews)

@[simp] theorem news_nil (key : SessionKey) : news key [] = [] := rfl

@[simp] theorem news_append (key : SessionKey) (l₁ l₂ : List RoomEffect) :
    news key (l₁ ++ l₂) = news key l₁ ++ news key l₂ := by
  rw [news, received_append, List.filter_append, news, news]

namespace TetrisRoom

/-! ## Telling -/

@[simp] theorem news_emit (r : TetrisRoom) (key : SessionKey) (e : RoomEffect) :
    news key (r.emit e).out = news key r.out ++ news key [e] := news_append key r.out [e]

theorem news_send (key dest : SessionKey) (packet : S2CPacket) :
    news key [.send dest [packet]] = if dest = key ∧ packet.isRoomNews then [packet] else [] := by
  unfold news received
  by_cases hdest : dest = key
  · cases hp : packet.isRoomNews <;> simp [hdest, hp]
  · simp [hdest]

theorem news_broadcast {r : TetrisRoom} {env : RoomEnv} (hs : Seated env r.roomPlayers)
    (key : SessionKey) {packet : S2CPacket} (hp : packet.isRoomNews = true) :
    news key (r.broadcast env packet).out =
      news key r.out ++ if key ∈ r.targets env then [packet] else [] := by
  rw [broadcast, sendAll, news_append]
  congr 1
  rw [news, received_sendAll hs.targets_nodup]
  split
  · rw [List.filter_cons, if_pos hp]
    rfl
  · rfl

theorem news_foldl_emit {α : Type} (key : SessionKey) (e : α → RoomEffect) :
    ∀ (l : List α) (r : TetrisRoom),
      news key (l.foldl (fun r a => r.emit (e a)) r).out = news key r.out ++ news key (l.map e)
  | [], r => by simp
  | a :: rest, r => by
      rw [List.foldl_cons, news_foldl_emit key e rest, news_emit, List.map_cons, List.append_assoc,
        ← news_append]
      rfl

theorem mem_targets_iff {env : RoomEnv} {r : TetrisRoom} (hs : Seated env r.roomPlayers)
    (key : SessionKey) :
    key ∈ r.targets env ↔ ∃ p ∈ r.roomPlayers, p.isActive = true ∧ p.sessionKey = key := by
  rw [targets, List.mem_map]
  constructor
  · rintro ⟨p, hp, rfl⟩
    obtain ⟨hmem, hsome⟩ := List.mem_filter.mp hp
    exact ⟨p, hmem, (hs.isSome hmem).symm.trans hsome, rfl⟩
  · rintro ⟨p, hmem, ha, rfl⟩
    exact ⟨p, List.mem_filter.mpr ⟨hmem, (hs.isSome hmem).trans ha⟩, rfl⟩

theorem sameSeats_modifyPlayer (r : TetrisRoom) (i : Nat) {f : Player → Player}
    (hf : ∀ p, (f p).seat = p.seat) : SameSeats r.roomPlayers (r.modifyPlayer i f).roomPlayers :=
  (SlotWise.modify (R := fun p q => q.seat = p.seat) (fun _ _ => rfl) fun p _ => hf p).sameSeats
    fun _ _ heq => heq

/-! ## A new host -/

/-- The slot the room goes over to, if its host leaves slot `i`: the first one left. -/
structure NextHost (r : TetrisRoom) (i j : Nat) (h : Player) : Prop where
  slot : r.roomPlayers[j]? = some h
  active : h.isActive = true
  other : j ≠ i
  first : ∀ (k : Nat) (q : Player), k < j → k ≠ i → r.roomPlayers[k]? = some q → q.isActive = false

/-- The slot of somebody the room has just been given to. -/
def hostSlot (state : RoomState) (p : Player) : Player :=
  if state = .wait then { p with roomPlayerState := .wait } else p

theorem hostSlot_seat (state : RoomState) (p : Player) : (hostSlot state p).seat = p.seat := by
  unfold hostSlot
  split <;> rfl

/-- **`FindNewHost`, while somebody is left**: the first of them, who is not ready any more. -/
theorem findNewHost_spec {r : TetrisRoom} {env : RoomEnv} {j : Nat} {h : Player}
    (hs : Seated env r.roomPlayers) (hcount : r.currentPlayerCount ≠ 0)
    (hslot : r.roomPlayers[j]? = some h) (ha : h.isActive = true)
    (hfirst : ∀ (k : Nat) (q : Player), k < j → r.roomPlayers[k]? = some q → q.isActive = false) :
    MultiRoom.findNewHost r env = ({ r with hostId := h.sessionKey.playerId }.modifyPlayer j
      (hostSlot r.roomState)).broadcast env (.updateHost h.sessionKey.playerId) := by
  obtain ⟨hlt, heq⟩ := List.getElem?_eq_some_iff.mp hslot
  have hfind : (r.roomPlayers.findIdx? fun p => (findSession env p).isSome) = some j := by
    rw [List.findIdx?_eq_some_iff_getElem]
    refine ⟨hlt, ?_, fun k hk => ?_⟩
    · rw [hs.isSome (List.getElem_mem hlt), heq, ha]
    · have hlt' : k < r.roomPlayers.length := Nat.lt_trans hk hlt
      have hidle := hfirst k _ hk (List.getElem?_eq_getElem hlt')
      rw [hs.isSome (List.getElem_mem hlt'), hidle]
      decide
  obtain ⟨v, hv, hid⟩ := hs.findSession (List.mem_of_getElem? hslot) ha
  unfold MultiRoom.findNewHost
  dsimp only
  rw [if_pos hcount, hfind]
  dsimp only
  rw [hslot, Option.bind_some, hv]
  dsimp only [Option.elim]
  rw [hid]
  by_cases hwait : r.roomState = .wait
  · rw [if_pos hwait]
    have hfun : hostSlot r.roomState = fun p : Player =>
        { p with roomPlayerState := .wait } := by
      funext p
      rw [hostSlot, if_pos hwait]
    rw [hfun]
  · rw [if_neg hwait]
    have hself : ({ r with hostId := h.sessionKey.playerId } : TetrisRoom).modifyPlayer j
        (hostSlot r.roomState) = { r with hostId := h.sessionKey.playerId } :=
      modifyPlayer_self hslot (by rw [hostSlot, if_neg hwait])
    rw [hself]

/-! ## Leaving -/

theorem Seated.clearSlot {env : RoomEnv} {ps : List Player} (h : Seated env ps) (i : Nat)
    (now : Int) :
    Seated env (ps.modify i (·.clearPlayer now)) := by
  have hslot : ∀ (j : Nat) (q : Player), (ps.modify i (·.clearPlayer now))[j]? = some q →
      q.isActive = true → ps[j]? = some q := by
    intro j q hq ha
    rw [List.getElem?_modify, Option.map_eq_map, Option.map_eq_some_iff] at hq
    obtain ⟨p, hp, hpq⟩ := hq
    split at hpq
    · rw [← hpq] at ha
      exact absurd ha (by simp [Player.clearPlayer, Player.isActive])
    · rw [hp, ← hpq]
  refine ⟨fun q hq ha => ?_, fun j k p q hp hq hpa hqa hid => ?_⟩
  · obtain ⟨j, hj⟩ := List.mem_iff_getElem?.mp hq
    exact h.found q (List.mem_of_getElem? (hslot j q hj ha)) ha
  · exact h.distinct j k p q (hslot j p hp hpa) (hslot k q hq hqa) hpa hqa hid

theorem exists_nextHost {r : TetrisRoom} {i k : Nat} {q : Player} (hk : k ≠ i)
    (hq : r.roomPlayers[k]? = some q) (ha : q.isActive = true) : ∃ j h, NextHost r i j h := by
  induction k using Nat.strongRecOn generalizing q with
  | _ k ih =>
      by_cases hbefore : ∃ (m : Nat) (p : Player), m < k ∧ m ≠ i ∧ r.roomPlayers[m]? = some p ∧
          p.isActive = true
      · obtain ⟨m, p, hm, hmi, hp, hpa⟩ := hbefore
        exact ih m hm hmi hp hpa
      · refine ⟨k, q, hq, ha, hk, fun m p hm hmi hp => ?_⟩
        refine Bool.eq_false_iff.mpr fun hpa => hbefore ⟨m, p, hm, hmi, hp, hpa⟩

/-- The player `p` of slot `i` has left, and everybody else in the room has been told. -/
structure Left (r : TetrisRoom) (i : Nat) (p : Player) (r' : TetrisRoom) : Prop where
  removed : Removed r i r'
  stays : p.sessionKey.playerId ≠ r.hostId → r'.hostId = r.hostId ∧
    ∀ (k : Nat) (q : Player), k ≠ i → r.roomPlayers[k]? = some q → r'.roomPlayers[k]? = some q
  moves : p.sessionKey.playerId = r.hostId → ∀ (j : Nat) (h : Player), NextHost r i j h →
    r'.hostId = h.sessionKey.playerId ∧
      ∀ (k : Nat) (q : Player), k ≠ i → r.roomPlayers[k]? = some q →
        r'.roomPlayers[k]? = some (if j = k then hostSlot r.roomState q else q)
  told : ∀ (k : Nat) (q : Player), k ≠ i → r.roomPlayers[k]? = some q → q.isActive = true →
    news q.sessionKey r'.out = news q.sessionKey r.out ++ .removePlayer p.sessionKey.playerId ::
      if p.sessionKey.playerId = r.hostId then [.updateHost r'.hostId] else []

/-- The room that has said who is leaving, and is about to free his slot. -/
structure Announced (r : TetrisRoom) (env : RoomEnv) (playerId : Int)
    (r₁ : TetrisRoom) : Prop where
  players : r₁.roomPlayers = r.roomPlayers
  host : r₁.hostId = r.hostId
  count : r₁.currentPlayerCount = r.currentPlayerCount
  state : r.currentPlayerCount ≠ 1 → r₁.roomState = r.roomState
  told : ∀ key ∈ r.targets env, news key r₁.out = news key r.out ++ [.removePlayer playerId]

theorem announced_ok {r : TetrisRoom} {env : RoomEnv} (hs : Seated env r.roomPlayers)
    (playerId : Int) :
    Announced r env playerId ((deleteIfLast r).broadcast env (.removePlayer playerId)) := by
  have hlast : ((deleteIfLast r).roomPlayers = r.roomPlayers ∧ (deleteIfLast r).hostId = r.hostId ∧
      (deleteIfLast r).currentPlayerCount = r.currentPlayerCount ∧ (deleteIfLast r).out = r.out) ∧
      (r.currentPlayerCount ≠ 1 → (deleteIfLast r).roomState = r.roomState) := by
    unfold deleteIfLast
    split
    · rename_i hone
      exact ⟨⟨rfl, rfl, rfl, rfl⟩, fun hne => absurd hone hne⟩
    · exact ⟨⟨rfl, rfl, rfl, rfl⟩, fun _ => rfl⟩
  obtain ⟨⟨hplayers, hhost, hcount, hout⟩, hstate⟩ := hlast
  refine ⟨hplayers, hhost, hcount, hstate, fun key hkey => ?_⟩
  have htargets : (deleteIfLast r).targets env = r.targets env := by
    rw [targets, hplayers, targets]
  rw [news_broadcast (hplayers ▸ hs) key rfl, htargets, if_pos hkey, hout]

theorem Announced.emit {r r₁ : TetrisRoom} {env : RoomEnv} {playerId : Int}
    (h : Announced r env playerId r₁) {e : RoomEffect} (he : ∀ key, news key [e] = []) :
    Announced r env playerId (r₁.emit e) :=
  ⟨h.players, h.host, h.count, h.state, fun key hkey => by
    rw [news_emit, he, List.append_nil, h.told key hkey]⟩

/-- The slot `i` is free. -/
def freed (r : TetrisRoom) (i : Nat) (now : Int) : TetrisRoom :=
  { r.modifyPlayer i (·.clearPlayer now) with currentPlayerCount := r.currentPlayerCount - 1 }

/-- The room once the player with this id is gone: it may need a new host. -/
def rehosted (r : TetrisRoom) (env : RoomEnv) (playerId : Int) : TetrisRoom :=
  if playerId = r.hostId then MultiRoom.findNewHost r env else r

theorem completePlayerRemoval_eq {r : TetrisRoom} {env : RoomEnv} {key : SessionKey} {i : Nat}
    {p : Player} (exitType : RoomExitType) (hs : Seated env r.roomPlayers)
    (hfind : r.findPlayer key = some i) (hp : r.roomPlayers[i]? = some p) :
    ∃ r₁ now reports, Announced r env p.sessionKey.playerId r₁ ∧ (∀ key, news key reports = []) ∧
      MultiRoom.completePlayerRemoval r env key exitType =
        { rehosted (r₁.freed i now) env p.sessionKey.playerId with
          out := (rehosted (r₁.freed i now) env p.sessionKey.playerId).out ++ reports } := by
  have hid : ((r.roomPlayers[i]?).map (·.sessionKey.playerId)).getD (-1) =
      p.sessionKey.playerId := by
    rw [hp]
    rfl
  rw [← hid]
  unfold MultiRoom.completePlayerRemoval
  rw [hfind]
  dsimp only
  generalize ((r.roomPlayers[i]?).map (·.sessionKey.playerId)).getD (-1) = playerId
  have h₁ : Announced r env playerId
      (if exitType = .kick ∧ (env.findSession key).isSome = true then
        ((deleteIfLast r).broadcast env (.removePlayer playerId)).emit (.send key [.info kicked])
      else (deleteIfLast r).broadcast env (.removePlayer playerId)) := by
    split
    · exact (announced_ok hs _).emit fun k => by
        rw [news_send, if_neg (by simp [S2CPacket.isRoomNews])]
    · exact announced_ok hs _
  rw [deleteIfLast] at h₁
  generalize hr₁ : (if exitType = .kick ∧ (env.findSession key).isSome = true then
        ((if r.currentPlayerCount = 1 then r.beginRoomDelete else r).broadcast env
          (.removePlayer playerId)).emit (.send key [.info kicked])
      else (if r.currentPlayerCount = 1 then r.beginRoomDelete else r).broadcast env
        (.removePlayer playerId)) = r₁ at h₁ ⊢
  obtain ⟨now, hclear⟩ := clearPlayer_fst r₁ env i
  cases hcleared : r₁.clearPlayer env i with
  | mk r₂ disconnected =>
      rw [hcleared] at hclear
      dsimp only at hclear ⊢
      subst hclear
      cases disconnected with
      | none =>
          refine ⟨r₁, now, [], h₁, fun _ => rfl, ?_⟩
          rw [List.append_nil]
          rfl
      | some key' => exact ⟨r₁, now, [.completeRoomDisconnect key'], h₁, fun _ => rfl, rfl⟩

/-- **`CompletePlayerRemoval`**, with the host and the news. -/
theorem completePlayerRemoval_left {r : TetrisRoom} {env : RoomEnv} {key : SessionKey} {i : Nat}
    {p : Player} (exitType : RoomExitType) (hs : Seated env r.roomPlayers)
    (hfind : r.findPlayer key = some i) (hp : r.roomPlayers[i]? = some p)
    (hlast : ∀ (j : Nat) (h : Player), NextHost r i j h → r.currentPlayerCount ≠ 1) :
    Left r i p (MultiRoom.completePlayerRemoval r env key exitType) := by
  have hremoved := @completePlayerRemoval_ok r env key i exitType hfind
  obtain ⟨r₁, now, reports, h₁, hreports, heq⟩ :=
    @completePlayerRemoval_eq r env key i p exitType hs hfind hp
  rw [heq] at hremoved ⊢
  have hs₂ : Seated env (r₁.freed i now).roomPlayers := by
    show Seated env (r₁.roomPlayers.modify i _)
    rw [h₁.players]
    exact hs.clearSlot i now
  have hkept : ∀ (k : Nat) (q : Player), k ≠ i → r.roomPlayers[k]? = some q →
      (r₁.freed i now).roomPlayers[k]? = some q := by
    intro k q hk hq
    show (r₁.modifyPlayer i _).roomPlayers[k]? = some q
    rw [modifyPlayer_getElem?, h₁.players, hq, Option.map_some, if_neg (Ne.symm hk)]
  have hhost : (r₁.freed i now).hostId = r.hostId := h₁.host
  -- the host stays who he is, or the next in line takes over
  have hstays : p.sessionKey.playerId ≠ r.hostId →
      rehosted (r₁.freed i now) env p.sessionKey.playerId = r₁.freed i now := by
    intro hid
    rw [rehosted, if_neg (by rw [hhost]; exact hid)]
  have hmoves : ∀ j h, NextHost r i j h → p.sessionKey.playerId = r.hostId →
      rehosted (r₁.freed i now) env p.sessionKey.playerId =
        ({ r₁.freed i now with hostId := h.sessionKey.playerId }.modifyPlayer j
          (hostSlot r.roomState)).broadcast env (.updateHost h.sessionKey.playerId) := by
    intro j h hnext hid
    have hone := hlast j h hnext
    have hstate : (r₁.freed i now).roomState = r.roomState := h₁.state hone
    have hcount : (r₁.freed i now).currentPlayerCount ≠ 0 := by
      show r₁.currentPlayerCount - 1 ≠ 0
      rw [h₁.count]
      omega
    rw [rehosted, if_pos (by rw [hhost]; exact hid), ← hstate]
    refine findNewHost_spec hs₂ hcount (hkept j h hnext.other hnext.slot) hnext.active
      fun k q hk hq => ?_
    by_cases hki : k = i
    · subst hki
      have hcleared : (r₁.freed k now).roomPlayers[k]? = some (p.clearPlayer now) := by
        show (r₁.modifyPlayer k _).roomPlayers[k]? = _
        rw [modifyPlayer_getElem?, h₁.players, hp, Option.map_some, if_pos rfl]
      rw [hcleared] at hq
      injection hq with hq
      rw [← hq]
      rfl
    · have hlt := (List.getElem?_eq_some_iff.mp hnext.slot).1
      have hold := List.getElem?_eq_getElem (Nat.lt_trans hk hlt)
      rw [hkept k _ hki hold] at hq
      injection hq with hq
      rw [← hq]
      exact hnext.first k _ hk hki hold
  refine ⟨hremoved, fun hid => ⟨?_, fun k q hk hq => ?_⟩,
    fun hid j h hnext => ⟨?_, fun k q hk hq => ?_⟩, fun k q hk hq ha => ?_⟩
  · exact (congrArg TetrisRoom.hostId (hstays hid)).trans hhost
  · exact (congrArg (·.roomPlayers[k]?) (hstays hid)).trans (hkept k q hk hq)
  · exact congrArg TetrisRoom.hostId (hmoves j h hnext hid)
  · refine (congrArg (·.roomPlayers[k]?) (hmoves j h hnext hid)).trans ?_
    refine (modifyPlayer_getElem?
      { r₁.freed i now with hostId := h.sessionKey.playerId } j k _).trans ?_
    rw [show ({ r₁.freed i now with hostId := h.sessionKey.playerId } :
      TetrisRoom).roomPlayers[k]? =
      some q from hkept k q hk hq, Option.map_some]
  · dsimp only
    rw [news_append, hreports, List.append_nil]
    -- first the news that somebody has left, then that of the new host
    have htold := h₁.told _ (mem_targets hs (List.mem_of_getElem? hq) ha)
    by_cases hid : p.sessionKey.playerId = r.hostId
    · obtain ⟨j, h, hnext⟩ := exists_nextHost hk hq ha
      have hseats := sameSeats_modifyPlayer { r₁.freed i now with hostId := h.sessionKey.playerId }
        j (hostSlot_seat r.roomState)
      have hmember : q.sessionKey ∈ TetrisRoom.targets ({ r₁.freed i now with
          hostId := h.sessionKey.playerId }.modifyPlayer j (hostSlot r.roomState)) env := by
        rw [targets_congr (r := r₁.freed i now) env (map_seat_of_sameSeats hseats)]
        exact mem_targets hs₂ (List.mem_of_getElem? (hkept k q hk hq)) ha
      rw [if_pos hid, hmoves j h hnext hid, news_broadcast (hs₂.of_sameSeats hseats) _ rfl,
        if_pos hmember]
      show news q.sessionKey r₁.out ++ _ = _
      rw [htold, List.append_assoc]
      rfl
    · rw [if_neg hid, hstays hid]
      exact htold

theorem Left.emit {r r' : TetrisRoom} {i : Nat} {p : Player} {e : RoomEffect} (h : Left r i p r')
    (hquiet : e.Quiet) (he : ∀ key, news key [e] = []) : Left r i p (r'.emit e) :=
  ⟨h.removed.aside (.emit _ hquiet), h.stays, h.moves, fun k q hk hq ha => by
    rw [news_emit, he, List.append_nil, h.told k q hk hq ha]
    rfl⟩

/-- Setting the slot `PENDING` first makes no difference. -/
theorem Left.of_pending {r r' : TetrisRoom} {i : Nat} {p : Player}
    (hp : r.roomPlayers[i]? = some p)
    (h : Left (r.modifyPlayer i fun _ => { p with activeState := .pending }) i
      { p with activeState := .pending } r') : Left r i p r' := by
  have hkept : ∀ (k : Nat) (q : Player), k ≠ i → (r.roomPlayers[k]? = some q ↔
      (r.modifyPlayer i fun _ => { p with activeState := .pending }).roomPlayers[k]? =
        some q) := by
    intro k q hk
    rw [modifyPlayer_getElem?]
    cases r.roomPlayers[k]? with
    | none => exact Iff.rfl
    | some x => rw [Option.map_some, if_neg (Ne.symm hk)]
  refine ⟨h.removed.of_pending hp, fun hid => ⟨(h.stays hid).1, fun k q hk hq => ?_⟩,
    fun hid j x hnext => ?_, fun k q hk hq ha => h.told k q hk ((hkept k q hk).mp hq) ha⟩
  · exact (h.stays hid).2 k q hk ((hkept k q hk).mp hq)
  · have hnext' : NextHost (r.modifyPlayer i fun _ => { p with activeState := .pending }) i j x :=
      ⟨(hkept j x hnext.other).mp hnext.slot, hnext.active, hnext.other,
        fun k q hk hki hq => hnext.first k q hk hki ((hkept k q hki).mpr hq)⟩
    exact ⟨(h.moves hid j x hnext').1,
      fun k q hk hq => (h.moves hid j x hnext').2 k q hk ((hkept k q hk).mp hq)⟩

/-- Somebody to take the room over is a second player. -/
theorem RoomOk.count_of_next {r : TetrisRoom} {i j : Nat} {p h : Player} (hr : RoomOk r)
    (hp : r.roomPlayers[i]? = some p) (ha : p.isActive = true) (hnext : NextHost r i j h) :
    r.currentPlayerCount ≠ 1 := by
  have hslot : (accounts r.roomPlayers)[i]? = some (some p.sessionKey.playerId) := by
    rw [accounts_slot hp, if_pos ha]
  have hcount := (hr.occupied.remove hslot).count
  have hpos : 0 < ((accounts r.roomPlayers).set i none).countP Option.isSome := by
    refine List.countP_pos_iff.mpr ⟨some h.sessionKey.playerId,
      List.mem_of_getElem? (i := j) ?_, rfl⟩
    rw [List.getElem?_set_ne (Ne.symm hnext.other), accounts_slot hnext.slot, if_pos hnext.active]
  omega

/-! ## Joining -/

/-- The name a session is announced under. -/
def nameOf (env : RoomEnv) (key : SessionKey) : String :=
  ((env.findSession key).map (·.nickname)).getD ""

theorem foldl_emit {α : Type} (e : α → RoomEffect) : ∀ (l : List α) (r : TetrisRoom),
    l.foldl (fun r a => r.emit (e a)) r = { r with out := r.out ++ l.map e }
  | [], r => by simp
  | a :: rest, r => by
      rw [List.foldl_cons, foldl_emit e rest, List.map_cons]
      simp [TetrisRoom.emit]

theorem filterMap_eq_map {α β : Type} (f : α → Option β) (l : List α) :
    l.filterMap f = (l.map f).filterMap id := by
  rw [List.filterMap_map]
  rfl

/-- Leaving out an index at which there is nothing to find leaves nothing out. -/
theorem filterMap_others {α β : Type} {f : α → Option β} {l : List α} {i : Nat}
    (h : ∀ a, l[i]? = some a → f a = none) :
    (l.zipIdx.filter fun s => s.2 ≠ i).filterMap (fun s => f s.1) = l.filterMap f := by
  rw [List.filterMap_filter]
  have hzip : l.filterMap f = l.zipIdx.filterMap fun s => f s.1 := by
    have hmap := @List.filterMap_map _ _ _ Prod.fst f l.zipIdx
    rwa [List.zipIdx_map_fst] at hmap
  rw [hzip, filterMap_eq_map, filterMap_eq_map fun s : α × Nat => f s.1]
  congr 1
  refine List.map_congr_left fun s hs => ?_
  by_cases hi : s.2 = i
  · have hslot := List.mem_zipIdx_iff_getElem?.mp hs
    rw [if_neg (by simp [hi]), h s.1 (hi ▸ hslot)]
  · rw [if_pos (by simp [hi])]

/-- The sessions of the other slots are the players there are. -/
theorem otherSessions_seatIn {r : TetrisRoom} {env : RoomEnv} {i : Nat} {p : Player}
    {key : SessionKey} {now : Int} (hs : Seated env r.roomPlayers)
    (hp : r.roomPlayers[i]? = some p) (hidle : p.isActive = false) :
    (MultiRoom.otherSessions (r.seatIn i p key now) env i).map
      (fun o => (o.1, o.2.playerId, o.2.nickname)) =
      (r.roomPlayers.filter (·.isActive)).map fun q =>
        (q.sessionKey, q.sessionKey.playerId, nameOf env q.sessionKey) := by
  let f (q : Player) : Option (SessionKey × SessionView) :=
    (findSession env q).map fun v => (q.sessionKey, v)
  have hnone : ∀ q : Player, q.isActive = false → f q = none := by
    intro q hq
    simp [f, findSession, hq]
  have hothers : MultiRoom.otherSessions (r.seatIn i p key now) env i =
      (r.seatIn i p key now).roomPlayers.filterMap f := by
    refine filterMap_others (f := f) fun q hq => hnone q ?_
    have hq' : (r.roomPlayers.modify i fun _ => takenSlot p key now)[i]? = some q := hq
    rw [List.getElem?_modify, hp] at hq'
    simp only [if_true, Option.map_eq_map, Option.map_some] at hq'
    rw [← Option.some.inj hq']
    rfl
  have hsame : (r.seatIn i p key now).roomPlayers.map f = r.roomPlayers.map f := by
    refine List.ext_getElem? fun j => ?_
    show ((r.roomPlayers.modify i fun _ => takenSlot p key now).map f)[j]? = _
    rw [List.getElem?_map, List.getElem?_map, List.getElem?_modify]
    by_cases hij : i = j
    · subst hij
      rw [hp]
      simp only [if_true, Option.map_eq_map, Option.map_some]
      rw [hnone p hidle, hnone _ rfl]
    · simp [hij]
  have hids : ∀ ps : List Player, (∀ q ∈ ps, q ∈ r.roomPlayers) →
      (ps.filterMap f).map (fun o => (o.1, o.2.playerId, o.2.nickname)) =
        (ps.filter (·.isActive)).map fun q =>
          (q.sessionKey, q.sessionKey.playerId, nameOf env q.sessionKey) := by
    intro ps hps
    induction ps with
    | nil => rfl
    | cons q rest ih =>
        have ih := ih fun x hx => hps x (List.mem_cons_of_mem _ hx)
        cases ha : q.isActive with
        | false => rw [List.filterMap_cons, hnone q ha, List.filter_cons_of_neg (by simp [ha]), ih]
        | true =>
            obtain ⟨v, hv, hid⟩ := hs.found q (hps q List.mem_cons_self) ha
            have hf : f q = some (q.sessionKey, v) := by
              simp [f, findSession, ha, hv]
            rw [List.filterMap_cons, hf, List.filter_cons_of_pos ha, List.map_cons,
              List.map_cons, ih, hid, nameOf, hv]
            rfl
  rw [hothers, filterMap_eq_map, hsame, ← filterMap_eq_map]
  exact hids _ fun _ hq => hq

theorem createRoomPacket_isRoomNews (r : TetrisRoom) : r.createRoomPacket.isRoomNews = true := by
  unfold createRoomPacket
  split <;> rfl

/-- A room packet sent to each of several sessions reaches each of them once. -/
theorem news_sendEach {α : Type} {dest : α → SessionKey} {l : List α} (hnd : (l.map dest).Nodup)
    (key : SessionKey) {packet : S2CPacket} (hp : packet.isRoomNews = true) :
    news key (l.map fun a => .send (dest a) [packet]) =
      if key ∈ l.map dest then [packet] else [] := by
  have hmap : (l.map fun a => RoomEffect.send (dest a) [packet]) =
      (l.map dest).map fun k => .send k [packet] := by
    rw [List.map_map]
    rfl
  rw [hmap, news, received_sendAll hnd]
  split
  · rw [List.filter_cons, if_pos hp]
    rfl
  · rfl

/-- Room packets sent to one session reach it in order, and nobody else. -/
theorem news_sendMany {α : Type} (dest key : SessionKey) {packet : α → S2CPacket}
    (hp : ∀ a, (packet a).isRoomNews = true) (l : List α) :
    news key (l.map fun a => .send dest [packet a]) = if dest = key then l.map packet else [] := by
  induction l with
  | nil => simp
  | cons a rest ih =>
      rw [List.map_cons, show RoomEffect.send dest [packet a] :: rest.map
        (fun a => .send dest [packet a]) =
        [RoomEffect.send dest [packet a]] ++ rest.map fun a => .send dest [packet a]
        from rfl, news_append, ih, news_send]
      by_cases hdest : dest = key <;> simp [hdest, hp]

/-- What a newcomer is told: the room, who is there, and whose room it is. -/
def welcome (r : TetrisRoom) (env : RoomEnv) : List S2CPacket :=
  r.createRoomPacket ::
    ((r.roomPlayers.filter (·.isActive)).map fun q =>
      .addPlayer q.sessionKey.playerId (nameOf env q.sessionKey)) ++ [.updateHost r.hostId]

/-- **The announcement of a newcomer**: he is welcomed, and the others are told about him. -/
theorem announceJoin_news {r : TetrisRoom} {env : RoomEnv} {i : Nat} {p : Player}
    {key : SessionKey} {v : SessionView} {now : Int} (hs : Seated env r.roomPlayers)
    (hp : r.roomPlayers[i]? = some p) (hidle : p.isActive = false)
    (hnew : ∀ q ∈ r.roomPlayers, q.isActive = true → q.sessionKey ≠ key) :
    news key (MultiRoom.announceJoin (r.seatIn i p key now) env i v key).out =
        news key r.out ++ welcome r env ∧
      ∀ q ∈ r.roomPlayers, q.isActive = true →
        news q.sessionKey (MultiRoom.announceJoin (r.seatIn i p key now) env i v key).out =
          news q.sessionKey r.out ++ [.addPlayer v.playerId v.nickname] := by
  have hothers := @otherSessions_seatIn r env i p key now hs hp hidle
  have hcreate : (r.seatIn i p key now).createRoomPacket = r.createRoomPacket := rfl
  unfold MultiRoom.announceJoin
  dsimp only
  rw [hcreate, foldl_emit, foldl_emit]
  generalize MultiRoom.otherSessions (r.seatIn i p key now) env i = others at hothers
  have hkeys : others.map Prod.fst = r.targets env := by
    have hfst := congrArg (List.map fun o : SessionKey × Int × String => o.1) hothers
    rw [List.map_map, List.map_map] at hfst
    rw [targets, List.filter_congr fun q hq => hs.isSome hq]
    exact hfst
  have hnd : (others.map Prod.fst).Nodup := hkeys ▸ hs.targets_nodup
  have hadds : (others.map fun o => S2CPacket.addPlayer o.2.playerId o.2.nickname) =
      (r.roomPlayers.filter (·.isActive)).map fun q =>
        .addPlayer q.sessionKey.playerId (nameOf env q.sessionKey) := by
    have hsnd :=
      congrArg (List.map fun o : SessionKey × Int × String => S2CPacket.addPlayer o.2.1 o.2.2)
      hothers
    rw [List.map_map, List.map_map] at hsnd
    exact hsnd
  have hnews : ∀ k, news k (((r.out ++ [RoomEffect.send key [r.createRoomPacket]]) ++
      others.map fun o => .send o.1 [.addPlayer v.playerId v.nickname]) ++
      (others.map fun o => .send key [.addPlayer o.2.playerId o.2.nickname]) ++
      [.send key [.updateHost r.hostId]]) =
      news k r.out ++ (if key = k then [r.createRoomPacket] else []) ++
        (if k ∈ r.targets env then [.addPlayer v.playerId v.nickname] else []) ++
        (if key = k then others.map fun o => .addPlayer o.2.playerId o.2.nickname else []) ++
        (if key = k then [.updateHost r.hostId] else []) := by
    intro k
    rw [news_append, news_append, news_append, news_append, news_send, news_send,
      news_sendEach hnd k rfl, hkeys, news_sendMany key k fun _ => rfl]
    simp only [createRoomPacket_isRoomNews,
      show (S2CPacket.updateHost r.hostId).isRoomNews = true from rfl, and_true]
  have hnot : key ∉ r.targets env := by
    intro hmem
    obtain ⟨q, hq, ha, hkey⟩ := (mem_targets_iff hs key).mp hmem
    exact hnew q hq ha hkey
  refine ⟨(hnews key).trans ?_, fun q hq ha => (hnews q.sessionKey).trans ?_⟩
  · rw [if_pos rfl, if_neg hnot, if_pos rfl, if_pos rfl, hadds, welcome]
    simp
  · rw [if_neg (Ne.symm (hnew q hq ha)), if_neg (Ne.symm (hnew q hq ha)),
      if_neg (Ne.symm (hnew q hq ha)), if_pos (mem_targets hs hq ha)]
    simp

/-! ## What an event does to the members -/

/-- Everything an event other than a tick can do to the members of a room for several players. -/
inductive Managed (env : RoomEnv) (r : TetrisRoom) : TetrisRoom → Prop
  | quiet {r' : TetrisRoom} (h : Aside r r') (hhost : r'.hostId = r.hostId)
      (hnews : ∀ key, news key r'.out = news key r.out) : Managed env r r'
  /-- A free slot has its game cleared once more. -/
  | refused (i : Nat) {p : Player} (now : Int) {r' : TetrisRoom} (hp : r.roomPlayers[i]? = some p)
      (hfree : p.hasSession = false) (h : Aside (r.modifyPlayer i (·.clearPlayer now)) r')
      (hhost : r'.hostId = r.hostId) (hnews : ∀ key, news key r'.out = news key r.out) :
      Managed env r r'
  | joined (i : Nat) {p : Player} {key : SessionKey} (nickname : String) (now : Int)
      {r' : TetrisRoom}
      (hwait : r.roomState = .wait) (hp : r.roomPlayers[i]? = some p)
      (hfree : p.hasSession = false)
      (hnew : ∀ q ∈ r.roomPlayers, q.hasSession = true → q.sessionKey.playerId ≠ key.playerId)
      (h : Aside ({ r with currentPlayerCount := r.currentPlayerCount + 1 }.modifyPlayer i
        (joinedSlot · key now)) r') (hhost : r'.hostId = r.hostId)
      (hwelcome : news key r'.out = news key r.out ++ welcome r env)
      (hnews : ∀ q ∈ r.roomPlayers, q.isActive = true → news q.sessionKey r'.out =
        news q.sessionKey r.out ++ [.addPlayer key.playerId nickname]) : Managed env r r'
  | left (i : Nat) {p : Player} {r' : TetrisRoom} (hp : r.roomPlayers[i]? = some p)
      (ha : p.isActive = true) (h : Left r i p r') : Managed env r r'
  | toggled (i : Nat) {p : Player} {r' : TetrisRoom} (hp : r.roomPlayers[i]? = some p)
      (ha : p.isActive = true) (hguest : p.sessionKey.playerId ≠ r.hostId)
      (h : Aside (r.modifyPlayer i fun p =>
        { p with roomPlayerState := (MultiRoom.toggled p.roomPlayerState).1 }) r')
      (hhost : r'.hostId = r.hostId)
      (hnews : ∀ q ∈ r.roomPlayers, q.isActive = true → news q.sessionKey r'.out =
        news q.sessionKey r.out ++
          [.ready p.sessionKey.playerId (MultiRoom.toggled p.roomPlayerState).2]) :
          Managed env r r'
  | started (type : TetrominoType) {r' : TetrisRoom} (h : Started env r r' type)
      (hready : ∀ p ∈ r.roomPlayers, p.isActive = true → p.sessionKey.playerId ≠ r.hostId →
        p.roomPlayerState = .ready)
      (hnews : ∀ key, news key r'.out = news key r.out) : Managed env r r'

/-- An effect that brings nobody news of the room. -/
theorem Managed.emit (r : TetrisRoom) {env : RoomEnv} {e : RoomEffect} (hquiet : e.Quiet)
    (he : ∀ key, news key [e] = []) : Managed env r (r.emit e) :=
  .quiet (.emit r hquiet) rfl fun key => by rw [news_emit, he, List.append_nil]

theorem Managed.refl (r : TetrisRoom) {env : RoomEnv} : Managed env r r :=
  .quiet (.refl r) rfl fun _ => rfl

theorem joined_managed {r : TetrisRoom} {env : RoomEnv} {event : RoomEvent} {v : SessionView}
    {key : SessionKey} (h : RoomOk r) (hserves : env.Serves r event)
    (hsender : event.sender = some key) (hv : env.findSession key = some v)
    (hlife : v.lifeState = .active) (hmode : v.modeState = .lobby) (roomPassword : String)
    {e : RoomEffect} (hquiet : e.Quiet) (he : ∀ key, news key [e] = []) :
    Managed env r
      ((if (MultiRoom.addPlayer r env v key roomPassword).2 = success then
        (MultiRoom.addPlayer r env v key roomPassword).1.activatePlayer key
      else (MultiRoom.addPlayer r env v key roomPassword).1).emit e) := by
  have hs := h.seated hserves
  have hadmission := @addPlayer_admission r env v key hlife hmode roomPassword
  generalize MultiRoom.addPlayer r env v key roomPassword = added at hadmission ⊢
  cases hadmission with
  | refused hcode =>
      rw [if_neg hcode]
      exact .emit r hquiet he
  | givenBack i hp hfree =>
      rw [if_neg (show ¬ invalidRequest = success by decide)]
      refine .refused i (env.now key) hp hfree (.emit _ hquiet) rfl fun k => ?_
      rw [news_emit, he, List.append_nil]
      rfl
  | @admitted i p hwait hp hfree hnone =>
      have hidle : p.isActive = false :=
        (h.slots p (List.mem_of_getElem? hp)).hasSession.symm.trans hfree
      have hnew := account_new hserves hsender (by rw [hv]; rfl) hnone
      have haside := aside_announceJoin (r.seatIn i p key (env.now key)) env i v key
      obtain ⟨hwelcome, hnews⟩ := @announceJoin_news r env i p key v (env.now key) hs hp hidle
        fun q hq ha hkey => hnew q hq ((h.slots q hq).hasSession.trans ha) (by rw [hkey])
      rw [if_pos rfl]
      dsimp only
      rw [activatePlayer_admitted hnone hp haside.players]
      have hid : v.playerId = key.playerId := hserves.account key hsender v hv
      refine @Managed.joined env r i p key v.nickname (env.now key) _ hwait hp hfree
        hnew ?_ ?_ ?_ ?_
      · exact (aside_admitted (p := p) env i v key (env.now key)).trans (.emit _ hquiet)
      · show (MultiRoom.announceJoin (r.seatIn i p key (env.now key)) env i v key).hostId =
          r.hostId
        unfold MultiRoom.announceJoin
        dsimp only
        rw [foldl_emit, foldl_emit]
        rfl
      · rw [news_emit, he, List.append_nil]
        exact hwelcome
      · intro q hq ha
        rw [news_emit, he, List.append_nil, ← hid]
        exact hnews q hq ha

theorem requestLobbyTransition_managed {r : TetrisRoom} {env : RoomEnv} (h : RoomOk r)
    (hs : Seated env r.roomPlayers) (key : SessionKey) (exitType : RoomExitType) :
    Managed env r (MultiRoom.requestLobbyTransition r env key exitType) := by
  unfold MultiRoom.requestLobbyTransition
  cases hfind : r.findPlayer key with
  | none => exact .refl r
  | some i =>
      obtain ⟨p, hp, hkey⟩ := findPlayer_slot hfind
      have ha : p.isActive = true :=
        (h.slots p (List.mem_of_getElem? hp)).hasSession.symm.trans (hasSession_of_matches hkey)
      dsimp only
      rw [hp]
      dsimp only
      unfold Player.trySetPending
      split
      · let r₁ := r.modifyPlayer i fun _ => { p with activeState := .pending }
        have hp₁ : r₁.roomPlayers[i]? = some { p with activeState := .pending } := by
          rw [modifyPlayer_getElem?, hp, Option.map_some, if_pos rfl]
        have hfind₁ : r₁.findPlayer key = some i := by
          rw [findPlayer_modify, hfind]
          rintro q hq
          rw [hp] at hq
          injection hq with hq
          subst hq
          rename_i hactive
          simp [Player.matchesSessionKey, Player.hasSession, hactive.2]
        have hkept : ∀ (k : Nat) (q : Player), r₁.roomPlayers[k]? = some q → q.isActive = true →
            r.roomPlayers[k]? = some q := by
          intro k q hq hqa
          rw [modifyPlayer_getElem?] at hq
          obtain ⟨x, hx, hxq⟩ := Option.map_eq_some_iff.mp hq
          split at hxq
          · rw [← hxq] at hqa
            exact absurd hqa (by simp [Player.isActive])
          · rw [hx, hxq]
        have hs₁ : Seated env r₁.roomPlayers := by
          refine ⟨fun q hq hqa => ?_, fun j k x y hx hy hxa hya => ?_⟩
          · obtain ⟨k, hk⟩ := List.mem_iff_getElem?.mp hq
            exact hs.found q (List.mem_of_getElem? (hkept k q hk hqa)) hqa
          · exact hs.distinct j k x y (hkept j x hx hxa) (hkept k y hy hya) hxa hya
        refine .left i hp ha
          (Left.of_pending hp (Left.emit (completePlayerRemoval_left exitType hs₁
          hfind₁ hp₁ fun j x hnext => ?_) (by trivial) fun _ => rfl))
        refine h.count_of_next hp ha
          (⟨hkept j x hnext.slot hnext.active, hnext.active, hnext.other,
          fun k q hk hki hq => ?_⟩ : NextHost r i j x)
        refine hnext.first k q hk hki ?_
        rw [modifyPlayer_getElem?, hq, Option.map_some, if_neg (Ne.symm hki)]
      · exact .refl r

theorem removal_managed {r : TetrisRoom} {env : RoomEnv} (h : RoomOk r)
    (hs : Seated env r.roomPlayers) (key : SessionKey) (exitType : RoomExitType) :
    Managed env r (MultiRoom.completePlayerRemoval r env key exitType) := by
  cases hfind : r.findPlayer key with
  | none =>
      unfold MultiRoom.completePlayerRemoval
      rw [hfind]
      exact .refl r
  | some i =>
      obtain ⟨p, hp, hkey⟩ := findPlayer_slot hfind
      have ha : p.isActive = true :=
        (h.slots p (List.mem_of_getElem? hp)).hasSession.symm.trans (hasSession_of_matches hkey)
      exact .left i hp ha (completePlayerRemoval_left exitType hs hfind hp fun j x hnext =>
        h.count_of_next hp ha hnext)

theorem removePlayer_managed {r : TetrisRoom} {env : RoomEnv} (h : RoomOk r)
    (hs : Seated env r.roomPlayers) (key : SessionKey) :
    Managed env r (MultiRoom.removePlayer r env key) := by
  unfold MultiRoom.removePlayer
  split
  · split
    · exact requestLobbyTransition_managed h hs key .leave
    · exact removal_managed h hs key .leave
  · exact removal_managed h hs key .leave

theorem togglePlayerReady_managed {r : TetrisRoom} {env : RoomEnv} (hs : Seated env r.roomPlayers)
    (playerId : Int) : Managed env r (MultiRoom.togglePlayerReady r env playerId) := by
  unfold MultiRoom.togglePlayerReady
  split
  · exact .refl r
  rename_i hhost
  split
  · exact .refl r
  rename_i i hfind
  obtain ⟨hlt, hany, _⟩ := List.findIdx?_eq_some_iff_getElem.mp hfind
  have hp := List.getElem?_eq_getElem hlt
  generalize hpi : r.roomPlayers[i] = p at hany hp
  have hmem := List.mem_of_getElem? hp
  have ha : p.isActive = true := by
    rw [← hs.isSome hmem]
    cases hf : findSession env p with
    | none => rw [hf] at hany; exact absurd hany (by simp)
    | some v => rfl
  obtain ⟨v, hv, hid⟩ := hs.findSession hmem ha
  have hplayer : p.sessionKey.playerId = playerId := by
    rw [hv] at hany
    rw [← hid]
    simpa using hany
  rw [hp]
  dsimp only [Option.map_some, Option.getD_some]
  rw [← hplayer]
  have hseats : SameSeats r.roomPlayers (r.modifyPlayer i fun p =>
      { p with roomPlayerState := (MultiRoom.toggled p.roomPlayerState).1 }).roomPlayers :=
    sameSeats_modifyPlayer r i fun _ => rfl
  refine .toggled i hp ha (fun hc => hhost (hc.symm.trans hplayer)) (.broadcast _ env _ rfl) rfl
    fun q hq hqa => ?_
  rw [news_broadcast (hs.of_sameSeats hseats) _ rfl,
    targets_congr (r := r) env (map_seat_of_sameSeats hseats), if_pos (mem_targets hs hq hqa)]
  rfl

theorem kickPlayer_managed {r : TetrisRoom} {env : RoomEnv} (h : RoomOk r)
    (hs : Seated env r.roomPlayers) (requesterId kickPlayerId : Int) :
    Managed env r (MultiRoom.kickPlayer r env requesterId kickPlayerId).1 := by
  unfold MultiRoom.kickPlayer
  split
  · exact .refl r
  split
  · exact .refl r
  split
  · exact .refl r
  split
  · exact .refl r
  split
  · exact .refl r
  split
  · exact .refl r
  · exact requestLobbyTransition_managed h hs _ .kick

/-- Nothing is left out of a part that counts as much as the whole. -/
theorem of_countP_eq {α : Type} {f g : α → Bool} : ∀ {l : List α},
    (∀ a ∈ l, f a = true → g a = true) → l.countP f = l.countP g →
      ∀ a ∈ l, g a = true → f a = true
  | [], _, _, a, ha, _ => absurd ha List.not_mem_nil
  | b :: rest, hsub, hcount, a, ha, hga => by
      have hrest : ∀ x ∈ rest, f x = true → g x = true :=
        fun x hx => hsub x (List.mem_cons_of_mem b hx)
      have hle := List.countP_mono_left hrest
      have hb : f b = true → g b = true := hsub b List.mem_cons_self
      rw [List.countP_cons, List.countP_cons] at hcount
      have hsame : rest.countP f = rest.countP g ∧ (g b = true → f b = true) := by
        cases hfb : f b <;> cases hgb : g b <;> simp [hfb, hgb] at hcount hb ⊢ <;> omega
      rcases List.mem_cons.mp ha with rfl | ha
      · exact hsame.2 hga
      · exact of_countP_eq hrest hsame.1 a ha hga

/-- In a room everybody is ready in, everybody but the host is in `READY`. -/
theorem ready_of_startResult {r : TetrisRoom} {env : RoomEnv} (h : RoomOk r)
    (hs : Seated env r.roomPlayers) (hall : MultiRoom.startResult r env = success) :
    ∀ p ∈ r.roomPlayers, p.isActive = true → p.sessionKey.playerId ≠ r.hostId →
      p.roomPlayerState = .ready := by
  intro p hp ha hguest
  have hcount : MultiRoom.readyPlayerCount r env = r.roomPlayers.countP (·.isActive) := by
    unfold MultiRoom.startResult at hall
    split at hall
    · rename_i heq
      rw [h.count] at heq
      exact Int.ofNat.inj heq
    · exact absurd hall (by decide)
  let f (p : Player) : Bool :=
    (findSession env p).any fun v => v.playerId = r.hostId || p.roomPlayerState = .ready
  have hsub : ∀ q ∈ r.roomPlayers, f q = true → q.isActive = true := by
    intro q hq hf
    rw [← hs.isSome hq]
    cases hfind : findSession env q with
    | none => simp only [f, hfind] at hf; exact absurd hf (by simp)
    | some v => rfl
  have hready : f p = true := by
    refine of_countP_eq hsub ?_ p hp ha
    rw [← hcount, MultiRoom.readyPlayerCount, List.countP_eq_length_filter]
  obtain ⟨v, hv, hid⟩ := hs.findSession hp ha
  simp only [f, hv, Option.any_some, Bool.or_eq_true, decide_eq_true_eq] at hready
  exact hready.resolve_left fun hc => hguest (hid.symm.trans hc)

theorem startGame_managed {r : TetrisRoom} {env : RoomEnv} (h : RoomOk r)
    (hs : Seated env r.roomPlayers) (requesterId : Int) :
    Ok (MultiRoom.startGame r env requesterId) (Managed env r) := by
  refine (startGame_outcome h hs requesterId).mono fun r' hr' => ?_
  cases hr' with
  | ignored => exact .refl r
  | refused key errorCode =>
      refine .emit r (quiet_send rfl) fun k => ?_
      rw [news_send, if_neg (by simp [S2CPacket.isRoomNews])]
  | started type hall hstart =>
      refine .started type hstart (ready_of_startResult h hs hall) fun key => ?_
      obtain ⟨first, next, out, hfirst, _, hlog, hgot⟩ := hstart.packets
      rw [hlog, news_append]
      have hnone : news key out = [] := by
        rw [news, hgot]
        split
        · rw [startPackets, List.filter_cons_of_neg (by rw [hfirst.2]; decide), List.filter_map]
          simp [Function.comp_def, S2CPacket.isRoomNews]
        · rfl
      rw [hnone, List.append_nil]

/-- **Whatever a room for several players is asked to do, it does one of these things.** -/
theorem tryProcessRoomTask_managed {r : TetrisRoom} {env : RoomEnv} (h : RoomOk r)
    (hkind : r.kind ≠ .single) (task : RoomTask) (hserves : env.Serves r (.task task)) :
    Ok (r.tryProcessRoomTask env task) fun res => Managed env r res.1 := by
  have hs := h.seated hserves
  have hremove : Managed env r (r.removePlayer env task.sessionKey) := by
    unfold TetrisRoom.removePlayer
    split
    · rename_i hsingle
      exact absurd hsingle hkind
    · exact removePlayer_managed h hs _
  unfold tryProcessRoomTask
  split
  · -- a session that wants to join is answered in any case
    refine .pure ?_
    unfold tryProcessJoinTask
    split
    · exact .emit r (by trivial) fun _ => rfl
    rename_i v hv
    split
    · exact .refl r
    dsimp only
    by_cases hlobby : v.lifeState = .active ∧ v.modeState = .lobby
    · rw [if_pos hlobby]
      unfold addPlayer
      split
      · rename_i hsingle
        exact absurd hsingle hkind
      · exact joined_managed h hserves rfl hv hlobby.1 hlobby.2 _ (by trivial) fun _ => rfl
    · rw [if_neg hlobby]
      exact .emit r (by trivial) fun _ => rfl
  split
  · refine .pure ?_
    dsimp only
    split
    · exact hremove
    · exact .refl r
  · split
    · exact .pure (.refl r)
    split
    · exact .pure hremove
    split
    · exact .pure (.refl r)
    split
    · exact .pure (.refl r)
    split
    · exact .pure (.refl r)
    · unfold processSpecificRoomTask
      split
      · rename_i hsingle
        exact absurd hsingle hkind
      unfold MultiRoom.processSpecificRoomTask
      split
      · refine .pure ?_
        dsimp only
        split
        · exact togglePlayerReady_managed hs _
        · exact .refl r
      · refine .pure ?_
        split
        · exact kickPlayer_managed h hs _ _
        · exact .refl r
      · split
        · exact (startGame_managed h hs _).bind fun r' hr' => .pure hr'
        · exact .pure (.refl r)
      · exact .pure (.refl r)

/-- What one event does to a room for several players. -/
inductive MultiStep (env : RoomEnv) (r : TetrisRoom) : RoomEvent → TetrisRoom → Prop
  | managed {e : RoomEvent} {r' : TetrisRoom} (hidle : ∀ t, e = .tick t → r.roomState ≠ .play)
      (h : Managed env { r with out := [] } r') : MultiStep env r e r'
  | ticked {t : Int} {r' : TetrisRoom} (qs ss : List Player) (hplay : r.roomState = .play)
      (hjudged : SlotWise (MultiRoom.Judged t) r.roomPlayers qs)
      (h : MultiTick env t { r with out := [] } qs ss r') : MultiStep env r (.tick t) r'

theorem multiStep_of_step {r r' : TetrisRoom} {env : RoomEnv} {e : RoomEvent} (h : RoomOk r)
    (hserves : env.Serves r e) (hkind : r.kind ≠ .single) (hstep : r.step env e = some r') :
    MultiStep env r e r' := by
  have h₀ := roomOk_silent h
  have hserves₀ : env.Serves { r with out := [] } e := hserves.of_players rfl
  have hstepped := (step_ok h hserves).of_eq_some hstep
  cases hstepped with
  | multi qs ss _ hplay _ hjudged htick => exact .ticked qs ss hplay hjudged htick
  | single hsingle => exact absurd hsingle hkind
  | handled hidle _ =>
      refine .managed hidle ?_
      unfold step handle at hstep
      cases e with
      | task task =>
          have hres := (tryProcessRoomTask_managed h₀ hkind task hserves₀)
          obtain ⟨res, heq, hres⟩ := hres
          dsimp only at hstep
          rw [heq] at hstep
          exact Option.some.inj hstep ▸ hres
      | leavePacket key =>
          have hleave : Managed env { r with out := [] }
              (TetrisRoom.requestLobbyTransition { r with out := [] } env key) := by
            unfold TetrisRoom.requestLobbyTransition
            split
            · rename_i hsingle
              exact absurd hsingle hkind
            · exact requestLobbyTransition_managed h₀ (h₀.seated hserves₀) key .leave
          exact Option.some.inj hstep ▸ hleave
      | input task =>
          rw [← Option.some.inj hstep]
          exact .quiet ⟨rfl, rfl, rfl, rfl, rfl, rfl, id⟩ rfl fun _ => rfl
      | tick t =>
          dsimp only at hstep
          unfold processRoomTick at hstep
          rw [if_pos (hidle t rfl)] at hstep
          rw [← Option.some.inj hstep]
          exact .quiet ⟨rfl, rfl, rfl, rfl, rfl, rfl, id⟩ rfl fun _ => rfl

end TetrisRoom

end ProjectTetris

import ProjectTetris.Rooms.GameEnd
import ProjectTetris.Rooms.Membership

/-!
# What can be known about a room

The packets about the members of a room, read as changes of a picture: who is in, whose
room it is, who is ready. `RoomView.Of` says that a picture is right, and every event of
a room sends each of its players just the packets that keep his picture right, with two
exceptions: nobody is told who was ready before he came, and a game that ends with
nobody in it ends without a word.
-/

namespace ProjectTetris

open Checked Slots

/-- A picture of the members of a room. -/
structure RoomView where
  member : Int → Prop
  /-- How many they are. -/
  count : Int
  host : Option Int
  ready : Int → Prop

namespace RoomView

/-- Somebody who has just been let into a room knows of himself. -/
def arrival (self : Int) : RoomView where
  member := fun x => x = self
  count := 1
  host := none
  ready := fun _ => False

/-- What a packet says about the members. -/
def apply (v : RoomView) : S2CPacket → RoomView
  | .addPlayer id _ => { v with member := fun x => x = id ∨ v.member x, count := v.count + 1 }
  | .removePlayer id =>
      { member := fun x => x ≠ id ∧ v.member x
        count := v.count - 1
        host := if v.host = some id then none else v.host
        ready := fun x => x ≠ id ∧ v.ready x }
  | .updateHost id => { v with host := some id, ready := fun x => x ≠ id ∧ v.ready x }
  | .ready id isReady => { v with ready := fun x => if x = id then isReady = true else v.ready x }
  | .gameEnd _ => { v with ready := fun _ => False }
  | _ => v

def applyAll (v : RoomView) (packets : List S2CPacket) : RoomView := packets.foldl apply v

/-- The picture shows the room as it is; who is ready matters between games only. -/
structure Of (v : RoomView) (r : TetrisRoom) : Prop where
  member : ∀ id, v.member id ↔ ∃ p ∈ r.roomPlayers, p.isActive = true ∧ p.sessionKey.playerId = id
  count : v.count = r.currentPlayerCount
  host : v.host = some r.hostId
  ready : r.roomState = .wait → ∀ id, v.ready id ↔
    ∃ p ∈ r.roomPlayers, p.isActive = true ∧ p.sessionKey.playerId = id ∧
    p.roomPlayerState = .ready

/-- Packets that make sense to the player `self`, with this picture of a room of so many slots. -/
def Sensible (self : Int) (slots : Nat) (v : RoomView) : S2CPacket → Prop
  | .addPlayer id _ => ¬ v.member id ∧ v.count < slots
  | .removePlayer id => v.member id ∧ id ≠ self
  | .updateHost id => v.member id ∧ v.host = none
  | .ready id _ => v.member id ∧ v.host ≠ some id
  | _ => True

/-- The same of several packets, one after the other. -/
def SensibleAll (self : Int) (slots : Nat) : RoomView → List S2CPacket → Prop
  | _, [] => True
  | v, packet :: rest =>
      v.Sensible self slots packet ∧ SensibleAll self slots (v.apply packet) rest

theorem applyAll_append (v : RoomView) (l₁ l₂ : List S2CPacket) :
    v.applyAll (l₁ ++ l₂) = (v.applyAll l₁).applyAll l₂ := List.foldl_append

theorem sensibleAll_append {self : Int} {slots : Nat} : ∀ (l₁ l₂ : List S2CPacket) (v : RoomView),
    v.SensibleAll self slots (l₁ ++ l₂) ↔
      v.SensibleAll self slots l₁ ∧ (v.applyAll l₁).SensibleAll self slots l₂
  | [], l₂, v => by simp [SensibleAll, applyAll]
  | packet :: l₁, l₂, v => by
      show _ ∧ SensibleAll self slots _ (l₁ ++ l₂) ↔ (_ ∧ _) ∧ _
      rw [sensibleAll_append l₁ l₂, and_assoc]
      rfl

end RoomView

namespace TetrisRoom

/-! ## Ticks -/

/-- What a tick says about a player is no news of the members, but for the end of a game. -/
theorem tickPacket_news {l : List TetrominoType} {p : Player} {id : Int} {task : TaskType}
    {packet : S2CPacket} (h : tickPacket l p id task = some packet) :
    packet.isRoomNews = packet.isGameEnd := by
  unfold tickPacket at h
  split at h
  · rw [← Option.some.inj h]; rfl
  · rw [← Option.some.inj h]; rfl
  · rw [← Option.some.inj h]; rfl
  · obtain ⟨type, _, h⟩ := Option.bind_eq_some_iff.mp h
    obtain ⟨next, _, h⟩ := Option.bind_eq_some_iff.mp h
    rw [← Option.some.inj h]; rfl
  · rw [← Option.some.inj h]; rfl
  · rw [← Option.some.inj h]; rfl
  · rw [← Option.some.inj h]; rfl

theorem delivered_news {l : List TetrominoType} {q s : Player} (h : Delivered l q s)
    (hbuffer : q.sendBuffer = []) :
    ∀ packet ∈ s.sendBuffer, packet.isRoomNews = packet.isGameEnd := by
  have hengine : ∀ {p : Player} {id : Int} {tasks : List TaskType},
      ∀ packet ∈ enginePackets p id tasks, packet.isRoomNews = packet.isGameEnd := by
    intro p id tasks packet hp
    obtain ⟨task, _, htask⟩ := List.mem_filterMap.mp hp
    exact tickPacket_news htask
  intro packet hpacket
  rcases h with ⟨_, happ⟩ | ⟨_, rfl⟩
  · cases happ with
    | plain _ =>
        rcases List.mem_append.mp hpacket with hp | hp
        · rw [hbuffer] at hp
          exact absurd hp List.not_mem_nil
        · exact hengine packet hp
    | respawned engine _ _ type next _ _ =>
        rcases List.mem_append.mp hpacket with hp | hp
        · rcases List.mem_append.mp hp with hp | hp
          · rw [hbuffer] at hp
            exact absurd hp List.not_mem_nil
          · exact hengine packet hp
        · rw [List.mem_singleton.mp hp]
          rfl
  · rw [hbuffer] at hpacket
    exact absurd hpacket List.not_mem_nil

/-- **News of a tick are announcements of the end of the game.** -/
theorem news_tick {env : RoomEnv} {t : Int} {r r' : TetrisRoom} {extra : Player → List TaskType}
    {qs ss : List Player} (h : RoomOk r) (hr : TickRun env t r extra qs ss r') (key : SessionKey) :
    news key r'.out = (received key r'.out).filter S2CPacket.isGameEnd := by
  rw [news, hr.packets]
  split
  · refine List.filter_congr fun packet hpacket => ?_
    obtain ⟨s, hs, hpacket⟩ := List.mem_flatMap.mp hpacket
    obtain ⟨q, hq, hqs⟩ := hr.delivered.mem (List.mem_filter.mp hs).1
    obtain ⟨p, hp, hpq⟩ := hr.ticked.mem hq
    refine delivered_news hqs ?_ packet hpacket
    show q.sendBuffer = []
    rw [hpq.rest]
    exact (h.slots p hp).buffer
  · rfl

/-- A slot that has been given no end of a game announces none. -/
theorem silent_slot {t : Int} {n : Nat} {p q s : Player} {l : List TetrominoType}
    (hp : SlotOk True n p) (h : Ticked t tickBudget p q)
    (hs : Delivered l (addTasks q (spawnTasks q)) s) (ha : s.isActive = true) :
    s.sendBuffer.filter S2CPacket.isGameEnd = [] := by
  have hqa : q.isActive = true := (isActive_of_seat hs.seat).symm.trans ha
  have hbuffer : q.sendBuffer = [] := by rw [h.rest]; exact hp.buffer
  have hengine := (h.log (h.isActive.symm.trans hqa)).engine
  have htasks : ∀ task ∈ (addTasks q (spawnTasks q)).tetris.sendTasks, task ≠ .spawn →
      task.isEngine = true := by
    intro task htask hno
    rcases List.mem_append.mp htask with htask | htask
    · exact hengine task htask
    · unfold spawnTasks at htask
      split at htask
      · exact absurd (List.mem_singleton.mp htask) hno
      · exact absurd htask List.not_mem_nil
  rcases hs with ⟨_, happ⟩ | ⟨_, rfl⟩
  · cases happ with
    | plain hno =>
        show (q.sendBuffer ++ enginePackets _ _ _).filter _ = []
        rw [hbuffer, List.nil_append]
        exact filter_enginePackets _ _ fun task htask => htasks task htask (hno task htask)
    | respawned engine hlast hno type next _ _ =>
        show (q.sendBuffer ++ enginePackets _ _ engine ++ [_]).filter _ = []
        rw [hbuffer, List.nil_append, List.filter_append,
          filter_enginePackets _ _ fun task htask =>
          htasks task (by rw [hlast]; exact List.mem_append_left _ htask) (hno task htask)]
        rfl
  · show q.sendBuffer.filter _ = []
    rw [hbuffer]
    rfl

/-- **A tick the game goes on after brings no news.** -/
theorem news_goesOn {env : RoomEnv} {t : Int} {r r' : TetrisRoom} {qs ss : List Player}
    (h : RoomOk r) (hplay : r.roomState = .play) (hr : TickRun env t r spawnTasks qs ss r')
    (key : SessionKey) :
    news key r'.out = [] := by
  rw [news_tick h hr, hr.packets]
  split
  · rw [filter_buffers, List.flatten_eq_nil_iff]
    intro l hl
    obtain ⟨s, hs, rfl⟩ := List.mem_map.mp hl
    split
    · rename_i ha
      obtain ⟨q, hq, hqs⟩ := hr.delivered.mem hs
      obtain ⟨p, hp, hpq⟩ := hr.ticked.mem hq
      exact silent_slot (h.playing hplay p hp) hpq hqs ha
    · rfl
  · rfl

/-- **A tick that ends a game says so**, if somebody was in the game when it began. -/
theorem news_ends {env : RoomEnv} {t : Int} {r r₁ r' : TetrisRoom} {qs ss : List Player} {id : Int}
    (h : RoomOk r) (hs : Seated env r.roomPlayers) (hplay : r.roomState = .play)
    (hid : MultiRoom.newWinnerId { r with roomPlayers := qs } env = id) (hne : id ≠ -1)
    (hr : TickRun env t r (endTasks id) qs ss r₁) (hend : Ended env r₁ r') {key : SessionKey}
    (hkey : key ∈ r.targets env) :
    (news key r'.out = [.gameEnd id] ∨ news key r'.out = []) ∧
      ((∃ p ∈ r.roomPlayers, p.isActive = true ∧ p.roomPlayerState = .play) →
        news key r'.out = [.gameEnd id]) := by
  obtain ⟨out, hout, rfl⟩ := hend
  have hsq : Seated env qs := hs.of_sameSeats (hr.ticked.sameSeats fun _ _ hpq => hpq.seat)
  have hnews : news key (r₁.out ++ out) =
      List.replicate (qs.filter fun q => decide (playing q)).length (.gameEnd id) := by
    rw [news_append, show news key out = [] by rw [news, hout]; rfl, List.append_nil,
      news_tick h hr,
      received_gameEnd h hs hplay hr hkey, survivors_eq (r := { r with roomPlayers := qs }) hsq]
  have hle := (survivors_of_winner (hid ▸ hne)).1
  rw [survivors_eq (r := { r with roomPlayers := qs }) hsq] at hle
  dsimp only at hle ⊢
  rw [hnews]
  refine ⟨?_, fun hsome => ?_⟩
  · rcases Nat.le_one_iff_eq_zero_or_eq_one.mp hle with hzero | hone
    · rw [hzero]; exact .inr rfl
    · rw [hone]; exact .inl rfl
  · obtain ⟨p, hp, ha, hstate⟩ := hsome
    obtain ⟨i, hi⟩ := List.mem_iff_getElem?.mp hp
    obtain ⟨q, hq, hpq⟩ := hr.ticked.2 i p hi
    have hmem : q ∈ qs.filter fun q => decide (playing q) := by
      refine List.mem_filter.mpr ⟨List.mem_of_getElem? hq, decide_eq_true ⟨?_, ?_⟩⟩
      · exact hpq.roomPlayerState.trans hstate
      · exact hpq.isActive.trans ha
    have hpos := List.length_pos_of_mem hmem
    rw [show (qs.filter fun q => decide (playing q)).length = 1 by omega]
    rfl

theorem news_ticked {env : RoomEnv} {t : Int} {r r' : TetrisRoom} {qs ss : List Player}
    (h : RoomOk r) (ht : MultiTick env t r qs ss r') (key : SessionKey) :
    ∀ packet ∈ news key r'.out, packet.isGameEnd = true := by
  have hrun : ∀ {extra r₁}, TickRun env t r extra qs ss r₁ →
      ∀ packet ∈ news key r₁.out, packet.isGameEnd = true := by
    intro extra r₁ hrun packet hpacket
    rw [news_tick h hrun] at hpacket
    exact (List.mem_filter.mp hpacket).2
  cases ht with
  | goesOn _ hgoes => exact hrun hgoes
  | ends id _ _ hends _ hend =>
      obtain ⟨out, hout, rfl⟩ := hend
      intro packet hpacket
      rw [news_append, show news key out = [] by rw [news, hout]; rfl, List.append_nil] at hpacket
      exact hrun hends packet hpacket

/-! ## Keeping a picture right -/

/-- A room with a free slot is not full. -/
theorem RoomOk.count_lt {r : TetrisRoom} {i : Nat} {p : Player} (h : RoomOk r)
    (hp : r.roomPlayers[i]? = some p) (hidle : p.isActive = false) :
    r.currentPlayerCount < r.kind.slotCount := by
  have hne : r.roomPlayers.countP (·.isActive) ≠ r.roomPlayers.length := by
    intro hall
    have ha := List.countP_eq_length.mp hall p (List.mem_of_getElem? hp)
    rw [hidle] at ha
    exact Bool.noConfusion ha
  have hle := @List.countP_le_length _ (·.isActive) r.roomPlayers
  rw [h.count, ← h.length]
  omega

/-- A slot nobody sits in before or after makes no difference. -/
theorem somebody_of_idle {ps : List Player} {i : Nat} {p : Player} {f : Player → Player}
    (hp : ps[i]? = some p) (hidle : p.isActive = false) (hidle' : (f p).isActive = false)
    (Q : Player → Prop) : (∃ x ∈ ps.modify i f, x.isActive = true ∧ Q x) ↔
      ∃ x ∈ ps, x.isActive = true ∧ Q x := by
  rw [exists_modify_iff hp, exists_mem_iff hp, hidle, hidle']
  simp

/-- Who is in a room is a matter of its seats. -/
theorem somebody_of_seats {ps qs : List Player} (h : qs.map Player.seat = ps.map Player.seat)
    (id : Int) :
    (∃ x ∈ qs, x.isActive = true ∧ x.sessionKey.playerId = id) ↔
      ∃ x ∈ ps, x.isActive = true ∧ x.sessionKey.playerId = id := by
  have hseat : ∀ ps : List Player, (∃ x ∈ ps, x.isActive = true ∧ x.sessionKey.playerId = id) ↔
      ∃ s ∈ ps.map Player.seat, s.2 = .active ∧ s.1.playerId = id := by
    intro ps
    constructor
    · rintro ⟨x, hx, ha, hid⟩
      exact ⟨x.seat, List.mem_map_of_mem hx, of_decide_eq_true ha, hid⟩
    · rintro ⟨s, hs, ha, hid⟩
      obtain ⟨x, hx, rfl⟩ := List.mem_map.mp hs
      exact ⟨x, hx, decide_eq_true ha, hid⟩
  rw [hseat, hseat, h]

/-- The others, and whoever sits in the slot now. -/
theorem somebody_of_taken {ps : List Player} {i : Nat} {p : Player} {f : Player → Player}
    (hp : ps[i]? = some p) (hidle : p.isActive = false) (hactive : (f p).isActive = true)
    (Q : Player → Prop) : (∃ x ∈ ps.modify i f, x.isActive = true ∧ Q x) ↔
      (∃ x ∈ ps, x.isActive = true ∧ Q x) ∨ Q (f p) := by
  rw [exists_modify_iff hp, exists_mem_iff hp, hidle, hactive]
  simp

/-- **Whoever stays when somebody leaves is told what keeps his picture right.** -/
theorem view_left {r r' : TetrisRoom} {v : RoomView} {q p : Player} {i k : Nat} (hr : RoomOk r)
    (hv : v.Of r) (hp : r.roomPlayers[i]? = some p) (ha : p.isActive = true)
    (hleft : Left r i p r') (hk : k ≠ i) (hq : r.roomPlayers[k]? = some q)
    (hqa : q.isActive = true) :
    v.SensibleAll q.sessionKey.playerId r.kind.slotCount (.removePlayer p.sessionKey.playerId ::
        if p.sessionKey.playerId = r.hostId then [.updateHost r'.hostId] else []) ∧
      (v.applyAll (.removePlayer p.sessionKey.playerId ::
        if p.sessionKey.playerId = r.hostId then [.updateHost r'.hostId] else [])).Of r' := by
  have hremoved := hleft.removed
  -- the others are others
  have hother : ∀ (m : Nat) (x : Player), m ≠ i → r.roomPlayers[m]? = some x → x.isActive = true →
      x.sessionKey.playerId ≠ p.sessionKey.playerId := by
    intro m x hm hx hxa hid
    exact hm (hr.distinct m i x p hx hp hxa ha hid)
  have hmember : ∀ id, v.member id ↔
      Others r.roomPlayers i (fun x => x.isActive = true ∧ x.sessionKey.playerId = id) ∨
        p.sessionKey.playerId = id := by
    intro id
    rw [hv.member, exists_mem_iff hp, ha]
    simp
  have hcleared : ∀ Q : Player → Prop, (∃ x ∈ r'.roomPlayers, x.isActive = true ∧ Q x) ↔
      Others r'.roomPlayers i fun x => x.isActive = true ∧ Q x := by
    intro Q
    obtain ⟨now, hslot⟩ := hremoved.slot p hp
    rw [exists_mem_iff hslot]
    simp [Player.clearPlayer, Player.isActive]
  have hothers : ∀ id,
      Others r'.roomPlayers i (fun x => x.isActive = true ∧ x.sessionKey.playerId = id) ↔
      Others r.roomPlayers i fun x => x.isActive = true ∧ x.sessionKey.playerId = id := by
    intro id
    refine others_iff hremoved.length fun m x hm hx => ?_
    obtain ⟨x', hx', hrel⟩ := hremoved.others m x hm hx
    refine ⟨x', hx', ?_⟩
    rcases hrel with rfl | ⟨_, rfl⟩ <;> exact Iff.rfl
  have hleave : ∀ id, (id ≠ p.sessionKey.playerId ∧ v.member id) ↔
      ∃ x ∈ r'.roomPlayers, x.isActive = true ∧ x.sessionKey.playerId = id := by
    intro id
    rw [hcleared, hothers, hmember]
    constructor
    · rintro ⟨hne, hm⟩
      exact hm.resolve_right (Ne.symm hne)
    · intro hm
      obtain ⟨m, x, hmi, hx, hxa, hid⟩ := hm
      exact ⟨hid ▸ hother m x hmi hx hxa, .inl ⟨m, x, hmi, hx, hxa, hid⟩⟩
  have hstate : r'.roomState = .wait → r.roomState = .wait := by
    intro hwait
    rcases hremoved.state with ⟨_, hs⟩ | ⟨_, hs⟩
    · exact hs.symm.trans hwait
    · rw [hs] at hwait
      exact absurd hwait (by decide)
  have hready : r'.roomState = .wait → ∀ id, (id ≠ p.sessionKey.playerId ∧ v.ready id) ↔
      Others r.roomPlayers i fun x => x.isActive = true ∧ x.sessionKey.playerId = id ∧
        x.roomPlayerState = .ready := by
    intro hwait id
    rw [hv.ready (hstate hwait), exists_mem_iff hp]
    constructor
    · rintro ⟨hne, hm⟩
      exact hm.resolve_right fun hc => hne hc.2.1.symm
    · intro hm
      obtain ⟨m, x, hmi, hx, hxa, hid, hs⟩ := hm
      exact ⟨hid ▸ hother m x hmi hx hxa, .inl ⟨m, x, hmi, hx, hxa, hid, hs⟩⟩
  have hcount : v.count - 1 = r'.currentPlayerCount := by rw [hremoved.count, hv.count]
  have hknown : v.member p.sessionKey.playerId := (hmember _).mpr (.inr rfl)
  have hself : p.sessionKey.playerId ≠ q.sessionKey.playerId := Ne.symm (hother k q hk hq hqa)
  by_cases hid : p.sessionKey.playerId = r.hostId
  · -- the room goes over to the first of those who stay
    rw [if_pos hid]
    obtain ⟨j, x, hnext⟩ := exists_nextHost hk hq hqa
    obtain ⟨hhost, hslots⟩ := hleft.moves hid j x hnext
    have hnone : (if v.host = some p.sessionKey.playerId then none else v.host) = none := by
      rw [hv.host, hid, if_pos rfl]
    refine ⟨⟨⟨hknown, hself⟩, ⟨⟨?_, ?_⟩, hnone⟩, trivial⟩, hleave, hcount, rfl, fun hwait id => ?_⟩
    · rw [hhost]
      exact hother j x hnext.other hnext.slot hnext.active
    · rw [hhost]
      exact (hv.member _).mpr ⟨x, List.mem_of_getElem? hnext.slot, hnext.active, rfl⟩
    · show (id ≠ r'.hostId ∧ id ≠ p.sessionKey.playerId ∧ v.ready id) ↔ _
      rw [hready hwait, hcleared]
      have hwait : r.roomState = .wait := hstate hwait
      have hnew :
            Others r'.roomPlayers i (fun x => x.isActive = true ∧ x.sessionKey.playerId = id ∧
            x.roomPlayerState = .ready) ↔
          Others r.roomPlayers i fun x => (x.isActive = true ∧ x.sessionKey.playerId = id ∧
            x.roomPlayerState = .ready) ∧ id ≠ r'.hostId := by
        refine others_iff hremoved.length fun m y hm hy => ⟨_, hslots m y hm hy, ?_⟩
        split
        · rename_i hjm
          subst hjm
          rw [hnext.slot] at hy
          obtain rfl := Option.some.inj hy
          rw [hostSlot, if_pos hwait]
          exact ⟨fun hs => RoomPlayerState.noConfusion hs.2.2, fun hs =>
            absurd (hs.1.2.1.symm.trans hhost.symm) hs.2⟩
        · rename_i hjm
          refine ⟨fun hs => ⟨hs, fun hc => hjm ?_⟩, fun hs => hs.1⟩
          exact hr.distinct j m x y hnext.slot hy hnext.active hs.1
            (hhost.symm.trans (hc.symm.trans hs.2.1.symm))
      rw [hnew]
      constructor
      · rintro ⟨hne, m, y, hm, hy, hs⟩
        exact ⟨m, y, hm, hy, hs, hne⟩
      · rintro ⟨m, y, hm, hy, hs, hne⟩
        exact ⟨hne, m, y, hm, hy, hs⟩
  · rw [if_neg hid]
    obtain ⟨hhost, hslots⟩ := hleft.stays hid
    have hsome : (if v.host = some p.sessionKey.playerId then none else v.host) =
        some r'.hostId := by
      rw [hv.host, if_neg (fun hc => hid (Option.some.inj hc).symm), hhost]
    refine ⟨⟨⟨hknown, hself⟩, trivial⟩, hleave, hcount, hsome, fun hwait id => ?_⟩
    refine (hready hwait id).trans ?_
    rw [hcleared]
    exact (others_iff hremoved.length fun m x hm hx => ⟨x, hslots m x hm hx, Iff.rfl⟩).symm

/-- Whoever is still there sits in another slot than the one that was left. -/
theorem Left.other_slot {r r' : TetrisRoom} {q p : Player} {i k : Nat} (h : Left r i p r')
    (hr : RoomOk r) (hp : r.roomPlayers[i]? = some p) (ha : p.isActive = true)
    (hk : r.roomPlayers[k]? = some q)
    (hstays : ∃ q' ∈ r'.roomPlayers, q'.isActive = true ∧ q'.sessionKey = q.sessionKey) :
    k ≠ i := by
  rintro rfl
  rw [hp] at hk
  obtain rfl := Option.some.inj hk
  obtain ⟨x, hx, hxa, hkey⟩ := hstays
  obtain ⟨m, hm⟩ := List.mem_iff_getElem?.mp hx
  have hlt := (List.getElem?_eq_some_iff.mp hm).1
  rw [h.removed.length] at hlt
  have hold := List.getElem?_eq_getElem hlt
  by_cases hmk : m = k
  · subst hmk
    obtain ⟨now, hcleared⟩ := h.removed.slot _ hold
    rw [hm] at hcleared
    rw [Option.some.inj hcleared] at hxa
    exact absurd hxa (by simp [Player.clearPlayer, Player.isActive])
  · obtain ⟨y, hy, hrel⟩ := h.removed.others m _ hmk hold
    rw [hm] at hy
    refine hmk (hr.distinct m k _ p hold hp ?_ ha ?_)
    · rcases hrel with hrel | ⟨_, hrel⟩ <;> rw [Option.some.inj hy, hrel] at hxa <;> exact hxa
    · rcases hrel with hrel | ⟨_, hrel⟩ <;> rw [Option.some.inj hy, hrel] at hkey <;>
        exact congrArg SessionKey.playerId hkey

theorem toggled_ready (state : RoomPlayerState) :
    (MultiRoom.toggled state).2 = true ↔ (MultiRoom.toggled state).1 = .ready := by
  cases state <;> decide

/-- **An event outside ticks sends whoever stays what keeps his picture right.** -/
theorem view_managed {r r' : TetrisRoom} {env : RoomEnv} {v : RoomView} {q : Player}
    (hr : RoomOk r) (hout : r.out = []) (hm : Managed env r r') (hv : v.Of r)
    (hq : q ∈ r.roomPlayers) (hqa : q.isActive = true)
    (hstays : ∃ q' ∈ r'.roomPlayers, q'.isActive = true ∧ q'.sessionKey = q.sessionKey) :
    v.SensibleAll q.sessionKey.playerId r.kind.slotCount (news q.sessionKey r'.out) ∧
      (v.applyAll (news q.sessionKey r'.out)).Of r' := by
  have hsilent : news q.sessionKey r.out = [] := by rw [hout]; rfl
  cases hm with
  | quiet ha hhost hnews =>
      rw [hnews, hsilent]
      refine ⟨trivial, fun id => ?_, hv.count.trans ha.count.symm, hv.host.trans (by rw [hhost]),
        fun hwait id => ?_⟩
      · rw [ha.players]; exact hv.member id
      · rw [ha.players]; exact hv.ready (ha.state.symm.trans hwait) id
  | @refused i p now _ hp hfree ha hhost hnews =>
      have hidle : p.isActive = false :=
        (hr.slots p (List.mem_of_getElem? hp)).hasSession.symm.trans hfree
      rw [hnews, hsilent]
      refine ⟨trivial, fun id => ?_, hv.count.trans ha.count.symm, hv.host.trans (by rw [hhost]),
        fun hwait id => ?_⟩
      · rw [ha.players, modifyPlayer, somebody_of_idle hp hidle rfl]
        exact hv.member id
      · rw [ha.players, modifyPlayer, somebody_of_idle hp hidle rfl]
        exact hv.ready (ha.state.symm.trans hwait) id
  | @joined i p key nickname now _ hwait hp hfree hnew ha hhost _ hnews =>
      have hidle : p.isActive = false :=
        (hr.slots p (List.mem_of_getElem? hp)).hasSession.symm.trans hfree
      -- a newcomer with a player's number already there would be a second slot of his
      have hfresh : ¬ v.member key.playerId := by
        intro hc
        obtain ⟨x, hx, hxa, hid⟩ := (hv.member _).mp hc
        exact hnew x hx ((hr.slots x hx).hasSession.trans hxa) hid
      rw [hnews q hq hqa, hsilent]
      have hroom : v.count < r.kind.slotCount := by
        rw [hv.count]
        exact hr.count_lt hp hidle
      refine ⟨⟨⟨hfresh, hroom⟩, trivial⟩, fun id => ?_, ?_, hv.host.trans (by rw [hhost]),
        fun _ id => ?_⟩
      · rw [ha.players]
        show (id = key.playerId ∨ v.member id) ↔ ∃ x ∈ r.roomPlayers.modify i _, _
        rw [somebody_of_taken hp hidle rfl, ← hv.member id, or_comm]
        exact or_congr Iff.rfl eq_comm
      · show v.count + 1 = _
        rw [ha.count, hv.count]
        rfl
      · rw [ha.players]
        show v.ready id ↔ ∃ x ∈ r.roomPlayers.modify i _, _
        rw [somebody_of_taken hp hidle rfl, ← hv.ready hwait id]
        simp [joinedSlot, Player.resetGameData]
  | @left i p _ hp ha hleft =>
      obtain ⟨k, hk⟩ := List.mem_iff_getElem?.mp hq
      -- whoever stays sits in another slot than the one that is freed
      have hki := hleft.other_slot hr hp ha hk hstays
      rw [hleft.told k q hki hk hqa, hsilent]
      exact view_left hr hv hp ha hleft hki hk hqa
  | @toggled i p _ hp hactive hguest ha hhost hnews =>
      have hslot : r'.roomPlayers = r.roomPlayers.modify i fun p =>
        { p with roomPlayerState := (MultiRoom.toggled p.roomPlayerState).1 } := ha.players
      rw [hnews q hq hqa, hsilent]
      refine ⟨⟨⟨(hv.member _).mpr ⟨p, List.mem_of_getElem? hp, hactive, rfl⟩, ?_⟩, trivial⟩,
        fun id => ?_,
        hv.count.trans ha.count.symm, hv.host.trans (by rw [hhost]), fun hwait id => ?_⟩
      · rw [hv.host]
        exact fun hc => hguest (Option.some.inj hc).symm
      · rw [hslot, exists_modify_iff hp]
        refine (hv.member id).trans ?_
        rw [exists_mem_iff hp]
        exact Iff.rfl
      · have hwait : r.roomState = .wait := ha.state.symm.trans hwait
        rw [hslot, exists_modify_iff hp]
        show (if id = p.sessionKey.playerId then _ else v.ready id) ↔ _
        rw [hv.ready hwait, exists_mem_iff hp]
        split
        · rename_i hid
          -- nobody else has the number, so his slot decides
          have hnobody : ¬ Others r.roomPlayers i fun x =>
              x.isActive = true ∧ x.sessionKey.playerId = id ∧ x.roomPlayerState = .ready := by
            rintro ⟨k, x, hk, hx, hxa, hxid, _⟩
            exact hk (hr.distinct k i x p hx hp hxa hactive (hxid.trans hid))
          rw [toggled_ready]
          exact ⟨fun hs => .inr ⟨hactive, hid.symm, hs⟩, fun hs => (hs.resolve_left hnobody).2.2⟩
        · rename_i hid
          exact or_congr Iff.rfl ⟨fun hs => absurd hs.2.1.symm hid,
            fun hs => absurd hs.2.1.symm hid⟩
  | started type hs _ hnews =>
      rw [hnews, hsilent]
      refine ⟨trivial, fun id => ?_, hv.count.trans hs.count.symm, hv.host.trans (by rw [hs.host]),
        fun hwait => ?_⟩
      · rw [somebody_of_seats hs.seats]
        exact hv.member id
      · rw [hs.play] at hwait
        exact absurd hwait (by decide)

/-- **A tick keeps every picture right**, if the end of a game is announced or nobody seemed ready.
-/
theorem view_ticked {r r' : TetrisRoom} {env : RoomEnv} {t : Int} {qs ss : List Player}
    {v : RoomView}
    {q : Player} (hr : RoomOk r) (hs : Seated env r.roomPlayers) (hplay : r.roomState = .play)
    (ht : MultiTick env t r qs ss r') (hv : v.Of r) (hq : q ∈ r.roomPlayers)
    (hqa : q.isActive = true) (htold : r'.roomState = .wait →
      (∃ p ∈ r.roomPlayers, p.isActive = true ∧ p.roomPlayerState = .play) ∨ ∀ id, ¬ v.ready id) :
    v.SensibleAll q.sessionKey.playerId r.kind.slotCount (news q.sessionKey r'.out) ∧
      (v.applyAll (news q.sessionKey r'.out)).Of r' := by
  cases ht with
  | goesOn _ hrun =>
      rw [news_goesOn hr hplay hrun]
      refine ⟨trivial, fun id => ?_, hv.count.trans hrun.count.symm,
        hv.host.trans (by rw [hrun.host]), fun hwait => ?_⟩
      · rw [somebody_of_seats hrun.seats]
        exact hv.member id
      · rw [hrun.state, hplay] at hwait
        exact absurd hwait (by decide)
  | @ends id r₁ _ hid hne hrun _ hend =>
      obtain ⟨hnews, hsome⟩ := news_ends hr hs hplay hid hne hrun hend (mem_targets hs hq hqa)
      have hs₁ := hs.of_sameSeats (sameSeats_of_seats hrun.seats)
      have hseats := (ended_seats hs₁ hend).trans hrun.seats
      have hnone : ∀ x, ¬ ∃ p ∈ r'.roomPlayers, p.isActive = true ∧ p.sessionKey.playerId = x ∧
          p.roomPlayerState = .ready := by
        rintro x ⟨p, hp, ha, _, hready⟩
        rw [ended_players hs₁ hend] at hp
        obtain ⟨y, _, rfl⟩ := List.mem_map.mp hp
        by_cases hya : y.isActive = true
        · rw [if_pos hya] at hready
          exact RoomPlayerState.noConfusion hready
        · rw [if_neg hya] at ha
          exact hya ha
      have hcount : r'.currentPlayerCount = r.currentPlayerCount := by
        obtain ⟨out, _, rfl⟩ := hend
        exact hrun.count
      have hhost : r'.hostId = r.hostId := by
        obtain ⟨out, _, rfl⟩ := hend
        exact hrun.host
      have hof : ∀ w : RoomView, (∀ x, w.member x ↔ v.member x) → w.count = v.count →
          w.host = v.host →
          (∀ x, ¬ w.ready x) → w.Of r' := by
        intro w hmember hwcount hwhost hready
        refine ⟨fun x => ?_, hwcount.trans (hv.count.trans hcount.symm),
          hwhost.trans (hv.host.trans (by rw [hhost])), fun _ x => ⟨fun hc => absurd hc (hready x),
            fun hc => absurd hc (hnone x)⟩⟩
        rw [somebody_of_seats hseats, hmember]
        exact hv.member x
      rcases hnews with hnews | hnews
      · rw [hnews]
        exact ⟨⟨trivial, trivial⟩, hof _ (fun _ => Iff.rfl) rfl rfl fun _ hc => hc⟩
      · have hwait : r'.roomState = .wait := by
          obtain ⟨out, _, rfl⟩ := hend
          rfl
        rcases htold hwait with htold | hready
        · exact absurd ((hsome htold).symm.trans hnews) (by simp)
        · rw [hnews]
          exact ⟨trivial, hof _ (fun _ => Iff.rfl) rfl rfl hready⟩

/-! ## Newcomers -/

/-- Whoever sits in `r'` sat in `r`. -/
def NobodyNew (r r' : TetrisRoom) : Prop :=
  ∀ q ∈ r'.roomPlayers, q.isActive = true →
    ∃ p ∈ r.roomPlayers, p.isActive = true ∧ p.sessionKey = q.sessionKey

theorem nobodyNew_of_seats {r r' : TetrisRoom}
    (h : r'.roomPlayers.map Player.seat = r.roomPlayers.map Player.seat) : NobodyNew r r' := by
  intro q hq ha
  have hseat : q.seat ∈ r.roomPlayers.map Player.seat := h ▸ List.mem_map_of_mem hq
  obtain ⟨p, hp, hpq⟩ := List.mem_map.mp hseat
  exact ⟨p, hp, (isActive_of_seat hpq).trans ha, congrArg Prod.fst hpq⟩

theorem Left.nobodyNew {r r' : TetrisRoom} {i : Nat} {p : Player} (h : Left r i p r') :
    NobodyNew r r' := by
  intro q hq ha
  obtain ⟨k, hk⟩ := List.mem_iff_getElem?.mp hq
  have hlt := (List.getElem?_eq_some_iff.mp hk).1
  rw [h.removed.length] at hlt
  have hold := List.getElem?_eq_getElem hlt
  refine ⟨_, List.mem_of_getElem? hold, ?_⟩
  by_cases hki : k = i
  · subst hki
    obtain ⟨now, hcleared⟩ := h.removed.slot _ hold
    rw [hk] at hcleared
    rw [Option.some.inj hcleared] at ha
    exact absurd ha (by simp [Player.clearPlayer, Player.isActive])
  · obtain ⟨x, hx, hrel⟩ := h.removed.others k _ hki hold
    rw [hk] at hx
    rcases hrel with hrel | ⟨_, hrel⟩ <;> rw [Option.some.inj hx, hrel] at ha ⊢ <;> exact ⟨ha, rfl⟩

/-- Ticks seat nobody. -/
theorem nobodyNew_ticked {env : RoomEnv} {t : Int} {r r' : TetrisRoom} {qs ss : List Player}
    (hs : Seated env r.roomPlayers) (h : MultiTick env t r qs ss r') : NobodyNew r r' := by
  cases h with
  | goesOn _ hrun => exact nobodyNew_of_seats hrun.seats
  | ends id _ _ hrun _ hend =>
      have hs₁ := hs.of_sameSeats (sameSeats_of_seats hrun.seats)
      exact nobodyNew_of_seats ((ended_seats hs₁ hend).trans hrun.seats)

theorem nobodyNew_modify {r r' : TetrisRoom} {i : Nat} {f : Player → Player}
    (ha : Aside (r.modifyPlayer i f) r')
    (hf : ∀ p, r.roomPlayers[i]? = some p → (f p).isActive = true →
      p.isActive = true ∧ p.sessionKey = (f p).sessionKey) :
    NobodyNew r r' := by
  intro q hq hqa
  rw [ha.players] at hq
  obtain ⟨k, hk⟩ := List.mem_iff_getElem?.mp hq
  rw [modifyPlayer_getElem?] at hk
  obtain ⟨x, hx, hxq⟩ := Option.map_eq_some_iff.mp hk
  refine ⟨x, List.mem_of_getElem? hx, ?_⟩
  split at hxq
  · rename_i hki
    subst hki hxq
    exact hf x hx hqa
  · subst hxq
    exact ⟨hqa, rfl⟩

/-- Whoever stays is told of a newcomer if there is one, and of nothing else then. -/
theorem news_adds {r r' : TetrisRoom} {env : RoomEnv} {q : Player} (hr : RoomOk r)
    (hout : r.out = []) (hm : Managed env r r') (hq : q ∈ r.roomPlayers) (hqa : q.isActive = true)
    (hstays : ∃ q' ∈ r'.roomPlayers, q'.isActive = true ∧ q'.sessionKey = q.sessionKey) :
    (¬ NobodyNew r r' ∧ ∃ id name, news q.sessionKey r'.out = [.addPlayer id name]) ∨
      ∀ id name, .addPlayer id name ∉ news q.sessionKey r'.out := by
  have hsilent : news q.sessionKey r.out = [] := by rw [hout]; rfl
  cases hm with
  | quiet _ _ hnews | refused _ _ _ _ _ _ hnews | started _ _ _ hnews =>
      rw [hnews, hsilent]
      exact .inr fun _ _ => List.not_mem_nil
  | toggled _ _ _ _ _ _ hnews =>
      rw [hnews q hq hqa, hsilent]
      exact .inr fun _ _ hc => S2CPacket.noConfusion (List.mem_singleton.mp hc)
  | @left i p _ hp ha hleft =>
      obtain ⟨k, hk⟩ := List.mem_iff_getElem?.mp hq
      rw [hleft.told k q (hleft.other_slot hr hp ha hk hstays) hk hqa, hsilent]
      refine .inr fun id name hc => ?_
      rcases List.mem_cons.mp hc with hc | hc
      · exact S2CPacket.noConfusion hc
      · split at hc
        · exact S2CPacket.noConfusion (List.mem_singleton.mp hc)
        · exact List.not_mem_nil hc
  | @joined i p key nickname now _ _ hp hfree hnew ha _ _ hnews =>
      refine .inl ⟨fun hsame => ?_, key.playerId, nickname, by rw [hnews q hq hqa, hsilent]; rfl⟩
      have hslot : joinedSlot p key now ∈ r'.roomPlayers := by
        rw [ha.players]
        refine List.mem_of_getElem? (i := i) ?_
        rw [modifyPlayer_getElem?,
          show ({ r with currentPlayerCount := r.currentPlayerCount + 1 } :
          TetrisRoom).roomPlayers[i]? = some p from hp, Option.map_some, if_pos rfl]
      obtain ⟨x, hx, hxa, hkey⟩ := hsame _ hslot rfl
      exact hnew x hx ((hr.slots x hx).hasSession.trans hxa) (congrArg SessionKey.playerId hkey)

/-- The announcements of several players, of whom nothing was known before. -/
theorem view_adds {self : Int} {slots : Nat} (name : Player → String) :
    ∀ (ps : List Player) (v : RoomView),
    (ps.map (·.sessionKey.playerId)).Nodup → (∀ p ∈ ps, ¬ v.member p.sessionKey.playerId) →
      v.count + ps.length ≤ slots →
    let adds := ps.map fun p => S2CPacket.addPlayer p.sessionKey.playerId (name p)
    v.SensibleAll self slots adds ∧
      (∀ x, (v.applyAll adds).member x ↔ v.member x ∨ ∃ p ∈ ps, p.sessionKey.playerId = x) ∧
      (v.applyAll adds).count = v.count + ps.length ∧ (v.applyAll adds).host = v.host ∧
      (v.applyAll adds).ready = v.ready
  | [], v, _, _, _ => by simp [RoomView.SensibleAll, RoomView.applyAll]
  | p :: ps, v, hnd, hnew, hroom => by
      obtain ⟨hp, hnd⟩ := List.nodup_cons.mp hnd
      rw [List.length_cons] at hroom
      have hnew' : ∀ q ∈ ps, ¬ (v.apply (.addPlayer p.sessionKey.playerId (name p))).member
          q.sessionKey.playerId := by
        intro q hq hm
        rcases hm with hid | hm
        · exact hp (List.mem_map.mpr ⟨q, hq, hid⟩)
        · exact hnew q (List.mem_cons_of_mem _ hq) hm
      have hcount : (v.apply (.addPlayer p.sessionKey.playerId (name p))).count = v.count + 1 :=
        rfl
      obtain ⟨hsense, hmember, hcount', hhost, hready⟩ :=
        @view_adds self slots name ps _ hnd hnew' (by omega)
      refine ⟨⟨⟨hnew p List.mem_cons_self, by omega⟩, hsense⟩, fun x => (hmember x).trans ?_,
        hcount'.trans ?_, hhost, hready⟩
      · show (x = p.sessionKey.playerId ∨ v.member x) ∨ _ ↔ _
        simp only [List.mem_cons, exists_eq_or_imp]
        rw [or_comm (a := x = _), or_assoc, eq_comm]
      · rw [hcount, List.length_cons]
        omega

theorem RoomOk.playerIds_nodup {r : TetrisRoom} (h : RoomOk r) :
    ((r.roomPlayers.filter (·.isActive)).map (·.sessionKey.playerId)).Nodup := by
  rw [List.Nodup, List.pairwise_map, List.pairwise_filter, List.pairwise_iff_getElem]
  intro i j hi hj hij hp hq hid
  exact absurd (h.distinct i j _ _ (List.getElem?_eq_getElem hi)
    (List.getElem?_eq_getElem hj) hp hq hid) (Nat.ne_of_lt hij)

/-- **A newcomer is told who is there and whose room it is**, but not who is ready. -/
theorem view_welcome {r r' : TetrisRoom} {env : RoomEnv} {key : SessionKey} (hr : RoomOk r)
    (h : Hosted r) (hout : r.out = []) (hm : Managed env r r')
    (hnew : ∀ p ∈ r.roomPlayers, p.isActive = true → p.sessionKey ≠ key)
    (hseated : ∃ q ∈ r'.roomPlayers, q.isActive = true ∧ q.sessionKey = key)
    (hunready : ∀ p ∈ r.roomPlayers, p.isActive = true → p.roomPlayerState ≠ .ready) :
    ∃ packets, news key r'.out = r.createRoomPacket :: packets ∧
      (RoomView.arrival key.playerId).SensibleAll key.playerId r.kind.slotCount packets ∧
      ((RoomView.arrival key.playerId).applyAll packets).Of r' ∧
      ∀ packet ∈ packets, (∃ id name, packet = .addPlayer id name) ∨
      ∃ id, packet = .updateHost id := by
  -- every other event seats nobody, and he has just been seated
  have hnobody : NobodyNew r r' → False := by
    intro hsame
    obtain ⟨q, hq, ha, hkey⟩ := hseated
    obtain ⟨p, hp, hpa, hpq⟩ := hsame q hq ha
    exact hnew p hp hpa (hpq.trans hkey)
  cases hm with
  | quiet ha => exact (hnobody (nobodyNew_of_seats (by rw [ha.players]))).elim
  | refused _ _ _ _ ha =>
      exact (hnobody (nobodyNew_modify ha fun p _ hc => absurd hc (by
        simp [Player.clearPlayer, Player.isActive]))).elim
  | left _ _ _ hleft => exact (hnobody hleft.nobodyNew).elim
  | toggled _ _ _ _ ha => exact (hnobody (nobodyNew_modify ha fun p _ hpa => ⟨hpa, rfl⟩)).elim
  | started _ hs => exact (hnobody (nobodyNew_of_seats hs.seats)).elim
  | @joined i p key' nickname now _ hwait hp hfree hfresh ha hhost hwelcome hnews =>
      -- the one who is seated is he
      have hkey : key' = key := by
        obtain ⟨q, hq, hqa, hqkey⟩ := hseated
        rw [ha.players] at hq
        obtain ⟨k, hk⟩ := List.mem_iff_getElem?.mp hq
        rw [modifyPlayer_getElem?] at hk
        obtain ⟨x, hx, hxq⟩ := Option.map_eq_some_iff.mp hk
        split at hxq
        · rw [← hqkey, ← hxq]
          rfl
        · exact absurd hqkey (hnew q (List.mem_of_getElem? (hxq ▸ hx)) hqa)
      subst hkey
      have hidle : p.isActive = false :=
        (hr.slots p (List.mem_of_getElem? hp)).hasSession.symm.trans hfree
      obtain ⟨j, host, hslot⟩ := h.host (h.count_pos hr (.inl hwait))
      have hothers : ∀ q ∈ r.roomPlayers, q.isActive = true →
          q.sessionKey.playerId ≠ key'.playerId :=
        fun q hq hqa => hfresh q hq ((hr.slots q hq).hasSession.trans hqa)
      have hcount : ((r.roomPlayers.filter (·.isActive)).length : Int) = r.currentPlayerCount := by
        rw [hr.count, List.countP_eq_length_filter]
      have hroom := hr.count_lt hp hidle
      -- he is told of the others one by one, and of the host last
      obtain ⟨hsense, hmember, hcount', hhost', hready⟩ := @view_adds key'.playerId
        r.kind.slotCount
        (fun q => nameOf env q.sessionKey) (r.roomPlayers.filter (·.isActive))
        (.arrival key'.playerId)
        hr.playerIds_nodup
        (fun q hq => hothers q (List.mem_filter.mp hq).1 (List.mem_filter.mp hq).2)
        (by show (1 : Int) + _ ≤ _; omega)
      generalize hadds : ((r.roomPlayers.filter (·.isActive)).map fun q =>
        S2CPacket.addPlayer q.sessionKey.playerId (nameOf env q.sessionKey)) = adds at *
      refine ⟨adds ++ [.updateHost r.hostId], ?_, ?_, ?_, fun packet hpacket => ?_⟩
      · rw [hwelcome, hout, welcome, hadds]
        rfl
      · rw [RoomView.sensibleAll_append]
        refine ⟨hsense,
          ⟨(hmember _).mpr (.inr ⟨host, List.mem_filter.mpr ⟨List.mem_of_getElem? hslot.slot,
          hslot.active⟩, hslot.id⟩), hhost'⟩, trivial⟩
      · rw [RoomView.applyAll_append]
        refine ⟨fun id => (hmember id).trans ?_, ?_, by rw [hhost]; rfl, fun _ id => ?_⟩
        · rw [ha.players]
          show id = key'.playerId ∨ _ ↔ ∃ x ∈ r.roomPlayers.modify i _, _
          rw [somebody_of_taken hp hidle rfl]
          simp only [List.mem_filter, and_assoc]
          rw [or_comm]
          exact or_congr Iff.rfl eq_comm
        · refine hcount'.trans ?_
          show (1 : Int) + _ = _
          rw [ha.count, hcount]
          show 1 + r.currentPlayerCount = r.currentPlayerCount + 1
          omega
        · rw [ha.players]
          show (id ≠ r.hostId ∧ RoomView.ready (RoomView.applyAll _ adds) id) ↔
            ∃ x ∈ r.roomPlayers.modify i _, _
          rw [somebody_of_taken hp hidle rfl, hready]
          constructor
          · intro hc
            exact hc.2.elim
          · rintro (⟨x, hx, hxa, _, hs⟩ | ⟨_, hs⟩)
            · exact absurd hs (hunready x hx hxa)
            · exact RoomPlayerState.noConfusion hs
      · rcases List.mem_append.mp hpacket with hpacket | hpacket
        · rw [← hadds] at hpacket
          obtain ⟨q, _, rfl⟩ := List.mem_map.mp hpacket
          exact .inl ⟨_, _, rfl⟩
        · exact .inr ⟨_, List.mem_singleton.mp hpacket⟩

end TetrisRoom

end ProjectTetris

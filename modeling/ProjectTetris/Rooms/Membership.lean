import ProjectTetris.Rooms.EngineSafe
import ProjectTetris.Rooms.RoomNews

/-!
# Members and their host

Who is host of a room for several players, who is ready, and when the room goes. The
invariant is argued event by event from `Managed`, and for ticks from `MultiTick`.
-/

namespace ProjectTetris

namespace TetrisRoom

/-! ## The host -/

/-- The slot of the host, who is never in `READY`. -/
structure HostSlot (r : TetrisRoom) (i : Nat) (p : Player) : Prop where
  slot : r.roomPlayers[i]? = some p
  active : p.isActive = true
  id : p.sessionKey.playerId = r.hostId
  unready : p.roomPlayerState ≠ .ready

/-- **A room somebody is in has a host** and is waiting or playing; the others are on their way
out. -/
structure Hosted (r : TetrisRoom) : Prop where
  capacity : r.maxPlayerCount = r.kind.slotCount
  live : 0 < r.currentPlayerCount → r.roomState = .wait ∨ r.roomState = .play
  gone : r.currentPlayerCount = 0 → r.roomState = .waitingDelete ∨ r.roomState = .deletePost
  host : 0 < r.currentPlayerCount → ∃ i p, HostSlot r i p

theorem RoomOk.count_nonneg {r : TetrisRoom} (h : RoomOk r) : 0 ≤ r.currentPlayerCount := by
  rw [h.count]
  exact Int.natCast_nonneg _

theorem Hosted.count_pos {r : TetrisRoom} (h : Hosted r) (hr : RoomOk r)
    (hstate : r.roomState = .wait ∨ r.roomState = .play) : 0 < r.currentPlayerCount := by
  have hnonneg := hr.count_nonneg
  have hne : r.currentPlayerCount ≠ 0 := by
    intro hzero
    rcases h.gone hzero with hs | hs <;> rw [hs] at hstate <;> exact absurd hstate (by decide)
  omega

theorem RoomOk.not_ready {r : TetrisRoom} (h : RoomOk r) (hplay : r.roomState = .play) {p : Player}
    (hp : p ∈ r.roomPlayers) (ha : p.isActive = true) : p.roomPlayerState ≠ .ready := by
  rcases ((h.slots p hp).inGame hplay ha).state with hs | hs <;> rw [hs] <;> decide

theorem hosted_left {r r' : TetrisRoom} {i : Nat} {p : Player} (hr : RoomOk r) (hr' : RoomOk r')
    (h : Hosted r) (hp : r.roomPlayers[i]? = some p) (ha : p.isActive = true)
    (hleft : Left r i p r') :
    Hosted r' := by
  have hremoved := hleft.removed
  have hpos : 0 < r.currentPlayerCount := by
    rw [hr.count]
    exact_mod_cast List.countP_pos_iff.mpr ⟨p, List.mem_of_getElem? hp, ha⟩
  have hcount := hremoved.count
  refine ⟨hremoved.capacity.trans (by rw [h.capacity, hremoved.kind]),
    fun hpos' => ?_, fun hzero => ?_, fun hpos' => ?_⟩
  · rcases hremoved.state with ⟨_, hs⟩ | ⟨hone, _⟩
    · rw [hs]
      exact h.live hpos
    · omega
  · rcases hremoved.state with ⟨hne, _⟩ | ⟨_, hs⟩
    · omega
    · exact .inl hs
  · have hstate : r'.roomState = r.roomState := by
      rcases hremoved.state with ⟨_, hs⟩ | ⟨hone, _⟩
      · exact hs
      · omega
    by_cases hid : p.sessionKey.playerId = r.hostId
    · -- somebody is left, and the first of them is the host now
      obtain ⟨x, hx, hxa⟩ : ∃ x ∈ r'.roomPlayers, x.isActive = true := by
        rw [hr'.count] at hpos'
        exact List.countP_pos_iff.mp (by exact_mod_cast hpos')
      obtain ⟨k, hk⟩ := List.mem_iff_getElem?.mp hx
      have hlt := (List.getElem?_eq_some_iff.mp hk).1
      rw [hremoved.length] at hlt
      have hold := List.getElem?_eq_getElem hlt
      -- he does not sit in the slot that was freed
      have hki : k ≠ i := by
        rintro rfl
        obtain ⟨now, hcleared⟩ := hremoved.slot _ hold
        rw [hk] at hcleared
        rw [Option.some.inj hcleared] at hxa
        exact absurd hxa (by simp [Player.clearPlayer, Player.isActive])
      have hqa : r.roomPlayers[k].isActive = true := by
        obtain ⟨q', hq', hrel⟩ := hremoved.others k _ hki hold
        rw [hk] at hq'
        rcases hrel with hrel | ⟨_, hrel⟩ <;> rw [Option.some.inj hq', hrel] at hxa <;> exact hxa
      obtain ⟨j, q, hnext⟩ := exists_nextHost hki hold hqa
      obtain ⟨hhost, hslots⟩ := hleft.moves hid j q hnext
      have hslot := hslots j q hnext.other hnext.slot
      rw [if_pos rfl] at hslot
      have hseat := hostSlot_seat r.roomState q
      refine ⟨j, _, hslot, (isActive_of_seat hseat).trans hnext.active, ?_, ?_⟩
      · rw [hhost, show (hostSlot r.roomState q).sessionKey = q.sessionKey
          from congrArg Prod.fst hseat]
      · rcases h.live hpos with hwait | hplay
        · rw [hostSlot, if_pos hwait]
          exact fun hc => RoomPlayerState.noConfusion hc
        · rw [hostSlot, if_neg (by rw [hplay]; decide)]
          exact hr.not_ready hplay (List.mem_of_getElem? hnext.slot) hnext.active
    · obtain ⟨hhost, hslots⟩ := hleft.stays hid
      obtain ⟨j, q, hslot⟩ := h.host hpos
      have hji : j ≠ i := by
        rintro rfl
        have hsame := hslot.slot
        rw [hp] at hsame
        exact hid (Option.some.inj hsame ▸ hslot.id)
      exact ⟨j, q, hslots j q hji hslot.slot, hslot.active, hslot.id.trans hhost.symm,
        hslot.unready⟩

/-- **Every event outside ticks keeps the host in his place**, or finds a new one. -/
theorem hosted_managed {r r' : TetrisRoom} {env : RoomEnv} (hr : RoomOk r) (hr' : RoomOk r')
    (h : Hosted r) (hm : Managed env r r') : Hosted r' := by
  -- an event that keeps the count and the state has only the host's slot to account for
  have hsame : r'.kind = r.kind → r'.maxPlayerCount = r.maxPlayerCount →
      r'.currentPlayerCount = r.currentPlayerCount → r'.roomState = r.roomState →
      r'.hostId = r.hostId → (∀ i p, HostSlot r i p → r'.roomPlayers[i]? = some p) →
      Hosted r' := by
    intro hkind hcapacity hcount hstate hhost hslot
    refine ⟨hcapacity.trans (by rw [h.capacity, hkind]),
      fun hpos => ?_, fun hzero => ?_, fun hpos => ?_⟩
    · rw [hstate]
      exact h.live (hcount ▸ hpos)
    · rw [hstate]
      exact h.gone (hcount ▸ hzero)
    · obtain ⟨i, p, hp⟩ := h.host (hcount ▸ hpos)
      exact ⟨i, p, hslot i p hp, hp.active, hp.id.trans hhost.symm, hp.unready⟩
  cases hm with
  | quiet ha hhost _ =>
      exact hsame ha.kind ha.capacity ha.count ha.state hhost
        fun i p hp => by rw [ha.players]; exact hp.slot
  | refused k now hp hfree ha hhost _ =>
      refine hsame ha.kind ha.capacity ha.count ha.state hhost fun i q hq => ?_
      have hki : k ≠ i := by
        rintro rfl
        have hslot := hq.slot
        rw [hp] at hslot
        have hactive := hq.active
        rw [← Option.some.inj hslot, ← (hr.slots _ (List.mem_of_getElem? hp)).hasSession, hfree]
          at hactive
        exact absurd hactive (by decide)
      rw [ha.players, modifyPlayer_getElem?, hq.slot, Option.map_some, if_neg hki]
  | joined k nickname now hwait hp hfree hnew ha hhost _ _ =>
      have hpos := h.count_pos hr (.inl hwait)
      have hcount : r'.currentPlayerCount = r.currentPlayerCount + 1 := ha.count
      refine ⟨ha.capacity.trans (by rw [ha.kind]; exact h.capacity),
        fun _ => .inl (ha.state.trans hwait), fun hzero => ?_, fun _ => ?_⟩
      · omega
      · obtain ⟨i, q, hq⟩ := h.host hpos
        have hki : k ≠ i := by
          rintro rfl
          have hslot := hq.slot
          rw [hp] at hslot
          have hactive := hq.active
          rw [← Option.some.inj hslot, ← (hr.slots _ (List.mem_of_getElem? hp)).hasSession, hfree]
            at hactive
          exact absurd hactive (by decide)
        refine ⟨i, q, ?_, hq.active, hq.id.trans hhost.symm, hq.unready⟩
        rw [ha.players, modifyPlayer_getElem?,
          show ({ r with currentPlayerCount := r.currentPlayerCount + 1 } :
            TetrisRoom).roomPlayers[i]? =
            some q from hq.slot, Option.map_some, if_neg hki]
  | left i hp ha hleft => exact hosted_left hr hr' h hp ha hleft
  | toggled k hp hactive hguest ha hhost _ =>
      refine hsame ha.kind ha.capacity ha.count ha.state hhost fun i q hq => ?_
      have hki : k ≠ i := by
        rintro rfl
        have hslot := hq.slot
        rw [hp] at hslot
        exact hguest (Option.some.inj hslot ▸ hq.id)
      rw [ha.players, modifyPlayer_getElem?, hq.slot, Option.map_some, if_neg hki]
  | started type hs _ _ =>
      have hpos := h.count_pos hr (.inl hs.wait)
      refine ⟨hs.capacity.trans (by rw [h.capacity, hs.kind]),
        fun _ => .inr hs.play, fun hzero => ?_, fun _ => ?_⟩
      · rw [hs.count] at hzero
        omega
      · obtain ⟨i, q, hq⟩ := h.host hpos
        refine ⟨i, startedSlot q type (env.now q.sessionKey), ?_, hq.active,
          hq.id.trans hs.host.symm, fun hc => RoomPlayerState.noConfusion hc⟩
        rw [hs.players, List.getElem?_map, hq.slot, Option.map_some, if_pos hq.active]

/-- **A tick leaves the host where he is.** -/
theorem hosted_ticked {r r' : TetrisRoom} {env : RoomEnv} {t : Int} {qs ss : List Player}
    (hs : Seated env r.roomPlayers) (hr' : RoomOk r') (h : Hosted r)
    (hpos : 0 < r.currentPlayerCount) (hplay : r.roomState = .play)
    (ht : MultiTick env t r qs ss r') : Hosted r' := by
  obtain ⟨i, p, hp⟩ := h.host hpos
  have hrun : ∀ {extra r₁}, TickRun env t r extra qs ss r₁ →
      ∃ q, r₁.roomPlayers[i]? = some q ∧ q.seat = p.seat := by
    intro extra r₁ hrun
    have hseats := congrArg (·[i]?) hrun.seats
    simp only [List.getElem?_map, hp.slot, Option.map_some] at hseats
    exact Option.map_eq_some_iff.mp hseats
  cases ht with
  | goesOn _ hrun' =>
      obtain ⟨q, hq, hseat⟩ := hrun hrun'
      have hactive : q.isActive = true := (isActive_of_seat hseat).trans hp.active
      refine ⟨hrun'.capacity.trans (by rw [h.capacity, hrun'.kind]),
        fun _ => .inr (hrun'.state.trans hplay),
        fun hzero => ?_, fun _ => ⟨i, q, hq, hactive, ?_, ?_⟩⟩
      · rw [hrun'.count] at hzero
        omega
      · rw [show q.sessionKey = p.sessionKey from congrArg Prod.fst hseat, hp.id, hrun'.host]
      · exact hr'.not_ready (hrun'.state.trans hplay) (List.mem_of_getElem? hq) hactive
  | ends id _ _ hrun' _ hend =>
      obtain ⟨q, hq, hseat⟩ := hrun hrun'
      have hactive : q.isActive = true := (isActive_of_seat hseat).trans hp.active
      have hslot : r'.roomPlayers[i]? = some (q.resetGameData (env.now q.sessionKey)) := by
        rw [ended_players (hs.of_sameSeats (sameSeats_of_seats hrun'.seats)) hend,
          List.getElem?_map, hq, Option.map_some, if_pos hactive]
      obtain ⟨out, _, rfl⟩ := hend
      have hcount := hrun'.count
      refine ⟨hrun'.capacity.trans (h.capacity.trans
        (congrArg (fun k : RoomKind => (k.slotCount : Int)) hrun'.kind.symm)), fun _ => .inl rfl,
        fun hzero => absurd (hcount.symm.trans hzero) (by omega),
        fun _ => ⟨i, _, hslot, hactive, ?_, fun hc =>
          RoomPlayerState.noConfusion hc⟩⟩
      show q.sessionKey.playerId = _
      rw [show q.sessionKey = p.sessionKey from congrArg Prod.fst hseat, hp.id]
      exact hrun'.host.symm

theorem hosted_created {r : TetrisRoom} (h : Created r) (hkind : r.kind ≠ .single) : Hosted r := by
  obtain ⟨kind, roomIndex, roomKey, roomName, roomPassword, now, now', key, haside, hhost, _⟩ :=
    created_joined h
  have hcount : r.currentPlayerCount = 1 := haside.count
  have hkind' : r.kind = kind := haside.kind
  obtain ⟨p, hp⟩ : ∃ p,
      (waitingRoom kind roomIndex roomKey roomName roomPassword now).roomPlayers[0]? =
      some p := by cases kind <;> exact ⟨_, rfl⟩
  refine ⟨haside.capacity.trans (by rw [haside.kind]; rfl), fun _ => .inl haside.state,
    fun hzero => by omega, fun _ => ⟨0, joinedSlot p key now', ?_, rfl, ?_, fun hc =>
      RoomPlayerState.noConfusion hc⟩⟩
  · rw [haside.players, modifyPlayer_getElem?]
    show Option.map
      _ ((waitingRoom kind roomIndex roomKey roomName roomPassword now).roomPlayers[0]?) = _
    rw [hp]
    rfl
  · exact (hhost (hkind' ▸ hkind)).symm

/-- **Every event keeps the host in his place**, or finds a new one. -/
theorem hosted_step {r r' : TetrisRoom} {env : RoomEnv} {e : RoomEvent} (hr : RoomOk r)
    (h : Hosted r) (hserves : env.Serves r e) (hkind : r.kind ≠ .single)
    (hstep : r.step env e = some r') :
    Hosted r' := by
  have h₀ : Hosted { r with out := [] } := ⟨h.capacity, h.live, h.gone, fun hpos =>
    (h.host hpos).imp fun i hi => hi.imp fun p hp => ⟨hp.slot, hp.active, hp.id, hp.unready⟩⟩
  have hr' : RoomOk r' := roomOk_stepped hr hserves ((step_ok hr hserves).of_eq_some hstep)
  cases multiStep_of_step hr hserves hkind hstep with
  | managed _ hm => exact hosted_managed (roomOk_silent hr) hr' h₀ hm
  | ticked qs ss hplay _ ht =>
      exact hosted_ticked (r := { r with out := [] }) (hr.seated hserves) hr' h₀
        (h.count_pos hr (.inr hplay)) hplay ht

/-! ## The whole life of a room -/

/-- `TryPostRoomDelete`, with the number of tasks queued: `true` if the deletion is posted. -/
def tryPostRoomDelete (r : TetrisRoom) (taskCount : Nat) : TetrisRoom × Bool :=
  if r.roomState ≠ .waitingDelete ∨ taskCount ≠ 0 then (r, false)
  else (r.storeRoomState .deletePost, true)

/-- The rooms a run can reach until they are removed: its events, and the posting of its deletion.
-/
inductive Lifetime : TetrisRoom → Prop
  | created {r : TetrisRoom} (h : Created r) : Lifetime r
  | step {r r' : TetrisRoom} (h : Lifetime r) (env : RoomEnv) (e : RoomEvent)
      (hserves : env.Serves r e)
      (hstep : r.step env e = some r') : Lifetime r'
  | post {r : TetrisRoom} (h : Lifetime r) (taskCount : Nat) :
      Lifetime (r.tryPostRoomDelete taskCount).1

theorem roomOk_post {r : TetrisRoom} (h : RoomOk r) (taskCount : Nat) :
    RoomOk (r.tryPostRoomDelete taskCount).1 := by
  unfold tryPostRoomDelete
  split
  · exact h
  · rename_i hstate
    have hdeleting : r.roomState = .waitingDelete := by
      rcases Decidable.em (r.roomState = .waitingDelete) with hs | hs
      · exact hs
      · exact absurd (.inl hs) hstate
    have hno : r.roomState ≠ .play := by rw [hdeleting]; decide
    refine roomOk_of_seats h rfl rfl rfl fun p hp => ?_
    exact slotOk_idle (h.slots p hp) (fun hc => hno hc.1) fun hc => RoomState.noConfusion hc.1

theorem roomOk_lifetime {r : TetrisRoom} (h : Lifetime r) : RoomOk r := by
  induction h with
  | created h => exact roomOk_created h
  | step _ env e hserves hstep ih =>
      exact roomOk_stepped ih hserves ((step_ok ih hserves).of_eq_some hstep)
  | post _ taskCount ih => exact roomOk_post ih taskCount

theorem hosted_lifetime {r : TetrisRoom} (h : Lifetime r)
    (hkind : r.kind ≠ .single) : Hosted r := by
  induction h with
  | created h => exact hosted_created h hkind
  | step hr env e hserves hstep ih =>
      have hok := roomOk_lifetime hr
      have hsame := kind_stepped ((step_ok hok hserves).of_eq_some hstep)
      exact hosted_step hok (ih (hsame ▸ hkind)) hserves (hsame ▸ hkind) hstep
  | @post r hr taskCount ih =>
      have hsame : (r.tryPostRoomDelete taskCount).1.kind = r.kind := by
        unfold tryPostRoomDelete
        split <;> rfl
      have h := ih (hsame ▸ hkind)
      unfold tryPostRoomDelete
      split
      · exact h
      · -- only a room nobody is in waits for its deletion
        rename_i hposted
        have hdeleting : r.roomState = .waitingDelete := by
          rcases Decidable.em (r.roomState = .waitingDelete) with hs | hs
          · exact hs
          · exact absurd (.inl hs) hposted
        have hempty : ¬ 0 < r.currentPlayerCount := by
          intro hpos
          rcases h.live hpos with hs | hs <;> rw [hdeleting] at hs <;> exact absurd hs (by decide)
        exact ⟨h.capacity, fun hpos => absurd hpos hempty,
          fun _ => .inr rfl, fun hpos => absurd hpos hempty⟩

/--
**The slot invariant of a room for several players.** In every state of its life the
players are counted, nobody is half way in or out or there twice, somebody who is not
ready is host, everybody's state fits the room's, and a room nobody is in is on its way out.
-/
theorem members_invariant {r : TetrisRoom} (h : Lifetime r) (hkind : r.kind ≠ .single) :
    r.currentPlayerCount = (r.roomPlayers.countP (·.hasSession) : Nat) ∧
    r.currentPlayerCount ≤ r.maxPlayerCount ∧ r.maxPlayerCount = (r.roomPlayers.length : Nat) ∧
    (∀ p ∈ r.roomPlayers, p.hasSession = true → p.activeState = .active) ∧
    (∀ (i j : Nat) (p q : Player), r.roomPlayers[i]? = some p → r.roomPlayers[j]? = some q →
      p.hasSession = true → q.hasSession = true → p.sessionKey = q.sessionKey → i = j) ∧
    (0 < r.currentPlayerCount → ∃ (i : Nat) (p : Player), r.roomPlayers[i]? = some p ∧
      p.hasSession = true ∧
      p.sessionKey.playerId = r.hostId ∧ p.roomPlayerState ≠ .ready ∧
      ∀ (j : Nat) (q : Player), r.roomPlayers[j]? = some q → q.hasSession = true →
        q.sessionKey.playerId = r.hostId → j = i) ∧
    (r.roomState = .wait → ∀ p ∈ r.roomPlayers, p.hasSession = true →
      p.roomPlayerState = .wait ∨ p.roomPlayerState = .ready) ∧
    (r.roomState = .play → ∀ p ∈ r.roomPlayers, p.hasSession = true →
      p.roomPlayerState = .play ∨ p.roomPlayerState = .gameOver) ∧
    (r.currentPlayerCount = 0 → r.roomState = .waitingDelete ∨ r.roomState = .deletePost) := by
  have hok := roomOk_lifetime h
  have hhosted := hosted_lifetime h hkind
  have hactive : ∀ p ∈ r.roomPlayers, p.hasSession = true → p.isActive = true :=
    fun p hp hsession => (hok.slots p hp).hasSession.symm.trans hsession
  have hcount : r.currentPlayerCount = (r.roomPlayers.countP (·.hasSession) : Nat) := by
    rw [hok.count]
    exact congrArg _ (List.countP_congr fun p hp => by rw [(hok.slots p hp).hasSession])
  have hcapacity : r.maxPlayerCount = (r.roomPlayers.length : Nat) := by
    rw [hhosted.capacity, hok.length]
  refine ⟨hcount, ?_, hcapacity,
    fun p hp hsession => ?_, fun i j p q hp hq hps hqs hkey => ?_, fun hpos => ?_,
    fun hwait p hp hsession => ?_, fun hplay p hp hsession => ?_, hhosted.gone⟩
  · rw [hcount, hcapacity]
    exact_mod_cast List.countP_le_length
  · have ha := hactive p hp hsession
    simpa [Player.isActive] using ha
  · exact hok.distinct i j p q hp hq (hactive p (List.mem_of_getElem? hp) hps)
      (hactive q (List.mem_of_getElem? hq) hqs) (by rw [hkey])
  · obtain ⟨i, p, hp⟩ := hhosted.host hpos
    refine ⟨i, p, hp.slot, (hok.slots p (List.mem_of_getElem? hp.slot)).hasSession.trans hp.active,
      hp.id, hp.unready, fun j q hq hqs hid => ?_⟩
    exact hok.distinct j i q p hq hp.slot (hactive q (List.mem_of_getElem? hq) hqs) hp.active
      (hid.trans hp.id.symm)
  · exact ((hok.slots p hp).idle fun hc => absurd (hwait.symm.trans hc.1) (by decide)).1
  · exact ((hok.slots p hp).inGame hplay (hactive p hp hsession)).state

theorem lifetime_of_reachable {r : TetrisRoom} (h : Reachable r) : Lifetime r := by
  induction h with
  | created h => exact .created h
  | step _ env e hserves hstep ih => exact ih.step env e hserves hstep

/-- The guest gets ready and the host leaves: the room is the guest's, and he is not ready. -/
theorem members_invariant_hostLeft : ∃ r, Lifetime r ∧ r.kind ≠ .single ∧ r.hostId = 2 ∧
    r.currentPlayerCount = (r.roomPlayers.countP (·.hasSession) : Nat) ∧ 0 < r.currentPlayerCount ∧
    ∃ (i : Nat) (p : Player), r.roomPlayers[i]? = some p ∧ p.hasSession = true ∧
      p.sessionKey.playerId = r.hostId ∧
      p.roomPlayerState ≠ .ready := by
  have hrun : (scenario [hostKey, guestKey] (scenarioRoom .two [hostKey, guestKey] hostKey)
      [(.lobby, taskOf guestKey .join), (.room, taskOf guestKey .ready),
        (.room, .leavePacket hostKey)]).any
      (fun r => decide (r.kind ≠ .single ∧ r.hostId = 2 ∧ 0 < r.currentPlayerCount)) = true := by
    decide +kernel
  obtain ⟨r, hr, h⟩ := (Option.any_eq_true _ _).mp hrun
  obtain ⟨hkind, hhost, hpos⟩ := of_decide_eq_true h
  have hlife := lifetime_of_reachable
    (scenario_reachable (by decide) (.created (scenarioRoom_created .two (by decide))) hr)
  obtain ⟨hcount, _, _, _, _, hsome, _⟩ := members_invariant hlife hkind
  obtain ⟨i, p, hp, hsession, hid, hunready, _⟩ := hsome hpos
  exact ⟨r, hlife, hkind, hhost, hcount, hpos, i, p, hp, hsession, hid, hunready⟩

end TetrisRoom

end ProjectTetris

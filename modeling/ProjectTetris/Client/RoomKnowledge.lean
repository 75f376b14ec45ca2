import ProjectTetris.Client.MembersShown
import ProjectTetris.Rooms.Scenario

/-!
# What clients know of their room

The server's room and a client in it, run together: the client handles whatever the room
has sent to its session, and its user clicks in between. It knows who is in, whose room it
is and who is ready, unless it created the room, came while somebody was ready, was given a
newcomer's slot with the button still pressed, or missed the end of a game nobody was left
in; and unless its own ready button has been clicked and nothing has come back yet.
-/

namespace ProjectTetris

open Checked TetrisRoom

namespace Client

open MultiPlayState

/-- What the client shows of its room is how things are. -/
structure KnowsRoom (r : TetrisRoom) (c : MultiPlayState) : Prop where
  members : ∀ id, id ∈ c.memberIds ↔
    ∃ p ∈ r.roomPlayers, p.hasSession = true ∧ p.sessionKey.playerId = id
  host : ∀ id, id ∈ c.hostIds ↔ id = r.hostId
  ready : ∀ id, id ∈ c.readyIds ↔
    ∃ p ∈ r.roomPlayers, p.hasSession = true ∧ p.sessionKey.playerId = id ∧
    p.roomPlayerState = .ready

/-- The session has a slot of the room. -/
def Sits (r : TetrisRoom) (key : SessionKey) : Prop :=
  ∃ p ∈ r.roomPlayers, p.isActive = true ∧ p.sessionKey = key

/-- Nobody in the room is ready. -/
def NobodyReady (r : TetrisRoom) : Prop :=
  ∀ p ∈ r.roomPlayers, p.isActive = true → p.roomPlayerState ≠ .ready

/-- An event that leaves this client in the picture. -/
structure Careful (r r' : TetrisRoom) (c : MultiPlayState) : Prop where
  newcomer : ¬ NobodyNew r r' → c.FreshSlot
  ending : r.roomState = .play → r'.roomState = .wait →
    (∃ p ∈ r.roomPlayers, p.isActive = true ∧ p.roomPlayerState = .play) ∨ c.readyIds = []

/--
A room for several players and the client of a session that sits in it, from its arrival
on. The client has handled everything the room has sent to its session, with any clicks
before, between and after the packets; `none` if it could not.
-/
inductive Viewing (careful : Prop) (self : Session) (key : SessionKey) :
    TetrisRoom → Option Watched → Prop
  | created {r : TetrisRoom} (h : Created r) (hkind : r.kind ≠ .single) (hsits : Sits r key)
      (hcareful : ¬ careful) (inputs : List Input)
      (hinputs : packetsOf inputs = received key r.out) :
      Viewing careful self key r (Watched.takeFromLobby self inputs)
  | joined {r r' : TetrisRoom} (h : Lifetime r) (hkind : r.kind ≠ .single) (env : RoomEnv)
      (e : RoomEvent)
      (hserves : env.Serves r e) (hstep : r.step env e = some r') (hnew : ¬ Sits r key)
      (hsits : Sits r' key)
      (hcareful : careful → NobodyReady r) (inputs : List Input)
      (hinputs : packetsOf inputs = received key r'.out) :
      Viewing careful self key r' (Watched.takeFromLobby self inputs)
  | step {r r' : TetrisRoom} {w : Option Watched} (h : Viewing careful self key r w)
      (env : RoomEnv)
      (e : RoomEvent) (hserves : env.Serves r e) (hstep : r.step env e = some r')
      (hsits : Sits r' key)
      (hcareful : careful → ∀ w' ∈ w, Careful r r' w'.client) (inputs : List Input)
      (hinputs : packetsOf inputs = received key r'.out) :
      Viewing careful self key r' (w.bind fun w' => w'.takeAll self.id inputs)

/-- The client shows a right picture of a room, but for a click of its own. -/
def InPicture (key : SessionKey) (r : TetrisRoom) (w : Watched) : Prop :=
  ∃ v : RoomView, v.Of r ∧ w.Shows key.playerId r.kind.slotCount v

theorem sits_of_nobodyNew {r r' : TetrisRoom} {key : SessionKey} (h : NobodyNew r r')
    (hsits : Sits r' key) :
    Sits r key := by
  obtain ⟨q, hq, ha, hkey⟩ := hsits
  obtain ⟨p, hp, hpa, hpq⟩ := h q hq ha
  exact ⟨p, hp, hpa, hpq.trans hkey⟩

/-- The first packet brings the client into a room of the right size. -/
theorem enter_createRoom {self : Session} {r : TetrisRoom} (h : Hosted r)
    (hkind : r.kind ≠ .single) :
    ∃ n, r.kind.slotCount = n + 1 ∧ enter self r.createRoomPacket =
      some ⟨TetrisSession.new.initSession self :: List.replicate n .new, -1, false⟩ := by
  have hcapacity := h.capacity
  have hsize : r.maxPlayerCount = 2 ∨ r.maxPlayerCount = 5 := by
    cases hk : r.kind with
    | single => exact absurd hk hkind
    | two => rw [hk] at hcapacity; exact .inl hcapacity
    | five => rw [hk] at hcapacity; exact .inr hcapacity
  have henter : enter self r.createRoomPacket = some (init r.maxPlayerCount self) := by
    unfold createRoomPacket
    split <;> exact if_pos hsize
  refine ⟨r.kind.slotCount - 1, ?_, ?_⟩
  · cases hk : r.kind <;> rfl
  · rw [henter, hcapacity]
    cases hk : r.kind with
    | single => exact absurd hk hkind
    | two => rfl
    | five => rfl

/-- **A client that joins while nobody is ready is in the picture.** -/
theorem inPicture_joined {r r' : TetrisRoom} {env : RoomEnv} {e : RoomEvent} {self : Session}
    {key : SessionKey} (hself : self.isSelf = true) (hid : self.id = key.playerId) (h : Lifetime r)
    (hkind : r.kind ≠ .single) (hserves : env.Serves r e) (hstep : r.step env e = some r')
    (hnew : ¬ Sits r key) (hsits : Sits r' key) (hready : NobodyReady r) {inputs : List Input}
    (hinputs : packetsOf inputs = received key r'.out) :
    Ok (Watched.takeFromLobby self inputs) (InPicture key r') := by
  have hok := roomOk_lifetime h
  have hhosted := hosted_lifetime h hkind
  have hsame := kind_stepped ((step_ok hok hserves).of_eq_some hstep)
  cases multiStep_of_step hok hserves hkind hstep with
  | ticked qs ss _ _ ht =>
      have hsame := nobodyNew_ticked (r := { r with out := [] }) (hok.seated hserves) ht
      exact absurd (sits_of_nobodyNew hsame hsits) hnew
  | managed _ hm =>
      have hhosted₀ : Hosted { r with out := [] } :=
        ⟨hhosted.capacity, hhosted.live, hhosted.gone, fun hpos =>
        (hhosted.host hpos).imp fun i hi =>
          hi.imp fun p hp => ⟨hp.slot, hp.active, hp.id, hp.unready⟩⟩
      obtain ⟨packets, hnews, hsense, hof, honly⟩ := view_welcome (roomOk_silent hok)
        hhosted₀ rfl hm (fun p hp ha hkey => hnew ⟨p, hp, ha, hkey⟩) hsits hready
      obtain ⟨n, hslots, henter⟩ := @enter_createRoom self r hhosted hkind
      obtain ⟨hshows, hfresh⟩ := shows_arrival hself n
      rw [← hslots, hid] at hshows
      have hmatters : packetsOf (inputs.filter Watched.matters) =
          r.createRoomPacket :: packets := by
        rw [Watched.packetsOf_matters, hinputs]
        exact hnews
      obtain ⟨rest, rfl, htaken⟩ := Watched.takeFromLobby_enter hmatters henter
      rw [Watched.takeFromLobby_news, htaken, hid]
      refine (@Watched.takeAll_welcome _ _ _ _ ⟨_, false⟩ hshows hsense hfresh honly).mono
        fun w hw => ⟨_, hof, ?_⟩
      rw [hsame]
      exact hw

/-- **A careful event keeps the client in the picture.** -/
theorem inPicture_step {r r' : TetrisRoom} {env : RoomEnv} {e : RoomEvent} {key : SessionKey}
    {w : Watched} (h : Lifetime r) (hkind : r.kind ≠ .single) (hserves : env.Serves r e)
    (hstep : r.step env e = some r') (hsits : Sits r key) (hsits' : Sits r' key)
    (hw : InPicture key r w) (hcareful : Careful r r' w.client) {inputs : List Input}
    (hinputs : packetsOf inputs = received key r'.out) :
    Ok (w.takeAll key.playerId inputs) (InPicture key r') := by
  have hok := roomOk_lifetime h
  have hsame := kind_stepped ((step_ok hok hserves).of_eq_some hstep)
  obtain ⟨v, hv, hshows⟩ := hw
  obtain ⟨q, hq, hqa, rfl⟩ := hsits
  have hmatters : packetsOf (inputs.filter Watched.matters) = news q.sessionKey r'.out := by
    rw [Watched.packetsOf_matters, hinputs]
    rfl
  rw [Watched.takeAll_news]
  cases multiStep_of_step hok hserves hkind hstep with
  | managed _ hm =>
      have hv₀ : v.Of { r with out := [] } := ⟨hv.member, hv.count, hv.host, hv.ready⟩
      obtain ⟨hsense, hof⟩ := view_managed (roomOk_silent hok) rfl hm hv₀ hq hqa hsits'
      rw [← hmatters] at hsense hof
      refine (Watched.takeAll_ok hshows hsense fun id name hc => ?_).mono fun w' hw' =>
        ⟨_, hof, hsame ▸ hw'⟩
      rw [hmatters] at hc ⊢
      rcases news_adds (roomOk_silent hok) rfl hm hq hqa hsits'
        with ⟨hnew, id', name', hnews⟩ | hno
      · refine ⟨?_, hcareful.newcomer hnew⟩
        rw [hnews, List.mem_singleton] at hc
        rw [hnews, hc]
      · exact absurd hc (hno id name)
  | ticked qs ss hplay _ ht =>
      have hv₀ : v.Of { r with out := [] } := ⟨hv.member, hv.count, hv.host, hv.ready⟩
      obtain ⟨hsense, hof⟩ := view_ticked (r := { r with out := [] }) (roomOk_silent hok)
        (hok.seated hserves) hplay ht
        hv₀ hq hqa fun hwait => (hcareful.ending hplay hwait).imp_right fun hnone id hid => by
          have hmem := (hshows.ready id).mp (.inl hid)
          rw [hnone] at hmem
          exact List.not_mem_nil hmem
      rw [← hmatters] at hsense hof
      refine (Watched.takeAll_ok hshows hsense fun id name hc => ?_).mono fun w' hw' =>
        ⟨_, hof, hsame ▸ hw'⟩
      rw [hmatters] at hc
      have hnews := news_ticked (roomOk_silent hok) ht q.sessionKey _ hc
      exact Bool.noConfusion hnews

theorem inPicture_viewing {self : Session} {key : SessionKey} {r : TetrisRoom} {w : Option Watched}
    (hself : self.isSelf = true) (hid : self.id = key.playerId) (h : Viewing True self key r w) :
    Lifetime r ∧ r.kind ≠ .single ∧ Sits r key ∧ Ok w (InPicture key r) := by
  induction h with
  | created _ _ _ hcareful => exact absurd trivial hcareful
  | joined h hkind env e hserves hstep hnew hsits hcareful inputs hinputs =>
      have hsame := kind_stepped ((step_ok (roomOk_lifetime h) hserves).of_eq_some hstep)
      exact ⟨h.step env e hserves hstep, hsame ▸ hkind, hsits,
        inPicture_joined hself hid h hkind hserves hstep hnew hsits (hcareful trivial) hinputs⟩
  | step _ env e hserves hstep hsits hcareful inputs hinputs ih =>
      obtain ⟨h, hkind, hbefore, w', rfl, hw⟩ := ih
      have hsame := kind_stepped ((step_ok (roomOk_lifetime h) hserves).of_eq_some hstep)
      refine ⟨h.step env e hserves hstep, hsame ▸ hkind, hsits, ?_⟩
      rw [Option.bind_some, hid]
      exact inPicture_step h hkind hserves hstep hbefore hsits hw (hcareful trivial w' rfl) hinputs

/-- The picture is the room as it is as soon as no click is open. -/
theorem knowsRoom_of_inPicture {key : SessionKey} {r : TetrisRoom} {w : Watched} (hok : RoomOk r)
    (h : InPicture key r w) (hwait : r.roomState = .wait) :
    KnowsRoom r w.client ↔ w.clicked = false := by
  obtain ⟨v, hv, hshows⟩ := h
  have hoccupied : ∀ Q : Player → Prop, (∃ p ∈ r.roomPlayers, p.isActive = true ∧ Q p) ↔
      ∃ p ∈ r.roomPlayers, p.hasSession = true ∧ Q p := by
    intro Q
    refine exists_congr fun p => and_congr_right fun hp => ?_
    rw [(hok.slots p hp).hasSession]
  have hready : ∀ id, v.ready id ↔
      ∃ p ∈ r.roomPlayers, p.hasSession = true ∧ p.sessionKey.playerId = id ∧
      p.roomPlayerState = .ready := by
    intro id
    rw [hv.ready hwait id, hoccupied]
  constructor
  · intro hknows
    refine Bool.eq_false_iff.mpr fun hclicked => hshows.early hclicked ?_
    exact (hready _).mpr ((hknows.ready _).mp ((hshows.ready _).mp (.inr ⟨hclicked, rfl⟩)))
  · intro hclicked
    refine ⟨fun id => ?_, fun id => ?_, fun id => ?_⟩
    · rw [← hshows.member id, hv.member id, hoccupied]
    · rw [← hshows.host id, hv.host]
      exact ⟨fun hc => (Option.some.inj hc).symm, fun hc => by rw [hc]⟩
    · rw [← hshows.ready id, hready id]
      simp [hclicked]

/--
**A client knows its room**, whenever the room is waiting and as long as no event has left
the client out of the picture: it shows the members, the host, and who of the others is
ready, just when no click on its own ready button waits for the server.
-/
theorem client_knowsRoom {self : Session} {key : SessionKey} {r : TetrisRoom} {w : Option Watched}
    (hself : self.isSelf = true) (hid : self.id = key.playerId) (h : Viewing True self key r w) :
    ∃ w', w = some w' ∧ (r.roomState = .wait → (KnowsRoom r w'.client ↔ w'.clicked = false)) := by
  obtain ⟨hlife, _, _, w', rfl, hw⟩ := inPicture_viewing hself hid h
  exact ⟨w', rfl, knowsRoom_of_inPicture (roomOk_lifetime hlife) hw⟩

/-- A click on the ready button of the first slot, which is the client's own. -/
def ownClick : Input := .event (fun _ => false) (· = 0)

/-- What the session `key` sees when it joins the room `r` of a scenario and then clicks. -/
def seenOnJoining (keys : List SessionKey) (self : Session) (key : SessionKey)
    (clicks : List Input) (r : TetrisRoom) :
    Option (TetrisRoom × Watched) := do
  let r' ← r.step (scenarioEnv keys .lobby 0) (taskOf key .join)
  let w ← Watched.takeFromLobby self ((received key r'.out).map .packet ++ clicks)
  some (r', w)

/-- What it sees when the room comes to its click. -/
def seenOnReady (keys : List SessionKey) (self : Session) (key : SessionKey) (r : TetrisRoom)
    (w : Watched) :
    Option (TetrisRoom × Watched) := do
  let r' ← r.step (scenarioEnv keys .room 0) (taskOf key .ready)
  let w' ← w.takeAll self.id ((received key r'.out).map .packet)
  some (r', w')

instance (r : TetrisRoom) (key : SessionKey) : Decidable (Sits r key) := by
  unfold Sits; infer_instance

instance (r : TetrisRoom) : Decidable (NobodyReady r) := by
  unfold NobodyReady; infer_instance

instance (r r' : TetrisRoom) : Decidable (NobodyNew r r') := by
  unfold NobodyNew; infer_instance

theorem packetsOf_map (packets : List S2CPacket) : packetsOf (packets.map .packet) = packets := by
  rw [packetsOf, List.filterMap_map]
  exact List.filterMap_some

theorem viewing_joined (careful : Prop) {keys : List SessionKey} {self : Session}
    {key : SessionKey} {clicks : List Input} {r r' : TetrisRoom} {w : Watched}
    (hclicks : packetsOf clicks = []) (hkeys : keys.Pairwise fun k k' => k.playerId ≠ k'.playerId)
    (h : Reachable r) (hkind : r.kind ≠ .single) (hall : AllOf keys r)
    (hseen : seenOnJoining keys self key clicks r = some (r', w)) (hnew : ¬ Sits r key)
    (hsits : Sits r' key) (hcareful : careful → NobodyReady r) :
    Viewing careful self key r' (some w) := by
  unfold seenOnJoining at hseen
  obtain ⟨r₁, hstep, hseen⟩ := Option.bind_eq_some_iff.mp hseen
  obtain ⟨w₁, htaken, hseen⟩ := Option.bind_eq_some_iff.mp hseen
  obtain ⟨rfl, rfl⟩ := Prod.mk.inj (Option.some.inj hseen)
  rw [← htaken]
  refine .joined (lifetime_of_reachable h) hkind _ _ (scenarioEnv_serves .lobby 0 hkeys hall)
    hstep hnew hsits hcareful _ ?_
  rw [packetsOf, List.filterMap_append, ← packetsOf, ← packetsOf, packetsOf_map, hclicks,
    List.append_nil]

theorem viewing_ready (careful : Prop) {keys : List SessionKey} {self : Session} {key : SessionKey}
    {r r' : TetrisRoom} {w w' : Watched}
    (hkeys : keys.Pairwise fun k k' => k.playerId ≠ k'.playerId)
    (h : Viewing careful self key r (some w)) (hall : AllOf keys r)
    (hseen : seenOnReady keys self key r w = some (r', w')) (hsits : Sits r' key)
    (hcareful : Careful r r' w.client) : Viewing careful self key r' (some w') := by
  unfold seenOnReady at hseen
  obtain ⟨r₁, hstep, hseen⟩ := Option.bind_eq_some_iff.mp hseen
  obtain ⟨w₁, htaken, hseen⟩ := Option.bind_eq_some_iff.mp hseen
  obtain ⟨rfl, rfl⟩ := Prod.mk.inj (Option.some.inj hseen)
  rw [← htaken]
  refine h.step _ _ (scenarioEnv_serves .room 0 hkeys hall) hstep hsits (fun _ x hx => ?_)
    _ (packetsOf_map _)
  obtain rfl := Option.some.inj hx
  exact hcareful

/-- The guest of a room for two gets ready: his click has been answered, and he sees everything. -/
theorem client_knowsRoom_guest : ∃ r w, Viewing True ⟨2, "guest", true⟩ guestKey r (some w) ∧
    r.roomState = .wait ∧ w.client.memberIds = [2, 1] ∧ w.client.hostIds = [1] ∧
    w.client.readyIds = [2] ∧
    KnowsRoom r w.client := by
  have hrun : ((seenOnJoining [hostKey, guestKey] ⟨2, "guest", true⟩ guestKey [ownClick]
      (scenarioRoom .two [hostKey, guestKey] hostKey)).any fun s =>
        decide (Sits s.1 guestKey ∧ AllOf [hostKey, guestKey] s.1 ∧ s.1.roomState = .wait ∧
          s.2.clicked = true) &&
        (seenOnReady [hostKey, guestKey] ⟨2, "guest", true⟩ guestKey s.1 s.2).any fun s' =>
          decide (Sits s'.1 guestKey ∧ NobodyNew s.1 s'.1 ∧ s'.1.roomState = .wait ∧
            s'.2.client.memberIds = [2, 1] ∧ s'.2.client.hostIds = [1] ∧
            s'.2.client.readyIds = [2] ∧
            s'.2.clicked = false)) = true := by
    decide +kernel
  obtain ⟨⟨r, w⟩, hseen, h⟩ := (Option.any_eq_true _ _).mp hrun
  obtain ⟨hbefore, h⟩ := Bool.and_eq_true_iff.mp h
  obtain ⟨hsits, hall, hwait, _⟩ := of_decide_eq_true hbefore
  obtain ⟨⟨r', w'⟩, hseen', h⟩ := (Option.any_eq_true _ _).mp h
  obtain ⟨hsits', hnew, hwait', hmembers, hhosts, hready, hclicked⟩ := of_decide_eq_true h
  have hjoined := viewing_joined True (by decide) (by decide)
    (.created (scenarioRoom_created .two (by decide)))
    (by decide) (by decide +kernel) hseen (by decide +kernel) hsits fun _ => by decide +kernel
  have hview := viewing_ready True (by decide) hjoined hall hseen' hsits'
    ⟨fun hc => absurd hnew hc, fun hplay => by rw [hwait] at hplay; exact absurd hplay (by decide)⟩
  obtain ⟨x, hx, hknows⟩ := client_knowsRoom rfl rfl hview
  obtain rfl := Option.some.inj hx
  exact ⟨r', w', hview, hwait', hmembers, hhosts, hready, (hknows hwait').mpr hclicked⟩

/--
The creator of a room never learns that it is his, who comes when a guest is ready already
does not learn that, and a guest who has clicked sees himself ready before the server does.
-/
theorem client_not_told :
    (∃ r w, Viewing False ⟨1, "host", true⟩ hostKey r (some w) ∧ r.roomState = .wait ∧
      r.hostId = 1 ∧
      w.client.hostIds = [] ∧ ¬ KnowsRoom r w.client) ∧
    (∃ r w, Viewing False ⟨3, "third", true⟩ thirdKey r (some w) ∧ r.roomState = .wait ∧
      w.client.readyIds = [] ∧ ¬ KnowsRoom r w.client) ∧
    ∃ r w, Viewing False ⟨2, "guest", true⟩ guestKey r (some w) ∧ r.roomState = .wait ∧
      NobodyReady r ∧
      w.client.readyIds = [2] ∧ ¬ KnowsRoom r w.client := by
  refine ⟨?_, ?_, ?_⟩
  · have hrun : (Watched.takeFromLobby ⟨1, "host", true⟩
        ((received hostKey (scenarioRoom .two [hostKey] hostKey).out).map .packet)).any
          (fun w => decide (w.client.hostIds = [])) = true := by decide +kernel
    obtain ⟨w, htaken, h⟩ := (Option.any_eq_true _ _).mp hrun
    have hhosts := of_decide_eq_true h
    refine ⟨scenarioRoom .two [hostKey] hostKey, w, ?_, rfl, rfl, hhosts, fun hknows => ?_⟩
    · rw [← htaken]
      exact .created (scenarioRoom_created .two (by decide)) (by decide) (by decide +kernel) id
        _ (packetsOf_map _)
    · have hmem := (hknows.host 1).mpr rfl
      rw [hhosts] at hmem
      exact List.not_mem_nil hmem
  · have hrun :
        ((scenario [hostKey, guestKey, thirdKey]
          (scenarioRoom .five [hostKey, guestKey, thirdKey] hostKey)
        [(.lobby, taskOf guestKey .join), (.room, taskOf guestKey .ready)]).any fun r =>
          decide (r.kind ≠ .single ∧ AllOf [hostKey, guestKey, thirdKey] r ∧ ¬ Sits r thirdKey) &&
            (seenOnJoining [hostKey, guestKey, thirdKey] ⟨3, "third", true⟩ thirdKey [] r).any
            fun s =>
              decide (Sits s.1 thirdKey ∧ s.1.roomState = .wait ∧ s.2.client.readyIds = [] ∧
                ∃ p ∈ s.1.roomPlayers, p.hasSession = true ∧ p.sessionKey.playerId = 2 ∧
                  p.roomPlayerState = .ready)) = true := by
      decide +kernel
    obtain ⟨r, hr, h⟩ := (Option.any_eq_true _ _).mp hrun
    obtain ⟨hbefore, h⟩ := Bool.and_eq_true_iff.mp h
    obtain ⟨hkind, hall, hnew⟩ := of_decide_eq_true hbefore
    obtain ⟨⟨r', w⟩, hseen, h⟩ := (Option.any_eq_true _ _).mp h
    obtain ⟨hsits, hwait, hready, hguest⟩ := of_decide_eq_true h
    have hreach :=
      scenario_reachable (by decide) (.created (scenarioRoom_created .five (by decide))) hr
    refine ⟨r', w, viewing_joined False rfl (by decide) hreach hkind hall hseen hnew hsits
      False.elim, hwait, hready, fun hknows => ?_⟩
    have hmem := (hknows.ready 2).mpr hguest
    rw [hready] at hmem
    exact List.not_mem_nil hmem
  · have hrun : ((seenOnJoining [hostKey, guestKey] ⟨2, "guest", true⟩ guestKey [ownClick]
        (scenarioRoom .two [hostKey, guestKey] hostKey)).any fun s => decide (Sits s.1 guestKey ∧
          s.1.roomState = .wait ∧ NobodyReady s.1 ∧ s.2.client.readyIds = [2] ∧
          ¬ ∃ p ∈ s.1.roomPlayers, p.hasSession = true ∧ p.sessionKey.playerId = 2 ∧
            p.roomPlayerState = .ready)) = true := by
      decide +kernel
    obtain ⟨⟨r, w⟩, hseen, h⟩ := (Option.any_eq_true _ _).mp hrun
    obtain ⟨hsits, hwait, hnobody, hready, hguest⟩ := of_decide_eq_true h
    refine ⟨r, w, viewing_joined False (by decide) (by decide)
      (.created (scenarioRoom_created .two (by decide)))
      (by decide) (by decide +kernel) hseen (by decide +kernel) hsits False.elim, hwait,
      hnobody, hready, fun hknows => hguest ((hknows.ready 2).mp ?_)⟩
    rw [hready]
    exact List.mem_cons_self

end Client

end ProjectTetris

import ProjectTetris.Client.ScreenSteps
import ProjectTetris.Client.SessionPath

/-!
# The screen follows the server

Packets that change the mode of a session come in turn: into a room, back to the lobby.
The client is on the right screen for each of them as long as it does not look at the
ranking meanwhile. The notice that it has been kicked, though, always finds it in a room,
where nobody reads it.
-/

namespace ProjectTetris

open Client Transition

namespace Connection

variable {me : Session}

/-! ## What is on its way -/

/-- Packets that take a client in or out of a room to where the server has it. -/
inductive Told (me : Session) : Bool → List S2CPacket → Bool → Prop
  | nil (b : Bool) : Told me b [] b
  | room {packet : S2CPacket} {rest : List S2CPacket} {b : Bool} (capacity : Int)
      (hroom : packet.roomCapacity = some capacity) (hcapacity : capacity = 1 ∨ capacity = 2 ∨
        capacity = 5)
      (h : Told me true rest b) : Told me false (packet :: rest) b
  | notice {rest : List S2CPacket} {b : Bool} (h : Told me true rest b) :
      Told me true (.info kicked :: rest) b
  | lobby {rest : List S2CPacket} {b : Bool} (h : Told me false rest b) :
      Told me true (.removePlayer me.id :: rest) b
  | other {packet : S2CPacket} {rest : List S2CPacket} {a b : Bool}
      (hother : packet.changesMode me = false)
      (h : Told me a rest b) : Told me a (packet :: rest) b

theorem Told.append {l l' : List S2CPacket} {a b b' : Bool} (h : Told me a l b)
    (h' : Told me b l' b') :
    Told me a (l ++ l') b' := by
  induction h with
  | nil => exact h'
  | room capacity hroom hcapacity _ ih => exact .room capacity hroom hcapacity (ih h')
  | notice _ ih => exact .notice (ih h')
  | lobby _ ih => exact .lobby (ih h')
  | other hother _ ih => exact .other hother (ih h')

/-- The server has the session in a room, or has not yet told the client that it is out. -/
def toldRoom (p : SessionPath) : Bool := decide (p.modeState = .room) || p.entering

/-- The server's side of one session, between two steps. -/
structure PathInv (p : SessionPath) : Prop where
  deciding : p.deciding = true → p.modeState = .lobby ∧ p.entry = .pending ∧ p.entering = false
  entering : p.entering = true → p.modeState = .lobby ∧ p.entry = .pending ∧ p.registered = false
  seated : p.seat.isSome = true → p.modeState = .room
  leaving : p.leaving = true → p.modeState = .room ∧ p.seat = none
  result : p.result.isSome = true → p.modeState = .room
  queued : p.result = some .queued → p.entry ≠ .empty
  cleared : p.result = some .cleared → p.entry = .empty
  inRoom : p.modeState = .room → p.result = none → p.entry = .empty ∧ p.registered = false

structure ConnectionInv (me : Session) (c : Connection) : Prop where
  client : c.client.Sound me
  server : PathInv c.server
  told : Told me c.client.target.isPlay c.packets (toldRoom c.server)
  ranking : c.client.target = .ranking → ¬ c.Unanswered

theorem start_inv {c : Connection} (h : start c) : ConnectionInv me c := by
  cases h
  refine ⟨⟨fun h => Bool.noConfusion h, fun room h => Screen.noConfusion h⟩, ?_, .nil false,
    fun h => Screen.noConfusion h⟩
  constructor <;> simp [SessionPath.inLobby]

/-! ## The server -/

namespace PathInv

variable {p p' : SessionPath}

/-- In the room nobody decides about the session. -/
theorem deciding_of_room (h : PathInv p) (hroom : p.modeState = .room) : p.deciding = false := by
  cases hdeciding : p.deciding with
  | false => rfl
  | true => exact absurd ((h.deciding hdeciding).1.symm.trans hroom) (by decide)

theorem entering_of_room (h : PathInv p) (hroom : p.modeState = .room) : p.entering = false := by
  cases hentering : p.entering with
  | false => rfl
  | true => exact absurd ((h.entering hentering).1.symm.trans hroom) (by decide)

theorem deciding_of_entering (h : PathInv p) (hentering : p.entering = true) :
    p.deciding = false := by
  cases hdeciding : p.deciding with
  | false => rfl
  | true => exact absurd ((h.deciding hdeciding).2.2.symm.trans hentering) (by decide)

theorem beginRoomTransition (h : PathInv p) (hp : p.beginRoomTransition = some p') :
    PathInv p' ∧ toldRoom p' = toldRoom p := by
  unfold SessionPath.beginRoomTransition at hp
  split at hp
  · rename_i hlobby
    cases hp
    have hentering : p.entering = false := by
      cases hentering : p.entering with
      | false => rfl
      | true =>
          have hpending := (h.entering hentering).2.1
          rw [hlobby.2] at hpending
          exact ActiveEntryState.noConfusion hpending
    exact ⟨{ h with
      deciding := fun _ => ⟨hlobby.1, rfl, hentering⟩
      entering := fun hc => absurd (hentering.symm.trans hc) (by decide)
      queued := fun _ => by simp
      cleared := fun hc => by
        have hroom := h.result (by rw [hc]; rfl)
        rw [hlobby.1] at hroom
        exact ModeState.noConfusion hroom
      inRoom := fun hc => by
        have hroom : p.modeState = .room := hc
        rw [hlobby.1] at hroom
        exact ModeState.noConfusion hroom }, rfl⟩
  · cases hp

theorem accept {capacity : Int} (h : PathInv p) (hp : p.accept capacity = some p') :
    PathInv p' ∧ p.deciding = true ∧ toldRoom p = false ∧ toldRoom p' = true := by
  unfold SessionPath.accept at hp
  split at hp
  · rename_i hdeciding
    cases hp
    obtain ⟨hlobby, hpending, hentering⟩ := h.deciding hdeciding.1
    have hleaving : p.leaving = false := by
      cases hleaving : p.leaving with
      | false => rfl
      | true => exact absurd ((h.leaving hleaving).1.symm.trans hlobby) (by decide)
    refine ⟨?_, hdeciding.1, ?_, ?_⟩
    · constructor <;> simp_all
    · simp [toldRoom, hlobby, hentering]
    · simp [toldRoom]
  · cases hp

theorem reject (h : PathInv p) (hp : p.reject = some p') :
    PathInv p' ∧ toldRoom p' = toldRoom p ∧ p.deciding = true := by
  unfold SessionPath.reject at hp
  split at hp
  · rename_i hdeciding
    cases hp
    obtain ⟨hlobby, hpending, hentering⟩ := h.deciding hdeciding
    refine ⟨?_, rfl, hdeciding⟩
    have hno : ¬ p.modeState = .room := by
      rw [hlobby]
      decide
    refine ⟨fun hc => Bool.noConfusion hc, fun hc => absurd (hentering.symm.trans hc) (by decide),
      h.seated, h.leaving, h.result, fun _ => ?_, fun hc => ?_, fun hroom => absurd hroom hno⟩
    · simp [hpending]
    · exact absurd (h.result (by rw [hc]; rfl)) hno
  · cases hp

theorem clearEntry (h : PathInv p) (hp : p.clearEntry = some p') :
    PathInv p' ∧ toldRoom p' = toldRoom p ∧
    p'.deciding = p.deciding := by
  unfold SessionPath.clearEntry at hp
  split at hp
  · rename_i hqueued
    cases hp
    have hroom := h.result (by rw [hqueued]; rfl)
    rw [if_neg (h.queued hqueued)]
    refine ⟨?_, rfl, rfl⟩
    have hdeciding := h.deciding_of_room hroom
    have hentering := h.entering_of_room hroom
    have hseat := fun hleaving => (h.leaving hleaving).2
    constructor <;> simp_all
  · cases hp

theorem removeActiveSession (h : PathInv p) (hp : p.removeActiveSession = some p') :
    PathInv p' ∧ toldRoom p' = toldRoom p ∧ p'.deciding = p.deciding := by
  unfold SessionPath.removeActiveSession at hp
  split at hp
  · rename_i hcleared
    cases hp
    refine ⟨?_, rfl, rfl⟩
    have hempty := h.cleared hcleared
    exact { h with
      entering := fun hc => ⟨(h.entering hc).1, (h.entering hc).2.1, rfl⟩
      result := fun hc => Bool.noConfusion hc
      queued := fun hc => absurd hc (by simp)
      cleared := fun hc => absurd hc (by simp)
      inRoom := fun _ _ => ⟨hempty, rfl⟩ }
  · cases hp

theorem requestLobbyTransition (h : PathInv p) (hp : p.requestLobbyTransition = some p') :
    PathInv p' ∧ toldRoom p' = toldRoom p ∧ p'.deciding = p.deciding ∧ toldRoom p = true := by
  unfold SessionPath.requestLobbyTransition at hp
  split at hp
  · rename_i hseat
    cases hp
    have hroom := h.seated hseat
    exact ⟨{ h with seated := fun hc => Bool.noConfusion hc, leaving := fun _ => ⟨hroom, rfl⟩ },
      rfl, rfl, by
      simp [toldRoom, hroom]⟩
  · cases hp

/-- `ENTER_LOBBY` finds the way free, if the result of the transition has been dealt with. -/
theorem enterLobby (h : PathInv p) (hresult : p.result = none) (hp : p.enterLobby = some p') :
    PathInv p' ∧ toldRoom p' = toldRoom p ∧ p'.deciding = p.deciding := by
  unfold SessionPath.enterLobby at hp
  split at hp
  · rename_i hleaving
    cases hp
    obtain ⟨hroom, hseat⟩ := h.leaving hleaving
    obtain ⟨hempty, hregistered⟩ := h.inRoom hroom hresult
    rw [if_pos ⟨hroom, hempty⟩]
    refine ⟨?_, by simp [toldRoom, hroom], rfl⟩
    have hdeciding := h.deciding_of_room hroom
    constructor <;> simp_all
  · cases hp

/-- The rest of `ENTER_LOBBY`: the client is told. -/
theorem completeEnterLobby {told : Bool} (h : PathInv p)
    (hp : p.completeEnterLobby = some (p', told)) :
    PathInv p' ∧ told = true ∧ toldRoom p = true ∧ toldRoom p' = false ∧
    p'.deciding = p.deciding := by
  unfold SessionPath.completeEnterLobby at hp
  split at hp
  · rename_i hentering
    obtain ⟨hlobby, hpending, hregistered⟩ := h.entering hentering
    rw [if_pos hpending, if_neg (by simp [hregistered])] at hp
    cases hp
    have hno : ¬ p.modeState = .room := by
      rw [hlobby]
      decide
    have hdeciding := h.deciding_of_entering hentering
    have hresult : p.result = none := by
      rcases Option.eq_none_or_eq_some p.result with hnone | ⟨stage, hsome⟩
      · exact hnone
      · exact absurd (h.result (by rw [hsome]; rfl)) hno
    refine ⟨⟨fun hc => absurd (hdeciding.symm.trans hc) (by decide),
      fun hc => Bool.noConfusion hc, h.seated, h.leaving,
      h.result, fun hc => absurd (hresult.symm.trans hc) (by simp),
      fun hc => absurd (hresult.symm.trans hc) (by simp),
      fun hc => absurd hc hno⟩, rfl, ?_, ?_, rfl⟩
    · simp [toldRoom, hentering]
    · simp [toldRoom, hlobby]
  · cases hp

end PathInv

/-! ## The client -/

theorem changesMode_of_capacity {packet : S2CPacket} (h : packet.changesMode me = false) :
    packet.roomCapacity = none ∧ packet ≠ .removePlayer me.id ∧ packet ≠ .info kicked := by
  simp only [S2CPacket.changesMode, Bool.or_eq_false_iff, decide_eq_false_iff_not] at h
  exact ⟨Option.not_isSome_iff_eq_none.mp (by simp [h.1.1]), h.1.2, h.2⟩

theorem enterRoom_of_capacity {g : GameLoop} {popup : Option Int} {packet : S2CPacket}
    {capacity : Int} (hstate : g.state = .lobby popup)
    (hroom : packet.roomCapacity = some capacity) :
    g.handlePacket me packet = some (g.enterRoom me capacity) := by
  unfold GameLoop.handlePacket
  rw [hstate]
  cases packet with
  | addPublicRoom key capacity' name =>
      obtain rfl := Option.some.inj hroom
      rfl
  | addPrivateRoom key capacity' name password =>
      obtain rfl := Option.some.inj hroom
      rfl
  | _ => exact nomatch hroom

/-- What one packet does to a client that is where the packets so far have led it. -/
structure Drained (me : Session) (g : GameLoop) (packet : S2CPacket) (rest : List S2CPacket)
    (b : Bool) (g' : GameLoop) : Prop where
  client : g'.Sound me
  told : Told me g'.target.isPlay rest b
  ranking : g'.target = .ranking → g.target = .ranking
  right : HandledRight me packet g' ↔ packet ≠ .info kicked

/-- A slot that is found has somebody in it. -/
theorem deleteUser_isSome (room : MultiPlayState) (id : Int) :
    (room.deleteUser id).isSome = true := by
  unfold MultiPlayState.deleteUser
  cases hslot : room.slotOf id with
  | none => rfl
  | some i =>
      obtain ⟨hlt, hid, _⟩ := List.findIdx?_eq_some_iff_getElem.mp hslot
      obtain ⟨session, hsession, _⟩ := Option.any_eq_true _ _ |>.mp hid
      simp only [List.getElem?_eq_getElem hlt, hsession, Option.bind_eq_bind, Option.bind_some]
      split <;> rfl

/-- **Packets that change the mode never raise**, on no screen and in no room. -/
theorem handlePacket_changesMode (g : GameLoop) {packet : S2CPacket}
    (h : packet.changesMode me = true) :
    ∃ g', g.handlePacket me packet = some g' := by
  unfold GameLoop.handlePacket
  cases hstate : g.state with
  | lobby popup => cases packet <;> exact ⟨_, rfl⟩
  | ranking => exact ⟨_, rfl⟩
  | single => cases packet <;> exact ⟨_, rfl⟩
  | multi room =>
      have hroom : ∃ room', room.handlePacket packet = some room' := by
        cases packet with
        | removePlayer id => exact Option.isSome_iff_exists.mp (deleteUser_isSome room id)
        | updateHost _ | addPlayer _ _ | ready _ _ =>
            simp [S2CPacket.changesMode, S2CPacket.roomCapacity] at h
        | _ => exact ⟨_, rfl⟩
      obtain ⟨room', hroom⟩ := hroom
      exact ⟨_, by simp only [hroom, Option.bind_eq_bind, Option.bind_some]; rfl⟩

/-- **One packet**, which the client is on the right screen for. -/
theorem drained (hme : me.isSelf = true) {g g' : GameLoop} {packet : S2CPacket}
    {rest : List S2CPacket} {b : Bool} (h : g.Sound me) (hnext : g.nextState = none)
    (htold : Told me g.target.isPlay (packet :: rest) b)
    (hranking : g.target = .ranking → packet.roomCapacity = none)
    (hg : g.handlePacket me packet = some g') :
    Drained me g packet rest b g' := by
  have htarget := GameLoop.target_of_none hnext
  rw [htarget] at htold hranking
  have hright : ∀ {g' : GameLoop}, packet.changesMode me = false →
      (HandledRight me packet g' ↔ packet ≠ .info kicked) := by
    intro g' hother
    obtain ⟨hcapacity, hremove, hkicked⟩ := changesMode_of_capacity hother
    refine ⟨fun _ => hkicked,
      fun _ => ⟨fun hc => ?_, fun hc => absurd hc hkicked, fun hc => absurd hc hremove⟩⟩
    rw [hcapacity] at hc
    exact Bool.noConfusion hc
  cases hstate : g.state with
  | lobby popup =>
      rw [hstate] at htold
      cases htold with
      | room capacity hroom hcapacity htold =>
          rw [enterRoom_of_capacity hstate hroom] at hg
          cases hg
          obtain ⟨next, heq, hplay, howned⟩ := @GameLoop.enterRoom_ok me _ _ hcapacity
          rw [heq]
          refine ⟨GameLoop.sound_queueState hnext howned, ?_, fun hr => ?_, ?_⟩
          · rw [GameLoop.target_queueState hnext, hplay]
            exact htold
          · rw [GameLoop.target_queueState hnext] at hr
            rw [hr] at hplay
            exact Bool.noConfusion hplay
          · refine ⟨fun _ hc => ?_,
              fun _ => ⟨fun _ => ⟨next, GameLoop.nextState_queueState hnext, hplay⟩, fun hc => ?_,
              fun hc => ?_⟩⟩
            · rw [hc] at hroom
              exact nomatch hroom
            · rw [hc] at hroom
              exact nomatch hroom
            · rw [hc] at hroom
              exact nomatch hroom
      | other hother htold =>
          -- the lobby stays the lobby, perhaps with another notice
          have hlobby : ∃ popup', g' = { g with state := .lobby popup' } := by
            have hcapacity := (changesMode_of_capacity hother).1
            unfold GameLoop.handlePacket at hg
            rw [hstate] at hg
            cases packet with
            | info code =>
                cases hg
                exact ⟨some code, rfl⟩
            | addPublicRoom key capacity name => exact nomatch hcapacity
            | addPrivateRoom key capacity name password => exact nomatch hcapacity
            | _ =>
                cases hg
                exact ⟨popup, by rw [← hstate]⟩
          obtain ⟨popup', rfl⟩ := hlobby
          have htarget' : ({ g with state := .lobby popup' } : GameLoop).target = .lobby popup' :=
            GameLoop.target_of_none hnext
          refine ⟨⟨fun hsome => ?_, fun room hroom => ?_⟩, ?_, fun hr => ?_, hright hother⟩
          · exact h.fading hsome
          · rw [htarget'] at hroom
            exact Screen.noConfusion hroom
          · rw [htarget']
            exact htold
          · rw [htarget'] at hr
            exact Screen.noConfusion hr
  | ranking =>
      rw [hstate] at htold
      unfold GameLoop.handlePacket at hg
      rw [hstate] at hg
      cases hg
      cases htold with
      | room capacity hroom hcapacity htold => rw [hranking hstate] at hroom; exact nomatch hroom
      | other hother htold =>
          refine ⟨h, ?_, id, hright hother⟩
          rw [htarget, hstate]
          exact htold
  | single =>
      rw [hstate] at htold
      unfold GameLoop.handlePacket at hg
      rw [hstate] at hg
      cases htold with
      | notice htold =>
          cases hg
          refine ⟨h, by rw [htarget, hstate]; exact htold, id,
            fun hc => ?_, fun hc => absurd rfl hc⟩
          have hshown := hc.notice rfl
          rw [hstate] at hshown
          exact Screen.noConfusion hshown
      | lobby htold =>
          dsimp only at hg
          rw [if_pos rfl] at hg
          cases hg
          refine ⟨GameLoop.sound_queueState hnext fun room hroom => Screen.noConfusion hroom, ?_,
            fun hr => ?_, ?_⟩
          · rw [GameLoop.target_queueState hnext]
            exact htold
          · rw [GameLoop.target_queueState hnext] at hr
            exact Screen.noConfusion hr
          · refine ⟨fun _ hc => S2CPacket.noConfusion hc, fun _ => ⟨fun hc => Bool.noConfusion hc,
              fun hc => S2CPacket.noConfusion hc, fun _ => ?_⟩⟩
            rw [GameLoop.target_queueState hnext]
            rfl
      | other hother htold =>
          have hsame : g' = g := by
            have hremove := (changesMode_of_capacity hother).2.1
            cases packet with
            | removePlayer id =>
                dsimp only at hg
                rw [if_neg fun hc => hremove (congrArg S2CPacket.removePlayer hc)] at hg
                cases hg
                rfl
            | _ =>
                cases hg
                rfl
          subst hsame
          exact ⟨h, by rw [htarget, hstate]; exact htold, id, hright hother⟩
  | multi room =>
      rw [hstate] at htold
      unfold GameLoop.handlePacket at hg
      rw [hstate] at hg
      obtain ⟨room', hroom', hmoved⟩ := Option.bind_eq_some_iff.mp hg
      have howned := (h.owned room (by rw [htarget, hstate])).handlePacket hme hroom'
      -- still in the room, which is its own
      have hstays : packet ≠ .removePlayer me.id → room'.Owned me ∧
          g' = { g with state := .multi room' } := by
        intro hne
        rcases howned with ⟨hc, _⟩ | ⟨_, howned⟩
        · exact absurd hc hne
        · refine ⟨howned, ?_⟩
          dsimp only at hmoved
          rw [if_neg (by simp [howned.here])] at hmoved
          cases hmoved
          rfl
      have hnext' : ({ g with state := .multi room' } : GameLoop).nextState = none := hnext
      have htarget' : ({ g with state := .multi room' } : GameLoop).target = .multi room' :=
        GameLoop.target_of_none hnext'
      have hstill : room'.Owned me → ({ g with state := .multi room' } : GameLoop).Sound me := by
        intro howned
        refine ⟨fun hsome => h.fading hsome, fun x hx => ?_⟩
        rw [htarget'] at hx
        rw [← Screen.multi.inj hx]
        exact howned
      cases htold with
      | notice htold =>
          obtain ⟨howned, rfl⟩ := hstays (by simp)
          refine ⟨hstill howned, by rw [htarget']; exact htold,
            fun hr => ?_, fun hc => ?_, fun hc => absurd rfl hc⟩
          · rw [htarget'] at hr
            exact Screen.noConfusion hr
          · exact Screen.noConfusion (hc.notice rfl)
      | lobby htold =>
          rcases howned with ⟨_, hleft⟩ | ⟨hc, _⟩
          · dsimp only at hmoved
            rw [if_pos hleft] at hmoved
            cases hmoved
            refine ⟨GameLoop.sound_queueState hnext' fun room hroom => Screen.noConfusion hroom,
              ?_, fun hr => ?_, ?_⟩
            · rw [GameLoop.target_queueState hnext']
              exact htold
            · rw [GameLoop.target_queueState hnext'] at hr
              exact Screen.noConfusion hr
            · refine ⟨fun _ hc => S2CPacket.noConfusion hc,
                fun _ => ⟨fun hc => Bool.noConfusion hc,
                fun hc => S2CPacket.noConfusion hc, fun _ => ?_⟩⟩
              rw [GameLoop.target_queueState hnext']
              rfl
          · exact absurd rfl hc
      | other hother htold =>
          obtain ⟨howned, rfl⟩ := hstays (changesMode_of_capacity hother).2.1
          refine ⟨hstill howned, by rw [htarget']; exact htold, fun hr => ?_, hright hother⟩
          rw [htarget'] at hr
          exact Screen.noConfusion hr

/-! ## A step -/

theorem read_requests {c c' : Connection} {request : Request} (h : c.read request = some c') :
    c'.client = c.client ∧ c'.server = c.server ∧ c'.packets = c.packets ∧
    c.requests = request :: c'.requests := by
  unfold read at h
  split at h
  · rename_i first rest hrequests
    split at h
    · rename_i hfirst
      cases h
      exact ⟨rfl, rfl, rfl, by rw [hrequests, hfirst]⟩
    · cases h
  · cases h

/-- The server has moved on, and has sent what the client must know. -/
theorem ConnectionInv.served {c c' : Connection} (h : ConnectionInv me c) (sent : List S2CPacket)
    (hclient : c'.client = c.client) (hpackets : c'.packets = c.packets ++ sent)
    (hserver : PathInv c'.server) (htold : Told me (toldRoom c.server) sent (toldRoom c'.server))
    (hasked : c'.Unanswered → c.Unanswered) : ConnectionInv me c' := by
  refine ⟨by rw [hclient]; exact h.client, hserver, ?_, fun hr hc => ?_⟩
  · rw [hclient, hpackets]
    exact h.told.append htold
  · rw [hclient] at hr
    exact h.ranking hr (hasked hc)

/-- A step of the server alone, of which the client hears nothing. -/
theorem ConnectionInv.quiet {c : Connection} {p : SessionPath} (h : ConnectionInv me c)
    (hserver : PathInv p) (hsame : toldRoom p = toldRoom c.server)
    (hdeciding : p.deciding = c.server.deciding) :
    ConnectionInv me { c with server := p } := by
  refine h.served [] rfl (List.append_nil _).symm hserver (by rw [hsame]; exact .nil _)
    fun hc => ?_
  rcases hc with hc | hc | hc
  · exact .inl hc
  · exact .inr (.inl (hdeciding ▸ hc))
  · exact .inr (.inr hc)

theorem unanswered_of_read {c c' : Connection} {request : Request} (h : c.read request = some c')
    (hc : c'.Unanswered) :
    c.Unanswered := by
  obtain ⟨_, hserver, hpackets, hrequests⟩ := read_requests h
  rcases hc with hc | hc | hc
  · exact .inl (by rw [hrequests]; exact List.mem_cons_of_mem _ hc)
  · exact .inr (.inl (hserver ▸ hc))
  · exact .inr (.inr (hpackets ▸ hc))

/-- A packet that shows no room answers no request, and asks for nothing. -/
theorem unanswered_of_sent {c : Connection} {p : SessionPath} {packet : S2CPacket}
    (hdeciding : p.deciding = c.server.deciding) (hcapacity : packet.roomCapacity = none)
    (hc : Unanswered { c with server := p, packets := c.packets ++ [packet] }) : c.Unanswered := by
  rcases hc with hc | hc | ⟨packet', hmem, hroom⟩
  · exact .inl hc
  · exact .inr (.inl (hdeciding ▸ hc))
  · rcases List.mem_append.mp hmem with hmem | hmem
    · exact .inr (.inr ⟨packet', hmem, hroom⟩)
    · rw [List.mem_singleton.mp hmem, hcapacity] at hroom
      exact Bool.noConfusion hroom

/-- A frame of the client. -/
theorem inv_update {c : Connection} {dtMs : ℚ} {events : List Click} (h : ConnectionInv me c)
    (hcareful : Careful (.update dtMs events) c) :
    ConnectionInv me { c with
      client := (c.client.update dtMs events).1
      requests := c.requests ++ (c.client.update dtMs events).2 } := by
  let handed := if c.client.isInputBlocked then [] else events
  have hclicked := GameLoop.clicked_handleEvents handed c.client
  have htarget : (c.client.update dtMs events).1.target =
      (c.client.handleEvents handed).1.target :=
    GameLoop.target_endFrame _ dtMs
  have hfading := GameLoop.fading_endFrame dtMs (hclicked.fading h.client.fading)
  have hunblocked : ∀ {click : Click}, click ∈ handed → c.client.isInputBlocked = false := by
    intro click hmem
    cases hblocked : c.client.isInputBlocked with
    | false => rfl
    | true =>
        rw [show handed = [] from if_pos hblocked] at hmem
        exact absurd hmem List.not_mem_nil
  -- what was clicked on, if the ranking comes next
  have hranking : (c.client.handleEvents handed).1.target = .ranking →
      ¬ c.Unanswered ∧ .room ∉ (c.client.handleEvents handed).2 := by
    intro hr
    rcases hclicked.ranking hr with hr | ⟨hmem, hlobby⟩
    · refine ⟨h.ranking hr, fun hroom => ?_⟩
      obtain ⟨hmem, hlobby⟩ := hclicked.room hroom
      have hunblocked := hunblocked hmem
      have hnone : c.client.nextState = none := by
        rcases Option.eq_none_or_eq_some c.client.nextState with hnone | ⟨next, hsome⟩
        · exact hnone
        · have hout := h.client.fading (by rw [hsome]; rfl)
          rw [GameLoop.isInputBlocked, hout] at hunblocked
          exact Bool.noConfusion hunblocked
      rw [GameLoop.target_of_none hnone] at hr
      rw [hr] at hlobby
      exact Bool.noConfusion hlobby
    · have hunblocked := hunblocked hmem
      have hevents : handed = events := if_neg (by simp [hunblocked])
      obtain ⟨hno, hroom⟩ := hcareful (hevents ▸ hmem) hlobby hunblocked
      exact ⟨hno, fun hc => hroom (hevents ▸ (hclicked.room hc).1)⟩
  refine ⟨⟨hfading, fun room hroom => ?_⟩, h.server, ?_, fun hr hc => ?_⟩
  · rw [htarget] at hroom
    exact h.client.owned room (hclicked.multi room hroom)
  · show Told me (c.client.update dtMs events).1.target.isPlay c.packets _
    rw [htarget, hclicked.isPlay]
    exact h.told
  · have hr : (c.client.update dtMs events).1.target = .ranking := hr
    rw [htarget] at hr
    obtain ⟨hno, hroom⟩ := hranking hr
    rcases hc with hc | hc | hc
    · rcases List.mem_append.mp hc with hc | hc
      · exact hno (.inl hc)
      · exact hroom hc
    · exact hno (.inr (.inl hc))
    · exact hno (.inr (.inr hc))

theorem inv_step (hme : me.isSelf = true) {a : ConnectionAction} {c c' : Connection}
    (h : ConnectionInv me c) (hcareful : Careful a c) (hstep : step me a c = some c') :
    ConnectionInv me c' := by
  cases a with
  | update dtMs events =>
      cases hstep
      exact inv_update h hcareful
  | drain =>
      dsimp only [step] at hstep
      split at hstep
      · rename_i packet rest hpackets
        split at hstep
        · rename_i hnext
          obtain ⟨g, hg, rfl⟩ := Option.map_eq_some_iff.mp hstep
          have hmem : packet ∈ c.packets := hpackets ▸ List.mem_cons_self ..
          have hranking : c.client.target = .ranking → packet.roomCapacity = none := by
            intro hr
            cases hroom : packet.roomCapacity with
            | none => rfl
            | some capacity =>
                exact absurd (.inr (.inr ⟨packet, hmem, by rw [hroom]; rfl⟩)) (h.ranking hr)
          have hdrained := drained hme h.client hnext (hpackets ▸ h.told) hranking hg
          refine ⟨hdrained.client, h.server, hdrained.told,
            fun hr hc => h.ranking (hdrained.ranking hr) ?_⟩
          rcases hc with hc | hc | ⟨packet', hmem', hroom⟩
          · exact .inl hc
          · exact .inr (.inl hc)
          · exact .inr (.inr ⟨packet', hpackets ▸ List.mem_cons_of_mem _ hmem', hroom⟩)
        · cases hstep
      · cases hstep
  | beginRoomTransition =>
      obtain ⟨c₁, hread, hstep⟩ := Option.bind_eq_some_iff.mp hstep
      obtain ⟨p, hp, hstep⟩ := Option.bind_eq_some_iff.mp hstep
      cases hstep
      obtain ⟨hclient, hserver, hpackets, hrequests⟩ := read_requests hread
      rw [hserver] at hp
      obtain ⟨hinv, hsame⟩ := h.server.beginRoomTransition hp
      -- the request is not answered before it is refused or accepted
      refine h.served [] hclient (hpackets.trans (List.append_nil _).symm) hinv
        (by rw [hsame]; exact .nil _) fun _ => ?_
      exact .inl (by rw [hrequests]; exact List.mem_cons_self ..)
  | refuse =>
      obtain ⟨hclient, hserver, hpackets, _⟩ := read_requests hstep
      exact h.served [] hclient (hpackets.trans (List.append_nil _).symm) (hserver ▸ h.server)
        (by rw [hserver]; exact .nil _) (unanswered_of_read hstep)
  | accept packet =>
      dsimp only [step] at hstep
      split at hstep
      · rename_i capacity hroom
        split at hstep
        · rename_i hcapacity
          obtain ⟨p, hp, hstep⟩ := Option.bind_eq_some_iff.mp hstep
          cases hstep
          obtain ⟨hinv, hdeciding, hbefore, hafter⟩ := h.server.accept hp
          refine h.served [packet] rfl rfl hinv ?_ fun _ => .inr (.inl hdeciding)
          rw [hbefore, hafter]
          exact .room capacity hroom hcapacity (.nil true)
        · cases hstep
      · cases hstep
  | reject =>
      obtain ⟨p, hp, hstep⟩ := Option.bind_eq_some_iff.mp hstep
      cases hstep
      obtain ⟨hinv, hsame, hdeciding⟩ := h.server.reject hp
      exact h.served [] rfl (List.append_nil _).symm hinv (by rw [hsame]; exact .nil _) fun _ =>
        .inr (.inl hdeciding)
  | clearEntry =>
      obtain ⟨p, hp, hstep⟩ := Option.bind_eq_some_iff.mp hstep
      cases hstep
      obtain ⟨hinv, hsame, hdeciding⟩ := h.server.clearEntry hp
      exact h.quiet hinv hsame hdeciding
  | removeActiveSession =>
      obtain ⟨p, hp, hstep⟩ := Option.bind_eq_some_iff.mp hstep
      cases hstep
      obtain ⟨hinv, hsame, hdeciding⟩ := h.server.removeActiveSession hp
      exact h.quiet hinv hsame hdeciding
  | leave =>
      obtain ⟨c₁, hread, hstep⟩ := Option.bind_eq_some_iff.mp hstep
      cases hstep
      obtain ⟨hclient, hserver, hpackets, hrequests⟩ := read_requests hread
      have hread' : ConnectionInv me c₁ :=
        h.served [] hclient (hpackets.trans (List.append_nil _).symm)
        (hserver ▸ h.server) (by rw [hserver]; exact .nil _) (unanswered_of_read hread)
      cases hp : c₁.server.requestLobbyTransition with
      | none => exact hread'
      | some p =>
          obtain ⟨hinv, hsame, hdeciding, _⟩ := hread'.server.requestLobbyTransition hp
          exact hread'.quiet hinv hsame hdeciding
  | kick =>
      dsimp only [step] at hstep
      split at hstep
      · cases hstep
      · obtain ⟨p, hp, hstep⟩ := Option.bind_eq_some_iff.mp hstep
        cases hstep
        obtain ⟨hinv, hsame, hdeciding, hroom⟩ := h.server.requestLobbyTransition hp
        refine h.served [.info kicked] rfl rfl hinv ?_ fun hc =>
          unanswered_of_sent hdeciding rfl hc
        rw [hsame, hroom]
        exact .notice (.nil true)
  | enterLobby =>
      obtain ⟨p, hp, hstep⟩ := Option.bind_eq_some_iff.mp hstep
      cases hstep
      obtain ⟨hinv, hsame, hdeciding⟩ := h.server.enterLobby hcareful hp
      exact h.quiet hinv hsame hdeciding
  | completeEnterLobby =>
      obtain ⟨⟨p, told⟩, hp, hstep⟩ := Option.bind_eq_some_iff.mp hstep
      cases hstep
      obtain ⟨hinv, rfl, hbefore, hafter, hdeciding⟩ := h.server.completeEnterLobby hp
      refine h.served [.removePlayer me.id] rfl rfl hinv ?_ fun hc =>
        unanswered_of_sent hdeciding rfl hc
      rw [hbefore, hafter]
      exact .lobby (.nil false)
  | send packet =>
      dsimp only [step] at hstep
      split at hstep
      · cases hstep
      · rename_i hother
        cases hstep
        have hother : packet.changesMode me = false := Bool.eq_false_iff.mpr hother
        exact h.served [packet] rfl rfl h.server (.other hother (.nil _)) fun hc =>
          unanswered_of_sent rfl (changesMode_of_capacity hother).1 hc

/-! ## A whole run -/

theorem reachable_inv (hme : me.isSelf = true) {c : Connection}
    (h : (carefulSystem me).Reachable c) :
    ConnectionInv me c := by
  refine invariant (fun _ => start_inv) (fun c c' hinv hnext => ?_) h
  obtain ⟨a, hcareful, hstep⟩ := hnext
  exact inv_step hme hinv hcareful hstep

/--
**Packets that change the mode find the client where they are meant for**, and in the end
it is where the server has it, if nobody opens the ranking with a room still asked for and
`ENTER_LOBBY` waits for the result of the transition before it. The notice of a kick alone
is never shown.
-/
theorem screen_follows_server (hme : me.isSelf = true) {c : Connection}
    (h : (carefulSystem me).Reachable c) :
    (∀ packet rest, c.packets = packet :: rest → c.client.nextState = none →
      (packet.changesMode me = true → ∃ g, c.client.handlePacket me packet = some g) ∧
      ∀ g, c.client.handlePacket me packet = some g →
      (HandledRight me packet g ↔ packet ≠ .info kicked)) ∧
    (Settled c → ScreenAgrees c) := by
  have hinv := reachable_inv hme h
  refine ⟨fun packet rest hpackets hnext => ⟨handlePacket_changesMode c.client, fun g hg => ?_⟩,
    fun hsettled => ?_⟩
  · refine (drained hme hinv.client hnext (hpackets ▸ hinv.told) (fun hr => ?_) hg).right
    cases hroom : packet.roomCapacity with
    | none => rfl
    | some capacity =>
        exact absurd (.inr (.inr ⟨packet, hpackets ▸ List.mem_cons_self .., by rw [hroom]; rfl⟩))
          (hinv.ranking hr)
  · obtain ⟨hpackets, hnext, hentering⟩ := hsettled
    have htold := hinv.told
    rw [hpackets, GameLoop.target_of_none hnext] at htold
    unfold ScreenAgrees
    generalize hplay : c.client.state.isPlay = isPlay at htold
    cases htold
    simp [toldRoom, hentering]

/-- The client of player 1. -/
def client1 : Session := ⟨1, "one", true⟩

/-- Into a room for two players, and out of it again. -/
def thereAndBack : List ConnectionAction :=
  [.update 20 [.room], .beginRoomTransition, .accept (.addPublicRoom 7 2 "room"), .drain,
    .update 500 [], .update 500 [],
    .clearEntry, .removeActiveSession, .update 20 [.exit], .leave, .enterLobby,
    .completeEnterLobby, .drain, .update 500 []]

theorem screen_follows_server_thereAndBack :
    ∃ c, System.follow (fun a c => decide (Careful a c)) (step client1) thereAndBack
    ⟨.init, [], .inLobby, []⟩ = some c ∧ c.client.state = .lobby none ∧ Settled c ∧
    ScreenAgrees c := by
  have hrun : ((System.follow (fun a c => decide (Careful a c)) (step client1) thereAndBack
      ⟨.init, [], .inLobby, []⟩).any fun c =>
      decide (c.client.state = .lobby none ∧ Settled c)) = true := by
    decide +kernel
  obtain ⟨c, hc, hrest⟩ := (Option.any_eq_true _ _).mp hrun
  obtain ⟨hlobby, hsettled⟩ := of_decide_eq_true hrest
  have hreach : (carefulSystem client1).Reachable c :=
    (System.Reachable.start rfl).follow (fun _ _ => of_decide_eq_true) hc
  exact ⟨c, hc, hlobby, hsettled, (screen_follows_server (by decide) hreach).2 hsettled⟩

/-- A room is asked for, and then the ranking opened. -/
def looksAtRanking : List ConnectionAction :=
  [.update 20 [.room], .update 20 [.ranking], .beginRoomTransition,
    .accept (.addPublicRoom 7 2 "room"), .update 500 [], .drain]

/-- Into a room for two players, whose host does not want company. -/
def isKicked : List ConnectionAction :=
  [.update 20 [.room], .beginRoomTransition, .accept (.addPublicRoom 7 2 "room"), .drain,
    .update 500 [], .kick]

/--
**A client left behind**: one goes on showing the ranking though the server has it in a
room, another is not told that it has been kicked.
-/
theorem client_leftBehind : (∃ c, (system client1).Reachable c ∧ Settled c ∧ ¬ ScreenAgrees c) ∧
    ∃ c packet rest g, (system client1).Reachable c ∧ c.packets = packet :: rest ∧
      c.client.nextState = none ∧
      c.client.handlePacket client1 packet = some g ∧ ¬ HandledRight client1 packet g := by
  have hranking :
      ((System.follow (fun _ _ => true) (step client1) looksAtRanking ⟨.init,
        [], .inLobby, []⟩).any
      fun c => decide (Settled c ∧ ¬ ScreenAgrees c)) = true := by decide +kernel
  have hkick :
    ((System.follow (fun _ _ => true) (step client1) isKicked ⟨.init, [], .inLobby, []⟩).any
      fun c =>
      decide (c.packets = [.info kicked] ∧ c.client.nextState = none) &&
        (c.client.handlePacket client1 (.info kicked)).any fun g =>
        decide (g.state ≠ .lobby (some kicked))) = true := by
    decide +kernel
  have hreach : ∀ {as : List ConnectionAction} {c : Connection},
      System.follow (fun _ _ => true) (step client1) as ⟨.init, [], .inLobby, []⟩ = some c →
      (system client1).Reachable c :=
      fun h => (System.Reachable.start rfl).follow (fun _ _ _ => trivial) h
  obtain ⟨c, hc, hrest⟩ := (Option.any_eq_true _ _).mp hranking
  obtain ⟨k, hk, hrest'⟩ := (Option.any_eq_true _ _).mp hkick
  simp only [Bool.and_eq_true, decide_eq_true_eq, Option.any_eq_true] at hrest'
  obtain ⟨⟨hpackets, hnext⟩, g, hg, hnot⟩ := hrest'
  exact ⟨⟨c, hreach hc, of_decide_eq_true hrest⟩, k, .info kicked, [], g, hreach hk,
    hpackets, hnext, hg, fun h => hnot (h.notice rfl)⟩

end Connection

end ProjectTetris

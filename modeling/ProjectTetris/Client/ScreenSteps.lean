import ProjectTetris.Client.GameLoop

/-!
# What the client's screens do

A packet, a click and the end of a frame, each with what it does to the screen the client
is on or on its way to.
-/

namespace ProjectTetris

namespace Client

namespace MultiPlayState

/-! ## The own slot -/

def sessions (c : MultiPlayState) : List (Option Session) := c.players.map (·.session)

/-- The client's own session has the first slot, and no other slot passes for it. -/
structure Owned (me : Session) (c : MultiPlayState) : Prop where
  first : c.sessions[0]? = some (some me)
  only : ∀ session, some session ∈ c.sessions → session.isSelf = true → session.id = me.id
  here : c.nextState = false

variable {me : Session} {c c' : MultiPlayState}

theorem Owned.congr (h : Owned me c) (hsessions : c'.sessions = c.sessions)
    (hnext : c'.nextState = c.nextState) :
    Owned me c' := by
  refine ⟨by rw [hsessions]; exact h.first, ?_, hnext.trans h.here⟩
  rw [hsessions]
  exact h.only

theorem owned_init (maxUser : Int) (hmax : maxUser = 2 ∨ maxUser = 5) :
    Owned me (init maxUser me) := by
  have hnew : ∀ {n : Nat} {session : Session},
      some session ∈ ((TetrisSession.new.initSession me) :: List.replicate n .new).map
      (·.session) →
      session = me := by
    intro n session hmem
    rw [List.map_cons, List.map_replicate] at hmem
    rcases List.mem_cons.mp hmem with heq | hmem
    · exact Option.some.inj heq
    · exact absurd (List.mem_replicate.mp hmem).2 (by simp [TetrisSession.new])
  rcases hmax with rfl | rfl
  · exact ⟨rfl, fun session hmem _ => congrArg Session.id (@hnew 1 session hmem), rfl⟩
  · exact ⟨rfl, fun session hmem _ => congrArg Session.id (@hnew 4 session hmem), rfl⟩

/-- Setting a slot to one with the same session leaves the sessions. -/
theorem sessions_set {i : Nat} {s s' : TetrisSession} (hs : c.players[i]? = some s)
    (hsame : s'.session = s.session) :
    (c.players.set i s').map (·.session) = c.sessions := by
  refine List.ext_getElem? fun j => ?_
  rw [sessions, List.getElem?_map, List.getElem?_map, List.getElem?_set]
  split
  · rename_i hij
    subst hij
    split
    · rw [hs]
      exact congrArg some hsame
    · rename_i hlt
      exact absurd (List.getElem?_eq_some_iff.mp hs).1 hlt
  · rfl

theorem setIsHost_session {s s' : TetrisSession} (h : s.setIsHost = some s') :
    s'.session = s.session := by
  obtain ⟨session, _, h⟩ := Option.bind_eq_some_iff.mp h
  split at h
  · cases h
    rfl
  · obtain ⟨button, _, h⟩ := Option.bind_eq_some_iff.mp h
    cases h
    rfl

theorem Owned.updateHost {id : Int} (h : Owned me c) (hc : c.updateHost id = some c') :
    Owned me c' := by
  unfold MultiPlayState.updateHost at hc
  dsimp only at hc
  split at hc
  · obtain ⟨c₁, hc₁, hc⟩ := Option.bind_eq_some_iff.mp hc
    cases hc₁
    obtain ⟨host, _, hc⟩ := Option.bind_eq_some_iff.mp hc
    obtain ⟨session, _, hc⟩ := Option.bind_eq_some_iff.mp hc
    cases hc
    exact h
  · obtain ⟨s, hs, hc⟩ := Option.bind_eq_some_iff.mp hc
    obtain ⟨s', hs', hc⟩ := Option.bind_eq_some_iff.mp hc
    obtain ⟨c₁, hc₁, hc⟩ := Option.bind_eq_some_iff.mp hc
    cases hc₁
    obtain ⟨host, _, hc⟩ := Option.bind_eq_some_iff.mp hc
    obtain ⟨session, _, hc⟩ := Option.bind_eq_some_iff.mp hc
    cases hc
    exact h.congr (sessions_set hs (setIsHost_session hs')) rfl

theorem Owned.setReady {id : Int} {isReady : Bool} (h : Owned me c)
    (hc : c.setReady id isReady = some c') :
    Owned me c' := by
  unfold MultiPlayState.setReady at hc
  split at hc
  · cases hc
    exact h
  · obtain ⟨s, hs, hc⟩ := Option.bind_eq_some_iff.mp hc
    obtain ⟨s', hs', hc⟩ := Option.bind_eq_some_iff.mp hc
    obtain ⟨button, _, hs'⟩ := Option.bind_eq_some_iff.mp hs'
    cases hs'
    cases hc
    exact h.congr (sessions_set hs rfl) rfl

theorem Owned.resetRoom (h : Owned me c) : Owned me c.resetRoom := by
  refine h.congr ?_ rfl
  rw [sessions, sessions, MultiPlayState.resetRoom, List.map_map]
  refine List.map_congr_left fun s _ => ?_
  rw [Function.comp_apply]
  split <;> rfl

/-- A slot other than the first gets another session, or none. -/
theorem Owned.set {i : Nat} {session : Option Session} (h : Owned me c) (hi : i ≠ 0)
    (hother : ∀ x, session = some x → x.isSelf = false)
    (hsessions : c'.sessions = c.sessions.set i session) (hnext : c'.nextState = c.nextState) :
    Owned me c' := by
  refine ⟨?_, fun x hx hself => ?_, hnext.trans h.here⟩
  · rw [hsessions, List.getElem?_set_ne hi]
    exact h.first
  · rw [hsessions] at hx
    rcases List.mem_or_eq_of_mem_set hx with hx | hx
    · exact h.only x hx hself
    · rw [hother x hx.symm] at hself
      exact Bool.noConfusion hself

theorem sessions_modify {i : Nat} {s : TetrisSession} {f : TetrisSession → TetrisSession}
    (hs : c.players[i]? = some s) :
    (c.players.modify i f).map (·.session) = c.sessions.set i (f s).session := by
  refine List.ext_getElem? fun j => ?_
  rw [sessions, List.getElem?_map, List.getElem?_modify, List.getElem?_set, List.length_map,
    List.getElem?_map]
  by_cases hij : i = j
  · subst hij
    rw [if_pos rfl, if_pos (List.getElem?_eq_some_iff.mp hs).1, hs]
    simp
  · simp [hij]

theorem Owned.addUser {id : Int} {name : String} (h : Owned me c)
    (hc : c.addUser ⟨id, name, false⟩ = some c') :
    Owned me c' := by
  unfold MultiPlayState.addUser at hc
  split at hc
  · cases hc
    exact h
  split at hc
  · cases hc
    exact h
  · rename_i i hfree
    obtain ⟨hlt, hnone, _⟩ := List.findIdx?_eq_some_iff_getElem.mp hfree
    have hslot : c.players[i]? = some c.players[i] := List.getElem?_eq_getElem hlt
    have hi : i ≠ 0 := by
      intro hc
      subst hc
      have hfirst := h.first
      rw [sessions, List.getElem?_map, hslot] at hfirst
      have hsession : c.players[0].session = some me := Option.some.inj hfirst
      rw [hsession] at hnone
      exact Bool.noConfusion hnone
    have hadded :
      Owned me { c with players := c.players.modify i (·.initSession ⟨id, name, false⟩) } :=
      h.set hi (fun x hx => by rw [← Option.some.inj hx]) (sessions_modify hslot) rfl
    dsimp only at hc
    split at hc
    · obtain ⟨_, _, rfl⟩ := Option.map_eq_some_iff.mp hc
      exact hadded
    · cases hc
      exact hadded

theorem Owned.slotOf (h : Owned me c) : c.slotOf me.id = some 0 := by
  have hfirst := h.first
  rw [sessions, List.getElem?_map] at hfirst
  obtain ⟨s, hs, hsession⟩ := Option.map_eq_some_iff.mp hfirst
  obtain ⟨hlt, heq⟩ := List.getElem?_eq_some_iff.mp hs
  refine List.findIdx?_eq_some_iff_getElem.mpr ⟨hlt, ?_, fun j hj => absurd hj (Nat.not_lt_zero j)⟩
  rw [heq, TetrisSession.hasId, hsession]
  simp

/-- `S2C_DELETE_USER` takes the client to the lobby if it is about itself, and only then. -/
theorem Owned.deleteUser {id : Int} (h : Owned me c) (hself : me.isSelf = true)
    (hc : c.deleteUser id = some c') :
    (id = me.id ∧ c'.nextState = true) ∨ (id ≠ me.id ∧ Owned me c') := by
  by_cases hid : id = me.id
  · subst hid
    unfold MultiPlayState.deleteUser at hc
    rw [h.slotOf] at hc
    obtain ⟨s, hs, hc⟩ := Option.bind_eq_some_iff.mp hc
    obtain ⟨session, hsession, hc⟩ := Option.bind_eq_some_iff.mp hc
    have hfirst := h.first
    rw [sessions, List.getElem?_map, hs, Option.map_some, hsession] at hfirst
    obtain rfl := Option.some.inj (Option.some.inj hfirst)
    rw [if_pos hself] at hc
    cases hc
    exact .inl ⟨rfl, rfl⟩
  · refine .inr ⟨hid, ?_⟩
    unfold MultiPlayState.deleteUser at hc
    split at hc
    · cases hc
      exact h
    · rename_i i hslot
      obtain ⟨hlt, hhas, _⟩ := List.findIdx?_eq_some_iff_getElem.mp hslot
      have hs : c.players[i]? = some c.players[i] := List.getElem?_eq_getElem hlt
      obtain ⟨s, hs', hc⟩ := Option.bind_eq_some_iff.mp hc
      obtain rfl := Option.some.inj (hs.symm.trans hs')
      obtain ⟨session, hsession, hc⟩ := Option.bind_eq_some_iff.mp hc
      have hsid : session.id = id := by
        rw [TetrisSession.hasId, hsession] at hhas
        exact of_decide_eq_true hhas
      split at hc
      · -- a slot that passes for the own one has the own id
        rename_i hsame
        have hmem : some session ∈ c.sessions :=
          List.mem_map.mpr ⟨_, List.getElem_mem hlt, hsession⟩
        exact absurd (hsid.symm.trans (h.only session hmem hsame)) hid
      · cases hc
        have hi : i ≠ 0 := by
          intro hzero
          subst hzero
          have hfirst := h.first
          rw [sessions, List.getElem?_map, hs, Option.map_some, hsession] at hfirst
          rw [Option.some.inj (Option.some.inj hfirst)] at hsid
          exact hid hsid.symm
        exact h.set hi (fun x hx => absurd hx (by simp [TetrisSession.clear]))
          (sessions_modify hs) rfl

/-- **A packet leaves the client in its room, or takes it out of it.** -/
theorem Owned.handlePacket {packet : S2CPacket} (h : Owned me c) (hself : me.isSelf = true)
    (hc : c.handlePacket packet = some c') :
    (packet = .removePlayer me.id ∧ c'.nextState = true) ∨
    (packet ≠ .removePlayer me.id ∧ Owned me c') := by
  cases packet with
  | updateHost id => exact .inr ⟨fun hc => S2CPacket.noConfusion hc, h.updateHost hc⟩
  | addPlayer id name => exact .inr ⟨fun hc => S2CPacket.noConfusion hc, h.addUser hc⟩
  | ready id isReady => exact .inr ⟨fun hc => S2CPacket.noConfusion hc, h.setReady hc⟩
  | removePlayer id =>
      rcases h.deleteUser hself hc with ⟨rfl, hnext⟩ | ⟨hid, howned⟩
      · exact .inl ⟨rfl, hnext⟩
      · exact .inr ⟨fun heq => hid (S2CPacket.removePlayer.inj heq), howned⟩
  | gameEnd id =>
      cases hc
      exact .inr ⟨fun hc => S2CPacket.noConfusion hc, h.resetRoom⟩
  | _ =>
      cases hc
      exact .inr ⟨fun hc => S2CPacket.noConfusion hc, h⟩

end MultiPlayState

/-! ## Screens -/

namespace GameLoop

variable {me : Session} {g g' : GameLoop}

/-- A screen to come means that the present one fades out; a room shown is the client's own. -/
structure Sound (me : Session) (g : GameLoop) : Prop where
  fading : g.nextState.isSome = true → g.fadeMode = some .fadeOut
  owned : ∀ room, g.target = .multi room → room.Owned me

theorem target_of_none (h : g.nextState = none) : g.target = g.state := by
  rw [target, h]
  rfl

theorem target_queueState {next : Screen} (h : g.nextState = none) :
    (g.queueState next).target = next := by
  rw [queueState, if_pos h]
  rfl

theorem nextState_queueState {next : Screen} (h : g.nextState = none) :
    (g.queueState next).nextState = some next := by
  rw [queueState, if_pos h]

theorem sound_queueState {next : Screen} (h : g.nextState = none)
    (hnext : ∀ room, next = .multi room → room.Owned me) :
    (g.queueState next).Sound me := by
  refine ⟨fun _ => by rw [queueState, if_pos h], fun room hroom => hnext room ?_⟩
  rw [← hroom, target_queueState h]

theorem state_queueState (next : Screen) : (g.queueState next).state = g.state := by
  unfold queueState
  split <;> rfl

/-- A room the server creates has a screen. -/
theorem enterRoom_ok {maxUser : Int} (hmax : maxUser = 1 ∨ maxUser = 2 ∨ maxUser = 5) :
    ∃ next, g.enterRoom me maxUser = g.queueState next ∧ next.isPlay = true ∧
      ∀ room, next = .multi room → room.Owned me := by
  unfold enterRoom
  split
  · exact ⟨.single, rfl, rfl, fun room hroom => Screen.noConfusion hroom⟩
  · rename_i hne
    have hmax : maxUser = 2 ∨ maxUser = 5 := hmax.resolve_left hne
    rw [if_pos hmax]
    refine ⟨_, rfl, rfl, fun room hroom => ?_⟩
    rw [← Screen.multi.inj hroom]
    exact MultiPlayState.owned_init maxUser hmax

/-! ### Clicks -/

/-- What a click does: nothing to rooms, and only the lobby leads to the ranking and asks for
rooms. -/
structure Clicked (g : GameLoop) (events : List Click) (g' : GameLoop)
    (sent : List Request) : Prop where
  isPlay : g'.target.isPlay = g.target.isPlay
  multi : ∀ room, g'.target = .multi room → g.target = .multi room
  ranking : g'.target = .ranking → g.target = .ranking ∨
    (.ranking ∈ events ∧ g.state.isLobby = true)
  room : .room ∈ sent → .room ∈ events ∧ g.state.isLobby = true
  isLobby : g'.state.isLobby = g.state.isLobby
  fading : (g.nextState.isSome = true → g.fadeMode = some .fadeOut) →
    g'.nextState.isSome = true → g'.fadeMode = some .fadeOut

theorem clicked_queueState {next : Screen} {events : List Click} (hplay : g.state.isPlay = false)
    (hnext : next.isPlay = false)
    (hranking : next = .ranking → .ranking ∈ events ∧ g.state.isLobby = true) :
    Clicked g events (g.queueState next) [] := by
  have hnotMulti : ∀ room, next ≠ .multi room := by
    intro room hc
    rw [hc] at hnext
    exact Bool.noConfusion hnext
  by_cases hnone : g.nextState = none
  · refine ⟨?_,
      fun room hroom => ?_, fun hr => ?_, fun hr => absurd hr List.not_mem_nil, ?_, fun _ _ => ?_⟩
    · rw [target_queueState hnone, target_of_none hnone, hnext, hplay]
    · rw [target_queueState hnone] at hroom
      exact absurd hroom (hnotMulti room)
    · rw [target_queueState hnone] at hr
      exact .inr (hranking hr)
    · rw [state_queueState]
    · rw [queueState, if_pos hnone]
  · rw [queueState, if_neg hnone]
    exact ⟨rfl, fun _ => id, .inl, fun hr => absurd hr List.not_mem_nil, rfl, id⟩

theorem Clicked.unmoved {events : List Click} {sent : List Request}
    (hroom : .room ∈ sent → .room ∈ events ∧ g.state.isLobby = true) : Clicked g events g sent :=
  ⟨rfl, fun _ => id, .inl, hroom, rfl, id⟩

/-- Closing the notice leaves the lobby a lobby. -/
theorem clicked_confirm {popup : Option Int} {events : List Click}
    (hstate : g.state = .lobby popup) :
    Clicked g events { g with state := .lobby none } [] := by
  have hlobby : (.lobby none : Screen).isLobby = g.state.isLobby := by
    rw [hstate]
    rfl
  rcases Option.eq_none_or_eq_some g.nextState with hnext | ⟨next, hnext⟩
  · have htarget : ({ g with state := .lobby none } : GameLoop).target = .lobby none :=
      target_of_none hnext
    refine ⟨?_,
      fun room hroom => ?_, fun hr => ?_, fun hr => absurd hr List.not_mem_nil, hlobby, id⟩
    · rw [htarget, target_of_none hnext, hstate]
      rfl
    · rw [htarget] at hroom
      exact Screen.noConfusion hroom
    · rw [htarget] at hr
      exact Screen.noConfusion hr
  · have hsame : ({ g with state := .lobby none } : GameLoop).target = g.target := by
      rw [target, target, hnext]
      rfl
    exact ⟨by rw [hsame], fun room hroom => hsame ▸ hroom, fun hr => .inl (hsame ▸ hr),
      fun hr => absurd hr List.not_mem_nil, hlobby, id⟩

theorem clicked_handleEvent (g : GameLoop) (click : Click) :
    Clicked g [click] (g.handleEvent click).1 (g.handleEvent click).2 := by
  unfold handleEvent
  split
  · rename_i hstate
    exact .unmoved fun _ => ⟨List.mem_singleton_self _, by rw [hstate]; rfl⟩
  · rename_i hstate
    exact clicked_queueState (by rw [hstate]; rfl) rfl fun _ =>
      ⟨List.mem_singleton_self _, by rw [hstate]; rfl⟩
  · rename_i popup hstate
    exact clicked_confirm hstate
  · rename_i hstate
    exact clicked_queueState (by rw [hstate]; rfl) rfl fun hc => Screen.noConfusion hc
  · exact .unmoved fun hr => absurd (List.mem_singleton.mp hr) (by simp)
  · exact .unmoved fun hr => absurd (List.mem_singleton.mp hr) (by simp)
  · exact .unmoved fun hr => absurd hr List.not_mem_nil

theorem clicked_handleEvents : ∀ (events : List Click) (g : GameLoop),
    Clicked g events (g.handleEvents events).1 (g.handleEvents events).2
  | [], g => .unmoved fun hr => absurd hr List.not_mem_nil
  | click :: rest, g => by
      have hone := clicked_handleEvent g click
      have hrest := clicked_handleEvents rest (g.handleEvent click).1
      refine ⟨hrest.isPlay.trans hone.isPlay,
        fun room hroom => hone.multi room (hrest.multi room hroom),
        fun hr => ?_, fun hr => ?_, hrest.isLobby.trans hone.isLobby,
        fun hfading => hrest.fading (hone.fading hfading)⟩
      · rcases hrest.ranking hr with hr | ⟨hmem, hlobby⟩
        · rcases hone.ranking hr with hr | ⟨hmem, hlobby⟩
          · exact .inl hr
          · exact .inr ⟨List.mem_singleton.mp hmem ▸ List.mem_cons_self .., hlobby⟩
        · exact .inr ⟨List.mem_cons_of_mem _ hmem, hone.isLobby.symm.trans hlobby⟩
      · rcases List.mem_append.mp hr with hr | hr
        · obtain ⟨hmem, hlobby⟩ := hone.room hr
          exact ⟨List.mem_singleton.mp hmem ▸ List.mem_cons_self .., hlobby⟩
        · obtain ⟨hmem, hlobby⟩ := hrest.room hr
          exact ⟨List.mem_cons_of_mem _ hmem, hone.isLobby.symm.trans hlobby⟩

/-- The end of a frame brings the client where it was going. -/
theorem target_endFrame (g : GameLoop) (dtMs : ℚ) :
    (g.updateFade dtMs).consumeState.target = g.target := by
  have hfade : (g.updateFade dtMs).target = g.target := by
    unfold updateFade
    split <;> rfl
  unfold consumeState
  split
  · rename_i next hnext
    split
    · rw [← hfade, target, target, hnext]
      rfl
    · exact hfade
  · exact hfade

theorem fading_endFrame (dtMs : ℚ) (h : g.nextState.isSome = true → g.fadeMode = some .fadeOut) :
    (g.updateFade dtMs).consumeState.nextState.isSome = true →
      (g.updateFade dtMs).consumeState.fadeMode = some .fadeOut := by
  have hfade : (g.updateFade dtMs).nextState.isSome = true →
      (g.updateFade dtMs).fadeMode = some .fadeOut := by
    intro hsome
    have hsame : (g.updateFade dtMs).nextState = g.nextState := by
      unfold updateFade
      split <;> rfl
    have hout := h (hsame ▸ hsome)
    unfold updateFade
    rw [hout]
    simp
  unfold consumeState
  split
  · split
    · exact fun hsome => Bool.noConfusion hsome
    · exact hfade
  · exact hfade

end GameLoop

end Client

end ProjectTetris

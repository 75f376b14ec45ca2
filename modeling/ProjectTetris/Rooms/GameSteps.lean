import ProjectTetris.Rooms.RoomInv

/-!
# The steps of a running game

What an event does to a game that is on before and after it. Outside ticks no game is
touched and none is shown: slots are freed, and that is all. In a tick every slot keeps
its seat. Either way nobody enters a game that has begun.
-/

namespace ProjectTetris

namespace TetrisRoom

/-- The slot `q` was there before, with the same session and the same game. -/
structure Kept (p q : Player) : Prop where
  seat : q.seat = p.seat
  tetris : q.tetris = p.tetris
  state : q.roomPlayerState = .play → p.roomPlayerState = .play
  index : q.tetrominoIndex = p.tetrominoIndex

theorem Kept.refl (p : Player) : Kept p p := ⟨rfl, rfl, id, rfl⟩

/-- **Outside ticks, whoever is in a room with a game on has kept his seat and his game.** -/
theorem kept_slot {env : RoomEnv} {r r' : TetrisRoom} (h : Handled env r r')
    (hplay : r.roomState = .play) (hplay' : r'.roomState = .play) {j : Nat} {q : Player}
    (hq : r'.roomPlayers[j]? = some q) (ha : q.isActive = true) :
    ∃ p, r.roomPlayers[j]? = some p ∧ Kept p q := by
  have hslot : ∀ {i : Nat} {f : Player → Player}, (r.modifyPlayer i f).roomPlayers[j]? = some q →
      r.roomPlayers[j]? = some q ∨ ∃ p, r.roomPlayers[j]? = some p ∧ q = f p := by
    intro i f hj
    rw [modifyPlayer_getElem?, Option.map_eq_some_iff] at hj
    obtain ⟨p, hp, hpq⟩ := hj
    split at hpq
    · exact .inr ⟨p, hp, hpq.symm⟩
    · exact .inl (hpq ▸ hp)
  cases h with
  | aside h => exact ⟨q, h.players ▸ hq, .refl q⟩
  | refused i now hp hfree h =>
      rw [h.players] at hq
      rcases hslot hq with hq | ⟨p, _, rfl⟩
      · exact ⟨q, hq, .refl q⟩
      · exact absurd ha (by simp [Player.clearPlayer, Player.isActive])
  | joined i now hwait => rw [hplay] at hwait; exact absurd hwait (by decide)
  | removed i hp hsession h =>
      have hlt := (List.getElem?_eq_some_iff.mp hq).1
      rw [h.length] at hlt
      have hold := List.getElem?_eq_getElem hlt
      by_cases hij : j = i
      · subst hij
        obtain ⟨now, hcleared⟩ := h.slot _ hold
        rw [hq] at hcleared
        injection hcleared with hcleared
        rw [hcleared] at ha
        exact absurd ha (by simp [Player.clearPlayer, Player.isActive])
      · obtain ⟨q', hq', hrel⟩ := h.others j _ hij hold
        rw [hq] at hq'
        injection hq' with hq'
        rcases hrel with hrel | ⟨hwait, _⟩
        · exact ⟨q, by rw [hq', hrel]; exact hold, .refl q⟩
        · rw [hplay'] at hwait
          exact absurd hwait (by decide)
  | toggled i h =>
      rw [h.players] at hq
      rcases hslot hq with hq | ⟨p, hp, rfl⟩
      · exact ⟨q, hq, .refl q⟩
      · -- whoever is in the game after the toggle was in it before
        refine ⟨p, hp, rfl, rfl, fun hs => ?_, rfl⟩
        dsimp only at hs
        cases hstate : p.roomPlayerState <;> rw [hstate] at hs <;>
          first | rfl | exact absurd hs (by decide)
  | started type h =>
      have hwait := h.wait
      rw [hplay] at hwait
      exact absurd hwait (by decide)
  | gaveUp _ _ hrest =>
      rw [hrest] at hplay'
      exact absurd hplay' (by simp [clearGame, storeRoomState, clearPlayTasks, forSessions])

theorem kept_handled {env : RoomEnv} {r r' : TetrisRoom} (h : Handled env r r')
    (hplay : r.roomState = .play) (hplay' : r'.roomState = .play) {q : Player}
    (hq : q ∈ r'.roomPlayers) (ha : q.isActive = true) : ∃ p ∈ r.roomPlayers, Kept p q := by
  obtain ⟨j, hj⟩ := List.mem_iff_getElem?.mp hq
  obtain ⟨p, hp, hkept⟩ := kept_slot h hplay hplay' hj ha
  exact ⟨p, List.mem_of_getElem? hp, hkept⟩

/-- **Outside ticks nobody is shown anything of a game that goes on.** -/
theorem quiet_handled {env : RoomEnv} {r r' : TetrisRoom} (h : Handled env r r')
    (hplay : r.roomState = .play) (hplay' : r'.roomState = .play) (hq : r.Quiet) : r'.Quiet := by
  cases h with
  | aside h => exact h.quiet hq
  | refused _ _ _ _ h => exact h.quiet hq
  | joined _ _ hwait => rw [hplay] at hwait; exact absurd hwait (by decide)
  | removed _ _ _ h => exact h.quiet hq
  | toggled _ h => exact h.quiet hq
  | started _ h =>
      have hwait := h.wait
      rw [hplay] at hwait
      exact absurd hwait (by decide)
  | gaveUp _ _ hrest =>
      rw [hrest] at hplay'
      exact absurd hplay' (by simp [clearGame, storeRoomState, clearPlayTasks, forSessions])

theorem mem_targets {env : RoomEnv} {r : TetrisRoom} (hs : Seated env r.roomPlayers) {p : Player}
    (hp : p ∈ r.roomPlayers) (ha : p.isActive = true) : p.sessionKey ∈ r.targets env := by
  refine List.mem_map.mpr ⟨p, List.mem_filter.mpr ⟨hp, ?_⟩, rfl⟩
  rw [hs.isSome hp, ha]

theorem tidied_fields (env : RoomEnv) (s : Player) :
    (if s.isActive then tidy env s else s).seat = s.seat ∧
      (if s.isActive then tidy env s else s).roomPlayerState = s.roomPlayerState := by
  split <;> exact ⟨rfl, rfl⟩

/-- A tick keeps the seats, and eliminates players at most. -/
theorem kept_tick {env : RoomEnv} {t : Int} {r r' : TetrisRoom} {extra : Player → List TaskType}
    {qs ss : List Player} (h : TickRun env t r extra qs ss r') {x : Player}
    (hx : x ∈ r'.roomPlayers) : ∃ p ∈ r.roomPlayers, x.seat = p.seat ∧
      (x.roomPlayerState = .play → p.roomPlayerState = .play) := by
  obtain ⟨p, q, s, hp, hpq, hqs, rfl⟩ := h.slot hx
  obtain ⟨hseat, hstate⟩ := tidied_fields env s
  refine ⟨p, hp, hseat.trans (hqs.seat.trans hpq.seat), fun hs => ?_⟩
  rw [hstate] at hs
  rw [← hpq.roomPlayerState]
  rcases hqs with ⟨hplaying, _⟩ | ⟨_, rfl⟩
  · exact hplaying.1
  · exact hs

theorem ended_wait {env : RoomEnv} {r₁ r' : TetrisRoom} (h : Ended env r₁ r') :
    r'.roomState = .wait := by
  obtain ⟨out, _, rfl⟩ := h
  rfl

/-- Everybody still in the room waits for the next game. -/
theorem ended_players {env : RoomEnv} {r₁ r' : TetrisRoom} (hs : Seated env r₁.roomPlayers)
    (h : Ended env r₁ r') : r'.roomPlayers = r₁.roomPlayers.map fun p =>
      if p.isActive then p.resetGameData (env.now p.sessionKey) else p := by
  obtain ⟨out, _, rfl⟩ := h
  refine List.map_congr_left fun p hp => ?_
  rw [hs.isSome hp]

theorem ended_seats {env : RoomEnv} {r₁ r' : TetrisRoom} (hs : Seated env r₁.roomPlayers)
    (h : Ended env r₁ r') : r'.roomPlayers.map Player.seat = r₁.roomPlayers.map Player.seat := by
  rw [ended_players hs h, List.map_map]
  refine List.map_congr_left fun p _ => ?_
  rw [Function.comp_apply]
  split <;> rfl

/-- **Nobody takes a seat in a game, and nobody who has been eliminated comes back.** -/
theorem kept_step {r r' : TetrisRoom} {env : RoomEnv} {e : RoomEvent} (h : Stepped env r e r')
    (hplay : r.roomState = .play) (hplay' : r'.roomState = .play) {q : Player}
    (hq : q ∈ r'.roomPlayers) (ha : q.isActive = true) : ∃ p ∈ r.roomPlayers, q.seat = p.seat ∧
      (q.roomPlayerState = .play → p.roomPlayerState = .play) := by
  cases h with
  | handled _ h =>
      obtain ⟨p, hp, hkept⟩ := kept_handled h hplay hplay' hq ha
      exact ⟨p, hp, hkept.seat, hkept.state⟩
  | multi qs ss _ _ _ _ h =>
      cases h with
      | goesOn _ h => exact kept_tick h hq
      | ends id _ _ _ _ hend =>
          rw [ended_wait hend] at hplay'
          exact absurd hplay' (by decide)
  | single _ _ h =>
      cases h with
      | idle h => exact ⟨q, h.players ▸ hq, rfl, id⟩
      | goesOn qs ss h => exact kept_tick h hq
      | ends qs ss _ hend =>
          rw [ended_wait hend] at hplay'
          exact absurd hplay' (by decide)

/-- **Only the start of a game makes a waiting room a playing one.** -/
theorem started_step {r r' : TetrisRoom} {env : RoomEnv} {e : RoomEvent} (h : Stepped env r e r')
    (hwait : r.roomState = .wait) (hplay : r'.roomState = .play) :
    ∃ type, Started env { r with out := [] } r' type := by
  have hno : r'.roomState ≠ .wait := by rw [hplay]; decide
  cases h with
  | handled _ h =>
      cases h with
      | aside h => exact absurd (h.state.trans hwait) hno
      | refused _ _ _ _ h => exact absurd (h.state.trans hwait) hno
      | joined _ _ _ _ _ _ h => exact absurd (h.state.trans hwait) hno
      | removed _ _ _ h =>
          rcases h.state with ⟨_, hs⟩ | ⟨_, hs⟩
          · exact absurd (hs.trans hwait) hno
          · rw [hs] at hplay; exact absurd hplay (by decide)
      | toggled _ h => exact absurd (h.state.trans hwait) hno
      | started type h => exact ⟨type, h⟩
      | gaveUp _ hplaying => exact absurd (hwait.symm.trans hplaying) (by decide)
  | multi _ _ _ hplaying => exact absurd (hwait.symm.trans hplaying) (by decide)
  | single _ hplaying => exact absurd (hwait.symm.trans hplaying) (by decide)

theorem kind_handled {env : RoomEnv} {r r' : TetrisRoom} (h : Handled env r r') :
    r'.kind = r.kind := by
  cases h with
  | aside h => exact h.kind
  | refused i now hp hfree h => exact h.kind
  | joined i now hwait hp hfree hnew h => exact h.kind
  | removed i hp hsession h => exact h.kind
  | toggled i h => exact h.kind
  | started type h => exact h.kind
  | gaveUp _ _ hrest => rw [hrest]; rfl

theorem kind_stepped {env : RoomEnv} {r r' : TetrisRoom} {e : RoomEvent} (h : Stepped env r e r') :
    r'.kind = r.kind := by
  cases h with
  | handled _ h => exact (kind_handled h).trans rfl
  | multi qs ss _ _ _ _ h =>
      cases h with
      | goesOn _ h => exact h.kind
      | ends id _ _ h _ hend =>
          obtain ⟨out, _, rfl⟩ := hend
          exact h.kind
  | single _ _ h =>
      cases h with
      | idle h => exact h.kind
      | goesOn qs ss h => exact h.kind
      | ends qs ss h hend =>
          obtain ⟨out, _, rfl⟩ := hend
          exact h.kind

end TetrisRoom

end ProjectTetris

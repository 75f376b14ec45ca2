import ProjectTetris.Rooms.RoomInv

/-!
# Scenarios

A scenario is a world with a fixed set of sessions, all of them connected and willing.
Such a world keeps what `RoomEnv.Serves` asks for as long as nobody else sits in the
room, so whatever a scenario leads to is reachable. Scenarios can be run.
-/

namespace ProjectTetris

namespace TetrisRoom

/-- The world of a scenario: these sessions, in this mode, and nobody else. -/
def scenarioEnv (keys : List SessionKey) (mode : ModeState) (roomIndex : Int) : RoomEnv where
  findSession key :=
    if key ∈ keys then some ⟨.active, mode, roomIndex, key.playerId, "", 0, true, true⟩ else none
  now _ := 0
  bag _ := ⟨TetrominoType.all, .refl _⟩
  holes _ _ := ⟨0, by decide⟩
  isTestMode := false

/-- Everybody in the room belongs to the scenario. -/
def AllOf (keys : List SessionKey) (r : TetrisRoom) : Prop :=
  ∀ p ∈ r.roomPlayers, p.hasSession = true → p.sessionKey ∈ keys

instance (keys : List SessionKey) (r : TetrisRoom) : Decidable (AllOf keys r) := by
  unfold AllOf; infer_instance

theorem scenarioEnv_serves {keys : List SessionKey} {r : TetrisRoom} {e : RoomEvent}
    (mode : ModeState) (roomIndex : Int)
    (hkeys : keys.Pairwise fun k k' => k.playerId ≠ k'.playerId) (h : AllOf keys r) :
    (scenarioEnv keys mode roomIndex).Serves r e := by
  have hfound : ∀ key v, (scenarioEnv keys mode roomIndex).findSession key = some v →
      key ∈ keys ∧ v.playerId = key.playerId := by
    intro key v hv
    dsimp only [scenarioEnv] at hv
    split at hv
    · rename_i hmem
      injection hv with hv
      exact ⟨hmem, by rw [← hv]⟩
    · exact absurd hv (by simp)
  refine ⟨fun p hp hsession => ?_, fun key _ v hv => (hfound key v hv).2,
    fun p hp hsession key _ hkey hid => ?_⟩
  · exact ⟨_, if_pos (h p hp hsession), rfl⟩
  · obtain ⟨v, hv⟩ := Option.isSome_iff_exists.mp hkey
    have hmem := (hfound key v hv).1
    -- two sessions of one account would be the same session
    refine Decidable.byContradiction fun hne => ?_
    exact List.Pairwise.forall_of_forall_of_flip
      (R := fun k k' => k = k' ∨ k.playerId ≠ k'.playerId)
      (fun k _ => .inl rfl) (hkeys.imp .inr) (hkeys.imp fun hk => .inr (Ne.symm hk))
      (h p hp hsession) hmem |>.elim hne fun hne' => hne' hid

/-- The room its creation leaves, for the host `key`. -/
def scenarioRoom (kind : RoomKind) (keys : List SessionKey) (key : SessionKey) : TetrisRoom :=
  let v : SessionView := ⟨.active, .lobby, 0, key.playerId, "", 0, true, true⟩
  let r :=
    ((TetrisRoom.new kind 0 1 "room" "" 0).addHostSession (scenarioEnv keys .lobby 0) v key).1
  (r.sendCreateRoom key).completeRoomInitialization

theorem scenarioRoom_created (kind : RoomKind) {keys : List SessionKey} {key : SessionKey}
    (hkey : key ∈ keys) : Created (scenarioRoom kind keys key) := by
  refine .intro kind 0 1 "room" "" 0 (scenarioEnv keys .lobby 0)
    ⟨.active, .lobby, 0, key.playerId, "", 0, true, true⟩ key (if_pos hkey) rfl ?_
  cases kind <;> rfl

/-- One event after the other, each with the mode the sessions are in. -/
def scenario (keys : List SessionKey) :
    TetrisRoom → List (ModeState × RoomEvent) → Option TetrisRoom
  | r, [] => some r
  | r, (mode, e) :: rest =>
      if AllOf keys r then (r.step (scenarioEnv keys mode 0) e).bind fun r => scenario keys r rest
      else none

/-- **What a scenario leads to is reachable.** -/
theorem scenario_reachable {keys : List SessionKey}
    (hkeys : keys.Pairwise fun k k' => k.playerId ≠ k'.playerId) :
    ∀ {es : List (ModeState × RoomEvent)} {r r' : TetrisRoom}, Reachable r →
      scenario keys r es = some r' → Reachable r'
  | [], r, r', hr, h => by
      injection h with h
      exact h ▸ hr
  | (mode, e) :: rest, r, r', hr, h => by
      rw [scenario] at h
      split at h
      · rename_i hall
        obtain ⟨r₁, hstep, hrest⟩ := Option.bind_eq_some_iff.mp h
        exact scenario_reachable hkeys
          (hr.step _ e (scenarioEnv_serves mode 0 hkeys hall) hstep) hrest
      · exact absurd h (by simp)

/-- A task of the session `key`. -/
def taskOf (key : SessionKey) (taskType : RoomTaskType) : RoomEvent :=
  .task ⟨taskType, key, "", -1, -1⟩

end TetrisRoom

end ProjectTetris

import ProjectTetris.Rooms.TickSteps

/-!
# Whose input it is

`ProcessRoomTick` hands out the inputs one after the other, each to the first session with
its player id. As no account sits twice, that comes to this: every slot gets the inputs of
its own player, those of the running game, in the order they came.
-/

namespace ProjectTetris

open Checked

/-- The slot with these inputs behind those it has. -/
def Player.queueInputs (p : Player) (inputs : List Int) : Player :=
  { p with tetris := { p.tetris with inputTasks := p.tetris.inputTasks ++ inputs } }

theorem Player.queueInputs_nil (p : Player) : p.queueInputs [] = p := by
  simp [Player.queueInputs]

theorem Player.queueInputs_queueInputs (p : Player) (l₁ l₂ : List Int) :
    (p.queueInputs l₁).queueInputs l₂ = p.queueInputs (l₁ ++ l₂) := by
  simp [Player.queueInputs]

namespace TetrisRoom

/-- The task belongs to the game of this generation, and to the player of this slot. -/
def isFor (generation : Nat) (p : Player) (task : PlayerInputTask) : Bool :=
  task.playGeneration = generation ∧ p.isActive = true ∧ task.playerId = p.sessionKey.playerId

theorem isFor_queueInputs (generation : Nat) (p : Player) (inputs : List Int) :
    isFor generation (p.queueInputs inputs) = isFor generation p := rfl

theorem isFor_iff {generation : Nat} {p : Player} {task : PlayerInputTask} :
    isFor generation p task = true ↔
      task.playGeneration = generation ∧ p.isActive = true ∧
      task.playerId = p.sessionKey.playerId := by
  simp [isFor]

/-- The inputs the slot gets in the next tick. -/
def inputsFor (r : TetrisRoom) (p : Player) : List Int :=
  (r.playTasks.filter (isFor r.playGeneration p)).map (·.eventType)

section Seated

variable {env : RoomEnv} {r : TetrisRoom}

theorem any_findSession (hs : Seated env r.roomPlayers) {p : Player} (hp : p ∈ r.roomPlayers)
    (id : Int) :
    (findSession env p).any (·.playerId = id) = true ↔ p.isActive = true ∧
    id = p.sessionKey.playerId := by
  cases ha : p.isActive with
  | false => simp [findSession, ha]
  | true =>
      obtain ⟨v, hv, hid⟩ := hs.findSession hp ha
      simp [hv, hid, eq_comm]

/-- **One input**, for every slot. -/
theorem distributeInput_eq (hs : Seated env r.roomPlayers) (task : PlayerInputTask) :
    r.distributeInput env task = { r with
      roomPlayers := r.roomPlayers.map fun p =>
        p.queueInputs (if isFor r.playGeneration p task then [task.eventType] else []) } := by
  have hskip : (∀ p ∈ r.roomPlayers, isFor r.playGeneration p task = false) →
      r.roomPlayers.map (fun p =>
        p.queueInputs (if isFor r.playGeneration p task then [task.eventType] else [])) =
          r.roomPlayers := by
    intro hno
    refine (List.map_congr_left fun p hp => ?_).trans (List.map_id _)
    rw [hno p hp, if_neg Bool.false_ne_true, Player.queueInputs_nil]
    rfl
  unfold distributeInput
  split
  · rename_i hgen
    rw [hskip fun p _ => by simp [isFor, hgen]]
  · rename_i hgen
    have hgen : task.playGeneration = r.playGeneration := Decidable.of_not_not hgen
    cases hfind : r.roomPlayers.findIdx? fun p =>
      (findSession env p).any (·.playerId = task.playerId) with
    | none =>
        dsimp only
        rw [hskip fun p hp => ?_]
        rw [Bool.eq_false_iff]
        intro hfor
        have hno := List.findIdx?_eq_none_iff.mp hfind p hp
        rw [(any_findSession hs hp _).mpr (isFor_iff.mp hfor).2] at hno
        exact absurd hno (by decide)
    | some i =>
        dsimp only
        obtain ⟨hlt, hany, _⟩ := List.findIdx?_eq_some_iff_getElem.mp hfind
        obtain ⟨ha, hid⟩ := (any_findSession hs (List.getElem_mem hlt) _).mp hany
        have hi : r.roomPlayers[i]? = some r.roomPlayers[i] := List.getElem?_eq_getElem hlt
        have hslots : r.roomPlayers.modify i (fun p => { p with
              tetris :=
                { p.tetris with inputTasks := p.tetris.inputTasks ++ [task.eventType] } }) =
            r.roomPlayers.map fun p =>
              p.queueInputs (if isFor r.playGeneration p task then [task.eventType] else []) := by
          refine List.ext_getElem? fun j => ?_
          rw [List.getElem?_modify, List.getElem?_map]
          cases hj : r.roomPlayers[j]? with
          | none => rfl
          | some p =>
              rw [Option.map_eq_map, Option.map_some, Option.map_some]
              by_cases hij : i = j
              · subst hij
                obtain rfl : r.roomPlayers[i] = p := Option.some.inj (hi.symm.trans hj)
                rw [if_pos (isFor_iff.mpr ⟨hgen, ha, hid⟩), if_pos rfl]
                rfl
              · have hno : ¬ isFor r.playGeneration p task = true := by
                  -- two slots with one account
                  intro hfor
                  obtain ⟨_, hactive, hid'⟩ := isFor_iff.mp hfor
                  exact hij (hs.distinct i j _ p hi hj ha hactive (hid.symm.trans hid'))
                rw [if_neg hno, Player.queueInputs_nil, if_neg hij]
        rw [modifyPlayer, hslots]

/-- **`ProcessRoomTick` hands out the inputs**: to each player his own. -/
theorem distributeInputs_eq (hs : Seated env r.roomPlayers) :
    r.distributeInputs env = { r with
      playTasks := []
      roomPlayers := r.roomPlayers.map fun p => p.queueInputs (r.inputsFor p) } := by
  have hloop : ∀ (tasks : List PlayerInputTask) {r : TetrisRoom}, Seated env r.roomPlayers →
      tasks.foldl (fun r task => r.distributeInput env task) r = { r with
        roomPlayers := r.roomPlayers.map fun p =>
          p.queueInputs ((tasks.filter (isFor r.playGeneration p)).map (·.eventType)) } := by
    intro tasks
    induction tasks with
    | nil =>
        intro r _
        simp [Player.queueInputs_nil]
    | cons task rest ih =>
        intro r hs
        have hsame : SameSeats r.roomPlayers (r.roomPlayers.map fun p =>
            p.queueInputs (if isFor r.playGeneration p task then [task.eventType] else [])) := by
          intro i
          rw [List.getElem?_map, Option.map_map]
          rfl
        rw [List.foldl_cons, distributeInput_eq hs task, ih (hs.of_sameSeats hsame), List.map_map]
        congr 1
        refine List.map_congr_left fun p _ => ?_
        dsimp only [Function.comp_apply]
        rw [isFor_queueInputs, Player.queueInputs_queueInputs, List.filter_cons]
        split <;> rfl
  exact hloop r.playTasks (r := r.clearPlayTasks) hs

end Seated

end TetrisRoom

end ProjectTetris

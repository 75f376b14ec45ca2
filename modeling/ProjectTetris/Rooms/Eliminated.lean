import ProjectTetris.Rooms.EngineSafe
import ProjectTetris.Rooms.GameSteps
import ProjectTetris.Rooms.VeiledTick

/-!
# Eliminated players cannot interfere

Two runs of a room that agree on everything but what eliminated players send: the inputs
that only one of them has wait in its queue, and are handed to engines of players who are
not in `PLAY`. So the two rooms keep the same veil, whatever happens to both.
-/

namespace ProjectTetris

open Checked

namespace TetrisRoom

/-- Somebody in `PLAY` may still be handed this input. -/
def heard (r : TetrisRoom) (task : PlayerInputTask) : Bool :=
  decide (r.roomState = .wait) || r.roomPlayers.any fun p =>
    p.isActive && decide (p.sessionKey.playerId = task.playerId) &&
      decide (p.roomPlayerState = .play)

theorem heard_iff {r : TetrisRoom} {task : PlayerInputTask} :
    r.heard task = true ↔ r.roomState = .wait ∨
    ∃ p ∈ r.roomPlayers, p.isActive = true ∧ p.sessionKey.playerId = task.playerId ∧
    p.roomPlayerState = .play := by
  simp [heard, and_assoc]

namespace Alike

variable {keep keep' : PlayerInputTask → Bool} {r r' : TetrisRoom} {env : RoomEnv}

theorem symm (h : Alike keep r r') : Alike keep r' r := Eq.symm h

theorem trans {r'' : TetrisRoom} (h : Alike keep r r') (h' : Alike keep r' r'') :
    Alike keep r r'' :=
  Eq.trans h h'

/-- Fewer inputs to be kept. -/
theorem weaken (h : Alike keep r r') (hkeep : ∀ task, keep' task = true → keep task = true) :
    Alike keep' r r' := by
  have hplayers := h.players
  obtain ⟨tasks, ps, htasks, rfl⟩ := h.exists_eq
  refine intro ?_ hplayers
  have hboth : ∀ l : List PlayerInputTask, l.filter keep' = (l.filter keep).filter keep' := by
    intro l
    rw [List.filter_filter]
    refine List.filter_congr fun task _ => ?_
    cases hk : keep' task with
    | false => rfl
    | true => rw [hkeep task hk]; rfl
  rw [hboth, htasks, ← hboth]

theorem clearPlayTasks (h : Alike keep r r') : Alike keep' r.clearPlayTasks r'.clearPlayTasks := by
  have hplayers := h.players
  obtain ⟨tasks, ps, htasks, rfl⟩ := h.exists_eq
  exact intro (r := r.clearPlayTasks) rfl hplayers

theorem heard_eq (h : Alike keep r r') : r.heard = r'.heard := by
  funext task
  refine h.read (fun r => r.heard task) fun r => ?_
  simp only [heard, veil, List.any_map]
  congr 2
  funext p
  simp [Player.isActive]

/-! ## Inputs -/

theorem distributeInput (h : Alike keep r r') (task : PlayerInputTask) :
    Alike keep (r.distributeInput env task) (r'.distributeInput env task) := by
  have hgeneration : r.playGeneration = r'.playGeneration := h.read (·.playGeneration) fun _ => rfl
  have hfind :
      (r.roomPlayers.findIdx? fun p => (findSession env p).any (·.playerId = task.playerId))
      = r'.roomPlayers.findIdx? fun p => (findSession env p).any (·.playerId = task.playerId) :=
    find_veil h.players fun p => by rw [findSession_veil]
  unfold TetrisRoom.distributeInput
  rw [← hgeneration, ← hfind]
  split
  · exact h
  split
  · exact h
  · refine h.modify _ fun p q hpq => Player.veil_congr (f := fun p =>
      { p with tetris := { p.tetris with inputTasks := p.tetris.inputTasks ++ [task.eventType] } })
      (fun p t hp => ?_) hpq
    exact (Player.veil_tetris _ hp).trans (Player.veil_tetris _ hp).symm

theorem foldl_distributeInput (h : Alike keep r r') (tasks : List PlayerInputTask) :
    Alike keep (tasks.foldl (fun r task => r.distributeInput env task) r)
      (tasks.foldl (fun r task => r.distributeInput env task) r') := by
  induction tasks generalizing r r' with
  | nil => exact h
  | cons task tasks ih => exact ih (h.distributeInput task)

end Alike

variable {keep : PlayerInputTask → Bool} {r r' a b : TetrisRoom} {env : RoomEnv}

/-- An input nobody in `PLAY` is handed. -/
theorem distributeInput_unheard (hs : Seated env r.roomPlayers) {task : PlayerInputTask}
    (h : r.heard task = false) :
    Alike keep (r.distributeInput env task) r := by
  unfold distributeInput
  split
  · rfl
  split
  · rfl
  rename_i i hi
  rw [List.findIdx?_eq_some_iff_getElem] at hi
  obtain ⟨hlt, hfound, -⟩ := hi
  have hp := List.getElem?_eq_getElem hlt
  have hactive : (r.roomPlayers[i]).isActive = true := by
    rw [← hs.isSome (List.getElem_mem hlt)]
    cases hf : findSession env r.roomPlayers[i] with
    | none => rw [hf] at hfound; exact absurd hfound (by simp)
    | some v => rfl
  obtain ⟨v, hv, hid⟩ := hs.findSession (List.getElem_mem hlt) hactive
  have hplay : (r.roomPlayers[i]).roomPlayerState ≠ .play := by
    intro hplay
    rw [hv, Option.any_some, decide_eq_true_eq, hid] at hfound
    exact absurd (heard_iff.mpr (.inr ⟨_, List.getElem_mem hlt, hactive, hfound, hplay⟩))
      (by simp [h])
  -- his engine gets it, and nothing else
  rw [modifyPlayer_congr
    (g := fun _ => { r.roomPlayers[i] with tetris := { (r.roomPlayers[i]).tetris with
    inputTasks := (r.roomPlayers[i]).tetris.inputTasks ++ [task.eventType] } }) hp rfl]
  refine (Alike.intro (r := r) rfl ?_).symm
  refine List.ext_getElem? fun j => ?_
  rw [List.getElem?_map, List.getElem?_map, List.getElem?_modify]
  by_cases hij : i = j
  · subst hij
    rw [hp]
    simp only [if_true, Option.map_eq_map, Option.map_some, Option.some.injEq]
    exact (Player.veil_tetris _ hplay).symm
  · simp [hij]

theorem seated_distributeInput (hs : Seated env r.roomPlayers) (task : PlayerInputTask) :
    Seated env (r.distributeInput env task).roomPlayers := by
  obtain ⟨ps, heq, hps⟩ := distributeInput_ok r env task
  rw [heq]
  refine hs.of_sameSeats (hps.sameSeats fun p q hpq => ?_)
  obtain ⟨⟨inputs, rfl⟩, -⟩ := hpq
  rfl

theorem heard_distributeInput (task : PlayerInputTask) :
    (r.distributeInput env task).heard = r.heard := by
  funext other
  unfold distributeInput
  split
  · rfl
  split
  · rfl
  simp only [heard, modifyPlayer]
  congr 1
  rw [Bool.eq_iff_iff, List.any_eq_true, List.any_eq_true]
  rename_i i _
  constructor
  · rintro ⟨q, hq, hheard⟩
    obtain ⟨j, hj⟩ := List.mem_iff_getElem?.mp hq
    rw [List.getElem?_modify, Option.map_eq_map, Option.map_eq_some_iff] at hj
    obtain ⟨p, hp, hpq⟩ := hj
    refine ⟨p, List.mem_of_getElem? hp, ?_⟩
    split at hpq
    · subst hpq
      exact hheard
    · subst hpq
      exact hheard
  · rintro ⟨p, hp, hheard⟩
    obtain ⟨j, hj⟩ := List.mem_iff_getElem?.mp hp
    by_cases hij : i = j
    · exact ⟨{ p with
          tetris := { p.tetris with inputTasks := p.tetris.inputTasks ++ [task.eventType] } },
        List.mem_iff_getElem?.mpr ⟨j, by rw [List.getElem?_modify, hj]; simp [hij]⟩, hheard⟩
    · exact ⟨p, List.mem_iff_getElem?.mpr ⟨j, by rw [List.getElem?_modify, hj]; simp [hij]⟩,
        hheard⟩

/-- Leaving out the inputs that nobody in `PLAY` is handed leaves the same. -/
theorem foldl_heard (tasks : List PlayerInputTask) (hs : Seated env r.roomPlayers) :
    Alike keep (tasks.foldl (fun r task => r.distributeInput env task) r)
      ((tasks.filter r.heard).foldl (fun r task => r.distributeInput env task) r) := by
  induction tasks generalizing r with
  | nil => rfl
  | cons task tasks ih =>
      have hrest := ih (seated_distributeInput hs task)
      rw [heard_distributeInput] at hrest
      cases hheard : r.heard task with
      | true =>
          rw [List.filter_cons_of_pos hheard]
          exact hrest
      | false =>
          rw [List.filter_cons_of_neg (by simp [hheard])]
          exact hrest.trans ((distributeInput_unheard hs hheard).foldl_distributeInput _)

/-- **The inputs of a tick leave the same**, if the two queues differ in unheard ones only. -/
theorem Alike.distributeInputs (h : Alike r.heard r r') (hs : Seated env r.roomPlayers)
    (hs' : Seated env r'.roomPlayers) :
    Alike keep (r.distributeInputs env) (r'.distributeInputs env) := by
  have hheard := h.heard_eq
  have htasks : r.playTasks.filter r.heard = r'.playTasks.filter r.heard :=
    congrArg TetrisRoom.playTasks h
  have hcleared : Alike keep r.clearPlayTasks r'.clearPlayTasks := h.clearPlayTasks
  have hleft : Alike keep (r.distributeInputs env) _ :=
    foldl_heard (r := r.clearPlayTasks) r.playTasks hs
  have hright : Alike keep (r'.distributeInputs env) _ :=
    foldl_heard (r := r'.clearPlayTasks) r'.playTasks hs'
  have hboth := @Alike.foldl_distributeInput _ _ _ env hcleared (r.playTasks.filter r.heard)
  rw [show r.clearPlayTasks.heard = r.heard from rfl] at hleft
  rw [show r'.clearPlayTasks.heard = r'.heard from rfl, ← hheard, ← htasks] at hright
  exact (hleft.trans hboth).trans hright.symm

/-! ## One event for both rooms -/

theorem state_handled (h : Handled env r a) (hkind : r.kind ≠ .single)
    (hwait : r.roomState ≠ .wait) :
    a.roomState = r.roomState ∨ a.roomState = .waitingDelete := by
  cases h with
  | aside h => exact .inl h.state
  | refused i now hp hfree h => exact .inl h.state
  | joined i now hw => exact absurd hw hwait
  | removed i hp hsession h =>
      rcases h.state with ⟨_, hstate⟩ | ⟨_, hstate⟩
      · exact .inl hstate
      · exact .inr hstate
  | toggled i h => exact .inl h.state
  | started type h => exact absurd h.wait hwait
  | gaveUp hsingle => exact absurd hsingle hkind

/-- **Outside ticks nobody gets back into a game**: an input that was not heard stays so. -/
theorem heard_handled (h : Handled env r a) (hkind : r.kind ≠ .single) (hok : RoomOk a)
    {task : PlayerInputTask} (hheard : a.heard task = true) : r.heard task = true := by
  rw [heard_iff] at hheard ⊢
  by_cases hwait : r.roomState = .wait
  · exact .inl hwait
  refine .inr ?_
  have hstate := state_handled h hkind hwait
  rcases hheard with hw | ⟨q, hq, hactive, hid, hplay⟩
  · rcases hstate with hs | hs
    · exact absurd (hs.symm.trans hw) hwait
    · rw [hs] at hw
      cases hw
  · -- somebody is in `PLAY`, so the game is on
    have hon : a.roomState = .play := by
      refine Decidable.byContradiction fun hoff => ?_
      rcases ((hok.slots q hq).idle fun hc => hoff hc.1).1 with hs | hs <;>
        rw [hs] at hplay <;> cases hplay
    have hon' : r.roomState = .play := by
      rcases hstate with hs | hs
      · exact hs.symm.trans hon
      · rw [hs] at hon
        cases hon
    obtain ⟨p, hp, hkept⟩ := kept_handled h hon' hon hq hactive
    refine ⟨p, hp, (isActive_of_seat hkept.seat).symm.trans hactive, ?_, hkept.state hplay⟩
    rw [← hid, show p.sessionKey = q.sessionKey from (congrArg Prod.fst hkept.seat).symm]

theorem Alike.addPlayTask (h : Alike keep r r') (task : PlayerInputTask) :
    Alike keep (r.addPlayTask task) (r'.addPlayTask task) := by
  have hplayers := h.players
  obtain ⟨tasks, ps, htasks, rfl⟩ := h.exists_eq
  refine intro (r := r.addPlayTask task) ?_ hplayers
  simp [TetrisRoom.addPlayTask, List.filter_append, htasks]

theorem Alike.silent (h : Alike keep r r') :
    Alike keep { r with out := [] } { r' with out := [] } :=
  h.update (u := fun r => { r with out := [] }) fun _ => rfl

/-- **The same event does the same to both rooms.** -/
theorem Alike.step (h : Alike r.heard r r') (hkind : r.kind ≠ .single) (hok : RoomOk r)
    (hok' : RoomOk r') {e : RoomEvent} (hserves : env.Serves r e) (hserves' : env.Serves r' e)
    (ha : r.step env e = some a) (hb : r'.step env e = some b) : Alike a.heard a b := by
  have hstepped := (step_ok hok hserves).of_eq_some ha
  have hoka := roomOk_stepped hok hserves hstepped
  have hsilent := h.silent
  have hs : Seated env ({ r with out := [] } : TetrisRoom).roomPlayers := hok.seated hserves
  have hs' : Seated env ({ r' with out := [] } : TetrisRoom).roomPlayers := hok'.seated hserves'
  have hheard : Handled env { r with out := [] } a → ∀ task, a.heard task = true →
      r.heard task = true :=
    fun hhandled task => heard_handled hhandled hkind hoka
  unfold TetrisRoom.step TetrisRoom.handle at ha hb
  cases e with
  | task task =>
      obtain ⟨x, hx, rfl⟩ := Option.map_eq_some_iff.mp ha
      obtain ⟨y, hy, rfl⟩ := Option.map_eq_some_iff.mp hb
      have hboth :=
        hsilent.tryProcessRoomTask hkind (roomOk_silent hok) (roomOk_silent hok') hs hs' task hx hy
      cases hstepped with
      | handled _ hhandled => exact hboth.weaken (hheard hhandled)
  | leavePacket key =>
      cases ha
      cases hb
      cases hstepped with
      | handled _ hhandled =>
          exact (hsilent.requestLobbyTransition_multi hkind key).weaken (hheard hhandled)
  | input task =>
      cases ha
      cases hb
      exact hsilent.addPlayTask task
  | tick t =>
      dsimp only at ha hb
      unfold processRoomTick at ha hb
      have hstate : r.roomState = r'.roomState := h.read (·.roomState) fun _ => rfl
      have hkind' : r'.kind ≠ .single := h.read (·.kind) (fun _ => rfl) ▸ hkind
      by_cases hplay : r.roomState = .play
      · rw [if_neg (fun hc => hc hplay)] at ha
        rw [if_neg (fun hc => hc (hstate ▸ hplay))] at hb
        rw [processGameTick_multi (by rw [distributeInputs_kind]; exact hkind)] at ha
        rw [processGameTick_multi (by rw [distributeInputs_kind]; exact hkind')] at hb
        exact (Alike.distributeInputs hsilent hs hs').processGameTick ha hb
      · rw [if_pos hplay] at ha
        rw [if_pos (fun hc => hplay (hstate.trans hc))] at hb
        cases ha
        cases hb
        exact hsilent.clearPlayTasks

/-! ## Two runs -/

/-- An input of a player who is in `GAME_OVER`, read while the game `r` is in is on. -/
def FromEliminated (r : TetrisRoom) (task : PlayerInputTask) : Prop :=
  r.roomState = .play ∧ task.playGeneration = r.playGeneration ∧
    ∃ p ∈ r.roomPlayers, p.isActive = true ∧ p.sessionKey.playerId = task.playerId ∧
    p.roomPlayerState = .gameOver

/--
Where two runs from `r₀` get to that meet the same events, except that either may have
inputs of its own from players who are eliminated.
-/
inductive AgreeingRuns (r₀ : TetrisRoom) : TetrisRoom → TetrisRoom → Prop
  | start : AgreeingRuns r₀ r₀ r₀
  | both {r r' a b : TetrisRoom} (h : AgreeingRuns r₀ r r') (env : RoomEnv) (e : RoomEvent)
      (hserves : env.Serves r e) (hserves' : env.Serves r' e) (ha : r.step env e = some a)
      (hb : r'.step env e = some b) :
      AgreeingRuns r₀ a b
  | first {r r' a : TetrisRoom} (h : AgreeingRuns r₀ r r') (env : RoomEnv) (task : PlayerInputTask)
      (hserves : env.Serves r (.input task)) (hout : r.FromEliminated task)
      (ha : r.step env (.input task) = some a) :
      AgreeingRuns r₀ a r'
  | second {r r' b : TetrisRoom} (h : AgreeingRuns r₀ r r') (env : RoomEnv)
      (task : PlayerInputTask)
      (hserves : env.Serves r' (.input task)) (hout : r'.FromEliminated task)
      (hb : r'.step env (.input task) = some b) :
      AgreeingRuns r₀ r b

/-- Nobody in `PLAY` is handed the input of an eliminated player: he has one slot only. -/
theorem FromEliminated.unheard {task : PlayerInputTask} (h : r.FromEliminated task)
    (hok : RoomOk r) :
    r.heard task = false := by
  obtain ⟨hplay, -, p, hp, hactive, hid, hover⟩ := h
  refine Bool.eq_false_iff.mpr fun hheard => ?_
  rcases heard_iff.mp hheard with hwait | ⟨q, hq, hactive', hid', hplaying⟩
  · rw [hplay] at hwait
    cases hwait
  · obtain ⟨i, hi⟩ := List.mem_iff_getElem?.mp hp
    obtain ⟨j, hj⟩ := List.mem_iff_getElem?.mp hq
    obtain rfl := hok.distinct i j p q hi hj hactive hactive' (hid.trans hid'.symm)
    obtain rfl := Option.some.inj (hi.symm.trans hj)
    rw [hover] at hplaying
    cases hplaying

/-- What only one run has in its queue changes nothing of the veil. -/
theorem alike_addPlayTask {task : PlayerInputTask} (hheard : r.heard task = false) :
    Alike r.heard { r.addPlayTask task with out := r.out } r := by
  refine Alike.symm (Alike.intro (r := r) ?_ rfl)
  rw [addPlayTask, List.filter_append, List.filter_cons_of_neg (by simp [hheard]), List.filter_nil,
    List.append_nil]

/-- What the two rooms have in common, and that each is one of a run. -/
structure Twins (r r' : TetrisRoom) : Prop where
  left : Reachable r
  right : Reachable r'
  multi : r.kind ≠ .single
  alike : Alike r.heard { r with out := [] } { r' with out := [] }

theorem twins {r₀ : TetrisRoom} (hr₀ : Reachable r₀) (hkind : r₀.kind ≠ .single)
    (h : AgreeingRuns r₀ r r') :
    Twins r r' := by
  induction h with
  | start => exact ⟨hr₀, hr₀, hkind, rfl⟩
  | @both r r' a b _ env e hserves hserves' ha hb ih =>
      have hok := roomOk_reachable ih.left
      have hok' := roomOk_reachable ih.right
      have hserves₀ : ∀ {r : TetrisRoom}, env.Serves r e → env.Serves { r with out := [] } e :=
        fun hs => hs.of_players rfl
      have hstep : Alike a.heard a b := Alike.step (r := { r with out := [] }) ih.alike ih.multi
        (roomOk_silent hok) (roomOk_silent hok') (hserves₀ hserves) (hserves₀ hserves') ha hb
      exact ⟨ih.left.step env e hserves ha, ih.right.step env e hserves' hb,
        by rw [kind_stepped ((step_ok hok hserves).of_eq_some ha)]; exact ih.multi, hstep.silent⟩
  | @first r r' a _ env task hserves hout ha ih =>
      have hunheard := hout.unheard (roomOk_reachable ih.left)
      refine ⟨ih.left.step env _ hserves ha, ih.right, ?_, ?_⟩
      · cases ha
        exact ih.multi
      · cases ha
        exact (alike_addPlayTask (r := { r with out := [] }) hunheard).trans ih.alike
  | @second r r' b _ env task hserves hout hb ih =>
      have hunheard := hout.unheard (roomOk_reachable ih.right)
      have hheard : r.heard = r'.heard := ih.alike.heard_eq
      refine ⟨ih.left, ih.right.step env _ hserves hb, ih.multi, ?_⟩
      cases hb
      refine ih.alike.trans (Alike.symm ?_)
      have hone : Alike r'.heard _ _ := alike_addPlayTask (r := { r' with out := [] }) hunheard
      exact hone.weaken fun task h => by rw [← hheard]; exact h

/-- What everybody in `PLAY` has of a game: his own slot, and all that the slots share. -/
structure SameForPlayers (r r' : TetrisRoom) : Prop where
  state : r.roomState = r'.roomState
  winner : r.winnerId = r'.winnerId
  spawnList : r.tetrominoSpawnList = r'.tetrominoSpawnList
  states : r.roomPlayers.map (·.roomPlayerState) = r'.roomPlayers.map (·.roomPlayerState)
  playing : ∀ (i : Nat) (p : Player), p.roomPlayerState = .play →
    (r.roomPlayers[i]? = some p ↔ r'.roomPlayers[i]? = some p)

theorem Alike.sameForPlayers (h : Alike keep { r with out := [] } { r' with out := [] }) :
    SameForPlayers r r' := by
  have hslots : r.roomPlayers.map Player.veil = r'.roomPlayers.map Player.veil := h.players
  have hplaying : ∀ {ps qs : List Player}, ps.map Player.veil = qs.map Player.veil →
      ∀ {i : Nat} {p : Player}, p.roomPlayerState = .play → ps[i]? = some p → qs[i]? = some p := by
    intro ps qs hveil i p hplay hp
    rcases slot_veil hveil i with ⟨hnone, _⟩ | ⟨p', q, hp', hq, hpq⟩
    · rw [hp] at hnone
      cases hnone
    · obtain rfl := Option.some.inj (hp.symm.trans hp')
      rcases Player.veil_cases hpq with rfl | ⟨hout, _⟩
      · exact hq
      · exact absurd hplay hout
  refine ⟨h.read (·.roomState) fun _ => rfl, h.read (·.winnerId) fun _ => rfl,
    h.read (·.tetrominoSpawnList) fun _ => rfl, ?_,
    fun i p hplay => ⟨hplaying hslots hplay, hplaying hslots.symm hplay⟩⟩
  have hstates := congrArg (List.map Player.roomPlayerState) hslots
  simpa [List.map_map, Function.comp_def] using hstates

/--
**What eliminated players send changes nothing for anybody else**, at any time: the same
event makes both rooms send the same packets and record the same result.
-/
theorem eliminated_cannot_interfere {r₀ r r' : TetrisRoom} (hr₀ : Reachable r₀)
    (hkind : r₀.kind ≠ .single) (h : AgreeingRuns r₀ r r') :
    SameForPlayers r r' ∧ ∀ (env : RoomEnv) (e : RoomEvent), env.Serves r e → env.Serves r' e →
      ∃ a b, r.step env e = some a ∧ r'.step env e = some b ∧ a.out = b.out ∧
      SameForPlayers a b := by
  have htwins := twins hr₀ hkind h
  refine ⟨htwins.alike.sameForPlayers, fun env e hserves hserves' => ?_⟩
  obtain ⟨a, ha, -⟩ := step_ok (roomOk_reachable htwins.left) hserves
  obtain ⟨b, hb, -⟩ := step_ok (roomOk_reachable htwins.right) hserves'
  have hserves₀ : ∀ {r : TetrisRoom}, env.Serves r e → env.Serves { r with out := [] } e :=
    fun hs => hs.of_players rfl
  have hstep : Alike a.heard a b := Alike.step (r := { r with out := [] }) htwins.alike
    htwins.multi
    (roomOk_silent (roomOk_reachable htwins.left)) (roomOk_silent (roomOk_reachable htwins.right))
    (hserves₀ hserves) (hserves₀ hserves') ha hb
  exact ⟨a, b, ha, hb, hstep.read (·.out) fun _ => rfl, hstep.silent.sameForPlayers⟩

/-- The host drops his pieces until he has topped out; the guests watch. -/
def hostOut : Option TetrisRoom :=
  scenario [hostKey, guestKey, thirdKey] (scenarioRoom .five [hostKey, guestKey, thirdKey] hostKey)
    ([(.lobby, taskOf guestKey .join), (.lobby, taskOf thirdKey .join),
      (.room, taskOf guestKey .ready),
      (.room, taskOf thirdKey .ready), (.room, taskOf hostKey .start)] ++
      (List.range 8).flatMap fun n =>
        [(.room, .input ⟨EventType.drop.toInt, 1, 1⟩), (.room, .tick (20000 * (n + 1)))])

/-- The host goes on pressing keys in one of two runs. -/
theorem eliminated_cannot_interfere_hostOut :
    ∃ r r' a b, r.playTasks ≠ r'.playTasks ∧ SameForPlayers r r' ∧
    r.step (scenarioEnv [hostKey, guestKey, thirdKey] .room 0) (.tick 180000) = some a ∧
    r'.step (scenarioEnv [hostKey, guestKey, thirdKey] .room 0) (.tick 180000) = some b ∧
    a.out = b.out ∧
    SameForPlayers a b := by
  have hrun :
      hostOut.any (fun r => decide (AllOf [hostKey, guestKey, thirdKey] r ∧ r.kind ≠ .single ∧
      r.roomState = .play ∧ r.playGeneration = 1 ∧ r.playTasks = []) &&
      r.roomPlayers.any fun p => p.isActive && decide (p.sessionKey.playerId = 1) &&
        decide (p.roomPlayerState = .gameOver)) = true := by decide +kernel
  obtain ⟨r, hr, hrest⟩ := (Option.any_eq_true _ _).mp hrun
  rw [Bool.and_eq_true, decide_eq_true_eq, List.any_eq_true] at hrest
  obtain ⟨⟨hall, hkind, hplay, hgeneration, htasks⟩, p, hp, hover⟩ := hrest
  simp only [Bool.and_eq_true, decide_eq_true_eq] at hover
  have hreach : Reachable r :=
    scenario_reachable (by decide) (.created (scenarioRoom_created .five (by decide))) hr
  have hserves : ∀ e, (scenarioEnv [hostKey, guestKey, thirdKey] .room 0).Serves r e := fun _ =>
    scenarioEnv_serves .room 0 (by decide) hall
  have hout : r.FromEliminated ⟨EventType.drop.toInt, 1, 1⟩ :=
    ⟨hplay, hgeneration.symm, p, hp, hover.1.1, hover.1.2, hover.2⟩
  have hruns : AgreeingRuns r { r.addPlayTask ⟨EventType.drop.toInt, 1, 1⟩ with out := [] } r :=
    .first .start (scenarioEnv [hostKey, guestKey, thirdKey] .room 0) _ (hserves _) hout rfl
  obtain ⟨hsame, hnext⟩ := eliminated_cannot_interfere hreach hkind hruns
  obtain ⟨a, b, ha, hb, heq, hafter⟩ := hnext (scenarioEnv [hostKey, guestKey, thirdKey] .room 0)
    (.tick 180000) ((hserves _).of_players rfl) (hserves _)
  refine ⟨_, r, a, b, ?_, hsame, ha, hb, heq, hafter⟩
  rw [htasks]
  simp [addPlayTask]

end TetrisRoom

end ProjectTetris

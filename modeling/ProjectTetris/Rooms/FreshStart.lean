import ProjectTetris.Rooms.Winner

/-!
# Does a game start from scratch?

Four partial resets stand between two games: `ClearPlayer`, `ResetGameData`, `Clear` of
the engine and `ResetTickData`. Each skips something the others cover, except the combo
counter, which none of them touches. Nothing in a room for several players counts
combos. In a room for one player a game can end between two of its clears, and the
next one then starts with the combo of the last.
-/

namespace ProjectTetris

open Checked

namespace TetrisRoom

/-- The slot of the session `key` when a game starts: nothing in it but the first piece. -/
def freshSlot (key : SessionKey) (type : TetrominoType) (now : Int) : Player where
  sessionKey := key
  activeState := .active
  tetris :=
    { board := .empty
      pendingMoves := fun _ => false
      inputTasks := []
      sendTasks := []
      currentTetromino := .spawn type spawnPos
      timers := .reset now
      pendingGarbageLineCount := 0
      clearedLineCount := 0 }
  sendBuffer := []
  roomPlayerState := .play
  prevRoomPlayerState := .wait
  tetrominoIndex := 0
  score := 0
  combo := 0

/-! ## What is left of a game in a waiting room -/

/-- In a room that waits no pieces are left, and no slot shows a game; a free slot never does. -/
structure Rested (r : TetrisRoom) : Prop where
  pieces : r.roomState = .wait → r.tetrominoSpawnList = []
  slots : ∀ p ∈ r.roomPlayers, r.roomState = .wait ∨ p.isActive = false →
    p.score = 0 ∧ p.prevRoomPlayerState = .wait

theorem Rested.aside {r r' : TetrisRoom} (h : Rested r) (ha : Aside r r') : Rested r' := by
  refine ⟨fun hw => ?_, ?_⟩
  · rw [ha.spawnList]
    exact h.pieces (ha.state.symm.trans hw)
  · rw [ha.players, ha.state]
    exact h.slots

/-- A slot that is rewritten stays rested if what is written is. -/
theorem Rested.modify {r : TetrisRoom} (h : Rested r) (i : Nat) {f : Player → Player}
    (hf : ∀ p, (f p).score = 0 ∧ (f p).prevRoomPlayerState = .wait) :
    Rested (r.modifyPlayer i f) := by
  refine ⟨h.pieces, fun q hq hcase => ?_⟩
  obtain ⟨j, hj⟩ := List.mem_iff_getElem?.mp hq
  rw [modifyPlayer_getElem?, Option.map_eq_some_iff] at hj
  obtain ⟨p, hp, hpq⟩ := hj
  split at hpq
  · rw [← hpq]
    exact hf p
  · exact h.slots q (hpq ▸ List.mem_of_getElem? hp) hcase

/-- `ClearGame` leaves nothing where somebody sits, and nothing was left elsewhere. -/
theorem rested_clearGame {r : TetrisRoom} {env : RoomEnv} (h : Rested r)
    (hs : Seated env r.roomPlayers) (out : List RoomEffect) :
    Rested { r.clearGame env with out := out } := by
  refine ⟨fun _ => rfl, fun q hq _ => ?_⟩
  obtain ⟨p, hp, rfl⟩ := List.mem_map.mp
    (show q ∈ r.roomPlayers.map fun p =>
      if (findSession env p).isSome then p.resetGameData (env.now p.sessionKey) else p from hq)
  rw [hs.isSome hp]
  split
  · exact ⟨rfl, rfl⟩
  · rename_i hidle
    exact h.slots p hp (.inr (Bool.eq_false_iff.mpr hidle))

theorem rested_removed {r r' : TetrisRoom} {i : Nat} (h : Rested r) (hr : Removed r i r') :
    Rested r' := by
  have hstate : r'.roomState = .wait → r.roomState = .wait := by
    intro hw
    rcases hr.state with ⟨_, hs⟩ | ⟨_, hs⟩
    · exact hs.symm.trans hw
    · rw [hs] at hw
      exact absurd hw (by decide)
  refine ⟨fun hw => ?_, fun q hq hcase => ?_⟩
  · rcases hr.pieces with hp | hp
    · exact hp.trans (h.pieces (hstate hw))
    · exact hp
  · obtain ⟨j, hj⟩ := List.mem_iff_getElem?.mp hq
    have hlt := (List.getElem?_eq_some_iff.mp hj).1
    rw [hr.length] at hlt
    have hold := List.getElem?_eq_getElem hlt
    by_cases hij : j = i
    · subst hij
      obtain ⟨now, hcleared⟩ := hr.slot _ hold
      rw [hj] at hcleared
      injection hcleared with hcleared
      rw [hcleared]
      exact ⟨rfl, rfl⟩
    · obtain ⟨q', hq', hrel⟩ := hr.others j _ hij hold
      rw [hj] at hq'
      injection hq' with hq'
      subst hq'
      have hslot := h.slots _ (List.mem_of_getElem? hold)
      -- the others stay as they were, or stop being ready
      rcases hrel with hrel | ⟨_, hrel⟩
      · rw [hrel] at hcase ⊢
        exact hslot (hcase.imp_left hstate)
      · rw [hrel] at hcase ⊢
        exact hslot (hcase.imp_left hstate)

theorem rested_handled {r r' : TetrisRoom} {env : RoomEnv} (h : Rested r)
    (hs : Seated env r.roomPlayers) (hr : Handled env r r') : Rested r' := by
  cases hr with
  | aside ha => exact h.aside ha
  | refused i now _ _ ha => exact (h.modify i fun _ => ⟨rfl, rfl⟩).aside ha
  | joined i now _ _ _ _ ha =>
      exact Rested.aside
        (Rested.modify (r := { r with currentPlayerCount := r.currentPlayerCount + 1 })
        ⟨h.pieces, h.slots⟩ i fun _ => ⟨rfl, rfl⟩) ha
  | removed i _ _ hr => exact rested_removed h hr
  | toggled i ha =>
      have hstep : Rested (r.modifyPlayer i fun p =>
          { p with roomPlayerState := (MultiRoom.toggled p.roomPlayerState).1 }) := by
        refine ⟨h.pieces, fun q hq hcase => ?_⟩
        obtain ⟨j, hj⟩ := List.mem_iff_getElem?.mp hq
        rw [modifyPlayer_getElem?, Option.map_eq_some_iff] at hj
        obtain ⟨p, hp, rfl⟩ := hj
        have hslot := h.slots p (List.mem_of_getElem? hp)
        split
        · rename_i hij
          rw [if_pos hij] at hcase
          exact hslot hcase
        · rename_i hij
          rw [if_neg hij] at hcase
          exact hslot hcase
      exact hstep.aside ha
  | started type hr =>
      refine ⟨fun hw => absurd (hr.play.symm.trans hw) (by decide), fun q hq hcase => ?_⟩
      have hfree := hcase.resolve_left fun hw => absurd (hr.play.symm.trans hw) (by decide)
      rw [hr.players] at hq
      obtain ⟨p, hp, rfl⟩ := List.mem_map.mp hq
      split
      · rename_i hactive
        rw [if_pos hactive] at hfree
        exact absurd (hactive.symm.trans hfree) (by decide)
      · rename_i hactive
        exact h.slots p hp (.inr (Bool.eq_false_iff.mpr hactive))
  | gaveUp _ _ hrest =>
      rw [hrest]
      exact rested_clearGame h hs _

/-- A tick does nothing where nobody sits. -/
theorem rested_tickRun {env : RoomEnv} {t : Int} {r r' : TetrisRoom}
    {extra : Player → List TaskType} {qs ss : List Player} (h : Rested r)
    (hplay : r.roomState = .play) (hr : TickRun env t r extra qs ss r') :
    Rested r' := by
  have hon : r'.roomState ≠ .wait :=
    fun hw => absurd (hplay.symm.trans (hr.state.symm.trans hw)) (by decide)
  refine ⟨fun hw => absurd hw hon, fun x hx hcase => ?_⟩
  have hfree := hcase.resolve_left hon
  obtain ⟨p, q, s, hp, hpq, hqs, rfl⟩ := hr.slot hx
  have hactive : s.isActive = p.isActive := isActive_of_seat (hqs.seat.trans hpq.seat)
  have hs : s.isActive = false := by
    split at hfree
    · exact hfree
    · exact hfree
  have hp' : p.isActive = false := hactive.symm.trans hs
  obtain rfl := hpq.idle hp'
  have hsq : s = addTasks q (extra q) := by
    rcases hqs with ⟨hplaying, _⟩ | ⟨_, heq⟩
    · exact absurd (hp'.symm.trans hplaying.2) (by decide)
    · exact heq
  rw [if_neg (by rw [hs]; decide), hsq]
  exact h.slots q hp (.inr hp')

theorem rested_ended {env : RoomEnv} {t : Int} {r r₁ r' : TetrisRoom}
    {extra : Player → List TaskType} {qs ss : List Player} (h : Rested r)
    (hplay : r.roomState = .play) (hs : Seated env r.roomPlayers)
    (hr : TickRun env t r extra qs ss r₁) (hend : Ended env r₁ r') : Rested r' := by
  obtain ⟨out, _, rfl⟩ := hend
  exact rested_clearGame (rested_tickRun h hplay hr)
    (hs.of_sameSeats (sameSeats_of_seats hr.seats)) _

theorem rested_stepped {r r' : TetrisRoom} {env : RoomEnv} {e : RoomEvent} (hok : RoomOk r)
    (h : Rested r) (hserves : env.Serves r e) (hr : Stepped env r e r') : Rested r' := by
  have hs : Seated env ({ r with out := [] } : TetrisRoom).roomPlayers := hok.seated hserves
  have h₀ : Rested { r with out := [] } := ⟨h.pieces, h.slots⟩
  cases hr with
  | handled _ hr => exact rested_handled h₀ hs hr
  | multi qs ss _ hplay _ _ hr =>
      cases hr with
      | goesOn _ hrun => exact rested_tickRun h₀ hplay hrun
      | ends id _ _ hrun _ hend => exact rested_ended h₀ hplay hs hrun hend
  | single _ hplay hr =>
      cases hr with
      | idle ha => exact h₀.aside ha
      | goesOn qs ss hrun => exact rested_tickRun h₀ hplay hrun
      | ends qs ss hrun hend => exact rested_ended h₀ hplay hs hrun hend

theorem rested_created {r : TetrisRoom} (h : Created r) : Rested r := by
  obtain ⟨kind, roomIndex, roomKey, roomName, roomPassword, now, now', key, haside, _⟩ :=
    created_joined h
  refine Rested.aside (Rested.modify ⟨fun _ => rfl, fun p hp _ => ?_⟩ 0 fun p => ⟨rfl, rfl⟩) haside
  rw [show p = Player.init now from List.eq_of_mem_replicate hp]
  exact ⟨rfl, rfl⟩

theorem rested_reachable {r : TetrisRoom} (h : Reachable r) : Rested r := by
  induction h with
  | created h => exact rested_created h
  | step hr env e hserves hstep ih =>
      have hok := roomOk_reachable hr
      exact rested_stepped hok ih hserves ((step_ok hok hserves).of_eq_some hstep)

/-! ## Combos -/

/-- No slot of `r'` has a combo that no slot of `r` had. -/
def CombosOf (r r' : TetrisRoom) : Prop :=
  ∀ q ∈ r'.roomPlayers, ∃ p ∈ r.roomPlayers, q.combo = p.combo

theorem CombosOf.refl (r : TetrisRoom) : CombosOf r r := fun q hq => ⟨q, hq, rfl⟩

theorem CombosOf.trans {r₁ r₂ r₃ : TetrisRoom} (h₁ : CombosOf r₁ r₂) (h₂ : CombosOf r₂ r₃) :
    CombosOf r₁ r₃ := by
  intro q hq
  obtain ⟨p, hp, hqp⟩ := h₂ q hq
  obtain ⟨o, ho, hpo⟩ := h₁ p hp
  exact ⟨o, ho, hqp.trans hpo⟩

theorem CombosOf.of_players {r r' : TetrisRoom} (h : r'.roomPlayers = r.roomPlayers) :
    CombosOf r r' :=
  fun q hq => ⟨q, h ▸ hq, rfl⟩

theorem CombosOf.map {r r' : TetrisRoom} {f : Player → Player} (hf : ∀ p, (f p).combo = p.combo)
    (h : r'.roomPlayers = r.roomPlayers.map f) : CombosOf r r' := by
  intro q hq
  rw [h] at hq
  obtain ⟨p, hp, rfl⟩ := List.mem_map.mp hq
  exact ⟨p, hp, hf p⟩

theorem CombosOf.mapM {r r' : TetrisRoom} {f : Player → Option Player}
    (hf : ∀ p q, f p = some q → q.combo = p.combo)
    (h : r.roomPlayers.mapM f = some r'.roomPlayers) :
    CombosOf r r' := by
  intro q hq
  obtain ⟨i, hi⟩ := List.mem_iff_getElem?.mp hq
  rw [getElem?_mapM h i] at hi
  obtain ⟨p, hp, hpq⟩ := Option.bind_eq_some_iff.mp hi
  exact ⟨p, List.mem_of_getElem? hp, hf p q hpq⟩

theorem CombosOf.modify {r r' : TetrisRoom} {i : Nat} {f : Player → Player}
    (h : r'.roomPlayers = (r.modifyPlayer i f).roomPlayers) (hf : ∀ p, (f p).combo = p.combo) :
    CombosOf r r' := by
  intro q hq
  rw [h] at hq
  obtain ⟨j, hj⟩ := List.mem_iff_getElem?.mp hq
  rw [modifyPlayer_getElem?, Option.map_eq_some_iff] at hj
  obtain ⟨p, hp, rfl⟩ := hj
  refine ⟨p, List.mem_of_getElem? hp, ?_⟩
  split
  · exact hf p
  · rfl

/-- **Outside ticks nobody scores a combo**, and none is taken away either. -/
theorem combos_handled {r r' : TetrisRoom} {env : RoomEnv} (h : Handled env r r') :
    CombosOf r r' := by
  cases h with
  | aside ha => exact .of_players ha.players
  | refused i now _ _ ha => exact .modify ha.players fun _ => rfl
  | joined i now _ _ _ _ ha => exact CombosOf.modify (r := r) ha.players fun _ => rfl
  | removed i _ _ hr =>
      intro q hq
      obtain ⟨j, hj⟩ := List.mem_iff_getElem?.mp hq
      have hlt := (List.getElem?_eq_some_iff.mp hj).1
      rw [hr.length] at hlt
      have hold := List.getElem?_eq_getElem hlt
      refine ⟨_, List.mem_of_getElem? hold, ?_⟩
      by_cases hij : j = i
      · subst hij
        obtain ⟨now, hcleared⟩ := hr.slot _ hold
        rw [hj] at hcleared
        injection hcleared with hcleared
        rw [hcleared]
        rfl
      · obtain ⟨q', hq', hrel⟩ := hr.others j _ hij hold
        rw [hj] at hq'
        injection hq' with hq'
        rcases hrel with hrel | ⟨_, hrel⟩
        · rw [hq', hrel]
        · rw [hq', hrel]
  | toggled i ha => exact .modify ha.players fun _ => rfl
  | started type hr =>
      refine .map (fun p => ?_) hr.players
      split <;> rfl
  | gaveUp _ _ hrest =>
      refine .map (f := fun p => if (findSession env p).isSome then
        p.resetGameData (env.now p.sessionKey) else p) (fun p => ?_) (by rw [hrest]; rfl)
      split <;> rfl

/-- What the first half of a tick of a room for several players does to the combos: nothing. -/
theorem combos_beforeVerdict {r r' : TetrisRoom} {env : RoomEnv} {t : Int}
    (h : MultiRoom.beforeVerdict r env t = some r') : CombosOf r r' := by
  obtain ⟨r₁, hticks, hgarbage⟩ := Option.bind_eq_some_iff.mp h
  obtain ⟨ps₁, hps₁, hr₁⟩ := Option.bind_eq_some_iff.mp hticks
  obtain ⟨ps₂, hps₂, hr'⟩ := Option.bind_eq_some_iff.mp hgarbage
  injection hr₁ with hr₁
  injection hr' with hr'
  have hprev : CombosOf r (MultiRoom.updatePrevPlayerStates r env) := by
    unfold MultiRoom.updatePrevPlayerStates
    split
    · exact .refl r
    · refine .map (fun p => ?_) rfl
      split <;> rfl
  have hengine : CombosOf (MultiRoom.updatePrevPlayerStates r env) r₁ := by
    refine .mapM (f := processTickOf env t) (fun p q hpq => ?_) (by rw [← hr₁]; exact hps₁)
    unfold processTickOf at hpq
    split at hpq
    · obtain ⟨s, _, hq⟩ := Option.bind_eq_some_iff.mp hpq
      injection hq with hq
      rw [← hq]
    · injection hpq with hpq
      rw [hpq]
  have hattacks : ∀ (is : List Nat) (r : TetrisRoom),
      CombosOf r (is.foldl MultiRoom.attackFrom r) := by
    intro is
    induction is with
    | nil => exact fun r => .refl r
    | cons i rest ih =>
        intro r
        refine CombosOf.trans (fun q hq => ?_) (ih (MultiRoom.attackFrom r i))
        obtain ⟨j, hj⟩ := List.mem_iff_getElem?.mp hq
        rw [MultiRoom.attackFrom, List.getElem?_mapIdx, Option.map_eq_some_iff] at hj
        obtain ⟨p, hp, rfl⟩ := hj
        refine ⟨p, List.mem_of_getElem? hp, ?_⟩
        split <;> rfl
  have hlines : CombosOf (MultiRoom.distributeGarbageLines r₁) r' := by
    refine .mapM (f := addGarbageLinesTo env) (fun p q hpq => ?_) (by rw [← hr']; exact hps₂)
    unfold addGarbageLinesTo at hpq
    split at hpq
    · obtain ⟨s, _, hq⟩ := Option.bind_eq_some_iff.mp hpq
      injection hq with hq
      rw [← hq]
    · injection hpq with hpq
      rw [hpq]
  exact ((hprev.trans hengine).trans (hattacks _ r₁)).trans hlines

theorem combo_delivered {l : List TetrominoType} {p q : Player} (h : Delivered l p q) :
    q.combo = p.combo := by
  rcases h with ⟨_, happ⟩ | ⟨_, rfl⟩
  · cases happ with
    | plain _ => rfl
    | respawned => rfl
  · rfl

/-- The second half of a tick does nothing to them either. -/
theorem combos_tickRun {env : RoomEnv} {t : Int} {r r' : TetrisRoom}
    {extra : Player → List TaskType} {qs ss : List Player} (h : TickRun env t r extra qs ss r') :
    ∀ x ∈ r'.roomPlayers, ∃ q ∈ qs, x.combo = q.combo := by
  intro x hx
  rw [h.players] at hx
  obtain ⟨s, hs, rfl⟩ := List.mem_map.mp hx
  obtain ⟨q, hq, hqs⟩ := h.delivered.mem hs
  refine ⟨q, hq, ?_⟩
  have hsq : s.combo = (addTasks q (extra q)).combo := combo_delivered hqs
  split
  · exact hsq
  · exact hsq

theorem combos_distributeInputs (r : TetrisRoom) (env : RoomEnv) :
    CombosOf r (r.distributeInputs env) := by
  obtain ⟨ps, heq, hps⟩ := distributeInputs_ok r env
  intro q hq
  rw [heq] at hq
  obtain ⟨p, hp, ⟨inputs, rfl⟩, _⟩ := hps.mem hq
  exact ⟨p, hp, rfl⟩

/-- **A room for several players never counts a combo.** -/
theorem combos_stepped {r r' : TetrisRoom} {env : RoomEnv} {e : RoomEvent} (h : Stepped env r e r')
    (hkind : r.kind ≠ .single) : CombosOf r r' := by
  cases h with
  | handled _ h => exact combos_handled (r := { r with out := [] }) h
  | @multi t _ qs ss _ _ hbefore _ h =>
      have hqs : ∀ q ∈ qs, ∃ p ∈ r.roomPlayers, q.combo = p.combo :=
        (combos_distributeInputs { r with out := [] } env).trans (combos_beforeVerdict hbefore)
      have hrun : ∀ {extra r₁}, TickRun env t { r with out := [] } extra qs ss r₁ →
          CombosOf r r₁ := by
        intro extra r₁ hrun x hx
        obtain ⟨q, hq, hxq⟩ := combos_tickRun hrun x hx
        obtain ⟨p, hp, hqp⟩ := hqs q hq
        exact ⟨p, hp, hxq.trans hqp⟩
      cases h with
      | goesOn _ h => exact hrun h
      | ends id _ _ h _ hend =>
          obtain ⟨out, _, rfl⟩ := hend
          refine (hrun h).trans (.map (f := fun p => if (findSession env p).isSome then
            p.resetGameData (env.now p.sessionKey) else p) (fun p => ?_) rfl)
          split <;> rfl
  | single hsingle => exact absurd hsingle hkind

theorem combo_multi {r : TetrisRoom} (h : Reachable r) (hkind : r.kind ≠ .single) :
    ∀ p ∈ r.roomPlayers, p.combo = 0 := by
  induction h with
  | created h =>
      obtain ⟨kind, roomIndex, roomKey, roomName, roomPassword, now, now', key, haside, _⟩ :=
        created_joined h
      intro q hq
      obtain ⟨p, hp, hqp⟩ := CombosOf.modify
        (r := waitingRoom kind roomIndex roomKey roomName roomPassword now) haside.players
        (fun _ => rfl) q hq
      rw [hqp, show p = Player.init now from List.eq_of_mem_replicate hp]
      rfl
  | step hr env e hserves hstep ih =>
      have hstepped := (step_ok (roomOk_reachable hr) hserves).of_eq_some hstep
      rw [kind_stepped hstepped] at hkind
      intro q hq
      obtain ⟨p, hp, hqp⟩ := combos_stepped hstepped hkind q hq
      exact hqp.trans (ih hkind p hp)

/-! ## The start -/

/-- Everybody in the room begins with a `freshSlot`, and one bag has been drawn for them all. -/
def StartsFresh (env : RoomEnv) (r : TetrisRoom) : Prop :=
  ∃ (bag : Bag) (type : TetrominoType), r.tetrominoSpawnList = bag.types ∧
    bag.types[0]? = some type ∧
    ∀ p ∈ r.roomPlayers, p.isActive = true → p = freshSlot p.sessionKey type (env.now p.sessionKey)

/-- What `StartGame` makes of a player's slot: all of it is fresh, except for the combo. -/
theorem startedSlot_eq {n : Nat} {p : Player} (hok : SlotOk False n p) (ha : p.isActive = true)
    (hscore : p.score = 0) (hprev : p.prevRoomPlayerState = .wait) (type : TetrominoType)
    (now : Int) :
    startedSlot p type now = { freshSlot p.sessionKey type now with combo := p.combo } := by
  have hactive : p.activeState = .active := of_decide_eq_true ha
  have hindex : p.tetrominoIndex = 0 := (hok.idle fun hc => hc.1).2
  have htetris : (p.tetris.initNewTetromino type spawnPos).clear now =
      (freshSlot p.sessionKey type now).tetris := by
    simp only [Tetris.initNewTetromino, Tetris.clear, freshSlot, hok.fresh.inputs, hok.fresh.tasks,
      hok.fresh.garbage, hok.fresh.cleared]
  simp only [startedSlot, htetris, hok.buffer, hprev, hindex, hscore, hactive]
  rfl

/--
**A game starts from scratch exactly if nobody who takes part has a combo left over.**

Only `StartGame` makes a waiting room a playing one, and it does so in no other state.
-/
theorem startGame_fresh_iff {r r' : TetrisRoom} {env : RoomEnv} {e : RoomEvent} (h : Reachable r)
    (hserves : env.Serves r e) (hwait : r.roomState = .wait) (hstep : r.step env e = some r')
    (hplay : r'.roomState = .play) :
    StartsFresh env r' ↔ ∀ p ∈ r.roomPlayers, p.isActive = true → p.combo = 0 := by
  have hok := roomOk_reachable h
  have hrested := rested_reachable h
  obtain ⟨type, hstarted⟩ := started_step ((step_ok hok hserves).of_eq_some hstep) hwait hplay
  have hplayers : r'.roomPlayers = r.roomPlayers.map fun p =>
      if p.isActive then startedSlot p type (env.now p.sessionKey) else p := hstarted.players
  have hslot : ∀ p ∈ r.roomPlayers, p.isActive = true →
      startedSlot p type (env.now p.sessionKey) =
        { freshSlot p.sessionKey type (env.now p.sessionKey) with combo := p.combo } := by
    intro p hp ha
    obtain ⟨hscore, hprev⟩ := hrested.slots p hp (.inl hwait)
    have hno : ¬ r.roomState = .play := by rw [hwait]; decide
    refine startedSlot_eq (n := 0)
      (slotOk_idle (hok.slots p hp) (fun hc => hno hc.1) fun hc => hc.1) ha hscore hprev type _
  constructor
  · rintro ⟨bag, type', _, _, hfresh⟩ p hp ha
    have hmem : startedSlot p type (env.now p.sessionKey) ∈ r'.roomPlayers := by
      rw [hplayers]
      exact List.mem_map.mpr ⟨p, hp, if_pos ha⟩
    have hcombo := congrArg Player.combo (hfresh _ hmem ha)
    exact hcombo
  · intro hcombo
    have hlist : r'.tetrominoSpawnList = (env.bag 0).types := by
      have hdrawn := hstarted.drawn
      rw [show ({ r with out := [] } : TetrisRoom).tetrominoSpawnList = []
        from hrested.pieces hwait] at hdrawn
      exact hdrawn
    refine ⟨env.bag 0, type, hlist, hlist ▸ hstarted.current, fun q hq ha => ?_⟩
    rw [hplayers] at hq
    obtain ⟨p, hp, rfl⟩ := List.mem_map.mp hq
    cases hp' : p.isActive with
    | false =>
        rw [if_neg (by rw [hp']; decide)] at ha
        exact absurd (hp'.symm.trans ha) (by decide)
    | true =>
        rw [if_pos rfl, hslot p hp hp', hcombo p hp hp']
        rfl

/-- One line cleared with the first piece, the game given up, and the next one started. -/
def secondGame : List (ModeState × RoomEvent) :=
  [(.room, taskOf hostKey .start), (.room, .input ⟨EventType.rotate.toInt, 1, 1⟩),
    (.room, .tick 20000)] ++
    ([20400, 20700, 21000, 21300, 21600].flatMap fun t =>
      [(.room, .input ⟨EventType.left.toInt, 1, 1⟩), (.room, .tick t)]) ++
    [(.room, .input ⟨EventType.drop.toInt, 1, 1⟩), (.room, .tick 22200),
      (.room, taskOf hostKey .giveUp)]

/-- The combo of the game that was given up counts in the next one. -/
theorem startGame_combo_kept : ∃ (r r' : TetrisRoom) (env : RoomEnv) (e : RoomEvent), Reachable r ∧
    env.Serves r e ∧ r.roomState = .wait ∧ r.step env e = some r' ∧ r'.roomState = .play ∧
    ¬ StartsFresh env r' := by
  have hrun :
    (scenario [hostKey] (scenarioRoom .single [hostKey] hostKey) secondGame).any (fun r =>
      decide (AllOf [hostKey] r ∧ r.roomState = .wait) &&
        (r.step (worldOf [hostKey]) (taskOf hostKey .start)).any fun r' =>
          decide (r'.roomState = .play ∧ ∃ p ∈ r'.roomPlayers,
            p.isActive = true ∧ p.combo = 1)) = true := by
    decide +kernel
  simp only [Option.any_eq_true, Bool.and_eq_true, decide_eq_true_eq] at hrun
  obtain ⟨r, hr, ⟨hall, hwait⟩, r', hstep, hplay, p, hp, ha, hcombo⟩ := hrun
  refine ⟨r, r', worldOf [hostKey], _, scenario_reachable (by decide)
    (.created (scenarioRoom_created .single (by decide))) hr,
    scenarioEnv_serves .room 0 (by decide) hall, hwait, hstep, hplay, ?_⟩
  rintro ⟨bag, type, _, _, hfresh⟩
  have hzero : p.combo = 0 := congrArg Player.combo (hfresh p hp ha)
  rw [hcombo] at hzero
  exact absurd hzero (by decide)

/-- The second game, after one that was given up with a piece dropped and no line cleared. -/
theorem startGame_fresh_second : ∃ r r' : TetrisRoom, r.roomState = .wait ∧ r.playGeneration = 1 ∧
    r'.roomState = .play ∧ StartsFresh (worldOf [hostKey]) r' ∧
    (StartsFresh (worldOf [hostKey]) r' ↔ ∀ p ∈ r.roomPlayers,
      p.isActive = true → p.combo = 0) := by
  have hrun : (scenario [hostKey] (scenarioRoom .single [hostKey] hostKey)
      [(.room, taskOf hostKey .start), (.room, .input ⟨EventType.drop.toInt, 1, 1⟩),
        (.room, .tick 20000), (.room, taskOf hostKey .giveUp)]).any (fun r =>
      decide (AllOf [hostKey] r ∧ r.roomState = .wait ∧ r.playGeneration = 1) &&
        decide (∀ p ∈ r.roomPlayers, p.isActive = true → p.combo = 0) &&
        (r.step (worldOf [hostKey]) (taskOf hostKey .start)).any fun r' =>
          decide (r'.roomState = .play)) = true := by
    decide +kernel
  simp only [Option.any_eq_true, Bool.and_eq_true, decide_eq_true_eq] at hrun
  obtain ⟨r, hr, ⟨⟨hall, hwait, hgames⟩, hcombo⟩, r', hstep, hplay⟩ := hrun
  have hiff := startGame_fresh_iff (scenario_reachable (by decide)
      (.created (scenarioRoom_created .single (by decide))) hr)
    (scenarioEnv_serves .room 0 (by decide) hall) hwait hstep hplay
  exact ⟨r, r', hwait, hgames, hplay, hiff.mpr hcombo, hiff⟩

end TetrisRoom

end ProjectTetris

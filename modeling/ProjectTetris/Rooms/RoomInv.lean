import ProjectTetris.Rooms.TickOutcome

/-!
# The invariant of a room

`RoomOk` holds of a room that has just been created, every event keeps it, and so it
holds in every state a room can reach. Because no event of a room that satisfies it
can fail, no board is ever accessed outside its array.
-/

namespace ProjectTetris

open Checked Slots

namespace TetrisRoom

/-! ## Who sits where -/

/-- The account in each slot, as far as `RoomOk` speaks of it. -/
def accounts (ps : List Player) : List (Option Int) :=
  ps.map fun p => if p.isActive then some p.sessionKey.playerId else none

/-- No account sits twice, and the accounts are counted. -/
structure Occupied (l : List (Option Int)) (count : Int) : Prop where
  distinct : ∀ (i j : Nat) (id : Int), l[i]? = some (some id) → l[j]? = some (some id) → i = j
  count : count = (l.countP Option.isSome : Nat)

theorem accounts_slot {ps : List Player} {i : Nat} {p : Player} (hp : ps[i]? = some p) :
    (accounts ps)[i]? = some (if p.isActive then some p.sessionKey.playerId else none) := by
  rw [accounts, List.getElem?_map, hp]
  rfl

theorem RoomOk.occupied {r : TetrisRoom} (h : RoomOk r) :
    Occupied (accounts r.roomPlayers) r.currentPlayerCount := by
  refine ⟨fun i j id hi hj => ?_, ?_⟩
  · rw [accounts, List.getElem?_map, Option.map_eq_some_iff] at hi hj
    obtain ⟨p, hp, hpid⟩ := hi
    obtain ⟨q, hq, hqid⟩ := hj
    have hpa : p.isActive = true := by
      cases ha : p.isActive with
      | true => rfl
      | false => rw [ha] at hpid; exact absurd hpid (by simp)
    have hqa : q.isActive = true := by
      cases ha : q.isActive with
      | true => rfl
      | false => rw [ha] at hqid; exact absurd hqid (by simp)
    rw [if_pos hpa] at hpid
    rw [if_pos hqa] at hqid
    exact h.distinct i j p q hp hq hpa hqa (Option.some.inj (hpid.trans hqid.symm))
  · rw [h.count, accounts, List.countP_map]
    congr 2
    funext p
    rw [Function.comp_apply]
    cases p.isActive <;> rfl

theorem roomOk_of_occupied {r : TetrisRoom} (hlen : r.roomPlayers.length = r.kind.slotCount)
    (hslots : ∀ p ∈ r.roomPlayers, SlotOk (r.roomState = .play) r.tetrominoSpawnList.length p)
    (h : Occupied (accounts r.roomPlayers) r.currentPlayerCount) : RoomOk r := by
  refine ⟨hlen, hslots, fun i j p q hp hq hpa hqa hid => ?_, ?_⟩
  · refine h.distinct i j p.sessionKey.playerId ?_ ?_
    · rw [accounts_slot hp, if_pos hpa]
    · rw [accounts_slot hq, if_pos hqa, hid]
  · rw [h.count, accounts, List.countP_map]
    congr 2
    funext p
    rw [Function.comp_apply]
    cases p.isActive <;> rfl

/-- The account in slot `i` leaves. -/
theorem Occupied.remove {l : List (Option Int)} {count : Int} {i : Nat} {id : Int}
    (h : Occupied l count) (hi : l[i]? = some (some id)) :
    Occupied (l.set i none) (count - 1) := by
  obtain ⟨hlt, heq⟩ := List.getElem?_eq_some_iff.mp hi
  refine ⟨fun j k id' hj hk => ?_, ?_⟩
  · have hold : ∀ m : Nat, (l.set i none)[m]? = some (some id') → l[m]? = some (some id') := by
      intro m hm
      rw [List.getElem?_set] at hm
      split at hm
      · rename_i him
        subst him
        simp at hm
      · exact hm
    exact h.distinct j k id' (hold j hj) (hold k hk)
  · have hpos : 0 < l.countP Option.isSome :=
      List.countP_pos_iff.mpr ⟨some id, List.mem_of_getElem? hi, rfl⟩
    rw [List.countP_set hlt, heq, h.count]
    simp
    omega

/-- An account that was not there takes the free slot `i`. -/
theorem Occupied.add {l : List (Option Int)} {count : Int} {i : Nat} {id : Int}
    (h : Occupied l count) (hi : l[i]? = some none) (hnew : ∀ j : Nat, l[j]? ≠ some (some id)) :
    Occupied (l.set i (some id)) (count + 1) := by
  obtain ⟨hlt, heq⟩ := List.getElem?_eq_some_iff.mp hi
  have hold : ∀ (m : Nat) (id' : Int), (l.set i (some id))[m]? = some (some id') →
      (m = i ∧ id' = id) ∨ l[m]? = some (some id') := by
    intro m id' hm
    rw [List.getElem?_set] at hm
    split at hm
    · rename_i him
      subst him
      exact .inl ⟨rfl, by simpa [hlt] using hm.symm⟩
    · exact .inr hm
  refine ⟨fun j k id' hj hk => ?_, ?_⟩
  · rcases hold j id' hj with ⟨rfl, rfl⟩ | hj' <;> rcases hold k _ hk with ⟨rfl, hid⟩ | hk'
    · rfl
    · exact absurd hk' (hnew k)
    · subst hid
      exact absurd hj' (hnew j)
    · exact h.distinct j k id' hj' hk'
  · rw [List.countP_set hlt, heq, h.count]
    simp

theorem accounts_of_seats {ps qs : List Player} (h : qs.map Player.seat = ps.map Player.seat) :
    accounts qs = accounts ps := by
  have hseat : ∀ ps : List Player, accounts ps = (ps.map Player.seat).map fun s =>
      if s.2 = .active then some s.1.playerId else none := by
    intro ps
    rw [accounts, List.map_map]
    refine List.map_congr_left fun p _ => ?_
    by_cases ha : p.activeState = .active <;> simp [Player.isActive, Player.seat, ha]
  rw [hseat, hseat, h]

/-- An event that leaves everybody seated has only the slots to account for. -/
theorem roomOk_of_seats {r r' : TetrisRoom} (h : RoomOk r) (hkind : r'.kind = r.kind)
    (hseats : r'.roomPlayers.map Player.seat = r.roomPlayers.map Player.seat)
    (hcount : r'.currentPlayerCount = r.currentPlayerCount)
    (hslots : ∀ p ∈ r'.roomPlayers, SlotOk (r'.roomState = .play) r'.tetrominoSpawnList.length p) :
    RoomOk r' := by
  refine roomOk_of_occupied ?_ hslots ?_
  · have hlen := congrArg List.length hseats
    rw [List.length_map, List.length_map] at hlen
    rw [hlen, h.length, hkind]
  · rw [accounts_of_seats hseats, hcount]
    exact h.occupied

/-! ## Slots -/

section Slots

variable {gameOn gameOn' : Prop} {n n' : Nat} {p : Player}

/-- A slot that takes no part in a game is fine whatever becomes of the game. -/
theorem slotOk_idle (h : SlotOk gameOn n p) (hno : ¬ (gameOn ∧ p.isActive = true))
    (hno' : ¬ (gameOn' ∧ p.isActive = true)) : SlotOk gameOn' n' p :=
  ⟨h.settled, h.fresh, h.buffer, fun _ => h.idle hno, fun hg ha => absurd ⟨hg, ha⟩ hno'⟩

theorem slotOk_resetGameData (hsettled : p.activeState ≠ .pending) (hfresh : p.tetris.Fresh)
    (hno : ¬ (gameOn ∧ p.isActive = true)) (now : Int) : SlotOk gameOn n (p.resetGameData now) :=
  ⟨hsettled, hfresh.clear now, rfl, fun _ => ⟨.inl rfl, rfl⟩, fun hg ha => absurd ⟨hg, ha⟩ hno⟩

theorem slotOk_clearPlayer (hfresh : p.tetris.Fresh) (now : Int) :
    SlotOk gameOn n (p.clearPlayer now) :=
  ⟨fun hc => ActiveEntryState.noConfusion hc, hfresh.clear now, rfl, fun _ => ⟨.inl rfl, rfl⟩,
    fun _ ha => absurd ha (by simp [Player.clearPlayer, Player.isActive])⟩

theorem slotOk_joinedSlot (hfresh : p.tetris.Fresh) (key : SessionKey) (now : Int)
    (hno : ¬ gameOn) :
    SlotOk gameOn n (joinedSlot p key now) :=
  ⟨fun hc => ActiveEntryState.noConfusion hc, hfresh.clear now, rfl, fun _ => ⟨.inl rfl, rfl⟩,
    fun hg _ => absurd hg hno⟩

/-- A player in the game is neither ready nor not, so there is nothing to toggle. -/
theorem slotOk_toggled (h : SlotOk gameOn n p) :
    SlotOk gameOn n { p with roomPlayerState := (MultiRoom.toggled p.roomPlayerState).1 } := by
  refine ⟨h.settled, h.fresh, h.buffer, fun hno => ⟨?_, (h.idle hno).2⟩, fun hg ha => ?_⟩
  · rcases (h.idle hno).1 with hs | hs
    · rw [hs]; exact .inr rfl
    · rw [hs]; exact .inl rfl
  · have hin := h.inGame hg ha
    have hsame : (MultiRoom.toggled p.roomPlayerState).1 = p.roomPlayerState := by
      rcases hin.state with hs | hs <;> rw [hs] <;> rfl
    rw [hsame]
    exact hin

theorem slotOk_startedSlot (h : SlotOk gameOn n p) (hno : ¬ gameOn) (hn : 2 ≤ n')
    (type : TetrominoType) (now : Int) (hg : gameOn') (ha : p.isActive = true) :
    SlotOk gameOn' n' (startedSlot p type now) := by
  have hindex : p.tetrominoIndex = 0 := (h.idle fun hc => hno hc.1).2
  refine ⟨h.settled, ?_, h.buffer, fun hc => absurd ⟨hg, ha⟩ hc,
    fun _ _ => ⟨.inl rfl, ?_, ?_, fun _ => ?_⟩⟩
  · exact ⟨rfl, h.fresh.inputs, h.fresh.tasks, h.fresh.garbage, h.fresh.cleared⟩
  · exact Tetris.inBoard_at_spawn rfl
  · show p.tetrominoIndex + 2 ≤ n'
    omega
  · exact ⟨Board.empty_hiddenEmpty, Board.empty_noFullRow,
      Tetris.valid_at_spawn Board.empty_hiddenEmpty rfl⟩

end Slots

/-! ## Events outside ticks -/

theorem roomOk_aside {r r' : TetrisRoom} (h : RoomOk r) (ha : Aside r r') : RoomOk r' := by
  refine roomOk_of_seats h ha.kind (by rw [ha.players]) ha.count ?_
  rw [ha.players, ha.state, ha.spawnList]
  exact h.slots

theorem accounts_set (ps : List Player) (i : Nat) (p : Player) :
    accounts (ps.set i p) =
      (accounts ps).set i (if p.isActive then some p.sessionKey.playerId else none) := by
  rw [accounts, List.map_set]
  rfl

theorem roomOk_refused {r : TetrisRoom} {i : Nat} {p : Player} (h : RoomOk r)
    (hp : r.roomPlayers[i]? = some p) (hfree : p.hasSession = false) (now : Int) :
    RoomOk (r.modifyPlayer i (·.clearPlayer now)) := by
  have hmem := List.mem_of_getElem? hp
  have hidle : p.isActive = false := (h.slots p hmem).hasSession.symm.trans hfree
  refine roomOk_of_occupied ((List.length_modify _ _ _).trans h.length) ?_ ?_
  · intro q hq
    rw [modifyPlayer, modify_eq_set hp] at hq
    rcases List.mem_or_eq_of_mem_set hq with hq | rfl
    · exact h.slots q hq
    · exact slotOk_clearPlayer (h.slots p hmem).fresh now
  · have hsame : accounts (r.modifyPlayer i (·.clearPlayer now)).roomPlayers =
        accounts r.roomPlayers := by
      rw [modifyPlayer, modify_eq_set hp, accounts_set]
      refine List.ext_getElem? fun j => ?_
      rw [List.getElem?_set]
      split
      · rename_i hij
        subst hij
        have hlt : i < (accounts r.roomPlayers).length := by
          rw [accounts, List.length_map]
          exact (List.getElem?_eq_some_iff.mp hp).1
        rw [if_pos hlt, accounts_slot hp, hidle]
        rfl
      · rfl
    rw [hsame]
    exact h.occupied

theorem roomOk_joined {r : TetrisRoom} {i : Nat} {p : Player} {key : SessionKey} (h : RoomOk r)
    (hwait : r.roomState = .wait) (hp : r.roomPlayers[i]? = some p) (hfree : p.hasSession = false)
    (hnew : ∀ q ∈ r.roomPlayers, q.hasSession = true → q.sessionKey.playerId ≠ key.playerId)
    (now : Int) :
    RoomOk ({ r with currentPlayerCount := r.currentPlayerCount + 1 }.modifyPlayer i
      (joinedSlot · key now)) := by
  have hmem := List.mem_of_getElem? hp
  have hidle : p.isActive = false := (h.slots p hmem).hasSession.symm.trans hfree
  have hstate : r.roomState ≠ .play := by rw [hwait]; decide
  refine roomOk_of_occupied ((List.length_modify _ _ _).trans h.length) ?_ ?_
  · intro q hq
    rw [modifyPlayer, modify_eq_set hp] at hq
    rcases List.mem_or_eq_of_mem_set hq with hq | rfl
    · exact h.slots q hq
    · exact slotOk_joinedSlot (h.slots p hmem).fresh key now hstate
  · rw [modifyPlayer, modify_eq_set hp, accounts_set]
    refine h.occupied.add ?_ fun j hj => ?_
    · rw [accounts_slot hp, hidle]
      rfl
    · -- nobody sits there under this account
      rw [accounts, List.getElem?_map, Option.map_eq_some_iff] at hj
      obtain ⟨q, hq, hid⟩ := hj
      have hqmem := List.mem_of_getElem? hq
      split at hid
      · rename_i ha
        exact hnew q hqmem ((h.slots q hqmem).hasSession.trans ha) (Option.some.inj hid)
      · exact absurd hid (by simp)

theorem roomOk_removed {r r' : TetrisRoom} {i : Nat} {p : Player} (h : RoomOk r)
    (hp : r.roomPlayers[i]? = some p) (hsession : p.hasSession = true) (hr : Removed r i r') :
    RoomOk r' := by
  have hactive : p.isActive = true :=
    (h.slots p (List.mem_of_getElem? hp)).hasSession.symm.trans hsession
  have hslot : (accounts r.roomPlayers)[i]? = some (some p.sessionKey.playerId) := by
    rw [accounts_slot hp, if_pos hactive]
  have hback : ∀ (j : Nat) (q : Player), r'.roomPlayers[j]? = some q →
      ∃ p, r.roomPlayers[j]? = some p := by
    intro j q hq
    have hlt := (List.getElem?_eq_some_iff.mp hq).1
    rw [hr.length] at hlt
    exact ⟨_, List.getElem?_eq_getElem hlt⟩
  -- of the accounts only that of the freed slot is gone
  have haccounts : accounts r'.roomPlayers = (accounts r.roomPlayers).set i none := by
    refine List.ext_getElem? fun j => ?_
    rw [List.getElem?_set]
    by_cases hij : i = j
    · subst hij
      obtain ⟨now, hq⟩ := hr.slot p hp
      have hlt := (List.getElem?_eq_some_iff.mp hslot).1
      rw [accounts_slot hq, if_pos rfl, if_pos hlt]
      rfl
    · rw [if_neg hij]
      cases hj : r.roomPlayers[j]? with
      | none =>
          have hnone : r'.roomPlayers[j]? = none := by
            rw [List.getElem?_eq_none_iff, hr.length]
            exact List.getElem?_eq_none_iff.mp hj
          rw [accounts, accounts, List.getElem?_map, List.getElem?_map, hj, hnone]
      | some q =>
          obtain ⟨q', hq', hrel⟩ := hr.others j q (Ne.symm hij) hj
          rw [accounts_slot hj, accounts_slot hq']
          rcases hrel with rfl | ⟨_, rfl⟩ <;> rfl
  refine roomOk_of_occupied (hr.length.trans (h.length.trans (by rw [hr.kind]))) ?_ ?_
  · intro q' hq'
    obtain ⟨j, hj⟩ := List.mem_iff_getElem?.mp hq'
    obtain ⟨q, hq⟩ := hback j q' hj
    have hok := h.slots q (List.mem_of_getElem? hq)
    by_cases hij : j = i
    · subst hij
      obtain ⟨now, hcleared⟩ := hr.slot q hq
      rw [hcleared] at hj
      injection hj with hj
      subst hj
      exact slotOk_clearPlayer hok.fresh now
    · obtain ⟨q₁, hq₁, hrel⟩ := hr.others j q hij hq
      rw [hq₁] at hj
      injection hj with hj
      subst hj
      rcases hr.state with ⟨_, hstate⟩ | ⟨hone, hstate⟩
      · -- somebody stays: the others keep what they had, or lose their readiness
        rcases hrel with rfl | ⟨hwait, rfl⟩
        · rw [hstate]
          by_cases hplay : r.roomState = .play
          · rw [hr.spawnList (hstate.trans hplay)]
            exact hok
          · exact slotOk_idle hok (fun hc => hplay hc.1) fun hc => hplay hc.1
        · have hnot : r'.roomState ≠ .play := by rw [hwait]; decide
          have hnot' : r.roomState ≠ .play := by rw [← hstate]; exact hnot
          exact ⟨hok.settled, hok.fresh, hok.buffer,
            fun _ => ⟨.inl rfl, (hok.idle fun hc => hnot' hc.1).2⟩, fun hc => absurd hc hnot⟩
      · -- he was the last one, so the other slots are free
        have hnot : r'.roomState ≠ .play := by rw [hstate]; decide
        have hidle : q.isActive = false := by
          refine Bool.eq_false_iff.mpr fun ha => ?_
          have hcount := (h.occupied.remove hslot).count
          rw [hone] at hcount
          have hpos : 0 < ((accounts r.roomPlayers).set i none).countP Option.isSome := by
            refine List.countP_pos_iff.mpr ⟨some q.sessionKey.playerId, ?_, rfl⟩
            refine List.mem_of_getElem? (i := j) ?_
            rw [List.getElem?_set_ne (Ne.symm hij), accounts_slot hq, if_pos ha]
          omega
        rcases hrel with rfl | ⟨hwait, _⟩
        · exact slotOk_idle hok (fun hc => absurd (hidle.symm.trans hc.2) (by decide))
            fun hc => hnot hc.1
        · rw [hstate] at hwait
          exact absurd hwait (by decide)
  · rw [haccounts, hr.count]
    exact h.occupied.remove hslot

theorem Started.seats {r r' : TetrisRoom} {env : RoomEnv} {type : TetrominoType}
    (h : Started env r r' type) :
    r'.roomPlayers.map Player.seat = r.roomPlayers.map Player.seat := by
  rw [h.players, List.map_map]
  refine List.map_congr_left fun p _ => ?_
  rw [Function.comp_apply]
  split <;> rfl

theorem roomOk_started {r r' : TetrisRoom} {env : RoomEnv} {type : TetrominoType} (h : RoomOk r)
    (hr : Started env r r' type) : RoomOk r' := by
  have hnot : r.roomState ≠ .play := by rw [hr.wait]; decide
  refine roomOk_of_seats h hr.kind hr.seats hr.count ?_
  rw [hr.players]
  intro q hq
  obtain ⟨p, hp, rfl⟩ := List.mem_map.mp hq
  have hok := h.slots p hp
  split
  · rename_i ha
    exact slotOk_startedSlot hok hnot hr.spawnList type _ hr.play ha
  · rename_i ha
    exact slotOk_idle hok (fun hc => hnot hc.1) fun hc => ha hc.2

/-- What a slot must bring along for the game to be cleared away. -/
structure Clearable (p : Player) : Prop where
  settled : p.activeState ≠ .pending
  fresh : p.tetris.Fresh
  idle : p.isActive = false → SlotOk False 0 p

theorem clearable_of_slotOk {gameOn : Prop} {n : Nat} {p : Player} (h : SlotOk gameOn n p) :
    Clearable p :=
  ⟨h.settled, h.fresh, fun ha => slotOk_idle h (fun hc => absurd (ha.symm.trans hc.2) (by decide))
    fun hc => hc.1⟩

/-- **After `ClearGame` the room is waiting**, everybody still in it. -/
theorem roomOk_clearGame {r r₁ : TetrisRoom} {env : RoomEnv} (h : RoomOk r)
    (hs : Seated env r₁.roomPlayers) (hkind : r₁.kind = r.kind)
    (hseats : r₁.roomPlayers.map Player.seat = r.roomPlayers.map Player.seat)
    (hcount : r₁.currentPlayerCount = r.currentPlayerCount)
    (hslots : ∀ p ∈ r₁.roomPlayers, Clearable p) (out : List RoomEffect) :
    RoomOk { r₁.clearGame env with out := out } := by
  have hplayers : (r₁.clearGame env).roomPlayers = r₁.roomPlayers.map fun p =>
      if (findSession env p).isSome then p.resetGameData (env.now p.sessionKey) else p := rfl
  refine roomOk_of_seats h hkind ?_ hcount ?_
  · rw [← hseats]
    dsimp only
    rw [hplayers, List.map_map]
    refine List.map_congr_left fun p _ => ?_
    rw [Function.comp_apply]
    split <;> rfl
  · dsimp only
    rw [hplayers]
    intro q hq
    obtain ⟨p, hp, rfl⟩ := List.mem_map.mp hq
    have hok := hslots p hp
    have hnot : (r₁.clearGame env).roomState ≠ .play := by
      rw [show (r₁.clearGame env).roomState = .wait from rfl]
      decide
    rw [hs.isSome hp]
    split
    · exact slotOk_resetGameData hok.settled hok.fresh (fun hc => hnot hc.1) _
    · rename_i ha
      exact slotOk_idle (hok.idle (Bool.eq_false_iff.mpr ha)) (fun hc => hc.1) fun hc => hnot hc.1

/-- **Every event outside ticks keeps the invariant.** -/
theorem roomOk_handled {r r' : TetrisRoom} {env : RoomEnv} (h : RoomOk r)
    (hs : Seated env r.roomPlayers) (hr : Handled env r r') : RoomOk r' := by
  cases hr with
  | aside ha => exact roomOk_aside h ha
  | refused i now hp hfree ha => exact roomOk_aside (roomOk_refused h hp hfree now) ha
  | joined i now hwait hp hfree hnew ha =>
      exact roomOk_aside (roomOk_joined h hwait hp hfree hnew now) ha
  | removed i hp hsession hr => exact roomOk_removed h hp hsession hr
  | toggled i ha =>
      refine roomOk_aside ?_ ha
      refine roomOk_of_seats h rfl ?_ rfl ?_
      · refine List.ext_getElem? fun j => ?_
        rw [List.getElem?_map, List.getElem?_map, modifyPlayer_getElem?, Option.map_map]
        cases r.roomPlayers[j]? with
        | none => rfl
        | some p =>
            simp only [Option.map_some, Function.comp_apply]
            split <;> rfl
      · intro q hq
        obtain ⟨j, hj⟩ := List.mem_iff_getElem?.mp hq
        rw [modifyPlayer_getElem?, Option.map_eq_some_iff] at hj
        obtain ⟨p, hp, rfl⟩ := hj
        have hok := h.slots p (List.mem_of_getElem? hp)
        split
        · exact slotOk_toggled hok
        · exact hok
  | started type hr => exact roomOk_started h hr
  | gaveUp hkind hplay hrest =>
      rw [hrest]
      exact roomOk_clearGame h hs rfl rfl rfl (fun p hp => clearable_of_slotOk (h.slots p hp)) _

/-! ## Ticks -/

/-- A slot followed through a whole tick. -/
theorem TickRun.slot {env : RoomEnv} {t : Int} {r r' : TetrisRoom} {extra : Player → List TaskType}
    {qs ss : List Player} (h : TickRun env t r extra qs ss r') {x : Player}
    (hx : x ∈ r'.roomPlayers) : ∃ p q s, p ∈ r.roomPlayers ∧ Ticked t tickBudget p q ∧
      Delivered r'.tetrominoSpawnList (addTasks q (extra q)) s ∧
      x = if s.isActive then tidy env s else s := by
  rw [h.players] at hx
  obtain ⟨s, hs, rfl⟩ := List.mem_map.mp hx
  obtain ⟨q, hq, hqs⟩ := h.delivered.mem hs
  obtain ⟨p, hp, hpq⟩ := h.ticked.mem hq
  exact ⟨p, q, s, hp, hpq, hqs, rfl⟩

theorem TickRun.seats {env : RoomEnv} {t : Int} {r r' : TetrisRoom}
    {extra : Player → List TaskType} {qs ss : List Player} (h : TickRun env t r extra qs ss r') :
    r'.roomPlayers.map Player.seat = r.roomPlayers.map Player.seat := by
  rw [← map_seat_of_sameSeats h.sameSeats, h.players, List.map_map]
  refine List.map_congr_left fun s _ => ?_
  rw [Function.comp_apply]
  split <;> rfl

/-- **A tick the game goes on after keeps the invariant.** -/
theorem roomOk_goesOn {env : RoomEnv} {t : Int} {r r' : TetrisRoom} {qs ss : List Player}
    (h : RoomOk r) (hplay : r.roomState = .play) (hr : TickRun env t r spawnTasks qs ss r') :
    RoomOk r' := by
  refine roomOk_of_seats h hr.kind hr.seats hr.count fun x hx => ?_
  obtain ⟨p, q, s, hp, hpq, hqs, rfl⟩ := hr.slot hx
  have hspawn : addTasks q (spawnTasks q) = addSpawnTask q := (addSpawnTask_eq q).symm
  rw [hspawn] at hqs
  have hnext := @slotOk_next env _ _ _ _ _ _ (h.playing hplay p hp) hr.grown.length_le hpq hqs
  exact ⟨hnext.settled, hnext.fresh, hnext.buffer, fun hc => hnext.idle fun ha =>
    hc ⟨hr.state.trans hplay, ha.2⟩, fun _ => hnext.inGame trivial⟩

/-- **A tick that ends the game keeps the invariant.** -/
theorem roomOk_ends {env : RoomEnv} {t : Int} {r r₁ r' : TetrisRoom}
    {extra : Player → List TaskType} {qs ss : List Player} (h : RoomOk r)
    (hs : Seated env r.roomPlayers) (hplay : r.roomState = .play) (hextra : RoomAdds extra)
    (hr : TickRun env t r extra qs ss r₁) (hend : Ended env r₁ r') : RoomOk r' := by
  obtain ⟨out, _, rfl⟩ := hend
  refine roomOk_clearGame h (hs.of_sameSeats (sameSeats_of_seats hr.seats)) hr.kind hr.seats
    hr.count (fun x hx => ?_) _
  obtain ⟨p, q, s, hp, hpq, hqs, rfl⟩ := hr.slot hx
  have hok := h.playing hplay p hp
  have hseat : s.seat = p.seat := hqs.seat.trans hpq.seat
  have hsettled : s.activeState ≠ .pending := by
    rw [show s.activeState = p.activeState from congrArg Prod.snd hseat]
    exact hok.settled
  cases ha : s.isActive with
  | true =>
      rw [if_pos rfl]
      exact ⟨hsettled, Tetris.resetTickData_fresh _,
        fun hc => absurd (hc.symm.trans ha) (by decide)⟩
  | false =>
      rw [if_neg (by decide)]
      have hpa : p.isActive = false := (isActive_of_seat hseat).symm.trans ha
      rw [hextra.idle q (hpq.isActive.trans hpa), show addTasks q [] = q by
        simp [addTasks]] at hqs
      have hvacant : SlotOk False 0 s := slotOk_vacant hok hpq hqs hpa
      exact clearable_of_slotOk hvacant

/-! ## Steps and runs -/

/-- What one event does to a room, its log emptied first. -/
inductive Stepped (env : RoomEnv) (r : TetrisRoom) : RoomEvent → TetrisRoom → Prop
  | handled {e : RoomEvent} {r' : TetrisRoom} (hidle : ∀ t, e = .tick t → r.roomState ≠ .play)
      (h : Handled env { r with out := [] } r') : Stepped env r e r'
  | multi {t : Int} {r' : TetrisRoom} (qs ss : List Player) (hkind : r.kind ≠ .single)
      (hplay : r.roomState = .play)
      (hbefore : MultiRoom.beforeVerdict ({ r with out := [] }.distributeInputs env) env t =
        some { r with out := [], playTasks := [], roomPlayers := qs })
      (hjudged : SlotWise (MultiRoom.Judged t) r.roomPlayers qs)
      (h : MultiTick env t { r with out := [] } qs ss r') : Stepped env r (.tick t) r'
  | single {t : Int} {r' : TetrisRoom} (hkind : r.kind = .single) (hplay : r.roomState = .play)
      (h : SingleTick env t { r with out := [] } r') : Stepped env r (.tick t) r'

theorem roomOk_silent {r : TetrisRoom} (h : RoomOk r) : RoomOk { r with out := [] } :=
  ⟨h.length, h.slots, h.distinct, h.count⟩

theorem processGameTick_single {r : TetrisRoom} {env : RoomEnv} {t : Int} (h : r.kind = .single) :
    r.processGameTick env t = SingleRoom.processGameTick r env t := by
  rw [processGameTick, h]

theorem processGameTick_multi {r : TetrisRoom} {env : RoomEnv} {t : Int} (h : r.kind ≠ .single) :
    r.processGameTick env t = MultiRoom.processGameTick r env t := by
  unfold processGameTick
  split
  · rename_i hkind
    exact absurd hkind h
  · rfl

/-- **No event fails**: neither a board nor the list of pieces is read outside its range. -/
theorem step_ok {r : TetrisRoom} {env : RoomEnv} (h : RoomOk r) {e : RoomEvent}
    (hserves : env.Serves r e) : Ok (r.step env e) (Stepped env r e) := by
  have h₀ := roomOk_silent h
  have hserves₀ : env.Serves { r with out := [] } e := hserves.of_players rfl
  have hs : Seated env ({ r with out := [] } : TetrisRoom).roomPlayers := h₀.seated hserves₀
  unfold step handle
  cases e with
  | task task =>
      obtain ⟨res, hres, hhandled⟩ := tryProcessRoomTask_ok h₀ task hserves₀
      dsimp only
      rw [hres]
      exact .pure (.handled (fun _ hc => RoomEvent.noConfusion hc) hhandled)
  | leavePacket key =>
      exact .pure (.handled (fun _ hc => RoomEvent.noConfusion hc) (h₀.requestLobbyTransition key))
  | input task =>
      exact .pure (.handled (fun _ hc => RoomEvent.noConfusion hc)
        (.aside ⟨rfl, rfl, rfl, rfl, rfl, rfl, id⟩))
  | tick t =>
      dsimp only
      unfold processRoomTick
      by_cases hplay : r.roomState = .play
      · rw [if_neg (fun hc => hc hplay)]
        have hkind₁ := distributeInputs_kind { r with out := [] } env
        by_cases hkind : r.kind = .single
        · rw [processGameTick_single (hkind₁.trans hkind)]
          exact Ok.mono (SingleRoom.processGameTick_ok t h₀ hs hkind hplay rfl) fun r' hr' =>
            .single hkind hplay hr'
        · rw [processGameTick_multi (by rw [hkind₁]; exact hkind)]
          refine Ok.mono (MultiRoom.processGameTick_ok t h₀ hs hplay rfl) ?_
          rintro r' ⟨qs, ss, hbefore, hjudged, hr'⟩
          exact .multi qs ss hkind hplay hbefore hjudged hr'
      · rw [if_pos hplay]
        exact .pure (.handled (fun _ _ => hplay) (.aside ⟨rfl, rfl, rfl, rfl, rfl, rfl, id⟩))

theorem roomOk_stepped {r r' : TetrisRoom} {env : RoomEnv} {e : RoomEvent} (h : RoomOk r)
    (hserves : env.Serves r e) (hr : Stepped env r e r') : RoomOk r' := by
  have h₀ := roomOk_silent h
  have hs : Seated env ({ r with out := [] } : TetrisRoom).roomPlayers := h.seated hserves
  cases hr with
  | handled _ hr => exact roomOk_handled h₀ hs hr
  | multi qs ss hkind hplay _ _ hr =>
      cases hr with
      | goesOn _ hr => exact roomOk_goesOn h₀ hplay hr
      | ends id _ _ hr _ hend => exact roomOk_ends h₀ hs hplay (roomAdds_endTasks id) hr hend
  | single hkind hplay hr =>
      cases hr with
      | idle ha => exact roomOk_aside h₀ ha
      | goesOn qs ss hr => exact roomOk_goesOn h₀ hplay hr
      | ends qs ss hr hend => exact roomOk_ends h₀ hs hplay roomAdds_none hr hend

/-! ### A new room -/

theorem initPlayer_taken {p p' : Player} {v : SessionView} {key : SessionKey} {roomIndex now : Int}
    (h : p.initPlayer v key roomIndex now = (p', true)) :
    p' = { p.resetGameData now with activeState := .pending, sessionKey := key } := by
  unfold Player.initPlayer at h
  split at h
  · exact absurd (congrArg Prod.snd h) (by simp)
  split at h
  · exact absurd (congrArg Prod.snd h) (by simp)
  dsimp only at h
  split at h
  · split at h
    · exact (congrArg Prod.fst h).symm
    · exact absurd (congrArg Prod.snd h) (by simp)
  · split at h
    · exact absurd (congrArg Prod.snd h) (by simp)
    · exact (congrArg Prod.fst h).symm

theorem initHostSession_taken {r r' : TetrisRoom} {env : RoomEnv} {v : SessionView}
    {key : SessionKey} (h : r.initHostSession env v key = (r', true)) :
    ∃ p, r.roomPlayers[0]? = some p ∧ r' = { r.modifyPlayer 0 fun _ =>
      { p.resetGameData (env.now key) with activeState := .pending, sessionKey := key } with
        currentPlayerCount := 1 } := by
  unfold initHostSession at h
  split at h
  · exact absurd (congrArg Prod.snd h) (by simp)
  · rename_i p hp
    split at h
    · exact absurd (congrArg Prod.snd h) (by simp)
    · cases hinit : p.initPlayer v key r.roomIndex (env.now key) with
      | mk p' ok =>
          rw [hinit] at h
          dsimp only at h
          split at h
          · rename_i hok
            subst hok
            refine ⟨p, hp, ?_⟩
            rw [← initPlayer_taken hinit]
            exact (congrArg Prod.fst h).symm
          · exact absurd (congrArg Prod.snd h) (by simp)

/-- A room without anybody in it, about to wait for players. -/
theorem roomOk_new (kind : RoomKind) (roomIndex : Int) (roomKey : Nat)
    (roomName roomPassword : String) (now : Int) :
    RoomOk
      { TetrisRoom.new kind roomIndex roomKey roomName roomPassword now with
        roomState := .wait } := by
  refine roomOk_of_occupied List.length_replicate ?_ ⟨fun i j id hi _ => ?_, ?_⟩
  · intro p hp
    rw [List.eq_of_mem_replicate hp]
    exact ⟨fun hc => ActiveEntryState.noConfusion hc, Tetris.init_fresh now, rfl,
      fun _ => ⟨.inl rfl, rfl⟩, fun hc => RoomState.noConfusion hc⟩
  · rw [accounts, List.getElem?_map, Option.map_eq_some_iff] at hi
    obtain ⟨p, hp, hid⟩ := hi
    rw [List.eq_of_mem_replicate (List.mem_of_getElem? hp)] at hid
    exact absurd hid (by simp [Player.init, Player.isActive])
  · cases kind <;> rfl

/-- A room without anybody in it, with the state its creation gives it. -/
def waitingRoom (kind : RoomKind) (roomIndex : Int) (roomKey : Nat)
    (roomName roomPassword : String) (now : Int) : TetrisRoom :=
  { TetrisRoom.new kind roomIndex roomKey roomName roomPassword now with roomState := .wait }

/-- **A room begins with its host in slot 0**, told which room it is, and nobody else. -/
theorem created_joined {r : TetrisRoom} (h : Created r) :
    ∃ (kind : RoomKind) (roomIndex : Int) (roomKey : Nat) (roomName roomPassword : String)
      (now now' : Int) (key : SessionKey),
      Aside ({ waitingRoom kind roomIndex roomKey roomName roomPassword now with
        currentPlayerCount := 1 }.modifyPlayer 0 (joinedSlot · key now')) r ∧
      (kind ≠ .single → r.hostId = key.playerId) ∧ r.out = [.send key [r.createRoomPacket]] := by
  cases h with
  | intro kind roomIndex roomKey roomName roomPassword now env v key hv hid hadd =>
      rename_i r₁
      let new := TetrisRoom.new kind roomIndex roomKey roomName roomPassword now
      -- both kinds of rooms take slot 0, and those for several players name the host
      have htaken : ∃ p hostId, new.roomPlayers[0]? = some p ∧ r₁ = { new.modifyPlayer 0 fun _ =>
          { p.resetGameData (env.now key) with activeState := .pending, sessionKey := key } with
            currentPlayerCount := 1, hostId := hostId } ∧
          (kind ≠ .single → hostId = key.playerId) := by
        unfold addHostSession at hadd
        split at hadd
        · rename_i hkind
          obtain ⟨p, hp, hr₁⟩ := initHostSession_taken hadd
          exact ⟨p, _, hp, hr₁, fun hne => absurd hkind hne⟩
        · unfold MultiRoom.addHostSession at hadd
          cases hinit : new.initHostSession env v key with
          | mk r₂ ok =>
              rw [show TetrisRoom.new kind roomIndex roomKey roomName roomPassword now = new
                from rfl, hinit] at hadd
              dsimp only at hadd
              split at hadd
              · rename_i hok
                subst hok
                obtain ⟨p, hp, hr₂⟩ := initHostSession_taken hinit
                rw [hr₂] at hadd
                exact ⟨p, v.playerId, hp, (congrArg Prod.fst hadd).symm, fun _ => hid⟩
              · exact absurd (congrArg Prod.snd hadd) (by simp)
      obtain ⟨p, hostId, hp, rfl, hhost⟩ := htaken
      refine ⟨kind, roomIndex, roomKey, roomName, roomPassword, now, env.now key, key, ?_⟩
      let taken : Player :=
        { p.resetGameData (env.now key) with activeState := .pending, sessionKey := key }
      generalize hr₁ : ({ new.modifyPlayer 0 fun _ => taken with
        currentPlayerCount := 1, hostId := hostId } : TetrisRoom) = r₁
      have hslot : (r₁.sendCreateRoom key).roomPlayers[0]? = some taken := by
        rw [← hr₁]
        exact (modifyPlayer_getElem? new 0 0 fun _ => taken).trans (by
          rw [hp]
          rfl)
      -- the pending entry becomes an active one
      have hactive : (taken.activate taken.sessionKey).1 = joinedSlot p key (env.now key) := by
        rw [Player.activate,
          if_pos ⟨by simp [taken, Player.matchesSessionKey, Player.hasSession], rfl⟩]
        rfl
      have hplayers : ((r₁.sendCreateRoom key).modifyPlayer 0 fun p =>
          (p.activate p.sessionKey).1).roomPlayers =
          new.roomPlayers.modify 0 (joinedSlot · key (env.now key)) := by
        rw [modifyPlayer, modify_eq_set hslot, hactive, modify_eq_set hp]
        show r₁.roomPlayers.set 0 _ = _
        rw [← hr₁]
        show (new.roomPlayers.modify 0 fun _ => taken).set 0 _ = _
        rw [@modify_eq_set _ new.roomPlayers _ _ hp, List.set_set]
      unfold completeRoomInitialization
      rw [hslot]
      dsimp only
      rw [if_pos (by rfl)]
      refine ⟨⟨?_, ?_, rfl, hplayers, ?_, ?_, fun _ => ?_⟩, ?_, ?_⟩
      · rw [← hr₁]; rfl
      · rw [← hr₁]; rfl
      · rw [← hr₁]; rfl
      · rw [← hr₁]; rfl
      · show (r₁.sendCreateRoom key).Quiet
        refine Quiet.emit ?_ (quiet_send (createRoomPacket_showsGame r₁))
        rw [← hr₁]
        exact fun e he => absurd he List.not_mem_nil
      · rw [← hr₁]; exact hhost
      · rw [← hr₁]; rfl

theorem roomOk_created {r : TetrisRoom} (h : Created r) : RoomOk r := by
  obtain ⟨kind, roomIndex, roomKey, roomName, roomPassword, now, now', key, haside, _⟩ :=
    created_joined h
  have hwaiting : RoomOk (waitingRoom kind roomIndex roomKey roomName roomPassword now) :=
    roomOk_new ..
  have hnew : ∀ q ∈ (waitingRoom kind roomIndex roomKey roomName roomPassword now).roomPlayers,
      q = Player.init now := fun q hq => List.eq_of_mem_replicate hq
  obtain ⟨p, hp⟩ : ∃ p,
      (waitingRoom kind roomIndex roomKey roomName roomPassword now).roomPlayers[0]? =
      some p := by cases kind <;> exact ⟨_, rfl⟩
  refine roomOk_aside (@roomOk_joined _ 0 p key hwaiting rfl hp ?_ ?_ now') haside
  · rw [hnew p (List.mem_of_getElem? hp)]
    rfl
  · intro q hq hsession
    rw [hnew q hq] at hsession
    exact absurd hsession (by simp [Player.init, Player.hasSession])

/-- **The invariant holds in every state a room can reach.** -/
theorem roomOk_reachable {r : TetrisRoom} (h : Reachable r) : RoomOk r := by
  induction h with
  | created h => exact roomOk_created h
  | step _ env e hserves hstep ih =>
      exact roomOk_stepped ih hserves ((step_ok ih hserves).of_eq_some hstep)

end TetrisRoom

end ProjectTetris

import ProjectTetris.Rooms.EngineSafe
import ProjectTetris.Rooms.GameSteps

/-!
# Is the end of a game announced?

`ResolveWinner` gives a `GAME_END` task to every slot, but `AppendTickPackets` has
packets for players in the game only. So the announcement is in the buffers once for
each player who was still in the game, and as a game ends when one or none is left,
that is once or not at all.
-/

namespace ProjectTetris

namespace S2CPacket

/-- An `S2C_GAME_END`. -/
def isGameEnd : S2CPacket → Bool
  | gameEnd _ => true
  | _ => false

end S2CPacket

namespace TetrisRoom

/-! ## Counting announcements -/

/-- What two lists of slots have in common, slot by slot, they have in common as lists. -/
theorem SlotWise.map_eq {R : Player → Player → Prop} {α : Type} {f g : Player → α}
    {ps qs : List Player} (h : SlotWise R ps qs) (hfg : ∀ p q, R p q → f q = g p) :
    qs.map f = ps.map g := by
  refine List.ext_getElem? fun i => ?_
  rw [List.getElem?_map, List.getElem?_map]
  cases hp : ps[i]? with
  | none =>
      have hq : qs[i]? = none := by
        rw [List.getElem?_eq_none_iff, h.1]
        exact List.getElem?_eq_none_iff.mp hp
      rw [hq]
      rfl
  | some p =>
      obtain ⟨q, hq, hR⟩ := h.2 i p hp
      rw [hq, Option.map_some, Option.map_some, hfg p q hR]

/-- The engine never announces the end of a game. -/
theorem filter_enginePackets (p : Player) (id : Int) {tasks : List TaskType}
    (h : ∀ task ∈ tasks, task.isEngine = true) :
    (enginePackets p id tasks).filter S2CPacket.isGameEnd = [] := by
  rw [List.filter_eq_nil_iff]
  intro packet hpacket
  obtain ⟨task, htask, heq⟩ := List.mem_filterMap.mp hpacket
  have hengine := h task htask
  cases task with
  | spawn => exact absurd hengine (by decide)
  | gameEnd id => exact absurd hengine Bool.false_ne_true
  | move => injection heq with heq; subst heq; exact Bool.false_ne_true
  | clearLine => injection heq with heq; subst heq; exact Bool.false_ne_true
  | addLine => injection heq with heq; subst heq; exact Bool.false_ne_true
  | fix => injection heq with heq; subst heq; exact Bool.false_ne_true
  | gameOver => injection heq with heq; subst heq; exact Bool.false_ne_true

instance (p : Player) : Decidable (playing p) := by unfold playing; infer_instance

/-- **The announcement is in the buffer of a slot exactly if its player is still in the game.** -/
theorem announced_slot {t : Int} {n : Nat} {p q s : Player} {l : List TetrominoType} {id : Int}
    (hp : SlotOk True n p) (h : Ticked t tickBudget p q)
    (hs : Delivered l (addTasks q (endTasks id q)) s) :
    (if s.isActive then s.sendBuffer.filter S2CPacket.isGameEnd else []) =
      if playing q then [.gameEnd id] else [] := by
  have hactive : s.isActive = q.isActive := isActive_of_seat hs.seat
  have hbuffer : q.sendBuffer = [] := by rw [h.rest]; exact hp.buffer
  rw [hactive]
  by_cases hplaying : playing q
  · rw [if_pos hplaying, if_pos hplaying.2]
    have htasks : (addTasks q (endTasks id q)).tetris.sendTasks =
        q.tetris.sendTasks ++ [.gameEnd id] := by
      rw [endTasks, if_pos hplaying.2]
      rfl
    rcases hs with ⟨_, happ⟩ | ⟨hno, _⟩
    · cases happ with
      | plain _ =>
          have hengine := (h.log (h.isActive.symm.trans hplaying.2)).engine
          show (q.sendBuffer ++
            enginePackets _ _ (addTasks q (endTasks id q)).tetris.sendTasks).filter _ = _
          rw [hbuffer, List.nil_append, htasks, enginePackets_append, List.filter_append,
            filter_enginePackets _ _ hengine]
          rfl
      | respawned engine hlast =>
          -- the last task is the announcement, not a spawn
          rw [htasks] at hlast
          have hlast := congrArg List.getLast? hlast
          rw [List.getLast?_concat, List.getLast?_concat] at hlast
          exact absurd hlast (by simp)
    · exact absurd hplaying hno
  · rw [if_neg hplaying]
    have hsame : s = addTasks q (endTasks id q) := by
      rcases hs with ⟨hc, _⟩ | ⟨_, heq⟩
      · exact absurd hc hplaying
      · exact heq
    rw [hsame, show (addTasks q (endTasks id q)).sendBuffer = [] from hbuffer]
    split <;> rfl

theorem filter_buffers (ps : List Player) (P : S2CPacket → Bool) :
    (buffers ps).filter P =
      (ps.map fun p => if p.isActive then p.sendBuffer.filter P else []).flatten := by
  induction ps with
  | nil => rfl
  | cons p rest ih =>
      rw [List.map_cons, List.flatten_cons, ← ih, buffers, buffers]
      cases ha : p.isActive with
      | true => rw [List.filter_cons_of_pos ha, List.flatMap_cons, List.filter_append, if_pos rfl]
      | false =>
          rw [List.filter_cons_of_neg (by rw [ha]; decide), if_neg (by decide), List.nil_append]

/-- One announcement for each player still in the game. -/
theorem flatten_announced (id : Int) (qs : List Player) :
    (qs.map fun q => if playing q then [S2CPacket.gameEnd id] else []).flatten =
      List.replicate (qs.filter fun q => decide (playing q)).length (.gameEnd id) := by
  induction qs with
  | nil => rfl
  | cons q rest ih =>
      rw [List.map_cons, List.flatten_cons, ih]
      by_cases hq : playing q
      · rw [if_pos hq, List.filter_cons_of_pos (by simpa using hq), List.length_cons,
          List.replicate_succ]
        rfl
      · rw [if_neg hq, List.filter_cons_of_neg (by simpa using hq), List.nil_append]

/-! ## The tick that ends a game -/

/-- The players `ResolveWinner` counts are those still in the game. -/
theorem survivors_eq {env : RoomEnv} {r : TetrisRoom} (hs : Seated env r.roomPlayers) :
    MultiRoom.survivors r env = r.roomPlayers.filter fun q => decide (playing q) := by
  refine List.filter_congr fun q hq => ?_
  rw [hs.isSome hq]
  rfl

/-- A tick with a verdict, from the beginning: at most one player was left to look at. -/
theorem received_gameEnd {env : RoomEnv} {t : Int} {r r' : TetrisRoom} {qs ss : List Player}
    {id : Int} (h : RoomOk r) (hs : Seated env r.roomPlayers) (hplay : r.roomState = .play)
    (hr : TickRun env t r (endTasks id) qs ss r') {key : SessionKey} (hkey : key ∈ r.targets env) :
    (received key r'.out).filter S2CPacket.isGameEnd =
      List.replicate (MultiRoom.survivors { r with roomPlayers := qs } env).length
      (.gameEnd id) := by
  have hsq : Seated env qs := hs.of_sameSeats (hr.ticked.sameSeats fun _ _ hpq => hpq.seat)
  rw [hr.packets, if_pos hkey, filter_buffers,
    survivors_eq (r := { r with roomPlayers := qs }) hsq, ← flatten_announced]
  congr 1
  have hboth : SlotWise (fun q s => (∃ p, SlotOk True r.tetrominoSpawnList.length p ∧
      Ticked t tickBudget p q) ∧ Delivered r'.tetrominoSpawnList (addTasks q (endTasks id q))
      s) qs ss := by
    refine ⟨hr.delivered.1, fun i q hq => ?_⟩
    obtain ⟨s, hs', hqs⟩ := hr.delivered.2 i q hq
    obtain ⟨p, hp, hpq⟩ := hr.ticked.mem (List.mem_of_getElem? hq)
    exact ⟨s, hs', ⟨p, h.playing hplay p hp, hpq⟩, hqs⟩
  refine hboth.map_eq fun q s hqs => ?_
  obtain ⟨⟨p, hp, hpq⟩, hqs⟩ := hqs
  exact announced_slot hp hpq hqs

/-- A verdict has a winner, so somebody is there, and at most one player was in the game. -/
theorem survivors_of_winner {env : RoomEnv} {r : TetrisRoom}
    (h : MultiRoom.newWinnerId r env ≠ -1) : (MultiRoom.survivors r env).length ≤ 1 ∧
      ∃ p ∈ r.roomPlayers, (findSession env p).isSome = true := by
  unfold MultiRoom.newWinnerId at h
  refine ⟨?_, ?_⟩
  · refine Decidable.byContradiction fun hmany => h ?_
    split
    · omega
    · omega
    · rfl
  · have hfound : ∀ P : Player → Bool, (∀ p, P p = true → (findSession env p).isSome = true) →
        ((r.roomPlayers.find? P).bind (findSession env)).map (·.playerId) ≠ none →
        ∃ p ∈ r.roomPlayers, (findSession env p).isSome = true := by
      intro P hP hne
      cases hfind : r.roomPlayers.find? P with
      | none => rw [hfind] at hne; exact absurd rfl hne
      | some p => exact ⟨p, List.mem_of_find?_eq_some hfind, hP p (List.find?_some hfind)⟩
    split at h
    · refine hfound (MultiRoom.drawnWinner env) (fun p hp => ?_) fun hc =>
        h (by simp only [hc]; rfl)
      simp only [MultiRoom.drawnWinner, decide_eq_true_eq] at hp
      exact hp.2
    · refine hfound
        (fun p => decide (p.roomPlayerState = .play ∧ (findSession env p).isSome = true))
        (fun p hp => ?_) fun hc => h (by simp only [hc]; rfl)
      simp only [decide_eq_true_eq] at hp
      exact hp.2
    · exact absurd rfl h

/-- The winner depends on the slots alone. -/
theorem newWinnerId_congr {r r' : TetrisRoom} (env : RoomEnv)
    (h : r'.roomPlayers = r.roomPlayers) :
    MultiRoom.newWinnerId r' env = MultiRoom.newWinnerId r env := by
  unfold MultiRoom.newWinnerId MultiRoom.survivors
  rw [h]

theorem resolveWinner_snd {r : TetrisRoom} {env : RoomEnv} :
    (MultiRoom.resolveWinner r env).2 = true ↔ MultiRoom.newWinnerId r env ≠ -1 := by
  unfold MultiRoom.resolveWinner
  by_cases hid : MultiRoom.newWinnerId r env = -1
  · rw [if_pos hid]
    exact ⟨fun h => absurd h Bool.false_ne_true, fun h => absurd hid h⟩
  · rw [if_neg hid]
    exact ⟨fun _ => hid, fun _ => rfl⟩

/-- A tick in which `ResolveWinner` has found a winner, taken apart. -/
theorem verdict_tick {r rv r' : TetrisRoom} {env : RoomEnv} {t : Int} (hok : RoomOk r)
    (hserves : env.Serves r (.tick t)) (hkind : r.kind ≠ .single) (hplay : r.roomState = .play)
    (hbefore : MultiRoom.beforeVerdict ({ r with out := [] }.distributeInputs env) env t = some rv)
    (hwin : (MultiRoom.resolveWinner rv env).2 = true) (hstep : r.step env (.tick t) = some r') :
    ∃ qs ss r₁, SlotWise (MultiRoom.Judged t) r.roomPlayers qs ∧
      MultiRoom.newWinnerId { r with roomPlayers := qs } env = r'.winnerId ∧ r'.winnerId ≠ -1 ∧
      TickRun env t { r with out := [] } (endTasks r'.winnerId) qs ss r₁ ∧ Ended env r₁ r' := by
  cases (step_ok hok hserves).of_eq_some hstep with
  | handled hidle _ => exact absurd hplay (hidle t rfl)
  | single hk _ _ => exact absurd hk hkind
  | multi qs ss _ _ hbefore' hjudged hr =>
      have hrv : rv = { r with out := [], playTasks := [], roomPlayers := qs } :=
        Option.some.inj (hbefore.symm.trans hbefore')
      have hne := resolveWinner_snd.mp hwin
      rw [newWinnerId_congr (r := { r with roomPlayers := qs }) env (by rw [hrv])] at hne
      have hsame : MultiRoom.newWinnerId { r with out := [], roomPlayers := qs } env =
          MultiRoom.newWinnerId { r with roomPlayers := qs } env := newWinnerId_congr env rfl
      cases hr with
      | goesOn hc _ => exact absurd (hsame.symm.trans hc) hne
      | @ends id r₁ _ hwinner hid hr hwinnerId hend =>
          have hkept : r'.winnerId = id := by
            obtain ⟨out, _, rfl⟩ := hend
            exact hwinnerId
          subst hkept
          exact ⟨qs, ss, r₁, hjudged, hsame.symm.trans hwinner, hid, hr, hend⟩

/--
**The end of a game reaches everybody exactly if somebody was still in the game.**

In a tick in which `ResolveWinner` finds a winner, every session of the room is sent
exactly one `S2C_GAME_END`, with the winner's id, if and only if some player was in
`PLAY` when the tick began.
-/
theorem gameEnd_received_iff {r rv r' : TetrisRoom} {env : RoomEnv} {t : Int} (h : Reachable r)
    (hserves : env.Serves r (.tick t)) (hkind : r.kind ≠ .single) (hplay : r.roomState = .play)
    (hbefore : MultiRoom.beforeVerdict ({ r with out := [] }.distributeInputs env) env t = some rv)
    (hwin : (MultiRoom.resolveWinner rv env).2 = true) (hstep : r.step env (.tick t) = some r') :
    (∀ p ∈ r.roomPlayers, p.isActive = true →
      (received p.sessionKey r'.out).filter S2CPacket.isGameEnd = [.gameEnd r'.winnerId]) ↔
    ∃ p ∈ r.roomPlayers, p.roomPlayerState = .play ∧ p.isActive = true := by
  have hok := roomOk_reachable h
  have hs : Seated env r.roomPlayers := hok.seated hserves
  obtain ⟨qs, ss, r₁, hjudged, hwinner, hid, hr, out, hout, hend⟩ :=
    verdict_tick hok hserves hkind hplay hbefore hwin hstep
  have hlog : r'.out = r₁.out ++ out := by rw [hend]
  obtain ⟨hle, q₀, hq₀, hsome⟩ := survivors_of_winner (hwinner ▸ hid)
  have hsame : SameSeats r.roomPlayers qs := hjudged.sameSeats fun _ _ hpq => hpq.1.seat
  have hsq : Seated env qs := hs.of_sameSeats hsame
  have hcount := survivors_eq (r := { r with roomPlayers := qs }) hsq
  have hle : (qs.filter fun q => decide (playing q)).length ≤ 1 := hcount ▸ hle
  -- what each session gets
  have hgot : ∀ p ∈ r.roomPlayers, p.isActive = true →
      (received p.sessionKey r'.out).filter S2CPacket.isGameEnd =
        List.replicate (qs.filter fun q => decide (playing q)).length (.gameEnd r'.winnerId) := by
    intro p hp ha
    rw [hlog, received_append, hout, List.append_nil,
      received_gameEnd (roomOk_silent hok) hs hplay hr (mem_targets hs hp ha),
      survivors_eq (r := { r with out := [], roomPlayers := qs }) hsq]
  constructor
  · -- somebody is there to be told, so somebody was counted
    intro hall
    obtain ⟨p, hp, hpq⟩ := hjudged.mem hq₀
    have ha : p.isActive = true := by
      rw [← hpq.1.isActive, ← hsq.isSome hq₀]
      exact hsome
    have hlen := congrArg List.length ((hgot p hp ha).symm.trans (hall p hp ha))
    rw [List.length_replicate, List.length_singleton] at hlen
    obtain ⟨q, hq⟩ := List.length_eq_one_iff.mp hlen
    have hmem : q ∈ qs.filter fun q => decide (playing q) := by
      rw [hq]; exact List.mem_singleton_self q
    obtain ⟨hqs, hplaying⟩ := List.mem_filter.mp hmem
    have hplaying : playing q := of_decide_eq_true hplaying
    obtain ⟨p', hp', hpq'⟩ := hjudged.mem hqs
    exact ⟨p', hp', hpq'.1.roomPlayerState.symm.trans hplaying.1,
      hpq'.1.isActive.symm.trans hplaying.2⟩
  · rintro ⟨p', hp', hstate, hactive⟩ p hp ha
    obtain ⟨i, hi⟩ := List.mem_iff_getElem?.mp hp'
    obtain ⟨q, hq, hpq⟩ := hjudged.2 i p' hi
    have hmem : q ∈ qs.filter fun q => decide (playing q) := by
      refine List.mem_filter.mpr ⟨List.mem_of_getElem? hq, ?_⟩
      exact decide_eq_true ⟨hpq.1.roomPlayerState.trans hstate, hpq.1.isActive.trans hactive⟩
    have hpos := List.length_pos_of_mem hmem
    rw [hgot p hp ha, show (qs.filter fun q => decide (playing q)).length = 1 by omega]
    rfl

/-! ## Two games of two -/

/-- The world these sessions play in. -/
def worldOf (keys : List SessionKey) : RoomEnv := scenarioEnv keys .room 0

/-- A tick of `r` in that world has a verdict, after which `P` holds of the room it leaves. -/
def verdictThen (keys : List SessionKey) (t : Int) (P : TetrisRoom → Bool)
    (r : TetrisRoom) : Bool :=
  decide (AllOf keys r ∧ r.kind ≠ .single ∧ r.roomState = .play) &&
    (MultiRoom.beforeVerdict ({ r with out := [] }.distributeInputs (worldOf keys))
      (worldOf keys) t).any (fun rv => (MultiRoom.resolveWinner rv (worldOf keys)).2) &&
    (r.step (worldOf keys) (.tick t)).any P

theorem verdictThen_spec {keys : List SessionKey} {t : Int} {P : TetrisRoom → Bool}
    {r : TetrisRoom} (hkeys : keys.Pairwise fun k k' => k.playerId ≠ k'.playerId)
    (h : verdictThen keys t P r = true) : (worldOf keys).Serves r (.tick t) ∧ r.kind ≠ .single ∧
      r.roomState = .play ∧ ∃ rv r',
        MultiRoom.beforeVerdict ({ r with out := [] }.distributeInputs (worldOf keys))
          (worldOf keys) t =
          some rv ∧
        (MultiRoom.resolveWinner rv (worldOf keys)).2 = true ∧
        r.step (worldOf keys) (.tick t) = some r' ∧ P r' = true := by
  simp only [verdictThen, Bool.and_eq_true, decide_eq_true_eq, Option.any_eq_true] at h
  obtain ⟨⟨⟨hall, hkind, hplay⟩, rv, hrv, hwin⟩, r', hr', hP⟩ := h
  exact ⟨scenarioEnv_serves .room 0 hkeys hall, hkind, hplay, rv, r', hrv, hwin, hr', hP⟩

def worldOfTwo : RoomEnv := worldOf [hostKey, guestKey]

/--
Both players top out in the eighth tick. The ninth has a winner, and the host of the
room, who is that winner, is not told.
-/
theorem gameEnd_lost : ∃ r rv r' :
    TetrisRoom, Reachable r ∧ worldOfTwo.Serves r (.tick 180000) ∧ r.kind ≠ .single ∧
    r.roomState = .play ∧
    MultiRoom.beforeVerdict ({ r with out := [] }.distributeInputs worldOfTwo) worldOfTwo 180000 =
      some rv ∧
    (MultiRoom.resolveWinner rv worldOfTwo).2 = true ∧
    r.step worldOfTwo (.tick 180000) = some r' ∧ r'.winnerId = hostKey.playerId ∧
    (∃ p ∈ r.roomPlayers, p.isActive = true ∧ p.sessionKey = hostKey) ∧
    (received hostKey r'.out).filter S2CPacket.isGameEnd = [] := by
  have hrun : (gameOfTwo 8).any (fun r =>
      verdictThen [hostKey, guestKey] 180000 (fun r' => decide (r'.winnerId = hostKey.playerId ∧
        (∃ p ∈ r.roomPlayers, p.isActive = true ∧ p.sessionKey = hostKey) ∧
        (received hostKey r'.out).filter S2CPacket.isGameEnd = [])) r) = true := by
    decide +kernel
  obtain ⟨r, hr, h⟩ := (Option.any_eq_true _ _).mp hrun
  obtain ⟨hserves, hkind, hplay, rv, r', hrv, hwin, hr', hP⟩ := verdictThen_spec (by decide) h
  exact ⟨r, rv, r', gameOfTwo_reachable hr, hserves, hkind, hplay, hrv, hwin, hr',
    of_decide_eq_true hP⟩

/-- The guest leaves a game that has just begun; the host wins it, and is told. -/
theorem gameEnd_received_guestLeft : ∃ r rv r' : TetrisRoom, r.roomState = .play ∧
    MultiRoom.beforeVerdict ({ r with out := [] }.distributeInputs worldOfTwo) worldOfTwo 0 =
      some rv ∧
    (MultiRoom.resolveWinner rv worldOfTwo).2 = true ∧ r.step worldOfTwo (.tick 0) = some r' ∧
    ((∀ p ∈ r.roomPlayers, p.isActive = true →
      (received p.sessionKey r'.out).filter S2CPacket.isGameEnd = [.gameEnd r'.winnerId]) ↔
    ∃ p ∈ r.roomPlayers, p.roomPlayerState = .play ∧ p.isActive = true) := by
  have hrun : ((gameOfTwo 0).bind fun r => r.step worldOfTwo (.leavePacket guestKey)).any
      (verdictThen [hostKey, guestKey] 0 fun _ => true) = true := by decide +kernel
  obtain ⟨r, hr, h⟩ := (Option.any_eq_true _ _).mp hrun
  obtain ⟨r₀, hr₀, hleave⟩ := Option.bind_eq_some_iff.mp hr
  obtain ⟨hserves, hkind, hplay, rv, r', hrv, hwin, hr', _⟩ := verdictThen_spec (by decide) h
  have hall : (gameOfTwo 0).all (fun r => decide (AllOf [hostKey, guestKey] r)) = true := by
    decide +kernel
  rw [hr₀] at hall
  have hreach : Reachable r := (gameOfTwo_reachable hr₀).step worldOfTwo _
    (scenarioEnv_serves .room 0 (by decide) (of_decide_eq_true hall)) hleave
  exact ⟨r, rv, r', hplay, hrv, hwin, hr',
    gameEnd_received_iff hreach hserves hkind hplay hrv hwin hr'⟩

end TetrisRoom

end ProjectTetris

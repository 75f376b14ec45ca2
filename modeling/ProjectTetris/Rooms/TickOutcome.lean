import ProjectTetris.Rooms.Events
import ProjectTetris.Rooms.MultiTick
import ProjectTetris.Rooms.TickEnd

/-!
# What a tick does

The stages of a tick, put together: `TickRun` follows every slot from the beginning
of a tick to its end, with the packets everybody is sent on the way. Rooms for one
player and rooms for several differ in what they add to the tasks and in when they
call it a day.
-/

namespace ProjectTetris

open Checked

namespace TetrisRoom

/-- The buffers of the slots with a player, in slot order. -/
def buffers (ps : List Player) : List S2CPacket := (ps.filter (·.isActive)).flatMap (·.sendBuffer)

/-- The spawn `AddSpawnTasks` adds, for a player in the game whose piece has been fixed. -/
def spawnTasks (p : Player) : List TaskType :=
  if p.isActive ∧ p.roomPlayerState = .play ∧ hasEvent p.tetris.sendTasks .fix then
    [.spawn] else []

/-- The task `ResolveWinner` gives to everybody. -/
def endTasks (winnerId : Int) (p : Player) : List TaskType :=
  if p.isActive then [.gameEnd winnerId] else []

/-- Tasks a room adds to slots, none to those nobody sits in. -/
structure RoomAdds (extra : Player → List TaskType) : Prop where
  tasks : ∀ p, RoomTasks (extra p)
  idle : ∀ p, p.isActive = false → extra p = []

theorem roomAdds_none : RoomAdds fun _ => [] := ⟨fun _ => .none, fun _ _ => rfl⟩

theorem roomAdds_spawnTasks : RoomAdds spawnTasks := by
  refine ⟨fun p => roomTasks_addSpawnTask p, fun p hp => ?_⟩
  rw [spawnTasks, if_neg]
  rintro ⟨ha, _⟩
  exact absurd (hp.symm.trans ha) (by decide)

theorem roomAdds_endTasks (winnerId : Int) : RoomAdds (endTasks winnerId) := by
  refine ⟨fun p => ?_, fun p hp => by rw [endTasks, hp]; rfl⟩
  unfold endTasks
  split
  · exact .gameEnd winnerId
  · exact .none

/--
A tick of the room `r` that left `r'`. The slots were `qs` when the game had been
advanced, and `ss` when their packets had been built.
-/
structure TickRun (env : RoomEnv) (t : Int) (r : TetrisRoom) (extra : Player → List TaskType)
    (qs ss : List Player) (r' : TetrisRoom) : Prop where
  ticked : SlotWise (Ticked t tickBudget) r.roomPlayers qs
  grown : r.tetrominoSpawnList <+: r'.tetrominoSpawnList
  drawn : Drawn r.tetrominoSpawnList r'.tetrominoSpawnList
  delivered : SlotWise (fun q s => Delivered r'.tetrominoSpawnList (addTasks q (extra q)) s) qs ss
  players : r'.roomPlayers = ss.map fun s => if s.isActive then tidy env s else s
  kind : r'.kind = r.kind
  capacity : r'.maxPlayerCount = r.maxPlayerCount
  host : r'.hostId = r.hostId
  state : r'.roomState = r.roomState
  count : r'.currentPlayerCount = r.currentPlayerCount
  packets : ∀ key, received key r'.out = if key ∈ r.targets env then buffers ss else []

theorem TickRun.sameSeats {env : RoomEnv} {t : Int} {r r' : TetrisRoom}
    {extra : Player → List TaskType} {qs ss : List Player} (h : TickRun env t r extra qs ss r') :
    SameSeats r.roomPlayers ss :=
  (h.ticked.comp h.delivered fun p q s (hpq : Ticked t tickBudget p q) hqs =>
    (hqs.seat.trans hpq.seat : s.seat = p.seat)).sameSeats fun _ _ hseat => hseat

theorem map_seat_of_sameSeats {ps qs : List Player} (h : SameSeats ps qs) :
    qs.map Player.seat = ps.map Player.seat := by
  refine List.ext_getElem? fun i => ?_
  rw [List.getElem?_map, List.getElem?_map]
  exact (h i).symm

theorem sameSeats_of_seats {ps qs : List Player} (h : qs.map Player.seat = ps.map Player.seat) :
    SameSeats ps qs := by
  intro i
  have hi := congrArg (·[i]?) h
  simpa [List.getElem?_map] using hi.symm

/-! ## The end of a tick -/

/-- `ResetPlayerTickState` and `BroadcastPackets`, one after the other. -/
theorem resetAndBroadcast_ok {env : RoomEnv} {r : TetrisRoom} (hs : Seated env r.roomPlayers) :
    ∃ out, (r.resetPlayerTickState env).broadcastPackets env = { r with
        roomPlayers := r.roomPlayers.map fun s => if s.isActive then tidy env s else s
        out := r.out ++ out } ∧
      ∀ key, received key out = if key ∈ r.targets env then buffers r.roomPlayers else [] := by
  let reset (p : Player) : Player := { p with
    tetris := (if env.isTestMode then p.tetris.resetTetrominoPosition
      spawnPos else p.tetris).resetTickData }
  let f (p : Player) : Player := if (findSession env p).isSome then reset p else p
  have hseat : ∀ p, (f p).seat = p.seat := by
    intro p
    dsimp only [f]
    split <;> rfl
  have hreset : (r.resetPlayerTickState env).roomPlayers = r.roomPlayers.map f := rfl
  have hsame : SameSeats r.roomPlayers (r.resetPlayerTickState env).roomPlayers :=
    .of_map f hseat fun i => List.getElem?_map ..
  have hs' := hs.of_sameSeats hsame
  obtain ⟨out, heq, hout⟩ := broadcastPackets_ok hs'
  refine ⟨out, ?_, fun key => ?_⟩
  · rw [heq, forSessions]
    dsimp only
    rw [hreset, List.map_map]
    have hmap : r.roomPlayers.map ((fun p => if (findSession env p).isSome = true then
          p.clearSendBuffer else p) ∘ f) =
        r.roomPlayers.map fun s => if s.isActive then tidy env s else s := by
      refine List.map_congr_left fun p hp => ?_
      rw [Function.comp_apply, findSession_of_seat env (hseat p), hs.isSome hp]
      dsimp only [f]
      rw [hs.isSome hp]
      split <;> rfl
    rw [hmap]
    rfl
  · rw [hout, targets_congr env (map_seat_of_sameSeats hsame)]
    have hgathered : gathered env (r.resetPlayerTickState env).roomPlayers =
        buffers r.roomPlayers := by
      rw [gathered, buffers, List.filter_congr fun p hp => hs'.isSome hp, hreset, List.filter_map,
        List.flatMap_map, show (fun p : Player => p.isActive) ∘ f = fun p => p.isActive from
          funext fun p => isActive_of_seat (hseat p)]
      have hbuffer : (fun p => (f p).sendBuffer) = fun p : Player => p.sendBuffer := by
        funext p
        dsimp only [f]
        split <;> rfl
      rw [hbuffer]
    rw [hgathered]

/-- The slots of a room in which a game is on. -/
theorem RoomOk.playing {r : TetrisRoom} (h : RoomOk r) (hplay : r.roomState = .play) :
    ∀ p ∈ r.roomPlayers, SlotOk True r.tetrominoSpawnList.length p := by
  intro p hp
  have hslot := h.slots p hp
  exact ⟨hslot.settled, hslot.fresh, hslot.buffer,
    fun hc => hslot.idle fun ha => hc ⟨trivial, ha.2⟩, fun _ => hslot.inGame hplay⟩

/-- The slots as `AppendTickPackets` meets them: seated, and with buffers that have room. -/
theorem ready_ticked {env : RoomEnv} {t : Int} {r r₀ : TetrisRoom} {extra : Player → List TaskType}
    {qs : List Player} (h : RoomOk r) (hs : Seated env r.roomPlayers) (hplay : r.roomState = .play)
    (hqs : SlotWise (Ticked t tickBudget) r.roomPlayers qs) (hextra : RoomAdds extra)
    (hplayers : r₀.roomPlayers = qs.map fun q => addTasks q (extra q))
    (hlist : r₀.tetrominoSpawnList = r.tetrominoSpawnList) :
    Seated env r₀.roomPlayers ∧
      ∀ p ∈ r₀.roomPlayers, playing p → Ready r₀.tetrominoSpawnList p := by
  have hseats₀ : SameSeats r.roomPlayers r₀.roomPlayers := by
    rw [hplayers]
    refine (hqs.sameSeats fun _ _ hpq => hpq.seat).trans ?_
    exact .of_map (fun q => addTasks q (extra q)) (fun _ => rfl) fun i => List.getElem?_map ..
  refine ⟨hs.of_sameSeats hseats₀, ?_⟩
  rw [hplayers, hlist]
  intro q' hq' hplaying
  obtain ⟨q, hq, rfl⟩ := List.mem_map.mp hq'
  obtain ⟨p, hp, hpq⟩ := hqs.mem hq
  refine ready_addTasks (h.playing hplay p hp) hpq ?_ (hextra.tasks q) (Nat.le_refl _)
  exact hpq.isActive.symm.trans hplaying.2

/-- **The second half of a tick**, from the tasks to the end. -/
theorem tickRun_ok {env : RoomEnv} {t : Int} {r r₀ : TetrisRoom} {extra : Player → List TaskType}
    {qs : List Player} (h : RoomOk r) (hs : Seated env r.roomPlayers) (hplay : r.roomState = .play)
    (hqs : SlotWise (Ticked t tickBudget) r.roomPlayers qs) (hextra : RoomAdds extra)
    (hplayers : r₀.roomPlayers = qs.map fun q => addTasks q (extra q)) (hkind : r₀.kind = r.kind)
    (hcapacity : r₀.maxPlayerCount = r.maxPlayerCount) (hhost : r₀.hostId = r.hostId)
    (hstate : r₀.roomState = r.roomState) (hcount : r₀.currentPlayerCount = r.currentPlayerCount)
    (hlist : r₀.tetrominoSpawnList = r.tetrominoSpawnList) (hout : r₀.out = []) :
    ∃ r₁ r₂ ss, r₀.appendTickPackets env = some (r₁, .done) ∧
      (r₁.resetPlayerTickState env).broadcastPackets env = r₂ ∧ r₂.winnerId = r₀.winnerId ∧
      TickRun env t r extra qs ss r₂ := by
  obtain ⟨hs₀, hready⟩ := ready_ticked h hs hplay hqs hextra hplayers hlist
  obtain ⟨l, ss, happend, hl, hlen, hslots⟩ := appendTickPackets_ok hs₀ hready
  have hdelivered : SlotWise (fun q s => Delivered l (addTasks q (extra q)) s) qs ss := by
    refine ⟨by rw [hlen, hplayers, List.length_map], fun i q hq => ?_⟩
    have hq' : r₀.roomPlayers[i]? = some (addTasks q (extra q)) := by
      rw [hplayers, List.getElem?_map, hq]; rfl
    exact hslots i _ hq'
  have hseats₁ : SameSeats r.roomPlayers ss :=
    (hqs.comp hdelivered fun p q s (hpq : Ticked t tickBudget p q) hqs =>
      (hqs.seat.trans hpq.seat : s.seat = p.seat)).sameSeats fun _ _ hseat => hseat
  obtain ⟨out, heq, hreceived⟩ := resetAndBroadcast_ok
    (r := { r₀ with tetrominoSpawnList := l, roomPlayers := ss }) (hs.of_sameSeats hseats₁)
  refine ⟨_, _, ss, happend, heq, rfl, hqs, hlist ▸ hl,
    hlist ▸ (building_slots .start happend).drawn, hdelivered, rfl,
    hkind, hcapacity, hhost, hstate, hcount, fun key => ?_⟩
  rw [show ({ r₀ with tetrominoSpawnList := l, roomPlayers := ss } : TetrisRoom).out = []
    from hout,
    List.nil_append, hreceived, targets_congr (r := r) env (map_seat_of_sameSeats hseats₁)]

/-- The game that `r₁` has just finished is cleared away, and perhaps a result is recorded. -/
def Ended (env : RoomEnv) (r₁ r' : TetrisRoom) : Prop :=
  ∃ out, (∀ key, received key out = []) ∧ r' = { r₁.clearGame env with out := r₁.out ++ out }

/-! ## Rooms for several players -/

/-- A tick of a room for several players; `ResolveWinner` looks at the slots `qs`. -/
inductive MultiTick (env : RoomEnv) (t : Int) (r : TetrisRoom) (qs ss : List Player) :
    TetrisRoom → Prop
  | goesOn {r' : TetrisRoom} (hid : MultiRoom.newWinnerId { r with roomPlayers := qs } env = -1)
      (h : TickRun env t r spawnTasks qs ss r') : MultiTick env t r qs ss r'
  | ends (id : Int) {r₁ r' : TetrisRoom}
      (hid : MultiRoom.newWinnerId { r with roomPlayers := qs } env = id) (hne : id ≠ -1)
      (h : TickRun env t r (endTasks id) qs ss r₁) (hwinner : r₁.winnerId = id)
      (hend : Ended env r₁ r') : MultiTick env t r qs ss r'

theorem slotCount_le (kind : RoomKind) : kind.slotCount ≤ 5 := by
  cases kind <;> decide

/-- **A tick of a room for several players never fails**: it is a `MultiTick`. -/
theorem MultiRoom.processGameTick_ok {r : TetrisRoom} {env : RoomEnv} (t : Int) (h : RoomOk r)
    (hs : Seated env r.roomPlayers) (hplay : r.roomState = .play) (hout : r.out = []) :
    Ok (MultiRoom.processGameTick (r.distributeInputs env) env t) fun r' => ∃ qs ss,
      MultiRoom.beforeVerdict (r.distributeInputs env) env t =
        some { r with playTasks := [], roomPlayers := qs } ∧
      SlotWise (MultiRoom.Judged t) r.roomPlayers qs ∧ MultiTick env t r qs ss r' := by
  obtain ⟨ps, hinputs, hqueued⟩ := distributeInputs_ok r env
  obtain ⟨_, hbefore, qs, rfl, hjudged⟩ := MultiRoom.beforeVerdict_ok
    (r := { r with playTasks := [], roomPlayers := ps }) (t := t) (h.playing hplay)
    hqueued hs hplay (by rw [h.length]; exact slotCount_le _)
  rw [hinputs]
  unfold MultiRoom.processGameTick
  rw [hbefore, Option.bind_eq_bind, Option.bind_some]
  have hticked : SlotWise (Ticked t tickBudget) r.roomPlayers qs :=
    hjudged.comp (.refl (R := fun q q' => q = q') fun _ _ => rfl) fun p q q' hpq heq => heq ▸ hpq.1
  have hsame : SameSeats r.roomPlayers qs := hticked.sameSeats fun _ _ hpq => hpq.seat
  have hsq := hs.of_sameSeats hsame
  unfold MultiRoom.resolveWinner
  by_cases hid : MultiRoom.newWinnerId { r with playTasks := [], roomPlayers := qs } env = -1
  · -- nobody has won: the next pieces, and on it goes
    obtain ⟨r₁, r₂, ss, happend, hsent, _, hrun⟩ := @tickRun_ok env t r
      ({ r with playTasks := [], roomPlayers := qs } : TetrisRoom).addSpawnTasks _ _
      h hs hplay hticked roomAdds_spawnTasks
      (List.map_congr_left fun q _ => addSpawnTask_eq q) rfl rfl rfl rfl rfl rfl hout
    simp only [hid, if_true, Bool.false_eq_true, if_false, happend, Option.bind_eq_bind,
      Option.bind_some]
    rw [MultiRoom.finishTick, hsent]
    exact .pure ⟨qs, ss, rfl, hjudged, .goesOn hid hrun⟩
  · -- somebody has: everybody in the game is told with the packets of this tick
    generalize hwinner : MultiRoom.newWinnerId { r with playTasks := [], roomPlayers := qs } env =
      id at hid ⊢
    have hplayers : (({ r with playTasks := [], roomPlayers := qs, winnerId := id } :
        TetrisRoom).forSessions env fun p => { p with tetris := { p.tetris with
          sendTasks := p.tetris.sendTasks ++ [TaskType.gameEnd id] } }).roomPlayers =
        qs.map fun q => addTasks q (endTasks id q) := by
      refine List.map_congr_left fun q hq => ?_
      rw [hsq.isSome hq, endTasks]
      split
      · rfl
      · simp [addTasks]
    obtain ⟨r₁, r₂, ss, happend, hsent, hr₂, hrun⟩ := tickRun_ok h hs hplay hticked
      (roomAdds_endTasks id) hplayers rfl rfl rfl rfl rfl rfl hout
    simp only [hid, if_true, if_false, happend, Option.bind_eq_bind, Option.bind_some]
    rw [MultiRoom.finishTick, hsent]
    refine .pure ⟨qs, ss, rfl, hjudged, .ends id hwinner hid hrun hr₂ ?_⟩
    -- a result goes to the database, and to nobody in the room
    simp only [if_true]
    split
    · exact ⟨[], fun key => rfl, by rw [List.append_nil]; rfl⟩
    · exact ⟨_, fun key => rfl, rfl⟩

/-! ## Rooms for one player -/

/-- A tick of a room for one player. -/
inductive SingleTick (env : RoomEnv) (t : Int) (r : TetrisRoom) : TetrisRoom → Prop
  | idle {r' : TetrisRoom} (h : Aside r r') : SingleTick env t r r'
  | goesOn (qs ss : List Player) {r' : TetrisRoom} (h : TickRun env t r spawnTasks qs ss r') :
      SingleTick env t r r'
  | ends (qs ss : List Player) {r₁ r' : TetrisRoom} (h : TickRun env t r (fun _ => []) qs ss r₁)
      (hend : Ended env r₁ r') : SingleTick env t r r'

/-- The slot a verdict and a score have been added to. -/
def judged (p : Player) : Player :=
  let q := { p with tetris := p.tetris.withVerdict }
  if hasEvent p.tetris.sendTasks .fix then SingleRoom.calculateScore q p.tetris.clearedLineCount
  else q

theorem judged_fields (p : Player) : (judged p).isActive = p.isActive ∧
    (judged p).roomPlayerState = p.roomPlayerState ∧ (judged p).tetris = p.tetris.withVerdict := by
  unfold judged SingleRoom.calculateScore
  dsimp only
  split
  · split <;> exact ⟨rfl, rfl, rfl⟩
  · exact ⟨rfl, rfl, rfl⟩

theorem hasEvent_fix_withVerdict (s : Tetris) :
    hasEvent s.withVerdict.sendTasks .fix = hasEvent s.sendTasks .fix := by
  rw [Tetris.withVerdict_sendTasks]
  split <;> simp [TaskType.eventType]

theorem clearedLineCount_withVerdict (s : Tetris) :
    s.withVerdict.clearedLineCount = s.clearedLineCount := by
  unfold Tetris.withVerdict
  split <;> rfl

theorem calculateScore_addTasks (p : Player) (extra : List TaskType) (n : Nat) :
    SingleRoom.calculateScore (addTasks p extra) n =
      addTasks (SingleRoom.calculateScore p n) extra := by
  unfold SingleRoom.calculateScore
  split <;> rfl

/-- **What a room for one player adds to a tick**: the verdict and the score, then perhaps a spawn.
-/
theorem judge_eq (p : Player) : SingleRoom.judge p = some
    (addTasks (judged p) (if p.tetris.board.HiddenEmpty then spawnTasks (judged p) else []),
      decide (¬ p.tetris.board.HiddenEmpty)) := by
  have hspawn : ∀ q : Player, q.isActive = p.isActive → q.roomPlayerState = p.roomPlayerState →
      q.tetris.sendTasks = p.tetris.withVerdict.sendTasks → spawnTasks q =
        spawnTasks { p with tetris := p.tetris.withVerdict } := by
    intro q ha hstate htasks
    simp only [spawnTasks, ha, hstate, htasks]
    rfl
  have hfields := judged_fields p
  rw [hspawn (judged p) hfields.1 hfields.2.1 (congrArg Tetris.sendTasks hfields.2.2)]
  simp only [SingleRoom.judge, Tetris.checkGameOver_eq, Option.bind_eq_bind, Option.bind_some]
  -- the spawn task is no fix, so it changes nothing for the score
  have hscore : ∀ extra, RoomTasks extra →
      (if hasEvent (addTasks { p with tetris := p.tetris.withVerdict } extra).tetris.sendTasks .fix
        then
        SingleRoom.calculateScore (addTasks { p with tetris := p.tetris.withVerdict } extra)
          (addTasks { p with tetris := p.tetris.withVerdict } extra).tetris.clearedLineCount
      else addTasks { p with tetris := p.tetris.withVerdict } extra) =
        addTasks (judged p) extra := by
    intro extra hextra
    have hfix :
        hasEvent (addTasks { p with tetris := p.tetris.withVerdict } extra).tetris.sendTasks .fix =
        hasEvent p.tetris.sendTasks .fix := by
      have hnone : hasEvent extra .fix = false := by cases hextra <;> rfl
      rw [addTasks, hasEvent_append, hnone, Bool.or_false, hasEvent_fix_withVerdict]
    rw [hfix, calculateScore_addTasks, judged]
    rw [show (addTasks { p with tetris := p.tetris.withVerdict } extra).tetris.clearedLineCount =
      p.tetris.withVerdict.clearedLineCount from rfl, clearedLineCount_withVerdict]
    split <;> rfl
  by_cases hempty : p.tetris.board.HiddenEmpty
  · simp only [hempty, not_true_eq_false, decide_false, Bool.false_eq_true, if_false, if_true]
    rw [addSpawnTask_eq]
    exact congrArg (fun q => some (q, false)) (hscore _ (roomTasks_addSpawnTask _))
  · simp only [hempty, not_false_eq_true, decide_true, if_true, if_false]
    have h := hscore [] .none
    simp only [addTasks, List.append_nil] at h ⊢
    exact congrArg (fun q => some (q, true)) h

/-- The verdict fits into what a tick may record: one player alone has few lines pending. -/
theorem ticked_judged {t : Int} {p q : Player}
    (h : Ticked t (inputTypeCount * inputBudget + garbageBudget) p q) (ha : p.isActive = true) :
    Ticked t tickBudget p (judged q) := by
  have hbudget : inputTypeCount * inputBudget + garbageBudget + S2CType.gameOver.size ≤
      tickBudget := by
    decide
  have htetris := (judged_fields q).2.2
  refine ⟨?_, fun hf => absurd (hf.symm.trans ha) (by decide), fun _ => ?_⟩
  · rw [htetris]
    unfold judged SingleRoom.calculateScore
    dsimp only
    split
    · split <;> rw [h.rest]
    · rw [h.rest]
  · rw [htetris]
    have hlog := (h.log ha).withVerdict
    exact { hlog with size := Nat.le_trans hlog.size hbudget }

namespace SingleRoom

/-- The state in which `ProcessGameTick` asks whether the board is full. -/
def beforeVerdict (r : TetrisRoom) (env : RoomEnv) (t : Int) : Option TetrisRoom := do
  (← r.processTicks env t).addGarbageLines env

/-- A tick of a room for one player; the verdict is on the board of `q`. -/
inductive Verdict (env : RoomEnv) (t : Int) (r : TetrisRoom) : TetrisRoom → Prop
  | idle {r' : TetrisRoom} (h : Aside r r') : Verdict env t r r'
  | goesOn (q : Player) (ss : List Player) {r' : TetrisRoom}
      (hbefore : beforeVerdict (r.distributeInputs env) env t =
        some { r with playTasks := [], roomPlayers := [q] })
      (hempty : q.tetris.board.HiddenEmpty) (h : TickRun env t r spawnTasks [judged q] ss r') :
      Verdict env t r r'
  | ends (q : Player) (ss : List Player) {r₁ r' : TetrisRoom}
      (hbefore : beforeVerdict (r.distributeInputs env) env t =
        some { r with playTasks := [], roomPlayers := [q] })
      (hfull : ¬ q.tetris.board.HiddenEmpty) (h : TickRun env t r (fun _ => []) [judged q] ss r₁)
      (hend : Ended env r₁ r') : Verdict env t r r'

/-- Up to the verdict, with somebody in the only slot. -/
theorem beforeVerdict_ok {r : TetrisRoom} {env : RoomEnv} {p : Player} (t : Int) (h : RoomOk r)
    (hs : Seated env r.roomPlayers) (hplay : r.roomState = .play) (hp : r.roomPlayers = [p])
    (ha : p.isActive = true) :
    Ok (beforeVerdict (r.distributeInputs env) env t) fun r' => ∃ q,
      r' = { r with playTasks := [], roomPlayers := [q] } ∧
      SlotWise (Ticked t tickBudget) r.roomPlayers [judged q] := by
  obtain ⟨ps, hinputs, hqueued⟩ := distributeInputs_ok r env
  have hmem : p ∈ r.roomPlayers := by rw [hp]; exact List.mem_singleton_self p
  obtain ⟨p', hp', hpp'⟩ := hqueued.2 0 p (by rw [hp]; rfl)
  have hps : ps = [p'] := by
    have hlen := hqueued.1
    rw [hp] at hlen
    obtain ⟨x, rfl⟩ := List.length_eq_one_iff.mp hlen
    simpa using hp'
  subst hps
  obtain ⟨q, hq, hticked, _, hcount⟩ :=
    processTickOf_ok (t := t) (h.playing hplay p hmem) hpp'.noted (hs.isSome hmem)
  obtain ⟨q', hq', hticked', _⟩ := @addGarbageLinesTo_ok env _ _ _ _ _ hticked hcount
  rw [Nat.one_mul] at hticked'
  have hticks : processTicks { r with playTasks := [], roomPlayers := [p'] } env t =
      some { r with playTasks := [], roomPlayers := [q] } := by
    simp [processTicks, hq]
  have hgarbage : TetrisRoom.addGarbageLines { r with playTasks := [], roomPlayers := [q] } env =
      some { r with playTasks := [], roomPlayers := [q'] } := by
    simp [TetrisRoom.addGarbageLines, hq']
  refine ⟨{ r with playTasks := [], roomPlayers := [q'] }, ?_, q', rfl, ?_⟩
  · rw [beforeVerdict, hinputs, hticks, Option.bind_eq_bind, Option.bind_some, hgarbage]
  · rw [hp]
    refine ⟨rfl, fun i x hx => ?_⟩
    obtain ⟨rfl, rfl⟩ : i = 0 ∧ p = x := by
      cases i with
      | zero => exact ⟨rfl, by simpa using hx⟩
      | succ i => exact absurd hx (by simp)
    exact ⟨_, rfl, ticked_judged hticked' ha⟩

theorem slot_eq {r : TetrisRoom} (h : RoomOk r) (hkind : r.kind = .single) :
    ∃ p, r.roomPlayers = [p] := by
  refine List.length_eq_one_iff.mp ?_
  rw [h.length, hkind]
  rfl

theorem processGameTick_verdict {r : TetrisRoom} {env : RoomEnv} (t : Int) (h : RoomOk r)
    (hs : Seated env r.roomPlayers) (hkind : r.kind = .single) (hplay : r.roomState = .play)
    (hout : r.out = []) :
    Ok (processGameTick (r.distributeInputs env) env t) (Verdict env t r) := by
  obtain ⟨p, hp⟩ := slot_eq h hkind
  obtain ⟨ps, hinputs, hqueued⟩ := distributeInputs_ok r env
  obtain ⟨p', hp', hpp'⟩ := hqueued.2 0 p (by rw [hp]; rfl)
  unfold processGameTick slot
  rw [show (r.distributeInputs env).roomPlayers[0]? = some p' by rw [hinputs]; exact hp']
  dsimp only
  cases ha : p.isActive with
  | false =>
      -- nobody plays, so nothing was queued either
      have hsame : p' = p := hpp'.2 ha
      subst hsame
      have hps : ps = r.roomPlayers := by
        refine List.ext_getElem? fun i => ?_
        cases hi : r.roomPlayers[i]? with
        | none =>
            have hlen := hqueued.1
            rw [List.getElem?_eq_none_iff] at hi ⊢
            omega
        | some x =>
            obtain rfl : p' = x := by
              have hx := List.mem_of_getElem? hi
              rw [hp] at hx
              exact (List.mem_singleton.mp hx).symm
            obtain ⟨y, hy, hxy⟩ := hqueued.2 i _ hi
            rw [hy, hxy.2 ha]
      rw [ha, hinputs, hps]
      exact .pure (.idle ⟨rfl, rfl, rfl, rfl, rfl, rfl, id⟩)
  | true =>
      have hactive : p'.isActive = true := (isActive_of_seat hpp'.noted.seat).trans ha
      obtain ⟨_, hbefore, q', rfl, hrun⟩ := beforeVerdict_ok t h hs hplay hp ha
      obtain ⟨r₀, hticks, hgarbage⟩ := Option.bind_eq_some_iff.mp hbefore
      let extra (x : Player) : List TaskType :=
        if q'.tetris.board.HiddenEmpty then spawnTasks x else []
      have hextra : RoomAdds extra := by
        by_cases hempty : q'.tetris.board.HiddenEmpty
        · simpa only [extra, hempty, if_true] using roomAdds_spawnTasks
        · simpa only [extra, hempty, if_false] using roomAdds_none
      obtain ⟨r₁, r₂, ss, happend, hsent, _, htick⟩ := @tickRun_ok env t r
        { r with playTasks := [], roomPlayers := [addTasks (judged q') (extra (judged q'))] } _ _
        h hs hplay hrun hextra rfl rfl rfl rfl rfl rfl rfl hout
      have hset : ({ r with playTasks := [], roomPlayers := [q'] } : TetrisRoom).modifyPlayer 0
          (fun _ => addTasks (judged q') (extra (judged q'))) =
          { r with playTasks := [], roomPlayers := [addTasks (judged q') (extra (judged q'))] } :=
          rfl
      simp only [hactive, Bool.not_true, Bool.false_eq_true, if_false, hticks, Option.bind_eq_bind,
        Option.bind_some, hgarbage, List.getElem?_cons_zero, judge_eq]
      rw [hset, happend, Option.bind_some]
      dsimp only
      rw [finishTick, hsent]
      by_cases hempty : q'.tetris.board.HiddenEmpty
      · simp only [extra, hempty, if_true, not_true_eq_false, decide_false, Bool.false_eq_true,
          if_false] at htick ⊢
        exact .pure (.goesOn q' ss hbefore hempty htick)
      · simp only [extra, hempty, if_false, not_false_eq_true, decide_true, if_true] at htick ⊢
        refine .pure (.ends q' ss hbefore hempty htick ?_)
        unfold endGame requestUpdateScore
        -- a score goes to the database, and to nobody in the room
        split
        · exact ⟨[], fun key => rfl, by rw [List.append_nil]; rfl⟩
        split
        · exact ⟨[], fun key => rfl, by rw [List.append_nil]; rfl⟩
        split
        · exact ⟨[], fun key => rfl, by rw [List.append_nil]; rfl⟩
        split
        · exact ⟨_, fun key => rfl, rfl⟩
        · exact ⟨[], fun key => rfl, by rw [List.append_nil]; rfl⟩

/-- **A tick of a room for one player never fails**: it is a `SingleTick`. -/
theorem processGameTick_ok {r : TetrisRoom} {env : RoomEnv} (t : Int) (h : RoomOk r)
    (hs : Seated env r.roomPlayers) (hkind : r.kind = .single) (hplay : r.roomState = .play)
    (hout : r.out = []) :
    Ok (processGameTick (r.distributeInputs env) env t) (SingleTick env t r) := by
  refine Ok.mono (processGameTick_verdict t h hs hkind hplay hout) fun r' hr' => ?_
  cases hr' with
  | idle h => exact .idle h
  | goesOn q ss _ _ h => exact .goesOn _ ss h
  | ends q ss _ _ h hend => exact .ends _ ss h hend

end SingleRoom

end TetrisRoom

end ProjectTetris

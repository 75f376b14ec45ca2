import ProjectTetris.Client.SameGame
import ProjectTetris.Rooms.OverLast

/-!
# What comes after a player's `S2C_GAME_OVER`

`SinceStart` is a room from the start of a game to the next one, with everything it has
sent. Nothing should follow the `S2C_GAME_OVER` of a player. Something does where his
last piece tops him out and the game goes on: he is given a next one in the same tick.
-/

namespace ProjectTetris

open Client

namespace TetrisRoom

/-- Nothing about the player `id` follows the packet that he is out. -/
def OverIsFinal (id : Int) (packets : List S2CPacket) : Prop :=
  ∀ before after, packetsFor id packets = before ++ .gameOver id :: after → after = []

/-- A room since a game started in it, and what it has sent since. -/
inductive SinceStart : List RoomEffect → TetrisRoom → Prop
  | start {r r' : TetrisRoom} (h : Reachable r) (hwait : r.roomState = .wait) (env : RoomEnv)
      (e : RoomEvent) (hserves : env.Serves r e) (hstep : r.step env e = some r')
      (hplay : r'.roomState = .play) : SinceStart r'.out r'
  | step {log : List RoomEffect} {r r' : TetrisRoom} (h : SinceStart log r) (env : RoomEnv)
      (e : RoomEvent) (hserves : env.Serves r e) (hfits : StepFits r env e)
      (hstep : r.step env e = some r') (hsame : ¬ (r.roomState = .wait ∧ r'.roomState = .play)) :
      SinceStart (log ++ r'.out) r'

/-! ## One slot's packets of a tick -/

theorem gameOver_of_enginePackets {p : Player} {id id' : Int} {tasks : List TaskType}
    (h : .gameOver id' ∈ enginePackets p id tasks) : .gameOver ∈ tasks := by
  obtain ⟨task, htask, heq⟩ := List.mem_filterMap.mp h
  cases task with
  | gameOver => exact htask
  | spawn => exact absurd heq (by simp [tickPacket])
  | _ => exact absurd heq (by simp [tickPacket])

theorem ingameId_of_tickPacket {l : List TetrominoType} {p : Player} {id id' : Int}
    {task : TaskType} {packet : S2CPacket} (h : tickPacket l p id task = some packet)
    (hid : packet.ingameId = some id') :
    id' = id := by
  cases task with
  | spawn =>
      obtain ⟨type, _, h⟩ := Option.bind_eq_some_iff.mp h
      obtain ⟨next, _, h⟩ := Option.bind_eq_some_iff.mp h
      cases h
      exact (Option.some.inj hid).symm
  | gameEnd _ =>
      cases h
      exact absurd hid (by simp [S2CPacket.ingameId])
  | _ =>
      cases h
      exact (Option.some.inj hid).symm

/-- A slot's packets of a tick are about its own player, or about nobody. -/
theorem speaksForItself_delivered {l : List TetrominoType} {q s : Player} {extra : List TaskType}
    (hbuffer : q.sendBuffer = []) (h : Delivered l (addTasks q extra) s) : SpeaksForItself s := by
  have hengine : ∀ {p : Player} {id : Int} {tasks : List TaskType},
      ∀ packet ∈ enginePackets p id tasks, ∀ id', packet.ingameId = some id' → id' = id := by
    intro p id tasks packet hp id' hid
    obtain ⟨task, _, heq⟩ := List.mem_filterMap.mp hp
    exact ingameId_of_tickPacket heq hid
  intro packet hp id hid
  rcases h with ⟨_, happ⟩ | ⟨_, rfl⟩
  · cases happ with
    | plain _ =>
        have hp : packet ∈ q.sendBuffer ++
            enginePackets (addTasks q extra) q.sessionKey.playerId _ := hp
        rw [hbuffer, List.nil_append] at hp
        exact hengine packet hp id hid
    | respawned engine htasks _ type next _ _ =>
        have hp : packet ∈ q.sendBuffer ++
            enginePackets (addTasks q extra) q.sessionKey.playerId engine ++
          [S2CPacket.spawn q.sessionKey.playerId type.toIndex next.toIndex
            spawnPos.x spawnPos.y] := hp
        rw [hbuffer, List.nil_append] at hp
        rcases List.mem_append.mp hp with hp | hp
        · exact hengine packet hp id hid
        · rw [List.mem_singleton.mp hp] at hid
          exact (Option.some.inj hid).symm
  · rw [show (addTasks q extra).sendBuffer = q.sendBuffer from rfl, hbuffer] at hp
    exact absurd hp List.not_mem_nil

/-- A slot that says nothing after saying that its player is out. -/
inductive SaysOver (s : Player) : Prop
  | inGame (hno : ∀ id, .gameOver id ∉ s.sendBuffer) : SaysOver s
  | isOut (before after : List S2CPacket)
      (hbuffer : s.sendBuffer = before ++ .gameOver s.sessionKey.playerId :: after)
      (hbefore : ∀ id, .gameOver id ∉ before) (hafter : ∀ packet ∈ after, packet.ingameId = none)
      (hstate : s.roomPlayerState = .gameOver) : SaysOver s

/-- **No spawn is added**: the packets follow the engine's tasks. -/
theorem saysOver_plain {l : List TetrominoType} {q s : Player} {extra : List TaskType}
    (hbuffer : q.sendBuffer = [])
    (hengine : playing q → ∀ task ∈ q.tetris.sendTasks, task.isEngine = true)
    (hextra : extra = [] ∨ ∃ id, extra = [.gameEnd id])
    (hlast : playing q → OverIsLast q.tetris.sendTasks) (h : Delivered l (addTasks q extra) s) :
    SaysOver s := by
  rcases h with ⟨hplay, happ⟩ | ⟨_, rfl⟩
  · have hplay : playing q := hplay
    have hne : ∀ task ∈ q.tetris.sendTasks ++ extra, task ≠ .spawn := by
      intro task ht hc
      subst hc
      rcases List.mem_append.mp ht with ht | ht
      · exact absurd (hengine hplay _ ht) (by decide)
      · rcases hextra with rfl | ⟨id, rfl⟩ <;> simp at ht
    cases happ with
    | respawned engine htasks =>
        have htasks : q.tetris.sendTasks ++ extra = engine ++ [.spawn] := htasks
        exact absurd rfl (hne .spawn (by rw [htasks]; simp))
    | plain _ =>
        have hsent :
            (appended (addTasks q extra) q.sessionKey.playerId
              (q.tetris.sendTasks ++ extra)).sendBuffer =
            enginePackets (addTasks q extra) q.sessionKey.playerId q.tetris.sendTasks ++
              enginePackets (addTasks q extra) q.sessionKey.playerId extra := by
          show q.sendBuffer ++ _ = _
          rw [hbuffer, List.nil_append, enginePackets_append]
        have hlate : ∀ packet ∈ enginePackets (addTasks q extra) q.sessionKey.playerId extra,
            packet.ingameId = none := by
          rcases hextra with rfl | ⟨id, rfl⟩
          · exact fun packet hp => absurd hp List.not_mem_nil
          · intro packet hp
            have hp : packet ∈ [S2CPacket.gameEnd id] := hp
            rw [List.mem_singleton.mp hp]
            rfl
        rcases overIsLast_cases (hlast hplay) with hno | ⟨before, htasks, hno⟩
        · refine .inGame fun id hmem => ?_
          have hmem : .gameOver id ∈ (appended (addTasks q extra) q.sessionKey.playerId
            (q.tetris.sendTasks ++ extra)).sendBuffer := hmem
          rw [hsent] at hmem
          rcases List.mem_append.mp hmem with hmem | hmem
          · exact hno (gameOver_of_enginePackets hmem)
          · exact absurd (hlate _ hmem) (by simp [S2CPacket.ingameId])
        · refine .isOut (enginePackets (addTasks q extra) q.sessionKey.playerId before)
            (enginePackets (addTasks q extra) q.sessionKey.playerId extra) ?_ ?_ hlate ?_
          · refine hsent.trans ?_
            rw [htasks, enginePackets_append, List.append_assoc]
            rfl
          · exact fun id hmem => hno (gameOver_of_enginePackets hmem)
          · have hover : hasEvent (q.tetris.sendTasks ++ extra) .gameOver = true :=
              hasEvent_of_mem (List.mem_append_left _ (by rw [htasks]; simp))
            exact if_pos hover
  · refine .inGame fun id hmem => ?_
    rw [show (addTasks q extra).sendBuffer = q.sendBuffer from rfl, hbuffer] at hmem
    exact absurd hmem List.not_mem_nil

/-- A slot of whose player the engine does not say that he is out. -/
theorem noOver_delivered {l : List TetrominoType} {q s : Player} {extra : List TaskType}
    (hbuffer : q.sendBuffer = []) (hextra : RoomTasks extra)
    (hno : playing q → .gameOver ∉ q.tetris.sendTasks) (h : Delivered l (addTasks q extra) s)
    (id : Int) :
    .gameOver id ∉ s.sendBuffer := by
  intro hmem
  rcases h with ⟨hplay, happ⟩ | ⟨_, rfl⟩
  · have hplay : playing q := hplay
    have hnone : .gameOver ∉ q.tetris.sendTasks ++ extra := by
      intro hc
      rcases List.mem_append.mp hc with hc | hc
      · exact hno hplay hc
      · cases hextra <;> simp at hc
    cases happ with
    | plain _ =>
        have hmem : .gameOver id ∈ q.sendBuffer ++
            enginePackets (addTasks q extra) q.sessionKey.playerId
          (q.tetris.sendTasks ++ extra) := hmem
        rw [hbuffer, List.nil_append] at hmem
        exact hnone (gameOver_of_enginePackets hmem)
    | respawned engine htasks _ type next _ _ =>
        have htasks : q.tetris.sendTasks ++ extra = engine ++ [.spawn] := htasks
        have hmem : .gameOver id ∈ q.sendBuffer ++
            enginePackets (addTasks q extra) q.sessionKey.playerId engine ++
          [S2CPacket.spawn q.sessionKey.playerId type.toIndex next.toIndex
            spawnPos.x spawnPos.y] := hmem
        rw [hbuffer, List.nil_append] at hmem
        rcases List.mem_append.mp hmem with hmem | hmem
        · exact hnone (htasks ▸ List.mem_append_left _ (gameOver_of_enginePackets hmem))
        · exact absurd (List.mem_singleton.mp hmem) (by simp)
  · rw [show (addTasks q extra).sendBuffer = q.sendBuffer from rfl, hbuffer] at hmem
    exact absurd hmem List.not_mem_nil

/-- **A spawn is added after a fix**, which then must not have topped the board out. -/
theorem saysOver_spawn {l : List TetrominoType} {q s : Player} (hbuffer : q.sendBuffer = [])
    (hengine : playing q → ∀ task ∈ q.tetris.sendTasks, task.isEngine = true)
    (hlast : playing q → OverIsLast q.tetris.sendTasks)
    (hfix : playing q → hasEvent q.tetris.sendTasks .fix = true →
      hasEvent q.tetris.sendTasks .gameOver = false)
    (h : Delivered l (addTasks q (spawnTasks q)) s) : SaysOver s := by
  by_cases hplay : playing q ∧ hasEvent q.tetris.sendTasks .fix = true
  · exact .inGame (noOver_delivered hbuffer (roomAdds_spawnTasks.tasks q)
      (fun _ => not_mem_of_hasEvent (hfix hplay.1 hplay.2)) h)
  · have hnone : spawnTasks q = [] := by
      rw [spawnTasks, if_neg]
      intro hc
      exact hplay ⟨⟨hc.2.1, hc.1⟩, hc.2.2⟩
    rw [hnone] at h
    exact saysOver_plain hbuffer hengine (.inl rfl) hlast h

/-! ## A tick -/

/-- What is said about the player `id` so far, and what his slot says if he plays. -/
structure OverInv (log : List RoomEffect) (r : TetrisRoom) : Prop where
  final : ∀ id key, OverIsFinal id (received key log)
  isOut : r.roomState = .play → ∀ p ∈ r.roomPlayers, p.isActive = true →
    p.roomPlayerState = .play →
    ∀ key, .gameOver p.sessionKey.playerId ∉ received key log
  single : r.roomState = .play → r.kind = .single → ∀ id key, .gameOver id ∉ received key log

theorem mem_packetsFor {id : Int} {packets : List S2CPacket} (h : .gameOver id ∈ packets) :
    .gameOver id ∈ packetsFor id packets :=
  List.mem_filter.mpr ⟨h, decide_eq_true rfl⟩

/-- Said nothing so far, and now `said`. -/
theorem overIsFinal_append {id : Int} {before after : List S2CPacket}
    (hbefore : .gameOver id ∉ before) (hafter : OverIsFinal id after) :
    OverIsFinal id (before ++ after) := by
  intro l₁ l₂ heq
  rw [packetsFor_append] at heq
  rcases List.append_eq_append_iff.mp heq with ⟨l, _, hlate⟩ | ⟨l, hearly, hrest⟩
  · exact hafter l l₂ hlate
  · cases l with
    | nil => exact hafter [] l₂ hrest.symm
    | cons packet rest =>
        -- it would have been said before
        obtain ⟨rfl, rfl⟩ := List.cons.inj hrest
        have hmem : .gameOver id ∈ packetsFor id before := by rw [hearly]; simp
        exact absurd (List.mem_filter.mp hmem).1 hbefore

theorem overIsFinal_silent {id : Int} {before after : List S2CPacket} (h : OverIsFinal id before)
    (hafter : packetsFor id after = []) : OverIsFinal id (before ++ after) := by
  intro l₁ l₂ heq
  rw [packetsFor_append, hafter, List.append_nil] at heq
  exact h l₁ l₂ heq

theorem SaysOver.final {s : Player} (h : SaysOver s) :
    OverIsFinal s.sessionKey.playerId s.sendBuffer := by
  intro l₁ l₂ heq
  cases h with
  | inGame hno =>
      have hmem : .gameOver s.sessionKey.playerId ∈
          packetsFor s.sessionKey.playerId s.sendBuffer := by
        rw [heq]
        simp
      exact absurd (List.mem_filter.mp hmem).1 (hno _)
  | isOut before after hbuffer hbefore hafter =>
      have hquiet : packetsFor s.sessionKey.playerId after = [] := by
        refine List.filter_eq_nil_iff.mpr fun packet hp hc => ?_
        rw [hafter packet hp] at hc
        exact absurd (of_decide_eq_true hc) (by simp)
      have hlast : packetsFor s.sessionKey.playerId s.sendBuffer =
          packetsFor s.sessionKey.playerId before ++ [.gameOver s.sessionKey.playerId] := by
        have hone : packetsFor s.sessionKey.playerId (.gameOver s.sessionKey.playerId :: after) =
            .gameOver s.sessionKey.playerId :: packetsFor s.sessionKey.playerId after :=
          List.filter_cons_of_pos (decide_eq_true rfl)
        rw [hbuffer, packetsFor_append, hone, hquiet]
      rw [hlast] at heq
      rcases List.eq_nil_or_concat l₂ with rfl | ⟨rest, last, rfl⟩
      · rfl
      · have hsplit : packetsFor s.sessionKey.playerId before ++
            [.gameOver s.sessionKey.playerId] =
            (l₁ ++ .gameOver s.sessionKey.playerId :: rest) ++ [last] := by
          rw [heq]
          simp
        have hmem : .gameOver s.sessionKey.playerId ∈ packetsFor s.sessionKey.playerId before := by
          rw [(List.append_inj' hsplit rfl).1]
          simp
        exact absurd (List.mem_filter.mp hmem).1 (hbefore _)

/-- The players still in the game after a tick were in it before, and are not said to be out. -/
theorem overInv_tick {env : RoomEnv} {t : Int} {r r' : TetrisRoom} {log : List RoomEffect}
    {extra : Player → List TaskType} {qs ss : List Player} (hok : RoomOk r)
    (hs : Seated env r.roomPlayers) (hplay : r.roomState = .play) (h : OverInv log r)
    (hr : TickRun env t r extra qs ss r') (hspeak : ∀ s ∈ ss, SaysOver s) :
    (∀ id key, OverIsFinal id (received key (log ++ r'.out))) ∧
      ∀ p ∈ r'.roomPlayers, p.isActive = true → p.roomPlayerState = .play →
        ∀ key, .gameOver p.sessionKey.playerId ∉ received key (log ++ r'.out) := by
  have hss : Seated env ss := hs.of_sameSeats hr.sameSeats
  have hfrom : ∀ s ∈ ss, ∃ p ∈ r.roomPlayers, ∃ q, Ticked t tickBudget p q ∧
      Delivered r'.tetrominoSpawnList (addTasks q (extra q)) s ∧ q.sendBuffer = [] := by
    intro s hs
    obtain ⟨q, hq, hqs⟩ := hr.delivered.mem hs
    obtain ⟨p, hp, hpq⟩ := hr.ticked.mem hq
    exact ⟨p, hp, q, hpq, hqs, by rw [hpq.rest]; exact (hok.slots p hp).buffer⟩
  have hown : ∀ s ∈ ss, s.isActive = true → SpeaksForItself s := by
    intro s hs _
    obtain ⟨p, _, q, _, hqs, hbuffer⟩ := hfrom s hs
    exact speaksForItself_delivered hbuffer hqs
  -- a slot with something to say belongs to a player still in the game
  have hspoke : ∀ s ∈ ss, s.isActive = true → s.sendBuffer ≠ [] → ∀ key,
      .gameOver s.sessionKey.playerId ∉ received key log := by
    intro s hs ha hsaid key
    obtain ⟨p, hp, q, hpq, hqs, hbuffer⟩ := hfrom s hs
    have hseat : s.seat = p.seat := hqs.seat.trans hpq.seat
    rw [show s.sessionKey = p.sessionKey from congrArg Prod.fst hseat]
    rcases hqs with ⟨hplaying, _⟩ | ⟨_, rfl⟩
    · exact h.isOut hplay p hp ((isActive_of_seat hseat).symm.trans ha)
        (hpq.roomPlayerState.symm.trans hplaying.1) key
    · exact absurd hbuffer hsaid
  refine ⟨fun id key => ?_, fun x hx ha hstate key => ?_⟩
  · rw [received_append, hr.packets]
    by_cases hkey : key ∈ r.targets env
    · rw [if_pos hkey]
      by_cases hsomeone : ∃ s ∈ ss, s.isActive = true ∧ s.sessionKey.playerId = id
      · obtain ⟨s, hs, ha, rfl⟩ := hsomeone
        have hslot := packetsFor_buffers_slot ha hown (pairwise_ids hss) hs
        by_cases hsaid : s.sendBuffer = []
        · refine overIsFinal_silent (h.final _ key) ?_
          rw [hslot, hsaid]
          rfl
        · refine overIsFinal_append (hspoke s hs ha hsaid key) ?_
          intro l₁ l₂ heq
          exact (hspeak s hs).final l₁ l₂ (hslot.symm.trans heq)
      · refine overIsFinal_silent (h.final _ key) (packetsFor_buffers_nobody hown ?_)
        exact fun s hs ha hid => hsomeone ⟨s, hs, ha, hid⟩
    · rw [if_neg hkey, List.append_nil]
      exact h.final id key
  · rw [hr.players] at hx
    obtain ⟨s, hmem, rfl⟩ := List.mem_map.mp hx
    obtain ⟨hxseat, hxstate⟩ := tidied_fields env s
    have hsa : s.isActive = true := (isActive_of_seat hxseat).symm.trans ha
    rw [show (if s.isActive then tidy env s else s).sessionKey = s.sessionKey
      from congrArg Prod.fst hxseat, received_append, hr.packets]
    intro hout
    rcases List.mem_append.mp hout with hout | hout
    · -- said in an earlier tick
      obtain ⟨p, hp, q, hpq, hqs, _⟩ := hfrom s hmem
      have hseat : s.seat = p.seat := hqs.seat.trans hpq.seat
      have hqstate : q.roomPlayerState = .play := by
        rcases hqs with ⟨hplaying, _⟩ | ⟨_, rfl⟩
        · exact hplaying.1
        · exact hxstate.symm.trans hstate
      rw [show s.sessionKey = p.sessionKey from congrArg Prod.fst hseat] at hout
      exact h.isOut hplay p hp ((isActive_of_seat hseat).symm.trans hsa)
        (hpq.roomPlayerState.symm.trans hqstate) key hout
    · split at hout
      · -- said in this one, by his own slot
        have hin := packetsFor_buffers_slot hsa hown (pairwise_ids hss) hmem ▸ mem_packetsFor hout
        have hin := (List.mem_filter.mp hin).1
        cases hspeak s hmem with
        | inGame hno => exact hno _ hin
        | isOut _ _ _ _ _ hover =>
            rw [hxstate, hover] at hstate
            exact absurd hstate (by decide)
      · exact absurd hout List.not_mem_nil

/-! ## A step -/

theorem not_gameOver_quiet {r : TetrisRoom} (h : r.Quiet) (id : Int) (key : SessionKey) :
    .gameOver id ∉ received key r.out := by
  intro hmem
  have hnone := packetsFor_received_quiet h id key
  exact absurd (hnone ▸ mem_packetsFor hmem) List.not_mem_nil

/-- An event that is no tick: a game starts, is given up, or nothing of it is shown. -/
theorem handled_says {env : RoomEnv} {r r' : TetrisRoom} (h : Handled env r r') (hq : r.Quiet) :
    (r'.Quiet ∧ (r'.roomState = .play → r.roomState = .play)) ∨
      (r.roomState = .wait ∧ r'.roomState = .play) ∨
      r.kind = .single ∧ r.roomState = .play ∧ r'.roomState = .wait ∧ ∃ dest id after,
        r'.out = r.out ++ .send dest [.gameOver id] :: after ∧ ∀ key, received key after = [] := by
  cases h with
  | aside h => exact .inl ⟨h.quiet hq, h.state.symm.trans⟩
  | refused _ _ _ _ h => exact .inl ⟨h.quiet hq, h.state.symm.trans⟩
  | joined _ _ _ _ _ _ h => exact .inl ⟨h.quiet hq, h.state.symm.trans⟩
  | removed _ _ _ h =>
      refine .inl ⟨h.quiet hq, fun hplay => ?_⟩
      rcases h.state with ⟨_, hstate⟩ | ⟨_, hstate⟩
      · exact hstate.symm.trans hplay
      · rw [hstate] at hplay
        exact absurd hplay (by decide)
  | toggled _ h => exact .inl ⟨h.quiet hq, h.state.symm.trans⟩
  | started _ h => exact .inr (.inl ⟨h.wait, h.play⟩)
  | gaveUp hkind hplay hrest hsent =>
      obtain ⟨p, _, owner, after, _, hout, hafter⟩ := hsent
      exact .inr (.inr ⟨hkind, hplay, by rw [hrest]; rfl, p.sessionKey, owner.playerId,
        after, hout, hafter⟩)

theorem single_verdict {r r' : TetrisRoom} {env : RoomEnv} {t : Int} (h : RoomOk r)
    (hserves : env.Serves r (.tick t)) (hkind : r.kind = .single) (hplay : r.roomState = .play)
    (hstep : r.step env (.tick t) = some r') :
    SingleRoom.Verdict env t { r with out := [] } r' := by
  have hs : Seated env ({ r with out := [] } : TetrisRoom).roomPlayers := h.seated hserves
  have hkind₁ := distributeInputs_kind { r with out := [] } env
  have hstep : processRoomTick { r with out := [] } env t = some r' := hstep
  unfold processRoomTick at hstep
  rw [if_neg (fun hc => hc hplay), processGameTick_single (hkind₁.trans hkind)] at hstep
  exact (SingleRoom.processGameTick_verdict t (roomOk_silent h) hs hkind hplay rfl).of_eq_some
    hstep

theorem overInv_step {r r' : TetrisRoom} {env : RoomEnv} {e : RoomEvent} {log : List RoomEffect}
    (hok : RoomOk r) (hserves : env.Serves r e) (hfits : StepFits r env e)
    (hstep : r.step env e = some r') (hsame : ¬ (r.roomState = .wait ∧ r'.roomState = .play))
    (h : OverInv log r) :
    OverInv (log ++ r'.out) r' := by
  have hok₀ := roomOk_silent hok
  have hs : Seated env ({ r with out := [] } : TetrisRoom).roomPlayers := hok.seated hserves
  have hsilent : ({ r with out := [] } : TetrisRoom).Quiet :=
    fun e he => absurd he List.not_mem_nil
  have h₀ : OverInv log { r with out := [] } := ⟨h.final, h.isOut, h.single⟩
  -- an event that says nothing of the game
  have hquiet : r'.Quiet → r'.kind = r.kind → (r'.roomState = .play → r.roomState = .play ∧
      ∀ q ∈ r'.roomPlayers, q.isActive = true → ∃ p ∈ r.roomPlayers, Kept p q) →
      OverInv (log ++ r'.out) r' := by
    intro hquiet hkind hkept
    refine ⟨fun id key => ?_, fun hplay' q hq ha hstate key => ?_, fun hplay' hsingle id key => ?_⟩
    · rw [received_append]
      exact overIsFinal_silent (h.final id key) (packetsFor_received_quiet hquiet id key)
    · obtain ⟨hplay, hkept⟩ := hkept hplay'
      obtain ⟨p, hp, hpq⟩ := hkept q hq ha
      rw [received_append, show q.sessionKey = p.sessionKey from congrArg Prod.fst hpq.seat]
      intro hmem
      rcases List.mem_append.mp hmem with hmem | hmem
      · exact h.isOut hplay p hp ((isActive_of_seat hpq.seat).symm.trans ha)
          (hpq.state hstate) key hmem
      · exact not_gameOver_quiet hquiet _ key hmem
    · rw [received_append]
      intro hmem
      rcases List.mem_append.mp hmem with hmem | hmem
      · exact h.single (hkept hplay').1 (hkind.symm.trans hsingle) id key hmem
      · exact not_gameOver_quiet hquiet _ key hmem
  -- a tick that ends the game
  have hends :
      ∀ {t : Int} {extra : Player → List TaskType} {qs ss : List Player} {r₁ : TetrisRoom},
      r.roomState = .play → TickRun env t { r with out := [] } extra qs ss r₁ → Ended env r₁ r' →
      (∀ s ∈ ss, SaysOver s) → OverInv (log ++ r'.out) r' := by
    intro t extra qs ss r₁ hplay hr hend hspeak
    have hwait := ended_wait hend
    obtain ⟨hfinal, _⟩ := overInv_tick hok₀ hs hplay h₀ hr hspeak
    refine ⟨fun id key => ?_, fun hplay' => ?_, fun hplay' => ?_⟩
    · obtain ⟨out, hnone, rfl⟩ := hend
      have hlast := hfinal id key
      rw [received_append] at hlast ⊢
      rw [show ({ r₁.clearGame env with out := r₁.out ++ out } : TetrisRoom).out = r₁.out ++ out
        from rfl, received_append, hnone key, List.append_nil]
      exact hlast
    · rw [hwait] at hplay'
      exact absurd hplay' (by decide)
    · rw [hwait] at hplay'
      exact absurd hplay' (by decide)
  -- what a slot of a tick brings along
  have hslot :
      ∀ {t : Int} {extra : Player → List TaskType} {qs ss : List Player} {r₁ : TetrisRoom},
      TickRun env t { r with out := [] } extra qs ss r₁ → ∀ s ∈ ss, ∃ q ∈ qs,
        Delivered r₁.tetrominoSpawnList (addTasks q (extra q)) s ∧ q.sendBuffer = [] ∧
        (playing q → ∀ task ∈ q.tetris.sendTasks, task.isEngine = true) := by
    intro t extra qs ss r₁ hr s hmem
    obtain ⟨q, hq, hqs⟩ := hr.delivered.mem hmem
    obtain ⟨p, hp, hpq⟩ := hr.ticked.mem hq
    refine ⟨q, hq, hqs, by rw [hpq.rest]; exact (hok.slots p hp).buffer, fun hplaying => ?_⟩
    exact (hpq.log (hpq.isActive.symm.trans hplaying.2)).engine
  cases (step_ok hok hserves).of_eq_some hstep with
  | handled _ hr =>
      have hkind := kind_handled hr
      rcases handled_says hr hsilent
        with ⟨hq, hplay⟩ | hstart | ⟨hkind, hplay, hwait, dest, id', after, hout, hnone⟩
      · exact hquiet hq hkind fun hplay' =>
          ⟨hplay hplay', fun q hq ha => kept_handled hr (hplay hplay') hplay' hq ha⟩
      · exact absurd hstart hsame
      · refine ⟨fun id key => ?_, fun hplay' => ?_, fun hplay' => ?_⟩
        · -- nobody has been out so far
          rw [received_append]
          refine overIsFinal_append (h.single hplay hkind id key) ?_
          intro l₁ l₂ heq
          have hone : (packetsFor id (received key r'.out)).length ≤ 1 := by
            refine Nat.le_trans (List.length_filter_le _ _) ?_
            rw [hout, show ({ r with out := [] } : TetrisRoom).out = [] from rfl, List.nil_append,
              ← List.singleton_append, received_append, hnone key, List.append_nil]
            simp only [received, List.flatMap_cons, List.flatMap_nil, List.append_nil]
            split <;> simp
          rw [heq] at hone
          simp only [List.length_append, List.length_cons] at hone
          exact List.length_eq_zero_iff.mp (by omega)
        · rw [hwait] at hplay'
          exact absurd hplay' (by decide)
        · rw [hwait] at hplay'
          exact absurd hplay' (by decide)
  | @multi t _ qs ss hkind hplay hbefore _ hr =>
      have hkind₁ := distributeInputs_kind { r with out := [] } env
      have hfits := hfits t rfl hplay
      rw [TickFits, if_neg (by rw [hkind₁]; exact hkind)] at hfits
      have hs₁ : Seated env ({ r with out := [] }.distributeInputs env).roomPlayers := by
        obtain ⟨ps, heq, hps⟩ := distributeInputs_ok { r with out := [] } env
        rw [heq]
        exact hs.of_sameSeats (hps.sameSeats fun p q hpq => hpq.noted.seat)
      have hlast : ∀ q ∈ qs, playing q → OverIsLast q.tetris.sendTasks := fun q hq hplaying =>
        MultiRoom.beforeVerdict_over hs₁ hbefore hfits.1 (by exact hq) hplaying
      cases hr with
      | goesOn hid hr =>
          have hspeak : ∀ s ∈ ss, SaysOver s := by
            intro s hmem
            obtain ⟨q, hq, hqs, hbuffer, hengine⟩ := hslot hr s hmem
            exact saysOver_spawn hbuffer hengine (hlast q hq)
              (fun hplaying hfix => hfits.2 _ hbefore hid q hq hplaying hfix) hqs
          obtain ⟨hfinal, hisOut⟩ := overInv_tick hok₀ hs hplay h₀ hr hspeak
          exact ⟨hfinal,
            fun _ => hisOut, fun _ hsingle => absurd (hr.kind.symm.trans hsingle) hkind⟩
      | ends id hid hne hr _ hend =>
          refine hends hplay hr hend fun s hmem => ?_
          obtain ⟨q, hq, hqs, hbuffer, hengine⟩ := hslot hr s hmem
          refine saysOver_plain hbuffer hengine ?_ (hlast q hq) hqs
          unfold endTasks
          split
          · exact .inr ⟨id, rfl⟩
          · exact .inl rfl
  | @single t _ hkind hplay _ =>
      have hkind₁ := distributeInputs_kind { r with out := [] } env
      have hfits := hfits t rfl hplay
      rw [TickFits, if_pos (hkind₁.trans hkind)] at hfits
      -- neither a fix nor garbage has topped the board out
      have hfit : ∀ {q : Player},
          SingleRoom.beforeVerdict ({ r with out := [] }.distributeInputs env) env t =
          some { r with out := [], playTasks := [], roomPlayers := [q] } → playing (judged q) →
          .gameOver ∉ q.tetris.sendTasks := by
        intro q hbefore hplaying
        obtain ⟨hactive, hstate, _⟩ := judged_fields q
        exact not_mem_of_hasEvent (hfits _ hbefore q (List.mem_singleton_self q)
          ⟨hstate.symm.trans hplaying.1, hactive.symm.trans hplaying.2⟩)
      cases single_verdict hok hserves hkind hplay hstep with
      | idle hr =>
          exact hquiet (hr.quiet hsilent) hr.kind fun _ =>
            ⟨hplay, fun q hq _ => ⟨q, hr.players ▸ hq, .refl q⟩⟩
      | goesOn q ss hbefore hempty hr =>
          have hno : playing (judged q) → .gameOver ∉ (judged q).tetris.sendTasks := by
            intro hplaying
            rw [(judged_fields q).2.2, Tetris.withVerdict_sendTasks, if_pos hempty,
              List.append_nil]
            exact hfit hbefore hplaying
          have hspeak : ∀ s ∈ ss, ∀ id, .gameOver id ∉ s.sendBuffer := by
            intro s hmem
            obtain ⟨q', hq', hqs, hbuffer, _⟩ := hslot hr s hmem
            rw [List.mem_singleton.mp hq'] at hqs hbuffer
            exact noOver_delivered hbuffer (roomAdds_spawnTasks.tasks _) hno hqs
          obtain ⟨hfinal, hisOut⟩ :=
            overInv_tick hok₀ hs hplay h₀ hr fun s hmem => .inGame (hspeak s hmem)
          refine ⟨hfinal, fun _ => hisOut, fun _ _ id key => ?_⟩
          rw [received_append, hr.packets]
          intro hmem
          rcases List.mem_append.mp hmem with hmem | hmem
          · exact h.single hplay hkind id key hmem
          · split at hmem
            · obtain ⟨s, hs, hmem⟩ := List.mem_flatMap.mp hmem
              exact hspeak s (List.mem_filter.mp hs).1 id hmem
            · exact absurd hmem List.not_mem_nil
      | ends q ss hbefore hfull hr hend =>
          refine hends hplay hr hend fun s hmem => ?_
          obtain ⟨q', hq', hqs, hbuffer, hengine⟩ := hslot hr s hmem
          rw [List.mem_singleton.mp hq'] at hqs hbuffer hengine
          refine saysOver_plain hbuffer hengine (.inl rfl) (fun hplaying => ?_) hqs
          rw [(judged_fields q).2.2, Tetris.withVerdict_sendTasks, if_neg hfull]
          exact overIsLast_append (hfit hbefore hplaying)

/-! ## A whole run -/

theorem overInv_sinceStart {log : List RoomEffect} {r : TetrisRoom} (h : SinceStart log r) :
    Reachable r ∧ OverInv log r := by
  induction h with
  | @start r r' h hwait env e hserves hstep hplay =>
      have hok := roomOk_reachable h
      obtain ⟨type, hstarted⟩ := started_step ((step_ok hok hserves).of_eq_some hstep) hwait hplay
      obtain ⟨first, next, out, hfirst, _, hlog, hgot⟩ := hstarted.packets
      -- a game starts with spawns, and nobody is out
      have hnone : ∀ id key, .gameOver id ∉ received key r'.out := by
        intro id key hmem
        rw [hlog, show ({ r with out := [] } : TetrisRoom).out = [] from rfl,
          List.nil_append, hgot] at hmem
        split at hmem
        · rcases List.mem_cons.mp hmem with heq | hmem
          · rw [← heq] at hfirst
            exact absurd hfirst.1 (by simp [S2CPacket.showsGame])
          · obtain ⟨p, _, heq⟩ := List.mem_map.mp hmem
            exact S2CPacket.noConfusion heq
        · exact absurd hmem List.not_mem_nil
      refine ⟨h.step env e hserves hstep, fun id key before after heq => ?_,
        fun _ p _ _ _ key => hnone _ key, fun _ _ => hnone⟩
      have hmem : .gameOver id ∈ packetsFor id (received key r'.out) := by
        rw [heq]
        simp
      exact absurd (List.mem_filter.mp hmem).1 (hnone id key)
  | step _ env e hserves hfits hstep hsame ih =>
      exact ⟨ih.1.step env e hserves hstep,
        overInv_step (roomOk_reachable ih.1) hserves hfits hstep hsame ih.2⟩

/--
**Nothing follows a player's `S2C_GAME_OVER`** until the next game starts, whoever
listens, as long as no tick tops out a board it goes on with: no fix does, no garbage does
where a piece has been fixed in the same tick, and nothing does in a room for one player.
-/
theorem gameOver_final {log : List RoomEffect} {r : TetrisRoom} (h : SinceStart log r) (id : Int)
    (key : SessionKey) : OverIsFinal id (received key log) :=
  (overInv_sinceStart h).2.final id key

/-- One event after the other, each of them fitting, with everything that is sent. -/
def fittingLog (keys : List SessionKey) :
    List RoomEffect → TetrisRoom → List RoomEvent → Option (List RoomEffect × TetrisRoom)
  | log, r, [] => some (log, r)
  | log, r, e :: rest =>
      if AllOf keys r ∧ r.roomState = .play ∧ StepFits r (worldOf keys) e then
        (r.step (worldOf keys) e).bind fun r' => fittingLog keys (log ++ r'.out) r' rest
      else none

theorem fittingLog_sinceStart {keys : List SessionKey}
    (hkeys : keys.Pairwise fun k k' => k.playerId ≠ k'.playerId) :
    ∀ {es : List RoomEvent} {log log' : List RoomEffect} {r r' : TetrisRoom}, SinceStart log r →
      fittingLog keys log r es = some (log', r') → SinceStart log' r'
  | [], log, log', r, r', hr, h => by
      cases h
      exact hr
  | e :: rest, log, log', r, r', hr, h => by
      rw [fittingLog] at h
      split at h
      · rename_i hfits
        obtain ⟨hall, hplay, hfits⟩ := hfits
        obtain ⟨r₁, hstep, h⟩ := Option.bind_eq_some_iff.mp h
        exact fittingLog_sinceStart hkeys
          (hr.step _ e (scenarioEnv_serves .room 0 hkeys hall) hfits hstep
            fun hc => absurd (hplay.symm.trans hc.1) (by decide)) h
      · exact absurd h (by simp)

/--
The last guest's eleven pieces fill his columns to the top of what is shown; the garbage
of the tick after lifts them out of it. The two others play on.
-/
def garbageOnTop : List RoomEvent :=
  ((List.range 11).flatMap fun n => [.input ⟨EventType.drop.toInt, 3, 1⟩,
    .tick (900 * (n + 1))]) ++
    [.tick 10000, .input ⟨EventType.drop.toInt, 1, 1⟩, .tick 10600]

/-- A game of three goes on without the guest whom garbage has topped out. -/
theorem gameOver_final_onGarbage : ∃ log r, SinceStart log r ∧ r.roomState = .play ∧
    .gameOver 3 ∈ received hostKey log ∧ OverIsFinal 3 (received hostKey log) := by
  let keys := [hostKey, guestKey, thirdKey]
  have hrun : ((gathering .five hostKey [guestKey, thirdKey]).any fun r₀ =>
      decide (AllOf keys r₀ ∧ r₀.roomState = .wait) &&
      (r₀.step (worldOf keys) (taskOf hostKey .start)).any fun r₁ =>
        decide (r₁.roomState = .play) &&
        (fittingLog keys r₁.out r₁ garbageOnTop).any fun res =>
          decide (res.2.roomState = .play ∧ S2CPacket.gameOver 3 ∈ received hostKey res.1)) =
            true := by
    decide +kernel
  simp only [Option.any_eq_true, Bool.and_eq_true, decide_eq_true_eq] at hrun
  obtain ⟨r₀, hr₀, ⟨hall, hwait⟩, r₁, hstart, hplay, ⟨log, r⟩, hlog, hplaying, hmem⟩ := hrun
  have hreach : Reachable r₀ := scenario_reachable (by decide)
    (.created (scenarioRoom_created .five (by decide))) hr₀
  have hsince : SinceStart log r := fittingLog_sinceStart (by decide)
    (.start hreach hwait _ _ (scenarioEnv_serves .room 0 (by decide) hall) hstart hplay) hlog
  exact ⟨log, r, hsince, hplaying, hmem, gameOver_final hsince 3 hostKey⟩

/-- The host drops one piece after the other, eight in all; the eighth tops him out. -/
def eightDrops : List RoomEvent :=
  (List.range 8).flatMap fun n => [.input ⟨EventType.drop.toInt, 1, 1⟩, .tick (20000 * (n + 1))]

/-- **He is out, and the next piece is his**: a game of three, as a guest sees it. -/
theorem gameOver_then_spawn :
    ∃ log r, GameLog log r ∧ ¬ OverIsFinal 1 (received guestKey log) := by
  let keys := [hostKey, guestKey, thirdKey]
  have hrun : ((gathering .five hostKey [guestKey, thirdKey]).any fun r₀ =>
      decide (AllOf keys r₀ ∧ r₀.roomState = .wait) &&
      (r₀.step (worldOf keys) (taskOf hostKey .start)).any fun r₁ =>
        decide (r₁.roomState = .play) &&
        (logOn keys r₁.out r₁ eightDrops).any fun res =>
          decide ((packetsFor 1 (received guestKey res.1)).getLast? ≠ some (.gameOver 1) ∧
            S2CPacket.gameOver 1 ∈ packetsFor 1 (received guestKey res.1))) = true := by
    decide +kernel
  simp only [Option.any_eq_true, Bool.and_eq_true, decide_eq_true_eq] at hrun
  obtain ⟨r₀, hr₀, ⟨hall, hwait⟩, r₁, hstart, hplay, ⟨log, r⟩, hlog, hlast, hmem⟩ := hrun
  have hreach : Reachable r₀ := scenario_reachable (by decide)
    (.created (scenarioRoom_created .five (by decide))) hr₀
  have hgame : GameLog log r := logOn_gameLog (by decide)
    (.start hreach hwait _ _ (scenarioEnv_serves .room 0 (by decide) hall) hstart hplay) hlog
  refine ⟨log, r, hgame, fun hfinal => ?_⟩
  obtain ⟨before, after, heq⟩ := List.append_of_mem hmem
  have hnil := hfinal before after heq
  rw [heq, hnil] at hlast
  exact hlast (List.getLast?_concat ..)

end TetrisRoom

end ProjectTetris

import ProjectTetris.Rooms.VeiledEvents

/-!
# A tick keeps the veil

The tick feeds everybody's engine. What it takes from the engines, the attacks, the
garbage, the spawns and the packets, it takes from players in `PLAY` only; each of these
steps has its own test for that.
-/

namespace ProjectTetris

open Checked

namespace TetrisRoom

namespace Alike

variable {keep : PlayerInputTask → Bool} {r r' a b : TetrisRoom} {env : RoomEnv}

/-! ## The engines -/

theorem updatePrevPlayerStates (h : Alike keep r r') :
    Alike keep (MultiRoom.updatePrevPlayerStates r env)
      (MultiRoom.updatePrevPlayerStates r' env) := by
  have hstate : r.roomState = r'.roomState := h.read (·.roomState) fun _ => rfl
  unfold MultiRoom.updatePrevPlayerStates
  rw [← hstate]
  split
  · exact h
  · refine h.forSessions env fun p t hp => ?_
    exact Player.veil_tetris (p := { p with prevRoomPlayerState := p.roomPlayerState }) t hp

/-- A loop over the slots that may fail. -/
theorem mapM (h : Alike keep r r') {f : Player → Option Player} {ps qs : List Player}
    (hf : ∀ p q p' q', p.veil = q.veil → f p = some p' → f q = some q' → p'.veil = q'.veil)
    (hps : r.roomPlayers.mapM f = some ps) (hqs : r'.roomPlayers.mapM f = some qs) :
    Alike keep { r with roomPlayers := ps } { r' with roomPlayers := qs } := by
  have hslots := mapM_veil h.players hf hps hqs
  obtain ⟨tasks, ps', htasks, rfl⟩ := h.exists_eq
  exact intro (r := { r with roomPlayers := ps }) htasks hslots

theorem processTicks (h : Alike keep r r') {t : Int} (ha : r.processTicks env t = some a)
    (hb : r'.processTicks env t = some b) : Alike keep a b := by
  obtain ⟨ps, hps, ha⟩ := Option.bind_eq_some_iff.mp ha
  obtain ⟨qs, hqs, hb⟩ := Option.bind_eq_some_iff.mp hb
  cases ha
  cases hb
  refine h.mapM (fun p q p' q' hpq hp hq => ?_) hps hqs
  rcases Player.veil_cases hpq with rfl | ⟨hplay, heq⟩
  · rw [hp] at hq
    rw [Option.some.inj hq]
  · -- nobody plays: whatever the two engines do stays in the engine
    have hrest : ∀ {x x' : Player}, processTickOf env t x = some x' →
        x' = { x with tetris := x'.tetris } := by
      intro x x' hx
      unfold processTickOf at hx
      split at hx
      · obtain ⟨s, _, hx⟩ := Option.bind_eq_some_iff.mp hx
        cases hx
        rfl
      · cases hx
        rfl
    rw [hrest hp, hrest hq, heq, Player.veil_tetris _ hplay]
    exact (Player.veil_tetris _ hplay).symm

theorem addGarbageLines (h : Alike keep r r') (ha : r.addGarbageLines env = some a)
    (hb : r'.addGarbageLines env = some b) :
    Alike keep a b := by
  obtain ⟨ps, hps, ha⟩ := Option.bind_eq_some_iff.mp ha
  obtain ⟨qs, hqs, hb⟩ := Option.bind_eq_some_iff.mp hb
  cases ha
  cases hb
  refine h.mapM (fun p q p' q' hpq hp hq => ?_) hps hqs
  rcases Player.veil_cases hpq with rfl | ⟨hplay, heq⟩
  · rw [hp] at hq
    rw [Option.some.inj hq]
  · have hskip : ∀ {x x' : Player}, x.roomPlayerState ≠ .play → addGarbageLinesTo env x = some x' →
        x' = x := by
      intro x x' hx h
      unfold addGarbageLinesTo at h
      rw [if_neg fun hc => hx hc.2] at h
      exact (Option.some.inj h).symm
    rw [hskip hplay hp, hskip (heq ▸ hplay) hq, hpq]

/-! ## Attacks -/

theorem inPlay_veil {p q : Player} (h : p.veil = q.veil) :
    MultiRoom.inPlay p = MultiRoom.inPlay q :=
  Player.read_veil (fun _ _ => rfl) h

theorem attackOf (h : Alike keep r r') (i : Nat) :
    MultiRoom.attackOf r i = MultiRoom.attackOf r' i := by
  unfold MultiRoom.attackOf
  rcases h.slot i with ⟨hp, hq⟩ | ⟨p, q, hp, hq, hpq⟩
  · rw [hp, hq]
  · rw [hp, hq]
    dsimp only
    rcases Player.veil_cases hpq with rfl | ⟨hplay, heq⟩
    · rfl
    · have hout : MultiRoom.inPlay p = false := by simp [MultiRoom.inPlay, hplay]
      rw [← inPlay_veil hpq, hout]
      rfl

theorem attackFrom (h : Alike keep r r') (i : Nat) :
    Alike keep (MultiRoom.attackFrom r i) (MultiRoom.attackFrom r' i) := by
  have hlines := h.attackOf i
  have hslot := h.slot
  obtain ⟨tasks, ps, htasks, rfl⟩ := h.exists_eq
  unfold MultiRoom.attackFrom
  rw [← hlines]
  dsimp only at hslot ⊢
  refine intro (r := { r with roomPlayers := _ }) htasks ?_
  refine List.ext_getElem? fun j => ?_
  simp only [List.getElem?_map, List.getElem?_mapIdx]
  rcases hslot j with ⟨hp, hq⟩ | ⟨p, q, hp, hq, hpq⟩
  · rw [hp, hq]
  · rw [hp, hq]
    simp only [Option.map_some, Option.some.injEq]
    rw [← inPlay_veil hpq]
    split
    · rename_i hc
      rcases Player.veil_cases hpq with rfl | ⟨hplay, _⟩
      · rfl
      · exact absurd hc.1 (by simp [MultiRoom.inPlay, hplay])
    · exact hpq

theorem distributeGarbageLines (h : Alike keep r r') :
    Alike keep (MultiRoom.distributeGarbageLines r) (MultiRoom.distributeGarbageLines r') := by
  have hloop : ∀ (is : List Nat) {r r' : TetrisRoom}, Alike keep r r' →
      Alike keep (is.foldl MultiRoom.attackFrom r) (is.foldl MultiRoom.attackFrom r') := by
    intro is
    induction is with
    | nil => exact fun h => h
    | cons i is ih => exact fun h => ih (h.attackFrom i)
  unfold MultiRoom.distributeGarbageLines
  rw [← h.length]
  exact hloop _ h

theorem beforeVerdict (h : Alike keep r r') {t : Int}
    (ha : MultiRoom.beforeVerdict r env t = some a)
    (hb : MultiRoom.beforeVerdict r' env t = some b) : Alike keep a b := by
  obtain ⟨a₁, ha₁, ha⟩ := Option.bind_eq_some_iff.mp ha
  obtain ⟨b₁, hb₁, hb⟩ := Option.bind_eq_some_iff.mp hb
  exact ((h.updatePrevPlayerStates.processTicks ha₁ hb₁).distributeGarbageLines).addGarbageLines ha
    hb

/-! ## The verdict -/

theorem newWinnerId (h : Alike keep r r') :
    MultiRoom.newWinnerId r env = MultiRoom.newWinnerId r' env := by
  refine h.read (fun r => MultiRoom.newWinnerId r env) fun r => ?_
  have hsurvivors : (MultiRoom.survivors (r.veil keep) env).length =
      (MultiRoom.survivors r env).length := by
    simp only [MultiRoom.survivors, veil, List.filter_map, List.length_map]
    congr 2
    funext p
    simp [findSession_veil]
  have hfind : ∀ f : Player → Bool, (∀ p, f p.veil = f p) →
      ((r.veil keep).roomPlayers.find? f).bind (findSession env) =
        (r.roomPlayers.find? f).bind (findSession env) := by
    intro f hf
    have hcomp : f ∘ Player.veil = f := funext hf
    simp only [veil, List.find?_map, hcomp]
    cases r.roomPlayers.find? f with
    | none => rfl
    | some p => exact findSession_veil env p
  unfold MultiRoom.newWinnerId
  rw [hsurvivors]
  dsimp only
  split
  · rw [hfind _ fun p => by simp [MultiRoom.drawnWinner, findSession_veil]]
  · rw [hfind _ fun p => by simp [findSession_veil]]
  · rfl

theorem resolveWinner (h : Alike keep r r') (env : RoomEnv) :
    Alike keep (MultiRoom.resolveWinner r env).1 (MultiRoom.resolveWinner r' env).1 ∧
      (MultiRoom.resolveWinner r env).2 = (MultiRoom.resolveWinner r' env).2 := by
  unfold MultiRoom.resolveWinner
  rw [← h.newWinnerId]
  dsimp only
  split
  · exact ⟨h, rfl⟩
  · refine ⟨?_, rfl⟩
    refine (h.update (u := fun x => { x with winnerId := MultiRoom.newWinnerId r env }) fun _ =>
      rfl).forSessions env fun p t hp => ?_
    exact (Player.veil_tetris _ hp).trans (Player.veil_tetris _ hp).symm

theorem addSpawnTasks (h : Alike keep r r') : Alike keep r.addSpawnTasks r'.addSpawnTasks := by
  have hslots := map_veil (f := addSpawnTask) (g := addSpawnTask) h.players fun p _ q _ hpq => by
    rcases Player.veil_cases hpq with rfl | ⟨hplay, heq⟩
    · rfl
    · have hskip : ∀ {x : Player}, x.roomPlayerState ≠ .play → addSpawnTask x = x := by
        intro x hx
        unfold addSpawnTask
        exact if_neg fun hc => hx hc.2.1
      rw [hskip hplay, hskip (heq ▸ hplay), hpq]
  obtain ⟨tasks, ps, htasks, rfl⟩ := h.exists_eq
  exact intro (r := { r with roomPlayers := _ }) htasks hslots

/-! ## Packets -/

theorem spawnTetromino (h : Alike keep r r') (playerId : Int) {x y : TetrisRoom × Bool}
    (hx : r.spawnTetromino env playerId = some x) (hy : r'.spawnTetromino env playerId = some y) :
    Alike keep x.1 y.1 ∧ x.2 = y.2 := by
  have hfind : (r.roomPlayers.findIdx? fun p => (findSession env p).any (·.playerId = playerId))
      = r'.roomPlayers.findIdx? fun p => (findSession env p).any (·.playerId = playerId) :=
    find_veil h.players fun p => by rw [findSession_veil]
  have hlist : r.tetrominoSpawnList = r'.tetrominoSpawnList :=
    h.read (·.tetrominoSpawnList) fun _ => rfl
  unfold TetrisRoom.spawnTetromino at hx hy
  rw [← hfind, ← hlist] at hy
  cases hi : r.roomPlayers.findIdx? fun p => (findSession env p).any (·.playerId = playerId) with
  | none =>
      rw [hi] at hx hy
      cases hx
      cases hy
      exact ⟨h, rfl⟩
  | some i =>
      rw [hi] at hx hy
      dsimp only at hx hy
      rcases h.slot i with ⟨hp, hq⟩ | ⟨p, q, hp, hq, hpq⟩
      · rw [hp] at hx
        cases hx
      · rw [hp, Option.bind_eq_bind, Option.bind_some] at hx
        rw [hq, Option.bind_eq_bind, Option.bind_some] at hy
        obtain ⟨p', hp', hx⟩ := Option.bind_eq_some_iff.mp hx
        obtain ⟨q', hq', hy⟩ := Option.bind_eq_some_iff.mp hy
        cases hx
        cases hy
        refine ⟨h.modify i fun _ _ _ => ?_, rfl⟩
        obtain ⟨type, htype, hp'⟩ := Option.bind_eq_some_iff.mp hp'
        obtain ⟨type', htype', hq'⟩ := Option.bind_eq_some_iff.mp hq'
        cases hp'
        cases hq'
        rcases Player.veil_cases hpq with rfl | ⟨hplay, heq⟩
        · rw [htype] at htype'
          rw [Option.some.inj htype']
        · rw [heq, Player.veil_tetris _ hplay]
          exact (Player.veil_tetris _ hplay).symm

theorem applySendTaskState (h : Alike keep r r') (i : Nat) (playerId : Int) (task : TaskType)
    {x y : TetrisRoom × Bool} (hx : r.applySendTaskState env i playerId task = some x)
    (hy : r'.applySendTaskState env i playerId task = some y) :
    Alike keep x.1 y.1 ∧ x.2 = y.2 := by
  cases task with
  | spawn =>
      have hlist : r.tetrominoSpawnList = r'.tetrominoSpawnList :=
        h.read (·.tetrominoSpawnList) fun _ => rfl
      rcases h.slot i with ⟨hp, hq⟩ | ⟨p, q, hp, hq, hpq⟩
      · rw [TetrisRoom.applySendTaskState, hp] at hx
        cases hx
      · rw [TetrisRoom.applySendTaskState, hp, Option.bind_eq_bind, Option.bind_some] at hx
        rw [TetrisRoom.applySendTaskState, hq, Option.bind_eq_bind, Option.bind_some, ← hlist,
          ← Player.read_veil (f := Player.tetrominoIndex) (fun _ _ => rfl) hpq] at hy
        have hbag : Alike keep (if p.tetrominoIndex + 2 = r.tetrominoSpawnList.length then
            r.appendTetromino7Bag env else r)
            (if p.tetrominoIndex + 2 = r.tetrominoSpawnList.length then
              r'.appendTetromino7Bag env else r') := by
          split
          · exact h.update (u := fun r => r.appendTetromino7Bag env) fun _ => rfl
          · exact h
        refine spawnTetromino (hbag.modify i fun p q hpq => ?_) playerId hx hy
        exact Player.veil_congr (f := fun p => { p with tetrominoIndex := p.tetrominoIndex + 1 })
          (fun p t hp =>
            Player.veil_tetris (p := { p with tetrominoIndex := p.tetrominoIndex + 1 }) t hp) hpq
  | gameOver =>
      cases hx
      cases hy
      refine ⟨h.modify i fun p q hpq => ?_, rfl⟩
      exact Player.veil_congr (f := fun p => { p with roomPlayerState := .gameOver })
        (fun _ _ _ => rfl) hpq
  | move | fix | clearLine | addLine | gameEnd =>
      cases hx
      cases hy
      exact ⟨h, rfl⟩

theorem appendTasks (i : Nat) (playerId : Int) (key : SessionKey)
    {x y : TetrisRoom × AppendResult} :
    ∀ {tasks : List TaskType} {r r' : TetrisRoom}, Alike keep r r' →
      TetrisRoom.appendTasks env i playerId key r tasks = some x →
      TetrisRoom.appendTasks env i playerId key r' tasks = some y →
      Alike keep x.1 y.1 ∧ x.2 = y.2 := by
  intro tasks
  induction tasks with
  | nil =>
      intro r r' h hx hy
      cases hx
      cases hy
      exact ⟨h, rfl⟩
  | cons task rest ih =>
      intro r r' h hx hy
      obtain ⟨⟨r₁, goOn⟩, hr₁, hx⟩ := Option.bind_eq_some_iff.mp hx
      obtain ⟨⟨r₁', goOn'⟩, hr₁', hy⟩ := Option.bind_eq_some_iff.mp hy
      obtain ⟨h₁, hgoOn⟩ := h.applySendTaskState i playerId task hr₁ hr₁'
      dsimp only at h₁ hgoOn
      subst hgoOn
      dsimp only at hx hy
      cases goOn with
      | false => exact ih h₁ hx hy
      | true =>
          rw [if_pos rfl] at hx hy
          rcases h₁.slot i with ⟨hp, hq⟩ | ⟨p, q, hp, hq, hpq⟩
          · rw [hp] at hx
            cases hx
          · have hlist : r₁.tetrominoSpawnList = r₁'.tetrominoSpawnList :=
              h₁.read (·.tetrominoSpawnList) fun _ => rfl
            -- the packet is made of the task and of what the veil leaves in sight
            have hpacket : tickPacket r₁.tetrominoSpawnList p playerId task
                = tickPacket r₁'.tetrominoSpawnList q playerId task := by
              rw [← hlist]
              exact Player.read_veil
                (f := fun p => tickPacket r₁.tetrominoSpawnList p playerId task)
                (fun _ _ => by cases task <;> rfl) hpq
            rw [hp, Option.bind_eq_bind, Option.bind_some] at hx
            rw [hq, Option.bind_eq_bind, Option.bind_some, ← hpacket] at hy
            obtain ⟨packet, hpacket, hx⟩ := Option.bind_eq_some_iff.mp hx
            rw [hpacket, Option.bind_eq_bind, Option.bind_some] at hy
            have hsize : p.sendDataSize = q.sendDataSize := Player.read_veil (fun _ _ => rfl) hpq
            have hadd : ∀ (a : Player) (t : Tetris), a.roomPlayerState ≠ .play →
                ({ a with tetris := t, sendBuffer := a.sendBuffer ++ [packet] } : Player).veil
                  = ({ a with sendBuffer := a.sendBuffer ++ [packet] } : Player).veil :=
                  fun a t ha =>
              Player.veil_tetris (p := { a with sendBuffer := a.sendBuffer ++ [packet] }) t ha
            -- both buffers are equally full
            unfold Player.addToSendBuffer at hx hy
            rw [← hsize] at hy
            split at hx
            · rename_i hc
              split at hc
              · rename_i hfull
                rw [if_pos hfull] at hy
                cases hx
                cases hy
                exact ⟨h₁, rfl⟩
              · cases hc
            · rename_i p' hc
              split at hc
              · cases hc
              · rename_i hfits
                rw [if_neg hfits] at hy
                cases hc
                refine ih (h₁.modify i fun _ _ _ => ?_) hx hy
                exact Player.veil_congr
                  (f := fun p => { p with sendBuffer := p.sendBuffer ++ [packet] }) hadd hpq

theorem appendSlotPackets (h : Alike keep r r') (i : Nat) {x y : TetrisRoom × AppendResult}
    (hx : r.appendSlotPackets env i = some x) (hy : r'.appendSlotPackets env i = some y) :
    Alike keep x.1 y.1 ∧ x.2 = y.2 := by
  unfold TetrisRoom.appendSlotPackets at hx hy
  rcases h.slot i with ⟨hp, hq⟩ | ⟨p, q, hp, hq, hpq⟩
  · rw [hp] at hx
    rw [hq] at hy
    cases hx
    cases hy
    exact ⟨h, rfl⟩
  · rw [hp] at hx
    rw [hq] at hy
    rcases Player.veil_cases hpq with rfl | ⟨hplay, heq⟩
    · dsimp only at hx hy
      split at hx
      · rename_i hc
        rw [if_pos hc] at hy
        cases hx
        cases hy
        exact ⟨h, rfl⟩
      · rename_i hc
        rw [if_neg hc] at hy
        cases hfound : findSession env p with
        | none =>
            rw [hfound] at hx hy
            cases hx
            cases hy
            exact ⟨h, rfl⟩
        | some v =>
            rw [hfound] at hx hy
            exact appendTasks i v.playerId p.sessionKey h hx hy
    · dsimp only at hx hy
      rw [if_pos hplay] at hx
      rw [if_pos (heq ▸ hplay)] at hy
      cases hx
      cases hy
      exact ⟨h, rfl⟩

theorem appendFrom {x y : TetrisRoom × AppendResult} :
    ∀ {is : List Nat} {r r' : TetrisRoom}, Alike keep r r' →
    TetrisRoom.appendFrom env is r = some x → TetrisRoom.appendFrom env is r' = some y →
    Alike keep x.1 y.1 ∧ x.2 = y.2 := by
  intro is
  induction is with
  | nil =>
      intro r r' h hx hy
      cases hx
      cases hy
      exact ⟨h, rfl⟩
  | cons i rest ih =>
      intro r r' h hx hy
      obtain ⟨⟨r₁, result⟩, hr₁, hx⟩ := Option.bind_eq_some_iff.mp hx
      obtain ⟨⟨r₁', result'⟩, hr₁', hy⟩ := Option.bind_eq_some_iff.mp hy
      obtain ⟨h₁, hresult⟩ := h.appendSlotPackets i hr₁ hr₁'
      dsimp only at h₁ hresult
      subst hresult
      cases result with
      | done => exact ih h₁ hx hy
      | failed key =>
          cases hx
          cases hy
          exact ⟨h₁, rfl⟩

/-- What a gathering loop sends, it sends on both sides. -/
theorem gather (env : RoomEnv) :
    ∀ {ps qs : List Player} {r r' : TetrisRoom} (buffer : List S2CPacket), Alike keep r r' →
    ps.map Player.veil = qs.map Player.veil →
    Alike keep (TetrisRoom.gather env r ps buffer).1 (TetrisRoom.gather env r' qs buffer).1 ∧
      (TetrisRoom.gather env r ps buffer).2 = (TetrisRoom.gather env r' qs buffer).2 := by
  intro ps
  induction ps with
  | nil =>
      intro qs r r' buffer h hslots
      obtain rfl : qs = [] := by simpa using hslots.symm
      exact ⟨h, rfl⟩
  | cons p ps ih =>
      intro qs r r' buffer h hslots
      cases qs with
      | nil => simp at hslots
      | cons q qs =>
          rw [List.map_cons, List.map_cons, List.cons.injEq] at hslots
          obtain ⟨hpq, hslots⟩ := hslots
          have hsession : findSession env p = findSession env q :=
            Player.read_veil (fun _ _ => rfl) hpq
          have hsize : p.sendDataSize = q.sendDataSize := Player.read_veil (fun _ _ => rfl) hpq
          have hbuffer : p.sendBuffer = q.sendBuffer := Player.read_veil (fun _ _ => rfl) hpq
          unfold TetrisRoom.gather
          rw [← hsession, ← hsize, ← hbuffer]
          split
          · exact ih _ h hslots
          split
          · exact ih _ (h.sendAll env buffer) hslots
          · exact ih _ h hslots

theorem broadcastPackets (h : Alike keep r r') (env : RoomEnv) :
    Alike keep (r.broadcastPackets env) (r'.broadcastPackets env) := by
  obtain ⟨hsent, hbuffer⟩ := gather env [] h h.players
  unfold TetrisRoom.broadcastPackets
  dsimp only
  rw [← hbuffer]
  refine forSessions ?_ env fun p t hp => Player.veil_tetris (p := p.clearSendBuffer) t hp
  split
  · exact hsent.sendAll env _
  · exact hsent

/-! ## The tick -/

theorem clearGame (h : Alike keep r r') : Alike keep (r.clearGame env) (r'.clearGame env) := by
  refine (h.update
    (u := fun x => { (x.storeRoomState .wait).clearPlayTasks with tetrominoSpawnList := [] })
    fun _ => rfl).forSessions env fun p t _ => rfl

theorem finishTick (h : Alike keep r r') (isGameEnd : Bool) :
    Alike keep (MultiRoom.finishTick r env isGameEnd) (MultiRoom.finishTick r' env isGameEnd) := by
  have hreset : Alike keep (r.resetPlayerTickState env) (r'.resetPlayerTickState env) := by
    refine h.forSessions env fun p t hp => ?_
    exact (Player.veil_tetris _ hp).trans (Player.veil_tetris _ hp).symm
  have hsent := hreset.broadcastPackets env
  have hwinner := hsent.read (·.winnerId) fun _ => rfl
  have hrecord :
      Alike keep
      (MultiRoom.requestUpdateMatchResult ((r.resetPlayerTickState env).broadcastPackets env) env)
      (MultiRoom.requestUpdateMatchResult
        ((r'.resetPlayerTickState env).broadcastPackets env) env) := by
    unfold MultiRoom.requestUpdateMatchResult
    dsimp only at hwinner ⊢
    rw [← hsent.targets env, ← hwinner]
    exact hsent.emit _
  unfold MultiRoom.finishTick
  dsimp only
  split
  · split
    · exact hsent.clearGame
    · exact hrecord.clearGame
  · exact hsent

/-- **A tick does the same to two rooms with the same veil.** -/
theorem processGameTick (h : Alike keep r r') {t : Int}
    (ha : MultiRoom.processGameTick r env t = some a)
    (hb : MultiRoom.processGameTick r' env t = some b) : Alike keep a b := by
  obtain ⟨r₁, hr₁, ha⟩ := Option.bind_eq_some_iff.mp ha
  obtain ⟨r₁', hr₁', hb⟩ := Option.bind_eq_some_iff.mp hb
  have h₁ := h.beforeVerdict hr₁ hr₁'
  obtain ⟨h₂, hend⟩ := h₁.resolveWinner env
  dsimp only at ha hb
  rw [← hend] at hb
  have h₃ : Alike keep
      (if (MultiRoom.resolveWinner r₁ env).2 then (MultiRoom.resolveWinner r₁ env).1
        else (MultiRoom.resolveWinner r₁ env).1.addSpawnTasks)
      (if (MultiRoom.resolveWinner r₁ env).2 then (MultiRoom.resolveWinner r₁' env).1
        else (MultiRoom.resolveWinner r₁' env).1.addSpawnTasks) := by
    split
    · exact h₂
    · exact h₂.addSpawnTasks
  obtain ⟨⟨r₄, result⟩, hr₄, ha⟩ := Option.bind_eq_some_iff.mp ha
  obtain ⟨⟨r₄', result'⟩, hr₄', hb⟩ := Option.bind_eq_some_iff.mp hb
  unfold appendTickPackets at hr₄ hr₄'
  rw [← h₃.length] at hr₄'
  obtain ⟨h₄, hresult⟩ := appendFrom h₃ hr₄ hr₄'
  dsimp only at h₄ hresult
  subst hresult
  cases result with
  | done =>
      cases ha
      cases hb
      exact h₄.finishTick _
  | failed key =>
      cases ha
      cases hb
      obtain ⟨tasks, ps, htasks, rfl⟩ := h₄.exists_eq
      unfold addRoomTask
      dsimp only
      split
      · exact h₄
      · exact h₄.update
          (u := fun x => { x with roomTasks := x.roomTasks ++ [⟨.removePlayer, key, "", -1, -1⟩] })
          fun _ => rfl

end Alike

end TetrisRoom

end ProjectTetris

import ProjectTetris.Rooms.Carrying
import ProjectTetris.Rooms.Inputs
import ProjectTetris.Rooms.GameSteps

/-!
# The queue of inputs, from packet to tick

`HandlePacket` queues a `C2S_MOVE` only while a game is on, under the number of that game.
The queue is emptied by every tick and by all that ends a game, and a game starts in a room
that waits. So whatever is queued belongs to the game that is on.
-/

namespace ProjectTetris

namespace TetrisRoom

/-- `HandlePacket` with a `C2S_MOVE`, read from the queue of the session with this key. -/
def handleMove (r : TetrisRoom) (env : RoomEnv) (key : SessionKey) (moveType : Int) : TetrisRoom :=
  match env.findSession key with
  | none => r
  | some v =>
      if !r.isPlayerInRoom v then r
      else if r.roomState ≠ .play then r
      else r.addPlayTask ⟨moveType, v.playerId, r.playGeneration⟩

end TetrisRoom

/-- What can happen to a room whose inputs come from packets only. -/
inductive RoomAction where
  | task (task : RoomTask)
  | leavePacket (key : SessionKey)
  | movePacket (key : SessionKey) (moveType : Int)
  | tick (tickTimeMs : Int)

/-- What the action is to the room `r`. -/
def RoomAction.event (r : TetrisRoom) : RoomAction → RoomEvent
  | .task roomTask => .task roomTask
  | .leavePacket key => .leavePacket key
  | .movePacket key moveType => .input ⟨moveType, key.playerId, r.playGeneration⟩
  | .tick t => .tick t

namespace TetrisRoom

def act (r : TetrisRoom) (env : RoomEnv) : RoomAction → Option TetrisRoom
  | .task task => r.step env (.task task)
  | .leavePacket key => r.step env (.leavePacket key)
  | .movePacket key moveType => some ({ r with out := [] }.handleMove env key moveType)
  | .tick t => r.step env (.tick t)

/-- The rooms a run of such actions can reach. -/
inductive Received : TetrisRoom → Prop
  | created {r : TetrisRoom} (h : Created r) : Received r
  | act {r r' : TetrisRoom} (h : Received r) (env : RoomEnv) (a : RoomAction)
      (hserves : env.Serves r (a.event r))
      (hact : r.act env a = some r') : Received r'

variable {r a b c : TetrisRoom} {env : RoomEnv}

theorem handleMove_unknown {key : SessionKey} (hv : env.findSession key = none) (moveType : Int) :
    r.handleMove env key moveType = r := by
  unfold handleMove
  rw [hv]

theorem handleMove_found {key : SessionKey} {v : SessionView} (hv : env.findSession key = some v)
    (moveType : Int) :
    r.handleMove env key moveType =
      if r.isPlayerInRoom v = true ∧ r.roomState = .play then
        r.addPlayTask ⟨moveType, v.playerId, r.playGeneration⟩
      else r := by
  unfold handleMove
  rw [hv]
  dsimp only
  by_cases hin : r.isPlayerInRoom v = true
  · by_cases hplay : r.roomState = .play
    · rw [if_neg (by simp [hin]), if_neg (fun hc => hc hplay), if_pos ⟨hin, hplay⟩]
    · rw [if_neg (by simp [hin]), if_pos hplay, if_neg (fun hc => hplay hc.2)]
  · rw [if_pos (by simp [hin]), if_neg (fun hc => hin hc.1)]

/-- A move is refused, or queued for the game that is on. -/
theorem handleMove_cases (r : TetrisRoom) (env : RoomEnv) (key : SessionKey) (moveType : Int) :
    r.handleMove env key moveType = r ∨ (r.roomState = .play ∧ ∃ v, env.findSession key = some v ∧
      r.handleMove env key moveType = r.addPlayTask ⟨moveType, v.playerId, r.playGeneration⟩) := by
  cases hv : env.findSession key with
  | none => exact .inl (handleMove_unknown hv moveType)
  | some v =>
      rw [handleMove_found hv]
      split
      · rename_i hc
        exact .inr ⟨hc.2, v, rfl, rfl⟩
      · exact .inl rfl

/-- Every input is served alike: the room looks up nobody for it. -/
theorem serves_input {task : PlayerInputTask} (h : env.Serves r (.input task))
    (task' : PlayerInputTask) :
    env.Serves r (.input task') := ⟨h.found, h.account, h.single⟩

/-- A connection number that no session in the room has. -/
theorem exists_stranger (r : TetrisRoom) :
    ∃ n : Nat, ∀ p ∈ r.roomPlayers, p.sessionKey.sessionId < n := by
  induction r.roomPlayers with
  | nil => exact ⟨0, fun p hp => absurd hp List.not_mem_nil⟩
  | cons p ps ih =>
      obtain ⟨n, hn⟩ := ih
      refine ⟨max n (p.sessionKey.sessionId + 1), fun q hq => ?_⟩
      rcases List.mem_cons.mp hq with rfl | hq
      · omega
      · have hlt := hn q hq
        omega

/-- An event that leaves everything as it is: somebody leaves who is not there. -/
theorem reachable_silent (h : Reachable r) {e : RoomEvent} (hserves : env.Serves r e) :
    Reachable { r with out := [] } := by
  obtain ⟨n, hn⟩ := exists_stranger r
  let stranger : SessionKey := ⟨-1, -1, n⟩
  have hother : ∀ p ∈ r.roomPlayers, p.sessionKey ≠ stranger := by
    intro p hp heq
    have hlt := hn p hp
    rw [heq] at hlt
    exact Nat.lt_irrefl n hlt
  let without : RoomEnv := { env with
    findSession := fun key => if key = stranger then none else env.findSession key }
  have hnobody : without.findSession stranger = none := if_pos rfl
  have hwithout : without.Serves r (.leavePacket stranger) := by
    refine ⟨fun p hp hsession => ?_, fun key hsender v hv => ?_,
      fun p hp hsession key hsender hkey => ?_⟩
    · obtain ⟨v, hv, hid⟩ := hserves.found p hp hsession
      exact ⟨v, (if_neg (hother p hp)).trans hv, hid⟩
    · rw [← Option.some.inj hsender, hnobody] at hv
      cases hv
    · rw [← Option.some.inj hsender, hnobody] at hkey
      cases hkey
  have hnone : ({ r with out := [] } : TetrisRoom).findPlayer stranger = none := by
    refine List.findIdx?_eq_none_iff.mpr fun p hp => ?_
    have hlt := hn p hp
    simp only [Player.matchesSessionKey, Bool.decide_and, Bool.and_eq_false_iff,
      decide_eq_false_iff_not]
    exact .inr (.inr (.inr (Nat.ne_of_lt hlt)))
  refine h.step without (.leavePacket stranger) hwithout (congrArg some ?_)
  show TetrisRoom.requestLobbyTransition _ _ _ = _
  unfold TetrisRoom.requestLobbyTransition SingleRoom.requestLobbyTransition
    MultiRoom.requestLobbyTransition
  rw [hnone]
  split <;> rfl

theorem received_reachable (h : Received r) : Reachable r := by
  induction h with
  | created h => exact .created h
  | act _ env a hserves hact ih =>
      cases a with
      | task task => exact ih.step env _ hserves hact
      | leavePacket key => exact ih.step env _ hserves hact
      | tick t => exact ih.step env _ hserves hact
      | @movePacket key moveType =>
          rename_i r r' _
          injection hact with hact
          rcases handleMove_cases { r with out := [] } env key moveType
            with hsame | ⟨_, v, _, hqueued⟩
          · rw [← hact, hsame]
            exact reachable_silent ih hserves
          · exact ih.step env (.input ⟨moveType, v.playerId, r.playGeneration⟩)
              (serves_input hserves _) (congrArg some (hqueued.symm.trans hact))

/-! ## What events do to the queue -/

/-- The queue as it was or emptied, the same game and the same winner. -/
structure QueueKept (r a : TetrisRoom) : Prop where
  queue : a.playTasks = r.playTasks ∨ a.playTasks = []
  generation : a.playGeneration = r.playGeneration
  winner : a.winnerId = r.winnerId

namespace QueueKept

theorem refl (r : TetrisRoom) : QueueKept r r := ⟨.inl rfl, rfl, rfl⟩

theorem trans (h : QueueKept a b) (h' : QueueKept b c) : QueueKept a c := by
  refine ⟨?_, h'.generation.trans h.generation, h'.winner.trans h.winner⟩
  rcases h'.queue with hq | hq
  · rcases h.queue with hq' | hq'
    · exact .inl (hq.trans hq')
    · exact .inr (hq.trans hq')
  · exact .inr hq

/-- What carries the queue along keeps it. -/
theorem of_carrying (h : a = a.carrying r.playTasks r.playGeneration r.winnerId) :
    QueueKept r a := by
  rw [h]
  exact ⟨.inl rfl, rfl, rfl⟩

theorem emit (r : TetrisRoom) (e : RoomEffect) : QueueKept r (r.emit e) := ⟨.inl rfl, rfl, rfl⟩

theorem broadcast (r : TetrisRoom) (env : RoomEnv) (packet : S2CPacket) :
    QueueKept r (r.broadcast env packet) :=
  ⟨.inl rfl, rfl, rfl⟩

theorem modifyPlayer (r : TetrisRoom) (i : Nat) (f : Player → Player) :
    QueueKept r (r.modifyPlayer i f) :=
  ⟨.inl rfl, rfl, rfl⟩

theorem beginRoomDelete (r : TetrisRoom) : QueueKept r r.beginRoomDelete := ⟨.inl rfl, rfl, rfl⟩

theorem foldl_emit {α : Type} (r : TetrisRoom) (as : List α) (e : α → RoomEffect) :
    QueueKept r (as.foldl (fun r a => r.emit (e a)) r) :=
  of_carrying (carrying_foldl_emit r r.playTasks r.playGeneration r.winnerId as e)

theorem clearGame (r : TetrisRoom) (env : RoomEnv) : QueueKept r (r.clearGame env) :=
  ⟨.inr rfl, rfl, rfl⟩

theorem clearRoom (r : TetrisRoom) (env : RoomEnv) : QueueKept r (r.clearRoom env) := by
  have hloop : ∀ (is : List Nat) (acc : TetrisRoom × List SessionKey), QueueKept acc.1
      (is.foldl (fun (acc : TetrisRoom × List SessionKey) i =>
        ((acc.1.clearPlayer env i).1, acc.2 ++ (acc.1.clearPlayer env i).2.toList)) acc).1 := by
    intro is
    induction is with
    | nil => exact fun acc => refl acc.1
    | cons i rest ih =>
        intro acc
        obtain ⟨now, hcleared⟩ := clearPlayer_fst acc.1 env i
        have hone : QueueKept acc.1 (acc.1.clearPlayer env i).1 := by
          rw [hcleared]
          exact ⟨.inl rfl, rfl, rfl⟩
        exact hone.trans
          (ih ((acc.1.clearPlayer env i).1, acc.2 ++ (acc.1.clearPlayer env i).2.toList))
  have hemptied : QueueKept r { r.clearPlayTasks with tetrominoSpawnList := [] } :=
    ⟨.inr rfl, rfl, rfl⟩
  have hslots :=
    hemptied.trans (hloop (List.range r.roomPlayers.length)
      ({ r.clearPlayTasks with tetrominoSpawnList := [] }, []))
  unfold TetrisRoom.clearRoom
  dsimp only at hslots ⊢
  refine QueueKept.trans ?_ (foldl_emit _ _ fun key => .completeRoomDisconnect key)
  exact hslots.trans ⟨.inl rfl, rfl, rfl⟩

end QueueKept

/-! ## Rooms for one player -/

theorem kept_singleRemoval (r : TetrisRoom) (env : RoomEnv) (key : SessionKey) :
    QueueKept r (SingleRoom.completePlayerRemoval r env key) := by
  unfold SingleRoom.completePlayerRemoval
  cases r.findPlayer key with
  | none => exact .refl r
  | some i =>
      dsimp only
      exact ((QueueKept.broadcast r env _).trans (.clearRoom _ env)).trans (.beginRoomDelete _)

theorem kept_singleTransition (r : TetrisRoom) (env : RoomEnv) (key : SessionKey) :
    QueueKept r (SingleRoom.requestLobbyTransition r env key) := by
  unfold SingleRoom.requestLobbyTransition
  cases r.findPlayer key with
  | none => exact .refl r
  | some i =>
      dsimp only
      cases r.roomPlayers[i]? with
      | none => exact .refl r
      | some p =>
          dsimp only
          split
          · exact ((QueueKept.modifyPlayer r i _).trans (kept_singleRemoval _ env key)).trans
              (.emit _ _)
          · exact .refl r

theorem kept_singleRemove (r : TetrisRoom) (env : RoomEnv) (key : SessionKey) :
    QueueKept r (SingleRoom.removePlayer r env key) := by
  unfold SingleRoom.removePlayer
  cases env.findSession key with
  | none => exact kept_singleRemoval r env key
  | some v =>
      dsimp only
      split
      · exact kept_singleTransition r env key
      · exact kept_singleRemoval r env key

theorem kept_endGame (r : TetrisRoom) (env : RoomEnv) :
    QueueKept r (SingleRoom.endGame r env) := by
  have hscore :
    QueueKept r (if env.isTestMode then r else SingleRoom.requestUpdateScore r env) := by
    split
    · exact .refl r
    · unfold SingleRoom.requestUpdateScore
      cases SingleRoom.slot r with
      | none => exact .refl r
      | some p =>
          dsimp only
          cases findSession env p with
          | none => exact .refl r
          | some v =>
              dsimp only
              split
              · exact .emit r _
              · exact .refl r
  exact hscore.trans (.clearGame _ env)

theorem kept_giveUp (r : TetrisRoom) (env : RoomEnv) (v : SessionView) (key : SessionKey) :
    QueueKept r (SingleRoom.giveUp r env v key) := by
  unfold SingleRoom.giveUp
  split
  · exact .refl r
  split
  · exact .refl r
  cases SingleRoom.slot r with
  | none => exact .refl r
  | some p =>
      dsimp only
      cases findSession env p with
      | none => exact .refl r
      | some owner =>
          dsimp only
          split
          · exact .refl r
          · exact (QueueKept.emit r _).trans (kept_endGame _ env)

/-- A start counts the game, in a room that waits. -/
theorem queue_singleStart (h : SingleRoom.startGame r env = some a) : a.playTasks = r.playTasks ∧
    a.winnerId = r.winnerId ∧ (a.playGeneration = r.playGeneration ∨ r.roomState = .wait) := by
  unfold SingleRoom.startGame at h
  split at h
  · cases h
    exact ⟨rfl, rfl, .inl rfl⟩
  · rename_i hwait
    obtain ⟨ps, _, h⟩ := Option.bind_eq_some_iff.mp h
    dsimp only at h
    generalize hroom : TetrisRoom.broadcast _ env _ = begun at h
    have hown :=
      broadcastSpawns_carrying begun env begun.playTasks begun.playGeneration begun.winnerId
    rw [carrying_own, h, Option.map_some, Option.some.injEq] at hown
    have hkept := QueueKept.of_carrying hown
    have hqueue : a.playTasks = begun.playTasks := by
      rw [hown]
      rfl
    refine ⟨?_, ?_, .inr (Decidable.not_not.mp hwait)⟩
    · rw [hqueue, ← hroom]
      rfl
    · rw [hkept.winner, ← hroom]
      rfl

/-! ## One event -/

/-- What is true of the queue after an event, if nothing was queued by it. -/
structure QueueSettled (r a : TetrisRoom) : Prop where
  queue : a.playTasks = r.playTasks ∨ a.playTasks = []
  generation : a.playGeneration = r.playGeneration ∨ r.roomState = .wait
  winner : r.kind = .single → a.winnerId = r.winnerId

theorem QueueKept.settled (h : QueueKept r a) : QueueSettled r a :=
  ⟨h.queue, .inl h.generation, fun _ => h.winner⟩

/-- What a room for several players carries along it keeps. -/
theorem settled_carrying (hkind : r.kind ≠ .single) {n : Nat} (hn : n = 0 ∨ r.roomState = .wait)
    (h : a = a.carrying r.playTasks (r.playGeneration + n) r.winnerId) : QueueSettled r a := by
  refine ⟨.inl ?_, ?_, fun hsingle => absurd hsingle hkind⟩
  · rw [h]
    rfl
  · rcases hn with rfl | hwait
    · rw [h]
      exact .inl rfl
    · exact .inr hwait

theorem settled_task (task : RoomTask) {x : TetrisRoom × Bool}
    (h : r.tryProcessRoomTask env task = some x) :
    QueueSettled r x.1 := by
  by_cases hkind : r.kind = .single
  · have hremove : r.removePlayer env task.sessionKey =
        SingleRoom.removePlayer r env task.sessionKey := by
      unfold TetrisRoom.removePlayer
      rw [hkind]
    unfold tryProcessRoomTask at h
    split at h
    · injection h with h
      rw [← h]
      unfold tryProcessJoinTask
      cases env.findSession task.sessionKey with
      | none => exact (QueueKept.emit r _).settled
      | some v =>
          dsimp only
          split
          · exact (QueueKept.refl r).settled
          rw [show r.addPlayer env v task.sessionKey task.roomPassword = (r, invalidRequest)
            from by
            unfold TetrisRoom.addPlayer
            rw [hkind]]
          split
          · exact (QueueKept.emit r _).settled
          · exact (QueueKept.emit r _).settled
    rw [hremove] at h
    cases hfound : env.findSession task.sessionKey with
    | none =>
        rw [hfound] at h
        cases h
        dsimp only
        split
        · exact (kept_singleRemove r env task.sessionKey).settled
        · exact (QueueKept.refl r).settled
    | some v =>
        rw [hfound] at h
        dsimp only at h
        split at h
        · cases h
          exact (QueueKept.refl r).settled
        split at h
        · cases h
          exact (kept_singleRemove r env task.sessionKey).settled
        split at h
        · cases h
          exact (QueueKept.refl r).settled
        split at h
        · cases h
          exact (QueueKept.refl r).settled
        split at h
        · cases h
          exact (QueueKept.refl r).settled
        rw [show r.processSpecificRoomTask env v task =
          SingleRoom.processSpecificRoomTask r env v task from by
          unfold TetrisRoom.processSpecificRoomTask
          rw [hkind]] at h
        unfold SingleRoom.processSpecificRoomTask at h
        split at h
        · split at h
          · obtain ⟨a, ha, h⟩ := Option.bind_eq_some_iff.mp h
            cases h
            -- a start empties the queue; no other task touches it
            obtain ⟨hqueue, hwinner, hgeneration⟩ := queue_singleStart ha
            exact ⟨.inl hqueue, hgeneration, fun _ => hwinner⟩
          · cases h
            exact (QueueKept.refl r).settled
        · cases h
          exact (kept_giveUp r env v task.sessionKey).settled
        · cases h
          exact (QueueKept.refl r).settled
  -- a room for several players carries its queue through a task unread
  · obtain ⟨n, hn, hcarrying⟩ := tryProcessRoomTask_carrying r env hkind task
    have hown := hcarrying r.playTasks r.playGeneration r.winnerId
    rw [carrying_own, h, Option.map_some, Option.some.injEq] at hown
    exact settled_carrying hkind hn (congrArg Prod.fst hown)

theorem settled_leave (r : TetrisRoom) (env : RoomEnv) (key : SessionKey) :
    QueueSettled r (r.requestLobbyTransition env key) := by
  by_cases hkind : r.kind = .single
  · unfold TetrisRoom.requestLobbyTransition
    rw [hkind]
    exact (kept_singleTransition r env key).settled
  · have hown :=
      requestLobbyTransition_carrying_multi r env hkind key r.playTasks r.playGeneration r.winnerId
    rw [carrying_own] at hown
    exact (QueueKept.of_carrying hown).settled

/-! ## Ticks -/

theorem kept_packets {x : TetrisRoom × AppendResult} (h : r.appendTickPackets env = some x) :
    QueueKept r x.1 := by
  have hown := appendFrom_carrying env r.playTasks r.playGeneration r.winnerId
    (List.range r.roomPlayers.length) r
  unfold appendTickPackets at h
  rw [carrying_own, h, Option.map_some, Option.some.injEq] at hown
  exact .of_carrying (congrArg Prod.fst hown)

theorem kept_broadcastPackets (r : TetrisRoom) (env : RoomEnv) :
    QueueKept r (r.broadcastPackets env) := by
  have hown := broadcastPackets_carrying r env r.playTasks r.playGeneration r.winnerId
  rw [carrying_own] at hown
  exact .of_carrying hown

theorem kept_addRoomTask (r : TetrisRoom) (task : RoomTask) :
    QueueKept r (r.addRoomTask task).1 := by
  unfold addRoomTask
  split
  · exact .refl r
  · exact ⟨.inl rfl, rfl, rfl⟩

theorem kept_sent (r : TetrisRoom) (env : RoomEnv) :
    QueueKept r ((r.resetPlayerTickState env).broadcastPackets env) :=
  QueueKept.trans (b := r.resetPlayerTickState env) ⟨.inl rfl, rfl, rfl⟩
  (kept_broadcastPackets _ env)

theorem kept_singleTick {t : Int} (h : SingleRoom.processGameTick r env t = some a) :
    QueueKept r a := by
  unfold SingleRoom.processGameTick at h
  split at h
  · cases h
    exact .refl r
  split at h
  · cases h
    exact .refl r
  obtain ⟨r₁, hr₁, h⟩ := Option.bind_eq_some_iff.mp h
  obtain ⟨r₂, hr₂, h⟩ := Option.bind_eq_some_iff.mp h
  obtain ⟨p, _, h⟩ := Option.bind_eq_some_iff.mp h
  obtain ⟨⟨q, isGameOver⟩, _, h⟩ := Option.bind_eq_some_iff.mp h
  obtain ⟨⟨r₄, result⟩, hr₄, h⟩ := Option.bind_eq_some_iff.mp h
  have hticks : QueueKept r r₁ := by
    obtain ⟨ps, _, hr₁⟩ := Option.bind_eq_some_iff.mp hr₁
    cases hr₁
    exact ⟨.inl rfl, rfl, rfl⟩
  have hlines : QueueKept r₁ r₂ := by
    obtain ⟨ps, _, hr₂⟩ := Option.bind_eq_some_iff.mp hr₂
    cases hr₂
    exact ⟨.inl rfl, rfl, rfl⟩
  have happended :=
    ((hticks.trans hlines).trans (.modifyPlayer r₂ 0 fun _ => q)).trans (kept_packets hr₄)
  cases result with
  | failed key =>
      cases h
      exact happended.trans (kept_addRoomTask r₄ _)
  | done =>
      cases h
      unfold SingleRoom.finishTick
      dsimp only
      split
      · exact (happended.trans (kept_sent r₄ env)).trans (kept_endGame _ env)
      · exact happended.trans (kept_sent r₄ env)

theorem queue_multiTick {t : Int} (h : MultiRoom.processGameTick r env t = some a) :
    (a.playTasks = r.playTasks ∨ a.playTasks = []) ∧ a.playGeneration = r.playGeneration := by
  obtain ⟨r₁, hr₁, h⟩ := Option.bind_eq_some_iff.mp h
  have hown := beforeVerdict_carrying r env r.playTasks r.playGeneration r.winnerId t
  rw [carrying_own, hr₁, Option.map_some, Option.some.injEq] at hown
  have hbefore := QueueKept.of_carrying hown
  have hresolved : (MultiRoom.resolveWinner r₁ env).1.playTasks = r₁.playTasks ∧
      (MultiRoom.resolveWinner r₁ env).1.playGeneration = r₁.playGeneration := by
    unfold MultiRoom.resolveWinner
    dsimp only
    split <;> exact ⟨rfl, rfl⟩
  dsimp only at h
  obtain ⟨⟨r₄, result⟩, hr₄, h⟩ := Option.bind_eq_some_iff.mp h
  have hspawned :
    QueueKept (MultiRoom.resolveWinner r₁ env).1 (if (MultiRoom.resolveWinner r₁ env).2 = true then
      (MultiRoom.resolveWinner r₁ env).1
        else (MultiRoom.resolveWinner r₁ env).1.addSpawnTasks) := by
    split
    · exact .refl _
    · exact ⟨.inl rfl, rfl, rfl⟩
  have happended := hspawned.trans (kept_packets hr₄)
  have hfinished : QueueKept r₄ a := by
    cases result with
    | failed key =>
        cases h
        exact kept_addRoomTask r₄ _
    | done =>
        cases h
        unfold MultiRoom.finishTick
        dsimp only
        split
        · refine ((kept_sent r₄ env).trans ?_).trans (.clearGame _ env)
          split
          · exact .refl _
          · exact .emit _ _
        · exact kept_sent r₄ env
  have hafter := happended.trans hfinished
  refine ⟨?_, (hafter.generation.trans hresolved.2).trans hbefore.generation⟩
  rcases hafter.queue with hq | hq
  · rcases hbefore.queue with hq' | hq'
    · exact .inl ((hq.trans hresolved.1).trans hq')
    · exact .inr ((hq.trans hresolved.1).trans hq')
  · exact .inr hq

/-- **A tick leaves the queue empty.** -/
theorem queue_tick {t : Int} (hok : RoomOk r) (hserves : env.Serves r (.tick t))
    (h : r.step env (.tick t) = some a) :
    a.playTasks = [] ∧ QueueSettled r a := by
  have hs : Seated env ({ r with out := [] } : TetrisRoom).roomPlayers := hok.seated hserves
  unfold step handle at h
  dsimp only at h
  unfold processRoomTick at h
  split at h
  · cases h
    exact ⟨rfl, .inr rfl, .inl rfl, fun _ => rfl⟩
  rw [distributeInputs_eq hs] at h
  let dealt : TetrisRoom := { r with
    out := []
    playTasks := []
    roomPlayers := r.roomPlayers.map fun p => p.queueInputs (inputsFor { r with out := [] } p) }
  replace h : dealt.processGameTick env t = some a := h
  by_cases hkind : r.kind = .single
  · rw [processGameTick_single (r := dealt) hkind] at h
    have hkept := kept_singleTick h
    have hempty : a.playTasks = [] := hkept.queue.elim id id
    exact ⟨hempty, .inr hempty, .inl hkept.generation, fun _ => hkept.winner⟩
  · rw [processGameTick_multi (r := dealt) hkind] at h
    obtain ⟨hqueue, hgeneration⟩ := queue_multiTick h
    have hempty : a.playTasks = [] := hqueue.elim id id
    exact ⟨hempty, .inr hempty, .inl hgeneration, fun hsingle => absurd hsingle hkind⟩

/-- What is queued after an event in a room for several players. -/
def queueAfter (tasks : List PlayerInputTask) : RoomEvent → List PlayerInputTask
  | .task _ | .leavePacket _ => tasks
  | .input queued => tasks ++ [queued]
  | .tick _ => []

theorem queue_multi {e : RoomEvent} (hkind : r.kind ≠ .single) (hok : RoomOk r)
    (hserves : env.Serves r e) (h : r.step env e = some a) :
    a.playTasks = queueAfter r.playTasks e := by
  cases e with
  | task task =>
      obtain ⟨x, hx, rfl⟩ := Option.map_eq_some_iff.mp h
      obtain ⟨n, _, hcarrying⟩ := tryProcessRoomTask_carrying { r with out := [] } env hkind task
      have hown := hcarrying r.playTasks r.playGeneration r.winnerId
      rw [show ({ r with out := [] } : TetrisRoom).carrying r.playTasks r.playGeneration
        r.winnerId =
        { r with out := [] } from rfl, hx, Option.map_some, Option.some.injEq] at hown
      have hqueue := congrArg (fun x => x.1.playTasks) hown
      exact hqueue
  | leavePacket key =>
      have hown := requestLobbyTransition_carrying_multi { r with out := [] } env hkind
        key r.playTasks r.playGeneration r.winnerId
      rw [show ({ r with out := [] } : TetrisRoom).carrying r.playTasks r.playGeneration
        r.winnerId =
        { r with out := [] } from rfl] at hown
      have hqueue := congrArg TetrisRoom.playTasks hown
      cases h
      exact hqueue
  | input task =>
      cases h
      rfl
  | tick t => exact (queue_tick hok hserves h).1

/-- Whatever brings a room back to waiting empties its queue. -/
theorem queue_waiting {e : RoomEvent} (hok : RoomOk r) (hserves : env.Serves r e)
    (h : r.step env e = some a) (hwait : a.roomState = .wait) :
    r.roomState = .wait ∨ a.playTasks = [] := by
  have hstepped := (step_ok hok hserves).of_eq_some h
  cases hstepped with
  | handled _ h =>
      cases h with
      | aside h => exact .inl (h.state.symm.trans hwait)
      | refused i now _ _ h => exact .inl (h.state.symm.trans hwait)
      | joined i now hw => exact .inl hw
      | removed i _ _ h =>
          rcases h.state with ⟨_, hs⟩ | ⟨_, hs⟩
          · exact .inl (hs.symm.trans hwait)
          · rw [hs] at hwait
            cases hwait
      | toggled i h => exact .inl (h.state.symm.trans hwait)
      | started type h => exact .inl h.wait
      | gaveUp _ _ hrest =>
          rw [hrest]
          exact .inr rfl
  | multi => exact .inr (queue_tick hok hserves h).1
  | single => exact .inr (queue_tick hok hserves h).1

/-! ## Runs -/

/-- What is queued was accepted in the game that is on; a waiting room has nothing queued. -/
structure QueueOk (r : TetrisRoom) : Prop where
  generation : ∀ task ∈ r.playTasks, task.playGeneration = r.playGeneration
  waiting : r.roomState = .wait → r.playTasks = []
  winner : r.kind = .single → r.winnerId = -1

theorem queueOk_step {e : RoomEvent} (hok : RoomOk r) (hserves : env.Serves r e) (hq : QueueOk r)
    (h : r.step env e = some a) (hsettled : QueueSettled r a) : QueueOk a := by
  have hkind := kind_stepped ((step_ok hok hserves).of_eq_some h)
  refine ⟨fun task htask => ?_, fun hwait => ?_, fun hsingle => ?_⟩
  · rcases hsettled.queue with hsame | hempty
    · rw [hsame] at htask
      rcases hsettled.generation with hg | hw
      · rw [hg]
        exact hq.generation task htask
      · rw [hq.waiting hw] at htask
        cases htask
    · rw [hempty] at htask
      cases htask
  · rcases queue_waiting hok hserves h hwait with hw | hempty
    · rcases hsettled.queue with hsame | hempty
      · exact hsame.trans (hq.waiting hw)
      · exact hempty
    · exact hempty
  · have hsingle' : r.kind = .single := hkind.symm.trans hsingle
    exact (hsettled.winner hsingle').trans (hq.winner hsingle')

theorem kept_initHostSession (r : TetrisRoom) (env : RoomEnv) (v : SessionView)
    (key : SessionKey) :
    QueueKept r (r.initHostSession env v key).1 := by
  unfold initHostSession
  cases r.roomPlayers[0]? with
  | none => exact .refl r
  | some p =>
      dsimp only
      split
      · exact .refl r
      split
      · exact ⟨.inl rfl, rfl, rfl⟩
      · exact ⟨.inl rfl, rfl, rfl⟩

/-- A room is created with an empty queue. -/
theorem queueOk_created (h : Created r) : QueueOk r := by
  cases h with
  | intro kind roomIndex roomKey roomName roomPassword now env v key hv hid hadd =>
      rename_i r₁
      let new := TetrisRoom.new kind roomIndex roomKey roomName roomPassword now
      have hadded : QueueKept new r₁ := by
        have hinit := kept_initHostSession new env v key
        unfold addHostSession at hadd
        split at hadd
        · rwa [show new.initHostSession env v key = _ from hadd] at hinit
        · unfold MultiRoom.addHostSession at hadd
          rw [show TetrisRoom.new kind roomIndex roomKey roomName roomPassword now = new from rfl]
            at hadd
          dsimp only at hadd
          split at hadd
          · cases hadd
            exact hinit.trans ⟨.inl rfl, rfl, rfl⟩
          · cases hadd
      have hready : QueueKept r₁ ((r₁.sendCreateRoom key).completeRoomInitialization) := by
        refine QueueKept.trans (b := r₁.sendCreateRoom key) (.emit r₁ _) ?_
        unfold completeRoomInitialization
        cases (r₁.sendCreateRoom key).roomPlayers[0]? with
        | none => exact ⟨.inl rfl, rfl, rfl⟩
        | some p =>
            dsimp only
            split
            · exact ⟨.inl rfl, rfl, rfl⟩
            · exact ⟨.inl rfl, rfl, rfl⟩
      have hkept := hadded.trans hready
      have hempty := hkept.queue.elim (fun hq => hq.trans (rfl : new.playTasks = [])) id
      refine ⟨fun task htask => ?_, fun _ => hempty, fun _ => hkept.winner⟩
      rw [hempty] at htask
      cases htask

theorem queueOk_received (h : Received r) : QueueOk r := by
  induction h with
  | created h => exact queueOk_created h
  | @act r r' h env a hserves hact ih =>
      have hok := roomOk_reachable (received_reachable h)
      have hsilent : ∀ {a : TetrisRoom}, QueueSettled { r with out := [] } a → QueueSettled r a :=
        fun hs => ⟨hs.queue, hs.generation, hs.winner⟩
      cases a with
      | task task =>
          obtain ⟨x, hx, rfl⟩ := Option.map_eq_some_iff.mp hact
          exact queueOk_step hok hserves ih hact (hsilent (settled_task task hx))
      | leavePacket key =>
          refine queueOk_step hok hserves ih hact ?_
          cases hact
          exact hsilent (settled_leave { r with out := [] } env key)
      | tick t => exact queueOk_step hok hserves ih hact (queue_tick hok hserves hact).2
      | movePacket key moveType =>
          injection hact with hact
          rcases handleMove_cases { r with out := [] } env key moveType
            with hsame | ⟨hplay, v, _, hqueued⟩
          · rw [← hact, hsame]
            exact ⟨ih.generation, ih.waiting, ih.winner⟩
          · rw [← hact, hqueued]
            refine ⟨fun task htask => ?_, fun hwait => ?_, ih.winner⟩
            · rcases List.mem_append.mp htask with hold | hnew
              · exact ih.generation task hold
              · rw [List.mem_singleton.mp hnew]
                rfl
            · exact absurd (hplay.symm.trans hwait) (by decide)

end TetrisRoom

end ProjectTetris

import ProjectTetris.Rooms.Eliminated

/-!
# Rooms for one player with the same veil

While no game is on, a room for one player does the same whatever its last game left
behind, and a start makes the two rooms one. From then on they cannot differ.
-/

namespace ProjectTetris

open Checked

namespace TetrisRoom

namespace Alike

variable {keep : PlayerInputTask → Bool} {r r' a b : TetrisRoom} {env : RoomEnv}

theorem clearRoom (h : Alike keep r r') : Alike keep (r.clearRoom env) (r'.clearRoom env) := by
  have hloop : ∀ (is : List Nat) {r r' : TetrisRoom} (keys : List SessionKey), Alike keep r r' →
      Alike keep
          (is.foldl (fun (acc : TetrisRoom × List SessionKey) i =>
            ((acc.1.clearPlayer env i).1, acc.2 ++ (acc.1.clearPlayer env i).2.toList))
              (r, keys)).1
          (is.foldl (fun (acc : TetrisRoom × List SessionKey) i =>
            ((acc.1.clearPlayer env i).1, acc.2 ++ (acc.1.clearPlayer env i).2.toList))
              (r', keys)).1 ∧
        (is.foldl (fun (acc : TetrisRoom × List SessionKey) i =>
            ((acc.1.clearPlayer env i).1, acc.2 ++ (acc.1.clearPlayer env i).2.toList))
              (r, keys)).2 =
          (is.foldl (fun (acc : TetrisRoom × List SessionKey) i =>
            ((acc.1.clearPlayer env i).1, acc.2 ++ (acc.1.clearPlayer env i).2.toList))
              (r', keys)).2 := by
    intro is
    induction is with
    | nil => exact fun _ h => ⟨h, rfl⟩
    | cons i rest ih =>
        intro r r' keys h
        obtain ⟨hcleared, hkey⟩ := h.clearPlayer env i
        rw [List.foldl_cons, List.foldl_cons]
        dsimp only
        rw [← hkey]
        exact ih _ hcleared
  have hemptied :=
    h.update (u := fun x => { x.clearPlayTasks with tetrominoSpawnList := [] }) fun _ => rfl
  obtain ⟨hrest, hkeys⟩ := hloop (List.range r.roomPlayers.length) [] hemptied
  unfold TetrisRoom.clearRoom
  dsimp only at hrest hkeys ⊢
  rw [show ({ r'.clearPlayTasks with tetrominoSpawnList := [] } : TetrisRoom).roomPlayers.length
    = r.roomPlayers.length from h.length.symm]
  rw [← hkeys]
  exact (hrest.update (u := fun x => { x with currentPlayerCount := 0, roomState := .empty })
    fun _ => rfl).foldl_emit _ _

theorem singleRemoval (h : Alike keep r r') (key : SessionKey) :
    Alike keep (SingleRoom.completePlayerRemoval r env key)
      (SingleRoom.completePlayerRemoval r' env key) := by
  unfold SingleRoom.completePlayerRemoval
  rw [← h.findPlayer key]
  cases r.findPlayer key with
  | none => exact h
  | some i =>
      have hid : ((r.roomPlayers[i]?).map (·.sessionKey.playerId)).getD (-1)
          = ((r'.roomPlayers[i]?).map (·.sessionKey.playerId)).getD (-1) := by
        rcases h.slot i with ⟨hp, hq⟩ | ⟨p, q, hp, hq, hpq⟩
        · rw [hp, hq]
        · rw [hp, hq, Option.map_some, Option.map_some,
            Player.read_veil (f := fun p => p.sessionKey.playerId) (fun _ _ => rfl) hpq]
      dsimp only
      rw [← hid]
      exact (h.broadcast env _).clearRoom.update (u := fun x => x.beginRoomDelete) fun _ => rfl

theorem trySetPending {p q : Player} (hpq : p.veil = q.veil) (key : SessionKey) :
    (p.trySetPending key).1.veil = (q.trySetPending key).1.veil ∧
      (p.trySetPending key).2 = (q.trySetPending key).2 := by
  have hmatches : ∀ (p : Player) (t : Tetris),
      ({ p with tetris := t } : Player).matchesSessionKey key =
        p.matchesSessionKey key := fun _ _ => rfl
  constructor
  · refine Player.veil_congr (f := fun p => (p.trySetPending key).1) (fun p t hp => ?_) hpq
    unfold Player.trySetPending
    rw [hmatches]
    split
    · exact Player.veil_tetris (p := { p with activeState := .pending }) t hp
    · exact Player.veil_tetris t hp
  · refine Player.read_veil (f := fun p => (p.trySetPending key).2) (fun p t => ?_) hpq
    unfold Player.trySetPending
    rw [hmatches]
    split <;> rfl

theorem singleTransition (h : Alike keep r r') (key : SessionKey) :
    Alike keep (SingleRoom.requestLobbyTransition r env key)
      (SingleRoom.requestLobbyTransition r' env key) := by
  have hindex : r.roomIndex = r'.roomIndex := h.read (·.roomIndex) fun _ => rfl
  unfold SingleRoom.requestLobbyTransition
  rw [← h.findPlayer key, hindex]
  cases r.findPlayer key with
  | none => exact h
  | some i =>
      dsimp only
      rcases h.slot i with ⟨hp, hq⟩ | ⟨p, q, hp, hq, hpq⟩
      · rw [hp, hq]
        exact h
      · obtain ⟨hpending, hok⟩ := trySetPending hpq key
        rw [hp, hq]
        dsimp only
        rw [← hok]
        split
        · exact ((h.modify i fun _ _ _ => hpending).singleRemoval key).emit _
        · exact h

theorem singleRemove (h : Alike keep r r') (key : SessionKey) :
    Alike keep (SingleRoom.removePlayer r env key) (SingleRoom.removePlayer r' env key) := by
  unfold SingleRoom.removePlayer
  cases env.findSession key with
  | none => exact h.singleRemoval key
  | some v =>
      dsimp only
      split
      · exact h.singleTransition key
      · exact h.singleRemoval key

theorem singleJoin (h : Alike keep r r') (hkind : r.kind = .single) (task : RoomTask) :
    Alike keep (r.tryProcessJoinTask env task).1 (r'.tryProcessJoinTask env task).1 := by
  have hkind' : r'.kind = .single := h.read (·.kind) (fun _ => rfl) ▸ hkind
  have hadd : ∀ {r : TetrisRoom}, r.kind = .single →
      ∀ v, r.addPlayer env v task.sessionKey task.roomPassword = (r, invalidRequest) := by
    intro r hkind v
    unfold TetrisRoom.addPlayer
    rw [hkind]
  unfold TetrisRoom.tryProcessJoinTask
  cases env.findSession task.sessionKey with
  | none => exact h.emit _
  | some v =>
      dsimp only
      split
      · exact h
      rw [hadd hkind, hadd hkind']
      split
      · exact h.emit _
      · exact h.emit _

end Alike

/-! ## The start -/

section start

variable {r r' : TetrisRoom} {env : RoomEnv}

/-- The loop of `StartGame` over slots with the same veils: it gives them the same games. -/
theorem enterGame_veil {ps qs : List Player} (h : ps.map Player.veil = qs.map Player.veil)
    (hps : ∀ p ∈ ps, p.tetris.Fresh ∧ (findSession env p).isSome = true)
    (hqs : ∀ q ∈ qs, q.tetris.Fresh ∧ (findSession env q).isSome = true) (l : List TetrominoType) :
    (ps.map fun p => if (findSession env p).isSome then
        { p with tetris := p.tetris.clear (env.now p.sessionKey) }
          else p).mapM (MultiRoom.enterGame env l) =
      (qs.map fun p => if (findSession env p).isSome then
        { p with tetris := p.tetris.clear (env.now p.sessionKey) }
          else p).mapM (MultiRoom.enterGame env l) := by
  let enter : Player → Option Player := fun p => MultiRoom.enterGame env l
    (if (findSession env p).isSome then { p with tetris := p.tetris.clear (env.now p.sessionKey) }
      else p)
  have hslots : ps.map enter = qs.map enter := by
    refine List.ext_getElem? fun i => ?_
    rw [List.getElem?_map, List.getElem?_map]
    rcases slot_veil h i with ⟨hp, hq⟩ | ⟨p, q, hp, hq, hpq⟩
    · rw [hp, hq]
    · obtain ⟨hfresh, hsome⟩ := hps p (List.mem_of_getElem? hp)
      obtain ⟨hfresh', hsome'⟩ := hqs q (List.mem_of_getElem? hq)
      rw [hp, hq, Option.map_some, Option.map_some, Option.some.injEq]
      dsimp only [enter]
      rw [if_pos hsome, if_pos hsome']
      rcases Player.veil_cases hpq with rfl | ⟨_, heq⟩
      · rfl
      -- what the engines keep is overwritten by the first piece
      have hgame : ∀ type, (p.tetris.clear (env.now p.sessionKey)).initNewTetromino type spawnPos =
          (q.tetris.clear (env.now p.sessionKey)).initNewTetromino type spawnPos := by
        intro type
        simp only [Tetris.clear, Tetris.initNewTetromino, hfresh.inputs, hfresh.tasks,
          hfresh.garbage,
          hfresh.cleared, hfresh'.inputs, hfresh'.tasks, hfresh'.garbage, hfresh'.cleared]
      have hkey : q.sessionKey = p.sessionKey := Player.read_veil (fun _ _ => rfl) hpq.symm
      have hentered : ∀ x : Player, (findSession env x).isSome = true →
          MultiRoom.enterGame env l { x with tetris := x.tetris.clear (env.now x.sessionKey) } =
            (l[x.tetrominoIndex]?).bind fun type => some { x with
              roomPlayerState := .play
              tetris := (x.tetris.clear (env.now x.sessionKey)).initNewTetromino type
                spawnPos } := by
        intro x hx
        exact if_pos hx
      rw [hentered p hsome, hentered q hsome', hkey,
        show q.tetrominoIndex = p.tetrominoIndex from Player.read_veil (fun _ _ => rfl) hpq.symm]
      refine congrArg _ (funext fun type => congrArg some ?_)
      rw [hgame type, heq]
  have hboth : ∀ ps : List Player, (ps.map fun p => if (findSession env p).isSome then
      { p with tetris := p.tetris.clear (env.now p.sessionKey) }
        else p).mapM (MultiRoom.enterGame env l) =
        (ps.map enter).mapM id := by
    intro ps
    rw [List.mapM_map, List.mapM_map]
    rfl
  rw [hboth, hboth, hslots]

/-- **A start makes one room of the two.** -/
theorem singleStart_eq (h : Alike (fun _ => true) r r')
    (hps : ∀ p ∈ r.roomPlayers, p.tetris.Fresh ∧ (findSession env p).isSome = true)
    (hqs : ∀ q ∈ r'.roomPlayers, q.tetris.Fresh ∧ (findSession env q).isSome = true)
    (hwait : r.roomState = .wait) : SingleRoom.startGame r env = SingleRoom.startGame r' env := by
  have hloop := enterGame_veil h.players hps hqs
    (r.tetrominoSpawnList ++ (env.bag r.tetrominoSpawnList.length).types)
  obtain ⟨tasks, ps, htasks, rfl⟩ := h.exists_eq
  rw [List.filter_true, List.filter_true] at htasks
  subst htasks
  unfold SingleRoom.startGame
  rw [if_neg (fun hc => hc hwait), if_neg (fun hc => hc hwait)]
  dsimp only [initGame, forSessions, appendTetromino7Bag] at hloop ⊢
  rw [hloop]

/-- Who is found in a room for one player is everybody in it. -/
theorem single_seated (hok : RoomOk r) (hkind : r.kind = .single) (hs : Seated env r.roomPlayers)
    {i : Nat} {p : Player} (hp : r.roomPlayers[i]? = some p) (ha : p.isActive = true) :
    ∀ x ∈ r.roomPlayers, x.tetris.Fresh ∧ (findSession env x).isSome = true := by
  intro x hx
  refine ⟨(hok.slots x hx).fresh, ?_⟩
  have hlen := hok.length
  rw [hkind, show RoomKind.single.slotCount = 1 from rfl] at hlen
  obtain ⟨o, ho⟩ := List.length_eq_one_iff.mp hlen
  have hmem := List.mem_of_getElem? hp
  rw [hs.isSome hx]
  rw [ho, List.mem_singleton] at hx hmem
  rw [hx, ← hmem, ha]

end start

/-! ## One event for both rooms -/

/-- Two rooms for one player that have the same veil, and are one while a game is on. -/
structure Merged (r r' : TetrisRoom) : Prop where
  alike : Alike (fun _ => true) r r'
  playing : r.roomState = .play → r = r'

namespace Merged

variable {r r' a b : TetrisRoom} {env : RoomEnv}

theorem refl (r : TetrisRoom) : Merged r r := ⟨rfl, fun _ => rfl⟩

theorem off (h : Alike (fun _ => true) r r') (hoff : r.roomState ≠ .play) : Merged r r' :=
  ⟨h, fun hplay => absurd hplay hoff⟩

theorem silent (h : Merged r r') : Merged { r with out := [] } { r' with out := [] } :=
  ⟨h.alike.silent, fun hplay => by rw [h.playing hplay]⟩

end Merged

section step

variable {r r' a b : TetrisRoom} {env : RoomEnv}

theorem singleRemoval_off (hoff : r.roomState ≠ .play) (key : SessionKey) :
    (SingleRoom.completePlayerRemoval r env key).roomState ≠ .play := by
  unfold SingleRoom.completePlayerRemoval
  cases r.findPlayer key with
  | none => exact hoff
  | some i => exact fun hc => absurd (show RoomState.waitingDelete = .play from hc) (by decide)

theorem singleTransition_off (hoff : r.roomState ≠ .play) (key : SessionKey) :
    (SingleRoom.requestLobbyTransition r env key).roomState ≠ .play := by
  unfold SingleRoom.requestLobbyTransition
  cases r.findPlayer key with
  | none => exact hoff
  | some i =>
      dsimp only
      cases r.roomPlayers[i]? with
      | none => exact hoff
      | some p =>
          dsimp only
          split
          · exact singleRemoval_off (r := r.modifyPlayer i _) hoff key
          · exact hoff

theorem singleRemove_off (hoff : r.roomState ≠ .play) (key : SessionKey) :
    (SingleRoom.removePlayer r env key).roomState ≠ .play := by
  unfold SingleRoom.removePlayer
  cases env.findSession key with
  | none => exact singleRemoval_off hoff key
  | some v =>
      dsimp only
      split
      · exact singleTransition_off hoff key
      · exact singleRemoval_off hoff key

theorem singleJoin_off (hoff : r.roomState ≠ .play) (hkind : r.kind = .single) (task : RoomTask) :
    (r.tryProcessJoinTask env task).1.roomState ≠ .play := by
  unfold tryProcessJoinTask
  cases env.findSession task.sessionKey with
  | none => exact hoff
  | some v =>
      dsimp only
      split
      · exact hoff
      rw [show r.addPlayer env v task.sessionKey task.roomPassword = (r, invalidRequest) from by
        unfold TetrisRoom.addPlayer
        rw [hkind]]
      split
      · exact hoff
      · exact hoff

theorem single_specific (h : Alike (fun _ => true) r r') (hoff : r.roomState ≠ .play)
    (hps : ∀ p ∈ r.roomPlayers, p.tetris.Fresh ∧ (findSession env p).isSome = true)
    (hqs : ∀ q ∈ r'.roomPlayers, q.tetris.Fresh ∧ (findSession env q).isSome = true)
    (v : SessionView) (task : RoomTask) {x y : TetrisRoom × Bool}
    (ha : SingleRoom.processSpecificRoomTask r env v task = some x)
    (hb : SingleRoom.processSpecificRoomTask r' env v task = some y) : Merged x.1 y.1 := by
  have hindex : r.roomIndex = r'.roomIndex := h.read (·.roomIndex) fun _ => rfl
  have hin : r.isPlayerInRoom v = r'.isPlayerInRoom v := by simp only [isPlayerInRoom, hindex]
  have hstate : r.roomState = r'.roomState := h.read (·.roomState) fun _ => rfl
  unfold SingleRoom.processSpecificRoomTask at ha hb
  rw [← hin] at hb
  cases htype : task.taskType with
  | start =>
      rw [htype] at ha hb
      dsimp only at ha hb
      obtain ⟨hc, ha, hb⟩ | ⟨hc, ha, hb⟩ := both_ite ha hb
      · obtain ⟨a, ha', ha⟩ := Option.bind_eq_some_iff.mp ha
        obtain ⟨b, hb', hb⟩ := Option.bind_eq_some_iff.mp hb
        cases ha
        cases hb
        by_cases hwait : r.roomState = .wait
        · rw [singleStart_eq h hps hqs hwait, hb'] at ha'
          rw [Option.some.inj ha']
          exact .refl a
        · unfold SingleRoom.startGame at ha' hb'
          rw [if_pos hwait] at ha'
          rw [if_pos (hstate ▸ hwait)] at hb'
          cases ha'
          cases hb'
          exact .off h hoff
      · cases ha
        cases hb
        exact .off h hoff
  | giveUp =>
      have hnothing : ∀ {r : TetrisRoom}, r.roomState ≠ .play →
          SingleRoom.giveUp r env v task.sessionKey = r := by
        intro r hoff
        unfold SingleRoom.giveUp
        split
        · rfl
        · rfl
      rw [htype] at ha hb
      cases ha
      cases hb
      dsimp only
      rw [hnothing hoff, hnothing (hstate ▸ hoff)]
      exact .off h hoff
  | join | removePlayer | ready | kick =>
      rw [htype] at ha hb
      cases ha
      cases hb
      exact .off h hoff

theorem single_task (h : Alike (fun _ => true) r r') (hkind : r.kind = .single) (hok : RoomOk r)
    (hok' : RoomOk r') (hs : Seated env r.roomPlayers) (hs' : Seated env r'.roomPlayers)
    (hoff : r.roomState ≠ .play) (task : RoomTask) {x y : TetrisRoom × Bool}
    (ha : r.tryProcessRoomTask env task = some x) (hb : r'.tryProcessRoomTask env task = some y) :
    Merged x.1 y.1 := by
  have hkind' : r'.kind = .single := h.read (·.kind) (fun _ => rfl) ▸ hkind
  have hindex : r.roomIndex = r'.roomIndex := h.read (·.roomIndex) fun _ => rfl
  have hremove : ∀ {r : TetrisRoom}, r.kind = .single → ∀ key,
      r.removePlayer env key = SingleRoom.removePlayer r env key := by
    intro r hkind key
    unfold TetrisRoom.removePlayer
    rw [hkind]
  have hspecific : ∀ {r : TetrisRoom}, r.kind = .single → ∀ v,
      r.processSpecificRoomTask env v task = SingleRoom.processSpecificRoomTask r env v task := by
    intro r hkind v
    unfold TetrisRoom.processSpecificRoomTask
    rw [hkind]
  unfold TetrisRoom.tryProcessRoomTask at ha hb
  by_cases hjoin : task.taskType = .join
  · rw [if_pos hjoin] at ha hb
    cases ha
    cases hb
    exact .off (h.singleJoin hkind task) (singleJoin_off hoff hkind task)
  rw [if_neg hjoin] at ha hb
  rw [hremove hkind] at ha
  rw [hremove hkind'] at hb
  -- a removal leaves nobody behind, so nothing is left to compare
  have hleft : Merged (SingleRoom.removePlayer r env task.sessionKey)
      (SingleRoom.removePlayer r' env task.sessionKey) :=
    .off (h.singleRemove task.sessionKey) (singleRemove_off hoff task.sessionKey)
  cases hfound : env.findSession task.sessionKey with
  | none =>
      rw [hfound] at ha hb
      cases ha
      cases hb
      dsimp only
      split
      · exact hleft
      · exact .off h hoff
  | some v =>
      rw [hfound] at ha hb
      dsimp only at ha hb
      obtain ⟨hc₁, ha, hb⟩ | ⟨hc₁, ha, hb⟩ := both_ite ha hb
      · cases ha
        cases hb
        exact .off h hoff
      obtain ⟨hc₂, ha, hb⟩ | ⟨hc₂, ha, hb⟩ := both_ite ha hb
      · cases ha
        cases hb
        exact hleft
      rw [← h.findPlayer task.sessionKey, ← hindex] at hb
      cases hfind : r.findPlayer task.sessionKey with
      | none =>
          rw [hfind] at ha hb
          cases ha
          cases hb
          exact .off h hoff
      | some i =>
          rw [hfind, Option.bind_some] at ha hb
          rcases h.slot i with ⟨hp, hq⟩ | ⟨p, q, hp, hq, hpq⟩
          · rw [hp] at ha
            rw [hq] at hb
            cases ha
            cases hb
            exact .off h hoff
          · rw [hp] at ha
            rw [hq] at hb
            have hactive : p.isActive = q.isActive := Player.read_veil (fun _ _ => rfl) hpq
            dsimp only at ha hb
            rw [← hactive] at hb
            obtain ⟨hc₃, ha, hb⟩ | ⟨hc₃, ha, hb⟩ := both_ite ha hb
            · cases ha
              cases hb
              exact .off h hoff
            obtain ⟨hc₄, ha, hb⟩ | ⟨hc₄, ha, hb⟩ := both_ite ha hb
            · cases ha
              cases hb
              exact .off h hoff
            rw [hspecific hkind'] at hb
            rw [hspecific hkind] at ha
            have ha₁ : p.isActive = true := by simpa using hc₃
            -- past every check the task goes to the one player
            exact single_specific h hoff (single_seated hok hkind hs hp ha₁)
              (single_seated hok' hkind' hs' hq (hactive ▸ ha₁)) v task ha hb

/-- **A room for one player cannot tell what its last game left behind.** -/
theorem Merged.step {e : RoomEvent} (h : Merged { r with out := [] } { r' with out := [] })
    (hkind : r.kind = .single) (hok : RoomOk r) (hok' : RoomOk r') (hserves : env.Serves r e)
    (hserves' : env.Serves r' e) (ha : r.step env e = some a) (hb : r'.step env e = some b) :
    Merged a b := by
  by_cases hplay : r.roomState = .play
  · have hsame : r.step env e = r'.step env e := congrArg (·.handle env e) (h.playing hplay)
    rw [ha, hb] at hsame
    rw [Option.some.inj hsame]
    exact .refl b
  have halike := h.alike
  have hstate : r.roomState = r'.roomState := halike.read (·.roomState) fun _ => rfl
  unfold TetrisRoom.step TetrisRoom.handle at ha hb
  cases e with
  | task task =>
      obtain ⟨x, hx, rfl⟩ := Option.map_eq_some_iff.mp ha
      obtain ⟨y, hy, rfl⟩ := Option.map_eq_some_iff.mp hb
      exact single_task halike hkind (roomOk_silent hok) (roomOk_silent hok')
        (hok.seated hserves) (hok'.seated hserves') hplay task hx hy
  | leavePacket key =>
      have hkind' : r'.kind = .single := (halike.read (·.kind) fun _ => rfl).symm.trans hkind
      have hleave : ∀ {r : TetrisRoom}, r.kind = .single →
          r.requestLobbyTransition env key = SingleRoom.requestLobbyTransition r env key := by
        intro r hkind
        unfold TetrisRoom.requestLobbyTransition
        rw [hkind]
      dsimp only at ha hb
      rw [hleave (r := { r with out := [] }) hkind] at ha
      rw [hleave (r := { r' with out := [] }) hkind'] at hb
      cases ha
      cases hb
      exact .off (halike.singleTransition key)
        (singleTransition_off (r := { r with out := [] }) hplay key)
  | input task =>
      cases ha
      cases hb
      exact .off (halike.addPlayTask task) hplay
  | tick t =>
      dsimp only at ha hb
      unfold processRoomTick at ha hb
      rw [if_pos hplay] at ha
      rw [if_pos (hstate ▸ hplay)] at hb
      cases ha
      cases hb
      exact .off halike.clearPlayTasks hplay

end step

end TetrisRoom

end ProjectTetris

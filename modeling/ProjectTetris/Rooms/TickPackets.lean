import ProjectTetris.Game.TickLog
import ProjectTetris.Rooms.Seats

/-!
# From the tasks of a tick to its packets

What `AppendTickPackets` and `BroadcastPackets` do, said once and for every room.
Each slot is dealt with alone, except that the first one to need it draws the next
bag; the list of pieces only ever grows, so what a slot read from it stays true.
-/

namespace ProjectTetris

open Checked

namespace TetrisRoom

/-! ## One task -/

/-- Every task but a spawn has its packet, which reads nothing but scores from the slot. -/
theorem tickPacket_engine (l : List TetrominoType) (p : Player) (id : Int) {task : TaskType}
    (h : task ≠ .spawn) :
    ∃ packet, tickPacket l p id task = some packet ∧ packet.size = task.packetType.size ∧
      ∀ (l' : List TetrominoType) (q : Player), q.combo = p.combo → q.score = p.score →
        tickPacket l' q id task = some packet := by
  cases task with
  | spawn => exact absurd rfl h
  | clearLine y => exact ⟨_, rfl, rfl, fun l' q hc hs => by rw [tickPacket, hc, hs]⟩
  | move => exact ⟨_, rfl, rfl, fun _ _ _ _ => rfl⟩
  | addLine => exact ⟨_, rfl, rfl, fun _ _ _ _ => rfl⟩
  | fix => exact ⟨_, rfl, rfl, fun _ _ _ _ => rfl⟩
  | gameOver => exact ⟨_, rfl, rfl, fun _ _ _ _ => rfl⟩
  | gameEnd => exact ⟨_, rfl, rfl, fun _ _ _ _ => rfl⟩

/-- The packets of tasks that are no spawns. -/
def enginePackets (p : Player) (id : Int) (tasks : List TaskType) : List S2CPacket :=
  tasks.filterMap (tickPacket [] p id)

theorem enginePackets_append (p : Player) (id : Int) (l₁ l₂ : List TaskType) :
    enginePackets p id (l₁ ++ l₂) = enginePackets p id l₁ ++ enginePackets p id l₂ :=
  List.filterMap_append

/-- The slot after tasks that are no spawns: the packets in the buffer, and perhaps eliminated. -/
def appended (p : Player) (id : Int) (tasks : List TaskType) : Player :=
  { p with
    sendBuffer := p.sendBuffer ++ enginePackets p id tasks
    roomPlayerState := if hasEvent tasks .gameOver then .gameOver else p.roomPlayerState }

theorem addToSendBuffer_eq {p : Player} {packet : S2CPacket}
    (h : p.sendDataSize + packet.size ≤ bufSize) :
    p.addToSendBuffer packet = some { p with sendBuffer := p.sendBuffer ++ [packet] } := by
  rw [Player.addToSendBuffer, if_neg (by omega)]

theorem sendDataSize_append (p : Player) (packets : List S2CPacket) :
    ({ p with sendBuffer := p.sendBuffer ++ packets } : Player).sendDataSize =
      p.sendDataSize + (packets.map S2CPacket.size).sum := by
  simp [Player.sendDataSize]

theorem enginePackets_congr {p q : Player} (id : Int) (hc : q.combo = p.combo)
    (hs : q.score = p.score) {tasks : List TaskType} (h : ∀ task ∈ tasks, task ≠ .spawn) :
    enginePackets q id tasks = enginePackets p id tasks := by
  induction tasks with
  | nil => rfl
  | cons task rest ih =>
      obtain ⟨packet, hp, _, hall⟩ := tickPacket_engine [] p id (h task (List.mem_cons_self ..))
      have hrest := ih fun t ht => h t (List.mem_cons_of_mem _ ht)
      unfold enginePackets at hrest ⊢
      rw [List.filterMap_cons_some (hall [] q hc hs), List.filterMap_cons_some hp, hrest]

theorem enginePackets_size (p : Player) (id : Int) {tasks : List TaskType}
    (h : ∀ task ∈ tasks, task ≠ .spawn) :
    ((enginePackets p id tasks).map S2CPacket.size).sum = tasksSize tasks := by
  induction tasks with
  | nil => rfl
  | cons task rest ih =>
      obtain ⟨packet, hp, hsize, _⟩ := tickPacket_engine [] p id (h task (List.mem_cons_self ..))
      have hrest := ih fun t ht => h t (List.mem_cons_of_mem _ ht)
      rw [enginePackets] at hrest ⊢
      rw [List.filterMap_cons_some hp, List.map_cons, List.sum_cons, hrest, tasksSize_cons, hsize]

/-- What `ApplySendTaskState` leaves of the slot for a task that is no spawn. -/
theorem applySendTaskState_engine {r : TetrisRoom} {env : RoomEnv} {i : Nat} {id : Int}
    {p : Player} {task : TaskType} (hp : r.roomPlayers[i]? = some p) (h : task ≠ .spawn) :
    r.applySendTaskState env i id task = some (r.modifyPlayer i fun _ =>
      { p with
        roomPlayerState := if hasEvent [task] .gameOver then .gameOver else p.roomPlayerState },
      true) := by
  have hself : r = r.modifyPlayer i fun _ => { p with roomPlayerState := p.roomPlayerState } :=
    (modifyPlayer_self hp rfl).symm
  cases task with
  | spawn => exact absurd rfl h
  | gameOver =>
      rw [applySendTaskState]
      congr 2
      exact modifyPlayer_congr hp rfl
  | move => exact congrArg (fun r => some (r, true)) hself
  | clearLine => exact congrArg (fun r => some (r, true)) hself
  | addLine => exact congrArg (fun r => some (r, true)) hself
  | fix => exact congrArg (fun r => some (r, true)) hself
  | gameEnd => exact congrArg (fun r => some (r, true)) hself

/-- **The tasks of a slot, as long as none of them is a spawn**, all become packets. -/
theorem appendTasks_engine {env : RoomEnv} {i : Nat} {id : Int} {key : SessionKey} :
    ∀ {tasks : List TaskType} {r : TetrisRoom} {p : Player}, r.roomPlayers[i]? = some p →
      (∀ task ∈ tasks, task ≠ .spawn) → p.sendDataSize + tasksSize tasks ≤ bufSize →
      appendTasks env i id key r tasks =
        some (r.modifyPlayer i fun _ => appended p id tasks, .done)
  | [], r, p, hp, _, _ => by
      rw [appendTasks, modifyPlayer_self hp]
      simp [appended, enginePackets]
  | task :: rest, r, p, hp, hne, hsize => by
      have htask := hne task (List.mem_cons_self ..)
      rw [tasksSize_cons] at hsize
      rw [appendTasks, applySendTaskState_engine hp htask]
      -- the slot after the state change of this task
      let q : Player :=
        { p with
          roomPlayerState := if hasEvent [task] .gameOver then .gameOver else p.roomPlayerState }
      obtain ⟨packet, hpacket, hpsize, hany⟩ := tickPacket_engine [] p id htask
      have hq : (r.modifyPlayer i fun _ => q).roomPlayers[i]? = some q := by simp [hp]
      have htick : tickPacket r.tetrominoSpawnList q id task = some packet := hany _ q rfl rfl
      have hadd : q.addToSendBuffer packet =
          some { q with sendBuffer := q.sendBuffer ++ [packet] } :=
        addToSendBuffer_eq (by
          have : q.sendDataSize = p.sendDataSize := rfl
          omega)
      let q' : Player := { q with sendBuffer := q.sendBuffer ++ [packet] }
      have hq' : ((r.modifyPlayer i fun _ => q).modifyPlayer i fun _ => q').roomPlayers[i]? =
          some q' := by simp [hp]
      have hsize' : q'.sendDataSize + tasksSize rest ≤ bufSize := by
        have hone : q'.sendDataSize = p.sendDataSize + packet.size := by
          have h := sendDataSize_append q [packet]
          rw [List.map_singleton, List.sum_singleton] at h
          exact h
        omega
      have ih := @appendTasks_engine env i id key rest _ _ hq'
        (fun t ht => hne t (List.mem_cons_of_mem _ ht)) hsize'
      simp only [Option.bind_eq_bind, Option.bind_some, if_true, modifyPlayer_spawnList]
      rw [hq, Option.bind_some, htick, Option.bind_some, hadd]
      refine ih.trans ?_
      rw [modifyPlayer_modifyPlayer, modifyPlayer_modifyPlayer]
      congr 2
      refine modifyPlayer_congr hp ?_
      -- both sides list the packet of this task, then those of the rest
      have hpackets : enginePackets p id (task :: rest) = packet :: enginePackets q' id rest := by
        rw [enginePackets_congr (p := p) (q := q') id rfl rfl
          fun t ht => hne t (List.mem_cons_of_mem _ ht)]
        exact List.filterMap_cons_some hpacket
      simp only [Function.comp_apply, appended, hpackets]
      simp only [q', q, List.append_assoc, List.singleton_append, hasEvent_cons, hasEvent_nil,
        Bool.or_false]
      by_cases h1 : hasEvent rest .gameOver <;> by_cases h2 : task.eventType = .gameOver <;>
        simp [h1, h2]

theorem appendTasks_append (env : RoomEnv) (i : Nat) (id : Int) (key : SessionKey) :
    ∀ (l₁ l₂ : List TaskType) (r : TetrisRoom),
      appendTasks env i id key r (l₁ ++ l₂) =
        (appendTasks env i id key r l₁).bind fun res =>
          match res.2 with
          | .done => appendTasks env i id key res.1 l₂
          | .failed k => some (res.1, .failed k)
  | [], l₂, r => rfl
  | task :: rest, l₂, r => by
      rw [List.cons_append, appendTasks, appendTasks]
      cases r.applySendTaskState env i id task with
      | none => rfl
      | some res =>
          obtain ⟨r', goOn⟩ := res
          simp only [Option.bind_eq_bind, Option.bind_some]
          cases goOn with
          | false => exact appendTasks_append env i id key rest l₂ r'
          | true =>
              cases r'.roomPlayers[i]? with
              | none => rfl
              | some p =>
                  simp only [Option.bind_some, if_true]
                  cases tickPacket r'.tetrominoSpawnList p id task with
                  | none => rfl
                  | some packet =>
                      simp only [Option.bind_some]
                      cases p.addToSendBuffer packet with
                      | none => rfl
                      | some p' => exact appendTasks_append env i id key rest l₂ _

/-! ## Spawning -/

/-- The list of pieces after a spawn: a bag longer if the preview would run past its end. -/
def spawnListFor (env : RoomEnv) (p : Player) (l : List TetrominoType) : List TetrominoType :=
  if p.tetrominoIndex + 2 = l.length then l ++ (env.bag l.length).types else l

theorem Bag.length (b : Bag) : b.types.length = 7 := b.perm.length_eq

theorem spawnListFor_prefix (env : RoomEnv) (p : Player) (l : List TetrominoType) :
    l <+: spawnListFor env p l := by
  unfold spawnListFor
  split
  · exact List.prefix_append _ _
  · exact List.prefix_refl l

/-- **The next two pieces are always there**, the new one and its preview. -/
theorem spawnListFor_lt {env : RoomEnv} {p : Player} {l : List TetrominoType}
    (h : p.tetrominoIndex + 2 ≤ l.length) :
    p.tetrominoIndex + 2 < (spawnListFor env p l).length := by
  unfold spawnListFor
  split
  · rw [List.length_append, Bag.length]; omega
  · omega

/-- The slot with its next piece. -/
def spawned (p : Player) (type : TetrominoType) : Player :=
  { p with
    tetrominoIndex := p.tetrominoIndex + 1
    tetris := p.tetris.initNewTetromino type spawnPos }

theorem applySendTaskState_spawn {r : TetrisRoom} {env : RoomEnv} {i : Nat} {p : Player}
    (h : Seated env r.roomPlayers) (hp : r.roomPlayers[i]? = some p) (ha : p.isActive = true)
    {type : TetrominoType}
    (htype : (spawnListFor env p r.tetrominoSpawnList)[p.tetrominoIndex + 1]? = some type) :
    r.applySendTaskState env i p.sessionKey.playerId .spawn =
      some (({ r with tetrominoSpawnList := spawnListFor env p r.tetrominoSpawnList }).modifyPlayer
        i fun _ => spawned p type, true) := by
  let q : Player := { p with tetrominoIndex := p.tetrominoIndex + 1 }
  have hlist :
      (if p.tetrominoIndex + 2 = r.tetrominoSpawnList.length then r.appendTetromino7Bag env
      else r) = { r with tetrominoSpawnList := spawnListFor env p r.tetrominoSpawnList } := by
    unfold spawnListFor
    split <;> rfl
  have hseats : SameSeats r.roomPlayers (r.modifyPlayer i fun _ => q).roomPlayers := by
    intro j
    rw [modifyPlayer_getElem?, Option.map_map]
    by_cases hj : i = j
    · subst hj
      rw [hp]
      simp [q, Player.seat]
    · cases r.roomPlayers[j]? <;> simp [hj]
  have hqslot : (r.modifyPlayer i fun _ => q).roomPlayers[i]? = some q := by simp [hp]
  have hfind := (h.of_sameSeats hseats).findIdx? hqslot ha
  rw [applySendTaskState, hp, Option.bind_eq_bind, Option.bind_some, hlist]
  have hmodify :
      ({ r with tetrominoSpawnList := spawnListFor env p r.tetrominoSpawnList }).modifyPlayer i
      (fun p => { p with tetrominoIndex := p.tetrominoIndex + 1 }) =
      ({ r with tetrominoSpawnList := spawnListFor env p r.tetrominoSpawnList }).modifyPlayer i
      fun _ => q := modifyPlayer_congr hp rfl
  dsimp only
  rw [hmodify, spawnTetromino]
  have hplayers : (({ r with
      tetrominoSpawnList := spawnListFor env p r.tetrominoSpawnList }).modifyPlayer i
      fun _ => q).roomPlayers = (r.modifyPlayer i fun _ => q).roomPlayers := rfl
  rw [hplayers, show p.sessionKey.playerId = q.sessionKey.playerId from rfl, hfind]
  dsimp only
  rw [hqslot]
  simp only [Option.bind_eq_bind, Option.bind_some, initTetromino,
    modifyPlayer_spawnList, q, htype, modifyPlayer_modifyPlayer]
  rfl

/-- The `S2C_SPAWN` of the slot's next piece. -/
def spawnPacket (p : Player) (type next : TetrominoType) : S2CPacket :=
  .spawn p.sessionKey.playerId type.toIndex next.toIndex spawnPos.x spawnPos.y

theorem appendTasks_spawn {r : TetrisRoom} {env : RoomEnv} {i : Nat} {p : Player}
    {key : SessionKey} (h : Seated env r.roomPlayers) (hp : r.roomPlayers[i]? = some p)
    (ha : p.isActive = true) {type next : TetrominoType}
    (htype : (spawnListFor env p r.tetrominoSpawnList)[p.tetrominoIndex + 1]? = some type)
    (hnext : (spawnListFor env p r.tetrominoSpawnList)[p.tetrominoIndex + 2]? = some next)
    (hsize : p.sendDataSize + S2CType.spawn.size ≤ bufSize) :
    appendTasks env i p.sessionKey.playerId key r [.spawn] =
      some (({ r with tetrominoSpawnList := spawnListFor env p r.tetrominoSpawnList }).modifyPlayer
        i fun _ => { spawned p type with sendBuffer := p.sendBuffer ++ [spawnPacket p type next] },
        .done) := by
  have hadd : (spawned p type).addToSendBuffer (spawnPacket p type next) =
      some { spawned p type with sendBuffer := p.sendBuffer ++ [spawnPacket p type next] } :=
    addToSendBuffer_eq hsize
  have hslot :
      (({ r with tetrominoSpawnList := spawnListFor env p r.tetrominoSpawnList }).modifyPlayer i
      fun _ => spawned p type).roomPlayers[i]? = some (spawned p type) := by simp [hp]
  have htick : tickPacket (spawnListFor env p r.tetrominoSpawnList) (spawned p type)
      p.sessionKey.playerId .spawn = some (spawnPacket p type next) := by
    rw [tickPacket, show (spawned p type).tetrominoIndex = p.tetrominoIndex + 1 from rfl,
      htype, hnext]
    rfl
  rw [appendTasks, applySendTaskState_spawn h hp ha htype, Option.bind_eq_bind, Option.bind_some]
  simp only [if_true, Option.bind_eq_bind]
  rw [hslot, Option.bind_some, modifyPlayer_spawnList, htick, Option.bind_some, hadd]
  simp only [appendTasks, modifyPlayer_modifyPlayer]
  rfl

/-! ## One slot, then all of them -/

/-- At most one spawn, and nothing after it. -/
def SpawnLast (tasks : List TaskType) : Prop :=
  (∀ task ∈ tasks, task ≠ .spawn) ∨
    ∃ engine, tasks = engine ++ [.spawn] ∧ ∀ task ∈ engine, task ≠ .spawn

/-- What `AppendTickPackets` makes of a slot whose player is in the game. -/
inductive Appended (l : List TetrominoType) (p : Player) : Player → Prop
  | plain (h : ∀ task ∈ p.tetris.sendTasks, task ≠ .spawn) :
      Appended l p (appended p p.sessionKey.playerId p.tetris.sendTasks)
  | respawned (engine : List TaskType) (htasks : p.tetris.sendTasks = engine ++ [.spawn])
      (h : ∀ task ∈ engine, task ≠ .spawn) (type next : TetrominoType)
      (htype : l[p.tetrominoIndex + 1]? = some type)
      (hnext : l[p.tetrominoIndex + 2]? = some next) :
      Appended l p
        { spawned (appended p p.sessionKey.playerId engine) type with
          sendBuffer := p.sendBuffer ++ enginePackets p p.sessionKey.playerId engine ++
            [spawnPacket p type next] }

theorem Appended.mono {l l' : List TetrominoType} {p q : Player} (h : Appended l p q)
    (hl : l <+: l') : Appended l' p q := by
  cases h with
  | plain h => exact .plain h
  | respawned engine htasks h type next htype hnext =>
      obtain ⟨more, rfl⟩ := hl
      refine .respawned engine htasks h type next ?_ ?_
      · rw [List.getElem?_append_left (List.getElem?_eq_some_iff.mp htype).1, htype]
      · rw [List.getElem?_append_left (List.getElem?_eq_some_iff.mp hnext).1, hnext]

theorem Appended.seat {l : List TetrominoType} {p q : Player} (h : Appended l p q) :
    q.seat = p.seat := by
  cases h <;> rfl

/-- A slot that `AppendTickPackets` has packets for. -/
def playing (p : Player) : Prop := p.roomPlayerState = .play ∧ p.isActive = true

/-- What the slot has to bring along for its tasks to fit and its pieces to be there. -/
structure Ready (l : List TetrominoType) (p : Player) : Prop where
  spawnLast : SpawnLast p.tetris.sendTasks
  size : p.sendDataSize + tasksSize p.tetris.sendTasks ≤ bufSize
  index : p.tetrominoIndex + 2 ≤ l.length

theorem appendSlotPackets_ok {r : TetrisRoom} {env : RoomEnv} {i : Nat} {p : Player}
    (h : Seated env r.roomPlayers) (hp : r.roomPlayers[i]? = some p) (hplay : playing p)
    (hready : Ready r.tetrominoSpawnList p) :
    ∃ l q, r.tetrominoSpawnList <+: l ∧ Appended l p q ∧
      r.appendSlotPackets env i =
        some (({ r with tetrominoSpawnList := l }).modifyPlayer i fun _ => q, .done) := by
  obtain ⟨v, hv, hid⟩ := h.findSession (List.mem_of_getElem? hp) hplay.2
  have hslot : r.appendSlotPackets env i =
      appendTasks env i p.sessionKey.playerId p.sessionKey r p.tetris.sendTasks := by
    rw [appendSlotPackets, hp]
    simp [hplay.1, hv, hid]
  rw [hslot]
  rcases hready.spawnLast with hno | ⟨engine, htasks, hno⟩
  · exact ⟨r.tetrominoSpawnList, _, List.prefix_refl _, .plain hno,
      appendTasks_engine hp hno hready.size⟩
  · have hsize := hready.size
    have hone : tasksSize [.spawn] = S2CType.spawn.size := rfl
    rw [htasks, tasksSize_append, hone] at hsize
    let q := appended p p.sessionKey.playerId engine
    have hq : (r.modifyPlayer i fun _ => q).roomPlayers[i]? = some q := by simp [hp]
    have hlt : q.tetrominoIndex + 2 < (spawnListFor env q r.tetrominoSpawnList).length :=
      spawnListFor_lt hready.index
    have hseats : SameSeats r.roomPlayers (r.modifyPlayer i fun _ => q).roomPlayers := by
      intro j
      rw [modifyPlayer_getElem?, Option.map_map]
      by_cases hj : i = j
      · subst hj
        rw [hp]
        simp [q, Player.seat, appended]
      · cases r.roomPlayers[j]? <;> simp [hj]
    have htype : (spawnListFor env q r.tetrominoSpawnList)[q.tetrominoIndex + 1]? =
        some _ := List.getElem?_eq_getElem (by omega)
    have hnext : (spawnListFor env q r.tetrominoSpawnList)[q.tetrominoIndex + 2]? =
        some _ := List.getElem?_eq_getElem (by omega)
    have hbuffer : q.sendDataSize = p.sendDataSize + tasksSize engine := by
      rw [← enginePackets_size p p.sessionKey.playerId hno]
      exact sendDataSize_append p _
    refine ⟨spawnListFor env p r.tetrominoSpawnList, _, spawnListFor_prefix env p _,
      .respawned engine htasks hno _ _ htype hnext, ?_⟩
    rw [htasks, appendTasks_append, appendTasks_engine hp hno (by omega), Option.bind_some]
    have hspawn : appendTasks env i q.sessionKey.playerId p.sessionKey _ [.spawn] = _ :=
      appendTasks_spawn (h.of_sameSeats hseats) hq hplay.2 htype hnext (by omega)
    refine hspawn.trans ?_
    rw [modifyPlayer, modifyPlayer, modifyPlayer]
    simp only [List.modify_modify_eq]
    rfl

theorem appendSlotPackets_idle {r : TetrisRoom} {env : RoomEnv} {i : Nat} {p : Player}
    (h : Seated env r.roomPlayers) (hp : r.roomPlayers[i]? = some p) (hplay : ¬ playing p) :
    r.appendSlotPackets env i = some (r, .done) := by
  have hsome := h.isSome (List.mem_of_getElem? hp)
  rw [appendSlotPackets, hp]
  by_cases hstate : p.roomPlayerState = .play
  · have hidle : p.isActive = false := Bool.eq_false_iff.mpr fun ha => hplay ⟨hstate, ha⟩
    rw [hidle, Option.isSome_eq_false_iff, Option.isNone_iff_eq_none] at hsome
    simp [hstate, hsome]
  · simp [hstate]

/-- What `AppendTickPackets` does to the slot `j` when it visits the slots `visited`. -/
def SlotAfter (visited : Prop) (l : List TetrominoType) (p q : Player) : Prop :=
  (visited ∧ playing p ∧ Appended l p q) ∨ (¬ (visited ∧ playing p) ∧ q = p)

/-- `AppendTickPackets`' loop over the slots `is`, none of which it has visited before. -/
theorem appendFrom_ok {env : RoomEnv} : ∀ {is : List Nat} {r : TetrisRoom}, is.Nodup →
    Seated env r.roomPlayers →
    (∀ i ∈ is, ∀ p, r.roomPlayers[i]? = some p → playing p → Ready r.tetrominoSpawnList p) →
    ∃ l ps, appendFrom env is r =
        some ({ r with tetrominoSpawnList := l, roomPlayers := ps }, .done) ∧
      r.tetrominoSpawnList <+: l ∧ ps.length = r.roomPlayers.length ∧
      ∀ (j : Nat) (p : Player), r.roomPlayers[j]? = some p →
        ∃ q, ps[j]? = some q ∧ SlotAfter (j ∈ is) l p q
  | [], r, _, _, _ => by
      refine ⟨r.tetrominoSpawnList, r.roomPlayers, rfl, List.prefix_refl _, rfl, fun j p hp => ?_⟩
      exact ⟨p, hp, .inr ⟨fun h => List.not_mem_nil h.1, rfl⟩⟩
  | i :: rest, r, hnd, h, hready => by
      obtain ⟨hi, hnd'⟩ := List.nodup_cons.mp hnd
      -- the room after slot `i`, and what it has become
      obtain ⟨l₁, r₁, hstep, hr₁, hprefix, hslots⟩ : ∃ l₁ r₁,
          r.appendSlotPackets env i = some (r₁, .done) ∧
          r₁ = { r with tetrominoSpawnList := l₁, roomPlayers := r₁.roomPlayers } ∧
          r.tetrominoSpawnList <+: l₁ ∧
          r₁.roomPlayers.length = r.roomPlayers.length ∧
          ∀ (j : Nat) (p : Player), r.roomPlayers[j]? = some p →
            ∃ q, r₁.roomPlayers[j]? = some q ∧ SlotAfter (j = i) l₁ p q := by
        have hidle : ∀ (j : Nat) (p : Player), r.roomPlayers[j]? = some p → ¬ (j = i ∧ playing p) →
            ∃ q, r.roomPlayers[j]? = some q ∧ SlotAfter (j = i) r.tetrominoSpawnList p q :=
          fun j p hp hno => ⟨p, hp, .inr ⟨hno, rfl⟩⟩
        cases hp : r.roomPlayers[i]? with
        | none =>
            refine ⟨r.tetrominoSpawnList, r, by rw [appendSlotPackets, hp], rfl,
              List.prefix_refl _, rfl, fun j p hj => hidle j p hj ?_⟩
            rintro ⟨rfl, _⟩
            rw [hp] at hj
            exact absurd hj (by simp)
        | some p =>
            by_cases hplay : playing p
            · obtain ⟨l, q, hl, happ, heq⟩ := appendSlotPackets_ok h hp hplay
                (hready i (List.mem_cons_self ..) p hp hplay)
              refine ⟨l, _, heq, rfl, hl, by simp [modifyPlayer], fun j p' hj => ?_⟩
              by_cases hij : j = i
              · subst hij
                rw [hp] at hj
                injection hj with hj
                subst hj
                exact ⟨q, by simp [hp], .inl ⟨rfl, hplay, happ⟩⟩
              · exact ⟨p', by simp [hj, Ne.symm hij], .inr ⟨fun hc => hij hc.1, rfl⟩⟩
            · refine ⟨r.tetrominoSpawnList, r, appendSlotPackets_idle h hp hplay, rfl,
                List.prefix_refl _, rfl, fun j p' hj => hidle j p' hj ?_⟩
              rintro ⟨rfl, hpl⟩
              rw [hp] at hj
              injection hj with hj
              exact hplay (hj ▸ hpl)
      obtain ⟨hlen, hslots⟩ := hslots
      have hseats : SameSeats r.roomPlayers r₁.roomPlayers := by
        intro j
        cases hj : r.roomPlayers[j]? with
        | none =>
            rw [List.getElem?_eq_none_iff] at hj
            rw [List.getElem?_eq_none_iff.mpr (by omega)]
        | some p =>
            obtain ⟨q, hq, hafter⟩ := hslots j p hj
            rw [hq]
            rcases hafter with ⟨_, _, happ⟩ | ⟨_, rfl⟩
            · simp [happ.seat]
            · rfl
      have hspawn : r₁.tetrominoSpawnList = l₁ := by rw [hr₁]
      have hrest : ∀ j ∈ rest, ∀ p, r₁.roomPlayers[j]? = some p → playing p →
          Ready r₁.tetrominoSpawnList p := by
        intro j hj p hp hplay
        have hne : j ≠ i := fun hc => hi (hc ▸ hj)
        have hlt : j < r.roomPlayers.length := hlen ▸ (List.getElem?_eq_some_iff.mp hp).1
        obtain ⟨q, hq, hafter⟩ := hslots j _ (List.getElem?_eq_getElem hlt)
        rcases hafter with ⟨hc, _, _⟩ | ⟨_, rfl⟩
        · exact absurd hc hne
        · rw [hp] at hq
          injection hq with hq
          have hold : r.roomPlayers[j]? = some p := by
            rw [List.getElem?_eq_getElem hlt, ← hq]
          have hr := hready j (List.mem_cons_of_mem _ hj) p hold hplay
          have hlength := hprefix.length_le
          exact { hr with index := by have := hr.index; rw [hspawn]; omega }
      obtain ⟨l₂, ps, hloop, hprefix₂, hlen₂, hslots₂⟩ :=
        appendFrom_ok hnd' (h.of_sameSeats hseats) hrest
      refine ⟨l₂, ps, ?_, hprefix.trans (hspawn ▸ hprefix₂), by omega, fun j p hp => ?_⟩
      · rw [appendFrom, hstep, Option.bind_eq_bind, Option.bind_some]
        dsimp only
        rw [hloop, hr₁]
      · obtain ⟨q, hq, hafter⟩ := hslots j p hp
        obtain ⟨q', hq', hafter'⟩ := hslots₂ j q hq
        refine ⟨q', hq', ?_⟩
        rw [hspawn] at hprefix₂
        by_cases hij : j = i
        · -- visited here, and not again
          subst hij
          have hq'q : q' = q := by
            rcases hafter' with ⟨hc, _, _⟩ | ⟨_, h'⟩
            · exact absurd hc hi
            · exact h'
          subst hq'q
          rcases hafter with ⟨_, hplay, happ⟩ | ⟨hno, rfl⟩
          · exact .inl ⟨List.mem_cons_self .., hplay, happ.mono hprefix₂⟩
          · exact .inr ⟨fun hc => hno ⟨rfl, hc.2⟩, rfl⟩
        · have hqp : q = p := by
            rcases hafter with ⟨hc, _, _⟩ | ⟨_, h'⟩
            · exact absurd hc hij
            · exact h'
          subst hqp
          have hmem : j ∈ i :: rest ↔ j ∈ rest := by simp [hij]
          unfold SlotAfter at hafter' ⊢
          rwa [hmem]

/-! ## Drawing -/

/-- Bags have been drawn, any number of them, and nothing else has happened to the list. -/
def Drawn (l l' : List TetrominoType) : Prop := ∃ bags : List Bag, l' = l ++ bags.flatMap Bag.types

theorem Drawn.refl (l : List TetrominoType) : Drawn l l := ⟨[], (List.append_nil l).symm⟩

theorem Drawn.trans {l₁ l₂ l₃ : List TetrominoType} (h₁ : Drawn l₁ l₂) (h₂ : Drawn l₂ l₃) :
    Drawn l₁ l₃ := by
  obtain ⟨bags₁, rfl⟩ := h₁
  obtain ⟨bags₂, rfl⟩ := h₂
  exact ⟨bags₁ ++ bags₂, by rw [List.flatMap_append, List.append_assoc]⟩

theorem drawn_bag (b : Bag) (l : List TetrominoType) : Drawn l (l ++ b.types) :=
  ⟨[b], by rw [List.flatMap_singleton]⟩

theorem spawnTetromino_spawnList {r r' : TetrisRoom} {env : RoomEnv} {id : Int} {b : Bool}
    (h : r.spawnTetromino env id = some (r', b)) :
    r'.tetrominoSpawnList = r.tetrominoSpawnList := by
  unfold spawnTetromino at h
  split at h
  · injection h with h
    exact congrArg (·.1.tetrominoSpawnList) h.symm
  · obtain ⟨p, _, h⟩ := Option.bind_eq_some_iff.mp h
    obtain ⟨q, _, h⟩ := Option.bind_eq_some_iff.mp h
    injection h with h
    exact congrArg (·.1.tetrominoSpawnList) h.symm

theorem applySendTaskState_drawn {r r' : TetrisRoom} {env : RoomEnv} {i : Nat} {id : Int}
    {task : TaskType} {b : Bool} (h : r.applySendTaskState env i id task = some (r', b)) :
    Drawn r.tetrominoSpawnList r'.tetrominoSpawnList := by
  unfold applySendTaskState at h
  split at h
  · obtain ⟨p, _, h⟩ := Option.bind_eq_some_iff.mp h
    rw [spawnTetromino_spawnList h, modifyPlayer_spawnList]
    split
    · exact drawn_bag ..
    · exact .refl _
  · injection h with h
    injection h with h
    exact h ▸ .refl _
  · injection h with h
    injection h with h
    exact h ▸ .refl _

/-- The rooms `AppendTickPackets` passes through: a task is applied, or its packet is buffered. -/
inductive Building (env : RoomEnv) (r₀ : TetrisRoom) : TetrisRoom → Prop
  | start : Building env r₀ r₀
  | applied {r r' : TetrisRoom} (h : Building env r₀ r) (i : Nat) (id : Int)
      (task : TaskType) (b : Bool)
      (hstep : r.applySendTaskState env i id task = some (r', b)) : Building env r₀ r'
  | buffered {r : TetrisRoom} (h : Building env r₀ r) (i : Nat) {p q : Player} (packet : S2CPacket)
      (hp : r.roomPlayers[i]? = some p) (hadd : p.addToSendBuffer packet = some q) :
      Building env r₀ (r.modifyPlayer i fun _ => q)

theorem Building.drawn {env : RoomEnv} {r₀ r : TetrisRoom} (h : Building env r₀ r) :
    Drawn r₀.tetrominoSpawnList r.tetrominoSpawnList := by
  induction h with
  | start => exact .refl _
  | applied _ i id task b hstep ih => exact ih.trans (applySendTaskState_drawn hstep)
  | buffered _ i packet _ _ ih => exact ih

theorem building_tasks {env : RoomEnv} {i : Nat} {id : Int} {key : SessionKey} {r₀ : TetrisRoom} :
    ∀ {tasks : List TaskType} {r : TetrisRoom} {res : TetrisRoom × AppendResult},
      Building env r₀ r →
      appendTasks env i id key r tasks = some res → Building env r₀ res.1
  | [], r, res, hr, h => by
      injection h with h
      exact h ▸ hr
  | task :: rest, r, res, hr, h => by
      rw [appendTasks] at h
      obtain ⟨⟨r₁, goOn⟩, hstep, h⟩ := Option.bind_eq_some_iff.mp h
      have hr₁ := hr.applied i id task goOn hstep
      dsimp only at h
      split at h
      · obtain ⟨p, hp, h⟩ := Option.bind_eq_some_iff.mp h
        obtain ⟨packet, _, h⟩ := Option.bind_eq_some_iff.mp h
        split at h
        · injection h with h
          exact h ▸ hr₁
        · rename_i hadd
          exact building_tasks (hr₁.buffered i packet hp hadd) h
      · exact building_tasks hr₁ h

theorem building_slots {env : RoomEnv} {r₀ : TetrisRoom} : ∀ {is : List Nat} {r : TetrisRoom}
    {res : TetrisRoom × AppendResult}, Building env r₀ r → appendFrom env is r = some res →
      Building env r₀ res.1
  | [], r, res, hr, h => by
      injection h with h
      exact h ▸ hr
  | i :: rest, r, res, hr, h => by
      rw [appendFrom] at h
      obtain ⟨⟨r₁, result⟩, hslot, h⟩ := Option.bind_eq_some_iff.mp h
      have hr₁ : Building env r₀ r₁ := by
        have hsame : some (r, AppendResult.done) = some (r₁, result) → Building env r₀ r₁ := by
          intro heq
          injection heq with heq
          injection heq with heq
          exact heq ▸ hr
        unfold appendSlotPackets at hslot
        split at hslot
        · exact hsame hslot
        split at hslot
        · exact hsame hslot
        split at hslot
        · exact hsame hslot
        · exact building_tasks hr hslot
      cases result with
      | done => exact building_slots hr₁ h
      | failed key =>
          injection h with h
          exact h ▸ hr₁

/-- **`AppendTickPackets` never finds a buffer full**, and does `Appended` to every player in the
game. -/
theorem appendTickPackets_ok {env : RoomEnv} {r : TetrisRoom} (h : Seated env r.roomPlayers)
    (hready : ∀ p ∈ r.roomPlayers, playing p → Ready r.tetrominoSpawnList p) :
    ∃ l ps, r.appendTickPackets env =
        some ({ r with tetrominoSpawnList := l, roomPlayers := ps }, .done) ∧
      r.tetrominoSpawnList <+: l ∧ ps.length = r.roomPlayers.length ∧
      ∀ (j : Nat) (p : Player), r.roomPlayers[j]? = some p →
        ∃ q, ps[j]? = some q ∧ ((playing p ∧ Appended l p q) ∨ (¬ playing p ∧ q = p)) := by
  obtain ⟨l, ps, heq, hl, hlen, hslots⟩ := @appendFrom_ok env
    (List.range r.roomPlayers.length) r List.nodup_range h
    fun i _ p hp hplay => hready p (List.mem_of_getElem? hp) hplay
  refine ⟨l, ps, heq, hl, hlen, fun j p hp => ?_⟩
  obtain ⟨q, hq, hafter⟩ := hslots j p hp
  have hj : j ∈ List.range r.roomPlayers.length :=
    List.mem_range.mpr (List.getElem?_eq_some_iff.mp hp).1
  refine ⟨q, hq, ?_⟩
  rcases hafter with ⟨_, hplay, happ⟩ | ⟨hno, heq⟩
  · exact .inl ⟨hplay, happ⟩
  · exact .inr ⟨fun hplay => hno ⟨hj, hplay⟩, heq⟩

/-! ## Broadcasting -/

end TetrisRoom

/-- The packets a log sends to one session, in order. -/
def received (key : SessionKey) (out : List RoomEffect) : List S2CPacket :=
  out.flatMap fun effect =>
    match effect with
    | .send dest packets => if dest = key then packets else []
    | _ => []

@[simp] theorem received_nil (key : SessionKey) : received key [] = [] := rfl

@[simp] theorem received_append (key : SessionKey) (l₁ l₂ : List RoomEffect) :
    received key (l₁ ++ l₂) = received key l₁ ++ received key l₂ := List.flatMap_append

/-- A packet sent once to each of several sessions reaches each of them once. -/
theorem received_sendAll {keys : List SessionKey} (hnd : keys.Nodup) (key : SessionKey)
    (packets : List S2CPacket) :
    received key (keys.map fun k => .send k packets) = if key ∈ keys then packets else [] := by
  induction keys with
  | nil => rfl
  | cons k rest ih =>
      obtain ⟨hk, hnd'⟩ := List.nodup_cons.mp hnd
      have hrest := ih hnd'
      rw [List.map_cons, show (RoomEffect.send k packets) :: (rest.map fun k => .send k packets) =
        [RoomEffect.send k packets] ++ rest.map fun k => .send k packets from rfl, received_append,
        hrest]
      by_cases hkey : k = key
      · subst hkey
        simp [received, hk]
      · simp [received, hkey, Ne.symm hkey]

namespace TetrisRoom

theorem Seated.targets_nodup {env : RoomEnv} {r : TetrisRoom} (h : Seated env r.roomPlayers) :
    (r.targets env).Nodup := by
  rw [targets, List.Nodup, List.pairwise_map, List.pairwise_filter, List.pairwise_iff_getElem]
  intro i j hi hj hij hp hq heq
  have hpi := h.isSome (List.getElem_mem hi)
  have hpj := h.isSome (List.getElem_mem hj)
  rw [hp] at hpi
  rw [hq] at hpj
  exact absurd (h.distinct i j _ _ (List.getElem?_eq_getElem hi) (List.getElem?_eq_getElem hj)
    hpi.symm hpj.symm (by rw [heq])) (Nat.ne_of_lt hij)

/-- The buffers `BroadcastPackets` sends: those of the slots with a session, in slot order. -/
def gathered (env : RoomEnv) (sources : List Player) : List S2CPacket :=
  (sources.filter fun p => (findSession env p).isSome).flatMap (·.sendBuffer)

theorem size_pos (packet : S2CPacket) : 0 < packet.size :=
  Nat.lt_of_lt_of_le (by decide) packet.type.packetHeaderSize_le_size

theorem sum_size_eq_zero {packets : List S2CPacket} (h : (packets.map S2CPacket.size).sum = 0) :
    packets = [] := by
  cases packets with
  | nil => rfl
  | cons packet rest =>
      rw [List.map_cons, List.sum_cons] at h
      have := size_pos packet
      omega

/-- The gathering loop sends to nobody else, and what it has not sent yet is in the buffer. -/
theorem gather_ok {env : RoomEnv} (key : SessionKey) :
    ∀ (sources : List Player) (r : TetrisRoom) (buffer : List S2CPacket),
      (r.targets env).Nodup →
      ∃ out, (gather env r sources buffer).1 = { r with out := r.out ++ out } ∧
        (key ∈ r.targets env →
          received key out ++ (gather env r sources buffer).2 = buffer ++ gathered env sources) ∧
        (key ∉ r.targets env → received key out = [])
  | [], r, buffer, _ => ⟨[], by simp [gather], by simp [gather, gathered], fun _ => rfl⟩
  | source :: rest, r, buffer, hnd => by
      rw [gather]
      split
      · rename_i hskip
        obtain ⟨out, h1, h2, h3⟩ := gather_ok key rest r buffer hnd
        refine ⟨out, h1, fun hk => ?_, h3⟩
        rw [h2 hk]
        congr 1
        rcases hskip with hnone | hzero
        · rw [Option.isNone_iff_eq_none] at hnone
          simp [gathered, hnone]
        · have hempty := sum_size_eq_zero hzero
          unfold gathered
          rw [List.filter_cons]
          split
          · rw [List.flatMap_cons, hempty]; rfl
          · rfl
      · rename_i hno
        have hsome : (findSession env source).isSome = true := by
          rw [Option.isSome_iff_ne_none]
          intro hc
          exact hno (.inl (by rw [hc]; rfl))
        have hgathered : gathered env (source :: rest) = source.sendBuffer ++
            gathered env rest := by
          simp [gathered, hsome]
        split
        · have htargets : (r.sendAll env buffer).targets env = r.targets env := rfl
          obtain ⟨out, h1, h2, h3⟩ :=
            gather_ok key rest (r.sendAll env buffer) source.sendBuffer
              (by rw [htargets]; exact hnd)
          refine ⟨((r.targets env).map fun k => .send k buffer) ++ out, ?_,
            fun hk => ?_, fun hk => ?_⟩
          · rw [h1, sendAll]
            simp
          · rw [received_append, received_sendAll hnd, if_pos hk, List.append_assoc,
              h2 (by rw [htargets]; exact hk), hgathered]
          · rw [received_append, received_sendAll hnd, if_neg hk,
              h3 (by rw [htargets]; exact hk)]
            rfl
        · obtain ⟨out, h1, h2, h3⟩ := gather_ok key rest r (buffer ++ source.sendBuffer) hnd
          refine ⟨out, h1, fun hk => ?_, h3⟩
          rw [h2 hk, hgathered, List.append_assoc]

/--
**`BroadcastPackets` gives every session every buffer, once**, in slot order and
whole packets only, however the buffers are batched.
-/
theorem broadcastPackets_ok {env : RoomEnv} {r : TetrisRoom} (h : Seated env r.roomPlayers) :
    ∃ out, r.broadcastPackets env =
        ({ r with out := r.out ++ out } : TetrisRoom).forSessions env Player.clearSendBuffer ∧
      ∀ key, received key out = if key ∈ r.targets env then gathered env r.roomPlayers
      else [] := by
  have hnd := h.targets_nodup
  have hout : ∃ out, r.broadcastPackets env =
      ({ r with out := r.out ++ out } : TetrisRoom).forSessions env Player.clearSendBuffer ∧
      out = ((gather env r r.roomPlayers []).1.out.drop r.out.length ++
        if ((gather env r r.roomPlayers []).2.map S2CPacket.size).sum > 0 then
          (r.targets env).map fun k => .send k (gather env r r.roomPlayers []).2
        else []) := by
    obtain ⟨out, h1, _, _⟩ := @gather_ok env .empty r.roomPlayers r [] hnd
    refine ⟨_, ?_, rfl⟩
    rw [broadcastPackets]
    simp only [h1, List.drop_left]
    split
    · rw [sendAll, List.append_assoc]
      rfl
    · simp
  obtain ⟨out, heq, hdef⟩ := hout
  refine ⟨out, heq, fun key => ?_⟩
  obtain ⟨sent, h1, h2, h3⟩ := @gather_ok env key r.roomPlayers r [] hnd
  rw [hdef, h1, List.drop_left, received_append]
  by_cases hk : key ∈ r.targets env
  · rw [if_pos hk]
    have hall := h2 hk
    rw [List.nil_append] at hall
    rw [← hall]
    congr 1
    split
    · rw [received_sendAll hnd, if_pos hk]
    · rename_i hzero
      rw [sum_size_eq_zero (Nat.eq_zero_of_not_pos hzero)]
      rfl
  · rw [if_neg hk, h3 hk, List.nil_append]
    split
    · rw [received_sendAll hnd, if_neg hk]
    · rfl

end TetrisRoom

end ProjectTetris

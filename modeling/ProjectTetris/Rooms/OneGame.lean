import ProjectTetris.Rooms.VeiledSingle
import ProjectTetris.Rooms.Queue
import ProjectTetris.Rooms.FreshStart
import ProjectTetris.Rooms.SameBoards

/-!
# Inputs belong to one game

Between two games a room keeps its members, its host and their settings: its `lobby`. Two
runs whose rooms wait with the same lobby may have had any inputs before; given the same
from then on, they play the same games and send the same packets. The one thing that can
tell them apart is a combo that was not broken when the last game ended.

All else a game could leave is shown to be gone, or to be left alone until it is reset:
scores, places in the list of pieces, the list, buffers, queues, boards and the winner.
-/

namespace ProjectTetris

/-- Who sits in a slot, and whether he is ready. -/
structure LobbySlot where
  sessionKey : SessionKey
  activeState : ActiveEntryState
  isReady : Bool
  deriving DecidableEq

/-- A room between two games: what it is, who is in it and what they have asked for. -/
structure Lobby where
  kind : RoomKind
  roomTasks : List RoomTask
  /-- How many games the room has had. -/
  playGeneration : Nat
  roomIndex : Int
  roomKey : Nat
  roomName : String
  roomPassword : String
  maxPlayerCount : Int
  currentPlayerCount : Int
  hostId : Int
  slots : List LobbySlot
  deriving DecidableEq

def Player.lobbySlot (p : Player) : LobbySlot :=
  ⟨p.sessionKey, p.activeState, decide (p.roomPlayerState = .ready)⟩

/-- The slot of a player who waits in a lobby, with no trace of a game. -/
def LobbySlot.player (s : LobbySlot) : Player where
  sessionKey := s.sessionKey
  activeState := s.activeState
  tetris := .init 0
  sendBuffer := []
  roomPlayerState := if s.isReady then .ready else .wait
  prevRoomPlayerState := .wait
  tetrominoIndex := 0
  score := 0
  combo := 0

/-- The slot without its engine. -/
def Player.bare (p : Player) : Player := { p with tetris := .init 0 }

/-- The room with nothing but a lobby in it, and a winner. -/
def Lobby.room (l : Lobby) (w : Int) : TetrisRoom where
  kind := l.kind
  roomState := .wait
  roomTasks := l.roomTasks
  playTasks := []
  playGeneration := l.playGeneration
  tetrominoSpawnList := []
  roomIndex := l.roomIndex
  roomKey := l.roomKey
  roomName := l.roomName
  roomPassword := l.roomPassword
  maxPlayerCount := l.maxPlayerCount
  currentPlayerCount := l.currentPlayerCount
  roomPlayers := l.slots.map LobbySlot.player
  hostId := l.hostId
  winnerId := w
  out := []

namespace TetrisRoom

/-- Members, requests and settings. -/
def lobby (r : TetrisRoom) : Lobby where
  kind := r.kind
  roomTasks := r.roomTasks
  playGeneration := r.playGeneration
  roomIndex := r.roomIndex
  roomKey := r.roomKey
  roomName := r.roomName
  roomPassword := r.roomPassword
  maxPlayerCount := r.maxPlayerCount
  currentPlayerCount := r.currentPlayerCount
  hostId := r.hostId
  slots := r.roomPlayers.map Player.lobbySlot

/-- Where two runs get to from `r₀` and `r₀'` by the same actions. -/
inductive SameActions (r₀ r₀' : TetrisRoom) : TetrisRoom → TetrisRoom → Prop
  | start : SameActions r₀ r₀' r₀ r₀'
  | both {r r' a b : TetrisRoom} (h : SameActions r₀ r₀' r r') (env : RoomEnv)
      (action : RoomAction)
      (hserves : env.Serves r (action.event r)) (hserves' : env.Serves r' (action.event r'))
      (ha : r.act env action = some a) (hb : r'.act env action = some b) : SameActions r₀ r₀' a b

/--
Everything of a game is the same: its number, its pieces, the inputs that wait for it, and
the slots; those of all who sit there while it is on, in `PLAY` or not, with their boards.
-/
structure SameCourse (r r' : TetrisRoom) : Prop where
  state : r.roomState = r'.roomState
  lobby : r.lobby = r'.lobby
  spawnList : r.tetrominoSpawnList = r'.tetrominoSpawnList
  inputs : r.playTasks = r'.playTasks
  slots : r.roomPlayers.map Player.bare = r'.roomPlayers.map Player.bare
  boards : r.roomState = .play → SameActive r.roomPlayers r'.roomPlayers

variable {r r' a b : TetrisRoom} {env : RoomEnv}

/-! ## Rooms for several players -/

/-- The two rooms have the same veil, once the last winner of the second is that of the first. -/
def AlikeButWinner (r r' : TetrisRoom) : Prop :=
  ∃ w, Alike r.heard { r with out := [] }
    { r'.carrying r'.playTasks r'.playGeneration w with out := [] }

theorem step_carrying (hkind : r.kind ≠ .single) (hok : RoomOk r) {e : RoomEvent}
    (hserves : env.Serves r e) (w : Int) (ha : r.step env e = some a)
    (hb : (r.carrying r.playTasks r.playGeneration w).step env e = some b) :
    ∃ w', b = a.carrying a.playTasks a.playGeneration w' := by
  unfold step handle at ha hb
  cases e with
  | task task =>
      obtain ⟨x, hx, rfl⟩ := Option.map_eq_some_iff.mp ha
      obtain ⟨y, hy, rfl⟩ := Option.map_eq_some_iff.mp hb
      obtain ⟨n, _, hcarrying⟩ := tryProcessRoomTask_carrying { r with out := [] } env hkind task
      have hown := hcarrying r.playTasks r.playGeneration r.winnerId
      have hother := hcarrying r.playTasks r.playGeneration w
      rw [show ({ r with out := [] } : TetrisRoom).carrying r.playTasks r.playGeneration
        r.winnerId =
        { r with out := [] } from rfl, hx, Option.map_some, Option.some.injEq] at hown
      rw [hx, show ({ r with out := [] } : TetrisRoom).carrying r.playTasks r.playGeneration w =
        { r.carrying r.playTasks r.playGeneration w with out := [] } from rfl] at hother
      rw [hy, Option.map_some, Option.some.injEq] at hother
      refine ⟨w, ?_⟩
      rw [hother, hown]
      rfl
  | leavePacket key =>
      have hown := requestLobbyTransition_carrying_multi { r with out := [] } env hkind
        key r.playTasks r.playGeneration r.winnerId
      have hother := requestLobbyTransition_carrying_multi { r with out := [] } env hkind
        key r.playTasks r.playGeneration w
      cases ha
      cases hb
      refine ⟨w, hother.trans ?_⟩
      rw [show ({ r with out := [] } : TetrisRoom).requestLobbyTransition env key = _ from hown]
      rfl
  | input task =>
      cases ha
      cases hb
      exact ⟨w, rfl⟩
  | tick t =>
      have hs : Seated env ({ r with out := [] } : TetrisRoom).roomPlayers := hok.seated hserves
      dsimp only at ha hb
      unfold processRoomTick at ha hb
      by_cases hplay : r.roomState = .play
      · rw [if_neg (fun hc => hc hplay), distributeInputs_eq hs] at ha
        rw [if_neg (show ¬ (r.carrying r.playTasks r.playGeneration w).roomState ≠ .play
          from fun hc => hc hplay),
          distributeInputs_eq (r := { r.carrying r.playTasks r.playGeneration w with out := [] })
          hs] at hb
        let dealt : TetrisRoom := { r with
          out := []
          playTasks := []
          roomPlayers := r.roomPlayers.map fun p =>
            p.queueInputs (inputsFor { r with out := [] } p) }
        replace ha : dealt.processGameTick env t = some a := ha
        replace hb : (dealt.carrying dealt.playTasks dealt.playGeneration w).processGameTick env
            t = some b := hb
        rw [processGameTick_multi (r := dealt) hkind] at ha
        rw [processGameTick_multi
          (r := dealt.carrying dealt.playTasks dealt.playGeneration w) hkind] at hb
        exact processGameTick_carrying dealt env w t ha hb
      · rw [if_pos hplay] at ha
        rw [if_pos (show (r.carrying r.playTasks r.playGeneration w).roomState ≠ .play from hplay)]
          at hb
        cases ha
        cases hb
        exact ⟨w, rfl⟩

/-- What two such rooms have in common, event after event. -/
structure Abreast (r r' : TetrisRoom) : Prop where
  alike : AlikeButWinner r r'
  queue : r.playTasks = r'.playTasks
  boards : r.roomState = .play → SameActive r.roomPlayers r'.roomPlayers

theorem Abreast.step {e : RoomEvent} (h : Abreast r r') (hkind : r.kind ≠ .single) (hok : RoomOk r)
    (hok' : RoomOk r') (hserves : env.Serves r e) (hserves' : env.Serves r' e)
    (ha : r.step env e = some a) (hb : r'.step env e = some b) : a.out = b.out ∧ Abreast a b := by
  obtain ⟨w, hw⟩ := h.alike
  have hkind' : r'.kind ≠ .single := by
    rw [← show r.kind = r'.kind from hw.read (·.kind) fun _ => rfl]
    exact hkind
  let crowned := r'.carrying r'.playTasks r'.playGeneration w
  have hokw : RoomOk crowned := ⟨hok'.length, hok'.slots, hok'.distinct, hok'.count⟩
  have hservesw : env.Serves crowned e := hserves'.of_players rfl
  obtain ⟨c, hc, _⟩ := step_ok hokw hservesw
  have hsilent : ∀ {r : TetrisRoom}, env.Serves r e → env.Serves { r with out := [] } e :=
    fun hs => hs.of_players rfl
  have hstep : Alike a.heard a c :=
    @Alike.step { r with out := [] } { crowned with out := [] } a c env hw hkind
      (roomOk_silent hok) (roomOk_silent hokw) e (hsilent hserves) (hsilent hservesw) ha hc
  obtain ⟨w', rfl⟩ := step_carrying hkind' hok' hserves' w hb hc
  refine ⟨hstep.read (·.out) fun _ => rfl, ⟨w', hstep.silent⟩, ?_, fun hon => ?_⟩
  · rw [queue_multi hkind hok hserves ha, queue_multi hkind' hok' hserves' hb, h.queue]
  · have hqueue : r.playTasks = crowned.playTasks := h.queue
    have hboards : r.roomState = .play → SameActive r.roomPlayers crowned.roomPlayers := h.boards
    have hsame := sameActive_step hw hkind hok hokw hserves hservesw hqueue hboards ha hc hstep hon
    exact hsame

/-! ## Rooms of every kind -/

/-- What the rooms of two such runs have in common. -/
structure Companions (r r' : TetrisRoom) : Prop where
  left : Received r
  right : Received r'
  multi : r.kind ≠ .single → Abreast r r'
  single : r.kind = .single → Merged { r with out := [] } { r' with out := [] }

/-- What the veil says of the game. -/
theorem sameCourse_of_alike {keep : PlayerInputTask → Bool} {w : Int}
    (h : Alike keep { r with out := [] }
      { r'.carrying r'.playTasks r'.playGeneration w with out := [] })
    (hqueue : r.playTasks = r'.playTasks)
    (hboards : r.roomState = .play → SameActive r.roomPlayers r'.roomPlayers) :
    SameCourse r r' := by
  have hread : ∀ {α : Type} (f : Player → α),
      (∀ (p : Player) (s : Tetris), f { p with tetris := s } = f p) →
      r.roomPlayers.map f = r'.roomPlayers.map f := by
    intro α f hf
    have hveils : (r.roomPlayers.map Player.veil).map f = (r'.roomPlayers.map Player.veil).map f :=
      congrArg (List.map f) h.players
    have hcomp : f ∘ Player.veil = f := by
      funext p
      by_cases hplay : p.roomPlayerState = .play
      · rw [Function.comp_apply, Player.veil_playing hplay]
      · rw [Function.comp_apply, Player.veil, if_neg hplay, hf]
    rwa [List.map_map, List.map_map, hcomp] at hveils
  have hslots := hread Player.lobbySlot fun _ _ => rfl
  refine ⟨h.read (·.roomState) fun _ => rfl, ?_,
    h.read (·.tetrominoSpawnList) fun _ => rfl, hqueue, hread Player.bare fun _ _ => rfl, hboards⟩
  have hrest : { r.lobby with slots := [] } = { r'.lobby with slots := [] } :=
    h.read (fun r => { r.lobby with slots := [] }) fun _ => rfl
  rw [show r.lobby =
    { { r.lobby with slots := [] } with slots := r.roomPlayers.map Player.lobbySlot } from rfl,
    hrest, hslots]
  rfl

namespace Companions

theorem sameCourse (h : Companions r r') : SameCourse r r' := by
  by_cases hkind : r.kind = .single
  · have hmerged := h.single hkind
    have hqueue : r.playTasks = r'.playTasks := by
      have hkept : r.playTasks.filter (fun _ => true) = r'.playTasks.filter (fun _ => true) :=
        congrArg TetrisRoom.playTasks hmerged.alike
      simpa using hkept
    refine sameCourse_of_alike (w := r'.winnerId) hmerged.alike hqueue fun hplay => ?_
    -- a room for one player is the same as a whole while a game is on
    have hplayers := congrArg TetrisRoom.roomPlayers (hmerged.playing hplay)
    rw [show r.roomPlayers = r'.roomPlayers from hplayers]
    exact .refl _
  · have habreast := h.multi hkind
    obtain ⟨w, halike⟩ := habreast.alike
    exact sameCourse_of_alike halike habreast.queue habreast.boards

theorem fields (h : Companions r r') : r.roomState = r'.roomState ∧ r.roomIndex = r'.roomIndex ∧
    r.playGeneration = r'.playGeneration :=
  ⟨h.sameCourse.state, congrArg Lobby.roomIndex h.sameCourse.lobby,
    congrArg Lobby.playGeneration h.sameCourse.lobby⟩

/-- A packet that is refused leaves both rooms as they are; every other action is one event for
both. -/
theorem act_cases (h : Companions r r') (env : RoomEnv) (action : RoomAction) :
    (r.act env action = some { r with out := [] } ∧
      r'.act env action = some { r' with out := [] }) ∨
      ∃ e, r.act env action = r.step env e ∧ r'.act env action = r'.step env e ∧
        (env.Serves r (action.event r) → env.Serves r e) ∧
        (env.Serves r' (action.event r') → env.Serves r' e) := by
  obtain ⟨hstate, hindex, hgeneration⟩ := h.fields
  cases action with
  | task task => exact .inr ⟨.task task, rfl, rfl, id, id⟩
  | leavePacket key => exact .inr ⟨.leavePacket key, rfl, rfl, id, id⟩
  | tick t => exact .inr ⟨.tick t, rfl, rfl, id, id⟩
  | movePacket key moveType =>
      cases hv : env.findSession key with
      | none =>
          exact .inl ⟨congrArg some (handleMove_unknown hv moveType),
            congrArg some (handleMove_unknown hv moveType)⟩
      | some v =>
          have hleft := @handleMove_found { r with out := [] } env key v hv moveType
          have hright := @handleMove_found { r' with out := [] } env key v hv moveType
          have hsame : ({ r with out := [] } : TetrisRoom).isPlayerInRoom v =
              ({ r' with out := [] } : TetrisRoom).isPlayerInRoom v := by
            simp only [isPlayerInRoom, hindex]
          by_cases hc : ({ r' with out := [] } : TetrisRoom).isPlayerInRoom v = true ∧
            r'.roomState = .play
          · rw [if_pos ⟨hsame.trans hc.1, hstate.trans hc.2⟩] at hleft
            rw [if_pos hc] at hright
            refine .inr ⟨.input ⟨moveType, v.playerId, r.playGeneration⟩, congrArg some hleft, ?_,
              fun hs => serves_input hs _, fun hs => serves_input hs _⟩
            rw [hgeneration]
            exact congrArg some hright
          · rw [if_neg fun hd => hc ⟨hsame.symm.trans hd.1, hstate.symm.trans hd.2⟩] at hleft
            rw [if_neg hc] at hright
            exact .inl ⟨congrArg some hleft, congrArg some hright⟩

/-- **What one action does to both rooms, it does alike**, and it sends the same. -/
theorem act {action : RoomAction} (h : Companions r r') (hserves : env.Serves r (action.event r))
    (hserves' : env.Serves r' (action.event r')) (ha : r.act env action = some a)
    (hb : r'.act env action = some b) : a.out = b.out ∧ Companions a b := by
  have hleft := h.left.act env action hserves ha
  have hright := h.right.act env action hserves' hb
  rcases h.act_cases env action with ⟨hra, hrb⟩ | ⟨e, hra, hrb, hse, hse'⟩
  · rw [hra, Option.some.injEq] at ha
    rw [hrb, Option.some.injEq] at hb
    subst ha
    subst hb
    exact ⟨rfl, hleft, hright,
      fun hkind => ⟨(h.multi hkind).alike, (h.multi hkind).queue, (h.multi hkind).boards⟩,
      h.single⟩
  · rw [hra] at ha
    rw [hrb] at hb
    have hok := roomOk_reachable (received_reachable h.left)
    have hok' := roomOk_reachable (received_reachable h.right)
    have hs := hse hserves
    have hs' := hse' hserves'
    have hkind := kind_stepped ((step_ok hok hs).of_eq_some ha)
    by_cases hsingle : r.kind = .single
    · have hmerged := Merged.step (h.single hsingle) hsingle hok hok' hs hs' ha hb
      exact ⟨hmerged.alike.read (·.out) fun _ => rfl, hleft, hright,
        fun hmulti => absurd (hkind.trans hsingle) hmulti, fun _ => hmerged.silent⟩
    · obtain ⟨hout, habreast⟩ := (h.multi hsingle).step hsingle hok hok' hs hs' ha hb
      exact ⟨hout, hleft, hright,
        fun _ => habreast, fun hs => absurd (hkind.symm.trans hs) hsingle⟩

end Companions

/-! ## Where the two runs part -/

/-- A slot of a room that waits shows nothing of a game, if it has no combo left over. -/
theorem veil_lobbySlot (h : Reachable r) (hwait : r.roomState = .wait) {p : Player}
    (hp : p ∈ r.roomPlayers) (hcombo : p.combo = 0) : p.veil = p.lobbySlot.player := by
  have hslot := (roomOk_reachable h).slots p hp
  obtain ⟨hstate, hindex⟩ := hslot.idle fun hc => absurd (hwait.symm.trans hc.1) (by decide)
  obtain ⟨hscore, hprev⟩ := (rested_reachable h).slots p hp (.inl hwait)
  have hready : (if p.lobbySlot.isReady then RoomPlayerState.ready else .wait) =
      p.roomPlayerState := by
    rcases hstate with hs | hs <;> simp [Player.lobbySlot, hs]
  have hplay : p.roomPlayerState ≠ .play := by
    rcases hstate with hs | hs <;> rw [hs] <;> decide
  have hbuffer := hslot.buffer
  rw [Player.veil, if_neg hplay, LobbySlot.player, hready]
  obtain ⟨key, activeState, game, buffer, state, prev, index, score, combo⟩ := p
  dsimp only at hindex hscore hprev hcombo hbuffer
  subst hindex hscore hprev hcombo hbuffer
  rfl

/-- **The lobby of a room that waits is all its veil shows**, if no combo is left over. -/
theorem veil_waiting (h : Received r) (hwait : r.roomState = .wait)
    (hcombo : ∀ p ∈ r.roomPlayers, p.combo = 0) (keep : PlayerInputTask → Bool) (w : Int) :
    ({ r.carrying r.playTasks r.playGeneration w with out := [] } : TetrisRoom).veil keep =
      r.lobby.room w := by
  have hreach := received_reachable h
  have hslots : r.roomPlayers.map Player.veil = r.lobby.slots.map LobbySlot.player := by
    rw [show r.lobby.slots = r.roomPlayers.map Player.lobbySlot from rfl, List.map_map]
    exact List.map_congr_left fun p hp => veil_lobbySlot hreach hwait hp (hcombo p hp)
  have hfilter : r.playTasks.filter keep = [] := by
    rw [(queueOk_received h).waiting hwait]
    rfl
  rw [Lobby.room, ← hslots, ← hfilter, ← hwait, ← (rested_reachable hreach).pieces hwait]
  rfl

theorem companions_start (h : Received r) (h' : Received r') (hwait : r.roomState = .wait)
    (hwait' : r'.roomState = .wait) (hlobby : r.lobby = r'.lobby)
    (hcombo : ∀ p ∈ r.roomPlayers, p.combo = 0) (hcombo' : ∀ p ∈ r'.roomPlayers, p.combo = 0) :
    Companions r r' := by
  have hkind : r.kind = r'.kind := congrArg Lobby.kind hlobby
  have hoff : r.roomState ≠ .play := by
    rw [hwait]
    decide
  have halike : ∀ keep w, Alike keep { r.carrying r.playTasks r.playGeneration w with out := [] }
      { r'.carrying r'.playTasks r'.playGeneration w with out := [] } := by
    intro keep w
    refine (veil_waiting h hwait hcombo keep w).trans
      (Eq.trans ?_ (veil_waiting h' hwait' hcombo' keep w).symm)
    rw [hlobby]
  refine ⟨h, h', fun _ => ⟨⟨r.winnerId, halike _ r.winnerId⟩, ?_, fun hplay => absurd hplay hoff⟩,
    fun hsingle => .off ?_ hoff⟩
  · rw [(queueOk_received h).waiting hwait, (queueOk_received h').waiting hwait']
  · have hw := (queueOk_received h).winner hsingle
    have hw' := (queueOk_received h').winner (hkind.symm.trans hsingle)
    have hsame := halike (fun _ => true) r.winnerId
    rwa [show r'.carrying r'.playTasks r'.playGeneration r.winnerId = r' from by
      rw [hw, ← hw']
      rfl] at hsame

theorem companions_run {r₀ r₀' : TetrisRoom} (h₀ : Companions r₀ r₀')
    (h : SameActions r₀ r₀' r r') : Companions r r' := by
  induction h with
  | start => exact h₀
  | both _ env action hserves hserves' ha hb ih => exact (ih.act hserves hserves' ha hb).2

/--
**Inputs belong to one game.** Whatever was played before, in two rooms that wait in the same
lobby with no combo left over: the same actions lead to the same games and the same packets.
On the way the inputs in a queue are those of the game that is on, no slot has any left, and
while no game is on none is accepted.
-/
theorem inputs_of_one_game {r₀ r₀' : TetrisRoom} (h₀ : Received r₀) (h₀' : Received r₀')
    (hwait : r₀.roomState = .wait) (hwait' : r₀'.roomState = .wait) (hlobby : r₀.lobby = r₀'.lobby)
    (hcombo : ∀ p ∈ r₀.roomPlayers, p.combo = 0) (hcombo' : ∀ p ∈ r₀'.roomPlayers, p.combo = 0)
    (h : SameActions r₀ r₀' r r') :
    SameCourse r r' ∧ (∀ task ∈ r.playTasks, task.playGeneration = r.playGeneration) ∧
      (∀ p ∈ r.roomPlayers, p.tetris.inputTasks = [] ∧ p.tetris.pendingMoves = fun _ => false) ∧
      (r.roomState ≠ .play → ∀ env key moveType, r.handleMove env key moveType = r) ∧
      ∀ (env : RoomEnv) (action : RoomAction), env.Serves r (action.event r) →
        env.Serves r' (action.event r') →
        ∃ a b, r.act env action = some a ∧ r'.act env action = some b ∧ a.out = b.out ∧
        SameCourse a b := by
  have hboth := companions_run (companions_start h₀ h₀' hwait hwait' hlobby hcombo hcombo') h
  have hok := roomOk_reachable (received_reachable hboth.left)
  have hok' := roomOk_reachable (received_reachable hboth.right)
  refine ⟨hboth.sameCourse, (queueOk_received hboth.left).generation,
    fun p hp => ⟨(hok.slots p hp).fresh.inputs, (hok.slots p hp).fresh.moves⟩,
    fun hoff env key moveType => ?_, fun env action hserves hserves' => ?_⟩
  · exact (handleMove_cases r env key moveType).resolve_right fun hc => hoff hc.1
  · have hdefined : ∃ a b, r.act env action = some a ∧ r'.act env action = some b := by
      rcases hboth.act_cases env action with ⟨hra, hrb⟩ | ⟨e, hra, hrb, hse, hse'⟩
      · exact ⟨_, _, hra, hrb⟩
      · obtain ⟨a, ha, _⟩ := step_ok hok (hse hserves)
        obtain ⟨b, hb, _⟩ := step_ok hok' (hse' hserves')
        exact ⟨a, b, hra.trans ha, hrb.trans hb⟩
    obtain ⟨a, b, ha, hb⟩ := hdefined
    obtain ⟨hout, hafter⟩ := hboth.act hserves hserves' ha hb
    exact ⟨a, b, ha, hb, hout, hafter.sameCourse⟩

/-! ## A combo that is left over -/

/-- A room goes through these actions; the packets and tasks are read in the mode given with each.
-/
def actions (keys : List SessionKey) :
    TetrisRoom → List (ModeState × RoomAction) → Option TetrisRoom
  | r, [] => some r
  | r, (mode, action) :: rest =>
      if AllOf keys r then (r.act (scenarioEnv keys mode 0) action).bind fun r =>
        actions keys r rest
      else none

theorem actions_received {keys : List SessionKey}
    (hkeys : keys.Pairwise fun k k' => k.playerId ≠ k'.playerId) :
    ∀ {as : List (ModeState × RoomAction)} {r r' : TetrisRoom}, Received r →
      actions keys r as = some r' →
      Received r' := by
  intro as
  induction as with
  | nil =>
      intro r r' hr h
      injection h with h
      exact h ▸ hr
  | cons step rest ih =>
      intro r r' hr h
      unfold actions at h
      split at h
      · rename_i hall
        obtain ⟨r₁, hr₁, h⟩ := Option.bind_eq_some_iff.mp h
        exact ih (hr.act _ step.2 (scenarioEnv_serves step.1 0 hkeys hall) hr₁) h
      · cases h

theorem actions_same {keys : List SessionKey}
    (hkeys : keys.Pairwise fun k k' => k.playerId ≠ k'.playerId) {r₀ r₀' : TetrisRoom} :
    ∀ {as : List (ModeState × RoomAction)} {r r' a b : TetrisRoom},
      SameActions r₀ r₀' r r' → actions keys r as = some a → actions keys r' as = some b →
      SameActions r₀ r₀' a b := by
  intro as
  induction as with
  | nil =>
      intro r r' a b h ha hb
      injection ha with ha
      injection hb with hb
      exact ha ▸ hb ▸ h
  | cons step rest ih =>
      intro r r' a b h ha hb
      unfold actions at ha hb
      split at ha
      · rename_i hall
        split at hb
        · rename_i hall'
          obtain ⟨r₁, hr₁, ha⟩ := Option.bind_eq_some_iff.mp ha
          obtain ⟨r₁', hr₁', hb⟩ := Option.bind_eq_some_iff.mp hb
          exact ih (.both h _ step.2 (scenarioEnv_serves step.1 0 hkeys hall)
            (scenarioEnv_serves step.1 0 hkeys hall') hr₁ hr₁') ha hb
        · cases hb
      · cases ha

/-- One line cleared with the first piece, from `start` on; the drop is the last input, if it is
made. -/
def firstPiece (start : Int) (drops : Bool) : List (ModeState × RoomAction) :=
  [(.room, .task ⟨.start, hostKey, "", -1, -1⟩),
    (.room, .movePacket hostKey EventType.rotate.toInt),
      (.room, .tick start)] ++
    ([start + 400, start + 700, start + 1000, start + 1300, start + 1600].flatMap fun t =>
      [(.room, .movePacket hostKey EventType.left.toInt), (.room, .tick t)]) ++
    (if drops then [(.room, .movePacket hostKey EventType.drop.toInt)] else [])

/-- The first game is given up after its first piece was dropped, or before. -/
def gameGivenUp (drops : Bool) : Option TetrisRoom :=
  actions [hostKey] (scenarioRoom .single [hostKey] hostKey)
    (firstPiece 20000 drops ++ [(.room, .tick 22200),
      (.room, .task ⟨.giveUp, hostKey, "", -1, -1⟩)])

/-- The `C2S_MOVE` of one game shows in a packet of the next: its combo is counted on. -/
theorem move_outlives_game :
    ∃ (r₀ r₀' r r' : TetrisRoom) (env : RoomEnv) (action : RoomAction) (a b : TetrisRoom),
    gameGivenUp true = some r₀ ∧ gameGivenUp false = some r₀' ∧ Received r₀ ∧ Received r₀' ∧
      r₀.roomState = .wait ∧ r₀'.roomState = .wait ∧ r₀.lobby = r₀'.lobby ∧
      SameActions r₀ r₀' r r' ∧
      env.Serves r (action.event r) ∧ env.Serves r' (action.event r') ∧ r.act env action = some a ∧
      r'.act env action = some b ∧ a.out ≠ b.out := by
  have hrun : (gameGivenUp true).any (fun r₀ => (gameGivenUp false).any fun r₀' =>
      decide (r₀.lobby = r₀'.lobby) && decide (r₀.roomState = .wait ∧ r₀'.roomState = .wait) &&
      (actions [hostKey] r₀ (firstPiece 40000 true)).any fun r =>
        (actions [hostKey] r₀' (firstPiece 40000 true)).any fun r' =>
          decide (AllOf [hostKey] r ∧ AllOf [hostKey] r') &&
            (r.act (worldOf [hostKey]) (.tick 42200)).any fun a =>
              (r'.act (worldOf [hostKey]) (.tick 42200)).any fun b =>
                decide (a.out ≠ b.out)) = true := by
    decide +kernel
  simp only [Option.any_eq_true, Bool.and_eq_true, decide_eq_true_eq] at hrun
  obtain ⟨r₀, hr₀, r₀', hr₀', ⟨hlobby, hwait, hwait'⟩, r, hr, r', hr', ⟨hall, hall'⟩, a,
    ha, b, hb, hne⟩ := hrun
  have hreceived : ∀ {drops r}, gameGivenUp drops = some r → Received r := fun h =>
    actions_received (by decide) (.created (scenarioRoom_created .single (by decide))) h
  exact ⟨r₀, r₀', r, r', worldOf [hostKey], .tick 42200, a, b, hr₀, hr₀', hreceived hr₀,
    hreceived hr₀', hwait, hwait', hlobby, actions_same (by decide) .start hr hr',
    scenarioEnv_serves .room 0 (by decide) hall, scenarioEnv_serves .room 0 (by decide) hall',
    ha, hb, hne⟩

/-- A first game in which nothing is pressed, given up too. -/
def gameUntouched : Option TetrisRoom :=
  actions [hostKey] (scenarioRoom .single [hostKey] hostKey)
    [(.room, .task ⟨.start, hostKey, "", -1, -1⟩), (.room, .tick 20000),
      (.room, .task ⟨.giveUp, hostKey, "", -1, -1⟩)]

/-- The second game after two first games of different inputs, with its first piece dropped. -/
theorem inputs_of_one_game_secondGame : ∃ r₀ r₀' r r' : TetrisRoom, gameGivenUp false = some r₀ ∧
    gameUntouched = some r₀' ∧ actions [hostKey] r₀ (firstPiece 40000 true) = some r ∧
    actions [hostKey] r₀' (firstPiece 40000 true) = some r' ∧ r.roomState = .play ∧
    SameCourse r r' ∧ (∀ task ∈ r.playTasks, task.playGeneration = r.playGeneration) ∧
      (∀ p ∈ r.roomPlayers, p.tetris.inputTasks = [] ∧ p.tetris.pendingMoves = fun _ => false) ∧
      (r.roomState ≠ .play → ∀ env key moveType, r.handleMove env key moveType = r) ∧
      ∀ (env : RoomEnv) (action : RoomAction), env.Serves r (action.event r) →
        env.Serves r' (action.event r') →
        ∃ a b, r.act env action = some a ∧ r'.act env action = some b ∧ a.out = b.out ∧
        SameCourse a b := by
  have hrun : (gameGivenUp false).any (fun r₀ => gameUntouched.any fun r₀' =>
      decide (r₀.lobby = r₀'.lobby) && decide (r₀.roomState = .wait ∧ r₀'.roomState = .wait) &&
      decide ((∀ p ∈ r₀.roomPlayers, p.combo = 0) ∧ ∀ p ∈ r₀'.roomPlayers, p.combo = 0) &&
      (actions [hostKey] r₀ (firstPiece 40000 true)).any fun r =>
        (actions [hostKey] r₀' (firstPiece 40000 true)).any fun r' =>
          decide (r.roomState = .play)) = true := by
    decide +kernel
  simp only [Option.any_eq_true, Bool.and_eq_true, decide_eq_true_eq] at hrun
  obtain ⟨r₀, hr₀, r₀', hr₀', ⟨⟨hlobby, hwait, hwait'⟩, hcombo, hcombo'⟩, r, hr, r', hr', hplay⟩ :=
    hrun
  have hcreated : Received (scenarioRoom .single [hostKey] hostKey) :=
    .created (scenarioRoom_created .single (by decide))
  exact ⟨r₀, r₀', r, r', hr₀, hr₀', hr, hr', hplay,
    inputs_of_one_game (actions_received (by decide) hcreated hr₀)
      (actions_received (by decide) hcreated hr₀') hwait
      hwait' hlobby hcombo hcombo' (actions_same (by decide) .start hr hr')⟩

end TetrisRoom

end ProjectTetris

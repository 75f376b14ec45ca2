import ProjectTetris.Client.TetrisBoard
import ProjectTetris.Net.C2SType

/-!
# The client's room

`multi_play_state.py` and the part of `tetris_session.py` that says who is in a slot,
whose room it is and who is ready. Boards are in `TetrisBoard`. Of the buttons only the
ready button is here in full, with the clicks that press it before the server has said
anything; no slot with a ready button has a start button, and the kick buttons are left out.

`none` is an exception, as in `TetrisBoard`.
-/

namespace ProjectTetris

namespace Client

/-- `Session` of the client: its own, or that of somebody it has been told about. -/
structure Session where
  id : Int
  nickname : String
  isSelf : Bool
  deriving DecidableEq, Repr

structure ToggleButton where
  reactable : Bool
  pressed : Bool
  visible : Bool
  deriving DecidableEq, Repr

/-- `handle_event`; `hit` is a left click on the button. A second click does not release it. -/
def ToggleButton.handleEvent (button : ToggleButton) (hit : Bool) : ToggleButton × Bool :=
  if button.reactable = false then (button, false)
  else if hit then ({ button with pressed := true }, true)
  else (button, false)

/-- `TetrisSession`, one slot of the room. -/
structure TetrisSession where
  session : Option Session
  isHost : Bool
  btnReady : Option ToggleButton
  /-- `btn_start` is there. -/
  btnStart : Bool
  deriving DecidableEq, Repr

namespace TetrisSession

/-- A new slot, after `set_layout`. -/
def new : TetrisSession where
  session := none
  isHost := false
  btnReady := some ⟨true, false, true⟩
  btnStart := false

/-- `init_session`: the button of somebody else does not react. -/
def initSession (s : TetrisSession) (session : Session) : TetrisSession :=
  { s with
    session := some session
    btnReady := s.btnReady.map fun button =>
      if session.isSelf then button else { button with reactable := false } }

/-- `self.session.id == id`, where there is a session. -/
def hasId (s : TetrisSession) (id : Int) : Bool := s.session.any (·.id = id)

/-- `set_ready`: without a button there is nothing to press. -/
def setReady (s : TetrisSession) (isReady : Bool) : Option TetrisSession := do
  let button ← s.btnReady
  some { s with btnReady := some { button with pressed := isReady } }

def setIsHost (s : TetrisSession) : Option TetrisSession := do
  let session ← s.session
  if session.isSelf then some { s with isHost := true, btnReady := none, btnStart := true }
  else
    let button ← s.btnReady
    some { s with isHost := true, btnReady := some { button with visible := false } }

/-- `reset`, at the end of a game. -/
def reset (s : TetrisSession) : TetrisSession :=
  { s with btnReady := s.btnReady.map fun button => { button with pressed := false } }

/-- `clear`: the slot is free again; the button stays as it was pressed. -/
def clear (s : TetrisSession) : TetrisSession :=
  { s with
    session := none
    isHost := false
    btnReady := s.btnReady.map fun button => { button with visible := true } }

/-- `handle_event`, with `"ready"` as `true`; a player in a game has his controller instead. -/
def handleEvent (s : TetrisSession) (playing hit : Bool) : TetrisSession × Bool :=
  match s.session, s.btnReady with
  | some _, some button =>
      if playing then (s, false)
      else
        let (button, ready) := button.handleEvent hit
        ({ s with btnReady := some button }, ready)
  | _, _ => (s, false)

/-- The slot shows a ready button that is pressed; over that of a host is his crown. -/
def showsReady (s : TetrisSession) : Bool :=
  !s.isHost && s.btnReady.any fun button => button.pressed && button.visible

end TetrisSession

structure MultiPlayState where
  players : List TetrisSession
  hostIndex : Int
  /-- `next_state` is a `LobbyState`: no further packet is handled here. -/
  nextState : Bool
  deriving DecidableEq, Repr

namespace MultiPlayState

/-- `__init__`: the client's own session has the first slot. -/
def init (maxPlayer : Int) (self : Session) : MultiPlayState where
  players :=
    if maxPlayer = 2 then [TetrisSession.new.initSession self, .new]
    else if maxPlayer = 5 then TetrisSession.new.initSession self :: List.replicate 4 .new
    else []
  hostIndex := -1
  nextState := false

/-- The packets with which `LobbyState` goes over to a room for several players. -/
def enter (self : Session) : S2CPacket → Option MultiPlayState
  | .addPublicRoom _ maxPlayer _ | .addPrivateRoom _ maxPlayer _ _ =>
      if maxPlayer = 2 ∨ maxPlayer = 5 then some (init maxPlayer self) else none
  | _ => none

/-- The first slot with this id. -/
def slotOf (c : MultiPlayState) (id : Int) : Option Nat := c.players.findIdx? (·.hasId id)

/-- The slot `add_user` puts somebody new into. -/
def freeSlot (c : MultiPlayState) : Option Nat := c.players.findIdx? fun s => s.session.isNone

/-- `self.players[self.host_index]`. -/
def hostPlayer (c : MultiPlayState) : Option TetrisSession := do
  c.players[← pyIndex c.players.length c.hostIndex]?

def addUser (c : MultiPlayState) (session : Session) : Option MultiPlayState :=
  if (c.slotOf session.id).isSome then some c
  else
    match c.freeSlot with
    | none => some c
    | some i =>
        let c := { c with players := c.players.modify i (·.initSession session) }
        if c.hostIndex ≠ -1 then c.hostPlayer.map fun _ => c else some c

/-- `S2C_UPDATE_HOST`: the slot, then a look at whether the room is the client's own. -/
def updateHost (c : MultiPlayState) (newHostId : Int) : Option MultiPlayState := do
  let c ←
    match c.slotOf newHostId with
    | none => some c
    | some i => do
        let host ← (← c.players[i]?).setIsHost
        some { c with players := c.players.set i host, hostIndex := i }
  let _ ← (← c.hostPlayer).session
  some c

def setReady (c : MultiPlayState) (id : Int) (isReady : Bool) : Option MultiPlayState :=
  match c.slotOf id with
  | none => some c
  | some i => do
      let s ← (← c.players[i]?).setReady isReady
      some { c with players := c.players.set i s }

/-- `S2C_DELETE_USER`. -/
def deleteUser (c : MultiPlayState) (id : Int) : Option MultiPlayState :=
  match c.slotOf id with
  | none => some c
  | some i => do
      let session ← (← c.players[i]?).session
      if session.isSelf then some { c with nextState := true }
      else some { c with players := c.players.modify i (·.clear) }

def resetRoom (c : MultiPlayState) : MultiPlayState :=
  { c with players := c.players.map fun s => if s.session.isSome then s.reset else s }

/-- `handle_packet`. The other packets are about games, or popups. -/
def handlePacket (c : MultiPlayState) : S2CPacket → Option MultiPlayState
  | .updateHost newHostId => c.updateHost newHostId
  | .addPlayer id name => c.addUser ⟨id, name, false⟩
  | .ready id isReady => c.setReady id isReady
  | .removePlayer id => c.deleteUser id
  | .gameEnd _ => some c.resetRoom
  | _ => some c

/--
`handle_event`, and what it sends. Which slots are in a game is up to packets that are not
here; `hits` are the slots whose ready button is clicked.
-/
def handleEvent (c : MultiPlayState) (playing hits : Nat → Bool) : MultiPlayState × List C2SType :=
  let handled := c.players.mapIdx fun i s => s.handleEvent (playing i) (hits i)
  ({ c with players := handled.map (·.1) }, (handled.filter (·.2)).map fun _ => .ready)

end MultiPlayState

/-! ## Packets and clicks in turn -/

/-- What a client takes in: a packet, or an event of its user. -/
inductive Input where
  | packet (packet : S2CPacket)
  | event (playing hits : Nat → Bool)

def Input.packet? : Input → Option S2CPacket
  | .packet p => some p
  | .event _ _ => none

/-- The packet decides how the ready button of the player `me` stands. -/
def answers (me : Int) : S2CPacket → Bool
  | .ready id _ => id = me
  | .updateHost id => id = me
  | .gameEnd _ => true
  | _ => false

/-- A client whose clicks are watched. -/
structure Watched where
  client : MultiPlayState
  /-- A click has pressed a ready button, and nothing has come from the server about it. -/
  clicked : Bool
  deriving DecidableEq, Repr

namespace Watched

/-- `clicked` takes no part in what the client does. -/
def take (me : Int) (w : Watched) : Input → Option Watched
  | .packet packet => do
      let c ← w.client.handlePacket packet
      some ⟨c, w.clicked && !answers me packet⟩
  | .event playing hits =>
      let c := (w.client.handleEvent playing hits).1
      some ⟨c, w.clicked || decide (c ≠ w.client)⟩

/-- `drain_packets` and `update` in turn; they stop once another state is about to follow. -/
def takeAll (me : Int) : Watched → List Input → Option Watched
  | w, [] => some w
  | w, input :: rest =>
      if w.client.nextState then some w else (w.take me input).bind fun w => takeAll me w rest

/-- The same of a session in the lobby, from where it goes into a room for several players. -/
def takeFromLobby (self : Session) : List Input → Option Watched
  | [] => none
  | .event _ _ :: rest => takeFromLobby self rest
  | .packet packet :: rest =>
      match MultiPlayState.enter self packet with
      | some c => takeAll self.id ⟨c, false⟩ rest
      | none => takeFromLobby self rest

end Watched

namespace MultiPlayState

/-! ## What it shows -/

/-- The id in each slot. -/
def ids (c : MultiPlayState) : List (Option Int) := c.players.map fun s => s.session.map (·.id)

/-- Whoever has a slot that satisfies `P`. -/
def idsWhere (c : MultiPlayState) (P : TetrisSession → Bool) : List Int :=
  (c.players.filter P).filterMap fun s => s.session.map (·.id)

def memberIds (c : MultiPlayState) : List Int := c.idsWhere fun _ => true

def hostIds (c : MultiPlayState) : List Int := c.idsWhere (·.isHost)

def readyIds (c : MultiPlayState) : List Int := c.idsWhere (·.showsReady)

end MultiPlayState

end Client

end ProjectTetris

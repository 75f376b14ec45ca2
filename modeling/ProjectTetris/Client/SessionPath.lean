import ProjectTetris.Client.GameLoop
import ProjectTetris.Lib.Transition

/-!
# One session between lobby and rooms

What the server keeps of a session that has logged in: its `ModeState`, its
`LobbySession` and its place in the active list of the lobby, whether a room has it, and
the tasks that are under way for it. The client at the other end is a `GameLoop`; what
they send each other arrives in order.

`ROOM_TRANSITION_RESULT` and `ENTER_LOBBY` are taken in two steps each, because the two
threads of the lobby may be at both of them.
-/

namespace ProjectTetris

open Client Transition

/-- How far a `ROOM_TRANSITION_RESULT` with `SUCCESS` has come. -/
inductive ResultStage where
  | queued
  /-- `LobbySession::Clear` is done, `RemoveActiveSession` is not. -/
  | cleared
  deriving DecidableEq, Repr

structure SessionPath where
  modeState : ModeState
  /-- The state of its `LobbySession`. -/
  entry : ActiveEntryState
  /-- Its id is in the active list and in `session_index_registry_`. -/
  registered : Bool
  /-- A room is to be created or joined, or the refusal is on its way to the lobby. -/
  deciding : Bool
  result : Option ResultStage
  /-- The capacity of the room in which it has a slot. -/
  seat : Option Int
  /-- `ENTER_LOBBY` is queued. -/
  leaving : Bool
  /-- `ENTER_LOBBY` has set the mode, and is still at it. -/
  entering : Bool
  deriving DecidableEq, Repr

namespace SessionPath

/-- In the lobby after the login. -/
def inLobby : SessionPath where
  modeState := .lobby
  entry := .active
  registered := true
  deciding := false
  result := none
  seat := none
  leaving := false
  entering := false

/-- `BeginRoomTransition`. -/
def beginRoomTransition (p : SessionPath) : Option SessionPath :=
  if p.modeState = .lobby ∧ p.entry = .active then
    some { p with entry := .pending, deciding := true } else none

/-- `CreatePublicRoom`, `CreatePrivateRoom` or `AddPlayer` has succeeded. -/
def accept (p : SessionPath) (capacity : Int) : Option SessionPath :=
  if p.deciding ∧ p.modeState = .lobby then
    some { p with
      modeState := .room
      deciding := false
      result := some .queued
      seat := some capacity }
  else none

/-- `ROOM_TRANSITION_RESULT` of a refusal. -/
def reject (p : SessionPath) : Option SessionPath :=
  if p.deciding then
    some { p with deciding := false, entry := if p.entry = .pending then .active else p.entry }
  else none

/-- `LobbySession::Clear` of a `ROOM_TRANSITION_RESULT` with `SUCCESS`. -/
def clearEntry (p : SessionPath) : Option SessionPath :=
  if p.result = some .queued then
    some (if p.entry = .empty then { p with result := none }
      else { p with entry := .empty, result := some .cleared })
  else none

/-- `RemoveActiveSession` after it. -/
def removeActiveSession (p : SessionPath) : Option SessionPath :=
  if p.result = some .cleared then some { p with registered := false, result := none } else none

/-- `RequestLobbyTransition`, if a room has the session. -/
def requestLobbyTransition (p : SessionPath) : Option SessionPath :=
  if p.seat.isSome then some { p with seat := none, leaving := true } else none

/-- `ENTER_LOBBY` up to `TrySetLobbyMode`. -/
def enterLobby (p : SessionPath) : Option SessionPath :=
  if p.leaving then
    some (if p.modeState = .room ∧ p.entry = .empty then
      { p with leaving := false, entering := true, entry := .pending, modeState := .lobby }
    else { p with leaving := false })
  else none

/-- The rest of `ENTER_LOBBY`, and whether the client is told. -/
def completeEnterLobby (p : SessionPath) : Option (SessionPath × Bool) :=
  if p.entering then
    some (if p.entry = .pending then
      if p.registered then ({ p with entering := false, entry := .empty }, false)
      else ({ p with entering := false, entry := .active, registered := true }, true)
    else ({ p with entering := false }, false))
  else none

end SessionPath

/-! ## The session and its client -/

/-- `S2C_ADD_PUBLIC_ROOM` or `S2C_ADD_PRIVATE_ROOM`, of a room the server creates. -/
def S2CPacket.roomCapacity : S2CPacket → Option Int
  | .addPublicRoom _ maxPlayerCount _ | .addPrivateRoom _ maxPlayerCount _ _ => some maxPlayerCount
  | _ => none

/-- A packet that takes the client `me` to another screen, or tells it that it has been kicked. -/
def S2CPacket.changesMode (me : Session) (packet : S2CPacket) : Bool :=
  packet.roomCapacity.isSome || decide (packet = .removePlayer me.id) ||
    decide (packet = .info kicked)

/-- The two ends, and what is on its way between them. -/
structure Connection where
  client : GameLoop
  requests : List Request
  server : SessionPath
  packets : List S2CPacket
  deriving DecidableEq, Repr

inductive ConnectionAction where
  /-- A frame of the client, with what the user has clicked on. -/
  | update (dtMs : ℚ) (events : List Click)
  /-- `drain_packets` takes one packet. -/
  | drain
  | beginRoomTransition
  /-- A request for a room comes to nothing. -/
  | refuse
  | accept (packet : S2CPacket)
  | reject
  | clearEntry
  | removeActiveSession
  /-- `C2S_REMOVE_PLAYER`. -/
  | leave
  | kick
  | enterLobby
  | completeEnterLobby
  /-- Anything else the server has to say. -/
  | send (packet : S2CPacket)

namespace Connection

variable (me : Session)

/-- The next request, if it is this one, is read. -/
def read (c : Connection) (request : Request) : Option Connection :=
  match c.requests with
  | first :: rest => if first = request then some { c with requests := rest } else none
  | [] => none

def step : ConnectionAction → Connection → Option Connection
  | .update dtMs events, c =>
      let (client, sent) := c.client.update dtMs events
      some { c with client := client, requests := c.requests ++ sent }
  | .drain, c =>
      match c.packets with
      | packet :: rest =>
          if c.client.nextState = none then
            (c.client.handlePacket me packet).map fun client =>
              { c with client := client, packets := rest }
          else none
      | [] => none
  | .beginRoomTransition, c => do
      let c ← c.read .room
      some { c with server := ← c.server.beginRoomTransition }
  | .refuse, c => c.read .room
  | .accept packet, c =>
      match packet.roomCapacity with
      | some capacity =>
          if capacity = 1 ∨ capacity = 2 ∨ capacity = 5 then do
            some { c with server := ← c.server.accept capacity, packets := c.packets ++ [packet] }
          else none
      | none => none
  | .reject, c => do some { c with server := ← c.server.reject }
  | .clearEntry, c => do some { c with server := ← c.server.clearEntry }
  | .removeActiveSession, c => do some { c with server := ← c.server.removeActiveSession }
  | .leave, c => do
      let c ← c.read .leave
      -- a session no room has is in no room it could leave
      some { c with server := c.server.requestLobbyTransition.getD c.server }
  | .kick, c =>
      if c.server.seat = some 1 then none
      else do
        some { c with server := ← c.server.requestLobbyTransition, packets := c.packets ++ [.info
          kicked] }
  | .enterLobby, c => do some { c with server := ← c.server.enterLobby }
  | .completeEnterLobby, c => do
      let (server, told) ← c.server.completeEnterLobby
      some { c with
        server := server
        packets := if told then c.packets ++ [.removePlayer me.id] else c.packets }
  | .send packet, c =>
      if packet.changesMode me then none else some { c with packets := c.packets ++ [packet] }

def start (c : Connection) : Prop := c = ⟨.init, [], .inLobby, []⟩

instance : DecidablePred start := fun c => inferInstanceAs (Decidable (c = _))

/-- A client that has logged in, whatever it and the server do. -/
def system : System Connection := .taking start (step me) fun _ _ => True

/-- A room has been asked for, and the client has not come to it, nor has it been refused. -/
def Unanswered (c : Connection) : Prop :=
  .room ∈ c.requests ∨ c.server.deciding = true ∨ ∃ packet ∈ c.packets,
    packet.roomCapacity.isSome = true

instance (c : Connection) : Decidable c.Unanswered := by unfold Unanswered; infer_instance

/-- The ranking is opened only while no room is asked for, and `ENTER_LOBBY` waits its turn. -/
def Careful : ConnectionAction → Connection → Prop
  | .update _ events, c =>
      .ranking ∈ events → c.client.state.isLobby = true → c.client.isInputBlocked = false →
      ¬ c.Unanswered ∧ .room ∉ events
  | .enterLobby, c => c.server.result = none
  | _, _ => True

instance : ∀ (a : ConnectionAction) (c : Connection), Decidable (Careful a c)
  | .update _ events, c =>
      inferInstanceAs (Decidable (.ranking ∈ events → c.client.state.isLobby = true →
      c.client.isInputBlocked = false → ¬ c.Unanswered ∧ .room ∉ events))
  | .enterLobby, c => inferInstanceAs (Decidable (c.server.result = none))
  | .drain, _ | .beginRoomTransition, _ | .refuse, _ | .accept _, _ | .reject, _ | .clearEntry, _
  | .removeActiveSession, _ | .leave, _ | .kick, _ | .completeEnterLobby, _ | .send _, _ =>
      .isTrue trivial

def carefulSystem : System Connection := .taking start (step me) Careful

/-- The client has done with a packet what its sender means it to. -/
structure HandledRight (packet : S2CPacket) (g : GameLoop) : Prop where
  room : packet.roomCapacity.isSome = true → ∃ next, g.nextState = some next ∧ next.isPlay = true
  notice : packet = .info kicked → g.state = .lobby (some kicked)
  lobby : packet = .removePlayer me.id → g.target.isLobby = true

/-- Every packet is handled, no screen is fading to another, and no task is half done. -/
def Settled (c : Connection) : Prop :=
  c.packets = [] ∧ c.client.nextState = none ∧ c.server.entering = false

instance : DecidablePred Settled := fun c => by unfold Settled; infer_instance

/-- The client is on the screen of a room exactly if the server has it in one. -/
def ScreenAgrees (c : Connection) : Prop :=
  c.client.state.isPlay = true ↔ c.server.modeState = .room

instance : DecidablePred ScreenAgrees := fun c => by unfold ScreenAgrees; infer_instance

end Connection

end ProjectTetris

import Mathlib.Algebra.Order.Field.Rat
import ProjectTetris.Client.MultiPlayState
import ProjectTetris.Rooms.TetrisRoom

/-!
# The screens of the client

`game_loop.py` and what its states do about each other: `handle_packet` and
`handle_event` of the lobby, the ranking and the two play states, and `base_state.py`
with its fades. Times are rational milliseconds.

A click stands for what it comes to: the menus and windows that lead to a request for a
room are one click here, and so are the popups that close. Clicks on the buttons of a room
change no screen; those on a ready button are in `MultiPlayState`.
-/

namespace ProjectTetris

namespace Client

inductive FadeMode where
  | fadeIn | fadeOut
  deriving DecidableEq, Repr

/-- The states behind `GameLoop.state`; the lobby with its `info_popup`. -/
inductive Screen where
  | lobby (infoPopup : Option Int)
  | ranking
  | single
  | multi (room : MultiPlayState)
  deriving DecidableEq, Repr

/-- What a click of the user comes to. -/
inductive Click where
  /-- A room is asked for: a new one, one of the list, or any one that fits. -/
  | room
  | ranking
  | back
  | exit
  | confirm
  | other
  deriving DecidableEq, Repr

/-- The packets to the server that have to do with rooms. -/
inductive Request where
  | room
  | leave
  deriving DecidableEq, Repr

/-- `GameLoop`, with the fields of its current state. -/
structure GameLoop where
  state : Screen
  nextState : Option Screen
  fadeMode : Option FadeMode
  fadeElapsedMs : ℚ
  deriving DecidableEq, Repr

/-- `FADE_DURATION_MS`. -/
def fadeDurationMs : ℚ := 500

namespace Screen

def isPlay : Screen → Bool
  | .single | .multi _ => true
  | .lobby _ | .ranking => false

def isLobby : Screen → Bool
  | .lobby _ => true
  | _ => false

end Screen

namespace GameLoop

/-- A new lobby. -/
def init : GameLoop := ⟨.lobby none, none, none, 0⟩

/-- The screen the client shows, or is fading to. -/
def target (g : GameLoop) : Screen := g.nextState.getD g.state

/-- `queue_state`. -/
def queueState (g : GameLoop) (next : Screen) : GameLoop :=
  if g.nextState = none then
    { g with nextState := some next, fadeMode := some .fadeOut, fadeElapsedMs := 0 }
  else g

/-- `S2C_ADD_OPEN_ROOM` and `S2C_ADD_LOCK_ROOM` in the lobby. -/
def enterRoom (g : GameLoop) (self : Session) (maxUser : Int) : GameLoop :=
  if maxUser = 1 then g.queueState .single
  else if maxUser = 2 ∨ maxUser = 5 then g.queueState (.multi (MultiPlayState.init maxUser self))
  else g

/-- `handle_packet` of the current state. -/
def handlePacket (g : GameLoop) (self : Session) (packet : S2CPacket) : Option GameLoop :=
  match g.state with
  | .lobby _ =>
      match packet with
      | .info code => some { g with state := .lobby (some code) }
      | .addPublicRoom _ maxUser _ | .addPrivateRoom _ maxUser _ _ =>
          some (g.enterRoom self maxUser)
      | _ => some g
  | .ranking => some g
  | .single =>
      match packet with
      | .removePlayer id => some (if id = self.id then g.queueState (.lobby none) else g)
      | _ => some g
  | .multi room => do
      let room ← room.handlePacket packet
      let g := { g with state := .multi room }
      some (if room.nextState then g.queueState (.lobby none) else g)

/-- `handle_event` of the current state, and what is sent. -/
def handleEvent (g : GameLoop) (click : Click) : GameLoop × List Request :=
  match g.state, click with
  | .lobby _, .room => (g, [.room])
  | .lobby _, .ranking => (g.queueState .ranking, [])
  | .lobby _, .confirm => ({ g with state := .lobby none }, [])
  | .ranking, .back => (g.queueState (.lobby none), [])
  | .single, .exit | .multi _, .exit => (g, [.leave])
  | _, _ => (g, [])

def handleEvents : GameLoop → List Click → GameLoop × List Request
  | g, [] => (g, [])
  | g, click :: rest =>
      let (g, sent) := g.handleEvent click
      let (g, more) := handleEvents g rest
      (g, sent ++ more)

def updateFade (g : GameLoop) (dtMs : ℚ) : GameLoop :=
  match g.fadeMode with
  | none => g
  | some mode =>
      let elapsed := min (g.fadeElapsedMs + dtMs) fadeDurationMs
      { g with
        fadeElapsedMs := elapsed
        fadeMode := if mode = .fadeIn ∧ fadeDurationMs ≤ elapsed then none else some mode }

/-- `consume_state`, and `start_fade_in` of the state that follows. -/
def consumeState (g : GameLoop) : GameLoop :=
  match g.nextState with
  | some next =>
      if g.fadeMode = some .fadeOut ∧ fadeDurationMs ≤ g.fadeElapsedMs then
        ⟨next, none, some .fadeIn, 0⟩ else g
  | none => g

def isInputBlocked (g : GameLoop) : Bool := g.fadeMode.isSome

/-- `update`: a state that fades is not handed the events. -/
def update (g : GameLoop) (dtMs : ℚ) (events : List Click) : GameLoop × List Request :=
  let (g, sent) := g.handleEvents (if g.isInputBlocked then [] else events)
  ((g.updateFade dtMs).consumeState, sent)

end GameLoop

end Client

end ProjectTetris

import Mathlib.Algebra.Order.Field.Rat
import Mathlib.Data.List.Count
import ProjectTetris.Lib.AutoRepeat

/-!
# The keys of a player

`tetris_controller.py`, and what `tetris_session.py` lets through to it: events and frames
reach the controller only while the session plays. Left, right and down repeat; turning and
dropping do not. A drop lifts all keys, and a key that is let go outside a game is never let
go for the controller. Times are rational milliseconds.
-/

namespace ProjectTetris.Client

open AutoRepeat

inductive MoveType where
  | right | left | rotate | down | drop
  deriving DecidableEq, Repr

/-- The keys that repeat. -/
inductive RepeatKey where
  | left | right | down
  deriving DecidableEq, Repr

def RepeatKey.move : RepeatKey → MoveType
  | .left => .left
  | .right => .right
  | .down => .down

/-- `K_LEFT`, `K_RIGHT` and `K_DOWN`; `K_SPACE`; `K_UP`. -/
inductive ControlKey where
  | repeats (key : RepeatKey)
  | space
  | up
  deriving DecidableEq, Repr

/-- `first_delay_ms`. -/
def firstDelayMs : ℚ := 300

/-- `delay_ms`. -/
def delayMs : ℚ := 50

/-- The fields `left_…`, `right_…` and `down_…` of a direction are one key. -/
structure TetrisController where
  keys : RepeatKey → Key ℚ := fun _ => .released
  rotatePressed : Bool := false
  dropPressed : Bool := false

namespace TetrisController

def setKey (c : TetrisController) (key : RepeatKey) (k : Key ℚ) : TetrisController :=
  { c with keys := fun key' => if key' = key then k else c.keys key' }

def keyDown (c : TetrisController) : ControlKey → TetrisController
  | .repeats key => c.setKey key (c.keys key).press
  | .space => { c with dropPressed := true }
  | .up => { c with rotatePressed := true }

def keyUp (c : TetrisController) : ControlKey → TetrisController
  | .repeats key => c.setKey key .released
  | .space => { c with dropPressed := false }
  | .up => { c with rotatePressed := false }

/-- `send_move_handler`, after the keys have done their part: what `K_UP` and `K_SPACE` send. -/
def sendPresses (c : TetrisController) : TetrisController × List MoveType :=
  let rotates := if c.rotatePressed then [MoveType.rotate] else []
  if c.dropPressed then
    (⟨fun key => (c.keys key).lift, false, false⟩, rotates ++ [.drop])
  else ({ c with rotatePressed := false }, rotates)

/-- `update`: the time passes for the keys that are pressed, then `send_move_handler` sends the
moves. -/
def update (c : TetrisController) (dtMs : ℚ) : TetrisController × List MoveType :=
  let acted (key : RepeatKey) :=
    List.replicate ((c.keys key).frame firstDelayMs delayMs dtMs).2 key.move
  let (after, presses) :=
    { c with keys := fun key => ((c.keys key).frame firstDelayMs delayMs dtMs).1 }.sendPresses
  (after, acted .left ++ acted .right ++ acted .down ++ presses)

def clear (_ : TetrisController) : TetrisController := {}

end TetrisController

/-- The player's own `TetrisSession`: whether its state is `PLAY`. -/
structure PlaySession where
  playing : Bool := false
  controller : TetrisController := {}

inductive PlayInput where
  | keyDown (key : ControlKey)
  | keyUp (key : ControlKey)
  | update (dtMs : ℚ)
  /-- `set_state`. -/
  | setPlaying (playing : Bool)
  | clear
  deriving DecidableEq, Repr

/-- The frame an input is. -/
def PlayInput.dtMs : PlayInput → ℚ
  | .update dtMs => dtMs
  | _ => 0

/-- The input lets the key go. -/
def PlayInput.Releases (key : RepeatKey) : PlayInput → Prop
  | .keyUp key' => key' = .repeats key
  | .clear => True
  | _ => False

instance (key : RepeatKey) : DecidablePred (PlayInput.Releases key)
  | .keyUp key' => inferInstanceAs (Decidable (key' = .repeats key))
  | .clear => inferInstanceAs (Decidable True)
  | .keyDown _ | .update _ | .setPlaying _ => inferInstanceAs (Decidable False)

namespace PlaySession

def step (s : PlaySession) : PlayInput → PlaySession × List MoveType
  | .keyDown key =>
      (if s.playing then { s with controller := s.controller.keyDown key } else s, [])
  | .keyUp key => (if s.playing then { s with controller := s.controller.keyUp key } else s, [])
  | .update dtMs =>
      if s.playing then
        let (controller, moves) := s.controller.update dtMs
        ({ s with controller }, moves)
      else (s, [])
  | .setPlaying playing => ({ s with playing }, [])
  | .clear => (⟨false, s.controller.clear⟩, [])

/-- The packets that are sent, in order. -/
def run (s : PlaySession) : List PlayInput → PlaySession × List MoveType
  | [] => (s, [])
  | input :: inputs =>
      let (s, moves) := s.step input
      let (s, later) := s.run inputs
      (s, moves ++ later)

/-- How long the controller holds the key in one step. -/
def heldMs (s : PlaySession) (key : RepeatKey) : PlayInput → ℚ
  | .update dtMs => if s.playing && (s.controller.keys key).pressed then dtMs else 0
  | _ => 0

def totalHeldMs (s : PlaySession) (key : RepeatKey) : List PlayInput → ℚ
  | [] => 0
  | input :: inputs => s.heldMs key input + (s.step input).1.totalHeldMs key inputs

variable {s : PlaySession} {key : RepeatKey} {longest held : ℚ} {acted : Nat}

theorem sendPresses_keys (c : TetrisController) (key : RepeatKey) :
    c.sendPresses.1.keys key = c.keys key ∨ c.sendPresses.1.keys key = (c.keys key).lift := by
  cases hdrop : c.dropPressed with
  | false =>
      left
      simp only [TetrisController.sendPresses, hdrop, Bool.false_eq_true, if_false]
  | true =>
      right
      simp only [TetrisController.sendPresses, hdrop, if_true]

theorem count_sendPresses (c : TetrisController) (key : RepeatKey) :
    c.sendPresses.2.count key.move = 0 := by
  rw [List.count_eq_zero]
  unfold TetrisController.sendPresses
  intro hmem
  have hpress : key.move = .rotate ∨ key.move = .drop := by
    cases hrotate : c.rotatePressed <;> cases hdrop : c.dropPressed <;>
      simp [hrotate, hdrop] at hmem <;> simp [hmem]
  cases key <;> simp [RepeatKey.move] at hpress

/-- A direction is sent as often as its key acts. -/
theorem count_update (c : TetrisController) (key : RepeatKey) (dtMs : ℚ) :
    (c.update dtMs).2.count key.move = ((c.keys key).frame firstDelayMs delayMs dtMs).2 := by
  have hother : ∀ (key' : RepeatKey) (n : Nat), (List.replicate n key'.move).count key.move =
      if key' = key then n else 0 := by
    intro key' n
    rw [List.count_replicate]
    cases key <;> cases key' <;> rfl
  simp only [TetrisController.update, List.count_append, hother]
  rw [count_sendPresses]
  cases key <;> simp

theorem Paced.update (h : Paced firstDelayMs delayMs longest (s.controller.keys key) held acted)
    {dtMs : ℚ} (hpos : 0 ≤ dtMs) (hdt : dtMs ≤ longest) :
    Paced firstDelayMs delayMs longest ((s.controller.update dtMs).1.keys key)
      (held + if (s.controller.keys key).pressed then dtMs else 0)
      (acted + (s.controller.update dtMs).2.count key.move) := by
  rw [count_update]
  have hframe := h.frame (by norm_num [firstDelayMs]) (by norm_num [delayMs]) hpos hdt
  obtain hsame | hlifted := sendPresses_keys { s.controller with
    keys := fun key => ((s.controller.keys key).frame firstDelayMs delayMs dtMs).1 } key
  · exact hsame ▸ hframe
  · exact hlifted ▸ hframe.lift

/-- One input that does not let the key go. -/
theorem paced_step (h : Paced firstDelayMs delayMs longest (s.controller.keys key) held acted)
    {input : PlayInput} (hkept : ¬ input.Releases key)
    (hdt : 0 ≤ input.dtMs ∧ input.dtMs ≤ longest) :
    Paced firstDelayMs delayMs longest ((s.step input).1.controller.keys key)
      (held + s.heldMs key input) (acted + (s.step input).2.count key.move) := by
  cases input with
  | keyDown key' =>
      rw [show s.heldMs key (.keyDown key') = 0 from rfl, add_zero]
      cases hplaying : s.playing with
      | false =>
          simp only [step, hplaying, Bool.false_eq_true, if_false]
          exact h
      | true =>
          simp only [step, hplaying, if_true]
          cases key' with
          | repeats key' =>
              by_cases hkey : key = key'
              · rw [hkey] at h ⊢
                simp only [TetrisController.keyDown, TetrisController.setKey, if_true]
                exact h.press
              · simp only [TetrisController.keyDown, TetrisController.setKey, if_neg hkey]
                exact h
          | space | up => exact h
  | keyUp key' =>
      rw [show s.heldMs key (.keyUp key') = 0 from rfl, add_zero]
      cases hplaying : s.playing with
      | false =>
          simp only [step, hplaying, Bool.false_eq_true, if_false]
          exact h
      | true =>
          simp only [step, hplaying, if_true]
          cases key' with
          | repeats key' =>
              have hkey : key ≠ key' := by
                rintro rfl
                exact hkept rfl
              simp only [TetrisController.keyUp, TetrisController.setKey, if_neg hkey]
              exact h
          | space | up => exact h
  | update dtMs =>
      cases hplaying : s.playing with
      | false =>
          simp only [step, heldMs, hplaying, Bool.false_eq_true, if_false, Bool.false_and]
          rw [add_zero]
          exact h
      | true =>
          simp only [step, heldMs, hplaying, if_true, Bool.true_and]
          exact Paced.update h hdt.1 hdt.2
  | setPlaying playing =>
      rw [show s.heldMs key (.setPlaying playing) = 0 from rfl, add_zero]
      exact h
  | clear => exact absurd trivial hkept

/-- All inputs until the key is let go. -/
theorem paced_run {inputs : List PlayInput}
    (h : Paced firstDelayMs delayMs longest (s.controller.keys key) held acted)
    (hkept : ∀ input ∈ inputs, ¬ input.Releases key)
    (hdt : ∀ input ∈ inputs, 0 ≤ input.dtMs ∧ input.dtMs ≤ longest) :
    Paced firstDelayMs delayMs longest ((s.run inputs).1.controller.keys key)
      (held + s.totalHeldMs key inputs) (acted + (s.run inputs).2.count key.move) := by
  induction inputs generalizing s held acted with
  | nil =>
      rw [totalHeldMs, add_zero]
      exact h
  | cons input inputs ih =>
      have hstep :=
        paced_step h (hkept input (List.mem_cons_self ..)) (hdt input (List.mem_cons_self ..))
      have hrest := ih hstep (fun i hi => hkept i (List.mem_cons_of_mem _ hi)) fun i hi =>
        hdt i (List.mem_cons_of_mem _ hi)
      simp only [run, totalHeldMs, List.count_append]
      rw [← add_assoc, ← Nat.add_assoc]
      exact hrest

/--
**The pace of left, right and down**, whatever else is pressed meanwhile and however long the
frames are. From the moment the key was last let go: no move until the key is held for a frame, one
until it is held for 300 ms, and then one more for every 50 ms at most; and of the time it is held,
each move takes up no more than its delay and a frame.
-/
theorem moves_paced {inputs : List PlayInput} (hreleased : s.controller.keys key = .released)
    (hkept : ∀ input ∈ inputs, ¬ input.Releases key)
    (hdt : ∀ input ∈ inputs, 0 ≤ input.dtMs ∧ input.dtMs ≤ longest) :
    ((s.run inputs).2.count key.move = 0 ∧ s.totalHeldMs key inputs = 0) ∨
    ((s.run inputs).2.count key.move = 1 ∧ s.totalHeldMs key inputs < 300) ∨
    ∃ more : Nat, (s.run inputs).2.count key.move = more + 2 ∧
      300 + more * 50 ≤ s.totalHeldMs key inputs ∧
      s.totalHeldMs key inputs < 300 + longest + more * (50 + longest) + 50 := by
  have hstart : Paced firstDelayMs delayMs longest (s.controller.keys key) 0 0 := by
    rw [hreleased]
    exact paced_released ..
  have hbounds := (paced_run hstart hkept hdt).bounds
  rw [zero_add, zero_add] at hbounds
  exact hbounds

/-- Left is held for 470 ms, in frames of 20, 300, 89.5 and 60.5. -/
def leftHeld : List PlayInput :=
  [.setPlaying true, .keyDown (.repeats .left), .update 20, .update 300, .update (179 / 2),
    .update (121 / 2)]

/-- What a frame goes over a delay is lost: four moves. -/
theorem moves_paced_left : (run {} leftHeld).2 = [.left, .left, .left, .left] ∧
    ∃ more : Nat, (run {} leftHeld).2.count RepeatKey.left.move = more + 2 ∧
      300 + more * 50 ≤ totalHeldMs {} .left leftHeld ∧
      totalHeldMs {} .left leftHeld < 300 + 300 + more * (50 + 300) + 50 := by
  refine ⟨by decide +kernel, ?_⟩
  have hreleased : ({} : PlaySession).controller.keys .left = .released := rfl
  have hkept : ∀ input ∈ leftHeld, ¬ input.Releases .left := by decide +kernel
  have hdt : ∀ input ∈ leftHeld, 0 ≤ input.dtMs ∧ input.dtMs ≤ 300 := by decide +kernel
  obtain ⟨hcount, -⟩ | ⟨hcount, -⟩ | hmore := moves_paced hreleased hkept hdt
  · exact absurd hcount (by decide +kernel)
  · exact absurd hcount (by decide +kernel)
  · exact hmore

/-- A key that is let go between two games is still held in the second one. -/
example :
    (run {} [.setPlaying true, .keyDown (.repeats .left), .update 20, .setPlaying false,
      .keyUp (.repeats .left),
    .setPlaying true, .update 300]).2 = [.left, .left] := by decide +kernel

end PlaySession

end ProjectTetris.Client

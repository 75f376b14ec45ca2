import Mathlib.Algebra.Order.Ring.Defs
import Mathlib.Tactic.Linarith

/-!
# A key that repeats

A key that is held down acts at once, again after a first delay, and then again after every
shorter delay. The time it has been held is only looked at once a frame, and what a frame
goes over a delay is lost: the clock starts again at nothing. So the key never acts more often
than its delays allow, and it falls behind by less than a frame each time it acts.

Times are in any ordered ring.
-/

namespace AutoRepeat

structure Key (T : Type) where
  pressed : Bool
  elapsedTime : T
  firstOver : Bool
  firstMove : Bool
  deriving DecidableEq, Repr

variable {T : Type} [CommRing T] [LinearOrder T]

namespace Key

def released : Key T := ⟨false, 0, false, false⟩

def press (k : Key T) : Key T := { k with pressed := true }

/-- The key does not act any more, but has not been let go. -/
def lift (k : Key T) : Key T := { k with pressed := false }

def elapse (k : Key T) (dt : T) : Key T :=
  if k.pressed then { k with elapsedTime := k.elapsedTime + dt } else k

/-- How often the key acts in this frame. -/
def act (firstDelay delay : T) (k : Key T) : Key T × Nat :=
  if !k.pressed then (k, 0)
  else if !k.firstOver then
    let first := if k.firstMove then 0 else 1
    if firstDelay ≤ k.elapsedTime then
      ({ k with firstMove := true, firstOver := true, elapsedTime := 0 }, first + 1)
    else ({ k with firstMove := true }, first)
  else if delay ≤ k.elapsedTime then ({ k with elapsedTime := 0 }, 1)
  else (k, 0)

def frame (firstDelay delay : T) (k : Key T) (dt : T) : Key T × Nat :=
  (k.elapse dt).act firstDelay delay

end Key

variable {firstDelay delay longest : T}

/-- How long the key has been held since it was last let go, and how often it has acted. -/
structure Paced (firstDelay delay longest : T) (k : Key T) (held : T) (acted : Nat) : Prop where
  elapsed : 0 ≤ k.elapsedTime
  untouched : k.firstMove = false → k.firstOver = false ∧ k.elapsedTime = 0 ∧ held = 0 ∧ acted = 0
  first : k.firstMove = true → k.firstOver = false →
    k.elapsedTime = held ∧ held < firstDelay ∧ acted = 1
  rest : k.firstOver = true → k.elapsedTime < delay ∧ ∃ more : Nat, acted = more + 2 ∧
    firstDelay + more * delay + k.elapsedTime ≤ held ∧
    held < firstDelay + longest + more * (delay + longest) + k.elapsedTime

theorem paced_released (firstDelay delay longest : T) :
    Paced firstDelay delay longest .released 0 0 :=
  ⟨le_refl _, fun _ => ⟨rfl, rfl, rfl, rfl⟩,
    fun hmove => absurd hmove Bool.false_ne_true, fun hover => absurd hover Bool.false_ne_true⟩

variable {k : Key T} {held dt : T} {acted : Nat}

theorem Paced.congr {k' : Key T} (h : Paced firstDelay delay longest k held acted)
    (helapsed : k'.elapsedTime = k.elapsedTime) (hover : k'.firstOver = k.firstOver)
    (hmove : k'.firstMove = k.firstMove) :
    Paced firstDelay delay longest k' held acted := by
  constructor
  · rw [helapsed]
    exact h.elapsed
  · rw [helapsed, hover, hmove]
    exact h.untouched
  · rw [helapsed, hover, hmove]
    exact h.first
  · rw [helapsed, hover]
    exact h.rest

theorem Paced.press (h : Paced firstDelay delay longest k held acted) :
    Paced firstDelay delay longest k.press held acted :=
  h.congr rfl rfl rfl

theorem Paced.lift (h : Paced firstDelay delay longest k held acted) :
    Paced firstDelay delay longest k.lift held acted :=
  h.congr rfl rfl rfl

variable [IsStrictOrderedRing T]

/-- The first frame, or one of the first delay. -/
theorem Paced.frame_first (h : Paced firstDelay delay longest k held acted)
    (hfirst : 0 < firstDelay) (hdelay : 0 < delay) (hpressed : k.pressed = true)
    (hover : k.firstOver = false) (hpos : 0 ≤ dt) (hdt : dt ≤ longest) :
    Paced firstDelay delay longest (k.frame firstDelay delay dt).1 (held + dt)
      (acted + (k.frame firstDelay delay dt).2) := by
  have hbefore : k.elapsedTime = held ∧ held < firstDelay ∧
      acted + (if k.firstMove then 0 else 1) = 1 := by
    cases hmove : k.firstMove with
    | false =>
        obtain ⟨-, helapsed, hheld, hacted⟩ := h.untouched hmove
        exact ⟨helapsed.trans hheld.symm, hheld ▸ hfirst, by rw [hacted]; rfl⟩
    | true => exact h.first hmove hover
  obtain ⟨helapsed, hlt, hacted⟩ := hbefore
  simp only [Key.frame, Key.elapse, Key.act, hpressed, hover, if_true, Bool.not_true,
    Bool.false_eq_true, if_false, Bool.not_false]
  split
  next hdue =>
    refine ⟨le_refl _, fun hnone => ?_, fun _ hnone => ?_, fun _ => ⟨hdelay, 0, ?_, ?_, ?_⟩⟩
    · exact absurd hnone.symm Bool.false_ne_true
    · exact absurd hnone.symm Bool.false_ne_true
    · show acted + (_ + 1) = 0 + 2
      omega
    · show firstDelay + (0 : Nat) * delay + 0 ≤ held + dt
      rw [Nat.cast_zero, zero_mul, add_zero, add_zero, ← helapsed]
      exact hdue
    · show held + dt < firstDelay + longest + (0 : Nat) * (delay + longest) + 0
      rw [Nat.cast_zero, zero_mul, add_zero, add_zero]
      exact add_lt_add_of_lt_of_le hlt hdt
  next hearly =>
    refine ⟨add_nonneg h.elapsed hpos,
      fun hnone => ?_, fun _ _ => ⟨?_, ?_, hacted⟩, fun hrest => ?_⟩
    · exact absurd hnone.symm Bool.false_ne_true
    · show k.elapsedTime + dt = held + dt
      rw [helapsed]
    · rw [← helapsed]
      exact not_le.mp hearly
    · exact absurd hrest Bool.false_ne_true

/-- A later frame: what it goes over the delay is less than the frame. -/
theorem Paced.frame_rest (h : Paced firstDelay delay longest k held acted) (hdelay : 0 < delay)
    (hpressed : k.pressed = true) (hover : k.firstOver = true) (hpos : 0 ≤ dt)
    (hdt : dt ≤ longest) :
    Paced firstDelay delay longest (k.frame firstDelay delay dt).1 (held + dt)
      (acted + (k.frame firstDelay delay dt).2) := by
  obtain ⟨hlt, more, hacted, hle, hge⟩ := h.rest hover
  have hmove : k.firstMove = true := by
    cases hmove : k.firstMove with
    | false => exact absurd ((h.untouched hmove).1.symm.trans hover) Bool.false_ne_true
    | true => rfl
  simp only [Key.frame, Key.elapse, Key.act, hpressed, hover, if_true, Bool.not_true,
    Bool.false_eq_true, if_false]
  split
  next hdue =>
    have hdue : delay ≤ k.elapsedTime + dt := hdue
    refine ⟨le_refl _, fun hnone => ?_, fun _ hnone => ?_, fun _ => ⟨hdelay, more + 1, ?_, ?_, ?_⟩⟩
    · exact absurd (hnone.symm.trans hmove) Bool.false_ne_true
    · exact absurd hnone.symm Bool.false_ne_true
    · show acted + 1 = more + 1 + 2
      omega
    · show firstDelay + (more + 1 : Nat) * delay + 0 ≤ held + dt
      rw [Nat.cast_succ, add_mul, one_mul]
      linarith
    · show held + dt < firstDelay + longest + (more + 1 : Nat) * (delay + longest) + 0
      rw [Nat.cast_succ, add_mul, one_mul]
      linarith
  next hearly =>
    refine ⟨add_nonneg h.elapsed hpos,
      fun hnone => ?_, fun _ hnone => ?_, fun _ => ⟨?_, more, hacted, ?_, ?_⟩⟩
    · exact absurd (hnone.symm.trans hmove) Bool.false_ne_true
    · exact absurd hnone.symm Bool.false_ne_true
    · exact not_le.mp hearly
    · show firstDelay + more * delay + (k.elapsedTime + dt) ≤ held + dt
      linarith
    · show held + dt < firstDelay + longest + more * (delay + longest) + (k.elapsedTime + dt)
      linarith

/-- **A frame.** -/
theorem Paced.frame (h : Paced firstDelay delay longest k held acted) (hfirst : 0 < firstDelay)
    (hdelay : 0 < delay) (hpos : 0 ≤ dt) (hdt : dt ≤ longest) :
    Paced firstDelay delay longest (k.frame firstDelay delay dt).1
      (held + if k.pressed then dt else 0) (acted + (k.frame firstDelay delay dt).2) := by
  cases hpressed : k.pressed with
  | false =>
      have hsame : k.frame firstDelay delay dt = (k, 0) := by
        simp only [Key.frame, Key.elapse, Key.act, hpressed, Bool.false_eq_true, if_false,
          Bool.not_false, if_true]
      rw [hsame, if_neg Bool.false_ne_true, add_zero]
      exact h
  | true =>
      cases hover : k.firstOver with
      | false => exact h.frame_first hfirst hdelay hpressed hover hpos hdt
      | true => exact h.frame_rest hdelay hpressed hover hpos hdt

/-- **The pace of a key**: it acts at once, and then as often as the delays have passed, each of
which a frame may prolong. -/
theorem Paced.bounds (h : Paced firstDelay delay longest k held acted) :
    (acted = 0 ∧ held = 0) ∨ (acted = 1 ∧ held < firstDelay) ∨
    ∃ more : Nat, acted = more + 2 ∧ firstDelay + more * delay ≤ held ∧
      held < firstDelay + longest + more * (delay + longest) + delay := by
  cases hmove : k.firstMove with
  | false =>
      obtain ⟨-, -, hheld, hacted⟩ := h.untouched hmove
      exact .inl ⟨hacted, hheld⟩
  | true =>
      cases hover : k.firstOver with
      | false =>
          obtain ⟨-, hlt, hacted⟩ := h.first hmove hover
          exact .inr (.inl ⟨hacted, hlt⟩)
      | true =>
          obtain ⟨hlt, more, hacted, hle, hge⟩ := h.rest hover
          have helapsed := h.elapsed
          exact .inr (.inr ⟨more, hacted, by linarith, by linarith⟩)

end AutoRepeat

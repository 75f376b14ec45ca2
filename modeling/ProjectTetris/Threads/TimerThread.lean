import ProjectTetris.Lib.Schedule
import ProjectTetris.Lib.Transition

/-!
# The timer thread

`TimerThread::Run` waits for its next tick, then for threads that are available, and starts
a tick. The next one is due a frame after this one was, not after it has started; only a
tick that comes later than that moves the schedule.

Times are readings of a steady clock, in nanoseconds. How long the thread sleeps or spins is
left open: time may pass before any step.
-/

namespace ProjectTetris

open Transition Schedule

/-- `TICK_INTERVAL_MS`. -/
def tickIntervalMs : Int := 20

/-- `frame_time`. -/
def frameTime : Int := tickIntervalMs * 1000000

inductive TimerStep where
  /-- About to reserve the first tick. -/
  | reserve
  | waitTick
  | waitThreads
  | readClock
  /-- `StartLobbyPhase`, `StartGamePhase` and `Wake`, for the tick that has started. -/
  | startPhases (tickStartTime : Int)
  | stopped

structure TimerThread where
  now : Int
  nextTick : Int := 0
  step : TimerStep := .reserve
  /-- What `StartGamePhase` has been called with. -/
  tickTimesMs : List Int := []
  /-- When the first tick was reserved for, when each tick has started, and when it was due. -/
  firstTick : Int := 0
  starts : List Int := []
  dues : List Int := []

/-- `duration_cast<milliseconds>`. -/
def toMs (time : Int) : Int := time.tdiv 1000000

namespace TimerThread

inductive Next : TimerThread → TimerThread → Prop
  | passes (s : TimerThread) {time : Int} (h : s.now ≤ time) : Next s { s with now := time }
  | reserves (s : TimerThread) (h : s.step = .reserve) :
      Next s
      { s with nextTick := s.now + frameTime, firstTick := s.now + frameTime, step := .waitTick }
  | due (s : TimerThread) (h : s.step = .waitTick) (hdue : s.nextTick ≤ s.now) :
      Next s { s with step := .waitThreads }
  | available (s : TimerThread) (h : s.step = .waitThreads) : Next s { s with step := .readClock }
  | reads (s : TimerThread) (h : s.step = .readClock) :
      Next s { s with
        nextTick := nextDue frameTime s.nextTick s.now
        step := .startPhases s.now
        starts := s.starts ++ [s.now]
        dues := s.dues ++ [s.nextTick] }
  | startsPhases (s : TimerThread) {tickStartTime : Int}
      (h : s.step = .startPhases tickStartTime) :
      Next s { s with step := .waitTick, tickTimesMs := s.tickTimesMs ++ [toMs tickStartTime] }
  /-- The thread is to stop, or the timer has failed. -/
  | stops (s : TimerThread) (h : s.step = .waitTick ∨ s.step = .waitThreads) :
      Next s { s with step := .stopped }

def system : System TimerThread := ⟨fun s => ∃ now, s = { now }, Next⟩

variable {s s' : TimerThread}

/-- The tick that is due has not been started too early. -/
def Due (s : TimerThread) : Prop :=
  match s.step with
  | .waitThreads | .readClock => s.nextTick ≤ s.now
  | _ => True

/-- The ticks whose phases have been started. -/
def Handed (s : TimerThread) : Prop :=
  match s.step with
  | .startPhases tickStartTime => s.starts.map toMs = s.tickTimesMs ++ [toMs tickStartTime]
  | _ => s.starts.map toMs = s.tickTimesMs

/-- Nothing has been reserved yet, or the schedule is kept. -/
def Reserved (s : TimerThread) : Prop :=
  match s.step with
  | .reserve => s.starts = [] ∧ s.dues = []
  | _ => OnTime frameTime s.firstTick s.nextTick s.starts s.dues

structure Keeps (s : TimerThread) : Prop where
  due : s.Due
  handed : s.Handed
  reserved : s.Reserved
  spaced : s.starts = [] ∨ Spaced frameTime s.nextTick s.starts
  past : ∀ time ∈ s.starts, time ≤ s.now
  ordered : s.starts.Pairwise (· ≤ ·)

theorem keeps_start (now : Int) : Keeps { now } where
  due := trivial
  handed := rfl
  reserved := ⟨rfl, rfl⟩
  spaced := .inl rfl
  past := nofun
  ordered := .nil

/-- Time passes: only the bound on the starts moves. -/
theorem Keeps.passes {time : Int} (h : Keeps s) (hle : s.now ≤ time) :
    Keeps { s with now := time } where
  due := by
    have hdue := h.due
    unfold Due at hdue ⊢
    cases hstep : s.step <;> simp only [hstep] at hdue ⊢ <;> omega
  handed := h.handed
  reserved := h.reserved
  spaced := h.spaced
  past := fun start hstart => Int.le_trans (h.past start hstart) hle
  ordered := h.ordered

/-- The first tick is reserved: nothing has started, so both schedules begin here. -/
theorem Keeps.reserves (h : Keeps s) (hstep : s.step = .reserve) :
    Keeps
      { s with nextTick := s.now + frameTime, firstTick := s.now + frameTime, step := .waitTick }
        where
  due := trivial
  handed := by
    have hhanded := h.handed
    unfold Handed at hhanded
    rwa [hstep] at hhanded
  reserved := by
    have hnone := h.reserved
    unfold Reserved at hnone
    rw [hstep] at hnone
    obtain ⟨hstarts, hdues⟩ := hnone
    show OnTime frameTime (s.now + frameTime) (s.now + frameTime) s.starts s.dues
    rw [hstarts, hdues]
    exact onTime_nil
  spaced := by
    have hnone := h.reserved
    unfold Reserved at hnone
    rw [hstep] at hnone
    exact .inl hnone.1
  past := h.past
  ordered := h.ordered

/-- What the thread knows of the schedule while it is on its way to the next tick. -/
theorem Keeps.waiting (h : Keeps s)
    (hstep : s.step = .waitTick ∨ s.step = .waitThreads ∨ s.step = .readClock) :
    s.starts.map toMs = s.tickTimesMs ∧
    OnTime frameTime s.firstTick s.nextTick s.starts s.dues := by
  have hhanded := h.handed
  have hreserved := h.reserved
  unfold Handed at hhanded
  unfold Reserved at hreserved
  rcases hstep with hstep | hstep | hstep <;> simp only [hstep] at hhanded hreserved <;>
    exact ⟨hhanded, hreserved⟩

theorem Keeps.due' (h : Keeps s) (hstep : s.step = .waitThreads ∨ s.step = .readClock) :
    s.nextTick ≤ s.now := by
  have hdue := h.due
  unfold Due at hdue
  rcases hstep with hstep | hstep <;> simpa only [hstep] using hdue

/-- The clock is read: the tick starts, no earlier than it was due. -/
theorem Keeps.reads (h : Keeps s) (hstep : s.step = .readClock) :
    Keeps { s with
      nextTick := nextDue frameTime s.nextTick s.now
      step := .startPhases s.now
      starts := s.starts ++ [s.now]
      dues := s.dues ++ [s.nextTick] } := by
  obtain ⟨hhanded, honTime⟩ := h.waiting (.inr (.inr hstep))
  have hdue := h.due' (.inr hstep)
  constructor
  case due => trivial
  case handed =>
    show (s.starts ++ [s.now]).map toMs = s.tickTimesMs ++ [toMs s.now]
    rw [List.map_append, hhanded]
    rfl
  case reserved => exact honTime.start
  case spaced =>
    right
    obtain hnone | hspaced := h.spaced
    · show Spaced frameTime (nextDue frameTime s.nextTick s.now) (s.starts ++ [s.now])
      rw [hnone]
      exact spaced_nil.start hdue
    · exact hspaced.start hdue
  case past =>
    intro time htime
    obtain hold | hnew := List.mem_append.mp htime
    · exact h.past time hold
    · exact le_of_eq (List.mem_singleton.mp hnew)
  case ordered =>
    refine List.pairwise_append.mpr ⟨h.ordered, List.pairwise_singleton _ _, ?_⟩
    intro time htime last hlast
    rw [List.mem_singleton.mp hlast]
    exact h.past time htime

theorem Keeps.startsPhases {tickStartTime : Int} (h : Keeps s)
    (hstep : s.step = .startPhases tickStartTime) :
    Keeps { s with step := .waitTick, tickTimesMs := s.tickTimesMs ++ [toMs tickStartTime] } := by
  have hhanded := h.handed
  have hreserved := h.reserved
  unfold Handed at hhanded
  unfold Reserved at hreserved
  rw [hstep] at hhanded hreserved
  exact ⟨trivial, hhanded, hreserved, h.spaced, h.past, h.ordered⟩

theorem keeps_next (h : Keeps s) (hnext : Next s s') : Keeps s' := by
  cases hnext with
  | passes hle => exact h.passes hle
  | reserves hstep => exact h.reserves hstep
  | due hstep hdue =>
      obtain ⟨hhanded, hreserved⟩ := h.waiting (.inl hstep)
      exact ⟨hdue, hhanded, hreserved, h.spaced, h.past, h.ordered⟩
  | available hstep =>
      obtain ⟨hhanded, hreserved⟩ := h.waiting (.inr (.inl hstep))
      exact ⟨h.due' (.inl hstep), hhanded, hreserved, h.spaced, h.past, h.ordered⟩
  | reads hstep => exact h.reads hstep
  | startsPhases hstep => exact h.startsPhases hstep
  | stops hstep =>
      obtain ⟨hhanded, hreserved⟩ := h.waiting (hstep.imp_right .inl)
      exact ⟨trivial, hhanded, hreserved, h.spaced, h.past, h.ordered⟩

theorem keeps_reachable (h : system.Reachable s) : Keeps s := by
  refine invariant ?_ (fun _ _ => keeps_next) h
  rintro _ ⟨now, rfl⟩
  exact keeps_start now

theorem Keeps.tickTimesMs_sorted (h : Keeps s) : s.tickTimesMs.Pairwise (· ≤ ·) := by
  have hall : (s.starts.map toMs).Pairwise (· ≤ ·) :=
    h.ordered.map toMs (fun a b hle => Int.tdiv_le_tdiv (by decide) hle)
  have hhanded := h.handed
  unfold Handed at hhanded
  cases hstep : s.step <;> simp only [hstep] at hhanded
  case startPhases tickStartTime =>
    rw [hhanded] at hall
    exact (List.pairwise_append.mp hall).1
  all_goals exact hhanded ▸ hall

/-- **The schedule of the ticks**, however late the thread wakes up and however long it waits for
available threads. Ticks are not made up for: `m + 1` ticks on, `m` frames have passed at least.
The times `StartGamePhase` gets never go back. And as long as no tick has started more than a frame
late, tick `i` was due `i` frames after the first. -/
theorem ticks_scheduled (h : system.Reachable s) :
    (∀ (i m : Nat) a b, s.starts[i]? = some a → s.starts[i + m + 1]? = some b →
      a + m * frameTime ≤ b) ∧
    s.tickTimesMs.Pairwise (· ≤ ·) ∧
    ((∀ (i : Nat) a d, s.starts[i]? = some a → s.dues[i]? = some d → a ≤ d + frameTime) →
      ∀ (i : Nat) d, s.dues[i]? = some d → d = s.firstTick + i * frameTime) := by
  have hkeeps := keeps_reachable h
  refine ⟨?_, hkeeps.tickTimesMs_sorted, ?_⟩
  · intro i m a b ha hb
    obtain hnone | hspaced := hkeeps.spaced
    · rw [hnone] at ha
      cases ha
    · exact hspaced.apart i m a b ha hb
  · intro hlate i d hd
    have hreserved := hkeeps.reserved
    unfold Reserved at hreserved
    cases hstep : s.step <;> simp only [hstep] at hreserved
    case reserve =>
      rw [hreserved.2] at hd
      cases hd
    all_goals exact (hreserved.dues hlate).2 i d hd

/-- A tick from the wait for it to the start of its phases, `late` nanoseconds after it was due. -/
theorem tick_run (h : system.Reachable s) (hstep : s.step = .waitTick) (late : Int)
    (hlate : s.now ≤ s.nextTick + late) (hnonneg : 0 ≤ late) :
    system.Reachable { s with
      now := s.nextTick + late
      nextTick := nextDue frameTime s.nextTick (s.nextTick + late)
      step := .waitTick
      tickTimesMs := s.tickTimesMs ++ [toMs (s.nextTick + late)]
      starts := s.starts ++ [s.nextTick + late]
      dues := s.dues ++ [s.nextTick] } := by
  have hpassed := h.next (.passes s hlate)
  have hdue := hpassed.next (.due _ hstep (Int.le_add_of_nonneg_right hnonneg))
  have havailable := hdue.next (.available _ rfl)
  have hread := havailable.next (.reads _ rfl)
  exact hread.next (.startsPhases _ rfl)

/-- Two ticks, 5 and 1 milliseconds late: the second is due a frame after the first was. -/
theorem ticks_scheduled_twice : ∃ s, system.Reachable s ∧ s.starts = [25000000, 41000000] ∧
    s.dues[1]? = some 40000000 ∧ 40000000 = s.firstTick + (1 : Nat) * frameTime ∧
    s.tickTimesMs.Pairwise (· ≤ ·) := by
  have hreserved := (System.Reachable.start (S := system) ⟨0, rfl⟩).next (.reserves _ rfl)
  have hfirst := tick_run hreserved rfl 5000000 (by decide) (by decide)
  have hsecond := tick_run hfirst rfl 1000000 (by decide) (by decide)
  obtain ⟨-, hsorted, hdues⟩ := ticks_scheduled hsecond
  refine ⟨_, hsecond, rfl, rfl, hdues ?_ 1 40000000 rfl, hsorted⟩
  -- Neither tick is more than a frame late.
  intro i a d ha hd
  match i with
  | 0 =>
      cases ha
      cases hd
      decide
  | 1 =>
      cases ha
      cases hd
      decide
  | _ + 2 => cases ha

end TimerThread

end ProjectTetris

import ProjectTetris.Lib.Wakeup
import ProjectTetris.Threads.DBTasksOnce

/-!
# `Run` does not sleep through its work

Between looking at its condition and falling asleep `Run` holds the mutex, and whoever
changes the condition holds it too. So the change comes before the look or after the sleep
has begun, and then the notification is still to come.
-/

namespace ProjectTetris

open Transition Wakeup

/-- Has changed what `Run` waits for, and has not yet notified it. -/
def DBCallStep.Owes : DBCallStep → Prop
  | .enqueue _ .unlockPushed | .enqueue _ .notify | .close .unlock | .close .notify => True
  | _ => False

def DBRunStep.Asleep : DBRunStep → Prop
  | .asleep => True
  | _ => False

/-- What `Run` has read of its condition so far does not hold. -/
def DBRunStep.FoundNothing (taskQueue : List DBTask) (isRunning : Bool) : DBRunStep → Prop
  | .waitRunning => taskQueue = []
  | .sleep => taskQueue = [] ∧ isRunning = true
  | _ => True

namespace DBThread

variable {s s' : DBThread}

/-- There is something for `Run` to do. -/
def HasWork (s : DBThread) : Prop := s.taskQueue ≠ [] ∨ s.isRunning = false

structure NoneMissed (s : DBThread) : Prop where
  found : s.run.FoundNothing s.taskQueue s.isRunning
  heard : Heard s.run.Asleep s.HasWork DBCallStep.Owes s.callers

theorem NoneMissed.setCaller (h : s.NoneMissed) {t : Nat} {step : DBCallStep}
    (howes : (s.callers t).Owes → step.Owes) : (s.setCaller t step).NoneMissed :=
  ⟨h.found, h.heard.goOn howes id fun _ => id⟩

theorem NoneMissed.setMutex (h : s.NoneMissed) (waitMutex : Option Who) :
    (s.setMutex waitMutex).NoneMissed :=
  ⟨h.found, h.heard⟩

/-- `Run` goes on, awake. -/
theorem noneMissed_awake (hfound : s.run.FoundNothing s.taskQueue s.isRunning)
    (hawake : ¬ s.run.Asleep) :
    s.NoneMissed := ⟨hfound, heard_of_not fun hasleep => absurd hasleep hawake⟩

theorem notify_awake (s : DBThread) : ¬ s.notify.run.Asleep := by
  unfold notify
  split
  next => exact id
  next hawake =>
    intro hasleep
    cases hrun : s.run with
    | asleep => exact hawake hrun
    | _ =>
        rw [hrun] at hasleep
        exact hasleep

theorem NoneMissed.notify (h : s.NoneMissed) : s.notify.NoneMissed := by
  refine noneMissed_awake ?_ s.notify_awake
  obtain hsame | ⟨_, hwoken⟩ := s.notify_eq
  · rw [hsame]
    exact h.found
  · rw [hwoken]
    trivial

/-- While a caller is inside, `Run` has not looked at its condition. -/
theorem found_of_caller (hlocked : Locked s.isRunning s.waitMutex s.run s.callers) {t : Nat}
    (hholds : (s.callers t).Holds) (taskQueue : List DBTask) (isRunning : Bool) :
    s.run.FoundNothing taskQueue isRunning := by
  have hout : ¬ s.run.Holds :=
    fun hrun => nomatch (hlocked.callerHolds t hholds).symm.trans (hlocked.runHolds hrun)
  cases hrun : s.run with
  | waitRunning | sleep => exact absurd (by rw [hrun]; trivial) hout
  | _ => trivial

theorem noneMissed_next (h : s.NoneMissed)
    (hlocked : Locked s.isRunning s.waitMutex s.run s.callers)
    (hanswered : ∀ task fate next, s.run = .post task fate [] next →
      next = .whileRunning ∨ next = .failPop)
    (hnext : Next s s') : s'.NoneMissed := by
  cases hnext with
  | begin _ hidle | closeBegin hidle => exact h.setCaller (by rw [hidle]; exact False.elim)
  | refused hrefused => exact h.setCaller (by rw [hrefused]; exact False.elim)
  | @running who task henqueue | @checked who task henqueue | @notRunning who task henqueue
  | @pushThrew who task henqueue =>
      cases who with
      | some t => exact h.setCaller (by rw [henqueue]; exact False.elim)
      | none => exact noneMissed_awake trivial id
  | @locked who task henqueue | @unlockedRefused who task henqueue =>
      cases who with
      | some t => exact (h.setMutex _).setCaller (by rw [setMutex, henqueue]; exact False.elim)
      | none => exact noneMissed_awake trivial id
  | @unlockedPushed who task henqueue =>
      cases who with
      | some t => exact (h.setMutex _).setCaller fun _ => trivial
      | none => exact noneMissed_awake trivial id
  | @pushed who task henqueue =>
      cases who with
      | none => exact noneMissed_awake trivial id
      | some t =>
          exact ⟨found_of_caller hlocked (by rw [henqueue]; trivial) _ _, heard_of_owes trivial⟩
  | @notified who task henqueue =>
      cases who with
      | none => exact noneMissed_awake trivial id
      | some t => exact noneMissed_awake h.notify.found s.notify_awake
  | closeLocked hclose =>
      exact (h.setMutex _).setCaller (by rw [setMutex, hclose]; exact False.elim)
  | closeStored hclose =>
      exact ⟨found_of_caller hlocked (by rw [hclose]; trivial) _ _, heard_of_owes trivial⟩
  | closeUnlocked => exact (h.setMutex _).setCaller fun _ => trivial
  | closeNotified => exact noneMissed_awake h.notify.found s.notify_awake
  | wake => exact h.notify
  | waitsEmpty _ hempty => exact noneMissed_awake hempty id
  | waitsRunning hrun hrunning =>
      have hfound := h.found
      rw [hrun] at hfound
      exact noneMissed_awake ⟨hfound, hrunning⟩ id
  | sleeps hrun =>
      have hfound := h.found
      rw [hrun] at hfound
      refine ⟨trivial, heard_of_not fun _ hwork => ?_⟩
      obtain htasks | hstopped := hwork
      · exact htasks hfound.1
      · cases hfound.2.symm.trans hstopped
  | answered hrun => obtain rfl | rfl := hanswered _ _ _ hrun <;> exact noneMissed_awake trivial id
  | discarded hrun =>
      refine noneMissed_awake ?_ ?_
      · simp only [finish, hrun]
        trivial
      · simp only [finish, hrun]
        exact id
  | _ => exact noneMissed_awake trivial id

theorem noneMissed_reachable (h : system.Reachable s) : s.NoneMissed := by
  have hboth : Once s ∧ s.NoneMissed := by
    refine invariant (I := fun s => Once s ∧ s.NoneMissed) ?_ ?_ h
    · rintro s rfl
      exact ⟨once_start, noneMissed_awake trivial id⟩
    · intro s s' ⟨honce, hnone⟩ hnext
      exact ⟨once_next honce hnext,
        noneMissed_next hnone honce.locked
        (fun _ _ _ hrun => (honce.answers.answering _ _ _ _ hrun).2) hnext⟩
  exact hboth.2

/-- **Whoever has given the sleeping thread something to do is about to wake it.** -/
theorem sleeper_heard (h : system.Reachable s) (hasleep : s.run = .asleep) (hwork : s.HasWork) :
    ∃ t, (s.callers t).Owes := by
  refine (noneMissed_reachable h).heard ?_ hwork
  rw [hasleep]
  trivial

/-- The first task comes in while the thread is falling asleep. -/
theorem sleeper_heard_first :
    ∃ s, system.Reachable s ∧ s.run = .asleep ∧ s.HasWork ∧ ∃ t, (s.callers t).Owes := by
  let task : DBTask := ⟨.loadRankings, .server⟩
  have h : system.Reachable start := .start rfl
  have h := h.next (Next.begin _ (t := 0) task rfl)
  have h := h.next (Next.running _ (show Enqueuing _ task .whileRunning (some 0) from rfl) rfl)
  have h := h.next (Next.connected _ rfl)
  have h := h.next (Next.goesOn _ rfl rfl)
  have h := h.next (Next.empty _ rfl rfl)
  have h := h.next (Next.runLocked _ (.inl rfl) rfl)
  have h := h.next (Next.waitsEmpty _ rfl rfl)
  have h := h.next (Next.waitsRunning _ rfl rfl)
  have h := h.next (Next.sleeps _ rfl)
  have h := h.next (Next.locked _ (show Enqueuing _ task .lock (some 0) from rfl) rfl)
  have h := h.next (Next.checked _ (show Enqueuing _ task .checkRunning (some 0) from rfl) rfl)
  have h := h.next (Next.pushed _ (show Enqueuing _ task .push (some 0) from rfl))
  exact ⟨_, h, rfl, .inl nofun, sleeper_heard h rfl (.inl nofun)⟩

/-- Between the calls it sleeps only on an empty queue. -/
theorem asleep_idle (h : system.Reachable s) (hasleep : s.run = .asleep)
    (hidle : ∀ t, s.callers t = .idle) :
    s.taskQueue = [] ∧ s.isRunning = true := by
  have hnone : ¬ s.HasWork := by
    intro hwork
    obtain ⟨t, howes⟩ := sleeper_heard h hasleep hwork
    rw [hidle t] at howes
    exact howes
  unfold HasWork at hnone
  rw [not_or, not_not, Bool.not_eq_false] at hnone
  exact hnone

end DBThread

end ProjectTetris

import ProjectTetris.Threads.DBThread

/-!
# The mutex of a database thread

`is_running_` is cleared and tasks are pushed under `wait_mutex_`, so that nobody pushes once
it is cleared. `Run` holds the mutex from before it looks at the condition it waits for until
it sleeps.
-/

namespace ProjectTetris

/-- `wait_mutex_` is held. -/
def EnqueueStep.Holds : EnqueueStep → Prop
  | .checkRunning | .push | .unlockRefused | .unlockPushed => True
  | .whileRunning | .lock | .notify => False

def DBCallStep.Holds : DBCallStep → Prop
  | .enqueue _ step => step.Holds
  | .close .store | .close .unlock => True
  | _ => False

/-- About to push. -/
def DBCallStep.Pushes : DBCallStep → Prop
  | .enqueue _ .push => True
  | _ => False

theorem DBCallStep.Pushes.holds : ∀ {step : DBCallStep}, step.Pushes → step.Holds
  | .enqueue _ .push, _ => trivial

namespace DBRunStep

def Holds : DBRunStep → Prop
  | .failStore | .failUnlock | .waitEmpty | .waitRunning | .sleep | .checkRunning | .tryPopAgain
  | .unlock _ => True
  | .retry _ step => step.Holds
  | _ => False

def Pushes : DBRunStep → Prop
  | .retry _ .push => True
  | _ => False

theorem Pushes.holds : ∀ {run : DBRunStep}, run.Pushes → run.Holds
  | .retry _ .push, _ => trivial

/-- Comes only after `is_running_` has been cleared. -/
def Closing : DBRunStep → Prop
  | .failUnlock | .failPop | .unlock .discard | .discard | .stopped => True
  | .post _ _ _ next => next.Closing
  | _ => False

end DBRunStep

namespace DBThread

variable {s s' : DBThread}

/-- Who is inside holds the mutex, pushes only while the thread runs, and `Run` ends only when it
does not. -/
structure Locked (isRunning : Bool) (waitMutex : Option Who) (run : DBRunStep)
    (callers : Nat → DBCallStep) :
    Prop where
  runHolds : run.Holds → waitMutex = some none
  callerHolds : ∀ t, (callers t).Holds → waitMutex = some (some t)
  runPushes : run.Pushes → isRunning = true
  callerPushes : ∀ t, (callers t).Pushes → isRunning = true
  closing : run.Closing → isRunning = false

section Locked

variable {isRunning : Bool} {waitMutex : Option Who} {run run' : DBRunStep}
  {callers : Nat → DBCallStep} {t : Nat} {step : DBCallStep}

theorem Locked.setRun (h : Locked isRunning waitMutex run callers)
    (hholds : run'.Holds → run.Holds) (hpushes : run'.Pushes → isRunning = true)
    (hclosing : run'.Closing → run.Closing ∨ isRunning = false) :
    Locked isRunning waitMutex run' callers where
  runHolds := fun hrun' => h.runHolds (hholds hrun')
  callerHolds := h.callerHolds
  runPushes := hpushes
  callerPushes := h.callerPushes
  closing := fun hrun' => (hclosing hrun').elim h.closing id

theorem Locked.lockRun (h : Locked isRunning none run callers) (hpushes : ¬ run'.Pushes)
    (hclosing : run'.Closing → run.Closing) : Locked isRunning (some none) run' callers where
  runHolds := fun _ => rfl
  callerHolds := fun t hholds => nomatch h.callerHolds t hholds
  runPushes := fun hrun' => absurd hrun' hpushes
  callerPushes := h.callerPushes
  closing := fun hrun' => h.closing (hclosing hrun')

theorem Locked.unlockRun (h : Locked isRunning waitMutex run callers) (hrun : run.Holds)
    (hholds : ¬ run'.Holds) (hclosing : run'.Closing → run.Closing) :
    Locked isRunning none run' callers where
  runHolds := fun hrun' => absurd hrun' hholds
  callerHolds := by
    intro t hcaller
    have howner := (h.runHolds hrun).symm.trans (h.callerHolds t hcaller)
    cases howner
  runPushes := fun hrun' => absurd hrun'.holds hholds
  callerPushes := h.callerPushes
  closing := fun hrun' => h.closing (hclosing hrun')

/-- What holds of the others, and of the new position of one thread. -/
private theorem update_forall {P : Nat → DBCallStep → Prop}
    (hothers : ∀ t', t' ≠ t → P t' (callers t')) (hstep : P t step) (t' : Nat) :
    P t' (Function.update callers t step t') := by
  by_cases ht : t' = t
  · subst ht
    rwa [Function.update_self]
  · rw [Function.update_of_ne ht]
    exact hothers t' ht

theorem Locked.setCaller (h : Locked isRunning waitMutex run callers)
    (hholds : step.Holds → (callers t).Holds) (hpushes : step.Pushes → isRunning = true) :
    Locked isRunning waitMutex run (Function.update callers t step) where
  runHolds := h.runHolds
  callerHolds := update_forall (P := fun t step => step.Holds → waitMutex = some (some t))
    (fun t' _ => h.callerHolds t') fun hstep => h.callerHolds t (hholds hstep)
  runPushes := h.runPushes
  callerPushes := update_forall (P := fun _ step => step.Pushes → isRunning = true)
    (fun t' _ => h.callerPushes t') hpushes
  closing := h.closing

theorem Locked.lockCaller (h : Locked isRunning none run callers) (hpushes : ¬ step.Pushes) :
    Locked isRunning (some (some t)) run (Function.update callers t step) where
  runHolds := fun hrun => nomatch h.runHolds hrun
  callerHolds := update_forall (P := fun t' step => step.Holds → some (some t) = some (some t'))
    (fun t' _ hholds => nomatch h.callerHolds t' hholds) fun _ => rfl
  runPushes := h.runPushes
  callerPushes := update_forall (P := fun _ step => step.Pushes → isRunning = true)
    (fun t' _ => h.callerPushes t') fun hstep => absurd hstep hpushes
  closing := h.closing

theorem Locked.unlockCaller (h : Locked isRunning waitMutex run callers)
    (hcaller : (callers t).Holds) (hholds : ¬ step.Holds) :
    Locked isRunning none run (Function.update callers t step) where
  runHolds := fun hrun => nomatch (h.callerHolds t hcaller).symm.trans (h.runHolds hrun)
  callerHolds := by
    refine update_forall (P := fun t' step => step.Holds → none = some (some t')) ?_ fun hstep =>
      absurd hstep hholds
    intro t' ht hcaller'
    have howner := (h.callerHolds t hcaller).symm.trans (h.callerHolds t' hcaller')
    exact absurd (Option.some.inj (Option.some.inj howner)).symm ht
  runPushes := h.runPushes
  callerPushes := update_forall (P := fun _ step => step.Pushes → isRunning = true)
    (fun t' _ => h.callerPushes t') fun hstep => absurd hstep.holds hholds
  closing := h.closing

/-- Whoever clears `is_running_` has the mutex, so nobody is about to push. -/
theorem Locked.store (h : Locked isRunning waitMutex run callers) (hrun : ¬ run.Pushes)
    (hcallers : ∀ t, ¬ (callers t).Pushes) : Locked false waitMutex run callers where
  runHolds := h.runHolds
  callerHolds := h.callerHolds
  runPushes := fun hpushes => absurd hpushes hrun
  callerPushes := fun t hpushes => absurd hpushes (hcallers t)
  closing := fun _ => rfl

theorem Locked.notify (h : Locked s.isRunning s.waitMutex s.run s.callers) :
    Locked s.isRunning s.waitMutex s.notify.run s.callers := by
  obtain hsame | ⟨_, hwoken⟩ := s.notify_eq
  · rwa [hsame]
  · rw [hwoken]
    exact h.setRun nofun nofun nofun

theorem Locked.store_next (h : Locked s.isRunning s.waitMutex s.run s.callers) {who : Who}
    (howner : s.waitMutex = some who) (hrun : ¬ s.run.Pushes)
    (hcaller : ∀ t, who = some t → ¬ (s.callers t).Pushes) :
    Locked false s.waitMutex s.run s.callers := by
  refine h.store hrun ?_
  intro t hpushes
  have hholds := howner.symm.trans (h.callerHolds t hpushes.holds)
  exact hcaller t (Option.some.inj hholds) hpushes

/-- A thread goes on with `Enqueue`, with or without the mutex. -/
theorem Locked.setEnqueue {s₁ : DBThread} {who : Who} {task : DBTask} {before after : EnqueueStep}
    (h : Locked s.isRunning s.waitMutex s.run s.callers) (henqueue : s.Enqueuing task before who)
    (hholds : after.Holds → before.Holds) (hpushes : after = .push → s.isRunning = true)
    (hrun : s₁.run = s.run) (hcallers : s₁.callers = s.callers) :
    Locked s.isRunning s.waitMutex (s₁.setEnqueue task after who).run
      (s₁.setEnqueue task after who).callers := by
  cases who with
  | some t =>
      simp only [DBThread.setEnqueue, DBThread.setCaller, hrun, hcallers]
      refine h.setCaller ?_ ?_
      · rw [henqueue]
        exact hholds
      · cases after <;> first | exact fun _ => hpushes rfl | exact nofun
  | none =>
      simp only [DBThread.setEnqueue, DBThread.setRun, hcallers]
      refine h.setRun ?_ ?_ nofun
      · rw [henqueue]
        exact hholds
      · cases after <;> first | exact fun _ => hpushes rfl | exact nofun

end Locked

theorem locked_next (h : Locked s.isRunning s.waitMutex s.run s.callers)
    (hanswered : ∀ task fate next, s.run = .post task fate [] next →
      next = .whileRunning ∨ next = .failPop)
    (hnext : Next s s') : Locked s'.isRunning s'.waitMutex s'.run s'.callers := by
  cases hnext with
  | begin | refused | closeBegin => exact h.setCaller nofun nofun
  | running henqueue =>
      rw [setEnqueue_isRunning, setEnqueue_waitMutex]
      exact h.setEnqueue henqueue nofun nofun rfl rfl
  | pushThrew henqueue | notRunning henqueue =>
      rw [setEnqueue_isRunning, setEnqueue_waitMutex]
      exact h.setEnqueue henqueue id nofun rfl rfl
  | checked henqueue hrunning =>
      rw [setEnqueue_isRunning, setEnqueue_waitMutex]
      exact h.setEnqueue henqueue id (fun _ => hrunning) rfl rfl
  | pushed henqueue =>
      rw [setEnqueue_isRunning, setEnqueue_waitMutex, push_isRunning, push_waitMutex]
      exact h.setEnqueue henqueue id nofun (push_run s _ _) (push_callers s _ _)
  | @locked who task henqueue hfree =>
      rw [hfree] at h
      cases who with
      | some t => exact h.lockCaller id
      | none => exact h.lockRun id nofun
  | @unlockedRefused who task henqueue | @unlockedPushed who task henqueue =>
      cases who with
      | some t => exact h.unlockCaller (by rw [henqueue]; trivial) id
      | none => exact h.unlockRun (by rw [henqueue]; trivial) id nofun
  | @notified who task henqueue =>
      rw [setDone_isRunning, setDone_waitMutex, notify_isRunning, notify_waitMutex]
      cases who with
      | some t =>
          simp only [setDone, setCaller, notify_callers]
          exact h.notify.setCaller nofun nofun
      | none =>
          simp only [setDone, setRun, notify_callers]
          exact h.setRun nofun nofun nofun
  | closeLocked _ hfree =>
      rw [hfree] at h
      exact h.lockCaller id
  | @closeStored t hclose =>
      have hholds : (s.callers t).Holds := by
        rw [hclose]
        trivial
      -- the flag is stored under the mutex, so nobody is between its check and its push
      have howner := h.callerHolds t hholds
      have hstored : Locked false s.waitMutex s.run s.callers := by
        refine h.store_next howner ?_ ?_
        · intro hpushes
          cases howner.symm.trans (h.runHolds hpushes.holds)
        · rintro t' ⟨rfl⟩
          rw [hclose]
          exact id
      exact hstored.setCaller (fun _ => hholds) nofun
  | closeUnlocked hclose => exact h.unlockCaller (by rw [hclose]; trivial) id
  | closeNotified hclose =>
      simp only [setCaller, notify_isRunning, notify_waitMutex, notify_callers]
      exact h.notify.setCaller nofun nofun
  | wake =>
      rw [notify_isRunning, notify_waitMutex, notify_callers]
      exact h.notify
  | connectFailed | givenUp | connected | goesOn | empty | spurious | sqlException
  | exception | executed
  | popped => exact h.setRun nofun nofun nofun
  | waitedTask hrun | waitsEmpty hrun | waitedClose hrun | waitsRunning hrun | notClosed hrun
  | poppedAgain hrun
  | emptyAgain hrun => exact h.setRun (fun _ => by rw [hrun]; trivial) nofun nofun
  | failPopped hrun | disconnected hrun | failEmpty hrun =>
      exact h.setRun nofun nofun fun _ => .inl (by rw [hrun]; trivial)
  | loopEnds _ hstopped => exact h.setRun nofun nofun fun _ => .inr hstopped
  | closed hrun hstopped =>
      exact h.setRun (fun _ => by rw [hrun]; trivial) nofun fun _ => .inr hstopped
  | failLocked hrun hfree | runLocked hrun hfree =>
      rw [hfree] at h
      exact h.lockRun id nofun
  | failStored hrun =>
      have hholds : s.run.Holds := by
        rw [hrun]
        trivial
      have hstored : Locked false s.waitMutex s.run s.callers := by
        refine h.store_next (h.runHolds hholds) ?_ nofun
        rw [hrun]
        exact id
      exact hstored.setRun (fun _ => hholds) nofun fun _ => .inr rfl
  | failUnlocked hrun | unlockedDiscard hrun =>
      exact h.unlockRun (by rw [hrun]; trivial) id fun _ => by rw [hrun]; trivial
  | sleeps hrun | unlockedLoop hrun | unlockedProcess hrun =>
      exact h.unlockRun (by rw [hrun]; trivial) id nofun
  | posts hrun => exact h.setRun nofun nofun fun hclosing => .inl (by rw [hrun]; exact hclosing)
  | answered hrun =>
      refine h.setRun ?_ ?_ fun hclosing => .inl (by rw [hrun]; exact hclosing)
      -- after an answer the thread goes on with its loop, or with emptying the queue
      · obtain rfl | rfl := hanswered _ _ _ hrun <;> exact nofun
      · obtain rfl | rfl := hanswered _ _ _ hrun <;> exact nofun
  | discarded hrun => exact h

end DBThread

end ProjectTetris

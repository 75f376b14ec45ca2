import ProjectTetris.Lib.WorkQueue
import ProjectTetris.Threads.DBThreadMutex

/-!
# Every task is answered once

A task that `Enqueue` has taken is in the queue, in the hands of `Run` or ended; it ends
with its completions posted, or thrown away once the thread has been closed. A statement
that throws sends its task through the queue again, and only that changes the order.

The mutex is what makes `Close` final: nobody pushes once `is_running_` is false, so that
the queue `Run` leaves behind is empty and stays so.
-/

namespace ProjectTetris

open Transition

namespace DBRunStep

/-- The task that is neither in the queue nor ended. -/
def inHand : DBRunStep → Option DBTask
  | .process task | .unlock (.process task) | .post task _ _ _ => some task
  | .retry _ .unlockPushed | .retry _ .notify => none
  | .retry task _ => some task
  | _ => none

/-- What is yet to be posted of what is being posted. -/
def owed : DBRunStep → List DBCompletion
  | .post _ _ rest _ => rest
  | _ => []

/-- All of what is being posted. -/
def underWay : DBRunStep → List DBCompletion
  | .post task _ _ _ => task.completions
  | _ => []

/-- Completions are being posted. -/
def Answering : DBRunStep → Prop
  | .post _ _ _ _ => True
  | _ => False

theorem owed_of_not {run : DBRunStep} (h : ¬ run.Answering) : run.owed = [] := by
  cases run <;> first | rfl | exact absurd trivial h

theorem underWay_of_not {run : DBRunStep} (h : ¬ run.Answering) : run.underWay = [] := by
  cases run <;> first | rfl | exact absurd trivial h

end DBRunStep

namespace DBThread

variable {s s' : DBThread}

/-- The tasks that have been answered, in the order of their answers. -/
def answered (fates : List (DBTask × DBTaskFate)) : List DBTask :=
  (fates.filter fun fate => fate.2 ≠ .discarded).map Prod.fst

def workQueue (s : DBThread) : WorkQueue DBTask where
  accepted := s.accepted
  waiting := s.taskQueue
  inHand := s.run.inHand
  ended := s.fates.map Prod.fst
  putBack := s.retried

/-! ## The queue of tasks -/

@[simp] theorem workQueue_notify (s : DBThread) : s.notify.workQueue = s.workQueue := by
  obtain hsame | ⟨hasleep, hwoken⟩ := s.notify_eq
  · rw [hsame]
  · rw [hwoken]
    simp only [workQueue, setRun, hasleep, DBRunStep.inHand]

@[simp] theorem workQueue_setCaller (s : DBThread) (t : Nat) (step : DBCallStep) :
    (s.setCaller t step).workQueue = s.workQueue := rfl

@[simp] theorem workQueue_setMutex (s : DBThread) (waitMutex : Option Who) :
    (s.setMutex waitMutex).workQueue = s.workQueue := rfl

theorem workQueue_setRun {step : DBRunStep} (h : step.inHand = s.run.inHand) :
    (s.setRun step).workQueue = s.workQueue := by
  simp only [workQueue, setRun, h]

/-- Before the push the task is where it was; after it, it is in the queue. -/
theorem workQueue_setEnqueue {who : Who} {task : DBTask} {before after : EnqueueStep}
    (h : s.Enqueuing task before who)
    (hsame : (DBRunStep.retry task after).inHand = (DBRunStep.retry task before).inHand) :
    (s.setEnqueue task after who).workQueue = s.workQueue := by
  cases who with
  | some t => exact workQueue_setCaller s t _
  | none => exact workQueue_setRun (by rw [hsame, h])

private theorem seen_same (h : s'.workQueue = s.workQueue) :
    WorkQueue.system.Run s.workQueue s'.workQueue := by
  rw [h]
  exact .refl

private theorem seen_take {task : DBTask} {rest : List DBTask} {step : DBRunStep}
    (hpop : s.taskQueue = task :: rest) (hfree : s.run.inHand = none)
    (hinHand : step.inHand = some task) :
    WorkQueue.Next s.workQueue ({ s with taskQueue := rest }.setRun step).workQueue := by
  have htake := WorkQueue.Next.take s.workQueue hpop hfree
  simpa only [workQueue, setRun, hinHand] using htake

private theorem seen_finish {task : DBTask} {fate : DBTaskFate} {step : DBRunStep}
    (hinHand : s.run.inHand = some task) (hfree : step.inHand = none) :
    WorkQueue.Next s.workQueue ((s.finish task fate).setRun step).workQueue := by
  have hfinish := WorkQueue.Next.finish s.workQueue hinHand
  simpa only [workQueue, setRun, finish, hfree, List.map_append, List.map_cons, List.map_nil]
    using hfinish

private theorem seen_pushed {who : Who} {task : DBTask} (h : s.Enqueuing task .push who) :
    WorkQueue.Next s.workQueue
      ((s.push task who).setEnqueue task .unlockPushed who).workQueue := by
  cases who with
  | some t => exact .accept s.workQueue task
  | none =>
      have hinHand : s.workQueue.inHand = some task := by
        rw [workQueue, h]
        rfl
      have hput := WorkQueue.Next.putBack s.workQueue hinHand
      simpa only [workQueue, setEnqueue, setRun, push, DBRunStep.inHand] using hput

private theorem workQueue_notified {who : Who} {task : DBTask} (h : s.Enqueuing task .notify who) :
    (s.notify.setDone who).workQueue = s.workQueue := by
  cases who with
  | some t => exact s.workQueue_notify
  | none =>
      have hawake : s.notify = s := by
        rw [notify, h]
      rw [hawake]
      exact workQueue_setRun (by rw [h]; rfl)

/-- The task is taken out and is gone at once. -/
private theorem seen_discarded {task : DBTask} {rest : List DBTask} (hrun : s.run = .discard)
    (hpop : s.taskQueue = task :: rest) :
    WorkQueue.system.Run s.workQueue
      ({ s with taskQueue := rest }.finish task .discarded).workQueue := by
  have hfree : s.run.inHand = none := by
    rw [hrun]
    rfl
  have htake := WorkQueue.Next.take s.workQueue hpop hfree
  have hfinish : WorkQueue.system.next _ _ :=
    .finish { s.workQueue with waiting := rest, inHand := some task } rfl
  refine .tail (.single htake) ?_
  simpa only [workQueue, finish, hfree, List.map_append, List.map_cons, List.map_nil] using hfinish

/-- **What the thread does to its tasks is what a worker does to its queue.** -/
theorem next_workQueue (h : Next s s')
    (hnext : ∀ task fate next, s.run = .post task fate [] next → next.inHand = none) :
    WorkQueue.system.Run s.workQueue s'.workQueue := by
  cases h with
  | begin | refused | closeBegin => exact seen_same (workQueue_setCaller s _ _)
  | closeLocked | closeStored | closeUnlocked => exact .refl
  | closeNotified =>
      refine seen_same ?_
      rw [workQueue_setCaller, workQueue_notify]
  | wake => exact seen_same s.workQueue_notify
  | running henqueue | checked henqueue | notRunning henqueue | pushThrew henqueue =>
      exact seen_same (workQueue_setEnqueue henqueue rfl)
  | locked henqueue | unlockedRefused henqueue | unlockedPushed henqueue =>
      exact seen_same (workQueue_setEnqueue (s := s.setMutex _) henqueue rfl)
  | pushed henqueue => exact .single (seen_pushed henqueue)
  | notified henqueue => exact seen_same (workQueue_notified henqueue)
  | givenUp hretry => exact .single (seen_finish (by rw [hretry]; rfl) rfl)
  | connectFailed hrun | connected hrun | goesOn hrun | loopEnds hrun | failEmpty hrun | empty hrun
  | spurious hrun
  | waitedTask hrun | waitsEmpty hrun | waitedClose hrun | waitsRunning hrun | closed hrun
  | notClosed hrun | emptyAgain hrun | executed hrun | sqlException hrun | exception hrun
  | disconnected hrun => exact seen_same (workQueue_setRun (by rw [hrun]; rfl))
  | failLocked hrun | failUnlocked hrun | sleeps hrun | unlockedLoop hrun | unlockedProcess hrun
  | unlockedDiscard hrun =>
      exact seen_same (workQueue_setRun (s := s.setMutex _) (by rw [setMutex, hrun]; rfl))
  | runLocked hrun =>
      refine seen_same (workQueue_setRun (s := s.setMutex _) ?_)
      obtain hlock | hrelock := hrun
      · rw [setMutex, hlock]
        rfl
      · rw [setMutex, hrelock]
        rfl
  | failStored hrun =>
      exact seen_same (workQueue_setRun (s := { s with isRunning := false }) (by rw [hrun]; rfl))
  | failPopped hrun hpop | popped hrun hpop | poppedAgain hrun hpop =>
      exact .single (seen_take hpop (by rw [hrun]; rfl) rfl)
  | posts hrun =>
      exact seen_same (workQueue_setRun (s := { s with posted := _ }) (by rw [hrun]; rfl))
  | answered hrun => exact .single (seen_finish (by rw [hrun]; rfl) (hnext _ _ _ hrun))
  | discarded hrun hpop => exact seen_discarded hrun hpop

/-! ## The completions -/

/-- What has been posted belongs to the tasks that have been answered, and to the one that is being
answered. -/
structure Answers (posted : List DBCompletion) (fates : List (DBTask × DBTaskFate))
    (run : DBRunStep) : Prop where
  posts : posted ++ run.owed = (answered fates).flatMap DBTask.completions ++ run.underWay
  answering : ∀ task fate rest next, run = .post task fate rest next →
    fate ≠ .discarded ∧ (next = .whileRunning ∨ next = .failPop)

section Answers

variable {posted : List DBCompletion} {fates : List (DBTask × DBTaskFate)}
  {run run' next : DBRunStep} {task : DBTask} {fate : DBTaskFate}

theorem answered_append_discarded : answered (fates ++ [(task, .discarded)]) = answered fates := by
  simp only [answered, List.filter_append, ne_eq, decide_not, List.filter_cons, List.filter_nil]
  simp

theorem answered_append (hfate : fate ≠ .discarded) :
    answered (fates ++ [(task, fate)]) = answered fates ++ [task] := by
  simp only [answered, List.filter_append, List.map_append, List.filter_cons, List.filter_nil]
  simp [hfate]

theorem Answers.of_not (hrun : ¬ run.Answering)
    (h : posted = (answered fates).flatMap DBTask.completions) :
    Answers posted fates run := by
  refine ⟨?_, ?_⟩
  · rw [DBRunStep.owed_of_not hrun, DBRunStep.underWay_of_not hrun, h]
  · rintro task fate rest next rfl
    exact absurd trivial hrun

theorem Answers.posted_eq (h : Answers posted fates run) (hrun : ¬ run.Answering) :
    posted = (answered fates).flatMap DBTask.completions := by
  have hposts := h.posts
  rwa [DBRunStep.owed_of_not hrun, DBRunStep.underWay_of_not hrun, List.append_nil,
    List.append_nil] at hposts

/-- `Run` goes on, and answers nothing. -/
theorem Answers.goOn (h : Answers posted fates run) (hrun : ¬ run.Answering)
    (hrun' : ¬ run'.Answering) :
    Answers posted fates run' := .of_not hrun' (h.posted_eq hrun)

theorem Answers.begin (h : Answers posted fates run) (hrun : ¬ run.Answering)
    (hfate : fate ≠ .discarded) (hnext : next = .whileRunning ∨ next = .failPop) :
    Answers posted fates (.post task fate task.completions next) := by
  refine ⟨?_, ?_⟩
  · rw [h.posted_eq hrun]
    rfl
  · rintro task' fate' rest' next' ⟨rfl, rfl, rfl, rfl⟩
    exact ⟨hfate, hnext⟩

theorem Answers.post {completion : DBCompletion} {rest : List DBCompletion}
    (h : Answers posted fates (.post task fate (completion :: rest) next)) :
    Answers (posted ++ [completion]) fates (.post task fate rest next) := by
  refine ⟨?_, ?_⟩
  · have hposts := h.posts
    rwa [DBRunStep.owed, List.append_cons] at hposts
  · rintro task' fate' rest' next' ⟨rfl, rfl, rfl, rfl⟩
    exact h.answering _ _ _ _ rfl

theorem Answers.finish (h : Answers posted fates (.post task fate [] next)) :
    Answers posted (fates ++ [(task, fate)]) next := by
  obtain ⟨hfate, hnext⟩ := h.answering _ _ _ _ rfl
  have hposts := h.posts
  refine .of_not ?_ ?_
  · obtain rfl | rfl := hnext <;> exact id
  · rw [DBRunStep.owed, List.append_nil] at hposts
    rw [hposts, answered_append hfate, List.flatMap_append, List.flatMap_singleton]
    rfl

/-- A task is given up, or thrown away. -/
theorem Answers.discard (h : Answers posted fates run) (hrun : ¬ run.Answering)
    (hrun' : ¬ run'.Answering) :
    Answers posted (fates ++ [(task, .discarded)]) run' := by
  refine .of_not hrun' ?_
  rw [answered_append_discarded]
  exact h.posted_eq hrun

theorem Answers.setEnqueue {s₁ : DBThread} {who : Who} {before after : EnqueueStep}
    (h : Answers s.posted s.fates s.run) (henqueue : s.Enqueuing task before who)
    (hsame : s₁.run = s.run) :
    Answers s.posted s.fates (s₁.setEnqueue task after who).run := by
  cases who with
  | some t => exact hsame ▸ h
  | none => exact h.goOn (by rw [henqueue]; exact id) id

theorem Answers.notify (h : Answers s.posted s.fates s.run) :
    Answers s.posted s.fates s.notify.run := by
  obtain hsame | ⟨hasleep, hwoken⟩ := s.notify_eq
  · rwa [hsame]
  · rw [hwoken]
    exact h.goOn (by rw [hasleep]; exact id) id

end Answers

theorem answers_next (h : Answers s.posted s.fates s.run) (hnext : Next s s') :
    Answers s'.posted s'.fates s'.run := by
  cases hnext with
  | begin | refused | closeBegin | closeLocked | closeStored | closeUnlocked => exact h
  | closeNotified | wake =>
      simp only [setCaller, notify_posted, notify_fates]
      exact h.notify
  | running henqueue | checked henqueue | notRunning henqueue | pushThrew henqueue
  | locked henqueue
  | unlockedRefused henqueue | unlockedPushed henqueue =>
      rw [setEnqueue_posted, setEnqueue_fates]
      exact h.setEnqueue henqueue rfl
  | pushed henqueue =>
      rw [setEnqueue_posted, setEnqueue_fates, push_posted, push_fates]
      exact h.setEnqueue henqueue (push_run s _ _)
  | @notified who task henqueue =>
      rw [setDone_posted, setDone_fates, notify_posted, notify_fates]
      cases who with
      | some t => exact h.notify
      | none => exact h.goOn (by rw [henqueue]; exact id) id
  | givenUp hretry => exact h.discard (by rw [hretry]; exact id) id
  | connectFailed hrun | connected hrun | goesOn hrun | loopEnds hrun | failEmpty hrun | empty hrun
  | spurious hrun
  | waitedTask hrun | waitsEmpty hrun | waitedClose hrun | waitsRunning hrun | closed hrun
  | notClosed hrun | emptyAgain hrun | sqlException hrun | disconnected hrun
  | failLocked hrun | failStored hrun | failUnlocked hrun | sleeps hrun | unlockedLoop hrun
  | unlockedProcess hrun
  | unlockedDiscard hrun | popped hrun | poppedAgain hrun =>
      exact h.goOn (by rw [hrun]; exact id) id
  | runLocked hrun => exact h.goOn (by obtain hrun | hrun := hrun <;> rw [hrun] <;> exact id) id
  | failPopped hrun => exact h.begin (by rw [hrun]; exact id) (by decide) (.inr rfl)
  | executed hrun | exception hrun => exact h.begin (by rw [hrun]; exact id) (by decide) (.inl rfl)
  | posts hrun =>
      rw [hrun] at h
      exact h.post
  | answered hrun =>
      rw [hrun] at h
      exact h.finish
  | discarded hrun =>
      have hidle : ¬ s.run.Answering := by
        rw [hrun]
        exact id
      exact h.discard hidle hidle

/-! ## The end -/

/-- A task is thrown away only when the thread has been closed. -/
def DiscardsClosed (isRunning : Bool) (fates : List (DBTask × DBTaskFate)) : Prop :=
  ∀ task, (task, .discarded) ∈ fates → isRunning = false

theorem DiscardsClosed.append {isRunning : Bool} {fates : List (DBTask × DBTaskFate)}
    {task : DBTask} {fate : DBTaskFate} (h : DiscardsClosed isRunning fates)
    (hfate : fate = .discarded → isRunning = false) :
    DiscardsClosed isRunning (fates ++ [(task, fate)]) := by
  intro task' hmem
  obtain hmem | hmem := List.mem_append.mp hmem
  · exact h task' hmem
  · rw [List.mem_singleton, Prod.mk.injEq] at hmem
    exact hfate hmem.2.symm

theorem discardsClosed_next (h : DiscardsClosed s.isRunning s.fates)
    (hanswers : Answers s.posted s.fates s.run)
    (hlocked : Locked s.isRunning s.waitMutex s.run s.callers) (hnext : Next s s') :
    DiscardsClosed s'.isRunning s'.fates := by
  cases hnext with
  | closeStored | failStored => exact fun _ _ => rfl
  | givenUp _ hstopped => exact h.append fun _ => hstopped
  | answered hrun => exact h.append fun hfate => absurd hfate (hanswers.answering _ _ _ _ hrun).1
  | discarded hrun => exact h.append fun _ => hlocked.closing (by rw [hrun]; trivial)
  | running | checked | notRunning | pushThrew | locked | unlockedRefused | unlockedPushed =>
      rw [setEnqueue_isRunning, setEnqueue_fates]
      exact h
  | pushed =>
      rw [setEnqueue_isRunning, setEnqueue_fates, push_isRunning, push_fates]
      exact h
  | notified =>
      rw [setDone_isRunning, setDone_fates, notify_isRunning, notify_fates]
      exact h
  | closeNotified | wake =>
      simp only [setCaller, notify_isRunning, notify_fates]
      exact h
  | _ => exact h

/-- `Run` has left nothing behind. -/
def Drained (s : DBThread) : Prop := s.run = .stopped → s.taskQueue = []

theorem Drained.notify (h : s.Drained) : s.notify.Drained := by
  intro hstopped
  obtain hsame | ⟨_, hwoken⟩ := s.notify_eq
  · rw [notify_taskQueue]
    exact h (hsame ▸ hstopped)
  · rw [hwoken] at hstopped
    cases hstopped

theorem drained_next (h : s.Drained) (hanswers : Answers s.posted s.fates s.run)
    (hlocked : Locked s.isRunning s.waitMutex s.run s.callers) (hnext : Next s s') :
    s'.Drained := by
  cases hnext with
  | disconnected _ hempty | failEmpty _ hempty => exact fun _ => hempty
  | begin | refused | closeBegin | closeLocked | closeStored | closeUnlocked => exact h
  | @running who | @checked who | @notRunning who | @pushThrew who | @locked who
  | @unlockedRefused who
  | @unlockedPushed who =>
      cases who with
      | some t => exact h
      | none => exact nofun
  | @pushed who task henqueue =>
      cases who with
      | none => exact nofun
      | some t =>
          intro hstopped
          have hclosed := hlocked.closing (by rw [show s.run = .stopped from hstopped]; trivial)
          have hrunning := hlocked.callerPushes t (by rw [henqueue]; trivial)
          rw [hclosed] at hrunning
          cases hrunning
  | @notified who =>
      cases who with
      | some t => exact h.notify
      | none => exact nofun
  | closeNotified | wake => exact h.notify
  | answered hrun =>
      obtain rfl | rfl := (hanswers.answering _ _ _ _ hrun).2 <;> exact nofun
  | discarded hrun =>
      intro hstopped
      rw [show s.run = .stopped from hstopped] at hrun
      cases hrun
  | _ => exact nofun

/-- What holds of every database thread, whatever the threads around it do. -/
structure Once (s : DBThread) : Prop where
  queue : WorkQueue.system.Reachable s.workQueue
  answers : Answers s.posted s.fates s.run
  locked : Locked s.isRunning s.waitMutex s.run s.callers
  discards : DiscardsClosed s.isRunning s.fates
  drained : s.Drained

theorem once_start : Once start where
  queue := .start rfl
  answers := .of_not id rfl
  locked := ⟨nofun, nofun, nofun, nofun, nofun⟩
  discards := nofun
  drained := nofun

/-- What `Run` goes on with has no task in hand. -/
theorem Answers.free_next {posted : List DBCompletion} {fates : List (DBTask × DBTaskFate)}
    {run : DBRunStep} (h : Answers posted fates run) :
    ∀ task fate next, run = .post task fate [] next → next.inHand = none := by
  intro task fate next hrun
  obtain rfl | rfl := (h.answering _ _ _ _ hrun).2 <;> rfl

theorem once_next (h : Once s) (hnext : Next s s') : Once s' where
  queue := h.queue.run (next_workQueue hnext h.answers.free_next)
  answers := answers_next h.answers hnext
  locked := locked_next h.locked (fun _ _ _ hrun => (h.answers.answering _ _ _ _ hrun).2) hnext
  discards := discardsClosed_next h.discards h.answers h.locked hnext
  drained := drained_next h.drained h.answers h.locked hnext

theorem once_reachable (h : system.Reachable s) : Once s := by
  refine invariant ?_ (fun _ _ => once_next) h
  rintro s rfl
  exact once_start

/-- **Every task that has been taken is answered once.** -/
theorem tasks_answered_once (h : system.Reachable s) :
    s.workQueue.tasks.Perm s.accepted ∧
    (s.retried = false → s.workQueue.tasks = s.accepted) ∧
    s.posted ++ s.run.owed = (answered s.fates).flatMap DBTask.completions ++ s.run.underWay ∧
    (∀ task, (task, .discarded) ∈ s.fates → s.isRunning = false) ∧
    (s.run = .stopped → (s.fates.map Prod.fst).Perm s.accepted) := by
  have honce := once_reachable h
  refine ⟨WorkQueue.tasks_perm honce.queue, WorkQueue.tasks_eq honce.queue, honce.answers.posts,
    honce.discards, ?_⟩
  intro hstopped
  have hperm := WorkQueue.tasks_perm honce.queue
  simpa only [WorkQueue.tasks, workQueue, honce.drained hstopped, hstopped, DBRunStep.inHand,
    Option.toList, List.append_nil] using hperm

/-- The rankings are asked for; the first statement throws. -/
theorem retried_run : ∃ s, system.Reachable s ∧ s.retried = true ∧
    s.accepted = [⟨.loadRankings, .server⟩] ∧
    s.posted = [⟨none, .loadRankings⟩] := by
  let task : DBTask := ⟨.loadRankings, .server⟩
  have h : system.Reachable start := .start rfl
  have h := h.next (Next.begin _ (t := 0) task rfl)
  have h := h.next (Next.running _ (show Enqueuing _ task .whileRunning (some 0) from rfl) rfl)
  have h := h.next (Next.locked _ (show Enqueuing _ task .lock (some 0) from rfl) rfl)
  have h := h.next (Next.checked _ (show Enqueuing _ task .checkRunning (some 0) from rfl) rfl)
  have h := h.next (Next.pushed _ (show Enqueuing _ task .push (some 0) from rfl))
  have h := h.next (Next.unlockedPushed _ (show Enqueuing _ task .unlockPushed (some 0) from rfl))
  have h := h.next (Next.connected _ rfl)
  have h := h.next (Next.goesOn _ rfl rfl)
  have h := h.next (Next.popped _ rfl rfl)
  have h := h.next (Next.sqlException _ rfl)
  have h := h.next (Next.running _ (show Enqueuing _ task .whileRunning none from rfl) rfl)
  have h := h.next (Next.locked _ (show Enqueuing _ task .lock none from rfl) rfl)
  have h := h.next (Next.checked _ (show Enqueuing _ task .checkRunning none from rfl) rfl)
  have h := h.next (Next.pushed _ (show Enqueuing _ task .push none from rfl))
  have h := h.next (Next.unlockedPushed _ (show Enqueuing _ task .unlockPushed none from rfl))
  have h := h.next (Next.notified _ (show Enqueuing _ task .notify none from rfl))
  have h := h.next (Next.goesOn _ rfl rfl)
  have h := h.next (Next.popped _ rfl rfl)
  have h := h.next (Next.executed _ rfl)
  have h := h.next (Next.posts _ rfl)
  exact ⟨_, h, rfl, rfl, rfl⟩

theorem tasks_answered_once_retried : ∃ s, system.Reachable s ∧ s.retried = true ∧
    s.workQueue.tasks.Perm [⟨.loadRankings, .server⟩] := by
  obtain ⟨s, h, hretried, haccepted, -⟩ := retried_run
  exact ⟨s, h, hretried, haccepted ▸ (tasks_answered_once h).1⟩

end DBThread

end ProjectTetris

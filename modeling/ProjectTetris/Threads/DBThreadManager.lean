import ProjectTetris.Threads.DBTasksOnce

/-!
# The database threads and who gets which task

`DBThreadManager`: one thread for logins and two for everything else. A player's tasks go to
one thread by his number, a task for several players by that of the first of them, and what
belongs to no player goes to the two in turn. So whatever the threads do, and however many
enqueue at once, the tasks routed by one number are executed in the order in which they were
taken.

`history` is not of the source: every task any thread has taken, in order.
-/

namespace ProjectTetris

open Transition

/-- `GAME_THREAD_COUNT`. -/
abbrev gameThreadCount : Nat := 2

inductive DBThreadId where
  | login
  | game (i : Fin gameThreadCount)
  deriving DecidableEq

namespace DBTask

/-- The player whose number chooses the thread. -/
def routingPlayer (task : DBTask) : Option Int :=
  match task.target with
  | .server => none
  | .session key => if 0 ≤ key.playerId then some key.playerId else none
  | .multiSession playerKeys => some ((playerKeys.head?.getD .empty).playerId)

/-- `LOGIN`, which only sessions ask for. -/
def IsLogin (task : DBTask) : Prop := ∃ key, task = ⟨.login, .session key⟩

instance (task : DBTask) : Decidable task.IsLogin :=
  match task with
  | ⟨operationType, .session key⟩ =>
      if h : operationType = .login then .isTrue ⟨key, by rw [h]⟩
      else .isFalse fun ⟨_, heq⟩ => h (congrArg DBTask.operationType heq)
  | ⟨_, .server⟩ => .isFalse fun ⟨_, heq⟩ => nomatch congrArg DBTask.target heq
  | ⟨_, .multiSession _⟩ => .isFalse fun ⟨_, heq⟩ => nomatch congrArg DBTask.target heq

/-- The task is routed by this player's number, and is not his login. Of a task for several players
that is the first one's: it does not count as a task of the others. -/
def OfPlayer (task : DBTask) (playerId : Int) : Prop :=
  ¬ task.IsLogin ∧ task.routingPlayer = some playerId

instance (task : DBTask) (playerId : Int) : Decidable (task.OfPlayer playerId) :=
  inferInstanceAs (Decidable (_ ∧ _))

end DBTask

/-! ## What one thread takes -/

namespace DBThread

variable {s s' : DBThread}

@[simp] theorem setEnqueue_accepted (s : DBThread) (task : DBTask) (step : EnqueueStep)
    (who : Who) :
    (s.setEnqueue task step who).accepted = s.accepted := by
  cases who <;> rfl

@[simp] theorem setDone_accepted (s : DBThread) (who : Who) :
    (s.setDone who).accepted = s.accepted := by
  cases who <;> rfl

@[simp] theorem notify_accepted (s : DBThread) : s.notify.accepted = s.accepted := by
  unfold notify
  split <;> rfl

/-- A thread takes a task from a caller who has brought it. -/
theorem accepted_next (hnext : Next s s') : s'.accepted = s.accepted ∨
    ∃ t task, s.callers t = .enqueue task .push ∧ s'.accepted = s.accepted ++ [task] := by
  cases hnext with
  | @pushed who task henqueue =>
      cases who with
      | some t => exact .inr ⟨t, task, henqueue, rfl⟩
      | none => exact .inl rfl
  | running | checked | notRunning | pushThrew | locked | unlockedRefused | unlockedPushed =>
      exact .inl (setEnqueue_accepted _ _ _ _)
  | notified => exact .inl (by rw [setDone_accepted, notify_accepted])
  | closeNotified | wake => exact .inl (s.notify_accepted)
  | _ => exact .inl rfl

theorem accepted_eq_append (hnext : Next s s') :
    s'.accepted = s.accepted ++ s'.accepted.drop s.accepted.length := by
  obtain hsame | ⟨t, task, -, htaken⟩ := accepted_next hnext
  · rw [hsame, List.drop_length, List.append_nil]
  · rw [htaken, List.drop_left]

/-- What a thread takes is brought by somebody. -/
theorem brought_of_accepted (hnext : Next s s') {task : DBTask}
    (hmem : task ∈ s'.accepted.drop s.accepted.length) :
    ∃ t, s.callers t = .enqueue task .push := by
  obtain hsame | ⟨t, task', hcaller, htaken⟩ := accepted_next hnext
  · rw [hsame, List.drop_length] at hmem
    cases hmem
  · rw [htaken, List.drop_left, List.mem_singleton] at hmem
    exact ⟨t, hmem ▸ hcaller⟩

/-- A caller is where he was, or has gone on with his task, or has brought it just now. -/
def GoesOn (before after : DBCallStep) : Prop :=
  ∀ task step, after = .enqueue task step →
    (∃ step', before = .enqueue task step') ∨ before = .idle ∧ step = .whileRunning

theorem goesOn_update {t : Nat} {step : DBCallStep} (h : GoesOn (s.callers t) step) (t' : Nat) :
    GoesOn (s.callers t') (Function.update s.callers t step t') := by
  by_cases ht : t' = t
  · subst ht
    rwa [Function.update_self]
  · rw [Function.update_of_ne ht]
    exact fun task step hcaller => .inl ⟨step, hcaller⟩

theorem goesOn_refl (step : DBCallStep) : GoesOn step step :=
  fun _ step' hstep => .inl ⟨step', hstep⟩

theorem goesOn_setEnqueue {s₁ : DBThread} {who : Who} {task : DBTask} {before after : EnqueueStep}
    (henqueue : s.Enqueuing task before who) (hcallers : s₁.callers = s.callers) (t' : Nat) :
    GoesOn (s.callers t') ((s₁.setEnqueue task after who).callers t') := by
  cases who with
  | none => exact hcallers ▸ goesOn_refl _
  | some t =>
      simp only [setEnqueue, setCaller, hcallers]
      refine goesOn_update ?_ t'
      rintro task' step ⟨⟩
      exact .inl ⟨before, henqueue⟩

theorem goesOn_next (hnext : Next s s') (t' : Nat) : GoesOn (s.callers t') (s'.callers t') := by
  cases hnext with
  | begin task hidle =>
      refine goesOn_update ?_ t'
      rintro task' step ⟨⟩
      exact .inr ⟨hidle, rfl⟩
  | running henqueue | checked henqueue | notRunning henqueue | pushThrew henqueue
  | locked henqueue
  | unlockedRefused henqueue | unlockedPushed henqueue =>
      refine goesOn_setEnqueue henqueue ?_ t'
      rfl
  | pushed henqueue => exact goesOn_setEnqueue henqueue (push_callers s _ _) t'
  | refused | closeBegin | closeLocked | closeStored | closeUnlocked =>
      refine goesOn_update ?_ t'
      exact nofun
  | closeNotified =>
      simp only [setCaller, notify_callers]
      refine goesOn_update ?_ t'
      exact nofun
  | wake =>
      rw [notify_callers]
      exact goesOn_refl _
  | @notified who =>
      cases who with
      | none =>
          simp only [setDone, setRun, notify_callers]
          exact goesOn_refl _
      | some t =>
          simp only [setDone, setCaller, notify_callers]
          refine goesOn_update ?_ t'
          exact nofun
  | _ => exact goesOn_refl _

end DBThread

/-! ## All of them -/

structure DBThreadManager where
  loginThread : DBThread := {}
  gameThreads : Fin gameThreadCount → DBThread := fun _ => {}
  nextGameThread : Nat := 0
  history : List DBTask := []

namespace DBThreadManager

/-- `static_cast<std::size_t>(n) % game_threads_.size()`, which is also right for a negative
number: two divides 2^64. -/
def gameThreadOf (n : Int) : Fin gameThreadCount :=
  ⟨(n % gameThreadCount).toNat, by simp only [gameThreadCount]; omega⟩

def thread (m : DBThreadManager) : DBThreadId → DBThread
  | .login => m.loginThread
  | .game i => m.gameThreads i

def setThread (m : DBThreadManager) (s : DBThread) : DBThreadId → DBThreadManager
  | .login => { m with loginThread := s }
  | .game i => { m with gameThreads := Function.update m.gameThreads i s }

/-- The three `Enqueue` functions, up to the call of the thread's own. -/
def route (m : DBThreadManager) (task : DBTask) : DBThreadId × DBThreadManager :=
  if task.IsLogin then (.login, m)
  else
    match task.routingPlayer with
    | some playerId => (.game (gameThreadOf playerId), m)
    | none =>
        (.game (gameThreadOf m.nextGameThread), { m with nextGameThread := m.nextGameThread + 1 })

/-- The thread's own `Enqueue` is entered. -/
def enter (m : DBThreadManager) (t : Nat) (task : DBTask) (id : DBThreadId) : DBThreadManager :=
  m.setThread ((m.thread id).setCaller t (.enqueue task .whileRunning)) id

/-- `begin` is a step of the manager, and none of the threads' own. -/
def Begins (s s' : DBThread) : Prop :=
  ∃ t task, s.callers t = .idle ∧ s'.callers t = .enqueue task .whileRunning

inductive Next : DBThreadManager → DBThreadManager → Prop
  | enqueue (m : DBThreadManager) {t : Nat} (task : DBTask)
      (h : (m.thread (m.route task).1).callers t = .idle) :
      Next m ((m.route task).2.enter t task (m.route task).1)
  | thread (m : DBThreadManager) (id : DBThreadId) {s' : DBThread}
      (hnext : DBThread.Next (m.thread id) s')
      (hbegins : ¬ Begins (m.thread id) s') :
      Next m
      ({ m with history := m.history ++ s'.accepted.drop (m.thread id).accepted.length }.setThread
        s' id)

def system : System DBThreadManager := ⟨fun m => m = {}, Next⟩

variable {m m' : DBThreadManager} {id id' : DBThreadId} {task : DBTask} {playerId : Int}

theorem thread_setThread_self (s : DBThread) : (m.setThread s id).thread id = s := by
  cases id with
  | login => rfl
  | game i => exact Function.update_self ..

theorem thread_setThread_of_ne (s : DBThread) (hne : id' ≠ id) :
    (m.setThread s id).thread id' = m.thread id' := by
  cases id with
  | login =>
      cases id' with
      | login => exact absurd rfl hne
      | game j => rfl
  | game i =>
      cases id' with
      | login => rfl
      | game j => exact Function.update_of_ne (fun heq => hne (by rw [heq])) ..

@[simp] theorem setThread_history (s : DBThread) : (m.setThread s id).history = m.history := by
  cases id <;> rfl

@[simp] theorem route_thread : (m.route task).2.thread id = m.thread id := by
  unfold route
  split
  · rfl
  · split
    · rfl
    · cases id <;> rfl

@[simp] theorem route_history : (m.route task).2.history = m.history := by
  unfold route
  split
  · rfl
  · split <;> rfl

/-- The tasks routed by one number have one thread. -/
theorem route_ofPlayer (h : task.OfPlayer playerId) :
    (m.route task).1 = .game (gameThreadOf playerId) := by
  unfold route
  rw [if_neg h.1, h.2]

/-- Only its own tasks come to a thread, and only they are in the history of a player. -/
structure Routed (m : DBThreadManager) : Prop where
  threads : ∀ id, DBThread.system.Reachable (m.thread id)
  brought : ∀ id t task step playerId, (m.thread id).callers t = .enqueue task step →
    task.OfPlayer playerId →
    id = .game (gameThreadOf playerId)
  history : ∀ playerId, m.history.filter (·.OfPlayer playerId) =
    (m.thread (.game (gameThreadOf playerId))).accepted.filter (·.OfPlayer playerId)

theorem routed_start : Routed {} where
  threads := by
    rintro (_ | _) <;> exact .start rfl
  brought := by
    rintro (_ | _) t task step playerId hcaller <;> cases hcaller
  history := fun _ => rfl

theorem Routed.setThread (h : Routed m) {s' : DBThread} {new : List DBTask}
    (hreachable : DBThread.system.Reachable s')
    (hbrought : ∀ t task step playerId, s'.callers t = .enqueue task step →
      task.OfPlayer playerId →
      id = .game (gameThreadOf playerId))
    (haccepted : s'.accepted = (m.thread id).accepted ++ new)
    (hnew : ∀ task ∈ new, ∀ playerId, task.OfPlayer playerId →
      id = .game (gameThreadOf playerId)) :
    Routed ({ m with history := m.history ++ new }.setThread s' id) where
  threads := by
    intro id'
    by_cases hid : id' = id
    · rw [hid, thread_setThread_self]
      exact hreachable
    · rw [thread_setThread_of_ne s' hid]
      exact h.threads id'
  brought := by
    intro id' t task step playerId hcaller hplayer
    by_cases hid : id' = id
    · rw [hid, thread_setThread_self] at hcaller
      exact hid ▸ hbrought t task step playerId hcaller hplayer
    · rw [thread_setThread_of_ne s' hid] at hcaller
      exact h.brought id' t task step playerId hcaller hplayer
  history := by
    intro playerId
    rw [setThread_history, List.filter_append, h.history playerId]
    by_cases hid : .game (gameThreadOf playerId) = id
    · rw [hid, thread_setThread_self, haccepted, List.filter_append]
    · rw [thread_setThread_of_ne s' hid]
      have hnone : new.filter (·.OfPlayer playerId) = [] := by
        refine List.filter_eq_nil_iff.mpr ?_
        intro task hmem hplayer
        exact hid (hnew task hmem playerId (of_decide_eq_true hplayer)).symm
      rw [hnone, List.append_nil]
      rfl

theorem Routed.route (h : Routed m) : Routed (m.route task).2 where
  threads := fun id => by
    rw [route_thread]
    exact h.threads id
  brought := fun id => by
    rw [route_thread]
    exact h.brought id
  history := fun playerId => by
    rw [route_thread, route_history]
    exact h.history playerId

theorem routed_next (h : Routed m) (hnext : Next m m') : Routed m' := by
  cases hnext with
  | @enqueue t task hidle =>
      have hroute : Routed (m.route task).2 := h.route
      have hreachable := (h.threads _).next (DBThread.Next.begin _ task hidle)
      have hthread : (m.route task).2.thread (m.route task).1 = m.thread (m.route task).1 :=
        route_thread
      rw [← hthread] at hreachable
      have hentered := hroute.setThread hreachable ?_ (List.append_nil _).symm nofun
      · rw [List.append_nil] at hentered
        exact hentered
      · intro t' task' step playerId hcaller hplayer
        rw [route_thread] at hcaller
        by_cases ht : t' = t
        · simp only [DBThread.setCaller, ht, Function.update_self] at hcaller
          cases hcaller
          exact route_ofPlayer hplayer
        · simp only [DBThread.setCaller, Function.update_of_ne ht] at hcaller
          exact h.brought _ t' task' step playerId hcaller hplayer
  | thread id hnext hbegins =>
      refine h.setThread ((h.threads id).next hnext) ?_ (DBThread.accepted_eq_append hnext) ?_
      · intro t task step playerId hcaller hplayer
        obtain ⟨step', hbefore⟩ | ⟨hidle, rfl⟩ := DBThread.goesOn_next hnext t task step hcaller
        · exact h.brought id t task step' playerId hbefore hplayer
        · exact absurd ⟨t, task, hidle, hcaller⟩ hbegins
      · intro task hmem playerId hplayer
        obtain ⟨t, hcaller⟩ := DBThread.brought_of_accepted hnext hmem
        exact h.brought id t task _ playerId hcaller hplayer

theorem routed_reachable (h : system.Reachable m) : Routed m := by
  refine invariant ?_ (fun _ _ => routed_next) h
  rintro m rfl
  exact routed_start

/-- **The tasks routed by a player's number end in the order in which they were taken**, unless
their thread has put one back. -/
theorem player_tasks_ordered (h : system.Reachable m) (playerId : Int) :
    let s := m.thread (.game (gameThreadOf playerId))
    (s.workQueue.tasks.filter (·.OfPlayer playerId)).Perm
      (m.history.filter (·.OfPlayer playerId)) ∧
    (s.retried = false →
      s.workQueue.tasks.filter (·.OfPlayer playerId) =
        m.history.filter (·.OfPlayer playerId)) := by
  have hrouted := routed_reachable h
  have hthread := hrouted.threads (.game (gameThreadOf playerId))
  obtain ⟨hperm, horder, -⟩ := DBThread.tasks_answered_once hthread
  intro s
  rw [hrouted.history playerId]
  refine ⟨hperm.filter _, ?_⟩
  intro hkept
  rw [horder hkept]

/-- A caller who goes on has not begun just now. -/
theorem not_begins {s s₁ : DBThread} {t : Nat} (task : DBTask) (step : EnqueueStep)
    (hcallers : s₁.callers = s.callers) (hstep : step ≠ .whileRunning) :
    ¬ Begins s (s₁.setEnqueue task step (some t)) := by
  rintro ⟨t', task', hidle, hbegun⟩
  simp only [DBThread.setEnqueue, DBThread.setCaller, hcallers] at hbegun
  by_cases ht : t' = t
  · rw [ht, Function.update_self] at hbegun
    exact hstep (DBCallStep.enqueue.inj hbegun).2
  · rw [Function.update_of_ne ht, hidle] at hbegun
    cases hbegun

/-- The score of player 3, taken by the second of the two threads. -/
theorem player_tasks_ordered_score :
    ∃ m, system.Reachable m ∧ m.history = [⟨.updateScore, .session ⟨0, 3, 1⟩⟩] ∧
    (m.gameThreads 1).workQueue.tasks.filter (·.OfPlayer 3) = m.history.filter (·.OfPlayer 3) := by
  let task : DBTask := ⟨.updateScore, .session ⟨0, 3, 1⟩⟩
  have h : system.Reachable {} := .start rfl
  have h := h.next (Next.enqueue _ (t := 0) task rfl)
  have h := h.next (Next.thread _ (.game 1)
    (.running _ (show DBThread.Enqueuing _ task .whileRunning (some 0) from rfl)
    rfl) (not_begins task .lock rfl (by decide)))
  have h := h.next
    (Next.thread _ (.game 1) (.locked _ (show DBThread.Enqueuing _ task .lock (some 0) from rfl)
    rfl) (not_begins task .checkRunning rfl (by decide)))
  have h := h.next (Next.thread _ (.game 1)
    (.checked _ (show DBThread.Enqueuing _ task .checkRunning (some 0) from rfl)
    rfl) (not_begins task .push rfl (by decide)))
  have h := h.next
    (Next.thread _ (.game 1) (.pushed _ (show DBThread.Enqueuing _ task .push (some 0) from rfl))
    (not_begins task .unlockPushed rfl (by decide)))
  exact ⟨_, h, rfl, (player_tasks_ordered h 3).2 rfl⟩

end DBThreadManager

end ProjectTetris

import ProjectTetris.Lib.Guard
import ProjectTetris.Threads.SessionTasks

/-!
# Every task once, and in order

One thread at most is inside the section, so its outstanding claim and the task in its
hand are all there are. With them the counter is balanced and no accepted task is missing,
whatever step the thread is at: what `Restore` gives back is at the front of the queue.
-/

namespace ProjectTetris

open Transition Guard ConcurrentTaskQueue

namespace ConsumerStep

/-- Between `TryStartTaskProcessing` and `CompleteTaskProcessing`. -/
def Owns : ConsumerStep → Prop
  | .idle | .look .. | .finalizeStart | .finalize => False
  | _ => True

/-- The claimed tasks the thread has not dequeued. -/
def claims : ConsumerStep → Nat
  | .dequeue _ n | .process _ _ n | .afterTask _ n _ | .restore n | .drop n | .discard _ n => n
  | _ => 0

/-- The task that is dequeued and not dealt with. -/
def hand : ConsumerStep → List QueuedTask
  | .process _ task _ => [task]
  | _ => []

/-- In a loop that has seen the session active since it has the flag. -/
def Working : ConsumerStep → Prop
  | .recheck _ checks => .life ∉ checks
  | .claim _ | .dequeue .. | .process .. | .afterTask .. => True
  | _ => False

/-- The thread is in `Dequeue`. -/
def Dequeues : ConsumerStep → Prop
  | .dequeue _ n | .drop n | .discard _ n => 0 < n
  | _ => False

theorem owns_of_working {step : ConsumerStep} (h : step.Working) : step.Owns := by
  cases step <;> trivial

theorem claims_of_not_owns {step : ConsumerStep} (h : ¬ step.Owns) : step.claims = 0 := by
  cases step <;> first | rfl | exact absurd trivial h

theorem hand_of_not_owns {step : ConsumerStep} (h : ¬ step.Owns) : step.hand = [] := by
  cases step <;> first | rfl | exact absurd trivial h

end ConsumerStep

/-- The life is past the last operation on the socket. -/
def LifeState.Gone (lifeState : LifeState) : Prop := lifeState = .disconnecting ∨ lifeState = .none

theorem LifeState.Gone.not_active {lifeState : LifeState} (h : lifeState.Gone) :
    lifeState ≠ .active := by
  rintro rfl
  rcases h with h | h <;> cases h

/-- What a thread relies on: tasks are discarded of a session that has begun to disconnect, and
once `FinalizeDisconnect` has done so there are none. -/
def ConsumerStep.Ok (life : LifeState) (q : ConcurrentTaskQueue QueuedTask) : ConsumerStep → Prop
  | .drop _ | .discardClaim .loop | .discard .loop _ => life ≠ .active
  | .discardClaim .finalizeDisconnect => life.Gone
  | .discard .finalizeDisconnect _ => life.Gone ∧ q.taskCount = 0
  | .complete .finalizeDisconnect | .finalize => life.Gone ∧ q.taskQueue = []
  | _ => True

theorem ConsumerStep.Ok.keep {life life' : LifeState} {q q' : ConcurrentTaskQueue QueuedTask}
    {step : ConsumerStep} (h : step.Ok life q) (hactive : life ≠ .active → life' ≠ .active)
    (hgone : life.Gone → life'.Gone) (hq : life.Gone → q' = q) : step.Ok life' q' := by
  cases step with
  | drop => exact hactive h
  | discardClaim caller =>
      cases caller with
      | loop => exact hactive h
      | finalizeDisconnect => exact hgone h
  | discard caller n =>
      cases caller with
      | loop => exact hactive h
      | finalizeDisconnect => exact ⟨hgone h.1, hq h.1 ▸ h.2⟩
  | complete caller =>
      cases caller with
      | loop => trivial
      | finalizeDisconnect => exact ⟨hgone h.1, hq h.1 ▸ h.2⟩
  | finalize => exact ⟨hgone h.1, hq h.1 ▸ h.2⟩
  | _ => trivial

/-- A thread outside the section relies on the queue's being empty only. -/
theorem ConsumerStep.Ok.outside {life life' : LifeState} {q q' : ConcurrentTaskQueue QueuedTask}
    {step : ConsumerStep} (h : step.Ok life q) (hout : ¬ step.Owns)
    (hgone : life.Gone → life'.Gone) (hq : q.taskQueue = [] → q'.taskQueue = []) :
    step.Ok life' q' := by
  cases step with
  | finalize => exact ⟨hgone h.1, hq h.2⟩
  | idle | look | finalizeStart => trivial
  | _ => exact absurd trivial hout

namespace SessionQueue

/-- Whatever happens in the section happens in this thread. -/
structure Section (s : SessionQueue) (t : Nat) : Prop where
  others : ∀ t' ≠ t, ¬ (s.threads t').Owns
  balanced : s.sessionTasks.Accounted (s.threads t).claims s.enqueuing.toList.length
  order : s.accepted = s.done.map Prod.fst ++ (s.threads t).hand ++ s.sessionTasks.taskQueue ++
    s.enqueuing.toList

structure TasksOk (s : SessionQueue) : Prop where
  guarded : Guarded ConsumerStep.Owns s.isProcessingTasks s.threads
  tasks : ∃ t, s.Section t
  ok : ∀ t, (s.threads t).Ok s.lifeState s.sessionTasks
  working : ∀ t, (s.threads t).Working → s.lifeState ≠ .none ∧ ∀ t', s.threads t' ≠ .finalize
  enqueuing : s.lifeState ≠ .active → s.enqueuing = none
  fates : ∀ e ∈ s.done, e.2 = .processed ∨ (e.2 = .discarded ∧ s.lifeState ≠ .active)
  emptied : s.lifeState = .none → s.sessionTasks.taskQueue = []

variable {s : SessionQueue} {t : Nat} {step : ConsumerStep}

theorem TasksOk.tasks_of_owns (hs : TasksOk s) (howns : (s.threads t).Owns) : s.Section t := by
  obtain ⟨t', h⟩ := hs.tasks
  by_cases ht : t = t'
  · exact ht ▸ h
  · exact absurd howns (h.others t ht)

/-- While the flag is clear it can be any thread. -/
theorem TasksOk.tasks_of_clear (hs : TasksOk s) (hfree : s.isProcessingTasks = false) :
    s.Section t := by
  have hnone := fun t => (hfree ▸ hs.guarded).none_of_clear t
  obtain ⟨t', h⟩ := hs.tasks
  refine ⟨fun t'' _ => hnone t'', ?_, ?_⟩
  · rw [ConsumerStep.claims_of_not_owns (hnone t), ← ConsumerStep.claims_of_not_owns (hnone t')]
    exact h.balanced
  · rw [ConsumerStep.hand_of_not_owns (hnone t), ← ConsumerStep.hand_of_not_owns (hnone t')]
    exact h.order

/-- A step of one thread that changes nothing else, and leaves it with the same claim. -/
theorem TasksOk.goOn (hs : TasksOk s) (howns : step.Owns → (s.threads t).Owns)
    (hclaims : step.claims = (s.threads t).claims) (hhand : step.hand = (s.threads t).hand)
    (hok : step.Ok s.lifeState s.sessionTasks)
    (hworking : step.Working → (s.threads t).Working ∨ s.lifeState = .active)
    (hnot : step ≠ .finalize) :
    TasksOk (s.setThread t step) := by
  have hsame : ∀ t', t' ≠ t → (s.setThread t step).threads t' = s.threads t' :=
    fun t' ht => Function.update_of_ne ht ..
  have hself : (s.setThread t step).threads t = step := Function.update_self ..
  refine ⟨hs.guarded.goOn howns, ?_, ?_, ?_, hs.enqueuing, hs.fates, hs.emptied⟩
  · obtain ⟨t₀, h⟩ := hs.tasks
    refine ⟨t₀, ?_, ?_, ?_⟩
    · intro t' ht' howns'
      by_cases ht : t' = t
      · subst ht
        rw [hself] at howns'
        exact h.others t' ht' (howns howns')
      · rw [hsame t' ht] at howns'
        exact h.others t' ht' howns'
    · by_cases ht : t₀ = t
      · subst ht
        rw [hself, hclaims]
        exact h.balanced
      · rw [hsame t₀ ht]
        exact h.balanced
    · by_cases ht : t₀ = t
      · subst ht
        rw [hself, hhand]
        exact h.order
      · rw [hsame t₀ ht]
        exact h.order
  · intro t'
    by_cases ht : t' = t
    · subst ht
      rw [hself]
      exact hok
    · rw [hsame t' ht]
      exact hs.ok t'
  · intro t' hw
    have hbefore : s.lifeState ≠ .none ∧ ∀ t'', s.threads t'' ≠ .finalize := by
      by_cases ht : t' = t
      · subst ht
        rw [hself] at hw
        rcases hworking hw with hw' | hactive
        · exact hs.working t' hw'
        · -- whoever is about to empty the slot has seen it gone
          refine ⟨fun h => (by rw [hactive] at h; cases h), fun t'' h => ?_⟩
          have hgone := hs.ok t''
          rw [h] at hgone
          exact hgone.1.not_active hactive
      · rw [hsame t' ht] at hw
        exact hs.working t' hw
    refine ⟨hbefore.1, fun t'' => ?_⟩
    by_cases ht : t'' = t
    · subst ht
      rw [hself]
      exact hnot
    · rw [hsame t'' ht]
      exact hbefore.2 t''

/-- A step of a thread that is outside the section and stays there. -/
theorem TasksOk.outside (hs : TasksOk s) (step : ConsumerStep) (hbefore : ¬ (s.threads t).Owns)
    (hout : ¬ step.Owns) (hok : step.Ok s.lifeState s.sessionTasks) (hnot : step ≠ .finalize) :
    TasksOk (s.setThread t step) := by
  refine hs.goOn (fun h => absurd h hout) ?_ ?_ hok
    (fun h => absurd (ConsumerStep.owns_of_working h) hout) hnot
  · rw [ConsumerStep.claims_of_not_owns hout, ConsumerStep.claims_of_not_owns hbefore]
  · rw [ConsumerStep.hand_of_not_owns hout, ConsumerStep.hand_of_not_owns hbefore]

/-- A step of the thread that is inside. -/
theorem TasksOk.inSection (hs : TasksOk s) (howns : (s.threads t).Owns) {u : SessionQueue}
    (hthreads : u.threads = s.threads)
    (hguarded : Guarded ConsumerStep.Owns u.isProcessingTasks (Function.update u.threads t step))
    (hlife : u.lifeState = s.lifeState ∨ s.lifeState = .active ∧ u.lifeState = .disconnectPending)
    (hqueue : s.sessionTasks.taskQueue = [] → u.sessionTasks.taskQueue = [])
    (hbalanced : u.sessionTasks.Accounted step.claims u.enqueuing.toList.length)
    (horder : u.accepted = u.done.map Prod.fst ++ step.hand ++ u.sessionTasks.taskQueue ++
      u.enqueuing.toList)
    (hok : step.Ok u.lifeState u.sessionTasks) (hworking : step.Working → (s.threads t).Working)
    (henqueuing : u.lifeState ≠ .active → u.enqueuing = none)
    (hfates : ∀ e ∈ u.done, e.2 = .processed ∨ (e.2 = .discarded ∧ u.lifeState ≠ .active)) :
    TasksOk (u.setThread t step) := by
  have hout : ∀ t', t' ≠ t → ¬ (s.threads t').Owns := fun t' ht => hs.guarded.others howns ht
  have hsame : ∀ t', t' ≠ t → (u.setThread t step).threads t' = s.threads t' :=
    fun t' ht => (Function.update_of_ne ht ..).trans (congrFun hthreads t')
  have hself : (u.setThread t step).threads t = step := Function.update_self ..
  have hgone : s.lifeState.Gone → u.lifeState.Gone := by
    intro h
    rcases hlife with heq | ⟨hactive, _⟩
    · rwa [heq]
    · exact absurd hactive h.not_active
  have hnone : u.lifeState = .none → s.lifeState = .none := by
    intro h
    rcases hlife with heq | ⟨_, hpending⟩
    · rwa [← heq]
    · rw [hpending] at h
      cases h
  refine ⟨hguarded, ⟨t, ?_, ?_, ?_⟩, ?_, ?_, henqueuing, hfates, ?_⟩
  · intro t' ht
    rw [hsame t' ht]
    exact hout t' ht
  · rw [hself]
    exact hbalanced
  · rw [hself]
    exact horder
  · intro t'
    by_cases ht : t' = t
    · subst ht
      rw [hself]
      exact hok
    · rw [hsame t' ht]
      exact (hs.ok t').outside (hout t' ht) hgone hqueue
  · intro t' hw
    by_cases ht : t' = t
    · subst ht
      rw [hself] at hw
      have hbefore := hs.working t' (hworking hw)
      refine ⟨fun h => hbefore.1 (hnone h), fun t'' => ?_⟩
      by_cases ht' : t'' = t'
      · subst ht'
        rw [hself]
        rintro rfl
        exact hw
      · rw [hsame t'' ht']
        exact hbefore.2 t''
    · rw [hsame t' ht] at hw
      exact absurd (ConsumerStep.owns_of_working hw) (hout t' ht)
  · intro h
    exact hqueue (hs.emptied (hnone h))

/-- A thread takes the flag. -/
theorem TasksOk.enter (hs : TasksOk s) (hfree : s.isProcessingTasks = false)
    (hclaims : step.claims = 0) (hhand : step.hand = []) (hok : step.Ok s.lifeState s.sessionTasks)
    (hworking : ¬ step.Working) :
    TasksOk ((s.setFlag true).setThread t step) := by
  have hclear : Guarded ConsumerStep.Owns false s.threads := hfree ▸ hs.guarded
  have hsame : ∀ t', t' ≠ t → ((s.setFlag true).setThread t step).threads t' = s.threads t' :=
    fun t' ht => Function.update_of_ne ht ..
  have hself : ((s.setFlag true).setThread t step).threads t = step := Function.update_self ..
  have htasks := hs.tasks_of_clear (t := t) hfree
  have hout := hclear.none_of_clear t
  refine ⟨hclear.enter, ⟨t, ?_, ?_, ?_⟩, ?_, ?_, hs.enqueuing, hs.fates, hs.emptied⟩
  · intro t' ht
    rw [hsame t' ht]
    exact htasks.others t' ht
  · rw [hself, hclaims, ← ConsumerStep.claims_of_not_owns hout]
    exact htasks.balanced
  · rw [hself, hhand, ← ConsumerStep.hand_of_not_owns hout]
    exact htasks.order
  · intro t'
    by_cases ht : t' = t
    · subst ht
      rw [hself]
      exact hok
    · rw [hsame t' ht]
      exact hs.ok t'
  · intro t' hw
    by_cases ht : t' = t
    · subst ht
      rw [hself] at hw
      exact absurd hw hworking
    · rw [hsame t' ht] at hw
      exact absurd (ConsumerStep.owns_of_working hw) (hclear.none_of_clear t')

/-- A thread that has nothing claimed gives the flag back. -/
theorem TasksOk.leave (hs : TasksOk s) (howns : (s.threads t).Owns)
    (hclaims : (s.threads t).claims = 0) (hhand : (s.threads t).hand = []) (hout : ¬ step.Owns)
    (hok : step.Ok s.lifeState s.sessionTasks) :
    TasksOk ((s.setFlag false).setThread t step) := by
  have htasks := hs.tasks_of_owns howns
  refine hs.inSection howns rfl (hs.guarded.leave howns hout) (.inl rfl) id ?_ ?_ hok ?_
    hs.enqueuing hs.fates
  · rw [ConsumerStep.claims_of_not_owns hout, ← hclaims]
    exact htasks.balanced
  · rw [ConsumerStep.hand_of_not_owns hout, ← hhand]
    exact htasks.order
  · exact fun hw => absurd (ConsumerStep.owns_of_working hw) hout

/-- A thread inside takes the next task from the queue. -/
theorem TasksOk.pop (hs : TasksOk s) (howns : (s.threads t).Owns) {n : Nat}
    (hclaims : (s.threads t).claims = n + 1) (hhand : (s.threads t).hand = []) {task : QueuedTask}
    {q : ConcurrentTaskQueue QueuedTask} (hpop : s.sessionTasks.tryPop = some (task, q)) :
    q.Accounted n s.enqueuing.toList.length ∧
      s.accepted = s.done.map Prod.fst ++ [task] ++ q.taskQueue ++ s.enqueuing.toList ∧
      s.sessionTasks.taskQueue ≠ [] ∧ q.taskCount = s.sessionTasks.taskCount := by
  have htasks := hs.tasks_of_owns howns
  have hbalanced := htasks.balanced
  have horder := htasks.order
  obtain ⟨hqueue, hcount⟩ := tryPop_eq_some.1 hpop
  rw [hclaims] at hbalanced
  refine ⟨balanced_pop hbalanced hpop, ?_, by simp [hqueue], hcount⟩
  rw [horder, hhand, hqueue]
  simp

/-! ## Every step -/

theorem TasksOk.accepted (hs : TasksOk s) (task : QueuedTask) (hfree : s.enqueuing = none)
    (hlife : s.lifeState = .active) :
    TasksOk { s with
      sessionTasks := s.sessionTasks.countTask, enqueuing := some task,
        accepted := s.accepted ++ [task] } := by
  obtain ⟨t, htasks⟩ := hs.tasks
  have hbalanced := htasks.balanced
  have horder := htasks.order
  rw [hfree] at hbalanced horder
  refine ⟨hs.guarded, ⟨t, htasks.others, balanced_count hbalanced, ?_⟩, ?_, hs.working, ?_,
    hs.fates, hs.emptied⟩
  · simp only [Option.toList_none, List.append_nil] at horder
    simp [horder, countTask]
  · intro t'
    exact (hs.ok t').keep id id (fun h => absurd hlife h.not_active)
  · exact fun h => absurd hlife h

theorem TasksOk.pushed (hs : TasksOk s) {task : QueuedTask} (h : s.enqueuing = some task) :
    TasksOk { s with sessionTasks := s.sessionTasks.push task, enqueuing := none } := by
  obtain ⟨t, htasks⟩ := hs.tasks
  have hbalanced := htasks.balanced
  have horder := htasks.order
  rw [h] at hbalanced horder
  have hlife : s.lifeState = .active := by
    by_contra hne
    have hnone := hs.enqueuing hne
    rw [h] at hnone
    cases hnone
  refine ⟨hs.guarded, ⟨t, htasks.others, balanced_push hbalanced, ?_⟩, ?_, hs.working,
    fun _ => rfl, hs.fates, ?_⟩
  · simp [horder, push]
  · intro t'
    exact (hs.ok t').keep id id (fun h => absurd hlife h.not_active)
  · intro hnone
    rw [hlife] at hnone
    cases hnone

theorem TasksOk.completedIO (hs : TasksOk s) (hlife : s.lifeState = .disconnectPending) :
    TasksOk (s.setLife .disconnecting) := by
  have hactive : s.lifeState ≠ .active := by
    rw [hlife]
    exact nofun
  obtain ⟨t, htasks⟩ := hs.tasks
  refine ⟨hs.guarded, ⟨t, htasks.others, htasks.balanced, htasks.order⟩, ?_, ?_,
    fun _ => hs.enqueuing hactive, ?_, nofun⟩
  · intro t'
    exact (hs.ok t').keep (fun _ => nofun) (fun _ => .inl rfl) (fun _ => rfl)
  · exact fun t' hw => ⟨nofun, (hs.working t' hw).2⟩
  · exact fun e he => (hs.fates e he).imp id (fun h => ⟨h.1, nofun⟩)

/-- The thread inside deals with a task or takes it to deal with, and goes on inside. -/
theorem TasksOk.finished (hs : TasksOk s) {task : QueuedTask} {fate : TaskFate}
    (howns : (s.threads t).Owns) (hclaims : step.claims = (s.threads t).claims)
    (hhand : (s.threads t).hand = [task]) (hempty : step.hand = [])
    (hok : step.Ok s.lifeState s.sessionTasks) (hworking : step.Working → (s.threads t).Working)
    (hfate : fate = .processed) : TasksOk ((s.finish task fate).setThread t step) := by
  have htasks := hs.tasks_of_owns howns
  refine hs.inSection howns rfl (hs.guarded.goOn fun _ => howns) (.inl rfl) id ?_ ?_ hok hworking
    hs.enqueuing ?_
  · rw [hclaims]
    exact htasks.balanced
  · have horder := htasks.order
    rw [hhand] at horder
    simp [finish, horder, hempty]
  · intro e he
    rcases List.mem_append.1 he with he | he
    · exact hs.fates e he
    · rw [List.mem_singleton.1 he]
      exact .inl hfate

/-- The thread inside drops the next task, of a session that has begun to disconnect. -/
theorem TasksOk.dropped (hs : TasksOk s) {n : Nat} (howns : (s.threads t).Owns)
    (hclaims : (s.threads t).claims = n + 1) (hhand : (s.threads t).hand = []) {task : QueuedTask}
    {q : ConcurrentTaskQueue QueuedTask} (hpop : s.sessionTasks.tryPop = some (task, q))
    (hn : step.claims = n) (hempty : step.hand = []) (hok : step.Ok s.lifeState q)
    (hnot : ¬ step.Working) (hlife : s.lifeState ≠ .active) :
    TasksOk (((s.setQueue q).finish task .discarded).setThread t step) := by
  obtain ⟨hbalanced, horder, hne, _⟩ := hs.pop howns hclaims hhand hpop
  refine hs.inSection howns rfl (hs.guarded.goOn fun _ => howns) (.inl rfl)
    (fun h => absurd h hne) ?_ ?_ hok (fun h => absurd h hnot) hs.enqueuing ?_
  · rw [hn]
    exact hbalanced
  · simp [finish, setQueue, horder, hempty]
  · intro e he
    rcases List.mem_append.1 he with he | he
    · exact hs.fates e he
    · rw [List.mem_singleton.1 he]
      exact .inr ⟨rfl, hlife⟩

/-- The thread inside claims what is counted. -/
theorem TasksOk.claimed (hs : TasksOk s) (howns : (s.threads t).Owns)
    (hclaims : (s.threads t).claims = 0) (hhand : (s.threads t).hand = [])
    (hn : step.claims = s.sessionTasks.taskCount) (hempty : step.hand = [])
    (hok : step.Ok s.lifeState s.sessionTasks.claimTaskCount)
    (hworking : step.Working → (s.threads t).Working) :
    TasksOk ((s.setQueue s.sessionTasks.claimTaskCount).setThread t step) := by
  have htasks := hs.tasks_of_owns howns
  have hbalanced := htasks.balanced
  have horder := htasks.order
  rw [hclaims] at hbalanced
  rw [hhand] at horder
  refine hs.inSection howns rfl (hs.guarded.goOn fun _ => howns) (.inl rfl) id ?_ ?_ hok hworking
    hs.enqueuing hs.fates
  · rw [hn]
    exact balanced_claim hbalanced
  · rw [hempty]
    exact horder

theorem TasksOk.disconnected (hs : TasksOk s) {loop : TaskLoop} {n : Nat} {task : QueuedTask}
    (h : s.threads t = .process loop task n) (hfree : s.enqueuing = none) :
    TasksOk ((s.beginDisconnect.finish task .processed).setThread t (.drop n)) := by
  have howns : (s.threads t).Owns := by
    rw [h]
    trivial
  have htasks := hs.tasks_of_owns howns
  have hbalanced := htasks.balanced
  have horder := htasks.order
  rw [h] at hbalanced horder
  have horder' : s.accepted = (s.done ++ [(task, TaskFate.processed)]).map Prod.fst ++ [] ++
      s.sessionTasks.taskQueue ++
      s.enqueuing.toList := by simpa [ConsumerStep.hand] using horder
  have hfates : ∀ life : LifeState, life ≠ .active → ∀ e ∈ s.done ++ [(task, TaskFate.processed)],
      e.2 = .processed ∨ (e.2 = .discarded ∧ life ≠ .active) := by
    intro life hlife e he
    rcases List.mem_append.1 he with he | he
    · exact (hs.fates e he).imp id (fun h => ⟨h.1, hlife⟩)
    · rw [List.mem_singleton.1 he]
      exact .inl rfl
  by_cases hactive : s.lifeState = .active
  · have hbegin : s.beginDisconnect = s.setLife .disconnectPending := if_pos hactive
    rw [hbegin]
    exact hs.inSection howns rfl (hs.guarded.goOn fun _ => howns) (.inr ⟨hactive, rfl⟩) id
      hbalanced horder' nofun (fun h => by cases h) (fun _ => hfree) (hfates _ nofun)
  · have hbegin : s.beginDisconnect = s := if_neg hactive
    rw [hbegin]
    exact hs.inSection howns rfl (hs.guarded.goOn fun _ => howns) (.inl rfl) id hbalanced
      horder' hactive (fun h => by cases h) hs.enqueuing (hfates _ hactive)

theorem TasksOk.restored (hs : TasksOk s) {n : Nat} (h : s.threads t = .restore n) :
    TasksOk ((s.setQueue (s.sessionTasks.restoreClaimedTaskCount n)).setThread t
      (.complete .loop)) := by
  have howns : (s.threads t).Owns := by
    rw [h]
    trivial
  have htasks := hs.tasks_of_owns howns
  have hbalanced := htasks.balanced
  have horder := htasks.order
  rw [h] at hbalanced horder
  refine hs.inSection howns rfl (hs.guarded.goOn fun _ => howns) (.inl rfl) ?_
    (balanced_restore hbalanced) ?_ trivial (fun h => by cases h) hs.enqueuing hs.fates
  · intro hempty
    simpa [setQueue] using hempty
  · simpa [setQueue, ConsumerStep.hand] using horder

theorem TasksOk.emptiedSlot (hs : TasksOk s) (h : s.threads t = .finalize)
    (hfree : s.enqueuing = none) : TasksOk ((s.setLife .none).setThread t .idle) := by
  have hok := hs.ok t
  rw [h] at hok
  have hidle := hs.outside (t := t) .idle (by rw [h]; exact id) id trivial nofun
  obtain ⟨t₀, htasks⟩ := hidle.tasks
  refine ⟨hidle.guarded, ⟨t₀, htasks.others, htasks.balanced, htasks.order⟩, ?_, ?_,
    fun _ => hfree, ?_, fun _ => hok.2⟩
  · intro t'
    exact (hidle.ok t').keep (fun _ => nofun) (fun _ => .inr rfl) (fun _ => rfl)
  · -- nobody works while a thread is about to empty the slot
    intro t' hw
    by_cases ht : t' = t
    · subst ht
      simp [setThread, ConsumerStep.Working] at hw
    · simp only [setThread, Function.update_of_ne ht] at hw
      exact absurd h ((hs.working t' hw).2 t)
  · exact fun e he => (hs.fates e he).imp id (fun h => ⟨h.1, nofun⟩)

/-- With nothing counted and nothing claimed there is nothing in the queue. -/
theorem TasksOk.queue_empty (hs : TasksOk s) (h : s.threads t = .discard .finalizeDisconnect 0) :
    s.lifeState.Gone ∧ s.sessionTasks.taskQueue = [] := by
  have hok := hs.ok t
  have hbalanced := (hs.tasks_of_owns (t := t) (by rw [h]; trivial)).balanced
  rw [h] at hok hbalanced
  refine ⟨hok.1, List.eq_nil_of_length_eq_zero ?_⟩
  simp only [Accounted, hok.2, ConsumerStep.claims] at hbalanced
  omega

theorem tasksOk_next {s s' : SessionQueue} (hs : TasksOk s) (h : Next s s') : TasksOk s' := by
  cases h with
  | accept task hfree hlife => exact hs.accepted task hfree hlife
  | push h => exact hs.pushed h
  | move modeState roomIndex lobbyEntry roomPlayer =>
      obtain ⟨t, htasks⟩ := hs.tasks
      exact ⟨hs.guarded, ⟨t, htasks.others, htasks.balanced, htasks.order⟩, hs.ok, hs.working,
        hs.enqueuing, hs.fates, hs.emptied⟩
  | completeIO hlife => exact hs.completedIO hlife
  | otherStart h hfree => exact hs.enter hfree rfl rfl trivial id
  | otherComplete h =>
      exact hs.leave (by rw [h]; trivial) (by rw [h]; rfl) (by rw [h]; rfl) id trivial
  | loopBegin loop h => exact hs.outside _ (by rw [h]; exact id) id trivial nofun
  | looked h => exact hs.outside _ (by rw [h]; exact id) id trivial nofun
  | lookFailed h => exact hs.outside _ (by rw [h]; exact id) id trivial nofun
  | notStarted h => exact hs.outside _ (by rw [h]; exact id) id trivial nofun
  | @started t loop h hfree =>
      -- the life is among the checks
      have hlife : LoopCheck.life ∈ loop.checks := by cases loop <;> simp [TaskLoop.checks]
      exact hs.enter hfree rfl rfl trivial (fun hno => hno hlife)
  | @rechecked t loop check checks h hholds =>
      refine hs.goOn (fun _ => by rw [h]; trivial) (by rw [h]; rfl) (by rw [h]; rfl)
        trivial ?_ nofun
      intro hw
      rw [h]
      cases check with
      | life => exact .inr (by cases loop <;> exact hholds)
      | mode => exact .inl fun hin => hw ((List.mem_cons.1 hin).resolve_left nofun)
      | entry => exact .inl fun hin => hw ((List.mem_cons.1 hin).resolve_left nofun)
  | recheckFailed h =>
      exact hs.goOn (fun _ => by rw [h]; trivial) (by rw [h]; rfl) (by rw [h]; rfl) trivial
        (fun h => by cases h) nofun
  | ready h =>
      exact hs.goOn (fun _ => by rw [h]; trivial) (by rw [h]; rfl) (by rw [h]; rfl) trivial
        (fun _ => .inl (by rw [h]; exact List.not_mem_nil)) nofun
  | claimed h =>
      exact hs.claimed (by rw [h]; trivial) (by rw [h]; rfl) (by rw [h]; rfl) rfl rfl trivial
        (fun _ => by rw [h]; trivial)
  | loopEnd h =>
      exact hs.goOn (fun _ => by rw [h]; trivial) (by rw [h]; rfl) (by rw [h]; rfl) trivial
        (fun h => by cases h) nofun
  | @dequeued t loop n task q h hpop =>
      have howns : (s.threads t).Owns := by
        rw [h]
        trivial
      obtain ⟨hbalanced, horder, hne, _⟩ := hs.pop howns (by rw [h]; rfl) (by rw [h]; rfl) hpop
      exact hs.inSection howns rfl (hs.guarded.goOn fun _ => howns) (.inl rfl)
        (fun hempty => absurd hempty hne)
        hbalanced horder trivial (fun _ => by rw [h]; trivial) hs.enqueuing hs.fates
  | @ignored t loop n task h hlife =>
      exact absurd hlife (hs.working t (by rw [h]; trivial)).1
  | processed h _ _ =>
      exact hs.finished (by rw [h]; trivial) (by rw [h]; rfl) (by rw [h]; rfl) rfl trivial
        (fun _ => by rw [h]; trivial) rfl
  | processedRestore h _ _ =>
      exact hs.finished (by rw [h]; trivial) (by rw [h]; rfl) (by rw [h]; rfl) rfl trivial
        (fun h => by cases h) rfl
  | processedDisconnect h _ _ hfree => exact hs.disconnected h hfree
  | checked h =>
      exact hs.goOn (fun _ => by rw [h]; trivial) (by rw [h]; rfl) (by rw [h]; rfl) trivial
        (fun _ => .inl (by rw [h]; trivial)) nofun
  | checkFailed h =>
      exact hs.goOn (fun _ => by rw [h]; trivial) (by rw [h]; rfl) (by rw [h]; rfl) trivial
        (fun h => by cases h) nofun
  | again h =>
      exact hs.goOn (fun _ => by rw [h]; trivial) (by rw [h]; rfl) (by rw [h]; rfl) trivial
        (fun _ => .inl (by rw [h]; trivial)) nofun
  | restored h => exact hs.restored h
  | @dropped t n task q h hpop =>
      have hok := hs.ok t
      rw [h] at hok
      exact hs.dropped (by rw [h]; trivial) (by rw [h]; rfl) (by rw [h]; rfl) hpop rfl
        rfl hok id hok
  | @allDropped t h =>
      have hok := hs.ok t
      rw [h] at hok
      exact hs.goOn (fun _ => by rw [h]; trivial) (by rw [h]; rfl) (by rw [h]; rfl) hok
        (fun h => by cases h) nofun
  | @discardClaimed t caller h =>
      have hok := hs.ok t
      rw [h] at hok
      refine hs.claimed (by rw [h]; trivial) (by rw [h]; rfl) (by rw [h]; rfl) rfl rfl ?_
        (fun h => by cases h)
      cases caller with
      | loop => exact hok
      | finalizeDisconnect => exact ⟨hok, rfl⟩
  | @discarded t caller n task q h hpop =>
      have hok := hs.ok t
      rw [h] at hok
      have hcount := (tryPop_eq_some.1 hpop).2
      cases caller with
      | loop =>
          exact hs.dropped (by rw [h]; trivial) (by rw [h]; rfl) (by rw [h]; rfl) hpop rfl
            rfl hok id hok
      | finalizeDisconnect =>
          exact hs.dropped (by rw [h]; trivial) (by rw [h]; rfl) (by rw [h]; rfl) hpop rfl rfl
            ⟨hok.1, hcount.trans hok.2⟩ id hok.1.not_active
  | @allDiscarded t caller h =>
      refine hs.goOn (fun _ => by rw [h]; trivial) (by rw [h]; rfl) (by rw [h]; rfl) ?_
        (fun h => by cases h) nofun
      cases caller with
      | loop => trivial
      | finalizeDisconnect => exact hs.queue_empty h
  | completed h => exact hs.leave (by rw [h]; trivial) (by rw [h]; rfl) (by rw [h]; rfl) id trivial
  | @finalizeCompleted t h =>
      have hok := hs.ok t
      rw [h] at hok
      exact hs.leave (by rw [h]; trivial) (by rw [h]; rfl) (by rw [h]; rfl) id hok
  | finalizeBegin h _ => exact hs.outside _ (by rw [h]; exact id) id trivial nofun
  | finalizeNotStarted h _ => exact hs.outside _ (by rw [h]; exact id) id trivial nofun
  | finalizeStarted h hfree => exact hs.enter hfree rfl rfl trivial id
  | finalizeNot h _ =>
      exact hs.goOn (fun _ => by rw [h]; trivial) (by rw [h]; rfl) (by rw [h]; rfl) trivial
        (fun h => by cases h) nofun
  | finalizeChecked h hlife _ =>
      exact hs.goOn (fun _ => by rw [h]; trivial) (by rw [h]; rfl) (by rw [h]; rfl) (.inl hlife)
        (fun h => by cases h) nofun
  | finalized h _ hfree => exact hs.emptiedSlot h hfree
  | finalizedBefore h _ => exact hs.outside _ (by rw [h]; exact id) id trivial nofun

theorem initial_tasksOk {s : SessionQueue} (h : Initial s) : TasksOk s := by
  obtain ⟨hqueue, _, hlife, henqueuing, hthreads, haccepted, hdone⟩ := h
  have hidle : ∀ t, ¬ (s.threads t).Owns := fun t => by rw [hthreads]; exact id
  refine ⟨guarded_initial hidle, ⟨0, fun t _ => hidle t, ?_, ?_⟩, ?_, ?_,
    fun _ => henqueuing, ?_, ?_⟩
  · rw [hqueue, henqueuing, hthreads]
    rfl
  · rw [haccepted, hdone, hqueue, henqueuing, hthreads]
    rfl
  · intro t
    rw [hthreads]
    trivial
  · intro t hw
    exact absurd (ConsumerStep.owns_of_working hw) (hidle t)
  · rw [hdone]
    exact nofun
  · intro _
    rw [hqueue]

theorem reachable_tasksOk {s : SessionQueue} (h : system.Reachable s) : TasksOk s :=
  invariant (fun _ => initial_tasksOk) (fun _ _ => tasksOk_next) h

/-! ## Along a run -/

/-- Tasks are accepted and dealt with at the end of what was accepted and dealt with before. -/
theorem next_extends {s s' : SessionQueue} (h : Next s s') :
    s.accepted <+: s'.accepted ∧ s.done <+: s'.done := by
  have hbegin : s.beginDisconnect.done = s.done ∧ s.beginDisconnect.accepted = s.accepted := by
    unfold beginDisconnect
    split <;> exact ⟨rfl, rfl⟩
  cases h with
  | accept => exact ⟨List.prefix_append _ _, List.prefix_rfl⟩
  | ignored | processed | processedRestore | dropped | discarded =>
      exact ⟨List.prefix_rfl, List.prefix_append _ _⟩
  | processedDisconnect =>
      refine ⟨hbegin.2 ▸ List.prefix_rfl, ?_⟩
      simp only [setThread, finish, hbegin.1]
      exact List.prefix_append _ _
  | _ => exact ⟨List.prefix_rfl, List.prefix_rfl⟩

theorem run_extends {s s' : SessionQueue} (h : system.Run s s') :
    s.accepted <+: s'.accepted ∧ s.done <+: s'.done := by
  induction h with
  | refl => exact ⟨List.prefix_rfl, List.prefix_rfl⟩
  | tail _ hnext ih =>
      have hstep := next_extends hnext
      exact ⟨ih.1.trans hstep.1, ih.2.trans hstep.2⟩

/-- What is in the queue, or being pushed. -/
def pending (s : SessionQueue) : List QueuedTask := s.sessionTasks.taskQueue ++ s.enqueuing.toList

theorem TasksOk.done_extends (hs : TasksOk s) : s.done.map Prod.fst <+: s.accepted := by
  obtain ⟨t, htasks⟩ := hs.tasks
  rw [htasks.order, List.append_assoc, List.append_assoc]
  exact List.prefix_append _ _

/-- Whatever run follows, it deals with what is pending in order, before anything accepted later.
-/
theorem pending_next {s s' : SessionQueue} (h : system.Reachable s)
    (hhand : ∀ t, (s.threads t).hand = []) (hrun : system.Run s s') (n : Nat) :
    ∃ more, s'.done.map Prod.fst = s.done.map Prod.fst ++ more ∧
      (more <+: s.pending.take n ∨ s.pending.take n <+: more) := by
  obtain ⟨haccepted, hdone⟩ := run_extends hrun
  obtain ⟨later, hlater⟩ := haccepted
  obtain ⟨more, hmore⟩ := hdone
  obtain ⟨t, htasks⟩ := (reachable_tasksOk h).tasks
  have horder : s.accepted = s.done.map Prod.fst ++ s.pending := by
    rw [htasks.order, hhand t, List.append_nil, List.append_assoc]
    rfl
  refine ⟨more.map Prod.fst, by rw [← hmore, List.map_append], ?_⟩
  have hprefix : more.map Prod.fst <+: s.pending ++ later := by
    have hall := (reachable_tasksOk (h.run hrun)).done_extends
    rw [← hmore, List.map_append, ← hlater, horder, List.append_assoc] at hall
    exact (List.prefix_append_right_inj _).1 hall
  have htake : s.pending.take n <+: s.pending ++ later :=
    (List.take_prefix _ _).trans (List.prefix_append _ _)
  exact List.prefix_or_prefix_of_prefix hprefix htake

theorem Section.hand (h : s.Section t) {t' : Nat} (ht : t' ≠ t) :
    (s.threads t').claims = 0 ∧ (s.threads t').hand = [] :=
  ⟨ConsumerStep.claims_of_not_owns (h.others t' ht),
    ConsumerStep.hand_of_not_owns (h.others t' ht)⟩

/-- While a thread gives its claim back, no task is in a hand. -/
theorem TasksOk.restoring (hs : TasksOk s) {n : Nat} (h : s.threads t = .restore n) :
    n ≤ s.pending.length ∧ ∀ t', (s.threads t').hand = [] := by
  have htasks := hs.tasks_of_owns (t := t) (by rw [h]; trivial)
  refine ⟨?_, fun t' => ?_⟩
  · have hbalanced := htasks.balanced
    rw [h] at hbalanced
    simp only [Accounted, ConsumerStep.claims] at hbalanced
    simp only [pending, List.length_append]
    omega
  · by_cases ht : t' = t
    · rw [ht, h]
      rfl
    · exact (htasks.hand ht).2

/-- A thread that waits in `Dequeue` waits for a push. -/
theorem TasksOk.waiting (hs : TasksOk s) (h : (s.threads t).Dequeues)
    (hempty : s.sessionTasks.taskQueue = []) :
    s.enqueuing.isSome := by
  have howns : (s.threads t).Owns ∧ 0 < (s.threads t).claims := by
    cases hstep : s.threads t <;> rw [hstep] at h <;> first | exact ⟨trivial, h⟩ | cases h
  have hbalanced := (hs.tasks_of_owns howns.1).balanced
  simp only [Accounted, hempty, List.length_nil] at hbalanced
  cases henqueuing : s.enqueuing with
  | some task => rfl
  | none =>
      rw [henqueuing] at hbalanced
      simp only [Option.toList_none, List.length_nil] at hbalanced
      omega

/-- When the slot is empty every task has been dealt with. -/
theorem TasksOk.all_done (hs : TasksOk s) (hlife : s.lifeState = .none) :
    s.done.map Prod.fst = s.accepted := by
  obtain ⟨t, htasks⟩ := hs.tasks
  have henqueuing := hs.enqueuing (by rw [hlife]; exact nofun)
  have hhand : (s.threads t).hand = [] := by
    cases hstep : s.threads t with
    | process loop task n => exact absurd hlife (hs.working t (by rw [hstep]; trivial)).1
    | _ => rfl
  rw [htasks.order, hhand, hs.emptied hlife, henqueuing]
  simp

/--
**Session tasks are consumed once and in order**, in every interleaving. One thread at
most is inside the section. Of the accepted tasks those that were dealt with come first,
then the one in the hand of that thread, then the queue, then the push in progress; and
what is counted or claimed is in the queue or being pushed. Each was processed, or
discarded because the session had begun to disconnect. A thread in `Dequeue` that finds
nothing waits for a push in progress. What is given back is dealt with next, whatever
follows. And nothing is left when the slot is emptied.
-/
theorem sessionTasks_once {s : SessionQueue} (h : system.Reachable s) :
    (∀ t t', (s.threads t).Owns → (s.threads t').Owns → t = t') ∧
    (∃ t, (∀ t' ≠ t, (s.threads t').claims = 0 ∧ (s.threads t').hand = []) ∧
      s.accepted = s.done.map Prod.fst ++ (s.threads t).hand ++ s.sessionTasks.taskQueue ++
        s.enqueuing.toList ∧
      s.sessionTasks.taskCount + (s.threads t).claims =
        s.sessionTasks.taskQueue.length + s.enqueuing.toList.length) ∧
    (∀ e ∈ s.done, e.2 = .processed ∨ (e.2 = .discarded ∧ s.lifeState ≠ .active)) ∧
    (∀ t, (s.threads t).Dequeues → s.sessionTasks.taskQueue = [] → s.enqueuing.isSome) ∧
    (∀ t n, s.threads t = .restore n → n ≤ s.pending.length ∧ ∀ s', system.Run s s' →
      ∃ more, s'.done.map Prod.fst = s.done.map Prod.fst ++ more ∧
        (more <+: s.pending.take n ∨ s.pending.take n <+: more)) ∧
    (s.lifeState = .none → s.done.map Prod.fst = s.accepted) := by
  have hs := reachable_tasksOk h
  refine ⟨hs.guarded.alone, ?_, hs.fates, fun t => hs.waiting, ?_, hs.all_done⟩
  · obtain ⟨t, htasks⟩ := hs.tasks
    exact ⟨t, fun t' ht => htasks.hand ht, htasks.order, htasks.balanced⟩
  · intro t n hstep
    obtain ⟨hle, hhand⟩ := hs.restoring hstep
    exact ⟨hle, fun s' hrun => pending_next h hhand hrun n⟩

/-- A player who leaves the room with a database result still to come. -/
def leavingQueue : SessionQueue where
  sessionTasks := ⟨[], 0⟩
  isProcessingTasks := false
  lifeState := .active
  modeState := .room
  roomIndex := 0
  lobbyEntry := false
  roomPlayer _ := true
  enqueuing := none
  threads _ := .idle
  accepted := []
  done := []

/-- The room gives the result back, and whoever comes next deals with it first. -/
theorem sessionTasks_once_leaving : ∃ s, system.Reachable s ∧ s.threads 0 = .restore 1 ∧
    ∀ s', system.Run s s' → ∃ more, s'.done.map Prod.fst = .packet 15 :: more ∧
      (more <+: [.dbResult] ∨ [.dbResult] <+: more) := by
  have h₀ : system.Reachable leavingQueue := .start ⟨rfl, rfl, rfl, rfl, fun _ => rfl, rfl, rfl⟩
  have h₁ := (h₀.next (.accept _ (.packet 15) rfl rfl)).next (.push _ rfl)
  have h₂ := (h₁.next (.accept _ .dbResult rfl rfl)).next (.push _ rfl)
  have h₃ := h₂.next (.loopBegin _ (t := 0) (.room 0) rfl)
  have h₄ := ((h₃.next (.looked _ (t := 0) rfl rfl)).next (.looked _ (t := 0) rfl rfl)).next
    (.looked _ (t := 0) rfl ⟨rfl, rfl⟩)
  have h₅ := h₄.next (.started _ (t := 0) rfl rfl)
  have h₆ :=
    ((h₅.next (.rechecked _ (t := 0) rfl ⟨rfl, rfl⟩)).next (.rechecked _ (t := 0) rfl rfl)).next
    (.rechecked _ (t := 0) rfl rfl)
  have h₇ := (h₆.next (.ready _ (t := 0) rfl)).next (.claimed _ (t := 0) rfl)
  have h₈ := h₇.next (.dequeued _ (t := 0) rfl rfl)
  have h₉ := h₈.next (.processedRestore _ (t := 0) rfl nofun (by decide))
  exact ⟨_, h₉, rfl, ((sessionTasks_once h₉).2.2.2.2.1 0 1 rfl).2⟩

end SessionQueue

end ProjectTetris

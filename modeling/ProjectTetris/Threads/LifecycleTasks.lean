import ProjectTetris.Threads.PhaseProtocol

/-!
# The lifecycle tasks of the game phases

A phase's tasks are handed out by an index and taken from the queue that all phases share.
As many are taken in a phase as indices below its task count have been handed out, less
those whose holders have yet to take theirs; when everybody has arrived nobody holds one.
-/

namespace ProjectTetris

open Transition Guard ConcurrentTaskQueue

namespace GamePhases

variable {Task Room : Type} {s : GamePhases Task Room} {t p : Nat}
  {step step' : PhaseStep Task Room} {c : GamePhaseContext}

/-- How many tasks the threads of phase `p` have taken. -/
def dequeuedIn (s : GamePhases Task Room) (p : Nat) : Nat :=
  s.dequeued.countP (fun entry => entry.1 = p)

/-- No thread of the phase is in a lifecycle task, or about to take one. -/
def Idle (s : GamePhases Task Room) (p : Nat) : Prop :=
  ∀ t step, s.threads t = .inPhase p step → ¬ (s.threads t).Busy

/-- A thread in a task has not arrived. -/
theorem before_of_busy (ht : s.threads t = .inPhase p step) (hbusy : (s.threads t).Busy) :
    step.Before := by
  rw [ht] at hbusy
  cases step with
  | dequeue | process => trivial
  | _ => exact absurd hbusy id

/-- Nobody is in a task when all have arrived. -/
theorem PhasesOk.idle_of_arrived (h : PhasesOk s)
    (hall : (s.phases p).arrived = (s.phases p).threads) : s.Idle p := by
  intro t step ht hbusy
  obtain ⟨_, hmem, hbefore, _⟩ := h.thread t p step ht
  have hmissing : t ∉ (s.phases p).arrived := hbefore.mp (before_of_busy ht hbusy)
  exact hmissing (hall ▸ hmem)

/-- The tasks and who has them. -/
structure TasksOk [DecidableEq Task] [DecidableEq Room] (s : GamePhases Task Room) : Prop where
  fifo : s.accepted = s.dequeued.map (fun entry => entry.2.2) ++ s.lifecycleTasks.taskQueue
  accounted : s.lifecycleTasks.Accounted s.claimed s.enqueuing.length
  unclaimed : s.processingPhase = none → s.claimed = 0
  claimed : ∀ p, s.processingPhase = some p →
    s.claimed + s.dequeuedIn p = (s.phases p).lifecycleTaskCount
  later : ∀ p, s.phaseCount ≤ p → (s.phases p).nextLifecycleTaskIndex = 0
  handedOut : ∀ p, s.dequeuedIn p + (s.phases p).holders.card =
    min (s.phases p).nextLifecycleTaskIndex (s.phases p).lifecycleTaskCount
  holder : ∀ t p, t ∈ (s.phases p).holders ↔ s.threads t = .inPhase p .dequeue
  member : ∀ p t task, (p, t, task) ∈ s.dequeued → t ∈ (s.phases p).threads
  underWay : ∀ p t task, s.dequeued.count (p, t, task) =
    s.processed.count (p, t, task) + if s.threads t = .inPhase p (.process task) then 1 else 0

theorem not_busy (ht : s.threads t = .inPhase p step)
    (hidle : ¬ (GameThread.inPhase p step).Busy) :
    ¬ (s.threads t).Busy := by
  rwa [ht]

theorem goTo_threads_iff (s : GamePhases Task Room) {t t' p p' : Nat}
    {step step' : PhaseStep Task Room} :
    (s.goTo t p step).threads t' = .inPhase p' step' ↔
      (t' = t ∧ p' = p ∧ step' = step) ∨ (t' ≠ t ∧ s.threads t' = .inPhase p' step') := by
  by_cases hne : t' = t
  · subst hne
    have hself : (s.goTo t' p step).threads t' = .inPhase p step := setThread_self ..
    rw [hself, GameThread.inPhase.injEq]
    simp [eq_comm]
  · have hother : (s.goTo t p step).threads t' = s.threads t' := setThread_ne s _ hne
    rw [hother]
    simp [hne]

/-- The steps that a thread neither comes from nor goes to are those they were. -/
theorem goTo_threads_of_ne (ht : s.threads t = .inPhase p step) {t' p' : Nat}
    {other : PhaseStep Task Room} (hfrom : other ≠ step) (hto : other ≠ step') :
    (s.goTo t p step').threads t' = .inPhase p' other ↔ s.threads t' = .inPhase p' other := by
  rw [goTo_threads_iff]
  by_cases hne : t' = t
  · subst hne
    rw [ht, GameThread.inPhase.injEq]
    simp [hto, hfrom.symm]
  · simp [hne]

/-- A phase of which something holds, among others of which it held. -/
theorem setPhase_cases {P : GamePhaseContext → Prop} (p' : Nat) (hself : p' = p → P c)
    (hother : p' ≠ p → P (s.phases p')) : P ((s.setPhase p c).phases p') := by
  by_cases hpp : p' = p
  · subst hpp
    rw [setPhase_self]
    exact hself rfl
  · rw [setPhase_ne _ _ hpp]
    exact hother hpp

variable [DecidableEq Task] [DecidableEq Room]

/-- A thread that has nothing to do with the tasks before and after. -/
theorem TasksOk.goOn (h : TasksOk s) (hidle : ¬ (s.threads t).Busy) {thread : GameThread Task Room}
    (hidle' : ¬ thread.Busy) : TasksOk (s.setThread t thread) := by
  have hsame : ∀ t' thread', thread'.Busy →
      ((s.setThread t thread).threads t' = thread' ↔ s.threads t' = thread') := by
    intro t' thread' hbusy
    by_cases hne : t' = t
    · subst hne
      rw [setThread_self]
      refine ⟨?_, ?_⟩
      · rintro rfl
        exact absurd hbusy hidle'
      · rintro rfl
        exact absurd hbusy hidle
    · rw [setThread_ne _ _ hne]
  refine ⟨h.fifo, h.accounted, h.unclaimed, h.claimed, h.later, h.handedOut, ?_, h.member, ?_⟩
  · intro t' p
    rw [hsame t' (.inPhase p .dequeue) trivial]
    exact h.holder t' p
  · intro p t' task
    simp only [hsame t' (.inPhase p (.process task)) trivial]
    exact h.underWay p t' task

/-- A phase that has not changed as to its tasks. -/
theorem TasksOk.setPhase (h : TasksOk s) (hthreads : c.threads = (s.phases p).threads)
    (hnext : c.nextLifecycleTaskIndex = (s.phases p).nextLifecycleTaskIndex)
    (hcount : c.lifecycleTaskCount = (s.phases p).lifecycleTaskCount)
    (hholders : c.holders = (s.phases p).holders) :
    TasksOk (s.setPhase p c) := by
  have hsame : ∀ p', ((s.setPhase p c).phases p').threads = (s.phases p').threads ∧
      ((s.setPhase p c).phases p').nextLifecycleTaskIndex = (s.phases p').nextLifecycleTaskIndex ∧
      ((s.setPhase p c).phases p').lifecycleTaskCount = (s.phases p').lifecycleTaskCount ∧
      ((s.setPhase p c).phases p').holders = (s.phases p').holders := by
    intro p'
    by_cases hpp : p' = p
    · subst hpp
      rw [setPhase_self]
      exact ⟨hthreads, hnext, hcount, hholders⟩
    · rw [setPhase_ne _ _ hpp]
      exact ⟨rfl, rfl, rfl, rfl⟩
  refine ⟨h.fifo, h.accounted, h.unclaimed, ?_, ?_, ?_, ?_, ?_, h.underWay⟩
  · intro p' howns
    rw [(hsame p').2.2.1]
    exact h.claimed p' howns
  · intro p' hp'
    rw [(hsame p').2.1]
    exact h.later p' hp'
  · intro p'
    rw [(hsame p').2.1, (hsame p').2.2.1, (hsame p').2.2.2]
    exact h.handedOut p'
  · intro t' p'
    rw [(hsame p').2.2.2]
    exact h.holder t' p'
  · intro p' t' task hentry
    rw [(hsame p').1]
    exact h.member p' t' task hentry

/-- Nothing has been taken in a phase that has handed nothing out. -/
theorem TasksOk.none_dequeued (h : TasksOk s)
    (hnone : (s.phases p).nextLifecycleTaskIndex = 0 ∨ (s.phases p).lifecycleTaskCount = 0) :
    s.dequeuedIn p = 0 := by
  have hhanded := h.handedOut p
  rcases hnone with hnone | hnone <;> rw [hnone] at hhanded <;> omega

/-! ## The steps that are about the tasks -/

theorem TasksOk.acquire (h : TasksOk s) (hok : PhasesOk s) (ht : s.threads t = .inPhase p .lead)
    (hfree : s.processingPhase = none) :
    TasksOk ({ s with processingPhase := some p }.goTo t p .claim) := by
  have hset : TasksOk { s with processingPhase := some p } := by
    refine ⟨h.fifo, h.accounted, ?_, ?_, h.later, h.handedOut, h.holder, h.member, h.underWay⟩
    · intro hnone
      cases hnone
    · intro p' howns
      cases howns
      obtain ⟨_, _, _, _, _, hcount⟩ := hok.thread t p .lead ht
      have hnone : s.dequeuedIn p = 0 := h.none_dequeued (Or.inr hcount)
      have hclaimed := h.unclaimed hfree
      show s.claimed + s.dequeuedIn p = (s.phases p).lifecycleTaskCount
      omega
  exact hset.goOn (not_busy ht id) id

/-- The leader claims what is counted. -/
theorem TasksOk.claim (h : TasksOk s) (hok : PhasesOk s) (ht : s.threads t = .inPhase p .claim) :
    TasksOk (({ s with
      lifecycleTasks := s.lifecycleTasks.claimTaskCount
      claimed := s.lifecycleTasks.taskCount }.setPhase p
        { s.phases p with lifecycleTaskCount := s.lifecycleTasks.taskCount }).goTo t p
        .publish) := by
  obtain ⟨hp, _, _, _, hready, hcount, howns⟩ := hok.thread t p .claim ht
  obtain ⟨hnext, _, _⟩ := (hok.phase p hp).unready hready
  have hnone : s.dequeuedIn p = 0 := h.none_dequeued (Or.inl hnext)
  have hclaimed := h.claimed p howns
  have hhanded := h.handedOut p
  have hset : TasksOk ({ s with
      lifecycleTasks := s.lifecycleTasks.claimTaskCount
      claimed := s.lifecycleTasks.taskCount }.setPhase p
        { s.phases p with lifecycleTaskCount := s.lifecycleTasks.taskCount }) := by
    refine ⟨h.fifo, ?_, ?_, ?_, ?_, ?_, ?_, ?_, h.underWay⟩
    · have haccounted := h.accounted
      rw [show s.claimed = 0 by omega] at haccounted
      exact balanced_claim haccounted
    · intro hfree
      exact absurd (howns.symm.trans hfree) (by simp)
    · intro p' howns'
      obtain rfl : p = p' := Option.some.inj (howns.symm.trans howns')
      rw [setPhase_self]
      show s.lifecycleTasks.taskCount + s.dequeuedIn p = s.lifecycleTasks.taskCount
      omega
    · intro p' hp'
      exact setPhase_cases (P := fun c => c.nextLifecycleTaskIndex = 0) p' (fun _ => hnext)
        (fun _ => h.later p' hp')
    · intro p'
      refine setPhase_cases (P := fun c => s.dequeuedIn p' + c.holders.card =
        min c.nextLifecycleTaskIndex c.lifecycleTaskCount) p' ?_ (fun _ => h.handedOut p')
      rintro rfl
      rw [hnext] at hhanded ⊢
      simp only [Nat.zero_min] at hhanded ⊢
      exact hhanded
    · intro t' p'
      exact setPhase_cases (P := fun c => t' ∈ c.holders ↔ s.threads t' = .inPhase p' .dequeue) p'
        (fun hpp => hpp ▸ h.holder t' p') (fun _ => h.holder t' p')
    · intro p' t' task hentry
      exact setPhase_cases (P := fun c => t' ∈ c.threads) p'
        (fun hpp => hpp ▸ h.member p' t' task hentry) (fun _ => h.member p' t' task hentry)
  exact hset.goOn (not_busy ht id) id

/-- All task indices are handed out and nobody has yet to take his: everything the phase has
claimed is taken. -/
theorem TasksOk.all_dequeued (h : TasksOk s) (hidle : s.Idle p)
    (hout : (s.phases p).lifecycleTaskCount ≤ (s.phases p).nextLifecycleTaskIndex) :
    s.dequeuedIn p = (s.phases p).lifecycleTaskCount := by
  have hnobody : (s.phases p).holders = ∅ := by
    refine Finset.eq_empty_of_forall_notMem ?_
    intro t hholds
    have ht := (h.holder t p).mp hholds
    refine hidle t _ ht ?_
    rw [ht]
    trivial
  have hhanded := h.handedOut p
  rw [hnobody, Finset.card_empty] at hhanded
  omega

theorem TasksOk.release (h : TasksOk s) (hok : PhasesOk s)
    (ht : s.threads t = .inPhase p .release) :
    TasksOk ({ s with processingPhase := none }.goTo t p .awaitComplete) := by
  obtain ⟨hp, _, _, hcomplete, howns⟩ := hok.thread t p .release ht
  obtain ⟨hall, hout⟩ := (hok.phase p hp).complete hcomplete
  have hset : TasksOk { s with processingPhase := none } := by
    refine ⟨h.fifo, h.accounted, ?_, ?_, h.later, h.handedOut, h.holder, h.member, h.underWay⟩
    · intro _
      have hclaimed := h.claimed p howns
      have hdequeued := h.all_dequeued (hok.idle_of_arrived hall) hout
      show s.claimed = 0
      omega
    · intro p' howns'
      cases howns'
  exact hset.goOn (not_busy ht id) id

/-- A task index is handed out. -/
theorem TasksOk.fetch (h : TasksOk s) (hok : PhasesOk s) (ht : s.threads t = .inPhase p .fetch)
    (hleft : (s.phases p).nextLifecycleTaskIndex < (s.phases p).lifecycleTaskCount) :
    TasksOk ((s.setPhase p { s.phases p with
      nextLifecycleTaskIndex := (s.phases p).nextLifecycleTaskIndex + 1
      holders := insert t (s.phases p).holders }).goTo t p .dequeue) := by
  have hp := (hok.thread t p .fetch ht).1
  have hnew : t ∉ (s.phases p).holders := by
    intro hin
    have hat := (h.holder t p).mp hin
    rw [ht] at hat
    cases hat
  have hhanded := h.handedOut p
  refine ⟨h.fifo, h.accounted, h.unclaimed, ?_, ?_, ?_, ?_, ?_, ?_⟩
  · intro p' howns
    exact setPhase_cases (P := fun c => s.claimed + s.dequeuedIn p' = c.lifecycleTaskCount) p'
      (fun hpp => hpp ▸ h.claimed p' howns) (fun _ => h.claimed p' howns)
  · intro p' hp'
    refine setPhase_cases (P := fun c => c.nextLifecycleTaskIndex = 0) p' ?_
      (fun _ => h.later p' hp')
    rintro rfl
    have hlater : s.phaseCount ≤ p' := hp'
    omega
  · intro p'
    refine setPhase_cases (P := fun c => s.dequeuedIn p' + c.holders.card =
      min c.nextLifecycleTaskIndex c.lifecycleTaskCount) p' ?_ (fun _ => h.handedOut p')
    rintro rfl
    rw [Finset.card_insert_of_notMem hnew]
    simp only
    omega
  · intro t' p'
    rw [goTo_threads_iff]
    refine setPhase_cases (P := fun c => t' ∈ c.holders ↔
      (t' = t ∧ p' = p ∧ PhaseStep.dequeue = .dequeue) ∨
      (t' ≠ t ∧ s.threads t' = .inPhase p' .dequeue)) p' ?_ ?_
    · rintro rfl
      rw [Finset.mem_insert, h.holder]
      by_cases hne : t' = t <;> simp [hne]
    · intro hpp
      rw [h.holder]
      by_cases hne : t' = t
      · subst hne
        simp [ht, hpp]
      · simp [hne]
  · intro p' t' task hentry
    exact setPhase_cases (P := fun c => t' ∈ c.threads) p'
      (fun hpp => hpp ▸ h.member p' t' task hentry) (fun _ => h.member p' t' task hentry)
  · intro p' t' task
    have hother : (s.goTo t p .dequeue).threads t' = .inPhase p' (.process task) ↔
        s.threads t' = .inPhase p' (.process task) := goTo_threads_of_ne ht (by simp) (by simp)
    show s.dequeued.count (p', t', task) = s.processed.count (p', t', task) +
      if (s.goTo t p .dequeue).threads t' = .inPhase p' (.process task) then 1 else 0
    simp only [hother]
    exact h.underWay p' t' task

/-- There is no task index left. -/
theorem TasksOk.fetchNone (h : TasksOk s) (hok : PhasesOk s) (ht : s.threads t = .inPhase p .fetch)
    (hout : (s.phases p).lifecycleTaskCount ≤ (s.phases p).nextLifecycleTaskIndex) :
    TasksOk ((s.setPhase p { s.phases p with
      nextLifecycleTaskIndex := (s.phases p).nextLifecycleTaskIndex + 1 }).goTo t p .arrive) := by
  have hp := (hok.thread t p .fetch ht).1
  have hhanded := h.handedOut p
  have hset : TasksOk (s.setPhase p { s.phases p with
      nextLifecycleTaskIndex := (s.phases p).nextLifecycleTaskIndex + 1 }) := by
    refine ⟨h.fifo, h.accounted, h.unclaimed, ?_, ?_, ?_, ?_, ?_, h.underWay⟩
    · intro p' howns
      exact setPhase_cases (P := fun c => s.claimed + s.dequeuedIn p' = c.lifecycleTaskCount) p'
        (fun hpp => hpp ▸ h.claimed p' howns) (fun _ => h.claimed p' howns)
    · intro p' hp'
      refine setPhase_cases (P := fun c => c.nextLifecycleTaskIndex = 0) p' ?_
        (fun _ => h.later p' hp')
      rintro rfl
      have hlater : s.phaseCount ≤ p' := hp'
      omega
    · intro p'
      refine setPhase_cases (P := fun c => s.dequeuedIn p' + c.holders.card =
        min c.nextLifecycleTaskIndex c.lifecycleTaskCount) p' ?_ (fun _ => h.handedOut p')
      rintro rfl
      simp only
      omega
    · intro t' p'
      exact setPhase_cases (P := fun c => t' ∈ c.holders ↔ s.threads t' = .inPhase p' .dequeue) p'
        (fun hpp => hpp ▸ h.holder t' p') (fun _ => h.holder t' p')
    · intro p' t' task hentry
      exact setPhase_cases (P := fun c => t' ∈ c.threads) p'
        (fun hpp => hpp ▸ h.member p' t' task hentry) (fun _ => h.member p' t' task hentry)
  exact hset.goOn (not_busy ht id) id

/-- A task is taken. -/
theorem TasksOk.dequeue (h : TasksOk s) (hok : PhasesOk s) (ht : s.threads t = .inPhase p .dequeue)
    {task : Task} {rest : ConcurrentTaskQueue Task}
    (hpop : s.lifecycleTasks.tryPop = some (task, rest)) :
    TasksOk (({ s with
      lifecycleTasks := rest
      claimed := s.claimed - 1
      dequeued := s.dequeued ++ [(p, t, task)] }.setPhase p
        { s.phases p with holders := (s.phases p).holders.erase t }).goTo t p
        (.process task)) := by
  obtain ⟨hp, hmem, hbefore, hready⟩ := hok.thread t p .dequeue ht
  have howns := hok.owner_of_inLifecycle ht trivial
  have hholds : t ∈ (s.phases p).holders := (h.holder t p).mpr ht
  have hcard := Finset.card_erase_add_one hholds
  have hhanded := h.handedOut p
  have hclaimed := h.claimed p howns
  obtain ⟨hqueue, _⟩ := tryPop_eq_some.mp hpop
  -- one entry more for this phase, none for the others
  have hcount : ∀ p', (s.dequeued ++ [(p, t, task)]).countP (fun entry => entry.1 = p') =
      s.dequeuedIn p' + if p' = p then 1 else 0 := by
    intro p'
    rw [List.countP_append, List.countP_singleton]
    simp [dequeuedIn, eq_comm]
  refine ⟨?_, ?_, ?_, ?_, ?_, ?_, ?_, ?_, ?_⟩
  · show s.accepted = (s.dequeued ++ [(p, t, task)]).map (fun entry => entry.2.2) ++ rest.taskQueue
    rw [h.fifo, hqueue]
    simp
  · have haccounted := h.accounted
    rw [show s.claimed = s.claimed - 1 + 1 by omega] at haccounted
    exact balanced_pop haccounted hpop
  · intro hfree
    exact absurd (howns.symm.trans hfree) (by simp)
  · intro p' howns'
    obtain rfl : p = p' := Option.some.inj (howns.symm.trans howns')
    -- claimed less one, dequeued one more
    refine setPhase_cases (P := fun c => s.claimed - 1 + (s.dequeued ++ [(p, t, task)]).countP
      (fun entry => entry.1 = p) = c.lifecycleTaskCount) p ?_ (fun hpp => absurd rfl hpp)
    intro _
    rw [hcount, if_pos rfl]
    show s.claimed - 1 + (s.dequeuedIn p + 1) = (s.phases p).lifecycleTaskCount
    omega
  · intro p' hp'
    exact setPhase_cases (P := fun c => c.nextLifecycleTaskIndex = 0) p'
      (fun hpp => hpp ▸ h.later p' hp') (fun _ => h.later p' hp')
  · intro p'
    refine setPhase_cases
      (P := fun c => (s.dequeued ++ [(p, t, task)]).countP (fun entry => entry.1 = p') +
      c.holders.card = min c.nextLifecycleTaskIndex c.lifecycleTaskCount) p' ?_ ?_
    · rintro rfl
      rw [hcount, if_pos rfl]
      simp only
      omega
    · intro hpp
      rw [hcount, if_neg hpp]
      exact h.handedOut p'
  · intro t' p'
    rw [goTo_threads_iff]
    refine setPhase_cases (P := fun c => t' ∈ c.holders ↔
      (t' = t ∧ p' = p ∧ PhaseStep.dequeue = .process task) ∨
      (t' ≠ t ∧ s.threads t' = .inPhase p' .dequeue)) p' ?_ ?_
    · rintro rfl
      rw [Finset.mem_erase, h.holder]
      simp
    · intro hpp
      rw [h.holder]
      by_cases hne : t' = t
      · subst hne
        simp [ht, Ne.symm hpp]
      · simp [hne]
  · intro p' t' task' hentry
    have hentry' : (p', t', task') ∈ s.dequeued ∨ p' = p ∧ t' = t := by
      rcases List.mem_append.mp hentry with hold | hnew
      · exact Or.inl hold
      · simp only [List.mem_singleton, Prod.mk.injEq] at hnew
        exact Or.inr ⟨hnew.1, hnew.2.1⟩
    have hthreads : t' ∈ (s.phases p').threads := by
      rcases hentry' with hold | ⟨rfl, rfl⟩
      · exact h.member p' t' task' hold
      · exact hmem
    exact setPhase_cases (P := fun c => t' ∈ c.threads) p' (fun hpp => hpp ▸ hthreads)
      (fun _ => hthreads)
  · intro p' t' task'
    -- the task is under way with this thread
    show (s.dequeued ++ [(p, t, task)]).count (p', t', task') = s.processed.count (p', t', task') +
      if (s.goTo t p (.process task)).threads t' = .inPhase p' (.process task') then 1 else 0
    rw [List.count_append, h.underWay p' t' task']
    simp only [goTo_threads_iff]
    by_cases hsame : (p', t', task') = (p, t, task)
    · obtain ⟨rfl, rfl, rfl⟩ : p' = p ∧ t' = t ∧ task' = task := by simpa using hsame
      simp [ht]
    · have hzero : [(p, t, task)].count (p', t', task') = 0 :=
        List.count_eq_zero_of_not_mem (by simpa using hsame)
      rw [hzero]
      by_cases hne : t' = t
      · subst hne
        have hnot : ¬ (p' = p ∧ task' = task) := by simpa using hsame
        simp [ht, hnot]
      · simp [hne]

/-- A task has been processed. -/
theorem TasksOk.process (h : TasksOk s) {task : Task}
    (ht : s.threads t = .inPhase p (.process task)) (activeRooms : List Room)
    (processing initialized : Room → Bool) :
    TasksOk ({ s with
      activeRooms
      processing
      initialized
      processed := s.processed ++ [(p, t, task)] }.goTo t p .fetch) := by
  refine ⟨h.fifo, h.accounted, h.unclaimed, h.claimed, h.later, h.handedOut, ?_, h.member, ?_⟩
  · intro t' p'
    show t' ∈ (s.phases p').holders ↔ (s.goTo t p .fetch).threads t' = .inPhase p' .dequeue
    rw [goTo_threads_of_ne ht (by simp) (by simp)]
    exact h.holder t' p'
  · intro p' t' task'
    show s.dequeued.count (p', t', task') = (s.processed ++ [(p, t, task)]).count (p', t', task') +
      if (s.goTo t p .fetch).threads t' = .inPhase p' (.process task') then 1 else 0
    rw [List.count_append, h.underWay p' t' task']
    simp only [goTo_threads_iff]
    by_cases hsame : (p', t', task') = (p, t, task)
    · obtain ⟨rfl, rfl, rfl⟩ : p' = p ∧ t' = t ∧ task' = task := by simpa using hsame
      simp [ht]
    · have hzero : [(p, t, task)].count (p', t', task') = 0 :=
        List.count_eq_zero_of_not_mem (by simpa using hsame)
      rw [hzero]
      by_cases hne : t' = t
      · subst hne
        have hnot : ¬ (p = p' ∧ task = task') := by
          rintro ⟨rfl, rfl⟩
          exact hsame rfl
        simp [ht, hnot]
      · simp [hne]

theorem TasksOk.start (h : TasksOk s) (hok : PhasesOk s) {threads : Finset Nat} (tickTimeMs : Int)
    (hfree : ∀ t ∈ threads, s.threads t = .available) :
    TasksOk (s.startGamePhase threads tickTimeMs) := by
  have hphase : ∀ p, p ≠ s.phaseCount → (s.startGamePhase threads tickTimeMs).phases p =
      s.phases p :=
    fun p hp => Function.update_of_ne hp ..
  have hnew : (s.startGamePhase threads tickTimeMs).phases s.phaseCount =
      { threads, tickTimeMs } :=
    Function.update_self ..
  have hthread : ∀ t p step, step ≠ .prepare →
      ((s.startGamePhase threads tickTimeMs).threads t = .inPhase p step ↔
        s.threads t = .inPhase p step) := by
    intro t p step hstep
    simp only [startGamePhase]
    split
    next hin =>
      rw [hfree t hin, GameThread.inPhase.injEq]
      simp [Ne.symm hstep]
    next => rfl
  have hnone := h.none_dequeued (Or.inl (h.later s.phaseCount (le_refl _)))
  have hhanded := h.handedOut s.phaseCount
  have hbelow : ∀ t p step, s.threads t = .inPhase p step → p ≠ s.phaseCount := by
    intro t p step ht
    exact Nat.ne_of_lt (hok.thread t p step ht).1
  refine ⟨h.fifo, h.accounted, h.unclaimed, ?_, ?_, ?_, ?_, ?_, ?_⟩
  · intro p howns
    rw [hphase p (Nat.ne_of_lt (hok.owned p howns))]
    exact h.claimed p howns
  · intro p hp
    have hlater : s.phaseCount + 1 ≤ p := hp
    rw [hphase p (by omega)]
    exact h.later p (by omega)
  · intro p
    by_cases hpp : p = s.phaseCount
    · subst hpp
      rw [hnew]
      show s.dequeuedIn s.phaseCount + 0 = 0
      omega
    · rw [hphase p hpp]
      exact h.handedOut p
  · intro t p
    rw [hthread t p _ (by simp)]
    by_cases hpp : p = s.phaseCount
    · subst hpp
      rw [hnew]
      refine ⟨fun hin => absurd hin (Finset.notMem_empty t),
        fun ht => absurd rfl (hbelow t _ _ ht)⟩
    · rw [hphase p hpp]
      exact h.holder t p
  · intro p t task hentry
    by_cases hpp : p = s.phaseCount
    · subst hpp
      rw [dequeuedIn, List.countP_eq_zero] at hnone
      exact absurd (hnone _ hentry) (by simp)
    · rw [hphase p hpp]
      exact h.member p t task hentry
  · intro p t task
    have hother := hthread t p (.process task) (by simp)
    show s.dequeued.count (p, t, task) = s.processed.count (p, t, task) +
      if (s.startGamePhase threads tickTimeMs).threads t = .inPhase p (.process task) then 1 else 0
    simp only [hother]
    exact h.underWay p t task

theorem tasksOk_initial (activeRooms : List Room) (initialized processing : Room → Bool) :
    TasksOk ({ activeRooms, initialized, processing } : GamePhases Task Room) := by
  refine ⟨rfl, rfl, fun _ => rfl, ?_, fun _ _ => rfl, fun _ => rfl, ?_, ?_, fun _ _ _ => rfl⟩
  · intro p howns
    cases howns
  · intro t p
    simp
  · intro p t task hentry
    cases hentry

/-! ## Every step -/

/-- A step of a thread that is not about the tasks. -/
theorem TasksOk.pass (h : TasksOk s) (ht : s.threads t = .inPhase p step)
    (hidle : ¬ (GameThread.inPhase p step : GameThread Task Room).Busy)
    {thread : GameThread Task Room} (hidle' : ¬ thread.Busy)
    (hthreads : c.threads = (s.phases p).threads)
    (hnext : c.nextLifecycleTaskIndex = (s.phases p).nextLifecycleTaskIndex)
    (hcount : c.lifecycleTaskCount = (s.phases p).lifecycleTaskCount)
    (hholders : c.holders = (s.phases p).holders) :
    TasksOk ((s.setPhase p c).setThread t thread) :=
  (h.setPhase hthreads hnext hcount hholders).goOn (not_busy (s := s.setPhase p c) ht hidle) hidle'

theorem TasksOk.of_rooms (h : TasksOk s) (found ticks : List (Nat × Room))
    (processing : Room → Bool) :
    TasksOk { s with found, ticks, processing } :=
  ⟨h.fifo, h.accounted, h.unclaimed, h.claimed, h.later, h.handedOut, h.holder,
    h.member, h.underWay⟩

theorem TasksOk.act {s' : GamePhases Task Room} (h : TasksOk s) (hok : PhasesOk s)
    (ht : s.threads t = .inPhase p step) (hact : s.act t p step = some s') : TasksOk s' := by
  cases step with
  | prepare =>
      simp only [GamePhases.act] at hact
      split at hact
      next =>
        cases hact
        exact h.goOn (not_busy ht id) id
      next =>
        cases hact
        -- the steps around the queue leave it as it is
        exact h.pass ht id id rfl rfl rfl rfl
  | lead =>
      simp only [GamePhases.act] at hact
      split at hact
      next hfree =>
        cases hact
        exact h.acquire hok ht hfree
      next => cases hact
  | claim =>
      cases hact
      exact h.claim hok ht
  | publish =>
      cases hact
      exact h.pass ht id id rfl rfl rfl rfl
  | awaitReady =>
      simp only [GamePhases.act] at hact
      split at hact
      next =>
        cases hact
        exact h.goOn (not_busy ht id) id
      next => cases hact
  | fetch =>
      simp only [GamePhases.act] at hact
      split at hact
      next hleft =>
        cases hact
        exact h.fetch hok ht hleft
      next hout =>
        cases hact
        exact h.fetchNone hok ht (by omega)
  | dequeue =>
      simp only [GamePhases.act] at hact
      split at hact
      next => cases hact
      next task rest hpop =>
        cases hact
        exact h.dequeue hok ht hpop
  | process task => cases hact
  | arrive =>
      cases hact
      refine h.pass ht id ?_ rfl rfl rfl rfl
      split <;> exact id
  | finish =>
      cases hact
      exact h.pass ht id id rfl rfl rfl rfl
  | release =>
      cases hact
      exact h.release hok ht
  | awaitComplete =>
      simp only [GamePhases.act] at hact
      split at hact
      next =>
        cases hact
        exact h.goOn (not_busy ht id) id
      next => cases hact
  | nextRoom =>
      cases hact
      exact h.pass ht id id rfl rfl rfl rfl
  | lookUp index =>
      simp only [GamePhases.act] at hact
      split at hact
      next =>
        cases hact
        exact h.goOn (not_busy ht id) id
      next room _ =>
        cases hact
        have hgone : TasksOk (s.goTo t p (.enter room)) := h.goOn (not_busy ht id) id
        exact hgone.of_rooms _ _ _
  | enter room =>
      simp only [GamePhases.act] at hact
      split at hact
      next =>
        cases hact
        exact h.goOn (not_busy ht id) id
      next =>
        cases hact
        have hgone : TasksOk (s.goTo t p (.tick room)) := h.goOn (not_busy ht id) id
        exact hgone.of_rooms _ _ _
  | tick room =>
      cases hact
      have hgone : TasksOk (s.goTo t p .nextRoom) := h.goOn (not_busy ht id) id
      exact hgone.of_rooms _ _ _
  | leave =>
      cases hact
      exact h.goOn (not_busy ht id) id

omit [DecidableEq Task] [DecidableEq Room] in
theorem quit_eq_some {s' : GamePhases Task Room} (hquit : s.quit t = some s') :
    ¬ (s.threads t).Busy ∧ ∃ thread, s' = s.setThread t thread ∧ ¬ thread.Busy := by
  unfold GamePhases.quit at hquit
  split at hquit <;> cases hquit <;> rename_i ht <;> rw [ht]
  all_goals exact ⟨id, _, rfl, id⟩

theorem TasksOk.quit {s' : GamePhases Task Room} (h : TasksOk s) (hquit : s.quit t = some s') :
    TasksOk s' := by
  obtain ⟨hidle, thread, rfl, hidle'⟩ := quit_eq_some hquit
  exact h.goOn hidle hidle'

theorem TasksOk.next {s' : GamePhases Task Room} {threadCount : Nat}
    {action : GameAction Task Room} (h : TasksOk s) (hok : PhasesOk s)
    (hstep : s.step threadCount action = some s') : TasksOk s' := by
  cases action with
  | startGamePhase threads tickTimeMs =>
      simp only [GamePhases.step] at hstep
      split at hstep
      next hfree =>
        cases hstep
        exact h.start hok tickTimeMs fun t hin => (hfree.2.1 t hin).2
      next => cases hstep
  | stop =>
      cases hstep
      exact ⟨h.fifo, h.accounted, h.unclaimed, h.claimed, h.later, h.handedOut, h.holder,
        h.member, h.underWay⟩
  | count task =>
      cases hstep
      refine ⟨h.fifo, ?_, h.unclaimed, h.claimed, h.later, h.handedOut, h.holder,
        h.member, h.underWay⟩
      show s.lifecycleTasks.countTask.Accounted s.claimed (s.enqueuing ++ [task]).length
      rw [List.length_append]
      exact balanced_count h.accounted
  | push n =>
      simp only [GamePhases.step] at hstep
      split at hstep
      next => cases hstep
      next task hget =>
        cases hstep
        obtain ⟨hn, _⟩ := List.getElem?_eq_some_iff.mp hget
        refine ⟨?_, ?_, h.unclaimed, h.claimed, h.later, h.handedOut, h.holder,
          h.member, h.underWay⟩
        · show s.accepted ++ [task] = s.dequeued.map (fun entry => entry.2.2) ++
            (s.lifecycleTasks.taskQueue ++ [task])
          rw [h.fifo, List.append_assoc]
        · have haccounted := h.accounted
          rw [show s.enqueuing.length = (s.enqueuing.eraseIdx n).length + 1 by
            rw [List.length_eraseIdx_of_lt hn]
            omega] at haccounted
          exact balanced_push haccounted
  | act t =>
      simp only [GamePhases.step] at hstep
      split at hstep
      next p step ht => exact h.act hok ht hstep
      next => cases hstep
      next => cases hstep
  | process t activeRooms created =>
      simp only [GamePhases.step] at hstep
      split at hstep
      next p task ht =>
        cases hstep
        rw [completeRoomInitialization_eq]
        exact h.process ht activeRooms _ _
      next => cases hstep
  | unresolved t =>
      simp only [GamePhases.step] at hstep
      split at hstep
      next p index ht =>
        cases hstep
        exact h.goOn (not_busy ht id) id
      next => cases hstep
  | quit t =>
      simp only [GamePhases.step] at hstep
      split at hstep
      next => cases hstep
      next => exact h.quit hstep

end GamePhases

end ProjectTetris

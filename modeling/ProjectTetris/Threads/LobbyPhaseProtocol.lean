import ProjectTetris.Threads.LobbyStage

/-!
# The lobby phase protocol

The threads are in one phase at a time, each lifecycle task the phase has claimed is taken
and processed once, and nobody looks at a session before that.
-/

namespace ProjectTetris

open Transition Barrier Tickets

namespace LobbyPhases

variable {n : Nat} {Task : Type} {s s' : LobbyPhases n Task} {t : Fin n} {p : Nat}

/-! ## The tasks -/

/-- The queue, and who has which of its tasks. -/
structure TasksOk (s : LobbyPhases n Task) : Prop where
  positions : Dealt heldPosition s.threads s.taken s.processed
  task : ∀ t p index position task, (s.threads t).step = .process p index position task →
    s.accepted[position]? = some task
  queue : s.lifecycleTasks.taskQueue = s.accepted.drop s.taken
  taken_le : s.taken ≤ s.accepted.length

theorem TasksOk.goOn {thread' : LobbyThread Task} (h : s.TasksOk)
    (hposition : heldPosition thread' = heldPosition (s.threads t))
    (hstep : heldPosition thread' = none ∨ thread'.step = (s.threads t).step) :
    (s.setThread t thread').TasksOk where
  positions := h.positions.goOn hposition
  task := by
    intro j p index position task hj
    simp only [setThread] at hj
    by_cases hjt : j = t
    · rw [hjt, Function.update_self] at hj
      obtain hnone | hsame := hstep
      · rw [heldPosition, hj] at hnone
        cases hnone
      · exact h.task t p index position task (hsame.symm.trans hj)
    · rw [Function.update_of_ne hjt] at hj
      exact h.task j p index position task hj
  queue := h.queue
  taken_le := h.taken_le

theorem TasksOk.notifyAll (h : s.TasksOk) : s.notifyAll.TasksOk where
  positions := h.positions.same fun j => (alike_wake (s.threads j)).position
  task := by
    intro j p index position task hj
    obtain hsame | ⟨_, hwoken⟩ := (s.threads j).wake_eq
    · exact h.task j p index position task (hsame ▸ hj)
    · simp only [LobbyPhases.notifyAll, hwoken] at hj
      cases hj
  queue := h.queue
  taken_le := h.taken_le

theorem TasksOk.setStarter (h : s.TasksOk) (starter : StarterStep) :
    (s.setStarter starter).TasksOk :=
  ⟨h.positions, h.task, h.queue, h.taken_le⟩

theorem TasksOk.setMutex (h : s.TasksOk) (lobbyMutex : Option (Option (Fin n))) :
    (s.setMutex lobbyMutex).TasksOk :=
  ⟨h.positions, h.task, h.queue, h.taken_le⟩

theorem TasksOk.setContext (h : s.TasksOk) (p : Nat) (c : LobbyPhaseContext n) :
    (s.setContext p c).TasksOk :=
  ⟨h.positions, h.task, h.queue, h.taken_le⟩

/-- The first task of the queue is taken. -/
theorem TasksOk.dequeue {index : Nat} {task : Task} {rest : ConcurrentTaskQueue Task}
    (h : s.TasksOk) (hstep : (s.threads t).step = .dequeue p index)
    (hpop : s.lifecycleTasks.tryPop = some (task, rest)) :
    ({ s with lifecycleTasks := rest, taken := s.taken + 1 }.goTo t
      (.process p index s.taken task)).TasksOk := by
  have hqueue := (ConcurrentTaskQueue.tryPop_eq_some.1 hpop).1
  rw [h.queue] at hqueue
  have hlt : s.taken < s.accepted.length := by
    have hlength := congrArg List.length hqueue
    rw [List.length_drop, List.length_cons] at hlength
    omega
  have hfirst : s.accepted[s.taken]? = some task := by
    rw [← List.head?_drop, hqueue, List.head?_cons]
  have hrest : rest.taskQueue = s.accepted.drop (s.taken + 1) := by
    rw [← List.tail_drop, hqueue, List.tail_cons]
  refine ⟨h.positions.deal ?_ rfl, ?_, hrest, hlt⟩
  · rw [heldPosition, hstep]
  · intro j p' index' position' task' hj
    simp only [goTo, setThread] at hj
    by_cases hjt : j = t
    · rw [hjt, Function.update_self] at hj
      cases hj
      exact hfirst
    · rw [Function.update_of_ne hjt] at hj
      exact h.task j p' index' position' task' hj

/-- The thread has processed its task. -/
theorem TasksOk.process {index position : Nat} {task : Task} (h : s.TasksOk)
    (hstep : (s.threads t).step = .process p index position task) :
    ({ s with processed := s.processed ++ [position] }.goTo t (.fetch p)).TasksOk where
  positions := h.positions.finish (by simp only [heldPosition, hstep]) rfl
  task := by
    intro j p' index' position' task' hj
    simp only [goTo, setThread] at hj
    by_cases hjt : j = t
    · rw [hjt, Function.update_self] at hj
      cases hj
    · rw [Function.update_of_ne hjt] at hj
      exact h.task j p' index' position' task' hj
  queue := h.queue
  taken_le := h.taken_le

theorem tasksOk_next (h : s.TasksOk) (hnext : Next s s') : s'.TasksOk := by
  cases hnext with
  | startBegins | seesProcessing | seesAvailable | allAvailable | claims | startLocks
  | startUnlocks | stops | counts =>
      exact ⟨h.positions, h.task, h.queue, h.taken_le⟩
  | startNotifies =>
      have hnotified := h.notifyAll
      exact ⟨hnotified.positions, hnotified.task, h.queue, h.taken_le⟩
  | setsState | setsContext | setsPhase =>
      refine (h.goOn ?_ (.inr ?_)).setStarter _
      · rfl
      · rfl
  | goesOn hstep | leaves hstep | waits hstep | waited hstep | spurious hstep | breaks hstep
  | enters hstep
  | readsContext hstep | crashes hstep | awaited hstep | sessionDone hstep | sessionsStop hstep
  | noSession hstep
  | resetsContext hstep | storesNone hstep | storesAvailable hstep =>
      exact h.goOn (by simp only [heldPosition, hstep]) (.inl rfl)
  | fetches hstep | fetchesNone hstep | arrives hstep | nextSession hstep =>
      exact (h.setContext _ _).goOn (by simp only [heldPosition, setContext, hstep]) (.inl rfl)
  | locks hstep =>
      refine (h.setMutex _).goOn ?_ (.inl rfl)
      obtain hstep | hstep := hstep <;> simp only [heldPosition, setMutex, hstep]
  | sleeps hstep | unlocks hstep =>
      exact (h.setMutex _).goOn (by simp only [heldPosition, setMutex, hstep]) (.inl rfl)
  | dequeues hstep hpop => exact h.dequeue hstep hpop
  | processes hstep => exact (h.process hstep).setContext _ _
  | @closes c t hclosing =>
      have hclosed :
        ({ s with closing := Function.update s.closing c (some t) } :
          LobbyPhases n Task).TasksOk :=
        ⟨h.positions, h.task, h.queue, h.taken_le⟩
      refine hclosed.goOn ?_ (.inr ?_)
      · rfl
      · rfl
  | @closeNotifies c t =>
      have hnotified :
        ({ s with closing := Function.update s.closing c none } : LobbyPhases n Task).TasksOk :=
        ⟨h.positions, h.task, h.queue, h.taken_le⟩
      exact hnotified.notifyAll
  | @pushes i task =>
      refine ⟨h.positions, ?_, ?_, ?_⟩
      · intro t p index position task' hstep
        have hpushed := h.task t p index position task' hstep
        have hlt : position < s.accepted.length := (List.getElem?_eq_some_iff.mp hpushed).1
        exact (List.getElem?_append_left hlt).trans hpushed
      · rw [List.drop_append_of_le_length h.taken_le, ← h.queue]
        rfl
      · rw [List.length_append]
        exact Nat.le_add_right_of_le h.taken_le

/-! ## The protocol -/

theorem protocol_reachable (h : system.Reachable s) : s.PhasesOk ∧ s.Staged ∧ s.TasksOk := by
  refine invariant (I := fun s => s.PhasesOk ∧ s.Staged ∧ s.TasksOk) ?_ ?_ h
  · rintro s rfl
    refine ⟨⟨fun _ => nofun, trivial⟩, ?_, dealt_none fun _ => rfl, ?_, rfl, Nat.le_refl 0⟩
    · intro p hp
      cases hp
    · intro t p index position task hstep
      cases hstep
  · intro s s' ⟨hok, hstaged, htasks⟩ hnext
    exact ⟨phasesOk_next hok hnext, staged_next hstaged hok hnext, tasksOk_next htasks hnext⟩

theorem heldIndex_of_not_before {thread : LobbyThread Task} (h : ¬ thread.step.Before) :
    heldIndex thread = none := by
  unfold heldIndex
  cases hstep : thread.step <;> rw [hstep] at h <;> first | rfl | exact absurd trivial h

theorem heldPosition_of_not_before {thread : LobbyThread Task} (h : ¬ thread.step.Before) :
    heldPosition thread = none := by
  unfold heldPosition
  cases hstep : thread.step
  all_goals first | rfl | (rw [hstep] at h; exact absurd trivial h)

/-- The phase whose context a thread uses. -/
def phaseOf : LobbyStep Task → Option Nat
  | .fetch p | .dequeue p _ | .process p _ _ _ | .arrive p | .await p | .whileSessions p
  | .session p _ => some p
  | _ => none

theorem PhasesOk.latest (h : s.PhasesOk) (hp : phaseOf (s.threads t).step = some p) :
    p + 1 = s.contextCount := by
  have hok := h.threads t
  unfold LobbyThread.Ok at hok
  cases hstep : (s.threads t).step <;> rw [hstep] at hok hp <;> cases hp
  all_goals exact hok.2

/-- **Nobody looks at a session before every lifecycle task of the phase has been processed.** -/
theorem lobbyPhase_protocol (h : system.Reachable s) :
    (∀ t t' p p', phaseOf (s.threads t).step = some p →
      phaseOf (s.threads t').step = some p' → p = p') ∧
    (∀ t, (s.threads t).step ≠ .crashed) ∧
    (∀ t p index, (s.threads t).step = .session p index →
      (s.contexts p).arrived = Finset.univ ∧
      (s.contexts p).processed.Perm (List.range (s.contexts p).lifecycleTaskCount) ∧
      s.processed.Perm (List.range s.taken)) ∧
    (∀ p, p + 1 = s.contextCount → (s.contexts p).visited.Nodup) ∧
    s.lifecycleTasks.taskQueue = s.accepted.drop s.taken := by
  obtain ⟨hok, hstaged, htasks⟩ := protocol_reachable h
  refine ⟨?_, ?_, ?_, ?_, htasks.queue⟩
  · intro t t' p p' hp hp'
    exact Nat.succ.inj ((hok.latest hp).trans (hok.latest hp').symm)
  · intro t hcrashed
    exact hok.at hcrashed
  · intro t p index hsession
    have hlatest : p + 1 = s.contextCount := hok.latest (by rw [hsession]; rfl)
    have hstage := hstaged p hlatest
    have hall : (s.contexts p).arrived = Finset.univ := by
      refine hstage.counted.all_arrived (Nat.le_antisymm ?_ ?_)
      · rw [hstage.counted.card]
        exact Finset.card_le_univ _
      · rw [Finset.card_fin]
        exact hstage.inSession t p index hsession
    have hthrough (j : Fin n) : ¬ (s.threads j).step.Before := by
      refine (hstage.through j ?_).1
      rw [hall]
      exact Finset.mem_univ j
    have hpast := hstage.pastTasks t (by rw [hsession]; trivial)
    have hindices := hstage.indices.all_done fun j => heldIndex_of_not_before (hthrough j)
    rw [Nat.min_eq_right hpast] at hindices
    exact ⟨hall, hindices,
      htasks.positions.all_done fun j => heldPosition_of_not_before (hthrough j)⟩
  · intro p hp
    rw [(hstaged p hp).visited]
    exact List.nodup_range

/--
Two threads, the first of them asleep when the phase starts: they take one task each, finish
in the other order, and the second one asks for the first session.
-/
theorem session_run : ∃ s :
    LobbyPhases 2 Nat, system.Reachable s ∧ (s.threads 1).step = .session 0 0 ∧
    s.accepted = [7, 8] ∧ s.processed = [1, 0] ∧ s.taken = 2 := by
  have h : system.Reachable (start : LobbyPhases 2 Nat) := .start rfl
  -- the first thread goes to sleep
  have h := h.next (Next.goesOn _ (t := 0) rfl ⟨rfl, rfl⟩)
  have h := h.next (Next.locks _ (t := 0) (.inl rfl) rfl)
  have h :=
    h.next (Next.waits _ (t := 0) rfl fun hc => hc.elim (fun hc => hc ⟨rfl, rfl⟩) fun hc => hc rfl)
  have h := h.next (Next.sleeps _ (t := 0) rfl)
  -- two tasks, and a phase
  have h := h.next (Next.counts _ 7)
  have h := h.next (Next.pushes _ (i := 0) rfl)
  have h := h.next (Next.counts _ 8)
  have h := h.next (Next.pushes _ (i := 0) rfl)
  have h := h.next (Next.startBegins _ rfl rfl)
  have h := h.next (Next.seesAvailable _ (i := 0) rfl rfl)
  have h := h.next (Next.seesAvailable _ (i := 1) rfl rfl)
  have h := h.next (Next.allAvailable _ rfl)
  have h := h.next (Next.claims _ rfl)
  have h := h.next (Next.startLocks _ rfl rfl)
  have h := h.next (Next.setsState _ (i := 0) rfl)
  have h := h.next (Next.setsContext _ (i := 0) rfl)
  have h := h.next (Next.setsPhase _ (i := 0) rfl)
  have h := h.next (Next.setsState _ (i := 1) rfl)
  have h := h.next (Next.setsContext _ (i := 1) rfl)
  have h := h.next (Next.setsPhase _ (i := 1) rfl)
  have h := h.next (Next.startUnlocks _ rfl)
  have h := h.next (Next.startNotifies _ rfl)
  -- both find it
  have h := h.next (Next.goesOn _ (t := 1) rfl ⟨rfl, rfl⟩)
  have h := h.next (Next.locks _ (t := 1) (.inl rfl) rfl)
  have h := h.next (Next.waited _ (t := 1) rfl (.inr nofun))
  have h := h.next (Next.unlocks _ (t := 1) rfl)
  have h := h.next (Next.locks _ (t := 0) (.inr rfl) rfl)
  have h := h.next (Next.waited _ (t := 0) rfl (.inr nofun))
  have h := h.next (Next.unlocks _ (t := 0) rfl)
  have h := h.next (Next.enters _ (t := 0) rfl ⟨rfl, rfl⟩)
  have h := h.next (Next.readsContext _ (t := 0) rfl rfl)
  have h := h.next (Next.enters _ (t := 1) rfl ⟨rfl, rfl⟩)
  have h := h.next (Next.readsContext _ (t := 1) rfl rfl)
  -- a task each
  have h := h.next (Next.fetches _ (t := 0) rfl (Nat.zero_lt_succ 1))
  have h := h.next (Next.fetches _ (t := 1) rfl (Nat.lt_succ_self 1))
  have h := h.next (Next.dequeues _ (t := 0) rfl rfl)
  have h := h.next (Next.dequeues _ (t := 1) rfl rfl)
  have h := h.next (Next.processes _ (t := 1) rfl)
  have h := h.next (Next.processes _ (t := 0) rfl)
  have h := h.next (Next.fetchesNone _ (t := 1) rfl (Nat.lt_irrefl 2))
  have h := h.next (Next.arrives _ (t := 1) rfl)
  have h := h.next (Next.fetchesNone _ (t := 0) rfl (Nat.not_succ_lt_self (n := 2)))
  have h := h.next (Next.arrives _ (t := 0) rfl)
  have h := h.next (Next.awaited _ (t := 1) rfl (.inr (Nat.lt_irrefl 2)))
  have h := h.next (Next.nextSession _ (t := 1) rfl ⟨rfl, rfl⟩)
  exact ⟨_, h, rfl, rfl, rfl, rfl⟩

theorem lobbyPhase_protocol_session : ∃ s :
    LobbyPhases 2 Nat, system.Reachable s ∧ s.accepted = [7, 8] ∧
    s.processed = [1, 0] ∧ (s.contexts 0).arrived = Finset.univ ∧ s.processed.Perm [0, 1] := by
  obtain ⟨s, h, hsession, haccepted, hprocessed, htaken⟩ := session_run
  obtain ⟨harrived, _, hdone⟩ := (lobbyPhase_protocol h).2.2.1 1 0 0 hsession
  rw [htaken] at hdone
  exact ⟨s, h, haccepted, hprocessed, harrived, hdone⟩

end LobbyPhases

end ProjectTetris

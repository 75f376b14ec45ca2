import ProjectTetris.Threads.LifecycleTasks

/-!
# Rooms are ticked after the lifecycle stage, by one thread at a time

A thread that is to stop leaves each wait of the lifecycle stage. From the last one it still
goes on to the rooms, also when another thread is in a task; and when the last one of a phase
leaves an earlier one, the tasks of the phase are nobody's. In every run in which neither
happens the protocol is kept.
-/

namespace ProjectTetris

open Transition Guard System

namespace GamePhases

variable {Task Room : Type} {s s' : GamePhases Task Room} {t p : Nat} {step : PhaseStep Task Room}
  {action : GameAction Task Room}

/-- Inside `ProcessRoomTick` of the room. -/
def Ticking (room : Room) (thread : GameThread Task Room) : Prop :=
  ∃ p, thread = .inPhase p (.tick room)

/-- A room is ticked by one thread at most, and only once it is initialized. -/
def RoomsOk (s : GamePhases Task Room) : Prop :=
  ∀ room, Guarded (Ticking room) (s.processing room) s.threads ∧
  (s.initialized room = false → s.processing room = true ∧ ∀ t, ¬ Ticking room (s.threads t))

/-- The tasks the phase has claimed are taken and processed. -/
structure LifecycleDone [DecidableEq Task] (s : GamePhases Task Room) (p : Nat) : Prop where
  dequeued : s.dequeuedIn p = (s.phases p).lifecycleTaskCount
  processed : (s.processed.filter fun entry => entry.1 = p).Perm
    (s.dequeued.filter fun entry => entry.1 = p)

/-- What a step may do to the rooms: nothing, or one is new, or a thread begins or ends the tick of
one. -/
inductive RoomsStep [DecidableEq Room] (action : GameAction Task Room)
    (s s' : GamePhases Task Room) : Prop
  | same (hprocessing : s'.processing = s.processing)
      (hinitialized : s'.initialized = s.initialized)
      (hticks : s'.ticks = s.ticks) (hthreads : ∀ t room, Ticking room (s'.threads t) →
        Ticking room (s.threads t))
  | created (room : Room) (hnew : s.initialized room = false)
      (hprocessing : s'.processing = Function.update s.processing room false)
      (hinitialized : s'.initialized = Function.update s.initialized room true)
      (hticks : s'.ticks = s.ticks)
      (hthreads : ∀ t room, Ticking room (s'.threads t) → Ticking room (s.threads t))
  | enter (t p : Nat) (room : Room) (haction : action = .act t)
      (ht : s.threads t = .inPhase p (.enter room))
      (hfree : s.processing room = false)
      (hnext : s' = ({ s with ticks := s.ticks ++ [(p, room)] }.setProcessing room true).goTo t p
        (.tick room))
  | done (t p : Nat) (room : Room) (ht : s.threads t = .inPhase p (.tick room))
      (hnext : s' = (s.setProcessing room false).goTo t p .nextRoom)

theorem ticking_of_setThread {thread : GameThread Task Room} (hnot : ∀ room, ¬ Ticking room thread)
    (t' : Nat) (room : Room) (hticking : Ticking room ((s.setThread t thread).threads t')) :
    Ticking room (s.threads t') := by
  by_cases hne : t' = t
  · subst hne
    rw [setThread_self] at hticking
    exact absurd hticking (hnot room)
  · rwa [setThread_ne _ _ hne] at hticking

theorem RoomsStep.moved [DecidableEq Room] {thread : GameThread Task Room}
    (hprocessing : s'.processing = s.processing) (hinitialized : s'.initialized = s.initialized)
    (hticks : s'.ticks = s.ticks) (hthreads : s'.threads = (s.setThread t thread).threads)
    (hnot : ∀ room, ¬ Ticking room thread) : RoomsStep action s s' := by
  refine .same hprocessing hinitialized hticks ?_
  rw [hthreads]
  exact ticking_of_setThread hnot

theorem not_ticking (hnot : ∀ room, step ≠ .tick room) (room : Room) :
    ¬ Ticking room (GameThread.inPhase p step : GameThread Task Room) := by
  rintro ⟨p', heq⟩
  obtain ⟨_, rfl⟩ := GameThread.inPhase.inj heq
  exact hnot room rfl

theorem notTicking_update {room : Room} {thread : GameThread Task Room}
    (hnone : ∀ t, ¬ Ticking room (s.threads t)) (hnot : ¬ Ticking room thread) (t' : Nat) :
    ¬ Ticking room (Function.update s.threads t thread t') := by
  by_cases hne : t' = t
  · subst hne
    rwa [Function.update_self]
  · rw [Function.update_of_ne hne]
    exact hnone t'

theorem roomsStep_act [DecidableEq Room] (ht : s.threads t = .inPhase p step)
    (hact : s.act t p step = some s') :
    RoomsStep (.act t) s s' := by
  cases step with
  | enter room =>
      simp only [GamePhases.act] at hact
      split at hact
      next =>
        cases hact
        exact .moved rfl rfl rfl rfl (not_ticking (by simp))
      next hfree =>
        cases hact
        exact .enter t p room rfl ht (Bool.eq_false_iff.mpr hfree) rfl
  | tick room =>
      cases hact
      exact .done t p room ht rfl
  | arrive =>
      cases hact
      refine .moved rfl rfl rfl rfl (not_ticking ?_)
      split <;> simp
  | claim | publish | finish | release | nextRoom =>
      cases hact
      exact .moved rfl rfl rfl rfl (not_ticking (by simp))
  | leave =>
      cases hact
      refine .moved rfl rfl rfl rfl ?_
      rintro room ⟨_, heq⟩
      cases heq
  | process task => cases hact
  | prepare | lead | awaitReady | fetch | dequeue | awaitComplete | lookUp =>
      simp only [GamePhases.act] at hact
      split at hact <;> cases hact
      all_goals exact .moved rfl rfl rfl rfl (not_ticking (by simp))

theorem RoomsStep.of_step [DecidableEq Task] [DecidableEq Room] {threadCount : Nat}
    (hstep : s.step threadCount action = some s') : RoomsStep action s s' := by
  cases action with
  | startGamePhase threads tickTimeMs =>
      simp only [GamePhases.step] at hstep
      split at hstep
      next =>
        cases hstep
        refine .same rfl rfl rfl ?_
        intro t room hticking
        simp only [startGamePhase] at hticking
        split at hticking
        next => exact absurd hticking (not_ticking (by simp) room)
        next => exact hticking
      next => cases hstep
  | stop =>
      cases hstep
      exact .same rfl rfl rfl fun _ _ h => h
  | count task =>
      cases hstep
      exact .same rfl rfl rfl fun _ _ h => h
  | push n =>
      simp only [GamePhases.step] at hstep
      split at hstep
      next => cases hstep
      next =>
        cases hstep
        exact .same rfl rfl rfl fun _ _ h => h
  | act t =>
      simp only [GamePhases.step] at hstep
      split at hstep
      next p step ht => exact roomsStep_act ht hstep
      next => cases hstep
      next => cases hstep
  | process t activeRooms created =>
      simp only [GamePhases.step] at hstep
      split at hstep
      next p task _ =>
        cases hstep
        cases created with
        | none => exact .moved rfl rfl rfl rfl (not_ticking (by simp))
        | some room =>
            simp only [completeRoomInitialization]
            split
            next => exact .moved rfl rfl rfl rfl (not_ticking (by simp))
            next hnew =>
              -- the room is new: a second initialisation would have changed nothing
              exact .created room (Bool.eq_false_iff.mpr hnew) rfl rfl rfl
                (ticking_of_setThread (not_ticking (by simp)))
      next => cases hstep
  | unresolved t =>
      simp only [GamePhases.step] at hstep
      split at hstep
      next =>
        cases hstep
        exact .moved rfl rfl rfl rfl (not_ticking (by simp))
      next => cases hstep
  | quit t =>
      simp only [GamePhases.step] at hstep
      split at hstep
      next => cases hstep
      next =>
        unfold GamePhases.quit at hstep
        split at hstep <;> cases hstep
        all_goals
          refine .moved rfl rfl rfl rfl ?_
          rintro room ⟨_, heq⟩
          cases heq

variable [DecidableEq Task] [DecidableEq Room]

omit [DecidableEq Task] in
theorem RoomsOk.next (h : RoomsOk s) (hstep : RoomsStep action s s') : RoomsOk s' := by
  intro room'
  obtain ⟨hguarded, hunborn⟩ := h room'
  cases hstep with
  | same hprocessing hinitialized _ hthreads =>
      rw [hprocessing, hinitialized]
      refine ⟨hguarded.shrink fun t => hthreads t room', ?_⟩
      intro hnew
      exact ⟨(hunborn hnew).1, fun t hticking => (hunborn hnew).2 t (hthreads t room' hticking)⟩
  | created room hnew hprocessing hinitialized _ hthreads =>
      rw [hprocessing, hinitialized]
      by_cases hroom : room' = room
      · subst hroom
        rw [Function.update_self, Function.update_self]
        refine ⟨guarded_initial fun t hticking => (hunborn hnew).2 t (hthreads t room' hticking),
          ?_⟩
        intro hnot
        cases hnot
      · rw [Function.update_of_ne hroom, Function.update_of_ne hroom]
        refine ⟨hguarded.shrink fun t => hthreads t room', ?_⟩
        intro hnew'
        exact ⟨(hunborn hnew').1,
          fun t hticking => (hunborn hnew').2 t (hthreads t room' hticking)⟩
  | enter t p room _ ht hfree hnext =>
      subst hnext
      show Guarded (Ticking room') (Function.update s.processing room true room')
          (Function.update s.threads t (.inPhase p (.tick room))) ∧
        (s.initialized room' = false → Function.update s.processing room true room' = true ∧
          ∀ t', ¬ Ticking room' (Function.update s.threads t (.inPhase p (.tick room)) t'))
      by_cases hroom : room' = room
      · subst hroom
        rw [hfree] at hguarded
        rw [Function.update_self]
        refine ⟨hguarded.enter, ?_⟩
        intro hnew
        -- a room yet to be initialised is being processed, so nobody enters it
        exact absurd (hfree.symm.trans (hunborn hnew).1) (by decide)
      · rw [Function.update_of_ne hroom]
        have hnot :
          ¬ Ticking room' (GameThread.inPhase p (.tick room) : GameThread Task Room) := by
          rintro ⟨_, heq⟩
          exact hroom (PhaseStep.tick.inj (GameThread.inPhase.inj heq).2).symm
        refine ⟨hguarded.goOn fun hticking => absurd hticking hnot, ?_⟩
        intro hnew
        exact ⟨(hunborn hnew).1, notTicking_update (hunborn hnew).2 hnot⟩
  | done t p room ht hnext =>
      subst hnext
      show Guarded (Ticking room') (Function.update s.processing room false room')
          (Function.update s.threads t (.inPhase p .nextRoom)) ∧
        (s.initialized room' = false → Function.update s.processing room false room' = true ∧
          ∀ t', ¬ Ticking room' (Function.update s.threads t (.inPhase p .nextRoom) t'))
      have hout : ¬ Ticking room' (GameThread.inPhase p .nextRoom : GameThread Task Room) :=
        not_ticking (by simp) room'
      by_cases hroom : room' = room
      · subst hroom
        rw [Function.update_self]
        refine ⟨hguarded.leave ⟨p, ht⟩ hout, ?_⟩
        intro hnew
        exact absurd ⟨p, ht⟩ ((hunborn hnew).2 t)
      · rw [Function.update_of_ne hroom]
        refine ⟨hguarded.goOn fun hticking => absurd hticking hout, ?_⟩
        intro hnew
        exact ⟨(hunborn hnew).1, notTicking_update (hunborn hnew).2 hout⟩

theorem roomsOk_reachable {threadCount : Nat}
    {allowed : GameAction Task Room → GamePhases Task Room → Prop}
    (h : (gamePhaseSystem Task Room threadCount allowed).Reachable s) : RoomsOk s := by
  refine invariant (I := RoomsOk) ?_ ?_ h
  · rintro _ ⟨activeRooms, initialized, rfl⟩ room
    have hnone : ∀ t,
        ¬ Ticking room
        (({ activeRooms, initialized, processing := fun room => !initialized room } :
        GamePhases Task Room).threads t) := by
      rintro t ⟨_, heq⟩
      cases heq
    refine ⟨guarded_initial hnone, ?_⟩
    intro hnew
    have hset : initialized room = false := hnew
    exact ⟨by simp [hset], hnone⟩
  · rintro s s' hs ⟨_, _, hstep⟩
    exact hs.next (.of_step hstep)

theorem tasksOk_reachable {threadCount : Nat}
    {allowed : GameAction Task Room → GamePhases Task Room → Prop}
    (h : (gamePhaseSystem Task Room threadCount allowed).Reachable s) :
    PhasesOk s ∧ TasksOk s := by
  refine invariant (I := fun s => PhasesOk s ∧ TasksOk s) ?_ ?_ h
  · rintro _ ⟨activeRooms, initialized, rfl⟩
    exact ⟨phasesOk_initial .., tasksOk_initial ..⟩
  · rintro s s' ⟨hphases, htasks⟩ ⟨action, _, hstep⟩
    exact ⟨hphases.next hstep, htasks.next hphases hstep⟩

/-- **The tasks of a phase are done** when all are handed out and nobody is in one. -/
theorem TasksOk.lifecycleDone (h : TasksOk s) (hidle : s.Idle p)
    (hout : (s.phases p).lifecycleTaskCount ≤ (s.phases p).nextLifecycleTaskIndex) :
    LifecycleDone s p := by
  refine ⟨h.all_dequeued hidle hout, ?_⟩
  refine List.perm_iff_count.mpr ?_
  rintro ⟨p', t, task⟩
  by_cases hpp : p' = p
  · subst hpp
    have hnot : s.threads t ≠ .inPhase p' (.process task) := by
      intro ht
      refine hidle t _ ht ?_
      rw [ht]
      trivial
    have hunderWay := h.underWay p' t task
    rw [if_neg hnot] at hunderWay
    rw [List.count_filter (by simp), List.count_filter (by simp)]
    omega
  · rw [List.count_eq_zero_of_not_mem, List.count_eq_zero_of_not_mem]
    · simp [hpp]
    · simp [hpp]

/-! ## Stopping -/

/--
A thread that is to stop leaves the wait for the end of the lifecycle stage when no thread of
its phase is in a task, and an earlier wait when another thread of the phase has yet to go
through the tasks, or when they are all handed out.
-/
def Waits (action : GameAction Task Room) (s : GamePhases Task Room) : Prop :=
  ∀ t p, action = .quit t →
    (s.threads t = .inPhase p .awaitComplete → s.Idle p) ∧
    ∀ step, s.threads t = .inPhase p step → step.Before →
      (s.phases p).lifecycleTaskCount ≤ (s.phases p).nextLifecycleTaskIndex ∨
        ∃ t' step', t' ≠ t ∧ s.threads t' = .inPhase p step' ∧ step'.Before

/-- Somebody goes through the tasks of each phase, and nobody goes to the rooms before them. -/
structure StopsOk (s : GamePhases Task Room) : Prop where
  expected : ∀ p < s.phaseCount, (s.phases p).lifecycleTaskCount ≤
    (s.phases p).nextLifecycleTaskIndex ∨
    ∃ t step, s.threads t = .inPhase p step ∧ step.Before
  rooms : ∀ t p step, s.threads t = .inPhase p step → step.InRooms → s.Idle p

omit [DecidableEq Task] [DecidableEq Room] in
theorem StopsOk.start (h : StopsOk s) {threads : Finset Nat} (tickTimeMs : Int)
    (hfree : ∀ t ∈ threads, s.threads t = .available) :
    StopsOk (s.startGamePhase threads tickTimeMs) := by
  have hold : ∀ t p step, step ≠ .prepare →
      ((s.startGamePhase threads tickTimeMs).threads t = .inPhase p step ↔
        s.threads t = .inPhase p step) := by
    intro t p step hstep
    simp only [startGamePhase]
    split
    next hin =>
      rw [hfree t hin, GameThread.inPhase.injEq]
      simp [Ne.symm hstep]
    next => rfl
  have hkept : ∀ t p step, s.threads t = .inPhase p step →
      (s.startGamePhase threads tickTimeMs).threads t = .inPhase p step := by
    intro t p step ht
    simp only [startGamePhase]
    rw [if_neg, ht]
    intro hin
    rw [hfree t hin] at ht
    cases ht
  have hnew : (s.startGamePhase threads tickTimeMs).phases s.phaseCount =
      { threads, tickTimeMs } :=
    Function.update_self ..
  refine ⟨?_, ?_⟩
  · intro p hp
    have hp : p < s.phaseCount + 1 := hp
    by_cases hlast : p = s.phaseCount
    · rw [hlast, hnew]
      exact .inl (le_refl 0)
    · rw [show (s.startGamePhase threads tickTimeMs).phases p = s.phases p
        from Function.update_of_ne hlast ..]
      rcases h.expected p (by omega) with hout | ⟨t, step, ht, hb⟩
      · exact .inl hout
      · exact .inr ⟨t, step, hkept t p step ht, hb⟩
  · intro t p step ht hin t' step' ht' hbusy
    have hrooms : s.threads t = .inPhase p step := by
      refine (hold t p step ?_).mp ht
      rintro rfl
      exact hin
    rw [ht'] at hbusy
    have htask : s.threads t' = .inPhase p step' := by
      refine (hold t' p step' ?_).mp ht'
      rintro rfl
      exact hbusy
    refine h.rooms t p step hrooms hin t' step' htask ?_
    rwa [htask]

omit [DecidableEq Task] [DecidableEq Room] in
/-- A thread moves in its phase. -/
theorem StopsOk.move {t p : Nat} {step step' : PhaseStep Task Room} (h : StopsOk s)
    (hok : PhasesOk s)
    (hok' : PhasesOk s') (hwaits : Waits action s) (ht : s.threads t = .inPhase p step)
    (hmoves : Moves s s' t p (.inPhase p step'))
    (hrooms : step'.InRooms → step.InRooms ∨ step = .awaitComplete ∧
      ((s.phases p).isLifecycleComplete ∨ action = .quit t))
    (hbusy : (GameThread.inPhase p step' : GameThread Task Room).Busy →
      (s.threads t).Busy ∨ step = .fetch ∧
        (s.phases p).nextLifecycleTaskIndex < (s.phases p).lifecycleTaskCount) : StopsOk s' := by
  have hself : s'.threads t = .inPhase p step' := by rw [hmoves.threads, Function.update_self]
  have hother : ∀ t' ≠ t, s'.threads t' = s.threads t' := by
    intro t' hne
    rw [hmoves.threads, Function.update_of_ne hne]
  refine ⟨?_, ?_⟩
  · intro p' hp'
    rw [hmoves.phaseCount] at hp'
    by_cases hpp : p' = p
    · subst hpp
      -- the thread is in the phase still: before its arrival, or with the tasks handed out
      by_cases hb : step'.Before
      · exact .inr ⟨t, step', hself, hb⟩
      · exact .inl (hok'.handedOut hself hb)
    · rw [hmoves.phases p' hpp]
      refine (h.expected p' hp').imp_right ?_
      rintro ⟨t', step₁, ht', hb⟩
      refine ⟨t', step₁, (hother t' ?_).trans ht', hb⟩
      rintro rfl
      rw [ht] at ht'
      exact hpp (GameThread.inPhase.inj ht').1.symm
  · intro t₁ p' step₁ ht₁ hin t₂ step₂ ht₂ hbusy₂
    -- the phase's tasks were handed out, and nobody was in one
    have hidle : s.Idle p' := by
      by_cases hne : t₁ = t
      · subst hne
        obtain ⟨rfl, rfl⟩ := GameThread.inPhase.inj (hself.symm.trans ht₁)
        rcases hrooms hin with hin | ⟨rfl, hcomplete | hquit⟩
        · exact h.rooms t₁ p step ht hin
        · obtain ⟨hp, _⟩ := hok.thread t₁ p _ ht
          exact hok.idle_of_arrived ((hok.phase p hp).complete hcomplete).1
        · exact (hwaits t₁ p hquit).1 ht
      · rw [hother t₁ hne] at ht₁
        exact h.rooms t₁ p' step₁ ht₁ hin
    by_cases hne : t₂ = t
    · subst hne
      obtain ⟨rfl, rfl⟩ := GameThread.inPhase.inj (hself.symm.trans ht₂)
      rw [hself] at hbusy₂
      rcases hbusy hbusy₂ with hbusy | ⟨_, hleft⟩
      · exact hidle t₂ step ht hbusy
      · have harrived : ¬ step₁.Before := by
          cases step₁ with
          | nextRoom | lookUp | enter | tick | leave => exact id
          | _ => exact absurd hin id
        have hne : t₁ ≠ t₂ := by
          rintro rfl
          obtain ⟨_, rfl⟩ := GameThread.inPhase.inj (hself.symm.trans ht₁)
          exact harrived (before_of_busy hself (hself ▸ hbusy₂))
        rw [hother t₁ hne] at ht₁
        have hout := hok.handedOut ht₁ harrived
        omega
    · rw [hother t₂ hne] at ht₂ hbusy₂
      exact hidle t₂ step₂ ht₂ hbusy₂

omit [DecidableEq Task] [DecidableEq Room] in
/-- A thread leaves its phase. -/
theorem StopsOk.out {t : Nat} {thread : GameThread Task Room} (h : StopsOk s)
    (hwaits : Waits action s) (hthread : ∀ p step, thread ≠ .inPhase p step)
    (hleaves : ∀ p step, s.threads t = .inPhase p step → step.InRooms ∨ action = .quit t ∧
      step.Before)
    (hthreads : s'.threads = Function.update s.threads t thread) (hphases : s'.phases = s.phases)
    (hcount : s'.phaseCount = s.phaseCount) : StopsOk s' := by
  have hkept : ∀ t' p step, s'.threads t' = .inPhase p step → s.threads t' = .inPhase p step := by
    intro t' p step ht'
    by_cases hne : t' = t
    · subst hne
      rw [hthreads, Function.update_self] at ht'
      exact absurd ht' (hthread p step)
    · rwa [hthreads, Function.update_of_ne hne] at ht'
  refine ⟨?_, ?_⟩
  · intro p hp
    rw [hcount] at hp
    rw [hphases]
    rcases h.expected p hp with hout | ⟨t', step, ht', hb⟩
    · exact .inl hout
    · by_cases hne : t' = t
      · subst hne
        rcases hleaves p step ht' with hin | ⟨hquit, _⟩
        · cases step with
          | nextRoom | lookUp | enter | tick | leave => exact absurd hb id
          | _ => exact absurd hin id
        · -- somebody else stays
          refine ((hwaits t' p hquit).2 step ht' hb).imp_right ?_
          rintro ⟨t'', step', hne, ht'', hb'⟩
          refine ⟨t'', step', ?_, hb'⟩
          rwa [hthreads, Function.update_of_ne hne]
      · refine .inr ⟨t', step, ?_, hb⟩
        rwa [hthreads, Function.update_of_ne hne]
  · intro t₁ p step₁ ht₁ hin t₂ step₂ ht₂ hbusy
    have ht₂' := hkept t₂ p step₂ ht₂
    refine h.rooms t₁ p step₁ (hkept t₁ p step₁ ht₁) hin t₂ step₂ ht₂' ?_
    rwa [ht₂', ← ht₂]

theorem StopsOk.next {threadCount : Nat} (h : StopsOk s) (hok : PhasesOk s)
    (hwaits : Waits action s) (hstep : s.step threadCount action = some s') : StopsOk s' := by
  cases PhaseChange.of_step hstep with
  | started threads tickTimeMs hfree _ hnext =>
      subst hnext
      exact h.start tickTimeMs hfree
  | moved t p step step' ht hmoves hrooms hbusy =>
      exact h.move hok (hok.next hstep) hwaits ht hmoves hrooms hbusy
  | out t thread hthread hleaves hthreads hphases hcount =>
      exact h.out hwaits hthread hleaves hthreads hphases hcount
  | still hthreads hphases hcount =>
      refine ⟨?_, ?_⟩
      · rw [hthreads, hphases, hcount]
        exact h.expected
      · unfold Idle
        rw [hthreads]
        exact h.rooms

theorem stopsOk_reachable {threadCount : Nat}
    (h : (gamePhaseSystem Task Room threadCount Waits).Reachable s) :
    PhasesOk s ∧ StopsOk s := by
  refine invariant (I := fun s => PhasesOk s ∧ StopsOk s) ?_ ?_ h
  · rintro _ ⟨activeRooms, initialized, rfl⟩
    refine ⟨phasesOk_initial .., ?_, ?_⟩
    · intro p hp
      cases hp
    · intro t p step ht
      cases ht
  · rintro s s' ⟨hphases, hstops⟩ ⟨action, hwaits, hstep⟩
    exact ⟨hphases.next hstep, hstops.next hphases hwaits hstep⟩

/-- **The game phase protocol**, in every run in which no thread that is to stop leaves its phase's
lifecycle stage early: one stage at a time; each task that a phase claims is taken once, by one of
its threads, and is processed, and when none of them has the tasks before it any more all are; the
rooms come after them; and a room is ticked by one thread at a time. -/
theorem gamePhase_protocol {threadCount : Nat}
    (h : (gamePhaseSystem Task Room threadCount Waits).Reachable s) :
    (∀ t t' p p' step step', s.threads t = .inPhase p step → s.threads t' = .inPhase p' step' →
      step.InLifecycle → step'.InLifecycle → p = p') ∧
    (s.accepted = s.dequeued.map (fun entry => entry.2.2) ++ s.lifecycleTasks.taskQueue ∧
      (∀ p t task, (p, t, task) ∈ s.dequeued → t ∈ (s.phases p).threads) ∧
      (∀ entry, s.processed.count entry ≤ s.dequeued.count entry) ∧
      (∀ p, s.dequeuedIn p ≤ (s.phases p).lifecycleTaskCount) ∧
      (∀ t p, s.threads t = .inPhase p .dequeue → s.lifecycleTasks.taskQueue ≠ [] ∨
        s.enqueuing ≠ []) ∧
      ∀ p < s.phaseCount, LifecycleDone s p ∨ ∃ t step, s.threads t = .inPhase p step ∧
      step.Before) ∧
    (∀ t p step, s.threads t = .inPhase p step → step.InRooms → LifecycleDone s p) ∧
    (∀ t t' p p' room, s.threads t = .inPhase p (.tick room) →
      s.threads t' = .inPhase p' (.tick room) → t = t') := by
  obtain ⟨hphases, htasks⟩ := tasksOk_reachable h
  have hstops := (stopsOk_reachable h).2
  refine ⟨?_, ⟨htasks.fifo, htasks.member, ?_, ?_, ?_, ?_⟩, ?_, ?_⟩
  · intro t t' p p' step step' ht ht' hin hin'
    have howns := hphases.owner_of_inLifecycle ht hin
    have howns' := hphases.owner_of_inLifecycle ht' hin'
    exact Option.some.inj (howns.symm.trans howns')
  · rintro ⟨p, t, task⟩
    have hunderWay := htasks.underWay p t task
    omega
  · intro p
    have hhanded := htasks.handedOut p
    omega
  · intro t p ht
    have hholds : t ∈ (s.phases p).holders := (htasks.holder t p).mpr ht
    have hpos := Finset.card_pos.mpr ⟨t, hholds⟩
    have hhanded := htasks.handedOut p
    have hclaimed := htasks.claimed p (hphases.owner_of_inLifecycle ht trivial)
    have haccounted : s.lifecycleTasks.taskCount + s.claimed =
        s.lifecycleTasks.taskQueue.length + s.enqueuing.length :=
      htasks.accounted
    rcases hqueue : s.lifecycleTasks.taskQueue with _ | ⟨task, rest⟩
    · refine Or.inr ?_
      intro hnone
      rw [hqueue, hnone, List.length_nil] at haccounted
      omega
    · exact Or.inl (by simp)
  · intro p hp
    by_cases hbefore : ∃ t step, s.threads t = .inPhase p step ∧ step.Before
    · exact .inr hbefore
    · refine .inl (htasks.lifecycleDone ?_ ((hstops.expected p hp).resolve_right hbefore))
      exact fun t step ht hbusy => hbefore ⟨t, step, ht, before_of_busy ht hbusy⟩
  · intro t p step ht hin
    refine htasks.lifecycleDone (hstops.rooms t p step ht hin) (hphases.handedOut ht ?_)
    cases step with
    | nextRoom | lookUp | enter | tick | leave => exact id
    | _ => exact absurd hin id
  · intro t t' p p' room ht ht'
    exact (roomsOk_reachable h room).1.alone t t' ⟨p, ht⟩ ⟨p', ht'⟩

/-! ## Runs of two threads -/

/-- The room 5 is there from the start. -/
def oneRoom : GamePhases Nat Nat :=
  { activeRooms := [5], initialized := fun room => room == 5, processing := fun room => !(room ==
    5) }

/-- Both threads wait for the task 7 to be handed out when the server stops. -/
def stopWaiting : List (GameAction Nat Nat) :=
  [.count 7, .push 0, .startGamePhase {0, 1} 0, .act 0, .act 0, .act 0, .act 1, .act 0, .stop]

def noQuit : GameAction Nat Nat → GamePhases Nat Nat → Bool
  | .quit _, _ => false
  | _, _ => true

theorem waits_of_noQuit (action : GameAction Nat Nat) (s : GamePhases Nat Nat)
    (h : noQuit action s) :
    Waits action s := by
  intro t p hquit
  subst hquit
  cases h

/-- The second thread goes; the first one has the task to itself, and leaves for the room after it.
-/
theorem gamePhase_stopped : ∃ s :
    GamePhases Nat Nat, s.isRunning = false ∧ s.threads 1 = .stopped ∧
    s.threads 0 = .inPhase 0 (.tick 5) ∧ s.processed = [(0, 0, 7)] ∧ LifecycleDone s 0 := by
  have hstart : (gamePhaseSystem Nat Nat 2 Waits).Reachable oneRoom := .start ⟨_, _, rfl⟩
  have h₁ := hstart.follow waits_of_noQuit (show follow _ _ stopWaiting oneRoom = some _ from rfl)
  have h₂ := h₁.next ⟨.quit 1, fun t p hquit => by
    cases hquit
    refine ⟨nofun, fun step ht _ => .inr ⟨0, .awaitReady, by decide, ?_, trivial⟩⟩
    cases ht
    rfl, rfl⟩
  have h₃ := h₂.follow waits_of_noQuit (show follow _ _
    [.act 0, .act 0, .act 0, .process 0 [5] none, .act 0, .act 0] _ = some _ from rfl)
  have h₄ := h₃.next ⟨.quit 0, fun t p hquit => by
    cases hquit
    refine ⟨fun ht t step ht' hbusy => ?_, fun step ht hbefore => ?_⟩
    · rcases t with _ | _ | t <;> exact hbusy
    · cases ht
      exact absurd hbefore id, rfl⟩
  have h₅ :=
    h₄.follow waits_of_noQuit (show follow _ _ [.act 0, .act 0, .act 0] _ = some _ from rfl)
  exact ⟨_, rfl, rfl, rfl, rfl, (gamePhase_protocol h₅).2.2.1 0 0 (.tick 5) rfl trivial⟩

/-- The server stops while the first thread has the task: the second goes on to the room. -/
def stopActions : List (GameAction Nat Nat) :=
  [.count 7, .push 0, .startGamePhase {0, 1} 0, .act 0, .act 0, .act 0, .act 0, .act 1, .act 0,
    .act 0, .act 0, .act 1, .act 1, .act 1, .stop, .quit 1, .act 1, .act 1, .act 1]

theorem tick_before_lifecycleDone : ¬ ∀ (threadCount : Nat) (s : GamePhases Nat Nat),
    (gamePhaseSystem Nat Nat threadCount fun _ _ => True).Reachable s →
    ∀ t p room, s.threads t = .inPhase p (.tick room) → LifecycleDone s p := by
  intro hall
  have hstart : (gamePhaseSystem Nat Nat 2 fun _ _ => True).Reachable oneRoom := .start ⟨_, _, rfl⟩
  obtain ⟨s, hfollow, htick, hdequeued, hprocessed⟩ : ∃ s,
      follow (fun _ _ => true) (fun a s => GamePhases.step 2 s a)
      stopActions oneRoom = some s ∧ s.threads 1 = .inPhase 0 (.tick 5) ∧
      s.dequeued = [(0, 0, 7)] ∧ s.processed = [] :=
    ⟨_, rfl, rfl, rfl, rfl⟩
  have h := hstart.follow (fun _ _ _ => trivial) hfollow
  have hdone := (hall 2 s h 1 0 5 htick).processed
  rw [hdequeued, hprocessed] at hdone
  simp at hdone

/-- Both threads go: the task that their phase has claimed is nobody's. -/
theorem claimed_left_behind : ∃ s : GamePhases Nat Nat,
    (gamePhaseSystem Nat Nat 2 fun _ _ => True).Reachable s ∧ s.threads 0 = .stopped ∧
      s.threads 1 = .stopped ∧
      (s.phases 0).lifecycleTaskCount = 1 ∧ s.dequeued = [] := by
  have hstart : (gamePhaseSystem Nat Nat 2 fun _ _ => True).Reachable oneRoom := .start ⟨_, _, rfl⟩
  obtain ⟨s, hfollow, hstopped⟩ : ∃ s, follow (fun _ _ => true) (fun a s => GamePhases.step 2 s a)
      (stopWaiting ++ [.quit 0, .quit 1]) oneRoom = some s ∧ s.threads 0 = .stopped ∧
        s.threads 1 = .stopped ∧
        (s.phases 0).lifecycleTaskCount = 1 ∧ s.dequeued = [] := ⟨_, rfl, rfl, rfl, rfl, rfl⟩
  exact ⟨s, hstart.follow (fun _ _ _ => trivial) hfollow, hstopped⟩

end GamePhases

end ProjectTetris

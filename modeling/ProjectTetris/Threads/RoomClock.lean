import ProjectTetris.Threads.GamePhaseProtocol

/-!
# The time of a room

Each phase hands its own tick time to the rooms it ticks, and a phase starts with a time
that is no earlier than those before it. A room's time goes back only when a phase ticks a
room that a later one has got to before: its thread has held on to the room, or to its
index, in the meantime.
-/

namespace ProjectTetris

open Transition System

namespace GamePhases

variable {Task Room : Type} {s s' : GamePhases Task Room} {t p : Nat} {step : PhaseStep Task Room}

/-- The phases that have ticked the room, in order. -/
def roomPhases [DecidableEq Room] (s : GamePhases Task Room) (room : Room) : List Nat :=
  (s.ticks.filter fun entry => entry.2 = room).map fun entry => entry.1

/-- The tick times of the room's calls of `ProcessRoomTick`, in order. -/
def roomTimes [DecidableEq Room] (s : GamePhases Task Room) (room : Room) : List Int :=
  (s.roomPhases room).map fun p => (s.phases p).tickTimeMs

/-- No thread takes a room for its tick that `GetActiveRoom` has given to a thread of a later
phase. -/
def NotOvertaken (action : GameAction Task Room) (s : GamePhases Task Room) : Prop :=
  ∀ t p room, action = .act t → s.threads t = .inPhase p (.enter room) →
    s.processing room = false →
    ∀ p', (p', room) ∈ s.found → p' ≤ p

/-- Phases have times in the order they start in, and threads and what they have found are of
phases that have started. -/
structure TimesOk (s : GamePhases Task Room) : Prop where
  thread : ∀ t p step, s.threads t = .inPhase p step → p < s.phaseCount
  found : ∀ p room, (p, room) ∈ s.found → p < s.phaseCount
  ordered : ∀ p p', p ≤ p' → p' < s.phaseCount → (s.phases p).tickTimeMs ≤ (s.phases p').tickTimeMs

/-- What is ticked, or about to be, has been found. -/
structure FoundOk (s : GamePhases Task Room) : Prop where
  thread : ∀ t p room, s.threads t = .inPhase p (.enter room) → (p, room) ∈ s.found
  ticked : ∀ p room, (p, room) ∈ s.ticks → (p, room) ∈ s.found

/-- What a step does to the rooms that have been found and to the ticks: nothing, or a thread finds
one, or a thread takes the one it has found. -/
inductive RoomFound (action : GameAction Task Room) (s s' : GamePhases Task Room) : Prop
  | same (hfound : s'.found = s.found) (hticks : s'.ticks = s.ticks)
      (hthreads : ∀ t p room, s'.threads t = .inPhase p (.enter room) →
        s.threads t = .inPhase p (.enter room))
  | found (t p index : Nat) (room : Room) (ht : s.threads t = .inPhase p (.lookUp index))
      (hfound : s'.found = s.found ++ [(p, room)]) (hticks : s'.ticks = s.ticks)
      (hthreads : s'.threads = (s.goTo t p (.enter room)).threads)
  | taken (t p : Nat) (room : Room) (haction : action = .act t)
      (ht : s.threads t = .inPhase p (.enter room))
      (hfree : s.processing room = false) (hfound : s'.found = s.found)
      (hticks : s'.ticks = s.ticks ++ [(p, room)])
      (hthreads : ∀ t p room, s'.threads t = .inPhase p (.enter room) →
        s.threads t = .inPhase p (.enter room))

theorem enter_of_setThread {thread : GameThread Task Room}
    (hnot : ∀ p room, thread ≠ .inPhase p (.enter room)) (t' p : Nat) (room : Room)
    (ht' : (s.setThread t thread).threads t' = .inPhase p (.enter room)) :
    s.threads t' = .inPhase p (.enter room) := by
  by_cases hne : t' = t
  · subst hne
    rw [setThread_self] at ht'
    exact absurd ht' (hnot p room)
  · rwa [setThread_ne _ _ hne] at ht'

theorem RoomFound.moved {action : GameAction Task Room} {thread : GameThread Task Room}
    (hfound : s'.found = s.found) (hticks : s'.ticks = s.ticks)
    (hthreads : s'.threads = (s.setThread t thread).threads)
    (hnot : ∀ p room, thread ≠ .inPhase p (.enter room)) : RoomFound action s s' := by
  refine .same hfound hticks ?_
  rw [hthreads]
  exact enter_of_setThread hnot

theorem FoundOk.next (h : FoundOk s) {action : GameAction Task Room}
    (hrooms : RoomFound action s s') :
    FoundOk s' := by
  cases hrooms with
  | same hfound hticks hthreads =>
      refine ⟨?_, ?_⟩
      · intro t p room ht
        rw [hfound]
        exact h.thread t p room (hthreads t p room ht)
      · rw [hfound, hticks]
        exact h.ticked
  | found t p index room _ hfound hticks hthreads =>
      refine ⟨?_, ?_⟩
      · intro t' p' room' ht'
        rw [hthreads, goTo_threads_iff] at ht'
        rw [hfound]
        rcases ht' with ⟨_, rfl, heq⟩ | ⟨_, ht'⟩
        · cases heq
          exact List.mem_append_right _ (List.mem_singleton_self _)
        · exact List.mem_append_left _ (h.thread t' p' room' ht')
      · intro p' room' hin
        rw [hticks] at hin
        rw [hfound]
        exact List.mem_append_left _ (h.ticked p' room' hin)
  | taken t p room _ ht _ hfound hticks hthreads =>
      refine ⟨?_, ?_⟩
      · intro t' p' room' ht'
        rw [hfound]
        exact h.thread t' p' room' (hthreads t' p' room' ht')
      · intro p' room' hin
        rw [hticks, List.mem_append, List.mem_singleton] at hin
        rw [hfound]
        rcases hin with hin | hin
        · exact h.ticked p' room' hin
        · cases hin
          exact h.thread t p room ht

/-- A step that starts no phase keeps them all, and the threads in theirs. -/
theorem TimesOk.keep (h : TimesOk s) (hcount : s'.phaseCount = s.phaseCount)
    (htime : ∀ p, (s'.phases p).tickTimeMs = (s.phases p).tickTimeMs)
    (hthread : ∀ t p step, s'.threads t = .inPhase p step → ∃ step',
      s.threads t = .inPhase p step')
    (hfound : ∀ p room, (p, room) ∈ s'.found → p < s.phaseCount) : TimesOk s' := by
  refine ⟨?_, ?_, ?_⟩
  · intro t p step ht
    obtain ⟨step', ht'⟩ := hthread t p step ht
    rw [hcount]
    exact h.thread t p step' ht'
  · rwa [hcount]
  · intro p p' hle hp'
    rw [hcount] at hp'
    rw [htime, htime]
    exact h.ordered p p' hle hp'

theorem TimesOk.start (h : TimesOk s) {threads : Finset Nat} {tickTimeMs : Int}
    (hlatest : ∀ p < s.phaseCount, (s.phases p).tickTimeMs ≤ tickTimeMs) :
    TimesOk (s.startGamePhase threads tickTimeMs) := by
  have hold : ∀ p < s.phaseCount, (s.startGamePhase threads tickTimeMs).phases p = s.phases p :=
    fun p hp => Function.update_of_ne (Nat.ne_of_lt hp) ..
  have hnew : (s.startGamePhase threads tickTimeMs).phases s.phaseCount =
      { threads, tickTimeMs } :=
    Function.update_self ..
  have hcount : (s.startGamePhase threads tickTimeMs).phaseCount = s.phaseCount + 1 := rfl
  refine ⟨?_, ?_, ?_⟩
  · intro t p step ht
    rw [hcount]
    simp only [startGamePhase] at ht
    split at ht
    next =>
      obtain ⟨rfl, _⟩ := GameThread.inPhase.inj ht
      omega
    next =>
      have hp := h.thread t p step ht
      omega
  · intro p room hin
    have hp := h.found p room hin
    omega
  · intro p p' hle hp'
    rw [hcount] at hp'
    by_cases hlast : p' = s.phaseCount
    · subst hlast
      rw [hnew]
      by_cases hp : p = s.phaseCount
      · rw [hp, hnew]
      · rw [hold p (by omega)]
        exact hlatest p (by omega)
    · rw [hold p (by omega), hold p' (by omega)]
      exact h.ordered p p' hle (by omega)

variable [DecidableEq Room]

theorem roomFound_act (ht : s.threads t = .inPhase p step) (hact : s.act t p step = some s') :
    RoomFound (.act t) s s' := by
  cases step with
  | lookUp index =>
      simp only [GamePhases.act] at hact
      split at hact
      next =>
        cases hact
        exact .moved rfl rfl rfl (by simp)
      next room _ =>
        cases hact
        exact .found t p index room ht rfl rfl rfl
  | enter room =>
      simp only [GamePhases.act] at hact
      split at hact
      next =>
        cases hact
        exact .moved rfl rfl rfl (by simp)
      next hfree =>
        cases hact
        exact .taken t p room rfl ht (Bool.eq_false_iff.mpr hfree) rfl rfl
          (enter_of_setThread (by simp))
  | arrive =>
      cases hact
      refine .moved rfl rfl rfl ?_
      split <;> simp
  | claim | publish | finish | release | nextRoom | tick | leave =>
      cases hact
      exact .moved rfl rfl rfl (by simp)
  | process task => cases hact
  | prepare | lead | awaitReady | fetch | dequeue | awaitComplete =>
      simp only [GamePhases.act] at hact
      split at hact <;> cases hact
      all_goals exact .moved rfl rfl rfl (by simp)

variable [DecidableEq Task]

theorem RoomFound.of_step {threadCount : Nat} {action : GameAction Task Room}
    (hstep : s.step threadCount action = some s') : RoomFound action s s' := by
  cases action with
  | startGamePhase threads tickTimeMs =>
      simp only [GamePhases.step] at hstep
      split at hstep
      next =>
        cases hstep
        refine .same rfl rfl fun t p room ht => ?_
        simp only [startGamePhase] at ht
        split at ht
        next => cases ht
        next => exact ht
      next => cases hstep
  | stop | count =>
      cases hstep
      exact .same rfl rfl fun _ _ _ h => h
  | push n =>
      simp only [GamePhases.step] at hstep
      split at hstep <;> cases hstep
      exact .same rfl rfl fun _ _ _ h => h
  | act t =>
      simp only [GamePhases.step] at hstep
      split at hstep
      next p step ht => exact roomFound_act ht hstep
      next => cases hstep
      next => cases hstep
  | process t activeRooms created =>
      simp only [GamePhases.step] at hstep
      split at hstep
      next =>
        cases hstep
        rw [completeRoomInitialization_eq]
        exact .moved rfl rfl rfl (by simp)
      next => cases hstep
  | unresolved t =>
      simp only [GamePhases.step] at hstep
      split at hstep
      next =>
        cases hstep
        exact .moved rfl rfl rfl (by simp)
      next => cases hstep
  | quit t =>
      simp only [GamePhases.step] at hstep
      split at hstep
      next => cases hstep
      next =>
        unfold GamePhases.quit at hstep
        split at hstep <;> cases hstep
        all_goals exact .moved rfl rfl rfl (by simp)

theorem TimesOk.next (h : TimesOk s) {threadCount : Nat} {action : GameAction Task Room}
    (hstep : s.step threadCount action = some s') : TimesOk s' := by
  have hfound : ∀ p room, (p, room) ∈ s'.found → p < s.phaseCount := by
    intro p room hin
    cases RoomFound.of_step hstep with
    | same hsame | taken _ _ _ _ _ _ hsame => exact h.found p room (hsame ▸ hin)
    | found t p' index room' ht hnew =>
        rw [hnew, List.mem_append, List.mem_singleton] at hin
        rcases hin with hin | hin
        · exact h.found p room hin
        · cases hin
          exact h.thread t p _ ht
  cases PhaseChange.of_step hstep with
  | started threads tickTimeMs _ hlatest hnext =>
      subst hnext
      exact h.start hlatest
  | moved t p step step' ht hmoves =>
      refine h.keep hmoves.phaseCount ?_ ?_ hfound
      · intro p'
        by_cases hpp : p' = p
        · rw [hpp, hmoves.time]
        · rw [hmoves.phases p' hpp]
      · intro t' p' step₁ ht'
        by_cases hne : t' = t
        · subst hne
          rw [hmoves.threads, Function.update_self] at ht'
          obtain ⟨rfl, _⟩ := GameThread.inPhase.inj ht'
          exact ⟨step, ht⟩
        · rw [hmoves.threads, Function.update_of_ne hne] at ht'
          exact ⟨step₁, ht'⟩
  | out t thread hthread _ hthreads hphases hcount =>
      refine h.keep hcount (fun p => by rw [hphases]) ?_ hfound
      intro t' p' step₁ ht'
      by_cases hne : t' = t
      · subst hne
        rw [hthreads, Function.update_self] at ht'
        exact absurd ht' (hthread p' step₁)
      · rw [hthreads, Function.update_of_ne hne] at ht'
        exact ⟨step₁, ht'⟩
  | still hthreads hphases hcount =>
      refine h.keep hcount (fun p => by rw [hphases]) ?_ hfound
      intro t p step ht
      exact ⟨step, hthreads ▸ ht⟩

/-- The phases tick each room in the order they start in. -/
def PhasesInOrder (s : GamePhases Task Room) : Prop := ∀ room, (s.roomPhases room).Pairwise (· ≤ ·)

omit [DecidableEq Task] in
theorem mem_roomPhases {room : Room} : p ∈ s.roomPhases room ↔ (p, room) ∈ s.ticks := by
  unfold roomPhases
  rw [List.mem_map]
  constructor
  · rintro ⟨⟨p', room'⟩, hentry, rfl⟩
    obtain ⟨hin, hroom⟩ := List.mem_filter.mp hentry
    rwa [← of_decide_eq_true hroom]
  · intro hin
    exact ⟨(p, room), List.mem_filter.mpr ⟨hin, decide_eq_true rfl⟩, rfl⟩

theorem PhasesInOrder.next (h : PhasesInOrder s) (hfound : FoundOk s) {threadCount : Nat}
    {action : GameAction Task Room} (hnot : NotOvertaken action s)
    (hstep : s.step threadCount action = some s') :
    PhasesInOrder s' := by
  intro room'
  cases RoomFound.of_step hstep with
  | same _ hticks | found _ _ _ _ _ _ hticks =>
      rw [roomPhases, hticks]
      exact h room'
  | taken t p room haction ht hfree _ hticks =>
      rw [roomPhases, hticks, List.filter_append, List.map_append]
      by_cases hroom : room = room'
      · subst hroom
        rw [List.filter_cons_of_pos (by simp), List.filter_nil]
        refine List.pairwise_append.mpr ⟨h room, List.pairwise_singleton _ _, ?_⟩
        intro p' hp' p'' hp''
        obtain rfl : p'' = p := by simpa using hp''
        exact hnot t p'' room haction ht hfree p' (hfound.ticked p' room (mem_roomPhases.mp hp'))
      · rw [List.filter_cons_of_neg (by simpa using hroom), List.filter_nil, List.map_nil,
          List.append_nil]
        exact h room'

theorem roomClock_reachable {threadCount : Nat}
    (h : (gamePhaseSystem Task Room threadCount NotOvertaken).Reachable s) :
    TimesOk s ∧ FoundOk s ∧ PhasesInOrder s := by
  refine invariant (I := fun s => TimesOk s ∧ FoundOk s ∧ PhasesInOrder s) ?_ ?_ h
  · rintro _ ⟨activeRooms, initialized, rfl⟩
    refine ⟨⟨?_, ?_, ?_⟩, ⟨?_, ?_⟩, fun _ => List.Pairwise.nil⟩
    · intro t p step ht
      cases ht
    · intro p room hin
      cases hin
    · intro p p' _ hp'
      cases hp'
    · intro t p room ht
      cases ht
    · intro p room hin
      cases hin
  · rintro s s' ⟨htimes, hfound, horder⟩ ⟨action, hnot, hstep⟩
    exact ⟨htimes.next hstep, hfound.next (.of_step hstep), horder.next hfound hnot hstep⟩

/-- **The time of a room does not go back**, in every run in which no phase takes a room for its
tick that a later one has got to before. -/
theorem roomTimes_ascending {threadCount : Nat}
    (h : (gamePhaseSystem Task Room threadCount NotOvertaken).Reachable s) (room : Room) :
    (s.roomTimes room).Pairwise (· ≤ ·) := by
  obtain ⟨htimes, hfound, horder⟩ := roomClock_reachable h
  refine List.pairwise_map.mpr ((horder room).imp_of_mem ?_)
  intro p p' _ hp' hle
  exact htimes.ordered p p' hle
    (htimes.found p' room (hfound.ticked p' room (mem_roomPhases.mp hp')))

/-! ## Two runs -/

/-- What thread `t` does with a phase to itself and no tasks, up to where it is about to tick a
room. -/
def toRoom (t : Nat) : List (GameAction Nat Nat) := List.replicate 12 (.act t)

/-- The check of `NotOvertaken`. -/
def notOvertaken : GameAction Nat Nat → GamePhases Nat Nat → Bool
  | .act t, s =>
      match s.threads t with
      | .inPhase p (.enter room) => s.found.all fun entry => entry.2 ≠ room ∨ entry.1 ≤ p
      | _ => true
  | _, _ => true

/-- Two phases in turn tick the room 5. -/
theorem roomTimes_inTurn : ∃ s :
    GamePhases Nat Nat, s.ticks = [(0, 5), (1, 5)] ∧ (s.roomTimes 5).Pairwise (· ≤ ·) := by
  have hstart : (gamePhaseSystem Nat Nat 2 NotOvertaken).Reachable oneRoom := .start ⟨_, _, rfl⟩
  have hcheck : ∀ (a : GameAction Nat Nat) (s : GamePhases Nat Nat), notOvertaken a s →
      NotOvertaken a s := by
    intro a s hpass t p room haction ht _ p' hp'
    subst haction
    simp only [notOvertaken, ht, List.all_eq_true, decide_eq_true_eq] at hpass
    exact (hpass _ hp').resolve_left fun hne => hne rfl
  obtain ⟨s, hfollow, hticks⟩ : ∃ s, follow notOvertaken (fun a s => GamePhases.step 2 s a)
      ([.startGamePhase {0} 0] ++ toRoom 0 ++ [.act 0, .act 0, .startGamePhase {1} 16] ++
        toRoom 1 ++ [.act 1]) oneRoom = some s ∧
        s.ticks = [(0, 5), (1, 5)] := ⟨_, rfl, rfl⟩
  exact ⟨s, hticks, roomTimes_ascending (hstart.follow hcheck hfollow) 5⟩

/-- A thread of the first phase is about to tick the room when the other one, in the next phase,
gets there before it. -/
theorem roomTimes_backwards : ¬ ∀ (threadCount : Nat) (s : GamePhases Nat Nat),
    (gamePhaseSystem Nat Nat threadCount fun _ _ => True).Reachable s →
    ∀ room, (s.roomTimes room).Pairwise (· ≤ ·) := by
  intro hall
  have hstart : (gamePhaseSystem Nat Nat 2 fun _ _ => True).Reachable oneRoom := .start ⟨_, _, rfl⟩
  obtain ⟨s, hfollow, htimes⟩ : ∃ s, follow (fun _ _ => true) (fun a s => GamePhases.step 2 s a)
      ([.startGamePhase {0} 0] ++ toRoom 0 ++ [.startGamePhase {1} 16] ++ toRoom 1 ++
        [.act 1, .act 1, .act 0]) oneRoom = some s ∧
        s.roomTimes 5 = [16, 0] := ⟨_, rfl, rfl⟩
  have hascending := hall 2 s (hstart.follow (fun _ _ _ => trivial) hfollow) 5
  rw [htimes] at hascending
  exact absurd hascending (by decide)

end GamePhases

end ProjectTetris

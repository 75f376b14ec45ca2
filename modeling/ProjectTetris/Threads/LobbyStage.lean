import ProjectTetris.Lib.Barrier
import ProjectTetris.Lib.Tickets
import ProjectTetris.Threads.LobbyContexts

/-!
# The lifecycle stage of a lobby phase

The threads draw the indices of the lifecycle tasks until there are none left, and count
themselves. Whoever goes on to the sessions has found all of them counted, or the server
about to stop; in that case it finds so once more before it would look at a session.
-/

namespace ProjectTetris

open Transition Barrier Tickets

namespace LobbyPhases

variable {n : Nat} {Task : Type} {s s' : LobbyPhases n Task} {t : Fin n} {p : Nat}

variable {threads threads' : Fin n → LobbyThread Task} {contextCount : Nat} {starter : StarterStep}

/-- The index of the lifecycle task a thread has or is about to take. -/
def heldIndex (thread : LobbyThread Task) : Option Nat :=
  match thread.step with
  | .dequeue _ index | .process _ index _ _ => some index
  | _ => none

/-- The position of the task it has. -/
def heldPosition (thread : LobbyThread Task) : Option Nat :=
  match thread.step with
  | .process _ _ position _ => some position
  | _ => none

/-- Has counted itself as completed, and is not about to enter the phase. -/
def Through (thread : LobbyThread Task) : Prop :=
  ¬ thread.step.Before ∧ (thread.phase = .sessionProcess → ¬ thread.step.Idle)

/-- The threads to which `StartLobbyPhase` has not yet come have not arrived. -/
def NotCome (arrived : Finset (Fin n)) : StarterStep → Prop
  | .setState i _ | .setContext i _ | .setPhase i _ => ∀ j : Fin n, i ≤ j → j ∉ arrived
  | .lock _ => arrived = ∅
  | _ => True

/-- The latest phase. -/
structure Stage (c : LobbyPhaseContext n) (threads : Fin n → LobbyThread Task)
    (starter : StarterStep) (serverIsRunning : Bool) : Prop where
  counted : Counted Finset.univ c.arrived c.completedLifecycleThreadCount
  through : ∀ t ∈ c.arrived, Through (threads t)
  notCome : NotCome c.arrived starter
  fetched : c.arrived.Nonempty → c.lifecycleTaskCount ≤ c.nextLifecycleTaskIndex
  pastTasks : ∀ t, (threads t).step.PastTasks → c.lifecycleTaskCount ≤ c.nextLifecycleTaskIndex
  complete : ∀ t p, (threads t).step = .whileSessions p → (threads t).isRunning = true →
    serverIsRunning = true →
    n ≤ c.completedLifecycleThreadCount
  inSession : ∀ t p index, (threads t).step = .session p index →
    n ≤ c.completedLifecycleThreadCount
  indices : Dealt heldIndex threads (min c.nextLifecycleTaskIndex c.lifecycleTaskCount) c.processed
  visited : c.visited = List.range c.nextActiveSessionIndex

/-- The latest phase is in order. -/
def Staged (s : LobbyPhases n Task) : Prop :=
  ∀ p, p + 1 = s.contextCount → Stage (s.contexts p) s.threads s.starter s.serverIsRunning

/-! ### Steps that are not about the stage -/

/-- As far as the stage goes, the thread is where it was. -/
structure Alike (thread thread' : LobbyThread Task) : Prop where
  through : Through thread → Through thread'
  pastTasks : thread'.step.PastTasks → thread.step.PastTasks
  complete : ∀ p, thread'.step = .whileSessions p → thread'.isRunning = true →
    thread.step = .whileSessions p ∧ thread.isRunning = true
  inSession : ∀ p index, thread'.step = .session p index → thread.step = .session p index
  index : heldIndex thread' = heldIndex thread
  position : heldPosition thread' = heldPosition thread

theorem Alike.refl (thread : LobbyThread Task) : Alike thread thread :=
  ⟨id, id, fun _ hstep hrunning => ⟨hstep, hrunning⟩, fun _ _ => id, rfl, rfl⟩

theorem alike_update {thread' : LobbyThread Task} (halike : Alike (threads t) thread')
    (j : Fin n) :
    Alike (threads j) (Function.update threads t thread' j) := by
  by_cases hj : j = t
  · rw [hj, Function.update_self]
    exact halike
  · rw [Function.update_of_ne hj]
    exact .refl _

variable {c : LobbyPhaseContext n} {serverIsRunning : Bool}

theorem Stage.alike (h : Stage c threads starter serverIsRunning)
    (halike : ∀ j, Alike (threads j) (threads' j)) :
    Stage c threads' starter serverIsRunning where
  counted := h.counted
  through := fun t ht => (halike t).through (h.through t ht)
  notCome := h.notCome
  fetched := h.fetched
  pastTasks := fun t hpast => h.pastTasks t ((halike t).pastTasks hpast)
  complete := by
    intro t p hstep hrunning hserver
    obtain ⟨hstep', hrunning'⟩ := (halike t).complete p hstep hrunning
    exact h.complete t p hstep' hrunning' hserver
  inSession := fun t p index hstep => h.inSession t p index ((halike t).inSession p index hstep)
  indices := h.indices.same fun t => (halike t).index
  visited := h.visited

theorem Staged.alike (h : s.Staged) (hcontexts : s'.contexts = s.contexts)
    (hcount : s'.contextCount = s.contextCount) (hstarter : s'.starter = s.starter)
    (hserver : s'.serverIsRunning = s.serverIsRunning)
    (halike : ∀ j, Alike (s.threads j) (s'.threads j)) : s'.Staged := by
  intro p hp
  rw [hcontexts, hstarter, hserver]
  exact (h p (hcount ▸ hp)).alike halike

theorem alike_wake (thread : LobbyThread Task) : Alike thread thread.wake := by
  obtain hsame | ⟨hasleep, hwoken⟩ := thread.wake_eq
  · rw [hsame]
    exact .refl thread
  · rw [hwoken]
    have hidle : thread.step.Idle := by
      rw [hasleep]
      trivial
    refine ⟨fun hthrough => ⟨id, fun hphase => absurd hidle (hthrough.2 hphase)⟩, False.elim,
      nofun, nofun, ?_, ?_⟩
    · rw [heldIndex, heldIndex, hasleep]
    · rw [heldPosition, heldPosition, hasleep]

theorem heldIndex_idle {thread : LobbyThread Task} (hidle : thread.step.Idle) :
    heldIndex thread = none := by
  unfold heldIndex
  cases hstep : thread.step <;> rw [hstep] at hidle <;> first | rfl | exact hidle.elim

theorem heldPosition_idle {thread : LobbyThread Task} (hidle : thread.step.Idle) :
    heldPosition thread = none := by
  unfold heldPosition
  cases hstep : thread.step
  all_goals first | rfl | (rw [hstep] at hidle; exact hidle.elim)

/-- Outside the phases. -/
theorem alike_idle {thread : LobbyThread Task} {step : LobbyStep Task} (hidle : thread.step.Idle)
    (hidle' : step.Idle) :
    Alike thread { thread with step } where
  through := fun hthrough => ⟨hidle'.not_before, fun hphase => absurd hidle (hthrough.2 hphase)⟩
  pastTasks := fun hpast => absurd hpast hidle'.not_pastTasks
  complete := by
    rintro p rfl
    exact hidle'.elim
  inSession := by
    rintro p index rfl
    exact hidle'.elim
  index := (heldIndex_idle
    (show ({ thread with step } : LobbyThread Task).step.Idle from hidle')).trans
    (heldIndex_idle hidle).symm
  position := (heldPosition_idle
    (show ({ thread with step } : LobbyThread Task).step.Idle from hidle')).trans
    (heldPosition_idle hidle).symm

/-- A thread goes where nobody relies on the stage. -/
theorem alike_leaving {thread thread' : LobbyThread Task}
    (hthrough : Through thread → Through thread') (hstep : ¬ thread'.step.PastTasks)
    (hindex : heldIndex thread' = heldIndex thread)
    (hposition : heldPosition thread' = heldPosition thread) : Alike thread thread' where
  through := hthrough
  pastTasks := fun hpast => absurd hpast hstep
  complete := by
    intro p hat
    rw [hat] at hstep
    exact absurd trivial hstep
  inSession := by
    intro p index hat
    rw [hat] at hstep
    exact absurd trivial hstep
  index := hindex
  position := hposition

/-- Steps of `StartLobbyPhase` that say nothing about who has arrived. -/
theorem Staged.setStarter (h : s.Staged)
    (hnotCome : ∀ arrived : Finset (Fin n), NotCome arrived s.starter → NotCome arrived starter) :
    (s.setStarter starter).Staged := by
  intro p hp
  have hstage := h p hp
  exact ⟨hstage.counted, hstage.through, hnotCome _ hstage.notCome, hstage.fetched,
    hstage.pastTasks, hstage.complete, hstage.inSession, hstage.indices, hstage.visited⟩

theorem Staged.setThread {thread' : LobbyThread Task} (h : s.Staged)
    (halike : Alike (s.threads t) thread') :
    (s.setThread t thread').Staged := h.alike rfl rfl rfl rfl (alike_update halike)

theorem Staged.setMutex (h : s.Staged) (lobbyMutex : Option (Option (Fin n))) :
    (s.setMutex lobbyMutex).Staged :=
  h

theorem Staged.notifyAll (h : s.Staged) : s.notifyAll.Staged :=
  h.alike rfl rfl rfl rfl fun j => alike_wake (s.threads j)

/-! ### Steps of the stage -/

/-- A thread goes on in the latest phase, and nobody arrives. -/
theorem Stage.goOn {c' : LobbyPhaseContext n} {thread' : LobbyThread Task}
    (h : Stage c threads starter serverIsRunning)
    (harrived : c'.arrived = c.arrived ∧ c'.completedLifecycleThreadCount =
      c.completedLifecycleThreadCount)
    (hcount : c'.lifecycleTaskCount = c.lifecycleTaskCount)
    (hnext : c.nextLifecycleTaskIndex ≤ c'.nextLifecycleTaskIndex)
    (hthrough : t ∈ c.arrived → Through (threads t) → Through thread')
    (hpast : thread'.step.PastTasks → c.lifecycleTaskCount ≤ c.nextLifecycleTaskIndex)
    (hcomplete : ∀ p, thread'.step = .whileSessions p → thread'.isRunning = true →
      serverIsRunning = true →
      n ≤ c.completedLifecycleThreadCount)
    (hsession : ∀ p index, thread'.step = .session p index → n ≤ c.completedLifecycleThreadCount)
    (hindices : Dealt heldIndex (Function.update threads t thread')
      (min c'.nextLifecycleTaskIndex c.lifecycleTaskCount)
      c'.processed) (hvisited : c'.visited = List.range c'.nextActiveSessionIndex) :
    Stage c' (Function.update threads t thread') starter serverIsRunning where
  counted := by
    rw [harrived.1, harrived.2]
    exact h.counted
  through := by
    rw [harrived.1]
    intro j hj
    by_cases hjt : j = t
    · rw [hjt, Function.update_self]
      exact hthrough (hjt ▸ hj) (hjt ▸ h.through j hj)
    · rw [Function.update_of_ne hjt]
      exact h.through j hj
  notCome := by
    rw [harrived.1]
    exact h.notCome
  fetched := by
    rw [harrived.1, hcount]
    exact fun harrived => Nat.le_trans (h.fetched harrived) hnext
  pastTasks := by
    rw [hcount]
    intro j hj
    refine Nat.le_trans ?_ hnext
    by_cases hjt : j = t
    · rw [hjt, Function.update_self] at hj
      exact hpast hj
    · rw [Function.update_of_ne hjt] at hj
      exact h.pastTasks j hj
  complete := by
    rw [harrived.2]
    intro j p hj
    by_cases hjt : j = t
    · rw [hjt, Function.update_self] at hj ⊢
      exact hcomplete p hj
    · rw [Function.update_of_ne hjt] at hj ⊢
      exact h.complete j p hj
  inSession := by
    rw [harrived.2]
    intro j p index hj
    by_cases hjt : j = t
    · rw [hjt, Function.update_self] at hj
      exact hsession p index hj
    · rw [Function.update_of_ne hjt] at hj
      exact h.inSession j p index hj
  indices := by
    rw [hcount]
    exact hindices
  visited := hvisited

theorem Stage.goOnBefore {c' : LobbyPhaseContext n} {thread' : LobbyThread Task}
    (h : Stage c threads starter serverIsRunning) (hbefore : thread'.step.BeforeSessions)
    (harrived : c'.arrived = c.arrived ∧ c'.completedLifecycleThreadCount =
      c.completedLifecycleThreadCount)
    (hcount : c'.lifecycleTaskCount = c.lifecycleTaskCount)
    (hnext : c.nextLifecycleTaskIndex ≤ c'.nextLifecycleTaskIndex)
    (hthrough : t ∈ c.arrived → Through (threads t) → Through thread')
    (hpast : thread'.step.PastTasks → c.lifecycleTaskCount ≤ c.nextLifecycleTaskIndex)
    (hindices : Dealt heldIndex (Function.update threads t thread')
      (min c'.nextLifecycleTaskIndex c.lifecycleTaskCount)
      c'.processed) (hvisited : c'.visited = List.range c'.nextActiveSessionIndex) :
    Stage c' (Function.update threads t thread') starter serverIsRunning := by
  refine h.goOn harrived hcount hnext hthrough hpast ?_ ?_ hindices hvisited
  · intro p hstep
    rw [hstep] at hbefore
    exact hbefore.elim
  · intro p index hstep
    rw [hstep] at hbefore
    exact hbefore.elim

/-- Whom `StartLobbyPhase` has yet to give something to is in no phase. -/
theorem StarterOk.notCome_insert (hok : StarterOk contextCount threads starter)
    {arrived : Finset (Fin n)} (h : NotCome arrived starter) (hin : (threads t).InPhase) :
    NotCome (insert t arrived) starter := by
  have hbusy : (threads t).state ≠ .available := by
    rw [hin.1]
    exact nofun
  have hstarted : ¬ (threads t).Unstarted := by
    rintro ⟨-, hnone⟩
    cases hnone.symm.trans hin.2
  cases starter with
  | idle | notify | checkAvailable | claim => trivial
  | lock p => exact absurd (hok.2 t) hbusy
  | setState i p =>
      intro j hj hmem
      obtain rfl | hmem := Finset.mem_insert.mp hmem
      · exact hbusy (hok.2 j hj)
      · exact h j hj hmem
  | setContext i p =>
      intro j hj hmem
      obtain rfl | hmem := Finset.mem_insert.mp hmem
      · obtain hlt | heq := Nat.lt_or_eq_of_le hj
        · exact hbusy (hok.2.1 j hlt)
        · exact hstarted (hok.2.2 j heq).2
      · exact h j hj hmem
  | setPhase i p =>
      intro j hj hmem
      obtain rfl | hmem := Finset.mem_insert.mp hmem
      · obtain hlt | heq := Nat.lt_or_eq_of_le hj
        · exact hbusy (hok.2.1 j hlt)
        · exact hstarted (hok.2.2 j heq).2.1
      · exact h j hj hmem

theorem Stage.arrive {thread' : LobbyThread Task} (h : Stage c threads starter serverIsRunning)
    (hnotCome : NotCome (insert t c.arrived) starter) (hstep : (threads t).step = .arrive p)
    (hthread' : thread' = { threads t with step := .await p }) :
    Stage { c with
      completedLifecycleThreadCount := c.completedLifecycleThreadCount + 1
      arrived := insert t c.arrived } (Function.update threads t thread') starter
        serverIsRunning where
  counted := by
    refine h.counted.arrive (Finset.mem_univ t) ?_
    intro harrived
    have hthrough := (h.through t harrived).1
    rw [hstep] at hthrough
    exact hthrough trivial
  through := by
    intro j hj
    by_cases hjt : j = t
    · rw [hjt, Function.update_self, hthread']
      exact ⟨id, fun _ => id⟩
    · rw [Function.update_of_ne hjt]
      exact h.through j (Finset.mem_of_mem_insert_of_ne hj hjt)
  notCome := hnotCome
  fetched := fun _ => h.pastTasks t (by rw [hstep]; trivial)
  pastTasks := by
    intro j hj
    by_cases hjt : j = t
    · exact h.pastTasks t (by rw [hstep]; trivial)
    · rw [Function.update_of_ne hjt] at hj
      exact h.pastTasks j hj
  complete := by
    intro j p' hj
    by_cases hjt : j = t
    · rw [hjt, Function.update_self, hthread'] at hj
      cases hj
    · rw [Function.update_of_ne hjt] at hj ⊢
      exact fun hrunning hserver => Nat.le_succ_of_le (h.complete j p' hj hrunning hserver)
  inSession := by
    intro j p' index hj
    by_cases hjt : j = t
    · rw [hjt, Function.update_self, hthread'] at hj
      cases hj
    · rw [Function.update_of_ne hjt] at hj
      exact Nat.le_succ_of_le (h.inSession j p' index hj)
  indices := h.indices.goOn (by rw [hthread', heldIndex, heldIndex, hstep])
  visited := h.visited

/-- The latest phase is the one the thread is in. -/
theorem staged_of_latest {c' : LobbyPhaseContext n} {thread' : LobbyThread Task}
    (hp : p + 1 = s.contextCount)
    (hstage : Stage c' (Function.update s.threads t thread') s.starter s.serverIsRunning) :
    ((s.setContext p c').setThread t thread').Staged := by
  intro p' hp'
  have heq : p' = p := Nat.succ.inj (hp'.trans hp.symm)
  have hcontext : ((s.setContext p c').setThread t thread').contexts p' = c' := by
    rw [heq]
    exact Function.update_self ..
  rw [hcontext]
  exact hstage

/-- A thread that has its state and its context gets its phase. -/
theorem Staged.setPhase {i : Fin n} (h : s.Staged) (hset : s.starter = .setPhase i p)
    (hidle : (s.threads i).step.Idle) :
    (s.setThread i { s.threads i with phase := .sessionProcess }).Staged := by
  intro p' hp'
  have hstage := h p' hp'
  have hnot := hidle.not_pastTasks
  refine hstage.goOn ⟨rfl, rfl⟩ rfl (Nat.le_refl _) ?_ (fun hpast => absurd hpast hnot) ?_ ?_
    (hstage.indices.goOn rfl) hstage.visited
  · intro harrived
    have hnotCome := hstage.notCome
    rw [hset] at hnotCome
    exact absurd harrived (hnotCome i (Nat.le_refl _))
  · intro p₁ hstep
    rw [show (s.threads i).step = _ from hstep] at hnot
    exact absurd trivial hnot
  · intro p₁ index hstep
    rw [show (s.threads i).step = _ from hstep] at hnot
    exact absurd trivial hnot

theorem staged_next (h : s.Staged) (hok : s.PhasesOk) (hnext : Next s s') : s'.Staged := by
  cases hnext with
  | startBegins | seesProcessing | seesAvailable | allAvailable | startUnlocks =>
      exact h.setStarter fun _ _ => trivial
  | startNotifies => exact h.notifyAll.setStarter fun _ _ => trivial
  | claims hclaim =>
      have hstarter := hok.starter
      rw [hclaim] at hstarter
      have hidle (t : Fin n) : (s.threads t).Unstarted := (hok.threads t).unstarted (hstarter t)
      intro p hp
      -- a new context: nobody has a step in it
      obtain rfl : p = s.contextCount := Nat.succ.inj hp
      have hnot {step : LobbyStep Task} (t : Fin n) (hstep : (s.threads t).step = step) :
        step.Idle :=
        hstep ▸ (hidle t).1
      change Stage (Function.update s.contexts s.contextCount _ s.contextCount) s.threads
        (.lock s.contextCount) s.serverIsRunning
      rw [Function.update_self]
      exact {
        counted := counted_none _
        through := fun t ht => absurd ht (Finset.notMem_empty t)
        notCome := rfl
        fetched := fun harrived => absurd harrived Finset.not_nonempty_empty
        pastTasks := fun t hpast => absurd hpast (hidle t).1.not_pastTasks
        complete := fun t p₁ hstep => (hnot t hstep).elim
        inSession := fun t p₁ index hstep => (hnot t hstep).elim
        indices := by
          rw [Nat.zero_min]
          exact dealt_none fun t => heldIndex_idle (hidle t).1
        visited := rfl }
  | startLocks hlock =>
      refine Staged.setStarter (s := s.setMutex _) h ?_
      intro arrived hnone j _
      rw [setMutex, hlock] at hnone
      rw [show arrived = ∅ from hnone]
      exact Finset.notMem_empty j
  | @setsState i p hset =>
      have halike : Alike (s.threads i) { s.threads i with state := .processing } :=
        ⟨id, id, fun _ => .intro, fun _ _ => id, rfl, rfl⟩
      refine (h.setThread halike).setStarter ?_
      rw [setThread, hset]
      exact fun _ hnotCome => hnotCome
  | @setsContext i p hset =>
      have halike : Alike (s.threads i) { s.threads i with phaseContext := some p } :=
        ⟨id, id, fun _ => .intro, fun _ _ => id, rfl, rfl⟩
      refine (h.setThread halike).setStarter ?_
      rw [setThread, hset]
      exact fun _ hnotCome => hnotCome
  | @setsPhase i p hset =>
      have hstarter := hok.starter
      rw [hset] at hstarter
      refine (h.setPhase hset (hstarter.2.2 i rfl).2.1.1).setStarter ?_
      rw [setThread, hset]
      exact fun _ hnotCome j hj => hnotCome j (Nat.le_of_succ_le hj)
  | goesOn hstep | leaves hstep | waits hstep | waited hstep | spurious hstep | breaks hstep =>
      exact h.setThread (alike_idle (by rw [hstep]; trivial) trivial)
  | locks hstep =>
      refine (h.setMutex _).setThread (alike_idle ?_ trivial)
      obtain hstep | hstep := hstep
      · rw [setMutex, hstep]
        trivial
      · rw [setMutex, hstep]
        trivial
  | sleeps hstep | unlocks hstep =>
      exact (h.setMutex _).setThread (alike_idle (by rw [setMutex, hstep]; trivial) trivial)
  | @enters t hstep hruns =>
      have hphase : (s.threads t).phase = .sessionProcess := (hok.at hstep).2 hruns
      refine h.setThread (alike_leaving ?_ id ?_ ?_)
      · exact fun hthrough => absurd (by rw [hstep]; trivial) (hthrough.2 hphase)
      · simp only [heldIndex, hstep]
      · simp only [heldPosition, hstep]
  | readsContext hstep | crashes hstep =>
      refine h.setThread (alike_leaving ?_ id ?_ ?_)
      · exact fun hthrough => absurd (by rw [hstep]; trivial) hthrough.1
      · simp only [heldIndex, hstep]
      · simp only [heldPosition, hstep]
  | @fetches t p hstep hlt =>
      obtain ⟨-, hp⟩ : (s.threads t).InPhase ∧ p + 1 = s.contextCount := hok.at hstep
      have hstage := h p hp
      refine staged_of_latest hp
        (hstage.goOnBefore trivial ⟨rfl, rfl⟩ rfl (Nat.le_succ _) ?_ False.elim ?_ hstage.visited)
      · exact fun _ hthrough => absurd (by rw [hstep]; trivial) hthrough.1
      · have hdeal := hstage.indices
        -- one more index is out, and this thread holds it
        rw [Nat.min_eq_left (Nat.le_of_lt hlt)] at hdeal
        rw [Nat.min_eq_left (Nat.succ_le_of_lt hlt)]
        exact hdeal.deal (by rw [heldIndex, hstep]) rfl
  | @fetchesNone t p hstep hge =>
      obtain ⟨-, hp⟩ : (s.threads t).InPhase ∧ p + 1 = s.contextCount := hok.at hstep
      have hstage := h p hp
      -- the indices are used up: taking one more changes nothing
      have hcount := Nat.le_of_not_lt hge
      refine staged_of_latest hp
        (hstage.goOnBefore trivial ⟨rfl, rfl⟩ rfl (Nat.le_succ _) ?_ (fun _ => hcount) ?_
        hstage.visited)
      · exact fun _ hthrough => absurd (by rw [hstep]; trivial) hthrough.1
      · have hsame := hstage.indices
        rw [Nat.min_eq_right hcount] at hsame
        rw [Nat.min_eq_right (Nat.le_succ_of_le hcount)]
        exact hsame.goOn (by simp only [heldIndex, hstep])
  | @dequeues t p index task rest hstep =>
      intro p' hp'
      have hstage := h p' hp'
      refine hstage.goOnBefore trivial ⟨rfl, rfl⟩ rfl (Nat.le_refl _) ?_ False.elim ?_
        hstage.visited
      · exact fun _ hthrough => absurd (by rw [hstep]; trivial) hthrough.1
      · exact hstage.indices.goOn (by simp only [heldIndex, hstep])
  | @processes t p index position task hstep =>
      obtain ⟨-, hp⟩ : (s.threads t).InPhase ∧ p + 1 = s.contextCount := hok.at hstep
      have hstage := h p hp
      have hindex : heldIndex (s.threads t) = some index := by
        rw [heldIndex, hstep]
      refine staged_of_latest (s := { s with processed := s.processed ++ [position] }) hp
        (hstage.goOnBefore trivial ⟨rfl, rfl⟩ rfl (Nat.le_refl _) ?_ False.elim
          (hstage.indices.finish hindex rfl) hstage.visited)
      exact fun _ hthrough => absurd (by rw [hstep]; trivial) hthrough.1
  | @arrives t p hstep =>
      obtain ⟨hin, hp⟩ : (s.threads t).InPhase ∧ p + 1 = s.contextCount := hok.at hstep
      have hstage := h p hp
      exact staged_of_latest hp
        (hstage.arrive (hok.starter.notCome_insert hstage.notCome hin) hstep rfl)
  | @awaited t p hstep hend =>
      obtain ⟨-, hp⟩ : (s.threads t).InPhase ∧ p + 1 = s.contextCount := hok.at hstep
      intro p' hp'
      obtain rfl : p' = p := Nat.succ.inj (hp'.trans hp.symm)
      have hstage := h p' hp'
      have hpast := hstage.pastTasks t (by rw [hstep]; trivial)
      refine hstage.goOn ⟨rfl, rfl⟩ rfl (Nat.le_refl _) (fun _ _ => ⟨id, fun _ => id⟩)
        (fun _ => hpast) ?_ ?_ ?_ hstage.visited
      · intro _ _ hself hserver
        -- who has stopped waiting has been stopped, or everybody has arrived
        obtain hstopped | hfull := hend
        · exact absurd ⟨hself, hserver⟩ hstopped
        · exact Nat.le_of_not_lt hfull
      · intro _ _ hsession
        cases hsession
      · exact hstage.indices.goOn (by simp only [heldIndex, hstep])
  | @nextSession t p hstep hruns =>
      obtain ⟨-, hp⟩ : (s.threads t).InPhase ∧ p + 1 = s.contextCount := hok.at hstep
      have hstage := h p hp
      have hall := hstage.complete t p hstep hruns.1 hruns.2
      have hpast := hstage.pastTasks t (by rw [hstep]; trivial)
      refine staged_of_latest hp
        (hstage.goOn ⟨rfl, rfl⟩ rfl (Nat.le_refl _) (fun _ _ => ⟨id, fun _ => id⟩)
        (fun _ => hpast) ?_ (fun _ _ _ => hall) ?_ ?_)
      · intro _ hloop
        cases hloop
      · exact hstage.indices.goOn (by simp only [heldIndex, hstep])
      · rw [hstage.visited, List.range_succ]
  | @sessionDone t p index hstep =>
      intro p' hp'
      have hstage := h p' hp'
      have hall := hstage.inSession t p index hstep
      have hpast := hstage.pastTasks t (by rw [hstep]; trivial)
      refine hstage.goOn ⟨rfl, rfl⟩ rfl (Nat.le_refl _) (fun _ _ => ⟨id, fun _ => id⟩)
        (fun _ => hpast) (fun _ _ _ _ => hall) ?_ ?_ hstage.visited
      · intro _ _ hsession
        cases hsession
      · exact hstage.indices.goOn (by simp only [heldIndex, hstep])
  | sessionsStop hstep | noSession hstep | resetsContext hstep | storesNone hstep =>
      refine h.setThread (alike_leaving (fun _ => ⟨id, fun _ => id⟩) id ?_ ?_)
      · simp only [heldIndex, hstep]
      · simp only [heldPosition, hstep]
  | @storesAvailable t hstep =>
      have hnone : (s.threads t).phase = .none := (hok.at hstep).2
      refine h.setThread (alike_leaving (fun _ => ⟨id, ?_⟩) id ?_ ?_)
      · intro hphase
        cases hnone.symm.trans hphase
      · simp only [heldIndex, hstep]
      · simp only [heldPosition, hstep]
  | stops =>
      intro p hp
      have hstage := h p hp
      refine ⟨hstage.counted, hstage.through, hstage.notCome, hstage.fetched, hstage.pastTasks, ?_,
        hstage.inSession, hstage.indices, hstage.visited⟩
      intro t p₁ _ _ hserver
      cases hserver
  | @closes c t hclosing =>
      -- closing touches neither the contexts nor the steps
      have hclosed :
        ({ s with closing := Function.update s.closing c (some t) } : LobbyPhases n Task).Staged :=
        h
      refine hclosed.setThread ⟨id, id, ?_, fun _ _ => id, rfl, rfl⟩
      intro p _ hrunning
      cases hrunning
  | @closeNotifies c t =>
      have hnotified :
        ({ s with closing := Function.update s.closing c none } : LobbyPhases n Task).Staged := h
      exact hnotified.notifyAll
  | counts | pushes => exact h

end LobbyPhases

end ProjectTetris

import ProjectTetris.Threads.LobbyPhases

/-!
# The contexts of the lobby threads

A phase is handed out only when every thread has told that it is available, and a thread
tells so last of all. So the threads are never in two phases, and the context a thread is
to find is there: it is handed out before the phase is, and nobody takes it away but the
thread itself.
-/

namespace ProjectTetris

open Transition

namespace LobbyStep

variable {Task : Type}

/-- Not in a phase. -/
def Idle : LobbyStep Task → Prop
  | .whileRunning | .lock | .waitCheck | .sleep | .asleep | .relock | .unlock | .checkRunning
  | .stopped => True
  | _ => False

/-- In a phase, and not yet counted as completed. -/
def Before : LobbyStep Task → Prop
  | .readContext | .fetch _ | .dequeue _ _ | .process _ _ _ _ | .arrive _ => True
  | _ => False

/-- There is no lifecycle task left. -/
def PastTasks : LobbyStep Task → Prop
  | .arrive _ | .await _ | .whileSessions _ | .session _ _ => True
  | _ => False

theorem Idle.not_before {step : LobbyStep Task} (h : step.Idle) : ¬ step.Before := by
  cases step <;> first | exact id | exact h.elim

/-- The thread is neither asking for a session nor at one. -/
def BeforeSessions : LobbyStep Task → Prop
  | .whileSessions _ | .session _ _ => False
  | _ => True

theorem Idle.not_pastTasks {step : LobbyStep Task} (h : step.Idle) : ¬ step.PastTasks := by
  cases step <;> first | exact id | exact h.elim

end LobbyStep

namespace LobbyThread

variable {Task : Type}

def InPhase (thread : LobbyThread Task) : Prop :=
  thread.state = .processing ∧ thread.phase = .sessionProcess

/-- Has been given the latest context. -/
def HasContext (contextCount : Nat) (thread : LobbyThread Task) : Prop :=
  ∃ p, thread.phaseContext = some p ∧ p + 1 = contextCount

/-- If it is to enter a phase, it has been given what it needs. -/
def Started (contextCount : Nat) (thread : LobbyThread Task) : Prop :=
  thread.phase = .sessionProcess → thread.state = .processing ∧ thread.HasContext contextCount

/-- What holds of a thread where it is; `runs` is what it reads of the flags. -/
def Ok (contextCount : Nat) (runs : Prop) (thread : LobbyThread Task) : Prop :=
  match thread.step with
  | .whileRunning | .lock | .waitCheck | .sleep | .asleep | .relock | .stopped =>
      thread.Started contextCount
  | .unlock | .checkRunning =>
      thread.Started contextCount ∧ (runs → thread.phase = .sessionProcess)
  | .readContext => thread.InPhase ∧ thread.HasContext contextCount
  | .fetch p | .dequeue p _ | .process p _ _ _ | .arrive p | .await p | .whileSessions p
  | .session p _ =>
      thread.InPhase ∧ p + 1 = contextCount
  | .resetContext | .storeNone => thread.InPhase
  | .storeAvailable => thread.state = .processing ∧ thread.phase = .none
  | .crashed => False

/-- Neither in a phase nor about to enter one. -/
def Unstarted (thread : LobbyThread Task) : Prop := thread.step.Idle ∧ thread.phase = .none

/-- What the other threads and `StartLobbyPhase` rely on when a thread takes a step. -/
structure Keeps (thread thread' : LobbyThread Task) : Prop where
  available : thread.state = .available → thread'.state = .available
  unstarted : thread.Unstarted →
    thread'.Unstarted ∧ thread'.phaseContext = thread.phaseContext ∧ thread'.state = thread.state

theorem phase_eq_none {thread : LobbyThread Task} (h : thread.phase ≠ .sessionProcess) :
    thread.phase = .none := by
  cases hphase : thread.phase with
  | none => rfl
  | sessionProcess => exact absurd hphase h

theorem Ok.unstarted {contextCount : Nat} {runs : Prop} {thread : LobbyThread Task}
    (h : thread.Ok contextCount runs) (hstate : thread.state = .available) : thread.Unstarted := by
  have hnot : ¬ thread.state = .processing := by
    rw [hstate]
    exact nofun
  have hidle : thread.Started contextCount → thread.phase = .none :=
    fun hstarted => phase_eq_none fun hphase => hnot (hstarted hphase).1
  unfold Ok at h
  unfold Unstarted
  cases hstep : thread.step <;> rw [hstep] at h
  case whileRunning | lock | waitCheck | sleep | asleep | relock | stopped =>
    exact ⟨trivial, hidle h⟩
  case unlock | checkRunning => exact ⟨trivial, hidle h.1⟩
  case readContext | fetch | dequeue | process | arrive | await | whileSessions | session =>
    exact absurd h.1.1 hnot
  case resetContext | storeNone | storeAvailable => exact absurd h.1 hnot
  case crashed => exact h.elim

variable {contextCount contextCount' : Nat} {runs runs' : Prop} {thread thread' : LobbyThread Task}

theorem Ok.mono (h : thread.Ok contextCount runs) (hruns : runs' → runs) :
    thread.Ok contextCount runs' := by
  unfold Ok at h ⊢
  cases hstep : thread.step <;> rw [hstep] at h
  case unlock | checkRunning => exact ⟨h.1, fun hr => h.2 (hruns hr)⟩
  all_goals exact h

/-- An unstarted thread may get another state or context. -/
theorem Ok.prepare (h : thread.Ok contextCount runs) (hunstarted : thread.Unstarted)
    (hstep : thread'.step = thread.step) (hphase : thread'.phase = thread.phase) :
    thread'.Ok contextCount' runs := by
  obtain ⟨hidle, hnone⟩ := hunstarted
  have hstarted : thread'.Started contextCount' := by
    intro hsession
    rw [hphase, hnone] at hsession
    cases hsession
  unfold Ok at h ⊢
  rw [hstep]
  cases hat : thread.step <;> rw [hat] at h hidle
  case unlock | checkRunning => exact ⟨hstarted, fun hruns => hphase.trans (h.2 hruns)⟩
  case whileRunning | lock | waitCheck | sleep | asleep | relock | stopped => exact hstarted
  all_goals exact hidle.elim

/-- With its state and its context it gets its phase. -/
theorem Ok.begin (hidle : thread.step.Idle) (hstate : thread.state = .processing)
    (hcontext : thread.HasContext contextCount) :
    ({ thread with phase := .sessionProcess } : LobbyThread Task).Ok contextCount runs := by
  have hstarted :
    ({ thread with phase := .sessionProcess } : LobbyThread Task).Started contextCount :=
    fun _ => ⟨hstate, hcontext⟩
  unfold Ok
  cases hat : thread.step <;> rw [hat] at hidle
  case unlock | checkRunning => exact ⟨hstarted, fun _ => rfl⟩
  case whileRunning | lock | waitCheck | sleep | asleep | relock | stopped => exact hstarted
  all_goals exact hidle.elim

theorem Keeps.refl (thread : LobbyThread Task) : thread.Keeps thread :=
  ⟨id, fun h => ⟨h, rfl, rfl⟩⟩

theorem keeps_idle (thread : LobbyThread Task) {step : LobbyStep Task} (hidle : step.Idle) :
    thread.Keeps { thread with step } := ⟨id, fun h => ⟨⟨hidle, h.2⟩, rfl, rfl⟩⟩

theorem keeps_of_not (hnot : ¬ thread.Unstarted)
    (havailable : thread.state = .available → thread'.state = .available) :
    thread.Keeps thread' := ⟨havailable, fun h => absurd h hnot⟩

theorem wake_eq (thread : LobbyThread Task) :
    thread.wake = thread ∨ thread.step = .asleep ∧
    thread.wake = { thread with step := .relock } := by
  unfold wake
  split
  next hasleep => exact .inr ⟨hasleep, rfl⟩
  next => exact .inl rfl

theorem keeps_wake (thread : LobbyThread Task) : thread.Keeps thread.wake := by
  obtain hsame | ⟨_, hwoken⟩ := thread.wake_eq
  · rw [hsame]
    exact .refl thread
  · rw [hwoken]
    exact keeps_idle thread trivial

theorem Ok.wake (h : thread.Ok contextCount runs) : thread.wake.Ok contextCount runs := by
  obtain hsame | ⟨hasleep, hwoken⟩ := thread.wake_eq
  · rwa [hsame]
  · rw [hwoken]
    unfold Ok at h
    rw [hasleep] at h
    exact h

@[simp] theorem wake_isRunning (thread : LobbyThread Task) :
    thread.wake.isRunning = thread.isRunning := by
  unfold LobbyThread.wake
  split <;> rfl

end LobbyThread

namespace LobbyPhases

variable {n : Nat} {Task : Type} {s s' : LobbyPhases n Task} {t : Fin n} {p : Nat}

/-- What holds of `StartLobbyPhase` where it is. -/
def StarterOk (contextCount : Nat) (threads : Fin n → LobbyThread Task) : StarterStep → Prop
  | .idle | .notify => True
  | .checkAvailable i => ∀ j : Fin n, j < i → (threads j).state = .available
  | .claim => ∀ j, (threads j).state = .available
  | .lock p => p + 1 = contextCount ∧ ∀ j, (threads j).state = .available
  | .setState i p => p + 1 = contextCount ∧ ∀ j : Fin n, i ≤ j → (threads j).state = .available
  | .setContext i p =>
      p + 1 = contextCount ∧ (∀ j : Fin n, i < j → (threads j).state = .available) ∧
      ∀ j : Fin n, i = j → (threads j).state = .processing ∧ (threads j).Unstarted
  | .setPhase i p => p + 1 = contextCount ∧ (∀ j : Fin n, i < j → (threads j).state = .available) ∧
      ∀ j : Fin n, i = j → (threads j).state = .processing ∧ (threads j).Unstarted ∧
      (threads j).phaseContext = some p

structure PhasesOk (s : LobbyPhases n Task) : Prop where
  threads : ∀ t, (s.threads t).Ok s.contextCount (s.Runs t)
  starter : StarterOk s.contextCount s.threads s.starter

/-! ### `StartLobbyPhase` goes on relying on what it has seen -/

variable {threads threads' : Fin n → LobbyThread Task} {contextCount : Nat} {starter : StarterStep}

theorem StarterOk.keeps (h : StarterOk contextCount threads starter)
    (hkeeps : ∀ j, (threads j).Keeps (threads' j)) :
    StarterOk contextCount threads' starter := by
  have hprepared {j : Fin n} (hj : (threads j).state = .processing ∧ (threads j).Unstarted) :
      (threads' j).state = .processing ∧ (threads' j).Unstarted := by
    obtain ⟨hunstarted, -, hstate⟩ := (hkeeps j).unstarted hj.2
    exact ⟨hstate.trans hj.1, hunstarted⟩
  cases starter with
  | idle | notify => trivial
  | checkAvailable i => exact fun j hj => (hkeeps j).available (h j hj)
  | claim => exact fun j => (hkeeps j).available (h j)
  | lock p => exact ⟨h.1, fun j => (hkeeps j).available (h.2 j)⟩
  | setState i p => exact ⟨h.1, fun j hj => (hkeeps j).available (h.2 j hj)⟩
  | setContext i p =>
      exact ⟨h.1, fun j hj => (hkeeps j).available (h.2.1 j hj),
        fun j hj => hprepared (h.2.2 j hj)⟩
  | setPhase i p =>
      refine ⟨h.1, fun j hj => (hkeeps j).available (h.2.1 j hj), ?_⟩
      intro j hj
      obtain ⟨hstate, hunstarted, hcontext⟩ := h.2.2 j hj
      obtain ⟨hstate', hunstarted'⟩ := hprepared ⟨hstate, hunstarted⟩
      exact ⟨hstate', hunstarted', ((hkeeps j).unstarted hunstarted).2.1.trans hcontext⟩

theorem keeps_update {thread' : LobbyThread Task} (hkeeps : (threads t).Keeps thread')
    (j : Fin n) :
    (threads j).Keeps (Function.update threads t thread' j) := by
  by_cases hj : j = t
  · rw [hj, Function.update_self]
    exact hkeeps
  · rw [Function.update_of_ne hj]
    exact .refl _

theorem runs_setThread {thread' : LobbyThread Task}
    (hrunning : thread'.isRunning = true → (s.threads t).isRunning = true) (j : Fin n)
    (hruns : (s.setThread t thread').Runs j) : s.Runs j := by
  obtain ⟨hself, hserver⟩ := hruns
  refine ⟨?_, hserver⟩
  simp only [setThread] at hself
  by_cases hj : j = t
  · rw [hj, Function.update_self] at hself
    exact hj ▸ hrunning hself
  · rwa [Function.update_of_ne hj] at hself

/-- **A thread takes a step.** -/
theorem PhasesOk.setThread {thread' : LobbyThread Task} (h : s.PhasesOk)
    (hok : thread'.Ok s.contextCount (s.Runs t)) (hkeeps : (s.threads t).Keeps thread')
    (hrunning : thread'.isRunning = true → (s.threads t).isRunning = true) :
    (s.setThread t thread').PhasesOk where
  threads := by
    intro j
    have hmono := runs_setThread (s := s) hrunning j
    by_cases hj : j = t
    · subst hj
      have hself : (s.setThread j thread').threads j = thread' := Function.update_self ..
      rw [hself]
      exact hok.mono hmono
    · have hother : (s.setThread t thread').threads j = s.threads j := Function.update_of_ne hj ..
      rw [hother]
      exact (h.threads j).mono hmono
  starter := h.starter.keeps (keeps_update hkeeps)

/-- Nothing of what this is about changes. -/
theorem PhasesOk.same (h : s.PhasesOk) (hthreads : s'.threads = s.threads)
    (hserver : s'.serverIsRunning = s.serverIsRunning) (hcount : s'.contextCount = s.contextCount)
    (hstarter : s'.starter = s.starter) : s'.PhasesOk where
  threads := by
    intro j
    rw [hthreads, hcount]
    refine (h.threads j).mono ?_
    rintro ⟨hself, hrunning⟩
    exact ⟨hthreads ▸ hself, hserver ▸ hrunning⟩
  starter := by
    rw [hthreads, hcount, hstarter]
    exact h.starter

theorem PhasesOk.notifyAll (h : s.PhasesOk) : s.notifyAll.PhasesOk where
  threads := by
    intro j
    refine (h.threads j).wake.mono ?_
    rintro ⟨hself, hserver⟩
    exact ⟨(s.threads j).wake_isRunning ▸ hself, hserver⟩
  starter := h.starter.keeps fun j => (s.threads j).keeps_wake

/-! ### Every step -/

theorem PhasesOk.at (h : s.PhasesOk) {step : LobbyStep Task} (hstep : (s.threads t).step = step) :
    ({ s.threads t with step } : LobbyThread Task).Ok s.contextCount (s.Runs t) := by
  rw [← hstep]
  exact h.threads t

theorem PhasesOk.goTo {step : LobbyStep Task} (h : s.PhasesOk)
    (hok : ({ s.threads t with step } : LobbyThread Task).Ok s.contextCount (s.Runs t))
    (hkeeps : (s.threads t).Keeps { s.threads t with step }) : (s.goTo t step).PhasesOk :=
  h.setThread hok hkeeps id

theorem not_unstarted {step : LobbyStep Task} (hstep : (s.threads t).step = step)
    (hnot : ¬ step.Idle) :
    ¬ (s.threads t).Unstarted := by
  intro hunstarted
  exact hnot (hstep ▸ hunstarted.1)

/-- A thread that is in a phase goes on. -/
theorem PhasesOk.goOn {step step' : LobbyStep Task} (h : s.PhasesOk)
    (hstep : (s.threads t).step = step) (hnot : ¬ step.Idle)
    (hok : ({ s.threads t with step := step' } : LobbyThread Task).Ok s.contextCount (s.Runs t)) :
    (s.goTo t step').PhasesOk :=
  h.goTo hok (LobbyThread.keeps_of_not (not_unstarted hstep hnot) id)

theorem PhasesOk.setContext (h : s.PhasesOk) (p : Nat) (c : LobbyPhaseContext n) :
    (s.setContext p c).PhasesOk :=
  ⟨h.threads, h.starter⟩

theorem PhasesOk.setMutex (h : s.PhasesOk) (lobbyMutex : Option (Option (Fin n))) :
    (s.setMutex lobbyMutex).PhasesOk :=
  ⟨h.threads, h.starter⟩

/-- A step of `StartLobbyPhase` that gives something to the thread it has come to. -/
theorem PhasesOk.give {thread' : LobbyThread Task} {i : Fin n} (h : s.PhasesOk)
    (hok : thread'.Ok s.contextCount (s.Runs i))
    (hrunning : thread'.isRunning = (s.threads i).isRunning)
    (hstarter : StarterOk s.contextCount (Function.update s.threads i thread') starter) :
    ((s.setThread i thread').setStarter starter).PhasesOk where
  threads := by
    intro j
    have hmono : (s.setThread i thread').Runs j → s.Runs j :=
      runs_setThread (fun hself => hrunning ▸ hself) j
    by_cases hj : j = i
    · subst hj
      have hself : ((s.setThread j thread').setStarter starter).threads j = thread' :=
        Function.update_self ..
      rw [hself]
      exact hok.mono hmono
    · have hother : ((s.setThread i thread').setStarter starter).threads j = s.threads j :=
        Function.update_of_ne hj ..
      rw [hother]
      exact (h.threads j).mono hmono
  starter := hstarter

theorem phasesOk_next (h : s.PhasesOk) (hnext : Next s s') : s'.PhasesOk := by
  have hstarter := h.starter
  cases hnext with
  | startBegins => exact ⟨h.threads, fun j hj => absurd hj (Nat.not_lt_zero _)⟩
  | seesProcessing => exact ⟨h.threads, trivial⟩
  | seesAvailable hcheck hstate =>
      rw [hcheck] at hstarter
      refine ⟨h.threads, ?_⟩
      intro j hj
      -- the threads seen before, and the one just seen
      obtain hlt | heq := Nat.lt_succ_iff_lt_or_eq.mp hj
      · exact hstarter j hlt
      · rw [setStarter, Fin.ext heq]
        exact hstate
  | allAvailable hcheck =>
      rw [hcheck] at hstarter
      exact ⟨h.threads, fun j => hstarter j j.isLt⟩
  | claims hclaim =>
      rw [hclaim] at hstarter
      exact ⟨fun j => (h.threads j).prepare ((h.threads j).unstarted (hstarter j)) rfl rfl,
        rfl, hstarter⟩
  | startLocks hlock =>
      rw [hlock] at hstarter
      exact ⟨h.threads, hstarter.1, fun j _ => hstarter.2 j⟩
  | @setsState i p hset =>
      rw [hset] at hstarter
      -- the threads are prepared one field at a time, in the order of their indices
      have hunstarted := (h.threads i).unstarted (hstarter.2 i (Nat.le_refl _))
      refine h.give ((h.threads i).prepare hunstarted rfl rfl) rfl ⟨hstarter.1, ?_, ?_⟩
      · intro j hj
        rw [Function.update_of_ne (Fin.ne_of_gt hj)]
        exact hstarter.2 j (Nat.le_of_lt hj)
      · intro j hj
        rw [← Fin.ext hj, Function.update_self]
        exact ⟨rfl, hunstarted⟩
  | @setsContext i p hset =>
      rw [hset] at hstarter
      obtain ⟨hstate, hunstarted⟩ := hstarter.2.2 i rfl
      refine h.give ((h.threads i).prepare hunstarted rfl rfl) rfl ⟨hstarter.1, ?_, ?_⟩
      · intro j hj
        rw [Function.update_of_ne (Fin.ne_of_gt hj)]
        exact hstarter.2.1 j hj
      · intro j hj
        rw [← Fin.ext hj, Function.update_self]
        exact ⟨hstate, hunstarted, rfl⟩
  | @setsPhase i p hset =>
      rw [hset] at hstarter
      obtain ⟨hstate, hunstarted, hcontext⟩ := hstarter.2.2 i rfl
      refine h.give (LobbyThread.Ok.begin hunstarted.1 hstate ⟨p, hcontext, hstarter.1⟩) rfl
        ⟨hstarter.1, ?_⟩
      intro j hj
      rw [Function.update_of_ne (Fin.ne_of_gt hj)]
      exact hstarter.2.1 j hj
  | startUnlocks => exact ⟨h.threads, trivial⟩
  | startNotifies => exact ⟨h.notifyAll.threads, trivial⟩
  | goesOn hstep | leaves hstep | waits hstep | spurious hstep =>
      have hok := h.at hstep
      exact h.goTo hok (LobbyThread.keeps_idle _ trivial)
  | breaks hstep => exact h.goTo (h.at hstep).1 (LobbyThread.keeps_idle _ trivial)
  | locks hstep =>
      refine (h.setMutex _).goTo ?_ (LobbyThread.keeps_idle _ trivial)
      obtain hstep | hstep := hstep
      · have hok := h.at hstep
        exact hok
      · have hok := h.at hstep
        exact hok
  | sleeps hstep | unlocks hstep =>
      have hok := h.at hstep
      exact (h.setMutex _).goTo hok (LobbyThread.keeps_idle _ trivial)
  | @waited t hstep hawaited =>
      have hok : (s.threads t).Started s.contextCount := h.at hstep
      refine h.goTo ⟨hok, ?_⟩ (LobbyThread.keeps_idle _ trivial)
      intro hruns
      obtain hstopped | hphase := hawaited
      · exact absurd hruns hstopped
      -- it has waited for a phase, and the sessions are the only one
      · cases hsession : (s.threads t).phase with
        | none => exact absurd hsession hphase
        | sessionProcess => rfl
  | @enters t hstep hruns =>
      obtain ⟨hstarted, hsession⟩ : (s.threads t).Started s.contextCount ∧
          (s.Runs t → (s.threads t).phase = .sessionProcess) := h.at hstep
      have hphase := hsession hruns
      refine h.goTo ⟨⟨(hstarted hphase).1, hphase⟩, (hstarted hphase).2⟩ ?_
      refine LobbyThread.keeps_of_not ?_ id
      rintro ⟨-, hnone⟩
      rw [hphase] at hnone
      cases hnone
  | @readsContext t p hstep hcontext =>
      obtain ⟨hin, p', hp', hcount⟩ : (s.threads t).InPhase ∧
        (s.threads t).HasContext s.contextCount := h.at hstep
      rw [hcontext] at hp'
      cases hp'
      exact h.goOn hstep id ⟨hin, hcount⟩
  | @crashes t hstep hcontext =>
      -- a thread in a phase has a context, so it does not crash here
      obtain ⟨-, p', hp', -⟩ : (s.threads t).InPhase ∧ (s.threads t).HasContext s.contextCount :=
        h.at hstep
      rw [hcontext] at hp'
      cases hp'
  | fetches hstep | fetchesNone hstep | arrives hstep | nextSession hstep =>
      have hok := h.at hstep
      exact (h.setContext _ _).goOn hstep id hok
  | awaited hstep | sessionDone hstep =>
      have hok := h.at hstep
      exact h.goOn hstep id hok
  | sessionsStop hstep | noSession hstep =>
      have hok := h.at hstep
      exact h.goOn hstep id hok.1
  | @dequeues t p index task rest hstep =>
      have hok := h.at hstep
      have htaken :
        ({ s with lifecycleTasks := rest, taken := s.taken + 1 } : LobbyPhases n Task).PhasesOk :=
        ⟨h.threads, h.starter⟩
      exact htaken.goOn hstep id hok
  | @processes t p index position task hstep =>
      have hok := h.at hstep
      have hprocessed :
        ({ s with processed := s.processed ++ [position] } : LobbyPhases n Task).PhasesOk :=
        ⟨h.threads, h.starter⟩
      exact (hprocessed.setContext _ _).goOn hstep id hok
  | resetsContext hstep =>
      have hok := h.at hstep
      exact h.setThread hok (LobbyThread.keeps_of_not (not_unstarted hstep id) id) id
  | storesNone hstep =>
      have hok := h.at hstep
      exact h.setThread ⟨hok.1, rfl⟩ (LobbyThread.keeps_of_not (not_unstarted hstep id) id) id
  | @storesAvailable t hstep =>
      have hnone : (s.threads t).phase = .none := (h.at hstep).2
      refine h.setThread ?_ (LobbyThread.keeps_of_not (not_unstarted hstep id) fun _ => rfl) id
      intro hsession
      cases hnone.symm.trans hsession
  | stops =>
      refine ⟨fun j => (h.threads j).mono ?_, hstarter⟩
      rintro ⟨-, hserver⟩
      cases hserver
  | @closes c t hclosing =>
      have hclosed :
        ({ s with closing := Function.update s.closing c (some t) } :
          LobbyPhases n Task).PhasesOk :=
        ⟨h.threads, h.starter⟩
      have hok : ({ s.threads t with isRunning := false } : LobbyThread Task).Ok s.contextCount
          (s.Runs t) := h.threads t
      refine hclosed.setThread hok ⟨id, fun hunstarted => ⟨hunstarted, rfl, rfl⟩⟩ ?_
      intro hrunning
      cases hrunning
  | @closeNotifies c t =>
      have hnotified :
        ({ s with closing := Function.update s.closing c none } : LobbyPhases n Task).PhasesOk :=
        ⟨h.threads, h.starter⟩
      exact hnotified.notifyAll
  | counts | pushes => exact ⟨h.threads, h.starter⟩

end LobbyPhases

end ProjectTetris

import ProjectTetris.Lib.Wakeup
import ProjectTetris.Threads.LobbyContexts

/-!
# No lobby thread sleeps through its phase

A thread looks at what it waits for and falls asleep under `lobby_mutex_`, and what it waits
for is written under it. `StartLobbyPhase` and `Close` notify after they have let go of it,
so that whoever fell asleep too early for the write is there for the notification.
-/

namespace ProjectTetris

open Transition Wakeup

/-- `lobby_mutex_` is held. -/
def LobbyStep.Holds {Task : Type} : LobbyStep Task → Prop
  | .waitCheck | .sleep | .unlock => True
  | _ => False

/-- Has found that what it waits for is not there. -/
def LobbyStep.Falling {Task : Type} : LobbyStep Task → Prop
  | .sleep => True
  | _ => False

def LobbyStep.Asleep {Task : Type} : LobbyStep Task → Prop
  | .asleep => True
  | _ => False

theorem LobbyStep.Falling.holds {Task : Type} :
    ∀ {step : LobbyStep Task}, step.Falling → step.Holds
  | .sleep, _ => trivial

def StarterStep.Holds : StarterStep → Prop
  | .setState _ _ | .setContext _ _ | .setPhase _ _ => True
  | _ => False

/-- Between the first write and the notification. -/
def StarterStep.Owes : StarterStep → Prop
  | .setState _ _ | .setContext _ _ | .setPhase _ _ | .notify => True
  | _ => False

namespace LobbyPhases

variable {n : Nat} {Task : Type} {s s' : LobbyPhases n Task} {t : Fin n}

/-- The mutex, who is falling asleep under it, and who is asleep. -/
structure Heeded (threads : Fin n → LobbyThread Task) (starter : StarterStep)
    (lobbyMutex : Option (Option (Fin n))) (closing : Nat → Option (Fin n)) : Prop where
  threadHolds : ∀ t, (threads t).step.Holds → lobbyMutex = some (some t)
  starterHolds : starter.Holds → lobbyMutex = some none
  falling : ∀ t, (threads t).step.Falling → (threads t).phase = .none ∧
    (threads t).isRunning = true
  started : ∀ t, (threads t).step.Asleep → (threads t).phase ≠ .none → starter.Owes
  closed : ∀ t, Heard (threads t).step.Asleep ((threads t).isRunning = false) (· = some t) closing

section Heeded

variable {threads : Fin n → LobbyThread Task} {starter starter' : StarterStep}
  {lobbyMutex : Option (Option (Fin n))}
  {closing : Nat → Option (Fin n)} {thread' : LobbyThread Task}

private theorem update_threads {P : Fin n → LobbyThread Task → Prop}
    (hothers : ∀ j, j ≠ t → P j (threads j)) (hself : P t thread') (j : Fin n) :
    P j (Function.update threads t thread' j) := by
  by_cases hj : j = t
  · subst hj
    rwa [Function.update_self]
  · rw [Function.update_of_ne hj]
    exact hothers j hj

/-- A thread goes on, without the mutex or with the one it has. -/
theorem Heeded.goOn (h : Heeded threads starter lobbyMutex closing)
    (hholds : thread'.step.Holds → lobbyMutex = some (some t))
    (hfalling : thread'.step.Falling → thread'.phase = .none ∧ thread'.isRunning = true)
    (hawake : ¬ thread'.step.Asleep) :
    Heeded (Function.update threads t thread') starter lobbyMutex closing where
  threadHolds := update_threads (P := fun j thread => thread.step.Holds →
    lobbyMutex = some (some j)) (fun j _ => h.threadHolds j) hholds
  starterHolds := h.starterHolds
  falling := update_threads (P := fun _ thread => thread.step.Falling →
    thread.phase = .none ∧ thread.isRunning = true) (fun j _ => h.falling j) hfalling
  started := update_threads (P := fun _ thread => thread.step.Asleep → thread.phase ≠ .none →
    starter.Owes) (fun j _ => h.started j) fun hasleep => absurd hasleep hawake
  closed := update_threads
    (P := fun j thread => Heard thread.step.Asleep (thread.isRunning = false) (· = some j) closing)
    (fun j _ => h.closed j) (heard_of_not fun hasleep => absurd hasleep hawake)

theorem Heeded.lock (h : Heeded threads starter none closing) (hfalling : ¬ thread'.step.Falling)
    (hawake : ¬ thread'.step.Asleep) :
    Heeded (Function.update threads t thread') starter (some (some t)) closing where
  threadHolds := update_threads (P := fun j thread => thread.step.Holds →
    some (some t) = some (some j)) (fun j _ hholds => nomatch h.threadHolds j hholds) fun _ => rfl
  starterHolds := fun hholds => nomatch h.starterHolds hholds
  falling := update_threads (P := fun _ thread => thread.step.Falling →
    thread.phase = .none ∧ thread.isRunning = true)
    (fun j _ => h.falling j) fun hstep => absurd hstep hfalling
  started := update_threads (P := fun _ thread => thread.step.Asleep → thread.phase ≠ .none →
    starter.Owes) (fun j _ => h.started j) fun hasleep => absurd hasleep hawake
  closed := update_threads
    (P := fun j thread => Heard thread.step.Asleep (thread.isRunning = false) (· = some j) closing)
    (fun j _ => h.closed j) (heard_of_not fun hasleep => absurd hasleep hawake)

/-- The mutex is let go of, by a thread that may have fallen asleep. -/
theorem Heeded.unlock (h : Heeded threads starter lobbyMutex closing)
    (hholds : (threads t).step.Holds) (hout : ¬ thread'.step.Holds)
    (hfalling : ¬ thread'.step.Falling)
    (hasleep : thread'.step.Asleep → thread'.phase = .none ∧ thread'.isRunning = true) :
    Heeded (Function.update threads t thread') starter none closing where
  threadHolds := by
    refine update_threads (P := fun j thread => thread.step.Holds → none = some (some j)) ?_
      fun hin => absurd hin hout
    intro j hj hin
    have howner := (h.threadHolds j hin).symm.trans (h.threadHolds t hholds)
    exact absurd (Option.some.inj (Option.some.inj howner)) hj
  starterHolds := fun hin => nomatch (h.starterHolds hin).symm.trans (h.threadHolds t hholds)
  falling := update_threads (P := fun _ thread => thread.step.Falling →
    thread.phase = .none ∧ thread.isRunning = true)
    (fun j _ => h.falling j) fun hstep => absurd hstep hfalling
  started := update_threads (P := fun _ thread => thread.step.Asleep → thread.phase ≠ .none →
    starter.Owes) (fun j _ => h.started j) fun hsleeps hphase => absurd (hasleep hsleeps).1 hphase
  closed := by
    refine update_threads
      (P := fun j thread => Heard thread.step.Asleep (thread.isRunning = false)
        (· = some j) closing)
      (fun j _ => h.closed j) (heard_of_not ?_)
    intro hsleeps hstopped
    rw [(hasleep hsleeps).2] at hstopped
    cases hstopped

/-- What `StartLobbyPhase` does without touching a thread's phase. -/
theorem Heeded.setStarter {threads' : Fin n → LobbyThread Task}
    (h : Heeded threads starter lobbyMutex closing)
    (hsame : ∀ t, (threads' t).step = (threads t).step ∧ (threads' t).phase = (threads t).phase ∧
      (threads' t).isRunning = (threads t).isRunning)
    (hholds : starter'.Holds → lobbyMutex = some none) (howes : starter.Owes → starter'.Owes) :
    Heeded threads' starter' lobbyMutex closing where
  threadHolds := fun t hin => h.threadHolds t ((hsame t).1 ▸ hin)
  starterHolds := hholds
  falling := by
    intro t hstep
    obtain ⟨hstep', hphase, hrunning⟩ := hsame t
    rw [hphase, hrunning]
    exact h.falling t (hstep' ▸ hstep)
  started := by
    intro t hasleep hphase
    obtain ⟨hstep, hphase', -⟩ := hsame t
    exact howes (h.started t (hstep ▸ hasleep) (hphase' ▸ hphase))
  closed := by
    intro t
    obtain ⟨hstep, -, hrunning⟩ := hsame t
    rw [hstep, hrunning]
    exact h.closed t

theorem heeded_of_same {i : Fin n} (hstep : thread'.step = (threads i).step)
    (hphase : thread'.phase = (threads i).phase)
    (hrunning : thread'.isRunning = (threads i).isRunning) (t : Fin n) :
    (Function.update threads i thread' t).step = (threads t).step ∧
    (Function.update threads i thread' t).phase = (threads t).phase ∧
    (Function.update threads i thread' t).isRunning = (threads t).isRunning := by
  by_cases ht : t = i
  · subst ht
    rw [Function.update_self]
    exact ⟨hstep, hphase, hrunning⟩
  · rw [Function.update_of_ne ht]
    exact ⟨rfl, rfl, rfl⟩

/-- The phase is given while the mutex is held, so not to a thread that is falling asleep. -/
theorem Heeded.setPhase {i : Fin n} (h : Heeded threads starter (some none) closing)
    (howes : starter'.Owes) :
    Heeded (Function.update threads i { threads i with phase := .sessionProcess }) starter'
      (some none) closing where
  threadHolds := update_threads (P := fun j thread => thread.step.Holds →
    some none = some (some j)) (fun j _ => h.threadHolds j) (h.threadHolds i)
  starterHolds := fun _ => rfl
  falling := by
    refine update_threads
      (P := fun _ thread => thread.step.Falling → thread.phase = .none ∧ thread.isRunning = true)
      (fun j _ => h.falling j) ?_
    intro hstep
    cases h.threadHolds i (LobbyStep.Falling.holds hstep)
  started := fun _ _ _ => howes
  closed := update_threads
    (P := fun j thread => Heard thread.step.Asleep (thread.isRunning = false) (· = some j) closing)
    (fun j _ => h.closed j) (h.closed i)

theorem wake_awake (thread : LobbyThread Task) : ¬ thread.wake.step.Asleep := by
  unfold LobbyThread.wake
  split
  next => exact id
  next hawake =>
    intro hasleep
    cases hstep : thread.step with
    | asleep => exact hawake hstep
    | _ =>
        rw [hstep] at hasleep
        exact hasleep

/-- After a `notify_all` nobody sleeps. -/
theorem Heeded.notifyAll {closing' : Nat → Option (Fin n)}
    (h : Heeded threads starter lobbyMutex closing)
    (hholds : starter'.Holds → lobbyMutex = some none) :
    Heeded (fun t => (threads t).wake) starter' lobbyMutex closing' where
  threadHolds := by
    intro t hin
    obtain hsame | ⟨_, hwoken⟩ := (threads t).wake_eq
    · exact h.threadHolds t (hsame ▸ hin)
    · rw [hwoken] at hin
      exact hin.elim
  starterHolds := hholds
  falling := by
    intro t hstep
    obtain hsame | ⟨_, hwoken⟩ := (threads t).wake_eq
    · rw [hsame] at hstep ⊢
      exact h.falling t hstep
    · rw [hwoken] at hstep
      exact hstep.elim
  started := fun t hasleep => absurd hasleep (wake_awake _)
  closed := fun t => heard_of_not fun hasleep => absurd hasleep (wake_awake _)

/-- `Close` clears a flag while nobody has the mutex. -/
theorem Heeded.close {c : Nat} (h : Heeded threads starter none closing)
    (hnone : closing c = none) :
    Heeded (Function.update threads t { threads t with isRunning := false }) starter none
      (Function.update closing c (some t)) where
  threadHolds := update_threads (P := fun j thread => thread.step.Holds → none = some (some j))
    (fun j _ => h.threadHolds j) (h.threadHolds t)
  starterHolds := h.starterHolds
  falling := by
    refine update_threads
      (P := fun _ thread => thread.step.Falling → thread.phase = .none ∧ thread.isRunning = true)
      (fun j _ => h.falling j) ?_
    intro hstep
    cases h.threadHolds t (LobbyStep.Falling.holds hstep)
  started := update_threads (P := fun _ thread => thread.step.Asleep → thread.phase ≠ .none →
    starter.Owes) (fun j _ => h.started j) (h.started t)
  closed := by
    refine update_threads
      (P := fun j thread => Heard thread.step.Asleep (thread.isRunning = false) (· = some j) _) ?_
      (heard_of_owes rfl)
    intro j _
    refine (h.closed j).goOn ?_ id fun _ => id
    intro hother
    rw [hnone] at hother
    cases hother

end Heeded

theorem heeded_next (h : Heeded s.threads s.starter s.lobbyMutex s.closing) (hnext : Next s s') :
    Heeded s'.threads s'.starter s'.lobbyMutex s'.closing := by
  cases hnext with
  | startBegins hstarter | seesProcessing hstarter | seesAvailable hstarter
  | allAvailable hstarter =>
      exact h.setStarter (fun _ => ⟨rfl, rfl, rfl⟩) False.elim (by rw [hstarter]; exact False.elim)
  | claims hstarter =>
      exact h.setStarter (fun _ => ⟨rfl, rfl, rfl⟩) False.elim (by rw [hstarter]; exact False.elim)
  | startLocks hstarter hfree =>
      have hlocked : Heeded s.threads s.starter (some none) s.closing := by
        rw [hfree] at h
        refine ⟨?_, fun _ => rfl, h.falling, h.started, h.closed⟩
        intro t hin
        cases h.threadHolds t hin
      exact hlocked.setStarter (fun _ => ⟨rfl, rfl, rfl⟩) (fun _ => rfl) fun _ => trivial
  | @setsState i p hstarter =>
      have howner : s.lobbyMutex = some none := h.starterHolds (by rw [hstarter]; trivial)
      exact h.setStarter (heeded_of_same rfl rfl rfl) (fun _ => howner) fun _ => trivial
  | @setsContext i p hstarter =>
      have howner : s.lobbyMutex = some none := h.starterHolds (by rw [hstarter]; trivial)
      exact h.setStarter (heeded_of_same rfl rfl rfl) (fun _ => howner) fun _ => trivial
  | @setsPhase i p hstarter =>
      have howner : s.lobbyMutex = some none := h.starterHolds (by rw [hstarter]; trivial)
      simp only [setThread, LobbyPhases.setStarter]
      rw [howner] at h ⊢
      exact h.setPhase trivial
  | startUnlocks hstarter =>
      have howner : s.lobbyMutex = some none := h.starterHolds (by rw [hstarter]; trivial)
      have hunlocked : Heeded s.threads .notify none s.closing := by
        rw [howner] at h
        refine ⟨?_, False.elim, h.falling, fun _ _ _ => trivial, h.closed⟩
        intro t hin
        cases h.threadHolds t hin
      exact hunlocked
  | startNotifies => exact h.notifyAll False.elim
  | goesOn | leaves | spurious | breaks | enters | readsContext | crashes | awaited | sessionDone
  | sessionsStop
  | noSession | resetsContext | storesNone | storesAvailable | fetches | fetchesNone | arrives
  | nextSession | dequeues
  | processes => exact h.goOn False.elim False.elim id
  | @waited t hstep =>
      have howner : s.lobbyMutex = some (some t) := h.threadHolds t (by rw [hstep]; trivial)
      exact h.goOn (fun _ => howner) False.elim id
  | @waits t hstep hawaited =>
      have howner : s.lobbyMutex = some (some t) := h.threadHolds t (by rw [hstep]; trivial)
      unfold Awaited at hawaited
      rw [not_or, not_not, not_not] at hawaited
      exact h.goOn (fun _ => howner) (fun _ => ⟨hawaited.2, hawaited.1.1⟩) id
  | @locks t hstep hfree =>
      rw [hfree] at h
      exact h.lock id id
  | @sleeps t hstep =>
      have hfalling := h.falling t (by rw [hstep]; trivial)
      exact h.unlock (by rw [hstep]; trivial) id id fun _ => hfalling
  | unlocks hstep => exact h.unlock (by rw [hstep]; trivial) id id False.elim
  | stops | counts | pushes => exact h
  | @closes c t hnone hfree =>
      simp only [setThread]
      rw [hfree] at h ⊢
      exact h.close hnone
  | closeNotifies => exact h.notifyAll h.starterHolds

/-- **Whoever has given a sleeping thread a phase, or closed it, is about to wake it.** -/
theorem lobby_sleeper_heard (h : system.Reachable s) (hasleep : (s.threads t).step = .asleep) :
    ((s.threads t).phase ≠ .none → s.starter.Owes) ∧
    ((s.threads t).isRunning = false → ∃ c, s.closing c = some t) := by
  have hheeded : Heeded s.threads s.starter s.lobbyMutex s.closing := by
    refine invariant (I := fun s => Heeded s.threads s.starter s.lobbyMutex s.closing) ?_
      (fun _ _ => heeded_next) h
    rintro s rfl
    exact ⟨fun _ => False.elim, False.elim, fun _ => False.elim, fun _ => False.elim,
      fun _ => heard_of_not False.elim⟩
  have hsleeps : (s.threads t).step.Asleep := by
    rw [hasleep]
    trivial
  exact ⟨hheeded.started t hsleeps, hheeded.closed t hsleeps⟩

/-- The phase is given to a thread that has fallen asleep before. -/
theorem lobby_sleeper_heard_start : ∃ s :
    LobbyPhases 1 Nat, system.Reachable s ∧ (s.threads 0).step = .asleep ∧
    (s.threads 0).phase ≠ .none ∧ s.starter.Owes := by
  have h : system.Reachable (start : LobbyPhases 1 Nat) := .start rfl
  have h := h.next (Next.goesOn _ (t := 0) rfl ⟨rfl, rfl⟩)
  have h := h.next (Next.locks _ (t := 0) (.inl rfl) rfl)
  have h := h.next (Next.waits _ (t := 0) rfl
    fun hawaited => hawaited.elim (fun hruns => hruns ⟨rfl, rfl⟩) fun hphase => hphase rfl)
  have h := h.next (Next.sleeps _ (t := 0) rfl)
  have h := h.next (Next.startBegins _ rfl rfl)
  have h := h.next (Next.seesAvailable _ (i := 0) rfl rfl)
  have h := h.next (Next.allAvailable _ rfl)
  have h := h.next (Next.claims _ rfl)
  have h := h.next (Next.startLocks _ rfl rfl)
  have h := h.next (Next.setsState _ (i := 0) rfl)
  have h := h.next (Next.setsContext _ (i := 0) rfl)
  have h := h.next (Next.setsPhase _ (i := 0) rfl)
  exact ⟨_, h, rfl, nofun, (lobby_sleeper_heard (t := 0) h rfl).1 nofun⟩

end LobbyPhases

end ProjectTetris

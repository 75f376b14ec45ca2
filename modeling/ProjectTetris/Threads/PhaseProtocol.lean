import ProjectTetris.Lib.Barrier
import ProjectTetris.Lib.Guard
import ProjectTetris.Threads.GamePhases

/-!
# The protocol of the game phases

What a thread relies on is said for each of its steps. A phase has its lifecycle stage as
long as `is_lifecycle_processing_` is set for it: the leader sets the flag, and the last
thread to arrive, when nobody is left in the stage, clears it.
-/

namespace ProjectTetris

open Transition Barrier Guard

namespace PhaseStep

variable {Task Room : Type}

/-- Not yet counted as completed. -/
def Before : PhaseStep Task Room → Prop
  | .prepare | .lead | .claim | .publish | .awaitReady | .fetch | .dequeue | .process _
  | .arrive => True
  | _ => False

/-- Only the thread that has set `is_lifecycle_preparing` gets here. -/
def Leading : PhaseStep Task Room → Prop
  | .lead | .claim | .publish => True
  | _ => False

/-- Only the last thread to arrive gets here. -/
def Finishing : PhaseStep Task Room → Prop
  | .finish | .release => True
  | _ => False

/-- The steps of the lifecycle stage. -/
def InLifecycle : PhaseStep Task Room → Prop
  | .claim | .publish | .fetch | .dequeue | .process _ | .arrive | .finish | .release => True
  | _ => False

/-- The steps among the rooms. -/
def InRooms : PhaseStep Task Room → Prop
  | .nextRoom | .lookUp _ | .enter _ | .tick _ | .leave => True
  | _ => False

/-- What the thread relies on; `owns`: the flag is set for its phase. -/
def Ok (c : GamePhaseContext) (owns : Prop) : PhaseStep Task Room → Prop
  | .lead => c.isLifecyclePreparing ∧ c.isLifecycleReady = false ∧ c.lifecycleTaskCount = 0
  | .claim => c.isLifecyclePreparing ∧ c.isLifecycleReady = false ∧ c.lifecycleTaskCount = 0 ∧ owns
  | .publish => c.isLifecyclePreparing ∧ c.isLifecycleReady = false ∧ owns
  | .fetch | .dequeue | .process _ => c.isLifecycleReady
  | .arrive => c.isLifecycleReady ∧ c.lifecycleTaskCount ≤ c.nextLifecycleTaskIndex
  | .finish => c.arrived = c.threads ∧ owns
  | .release => c.isLifecycleComplete ∧ owns
  | .awaitComplete | .nextRoom | .lookUp _ | .enter _ | .tick _ | .leave => c.isLifecycleReady
  | .prepare | .awaitReady => True

end PhaseStep

/-- With a lifecycle task, or with the right to take one. -/
def GameThread.Busy {Task Room : Type} : GameThread Task Room → Prop
  | .inPhase _ .dequeue | .inPhase _ (.process _) => True
  | _ => False

/-- A phase by itself. -/
structure GamePhaseContext.Ok (c : GamePhaseContext) : Prop where
  counted : Counted c.threads c.arrived c.completedLifecycleThreadCount
  unprepared : c.isLifecyclePreparing = false → c.isLifecycleReady = false ∧
    c.lifecycleTaskCount = 0
  unready : c.isLifecycleReady = false →
    c.nextLifecycleTaskIndex = 0 ∧ c.arrived = ∅ ∧ c.isLifecycleComplete = false
  handedOut : c.arrived.Nonempty → c.lifecycleTaskCount ≤ c.nextLifecycleTaskIndex
  complete : c.isLifecycleComplete → c.arrived = c.threads ∧
    c.lifecycleTaskCount ≤ c.nextLifecycleTaskIndex

/-- What a step of thread `t` may do to its phase, as the other threads see it. -/
structure GamePhaseContext.Later (t : Nat) (leading : Prop) (c c' : GamePhaseContext) : Prop where
  threads : c'.threads = c.threads
  arrived : ∀ t' ≠ t, (t' ∈ c'.arrived ↔ t' ∈ c.arrived)
  preparing : c.isLifecyclePreparing → c'.isLifecyclePreparing
  prepared : leading ∨
    (c'.isLifecycleReady = c.isLifecycleReady ∧ c'.lifecycleTaskCount = c.lifecycleTaskCount)
  ready : c.isLifecycleReady → c'.isLifecycleReady
  handedOut : c.isLifecycleReady → c.lifecycleTaskCount ≤ c.nextLifecycleTaskIndex →
    c'.lifecycleTaskCount ≤ c'.nextLifecycleTaskIndex
  finished : c.arrived = c.threads → c'.arrived = c'.threads
  complete : c.isLifecycleComplete → c'.isLifecycleComplete

theorem GamePhaseContext.Ok.ready_of_complete {c : GamePhaseContext} (h : c.Ok)
    (hcomplete : c.isLifecycleComplete) :
    c.isLifecycleReady := by
  by_contra hunready
  obtain ⟨_, _, hincomplete⟩ := h.unready (Bool.eq_false_iff.mpr hunready)
  exact absurd (hincomplete.symm.trans hcomplete) (by decide)

theorem GamePhaseContext.Later.refl (t : Nat) (leading : Prop) (c : GamePhaseContext) :
    c.Later t leading c :=
  ⟨rfl, fun _ _ => Iff.rfl, id, Or.inr ⟨rfl, rfl⟩, id, fun _ h => h, id, id⟩

section Steps

variable {Task Room : Type} {step : PhaseStep Task Room} {c c' : GamePhaseContext}
  {owns owns' leading : Prop} {t : Nat}

theorem PhaseStep.Ok.owner (h : step.Ok c owns) (hkeep : owns → owns') : step.Ok c owns' := by
  cases step with
  | claim => exact ⟨h.1, h.2.1, h.2.2.1, hkeep h.2.2.2⟩
  | publish => exact ⟨h.1, h.2.1, hkeep h.2.2⟩
  | finish => exact ⟨h.1, hkeep h.2⟩
  | release => exact ⟨h.1, hkeep h.2⟩
  | _ => exact h

theorem PhaseStep.Ok.later (h : step.Ok c owns) (hlater : c.Later t leading c')
    (hnot : leading → ¬ step.Leading) :
    step.Ok c' owns := by
  have hsame : step.Leading → c'.isLifecycleReady = c.isLifecycleReady ∧
      c'.lifecycleTaskCount = c.lifecycleTaskCount := by
    intro hleading
    rcases hlater.prepared with hl | hsame
    · exact absurd hleading (hnot hl)
    · exact hsame
  cases step with
  | lead =>
      obtain ⟨hready, hcount⟩ := hsame trivial
      exact ⟨hlater.preparing h.1, hready.trans h.2.1, hcount.trans h.2.2⟩
  | claim =>
      obtain ⟨hready, hcount⟩ := hsame trivial
      exact ⟨hlater.preparing h.1, hready.trans h.2.1, hcount.trans h.2.2.1, h.2.2.2⟩
  | publish =>
      obtain ⟨hready, _⟩ := hsame trivial
      exact ⟨hlater.preparing h.1, hready.trans h.2.1, h.2.2⟩
  | fetch | dequeue | process => exact hlater.ready h
  | arrive => exact ⟨hlater.ready h.1, hlater.handedOut h.1 h.2⟩
  | finish => exact ⟨hlater.finished h.1, h.2⟩
  | release => exact ⟨hlater.complete h.1, h.2⟩
  | awaitComplete | nextRoom | lookUp | enter | tick | leave => exact hlater.ready h
  | prepare | awaitReady => trivial

end Steps

namespace GamePhases

variable {Task Room : Type}

/-- The threads and their phases. -/
structure PhasesOk (s : GamePhases Task Room) : Prop where
  thread : ∀ t p step, s.threads t = .inPhase p step → p < s.phaseCount ∧
    t ∈ (s.phases p).threads ∧
    (step.Before ↔ t ∉ (s.phases p).arrived) ∧ step.Ok (s.phases p) (s.processingPhase = some p)
  phase : ∀ p < s.phaseCount, (s.phases p).Ok
  owner : ∀ p < s.phaseCount, (s.phases p).isLifecycleReady →
    (s.phases p).arrived ≠ (s.phases p).threads →
    s.processingPhase = some p
  owned : ∀ p, s.processingPhase = some p → p < s.phaseCount
  leader : ∀ t t' p step step', s.threads t = .inPhase p step → s.threads t' = .inPhase p step' →
    step.Leading → step'.Leading → t = t'
  finisher : ∀ t t' p step step', s.threads t = .inPhase p step → s.threads t' = .inPhase p step' →
    step.Finishing → step'.Finishing → t = t'

variable {s : GamePhases Task Room} {t p : Nat} {step step' : PhaseStep Task Room}
  {c : GamePhaseContext}

@[simp] theorem setThread_self (s : GamePhases Task Room) (t : Nat)
    (thread : GameThread Task Room) :
    (s.setThread t thread).threads t = thread := Function.update_self ..

theorem setThread_ne (s : GamePhases Task Room) {t t' : Nat} (thread : GameThread Task Room)
    (h : t' ≠ t) :
    (s.setThread t thread).threads t' = s.threads t' := Function.update_of_ne h ..

@[simp] theorem setPhase_self (s : GamePhases Task Room) (p : Nat) (c : GamePhaseContext) :
    (s.setPhase p c).phases p = c := Function.update_self ..

theorem setPhase_ne (s : GamePhases Task Room) {p p' : Nat} (c : GamePhaseContext) (h : p' ≠ p) :
    (s.setPhase p c).phases p' = s.phases p' := Function.update_of_ne h ..

theorem setPhase_eq_self (s : GamePhases Task Room) (p : Nat) : s.setPhase p (s.phases p) = s := by
  unfold setPhase
  rw [Function.update_eq_self]

/-- **One step of a thread in its phase**: what it changes the other threads can stand, and what
the thread relies on next is there. -/
theorem PhasesOk.move (h : PhasesOk s) (ht : s.threads t = .inPhase p step)
    (hlater : (s.phases p).Later t step.Leading c) (hc : c.Ok)
    (howner : c.isLifecycleReady → c.arrived ≠ c.threads → s.processingPhase = some p)
    (hbefore : step'.Before ↔ t ∉ c.arrived) (hok : step'.Ok c (s.processingPhase = some p))
    (hleader : step'.Leading → step.Leading ∨ (s.phases p).isLifecyclePreparing = false)
    (hfinisher : step'.Finishing → step.Finishing ∨ (s.phases p).arrived ≠ (s.phases p).threads) :
    PhasesOk ((s.setPhase p c).goTo t p step') := by
  obtain ⟨hp, hmem, _, _⟩ := h.thread t p step ht
  have hself : ((s.setPhase p c).goTo t p step').threads t = .inPhase p step' := setThread_self ..
  have hother : ∀ t' ≠ t, ((s.setPhase p c).goTo t p step').threads t' = s.threads t' :=
    fun t' h => setThread_ne _ _ h
  have hphase : ∀ p' ≠ p, ((s.setPhase p c).goTo t p step').phases p' = s.phases p' :=
    fun p' h => setPhase_ne _ _ h
  have hhere : ((s.setPhase p c).goTo t p step').phases p = c := setPhase_self ..
  -- another thread of the phase that leads, or finishes, is not compatible with this one doing so
  have hlead : ∀ t' ≠ t, ∀ step₁, s.threads t' = .inPhase p step₁ → step'.Leading →
      ¬ step₁.Leading := by
    intro t' hne step₁ ht' hl hl'
    rcases hleader hl with hl | hfree
    · exact hne (h.leader t' t p step₁ step ht' ht hl' hl)
    · have hok' := (h.thread t' p step₁ ht').2.2.2
      cases step₁ with
      | lead => exact absurd (hfree.symm.trans hok'.1) (by decide)
      | claim => exact absurd (hfree.symm.trans hok'.1) (by decide)
      | publish => exact absurd (hfree.symm.trans hok'.1) (by decide)
      | _ => exact hl'
  have hfinish : ∀ t' ≠ t, ∀ step₁, s.threads t' = .inPhase p step₁ → step'.Finishing →
      ¬ step₁.Finishing := by
    intro t' hne step₁ ht' hf hf'
    rcases hfinisher hf with hf | hmissing
    · exact hne (h.finisher t' t p step₁ step ht' ht hf' hf)
    · have hok' := (h.thread t' p step₁ ht').2.2.2
      cases step₁ with
      | finish => exact hmissing hok'.1
      | release => exact hmissing ((h.phase p hp).complete hok'.1).1
      | _ => exact hf'
  refine ⟨?_, ?_, ?_, h.owned, ?_, ?_⟩
  · intro t' p' step₁ ht'
    by_cases hne : t' = t
    · subst hne
      obtain ⟨rfl, rfl⟩ := GameThread.inPhase.inj (hself.symm.trans ht')
      rw [hhere]
      exact ⟨hp, hlater.threads ▸ hmem, hbefore, hok⟩
    · rw [hother t' hne] at ht'
      obtain ⟨hp', hmem', hbefore', hok'⟩ := h.thread t' p' step₁ ht'
      by_cases hpp : p' = p
      · subst hpp
        rw [hhere]
        refine ⟨hp', hlater.threads ▸ hmem',
          hbefore'.trans (not_congr (hlater.arrived t' hne).symm), ?_⟩
        exact hok'.later hlater fun hl hl' => hne (h.leader t' t p' step₁ step ht' ht hl' hl)
      · rw [hphase p' hpp]
        exact ⟨hp', hmem', hbefore', hok'⟩
  · intro p' hp'
    by_cases hpp : p' = p
    · subst hpp
      rw [hhere]
      exact hc
    · rw [hphase p' hpp]
      exact h.phase p' hp'
  · intro p' hp'
    by_cases hpp : p' = p
    · subst hpp
      rw [hhere]
      exact howner
    · rw [hphase p' hpp]
      exact h.owner p' hp'
  · intro t₁ t₂ p' step₁ step₂ h₁ h₂ hl₁ hl₂
    by_cases hne₁ : t₁ = t <;> by_cases hne₂ : t₂ = t
    · rw [hne₁, hne₂]
    · subst hne₁
      obtain ⟨rfl, rfl⟩ := GameThread.inPhase.inj (hself.symm.trans h₁)
      rw [hother t₂ hne₂] at h₂
      exact absurd hl₂ (hlead t₂ hne₂ step₂ h₂ hl₁)
    · subst hne₂
      obtain ⟨rfl, rfl⟩ := GameThread.inPhase.inj (hself.symm.trans h₂)
      rw [hother t₁ hne₁] at h₁
      exact absurd hl₁ (hlead t₁ hne₁ step₁ h₁ hl₂)
    · rw [hother t₁ hne₁] at h₁
      rw [hother t₂ hne₂] at h₂
      exact h.leader t₁ t₂ p' step₁ step₂ h₁ h₂ hl₁ hl₂
  · intro t₁ t₂ p' step₁ step₂ h₁ h₂ hf₁ hf₂
    by_cases hne₁ : t₁ = t <;> by_cases hne₂ : t₂ = t
    · rw [hne₁, hne₂]
    · subst hne₁
      obtain ⟨rfl, rfl⟩ := GameThread.inPhase.inj (hself.symm.trans h₁)
      rw [hother t₂ hne₂] at h₂
      exact absurd hf₂ (hfinish t₂ hne₂ step₂ h₂ hf₁)
    · subst hne₂
      obtain ⟨rfl, rfl⟩ := GameThread.inPhase.inj (hself.symm.trans h₂)
      rw [hother t₁ hne₁] at h₁
      exact absurd hf₁ (hfinish t₁ hne₁ step₁ h₁ hf₂)
    · rw [hother t₁ hne₁] at h₁
      rw [hother t₂ hne₂] at h₂
      exact h.finisher t₁ t₂ p' step₁ step₂ h₁ h₂ hf₁ hf₂

/-- A step that changes nothing a phase is about. -/
theorem PhasesOk.goOn (h : PhasesOk s) (ht : s.threads t = .inPhase p step)
    (hbefore : step'.Before ↔ t ∉ (s.phases p).arrived)
    (hok : step'.Ok (s.phases p) (s.processingPhase = some p))
    (hleader : step'.Leading → step.Leading) (hfinisher : step'.Finishing → step.Finishing) :
    PhasesOk (s.goTo t p step') := by
  have hp := (h.thread t p step ht).1
  have hmove := h.move ht (.refl ..) (h.phase p hp) (h.owner p hp) hbefore hok
    (fun hl => Or.inl (hleader hl)) (fun hf => Or.inl (hfinisher hf))
  rwa [setPhase_eq_self] at hmove

/-- The steps that rely on the flag. -/
theorem stepOk_or_owner {owns owns' : Prop} (h : step.Ok c owns) :
    step.Ok c owns' ∨ owns ∧ (step.Before ∧ step.Leading ∨ step.Finishing) := by
  cases step with
  | claim => exact Or.inr ⟨h.2.2.2, Or.inl ⟨trivial, trivial⟩⟩
  | publish => exact Or.inr ⟨h.2.2, Or.inl ⟨trivial, trivial⟩⟩
  | finish => exact Or.inr ⟨h.2, Or.inr trivial⟩
  | release => exact Or.inr ⟨h.2, Or.inr trivial⟩
  | _ => exact Or.inl h

theorem PhasesOk.of_same {s' : GamePhases Task Room} (h : PhasesOk s)
    (hthreads : s'.threads = s.threads) (hphases : s'.phases = s.phases)
    (hcount : s'.phaseCount = s.phaseCount) (howner : s'.processingPhase = s.processingPhase) :
    PhasesOk s' := by
  obtain ⟨h₁, h₂, h₃, h₄, h₅, h₆⟩ := h
  refine ⟨?_, ?_, ?_, ?_, ?_, ?_⟩
  · rwa [hthreads, hphases, hcount, howner]
  · rwa [hphases, hcount]
  · rwa [hphases, hcount, howner]
  · rwa [hcount, howner]
  · rwa [hthreads]
  · rwa [hthreads]

/-- The leader gets the flag. -/
theorem PhasesOk.acquire (h : PhasesOk s) (ht : s.threads t = .inPhase p .lead)
    (hfree : s.processingPhase = none) :
    PhasesOk ({ s with processingPhase := some p }.goTo t p .claim) := by
  have hset : PhasesOk { s with processingPhase := some p } := by
    refine ⟨?_, h.phase, ?_, ?_, h.leader, h.finisher⟩
    · intro t' p' step ht'
      obtain ⟨hp, hmem, hbefore, hok⟩ := h.thread t' p' step ht'
      refine ⟨hp, hmem, hbefore, hok.owner ?_⟩
      intro howns
      rw [hfree] at howns
      cases howns
    · intro p' hp' hready hmissing
      have howns := h.owner p' hp' hready hmissing
      rw [hfree] at howns
      cases howns
    · intro p' howns
      cases howns
      exact (h.thread t p .lead ht).1
  obtain ⟨_, _, hbefore, hok⟩ := hset.thread t p .lead ht
  exact hset.goOn ht hbefore ⟨hok.1, hok.2.1, hok.2.2, rfl⟩ id id

/-- The last thread to arrive clears the flag: nobody is left who relies on it. -/
theorem PhasesOk.release (h : PhasesOk s) (ht : s.threads t = .inPhase p .release) :
    PhasesOk ({ s with processingPhase := none }.goTo t p .awaitComplete) := by
  obtain ⟨hp, _, hbefore, hcomplete, howner⟩ := h.thread t p .release ht
  have hall := ((h.phase p hp).complete hcomplete).1
  have hready := (h.phase p hp).ready_of_complete hcomplete
  have hgone : PhasesOk (s.goTo t p .awaitComplete) := h.goOn ht hbefore hready id False.elim
  refine ⟨?_, hgone.phase, ?_, ?_, hgone.leader, hgone.finisher⟩
  · intro t' p' step ht'
    obtain ⟨hp', hmem', hbefore', hok'⟩ := hgone.thread t' p' step ht'
    refine ⟨hp', hmem', hbefore', ?_⟩
    rcases stepOk_or_owner hok' with hok' | ⟨howns, hcase⟩
    · exact hok'
    · exfalso
      obtain rfl : p = p' := Option.some.inj (howner.symm.trans howns)
      rcases hcase with ⟨hb, _⟩ | hf
      · have hmissing : t' ∉ (s.phases p).arrived := hbefore'.mp hb
        exact hmissing (hall ▸ hmem')
      · have hne : t' ≠ t := by
          rintro rfl
          have hself : (s.goTo t' p .awaitComplete).threads t' = .inPhase p .awaitComplete :=
            setThread_self ..
          obtain ⟨_, rfl⟩ := GameThread.inPhase.inj (hself.symm.trans ht')
          exact hf
        have ht₀ : s.threads t' = .inPhase p step := (setThread_ne s _ hne).symm.trans ht'
        exact hne (h.finisher t' t p step .release ht₀ ht hf trivial)
  · intro p' hp' hready hmissing
    have howns := h.owner p' hp' hready hmissing
    obtain rfl : p = p' := Option.some.inj (howner.symm.trans howns)
    exact absurd hall hmissing
  · intro p' howns
    cases howns

/-- A thread that is in no phase any more. -/
theorem PhasesOk.out (h : PhasesOk s) (thread : GameThread Task Room)
    (hout : ∀ p step, thread ≠ .inPhase p step) :
    PhasesOk (s.setThread t thread) := by
  have hbefore : ∀ t' p step, (s.setThread t thread).threads t' = .inPhase p step →
      s.threads t' = .inPhase p step := by
    intro t' p step ht'
    by_cases hne : t' = t
    · subst hne
      rw [setThread_self] at ht'
      exact absurd ht' (hout p step)
    · rwa [setThread_ne _ _ hne] at ht'
  refine ⟨fun t' p step ht' => h.thread t' p step (hbefore t' p step ht'), h.phase, h.owner,
    h.owned, ?_, ?_⟩
  · intro t₁ t₂ p step₁ step₂ h₁ h₂
    exact h.leader t₁ t₂ p step₁ step₂ (hbefore _ _ _ h₁) (hbefore _ _ _ h₂)
  · intro t₁ t₂ p step₁ step₂ h₁ h₂
    exact h.finisher t₁ t₂ p step₁ step₂ (hbefore _ _ _ h₁) (hbefore _ _ _ h₂)

theorem PhasesOk.start (h : PhasesOk s) (threads : Finset Nat) (tickTimeMs : Int) :
    PhasesOk (s.startGamePhase threads tickTimeMs) := by
  have hold : ∀ t p step, (s.startGamePhase threads tickTimeMs).threads t = .inPhase p step →
      (t ∈ threads ∧ p = s.phaseCount ∧ step = .prepare) ∨ (s.threads t = .inPhase p step) := by
    intro t p step ht
    simp only [startGamePhase] at ht
    split at ht
    next hin =>
      obtain ⟨rfl, rfl⟩ := GameThread.inPhase.inj ht
      exact Or.inl ⟨hin, rfl, rfl⟩
    next => exact Or.inr ht
  have hphase : ∀ p < s.phaseCount, (s.startGamePhase threads tickTimeMs).phases p = s.phases p :=
    fun p hp => Function.update_of_ne (by omega) ..
  have hnew : (s.startGamePhase threads tickTimeMs).phases s.phaseCount =
      { threads, tickTimeMs } :=
    Function.update_self ..
  have hcount : (s.startGamePhase threads tickTimeMs).phaseCount = s.phaseCount + 1 := rfl
  refine ⟨?_, ?_, ?_, ?_, ?_, ?_⟩
  · intro t p step ht
    rcases hold t p step ht with ⟨hin, rfl, rfl⟩ | ht
    · rw [hnew, hcount]
      exact ⟨by omega, hin, by simp [PhaseStep.Before], trivial⟩
    · obtain ⟨hp, hmem, hbefore, hok⟩ := h.thread t p step ht
      rw [hphase p hp, hcount]
      exact ⟨by omega, hmem, hbefore, hok⟩
  · intro p hp
    rw [hcount] at hp
    by_cases hpp : p = s.phaseCount
    · subst hpp
      rw [hnew]
      exact ⟨counted_none threads, fun _ => ⟨rfl, rfl⟩, fun _ => ⟨rfl, rfl, rfl⟩, by simp, by simp⟩
    · rw [hphase p (by omega)]
      exact h.phase p (by omega)
  · intro p hp
    rw [hcount] at hp
    by_cases hpp : p = s.phaseCount
    · subst hpp
      rw [hnew]
      simp
    · rw [hphase p (by omega)]
      exact h.owner p (by omega)
  · intro p howns
    have hp := h.owned p howns
    rw [hcount]
    omega
  · intro t₁ t₂ p step₁ step₂ h₁ h₂ hl₁ hl₂
    rcases hold t₁ p step₁ h₁ with ⟨_, _, rfl⟩ | h₁
    · exact absurd hl₁ id
    · rcases hold t₂ p step₂ h₂ with ⟨_, _, rfl⟩ | h₂
      · exact absurd hl₂ id
      · exact h.leader t₁ t₂ p step₁ step₂ h₁ h₂ hl₁ hl₂
  · intro t₁ t₂ p step₁ step₂ h₁ h₂ hf₁ hf₂
    rcases hold t₁ p step₁ h₁ with ⟨_, _, rfl⟩ | h₁
    · exact absurd hf₁ id
    · rcases hold t₂ p step₂ h₂ with ⟨_, _, rfl⟩ | h₂
      · exact absurd hf₂ id
      · exact h.finisher t₁ t₂ p step₁ step₂ h₁ h₂ hf₁ hf₂

theorem phasesOk_initial (activeRooms : List Room) (initialized processing : Room → Bool) :
    PhasesOk ({ activeRooms, initialized, processing } : GamePhases Task Room) := by
  refine ⟨?_, ?_, ?_, ?_, ?_, ?_⟩
  · intro t p step ht
    cases ht
  · intro p hp
    cases hp
  · intro p hp
    cases hp
  · intro p howns
    cases howns
  · intro t t' p step step' ht
    cases ht
  · intro t t' p step step' ht
    cases ht

/-! ## The steps of a thread -/

theorem PhasesOk.prepare (h : PhasesOk s) (ht : s.threads t = .inPhase p .prepare)
    (hfree : (s.phases p).isLifecyclePreparing = false) :
    PhasesOk ((s.setPhase p { s.phases p with isLifecyclePreparing := true }).goTo t p .lead) := by
  obtain ⟨hp, _, hbefore, _⟩ := h.thread t p .prepare ht
  obtain ⟨hcounted, hunprepared, hunready, hhanded, hcomplete⟩ := h.phase p hp
  refine h.move ht ⟨rfl,
    fun _ _ => Iff.rfl, fun _ => rfl, Or.inr ⟨rfl, rfl⟩, id, fun _ h => h, id, id⟩ ?_
    (h.owner p hp) hbefore ⟨rfl, hunprepared hfree⟩ (fun _ => Or.inr hfree) False.elim
  exact ⟨hcounted, fun hf => by simp at hf, hunready, hhanded, hcomplete⟩

theorem PhasesOk.claim (h : PhasesOk s) (ht : s.threads t = .inPhase p .claim) (taskCount : Nat) :
    PhasesOk
      ((s.setPhase p { s.phases p with lifecycleTaskCount := taskCount }).goTo t p .publish) := by
  obtain ⟨hp, _, hbefore, hpreparing, hready, hcount, howns⟩ := h.thread t p .claim ht
  obtain ⟨hcounted, hunprepared, hunready, hhanded, hcomplete⟩ := h.phase p hp
  obtain ⟨hnext, hnobody, hnot⟩ := hunready hready
  refine h.move ht ⟨rfl, fun _ _ => Iff.rfl, id, Or.inl trivial, id, ?_, id, id⟩ ?_
    (h.owner p hp) hbefore ⟨hpreparing, hready, howns⟩ (fun _ => Or.inl trivial) False.elim
  · intro hr
    exact absurd (hr.symm.trans hready) (by decide)
  · refine ⟨hcounted, ?_, hunready, ?_, ?_⟩
    · intro hf
      exact absurd (hf.symm.trans hpreparing) (by decide)
    · intro hsome
      exact absurd hnobody hsome.ne_empty
    · intro hc
      exact absurd (hc.symm.trans hnot) (by decide)

theorem PhasesOk.publish (h : PhasesOk s) (ht : s.threads t = .inPhase p .publish) :
    PhasesOk ((s.setPhase p { s.phases p with isLifecycleReady := true }).goTo
      t p .awaitReady) := by
  obtain ⟨hp, _, hbefore, hpreparing, hready, howns⟩ := h.thread t p .publish ht
  obtain ⟨hcounted, hunprepared, hunready, hhanded, hcomplete⟩ := h.phase p hp
  refine h.move ht ⟨rfl, fun _ _ => Iff.rfl, id, Or.inl trivial,
    fun _ => rfl, fun _ h => h, id, id⟩ ?_ (fun _ _ => howns) hbefore trivial False.elim False.elim
  refine ⟨hcounted, ?_, ?_, hhanded, hcomplete⟩
  · intro hf
    exact absurd (hf.symm.trans hpreparing) (by decide)
  · intro hf
    simp at hf

/-- `fetch_add`, by a thread that has a task, or none. -/
theorem PhasesOk.fetch (h : PhasesOk s) (ht : s.threads t = .inPhase p .fetch)
    (holders : Finset Nat) (hstep : step' = .dequeue ∨
      (step' = .arrive ∧ (s.phases p).lifecycleTaskCount ≤ (s.phases p).nextLifecycleTaskIndex)) :
    PhasesOk ((s.setPhase p { s.phases p with
      nextLifecycleTaskIndex := (s.phases p).nextLifecycleTaskIndex + 1,
        holders }).goTo t p step') := by
  obtain ⟨hp, _, hbefore, hready⟩ := h.thread t p .fetch ht
  obtain ⟨hcounted, hunprepared, hunready, hhanded, hcomplete⟩ := h.phase p hp
  refine h.move ht ⟨rfl, fun _ _ => Iff.rfl, id, Or.inr ⟨rfl, rfl⟩, id,
    fun _ h => Nat.le_succ_of_le h, id, id⟩ ?_ (h.owner p hp) ?_ ?_ ?_ ?_
  · refine ⟨hcounted, hunprepared, ?_, fun hsome => Nat.le_succ_of_le (hhanded hsome), ?_⟩
    · intro hf
      exact absurd (hf.symm.trans hready) (by decide)
    · intro hc
      exact ⟨(hcomplete hc).1, Nat.le_succ_of_le (hcomplete hc).2⟩
  · rcases hstep with rfl | ⟨rfl, _⟩ <;> exact hbefore
  · rcases hstep with rfl | ⟨rfl, hout⟩
    · exact hready
    · exact ⟨hready, Nat.le_succ_of_le hout⟩
  · rcases hstep with rfl | ⟨rfl, _⟩ <;> exact False.elim
  · rcases hstep with rfl | ⟨rfl, _⟩ <;> exact False.elim

theorem PhasesOk.dequeue (h : PhasesOk s) (ht : s.threads t = .inPhase p .dequeue)
    (holders : Finset Nat) (task : Task) :
    PhasesOk ((s.setPhase p { s.phases p with holders }).goTo t p (.process task)) := by
  obtain ⟨hp, _, hbefore, hready⟩ := h.thread t p .dequeue ht
  obtain ⟨hcounted, hunprepared, hunready, hhanded, hcomplete⟩ := h.phase p hp
  exact h.move ht ⟨rfl, fun _ _ => Iff.rfl, id, Or.inr ⟨rfl, rfl⟩, id, fun _ h => h, id, id⟩
    ⟨hcounted, hunprepared, hunready, hhanded, hcomplete⟩ (h.owner p hp) hbefore hready
    False.elim False.elim

theorem PhasesOk.arrive (h : PhasesOk s) (ht : s.threads t = .inPhase p .arrive) :
    PhasesOk ((s.setPhase p { s.phases p with
      completedLifecycleThreadCount := (s.phases p).completedLifecycleThreadCount + 1
      arrived := insert t (s.phases p).arrived }).goTo t p
        (if (s.phases p).completedLifecycleThreadCount + 1 = (s.phases p).threadCount then .finish
          else .awaitComplete)) := by
  obtain ⟨hp, hmem, hbefore, hready, hout⟩ := h.thread t p .arrive ht
  obtain ⟨hcounted, hunprepared, hunready, hhanded, hcomplete⟩ := h.phase p hp
  have hnew : t ∉ (s.phases p).arrived := hbefore.mp trivial
  have hmissing : (s.phases p).arrived ≠ (s.phases p).threads := fun heq => hnew (heq ▸ hmem)
  refine h.move ht ⟨rfl, ?_, id, Or.inr ⟨rfl, rfl⟩, id,
    fun _ h => h, fun heq => absurd heq hmissing, id⟩ ?_ ?_ ?_ ?_ ?_ ?_
  · intro t' hne
    simp [hne]
  · refine ⟨hcounted.arrive hmem hnew, hunprepared, ?_, fun _ => hout, ?_⟩
    · intro hf
      exact absurd (hf.symm.trans hready) (by decide)
    · intro hc
      exact absurd (hcomplete hc).1 hmissing
  · exact fun hr _ => h.owner p hp hr hmissing
  · split <;> simp [PhaseStep.Before]
  · split
    next hfull => exact ⟨hcounted.complete hmem hnew hfull, h.owner p hp hready hmissing⟩
    next => exact hready
  · split <;> exact False.elim
  · exact fun _ => Or.inr hmissing

theorem PhasesOk.finish (h : PhasesOk s) (ht : s.threads t = .inPhase p .finish) :
    PhasesOk
      ((s.setPhase p { s.phases p with isLifecycleComplete := true }).goTo t p .release) := by
  obtain ⟨hp, hmem, hbefore, hall, howns⟩ := h.thread t p .finish ht
  obtain ⟨hcounted, hunprepared, hunready, hhanded, hcomplete⟩ := h.phase p hp
  have hsome : (s.phases p).arrived.Nonempty := ⟨t, hall ▸ hmem⟩
  refine h.move ht ⟨rfl, fun _ _ => Iff.rfl, id, Or.inr ⟨rfl, rfl⟩, id,
    fun _ h => h, id, fun _ => rfl⟩ ?_ (h.owner p hp)
    hbefore ⟨rfl, howns⟩ False.elim (fun _ => Or.inl trivial)
  refine ⟨hcounted, hunprepared, ?_, hhanded, fun _ => ⟨hall, hhanded hsome⟩⟩
  intro hf
  exact absurd (hunready hf).2.1 hsome.ne_empty

/-- The rooms are shared out after the lifecycle stage. -/
theorem PhasesOk.nextRoom (h : PhasesOk s) (ht : s.threads t = .inPhase p .nextRoom)
    (index : Nat) :
    PhasesOk ((s.setPhase p { s.phases p with nextActiveRoomIndex := index + 1 }).goTo t p
      (.lookUp index)) := by
  obtain ⟨hp, _, hbefore, hready⟩ := h.thread t p .nextRoom ht
  obtain ⟨hcounted, hunprepared, hunready, hhanded, hcomplete⟩ := h.phase p hp
  exact h.move ht ⟨rfl, fun _ _ => Iff.rfl, id, Or.inr ⟨rfl, rfl⟩, id, fun _ h => h, id, id⟩
    ⟨hcounted, hunprepared, hunready, hhanded, hcomplete⟩ (h.owner p hp) hbefore hready
    False.elim False.elim

/-! ## One lifecycle stage at a time -/

/-- The threads in their lifecycle stage are of one phase. -/
theorem PhasesOk.owner_of_inLifecycle (h : PhasesOk s) (ht : s.threads t = .inPhase p step)
    (hin : step.InLifecycle) :
    s.processingPhase = some p := by
  obtain ⟨hp, hmem, hbefore, hok⟩ := h.thread t p step ht
  have hready : (s.phases p).isLifecycleReady → step.Before → s.processingPhase = some p := by
    intro hready hb
    refine h.owner p hp hready ?_
    intro hall
    exact hbefore.mp hb (hall ▸ hmem)
  cases step with
  | claim => exact hok.2.2.2
  | publish => exact hok.2.2
  | fetch | dequeue | process => exact hready hok trivial
  | arrive => exact hready hok.1 trivial
  | finish | release => exact hok.2
  | _ => exact absurd hin id

/-- A thread that has arrived finds every task index handed out. -/
theorem PhasesOk.handedOut (h : PhasesOk s) (ht : s.threads t = .inPhase p step)
    (harrived : ¬ step.Before) :
    (s.phases p).lifecycleTaskCount ≤ (s.phases p).nextLifecycleTaskIndex := by
  obtain ⟨hp, _, hbefore, _⟩ := h.thread t p step ht
  have hin : t ∈ (s.phases p).arrived := by
    by_contra hmissing
    exact harrived (hbefore.mpr hmissing)
  exact (h.phase p hp).handedOut ⟨t, hin⟩

theorem PhasesOk.quit {s' : GamePhases Task Room} (h : PhasesOk s) (hquit : s.quit t = some s') :
    PhasesOk s' := by
  unfold GamePhases.quit at hquit
  have hstopped : PhasesOk (s.setThread t .stopped) := h.out .stopped (by simp)
  split at hquit
  next =>
    cases hquit
    exact hstopped
  next =>
    cases hquit
    exact hstopped
  next =>
    cases hquit
    exact hstopped
  next =>
    cases hquit
    exact hstopped
  next p ht =>
    cases hquit
    obtain ⟨_, _, hbefore, hready⟩ := h.thread t p .awaitComplete ht
    exact h.goOn ht hbefore hready False.elim False.elim
  next => cases hquit

/-! ## What a step does to the threads and their phases -/

/-- A step of one thread of phase `p`: it leaves the other threads and the other phases alone. -/
structure Moves (s s' : GamePhases Task Room) (t p : Nat)
    (thread : GameThread Task Room) : Prop where
  phaseCount : s'.phaseCount = s.phaseCount
  phases : ∀ p' ≠ p, s'.phases p' = s.phases p'
  time : (s'.phases p).tickTimeMs = (s.phases p).tickTimeMs
  threads : s'.threads = Function.update s.threads t thread

/-- What a step does: it starts a phase, moves one thread in its phase, takes one out, or does
neither. -/
inductive PhaseChange (action : GameAction Task Room) (s s' : GamePhases Task Room) : Prop
  | started (threads : Finset Nat) (tickTimeMs : Int)
      (hfree : ∀ t ∈ threads, s.threads t = .available)
      (hlatest : ∀ p < s.phaseCount, (s.phases p).tickTimeMs ≤ tickTimeMs)
      (hnext : s' = s.startGamePhase threads tickTimeMs)
  | moved (t p : Nat) (step step' : PhaseStep Task Room) (ht : s.threads t = .inPhase p step)
      (hmoves : Moves s s' t p (.inPhase p step'))
      (hrooms : step'.InRooms → step.InRooms ∨ step = .awaitComplete ∧
        ((s.phases p).isLifecycleComplete ∨ action = .quit t))
      (hbusy : (GameThread.inPhase p step' : GameThread Task Room).Busy →
        (s.threads t).Busy ∨ step = .fetch ∧
          (s.phases p).nextLifecycleTaskIndex < (s.phases p).lifecycleTaskCount)
  | out (t : Nat) (thread : GameThread Task Room) (hthread : ∀ p step, thread ≠ .inPhase p step)
      (hleaves : ∀ p step, s.threads t = .inPhase p step → step.InRooms ∨ action = .quit t ∧
        step.Before)
      (hthreads : s'.threads = Function.update s.threads t thread) (hphases : s'.phases = s.phases)
      (hcount : s'.phaseCount = s.phaseCount)
  | still (hthreads : s'.threads = s.threads) (hphases : s'.phases = s.phases)
      (hcount : s'.phaseCount = s.phaseCount)

theorem Moves.of_goTo {s' : GamePhases Task Room} {c : GamePhaseContext}
    (hphases : s'.phases = (s.setPhase p c).phases) (hcount : s'.phaseCount = s.phaseCount)
    (htime : c.tickTimeMs = (s.phases p).tickTimeMs)
    (hthreads : s'.threads = (s.goTo t p step).threads) : Moves s s' t p (.inPhase p step) where
  phaseCount := hcount
  phases p' hne := by
    rw [hphases]
    exact setPhase_ne _ _ hne
  time := by
    rw [hphases, setPhase_self]
    exact htime
  threads := hthreads

/-- A step that writes nothing of the phase. -/
theorem Moves.of_same {s' : GamePhases Task Room} (hphases : s'.phases = s.phases)
    (hcount : s'.phaseCount = s.phaseCount) (hthreads : s'.threads = (s.goTo t p step).threads) :
    Moves s s' t p (.inPhase p step) where
  phaseCount := hcount
  phases p' _ := by rw [hphases]
  time := by rw [hphases]
  threads := hthreads

theorem phaseChange_quit {s' : GamePhases Task Room} (hquit : s.quit t = some s') :
    PhaseChange (.quit t) s s' := by
  unfold GamePhases.quit at hquit
  split at hquit <;> cases hquit
  case h_5 p ht =>
    exact .moved t p _ _ ht (.of_same rfl rfl rfl) (fun _ => .inr ⟨rfl, .inr rfl⟩) False.elim
  all_goals
    rename_i ht
    refine .out t .stopped (by simp) (fun p' step' ht' => ?_) rfl rfl rfl
    rw [ht] at ht'
    cases ht'
    try exact .inr ⟨rfl, trivial⟩

/-! ## Every step -/

variable [DecidableEq Room]

theorem phaseChange_act {s' : GamePhases Task Room} (ht : s.threads t = .inPhase p step)
    (hact : s.act t p step = some s') : PhaseChange (.act t) s s' := by
  cases step with
  | process task => cases hact
  | leave =>
      cases hact
      refine .out t .available (by simp) (fun p' step' ht' => .inl ?_) rfl rfl rfl
      rw [ht] at ht'
      cases ht'
      trivial
  | claim | publish | finish =>
      cases hact
      exact .moved t p _ _ ht (.of_goTo rfl rfl rfl rfl) False.elim False.elim
  | nextRoom =>
      cases hact
      exact .moved t p _ _ ht (.of_goTo rfl rfl rfl rfl) (fun _ => .inl trivial) False.elim
  | arrive =>
      cases hact
      refine .moved t p _ _ ht (.of_goTo rfl rfl rfl rfl) ?_ ?_
      all_goals split <;> exact False.elim
  | release =>
      cases hact
      exact .moved t p _ _ ht (.of_same rfl rfl rfl) False.elim False.elim
  | tick =>
      cases hact
      exact .moved t p _ _ ht (.of_same rfl rfl rfl) (fun _ => .inl trivial) False.elim
  | prepare =>
      simp only [GamePhases.act] at hact
      split at hact <;> cases hact
      · exact .moved t p _ _ ht (.of_same rfl rfl rfl) False.elim False.elim
      · exact .moved t p _ _ ht (.of_goTo rfl rfl rfl rfl) False.elim False.elim
  | lead | awaitReady =>
      simp only [GamePhases.act] at hact
      split at hact <;> cases hact
      exact .moved t p _ _ ht (.of_same rfl rfl rfl) False.elim False.elim
  | fetch =>
      simp only [GamePhases.act] at hact
      split at hact
      next hleft =>
        cases hact
        exact .moved t p _ _ ht (.of_goTo rfl rfl rfl rfl) False.elim fun _ => .inr ⟨rfl, hleft⟩
      next =>
        cases hact
        exact .moved t p _ _ ht (.of_goTo rfl rfl rfl rfl) False.elim False.elim
  | dequeue =>
      simp only [GamePhases.act] at hact
      split at hact <;> cases hact
      refine .moved t p _ _ ht (.of_goTo rfl rfl rfl rfl) False.elim fun _ => .inl ?_
      rw [ht]
      trivial
  | awaitComplete =>
      simp only [GamePhases.act] at hact
      split at hact
      next hcomplete =>
        cases hact
        exact .moved t p _ _ ht (.of_same rfl rfl rfl)
          (fun _ => .inr ⟨rfl, .inl hcomplete⟩) False.elim
      next => cases hact
  | lookUp | enter =>
      simp only [GamePhases.act] at hact
      split at hact <;> cases hact
      all_goals exact .moved t p _ _ ht (.of_same rfl rfl rfl) (fun _ => .inl trivial) False.elim

theorem PhasesOk.act {s' : GamePhases Task Room} (h : PhasesOk s)
    (ht : s.threads t = .inPhase p step) (hact : s.act t p step = some s') : PhasesOk s' := by
  obtain ⟨hp, hmem, hbefore, hok⟩ := h.thread t p step ht
  cases step with
  | prepare =>
      simp only [GamePhases.act] at hact
      split at hact
      next =>
        cases hact
        exact h.goOn ht hbefore trivial False.elim False.elim
      next hfree =>
        cases hact
        exact h.prepare ht (Bool.eq_false_iff.mpr hfree)
  | lead =>
      simp only [GamePhases.act] at hact
      split at hact
      next hfree =>
        cases hact
        exact h.acquire ht hfree
      next => cases hact
  | claim =>
      cases hact
      exact (h.claim ht s.lifecycleTasks.taskCount).of_same rfl rfl rfl rfl
  | publish =>
      cases hact
      exact h.publish ht
  | awaitReady =>
      simp only [GamePhases.act] at hact
      split at hact
      next hready =>
        cases hact
        exact h.goOn ht hbefore hready False.elim False.elim
      next => cases hact
  | fetch =>
      simp only [GamePhases.act] at hact
      split at hact
      next =>
        cases hact
        exact h.fetch ht _ (Or.inl rfl)
      next hout =>
        cases hact
        exact h.fetch ht _ (Or.inr ⟨rfl, by omega⟩)
  | dequeue =>
      simp only [GamePhases.act] at hact
      split at hact
      next => cases hact
      next task rest _ =>
        cases hact
        exact (h.dequeue ht _ task).of_same rfl rfl rfl rfl
  | process task => cases hact
  | arrive =>
      cases hact
      exact h.arrive ht
  | finish =>
      cases hact
      exact h.finish ht
  | release =>
      cases hact
      exact h.release ht
  | awaitComplete =>
      simp only [GamePhases.act] at hact
      split at hact
      next =>
        cases hact
        exact h.goOn ht hbefore hok False.elim False.elim
      next => cases hact
  | nextRoom =>
      cases hact
      exact h.nextRoom ht _
  | lookUp index =>
      simp only [GamePhases.act] at hact
      split at hact
      next =>
        cases hact
        exact h.goOn ht hbefore hok False.elim False.elim
      next room _ =>
        cases hact
        have hgone : PhasesOk (s.goTo t p (.enter room)) :=
          h.goOn ht hbefore hok False.elim False.elim
        exact hgone.of_same rfl rfl rfl rfl
  | enter room =>
      simp only [GamePhases.act] at hact
      split at hact
      next =>
        cases hact
        exact h.goOn ht hbefore hok False.elim False.elim
      next =>
        cases hact
        have hgone : PhasesOk (s.goTo t p (.tick room)) :=
          h.goOn ht hbefore hok False.elim False.elim
        exact hgone.of_same rfl rfl rfl rfl
  | tick room =>
      cases hact
      have hgone : PhasesOk (s.goTo t p .nextRoom) := h.goOn ht hbefore hok False.elim False.elim
      exact hgone.of_same rfl rfl rfl rfl
  | leave =>
      cases hact
      exact h.out .available (by simp)

/-- The initialization of a room is of no concern to the threads and the phases. -/
theorem completeRoomInitialization_eq (s : GamePhases Task Room) (created : Option Room) :
    s.completeRoomInitialization created = { s with
      processing := (s.completeRoomInitialization created).processing
      initialized := (s.completeRoomInitialization created).initialized } := by
  cases created with
  | none => rfl
  | some room =>
      by_cases hnew : s.initialized room = true
      · simp only [completeRoomInitialization, if_pos hnew]
      · simp only [completeRoomInitialization, if_neg hnew]
        rfl

variable [DecidableEq Task]

/-- **What a step does to the threads and their phases.** -/
theorem PhaseChange.of_step {s' : GamePhases Task Room} {threadCount : Nat}
    {action : GameAction Task Room} (hstep : s.step threadCount action = some s') :
    PhaseChange action s s' := by
  cases action with
  | startGamePhase threads tickTimeMs =>
      simp only [GamePhases.step] at hstep
      split at hstep
      next hguard =>
        cases hstep
        exact .started threads tickTimeMs (fun t ht => (hguard.2.1 t ht).2) hguard.2.2.2 rfl
      next => cases hstep
  | stop | count =>
      cases hstep
      exact .still rfl rfl rfl
  | push n =>
      simp only [GamePhases.step] at hstep
      split at hstep <;> cases hstep
      exact .still rfl rfl rfl
  | act t =>
      simp only [GamePhases.step] at hstep
      split at hstep
      next p step ht => exact phaseChange_act ht hstep
      next => cases hstep
      next => cases hstep
  | process t activeRooms created =>
      simp only [GamePhases.step] at hstep
      split at hstep
      next p task ht =>
        cases hstep
        rw [completeRoomInitialization_eq]
        exact .moved t p _ _ ht (.of_same rfl rfl rfl) False.elim False.elim
      next => cases hstep
  | unresolved t =>
      simp only [GamePhases.step] at hstep
      split at hstep
      next p index ht =>
        cases hstep
        exact .moved t p _ _ ht (.of_same rfl rfl rfl) (fun _ => .inl trivial) False.elim
      next => cases hstep
  | quit t =>
      simp only [GamePhases.step] at hstep
      split at hstep
      next => cases hstep
      next => exact phaseChange_quit hstep

theorem PhasesOk.next {s' : GamePhases Task Room} {threadCount : Nat}
    {action : GameAction Task Room} (h : PhasesOk s)
    (hstep : s.step threadCount action = some s') : PhasesOk s' := by
  cases action with
  | startGamePhase threads tickTimeMs =>
      simp only [GamePhases.step] at hstep
      split at hstep
      next =>
        cases hstep
        exact h.start threads tickTimeMs
      next => cases hstep
  | stop =>
      cases hstep
      exact h.of_same rfl rfl rfl rfl
  | count task =>
      cases hstep
      exact h.of_same rfl rfl rfl rfl
  | push n =>
      simp only [GamePhases.step] at hstep
      split at hstep
      next => cases hstep
      next =>
        cases hstep
        exact h.of_same rfl rfl rfl rfl
  | act t =>
      simp only [GamePhases.step] at hstep
      split at hstep
      next p step ht => exact h.act ht hstep
      next => cases hstep
      next => cases hstep
  | process t activeRooms created =>
      simp only [GamePhases.step] at hstep
      split at hstep
      next p task ht =>
        cases hstep
        obtain ⟨_, _, hbefore, hok⟩ := h.thread t p _ ht
        have hgone : PhasesOk (s.goTo t p .fetch) := h.goOn ht hbefore hok False.elim False.elim
        rw [completeRoomInitialization_eq]
        exact hgone.of_same rfl rfl rfl rfl
      next => cases hstep
  | unresolved t =>
      simp only [GamePhases.step] at hstep
      split at hstep
      next p index ht =>
        cases hstep
        obtain ⟨_, _, hbefore, hok⟩ := h.thread t p _ ht
        exact h.goOn ht hbefore hok False.elim False.elim
      next => cases hstep
  | quit t =>
      simp only [GamePhases.step] at hstep
      split at hstep
      next => cases hstep
      next => exact h.quit hstep

end GamePhases

end ProjectTetris

import Mathlib.Logic.Relation
import Mathlib.Order.Defs.PartialOrder

/-!
# Systems of steps

A system is given by the states it can start in and by what one step can lead to; who
takes a step is part of the step relation, so that every interleaving is a run. The rules
are those proofs about all runs use: an invariant holds in every reachable state, and what
a step keeps once it is there stays there.
-/

namespace Transition

structure System (σ : Type) where
  start : σ → Prop
  next : σ → σ → Prop

variable {σ α β : Type}

namespace System

variable (S : System σ)

/-- Any number of steps. -/
def Run : σ → σ → Prop := Relation.ReflTransGen S.next

def Reachable (s : σ) : Prop := ∃ s₀, S.start s₀ ∧ S.Run s₀ s

/-- The same system, of whose steps only those that satisfy `C` are taken. -/
def only (C : σ → σ → Prop) : System σ where
  start := S.start
  next s s' := S.next s s' ∧ C s s'

/-- The system of a step function whose actions are taken only where they are allowed. -/
def taking (start : σ → Prop) (step : α → σ → Option σ) (allowed : α → σ → Prop) : System σ where
  start := start
  next s s' := ∃ a, allowed a s ∧ step a s = some s'

/-- What one action after the other leads to, each of which has to pass a check. -/
def follow (check : α → σ → Bool) (step : α → σ → Option σ) : List α → σ → Option σ
  | [], s => some s
  | a :: as, s => if check a s then (step a s).bind (follow check step as) else none

end System

variable {S : System σ}

theorem System.Reachable.start {s : σ} (h : S.start s) : S.Reachable s := ⟨s, h, .refl⟩

theorem System.Reachable.next {s s' : σ} (h : S.Reachable s) (hstep : S.next s s') :
    S.Reachable s' := by
  obtain ⟨s₀, hs₀, hrun⟩ := h
  exact ⟨s₀, hs₀, hrun.tail hstep⟩

theorem System.Reachable.run {s s' : σ} (h : S.Reachable s) (hrun : S.Run s s') :
    S.Reachable s' := by
  obtain ⟨s₀, hs₀, hbefore⟩ := h
  exact ⟨s₀, hs₀, hbefore.trans hrun⟩

theorem System.Reachable.follow {start : σ → Prop} {step : α → σ → Option σ}
    {allowed : α → σ → Prop} {check : α → σ → Bool} {as : List α} {s s' : σ}
    (h : (System.taking start step allowed).Reachable s) (hcheck : ∀ a s, check a s → allowed a s)
    (hfollow : System.follow check step as s = some s') :
    (System.taking start step allowed).Reachable s' := by
  induction as generalizing s with
  | nil =>
      cases hfollow
      exact h
  | cons a as ih =>
      simp only [System.follow] at hfollow
      split at hfollow
      next hpass =>
        obtain ⟨s₁, hstep, hrest⟩ := Option.bind_eq_some_iff.mp hfollow
        exact ih (h.next ⟨a, hcheck a s hpass, hstep⟩) hrest
      next => cases hfollow

/-- **An invariant**: true at the start, and kept by every step. -/
theorem invariant {I : σ → Prop} (hstart : ∀ s, S.start s → I s)
    (hstep : ∀ s s', I s → S.next s s' → I s') {s : σ} (h : S.Reachable s) : I s := by
  obtain ⟨s₀, hs₀, hrun⟩ := h
  induction hrun with
  | refl => exact hstart s₀ hs₀
  | tail _ hnext ih => exact hstep _ _ ih hnext

/-- **A refinement**: where every step of `S` is seen as steps of `A`, or as none, what is seen of
a reachable state is reachable. -/
theorem System.Reachable.refines {A : System α} {see : σ → α}
    (hstart : ∀ s, S.start s → A.start (see s))
    (hstep : ∀ s s', S.Reachable s → S.next s s' → A.Run (see s) (see s')) {s : σ}
    (h : S.Reachable s) :
    A.Reachable (see s) := by
  obtain ⟨s₀, hs₀, hrun⟩ := h
  induction hrun with
  | refl => exact .start (hstart s₀ hs₀)
  | tail hbefore hnext ih => exact ih.run (hstep _ _ ⟨s₀, hs₀, hbefore⟩ hnext)

/-- What no step from a reachable state lowers, no run lowers. -/
theorem monotone [Preorder β] {f : σ → β}
    (hstep : ∀ s s', S.Reachable s → S.next s s' → f s ≤ f s') {s s' : σ} (h : S.Reachable s)
    (hrun : S.Run s s') : f s ≤ f s' := by
  induction hrun with
  | refl => exact le_refl _
  | tail hbefore hnext ih => exact le_trans ih (hstep _ _ (h.run hbefore) hnext)

/-- What every step from a reachable state keeps, and what it leaves as it is, while it holds. -/
theorem stable {P : σ → Prop} {f : σ → β}
    (hstep : ∀ s s', S.Reachable s → P s → S.next s s' → P s' ∧ f s' = f s) {s s' : σ}
    (h : S.Reachable s) (hP : P s) (hrun : S.Run s s') : P s' ∧ f s' = f s := by
  induction hrun with
  | refl => exact ⟨hP, rfl⟩
  | tail hbefore hnext ih =>
      obtain ⟨hP', hf⟩ := hstep _ _ (h.run hbefore) ih.1 hnext
      exact ⟨hP', hf.trans ih.2⟩

end Transition

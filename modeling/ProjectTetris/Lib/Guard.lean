import Mathlib.Logic.Function.Basic

/-!
# A flag that guards a section

Threads enter a section by setting a flag that was clear, and clear it when they leave.
Any number of kinds of threads may share one flag: which positions of a thread are inside
the section is a parameter.
-/

namespace Guard

variable {Pc : Type} {owns : Pc → Prop} {flag : Bool} {threads : Nat → Pc} {t : Nat} {pc : Pc}

/-- The flag is set while a thread is inside, and one thread is inside at most. -/
structure Guarded (owns : Pc → Prop) (flag : Bool) (threads : Nat → Pc) : Prop where
  flagged : ∀ t, owns (threads t) → flag = true
  alone : ∀ t t', owns (threads t) → owns (threads t') → t = t'

theorem Guarded.none_of_clear (h : Guarded owns false threads) (t : Nat) : ¬ owns (threads t) := by
  intro howns
  have hflag := h.flagged t howns
  cases hflag

/-- While one thread is inside, no other is. -/
theorem Guarded.others (h : Guarded owns flag threads) (howns : owns (threads t)) {t' : Nat}
    (ht : t' ≠ t) :
    ¬ owns (threads t') := fun howns' => ht (h.alone t' t howns' howns)

theorem guarded_initial (h : ∀ t, ¬ owns (threads t)) : Guarded owns flag threads :=
  ⟨fun t howns => absurd howns (h t), fun t _ howns => absurd howns (h t)⟩

/-- A thread enters. -/
theorem Guarded.enter (h : Guarded owns false threads) :
    Guarded owns true (Function.update threads t pc) := by
  refine ⟨fun _ _ => rfl, ?_⟩
  intro t₁ t₂ h₁ h₂
  have hentered : ∀ t', owns (Function.update threads t pc t') → t' = t := by
    intro t' howns
    by_cases ht : t' = t
    · exact ht
    · rw [Function.update_of_ne ht] at howns
      exact absurd howns (h.none_of_clear t')
  rw [hentered t₁ h₁, hentered t₂ h₂]

/-- Nobody has entered. -/
theorem Guarded.shrink (h : Guarded owns flag threads) {threads' : Nat → Pc}
    (hkeep : ∀ t, owns (threads' t) → owns (threads t)) : Guarded owns flag threads' :=
  ⟨fun t howns => h.flagged t (hkeep t howns),
    fun t t' howns howns' => h.alone t t' (hkeep t howns) (hkeep t' howns')⟩

/-- A thread goes on, inside only if it was inside. -/
theorem Guarded.goOn (h : Guarded owns flag threads) (hkeep : owns pc → owns (threads t)) :
    Guarded owns flag (Function.update threads t pc) := by
  refine h.shrink ?_
  intro t' howns
  by_cases ht : t' = t
  · subst ht
    rw [Function.update_self] at howns
    exact hkeep howns
  · rwa [Function.update_of_ne ht] at howns

/-- A thread that is inside leaves. -/
theorem Guarded.leave (h : Guarded owns flag threads) (howns : owns (threads t))
    (hout : ¬ owns pc) :
    Guarded owns false (Function.update threads t pc) := by
  refine guarded_initial ?_
  intro t' howns'
  by_cases ht : t' = t
  · subst ht
    rw [Function.update_self] at howns'
    exact hout howns'
  · rw [Function.update_of_ne ht] at howns'
    exact h.others howns ht howns'

end Guard

import Mathlib.Logic.Function.Basic

/-!
# Condition variables

A sleeper waits for a condition that other threads make true. A thread that has made it
true owes a notification until it has given it. `Heard` is what a wait must not break: a
sleeper whose condition holds is about to be woken by someone.

Which positions owe a notification is a parameter, and so are the sleepers.
-/

namespace Wakeup

variable {Pc : Type} {asleep asleep' condition condition' : Prop} {owes : Pc → Prop}
  {threads : Nat → Pc} {t : Nat} {pc : Pc}

/-- Nobody sleeps on a condition that holds, unless a thread is about to notify him. -/
def Heard (asleep condition : Prop) (owes : Pc → Prop) (threads : Nat → Pc) : Prop :=
  asleep → condition → ∃ t, owes (threads t)

/-- Awake, or sleeping on a condition that does not hold. -/
theorem heard_of_not (h : asleep → ¬ condition) : Heard asleep condition owes threads :=
  fun hasleep hcondition => absurd hcondition (h hasleep)

/-- The thread that makes the condition true owes a notification from then on. -/
theorem heard_of_owes (howes : owes pc) :
    Heard asleep condition owes (Function.update threads t pc) :=
  fun _ _ => ⟨t, by rw [Function.update_self]; exact howes⟩

/-- A thread that owed nothing goes on, and makes nothing true. -/
theorem Heard.goOn (h : Heard asleep condition owes threads) (hkeep : owes (threads t) → owes pc)
    (hasleep : asleep' → asleep) (hcondition : asleep' → condition' → condition) :
    Heard asleep' condition' owes (Function.update threads t pc) := by
  intro hsleeps hholds
  obtain ⟨t', howes⟩ := h (hasleep hsleeps) (hcondition hsleeps hholds)
  refine ⟨t', ?_⟩
  by_cases ht : t' = t
  · subst ht
    rw [Function.update_self]
    exact hkeep howes
  · rwa [Function.update_of_ne ht]

/-- The sleeper, or nobody, goes on. -/
theorem Heard.mono (h : Heard asleep condition owes threads) (hasleep : asleep' → asleep)
    (hcondition : asleep' → condition' → condition) : Heard asleep' condition' owes threads :=
  fun hsleeps hholds => h (hasleep hsleeps) (hcondition hsleeps hholds)

end Wakeup

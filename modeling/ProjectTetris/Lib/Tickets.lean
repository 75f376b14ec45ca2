import Mathlib.Data.List.Range
import Mathlib.Data.List.Nodup
import Mathlib.Logic.Function.Basic

/-!
# Tickets

A counter hands out tickets. A thread holds one ticket at most, and is done with it some
time. Every ticket that has been handed out is held by one thread or done with once.

Which positions hold which ticket is a parameter.
-/

namespace Tickets

variable {ι Pc : Type} {held : Pc → Option Nat} {threads : ι → Pc} {next : Nat} {done : List Nat}
  {t : ι} {pc : Pc} {i : Nat}

/-- The tickets below `next` have been handed out. -/
structure Dealt (held : Pc → Option Nat) (threads : ι → Pc) (next : Nat)
    (done : List Nat) : Prop where
  held_lt : ∀ t i, held (threads t) = some i → i < next
  done_lt : ∀ i ∈ done, i < next
  nodup : done.Nodup
  notDone : ∀ t i, held (threads t) = some i → i ∉ done
  alone : ∀ t t' i, held (threads t) = some i → held (threads t') = some i → t = t'
  all : ∀ i < next, (∃ t, held (threads t) = some i) ∨ i ∈ done

theorem dealt_none (h : ∀ t, held (threads t) = none) : Dealt held threads 0 [] where
  held_lt := fun t i hheld => by rw [h t] at hheld; cases hheld
  done_lt := nofun
  nodup := .nil
  notDone := fun _ _ _ => List.not_mem_nil
  alone := fun t t' i hheld => by rw [h t] at hheld; cases hheld
  all := nofun

/-- **When nobody holds a ticket, all that were handed out are done with, each once.** -/
theorem Dealt.all_done (h : Dealt held threads next done) (hnone : ∀ t, held (threads t) = none) :
    done.Perm (List.range next) := by
  refine (List.perm_ext_iff_of_nodup h.nodup List.nodup_range).mpr ?_
  intro i
  rw [List.mem_range]
  constructor
  · exact h.done_lt i
  · intro hlt
    obtain ⟨t, hheld⟩ | hdone := h.all i hlt
    · rw [hnone t] at hheld
      cases hheld
    · exact hdone

/-- Nobody's ticket changes. -/
theorem Dealt.same (h : Dealt held threads next done) {threads' : ι → Pc}
    (hsame : ∀ t, held (threads' t) = held (threads t)) : Dealt held threads' next done where
  held_lt := fun t i hheld => h.held_lt t i (hsame t ▸ hheld)
  done_lt := h.done_lt
  nodup := h.nodup
  notDone := fun t i hheld => h.notDone t i (hsame t ▸ hheld)
  alone := fun t t' i hheld hheld' => h.alone t t' i (hsame t ▸ hheld) (hsame t' ▸ hheld')
  all := fun i hlt => (h.all i hlt).imp_left fun ⟨t, hheld⟩ => ⟨t, (hsame t).trans hheld⟩

variable [DecidableEq ι]

theorem Dealt.goOn (h : Dealt held threads next done) (hsame : held pc = held (threads t)) :
    Dealt held (Function.update threads t pc) next done := by
  refine h.same ?_
  intro t'
  by_cases ht : t' = t
  · rw [ht, Function.update_self, hsame]
  · rw [Function.update_of_ne ht]

theorem held_update (hheld : held (Function.update threads t pc t₁) = some i) :
    t₁ = t ∧ held pc = some i ∨ t₁ ≠ t ∧ held (threads t₁) = some i := by
  by_cases ht : t₁ = t
  · rw [ht, Function.update_self] at hheld
    exact .inl ⟨ht, hheld⟩
  · rw [Function.update_of_ne ht] at hheld
    exact .inr ⟨ht, hheld⟩

/-- A thread that holds none gets the next ticket. -/
theorem Dealt.deal (h : Dealt held threads next done) (hfree : held (threads t) = none)
    (hpc : held pc = some next) :
    Dealt held (Function.update threads t pc) (next + 1) done where
  held_lt := by
    intro t₁ i hheld
    obtain ⟨-, hnew⟩ | ⟨-, hold⟩ := held_update hheld
    · rw [hpc] at hnew
      cases hnew
      exact Nat.lt_succ_self _
    · exact Nat.lt_succ_of_lt (h.held_lt t₁ i hold)
  done_lt := fun i hi => Nat.lt_succ_of_lt (h.done_lt i hi)
  nodup := h.nodup
  notDone := by
    intro t₁ i hheld hdone
    obtain ⟨-, hnew⟩ | ⟨-, hold⟩ := held_update hheld
    · rw [hpc] at hnew
      cases hnew
      exact absurd (h.done_lt _ hdone) (Nat.lt_irrefl _)
    · exact h.notDone t₁ i hold hdone
  alone := by
    intro t₁ t₂ i h₁ h₂
    obtain ⟨ht₁, hnew₁⟩ | ⟨-, hold₁⟩ := held_update h₁ <;>
      obtain ⟨ht₂, hnew₂⟩ | ⟨-, hold₂⟩ := held_update h₂
    · rw [ht₁, ht₂]
    · rw [hpc] at hnew₁
      cases hnew₁
      exact absurd (h.held_lt t₂ _ hold₂) (Nat.lt_irrefl _)
    · rw [hpc] at hnew₂
      cases hnew₂
      exact absurd (h.held_lt t₁ _ hold₁) (Nat.lt_irrefl _)
    · exact h.alone t₁ t₂ i hold₁ hold₂
  all := by
    intro i hlt
    obtain hlt | rfl := Nat.lt_succ_iff_lt_or_eq.mp hlt
    · refine (h.all i hlt).imp_left ?_
      rintro ⟨t₁, hheld⟩
      refine ⟨t₁, ?_⟩
      have hne : t₁ ≠ t := by
        rintro rfl
        rw [hfree] at hheld
        cases hheld
      rwa [Function.update_of_ne hne]
    · exact .inl ⟨t, by rw [Function.update_self, hpc]⟩

/-- A thread is done with its ticket. -/
theorem Dealt.finish (h : Dealt held threads next done) (hheld : held (threads t) = some i)
    (hpc : held pc = none) :
    Dealt held (Function.update threads t pc) next (done ++ [i]) where
  held_lt := by
    intro t₁ j hj
    obtain ⟨-, hnew⟩ | ⟨-, hold⟩ := held_update hj
    · rw [hpc] at hnew
      cases hnew
    · exact h.held_lt t₁ j hold
  done_lt := by
    intro j hj
    rw [List.mem_append, List.mem_singleton] at hj
    obtain hj | rfl := hj
    · exact h.done_lt j hj
    · exact h.held_lt t j hheld
  nodup := by
    rw [List.nodup_append]
    refine ⟨h.nodup, List.nodup_singleton i, ?_⟩
    intro j hj j' hj' heq
    rw [List.mem_singleton] at hj'
    exact h.notDone t i hheld (hj' ▸ heq ▸ hj)
  notDone := by
    intro t₁ j hj hdone
    obtain ⟨-, hnew⟩ | ⟨hne, hold⟩ := held_update hj
    · rw [hpc] at hnew
      cases hnew
    · rw [List.mem_append, List.mem_singleton] at hdone
      obtain hdone | rfl := hdone
      · exact h.notDone t₁ j hold hdone
      · exact hne (h.alone t₁ t j hold hheld)
  alone := by
    intro t₁ t₂ j h₁ h₂
    obtain ⟨-, hnew⟩ | ⟨-, hold₁⟩ := held_update h₁
    · rw [hpc] at hnew
      cases hnew
    · obtain ⟨-, hnew⟩ | ⟨-, hold₂⟩ := held_update h₂
      · rw [hpc] at hnew
        cases hnew
      · exact h.alone t₁ t₂ j hold₁ hold₂
  all := by
    intro j hlt
    by_cases hji : j = i
    · exact .inr (List.mem_append_right _ (List.mem_singleton.mpr hji))
    · obtain ⟨t₁, hold⟩ | hdone := h.all j hlt
      · refine .inl ⟨t₁, ?_⟩
        have hne : t₁ ≠ t := by
          rintro rfl
          exact hji (Option.some.inj (hold.symm.trans hheld))
        rwa [Function.update_of_ne hne]
      · exact .inr (List.mem_append_left _ hdone)

end Tickets

import Mathlib.Logic.Function.Basic
import Mathlib.Data.List.Basic

/-!
# Things with one holder

Things are taken, handed on through a queue and given back. At any time a thing that is
out is with one holder or once in the queue, and with nobody else. The rules are those of
the four ways it can move; what is out may be stored anywhere, so it is a predicate.
-/

/-- Each thing that is out is with one holder, or waits once in the queue. -/
structure Lease {ι ρ : Type} (hold : ι → Option ρ) (queue : List ρ) (out : ρ → Prop) : Prop where
  out_iff : ∀ r, out r ↔ (∃ t, hold t = some r) ∨ r ∈ queue
  one : ∀ t t' r, hold t = some r → hold t' = some r → t = t'
  nodup : queue.Nodup
  apart : ∀ t r, hold t = some r → r ∉ queue

namespace Lease

variable {ι ρ : Type} {hold : ι → Option ρ} {queue queue' : List ρ} {out out' : ρ → Prop}
  {t : ι} {r : ρ}

/-- Nobody holds anything, and nothing is out. -/
theorem empty (hhold : ∀ t, hold t = none) (hout : ∀ r, ¬ out r) : Lease hold [] out where
  out_iff r := ⟨fun h => absurd h (hout r), fun h => by simp [hhold] at h⟩
  one t _ r h := by simp [hhold] at h
  nodup := .nil
  apart _ _ _ := List.not_mem_nil

theorem held (h : Lease hold queue out) (ht : hold t = some r) : out r :=
  (h.out_iff r).2 (.inl ⟨t, ht⟩)

theorem queued (h : Lease hold queue out) (hr : r ∈ queue) : out r := (h.out_iff r).2 (.inr hr)

/-- Nothing is out when nobody holds anything and the queue is empty. -/
theorem none_out (h : Lease hold [] out) (hhold : ∀ t, hold t = none) (r : ρ) : ¬ out r := by
  rw [h.out_iff]
  simp [hhold]

variable [DecidableEq ι]

/-- Somebody takes what nobody has. -/
theorem acquire (h : Lease hold queue out) (ht : hold t = none) (hr : ¬ out r)
    (hout : ∀ r', out' r' ↔ r' = r ∨ out r') :
    Lease (Function.update hold t (some r)) queue out' := by
  have hold_iff : ∀ t' r', Function.update hold t (some r) t' = some r' ↔
      (t' = t ∧ r' = r) ∨ hold t' = some r' := by
    intro t' r'
    by_cases heq : t' = t
    · subst heq
      simp [ht, eq_comm]
    · simp [heq]
  refine ⟨fun r' => ?_, fun t₁ t₂ r' h₁ h₂ => ?_, h.nodup, fun t' r' h' hmem => ?_⟩
  · rw [hout, h.out_iff]
    simp only [hold_iff]
    constructor
    · rintro (rfl | ⟨t', h'⟩ | h')
      · exact .inl ⟨t, .inl ⟨rfl, rfl⟩⟩
      · exact .inl ⟨t', .inr h'⟩
      · exact .inr h'
    · rintro (⟨t', ⟨_, rfl⟩ | h'⟩ | h')
      · exact .inl rfl
      · exact .inr (.inl ⟨t', h'⟩)
      · exact .inr (.inr h')
  · rw [hold_iff] at h₁ h₂
    rcases h₁ with ⟨rfl, rfl⟩ | h₁ <;> rcases h₂ with ⟨rfl, h₂⟩ | h₂
    · rfl
    · exact absurd (h.held h₂) hr
    · exact absurd (h.held (h₂ ▸ h₁)) hr
    · exact h.one t₁ t₂ r' h₁ h₂
  · rw [hold_iff] at h'
    rcases h' with ⟨_, rfl⟩ | h'
    · exact hr (h.queued hmem)
    · exact h.apart t' r' h' hmem

/-- A holder without the thing it has had. -/
theorem drop_iff (h : Lease hold queue out) (ht : hold t = some r) (t' : ι) (r' : ρ) :
    Function.update hold t none t' = some r' ↔ r' ≠ r ∧ hold t' = some r' := by
  by_cases heq : t' = t
  · subst heq
    simp only [Function.update_self, ht, Option.some.injEq]
    exact ⟨nofun, fun h => absurd h.2.symm h.1⟩
  · rw [Function.update_of_ne heq]
    exact ⟨fun h' => ⟨fun hr => heq (h.one t' t r (hr ▸ h') ht), h'⟩, fun h' => h'.2⟩

/-- A holder gives back what it has. -/
theorem release (h : Lease hold queue out) (ht : hold t = some r)
    (hout : ∀ r', out' r' ↔ r' ≠ r ∧ out r') :
    Lease (Function.update hold t none) queue out' := by
  refine ⟨fun r' => ?_, fun t₁ t₂ r' h₁ h₂ => ?_, h.nodup, fun t' r' h' => ?_⟩
  · rw [hout, h.out_iff]
    simp only [h.drop_iff ht]
    constructor
    · rintro ⟨hne, ⟨t', h'⟩ | h'⟩
      · exact .inl ⟨t', hne, h'⟩
      · exact .inr h'
    · rintro (⟨t', hne, h'⟩ | h')
      · exact ⟨hne, .inl ⟨t', h'⟩⟩
      · exact ⟨fun hr => h.apart t r ht (hr ▸ h'), .inr h'⟩
  · exact h.one t₁ t₂ r' ((h.drop_iff ht t₁ r').1 h₁).2 ((h.drop_iff ht t₂ r').1 h₂).2
  · exact h.apart t' r' ((h.drop_iff ht t' r').1 h').2

/-- A holder puts what it has into the queue. -/
theorem post (h : Lease hold queue out) (ht : hold t = some r)
    (hqueue : queue'.Perm (r :: queue)) :
    Lease (Function.update hold t none) queue' out := by
  refine ⟨fun r' => ?_, fun t₁ t₂ r' h₁ h₂ => ?_, ?_, fun t' r' h' hmem => ?_⟩
  · rw [h.out_iff, hqueue.mem_iff, List.mem_cons]
    simp only [h.drop_iff ht]
    constructor
    · rintro (⟨t', h'⟩ | h')
      · by_cases hr : r' = r
        · exact .inr (.inl hr)
        · exact .inl ⟨t', hr, h'⟩
      · exact .inr (.inr h')
    · rintro (⟨t', _, h'⟩ | rfl | h')
      · exact .inl ⟨t', h'⟩
      · exact .inl ⟨t, ht⟩
      · exact .inr h'
  · exact h.one t₁ t₂ r' ((h.drop_iff ht t₁ r').1 h₁).2 ((h.drop_iff ht t₂ r').1 h₂).2
  · rw [hqueue.nodup_iff, List.nodup_cons]
    exact ⟨h.apart t r ht, h.nodup⟩
  · obtain ⟨hne, h'⟩ := (h.drop_iff ht t' r').1 h'
    rcases List.mem_cons.1 (hqueue.mem_iff.1 hmem) with hr | hr
    · exact hne hr
    · exact h.apart t' r' h' hr

/-- Somebody takes a thing out of the queue. -/
theorem take (h : Lease hold queue out) (ht : hold t = none) (hqueue : queue.Perm (r :: queue')) :
    Lease (Function.update hold t (some r)) queue' out := by
  obtain ⟨hr, hnodup⟩ := List.nodup_cons.1 (hqueue.nodup_iff.1 h.nodup)
  -- the queue without the thing, as if it were nobody's, and then taken
  have hrest : Lease hold queue' (fun r' => r' ≠ r ∧ out r') := by
    refine ⟨fun r' => ?_, h.one, hnodup,
      fun t' r' h' hmem => h.apart t' r' h' (hqueue.mem_iff.2 (.tail _ hmem))⟩
    rw [h.out_iff, hqueue.mem_iff, List.mem_cons]
    constructor
    · rintro ⟨hne, h' | h' | h'⟩
      · exact .inl h'
      · exact absurd h' hne
      · exact .inr h'
    · rintro (⟨t', h'⟩ | h')
      · exact ⟨fun heq => h.apart t' r' h' (hqueue.mem_iff.2 (heq ▸ .head _)), .inl ⟨t', h'⟩⟩
      · exact ⟨fun heq => hr (heq ▸ h'), .inr (.inr h')⟩
  have hout : out r := h.queued (hqueue.mem_iff.2 (.head _))
  refine hrest.acquire ht (fun h' => h'.1 rfl) fun r' => ?_
  by_cases heq : r' = r
  · subst heq
    exact ⟨fun _ => .inl rfl, fun _ => hout⟩
  · exact ⟨fun h' => .inr ⟨heq, h'⟩, fun h' => (h'.resolve_left heq).2⟩

end Lease

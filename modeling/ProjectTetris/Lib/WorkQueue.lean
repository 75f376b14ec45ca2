import Mathlib.Data.List.Perm.Basic
import ProjectTetris.Lib.Transition

/-!
# A queue and its worker

Tasks are accepted into a queue, and one worker takes them out, one at a time, and ends
each or puts it back. Who accepts them, and what a task is, does not matter here: a task is
never lost and never ended twice, and as long as nothing is put back they end in the order
they came in.
-/

open Transition

structure WorkQueue (α : Type) where
  accepted : List α := []
  waiting : List α := []
  /-- What the worker has in hand. -/
  inHand : Option α := none
  ended : List α := []
  /-- Some task has been put back. -/
  putBack : Bool := false

namespace WorkQueue

variable {α : Type}

inductive Next : WorkQueue α → WorkQueue α → Prop
  | accept (q : WorkQueue α) (task : α) :
      Next q { q with accepted := q.accepted ++ [task], waiting := q.waiting ++ [task] }
  | take (q : WorkQueue α) {task : α} {rest : List α} (hwaiting : q.waiting = task :: rest)
      (hfree : q.inHand = none) :
      Next q { q with waiting := rest, inHand := some task }
  | putBack (q : WorkQueue α) {task : α} (hinHand : q.inHand = some task) :
      Next q { q with waiting := q.waiting ++ [task], inHand := none, putBack := true }
  | finish (q : WorkQueue α) {task : α} (hinHand : q.inHand = some task) :
      Next q { q with inHand := none, ended := q.ended ++ [task] }

def system : System (WorkQueue α) := ⟨fun q => q = {}, Next⟩

/-- What has been accepted, by how far it has come. -/
def tasks (q : WorkQueue α) : List α := q.ended ++ (q.inHand.toList ++ q.waiting)

variable {q q' : WorkQueue α}

theorem tasks_next (h : Next q q') :
    q'.tasks = q.tasks ∧ q'.accepted = q.accepted ∧ q'.putBack = q.putBack ∨
      (∃ task, q'.tasks = q.tasks ++ [task] ∧ q'.accepted = q.accepted ++ [task] ∧
        q'.putBack = q.putBack) ∨
      q'.tasks.Perm q.tasks ∧ q'.accepted = q.accepted ∧ q'.putBack = true := by
  cases h with
  | accept task =>
      refine .inr (.inl ⟨task, ?_, rfl, rfl⟩)
      simp only [tasks, List.append_assoc]
  | take hwaiting hfree =>
      refine .inl ⟨?_, rfl, rfl⟩
      simp only [tasks, hwaiting, hfree, Option.toList, List.nil_append, List.singleton_append]
  | putBack hinHand =>
      refine .inr (.inr ⟨?_, rfl, rfl⟩)
      simp only [tasks, hinHand, Option.toList, List.nil_append]
      exact List.Perm.append_left _ List.perm_append_comm
  | finish hinHand =>
      refine .inl ⟨?_, rfl, rfl⟩
      simp only [tasks, hinHand, Option.toList, List.nil_append, List.append_assoc]

/-- **Nothing is lost and nothing is done twice.** -/
theorem tasks_perm (h : system.Reachable q) : q.tasks.Perm q.accepted := by
  refine invariant (I := fun q => q.tasks.Perm q.accepted) ?_ ?_ h
  · rintro s rfl
    exact List.Perm.refl _
  · intro s s' hperm hnext
    obtain ⟨htasks, haccepted, -⟩ | ⟨task, htasks, haccepted, -⟩ | ⟨htasks, haccepted, -⟩ :=
      tasks_next hnext
    · rwa [htasks, haccepted]
    · rw [htasks, haccepted]
      exact hperm.append_right _
    · rw [haccepted]
      exact htasks.trans hperm

/-- **First in, first out**, unless something has been put back. -/
theorem tasks_eq (h : system.Reachable q) (hkept : q.putBack = false) : q.tasks = q.accepted := by
  refine invariant (I := fun q => q.putBack = false → q.tasks = q.accepted) ?_ ?_ h hkept
  · rintro s rfl -
    rfl
  · intro s s' ih hnext hkept
    obtain ⟨htasks, haccepted, hsame⟩ | ⟨task, htasks, haccepted, hsame⟩ | ⟨-, -, hput⟩ :=
      tasks_next hnext
    · rw [htasks, haccepted, ih (hsame ▸ hkept)]
    · rw [htasks, haccepted, ih (hsame ▸ hkept)]
    · rw [hput] at hkept
      cases hkept

end WorkQueue

/-!
# `ConcurrentTaskQueue`

A queue and a counter beside it. A producer counts its task before it pushes it, and a
consumer claims everything that is counted at once and then takes tasks one by one, so
that the counter runs ahead of the queue by the pushes in progress and behind it by what
has been claimed and not taken.
-/

namespace ProjectTetris

structure ConcurrentTaskQueue (α : Type) where
  taskQueue : List α
  taskCount : Nat
  deriving Repr

namespace ConcurrentTaskQueue

variable {α : Type}

/-- The first half of `Enqueue`. -/
def countTask (q : ConcurrentTaskQueue α) : ConcurrentTaskQueue α :=
  { q with taskCount := q.taskCount + 1 }

/-- The second half. -/
def push (q : ConcurrentTaskQueue α) (task : α) : ConcurrentTaskQueue α :=
  { q with taskQueue := q.taskQueue ++ [task] }

/-- `ClaimTaskCount` gives the counter's value and clears it. -/
def claimTaskCount (q : ConcurrentTaskQueue α) : ConcurrentTaskQueue α := { q with taskCount := 0 }

def restoreClaimedTaskCount (q : ConcurrentTaskQueue α) (count : Nat) : ConcurrentTaskQueue α :=
  if count = 0 then q else { q with taskCount := q.taskCount + count }

/-- One round of the loop of `Dequeue`: `none` is to try again. -/
def tryPop (q : ConcurrentTaskQueue α) : Option (α × ConcurrentTaskQueue α) :=
  match q.taskQueue with
  | [] => none
  | task :: rest => some (task, { q with taskQueue := rest })

/-- What is counted or claimed is in the queue or being pushed. -/
def Accounted (q : ConcurrentTaskQueue α) (claimed pushing : Nat) : Prop :=
  q.taskCount + claimed = q.taskQueue.length + pushing

variable {q q' : ConcurrentTaskQueue α} {task : α} {claimed pushing : Nat}

theorem tryPop_eq_some : q.tryPop = some (task, q') ↔
    q.taskQueue = task :: q'.taskQueue ∧ q'.taskCount = q.taskCount := by
  obtain ⟨queue, count⟩ := q
  obtain ⟨queue', count'⟩ := q'
  cases queue with
  | nil => simp [tryPop]
  | cons first rest =>
      simp only [tryPop, Option.some.injEq, Prod.mk.injEq, mk.injEq, List.cons.injEq, and_assoc]
      exact ⟨fun ⟨h₁, h₂, h₃⟩ => ⟨h₁, h₂, h₃.symm⟩, fun ⟨h₁, h₂, h₃⟩ => ⟨h₁, h₂, h₃.symm⟩⟩

theorem balanced_count (h : q.Accounted claimed pushing) :
    q.countTask.Accounted claimed (pushing + 1) := by
  unfold Accounted at h ⊢
  simp only [countTask]
  omega

theorem balanced_push (h : q.Accounted claimed (pushing + 1)) :
    (q.push task).Accounted claimed pushing := by
  unfold Accounted at h ⊢
  simp only [push, List.length_append, List.length_singleton]
  omega

theorem balanced_claim (h : q.Accounted 0 pushing) :
    q.claimTaskCount.Accounted q.taskCount pushing := by
  unfold Accounted at h ⊢
  simp only [claimTaskCount]
  omega

theorem balanced_restore (h : q.Accounted claimed pushing) :
    (q.restoreClaimedTaskCount claimed).Accounted 0 pushing := by
  unfold Accounted at h ⊢
  unfold restoreClaimedTaskCount
  split
  · omega
  · simp only
    omega

theorem balanced_pop (h : q.Accounted (claimed + 1) pushing) (hpop : q.tryPop = some (task, q')) :
    q'.Accounted claimed pushing := by
  obtain ⟨hqueue, hcount⟩ := tryPop_eq_some.1 hpop
  unfold Accounted at h ⊢
  rw [hqueue, List.length_cons] at h
  omega

@[simp] theorem restoreClaimedTaskCount_taskQueue (count : Nat) :
    (q.restoreClaimedTaskCount count).taskQueue = q.taskQueue := by
  unfold restoreClaimedTaskCount
  split <;> rfl

end ConcurrentTaskQueue

end ProjectTetris

import Mathlib.Algebra.Order.Ring.Int
import Mathlib.Data.List.Basic

/-!
# A schedule with a fixed frame

A job is due at a time and starts no earlier. The next one is due one frame later, or as
soon as this one has started if that is later still. So late jobs are not made up for by a
burst: starts that are `m + 1` apart are `m` frames apart at least. As long as no job is late
by more than a frame the schedule does not drift.
-/

namespace Schedule

variable {frame first next now : Int} {starts dues : List Int}

/-- When the next job is due. -/
def nextDue (frame next now : Int) : Int := if next + frame < now then now else next + frame

theorem nextDue_ge (frame next now : Int) :
    next + frame ≤ nextDue frame next now ∧ now ≤ nextDue frame next now := by
  unfold nextDue
  split <;> omega

theorem nextDue_eq (hlate : now ≤ next + frame) : nextDue frame next now = next + frame :=
  if_neg (Int.not_lt.mpr hlate)

/-- The starts so far, and when the next one is due. -/
structure Spaced (frame next : Int) (starts : List Int) : Prop where
  before : ∀ (i : Nat) a, starts[i]? = some a → a + (starts.length - 1 - i : Nat) * frame ≤ next
  apart : ∀ (i m : Nat) a b, starts[i]? = some a → starts[i + m + 1]? = some b → a + m * frame ≤ b

theorem spaced_nil : Spaced frame next [] := ⟨nofun, nofun⟩

theorem getElem?_snoc_cases {α : Type} {l : List α} {x y : α} {i : Nat}
    (h : (l ++ [x])[i]? = some y) :
    l[i]? = some y ∧ i < l.length ∨ i = l.length ∧ x = y := by
  obtain hlt | hge := Nat.lt_or_ge i l.length
  · rw [List.getElem?_append_left hlt] at h
    exact .inl ⟨h, hlt⟩
  · rw [List.getElem?_append_right hge] at h
    obtain hzero | hpos := Nat.eq_zero_or_pos (i - l.length)
    · rw [hzero] at h
      exact .inr ⟨by omega, Option.some.inj h⟩
    · rw [List.getElem?_eq_none (by rw [List.length_singleton]; exact hpos)] at h
      cases h

/-- **A job starts**, no earlier than it is due. -/
theorem Spaced.start (h : Spaced frame next starts) (hdue : next ≤ now) :
    Spaced frame (nextDue frame next now) (starts ++ [now]) where
  before := by
    intro i a ha
    obtain ⟨hframe, hnow⟩ := nextDue_ge frame next now
    rw [List.length_append, List.length_singleton]
    obtain ⟨hold, hlt⟩ | ⟨rfl, rfl⟩ := getElem?_snoc_cases ha
    · have hbefore := h.before i a hold
      have hsucc : starts.length + 1 - 1 - i = (starts.length - 1 - i) + 1 := by omega
      rw [hsucc]
      push_cast
      rw [Int.add_mul, Int.one_mul]
      omega
    · have hzero : starts.length + 1 - 1 - starts.length = 0 := by omega
      rw [hzero]
      omega
  apart := by
    intro i m a b ha hb
    obtain ⟨hold, hlt⟩ | ⟨hlast, rfl⟩ := getElem?_snoc_cases hb
    · obtain ⟨hold', -⟩ | ⟨heq, -⟩ := getElem?_snoc_cases ha
      · exact h.apart i m a b hold' hold
      · omega
    · obtain ⟨hold', -⟩ | ⟨heq, -⟩ := getElem?_snoc_cases ha
      · have hbefore := h.before i a hold'
        have hm : starts.length - 1 - i = m := by omega
        rw [hm] at hbefore
        exact Int.le_trans hbefore hdue
      · omega

/-- As long as no job has started later than a frame after it was due, the dues are those of the
first schedule. -/
structure OnTime (frame first next : Int) (starts dues : List Int) : Prop where
  length : dues.length = starts.length
  dues : (∀ (i : Nat) a d, starts[i]? = some a → dues[i]? = some d → a ≤ d + frame) →
    next = first + starts.length * frame ∧ ∀ (i : Nat) d, dues[i]? = some d → d = first + i * frame

theorem onTime_nil : OnTime frame first first [] [] :=
  ⟨rfl, fun _ => ⟨by rw [List.length_nil]; omega, nofun⟩⟩

theorem OnTime.start (h : OnTime frame first next starts dues) :
    OnTime frame first (nextDue frame next now) (starts ++ [now]) (dues ++ [next]) where
  length := by
    rw [List.length_append, List.length_append, h.length]
    rfl
  dues := by
    intro hlate
    have hbefore : ∀ (i : Nat) a d, starts[i]? = some a → dues[i]? = some d → a ≤ d + frame := by
      intro i a d ha hd
      have hi := (List.getElem?_eq_some_iff.mp ha).1
      refine hlate i a d ?_ ?_
      · rwa [List.getElem?_append_left hi]
      · rwa [List.getElem?_append_left (h.length ▸ hi)]
    have hnow : now ≤ next + frame := by
      refine hlate starts.length now next List.getElem?_concat_length ?_
      rw [← h.length]
      exact List.getElem?_concat_length
    obtain ⟨hnext, hdues⟩ := h.dues hbefore
    refine ⟨?_, ?_⟩
    · rw [nextDue_eq hnow, hnext, List.length_append, List.length_singleton]
      push_cast
      rw [Int.add_mul, Int.one_mul]
      omega
    · intro i d hd
      obtain ⟨hold, -⟩ | ⟨rfl, rfl⟩ := getElem?_snoc_cases hd
      · exact hdues i d hold
      · rw [hnext, h.length]

end Schedule

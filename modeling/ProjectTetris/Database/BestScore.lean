import ProjectTetris.Lib.Transition
import Mathlib.Order.Lattice
import Mathlib.Algebra.Order.Group.Int

/-!
# The best score

A score takes three steps to become the best one: it is compared with the score the
session remembers when its game ends, written by the player's database thread later, and
remembered by the session when the result comes back. The write is unconditional, so a
game that ends in between is compared with a score that is already beaten.
-/

namespace ProjectTetris

open Transition

/-- The scores of one player, from the login on, and what is on its way between the room,
the database thread and the session. -/
structure PlayerScores where
  /-- `single_score` of the player's row. -/
  singleScore : Int
  /-- `max_score` of the session's `db_info_`. -/
  maxScore : Int
  /-- The scores of the `UPDATE_SCORE` tasks the database thread has not executed. -/
  taskQueue : List Int := []
  /-- The scores of the results that the session has not processed, as they were posted. -/
  results : List Int := []
  /-- The scores of the finished games. -/
  finished : List Int := []
  deriving DecidableEq, Repr

namespace PlayerScores

/-- `RequestUpdateScore`, at the end of a game. -/
def requestUpdateScore (s : PlayerScores) (score : Int) : PlayerScores :=
  { s with
    taskQueue := if s.maxScore < score then s.taskQueue ++ [score] else s.taskQueue
    finished := s.finished ++ [score] }

/-- `ExecuteUpdateScore`. A row that already has the score is affected or not as the connection
counts them; without affected rows the result is the failure the session ignores. -/
def executeUpdateScore (s : PlayerScores) (newScore : Int) (countsFound : Bool) : PlayerScores :=
  { s with
    singleScore := newScore
    results := if newScore ≠ s.singleScore ∨
      countsFound then s.results ++ [newScore] else s.results }

/-- `UpdateMaxScore`. -/
def updateMaxScore (s : PlayerScores) (maxScore : Int) : PlayerScores := { s with maxScore }

end PlayerScores

inductive ScoreAction
  | gameEnd (score : Int)
  | execute (countsFound : Bool)
  /-- The session processes a result; the IO threads can bring the results in any order. -/
  | result (n : Nat)

def ScoreAction.step : ScoreAction → PlayerScores → Option PlayerScores
  | .gameEnd score, s => some (s.requestUpdateScore score)
  | .execute countsFound, s =>
      match s.taskQueue with
      | [] => none
      | newScore :: rest =>
          some ({ s with taskQueue := rest }.executeUpdateScore newScore countsFound)
  | .result n, s =>
      s.results[n]?.map fun maxScore =>
        { s with results := s.results.eraseIdx n }.updateMaxScore maxScore

/-- The session after its login. -/
def PlayerScores.loggedIn (score : Int) : PlayerScores :=
  { singleScore := score, maxScore := score }

/-- The runs of one session of the player. -/
def scoreSystem (score : Int) (allowed : ScoreAction → PlayerScores → Prop) :
    System PlayerScores :=
  .taking (· = .loggedIn score) ScoreAction.step allowed

/-- A game whose score is requested ends with the best of the scores under way, and a result is not
processed before an earlier one of a lower score. -/
def ScoreAction.InOrder : ScoreAction → PlayerScores → Prop
  | .gameEnd score, s => s.maxScore < score → ∀ x ∈ s.results ++ s.taskQueue, x ≤ score
  | .execute _, _ => True
  | .result n, s => ∀ r ∈ s.results[n]?, ∀ x ∈ s.results.take n, r ≤ x

/-! ## What is under way ascends -/

theorem getLastD_append (xs ys : List Int) (a : Int) :
    (xs ++ ys).getLastD a = ys.getLastD (xs.getLastD a) := by
  induction xs generalizing a with
  | nil => rfl
  | cons x xs ih =>
      rw [List.cons_append, List.getLastD_cons, List.getLastD_cons]
      exact ih x

theorem le_getLastD {xs : List Int} {a : Int} (h : (a :: xs).Pairwise (· ≤ ·)) {x : Int}
    (hx : x ∈ a :: xs) :
    x ≤ xs.getLastD a := by
  induction xs generalizing a x with
  | nil => exact le_of_eq (List.mem_singleton.mp hx)
  | cons y ys ih =>
      rw [List.getLastD_cons]
      obtain ⟨ha, hys⟩ := List.pairwise_cons.mp h
      rcases List.mem_cons.mp hx with hxa | hxy
      · subst hxa
        exact le_trans (ha y (List.mem_cons_self ..)) (ih hys (List.mem_cons_self ..))
      · exact ih hys hxy

/-- Taking out a value that all before it are equal to. -/
theorem getLastD_take {xs ys : List Int} {r : Int} (h : ∀ x ∈ xs, x = r) (a : Int) :
    (xs ++ ys).getLastD r = (xs ++ r :: ys).getLastD a := by
  have hlast : xs.getLastD r = r := by
    rcases List.mem_cons.mp (List.getLastD_mem_cons (l := xs) (a := r)) with hr | hr
    · exact hr
    · exact h _ hr
  rw [getLastD_append, getLastD_append, List.getLastD_cons, hlast]

namespace PlayerScores

/-- What is under way was requested in ascending order, and the row has the last score executed. -/
structure Ascending (score : Int) (s : PlayerScores) : Prop where
  sorted : (s.maxScore :: (s.results ++ s.taskQueue)).Pairwise (· ≤ ·)
  row : s.singleScore = s.results.getLastD s.maxScore
  best : s.finished.foldl max score = (s.results ++ s.taskQueue).getLastD s.maxScore

variable {score newScore : Int} {s s' : PlayerScores}

theorem Ascending.requestUpdateScore (h : Ascending score s)
    (horder : s.maxScore < newScore → ∀ x ∈ s.results ++ s.taskQueue, x ≤ newScore) :
    Ascending score (s.requestUpdateScore newScore) := by
  have hbest : (s.finished ++ [newScore]).foldl max score
      = max ((s.results ++ s.taskQueue).getLastD s.maxScore) newScore := by
    rw [List.foldl_append, h.best]
    rfl
  unfold PlayerScores.requestUpdateScore
  split
  next hlt =>
    have hle : ∀ x ∈ s.maxScore :: (s.results ++ s.taskQueue), x ≤ newScore := by
      intro x hx
      rcases List.mem_cons.mp hx with hx | hx
      · omega
      · exact horder hlt x hx
    refine ⟨?_, h.row, ?_⟩
    · rw [← List.append_assoc, ← List.cons_append]
      refine List.pairwise_append.mpr ⟨h.sorted, List.pairwise_singleton .., ?_⟩
      intro x hx y hy
      rw [List.mem_singleton.mp hy]
      exact hle x hx
    · rw [hbest, ← List.append_assoc, List.getLastD_concat]
      exact max_eq_right (hle _ List.getLastD_mem_cons)
  next hge =>
    refine ⟨h.sorted, h.row, ?_⟩
    have hlast := le_getLastD h.sorted (List.mem_cons_self ..)
    rw [hbest]
    exact max_eq_left (by omega)

theorem Ascending.executeUpdateScore {rest : List Int} (countsFound : Bool) (h : Ascending score s)
    (hqueue : s.taskQueue = newScore :: rest) :
    Ascending score ({ s with taskQueue := rest }.executeUpdateScore newScore countsFound) := by
  obtain ⟨hsorted, hrow, hbest⟩ := h
  rw [hqueue] at hsorted hbest
  unfold PlayerScores.executeUpdateScore
  split
  next =>
    have hrest : s.results ++ [newScore] ++ rest = s.results ++ newScore :: rest := by
      rw [List.append_assoc, List.singleton_append]
    refine ⟨?_, List.getLastD_concat.symm, ?_⟩
    · show (s.maxScore :: (s.results ++ [newScore] ++ rest)).Pairwise (· ≤ ·)
      rwa [hrest]
    · show s.finished.foldl max score = (s.results ++ [newScore] ++ rest).getLastD s.maxScore
      rwa [hrest]
  next hsame =>
    have hx : newScore = s.singleScore := by
      by_contra hne
      exact hsame (Or.inl hne)
    refine ⟨?_, hx ▸ hrow, ?_⟩
    · exact hsorted.sublist (((List.sublist_cons_self ..).append_left _).cons_cons _)
    · show s.finished.foldl max score = (s.results ++ rest).getLastD s.maxScore
      rw [hbest, getLastD_append, getLastD_append, List.getLastD_cons, ← hrow, hx]

theorem Ascending.updateMaxScore {r : Int} {before after : List Int} (h : Ascending score s)
    (hresults : s.results = before ++ r :: after) (hfirst : ∀ x ∈ before, r ≤ x) :
    Ascending score ({ s with results := before ++ after }.updateMaxScore r) := by
  obtain ⟨hsorted, hrow, hbest⟩ := h
  rw [hresults, List.append_assoc, List.cons_append] at hsorted hbest
  rw [hresults] at hrow
  obtain ⟨_, hsorted⟩ := List.pairwise_cons.mp hsorted
  obtain ⟨_, hafter, hbefore⟩ := List.pairwise_append.mp hsorted
  have hsame : ∀ x ∈ before, x = r := by
    intro x hx
    exact le_antisymm (hbefore x hx r (List.mem_cons_self ..)) (hfirst x hx)
  have hrest : before ++ after ++ s.taskQueue = before ++ (after ++ s.taskQueue) :=
    List.append_assoc ..
  refine ⟨?_, hrow.trans (getLastD_take hsame _).symm, ?_⟩
  · show (r :: (before ++ after ++ s.taskQueue)).Pairwise (· ≤ ·)
    rw [hrest]
    refine List.pairwise_cons.mpr ⟨?_, hsorted.sublist ((List.sublist_cons_self ..).append_left _)⟩
    intro x hx
    rcases List.mem_append.mp hx with hx | hx
    · exact hfirst x hx
    · exact (List.pairwise_cons.mp hafter).1 x hx
  · show s.finished.foldl max score = (before ++ after ++ s.taskQueue).getLastD r
    rw [hrest]
    exact hbest.trans (getLastD_take hsame _).symm

end PlayerScores

/-! ## Runs -/

theorem ScoreAction.step_cases {a : ScoreAction} {s s' : PlayerScores} (h : a.step s = some s') :
    (∃ score, a = .gameEnd score ∧ s' = s.requestUpdateScore score) ∨
    (∃ countsFound newScore rest, a = .execute countsFound ∧ s.taskQueue = newScore :: rest ∧
      s' = { s with taskQueue := rest }.executeUpdateScore newScore countsFound) ∨
    (∃ before r after, a = .result before.length ∧ s.results = before ++ r :: after ∧
      s' = { s with results := before ++ after }.updateMaxScore r) := by
  cases a with
  | gameEnd score => exact Or.inl ⟨score, rfl, (Option.some.inj h).symm⟩
  | execute countsFound =>
      cases hqueue : s.taskQueue with
      | nil => simp [ScoreAction.step, hqueue] at h
      | cons newScore rest =>
          simp only [ScoreAction.step, hqueue, Option.some.injEq] at h
          exact Or.inr (Or.inl ⟨countsFound, newScore, rest, rfl, rfl, h.symm⟩)
  | result n =>
      obtain ⟨r, hr, hs'⟩ := Option.map_eq_some_iff.mp h
      obtain ⟨hn, hget⟩ := List.getElem?_eq_some_iff.mp hr
      have hlength : (s.results.take n).length = n := List.length_take_of_le (by omega)
      refine Or.inr (Or.inr ⟨s.results.take n, r, s.results.drop (n + 1), ?_, ?_, ?_⟩)
      · rw [hlength]
      · rw [← hget, ← List.drop_eq_getElem_cons hn, List.take_append_drop]
      · rw [← hs', List.eraseIdx_eq_take_drop_succ]

namespace PlayerScores

variable {score : Int} {s s' : PlayerScores} {a : ScoreAction}

theorem ascending_loggedIn (score : Int) : Ascending score (.loggedIn score) :=
  ⟨List.pairwise_singleton .., rfl, rfl⟩

/-- One action keeps the order, and lowers neither score. -/
theorem Ascending.step (h : Ascending score s) (horder : a.InOrder s)
    (hstep : a.step s = some s') :
    Ascending score s' ∧ s.singleScore ≤ s'.singleScore ∧ s.maxScore ≤ s'.maxScore := by
  rcases ScoreAction.step_cases hstep
    with ⟨newScore, rfl, rfl⟩ | ⟨countsFound, newScore, rest, rfl, hqueue, rfl⟩
    | ⟨before, r, after, rfl, hresults, rfl⟩
  · exact ⟨h.requestUpdateScore horder, le_refl _, le_refl _⟩
  · refine ⟨h.executeUpdateScore countsFound hqueue, ?_, le_refl _⟩
    have hlast : s.singleScore ∈ s.maxScore :: s.results := h.row ▸ List.getLastD_mem_cons
    have hsorted := h.sorted
    rw [hqueue, ← List.cons_append] at hsorted
    exact (List.pairwise_append.mp hsorted).2.2 _ hlast _ (List.mem_cons_self ..)
  · have hget : s.results[before.length]? = some r := by
      rw [hresults, List.getElem?_append_right (le_refl _), Nat.sub_self]
      rfl
    have hfirst : ∀ x ∈ before, r ≤ x := by
      intro x hx
      refine horder r hget x ?_
      rw [hresults, List.take_left]
      exact hx
    refine ⟨h.updateMaxScore hresults hfirst, le_refl _, ?_⟩
    refine (List.pairwise_cons.mp h.sorted).1 r ?_
    rw [hresults]
    simp

theorem ascending_reachable (h : (scoreSystem score ScoreAction.InOrder).Reachable s) :
    Ascending score s := by
  refine invariant ?_ ?_ h
  · rintro _ rfl
    exact ascending_loggedIn score
  · rintro s s' hs ⟨a, horder, hstep⟩
    exact (hs.step horder hstep).1

/-- **The best score never goes down** while the scores under way ascend: neither the stored nor
the remembered one is lowered from there on, and with nothing under way both are the best of all
games. -/
theorem bestScore_of_inOrder (h : (scoreSystem score ScoreAction.InOrder).Reachable s) :
    (∀ s', (scoreSystem score ScoreAction.InOrder).Run s s' →
      s.singleScore ≤ s'.singleScore ∧ s.maxScore ≤ s'.maxScore) ∧
    (s.taskQueue = [] → s.results = [] →
      s.singleScore = s.finished.foldl max score ∧ s.maxScore = s.finished.foldl max score) := by
  refine ⟨?_, ?_⟩
  · intro s' hrun
    have hstep : ∀ s s', (scoreSystem score ScoreAction.InOrder).Reachable s →
        (scoreSystem score ScoreAction.InOrder).next s s' →
        (s.singleScore, s.maxScore) ≤ (s'.singleScore, s'.maxScore) := by
      rintro s s' hs ⟨a, horder, hstep⟩
      exact ((ascending_reachable hs).step horder hstep).2
    exact Transition.monotone (f := fun s : PlayerScores => (s.singleScore, s.maxScore))
      hstep h hrun
  · intro hqueue hresults
    obtain ⟨_, hrow, hbest⟩ := ascending_reachable h
    rw [hqueue, hresults] at hbest
    rw [hresults] at hrow
    exact ⟨hrow.trans hbest.symm, hbest.symm⟩

/-- Two games end before the first result is back, the better one last. -/
theorem bestScore_of_two_games :
    (∀ s', (scoreSystem 0 ScoreAction.InOrder).Run ⟨80, 0, [100], [80], [80, 100]⟩ s' →
      80 ≤ s'.singleScore ∧ 0 ≤ s'.maxScore) ∧
    (100 : Int) = [80, 100].foldl max 0 := by
  have h₀ := System.Reachable.start (S := scoreSystem 0 ScoreAction.InOrder) rfl
  have h₁ := h₀.next ⟨.gameEnd 80, by simp [ScoreAction.InOrder, loggedIn], rfl⟩
  have h₂ :=
    h₁.next ⟨.gameEnd 100, by simp [ScoreAction.InOrder, requestUpdateScore, loggedIn], rfl⟩
  have h₃ := h₂.next ⟨.execute false, trivial, rfl⟩
  have h₄ := h₃.next ⟨.execute false, trivial, rfl⟩
  have h₅ := h₄.next ⟨.result 0, by simp [ScoreAction.InOrder], rfl⟩
  have h₆ := h₅.next ⟨.result 0, by simp [ScoreAction.InOrder], rfl⟩
  exact ⟨(bestScore_of_inOrder h₃).1, ((bestScore_of_inOrder h₆).2 rfl rfl).1⟩

/-- Two games end before the first result is back, the better one first: its score is overwritten.
-/
theorem bestScore_lowered :
    ¬ ∀ (score : Int) (s s' : PlayerScores), (scoreSystem score fun _ _ => True).Reachable s →
      (scoreSystem score fun _ _ => True).Run s s' → s.singleScore ≤ s'.singleScore ∧
      s.maxScore ≤ s'.maxScore := by
  intro h
  have h₀ := System.Reachable.start (S := scoreSystem 0 fun _ _ => True) rfl
  have h₁ := h₀.next ⟨.gameEnd 100, trivial, rfl⟩
  have h₂ := h₁.next ⟨.gameEnd 80, trivial, rfl⟩
  have h₃ := h₂.next ⟨.execute false, trivial, rfl⟩
  have hlower := (h 0 _ _ h₃ (.single ⟨.execute false, trivial, rfl⟩)).1
  exact absurd hlower (by decide)

end PlayerScores

end ProjectTetris

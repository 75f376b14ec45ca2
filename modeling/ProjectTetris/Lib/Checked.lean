/-!
# Programs that may fail

Rules for programs in `Option`, where `none` is a failure that must be shown not
to happen. `Ok x P` says that `x` did not fail and that its value satisfies `P`;
the lemmas compose such facts along binds and loops, so that a proof about a
program never takes the program's `do` block apart twice.
-/

namespace Checked

variable {α β γ : Type}

/-- `x` succeeds, with a value satisfying `P`. -/
def Ok (x : Option α) (P : α → Prop) : Prop := ∃ a, x = some a ∧ P a

theorem Ok.intro {x : Option α} {a : α} {P : α → Prop} (hx : x = some a) (h : P a) : Ok x P :=
  ⟨a, hx, h⟩

theorem Ok.pure {a : α} {P : α → Prop} (h : P a) : Ok (some a) P := ⟨a, rfl, h⟩

theorem Ok.mono {x : Option α} {P Q : α → Prop} (h : Ok x P) (hPQ : ∀ a, P a → Q a) : Ok x Q := by
  obtain ⟨a, hx, ha⟩ := h
  exact ⟨a, hx, hPQ a ha⟩

/-- What is known of a value that was computed. -/
theorem Ok.of_eq_some {x : Option α} {P : α → Prop} (h : Ok x P) {a : α} (hx : x = some a) :
    P a := by
  obtain ⟨b, hb, hP⟩ := h
  rw [hb] at hx
  injection hx with hx
  exact hx ▸ hP

/-- Sequencing: the second program is verified under what the first established. -/
theorem Ok.bind {x : Option α} {f : α → Option β} {P : α → Prop} {Q : β → Prop} (h : Ok x P)
    (hf : ∀ a, P a → Ok (f a) Q) : Ok (x >>= f) Q := by
  obtain ⟨a, rfl, ha⟩ := h
  exact hf a ha

/--
**The loop rule.** An invariant that may depend on the number of turns made, kept
by every turn, holds of the last turn at the end of the loop.
-/
theorem Ok.foldlM_indexed {f : β → α → Option β} {I : Nat → β → Prop} :
    ∀ {l : List α} {n : Nat} {b : β}, I n b →
      (∀ n b, ∀ a ∈ l, I n b → Ok (f b a) (I (n + 1))) → Ok (l.foldlM f b) (I (n + l.length))
  | [], n, b, h, _ => ⟨b, rfl, h⟩
  | a :: l, n, b, h, hf => by
      rw [List.foldlM_cons, List.length_cons, show n + (l.length + 1) = n + 1 + l.length by omega]
      refine Ok.bind (hf n b a (List.mem_cons_self ..) h) fun c hc => ?_
      exact Ok.foldlM_indexed hc fun m b' a' ha' => hf m b' a' (List.mem_cons_of_mem _ ha')

/-- A map whose every element succeeds succeeds. -/
theorem mapM_eq_some {f : α → Option β} {g : α → β} :
    ∀ {l : List α}, (∀ a ∈ l, f a = some (g a)) → l.mapM f = some (l.map g)
  | [], _ => rfl
  | a :: l, h => by
      rw [List.mapM_cons, h a (List.mem_cons_self ..),
        mapM_eq_some fun a' ha' => h a' (List.mem_cons_of_mem _ ha')]
      rfl

theorem exists_mapM {f : α → Option β} :
    ∀ {l : List α}, (∀ a ∈ l, ∃ b, f a = some b) → ∃ bs, l.mapM f = some bs
  | [], _ => ⟨[], rfl⟩
  | a :: l, h => by
      obtain ⟨b, hb⟩ := h a (List.mem_cons_self ..)
      obtain ⟨bs, hbs⟩ := exists_mapM fun a' ha' => h a' (List.mem_cons_of_mem _ ha')
      exact ⟨b :: bs, by simp [List.mapM_cons, hb, hbs]⟩

/-- What a map that succeeded did to each element. -/
theorem getElem?_mapM {f : α → Option β} :
    ∀ {l : List α} {bs : List β}, l.mapM f = some bs → ∀ i : Nat, bs[i]? = (l[i]?).bind f
  | [], bs, h, i => by
      injection h with h
      subst h
      rfl
  | a :: l, bs, h, i => by
      rw [List.mapM_cons] at h
      obtain ⟨b, hb, h⟩ := Option.bind_eq_some_iff.mp h
      obtain ⟨rest, hrest, h⟩ := Option.bind_eq_some_iff.mp h
      injection h with h
      subst h
      cases i with
      | zero => simp [hb]
      | succ i => simpa using getElem?_mapM hrest i

theorem length_mapM {f : α → Option β} :
    ∀ {l : List α} {bs : List β}, l.mapM f = some bs → bs.length = l.length
  | [], bs, h => by
      injection h with h
      subst h
      rfl
  | a :: l, bs, h => by
      rw [List.mapM_cons] at h
      obtain ⟨b, _, h⟩ := Option.bind_eq_some_iff.mp h
      obtain ⟨rest, hrest, h⟩ := Option.bind_eq_some_iff.mp h
      injection h with h
      subst h
      rw [List.length_cons, List.length_cons, length_mapM hrest]

/-! ## Two programs side by side -/

/-- Two programs that branch on the same condition take the same branch. -/
theorem both_ite {c : Prop} [Decidable c] {x y : Option α} {x' y' : Option β} {a : α} {b : β}
    (ha : (if c then x else y) = some a) (hb : (if c then x' else y') = some b) :
    (c ∧ x = some a ∧ x' = some b) ∨ (¬ c ∧ y = some a ∧ y' = some b) := by
  by_cases hc : c
  · rw [if_pos hc] at ha hb
    exact .inl ⟨hc, ha, hb⟩
  · rw [if_neg hc] at ha hb
    exact .inr ⟨hc, ha, hb⟩

/-! ## Loops that commute with a map -/

/-- A loop whose body commutes with `h` commutes with it. -/
theorem foldlM_commutes {σ : Type} {h : σ → σ} {f : σ → α → Option σ}
    (hf : ∀ s a, f (h s) a = (f s a).map h) (l : List α) (s : σ) :
    l.foldlM f (h s) = (l.foldlM f s).map h := by
  induction l generalizing s with
  | nil => rfl
  | cons a rest ih =>
      rw [List.foldlM_cons, List.foldlM_cons, hf]
      cases f s a with
      | none => rfl
      | some s' => exact ih s'

theorem mapM_commutes {h : α → α} {f : α → Option α} (hf : ∀ a, f (h a) = (f a).map h)
    (l : List α) :
    (l.map h).mapM f = (l.mapM f).map (List.map h) := by
  induction l with
  | nil => rfl
  | cons a rest ih =>
      rw [List.map_cons, List.mapM_cons, List.mapM_cons, hf, ih]
      cases f a with
      | none => rfl
      | some b => cases rest.mapM f <;> rfl

/-- Two loops over a list whose bodies agree up to `h`, element by element. -/
theorem mapM_agree {γ : Type} {h : β → β} {f g : γ → Option β} {l : List γ}
    (hfg : ∀ a ∈ l, (f a).map h = (g a).map h) :
    (l.mapM f).map (List.map h) = (l.mapM g).map (List.map h) := by
  induction l with
  | nil => rfl
  | cons a rest ih =>
      have hrest := ih fun b hb => hfg b (List.mem_cons_of_mem a hb)
      have ha := hfg a (List.mem_cons_self ..)
      rw [List.mapM_cons, List.mapM_cons]
      cases hf : f a with
      | none =>
          rw [hf, Option.map_none, eq_comm, Option.map_eq_none_iff] at ha
          rw [ha]
          rfl
      | some b =>
          rw [hf, Option.map_some, eq_comm, Option.map_eq_some_iff] at ha
          obtain ⟨c, hc, hbc⟩ := ha
          rw [hc]
          cases hl : rest.mapM f with
          | none =>
              rw [hl, Option.map_none, eq_comm, Option.map_eq_none_iff] at hrest
              rw [hrest]
              rfl
          | some bs =>
              rw [hl, Option.map_some, eq_comm, Option.map_eq_some_iff] at hrest
              obtain ⟨cs, hcs, hrest⟩ := hrest
              rw [hcs]
              show some (h b :: bs.map h) = some (h c :: cs.map h)
              rw [hbc, hrest]

end Checked

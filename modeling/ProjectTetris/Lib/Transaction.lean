/-!
# Computations that may throw, and transactions

A computation over a state comes back with a value or throws, and a throw leaves the state
as it found it. `Triple` says what holds after either. Over it stands a connection to a
database: what is stored, what the connection sees, and whether each statement is a
transaction of its own. Any call on it that asks the server for something may throw.

The rule at the end is that of a transaction which is rolled back whenever its body does
not succeed.
-/

namespace Transaction

/-! ## Computations that may throw -/

def Attempt (S α : Type) : Type := S → Except Unit α × S

namespace Attempt

variable {S α β : Type}

def ret (a : α) : Attempt S α := fun s => (.ok a, s)

def andThen (x : Attempt S α) (f : α → Attempt S β) : Attempt S β := fun s =>
  match x s with
  | (.ok a, s') => f a s'
  | (.error e, s') => (.error e, s')

instance : Monad (Attempt S) where
  pure := ret
  bind := andThen

/-- A throw. -/
def fail : Attempt S α := fun s => (.error (), s)

/-- `catch (...) { handler; throw; }` -/
def onThrow (x : Attempt S α) (handler : Attempt S Unit) : Attempt S α := fun s =>
  match x s with
  | (.ok a, s') => (.ok a, s')
  | (.error e, s') => (.error e, (handler s').2)

/-- A change of the state that cannot fail. -/
def update (f : S → S) : Attempt S Unit := fun s => (.ok (), f s)

/-- What holds after either end of a computation. -/
def After (Q : α → S → Prop) (E : S → Prop) : Except Unit α × S → Prop
  | (.ok a, s) => Q a s
  | (.error _, s) => E s

/-- From states with `P`, `x` comes back with `Q`, or throws with `E`. -/
def Triple (P : S → Prop) (x : Attempt S α) (Q : α → S → Prop) (E : S → Prop) : Prop :=
  ∀ s, P s → After Q E (x s)

variable {P : S → Prop} {Q : α → S → Prop} {R : β → S → Prop} {E : S → Prop}

theorem triple_pure {a : α} (h : ∀ s, P s → Q a s) : Triple P (pure a) Q E := h

theorem triple_fail (h : ∀ s, P s → E s) : Triple P (fail : Attempt S α) Q E := h

theorem triple_update {f : S → S} {Q : Unit → S → Prop} (h : ∀ s, P s → Q () (f s)) :
    Triple P (update f) Q E := h

/-- One after the other. -/
theorem triple_bind {x : Attempt S α} {f : α → Attempt S β} (hx : Triple P x Q E)
    (hf : ∀ a, Triple (Q a) (f a) R E) : Triple P (x >>= f) R E := by
  intro s hs
  have hxs := hx s hs
  show After R E (andThen x f s)
  unfold andThen
  generalize x s = result at hxs ⊢
  match result, hxs with
  | (.ok a, s'), hxs => exact hf a s' hxs
  | (.error _, s'), hxs => exact hxs

/-- A fact that does not depend on the state. -/
theorem triple_fact {p : Prop} {x : Attempt S α} (h : p → Triple P x Q E) :
    Triple (fun s => p ∧ P s) x Q E := fun s hs => h hs.1 s hs.2

theorem triple_mono {x : Attempt S α} {P' : S → Prop} {Q' : α → S → Prop} {E' : S → Prop}
    (h : Triple P x Q E) (hP : ∀ s, P' s → P s) (hQ : ∀ a s, Q a s → Q' a s)
    (hE : ∀ s, E s → E' s) :
    Triple P' x Q' E' := by
  intro s hs
  have hxs := h s (hP s hs)
  generalize x s = result at hxs ⊢
  match result, hxs with
  | (.ok a, s'), hxs => exact hQ a s' hxs
  | (.error _, s'), hxs => exact hE s' hxs

/-- The handler runs where the throw has left the state. -/
theorem triple_onThrow {x : Attempt S α} {handler : Attempt S Unit} {E' : S → Prop}
    (h : Triple P x Q E') (hhandler : ∀ s, E' s → E (handler s).2) :
    Triple P (onThrow x handler) Q E := by
  intro s hs
  have hxs := h s hs
  unfold onThrow
  generalize x s = result at hxs ⊢
  match result, hxs with
  | (.ok a, s'), hxs => exact hxs
  | (.error _, s'), hxs => exact hhandler s' hxs

end Attempt

open Attempt

/-! ## A connection -/

/-- What comes of a call on the connection. -/
inductive CallOutcome
  | returns
  /-- A null pointer comes back. -/
  | null
  | throws
  deriving DecidableEq, Repr

/-- A connection to a database with contents `D`, and the statements `K` prepared on it. -/
structure Context (D K : Type) where
  stored : D
  /-- What was stored before, in order. -/
  history : List D
  /-- What the connection sees. -/
  working : D
  autoCommit : Bool
  statementCache : List K
  /-- What will come of the next calls; those after them return. -/
  outcomes : List CallOutcome
  deriving Repr

namespace Context

variable {D K α β : Type}

/-- What the connection sees is stored. -/
def store (s : Context D K) : Context D K :=
  { s with stored := s.working, history := s.history ++ [s.stored] }

/-- What comes of the next call. -/
def nextOutcome : Attempt (Context D K) CallOutcome := fun s =>
  match s.outcomes with
  | [] => (.ok .returns, s)
  | outcome :: rest => (.ok outcome, { s with outcomes := rest })

/-- A call that has no effect but may throw, such as `setInt`; `false` for a null pointer. -/
def call : Attempt (Context D K) Bool := do
  match ← nextOutcome with
  | .returns => pure true
  | .null => pure false
  | .throws => fail

/-- `setAutoCommit(false)`. -/
def beginTransaction : Attempt (Context D K) Unit := do
  let _ ← call
  update fun s => { s with autoCommit := false }

/-- `setAutoCommit(true)`: what is not stored yet is stored. -/
def enableAutoCommit : Attempt (Context D K) Unit :=
  update fun s => { s.store with autoCommit := true }

def rollback : Attempt (Context D K) Unit := update fun s => { s with working := s.stored }

def commit : Attempt (Context D K) Unit := do
  let _ ← call
  update store

/-- `GetStatement`, or else `prepareStatement` and `GetStatement` again; `false` for a null
pointer. -/
def getStatement [DecidableEq K] (statement : K) : Attempt (Context D K) Bool := fun s =>
  if statement ∈ s.statementCache then (.ok true, s)
  else (do
    if ← call then
      update fun s => { s with statementCache := statement :: s.statementCache }
      pure true
    else pure false) s

/-- `executeUpdate`, of a statement that changes the contents so and affects so many rows. -/
def executeUpdate (statement : D → D × Nat) : Attempt (Context D K) Nat := do
  let _ ← call
  fun s =>
    let (contents, affected) := statement s.working
    let s' := { s with working := contents }
    (.ok affected, if s'.autoCommit then s'.store else s')

/-- `executeQuery`, `next` on its result set, and reading the first row. -/
def fetchFirst (query : D → Option α) : Attempt (Context D K) (Option α) := do
  if ← call then
    let _ ← call
    let row ← (fun s => (.ok (query s.working), s) : Attempt (Context D K) (Option α))
    match row with
    | none => pure none
    | some a =>
        let _ ← call
        pure (some a)
  else pure none

/-- A body in a transaction, which is rolled back if the body throws or has no result. -/
def transaction (body : Attempt (Context D K) (Option α)) : Attempt (Context D K) (Option α) := do
  let result ← onThrow (do beginTransaction; body) (do rollback; enableAutoCommit)
  if result.isNone then rollback
  enableAutoCommit
  pure result

/-! ## What a call leaves -/

/-- These are the contents, and all that was ever stored has `I`. -/
structure At (I : D → Prop) (mode : Bool) (d w : D) (s : Context D K) : Prop where
  auto : s.autoCommit = mode
  stored : s.stored = d
  working : s.working = w
  kept : I d ∧ ∀ x ∈ s.history, I x

section Rules

variable {I : D → Prop} {auto : Bool} {d w : D}

theorem At.store {s : Context D K} (h : At I auto d w s) (hw : I w) : At I auto w w s.store := by
  refine ⟨h.auto, h.working, h.working, hw, fun x hx => ?_⟩
  rcases List.mem_append.mp hx with hx | hx
  · exact h.kept.2 x hx
  · rw [List.mem_singleton.mp hx, h.stored]
    exact h.kept.1

theorem triple_nextOutcome : Triple (At I auto d w) (nextOutcome (K := K))
    (fun _ => At I auto d w) (At I auto d w) := by
  intro s hs
  unfold nextOutcome
  split
  · exact hs
  · exact ⟨hs.auto, hs.stored, hs.working, hs.kept⟩

theorem triple_call :
    Triple (At I auto d w) (call (K := K)) (fun _ => At I auto d w) (At I auto d w) := by
  refine triple_bind triple_nextOutcome fun outcome => ?_
  cases outcome with
  | returns | null => exact triple_pure fun s hs => hs
  | throws => exact triple_fail fun s hs => hs

theorem triple_beginTransaction : Triple (At I auto d w) (beginTransaction (K := K))
    (fun _ => At I false d w) (At I auto d w) :=
  triple_bind triple_call fun _ => triple_update fun _ hs => ⟨rfl, hs.stored, hs.working, hs.kept⟩

theorem triple_commit (hw : I w) : Triple (At I auto d w) (commit (K := K))
    (fun _ => At I auto w w) (At I auto d w) :=
  triple_bind triple_call fun _ => triple_update fun _ hs => hs.store hw

theorem triple_getStatement [DecidableEq K] (statement : K) :
    Triple (At I auto d w) (getStatement statement) (fun _ => At I auto d w) (At I auto d w) := by
  intro s hs
  unfold getStatement
  split
  · exact hs
  · refine triple_bind triple_call (fun prepared => ?_) s hs
    cases prepared with
    | false => exact triple_pure fun _ hs => hs
    | true =>
        exact triple_bind (triple_update (Q := fun _ => At I auto d w)
          fun _ hs => ⟨hs.auto, hs.stored, hs.working, hs.kept⟩) fun _ =>
          triple_pure fun _ hs => hs

/-- In a transaction, a statement changes what the connection sees. -/
theorem triple_executeUpdate (statement : D → D × Nat) :
    Triple (At I false d w) (executeUpdate (K := K) statement)
      (fun affected s => affected = (statement w).2 ∧ At I false d (statement w).1 s)
      (At I false d w) := by
  refine triple_bind triple_call fun _ s hs => ?_
  dsimp only
  rw [hs.working, hs.auto, if_neg Bool.false_ne_true]
  exact ⟨rfl, rfl, hs.stored, rfl, hs.kept⟩

/-- Outside of one it is stored at once. -/
theorem triple_executeUpdate_auto (statement : D → D × Nat) (h : I (statement d).1) :
    Triple (At I true d d) (executeUpdate (K := K) statement)
      (fun affected s => affected = (statement d).2 ∧ At I true (statement d).1 (statement d).1 s)
      (At I true d d) := by
  refine triple_bind triple_call fun _ s hs => ?_
  dsimp only
  rw [hs.working, if_pos hs.auto]
  exact ⟨rfl, At.store (s := { s with working := (statement d).1 }) ⟨hs.auto,
    hs.stored, rfl, hs.kept⟩ h⟩

theorem triple_fetchFirst (query : D → Option α) :
    Triple (At I auto d w) (fetchFirst (K := K) query)
    (fun _ => At I auto d w) (At I auto d w) := by
  refine triple_bind triple_call fun found => ?_
  cases found with
  | false => exact triple_pure fun _ hs => hs
  | true =>
      refine triple_bind triple_call fun _ => ?_
      refine triple_bind (Q := fun _ => At I auto d w) (fun s hs => hs) fun row => ?_
      cases row with
      | none => exact triple_pure fun _ hs => hs
      | some a => exact triple_bind triple_call fun _ => triple_pure fun _ hs => hs

theorem At.rollback {s : Context D K} (h : At I auto d w s) : At I auto d d (rollback s).2 :=
  ⟨h.auto, h.stored, h.stored, h.kept⟩

theorem At.enableAutoCommit {s : Context D K} (h : At I auto d w s) (hw : I w) :
    At I true w w (enableAutoCommit s).2 := by
  have hstored := h.store hw
  exact ⟨rfl, hstored.stored, hstored.working, hstored.kept⟩

/-- What the body of a transaction on the contents `d` leaves; with a result it may have stored
some. -/
def BodyDone (I : D → Prop) (d : D) (Q : α → D → Prop) : Option α → Context D K → Prop
  | some a, s => ∃ d' w', At I false d' w' s ∧ I w' ∧ Q a w'
  | none, s => ∃ w', At I false d w' s

/-- What the transaction leaves: new contents, stored, with a result; without one, the old. -/
def TransactionDone (I : D → Prop) (d : D) (Q : α → D → Prop) : Option α → Context D K → Prop
  | some a, s => ∃ w', At I true w' w' s ∧ Q a w'
  | none, s => At I true d d s

/--
**A transaction is atomic.**

Its body may store contents only on the way to a result, and what it has not stored by then
has to be fit for it. Then either there is a result, and what the body has done is stored,
or nothing has changed; in any case the connection is back where each statement stands for
itself.
-/
theorem triple_transaction {body : Attempt (Context D K) (Option α)} {Q : α → D → Prop}
    (hbody : Triple (At I false d d) body (BodyDone I d Q) (fun s => ∃ w', At I false d w' s)) :
    Triple (At I true d d) (transaction body) (TransactionDone I d Q) (At I true d d) := by
  have hback : ∀ {auto : Bool} {w' : D} {s : Context D K}, At I auto d w' s →
      At I true d d ((do rollback; enableAutoCommit : Attempt (Context D K) Unit) s).2 :=
    fun hs => hs.rollback.enableAutoCommit hs.kept.1
  have hthrow : Triple (At I true d d) (do beginTransaction; body) (BodyDone I d Q)
      (fun s => ∃ auto w', At I auto d w' s) := by
    refine triple_bind (triple_mono triple_beginTransaction (fun _ hs => hs) (fun _ _ hs => hs)
      fun s hs => ⟨true, d, hs⟩) fun _ => ?_
    exact triple_mono hbody (fun _ hs => hs) (fun _ _ hs => hs) fun s hs => ⟨false, hs⟩
  have htry : Triple (At I true d d)
      (onThrow (do beginTransaction; body) (do rollback; enableAutoCommit)) (BodyDone I d Q)
      (At I true d d) := by
    refine triple_onThrow hthrow fun s hs => ?_
    obtain ⟨auto, w', hs⟩ := hs
    exact hback hs
  refine triple_bind htry fun result => ?_
  cases result with
  | none =>
      refine triple_bind (Q := fun _ => At I false d d) ?_ fun _ => ?_
      · intro s hs
        obtain ⟨w', hs⟩ := hs
        exact hs.rollback
      · exact triple_bind (Q := fun _ => At I true d d) (fun s hs => hs.enableAutoCommit hs.kept.1)
          fun _ => triple_pure fun _ hs => hs
  | some a =>
      refine triple_bind (Q := fun _ s => ∃ w', At I true w' w' s ∧ Q a w') ?_ fun _ =>
        triple_pure fun _ hs => hs
      intro s hs
      obtain ⟨d', w', hs, hw', hq⟩ := hs
      exact ⟨w', hs.enableAutoCommit hw', hq⟩

end Rules

end Context

end Transaction

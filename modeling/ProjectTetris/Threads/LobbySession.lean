import Mathlib.Logic.Function.Basic
import ProjectTetris.Lib.Transition
import ProjectTetris.Rooms.Player

/-!
# The entry of a session in the lobby

`LobbySession` is two atomics, an id and a state, and any number of threads call its
functions with any keys. Every load, store and compare-exchange is a step of its own, and
so is the call itself; a weak compare-exchange may fail for no reason.

The functions look at the id first and act on the state afterwards. What they rely on is
that the entry still has the id they have found, and nothing sees to that: two calls of
`Clear` with one key can both get past the second look, and the slower one then empties
what has been prepared in the meantime.
-/

namespace ProjectTetris

open Transition

/-- A call in progress; each is about to take the step it names. -/
inductive LobbySessionCall where
  | idle
  | prepareCas (key : SessionKey)
  | prepareStore (key : SessionKey)
  | setPendingMatch (key : SessionKey)
  | setPendingCas
  | activateMatch (key : SessionKey)
  | activateCas (key : SessionKey)
  | clearMatch (key : SessionKey)
  | clearLoad (key : SessionKey)
  /-- With the `expected_state` it was last given. -/
  | clearCas (key : SessionKey) (expected : ActiveEntryState)
  | clearMatchAgain (key : SessionKey)
  | clearStoreId (key : SessionKey)
  | clearStoreState (key : SessionKey)
  deriving DecidableEq

namespace LobbySessionCall

/-- The entry is this call's: emptied or taken, and without an id. -/
def Between : LobbySessionCall → Prop
  | prepareStore _ | clearStoreState _ => True
  | _ => False

/-- The key has been found in the entry, or is about to be put there. -/
def keyInUse : LobbySessionCall → Option SessionKey
  | prepareCas key | prepareStore key | activateCas key | clearLoad key | clearCas key _
  | clearMatchAgain key
  | clearStoreId key | clearStoreState key => some key
  | _ => none

/-- A `Clear` with this key. -/
def clears : LobbySessionCall → Option SessionKey
  | clearMatch key | clearLoad key | clearCas key _ | clearMatchAgain key | clearStoreId key
  | clearStoreState key => some key
  | _ => none

end LobbySessionCall

/-- The entry, with the calls in progress and what the finished ones have returned `true` for. -/
structure LobbySession where
  sessionId : Nat
  state : ActiveEntryState
  calls : Nat → LobbySessionCall
  /-- The id of the key `Activate` was last successful with. -/
  activatedBy : Nat
  prepared : List Nat
  cleared : List Nat

inductive LobbySessionOp where
  | tryPrepare | trySetPending | activate | clear

inductive LobbySessionAction where
  /-- A thread calls a function. -/
  | call (t : Nat) (op : LobbySessionOp) (key : SessionKey)
  | go (t : Nat)
  /-- A weak compare-exchange fails although the state is the expected one. -/
  | failWeak (t : Nat)

def LobbySessionAction.thread : LobbySessionAction → Nat
  | .call t _ _ | .go t | .failWeak t => t

namespace LobbySession

def setCall (s : LobbySession) (t : Nat) (c : LobbySessionCall) : LobbySession :=
  { s with calls := Function.update s.calls t c }

/-- `MatchesSessionKey`. -/
def Matches (s : LobbySession) (key : SessionKey) : Prop :=
  s.sessionId = key.sessionId ∧ key.sessionId ≠ 0

instance (s : LobbySession) (key : SessionKey) : Decidable (s.Matches key) := by
  unfold Matches; infer_instance

/-- The failed compare-exchange of `Clear`, which is told the state it has found. -/
def clearFailed (s : LobbySession) (t : Nat) (key : SessionKey) : LobbySession :=
  s.setCall t (if s.state = .empty then .idle else .clearCas key s.state)

/-- The next step of a call. -/
def next (s : LobbySession) (t : Nat) : LobbySessionCall → Option LobbySession
  | .idle => none
  | .prepareCas key => some (
      if s.state = .empty then { s with state := .pending }.setCall t (.prepareStore key)
      else s.setCall t .idle)
  | .prepareStore key => some (
      { s with sessionId := key.sessionId, prepared := key.sessionId :: s.prepared }.setCall t
      .idle)
  | .setPendingMatch key => some (s.setCall t (if s.Matches key then .setPendingCas else .idle))
  | .setPendingCas => some (
      if s.state = .active then { s with state := .pending }.setCall t .idle
      else s.setCall t .idle)
  | .activateMatch key => some (s.setCall t (if s.Matches key then .activateCas key else .idle))
  | .activateCas key => some (
      if s.state = .pending then
      { s with state := .active, activatedBy := key.sessionId }.setCall t .idle
      else s.setCall t .idle)
  | .clearMatch key => some (s.setCall t (if s.Matches key then .clearLoad key else .idle))
  | .clearLoad key => some (s.clearFailed t key)
  | .clearCas key expected => some (
      if s.state = expected then { s with state := .pending }.setCall t (.clearMatchAgain key)
      else s.clearFailed t key)
  | .clearMatchAgain key => some (s.setCall t (if s.Matches key then .clearStoreId key else .idle))
  | .clearStoreId key => some ({ s with sessionId := 0 }.setCall t (.clearStoreState key))
  | .clearStoreState key => some (
      { s with state := .empty, cleared := key.sessionId :: s.cleared }.setCall t .idle)

/-- `TryPrepare` returns before any step when the key has no id. -/
def firstStep : LobbySessionOp → SessionKey → LobbySessionCall
  | .tryPrepare, key => if key.sessionId = 0 then .idle else .prepareCas key
  | .trySetPending, key => .setPendingMatch key
  | .activate, key => .activateMatch key
  | .clear, key => .clearMatch key

def step : LobbySessionAction → LobbySession → Option LobbySession
  | .call t op key, s => if s.calls t = .idle then some (s.setCall t (firstStep op key)) else none
  | .go t, s => s.next t (s.calls t)
  | .failWeak t, s =>
      match s.calls t with
      | .clearCas key _ => some (s.clearFailed t key)
      | _ => none

def Initial (s : LobbySession) : Prop :=
  s.sessionId = 0 ∧ s.state = .empty ∧ (∀ t, s.calls t = .idle) ∧ s.prepared = [] ∧ s.cleared = []

/-- Every order of the steps. -/
def system : System LobbySession := .taking Initial step fun _ _ => True

/--
The step does not come too late: a compare-exchange that sets `ACTIVE` or takes it away, and
the reset of the entry, find the id that the call has found before.
-/
def InTime (s : LobbySession) : LobbySessionCall → Prop
  | .activateCas key => s.state = .pending → s.Matches key
  | .clearCas key expected => s.state = .active → expected = .active → s.Matches key
  | .clearStoreId key => s.Matches key ∧ s.state = .pending
  | _ => True

instance (s : LobbySession) (c : LobbySessionCall) : Decidable (s.InTime c) := by
  unfold InTime
  split <;> infer_instance

def OnTime : LobbySessionAction → LobbySession → Prop
  | .go t, s => s.InTime (s.calls t)
  | _, _ => True

instance (a : LobbySessionAction) (s : LobbySession) : Decidable (OnTime a s) := by
  unfold OnTime
  split <;> infer_instance

def systemOnTime : System LobbySession := .taking Initial step OnTime

/-! ## Whose the entry is -/

structure Owned (s : LobbySession) : Prop where
  counted : ∀ id, s.cleared.count id + (if s.sessionId = id ∧ id ≠ 0 then 1 else 0) ≤
    s.prepared.count id
  active : s.state = .active → s.sessionId ≠ 0 ∧ s.activatedBy = s.sessionId
  empty : s.state = .empty → s.sessionId = 0
  between : ∀ t, (s.calls t).Between → s.state = .pending ∧ s.sessionId = 0
  alone : ∀ t t', (s.calls t).Between → (s.calls t').Between → t = t'
  clearing : ∀ t key, s.calls t = .clearStoreState key →
    s.cleared.count key.sessionId + 1 ≤ s.prepared.count key.sessionId
  keys : ∀ t key, (s.calls t).keyInUse = some key → key.sessionId ≠ 0

variable {s s' : LobbySession} {t : Nat} {key : SessionKey}

theorem setCall_self (s : LobbySession) (t : Nat) (c : LobbySessionCall) :
    (s.setCall t c).calls t = c :=
  Function.update_self ..

theorem setCall_of_ne (s : LobbySession) {t t' : Nat} (c : LobbySessionCall) (h : t' ≠ t) :
    (s.setCall t c).calls t' = s.calls t' := Function.update_of_ne h ..

/-- What is said of every call is said of the new one and of the others. -/
theorem forall_setCall {P : Nat → LobbySessionCall → Prop} {c : LobbySessionCall} (hc : P t c)
    (hothers : ∀ t', t' ≠ t → P t' (s.calls t')) (t' : Nat) : P t' ((s.setCall t c).calls t') := by
  by_cases h : t' = t
  · subst h
    rw [setCall_self]
    exact hc
  · rw [setCall_of_ne s c h]
    exact hothers t' h

theorem initial_owned (h : Initial s) : Owned s := by
  obtain ⟨hid, hstate, hcalls, hprepared, hcleared⟩ := h
  refine ⟨fun id => ?_,
    fun hc => ?_, fun _ => hid, fun t ht => ?_, fun t _ ht => ?_, fun t key ht => ?_,
    fun t key ht => ?_⟩
  · rw [hcleared, hprepared, hid, if_neg (fun hc => hc.2 hc.1.symm)]
    exact Nat.le_refl _
  · rw [hstate] at hc
    cases hc
  all_goals
    rw [hcalls t] at ht
    cases ht

/-- A step that changes nothing but where the call is. -/
theorem Owned.goOn (h : Owned s) {c : LobbySessionCall} (hbetween : ¬ c.Between)
    (hkey : ∀ key, c.keyInUse = some key → key.sessionId ≠ 0) : Owned (s.setCall t c) := by
  have hothers : ∀ {t'}, ((s.setCall t c).calls t').Between → (s.calls t').Between := by
    intro t' ht'
    by_cases heq : t' = t
    · subst heq
      rw [setCall_self] at ht'
      exact absurd ht' hbetween
    · rwa [setCall_of_ne s c heq] at ht'
  refine ⟨h.counted, h.active, h.empty, fun t' ht' => h.between t' (hothers ht'),
    fun t₁ t₂ h₁ h₂ => h.alone t₁ t₂ (hothers h₁) (hothers h₂), ?_, ?_⟩
  · refine forall_setCall (P := fun _ c => ∀ key, c = .clearStoreState key →
      s.cleared.count key.sessionId + 1 ≤ s.prepared.count key.sessionId) (fun key hkey => ?_)
      fun t' _ => h.clearing t'
    exact absurd (show c.Between by rw [hkey]; trivial) hbetween
  · exact forall_setCall (P := fun _ c => ∀ key, c.keyInUse = some key → key.sessionId ≠ 0) hkey
      fun t' _ => h.keys t'

/-- Nobody is between two writes when the entry has an id. -/
theorem Owned.not_between (h : Owned s) (hid : s.sessionId ≠ 0) (t : Nat) :
    ¬ (s.calls t).Between :=
  fun ht => hid (h.between t ht).2

/-- The first write of a call that has the entry to itself from then on. -/
theorem Owned.enter (h : Owned s) {c : LobbySessionCall} (hnobody : ∀ t, ¬ (s.calls t).Between)
    (hstate : s'.state = .pending) (hid : s'.sessionId = 0) (hcalls : s'.calls = s.calls)
    (hprepared : s'.prepared = s.prepared) (hcleared : s'.cleared = s.cleared)
    (hclearing : ∀ key, c = .clearStoreState key →
      s.cleared.count key.sessionId + 1 ≤ s.prepared.count key.sessionId)
    (hkey : ∀ key, c.keyInUse = some key → key.sessionId ≠ 0) : Owned (s'.setCall t c) := by
  have hothers : ∀ {t'}, ((s'.setCall t c).calls t').Between → t' = t := by
    intro t' ht'
    by_contra heq
    rw [setCall_of_ne s' c heq, hcalls] at ht'
    exact hnobody t' ht'
  refine ⟨fun id => ?_,
    fun hc => ?_, fun _ => hid, fun _ _ => ⟨hstate, hid⟩, fun t₁ t₂ h₁ h₂ => ?_, ?_, ?_⟩
  · have hcounted := h.counted id
    show s'.cleared.count id + (if s'.sessionId = id ∧ id ≠ 0 then 1 else 0) ≤ s'.prepared.count id
    rw [hprepared, hcleared, hid, if_neg (fun hc => hc.2 hc.1.symm)]
    omega
  · exact absurd (hstate.symm.trans hc) (by decide)
  · rw [hothers h₁, hothers h₂]
  · show ∀ t' key, (s'.setCall t c).calls t' = .clearStoreState key →
      s'.cleared.count key.sessionId + 1 ≤ s'.prepared.count key.sessionId
    rw [hprepared, hcleared]
    refine forall_setCall (P := fun _ c => ∀ key, c = .clearStoreState key →
      s.cleared.count key.sessionId + 1 ≤ s.prepared.count key.sessionId) hclearing fun t' _ => ?_
    rw [hcalls]
    exact h.clearing t'
  · refine forall_setCall (P := fun _ c => ∀ key, c.keyInUse = some key → key.sessionId ≠ 0) hkey
      fun t' _ => ?_
    rw [hcalls]
    exact h.keys t'

/-- A write of the state that leaves the entry with its id. -/
theorem Owned.setState (h : Owned s) {state : ActiveEntryState} {activatedBy : Nat}
    {c : LobbySessionCall}
    (hactive : state = .active → s.sessionId ≠ 0 ∧ activatedBy = s.sessionId)
    (hempty : state ≠ .empty) (hbetween : state = .pending ∨ s.sessionId ≠ 0) (hc : ¬ c.Between)
    (hkey : ∀ key, c.keyInUse = some key → key.sessionId ≠ 0) :
    Owned ({ s with state := state, activatedBy := activatedBy }.setCall t c) := by
  have hstate : Owned { s with state := state, activatedBy := activatedBy } := by
    refine ⟨h.counted, hactive, fun he => absurd he hempty,
      fun t' ht' => ?_, h.alone, h.clearing, h.keys⟩
    have hid := (h.between t' ht').2
    exact ⟨hbetween.resolve_right fun hne => hne hid, hid⟩
  exact hstate.goOn hc hkey

/-- A call that has the entry to itself, at its end. -/
theorem Owned.nobody_after (h : Owned s) (ht : (s.calls t).Between) (t' : Nat) :
    ¬ ((s.setCall t .idle).calls t').Between := by
  refine forall_setCall (P := fun _ c => ¬ c.Between) (id : ¬ LobbySessionCall.idle.Between)
    (fun t'' hne ht'' => ?_) t'
  exact hne (h.alone t'' t ht'' ht)

theorem Owned.prepareStore (h : Owned s) (hc : s.calls t = .prepareStore key) :
    Owned ({ s with sessionId := key.sessionId, prepared := key.sessionId :: s.prepared }.setCall t
      .idle) := by
  have ht : (s.calls t).Between := by rw [hc]; trivial
  obtain ⟨hstate, hid⟩ := h.between t ht
  have hkey : key.sessionId ≠ 0 := h.keys t key (by rw [hc]; rfl)
  refine ⟨fun id => ?_, fun hs => absurd (hstate.symm.trans hs) (by decide),
    fun hs => absurd (hstate.symm.trans hs) (by decide),
    fun t' ht' => absurd ht' (h.nobody_after ht t'),
    fun t' _ ht' => absurd ht' (h.nobody_after ht t'), fun t' key' ht' => ?_, ?_⟩
  · have hcounted := h.counted id
    rw [hid, if_neg (fun hc => hc.2 hc.1.symm)] at hcounted
    show s.cleared.count id + (if key.sessionId = id ∧ id ≠ 0 then 1 else 0) ≤
      (key.sessionId :: s.prepared).count id
    rw [List.count_cons]
    by_cases hsame : key.sessionId = id
    · simp only [hsame, beq_self_eq_true, if_true]
      split <;> omega
    · rw [if_neg (fun hc => hsame hc.1)]
      omega
  · have hnobody := h.nobody_after ht t'
    rw [show (s.setCall t .idle).calls t' = .clearStoreState key' from ht'] at hnobody
    exact absurd trivial hnobody
  · exact forall_setCall (P := fun _ c => ∀ key, c.keyInUse = some key → key.sessionId ≠ 0)
      nofun fun t' _ => h.keys t'

theorem Owned.clearStoreState (h : Owned s) (hc : s.calls t = .clearStoreState key) :
    Owned ({ s with state := .empty, cleared := key.sessionId :: s.cleared }.setCall t .idle) := by
  have ht : (s.calls t).Between := by rw [hc]; trivial
  obtain ⟨_, hid⟩ := h.between t ht
  refine ⟨fun id => ?_, nofun, fun _ => hid, fun t' ht' => absurd ht' (h.nobody_after ht t'),
    fun t' _ ht' => absurd ht' (h.nobody_after ht t'), fun t' key' ht' => ?_, ?_⟩
  · have hcounted := h.counted id
    show (key.sessionId :: s.cleared).count id + (if s.sessionId = id ∧ id ≠ 0 then 1 else 0) ≤
      s.prepared.count id
    rw [hid, if_neg (fun hc => hc.2 hc.1.symm)] at hcounted ⊢
    rw [List.count_cons]
    by_cases hsame : key.sessionId = id
    · have hclearing := h.clearing t key hc
      rw [hsame] at hclearing
      simp only [hsame, beq_self_eq_true, if_true]
      omega
    · simp only [beq_iff_eq, hsame, if_false]
      omega
  · have hnobody := h.nobody_after ht t'
    rw [show (s.setCall t .idle).calls t' = .clearStoreState key' from ht'] at hnobody
    exact absurd trivial hnobody
  · exact forall_setCall (P := fun _ c => ∀ key, c.keyInUse = some key → key.sessionId ≠ 0)
      nofun fun t' _ => h.keys t'

/-- A failed compare-exchange of a `Clear` leads back to it, or out of the loop. -/
theorem Owned.clearFailed (h : Owned s) (hkey : key.sessionId ≠ 0) :
    Owned (s.clearFailed t key) := by
  unfold LobbySession.clearFailed
  split
  · exact h.goOn (fun hc => hc) nofun
  · refine h.goOn (fun hc => hc) fun key' hkey' => ?_
    obtain rfl : key = key' := by simpa [LobbySessionCall.keyInUse] using hkey'
    exact hkey

/-- A look at the id: whoever goes on has found his own. -/
theorem Owned.look (h : Owned s) {c : LobbySessionCall} (hc : ¬ c.Between)
    (hkey : ∀ key', c.keyInUse = some key' → key' = key) :
    Owned (s.setCall t (if s.Matches key then c else .idle)) := by
  split
  · rename_i hmatches
    exact h.goOn hc fun key' hkey' => hkey key' hkey' ▸ hmatches.2
  · exact h.goOn (fun hc => hc) nofun

/-- **Every step keeps the entry in one hand**, as long as none comes too late. -/
theorem owned_step (h : Owned s) {a : LobbySessionAction} (hontime : OnTime a s)
    (hstep : step a s = some s') :
    Owned s' := by
  cases a with
  | call t op key =>
      rw [step] at hstep
      split at hstep
      · cases hstep
        cases op with
        | tryPrepare =>
            rw [firstStep]
            split
            · exact h.goOn (fun hc => hc) nofun
            · rename_i hkey
              refine h.goOn (fun hc => hc) fun key' hkey' => ?_
              obtain rfl : key = key' := by simpa [LobbySessionCall.keyInUse] using hkey'
              exact hkey
        | trySetPending | activate | clear => exact h.goOn (fun hc => hc) nofun
      · cases hstep
  | failWeak t =>
      rw [step] at hstep
      split at hstep
      · rename_i key expected hc
        cases hstep
        exact h.clearFailed (h.keys t key (by rw [hc]; rfl))
      · cases hstep
  | go t =>
      rw [step] at hstep
      rw [OnTime] at hontime
      have hkeys := h.keys t
      cases hc : s.calls t with
      | idle =>
          rw [hc] at hstep
          cases hstep
      | prepareCas key =>
          rw [hc] at hstep hkeys
          cases hstep
          split
          · rename_i hempty
            -- an empty entry is nobody's
            have hnobody : ∀ t', ¬ (s.calls t').Between := fun t' ht' => by
              have hpending := (h.between t' ht').1
              rw [hempty] at hpending
              cases hpending
            show Owned (({ s with state := .pending } : LobbySession).setCall t
              (.prepareStore key))
            exact h.enter hnobody rfl (h.empty hempty) rfl rfl rfl nofun hkeys
          · exact h.goOn (fun hc => hc) nofun
      | prepareStore key =>
          rw [hc] at hstep
          cases hstep
          exact h.prepareStore hc
      | setPendingMatch key =>
          rw [hc] at hstep
          cases hstep
          exact h.look (fun hc => hc) nofun
      | setPendingCas =>
          rw [hc] at hstep
          cases hstep
          split
          · exact h.setState nofun (by decide) (.inl rfl) (fun hc => hc) nofun
          · exact h.goOn (fun hc => hc) nofun
      | activateMatch key =>
          rw [hc] at hstep
          cases hstep
          exact h.look (fun hc => hc)
            fun key' hkey' => by simpa [LobbySessionCall.keyInUse] using hkey'.symm
      | activateCas key =>
          rw [hc] at hstep hontime
          cases hstep
          split
          · rename_i hpending
            obtain ⟨hid, hkey⟩ := hontime hpending
            exact h.setState (fun _ => ⟨hid ▸ hkey, hid.symm⟩) (by decide) (.inr (hid ▸ hkey))
              (fun hc => hc) nofun
          · exact h.goOn (fun hc => hc) nofun
      | clearMatch key =>
          rw [hc] at hstep
          cases hstep
          exact h.look (fun hc => hc)
            fun key' hkey' => by simpa [LobbySessionCall.keyInUse] using hkey'.symm
      | clearLoad key =>
          rw [hc] at hstep hkeys
          cases hstep
          exact h.clearFailed (hkeys key rfl)
      | clearCas key expected =>
          rw [hc] at hstep hkeys
          cases hstep
          split
          · exact h.setState
              nofun (by decide) (.inl rfl) (fun hc => hc) fun key' hkey' => hkeys key' hkey'
          · exact h.clearFailed (hkeys key rfl)
      | clearMatchAgain key =>
          rw [hc] at hstep
          cases hstep
          exact h.look (fun hc => hc)
            fun key' hkey' => by simpa [LobbySessionCall.keyInUse] using hkey'.symm
      | clearStoreId key =>
          rw [hc] at hstep hontime hkeys
          cases hstep
          obtain ⟨⟨hid, hkey⟩, hpending⟩ := hontime
          show Owned (({ s with sessionId := 0 } : LobbySession).setCall t (.clearStoreState key))
          refine h.enter (h.not_between (hid ▸ hkey)) hpending rfl rfl rfl rfl
            (fun key' hkey' => ?_) hkeys
          obtain rfl : key = key' := by simpa using hkey'
          have hcounted := h.counted key.sessionId
          rw [if_pos ⟨hid, hkey⟩] at hcounted
          exact hcounted
      | clearStoreState key =>
          rw [hc] at hstep
          cases hstep
          exact h.clearStoreState hc

theorem reachable_owned (h : systemOnTime.Reachable s) : Owned s :=
  invariant (fun _ => initial_owned)
    (fun _ _ hs ⟨_, hontime, hstep⟩ => owned_step hs hontime hstep) h

/-- The entry has been prepared for this id, or taken for it. -/
def PreparedFor (s : LobbySession) (id : Nat) : Prop :=
  (s.sessionId = id ∧ id ≠ 0) ∨ ∃ t key, s.calls t = .prepareStore key ∧ key.sessionId = id

/-- A `Clear` leaves an entry alone that has been prepared for another id. -/
theorem Owned.clear_keeps (h : Owned s) {a : LobbySessionAction} (hontime : OnTime a s)
    (hstep : step a s = some s') {id : Nat} (hclears : (s.calls a.thread).clears = some key)
    (hid : id ≠ key.sessionId) (hprepared : s.PreparedFor id) :
    s'.sessionId = s.sessionId ∧ s'.state = s.state := by
  have hnonempty : s.state ≠ .empty := by
    intro hempty
    rcases hprepared with ⟨hsame, hne⟩ | ⟨t', key', hc', _⟩
    · exact hne (hsame ▸ h.empty hempty)
    · have hpending := (h.between t' (by rw [hc']; trivial)).1
      rw [hempty] at hpending
      cases hpending
  cases a with
  | call t op key =>
      rw [step] at hstep
      split at hstep
      · cases hstep
        exact ⟨rfl, rfl⟩
      · cases hstep
  | failWeak t =>
      rw [step] at hstep
      split at hstep
      · cases hstep
        unfold LobbySession.clearFailed
        exact ⟨rfl, rfl⟩
      · cases hstep
  | go t =>
      rw [step] at hstep
      rw [OnTime] at hontime
      rw [LobbySessionAction.thread] at hclears
      cases hc : s.calls t with
      | clearMatch key' | clearMatchAgain key' =>
          rw [hc] at hstep
          cases hstep
          exact ⟨rfl, rfl⟩
      | clearLoad key' =>
          rw [hc] at hstep
          cases hstep
          unfold LobbySession.clearFailed
          exact ⟨rfl, rfl⟩
      | clearCas key' expected =>
          rw [hc] at hstep hontime hclears
          obtain rfl : key' = key := by simpa [LobbySessionCall.clears] using hclears
          cases hstep
          split
          · rename_i hexpected
            refine ⟨rfl, ?_⟩
            show ActiveEntryState.pending = s.state
            cases hstate : s.state with
            | empty => exact absurd hstate hnonempty
            | pending => rfl
            | active =>
                -- an active entry would still have this call's id, and no other
                obtain ⟨hsame, hne⟩ := hontime hstate (hexpected.symm.trans hstate)
                rcases hprepared with ⟨hother, _⟩ | ⟨t', key'', hc', _⟩
                · exact absurd (hother.symm.trans hsame) hid
                · exact absurd (by rw [hc']; trivial) (h.not_between (hsame ▸ hne) t')
          · unfold LobbySession.clearFailed
            exact ⟨rfl, rfl⟩
      | clearStoreId key' =>
          rw [hc] at hontime hclears
          obtain rfl : key' = key := by simpa [LobbySessionCall.clears] using hclears
          obtain ⟨⟨hsame, hne⟩, _⟩ := hontime
          rcases hprepared with ⟨hother, _⟩ | ⟨t', key'', hc', _⟩
          · exact absurd (hother.symm.trans hsame) hid
          · exact absurd (by rw [hc']; trivial) (h.not_between (hsame ▸ hne) t')
      | clearStoreState key' =>
          have hbetween : (s.calls t).Between := by rw [hc]; trivial
          rcases hprepared with ⟨hother, hne⟩ | ⟨t', key'', hc', _⟩
          · exact absurd (hother.symm.trans (h.between t hbetween).2) hne
          · have hsame := h.alone t t' hbetween (by rw [hc']; trivial)
            rw [hsame, hc'] at hc
            cases hc
      | _ =>
          rw [hc] at hclears
          cases hclears

/--
**The entry is in one hand** in every run none of whose steps comes too late.

No more `Clear`s of an id return `true` than `TryPrepare`s have; an active entry has the id
it was activated with, and a `Clear` leaves an entry alone that is prepared for another id.
-/
theorem lobbySession_owned (h : systemOnTime.Reachable s) :
    (∀ id, s.cleared.count id ≤ s.prepared.count id) ∧
    (s.state = .active → s.activatedBy = s.sessionId) ∧
    ∀ a s' key id, OnTime a s → step a s = some s' → (s.calls a.thread).clears = some key →
      id ≠ key.sessionId → s.PreparedFor id → s'.sessionId = s.sessionId ∧ s'.state = s.state := by
  have howned := reachable_owned h
  refine ⟨fun id => ?_, fun hactive => (howned.active hactive).2,
    fun a s' key id hontime hstep hclears hid hprepared =>
    howned.clear_keeps hontime hstep hclears hid hprepared⟩
  exact Nat.le_trans (Nat.le_add_right _ _) (howned.counted id)

/-- The key of a session, and an entry nobody has touched. -/
def hostEntry : SessionKey := ⟨0, 1, 7⟩

def untouched : LobbySession := ⟨0, .empty, fun _ => .idle, 0, [], []⟩

theorem untouched_initial : Initial untouched := ⟨rfl, rfl, fun _ => rfl, rfl, rfl⟩

/-- A session comes into the lobby and leaves it. -/
def enterAndLeave : List LobbySessionAction :=
  [.call 0 .tryPrepare hostEntry, .go 0, .go 0, .call 0 .activate hostEntry, .go 0, .go 0,
    .call 1 .clear hostEntry, .go 1, .go 1]

theorem lobbySession_owned_leaving :
    ∃ s, systemOnTime.Reachable s ∧ s.state = .active ∧ s.activatedBy = 7 ∧
    s.activatedBy = s.sessionId ∧ s.cleared.count 7 ≤ s.prepared.count 7 := by
  have hrun : (System.follow (fun a s => decide (OnTime a s)) step enterAndLeave untouched).any
      (fun s => decide (s.state = .active ∧ s.activatedBy = 7)) = true := by
    decide
  simp only [Option.any_eq_true, decide_eq_true_eq] at hrun
  obtain ⟨s, hs, hstate, hby⟩ := hrun
  have hreachable : systemOnTime.Reachable s :=
    (show systemOnTime.Reachable untouched from .start untouched_initial).follow
      (fun _ _ => of_decide_eq_true) hs
  obtain ⟨hmatched, hactive, _⟩ := lobbySession_owned hreachable
  exact ⟨s, hreachable, hstate, hby, hactive hstate, hmatched 7⟩

/-- Two threads clear one entry, side by side up to the last two stores. -/
def clearedByTwo : List LobbySessionAction :=
  [.call 0 .tryPrepare hostEntry, .go 0, .go 0, .call 1 .clear hostEntry, .call 2 .clear hostEntry,
    .go 1, .go 2, .go 1, .go 2, .go 1, .go 2, .go 1, .go 2, .go 1, .go 1, .go 2, .go 2]

/-- **One preparation, and two `Clear`s that return `true`.** -/
theorem cleared_twice :
    ∃ s id, system.Reachable s ∧ ¬ s.cleared.count id ≤ s.prepared.count id := by
  have hrun : (System.follow (fun _ _ => true) step clearedByTwo untouched).any
      (fun s => decide (¬ s.cleared.count 7 ≤ s.prepared.count 7)) = true := by
    decide
  simp only [Option.any_eq_true, decide_eq_true_eq] at hrun
  obtain ⟨s, hs, hmore⟩ := hrun
  have hreachable : system.Reachable s :=
    (show system.Reachable untouched from .start untouched_initial).follow
      (fun _ _ _ => trivial) hs
  exact ⟨s, 7, hreachable, hmore⟩

end LobbySession

end ProjectTetris

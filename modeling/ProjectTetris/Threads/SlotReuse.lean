import Mathlib.Logic.Function.Basic
import ProjectTetris.Threads.SessionSlot

/-!
# A slot and its next connection

`TetrisServer::FinalizeDisconnect` cleans up after one connection: its entries, its tasks and
last the slot itself, which the next connection may have from then on. Two lobby threads can
be in it with one key. The second one gets the flag when the first has done its cleaning and
has yet to empty the slot, and it reads the key of the slot again: by then the slot may be
somebody else's.

Accesses to the slot and to the tables are steps of their own. `LobbySession::Clear` is one
step here, and has its steps where the entry is looked at by itself; `RemoveActiveSession` and
`DiscardTasks` are one step each, for what is queued after the tasks have been counted stays
behind them. The flag is a field of the slot: who sets it for one connection keeps the tasks
of whichever connection has the slot by then from being processed.
-/

namespace ProjectTetris

open Transition

/-- `FinalizeDisconnect`, about to take the step it names; `current` is the key it has read. -/
inductive FinalizeStep where
  | findSession
  | getLifeState
  | tryStart
  | matchesKey
  | recheckLife
  | getSessionKey
  | getRoomSnapshot (current : SessionKey)
  | completeRoomDisconnect (current : SessionKey)
  | getDBInfo (current : SessionKey)
  | removePlayer (current : SessionKey) (playerId : Int)
  | clear (current : SessionKey)
  | removeActiveSession (current : SessionKey)
  | discardTasks (current : SessionKey)
  | completeTasks (current : SessionKey)
  | finalizeDisconnect (current : SessionKey)
  /-- `CompleteTaskProcessing`, and nothing after it. -/
  | giveUp
  deriving DecidableEq

structure FinalizeCall where
  key : SessionKey
  step : FinalizeStep
  deriving DecidableEq

/-- A slot, and what the server has about it. The account of the key is that of `db_info_` too. -/
structure SlotReuse where
  slot : SessionSlot
  /-- The `InitSession` that has set `INITIALIZING`. -/
  initializing : Option SessionKey
  isProcessingTasks : Bool
  /-- A loop over the tasks has set the flag. -/
  consuming : Bool
  /-- The queue; of a task, its key. -/
  sessionTasks : List SessionKey
  /-- `LobbySession`: its id and its state. -/
  lobbyId : Nat
  lobbyState : ActiveEntryState
  activeSessionIds : List Nat
  sessionIndexRegistry : Nat → Option Int
  activePlayers : Int → Option SessionKey
  /-- The ids of the connections the slot has had. -/
  used : List Nat
  calls : Nat → Option FinalizeCall

inductive SlotReuseAction where
  | initSession (sessionIndex : Int) (sessionId : Nat)
  | finishInit
  | tryEnqueueTask (key : SessionKey)
  -- what else happens to the session
  | beginDisconnect (key : SessionKey)
  | lastIo
  | applyLoginResult (playerId : Int)
  | trySetLobbyMode (key : SessionKey)
  | trySetRoomMode (key : SessionKey) (newRoomIndex : Int)
  | completeRoomRemoval (key : SessionKey)
  | startTasks
  | dequeueTask
  | completeTasks
  /-- Other lobby tasks and logins write their tables. -/
  | writeLobby (lobbyId : Nat) (lobbyState : ActiveEntryState) (activeSessionIds : List Nat)
      (sessionIndexRegistry : Nat → Option Int)
  | writePlayers (activePlayers : Int → Option SessionKey)
  /-- A lobby thread takes up a `DISCONNECT`. -/
  | call (t : Nat) (key : SessionKey)
  /-- The thread goes on; `hasRoom` is whether the room it asks for is there. -/
  | go (t : Nat) (hasRoom : Bool)

namespace SlotReuse

def start : SlotReuse where
  slot := .empty
  initializing := none
  isProcessingTasks := false
  consuming := false
  sessionTasks := []
  lobbyId := 0
  lobbyState := .empty
  activeSessionIds := []
  sessionIndexRegistry _ := none
  activePlayers _ := none
  used := []
  calls _ := none

def setCall (s : SlotReuse) (t : Nat) (c : Option FinalizeCall) : SlotReuse :=
  { s with calls := Function.update s.calls t c }

def withSlot (s : SlotReuse) (slot : SessionSlot) : SlotReuse := { s with slot := slot }

/-- `MatchesSessionKey`. -/
def Matches (s : SlotReuse) (key : SessionKey) : Prop :=
  s.slot.lifeState ≠ .none ∧ s.slot.lifeState ≠ .initializing ∧ s.slot.HasKey key

instance (s : SlotReuse) (key : SessionKey) : Decidable (s.Matches key) := by
  unfold Matches; infer_instance

/-- Ids are random, and those of one slot's connections differ. -/
def initSession (s : SlotReuse) (sessionIndex : Int) (sessionId : Nat) : Option SlotReuse :=
  if sessionId ∈ s.used then none
  else if 0 ≤ sessionIndex ∧ sessionId ≠ 0 ∧ s.slot.lifeState = .none then
    some { s with
      slot := { s.slot with lifeState := .initializing }
      initializing := some ⟨sessionIndex, -1, sessionId⟩ }
  else some s

def finishInit (s : SlotReuse) : Option SlotReuse :=
  s.initializing.map fun key =>
    { s with
      slot := s.slot.initSession key
      initializing := none
      used := key.sessionId :: s.used }

def tryEnqueueTask (s : SlotReuse) (key : SessionKey) : SlotReuse :=
  if s.slot.lifeState = .active ∧ s.slot.HasKey key then
    { s with sessionTasks := s.sessionTasks ++ [key] } else s

def beginDisconnect (s : SlotReuse) (key : SessionKey) : SlotReuse :=
  if s.slot.lifeState = .active ∧ s.slot.HasKey key then
    s.withSlot { s.slot with lifeState := .disconnectPending, hasSocket := false }
  else s

/-- `BeginDisconnect` or `CompleteIO` has found no IO out. -/
def lastIo (s : SlotReuse) : SlotReuse :=
  if s.slot.lifeState = .disconnectPending then
    s.withSlot { s.slot with lifeState := .disconnecting } else s

/-- `RemovePlayer`: an entry with another key stays. -/
def removePlayer (s : SlotReuse) (playerId : Int) (key : SessionKey) : SlotReuse :=
  if s.activePlayers playerId = some key then
    { s with activePlayers := Function.update s.activePlayers playerId none }
  else s

/-- `LobbySession::Clear` finds an entry of this id. -/
def Clears (s : SlotReuse) (key : SessionKey) : Prop :=
  s.lobbyId = key.sessionId ∧ key.sessionId ≠ 0 ∧ s.lobbyState ≠ .empty

instance (s : SlotReuse) (key : SessionKey) : Decidable (s.Clears key) := by
  unfold Clears; infer_instance

def removeActiveSession (s : SlotReuse) (key : SessionKey) : SlotReuse :=
  { s with
    activeSessionIds := s.activeSessionIds.erase key.sessionId
    sessionIndexRegistry :=
      if s.sessionIndexRegistry key.sessionId = some key.sessionIndex then
        Function.update s.sessionIndexRegistry key.sessionId none
      else s.sessionIndexRegistry }

/-- `Session::FinalizeDisconnect`. -/
def finalizeDisconnect (s : SlotReuse) (key : SessionKey) : SlotReuse :=
  if s.slot.lifeState = .disconnecting ∧ s.slot.HasKey key then s.withSlot s.slot.freed else s

/-- The next step of a `FinalizeDisconnect` with this key: what it writes, and where it goes on. -/
def write (s : SlotReuse) : FinalizeStep → SlotReuse
  | .tryStart => { s with isProcessingTasks := true }
  | .completeRoomDisconnect current => s.withSlot (s.slot.completeRoomRemoval current).1
  | .removePlayer current playerId => s.removePlayer playerId current
  | .clear current => if s.Clears current then { s with lobbyId := 0, lobbyState := .empty } else s
  | .removeActiveSession current => s.removeActiveSession current
  | .discardTasks _ => { s with sessionTasks := [] }
  | .completeTasks _ | .giveUp => { s with isProcessingTasks := false }
  | .finalizeDisconnect current => s.finalizeDisconnect current
  | _ => s

/-- Where it goes on, from what it finds. -/
def after (s : SlotReuse) (key : SessionKey) (hasRoom : Bool) : FinalizeStep → Option FinalizeStep
  | .findSession => if s.Matches key then some .getLifeState else none
  | .getLifeState => if s.slot.lifeState = .disconnecting then some .tryStart else none
  | .tryStart => if s.isProcessingTasks then none else some .matchesKey
  | .matchesKey => if s.Matches key then some .recheckLife else some .giveUp
  | .recheckLife => if s.slot.lifeState = .disconnecting then some .getSessionKey else some .giveUp
  | .getSessionKey => some (.getRoomSnapshot s.slot.sessionKey)
  | .getRoomSnapshot current =>
      if s.slot.modeState ≠ .room then some (.getDBInfo current)
      else if hasRoom then some .giveUp
      else some (.completeRoomDisconnect current)
  | .completeRoomDisconnect _ => some .giveUp
  | .getDBInfo current => some (.removePlayer current s.slot.sessionKey.playerId)
  | .removePlayer current _ => some (.clear current)
  | .clear current =>
      if s.Clears current then some (.removeActiveSession current)
      else some (.discardTasks current)
  | .removeActiveSession current => some (.discardTasks current)
  | .discardTasks current => some (.completeTasks current)
  | .completeTasks current => some (.finalizeDisconnect current)
  | .finalizeDisconnect _ | .giveUp => none

def goOn (s : SlotReuse) (t : Nat) (c : FinalizeCall) (hasRoom : Bool) : SlotReuse :=
  (s.write c.step).setCall t ((s.after c.key hasRoom c.step).map (⟨c.key, ·⟩))

def step : SlotReuseAction → SlotReuse → Option SlotReuse
  | .initSession sessionIndex sessionId, s => s.initSession sessionIndex sessionId
  | .finishInit, s => s.finishInit
  | .tryEnqueueTask key, s => some (s.tryEnqueueTask key)
  | .beginDisconnect key, s => some (s.beginDisconnect key)
  | .lastIo, s => some s.lastIo
  | .applyLoginResult playerId, s => some (s.withSlot (s.slot.applyLoginResult playerId))
  | .trySetLobbyMode key, s => some (s.withSlot (s.slot.trySetLobbyMode key))
  | .trySetRoomMode key newRoomIndex, s =>
      some (s.withSlot (s.slot.trySetRoomMode key newRoomIndex))
  | .completeRoomRemoval key, s => some (s.withSlot (s.slot.completeRoomRemoval key).1)
  | .startTasks, s =>
      if s.isProcessingTasks then none
      else some { s with isProcessingTasks := true, consuming := true }
  | .dequeueTask, s =>
      if s.consuming then some { s with sessionTasks := s.sessionTasks.tail } else none
  | .completeTasks, s =>
      if s.consuming then some { s with isProcessingTasks := false, consuming := false } else none
  | .writeLobby lobbyId lobbyState activeSessionIds sessionIndexRegistry, s => some
      { s with
        lobbyId := lobbyId
        lobbyState := lobbyState
        activeSessionIds := activeSessionIds
        sessionIndexRegistry := sessionIndexRegistry }
  | .writePlayers activePlayers, s => some { s with activePlayers := activePlayers }
  | .call t key, s =>
      if s.calls t = none then some (s.setCall t (some ⟨key, .findSession⟩)) else none
  | .go t hasRoom, s => (s.calls t).map fun c => s.goOn t c hasRoom

end SlotReuse

namespace SlotReuse

/-- Another connection than that of the id has the slot, or is being put into it. -/
def Others (s : SlotReuse) (id : Nat) : Prop :=
  s.slot.lifeState ≠ .none ∧ s.slot.sessionKey.sessionId ≠ id

instance (s : SlotReuse) (id : Nat) : Decidable (s.Others id) := by unfold Others; infer_instance

/-- The step writes the flag, or takes what it finds in the slot for what it has checked. -/
def Trusts (s : SlotReuse) : FinalizeStep → Prop
  | .tryStart => s.isProcessingTasks = false
  | .getSessionKey | .discardTasks _ | .completeTasks _ | .giveUp => True
  | _ => False

instance (s : SlotReuse) (step : FinalizeStep) : Decidable (s.Trusts step) := by
  unfold Trusts
  split <;> infer_instance

/-- Every order of the steps. -/
def system : System SlotReuse := .taking (fun s => s = start) step fun _ _ => True

/--
A `FinalizeDisconnect` that sets or clears the flag, reads the key of the slot or discards its
tasks finds the slot free or with the connection it was called for: no other has come meanwhile.
-/
def OnTime : SlotReuseAction → SlotReuse → Prop
  | .go t _, s => ∀ c ∈ s.calls t, s.Trusts c.step → ¬ s.Others c.key.sessionId
  | _, _ => True

instance (a : SlotReuseAction) (s : SlotReuse) : Decidable (OnTime a s) := by
  unfold OnTime
  split <;> infer_instance

def systemOnTime : System SlotReuse := .taking (fun s => s = start) step OnTime

/-- Of what other connections have, nothing is taken away or changed. -/
structure Spares (s s' : SlotReuse) (id : Nat) : Prop where
  tasks : s'.sessionTasks.filter (fun key => key.sessionId ≠ id) =
    s.sessionTasks.filter (fun key => key.sessionId ≠ id)
  flag : s.Others id → s'.isProcessingTasks = s.isProcessingTasks
  slot : s.slot.sessionKey.sessionId ≠ id → s'.slot = s.slot
  lobby : s.lobbyId ≠ id → s'.lobbyId = s.lobbyId ∧ s'.lobbyState = s.lobbyState
  active : ∀ other ∈ s.activeSessionIds, other ≠ id → other ∈ s'.activeSessionIds
  registry : ∀ other, other ≠ id → s'.sessionIndexRegistry other = s.sessionIndexRegistry other
  players : ∀ playerId key, s.activePlayers playerId = some key → key.sessionId ≠ id →
    key.sessionId ≠ 0 →
    s'.activePlayers playerId = some key

end SlotReuse

/-! ## What a call knows -/

namespace FinalizeStep

/-- The key has been found in the slot, with the flag set. -/
def matched : FinalizeStep → Prop
  | .findSession | .getLifeState | .tryStart | .matchesKey | .giveUp => False
  | _ => True

/-- The session has been found `DISCONNECTING` as well. -/
def decided : FinalizeStep → Prop
  | .findSession | .getLifeState | .tryStart | .matchesKey | .recheckLife | .giveUp => False
  | _ => True

def current? : FinalizeStep → Option SessionKey
  | .getRoomSnapshot current | .completeRoomDisconnect current | .getDBInfo current
  | .removePlayer current _
  | .clear current | .removeActiveSession current | .discardTasks current | .completeTasks current
  | .finalizeDisconnect current => some current
  | _ => none

def discarded : FinalizeStep → Prop
  | .completeTasks _ | .finalizeDisconnect _ => True
  | _ => False

theorem matched_of_decided {step : FinalizeStep} (h : step.decided) : step.matched := by
  cases step <;> trivial

theorem decided_of_discarded {step : FinalizeStep} (h : step.discarded) : step.decided := by
  cases step <;> trivial

end FinalizeStep

structure CallOk (used : List Nat) (slot : SessionSlot) (tasks : List SessionKey)
    (c : FinalizeCall) : Prop where
  used : c.step.matched → c.key.sessionId ∈ used
  decided : c.step.decided → slot.sessionKey.sessionId = c.key.sessionId →
    slot.lifeState = .disconnecting
  current : ∀ current ∈ c.step.current?, current.sessionId = c.key.sessionId ∨
    current.sessionId = 0
  clearing : ∀ current, c.step = .removeActiveSession current → current.sessionId ≠ 0
  discarded : c.step.discarded → slot.sessionKey.sessionId = c.key.sessionId → tasks = []

namespace SlotReuse

structure Inv (s : SlotReuse) : Prop where
  free : s.slot.lifeState = .none ∨ s.slot.lifeState = .initializing →
    s.slot.sessionKey.sessionId = 0
  held : s.slot.lifeState ≠ .none → s.slot.lifeState ≠ .initializing →
    s.slot.sessionKey.sessionId ∈ s.used
  nonzero : 0 ∉ s.used
  tasks : ∀ key ∈ s.sessionTasks, key.sessionId = s.slot.sessionKey.sessionId ∧ key.sessionId ≠ 0
  initializing : ∀ key, s.initializing = some key →
    key.sessionId ≠ 0 ∧ key.sessionId ∉ s.used ∧ s.slot.lifeState = .initializing
  calls : ∀ t c, s.calls t = some c → CallOk s.used s.slot s.sessionTasks c

/-- What a step leaves to the calls: a connection that is being finalized stays so, and gets no
tasks. -/
structure Carries (s s' : SlotReuse) : Prop where
  used : ∀ id ∈ s.used, id ∈ s'.used
  slot : ∀ id ∈ s.used, s'.slot.sessionKey.sessionId = id → s.slot.sessionKey.sessionId = id
  life : ∀ id ∈ s.used, s'.slot.sessionKey.sessionId = id → s.slot.lifeState = .disconnecting →
    s'.slot.lifeState = .disconnecting
  tasks : s.slot.lifeState = .disconnecting → s.sessionTasks = [] → s'.sessionTasks = []

end SlotReuse

theorem CallOk.carry {s s' : SlotReuse} {c : FinalizeCall}
    (h : CallOk s.used s.slot s.sessionTasks c) (hcarries : s.Carries s') :
    CallOk s'.used s'.slot s'.sessionTasks c where
  used hmatched := hcarries.used _ (h.used hmatched)
  decided hdecided hid := by
    have hused := h.used (FinalizeStep.matched_of_decided hdecided)
    exact hcarries.life _ hused hid (h.decided hdecided (hcarries.slot _ hused hid))
  current := h.current
  clearing := h.clearing
  discarded hdiscarded hid := by
    have hdecided := FinalizeStep.decided_of_discarded hdiscarded
    have hold := hcarries.slot _ (h.used (FinalizeStep.matched_of_decided hdecided)) hid
    exact hcarries.tasks (h.decided hdecided hold) (h.discarded hdiscarded hold)

/-- A call that knows nothing of the slot. -/
theorem CallOk.plain {used : List Nat} {slot : SessionSlot} {tasks : List SessionKey}
    {key : SessionKey} {step : FinalizeStep} (hmatched : ¬ step.matched)
    (hcurrent : step.current? = none) :
    CallOk used slot tasks ⟨key, step⟩ where
  used h := absurd h hmatched
  decided h := absurd (FinalizeStep.matched_of_decided h) hmatched
  current current hmem := by
    have hmem : current ∈ step.current? := hmem
    rw [hcurrent] at hmem
    cases hmem
  clearing current heq := by
    have heq : step = .removeActiveSession current := heq
    rw [heq] at hmatched
    exact absurd trivial hmatched
  discarded h := absurd (FinalizeStep.matched_of_decided (FinalizeStep.decided_of_discarded h))
    hmatched

/-- The next step of a call that has read the key. -/
theorem CallOk.next {used : List Nat} {slot : SessionSlot} {tasks : List SessionKey}
    {key : SessionKey} {step step' : FinalizeStep} (h : CallOk used slot tasks ⟨key, step⟩)
    (hdecided : step.decided) (hcurrent : step'.current? = step.current?)
    (hclearing : ∀ current, step' ≠ .removeActiveSession current)
    (hdiscarded : step'.discarded → slot.sessionKey.sessionId = key.sessionId → tasks = []) :
    CallOk used slot tasks ⟨key, step'⟩ where
  used _ := h.used (FinalizeStep.matched_of_decided hdecided)
  decided _ := h.decided hdecided
  current current hmem := h.current current (hcurrent ▸ hmem)
  clearing current heq := absurd heq (hclearing current)
  discarded := hdiscarded

namespace SlotReuse

variable {s s' : SlotReuse} {t : Nat}

theorem start_inv : start.Inv where
  free _ := rfl
  held h := absurd rfl h
  nonzero := nofun
  tasks := nofun
  initializing := nofun
  calls := nofun

theorem setCall_self (s : SlotReuse) (t : Nat) (c : Option FinalizeCall) :
    (s.setCall t c).calls t = c :=
  Function.update_self ..

theorem setCall_of_ne (s : SlotReuse) {t t' : Nat} (c : Option FinalizeCall) (h : t' ≠ t) :
    (s.setCall t c).calls t' = s.calls t' := Function.update_of_ne h ..

namespace Inv

/-- A step of nobody's call. -/
theorem carry (h : s.Inv) (hcalls : s'.calls = s.calls) (hcarries : s.Carries s') (t : Nat)
    (c : FinalizeCall) (hc : s'.calls t = some c) : CallOk s'.used s'.slot s'.sessionTasks c := by
  rw [hcalls] at hc
  exact (h.calls t c hc).carry hcarries

theorem setCall (h : s.Inv) {c' : Option FinalizeCall}
    (hc' : ∀ c, c' = some c → CallOk s.used s.slot s.sessionTasks c) : (s.setCall t c').Inv := by
  refine ⟨h.free, h.held, h.nonzero, h.tasks, h.initializing, fun t' c hc => ?_⟩
  by_cases ht : t' = t
  · subst ht
    rw [setCall_self] at hc
    exact hc' c hc
  · rw [setCall_of_ne s c' ht] at hc
    exact h.calls t' c hc

theorem initSession (h : s.Inv) {sessionIndex : Int} {sessionId : Nat}
    (hstep : s.initSession sessionIndex sessionId = some s') : s'.Inv := by
  unfold SlotReuse.initSession at hstep
  split at hstep
  next => cases hstep
  next hnew =>
    split at hstep
    next hfree =>
      cases hstep
      obtain ⟨_, hid, hlife⟩ := hfree
      have hzero := h.free (.inl hlife)
      refine ⟨fun _ => hzero, fun _ hne => absurd rfl hne, h.nonzero, h.tasks,
        fun key hkey => ?_, h.carry rfl ?_⟩
      · obtain rfl := Option.some.inj hkey
        exact ⟨hid, hnew, rfl⟩
      · refine ⟨fun _ => id, fun _ _ => id, fun _ _ _ hdisconnecting => ?_, fun _ => id⟩
        cases hlife.symm.trans hdisconnecting
    next =>
      cases hstep
      exact h

theorem tasks_of_free (h : s.Inv) (hzero : s.slot.sessionKey.sessionId = 0) :
    s.sessionTasks = [] := by
  rw [List.eq_nil_iff_forall_not_mem]
  intro key hkey
  obtain ⟨hid, hne⟩ := h.tasks key hkey
  exact hne (hid.trans hzero)

theorem finishInit (h : s.Inv) (hstep : s.finishInit = some s') : s'.Inv := by
  obtain ⟨key, hinit, rfl⟩ := Option.map_eq_some_iff.mp hstep
  obtain ⟨hid, hnew, hlife⟩ := h.initializing key hinit
  have hnone : s.sessionTasks = [] := h.tasks_of_free (h.free (.inr hlife))
  refine ⟨?_, fun _ _ => List.mem_cons_self .., ?_, ?_, nofun, h.carry rfl ?_⟩
  · rintro (hc | hc) <;> cases hc
  · intro hmem
    rcases List.mem_cons.mp hmem with heq | hold
    · exact hid heq.symm
    · exact h.nonzero hold
  · show ∀ k ∈ s.sessionTasks, _
    rw [hnone]
    nofun
  · refine ⟨fun _ => List.mem_cons_of_mem _,
      fun id hused heq => ?_, fun id hused heq => ?_, fun _ => id⟩
    · exact absurd (heq ▸ hused) hnew
    · exact absurd (heq ▸ hused) hnew

theorem tryEnqueueTask (h : s.Inv) (key : SessionKey) : (s.tryEnqueueTask key).Inv := by
  unfold SlotReuse.tryEnqueueTask
  split
  next hactive =>
    obtain ⟨hlife, hkey⟩ := hactive
    have hused := h.held (by rw [hlife]; nofun) (by rw [hlife]; nofun)
    refine ⟨h.free, h.held, h.nonzero, fun key' hkey' => ?_, h.initializing, h.carry rfl ?_⟩
    · rcases List.mem_append.mp hkey' with hold | hnew
      · exact h.tasks key' hold
      · rw [List.mem_singleton.mp hnew]
        refine ⟨hkey.2.symm, fun hzero => h.nonzero ?_⟩
        rwa [hkey.2, hzero] at hused
    · refine ⟨fun _ => id, fun _ _ => id, fun _ _ _ => id, fun hdisconnecting => ?_⟩
      cases hlife.symm.trans hdisconnecting
  next => exact h

/-- The slot keeps its connection, which may have gone on in its life. -/
theorem withSlot (h : s.Inv) {slot : SessionSlot}
    (hid : slot.sessionKey.sessionId = s.slot.sessionKey.sessionId)
    (hnone : slot.lifeState = .none ↔ s.slot.lifeState = .none)
    (hinitializing : slot.lifeState = .initializing ↔ s.slot.lifeState = .initializing)
    (hdisconnecting : s.slot.lifeState = .disconnecting → slot.lifeState = .disconnecting) :
    (s.withSlot slot).Inv := by
  refine ⟨fun hfree => ?_, fun hne hne' => ?_, h.nonzero,
    fun key hkey => ?_, fun key hkey => ?_, h.carry rfl ?_⟩
  · exact hid.trans (h.free (hfree.imp hnone.mp hinitializing.mp))
  · show slot.sessionKey.sessionId ∈ s.used
    rw [hid]
    exact h.held (fun hc => hne (hnone.mpr hc)) fun hc => hne' (hinitializing.mpr hc)
  · obtain ⟨hsame, hne⟩ := h.tasks key hkey
    exact ⟨hsame.trans hid.symm, hne⟩
  · obtain ⟨hne, hnew, hlife⟩ := h.initializing key hkey
    exact ⟨hne, hnew, hinitializing.mpr hlife⟩
  · exact ⟨fun _ => id, fun _ _ heq => hid.symm.trans heq,
      fun _ _ _ => hdisconnecting, fun _ => id⟩

theorem sameLife (h : s.Inv) {slot : SessionSlot} (hsame : s.slot.SameLife slot) :
    (s.withSlot slot).Inv := by
  obtain ⟨hlife, _, hkey⟩ := hsame
  have hid : slot.sessionKey.sessionId = s.slot.sessionKey.sessionId :=
    ((hkey s.slot.sessionKey).mpr ⟨rfl, rfl⟩).2
  exact h.withSlot hid (by rw [hlife]) (by rw [hlife]) fun hdisconnecting =>
    hlife.trans hdisconnecting

theorem beginDisconnect (h : s.Inv) (key : SessionKey) : (s.beginDisconnect key).Inv := by
  unfold SlotReuse.beginDisconnect
  split
  next hactive =>
    have hlife := hactive.1
    exact h.withSlot rfl (by simp [hlife]) (by simp [hlife]) fun hdisconnecting => by
      cases hlife.symm.trans hdisconnecting
  next => exact h

theorem lastIo (h : s.Inv) : s.lastIo.Inv := by
  unfold SlotReuse.lastIo
  split
  next hlife => exact h.withSlot rfl (by simp [hlife]) (by simp [hlife]) fun _ => rfl
  next => exact h

/-- Fewer tasks. -/
theorem withTasks (h : s.Inv) {tasks : List SessionKey}
    (hsub : ∀ key ∈ tasks, key ∈ s.sessionTasks) :
    Inv { s with sessionTasks := tasks } := by
  refine ⟨h.free, h.held, h.nonzero, fun key hkey => h.tasks key (hsub key hkey), h.initializing,
    h.carry rfl ?_⟩
  refine ⟨fun _ => id, fun _ _ => id, fun _ _ _ => id, fun _ hnil => ?_⟩
  rw [List.eq_nil_iff_forall_not_mem]
  intro key hkey
  have hmem := hsub key hkey
  rw [hnil] at hmem
  cases hmem

/-- `Session::FinalizeDisconnect`, of a call that has discarded the tasks. -/
theorem finalizeDisconnect (h : s.Inv) {key current : SessionKey}
    (hcall : CallOk s.used s.slot s.sessionTasks ⟨key, .finalizeDisconnect current⟩) :
    (s.finalizeDisconnect current).Inv := by
  unfold SlotReuse.finalizeDisconnect
  split
  next hdisconnecting =>
    obtain ⟨hlife, hkey⟩ := hdisconnecting
    have hused := h.held (by rw [hlife]; nofun) (by rw [hlife]; nofun)
    have hnone : s.sessionTasks = [] := by
      rcases hcall.current current rfl with hsame | hzero
      · exact hcall.discarded trivial (hkey.2.trans hsame)
      · rw [hkey.2, hzero] at hused
        exact absurd hused h.nonzero
    refine ⟨fun _ => rfl, fun hne => absurd rfl hne, h.nonzero, ?_,
      fun key hkey => ?_, h.carry rfl ?_⟩
    · show ∀ k ∈ s.sessionTasks, _
      rw [hnone]
      nofun
    · obtain ⟨_, _, hinitializing⟩ := h.initializing key hkey
      cases hlife.symm.trans hinitializing
    · refine ⟨fun _ => id, fun id hmem heq => ?_, fun id hmem heq => ?_, fun _ => id⟩
      · have hzero : 0 = id := heq
        exact absurd (hzero ▸ hmem) h.nonzero
      · have hzero : 0 = id := heq
        exact absurd (hzero ▸ hmem) h.nonzero
  next => exact h

end Inv

/-! ## A call goes on -/

/-- No other connection has the slot: it is that of the id, or free. -/
theorem Inv.own_or_free (h : s.Inv) {id : Nat} (hothers : ¬ s.Others id) :
    s.slot.sessionKey.sessionId = id ∨ s.slot.sessionKey.sessionId = 0 := by
  by_cases hsame : s.slot.sessionKey.sessionId = id
  · exact .inl hsame
  · refine .inr (h.free (.inl ?_))
    by_contra hlife
    exact hothers ⟨hlife, hsame⟩

/-- **A call keeps the books** that finds what it has checked. -/
theorem Inv.goOn (h : s.Inv) {c : FinalizeCall} {hasRoom : Bool} (hcall : s.calls t = some c)
    (hontime : OnTime (.go t hasRoom) s) : (s.goOn t c hasRoom).Inv := by
  have hok := h.calls t c hcall
  have hright : s.Trusts c.step → ¬ s.Others c.key.sessionId := hontime c hcall
  obtain ⟨key, step⟩ := c
  unfold SlotReuse.goOn
  cases step with
  | findSession =>
      refine h.setCall fun c' hc' => ?_
      simp only [after] at hc'
      split at hc'
      · cases hc'
        exact .plain id rfl
      · cases hc'
  | getLifeState =>
      refine h.setCall fun c' hc' => ?_
      simp only [after] at hc'
      split at hc'
      · cases hc'
        exact .plain id rfl
      · cases hc'
  | tryStart =>
      have hflag : Inv { s with isProcessingTasks := true } :=
        ⟨h.free, h.held, h.nonzero, h.tasks, h.initializing, h.calls⟩
      refine hflag.setCall fun c' hc' => ?_
      simp only [after] at hc'
      split at hc'
      · cases hc'
      · cases hc'
        exact .plain id rfl
  | matchesKey =>
      refine h.setCall fun c' hc' => ?_
      simp only [after] at hc'
      split at hc'
      next hmatches =>
        cases hc'
        -- the key has been in the slot, so it is a used one
        obtain ⟨hnone, hinitializing, hkey⟩ := hmatches
        refine ⟨fun _ => ?_, fun hd => absurd hd id, nofun, nofun, fun hd => absurd hd id⟩
        have hused := h.held hnone hinitializing
        rwa [hkey.2] at hused
      next =>
        cases hc'
        exact .plain id rfl
  | recheckLife =>
      refine h.setCall fun c' hc' => ?_
      simp only [after] at hc'
      split at hc'
      next hdisconnecting =>
        cases hc'
        exact ⟨fun _ => hok.used trivial, fun _ _ => hdisconnecting, nofun, nofun,
          fun hd => absurd hd id⟩
      next =>
        cases hc'
        exact .plain id rfl
  | getSessionKey =>
      refine h.setCall fun c' hc' => ?_
      cases hc'
      refine ⟨fun _ => hok.used trivial, fun _ => hok.decided trivial,
        fun current hcurrent => ?_, nofun, fun hd => absurd hd id⟩
      obtain rfl := Option.some.inj hcurrent
      -- the key read again is its own or that of a free slot
      exact h.own_or_free (hright trivial)
  | getRoomSnapshot current =>
      refine h.setCall fun c' hc' => ?_
      simp only [after] at hc'
      split at hc'
      · cases hc'
        exact hok.next trivial rfl nofun fun hd => absurd hd id
      · split at hc'
        · cases hc'
          exact .plain id rfl
        · cases hc'
          exact hok.next trivial rfl nofun fun hd => absurd hd id
  | completeRoomDisconnect current =>
      refine (h.sameLife (s.slot.completeRoomRemoval_sameLife current)).setCall fun c' hc' => ?_
      cases hc'
      exact .plain id rfl
  | getDBInfo current =>
      refine h.setCall fun c' hc' => ?_
      cases hc'
      exact hok.next trivial rfl nofun fun hd => absurd hd id
  | removePlayer current playerId =>
      have hplayers : (s.removePlayer playerId current).Inv := by
        unfold SlotReuse.removePlayer
        split
        · exact ⟨h.free, h.held, h.nonzero, h.tasks, h.initializing, h.calls⟩
        · exact h
      refine hplayers.setCall fun c' hc' => ?_
      cases hc'
      have hnext : CallOk s.used s.slot s.sessionTasks ⟨key, .clear current⟩ :=
        hok.next trivial rfl nofun fun hd => absurd hd id
      unfold SlotReuse.removePlayer
      split <;> exact hnext
  | clear current =>
      simp only [write, after]
      split
      next hclears =>
        have hlobby : Inv { s with lobbyId := 0, lobbyState := .empty } :=
          ⟨h.free, h.held, h.nonzero, h.tasks, h.initializing, h.calls⟩
        refine hlobby.setCall fun c' hc' => ?_
        cases hc'
        refine ⟨fun _ => hok.used trivial, fun _ => hok.decided trivial, hok.current,
          fun current' heq => ?_, fun hd => absurd hd id⟩
        obtain rfl := FinalizeStep.removeActiveSession.inj heq
        exact hclears.2.1
      next =>
        refine h.setCall fun c' hc' => ?_
        cases hc'
        exact hok.next trivial rfl nofun fun hd => absurd hd id
  | removeActiveSession current =>
      have hlobby : (s.removeActiveSession current).Inv :=
        ⟨h.free, h.held, h.nonzero, h.tasks, h.initializing, h.calls⟩
      refine hlobby.setCall fun c' hc' => ?_
      cases hc'
      exact (hok.next trivial rfl nofun fun hd => absurd hd id :
        CallOk s.used s.slot s.sessionTasks ⟨key, .discardTasks current⟩)
  | discardTasks current =>
      -- whatever was queued is gone
      have hdiscarded : Inv { s with sessionTasks := [] } := h.withTasks nofun
      refine hdiscarded.setCall fun c' hc' => ?_
      cases hc'
      exact ⟨fun _ => hok.used trivial, fun _ => hok.decided trivial, hok.current, nofun,
        fun _ _ => rfl⟩
  | completeTasks current =>
      have hflag : Inv { s with isProcessingTasks := false } :=
        ⟨h.free, h.held, h.nonzero, h.tasks, h.initializing, h.calls⟩
      refine hflag.setCall fun c' hc' => ?_
      cases hc'
      exact (hok.next trivial rfl nofun fun _ => hok.discarded trivial :
        CallOk s.used s.slot s.sessionTasks ⟨key, .finalizeDisconnect current⟩)
  | finalizeDisconnect current => exact (h.finalizeDisconnect hok).setCall nofun
  | giveUp =>
      have hflag : Inv { s with isProcessingTasks := false } :=
        ⟨h.free, h.held, h.nonzero, h.tasks, h.initializing, h.calls⟩
      exact hflag.setCall nofun

/-- **Every step keeps the books**, if no call trusts a slot that has changed hands. -/
theorem Inv.step (h : s.Inv) {a : SlotReuseAction} (hontime : OnTime a s)
    (hstep : SlotReuse.step a s = some s') :
    s'.Inv := by
  cases a with
  | initSession sessionIndex sessionId => exact h.initSession hstep
  | finishInit => exact h.finishInit hstep
  | tryEnqueueTask key =>
      cases hstep
      exact h.tryEnqueueTask key
  | beginDisconnect key =>
      cases hstep
      exact h.beginDisconnect key
  | lastIo =>
      cases hstep
      exact h.lastIo
  | applyLoginResult playerId =>
      cases hstep
      exact h.sameLife (s.slot.applyLoginResult_sameLife playerId)
  | trySetLobbyMode key =>
      cases hstep
      exact h.sameLife (s.slot.trySetLobbyMode_sameLife key)
  | trySetRoomMode key newRoomIndex =>
      cases hstep
      exact h.sameLife (s.slot.trySetRoomMode_sameLife key newRoomIndex)
  | completeRoomRemoval key =>
      cases hstep
      exact h.sameLife (s.slot.completeRoomRemoval_sameLife key)
  | startTasks | completeTasks =>
      simp only [SlotReuse.step] at hstep
      split at hstep <;> cases hstep
      exact ⟨h.free, h.held, h.nonzero, h.tasks, h.initializing, h.calls⟩
  | dequeueTask =>
      simp only [SlotReuse.step] at hstep
      split at hstep <;> cases hstep
      exact h.withTasks fun key => List.mem_of_mem_tail
  | writeLobby | writePlayers =>
      cases hstep
      exact ⟨h.free, h.held, h.nonzero, h.tasks, h.initializing, h.calls⟩
  | call t key =>
      simp only [SlotReuse.step] at hstep
      split at hstep <;> cases hstep
      refine h.setCall fun c hc => ?_
      obtain rfl := Option.some.inj hc
      exact .plain id rfl
  | go t hasRoom =>
      obtain ⟨c, hcall, rfl⟩ := Option.map_eq_some_iff.mp hstep
      exact h.goOn hcall hontime

theorem reachable_inv (h : systemOnTime.Reachable s) : s.Inv := by
  refine invariant (I := Inv) (fun s hs => ?_) (fun s s' hs hnext => ?_) h
  · rw [show s = start from hs]
    exact start_inv
  · obtain ⟨a, hontime, hstep⟩ := hnext
    exact hs.step hontime hstep

/-! ## What a call spares -/

/-- A step that writes none of it. -/
theorem Spares.refl (s : SlotReuse) (id : Nat) : Spares s s id where
  tasks := rfl
  flag _ := rfl
  slot _ := rfl
  lobby _ := ⟨rfl, rfl⟩
  active _ hmem _ := hmem
  registry _ _ := rfl
  players _ _ hkey _ _ := hkey

/-- The flag of a slot that no other connection has. -/
theorem spares_flag {id : Nat} (flag : Bool) (h : ¬ s.Others id) :
    Spares s { s with isProcessingTasks := flag } id :=
  ⟨rfl, fun hothers => absurd hothers h, fun _ => rfl, fun _ => ⟨rfl, rfl⟩, fun _ hmem _ => hmem,
    fun _ _ => rfl, fun _ _ hkey _ _ => hkey⟩

/-- `TryStartTaskProcessing` of a flag that is set writes nothing. -/
theorem spares_tryStart {id : Nat} (h : s.isProcessingTasks = false → ¬ s.Others id) :
    Spares s { s with isProcessingTasks := true } id := by
  by_cases hset : s.isProcessingTasks = true
  · have hsame : { s with isProcessingTasks := true } = s := by rw [← hset]
    rw [hsame]
    exact .refl s id
  · exact spares_flag true (h (Bool.eq_false_iff.mpr hset))

/-- A key that is the call's or nobody's is not that of another connection in the slot. -/
theorem Inv.not_hasKey (h : s.Inv) {id : Nat} {current : SessionKey}
    (hcurrent : current.sessionId = id ∨ current.sessionId = 0)
    (hother : s.slot.sessionKey.sessionId ≠ id) (hnone : s.slot.lifeState ≠ .none)
    (hinitializing : s.slot.lifeState ≠ .initializing) :
    ¬ s.slot.HasKey current := by
  rintro ⟨_, hsame⟩
  rcases hcurrent with hid | hzero
  · exact hother (hsame.trans hid)
  · have hused := h.held hnone hinitializing
    rw [hsame, hzero] at hused
    exact h.nonzero hused

theorem spares_setCall {id : Nat} (h : Spares s s' id) (t : Nat) (c : Option FinalizeCall) :
    Spares s (s'.setCall t c) id :=
  ⟨h.tasks, h.flag, h.slot, h.lobby, h.active, h.registry, h.players⟩

theorem spares_slot {id : Nat} {slot : SessionSlot}
    (h : s.slot.sessionKey.sessionId ≠ id → slot = s.slot) :
    Spares s (s.withSlot slot) id :=
  ⟨rfl, fun _ => rfl, h, fun _ => ⟨rfl, rfl⟩, fun _ hmem _ => hmem, fun _ _ => rfl,
    fun _ _ hkey _ _ => hkey⟩

theorem spares_removePlayer {id : Nat} {current : SessionKey}
    (hcurrent : current.sessionId = id ∨ current.sessionId = 0) (playerId : Int) :
    Spares s (s.removePlayer playerId current) id := by
  unfold removePlayer
  split
  next hlisted =>
    refine ⟨rfl, fun _ => rfl, fun _ => rfl, fun _ => ⟨rfl, rfl⟩, fun _ hmem _ => hmem,
      fun _ _ => rfl, fun playerId' key hkey hother hne => ?_⟩
    by_cases hsame : playerId' = playerId
    · subst hsame
      obtain rfl := Option.some.inj (hlisted.symm.trans hkey)
      exact (hcurrent.elim hother hne).elim
    · exact (Function.update_of_ne hsame ..).trans hkey
  next => exact .refl s id

theorem spares_removeActiveSession {id : Nat} {current : SessionKey}
    (hcurrent : current.sessionId = id) :
    Spares s (s.removeActiveSession current) id := by
  subst hcurrent
  refine ⟨rfl, fun _ => rfl, fun _ => rfl, fun _ => ⟨rfl, rfl⟩, fun other hmem hother => ?_,
    fun other hother => ?_, fun _ _ hkey _ _ => hkey⟩
  · exact (List.mem_erase_of_ne hother).mpr hmem
  · show (if s.sessionIndexRegistry current.sessionId = some current.sessionIndex then
        Function.update s.sessionIndexRegistry current.sessionId none
      else s.sessionIndexRegistry) other = s.sessionIndexRegistry other
    split
    · exact Function.update_of_ne hother ..
    · rfl

/-- The tasks in the queue are those of the connection in the slot. -/
theorem Inv.spares_discard (h : s.Inv) {id : Nat}
    (hright : s.slot.sessionKey.sessionId = id ∨ s.slot.sessionKey.sessionId = 0) :
    Spares s { s with sessionTasks := [] } id := by
  refine ⟨?_,
    fun _ => rfl, fun _ => rfl, fun _ => ⟨rfl, rfl⟩, fun _ hmem _ => hmem, fun _ _ => rfl,
    fun _ _ hkey _ _ => hkey⟩
  symm
  rw [List.filter_nil, List.filter_eq_nil_iff]
  intro key hkey
  obtain ⟨hsame, hne⟩ := h.tasks key hkey
  rcases hright with hid | hzero
  · simp [hsame, hid]
  · exact absurd (hsame.trans hzero) hne

theorem Inv.spares (h : s.Inv) {c : FinalizeCall} {hasRoom : Bool} (hcall : s.calls t = some c)
    (hontime : OnTime (.go t hasRoom) s) : Spares s (s.goOn t c hasRoom) c.key.sessionId := by
  have hok := h.calls t c hcall
  have hright : s.Trusts c.step → ¬ s.Others c.key.sessionId := hontime c hcall
  obtain ⟨key, step⟩ := c
  refine spares_setCall ?_ t _
  cases step with
  | completeRoomDisconnect current =>
      refine spares_slot fun hother => ?_
      unfold SessionSlot.completeRoomRemoval
      split
      next hgoing =>
        obtain ⟨hlife, _, hkey⟩ := hgoing
        refine absurd hkey (h.not_hasKey (hok.current current rfl) hother ?_ ?_) <;>
          rcases hlife with hlife | hlife <;> simp [hlife]
      next => rfl
  | removePlayer current playerId => exact spares_removePlayer (hok.current current rfl) playerId
  | clear current =>
      simp only [write]
      split
      next hclears =>
        refine ⟨rfl,
          fun _ => rfl, fun _ => rfl, fun hother => ?_, fun _ hmem _ => hmem, fun _ _ => rfl,
          fun _ _ hkey _ _ => hkey⟩
        obtain ⟨hsame, hne, _⟩ := hclears
        exact absurd (hsame.trans ((hok.current current rfl).resolve_right hne)) hother
      next => exact .refl s _
  | removeActiveSession current =>
      exact spares_removeActiveSession
        ((hok.current current rfl).resolve_right (hok.clearing current rfl))
  | discardTasks current => exact h.spares_discard (h.own_or_free (hright trivial))
  | finalizeDisconnect current =>
      simp only [write, SlotReuse.finalizeDisconnect]
      split
      next hdisconnecting =>
        refine spares_slot fun hother => ?_
        obtain ⟨hlife, hkey⟩ := hdisconnecting
        exact absurd hkey (h.not_hasKey (hok.current current rfl) hother (by simp [hlife])
          (by simp [hlife]))
      next => exact .refl s _
  | tryStart => exact spares_tryStart hright
  | completeTasks | giveUp => exact spares_flag false (hright trivial)
  | findSession | getLifeState | matchesKey | recheckLife | getSessionKey | getRoomSnapshot
  | getDBInfo =>
      exact .refl s _

/--
**No `FinalizeDisconnect` touches what another connection has**, in every run in which none of
them sets the flag, reads the key, discards or lets go when the slot has changed hands.
-/
theorem slotReuse_spares (h : systemOnTime.Reachable s) :
    ∀ t hasRoom c s', s.calls t = some c → OnTime (.go t hasRoom) s →
      step (.go t hasRoom) s = some s' →
      Spares s s' c.key.sessionId := by
  intro t hasRoom c s' hcall hontime hstep
  obtain ⟨c', hcall', rfl⟩ := Option.map_eq_some_iff.mp hstep
  obtain rfl := Option.some.inj (hcall.symm.trans hcall')
  exact (reachable_inv h).spares hcall hontime

/-- The connection that goes, and the one that comes. -/
def goneKey : SessionKey := ⟨0, -1, 7⟩

def nextKey : SessionKey := ⟨0, -1, 9⟩

/-- A thread goes on so many times. -/
def goes (t : Nat) (n : Nat) : List SlotReuseAction := List.replicate n (.go t false)

/--
Two threads finalize one connection. One cleans up; another connection comes, queues a task and
has it processed while the second thread is about to ask for the flag.
-/
def askedLate : List SlotReuseAction :=
  [.initSession 0 7, .finishInit, .tryEnqueueTask goneKey, .beginDisconnect goneKey, .lastIo,
    .call 0 goneKey, .call 1 goneKey] ++ goes 1 2 ++ goes 0 13 ++
    [.initSession 0 9, .finishInit, .tryEnqueueTask nextKey, .startTasks]

theorem slotReuse_spares_askedLate : ∃ s s', systemOnTime.Reachable s ∧ s.Others 7 ∧
    s.isProcessingTasks = true ∧ s.sessionTasks = [nextKey] ∧
    s.calls 1 = some ⟨goneKey, .tryStart⟩ ∧
    step (.go 1 false) s = some s' ∧ Spares s s' 7 := by
  have hrun :
      (System.follow (fun a s => decide (OnTime a s)) step askedLate start).any (fun s => decide
      (s.Others 7 ∧ s.isProcessingTasks = true ∧ s.sessionTasks = [nextKey] ∧
        s.calls 1 = some ⟨goneKey, .tryStart⟩)) = true := by
    decide
  simp only [Option.any_eq_true, decide_eq_true_eq] at hrun
  obtain ⟨s, hs, hothers, hset, htasks, hcall⟩ := hrun
  have hreachable : systemOnTime.Reachable s :=
    (show systemOnTime.Reachable start from .start rfl).follow (fun _ _ => of_decide_eq_true) hs
  have hontime : OnTime (.go 1 false) s := fun c hc hfree => by
    obtain rfl := Option.some.inj (hcall.symm.trans hc)
    exact absurd (hset.symm.trans hfree) (by decide)
  have hstep : step (.go 1 false) s = some (s.goOn 1 ⟨goneKey, .tryStart⟩ false) := by
    simp only [step, hcall, Option.map_some]
  exact ⟨s, _, hreachable, hothers, hset, htasks, hcall, hstep,
    slotReuse_spares hreachable 1 false _ _ hcall hontime hstep⟩

/--
Two threads finalize one connection. When the second has the flag the first empties the slot,
another connection comes and queues a task, and the second reads its key.
-/
def reusedMeanwhile : List SlotReuseAction :=
  [.initSession 0 7, .finishInit, .beginDisconnect goneKey, .lastIo, .call 0 goneKey,
    .call 1 goneKey] ++
    goes 0 12 ++ goes 1 5 ++ goes 0 1 ++ [.initSession 0 9, .finishInit,
      .tryEnqueueTask nextKey] ++ goes 1 5

/-- **The successor's task is discarded.** -/
theorem successor_loses_task : ∃ s t hasRoom c s', system.Reachable s ∧ s.calls t = some c ∧
    step (.go t hasRoom) s = some s' ∧ ¬ Spares s s' c.key.sessionId := by
  have hrun : (System.follow (fun _ _ => true) step reusedMeanwhile start).any (fun s => decide
      (s.sessionTasks = [nextKey] ∧ s.calls 1 = some ⟨goneKey, .discardTasks nextKey⟩)) =
        true := by
    decide
  simp only [Option.any_eq_true, decide_eq_true_eq] at hrun
  obtain ⟨s, hs, htasks, hcall⟩ := hrun
  have hreachable : system.Reachable s :=
    (show system.Reachable start from .start rfl).follow (fun _ _ _ => trivial) hs
  refine ⟨s, 1, false, _, s.goOn 1 ⟨goneKey, .discardTasks nextKey⟩ false, hreachable, hcall,
    by simp only [step, hcall, Option.map_some], fun h => ?_⟩
  have hlost : ([] : List SessionKey) = s.sessionTasks.filter (fun key => key.sessionId ≠ 7) :=
    h.tasks
  rw [htasks] at hlost
  exact absurd hlost (by decide)

end SlotReuse

end ProjectTetris

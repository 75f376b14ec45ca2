import ProjectTetris.Lib.Transition
import ProjectTetris.Rooms.Player

/-!
# The life of a session slot

A `Session` counts the IOs it has posted. It is freed when it is to be disconnected and the
count is 0, and whoever finds both, `BeginDisconnect` or the `CompleteIO` of the last IO,
has to say so.

What a function does under its locks is one step, with one exception: `CompleteIO` takes
`session_mutex_` for the comparison of the keys only, so that its other loads and writes
come between those of `BeginDisconnect`. `CompleteIO` takes the count down first and looks
at the life state afterwards, and there it relies on a count that is still 0.
-/

namespace ProjectTetris

open Transition

/-- `Session`, as far as its life goes. -/
structure SessionSlot where
  lifeState : LifeState
  modeState : ModeState
  roomIndex : Int
  sessionKey : SessionKey
  /-- `socket_` is not `INVALID_SOCKET`. -/
  hasSocket : Bool
  ioPendingCount : Int

namespace SessionSlot

/-- `Session()`. -/
def empty : SessionSlot := ⟨.none, .none, -1, .empty, false, 0⟩

/-- The comparison of two keys, which leaves out the account. -/
def HasKey (s : SessionSlot) (key : SessionKey) : Prop :=
  s.sessionKey.sessionIndex = key.sessionIndex ∧ s.sessionKey.sessionId = key.sessionId

instance (s : SessionSlot) (key : SessionKey) : Decidable (s.HasKey key) := by
  unfold HasKey; infer_instance

/-- The part of `InitSession` under the locks. -/
def initSession (_ : SessionSlot) (key : SessionKey) : SessionSlot where
  lifeState := .active
  modeState := .login
  roomIndex := -1
  sessionKey := key
  hasSocket := true
  ioPendingCount := 0

def applyLoginResult (s : SessionSlot) (playerId : Int) : SessionSlot :=
  if s.modeState = .login ∧ s.lifeState = .active then
    { s with sessionKey := { s.sessionKey with playerId := playerId }, modeState := .lobby }
  else s

def trySetLobbyMode (s : SessionSlot) (key : SessionKey) : SessionSlot :=
  if s.lifeState = .active ∧ s.modeState = .room ∧ s.HasKey key then
    { s with roomIndex := -1, modeState := .lobby }
  else s

def trySetRoomMode (s : SessionSlot) (key : SessionKey) (newRoomIndex : Int) : SessionSlot :=
  if 0 ≤ newRoomIndex ∧ s.lifeState = .active ∧ s.modeState = .lobby ∧ s.HasKey key then
    { s with roomIndex := newRoomIndex, modeState := .room }
  else s

def completeRoomRemoval (s : SessionSlot) (key : SessionKey) : SessionSlot × Bool :=
  if (s.lifeState = .disconnectPending ∨ s.lifeState = .disconnecting) ∧ s.modeState = .room ∧
    s.HasKey key then
    ({ s with roomIndex := -1, modeState := .none }, s.lifeState = .disconnecting)
  else (s, false)

/-- What `FinalizeDisconnect` writes. -/
def freed (s : SessionSlot) : SessionSlot :=
  { s with
    lifeState := .none
    modeState := .none
    roomIndex := -1
    sessionKey := { s.sessionKey with playerId := -1, sessionId := 0 } }

/-- The two differ in something else than the life of the session. -/
def SameLife (s s' : SessionSlot) : Prop :=
  s'.lifeState = s.lifeState ∧ s'.ioPendingCount = s.ioPendingCount ∧ ∀ key, s'.HasKey key ↔
    s.HasKey key

theorem SameLife.refl (s : SessionSlot) : s.SameLife s := ⟨rfl, rfl, fun _ => .rfl⟩

theorem applyLoginResult_sameLife (s : SessionSlot) (playerId : Int) :
    s.SameLife (s.applyLoginResult playerId) := by
  unfold applyLoginResult
  split
  · exact ⟨rfl, rfl, fun _ => .rfl⟩
  · exact .refl s

theorem trySetLobbyMode_sameLife (s : SessionSlot) (key : SessionKey) :
    s.SameLife (s.trySetLobbyMode key) := by
  unfold trySetLobbyMode
  split
  · exact ⟨rfl, rfl, fun _ => .rfl⟩
  · exact .refl s

theorem trySetRoomMode_sameLife (s : SessionSlot) (key : SessionKey) (newRoomIndex : Int) :
    s.SameLife (s.trySetRoomMode key newRoomIndex) := by
  unfold trySetRoomMode
  split
  · exact ⟨rfl, rfl, fun _ => .rfl⟩
  · exact .refl s

theorem completeRoomRemoval_sameLife (s : SessionSlot) (key : SessionKey) :
    s.SameLife (s.completeRoomRemoval key).1 := by
  unfold completeRoomRemoval
  split
  · exact ⟨rfl, rfl, fun _ => .rfl⟩
  · exact .refl s

end SessionSlot

/-- A posted IO has the key of its session; `connection` says which one of the slot that was. -/
structure PostedIo where
  sessionKey : SessionKey
  connection : Nat
  deriving DecidableEq

/-- How far a `CompleteIO` is that has not taken the count down yet. -/
inductive CompleteStage where
  | called | lifeLoaded | keyMatched | countPositive
  deriving DecidableEq

structure CompleteCall where
  io : PostedIo
  stage : CompleteStage
  deriving DecidableEq

/-- How far the `BeginDisconnect` is that holds both locks. -/
inductive BeginStage where
  | marked | countedZero
  deriving DecidableEq

/-- What happens on a slot, with the connection it happens to. -/
inductive SlotEvent where
  | posted (connection : Nat)
  | disconnectPending (connection : Nat)
  /-- `BeginDisconnect` or `CompleteIO` returns `true`, at this count. -/
  | returnedTrue (connection : Nat) (ioPendingCount : Int)
  /-- The slot goes back to `NONE`. -/
  | freed (ioPendingCount : Int)
  /-- What `MatchesSessionKey` has told a `CompleteIO`. -/
  | matched (found : Bool)
  deriving DecidableEq

/-- A slot, the IOs and calls under way, and what has happened. -/
structure SlotRun where
  slot : SessionSlot
  /-- The `InitSession` that has set `INITIALIZING`. -/
  initializing : Option SessionKey
  beginning : Option BeginStage
  /-- The IOs whose completion nobody has taken yet. -/
  posted : List PostedIo
  completing : List CompleteCall
  /-- The `CompleteIO`s that have taken the count to 0, before their compare-exchange. -/
  zeroed : List PostedIo
  connection : Nat
  log : List SlotEvent

inductive SlotAction where
  | initSession (sessionIndex : Int) (sessionId : Nat)
  | finishInit
  | sendPacket
  | recvPacket
  /-- An IO has finished, and its `CompleteIO` is called. -/
  | completeIo (i : Nat)
  | completeStep (i : Nat)
  | compareExchange (i : Nat)
  | beginDisconnect (key : SessionKey)
  | beginStep
  | completeRoomRemoval (key : SessionKey)
  | finalizeDisconnect (key : SessionKey)
  | applyLoginResult (playerId : Int)
  | trySetLobbyMode (key : SessionKey)
  | trySetRoomMode (key : SessionKey) (newRoomIndex : Int)

namespace SlotRun

/-- The state of a server that has just started. -/
def start : SlotRun := ⟨.empty, none, none, [], [], [], 0, []⟩

/-- A step that takes `session_mutex_` or `socket_mutex_`: `BeginDisconnect` has them both. -/
def locking (s : SlotRun) (s' : SlotRun) : Option SlotRun :=
  if s.beginning = none then some s' else none

def setLife (s : SlotRun) (life : LifeState) : SlotRun :=
  { s with slot := { s.slot with lifeState := life } }

def logging (s : SlotRun) (e : SlotEvent) : SlotRun := { s with log := s.log ++ [e] }

def initSession (s : SlotRun) (sessionIndex : Int) (sessionId : Nat) : SlotRun :=
  if 0 ≤ sessionIndex ∧ sessionId ≠ 0 ∧ s.slot.lifeState = .none then
    { s.setLife .initializing with initializing := some ⟨sessionIndex, -1, sessionId⟩ }
  else s

def finishInit (s : SlotRun) : Option SlotRun :=
  match s.initializing with
  | none => none
  | some key => s.locking
      { s with
        slot := s.slot.initSession key
        initializing := none
        connection := s.connection + 1 }

/--
What `SendPacket` and `RecvPacket` do under the shared lock. An IO that fails at once has its
completion posted, so that it completes as the others do.
-/
def post (s : SlotRun) : SlotRun :=
  if s.slot.lifeState = .active ∧ s.slot.hasSocket = true then
    { s.logging (.posted s.connection) with
      slot := { s.slot with ioPendingCount := s.slot.ioPendingCount + 1 }
      posted := s.posted ++ [⟨s.slot.sessionKey, s.connection⟩] }
  else s

def completeIo (s : SlotRun) (i : Nat) : Option SlotRun :=
  s.posted[i]?.map fun io =>
    { s with posted := s.posted.eraseIdx i, completing := s.completing ++ [⟨io, .called⟩] }

/-- The `CompleteIO` goes on, or returns `false`. -/
def goOn (s : SlotRun) (i : Nat) (c : CompleteCall) (stage : CompleteStage) : SlotRun :=
  { s with completing := s.completing.set i { c with stage := stage } }

def giveUp (s : SlotRun) (i : Nat) : SlotRun := { s with completing := s.completing.eraseIdx i }

/-- The decrement. -/
def takeDown (s : SlotRun) (i : Nat) (io : PostedIo) : SlotRun :=
  { s.giveUp i with
    slot := { s.slot with ioPendingCount := s.slot.ioPendingCount - 1 }
    zeroed := if s.slot.ioPendingCount - 1 ≠ 0 then s.zeroed else s.zeroed ++ [io] }

def completeStepOf (s : SlotRun) (i : Nat) (c : CompleteCall) : Option SlotRun :=
  match c.stage with
  | .called => some (
      if s.slot.lifeState = .none ∨ s.slot.lifeState = .initializing then
      (s.giveUp i).logging (.matched false) else s.goOn i c .lifeLoaded)
  | .lifeLoaded => s.locking (
      if s.slot.HasKey c.io.sessionKey then (s.goOn i c .keyMatched).logging (.matched true)
      else (s.giveUp i).logging (.matched false))
  | .keyMatched =>
      some (if s.slot.ioPendingCount ≤ 0 then s.giveUp i else s.goOn i c .countPositive)
  | .countPositive => some (s.takeDown i c.io)

/-- The compare-exchange of `DISCONNECT_PENDING` for `DISCONNECTING`, by a call for this
connection. -/
def exchange (s : SlotRun) (connection : Nat) : SlotRun :=
  if s.slot.lifeState = .disconnectPending then
    (s.setLife .disconnecting).logging (.returnedTrue connection s.slot.ioPendingCount)
  else s

def compareExchange (s : SlotRun) (i : Nat) : Option SlotRun :=
  s.zeroed[i]?.map fun io => { s.exchange io.connection with zeroed := s.zeroed.eraseIdx i }

def beginDisconnect (s : SlotRun) (key : SessionKey) : SlotRun :=
  if s.slot.lifeState = .active ∧ s.slot.HasKey key then
    { s.logging (.disconnectPending s.connection) with
      slot := { s.slot with lifeState := .disconnectPending, hasSocket := false }
      beginning := some .marked }
  else s

/-- The count is loaded, and then comes the compare-exchange. -/
def beginStep (s : SlotRun) : Option SlotRun :=
  match s.beginning with
  | none => none
  | some .marked =>
      some { s with beginning := if s.slot.ioPendingCount ≠ 0 then none else some .countedZero }
  | some .countedZero => some { s.exchange s.connection with beginning := none }

def finalizeDisconnect (s : SlotRun) (key : SessionKey) : SlotRun :=
  if s.slot.lifeState = .disconnecting ∧ s.slot.HasKey key then
    { s.logging (.freed s.slot.ioPendingCount) with slot := s.slot.freed }
  else s

def withSlot (s : SlotRun) (slot : SessionSlot) : SlotRun := { s with slot := slot }

def step : SlotAction → SlotRun → Option SlotRun
  | .initSession sessionIndex sessionId, s => some (s.initSession sessionIndex sessionId)
  | .finishInit, s => s.finishInit
  | .sendPacket, s => s.locking s.post
  | .recvPacket, s => s.locking s.post
  | .completeIo i, s => s.completeIo i
  | .completeStep i, s => s.completing[i]?.bind (s.completeStepOf i)
  | .compareExchange i, s => s.compareExchange i
  | .beginDisconnect key, s => s.locking (s.beginDisconnect key)
  | .beginStep, s => s.beginStep
  | .completeRoomRemoval key, s => s.locking (s.withSlot (s.slot.completeRoomRemoval key).1)
  | .finalizeDisconnect key, s => s.locking (s.finalizeDisconnect key)
  | .applyLoginResult playerId, s => s.locking (s.withSlot (s.slot.applyLoginResult playerId))
  | .trySetLobbyMode key, s => s.locking (s.withSlot (s.slot.trySetLobbyMode key))
  | .trySetRoomMode key newRoomIndex, s =>
      s.locking (s.withSlot (s.slot.trySetRoomMode key newRoomIndex))

/-- Every order of the steps. -/
def system : System SlotRun := .taking (fun s => s = start) step fun _ _ => True

/--
The compare-exchange of a `CompleteIO` does not come too late: if it finds a session that is
to be disconnected, no IO has been posted since it took the count to 0 that is still under way,
and the slot has not gone to another connection.
-/
def OnTime : SlotAction → SlotRun → Prop
  | .compareExchange i, s => ∀ io ∈ s.zeroed[i]?, s.slot.lifeState = .disconnectPending →
      s.slot.ioPendingCount = 0 ∧ io.connection = s.connection
  | _, _ => True

instance (a : SlotAction) (s : SlotRun) : Decidable (OnTime a s) := by
  unfold OnTime
  split <;> infer_instance

def systemOnTime : System SlotRun := .taking (fun s => s = start) step OnTime

/-- The IOs that have been posted and not completed. -/
def outstanding (s : SlotRun) : Nat := s.posted.length + s.completing.length

/-- Nobody is in the middle of a function. -/
def Idle (s : SlotRun) : Prop :=
  s.initializing = none ∧ s.beginning = none ∧ s.completing = [] ∧ s.zeroed = []

/-- What the count is for. -/
structure Protocol (s : SlotRun) : Prop where
  counted : s.slot.ioPendingCount = s.outstanding
  nonneg : 0 ≤ s.slot.ioPendingCount
  noLatePost : ∀ n, ¬ [.disconnectPending n, .posted n].Sublist s.log
  returnsOnce : ∀ n k k', ¬ [.returnedTrue n k, .returnedTrue n k'].Sublist s.log
  returnsAtZero : ∀ n k, .returnedTrue n k ∈ s.log → k = 0
  handedOver : s.Idle → ¬ (s.slot.lifeState = .disconnectPending ∧ s.slot.ioPendingCount = 0)
  freedAtZero : ∀ k, .freed k ∈ s.log → k = 0
  matched : .matched false ∉ s.log

end SlotRun

/-! ## What may be in the log -/

namespace SlotEvent

def connection : SlotEvent → Nat
  | posted n | disconnectPending n | returnedTrue n _ => n
  | freed _ | matched _ => 0

/-- The second may come after the first. -/
def Allows : SlotEvent → SlotEvent → Prop
  | disconnectPending n, posted n' => n ≠ n'
  | returnedTrue n _, returnedTrue n' _ => n ≠ n'
  | _, _ => True

def Ok : SlotEvent → Prop
  | returnedTrue _ k | freed k => k = 0
  | matched found => found = true
  | _ => True

end SlotEvent

/-- The log of a slot, and what is still to come for its connection. -/
structure LogOk (log : List SlotEvent) (connection : Nat) (life : LifeState) : Prop where
  notPending : life = .active → .disconnectPending connection ∉ log
  notReturned : life = .active ∨ life = .disconnectPending → ∀ k, .returnedTrue connection k ∉ log
  past : ∀ e ∈ log, e.connection ≤ connection
  order : log.Pairwise SlotEvent.Allows
  ok : ∀ e ∈ log, e.Ok

namespace LogOk

variable {log : List SlotEvent} {n : Nat} {life life' : LifeState}

theorem append {e : SlotEvent} (h : LogOk log n life) (hok : e.Ok) (hpast : e.connection ≤ n)
    (horder : ∀ e' ∈ log, e'.Allows e)
    (hpending : life' = .active → .disconnectPending n ∉ log ++ [e])
    (hreturned : life' = .active ∨ life' = .disconnectPending → ∀ k,
      .returnedTrue n k ∉ log ++ [e]) :
    LogOk (log ++ [e]) n life' where
  notPending := hpending
  notReturned := hreturned
  past e' he' := by
    rcases List.mem_append.mp he' with hold | hnew
    · exact h.past e' hold
    · rwa [List.mem_singleton.mp hnew]
  order := List.pairwise_append.mpr ⟨h.order, List.pairwise_singleton .., fun e₁ h₁ e₂ h₂ => by
    rw [List.mem_singleton.mp h₂]
    exact horder e₁ h₁⟩
  ok e' he' := by
    rcases List.mem_append.mp he' with hold | hnew
    · exact h.ok e' hold
    · rwa [List.mem_singleton.mp hnew]

/-- An event that closes nothing. -/
theorem note {e : SlotEvent} (h : LogOk log n life) (hok : e.Ok) (hpast : e.connection ≤ n)
    (horder : ∀ e' ∈ log, e'.Allows e) (hpending : e ≠ .disconnectPending n)
    (hreturned : ∀ k, e ≠ .returnedTrue n k) :
    LogOk (log ++ [e]) n life := by
  refine h.append hok hpast horder (fun hactive hmem => ?_) fun hlife k hmem => ?_
  · rcases List.mem_append.mp hmem with hold | hnew
    · exact h.notPending hactive hold
    · exact hpending (List.mem_singleton.mp hnew).symm
  · rcases List.mem_append.mp hmem with hold | hnew
    · exact h.notReturned hlife k hold
    · exact hreturned k (List.mem_singleton.mp hnew).symm

theorem allows_matched (e : SlotEvent) (found : Bool) : e.Allows (.matched found) := by
  cases e <;> trivial

theorem allows_freed (e : SlotEvent) (k : Int) : e.Allows (.freed k) := by cases e <;> trivial

theorem allows_disconnectPending (e : SlotEvent) (n : Nat) : e.Allows (.disconnectPending n) := by
  cases e <;> trivial

theorem matched (h : LogOk log n life) : LogOk (log ++ [.matched true]) n life :=
  h.note rfl (Nat.zero_le _) (fun e _ => allows_matched e true) nofun nofun

theorem posted (h : LogOk log n .active) : LogOk (log ++ [.posted n]) n .active := by
  refine h.note trivial (Nat.le_refl _) (fun e he => ?_) nofun nofun
  cases e with
  | disconnectPending n' =>
      intro heq
      exact h.notPending rfl (heq ▸ he)
  | _ => trivial

theorem disconnectPending (h : LogOk log n .active) :
    LogOk (log ++ [.disconnectPending n]) n .disconnectPending := by
  refine h.append trivial (Nat.le_refl _) (fun e _ => allows_disconnectPending e n)
    nofun fun _ k hmem => ?_
  rcases List.mem_append.mp hmem with hold | hnew
  · exact h.notReturned (.inl rfl) k hold
  · cases List.mem_singleton.mp hnew

/-- The one `true` of a connection. -/
theorem returnedTrue (h : LogOk log n .disconnectPending) :
    LogOk (log ++ [.returnedTrue n 0]) n .disconnecting := by
  refine h.append rfl (Nat.le_refl _) (fun e he => ?_) nofun nofun
  cases e with
  | returnedTrue n' k =>
      intro heq
      exact h.notReturned (.inr rfl) k (heq ▸ he)
  | _ => trivial

theorem freed (h : LogOk log n life) : LogOk (log ++ [.freed 0]) n .none :=
  h.append rfl (Nat.zero_le _) (fun e _ => allows_freed e 0) nofun nofun

theorem initializing (h : LogOk log n life) : LogOk log n .initializing :=
  ⟨nofun, nofun, h.past, h.order, h.ok⟩

/-- The next connection starts anew. -/
theorem renew (h : LogOk log n life) : LogOk log (n + 1) .active := by
  refine ⟨fun _ hmem => ?_,
    fun _ k hmem => ?_, fun e he => Nat.le_succ_of_le (h.past e he), h.order, h.ok⟩
  · exact absurd (h.past _ hmem) (Nat.not_succ_le_self n)
  · exact absurd (h.past _ hmem) (Nat.not_succ_le_self n)

end LogOk

namespace SlotRun

/-! ## The invariant -/

/-- The IO belongs to the connection the slot has now. -/
def Current (s : SlotRun) (io : PostedIo) : Prop :=
  s.slot.HasKey io.sessionKey ∧ io.connection = s.connection

structure Inv (s : SlotRun) : Prop where
  counted : s.slot.ioPendingCount = s.outstanding
  live : s.outstanding ≠ 0 → s.slot.lifeState = .active ∨ s.slot.lifeState = .disconnectPending
  posted : ∀ io ∈ s.posted, s.Current io
  completing : ∀ c ∈ s.completing, s.Current c.io
  beginning : s.beginning ≠ none → s.slot.lifeState = .disconnectPending ∨
    s.slot.lifeState = .disconnecting
  countedZero : s.beginning = some .countedZero → s.slot.ioPendingCount = 0
  /-- Somebody is still to make the exchange. -/
  handedOver : s.slot.lifeState = .disconnectPending → s.slot.ioPendingCount = 0 →
    s.beginning = none → s.zeroed ≠ []
  initializing : s.initializing ≠ none → s.slot.lifeState = .initializing
  log : LogOk s.log s.connection s.slot.lifeState

variable {s s' : SlotRun}

theorem start_inv : start.Inv where
  counted := rfl
  live h := absurd rfl h
  posted := nofun
  completing := nofun
  beginning h := absurd rfl h
  countedZero := nofun
  handedOver := nofun
  initializing h := absurd rfl h
  log := ⟨nofun, nofun, nofun, .nil, nofun⟩

theorem locking_eq (h : s.locking s' = some s'') : s.beginning = none ∧ s' = s'' := by
  unfold locking at h
  split at h
  next hfree => exact ⟨hfree, Option.some.inj h⟩
  next => cases h

namespace Inv

/-- There is nothing under way on a slot that is neither active nor to be disconnected. -/
theorem nothing_out (h : s.Inv) (hactive : s.slot.lifeState ≠ .active)
    (hpending : s.slot.lifeState ≠ .disconnectPending) : s.outstanding = 0 :=
  Decidable.byContradiction fun hne => (h.live hne).elim hactive hpending

theorem posted_eq_nil (h : s.outstanding = 0) : s.posted = [] ∧ s.completing = [] := by
  unfold outstanding at h
  exact ⟨List.eq_nil_of_length_eq_zero (by omega), List.eq_nil_of_length_eq_zero (by omega)⟩

theorem initSession (h : s.Inv) (sessionIndex : Int) (sessionId : Nat) :
    (s.initSession sessionIndex sessionId).Inv := by
  unfold SlotRun.initSession
  split
  next hnone =>
    have hlife := hnone.2.2
    have hfree : s.beginning = none := by
      refine Decidable.byContradiction fun hne => ?_
      rcases h.beginning hne with hp | hd
      · cases hlife.symm.trans hp
      · cases hlife.symm.trans hd
    have hzero : s.outstanding = 0 := h.nothing_out (by rw [hlife]; nofun) (by rw [hlife]; nofun)
    exact ⟨h.counted, fun hne => absurd hzero hne, h.posted, h.completing,
      fun hne => absurd hfree hne, h.countedZero, nofun, fun _ => rfl, h.log.initializing⟩
  next => exact h

theorem finishInit (h : s.Inv) (hstep : s.finishInit = some s') : s'.Inv := by
  unfold SlotRun.finishInit at hstep
  split at hstep
  next => cases hstep
  next key hinit =>
    obtain ⟨hfree, rfl⟩ := locking_eq hstep
    have hlife : s.slot.lifeState = .initializing := h.initializing (by rw [hinit]; nofun)
    have hzero : s.outstanding = 0 := h.nothing_out (by rw [hlife]; nofun) (by rw [hlife]; nofun)
    obtain ⟨hposted, hcompleting⟩ := posted_eq_nil hzero
    refine ⟨?_, fun _ => .inl rfl, ?_, ?_, fun hne => absurd hfree hne,
      fun _ => rfl, nofun, fun hne => absurd rfl hne, h.log.renew⟩
    · show (0 : Int) = s.outstanding
      rw [hzero]
      rfl
    · show ∀ io ∈ s.posted, _
      rw [hposted]
      nofun
    · show ∀ c ∈ s.completing, _
      rw [hcompleting]
      nofun

theorem post (h : s.Inv) (hfree : s.beginning = none) : s.post.Inv := by
  unfold SlotRun.post
  split
  next hactive =>
    have hlife := hactive.1
    refine ⟨?_, fun _ => .inl hlife, ?_, h.completing,
      fun hne => absurd hfree hne, fun hzero => ?_, fun hp => ?_, h.initializing, ?_⟩
    · have hcounted := h.counted
      simp only [outstanding, List.length_append, List.length_singleton, logging] at hcounted ⊢
      omega
    · intro io hio
      rcases List.mem_append.mp hio with hold | hnew
      · exact h.posted io hold
      · rw [List.mem_singleton.mp hnew]
        exact ⟨⟨rfl, rfl⟩, rfl⟩
    · cases hfree.symm.trans hzero
    · cases hlife.symm.trans hp
    · have hlog := h.log
      rw [hlife] at hlog
      show LogOk (s.log ++ [.posted s.connection]) s.connection s.slot.lifeState
      rw [hlife]
      exact hlog.posted
  next => exact h

theorem completeIo (h : s.Inv) {i : Nat} (hstep : s.completeIo i = some s') : s'.Inv := by
  obtain ⟨io, hget, rfl⟩ := Option.map_eq_some_iff.mp hstep
  obtain ⟨hlt, hio⟩ := List.getElem?_eq_some_iff.mp hget
  have hsame : SlotRun.outstanding
      { s with posted := s.posted.eraseIdx i, completing := s.completing ++ [⟨io, .called⟩] } =
        s.outstanding := by
    simp only [outstanding, List.length_eraseIdx_of_lt hlt, List.length_append,
      List.length_singleton]
    omega
  refine ⟨h.counted.trans (by rw [hsame]), fun hne => h.live (by rwa [hsame] at hne), ?_, ?_,
    h.beginning, h.countedZero, h.handedOver, h.initializing, h.log⟩
  · intro io' hio'
    exact h.posted io' (List.mem_of_mem_eraseIdx hio')
  · intro c hc
    rcases List.mem_append.mp hc with hold | hnew
    · exact h.completing c hold
    · rw [List.mem_singleton.mp hnew]
      exact h.posted io (List.mem_of_getElem? hget)

theorem goOn (h : s.Inv) {i : Nat} {c : CompleteCall} (hc : c ∈ s.completing)
    (stage : CompleteStage) :
    (s.goOn i c stage).Inv := by
  have hsame : (s.goOn i c stage).outstanding = s.outstanding := by
    simp only [outstanding, SlotRun.goOn, List.length_set]
  refine ⟨h.counted.trans (by rw [hsame]), fun hne => h.live (by rwa [hsame] at hne), h.posted, ?_,
    h.beginning, h.countedZero, h.handedOver, h.initializing, h.log⟩
  intro c' hc'
  rcases List.mem_or_eq_of_mem_set hc' with hold | hnew
  · exact h.completing c' hold
  · rw [hnew]
    exact h.completing c hc

theorem matched (h : s.Inv) : (s.logging (.matched true)).Inv :=
  ⟨h.counted, h.live, h.posted, h.completing, h.beginning, h.countedZero, h.handedOver,
    h.initializing, h.log.matched⟩

theorem outstanding_ne_zero {c : CompleteCall} (hc : c ∈ s.completing) : s.outstanding ≠ 0 := by
  have hpos := List.length_pos_of_mem hc
  unfold outstanding
  omega

theorem takeDown (h : s.Inv) {i : Nat} {c : CompleteCall} (hget : s.completing[i]? = some c) :
    (s.takeDown i c.io).Inv := by
  obtain ⟨hlt, _⟩ := List.getElem?_eq_some_iff.mp hget
  have hne : s.outstanding ≠ 0 := outstanding_ne_zero (List.mem_of_getElem? hget)
  have hcounted := h.counted
  have hone : (s.takeDown i c.io).outstanding + 1 = s.outstanding := by
    simp only [outstanding, SlotRun.takeDown, giveUp, List.length_eraseIdx_of_lt hlt]
    omega
  refine ⟨?_, fun _ => h.live hne, h.posted,
    fun c' hc' => h.completing c' (List.mem_of_mem_eraseIdx hc'), h.beginning,
    fun hzero => ?_, fun _ hcount _ => ?_, h.initializing, h.log⟩
  · show s.slot.ioPendingCount - 1 = (s.takeDown i c.io).outstanding
    omega
  · have hcount := h.countedZero hzero
    omega
  · have hcount : s.slot.ioPendingCount - 1 = 0 := hcount
    simp only [SlotRun.takeDown, hcount, ne_eq, not_true_eq_false, if_false]
    exact List.append_ne_nil_of_right_ne_nil _ nofun

theorem completeStep (h : s.Inv) {i : Nat} {c : CompleteCall} (hget : s.completing[i]? = some c)
    (hstep : s.completeStepOf i c = some s') : s'.Inv := by
  have hc : c ∈ s.completing := List.mem_of_getElem? hget
  have hne : s.outstanding ≠ 0 := outstanding_ne_zero hc
  unfold completeStepOf at hstep
  split at hstep
  · cases hstep
    split
    next hgone =>
      -- an IO that is out keeps its session alive
      rcases h.live hne with hactive | hpending <;> simp_all
    next => exact h.goOn hc .lifeLoaded
  · obtain ⟨_, rfl⟩ := locking_eq hstep
    rw [if_pos (h.completing c hc).1]
    exact (h.goOn hc .keyMatched).matched
  · cases hstep
    have hcounted := h.counted
    rw [if_neg (by omega)]
    exact h.goOn hc .countPositive
  · cases hstep
    exact h.takeDown hget

theorem exchange_life (s : SlotRun) (n : Nat) :
    (s.exchange n).slot.lifeState ≠ .disconnectPending := by
  unfold exchange
  split
  · exact nofun
  next hne => exact hne

theorem exchange (h : s.Inv) {n : Nat}
    (hright : s.slot.lifeState = .disconnectPending → s.slot.ioPendingCount = 0 ∧
      n = s.connection) :
    (s.exchange n).Inv := by
  unfold SlotRun.exchange
  split
  next hpending =>
    obtain ⟨hzero, rfl⟩ := hright hpending
    have hout : s.outstanding = 0 := by
      have hcounted := h.counted
      omega
    refine ⟨h.counted, fun hne => absurd hout hne, h.posted, h.completing,
      fun _ => .inr rfl, h.countedZero, nofun, fun hinit => ?_, ?_⟩
    · cases hpending.symm.trans (h.initializing hinit)
    · have hlog := h.log
      rw [hpending] at hlog
      show LogOk (s.log ++ [.returnedTrue s.connection s.slot.ioPendingCount]) s.connection
        .disconnecting
      rw [hzero]
      exact hlog.returnedTrue
  next => exact h

/-- After the exchange the call that has made it is of no use any more. -/
theorem leave (h : s.Inv) (hlife : s.slot.lifeState ≠ .disconnectPending)
    {beginning : Option BeginStage} (hbeginning : beginning = none ∨ beginning = s.beginning)
    (zeroed : List PostedIo) :
    Inv { s with beginning := beginning, zeroed := zeroed } := by
  have hold : beginning ≠ none → beginning = s.beginning := hbeginning.resolve_left
  refine ⟨h.counted, h.live, h.posted, h.completing,
    fun hne => ?_, fun hzero => ?_, fun hp => absurd hp hlife, h.initializing, h.log⟩
  · have hne : beginning ≠ none := hne
    exact h.beginning (hold hne ▸ hne)
  · have hzero : beginning = some .countedZero := hzero
    exact h.countedZero ((hold (by rw [hzero]; nofun)).symm.trans hzero)

theorem compareExchange (h : s.Inv) {i : Nat} (hontime : OnTime (.compareExchange i) s)
    (hstep : s.compareExchange i = some s') : s'.Inv := by
  obtain ⟨io, hget, rfl⟩ := Option.map_eq_some_iff.mp hstep
  exact (h.exchange (hontime io hget)).leave (exchange_life s io.connection) (.inr rfl) _

theorem beginDisconnect (h : s.Inv) (key : SessionKey) : (s.beginDisconnect key).Inv := by
  unfold SlotRun.beginDisconnect
  split
  next hactive =>
    have hlife := hactive.1
    refine ⟨h.counted, fun _ => .inr rfl, h.posted, h.completing,
      fun _ => .inl rfl, nofun, nofun, fun hinit => ?_, ?_⟩
    · cases hlife.symm.trans (h.initializing hinit)
    · have hlog := h.log
      rw [hlife] at hlog
      exact hlog.disconnectPending
  next => exact h

theorem beginStep (h : s.Inv) (hstep : s.beginStep = some s') : s'.Inv := by
  unfold SlotRun.beginStep at hstep
  split at hstep
  next => cases hstep
  next hmarked =>
    cases hstep
    split
    next hne =>
      exact ⟨h.counted, h.live, h.posted, h.completing, fun hb => absurd rfl hb, nofun,
        fun _ hzero _ => absurd hzero hne, h.initializing, h.log⟩
    next hzero =>
      have hlife := h.beginning (by rw [hmarked]; nofun)
      exact ⟨h.counted, h.live, h.posted, h.completing,
        fun _ => hlife, fun _ => Decidable.not_not.mp hzero, nofun, h.initializing, h.log⟩
  next hcounted =>
    cases hstep
    exact (h.exchange fun _ => ⟨h.countedZero hcounted, rfl⟩).leave
      (exchange_life s s.connection) (.inl rfl) (s.exchange s.connection).zeroed

theorem finalizeDisconnect (h : s.Inv) (hfree : s.beginning = none) (key : SessionKey) :
    (s.finalizeDisconnect key).Inv := by
  unfold SlotRun.finalizeDisconnect
  split
  next hdisconnecting =>
    have hlife := hdisconnecting.1
    have hout : s.outstanding = 0 := h.nothing_out (by rw [hlife]; nofun) (by rw [hlife]; nofun)
    obtain ⟨hposted, hcompleting⟩ := posted_eq_nil hout
    have hzero : s.slot.ioPendingCount = 0 := by
      have hcounted := h.counted
      omega
    refine ⟨h.counted, fun hne => absurd hout hne, ?_, ?_,
      fun hb => absurd hfree hb, fun _ => hzero, nofun, fun hinit => ?_, ?_⟩
    · show ∀ io ∈ s.posted, _
      rw [hposted]
      nofun
    · show ∀ c ∈ s.completing, _
      rw [hcompleting]
      nofun
    · cases hlife.symm.trans (h.initializing hinit)
    · show LogOk (s.log ++ [.freed s.slot.ioPendingCount]) s.connection .none
      rw [hzero]
      exact h.log.freed
  next => exact h

/-- A write of something else than the life of the session. -/
theorem withSlot (h : s.Inv) {slot : SessionSlot} (hsame : s.slot.SameLife slot) :
    (s.withSlot slot).Inv := by
  obtain ⟨hlife, hcount, hkey⟩ := hsame
  refine ⟨hcount.trans h.counted,
    fun hne => ?_, fun io hio => ?_, fun c hc => ?_, fun hne => ?_, fun hzero => ?_,
    fun hp hzero hfree => ?_, fun hinit => hlife.trans (h.initializing hinit), ?_⟩
  · show slot.lifeState = .active ∨ slot.lifeState = .disconnectPending
    rw [hlife]
    exact h.live hne
  · obtain ⟨hown, hconnection⟩ := h.posted io hio
    exact ⟨(hkey _).mpr hown, hconnection⟩
  · obtain ⟨hown, hconnection⟩ := h.completing c hc
    exact ⟨(hkey _).mpr hown, hconnection⟩
  · show slot.lifeState = .disconnectPending ∨ slot.lifeState = .disconnecting
    rw [hlife]
    exact h.beginning hne
  · exact hcount.trans (h.countedZero hzero)
  · exact h.handedOver (hlife.symm.trans hp) (hcount.symm.trans hzero) hfree
  · show LogOk s.log s.connection slot.lifeState
    rw [hlife]
    exact h.log

/-- **Every step keeps the books**, as long as no compare-exchange comes too late. -/
theorem step (h : s.Inv) {a : SlotAction} (hontime : OnTime a s)
    (hstep : SlotRun.step a s = some s') : s'.Inv := by
  cases a with
  | initSession sessionIndex sessionId =>
      cases hstep
      exact h.initSession sessionIndex sessionId
  | finishInit => exact h.finishInit hstep
  | sendPacket | recvPacket =>
      obtain ⟨hfree, rfl⟩ := locking_eq hstep
      exact h.post hfree
  | completeIo i => exact h.completeIo hstep
  | completeStep i =>
      obtain ⟨c, hget, hgo⟩ := Option.bind_eq_some_iff.mp hstep
      exact h.completeStep hget hgo
  | compareExchange i => exact h.compareExchange hontime hstep
  | beginDisconnect key =>
      obtain ⟨_, rfl⟩ := locking_eq hstep
      exact h.beginDisconnect key
  | beginStep => exact h.beginStep hstep
  | completeRoomRemoval key =>
      obtain ⟨_, rfl⟩ := locking_eq hstep
      exact h.withSlot (s.slot.completeRoomRemoval_sameLife key)
  | finalizeDisconnect key =>
      obtain ⟨hfree, rfl⟩ := locking_eq hstep
      exact h.finalizeDisconnect hfree key
  | applyLoginResult playerId =>
      obtain ⟨_, rfl⟩ := locking_eq hstep
      exact h.withSlot (s.slot.applyLoginResult_sameLife playerId)
  | trySetLobbyMode key =>
      obtain ⟨_, rfl⟩ := locking_eq hstep
      exact h.withSlot (s.slot.trySetLobbyMode_sameLife key)
  | trySetRoomMode key newRoomIndex =>
      obtain ⟨_, rfl⟩ := locking_eq hstep
      exact h.withSlot (s.slot.trySetRoomMode_sameLife key newRoomIndex)

/-- Two events stand in the log as they may follow each other. -/
theorem allows_of_sublist (h : s.Inv) {e e' : SlotEvent} (hsub : [e, e'].Sublist s.log) :
    e.Allows e' := by
  have hpair := h.log.order.sublist hsub
  rw [List.pairwise_pair] at hpair
  exact hpair

theorem protocol (h : s.Inv) : s.Protocol where
  counted := h.counted
  nonneg := by
    rw [h.counted]
    exact Int.natCast_nonneg _
  noLatePost n hsub := h.allows_of_sublist hsub rfl
  returnsOnce n k k' hsub := h.allows_of_sublist hsub rfl
  returnsAtZero n k hmem := h.log.ok _ hmem
  handedOver hidle hboth := h.handedOver hboth.1 hboth.2 hidle.2.1 hidle.2.2.2
  freedAtZero k hmem := h.log.ok _ hmem
  matched hmem := absurd (h.log.ok _ hmem) nofun

end Inv

theorem reachable_inv (h : systemOnTime.Reachable s) : s.Inv := by
  refine invariant (I := Inv) (fun s hs => ?_) (fun s s' hs hnext => ?_) h
  · rw [show s = start from hs]
    exact start_inv
  · obtain ⟨a, hontime, hstep⟩ := hnext
    exact hs.step hontime hstep

/--
**The disconnect protocol** in every run none of whose compare-exchanges comes too late.

The count is that of the IOs out; none is posted once the session is to be disconnected; one
call a connection is told to finish it, at count 0, and nobody forgets to; the slot is freed at
count 0, and every completion finds the session it was posted under.
-/
theorem slotRun_protocol (h : systemOnTime.Reachable s) : s.Protocol := (reachable_inv h).protocol

/-- The key of a connection. -/
def guestKey : SessionKey := ⟨0, -1, 7⟩

/-- A receive and a send are out when the session is to be disconnected; both complete. -/
def closedWithTwoOut : List SlotAction :=
  [.initSession 0 7, .finishInit, .recvPacket, .sendPacket, .beginDisconnect guestKey, .beginStep,
    .completeIo 0, .completeStep 0, .completeStep 0, .completeStep 0, .completeStep 0,
    .completeIo 0, .completeStep 0, .completeStep 0, .completeStep 0, .completeStep 0,
    .compareExchange 0, .finalizeDisconnect guestKey]

theorem slotRun_protocol_closed : ∃ s, systemOnTime.Reachable s ∧ s.slot.lifeState = .none ∧
    .returnedTrue 1 0 ∈ s.log ∧ s.Protocol := by
  have hrun :
      (System.follow (fun a s => decide (OnTime a s)) SlotRun.step closedWithTwoOut start).any
      (fun s => decide (s.slot.lifeState = .none ∧ .returnedTrue 1 0 ∈ s.log)) = true := by
    decide
  simp only [Option.any_eq_true, decide_eq_true_eq] at hrun
  obtain ⟨s, hs, hfreed, hreturned⟩ := hrun
  have hreachable : systemOnTime.Reachable s :=
    (show systemOnTime.Reachable start from .start rfl).follow (fun _ _ => of_decide_eq_true) hs
  exact ⟨s, hreachable, hfreed, hreturned, slotRun_protocol hreachable⟩

/--
The only receive has failed; between its decrement and its compare-exchange a packet is sent
and the session is told to disconnect.
-/
def sentInBetween : List SlotAction :=
  [.initSession 0 7, .finishInit, .recvPacket, .completeIo 0, .completeStep 0, .completeStep 0,
    .completeStep 0,
    .completeStep 0, .sendPacket, .beginDisconnect guestKey, .beginStep, .compareExchange 0]

/-- **`CompleteIO` returns `true` while a send is out.** -/
theorem disconnecting_with_io : ∃ s, system.Reachable s ∧ ¬ s.Protocol := by
  have hrun : (System.follow (fun _ _ => true) SlotRun.step sentInBetween start).any
      (fun s => decide (.returnedTrue 1 1 ∈ s.log)) = true := by
    decide
  simp only [Option.any_eq_true, decide_eq_true_eq] at hrun
  obtain ⟨s, hs, hreturned⟩ := hrun
  have hreachable : system.Reachable s :=
    (show system.Reachable start from .start rfl).follow (fun _ _ _ => trivial) hs
  exact ⟨s, hreachable, fun h => absurd (h.returnsAtZero 1 1 hreturned) (by decide)⟩

end SlotRun

end ProjectTetris

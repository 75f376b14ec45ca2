import ProjectTetris.Lib.Guard
import ProjectTetris.Threads.ActivePlayers

/-!
# What the login threads may rely on

The invariant of the active players: where the threads are in a phase, who has which flag, what
the tables say of each other, and what a thread may take for granted at the step it is about
to take.
-/

namespace ProjectTetris

open Guard Transition

/-! ## Where a thread is -/

namespace LoginThread

/-- The thread has yet to count itself in the lifecycle stage. -/
def InLifecycle : LoginThread → Prop
  | .lifecycle | .other .lobby _ | .finalize _ _ => True
  | _ => False

/-- The thread is in the session stage. -/
def InSessions : LoginThread → Prop
  | .sessions => True
  | .start owner _ | .checkMode owner _ | .checkLife owner _ | .process owner _ | .lock owner _ _
  | .complete owner _ => owner = .lobby
  | .addPlayer call _ => call.owner = .lobby
  | _ => False

/-- The thread has set the flag of the session at index `i`. -/
def Owns (i : Int) : LoginThread → Prop
  | .checkMode _ j | .checkLife _ j | .process _ j | .lock _ j _ | .complete _ j
  | .other _ j => j = i
  | .addPlayer call _ => call.index = i
  | .finalize key step =>
      match step with
      | .findSession | .getLifeState | .tryStart | .finalizeDisconnect _ => False
      | _ => key.sessionIndex = i
  | _ => False

/-- The thread holds the mutex of the active players. -/
def Locks : LoginThread → Prop
  | .addPlayer _ _ => True
  | _ => False

/-- The thread has seen the session at index `i` in a mode it processes tasks in. -/
def Holds (i : Int) : LoginThread → Prop
  | .checkLife _ j | .process _ j | .lock _ j _ => j = i
  | .addPlayer call _ => call.index = i
  | _ => False

/-- The session at index `i` has logged in, and the thread has yet to enter it. -/
def Enters (i : Int) : LoginThread → Prop
  | .addPlayer call .getSessionKey | .addPlayer call (.insert _) => call.index = i
  | _ => False

end LoginThread

/-! ## The invariant -/

namespace ActivePlayers

/-- A slot that is free holds nothing, and one that has yet to log in has no account. -/
structure SlotOk (s : ActivePlayers) (i : Int) : Prop where
  free : (s.sessions i).lifeState = .none ↔ (s.sessions i).sessionId = 0
  closed : (s.sessions i).sessionId = 0 → (s.sessions i).modeState = .none ∧
    (s.sessions i).playerId = -1
  login : (s.sessions i).modeState = .login → (s.sessions i).playerId = -1
  issued : (s.sessions i).sessionId ≠ 0 → (s.sessions i).sessionId ∈ s.issued

/-- Since `FinalizeDisconnect` has found the session of `key`: it is still there, or gone, or
another one has come that has yet to log in. -/
structure Found (s : ActivePlayers) (key : SessionKey) : Prop where
  known : key.sessionId ∈ s.issued
  slot : (s.sessions key.sessionIndex).sessionId = key.sessionId ∨
    (s.sessions key.sessionIndex).sessionId = 0 ∨
    (s.sessions key.sessionIndex).modeState = .login

/-- The same, since its life state was looked at. -/
structure Late (s : ActivePlayers) (key : SessionKey) : Prop where
  known : key.sessionId ∈ s.issued
  slot : ((s.sessions key.sessionIndex).sessionId = key.sessionId ∧
      (s.sessions key.sessionIndex).lifeState = .disconnecting) ∨
    (s.sessions key.sessionIndex).sessionId = 0 ∨ (s.sessions key.sessionIndex).modeState = .login

/-- What there is to the key it reads then, which may be that of the session which has come. -/
structure Current (s : ActivePlayers) (key current : SessionKey) : Prop extends Late s key where
  index : current.sessionIndex = key.sessionIndex
  issued : current.sessionId = 0 ∨ current.sessionId ∈ s.issued
  account : (s.sessions key.sessionIndex).sessionId ≠ 0 →
    (s.sessions key.sessionIndex).sessionId = current.sessionId →
      (s.sessions key.sessionIndex).playerId = current.playerId
  whose : current.sessionId = key.sessionId ∨
    (current.playerId = -1 ∧ (s.sessions key.sessionIndex).sessionId ≠ key.sessionId)

/-- The session with the key that was read is in no room. -/
def NotInRoom (s : ActivePlayers) (key current : SessionKey) : Prop :=
  (s.sessions key.sessionIndex).sessionId ≠ 0 →
    (s.sessions key.sessionIndex).sessionId = current.sessionId →
    (s.sessions key.sessionIndex).modeState ≠ .room

/-- The account that was read is that of the session with the key that was read, if it is still
there. -/
def ReadFrom (s : ActivePlayers) (key current : SessionKey) (playerId : Int) : Prop :=
  (s.sessions key.sessionIndex).sessionId ≠ 0 →
    (s.sessions key.sessionIndex).sessionId = current.sessionId →
    playerId = current.playerId

def FinalizeOk (s : ActivePlayers) (key : SessionKey) : RemovalStep → Prop
  | .findSession | .getLifeState | .tryStart | .matchesKey | .giveUp => True
  | .recheckLife => s.Found key
  | .getSessionKey => s.Late key
  | .getRoomSnapshot current => s.Current key current
  | .getDBInfo current => s.Current key current ∧ s.NotInRoom key current
  | .removePlayer current playerId =>
      s.Current key current ∧ s.NotInRoom key current ∧ s.ReadFrom key current playerId
  | .completeTasks current | .finalizeDisconnect current =>
      s.Current key current ∧ s.NotInRoom key current ∧ current ∈ s.removed

/-- The session is one that a loop may process. -/
def HoldsOk (s : ActivePlayers) (owner : LoopOwner) (i : Int) : Prop :=
  (s.sessions i).sessionId ≠ 0 ∧ (owner = .room → (s.sessions i).modeState ≠ .login)

/-- Nothing has changed since the call got the mutex. -/
def Unchanged (s : ActivePlayers) (call : AddPlayerCall) : Prop :=
  s.activePlayers = call.playersBefore ∧ s.sessionKey call.index = call.keyBefore

/-- The account is logged in, and not entered. -/
structure Entering (s : ActivePlayers) (call : AddPlayerCall) : Prop where
  owner : call.owner = .lobby
  playerId : (s.sessions call.index).playerId = call.playerId
  free : s.activePlayers call.playerId = none
  here : 0 ≤ call.playerId → s.sessionKey call.index ∉ s.removed

def AddOk (s : ActivePlayers) (call : AddPlayerCall) : AddPlayerStep → Prop
  | .find | .unlock false => s.Unchanged call
  | .applyLoginResult => s.Unchanged call ∧ s.activePlayers call.playerId = none
  | .getSessionKey => s.Entering call
  | .insert key => s.Entering call ∧ key = s.sessionKey call.index
  | .unlock true => True

def Facts (s : ActivePlayers) : LoginThread → Prop
  | .checkLife owner i | .process owner i | .lock owner i _ => s.HoldsOk owner i
  | .addPlayer call step => s.HoldsOk call.owner call.index ∧ s.AddOk call step
  | .finalize key step => s.FinalizeOk key step
  | _ => True

/-- Where the lobby's threads are in the phase. -/
structure StageOk (threadCount : Nat) (s : ActivePlayers) : Prop where
  counted : Barrier.Counted (Finset.range threadCount) s.arrived s.completedLifecycleThreadCount
  lifecycle : ∀ t, (s.threads t).InLifecycle → t < threadCount ∧ t ∉ s.arrived
  sessions : ∀ t, (s.threads t).InSessions → t < threadCount ∧ s.arrived = Finset.range threadCount
  waiting : ∀ t, s.threads t = .arrived → t < threadCount

/-- A thread at a time has a session's flag, and the mutex. -/
structure FlagsOk (s : ActivePlayers) : Prop where
  flags : ∀ i, Guarded (LoginThread.Owns i) (s.sessions i).isProcessingTasks s.threads
  mutex : Guarded LoginThread.Locks s.isLocked s.threads

/-- The active players and the sessions. -/
structure TablesOk (s : ActivePlayers) : Prop where
  slots : ∀ i, s.SlotOk i
  nonzero : 0 ∉ s.issued
  listed : ∀ id key, 0 ≤ id → s.activePlayers id = some key →
    key.playerId = id ∧ s.sessionKey key.sessionIndex = key ∧ key ∉ s.removed
  entered : ∀ i, 0 ≤ (s.sessions i).playerId →
    s.activePlayers (s.sessions i).playerId = some (s.sessionKey i) ∨ s.sessionKey i ∈ s.removed ∨
      ∃ t, (s.threads t).Enters i
  closing : ∀ i, 0 ≤ (s.sessions i).playerId → s.sessionKey i ∈ s.removed →
    (s.sessions i).lifeState = .disconnecting
  fresh : ∀ i, (s.sessions i).modeState = .login → ∀ key ∈ s.removed, key.sessionIndex = i →
    key.sessionId = (s.sessions i).sessionId → key.playerId = -1
  removed : ∀ key ∈ s.removed, key.sessionId = 0 ∨ key.sessionId ∈ s.issued

structure LoginOk (threadCount : Nat) (s : ActivePlayers) : Prop where
  stage : StageOk threadCount s
  flags : FlagsOk s
  tables : TablesOk s
  facts : ∀ t, s.Facts (s.threads t)
  /-- A session that a loop holds is not about to be emptied. -/
  apart : ∀ t t' i key current, (s.threads t).Holds i →
    s.threads t' = .finalize key (.finalizeDisconnect current) → key.sessionIndex = i →
      (s.sessions i).sessionId ≠ current.sessionId

/-! ### Steps that keep who is there -/

/-- What a step may do to a session without a change of its key. -/
structure Kept (a b : LoginSession) : Prop where
  sessionId : b.sessionId = a.sessionId
  playerId : b.playerId = a.playerId
  free : b.lifeState = .none ↔ a.lifeState = .none
  disconnecting : a.lifeState = .disconnecting → b.lifeState = .disconnecting
  login : b.modeState = .login ↔ a.modeState = .login
  room : b.modeState = .room → a.modeState = .room ∨ (a.lifeState = .active ∧ a.modeState = .lobby)
  closed : a.modeState = .none → b.modeState = .none

theorem Kept.refl (a : LoginSession) : Kept a a :=
  ⟨rfl, rfl, Iff.rfl, id, Iff.rfl, .inl, id⟩

/-- A step that keeps who is there, in the slots and in the tables. -/
structure SameTables (s s' : ActivePlayers) : Prop where
  slots : ∀ i, Kept (s.sessions i) (s'.sessions i)
  players : s'.activePlayers = s.activePlayers
  issued : s'.issued = s.issued
  removed : s'.removed = s.removed

variable {s s' : ActivePlayers} {threadCount t : Nat} {thread : LoginThread}

theorem SameTables.sessionKey (h : SameTables s s') (i : Int) :
    s'.sessionKey i = s.sessionKey i := by
  unfold ActivePlayers.sessionKey
  rw [(h.slots i).sessionId, (h.slots i).playerId]

theorem sameTables_setThread (thread : LoginThread) : SameTables s (s.setThread t thread) :=
  ⟨fun _ => .refl _, rfl, rfl, rfl⟩

theorem sessions_setSession_self (i : Int) (session : LoginSession) :
    (s.setSession i session).sessions i = session := Function.update_self ..

theorem sessions_setSession_of_ne {i j : Int} (hj : j ≠ i) (session : LoginSession) :
    (s.setSession i session).sessions j = s.sessions j := Function.update_of_ne hj ..

theorem sameTables_setSession {i : Int} {session : LoginSession}
    (h : Kept (s.sessions i) session) :
    SameTables s (s.setSession i session) := by
  refine ⟨fun j => ?_, rfl, rfl, rfl⟩
  by_cases hj : j = i
  · subst hj
    rw [sessions_setSession_self]
    exact h
  · rw [sessions_setSession_of_ne hj]
    exact .refl _

theorem SameTables.setThread (h : SameTables s s') (t : Nat) (thread : LoginThread) :
    SameTables s (s'.setThread t thread) := ⟨h.slots, h.players, h.issued, h.removed⟩

theorem sameTables_setFlag (i : Int) (isProcessingTasks : Bool) :
    SameTables s (s.setFlag i isProcessingTasks) :=
  sameTables_setSession ⟨rfl, rfl, Iff.rfl, id, Iff.rfl, .inl, id⟩

theorem Found.kept {key : SessionKey} (h : s.Found key) (hsame : SameTables s s') :
    s'.Found key := by
  refine ⟨hsame.issued ▸ h.known, ?_⟩
  rw [(hsame.slots _).sessionId, (hsame.slots _).login]
  exact h.slot

theorem Late.kept {key : SessionKey} (h : s.Late key) (hsame : SameTables s s') : s'.Late key := by
  refine ⟨hsame.issued ▸ h.known, ?_⟩
  rw [(hsame.slots _).sessionId, (hsame.slots _).login]
  exact h.slot.imp_left fun hslot => ⟨hslot.1, (hsame.slots _).disconnecting hslot.2⟩

theorem Current.kept {key current : SessionKey} (h : s.Current key current)
    (hsame : SameTables s s') :
    s'.Current key current := by
  refine ⟨h.toLate.kept hsame, h.index, hsame.issued ▸ h.issued, ?_, ?_⟩
  · rw [(hsame.slots _).sessionId, (hsame.slots _).playerId]
    exact h.account
  · rw [(hsame.slots _).sessionId]
    exact h.whose

/-- Into a room goes only a session that is active and has logged in. -/
theorem NotInRoom.kept {key current : SessionKey} (h : s.NotInRoom key current)
    (hlate : s.Late key) (hsame : SameTables s s') : s'.NotInRoom key current := by
  intro hid hcurrent hroom
  rw [(hsame.slots _).sessionId] at hid hcurrent
  rcases (hsame.slots _).room hroom with hroom | ⟨hactive, hlobby⟩
  · exact h hid hcurrent hroom
  · rcases hlate.slot with ⟨_, hlife⟩ | hfree | hlogin
    · rw [hactive] at hlife
      cases hlife
    · exact hid hfree
    · rw [hlobby] at hlogin
      cases hlogin

theorem ReadFrom.kept {key current : SessionKey} {playerId : Int}
    (h : s.ReadFrom key current playerId) (hsame : SameTables s s') :
    s'.ReadFrom key current playerId := by
  unfold ReadFrom
  rw [(hsame.slots _).sessionId]
  exact h

theorem FinalizeOk.kept {key : SessionKey} {step : RemovalStep} (h : s.FinalizeOk key step)
    (hsame : SameTables s s') : s'.FinalizeOk key step := by
  cases step with
  | findSession | getLifeState | tryStart | matchesKey | giveUp => trivial
  | recheckLife => exact Found.kept h hsame
  | getSessionKey => exact Late.kept h hsame
  | getRoomSnapshot => exact Current.kept h hsame
  | getDBInfo => exact ⟨h.1.kept hsame, h.2.kept h.1.toLate hsame⟩
  | removePlayer => exact ⟨h.1.kept hsame, h.2.1.kept h.1.toLate hsame, h.2.2.kept hsame⟩
  | completeTasks | finalizeDisconnect =>
      exact ⟨h.1.kept hsame, h.2.1.kept h.1.toLate hsame, hsame.removed ▸ h.2.2⟩

theorem HoldsOk.kept {owner : LoopOwner} {i : Int} (h : s.HoldsOk owner i)
    (hsame : SameTables s s') :
    s'.HoldsOk owner i := by
  unfold HoldsOk
  rw [(hsame.slots _).sessionId]
  exact ⟨h.1, fun howner hlogin => h.2 howner ((hsame.slots _).login.1 hlogin)⟩

theorem AddOk.kept {call : AddPlayerCall} {step : AddPlayerStep} (h : s.AddOk call step)
    (hsame : SameTables s s') : s'.AddOk call step := by
  have hunchanged : s.Unchanged call → s'.Unchanged call := by
    intro h
    unfold Unchanged
    rw [hsame.players, hsame.sessionKey]
    exact h
  have hentering : s.Entering call → s'.Entering call := by
    intro h
    refine ⟨h.owner, ?_, hsame.players ▸ h.free, ?_⟩
    · rw [(hsame.slots _).playerId]
      exact h.playerId
    · rw [hsame.sessionKey, hsame.removed]
      exact h.here
  cases step with
  | find => exact hunchanged h
  | applyLoginResult => exact ⟨hunchanged h.1, hsame.players ▸ h.2⟩
  | getSessionKey => exact hentering h
  | insert key => exact ⟨hentering h.1, by rw [hsame.sessionKey]; exact h.2⟩
  | unlock result =>
      cases result with
      | false => exact hunchanged h
      | true => trivial

theorem Facts.kept (h : s.Facts thread) (hsame : SameTables s s') : s'.Facts thread := by
  cases thread with
  | checkLife | process | lock => exact HoldsOk.kept h hsame
  | addPlayer call step => exact ⟨h.1.kept hsame, h.2.kept hsame⟩
  | finalize key step => exact FinalizeOk.kept h hsame
  | available | lifecycle | arrived | sessions | stopped | idle | start | checkMode | complete
  | other => trivial

theorem SlotOk.kept {i : Int} (h : s.SlotOk i) (hsame : SameTables s s') : s'.SlotOk i := by
  have hk := hsame.slots i
  refine ⟨?_, fun hid => ?_, fun hlogin => ?_, fun hid => ?_⟩
  · rw [hk.free, hk.sessionId]
    exact h.free
  · rw [hk.sessionId] at hid
    obtain ⟨hmode, hplayer⟩ := h.closed hid
    exact ⟨hk.closed hmode, hk.playerId.trans hplayer⟩
  · rw [hk.playerId]
    exact h.login (hk.login.1 hlogin)
  · rw [hk.sessionId] at hid ⊢
    rw [hsame.issued]
    exact h.issued hid

theorem TablesOk.kept (h : TablesOk s) (hsame : SameTables s s')
    (henters : ∀ i, (∃ t, (s.threads t).Enters i) → ∃ t, (s'.threads t).Enters i) :
    TablesOk s' := by
  refine ⟨fun i => (h.slots i).kept hsame, hsame.issued ▸ h.nonzero, ?_, ?_, ?_, ?_, ?_⟩
  · intro id key hid hkey
    rw [hsame.players] at hkey
    rw [hsame.sessionKey, hsame.removed]
    exact h.listed id key hid hkey
  · intro i hi
    rw [(hsame.slots i).playerId] at hi ⊢
    rw [hsame.players, hsame.sessionKey, hsame.removed]
    exact (h.entered i hi).imp id (Or.imp id (henters i))
  · intro i hi hremoved
    rw [(hsame.slots i).playerId] at hi
    rw [hsame.sessionKey, hsame.removed] at hremoved
    exact (hsame.slots i).disconnecting (h.closing i hi hremoved)
  · intro i hlogin
    rw [(hsame.slots i).sessionId, hsame.removed]
    exact h.fresh i ((hsame.slots i).login.1 hlogin)
  · rw [hsame.removed, hsame.issued]
    exact h.removed

/-! ### A thread goes on -/

theorem threads_setThread_self (thread : LoginThread) :
    (s.setThread t thread).threads t = thread :=
  Function.update_self ..

theorem threads_setThread_of_ne {t' : Nat} (ht : t' ≠ t) (thread : LoginThread) :
    (s.setThread t thread).threads t' = s.threads t' := Function.update_of_ne ht ..

/-- A thread goes on where it has no more than before: no stage to reach, no mutex and no session
taken. -/
structure Passes (a b : LoginThread) : Prop where
  lifecycle : b.InLifecycle → a.InLifecycle
  sessions : b.InSessions → a.InSessions
  waiting : b ≠ .arrived
  locks : b.Locks → a.Locks
  holds : ∀ i, b.Holds i → a.Holds i
  finalizing : ∀ key current, b ≠ .finalize key (.finalizeDisconnect current)
  enters : ∀ i, a.Enters i → b.Enters i

/-- Nor a flag. -/
structure Goes (a b : LoginThread) : Prop extends Passes a b where
  owns : ∀ i, b.Owns i → a.Owns i

theorem StageOk.goOn {b : LoginThread} (h : StageOk threadCount s)
    (hcount : s'.completedLifecycleThreadCount = s.completedLifecycleThreadCount)
    (harrived : s'.arrived = s.arrived) (hthreads : s'.threads = Function.update s.threads t b)
    (hlifecycle : b.InLifecycle → (s.threads t).InLifecycle)
    (hsessions : b.InSessions → (s.threads t).InSessions) (hwaiting : b ≠ .arrived) :
    StageOk threadCount s' := by
  refine ⟨by rw [harrived, hcount]; exact h.counted,
    fun t' ht' => ?_, fun t' ht' => ?_, fun t' ht' => ?_⟩
  all_goals
    rw [hthreads] at ht'
    by_cases ht : t' = t
  · subst ht
    rw [Function.update_self] at ht'
    rw [harrived]
    exact h.lifecycle _ (hlifecycle ht')
  · rw [Function.update_of_ne ht] at ht'
    rw [harrived]
    exact h.lifecycle _ ht'
  · subst ht
    rw [Function.update_self] at ht'
    rw [harrived]
    exact h.sessions _ (hsessions ht')
  · rw [Function.update_of_ne ht] at ht'
    rw [harrived]
    exact h.sessions _ ht'
  · subst ht
    rw [Function.update_self] at ht'
    exact absurd ht' hwaiting
  · rw [Function.update_of_ne ht] at ht'
    exact h.waiting _ ht'

/-- Nobody finalizes a session while some thread is in the session stage. -/
theorem StageOk.not_lifecycle (h : StageOk threadCount s) (ht : (s.threads t).InSessions)
    (t' : Nat) :
    ¬ (s.threads t').InLifecycle := by
  intro hlifecycle
  obtain ⟨hlt, hnot⟩ := h.lifecycle t' hlifecycle
  rw [(h.sessions t ht).2] at hnot
  exact hnot (Finset.mem_range.2 hlt)

theorem enters_update (hthreads : s'.threads = Function.update s.threads t thread)
    (henters : ∀ i, (s.threads t).Enters i → thread.Enters i) (i : Int) :
    (∃ t', (s.threads t').Enters i) → ∃ t', (s'.threads t').Enters i := by
  rintro ⟨t', ht'⟩
  refine ⟨t', ?_⟩
  rw [hthreads]
  by_cases ht : t' = t
  · subst ht
    rw [Function.update_self]
    exact henters i ht'
  · rw [Function.update_of_ne ht]
    exact ht'

/-- A thread goes on, and leaves who is there as it is. -/
theorem LoginOk.moved {b : LoginThread} (h : LoginOk threadCount s) (hsame : SameTables s s')
    (hthreads : s'.threads = Function.update s.threads t b) (hstage : StageOk threadCount s')
    (hflags : FlagsOk s') (hfacts : s.Facts b)
    (henters : ∀ i, (s.threads t).Enters i → b.Enters i)
    (hholds : ∀ i t' key current, b.Holds i →
      s.threads t' = .finalize key (.finalizeDisconnect current) →
      key.sessionIndex = i → (s.sessions i).sessionId ≠ current.sessionId)
    (hfinalizing : ∀ i t' key current, t' ≠ t → (s.threads t').Holds i →
      b = .finalize key (.finalizeDisconnect current) → key.sessionIndex = i →
        (s.sessions i).sessionId ≠ current.sessionId) : LoginOk threadCount s' := by
  refine ⟨hstage, hflags, h.tables.kept hsame (enters_update hthreads henters), fun t' => ?_, ?_⟩
  · rw [hthreads]
    by_cases ht : t' = t
    · subst ht
      rw [Function.update_self]
      exact hfacts.kept hsame
    · rw [Function.update_of_ne ht]
      exact (h.facts t').kept hsame
  · intro t₁ t₂ i key current h₁ h₂ hindex
    rw [(hsame.slots i).sessionId]
    rw [hthreads] at h₁ h₂
    by_cases ht₁ : t₁ = t
    · subst ht₁
      rw [Function.update_self] at h₁
      by_cases ht₂ : t₂ = t₁
      · subst ht₂
        rw [Function.update_self] at h₂
        rw [h₂] at h₁
        exact absurd h₁ id
      · rw [Function.update_of_ne ht₂] at h₂
        exact hholds i t₂ key current h₁ h₂ hindex
    · rw [Function.update_of_ne ht₁] at h₁
      by_cases ht₂ : t₂ = t
      · subst ht₂
        rw [Function.update_self] at h₂
        exact hfinalizing i t₁ key current ht₁ h₁ h₂ hindex
      · rw [Function.update_of_ne ht₂] at h₂
        exact h.apart t₁ t₂ i key current h₁ h₂ hindex

theorem FlagsOk.goOn (h : FlagsOk s) (howns : ∀ i, thread.Owns i → (s.threads t).Owns i)
    (hlocks : thread.Locks → (s.threads t).Locks) : FlagsOk (s.setThread t thread) :=
  ⟨fun i => (h.flags i).goOn (howns i), h.mutex.goOn hlocks⟩

theorem LoginOk.goOn (h : LoginOk threadCount s) (hgoes : Goes (s.threads t) thread)
    (hfacts : s.Facts thread) :
    LoginOk threadCount (s.setThread t thread) :=
  h.moved (sameTables_setThread thread) rfl
    (h.stage.goOn rfl rfl rfl hgoes.lifecycle hgoes.sessions hgoes.waiting)
    (h.flags.goOn hgoes.owns hgoes.locks) hfacts hgoes.enters
    (fun i t' key current hholds hfinal hindex =>
      h.apart t t' i key current (hgoes.holds i hholds) hfinal hindex)
    (fun _ _ key current _ _ hfinal _ => absurd hfinal (hgoes.finalizing key current))

theorem sessions_setFlag_flag (i j : Int) (flag : Bool) :
    ((s.setFlag i flag).sessions j).isProcessingTasks =
    if j = i then flag else (s.sessions j).isProcessingTasks := by
  by_cases hj : j = i
  · subst hj
    rw [setFlag, sessions_setSession_self, if_pos rfl]
  · rw [setFlag, sessions_setSession_of_ne hj, if_neg hj]

/-- The thread takes the session's flag. -/
theorem FlagsOk.enter (h : FlagsOk s) {i : Int} (hfree : (s.sessions i).isProcessingTasks = false)
    (howns : ∀ j, thread.Owns j → j = i) (hlocks : ¬ thread.Locks) :
    FlagsOk ((s.setFlag i true).setThread t thread) := by
  refine ⟨fun j => ?_, h.mutex.goOn fun hl => absurd hl hlocks⟩
  change Guarded _ ((s.setFlag i true).sessions j).isProcessingTasks
    (Function.update s.threads t thread)
  rw [sessions_setFlag_flag]
  by_cases hj : j = i
  · subst hj
    rw [if_pos rfl]
    exact (hfree ▸ h.flags j).enter
  · rw [if_neg hj]
    exact (h.flags j).goOn fun ho => absurd (howns j ho) hj

/-- The thread gives the flag back. -/
theorem FlagsOk.leave (h : FlagsOk s) {i : Int} (howns : (s.threads t).Owns i)
    (hout : ∀ j, ¬ thread.Owns j) (hlocks : ¬ thread.Locks) :
    FlagsOk ((s.setFlag i false).setThread t thread) := by
  refine ⟨fun j => ?_, h.mutex.goOn fun hl => absurd hl hlocks⟩
  change Guarded _ ((s.setFlag i false).sessions j).isProcessingTasks
    (Function.update s.threads t thread)
  rw [sessions_setFlag_flag]
  by_cases hj : j = i
  · subst hj
    rw [if_pos rfl]
    exact (h.flags j).leave howns (hout j)
  · rw [if_neg hj]
    exact (h.flags j).goOn fun ho => absurd ho (hout j)

/-- A change of one session's life or mode, by whoever. -/
theorem LoginOk.kept (h : LoginOk threadCount s) {i : Int} {session : LoginSession}
    (hkept : Kept (s.sessions i) session)
    (hflag : session.isProcessingTasks = (s.sessions i).isProcessingTasks) :
    LoginOk threadCount (s.setSession i session) := by
  have hsame := sameTables_setSession (s := s) hkept
  refine ⟨⟨h.stage.counted, h.stage.lifecycle, h.stage.sessions, h.stage.waiting⟩,
    ⟨fun j => ?_, h.flags.mutex⟩,
    h.tables.kept hsame fun _ => id, fun t => (h.facts t).kept hsame, ?_⟩
  · have hj : ((s.setSession i session).sessions j).isProcessingTasks =
        (s.sessions j).isProcessingTasks := by
      by_cases hj : j = i
      · subst hj
        rw [sessions_setSession_self, hflag]
      · rw [sessions_setSession_of_ne hj]
    rw [hj]
    exact h.flags.flags j
  · intro t₁ t₂ j key current h₁ h₂ hindex
    rw [(hsame.slots j).sessionId]
    exact h.apart t₁ t₂ j key current h₁ h₂ hindex

/-- The same, for a thread at a known place. -/
theorem LoginOk.goFrom (h : LoginOk threadCount s) {a : LoginThread} (ha : s.threads t = a)
    (hgoes : Goes a thread) (hfacts : s.Facts thread) :
    LoginOk threadCount (s.setThread t thread) :=
  h.goOn (ha ▸ hgoes) hfacts

/-- A thread takes or gives back a flag. -/
theorem LoginOk.withFlag (h : LoginOk threadCount s) {i : Int} {flag : Bool}
    (hpasses : Passes (s.threads t) thread)
    (hflags : FlagsOk ((s.setFlag i flag).setThread t thread)) (hfacts : s.Facts thread) :
    LoginOk threadCount ((s.setFlag i flag).setThread t thread) :=
  h.moved ((sameTables_setFlag i flag).setThread t thread) rfl
    (h.stage.goOn rfl rfl rfl hpasses.lifecycle hpasses.sessions hpasses.waiting) hflags hfacts
    hpasses.enters
    (fun i t' key current hholds hfinal hindex =>
      h.apart t t' i key current (hpasses.holds i hholds) hfinal hindex)
    (fun _ _ key current _ _ hfinal _ => absurd hfinal (hpasses.finalizing key current))

theorem LoginOk.take (h : LoginOk threadCount s) {i : Int} {a : LoginThread} (ha : s.threads t = a)
    (hfree : (s.sessions i).isProcessingTasks = false) (hpasses : Passes a thread)
    (howns : ∀ j, thread.Owns j → j = i) (hlocks : ¬ thread.Locks) (hfacts : s.Facts thread) :
    LoginOk threadCount ((s.setFlag i true).setThread t thread) :=
  h.withFlag (ha ▸ hpasses) (h.flags.enter hfree howns hlocks) hfacts

theorem LoginOk.giveBack (h : LoginOk threadCount s) {i : Int} {a : LoginThread}
    (ha : s.threads t = a) (howns : a.Owns i) (hpasses : Passes a thread)
    (hout : ∀ j, ¬ thread.Owns j) (hlocks : ¬ thread.Locks) (hfacts : s.Facts thread) :
    LoginOk threadCount ((s.setFlag i false).setThread t thread) :=
  h.withFlag (ha ▸ hpasses) (h.flags.leave (ha ▸ howns) hout hlocks) hfacts

theorem facts_at (h : LoginOk threadCount s) {a : LoginThread} (ha : s.threads t = a) :
    s.Facts a :=
  ha ▸ h.facts t

end ActivePlayers

end ProjectTetris

import ProjectTetris.Threads.LoginInvariant

/-!
# Every step keeps the players and the sessions together

Steps that change what a session is or who is entered, one by one, and then the rest, in which
a thread only goes on.
-/

namespace ProjectTetris

open Guard Transition

namespace ActivePlayers

variable {s s' : ActivePlayers} {threadCount t : Nat} {thread : LoginThread}

/-! ### The phases of the lobby -/

theorem LoginOk.startLobbyPhase (h : LoginOk threadCount s)
    (hfree : ∀ t < threadCount, s.threads t = .available) :
    LoginOk threadCount { s with
      completedLifecycleThreadCount := 0
      arrived := ∅
      threads := fun t => if t < threadCount then .lifecycle else s.threads t } := by
  have hold : ∀ {P : LoginThread → Prop}, ¬ P .lifecycle → ∀ t,
      P (if t < threadCount then .lifecycle else s.threads t) → P (s.threads t) := by
    intro P hno t ht
    split at ht
    · exact absurd ht hno
    · exact ht
  refine ⟨⟨Barrier.counted_none _, fun t ht => ?_, fun t ht => ?_, fun t ht => ?_⟩,
    ⟨fun i => ?_, ?_⟩, ?_, fun t => ?_, ?_⟩
  · refine ⟨?_, Finset.notMem_empty t⟩
    by_cases hlt : t < threadCount
    · exact hlt
    · simp only [hlt, if_false] at ht
      exact (h.stage.lifecycle t ht).1
  · have hthere : (s.threads t).InSessions := hold (P := LoginThread.InSessions) id t ht
    have hlt := (h.stage.sessions t hthere).1
    rw [hfree t hlt] at hthere
    exact absurd hthere id
  · exact h.stage.waiting t (hold (P := fun thread => thread = .arrived) nofun t ht)
  · exact (h.flags.flags i).shrink (hold (P := LoginThread.Owns i) id)
  · exact h.flags.mutex.shrink (hold (P := LoginThread.Locks) id)
  · refine h.tables.kept ⟨fun i => .refl _, rfl, rfl, rfl⟩ fun i => ?_
    rintro ⟨t, ht⟩
    refine ⟨t, ?_⟩
    by_cases hlt : t < threadCount
    · rw [hfree t hlt] at ht
      exact absurd ht id
    · simp only [hlt, if_false]
      exact ht
  · refine Facts.kept (s := s) ?_ ⟨fun i => .refl _, rfl, rfl, rfl⟩
    show s.Facts (if t < threadCount then .lifecycle else s.threads t)
    split
    · trivial
    · exact h.facts t
  · intro t t' i key current hholds hfinal
    exact h.apart t t' i key current (hold (P := LoginThread.Holds i) id t hholds)
      (hold (P := fun thread => thread = .finalize key (.finalizeDisconnect current))
        nofun t' hfinal)

theorem LoginOk.arrive (h : LoginOk threadCount s) (ht : s.threads t = .lifecycle) :
    LoginOk threadCount ({ s with
      completedLifecycleThreadCount := s.completedLifecycleThreadCount + 1
      arrived := Insert.insert t s.arrived }.setThread t .arrived) := by
  obtain ⟨hlt, hnew⟩ := h.stage.lifecycle t (by rw [ht]; trivial)
  refine h.moved (b := .arrived) ⟨fun i => .refl _, rfl, rfl, rfl⟩ rfl ?_
    ⟨fun i => (h.flags.flags i).goOn nofun, h.flags.mutex.goOn nofun⟩ trivial
    (fun i => by rw [ht]; exact nofun)
    (fun _ _ _ _ hholds => absurd hholds id) (fun _ _ _ _ _ _ hfinal => by cases hfinal)
  refine ⟨h.stage.counted.arrive (Finset.mem_range.2 hlt) hnew,
    fun t' ht' => ?_, fun t' ht' => ?_, fun t' ht' => ?_⟩
  · by_cases heq : t' = t
    · subst heq
      rw [threads_setThread_self] at ht'
      exact absurd ht' id
    · rw [threads_setThread_of_ne heq] at ht'
      obtain ⟨hlt', hnew'⟩ := h.stage.lifecycle t' ht'
      refine ⟨hlt', fun hmem => ?_⟩
      rcases Finset.mem_insert.1 hmem with hsame | hold
      · exact heq hsame
      · exact hnew' hold
  · by_cases heq : t' = t
    · subst heq
      rw [threads_setThread_self] at ht'
      exact absurd ht' id
    · rw [threads_setThread_of_ne heq] at ht'
      have hall := (h.stage.sessions t' ht').2
      rw [hall] at hnew
      exact absurd (Finset.mem_range.2 hlt) hnew
  · by_cases heq : t' = t
    · rw [heq]
      exact hlt
    · rw [threads_setThread_of_ne heq] at ht'
      exact h.stage.waiting t' ht'

theorem LoginOk.pass (h : LoginOk threadCount s) (ht : s.threads t = .arrived)
    (hall : threadCount ≤ s.completedLifecycleThreadCount) :
    LoginOk threadCount (s.setThread t .sessions) := by
  have hlt := h.stage.waiting t ht
  have harrived : s.arrived = Finset.range threadCount := by
    refine Finset.eq_of_subset_of_card_le h.stage.counted.subset ?_
    rw [Finset.card_range, ← h.stage.counted.card]
    exact hall
  refine h.moved (sameTables_setThread _) rfl ?_ (h.flags.goOn nofun nofun) trivial
    (fun i => by rw [ht]; exact nofun) (fun _ _ _ _ hholds => absurd hholds id)
    (fun _ _ _ _ _ _ hfinal => by cases hfinal)
  refine ⟨h.stage.counted, fun t' ht' => ?_, fun t' ht' => ?_, fun t' ht' => ?_⟩
  all_goals
    by_cases heq : t' = t
  · subst heq
    rw [threads_setThread_self] at ht'
    exact absurd ht' id
  · rw [threads_setThread_of_ne heq] at ht'
    exact h.stage.lifecycle t' ht'
  · rw [heq]
    exact ⟨hlt, harrived⟩
  · rw [threads_setThread_of_ne heq] at ht'
    exact h.stage.sessions t' ht'
  · rw [heq]
    exact hlt
  · rw [threads_setThread_of_ne heq] at ht'
    exact h.stage.waiting t' ht'

/-! ### Connections -/

/-- The slot at index `i` is emptied, or taken by a session that has yet to log in. -/
structure ChangesHands (s s' : ActivePlayers) (i : Int) : Prop where
  others : ∀ j, j ≠ i → s'.sessions j = s.sessions j
  players : s'.activePlayers = s.activePlayers
  removed : s'.removed = s.removed
  issued : ∀ id ∈ s.issued, id ∈ s'.issued
  slot : (s'.sessions i).sessionId = 0 ∨ (s'.sessions i).modeState = .login
  fresh : (s'.sessions i).sessionId ≠ 0 → (s'.sessions i).sessionId ∉ s.issued

section ChangeHands

variable {i : Int} {key current : SessionKey}

theorem ChangesHands.sessionKey (h : ChangesHands s s' i) {j : Int} (hj : j ≠ i) :
    s'.sessionKey j = s.sessionKey j := by
  unfold ActivePlayers.sessionKey
  rw [h.others j hj]

theorem Found.changeHands (h : s.Found key) (hhands : ChangesHands s s' i) : s'.Found key := by
  refine ⟨hhands.issued _ h.known, ?_⟩
  by_cases hi : key.sessionIndex = i
  · rw [hi]
    exact .inr hhands.slot
  · rw [hhands.others _ hi]
    exact h.slot

theorem Late.changeHands (h : s.Late key) (hhands : ChangesHands s s' i) : s'.Late key := by
  refine ⟨hhands.issued _ h.known, ?_⟩
  by_cases hi : key.sessionIndex = i
  · rw [hi]
    exact .inr hhands.slot
  · rw [hhands.others _ hi]
    exact h.slot

/-- The key that was read is not that of the session which has come. -/
theorem Current.unread (h : s.Current key current) (hhands : ChangesHands s s' i)
    (hi : key.sessionIndex = i) (hid : (s'.sessions key.sessionIndex).sessionId ≠ 0) :
    (s'.sessions key.sessionIndex).sessionId ≠ current.sessionId := by
  rw [hi] at hid ⊢
  intro hsame
  rcases h.issued with hc | hc
  · exact hid (hsame.trans hc)
  · exact hhands.fresh hid (hsame ▸ hc)

theorem Current.changeHands (h : s.Current key current) (hhands : ChangesHands s s' i)
    (hnonzero : 0 ∉ s.issued) :
    s'.Current key current := by
  refine ⟨h.toLate.changeHands hhands, h.index, h.issued.imp id (hhands.issued _),
    fun hid hsame => ?_, h.whose.imp id fun hw => ⟨hw.1, fun hsame => ?_⟩⟩
  · by_cases hi : key.sessionIndex = i
    · exact absurd hsame (h.unread hhands hi hid)
    · rw [hhands.others _ hi] at hid hsame ⊢
      exact h.account hid hsame
  · by_cases hi : key.sessionIndex = i
    · rw [hi] at hsame
      by_cases hzero : (s'.sessions i).sessionId = 0
      · exact hnonzero (hzero.symm.trans hsame ▸ h.known)
      · exact hhands.fresh hzero (hsame ▸ h.known)
    · rw [hhands.others _ hi] at hsame
      exact hw.2 hsame

theorem NotInRoom.changeHands (h : s.NotInRoom key current) (hcurrent : s.Current key current)
    (hhands : ChangesHands s s' i) : s'.NotInRoom key current := by
  intro hid hsame
  by_cases hi : key.sessionIndex = i
  · exact absurd hsame (hcurrent.unread hhands hi hid)
  · rw [hhands.others _ hi] at hid hsame ⊢
    exact h hid hsame

theorem ReadFrom.changeHands {playerId : Int} (h : s.ReadFrom key current playerId)
    (hcurrent : s.Current key current) (hhands : ChangesHands s s' i) :
    s'.ReadFrom key current playerId := by
  intro hid hsame
  by_cases hi : key.sessionIndex = i
  · exact absurd hsame (hcurrent.unread hhands hi hid)
  · rw [hhands.others _ hi] at hid hsame
    exact h hid hsame

theorem FinalizeOk.changeHands {step : RemovalStep} (h : s.FinalizeOk key step)
    (hhands : ChangesHands s s' i) (hnonzero : 0 ∉ s.issued) : s'.FinalizeOk key step := by
  cases step with
  | findSession | getLifeState | tryStart | matchesKey | giveUp => trivial
  | recheckLife => exact Found.changeHands h hhands
  | getSessionKey => exact Late.changeHands h hhands
  | getRoomSnapshot => exact Current.changeHands h hhands hnonzero
  | getDBInfo => exact ⟨h.1.changeHands hhands hnonzero, h.2.changeHands h.1 hhands⟩
  | removePlayer =>
      exact ⟨h.1.changeHands hhands hnonzero, h.2.1.changeHands h.1 hhands,
        h.2.2.changeHands h.1 hhands⟩
  | completeTasks | finalizeDisconnect =>
      exact ⟨h.1.changeHands hhands hnonzero, h.2.1.changeHands h.1 hhands, hhands.removed ▸ h.2.2⟩

theorem HoldsOk.changeHands {owner : LoopOwner} {j : Int} (h : s.HoldsOk owner j)
    (hhands : ChangesHands s s' i) (hj : j ≠ i) : s'.HoldsOk owner j := by
  unfold HoldsOk
  rw [hhands.others j hj]
  exact h

theorem AddOk.changeHands {call : AddPlayerCall} {step : AddPlayerStep} (h : s.AddOk call step)
    (hhands : ChangesHands s s' i) (hj : call.index ≠ i) : s'.AddOk call step := by
  have hunchanged : s.Unchanged call → s'.Unchanged call := by
    intro h
    unfold Unchanged
    rw [hhands.players, hhands.sessionKey hj]
    exact h
  have hentering : s.Entering call → s'.Entering call := by
    intro h
    refine ⟨h.owner, ?_, hhands.players ▸ h.free, ?_⟩
    · rw [hhands.others _ hj]
      exact h.playerId
    · rw [hhands.sessionKey hj, hhands.removed]
      exact h.here
  cases step with
  | find => exact hunchanged h
  | applyLoginResult => exact ⟨hunchanged h.1, hhands.players ▸ h.2⟩
  | getSessionKey => exact hentering h
  | insert key => exact ⟨hentering h.1, by rw [hhands.sessionKey hj]; exact h.2⟩
  | unlock result =>
      cases result with
      | false => exact hunchanged h
      | true => trivial

/-- Nobody who holds another session notices. -/
theorem Facts.changeHands (h : s.Facts thread) (hhands : ChangesHands s s' i)
    (hnonzero : 0 ∉ s.issued) (hunheld : ¬ thread.Holds i) : s'.Facts thread := by
  cases thread with
  | checkLife | process | lock => exact HoldsOk.changeHands h hhands hunheld
  | addPlayer call step => exact ⟨h.1.changeHands hhands hunheld, h.2.changeHands hhands hunheld⟩
  | finalize key step => exact FinalizeOk.changeHands h hhands hnonzero
  | available | lifecycle | arrived | sessions | stopped | idle | start | checkMode | complete
  | other => trivial

/-- The tables still agree when a slot that no account is listed at changes hands. -/
theorem TablesOk.changeHands (h : TablesOk s) (hhands : ChangesHands s s' i) (hslot : s'.SlotOk i)
    (hplayer : (s'.sessions i).playerId = -1) (hnonzero : 0 ∉ s'.issued)
    (hunlisted : ∀ id key, 0 ≤ id → s.activePlayers id = some key → key.sessionIndex ≠ i)
    (henters : ∀ j, (∃ t, (s.threads t).Enters j) → ∃ t, (s'.threads t).Enters j) :
    TablesOk s' := by
  have hloggedIn : ∀ {j}, 0 ≤ (s'.sessions j).playerId → j ≠ i := by
    intro j hj hi
    rw [hi, hplayer] at hj
    omega
  refine ⟨fun j => ?_, hnonzero, fun id key hpos hkey => ?_,
    fun j hj => ?_, fun j hj hremoved => ?_,
    fun j hlogin key hkey hindex hsame => ?_, fun key hkey => ?_⟩
  · by_cases hj : j = i
    · exact hj ▸ hslot
    · have hok := h.slots j
      refine ⟨?_, ?_, ?_, ?_⟩ <;> rw [hhands.others j hj]
      · exact hok.free
      · exact hok.closed
      · exact hok.login
      · exact fun hne => hhands.issued _ (hok.issued hne)
  · rw [hhands.players] at hkey
    rw [hhands.removed, hhands.sessionKey (hunlisted id key hpos hkey)]
    exact h.listed id key hpos hkey
  · have hi := hloggedIn hj
    rw [hhands.others j hi] at hj ⊢
    rw [hhands.players, hhands.sessionKey hi, hhands.removed]
    exact (h.entered j hj).imp id (Or.imp id (henters j))
  · have hi := hloggedIn hj
    rw [hhands.others j hi] at hj ⊢
    rw [hhands.sessionKey hi, hhands.removed] at hremoved
    exact h.closing j hj hremoved
  · rw [hhands.removed] at hkey
    by_cases hi : j = i
    · -- the id of whoever took the slot was not given before
      subst hi
      have hne : (s'.sessions j).sessionId ≠ 0 := by
        intro hzero
        rw [(hslot.closed hzero).1] at hlogin
        cases hlogin
      rcases h.removed key hkey with hc | hc
      · exact absurd (hsame.symm.trans hc) hne
      · exact absurd (hsame ▸ hc) (hhands.fresh hne)
    · rw [hhands.others j hi] at hlogin hsame
      exact h.fresh j hlogin key hkey hindex hsame
  · rw [hhands.removed] at hkey
    exact (h.removed key hkey).imp id (hhands.issued _)

end ChangeHands

theorem isProcessingTasks_setSession {i : Int} {session : LoginSession}
    (hflag : session.isProcessingTasks = (s.sessions i).isProcessingTasks) (j : Int) :
    ((s.setSession i session).sessions j).isProcessingTasks =
      (s.sessions j).isProcessingTasks := by
  by_cases hj : j = i
  · rw [hj, sessions_setSession_self, hflag]
  · rw [sessions_setSession_of_ne hj]

/-- The flags stay with who has them when something else of a session changes. -/
theorem FlagsOk.setSession (h : FlagsOk s) {i : Int} {session : LoginSession}
    (hflag : session.isProcessingTasks = (s.sessions i).isProcessingTasks)
    (howns : ∀ j, thread.Owns j → (s.threads t).Owns j)
    (hlocks : thread.Locks → (s.threads t).Locks) :
    FlagsOk ((s.setSession i session).setThread t thread) := by
  refine ⟨fun j => ?_, h.mutex.goOn hlocks⟩
  show Guarded _ ((s.setSession i session).sessions j).isProcessingTasks
    (Function.update s.threads t thread)
  rw [isProcessingTasks_setSession hflag]
  exact (h.flags j).goOn (howns j)

theorem LoginOk.holdsOk (h : LoginOk threadCount s) {i : Int} (hholds : (s.threads t).Holds i) :
    ∃ owner, s.HoldsOk owner i := by
  have hfacts := h.facts t
  revert hfacts hholds
  cases s.threads t with
  | checkLife owner j | process owner j | lock owner j _ =>
      rintro hj hfacts
      exact ⟨owner, hj ▸ hfacts⟩
  | addPlayer call step =>
      rintro hj hfacts
      exact ⟨call.owner, hj ▸ hfacts.1⟩
  | available | lifecycle | arrived | sessions | stopped | idle | start | checkMode | complete
  | other | finalize =>
      exact nofun

theorem LoginOk.accept (h : LoginOk threadCount s) {i : Int} {sessionId : Nat}
    (hfree : (s.sessions i).lifeState = .none) (hid : sessionId ≠ 0)
    (hnew : sessionId ∉ s.issued) :
    LoginOk threadCount (s.initSession i sessionId) := by
  have hzero : (s.sessions i).sessionId = 0 := ((h.tables.slots i).free).1 hfree
  obtain ⟨_, hnobody⟩ := (h.tables.slots i).closed hzero
  have hself : (s.initSession i sessionId).sessions i = { s.sessions i with
      lifeState := .active, modeState := .login, sessionId,
        playerId := -1 } := sessions_setSession_self ..
  have hothers : ∀ {j}, j ≠ i → (s.initSession i sessionId).sessions j = s.sessions j :=
    fun hj => sessions_setSession_of_ne hj _
  have hhands : ChangesHands s (s.initSession i sessionId) i := by
    refine ⟨fun j hj => hothers hj, rfl, rfl, fun _ => List.mem_cons_of_mem _, ?_, ?_⟩
    · rw [hself]
      exact .inr rfl
    · rw [hself]
      exact fun _ => hnew
  have hunheld : ∀ t, ¬ (s.threads t).Holds i := fun t hholds =>
    have ⟨_, hholdsOk⟩ := h.holdsOk hholds
    hholdsOk.1 hzero
  refine ⟨⟨h.stage.counted, h.stage.lifecycle, h.stage.sessions, h.stage.waiting⟩,
    ⟨fun j => ?_, h.flags.mutex⟩,
    h.tables.changeHands hhands ?_ ?_ ?_ (fun id key hpos hkey hindex => ?_) fun _ => id,
    fun t => (h.facts t).changeHands hhands h.tables.nonzero (hunheld t),
    fun t t' j key current hholds hfinal hindex => ?_⟩
  · have hflag : ((s.initSession i sessionId).sessions j).isProcessingTasks =
        (s.sessions j).isProcessingTasks :=
      isProcessingTasks_setSession (by rfl) j
    rw [hflag]
    exact h.flags.flags j
  · refine ⟨?_, ?_, ?_, ?_⟩ <;> rw [hself]
    · exact ⟨nofun, fun hc => absurd hc hid⟩
    · exact fun hc => absurd hc hid
    · exact fun _ => rfl
    · exact fun _ => List.mem_cons_self ..
  · rw [hself]
  · intro hmem
    rcases List.mem_cons.mp hmem with heq | hold
    · exact hid heq.symm
    · exact h.tables.nonzero hold
  · obtain ⟨hplayer, hthere, _⟩ := h.tables.listed id key hpos hkey
    have hpid : (s.sessions i).playerId = key.playerId := by
      rw [← hindex]
      exact congrArg SessionKey.playerId hthere
    omega
  · have hi : j ≠ i := fun hi => hunheld t (hi ▸ hholds)
    rw [hothers hi]
    exact h.apart t t' j key current hholds hfinal hindex

/-! ### Logging in -/

/-- A thread that is in `AddPlayer` is the only one there. -/
theorem LoginOk.only (h : LoginOk threadCount s) (hlocks : (s.threads t).Locks) {t' : Nat}
    (hne : t' ≠ t) :
    ¬ (s.threads t').Locks := h.flags.mutex.others hlocks hne

theorem sessionKey_setSession_of_ne {i j : Int} (hj : j ≠ i) (session : LoginSession) :
    (s.setSession i session).sessionKey j = s.sessionKey j := by
  unfold ActivePlayers.sessionKey
  rw [sessions_setSession_of_ne hj]

/-- A session that has yet to log in has not been removed under any account. -/
theorem TablesOk.not_removed (h : TablesOk s) {i playerId : Int}
    (hlogin : (s.sessions i).modeState = .login) (hpos : 0 ≤ playerId) :
    (⟨i, playerId, (s.sessions i).sessionId⟩ : SessionKey) ∉ s.removed := by
  intro hmem
  have hminus := h.fresh i hlogin _ hmem rfl rfl
  have hminus : playerId = -1 := hminus
  omega

theorem LoginOk.applied (h : LoginOk threadCount s) {call : AddPlayerCall}
    (ht : s.threads t = .addPlayer call .applyLoginResult)
    (hmode : (s.sessions call.index).modeState = .login) :
    LoginOk threadCount
      ((s.applyLoginResult call.index call.playerId).setThread t
        (.addPlayer call .getSessionKey)) := by
  obtain ⟨hholds, _, hnone⟩ := facts_at h ht
  -- only a lobby thread finds the session in `LOGIN`
  have howner : call.owner = .lobby := by
    cases howner : call.owner with
    | lobby => rfl
    | room => exact absurd hmode (hholds.2 howner)
  have hsessions : (s.threads t).InSessions := by rw [ht]; exact howner
  have hlocks : (s.threads t).Locks := by rw [ht]; trivial
  have hself : (s.applyLoginResult call.index call.playerId).sessions call.index =
      { s.sessions call.index with playerId := call.playerId, modeState := .lobby } :=
      sessions_setSession_self ..
  have hothers : ∀ {j}, j ≠ call.index →
      (s.applyLoginResult call.index call.playerId).sessions j = s.sessions j :=
    fun hj => sessions_setSession_of_ne hj _
  have hkeys : ∀ {j}, j ≠ call.index →
      (s.applyLoginResult call.index call.playerId).sessionKey j = s.sessionKey j :=
    fun hj => sessionKey_setSession_of_ne hj _
  have hselfKey : (s.applyLoginResult call.index call.playerId).sessionKey call.index =
      ⟨call.index, call.playerId, (s.sessions call.index).sessionId⟩ := by
    unfold ActivePlayers.sessionKey
    rw [hself]
  have hholdsOk : ∀ {owner j}, s.HoldsOk owner j →
      (s.applyLoginResult call.index call.playerId).HoldsOk owner j := by
    intro owner j hok
    unfold HoldsOk
    by_cases hj : j = call.index
    · rw [hj, hself]
      exact ⟨hj ▸ hok.1, fun _ => nofun⟩
    · rw [hothers hj]
      exact hok
  refine ⟨?_, h.flags.setSession rfl (fun j howns => by rw [ht]; exact howns) fun _ => hlocks, ?_,
    fun t' => ?_, ?_⟩
  · exact h.stage.goOn (b := .addPlayer call .getSessionKey) (t := t) rfl rfl rfl nofun
      (fun _ => hsessions) nofun
  -- the tables: only the session that logs in has changed
  · refine ⟨fun j => ?_, h.tables.nonzero, fun id key hpos hkey => ?_,
      fun j hj => ?_, fun j hj hremoved => ?_, fun j hlogin => ?_, h.tables.removed⟩
    · have hok := h.tables.slots j
      refine SlotOk.kept (s := s.applyLoginResult call.index call.playerId) ?_
        (sameTables_setThread _)
      by_cases hj : j = call.index
      · subst hj
        refine ⟨?_, ?_, ?_, ?_⟩ <;> rw [hself]
        · exact hok.free
        · exact fun hzero => absurd hzero hholds.1
        · nofun
        · exact hok.issued
      · refine ⟨?_, ?_, ?_, ?_⟩ <;> rw [hothers hj]
        · exact hok.free
        · exact hok.closed
        · exact hok.login
        · exact hok.issued
    · obtain ⟨hplayer, hthere, hnot⟩ := h.tables.listed id key hpos hkey
      refine ⟨hplayer, ?_, hnot⟩
      show (s.applyLoginResult call.index call.playerId).sessionKey key.sessionIndex = key
      by_cases hi : key.sessionIndex = call.index
      · have hpid : (s.sessions call.index).playerId = key.playerId := by
          rw [← hi]
          exact congrArg SessionKey.playerId hthere
        -- it had no player yet, so no entry was its own
        have hminus := (h.tables.slots call.index).login hmode
        omega
      · rw [hkeys hi]
        exact hthere
    · by_cases hi : j = call.index
      -- the player is about to be entered by this very thread
      · exact .inr (.inr ⟨t, by rw [threads_setThread_self]; exact hi.symm⟩)
      · have hj : 0 ≤ ((s.applyLoginResult call.index call.playerId).sessions j).playerId := hj
        show s.activePlayers ((s.applyLoginResult call.index call.playerId).sessions j).playerId =
            some ((s.applyLoginResult call.index call.playerId).sessionKey j) ∨
          (s.applyLoginResult call.index call.playerId).sessionKey j ∈ s.removed ∨ _
        rw [hothers hi] at hj ⊢
        rw [hkeys hi]
        refine (h.tables.entered j hj).imp id (Or.imp id ?_)
        rintro ⟨t', ht'⟩
        have hne : t' ≠ t := by
          intro heq
          rw [heq, ht] at ht'
          exact ht'
        exact ⟨t', by rw [threads_setThread_of_ne hne]; exact ht'⟩
    · have hj : 0 ≤ ((s.applyLoginResult call.index call.playerId).sessions j).playerId := hj
      have hremoved : (s.applyLoginResult call.index call.playerId).sessionKey j ∈ s.removed :=
        hremoved
      show ((s.applyLoginResult call.index call.playerId).sessions j).lifeState = .disconnecting
      by_cases hi : j = call.index
      · rw [hi, hself] at hj
        rw [hi, hselfKey] at hremoved
        exact absurd hremoved (h.tables.not_removed hmode hj)
      · rw [hothers hi] at hj ⊢
        rw [hkeys hi] at hremoved
        exact h.tables.closing j hj hremoved
    · have hlogin : ((s.applyLoginResult call.index call.playerId).sessions j).modeState =
          .login := hlogin
      show ∀ key ∈ s.removed, key.sessionIndex = j →
        key.sessionId = ((s.applyLoginResult call.index call.playerId).sessions j).sessionId →
        key.playerId = -1
      by_cases hi : j = call.index
      · rw [hi, hself] at hlogin
        cases hlogin
      · rw [hothers hi] at hlogin ⊢
        exact h.tables.fresh j hlogin
  · by_cases heq : t' = t
    · subst heq
      rw [threads_setThread_self]
      refine ⟨hholdsOk hholds, howner, ?_, hnone, fun hpos => ?_⟩
      · show ((s.applyLoginResult call.index call.playerId).sessions call.index).playerId =
          call.playerId
        rw [hself]
      · show (s.applyLoginResult call.index call.playerId).sessionKey call.index ∉ s.removed
        rw [hselfKey]
        exact h.tables.not_removed hmode hpos
    · rw [threads_setThread_of_ne heq]
      have hfacts := h.facts t'
      have hunlocked := h.only hlocks heq
      have hoff := h.stage.not_lifecycle hsessions t'
      refine Facts.kept (s := s.applyLoginResult call.index call.playerId) ?_
        (sameTables_setThread _)
      show (s.applyLoginResult call.index call.playerId).Facts (s.threads t')
      cases hthread : s.threads t' with
      | checkLife | process | lock =>
          rw [hthread] at hfacts
          exact hholdsOk hfacts
      -- no other thread has the lock, and none is in the lifecycle stage
      | addPlayer => rw [hthread] at hunlocked; exact absurd trivial hunlocked
      | finalize => rw [hthread] at hoff; exact absurd trivial hoff
      | available | lifecycle | arrived | sessions | stopped | idle | start | checkMode | complete
      | other => trivial
  · intro t₁ t₂ j key current h₁ h₂ hindex
    have hoff := h.stage.not_lifecycle hsessions t₂
    by_cases heq : t₂ = t
    · rw [heq, threads_setThread_self] at h₂
      cases h₂
    · rw [threads_setThread_of_ne heq] at h₂
      rw [show s.threads t₂ = .finalize key (.finalizeDisconnect current) from h₂] at hoff
      exact absurd trivial hoff

theorem LoginOk.locked (h : LoginOk threadCount s) {owner : LoopOwner} {i playerId : Int}
    (ht : s.threads t = .lock owner i playerId) (hfree : s.isLocked = false) :
    LoginOk threadCount ({ s with isLocked := true }.setThread t
      (.addPlayer ⟨owner, i, playerId, s.activePlayers, s.sessionKey i⟩ .find)) := by
  have hholds : s.HoldsOk owner i := facts_at h ht
  refine h.moved (b := .addPlayer ⟨owner, i, playerId, s.activePlayers, s.sessionKey i⟩ .find)
    ⟨fun i => .refl _, rfl, rfl, rfl⟩ rfl ?_ ⟨fun j => (h.flags.flags j).goOn ?_, ?_⟩
    ⟨hholds, rfl, rfl⟩
    (fun j => by rw [ht]; exact nofun) (fun j t' key current hj hfinal hindex => ?_)
    (fun _ _ _ _ _ _ hfinal => by cases hfinal)
  · exact h.stage.goOn rfl rfl rfl nofun (fun hs => by rw [ht]; exact hs) nofun
  · rw [ht]
    exact id
  · have hmutex := h.flags.mutex
    rw [hfree] at hmutex
    exact hmutex.enter
  · exact h.apart t t' j key current (by rw [ht]; exact hj) hfinal hindex

theorem LoginOk.unlocked (h : LoginOk threadCount s) {call : AddPlayerCall} {result : Bool}
    (ht : s.threads t = .addPlayer call (.unlock result)) :
    LoginOk threadCount
      ({ s with isLocked := false }.setThread t (.process call.owner call.index)) := by
  have hholds : s.HoldsOk call.owner call.index := (facts_at h ht).1
  refine h.moved (b := .process call.owner call.index) ⟨fun i => .refl _, rfl, rfl, rfl⟩ rfl ?_
    ⟨fun j => (h.flags.flags j).goOn ?_, h.flags.mutex.leave (by rw [ht]; trivial) id⟩ hholds
    (fun j => by rw [ht]; cases result <;> exact nofun)
    (fun j t' key current hj hfinal hindex => ?_) (fun _ _ _ _ _ _ hfinal => by cases hfinal)
  · exact h.stage.goOn rfl rfl rfl nofun (fun hs => by rw [ht]; exact hs) nofun
  · rw [ht]
    exact id
  · exact h.apart t t' j key current (by rw [ht]; exact hj) hfinal hindex

/-- The facts of a thread that is not in `AddPlayer` and speaks of no removal do not depend on the
players. -/
theorem facts_players {players : Int → Option SessionKey} {removed : List SessionKey}
    {thread : LoginThread} (h : s.Facts thread) (hlocks : ¬ thread.Locks)
    (hremoved : ∀ key ∈ s.removed, key ∈ removed) :
    Facts { s with activePlayers := players, removed := removed } thread := by
  cases thread with
  | addPlayer => exact absurd trivial hlocks
  | checkLife | process | lock => exact h
  | finalize key step =>
      have h : s.FinalizeOk key step := h
      cases step with
      | findSession | getLifeState | tryStart | matchesKey | giveUp => trivial
      | recheckLife =>
          have h : s.Found key := h
          exact ⟨h.known, h.slot⟩
      | getSessionKey =>
          have h : s.Late key := h
          exact ⟨h.known, h.slot⟩
      | getRoomSnapshot => exact ⟨⟨h.known, h.slot⟩, h.index, h.issued, h.account, h.whose⟩
      | getDBInfo =>
          exact ⟨⟨⟨h.1.known, h.1.slot⟩, h.1.index, h.1.issued, h.1.account, h.1.whose⟩, h.2⟩
      | removePlayer =>
          exact ⟨⟨⟨h.1.known, h.1.slot⟩, h.1.index, h.1.issued, h.1.account, h.1.whose⟩,
            h.2.1, h.2.2⟩
      | completeTasks | finalizeDisconnect =>
          exact ⟨⟨⟨h.1.known, h.1.slot⟩, h.1.index, h.1.issued, h.1.account, h.1.whose⟩, h.2.1,
            hremoved _ h.2.2⟩
  | available | lifecycle | arrived | sessions | stopped | idle | start | checkMode | complete
  | other => trivial

theorem LoginOk.inserted (h : LoginOk threadCount s) {call : AddPlayerCall} {key : SessionKey}
    (ht : s.threads t = .addPlayer call (.insert key)) :
    LoginOk threadCount
      ((s.insert call.playerId key).setThread t (.addPlayer call (.unlock true))) := by
  obtain ⟨hholds, hentering, rfl⟩ := facts_at h ht
  have hlocks : (s.threads t).Locks := by rw [ht]; trivial
  have hkey : (s.sessionKey call.index).playerId = call.playerId := hentering.playerId
  refine ⟨?_, ⟨fun j => (h.flags.flags j).goOn fun ho => by rw [ht]; exact ho,
    h.flags.mutex.goOn fun _ => hlocks⟩, ?_, fun t' => ?_, ?_⟩
  · exact h.stage.goOn (b := .addPlayer call (.unlock true)) (t := t) rfl rfl rfl nofun
      (fun hs => by rw [ht]; exact hs) nofun
  · have hslots : ∀ j, SlotOk ((s.insert call.playerId (s.sessionKey call.index)).setThread t
        (.addPlayer call (.unlock true))) j := fun j =>
      have hok := h.tables.slots j
      ⟨hok.free, hok.closed, hok.login, hok.issued⟩
    refine ⟨hslots, h.tables.nonzero, fun id key hpos hlisted => ?_,
      fun j hj => ?_, h.tables.closing, h.tables.fresh, h.tables.removed⟩
    · have hlisted : Function.update s.activePlayers call.playerId (some (s.sessionKey call.index))
          id = some key :=
        hlisted
      -- the entry just made, and the ones that were there
      by_cases hid : id = call.playerId
      · subst hid
        rw [Function.update_self] at hlisted
        obtain rfl := Option.some.inj hlisted
        exact ⟨hkey, rfl, hentering.here hpos⟩
      · rw [Function.update_of_ne hid] at hlisted
        exact h.tables.listed id key hpos hlisted
    · show Function.update s.activePlayers call.playerId (some (s.sessionKey call.index))
        (s.sessions j).playerId =
        some (s.sessionKey j) ∨ s.sessionKey j ∈ s.removed ∨ _
      by_cases hi : j = call.index
      · subst hi
        rw [hentering.playerId, Function.update_self]
        exact .inl rfl
      · rcases h.tables.entered j hj with hthere | hgone | ⟨t', ht'⟩
        -- another session with the player would have an entry, and there was none
        · by_cases hid : (s.sessions j).playerId = call.playerId
          · rw [hid, hentering.free] at hthere
            cases hthere
          · rw [Function.update_of_ne hid]
            exact .inl hthere
        · exact .inr (.inl hgone)
        · by_cases heq : t' = t
          · rw [heq, ht] at ht'
            exact absurd ht'.symm hi
          · exact .inr (.inr ⟨t', by rw [threads_setThread_of_ne heq]; exact ht'⟩)
  · by_cases heq : t' = t
    · rw [heq, threads_setThread_self]
      exact ⟨hholds, trivial⟩
    · rw [threads_setThread_of_ne heq]
      refine Facts.kept (s := s.insert call.playerId (s.sessionKey call.index)) ?_
        (sameTables_setThread _)
      exact facts_players (h.facts t') (h.only hlocks heq) fun _ => id
  · intro t₁ t₂ j key current h₁ h₂ hindex
    have hne : t₂ ≠ t := by
      intro heq
      rw [heq, threads_setThread_self] at h₂
      cases h₂
    rw [threads_setThread_of_ne hne] at h₂
    by_cases heq : t₁ = t
    · rw [heq, threads_setThread_self] at h₁
      exact h.apart t t₂ j key current (by rw [ht]; exact h₁) h₂ hindex
    · rw [threads_setThread_of_ne heq] at h₁
      exact h.apart t₁ t₂ j key current h₁ h₂ hindex

/-! ### Finalizing -/

theorem removePlayer_iff {playerId id : Int} {key key' : SessionKey} :
    (s.removePlayer playerId key).activePlayers id = some key' ↔
      s.activePlayers id = some key' ∧ ¬ (id = playerId ∧ key' = key) := by
  show (if s.activePlayers playerId = some key then Function.update s.activePlayers playerId none
    else s.activePlayers) id = some key' ↔ _
  split
  next hthere =>
    by_cases hid : id = playerId
    · subst hid
      rw [Function.update_self, hthere]
      simp [eq_comm]
    · rw [Function.update_of_ne hid]
      simp [hid]
  next hnot =>
    refine ⟨fun hlisted => ⟨hlisted, ?_⟩, And.left⟩
    rintro ⟨rfl, rfl⟩
    exact hnot hlisted

theorem LoginOk.playerRemoved (h : LoginOk threadCount s) {key current : SessionKey}
    {playerId : Int} (ht : s.threads t = .finalize key (.removePlayer current playerId))
    (hfree : s.isLocked = false) :
    LoginOk threadCount ((s.removePlayer playerId current).setThread t
      (.finalize key (.completeTasks current))) := by
  obtain ⟨hcurrent, hnot, hread⟩ := facts_at h ht
  have hunlocked : ∀ t', ¬ (s.threads t').Locks := fun t' hl => by
    have hflag := h.flags.mutex.flagged t' hl
    rw [hfree] at hflag
    cases hflag
  have hindex : current.sessionIndex = key.sessionIndex := hcurrent.index
  -- the session with the key that was read, if it is there, is disconnecting or has no account
  have hgoing : ∀ j, 0 ≤ (s.sessions j).playerId → s.sessionKey j = current →
      (s.sessions j).lifeState = .disconnecting := by
    intro j hj hsame
    have hidx : j = key.sessionIndex := (congrArg SessionKey.sessionIndex hsame).trans hindex
    subst hidx
    rcases hcurrent.slot with ⟨_, hlife⟩ | hzero | hlogin
    · exact hlife
    · have hminus := ((h.tables.slots key.sessionIndex).closed hzero).2
      omega
    · have hminus := (h.tables.slots key.sessionIndex).login hlogin
      omega
  refine ⟨?_,
    ⟨fun j => (h.flags.flags j).goOn fun ho => by rw [ht]; exact ho, h.flags.mutex.goOn nofun⟩, ?_,
    fun t' => ?_, ?_⟩
  · exact h.stage.goOn (b := .finalize key (.completeTasks current)) (t := t) rfl rfl rfl
      (fun _ => by rw [ht]; trivial) nofun nofun
  · have hslots : ∀ j, SlotOk ((s.removePlayer playerId current).setThread t
        (.finalize key (.completeTasks current))) j := fun j =>
      have hok := h.tables.slots j
      ⟨hok.free, hok.closed, hok.login, hok.issued⟩
    refine ⟨hslots, h.tables.nonzero, fun id key' hpos hlisted => ?_,
      fun j hj => ?_, fun j hj hremoved => ?_,
      fun j hlogin key' hkey' hi hsame => ?_, fun key' hkey' => ?_⟩
    · obtain ⟨hold, hstays⟩ := removePlayer_iff.mp hlisted
      obtain ⟨hplayer, hthere, hnotRemoved⟩ := h.tables.listed id key' hpos hold
      refine ⟨hplayer, hthere, fun hmem => ?_⟩
      rcases List.mem_cons.mp hmem with heq | hmem
      · -- the entry is that of the key, so that the account read is its own
        subst heq
        have hidx : (s.sessions key.sessionIndex).sessionId = key'.sessionId := by
          rw [← hindex]
          exact congrArg SessionKey.sessionId hthere
        have hpid : (s.sessions key.sessionIndex).playerId = key'.playerId := by
          rw [← hindex]
          exact congrArg SessionKey.playerId hthere
        refine hstays ⟨?_, rfl⟩
        have hne : (s.sessions key.sessionIndex).sessionId ≠ 0 := by
          intro hzero
          have hminus := ((h.tables.slots key.sessionIndex).closed hzero).2
          omega
        rw [hread hne hidx, hplayer]
      · exact hnotRemoved hmem
    · rcases h.tables.entered j hj with hthere | hgone | ⟨t', ht'⟩
      · by_cases hsame : s.sessionKey j = current
        · refine .inr (.inl ?_)
          show s.sessionKey j ∈ current :: s.removed
          rw [hsame]
          exact List.mem_cons_self ..
        · exact .inl (removePlayer_iff.mpr ⟨hthere, fun hboth => hsame hboth.2⟩)
      · exact .inr (.inl (List.mem_cons_of_mem _ hgone))
      · have hlocks : (s.threads t').Locks := by
          revert ht'
          cases s.threads t' <;> first | exact fun _ => trivial | exact nofun
        exact absurd hlocks (hunlocked t')
    · rcases List.mem_cons.mp hremoved with heq | hmem
      · exact hgoing j hj heq
      · exact h.tables.closing j hj hmem
    · rcases List.mem_cons.mp hkey' with heq | hmem
      · subst heq
        have hidx : key.sessionIndex = j := hindex.symm.trans hi
        have hlogin : (s.sessions j).modeState = .login := hlogin
        have hsame : key'.sessionId = (s.sessions j).sessionId := hsame
        have hminus := (h.tables.slots j).login hlogin
        have hne : (s.sessions j).sessionId ≠ 0 := by
          intro hzero
          have hclosed := ((h.tables.slots j).closed hzero).1
          rw [hlogin] at hclosed
          cases hclosed
        rw [← hidx] at hminus hne hsame
        exact (hcurrent.account hne hsame.symm).symm.trans hminus
      · exact h.tables.fresh j hlogin key' hmem hi hsame
    · rcases List.mem_cons.mp hkey' with heq | hmem
      · rw [heq]
        exact hcurrent.issued
      · exact h.tables.removed key' hmem
  · by_cases heq : t' = t
    · rw [heq, threads_setThread_self]
      refine Facts.kept (s := s.removePlayer playerId current) ?_ (sameTables_setThread _)
      exact ⟨⟨⟨hcurrent.known, hcurrent.slot⟩, hcurrent.index, hcurrent.issued, hcurrent.account,
        hcurrent.whose⟩, hnot, List.mem_cons_self ..⟩
    · rw [threads_setThread_of_ne heq]
      refine Facts.kept (s := s.removePlayer playerId current) ?_ (sameTables_setThread _)
      exact facts_players (h.facts t') (hunlocked t') fun _ => List.mem_cons_of_mem _
  · intro t₁ t₂ j key' current' h₁ h₂ hi
    by_cases heq₁ : t₁ = t
    · rw [heq₁, threads_setThread_self] at h₁
      exact absurd h₁ id
    · rw [threads_setThread_of_ne heq₁] at h₁
      by_cases heq₂ : t₂ = t
      · rw [heq₂, threads_setThread_self] at h₂
        cases h₂
      · rw [threads_setThread_of_ne heq₂] at h₂
        exact h.apart t₁ t₂ j key' current' h₁ h₂ hi

/-- What is read of a session that was found disconnecting. -/
theorem TablesOk.current_of_late (h : TablesOk s) {key : SessionKey} (hlate : s.Late key) :
    s.Current key (s.sessionKey key.sessionIndex) := by
  have hslot := h.slots key.sessionIndex
  refine ⟨hlate, rfl, ?_, fun _ _ => rfl, ?_⟩
  · by_cases hzero : (s.sessions key.sessionIndex).sessionId = 0
    · exact .inl hzero
    · exact .inr (hslot.issued hzero)
  · by_cases hid : (s.sessions key.sessionIndex).sessionId = key.sessionId
    · exact .inl hid
    · refine .inr ⟨?_, hid⟩
      rcases hlate.slot with ⟨hsame, _⟩ | hzero | hlogin
      · exact absurd hsame hid
      · exact (hslot.closed hzero).2
      · exact hslot.login hlogin

theorem LoginOk.finalized (h : LoginOk threadCount s) {key current : SessionKey}
    (ht : s.threads t = .finalize key (.finalizeDisconnect current))
    (hlife : (s.sessions key.sessionIndex).lifeState = .disconnecting)
    (hid : (s.sessions key.sessionIndex).sessionId = current.sessionId) :
    LoginOk threadCount ((s.finalizeDisconnect key.sessionIndex).setThread t .lifecycle) := by
  obtain ⟨hcurrent, _, hremoved⟩ := facts_at h ht
  have hself : (s.finalizeDisconnect key.sessionIndex).sessions key.sessionIndex =
      { s.sessions key.sessionIndex with
        lifeState := .none
        modeState := .none
        sessionId := 0
        playerId := -1 } :=
    sessions_setSession_self ..
  have hothers : ∀ {j}, j ≠ key.sessionIndex →
      (s.finalizeDisconnect key.sessionIndex).sessions j = s.sessions j :=
    fun hj => sessions_setSession_of_ne hj _
  have hhands : ChangesHands s (s.finalizeDisconnect key.sessionIndex) key.sessionIndex := by
    refine ⟨fun j hj => hothers hj, rfl, rfl, fun _ => id, ?_, ?_⟩
    · rw [hself]
      exact .inl rfl
    · rw [hself]
      exact fun hne => absurd rfl hne
  -- nobody else is in the session that is emptied
  have hunheld : ∀ t', ¬ (s.threads t').Holds key.sessionIndex := fun t' hholds =>
    h.apart t' t key.sessionIndex key current hholds ht rfl hid
  have hne : (s.sessions key.sessionIndex).sessionId ≠ 0 := by
    intro hzero
    have hnone := (h.tables.slots key.sessionIndex).free.2 hzero
    rw [hlife] at hnone
    cases hnone
  refine ⟨?_, h.flags.setSession rfl nofun nofun, ?_, fun t' => ?_, ?_⟩
  · exact h.stage.goOn (b := .lifecycle) (t := t) rfl rfl rfl
      (fun _ => by rw [ht]; trivial) nofun nofun
  · have htables : TablesOk (s.finalizeDisconnect key.sessionIndex) := by
      refine h.tables.changeHands hhands ?_ ?_ h.tables.nonzero
        (fun id key' hpos hlisted hindex => ?_) fun _ => id
      · refine ⟨?_, ?_, ?_, ?_⟩ <;> rw [hself]
        · exact ⟨fun _ => rfl, fun _ => rfl⟩
        · exact fun _ => ⟨rfl, rfl⟩
        · exact fun _ => rfl
        · exact fun hc => absurd rfl hc
      · rw [hself]
      · -- its entry has been removed before
        obtain ⟨_, hthere, hnot⟩ := h.tables.listed id key' hpos hlisted
        have hsame : s.sessionKey key.sessionIndex = current := by
          unfold ActivePlayers.sessionKey
          rw [hid, hcurrent.account hne hid, ← hcurrent.index]
        rw [hindex, hsame] at hthere
        exact absurd (hthere ▸ hremoved) hnot
    refine htables.kept (sameTables_setThread _) (enters_update rfl fun j => ?_)
    show (s.threads t).Enters j → _
    rw [ht]
    exact nofun
  · by_cases heq : t' = t
    · rw [heq, threads_setThread_self]
      trivial
    · rw [threads_setThread_of_ne heq]
      refine Facts.kept (s := s.finalizeDisconnect key.sessionIndex) ?_ (sameTables_setThread _)
      exact (h.facts t').changeHands hhands h.tables.nonzero (hunheld t')
  · intro t₁ t₂ j key' current' h₁ h₂ hi
    by_cases heq₁ : t₁ = t
    · rw [heq₁, threads_setThread_self] at h₁
      exact absurd h₁ id
    · rw [threads_setThread_of_ne heq₁] at h₁
      by_cases heq₂ : t₂ = t
      · rw [heq₂, threads_setThread_self] at h₂
        cases h₂
      · rw [threads_setThread_of_ne heq₂] at h₂
        have hj : j ≠ key.sessionIndex := fun hj => hunheld t₁ (hj ▸ h₁)
        show ((s.finalizeDisconnect key.sessionIndex).sessions j).sessionId ≠ _
        rw [hothers hj]
        exact h.apart t₁ t₂ j key' current' h₁ h₂ hi

theorem LoginOk.tasksCompleted (h : LoginOk threadCount s) {key current : SessionKey}
    (ht : s.threads t = .finalize key (.completeTasks current)) :
    LoginOk threadCount
      ((s.setFlag key.sessionIndex false).setThread t
        (.finalize key (.finalizeDisconnect current))) := by
  have howns : (s.threads t).Owns key.sessionIndex := by rw [ht]; exact rfl
  have hfacts : s.Facts (.finalize key (.completeTasks current)) := facts_at h ht
  refine h.moved ((sameTables_setFlag key.sessionIndex false).setThread t _) rfl ?_
    (h.flags.leave howns (fun _ => id) id) hfacts (fun _ => by rw [ht]; exact nofun)
    (fun _ _ _ _ hholds => absurd hholds id) ?_
  · exact h.stage.goOn rfl rfl rfl (fun _ => by rw [ht]; trivial) nofun nofun
  · -- the flag was this thread's, so that no loop holds the session
    intro i t' key' current' hne hholds hfinal hindex
    obtain ⟨rfl, hstep⟩ := LoginThread.finalize.inj hfinal
    have hother : (s.threads t').Owns i := by
      revert hholds
      cases s.threads t' <;> first | exact id | exact nofun
    exact absurd (h.flags.flags i |>.alone t' t hother (hindex ▸ howns)) hne

theorem LoginOk.modeChecked (h : LoginOk threadCount s) {owner : LoopOwner} {i : Int}
    (ht : s.threads t = .checkMode owner i) (hmode : owner.Accepts (s.sessions i).modeState) :
    LoginOk threadCount (s.setThread t (.checkLife owner i)) := by
  have hthere : (s.sessions i).modeState ≠ .none := by
    cases owner with
    | lobby => rcases hmode with hm | hm <;> rw [hm] <;> nofun
    | room => rw [show (s.sessions i).modeState = .room from hmode]; nofun
  have hid : (s.sessions i).sessionId ≠ 0 :=
    fun hzero => hthere ((h.tables.slots i).closed hzero).1
  have hholds : s.HoldsOk owner i := by
    refine ⟨hid, fun howner => ?_⟩
    subst howner
    rw [show (s.sessions i).modeState = .room from hmode]
    nofun
  refine h.moved (sameTables_setThread _) rfl ?_
    (h.flags.goOn (fun j => by rw [ht]; exact id) nofun) hholds
    (fun _ => by rw [ht]; exact nofun) (fun j t' key current hj hfinal hindex => ?_)
    (fun _ _ _ _ _ _ hfinal => by cases hfinal)
  · exact h.stage.goOn rfl rfl rfl nofun (fun hs => by rw [ht]; exact hs) nofun
  · have hj : i = j := hj
    subst hj
    cases owner with
    | lobby =>
        have hoff := h.stage.not_lifecycle (t := t) (by rw [ht]; exact rfl) t'
        rw [hfinal] at hoff
        exact absurd trivial hoff
    | room =>
        obtain ⟨_, hnot, _⟩ := facts_at h hfinal
        intro hsame
        rw [← hindex] at hid hsame
        exact hnot hid hsame (hindex ▸ hmode)

/-- One place of `FinalizeDisconnect` after another, before the session itself is finalized. -/
theorem passes_finalize {key : SessionKey} {x y : RemovalStep}
    (hy : ∀ current, y ≠ .finalizeDisconnect current) :
    Passes (.finalize key x) (.finalize key y) :=
  ⟨id, nofun, nofun, nofun,
    fun _ => nofun, fun _ current h => hy current (LoginThread.finalize.inj h).2, fun _ => nofun⟩

/-- One place of `AddPlayer` after another. -/
theorem passes_addPlayer {call : AddPlayerCall} {x y : AddPlayerStep}
    (henters : ∀ i, (LoginThread.addPlayer call x).Enters i →
      (LoginThread.addPlayer call y).Enters i) :
    Passes (.addPlayer call x) (.addPlayer call y) :=
  ⟨nofun, id, nofun, id, fun _ => id, nofun, henters⟩

/-- A loop has done what it does for a session. -/
theorem passes_complete {a : LoginThread} {owner : LoopOwner} {i : Int}
    (hsessions : owner = .lobby → a.InSessions) (henters : ∀ j, ¬ a.Enters j) :
    Passes a (.complete owner i) :=
  ⟨nofun, hsessions, nofun, nofun, fun _ => nofun, nofun, fun j hj => absurd hj (henters j)⟩

/-- Back to where the lifecycle tasks are fetched. -/
theorem passes_lifecycle {a : LoginThread} (hlifecycle : a.InLifecycle)
    (henters : ∀ i, ¬ a.Enters i) :
    Passes a .lifecycle :=
  ⟨fun _ => hlifecycle, nofun, nofun, nofun,
    fun _ => nofun, nofun, fun i hi => absurd hi (henters i)⟩

/-- Back to where the loop goes on. -/
theorem passes_back {a : LoginThread} {owner : LoopOwner}
    (hsessions : owner = .lobby → a.InSessions) (henters : ∀ i, ¬ a.Enters i) :
    Passes a owner.back := by
  cases owner with
  | lobby =>
      exact ⟨nofun, fun _ => hsessions rfl, nofun, nofun,
        fun _ => nofun, nofun, fun i hi => absurd hi (henters i)⟩
  | room =>
      exact ⟨nofun, nofun, nofun, nofun, fun _ => nofun, nofun, fun i hi => absurd hi (henters i)⟩

/-- Back to where another holder of the flag came from. -/
theorem passes_outside {owner : LoopOwner} {i : Int} : Passes (.other owner i) owner.outside := by
  cases owner with
  | lobby => exact passes_lifecycle trivial fun _ => id
  | room => exact ⟨nofun, nofun, nofun, nofun, fun _ => nofun, nofun, fun _ => nofun⟩

theorem not_owns_back (owner : LoopOwner) (i : Int) : ¬ owner.back.Owns i := by
  cases owner <;> exact id

theorem not_locks_back (owner : LoopOwner) : ¬ owner.back.Locks := by
  cases owner <;> exact id

theorem not_owns_outside (owner : LoopOwner) (i : Int) : ¬ owner.outside.Owns i := by
  cases owner <;> exact id

theorem not_locks_outside (owner : LoopOwner) : ¬ owner.outside.Locks := by
  cases owner <;> exact id

theorem facts_back (owner : LoopOwner) : s.Facts owner.back := by
  cases owner <;> trivial

theorem facts_outside (owner : LoopOwner) : s.Facts owner.outside := by
  cases owner <;> trivial

/-! ### Every step -/

theorem LoginOk.next (h : LoginOk threadCount s) (hnext : Next threadCount s s') :
    LoginOk threadCount s' := by
  cases hnext with
  | startLobbyPhase _ hfree => exact h.startLobbyPhase hfree
  | stop =>
      exact ⟨⟨h.stage.counted, h.stage.lifecycle, h.stage.sessions, h.stage.waiting⟩,
        ⟨h.flags.flags, h.flags.mutex⟩,
        h.tables.kept ⟨fun _ => .refl _, rfl, rfl, rfl⟩ fun _ => id,
        fun t => (h.facts t).kept ⟨fun _ => .refl _, rfl, rfl, rfl⟩, h.apart⟩
  | arrive ht => exact h.arrive ht
  | pass ht hall => exact h.pass ht hall
  | quit ht => exact h.goFrom ht ⟨⟨nofun, nofun, nofun, nofun, nofun, nofun, nofun⟩, nofun⟩ trivial
  | leave ht =>
      exact h.goFrom ht ⟨⟨nofun, nofun, nofun, nofun, nofun, nofun, nofun⟩, nofun⟩ trivial
  | accept _ hfree hid hnew => exact h.accept hfree hid hnew
  | beginDisconnect hactive hlife =>
      refine h.kept ⟨rfl, rfl, ?_, ?_, Iff.rfl, .inl, id⟩ rfl
      · rcases hlife with hl | hl <;> simp [hl, hactive]
      · simp [hactive]
  | completeIo hpending =>
      exact h.kept ⟨rfl, rfl, by simp [hpending], fun _ => rfl, Iff.rfl, .inl, id⟩ rfl
  | completeRoomRemoval _ hmode =>
      exact h.kept ⟨rfl, rfl, Iff.rfl, id, by simp [hmode], nofun, fun _ => rfl⟩ rfl
  | trySetRoomMode hactive hmode =>
      exact h.kept ⟨rfl, rfl, Iff.rfl, id, by simp [hmode],
        fun _ => .inr ⟨hactive, hmode⟩, by simp [hmode]⟩ rfl
  | trySetLobbyMode _ hmode =>
      exact h.kept ⟨rfl, rfl, Iff.rfl, id, by simp [hmode], nofun, by simp [hmode]⟩ rfl
  | visit owner i ht =>
      cases owner with
      | lobby =>
          exact h.goFrom ht
            ⟨⟨nofun, fun _ => trivial, nofun, nofun, fun _ => nofun, nofun, fun _ => nofun⟩,
              fun _ => nofun⟩ trivial
      | room =>
          exact h.goFrom ht
            ⟨⟨nofun, nofun, nofun, nofun, fun _ => nofun, nofun, fun _ => nofun⟩,
              fun _ => nofun⟩ trivial
  | notStarted ht =>
      exact h.goFrom ht ⟨passes_back id fun _ => id, fun i hi => absurd hi (not_owns_back _ i)⟩
        (facts_back _)
  | started ht hfree =>
      exact h.take ht hfree ⟨nofun, id, nofun, nofun, fun _ => nofun, nofun, fun _ => nofun⟩
        (fun _ ho => Eq.symm ho) id trivial
  | modeChecked ht hmode => exact h.modeChecked ht hmode
  | modeRefused ht =>
      exact h.goFrom ht ⟨passes_complete id fun _ => id, fun _ => id⟩ trivial
  | lifeChecked ht =>
      have hfacts := facts_at h ht
      exact h.goFrom ht ⟨⟨nofun, id, nofun, nofun, fun _ => id, nofun, fun _ => nofun⟩,
        fun _ => id⟩ hfacts
  | lifeRefused ht =>
      exact h.goFrom ht ⟨passes_complete id fun _ => id, fun _ => id⟩ trivial
  | loginResult _ ht =>
      have hfacts := facts_at h ht
      exact h.goFrom ht ⟨⟨nofun, id, nofun, nofun, fun _ => id, nofun, fun _ => nofun⟩,
        fun _ => id⟩ hfacts
  | processed ht =>
      exact h.goFrom ht ⟨passes_complete id fun _ => id, fun _ => id⟩ trivial
  | completed ht =>
      exact h.giveBack ht rfl (passes_back id fun _ => id) (not_owns_back _) (not_locks_back _)
        (facts_back _)
  | locked ht hfree => exact h.locked ht hfree
  | found ht =>
      have hfacts := facts_at h ht
      exact h.goFrom ht ⟨passes_addPlayer fun _ => nofun, fun _ => id⟩ hfacts
  | notFound ht hnone =>
      obtain ⟨hholds, hunchanged⟩ := facts_at h ht
      exact h.goFrom ht ⟨passes_addPlayer fun _ => nofun, fun _ => id⟩
        ⟨hholds, hunchanged, hnone⟩
  | applied ht hmode => exact h.applied ht hmode
  | notApplied ht =>
      obtain ⟨hholds, hunchanged, _⟩ := facts_at h ht
      exact h.goFrom ht ⟨passes_addPlayer fun _ => nofun, fun _ => id⟩ ⟨hholds, hunchanged⟩
  | keyRead ht =>
      obtain ⟨hholds, hentering⟩ := facts_at h ht
      exact h.goFrom ht ⟨passes_addPlayer fun _ => id, fun _ => id⟩ ⟨hholds, hentering, rfl⟩
  | inserted ht => exact h.inserted ht
  | unlocked ht => exact h.unlocked ht
  | otherStart owner _ ht hfree =>
      cases owner with
      | lobby =>
          exact h.take ht hfree ⟨fun _ => trivial, nofun, nofun, nofun,
            fun _ => nofun, nofun, fun _ => nofun⟩ (fun _ ho => Eq.symm ho) id trivial
      | room =>
          exact h.take ht hfree ⟨nofun, nofun, nofun, nofun, fun _ => nofun, nofun, fun _ => nofun⟩
            (fun _ ho => Eq.symm ho) id trivial
  | otherComplete ht =>
      exact h.giveBack ht rfl passes_outside (not_owns_outside _) (not_locks_outside _)
        (facts_outside _)
  | finalize _ ht =>
      exact h.goFrom ht ⟨⟨id, nofun, nofun, nofun, fun _ => nofun, nofun, fun _ => nofun⟩,
        fun _ => nofun⟩ trivial
  | sessionFound ht | disconnecting ht =>
      exact h.goFrom ht ⟨passes_finalize nofun, fun _ => nofun⟩ trivial
  | sessionNotFound ht | notDisconnecting ht | finalizeNotStarted ht | notFinalized ht =>
      exact h.goFrom ht ⟨passes_lifecycle trivial fun _ => id, fun _ => nofun⟩ trivial
  | finalizeStarted ht hfree =>
      exact h.take ht hfree (passes_finalize nofun) (fun _ ho => Eq.symm ho) nofun trivial
  | keyMatched ht hmatches =>
      obtain ⟨hlife, hid⟩ := hmatches
      refine h.goFrom ht ⟨passes_finalize nofun, fun _ => id⟩ ⟨?_, .inl hid⟩
      rw [← hid]
      exact (h.tables.slots _).issued fun hzero => hlife ((h.tables.slots _).free.2 hzero)
  | lifeRechecked ht hlife =>
      have hfound : s.Found _ := facts_at h ht
      exact h.goFrom ht ⟨passes_finalize nofun, fun _ => id⟩
        ⟨hfound.known, hfound.slot.imp_left fun hid => ⟨hid, hlife⟩⟩
  | currentKeyRead ht =>
      exact h.goFrom ht ⟨passes_finalize nofun, fun _ => id⟩
        (h.tables.current_of_late (facts_at h ht))
  | notInRoom ht hmode =>
      exact h.goFrom ht ⟨passes_finalize nofun, fun _ => id⟩
        ⟨facts_at h ht, fun _ _ => hmode⟩
  | dbInfoRead ht =>
      obtain ⟨hcurrent, hnot⟩ := facts_at h ht
      exact h.goFrom ht ⟨passes_finalize nofun, fun _ => id⟩
        ⟨hcurrent, hnot, hcurrent.account⟩
  | keyNotMatched ht | lifeNotRechecked ht | inRoom ht =>
      exact h.goFrom ht ⟨passes_finalize nofun, fun _ => id⟩ trivial
  | playerRemoved ht hfree => exact h.playerRemoved ht hfree
  | tasksCompleted ht => exact h.tasksCompleted ht
  | finalized ht hlife hid => exact h.finalized ht hlife hid
  | gaveUp ht =>
      exact h.giveBack ht rfl (passes_lifecycle trivial fun _ => id) (fun _ => nofun) nofun trivial

end ActivePlayers

end ProjectTetris

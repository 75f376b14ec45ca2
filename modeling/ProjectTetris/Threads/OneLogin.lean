import ProjectTetris.Threads.LoginSteps

/-!
# One login for each account

An account's entry among the active players and the session that is logged in with it
come and go together, however often the account logs in and whichever sessions are
finalized meanwhile.
-/

namespace ProjectTetris

open Guard Transition

namespace ActivePlayers

variable {s s' : ActivePlayers} {threadCount t : Nat} {thread : LoginThread}

theorem start_ok (threadCount : Nat) : LoginOk threadCount (start threadCount) := by
  have hthreads : ∀ {P : LoginThread → Prop}, ¬ P .available → ¬ P .idle →
      ∀ t, ¬ P ((start threadCount).threads t) := by
    intro P havailable hidle t
    show ¬ P (if t < threadCount then .available else .idle)
    split
    · exact havailable
    · exact hidle
  refine ⟨⟨Barrier.counted_none _, fun t ht => ?_, fun t ht => ?_, fun t ht => ?_⟩,
    ⟨fun i => ?_, ?_⟩, ?_, fun t => ?_, fun t t' i key current hholds => ?_⟩
  · exact absurd ht (hthreads (P := LoginThread.InLifecycle) id id t)
  · exact absurd ht (hthreads (P := LoginThread.InSessions) id id t)
  · exact absurd ht (hthreads (P := fun thread => thread = .arrived) nofun nofun t)
  · exact guarded_initial (hthreads (P := LoginThread.Owns i) id id)
  · exact guarded_initial (hthreads (P := LoginThread.Locks) id id)
  · exact ⟨fun i => ⟨⟨fun _ => rfl, fun _ => rfl⟩,
      fun _ => ⟨rfl, rfl⟩, fun _ => rfl, fun hne => absurd rfl hne⟩, nofun, nofun, fun _ hpos => by
        have hpos : (0 : Int) ≤ -1 := hpos
        omega, fun _ _ => nofun, fun _ => nofun, nofun⟩
  · show Facts _ (if t < threadCount then .available else .idle)
    split <;> trivial
  · exact absurd hholds (hthreads (P := LoginThread.Holds i) id id t)

theorem reachable_ok (h : (system threadCount).Reachable s) : LoginOk threadCount s := by
  refine invariant (I := LoginOk threadCount) (fun s hs => ?_)
    (fun _ _ hok hnext => hok.next hnext) h
  rw [show s = start threadCount from hs]
  exact start_ok threadCount

/-! ## What holds of the players -/

/-- The thread whose session has logged in and is not entered yet. -/
theorem LoginOk.entering (h : LoginOk threadCount s) {i : Int} (henters : (s.threads t).Enters i) :
    (s.threads t).Locks ∧ s.activePlayers (s.sessions i).playerId = none := by
  have hfacts := h.facts t
  revert hfacts henters
  cases hthread : s.threads t with
  | addPlayer call step =>
      cases step with
      | getSessionKey =>
          intro (hi : call.index = i) ⟨_, (hentering : s.Entering call)⟩
          refine ⟨trivial, ?_⟩
          rw [← hi, hentering.playerId]
          exact hentering.free
      | insert key =>
          intro (hi : call.index = i) ⟨_, (hentering : s.Entering call), _⟩
          refine ⟨trivial, ?_⟩
          rw [← hi, hentering.playerId]
          exact hentering.free
      | find | applyLoginResult | unlock => exact nofun
  | available | lifecycle | arrived | sessions | stopped | idle | start | checkMode | checkLife
  | process | lock
  | complete | other | finalize => exact nofun

theorem enters_inj {thread : LoginThread} {i j : Int} (hi : thread.Enters i)
    (hj : thread.Enters j) : i = j := by
  cases thread with
  | addPlayer call step =>
      cases step with
      | getSessionKey | insert => exact Eq.trans (Eq.symm hi) hj
      | find | applyLoginResult | unlock => exact absurd hi id
  | _ => exact absurd hi id

/-- An active session that has logged in is entered, or just about to be. -/
theorem LoginOk.active_entered (h : LoginOk threadCount s) {i : Int}
    (hactive : (s.sessions i).lifeState = .active) (hpos : 0 ≤ (s.sessions i).playerId) :
    s.activePlayers (s.sessions i).playerId = some (s.sessionKey i) ∨
    ∃ t, (s.threads t).Enters i := by
  rcases h.tables.entered i hpos with hthere | hgone | henters
  · exact .inl hthere
  · have hlife := h.tables.closing i hpos hgone
    rw [hactive] at hlife
    cases hlife
  · exact .inr henters

theorem LoginOk.one_login (h : LoginOk threadCount s) {i j : Int}
    (hi : (s.sessions i).lifeState = .active) (hj : (s.sessions j).lifeState = .active)
    (hpos : 0 ≤ (s.sessions i).playerId)
    (hsame : (s.sessions i).playerId = (s.sessions j).playerId) : i = j := by
  rcases h.active_entered hi hpos with hin | ⟨t, ht⟩ <;>
    rcases h.active_entered hj (hsame ▸ hpos) with hjn | ⟨t', ht'⟩
  · rw [hsame, hjn] at hin
    exact (congrArg SessionKey.sessionIndex (Option.some.inj hin)).symm
  · rw [hsame, (h.entering ht').2] at hin
    cases hin
  · rw [← hsame, (h.entering ht).2] at hjn
    cases hjn
  · obtain rfl := h.flags.mutex.alone t t' (h.entering ht).1 (h.entering ht').1
    exact enters_inj ht ht'

/-- While nobody is in `AddPlayer`, the players are the sessions that have logged in. -/
theorem LoginOk.listed_iff (h : LoginOk threadCount s) (hfree : s.isLocked = false) {id : Int}
    {key : SessionKey} (hpos : 0 ≤ id) : s.activePlayers id = some key ↔
      s.sessionKey key.sessionIndex = key ∧ key.playerId = id ∧ key ∉ s.removed := by
  constructor
  · intro hlisted
    obtain ⟨hplayer, hthere, hnot⟩ := h.tables.listed id key hpos hlisted
    exact ⟨hthere, hplayer, hnot⟩
  · rintro ⟨hthere, hplayer, hnot⟩
    have hpid : (s.sessions key.sessionIndex).playerId = id :=
      (congrArg SessionKey.playerId hthere).trans hplayer
    have hentered := h.tables.entered key.sessionIndex (by rw [hpid]; exact hpos)
    rw [hthere, hpid] at hentered
    rcases hentered with hin | hgone | ⟨t, ht⟩
    · exact hin
    · exact absurd hgone hnot
    · have hflag := h.flags.mutex.flagged t (h.entering ht).1
      rw [hfree] at hflag
      cases hflag

/--
**One live login for each account**, in every run of the lobby's and the rooms' threads.

No account is logged in twice; outside `AddPlayer` the active players are exactly the sessions
that have logged in and have not been removed; an `AddPlayer` that fails has changed nothing; and
`FinalizeDisconnect` deletes an entry of the session it was called for, and no other.
-/
theorem oneLogin (h : (system threadCount).Reachable s) :
    (∀ i j, (s.sessions i).lifeState = .active → (s.sessions j).lifeState = .active →
      0 ≤ (s.sessions i).playerId → (s.sessions i).playerId = (s.sessions j).playerId → i = j) ∧
    (s.isLocked = false → ∀ id key, 0 ≤ id → (s.activePlayers id = some key ↔
      s.sessionKey key.sessionIndex = key ∧ key.playerId = id ∧ key ∉ s.removed)) ∧
    (∀ t call, s.threads t = .addPlayer call (.unlock false) →
      s.activePlayers = call.playersBefore ∧ s.sessionKey call.index = call.keyBefore) ∧
    ∀ t key current playerId, s.threads t = .finalize key (.removePlayer current playerId) →
      ∀ id key', 0 ≤ id → s.activePlayers id = some key' →
        (s.removePlayer playerId current).activePlayers id ≠ some key' →
          key'.sessionIndex = key.sessionIndex ∧ key'.sessionId = key.sessionId := by
  have hok := reachable_ok h
  refine ⟨fun i j hi hj hpos hsame => hok.one_login hi hj hpos hsame,
    fun hfree id key hpos => hok.listed_iff hfree hpos, fun t call ht => (facts_at hok ht).2, ?_⟩
  intro t key current playerId ht id key' hpos hlisted hdeleted
  obtain ⟨hcurrent, _, _⟩ := facts_at hok ht
  obtain ⟨hplayer, _, _⟩ := hok.tables.listed id key' hpos hlisted
  rw [ne_eq, removePlayer_iff, not_and_not_right] at hdeleted
  obtain ⟨_, rfl⟩ := hdeleted hlisted
  refine ⟨hcurrent.index, hcurrent.whose.resolve_right fun hw => ?_⟩
  have hminus := hw.1
  omega

/-- Somebody connects and logs in as player 5. -/
theorem oneLogin_entered : ∃ s, (system 1).Reachable s ∧ s.activePlayers 5 = some ⟨0, 5, 7⟩ ∧
    s.sessionKey 0 = ⟨0, 5, 7⟩ ∧ (⟨0, 5, 7⟩ : SessionKey) ∉ s.removed := by
  have h₀ : (system 1).Reachable (start 1) := .start rfl
  have h₁ := h₀.next (@Next.accept 1 _ 0 7 (by decide) rfl (by decide) List.not_mem_nil)
  have h₂ := h₁.next (Next.startLobbyPhase _ rfl fun _ ht => if_pos ht)
  have h₃ := h₂.next (@Next.arrive 1 _ 0 rfl)
  have h₄ := h₃.next (@Next.pass 1 _ 0 rfl (Nat.le_refl 1))
  have h₅ := h₄.next (@Next.visit 1 _ 0 .lobby 0 rfl)
  have h₆ := h₅.next (@Next.started 1 _ 0 .lobby 0 rfl rfl)
  have h₇ := h₆.next (@Next.modeChecked 1 _ 0 .lobby 0 rfl (.inl rfl))
  have h₈ := h₇.next (@Next.lifeChecked 1 _ 0 .lobby 0 rfl rfl)
  have h₉ := h₈.next (@Next.loginResult 1 _ 0 .lobby 0 5 rfl)
  have h₁₀ := h₉.next (@Next.locked 1 _ 0 .lobby 0 5 rfl rfl)
  have h₁₁ := h₁₀.next (@Next.notFound 1 _ 0 _ rfl rfl)
  have h₁₂ := h₁₁.next (@Next.applied 1 _ 0 _ rfl rfl rfl)
  have h₁₃ := h₁₂.next (@Next.keyRead 1 _ 0 _ rfl)
  have h₁₄ := h₁₃.next (@Next.inserted 1 _ 0 _ _ rfl)
  have h₁₅ := h₁₄.next (@Next.unlocked 1 _ 0 _ _ rfl)
  obtain ⟨hthere, _, hnot⟩ := ((oneLogin h₁₅).2.1 rfl 5 ⟨0, 5, 7⟩ (by decide)).mp rfl
  exact ⟨_, h₁₅, rfl, hthere, hnot⟩

end ActivePlayers

end ProjectTetris

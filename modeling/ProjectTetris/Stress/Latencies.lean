import Mathlib.Data.List.Forall2
import ProjectTetris.Stress.TestManager

/-!
# When the samples are true

The times waiting are always the last ones sent, in the order they were sent, and no two
are the same. So a sample is right exactly when the packet that took it answers the oldest
move waiting, and a run measures what it says exactly when every packet it handles does.
-/

namespace ProjectTetris

open List (Forall₂)

theorem forall₂_concat_iff {α β : Type} {R : α → β → Prop} {l₁ : List α} {l₂ : List β} {a : α}
    {b : β} :
    Forall₂ R (l₁ ++ [a]) (l₂ ++ [b]) ↔ Forall₂ R l₁ l₂ ∧ R a b := by
  rw [← List.forall₂_reverse_iff, List.reverse_append, List.reverse_append]
  simp [and_comm, List.forall₂_reverse_iff]

/-- Two relations that agree where a third one holds. -/
theorem forall₂_congr_of {α β : Type} {R S H : α → β → Prop} (hRS : ∀ a b, H a b → (R a b ↔ S a b))
    {l₁ : List α} {l₂ : List β} (h : Forall₂ H l₁ l₂) : Forall₂ R l₁ l₂ ↔ Forall₂ S l₁ l₂ := by
  induction h with
  | nil => simp
  | cons hab _ ih => rw [List.forall₂_cons, List.forall₂_cons, hRS _ _ hab, ih]

theorem moveTimeQueueSize_dvd : moveTimeQueueSize ∣ 2 ^ 32 := ⟨2 ^ 26, by decide⟩

theorem zero_lt_boardWidth : 0 < boardWidth := by decide

theorem moveTimeQueueSize_lt : moveTimeQueueSize < 2 ^ 32 := by decide

/-! ## What one call does -/

namespace StressSession

/-- A turn of `ProcessSend` sends nothing, or a move at this time, later than the last one. -/
theorem processSend_cases (s : StressSession) (now : Int) :
    ((s.processSend now).2 = none ∧ (s.processSend now).1.moveSendTimes = s.moveSendTimes ∧
      (s.processSend now).1.playerId = s.playerId ∧
      ((s.processSend now).1.lastSendTime = s.lastSendTime ∨
        (s.processSend now).1.lastSendTime = now)) ∨
    (∃ moveType, (s.processSend now).2 = some moveType ∧ s.lastSendTime < now ∧
      (s.processSend now).1.lastSendTime = now ∧ (s.processSend now).1.playerId = s.playerId ∧
      s.moveSendTimes.push now = some (s.processSend now).1.moveSendTimes) := by
  unfold processSend
  split
  · exact .inl ⟨rfl, rfl, rfl, .inl rfl⟩
  · split
    · exact .inl ⟨rfl, rfl, rfl, .inl rfl⟩
    next hdue =>
      have hlater : s.lastSendTime < now := by
        simp only [moveIntervalMs] at hdue
        omega
      unfold sendMove pushMoveSendTime
      cases hpush : s.moveSendTimes.push now with
      | none =>
          exact .inl ⟨rfl, rfl, rfl, .inr rfl⟩
      | some times =>
          exact .inr ⟨s.nextMoveType, rfl, hlater, rfl, rfl, rfl⟩

/-- A packet that is no move of the player leaves the times and the samples alone. -/
theorem handlePacket_other (s : StressSession) (r : LatencyRecorder) (now : Int)
    {packet : S2CPacket} (h : StressRun.isOther s.playerId packet = true) :
    (s.handlePacket r now packet).1.moveSendTimes = s.moveSendTimes ∧
    (s.handlePacket r now packet).1.playerId = s.playerId ∧
    ((s.handlePacket r now packet).1.lastSendTime = s.lastSendTime ∨
      (s.handlePacket r now packet).1.lastSendTime = now) ∧
      (s.handlePacket r now packet).2 = r := by
  unfold handlePacket
  cases packet with
  | multiStart => by_cases hplay : s.state = .playing <;> simp [hplay]
  | gameEnd id => by_cases hplay : s.state = .playing <;> simp [hplay]
  | move id moveType =>
      have hid : id ≠ s.playerId := by simpa [StressRun.isOther] using h
      simp [hid]
  | _ => exact ⟨rfl, rfl, .inl rfl, rfl⟩

/-- A move of the player takes the oldest time, if there is one. -/
theorem handlePacket_move (s : StressSession) (r : LatencyRecorder) (now moveType : Int) :
    s.handlePacket r now (.move s.playerId moveType) =
      match s.moveSendTimes.pop with
      | none => (s, r)
      | some (sendTime, times) =>
          ({ s with moveSendTimes := times }, r.record now (now - sendTime)) := by
  simp only [handlePacket, popMoveSendTime, ne_eq, not_true_eq_false, if_false]
  cases s.moveSendTimes.pop <;> rfl

end StressSession

namespace LatencyRecorder

theorem tryStart_samples (r : LatencyRecorder) (now : Int) :
    (r.tryStart now).latencySamples = r.latencySamples := by
  unfold tryStart
  split <;> rfl

theorem tryFinish_samples (r : LatencyRecorder) (now : Int) :
    (r.tryFinish now).latencySamples = r.latencySamples := by
  unfold tryFinish
  split <;> rfl

end LatencyRecorder

/-! ## The invariant -/

namespace StressRun

structure Inv (s : StressRun) : Prop where
  times : ∃ popped, s.client.moveSendTimes.Holds s.sends popped
  sorted : s.sends.Pairwise (· < ·)
  sent : ∀ t ∈ s.sends, t ≤ s.client.lastSendTime ∧ t ≤ s.clock
  /-- A sample is the time since some move or other. -/
  hit : Forall₂ (fun sample m => ∃ t ∈ s.sends, sample = m.receivedAt - t)
    s.recorder.latencySamples s.measured

theorem start_inv (playerId : Int) (left : Nat → Int) (engine : Tetris) (now : Int) :
    (start playerId left engine now).Inv where
  times := ⟨0, WordRing.holds_emptyOf left⟩
  sorted := .nil
  sent := nofun
  hit := .nil

/-- The client's books are the same; the clock may have gone on. -/
structure SameBooks (s s' : StressRun) : Prop where
  times : s'.client.moveSendTimes = s.client.moveSendTimes
  sends : s'.sends = s.sends
  last : s'.client.lastSendTime = s.client.lastSendTime ∨ s.clock ≤ s'.client.lastSendTime
  clock : s.clock ≤ s'.clock
  samples : s'.recorder.latencySamples = s.recorder.latencySamples
  measured : s'.measured = s.measured

variable {s s' : StressRun}

theorem SameBooks.inv (hb : SameBooks s s') (h : s.Inv) : s'.Inv where
  times := by
    rw [hb.times, hb.sends]
    exact h.times
  sorted := by
    rw [hb.sends]
    exact h.sorted
  sent := by
    intro t ht
    rw [hb.sends] at ht
    obtain ⟨hlast, hclock⟩ := h.sent t ht
    have hle := hb.clock
    rcases hb.last with heq | hge <;> omega
  hit := by
    rw [hb.sends, hb.samples, hb.measured]
    exact h.hit

theorem SameBooks.trueLatencies (hb : SameBooks s s') : s'.TrueLatencies ↔ s.TrueLatencies := by
  unfold TrueLatencies
  rw [hb.sends, hb.samples, hb.measured]

/-- The oldest time in the queue is that of the move `oldest` names. -/
theorem oldest_eq {popped : Nat} (h : s.client.moveSendTimes.Holds s.sends popped) :
    s.oldest = popped := by
  have hwaiting : s.client.waiting = s.sends.length - popped := h.waiting moveTimeQueueSize_lt
  have hle := h.le
  unfold oldest
  omega

/-- A move sent later is not what an earlier sample could have meant. -/
theorem isTrue_append {sends : List Int} {now sample : Int} {m : Measured}
    (hnew : ∀ t ∈ sends, t < now) (hhit : ∃ t ∈ sends, sample = m.receivedAt - t) :
    IsTrue (sends ++ [now]) sample m ↔ IsTrue sends sample m := by
  obtain ⟨t, ht, hsample⟩ := hhit
  constructor
  · rintro ⟨k, hk, sendTime, hget, heq⟩
    refine ⟨k, hk, sendTime, ?_, heq⟩
    have hsame : sendTime = t := by omega
    have hlt : k < sends.length := by
      have hbound := (List.getElem?_eq_some_iff.mp hget).1
      rw [List.length_append, List.length_singleton] at hbound
      by_contra hge
      have hlast : k = sends.length := by omega
      rw [hlast, List.getElem?_concat_length] at hget
      have hnow : now = sendTime := Option.some.inj hget
      have hbefore := hnew t ht
      omega
    rwa [List.getElem?_append_left hlt] at hget
  · rintro ⟨k, hk, sendTime, hget, heq⟩
    have hlt := (List.getElem?_eq_some_iff.mp hget).1
    exact ⟨k, hk, sendTime, by rwa [List.getElem?_append_left hlt], heq⟩

/-- The time popped is that of one move only. -/
theorem isTrue_iff_mem {sends : List Int} {popped : Nat} {sendTime now : Int} {causes : List Nat}
    (hsorted : sends.Pairwise (· < ·)) (hget : sends[popped]? = some sendTime) :
    IsTrue sends (now - sendTime) ⟨now, causes⟩ ↔ popped ∈ causes := by
  constructor
  · rintro ⟨k, hk, t, hk', heq⟩
    have hsame : sendTime = t := by
      have : now - sendTime = now - t := heq
      omega
    have hnodup : sends.Nodup := hsorted.imp fun h => Int.ne_of_lt h
    have hlt := (List.getElem?_eq_some_iff.mp hget).1
    have hidx : popped = k := (List.getElem?_inj hlt hnodup).mp (by rw [hget, hk', hsame])
    rwa [hidx]
  · intro hmem
    exact ⟨popped, hmem, sendTime, hget, rfl⟩

/-! ## One step -/

section Steps

variable {now : Int}

theorem processSend_step (h : s.Inv) (hstep : step (.processSend now) s = some s') :
    s'.Inv ∧ (s'.TrueLatencies ↔ s.TrueLatencies) := by
  simp only [step] at hstep
  split at hstep
  next => cases hstep
  next hclock =>
    have hclock : s.clock ≤ now := Int.not_lt.mp hclock
    rcases StressSession.processSend_cases s.client now with ⟨hout, htimes, hid, hlast⟩ |
        ⟨moveType, hout, hlater, hlast, hid, hpush⟩
    · rw [show s.client.processSend now = ((s.client.processSend now).1, none)
        from Prod.ext rfl hout] at hstep
      cases hstep
      have hb : SameBooks s { s with client := (s.client.processSend now).1, clock := now } :=
        ⟨htimes, rfl, hlast.imp id fun heq => hclock.trans_eq heq.symm, hclock, rfl, rfl⟩
      exact ⟨hb.inv h, hb.trueLatencies⟩
    · rw [show s.client.processSend now = ((s.client.processSend now).1, some moveType)
        from Prod.ext rfl hout] at hstep
      cases hstep
      have hnew : ∀ t ∈ s.sends, t < now := fun t ht => Int.lt_of_le_of_lt (h.sent t ht).1 hlater
      refine ⟨⟨?_, ?_, ?_, ?_⟩, ?_⟩
      · obtain ⟨popped, hholds⟩ := h.times
        exact ⟨popped, hholds.push moveTimeQueueSize_dvd moveTimeQueueSize_lt hpush⟩
      · exact List.pairwise_append.mpr ⟨h.sorted, List.pairwise_singleton .., fun t ht t' ht' => by
          rw [List.mem_singleton.mp ht']
          exact hnew t ht⟩
      · intro t ht
        show t ≤ (s.client.processSend now).1.lastSendTime ∧ t ≤ now
        rw [hlast]
        rcases List.mem_append.mp ht with hold | hnow
        · have := hnew t hold
          omega
        · rw [List.mem_singleton.mp hnow]
          exact ⟨Int.le_refl _, Int.le_refl _⟩
      · refine h.hit.imp fun sample m hhit => ?_
        obtain ⟨t, ht, heq⟩ := hhit
        exact ⟨t, List.mem_append_left _ ht, heq⟩
      · exact forall₂_congr_of (fun _ _ hhit => isTrue_append hnew hhit) h.hit

/-- What `receive` leaves, whatever the packet is. -/
theorem receive_eq {answer : Answer} {rest : List Answer} (hqueue : s.toClient = answer :: rest)
    (hstep : step (.receive now) s = some s') :
    s.clock ≤ now ∧ s' = { s with
      client := (s.client.handlePacket s.recorder now answer.packet).1
      recorder := (s.client.handlePacket s.recorder now answer.packet).2
      clock := now
      toClient := rest
      measured :=
        if (s.client.handlePacket s.recorder now answer.packet).2.latencySamples.length =
            s.recorder.latencySamples.length then s.measured
        else s.measured ++ [⟨now, answer.causes⟩] } := by
  simp only [step, hqueue] at hstep
  split at hstep
  next => cases hstep
  next hclock => exact ⟨Int.not_lt.mp hclock, (Option.some.inj hstep).symm⟩

theorem answersOldest_other {answer : Answer} {rest : List Answer}
    (hqueue : s.toClient = answer :: rest)
    (hother : isOther s.client.playerId answer.packet = true) :
    s.AnswersOldest (.receive now) := by
  obtain ⟨packet, causes⟩ := answer
  simp only [AnswersOldest, hqueue]
  cases packet with
  | move id moveType =>
      have hid : id ≠ s.client.playerId := by simpa [isOther] using hother
      exact fun heq => absurd heq hid
  | _ => trivial

theorem answersOldest_move {moveType : Int} {causes : List Nat} {rest : List Answer}
    (hqueue : s.toClient = ⟨.move s.client.playerId moveType, causes⟩ :: rest) :
    s.AnswersOldest (.receive now) ↔
      (s.client.waiting ≠ 0 → s.recorder.isMeasuring now = true → s.oldest ∈ causes) := by
  simp only [AnswersOldest, hqueue, forall_const]

theorem receiveOther_step {answer : Answer} {rest : List Answer}
    (hqueue : s.toClient = answer :: rest)
    (hother : isOther s.client.playerId answer.packet = true)
    (hstep : step (.receive now) s = some s') :
    SameBooks s s' := by
  obtain ⟨hclock, rfl⟩ := receive_eq hqueue hstep
  obtain ⟨htimes, _, hlast, hrecorder⟩ := s.client.handlePacket_other s.recorder now hother
  exact ⟨htimes, rfl, hlast.imp id fun heq => hclock.trans_eq heq.symm, hclock,
    congrArg LatencyRecorder.latencySamples hrecorder,
    if_pos (congrArg (fun r => r.latencySamples.length) hrecorder)⟩

theorem eq_move_of_not_other {playerId : Int} {packet : S2CPacket}
    (h : ¬ isOther playerId packet = true) :
    ∃ moveType, packet = .move playerId moveType := by
  cases packet with
  | move id moveType =>
      have hid : id = playerId := by simpa [isOther] using h
      exact ⟨moveType, by rw [hid]⟩
  | _ => exact absurd rfl h

/-- Nothing is waiting: the packet is ignored. -/
theorem receiveIdle_step {moveType : Int} {causes : List Nat} {rest : List Answer}
    (hqueue : s.toClient = ⟨.move s.client.playerId moveType, causes⟩ :: rest)
    (hpop : s.client.moveSendTimes.pop = none) (hstep : step (.receive now) s = some s') :
    SameBooks s s' := by
  obtain ⟨hclock, rfl⟩ := receive_eq hqueue hstep
  have hpacket := s.client.handlePacket_move s.recorder now moveType
  simp only [hpop] at hpacket
  rw [hpacket]
  exact ⟨rfl, rfl, .inl rfl, hclock, rfl, if_pos rfl⟩

/-- A time is taken; whether a sample comes of it depends on the recorder. -/
theorem receiveMove_eq {moveType sendTime : Int} {times : MoveSendTimes} {causes : List Nat}
    {rest : List Answer} (hqueue : s.toClient = ⟨.move s.client.playerId moveType, causes⟩ :: rest)
    (hpop : s.client.moveSendTimes.pop = some (sendTime, times))
    (hstep : step (.receive now) s = some s') :
    s.clock ≤ now ∧ s'.sends = s.sends ∧ s'.client = { s.client with moveSendTimes := times } ∧
    s'.clock = now ∧
    if s.recorder.isMeasuring now = true then
      s'.recorder.latencySamples = s.recorder.latencySamples ++ [now - sendTime] ∧
      s'.measured = s.measured ++ [⟨now, causes⟩]
    else s'.recorder.latencySamples = s.recorder.latencySamples ∧ s'.measured = s.measured := by
  obtain ⟨hclock, rfl⟩ := receive_eq hqueue hstep
  have hpacket := s.client.handlePacket_move s.recorder now moveType
  simp only [hpop] at hpacket
  rw [hpacket]
  refine ⟨hclock, rfl, rfl, rfl, ?_⟩
  cases hmeasuring : s.recorder.isMeasuring now <;> simp [LatencyRecorder.record, hmeasuring]

theorem receiveMove_step {moveType sendTime : Int} {times : MoveSendTimes} {causes : List Nat}
    {rest : List Answer} (h : s.Inv)
    (hqueue : s.toClient = ⟨.move s.client.playerId moveType, causes⟩ :: rest)
    (hpop : s.client.moveSendTimes.pop = some (sendTime, times))
    (hstep : step (.receive now) s = some s') :
    s'.Inv ∧ (s'.TrueLatencies ↔ s.TrueLatencies ∧
      (s.recorder.isMeasuring now = true → s.oldest ∈ causes)) := by
  obtain ⟨hclock, hsends, hclient, hnow, hsamples⟩ := receiveMove_eq hqueue hpop hstep
  obtain ⟨popped, hholds⟩ := h.times
  obtain ⟨hget, hrest⟩ := hholds.pop moveTimeQueueSize_dvd moveTimeQueueSize_lt hpop
  have htimes : ∃ popped, s'.client.moveSendTimes.Holds s'.sends popped := by
    rw [hsends, hclient]
    exact ⟨popped + 1, hrest⟩
  have hsorted : s'.sends.Pairwise (· < ·) := hsends ▸ h.sorted
  have hsent : ∀ t ∈ s'.sends, t ≤ s'.client.lastSendTime ∧ t ≤ s'.clock := by
    intro t ht
    rw [hsends] at ht
    obtain ⟨hlast, hle⟩ := h.sent t ht
    rw [hclient, hnow]
    exact ⟨hlast, hle.trans hclock⟩
  split at hsamples
  next hmeasuring =>
    obtain ⟨hnew, hmeasured⟩ := hsamples
    refine ⟨⟨htimes, hsorted, hsent, ?_⟩, ?_⟩
    · rw [hnew, hmeasured, hsends, forall₂_concat_iff]
      exact ⟨h.hit, sendTime, List.mem_of_getElem? hget, rfl⟩
    · unfold TrueLatencies
      rw [hnew, hmeasured, hsends, forall₂_concat_iff, isTrue_iff_mem h.sorted hget,
        oldest_eq hholds]
      simp only [hmeasuring, forall_const]
  next hmeasuring =>
    obtain ⟨hsame, hmeasured⟩ := hsamples
    refine ⟨⟨htimes, hsorted, hsent, ?_⟩, ?_⟩
    · rw [hsame, hmeasured, hsends]
      exact h.hit
    · unfold TrueLatencies
      rw [hsame, hmeasured, hsends]
      exact (and_iff_left fun hyes => absurd hyes hmeasuring).symm

theorem receive_step (h : s.Inv) (hstep : step (.receive now) s = some s') :
    s'.Inv ∧ (s'.TrueLatencies ↔ s.TrueLatencies ∧ s.AnswersOldest (.receive now)) := by
  cases hqueue : s.toClient with
  | nil => simp [step, hqueue] at hstep
  | cons answer rest =>
      by_cases hother : isOther s.client.playerId answer.packet = true
      · have hb := receiveOther_step hqueue hother hstep
        exact ⟨hb.inv h,
          hb.trueLatencies.trans (and_iff_left (answersOldest_other hqueue hother)).symm⟩
      · obtain ⟨moveType, hpacket⟩ := eq_move_of_not_other hother
        obtain ⟨packet, causes⟩ := answer
        have hpacket : packet = .move s.client.playerId moveType := hpacket
        subst hpacket
        rw [answersOldest_move hqueue]
        obtain ⟨popped, hholds⟩ := h.times
        cases hpop : s.client.moveSendTimes.pop with
        | none =>
            have hb := receiveIdle_step hqueue hpop hstep
            have hzero : s.client.waiting = 0 := WordRing.waiting_of_pop_none hpop
            exact ⟨hb.inv h,
              hb.trueLatencies.trans (and_iff_left fun hne => absurd hzero hne).symm⟩
        | some taken =>
            have hne : s.client.waiting ≠ 0 := hholds.waiting_of_pop_some moveTimeQueueSize_lt hpop
            obtain ⟨hinv, hiff⟩ := receiveMove_step h hqueue hpop hstep
            exact ⟨hinv, hiff.trans (by simp only [ne_eq, hne, not_false_eq_true, forall_const])⟩

/-- **One step**: it keeps the books, and the samples stay true if it is in order. -/
theorem step_truthful {a : StressAction} (h : s.Inv) (hstep : step a s = some s') :
    s'.Inv ∧ (s'.TrueLatencies ↔ s.TrueLatencies ∧ s.AnswersOldest a) := by
  have hsame : ∀ {a : StressAction}, s.AnswersOldest a → SameBooks s s' →
      s'.Inv ∧ (s'.TrueLatencies ↔ s.TrueLatencies ∧ s.AnswersOldest a) := fun hfree hb =>
    ⟨hb.inv h, hb.trueLatencies.trans (and_iff_left hfree).symm⟩
  cases a with
  | processSend now =>
      obtain ⟨hinv, hiff⟩ := processSend_step h hstep
      exact ⟨hinv, hiff.trans (and_iff_left trivial).symm⟩
  | receive now => exact receive_step h hstep
  | playerInput =>
      simp only [step] at hstep
      split at hstep
      next => cases hstep
      next =>
        cases hstep
        exact hsame trivial ⟨rfl, rfl, .inl rfl, Int.le_refl _, rfl, rfl⟩
  | reject =>
      simp only [step] at hstep
      split at hstep
      next => cases hstep
      next =>
        cases hstep
        exact hsame trivial ⟨rfl, rfl, .inl rfl, Int.le_refl _, rfl, rfl⟩
  | tick tickTimeMs lines holes spawn =>
      obtain ⟨r, _, rfl⟩ := Option.map_eq_some_iff.mp hstep
      exact hsame trivial ⟨rfl, rfl, .inl rfl, Int.le_refl _, rfl, rfl⟩
  | startGame now type =>
      cases hstep
      exact hsame trivial ⟨rfl, rfl, .inl rfl, Int.le_refl _, rfl, rfl⟩
  | sendOther packet =>
      simp only [step] at hstep
      split at hstep
      next =>
        cases hstep
        exact hsame trivial ⟨rfl, rfl, .inl rfl, Int.le_refl _, rfl, rfl⟩
      next => cases hstep
  | tryStart now =>
      simp only [step] at hstep
      split at hstep
      next => cases hstep
      next hclock =>
        cases hstep
        exact hsame trivial ⟨rfl, rfl, .inl rfl, Int.not_lt.mp hclock,
          s.recorder.tryStart_samples now, rfl⟩
  | tryFinish now =>
      simp only [step] at hstep
      split at hstep
      next => cases hstep
      next hclock =>
        cases hstep
        exact hsame trivial ⟨rfl, rfl, .inl rfl, Int.not_lt.mp hclock,
          s.recorder.tryFinish_samples now, rfl⟩

end Steps

/-! ## A whole run -/

theorem run_truthful (as : List StressAction) : ∀ {s s' : StressRun}, s.Inv → run as s = some s' →
    (s'.TrueLatencies ↔ s.TrueLatencies ∧ AllInOrder as s) := by
  induction as with
  | nil =>
      intro s s' _ hrun
      cases hrun
      exact (and_iff_left trivial).symm
  | cons a as ih =>
      intro s s' h hrun
      obtain ⟨s₁, hstep, hrest⟩ := Option.bind_eq_some_iff.mp hrun
      obtain ⟨h₁, hiff⟩ := step_truthful h hstep
      have hall : AllInOrder (a :: as) s ↔ s.AnswersOldest a ∧ AllInOrder as s₁ := by
        simp only [AllInOrder, hstep, Option.some.injEq, forall_eq']
      rw [ih h₁ hrest, hiff, hall, and_assoc]

/--
**The samples of a run are true latencies exactly when every `S2C_MOVE` of the player that
takes a sample answers the oldest move waiting.**
-/
theorem latencies_true_iff {playerId : Int} {left : Nat → Int} {engine : Tetris} {now : Int}
    {as : List StressAction} {s : StressRun}
    (h : run as (start playerId left engine now) = some s) :
    s.TrueLatencies ↔ AllInOrder as (start playerId left engine now) := by
  rw [run_truthful as (start_inv playerId left engine now) h]
  exact and_iff_right .nil

/-- Player 1 has just connected; his first game begins at 0, and so does the measurement. -/
def gameOf (rest : List StressAction) : Option StressRun :=
  run (.startGame 0 .I :: .sendOther .multiStart :: .receive 0 :: .tryStart 0 :: rest)
    (start 1 (fun _ => 0) (.init 0) 0)

/-- The move of time 100 is taken into the tick of time 120, whose packet arrives at 130. -/
def answeredMove : List StressAction :=
  [.processSend 100, .playerInput, .tick 120 0 (fun _ => ⟨0, zero_lt_boardWidth⟩) none,
    .receive 130]

/-- The move of time 460 is still under way when gravity moves the piece at 500. -/
def moveBeforeAutoDown : List StressAction :=
  [.processSend 460, .tick 500 0 (fun _ => ⟨0, zero_lt_boardWidth⟩) none, .receive 510]

theorem latencies_true_iff_answered :
    ∃ s, gameOf answeredMove = some s ∧ s.recorder.latencySamples = [30] ∧
    (s.TrueLatencies ↔
      AllInOrder (.startGame 0 .I :: .sendOther .multiStart :: .receive 0 :: .tryStart 0 ::
      answeredMove) (start 1 (fun _ => 0) (.init 0) 0)) := by
  have hrun : (gameOf answeredMove).map (·.recorder.latencySamples) = some [30] := by
    decide +kernel
  obtain ⟨s, hs, hsamples⟩ := Option.map_eq_some_iff.mp hrun
  exact ⟨s, hs, hsamples, latencies_true_iff hs⟩

/-- **The piece falls by itself, and the move under way is taken to be answered.** -/
theorem auto_down_measured :
    ∃ s, gameOf moveBeforeAutoDown = some s ∧ s.recorder.latencySamples = [50] ∧
    s.measured = [⟨510, []⟩] ∧ ¬ s.TrueLatencies := by
  have hrun : (gameOf moveBeforeAutoDown).map (fun s => (s.recorder.latencySamples, s.measured)) =
      some ([50], [⟨510, []⟩]) := by decide +kernel
  obtain ⟨s, hs, hbooks⟩ := Option.map_eq_some_iff.mp hrun
  have hsamples : s.recorder.latencySamples = [50] := congrArg Prod.fst hbooks
  have hmeasured : s.measured = [⟨510, []⟩] := congrArg Prod.snd hbooks
  refine ⟨s, hs, hsamples, hmeasured, fun htrue => ?_⟩
  unfold TrueLatencies at htrue
  rw [hsamples, hmeasured, List.forall₂_cons] at htrue
  obtain ⟨⟨k, hk, _⟩, _⟩ := htrue
  exact List.not_mem_nil hk

end StressRun

end ProjectTetris

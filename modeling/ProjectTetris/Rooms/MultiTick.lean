import ProjectTetris.Rooms.TickSteps

/-!
# The tick of a room for several players

`MultiRoom::ProcessGameTick` up to the moment `ResolveWinner` is asked, and what is
appended to the tasks afterwards.
-/

namespace ProjectTetris

open Checked

namespace TetrisRoom

namespace MultiRoom

/-! ## Attacks -/

theorem calculateGarbageLineCount_le (n : Nat) : calculateGarbageLineCount n ≤ 4 := by
  unfold calculateGarbageLineCount
  split <;> omega

theorem attackOf_le (r : TetrisRoom) (i : Nat) : attackOf r i ≤ 4 := by
  unfold attackOf
  split
  · split
    · exact calculateGarbageLineCount_le _
    · exact Nat.zero_le _
  · exact Nat.zero_le _

/-- The slot with up to `limit` more lines pending, if its player is in `PLAY`. -/
def Attacked (limit : Nat) (p q : Player) : Prop :=
  (∃ n ≤ limit, q = { p with tetris := p.tetris.addPendingGarbageLines n }) ∧
    (inPlay p = false → q = p)

theorem Attacked.refl (limit : Nat) (p : Player) : Attacked limit p p :=
  ⟨⟨0, Nat.zero_le _, rfl⟩, fun _ => rfl⟩

theorem attackFrom_ok (r : TetrisRoom) (i : Nat) :
    ∃ ps, attackFrom r i = { r with roomPlayers := ps } ∧
    SlotWise (Attacked 4) r.roomPlayers ps := by
  refine ⟨_, rfl, List.length_mapIdx, fun j p hp => ?_⟩
  refine ⟨_, by rw [List.getElem?_mapIdx, hp, Option.map_some], ?_⟩
  split
  · rename_i hplay
    exact ⟨⟨attackOf r i, attackOf_le r i, rfl⟩,
      fun hf => absurd (hf.symm.trans hplay.1) (by decide)⟩
  · exact .refl 4 p

/-- **Attacks only add pending lines**, at most four from each slot. -/
theorem distributeGarbageLines_ok (r : TetrisRoom) :
    ∃ ps, distributeGarbageLines r = { r with roomPlayers := ps } ∧
      SlotWise (Attacked (r.roomPlayers.length * 4)) r.roomPlayers ps := by
  have hloop : ∀ (is : List Nat) (r : TetrisRoom),
      ∃ ps, is.foldl attackFrom r = { r with roomPlayers := ps } ∧
        SlotWise (Attacked (is.length * 4)) r.roomPlayers ps := by
    intro is
    induction is with
    | nil => exact fun r => ⟨r.roomPlayers, rfl, .refl fun p _ => .refl _ p⟩
    | cons i rest ih =>
        intro r
        obtain ⟨ps, heq, hps⟩ := attackFrom_ok r i
        obtain ⟨qs, heq', hqs⟩ := ih (attackFrom r i)
        refine ⟨qs, ?_, hps.comp (by rw [heq] at hqs; exact hqs) ?_⟩
        · rw [List.foldl_cons, heq', heq]
        · rintro p q s ⟨⟨n, hn, rfl⟩, h₁⟩ ⟨⟨m, hm, rfl⟩, h₂⟩
          refine ⟨⟨n + m, by rw [List.length_cons]; omega, ?_⟩, fun ha => (h₂ ha).trans (h₁ ha)⟩
          simp [Tetris.addPendingGarbageLines, Nat.add_assoc]
  have hall := hloop (List.range r.roomPlayers.length) r
  rwa [List.length_range] at hall

/-! ## Up to the verdict -/

/-- A slot when `ResolveWinner` looks at it: ticked, and with the state of the last tick noted. -/
def Judged (t : Int) (p q : Player) : Prop :=
  Ticked t tickBudget p q ∧ (p.isActive = true → q.prevRoomPlayerState = p.roomPlayerState)

/-- **The first half of a tick never leaves a board**, and does to each slot what `Judged` says. -/
theorem beforeVerdict_ok {env : RoomEnv} {t : Int} {n : Nat} {ps₀ : List Player} {r : TetrisRoom}
    (hok : ∀ p ∈ ps₀, SlotOk True n p) (hqueued : SlotWise Queued ps₀ r.roomPlayers)
    (hseated : Seated env ps₀) (hstate : r.roomState = .play) (hcount : ps₀.length ≤ 5) :
    Ok (beforeVerdict r env t) fun r' =>
      ∃ ps, r' = { r with roomPlayers := ps } ∧ SlotWise (Judged t) ps₀ ps := by
  -- the states of the last tick
  obtain ⟨ps₁, h₁, hps₁⟩ : ∃ ps₁, updatePrevPlayerStates r env = { r with roomPlayers := ps₁ } ∧
      SlotWise (fun p q => Noted p q ∧
        (p.isActive = true → q.prevRoomPlayerState = p.roomPlayerState)) ps₀ ps₁ := by
    refine ⟨_, by rw [updatePrevPlayerStates, if_neg (fun hc => hc hstate)]; rfl, ?_⟩
    refine hqueued.thenMap fun p hp q hq hpq => ?_
    have hseat := hpq.noted.seat
    have hsome : (findSession env q).isSome = p.isActive := by
      rw [findSession_of_seat env hseat, hseated.isSome hp]
    obtain ⟨⟨prev, inputs, hrest⟩, hidle⟩ := hpq.noted
    split
    · rename_i hsession
      refine ⟨⟨⟨q.roomPlayerState, inputs, by rw [hrest]⟩, fun hf => ?_⟩, fun _ => by rw [hrest]⟩
      exact absurd (hsession.symm.trans (hsome.trans hf)) (by decide)
    · rename_i hno
      exact ⟨⟨⟨prev, inputs, hrest⟩, hidle⟩, fun ha => absurd (hsome.trans ha) hno⟩
  -- the engine
  obtain ⟨ps₂, h₂, hps₂⟩ : Ok (ps₁.mapM (processTickOf env t)) (SlotWise (fun p q =>
      (Ticked t (inputTypeCount * inputBudget) p q ∧
        (p.isActive = true → q.prevRoomPlayerState = p.roomPlayerState)) ∧
      q.tetris.pendingGarbageLineCount ≤ 1) ps₀) := by
    refine hps₁.thenMapM fun p hp q _ hpq => ?_
    refine (processTickOf_ok (t := t) (hok p hp) hpq.1 (hseated.isSome hp)).mono ?_
    rintro q' ⟨hticked, hprev, hcount⟩
    exact ⟨⟨hticked, fun ha => hprev.trans (hpq.2 ha)⟩, hcount⟩
  -- the attacks
  obtain ⟨ps₃, h₃, hps₃⟩ := distributeGarbageLines_ok { r with roomPlayers := ps₂ }
  have hattacked : SlotWise (fun p q =>
      (Ticked t (inputTypeCount * inputBudget) p q ∧
        (p.isActive = true → q.prevRoomPlayerState = p.roomPlayerState)) ∧
      q.tetris.pendingGarbageLineCount ≤ garbageLimit) ps₀ ps₃ := by
    refine hps₂.comp hps₃ ?_
    rintro p q q' ⟨⟨hticked, hprev⟩, hcount₂⟩ ⟨⟨lines, hlines, rfl⟩, hidle⟩
    have hlimit : lines ≤ 5 * 4 :=
      Nat.le_trans hlines (Nat.mul_le_mul_right 4 (Nat.le_trans (Nat.le_of_eq hps₂.1) hcount))
    refine ⟨⟨⟨by rw [hticked.rest], fun hf => ?_, fun ha => (hticked.log ha).addPending lines⟩,
      hprev⟩, ?_⟩
    · have hout : inPlay q = false := by simp [inPlay, hticked.isActive.trans hf]
      exact (hidle hout).trans (hticked.idle hf)
    · simp only [Tetris.addPendingGarbageLines, garbageLimit]
      omega
  -- the garbage
  obtain ⟨ps₄, h₄, hps₄⟩ : Ok (ps₃.mapM (addGarbageLinesTo env)) (SlotWise (Judged t) ps₀) := by
    refine hattacked.thenMapM fun p _ q _ hpq => ?_
    refine (addGarbageLinesTo_ok hpq.1.1 hpq.2).mono ?_
    rintro q' ⟨hticked, hprev⟩
    exact ⟨hticked, fun ha => hprev.trans (hpq.1.2 ha)⟩
  refine ⟨{ r with roomPlayers := ps₄ }, ?_, ps₄, rfl, hps₄⟩
  simp only [beforeVerdict, h₁, processTicks, h₂, Option.bind_eq_bind, Option.bind_some, h₃,
    TetrisRoom.addGarbageLines, h₄]

/--
Where a slot that `ResolveWinner` looks at comes from: the engine has run, and in `PLAY`
the garbage has been added behind it.
-/
theorem beforeVerdict_engine {env : RoomEnv} {t : Int} {r rv : TetrisRoom}
    (hs : Seated env r.roomPlayers) (h : beforeVerdict r env t = some rv) {i : Nat} {q : Player}
    (hq : rv.roomPlayers[i]? = some q) (ha : q.isActive = true) :
    ∃ p s, r.roomPlayers[i]? = some p ∧ p.isActive = true ∧ p.roomPlayerState = q.roomPlayerState ∧
      p.tetris.processTick t = some s ∧ (q.roomPlayerState ≠ .play → q.tetris = s) ∧
      (q.roomPlayerState = .play → ∃ lines,
        (s.addPendingGarbageLines lines).addGarbageLines (env.holes p.sessionKey) =
          some q.tetris) := by
  obtain ⟨r₁, hr₁, h⟩ := Option.bind_eq_some_iff.mp h
  obtain ⟨ps₁, hps₁, hr₁⟩ := Option.bind_eq_some_iff.mp hr₁
  cases hr₁
  obtain ⟨ps₂, heq₂, hps₂⟩ := distributeGarbageLines_ok
    { updatePrevPlayerStates r env with roomPlayers := ps₁ }
  rw [heq₂] at h
  obtain ⟨ps₃, hps₃, h⟩ := Option.bind_eq_some_iff.mp h
  cases h
  -- back through the garbage, the attacks, the engine and the notes of the last tick
  rw [getElem?_mapM hps₃] at hq
  obtain ⟨q₂, hq₂, hgarbage⟩ := Option.bind_eq_some_iff.mp hq
  obtain ⟨q₁, hq₁, ⟨lines, _, hlines⟩, hspared⟩ := hps₂.slot hq₂
  have hq₁ : ps₁[i]? = some q₁ := hq₁
  rw [getElem?_mapM hps₁] at hq₁
  obtain ⟨q₀, hq₀, htick⟩ := Option.bind_eq_some_iff.mp hq₁
  obtain ⟨p, hp, prev, rfl⟩ : ∃ p, r.roomPlayers[i]? = some p ∧
    ∃ prev, q₀ = { p with prevRoomPlayerState := prev } := by
    unfold updatePrevPlayerStates at hq₀
    split at hq₀
    · exact ⟨q₀, hq₀, q₀.prevRoomPlayerState, rfl⟩
    · rw [forSessions_getElem?, Option.map_eq_some_iff] at hq₀
      obtain ⟨p, hp, rfl⟩ := hq₀
      refine ⟨p, hp, ?_⟩
      split
      · exact ⟨p.roomPlayerState, rfl⟩
      · exact ⟨p.prevRoomPlayerState, rfl⟩
  -- the slot keeps its player and his state all the way
  have hkept₁ : q₁.seat = p.seat ∧ q₁.roomPlayerState = p.roomPlayerState := by
    unfold processTickOf at htick
    split at htick
    · obtain ⟨s, _, htick⟩ := Option.bind_eq_some_iff.mp htick
      cases htick
      exact ⟨rfl, rfl⟩
    · cases htick
      exact ⟨rfl, rfl⟩
  have hkept₂ : q₂.seat = q₁.seat ∧ q₂.roomPlayerState = q₁.roomPlayerState := by
    rw [hlines]
    exact ⟨rfl, rfl⟩
  have hkept : q.seat = q₂.seat ∧ q.roomPlayerState = q₂.roomPlayerState := by
    unfold addGarbageLinesTo at hgarbage
    split at hgarbage
    · obtain ⟨s, _, hgarbage⟩ := Option.bind_eq_some_iff.mp hgarbage
      cases hgarbage
      exact ⟨rfl, rfl⟩
    · cases hgarbage
      exact ⟨rfl, rfl⟩
  have ha₂ : q₂.isActive = true := (isActive_of_seat hkept.1).symm.trans ha
  have ha₁ : q₁.isActive = true := (isActive_of_seat hkept₂.1).symm.trans ha₂
  have hactive : p.isActive = true := (isActive_of_seat hkept₁.1).symm.trans ha₁
  have hstate : p.roomPlayerState = q.roomPlayerState :=
    (hkept.2.trans (hkept₂.2.trans hkept₁.2)).symm
  have hticked : p.tetris.processTick t = some q₁.tetris := by
    unfold processTickOf at htick
    rw [if_pos (show (findSession env { p with prevRoomPlayerState := prev }).isSome = true from
      (hs.isSome (List.mem_of_getElem? hp)).trans hactive)] at htick
    obtain ⟨s, hs, htick⟩ := Option.bind_eq_some_iff.mp htick
    cases htick
    exact hs
  refine ⟨p, q₁.tetris, hp, hactive, hstate, hticked, fun hout => ?_, fun hplay => ⟨lines, ?_⟩⟩
  · have hstate₁ : q₁.roomPlayerState ≠ .play := by
      rw [hkept₁.2, hstate]
      exact hout
    have hsame := hspared (by simp [inPlay, hstate₁])
    unfold addGarbageLinesTo at hgarbage
    rw [if_neg (fun hc => hout (hkept.2.trans hc.2))] at hgarbage
    rw [← Option.some.inj hgarbage, hsame]
  · unfold addGarbageLinesTo at hgarbage
    rw [if_pos ⟨ha₂, hkept.2.symm.trans hplay⟩] at hgarbage
    obtain ⟨s, hs, hgarbage⟩ := Option.bind_eq_some_iff.mp hgarbage
    cases hgarbage
    rw [hlines] at hs
    rw [show p.sessionKey = q₁.sessionKey from (congrArg Prod.fst hkept₁.1).symm]
    exact hs

end MultiRoom

end TetrisRoom

end ProjectTetris

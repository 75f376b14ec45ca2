import Mathlib.Algebra.GroupWithZero.Nat
import Mathlib.Data.List.Nodup
import Mathlib.Logic.Equiv.Defs
import ProjectTetris.Game.FullRows
import ProjectTetris.Game.GarbageLines
import ProjectTetris.Rooms.EngineSafe
import ProjectTetris.Rooms.Inputs
import ProjectTetris.Rooms.SlotChanges

/-!
# Attacks

Clearing two or more lines at once sends garbage to everybody else in the game. The counts
are added up in place, by a loop over the slots inside a loop over the slots, between the
ticks of the engine and the insertion of the lines.

The loop only adds to counts it does not read, so what a player is given is a sum over the
others, in whatever order the slots stand.
-/

namespace ProjectTetris

open Checked Slots

namespace TetrisRoom

namespace MultiRoom

/-! ## What a player is given -/

/-- The lines the others send to the slot `j`. -/
def attacksOn (r : TetrisRoom) (j : Nat) : Nat :=
  (((List.range r.roomPlayers.length).filter (· ≠ j)).map (attackOf r)).sum

/-- The slot with this many more lines pending. -/
def withLines (p : Player) (lines : Nat) : Player :=
  { p with tetris := p.tetris.addPendingGarbageLines lines }

theorem withLines_zero (p : Player) : withLines p 0 = p := rfl

theorem withLines_add (p : Player) (m n : Nat) :
    withLines (withLines p m) n = withLines p (m + n) := by
  simp [withLines, Tetris.addPendingGarbageLines, Nat.add_assoc]

theorem inPlay_withLines (p : Player) (n : Nat) : inPlay (withLines p n) = inPlay p := rfl

/-- One turn of the outer loop, on the slot `j`. -/
theorem attackFrom_slot {r : TetrisRoom} {j : Nat} {p : Player} (hp : r.roomPlayers[j]? = some p)
    (i : Nat) : (attackFrom r i).roomPlayers[j]? =
      some (withLines p (if inPlay p ∧ i ≠ j then attackOf r i else 0)) := by
  rw [getElem?_attackFrom, hp, Option.map_some]
  congr 1
  by_cases hin : inPlay p = true ∧ i ≠ j
  · rw [if_pos hin]
    by_cases hpos : attackOf r i > 0
    · rw [if_pos ⟨hin.1, hin.2, hpos⟩]
      rfl
    · rw [if_neg (fun hc => hpos hc.2.2), Nat.eq_zero_of_not_pos hpos, withLines_zero]
  · rw [if_neg hin, if_neg (fun hc => hin ⟨hc.1, hc.2.1⟩), withLines_zero]

/-- Attacks do not change who attacks. -/
theorem attackOf_attackFrom (r : TetrisRoom) (i k : Nat) :
    attackOf (attackFrom r i) k = attackOf r k := by
  unfold attackOf
  cases hk : r.roomPlayers[k]? with
  | none => rw [getElem?_attackFrom, hk]; rfl
  | some p =>
      rw [attackFrom_slot hk]
      rfl

theorem foldl_attackFrom_slot : ∀ (is : List Nat) {r : TetrisRoom} {j : Nat} {p : Player},
    r.roomPlayers[j]? = some p →
    (is.foldl attackFrom r).roomPlayers[j]? = some (withLines p
      (if inPlay p then ((is.filter (· ≠ j)).map (attackOf r)).sum else 0)) := by
  intro is
  induction is with
  | nil =>
      intro r j p hp
      rw [List.foldl_nil, hp]
      split <;> rfl
  | cons i rest ih =>
      intro r j p hp
      rw [List.foldl_cons, ih (attackFrom_slot hp i), withLines_add, inPlay_withLines,
        funext (attackOf_attackFrom r i)]
      congr 2
      by_cases hin : inPlay p = true
      · by_cases hij : i = j
        · simp [hin, hij]
        · simp [hin, hij]
      · simp [hin]

/-- **`DistributeGarbageLines`**: what the others send, for every player in the game. -/
theorem distributeGarbageLines_slot {r : TetrisRoom} {j : Nat} {p : Player}
    (hp : r.roomPlayers[j]? = some p) :
    (distributeGarbageLines r).roomPlayers[j]? =
      some (withLines p (if inPlay p then attacksOn r j else 0)) :=
  foldl_attackFrom_slot _ hp

/-- Who is not in the game sends nothing. -/
theorem attackOf_of_not_inPlay {r : TetrisRoom} {i : Nat} {p : Player}
    (hp : r.roomPlayers[i]? = some p) (hno : inPlay p = false) : attackOf r i = 0 := by
  rw [attackOf, hp]
  dsimp only
  rw [hno]
  rfl

/-- What a player in the game sends: it depends on the lines he has cleared. -/
theorem attackOf_of_inPlay {r : TetrisRoom} {i : Nat} {p : Player}
    (hp : r.roomPlayers[i]? = some p) (hin : inPlay p = true) :
    attackOf r i = calculateGarbageLineCount p.tetris.clearedLineCount := by
  rw [attackOf, hp]
  dsimp only
  rw [if_pos hin]

/-- The table of the attacks. -/
theorem calculateGarbageLineCount_eq {n : Nat} (h : n ≤ 4) :
    calculateGarbageLineCount n = [0, 0, 1, 2, 4].getD n 0 := by
  match n, h with
  | 0, _ | 1, _ | 2, _ | 3, _ | 4, _ => rfl

/-- **Four lines from each of the others, at most.** -/
theorem attacksOn_le (r : TetrisRoom) {j : Nat} (hj : j < r.roomPlayers.length) :
    attacksOn r j ≤ (r.roomPlayers.length - 1) * 4 := by
  have hbound : ∀ l : List Nat, (l.map (attackOf r)).sum ≤ l.length * 4 := by
    intro l
    induction l with
    | nil => exact Nat.le_refl _
    | cons i rest ih =>
        have hone := attackOf_le r i
        rw [List.map_cons, List.sum_cons, List.length_cons]
        omega
  have hlen : ((List.range r.roomPlayers.length).filter (· ≠ j)).length =
      r.roomPlayers.length - 1 := by
    have hcount := List.length_eq_countP_add_countP (fun i => decide (i ≠ j))
      (l := List.range r.roomPlayers.length)
    have hone : (List.range r.roomPlayers.length).countP (fun i => ¬ decide (i ≠ j) = true) =
        1 := by
      have hmem : (List.range r.roomPlayers.length).count j = 1 := by
        rw [List.nodup_range.count, if_pos (List.mem_range.mpr hj)]
      rw [List.count] at hmem
      rw [← hmem]
      refine List.countP_congr fun i _ => ?_
      simp
    rw [List.length_range, hone, List.countP_eq_length_filter] at hcount
    omega
  exact Nat.le_trans (hbound _) (Nat.le_of_eq (by rw [hlen]))

/-! ## The slots in another order -/

/-- The slots `qs` are the slots `ps` in another order: slot `i` is what slot `σ i` was. -/
def Permuted (σ : Equiv.Perm Nat) (ps qs : List Player) : Prop := ∀ i : Nat, qs[i]? = ps[σ i]?

section Permuted

variable {σ : Equiv.Perm Nat} {ps qs : List Player}

theorem Permuted.map (h : Permuted σ ps qs) (f : Player → Player) :
    Permuted σ (ps.map f) (qs.map f) := by
  intro i
  rw [List.getElem?_map, List.getElem?_map, h i]

theorem Permuted.mem (h : Permuted σ ps qs) {q : Player} (hq : q ∈ qs) : q ∈ ps := by
  obtain ⟨i, hi⟩ := List.mem_iff_getElem?.mp hq
  rw [h i] at hi
  exact List.mem_of_getElem? hi

/-- A loop over the slots that succeeds on all of them does so in any order. -/
theorem Permuted.mapM (h : Permuted σ ps qs) {f : Player → Option Player} {ps' : List Player}
    (hps : ps.mapM f = some ps') : ∃ qs', qs.mapM f = some qs' ∧ Permuted σ ps' qs' := by
  obtain ⟨qs', hqs⟩ := exists_mapM (f := f) (l := qs) fun q hq => by
    obtain ⟨i, hi⟩ := List.mem_iff_getElem?.mp (h.mem hq)
    have hslot := getElem?_mapM hps i
    rw [hi, Option.bind_some] at hslot
    have hlt : i < ps'.length := by
      rw [length_mapM hps]
      exact (List.getElem?_eq_some_iff.mp hi).1
    exact ⟨_, hslot.symm.trans (List.getElem?_eq_getElem hlt)⟩
  refine ⟨qs', hqs, fun i => ?_⟩
  rw [getElem?_mapM hqs, getElem?_mapM hps, h i]

theorem Permuted.lt_iff (h : Permuted σ ps qs) (i : Nat) : i < qs.length ↔ σ i < ps.length := by
  have hnone : qs.length ≤ i ↔ ps.length ≤ σ i := by
    rw [← List.getElem?_eq_none_iff, ← List.getElem?_eq_none_iff, h i]
  omega

/-- The indices, renumbered. -/
theorem Permuted.range (h : Permuted σ ps qs) :
    ((List.range qs.length).map σ).Perm (List.range ps.length) := by
  rw [List.perm_ext_iff_of_nodup (List.Nodup.map σ.injective List.nodup_range) List.nodup_range]
  intro k
  rw [List.mem_map, List.mem_range]
  constructor
  · rintro ⟨i, hi, rfl⟩
    exact (h.lt_iff i).mp (List.mem_range.mp hi)
  · intro hk
    refine ⟨σ.symm k, List.mem_range.mpr ((h.lt_iff _).mpr ?_), σ.apply_symm_apply k⟩
    rwa [σ.apply_symm_apply]

variable {r : TetrisRoom}

theorem Permuted.attackOf (h : Permuted σ r.roomPlayers qs) (i : Nat) :
    MultiRoom.attackOf { r with roomPlayers := qs } i = MultiRoom.attackOf r (σ i) := by
  unfold MultiRoom.attackOf
  rw [show ({ r with roomPlayers := qs } : TetrisRoom).roomPlayers[i]? = _ from h i]

/-- **A sum over the others does not ask for their order.** -/
theorem Permuted.attacksOn (h : Permuted σ r.roomPlayers qs) (i : Nat) :
    MultiRoom.attacksOn { r with roomPlayers := qs } i = MultiRoom.attacksOn r (σ i) := by
  have hothers : (((List.range qs.length).filter (· ≠ i)).map σ).Perm
      ((List.range r.roomPlayers.length).filter (· ≠ σ i)) := by
    have hperm := h.range.filter (· ≠ σ i)
    rw [List.filter_map] at hperm
    refine List.Perm.trans (List.Perm.of_eq ?_) hperm
    refine congrArg (List.map σ) (List.filter_congr fun k _ => ?_)
    simp
  have hsum := (hothers.map (MultiRoom.attackOf r)).sum_nat
  rw [List.map_map] at hsum
  unfold MultiRoom.attacksOn
  rw [← hsum]
  refine congrArg List.sum (List.map_congr_left fun k _ => ?_)
  exact h.attackOf k

theorem Permuted.distribute (h : Permuted σ r.roomPlayers qs) :
    Permuted σ (distributeGarbageLines r).roomPlayers
      (distributeGarbageLines { r with roomPlayers := qs }).roomPlayers := by
  intro i
  cases hp : r.roomPlayers[σ i]? with
  | none =>
      have hnone : ∀ {r : TetrisRoom} {k : Nat}, r.roomPlayers[k]? = none →
          (distributeGarbageLines r).roomPlayers[k]? = none := by
        intro r k hk
        obtain ⟨ps, heq, hlen, _⟩ := distributeGarbageLines_ok r
        rw [List.getElem?_eq_none_iff] at hk ⊢
        rw [heq]
        dsimp only
        omega
      rw [hnone hp, hnone (r := { r with roomPlayers := qs }) ((h i).trans hp)]
  | some p =>
      rw [distributeGarbageLines_slot hp,
        distributeGarbageLines_slot (r := { r with roomPlayers := qs }) ((h i).trans hp),
        h.attacksOn]

theorem Permuted.seated {env : RoomEnv} (h : Permuted σ ps qs) (hs : Seated env ps) :
    Seated env qs := by
  refine ⟨fun q hq ha => hs.found q (h.mem hq) ha, fun i j p q hp hq ha hb hid => ?_⟩
  rw [h i] at hp
  rw [h j] at hq
  exact σ.injective (hs.distinct _ _ p q hp hq ha hb hid)

/-- Inputs are handed out by player, not by slot. -/
theorem Permuted.distributeInputs {env : RoomEnv} (h : Permuted σ r.roomPlayers qs)
    (hs : Seated env r.roomPlayers) : Permuted σ (r.distributeInputs env).roomPlayers
      (({ r with roomPlayers := qs } : TetrisRoom).distributeInputs env).roomPlayers := by
  rw [distributeInputs_eq hs,
    distributeInputs_eq (r := { r with roomPlayers := qs }) (h.seated hs)]
  exact h.map fun p => p.queueInputs (r.inputsFor p)

/--
**The results stand in the order the slots stand in**, from the inputs to the lines inserted.
-/
theorem Permuted.tick {env : RoomEnv} {t : Int} {r₁ r₃ : TetrisRoom}
    (h : Permuted σ r.roomPlayers qs) (hs : Seated env r.roomPlayers) (hplay : r.roomState = .play)
    (hr₁ : (updatePrevPlayerStates (r.distributeInputs env) env).processTicks env t = some r₁)
    (hr₃ : (distributeGarbageLines r₁).addGarbageLines env = some r₃) :
    ∃ q₁ q₃,
    (updatePrevPlayerStates (({ r with roomPlayers := qs } : TetrisRoom).distributeInputs env)
          env).processTicks env t = some q₁ ∧
      (distributeGarbageLines q₁).addGarbageLines env = some q₃ ∧
      Permuted σ r₁.roomPlayers q₁.roomPlayers ∧
      Permuted σ (distributeGarbageLines r₁).roomPlayers (distributeGarbageLines q₁).roomPlayers ∧
      Permuted σ r₃.roomPlayers q₃.roomPlayers := by
  have hqueued := h.distributeInputs hs
  -- both rooms are playing, before and after the inputs
  obtain ⟨ps', heq, _⟩ := distributeInputs_ok r env
  obtain ⟨qs', heq', _⟩ := distributeInputs_ok { r with roomPlayers := qs } env
  rw [heq, heq'] at hqueued
  rw [heq, updatePrevPlayerStates, if_neg (fun hc => hc hplay)] at hr₁
  rw [heq', updatePrevPlayerStates, if_neg (fun hc => hc hplay)]
  obtain ⟨ps₁, hps₁, hr₁⟩ := Option.bind_eq_some_iff.mp hr₁
  cases hr₁
  obtain ⟨qs₁, hqs₁, h₁⟩ := (hqueued.map fun p =>
    if (findSession env p).isSome then { p with prevRoomPlayerState := p.roomPlayerState }
    else p).mapM hps₁
  obtain ⟨ps₃, hps₃, hr₃⟩ := Option.bind_eq_some_iff.mp hr₃
  cases hr₃
  have h₂ := Permuted.distribute (r := { r with playTasks := [], roomPlayers := ps₁ }) h₁
  obtain ⟨qs₃, hqs₃, h₃⟩ := h₂.mapM hps₃
  refine ⟨{ r with playTasks := [], roomPlayers := qs₁ },
    { distributeGarbageLines { r with playTasks := [], roomPlayers := qs₁ } with
      roomPlayers := qs₃ },
    ?_, ?_, h₁, h₂, h₃⟩
  · rw [processTicks]
    dsimp only [forSessions]
    rw [hqs₁]
    rfl
  · rw [TetrisRoom.addGarbageLines, hqs₃]
    rfl

end Permuted

/-! ## The engine's part -/

/--
A slot that the engine has advanced from between two ticks: one fix at most, no line
inserted yet, one asked for if the clock says so; a player in the game has cleared four
lines at most.
-/
structure Played (t : Int) (p q : Player) : Prop where
  seat : q.seat = p.seat
  state : q.roomPlayerState = p.roomPlayerState
  fixes : p.isActive = true → countEvent q.tetris.sendTasks .fix ≤ 1
  lines : p.isActive = true → countEvent q.tetris.sendTasks .addLine = 0
  due : p.isActive = true → q.tetris.pendingGarbageLineCount =
    if p.tetris.timers.isGarbageLineDue t then 1 else 0
  cleared : inPlay p = true → q.tetris.clearedLineCount ≤ 4

theorem Played.inPlay {t : Int} {p q : Player} (h : Played t p q) : inPlay q = inPlay p := by
  unfold MultiRoom.inPlay
  rw [isActive_of_seat h.seat, h.state]

theorem processTickOf_played {env : RoomEnv} {t : Int} {n : Nat} {p q : Player}
    (hp : SlotOk True n p) (hq : Noted p q) (hsome : (findSession env p).isSome = p.isActive) :
    Ok (processTickOf env t q) (Played t p) := by
  rw [processTickOf, findSession_of_seat env hq.seat, hsome]
  obtain ⟨⟨prev, inputs, rfl⟩, _⟩ := hq
  cases ha : p.isActive with
  | false =>
      have hnot : ¬ p.isActive = true := by rw [ha]; decide
      refine Ok.pure ⟨rfl, rfl, fun h => absurd h hnot, fun h => absurd h hnot,
        fun h => absurd h hnot, fun hin => ?_⟩
      exact absurd (of_decide_eq_true hin).1 hnot
  | true =>
      have hgame := hp.inGame trivial ha
      let s : Tetris := { p.tetris with inputTasks := inputs }
      have hlive : p.roomPlayerState = .play → Tetris.Live s := fun hplay =>
        have hl := hgame.live hplay
        ⟨fun _ => ⟨hl.hidden, hl.noFullRow⟩, fun _ _ => hl.valid⟩
      obtain ⟨s', hs', hbounds⟩ := Tetris.processTick_bounds (t := t) (s := s) hgame.inBoard
        hp.fresh.tasks hp.fresh.cleared hlive
      obtain ⟨hpending, hlines⟩ :=
        (Tetris.processTick_garbage (t := t) (s := s) hgame.inBoard).of_eq_some hs'
      rw [if_pos rfl]
      dsimp only
      rw [hs']
      refine Ok.pure ⟨rfl, rfl, fun _ => hbounds.fixes, fun _ => ?_, fun _ => ?_, fun hin => ?_⟩
      · rw [hlines]
        show countEvent p.tetris.sendTasks .addLine = 0
        rw [hp.fresh.tasks]
        rfl
      · rw [hpending]
        show p.tetris.pendingGarbageLineCount + _ = _
        rw [hp.fresh.garbage, Nat.zero_add]
      · exact hbounds.cleared (of_decide_eq_true hin).2

/-! ## The account of a tick -/

/--
What becomes of the slot `j` in a tick, from `p`: `p₁` when the engine has advanced it, `p₂`
when the attacks have been counted, and `p₃` when the lines are in.
-/
structure LinesGiven (t : Int) (r₁ : TetrisRoom) (j : Nat) (p p₁ p₂ p₃ : Player) : Prop where
  cleared : p₁.tetris.clearedLineCount ≤ 4
  sends : attackOf r₁ j = [0, 0, 1, 2, 4].getD p₁.tetris.clearedLineCount 0
  given : p₂.tetris.pendingGarbageLineCount =
    (if p.tetris.timers.isGarbageLineDue t then 1 else 0) + attacksOn r₁ j
  earlier : countEvent p₂.tetris.sendTasks .addLine = 0
  logged : ∃ new, p₃.tetris.sendTasks = p₂.tetris.sendTasks ++ new ∧
    Tetris.LinesLogged p₂.tetris.pendingGarbageLineCount new

/-- The slots when the engine has advanced them. -/
theorem processTicks_played {r : TetrisRoom} {env : RoomEnv} (t : Int) (h : RoomOk r)
    (hs : Seated env r.roomPlayers) (hplay : r.roomState = .play) :
    Ok ((updatePrevPlayerStates (r.distributeInputs env) env).processTicks env t) fun r₁ =>
      SlotWise (Played t) r.roomPlayers r₁.roomPlayers := by
  obtain ⟨ps, heq, hqueued⟩ := distributeInputs_ok r env
  have hnoted := noted_updatePrevPlayerStates (r := r.distributeInputs env) env
    (show SlotWise Queued r.roomPlayers _ by rw [heq]; exact hqueued)
  obtain ⟨qs, hqs, hplayed⟩ := hnoted.thenMapM fun p hp q _ hpq =>
    processTickOf_played (t := t) (h.playing hplay p hp) hpq (hs.isSome hp)
  refine ⟨{ updatePrevPlayerStates (r.distributeInputs env) env with roomPlayers := qs }, ?_,
    hplayed⟩
  rw [processTicks, hqs]
  rfl

/-- `AddGarbageLines`, on a slot with no line in its log. -/
theorem addGarbageLinesTo_logged (env : RoomEnv) (p : Player) :
    Ok (addGarbageLinesTo env p) fun q =>
    (inPlay p = true → ∃ new, q.tetris.sendTasks = p.tetris.sendTasks ++ new ∧
      Tetris.LinesLogged p.tetris.pendingGarbageLineCount new) ∧ (inPlay p = false → q = p) := by
  unfold addGarbageLinesTo
  by_cases hin : p.isActive = true ∧ p.roomPlayerState = .play
  · rw [if_pos hin]
    obtain ⟨s, hs, hlogged⟩ := Tetris.addGarbageLines_logged p.tetris (env.holes p.sessionKey)
    rw [hs]
    exact Ok.pure ⟨fun _ => hlogged, fun hno => absurd hin (of_decide_eq_false hno)⟩
  · rw [if_neg hin]
    exact Ok.pure ⟨fun hc => absurd (of_decide_eq_true hc) hin, fun _ => rfl⟩

/-- `AddGarbageLines`, on every slot. -/
theorem addGarbageLines_logged (r : TetrisRoom) (env : RoomEnv) :
    Ok (r.addGarbageLines env) fun r' =>
    SlotWise (fun p q => (inPlay p = true → ∃ new, q.tetris.sendTasks = p.tetris.sendTasks ++ new ∧
        Tetris.LinesLogged p.tetris.pendingGarbageLineCount new) ∧ (inPlay p = false → q = p))
      r.roomPlayers r'.roomPlayers := by
  obtain ⟨ps, hps, hlogged⟩ := (show SlotWise Eq r.roomPlayers _ from
    .refl fun _ _ => rfl).thenMapM (f := addGarbageLinesTo env) (T := fun p q =>
      (inPlay p = true → ∃ new, q.tetris.sendTasks = p.tetris.sendTasks ++ new ∧
        Tetris.LinesLogged p.tetris.pendingGarbageLineCount new) ∧ (inPlay p = false → q = p))
    fun p _ q _ hpq => by
      subst hpq
      exact addGarbageLinesTo_logged env p
  refine ⟨{ r with roomPlayers := ps }, ?_, hlogged⟩
  rw [TetrisRoom.addGarbageLines, hps]
  rfl

/-- **The account balances**, for every slot and in every tick. -/
theorem lines_given {r : TetrisRoom} {env : RoomEnv} (t : Int) (h : RoomOk r)
    (hs : Seated env r.roomPlayers) (hplay : r.roomState = .play) :
    ∃ r₁ r₃, (updatePrevPlayerStates (r.distributeInputs env) env).processTicks env t = some r₁ ∧
      (distributeGarbageLines r₁).addGarbageLines env = some r₃ ∧
      r₁.roomPlayers.length = r.roomPlayers.length ∧
      ∀ (j : Nat) (p : Player), r.roomPlayers[j]? = some p → ∃ p₁ p₂ p₃,
        r₁.roomPlayers[j]? = some p₁ ∧
        (distributeGarbageLines r₁).roomPlayers[j]? = some p₂ ∧ r₃.roomPlayers[j]? = some p₃ ∧
        Played t p p₁ ∧
        (inPlay p = true → LinesGiven t r₁ j p p₁ p₂ p₃) ∧
        (inPlay p = false → attackOf r₁ j = 0 ∧ p₂ = p₁ ∧ p₃ = p₁) := by
  obtain ⟨r₁, hr₁, hplayed⟩ := processTicks_played t h hs hplay
  obtain ⟨r₃, hr₃, hlogged⟩ := addGarbageLines_logged (distributeGarbageLines r₁) env
  refine ⟨r₁, r₃, hr₁, hr₃, hplayed.1, fun j p hp => ?_⟩
  obtain ⟨p₁, hp₁, hplayed₁⟩ := hplayed.2 j p hp
  have hp₂ := distributeGarbageLines_slot hp₁
  obtain ⟨p₃, hp₃, hadded, hskipped⟩ := hlogged.2 j _ hp₂
  refine ⟨p₁, _, p₃, hp₁, hp₂, hp₃, hplayed₁, fun hin => ?_, fun hno => ?_⟩
  · have hin₁ : inPlay p₁ = true := hplayed₁.inPlay.trans hin
    have ha : p.isActive = true := (of_decide_eq_true hin).1
    rw [if_pos hin₁] at hadded ⊢
    exact ⟨hplayed₁.cleared hin,
      (attackOf_of_inPlay hp₁ hin₁).trans (calculateGarbageLineCount_eq (hplayed₁.cleared hin)),
      congrArg (· + attacksOn r₁ j) (hplayed₁.due ha), hplayed₁.lines ha,
      hadded ((inPlay_withLines _ _).trans hin₁)⟩
  · have hno₁ : inPlay p₁ = false := hplayed₁.inPlay.trans hno
    rw [hno₁, if_neg Bool.false_ne_true, withLines_zero] at hskipped ⊢
    exact ⟨attackOf_of_not_inPlay hp₁ hno₁, rfl, hskipped hno₁⟩

/--
The account of a tick of the room `r`, with the rooms `r₁` when the engines have been
advanced, `r₃` when the lines are in, and `r'` when the tick is over.
-/
structure AttacksConserved (env : RoomEnv) (t : Int) (r r₁ r₃ r' : TetrisRoom) : Prop where
  tick : processGameTick (r.distributeInputs env) env t = some r'
  advanced : (updatePrevPlayerStates (r.distributeInputs env) env).processTicks env t = some r₁
  inserted : (distributeGarbageLines r₁).addGarbageLines env = some r₃
  slots : ∀ (j : Nat) (p : Player), r.roomPlayers[j]? = some p → ∃ p₁ p₂ p₃,
    r₁.roomPlayers[j]? = some p₁ ∧ (distributeGarbageLines r₁).roomPlayers[j]? = some p₂ ∧
    r₃.roomPlayers[j]? = some p₃ ∧
    (inPlay p = true → LinesGiven t r₁ j p p₁ p₂ p₃) ∧
    (inPlay p = false → attackOf r₁ j = 0 ∧ p₂ = p₁ ∧ p₃ = p₁)
  nothingLeft : ∀ q ∈ r'.roomPlayers, q.tetris.pendingGarbageLineCount = 0 ∧
    q.tetris.clearedLineCount = 0 ∧ q.tetris.sendTasks = []
  anyOrder : ∀ (σ : Equiv.Perm Nat) (qs : List Player), Permuted σ r.roomPlayers qs →
    ∃ q₁ q₃,
    (updatePrevPlayerStates (({ r with roomPlayers := qs } : TetrisRoom).distributeInputs env)
          env).processTicks env t = some q₁ ∧
      (distributeGarbageLines q₁).addGarbageLines env = some q₃ ∧
      Permuted σ r₁.roomPlayers q₁.roomPlayers ∧
      Permuted σ (distributeGarbageLines r₁).roomPlayers (distributeGarbageLines q₁).roomPlayers ∧
      Permuted σ r₃.roomPlayers q₃.roomPlayers

/--
**Attacks are conserved.**

In every tick of every room for several players, each player in the game is given the line
the clock owes him and what the others send, no more and no less. All of it is inserted,
up to the line that tops him out; nobody else gives or is given a line, nothing is left for
the next tick, and the order of the slots does not matter.
-/
theorem attacks_conserved {r : TetrisRoom} (h : Reachable r) (hkind : r.kind ≠ .single)
    (hplay : r.roomState = .play) {env : RoomEnv} (t : Int) (hserves : env.Serves r (.tick t)) :
    ∃ r₁ r₃ r', r.step env (.tick t) = some r' ∧
      AttacksConserved env t { r with out := [] } r₁ r₃ r' := by
  have hok := roomOk_reachable h
  have hs : Seated env ({ r with out := [] } : TetrisRoom).roomPlayers := hok.seated hserves
  obtain ⟨r₁, r₃, hr₁, hr₃, _, hslots⟩ := lines_given t (roomOk_silent hok) hs hplay
  obtain ⟨r', hstep, hstepped⟩ := step_ok hok hserves
  have hok' := roomOk_stepped hok hserves hstepped
  have htick : processGameTick (({ r with out := [] } : TetrisRoom).distributeInputs env) env t =
      some r' := by
    have hkind' : (({ r with out := [] } : TetrisRoom).distributeInputs env).kind ≠ .single := by
      obtain ⟨ps, heq, _⟩ := distributeInputs_ok { r with out := [] } env
      rw [heq]
      exact hkind
    rw [← processGameTick_multi hkind', ← hstep, step, handle, processRoomTick,
      if_neg (fun hc => hc hplay)]
  refine ⟨r₁, r₃, r', hstep, htick, hr₁, hr₃,
    fun j p hp => ?_, fun q hq => ?_, fun σ qs hperm => ?_⟩
  · obtain ⟨p₁, p₂, p₃, hp₁, hp₂, hp₃, _, hin, hno⟩ := hslots j p hp
    exact ⟨p₁, p₂, p₃, hp₁, hp₂, hp₃, hin, hno⟩
  · have hfresh := (hok'.slots q hq).fresh
    exact ⟨hfresh.garbage, hfresh.cleared, hfresh.tasks⟩
  · exact hperm.tick hs hplay hr₁ hr₃

/-- A game of two, in a tick with a line due. -/
theorem attacks_conserved_gameOfTwo : ∃ r r₁ r₃ r', gameOfTwo 1 = some r ∧
    r.step (scenarioEnv [hostKey, guestKey] .room 0) (.tick 40000) = some r' ∧
    AttacksConserved (scenarioEnv [hostKey, guestKey] .room 0) 40000 { r with out := [] }
      r₁ r₃ r' := by
  have hrun : (gameOfTwo 1).any (fun r =>
      decide (r.kind ≠ .single ∧ r.roomState = .play ∧ AllOf [hostKey, guestKey] r)) = true := by
    decide +kernel
  simp only [Option.any_eq_true, decide_eq_true_eq] at hrun
  obtain ⟨r, hr, hkind, hplay, hall⟩ := hrun
  obtain ⟨r₁, r₃, r', hstep, hconserved⟩ := attacks_conserved (gameOfTwo_reachable hr)
    hkind hplay 40000 (scenarioEnv_serves .room 0 (by decide) hall)
  exact ⟨r, r₁, r₃, r', hr, hstep, hconserved⟩

/-- Who tops out on the last of his lines has been sent all of them. -/
theorem attacks_last_line : ∃ (r r₁ r₃ : TetrisRoom) (env : RoomEnv) (t : Int) (p₂ p₃ : Player),
    Reachable r ∧ r.kind ≠ .single ∧ r.roomState = .play ∧ env.Serves r (.tick t) ∧
    (updatePrevPlayerStates
      (({ r with out := [] } : TetrisRoom).distributeInputs env) env).processTicks
      env t = some r₁ ∧
    (distributeGarbageLines r₁).addGarbageLines env = some r₃ ∧
    (distributeGarbageLines r₁).roomPlayers[0]? = some p₂ ∧ r₃.roomPlayers[0]? = some p₃ ∧
    inPlay p₂ = true ∧ hasEvent p₂.tetris.sendTasks .gameOver = false ∧
    hasEvent p₃.tetris.sendTasks .gameOver = true ∧
    ¬ countEvent p₃.tetris.sendTasks .addLine < p₂.tetris.pendingGarbageLineCount := by
  have hrun : (gameOfTwo 7).any (fun r =>
      decide (r.kind ≠ .single ∧ r.roomState = .play ∧ AllOf [hostKey, guestKey] r) &&
      ((updatePrevPlayerStates (({ r with out := [] } : TetrisRoom).distributeInputs
          (scenarioEnv [hostKey, guestKey] .room 0))
          (scenarioEnv [hostKey, guestKey] .room 0)).processTicks
          (scenarioEnv [hostKey, guestKey] .room 0) 160000).any fun r₁ =>
        ((distributeGarbageLines r₁).addGarbageLines (scenarioEnv [hostKey, guestKey] .room 0)).any
        fun r₃ =>
          (distributeGarbageLines r₁).roomPlayers[0]?.any fun p₂ =>
            r₃.roomPlayers[0]?.any fun p₃ =>
            decide (inPlay p₂ = true ∧ hasEvent p₂.tetris.sendTasks .gameOver = false ∧
              hasEvent p₃.tetris.sendTasks .gameOver = true ∧
              ¬ countEvent p₃.tetris.sendTasks .addLine <
                p₂.tetris.pendingGarbageLineCount)) = true := by
    decide +kernel
  simp only [Option.any_eq_true, Bool.and_eq_true, decide_eq_true_eq] at hrun
  obtain ⟨r, hr, ⟨hkind, hplay, hall⟩, r₁, hr₁, r₃, hr₃, p₂, hp₂, p₃, hp₃, hrest⟩ := hrun
  exact ⟨r, r₁, r₃, _, 160000, p₂, p₃, gameOfTwo_reachable hr, hkind, hplay,
    scenarioEnv_serves .room 0 (by decide) hall, hr₁, hr₃, hp₂, hp₃, hrest⟩

end MultiRoom

end TetrisRoom

end ProjectTetris

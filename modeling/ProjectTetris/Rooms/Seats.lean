import ProjectTetris.Lib.Checked
import ProjectTetris.Lib.Slots
import ProjectTetris.Rooms.Run

/-!
# Seats

Who sits where. A seat is the part of a slot that decides which session it belongs
to; games, scores and buffers come and go on it. Nothing in a tick changes a seat,
and while the seats stand every lookup by session or by player id finds the one
slot it means.
-/

namespace ProjectTetris

/-- Whose the slot is, and how far the hand-over has got. -/
def Player.seat (p : Player) : SessionKey × ActiveEntryState := (p.sessionKey, p.activeState)

namespace TetrisRoom

theorem isActive_of_seat {p q : Player} (h : p.seat = q.seat) : p.isActive = q.isActive := by
  simp only [Player.seat, Prod.mk.injEq] at h
  simp only [Player.isActive, h.2]

theorem findSession_of_seat {p q : Player} (env : RoomEnv) (h : p.seat = q.seat) :
    findSession env p = findSession env q := by
  simp only [findSession, isActive_of_seat h]
  simp only [Player.seat, Prod.mk.injEq] at h
  rw [h.1]

/-! ## Slots by index -/

@[simp] theorem forSessions_getElem? (r : TetrisRoom) (env : RoomEnv)
    (f : Player → Player) (i : Nat) :
    (r.forSessions env f).roomPlayers[i]? =
      (r.roomPlayers[i]?).map fun p => if (findSession env p).isSome then f p else p := by
  simp [forSessions]

@[simp] theorem modifyPlayer_getElem? (r : TetrisRoom) (i j : Nat) (f : Player → Player) :
    (r.modifyPlayer i f).roomPlayers[j]? =
      (r.roomPlayers[j]?).map fun p => if i = j then f p else p := by
  simp [modifyPlayer, List.getElem?_modify]

@[simp] theorem modifyPlayer_spawnList (r : TetrisRoom) (i : Nat) (f : Player → Player) :
    (r.modifyPlayer i f).tetrominoSpawnList = r.tetrominoSpawnList := rfl

theorem modifyPlayer_modifyPlayer (r : TetrisRoom) (i : Nat) (f g : Player → Player) :
    (r.modifyPlayer i f).modifyPlayer i g = r.modifyPlayer i (g ∘ f) := by
  simp [modifyPlayer, List.modify_modify_eq]

theorem modifyPlayer_congr {r : TetrisRoom} {i : Nat} {p : Player} {f g : Player → Player}
    (h : r.roomPlayers[i]? = some p) (hfg : f p = g p) :
    r.modifyPlayer i f = r.modifyPlayer i g := by
  have hlist : r.roomPlayers.modify i f = r.roomPlayers.modify i g := by
    refine List.ext_getElem? fun j => ?_
    simp only [List.getElem?_modify, Option.map_eq_map]
    by_cases hj : i = j
    · subst hj
      simp [h, hfg]
    · simp [hj]
  rw [modifyPlayer, hlist, modifyPlayer]

/-- Writing back what is there changes nothing. -/
theorem modifyPlayer_self {r : TetrisRoom} {i : Nat} {p : Player} {f : Player → Player}
    (h : r.roomPlayers[i]? = some p) (hf : f p = p) : r.modifyPlayer i f = r := by
  rw [modifyPlayer_congr (g := id) h hf, modifyPlayer, List.modify_id]

/-! ## Who can be found -/

/--
The seats are sound: the session of every active slot is found as the account the
slot holds, and no account sits twice.
-/
structure Seated (env : RoomEnv) (ps : List Player) : Prop where
  found : ∀ p ∈ ps, p.isActive = true →
    ∃ v, env.findSession p.sessionKey = some v ∧ v.playerId = p.sessionKey.playerId
  distinct : ∀ (i j : Nat) (p q : Player), ps[i]? = some p → ps[j]? = some q → p.isActive = true →
    q.isActive = true → p.sessionKey.playerId = q.sessionKey.playerId → i = j

/-- The same seats, whatever else the slots hold. -/
def SameSeats (ps qs : List Player) : Prop :=
  ∀ i : Nat, (ps[i]?).map Player.seat = (qs[i]?).map Player.seat

theorem SameSeats.refl (ps : List Player) : SameSeats ps ps := fun _ => rfl

theorem SameSeats.symm {ps qs : List Player} (h : SameSeats ps qs) : SameSeats qs ps :=
  fun i => (h i).symm

theorem SameSeats.trans {ps qs rs : List Player} (h₁ : SameSeats ps qs) (h₂ : SameSeats qs rs) :
    SameSeats ps rs := fun i => (h₁ i).trans (h₂ i)

theorem SameSeats.slot {ps qs : List Player} (h : SameSeats ps qs) {i : Nat} {q : Player}
    (hq : qs[i]? = some q) : ∃ p, ps[i]? = some p ∧ p.seat = q.seat := by
  have hi := h i
  rw [hq, Option.map_some] at hi
  exact Option.map_eq_some_iff.mp hi

theorem SameSeats.of_map {ps qs : List Player} (f : Player → Player)
    (hf : ∀ p, (f p).seat = p.seat) (h : ∀ i : Nat, qs[i]? = (ps[i]?).map f) :
    SameSeats ps qs := by
  intro i
  rw [h i, Option.map_map]
  cases ps[i]? with
  | none => rfl
  | some p => simp [hf]

theorem Seated.of_sameSeats {env : RoomEnv} {ps qs : List Player} (h : Seated env ps)
    (hs : SameSeats ps qs) : Seated env qs := by
  refine ⟨fun q hq ha => ?_, fun i j p q hp hq ha hb hid => ?_⟩
  · obtain ⟨i, hi⟩ := List.mem_iff_getElem?.mp hq
    obtain ⟨p, hp, hseat⟩ := hs.slot hi
    have hkey : p.sessionKey = q.sessionKey := congrArg Prod.fst hseat
    obtain ⟨v, hv, hid⟩ := h.found p (List.mem_of_getElem? hp) (by rw [isActive_of_seat hseat, ha])
    exact ⟨v, hkey ▸ hv, hkey ▸ hid⟩
  · obtain ⟨p', hp', hsp⟩ := hs.slot hp
    obtain ⟨q', hq', hsq⟩ := hs.slot hq
    have hkp : p'.sessionKey = p.sessionKey := congrArg Prod.fst hsp
    have hkq : q'.sessionKey = q.sessionKey := congrArg Prod.fst hsq
    exact h.distinct i j p' q' hp' hq' (by rw [isActive_of_seat hsp, ha])
      (by rw [isActive_of_seat hsq, hb]) (by rw [hkp, hkq, hid])

theorem Seated.findSession {env : RoomEnv} {ps : List Player} (h : Seated env ps) {p : Player}
    (hp : p ∈ ps) (ha : p.isActive = true) :
    ∃ v, TetrisRoom.findSession env p = some v ∧ v.playerId = p.sessionKey.playerId := by
  obtain ⟨v, hv, hid⟩ := h.found p hp ha
  exact ⟨v, by rw [TetrisRoom.findSession, if_pos ha, hv], hid⟩

/-- **`FindSession` succeeds exactly on the active slots.** -/
theorem Seated.isSome {env : RoomEnv} {ps : List Player} (h : Seated env ps) {p : Player}
    (hp : p ∈ ps) : (TetrisRoom.findSession env p).isSome = p.isActive := by
  cases ha : p.isActive with
  | true =>
      obtain ⟨v, hv, _⟩ := h.findSession hp ha
      rw [hv]; rfl
  | false => simp [TetrisRoom.findSession, ha]

/-- **A lookup by player id finds the slot of that player.** -/
theorem Seated.findIdx? {env : RoomEnv} {ps : List Player} (h : Seated env ps) {i : Nat}
    {p : Player} (hp : ps[i]? = some p) (ha : p.isActive = true) :
    (ps.findIdx? fun q =>
      (TetrisRoom.findSession env q).any (·.playerId = p.sessionKey.playerId)) = some i := by
  have hlt := (List.getElem?_eq_some_iff.mp hp).1
  have heq := (List.getElem?_eq_some_iff.mp hp).2
  rw [List.findIdx?_eq_some_iff_getElem]
  refine ⟨hlt, ?_, fun j hj hany => ?_⟩
  · obtain ⟨v, hv, hid⟩ := h.findSession (List.mem_of_getElem? hp) ha
    simp [heq, hv, hid]
  · have hlt' : j < ps.length := Nat.lt_trans hj hlt
    have hq : ps[j]? = some ps[j] := List.getElem?_eq_getElem hlt'
    have hactive : ps[j].isActive = true := by
      rw [← h.isSome (List.getElem_mem hlt')]
      cases hf : TetrisRoom.findSession env ps[j] with
      | none => rw [hf] at hany; exact absurd hany (by simp)
      | some w => rfl
    obtain ⟨w, hw, hwid⟩ := h.findSession (List.getElem_mem hlt') hactive
    rw [hw] at hany
    have hid : ps[j].sessionKey.playerId = p.sessionKey.playerId := by
      simpa [hwid] using hany
    exact absurd (h.distinct j i _ _ hq hp hactive ha hid) (Nat.ne_of_lt hj)

/-! ## Slot by slot -/

/-- `qs` is `ps` with every slot replaced by one that `R` relates to it. -/
def SlotWise (R : Player → Player → Prop) (ps qs : List Player) : Prop :=
  qs.length = ps.length ∧
    ∀ (i : Nat) (p : Player), ps[i]? = some p → ∃ q, qs[i]? = some q ∧ R p q

namespace SlotWise

variable {R S T : Player → Player → Prop} {ps qs rs : List Player}

theorem refl (h : ∀ p ∈ ps, R p p) : SlotWise R ps ps :=
  ⟨rfl, fun _ p hp => ⟨p, hp, h p (List.mem_of_getElem? hp)⟩⟩

theorem comp (h₁ : SlotWise R ps qs) (h₂ : SlotWise S qs rs)
    (hT : ∀ p q r, R p q → S q r → T p r) : SlotWise T ps rs := by
  refine ⟨h₂.1.trans h₁.1, fun i p hp => ?_⟩
  obtain ⟨q, hq, hR⟩ := h₁.2 i p hp
  obtain ⟨r, hr, hS⟩ := h₂.2 i q hq
  exact ⟨r, hr, hT p q r hR hS⟩

theorem slot (h : SlotWise R ps qs) {i : Nat} {q : Player} (hq : qs[i]? = some q) :
    ∃ p, ps[i]? = some p ∧ R p q := by
  have hlt : i < ps.length := h.1 ▸ (List.getElem?_eq_some_iff.mp hq).1
  obtain ⟨q', hq', hR⟩ := h.2 i _ (List.getElem?_eq_getElem hlt)
  rw [hq] at hq'
  injection hq' with hq'
  exact ⟨_, List.getElem?_eq_getElem hlt, hq' ▸ hR⟩

theorem mem (h : SlotWise R ps qs) {q : Player} (hq : q ∈ qs) : ∃ p ∈ ps, R p q := by
  obtain ⟨i, hi⟩ := List.mem_iff_getElem?.mp hq
  obtain ⟨p, hp, hR⟩ := h.slot hi
  exact ⟨p, List.mem_of_getElem? hp, hR⟩

theorem map {f : Player → Player} (h : ∀ p ∈ ps, R p (f p)) : SlotWise R ps (ps.map f) := by
  refine ⟨List.length_map _, fun i p hp => ⟨f p, ?_, h p (List.mem_of_getElem? hp)⟩⟩
  rw [List.getElem?_map, hp]
  rfl

theorem modify {f : Player → Player} {i : Nat} (h : ∀ p ∈ ps, R p p)
    (hf : ∀ p, ps[i]? = some p → R p (f p)) : SlotWise R ps (ps.modify i f) := by
  refine ⟨List.length_modify _ _ _, fun j p hp => ?_⟩
  rw [List.getElem?_modify, hp]
  by_cases hij : i = j
  · subst hij
    exact ⟨f p, by simp, hf p hp⟩
  · exact ⟨p, by simp [hij], h p (List.mem_of_getElem? hp)⟩

theorem sameSeats (h : SlotWise R ps qs) (hR : ∀ p q, R p q → q.seat = p.seat) :
    SameSeats ps qs := by
  intro i
  cases hi : ps[i]? with
  | none =>
      rw [List.getElem?_eq_none_iff] at hi
      rw [List.getElem?_eq_none_iff.mpr (by rw [h.1]; exact hi)]
  | some p =>
      obtain ⟨q, hq, hpq⟩ := h.2 i p hi
      rw [hq, Option.map_some, Option.map_some, hR p q hpq]

end SlotWise

/-- A loop over all slots, after stages that did `R`. -/
theorem SlotWise.thenMap {R T : Player → Player → Prop} {f : Player → Player} {ps qs : List Player}
    (h : SlotWise R ps qs) (hf : ∀ p ∈ ps, ∀ q ∈ qs, R p q → T p (f q)) :
    SlotWise T ps (qs.map f) := by
  refine ⟨by rw [List.length_map]; exact h.1, fun i p hp => ?_⟩
  obtain ⟨q, hq, hR⟩ := h.2 i p hp
  refine ⟨f q, by rw [List.getElem?_map, hq]; rfl, ?_⟩
  exact hf p (List.mem_of_getElem? hp) q (List.mem_of_getElem? hq) hR

/-- The same for a loop that may fail: it fails for no slot, so it does not fail. -/
theorem SlotWise.thenMapM {R T : Player → Player → Prop} {f : Player → Option Player}
    {ps qs : List Player} (h : SlotWise R ps qs)
    (hf : ∀ p ∈ ps, ∀ q ∈ qs, R p q → Checked.Ok (f q) (T p)) :
    Checked.Ok (qs.mapM f) (SlotWise T ps) := by
  obtain ⟨rs, hrs⟩ := Checked.exists_mapM (f := f) (l := qs) fun q hq => by
    obtain ⟨p, hp, hR⟩ := h.mem hq
    obtain ⟨r, hr, _⟩ := hf p hp q hq hR
    exact ⟨r, hr⟩
  refine ⟨rs, hrs, (Checked.length_mapM hrs).trans h.1, fun i p hp => ?_⟩
  obtain ⟨q, hq, hR⟩ := h.2 i p hp
  obtain ⟨r, hr, hT⟩ := hf p (List.mem_of_getElem? hp) q (List.mem_of_getElem? hq) hR
  refine ⟨r, ?_, hT⟩
  rw [Checked.getElem?_mapM hrs, hq, Option.bind_some, hr]

end TetrisRoom

end ProjectTetris

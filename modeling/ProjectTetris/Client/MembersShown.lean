import ProjectTetris.Client.MultiPlayState
import ProjectTetris.Rooms.RoomView

/-!
# The client's picture of its room

`MultiPlayState` as a `RoomView`: `Shows` relates the two, and every packet that makes
sense keeps them related. What makes this more than a list of fields is the button of a
slot, which says who is ready and outlives the player it was pressed for; the client's own
one is pressed by its user before the server knows of it.
-/

namespace ProjectTetris

open Checked Slots TetrisRoom

namespace Client

/-! ## Slots -/

theorem ToggleButton.handleEvent_cases (button : ToggleButton) (hit : Bool) :
    (button.handleEvent hit).1 = button ∨ button.reactable = true ∧ button.pressed = false ∧
      (button.handleEvent hit).1 = { button with pressed := true } := by
  unfold ToggleButton.handleEvent
  split
  · exact .inl rfl
  · rename_i hreact
    split
    · cases hpressed : button.pressed with
      | true => exact .inl (by rw [← hpressed])
      | false => exact .inr ⟨by simpa using hreact, rfl, rfl⟩
    · exact .inl rfl

namespace TetrisSession

@[simp] theorem hasId_initSession (s : TetrisSession) (session : Session) (id : Int) :
    (s.initSession session).hasId id = decide (session.id = id) := rfl

@[simp] theorem showsReady_initSession (s : TetrisSession) (session : Session) :
    (s.initSession session).showsReady = s.showsReady := by
  unfold showsReady initSession
  cases s.btnReady with
  | none => rfl
  | some button => cases session.isSelf <;> rfl

@[simp] theorem hasId_clear (s : TetrisSession) (id : Int) : s.clear.hasId id = false := rfl

theorem hasId_iff {s : TetrisSession} {id : Int} :
    s.hasId id = true ↔ ∃ session, s.session = some session ∧ session.id = id := by
  unfold hasId
  cases s.session <;> simp

/-- What packets keep true of a slot in the room of the player `me`. -/
structure Sound (me : Int) (s : TetrisSession) : Prop where
  isSelf : ∀ session, s.session = some session → (session.isSelf = true ↔ session.id = me)
  vacant : s.session = none → s.isHost = false
  noButton : s.btnReady = none ↔ s.isHost = true ∧ s.hasId me = true
  visible : s.isHost = false → ∀ button, s.btnReady = some button → button.visible = true
  /-- Only the own button reacts. -/
  reactable : ∀ session, s.session = some session →
    ∀ button, s.btnReady = some button → button.reactable = true → session.id = me

/-- The button is not pressed, or there is none. -/
def unpressed (s : TetrisSession) : Bool := s.btnReady.all fun button => !button.pressed

theorem showsReady_of_unpressed {s : TetrisSession} (h : s.unpressed = true) :
    s.showsReady = false := by
  unfold showsReady
  unfold unpressed at h
  cases hb : s.btnReady with
  | none => simp
  | some button =>
      rw [hb] at h
      simp only [Option.all_some, Bool.not_eq_true'] at h
      simp [h]

theorem sound_new (me : Int) : Sound me .new := by
  refine ⟨fun _ h => absurd h (by simp [new]), fun _ => rfl, by simp [new], fun _ button h => ?_,
    fun _ h => absurd h (by simp [new])⟩
  rw [← Option.some.inj h]

theorem Sound.initSession {me : Int} {s : TetrisSession} (h : Sound me s)
    (hfree : s.session = none) {session : Session}
    (hself : session.isSelf = true ↔ session.id = me) :
    Sound me (s.initSession session) := by
  have hhost := h.vacant hfree
  refine ⟨fun x hx => Option.some.inj hx ▸ hself,
    fun hc => ?_, ⟨fun hb => ?_, fun hc => ?_⟩, fun _ button hb => ?_,
    fun x hx button hb hreact => ?_⟩
  · exact absurd hc (by simp [TetrisSession.initSession])
  · have hc := (h.noButton.mp (Option.map_eq_none_iff.mp hb)).1
    rw [hhost] at hc
    exact Bool.noConfusion hc
  · rw [show (s.initSession session).isHost = s.isHost from rfl, hhost] at hc
    exact Bool.noConfusion hc.1
  · obtain ⟨old, hold, rfl⟩ := Option.map_eq_some_iff.mp hb
    rw [← h.visible hhost old hold]
    split <;> rfl
  · obtain ⟨old, _, rfl⟩ := Option.map_eq_some_iff.mp hb
    obtain rfl := Option.some.inj hx
    split at hreact
    · rename_i hc
      exact hself.mp hc
    · exact Bool.noConfusion hreact

theorem Sound.clear {me : Int} {s : TetrisSession} (h : Sound me s) (hother : s.hasId me = false) :
    Sound me s.clear := by
  refine ⟨fun _ hc => absurd hc (by simp [TetrisSession.clear]),
    fun _ => rfl, ⟨fun hb => ?_, fun hc => ?_⟩,
    fun _ button hb => ?_, fun _ hc => absurd hc (by simp [TetrisSession.clear])⟩
  · rw [(h.noButton.mp (Option.map_eq_none_iff.mp hb)).2] at hother
    exact Bool.noConfusion hother
  · exact Bool.noConfusion hc.1
  · obtain ⟨old, _, rfl⟩ := Option.map_eq_some_iff.mp hb
    rfl

theorem Sound.reset {me : Int} {s : TetrisSession} (h : Sound me s) : Sound me s.reset := by
  refine ⟨h.isSelf, h.vacant, Option.map_eq_none_iff.trans h.noButton, fun hhost button hb => ?_,
    fun session hs button hb hreact => ?_⟩
  · obtain ⟨old, hold, rfl⟩ := Option.map_eq_some_iff.mp hb
    exact h.visible hhost old hold
  · obtain ⟨old, hold, rfl⟩ := Option.map_eq_some_iff.mp hb
    exact h.reactable session hs old hold hreact

theorem showsReady_reset (s : TetrisSession) : s.reset.showsReady = false := by
  refine showsReady_of_unpressed ?_
  unfold unpressed reset
  cases s.btnReady <;> rfl

/-- **`set_ready`** on the slot of anybody but the host. -/
theorem setReady_ok {me : Int} {s : TetrisSession} (h : Sound me s) (hhost : s.isHost = false)
    (isReady : Bool) : Ok (s.setReady isReady) fun s' => Sound me s' ∧ s'.session = s.session ∧
      s'.isHost = s.isHost ∧ s'.showsReady = isReady := by
  unfold setReady
  cases hb : s.btnReady with
  | none =>
      have hc := (h.noButton.mp hb).1
      rw [hhost] at hc
      exact Bool.noConfusion hc
  | some button =>
      have hvisible := h.visible hhost button hb
      refine .pure ⟨⟨h.isSelf, h.vacant, ⟨fun hc => absurd hc (by simp), fun hc => ?_⟩,
        fun _ b hc => ?_, fun session hs b hc hreact => ?_⟩, rfl, rfl, ?_⟩
      · rw [show _ = s.isHost from rfl, hhost] at hc
        exact Bool.noConfusion hc.1
      · rw [← Option.some.inj hc]
        exact hvisible
      · rw [← Option.some.inj hc] at hreact
        exact h.reactable session hs button hb hreact
      · simp [showsReady, hhost, hvisible]

/-- **`set_is_host`** on the slot of somebody who is not. -/
theorem setIsHost_ok {me id : Int} {s : TetrisSession} (h : Sound me s) (hid : s.hasId id = true)
    (hhost : s.isHost = false) : Ok s.setIsHost fun s' => Sound me s' ∧ s'.session = s.session ∧
      s'.isHost = true ∧ s'.showsReady = false := by
  obtain ⟨session, hs, rfl⟩ := hasId_iff.mp hid
  have htaken : s.session ≠ none := by rw [hs]; simp
  unfold setIsHost
  refine Ok.bind (P := (· = session)) (.intro hs rfl) fun x hx => ?_
  subst hx
  split
  · rename_i hself
    have hme : s.hasId me = true := hasId_iff.mpr ⟨x, hs, (h.isSelf x hs).mp hself⟩
    exact .pure ⟨⟨h.isSelf, fun hc => absurd hc htaken, ⟨fun _ => ⟨rfl, hme⟩, fun _ => rfl⟩,
      fun hc => Bool.noConfusion hc, fun _ _ _ hb => absurd hb (by simp)⟩, rfl, rfl, rfl⟩
  · rename_i hself
    cases hb : s.btnReady with
    | none =>
        have hc := (h.noButton.mp hb).1
        rw [hhost] at hc
        exact Bool.noConfusion hc
    | some button =>
        rw [Option.bind_eq_bind, Option.bind_some]
        refine .pure
          ⟨⟨h.isSelf, fun hc => absurd hc htaken, ⟨fun hc => absurd hc (by simp), fun hc => ?_⟩,
          fun hc => Bool.noConfusion hc, fun session hsession b hc hreact => ?_⟩, rfl, rfl, rfl⟩
        · obtain ⟨y, hy, hyme⟩ := hasId_iff.mp hc.2
          exact absurd ((h.isSelf y hy).mpr hyme)
            (by rw [← Option.some.inj (hs.symm.trans hy)]; exact hself)
        · rw [← Option.some.inj hc] at hreact
          exact h.reactable session hsession button hb hreact

/-- **A click** changes nothing, or presses the own button, which was not pressed and is shown. -/
theorem handleEvent_cases {me : Int} {s : TetrisSession} (h : Sound me s) (playing hit : Bool) :
    (s.handleEvent playing hit).1 = s ∨
      s.hasId me = true ∧ s.showsReady = false ∧ Sound me (s.handleEvent playing hit).1 ∧
        (s.handleEvent playing hit).1.session = s.session ∧
        (s.handleEvent playing hit).1.isHost = s.isHost ∧
        (s.handleEvent playing hit).1.showsReady = true := by
  unfold handleEvent
  split
  · rename_i session button hs hb
    split
    · exact .inl rfl
    have hcases := button.handleEvent_cases hit
    generalize button.handleEvent hit = handled at hcases ⊢
    obtain ⟨now, ready⟩ := handled
    dsimp only at hcases ⊢
    rcases hcases with rfl | ⟨hreact, hpressed, rfl⟩
    · exact .inl (by rw [← hb])
    · have hid : s.hasId me = true :=
        hasId_iff.mpr ⟨session, hs, h.reactable session hs button hb hreact⟩
      have hhost : s.isHost = false := by
        refine Bool.eq_false_iff.mpr fun hc => ?_
        rw [h.noButton.mpr ⟨hc, hid⟩] at hb
        exact absurd hb (by simp)
      have hvisible := h.visible hhost button hb
      refine .inr ⟨hid, by simp [showsReady, hb, hpressed],
        ⟨h.isSelf, h.vacant, ⟨fun hc => absurd hc (by simp),
        fun hc => ?_⟩,
        fun _ b hc => ?_, fun x hx b hc _ => h.reactable x hx button hb hreact⟩, rfl, rfl, ?_⟩
      · rw [show _ = s.isHost from rfl, hhost] at hc
        exact Bool.noConfusion hc.1
      · rw [← Option.some.inj hc]
        exact hvisible
      · simp [showsReady, hhost, hvisible]
  · exact .inl rfl

end TetrisSession

/-! ## The room -/

namespace MultiPlayState

theorem mem_idsWhere {c : MultiPlayState} {P : TetrisSession → Bool} {id : Int} :
    id ∈ c.idsWhere P ↔ ∃ s ∈ c.players, s.hasId id = true ∧ P s = true := by
  rw [idsWhere, List.mem_filterMap]
  constructor
  · rintro ⟨s, hs, hid⟩
    obtain ⟨hmem, hP⟩ := List.mem_filter.mp hs
    exact ⟨s, hmem, TetrisSession.hasId_iff.mpr (Option.map_eq_some_iff.mp hid), hP⟩
  · rintro ⟨s, hmem, hid, hP⟩
    exact ⟨s, List.mem_filter.mpr ⟨hmem, hP⟩,
      Option.map_eq_some_iff.mpr (TetrisSession.hasId_iff.mp hid)⟩

/--
The client of the player `me`, in a room of so many slots, shows the picture `v`; with a
click the server has not answered it shows its own player as ready too early.
-/
structure Shows (me : Int) (slots : Nat) (v : RoomView) (clicked : Bool)
    (c : MultiPlayState) : Prop where
  staying : c.nextState = false
  here : v.member me
  length : c.players.length = slots
  sound : ∀ s ∈ c.players, s.Sound me
  seats : Occupied c.ids v.count
  member : ∀ id, v.member id ↔ id ∈ c.memberIds
  host : ∀ id, v.host = some id ↔ id ∈ c.hostIds
  hostIndex : c.hostIndex = -1 ∨ ∃ i : Nat, c.hostIndex = (i : Int) ∧ i < slots
  ready : ∀ id, v.ready id ∨ (clicked = true ∧ id = me) ↔ id ∈ c.readyIds
  early : clicked = true → ¬ v.ready me

theorem ids_slot {c : MultiPlayState} {i : Nat} {s : TetrisSession} (hs : c.players[i]? = some s) :
    c.ids[i]? = some (s.session.map (·.id)) := by
  rw [ids, List.getElem?_map, hs]
  rfl

theorem ids_set {c : MultiPlayState} (i : Nat) (s : TetrisSession) :
    ids { c with players := c.players.set i s } = c.ids.set i (s.session.map (·.id)) :=
  List.map_set

/-- Nobody is shown twice. -/
theorem Shows.alone {me id : Int} {slots i : Nat} {v : RoomView} {clicked : Bool}
    {c : MultiPlayState} {s : TetrisSession} (h : Shows me slots v clicked c)
    (hs : c.players[i]? = some s) (hid : s.hasId id = true) (Q : TetrisSession → Prop) :
    ¬ Others c.players i fun x => x.hasId id = true ∧ Q x := by
  rintro ⟨k, x, hk, hx, hxid, _⟩
  have hslot : ∀ {j : Nat} {y : TetrisSession}, c.players[j]? = some y → y.hasId id = true →
      c.ids[j]? = some (some id) := by
    intro j y hy hyid
    rw [ids_slot hy]
    exact congrArg some (Option.map_eq_some_iff.mpr (TetrisSession.hasId_iff.mp hyid))
  exact hk (h.seats.distinct k i id (hslot hx hxid) (hslot hs hid))

/-- The slot of a member. -/
theorem Shows.slotOf {me id : Int} {slots : Nat} {v : RoomView} {clicked : Bool}
    {c : MultiPlayState} (h : Shows me slots v clicked c) (hmember : v.member id) :
    ∃ i s, c.slotOf id = some i ∧ c.players[i]? = some s ∧ s.hasId id = true := by
  obtain ⟨s, hs, hid, _⟩ := mem_idsWhere.mp ((h.member id).mp hmember)
  cases hfind : c.slotOf id with
  | none =>
      have hno := List.findIdx?_eq_none_iff.mp hfind s hs
      rw [hid] at hno
      exact Bool.noConfusion hno
  | some i =>
      obtain ⟨hlt, hfound, _⟩ := List.findIdx?_eq_some_iff_getElem.mp hfind
      exact ⟨i, _, rfl, List.getElem?_eq_getElem hlt, hfound⟩

theorem Shows.slotOf_none {me id : Int} {slots : Nat} {v : RoomView} {clicked : Bool}
    {c : MultiPlayState} (h : Shows me slots v clicked c) (hno : ¬ v.member id) :
    c.slotOf id = none := by
  refine List.findIdx?_eq_none_iff.mpr fun s hs => Bool.eq_false_iff.mpr fun hid => hno ?_
  exact (h.member id).mpr (mem_idsWhere.mpr ⟨s, hs, hid, rfl⟩)

/-- One slot is another one now: what that means for the picture. -/
theorem mem_idsWhere_set {c : MultiPlayState} {i : Nat} {s : TetrisSession}
    (hs : c.players[i]? = some s) (s' : TetrisSession) (P : TetrisSession → Bool) (id : Int) :
    (id ∈ idsWhere { c with players := c.players.set i s' } P ↔
      Others c.players i (fun x => x.hasId id = true ∧ P x = true) ∨
      (s'.hasId id = true ∧ P s' = true)) ∧
    (id ∈ c.idsWhere P ↔
      Others c.players i (fun x => x.hasId id = true ∧ P x = true) ∨
      (s.hasId id = true ∧ P s = true)) := by
  refine ⟨mem_idsWhere.trans ?_, mem_idsWhere.trans (exists_mem_iff hs _)⟩
  exact exists_set_iff (List.getElem?_eq_some_iff.mp hs).1 s' _

theorem sound_set {me : Int} {c : MultiPlayState} {i : Nat} {s' : TetrisSession}
    (h : ∀ s ∈ c.players, s.Sound me) (hs' : s'.Sound me) :
    ∀ s ∈ c.players.set i s', s.Sound me := by
  intro s hs
  rcases List.mem_or_eq_of_mem_set hs with hs | rfl
  · exact h s hs
  · exact hs'

/-- No free slot has its button pressed. -/
def AllFresh (c : MultiPlayState) : Prop := ∀ s ∈ c.players, s.session = none → s.unpressed = true

/-- The slot the next newcomer gets does not have its button pressed. -/
def FreshSlot (c : MultiPlayState) : Prop :=
  ∀ (i : Nat) (s : TetrisSession), c.freeSlot = some i → c.players[i]? = some s →
    s.unpressed = true

theorem freeSlot_vacant {c : MultiPlayState} {i : Nat} {s : TetrisSession}
    (hi : c.freeSlot = some i) (hs : c.players[i]? = some s) : s.session = none := by
  obtain ⟨hlt, hfree, _⟩ := List.findIdx?_eq_some_iff_getElem.mp hi
  rw [List.getElem?_eq_getElem hlt] at hs
  exact Option.some.inj hs ▸ Option.isNone_iff_eq_none.mp hfree

theorem AllFresh.freshSlot {c : MultiPlayState} (h : c.AllFresh) : c.FreshSlot :=
  fun _ s hi hs => h s (List.mem_of_getElem? hs) (freeSlot_vacant hi hs)

/-- A slot that is taken does not count. -/
theorem allFresh_set {c : MultiPlayState} {i : Nat} {s' : TetrisSession} (h : c.AllFresh)
    (hs' : s'.session ≠ none) : AllFresh { c with players := c.players.set i s' } := by
  intro s hs hnone
  rcases List.mem_or_eq_of_mem_set hs with hs | rfl
  · exact h s hs hnone
  · exact absurd hnone hs'

theorem Shows.freeSlot {me : Int} {slots : Nat} {v : RoomView} {clicked : Bool}
    {c : MultiPlayState} (h : Shows me slots v clicked c) (hroom : v.count < slots) :
    ∃ i s, c.freeSlot = some i ∧ c.players[i]? = some s ∧ s.session = none := by
  cases hfind : c.freeSlot with
  | some i =>
      obtain ⟨hlt, hfree, _⟩ := List.findIdx?_eq_some_iff_getElem.mp hfind
      exact ⟨i, _, rfl, List.getElem?_eq_getElem hlt, Option.isNone_iff_eq_none.mp hfree⟩
  | none =>
      have hall : c.ids.countP Option.isSome = c.ids.length := by
        refine List.countP_eq_length.mpr fun o ho => ?_
        obtain ⟨s, hs, rfl⟩ := List.mem_map.mp ho
        have hno := List.findIdx?_eq_none_iff.mp hfind s hs
        cases hsession : s.session with
        | none => rw [hsession] at hno; exact Bool.noConfusion hno
        | some _ => rfl
      have hcount := h.seats.count
      rw [hall, ids, List.length_map, h.length] at hcount
      omega

theorem Shows.hostPlayer {me : Int} {slots : Nat} {v : RoomView} {clicked : Bool}
    {c : MultiPlayState} (h : Shows me slots v clicked c) (hne : c.hostIndex ≠ -1) :
    ∃ s, c.hostPlayer = some s := by
  obtain ⟨i, hi, hlt⟩ := h.hostIndex.resolve_left hne
  have hlt : i < c.players.length := h.length ▸ hlt
  refine ⟨c.players[i], ?_⟩
  unfold MultiPlayState.hostPlayer
  rw [hi, pyIndex_natCast hlt]
  exact List.getElem?_eq_getElem hlt

/-- **Somebody new is shown in a free slot.** -/
theorem addUser_ok {me id : Int} {slots : Nat} {v : RoomView} {clicked : Bool} {c : MultiPlayState}
    {name : String} (h : Shows me slots v clicked c)
    (hsense : v.Sensible me slots (.addPlayer id name)) (hfresh : c.FreshSlot) :
    Ok (c.addUser ⟨id, name, false⟩) fun c' =>
      Shows me slots (v.apply (.addPlayer id name)) clicked c' ∧ (c.AllFresh → c'.AllFresh) := by
  obtain ⟨hnew, hroom⟩ := hsense
  obtain ⟨i, s, hfree, hs, hnone⟩ := h.freeSlot hroom
  have hsound := h.sound s (List.mem_of_getElem? hs)
  have hunpressed := hfresh i s hfree hs
  have hother : ∀ x, s.hasId x = false := fun x => by rw [TetrisSession.hasId, hnone]; rfl
  have hid : id ≠ me := fun hc => hnew (hc ▸ h.here)
  have hlt := (List.getElem?_eq_some_iff.mp hs).1
  let s' := s.initSession ⟨id, name, false⟩
  have hslots := @modify_eq_set _ c.players i s hs (·.initSession ⟨id, name, false⟩)
  have hshows : Shows me slots (v.apply (.addPlayer id name)) clicked
      { c with players := c.players.set i s' } := by
    have hset := fun P x => @mem_idsWhere_set c i s hs s' P x
    refine ⟨h.staying, .inr h.here, List.length_set.trans h.length, sound_set h.sound ?_, ?_,
      fun x => ?_, fun x => ?_, h.hostIndex, fun x => ?_, h.early⟩
    · exact hsound.initSession hnone (by simp [hid])
    · rw [ids_set]
      refine h.seats.add (by rw [ids_slot hs, hnone]; rfl) fun j hj => hnew ((h.member id).mpr ?_)
      rw [ids, List.getElem?_map, Option.map_eq_some_iff] at hj
      obtain ⟨t, ht, htid⟩ := hj
      exact mem_idsWhere.mpr ⟨t, List.mem_of_getElem? ht,
        TetrisSession.hasId_iff.mpr (Option.map_eq_some_iff.mp htid), rfl⟩
    · show (x = id ∨ v.member x) ↔ _
      rw [h.member x, memberIds, memberIds, (hset _ x).1, (hset _ x).2, hother x]
      rw [show s'.hasId x = true ↔ x = id from decide_eq_true_iff.trans eq_comm, or_comm]
      simp
    · refine (h.host x).trans ?_
      rw [hostIds, hostIds, (hset _ x).1, (hset _ x).2, hother x]
      simp [s', TetrisSession.initSession, hsound.vacant hnone]
    · refine (h.ready x).trans ?_
      rw [readyIds, readyIds, (hset _ x).1, (hset _ x).2, hother x]
      simp [s', TetrisSession.showsReady_of_unpressed hunpressed]
  have hkept : c.AllFresh → AllFresh { c with players := c.players.set i s' } :=
    fun hall => allFresh_set hall (by simp [s', TetrisSession.initSession])
  unfold addUser
  rw [if_neg (by rw [h.slotOf_none hnew]; decide), hfree]
  dsimp only
  rw [hslots]
  split
  · rename_i hne
    obtain ⟨t, ht⟩ := hshows.hostPlayer hne
    rw [ht]
    exact .pure ⟨hshows, hkept⟩
  · exact .pure ⟨hshows, hkept⟩

/-- **The slot of somebody who left is free.** -/
theorem deleteUser_ok {me id : Int} {slots : Nat} {v : RoomView} {clicked : Bool}
    {c : MultiPlayState} (h : Shows me slots v clicked c)
    (hsense : v.Sensible me slots (.removePlayer id)) :
    Ok (c.deleteUser id) (Shows me slots (v.apply (.removePlayer id)) clicked) := by
  obtain ⟨hmember, hid⟩ := hsense
  obtain ⟨i, s, hslot, hs, hsid⟩ := h.slotOf hmember
  have hsound := h.sound s (List.mem_of_getElem? hs)
  obtain ⟨session, hsession, rfl⟩ := TetrisSession.hasId_iff.mp hsid
  have hself : session.isSelf = false :=
    Bool.eq_false_iff.mpr fun hc => hid ((hsound.isSelf session hsession).mp hc)
  have hgone : ∀ (P : TetrisSession → Bool) (x : Int),
      x ∈ idsWhere { c with players := c.players.set i s.clear } P ↔
      x ≠ session.id ∧ x ∈ c.idsWhere P := by
    intro P x
    obtain ⟨hnow, hbefore⟩ := @mem_idsWhere_set c i s hs s.clear P x
    rw [hnow, hbefore]
    constructor
    · rintro (hothers | ⟨hc, _⟩)
      · refine ⟨fun hx => ?_, .inl hothers⟩
        subst hx
        exact h.alone hs hsid _ hothers
      · rw [TetrisSession.hasId_clear] at hc
        exact Bool.noConfusion hc
    · rintro ⟨hx, hothers | ⟨hc, _⟩⟩
      · exact .inl hothers
      · obtain ⟨y, hy, rfl⟩ := TetrisSession.hasId_iff.mp hc
        rw [hsession] at hy
        exact absurd (congrArg Session.id (Option.some.inj hy).symm) hx
  unfold deleteUser
  rw [hslot]
  dsimp only
  rw [hs, Option.bind_eq_bind, Option.bind_some, hsession, Option.bind_eq_bind, Option.bind_some,
    if_neg (by simp [hself]), @modify_eq_set _ c.players i s hs]
  refine .pure ⟨h.staying, ⟨Ne.symm hid, h.here⟩, List.length_set.trans h.length,
    sound_set h.sound ?_, ?_,
    fun x => ?_, fun x => ?_, h.hostIndex, fun x => ?_, fun hc hready => h.early hc hready.2⟩
  · refine hsound.clear (Bool.eq_false_iff.mpr fun hc => hid ?_)
    obtain ⟨y, hy, hyme⟩ := TetrisSession.hasId_iff.mp hc
    rw [hsession] at hy
    rw [← hyme, Option.some.inj hy]
  · rw [ids_set]
    exact h.seats.remove (by rw [ids_slot hs, hsession]; rfl)
  · show (x ≠ session.id ∧ v.member x) ↔ _
    rw [h.member x]
    exact (hgone _ x).symm
  · show (if v.host = some session.id then none else v.host) = some x ↔ _
    refine Iff.trans ?_ (hgone _ x).symm
    rw [← hostIds, ← h.host x]
    split
    · rename_i hhost
      rw [hhost]
      simp [eq_comm]
    · rename_i hhost
      constructor
      · intro hx
        exact ⟨fun hc => hhost (hc ▸ hx), hx⟩
      · exact fun hx => hx.2
  · show (x ≠ session.id ∧ v.ready x) ∨ _ ↔ _
    refine Iff.trans ?_ (hgone _ x).symm
    rw [← readyIds, ← h.ready x]
    have hme : x = me → x ≠ session.id := fun hx hc => hid (hc.symm.trans hx)
    tauto

/-- One slot is changed, but not who is in it. -/
theorem Shows.of_set {me : Int} {slots i : Nat} {v : RoomView} {clicked : Bool}
    {c : MultiPlayState}
    {s s' : TetrisSession} (h : Shows me slots v clicked c) (v' : RoomView) (clicked' : Bool)
    (hs : c.players[i]? = some s) (hsound : s'.Sound me)
    (hsession : s'.session = s.session) (hmember : v'.member = v.member)
    (hcount : v'.count = v.count) (hostIndex : Int)
    (hindex : hostIndex = -1 ∨ ∃ i : Nat, hostIndex = (i : Int) ∧ i < slots)
    (hhost : ∀ id, v'.host = some id ↔
      Others c.players i (fun x => x.hasId id = true ∧ x.isHost = true) ∨
      (s.hasId id = true ∧ s'.isHost = true))
    (hready : ∀ id, v'.ready id ∨ (clicked' = true ∧ id = me) ↔
      Others c.players i (fun x => x.hasId id = true ∧ x.showsReady = true) ∨
        (s.hasId id = true ∧ s'.showsReady = true))
    (hearly : clicked' = true → ¬ v'.ready me) :
    Shows me slots v' clicked'
      { c with players := c.players.set i s', hostIndex := hostIndex } := by
  have hsame : ∀ id, s'.hasId id = s.hasId id := fun id => by
    rw [TetrisSession.hasId, hsession]
    rfl
  have hset := fun P x => @mem_idsWhere_set c i s hs s' P x
  have hids : ids { c with players := c.players.set i s', hostIndex := hostIndex } = c.ids := by
    refine (@ids_set c i s').trans ?_
    obtain ⟨hlt, heq⟩ := List.getElem?_eq_some_iff.mp (ids_slot hs)
    rw [hsession, ← heq, List.set_getElem_self]
  refine ⟨h.staying, ?_, List.length_set.trans h.length, sound_set h.sound hsound, ?_,
    fun x => ?_, fun x => ?_, hindex, fun x => ?_, hearly⟩
  · rw [hmember]
    exact h.here
  · rw [hids, hcount]
    exact h.seats
  · rw [hmember, h.member x]
    refine (hset _ x).2.trans (Iff.trans ?_ (hset _ x).1.symm)
    rw [hsame x]
  · refine (hhost x).trans (Iff.trans ?_ (hset _ x).1.symm)
    rw [hsame x]
  · refine (hready x).trans (Iff.trans ?_ (hset _ x).1.symm)
    rw [hsame x]

theorem ready_others_iff {P : Prop} {me id x : Int} {clicked : Bool} :
    (x ≠ id ∧ P) ∨ ((clicked && !decide (id = me)) = true ∧ x = me) ↔
      x ≠ id ∧ (P ∨ (clicked = true ∧ x = me)) := by
  rw [and_or_left]
  refine or_congr_right ?_
  constructor
  · rintro ⟨hc, rfl⟩
    obtain ⟨hc, hid⟩ := Bool.and_eq_true_iff.mp hc
    exact ⟨fun heq => by simp [heq] at hid, hc, rfl⟩
  · rintro ⟨hne, hc, rfl⟩
    exact ⟨by simp [hc, Ne.symm hne], rfl⟩

/-- **The crown goes to the slot of the new host.** -/
theorem updateHost_ok {me id : Int} {slots : Nat} {v : RoomView} {clicked : Bool}
    {c : MultiPlayState} (h : Shows me slots v clicked c)
    (hsense : v.Sensible me slots (.updateHost id)) :
    Ok (c.updateHost id) fun c' =>
      Shows me slots (v.apply (.updateHost id)) (clicked && !answers me (.updateHost id)) c' ∧
        (c.AllFresh → c'.AllFresh) := by
  obtain ⟨hmember, hnone⟩ := hsense
  obtain ⟨i, s, hslot, hs, hsid⟩ := h.slotOf hmember
  have hlt := (List.getElem?_eq_some_iff.mp hs).1
  have hnohost : ∀ x ∈ c.players, ∀ y, x.hasId y = true → x.isHost = false := by
    intro x hx y hy
    refine Bool.eq_false_iff.mpr fun hc => ?_
    have hsome := (h.host y).mpr (mem_idsWhere.mpr ⟨x, hx, hy, hc⟩)
    rw [hnone] at hsome
    exact absurd hsome (by simp)
  obtain ⟨s', hs', hsound, hsession, hhost, hready⟩ := TetrisSession.setIsHost_ok
    (h.sound s (List.mem_of_getElem? hs)) hsid (hnohost s (List.mem_of_getElem? hs) id hsid)
  have hshows : Shows me slots (v.apply (.updateHost id)) (clicked && !answers me (.updateHost id))
      { c with players := c.players.set i s', hostIndex := (i : Int) } := by
    refine h.of_set (v.apply (.updateHost id)) _ hs hsound hsession rfl rfl i
      (.inr ⟨i, rfl, h.length ▸ hlt⟩) (fun x => ?_) (fun x => ?_)
      fun hc hr => h.early (Bool.and_eq_true_iff.mp hc).1 hr.2
    · show some id = some x ↔ _
      rw [hhost]
      constructor
      · intro hx
        exact .inr ⟨Option.some.inj hx ▸ hsid, rfl⟩
      · rintro (⟨k, t, _, ht, htx, hthost⟩ | ⟨hx, _⟩)
        · rw [hnohost t (List.mem_of_getElem? ht) x htx] at hthost
          exact Bool.noConfusion hthost
        · obtain ⟨y, hy, rfl⟩ := TetrisSession.hasId_iff.mp hsid
          obtain ⟨z, hz, rfl⟩ := TetrisSession.hasId_iff.mp hx
          rw [hy] at hz
          rw [Option.some.inj hz]
    · show (x ≠ id ∧ v.ready x) ∨ ((clicked && !decide (id = me)) = true ∧ x = me) ↔ _
      rw [ready_others_iff, h.ready x, hready, readyIds, (@mem_idsWhere_set c i s hs s' _ x).2]
      constructor
      · rintro ⟨hx, hothers | ⟨hc, _⟩⟩
        · exact .inl hothers
        · obtain ⟨y, hy, rfl⟩ := TetrisSession.hasId_iff.mp hsid
          obtain ⟨z, hz, rfl⟩ := TetrisSession.hasId_iff.mp hc
          rw [hy] at hz
          exact absurd (congrArg Session.id (Option.some.inj hz).symm) hx
      · rintro (hothers | ⟨_, hc⟩)
        · refine ⟨fun hx => ?_, .inl hothers⟩
          subst hx
          exact h.alone hs hsid _ hothers
        · exact Bool.noConfusion hc
  obtain ⟨session, hsome, _⟩ := TetrisSession.hasId_iff.mp hsid
  have hpointed : hostPlayer { c with players := c.players.set i s', hostIndex := (i : Int) } =
      some s' := by
    unfold hostPlayer
    dsimp only
    rw [List.length_set, pyIndex_natCast hlt]
    exact List.getElem?_set_self hlt
  unfold updateHost
  rw [hslot]
  dsimp only
  simp only [hs, hs', hpointed, hsession, hsome, Option.bind_eq_bind, Option.bind_some]
  refine .pure ⟨hshows, fun hall => ?_⟩
  exact @allFresh_set c i s' hall (by rw [hsession, hsome]; simp)

/-- **The button of a guest is set to what the server says.** -/
theorem setReady_ok {me id : Int} {slots : Nat} {v : RoomView} {clicked : Bool}
    {c : MultiPlayState} {isReady : Bool} (h : Shows me slots v clicked c)
    (hsense : v.Sensible me slots (.ready id isReady)) :
    Ok (c.setReady id isReady) (Shows me slots (v.apply (.ready id isReady))
      (clicked && !answers me (.ready id isReady))) := by
  obtain ⟨hmember, hguest⟩ := hsense
  obtain ⟨i, s, hslot, hs, hsid⟩ := h.slotOf hmember
  have hhost : s.isHost = false := by
    refine Bool.eq_false_iff.mpr fun hc => hguest ?_
    exact (h.host id).mpr (mem_idsWhere.mpr ⟨s, List.mem_of_getElem? hs, hsid, hc⟩)
  obtain ⟨s', hs', hsound, hsession, hsame, hready⟩ := TetrisSession.setReady_ok
    (h.sound s (List.mem_of_getElem? hs)) hhost isReady
  unfold setReady
  rw [hslot]
  dsimp only
  simp only [hs, hs', Option.bind_eq_bind, Option.bind_some]
  refine .pure (h.of_set (v.apply (.ready id isReady)) _ hs hsound hsession rfl rfl
    c.hostIndex h.hostIndex (fun x => ?_) (fun x => ?_) fun hc hr => ?_)
  · refine (h.host x).trans ?_
    rw [hostIds, (@mem_idsWhere_set c i s hs s' _ x).2, hsame]
  · show (if x = id then isReady = true else v.ready x) ∨
      ((clicked && !decide (id = me)) = true ∧ x = me) ↔ _
    rw [hready]
    split
    · rename_i hx
      subst hx
      constructor
      · rintro (hr | ⟨hc, hme⟩)
        · exact .inr ⟨hsid, hr⟩
        · simp [hme] at hc
      · rintro (hothers | ⟨_, hr⟩)
        · exact absurd hothers (h.alone hs hsid _)
        · exact .inl hr
    · rename_i hx
      have hother : s.hasId x = false := by
        refine Bool.eq_false_iff.mpr fun hc => hx ?_
        obtain ⟨y, hy, rfl⟩ := TetrisSession.hasId_iff.mp hsid
        obtain ⟨z, hz, rfl⟩ := TetrisSession.hasId_iff.mp hc
        rw [hy] at hz
        rw [Option.some.inj hz]
      have hclicked : (clicked && !decide (id = me)) = true ∧ x = me ↔ clicked = true ∧ x = me :=
        and_congr_left fun hme => by simp [show ¬ id = me from fun hc => hx (hme.trans hc.symm)]
      rw [hclicked, h.ready x, readyIds, (@mem_idsWhere_set c i s hs s' _ x).2, hother]
      simp
  · obtain ⟨hc, hid⟩ := Bool.and_eq_true_iff.mp hc
    have hme : ¬ me = id := fun heq => by simp [answers, heq] at hid
    exact h.early hc ((if_neg hme).mp hr)

/-- **After a game nobody is ready.** -/
theorem resetRoom_shows {me id : Int} {slots : Nat} {v : RoomView} {clicked : Bool}
    {c : MultiPlayState} (h : Shows me slots v clicked c) :
    Shows me slots (v.apply (.gameEnd id)) false c.resetRoom := by
  let f (s : TetrisSession) : TetrisSession := if s.session.isSome then s.reset else s
  have hsession : ∀ s, (f s).session = s.session := by
    intro s
    show TetrisSession.session (if _ then _ else _) = _
    split <;> rfl
  have hhasId : ∀ s x, (f s).hasId x = s.hasId x := fun s x => by
    rw [TetrisSession.hasId, hsession]
    rfl
  have hids : c.resetRoom.ids = c.ids := by
    unfold ids resetRoom
    rw [List.map_map]
    exact List.map_congr_left fun s _ => congrArg _ (hsession s)
  have hmem : ∀ (P : TetrisSession → Bool) (x : Int), x ∈ c.resetRoom.idsWhere P ↔
      ∃ s ∈ c.players, s.hasId x = true ∧ P (f s) = true := by
    intro P x
    rw [mem_idsWhere]
    constructor
    · rintro ⟨t, ht, htx, hP⟩
      obtain ⟨s, hs, rfl⟩ := List.mem_map.mp ht
      exact ⟨s, hs, (hhasId s x).symm.trans htx, hP⟩
    · rintro ⟨s, hs, hx, hP⟩
      exact ⟨f s, List.mem_map_of_mem hs, (hhasId s x).trans hx, hP⟩
  refine ⟨h.staying, h.here, (List.length_map _).trans h.length,
    fun t ht => ?_, hids ▸ h.seats, fun x => ?_,
    fun x => ?_, h.hostIndex,
    fun x => ⟨fun hc => hc.elim False.elim fun hc => Bool.noConfusion hc.1, fun hc => ?_⟩,
    fun hc => Bool.noConfusion hc⟩
  · obtain ⟨s, hs, rfl⟩ := List.mem_map.mp ht
    split
    · exact (h.sound s hs).reset
    · exact h.sound s hs
  · exact (h.member x).trans (mem_idsWhere.trans (hmem (fun _ => true) x).symm)
  · refine (h.host x).trans (mem_idsWhere.trans (Iff.trans ?_ (hmem _ x).symm))
    have hsame : ∀ s, (f s).isHost = s.isHost := by
      intro s
      show TetrisSession.isHost (if _ then _ else _) = _
      split <;> rfl
    simp only [hsame]
  · obtain ⟨s, _, hx, hready⟩ := (hmem _ x).mp hc
    have hsome : s.session.isSome = true := by
      obtain ⟨y, hy, _⟩ := TetrisSession.hasId_iff.mp hx
      rw [hy]
      rfl
    have hreset : f s = s.reset := if_pos hsome
    rw [hreset, TetrisSession.showsReady_reset] at hready
    exact Bool.noConfusion hready

/-! ## Clicks -/

theorem handleEvent_fst (c : MultiPlayState) (playing hits : Nat → Bool) :
    (c.handleEvent playing hits).1 =
    { c with players := c.players.mapIdx fun i s => (s.handleEvent (playing i) (hits i)).1 } := by
  unfold handleEvent
  dsimp only
  congr 1
  refine List.ext_getElem? fun i => ?_
  rw [List.getElem?_map, List.getElem?_mapIdx, List.getElem?_mapIdx, Option.map_map]
  rfl

/-- Nothing changes but, perhaps, the own slot. -/
theorem handleEvent_cases {me : Int} {slots : Nat} {v : RoomView} {clicked : Bool}
    {c : MultiPlayState} (h : Shows me slots v clicked c) (playing hits : Nat → Bool) :
    (c.handleEvent playing hits).1 = c ∨ ∃ (i : Nat) (s s' : TetrisSession),
      c.players[i]? = some s ∧
      s.hasId me = true ∧ s.showsReady = false ∧ s'.Sound me ∧ s'.session = s.session ∧
      s'.isHost = s.isHost ∧
      s'.showsReady = true ∧ (c.handleEvent playing hits).1 =
        { c with players := c.players.set i s' } := by
  let f (i : Nat) (s : TetrisSession) : TetrisSession := (s.handleEvent (playing i) (hits i)).1
  rw [handleEvent_fst]
  show MultiPlayState.mk (c.players.mapIdx f) _ _ = c ∨ _
  by_cases hsame : ∀ (i : Nat) (s : TetrisSession), c.players[i]? = some s → f i s = s
  · have hplayers : c.players.mapIdx f = c.players := by
      refine List.ext_getElem? fun i => ?_
      rw [List.getElem?_mapIdx]
      cases hs : c.players[i]? with
      | none => rfl
      | some s => exact congrArg some (hsame i s hs)
    exact .inl (by rw [hplayers])
  · simp only [not_forall] at hsame
    obtain ⟨i, s, hs, hne⟩ := hsame
    obtain ⟨hid, hbefore, hsound, hsession, hhost, hafter⟩ := (TetrisSession.handleEvent_cases
      (h.sound s (List.mem_of_getElem? hs)) (playing i) (hits i)).resolve_left hne
    have hplayers : c.players.mapIdx f = c.players.set i (f i s) := by
      refine List.ext_getElem? fun k => ?_
      rw [List.getElem?_mapIdx]
      by_cases hk : k = i
      · subst hk
        rw [hs, List.getElem?_set_self (List.getElem?_eq_some_iff.mp hs).1]
        rfl
      · rw [List.getElem?_set_ne (Ne.symm hk)]
        cases ht : c.players[k]? with
        | none => rfl
        | some t =>
            -- two slots with the own id there are not
            rcases TetrisSession.handleEvent_cases (h.sound t (List.mem_of_getElem? ht))
              (playing k) (hits k) with
              heq | ⟨hc, _⟩
            · exact congrArg some heq
            · exact absurd ⟨k, t, hk, ht, hc, trivial⟩ (h.alone hs hid fun _ => True)
    exact .inr ⟨i, s, f i s, hs, hid, hbefore, hsound, hsession, hhost, hafter, by rw [hplayers]⟩

/-- **A click the server has not seen** shows in the own slot and nowhere else. -/
theorem handleEvent_shows {me : Int} {slots : Nat} {v : RoomView} {clicked : Bool}
    {c : MultiPlayState} (h : Shows me slots v clicked c) (playing hits : Nat → Bool) :
    Shows me slots v (clicked || decide ((c.handleEvent playing hits).1 ≠ c))
      (c.handleEvent playing hits).1 := by
  rcases handleEvent_cases h playing hits with
    heq | ⟨i, s, s', hs, hid, hbefore, hsound, hsession, hhost, hafter, heq⟩
  · rw [heq]
    simpa using h
  · have hunready : me ∉ c.readyIds := fun hc => by
      rcases ((@mem_idsWhere_set c i s hs s' _ me).2).mp hc with hothers | ⟨_, hc⟩
      · exact h.alone hs hid _ hothers
      · rw [hbefore] at hc
        exact Bool.noConfusion hc
    have hready : ¬ v.ready me := fun hc => hunready ((h.ready me).mp (.inl hc))
    have hne : (c.handleEvent playing hits).1 ≠ c := by
      intro hc
      have hslot := congrArg (fun c' => c'.players[i]?) (heq.symm.trans hc)
      dsimp only at hslot
      rw [List.getElem?_set_self (List.getElem?_eq_some_iff.mp hs).1, hs] at hslot
      rw [Option.some.inj hslot, hbefore] at hafter
      exact Bool.noConfusion hafter
    rw [decide_eq_true hne, Bool.or_true, heq]
    refine h.of_set v true hs hsound hsession rfl rfl c.hostIndex h.hostIndex (fun x => ?_)
      (fun x => ?_) fun _ => hready
    · rw [h.host x, hostIds, (@mem_idsWhere_set c i s hs s' _ x).2, hhost]
    · have hothers :=
        (@mem_idsWhere_set c i s hs s' (·.showsReady) x).2.symm.trans (h.ready x).symm
      rw [hbefore] at hothers
      by_cases hx : x = me
      · subst hx
        simp [hid, hafter]
      · have hno : s.hasId x = false := by
          obtain ⟨y, hy, rfl⟩ := TetrisSession.hasId_iff.mp hid
          simpa [TetrisSession.hasId, hy] using Ne.symm hx
        simpa [hx, hno] using hothers.symm

theorem AllFresh.handleEvent {me : Int} {slots : Nat} {v : RoomView} {clicked : Bool}
    {c : MultiPlayState} (h : Shows me slots v clicked c) (hall : c.AllFresh)
    (playing hits : Nat → Bool) :
    (c.handleEvent playing hits).1.AllFresh := by
  rcases handleEvent_cases h playing hits with heq | ⟨i, s, s', _, hid, _, _, hsession, _, _, heq⟩
  · rwa [heq]
  · rw [heq]
    obtain ⟨session, hs, _⟩ := TetrisSession.hasId_iff.mp hid
    exact allFresh_set hall (by rw [hsession, hs]; simp)

theorem FreshSlot.handleEvent {me : Int} {slots : Nat} {v : RoomView} {clicked : Bool}
    {c : MultiPlayState} (h : Shows me slots v clicked c) (hfresh : c.FreshSlot)
    (playing hits : Nat → Bool) :
    (c.handleEvent playing hits).1.FreshSlot := by
  rcases handleEvent_cases h playing hits with heq | ⟨i, s, s', hs, hid, _, _, hsession, _, _, heq⟩
  · rwa [heq]
  · rw [heq]
    intro k t hk ht
    have hvacant := freeSlot_vacant hk ht
    have hfree : ∀ c' : MultiPlayState, c'.freeSlot = c'.ids.findIdx? (·.isNone) := fun c' => by
      rw [ids, List.findIdx?_map, freeSlot]
      simp only [Function.comp_def, Option.isNone_map]
    have hids : ids { c with players := c.players.set i s' } = c.ids := by
      rw [ids_set, hsession]
      obtain ⟨hlt, hget⟩ := List.getElem?_eq_some_iff.mp (ids_slot hs)
      rw [← hget, List.set_getElem_self]
    have hki : i ≠ k := by
      rintro rfl
      dsimp only at ht
      rw [List.getElem?_set_self (List.getElem?_eq_some_iff.mp hs).1] at ht
      obtain ⟨session, hsome, _⟩ := TetrisSession.hasId_iff.mp hid
      rw [← Option.some.inj ht, hsession, hsome] at hvacant
      exact absurd hvacant (by simp)
    dsimp only at ht
    rw [List.getElem?_set_ne hki] at ht
    exact hfresh k t (by rw [hfree, ← hids, ← hfree, hk]) ht

/-! ## Packets -/

/-- **Every packet that makes sense is shown**; a newcomer needs a slot that looks unused. -/
theorem handlePacket_ok {me : Int} {slots : Nat} {v : RoomView} {clicked : Bool}
    {c : MultiPlayState} {packet : S2CPacket} (h : Shows me slots v clicked c)
    (hsense : v.Sensible me slots packet)
    (hfresh : ∀ id name, packet = .addPlayer id name → c.FreshSlot) :
    Ok (c.handlePacket packet) (Shows me slots (v.apply packet) (clicked &&
      !answers me packet)) := by
  have hkept : Shows me slots v (clicked && true) c := by simpa using h
  cases packet with
  | addPlayer id name => exact (addUser_ok hkept hsense (hfresh id name rfl)).mono fun _ hc => hc.1
  | removePlayer id => exact deleteUser_ok hkept hsense
  | updateHost id => exact (updateHost_ok h hsense).mono fun _ hc => hc.1
  | ready id isReady => exact setReady_ok h hsense
  | gameEnd id =>
      have hnow : (clicked && !answers me (.gameEnd id)) = false := by simp [answers]
      rw [hnow]
      exact .pure (resetRoom_shows h)
  | _ => exact .pure hkept

theorem handlePacket_quiet {c : MultiPlayState} {packet : S2CPacket}
    (h : packet.isRoomNews = false) :
    c.handlePacket packet = some c := by
  cases packet <;> first | rfl | exact Bool.noConfusion h

theorem enter_quiet {self : Session} {packet : S2CPacket} (h : packet.isRoomNews = false) :
    enter self packet = none := by
  cases packet <;> first | rfl | exact Bool.noConfusion h

/-- **A client that has just entered shows itself**, and its other slots are unused. -/
theorem shows_arrival {self : Session} (hself : self.isSelf = true) (n : Nat) :
    Shows self.id (n + 1) (.arrival self.id) false ⟨TetrisSession.new.initSession self ::
      List.replicate n .new, -1, false⟩ ∧
      AllFresh ⟨TetrisSession.new.initSession self :: List.replicate n .new, -1, false⟩ := by
  have hmem : ∀ (P : TetrisSession → Bool) (x : Int),
      x ∈ idsWhere ⟨TetrisSession.new.initSession self :: List.replicate n .new, -1, false⟩ P ↔
        x = self.id ∧ P (TetrisSession.new.initSession self) = true := by
    intro P x
    rw [mem_idsWhere]
    constructor
    · rintro ⟨s, hs, hid, hP⟩
      rcases List.mem_cons.mp hs with rfl | hs
      · exact ⟨(of_decide_eq_true hid).symm, hP⟩
      · rw [List.eq_of_mem_replicate hs] at hid
        exact absurd hid (by simp [TetrisSession.hasId, TetrisSession.new])
    · rintro ⟨rfl, hP⟩
      exact ⟨_, List.mem_cons_self, decide_eq_true rfl, hP⟩
  have hslots : ∀ {Q : TetrisSession → Prop}, Q (TetrisSession.new.initSession self) → Q .new →
      ∀ s ∈ TetrisSession.new.initSession self :: List.replicate n .new, Q s := by
    intro Q hfirst hrest s hs
    rcases List.mem_cons.mp hs with rfl | hs
    · exact hfirst
    · rw [List.eq_of_mem_replicate hs]
      exact hrest
  refine ⟨⟨rfl, rfl, ?_, hslots ?_ (TetrisSession.sound_new _), ⟨fun i j id hi hj => ?_, ?_⟩,
    fun x => ?_, fun x => ?_,
    .inl rfl,
    fun x => ?_, fun hc => Bool.noConfusion hc⟩, hslots (fun hc => absurd hc ?_) fun _ => rfl⟩
  · show (List.replicate n _).length + 1 = n + 1
    rw [List.length_replicate]
  · exact (TetrisSession.sound_new _).initSession rfl (by simp [hself])
  · have hzero : ∀ k : Nat,
        (ids ⟨TetrisSession.new.initSession self :: List.replicate n .new, -1, false⟩)[k]? =
        some (some id) → k = 0 := by
      intro k hk
      cases k with
      | zero => rfl
      | succ k =>
          simp [ids, List.getElem?_replicate, TetrisSession.new] at hk
    rw [hzero i hi, hzero j hj]
  · simp [ids, RoomView.arrival, TetrisSession.new, TetrisSession.initSession,
      List.countP_replicate]
  · rw [memberIds, hmem]
    simp [RoomView.arrival]
  · rw [hostIds, hmem]
    simp [RoomView.arrival, TetrisSession.new, TetrisSession.initSession]
  · rw [readyIds, hmem]
    show _ ↔ x = self.id ∧ (TetrisSession.new.initSession self).showsReady = true
    rw [TetrisSession.showsReady_initSession]
    simp [RoomView.arrival, TetrisSession.showsReady, TetrisSession.new]
  · simp [TetrisSession.initSession]

end MultiPlayState

/-! ## Packets and clicks in turn -/

def packetsOf (inputs : List Input) : List S2CPacket := inputs.filterMap Input.packet?

namespace Watched

/-- The watched client of the player `me` shows the picture `v`. -/
def Shows (me : Int) (slots : Nat) (v : RoomView) (w : Watched) : Prop :=
  MultiPlayState.Shows me slots v w.clicked w.client

theorem take_packet {me : Int} {slots : Nat} {v : RoomView} {w : Watched} {packet : S2CPacket}
    (h : w.Shows me slots v) (hsense : v.Sensible me slots packet)
    (hfresh : ∀ id name, packet = .addPlayer id name → w.client.FreshSlot) :
    Ok (w.take me (.packet packet)) (Shows me slots (v.apply packet)) :=
  (MultiPlayState.handlePacket_ok h hsense hfresh).bind fun _ hc => .pure hc

/--
**Packets and clicks in any order** leave a right picture, one that the packets alone make;
a newcomer is announced alone, and to a slot that looks unused.
-/
theorem takeAll_ok {me : Int} {slots : Nat} {inputs : List Input} {v : RoomView} {w : Watched}
    (h : w.Shows me slots v) (hsense : v.SensibleAll me slots (packetsOf inputs))
    (hfresh : ∀ id name, .addPlayer id name ∈ packetsOf inputs →
      packetsOf inputs = [.addPlayer id name] ∧ w.client.FreshSlot) :
    Ok (takeAll me w inputs) (Shows me slots (v.applyAll (packetsOf inputs))) := by
  induction inputs generalizing v w with
  | nil => exact .pure h
  | cons input rest ih =>
      rw [takeAll, if_neg (by rw [h.staying]; decide)]
      cases input with
      | event playing hits =>
          refine ih (MultiPlayState.handleEvent_shows h playing hits) hsense fun id name hc => ?_
          obtain ⟨hone, hslot⟩ := hfresh id name hc
          exact ⟨hone, hslot.handleEvent h playing hits⟩
      | packet packet =>
          have hstep := take_packet h hsense.1 fun id name heq =>
            (hfresh id name (heq ▸ List.mem_cons_self)).2
          refine hstep.bind fun w' h' => ih h' hsense.2 fun id name hc => ?_
          obtain ⟨hone, _⟩ := hfresh id name (List.mem_cons_of_mem _ hc)
          have hnone : packetsOf rest = [] := (List.cons.inj hone).2
          rw [hnone] at hc
          exact absurd hc List.not_mem_nil

/-- The packets a newcomer is welcomed with. -/
theorem takeAll_welcome {me : Int} {slots : Nat} {inputs : List Input} {v : RoomView} {w : Watched}
    (h : w.Shows me slots v) (hsense : v.SensibleAll me slots (packetsOf inputs))
    (hall : w.client.AllFresh)
    (honly : ∀ packet ∈ packetsOf inputs, (∃ id name, packet = .addPlayer id name) ∨ ∃ id,
      packet = .updateHost id) :
    Ok (takeAll me w inputs) (Shows me slots (v.applyAll (packetsOf inputs))) := by
  induction inputs generalizing v w with
  | nil => exact .pure h
  | cons input rest ih =>
      rw [takeAll, if_neg (by rw [h.staying]; decide)]
      cases input with
      | event playing hits =>
          exact ih (MultiPlayState.handleEvent_shows h playing hits) hsense
            (hall.handleEvent h playing hits) honly
      | packet packet =>
          have hstep : Ok (w.take me (.packet packet)) fun w' =>
              w'.Shows me slots (v.apply packet) ∧ w'.client.AllFresh := by
            rcases honly packet List.mem_cons_self with ⟨id, name, rfl⟩ | ⟨id, rfl⟩
            · have hkept : MultiPlayState.Shows me slots v (w.clicked && true) w.client := by
                rw [Bool.and_true]
                exact h
              exact (MultiPlayState.addUser_ok hkept hsense.1 hall.freshSlot).bind fun _ hc =>
                .pure ⟨hc.1, hc.2 hall⟩
            · exact (MultiPlayState.updateHost_ok h hsense.1).bind fun _ hc =>
                .pure ⟨hc.1, hc.2 hall⟩
          exact hstep.bind fun w' h' => ih h'.1 hsense.2 h'.2 fun p hp =>
            honly p (List.mem_cons_of_mem _ hp)

/-- The input is a click, or news of the room. -/
def matters : Input → Bool
  | .packet packet => packet.isRoomNews
  | .event _ _ => true

theorem packetsOf_matters (inputs : List Input) :
    packetsOf (inputs.filter matters) = (packetsOf inputs).filter (·.isRoomNews) := by
  induction inputs with
  | nil => rfl
  | cons input rest ih =>
      cases input with
      | event playing hits => exact ih
      | packet packet =>
          cases hnews : packet.isRoomNews with
          | true =>
              rw [List.filter_cons_of_pos (show matters (.packet packet) = true from hnews)]
              show packet :: packetsOf (rest.filter matters) = (packet :: packetsOf rest).filter _
              rw [ih, List.filter_cons_of_pos hnews]
          | false =>
              rw [List.filter_cons_of_neg (by rw [matters, hnews]; decide), ih]
              exact (List.filter_cons_of_neg (by rw [hnews]; decide)).symm

theorem take_quiet {me : Int} {w : Watched} {packet : S2CPacket} (h : packet.isRoomNews = false) :
    w.take me (.packet packet) = some w := by
  have hanswers : answers me packet = false := by
    cases packet <;> first | rfl | exact Bool.noConfusion h
  rw [take, MultiPlayState.handlePacket_quiet h, hanswers]
  simp

/-- Only clicks and news of the room matter here. -/
theorem takeAll_news (me : Int) (inputs : List Input) (w : Watched) :
    takeAll me w inputs = takeAll me w (inputs.filter matters) := by
  induction inputs generalizing w with
  | nil => rfl
  | cons input rest ih =>
      cases hnews : matters input with
      | true =>
          rw [List.filter_cons_of_pos hnews, takeAll, takeAll, funext fun w' => ih w']
      | false =>
          rw [List.filter_cons_of_neg (by rw [hnews]; decide), ← ih, takeAll]
          split
          · rename_i hnext
            cases rest with
            | nil => rfl
            | cons _ _ => rw [takeAll, if_pos hnext]
          · cases input with
            | event _ _ => exact Bool.noConfusion hnews
            | packet packet => rw [take_quiet hnews, Option.bind_some]

theorem takeFromLobby_news (self : Session) (inputs : List Input) :
    takeFromLobby self inputs = takeFromLobby self (inputs.filter matters) := by
  induction inputs with
  | nil => rfl
  | cons input rest ih =>
      cases input with
      | event playing hits => exact ih
      | packet packet =>
          cases hnews : packet.isRoomNews with
          | true =>
              rw [List.filter_cons_of_pos (show matters (.packet packet) = true from hnews),
                takeFromLobby, takeFromLobby, ih]
              cases MultiPlayState.enter self packet with
              | none => rfl
              | some c => exact takeAll_news self.id rest _
          | false =>
              rw [List.filter_cons_of_neg (by rw [matters, hnews]; decide), ← ih, takeFromLobby,
                MultiPlayState.enter_quiet hnews]

/-- Clicks in the lobby do not matter to a room. -/
theorem takeFromLobby_enter {self : Session} {inputs : List Input} {packet : S2CPacket}
    {packets : List S2CPacket} {c : MultiPlayState}
    (hinputs : packetsOf inputs = packet :: packets)
    (henter : MultiPlayState.enter self packet = some c) :
    ∃ rest, packetsOf rest = packets ∧ takeFromLobby self inputs =
      takeAll self.id ⟨c, false⟩ rest := by
  induction inputs with
  | nil => exact absurd hinputs (by simp [packetsOf])
  | cons input rest ih =>
      cases input with
      | event playing hits => exact ih hinputs
      | packet first =>
          obtain ⟨rfl, hrest⟩ := List.cons.inj hinputs
          exact ⟨rest, hrest, by rw [takeFromLobby, henter]⟩

end Watched

end Client

end ProjectTetris

import Mathlib.Logic.Relation
import ProjectTetris.Rooms.RoomInv

/-!
# What happens to a slot

Whatever event a room handles, each of its slots goes through a number of small changes:
it is cleared, its inputs are queued, the engine advances it, its packets are built, and so
on. `SlotChange` lists them, and the theorem of this file is that nothing else happens to a
slot. A fact about slots that every change of the list keeps is kept by every event.
-/

namespace ProjectTetris

open Checked Slots

namespace TetrisRoom

/-- One thing that can happen to a slot of a room of this kind. -/
inductive SlotChange (kind : RoomKind) : Player → Player → Prop
  | cleared (p : Player) (now : Int) : SlotChange kind p (p.clearPlayer now)
  | joined (p : Player) (key : SessionKey) (now : Int) : SlotChange kind p (joinedSlot p key now)
  | started (p : Player) (type : TetrominoType) (now : Int) :
      SlotChange kind p (startedSlot p type now)
  | reset (p : Player) (now : Int) : SlotChange kind p (p.resetGameData now)
  | seated (p : Player) (state : RoomPlayerState) :
      SlotChange kind p { p with roomPlayerState := state }
  | queued (p : Player) (inputs : List Int) :
      SlotChange kind p { p with tetris := { p.tetris with inputTasks := inputs } }
  | noted (p : Player) : SlotChange kind p { p with prevRoomPlayerState := p.roomPlayerState }
  | ticked (p : Player) (t : Int) {s : Tetris} (hin : Tetris.InBoard p.tetris.currentTetromino)
      (h : p.tetris.processTick t = some s) : SlotChange kind p { p with tetris := s }
  | attacked (p : Player) (lines : Nat) :
      SlotChange kind p { p with tetris := p.tetris.addPendingGarbageLines lines }
  | raised (p : Player) (holes : Nat → Fin boardWidth) {s : Tetris}
      (h : p.tetris.addGarbageLines holes = some s) : SlotChange kind p { p with tetris := s }
  | judged (p : Player) (hkind : kind = .single) : SlotChange kind p (judged p)
  | told (p : Player) (extra : List TaskType) : SlotChange kind p (addTasks p extra)
  | delivered {p q : Player} (l : List TetrominoType) (h : Delivered l p q) : SlotChange kind p q
  | tidied (env : RoomEnv) (p : Player) : SlotChange kind p (tidy env p)

/-- Any number of changes, one after the other. -/
def Becomes (kind : RoomKind) : Player → Player → Prop :=
  Relation.ReflTransGen (SlotChange kind)

section Slots

variable {kind : RoomKind} {p q o : Player} {ps qs : List Player}

theorem Becomes.refl (p : Player) : Becomes kind p p := Relation.ReflTransGen.refl

theorem SlotChange.becomes (h : SlotChange kind p q) : Becomes kind p q := .single h

theorem Becomes.trans (h₁ : Becomes kind p q) (h₂ : Becomes kind q o) : Becomes kind p o :=
  Relation.ReflTransGen.trans h₁ h₂

/-- What every change keeps is kept. -/
theorem Becomes.keeps {I : Player → Prop} (hI : ∀ p q, SlotChange kind p q → I p → I q)
    (h : Becomes kind p q) (hp : I p) : I q := by
  induction h with
  | refl => exact hp
  | tail _ hstep ih => exact hI _ _ hstep ih

/-! ## Loops over the slots -/

theorem SlotWise.of_mapM {R : Player → Player → Prop} {f : Player → Option Player}
    (h : ps.mapM f = some qs) (hf : ∀ p ∈ ps, ∀ q, f p = some q → R p q) : SlotWise R ps qs := by
  refine ⟨length_mapM h, fun i p hp => ?_⟩
  have hi := getElem?_mapM h i
  rw [hp, Option.bind_some] at hi
  have hlt : i < qs.length := by
    rw [length_mapM h]
    exact (List.getElem?_eq_some_iff.mp hp).1
  obtain ⟨q, hq⟩ : ∃ q, qs[i]? = some q := ⟨_, List.getElem?_eq_getElem hlt⟩
  exact ⟨q, hq, hf p (List.mem_of_getElem? hp) q (hi.symm.trans hq)⟩

theorem becomes_trans {rs : List Player} (h₁ : SlotWise (Becomes kind) ps qs)
    (h₂ : SlotWise (Becomes kind) qs rs) : SlotWise (Becomes kind) ps rs :=
  h₁.comp h₂ fun _ _ _ => Becomes.trans

theorem becomes_modify {f : Player → Player} {i : Nat}
    (hf : ∀ p, ps[i]? = some p → SlotChange kind p (f p)) :
    SlotWise (Becomes kind) ps (ps.modify i f) :=
  .modify (fun p _ => .refl p) fun p hp => (hf p hp).becomes

theorem becomes_map {f : Player → Player} (hf : ∀ p ∈ ps, f p = p ∨ SlotChange kind p (f p)) :
    SlotWise (Becomes kind) ps (ps.map f) := by
  refine .map fun p hp => ?_
  rcases hf p hp with hsame | hchange
  · rw [hsame]
    exact .refl p
  · exact hchange.becomes

end Slots

/-! ## Events outside ticks -/

theorem slots_aside {r r' : TetrisRoom} (h : Aside r r') :
    SlotWise (Becomes r.kind) r.roomPlayers r'.roomPlayers := by
  rw [h.players]
  exact .refl fun p _ => .refl p

theorem slots_removed {r r' : TetrisRoom} {i : Nat} (h : Removed r i r') :
    SlotWise (Becomes r.kind) r.roomPlayers r'.roomPlayers := by
  refine ⟨h.length, fun j p hp => ?_⟩
  by_cases hij : j = i
  · subst hij
    obtain ⟨now, hcleared⟩ := h.slot p hp
    exact ⟨_, hcleared, (SlotChange.cleared p now).becomes⟩
  · obtain ⟨q, hq, hrel⟩ := h.others j p hij hp
    rcases hrel with rfl | ⟨_, rfl⟩
    · exact ⟨q, hq, .refl q⟩
    · exact ⟨_, hq, (SlotChange.seated p .wait).becomes⟩

/-- `ClearGame`, on the slots. -/
theorem slots_clearGame (r : TetrisRoom) (env : RoomEnv) :
    SlotWise (Becomes r.kind) r.roomPlayers (r.clearGame env).roomPlayers := by
  refine becomes_map (f := fun p => if (findSession env p).isSome then
    p.resetGameData (env.now p.sessionKey) else p) fun p _ => ?_
  split
  · exact .inr (.reset p _)
  · exact .inl rfl

theorem slots_handled {r r' : TetrisRoom} {env : RoomEnv} (h : Handled env r r') :
    SlotWise (Becomes r.kind) r.roomPlayers r'.roomPlayers := by
  cases h with
  | aside h => exact slots_aside h
  | refused i now _ _ h =>
      rw [h.players]
      exact becomes_modify fun p _ => .cleared p now
  | joined i now _ _ _ _ h =>
      rw [h.players]
      exact @becomes_modify _ r.roomPlayers _ _ fun p _ => .joined p _ now
  | removed i _ _ h => exact slots_removed h
  | toggled i h =>
      rw [h.players]
      exact becomes_modify fun p _ => .seated p _
  | started type h =>
      rw [h.players]
      refine becomes_map fun p _ => ?_
      split
      · exact .inr (.started p type _)
      · exact .inl rfl
  | gaveUp _ _ hrest =>
      rw [hrest]
      exact slots_clearGame r env

/-! ## Ticks -/

/-- `DistributeInput`s, on the slots. -/
theorem slots_distributeInputs (r : TetrisRoom) (env : RoomEnv) :
    SlotWise (Becomes r.kind) r.roomPlayers (r.distributeInputs env).roomPlayers := by
  obtain ⟨ps, heq, hps⟩ := distributeInputs_ok r env
  rw [heq]
  refine hps.comp (.refl fun p _ => rfl) ?_
  rintro p q _ ⟨⟨inputs, rfl⟩, _⟩ rfl
  exact (SlotChange.queued p inputs).becomes

/-- The engine, on the slots: every piece it is given is inside the board. -/
theorem slots_processTicks {r r' : TetrisRoom} {env : RoomEnv} {t : Int} {kind : RoomKind}
    (hin : ∀ p ∈ r.roomPlayers, (findSession env p).isSome = true →
      Tetris.InBoard p.tetris.currentTetromino)
    (h : r.processTicks env t = some r') :
    SlotWise (Becomes kind) r.roomPlayers r'.roomPlayers := by
  obtain ⟨ps, hps, hr'⟩ := Option.bind_eq_some_iff.mp h
  injection hr' with hr'
  subst hr'
  refine .of_mapM hps fun p hp q hq => ?_
  unfold processTickOf at hq
  split at hq
  · rename_i hsome
    obtain ⟨s, hs, hq⟩ := Option.bind_eq_some_iff.mp hq
    injection hq with hq
    subst hq
    exact (SlotChange.ticked p t (hin p hp hsome) hs).becomes
  · injection hq with hq
    subst hq
    exact .refl p

theorem slots_addGarbageLines {r r' : TetrisRoom} {env : RoomEnv} {kind : RoomKind}
    (h : r.addGarbageLines env = some r') :
    SlotWise (Becomes kind) r.roomPlayers r'.roomPlayers := by
  obtain ⟨ps, hps, hr'⟩ := Option.bind_eq_some_iff.mp h
  injection hr' with hr'
  subst hr'
  refine .of_mapM hps fun p hp q hq => ?_
  unfold addGarbageLinesTo at hq
  split at hq
  · obtain ⟨s, hs, hq⟩ := Option.bind_eq_some_iff.mp hq
    injection hq with hq
    subst hq
    exact (SlotChange.raised p _ hs).becomes
  · injection hq with hq
    subst hq
    exact .refl p

/-- One turn of `DistributeGarbageLines`, on the slot `j`. -/
theorem getElem?_attackFrom (r : TetrisRoom) (i j : Nat) :
    (MultiRoom.attackFrom r i).roomPlayers[j]? = r.roomPlayers[j]?.map fun p =>
      if MultiRoom.inPlay p ∧ i ≠ j ∧ MultiRoom.attackOf r i > 0 then
        { p with tetris := p.tetris.addPendingGarbageLines (MultiRoom.attackOf r i) }
      else p := List.getElem?_mapIdx

/-- The attacks, on the slots. -/
theorem slots_distributeGarbageLines (r : TetrisRoom) {kind : RoomKind} :
    SlotWise (Becomes kind) r.roomPlayers
      (MultiRoom.distributeGarbageLines r).roomPlayers := by
  have hloop : ∀ (is : List Nat) (r : TetrisRoom), SlotWise (Becomes kind) r.roomPlayers
      (is.foldl MultiRoom.attackFrom r).roomPlayers := by
    intro is
    induction is with
    | nil => exact fun r => .refl fun p _ => .refl p
    | cons i rest ih =>
        intro r
        refine becomes_trans ⟨List.length_mapIdx, fun j p hp => ?_⟩ (ih (MultiRoom.attackFrom r i))
        have hj := (getElem?_attackFrom r i j).trans (congrArg (Option.map _) hp)
        refine ⟨_, hj, ?_⟩
        dsimp only
        split
        · exact (SlotChange.attacked p _).becomes
        · exact .refl p
  exact hloop _ r

/-- The states of the last tick, on the slots. -/
theorem slots_updatePrevPlayerStates (r : TetrisRoom) {env : RoomEnv} {kind : RoomKind} :
    SlotWise (Becomes kind) r.roomPlayers
      (MultiRoom.updatePrevPlayerStates r env).roomPlayers := by
  unfold MultiRoom.updatePrevPlayerStates
  split
  · exact .refl fun p _ => .refl p
  · refine becomes_map fun p _ => ?_
    split
    · exact .inr (.noted p)
    · exact .inl rfl

/-- Everything after the verdict: tasks of the room, packets, and the end of the tick. -/
theorem slots_tickRun {env : RoomEnv} {kind : RoomKind} {t : Int} {r r' : TetrisRoom}
    {extra : Player → List TaskType} {qs ss : List Player} (h : TickRun env t r extra qs ss r') :
    SlotWise (Becomes kind) qs r'.roomPlayers := by
  rw [h.players]
  refine @becomes_trans _ _ ss _ (h.delivered.comp (.refl fun p _ => rfl) ?_) ?_
  · rintro q s _ hqs rfl
    exact (SlotChange.told q (extra q)).becomes.trans (SlotChange.delivered _ hqs).becomes
  · refine becomes_map fun s _ => ?_
    split
    · exact .inr (.tidied env s)
    · exact .inl rfl

/-- The pieces the engine is given are inside their boards. -/
theorem inBoard_queued {r : TetrisRoom} {env : RoomEnv} {qs : List Player} (h : RoomOk r)
    (hs : Seated env r.roomPlayers) (hplay : r.roomState = .play)
    (hq : SlotWise Noted r.roomPlayers qs) :
    ∀ q ∈ qs, (findSession env q).isSome = true → Tetris.InBoard q.tetris.currentTetromino := by
  intro q hmem hsome
  obtain ⟨p, hp, hpq⟩ := hq.mem hmem
  rw [findSession_of_seat env hpq.seat, hs.isSome hp] at hsome
  obtain ⟨⟨prev, inputs, rfl⟩, _⟩ := hpq
  exact ((h.playing hplay p hp).inGame trivial hsome).inBoard

/-- Noting the states of the last tick leaves the games alone. -/
theorem noted_updatePrevPlayerStates {r : TetrisRoom} (env : RoomEnv) {ps : List Player}
    (h : SlotWise Queued ps r.roomPlayers) :
    SlotWise Noted ps (MultiRoom.updatePrevPlayerStates r env).roomPlayers := by
  unfold MultiRoom.updatePrevPlayerStates
  split
  · exact h.comp (.refl fun p _ => rfl) fun p q _ hpq hq => hq ▸ hpq.noted
  · refine h.thenMap fun p _ q _ hpq => ?_
    obtain ⟨⟨prev, inputs, hrest⟩, hidle⟩ := hpq.noted
    split
    · rename_i hsession
      refine ⟨⟨q.roomPlayerState, inputs, by rw [hrest]⟩, fun hf => ?_⟩
      rw [hidle hf, findSession, if_neg (by rw [hf]; decide)] at hsession
      cases hsession
    · exact ⟨⟨prev, inputs, hrest⟩, hidle⟩

/-- The first half of a tick of a room for several players. -/
theorem slots_beforeVerdict {r r' : TetrisRoom} {env : RoomEnv} {t : Int} (h : RoomOk r)
    (hs : Seated env r.roomPlayers) (hplay : r.roomState = .play)
    (hbefore : MultiRoom.beforeVerdict (r.distributeInputs env) env t = some r') :
    SlotWise (Becomes r.kind) r.roomPlayers r'.roomPlayers := by
  obtain ⟨r₁, hticks, hgarbage⟩ := Option.bind_eq_some_iff.mp hbefore
  obtain ⟨ps, heq, hqueued⟩ := distributeInputs_ok r env
  have hnoted := noted_updatePrevPlayerStates (r := r.distributeInputs env) env
    (show SlotWise Queued r.roomPlayers _ by rw [heq]; exact hqueued)
  have hin := inBoard_queued h hs hplay hnoted
  exact becomes_trans (slots_distributeInputs r env) <|
    becomes_trans (slots_updatePrevPlayerStates _) <|
    becomes_trans (slots_processTicks hin hticks) <|
    becomes_trans (slots_distributeGarbageLines r₁) (slots_addGarbageLines hgarbage)

/-- The first half of a tick of a room for one player, the verdict on its one slot included. -/
theorem slots_beforeVerdict_single {r r' : TetrisRoom} {env : RoomEnv} {t : Int} {q : Player}
    (h : RoomOk r) (hs : Seated env r.roomPlayers) (hkind : r.kind = .single)
    (hplay : r.roomState = .play) (hq : r'.roomPlayers = [q])
    (hbefore : SingleRoom.beforeVerdict (r.distributeInputs env) env t = some r') :
    SlotWise (Becomes r.kind) r.roomPlayers [judged q] := by
  obtain ⟨r₁, hticks, hgarbage⟩ := Option.bind_eq_some_iff.mp hbefore
  obtain ⟨ps, heq, hqueued⟩ := distributeInputs_ok r env
  have hnoted : SlotWise Noted r.roomPlayers (r.distributeInputs env).roomPlayers := by
    rw [heq]
    exact hqueued.comp (.refl fun p _ => rfl) fun p q _ hpq hq => hq ▸ hpq.noted
  have hin := inBoard_queued h hs hplay hnoted
  have hlast : SlotWise (Becomes r.kind) r'.roomPlayers [judged q] := by
    rw [hq]
    exact becomes_map (f := judged) fun p _ => .inr (.judged p hkind)
  exact becomes_trans (slots_distributeInputs r env) <|
    becomes_trans (slots_processTicks hin hticks) <|
    becomes_trans (slots_addGarbageLines hgarbage) hlast

/-- **Nothing happens to a slot but the changes of `SlotChange`.** -/
theorem slots_step {r r' : TetrisRoom} {env : RoomEnv} {e : RoomEvent} (h : RoomOk r)
    (hserves : env.Serves r e) (hstep : r.step env e = some r') :
    SlotWise (Becomes r.kind) r.roomPlayers r'.roomPlayers := by
  have h₀ := roomOk_silent h
  have hs : Seated env ({ r with out := [] } : TetrisRoom).roomPlayers :=
    h.seated hserves
  cases (step_ok h hserves).of_eq_some hstep with
  | handled _ hr => exact slots_handled (r := { r with out := [] }) hr
  | @multi t _ qs ss _ hplay hbefore _ hr =>
      have hfirst := slots_beforeVerdict h₀ hs hplay hbefore
      cases hr with
      | goesOn _ hr => exact becomes_trans hfirst (slots_tickRun hr)
      | ends id _ _ hr _ hend =>
          obtain ⟨out, _, rfl⟩ := hend
          refine becomes_trans hfirst (becomes_trans (slots_tickRun hr) ?_)
          have hkind : _ = r.kind := hr.kind
          rw [← hkind]
          exact slots_clearGame _ env
  | @single t _ hkind hplay hr =>
      have htick :
          SingleRoom.processGameTick (({ r with out := [] } : TetrisRoom).distributeInputs env)
          env t = some r' := by
        have hkind₁ := distributeInputs_kind { r with out := [] } env
        rw [← processGameTick_single (hkind₁.trans hkind)]
        unfold step handle processRoomTick at hstep
        dsimp only at hstep
        rwa [if_neg (fun hc => hc hplay)] at hstep
      have hverdict :=
        (SingleRoom.processGameTick_verdict t h₀ hs hkind hplay rfl).of_eq_some htick
      cases hverdict with
      | idle ha => exact slots_aside (r := { r with out := [] }) ha
      | goesOn q ss hbefore _ hrun =>
          exact becomes_trans
            (slots_beforeVerdict_single (r := { r with out := [] }) h₀ hs hkind hplay rfl hbefore)
            (slots_tickRun hrun)
      | ends q ss hbefore _ hrun hend =>
          obtain ⟨out, _, rfl⟩ := hend
          refine becomes_trans
            (slots_beforeVerdict_single (r := { r with out := [] }) h₀ hs hkind hplay rfl hbefore)
            (becomes_trans (slots_tickRun hrun) ?_)
          have hkind' : _ = r.kind := hrun.kind
          rw [← hkind']
          exact slots_clearGame _ env

/--
**A fact about slots that every change keeps holds in every room**, if it holds of a slot
nobody has sat in.
-/
theorem slots_reachable {I : Player → Prop} (hinit : ∀ now, I (.init now))
    (hI : ∀ kind p q, SlotChange kind p q → I p → I q) {r : TetrisRoom} (h : Reachable r) :
    ∀ p ∈ r.roomPlayers, I p := by
  induction h with
  | @created r h =>
      obtain ⟨kind, roomIndex, roomKey, roomName, roomPassword, now, now', key, haside, _⟩ :=
        created_joined h
      have hnew : ∀ p ∈ (waitingRoom kind roomIndex roomKey roomName roomPassword now).roomPlayers,
          I p := fun p hp => by
        rw [show p = Player.init now from List.eq_of_mem_replicate hp]
        exact hinit now
      have hslots : SlotWise (Becomes kind)
          (waitingRoom kind roomIndex roomKey roomName roomPassword now).roomPlayers
          r.roomPlayers := by
        rw [haside.players]
        exact @becomes_modify _ (waitingRoom kind roomIndex roomKey roomName roomPassword
          now).roomPlayers _ _ fun p _ => .joined p key now'
      intro q hq
      obtain ⟨p, hp, hpq⟩ := hslots.mem hq
      exact hpq.keeps (hI kind) (hnew p hp)
  | step hr env e hserves hstep ih =>
      intro q hq
      obtain ⟨p, hp, hpq⟩ := (slots_step (roomOk_reachable hr) hserves hstep).mem hq
      exact hpq.keeps (hI _) (ih p hp)

end TetrisRoom

end ProjectTetris

import ProjectTetris.Rooms.Eliminated
import ProjectTetris.Rooms.Inputs

/-!
# The boards of those who are out

The veil says nothing about an active slot that is not in `PLAY`, though its engine runs
on and its player's inputs still reach it. Two rooms that meet the same events, with the
same inputs in their queues, keep these engines the same too: outside ticks nobody touches
them, a start puts everybody in `PLAY`, and a tick does the same to the same slot.
-/

namespace ProjectTetris

open Checked

namespace TetrisRoom

/-- Wherever somebody sits, the slots are the same, boards and all. -/
def SameActive (ps qs : List Player) : Prop :=
  ∀ (i : Nat) (p : Player), p.isActive = true → (ps[i]? = some p ↔ qs[i]? = some p)

variable {keep : PlayerInputTask → Bool} {r r' a b : TetrisRoom} {env : RoomEnv}
  {ps qs : List Player}

theorem SameActive.refl (ps : List Player) : SameActive ps ps := fun _ _ _ => .rfl

/-- Where the veils are the same, only the engines of those not in `PLAY` are left to compare. -/
theorem sameActive_of_veil (h : ps.map Player.veil = qs.map Player.veil)
    (hout : ∀ (i : Nat) (p : Player) (s : Tetris), ps[i]? = some p →
      qs[i]? = some { p with tetris := s } →
      p.isActive = true → p.roomPlayerState ≠ .play → p.tetris = s) : SameActive ps qs := by
  intro i p ha
  constructor
  · intro hp
    rcases slot_veil h i with ⟨hnone, _⟩ | ⟨p', q, hp', hq, hpq⟩
    · rw [hp] at hnone
      cases hnone
    · obtain rfl := Option.some.inj (hp.symm.trans hp')
      rcases Player.veil_cases hpq with rfl | ⟨hstate, heq⟩
      · exact hq
      · rw [heq] at hq
        rw [hq, ← hout i p q.tetris hp hq ha hstate]
  · intro hp
    rcases slot_veil h i with ⟨_, hnone⟩ | ⟨q, p', hq, hp', hqp⟩
    · rw [hp] at hnone
      cases hnone
    · obtain rfl := Option.some.inj (hp.symm.trans hp')
      rcases Player.veil_cases hqp with rfl | ⟨hstate, heq⟩
      · exact hq
      · have hactive : q.isActive = true := by
          rw [heq] at ha
          exact ha
        have htetris := hout i q p.tetris hq (heq ▸ hp) hactive hstate
        rw [hq, heq, ← htetris]

/-- A loop over the slots that does the same to the same slot, and leaves everybody where he sits.
-/
theorem SameActive.map {f g : Player → Player} (h : SameActive ps qs)
    (hf : ∀ p, (f p).isActive = p.isActive) (hg : ∀ p, (g p).isActive = p.isActive)
    (hfg : ∀ p, p.isActive = true → f p = g p) :
    SameActive (ps.map f) (qs.map g) := by
  intro i q ha
  rw [List.getElem?_map, List.getElem?_map, Option.map_eq_some_iff, Option.map_eq_some_iff]
  constructor
  · rintro ⟨p, hp, rfl⟩
    have hactive := (hf p).symm.trans ha
    exact ⟨p, (h i p hactive).mp hp, (hfg p hactive).symm⟩
  · rintro ⟨p, hp, rfl⟩
    have hactive := (hg p).symm.trans ha
    exact ⟨p, (h i p hactive).mpr hp, hfg p hactive⟩

/-- The same for a step that is a relation, if it leaves no choice where somebody sits. -/
theorem SameActive.slotWise {R R' : Player → Player → Prop} {ss ss' : List Player}
    (h : SameActive ps qs) (hss : SlotWise R ps ss) (hss' : SlotWise R' qs ss')
    (hR : ∀ p s, R p s → s.isActive = p.isActive) (hR' : ∀ p s, R' p s → s.isActive = p.isActive)
    (hsame : ∀ p s s', p.isActive = true → R p s → R' p s' → s = s') : SameActive ss ss' := by
  intro i s ha
  constructor
  · intro hs
    obtain ⟨p, hp, hps⟩ := hss.slot hs
    have hactive := (hR p s hps).symm.trans ha
    obtain ⟨s', hs', hps'⟩ := hss'.2 i p ((h i p hactive).mp hp)
    rw [hs', hsame p s s' hactive hps hps']
  · intro hs
    obtain ⟨p, hp, hps⟩ := hss'.slot hs
    have hactive := (hR' p s hps).symm.trans ha
    obtain ⟨s', hs', hps'⟩ := hss.2 i p ((h i p hactive).mpr hp)
    rw [hs', hsame p s' s hactive hps' hps]

/-! ## Outside ticks -/

theorem sameActive_handled (ha : Handled env r a) (hb : Handled env r' b)
    (hplay : r.roomState = .play) (hplay' : r'.roomState = .play) (hon : a.roomState = .play)
    (hon' : b.roomState = .play) (h : SameActive r.roomPlayers r'.roomPlayers)
    (hveil : a.roomPlayers.map Player.veil = b.roomPlayers.map Player.veil) :
    SameActive a.roomPlayers b.roomPlayers := by
  refine sameActive_of_veil hveil fun i p s hp hq hactive _ => ?_
  obtain ⟨p₀, hp₀, hkept⟩ := kept_slot ha hplay hon hp hactive
  obtain ⟨q₀, hq₀, hkept'⟩ := kept_slot hb hplay' hon' hq hactive
  have hactive₀ : p₀.isActive = true := (isActive_of_seat hkept.seat).symm.trans hactive
  obtain rfl := Option.some.inj (((h i p₀ hactive₀).mp hp₀).symm.trans hq₀)
  exact hkept.tetris.trans hkept'.tetris.symm

/-- With a start everybody who sits there is in `PLAY`. -/
theorem sameActive_started {type : TetrominoType} (ha : Started env r a type)
    (hveil : a.roomPlayers.map Player.veil = b.roomPlayers.map Player.veil) :
    SameActive a.roomPlayers b.roomPlayers := by
  refine sameActive_of_veil hveil fun i p s hp _ hactive hstate => ?_
  rw [ha.players, List.getElem?_map, Option.map_eq_some_iff] at hp
  obtain ⟨p₀, _, rfl⟩ := hp
  split at hactive
  · rename_i hseated
    rw [if_pos hseated] at hstate
    exact absurd rfl hstate
  · rename_i hseated
    exact absurd hactive hseated

/-! ## Ticks -/

/-- Everybody is handed the same inputs. -/
theorem sameActive_dealt (hs : Seated env r.roomPlayers) (hs' : Seated env r'.roomPlayers)
    (h : SameActive r.roomPlayers r'.roomPlayers) (hqueue : r.playTasks = r'.playTasks)
    (hgeneration : r.playGeneration = r'.playGeneration) :
    SameActive (r.distributeInputs env).roomPlayers (r'.distributeInputs env).roomPlayers := by
  rw [distributeInputs_eq hs, distributeInputs_eq hs']
  refine h.map (fun _ => rfl) (fun _ => rfl) fun p _ => ?_
  rw [inputsFor, inputsFor, hqueue, hgeneration]

/-- The engines of those who are out are fed like the others, and get no garbage. -/
theorem sameActive_judged {t : Int} {rv rv' : TetrisRoom} (hs : Seated env r.roomPlayers)
    (hs' : Seated env r'.roomPlayers) (h : SameActive r.roomPlayers r'.roomPlayers)
    (hbefore : MultiRoom.beforeVerdict r env t = some rv)
    (hbefore' : MultiRoom.beforeVerdict r' env t = some rv')
    (hveil : rv.roomPlayers.map Player.veil = rv'.roomPlayers.map Player.veil) :
    SameActive rv.roomPlayers rv'.roomPlayers := by
  refine sameActive_of_veil hveil fun i q s hq hq' hactive hout => ?_
  obtain ⟨p, x, hp, hp', _, htick, hx, -⟩ := MultiRoom.beforeVerdict_engine hs hbefore hq hactive
  obtain ⟨p', x', hp₁, _, _, htick', hx', -⟩ :=
    MultiRoom.beforeVerdict_engine hs' hbefore' hq' hactive
  obtain rfl := Option.some.inj (((h i p hp').mp hp).symm.trans hp₁)
  have hsame : x = x' := Option.some.inj (htick.symm.trans htick')
  exact (hx hout).trans (hsame.trans (hx' hout).symm)

theorem appended_unique {l : List TetrominoType} {p q q' : Player} (h : Appended l p q)
    (h' : Appended l p q') :
    q = q' := by
  cases h with
  | plain hnone =>
      cases h' with
      | plain => rfl
      | respawned engine htasks => exact absurd rfl (hnone .spawn (by rw [htasks]; simp))
  | respawned engine htasks hne type next htype hnext =>
      cases h' with
      | plain hnone => exact absurd rfl (hnone .spawn (by rw [htasks]; simp))
      | respawned engine' htasks' _ type' next' htype' hnext' =>
          obtain rfl : engine = engine' := List.append_cancel_right (htasks.symm.trans htasks')
          obtain rfl := Option.some.inj (htype.symm.trans htype')
          obtain rfl := Option.some.inj (hnext.symm.trans hnext')
          rfl

/-- **The pieces decide what the packets leave of a slot.** -/
theorem delivered_unique {l : List TetrominoType} {p q q' : Player} (h : Delivered l p q)
    (h' : Delivered l p q') :
    q = q' := by
  rcases h with ⟨hplaying, happ⟩ | ⟨hnot, rfl⟩
  · rcases h' with ⟨_, happ'⟩ | ⟨hnot, _⟩
    · exact appended_unique happ happ'
    · exact absurd hplaying hnot
  · rcases h' with ⟨hplaying, _⟩ | ⟨_, rfl⟩
    · exact absurd hplaying hnot
    · rfl

theorem sameActive_tickRun {t : Int} {extra : Player → List TaskType} {ss ss' : List Player}
    (h : SameActive ps qs) (ha : TickRun env t r extra ps ss a)
    (hb : TickRun env t r' extra qs ss' b) (hlist : a.tetrominoSpawnList = b.tetrominoSpawnList) :
    SameActive a.roomPlayers b.roomPlayers := by
  have hseat : ∀ {l : List TetrominoType} (q s : Player), Delivered l (addTasks q (extra q)) s →
      s.isActive = q.isActive := by
    intro l q s hqs
    have hseat : s.seat = q.seat := hqs.seat
    exact isActive_of_seat hseat
  have htidy : ∀ s : Player, (if s.isActive then tidy env s else s).isActive = s.isActive :=
    fun s =>
    isActive_of_seat (tidied_fields env s).1
  have hdelivered : SameActive ss ss' := by
    refine h.slotWise ha.delivered hb.delivered hseat hseat fun q s s' _ hs hs' => ?_
    rw [← hlist] at hs'
    exact delivered_unique hs hs'
  rw [ha.players, hb.players]
  exact hdelivered.map htidy htidy fun _ _ => rfl

/-! ## One event for both rooms -/

/-- **The boards of everybody in a game stay the same**, whatever event both rooms meet. -/
theorem sameActive_step {e : RoomEvent}
    (halike : Alike r.heard { r with out := [] } { r' with out := [] }) (hkind : r.kind ≠ .single)
    (hok : RoomOk r) (hok' : RoomOk r') (hserves : env.Serves r e) (hserves' : env.Serves r' e)
    (hqueue : r.playTasks = r'.playTasks)
    (h : r.roomState = .play → SameActive r.roomPlayers r'.roomPlayers)
    (ha : r.step env e = some a) (hb : r'.step env e = some b) (hafter : Alike keep a b)
    (hon : a.roomState = .play) :
    SameActive a.roomPlayers b.roomPlayers := by
  have hstate : r.roomState = r'.roomState := halike.read (·.roomState) fun _ => rfl
  have hon' : b.roomState = .play := (hafter.read (·.roomState) fun _ => rfl).symm.trans hon
  have hs : Seated env ({ r with out := [] } : TetrisRoom).roomPlayers := hok.seated hserves
  have hs' : Seated env ({ r' with out := [] } : TetrisRoom).roomPlayers := hok'.seated hserves'
  have hkind' : r'.kind ≠ .single := by
    rw [← show r.kind = r'.kind from halike.read (·.kind) fun _ => rfl]
    exact hkind
  have hcleared : ∀ {r₁ r₂ : TetrisRoom}, Ended env r₁ r₂ → r₂.roomState ≠ .play := by
    rintro r₁ r₂ ⟨out, _, rfl⟩
    simp [clearGame, storeRoomState, clearPlayTasks, forSessions]
  have hstepped := (step_ok hok hserves).of_eq_some ha
  have hstepped' := (step_ok hok' hserves').of_eq_some hb
  by_cases hwait : r.roomState = .wait
  · obtain ⟨type, hstarted⟩ := started_step hstepped hwait hon
    exact sameActive_started hstarted hafter.players
  cases hstepped with
  | handled hidle hhandled =>
      have hplay : r.roomState = .play := by
        rcases state_handled (r := { r with out := [] }) hhandled hkind hwait with hs | hs
        · exact hs.symm.trans hon
        · rw [hs] at hon
          cases hon
      cases hstepped' with
      | handled _ hhandled' =>
          exact @sameActive_handled { r with out := [] } { r' with out := [] } a b env hhandled
            hhandled' hplay (hstate.symm.trans hplay) hon hon' (h hplay) hafter.players
      | multi => exact absurd hplay (hidle _ rfl)
      | single hsingle => exact absurd hsingle hkind'
  | single hsingle => exact absurd hsingle hkind
  | multi qs ss _ hplay hbefore _ hrun =>
      cases hstepped' with
      | handled hidle' => exact absurd (hstate.symm.trans hplay) (hidle' _ rfl)
      | single hsingle => exact absurd hsingle hkind'
      | multi qs' ss' _ hplay' hbefore' _ hrun' =>
          have hseated : ∀ {x : TetrisRoom}, Seated env x.roomPlayers →
              Seated env (x.distributeInputs env).roomPlayers := by
            intro x hx
            obtain ⟨ps, heq, hps⟩ := distributeInputs_ok x env
            rw [heq]
            exact hx.of_sameSeats (hps.sameSeats fun _ _ hpq => hpq.noted.seat)
          have hgeneration : r.playGeneration = r'.playGeneration :=
            halike.read (·.playGeneration) fun _ => rfl
          have hdealt := sameActive_dealt hs hs' (h hplay) hqueue hgeneration
          have hinputs : Alike keep (TetrisRoom.distributeInputs { r with out := [] } env)
              (TetrisRoom.distributeInputs { r' with out := [] } env) :=
            halike.distributeInputs hs hs'
          have hveil := (hinputs.beforeVerdict hbefore hbefore').players
          have hjudged :=
            sameActive_judged (hseated hs) (hseated hs') hdealt hbefore hbefore' hveil
          cases hrun with
          | ends _ _ _ _ _ hend => exact absurd hon (hcleared hend)
          | goesOn _ hrun =>
              cases hrun' with
              | ends _ _ _ _ _ hend => exact absurd hon' (hcleared hend)
              | goesOn _ hrun' =>
                  exact sameActive_tickRun hjudged hrun hrun'
                    (hafter.read (·.tetrominoSpawnList) fun _ => rfl)

end TetrisRoom

end ProjectTetris

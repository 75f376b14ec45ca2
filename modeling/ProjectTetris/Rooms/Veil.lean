import ProjectTetris.Rooms.RoomInv

/-!
# Rooms that differ in the games nobody plays any more

The engine of a player who is not in `PLAY` keeps running, on its own. `veil` forgets it,
and those of the waiting inputs that `keep` does not keep; two rooms with the same veil
differ in nothing else. Whatever a room for several players does to both, their veils
stay the same, and with them all that was sent.
-/

namespace ProjectTetris

open Checked

/-- The slot without its game, unless it is in `PLAY`. -/
def Player.veil (p : Player) : Player :=
  if p.roomPlayerState = .play then p else { p with tetris := .init 0 }

namespace Player

variable {p q : Player}

@[simp] theorem veil_sessionKey (p : Player) : p.veil.sessionKey = p.sessionKey := by
  unfold veil; split <;> rfl

@[simp] theorem veil_activeState (p : Player) : p.veil.activeState = p.activeState := by
  unfold veil; split <;> rfl

@[simp] theorem veil_sendBuffer (p : Player) : p.veil.sendBuffer = p.sendBuffer := by
  unfold veil; split <;> rfl

@[simp] theorem veil_roomPlayerState (p : Player) :
    p.veil.roomPlayerState = p.roomPlayerState := by
  unfold veil; split <;> rfl

@[simp] theorem veil_prevRoomPlayerState (p : Player) :
    p.veil.prevRoomPlayerState = p.prevRoomPlayerState := by
  unfold veil; split <;> rfl

theorem veil_tetris (t : Tetris) (h : p.roomPlayerState ≠ .play) :
    ({ p with tetris := t } : Player).veil = p.veil := by
  simp only [veil, if_neg h]

theorem veil_playing (h : p.roomPlayerState = .play) : p.veil = p := if_pos h

@[simp] theorem veil_veil (p : Player) : p.veil.veil = p.veil := by
  by_cases h : p.roomPlayerState = .play
  · rw [veil_playing h, veil_playing h]
  · rw [show p.veil = { p with tetris := .init 0 } from if_neg h]
    exact veil_tetris (.init 0) h |>.trans (if_neg h)

/-- Two slots with the same veil are the same, or nobody plays on them. -/
theorem veil_cases (h : p.veil = q.veil) :
    p = q ∨ (p.roomPlayerState ≠ .play ∧ q = { p with tetris := q.tetris }) := by
  have hstate : p.roomPlayerState = q.roomPlayerState := by
    rw [← veil_roomPlayerState p, h, veil_roomPlayerState]
  by_cases hp : p.roomPlayerState = .play
  · left
    rwa [veil_playing hp, veil_playing (hstate ▸ hp)] at h
  · right
    refine ⟨hp, ?_⟩
    rw [veil, veil, if_neg hp, if_neg (hstate ▸ hp)] at h
    obtain ⟨⟩ := p
    obtain ⟨⟩ := q
    simp only [Player.mk.injEq] at h ⊢
    obtain ⟨h₁, h₂, -, h₃, h₄, h₅, h₆, h₇, h₈⟩ := h
    exact ⟨h₁.symm, h₂.symm, trivial, h₃.symm, h₄.symm, h₅.symm, h₆.symm, h₇.symm, h₈.symm⟩

/-- What is done to a slot keeps the veils the same if it does so where nobody plays. -/
theorem veil_congr {f : Player → Player}
    (hf : ∀ (p : Player) (t : Tetris), p.roomPlayerState ≠ .play →
      (f { p with tetris := t }).veil = (f p).veil)
    (h : p.veil = q.veil) : (f p).veil = (f q).veil := by
  rcases veil_cases h with rfl | ⟨hp, hq⟩
  · rfl
  · rw [hq]
    exact (hf p q.tetris hp).symm

/-- What is read of a slot besides its game is the same. -/
theorem read_veil {α : Type} {f : Player → α}
    (hf : ∀ (p : Player) (t : Tetris), f { p with tetris := t } = f p) (h : p.veil = q.veil) :
    f p = f q := by
  rcases veil_cases h with rfl | ⟨_, hq⟩
  · rfl
  · rw [hq]
    exact (hf p q.tetris).symm

end Player

namespace TetrisRoom

/-- The room without the games nobody plays, and without the inputs not to be kept. -/
def veil (keep : PlayerInputTask → Bool) (r : TetrisRoom) : TetrisRoom :=
  { r with playTasks := r.playTasks.filter keep, roomPlayers := r.roomPlayers.map Player.veil }

/-- The two rooms differ in games nobody plays and in such inputs only. -/
def Alike (keep : PlayerInputTask → Bool) (r r' : TetrisRoom) : Prop := r.veil keep = r'.veil keep

theorem findSession_veil (env : RoomEnv) (p : Player) :
    findSession env p.veil = findSession env p := by
  simp [findSession, Player.isActive]

/-! ## Slots with the same veils -/

section slots

variable {ps qs : List Player}

theorem find_veil {f : Player → Bool} (h : ps.map Player.veil = qs.map Player.veil)
    (hf : ∀ p, f p.veil = f p) :
    ps.findIdx? f = qs.findIdx? f := by
  have hcomp : f ∘ Player.veil = f := funext hf
  rw [← hcomp, ← List.findIdx?_map, ← List.findIdx?_map, h]

theorem slot_veil (h : ps.map Player.veil = qs.map Player.veil) (i : Nat) :
    (ps[i]? = none ∧ qs[i]? = none) ∨ ∃ p q, ps[i]? = some p ∧ qs[i]? = some q ∧
    p.veil = q.veil := by
  have hi := congrArg (fun l : List Player => l[i]?) h
  simp only [List.getElem?_map] at hi
  cases hp : ps[i]? with
  | none =>
      rw [hp, Option.map_none, eq_comm, Option.map_eq_none_iff] at hi
      exact .inl ⟨rfl, hi⟩
  | some p =>
      rw [hp, Option.map_some, eq_comm, Option.map_eq_some_iff] at hi
      obtain ⟨q, hq, hveil⟩ := hi
      exact .inr ⟨p, q, rfl, hq, hveil.symm⟩

theorem length_veil (h : ps.map Player.veil = qs.map Player.veil) : ps.length = qs.length := by
  simpa using congrArg List.length h

theorem map_veil {f g : Player → Player} (h : ps.map Player.veil = qs.map Player.veil)
    (hfg : ∀ p ∈ ps, ∀ q ∈ qs, p.veil = q.veil → (f p).veil = (g q).veil) :
    (ps.map f).map Player.veil = (qs.map g).map Player.veil := by
  refine List.ext_getElem? fun i => ?_
  simp only [List.getElem?_map]
  rcases slot_veil h i with ⟨hp, hq⟩ | ⟨p, q, hp, hq, hpq⟩
  · rw [hp, hq]
    rfl
  · rw [hp, hq]
    exact congrArg some (hfg p (List.mem_of_getElem? hp) q (List.mem_of_getElem? hq) hpq)

theorem modify_veil {f g : Player → Player} (h : ps.map Player.veil = qs.map Player.veil) (i : Nat)
    (hfg : ∀ p q, p.veil = q.veil → (f p).veil = (g q).veil) :
    (ps.modify i f).map Player.veil = (qs.modify i g).map Player.veil := by
  refine List.ext_getElem? fun j => ?_
  simp only [List.getElem?_map, List.getElem?_modify]
  rcases slot_veil h j with ⟨hp, hq⟩ | ⟨p, q, hp, hq, hpq⟩
  · rw [hp, hq]
    rfl
  · rw [hp, hq]
    by_cases hij : i = j
    · simp [hij, hfg p q hpq]
    · simp [hij, hpq]

/-- A loop that may fail, where it fails on neither side. -/
theorem mapM_veil {f g : Player → Option Player} {ps' qs' : List Player}
    (h : ps.map Player.veil = qs.map Player.veil)
    (hfg : ∀ p q p' q', p.veil = q.veil → f p = some p' → g q = some q' → p'.veil = q'.veil)
    (hps : ps.mapM f = some ps') (hqs : qs.mapM g = some qs') :
    ps'.map Player.veil = qs'.map Player.veil := by
  refine List.ext_getElem? fun i => ?_
  have hlp : (ps'[i]?) = ps[i]?.bind f := getElem?_mapM hps i
  have hlq : (qs'[i]?) = qs[i]?.bind g := getElem?_mapM hqs i
  simp only [List.getElem?_map]
  rcases slot_veil h i with ⟨hp, hq⟩ | ⟨p, q, hp, hq, hpq⟩
  · rw [hlp, hlq, hp, hq]
    rfl
  · have hip := List.getElem?_eq_some_iff.mp hp
    have hiq := List.getElem?_eq_some_iff.mp hq
    obtain ⟨p', hp'⟩ : ∃ p', ps'[i]? = some p' :=
      ⟨_, List.getElem?_eq_getElem (by rw [length_mapM hps]; exact hip.1)⟩
    obtain ⟨q', hq'⟩ : ∃ q', qs'[i]? = some q' :=
      ⟨_, List.getElem?_eq_getElem (by rw [length_mapM hqs]; exact hiq.1)⟩
    rw [hp', hp, Option.bind_some] at hlp
    rw [hq', hq, Option.bind_some] at hlq
    rw [hp', hq']
    exact congrArg some (hfg p q p' q' hpq hlp.symm hlq.symm)

end slots

/-! ## Rooms with the same veil -/

namespace Alike

variable {keep : PlayerInputTask → Bool} {r r' : TetrisRoom}

theorem players (h : Alike keep r r') :
    r.roomPlayers.map Player.veil = r'.roomPlayers.map Player.veil :=
  congrArg TetrisRoom.roomPlayers h

/-- All other fields are the same. -/
theorem eq_with (h : Alike keep r r') :
    r' = { r with playTasks := r'.playTasks, roomPlayers := r'.roomPlayers } := by
  obtain ⟨⟩ := r
  obtain ⟨⟩ := r'
  simp only [Alike, veil, TetrisRoom.mk.injEq] at h ⊢
  grind

theorem exists_eq (h : Alike keep r r') : ∃ tasks ps, r.playTasks.filter keep = tasks.filter keep ∧
    r' = { r with playTasks := tasks, roomPlayers := ps } :=
  ⟨r'.playTasks, r'.roomPlayers, congrArg TetrisRoom.playTasks h, h.eq_with⟩

/-- A room with other inputs, and slots with the same veils. -/
theorem intro {tasks : List PlayerInputTask} {ps : List Player}
    (htasks : r.playTasks.filter keep = tasks.filter keep)
    (h : r.roomPlayers.map Player.veil = ps.map Player.veil) :
    Alike keep r { r with playTasks := tasks, roomPlayers := ps } := by
  simp only [Alike, veil, htasks, h]

theorem update (h : Alike keep r r') {u : TetrisRoom → TetrisRoom}
    (hu : ∀ r, (u r).veil keep = u (r.veil keep)) :
    Alike keep (u r) (u r') := by
  rw [Alike, hu r, hu r', h]

theorem findPlayer (h : Alike keep r r') (key : SessionKey) :
    r.findPlayer key = r'.findPlayer key :=
  find_veil h.players fun p => by simp [Player.matchesSessionKey, Player.hasSession]

theorem slot (h : Alike keep r r') (i : Nat) :
    (r.roomPlayers[i]? = none ∧ r'.roomPlayers[i]? = none) ∨
      ∃ p q, r.roomPlayers[i]? = some p ∧ r'.roomPlayers[i]? = some q ∧ p.veil = q.veil :=
  slot_veil h.players i

theorem length (h : Alike keep r r') : r.roomPlayers.length = r'.roomPlayers.length :=
  length_veil h.players

/-- What depends on the veil only is the same. -/
theorem read {α : Type} (h : Alike keep r r') (f : TetrisRoom → α)
    (hf : ∀ r, f r = f (r.veil keep)) : f r = f r' := by
  rw [hf r, hf r', h]

theorem targets (h : Alike keep r r') (env : RoomEnv) : r.targets env = r'.targets env := by
  refine h.read (·.targets env) fun r => ?_
  simp only [TetrisRoom.targets, veil, List.filter_map, List.map_map]
  congr 1
  · funext p
    simp
  · congr 1
    funext p
    simp [findSession_veil]

theorem emit (h : Alike keep r r') (e : RoomEffect) : Alike keep (r.emit e) (r'.emit e) :=
  h.update (u := fun r => r.emit e) fun _ => rfl

theorem sendAll (h : Alike keep r r') (env : RoomEnv) (packets : List S2CPacket) :
    Alike keep (r.sendAll env packets) (r'.sendAll env packets) := by
  unfold TetrisRoom.sendAll
  rw [h.targets env]
  exact h.update
    (u := fun r => { r with out := r.out ++ (r'.targets env).map fun key => .send key packets })
    fun _ => rfl

theorem broadcast (h : Alike keep r r') (env : RoomEnv) (packet : S2CPacket) :
    Alike keep (r.broadcast env packet) (r'.broadcast env packet) := h.sendAll env [packet]

theorem modify (h : Alike keep r r') (i : Nat) {f g : Player → Player}
    (hfg : ∀ p q, p.veil = q.veil → (f p).veil = (g q).veil) :
    Alike keep (r.modifyPlayer i f) (r'.modifyPlayer i g) := by
  have hslots := modify_veil h.players i hfg
  obtain ⟨tasks, ps, htasks, rfl⟩ := h.exists_eq
  exact intro (r := r.modifyPlayer i f) htasks hslots

theorem forSessions (h : Alike keep r r') (env : RoomEnv) {f : Player → Player}
    (hf : ∀ (p : Player) (t : Tetris), p.roomPlayerState ≠ .play →
      (f { p with tetris := t }).veil = (f p).veil) :
    Alike keep (r.forSessions env f) (r'.forSessions env f) := by
  have hplayers := h.players
  obtain ⟨tasks, ps, htasks, rfl⟩ := h.exists_eq
  refine intro (r := r.forSessions env f) htasks (map_veil hplayers fun p _ q _ hpq => ?_)
  have hsome : (findSession env p).isSome = (findSession env q).isSome :=
    Player.read_veil (f := fun p => (findSession env p).isSome) (fun _ _ => rfl) hpq
  rw [hsome]
  split
  · exact Player.veil_congr hf hpq
  · exact hpq

end Alike

end TetrisRoom

end ProjectTetris

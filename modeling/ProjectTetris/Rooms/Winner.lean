import ProjectTetris.Rooms.GameEnd

/-!
# Who wins

`GameRun` is one game of a room for several players, from the event that starts it,
with the rooms its ticks have left behind. Players leave such a game, but nobody joins
it and nobody who has been eliminated comes back; so a player still in `PLAY` has been
there after every tick.
-/

namespace ProjectTetris

namespace TetrisRoom

/-- A game so far: `hist` is what each of its ticks has left, `r` the room now. -/
inductive GameRun : List TetrisRoom → TetrisRoom → Prop
  | start {r r' : TetrisRoom} (h : Reachable r) (hkind : r.kind ≠ .single)
      (hwait : r.roomState = .wait) (env : RoomEnv) (e : RoomEvent) (hserves : env.Serves r e)
      (hstep : r.step env e = some r') (hplay : r'.roomState = .play) : GameRun [] r'
  | event {hist : List TetrisRoom} {r r' : TetrisRoom} (h : GameRun hist r) (env : RoomEnv)
      (e : RoomEvent) (hserves : env.Serves r e) (hno : ∀ t, e ≠ .tick t)
      (hstep : r.step env e = some r') (hplay : r'.roomState = .play) : GameRun hist r'
  | tick {hist : List TetrisRoom} {r r' : TetrisRoom} (h : GameRun hist r)
      (env : RoomEnv) (t : Int)
      (hserves : env.Serves r (.tick t)) (hstep : r.step env (.tick t) = some r')
      (hplay : r'.roomState = .play) : GameRun (hist ++ [r']) r'

/-- The account `id` is in the game. -/
def isPlaying (r : TetrisRoom) (id : Int) : Bool :=
  r.roomPlayers.any fun p => p.isActive && p.sessionKey.playerId = id && p.roomPlayerState = .play

/-- The account `id` was still in the game after tick `n`. -/
def playedThrough (hist : List TetrisRoom) (id : Int) (n : Nat) : Bool :=
  (hist[n]?).any fun r => r.isPlaying id

/-- Nobody in the slots `ps` was in the game through a later tick than `id`. -/
def LastStanding (hist : List TetrisRoom) (ps : List Player) (id : Int) : Prop :=
  ∀ p ∈ ps, p.isActive = true → ∀ n, playedThrough hist p.sessionKey.playerId n = true →
    ∃ m, n ≤ m ∧ playedThrough hist id m = true

theorem isPlaying_iff {r : TetrisRoom} {id : Int} : r.isPlaying id = true ↔
    ∃ p ∈ r.roomPlayers, p.isActive = true ∧ p.sessionKey.playerId = id ∧
    p.roomPlayerState = .play := by
  simp only [isPlaying, List.any_eq_true, Bool.and_eq_true, decide_eq_true_eq, and_assoc]

/-! ## Nobody comes back -/

/-- What is known of a room in the course of a game. -/
theorem gameRun_ok {hist : List TetrisRoom} {r : TetrisRoom} (h : GameRun hist r) :
    Reachable r ∧ r.kind ≠ .single ∧ r.roomState = .play := by
  have hstep : ∀ {r r' : TetrisRoom} {env : RoomEnv} {e : RoomEvent}, Reachable r →
      env.Serves r e →
      r.step env e = some r' → Reachable r' ∧ r'.kind = r.kind := by
    intro r r' env e hr hserves hstep
    have hok := (step_ok (roomOk_reachable hr) hserves).of_eq_some hstep
    exact ⟨hr.step env e hserves hstep, kind_stepped hok⟩
  induction h with
  | start h hkind _ env e hserves hs hplay =>
      obtain ⟨hr', hk⟩ := hstep h hserves hs
      exact ⟨hr', hk ▸ hkind, hplay⟩
  | event _ env e hserves _ hs hplay ih =>
      obtain ⟨hr', hk⟩ := hstep ih.1 hserves hs
      exact ⟨hr', hk ▸ ih.2.1, hplay⟩
  | tick _ env t hserves hs hplay ih =>
      obtain ⟨hr', hk⟩ := hstep ih.1 hserves hs
      exact ⟨hr', hk ▸ ih.2.1, hplay⟩

/-- **Whoever is in the game has been in it after every tick.** -/
theorem isPlaying_before {hist : List TetrisRoom} {r : TetrisRoom} (h : GameRun hist r)
    {q : Player} (hq : q ∈ r.roomPlayers) (ha : q.isActive = true)
    (hs : q.roomPlayerState = .play) :
    ∀ room ∈ hist, room.isPlaying q.sessionKey.playerId = true := by
  induction h generalizing q with
  | start => exact fun room hroom => absurd hroom List.not_mem_nil
  | event h env e hserves _ hstep hplay ih =>
      obtain ⟨hr, _, hplaying⟩ := gameRun_ok h
      have hok := (step_ok (roomOk_reachable hr) hserves).of_eq_some hstep
      obtain ⟨p, hp, hseat, hps⟩ := kept_step hok hplaying hplay hq ha
      have hkey : q.sessionKey = p.sessionKey := congrArg Prod.fst hseat
      exact hkey ▸ ih hp ((isActive_of_seat hseat).symm.trans ha) (hps hs)
  | tick h env t hserves hstep hplay ih =>
      obtain ⟨hr, _, hplaying⟩ := gameRun_ok h
      have hok := (step_ok (roomOk_reachable hr) hserves).of_eq_some hstep
      obtain ⟨p, hp, hseat, hps⟩ := kept_step hok hplaying hplay hq ha
      have hkey : q.sessionKey = p.sessionKey := congrArg Prod.fst hseat
      intro room hroom
      rcases List.mem_append.mp hroom with hroom | hroom
      · exact hkey ▸ ih hp ((isActive_of_seat hseat).symm.trans ha) (hps hs) room hroom
      · rw [List.mem_singleton.mp hroom]
        exact isPlaying_iff.mpr ⟨q, hq, ha, rfl, hs⟩

/-- Somebody still in the game has stayed as long as anybody. -/
theorem lastStanding_of_playing {hist : List TetrisRoom} {r : TetrisRoom} (h : GameRun hist r)
    {q : Player} (hq : q ∈ r.roomPlayers) (ha : q.isActive = true)
    (hs : q.roomPlayerState = .play) :
    LastStanding hist r.roomPlayers q.sessionKey.playerId := by
  intro p _ _ n hn
  refine ⟨n, Nat.le_refl n, ?_⟩
  obtain ⟨room, hroom, _⟩ := (Option.any_eq_true _ _).mp hn
  refine (Option.any_eq_true _ _).mpr ⟨room, hroom, ?_⟩
  exact isPlaying_before h hq ha hs room (List.mem_of_getElem? hroom)

/-! ## The verdict -/

/-- The player id of the first slot that satisfies `P`, among seated players. -/
theorem winnerId_of_find {env : RoomEnv} {qs : List Player} (hs : Seated env qs)
    {P : Player → Bool} {q : Player} (hfind : qs.find? P = some q) (ha : q.isActive = true) :
    (((qs.find? P).bind (findSession env)).map (·.playerId)).getD (-1) =
      q.sessionKey.playerId := by
  obtain ⟨v, hv, hid⟩ := hs.findSession (List.mem_of_find?_eq_some hfind) ha
  rw [hfind, Option.bind_some, hv]
  exact hid

/-- With one player left in the game, the winner is that player. -/
theorem winner_playing {env : RoomEnv} {r : TetrisRoom} (hs : Seated env r.roomPlayers)
    (h : (MultiRoom.survivors r env).length = 1) :
    ∃ q ∈ r.roomPlayers, playing q ∧ MultiRoom.newWinnerId r env = q.sessionKey.playerId := by
  have hpred : ∀ q ∈ r.roomPlayers,
      decide (q.roomPlayerState = .play ∧ (findSession env q).isSome = true) =
      decide (playing q) := by
    intro q hq
    rw [hs.isSome hq]
    rfl
  obtain ⟨q, hq⟩ := List.length_eq_one_iff.mp h
  have hmem : q ∈ MultiRoom.survivors r env := by rw [hq]; exact List.mem_singleton_self q
  obtain ⟨x, hx⟩ : ∃ x, r.roomPlayers.find? (fun q =>
      decide (q.roomPlayerState = .play ∧ (findSession env q).isSome = true)) = some x := by
    refine Option.isSome_iff_exists.mp (List.find?_isSome.mpr ?_)
    exact ⟨q, (List.mem_filter.mp hmem).1, (List.mem_filter.mp hmem).2⟩
  have hxmem := List.mem_of_find?_eq_some hx
  have hfound := List.find?_some hx
  have hplaying : playing x := of_decide_eq_true ((hpred x hxmem).symm.trans hfound)
  refine ⟨x, hxmem, hplaying, ?_⟩
  rw [← winnerId_of_find hs hx hplaying.2, MultiRoom.newWinnerId, h]
  rfl

/-- With nobody left in the game, the winner is whoever sits first. -/
theorem winner_drawn {env : RoomEnv} {r : TetrisRoom} (hs : Seated env r.roomPlayers)
    (h : (MultiRoom.survivors r env).length = 0)
    (hstates : ∀ q ∈ r.roomPlayers, q.isActive = true →
      q.roomPlayerState = .play ∨ q.roomPlayerState = .gameOver) {q : Player}
    (hq : r.roomPlayers.find? (·.isActive) = some q) :
    MultiRoom.newWinnerId r env = q.sessionKey.playerId := by
  have hnone := List.eq_nil_of_length_eq_zero h
  rw [survivors_eq hs, List.filter_eq_nil_iff] at hnone
  have hsame : r.roomPlayers.find? (MultiRoom.drawnWinner env) =
      r.roomPlayers.find? (·.isActive) := by
    have hpred : ∀ p ∈ r.roomPlayers, MultiRoom.drawnWinner env p = p.isActive := by
      intro p hp
      rw [MultiRoom.drawnWinner, hs.isSome hp]
      cases ha : p.isActive with
      | false => simp
      | true =>
          rcases hstates p hp ha with hplay | hover
          · exact absurd (decide_eq_true (⟨hplay, ha⟩ : playing p)) (hnone p hp)
          · simp [hover]
    have hcongr : ∀ ps : List Player, (∀ p ∈ ps, MultiRoom.drawnWinner env p = p.isActive) →
        ps.find? (MultiRoom.drawnWinner env) = ps.find? (·.isActive) := by
      intro ps
      induction ps with
      | nil => exact fun _ => rfl
      | cons p rest ih =>
          intro hall
          rw [List.find?_cons, List.find?_cons, hall p (List.mem_cons_self ..),
            ih fun p' hp' => hall p' (List.mem_cons_of_mem _ hp')]
    exact hcongr _ hpred
  have ha : q.isActive = true := List.find?_some hq
  rw [← winnerId_of_find hs (hsame.trans hq) ha, MultiRoom.newWinnerId, h]
  rfl

/-- The first occupied slot belongs to the same session as long as the seats are the same. -/
theorem firstKey_of_seats {ps qs : List Player} (h : SameSeats ps qs) :
    (qs.find? (·.isActive)).map (·.sessionKey) = (ps.find? (·.isActive)).map (·.sessionKey) := by
  have hseat : ∀ ps : List Player, (ps.find? (·.isActive)).map (·.sessionKey) =
      ((ps.map Player.seat).find? fun s => decide (s.2 = .active)).map Prod.fst := by
    intro ps
    rw [List.find?_map, Option.map_map]
    rfl
  rw [hseat, hseat, map_seat_of_sameSeats h]

/--
**The winner is a last survivor exactly if the verdict had one to find.**

When a game ends, nobody still in the room has stayed in `PLAY` through a later tick
than the winner, if and only if somebody was in `PLAY` when the last tick began, or
whoever sits in the first occupied slot was among the last to be eliminated.
-/
theorem winner_lastStanding_iff {hist : List TetrisRoom} {r rv r' : TetrisRoom} {env : RoomEnv}
    {t : Int} (h : GameRun hist r) (hserves : env.Serves r (.tick t))
    (hbefore : MultiRoom.beforeVerdict ({ r with out := [] }.distributeInputs env) env t = some rv)
    (hwin : (MultiRoom.resolveWinner rv env).2 = true) (hstep : r.step env (.tick t) = some r') :
    LastStanding hist r.roomPlayers r'.winnerId ↔
      (∃ p ∈ r.roomPlayers, p.roomPlayerState = .play ∧ p.isActive = true) ∨
      ∀ p, r.roomPlayers.find? (·.isActive) = some p →
        LastStanding hist r.roomPlayers p.sessionKey.playerId := by
  obtain ⟨hreach, hkind, hplay⟩ := gameRun_ok h
  have hok := roomOk_reachable hreach
  have hs : Seated env r.roomPlayers := hok.seated hserves
  obtain ⟨qs, ss, r₁, hjudged, hwinner, hid, _, _⟩ :=
    verdict_tick hok hserves hkind hplay hbefore hwin hstep
  have hsame : SameSeats r.roomPlayers qs := hjudged.sameSeats fun _ _ hpq => hpq.1.seat
  have hsq : Seated env qs := hs.of_sameSeats hsame
  have hcount := survivors_eq (r := { r with roomPlayers := qs }) hsq
  obtain ⟨hle, q₀, hq₀, hsome⟩ := survivors_of_winner (hwinner ▸ hid)
  by_cases hsomebody : ∃ p ∈ r.roomPlayers, p.roomPlayerState = .play ∧ p.isActive = true
  · -- one player is left in the game, and wins it
    refine ⟨fun _ => .inl hsomebody, fun _ => ?_⟩
    obtain ⟨p, hp, hstate, ha⟩ := hsomebody
    obtain ⟨i, hi⟩ := List.mem_iff_getElem?.mp hp
    obtain ⟨q, hq, hpq⟩ := hjudged.2 i p hi
    have hmem : q ∈ MultiRoom.survivors { r with roomPlayers := qs } env := by
      rw [hcount]
      refine List.mem_filter.mpr ⟨List.mem_of_getElem? hq, ?_⟩
      exact decide_eq_true ⟨hpq.1.roomPlayerState.trans hstate, hpq.1.isActive.trans ha⟩
    have hpos := List.length_pos_of_mem hmem
    obtain ⟨w, hw, hplaying, hid'⟩ :=
      winner_playing (r := { r with roomPlayers := qs }) hsq (by omega)
    obtain ⟨x, hx, hxw⟩ := hjudged.mem hw
    have hkey : w.sessionKey = x.sessionKey := congrArg Prod.fst hxw.1.seat
    rw [← hwinner, hid', hkey]
    exact lastStanding_of_playing h hx (hxw.1.isActive.symm.trans hplaying.2)
      (hxw.1.roomPlayerState.symm.trans hplaying.1)
  · -- nobody is, and whoever sits first does
    have hzero : (MultiRoom.survivors { r with roomPlayers := qs } env).length = 0 := by
      rw [hcount, List.length_eq_zero_iff, List.filter_eq_nil_iff]
      intro q hq hplaying
      obtain ⟨p, hp, hpq⟩ := hjudged.mem hq
      have hplaying : playing q := of_decide_eq_true hplaying
      exact hsomebody ⟨p, hp, hpq.1.roomPlayerState.symm.trans hplaying.1,
        hpq.1.isActive.symm.trans hplaying.2⟩
    have hstates : ∀ q ∈ qs, q.isActive = true →
        q.roomPlayerState = .play ∨ q.roomPlayerState = .gameOver := by
      intro q hq ha
      obtain ⟨p, hp, hpq⟩ := hjudged.mem hq
      rw [hpq.1.roomPlayerState]
      exact ((hok.playing hplay p hp).inGame trivial (hpq.1.isActive.symm.trans ha)).state
    obtain ⟨q, hq⟩ : ∃ q, qs.find? (·.isActive) = some q := by
      refine Option.isSome_iff_exists.mp (List.find?_isSome.mpr ⟨q₀, hq₀, ?_⟩)
      rw [← hsq.isSome hq₀]
      exact hsome
    have hfirst := firstKey_of_seats hsame
    rw [hq] at hfirst
    obtain ⟨p, hp, hkey⟩ := Option.map_eq_some_iff.mp hfirst.symm
    have hid' : r'.winnerId = p.sessionKey.playerId := by
      rw [← hwinner, winner_drawn (r := { r with roomPlayers := qs }) hsq hzero hstates hq, hkey]
    rw [hid']
    constructor
    · intro hlast
      refine .inr fun p' hp' => ?_
      rw [hp] at hp'
      injection hp' with hp'
      exact hp' ▸ hlast
    · rintro (hc | hall)
      · exact absurd hc hsomebody
      · exact hall p hp

/-! ## Played games -/

/-- A game played on in the world of these sessions, with what each tick leaves. -/
def playOn (keys : List SessionKey) :
    List TetrisRoom → TetrisRoom → List RoomEvent → Option (List TetrisRoom × TetrisRoom)
  | hist, r, [] => some (hist, r)
  | hist, r, e :: rest =>
      if AllOf keys r then
        (r.step (worldOf keys) e).bind fun r' =>
          if r'.roomState = .play then
            match e with
            | .tick _ => playOn keys (hist ++ [r']) r' rest
            | _ => playOn keys hist r' rest
          else none
      else none

theorem playOn_gameRun {keys : List SessionKey}
    (hkeys : keys.Pairwise fun k k' => k.playerId ≠ k'.playerId) :
    ∀ {es : List RoomEvent} {hist hist' : List TetrisRoom} {r r' : TetrisRoom}, GameRun hist r →
      playOn keys hist r es = some (hist', r') → GameRun hist' r'
  | [], hist, hist', r, r', hr, h => by
      injection h with h
      injection h with h₁ h₂
      exact h₁ ▸ h₂ ▸ hr
  | e :: rest, hist, hist', r, r', hr, h => by
      rw [playOn] at h
      split at h
      · rename_i hall
        have hserves : ∀ e, (worldOf keys).Serves r e :=
          fun _ => scenarioEnv_serves .room 0 hkeys hall
        obtain ⟨r₁, hstep, h⟩ := Option.bind_eq_some_iff.mp h
        split at h
        · rename_i hplay
          cases e with
          | tick t => exact playOn_gameRun hkeys (hr.tick _ t (hserves _) hstep hplay) h
          | task task =>
              exact playOn_gameRun hkeys
                (hr.event _ _ (hserves _) (fun _ hc => RoomEvent.noConfusion hc) hstep hplay) h
          | leavePacket key =>
              exact playOn_gameRun hkeys
                (hr.event _ _ (hserves _) (fun _ hc => RoomEvent.noConfusion hc) hstep hplay) h
          | input task =>
              exact playOn_gameRun hkeys
                (hr.event _ _ (hserves _) (fun _ hc => RoomEvent.noConfusion hc) hstep hplay) h
        · exact absurd h (by simp)
      · exact absurd h (by simp)

/-- The sessions `keys` gather in the room of the first of them, which then starts a game. -/
def gathering (kind : RoomKind) (host : SessionKey) (guests : List SessionKey) :
    Option TetrisRoom :=
  scenario (host :: guests) (scenarioRoom kind (host :: guests) host)
    (guests.map (fun key => (.lobby, taskOf key .join)) ++
      guests.map fun key => (.room, taskOf key .ready))

/-- A game of those sessions: its events, and the verdict of its last tick. -/
def played (kind : RoomKind) (host : SessionKey) (guests : List SessionKey) (es : List RoomEvent)
    (t : Int) (P : List TetrisRoom → TetrisRoom → TetrisRoom → Bool) : Bool :=
  (gathering kind host guests).any fun r₀ =>
    decide (AllOf (host :: guests) r₀ ∧ r₀.kind ≠ .single ∧ r₀.roomState = .wait) &&
    (r₀.step (worldOf (host :: guests)) (taskOf host .start)).any fun r₁ =>
      decide (r₁.roomState = .play) &&
      (playOn (host :: guests) [] r₁ es).any fun res =>
        verdictThen (host :: guests) t (P res.1 res.2) res.2

theorem played_spec {kind : RoomKind} {host : SessionKey} {guests : List SessionKey}
    {es : List RoomEvent} {t : Int} {P : List TetrisRoom → TetrisRoom → TetrisRoom → Bool}
    (hkeys : (host :: guests).Pairwise fun k k' => k.playerId ≠ k'.playerId)
    (h : played kind host guests es t P = true) :
    ∃ hist r rv r', GameRun hist r ∧ (worldOf (host :: guests)).Serves r (.tick t) ∧
      MultiRoom.beforeVerdict ({ r with out := [] }.distributeInputs (worldOf (host :: guests)))
        (worldOf (host :: guests)) t = some rv ∧
      (MultiRoom.resolveWinner rv (worldOf (host :: guests))).2 = true ∧
      r.step (worldOf (host :: guests)) (.tick t) = some r' ∧ P hist r r' = true := by
  simp only [played, Option.any_eq_true, Bool.and_eq_true, decide_eq_true_eq] at h
  obtain ⟨r₀, hr₀, ⟨hall, hkind, hwait⟩, r₁, hstart, hplay, ⟨hist, r⟩, hplayed, hverdict⟩ := h
  have hreach : Reachable r₀ := scenario_reachable hkeys
    (.created (scenarioRoom_created kind (List.mem_cons_self ..))) hr₀
  have hrun := playOn_gameRun hkeys (.start hreach hkind hwait _ _
    (scenarioEnv_serves .room 0 hkeys hall) hstart hplay) hplayed
  obtain ⟨hserves, _, _, rv, r', hrv, hwin, hr', hP⟩ := verdictThen_spec hkeys hverdict
  exact ⟨hist, r, rv, r', hrun, hserves, hrv, hwin, hr', hP⟩

/-- The host drops his pieces from the first tick on, the two guests from the fourth. -/
def lateGuests (n : Nat) : List RoomEvent :=
  (if n < 3 then [.input ⟨EventType.drop.toInt, 1, 1⟩]
    else [.input ⟨EventType.drop.toInt, 1, 1⟩, .input ⟨EventType.drop.toInt, 2, 1⟩,
      .input ⟨EventType.drop.toInt, 3, 1⟩]) ++ [.tick (20000 * (n + 1))]

/--
The host tops out in the eighth tick and the two guests, together, in the tenth; the
eleventh makes the host the winner.
-/
theorem winner_eliminated_first : ∃ hist r rv r', GameRun hist r ∧
    (worldOf [hostKey, guestKey, thirdKey]).Serves r (.tick 220000) ∧
    MultiRoom.beforeVerdict
      ({ r with out := [] }.distributeInputs (worldOf [hostKey, guestKey, thirdKey]))
      (worldOf [hostKey, guestKey, thirdKey]) 220000 = some rv ∧
    (MultiRoom.resolveWinner rv (worldOf [hostKey, guestKey, thirdKey])).2 = true ∧
    r.step (worldOf [hostKey, guestKey, thirdKey]) (.tick 220000) = some r' ∧
    ¬ LastStanding hist r.roomPlayers r'.winnerId := by
  have hplayed :
      played .five hostKey [guestKey, thirdKey] ((List.range 10).flatMap lateGuests) 220000
      (fun hist r r' => decide (hist.length = 10 ∧
        (∃ p ∈ r.roomPlayers, p.isActive = true ∧
          playedThrough hist p.sessionKey.playerId 8 = true) ∧
        playedThrough hist r'.winnerId 8 = false ∧ playedThrough hist r'.winnerId 9 =
          false)) = true := by
    decide +kernel
  obtain ⟨hist, r, rv, r', hrun, hserves, hrv, hwin, hr', hP⟩ := played_spec (by decide) hplayed
  refine ⟨hist, r, rv, r', hrun, hserves, hrv, hwin, hr', fun hlast => ?_⟩
  obtain ⟨hlen, ⟨p, hp, ha, hthrough⟩, h8, h9⟩ := of_decide_eq_true hP
  obtain ⟨m, hm, hwinner⟩ := hlast p hp ha 8 hthrough
  -- the winner was in the game after none of the last two ticks, and there were no more
  have hmlt : m < 10 := by
    obtain ⟨room, hroom, _⟩ := (Option.any_eq_true _ _).mp hwinner
    exact hlen ▸ (List.getElem?_eq_some_iff.mp hroom).1
  obtain rfl | rfl : m = 8 ∨ m = 9 := by omega
  · rw [h8] at hwinner; exact absurd hwinner (by decide)
  · rw [h9] at hwinner; exact absurd hwinner (by decide)

/-- The host drops his pieces from the first tick on, one guest from the fourth, the other none. -/
def oneAfterTheOther (n : Nat) : List RoomEvent :=
  .input ⟨EventType.drop.toInt, 1, 1⟩ ::
    (if n < 3 then [] else [.input ⟨EventType.drop.toInt, 2, 1⟩]) ++ [.tick (20000 * (n + 1))]

/-- The host tops out in the eighth tick, one guest in the tenth; the other guest wins in the
eleventh. -/
theorem winner_lastStanding_third : ∃ hist r rv r', GameRun hist r ∧
    playedThrough hist 1 8 = false ∧ playedThrough hist 2 8 = true ∧
    playedThrough hist 2 9 = false ∧
    MultiRoom.beforeVerdict
      ({ r with out := [] }.distributeInputs (worldOf [hostKey, guestKey, thirdKey]))
      (worldOf [hostKey, guestKey, thirdKey]) 220000 = some rv ∧
    (MultiRoom.resolveWinner rv (worldOf [hostKey, guestKey, thirdKey])).2 = true ∧
    r.step (worldOf [hostKey, guestKey, thirdKey]) (.tick 220000) = some r' ∧ r'.winnerId = 3 ∧
    (LastStanding hist r.roomPlayers r'.winnerId ↔
      (∃ p ∈ r.roomPlayers, p.roomPlayerState = .play ∧ p.isActive = true) ∨
      ∀ p, r.roomPlayers.find? (·.isActive) = some p →
        LastStanding hist r.roomPlayers p.sessionKey.playerId) := by
  have hplayed :
      played .five hostKey [guestKey, thirdKey] ((List.range 10).flatMap oneAfterTheOther) 220000
      (fun hist _ r' => decide (playedThrough hist 1 8 = false ∧ playedThrough hist 2 8 = true ∧
        playedThrough hist 2 9 = false ∧ r'.winnerId = 3)) = true := by
    decide +kernel
  obtain ⟨hist, r, rv, r', hrun, hserves, hrv, hwin, hr', hP⟩ := played_spec (by decide) hplayed
  obtain ⟨hhost, hguest, hout, hid⟩ := of_decide_eq_true hP
  exact ⟨hist, r, rv, r', hrun, hhost, hguest, hout, hrv, hwin, hr', hid,
    winner_lastStanding_iff hrun hserves hrv hwin hr'⟩

end TetrisRoom

end ProjectTetris

import ProjectTetris.Lib.Cursor
import ProjectTetris.Threads.RoomWalk

/-!
# Which rooms a walk sees

A room that stays in the tables is ahead of the walk, or the walk is at it, or has passed
it. Rooms that are taken out of the list further on do not matter, and neither do rooms
that are added. A room that is taken out at or before the place the walk has read last
moves the rest of the list back by one, or ends the walk: what comes next is not seen.
-/

namespace ProjectTetris

open Transition Cursor

/-! ## The tables under a walk -/

/-- What one step of the game threads does to the tables. -/
structure TablesStep (s s' : RoomTables) : Prop where
  keys : Edit s.activeRoomKeys s'.activeRoomKeys
  registry : ∀ key i, s.roomIndexRegistry key = some i →
    s'.roomIndexRegistry key = some i ∨ s'.roomIndexRegistry key = none
  rooms : ∀ i room, s.rooms i = some room → s'.rooms i = some room ∨ s'.rooms i = none

theorem tablesStep_refl (s : RoomTables) : TablesStep s s :=
  ⟨.same rfl, fun _ _ h => Or.inl h, fun _ _ h => Or.inl h⟩

theorem tablesStep_of_removeActive (s : RoomTables) (key : RoomKey) :
    TablesStep s (s.removeActive key) :=
  ⟨.erase key rfl, fun _ _ h => Or.inl h, fun _ _ h => Or.inl h⟩

theorem tablesStep_of_unregister (s : RoomTables) (key : RoomKey) (index : Nat) :
    TablesStep s (s.unregister key index) := by
  refine ⟨.same rfl, ?_, fun _ _ h => Or.inl h⟩
  intro key' i h
  simp only [RoomTables.unregister, IndexRegistry.unregister]
  split
  · by_cases hkey : key' = key
    · subst hkey
      exact Or.inr (Function.update_self ..)
    · rw [Function.update_of_ne hkey]
      exact Or.inl h
  · exact Or.inl h

theorem tablesStep_of_tryRemoveRoom (s : RoomTables) (index : Nat) (room : RoomObject) :
    TablesStep s (s.tryRemoveRoom index room) := by
  unfold RoomTables.tryRemoveRoom
  split
  · refine ⟨.same rfl, fun _ _ h => Or.inl h, ?_⟩
    intro i room' h
    by_cases hi : i = index
    · subst hi
      exact Or.inr (Function.update_self ..)
    · simp only [Function.update_of_ne hi]
      exact Or.inl h
  · exact tablesStep_refl s

theorem tablesStep_of_next {m m' : RoomManager} (h : RoomManager.Next m m') :
    TablesStep m.tables m'.tables := by
  cases h with
  | added hthread hfree =>
      refine ⟨.same rfl, fun _ _ h => Or.inl h, ?_⟩
      intro i room hat
      left
      refine (Function.update_of_ne ?_ ..).trans hat
      rintro rfl
      rw [hfree] at hat
      cases hat
  | registered hthread hnew =>
      refine ⟨.same rfl, ?_, fun _ _ h => Or.inl h⟩
      intro key i hi
      left
      simp only [RoomManager.setTables, RoomManager.setThread, RoomTables.register,
        IndexRegistry.register, hnew]
      refine (Function.update_of_ne ?_ ..).trans hi
      rintro rfl
      rw [hnew] at hi
      cases hi
  | activated hthread hnew =>
      exact ⟨.add _ hnew (if_neg hnew), fun _ _ h => Or.inl h, fun _ _ h => Or.inl h⟩
  | activeRemoved => exact tablesStep_of_removeActive ..
  | deleteActive => exact tablesStep_of_removeActive ..
  | unregistered => exact tablesStep_of_unregister ..
  | deleteIndex => exact tablesStep_of_unregister ..
  | roomRemoved => exact tablesStep_of_tryRemoveRoom ..
  | deleteRoom => exact tablesStep_of_tryRemoveRoom ..
  | _ => exact ⟨.same rfl, fun _ _ h => Or.inl h, fun _ _ h => Or.inl h⟩

/-- The room is in all three tables. -/
structure RoomTables.Registered (s : RoomTables) (room : RoomObject) : Prop where
  active : room.roomKey ∈ s.activeRoomKeys
  indexed : s.roomIndexRegistry room.roomKey = some room.roomIndex
  inArray : s.rooms room.roomIndex = some room

/-- In the middle of `TryJoinRoom`. -/
def WalkStep.Joining : WalkStep → Prop
  | .tryJoin _ | .joinIndex _ | .joinRoom _ _ | .joinSession _ => True
  | _ => False

namespace RoomWalk

variable {room : RoomObject} {s s' : RoomWalk}

def keys (s : RoomWalk) : List RoomKey := s.manager.tables.activeRoomKeys

/-- The walk is at the room; `FindMatch` has seen that it is not full. -/
def At (s : RoomWalk) (room : RoomObject) : WalkStep → Prop
  | .findIndex roomKey | .tryJoin roomKey | .joinIndex roomKey => roomKey = room.roomKey
  | .readRoom roomKey index | .joinRoom roomKey index =>
      roomKey = room.roomKey ∧ index = room.roomIndex
  | .visit other | .readCount other => other = room
  | .readState other count =>
      other = room ∧ (s.query = .sendRoomList ∨ count < (s.attributes room).maxPlayerCount)
  | .joinSession _ => True
  | .begin | .readKey | .done => False

/-- The walk is at a room of another key, or between two rooms. -/
def Elsewhere (room : RoomObject) : WalkStep → Prop
  | .findIndex roomKey | .tryJoin roomKey | .joinIndex roomKey | .readRoom roomKey _
  | .joinRoom roomKey _ =>
      roomKey ≠ room.roomKey
  | .visit other | .readCount other | .readState other _ => other.roomKey ≠ room.roomKey
  | .joinSession _ | .begin | .readKey | .done => True

/-- What the walk has read is still so. -/
def Current (s : RoomWalk) : WalkStep → Prop
  | .findIndex roomKey => roomKey ∈ s.keys.take s.activeRoomIndex
  | .readRoom roomKey index =>
      roomKey ∈ s.keys.take s.activeRoomIndex ∧
        s.manager.tables.roomIndexRegistry roomKey = some index
  | .done => s.query ≠ .sendRoomList
  | _ => True

/-- How often the room is listed. -/
def listings (s : RoomWalk) (room : RoomObject) : Nat :=
  s.listed.countP fun packet => packet.roomKey = room.roomKey

/-- The room has not been seen: `FindMatch` has not answered that there is none, either. -/
def Unseen (s : RoomWalk) (room : RoomObject) : Prop :=
  s.listings room = 0 ∧ s.answer ≠ some notFoundJoinableRoom

/-- It has been listed, or `FindMatch` is over. -/
def Seen (s : RoomWalk) (room : RoomObject) : Prop :=
  match s.query with
  | .sendRoomList => s.listings room = 1
  | .findMatch _ => s.walkStep = .done ∧ s.answer ≠ some notFoundJoinableRoom

/-- Where the walk is with respect to the room. -/
inductive Place (room : RoomObject) (s : RoomWalk) : Prop
  | ahead (hahead : room.roomKey ∈ s.keys.drop s.activeRoomIndex)
      (hstep : Elsewhere room s.walkStep)
      (hcurrent : s.Current s.walkStep) (hunseen : s.Unseen room)
  | here (hbehind : room.roomKey ∈ s.keys.take s.activeRoomIndex) (hstep : s.At room s.walkStep)
      (hunseen : s.Unseen room)
  | passed (hbehind : room.roomKey ∈ s.keys.take s.activeRoomIndex)
      (hstep : Elsewhere room s.walkStep)
      (hseen : s.Seen room)

/-- The room is one that the walk is to list, or to answer with. -/
def Wanted (s : RoomWalk) (room : RoomObject) : Prop :=
  match s.query with
  | .sendRoomList => s.roomState room = .wait ∨ s.roomState room = .play
  | .findMatch maxPlayerCount =>
      isOfSize maxPlayerCount (s.attributes room) ∧ s.roomState room = .wait ∧
        s.currentPlayerCount room < (s.attributes room).maxPlayerCount

/-- The steps over which the room stays in the tables, and wanted, and nothing that is behind the
walk is taken out of the list while something is ahead. -/
def Keeping (room : RoomObject) (s s' : RoomWalk) : Prop :=
  s'.manager.tables.Registered room ∧ s'.Wanted room ∧ Undisturbed s.activeRoomIndex s.keys s'.keys

/-! ## A step of the game threads -/

theorem Place.manager {manager : RoomManager} (h : Place room s)
    (hcoherent : s.manager.tables.Coherent) (hcoherent' : manager.tables.Coherent)
    (hstep : TablesStep s.manager.tables manager.tables)
    (hkeeping : Keeping room s { s with manager := manager }) :
    Place room { s with manager := manager } := by
  obtain ⟨hregistered, _, hundisturbed⟩ := hkeeping
  have hbehind : room.roomKey ∈ s.keys.take s.activeRoomIndex →
      room.roomKey ∈ manager.tables.activeRoomKeys.take s.activeRoomIndex :=
    hstep.keys.behind hcoherent.nodup hregistered.active
  cases h with
  | here hin hat hunseen => exact .here (hbehind hin) hat hunseen
  | passed hin hat hseen => exact .passed (hbehind hin) hat hseen
  | ahead hahead hat hcurrent hunseen =>
      have hahead' : room.roomKey ∈ manager.tables.activeRoomKeys.drop s.activeRoomIndex :=
        hstep.keys.ahead hcoherent.nodup hundisturbed hregistered.active hahead
      -- the key that has been read last is not taken out, since the room is ahead
      have hkept : ∀ key, key ∈ s.keys.take s.activeRoomIndex →
          key ∈ manager.tables.activeRoomKeys := by
        intro key hkey
        by_contra hgone
        rw [hundisturbed key hkey hgone] at hahead
        simp at hahead
      refine .ahead hahead' hat ?_ hunseen
      show Current { s with manager := manager } s.walkStep
      cases hwalk : s.walkStep with
      | findIndex key =>
          rw [hwalk] at hcurrent
          exact hstep.keys.behind hcoherent.nodup (hkept key hcurrent) hcurrent
      | readRoom key index =>
          rw [hwalk] at hcurrent
          obtain ⟨hkey, hindex⟩ := hcurrent
          refine ⟨hstep.keys.behind hcoherent.nodup (hkept key hkey) hkey, ?_⟩
          rcases hstep.registry key index hindex with hsame | hnone
          · exact hsame
          · obtain ⟨i, hi⟩ := hcoherent'.active key (hkept key hkey)
            rw [hnone] at hi
            cases hi
      | done =>
          rw [hwalk] at hcurrent
          exact hcurrent
      | _ => trivial

/-! ## A step of the walk -/

theorem listings_append (s : RoomWalk) (room : RoomObject) (packet : RoomInfoPacket) :
    (s.append packet).listings room = s.listings room + if packet.roomKey =
      room.roomKey then 1 else 0 := by
  have hlisted : (s.append packet).listed = s.listed ++ [packet] := by
    unfold append listed
    split <;> simp
  rw [listings, hlisted, List.countP_append, List.countP_singleton]
  simp [listings]

theorem listings_finish (s : RoomWalk) (room : RoomObject) :
    s.finish.listings room = s.listings room := by
  have hlisted : s.finish.listed = s.listed := by
    unfold finish listed
    split <;> simp
  rw [listings, listings, hlisted]

/-- A walk that is not over has listed what it has seen. -/
theorem Seen.listed (h : s.Seen room) (hrunning : s.walkStep ≠ .done) :
    s.query = .sendRoomList ∧ s.listings room = 1 := by
  unfold Seen at h
  cases hquery : s.query with
  | sendRoomList =>
      rw [hquery] at h
      exact ⟨rfl, h⟩
  | findMatch m =>
      rw [hquery] at h
      exact absurd h.1 hrunning

theorem seen_of_listed (hquery : s.query = .sendRoomList) (hlistings : s.listings room = 1) :
    s.Seen room := by
  unfold Seen
  rw [hquery]
  exact hlistings

/-- To another step, between two rooms. -/
theorem Place.goOn (h : Place room s) {step : WalkStep} (hstep : Elsewhere room step)
    (hnotAt : ¬ s.At room s.walkStep) (hrunning : s.walkStep ≠ .done) (hcurrent : s.Current step) :
    Place room (s.goTo step) := by
  cases h with
  | ahead hahead _ _ hunseen => exact .ahead hahead hstep hcurrent hunseen
  | here _ hat _ => exact absurd hat hnotAt
  | passed hbehind _ hseen =>
      obtain ⟨hquery, hlistings⟩ := hseen.listed hrunning
      exact .passed hbehind hstep (seen_of_listed hquery hlistings)

/-- To the next step at one room, which is the one or another. -/
theorem Place.through (h : Place room s) {step : WalkStep}
    (hstep : Elsewhere room s.walkStep → Elsewhere room step)
    (hat : s.At room s.walkStep → s.At room step) (hrunning : s.walkStep ≠ .done)
    (hcurrent : s.Current s.walkStep → s.Current step) : Place room (s.goTo step) := by
  cases h with
  | ahead hahead helse hcur hunseen => exact .ahead hahead (hstep helse) (hcurrent hcur) hunseen
  | here hbehind hhere hunseen => exact .here hbehind (hat hhere) hunseen
  | passed hbehind helse hseen =>
      obtain ⟨hquery, hlistings⟩ := hseen.listed hrunning
      exact .passed hbehind (hstep helse) (seen_of_listed hquery hlistings)

/-- The walk ends, and the room is not ahead. -/
theorem Place.finished (h : Place room s) (hnotAt : ¬ s.At room s.walkStep)
    (hrunning : s.walkStep ≠ .done)
    (hend : room.roomKey ∈ s.keys.drop s.activeRoomIndex → ¬ s.Current s.walkStep) :
    Place room s.finish := by
  cases h with
  | ahead hahead _ hcurrent _ => exact absurd hcurrent (hend hahead)
  | here _ hat _ => exact absurd hat hnotAt
  | passed hbehind _ hseen =>
      obtain ⟨hquery, hlistings⟩ := hseen.listed hrunning
      have hlistings' := (listings_finish s room).trans hlistings
      have hfinish : s.finish =
          { s with
            walkStep := .done
            sent := s.sent ++ [s.packetBuffer]
            packetBuffer := [] } := by
        simp only [finish, hquery]
      rw [hfinish] at hlistings' ⊢
      exact .passed hbehind trivial (seen_of_listed hquery hlistings')

/-- `FindMatch` answers, though not that there is no room. -/
theorem Place.replied (h : Place room s) (hquery : s.query ≠ .sendRoomList) {result : Int}
    (hresult : result ≠ notFoundJoinableRoom) : Place room (s.reply result) := by
  have hanswer : (s.reply result).answer ≠ some notFoundJoinableRoom := by
    intro heq
    exact hresult (Option.some.inj heq)
  have hseen : (s.reply result).Seen room := by
    unfold Seen
    cases hq : (s.reply result).query with
    | sendRoomList => exact absurd hq hquery
    | findMatch m => exact ⟨rfl, hanswer⟩
  cases h with
  | ahead hahead _ _ hunseen => exact .ahead hahead trivial hquery ⟨hunseen.1, hanswer⟩
  | here hbehind _ _ => exact .passed hbehind trivial hseen
  | passed hbehind _ _ => exact .passed hbehind trivial hseen

/-- The key at the next index. -/
theorem Place.readKey (h : Place room s) (hnodup : s.keys.Nodup) (hwalk : s.walkStep = .readKey)
    {key : RoomKey} (hget : s.keys[s.activeRoomIndex]? = some key) :
    Place room
      { s with walkStep := .findIndex key, activeRoomIndex := s.activeRoomIndex + 1 } := by
  cases h with
  | ahead hahead _ _ hunseen =>
      have hread : key ∈ s.keys.take (s.activeRoomIndex + 1) := read_behind hget
      rcases read_next hget hahead with heq | hahead'
      · exact .here (heq ▸ hread) heq.symm hunseen
      · exact .ahead hahead' (fun heq => not_behind_and_ahead hnodup (heq ▸ hread) hahead')
          hread hunseen
  | here _ hat _ =>
      rw [hwalk] at hat
      exact hat.elim
  | passed hbehind _ hseen =>
      have hbehind' : room.roomKey ∈ s.keys.take (s.activeRoomIndex + 1) :=
        List.take_subset_take_left _ (Nat.le_succ _) hbehind
      refine .passed hbehind' ?_ ?_
      · rintro rfl
        refine not_behind_and_ahead hnodup hbehind ?_
        obtain ⟨hn, heq⟩ := List.getElem?_eq_some_iff.mp hget
        rw [List.drop_eq_getElem_cons hn, heq]
        exact List.mem_cons_self ..
      · obtain ⟨hquery, hlistings⟩ := hseen.listed (by simp [hwalk])
        exact seen_of_listed hquery hlistings

/-- The room has been looked at and is listed. -/
theorem Place.append (h : Place room s) (hquery : s.query = .sendRoomList)
    {packet : RoomInfoPacket} {other : RoomObject} {count : Int}
    (hwalk : s.walkStep = .readState other count) (hpacket : packet.roomKey = other.roomKey) :
    Place room ((s.append packet).goTo .readKey) := by
  have hlistings := listings_append s room packet
  have hsame : (s.append packet).query = s.query ∧ (s.append packet).keys = s.keys ∧
      (s.append packet).activeRoomIndex = s.activeRoomIndex ∧
      (s.append packet).answer = s.answer := by
    unfold RoomWalk.append
    split <;> exact ⟨rfl, rfl, rfl, rfl⟩
  obtain ⟨hq, hkeys, hindex, hanswer⟩ := hsame
  cases h with
  | ahead hahead helse hcurrent hunseen =>
      rw [hwalk] at helse
      rw [if_neg (hpacket ▸ helse), hunseen.1] at hlistings
      refine .ahead ?_ trivial trivial ⟨hlistings, ?_⟩
      · show room.roomKey ∈ (s.append packet).keys.drop (s.append packet).activeRoomIndex
        rwa [hkeys, hindex]
      · show (s.append packet).answer ≠ some notFoundJoinableRoom
        rw [hanswer]
        exact hunseen.2
  | here hbehind hat hunseen =>
      rw [hwalk] at hat
      obtain ⟨rfl, _⟩ := hat
      rw [if_pos hpacket, hunseen.1] at hlistings
      refine .passed ?_ trivial (seen_of_listed (hq.trans hquery) hlistings)
      show other.roomKey ∈ (s.append packet).keys.take (s.append packet).activeRoomIndex
      rwa [hkeys, hindex]
  | passed hbehind helse hseen =>
      rw [hwalk] at helse
      obtain ⟨_, hone⟩ := hseen.listed (by simp [hwalk])
      rw [if_neg (hpacket ▸ helse), hone] at hlistings
      refine .passed ?_ trivial (seen_of_listed (hq.trans hquery) hlistings)
      show room.roomKey ∈ (s.append packet).keys.take (s.append packet).activeRoomIndex
      rwa [hkeys, hindex]

theorem Place.walk (h : Place room s) (hcoherent : s.manager.tables.Coherent)
    (hregistered : s.manager.tables.Registered room) (hwanted : s.Wanted room)
    (hjoining : s.walkStep.Joining → s.query ≠ .sendRoomList) {sessionOk : Bool}
    (hstep : s.walk sessionOk = some s') : Place room s' := by
  have hnodup : s.keys.Nodup := hcoherent.nodup
  cases hwalk : s.walkStep with
  | begin =>
      have hnotAt : ¬ s.At room s.walkStep := by
        rw [hwalk]
        exact id
      have hrunning : s.walkStep ≠ .done := by simp [hwalk]
      simp only [RoomWalk.walk, hwalk] at hstep
      split at hstep
      next => 
        cases hstep
        exact h.goOn trivial hnotAt hrunning trivial
      next m hquery =>
        -- the answer that there is none comes before any room has been looked at
        have hmatch : s.query ≠ .sendRoomList := by simp [hquery]
        split at hstep
        · cases hstep
          exact h.goOn trivial hnotAt hrunning hmatch
        · split at hstep <;> cases hstep
          · exact h.goOn trivial hnotAt hrunning trivial
          · exact h.replied hmatch (by decide)
  | readKey =>
      simp only [RoomWalk.walk, hwalk] at hstep
      split at hstep
      next hget =>
        cases hstep
        -- the keys are used up: the room is behind
        refine h.finished ?_ (by simp [hwalk])
          (fun hahead => absurd hahead (not_ahead_of_end hget))
        rw [hwalk]
        exact id
      next key hget =>
        cases hstep
        exact h.readKey hnodup hwalk hget
  | findIndex key =>
      simp only [RoomWalk.walk, hwalk] at hstep
      split at hstep
      next hnone =>
        cases hstep
        refine h.finished ?_ (by simp [hwalk]) ?_
        · rw [hwalk]
          intro hat
          have heq : key = room.roomKey := hat
          -- the room is registered, so its own index is found
          rw [heq, hregistered.indexed] at hnone
          cases hnone
        · intro _ hcurrent
          rw [hwalk] at hcurrent
          obtain ⟨i, hi⟩ := hcoherent.active key (List.mem_of_mem_take hcurrent)
          rw [hnone] at hi
          cases hi
      next index hindex =>
        cases hstep
        refine h.through ?_ ?_ (by simp [hwalk]) ?_ <;> rw [hwalk]
        · exact id
        · intro hat
          have heq : key = room.roomKey := hat
          rw [heq, hregistered.indexed] at hindex
          exact ⟨heq, (Option.some.inj hindex).symm⟩
        · exact fun hcurrent => ⟨hcurrent, hindex⟩
  | readRoom key index =>
      simp only [RoomWalk.walk, hwalk] at hstep
      split at hstep
      next hnone =>
        cases hstep
        refine h.finished ?_ (by simp [hwalk]) ?_
        · rw [hwalk]
          rintro ⟨rfl, rfl⟩
          rw [hregistered.inArray] at hnone
          simp at hnone
        · intro _ hcurrent
          rw [hwalk] at hcurrent
          obtain ⟨other, hat, hkey⟩ := hcoherent.registered key index hcurrent.2
          rw [hat] at hnone
          simp [hkey] at hnone
      next other hsome =>
        cases hstep
        obtain ⟨hat, hkey⟩ := Option.filter_eq_some_iff.mp hsome
        have hkey : other.roomKey = key := by simpa using hkey
        refine h.through ?_ ?_ (by simp [hwalk]) ?_ <;> rw [hwalk]
        · exact fun hne heq => hne (hkey.symm.trans heq)
        · rintro ⟨rfl, rfl⟩
          rw [hregistered.inArray] at hat
          exact (Option.some.inj hat).symm
        · exact fun _ => trivial
  | visit other =>
      simp only [RoomWalk.walk, hwalk] at hstep
      split at hstep
      next =>
        cases hstep
        refine h.through ?_ ?_ (by simp [hwalk]) ?_ <;> rw [hwalk]
        · exact id
        · exact id
        · exact id
      next m hquery =>
        split at hstep
        next =>
          cases hstep
          refine h.through ?_ ?_ (by simp [hwalk]) ?_ <;> rw [hwalk]
          · exact id
          · exact id
          · exact id
        next hsize =>
          cases hstep
          refine h.goOn trivial ?_ (by simp [hwalk]) trivial
          rw [hwalk]
          intro hat
          have heq : other = room := hat
          unfold Wanted at hwanted
          rw [hquery] at hwanted
          -- a room of another size is passed over, and this one has the size wanted
          exact hsize (heq ▸ hwanted.1)
  | readCount other =>
      simp only [RoomWalk.walk, hwalk] at hstep
      cases hstep
      refine h.through ?_ ?_ (by simp [hwalk]) ?_ <;> rw [hwalk]
      · exact id
      · intro hat
        have heq : other = room := hat
        subst heq
        refine ⟨rfl, ?_⟩
        unfold Wanted at hwanted
        cases hquery : s.query with
        | sendRoomList => exact Or.inl rfl
        | findMatch m =>
            rw [hquery] at hwanted
            exact Or.inr hwanted.2.2
      · exact id
  | readState other count =>
      simp only [RoomWalk.walk, hwalk] at hstep
      cases hstep
      unfold RoomWalk.visited
      unfold Wanted at hwanted
      cases hquery : s.query with
      | sendRoomList =>
          rw [hquery] at hwanted
          simp only
          split
          next hhidden =>
            refine h.goOn trivial ?_ (by simp [hwalk]) trivial
            rw [hwalk]
            rintro ⟨rfl, _⟩
            -- a waiting or playing room is not hidden from the list
            rcases hwanted with hw | hw
            · exact hhidden.1 hw
            · exact hhidden.2 hw
          next => exact h.append hquery hwalk rfl
      | findMatch m =>
          rw [hquery] at hwanted
          simp only
          split
          next hhidden =>
            refine h.goOn trivial ?_ (by simp [hwalk]) trivial
            rw [hwalk]
            rintro ⟨rfl, hcount⟩
            rcases hhidden with hh | hh
            · exact hh hwanted.2.1
            · rcases hcount with hlist | hcount
              · rw [hquery] at hlist
                cases hlist
              · omega
          next =>
            refine h.through ?_ ?_ (by simp [hwalk]) ?_ <;> rw [hwalk]
            · exact id
            · rintro ⟨rfl, _⟩
              rfl
            · exact id
  | tryJoin key =>
      simp only [RoomWalk.walk, hwalk] at hstep
      split at hstep <;> cases hstep
      · refine h.through ?_ ?_ (by simp [hwalk]) ?_ <;> rw [hwalk]
        · exact id
        · exact id
        · exact id
      · exact h.replied (hjoining (by rw [hwalk]; trivial)) (by decide)
  | joinIndex key =>
      simp only [RoomWalk.walk, hwalk] at hstep
      split at hstep
      next hnone =>
        cases hstep
        refine h.goOn trivial ?_ (by simp [hwalk]) trivial
        rw [hwalk]
        intro hat
        have heq : key = room.roomKey := hat
        rw [heq, hregistered.indexed] at hnone
        cases hnone
      next index hindex =>
        cases hstep
        refine h.through ?_ ?_ (by simp [hwalk]) ?_ <;> rw [hwalk]
        · exact id
        · intro hat
          have heq : key = room.roomKey := hat
          rw [heq, hregistered.indexed] at hindex
          exact ⟨heq, (Option.some.inj hindex).symm⟩
        · exact id
  | joinRoom key index =>
      simp only [RoomWalk.walk, hwalk] at hstep
      split at hstep
      next hnone =>
        cases hstep
        refine h.goOn trivial ?_ (by simp [hwalk]) trivial
        rw [hwalk]
        rintro ⟨rfl, rfl⟩
        rw [hregistered.inArray] at hnone
        simp at hnone
      next other hsome =>
        split at hstep <;> cases hstep
        · exact h.replied (hjoining (by rw [hwalk]; trivial)) (by decide)
        · refine h.through ?_ ?_ (by simp [hwalk]) ?_
          · exact fun _ => trivial
          · exact fun _ => trivial
          · exact fun _ => trivial
  | joinSession other =>
      simp only [RoomWalk.walk, hwalk] at hstep
      cases hstep
      refine h.replied (hjoining (by rw [hwalk]; trivial)) ?_
      split <;> decide
  | done =>
      simp only [RoomWalk.walk, hwalk] at hstep
      cases hstep

/-! ## Runs -/

/-- How a walk begins and ends, whatever the game threads do. -/
structure Sound (s : RoomWalk) : Prop where
  manager : RoomManager.system.Reachable s.manager
  joining : s.walkStep.Joining → s.query ≠ .sendRoomList
  begun : s.walkStep = .begin → s.activeRoomIndex = 0 ∧ s.listed = [] ∧ s.answer = none
  flushed : s.walkStep = .done → s.query = .sendRoomList → s.packetBuffer = []

theorem Sound.walk (h : Sound s) {sessionOk : Bool}
    (hstep : s.walk sessionOk = some s') : Sound s' := by
  have hgo : ∀ {step : WalkStep}, (step.Joining → s.query ≠ .sendRoomList) → step ≠ .begin →
      (step = .done → s.query ≠ .sendRoomList) → Sound (s.goTo step) :=
    fun hjoining hbegun hdone =>
    ⟨h.manager, hjoining, fun heq => absurd heq hbegun, fun heq hq => absurd hq (hdone heq)⟩
  have hreply : ∀ result, s.query ≠ .sendRoomList → Sound (s.reply result) :=
    fun _ hmatch => ⟨h.manager, nofun, nofun, fun _ hq => absurd hq hmatch⟩
  have hfinish : Sound s.finish := by
    unfold finish
    cases hquery : s.query with
    | sendRoomList => exact ⟨h.manager, nofun, nofun, fun _ _ => rfl⟩
    | findMatch m => exact ⟨h.manager, nofun, nofun, nofun⟩
  cases hwalk : s.walkStep with
  | begin =>
      obtain ⟨hindex, hlisted, hanswer⟩ := h.begun hwalk
      simp only [RoomWalk.walk, hwalk] at hstep
      split at hstep
      next =>
        cases hstep
        exact hgo nofun nofun nofun
      next m hquery =>
        have hmatch : s.query ≠ .sendRoomList := by simp [hquery]
        split at hstep
        · cases hstep
          exact hgo nofun nofun fun _ => hmatch
        · split at hstep <;> cases hstep
          · exact hgo nofun nofun nofun
          · exact hreply _ hmatch
  | readKey =>
      simp only [RoomWalk.walk, hwalk] at hstep
      split at hstep <;> cases hstep
      · exact hfinish
      · exact ⟨h.manager, nofun, nofun, nofun⟩
  | findIndex key =>
      simp only [RoomWalk.walk, hwalk] at hstep
      split at hstep <;> cases hstep
      · exact hfinish
      · exact hgo nofun nofun nofun
  | readRoom key index =>
      simp only [RoomWalk.walk, hwalk] at hstep
      split at hstep <;> cases hstep
      · exact hfinish
      · exact hgo nofun nofun nofun
  | visit other =>
      simp only [RoomWalk.walk, hwalk] at hstep
      split at hstep
      · cases hstep
        exact hgo nofun nofun nofun
      · split at hstep <;> cases hstep
        all_goals exact hgo nofun nofun nofun
  | readCount other =>
      simp only [RoomWalk.walk, hwalk] at hstep
      cases hstep
      exact hgo nofun nofun nofun
  | readState other count =>
      simp only [RoomWalk.walk, hwalk] at hstep
      cases hstep
      unfold RoomWalk.visited
      cases hquery : s.query with
      | sendRoomList =>
          simp only
          split
          · exact hgo nofun nofun nofun
          · refine ⟨?_, nofun, nofun, nofun⟩
            unfold RoomWalk.append
            split <;> exact h.manager
      | findMatch m =>
          simp only
          split
          · exact hgo nofun nofun nofun
          · exact hgo (fun _ => by simp [hquery]) nofun nofun
  | tryJoin key =>
      have hmatch := h.joining (by rw [hwalk]; trivial)
      simp only [RoomWalk.walk, hwalk] at hstep
      split at hstep <;> cases hstep
      · exact hgo (fun _ => hmatch) nofun nofun
      · exact hreply _ hmatch
  | joinIndex key =>
      have hmatch := h.joining (by rw [hwalk]; trivial)
      simp only [RoomWalk.walk, hwalk] at hstep
      split at hstep <;> cases hstep
      · exact hgo nofun nofun nofun
      · exact hgo (fun _ => hmatch) nofun nofun
  | joinRoom key index =>
      have hmatch := h.joining (by rw [hwalk]; trivial)
      simp only [RoomWalk.walk, hwalk] at hstep
      split at hstep
      · cases hstep
        exact hgo nofun nofun nofun
      · split at hstep <;> cases hstep
        · exact hreply _ hmatch
        · exact hgo (fun _ => hmatch) nofun nofun
  | joinSession other =>
      have hmatch := h.joining (by rw [hwalk]; trivial)
      simp only [RoomWalk.walk, hwalk] at hstep
      cases hstep
      exact hreply _ hmatch
  | done =>
      simp only [RoomWalk.walk, hwalk] at hstep
      cases hstep

theorem sound_next (h : Sound s) (hstep : Next s s') : Sound s' := by
  cases hstep with
  | manager hnext => exact ⟨h.manager.next hnext, h.joining, h.begun, h.flushed⟩
  | roomState => exact ⟨h.manager, h.joining, h.begun, h.flushed⟩
  | playerCount => exact ⟨h.manager, h.joining, h.begun, h.flushed⟩
  | walk sessionOk hwalk => exact h.walk hwalk

theorem sound_reachable (h : system.Reachable s) : Sound s := by
  refine invariant ?_ (fun _ _ => sound_next) h
  rintro s ⟨hmanager, hbegin, hindex, hbuffer, hsent, hanswer⟩
  refine ⟨.start hmanager, ?_, ?_, ?_⟩
  · rw [hbegin]
    exact nofun
  · exact fun _ => ⟨hindex, by simp [listed, hsent, hbuffer], hanswer⟩
  · rw [hbegin]
    exact nofun

theorem place_begin (h : Sound s) (hbegin : s.walkStep = .begin)
    (hregistered : s.manager.tables.Registered room) :
    Place room s := by
  obtain ⟨hindex, hlisted, hanswer⟩ := h.begun hbegin
  refine .ahead ?_ ?_ ?_ ⟨?_, ?_⟩
  · rw [hindex]
    exact hregistered.active
  · rw [hbegin]
    trivial
  · rw [hbegin]
    trivial
  · rw [listings, hlisted]
    rfl
  · rw [hanswer]
    exact nofun

theorem place_next (h : Sound s) (hregistered : s.manager.tables.Registered room)
    (hwanted : s.Wanted room) (hplace : Place room s) (hstep : Next s s')
    (hkeeping : Keeping room s s') : Place room s' := by
  have hcoherent := (RoomManager.reachable_assigned h.manager).coherent
  cases hstep with
  | manager hnext =>
      exact hplace.manager hcoherent
        (RoomManager.reachable_assigned (h.manager.next hnext)).coherent
        (tablesStep_of_next hnext) hkeeping
  | roomState room' state =>
      cases hplace with
      | ahead hahead helse hcurrent hunseen => exact .ahead hahead helse hcurrent hunseen
      | here hbehind hat hunseen => exact .here hbehind hat hunseen
      | passed hbehind helse hseen => exact .passed hbehind helse hseen
  | playerCount room' count =>
      cases hplace with
      | ahead hahead helse hcurrent hunseen => exact .ahead hahead helse hcurrent hunseen
      | here hbehind hat hunseen => exact .here hbehind hat hunseen
      | passed hbehind helse hseen => exact .passed hbehind helse hseen
  | walk sessionOk hwalk => exact hplace.walk hcoherent hregistered hwanted h.joining hwalk

/-- A walk to its end, over which the room stays in the tables, and wanted. -/
theorem stableRoom_place {s₀ : RoomWalk} (h₀ : system.Reachable s₀) (hbegin : s₀.walkStep = .begin)
    (hregistered : s₀.manager.tables.Registered room) (hwanted : s₀.Wanted room)
    (hrun : (system.only (Keeping room)).Run s₀ s) :
    Sound s ∧ s.manager.tables.Registered room ∧ s.Wanted room ∧ Place room s := by
  induction hrun with
  | refl =>
      have hsound := sound_reachable h₀
      exact ⟨hsound, hregistered, hwanted, place_begin hsound hbegin hregistered⟩
  | tail _ hnext ih =>
      obtain ⟨hsound, hreg, hwant, hplace⟩ := ih
      obtain ⟨hstep, hkeeping⟩ := hnext
      exact ⟨sound_next hsound hstep, hkeeping.1, hkeeping.2.1,
        place_next hsound hreg hwant hplace hstep hkeeping⟩

/-- **A stable room is seen**: it is in the list that has been sent exactly once, and `FindMatch`
does not answer that there is no room to join. -/
theorem stableRoom_seen {s₀ : RoomWalk} (h₀ : system.Reachable s₀) (hbegin : s₀.walkStep = .begin)
    (hregistered : s₀.manager.tables.Registered room) (hwanted : s₀.Wanted room)
    (hrun : (system.only (Keeping room)).Run s₀ s) (hdone : s.walkStep = .done) :
    (s.query = .sendRoomList →
      (s.sent.flatten.countP fun packet => packet.roomKey = room.roomKey) = 1) ∧
      ∀ maxPlayerCount, s.query = .findMatch maxPlayerCount →
      s.answer ≠ some notFoundJoinableRoom := by
  obtain ⟨hsound, _, _, hplace⟩ := stableRoom_place h₀ hbegin hregistered hwanted hrun
  cases hplace with
  | ahead _ _ hcurrent hunseen =>
      rw [hdone] at hcurrent
      exact ⟨fun hquery => absurd hquery hcurrent, fun _ _ => hunseen.2⟩
  | here _ hat _ =>
      rw [hdone] at hat
      exact hat.elim
  | passed _ _ hseen =>
      unfold Seen at hseen
      cases hquery : s.query with
      | sendRoomList =>
          rw [hquery] at hseen
          have hflushed := hsound.flushed hdone hquery
          simp only [listings, listed, hflushed, List.append_nil] at hseen
          exact ⟨fun _ => hseen, nofun⟩
      | findMatch m =>
          rw [hquery] at hseen
          exact ⟨nofun, fun _ _ => hseen.2⟩

/-! ## Two walks -/

open RoomManager in
/-- One after the other, two rooms are created. -/
theorem twoRooms_reachable : ∃ m :
    RoomManager, RoomManager.system.Reachable m ∧ m.tables.activeRoomKeys = [7, 9] ∧
    m.tables.Registered ⟨0, 7, 0⟩ ∧ m.tables.Registered ⟨1, 9, 1⟩ ∧
    m.tables.stages ⟨0, 7, 0⟩ = .open ∧
    m.tables.deleteTasks = [] ∧ m.threads 0 = .idle := by
  have h₀ : RoomManager.system.Reachable quietManager := .start quietManager_initial
  have h₁ := h₀.next (.begin _ (t := 0) ⟨0, 1, 1⟩ roomRequest rfl rfl)
  have h₂ := h₁.next (.checked _ (t := 0) rfl rfl rfl (by decide))
  have h₃ := h₂.next (.generated _ (t := 0) rfl 7 (by decide) rfl)
  have h₄ := h₃.next (.free _ (t := 0) rfl (by decide) rfl)
  have h₅ := h₄.next (.added _ (t := 0) rfl rfl)
  have h₆ := h₅.next (.registered _ (t := 0) rfl rfl)
  have h₇ := h₆.next (.activated _ (t := 0) rfl (by decide))
  have h₈ := h₇.next (.alive _ (t := 0) rfl rfl)
  have h₉ := h₈.next (.modeSet _ (t := 0) rfl rfl rfl)
  have h₁₀ := h₉.next (.initialized _ (t := 0) rfl)
  have h₁₁ := h₁₀.next (.begin _ (t := 0) ⟨1, 2, 1⟩ roomRequest rfl rfl)
  have h₁₂ := h₁₁.next (.checked _ (t := 0) rfl rfl rfl (by decide))
  have h₁₃ := h₁₂.next (.generated _ (t := 0) rfl 9 (by decide) rfl)
  have h₁₄ := h₁₃.next (.taken _ (t := 0) rfl (by decide) rfl)
  have h₁₅ := h₁₄.next (.free _ (t := 0) rfl (by decide) rfl)
  have h₁₆ := h₁₅.next (.added _ (t := 0) rfl rfl)
  have h₁₇ := h₁₆.next (.registered _ (t := 0) rfl rfl)
  have h₁₈ := h₁₇.next (.activated _ (t := 0) rfl (by decide))
  have h₁₉ := h₁₈.next (.alive _ (t := 0) rfl rfl)
  have h₂₀ := h₁₉.next (.modeSet _ (t := 0) rfl rfl rfl)
  have h₂₁ := h₂₀.next (.initialized _ (t := 0) rfl)
  exact ⟨_, h₂₁, rfl, ⟨by decide, rfl, rfl⟩, ⟨by decide, rfl, rfl⟩, rfl, rfl, rfl⟩

theorem reachable_of_manager {m : RoomManager} (h : RoomManager.system.Reachable m)
    (attributes : RoomObject → RoomAttributes) (roomState : RoomObject → RoomState)
    (currentPlayerCount : RoomObject → Int) (query : RoomQuery) :
    system.Reachable { manager := m, attributes, roomState, currentPlayerCount, query } := by
  refine invariant (I := fun m =>
    system.Reachable { manager := m, attributes, roomState, currentPlayerCount, query }) ?_ ?_ h
  · intro m hm
    exact .start ⟨hm, rfl, rfl, rfl, rfl, rfl⟩
  · intro m m' hm hstep
    exact hm.next (.manager _ hstep)

theorem undisturbed_refl (n : Nat) (l : List RoomKey) : Undisturbed n l l :=
  fun _ hk hgone => absurd (List.mem_of_mem_take hk) hgone

/-- `SendRoomList` finds a room and lists it, and nobody comes between. -/
theorem listing_round (hregistered : s.manager.tables.Registered room) (hwanted : s.Wanted room)
    (hquery : s.query = .sendRoomList) (hwalk : s.walkStep = .readKey) {other : RoomObject}
    (hget : s.keys[s.activeRoomIndex]? = some other.roomKey)
    (hother : s.manager.tables.Registered other) (hstate : s.roomState other = .wait)
    (hfits : s.packetBuffer.length < 20) :
    ∃ packet : RoomInfoPacket, packet.roomKey = other.roomKey ∧ (system.only (Keeping room)).Run s
      { s with
        activeRoomIndex := s.activeRoomIndex + 1
        packetBuffer := s.packetBuffer ++ [packet] } := by
  let a := s.attributes other
  refine ⟨⟨other.roomKey, a.maxPlayerCount, s.currentPlayerCount other, a.roomName,
    a.isPrivate, false⟩, rfl, ?_⟩
  let s₁ : RoomWalk := { s with activeRoomIndex := s.activeRoomIndex + 1 }
  have hkeeping : ∀ step step', Keeping room (s₁.goTo step) (s₁.goTo step') :=
    fun _ _ => ⟨hregistered, hwanted, undisturbed_refl _ _⟩
  have h₁ : (system.only (Keeping room)).next s (s₁.goTo (.findIndex other.roomKey)) := by
    refine ⟨.walk s true ?_, hregistered, hwanted, undisturbed_refl _ _⟩
    have hget' : s.manager.tables.activeRoomKeys[s.activeRoomIndex]? = some other.roomKey := hget
    simp only [walk, hwalk, hget']
    rfl
  have h₂ : (system.only (Keeping room)).next (s₁.goTo (.findIndex other.roomKey))
      (s₁.goTo (.readRoom other.roomKey other.roomIndex)) := by
    refine ⟨.walk _ true ?_, hkeeping _ _⟩
    have hindex :
      (s₁.goTo (.findIndex other.roomKey)).manager.tables.roomIndexRegistry other.roomKey =
      some other.roomIndex := hother.indexed
    simp only [walk, goTo] at hindex ⊢
    rw [hindex]
  have h₃ : (system.only (Keeping room)).next (s₁.goTo (.readRoom other.roomKey other.roomIndex))
      (s₁.goTo (.visit other)) := by
    refine ⟨.walk _ true ?_, hkeeping _ _⟩
    have hfind :
        ((s₁.goTo (.readRoom other.roomKey other.roomIndex)).manager.tables.rooms
          other.roomIndex).filter
        (·.roomKey = other.roomKey) = some other := by
      have harray :
        (s₁.goTo (.readRoom other.roomKey other.roomIndex)).manager.tables.rooms other.roomIndex =
        some other := hother.inArray
      rw [harray]
      simp
    simp only [walk, goTo] at hfind ⊢
    rw [hfind]
  have h₄ :
    (system.only (Keeping room)).next (s₁.goTo (.visit other)) (s₁.goTo (.readCount other)) := by
    refine ⟨.walk _ true ?_, hkeeping _ _⟩
    have hlist : (s₁.goTo (.visit other)).query = .sendRoomList := hquery
    simp only [walk, goTo] at hlist ⊢
    rw [hlist]
  have h₅ : (system.only (Keeping room)).next (s₁.goTo (.readCount other))
      (s₁.goTo (.readState other (s.currentPlayerCount other))) := ⟨.walk _ true rfl, hkeeping _ _⟩
  have h₆ :
      (system.only (Keeping room)).next (s₁.goTo (.readState other (s.currentPlayerCount other)))
      { s with activeRoomIndex := s.activeRoomIndex + 1, packetBuffer := s.packetBuffer ++
        [⟨other.roomKey, a.maxPlayerCount, s.currentPlayerCount other, a.roomName,
          a.isPrivate, false⟩] } := by
    refine ⟨.walk _ true ?_, hregistered, hwanted, undisturbed_refl _ _⟩
    have hsize : S2CType.roomInfo.size = 63 := by decide
    have hroom : ¬ s.packetBuffer.length * S2CType.roomInfo.size + S2CType.roomInfo.size >
        bufSize := by
      rw [hsize, bufSize]
      omega
    show some ((s₁.goTo (.readState other (s.currentPlayerCount other))).visited other
      (s.currentPlayerCount other)) = _
    unfold visited
    split
    next =>
      have hwait : (s₁.goTo (.readState other (s.currentPlayerCount other))).roomState other =
          .wait := hstate
      rw [hwait, if_neg (by simp)]
      unfold append
      split
      next hfull => exact absurd hfull hroom
      next =>
        simp only [goTo, ← hwalk]
        rfl
    next m hq =>
      have hlist : s.query = .findMatch m := hq
      rw [hquery] at hlist
      cases hlist
  exact .tail (.tail (.tail (.tail (.tail (.single h₁) h₂) h₃) h₄) h₅) h₆

/-- The list is asked for when every room waits for a second player. -/
def listingOf (m : RoomManager) : RoomWalk where
  manager := m
  attributes _ := ⟨2, "room", ""⟩
  roomState _ := .wait
  currentPlayerCount _ := 1
  query := .sendRoomList

theorem listing_begins {m : RoomManager} (hregistered : m.tables.Registered room) :
    (system.only (Keeping room)).next (listingOf m) ((listingOf m).goTo .readKey) :=
  ⟨.walk _ true rfl, hregistered, Or.inl rfl, undisturbed_refl _ _⟩

/-- Nobody comes between: the second room is in the list. -/
theorem stableRoom_seen_undisturbed : ∃ s : RoomWalk, s.walkStep = .done ∧
    (s.sent.flatten.countP fun packet => packet.roomKey = 9) = 1 := by
  obtain ⟨m, hm, hkeys, hfirst, hsecond, _⟩ := twoRooms_reachable
  have hwanted : (listingOf m).Wanted ⟨1, 9, 1⟩ := Or.inl rfl
  have h₀ : (system.only (Keeping ⟨1, 9, 1⟩)).Run (listingOf m) ((listingOf m).goTo .readKey) :=
    .single (listing_begins hsecond)
  obtain ⟨packet₁, _, h₁⟩ := listing_round (s := (listingOf m).goTo .readKey) hsecond
    hwanted rfl rfl (by simp [goTo, keys, listingOf, hkeys]) hfirst rfl (by simp [goTo, listingOf])
  obtain ⟨packet₂, _, h₂⟩ := listing_round (s := { (listingOf m).goTo .readKey with
      activeRoomIndex := 1, packetBuffer := [packet₁] }) hsecond hwanted rfl rfl
    (by simp [goTo, keys, listingOf, hkeys]) hsecond rfl (by simp)
  have h₃ : (system.only (Keeping ⟨1, 9, 1⟩)).next
      { (listingOf m).goTo .readKey with activeRoomIndex := 2, packetBuffer := [packet₁, packet₂] }
      { (listingOf m).goTo .done with activeRoomIndex := 2, sent := [[packet₁, packet₂]] } := by
    refine ⟨.walk _ true ?_, hsecond, hwanted, undisturbed_refl _ _⟩
    simp [RoomWalk.walk, goTo, listingOf, hkeys, finish]
  have hrun := ((h₀.trans h₁).trans h₂).tail h₃
  exact ⟨_, rfl,
    (stableRoom_seen (reachable_of_manager hm _ _ _ _) rfl hsecond hwanted hrun rfl).1 rfl⟩

theorem setThread_self (m : RoomManager) (t : Nat) (call : GameCall) :
    (m.setThread t call).threads t = call :=
  Function.update_self ..

/-- The first room is deleted when it has been listed: the second one takes its place in the list
of rooms, and is not in the list that is sent. -/
theorem stableRoom_skipped : ¬ ∀ (room : RoomObject) (s₀ s : RoomWalk), system.Reachable s₀ →
    s₀.walkStep = .begin →
    s₀.manager.tables.Registered room → s₀.Wanted room →
    (system.only fun _ s' => s'.manager.tables.Registered room ∧ s'.Wanted room).Run s₀ s →
    s.walkStep = .done →
    s.query = .sendRoomList →
    (s.sent.flatten.countP fun packet => packet.roomKey = room.roomKey) = 1 := by
  intro hall
  obtain ⟨m, hm, hkeys, hfirst, hsecond, hopen, htasks, hidle⟩ := twoRooms_reachable
  have hwanted : (listingOf m).Wanted ⟨1, 9, 1⟩ := Or.inl rfl
  have h₀ : (system.only (Keeping ⟨1, 9, 1⟩)).Run (listingOf m) ((listingOf m).goTo .readKey) :=
    .single (listing_begins hsecond)
  obtain ⟨packet, hpacket, h₁⟩ := listing_round (s := (listingOf m).goTo .readKey) hsecond
    hwanted rfl rfl (by simp [goTo, keys, listingOf, hkeys]) hfirst rfl (by simp [goTo, listingOf])
  let s₁ : RoomWalk :=
    { (listingOf m).goTo .readKey with activeRoomIndex := 1, packetBuffer := [packet] }
  let S : System RoomWalk :=
    system.only fun _ s' => s'.manager.tables.Registered ⟨1, 9, 1⟩ ∧ s'.Wanted ⟨1, 9, 1⟩
  have h₁' : S.Run (listingOf m) s₁ := by
    refine Relation.ReflTransGen.mono ?_ _ _ (h₀.trans h₁)
    rintro s s' ⟨hnext, hreg, hwant, _⟩
    exact ⟨hnext, hreg, hwant⟩
  -- the first room posts its deletion, and a thread takes its key out of the list
  let m₂ : RoomManager :=
    m.setTables (m.tables.setStage ⟨0, 7, 0⟩ .posted (m.tables.deleteTasks ++ [0]))
  let m₃ : RoomManager :=
    (m₂.setTables (m₂.tables.setStage ⟨0, 7, 0⟩ (.held 0) [])).setThread 0 (.delete 0 .readRoom)
  let m₄ : RoomManager := m₃.setThread 0 (.delete 0 (.removeActive ⟨0, 7, 0⟩))
  let m₅ : RoomManager :=
    (m₄.setTables (m₄.tables.removeActive 7)).setThread 0 (.delete 0 (.unregister ⟨0, 7, 0⟩))
  have h₂ : S.next s₁ { s₁ with manager := m₂ } :=
    ⟨.manager s₁ (.post m hfirst.inArray hopen),
      ⟨⟨hsecond.active, hsecond.indexed, hsecond.inArray⟩, hwanted⟩⟩
  have h₃ : S.next { s₁ with manager := m₂ } { s₁ with manager := m₃ } := by
    have hdelete : RoomManager.Next m₂ m₃ := .deleteBegun m₂ hidle
      (show m.tables.deleteTasks ++ [0] = 0 :: [] by rw [htasks]; rfl) hfirst.inArray
    exact ⟨.manager { s₁ with manager := m₂ } hdelete,
      ⟨⟨hsecond.active, hsecond.indexed, hsecond.inArray⟩, hwanted⟩⟩
  have h₄ : S.next { s₁ with manager := m₃ } { s₁ with manager := m₄ } := by
    have hread : RoomManager.Next m₃ m₄ := .deleteRead m₃ (setThread_self ..) hfirst.inArray
    exact ⟨.manager { s₁ with manager := m₃ } hread,
      ⟨⟨hsecond.active, hsecond.indexed, hsecond.inArray⟩, hwanted⟩⟩
  have hkeys' : m₅.tables.activeRoomKeys = [9] := by
    show m.tables.activeRoomKeys.erase 7 = [9]
    rw [hkeys]
    rfl
  have hsecond' : m₅.tables.Registered ⟨1, 9, 1⟩ :=
    ⟨by simp [hkeys'], hsecond.indexed, hsecond.inArray⟩
  have h₅ : S.next { s₁ with manager := m₄ } { s₁ with manager := m₅ } := by
    have hremove : RoomManager.Next m₄ m₅ := .deleteActive m₄ (setThread_self ..)
    exact ⟨.manager { s₁ with manager := m₄ } hremove, ⟨hsecond', hwanted⟩⟩
  have h₆ : S.next { s₁ with manager := m₅ }
      { s₁ with manager := m₅, walkStep := .done, sent := [[packet]], packetBuffer := [] } := by
    refine ⟨.walk _ true ?_, ⟨hsecond', hwanted⟩⟩
    simp [RoomWalk.walk, s₁, goTo, listingOf, hkeys', finish]
  have hrun := ((((h₁'.tail h₂).tail h₃).tail h₄).tail h₅).tail h₆
  have hone := hall ⟨1, 9, 1⟩ (listingOf m) _ (reachable_of_manager hm _ _ _ _) rfl hsecond hwanted
    hrun rfl rfl
  simp [hpacket] at hone

end RoomWalk

end ProjectTetris

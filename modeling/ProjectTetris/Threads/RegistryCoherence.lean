import ProjectTetris.Threads.RoomManager

/-!
# The three tables agree

A room that a thread is creating or deleting stands in the tables in one of three ways,
and the step the thread is at says in which. A step for one room leaves the standing of
every other room as it is, also of one with the same key: two rooms are never at one index.
-/

namespace ProjectTetris

open Transition

namespace RoomTables

/-! ## How a room stands in the tables -/

/-- A room of the array is not registered, or registered and not active, or both. -/
inductive Tie where
  | loose
  | indexed
  | listed

def Tied (s : RoomTables) (room : RoomObject) : Tie → Prop
  | .loose => s.roomIndexRegistry room.roomKey ≠ some room.roomIndex
  | .indexed =>
      s.roomIndexRegistry room.roomKey = some room.roomIndex ∧ room.roomKey ∉ s.activeRoomKeys
  | .listed =>
      s.roomIndexRegistry room.roomKey = some room.roomIndex ∧ room.roomKey ∈ s.activeRoomKeys

structure Stands (s : RoomTables) (room : RoomObject) (stage : RoomStage) (tie : Tie) : Prop where
  inArray : s.rooms room.roomIndex = some room
  stage : s.stages room = stage
  tied : s.Tied room tie

structure Coherent (s : RoomTables) : Prop where
  slot : ∀ i room, s.rooms i = some room → room.roomIndex = i ∧ room.id < s.nextId
  registered : ∀ key i, s.roomIndexRegistry key = some i → ∃ room, s.rooms i = some room ∧
    room.roomKey = key
  active : ∀ key ∈ s.activeRoomKeys, ∃ i, s.roomIndexRegistry key = some i
  nodup : s.activeRoomKeys.Nodup

/-- What a change for one room keeps: how every other room stands, and that what is gone stays
gone. -/
structure Keeps (s s' : RoomTables) (room : RoomObject) : Prop where
  others : ∀ other stage tie, other ≠ room → s.Stands other stage tie → s'.Stands other stage tie
  before : ∀ i other, other ≠ room → s'.rooms i = some other →
    s.rooms i = some other ∧ s.stages other = s'.stages other
  gone : ∀ other, other.id < s.nextId → (∀ i, s.rooms i ≠ some other) →
    other.id < s'.nextId ∧ ∀ i, s'.rooms i ≠ some other

/-- A change that leaves the array alone, and the other tables except for this room's key and
index. -/
theorem keeps_of {s s' : RoomTables} {room : RoomObject} (hrooms : s'.rooms = s.rooms)
    (hstages : s'.stages = s.stages) (hid : s'.nextId = s.nextId)
    (hin : s.rooms room.roomIndex = some room)
    (hreg : ∀ key i, key ≠ room.roomKey ∨ i ≠ room.roomIndex →
      (s'.roomIndexRegistry key = some i ↔ s.roomIndexRegistry key = some i))
    (hact : ∀ key i, key ≠ room.roomKey ∨ i ≠ room.roomIndex → s.roomIndexRegistry key = some i →
      (key ∈ s'.activeRoomKeys ↔ key ∈ s.activeRoomKeys)) : Keeps s s' room := by
  refine ⟨?_, ?_, ?_⟩
  · intro other stage tie hne hstands
    have hindex : other.roomIndex ≠ room.roomIndex := by
      intro heq
      have hat := hstands.inArray
      rw [heq, hin] at hat
      exact hne (Option.some.inj hat).symm
    have hr := hreg other.roomKey other.roomIndex (.inr hindex)
    have ha := hact other.roomKey other.roomIndex (.inr hindex)
    refine ⟨hrooms ▸ hstands.inArray, hstages ▸ hstands.stage, ?_⟩
    have htied := hstands.tied
    cases tie with
    | loose => exact fun h => htied (hr.1 h)
    | indexed => exact ⟨hr.2 htied.1, fun h => htied.2 ((ha htied.1).1 h)⟩
    | listed => exact ⟨hr.2 htied.1, (ha htied.1).2 htied.2⟩
  · intro i other _ h
    rw [hrooms] at h
    exact ⟨h, by rw [hstages]⟩
  · intro other hlt hgone
    rw [hrooms, hid]
    exact ⟨hlt, hgone⟩

theorem keeps_refl (s : RoomTables) (room : RoomObject) : Keeps s s room :=
  ⟨fun _ _ _ _ h => h, fun _ _ _ h => ⟨h, rfl⟩, fun _ h hgone => ⟨h, hgone⟩⟩

section Operations

variable {s : RoomTables} {room : RoomObject} {stage : RoomStage}

/-! ## The steps on the tables -/

theorem addRoom_coherent (hs : s.Coherent) (key : RoomKey) (t : Nat) {i : Nat}
    (hfree : s.rooms i = none) :
    (s.addRoom ⟨s.nextId, key, i⟩ t).Coherent ∧
      s.Keeps (s.addRoom ⟨s.nextId, key, i⟩ t) ⟨s.nextId, key, i⟩ ∧
      (s.addRoom ⟨s.nextId, key, i⟩ t).Stands ⟨s.nextId, key, i⟩ (.held t) .loose := by
  have hother : ∀ {j : Nat} {other : RoomObject}, s.rooms j = some other → j ≠ i := by
    intro j other h heq
    rw [heq, hfree] at h
    cases h
  refine ⟨⟨?_, ?_, hs.active, hs.nodup⟩, ⟨?_, ?_, ?_⟩, ⟨?_, ?_, ?_⟩⟩
  · intro j other h
    by_cases hj : j = i
    · subst hj
      simp only [addRoom, Function.update_self, Option.some.injEq] at h
      subst h
      exact ⟨rfl, Nat.lt_succ_self _⟩
    · simp only [addRoom, Function.update_of_ne hj] at h
      exact ⟨(hs.slot j other h).1, Nat.lt_succ_of_lt (hs.slot j other h).2⟩
  · intro k j h
    obtain ⟨other, hat, hkey⟩ := hs.registered k j h
    exact ⟨other, by simp [addRoom, Function.update_of_ne (hother hat), hat], hkey⟩
  · intro other stage tie hne hstands
    refine ⟨?_, ?_, ?_⟩
    · simp [addRoom, Function.update_of_ne (hother hstands.inArray), hstands.inArray]
    · simp [addRoom, Function.update_of_ne hne, hstands.stage]
    · exact hstands.tied
  · intro j other hne h
    have hj : j ≠ i := by
      intro heq
      subst heq
      simp only [addRoom, Function.update_self, Option.some.injEq] at h
      exact hne h.symm
    simp only [addRoom, Function.update_of_ne hj] at h
    exact ⟨h, by simp [addRoom, Function.update_of_ne hne]⟩
  · intro other hlt hgone
    refine ⟨Nat.lt_succ_of_lt hlt, ?_⟩
    intro j h
    by_cases hj : j = i
    · subst hj
      simp only [addRoom, Function.update_self, Option.some.injEq] at h
      subst h
      exact absurd hlt (Nat.lt_irrefl _)
    · simp only [addRoom, Function.update_of_ne hj] at h
      exact hgone j h
  · simp [addRoom]
  · simp [addRoom]
  · intro h
    obtain ⟨other, hat, _⟩ := hs.registered _ _ h
    exact hother hat rfl

theorem register_coherent (hs : s.Coherent) (h : s.Stands room stage .loose)
    (hnew : s.roomIndexRegistry room.roomKey = none) :
    (s.register room.roomKey room.roomIndex).Coherent ∧
      s.Keeps (s.register room.roomKey room.roomIndex) room ∧
      (s.register room.roomKey room.roomIndex).Stands room stage .indexed := by
  have hreg : (s.register room.roomKey room.roomIndex).roomIndexRegistry =
      Function.update s.roomIndexRegistry room.roomKey (some room.roomIndex) := by
    simp [register, IndexRegistry.register, hnew]
  have hinactive : room.roomKey ∉ s.activeRoomKeys := by
    intro hact
    obtain ⟨i, hi⟩ := hs.active _ hact
    rw [hnew] at hi
    cases hi
  refine ⟨⟨hs.slot, ?_, ?_, hs.nodup⟩, keeps_of rfl rfl rfl h.inArray ?_ (fun _ _ _ _ => Iff.rfl),
    ⟨h.inArray, h.stage, by rw [hreg, Function.update_self], hinactive⟩⟩
  · intro key i hi
    rw [hreg] at hi
    by_cases hkey : key = room.roomKey
    · rw [hkey, Function.update_self, Option.some.injEq] at hi
      exact ⟨room, hi ▸ h.inArray, hkey.symm⟩
    · rw [Function.update_of_ne hkey] at hi
      exact hs.registered key i hi
  · intro key hact
    have hkey : key ≠ room.roomKey := fun heq => hinactive (heq ▸ hact)
    rw [hreg, Function.update_of_ne hkey]
    exact hs.active key hact
  · intro key i hor
    rw [hreg]
    by_cases hkey : key = room.roomKey
    · have hi : i ≠ room.roomIndex := hor.resolve_left (fun hn => hn hkey)
      simp [hkey, hnew, hi.symm]
    · rw [Function.update_of_ne hkey]

theorem addActive_coherent (hs : s.Coherent) (h : s.Stands room stage .indexed) :
    (s.addActive room.roomKey).Coherent ∧ s.Keeps (s.addActive room.roomKey) room ∧
      (s.addActive room.roomKey).Stands room stage .listed := by
  have hact : (s.addActive room.roomKey).activeRoomKeys = s.activeRoomKeys ++ [room.roomKey] := by
    simp [addActive, ActiveList.add, h.tied.2]
  refine ⟨⟨hs.slot, hs.registered, ?_, ?_⟩,
    keeps_of rfl rfl rfl h.inArray (fun _ _ _ => Iff.rfl) ?_,
    ⟨h.inArray, h.stage, h.tied.1, by rw [hact]; simp⟩⟩
  · intro key hin
    rw [hact, List.mem_append, List.mem_singleton] at hin
    rcases hin with hin | rfl
    · exact hs.active key hin
    · exact ⟨_, h.tied.1⟩
  · rw [hact]
    refine List.nodup_append.2 ⟨hs.nodup, by simp, ?_⟩
    intro key hin key' hin'
    rw [List.mem_singleton.1 hin']
    exact fun heq => h.tied.2 (heq ▸ hin)
  · intro key i hor hi
    rw [hact, List.mem_append, List.mem_singleton]
    refine ⟨fun hin => hin.resolve_right ?_, .inl⟩
    intro hkey
    rw [hkey, h.tied.1, Option.some.injEq] at hi
    exact hor.elim (fun hn => hn hkey) (fun hn => hn hi.symm)

theorem removeActive_coherent (hs : s.Coherent) (h : s.Stands room stage .listed) :
    (s.removeActive room.roomKey).Coherent ∧ s.Keeps (s.removeActive room.roomKey) room ∧
      (s.removeActive room.roomKey).Stands room stage .indexed := by
  have hact : ∀ key, key ∈ (s.removeActive room.roomKey).activeRoomKeys ↔
      key ≠ room.roomKey ∧ key ∈ s.activeRoomKeys := fun key => hs.nodup.mem_erase_iff
  refine ⟨⟨hs.slot, hs.registered, ?_, hs.nodup.erase _⟩,
    keeps_of rfl rfl rfl h.inArray (fun _ _ _ => Iff.rfl) ?_,
    ⟨h.inArray, h.stage, h.tied.1, fun hin => ((hact _).1 hin).1 rfl⟩⟩
  · intro key hin
    exact hs.active key ((hact key).1 hin).2
  · intro key i hor hi
    rw [hact]
    refine ⟨And.right, fun hin => ⟨?_, hin⟩⟩
    intro hkey
    rw [hkey, h.tied.1, Option.some.injEq] at hi
    exact hor.elim (fun hn => hn hkey) (fun hn => hn hi.symm)

theorem unregister_coherent (hs : s.Coherent)
    (h : s.Stands room stage .loose ∨ s.Stands room stage .indexed) :
    (s.unregister room.roomKey room.roomIndex).Coherent ∧
      s.Keeps (s.unregister room.roomKey room.roomIndex) room ∧
      (s.unregister room.roomKey room.roomIndex).Stands room stage .loose := by
  rcases h with h | h
  · have hsame : s.unregister room.roomKey room.roomIndex = s := by
      simp [unregister, IndexRegistry.unregister, show _ ≠ _ from h.tied]
    rw [hsame]
    exact ⟨hs, keeps_refl s room, h⟩
  have hreg : (s.unregister room.roomKey room.roomIndex).roomIndexRegistry =
      Function.update s.roomIndexRegistry room.roomKey none := by
    simp [unregister, IndexRegistry.unregister, h.tied.1]
  refine ⟨⟨hs.slot, ?_, ?_, hs.nodup⟩, keeps_of rfl rfl rfl h.inArray ?_ (fun _ _ _ _ => Iff.rfl),
    ⟨h.inArray, h.stage, by simp [Tied, hreg]⟩⟩
  · intro key i hi
    rw [hreg] at hi
    by_cases hkey : key = room.roomKey
    · simp [hkey] at hi
    · rw [Function.update_of_ne hkey] at hi
      exact hs.registered key i hi
  · intro key hin
    have hkey : key ≠ room.roomKey := fun heq => h.tied.2 (heq ▸ hin)
    rw [hreg, Function.update_of_ne hkey]
    exact hs.active key hin
  · intro key i hor
    rw [hreg]
    by_cases hkey : key = room.roomKey
    · have hi : i ≠ room.roomIndex := hor.resolve_left (fun hn => hn hkey)
      simp [hkey, h.tied.1, hi.symm]
    · rw [Function.update_of_ne hkey]

theorem tryRemoveRoom_deleteTasks {i : Nat} :
    (s.tryRemoveRoom i room).deleteTasks = s.deleteTasks := by
  unfold tryRemoveRoom
  split <;> rfl

theorem tryRemoveRoom_nextId {i : Nat} : (s.tryRemoveRoom i room).nextId = s.nextId := by
  unfold tryRemoveRoom
  split <;> rfl

theorem tryRemoveRoom_coherent (hs : s.Coherent) (h : s.Stands room stage .loose) :
    (s.tryRemoveRoom room.roomIndex room).Coherent ∧
      s.Keeps (s.tryRemoveRoom room.roomIndex room) room ∧
      ∀ i, (s.tryRemoveRoom room.roomIndex room).rooms i ≠ some room := by
  have heq : s.tryRemoveRoom room.roomIndex room =
      { s with rooms := Function.update s.rooms room.roomIndex none } := by
    simp [tryRemoveRoom, h.inArray]
  have hsub : ∀ i other, (s.tryRemoveRoom room.roomIndex room).rooms i = some other →
      s.rooms i = some other ∧ i ≠ room.roomIndex := by
    intro i other hi
    by_cases hindex : i = room.roomIndex
    · simp [heq, hindex] at hi
    · simp only [heq, Function.update_of_ne hindex] at hi
      exact ⟨hi, hindex⟩
  have hstay : ∀ i other, s.rooms i = some other → other ≠ room →
      (s.tryRemoveRoom room.roomIndex room).rooms i = some other := by
    intro i other hi hne
    have hindex : i ≠ room.roomIndex := by
      intro h'
      rw [h', h.inArray, Option.some.injEq] at hi
      exact hne hi.symm
    simp [heq, Function.update_of_ne hindex, hi]
  refine ⟨⟨?_, ?_, ?_, ?_⟩, ⟨?_, ?_, ?_⟩, ?_⟩
  · intro i other hi
    rw [heq]
    exact hs.slot i other (hsub i other hi).1
  · intro key i hi
    rw [heq] at hi
    obtain ⟨other, hat, hkey⟩ := hs.registered key i hi
    refine ⟨other, hstay i other hat ?_, hkey⟩
    -- an entry of this room would tie it
    rintro rfl
    rw [← hkey, ← (hs.slot i other hat).1] at hi
    exact h.tied hi
  · rw [heq]
    exact hs.active
  · rw [heq]
    exact hs.nodup
  · intro other stage' tie hne hstands
    refine ⟨hstay _ _ hstands.inArray hne, ?_, ?_⟩
    · rw [heq]
      exact hstands.stage
    · rw [heq]
      exact hstands.tied
  · intro i other _ hi
    refine ⟨(hsub i other hi).1, ?_⟩
    rw [heq]
  · intro other hlt hgone
    rw [tryRemoveRoom_nextId]
    exact ⟨hlt, fun i hi => hgone i (hsub i other hi).1⟩
  · intro i hi
    have hin := hsub i room hi
    exact hin.2 (hs.slot i room hin.1).1.symm

theorem setStage_coherent (hs : s.Coherent) {stage' : RoomStage} {deleteTasks : List Nat} :
    (s.setStage room stage' deleteTasks).Coherent :=
  ⟨hs.slot, hs.registered, hs.active, hs.nodup⟩

theorem setStage_keeps {stage' : RoomStage} {deleteTasks : List Nat} :
    s.Keeps (s.setStage room stage' deleteTasks) room := by
  refine ⟨?_, ?_, fun _ h hgone => ⟨h, hgone⟩⟩
  · intro other stage'' tie hne h
    exact ⟨h.inArray, by simp [setStage, Function.update_of_ne hne, h.stage], h.tied⟩
  · intro i other hne h
    exact ⟨h, by simp [setStage, Function.update_of_ne hne]⟩

@[simp] theorem setStage_stage {stage' : RoomStage} {deleteTasks : List Nat} :
    (s.setStage room stage' deleteTasks).stages room = stage' := Function.update_self ..

end Operations

/-- A room whose key is active is found by it. -/
theorem findRoomByKey_active {s : RoomTables} (hs : s.Coherent) {key : RoomKey}
    (h : key ∈ s.activeRoomKeys) :
    ∃ room, s.findRoomByKey key = some room ∧ room.roomKey = key := by
  obtain ⟨i, hi⟩ := hs.active key h
  obtain ⟨room, hat, hkey⟩ := hs.registered key i hi
  exact ⟨room, by simp [findRoomByKey, hi, hat, hkey], hkey⟩

end RoomTables

end ProjectTetris

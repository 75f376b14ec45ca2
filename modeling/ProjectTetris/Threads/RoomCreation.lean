import ProjectTetris.Threads.RegistryCoherence

/-!
# Every interleaving of creations and deletions

`Assigned` says of each room in the array who works on it: a thread whose step is about
it, or nobody, and then the room is registered and active. `Requesting` says of each
session what a creation may rely on: its tasks are processed by one thread only, which
finds it in the lobby for as long as the creation has not succeeded.
-/

namespace ProjectTetris

open Transition RoomTables

/-! ## What a thread's step is about -/

/-- The room in the array that a creation works on. -/
def CreateStep.room : CreateStep → Option RoomObject
  | .register room | .addActive room | .checkLife room | .setRoomMode room | .removeActive room
  | .unregister room _ | .removeRoom room _ | .completeInit room => some room
  | .check | .generateKey | .scan .. | .addRoom .. | .failed .. => none

/-- How that room stands, or that it is gone. -/
def CreateStep.Ok (s : RoomTables) (t : Nat) : CreateStep → Prop
  | .register room => s.Stands room (.held t) .loose
  | .addActive room => s.Stands room (.held t) .indexed
  | .checkLife room | .setRoomMode room | .removeActive room | .completeInit room =>
      s.Stands room (.held t) .listed
  | .unregister room _ => s.Stands room (.held t) .loose ∨ s.Stands room (.held t) .indexed
  | .removeRoom room _ => s.Stands room (.held t) .loose
  | .failed (some room) _ => room.id < s.nextId ∧ ∀ i, s.rooms i ≠ some room
  | .failed none _ | .check | .generateKey | .scan .. | .addRoom .. => True

def DeleteStep.room (s : RoomTables) (i : Nat) : DeleteStep → Option RoomObject
  | .readRoom => s.rooms i
  | .removeActive room | .unregister room | .removeRoom room => some room

def DeleteStep.Ok (s : RoomTables) (t i : Nat) : DeleteStep → Prop
  | .readRoom => ∃ room, room.roomIndex = i ∧ s.Stands room (.held t) .listed
  | .removeActive room => room.roomIndex = i ∧ s.Stands room (.held t) .listed
  | .unregister room => room.roomIndex = i ∧ s.Stands room (.held t) .indexed
  | .removeRoom room => room.roomIndex = i ∧ s.Stands room (.held t) .loose

namespace GameCall

def room (s : RoomTables) : GameCall → Option RoomObject
  | .idle => none
  | .create _ _ step => step.room
  | .delete i step => step.room s i

def Ok (s : RoomTables) (t : Nat) : GameCall → Prop
  | .idle => True
  | .create _ _ step => step.Ok s t
  | .delete i step => step.Ok s t i

/-- The thread has put the room into the array and has still to register it, or it has still to
remove it. -/
def HasOutside (own : RoomObject) : GameCall → Prop
  | .create _ _ (.register room) | .create _ _ (.unregister room _)
  | .create _ _ (.removeRoom room _)
  | .delete _ (.removeRoom room) => room = own
  | _ => False

/-- The session a creation is for. -/
def session : GameCall → Option SessionKey
  | .create key _ _ => some key
  | _ => none

/-- The session, where the creation has found it in the lobby and has not taken it out. -/
def lobbySession : GameCall → Option SessionKey
  | .create _ _ .check | .create _ _ (.completeInit _) => none
  | .create key _ _ => some key
  | _ => none

variable {s s' : RoomTables} {room : RoomObject} {t : Nat}

/-- A thread that holds a room which is not registered is at one of those steps. -/
theorem Ok.hasOutside {call : GameCall} (h : call.Ok s t) (hroom : call.room s = some room)
    (hloose : s.Tied room .loose) : call.HasOutside room := by
  cases call with
  | idle => cases hroom
  | create key request step =>
      cases step with
      | check | generateKey | scan | addRoom | failed => cases hroom
      | register | unregister | removeRoom => exact Option.some.inj hroom
      | addActive | checkLife | setRoomMode | removeActive | completeInit =>
          cases hroom
          exact absurd h.tied.1 hloose
  | delete i step =>
      cases step with
      | readRoom =>
          obtain ⟨other, hindex, hstands⟩ := h
          have hother := hstands.inArray
          rw [hindex, show s.rooms i = some room from hroom] at hother
          cases hother
          exact absurd hstands.tied.1 hloose
      | removeActive | unregister =>
          cases hroom
          exact absurd h.2.tied.1 hloose
      | removeRoom => exact Option.some.inj hroom

/-- A change for a room that this thread does not hold keeps what the thread relies on. -/
theorem Ok.keeps {call : GameCall} (h : call.Ok s t) (hk : s.Keeps s' room)
    (hnot : ∀ tie, ¬ s.Stands room (.held t) tie) :
    call.Ok s' t ∧ call.room s' = call.room s := by
  have hkeep : ∀ {other tie}, s.Stands other (.held t) tie → s'.Stands other (.held t) tie := by
    intro other tie hstands
    exact hk.others _ _ _ (fun heq => hnot tie (heq ▸ hstands)) hstands
  cases call with
  | idle => exact ⟨h, rfl⟩
  | create key request step =>
      refine ⟨?_, rfl⟩
      cases step with
      | check | generateKey | scan | addRoom => exact h
      | register | addActive | checkLife | setRoomMode | removeActive | removeRoom
      | completeInit => exact hkeep h
      | unregister => exact Or.imp hkeep hkeep h
      | failed room' result =>
          cases room' with
          | none => exact h
          | some room' => exact hk.gone room' h.1 h.2
  | delete i step =>
      cases step with
      | readRoom =>
          obtain ⟨other, hindex, hstands⟩ := h
          refine ⟨⟨other, hindex, hkeep hstands⟩, ?_⟩
          have hbefore := hstands.inArray
          have hafter := (hkeep hstands).inArray
          rw [hindex] at hbefore hafter
          exact hafter.trans hbefore.symm
      | removeActive | unregister | removeRoom => exact ⟨h.imp id hkeep, rfl⟩

end GameCall

namespace RoomManager

/-! ## Who works on which room -/

structure Assigned (s : RoomManager) : Prop where
  coherent : s.tables.Coherent
  calls : ∀ t, (s.threads t).Ok s.tables t
  held : ∀ i room t, s.tables.rooms i = some room → s.tables.stages room = .held t →
    (s.threads t).room s.tables = some room
  settled : ∀ i room, s.tables.rooms i = some room →
    s.tables.stages room = .open ∨ s.tables.stages room = .posted → s.tables.Tied room .listed
  deletes : ∀ i ∈ s.tables.deleteTasks, ∃ room, s.tables.rooms i = some room ∧
    s.tables.stages room = .posted
  deletesNodup : s.tables.deleteTasks.Nodup

variable {s : RoomManager} {t : Nat} {call' : GameCall} {room : RoomObject} {T : RoomTables}

theorem Assigned.ok (hs : Assigned s) (h : s.threads t = call') : call'.Ok s.tables t :=
  h ▸ hs.calls t

theorem Assigned.stands (hs : Assigned s) {i : Nat} (hat : s.tables.rooms i = some room)
    (hstage : s.tables.stages room = .open ∨ s.tables.stages room = .posted) :
    s.tables.Stands room (s.tables.stages room) .listed := by
  refine ⟨?_, rfl, hs.settled i room hat hstage⟩
  rw [(hs.coherent.slot i room hat).1]
  exact hat

/-- A step of one thread that touches no table. -/
theorem Assigned.goOn (hs : Assigned s) (call' : GameCall) (hok : call'.Ok s.tables t)
    (hroom : call'.room s.tables = (s.threads t).room s.tables) :
    Assigned (s.setThread t call') := by
  refine ⟨hs.coherent, ?_, ?_, hs.settled, hs.deletes, hs.deletesNodup⟩
  · intro t'
    by_cases ht : t' = t
    · subst ht
      simpa [setThread] using hok
    · simpa [setThread, Function.update_of_ne ht] using hs.calls t'
  · intro i other t' hat hstage
    by_cases ht : t' = t
    · subst ht
      simpa [setThread, hroom] using hs.held i other t' hat hstage
    · simpa [setThread, Function.update_of_ne ht] using hs.held i other t' hat hstage

theorem Assigned.setSession (hs : Assigned s) (key : SessionKey) (entry : SessionEntry) :
    Assigned (s.setSession key entry) :=
  ⟨hs.coherent, hs.calls, hs.held, hs.settled, hs.deletes, hs.deletesNodup⟩

/-- A change of the tables for a room that no other thread holds, with what this thread goes on to.
-/
theorem Assigned.change (hs : Assigned s) (hcoherent : T.Coherent) (hk : s.tables.Keeps T room)
    (hmine : ∀ t' ≠ t, ∀ tie, ¬ s.tables.Stands room (.held t') tie)
    (hothers : ∀ other, other ≠ room → (s.threads t).room s.tables = some other →
      call'.room T = some other)
    (hok : call'.Ok T t)
    (hheld : ∀ i t', T.rooms i = some room → T.stages room = .held t' →
      t' = t ∧ call'.room T = some room)
    (hsettled : ∀ i, T.rooms i = some room → T.stages room = .open ∨ T.stages room = .posted →
      T.Tied room .listed)
    (hdeletes : ∀ i ∈ T.deleteTasks, ∃ room, T.rooms i = some room ∧ T.stages room = .posted)
    (hnodup : T.deleteTasks.Nodup) : Assigned ((s.setTables T).setThread t call') := by
  refine ⟨hcoherent, ?_, ?_, ?_, hdeletes, hnodup⟩
  · intro t'
    by_cases ht : t' = t
    · subst ht
      simpa [setThread, setTables] using hok
    · simpa [setThread, setTables, Function.update_of_ne ht]
        using ((hs.calls t').keeps hk (hmine t' ht)).1
  · intro i other t' hat hstage
    by_cases hother : other = room
    · subst hother
      obtain ⟨rfl, hcall⟩ := hheld i t' hat hstage
      simpa [setThread, setTables] using hcall
    obtain ⟨hat₀, hstage₀⟩ := hk.before i other hother hat
    have hwork := hs.held i other t' hat₀ (hstage₀.trans hstage)
    by_cases ht : t' = t
    · subst ht
      simpa [setThread, setTables] using hothers other hother hwork
    · have hroom := ((hs.calls t').keeps hk (hmine t' ht)).2
      simpa [setThread, setTables, Function.update_of_ne ht, hroom] using hwork
  · intro i other hat hstage
    by_cases hother : other = room
    · subst hother
      exact hsettled i hat hstage
    obtain ⟨hat₀, hstage₀⟩ := hk.before i other hother hat
    exact (hk.others _ _ _ hother (hs.stands hat₀ (by rwa [hstage₀]))).tied

/-- The `DELETE_ROOM` tasks are for other rooms than one that has posted none. -/
theorem Assigned.deletes_keep (hs : Assigned s) (hk : s.tables.Keeps T room)
    (hnot : ∀ i, s.tables.rooms i = some room → s.tables.stages room ≠ .posted) {i : Nat}
    (hi : i ∈ s.tables.deleteTasks) :
    ∃ room, T.rooms i = some room ∧ T.stages room = .posted := by
  obtain ⟨other, hat, hstage⟩ := hs.deletes i hi
  have hstands := hk.others other _ _ (fun heq => hnot i (heq ▸ hat) (heq ▸ hstage))
    (hs.stands hat (.inr hstage))
  have hindex := (hs.coherent.slot i other hat).1
  exact ⟨other, hindex ▸ hstands.inArray, hstands.stage.trans hstage⟩

/-- A step of a thread for the room it holds, after which it holds it still or the room is gone. -/
theorem Assigned.work (hs : Assigned s) {tie : Tie} (hstands : s.tables.Stands room (.held t) tie)
    (hroom : (s.threads t).room s.tables = some room) (hcoherent : T.Coherent)
    (hk : s.tables.Keeps T room) (hdeletes : T.deleteTasks = s.tables.deleteTasks)
    (hok : call'.Ok T t)
    (hafter : (T.stages room = .held t ∧ call'.room T = some room) ∨ ∀ i, T.rooms i ≠ some room) :
    Assigned ((s.setTables T).setThread t call') := by
  refine hs.change hcoherent hk ?_ ?_ hok ?_ ?_ ?_ ?_
  · intro t' ht _ h
    have hheld := hstands.stage.symm.trans h.stage
    cases hheld
    exact ht rfl
  · intro other hne hother
    rw [hroom] at hother
    exact absurd (Option.some.inj hother).symm hne
  · intro i t' hat hstage
    rcases hafter with ⟨hmine, hcall⟩ | hgone
    · rw [hmine] at hstage
      cases hstage
      exact ⟨rfl, hcall⟩
    · exact absurd hat (hgone i)
  · intro i hat hstage
    rcases hafter with ⟨hmine, -⟩ | hgone
    · rw [hmine] at hstage
      rcases hstage with hstage | hstage <;> cases hstage
    · exact absurd hat (hgone i)
  · rw [hdeletes]
    intro i hi
    exact hs.deletes_keep hk (fun _ _ => by rw [hstands.stage]; exact nofun) hi
  · rw [hdeletes]
    exact hs.deletesNodup

/-! ## The steps that change the tables -/

theorem Assigned.added (hs : Assigned s) {key : SessionKey} {request : CreateRequest}
    {roomKey : RoomKey} {i : Nat} (h : s.threads t = .create key request (.addRoom roomKey i))
    (hfree : s.tables.rooms i = none) :
    Assigned ((s.setTables (s.tables.addRoom ⟨s.tables.nextId, roomKey, i⟩ t)).setThread t
      (.create key request (.register ⟨s.tables.nextId, roomKey, i⟩))) := by
  obtain ⟨hcoherent, hk, hstands⟩ := addRoom_coherent hs.coherent roomKey t hfree
  have hnew : ∀ j, s.tables.rooms j ≠ some ⟨s.tables.nextId, roomKey, i⟩ := by
    intro j hj
    exact Nat.lt_irrefl _ (hs.coherent.slot j _ hj).2
  refine hs.change hcoherent hk ?_ ?_ hstands ?_ ?_ ?_ hs.deletesNodup
  · exact fun _ _ _ h' => hnew _ h'.inArray
  · intro other _ hother
    simp [h, GameCall.room, CreateStep.room] at hother
  · intro j t' _ hstage
    rw [hstands.stage] at hstage
    cases hstage
    exact ⟨rfl, rfl⟩
  · intro j _ hstage
    rw [hstands.stage] at hstage
    rcases hstage with hstage | hstage <;> cases hstage
  · intro j hj
    exact hs.deletes_keep hk (fun j' h' => absurd h' (hnew j')) hj

theorem Assigned.completed (hs : Assigned s) {key : SessionKey} {request : CreateRequest}
    (h : s.threads t = .create key request (.completeInit room)) :
    Assigned
      ((s.setTables (s.tables.setStage room .open s.tables.deleteTasks)).setThread t .idle) := by
  have hstands : s.tables.Stands room (.held t) .listed := hs.ok h
  refine hs.change (setStage_coherent hs.coherent) setStage_keeps ?_ ?_ trivial ?_ ?_ ?_
    hs.deletesNodup
  · intro t' ht _ h'
    have hheld := hstands.stage.symm.trans h'.stage
    cases hheld
    exact ht rfl
  · intro other hne hwork
    rw [h] at hwork
    exact absurd (Option.some.inj hwork).symm hne
  · intro i t' _ hstage
    rw [setStage_stage] at hstage
    cases hstage
  · exact fun _ _ _ => hstands.tied
  · intro i hi
    exact hs.deletes_keep setStage_keeps (fun _ _ => by rw [hstands.stage]; exact nofun) hi

/-- The room posts its deletion; no thread takes a step. -/
theorem Assigned.posted (hs : Assigned s) {i : Nat} (hat : s.tables.rooms i = some room)
    (hopen : s.tables.stages room = .open) :
    Assigned (s.setTables (s.tables.setStage room .posted (s.tables.deleteTasks ++ [i]))) := by
  have hk : s.tables.Keeps (s.tables.setStage room .posted (s.tables.deleteTasks ++ [i])) room :=
    setStage_keeps
  have hfree : ∀ t tie, ¬ s.tables.Stands room (.held t) tie := by
    intro t tie h
    have hheld := hopen.symm.trans h.stage
    cases hheld
  have hcall := (hs.calls 0).keeps hk (hfree 0)
  have hchange := hs.change (t := 0) (setStage_coherent hs.coherent) hk (fun t _ => hfree t)
    (fun other _ hwork => hcall.2.trans hwork) hcall.1 ?_ ?_ ?_ ?_
  · have hsame : Function.update s.threads 0 (s.threads 0) = s.threads :=
      Function.update_eq_self ..
    simpa only [setThread, setTables, hsame] using hchange
  · intro j t' _ hstage
    rw [setStage_stage] at hstage
    cases hstage
  · exact fun _ _ _ => hs.settled i room hat (.inl hopen)
  · intro j hj
    rcases List.mem_append.1 hj with hj | hj
    · refine hs.deletes_keep hk (fun _ _ => ?_) hj
      rw [hopen]
      exact nofun
    · rw [List.mem_singleton] at hj
      exact ⟨room, hj ▸ hat, setStage_stage⟩
  · refine List.nodup_append.2 ⟨hs.deletesNodup, by simp, ?_⟩
    intro j hj j' hj' heq
    rw [heq, List.mem_singleton.1 hj'] at hj
    obtain ⟨other, hat', hstage⟩ := hs.deletes i hj
    rw [hat] at hat'
    cases hat'
    rw [hopen] at hstage
    cases hstage

theorem Assigned.deleteBegun (hs : Assigned s) {i : Nat} {rest : List Nat}
    (h : s.threads t = .idle) (htask : s.tables.deleteTasks = i :: rest)
    (hat : s.tables.rooms i = some room) :
    Assigned ((s.setTables (s.tables.setStage room (.held t) rest)).setThread t
      (.delete i .readRoom)) := by
  have hnodup : i ∉ rest ∧ rest.Nodup := by
    have hall := hs.deletesNodup
    rwa [htask, List.nodup_cons] at hall
  have hposted : s.tables.stages room = .posted := by
    obtain ⟨other, hat', hstage⟩ := hs.deletes i (by simp [htask])
    rw [hat] at hat'
    cases hat'
    exact hstage
  have hindex : room.roomIndex = i := (hs.coherent.slot i room hat).1
  refine hs.change (setStage_coherent hs.coherent) setStage_keeps ?_ ?_ ?_ ?_ ?_ ?_ hnodup.2
  · intro t' _ tie h'
    have hstage := hposted.symm.trans h'.stage
    cases hstage
  · intro other _ hwork
    rw [h] at hwork
    cases hwork
  · exact ⟨room, hindex, hindex ▸ hat, setStage_stage, hs.settled i room hat (.inr hposted)⟩
  · intro j t' hj hstage
    rw [setStage_stage] at hstage
    cases hstage
    exact ⟨rfl, hat⟩
  · intro j _ hstage
    rw [setStage_stage] at hstage
    rcases hstage with hstage | hstage <;> cases hstage
  · intro j hj
    obtain ⟨other, hat', hstage⟩ := hs.deletes j (by simp [htask, show j ∈ rest from hj])
    -- the task that was taken is the only one for its index
    have hne : other ≠ room := by
      rintro rfl
      have hij := (hs.coherent.slot j other hat').1.symm.trans hindex
      exact hnodup.1 (hij ▸ hj)
    exact ⟨other, hat', by simp [setStage, Function.update_of_ne hne, hstage]⟩

/-! ## Every step -/

theorem assigned_next {s s' : RoomManager} (hs : Assigned s) (h : Next s s') : Assigned s' := by
  cases h with
  | life key lifeState => exact hs.setSession key _
  | mode key modeState roomIndex => exact hs.setSession key _
  | begin key request h =>
      exact (hs.goOn (.create key request .check) trivial (by rw [h]; rfl)).setSession key _
  | checkFailed h => exact (hs.goOn .idle trivial (by rw [h]; rfl)).setSession _ _
  | rejected h => exact hs.goOn _ trivial (by rw [h]; rfl)
  | checked h => exact hs.goOn _ trivial (by rw [h]; rfl)
  | notGenerated h => exact hs.goOn _ trivial (by rw [h]; rfl)
  | generated h => exact hs.goOn _ trivial (by rw [h]; rfl)
  | noneFree h => exact hs.goOn _ trivial (by rw [h]; rfl)
  | taken h => exact hs.goOn _ trivial (by rw [h]; rfl)
  | free h => exact hs.goOn _ trivial (by rw [h]; rfl)
  | lost h => exact hs.goOn _ trivial (by rw [h]; rfl)
  | added h hfree => exact hs.added h hfree
  | @registered t key request room h hnew =>
      have hstands := hs.ok h
      obtain ⟨hcoherent, hk, hafter⟩ := register_coherent hs.coherent hstands hnew
      exact hs.work hstands (by rw [h]; rfl) hcoherent hk rfl hafter (.inl ⟨hafter.stage, rfl⟩)
  | @notRegistered t key request room h =>
      have hstands := hs.ok h
      exact hs.goOn _ (.inl hstands) (by rw [h]; rfl)
  | @activated t key request room h =>
      have hstands := hs.ok h
      obtain ⟨hcoherent, hk, hafter⟩ := addActive_coherent hs.coherent hstands
      exact hs.work hstands (by rw [h]; rfl) hcoherent hk rfl hafter (.inl ⟨hafter.stage, rfl⟩)
  | @notActivated t key request room h =>
      have hstands := hs.ok h
      exact hs.goOn _ (.inr hstands) (by rw [h]; rfl)
  | @dead t key request room h =>
      have hstands := hs.ok h
      exact hs.goOn _ hstands (by rw [h]; rfl)
  | @alive t key request room h =>
      have hstands := hs.ok h
      exact hs.goOn _ hstands (by rw [h]; rfl)
  | @modeSet t key request room h =>
      have hstands := hs.ok h
      exact (hs.goOn (.create key request (.completeInit room)) hstands
        (by rw [h]; rfl)).setSession key _
  | @modeNotSet t key request room h =>
      have hstands := hs.ok h
      exact hs.goOn _ hstands (by rw [h]; rfl)
  | @activeRemoved t key request room h =>
      have hstands := hs.ok h
      obtain ⟨hcoherent, hk, hafter⟩ := removeActive_coherent hs.coherent hstands
      exact hs.work hstands (by rw [h]; rfl) hcoherent hk rfl (.inr hafter)
        (.inl ⟨hafter.stage, rfl⟩)
  | @unregistered t key request room result h =>
      have hstands := hs.ok h
      obtain ⟨hcoherent, hk, hafter⟩ := unregister_coherent hs.coherent hstands
      rcases hstands with hstands | hstands
      · exact hs.work hstands (by rw [h]; rfl) hcoherent hk rfl hafter (.inl ⟨hafter.stage, rfl⟩)
      · exact hs.work hstands (by rw [h]; rfl) hcoherent hk rfl hafter (.inl ⟨hafter.stage, rfl⟩)
  | @roomRemoved t key request room result h =>
      have hstands := hs.ok h
      obtain ⟨hcoherent, hk, hgone⟩ := tryRemoveRoom_coherent hs.coherent hstands
      have hid := (hs.coherent.slot _ _ hstands.inArray).2
      rw [← tryRemoveRoom_nextId] at hid
      exact hs.work hstands (by rw [h]; rfl) hcoherent hk tryRemoveRoom_deleteTasks ⟨hid, hgone⟩
        (.inr hgone)
  | failed h => exact (hs.goOn .idle trivial (by rw [h]; rfl)).setSession _ _
  | initialized h => exact (hs.completed h).setSession _ _
  | post h hopen => exact hs.posted h hopen
  | deleteBegun h htask hroom => exact hs.deleteBegun h htask hroom
  | @deleteNone t i rest h htask hroom =>
      -- there is always a room
      obtain ⟨room, hat, _⟩ := hs.deletes i (by simp [htask])
      rw [hroom] at hat
      cases hat
  | @deleteRead t i room h hroom =>
      have hread := hs.ok h
      obtain ⟨other, hindex, hstands⟩ := hread
      have hat := hstands.inArray
      rw [hindex, hroom] at hat
      cases hat
      exact hs.goOn _ ⟨hindex, hstands⟩ (by rw [h]; exact hroom.symm)
  | deleteGone h hroom => exact hs.goOn _ trivial (by rw [h]; exact hroom.symm)
  | @deleteActive t i room h =>
      have hat := hs.ok h
      obtain ⟨hindex, hstands⟩ := hat
      obtain ⟨hcoherent, hk, hafter⟩ := removeActive_coherent hs.coherent hstands
      exact hs.work hstands (by rw [h]; rfl) hcoherent hk rfl ⟨hindex, hafter⟩
        (.inl ⟨hafter.stage, rfl⟩)
  | @deleteIndex t i room h =>
      have hat := hs.ok h
      obtain ⟨rfl, hstands⟩ := hat
      obtain ⟨hcoherent, hk, hafter⟩ := unregister_coherent hs.coherent (.inr hstands)
      exact hs.work hstands (by rw [h]; rfl) hcoherent hk rfl ⟨rfl, hafter⟩
        (.inl ⟨hafter.stage, rfl⟩)
  | @deleteRoom t i room h =>
      have hat := hs.ok h
      obtain ⟨rfl, hstands⟩ := hat
      obtain ⟨hcoherent, hk, hgone⟩ := tryRemoveRoom_coherent hs.coherent hstands
      exact hs.work hstands (by rw [h]; rfl) hcoherent hk tryRemoveRoom_deleteTasks trivial
        (.inr hgone)

theorem initial_assigned {s : RoomManager} (h : Initial s) : Assigned s := by
  obtain ⟨hrooms, hregistry, hactive, hdeletes, hthreads, _⟩ := h
  refine ⟨⟨?_, ?_, ?_, ?_⟩, ?_, ?_, ?_, ?_, ?_⟩
  · intro i room hat
    rw [hrooms] at hat
    cases hat
  · intro key i hi
    rw [hregistry] at hi
    cases hi
  · intro key hin
    rw [hactive] at hin
    cases hin
  · rw [hactive]
    exact .nil
  · intro t
    rw [hthreads]
    trivial
  · intro i room t hat
    rw [hrooms] at hat
    cases hat
  · intro i room hat
    rw [hrooms] at hat
    cases hat
  · rw [hdeletes]
    exact nofun
  · rw [hdeletes]
    exact .nil

theorem reachable_assigned {s : RoomManager} (h : system.Reachable s) : Assigned s :=
  invariant (fun _ => initial_assigned) (fun _ _ => assigned_next) h

/-! ## Which room a key belongs to -/

/-- A room of the array is registered, or it is not and a thread has still to register or to remove
it. -/
theorem Assigned.registered_or (hs : Assigned s) {i : Nat} (hat : s.tables.rooms i = some room) :
    s.tables.roomIndexRegistry room.roomKey = some i ∨
      s.tables.roomIndexRegistry room.roomKey ≠ some room.roomIndex ∧
        ∃ t, (s.threads t).HasOutside room := by
  have hindex := (hs.coherent.slot i room hat).1
  by_cases hreg : s.tables.roomIndexRegistry room.roomKey = some room.roomIndex
  · exact .inl (hindex ▸ hreg)
  · refine .inr ⟨hreg, ?_⟩
    cases hstage : s.tables.stages room with
    | held t => exact ⟨t, (hs.calls t).hasOutside (hs.held i room t hat hstage) hreg⟩
    | «open» => exact absurd (hs.settled i room hat (.inl hstage)).1 hreg
    | posted => exact absurd (hs.settled i room hat (.inr hstage)).1 hreg

/-! ## The sessions rooms are created for -/

structure Requesting (s : RoomManager) : Prop where
  creating : ∀ t key, (s.threads t).session = some key → (s.sessions key).creating = true
  alone : ∀ t t' key, (s.threads t).session = some key → (s.threads t').session = some key → t = t'
  lobby : ∀ t key, (s.threads t).lobbySession = some key → (s.sessions key).modeState = .lobby

theorem lobbySession_session {call : GameCall} {key : SessionKey}
    (h : call.lobbySession = some key) :
    call.session = some key := by
  cases call with
  | idle | delete => cases h
  | create key' request step => cases step <;> first | exact h | cases h

/-- A step of one thread, for the session it was for before if any. -/
theorem Requesting.goOn (hs : Requesting s) (call' : GameCall)
    (hsession : ∀ key, call'.session = some key → (s.threads t).session = some key)
    (hlobby : ∀ key, call'.lobbySession = some key → (s.sessions key).modeState = .lobby) :
    Requesting (s.setThread t call') := by
  have hbefore : ∀ t' key, (Function.update s.threads t call' t').session = some key →
      (s.threads t').session = some key := by
    intro t' key h
    by_cases ht : t' = t
    · subst ht
      rw [Function.update_self] at h
      exact hsession key h
    · rwa [Function.update_of_ne ht] at h
  refine ⟨?_, ?_, ?_⟩
  · exact fun t' key h => hs.creating t' key (hbefore t' key h)
  · exact fun t₁ t₂ key h₁ h₂ => hs.alone t₁ t₂ key (hbefore t₁ key h₁) (hbefore t₂ key h₂)
  · intro t' key h
    by_cases ht : t' = t
    · subst ht
      simp only [setThread, Function.update_self] at h
      exact hlobby key h
    · simp only [setThread, Function.update_of_ne ht] at h
      exact hs.lobby t' key h

theorem Requesting.setTables (hs : Requesting s) (T : RoomTables) : Requesting (s.setTables T) :=
  ⟨hs.creating, hs.alone, hs.lobby⟩

/-- A change of a session that no creation is for, or that leaves it in the lobby. -/
theorem Requesting.setSession (hs : Requesting s) {key : SessionKey} {entry : SessionEntry}
    (hcreating : ∀ t, (s.threads t).session = some key → entry.creating = true)
    (hlobby : ∀ t, (s.threads t).lobbySession = some key → entry.modeState = .lobby) :
    Requesting (s.setSession key entry) := by
  refine ⟨?_, hs.alone, ?_⟩
  · intro t key' h
    by_cases hkey : key' = key
    · subst hkey
      simpa [RoomManager.setSession] using hcreating t h
    · simpa [RoomManager.setSession, Function.update_of_ne hkey] using hs.creating t key' h
  · intro t key' h
    by_cases hkey : key' = key
    · subst hkey
      simpa [RoomManager.setSession] using hlobby t h
    · simpa [RoomManager.setSession, Function.update_of_ne hkey] using hs.lobby t key' h

/-- The creation is over: no thread is about the session any more. -/
theorem Requesting.release (hs : Requesting s) {key : SessionKey}
    (h : (s.threads t).session = some key) :
    Requesting (s.release t key) := by
  have hgone : ∀ t', ((s.setThread t .idle).threads t').session ≠ some key := by
    intro t' h'
    by_cases ht : t' = t
    · subst ht
      simp [setThread, GameCall.session] at h'
    · simp only [setThread, Function.update_of_ne ht] at h'
      exact ht (hs.alone t' t key h' h)
  refine (hs.goOn .idle (fun _ h => by cases h) (fun _ h => by cases h)).setSession ?_ ?_
  · exact fun t' h' => absurd h' (hgone t')
  · exact fun t' h' => absurd (lobbySession_session h') (hgone t')

theorem Requesting.begin (hs : Requesting s) {key : SessionKey} {request : CreateRequest}
    (h : s.threads t = .idle) (hfree : (s.sessions key).creating = false) :
    Requesting ((s.setThread t (.create key request .check)).setSession key
      { s.sessions key with creating := true }) := by
  have hno : ∀ t', (s.threads t').session ≠ some key := by
    intro t' h'
    have hcreating := hs.creating t' key h'
    rw [hfree] at hcreating
    cases hcreating
  have hother : ∀ t' key', ((s.setThread t (.create key request .check)).threads t').session =
      some key' →
      (t' = t ∧ key' = key) ∨ (s.threads t').session = some key' := by
    intro t' key' h'
    by_cases ht : t' = t
    · subst ht
      simp only [setThread, Function.update_self] at h'
      exact .inl ⟨rfl, (Option.some.inj h').symm⟩
    · simp only [setThread, Function.update_of_ne ht] at h'
      exact .inr h'
  refine ⟨?_, ?_, ?_⟩
  · intro t' key' h'
    by_cases hkey : key' = key
    · subst hkey
      simp [RoomManager.setSession]
    · have hbefore := (hother t' key' h').resolve_left (fun h => hkey h.2)
      simpa [RoomManager.setSession, setThread, Function.update_of_ne hkey]
        using hs.creating t' key' hbefore
  · intro t₁ t₂ key' h₁ h₂
    rcases hother t₁ key' h₁ with ⟨ht₁, rfl⟩ | h₁'
    · rcases hother t₂ key' h₂ with ⟨ht₂, _⟩ | h₂'
      · exact ht₁.trans ht₂.symm
      · exact absurd h₂' (hno t₂)
    · rcases hother t₂ key' h₂ with ⟨_, rfl⟩ | h₂'
      · exact absurd h₁' (hno t₁)
      · exact hs.alone t₁ t₂ key' h₁' h₂'
  · intro t' key' h'
    by_cases ht : t' = t
    · subst ht
      simp [setThread, RoomManager.setSession, GameCall.lobbySession] at h'
    · simp only [setThread, RoomManager.setSession, Function.update_of_ne ht] at h'
      have hkey : key' ≠ key := by
        rintro rfl
        exact hno t' (lobbySession_session h')
      simpa [RoomManager.setSession, setThread, Function.update_of_ne hkey]
        using hs.lobby t' key' h'

/-- The session goes into the room. -/
theorem Requesting.modeSet (hs : Requesting s) {key : SessionKey} {request : CreateRequest}
    (h : s.threads t = .create key request (.setRoomMode room)) :
    Requesting ((s.setThread t (.create key request (.completeInit room))).setSession key
      { s.sessions key with modeState := .room, roomIndex := room.roomIndex }) := by
  have hmine : (s.threads t).session = some key := by
    rw [h]
    rfl
  have hgone : ∀ t',
      ((s.setThread t (.create key request (.completeInit room))).threads t').lobbySession ≠
      some key := by
    intro t' h'
    by_cases ht : t' = t
    · subst ht
      simp [setThread, GameCall.lobbySession] at h'
    · simp only [setThread, Function.update_of_ne ht] at h'
      exact ht (hs.alone t' t key (lobbySession_session h') hmine)
  refine Requesting.setSession (hs.goOn _ ?_ (fun _ h => by cases h)) ?_
    (fun t' h' => absurd h' (hgone t'))
  · intro key' h'
    rw [h]
    exact h'
  · exact fun _ _ => hs.creating t key hmine

/-- A step of a creation, for a session that was in the lobby before. -/
theorem Requesting.create (hs : Requesting s) {key : SessionKey} {request : CreateRequest}
    {step step' : CreateStep} (h : s.threads t = .create key request step)
    (hstep : (s.threads t).lobbySession = some key ∨ (s.sessions key).modeState = .lobby) :
    Requesting (s.setThread t (.create key request step')) := by
  have hlobby : (s.sessions key).modeState = .lobby := hstep.elim (hs.lobby t key) id
  refine hs.goOn _ ?_ ?_
  · intro key' h'
    rw [h]
    exact h'
  · intro key' h'
    have hkey := lobbySession_session h'
    cases hkey
    exact hlobby

theorem requesting_next {s s' : RoomManager} (hs : Requesting s) (h : Next s s') :
    Requesting s' := by
  have hnone : ∀ {t : Nat} {call : GameCall}, call.session = none →
      Requesting (s.setThread t call) := by
    intro t call hcall
    refine hs.goOn _ ?_ ?_
    · intro key h
      rw [hcall] at h
      cases h
    · intro key h
      have h' := lobbySession_session h
      rw [hcall] at h'
      cases h'
  cases h with
  | life key lifeState =>
      exact hs.setSession (fun t h => hs.creating t key h) (fun t h => hs.lobby t key h)
  | mode key modeState roomIndex hfree =>
      have hno : ∀ t, (s.threads t).session ≠ some key := by
        intro t h
        have hcreating := hs.creating t key h
        rw [hfree] at hcreating
        cases hcreating
      exact hs.setSession (fun t h => absurd h (hno t))
        (fun t h => absurd (lobbySession_session h) (hno t))
  | begin key request h hfree => exact hs.begin h hfree
  | checkFailed h => exact hs.release (by rw [h]; rfl)
  | rejected h _ hmode => exact hs.create h (.inr hmode)
  | checked h _ hmode => exact hs.create h (.inr hmode)
  | notGenerated h => exact hs.create h (.inl (by rw [h]; rfl))
  | generated h => exact hs.create h (.inl (by rw [h]; rfl))
  | noneFree h => exact hs.create h (.inl (by rw [h]; rfl))
  | taken h => exact hs.create h (.inl (by rw [h]; rfl))
  | free h => exact hs.create h (.inl (by rw [h]; rfl))
  | lost h => exact hs.create h (.inl (by rw [h]; rfl))
  | added h => exact (hs.setTables _).create h (.inl (by rw [setTables, h]; rfl))
  | registered h => exact (hs.setTables _).create h (.inl (by rw [setTables, h]; rfl))
  | notRegistered h => exact hs.create h (.inl (by rw [h]; rfl))
  | activated h => exact (hs.setTables _).create h (.inl (by rw [setTables, h]; rfl))
  | notActivated h => exact hs.create h (.inl (by rw [h]; rfl))
  | dead h => exact hs.create h (.inl (by rw [h]; rfl))
  | alive h => exact hs.create h (.inl (by rw [h]; rfl))
  | modeSet h _ hmode => exact hs.modeSet h
  | modeNotSet h => exact hs.create h (.inl (by rw [h]; rfl))
  | activeRemoved h => exact (hs.setTables _).create h (.inl (by rw [setTables, h]; rfl))
  | unregistered h => exact (hs.setTables _).create h (.inl (by rw [setTables, h]; rfl))
  | roomRemoved h => exact (hs.setTables _).create h (.inl (by rw [setTables, h]; rfl))
  | failed h => exact hs.release (by rw [h]; rfl)
  | initialized h => exact (hs.setTables _).release (by rw [setTables, h]; rfl)
  | post => exact hs.setTables _
  | deleteBegun => exact (hnone rfl).setTables _
  | deleteNone => exact (hnone rfl).setTables _
  | deleteRead => exact hnone rfl
  | deleteGone => exact hnone rfl
  | deleteActive => exact (hnone rfl).setTables _
  | deleteIndex => exact (hnone rfl).setTables _
  | deleteRoom => exact (hnone rfl).setTables _

theorem initial_requesting {s : RoomManager} (h : Initial s) : Requesting s := by
  obtain ⟨_, _, _, _, hthreads, _⟩ := h
  refine ⟨?_, ?_, ?_⟩
  · intro t key h
    rw [hthreads] at h
    cases h
  · intro t t' key h
    rw [hthreads] at h
    cases h
  · intro t key h
    rw [hthreads] at h
    cases h

theorem reachable_requesting {s : RoomManager} (h : system.Reachable s) : Requesting s :=
  invariant (fun _ => initial_requesting) (fun _ _ => requesting_next) h

/-! ## The tables in every reachable state -/

/--
**The tables agree after every step**: what is active is registered, and what is
registered is a room of the array with that key at that index. No two rooms are at one
index, and two rooms have one key only while one of them is not registered and a thread has
still to register or to remove it. A creation that has failed finds its session in the lobby, and
its room in none of the tables.
-/
theorem registry_coherent {s : RoomManager} (h : system.Reachable s) :
    (∀ key ∈ s.tables.activeRoomKeys, ∃ i room, s.tables.roomIndexRegistry key = some i ∧
      s.tables.rooms i = some room ∧ room.roomKey = key ∧ room.roomIndex = i) ∧
    (∀ key i, s.tables.roomIndexRegistry key = some i →
      ∃ room, s.tables.rooms i = some room ∧ room.roomKey = key ∧ room.roomIndex = i) ∧
    (∀ i j room other, s.tables.rooms i = some room → s.tables.rooms j = some other →
      room.roomIndex = other.roomIndex → room = other) ∧
    (∀ i j room other, s.tables.rooms i = some room → s.tables.rooms j = some other →
      room.roomKey = other.roomKey → room ≠ other →
      ∃ own t, (own = room ∨ own = other) ∧ (s.threads t).HasOutside own ∧
        s.tables.roomIndexRegistry own.roomKey ≠ some own.roomIndex) ∧
    (∀ t key request room result, s.threads t = .create key request (.failed room result) →
      (s.sessions key).modeState = .lobby ∧ ∀ own, room = some own →
        (∀ i, s.tables.rooms i ≠ some own) ∧
        ∀ i, s.tables.roomIndexRegistry own.roomKey = some i →
          ∃ other, other ≠ own ∧ s.tables.rooms i = some other ∧ other.roomKey = own.roomKey) := by
  have hs := reachable_assigned h
  have hr := reachable_requesting h
  have hregistered : ∀ key i, s.tables.roomIndexRegistry key = some i →
      ∃ room, s.tables.rooms i = some room ∧ room.roomKey = key ∧ room.roomIndex = i := by
    intro key i hi
    obtain ⟨room, hat, hkey⟩ := hs.coherent.registered key i hi
    exact ⟨room, hat, hkey, (hs.coherent.slot i room hat).1⟩
  refine ⟨?_, hregistered, ?_, ?_, ?_⟩
  · intro key hin
    obtain ⟨i, hi⟩ := hs.coherent.active key hin
    obtain ⟨room, hroom⟩ := hregistered key i hi
    exact ⟨i, room, hi, hroom⟩
  · intro i j room other hat hat' hindex
    rw [(hs.coherent.slot i room hat).1, (hs.coherent.slot j other hat').1] at hindex
    subst hindex
    rw [hat] at hat'
    exact Option.some.inj hat'
  · intro i j room other hat hat' hkey hne
    -- two registered rooms with one key would be at one index
    rcases hs.registered_or hat with hreg | ⟨hloose, t, ht⟩
    · rcases hs.registered_or hat' with hreg' | ⟨hloose, t, ht⟩
      · rw [hkey, hreg'] at hreg
        cases hreg
        rw [hat] at hat'
        exact absurd (Option.some.inj hat') hne
      · exact ⟨other, t, .inr rfl, ht, hloose⟩
    · exact ⟨room, t, .inl rfl, ht, hloose⟩
  · intro t key request room result hthread
    refine ⟨hr.lobby t key (by rw [hthread]; rfl), ?_⟩
    rintro own rfl
    have hgone := (hs.ok hthread).2
    refine ⟨hgone, fun i hi => ?_⟩
    obtain ⟨other, hat, hkey, _⟩ := hregistered _ i hi
    exact ⟨other, fun heq => hgone i (heq ▸ hat), hat, hkey⟩

/-! ## Two creations that draw one key -/

def quietManager : RoomManager where
  tables := ⟨fun _ => none, fun _ => none, [], [], fun _ => .open, 0⟩
  sessions _ := ⟨.active, .lobby, -1, false⟩
  threads _ := .idle

theorem quietManager_initial : Initial quietManager :=
  ⟨fun _ => rfl, fun _ => rfl, rfl, rfl, fun _ => rfl, fun _ => rfl⟩

def roomRequest : CreateRequest := ⟨2, "room", none⟩

/-- Both threads have drawn the key 7 before either has registered it. -/
theorem sameKey_reachable : ∃ s, system.Reachable s ∧
    s.threads 0 = .create ⟨0, 1, 1⟩ roomRequest (.register ⟨0, 7, 0⟩) ∧
    s.threads 1 = .create ⟨1, 2, 1⟩ roomRequest (.register ⟨1, 7, 1⟩) ∧
    s.tables.rooms 0 = some ⟨0, 7, 0⟩ ∧ s.tables.rooms 1 = some ⟨1, 7, 1⟩ ∧
    s.tables.roomIndexRegistry 7 = none := by
  have h₀ : system.Reachable quietManager := .start quietManager_initial
  have h₁ := h₀.next (.begin _ (t := 0) ⟨0, 1, 1⟩ roomRequest rfl rfl)
  have h₂ := h₁.next (.checked _ (t := 0) rfl rfl rfl (by decide))
  have h₃ := h₂.next (.generated _ (t := 0) rfl 7 (by decide) rfl)
  have h₄ := h₃.next (.begin _ (t := 1) ⟨1, 2, 1⟩ roomRequest rfl rfl)
  have h₅ := h₄.next (.checked _ (t := 1) rfl rfl rfl (by decide))
  have h₆ := h₅.next (.generated _ (t := 1) rfl 7 (by decide) rfl)
  have h₇ := h₆.next (.free _ (t := 0) rfl (by decide) rfl)
  have h₈ := h₇.next (.added _ (t := 0) rfl rfl)
  have h₉ := h₈.next (.taken _ (t := 1) rfl (by decide) rfl)
  have h₁₀ := h₉.next (.free _ (t := 1) rfl (by decide) rfl)
  have h₁₁ := h₁₀.next (.added _ (t := 1) rfl rfl)
  exact ⟨_, h₁₁, rfl, rfl, rfl, rfl, rfl⟩

/-- Then there are two rooms in the array that have one key. -/
theorem roomKeys_shared :
    ¬ ∀ s, system.Reachable s → ∀ i j room other, s.tables.rooms i = some room →
    s.tables.rooms j = some other → room.roomKey = other.roomKey → room = other := by
  intro hall
  obtain ⟨s, h, _, _, hat, hat', _⟩ := sameKey_reachable
  have heq := hall s h 0 1 _ _ hat hat' rfl
  cases heq

/-- The second to register fails, and its room leaves no trace. -/
theorem registry_coherent_sameKey : ∃ s, system.Reachable s ∧
    s.threads 1 = .create ⟨1, 2, 1⟩ roomRequest (.failed (some ⟨1, 7, 1⟩) serverError) ∧
    (s.sessions ⟨1, 2, 1⟩).modeState = .lobby ∧ ∀ i, s.tables.rooms i ≠ some ⟨1, 7, 1⟩ := by
  obtain ⟨s, h, hhost, hguest, _, _, hfree⟩ := sameKey_reachable
  have hregistered : ((s.tables.register 7 0).roomIndexRegistry 7).isSome := by
    simp [RoomTables.register, IndexRegistry.register, hfree]
  have h₁ := h.next (.registered _ hhost hfree)
  have h₂ := h₁.next (.notRegistered _ (t := 1) hguest hregistered)
  have h₃ := h₂.next (.unregistered _ (t := 1) rfl)
  have h₄ := h₃.next (.roomRemoved _ (t := 1) rfl)
  have hcoherent := (registry_coherent h₄).2.2.2.2 1 _ _ _ _ rfl
  exact ⟨_, h₄, rfl, hcoherent.1, (hcoherent.2 _ rfl).1⟩

end RoomManager

end ProjectTetris

import ProjectTetris.Rooms.Scenario
import ProjectTetris.Threads.RoomThread

/-!
# Closing a room

Once a room is in `WAITING_DELETE` it takes no more tasks and never waits or plays again;
its deletion is posted once, when nobody and nothing is left in it. The counter of the
queue is what makes this work: together with what has been claimed it covers every task
that is in the queue, so that a counter of 0 under the mutex means an empty queue.
-/

namespace ProjectTetris

open Checked Transition

/-- Rooms on their way out. -/
def RoomState.Closing (state : RoomState) : Prop := state = .waitingDelete ∨ state = .deletePost

instance (state : RoomState) : Decidable state.Closing := by
  unfold RoomState.Closing; infer_instance

namespace TetrisRoom

/-! ## What an event does to the state -/

/-- Nobody is in a room that is closing. -/
def Deserted (r : TetrisRoom) : Prop := r.roomState.Closing → r.currentPlayerCount = 0

/-- What one event can do to `room_state_`: a room that is closing stays as it is. -/
structure StateMove (r r' : TetrisRoom) : Prop where
  stays : r.roomState.Closing → r'.roomState = r.roomState
  notPosted : r'.roomState = .deletePost → r.roomState = .deletePost
  deserted : Deserted r'

theorem stateMove_of_same {r r' : TetrisRoom} (h : Deserted r)
    (hstate : r'.roomState = r.roomState) (hcount : r'.currentPlayerCount = r.currentPlayerCount) :
    StateMove r r' :=
  ⟨fun _ => hstate, fun hposted => hstate.symm.trans hposted,
    fun hc => hcount.trans (h (hstate ▸ hc))⟩

theorem stateMove_of_open {r r' : TetrisRoom} (hopen : ¬ r.roomState.Closing)
    (hopen' : r'.roomState = .wait ∨ r'.roomState = .play) : StateMove r r' := by
  refine ⟨fun h => absurd h hopen, fun h => ?_, fun h => ?_⟩
  · rcases hopen' with hs | hs <;> rw [hs] at h <;> exact absurd h (by decide)
  · rcases hopen' with hs | hs <;> rw [hs] at h <;> exact absurd h (by decide)

theorem stateMove_handled {r r' : TetrisRoom} {env : RoomEnv} (hok : RoomOk r)
    (hempty : Deserted r) (h : Handled env r r') : StateMove r r' := by
  cases h with
  | aside ha | refused _ _ _ _ ha | toggled _ ha =>
      exact stateMove_of_same hempty ha.state ha.count
  | joined _ _ hwait _ _ _ ha =>
      exact stateMove_of_open (by rw [hwait]; decide) (.inl (ha.state.trans hwait))
  | removed i hp hsession hremoved =>
      rename_i p
      -- somebody leaves, so the room was not closing
      have hopen : ¬ r.roomState.Closing := by
        intro hc
        have hactive := (hok.slots p (List.mem_of_getElem? hp)).hasSession.symm.trans hsession
        have hpos : 0 < r.roomPlayers.countP (·.isActive) :=
          List.countP_pos_iff.mpr ⟨p, List.mem_of_getElem? hp, hactive⟩
        have hcount := hok.count
        rw [hempty hc] at hcount
        omega
      have hcount := hremoved.count
      rcases hremoved.state with ⟨_, hstate⟩ | ⟨hone, hstate⟩
      · exact ⟨fun _ => hstate, fun hposted => hstate.symm.trans hposted,
          fun hc => absurd (hstate ▸ hc) hopen⟩
      · refine ⟨fun hc => absurd hc hopen, fun hposted => ?_, fun _ => by omega⟩
        rw [hstate] at hposted
        exact absurd hposted (by decide)
  | started _ hs => exact stateMove_of_open (by rw [hs.wait]; decide) (.inr hs.play)
  | gaveUp _ hplay hrest =>
      exact stateMove_of_open (by rw [hplay]; decide) (.inl (by rw [hrest]; rfl))

theorem stateMove_stepped {r r' : TetrisRoom} {env : RoomEnv} {e : RoomEvent} (hok : RoomOk r)
    (hempty : Deserted r) (h : Stepped env r e r') : StateMove r r' := by
  have hmoved : ∀ {r₁ : TetrisRoom}, StateMove { r with out := [] } r₁ → StateMove r r₁ :=
    fun hm => ⟨hm.stays, hm.notPosted, hm.deserted⟩
  cases h with
  | handled _ hh => exact hmoved (stateMove_handled (roomOk_silent hok) hempty hh)
  | multi qs ss _ hplay _ _ ht =>
      refine stateMove_of_open (by rw [hplay]; decide) ?_
      cases ht with
      | goesOn _ hrun => exact .inr (hrun.state.trans hplay)
      | ends _ _ _ _ _ hend =>
          obtain ⟨out, _, rfl⟩ := hend
          exact .inl rfl
  | single _ hplay ht =>
      refine stateMove_of_open (by rw [hplay]; decide) ?_
      cases ht with
      | idle ha => exact .inr (ha.state.trans hplay)
      | goesOn _ _ hrun => exact .inr (hrun.state.trans hplay)
      | ends _ _ _ hend =>
          obtain ⟨out, _, rfl⟩ := hend
          exact .inl rfl

/-- What a task makes of the room, whether or not it is to be tried again. -/
theorem stepped_task {r r' : TetrisRoom} {env : RoomEnv} {task : RoomTask} {done : Bool}
    (hok : RoomOk r) (hserves : env.Serves r (.task task))
    (htry : { r with out := [] }.tryProcessRoomTask env task = some (r', done)) :
    Stepped env r (.task task) r' := by
  have hstep : r.step env (.task task) = some r' := by
    show (({ r with out := [] } : TetrisRoom).tryProcessRoomTask env task).map (·.1) = some r'
    rw [htry]
    rfl
  exact (step_ok hok hserves).of_eq_some hstep

/-- Writes after which a room that is closing is still closing. -/
def StaysClosed : RoomState → List StateStore → Prop
  | _, [] => True
  | state, w :: stores => (state.Closing → w.state.Closing) ∧ StaysClosed w.state stores

/-- The writes an event leaves to be done: none if the room is closing, and none posts its
deletion. -/
theorem stateStores_spec {r r' : TetrisRoom} (h : StateMove r r') :
    (r.stateStores r').foldl (fun _ w => w.state) r.roomState = r'.roomState ∧
      (r.roomState.Closing → r.stateStores r' = []) ∧
      StaysClosed r.roomState (r.stateStores r') ∧
      (∀ w ∈ r.stateStores r', w.state ≠ .deletePost) ∧
      (∀ w ∈ r.stateStores r', w.state.Closing → w.locked = true) := by
  unfold stateStores
  split
  · rename_i hsame
    exact ⟨hsame.symm, fun _ => rfl, trivial,
      fun _ hw => absurd hw List.not_mem_nil, fun _ hw => absurd hw List.not_mem_nil⟩
  rename_i hne
  have hopen : ¬ r.roomState.Closing := fun hc => hne (h.stays hc)
  split
  · rename_i hdeleting
    split
    · refine ⟨hdeleting.symm, fun hc => absurd hc hopen,
        ⟨fun hc => absurd hc hopen, fun _ => .inl rfl, trivial⟩, fun w hw => ?_, fun w hw hc => ?_⟩
      · rcases List.mem_cons.mp hw with rfl | hw
        · decide
        · rw [List.mem_singleton.mp hw]
          decide
      · rcases List.mem_cons.mp hw with rfl | hw
        · exact absurd hc (by decide)
        · rw [List.mem_singleton.mp hw]
    · have hall : ∀ w ∈ [(⟨.waitingDelete, true⟩ : StateStore), ⟨.waitingDelete, true⟩],
          w = ⟨.waitingDelete, true⟩ :=
        fun w hw => List.eq_of_mem_replicate (n := 2) hw
      refine ⟨hdeleting.symm, fun hc => absurd hc hopen,
        ⟨fun hc => absurd hc hopen, fun _ => .inl rfl, trivial⟩, fun w hw => ?_, fun w hw _ => ?_⟩
      · rw [hall w hw]
        decide
      · rw [hall w hw]
  · rename_i hdeleting
    refine ⟨rfl, fun hc => absurd hc hopen, ⟨fun hc => absurd hc hopen, trivial⟩, fun w hw => ?_,
      fun w hw hc => ?_⟩
    · rw [List.mem_singleton.mp hw]
      exact fun hposted => hne (hposted.trans (h.notPosted hposted).symm)
    · rw [List.mem_singleton.mp hw] at hc
      rcases hc with hc | hc
      · exact absurd hc hdeleting
      · exact absurd (hc.trans (h.notPosted hc).symm) hne

end TetrisRoom

/-! ## The invariant -/

/-- The writes still to be done. -/
def RoomPc.stores : RoomPc → List StateStore
  | .store stores _ => stores
  | _ => []

/-- Where the thread is, the writes left aside. -/
def RoomPc.place : RoomPc → RoomPc
  | .store _ next => next
  | pc => pc

/-- How many tasks are claimed and neither dequeued nor given back. -/
def RoomPc.claimedCount (pc : RoomPc) : Nat :=
  match pc.place with
  | .claimed _ n | .restore _ n => n
  | _ => 0

/-- Between the deferred task and the end of `ProcessRoomTasks`, no task is deferred. -/
def RoomPc.NoneDeferred (pc : RoomPc) : Prop :=
  match pc.place with
  | .claim _ | .claimed _ _ | .tryPost _ | .post _ => True
  | _ => False

/-- A place writes can lead to. -/
structure RoomPc.Plain (pc : RoomPc) : Prop where
  place : pc.place = pc
  stores : pc.stores = []

/-- The deletion is about to be enqueued. -/
def RoomPc.posting : RoomPc → Nat
  | .post _ => 1
  | _ => 0

def Adder.countedTasks : Adder → Nat
  | .counted _ => 1
  | _ => 0

namespace RoomThread

open TetrisRoom

structure Sound (s : RoomThread) : Prop where
  room : RoomOk s.room
  deserted : Deserted s.room
  shared : s.pc.stores.foldl (fun _ w => w.state) s.roomState = s.room.roomState
  closed : StaysClosed s.roomState s.pc.stores
  stores : ∀ w ∈ s.pc.stores, w.state ≠ .deletePost ∧ (w.state.Closing → w.locked = true)
  place : s.pc.place.Plain ∧ s.pc.place.posting = s.pc.posting
  /-- Nobody is in the middle of `AddRoomTask` on a room that is closing. -/
  mutex : s.roomState.Closing → s.adder = .idle
  /-- The counter and the claims cover the queue. -/
  count : s.taskCount + s.pc.claimedCount = s.roomTasks.length + s.adder.countedTasks
  deferred : s.pc.NoneDeferred → s.pendingRoomTask = none
  unposted : s.roomState ≠ .deletePost → s.lifecycleTasks = 0 ∧ s.pc.posting = 0
  posted : s.roomState = .deletePost → s.lifecycleTasks + s.pc.posting = 1 ∧
    s.pendingRoomTask = none ∧
    s.roomTasks = [] ∧ s.pc.stores = []

/-- The thread goes on to another place. -/
theorem Sound.jump {s : RoomThread} {pc : RoomPc} (h : Sound s) (hplain : pc.Plain)
    (hstores : pc.stores = s.pc.stores) (hcount : pc.claimedCount = s.pc.claimedCount)
    (hposting : pc.posting = s.pc.posting)
    (hdeferred : pc.NoneDeferred → s.pendingRoomTask = none) : Sound { s with pc := pc } := by
  refine ⟨h.room, h.deserted, ?_, ?_, ?_, ⟨hplain.place.symm ▸ hplain, by rw [hplain.place]⟩,
    h.mutex, ?_, hdeferred, ?_, ?_⟩
  · exact (congrArg (List.foldl (fun _ w => w.state) s.roomState) hstores).trans h.shared
  · exact hstores ▸ h.closed
  · exact hstores ▸ h.stores
  · exact (congrArg (s.taskCount + ·) hcount).trans h.count
  · exact hposting ▸ h.unposted
  · exact hstores ▸ hposting ▸ h.posted

/-- Something has been processed. -/
theorem Sound.processed {s t : RoomThread} {r' : TetrisRoom} {next : RoomPc} {env : RoomEnv}
    {e : RoomEvent} (h : Sound s) (hsettled : s.pc.stores = []) (hserves : env.Serves s.room e)
    (hstep : Stepped env s.room e r') (hroom : t.room = s.room)
    (hstate : t.roomState = s.roomState) (hadder : t.adder = s.adder)
    (hlifecycle : t.lifecycleTasks = s.lifecycleTasks) (hposting : s.pc.posting = 0)
    (hplain : next.Plain) (hnext : next.posting = 0)
    (hcount : t.taskCount + next.claimedCount = t.roomTasks.length + t.adder.countedTasks)
    (hdeferred : next.NoneDeferred → t.pendingRoomTask = none)
    (hposted : s.roomState = .deletePost → t.pendingRoomTask = none ∧ t.roomTasks = []) :
    Sound (t.processed r' next) := by
  have hshared : s.roomState = s.room.roomState := by
    have := h.shared
    rwa [hsettled] at this
  -- what the event stores in `room_state_`, and in which order
  obtain ⟨hfold, hnone, hclosed, hnot, hlocked⟩ :=
    stateStores_spec (stateMove_stepped h.room h.deserted hstep)
  have hmove := stateMove_stepped h.room h.deserted hstep
  have hstores : (t.processed r' next).pc.stores = s.room.stateStores r' := by
    show t.room.stateStores r' = _
    rw [hroom]
  refine ⟨roomOk_stepped h.room hserves hstep, hmove.deserted, ?_, ?_, ?_, ⟨hplain, hnext⟩, ?_,
    ?_, ?_, ?_, ?_⟩
  · rw [hstores]
    show List.foldl _ t.roomState _ = r'.roomState
    rw [hstate, hshared]
    exact hfold
  · rw [hstores]
    show StaysClosed t.roomState _
    rw [hstate, hshared]
    exact hclosed
  · rw [hstores]
    exact fun w hw => ⟨hnot w hw, hlocked w hw⟩
  · show t.roomState.Closing → t.adder = .idle
    rw [hstate, hadder]
    exact h.mutex
  · refine Eq.trans ?_ hcount
    show t.taskCount + RoomPc.claimedCount (.store _ next) = _
    unfold RoomPc.claimedCount
    rw [hplain.place]
    rfl
  · intro hnone'
    refine hdeferred ?_
    unfold RoomPc.NoneDeferred at hnone' ⊢
    rw [hplain.place]
    exact hnone'
  · intro hne
    exact ⟨hlifecycle.trans (h.unposted (hstate ▸ hne)).1, rfl⟩
  · intro heq
    have heq : s.roomState = .deletePost := hstate.symm.trans heq
    obtain ⟨hone, _⟩ := h.posted heq
    obtain ⟨hpending, htasks⟩ := hposted heq
    refine ⟨?_, hpending, htasks, ?_⟩
    · show t.lifecycleTasks + 0 = 1
      rw [hlifecycle]
      rw [hposting] at hone
      exact hone
    · rw [hstores]
      exact hnone (hshared ▸ .inr heq)

theorem after_place (pass : TaskPass) : pass.after.stores = [] ∧ pass.after.claimedCount = 0 ∧
    pass.after.posting = 0 ∧ ¬ pass.after.NoneDeferred ∧ pass.after.Plain := by
  cases pass <;> exact ⟨rfl, rfl, rfl, id, rfl, rfl⟩

theorem sound_initial {s : RoomThread} (h : Initial s) : Sound s := by
  obtain ⟨r, hr, rfl⟩ := h
  obtain ⟨kind, roomIndex, roomKey, roomName, roomPassword, now, now', key, haside, _⟩ :=
    created_joined hr
  have hwait : r.roomState = .wait := haside.state
  have hopen : ¬ r.roomState.Closing := by rw [hwait]; decide
  refine ⟨roomOk_created hr, fun hc => absurd hc hopen, rfl, trivial,
    fun w hw => absurd hw List.not_mem_nil,
    ⟨⟨rfl, rfl⟩, rfl⟩, fun _ => rfl, rfl, fun _ => rfl, fun _ => ⟨rfl, rfl⟩, fun hc => ?_⟩
  exact absurd (hwait.symm.trans hc) (by decide)

/-- **Every step of every thread keeps the invariant.** -/
theorem sound_next {s s' : RoomThread} (h : Sound s) (hstep : Next s s') : Sound s' := by
  cases hstep with
  | addCheck task hfree hstate =>
      have hopen : ¬ s.roomState.Closing := by
        rcases hstate with hs | hs <;> rw [hs] <;> decide
      have hcount := h.count
      rw [hfree] at hcount
      exact ⟨h.room, h.deserted, h.shared, h.closed, h.stores, h.place,
        fun hc => absurd hc hopen, hcount, h.deferred, h.unposted, h.posted⟩
  | addCount hadder =>
      -- whoever is past the check has the mutex, so the room is not closing
      have hopen : ¬ s.roomState.Closing := by
        intro hc
        rw [h.mutex hc] at hadder
        exact Adder.noConfusion hadder
      have hcount := h.count
      rw [hadder] at hcount
      refine ⟨h.room, h.deserted, h.shared, h.closed, h.stores, h.place,
        fun hc => absurd hc hopen, ?_, h.deferred, h.unposted, h.posted⟩
      show s.taskCount + 1 + s.pc.claimedCount = s.roomTasks.length + 1
      change s.taskCount + s.pc.claimedCount = s.roomTasks.length + 0 at hcount
      omega
  | @addPush task hadder =>
      have hopen : ¬ s.roomState.Closing := by
        intro hc
        rw [h.mutex hc] at hadder
        exact Adder.noConfusion hadder
      have hcount := h.count
      rw [hadder] at hcount
      refine ⟨h.room, h.deserted, h.shared, h.closed, h.stores, h.place,
        fun _ => rfl, ?_, h.deferred, h.unposted, fun hc => absurd (.inr hc) hopen⟩
      show s.taskCount + _ = (s.roomTasks ++ [task]).length + 0
      rw [List.length_append, List.length_singleton]
      exact hcount
  | beginTick hpc =>
      exact h.jump ⟨rfl, rfl⟩ (by rw [hpc]; rfl) (by rw [hpc]; rfl) (by rw [hpc]; rfl) False.elim
  | noneDeferred hpc hnone =>
      exact h.jump ⟨rfl, rfl⟩ (by rw [hpc]; rfl) (by rw [hpc]; rfl) (by rw [hpc]; rfl)
        fun _ => hnone
  | deferredDone hpc hsome env hserves htry =>
      have hcount := h.count
      rw [hpc] at hcount
      refine @Sound.processed s { s with pendingRoomTask := none } _ _ env _ h
        (by rw [hpc]; rfl) hserves
        (stepped_task h.room hserves htry) rfl rfl rfl rfl (by rw [hpc]; rfl) ⟨rfl, rfl⟩ rfl hcount
        (fun _ => rfl) fun hc =>
          ⟨rfl, (h.posted hc).2.2.1⟩
  | @deferredAgain pass _ _ hpc hsome env hserves htry =>
      -- a task that is deferred again stays the one deferred task
      obtain ⟨_, hclaimed, hposting, hnone, hplain⟩ := after_place pass
      have hcount := h.count
      rw [hpc] at hcount
      refine @Sound.processed s s _ _ env _ h (by rw [hpc]; rfl) hserves
        (stepped_task h.room hserves htry) rfl rfl rfl
        rfl (by rw [hpc]; rfl) hplain hposting ?_ (fun hc => absurd hc hnone) fun hc =>
        ⟨(h.posted hc).2.1, (h.posted hc).2.2.1⟩
      rw [hclaimed]
      exact hcount
  | claim hpc =>
      have hcount := h.count
      have hshared := h.shared
      have hunposted := h.unposted
      have hposted := h.posted
      rw [hpc] at hcount hshared hunposted hposted
      refine ⟨h.room, h.deserted, hshared, trivial,
        fun w hw => absurd hw List.not_mem_nil, ⟨⟨rfl, rfl⟩, rfl⟩, h.mutex, ?_,
        fun _ => h.deferred (by rw [hpc]; trivial), hunposted, hposted⟩
      -- the whole count is claimed at once
      show 0 + s.taskCount = _
      rw [Nat.zero_add]
      exact hcount
  | @taskDone pass n task rest _ hpc htask env hserves htry =>
      have hcount := h.count
      rw [hpc, htask, List.length_cons] at hcount
      refine @Sound.processed s { s with roomTasks := rest } _ _ env _ h (by rw [hpc]; rfl) hserves
        (stepped_task h.room hserves htry) rfl rfl rfl rfl (by rw [hpc]; rfl) ⟨rfl, rfl⟩ rfl ?_
        (fun _ => h.deferred (by rw [hpc]; trivial)) fun hc => ?_
      · show s.taskCount + n = rest.length + s.adder.countedTasks
        change s.taskCount + (n + 1) = _ at hcount
        omega
      · have hnil := (h.posted hc).2.2.1
        rw [htask] at hnil
        exact absurd hnil (by simp)
  | @taskDeferred pass n task rest _ hpc htask env hserves htry =>
      have hcount := h.count
      rw [hpc, htask, List.length_cons] at hcount
      refine @Sound.processed s { s with roomTasks := rest, pendingRoomTask := some task } _ _ env
        _ h
        (by rw [hpc]; rfl) hserves (stepped_task h.room hserves htry) rfl rfl rfl rfl
        (by rw [hpc]; rfl) ⟨rfl, rfl⟩ rfl ?_ False.elim fun hc => ?_
      · show s.taskCount + n = rest.length + s.adder.countedTasks
        change s.taskCount + (n + 1) = _ at hcount
        omega
      · have hnil := (h.posted hc).2.2.1
        rw [htask] at hnil
        exact absurd hnil (by simp)
  | @restore pass n hpc =>
      obtain ⟨hstores, hclaimed, hposting, hnone, hplain⟩ := after_place pass
      have hcount := h.count
      have hshared := h.shared
      have hunposted := h.unposted
      have hposted := h.posted
      rw [hpc] at hcount hshared hunposted hposted
      refine ⟨h.room, h.deserted, ?_, ?_, ?_, ⟨hplain.place.symm ▸ hplain, by rw [hplain.place]⟩,
        h.mutex, ?_, fun hc => absurd hc hnone, ?_, ?_⟩
      · rw [hstores]; exact hshared
      · rw [hstores]; trivial
      · rw [hstores]; exact fun w hw => absurd hw List.not_mem_nil
      · show s.taskCount + n + _ = _
        rw [hclaimed]
        exact hcount
      · rw [hposting]; exact hunposted
      · rw [hposting, hstores]; exact hposted
  | claimsDone hpc =>
      exact h.jump ⟨rfl, rfl⟩ (by rw [hpc]; rfl) (by rw [hpc]; rfl) (by rw [hpc]; rfl) fun _ =>
        h.deferred (by rw [hpc]; trivial)
  | @notPosted pass hpc hfree hnot =>
      obtain ⟨hstores, hclaimed, hposting, hnone, hplain⟩ := after_place pass
      exact h.jump hplain (by rw [hpc, hstores]; rfl) (by rw [hpc, hclaimed]; rfl)
        (by rw [hpc, hposting]; rfl) fun hc => absurd hc hnone
  | @posted pass hpc hfree hstate hzero =>
      have hcount := h.count
      have hshared := h.shared
      rw [hpc, hfree, hzero] at hcount
      rw [hpc] at hshared
      have hshared : s.roomState = s.room.roomState := hshared
      -- nothing is counted or being added, so nothing is queued
      have hempty : s.roomTasks = [] := List.eq_nil_of_length_eq_zero (by
        change 0 + 0 = s.roomTasks.length + 0 at hcount
        omega)
      obtain ⟨hnone, _⟩ := h.unposted (by rw [hstate]; decide)
      have hpending := h.deferred (by rw [hpc]; trivial)
      have hroom : s.room.storeRoomState .deletePost = (s.room.tryPostRoomDelete 0).1 := by
        unfold tryPostRoomDelete
        rw [if_neg (by rw [← hshared, hstate]; decide)]
      refine ⟨hroom ▸ roomOk_post h.room 0,
        fun _ => ?_, rfl, trivial, fun w hw => absurd hw List.not_mem_nil,
        ⟨⟨rfl, rfl⟩, rfl⟩, fun _ => hfree, ?_,
        fun _ => hpending, fun hc => absurd rfl hc, fun _ => ⟨?_, hpending, hempty, rfl⟩⟩
      · exact h.deserted (hshared ▸ .inl hstate)
      · show s.taskCount + 0 = s.roomTasks.length + s.adder.countedTasks
        rw [hzero, hempty, hfree]
        rfl
      · show s.lifecycleTasks + 1 = 1
        rw [hnone]
  | @post pass hpc =>
      obtain ⟨hstores, hclaimed, hposting, hnone, hplain⟩ := after_place pass
      have hcount := h.count
      have hshared := h.shared
      have hunposted := h.unposted
      have hposted := h.posted
      rw [hpc] at hcount hshared hunposted hposted
      refine ⟨h.room, h.deserted, ?_, ?_, ?_, ⟨hplain.place.symm ▸ hplain, by rw [hplain.place]⟩,
        h.mutex, ?_, fun hc => absurd hc hnone, ?_, ?_⟩
      · rw [hstores]; exact hshared
      · rw [hstores]; trivial
      · rw [hstores]; exact fun w hw => absurd hw List.not_mem_nil
      · rw [hclaimed]; exact hcount
      · exact fun hne => absurd (hunposted hne).2 (by simp [RoomPc.posting])
      · intro heq
        obtain ⟨hone, hrest⟩ := hposted heq
        rw [hposting, hstores]
        exact ⟨hone, hrest⟩
  | sessionTask hpc _ env hserves hroom =>
      have hcount := h.count
      rw [hpc] at hcount
      exact @Sound.processed s s _ _ env _ h (by rw [hpc]; rfl) hserves
        ((step_ok h.room hserves).of_eq_some hroom) rfl rfl rfl rfl (by rw [hpc]; rfl) ⟨rfl, rfl⟩
        rfl hcount False.elim fun hc =>
          ⟨(h.posted hc).2.1, (h.posted hc).2.2.1⟩
  | sessionsDone hpc =>
      exact h.jump ⟨rfl, rfl⟩ (by rw [hpc]; rfl) (by rw [hpc]; rfl) (by rw [hpc]; rfl) False.elim
  | gameTick hpc env t hserves hroom =>
      have hcount := h.count
      rw [hpc] at hcount
      exact @Sound.processed s s _ _ env _ h (by rw [hpc]; rfl) hserves
        ((step_ok h.room hserves).of_eq_some hroom) rfl rfl rfl rfl (by rw [hpc]; rfl) ⟨rfl, rfl⟩
        rfl hcount False.elim fun hc =>
          ⟨(h.posted hc).2.1, (h.posted hc).2.2.1⟩
  | @store w stores next hpc hlock =>
      have hcount := h.count
      have hshared := h.shared
      have hclosed := h.closed
      have hstores := h.stores
      have hdeferred := h.deferred
      have hposted := h.posted
      have hplace := h.place
      rw [hpc] at hcount hshared hclosed hstores hdeferred hposted hplace
      -- a store comes before the deletion is posted, never after
      have hopen : s.roomState ≠ .deletePost :=
        fun hc => absurd (hposted hc).2.2.2 (by simp [RoomPc.stores])
      have hw := hstores w List.mem_cons_self
      refine ⟨h.room, h.deserted, hshared, hclosed.2,
        fun x hx => hstores x (List.mem_cons_of_mem _ hx),
        hplace, fun hc => hlock (hw.2 hc), hcount, hdeferred,
        fun _ => ⟨(h.unposted hopen).1, rfl⟩, fun hc => absurd hc hw.1⟩
  | @stored next hpc =>
      have hplain := h.place.1
      have hcount := h.count
      have hshared := h.shared
      have hdeferred := h.deferred
      have hunposted := h.unposted
      have hposted := h.posted
      have hposting := h.place.2
      rw [hpc] at hplain hcount hshared hdeferred hunposted hposted hposting
      have hplain : next.Plain := hplain
      have hposting : next.posting = 0 := hposting
      refine ⟨h.room, h.deserted, ?_, ?_, ?_, ⟨hplain.place.symm ▸ hplain, by rw [hplain.place]⟩,
        h.mutex, ?_, ?_, ?_, ?_⟩
      · rw [hplain.stores]; exact hshared
      · rw [hplain.stores]; trivial
      · rw [hplain.stores]; exact fun w hw => absurd hw List.not_mem_nil
      · refine Eq.trans ?_ hcount
        show s.taskCount + RoomPc.claimedCount next =
          s.taskCount + RoomPc.claimedCount (.store [] next)
        rw [RoomPc.claimedCount, RoomPc.claimedCount, hplain.place]
        rfl
      · intro hc
        refine hdeferred ?_
        unfold RoomPc.NoneDeferred at hc ⊢
        rw [hplain.place] at hc
        exact hc
      · rw [hposting]; exact hunposted
      · rw [hposting, hplain.stores]; exact hposted

theorem sound_reachable {s : RoomThread} (h : system.Reachable s) : Sound s :=
  invariant (fun _ => sound_initial) (fun _ _ => sound_next) h

/-- A room that is closing goes on closing, and takes no task. -/
theorem closing_next {s s' : RoomThread} (h : Sound s) (hclosing : s.roomState.Closing)
    (hstep : Next s s') :
    s'.roomState.Closing ∧ s'.accepted = s.accepted := by
  cases hstep with
  | addPush hadder =>
      rw [h.mutex hclosing] at hadder
      exact Adder.noConfusion hadder
  | store hpc _ =>
      have hclosed := h.closed
      rw [hpc] at hclosed
      exact ⟨hclosed.1 hclosing, rfl⟩
  | posted => exact ⟨.inr rfl, rfl⟩
  | _ => exact ⟨hclosing, rfl⟩

/--
**Closing a room strands nothing.** In every interleaving of its thread with `AddRoomTask`
calls, a room enqueues one deletion at most; when the deletion is posted nobody sits in the
room, no task is deferred and none is queued; and from `WAITING_DELETE` on no task is
accepted and the room is never in another state than these two.
-/
theorem shutdown_strands_nothing {s : RoomThread} (h : system.Reachable s) :
    s.lifecycleTasks ≤ 1 ∧ (0 < s.lifecycleTasks → s.roomState = .deletePost) ∧
    (s.roomState = .deletePost → (∀ p ∈ s.room.roomPlayers, p.hasSession = false) ∧
      s.pendingRoomTask = none ∧ s.roomTasks = [] ∧ s.taskCount = 0 ∧ s.adder = .idle) ∧
    ∀ s', system.Run s s' → s.roomState.Closing → s'.accepted = s.accepted ∧
    s'.roomState.Closing := by
  have hsound := sound_reachable h
  refine ⟨?_, fun hpos => ?_, fun hposted => ?_, fun s' hrun hclosing => ?_⟩
  · by_cases hposted : s.roomState = .deletePost
    · have hone := (hsound.posted hposted).1
      omega
    · have hzero := (hsound.unposted hposted).1
      omega
  · by_cases hposted : s.roomState = .deletePost
    · exact hposted
    · have hzero := (hsound.unposted hposted).1
      omega
  · obtain ⟨_, hpending, htasks, hstores⟩ := hsound.posted hposted
    have hshared := hsound.shared
    rw [hstores] at hshared
    have hadder := hsound.mutex (.inr hposted)
    have hcount := hsound.count
    rw [htasks, hadder] at hcount
    have hempty : s.room.currentPlayerCount = 0 :=
      hsound.deserted (.inr (hshared.symm.trans hposted))
    refine ⟨fun p hp => ?_, hpending, htasks, ?_, hadder⟩
    · rw [(hsound.room.slots p hp).hasSession]
      refine Bool.eq_false_iff.mpr fun ha => ?_
      have hpos : 0 < s.room.roomPlayers.countP (·.isActive) := List.countP_pos_iff.mpr ⟨p, hp, ha⟩
      rw [hsound.room.count] at hempty
      omega
    · change s.taskCount + s.pc.claimedCount = 0 + 0 at hcount
      omega
  · exact (stable (fun t t' ht hc hstep => closing_next (sound_reachable ht) hc hstep)
      h hclosing hrun).symm

/-- The host leaves his room, which is posted for deletion in the same tick. -/
theorem shutdown_hostLeft :
    ∃ s, system.Reachable s ∧ s.roomState = .deletePost ∧ s.lifecycleTasks = 1 ∧
    (∀ p ∈ s.room.roomPlayers, p.hasSession = false) ∧ s.roomTasks = [] := by
  let r₀ := scenarioRoom .two [hostKey] hostKey
  have hleave : (r₀.step (scenarioEnv [hostKey] .room 0) (.leavePacket hostKey)).any
      (fun r => decide (r.roomState = .waitingDelete)) = true := by decide +kernel
  obtain ⟨r₁, hstep, hstate⟩ := (Option.any_eq_true _ _).mp hleave
  have hstate : r₁.roomState = .waitingDelete := of_decide_eq_true hstate
  have hserves : ∀ e, (scenarioEnv [hostKey] .room 0).Serves r₀ e := fun _ =>
    scenarioEnv_serves .room 0 (by decide) (by decide +kernel)
  have hstores : r₀.stateStores r₁ = [⟨.waitingDelete, true⟩, ⟨.waitingDelete, true⟩] := by
    unfold stateStores
    rw [hstate, if_neg (by decide), if_pos rfl, if_neg (by decide)]
  have hidle : system.Reachable ⟨r₀, r₀.roomState, [], 0, none, .idle, .idle, 0, []⟩ :=
    .start ⟨r₀, scenarioRoom_created .two (by decide), rfl⟩
  -- the first pass over the tasks, the packet, the second pass, and the posting
  have hsession :=
    ((((hidle.next (.beginTick _ rfl)).next (.noneDeferred _ rfl rfl)).next (.claim _ rfl)).next
    (.claimsDone _ rfl)).next (.notPosted _ rfl rfl (.inl (by decide)))
  have hleft := hsession.next (.sessionTask _ rfl (.inl ⟨hostKey, rfl⟩) _ (hserves _) hstep)
  rw [processed, hstores] at hleft
  have hsecond := (((hleft.next (.store _ rfl fun _ => rfl)).next (.store _ rfl fun _ => rfl)).next
    (.stored _ rfl)).next (.sessionsDone _ rfl)
  have hposted :=
    ((((hsecond.next (.noneDeferred _ rfl rfl)).next (.claim _ rfl)).next (.claimsDone _ rfl)).next
    (.posted _ rfl rfl rfl rfl)).next (.post _ rfl)
  obtain ⟨_, _, hgone, _⟩ := shutdown_strands_nothing hposted
  obtain ⟨hnobody, _, htasks, _⟩ := hgone rfl
  exact ⟨_, hposted, rfl, rfl, hnobody, htasks⟩

end RoomThread

end ProjectTetris

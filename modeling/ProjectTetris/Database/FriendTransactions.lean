import ProjectTetris.Database.GameDBThread

/-!
# Friend transactions

Each of the three tasks either does all it is meant to do or leaves the tables as they are,
wherever it breaks off, and it hands the connection back the way it found it. So the tables
are sound between any two tasks, however often a task has been tried before.
-/

namespace ProjectTetris

open Transaction Transaction.Attempt Transaction.Context Transition

namespace FriendDatabase

/-- Friendship is mutual, and nobody is his own friend. -/
def Sound (db : FriendDatabase) : Prop := db.friends.Mutual

/-- The two are friends, and the request is gone. -/
def befriended (db : FriendDatabase) (acceptorId requesterId : Int) : FriendDatabase :=
  { db with
    friends := db.friends ++ [(acceptorId, requesterId), (requesterId, acceptorId)]
    friendRequests := db.friendRequests.filter (· ≠ (requesterId, acceptorId)) }

/-- The request is there and the friendship is not. -/
structure Requested (db : FriendDatabase) (acceptorId requesterId : Int) : Prop where
  distinct : acceptorId ≠ requesterId
  new : (acceptorId, requesterId) ∉ db.friends ∧ (requesterId, acceptorId) ∉ db.friends
  request : (requesterId, acceptorId) ∈ db.friendRequests

variable {db : FriendDatabase} {acceptorId requesterId : Int}

theorem Sound.befriended (h : db.Sound) (hab : acceptorId ≠ requesterId) :
    (db.befriended acceptorId requesterId).Sound := FriendTable.Mutual.add h hab

/-- Two affected rows: the friendship is new, and has been inserted. -/
theorem addFriend_affected (h : 2 ≤ (addFriend acceptorId requesterId db).2) :
    acceptorId ≠ requesterId ∧ (acceptorId, requesterId) ∉ db.friends ∧
      (requesterId, acceptorId) ∉ db.friends ∧
      (addFriend acceptorId requesterId db).1 =
        { db with friends := db.friends ++ [(acceptorId, requesterId),
          (requesterId, acceptorId)] } := by
  obtain ⟨hab, hnew, hnew'⟩ := FriendTable.new_of_affected h
  refine ⟨hab, hnew, hnew', ?_⟩
  unfold addFriend
  rw [FriendTable.addRows_eq hab hnew hnew']

/-- An affected row: there was a request. -/
theorem deleteFriendRequest_affected {fromId toId : Int}
    (h : 0 < (deleteFriendRequest fromId toId db).2) :
    (fromId, toId) ∈ db.friendRequests := by
  refine Decidable.byContradiction fun hno => ?_
  have hsame : db.friendRequests.filter (· ≠ (fromId, toId)) = db.friendRequests := by
    refine List.filter_eq_self.mpr fun row hrow => ?_
    refine decide_eq_true fun heq => ?_
    subst heq
    exact hno hrow
  unfold deleteFriendRequest at h
  dsimp only at h
  rw [hsame, Nat.sub_self] at h
  exact Nat.lt_irrefl 0 h

end FriendDatabase

open FriendDatabase

/-! ## The statements of a task -/

section Tasks

variable {auto : Bool} {db w : FriendDatabase}

/-- What a statement leaves that may not have been prepared. -/
def Updated (db w : FriendDatabase) (statement : FriendDatabase → FriendDatabase × Nat) :
    Option Nat → DBContext → Prop
  | some affected, s => affected = (statement w).2 ∧ At Sound false db (statement w).1 s
  | none, s => At Sound false db w s

theorem triple_prepareAndUpdate (operationType : DBOperationType)
    (statement : FriendDatabase → FriendDatabase × Nat) :
    Triple (At Sound false db w) (prepareAndUpdate operationType statement)
      (Updated db w statement) (At Sound false db w) := by
  refine triple_bind (triple_getStatement operationType) fun prepared => ?_
  cases prepared with
  | false => exact triple_pure fun _ hs => hs
  | true =>
      exact triple_bind triple_call fun _ => triple_bind (triple_executeUpdate statement) fun _ =>
        triple_pure fun _ hs => hs

theorem triple_prepareAndFetchNickname (playerId : Int) :
    Triple (At Sound auto db w) (prepareAndFetchNickname playerId) (fun _ => At Sound auto db w)
      (At Sound auto db w) := by
  refine triple_bind (triple_getStatement _) fun prepared => ?_
  cases prepared with
  | false => exact triple_pure fun _ hs => hs
  | true => exact triple_bind triple_call fun _ => triple_fetchFirst _

/-! ## Adding a friend -/

/-- What `ExecuteAddFriend` reports, and what it has stored by then. -/
def Added (acceptorInfo : FriendInfo) (requesterId : Int) (db : FriendDatabase) (result : DBResult)
    (w : FriendDatabase) : Prop :=
  db.Requested acceptorInfo.playerId requesterId ∧
    w = db.befriended acceptorInfo.playerId requesterId ∧
    ∃ nickname, result = .addFriend ⟨requesterId, nickname⟩ acceptorInfo

/-- Inside the transaction: a throw finds nothing stored, and neither does a jump to the end. -/
theorem triple_addFriendBody (hdb : db.Sound) (acceptorInfo : FriendInfo) (requesterId : Int) :
    Triple (At Sound false db db) (addFriendBody acceptorInfo requesterId)
      (BodyDone Sound db (Added acceptorInfo requesterId db))
      (fun s => ∃ w, At Sound false db w s) := by
  refine triple_bind (triple_mono (triple_prepareAndUpdate _ _) (fun _ hs => hs) (fun _ _ hs => hs)
    fun s hs => ⟨db, hs⟩) fun afAffected => ?_
  cases afAffected with
  | none => exact triple_pure fun s hs => ⟨db, hs⟩
  | some afAffected =>
  refine triple_fact fun haf => ?_
  by_cases htwo : afAffected ≥ 2
  · dsimp only
    rw [if_pos htwo]
    obtain ⟨hab, hnew, hnew', hrows⟩ := addFriend_affected (haf ▸ htwo)
    rw [hrows]
    refine triple_bind (triple_mono (triple_prepareAndUpdate _ _) (fun _ hs => hs)
      (fun _ _ hs => hs) fun s hs => ⟨_, hs⟩) fun dfrAffected => ?_
    cases dfrAffected with
    | none => exact triple_pure fun s hs => ⟨_, hs⟩
    | some dfrAffected =>
    refine triple_fact fun hdfr => ?_
    by_cases hone : dfrAffected > 0
    · dsimp only
      rw [if_pos hone]
      have hrequest := deleteFriendRequest_affected (hdfr ▸ hone)
      refine triple_bind (triple_mono (triple_prepareAndFetchNickname _) (fun _ hs => hs)
        (fun _ _ hs => hs) fun s hs => ⟨_, hs⟩) fun nickname => ?_
      cases nickname with
      | none => exact triple_pure fun s hs => ⟨_, hs⟩
      | some nickname =>
          have hsound : (db.befriended acceptorInfo.playerId requesterId).Sound :=
            hdb.befriended hab
          refine triple_bind
            (triple_mono (triple_commit hsound) (fun _ hs => hs) (fun _ _ hs => hs)
            fun s hs => ⟨_, hs⟩) fun _ => triple_pure fun s hs => ?_
          exact ⟨_, _, hs, hsound, ⟨hab, ⟨hnew, hnew'⟩, hrequest⟩, rfl, nickname, rfl⟩
    · dsimp only
      rw [if_neg hone]
      exact triple_pure fun s hs => ⟨_, hs⟩
  · dsimp only
    rw [if_neg htwo]
    exact triple_pure fun s hs => ⟨_, hs⟩

/-- **`ExecuteAddFriend`**: all of it, or nothing. -/
theorem triple_executeAddFriend (hdb : db.Sound) (acceptorInfo : FriendInfo) (requesterId : Int) :
    Triple (At Sound true db db) (executeAddFriend acceptorInfo requesterId)
      (fun result s => (∃ w, At Sound true w w s ∧ Added acceptorInfo requesterId db result w) ∨
        (At Sound true db db s ∧ result = .failure .addFriend))
      (At Sound true db db) := by
  refine triple_bind (triple_transaction (triple_addFriendBody hdb acceptorInfo requesterId))
    fun result => ?_
  cases result with
  | none => exact triple_pure fun s hs => .inr ⟨hs, rfl⟩
  | some result => exact triple_pure fun s hs => .inl hs

/-! ## Asking, and deleting -/

theorem triple_addFriendRequestBody (hdb : db.Sound) (requesterInfo : FriendInfo)
    (receiverId : Int) :
    Triple (At Sound false db db) (addFriendRequestBody requesterInfo receiverId)
      (BodyDone Sound db fun _ w => w.friends = db.friends)
      (fun s => ∃ w, At Sound false db w s) := by
  refine triple_bind (triple_mono (triple_prepareAndUpdate _ _) (fun _ hs => hs) (fun _ _ hs => hs)
    fun s hs => ⟨db, hs⟩) fun afrAffected => ?_
  cases afrAffected with
  | none => exact triple_pure fun s hs => ⟨db, hs⟩
  | some afrAffected =>
  refine triple_fact fun hafr => ?_
  subst hafr
  refine triple_bind (triple_mono (triple_prepareAndFetchNickname _) (fun _ hs => hs)
    (fun _ _ hs => hs) fun s hs => ⟨_, hs⟩) fun nickname => ?_
  cases nickname with
  | none => exact triple_pure fun s hs => ⟨_, hs⟩
  | some nickname =>
      -- the row is stored when autocommit is switched on again
      exact triple_pure fun s hs => ⟨_, _, hs, hdb, rfl⟩

theorem triple_executeAddFriendRequest (hdb : db.Sound) (requesterInfo : FriendInfo)
    (receiverId : Int) :
    Triple (At Sound true db db) (executeAddFriendRequest requesterInfo receiverId)
      (fun _ s => ∃ w, At Sound true w w s) (At Sound true db db) := by
  refine triple_bind (triple_transaction
    (triple_addFriendRequestBody hdb requesterInfo receiverId)) fun result => ?_
  cases result with
  | none => exact triple_pure fun s hs => ⟨db, hs⟩
  | some result =>
      refine triple_pure fun s hs => ?_
      obtain ⟨w, hs, _⟩ := hs
      exact ⟨w, hs⟩

theorem triple_executeDeleteFriend (hdb : db.Sound) (sessionKey : SessionKey) (targetId : Int) :
    Triple (At Sound true db db) (executeDeleteFriend sessionKey targetId)
      (fun _ s => ∃ w, At Sound true w w s) (At Sound true db db) := by
  have hsound : Sound (FriendDatabase.deleteFriend sessionKey.playerId targetId db).1 :=
    FriendTable.Mutual.deleteRows hdb
  have hstatement : Triple (At Sound true db db)
      (prepareAndUpdate .deleteFriend (FriendDatabase.deleteFriend sessionKey.playerId targetId))
      (fun _ s => ∃ w, At Sound true w w s) (At Sound true db db) := by
    refine triple_bind (triple_getStatement _) fun prepared => ?_
    cases prepared with
    | false => exact triple_pure fun s hs => ⟨db, hs⟩
    | true =>
        refine triple_bind triple_call fun _ =>
          triple_bind (triple_executeUpdate_auto _ hsound) fun _ => ?_
        exact triple_pure fun s hs => ⟨_, hs.2⟩
  refine triple_bind hstatement fun affected => ?_
  cases affected with
  | none => exact triple_pure fun s hs => hs
  | some affected =>
      dsimp only
      split
      · exact triple_pure fun s hs => hs
      · exact triple_pure fun s hs => hs

/-- Whatever the task, and whether it comes back or throws. -/
theorem triple_execute (hdb : db.Sound) (task : FriendTask) :
    Triple (At Sound true db db) task.execute (fun _ s => ∃ w, At Sound true w w s)
      (fun s => ∃ w, At Sound true w w s) := by
  have hthrown : ∀ s : DBContext, At Sound true db db s → ∃ w, At Sound true w w s :=
    fun s hs => ⟨db, hs⟩
  cases task with
  | addFriend _ acceptorInfo requesterId =>
      refine triple_mono (triple_executeAddFriend hdb acceptorInfo requesterId) (fun _ hs => hs)
        (fun _ s hs => ?_) hthrown
      rcases hs with ⟨w, hs, _⟩ | ⟨hs, _⟩
      · exact ⟨w, hs⟩
      · exact ⟨db, hs⟩
  | deleteFriend sessionKey targetId =>
      exact triple_mono (triple_executeDeleteFriend hdb sessionKey targetId) (fun _ hs => hs)
        (fun _ _ hs => hs) hthrown
  | addFriendRequest _ requesterInfo receiverId =>
      exact triple_mono (triple_executeAddFriendRequest hdb requesterInfo receiverId)
        (fun _ hs => hs) (fun _ _ hs => hs) hthrown

end Tasks

/-! ## Runs of the thread -/

/-- Between two tasks: nothing is open, and all that was ever stored is sound. -/
def AtRest (s : DBContext) : Prop := ∃ db, At Sound true db db s

theorem atRest_reachable {db : FriendDatabase} (hdb : db.Sound) {s : GameDBThread}
    (h : (friendSystem db).Reachable s) : AtRest s.context := by
  refine invariant (S := friendSystem db) (I := fun s => AtRest s.context) ?_ ?_ h
  · intro s hs
    cases hs
    exact ⟨db, rfl, rfl, rfl, hdb, fun x hx => absurd hx List.not_mem_nil⟩
  · intro s s' hs hnext
    obtain ⟨a, _, hstep⟩ := hnext
    cases a with
    | enqueue task =>
        cases hstep
        show AtRest
          (if s.isRunning then { s with taskQueue := s.taskQueue ++ [task] } else s).context
        split
        · exact hs
        · exact hs
    | close =>
        cases hstep
        exact hs
    | run outcomes =>
        unfold GameDBAction.step at hstep
        dsimp only at hstep
        cases hqueue : s.taskQueue with
        | nil =>
            rw [hqueue] at hstep
            cases hstep
        | cons task rest =>
            rw [hqueue] at hstep
            obtain ⟨w, hat⟩ := hs
            have hend := triple_execute hat.kept.1 task { s.context with outcomes := outcomes }
              ⟨hat.auto, hat.stored, hat.working, hat.kept⟩
            dsimp only at hstep
            generalize task.execute { s.context with outcomes := outcomes } = result at hstep hend
            match result, hend with
            | (.ok _, context), hend =>
                cases hstep
                exact hend
            | (.error _, context), hend =>
                cases hstep
                exact hend

/-- What a call of `ExecuteAddFriend` on these tables may end with. -/
inductive AddFriendEnd (acceptorInfo : FriendInfo) (requesterId : Int) (db : FriendDatabase) :
    Except Unit DBResult × DBContext → Prop
  /-- Both rows and the success. -/
  | added (context : DBContext) (nickname : String)
      (hrequested : db.Requested acceptorInfo.playerId requesterId)
      (hstored : context.stored = db.befriended acceptorInfo.playerId requesterId)
      (hauto : context.autoCommit = true) :
      AddFriendEnd acceptorInfo requesterId db
        (.ok (.addFriend ⟨requesterId, nickname⟩ acceptorInfo), context)
  /-- Neither. -/
  | unchanged (context : DBContext) (result : Except Unit DBResult)
      (hfailed : ∀ r, result = .ok r → r.isSuccess = false)
      (hstored : context.stored = db) (hauto : context.autoCommit = true) :
      AddFriendEnd acceptorInfo requesterId db (result, context)

/-- Two players, one of whom has asked the other. -/
def oneRequest : FriendDatabase := ⟨[], [(1, 2)], [(1, "first"), (2, "second")]⟩

/-- The commit throws; the task is tried again, and its next try is the one that counts. -/
def acceptedTwice : List GameDBAction :=
  [.enqueue (.addFriend ⟨0, 2, 1⟩ ⟨2, "second"⟩ 1),
    .run (List.replicate 12 .returns ++ [.throws]), .run []]

end ProjectTetris

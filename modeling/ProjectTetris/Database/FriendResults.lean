import Mathlib.Data.List.Perm.Subperm
import ProjectTetris.Database.FriendTransactions

/-!
# What the friend tasks report

A success is reported of every change of the table of friends, and of nothing else: of a
friendship that was not there and is, or was there and is not.
-/

namespace ProjectTetris

open Transaction Transaction.Attempt Transaction.Context

/-- The one player and the other. -/
def SamePair (a b x y : Int) : Prop := (x = a ∧ y = b) ∨ (x = b ∧ y = a)

instance (a b x y : Int) : Decidable (SamePair a b x y) := inferInstanceAs (Decidable (_ ∨ _))

namespace FriendTable

variable {friends : FriendTable} {a b x y : Int}

theorem mem_of_samePair (h : Mutual friends) (hsame : SamePair a b x y) :
    (x, y) ∈ friends ↔ (a, b) ∈ friends := by
  obtain ⟨rfl, rfl⟩ | ⟨rfl, rfl⟩ := hsame
  · exact Iff.rfl
  · exact ⟨h.symm _ _, h.symm _ _⟩

theorem row_eq_iff : ((a, b) = (x, y) ∨ (a, b) = (y, x)) ↔ SamePair a b x y := by
  rw [Prod.mk.injEq, Prod.mk.injEq, SamePair]
  constructor
  · rintro (⟨rfl, rfl⟩ | ⟨rfl, rfl⟩)
    · exact .inl ⟨rfl, rfl⟩
    · exact .inr ⟨rfl, rfl⟩
  · rintro (⟨rfl, rfl⟩ | ⟨rfl, rfl⟩)
    · exact .inl ⟨rfl, rfl⟩
    · exact .inr ⟨rfl, rfl⟩

/-- Friends are two rows, so that two rows are affected. -/
theorem two_le_deleted (h : Mutual friends) (hmem : (x, y) ∈ friends) :
    2 ≤ friends.length - (friends.deleteRows x y).length := by
  have hne : x ≠ y := by
    intro heq
    rw [heq] at hmem
    exact h.irrefl y hmem
  have hnodup : [(x, y), (y, x)].Nodup := by simp [hne]
  have hsubset : [(x, y), (y, x)] ⊆ friends.filter fun row => row = (x, y) ∨ row = (y, x) := by
    intro row hrow
    rw [List.mem_filter]
    rcases List.mem_pair.mp hrow with rfl | rfl
    · exact ⟨hmem, by simp⟩
    · exact ⟨h.symm _ _ hmem, by simp⟩
  have htwo := (hnodup.subperm hsubset).length_le
  have hsplit :=
    List.length_eq_length_filter_add (l := friends) fun row => decide (row = (x, y) ∨ row = (y, x))
  have hrest : (friends.filter fun row => !decide (row = (x, y) ∨ row = (y, x))) =
      friends.deleteRows x y := by
    unfold deleteRows
    congr 1
    funext row
    simp
  rw [hrest] at hsplit
  rw [List.length_cons, List.length_cons, List.length_nil] at htwo
  omega

/-- Where there is nothing to delete, nothing is affected. -/
theorem deleteRows_of_notMem (h : Mutual friends) (hmem : (x, y) ∉ friends) :
    friends.deleteRows x y = friends := by
  unfold deleteRows
  refine List.filter_eq_self.mpr fun row hrow => decide_eq_true ⟨?_, ?_⟩
  · intro heq
    exact hmem (heq ▸ hrow)
  · intro heq
    exact hmem (h.symm _ _ (heq ▸ hrow))

end FriendTable

namespace DBResult

/-- What a result reports of two players: a new friendship, or one that is over. -/
def change (a b : Int) : DBResult → Option Bool
  | addFriend requesterInfo acceptorInfo =>
      if SamePair a b requesterInfo.playerId acceptorInfo.playerId then some true else none
  | deleteFriend requesterId targetId =>
      if SamePair a b requesterId targetId then some false else none
  | failure _ | addFriendRequest .. => none

end DBResult

/-- A change of the friendship of these two. -/
def FriendTask.Concerns (a b : Int) : FriendTask → Prop
  | addFriend _ acceptorInfo requesterId => SamePair a b requesterId acceptorInfo.playerId
  | deleteFriend sessionKey targetId => SamePair a b sessionKey.playerId targetId
  | addFriendRequest .. => False

instance (a b : Int) : DecidablePred (FriendTask.Concerns a b)
  | .addFriend .. | .deleteFriend .. => inferInstanceAs (Decidable (SamePair ..))
  | .addFriendRequest .. => inferInstanceAs (Decidable False)

/-- The tables before and after a task that has come back with the result. -/
def Reported (task : FriendTask) (db w : FriendDatabase) (result : DBResult) : Prop :=
  ∀ a b, (result.change a b).elim ((a, b) ∈ w.friends ↔ (a, b) ∈ db.friends) fun added =>
    task.Concerns a b ∧ ((a, b) ∈ db.friends ↔ added = false) ∧ ((a, b) ∈ w.friends ↔ added = true)

section Tasks

open FriendDatabase

variable {task : FriendTask} {db w : FriendDatabase}

theorem reported_of_eq {result : DBResult} (hresult : ∀ a b, result.change a b = none)
    (hw : w.friends = db.friends) :
    Reported task db w result := by
  intro a b
  rw [hresult, hw]
  exact Iff.rfl

theorem reported_addFriend (hdb : db.Sound) (sessionKey : SessionKey)
    {requesterInfo acceptorInfo : FriendInfo}
    (hrequested : db.Requested acceptorInfo.playerId requesterInfo.playerId) :
    Reported (.addFriend sessionKey acceptorInfo requesterInfo.playerId) db
      (db.befriended acceptorInfo.playerId requesterInfo.playerId)
      (.addFriend requesterInfo acceptorInfo) := by
  intro a b
  have hrow : (a, b) ∈ (db.befriended acceptorInfo.playerId requesterInfo.playerId).friends ↔
      (a, b) ∈ db.friends ∨ SamePair a b requesterInfo.playerId acceptorInfo.playerId := by
    rw [befriended, List.mem_append, List.mem_pair, or_comm (a := (a, b) = _),
      FriendTable.row_eq_iff]
  dsimp only [DBResult.change]
  by_cases hpair : SamePair a b requesterInfo.playerId acceptorInfo.playerId
  · rw [if_pos hpair]
    have hnew : (a, b) ∉ db.friends := fun hmem =>
      hrequested.new.2 ((FriendTable.mem_of_samePair hdb hpair).mpr hmem)
    exact ⟨hpair, iff_of_false hnew fun h => Bool.false_ne_true h.symm,
      iff_of_true (hrow.mpr (.inr hpair)) rfl⟩
  · rw [if_neg hpair]
    exact hrow.trans (or_iff_left hpair)

/-- Two affected rows are a friendship; with fewer there was none. -/
theorem reported_deleteFriend (hdb : db.Sound) (sessionKey : SessionKey) (targetId : Int) :
    Reported (.deleteFriend sessionKey targetId) db
      (FriendDatabase.deleteFriend sessionKey.playerId targetId db).1
      (if (FriendDatabase.deleteFriend sessionKey.playerId targetId db).2 ≥ 2 then
        .deleteFriend sessionKey.playerId targetId
      else .failure .deleteFriend) := by
  generalize hrequester : sessionKey.playerId = requesterId
  by_cases hmem : (requesterId, targetId) ∈ db.friends
  · have htwo : (FriendDatabase.deleteFriend requesterId targetId db).2 ≥ 2 :=
      FriendTable.two_le_deleted hdb hmem
    rw [if_pos htwo]
    intro a b
    dsimp only [DBResult.change]
    have hrow : (a, b) ∈ db.friends.deleteRows requesterId targetId ↔
        (a, b) ∈ db.friends ∧ ¬ SamePair a b requesterId targetId := by
      rw [FriendTable.mem_deleteRows, ← FriendTable.row_eq_iff, not_or]
    by_cases hpair : SamePair a b requesterId targetId
    · rw [if_pos hpair]
      have hconcerns : (FriendTask.deleteFriend sessionKey targetId).Concerns a b := by
        rw [FriendTask.Concerns, hrequester]
        exact hpair
      exact ⟨hconcerns, iff_of_true ((FriendTable.mem_of_samePair hdb hpair).mp hmem) rfl,
        iff_of_false (fun hleft => (hrow.mp hleft).2 hpair) Bool.false_ne_true⟩
    · rw [if_neg hpair]
      exact hrow.trans (and_iff_left hpair)
  · have hsame := FriendTable.deleteRows_of_notMem hdb hmem
    have hfew : ¬ (FriendDatabase.deleteFriend requesterId targetId db).2 ≥ 2 := by
      unfold FriendDatabase.deleteFriend
      dsimp only
      rw [hsame]
      omega
    rw [if_neg hfew]
    exact reported_of_eq (fun _ _ => rfl) hsame

/-! ## The three tasks -/

theorem triple_reported_addFriend (hdb : db.Sound) (sessionKey : SessionKey)
    (acceptorInfo : FriendInfo) (requesterId : Int) :
    Triple (At Sound true db db) (executeAddFriend acceptorInfo requesterId)
      (fun result s => ∃ w, At Sound true w w s ∧
        Reported (.addFriend sessionKey acceptorInfo requesterId) db w result)
        (At Sound true db db) := by
  refine triple_mono (triple_executeAddFriend hdb acceptorInfo requesterId) (fun _ hs => hs)
    (fun result s hs => ?_) fun _ hs => hs
  rcases hs with ⟨w, hw, hrequested, rfl, nickname, rfl⟩ | ⟨hs, rfl⟩
  · have hrequested : db.Requested acceptorInfo.playerId
        (FriendInfo.mk requesterId nickname).playerId := hrequested
    exact ⟨_, hw, reported_addFriend hdb sessionKey hrequested⟩
  · exact ⟨db, hs, reported_of_eq (fun _ _ => rfl) rfl⟩

theorem triple_reported_addFriendRequest (hdb : db.Sound) (requesterInfo : FriendInfo)
    (receiverId : Int) :
    Triple (At Sound true db db) (executeAddFriendRequest requesterInfo receiverId)
      (fun result s => ∃ w, At Sound true w w s ∧ Reported task db w result)
      (At Sound true db db) := by
  have hbody : Triple (At Sound false db db) (addFriendRequestBody requesterInfo receiverId)
      (BodyDone Sound db fun result w => Reported task db w result)
      (fun s => ∃ w, At Sound false db w s) := by
    refine triple_bind (triple_mono (triple_prepareAndUpdate _ _) (fun _ hs => hs)
      (fun _ _ hs => hs) fun s hs => ⟨db, hs⟩) fun afrAffected => ?_
    cases afrAffected with
    | none => exact triple_pure fun s hs => ⟨db, hs⟩
    | some afrAffected =>
    refine triple_fact fun hafr => ?_
    subst hafr
    refine triple_bind (triple_mono (triple_prepareAndFetchNickname _) (fun _ hs => hs)
      (fun _ _ hs => hs) fun s hs => ⟨_, hs⟩) fun nickname => ?_
    cases nickname with
    | none => exact triple_pure fun s hs => ⟨_, hs⟩
    | some nickname =>
        -- a request is no friendship
        exact triple_pure fun s hs => ⟨_, _, hs, hdb, reported_of_eq (fun _ _ => rfl) rfl⟩
  refine triple_bind (triple_transaction hbody) fun result => ?_
  cases result with
  | none => exact triple_pure fun s hs => ⟨db, hs, reported_of_eq (fun _ _ => rfl) rfl⟩
  | some result => exact triple_pure fun s hs => hs

theorem triple_reported_deleteFriend (hdb : db.Sound) (sessionKey : SessionKey) (targetId : Int) :
    Triple (At Sound true db db) (executeDeleteFriend sessionKey targetId)
      (fun result s => ∃ w, At Sound true w w s ∧
        Reported (.deleteFriend sessionKey targetId) db w result)
      (At Sound true db db) := by
  have hsound : Sound (FriendDatabase.deleteFriend sessionKey.playerId targetId db).1 :=
    FriendTable.Mutual.deleteRows hdb
  have hstatement : Triple (At Sound true db db)
      (prepareAndUpdate .deleteFriend (FriendDatabase.deleteFriend sessionKey.playerId targetId))
      (fun affected s => affected.elim (At Sound true db db s) fun affected =>
        affected = (FriendDatabase.deleteFriend sessionKey.playerId targetId db).2 ∧
          At Sound true (FriendDatabase.deleteFriend sessionKey.playerId targetId db).1
            (FriendDatabase.deleteFriend sessionKey.playerId targetId db).1 s)
            (At Sound true db db) := by
    refine triple_bind (triple_getStatement _) fun prepared => ?_
    cases prepared with
    | false => exact triple_pure fun s hs => hs
    | true =>
        exact triple_bind triple_call fun _ =>
          triple_bind (triple_executeUpdate_auto _ hsound) fun _ =>
          triple_pure fun s hs => hs
  refine triple_bind hstatement fun affected => ?_
  cases affected with
  | none => exact triple_pure fun s hs => ⟨db, hs, reported_of_eq (fun _ _ => rfl) rfl⟩
  | some affected =>
  refine triple_fact fun haffected => ?_
  subst haffected
  have hreported := reported_deleteFriend hdb sessionKey targetId
  dsimp only
  split
  next htwo =>
    rw [if_pos htwo] at hreported
    exact triple_pure fun s hs => ⟨_, hs, hreported⟩
  next htwo =>
    rw [if_neg htwo] at hreported
    exact triple_pure fun s hs => ⟨_, hs, hreported⟩

/-- What `ProcessTask` leaves, and reports. A throw has stored nothing. -/
theorem triple_reported (hdb : db.Sound) (task : FriendTask) :
    Triple (At Sound true db db) task.execute (fun result s => ∃ w,
      At Sound true w w s ∧ Reported task db w result) (At Sound true db db) := by
  cases task with
  | addFriend sessionKey acceptorInfo requesterId =>
      exact triple_reported_addFriend hdb sessionKey acceptorInfo requesterId
  | deleteFriend sessionKey targetId => exact triple_reported_deleteFriend hdb sessionKey targetId
  | addFriendRequest _ requesterInfo receiverId =>
      exact triple_reported_addFriendRequest hdb requesterInfo receiverId

end Tasks

end ProjectTetris

import ProjectTetris.Database.FriendLists

/-!
# The queues of the sessions

What the functions of the server do to the queue and the list of each session, and what
they leave alone.
-/

namespace ProjectTetris

namespace FriendServer

variable {s s' : FriendServer} {k l key : SessionKey} {p q : Int}
  {f : FriendSession → FriendSession} {task : FriendSessionTask} {rest : List FriendSessionTask}

/-! ## Frames -/

theorem keyOf_modify (hf : ∀ session, (f session).sessionKey = session.sessionKey) (q : Int) :
    (s.modify p f).keyOf q = s.keyOf q := by
  unfold keyOf modify
  dsimp only
  by_cases hq : q = p
  · rw [hq, Function.update_self, Option.map_map]
    congr 1
    funext session
    exact hf session
  · rw [Function.update_of_ne hq]

theorem tasksOf_modify_of_ne (hq : q ≠ p) : (s.modify p f).tasksOf q = s.tasksOf q := by
  unfold tasksOf modify
  dsimp only
  rw [Function.update_of_ne hq]

theorem friendListOf_modify_of_ne (hq : q ≠ p) :
    (s.modify p f).friendListOf q = s.friendListOf q := by
  unfold friendListOf modify
  dsimp only
  rw [Function.update_of_ne hq]

theorem tasksOf_modify (hf : ∀ session, (f session).tasks = session.tasks) (q : Int) :
    (s.modify p f).tasksOf q = s.tasksOf q := by
  by_cases hq : q = p
  · unfold tasksOf modify
    dsimp only
    rw [hq, Function.update_self]
    cases s.sessions p with
    | none => rfl
    | some session => exact hf session
  · exact tasksOf_modify_of_ne hq

theorem friendListOf_modify (hf : ∀ session, (f session).friendList = session.friendList)
    (q : Int) :
    (s.modify p f).friendListOf q = s.friendListOf q := by
  by_cases hq : q = p
  · unfold friendListOf modify
    dsimp only
    rw [hq, Function.update_self]
    cases s.sessions p with
    | none => rfl
    | some session => exact hf session
  · exact friendListOf_modify_of_ne hq

/-- Nothing but the queues and the lists has changed. -/
structure Kept (s s' : FriendServer) : Prop where
  db : s'.db = s.db
  loads : s'.loads = s.loads
  posted : s'.posted = s.posted
  keys : ∀ q, s'.keyOf q = s.keyOf q

theorem Kept.trans {s'' : FriendServer} (h : Kept s s') (h' : Kept s' s'') : Kept s s'' :=
  ⟨h'.db.trans h.db, h'.loads.trans h.loads, h'.posted.trans h.posted,
    fun q => (h'.keys q).trans (h.keys q)⟩

theorem kept_modify (hf : ∀ session, (f session).sessionKey = session.sessionKey) :
    Kept s (s.modify p f) :=
  ⟨rfl, rfl, rfl, keyOf_modify hf⟩

theorem kept_enqueue : Kept s (s.enqueueSessionTask key task) := by
  unfold enqueueSessionTask
  split
  · exact kept_modify fun _ => rfl
  · exact ⟨rfl, rfl, rfl, fun _ => rfl⟩

theorem KeysOk.of_kept (h : s.KeysOk) (hkept : Kept s s') : s'.KeysOk := by
  intro playerId key hkey
  rw [hkept.keys] at hkey
  exact h playerId key hkey

/-! ## Queues -/

theorem tasksOf_enqueue (s : FriendServer) (key : SessionKey) (task : FriendSessionTask)
    (q : Int) :
    (s.enqueueSessionTask key task).tasksOf q =
      s.tasksOf q ++ if q = key.playerId ∧ s.keyOf key.playerId =
        some key then [task] else [] := by
  unfold enqueueSessionTask
  by_cases hkey : s.keyOf key.playerId = some key
  · rw [if_pos hkey]
    by_cases hq : q = key.playerId
    · rw [if_pos ⟨hq, hkey⟩, hq]
      obtain ⟨session, hsession, -⟩ := Option.map_eq_some_iff.mp hkey
      unfold tasksOf modify
      dsimp only
      rw [Function.update_self, hsession]
      rfl
    · rw [if_neg (fun h => hq h.1), List.append_nil, tasksOf_modify_of_ne hq]
  · rw [if_neg hkey, if_neg (fun h => hkey h.2), List.append_nil]

theorem friendListOf_enqueue (q : Int) :
    (s.enqueueSessionTask key task).friendListOf q = s.friendListOf q := by
  unfold enqueueSessionTask
  split
  · exact friendListOf_modify (f := (·.enqueue task)) (fun _ => rfl) q
  · rfl

/-- A task for a player comes to him, if he is logged in. -/
theorem tasksOf_send (hkeys : s.KeysOk) (p q : Int) :
    (s.enqueueSessionTask (s.findSessionKeyByID p) task).tasksOf q =
      s.tasksOf q ++ if q = p ∧ (s.keyOf q).isSome then [task] else [] := by
  rw [tasksOf_enqueue]
  congr 2
  refine propext ?_
  unfold findSessionKeyByID
  cases hkey : s.keyOf p with
  | none =>
      rw [Option.getD_none]
      refine iff_of_false ?_ ?_
      · intro h
        exact absurd (hkeys _ _ h.2).2 (by decide)
      · intro h
        rw [h.1, hkey] at h
        exact Bool.false_ne_true h.2
  | some key =>
      rw [Option.getD_some, (hkeys p key hkey).1]
      constructor
      · intro h
        rw [h.1, hkey]
        exact ⟨rfl, rfl⟩
      · intro h
        exact ⟨h.1, hkey⟩

/-- What a session that handles a result tells this player. -/
def tasksFor (q : Int) : DBResult → List FriendSessionTask
  | .failure _ => []
  | .addFriendRequest requesterInfo receiverInfo =>
      if q = receiverInfo.playerId then [.friendRequest requesterInfo] else []
  | .addFriend requesterInfo acceptorInfo =>
      (if q = requesterInfo.playerId then [.addFriend acceptorInfo] else []) ++
        if q = acceptorInfo.playerId then [.addFriend requesterInfo] else []
  | .deleteFriend requesterId targetId =>
      (if q = requesterId then [.deleteFriend targetId] else []) ++
        if q = targetId then [.deleteFriend requesterId] else []

theorem kept_handleReply (result : DBResult) : Kept s (s.handleReply result) := by
  cases result with
  | failure => exact ⟨rfl, rfl, rfl, fun _ => rfl⟩
  | addFriendRequest => exact kept_enqueue
  | addFriend => exact kept_enqueue.trans kept_enqueue
  | deleteFriend => exact kept_enqueue.trans kept_enqueue

theorem friendListOf_handleReply (result : DBResult) (q : Int) :
    (s.handleReply result).friendListOf q = s.friendListOf q := by
  cases result with
  | failure => rfl
  | addFriendRequest => exact friendListOf_enqueue q
  | addFriend => exact (friendListOf_enqueue q).trans (friendListOf_enqueue q)
  | deleteFriend => exact (friendListOf_enqueue q).trans (friendListOf_enqueue q)

theorem tasksOf_handleReply (hkeys : s.KeysOk) (hq : (s.keyOf q).isSome) (result : DBResult) :
    (s.handleReply result).tasksOf q = s.tasksOf q ++ tasksFor q result := by
  have honline : ∀ {p : Int}, (q = p ∧ (s.keyOf q).isSome) ↔ q = p := and_iff_left hq
  cases result with
  | failure => exact (List.append_nil _).symm
  | addFriendRequest =>
      unfold handleReply
      rw [tasksOf_send hkeys]
      simp only [honline, tasksFor]
  | addFriend | deleteFriend =>
      unfold handleReply
      dsimp only
      rw [tasksOf_send (hkeys.of_kept kept_enqueue), tasksOf_send hkeys, kept_enqueue.keys]
      simp only [honline, tasksFor, List.append_assoc]

/-- Who is not logged in is told nothing. -/
theorem tasksOf_handleReply_of_none (hkeys : s.KeysOk) (hq : s.keyOf q = none)
    (result : DBResult) :
    (s.handleReply result).tasksOf q = s.tasksOf q := by
  have hoffline : ∀ {p : Int}, ¬ (q = p ∧ (s.keyOf q).isSome) := by
    intro p h
    rw [hq] at h
    exact Bool.false_ne_true h.2
  cases result with
  | failure => rfl
  | addFriendRequest =>
      unfold handleReply
      rw [tasksOf_send hkeys, if_neg hoffline, List.append_nil]
  | addFriend | deleteFriend =>
      unfold handleReply
      dsimp only
      rw [tasksOf_send (hkeys.of_kept kept_enqueue), tasksOf_send hkeys, kept_enqueue.keys,
        if_neg hoffline, List.append_nil, if_neg hoffline, List.append_nil]

/-- Only the database threads send completions. -/
theorem ne_dbResult_of_mem_tasksFor {result : DBResult} (htask : task ∈ tasksFor q result)
    (r : FriendResult) :
    task ≠ .dbResult r := by
  intro heq
  subst heq
  cases result with
  | failure => cases htask
  | addFriendRequest | addFriend | deleteFriend => simp [tasksFor] at htask

theorem tasksFor_change (a b q : Int) (result : DBResult) :
    (tasksFor q result).filterMap (·.change a b) = [] := by
  rw [List.filterMap_eq_nil_iff]
  intro task htask
  cases task with
  | dbResult r => exact absurd rfl (ne_dbResult_of_mem_tasksFor htask r)
  | addFriend | deleteFriend | friendRequest => rfl

theorem tasksFor_isLoad {result : DBResult} (htask : task ∈ tasksFor q result) :
    task.isLoad = false := by
  cases task with
  | dbResult r => exact absurd rfl (ne_dbResult_of_mem_tasksFor htask r)
  | addFriend | deleteFriend | friendRequest => rfl

/-- One task for each of two players, which says something of the other. -/
theorem filterMap_pair {g : FriendSessionTask → Option Bool} {first second : FriendSessionTask}
    {a b x y : Int} {added : Bool} (hab : a ≠ b)
    (hfirst : g first = if y = b then some added else none)
    (hsecond : g second = if x = b then some added else none) :
    ((if a = x then [first] else []) ++ if a = y then [second] else []).filterMap g =
      (if SamePair a b x y then some added else none).toList := by
  rw [List.filterMap_append]
  by_cases hx : a = x
  · subst hx
    rw [if_neg hab] at hsecond
    have hnone : (if a = y then [second] else []).filterMap g = [] := by
      split
      · exact List.filterMap_cons_none hsecond
      · rfl
    have hsame : SamePair a b a y ↔ y = b := by simp [SamePair, hab]
    rw [if_pos rfl, hnone, List.append_nil]
    by_cases hy : y = b
    · rw [if_pos hy] at hfirst
      rw [if_pos (hsame.mpr hy)]
      exact List.filterMap_cons_some hfirst
    · rw [if_neg hy] at hfirst
      rw [if_neg (fun h => hy (hsame.mp h))]
      exact List.filterMap_cons_none hfirst
  · have hsame : SamePair a b x y ↔ a = y ∧ x = b := by
      simp [SamePair, Ne.symm hx, and_comm, eq_comm]
    rw [if_neg hx, List.filterMap_nil, List.nil_append]
    by_cases hy : a = y
    · rw [if_pos hy]
      by_cases hb : x = b
      · rw [if_pos hb] at hsecond
        rw [if_pos (hsame.mpr ⟨hy, hb⟩)]
        exact List.filterMap_cons_some hsecond
      · rw [if_neg hb] at hsecond
        rw [if_neg (fun h => hb (hsame.mp h).2)]
        exact List.filterMap_cons_none hsecond
    · rw [if_neg hy, if_neg (fun h => hy (hsame.mp h).1)]
      rfl

/-- Of a change of their friendship each of the two is told once, and of no other. -/
theorem tasksFor_notice {a b : Int} (hab : a ≠ b) (result : DBResult) :
    (tasksFor a result).filterMap (·.notice b) = (result.change a b).toList := by
  cases result with
  | failure => rfl
  | addFriendRequest =>
      dsimp only [tasksFor]
      split
      · rfl
      · rfl
  | addFriend => exact filterMap_pair hab rfl rfl
  | deleteFriend => exact filterMap_pair hab rfl rfl

/-! ## Taking a task, and changing a list -/

theorem tasksOf_dequeue (htasks : s.tasksOf p = task :: rest) (q : Int) :
    (s.modify p (·.dequeue)).tasksOf q = if q = p then rest else s.tasksOf q := by
  by_cases hq : q = p
  · rw [if_pos hq, hq]
    unfold tasksOf modify at *
    dsimp only
    rw [Function.update_self]
    cases hsession : s.sessions p with
    | none =>
        rw [hsession] at htasks
        cases htasks
    | some session =>
        rw [hsession] at htasks
        exact congrArg List.tail htasks
  · rw [if_neg hq, tasksOf_modify_of_ne hq]

/-- A task of no interest may go. -/
theorem filterMap_dequeue {g : FriendSessionTask → Option Bool}
    (htasks : s.tasksOf p = task :: rest) (hnone : q = p → g task = none) :
    ((s.modify p (·.dequeue)).tasksOf q).filterMap g = (s.tasksOf q).filterMap g := by
  rw [tasksOf_dequeue htasks]
  split
  next hq => rw [hq, htasks, List.filterMap_cons_none (hnone hq)]
  next => rfl

theorem countP_eraseP {α : Type} (p : α → Bool) (xs : List α) :
    (xs.eraseP p).countP p = xs.countP p - 1 := by
  induction xs with
  | nil => rfl
  | cons x xs ih =>
      by_cases hx : p x = true
      · rw [List.eraseP_cons_of_pos hx, List.countP_cons_of_pos hx]
        omega
      · rw [List.eraseP_cons_of_neg hx, List.countP_cons_of_neg hx, List.countP_cons_of_neg hx, ih]

theorem countP_eraseP_of_disjoint {α : Type} {p q : α → Bool}
    (hpq : ∀ x, p x = true → ¬ q x = true) (xs : List α) :
    (xs.eraseP p).countP q = xs.countP q := by
  induction xs with
  | nil => rfl
  | cons x xs ih =>
      by_cases hx : p x = true
      · rw [List.eraseP_cons_of_pos hx, List.countP_cons_of_neg (hpq x hx)]
      · rw [List.eraseP_cons_of_neg hx, List.countP_cons, List.countP_cons, ih]

end FriendServer

end ProjectTetris

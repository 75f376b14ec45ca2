import ProjectTetris.Database.FriendQueues

/-!
# Friend lists follow the table

A list, what is in the queue of its session and the completions under way are a copy of the
table that follows by notices, whatever step is taken.
-/

namespace ProjectTetris

open Transition Transaction Transaction.Attempt Transaction.Context

namespace FriendServer

variable {s s' : FriendServer} {k l key : SessionKey} {p q : Int}
  {f : FriendSession → FriendSession} {task : FriendSessionTask} {rest : List FriendSessionTask}

/-! ## What a pair sees of a step -/

variable {oneByOne : Prop}

/-- The pair goes on, and its list as a copy. -/
def Follows (oneByOne : Prop) (k l : SessionKey) (s s' : FriendServer) : Prop :=
  s'.Paired k l ∧ (Notices.system oneByOne).Run (s.see k l) (s'.see k l)

theorem Follows.of_eq (h : s'.Paired k l) (hsee : s'.see k l = s.see k l) :
    Follows oneByOne k l s s' := by
  refine ⟨h, ?_⟩
  rw [hsee]
  exact .refl

theorem see_of_db (hdb : s'.db = s.db) :
    s'.see k l = ⟨decide (s.AreFriends k l), s'.listed k l, s'.told k l, s'.waiting k l⟩ := by
  have hrow : s'.AreFriends k l ↔ s.AreFriends k l := by
    unfold AreFriends
    rw [hdb]
  rw [see, decide_eq_decide.mpr hrow]

theorem waiting_congr (hposted : s'.posted = s.posted)
    (htasks : ∀ q, (s'.tasksOf q).filterMap (·.change k.playerId l.playerId) =
      (s.tasksOf q).filterMap (·.change k.playerId l.playerId)) :
      s'.waiting k l = s.waiting k l := by
  unfold waiting
  rw [hposted, htasks, htasks]

/-- Where only queues and lists change. -/
theorem Paired.of_kept (h : s.Paired k l) (hkept : Kept s s')
    (hloaded : ∀ task ∈ s'.tasksOf k.playerId, task.isLoad = false)
    (helsewhere : ∀ playerId, playerId ≠ k.playerId → playerId ≠ l.playerId →
      (s'.tasksOf playerId).filterMap (·.change k.playerId l.playerId) = []) : s'.Paired k l where
  sound := hkept.db ▸ h.sound
  keys := h.keys.of_kept hkept
  first := (hkept.keys _).trans h.first
  second := (hkept.keys _).trans h.second
  loads := hkept.loads ▸ h.loads
  loading := hkept.posted ▸ h.loading
  loaded := hloaded
  posted := hkept.posted ▸ h.posted
  elsewhere := helsewhere

/-! ### The database -/

/-- A completion is posted, of a task or of a list. -/
theorem Paired.post (h : s.Paired k l) {w : FriendDatabase} (hw : w.Sound) {result : FriendResult}
    (hload : key = k → (FriendSessionTask.dbResult result).isLoad = false)
    (hchange : result.change k.playerId l.playerId ≠ none → key = k ∨ key = l) :
    Paired { s with db := w, posted := s.posted ++ [(key, result)] } k l where
  sound := hw
  keys := h.keys
  first := h.first
  second := h.second
  loads := h.loads
  loading := by
    intro completion hcompletion hk
    rcases List.mem_append.mp hcompletion with hold | hnew
    · exact h.loading completion hold hk
    · rw [List.mem_singleton.mp hnew] at hk ⊢
      exact hload hk
  loaded := h.loaded
  posted := by
    intro completion hcompletion hne
    rcases List.mem_append.mp hcompletion with hold | hnew
    · exact h.posted completion hold hne
    · rw [List.mem_singleton.mp hnew] at hne ⊢
      exact hchange hne
  elsewhere := h.elsewhere

theorem waiting_post (s : FriendServer) (k l key : SessionKey) (w : FriendDatabase)
    (result : FriendResult) :
    waiting { s with db := w, posted := s.posted ++ [(key, result)] } k l =
      s.posted.filterMap (·.2.change k.playerId l.playerId) ++
        ((result.change k.playerId l.playerId).toList ++
        ((s.tasksOf k.playerId).filterMap (·.change k.playerId l.playerId) ++
          (s.tasksOf l.playerId).filterMap (·.change k.playerId l.playerId))) := by
  unfold waiting
  dsimp only
  rw [List.filterMap_append, List.append_assoc]
  congr 2

theorem follows_execute (h : s.Paired k l) {task : FriendTask}
    {statementCache : List DBOperationType} {outcomes : List CallOutcome}
    (hallowed : FriendAction.Allowed oneByOne k l (.execute task statementCache outcomes) s)
    (hstep : FriendAction.step (.execute task statementCache outcomes) s = some s') :
    Follows oneByOne k l s s' := by
  have hat : At FriendDatabase.Sound true s.db s.db (connectionTo s.db statementCache outcomes) :=
    ⟨rfl, rfl, rfl, h.sound, fun x hx => absurd hx List.not_mem_nil⟩
  have hend := triple_reported h.sound task _ hat
  unfold FriendAction.step at hstep
  dsimp only at hstep
  generalize task.execute (connectionTo s.db statementCache outcomes) = result at hstep hend
  match result, hend with
  | (.error _, context), hend =>
      -- nothing has been stored
      have hstored : context.stored = s.db := hend.stored
      dsimp only at hstep
      rw [hstored] at hstep
      cases hstep
      exact .of_eq h rfl
  | (.ok result, context), ⟨w, hw, hreported⟩ =>
      have hstored : context.stored = w := hw.stored
      dsimp only at hstep
      rw [hstored] at hstep
      cases hstep
      have hrow := hreported k.playerId l.playerId
      cases hchange : result.change k.playerId l.playerId with
      | none =>
          -- the change of another pair, or a failure
          rw [hchange] at hrow
          refine .of_eq (h.post hw.kept.1 (fun _ => rfl) fun hne => absurd hchange hne) ?_
          unfold see
          rw [waiting_post, FriendResult.change, hchange, Option.toList_none, List.nil_append]
          congr 1
          exact decide_eq_decide.mpr hrow
      | some added =>
          rw [hchange] at hrow
          obtain ⟨hconcerns, hbefore, hafter⟩ := hrow
          obtain ⟨hissuer, hone⟩ := hallowed.2 hconcerns
          refine ⟨h.post hw.kept.1 (fun _ => rfl) fun _ => hissuer, .single ?_⟩
          have hperm :
              (waiting { s with db := w, posted := s.posted ++ [(task.sessionKey, .reply result)] }
                k l).Perm
              (added :: s.waiting k l) := by
            rw [waiting_post, FriendResult.change, hchange, Option.toList_some]
            exact List.perm_middle
          have hrow : decide (s.AreFriends k l) = !added := by
            rw [Bool.eq_iff_iff, decide_eq_true_iff, Bool.not_eq_true']
            exact hbefore
          have hrow' : decide (AreFriends { s with db := w } k l) = added := by
            rw [Bool.eq_iff_iff, decide_eq_true_iff]
            exact hafter
          have hnext : Notices.Next oneByOne (s.see k l) _ := .changes (s.see k l) hrow hone hperm
          rw [← hrow'] at hnext
          exact hnext

theorem follows_load (h : s.Paired k l) {i : Nat} {isSuccess : Bool}
    (hstep : FriendAction.step (.load i isSuccess) s = some s') : Follows oneByOne k l s s' := by
  unfold FriendAction.step at hstep
  dsimp only at hstep
  cases hload : s.loads[i]? with
  | none =>
      rw [hload] at hstep
      cases hstep
  | some key =>
      rw [hload] at hstep
      cases hstep
      -- the list of another session
      have hne : key ≠ k := by
        intro heq
        exact h.loads (heq ▸ List.mem_of_getElem? hload)
      generalize (if isSuccess = true then some (s.db.friendList key.playerId) else none) =
        friendList
      have hpost : Paired { s with posted := s.posted ++ [(key, .friendList friendList)] } k l :=
        h.post h.sound (fun heq => absurd heq hne) fun hchange => absurd rfl hchange
      refine .of_eq { hpost with loads := fun hmem => h.loads (List.mem_of_mem_eraseIdx hmem) } ?_
      unfold see
      congr 1
      exact waiting_post s k l key s.db (.friendList friendList)

/-! ### A completion comes to its session -/

/-- It moves to the queue of one of the two, if it is about them. -/
theorem waiting_deliver (h : s.Paired k l) (hne : k.playerId ≠ l.playerId) {i : Nat}
    {result : FriendResult} (hposted : s.posted[i]? = some (key, result)) :
    (({ s with posted := s.posted.eraseIdx i }.enqueueSessionTask key
      (.dbResult result)).waiting k l).Perm (s.waiting k l) := by
  obtain ⟨hi, hget⟩ := List.getElem?_eq_some_iff.mp hposted
  have hperm : ((key, result) :: s.posted.eraseIdx i).Perm s.posted :=
    hget ▸ List.getElem_cons_eraseIdx_perm hi
  have hfilter := hperm.filterMap (·.2.change k.playerId l.playerId)
  have htasks : ∀ q,
      (({ s with posted := s.posted.eraseIdx i }.enqueueSessionTask key
        (.dbResult result)).tasksOf q) =
      s.tasksOf q ++ if q = key.playerId ∧ s.keyOf key.playerId =
        some key then [.dbResult result] else [] :=
    tasksOf_enqueue { s with posted := s.posted.eraseIdx i } key (.dbResult result)
  unfold waiting
  rw [kept_enqueue.posted, htasks, htasks, List.filterMap_append, List.filterMap_append]
  dsimp only
  cases hchange : result.change k.playerId l.playerId with
  | none =>
      rw [List.filterMap_cons_none
        (f := fun c : SessionKey × FriendResult => c.2.change k.playerId l.playerId) hchange]
        at hfilter
      have hnone : ∀ c : Prop, [Decidable c] →
          (if c then [FriendSessionTask.dbResult result] else []).filterMap
          (·.change k.playerId l.playerId) = [] := by
        intro c _
        split
        · exact List.filterMap_cons_none hchange
        · rfl
      rw [hnone, hnone, List.append_nil, List.append_nil]
      exact hfilter.append_right _
  | some added =>
      rw [List.filterMap_cons_some
        (f := fun c : SessionKey × FriendResult => c.2.change k.playerId l.playerId) hchange]
        at hfilter
      have hsome : [FriendSessionTask.dbResult result].filterMap (·.change k.playerId l.playerId) =
          [added] :=
        List.filterMap_cons_some hchange
      have hmem : (key, result) ∈ s.posted := hget ▸ List.getElem_mem hi
      have hissuer := h.posted _ hmem (hchange ▸ Option.some_ne_none added)
      refine List.Perm.trans ?_ (hfilter.append_right _)
      -- both are logged in with the keys the completion may be for, so that it is not lost
      rcases hissuer with hkey | hkey
      · obtain rfl : key = k := hkey
        rw [if_pos ⟨rfl, h.first⟩, if_neg (fun hl => hne hl.1.symm), hsome, List.filterMap_nil,
          List.append_nil, List.append_assoc, List.singleton_append]
        exact (List.perm_middle.append_left _).trans List.perm_middle
      · obtain rfl : key = l := hkey
        rw [if_neg (fun hk => hne hk.1), if_pos ⟨rfl, h.second⟩, hsome, List.filterMap_nil,
          List.append_nil, ← List.append_assoc, ← List.append_assoc]
        refine (List.perm_append_singleton _ _).trans ?_
        rw [List.append_assoc]
        exact List.Perm.refl _

theorem Paired.deliver (h : s.Paired k l) {i : Nat} {result : FriendResult}
    (hposted : s.posted[i]? = some (key, result)) :
    ({ s with posted := s.posted.eraseIdx i }.enqueueSessionTask key (.dbResult result)).Paired k
      l := by
  have hmem : (key, result) ∈ s.posted := List.mem_of_getElem? hposted
  have htaken : Paired { s with posted := s.posted.eraseIdx i } k l :=
    { h with
      loading := fun completion hcompletion =>
        h.loading completion (List.mem_of_mem_eraseIdx hcompletion)
      posted := fun completion hcompletion =>
        h.posted completion (List.mem_of_mem_eraseIdx hcompletion) }
  refine htaken.of_kept kept_enqueue ?_ ?_
  · intro task htask
    rw [tasksOf_enqueue] at htask
    rcases List.mem_append.mp htask with hold | hnew
    · exact htaken.loaded task hold
    · rw [List.mem_ite_nil_right, List.mem_singleton] at hnew
      obtain ⟨⟨hk, hcurrent⟩, rfl⟩ := hnew
      refine h.loading _ hmem ?_
      rw [← hk, htaken.first] at hcurrent
      exact (Option.some.inj hcurrent).symm
  · intro playerId hk hl
    rw [tasksOf_enqueue, List.filterMap_append, htaken.elsewhere playerId hk hl, List.nil_append]
    split
    next hcurrent =>
      refine List.filterMap_cons_none ?_
      -- what is about the two is not for others
      refine Decidable.byContradiction fun hchange => ?_
      rcases h.posted _ hmem hchange with rfl | rfl
      · exact hk hcurrent.1
      · exact hl hcurrent.1
    next => rfl

theorem see_deliver (i : Nat) (result : FriendResult) :
    ({ s with posted := s.posted.eraseIdx i }.enqueueSessionTask key (.dbResult result)).see k l =
      { s.see k l with
        waiting := ({ s with posted := s.posted.eraseIdx i }.enqueueSessionTask key
          (.dbResult result)).waiting k l } := by
  have htold :
      ({ s with posted := s.posted.eraseIdx i }.enqueueSessionTask key (.dbResult result)).told k
      l =
      s.told k l := by
    unfold told
    rw [tasksOf_enqueue, List.filterMap_append]
    split
    · exact List.append_nil _
    · exact List.append_nil _
  have hlisted :
      ({ s with posted := s.posted.eraseIdx i }.enqueueSessionTask key (.dbResult result)).listed k
      l =
      s.listed k l := by
    unfold listed
    rw [friendListOf_enqueue]
    rfl
  have hdb :
    ({ s with posted := s.posted.eraseIdx i }.enqueueSessionTask key (.dbResult result)).db =
      s.db :=
    kept_enqueue.db
  rw [see_of_db hdb, htold, hlisted]
  rfl

theorem follows_deliver (h : s.Paired k l) (hne : k.playerId ≠ l.playerId) {i : Nat}
    (hstep : FriendAction.step (.deliver i) s = some s') : Follows oneByOne k l s s' := by
  unfold FriendAction.step at hstep
  dsimp only at hstep
  cases hposted : s.posted[i]? with
  | none =>
      rw [hposted] at hstep
      cases hstep
  | some completion =>
      obtain ⟨key, result⟩ := completion
      rw [hposted] at hstep
      cases hstep
      refine ⟨h.deliver hposted, ?_⟩
      rw [see_deliver]
      exact .single (.passes (s.see k l) (waiting_deliver h hne hposted))

/-! ### A session processes a task -/

theorem Paired.dequeue (h : s.Paired k l) (htasks : s.tasksOf p = task :: rest) :
    (s.modify p (·.dequeue)).Paired k l := by
  refine h.of_kept (kept_modify fun _ => rfl) ?_ ?_
  · intro task' htask'
    rw [tasksOf_dequeue htasks] at htask'
    split at htask'
    next hk => exact h.loaded task' (hk ▸ htasks ▸ List.mem_cons_of_mem _ htask')
    next => exact h.loaded task' htask'
  · intro playerId hk hl
    have hnone := h.elsewhere playerId hk hl
    rw [tasksOf_dequeue htasks]
    split
    next hq =>
      rw [hq, htasks] at hnone
      rw [List.filterMap_eq_nil_iff] at hnone ⊢
      exact fun task' htask' => hnone task' (List.mem_cons_of_mem _ htask')
    next => exact hnone

/-- A change of a session that leaves its queue alone. -/
theorem Paired.modify (h : s.Paired k l)
    (hkey : ∀ session, (f session).sessionKey = session.sessionKey)
    (htasks : ∀ session, (f session).tasks = session.tasks) : (s.modify p f).Paired k l := by
  refine h.of_kept (kept_modify hkey) ?_ ?_
  · intro task htask
    rw [tasksOf_modify htasks] at htask
    exact h.loaded task htask
  · intro playerId hk hl
    rw [tasksOf_modify htasks]
    exact h.elsewhere playerId hk hl

/-- The completion at the head of the queue is no longer waiting. -/
theorem waiting_dequeue (h : s.Paired k l) (hne : k.playerId ≠ l.playerId)
    (htasks : s.tasksOf p = task :: rest) {added : Bool}
    (hchange : task.change k.playerId l.playerId = some added) :
    (s.waiting k l).Perm (added :: (s.modify p (·.dequeue)).waiting k l) := by
  -- what is reported of the two is in the queue of one of them
  have hpair : p = k.playerId ∨ p = l.playerId := by
    refine Decidable.byContradiction fun hother => ?_
    rw [not_or] at hother
    have hnone := h.elsewhere p hother.1 hother.2
    rw [htasks, List.filterMap_cons_some hchange] at hnone
    cases hnone
  unfold waiting
  rw [tasksOf_dequeue htasks, tasksOf_dequeue htasks]
  rcases hpair with rfl | rfl
  · rw [if_pos rfl, if_neg hne.symm, htasks, List.filterMap_cons_some hchange]
    exact List.perm_middle
  · rw [if_neg hne, if_pos rfl, htasks, List.filterMap_cons_some hchange]
    exact (List.perm_middle.append_left _).trans List.perm_middle

theorem listed_dequeue : (s.modify p (·.dequeue)).listed k l = s.listed k l := by
  unfold listed
  rw [friendListOf_modify (f := (·.dequeue)) fun _ => rfl]

/-- A task that says nothing of the two. -/
theorem see_dequeue (htasks : s.tasksOf p = task :: rest)
    (hchange : task.change k.playerId l.playerId = none)
    (hnotice : p = k.playerId → task.notice l.playerId = none) :
    (s.modify p (·.dequeue)).see k l = s.see k l := by
  have htold : (s.modify p (·.dequeue)).told k l = s.told k l :=
    filterMap_dequeue htasks fun hk => hnotice hk.symm
  have hlisted : (s.modify p (·.dequeue)).listed k l = s.listed k l := listed_dequeue
  have hwaiting : (s.modify p (·.dequeue)).waiting k l = s.waiting k l :=
    waiting_congr rfl fun q => filterMap_dequeue htasks fun _ => hchange
  rw [see_of_db rfl, htold, hlisted, hwaiting]
  rfl

theorem change_handleReply (hkeys : s.KeysOk) (result : DBResult) (q : Int) :
    ((s.handleReply result).tasksOf q).filterMap (·.change k.playerId l.playerId) =
      (s.tasksOf q).filterMap (·.change k.playerId l.playerId) := by
  cases hq : s.keyOf q with
  | none => rw [tasksOf_handleReply_of_none hkeys hq]
  | some key =>
      rw [tasksOf_handleReply hkeys (hq ▸ rfl), List.filterMap_append, tasksFor_change,
        List.append_nil]

theorem Paired.handleReply (h : s.Paired k l) (result : DBResult) :
    (s.handleReply result).Paired k l := by
  refine h.of_kept (kept_handleReply result) ?_ ?_
  · intro task htask
    rw [tasksOf_handleReply h.keys (h.first ▸ rfl)] at htask
    rcases List.mem_append.mp htask with hold | hnew
    · exact h.loaded task hold
    · exact tasksFor_isLoad hnew
  · intro playerId hk hl
    rw [change_handleReply h.keys]
    exact h.elsewhere playerId hk hl

/-- The first is told of the change, if there is one. -/
theorem see_handleReply (h : s.Paired k l) (hne : k.playerId ≠ l.playerId) (result : DBResult) :
    (s.handleReply result).see k l =
      { s.see k l with told := s.told k l ++ (result.change k.playerId l.playerId).toList } := by
  have htold : (s.handleReply result).told k l = s.told k l ++
      (result.change k.playerId l.playerId).toList := by
    rw [← tasksFor_notice hne]
    unfold told
    rw [tasksOf_handleReply h.keys (h.first ▸ rfl), List.filterMap_append]
  have hlisted : (s.handleReply result).listed k l = s.listed k l := by
    unfold listed
    rw [friendListOf_handleReply]
  rw [see_of_db (kept_handleReply result).db, htold, hlisted,
    waiting_congr (kept_handleReply result).posted (change_handleReply h.keys result)]
  rfl

theorem follows_handleReply (h : s.Paired k l) (hne : k.playerId ≠ l.playerId) {result : DBResult}
    (htasks : s.tasksOf p = .dbResult (.reply result) :: rest) :
    Follows oneByOne k l s ((s.modify p (·.dequeue)).handleReply result) := by
  have hdequeued := h.dequeue htasks
  refine ⟨hdequeued.handleReply result, ?_⟩
  have hsee := see_handleReply hdequeued hne result
  -- handling a completion hands its notice over
  cases hresult : result.change k.playerId l.playerId with
  | none =>
      rw [hresult, Option.toList_none, List.append_nil] at hsee
      have hsame : ((s.modify p (·.dequeue)).handleReply result).see k l = s.see k l :=
        hsee.trans (see_dequeue htasks hresult fun _ => rfl)
      rw [hsame]
      exact .refl
  | some added =>
      have htold : (s.modify p (·.dequeue)).told k l = s.told k l :=
        filterMap_dequeue htasks fun _ => rfl
      have hlisted : (s.modify p (·.dequeue)).listed k l = s.listed k l := listed_dequeue
      rw [hresult, Option.toList_some, htold] at hsee
      rw [hsee, see_of_db (show (s.modify p (·.dequeue)).db = s.db from rfl), hlisted]
      exact .single (.handsOver (s.see k l) (waiting_dequeue h hne htasks hresult))

/-! ### A session changes its list -/

theorem listed_modify (h : s.keyOf k.playerId = some k) {g : Nat → Nat}
    (hf : ∀ session,
      (f session).friendList.countP (fun friendInfo => friendInfo.playerId = l.playerId) =
      g (session.friendList.countP fun friendInfo => friendInfo.playerId = l.playerId)) :
    (s.modify k.playerId f).listed k l = g (s.listed k l) := by
  obtain ⟨session, hsession, -⟩ := Option.map_eq_some_iff.mp h
  unfold listed friendListOf FriendServer.modify
  dsimp only
  rw [Function.update_self, hsession]
  exact hf session

/-- A task that changes the list of its session, in the way in which it says it does. -/
theorem follows_list (h : s.Paired k l) (htasks : s.tasksOf p = task :: rest)
    (hchange : task.change k.playerId l.playerId = none)
    (hkey : ∀ session, (f session).sessionKey = session.sessionKey)
    (hqueue : ∀ session, (f session).tasks = session.tasks)
    (hlist : p = k.playerId → ∀ session,
      (f session).friendList.countP (fun friendInfo => friendInfo.playerId = l.playerId) =
        (task.notice l.playerId).elim id (fun added copies => Notices.take copies added)
          (session.friendList.countP fun friendInfo => friendInfo.playerId = l.playerId)) :
    Follows oneByOne k l s ((s.modify p (·.dequeue)).modify p f) := by
  have hdequeued := h.dequeue htasks
  have hlisted₁ : (s.modify p (·.dequeue)).listed k l = s.listed k l := listed_dequeue
  have hwaiting₁ : (s.modify p (·.dequeue)).waiting k l = s.waiting k l :=
    waiting_congr rfl fun q => filterMap_dequeue htasks fun _ => hchange
  have htold₁ : (s.modify p (·.dequeue)).told k l =
      ((if k.playerId = p then rest else s.tasksOf k.playerId).filterMap
        (·.notice l.playerId)) := by
    unfold told
    rw [tasksOf_dequeue htasks]
  refine ⟨hdequeued.modify hkey hqueue, ?_⟩
  have hsee : ((s.modify p (·.dequeue)).modify p f).see k l =
      ⟨decide (s.AreFriends k l), ((s.modify p (·.dequeue)).modify p f).listed k l,
        (s.modify p (·.dequeue)).told k l, s.waiting k l⟩ := by
    have htold : ((s.modify p (·.dequeue)).modify p f).told k l =
        (s.modify p (·.dequeue)).told k l := by
      unfold told
      rw [tasksOf_modify hqueue]
    have hwaiting : ((s.modify p (·.dequeue)).modify p f).waiting k l =
        (s.modify p (·.dequeue)).waiting k l := by
      refine waiting_congr rfl fun q => ?_
      rw [tasksOf_modify hqueue]
    rw [see_of_db (show ((s.modify p (·.dequeue)).modify p f).db = s.db from rfl), htold,
      hwaiting, hwaiting₁]
  rw [hsee, htold₁]
  -- the list that counts is that of the first
  by_cases hp : p = k.playerId
  · subst hp
    have hlisted := listed_modify hdequeued.first (hlist rfl)
    rw [hlisted, hlisted₁, if_pos rfl]
    cases hnotice : task.notice l.playerId with
    | none =>
        have hsame : rest.filterMap (·.notice l.playerId) = s.told k l := by
          unfold told
          rw [htasks, List.filterMap_cons_none hnotice]
        rw [hsame]
        exact .refl
    | some added =>
        have htold : s.told k l = added :: rest.filterMap (·.notice l.playerId) := by
          unfold told
          rw [htasks, List.filterMap_cons_some hnotice]
        exact .single (.takes (s.see k l) htold)
  · have hlisted : ((s.modify p (·.dequeue)).modify p f).listed k l = s.listed k l := by
      rw [← hlisted₁]
      unfold listed
      rw [friendListOf_modify_of_ne (Ne.symm hp)]
    rw [hlisted, if_neg (Ne.symm hp)]
    exact .refl

theorem follows_process (h : s.Paired k l) (hne : k.playerId ≠ l.playerId)
    (hstep : FriendAction.step (.process p) s = some s') : Follows oneByOne k l s s' := by
  unfold FriendAction.step at hstep
  dsimp only at hstep
  cases htasks : s.tasksOf p with
  | nil =>
      rw [htasks] at hstep
      cases hstep
  | cons task rest =>
      rw [htasks] at hstep
      cases hstep
      cases task with
      | dbResult result =>
          cases result with
          | reply result => exact follows_handleReply h hne htasks
          | friendList friendList =>
              cases friendList with
              | none => exact .of_eq (h.dequeue htasks) (see_dequeue htasks rfl fun _ => rfl)
              | some friendList =>
                  refine follows_list h htasks rfl (fun _ => rfl) (fun _ => rfl) fun hp => ?_
                  -- the list of the first has been loaded
                  have hloaded := h.loaded _ (hp ▸ htasks ▸ List.mem_cons_self ..)
                  cases hloaded
      | addFriend friendInfo =>
          refine follows_list h htasks rfl (fun _ => rfl) (fun _ => rfl) fun _ session => ?_
          unfold FriendSession.addFriend FriendSessionTask.notice
          dsimp only
          rw [List.countP_append, List.countP_singleton]
          by_cases hl : friendInfo.playerId = l.playerId
          · rw [if_pos hl, if_pos (decide_eq_true hl)]
            rfl
          · rw [if_neg hl, if_neg (by simp [hl])]
            rfl
      | deleteFriend targetPlayerId =>
          refine follows_list h htasks rfl (fun _ => rfl) (fun _ => rfl) fun _ session => ?_
          unfold FriendSession.removeFriend FriendSessionTask.notice
          dsimp only
          by_cases hl : targetPlayerId = l.playerId
          · rw [if_pos hl, hl]
            exact countP_eraseP _ _
          · rw [if_neg hl]
            refine countP_eraseP_of_disjoint (fun friendInfo htarget hother => ?_) _
            exact hl ((of_decide_eq_true htarget).symm.trans (of_decide_eq_true hother))
      | friendRequest requesterInfo =>
          exact .of_eq (h.dequeue htasks) (see_dequeue htasks rfl fun _ => rfl)

/-! ### Others come and go -/

/-- Another player has a new session, or none. -/
theorem follows_replace (h : s.Paired k l) (hk : p ≠ k.playerId) (hl : p ≠ l.playerId)
    (hdb : s'.db = s.db) (hposted : s'.posted = s.posted) (hloads : k ∉ s'.loads)
    (hothers : ∀ q, q ≠ p → s'.sessions q = s.sessions q)
    (hkey : ∀ session, s'.sessions p = some session → session.sessionKey.playerId = p ∧ 0 < p)
    (htasks : s'.tasksOf p = []) : Follows oneByOne k l s s' := by
  have hkeyOf : ∀ q, q ≠ p → s'.keyOf q = s.keyOf q :=
    fun q hq => congrArg (Option.map _) (hothers q hq)
  have htasksOf : ∀ q, q ≠ p → s'.tasksOf q = s.tasksOf q := by
    intro q hq
    unfold tasksOf
    rw [hothers q hq]
  refine .of_eq ?_ ?_
  · refine ⟨hdb ▸ h.sound, ?_, (hkeyOf _ (Ne.symm hk)).trans h.first,
      (hkeyOf _ (Ne.symm hl)).trans h.second, hloads,
      hposted ▸ h.loading, htasksOf _ (Ne.symm hk) ▸ h.loaded, hposted ▸ h.posted, ?_⟩
    · intro playerId key hplayer
      by_cases hp : playerId = p
      · subst hp
        obtain ⟨session, hsession, rfl⟩ := Option.map_eq_some_iff.mp hplayer
        exact hkey session hsession
      · exact h.keys playerId key (hkeyOf playerId hp ▸ hplayer)
    · intro playerId hk' hl'
      by_cases hp : playerId = p
      · rw [hp, htasks]
        rfl
      · rw [htasksOf playerId hp]
        exact h.elsewhere playerId hk' hl'
  · rw [see_of_db hdb]
    unfold see listed told waiting friendListOf
    rw [htasksOf _ (Ne.symm hk), htasksOf _ (Ne.symm hl), hothers _ (Ne.symm hk), hposted]

theorem follows_step (hne : k.playerId ≠ l.playerId) (h : s.Paired k l) {a : FriendAction}
    (hallowed : a.Allowed oneByOne k l s) (hstep : a.step s = some s') :
    Follows oneByOne k l s s' := by
  cases a with
  | execute => exact follows_execute h hallowed hstep
  | load => exact follows_load h hstep
  | deliver => exact follows_deliver h hne hstep
  | process => exact follows_process h hne hstep
  | logIn sessionKey =>
      unfold FriendAction.step at hstep
      dsimp only at hstep
      split at hstep
      next hlogin =>
        cases hstep
        obtain ⟨hnone, hpos⟩ := hlogin
        have hk : sessionKey.playerId ≠ k.playerId := by
          intro heq
          rw [heq, h.first] at hnone
          cases hnone
        have hl : sessionKey.playerId ≠ l.playerId := by
          intro heq
          rw [heq, h.second] at hnone
          cases hnone
        refine follows_replace h hk hl rfl rfl ?_ (fun q hq => Function.update_of_ne hq _ _) ?_ ?_
        · intro hmem
          rcases List.mem_append.mp hmem with hold | hnew
          · exact h.loads hold
          · exact hk (congrArg SessionKey.playerId (List.mem_singleton.mp hnew).symm)
        · intro session hsession
          dsimp only at hsession
          rw [Function.update_self] at hsession
          cases hsession
          exact ⟨rfl, hpos⟩
        · unfold tasksOf
          dsimp only
          rw [Function.update_self]
          rfl
      next => cases hstep
  | logOut playerId =>
      cases hstep
      refine follows_replace h hallowed.1 hallowed.2 rfl rfl h.loads
        (fun q hq => Function.update_of_ne hq _ _) ?_ ?_
      · intro session hsession
        dsimp only at hsession
        rw [Function.update_self] at hsession
        cases hsession
      · unfold tasksOf
        dsimp only
        rw [Function.update_self]
        rfl

/-! ## Loading -/

/-- A loaded list has an entry for each row, if its player is known. -/
theorem countP_friendList {db : FriendDatabase} {a b : Int} (hnodup : db.friends.Nodup)
    (hknown : (db.nickname b).isSome) :
    (db.friendList a).countP (fun friendInfo => friendInfo.playerId = b) =
      (decide ((a, b) ∈ db.friends)).toNat := by
  have hcount : (db.friendList a).countP (fun friendInfo => friendInfo.playerId = b) =
      db.friends.count (a, b) := by
    unfold FriendDatabase.friendList
    generalize db.friends = friends
    induction friends with
    | nil => rfl
    | cons row friends ih =>
        obtain ⟨x, y⟩ := row
        rw [List.count_cons, ← ih, List.filter_cons]
        by_cases hx : x = a
        · rw [if_pos (decide_eq_true hx)]
          cases hnickname : db.nickname y with
          | none =>
              have hy : y ≠ b := by
                intro heq
                rw [← heq, hnickname] at hknown
                cases hknown
              rw [List.filterMap_cons_none (by rw [hnickname]; rfl), if_neg (by simp [hy])]
              rfl
          | some nickname =>
              rw [List.filterMap_cons_some (by rw [hnickname]; rfl), List.countP_cons]
              congr 1
              simp [hx]
        · rw [if_neg (by simp [hx]), if_neg (by simp [hx])]
          rfl
  rw [hcount, hnodup.count]
  split
  next hmem => rw [decide_eq_true hmem, Bool.toNat_true]
  next hmem => rw [decide_eq_false hmem, Bool.toNat_false]

/-- **The list is right when it has been loaded**, if nothing between the two was under way. -/
theorem Loading.settled (h : s.Loading k l)
    (hstep : FriendAction.step (.process k.playerId) s = some s') : s'.Settled k l := by
  obtain ⟨hpaired, hnodup, hknown, ⟨rest, htasks⟩, htold, hwaiting⟩ := h
  unfold FriendAction.step at hstep
  dsimp only at hstep
  rw [htasks] at hstep
  cases hstep
  have htasksOf := tasksOf_modify (s := s.modify k.playerId (·.dequeue)) (p := k.playerId)
    (f := (·.initFriendList (s.db.friendList k.playerId))) fun _ => rfl
  refine ⟨hpaired.modify (fun _ => rfl) (fun _ => rfl), ?_, ?_, ?_⟩
  · have hcount := listed_modify (s := s.modify k.playerId (·.dequeue)) (l := l)
      (f := (·.initFriendList (s.db.friendList k.playerId)))
      (g := fun _ => (decide (s.AreFriends k l)).toNat) hpaired.first
      fun _ => countP_friendList hnodup hknown
    exact hcount.trans rfl
  · have hsame :=
      filterMap_dequeue (g := (·.notice l.playerId)) (q := k.playerId) htasks fun _ => rfl
    exact (congrArg (List.filterMap _) (htasksOf k.playerId)).trans (hsame.trans htold)
  · refine Eq.trans (waiting_congr (s := s) rfl fun q => ?_) hwaiting
    exact (congrArg (List.filterMap _) (htasksOf q)).trans (filterMap_dequeue htasks fun _ => rfl)

/-! ## Runs -/

theorem paired_reachable (hne : k.playerId ≠ l.playerId)
    (h : (friendListSystem oneByOne k l).Reachable s) :
    s.Paired k l := by
  refine invariant (S := friendListSystem oneByOne k l) (I := (·.Paired k l))
    (fun _ ⟨_, hload, hstep⟩ => (hload.settled hstep).paired) ?_ h
  intro s s' hs ⟨a, hallowed, hstep⟩
  exact (follows_step hne hs hallowed hstep).1

/-- **Refinement**: the list follows the table by notices. -/
theorem see_reachable (hne : k.playerId ≠ l.playerId)
    (h : (friendListSystem oneByOne k l).Reachable s) :
    (Notices.system oneByOne).Reachable (s.see k l) := by
  refine @System.Reachable.refines _ _ (friendListSystem oneByOne k l) (Notices.system oneByOne)
    (·.see k l) ?_ ?_ s h
  · rintro s ⟨_, hload, hstep⟩
    have hs := hload.settled hstep
    exact ⟨hs.listed, hs.told, hs.waiting⟩
  · intro s s' hs ⟨a, hallowed, hstep⟩
    exact (follows_step hne (paired_reachable hne hs) hallowed hstep).2

/-- Two players without friends, the first of whom has asked the second, and the tasks of the
first. -/
def twoSessions (tasks : List FriendSessionTask) : FriendServer where
  db := oneRequest
  sessions := fun playerId =>
    if playerId = 1 then some { sessionKey := ⟨0, 1, 1⟩, tasks := tasks }
    else if playerId = 2 then some { sessionKey := ⟨1, 2, 2⟩ } else none

theorem twoSessions_modify {tasks tasks' : List FriendSessionTask}
    (hf : f { sessionKey := ⟨0, 1, 1⟩, tasks := tasks } =
      { sessionKey := ⟨0, 1, 1⟩, tasks := tasks' }) :
    (twoSessions tasks).modify 1 f = twoSessions tasks' := by
  unfold modify twoSessions
  congr 1
  funext q
  by_cases hq : q = 1
  · subst hq
    rw [Function.update_self]
    exact congrArg some hf
  · rw [Function.update_of_ne hq]
    simp only [if_neg hq]

theorem twoSessions_tasksOf (q : Int) : (twoSessions []).tasksOf q = [] := by
  unfold tasksOf twoSessions
  dsimp only
  split
  · rfl
  · split
    · rfl
    · rfl

theorem twoSessions_paired : (twoSessions []).Paired ⟨0, 1, 1⟩ ⟨1, 2, 2⟩ where
  sound := FriendTable.Mutual.nil
  keys := by
    intro playerId key hkey
    obtain ⟨session, hsession, rfl⟩ := Option.map_eq_some_iff.mp hkey
    unfold twoSessions at hsession
    dsimp only at hsession
    split at hsession
    next hfirst =>
      cases hsession
      exact ⟨hfirst.symm, by omega⟩
    next =>
      split at hsession
      next hsecond =>
        cases hsession
        exact ⟨hsecond.symm, by omega⟩
      next => cases hsession
  first := rfl
  second := rfl
  loads := List.not_mem_nil
  loading := fun _ hmem => absurd hmem List.not_mem_nil
  loaded := fun _ hmem => absurd (twoSessions_tasksOf 1 ▸ hmem) List.not_mem_nil
  posted := fun _ hmem => absurd hmem List.not_mem_nil
  elsewhere := fun playerId _ _ => congrArg (List.filterMap _) (twoSessions_tasksOf playerId)

/-- The list of the first is on its way to him. -/
theorem twoSessions_loading :
    (twoSessions [.dbResult (.friendList (some []))]).Loading ⟨0, 1, 1⟩ ⟨1, 2, 2⟩ where
  paired := by
    rw [twoSessions_modify rfl]
    exact twoSessions_paired
  nodup := List.nodup_nil
  known := rfl
  task := ⟨[], rfl⟩
  told := rfl
  waiting := rfl

theorem twoSessions_loaded (oneByOne : Prop) :
    (friendListSystem oneByOne ⟨0, 1, 1⟩ ⟨1, 2, 2⟩).Reachable (twoSessions []) := by
  refine .start ⟨_, twoSessions_loading, congrArg some ?_⟩
  refine Eq.trans (congrArg (modify · 1 (·.initFriendList [])) (twoSessions_modify rfl)) ?_
  exact twoSessions_modify rfl

/-- The second accepts, and both hear of it. -/
def acceptance : List FriendAction :=
  [.execute (.addFriend ⟨1, 2, 2⟩ ⟨2, "second"⟩ 1) [] [], .deliver 0, .process 2, .process 1]

/-- The first takes it back, and hears of that before the acceptance. -/
def overtaken : List FriendAction :=
  [.execute (.addFriend ⟨1, 2, 2⟩ ⟨2, "second"⟩ 1) [] [],
    .execute (.deleteFriend ⟨0, 1, 1⟩ 2) [] [], .deliver 1,
    .process 1, .deliver 0, .process 2, .process 2, .process 1, .process 1]

/-- Where changes are not made one by one, who is no friend may stay in the list. -/
theorem stale_entry : ∃ s, (friendListSystem False ⟨0, 1, 1⟩ ⟨1, 2, 2⟩).Reachable s ∧
    ¬ s.AreFriends ⟨0, 1, 1⟩ ⟨1, 2, 2⟩ ∧ s.told ⟨0, 1, 1⟩ ⟨1, 2, 2⟩ = [] ∧
    s.waiting ⟨0, 1, 1⟩ ⟨1, 2, 2⟩ = [] ∧ s.listed ⟨0, 1, 1⟩ ⟨1, 2, 2⟩ = 1 := by
  have hrun :
      (System.follow (fun a s => decide (a.Allowed False ⟨0, 1, 1⟩ ⟨1, 2, 2⟩ s))
        FriendAction.step overtaken
      (twoSessions [])).any
        (fun s => decide (¬ s.AreFriends ⟨0, 1, 1⟩ ⟨1, 2, 2⟩ ∧ s.told ⟨0, 1, 1⟩ ⟨1, 2, 2⟩ = [] ∧
        s.waiting ⟨0, 1, 1⟩ ⟨1, 2, 2⟩ = [] ∧ s.listed ⟨0, 1, 1⟩ ⟨1, 2, 2⟩ = 1)) = true := by
    decide +kernel
  simp only [Option.any_eq_true, decide_eq_true_eq] at hrun
  obtain ⟨s, hs, hstale⟩ := hrun
  exact ⟨s, (twoSessions_loaded _).follow (fun _ _ h => of_decide_eq_true h) hs, hstale⟩

end FriendServer

end ProjectTetris

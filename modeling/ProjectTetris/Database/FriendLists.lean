import Mathlib.Logic.Function.Basic
import ProjectTetris.Database.FriendResults
import ProjectTetris.Lib.Notices

/-!
# Friend lists

A session that has logged in asks for the list of its player's friends, and keeps it from
then on by what it is told: the completion of a task on the table of friends comes to the
session that has sent the task, and handling it puts one task into the queue of each of the
two players, if he is logged in. Two threads execute the tasks, several carry the
completions, and two more handle them, so that they may pass each other on the way; the
queue of a session keeps its order.

A list is a copy of some rows of the table, and what is on its way to it are notices.
-/

namespace ProjectTetris

open Transition Transaction

/-- The result of a completion. The list is missing when it could not be loaded. -/
inductive FriendResult
  | reply (result : DBResult)
  | friendList (friendList : Option (List FriendInfo))
  deriving DecidableEq, Repr

/-- The tasks of a session that have to do with friends. -/
inductive FriendSessionTask
  | dbResult (result : FriendResult)
  | addFriend (friendInfo : FriendInfo)
  | deleteFriend (targetPlayerId : Int)
  | friendRequest (requesterInfo : FriendInfo)
  deriving DecidableEq, Repr

structure FriendSession where
  sessionKey : SessionKey
  friendList : List FriendInfo := []
  /-- `session_tasks_`. -/
  tasks : List FriendSessionTask := []

namespace FriendSession

variable (session : FriendSession)

def addFriend (newFriend : FriendInfo) : FriendSession :=
  { session with friendList := session.friendList ++ [newFriend] }

def removeFriend (targetId : Int) : FriendSession :=
  { session with
    friendList := session.friendList.eraseP fun friendInfo => friendInfo.playerId = targetId }

def initFriendList (dbFriendList : List FriendInfo) : FriendSession :=
  { session with friendList := dbFriendList }

def enqueue (task : FriendSessionTask) : FriendSession :=
  { session with tasks := session.tasks ++ [task] }

def dequeue : FriendSession := { session with tasks := session.tasks.tail }

end FriendSession

/-- `SQL_GET_FRIEND_LIST`. -/
def FriendDatabase.friendList (db : FriendDatabase) (playerId : Int) : List FriendInfo :=
  (db.friends.filter (·.1 = playerId)).filterMap fun row =>
    (db.nickname row.2).map fun nickname => ⟨row.2, nickname⟩

structure FriendServer where
  db : FriendDatabase
  /-- `active_players_`, with the session of each key. -/
  sessions : Int → Option FriendSession := fun _ => none
  /-- The keys of the `DBLoadFriendListTask`s that have not been executed. -/
  loads : List SessionKey := []
  /-- The completions that no thread has taken. -/
  posted : List (SessionKey × FriendResult) := []

namespace FriendServer

variable (s : FriendServer)

/-- A change of the session of this player. -/
def modify (playerId : Int) (f : FriendSession → FriendSession) : FriendServer :=
  { s with sessions := Function.update s.sessions playerId ((s.sessions playerId).map f) }

def keyOf (playerId : Int) : Option SessionKey := (s.sessions playerId).map (·.sessionKey)

def tasksOf (playerId : Int) : List FriendSessionTask := (s.sessions playerId).elim [] (·.tasks)

def friendListOf (playerId : Int) : List FriendInfo := (s.sessions playerId).elim [] (·.friendList)

def findSessionKeyByID (playerId : Int) : SessionKey := (s.keyOf playerId).getD .empty

/-- `EnqueueSessionTask`: a task for a session that has gone is lost. -/
def enqueueSessionTask (sessionKey : SessionKey) (task : FriendSessionTask) : FriendServer :=
  if s.keyOf sessionKey.playerId = some sessionKey then
    s.modify sessionKey.playerId (·.enqueue task) else s

/-- What a `FriendTask` has come to, as `HandleSessionDBResult` handles it. -/
def handleReply : DBResult → FriendServer
  | .failure _ => s
  | .addFriendRequest requesterInfo receiverInfo =>
      s.enqueueSessionTask (s.findSessionKeyByID receiverInfo.playerId)
        (.friendRequest requesterInfo)
  | .addFriend requesterInfo acceptorInfo =>
      let s := s.enqueueSessionTask (s.findSessionKeyByID requesterInfo.playerId)
        (.addFriend acceptorInfo)
      s.enqueueSessionTask (s.findSessionKeyByID acceptorInfo.playerId) (.addFriend requesterInfo)
  | .deleteFriend requesterId targetId =>
      let s := s.enqueueSessionTask (s.findSessionKeyByID requesterId) (.deleteFriend targetId)
      s.enqueueSessionTask (s.findSessionKeyByID targetId) (.deleteFriend requesterId)

/-- The cases of `ProcessSessionTask`. -/
def processSessionTask (playerId : Int) : FriendSessionTask → FriendServer
  | .dbResult (.reply result) => s.handleReply result
  | .dbResult (.friendList (some friendList)) => s.modify playerId (·.initFriendList friendList)
  | .dbResult (.friendList none) => s
  | .addFriend friendInfo => s.modify playerId (·.addFriend friendInfo)
  | .deleteFriend targetPlayerId => s.modify playerId (·.removeFriend targetPlayerId)
  | .friendRequest _ => s

end FriendServer

inductive FriendAction
  /-- A thread executes the task on its connection, with these outcomes of its calls. -/
  | execute (task : FriendTask) (statementCache : List DBOperationType)
      (outcomes : List CallOutcome)
  /-- One of the lists is loaded, or is not. -/
  | load (i : Nat) (isSuccess : Bool)
  /-- One of the completions comes to its session. -/
  | deliver (i : Nat)
  /-- The session of this player processes its next task. -/
  | process (playerId : Int)
  | logIn (sessionKey : SessionKey)
  | logOut (playerId : Int)

/-- A connection between two tasks. -/
def connectionTo (db : FriendDatabase) (statementCache : List DBOperationType)
    (outcomes : List CallOutcome) :
    DBContext := ⟨db, [], db, true, statementCache, outcomes⟩

/-- A task that throws is queued again, and may be executed at any time. -/
def FriendAction.step : FriendAction → FriendServer → Option FriendServer
  | execute task statementCache outcomes, s =>
      match task.execute (connectionTo s.db statementCache outcomes) with
      | (.ok result, context) =>
          some { s with db := context.stored, posted := s.posted ++ [(task.sessionKey,
            .reply result)] }
      | (.error _, context) => some { s with db := context.stored }
  | load i isSuccess, s =>
      match s.loads[i]? with
      | none => none
      | some sessionKey =>
          let friendList := if isSuccess then some (s.db.friendList sessionKey.playerId) else none
          some { s with
            loads := s.loads.eraseIdx i, posted := s.posted ++
              [(sessionKey, .friendList friendList)] }
  | deliver i, s =>
      match s.posted[i]? with
      | none => none
      | some (sessionKey, result) =>
          some ({ s with posted := s.posted.eraseIdx i }.enqueueSessionTask sessionKey
            (.dbResult result))
  | process playerId, s =>
      match s.tasksOf playerId with
      | [] => none
      | task :: _ => some ((s.modify playerId (·.dequeue)).processSessionTask playerId task)
  | logIn sessionKey, s =>
      if (s.keyOf sessionKey.playerId).isNone ∧ 0 < sessionKey.playerId then
        some { s with
          sessions := Function.update s.sessions sessionKey.playerId
            (some { sessionKey := sessionKey })
          loads := s.loads ++ [sessionKey] }
      else none
  | logOut playerId, s => some { s with sessions := Function.update s.sessions playerId none }

/-! ## What is on its way to a list -/

/-- What a completion reports of the two. -/
def FriendResult.change (a b : Int) : FriendResult → Option Bool
  | reply result => result.change a b
  | friendList _ => none

namespace FriendSessionTask

/-- What a completion reports that is yet to be handled. -/
def change (a b : Int) : FriendSessionTask → Option Bool
  | dbResult result => result.change a b
  | _ => none

/-- What a task says of this friend. -/
def notice (b : Int) : FriendSessionTask → Option Bool
  | addFriend friendInfo => if friendInfo.playerId = b then some true else none
  | deleteFriend targetPlayerId => if targetPlayerId = b then some false else none
  | _ => none

def isLoad : FriendSessionTask → Bool
  | dbResult (.friendList _) => true
  | _ => false

end FriendSessionTask

namespace FriendTask

/-- A player accepts for himself. -/
def IsOwn : FriendTask → Prop
  | addFriend sessionKey acceptorInfo _ => acceptorInfo.playerId = sessionKey.playerId
  | _ => True

instance : DecidablePred IsOwn
  | addFriend sessionKey acceptorInfo _ =>
      inferInstanceAs (Decidable (acceptorInfo.playerId = sessionKey.playerId))
  | deleteFriend .. | addFriendRequest .. => inferInstanceAs (Decidable True)

end FriendTask

namespace FriendServer

variable (s : FriendServer) (k l : SessionKey)

/-- The entries of `l`'s player in the list of `k`'s. -/
def listed : Nat :=
  (s.friendListOf k.playerId).countP fun friendInfo => friendInfo.playerId = l.playerId

/-- The tasks in `k`'s queue that tell it of the other. -/
def told : List Bool := (s.tasksOf k.playerId).filterMap (·.notice l.playerId)

/-- The completions about the two that have not been handled. -/
def waiting : List Bool :=
  s.posted.filterMap (·.2.change k.playerId l.playerId) ++
    ((s.tasksOf k.playerId).filterMap (·.change k.playerId l.playerId) ++
      (s.tasksOf l.playerId).filterMap (·.change k.playerId l.playerId))

def AreFriends : Prop := (k.playerId, l.playerId) ∈ s.db.friends

instance : Decidable (s.AreFriends k l) := inferInstanceAs (Decidable (_ ∈ _))

/-- The list as a copy of the row. -/
def see : Notices.State := ⟨decide (s.AreFriends k l), s.listed k l, s.told k l, s.waiting k l⟩

/-- Nobody has the id of the empty key. -/
def KeysOk : Prop :=
  ∀ playerId key, s.keyOf playerId = some key → key.playerId = playerId ∧ 0 < playerId

/-- The two sessions are there to stay, and the list of the first has been loaded. -/
structure Paired : Prop where
  sound : s.db.Sound
  keys : s.KeysOk
  first : s.keyOf k.playerId = some k
  second : s.keyOf l.playerId = some l
  loads : k ∉ s.loads
  loading : ∀ completion ∈ s.posted, completion.1 = k →
    (FriendSessionTask.dbResult completion.2).isLoad = false
  loaded : ∀ task ∈ s.tasksOf k.playerId, task.isLoad = false
  /-- What is reported of the two is reported to one of them. -/
  posted : ∀ completion ∈ s.posted, completion.2.change k.playerId l.playerId ≠ none →
    completion.1 = k ∨ completion.1 = l
  elsewhere : ∀ playerId, playerId ≠ k.playerId → playerId ≠ l.playerId →
    (s.tasksOf playerId).filterMap (·.change k.playerId l.playerId) = []

/-- The list is right, and no change is under way. -/
structure Settled : Prop where
  paired : s.Paired k l
  listed : s.listed k l = (decide (s.AreFriends k l)).toNat
  told : s.told k l = []
  waiting : s.waiting k l = []

/-- The next task of the first session is its list as the table has it, the row of the other is
joined with a player, and no change between the two is under way. -/
structure Loading : Prop where
  paired : (s.modify k.playerId (·.dequeue)).Paired k l
  nodup : s.db.friends.Nodup
  known : (s.db.nickname l.playerId).isSome
  task : ∃ rest, s.tasksOf k.playerId =
    .dbResult (.friendList (some (s.db.friendList k.playerId))) :: rest
  told : s.told k l = []
  waiting : s.waiting k l = []

end FriendServer

/-- The two stay logged in, and change their friendship from these sessions; if one by one, no
sooner than the change before has been handled. -/
def FriendAction.Allowed (oneByOne : Prop) (k l : SessionKey) : FriendAction → FriendServer → Prop
  | execute task _ _, s => task.IsOwn ∧ (task.Concerns k.playerId l.playerId →
      (task.sessionKey = k ∨ task.sessionKey = l) ∧ (oneByOne → s.waiting k l = []))
  | logOut playerId, _ => playerId ≠ k.playerId ∧ playerId ≠ l.playerId
  | load .., _ | deliver _, _ | process _, _ | logIn _, _ => True

instance (oneByOne : Prop) [Decidable oneByOne] (k l : SessionKey) (s : FriendServer) :
    DecidablePred fun a : FriendAction => a.Allowed oneByOne k l s
  | .execute task _ _ =>
      inferInstanceAs (Decidable (task.IsOwn ∧ (task.Concerns k.playerId l.playerId →
      (task.sessionKey = k ∨ task.sessionKey = l) ∧ (oneByOne → s.waiting k l = []))))
  | .logOut playerId => inferInstanceAs (Decidable (playerId ≠ k.playerId ∧ playerId ≠ l.playerId))
  | .load .. | .deliver _ | .process _ | .logIn _ => inferInstanceAs (Decidable True)

/-- Every run from where the first session has taken the list that was loaded for it. -/
def friendListSystem (oneByOne : Prop) (k l : SessionKey) : System FriendServer :=
  .taking (fun s' => ∃ s, s.Loading k l ∧ FriendAction.step (.process k.playerId) s = some s')
    FriendAction.step (FriendAction.Allowed oneByOne k l)

end ProjectTetris

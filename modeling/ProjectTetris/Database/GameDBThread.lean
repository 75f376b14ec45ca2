import Mathlib.Data.List.Basic
import ProjectTetris.Database.FriendTable
import ProjectTetris.Lib.Transaction
import ProjectTetris.Lib.Transition
import ProjectTetris.Rooms.Player

/-!
# The friend tasks of the database thread

`GameDBThread.cpp`, and what `DBThread::Run` does with a task. Adding a friend takes three
statements and asking for a friendship two, in one transaction each; deleting a friend is
one statement. Every call on the connection may throw or bring back a null pointer.

A task that throws is put back into the queue and tried again, so what matters is how it
leaves the connection.
-/

namespace ProjectTetris

open Transaction Transaction.Attempt Transaction.Context Transition

structure FriendInfo where
  playerId : Int
  nickname : String
  deriving DecidableEq, Repr

/-- The statements the friend tasks keep prepared. -/
inductive DBOperationType
  | addFriend | deleteFriend | addFriendRequest | deleteFriendRequest | getFriendInfo
  deriving DecidableEq, Repr

/-- The tables the friend tasks use. -/
structure FriendDatabase where
  friends : FriendTable
  /-- The rows `(from_player_id, to_player_id)` of `friend_requests`. -/
  friendRequests : List (Int × Int)
  /-- `player_id` and `nickname` of `players`. -/
  players : List (Int × String)
  deriving DecidableEq, Repr

/-- The `result_data` of the posted completions. -/
inductive DBResult
  | failure (operationType : DBOperationType)
  | addFriend (requesterInfo acceptorInfo : FriendInfo)
  | deleteFriend (requesterId targetId : Int)
  | addFriendRequest (requesterInfo receiverInfo : FriendInfo)
  deriving DecidableEq, Repr

def DBResult.isSuccess : DBResult → Bool
  | failure _ => false
  | _ => true

namespace FriendDatabase

/-! ## Statements -/

/-- `SQL_ADD_FRIEND`. -/
def addFriend (acceptorId requesterId : Int) (db : FriendDatabase) : FriendDatabase × Nat :=
  let friends := db.friends.addRows acceptorId requesterId
  ({ db with friends := friends }, friends.length - db.friends.length)

/-- `SQL_DELETE_FRIEND`. -/
def deleteFriend (requesterId targetId : Int) (db : FriendDatabase) : FriendDatabase × Nat :=
  let friends := db.friends.deleteRows requesterId targetId
  ({ db with friends := friends }, db.friends.length - friends.length)

/-- `SQL_DELETE_FRIEND_REQUEST`. -/
def deleteFriendRequest (fromId toId : Int) (db : FriendDatabase) : FriendDatabase × Nat :=
  let friendRequests := db.friendRequests.filter (· ≠ (fromId, toId))
  ({ db with friendRequests := friendRequests }, db.friendRequests.length - friendRequests.length)

/-- `SQL_ADD_FRIEND_REQUEST`. A row the keys of the table do not allow makes it throw. -/
def addFriendRequest (fromId toId : Int) (db : FriendDatabase) : FriendDatabase × Nat :=
  ({ db with friendRequests := db.friendRequests ++ [(fromId, toId)] }, 1)

/-- `SQL_GET_FRIEND_INFO`. -/
def nickname (playerId : Int) (db : FriendDatabase) : Option String :=
  (db.players.find? (·.1 = playerId)).map (·.2)

end FriendDatabase

/-! ## Tasks -/

/-- `connection_context_`. -/
abbrev DBContext := Context FriendDatabase DBOperationType

/-- A statement of the task: prepared, its parameters set, and executed; `none` if it could not be
prepared. -/
def prepareAndUpdate (operationType : DBOperationType)
    (statement : FriendDatabase → FriendDatabase × Nat) :
    Attempt DBContext (Option Nat) := do
  if ← getStatement operationType then
    let _ ← call
    let affected ← executeUpdate statement
    pure (some affected)
  else pure none

/-- `SQL_GET_FRIEND_INFO`, prepared and executed; `none` also if there is no such player. -/
def prepareAndFetchNickname (playerId : Int) : Attempt DBContext (Option String) := do
  if ← getStatement .getFriendInfo then
    let _ ← call
    fetchFirst (FriendDatabase.nickname playerId)
  else pure none

/-- The `try` of `ExecuteAddFriend`; `none` for a jump to `POST_RESULT`, or falling through to it,
with the failure. -/
def addFriendBody (acceptorInfo : FriendInfo) (requesterId : Int) :
    Attempt DBContext (Option DBResult) := do
  match ← prepareAndUpdate .addFriend (FriendDatabase.addFriend acceptorInfo.playerId requesterId)
    with
  | none => pure none
  | some afAffected =>
      if afAffected ≥ 2 then
        match ← prepareAndUpdate .deleteFriendRequest
          (FriendDatabase.deleteFriendRequest requesterId acceptorInfo.playerId) with
        | none => pure none
        | some dfrAffected =>
            if dfrAffected > 0 then
              match ← prepareAndFetchNickname requesterId with
              | none => pure none
              | some nickname =>
                  commit
                  pure (some (.addFriend ⟨requesterId, nickname⟩ acceptorInfo))
            else pure none
      else pure none

/-- `ExecuteAddFriend`: the result it posts, or a throw. -/
def executeAddFriend (acceptorInfo : FriendInfo) (requesterId : Int) :
    Attempt DBContext DBResult := do
  let result ← transaction (addFriendBody acceptorInfo requesterId)
  pure (result.getD (.failure .addFriend))

/-- The `try` of `ExecuteAddFriendRequest`. -/
def addFriendRequestBody (requesterInfo : FriendInfo) (receiverId : Int) :
    Attempt DBContext (Option DBResult) := do
  match ← prepareAndUpdate .addFriendRequest
    (FriendDatabase.addFriendRequest requesterInfo.playerId receiverId) with
  | none => pure none
  | some afrAffected =>
      if afrAffected ≥ 1 then
        match ← prepareAndFetchNickname receiverId with
        | none => pure none
        | some nickname => pure (some (.addFriendRequest requesterInfo ⟨receiverId, nickname⟩))
      else pure none

/-- `ExecuteAddFriendRequest`. -/
def executeAddFriendRequest (requesterInfo : FriendInfo) (receiverId : Int) :
    Attempt DBContext DBResult := do
  let result ← transaction (addFriendRequestBody requesterInfo receiverId)
  pure (result.getD (.failure .addFriendRequest))

/-- `ExecuteDeleteFriend`: one statement, and no transaction. -/
def executeDeleteFriend (sessionKey : SessionKey) (targetId : Int) :
    Attempt DBContext DBResult := do
  let requesterId := sessionKey.playerId
  match ← prepareAndUpdate .deleteFriend (FriendDatabase.deleteFriend requesterId targetId) with
  | none => pure (.failure .deleteFriend)
  | some affected =>
      if affected ≥ 2 then pure (.deleteFriend requesterId targetId)
      else pure (.failure .deleteFriend)

inductive FriendTask
  | addFriend (sessionKey : SessionKey) (acceptorInfo : FriendInfo) (requesterId : Int)
  | deleteFriend (sessionKey : SessionKey) (targetId : Int)
  | addFriendRequest (sessionKey : SessionKey) (requesterInfo : FriendInfo) (receiverId : Int)
  deriving DecidableEq, Repr

namespace FriendTask

/-- Where the completion of the task is posted. -/
def sessionKey : FriendTask → SessionKey
  | addFriend sessionKey .. | deleteFriend sessionKey _ | addFriendRequest sessionKey .. =>
      sessionKey

/-- `ProcessTask`. -/
def execute : FriendTask → Attempt DBContext DBResult
  | addFriend _ acceptorInfo requesterId => executeAddFriend acceptorInfo requesterId
  | deleteFriend sessionKey targetId => executeDeleteFriend sessionKey targetId
  | addFriendRequest _ requesterInfo receiverId => executeAddFriendRequest requesterInfo receiverId

end FriendTask

/-! ## The thread -/

structure GameDBThread where
  context : DBContext
  taskQueue : List FriendTask := []
  isRunning : Bool := true
  /-- The completions, in the order they were posted. -/
  posted : List (SessionKey × DBResult) := []

inductive GameDBAction
  | enqueue (task : FriendTask)
  | close
  /-- The next task is executed, with these outcomes of its calls. -/
  | run (outcomes : List CallOutcome)

/-- `TryEnqueue`, `Close`, and a turn of the loop of `DBThread::Run`. -/
def GameDBAction.step : GameDBAction → GameDBThread → Option GameDBThread
  | enqueue task, s =>
      some (if s.isRunning then { s with taskQueue := s.taskQueue ++ [task] } else s)
  | close, s => some { s with isRunning := false }
  | run outcomes, s =>
      match s.taskQueue with
      | [] => none
      | task :: rest =>
          match task.execute { s.context with outcomes := outcomes } with
          | (.ok result, context) =>
              some { s with
                context := context, taskQueue := rest,
                  posted := s.posted ++ [(task.sessionKey, result)] }
          | (.error _, context) =>
              some { s with
                context := context, taskQueue := if s.isRunning then rest ++ [task] else rest }

/-- The thread after `Connect`, on a database with these tables. -/
def GameDBThread.connected (db : FriendDatabase) : GameDBThread :=
  { context := ⟨db, [], db, true, [], []⟩ }

/-- Every run of the thread, whatever comes of its calls. -/
def friendSystem (db : FriendDatabase) : System GameDBThread :=
  .taking (· = .connected db) GameDBAction.step fun _ _ => True

end ProjectTetris

import Mathlib.Logic.Function.Basic
import ProjectTetris.Lib.Transition
import ProjectTetris.Rooms.TetrisRoom

/-!
# Creating and deleting rooms

`GameThreadManager` as the game threads run it: any number of creations and deletions at
once. A room is kept in three places, each with a lock of its own: the array of rooms,
the registry of their indices, and the list of active keys. Every access to one of them
is a step, and so is every check of the session a room is created for.
-/

namespace ProjectTetris

open Transition

abbrev RoomKey := Nat

def maxRoomCount : Nat := 5000

def serverError : Int := 1

/-! ## The shared tables -/

/-- `IndexRegistry`: a map from keys to indices. -/
abbrev IndexRegistry (Key : Type) := Key → Option Nat

namespace IndexRegistry

variable {Key : Type} [DecidableEq Key]

/-- `Register`; an entry that exists stays. -/
def register (registry : IndexRegistry Key) (key : Key) (index : Nat) : IndexRegistry Key :=
  if (registry key).isSome then registry else Function.update registry key (some index)

/-- `Unregister`; an entry with another index stays. -/
def unregister (registry : IndexRegistry Key) (key : Key) (index : Nat) : IndexRegistry Key :=
  if registry key = some index then Function.update registry key none else registry

end IndexRegistry

/-- `ActiveList`. -/
abbrev ActiveList (α : Type) := List α

namespace ActiveList

variable {α : Type} [DecidableEq α]

def add (values : ActiveList α) (value : α) : ActiveList α :=
  if value ∈ values then values else values ++ [value]

def remove (values : ActiveList α) (value : α) : ActiveList α := values.erase value

end ActiveList

/-- A room that is or was in the array: the object, with what never changes in it. -/
structure RoomObject where
  id : Nat
  roomKey : RoomKey
  roomIndex : Nat
  deriving DecidableEq, Repr

/-- How far a room is. A room is played in once it is initialised, and posts its deletion once. -/
inductive RoomStage where
  /-- A thread is creating or deleting it. -/
  | held (thread : Nat)
  | open
  | posted
  deriving DecidableEq

structure RoomTables where
  rooms : Nat → Option RoomObject
  roomIndexRegistry : IndexRegistry RoomKey
  activeRoomKeys : ActiveList RoomKey
  /-- The `DELETE_ROOM` tasks, by index. -/
  deleteTasks : List Nat
  stages : RoomObject → RoomStage
  nextId : Nat

namespace RoomTables

/-- `TryAddRoom`, of an index that is free. -/
def addRoom (s : RoomTables) (room : RoomObject) (t : Nat) : RoomTables :=
  { s with
    rooms := Function.update s.rooms room.roomIndex (some room)
    stages := Function.update s.stages room (.held t)
    nextId := s.nextId + 1 }

def tryRemoveRoom (s : RoomTables) (index : Nat) (room : RoomObject) : RoomTables :=
  if s.rooms index = some room then { s with rooms := Function.update s.rooms index none } else s

def register (s : RoomTables) (roomKey : RoomKey) (index : Nat) : RoomTables :=
  { s with roomIndexRegistry := s.roomIndexRegistry.register roomKey index }

def unregister (s : RoomTables) (roomKey : RoomKey) (index : Nat) : RoomTables :=
  { s with roomIndexRegistry := s.roomIndexRegistry.unregister roomKey index }

def addActive (s : RoomTables) (roomKey : RoomKey) : RoomTables :=
  { s with activeRoomKeys := s.activeRoomKeys.add roomKey }

def removeActive (s : RoomTables) (roomKey : RoomKey) : RoomTables :=
  { s with activeRoomKeys := s.activeRoomKeys.remove roomKey }

/-- The room's stage, and the `DELETE_ROOM` tasks there are then. -/
def setStage (s : RoomTables) (room : RoomObject) (stage : RoomStage)
    (deleteTasks : List Nat) : RoomTables :=
  { s with
    stages := Function.update s.stages room stage
    deleteTasks := deleteTasks }

/-- `FindRoomByKey`. -/
def findRoomByKey (s : RoomTables) (roomKey : RoomKey) : Option RoomObject :=
  ((s.roomIndexRegistry roomKey).bind s.rooms).filter (·.roomKey = roomKey)

end RoomTables

/-! ## Threads -/

/-- The packet a creation was asked for with; a private room has a password. -/
structure CreateRequest where
  maxPlayerCount : Int
  roomName : String
  roomPassword : Option String

/-- The checks of `CreatePublicRoom` and `CreatePrivateRoom`; lengths are in bytes. -/
def CreateRequest.isValid (request : CreateRequest) : Bool :=
  (request.maxPlayerCount = 1 || request.maxPlayerCount = 2 || request.maxPlayerCount = 5) &&
    4 ≤ request.roomName.utf8ByteSize && request.roomPassword.all (4 ≤ ·.utf8ByteSize)

/-- Where a thread is in the creation of a room; each is about to take the step it names. -/
inductive CreateStep where
  /-- The session's tasks are this thread's to process; is it still there, and in the lobby? -/
  | check
  | generateKey
  /-- `GetRoomByIndex` of this index. -/
  | scan (roomKey : RoomKey) (index : Nat)
  /-- `TryAddRoom`, the index having been seen free. -/
  | addRoom (roomKey : RoomKey) (index : Nat)
  | register (room : RoomObject)
  | addActive (room : RoomObject)
  /-- `AddHostSession`: the session's life, and then its mode. -/
  | checkLife (room : RoomObject)
  | setRoomMode (room : RoomObject)
  | removeActive (room : RoomObject)
  | unregister (room : RoomObject) (result : Int)
  | removeRoom (room : RoomObject) (result : Int)
  /-- The creation has failed with this result; the room it had added, if any. -/
  | failed (room : Option RoomObject) (result : Int)
  /-- It has succeeded; `CompleteRoomInitialization`. -/
  | completeInit (room : RoomObject)

inductive DeleteStep where
  | readRoom
  | removeActive (room : RoomObject)
  | unregister (room : RoomObject)
  | removeRoom (room : RoomObject)

/-- The `RoomLifecycleTask` a game thread is processing. -/
inductive GameCall where
  | idle
  | create (key : SessionKey) (request : CreateRequest) (step : CreateStep)
  | delete (roomIndex : Nat) (step : DeleteStep)

/-- A session, as far as creations read and change it. -/
structure SessionEntry where
  lifeState : LifeState
  modeState : ModeState
  roomIndex : Int
  /-- `is_processing_tasks_` is held by a creation. -/
  creating : Bool

structure RoomManager where
  tables : RoomTables
  sessions : SessionKey → SessionEntry
  threads : Nat → GameCall

namespace RoomManager

def setThread (s : RoomManager) (t : Nat) (call : GameCall) : RoomManager :=
  { s with threads := Function.update s.threads t call }

def setTables (s : RoomManager) (tables : RoomTables) : RoomManager := { s with tables := tables }

def setSession (s : RoomManager) (key : SessionKey) (entry : SessionEntry) : RoomManager :=
  { s with sessions := Function.update s.sessions key entry }

/-- The thread is done with the session, and idle. -/
def release (s : RoomManager) (t : Nat) (key : SessionKey) : RoomManager :=
  (s.setThread t .idle).setSession key { s.sessions key with creating := false }

/-- One step of one thread, or of the sessions and rooms around them. -/
inductive Next : RoomManager → RoomManager → Prop
  -- the sessions: a life can end at any time, while modes are changed by whoever processes the
  -- tasks
  | life (s : RoomManager) (key : SessionKey) (lifeState : LifeState) :
      Next s (s.setSession key { s.sessions key with lifeState := lifeState })
  | mode (s : RoomManager) (key : SessionKey) (modeState : ModeState) (roomIndex : Int)
      (hfree : (s.sessions key).creating = false) :
      Next s
      (s.setSession key { s.sessions key with modeState := modeState, roomIndex := roomIndex })
  -- `ProcessTask` of a creation
  | begin (s : RoomManager) {t : Nat} (key : SessionKey) (request : CreateRequest)
      (h : s.threads t = .idle)
      (hfree : (s.sessions key).creating = false) :
      Next s ((s.setThread t (.create key request .check)).setSession key
        { s.sessions key with creating := true })
  | checkFailed (s : RoomManager) {t : Nat} {key : SessionKey} {request : CreateRequest}
      (h : s.threads t = .create key request .check)
      (hno : (s.sessions key).lifeState ≠ .active ∨ (s.sessions key).modeState ≠ .lobby) :
      Next s (s.release t key)
  | rejected (s : RoomManager) {t : Nat} {key : SessionKey} {request : CreateRequest}
      (h : s.threads t = .create key request .check) (hlife : (s.sessions key).lifeState = .active)
      (hmode : (s.sessions key).modeState = .lobby) (hno : request.isValid = false) :
      Next s (s.setThread t (.create key request (.failed none invalidRequest)))
  | checked (s : RoomManager) {t : Nat} {key : SessionKey} {request : CreateRequest}
      (h : s.threads t = .create key request .check) (hlife : (s.sessions key).lifeState = .active)
      (hmode : (s.sessions key).modeState = .lobby) (hvalid : request.isValid = true) :
      Next s (s.setThread t (.create key request .generateKey))
  -- a key is drawn until it is not registered; drawing can fail
  | notGenerated (s : RoomManager) {t : Nat} {key : SessionKey} {request : CreateRequest}
      (h : s.threads t = .create key request .generateKey) :
      Next s (s.setThread t (.create key request (.failed none serverError)))
  | generated (s : RoomManager) {t : Nat} {key : SessionKey} {request : CreateRequest}
      (h : s.threads t = .create key request .generateKey) (roomKey : RoomKey) (hne : roomKey ≠ 0)
      (hnew : s.tables.roomIndexRegistry roomKey = none) :
      Next s (s.setThread t (.create key request (.scan roomKey 0)))
  -- the loop over the array
  | noneFree (s : RoomManager) {t : Nat} {key : SessionKey} {request : CreateRequest}
      {roomKey : RoomKey}
      (h : s.threads t = .create key request (.scan roomKey maxRoomCount)) :
      Next s (s.setThread t (.create key request (.failed none serverError)))
  | taken (s : RoomManager) {t : Nat} {key : SessionKey} {request : CreateRequest}
      {roomKey : RoomKey} {i : Nat}
      (h : s.threads t = .create key request (.scan roomKey i)) (hi : i < maxRoomCount)
      (htaken : (s.tables.rooms i).isSome) :
      Next s (s.setThread t (.create key request (.scan roomKey (i + 1))))
  | free (s : RoomManager) {t : Nat} {key : SessionKey} {request : CreateRequest}
      {roomKey : RoomKey} {i : Nat}
      (h : s.threads t = .create key request (.scan roomKey i)) (hi : i < maxRoomCount)
      (hfree : s.tables.rooms i = none) :
      Next s (s.setThread t (.create key request (.addRoom roomKey i)))
  | lost (s : RoomManager) {t : Nat} {key : SessionKey} {request : CreateRequest}
      {roomKey : RoomKey} {i : Nat}
      (h : s.threads t = .create key request (.addRoom roomKey i))
      (htaken : (s.tables.rooms i).isSome) :
      Next s (s.setThread t (.create key request (.scan roomKey (i + 1))))
  | added (s : RoomManager) {t : Nat} {key : SessionKey} {request : CreateRequest}
      {roomKey : RoomKey} {i : Nat}
      (h : s.threads t = .create key request (.addRoom roomKey i))
      (hfree : s.tables.rooms i = none) :
      Next s ((s.setTables (s.tables.addRoom ⟨s.tables.nextId, roomKey, i⟩ t)).setThread t
        (.create key request (.register ⟨s.tables.nextId, roomKey, i⟩)))
  | registered (s : RoomManager) {t : Nat} {key : SessionKey} {request : CreateRequest}
      {room : RoomObject}
      (h : s.threads t = .create key request (.register room))
      (hnew : s.tables.roomIndexRegistry room.roomKey = none) :
      Next s ((s.setTables (s.tables.register room.roomKey room.roomIndex)).setThread t
        (.create key request (.addActive room)))
  | notRegistered (s : RoomManager) {t : Nat} {key : SessionKey} {request : CreateRequest}
      {room : RoomObject}
      (h : s.threads t = .create key request (.register room))
      (hold : (s.tables.roomIndexRegistry room.roomKey).isSome) :
      Next s (s.setThread t (.create key request (.unregister room serverError)))
  | activated (s : RoomManager) {t : Nat} {key : SessionKey} {request : CreateRequest}
      {room : RoomObject}
      (h : s.threads t = .create key request (.addActive room))
      (hnew : room.roomKey ∉ s.tables.activeRoomKeys) :
      Next s ((s.setTables (s.tables.addActive room.roomKey)).setThread t
        (.create key request (.checkLife room)))
  | notActivated (s : RoomManager) {t : Nat} {key : SessionKey} {request : CreateRequest}
      {room : RoomObject}
      (h : s.threads t = .create key request (.addActive room))
      (hold : room.roomKey ∈ s.tables.activeRoomKeys) :
      Next s (s.setThread t (.create key request (.unregister room serverError)))
  -- `AddHostSession`
  | dead (s : RoomManager) {t : Nat} {key : SessionKey} {request : CreateRequest}
      {room : RoomObject}
      (h : s.threads t = .create key request (.checkLife room))
      (hlife : (s.sessions key).lifeState ≠ .active) :
      Next s (s.setThread t (.create key request (.removeActive room)))
  | alive (s : RoomManager) {t : Nat} {key : SessionKey} {request : CreateRequest}
      {room : RoomObject}
      (h : s.threads t = .create key request (.checkLife room))
      (hlife : (s.sessions key).lifeState = .active) :
      Next s (s.setThread t (.create key request (.setRoomMode room)))
  | modeSet (s : RoomManager) {t : Nat} {key : SessionKey} {request : CreateRequest}
      {room : RoomObject}
      (h : s.threads t = .create key request (.setRoomMode room))
      (hlife : (s.sessions key).lifeState = .active)
      (hmode : (s.sessions key).modeState = .lobby) :
      Next s ((s.setThread t (.create key request (.completeInit room))).setSession key
        { s.sessions key with modeState := .room, roomIndex := room.roomIndex })
  | modeNotSet (s : RoomManager) {t : Nat} {key : SessionKey} {request : CreateRequest}
      {room : RoomObject}
      (h : s.threads t = .create key request (.setRoomMode room))
      (hno : (s.sessions key).lifeState ≠ .active ∨ (s.sessions key).modeState ≠ .lobby) :
      Next s (s.setThread t (.create key request (.removeActive room)))
  -- the way back
  | activeRemoved (s : RoomManager) {t : Nat} {key : SessionKey} {request : CreateRequest}
      {room : RoomObject}
      (h : s.threads t = .create key request (.removeActive room)) :
      Next s ((s.setTables (s.tables.removeActive room.roomKey)).setThread t
        (.create key request (.unregister room invalidRequest)))
  | unregistered (s : RoomManager) {t : Nat} {key : SessionKey} {request : CreateRequest}
      {room : RoomObject}
      {result : Int} (h : s.threads t = .create key request (.unregister room result)) :
      Next s ((s.setTables (s.tables.unregister room.roomKey room.roomIndex)).setThread t
        (.create key request (.removeRoom room result)))
  | roomRemoved (s : RoomManager) {t : Nat} {key : SessionKey} {request : CreateRequest}
      {room : RoomObject}
      {result : Int} (h : s.threads t = .create key request (.removeRoom room result)) :
      Next s ((s.setTables (s.tables.tryRemoveRoom room.roomIndex room)).setThread t
        (.create key request (.failed (some room) result)))
  | failed (s : RoomManager) {t : Nat} {key : SessionKey} {request : CreateRequest}
      {room : Option RoomObject}
      {result : Int} (h : s.threads t = .create key request (.failed room result)) :
      Next s (s.release t key)
  | initialized (s : RoomManager) {t : Nat} {key : SessionKey} {request : CreateRequest}
      {room : RoomObject}
      (h : s.threads t = .create key request (.completeInit room)) :
      Next s ((s.setTables (s.tables.setStage room .open s.tables.deleteTasks)).release t key)
  -- a room posts its deletion, and a thread deletes it
  | post (s : RoomManager) {i : Nat} {room : RoomObject} (h : s.tables.rooms i = some room)
      (hopen : s.tables.stages room = .open) :
      Next s (s.setTables (s.tables.setStage room .posted (s.tables.deleteTasks ++ [i])))
  | deleteBegun (s : RoomManager) {t : Nat} {i : Nat} {rest : List Nat} {room : RoomObject}
      (h : s.threads t = .idle) (htask : s.tables.deleteTasks = i :: rest)
      (hroom : s.tables.rooms i = some room) :
      Next s ((s.setTables (s.tables.setStage room (.held t) rest)).setThread t
        (.delete i .readRoom))
  | deleteNone (s : RoomManager) {t : Nat} {i : Nat} {rest : List Nat} (h : s.threads t = .idle)
      (htask : s.tables.deleteTasks = i :: rest) (hroom : s.tables.rooms i = none) :
      Next s ((s.setTables { s.tables with deleteTasks := rest }).setThread t
        (.delete i .readRoom))
  | deleteRead (s : RoomManager) {t : Nat} {i : Nat} {room : RoomObject}
      (h : s.threads t = .delete i .readRoom)
      (hroom : s.tables.rooms i = some room) :
      Next s (s.setThread t (.delete i (.removeActive room)))
  | deleteGone (s : RoomManager) {t : Nat} {i : Nat} (h : s.threads t = .delete i .readRoom)
      (hroom : s.tables.rooms i = none) : Next s (s.setThread t .idle)
  | deleteActive (s : RoomManager) {t : Nat} {i : Nat} {room : RoomObject}
      (h : s.threads t = .delete i (.removeActive room)) :
      Next s ((s.setTables (s.tables.removeActive room.roomKey)).setThread t
        (.delete i (.unregister room)))
  | deleteIndex (s : RoomManager) {t : Nat} {i : Nat} {room : RoomObject}
      (h : s.threads t = .delete i (.unregister room)) :
      Next s ((s.setTables (s.tables.unregister room.roomKey i)).setThread t
        (.delete i (.removeRoom room)))
  | deleteRoom (s : RoomManager) {t : Nat} {i : Nat} {room : RoomObject}
      (h : s.threads t = .delete i (.removeRoom room)) :
      Next s ((s.setTables (s.tables.tryRemoveRoom i room)).setThread t .idle)

/-- No room yet, and every thread idle. -/
def Initial (s : RoomManager) : Prop :=
  (∀ i, s.tables.rooms i = none) ∧ (∀ key, s.tables.roomIndexRegistry key = none) ∧
    s.tables.activeRoomKeys = [] ∧ s.tables.deleteTasks = [] ∧ (∀ t, s.threads t = .idle) ∧
    ∀ key, (s.sessions key).creating = false

def system : System RoomManager := ⟨Initial, Next⟩

end RoomManager

end ProjectTetris

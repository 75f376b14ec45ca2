import Mathlib.Data.List.Dedup
import Mathlib.Data.List.Nodup
import Mathlib.Logic.Function.Basic
import ProjectTetris.Lib.Transition
import ProjectTetris.Rooms.MultiRoom
import ProjectTetris.Rooms.Seats

/-!
# Wins and losses

A game that ends sends one task to the database, which adds a win or a loss to the row of
every player; each of them gets a completion, on which his session adds the same to the
record that it has read at its login. A task whose statement throws is put back into the
queue, also when the rows have been written. A player may be gone when his completion
comes, and back as another session, whose record was read before the rows were written.
-/

namespace ProjectTetris

open Transition

/-- `win` and `lose`. -/
structure MatchRecord where
  win : Int
  lose : Int
  deriving DecidableEq, Repr

namespace MatchRecord

/-- The games of one kind. -/
def of (r : MatchRecord) (isWinner : Bool) : Int := if isWinner then r.win else r.lose

/-- `UpdateMatchRecord`, and what the statement does to a row. -/
def update (r : MatchRecord) (isWinner : Bool) : MatchRecord :=
  if isWinner then { r with win := r.win + 1 } else { r with lose := r.lose + 1 }

theorem of_update (r : MatchRecord) (isWinner kind : Bool) :
    (r.update isWinner).of kind = r.of kind + if isWinner = kind then 1 else 0 := by
  cases isWinner <;> cases kind <;> simp [of, update]

theorem of_le_update (r : MatchRecord) (isWinner kind : Bool) :
    r.of kind ≤ (r.update isWinner).of kind := by
  rw [of_update]
  split <;> omega

end MatchRecord

/-- `MAX_MATCH_RESULT_PLAYERS`. -/
def maxMatchResultPlayers : Nat := 5

/-- `DBUpdateMatchResultTask`. The array is filled up with empty keys. -/
structure MatchTask where
  winnerKey : SessionKey
  playerKeys : List SessionKey

namespace MatchTask

variable (task : MatchTask)

def isWinner (playerId : Int) : Bool := playerId = task.winnerKey.playerId

/-- The ids the statement looks for. -/
def playerIds : List Int :=
  (task.playerKeys ++ List.replicate (maxMatchResultPlayers - task.playerKeys.length)
    SessionKey.empty).map (·.playerId)

/-- What `PostMatchResultCompletions` posts, of a success: whose the result is, and whether he has
won. -/
def completions : List (SessionKey × Bool) :=
  task.playerKeys.map fun key => (key, task.isWinner key.playerId)

end MatchTask

/-- A session as far as its record goes. -/
inductive RecordSession where
  | login
  | active (playerId : Int) (record : MatchRecord)
  /-- It is being disconnected or is gone; who was logged in with it. -/
  | closed (playerId : Option Int)

namespace RecordSession

def playerId? : RecordSession → Option Int
  | .login => none
  | .active playerId _ => some playerId
  | .closed playerId => playerId

end RecordSession

/-- A record that has been read for a login. -/
structure LoginRead where
  sessionId : Nat
  playerId : Int
  record : MatchRecord

structure MatchRecords where
  /-- The rows of `players`. -/
  players : Int → Option MatchRecord
  sessions : Nat → RecordSession := fun _ => .login
  /-- The tasks that are queued at the database threads, which may come to any of them next. -/
  tasks : List MatchTask := []
  /-- The completions that no session has processed, in the order in which they were posted. -/
  completions : List (SessionKey × Bool) := []
  reads : List LoginRead := []

namespace MatchRecords

variable (s : MatchRecords)

/-- The rows, after the statement of the task. -/
def written (task : MatchTask) : Int → Option MatchRecord := fun playerId =>
  if playerId ∈ task.playerIds then (s.players playerId).map (·.update (task.isWinner playerId))
  else s.players playerId

/-- `executeUpdate()`. -/
def affected (task : MatchTask) : Nat :=
  (task.playerIds.dedup.filter fun playerId => (s.players playerId).isSome).length

/-- `ExecuteUpdateMatchResult`. A session does nothing with the completions of a failure. -/
def executeUpdateMatchResult (task : MatchTask) : MatchRecords :=
  { s with
    players := s.written task
    completions := if s.affected task = task.playerKeys.length then s.completions ++
      task.completions else s.completions }

def setSession (sessionId : Nat) (session : RecordSession) : MatchRecords :=
  { s with sessions := Function.update s.sessions sessionId session }

/-- `HandleUpdateMatchResultDBResult`, if the session with the key is still there. -/
def handleUpdateMatchResult (completion : SessionKey × Bool) : MatchRecords :=
  match s.sessions completion.1.sessionId with
  | .active playerId record =>
      s.setSession completion.1.sessionId (.active playerId (record.update completion.2))
  | _ => s

/-- The completions of one kind that the session has yet to process. -/
def inFlight (sessionId : Nat) (kind : Bool) : Nat :=
  s.completions.countP fun completion => completion.1.sessionId = sessionId ∧ completion.2 = kind

/-- No write of a row is repeated or goes past the session that is logging in. -/
inductive Next (careful : Prop) : MatchRecords → MatchRecords → Prop
  /-- A row is added by the sign-up server. -/
  | signsUp (s : MatchRecords) {playerId : Int} (hpos : 0 < playerId)
      (hnew : s.players playerId = none) :
      Next careful s { s with players := Function.update s.players playerId (some ⟨0, 0⟩) }
  | readsLogin (s : MatchRecords) (sessionId : Nat) {playerId : Int} {record : MatchRecord}
      (hrow : s.players playerId = some record) :
      Next careful s { s with reads := ⟨sessionId, playerId, record⟩ :: s.reads }
  /-- `AddPlayer` lets no player in twice. -/
  | logsIn (s : MatchRecords) {read : LoginRead} (hread : read ∈ s.reads)
      (hlogin : s.sessions read.sessionId = .login)
      (hone : ∀ sessionId record, s.sessions sessionId ≠ .active read.playerId record)
      (hcareful : careful → s.players read.playerId = some read.record ∧
        ∀ task ∈ s.tasks, ∀ key ∈ task.playerKeys, key.playerId ≠ read.playerId) :
      Next careful s (s.setSession read.sessionId (.active read.playerId read.record))
  | closes (s : MatchRecords) (sessionId : Nat) :
      Next careful s (s.setSession sessionId (.closed (s.sessions sessionId).playerId?))
  /-- `RequestUpdateMatchResult`: the winner may have left. Who logs in again has left the room
  with his earlier session. -/
  | requests (s : MatchRecords) (task : MatchTask)
      (hlength : task.playerKeys.length ≤ maxMatchResultPlayers)
      (hnodup : (task.playerKeys.map (·.playerId)).Nodup)
      (hplayers : ∀ key ∈ task.playerKeys, (s.sessions key.sessionId).playerId? =
        some key.playerId)
      (hcurrent : ∀ key ∈ task.playerKeys, ∀ sessionId record,
        s.sessions sessionId = .active key.playerId record →
        key.sessionId = sessionId) :
      Next careful s { s with tasks := task :: s.tasks }
  | executes (s : MatchRecords) {task : MatchTask} {before after : List MatchTask}
      (htasks : s.tasks = before ++ task :: after) :
      Next careful s ({ s with tasks := before ++ after }.executeUpdateMatchResult task)
  /-- The statement throws after it has written, and the task is queued again. -/
  | repeats (s : MatchRecords) {task : MatchTask} (htask : task ∈ s.tasks) (hcareful : ¬ careful) :
      Next careful s { s with players := s.written task }
  /-- The thread stops, or the task fails. -/
  | drops (s : MatchRecords) {task : MatchTask} {before after : List MatchTask}
      (htasks : s.tasks = before ++ task :: after) :
      Next careful s { s with tasks := before ++ after }
  | handles (s : MatchRecords) {completion : SessionKey × Bool}
      {before after : List (SessionKey × Bool)}
      (hcompletions : s.completions = before ++ completion :: after) :
      Next careful s ({ s with completions := before ++ after }.handleUpdateMatchResult completion)

/-- There is no player with the id of the empty key. -/
def system (careful : Prop) : System MatchRecords :=
  ⟨fun s => ∃ players, players (-1) = none ∧ s = { players }, Next careful⟩

variable {careful : Prop} {s s' : MatchRecords} {task : MatchTask} {sessionId : Nat}
  {playerId : Int} {record row row' : MatchRecord}

/-- The session has got past its login as this player. -/
def KeyOk (s : MatchRecords) (key : SessionKey) : Prop :=
  (s.sessions key.sessionId).playerId? = some key.playerId

structure TaskOk (s : MatchRecords) (task : MatchTask) : Prop where
  length : task.playerKeys.length ≤ maxMatchResultPlayers
  nodup : (task.playerKeys.map (·.playerId)).Nodup
  keys : ∀ key ∈ task.playerKeys, s.KeyOk key

/-- The key of a player is the one of the session he is logged in with. -/
def CurrentKeys (s : MatchRecords) (task : MatchTask) : Prop :=
  ∀ key ∈ task.playerKeys, ∀ sessionId record, s.sessions sessionId = .active key.playerId record →
    key.sessionId = sessionId

/-- No record is ahead of its row, even with all that is under way to it. -/
structure Reconciled (careful : Prop) (s : MatchRecords) : Prop where
  noPlayer : s.players (-1) = none
  known : ∀ sessionId playerId, (s.sessions sessionId).playerId? = some playerId →
    (s.players playerId).isSome
  reads : ∀ read ∈ s.reads, ∃ row, s.players read.playerId = some row ∧
    ∀ kind, read.record.of kind ≤ row.of kind
  records : ∀ sessionId playerId record row, s.sessions sessionId = .active playerId record →
    s.players playerId = some row →
      ∀ kind, record.of kind + s.inFlight sessionId kind ≤ row.of kind ∧
      (careful → record.of kind + s.inFlight sessionId kind = row.of kind)
  tasks : ∀ task ∈ s.tasks, s.TaskOk task
  current : careful → ∀ task ∈ s.tasks, s.CurrentKeys task
  completions : ∀ completion ∈ s.completions, s.KeyOk completion.1

/-! ### What a task writes -/

theorem mem_playerIds (hpos : playerId ≠ -1) :
    playerId ∈ task.playerIds ↔ playerId ∈ task.playerKeys.map (·.playerId) := by
  rw [MatchTask.playerIds, List.map_append, List.mem_append, List.map_replicate]
  constructor
  · intro h
    obtain h | h := h
    · exact h
    · exact absurd (List.eq_of_mem_replicate h) hpos
  · exact .inl

/-- All the rows are there, so the task never fails for want of one. -/
theorem affected_eq (hnone : s.players (-1) = none)
    (hnodup : (task.playerKeys.map (·.playerId)).Nodup)
    (hrows : ∀ key ∈ task.playerKeys, (s.players key.playerId).isSome) :
    s.affected task = task.playerKeys.length := by
  have hperm : (task.playerIds.dedup.filter fun playerId => (s.players playerId).isSome).Perm
      (task.playerKeys.map (·.playerId)) := by
    rw [List.perm_ext_iff_of_nodup ((List.nodup_dedup _).filter _) hnodup]
    intro playerId
    rw [List.mem_filter, List.mem_dedup]
    constructor
    · intro ⟨hmem, hrow⟩
      refine (mem_playerIds ?_).mp hmem
      intro heq
      rw [heq, hnone] at hrow
      cases hrow
    · intro hmem
      obtain ⟨key, hkey, rfl⟩ := List.mem_map.mp hmem
      have hrow := hrows key hkey
      refine ⟨(mem_playerIds ?_).mpr hmem, hrow⟩
      intro heq
      rw [heq, hnone] at hrow
      cases hrow
  rw [affected, hperm.length_eq, List.length_map]

theorem isSome_written (s : MatchRecords) (task : MatchTask) (playerId : Int) :
    (s.written task playerId).isSome = (s.players playerId).isSome := by
  unfold written
  split
  · exact Option.isSome_map
  · rfl

/-- A row of a player of the game gets a win or a loss, every other one is left alone. -/
theorem written_cases (hnone : s.players (-1) = none) (h : s.written task playerId = some row') :
    ∃ row, s.players playerId = some row ∧
      ((playerId ∈ task.playerKeys.map (·.playerId) ∧ row' = row.update (task.isWinner playerId)) ∨
        (playerId ∉ task.playerKeys.map (·.playerId) ∧ row' = row)) := by
  have hpos : playerId ≠ -1 := by
    intro heq
    have hsome := isSome_written s task playerId
    rw [h, heq, hnone] at hsome
    cases hsome
  unfold written at h
  split at h
  next hmem =>
    obtain ⟨row, hrow, rfl⟩ := Option.map_eq_some_iff.mp h
    exact ⟨row, hrow, .inl ⟨(mem_playerIds hpos).mp hmem, rfl⟩⟩
  next hmem => exact ⟨row', h, .inr ⟨fun hid => hmem ((mem_playerIds hpos).mpr hid), rfl⟩⟩

theorem written_ge (hnone : s.players (-1) = none) (hrow : s.players playerId = some row) :
    ∃ row', s.written task playerId = some row' ∧ ∀ kind, row.of kind ≤ row'.of kind := by
  obtain ⟨row', hrow'⟩ :=
    Option.isSome_iff_exists.mp ((isSome_written s task playerId).trans (hrow ▸ rfl))
  obtain ⟨row₀, hrow₀, ⟨-, rfl⟩ | ⟨-, rfl⟩⟩ := written_cases hnone hrow'
  · obtain rfl := Option.some.inj (hrow.symm.trans hrow₀)
    exact ⟨_, hrow', fun kind => row.of_le_update _ kind⟩
  · obtain rfl := Option.some.inj (hrow.symm.trans hrow₀)
    exact ⟨_, hrow', fun kind => Int.le_refl _⟩

/-! ### The completions a session gets -/

/-- Of several keys of different players at most one is this player's. -/
theorem countP_le_one (id : Int) {keys : List SessionKey} {p : SessionKey → Bool}
    (hnodup : (keys.map (·.playerId)).Nodup)
    (hp : ∀ key ∈ keys, p key = true → key.playerId = id) :
    keys.countP p ≤ 1 := by
  induction keys with
  | nil => exact Nat.zero_le 1
  | cons key keys ih =>
      rw [List.map_cons, List.nodup_cons] at hnodup
      rw [List.countP_cons]
      have hrest := ih hnodup.2 fun key' hkey' => hp key' (List.mem_cons_of_mem _ hkey')
      split
      next hkey =>
        have hnone : keys.countP p = 0 := by
          rw [List.countP_eq_zero]
          intro key' hkey' hp'
          have hsame := (hp key' (List.mem_cons_of_mem _ hkey') hp').trans
            (hp key (List.mem_cons_self ..) hkey).symm
          exact hnodup.1 (hsame ▸ List.mem_map_of_mem hkey')
        omega
      next => omega

/-- What a task adds to the completions of the session of a player. -/
def heard (task : MatchTask) (sessionId : Nat) (kind : Bool) : Nat :=
  task.completions.countP fun completion => completion.1.sessionId = sessionId ∧
    completion.2 = kind

theorem heard_eq (task : MatchTask) (sessionId : Nat) (kind : Bool) : heard task sessionId kind =
    task.playerKeys.countP fun key =>
    decide (key.sessionId = sessionId ∧ task.isWinner key.playerId = kind) := by
  rw [heard, MatchTask.completions, List.countP_map]
  rfl

theorem TaskOk.playerId_eq (h : s.TaskOk task)
    (hsession : s.sessions sessionId = .active playerId record) {key : SessionKey}
    (hkey : key ∈ task.playerKeys) (heq : key.sessionId = sessionId) :
    key.playerId = playerId := by
  have hplayer := h.keys key hkey
  rw [KeyOk, heq, hsession] at hplayer
  exact (Option.some.inj hplayer).symm

theorem TaskOk.heard_le (h : s.TaskOk task)
    (hsession : s.sessions sessionId = .active playerId record) (kind : Bool) :
    heard task sessionId kind ≤
      if playerId ∈ task.playerKeys.map (·.playerId) ∧ task.isWinner playerId = kind then 1
      else 0 := by
  rw [heard_eq]
  split
  next =>
    refine countP_le_one playerId h.nodup ?_
    intro key hkey hp
    exact h.playerId_eq hsession hkey (of_decide_eq_true hp).1
  next hnot =>
    rw [Nat.le_zero, List.countP_eq_zero]
    intro key hkey hp
    obtain ⟨heq, hkind⟩ := of_decide_eq_true hp
    have hplayer := h.playerId_eq hsession hkey heq
    exact hnot ⟨hplayer ▸ List.mem_map_of_mem hkey, hplayer ▸ hkind⟩

/-- If the player's key is that of the session, it hears of the write. -/
theorem TaskOk.heard_of_current (h : s.TaskOk task) (hcurrent : s.CurrentKeys task)
    (hsession : s.sessions sessionId = .active playerId record) (kind : Bool) :
    heard task sessionId kind =
      if playerId ∈ task.playerKeys.map (·.playerId) ∧ task.isWinner playerId = kind then 1
      else 0 := by
  have hle := h.heard_le hsession kind
  split at hle
  next hwrites =>
    obtain ⟨key, hkey, rfl⟩ := List.mem_map.mp hwrites.1
    rw [if_pos hwrites]
    refine Nat.le_antisymm hle ?_
    rw [heard_eq]
    refine List.countP_pos_iff.mpr ⟨key, hkey, ?_⟩
    exact decide_eq_true ⟨hcurrent key hkey sessionId record hsession, hwrites.2⟩
  next hnot =>
    rw [if_neg hnot]
    exact Nat.le_zero.mp hle

/-! ### The steps -/

theorem sessions_setSession (s : MatchRecords) (sessionId sessionId' : Nat)
    (session : RecordSession) :
    (s.setSession sessionId session).sessions sessionId' =
      if sessionId' = sessionId then session else s.sessions sessionId' :=
  Function.update_apply ..

/-- Who is logged in with a session is settled once the login is over. -/
theorem KeyOk.setSession {key : SessionKey} {session : RecordSession} (h : s.KeyOk key)
    (hsame : ∀ playerId, (s.sessions sessionId).playerId? = some playerId →
      session.playerId? = some playerId) :
    (s.setSession sessionId session).KeyOk key := by
  unfold KeyOk at h ⊢
  rw [sessions_setSession]
  split
  next heq =>
    rw [heq] at h
    exact hsame _ h
  next => exact h

theorem Reconciled.inFlight_login (h : Reconciled careful s)
    (hlogin : s.sessions sessionId = .login) (kind : Bool) :
    s.inFlight sessionId kind = 0 := by
  rw [inFlight, List.countP_eq_zero]
  intro completion hmem hp
  have hkey := h.completions completion hmem
  rw [KeyOk, (of_decide_eq_true hp).1, hlogin] at hkey
  cases hkey

theorem Reconciled.signsUp (h : Reconciled careful s) (hpos : 0 < playerId)
    (hnew : s.players playerId = none) :
    Reconciled careful { s with players := Function.update s.players playerId (some ⟨0, 0⟩) } := by
  have hkept {id : Int} {row : MatchRecord} (hrow : s.players id = some row) :
      Function.update s.players playerId (some ⟨0, 0⟩) id = some row := by
    rw [Function.update_of_ne]
    · exact hrow
    · rintro rfl
      cases hnew.symm.trans hrow
  constructor
  case noPlayer =>
    show Function.update s.players playerId _ (-1) = none
    rw [Function.update_of_ne (by omega)]
    exact h.noPlayer
  case known =>
    intro id player hsession
    obtain ⟨row, hrow⟩ := Option.isSome_iff_exists.mp (h.known id player hsession)
    exact Option.isSome_iff_exists.mpr ⟨row, hkept hrow⟩
  case reads =>
    intro read hread
    obtain ⟨row, hrow, hle⟩ := h.reads read hread
    exact ⟨row, hkept hrow, hle⟩
  case records =>
    intro id player record row hsession hrow
    obtain ⟨row₀, hrow₀⟩ := Option.isSome_iff_exists.mp (h.known id player (by rw [hsession]; rfl))
    have hsame : row₀ = row := Option.some.inj ((hkept hrow₀).symm.trans hrow)
    exact h.records id player record row hsession (hsame ▸ hrow₀)
  case tasks =>
    exact fun task htask => ⟨(h.tasks task htask).length, (h.tasks task htask).nodup,
      (h.tasks task htask).keys⟩
  case current => exact h.current
  case completions => exact h.completions

theorem Reconciled.readsLogin (h : Reconciled careful s)
    (hrow : s.players playerId = some record) :
    Reconciled careful { s with reads := ⟨sessionId, playerId, record⟩ :: s.reads } where
  noPlayer := h.noPlayer
  known := h.known
  reads := by
    intro read hread
    obtain rfl | hold := List.mem_cons.mp hread
    · exact ⟨record, hrow, fun _ => Int.le_refl _⟩
    · exact h.reads read hold
  records := h.records
  tasks := fun task htask => ⟨(h.tasks task htask).length, (h.tasks task htask).nodup,
    (h.tasks task htask).keys⟩
  current := h.current
  completions := h.completions

theorem TaskOk.setSession {session : RecordSession} (h : s.TaskOk task)
    (hsame : ∀ playerId, (s.sessions sessionId).playerId? = some playerId →
      session.playerId? = some playerId) :
    (s.setSession sessionId session).TaskOk task :=
  ⟨h.length, h.nodup, fun key hkey => (h.keys key hkey).setSession hsame⟩

/-- The record that has been read is not ahead of the row, and nothing is under way to a session
that logs in. -/
theorem Reconciled.logsIn {read : LoginRead} (h : Reconciled careful s) (hread : read ∈ s.reads)
    (hlogin : s.sessions read.sessionId = .login)
    (hcareful : careful → s.players read.playerId = some read.record ∧
      ∀ task ∈ s.tasks, ∀ key ∈ task.playerKeys, key.playerId ≠ read.playerId) :
    Reconciled careful (s.setSession read.sessionId (.active read.playerId read.record)) := by
  obtain ⟨row, hrow, hle⟩ := h.reads read hread
  have hsame (playerId : Int) (hplayer : (s.sessions read.sessionId).playerId? = some playerId) :
      (RecordSession.active read.playerId read.record).playerId? = some playerId := by
    rw [hlogin] at hplayer
    cases hplayer
  constructor
  case noPlayer => exact h.noPlayer
  case known =>
    intro id player hplayer
    rw [sessions_setSession] at hplayer
    split at hplayer
    next =>
      obtain rfl := Option.some.inj hplayer
      exact Option.isSome_iff_exists.mpr ⟨row, hrow⟩
    next => exact h.known id player hplayer
  case reads => exact h.reads
  case records =>
    intro id player record row' hsession hrow' kind
    rw [sessions_setSession] at hsession
    split at hsession
    next heq =>
      cases hsession
      obtain rfl := Option.some.inj (hrow.symm.trans hrow')
      have hnone : s.inFlight id kind = 0 := h.inFlight_login (heq ▸ hlogin) kind
      have hnone' : (s.setSession read.sessionId (.active read.playerId read.record)).inFlight id
          kind = 0 := hnone
      rw [hnone']
      refine ⟨by have := hle kind; omega, ?_⟩
      intro hc
      obtain rfl := Option.some.inj (hrow.symm.trans (hcareful hc).1)
      omega
    next => exact h.records id player record row' hsession hrow' kind
  case tasks => exact fun task htask => (h.tasks task htask).setSession hsame
  case current =>
    intro hc task htask key hkey id record hsession
    rw [sessions_setSession] at hsession
    split at hsession
    next =>
      have hplayer := (RecordSession.active.inj hsession).1
      exact absurd hplayer.symm ((hcareful hc).2 task htask key hkey)
    next => exact h.current hc task htask key hkey id record hsession
  case completions => exact fun completion hmem => (h.completions completion hmem).setSession hsame

theorem Reconciled.closes (h : Reconciled careful s) (sessionId : Nat) :
    Reconciled careful (s.setSession sessionId (.closed (s.sessions sessionId).playerId?)) where
  noPlayer := h.noPlayer
  known := by
    intro id player hplayer
    rw [sessions_setSession] at hplayer
    split at hplayer
    next => exact h.known sessionId player hplayer
    next => exact h.known id player hplayer
  reads := h.reads
  records := by
    intro id player record row hsession
    rw [sessions_setSession] at hsession
    split at hsession
    next => cases hsession
    next => exact h.records id player record row hsession
  tasks := fun task htask => (h.tasks task htask).setSession fun _ => id
  current := by
    intro hc task htask key hkey id record hsession
    rw [sessions_setSession] at hsession
    split at hsession
    next => cases hsession
    next => exact h.current hc task htask key hkey id record hsession
  completions := fun completion hmem => (h.completions completion hmem).setSession fun _ => id

theorem Reconciled.requests (h : Reconciled careful s)
    (hlength : task.playerKeys.length ≤ maxMatchResultPlayers)
    (hnodup : (task.playerKeys.map (·.playerId)).Nodup)
    (hplayers : ∀ key ∈ task.playerKeys, (s.sessions key.sessionId).playerId? = some key.playerId)
    (hcurrent : s.CurrentKeys task) : Reconciled careful { s with tasks := task :: s.tasks } where
  noPlayer := h.noPlayer
  known := h.known
  reads := h.reads
  records := h.records
  tasks := by
    intro task' htask'
    obtain rfl | hold := List.mem_cons.mp htask'
    · exact ⟨hlength, hnodup, hplayers⟩
    · exact ⟨(h.tasks task' hold).length, (h.tasks task' hold).nodup, (h.tasks task' hold).keys⟩
  current := by
    intro hc task' htask'
    obtain rfl | hold := List.mem_cons.mp htask'
    · exact hcurrent
    · exact h.current hc task' hold
  completions := h.completions

/-- A task less is queued. -/
theorem Reconciled.drops {tasks : List MatchTask} (h : Reconciled careful s)
    (hsub : ∀ task ∈ tasks, task ∈ s.tasks) :
    Reconciled careful { s with tasks := tasks } where
  noPlayer := h.noPlayer
  known := h.known
  reads := h.reads
  records := h.records
  tasks := fun task htask => ⟨(h.tasks task (hsub task htask)).length,
    (h.tasks task (hsub task htask)).nodup, (h.tasks task (hsub task htask)).keys⟩
  current := fun hc task htask => h.current hc task (hsub task htask)
  completions := h.completions

/-- What a write leaves of the invariant, whoever hears of it. -/
theorem Reconciled.writes {completions : List (SessionKey × Bool)} (h : Reconciled careful s)
    (hcompletions : ∀ completion ∈ completions, s.KeyOk completion.1)
    (hrecords : ∀ sessionId playerId record row', s.sessions sessionId = .active playerId record →
      s.written task playerId = some row' → ∀ kind,
        record.of kind + ({ s with completions := completions } : MatchRecords).inFlight sessionId
        kind ≤ row'.of kind ∧
        (careful → record.of kind + ({ s with completions := completions } : MatchRecords).inFlight
          sessionId kind =
          row'.of kind)) :
    Reconciled careful { s with players := s.written task, completions := completions } where
  noPlayer := by
    rw [← Option.not_isSome_iff_eq_none, isSome_written, h.noPlayer]
    exact Bool.false_ne_true
  known := by
    intro id player hplayer
    exact (isSome_written s task player).trans (h.known id player hplayer)
  reads := by
    intro read hread
    obtain ⟨row, hrow, hle⟩ := h.reads read hread
    obtain ⟨row', hrow', hge⟩ := written_ge h.noPlayer hrow
    exact ⟨row', hrow', fun kind => Int.le_trans (hle kind) (hge kind)⟩
  records := hrecords
  tasks := fun task htask => ⟨(h.tasks task htask).length, (h.tasks task htask).nodup,
    (h.tasks task htask).keys⟩
  current := h.current
  completions := hcompletions

/-- The statement throws after it has written: the rows are ahead of the records. -/
theorem Reconciled.repeats (h : Reconciled careful s) (hcareful : ¬ careful) :
    Reconciled careful { s with players := s.written task } := by
  refine h.writes h.completions ?_
  intro id player record row' hsession hrow' kind
  obtain ⟨row, hrow⟩ := Option.isSome_iff_exists.mp (h.known id player (by rw [hsession]; rfl))
  obtain ⟨row₁, hrow₁, hge⟩ : ∃ row₁, s.written task player = some row₁ ∧
    ∀ kind, row.of kind ≤ row₁.of kind :=
    written_ge h.noPlayer hrow
  obtain rfl := Option.some.inj (hrow'.symm.trans hrow₁)
  refine ⟨?_, fun hc => absurd hc hcareful⟩
  exact Int.le_trans (h.records id player record row hsession hrow kind).1 (hge kind)

/-- A task is executed: what its players' sessions hear of is what has been written. -/
theorem Reconciled.executes (h : Reconciled careful s) (htask : s.TaskOk task)
    (hcurrent : careful → s.CurrentKeys task) :
    Reconciled careful (s.executeUpdateMatchResult task) := by
  have hrows : ∀ key ∈ task.playerKeys, (s.players key.playerId).isSome := fun key hkey =>
    h.known key.sessionId key.playerId (htask.keys key hkey)
  unfold executeUpdateMatchResult
  rw [if_pos (affected_eq h.noPlayer htask.nodup hrows)]
  refine h.writes ?_ ?_
  · intro completion hmem
    obtain hold | hnew := List.mem_append.mp hmem
    · exact h.completions completion hold
    · obtain ⟨key, hkey, rfl⟩ := List.mem_map.mp hnew
      exact htask.keys key hkey
  · intro id player record row' hsession hrow' kind
    have hcount :
        ({ s with completions := s.completions ++ task.completions } : MatchRecords).inFlight id
        kind =
        s.inFlight id kind + heard task id kind := List.countP_append
    obtain ⟨row, hrow, hwritten⟩ := written_cases h.noPlayer hrow'
    obtain ⟨hle, heq⟩ := h.records id player record row hsession hrow kind
    have hheard := htask.heard_le hsession kind
    -- The row gets exactly the win or loss that a completion to its player would carry.
    have hof : row'.of kind = row.of kind +
        (if player ∈ task.playerKeys.map (·.playerId) ∧
          task.isWinner player = kind then 1 else 0 : Nat) := by
      obtain ⟨hmem, rfl⟩ | ⟨hmem, rfl⟩ := hwritten
      · rw [MatchRecord.of_update]
        by_cases hkind : task.isWinner player = kind
        · rw [if_pos hkind, if_pos ⟨hmem, hkind⟩]
          rfl
        · rw [if_neg hkind, if_neg fun hboth => hkind hboth.2]
          rfl
      · rw [if_neg fun hboth => hmem hboth.1]
        exact (Int.add_zero _).symm
    rw [hcount, hof]
    refine ⟨by omega, ?_⟩
    intro hc
    have hsame := htask.heard_of_current (hcurrent hc) hsession kind
    have := heq hc
    omega

/-- A completion is processed, or finds its session gone. -/
theorem Reconciled.handles {completion : SessionKey × Bool}
    {before after : List (SessionKey × Bool)} (h : Reconciled careful s)
    (hcompletions : s.completions = before ++ completion :: after) :
    Reconciled careful
      ({ s with completions := before ++ after }.handleUpdateMatchResult completion) := by
  -- the completion is no longer under way
  have hcount (id : Nat) (kind : Bool) : s.inFlight id kind =
      ({ s with completions := before ++ after } : MatchRecords).inFlight id kind +
        if completion.1.sessionId = id ∧ completion.2 = kind then 1 else 0 := by
    unfold inFlight
    rw [hcompletions, List.countP_append, List.countP_append, List.countP_cons]
    simp only [decide_eq_true_eq]
    omega
  have hkeys : ∀ c ∈ before ++ after, s.KeyOk c.1 := by
    intro c hc
    refine h.completions c ?_
    rw [hcompletions]
    obtain hbefore | hafter := List.mem_append.mp hc
    · exact List.mem_append_left _ hbefore
    · exact List.mem_append_right _ (List.mem_cons_of_mem _ hafter)
  have htasks : ∀ task ∈ s.tasks,
      ({ s with completions := before ++ after } : MatchRecords).TaskOk task :=
    fun task htask => ⟨(h.tasks task htask).length, (h.tasks task htask).nodup,
      (h.tasks task htask).keys⟩
  unfold handleUpdateMatchResult
  split
  next player record hsession =>
    have hsession' : s.sessions completion.1.sessionId = .active player record := hsession
    have hsame (id : Int) (hplayer : (s.sessions completion.1.sessionId).playerId? = some id) :
        (RecordSession.active player (record.update completion.2)).playerId? = some id := by
      rwa [hsession'] at hplayer
    constructor
    case noPlayer => exact h.noPlayer
    case known =>
      intro id player' hplayer
      rw [sessions_setSession] at hplayer
      split at hplayer
      next =>
        obtain rfl := Option.some.inj hplayer
        exact h.known completion.1.sessionId player (by rw [hsession']; rfl)
      next => exact h.known id player' hplayer
    case reads => exact h.reads
    case records =>
      intro id player' record' row hactive hrow kind
      rw [sessions_setSession] at hactive
      have hsum := hcount id kind
      show _ +
        (({ s with completions := before ++ after } : MatchRecords).inFlight id kind : Int) ≤ _ ∧
        (_ → _ +
          (({ s with completions := before ++ after } : MatchRecords).inFlight id kind : Int) = _)
      split at hactive
      next heq =>
        cases hactive
        subst heq
        obtain ⟨hle, heq⟩ := h.records _ player record row hsession' hrow kind
        rw [MatchRecord.of_update]
        -- what leaves the completions is added to the record
        by_cases hkind : completion.2 = kind
        · rw [if_pos ⟨rfl, hkind⟩] at hsum
          rw [if_pos hkind]
          refine ⟨by omega, ?_⟩
          intro hc
          have := heq hc
          omega
        · rw [if_neg fun hboth => hkind hboth.2] at hsum
          rw [if_neg hkind]
          refine ⟨by omega, ?_⟩
          intro hc
          have := heq hc
          omega
      next hne =>
        rw [if_neg fun hboth => hne hboth.1.symm, Nat.add_zero] at hsum
        rw [← hsum]
        exact h.records id player' record' row hactive hrow kind
    case tasks => exact fun task htask => (htasks task htask).setSession hsame
    case current =>
      intro hc task htask key hkey id record' hactive
      rw [sessions_setSession] at hactive
      split at hactive
      next heq =>
        have hplayer := (RecordSession.active.inj hactive).1
        exact h.current hc task htask key hkey id record (by rw [heq, hsession', hplayer])
      next => exact h.current hc task htask key hkey id record' hactive
    case completions => exact fun c hc => KeyOk.setSession (hkeys c hc) hsame
  next hnot =>
    -- the session is gone: no active record counted on it
    refine ⟨h.noPlayer, h.known, h.reads, ?_, htasks, h.current, hkeys⟩
    intro id player record row hactive hrow kind
    have hne : ¬ (completion.1.sessionId = id ∧ completion.2 = kind) := by
      rintro ⟨rfl, -⟩
      exact hnot player record hactive
    have hsum := hcount id kind
    rw [if_neg hne, Nat.add_zero] at hsum
    rw [← hsum]
    exact h.records id player record row hactive hrow kind

theorem reconciled_next (h : Reconciled careful s) (hnext : Next careful s s') :
    Reconciled careful s' := by
  cases hnext with
  | signsUp hpos hnew => exact h.signsUp hpos hnew
  | readsLogin sessionId hrow => exact h.readsLogin hrow
  | logsIn hread hlogin hone hcareful => exact h.logsIn hread hlogin hcareful
  | closes sessionId => exact h.closes sessionId
  | requests task hlength hnodup hplayers hcurrent =>
      exact h.requests hlength hnodup hplayers hcurrent
  | @executes task before after htasks =>
      have hmem : task ∈ s.tasks := by
        rw [htasks]
        exact List.mem_append_right _ (List.mem_cons_self ..)
      have hsub : ∀ task' ∈ before ++ after, task' ∈ s.tasks := by
        intro task' htask'
        rw [htasks]
        exact List.Sublist.subset ((List.sublist_cons_self ..).append_left _) htask'
      have htask := h.tasks task hmem
      exact (h.drops hsub).executes ⟨htask.length, htask.nodup, htask.keys⟩ fun hc =>
        h.current hc task hmem
  | repeats htask hcareful => exact h.repeats hcareful
  | @drops task before after htasks =>
      refine h.drops ?_
      intro task' htask'
      rw [htasks]
      exact List.Sublist.subset ((List.sublist_cons_self ..).append_left _) htask'
  | handles hcompletions => exact h.handles hcompletions

theorem reconciled_reachable (h : (system careful).Reachable s) : Reconciled careful s := by
  refine invariant (I := Reconciled careful) ?_ (fun _ _ => reconciled_next) h
  rintro _ ⟨players, hnone, rfl⟩
  exact ⟨hnone, nofun, nofun, nofun, nofun, nofun, nofun⟩

/-- **The task of a game** names each player once, and no more of them than the statement has
places for. -/
theorem requestUpdateMatchResult_task {r : TetrisRoom} {env : RoomEnv}
    (hseated : TetrisRoom.Seated env r.roomPlayers)
    (hlength : r.roomPlayers.length ≤ maxMatchResultPlayers) : ∃ task : MatchTask,
      TetrisRoom.MultiRoom.requestUpdateMatchResult r env =
        r.emit (.updateMatchResult task.winnerKey task.playerKeys) ∧
      task.winnerKey.playerId = r.winnerId ∧ task.playerKeys.length ≤ maxMatchResultPlayers ∧
      (task.playerKeys.map (·.playerId)).Nodup := by
  refine ⟨⟨_, r.targets env⟩, rfl, ?_, ?_, ?_⟩
  · show SessionKey.playerId (Option.getD _ _) = _
    cases hfind : (r.targets env).reverse.find? fun key => key.playerId = r.winnerId with
    | none => rfl
    | some key =>
        have hkey := List.find?_some hfind
        exact of_decide_eq_true hkey
  · rw [TetrisRoom.targets, List.length_map]
    exact Nat.le_trans (List.length_filter_le ..) hlength
  · rw [TetrisRoom.targets, List.Nodup, List.pairwise_map, List.pairwise_map, List.pairwise_filter,
      List.pairwise_iff_getElem]
    intro i j hi hj hij hp hq heq
    have hpi := hseated.isSome (List.getElem_mem hi)
    have hpj := hseated.isSome (List.getElem_mem hj)
    rw [hp] at hpi
    rw [hq] at hpj
    exact absurd (hseated.distinct i j _ _ (List.getElem?_eq_getElem hi)
      (List.getElem?_eq_getElem hj) hpi.symm hpj.symm heq) (Nat.ne_of_lt hij)

/-- A game that its only player has lost. -/
def lostGame : MatchTask := ⟨⟨-1, 2, 0⟩, [⟨0, 1, 1⟩]⟩

/-- The sessions during the game, and once the player has left. -/
def inGame : Nat → RecordSession := Function.update (fun _ => .login) 1 (.active 1 ⟨0, 0⟩)

def afterGame : Nat → RecordSession := Function.update inGame 1 (.closed (some 1))

end MatchRecords

end ProjectTetris

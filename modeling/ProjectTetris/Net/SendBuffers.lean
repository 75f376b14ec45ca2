import Mathlib.Data.List.Nodup
import Mathlib.Data.List.Perm.Basic
import ProjectTetris.Lib.Lease
import ProjectTetris.Lib.Transition
import ProjectTetris.Net.S2CType
import ProjectTetris.Rooms.Player

/-!
# Send buffers

`SendBuffer`, `SendBufferPool` and what `Session::SendPacket` and the completion of a send
do with them. A buffer of the pool is taken with a compare-exchange and given back with a
store; when all are taken, one is allocated and deleted afterwards. Any number of threads
send on one session and any number of IO threads handle completions, a step at a time.

`WSASend` either has the completion posted or fails; then `SendPacket` posts it by hand. A
session may open and close between any two steps. The lock it is held open with between
the look at it and `WSASend` only takes orders away.
-/

namespace ProjectTetris

open Transition

inductive SendBufferState where
  | available | inUse
  deriving DecidableEq

/-- The `OPType`s of a send. -/
inductive SendOPType where
  | send | pooledSend
  deriving DecidableEq

/-- `SEND_BUFFER_POOL_SIZE`. -/
def sendBufferPoolSize : Nat := 5

structure SendBuffer where
  opType : SendOPType
  packetBuffer : List UInt8
  size : packetBuffer.length = bufSize
  bufferOffset : Nat
  /-- `wsabuf.len`; `wsabuf.buf` is the packet buffer. -/
  wsabufLen : Nat
  bufferState : SendBufferState

namespace SendBuffer

theorem length_zeros : (List.replicate bufSize (0 : UInt8)).length = bufSize :=
  List.length_replicate ..

/-- `SendBuffer()`, with the operation it is for. -/
def new (opType : SendOPType) : SendBuffer where
  opType := opType
  packetBuffer := List.replicate bufSize 0
  size := length_zeros
  bufferOffset := 0
  wsabufLen := 0
  bufferState := .available

def reset (b : SendBuffer) : SendBuffer := { b with bufferOffset := 0, wsabufLen := 0 }

/-- `Append`; `none` is `false`. -/
def append (b : SendBuffer) (data : List UInt8) : Option SendBuffer :=
  if data = [] then some b
  else if h : b.bufferOffset + data.length > bufSize then none
  else
    some { b with
      packetBuffer :=
        b.packetBuffer.take b.bufferOffset ++ data ++ b.packetBuffer.drop
          (b.bufferOffset + data.length)
      size := by
        have := b.size
        simp only [List.length_append, List.length_take, List.length_drop]
        omega
      bufferOffset := b.bufferOffset + data.length
      wsabufLen := b.bufferOffset + data.length }

/-- What `WSASend` sends. -/
def bytes (b : SendBuffer) : List UInt8 := b.packetBuffer.take b.wsabufLen

variable {b b' : SendBuffer} {data : List UInt8}

theorem append_bytes (hdata : data ≠ []) (hoffset : b.bufferOffset = 0)
    (h : b.append data = some b') :
    b'.bytes = data := by
  rw [append, if_neg hdata] at h
  split at h
  · cases h
  · cases h
    show List.take (b.bufferOffset + data.length)
      (List.take b.bufferOffset b.packetBuffer ++ data ++ _) = data
    rw [hoffset, List.take_zero, List.nil_append, Nat.zero_add, List.take_left]

/-- Nothing but the bytes is appended to. -/
theorem append_keeps (h : b.append data = some b') :
    b'.opType = b.opType ∧ b'.bufferState = b.bufferState := by
  rw [append] at h
  split at h
  · cases h
    exact ⟨rfl, rfl⟩
  · split at h
    · cases h
    · cases h
      exact ⟨rfl, rfl⟩

end SendBuffer

/-- Where a buffer is: one of the pool, or one `new` has allocated. -/
inductive BufferRef where
  | pooled (i : Fin sendBufferPoolSize)
  | heap (n : Nat)
  deriving DecidableEq

/-- The `is_pooled` of `SendPacket`. -/
def BufferRef.isPooled : BufferRef → Bool
  | pooled _ => true
  | heap _ => false

/-- A call in progress; each is about to take the step it names. -/
inductive SendCall where
  /-- With what the last `SendPacket` has returned. -/
  | idle (returned : Option Bool)
  /-- `FindAvailableBuffer` at a buffer of the pool. -/
  | find (packet : List UInt8) (i : Nat)
  | reset (packet : List UInt8) (buffer : BufferRef)
  | append (packet : List UInt8) (buffer : BufferRef)
  | checkSession (packet : List UInt8) (buffer : BufferRef)
  | wsaSend (packet : List UInt8) (buffer : BufferRef)
  /-- `PostQueuedCompletionStatus`, after `WSASend` has failed. -/
  | postFailed (packet : List UInt8) (buffer : BufferRef)
  /-- The buffer is given back without a completion. -/
  | giveUp (buffer : BufferRef)
  /-- `ProcessSendCompletion`. -/
  | completing (packet : List UInt8) (buffer : BufferRef)
  deriving DecidableEq

namespace SendCall

/-- The buffer the call has in its hands. -/
def buffer : SendCall → Option BufferRef
  | idle _ | find _ _ => none
  | reset _ b | append _ b | checkSession _ b | wsaSend _ b | postFailed _ b | giveUp b
  | completing _ b => some b

/-- What the call relies on in its buffer. -/
def Ready (b : BufferRef → SendBuffer) : SendCall → Prop
  | find packet _ => packet ≠ []
  | reset packet _ => packet ≠ []
  | append packet r => packet ≠ [] ∧ (b r).bufferOffset = 0
  | checkSession packet r | wsaSend packet r | postFailed packet r | completing packet r =>
      (b r).bytes = packet
  | idle _ | giveUp _ => True

end SendCall

/-- A send whose completion is to come, with the packet it was posted for. -/
structure PostedSend where
  buffer : BufferRef
  packet : List UInt8
  deriving DecidableEq

/-- What sends on one session use, of every thread. -/
structure SendBuffers where
  buffers : BufferRef → SendBuffer
  /-- How many have been allocated. -/
  allocated : Nat
  /-- Those that have been deleted, the last one first. -/
  deleted : List Nat
  posted : List PostedSend
  lifeState : LifeState
  /-- Whether `socket_` is valid. -/
  hasSocket : Bool
  calls : Nat → SendCall

inductive SendAction where
  | sendPacket (t : Nat) (packet : List UInt8)
  | go (t : Nat)
  /-- `WSASend`, and whether it takes the send. -/
  | wsaSend (t : Nat) (ok : Bool)
  /-- An IO thread is given a completion. -/
  | complete (t : Nat) (i : Nat)
  /-- The session is opened or closed. -/
  | session (lifeState : LifeState) (hasSocket : Bool)

namespace SendBuffers

def setCall (s : SendBuffers) (t : Nat) (c : SendCall) : SendBuffers :=
  { s with calls := Function.update s.calls t c }

def setBuffer (s : SendBuffers) (r : BufferRef) (b : SendBuffer) : SendBuffers :=
  { s with buffers := Function.update s.buffers r b }

/-- `Clear`. -/
def clear (s : SendBuffers) (r : BufferRef) : SendBuffers :=
  s.setBuffer r { s.buffers r with bufferState := .available }

/-- `delete`. -/
def delete (s : SendBuffers) : BufferRef → SendBuffers
  | .pooled _ => s
  | .heap n => { s with deleted := n :: s.deleted }

/-- `if (is_pooled) send_buffer->Clear(); else delete send_buffer;`. -/
def giveBack (s : SendBuffers) (r : BufferRef) (isPooled : Bool) : SendBuffers :=
  if isPooled then s.clear r else s.delete r

/-- A completion for the buffer will come. -/
def post (s : SendBuffers) (packet : List UInt8) (r : BufferRef) : SendBuffers :=
  { s with posted := s.posted ++ [⟨r, packet⟩] }

/-- One buffer of the pool after the other, and a new one when none is free. -/
def find (s : SendBuffers) (t : Nat) (packet : List UInt8) (i : Nat) : SendBuffers :=
  if h : i < sendBufferPoolSize then
    let r := BufferRef.pooled ⟨i, h⟩
    if (s.buffers r).bufferState = .available then
      (s.setBuffer r { s.buffers r with bufferState := .inUse }).setCall t (.reset packet r)
    else s.setCall t (.find packet (i + 1))
  else
    let r := BufferRef.heap s.allocated
    { s.setBuffer r (.new .send) with allocated := s.allocated + 1 }.setCall t (.append packet r)

/-- The next step of a call, other than `WSASend`. -/
def next (s : SendBuffers) (t : Nat) : SendCall → Option SendBuffers
  | .idle _ | .wsaSend _ _ => none
  | .find packet i => some (s.find t packet i)
  | .reset packet r => some ((s.setBuffer r (s.buffers r).reset).setCall t (.append packet r))
  | .append packet r => some (
      match (s.buffers r).append packet with
      | some b => (s.setBuffer r b).setCall t (.checkSession packet r)
      | none => s.setCall t (.giveUp r))
  | .checkSession packet r => some (
      s.setCall t
      (if s.lifeState ≠ .active ∨ s.hasSocket = false then .giveUp r else .wsaSend packet r))
  | .postFailed packet r => some (
      (s.post packet r).setCall t (.idle (some false)))
  | .giveUp r => some ((s.giveBack r r.isPooled).setCall t (.idle (some false)))
  | .completing _ r => some (
      (s.giveBack r (decide ((s.buffers r).opType = .pooledSend))).setCall t (.idle none))

def step : SendAction → SendBuffers → Option SendBuffers
  | .sendPacket t packet, s =>
      match s.calls t with
      | .idle _ =>
          some (s.setCall t
            (if packet = [] ∨ packet.length > bufSize then .idle (some false) else .find packet 0))
      | _ => none
  | .go t, s => s.next t (s.calls t)
  | .wsaSend t ok, s =>
      match s.calls t with
      | .wsaSend packet r =>
          some (
            if ok then (s.post packet r).setCall t (.idle (some true))
            else s.setCall t (.postFailed packet r))
      | _ => none
  | .complete t i, s =>
      match s.calls t, s.posted[i]? with
      | .idle _, some p =>
          some ({ s with posted := s.posted.eraseIdx i }.setCall t (.completing p.packet p.buffer))
      | _, _ => none
  | .session lifeState hasSocket, s =>
      some { s with lifeState := lifeState, hasSocket := hasSocket }

/-- `SendBufferPool()`, with no send in progress. -/
def Initial (s : SendBuffers) : Prop :=
  (∀ i, s.buffers (.pooled i) = .new .pooledSend) ∧ s.allocated = 0 ∧ s.deleted = [] ∧
    s.posted = [] ∧
    ∀ t, ∃ returned, s.calls t = .idle returned

/-- Every order of the steps. -/
def system : System SendBuffers := .taking Initial step fun _ _ => True

/-! ## Who has a buffer -/

/-- A buffer of the pool that is in use, or one that is allocated and not deleted. -/
def Out (s : SendBuffers) : BufferRef → Prop
  | .pooled i => (s.buffers (.pooled i)).bufferState = .inUse
  | .heap n => n < s.allocated ∧ n ∉ s.deleted

/-- The buffer of each call. -/
def hold (s : SendBuffers) (t : Nat) : Option BufferRef := (s.calls t).buffer

structure Leased (s : SendBuffers) : Prop where
  lease : Lease s.hold (s.posted.map (·.buffer)) s.Out
  ready : ∀ t, (s.calls t).Ready s.buffers
  posted : ∀ p ∈ s.posted, (s.buffers p.buffer).bytes = p.packet
  pooledType : ∀ i, (s.buffers (.pooled i)).opType = .pooledSend
  heapType : ∀ n, n < s.allocated → (s.buffers (.heap n)).opType = .send
  deleted_lt : ∀ n, n ∈ s.deleted → n < s.allocated
  deleted_nodup : s.deleted.Nodup

variable {s s' : SendBuffers} {t : Nat} {r : BufferRef} {b : SendBuffer} {c : SendCall}
  {packet : List UInt8}

theorem hold_setCall (s : SendBuffers) (t : Nat) (c : SendCall) :
    (s.setCall t c).hold = Function.update s.hold t c.buffer := by
  funext t'
  by_cases h : t' = t
  · subst h
    simp only [hold, setCall, Function.update_self]
  · simp only [hold, setCall, Function.update_of_ne h]

/-- A call relies on no buffer but its own. -/
theorem ready_congr {buffers buffers' : BufferRef → SendBuffer}
    (hsame : ∀ r, c.buffer = some r → buffers' r = buffers r) (h : c.Ready buffers) :
    c.Ready buffers' := by
  cases c with
  | idle | find | reset | giveUp => exact h
  | append packet r =>
      show packet ≠ [] ∧ (buffers' r).bufferOffset = 0
      rw [hsame r rfl]
      exact h
  | checkSession packet r | wsaSend packet r | postFailed packet r | completing packet r =>
      show (buffers' r).bytes = packet
      rw [hsame r rfl]
      exact h

/-- The new call has what it relies on, and so have the others when their buffers are as they were.
-/
theorem Leased.ready_setCall (h : Leased s) {buffers : BufferRef → SendBuffer}
    (hc : c.Ready buffers)
    (hothers : ∀ t' r, t' ≠ t → s.hold t' = some r → buffers r = s.buffers r) (t' : Nat) :
    ((s.setCall t c).calls t').Ready buffers := by
  by_cases heq : t' = t
  · subst heq
    rw [show (s.setCall t' c).calls t' = c from Function.update_self ..]
    exact hc
  · rw [show (s.setCall t c).calls t' = s.calls t' from Function.update_of_ne heq ..]
    exact ready_congr (fun r hr => hothers t' r heq hr) (h.ready t')

theorem setBuffer_of_ne (s : SendBuffers) (b : SendBuffer) {r r' : BufferRef} (h : r' ≠ r) :
    (s.setBuffer r b).buffers r' = s.buffers r' := Function.update_of_ne h ..

theorem setBuffer_self (s : SendBuffers) (b : SendBuffer) (r : BufferRef) :
    (s.setBuffer r b).buffers r = b :=
  Function.update_self ..

theorem heap_ne_pooled (n : Nat) (i : Fin sendBufferPoolSize) : BufferRef.heap n ≠ .pooled i :=
  nofun

/-- No send in flight has the buffer of a call. -/
theorem Leased.posted_ne (h : Leased s) (ht : s.hold t = some r) {p : PostedSend}
    (hp : p ∈ s.posted) :
    p.buffer ≠ r := fun heq => h.lease.apart t r ht (List.mem_map.2 ⟨p, hp, heq⟩)

theorem initial_leased (h : Initial s) : Leased s := by
  obtain ⟨hpool, hallocated, hdeleted, hposted, hcalls⟩ := h
  have hhold : ∀ t, s.hold t = none := fun t => by
    obtain ⟨returned, hc⟩ := hcalls t
    rw [hold, hc]
    rfl
  refine ⟨?_, fun t => ?_, ?_, fun i => by rw [hpool i]; rfl, fun n hn => ?_, ?_, ?_⟩
  · rw [hposted]
    refine .empty hhold fun r hr => ?_
    cases r with
    | pooled i =>
        rw [Out, hpool i] at hr
        cases hr
    | heap n =>
        rw [Out, hallocated] at hr
        exact absurd hr.1 (Nat.not_lt_zero n)
  · obtain ⟨returned, hc⟩ := hcalls t
    rw [hc]
    trivial
  · rw [hposted]
    exact nofun
  · rw [hallocated] at hn
    exact absurd hn (Nat.not_lt_zero n)
  · rw [hdeleted]
    exact nofun
  · rw [hdeleted]
    exact .nil

/-- A step that leaves the buffers alone, and the call with the one it has. -/
theorem Leased.goOn (h : Leased s) (hbuffer : c.buffer = s.hold t) (hready : c.Ready s.buffers) :
    Leased (s.setCall t c) := by
  refine ⟨?_, h.ready_setCall hready fun _ _ _ _ => rfl, h.posted, h.pooledType, h.heapType,
    h.deleted_lt, h.deleted_nodup⟩
  rw [hold_setCall, hbuffer, Function.update_eq_self]
  exact h.lease

/-- A call writes into the buffer it has. -/
theorem Leased.write (h : Leased s) (ht : s.hold t = some r) (hbuffer : c.buffer = some r)
    (hstate : b.bufferState = (s.buffers r).bufferState) (htype : b.opType = (s.buffers r).opType)
    (hready : c.Ready (s.setBuffer r b).buffers) : Leased ((s.setBuffer r b).setCall t c) := by
  have hout : (s.setBuffer r b).Out = s.Out := by
    funext r'
    cases r' with
    | heap n => rfl
    | pooled i =>
        show (((s.setBuffer r b).buffers (.pooled i)).bufferState = .inUse) = _
        by_cases heq : BufferRef.pooled i = r
        · rw [heq, setBuffer_self, hstate, ← heq]
          rfl
        · rw [setBuffer_of_ne s b heq]
          rfl
  have htypes : ∀ r', ((s.setBuffer r b).buffers r').opType = (s.buffers r').opType := by
    intro r'
    by_cases heq : r' = r
    · rw [heq, setBuffer_self, htype]
    · rw [setBuffer_of_ne s b heq]
  refine ⟨?_, h.ready_setCall hready fun t' r' hne hr' => ?_,
    fun p hp => ?_, fun i => ?_, fun n hn => ?_, h.deleted_lt, h.deleted_nodup⟩
  · show Lease ((s.setBuffer r b).setCall t c).hold (s.posted.map (·.buffer)) (s.setBuffer r b).Out
    rw [hold_setCall, hout, hbuffer, ← ht]
    show Lease (Function.update s.hold t (s.hold t)) _ _
    rw [Function.update_eq_self]
    exact h.lease
  · exact setBuffer_of_ne s b fun heq => hne (h.lease.one t' t r (heq ▸ hr') ht)
  · show ((s.setBuffer r b).buffers p.buffer).bytes = p.packet
    rw [setBuffer_of_ne s b (h.posted_ne ht hp)]
    exact h.posted p hp
  · exact (htypes _).trans (h.pooledType i)
  · exact (htypes _).trans (h.heapType n hn)

/-- A call takes a buffer of the pool that nobody has, or a new one. -/
theorem Leased.acquire (h : Leased s) (ht : s.hold t = none) (hbuffer : c.buffer = some r)
    (hr : ¬ s.Out r) (hsame : ∀ r', r' ≠ r → s'.buffers r' = s.buffers r')
    (hcalls : s'.calls = s.calls) (hposted : s'.posted = s.posted)
    (hout : ∀ r', s'.Out r' ↔ r' = r ∨ s.Out r') (hready : c.Ready s'.buffers)
    (hpooled : ∀ i, (s'.buffers (.pooled i)).opType = .pooledSend)
    (hheap : ∀ n, n < s'.allocated → (s'.buffers (.heap n)).opType = .send)
    (hdeleted : ∀ n, n ∈ s'.deleted → n < s'.allocated) (hnodup : s'.deleted.Nodup) :
    Leased (s'.setCall t c) := by
  have hholds : s'.hold = s.hold := by
    funext t'
    rw [hold, hold, hcalls]
  refine ⟨?_, fun t' => ?_, fun p hp => ?_, hpooled, hheap, hdeleted, hnodup⟩
  · show Lease (s'.setCall t c).hold (s'.posted.map (·.buffer)) s'.Out
    rw [hold_setCall, hholds, hposted, hbuffer]
    exact h.lease.acquire ht hr hout
  · rw [show (s'.setCall t c).calls = (s.setCall t c).calls by rw [setCall, setCall, hcalls]]
    exact h.ready_setCall hready
      (fun t' r' _ hr' => hsame r' fun heq => hr (heq ▸ h.lease.held hr')) t'
  · show (s'.buffers p.buffer).bytes = p.packet
    have hp' : p ∈ s.posted := hposted ▸ hp
    rw [hsame p.buffer fun heq => hr (heq ▸ h.lease.queued (List.mem_map_of_mem hp'))]
    exact h.posted p hp'

theorem Leased.find (h : Leased s) {i : Nat} (hc : s.calls t = .find packet i) :
    Leased (s.find t packet i) := by
  have ht : s.hold t = none := by rw [hold, hc]; rfl
  have hpacket : packet ≠ [] := by
    have hready := h.ready t
    rw [hc] at hready
    exact hready
  unfold SendBuffers.find
  split
  · rename_i hi
    dsimp only
    split
    · rename_i havailable
      -- a buffer that is available has not been lent
      have hnot : ¬ s.Out (.pooled ⟨i, hi⟩) := fun hout => by
        rw [Out, havailable] at hout
        cases hout
      refine h.acquire ht rfl hnot (fun r' hr' => setBuffer_of_ne s _ hr') rfl rfl (fun r' => ?_)
        hpacket (fun j => ?_) (fun n hn => ?_) h.deleted_lt h.deleted_nodup
      · by_cases heq : r' = .pooled ⟨i, hi⟩
        · subst heq
          rw [Out, setBuffer_self]
          exact ⟨fun _ => .inl rfl, fun _ => rfl⟩
        · rw [or_iff_right heq]
          cases r' with
          | heap n => rfl
          | pooled j => rw [Out, Out, setBuffer_of_ne s _ heq]
      · by_cases heq : BufferRef.pooled j = .pooled ⟨i, hi⟩
        · rw [heq, setBuffer_self]
          exact h.pooledType _
        · rw [setBuffer_of_ne s _ heq]
          exact h.pooledType j
      · rw [setBuffer_of_ne s _ (heap_ne_pooled n _)]
        exact h.heapType n hn
    · exact h.goOn ht.symm hpacket
  · dsimp only
    -- the pool is used up: a new buffer, which nobody can have yet
    refine h.acquire ht rfl (fun hout => Nat.lt_irrefl _ hout.1)
      (fun r' hr' => setBuffer_of_ne s _ hr') rfl rfl
      (fun r' => ?_) ⟨hpacket, ?_⟩ (fun j => ?_) (fun n hn => ?_) (fun n hn => ?_) h.deleted_nodup
    · cases r' with
      | pooled j =>
          simp only [Out, setBuffer_of_ne s _ (heap_ne_pooled _ j).symm, reduceCtorEq, false_or]
      | heap n =>
          simp only [Out, setBuffer, BufferRef.heap.injEq]
          constructor
          · rintro ⟨hlt, hn⟩
            rcases Nat.lt_succ_iff_lt_or_eq.1 hlt with hlt | heq
            · exact .inr ⟨hlt, hn⟩
            · exact .inl heq
          · rintro (rfl | ⟨hlt, hn⟩)
            · exact ⟨Nat.lt_succ_self _, fun hmem => Nat.lt_irrefl _ (h.deleted_lt _ hmem)⟩
            · exact ⟨Nat.lt_succ_of_lt hlt, hn⟩
    · show ((s.setBuffer (.heap s.allocated) (.new .send)).buffers
        (.heap s.allocated)).bufferOffset = 0
      rw [setBuffer_self]
      rfl
    · show ((s.setBuffer (.heap s.allocated) (.new .send)).buffers (.pooled j)).opType =
        .pooledSend
      rw [setBuffer_of_ne s _ (heap_ne_pooled _ j).symm]
      exact h.pooledType j
    · show ((s.setBuffer (.heap s.allocated) (.new .send)).buffers (.heap n)).opType = .send
      by_cases heq : BufferRef.heap n = .heap s.allocated
      · rw [heq, setBuffer_self]
        rfl
      · rw [setBuffer_of_ne s _ heq]
        have hne : n ≠ s.allocated := fun hn' => heq (by rw [hn'])
        have hlt : n < s.allocated + 1 := hn
        exact h.heapType n (by omega)
    · exact Nat.lt_succ_of_lt (h.deleted_lt n hn)

/-- A call gives back the buffer it has: one of the pool is free again, another one is deleted. -/
theorem Leased.giveBack (h : Leased s) (ht : s.hold t = some r) (hc : c.buffer = none)
    (hready : ∀ b, c.Ready b) :
    Leased ((s.giveBack r r.isPooled).setCall t c) := by
  cases r with
  | pooled i =>
      show Leased ((s.clear (.pooled i)).setCall t c)
      refine ⟨?_, h.ready_setCall (hready _) fun t' r' hne hr' => ?_,
        fun p hp => ?_, fun j => ?_, fun n hn => ?_, h.deleted_lt, h.deleted_nodup⟩
      · show Lease ((s.clear (.pooled i)).setCall t c).hold (s.posted.map (·.buffer))
          (s.clear (.pooled i)).Out
        rw [hold_setCall, hc]
        -- only this buffer is back
        refine h.lease.release ht fun r' => ?_
        by_cases heq : r' = .pooled i
        · subst heq
          rw [Out, clear, setBuffer_self]
          exact ⟨nofun, fun hr => absurd rfl hr.1⟩
        · rw [and_iff_right heq]
          cases r' with
          | heap n => rfl
          | pooled j => rw [Out, Out, clear, setBuffer_of_ne s _ heq]
      · exact setBuffer_of_ne s _ fun heq => hne (h.lease.one t' t _ (heq ▸ hr') ht)
      · show ((s.clear (.pooled i)).buffers p.buffer).bytes = p.packet
        rw [clear, setBuffer_of_ne s _ (h.posted_ne ht hp)]
        exact h.posted p hp
      · show ((s.clear (.pooled i)).buffers (.pooled j)).opType = .pooledSend
        by_cases heq : BufferRef.pooled j = .pooled i
        · rw [clear, heq, setBuffer_self]
          exact h.pooledType i
        · rw [clear, setBuffer_of_ne s _ heq]
          exact h.pooledType j
      · show ((s.clear (.pooled i)).buffers (.heap n)).opType = .send
        rw [clear, setBuffer_of_ne s _ (heap_ne_pooled n i)]
        exact h.heapType n hn
  | heap n =>
      show Leased ((s.delete (.heap n)).setCall t c)
      -- a buffer of its own is deleted once, for it was held until now
      obtain ⟨hlt, hn⟩ := h.lease.held ht
      refine ⟨?_, h.ready_setCall (hready _) fun _ _ _ _ => rfl, h.posted, h.pooledType,
        h.heapType, fun n' hn' => ?_, List.nodup_cons.2 ⟨hn, h.deleted_nodup⟩⟩
      · show Lease ((s.delete (.heap n)).setCall t c).hold (s.posted.map (·.buffer))
          (s.delete (.heap n)).Out
        rw [hold_setCall, hc]
        refine h.lease.release ht fun r' => ?_
        cases r' with
        | pooled j => simp [Out, delete]
        | heap n' =>
            simp only [Out, delete, List.mem_cons, not_or, ne_eq, BufferRef.heap.injEq]
            exact and_left_comm
      · rcases List.mem_cons.1 hn' with rfl | hn'
        · exact hlt
        · exact h.deleted_lt n' hn'

/-- A call posts the buffer it has, with the bytes of its packet. -/
theorem Leased.post (h : Leased s) (ht : s.hold t = some r) (hbytes : (s.buffers r).bytes = packet)
    {returned : Option Bool} :
    Leased ((s.post packet r).setCall t (.idle returned)) := by
  refine ⟨?_, h.ready_setCall trivial fun _ _ _ _ => rfl,
    fun p hp => ?_, h.pooledType, h.heapType, h.deleted_lt, h.deleted_nodup⟩
  · show Lease ((s.post packet r).setCall t (.idle returned)).hold
      ((s.post packet r).posted.map (·.buffer)) s.Out
    rw [hold_setCall]
    refine h.lease.post ht ?_
    rw [SendBuffers.post, List.map_append]
    exact List.perm_append_singleton ..
  · rcases List.mem_append.1 hp with hp | hp
    · exact h.posted p hp
    · obtain rfl := List.mem_singleton.1 hp
      exact hbytes

theorem perm_eraseIdx {α : Type} {l : List α} {i : Nat} {a : α} (h : l[i]? = some a) :
    l.Perm (a :: l.eraseIdx i) := by
  obtain ⟨hi, rfl⟩ := List.getElem?_eq_some_iff.1 h
  exact (List.getElem_cons_eraseIdx_perm hi).symm

/-- An IO thread takes a completion off the queue. -/
theorem Leased.complete (h : Leased s) (ht : s.hold t = none) {i : Nat} {p : PostedSend}
    (hp : s.posted[i]? = some p) :
    Leased ({ s with posted := s.posted.eraseIdx i }.setCall t
      (.completing p.packet p.buffer)) := by
  have hperm := perm_eraseIdx hp
  have hbytes := h.posted p (hperm.mem_iff.2 (.head _))
  refine ⟨?_, h.ready_setCall hbytes fun _ _ _ _ => rfl,
    fun p' hp' => ?_, h.pooledType, h.heapType, h.deleted_lt, h.deleted_nodup⟩
  · show Lease (SendBuffers.hold _) ((s.posted.eraseIdx i).map (·.buffer)) s.Out
    rw [hold_setCall]
    exact h.lease.take ht (hperm.map _)
  · exact h.posted p' (hperm.mem_iff.2 (.tail _ hp'))

/-- **A step keeps every buffer in one hand.** -/
theorem leased_step (h : Leased s) {a : SendAction} (hstep : step a s = some s') : Leased s' := by
  cases a with
  | session lifeState hasSocket =>
      cases hstep
      exact ⟨h.lease, h.ready, h.posted, h.pooledType, h.heapType, h.deleted_lt, h.deleted_nodup⟩
  | sendPacket t packet =>
      rw [step] at hstep
      split at hstep
      · rename_i returned hc
        have ht : s.hold t = none := by rw [hold, hc]; rfl
        cases hstep
        split
        · exact h.goOn ht.symm trivial
        · rename_i hpacket
          exact h.goOn ht.symm fun hnil => hpacket (.inl hnil)
      · cases hstep
  | wsaSend t ok =>
      rw [step] at hstep
      split at hstep
      · rename_i packet r hc
        have ht : s.hold t = some r := by rw [hold, hc]; rfl
        have hready := h.ready t
        rw [hc] at hready
        cases hstep
        split
        · exact h.post ht hready
        · exact h.goOn ht.symm hready
      · cases hstep
  | complete t i =>
      rw [step] at hstep
      split at hstep
      · rename_i returned p hc hp
        cases hstep
        exact h.complete (by rw [hold, hc]; rfl) hp
      · cases hstep
  | go t =>
      rw [step] at hstep
      have hready := h.ready t
      have ht : s.hold t = (s.calls t).buffer := rfl
      cases hc : s.calls t with
      | idle returned | wsaSend packet r =>
          rw [hc] at hstep
          cases hstep
      | find packet i =>
          rw [hc] at hstep
          cases hstep
          exact h.find hc
      | reset packet r =>
          rw [hc] at hstep hready ht
          cases hstep
          refine h.write ht rfl rfl rfl ⟨hready, ?_⟩
          rw [setBuffer_self]
          rfl
      | append packet r =>
          rw [hc] at hstep hready ht
          obtain ⟨hpacket, hoffset⟩ := hready
          cases hstep
          split
          · rename_i b hb
            obtain ⟨htype, hstate⟩ := SendBuffer.append_keeps hb
            refine h.write ht rfl hstate htype ?_
            show ((s.setBuffer r b).buffers r).bytes = packet
            rw [setBuffer_self]
            exact SendBuffer.append_bytes hpacket hoffset hb
          · exact h.goOn ht.symm trivial
      | checkSession packet r =>
          rw [hc] at hstep hready ht
          cases hstep
          split
          · exact h.goOn ht.symm trivial
          · exact h.goOn ht.symm hready
      | postFailed packet r =>
          rw [hc] at hstep hready ht
          cases hstep
          exact h.post ht hready
      | giveUp r =>
          rw [hc] at hstep ht
          cases hstep
          exact h.giveBack ht rfl fun _ => trivial
      | completing packet r =>
          rw [hc] at hstep ht
          cases hstep
          -- the operation of a buffer tells where it is from
          have htype : decide ((s.buffers r).opType = .pooledSend) = r.isPooled := by
            cases r with
            | pooled i => rw [h.pooledType i]; rfl
            | heap n => rw [h.heapType n (h.lease.held ht).1]; rfl
          rw [htype]
          exact h.giveBack ht rfl fun _ => trivial

theorem reachable_leased (h : system.Reachable s) : Leased s :=
  invariant (fun _ => initial_leased) (fun _ _ hs ⟨_, _, hstep⟩ => leased_step hs hstep) h

/-- A call has this buffer, or its completion is to come. -/
def Owned (s : SendBuffers) (r : BufferRef) : Prop :=
  (∃ t, (s.calls t).buffer = some r) ∨ ∃ p ∈ s.posted, p.buffer = r

theorem Leased.owned_iff (h : Leased s) (r : BufferRef) : s.Owned r ↔ s.Out r := by
  rw [h.lease.out_iff, Owned]
  simp only [hold, List.mem_map]

/--
**A send buffer is never shared**, and none is lost.

A buffer of the pool is in use exactly while a call has it or its completion is to come,
and no two calls or sends in flight have the same one. The bytes of a send are those of its
packet until its completion gives the buffer back. Each allocated buffer is deleted exactly
once, when nobody has it any longer; with no send in progress, nothing is in use.
-/
theorem sendBuffers_leased (h : system.Reachable s) :
    (∀ i, (s.buffers (.pooled i)).bufferState = .inUse ↔ s.Owned (.pooled i)) ∧
    (∀ t t' r, (s.calls t).buffer = some r → (s.calls t').buffer = some r → t = t') ∧
    (∀ t p, (s.calls t).buffer = some p.buffer → p ∉ s.posted) ∧
    (s.posted.map (·.buffer)).Nodup ∧
    (∀ p ∈ s.posted, (s.buffers p.buffer).bytes = p.packet) ∧
    (∀ t packet r, s.calls t = .completing packet r → (s.buffers r).bytes = packet) ∧
    (∀ n, n < s.allocated → (s.deleted.count n = 1 ↔ ¬ s.Owned (.heap n))) ∧
    (∀ n, s.deleted.count n ≤ 1) ∧
    (∀ n, s.Owned (.heap n) → n ∉ s.deleted) ∧
    ((∀ t, (s.calls t).buffer = none) → s.posted = [] →
      (∀ i, (s.buffers (.pooled i)).bufferState = .available) ∧ ∀ n, n < s.allocated →
      s.deleted.count n = 1) := by
  have hleased := reachable_leased h
  have hcount : ∀ n, n < s.allocated → (s.deleted.count n = 1 ↔ ¬ s.Owned (.heap n)) := by
    intro n hn
    rw [hleased.owned_iff, Out, not_and, Classical.not_not]
    constructor
    · intro hone _
      exact List.count_pos_iff.1 (by omega)
    · exact fun hmem => List.count_eq_one_of_mem hleased.deleted_nodup (hmem hn)
  refine ⟨fun i => (hleased.owned_iff (.pooled i)).symm, hleased.lease.one,
    fun t p ht hp => ?_, hleased.lease.nodup,
    hleased.posted, fun t packet r hc => ?_, hcount,
    List.nodup_iff_count_le_one.1 hleased.deleted_nodup,
    fun n hn => ((hleased.owned_iff _).1 hn).2, fun hnone hposted => ⟨fun i => ?_, fun n hn => ?_⟩⟩
  · exact hleased.lease.apart t _ ht (List.mem_map_of_mem hp)
  · have hready := hleased.ready t
    rw [hc] at hready
    exact hready
  · have hlease := hleased.lease
    rw [hposted] at hlease
    have hnot := hlease.none_out hnone (.pooled i)
    cases hstate : (s.buffers (.pooled i)).bufferState with
    | available => rfl
    | inUse => exact absurd hstate hnot
  · have hlease := hleased.lease
    rw [hposted] at hlease
    rw [hcount n hn, hleased.owned_iff]
    exact hlease.none_out hnone (.heap n)

/-- A session in the lobby that has never sent anything. -/
def unused : SendBuffers where
  buffers
    | .pooled _ => .new .pooledSend
    | .heap _ => .new .send
  allocated := 0
  deleted := []
  posted := []
  lifeState := .active
  hasSocket := true
  calls _ := .idle none

theorem unused_initial : Initial unused := ⟨fun _ => rfl, rfl, rfl, rfl, fun _ => ⟨none, rfl⟩⟩

/-- A thread sends a packet when as many buffers are in use as there have been threads before it.
-/
def sendAfter (t : Nat) : List SendAction :=
  .sendPacket t [3, 0, 1] :: List.replicate
    (t + 1 + if t < sendBufferPoolSize then 1 else 0) (.go t) ++
    [.go t, .go t, .wsaSend t true]

/-- One send more than there are buffers in the pool. -/
theorem sendBuffers_leased_six :
    ∃ s, system.Reachable s ∧ s.posted.length = 6 ∧ (s.posted.map (·.buffer)).Nodup ∧
    ∀ p ∈ s.posted, (s.buffers p.buffer).bytes = p.packet := by
  have hrun : (System.follow (fun _ _ => true) step ((List.range 6).flatMap sendAfter) unused).any
      (fun s => decide (s.posted.length = 6)) = true := by
    decide
  simp only [Option.any_eq_true, decide_eq_true_eq] at hrun
  obtain ⟨s, hs, hlength⟩ := hrun
  have hreachable : system.Reachable s :=
    (show system.Reachable unused from .start unused_initial).follow (fun _ _ _ => trivial) hs
  obtain ⟨_, _, _, hnodup, hbytes, _⟩ := sendBuffers_leased hreachable
  exact ⟨s, hreachable, hlength, hnodup, hbytes⟩

end SendBuffers

end ProjectTetris

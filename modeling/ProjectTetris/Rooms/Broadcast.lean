import ProjectTetris.Lib.Batching
import ProjectTetris.Rooms.TickPackets

/-!
# `BroadcastPackets`, byte by byte

The players' buffers are sent to everybody at the end of a tick. An earlier version, kept
as a comment in the source, sent each buffer on its own; the present one gathers them in a
local array first and sends the array when the next buffer does not fit.

Here both are written over bytes, with the writes to the array checked, and compared: they
give every session the same bytes. `broadcastPackets_bytes` says that the room's own
`broadcastPackets`, which counts the packets' sizes, is the one modelled here.
-/

namespace ProjectTetris

open Checked

namespace Broadcast

/-- A slot, as `BroadcastPackets` reads it: `FindSession` and the bytes of `send_buffer_`. -/
structure Slot where
  hasSession : Bool
  sendBuffer : List UInt8
  deriving DecidableEq, Repr

/-- A call of `SendPacket`, on the session of the slot `target`. -/
structure SendCall where
  target : Nat
  bytes : List UInt8
  deriving DecidableEq, Repr

/-- The inner loop: the same bytes for every session of the room. -/
def sendToAll (slots : List Slot) (bytes : List UInt8) : List SendCall :=
  (slots.zipIdx.filter (·.1.hasSession)).map fun s => ⟨s.2, bytes⟩

/-- `memcpy(send_buffer + send_data_size, ...)`, checked against the end of the array. -/
def memcpy? (buffer bytes : List UInt8) : Option (List UInt8) :=
  if buffer.length + bytes.length ≤ bufSize then some (buffer ++ bytes) else none

/--
The loop over the sources; `buffer` is the part of the array in use, `calls` what has been
sent so far.
-/
def gather (slots : List Slot) : List Slot → List UInt8 → List SendCall →
    Option (List UInt8 × List SendCall)
  | [], buffer, calls => some (buffer, calls)
  | source :: rest, buffer, calls =>
      if !source.hasSession ∨ source.sendBuffer.length = 0 then gather slots rest buffer calls
      else if buffer.length + source.sendBuffer.length > bufSize then do
        gather slots rest (← memcpy? [] source.sendBuffer) (calls ++ sendToAll slots buffer)
      else do
        gather slots rest (← memcpy? buffer source.sendBuffer) calls

/-- The last loop: the buffers of the sessions are cleared. -/
def clearSendBuffers (slots : List Slot) : List Slot :=
  slots.map fun s => if s.hasSession then { s with sendBuffer := [] } else s

/-- `BroadcastPackets`: the slots after it, and the calls it made. -/
def broadcastPackets (slots : List Slot) : Option (List Slot × List SendCall) := do
  let (buffer, calls) ← gather slots slots [] []
  some (clearSendBuffers slots,
    if buffer.length > 0 then calls ++ sendToAll slots buffer else calls)

/-- The version in the comment: every buffer on its own. -/
def broadcastEach (slots : List Slot) : List Slot × List SendCall :=
  (clearSendBuffers slots, slots.flatMap fun source =>
    if !source.hasSession ∨ source.sendBuffer.length = 0 then []
    else sendToAll slots source.sendBuffer)

/-- The buffers there are to send. -/
def sources (slots : List Slot) : List Slot :=
  slots.filter fun s => s.hasSession ∧ s.sendBuffer.length ≠ 0

/-- What the session of the slot `i` is sent, as one stream. -/
def streamTo (i : Nat) (calls : List SendCall) : List UInt8 :=
  (calls.filter (·.target = i)).flatMap (·.bytes)

/-! ## Streams -/

theorem streamTo_append (i : Nat) (calls more : List SendCall) :
    streamTo i (calls ++ more) = streamTo i calls ++ streamTo i more := by
  rw [streamTo, List.filter_append, List.flatMap_append]
  rfl

theorem streamTo_cons (i : Nat) (call : SendCall) (calls : List SendCall) :
    streamTo i (call :: calls) =
      (if call.target = i then call.bytes else []) ++ streamTo i calls := by
  unfold streamTo
  by_cases h : call.target = i
  · simp [h]
  · simp [h]

/-- The inner loop, over slots numbered from `k` on. -/
theorem streamTo_zipIdx (bytes : List UInt8) (i : Nat) : ∀ (slots : List Slot) (k : Nat),
    streamTo i (((slots.zipIdx k).filter (·.1.hasSession)).map fun s => ⟨s.2, bytes⟩) =
      if k ≤ i ∧ slots[i - k]?.any (·.hasSession) then bytes else [] := by
  intro slots
  induction slots with
  | nil => intro k; simp [streamTo]
  | cons slot rest ih =>
      intro k
      rw [List.zipIdx_cons]
      -- a slot without a session is not called
      have hhead : ∀ calls : List SendCall,
          streamTo i ((if slot.hasSession then [(⟨k, bytes⟩ : SendCall)] else []) ++ calls) =
            (if slot.hasSession ∧ k = i then bytes else []) ++ streamTo i calls := by
        intro calls
        cases hs : slot.hasSession with
        | false => simp
        | true => simp [streamTo_cons]
      have hloop : (((slot, k) :: rest.zipIdx (k + 1)).filter (·.1.hasSession)).map
            (fun s => (⟨s.2, bytes⟩ : SendCall)) =
          (if slot.hasSession then [⟨k, bytes⟩] else []) ++
            ((rest.zipIdx (k + 1)).filter (·.1.hasSession)).map fun s => ⟨s.2, bytes⟩ := by
        cases hs : slot.hasSession with
        | false => simp [hs]
        | true => simp [hs]
      rw [hloop, hhead, ih]
      rcases Nat.lt_trichotomy i k with hlt | rfl | hgt
      · rw [if_neg (by omega), if_neg (by omega), if_neg (by omega)]
        rfl
      · rw [if_neg (show ¬ (i + 1 ≤ i ∧ _) by omega)]
        simp
      · have hsub : i - k = (i - (k + 1)) + 1 := by omega
        rw [if_neg (show ¬ (_ ∧ k = i) by omega), hsub, List.getElem?_cons_succ, List.nil_append]
        have hle : k ≤ i ↔ k + 1 ≤ i := by omega
        simp only [hle]

/-- Everybody gets the bytes once, and nobody else gets any. -/
theorem streamTo_sendToAll (slots : List Slot) (bytes : List UInt8) (i : Nat) :
    streamTo i (sendToAll slots bytes) =
      if slots[i]?.any (·.hasSession) then bytes else [] := by
  rw [sendToAll, streamTo_zipIdx bytes i slots 0]
  simp

theorem streamTo_flatMap {α : Type} (i : Nat) (f : α → List SendCall) (l : List α) :
    streamTo i (l.flatMap f) = l.flatMap fun a => streamTo i (f a) := by
  induction l with
  | nil => rfl
  | cons a rest ih => rw [List.flatMap_cons, streamTo_append, ih, List.flatMap_cons]

/-! ## The gathering loop -/

/-- The batches `BroadcastPackets` sends. -/
def batches (slots : List Slot) : List (List Slot) :=
  Batching.batches (fun s => s.sendBuffer.length) bufSize [] (sources slots)

/-- The bytes of a batch. -/
def bytesOf (batch : List Slot) : List UInt8 := batch.flatMap (·.sendBuffer)

theorem length_bytesOf (batch : List Slot) :
    (bytesOf batch).length = Batching.total (fun s => s.sendBuffer.length) batch := by
  rw [bytesOf, List.length_flatMap]
  rfl

theorem sources_skip {s : Slot} {rest : List Slot} (h : !s.hasSession ∨ s.sendBuffer.length = 0) :
    sources (s :: rest) = sources rest := by
  refine List.filter_cons_of_neg ?_
  rw [decide_eq_true_eq]
  rintro ⟨hs, hne⟩
  rcases h with h | h
  · rw [hs] at h
    exact absurd h (by decide)
  · exact hne h

theorem sources_take {s : Slot} {rest : List Slot}
    (h : ¬ (!s.hasSession ∨ s.sendBuffer.length = 0)) :
    sources (s :: rest) = s :: sources rest := by
  refine List.filter_cons_of_pos ?_
  rw [decide_eq_true_eq]
  refine ⟨?_, fun hc => h (.inr hc)⟩
  cases hs : s.hasSession with
  | true => rfl
  | false => exact absurd (.inl (by rw [hs]; rfl)) h

/--
The loop, from some source on, with `batch` in the array: it sends the batches one after
the other, except for the last one, which it leaves in the array.
-/
theorem gather_ok {slots : List Slot} : ∀ (rest batch : List Slot) (calls : List SendCall),
    (∀ s ∈ rest, s.sendBuffer.length ≤ bufSize) → (∀ s ∈ batch, s.sendBuffer.length ≠ 0) →
    Ok (gather slots rest (bytesOf batch) calls) fun r =>
      (if r.1.length > 0 then r.2 ++ sendToAll slots r.1 else r.2) = calls ++
        (Batching.batches (fun s => s.sendBuffer.length) bufSize batch (sources rest)).flatMap
          fun b => sendToAll slots (bytesOf b) := by
  intro rest
  induction rest with
  | nil =>
      intro batch calls _ hbatch
      refine Ok.pure ?_
      cases batch with
      | nil => simp [bytesOf, sources, Batching.batches]
      | cons s batch =>
          have hpos : (bytesOf (s :: batch)).length > 0 := by
            have := hbatch s (List.mem_cons_self ..)
            rw [bytesOf, List.flatMap_cons, List.length_append]
            omega
          rw [if_pos hpos, show sources [] = [] from rfl, Batching.batches, List.flatMap_singleton]
          exact List.cons_ne_nil _ _
  | cons source rest ih =>
      intro batch calls hle hbatch
      have hsource := hle source (List.mem_cons_self ..)
      have hrest : ∀ s ∈ rest, s.sendBuffer.length ≤ bufSize :=
        fun s hs => hle s (List.mem_cons_of_mem _ hs)
      rw [gather]
      split
      · rename_i hskip
        rw [sources_skip hskip]
        exact ih batch calls hrest hbatch
      · rename_i htake
        have hne : source.sendBuffer.length ≠ 0 := fun hc => htake (.inr hc)
        rw [sources_take htake, Batching.batches, ← length_bytesOf]
        split
        · -- the array is sent, and the source is the first in it
          have hcopy : memcpy? [] source.sendBuffer = some (bytesOf [source]) := by
            rw [memcpy?, if_pos (by simpa using hsource)]
            simp [bytesOf]
          rw [hcopy, List.flatMap_cons, ← List.append_assoc]
          refine ih [source] _ hrest fun s hs => ?_
          rw [List.mem_singleton.mp hs]
          exact hne
        · rename_i hfits
          have hcopy : memcpy? (bytesOf batch) source.sendBuffer =
              some (bytesOf (batch ++ [source])) := by
            rw [memcpy?, if_pos (Nat.not_lt.mp hfits)]
            simp [bytesOf]
          rw [hcopy]
          refine ih (batch ++ [source]) calls hrest fun s hs => ?_
          rcases List.mem_append.mp hs with hs | hs
          · exact hbatch s hs
          · rw [List.mem_singleton.mp hs]
            exact hne

/-- **What is sent**: the batches, each to everybody. -/
theorem broadcastPackets_eq {slots : List Slot} (h : ∀ s ∈ slots, s.sendBuffer.length ≤ bufSize) :
    broadcastPackets slots = some (clearSendBuffers slots,
      (batches slots).flatMap fun b => sendToAll slots (bytesOf b)) := by
  obtain ⟨⟨buffer, calls⟩, hgather, hcalls⟩ :=
    @gather_ok slots slots [] [] h fun s hs => absurd hs List.not_mem_nil
  rw [show bytesOf [] = [] from rfl] at hgather
  rw [broadcastPackets, hgather]
  dsimp only [Option.bind_eq_bind, Option.bind_some] at hcalls ⊢
  rw [hcalls, List.nil_append]
  rfl

/-- Without the gathering, every source is a batch of its own. -/
theorem broadcastEach_eq (slots : List Slot) :
    (broadcastEach slots).2 = (sources slots).flatMap fun s => sendToAll slots s.sendBuffer := by
  have hloop : ∀ rest : List Slot, (rest.flatMap fun source =>
      if !source.hasSession ∨ source.sendBuffer.length = 0 then []
      else sendToAll slots source.sendBuffer) =
      (sources rest).flatMap fun s => sendToAll slots s.sendBuffer := by
    intro rest
    induction rest with
    | nil => rfl
    | cons source rest ih =>
        rw [List.flatMap_cons, ih]
        by_cases hskip : !source.hasSession ∨ source.sendBuffer.length = 0
        · rw [if_pos hskip, sources_skip hskip]
          rfl
        · rw [if_neg hskip, sources_take hskip, List.flatMap_cons]
  exact hloop slots

/-- Two buffers that do not fit together, an empty one, and a slot nobody sits in. -/
def fullSlots : List Slot :=
  [⟨true, List.replicate 1500 1⟩, ⟨false, [2]⟩, ⟨true, []⟩, ⟨true, List.replicate 2048 3⟩]

section Room

variable (wire : S2CPacket → List UInt8) (env : RoomEnv)

/-- A slot of a room, with its packets written out. -/
def slotOf (p : Player) : Slot :=
  ⟨(TetrisRoom.findSession env p).isSome, p.sendBuffer.flatMap wire⟩

variable {wire env} (hwire : ∀ packet, (wire packet).length = packet.size)

include hwire

/-- The bytes of some packets are as many as their sizes say. -/
theorem length_wire (packets : List S2CPacket) :
    (packets.flatMap wire).length = (packets.map S2CPacket.size).sum := by
  rw [List.length_flatMap]
  exact congrArg List.sum (List.map_congr_left fun packet _ => hwire packet)

/-- The room's loop over the sources is the loop over their bytes. -/
theorem gather_bytes (slots : List Slot) : ∀ (rest : List Player) (r : TetrisRoom)
    (buffer : List S2CPacket) (calls : List SendCall), (∀ p ∈ rest, p.sendDataSize ≤ bufSize) →
    ∃ sent : List (List S2CPacket),
      (TetrisRoom.gather env r rest buffer).1 = { r with
        out := r.out ++ sent.flatMap fun b => (r.targets env).map fun key => .send key b } ∧
      gather slots (rest.map (slotOf wire env)) (buffer.flatMap wire) calls =
        some ((TetrisRoom.gather env r rest buffer).2.flatMap wire,
          calls ++ sent.flatMap fun b => sendToAll slots (b.flatMap wire)) := by
  intro rest
  induction rest with
  | nil =>
      exact fun r buffer calls _ =>
        ⟨[], by simp [TetrisRoom.gather], by simp [gather, TetrisRoom.gather]⟩
  | cons source rest ih =>
      intro r buffer calls hle
      have hrest : ∀ p ∈ rest, p.sendDataSize ≤ bufSize :=
        fun p hp => hle p (List.mem_cons_of_mem _ hp)
      have hsize : (slotOf wire env source).sendBuffer.length = source.sendDataSize :=
        length_wire hwire source.sendBuffer
      have hsource : source.sendDataSize ≤ bufSize := hle source (List.mem_cons_self ..)
      have hskip : (!(slotOf wire env source).hasSession ∨
            (slotOf wire env source).sendBuffer.length = 0) ↔
          ((TetrisRoom.findSession env source).isNone ∨ source.sendDataSize = 0) := by
        rw [hsize]
        cases hf : TetrisRoom.findSession env source <;> simp [slotOf, hf]
      rw [List.map_cons, gather, TetrisRoom.gather]
      by_cases hno : (TetrisRoom.findSession env source).isNone ∨ source.sendDataSize = 0
      · rw [if_pos hno, if_pos (hskip.mpr hno)]
        exact ih r buffer calls hrest
      rw [if_neg hno, if_neg (mt hskip.mp hno), hsize, length_wire hwire buffer]
      split
      · have hcopy : memcpy? [] (slotOf wire env source).sendBuffer =
            some (source.sendBuffer.flatMap wire) := by
          rw [memcpy?, if_pos (by rw [hsize]; simpa using hsource)]
          rfl
        obtain ⟨sent, hroom, hbytes⟩ := ih (r.sendAll env buffer) source.sendBuffer
          (calls ++ sendToAll slots (buffer.flatMap wire)) hrest
        refine ⟨buffer :: sent, ?_, ?_⟩
        · rw [hroom, TetrisRoom.sendAll, List.flatMap_cons, List.append_assoc]
          rfl
        · rw [hcopy, List.flatMap_cons, ← List.append_assoc]
          exact hbytes
      · rename_i hfits
        have hcopy : memcpy? (buffer.flatMap wire) (slotOf wire env source).sendBuffer =
            some ((buffer ++ source.sendBuffer).flatMap wire) := by
          rw [memcpy?, length_wire hwire, hsize, if_pos (Nat.not_lt.mp hfits), List.flatMap_append]
          rfl
        rw [hcopy]
        exact ih r (buffer ++ source.sendBuffer) calls hrest

/--
**The room's broadcast is `BroadcastPackets` over the bytes of its packets**: it sends the
same batches, and leaves the same buffers.
-/
theorem broadcastPackets_bytes (r : TetrisRoom)
    (hle : ∀ p ∈ r.roomPlayers, p.sendDataSize ≤ bufSize) :
    ∃ sent : List (List S2CPacket),
      (r.broadcastPackets env).out = r.out ++
        sent.flatMap (fun b => (r.targets env).map fun key => .send key b) ∧
      broadcastPackets (r.roomPlayers.map (slotOf wire env)) =
        some ((r.broadcastPackets env).roomPlayers.map (slotOf wire env),
          sent.flatMap fun b => sendToAll (r.roomPlayers.map (slotOf wire env))
          (b.flatMap wire)) := by
  obtain ⟨sent, hroom, hbytes⟩ := @gather_bytes wire env hwire
    (r.roomPlayers.map (slotOf wire env)) r.roomPlayers r [] [] hle
  -- both clear the buffers of the slots with a session
  have hclear : (r.forSessions env Player.clearSendBuffer).roomPlayers.map (slotOf wire env) =
      clearSendBuffers (r.roomPlayers.map (slotOf wire env)) := by
    rw [TetrisRoom.forSessions, clearSendBuffers, List.map_map, List.map_map]
    refine List.map_congr_left fun p _ => ?_
    rw [Function.comp_apply, Function.comp_apply]
    by_cases hsession : (TetrisRoom.findSession env p).isSome = true
    · rw [if_pos hsession, if_pos (show (slotOf wire env p).hasSession = true from hsession)]
      rfl
    · rw [if_neg hsession, if_neg (show ¬ (slotOf wire env p).hasSession = true from hsession)]
  rw [show ([] : List S2CPacket).flatMap wire = [] from rfl, List.nil_append] at hbytes
  rw [TetrisRoom.broadcastPackets, broadcastPackets, hbytes]
  dsimp only [Option.bind_eq_bind, Option.bind_some]
  rw [hroom]
  generalize (TetrisRoom.gather env r r.roomPlayers []).2 = buffer
  have hpos : (buffer.flatMap wire).length > 0 ↔ (buffer.map S2CPacket.size).sum > 0 := by
    rw [length_wire hwire]
  by_cases hsum : (buffer.map S2CPacket.size).sum > 0
  · refine ⟨sent ++ [buffer], ?_, ?_⟩
    · rw [if_pos hsum, List.flatMap_append, List.flatMap_singleton, ← List.append_assoc]
      rfl
    · rw [if_pos hsum, if_pos (hpos.mpr hsum), List.flatMap_append, List.flatMap_singleton]
      exact congrArg (fun slots => some (slots, _)) hclear.symm
  · refine ⟨sent, ?_, ?_⟩
    · rw [if_neg hsum]
      rfl
    · rw [if_neg hsum, if_neg (mt hpos.mp hsum)]
      exact congrArg (fun slots => some (slots, _)) hclear.symm

end Room

end Broadcast

end ProjectTetris

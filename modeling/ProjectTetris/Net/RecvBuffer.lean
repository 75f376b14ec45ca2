import ProjectTetris.Net.S2CType

/-!
# The receive buffer

`IOThread::ProcessRecvBuffer` and what it uses of a `Session`: a buffer of `BUF_SIZE`
bytes of which the first `remaining_data_size_` are still to be consumed, and the queue
of session tasks. A receive writes behind those bytes; its completion cuts off the
packets that are whole and moves what is left to the front.

Sizes are natural numbers, so the source's tests for negative ones are not repeated.
Reads of the local copy are checked: `none` is a read past what has been received.
-/

namespace ProjectTetris

/-- The session tasks the receive path enqueues. -/
inductive SessionTask where
  /-- `SessionPacketTask`, with its copy of the packet. -/
  | packet (bytes : List UInt8)
  | disconnect
  deriving DecidableEq, Repr

/-- `recv_over_.packet_buffer`. -/
structure RecvOver where
  packetBuffer : List UInt8
  size : packetBuffer.length = bufSize

namespace RecvOver

/-- Bytes written at `offset`, as far as the buffer goes. -/
def write (o : RecvOver) (offset : Nat) (bytes : List UInt8) : RecvOver where
  packetBuffer := (o.packetBuffer.take offset ++ bytes ++
    o.packetBuffer.drop (offset + bytes.length)).take bufSize
  size := by
    have := o.size
    simp only [List.length_append, List.length_take, List.length_drop]
    omega

/-- What has been written at `offset` can be read there. -/
theorem take_write (o : RecvOver) (offset : Nat) (bytes : List UInt8)
    (h : offset + bytes.length ≤ bufSize) :
    (o.write offset bytes).packetBuffer.take (offset + bytes.length) =
      o.packetBuffer.take offset ++ bytes := by
  have hsize := o.size
  have hlen : (o.packetBuffer.take offset ++ bytes).length = offset + bytes.length := by
    simp only [List.length_append, List.length_take]
    omega
  rw [write, List.take_take, Nat.min_eq_left h,
    List.take_append_of_le_length (Nat.le_of_eq hlen.symm), ← hlen, List.take_length]

end RecvOver

/-- `header->size`, little-endian. -/
def headerSize (packet : List UInt8) : Option Nat := do
  let low ← packet[0]?
  let high ← packet[1]?
  some (low.toNat + 256 * high.toNat)

/-- What the receive path uses of a `Session`. -/
structure RecvSession where
  isActive : Bool
  recvOver : RecvOver
  remainingDataSize : Nat
  sessionTasks : List SessionTask
  /-- The length `RecvPacket` has posted a receive with, if one is outstanding. -/
  posted : Option Nat

namespace RecvSession

/-- `EnqueueSessionTask`, which refuses when the session is no longer active. -/
def enqueueSessionTask (s : RecvSession) (task : SessionTask) : RecvSession × Bool :=
  if s.isActive then ({ s with sessionTasks := s.sessionTasks ++ [task] }, true) else (s, false)

def requestDisconnect (s : RecvSession) : RecvSession := (s.enqueueSessionTask .disconnect).1

/-- `RecvPacket`: the next receive goes behind what is left. -/
def recvPacket (s : RecvSession) : RecvSession :=
  if s.isActive then { s with posted := some (bufSize - s.remainingDataSize) } else s

/--
The loop of `ProcessRecvBuffer` over the local copy `packetBuffer`, from `offset` on:
the session, the final offset and `should_receive`. `none` is also what is left of `fuel`
turns if the loop has not come to an end.
-/
def recvLoop (packetBuffer : List UInt8) :
    Nat → RecvSession → Nat → Option (RecvSession × Nat × Bool)
  | 0, _, _ => none
  | fuel + 1, s, offset =>
      if packetBuffer.length - offset < packetHeaderSize then some (s, offset, true)
      else do
        let packet := packetBuffer.drop offset
        let packetSize ← headerSize packet
        if packetSize < packetHeaderSize ∨ packetSize > bufSize then
          some (s.requestDisconnect, offset, false)
        else if packetBuffer.length - offset < packetSize then some (s, offset, true)
        else
          let (s, enqueued) := s.enqueueSessionTask (.packet (packet.take packetSize))
          if enqueued then recvLoop packetBuffer fuel s (offset + packetSize)
          else some (s, offset, false)

/-- `remaining_data_size_ -= offset` and the `memmove` of what is left to the front. -/
def consume (s : RecvSession) (offset : Nat) : RecvSession :=
  let remaining := s.remainingDataSize - offset
  { s with
    remainingDataSize := remaining
    recvOver := s.recvOver.write 0 ((s.recvOver.packetBuffer.drop offset).take remaining) }

/-- `ProcessRecvBuffer`, with the turns its loop is given. -/
def processRecvBuffer (s : RecvSession) (recvBytes fuel : Nat) : Option (RecvSession × Bool) :=
  if s.remainingDataSize > bufSize ∨ recvBytes > bufSize - s.remainingDataSize then
    some (s.requestDisconnect, false)
  else do
    let s := { s with remainingDataSize := s.remainingDataSize + recvBytes }
    let (s, offset, shouldReceive) ←
      recvLoop (s.recvOver.packetBuffer.take s.remainingDataSize) fuel s 0
    some (s.consume offset, shouldReceive)

/-- A receive has brought these bytes, to where `RecvPacket` wanted them. -/
def receive (s : RecvSession) (bytes : List UInt8) : RecvSession :=
  { s with recvOver := s.recvOver.write s.remainingDataSize bytes, posted := none }

/-- `ProcessReceiveCompletion`: `result` is that of the receive, `transferredBytes` its length. -/
def processReceiveCompletion (s : RecvSession) (result : Bool) (transferredBytes fuel : Nat) :
    Option RecvSession :=
  if !result ∨ transferredBytes = 0 then some s.requestDisconnect
  else do
    let (s, shouldReceive) ← s.processRecvBuffer transferredBytes fuel
    some (if shouldReceive then s.recvPacket else s)

end RecvSession

end ProjectTetris

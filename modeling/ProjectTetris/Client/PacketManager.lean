import ProjectTetris.Client.PacketStructs
import ProjectTetris.Net.RecvBuffer

/-!
# The client's receive path

`packet_manager.py`: received bytes are collected in `recv_buffer`, whole packets cut off,
unpacked and put into a queue. `queue` here is everything that has been put into it; a
full queue makes `process_packet` wait, not lose anything.
-/

namespace ProjectTetris.Client

structure PacketManager where
  recvBuffer : List UInt8
  queue : List RecvPacket
  deriving DecidableEq, Repr

namespace PacketManager

/-- `__init__`. -/
def init : PacketManager := ⟨[], []⟩

/-- The rest of a message is what its header's size counts beyond the format. -/
def bytesToStruct (pkt : List UInt8) : Except PyError RecvPacket := do
  match ← unpackFrom headerFmt pkt 0 with
  | [.int packetSize, .int pktType] =>
      match packetRegistry pktType.toNat with
      | none => .error (.notReceivable pktType.toNat)
      | some cls =>
          if pktType.toNat = s2cMessage then
            let frontValues ← unpackFrom cls.fmt pkt 0
            let messageSize := packetSize.toNat - calcsize cls.fmt
            let messageValues ← unpackFrom [.s messageSize] pkt (calcsize cls.fmt)
            cls.fillData (frontValues ++ messageValues)
          else
            let unpackedData ← unpack cls.fmt pkt
            cls.fillData unpackedData
  | _ => .error .structError

/-- `merge_packet`. -/
def mergePacket (m : PacketManager) (pkt : List UInt8) : PacketManager :=
  { m with recvBuffer := m.recvBuffer ++ pkt }

/-- The loop of `process_packet`: the queue, and the offset unless an exception is raised. -/
def processLoop (buf : List UInt8) :
    Nat → Nat → List RecvPacket → List RecvPacket × Except PyError Nat
  | 0, offset, queue => (queue, .ok offset)
  | fuel + 1, offset, queue =>
      if buf.length - offset < packetHeaderSize then (queue, .ok offset)
      else
        match headerSize (buf.drop offset) with
        | none => (queue, .error .structError)
        | some size =>
            if size < packetHeaderSize then
              (queue, .error (.valueError s!"Invalid packet size: {size}"))
            else if buf.length - offset < size then (queue, .ok offset)
            else
              match bytesToStruct ((buf.drop offset).take size) with
              | .error e => (queue, .error e)
              | .ok data => processLoop buf fuel (offset + size) (queue ++ [data])

/-- `process_packet`. Every turn of the loop but the last takes bytes off. -/
def processPacket (m : PacketManager) : PacketManager × Except PyError Unit :=
  match processLoop m.recvBuffer (m.recvBuffer.length + 1) 0 m.queue with
  | (queue, .ok offset) => (⟨m.recvBuffer.drop offset, queue⟩, .ok ())
  | (queue, .error e) => ({ m with queue := queue }, .error e)

/-- `recv_loop`, which an exception ends. -/
def recvLoop : PacketManager → List (List UInt8) → PacketManager × Except PyError Unit
  | m, [] => (m, .ok ())
  | m, chunk :: chunks =>
      match (m.mergePacket chunk).processPacket with
      | (m', .ok ()) => recvLoop m' chunks
      | (m', .error e) => (m', .error e)

end PacketManager

end ProjectTetris.Client

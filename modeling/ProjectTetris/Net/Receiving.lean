import ProjectTetris.Lib.Framing
import ProjectTetris.Net.RecvBuffer

/-!
# Receiving does not depend on chunking

`packetFramer` is what the packets of a stream are: cut at `header.size` while that size
is between a header and `BUF_SIZE`. `Receiving` is a run of the receive path, one
completed receive after the other. Whatever the receives bring at a time, the tasks
enqueued so far and the bytes left over are those of one cut through everything received.
-/

namespace ProjectTetris

open Framing

/-! ## The packets of a stream -/

theorem headerSize_isSome {l : List UInt8} (h : packetHeaderSize ≤ l.length) :
    ∃ size, headerSize l = some size := by
  match l, h with
  | low :: high :: rest, _ => exact ⟨_, rfl⟩

theorem headerSize_append {l : List UInt8} {size : Nat} (more : List UInt8)
    (h : headerSize l = some size) : headerSize (l ++ more) = some size := by
  match l, h with
  | low :: high :: rest, h => exact h

/-- `PACKET_HEADER`. -/
def packetHeader : Header UInt8 where
  length := packetHeaderSize
  pos := by decide
  announced := headerSize
  isSome := headerSize_isSome
  append := headerSize_append

/-- `Header.front_cases`, in the words of the packets. -/
theorem packetFront_cases {limit : Nat} (l : List UInt8) :
    (packetHeader.front limit l = .incomplete ∧ (l.length < packetHeaderSize ∨
      ∃ size, headerSize l = some size ∧ packetHeaderSize ≤ size ∧ size ≤ limit ∧
      l.length < size)) ∨
    (packetHeader.front limit l = .corrupt ∧ packetHeaderSize ≤ l.length ∧
      ∃ size, headerSize l = some size ∧ (size < packetHeaderSize ∨ size > limit)) ∨
    ∃ size, packetHeader.front limit l = .frame size ∧ headerSize l = some size ∧
      packetHeaderSize ≤ size ∧ size ≤ limit ∧ size ≤ l.length :=
  packetHeader.front_cases l

/-- The framing of the client-to-server stream. -/
def packetFramer : Framer UInt8 := packetHeader.framer bufSize

/-! ## The loop -/

/-- The tasks a cut stands for: its packets, and a disconnect if it ended in a bad header. -/
def tasksOf (c : Cut UInt8) : List SessionTask :=
  c.frames.map .packet ++ if c.corrupt then [.disconnect] else []

namespace RecvSession

theorem enqueueSessionTask_eq {s : RecvSession} (h : s.isActive = true) (task : SessionTask) :
    s.enqueueSessionTask task = ({ s with sessionTasks := s.sessionTasks ++ [task] }, true) := by
  rw [enqueueSessionTask, if_pos h]

/-- **The loop cuts what it finds**, in as many turns as there are bytes. -/
theorem recvLoop_ok {buffer : List UInt8} : ∀ {fuel : Nat} {s : RecvSession} {offset : Nat},
    s.isActive = true → offset ≤ buffer.length → buffer.length - offset < fuel →
    recvLoop buffer fuel s offset =
      some ({ s with sessionTasks := s.sessionTasks ++ tasksOf (packetFramer.cut
        (buffer.drop offset)) },
        buffer.length - (packetFramer.cut (buffer.drop offset)).rest.length,
        !(packetFramer.cut (buffer.drop offset)).corrupt)
  | fuel + 1, s, offset, hactive, hoffset, hfuel => by
      have hback : buffer.length - (buffer.length - offset) = offset := by omega
      have hlen : (buffer.drop offset).length = buffer.length - offset := List.length_drop
      rw [recvLoop]
      rcases packetFront_cases (buffer.drop offset) with
        ⟨hfront, hwhy⟩ | ⟨hfront, hmin, size, hheader, hbad⟩ | ⟨size, hfront, hheader,
          hmin, hmax, hle⟩
      · rw [Framer.cut_of_incomplete hfront]
        have hdone : tasksOf ⟨[], buffer.drop offset, false⟩ = [] := rfl
        have hend : some (s, offset, true) = some ({ s with sessionTasks := s.sessionTasks ++ [] },
            buffer.length - (buffer.drop offset).length, !false) := by
          rw [List.append_nil, hlen, hback]
          rfl
        rw [hdone, ← hend]
        rcases hwhy with hshort | ⟨size, hheader, hmin, hmax, hshort⟩
        · rw [if_pos (by omega)]
        · by_cases hhead : buffer.length - offset < packetHeaderSize
          · rw [if_pos hhead]
          · rw [if_neg hhead]
            simp only [hheader, Option.bind_eq_bind, Option.bind_some]
            rw [if_neg (by omega), if_pos (by omega)]
      · rw [Framer.cut_of_corrupt hfront, if_neg (by omega)]
        simp only [hheader, Option.bind_eq_bind, Option.bind_some]
        rw [if_pos hbad, requestDisconnect, enqueueSessionTask_eq hactive, hlen,
          hback]
        rfl
      · rw [Framer.cut_of_frame hfront, if_neg (by omega)]
        simp only [hheader, Option.bind_eq_bind, Option.bind_some]
        rw [if_neg (by omega), if_neg (by omega), enqueueSessionTask_eq hactive]
        have hpos : 0 < size := Nat.lt_of_lt_of_le (by decide) hmin
        have ih := @recvLoop_ok buffer fuel
          { s with sessionTasks := s.sessionTasks ++ [.packet ((buffer.drop offset).take size)] }
          (offset + size) hactive (by omega) (by omega)
        dsimp only
        rw [if_pos rfl, ih, List.drop_drop]
        simp only [tasksOf, List.map_cons, List.append_assoc, List.cons_append, List.nil_append]

/-! ## One completed receive -/

/-- The session of a stream, between two completions. -/
structure Holds (stream : List UInt8) (s : RecvSession) : Prop where
  active : s.isActive = true
  tasks : s.sessionTasks = tasksOf (packetFramer.cut stream)
  remaining : s.remainingDataSize = (packetFramer.cut stream).rest.length
  leftover : s.recvOver.packetBuffer.take s.remainingDataSize = (packetFramer.cut stream).rest
  posted : s.posted = if (packetFramer.cut stream).corrupt then none
    else some (bufSize - s.remainingDataSize)

theorem tasksOf_append {l : List UInt8} (more : List UInt8)
    (h : (packetFramer.cut l).corrupt = false) :
    tasksOf (packetFramer.cut (l ++ more)) =
      tasksOf (packetFramer.cut l) ++
        tasksOf (packetFramer.cut ((packetFramer.cut l).rest ++ more)) := by
  rw [Framer.cut_append more h]
  simp only [tasksOf, h, List.map_append, List.append_assoc, Bool.false_eq_true, if_false,
    List.nil_append]

/-- What has not been cut off is what is left, and is moved to the front. -/
theorem consume_ok {s : RecvSession} {front rest : List UInt8}
    (hbuffer : s.recvOver.packetBuffer.take s.remainingDataSize = front ++ rest)
    (hsize : s.remainingDataSize = front.length + rest.length)
    (hle : s.remainingDataSize ≤ bufSize) :
    (s.consume front.length).remainingDataSize = rest.length ∧
      (s.consume front.length).recvOver.packetBuffer.take rest.length = rest := by
  have hremaining : s.remainingDataSize - front.length = rest.length := by omega
  have hmoved :
      (s.recvOver.packetBuffer.drop front.length).take (s.remainingDataSize - front.length) =
      rest := by
    rw [← List.drop_take, hbuffer, List.drop_left]
  refine ⟨hremaining, ?_⟩
  have hwrite := RecvOver.take_write s.recvOver 0 rest (by omega)
  rw [Nat.zero_add, List.take_zero, List.nil_append] at hwrite
  rw [consume]
  dsimp only
  rw [hmoved, hwrite]

/-- **One completed receive**, of any number of bytes that fit. -/
theorem holds_receive {stream bytes : List UInt8} {s : RecvSession} {fuel : Nat}
    (h : Holds stream s) (hcorrupt : (packetFramer.cut stream).corrupt = false) (hpos : bytes ≠ [])
    (hle : bytes.length ≤ bufSize - s.remainingDataSize) (hfuel : bufSize < fuel) :
    ∃ s', (s.receive bytes).processReceiveCompletion true bytes.length fuel = some s' ∧
      Holds (stream ++ bytes) s' := by
  let rest := (packetFramer.cut stream).rest
  have hrest : s.remainingDataSize = rest.length := h.remaining
  have hlt : rest.length < bufSize := packetHeader.rest_lt (by decide) hcorrupt
  have hlength : 0 < bytes.length := List.length_pos_iff.mpr hpos
  -- the bytes received, behind what was left
  have hcopy : (s.receive bytes).recvOver.packetBuffer.take (s.remainingDataSize + bytes.length) =
      rest ++ bytes := by
    have hwrite := RecvOver.take_write s.recvOver s.remainingDataSize bytes
      (show s.remainingDataSize + bytes.length ≤ bufSize by omega)
    rw [receive, hwrite, h.leftover]
  let s₁ : RecvSession :=
    { s.receive bytes with remainingDataSize := s.remainingDataSize + bytes.length }
  let c := packetFramer.cut (rest ++ bytes)
  have hlen : (rest ++ bytes).length = rest.length + bytes.length := List.length_append
  have hloop := @recvLoop_ok (rest ++ bytes) fuel s₁ 0 h.active (Nat.zero_le _) (by omega)
  rw [List.drop_zero] at hloop
  have hsplit : c.frames.flatten ++ c.rest = rest ++ bytes := Framer.cut_flatten _
  have hoffset : (rest ++ bytes).length - c.rest.length = c.frames.flatten.length := by
    rw [← hsplit, List.length_append]
    omega
  let s₂ : RecvSession := { s₁ with sessionTasks := s₁.sessionTasks ++ tasksOf c }
  obtain ⟨hremaining, hleftover⟩ := @consume_ok s₂ c.frames.flatten c.rest
    (by rw [hsplit]; exact hcopy)
    (by rw [← List.length_append, hsplit, hlen, ← hrest])
    (show s.remainingDataSize + bytes.length ≤ bufSize by omega)
  have hprocess : (s.receive bytes).processRecvBuffer bytes.length fuel =
      some (s₂.consume c.frames.flatten.length, !c.corrupt) := by
    rw [processRecvBuffer,
      if_neg (by show ¬ (s.remainingDataSize > _ ∨ _ > _ - s.remainingDataSize); omega)]
    show ((recvLoop ((s.receive bytes).recvOver.packetBuffer.take
      (s.remainingDataSize + bytes.length)) fuel s₁ 0).bind _) = _
    rw [hcopy, hloop, Option.bind_some, hoffset]
  have hcut := Framer.cut_append (F := packetFramer) bytes hcorrupt
  rw [processReceiveCompletion, if_neg (by simp [hpos]), hprocess]
  refine ⟨_, rfl, ?_⟩
  have hactive : (s₂.consume c.frames.flatten.length).isActive = true := h.active
  have htasks : (s₂.consume c.frames.flatten.length).sessionTasks =
      tasksOf (packetFramer.cut (stream ++ bytes)) := by
    rw [tasksOf_append bytes hcorrupt, ← h.tasks]
    rfl
  cases hc : c.corrupt with
  | true =>
      refine ⟨hactive, htasks, by rw [hcut]; exact hremaining, ?_, ?_⟩
      · rw [hcut]; exact (congrArg (List.take · _) hremaining).trans hleftover
      · rw [hcut]
        show none = _
        rw [if_pos hc]
  | false =>
      have hposted : (s₂.consume c.frames.flatten.length).recvPacket =
          { s₂.consume c.frames.flatten.length with
          posted := some (bufSize - (s₂.consume c.frames.flatten.length).remainingDataSize) } := by
        rw [recvPacket, if_pos hactive]
      simp only [Bool.not_false, if_true]
      rw [hposted]
      refine ⟨hactive, htasks, by rw [hcut]; exact hremaining, ?_, ?_⟩
      · rw [hcut]; exact (congrArg (List.take · _) hremaining).trans hleftover
      · rw [hcut]
        exact (if_neg (by rw [hc]; decide)).symm

/-! ## Runs -/

/--
A run of the receive path: what its completed receives have brought, and the session now.
A receive is completed only while one is posted, and brings between one byte and as many
as it was posted for.
-/
inductive Receiving : List (List UInt8) → RecvSession → Prop
  | posted {s : RecvSession} (hactive : s.isActive = true) (hremaining : s.remainingDataSize = 0)
      (htasks : s.sessionTasks = []) : Receiving [] s.recvPacket
  | completed {chunks : List (List UInt8)} {s s' : RecvSession}
      (h : Receiving chunks s) {len : Nat}
      (hposted : s.posted = some len) (bytes : List UInt8) (hpos : bytes ≠ [])
      (hle : bytes.length ≤ len)
      (hstep : (s.receive bytes).processReceiveCompletion true bytes.length
        (bufSize + 1) = some s') :
      Receiving (chunks ++ [bytes]) s'

/-- A posted receive has room for what the buffer does not hold yet. -/
theorem Holds.of_posted {stream : List UInt8} {s : RecvSession} {len : Nat} (h : Holds stream s)
    (hposted : s.posted = some len) :
    (packetFramer.cut stream).corrupt = false ∧ len = bufSize - s.remainingDataSize := by
  have hp := h.posted
  rw [hposted] at hp
  cases hc : (packetFramer.cut stream).corrupt with
  | true => rw [hc] at hp; exact absurd hp (by simp)
  | false =>
      rw [hc] at hp
      exact ⟨rfl, Option.some.inj hp⟩

theorem holds_receiving {chunks : List (List UInt8)} {s : RecvSession} (h : Receiving chunks s) :
    Holds chunks.flatten s := by
  induction h with
  | @posted s hactive hremaining htasks =>
      have hposted : s.recvPacket = { s with posted := some (bufSize - s.remainingDataSize) } := by
        rw [recvPacket, if_pos hactive]
      rw [hposted]
      exact ⟨hactive, htasks, hremaining, by rw [hremaining]; rfl, rfl⟩
  | completed h hposted bytes hpos hle hstep ih =>
      obtain ⟨hcorrupt, rfl⟩ := ih.of_posted hposted
      obtain ⟨s', hs', hholds⟩ := holds_receive ih hcorrupt hpos hle (Nat.lt_succ_self _)
      rw [hstep] at hs'
      injection hs' with hs'
      rw [List.flatten_append, List.flatten_singleton, hs']
      exact hholds

/-- What receiving a stream in these chunks has led to. -/
structure ReceivedWhole (chunks : List (List UInt8)) (s : RecvSession) : Prop where
  /-- The packets, in order, and then the disconnect if there was a bad header. -/
  tasks : s.sessionTasks = (packetFramer.cut chunks.flatten).frames.map .packet ++
    if (packetFramer.cut chunks.flatten).corrupt then [.disconnect] else []
  packets : ∀ packet ∈ (packetFramer.cut chunks.flatten).frames,
    headerSize packet = some packet.length ∧
    packetHeaderSize ≤ packet.length ∧ packet.length ≤ bufSize
  /-- The packets and the bytes left in the buffer are all that was received. -/
  leftover : (packetFramer.cut chunks.flatten).frames.flatten ++
    s.recvOver.packetBuffer.take s.remainingDataSize = chunks.flatten
  /-- A disconnect is requested for a bad header, and for nothing else. -/
  disconnect : (packetFramer.cut chunks.flatten).corrupt = true ↔
    packetHeaderSize ≤ s.remainingDataSize ∧ ∃ size,
      headerSize (s.recvOver.packetBuffer.take s.remainingDataSize) = some size ∧
        (size < packetHeaderSize ∨ size > bufSize)
  /-- Otherwise the next receive is posted, for one byte at least. -/
  posted : s.posted = (if (packetFramer.cut chunks.flatten).corrupt then none
    else some (bufSize - s.remainingDataSize)) ∧
    ((packetFramer.cut chunks.flatten).corrupt = false → s.remainingDataSize < bufSize)
  /-- Where the receiving has ended, no continuation of the stream has more packets. -/
  ended : s.posted = none → ∀ more : List UInt8,
    (packetFramer.cut (chunks.flatten ++ more)).frames = (packetFramer.cut chunks.flatten).frames
  /-- Whatever the next receive brings, the loop over it comes to an end. -/
  goesOn : ∀ (len : Nat) (bytes : List UInt8), s.posted = some len → bytes ≠ [] →
    bytes.length ≤ len →
    ∃ s', (s.receive bytes).processReceiveCompletion true bytes.length (bufSize + 1) = some s'

/-- **Receive framing is independent of chunking.** -/
theorem receiving_whole {chunks : List (List UInt8)} {s : RecvSession} (h : Receiving chunks s) :
    ReceivedWhole chunks s := by
  have hholds := holds_receiving h
  have hleft := hholds.leftover
  refine ⟨hholds.tasks, fun packet hp => packetHeader.frame_of_mem hp, ?_, ?_,
    ⟨hholds.posted, fun hc => ?_⟩, fun hnone more => ?_, fun len bytes hposted hpos hle => ?_⟩
  · rw [hleft, Framer.cut_flatten]
  · rw [hleft, hholds.remaining]
    exact packetHeader.corrupt_iff
  · rw [hholds.remaining]
    exact packetHeader.rest_lt (by decide) hc
  · have hc : (packetFramer.cut chunks.flatten).corrupt = true := by
      have hp := hholds.posted
      rw [hnone] at hp
      cases hc : (packetFramer.cut chunks.flatten).corrupt with
      | true => rfl
      | false => rw [hc] at hp; exact absurd hp (by simp)
    rw [Framer.cut_append_of_corrupt more hc]
  · obtain ⟨hcorrupt, rfl⟩ := hholds.of_posted hposted
    obtain ⟨s', hs', _⟩ := holds_receive hholds hcorrupt hpos hle (Nat.lt_succ_self _)
    exact ⟨s', hs'⟩

/-! ### A packet in two parts -/

/-- `InitSession`, as far as receiving goes. -/
def init : RecvSession where
  isActive := true
  recvOver := ⟨List.replicate bufSize 0, List.length_replicate⟩
  remainingDataSize := 0
  sessionTasks := []
  posted := none

/-- Receives completed one after the other, as long as there is one posted that has room. -/
def receiveAll : RecvSession → List (List UInt8) → Option RecvSession
  | s, [] => some s
  | s, bytes :: rest =>
      if bytes ≠ [] ∧ s.posted.any (bytes.length ≤ ·) then
        ((s.receive bytes).processReceiveCompletion true bytes.length (bufSize + 1)).bind
          (receiveAll · rest)
      else none

theorem receiving_receiveAll : ∀ {chunks rest : List (List UInt8)} {s s' : RecvSession},
    Receiving chunks s → receiveAll s rest = some s' → Receiving (chunks ++ rest) s'
  | chunks, [], s, s', h, hall => by
      injection hall with hall
      rw [List.append_nil, ← hall]
      exact h
  | chunks, bytes :: rest, s, s', h, hall => by
      rw [receiveAll] at hall
      split at hall
      · rename_i hfits
        obtain ⟨len, hposted, hle⟩ := (Option.any_eq_true _ _).mp hfits.2
        obtain ⟨s₁, hstep, hall⟩ := Option.bind_eq_some_iff.mp hall
        have hnext := h.completed hposted bytes hfits.1 (of_decide_eq_true hle) hstep
        rw [show chunks ++ bytes :: rest = chunks ++ [bytes] ++ rest by simp]
        exact receiving_receiveAll hnext hall
      · exact absurd hall (by simp)

/-- A `C2S_MOVE` that arrives in two parts, and behind it a header with a size of two. -/
theorem receiving_whole_move : ∃ s, Receiving [[4, 0], [23, 3, 2, 0, 9]] s ∧
    s.sessionTasks = [.packet [4, 0, 23, 3], .disconnect] ∧
    ReceivedWhole [[4, 0], [23, 3, 2, 0, 9]] s := by
  have hrun : (receiveAll init.recvPacket [[4, 0], [23, 3, 2, 0, 9]]).any
      (fun s => decide (s.sessionTasks = [.packet [4, 0, 23, 3], .disconnect])) = true := by
    decide +kernel
  obtain ⟨s, hs, htasks⟩ := (Option.any_eq_true _ _).mp hrun
  have h : Receiving [[4, 0], [23, 3, 2, 0, 9]] s :=
    receiving_receiveAll (.posted rfl rfl rfl) hs
  exact ⟨s, h, of_decide_eq_true htasks, receiving_whole h⟩

end RecvSession

end ProjectTetris

import ProjectTetris.Lib.Batching
import ProjectTetris.Net.InsidePacket

/-!
# Lists of packets

`SendRoomList`, `SendLobbyPlayerList`, `SendFriendList` and `SendRankings` gather the info
packets of a list in a buffer of `BUF_SIZE` bytes and send it whenever the next packet does
not fit. What is sent is always a row of whole packets: the batches of `Batching`, with the
length of a packet for its size.
-/

namespace ProjectTetris

open Batching Memory

/-- The buffer holds these packets, one after the other, and nothing else that counts. -/
structure ListBuffer.Holds (b : ListBuffer) (batch : List (List UInt8)) : Prop where
  gathered : ∃ rest, b.packetBuffer = batch.flatten ++ rest
  size : b.packetSize = batch.flatten.length
  length : b.packetBuffer.length = bufSize

namespace ListBuffer

variable {b : ListBuffer} {batch : List (List UInt8)} {packet : List UInt8}

theorem Holds.take (h : b.Holds batch) : b.packetBuffer.take b.packetSize = batch.flatten := by
  obtain ⟨rest, hrest⟩ := h.gathered
  rw [hrest, h.size, List.take_left]

/-- A buffer whose packets have been sent. -/
theorem Holds.emptied (h : b.Holds batch) (sent : List (List UInt8)) :
    ListBuffer.Holds { b with sent := sent, packetSize := 0 } [] :=
  ⟨⟨b.packetBuffer, rfl⟩, rfl, h.length⟩

theorem Holds.total_eq (h : b.Holds batch) : total List.length batch = b.packetSize := by
  rw [h.size, List.length_flatten]
  rfl

/-- A packet is copied behind those the buffer holds. -/
theorem Holds.write (h : b.Holds batch) (hroom : b.packetSize + packet.length ≤ bufSize) :
    ∃ packetBuffer, writeAt b.packetBuffer b.packetSize packet = some packetBuffer ∧
      ListBuffer.Holds
        { b with packetBuffer := packetBuffer, packetSize := b.packetSize + packet.length }
        (batch ++ [packet]) := by
  obtain ⟨rest, hrest⟩ := h.gathered
  have hfits : packet.length ≤ rest.length := by
    have hlength := h.length
    rw [hrest, List.length_append, ← h.size] at hlength
    omega
  have hwrite := writeAt_append batch.flatten hfits
  rw [← hrest, ← h.size] at hwrite
  refine ⟨_, hwrite, ⟨⟨rest.drop packet.length, ?_⟩, ?_, ?_⟩⟩
  · simp
  · simp [h.size]
  · exact (length_writeAt hwrite).trans h.length

/-- One turn of the loop: the buffer is sent first if the packet does not fit. -/
theorem Holds.add (h : b.Holds batch) (hpacket : packet.length ≤ bufSize) :
    ∃ b', b.add packet = some b' ∧
    ((total List.length batch + packet.length > bufSize ∧ b'.sent = b.sent ++ [batch.flatten] ∧
      b'.Holds [packet]) ∨
      (¬ total List.length batch + packet.length > bufSize ∧ b'.sent = b.sent ∧
        b'.Holds (batch ++ [packet]))) := by
  rw [h.total_eq]
  by_cases hfull : b.packetSize + packet.length > bufSize
  · obtain ⟨packetBuffer, hwrite, hholds⟩ :=
      (h.emptied (b.sent ++ [b.packetBuffer.take b.packetSize])).write
      (show _ ≤ _ by simpa using hpacket)
    refine ⟨_, ?_, .inl ⟨hfull, ?_, hholds⟩⟩
    · rw [ListBuffer.add, if_pos hfull]
      dsimp only at hwrite ⊢
      rw [hwrite]
      rfl
    · rw [← h.take]
  · obtain ⟨packetBuffer, hwrite, hholds⟩ := h.write (Nat.le_of_not_lt hfull)
    refine ⟨_, ?_, .inr ⟨hfull, ?_, hholds⟩⟩
    · rw [ListBuffer.add, if_neg hfull, hwrite]
      rfl
    · rfl

/-- What a loop over these packets sends, when the buffer holds `batch`; the last chunk may be
empty. -/
def chunks (batch packets : List (List UInt8)) : List (List (List UInt8)) :=
  if batch = [] ∧ packets = [] then [[]] else batches List.length bufSize batch packets

/-- **The loop sends the batches**, and the buffer once more at the end. -/
theorem loop_chunks :
    ∀ (packets : List (List UInt8)) {b : ListBuffer} {batch : List (List UInt8)}, b.Holds batch →
    (∀ packet ∈ packets, packet.length ≤ bufSize) →
      ∃ b', packets.foldlM ListBuffer.add b = some b' ∧
      b'.sent ++ [b'.packetBuffer.take b'.packetSize] = b.sent ++
        (chunks batch packets).map List.flatten
  | [], b, batch, h, _ => by
      refine ⟨b, rfl, ?_⟩
      rw [h.take, chunks]
      cases batch with
      | nil => rfl
      | cons packet rest => simp [batches]
  | packet :: rest, b, batch, h, hsizes => by
      obtain ⟨b₁, hb₁, hadded⟩ := h.add (hsizes packet (List.mem_cons_self ..))
      have hrest : ∀ packet ∈ rest, packet.length ≤ bufSize :=
        fun p hp => hsizes p (List.mem_cons_of_mem _ hp)
      rw [List.foldlM_cons, hb₁, chunks, if_neg (fun hc => List.cons_ne_nil _ _ hc.2), batches]
      rcases hadded with ⟨hfull, hsent, hholds⟩ | ⟨hroom, hsent, hholds⟩
      · obtain ⟨b', hloop, hchunks⟩ := loop_chunks rest hholds hrest
        refine ⟨b', hloop, ?_⟩
        rw [if_pos hfull, hchunks, hsent, chunks, if_neg (fun hc => List.cons_ne_nil _ _ hc.1)]
        simp
      · obtain ⟨b', hloop, hchunks⟩ := loop_chunks rest hholds hrest
        refine ⟨b', hloop, ?_⟩
        rw [if_neg hroom, hchunks, hsent, chunks, if_neg (fun hc => by simp at hc)]

end ListBuffer

/-- Sent as chunks: each of them whole packets, in no more than `BUF_SIZE` bytes, all of them these
packets, in order. -/
structure SendsWhole (effects : List HandlerEffect) (packets : List (List UInt8))
    (chunks : List (List (List UInt8))) :
    Prop where
  sent : effects = chunks.map fun chunk => .send chunk.flatten
  all : chunks.flatten = packets
  fits : ∀ chunk ∈ chunks, chunk.flatten.length ≤ bufSize

/-- Nothing is written outside the buffer, and what is sent is these packets. -/
def SendsAll (effects : Option (List HandlerEffect)) (packets : List (List UInt8)) : Prop :=
  ∃ sent chunks, effects = some sent ∧ SendsWhole sent packets chunks

theorem sendsAll_nil : SendsAll (some []) [] := ⟨[], [], rfl, rfl, rfl, nofun⟩

theorem sendList_sendsAll {packets : List (List UInt8)}
    (h : ∀ packet ∈ packets, packet.length ≤ bufSize) :
    SendsAll (sendList packets) packets := by
  have hstart : ListBuffer.Holds ⟨[], List.replicate bufSize 0, 0⟩ [] :=
    ⟨⟨_, rfl⟩, rfl, List.length_replicate⟩
  obtain ⟨b, hloop, hchunks⟩ := ListBuffer.loop_chunks packets hstart h
  refine ⟨_, ListBuffer.chunks [] packets, by rw [sendList, hloop]; rfl, ?_, ?_, ?_⟩
  · rw [hchunks, List.nil_append, List.map_map]
    rfl
  · unfold ListBuffer.chunks
    split
    · rename_i hempty
      rw [hempty.2]
      rfl
    · exact batches_flatten packets []
  · intro chunk hchunk
    unfold ListBuffer.chunks at hchunk
    split at hchunk
    · rw [List.mem_singleton.1 hchunk]
      exact Nat.zero_le _
    · rw [List.length_flatten]
      exact (batches_fit h (Nat.zero_le _) chunk hchunk).2

theorem sendList_map_sendsAll (type : S2CType) {α : Type} {l : List α} {f : α → List UInt8}
    (hf : ∀ a, (f a).length = type.size) (hsize : type.size ≤ bufSize) :
    SendsAll (sendList (l.map f)) (l.map f) := by
  refine sendList_sendsAll fun packet hpacket => ?_
  obtain ⟨a, _, rfl⟩ := List.mem_map.1 hpacket
  rw [hf]
  exact hsize

/-! ## The four lists -/

/-- The entries a session in this mode is sent. -/
def shown {α : Type} (c : PacketContext) (filter : α → Bool) (l : List α) : List α :=
  if c.modeState = .lobby then l.filter filter else []

/--
**No entry is lost**, for lists of any length.

Each of the four sends the info packets of exactly the entries that pass its filter, in
their order and each once.
-/
theorem lists_send_all (c : PacketContext) :
    SendsAll (sendRoomList c)
      ((c.activeRooms.filter fun room => room.roomState = .wait || room.roomState = .play).map
        roomInfoPacket) ∧
    SendsAll (sendLobbyPlayerList c)
      ((shown c (fun player => player.playerId ≠ c.playerId && player.modeState = .lobby)
        c.activeSessions).map lobbyPlayerInfoPacket) ∧
    SendsAll (sendFriendList c)
      ((shown c (fun entry => entry.session.all (·.1 = entry.playerId)) c.friends).map
        friendInfoPacket) ∧
    SendsAll (sendRankings c) ((shown c (fun _ => true) c.rankings).map rankingInfoPacket) := by
  refine ⟨?_, ?_, ?_, ?_⟩
  · exact sendList_map_sendsAll .roomInfo length_roomInfoPacket (by decide)
  · unfold sendLobbyPlayerList shown
    by_cases hmode : c.modeState = .lobby
    · rw [if_neg (fun hc => hc hmode), if_pos hmode]
      exact sendList_map_sendsAll .lobbyPlayerInfo length_lobbyPlayerInfoPacket (by decide)
    · rw [if_pos hmode, if_neg hmode]
      exact sendsAll_nil
  · unfold sendFriendList shown
    by_cases hmode : c.modeState = .lobby
    · rw [if_neg (fun hc => hc hmode), if_pos hmode]
      exact sendList_map_sendsAll .friendInfo length_friendInfoPacket (by decide)
    · rw [if_pos hmode, if_neg hmode]
      exact sendsAll_nil
  · unfold sendRankings shown
    by_cases hmode : c.modeState = .lobby
    · rw [if_pos hmode, show c.rankings.filter (fun _ => true) = c.rankings from by simp]
      by_cases hempty : c.rankings = []
      · rw [if_pos (by simp [hempty]), hempty]
        exact sendsAll_nil
      · rw [if_neg (by simp [hmode, hempty])]
        exact sendList_map_sendsAll .rankingInfo length_rankingInfoPacket (by decide)
    · rw [if_pos (by simp [hmode]), if_neg hmode]
      exact sendsAll_nil

end ProjectTetris

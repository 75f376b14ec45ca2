import ProjectTetris.Lib.Checked
import ProjectTetris.Net.PacketHandlers
import ProjectTetris.Net.Receiving

/-!
# Which packets a handler stays inside of

The framing checks the header only, so whether a handler stays inside depends on how long
the packet is and, for text, on where its first zero is. `Covers` says of each type that
reads members which of them have to be there; the relays and the lists are inside for
every packet, but for `C2S_TEST`, which writes four bytes more than its buffer has.
-/

namespace ProjectTetris

open Bytes Memory Checked

/-- A packet that the receive path lets through: as long as its header says. -/
structure FramedPacket where
  bytes : List UInt8
  header : headerSize bytes = some bytes.length
  header_le : packetHeaderSize ≤ bytes.length
  le_bufSize : bytes.length ≤ bufSize

/-- The packets that receiving a stream leads to, whatever its chunks, are such packets. -/
theorem framed_of_received {stream packet : List UInt8}
    (h : packet ∈ (packetFramer.cut stream).frames) :
    ∃ p : FramedPacket, p.bytes = packet := by
  obtain ⟨hheader, hmin, hmax⟩ := packetHeader.frame_of_mem h
  exact ⟨⟨packet, hheader, hmin, hmax⟩, rfl⟩

/-- A relayed packet declares as many bytes as were written, and a copied packet can be read for
its room. -/
def HandlerEffect.Inside : HandlerEffect → Prop
  | .relay packet written => headerSize packet = some written
  | .createRoom packet => ∃ request, readCreateRequest packet = some request
  | _ => True

/-- The handler neither reads nor writes outside, and computes no negative length. -/
def Inside (effects : Option (List HandlerEffect)) : Prop :=
  Ok effects fun effects => ∀ e ∈ effects, e.Inside

/-! ## The members that have to be there -/

/-- The values of the members that decide which others are read. -/
def intAt (packet : List UInt8) (offset : Nat) : Int :=
  signedOfLeBytes ((packet.drop offset).take 4)
def charAt (packet : List UInt8) (offset : Nat) : Int :=
  signedOfLeBytes ((packet.drop offset).take 1)

def typeOf (packet : List UInt8) : Option C2SType :=
  packet[2]?.bind fun type => C2SType.ofCode? type.toNat

/-- The room's size, and the texts if it is one that rooms have. -/
def CreateCovers (packet : List UInt8) : Prop :=
  Fits packet packetHeaderSize 1 ∧ (isRoomSize (charAt packet packetHeaderSize) = true →
    TextFits packet (packetHeaderSize + 1) maxRoomNameSize ∧
      (typeOf packet = some .addPrivateRoom →
      TextFits packet (packetHeaderSize + 1 + maxRoomNameSize) maxRoomPasswordSize))

def LobbyCovers (c : PacketContext) (packet : List UInt8) : Prop :=
  match typeOf packet with
  | some .login => c.isTestMode = false → c.modeState = .login →
      TextFits packet packetHeaderSize maxPlayerIdSize ∧
        TextFits packet (packetHeaderSize + maxPlayerIdSize) maxPlayerPasswordSize
  | some .testLogin => c.isTestMode = true → c.modeState = .login →
      Fits packet packetHeaderSize 4 ∧
        (0 < intAt packet packetHeaderSize → intAt packet packetHeaderSize ≤ maxPlayerCount →
          TextFits packet (packetHeaderSize + 4) maxPlayerIdSize)
  | some .test => False
  | some .addPublicRoom | some .addPrivateRoom => c.beginsTransition = true → CreateCovers packet
  | some .joinPublicRoom => Fits packet packetHeaderSize 8
  | some .joinPrivateRoom =>
      Fits packet packetHeaderSize 8 ∧ TextFits packet (packetHeaderSize + 8) maxRoomPasswordSize
  | some .fastMatching => Fits packet packetHeaderSize 1
  | some .addFriendRequest | some .acceptFriend | some .deleteFriend =>
      c.modeState = .lobby → Fits packet packetHeaderSize 4
  | _ => True

def RoomCovers (room : RoomOfSession) (packet : List UInt8) : Prop :=
  match typeOf packet with
  | some .kick => room.isSingle = false → Fits packet packetHeaderSize 4
  | some .move => room.hasPlayer = true → room.roomState = .play → Fits packet packetHeaderSize 1
  | _ => True

/-- Every member that the handler reached in the session's mode reads is in the packet, which is no
`C2S_TEST` in the lobby or before. -/
def Covers (c : PacketContext) (packet : List UInt8) : Prop :=
  match c.modeState with
  | .none => True
  | .login | .lobby => LobbyCovers c packet
  | .room => ∀ room, c.room = some room → RoomCovers room packet

/-! ## Members -/

variable {α : Type} {packet : List UInt8} {offset n : Nat} {c : PacketContext} {C D : Prop}

theorem inside_some {effects : List HandlerEffect} (h : ∀ e ∈ effects, e.Inside) :
    Inside (some effects) :=
  Ok.pure h

/-- A member is read, and then the handler goes on. -/
theorem inside_bind {x : Option α} {f : α → Option (List HandlerEffect)}
    (hx : (∃ a, x = some a) ↔ C) (hf : ∀ a, x = some a → (Inside (f a) ↔ D)) :
    Inside (x >>= f) ↔ C ∧ D := by
  constructor
  · rintro ⟨effects, h, hinside⟩
    obtain ⟨a, ha, h⟩ := Option.bind_eq_some_iff.1 h
    exact ⟨hx.1 ⟨a, ha⟩, (hf a ha).1 ⟨effects, h, hinside⟩⟩
  · rintro ⟨hC, hD⟩
    obtain ⟨a, ha⟩ := hx.2 hC
    rw [ha]
    exact (hf a ha).2 hD

/-- The last member is read. -/
theorem inside_last {x : Option α} {f : α → Option (List HandlerEffect)}
    (hx : (∃ a, x = some a) ↔ C) (hf : ∀ a, Inside (f a)) : Inside (x >>= f) ↔ C :=
  (inside_bind hx fun a _ => iff_true_intro (hf a)).trans (and_iff_left trivial)

theorem exists_map_iff {β : Type} {x : Option α} {f : α → β} :
    (∃ b, x.map f = some b) ↔ ∃ a, x = some a := by
  cases x <;> simp

theorem readInt_iff : (∃ v, readInt packet offset = some v) ↔ Fits packet offset 4 :=
  exists_map_iff.trans readAt_iff

theorem readChar_iff : (∃ v, readChar packet offset = some v) ↔ Fits packet offset 1 :=
  exists_map_iff.trans readAt_iff

theorem readRoomKey_iff : (∃ v, readRoomKey packet offset = some v) ↔ Fits packet offset 8 :=
  exists_map_iff.trans readAt_iff

theorem charBufToString_iff (hn : 0 < n) : (∃ text, charBufToString packet offset n = some text) ↔
    TextFits packet offset n := textAt_iff hn

theorem readInt_eq {v : Int} (h : readInt packet offset = some v) : v = intAt packet offset := by
  obtain ⟨bytes, hbytes, rfl⟩ := Option.map_eq_some_iff.1 h
  rw [intAt, (readAt_eq hbytes).1]

theorem readChar_eq {v : Int} (h : readChar packet offset = some v) :
    v = charAt packet offset := by
  obtain ⟨bytes, hbytes, rfl⟩ := Option.map_eq_some_iff.1 h
  rw [charAt, (readAt_eq hbytes).1]

/-! ## Lists -/

theorem length_packetOf {type : S2CType} {body : List UInt8}
    (h : body.length = (type.fields.map FieldType.size).sum) :
    (packetOf type body).length = type.size := by
  simp only [packetOf, List.length_append, length_leBytes, h, S2CType.size, packetHeaderSize]

theorem sendList_inside {packets : List (List UInt8)}
    (h : ∀ packet ∈ packets, packet.length ≤ bufSize) :
    Inside (sendList packets) := by
  have hloop : Ok (packets.foldlM ListBuffer.add ⟨[], List.replicate bufSize 0, 0⟩)
      (fun b : ListBuffer => b.packetBuffer.length = bufSize) := by
    refine Ok.foldlM_indexed (I := fun _ (b : ListBuffer) => b.packetBuffer.length = bufSize)
      (n := 0) (by simp) ?_
    intro n b packet hpacket hb
    -- there is room for the packet, at once or after the buffer is sent
    have hroom : ∀ b' : ListBuffer, b'.packetBuffer.length = bufSize →
        b'.packetSize + packet.length ≤ bufSize →
        Ok (do
          let packetBuffer ← writeAt b'.packetBuffer b'.packetSize packet
          some { b' with
            packetBuffer := packetBuffer
            packetSize := b'.packetSize + packet.length })
          (fun b => b.packetBuffer.length = bufSize) := by
      intro b' hb' hle
      obtain ⟨buffer, hbuffer⟩ :=
        writeAt_iff.2 (show b'.packetSize + packet.length ≤ b'.packetBuffer.length by
        rw [hb']
        exact hle)
      exact ⟨_, by rw [hbuffer]; rfl, (length_writeAt hbuffer).trans hb'⟩
    unfold ListBuffer.add
    split
    · exact hroom _ hb (by simpa using h packet hpacket)
    · exact hroom b hb (by omega)
  refine Ok.bind hloop fun b _ => inside_some ?_
  intro e he
  obtain ⟨bytes, _, rfl⟩ := List.mem_map.1 he
  trivial

theorem sendList_map_inside (type : S2CType) {l : List α} {f : α → List UInt8}
    (hf : ∀ a, (f a).length = type.size) (hsize : type.size ≤ bufSize) :
    Inside (sendList (l.map f)) := by
  refine sendList_inside ?_
  intro packet hpacket
  obtain ⟨a, _, rfl⟩ := List.mem_map.1 hpacket
  rw [hf]
  exact hsize

theorem length_roomInfoPacket (room : RoomInfoSnapshot) :
    (roomInfoPacket room).length = S2CType.roomInfo.size := by
  refine length_packetOf ?_
  simp [S2CType.fields, FieldType.size, boolByte]

theorem length_lobbyPlayerInfoPacket (player : LobbyPlayer) :
    (lobbyPlayerInfoPacket player).length = S2CType.lobbyPlayerInfo.size := by
  refine length_packetOf ?_
  simp [S2CType.fields, FieldType.size, maxRoomNameSize, maxPlayerNameSize]

theorem length_friendInfoPacket (entry : FriendEntry) :
    (friendInfoPacket entry).length = S2CType.friendInfo.size := by
  refine length_packetOf ?_
  simp [S2CType.fields, FieldType.size, boolByte]

theorem length_rankingInfoPacket (ranking : RankingInfo) :
    (rankingInfoPacket ranking).length = S2CType.rankingInfo.size := by
  refine length_packetOf ?_
  simp [S2CType.fields, FieldType.size]

theorem sendRoomList_inside (c : PacketContext) : Inside (sendRoomList c) :=
  sendList_map_inside .roomInfo length_roomInfoPacket (by decide)

theorem sendLobbyPlayerList_inside (c : PacketContext) : Inside (sendLobbyPlayerList c) := by
  unfold sendLobbyPlayerList
  split
  · exact inside_some nofun
  · exact sendList_map_inside .lobbyPlayerInfo length_lobbyPlayerInfoPacket (by decide)

theorem sendFriendList_inside (c : PacketContext) : Inside (sendFriendList c) := by
  unfold sendFriendList
  split
  · exact inside_some nofun
  · exact sendList_map_inside .friendInfo length_friendInfoPacket (by decide)

theorem sendRankings_inside (c : PacketContext) : Inside (sendRankings c) := by
  unfold sendRankings
  split
  · exact inside_some nofun
  · exact sendList_map_inside .rankingInfo length_rankingInfoPacket (by decide)

/-! ## The relays -/

theorem headerSize_of_append {size : Nat} (more : List UInt8) (h : size < 256 ^ 2) :
    headerSize (leBytes 2 size ++ more) = some size := by
  have hvalue := ofLeBytes_leBytes h
  simp only [leBytes, ofLeBytes] at hvalue
  simp only [leBytes, headerSize, List.cons_append, List.nil_append, List.getElem?_cons_zero,
    List.getElem?_cons_succ, Option.bind_eq_bind, Option.bind_some, Option.some.injEq]
  omega

/-- The buffer of a message is as long as what is put into it. -/
theorem relayMessage_inside (p : FramedPacket) (c : PacketContext) :
    Inside (relayMessage c p.bytes) := by
  obtain ⟨bytes, hheader, hle, hmax⟩ := p
  simp only [relayMessage, hheader, Option.bind_eq_bind, Option.bind_some]
  split
  · exact inside_some nofun
  · rename_i hne
    rw [if_neg (by omega)]
    have hsize : ((bytes.length : Int) - packetHeaderSize).toNat =
        bytes.length - packetHeaderSize := by omega
    rw [hsize]
    have hmsg : S2CType.message.size = 55 := by decide
    have hheader : packetHeaderSize = 3 := rfl
    have hbuf : bufSize = 2048 := rfl
    generalize hn : bytes.length - packetHeaderSize = n
    have hmod : (S2CType.message.size + n) % 65536 = S2CType.message.size + n :=
      Nat.mod_eq_of_lt (by omega)
    rw [hmod]
    generalize hfront : leBytes 2 (S2CType.message.size + n) ++ leBytes 1 S2CType.message.code ++
      leBytes 4 c.playerId.toUInt32.toNat ++ stringToCharBuf c.nickname maxPlayerNameSize = front
    have hlength : front.length = S2CType.message.size := by
      rw [← hfront, hmsg]
      simp [maxPlayerNameSize]
    obtain ⟨msg, hread⟩ := readAt_iff.2 (show Fits bytes packetHeaderSize n by unfold Fits; omega)
    have hmsgLength := (readAt_eq hread).2
    have hwrite : writeAt (List.replicate (S2CType.message.size + n) 0) 0 front =
        some (front ++ List.replicate n 0) := by
      have hroom : front.length ≤
          (List.replicate (S2CType.message.size + n) (0 : UInt8)).length := by simp [hlength]
      simpa [hlength] using writeAt_append [] hroom
    have hwrite' : writeAt (front ++ List.replicate n 0) S2CType.message.size msg =
        some (front ++ msg) := by
      have hroom : msg.length ≤ (List.replicate n (0 : UInt8)).length := by simp [hmsgLength]
      simpa [hlength, hmsgLength] using writeAt_append front hroom
    simp only [hwrite, hread, hwrite', Option.bind_some]
    refine inside_some ?_
    intro e he
    rw [List.mem_singleton.1 he]
    show headerSize (front ++ msg) = some (front.length + msg.length)
    rw [hlength, hmsgLength, ← hfront, List.append_assoc, List.append_assoc, List.append_assoc]
    exact headerSize_of_append _ (by omega)

/-- The buffer of a test packet is four bytes shorter than what is put into it. -/
theorem relayTest_outside (p : FramedPacket) (c : PacketContext) : relayTest c p.bytes = none := by
  obtain ⟨bytes, hheader, hle, hmax⟩ := p
  simp only [relayTest, hheader, Option.bind_eq_bind, Option.bind_some]
  cases htime : readAt bytes packetHeaderSize 8 with
  | none => rfl
  | some lastTime =>
      have hfront : (leBytes 2 bytes.length ++ leBytes 1 s2cTestCode ++
          leBytes 4 c.playerId.toUInt32.toNat ++
          lastTime).length = s2cTestPacketSize := by
        simp [(readAt_eq htime).2, s2cTestPacketSize, packetHeaderSize]
      simp only [Option.bind_some]
      generalize leBytes 2 bytes.length ++ leBytes 1 s2cTestCode ++
        leBytes 4 c.playerId.toUInt32.toNat ++
        lastTime = front at hfront ⊢
      cases hwrite : writeAt (List.replicate bytes.length 0) 0 front with
      | none => rfl
      | some sendBuffer =>
          have hbuffer : sendBuffer.length = bytes.length := by
            rw [length_writeAt hwrite, List.length_replicate]
          simp only [Option.bind_some]
          split
          · rfl
          · cases hread : readAt bytes c2sTestPacketSize
              ((bytes.length : Int) - c2sTestPacketSize).toNat with
            | none => rfl
            | some msg =>
                have hmsg := (readAt_eq hread).2
                have hnone : writeAt sendBuffer s2cTestPacketSize msg = none := by
                  refine if_neg ?_
                  rw [hbuffer, hmsg]
                  simp only [s2cTestPacketSize, c2sTestPacketSize, packetHeaderSize]
                  omega
                simp only [Option.bind_some, hnone, Option.bind_none]

/-! ## Creation -/

theorem type_of_framed (hlength : packetHeaderSize ≤ packet.length) :
    ∃ code, packet[2]? = some code ∧ typeOf packet = C2SType.ofCode? code.toNat := by
  have hlt : 2 < packet.length := hlength
  refine ⟨packet[2], List.getElem?_eq_getElem hlt, ?_⟩
  rw [typeOf, List.getElem?_eq_getElem hlt, Option.bind_some]

theorem readCreateRequest_iff (hlength : packetHeaderSize ≤ packet.length) :
    (∃ request, readCreateRequest packet = some request) ↔ CreateCovers packet := by
  obtain ⟨code, hcode, htype⟩ := type_of_framed hlength
  unfold CreateCovers
  rw [htype]
  simp only [readCreateRequest, hcode, Option.bind_eq_bind, Option.bind_some]
  constructor
  · rintro ⟨request, h⟩
    obtain ⟨count, hcount, h⟩ := Option.bind_eq_some_iff.1 h
    refine ⟨readChar_iff.1 ⟨count, hcount⟩, fun hsize => ?_⟩
    rw [← readChar_eq hcount] at hsize
    rw [hsize, Bool.not_true, if_neg nofun] at h
    obtain ⟨roomName, hname, h⟩ := Option.bind_eq_some_iff.1 h
    refine ⟨(charBufToString_iff (by decide)).1 ⟨roomName, hname⟩, fun hprivate => ?_⟩
    rw [if_pos hprivate] at h
    obtain ⟨password, hpassword, _⟩ := Option.bind_eq_some_iff.1 h
    exact (charBufToString_iff (by decide)).1 ⟨password, hpassword⟩
  · rintro ⟨hfits, htexts⟩
    obtain ⟨count, hcount⟩ := readChar_iff.2 hfits
    rw [hcount, Option.bind_some]
    rw [← readChar_eq hcount] at htexts
    by_cases hsize : isRoomSize count = true
    · obtain ⟨hname, hpassword⟩ := htexts hsize
      obtain ⟨roomName, hname⟩ := (charBufToString_iff (by decide)).2 hname
      rw [hsize, Bool.not_true, if_neg nofun, hname, Option.bind_some]
      split
      · rename_i hprivate
        obtain ⟨password, hpassword⟩ := (charBufToString_iff (by decide)).2 (hpassword hprivate)
        exact ⟨_, by rw [hpassword, Option.bind_some]⟩
      · exact ⟨_, rfl⟩
    · rw [if_pos (by simpa using hsize)]
      exact ⟨_, rfl⟩

/-- The copy is the packet. -/
theorem createRoom_iff (p : FramedPacket) : Inside (do
    let size ← headerSize p.bytes
    let copy ← readAt p.bytes 0 size
    some [.createRoom copy]) ↔ CreateCovers p.bytes := by
  have hcopy : readAt p.bytes 0 p.bytes.length = some p.bytes := by simp [readAt]
  rw [p.header]
  simp only [Option.bind_eq_bind, Option.bind_some, hcopy]
  rw [← readCreateRequest_iff p.header_le]
  constructor
  · rintro ⟨effects, h, hinside⟩
    cases h
    exact hinside _ (List.mem_singleton_self _)
  · intro h
    refine inside_some ?_
    intro e he
    rw [List.mem_singleton.1 he]
    exact h

/-! ## Every handler -/

/-- A handler that a guard keeps from reading. -/
theorem inside_guard {P : Prop} [Decidable P] {x : Option (List HandlerEffect)}
    (h : ¬ P → (Inside x ↔ C)) :
    Inside (if P then some [] else x) ↔ (¬ P → C) := by
  by_cases hP : P
  · rw [if_pos hP]
    exact ⟨fun _ hnot => absurd hP hnot, fun _ => inside_some nofun⟩
  · rw [if_neg hP, h hP]
    exact ⟨fun hC _ => hC, fun hC => hC hP⟩

theorem inside_when {P : Prop} [Decidable P] {x : Option (List HandlerEffect)} (h : Inside x ↔ C) :
    Inside (if P then x else some []) ↔ (P → C) := by
  by_cases hP : P
  · rw [if_pos hP, h]
    exact ⟨fun hC _ => hC, fun hC => hC hP⟩
  · rw [if_neg hP]
    exact ⟨fun _ h => absurd h hP, fun _ => inside_some nofun⟩

theorem inside_one (effect : HandlerEffect) (h : effect.Inside) : Inside (some [effect]) := by
  refine inside_some ?_
  intro e he
  rwa [List.mem_singleton.1 he]

theorem processLogin_iff (c : PacketContext) (packet : List UInt8) :
    Inside (processLogin c packet) ↔
    (c.modeState = .login → TextFits packet packetHeaderSize maxPlayerIdSize ∧
      TextFits packet (packetHeaderSize + maxPlayerIdSize) maxPlayerPasswordSize) := by
  unfold processLogin
  rw [inside_guard fun _ => inside_bind (charBufToString_iff (by decide)) fun _ _ =>
    inside_last (charBufToString_iff (by decide)) fun _ =>
      inside_some (by simp [HandlerEffect.Inside])]
  simp only [ne_eq, Decidable.not_not]

theorem processFriend_iff (c : PacketContext) (type : C2SType) (packet : List UInt8) :
    Inside (processFriend c type packet) ↔
    (c.modeState = .lobby → Fits packet packetHeaderSize 4) := by
  unfold processFriend
  rw [inside_guard fun _ => inside_last readInt_iff fun _ =>
    inside_some (by simp [HandlerEffect.Inside])]
  simp only [ne_eq, Decidable.not_not]

theorem processTestLogin_iff (c : PacketContext) (packet : List UInt8) :
    Inside (processTestLogin c packet) ↔
    (c.modeState = .login → Fits packet packetHeaderSize 4 ∧
      (0 < intAt packet packetHeaderSize → intAt packet packetHeaderSize ≤ maxPlayerCount →
        TextFits packet (packetHeaderSize + 4) maxPlayerIdSize)) := by
  have hid : ∀ playerId, readInt packet packetHeaderSize = some playerId →
      (Inside
        (if playerId ≤ 0 ∨ playerId > maxPlayerCount then some [.sendError invalidRequest] else do
        let loginId ← charBufToString packet (packetHeaderSize + 4) maxPlayerIdSize
        some [.testLogin playerId loginId]) ↔
      (0 < intAt packet packetHeaderSize → intAt packet packetHeaderSize ≤ maxPlayerCount →
        TextFits packet (packetHeaderSize + 4) maxPlayerIdSize)) := by
    intro playerId hread
    rw [← readInt_eq hread]
    by_cases hno : playerId ≤ 0 ∨ playerId > maxPlayerCount
    · rw [if_pos hno]
      refine iff_of_true (inside_some (by simp [HandlerEffect.Inside])) ?_
      intro hpos hle
      omega
    · rw [if_neg hno, inside_last (charBufToString_iff (by decide)) fun _ =>
        inside_some (by simp [HandlerEffect.Inside])]
      exact ⟨fun h _ _ => h, fun h => h (by omega) (by omega)⟩
  unfold processTestLogin
  rw [inside_guard fun _ => inside_bind readInt_iff hid]
  simp only [ne_eq, Decidable.not_not]

theorem handleCommon_iff (room : RoomOfSession) (type : Option C2SType) (packet : List UInt8) :
    Inside (room.handleCommon type packet) ↔
      (type = some .move → room.hasPlayer = true → room.roomState = .play →
        Fits packet packetHeaderSize 1) := by
  by_cases hmove : type = some .move
  · subst hmove
    simp only [RoomOfSession.handleCommon]
    rw [inside_guard fun _ => inside_last readChar_iff fun _ =>
      inside_some (by simp [HandlerEffect.Inside])]
    simp
  · refine iff_of_true ?_ (fun h => absurd h hmove)
    unfold RoomOfSession.handleCommon
    split
    · exact inside_some (by simp [HandlerEffect.Inside])
    · exact inside_some (by simp [HandlerEffect.Inside])
    · exact absurd rfl hmove
    · exact inside_some nofun

theorem handlePacket_iff (room : RoomOfSession) (p : FramedPacket) :
    Inside (room.handlePacket p.bytes) ↔ RoomCovers room p.bytes := by
  obtain ⟨code, hcode, htype⟩ := type_of_framed p.header_le
  simp only [RoomOfSession.handlePacket, hcode, RoomCovers, htype, Option.bind_eq_bind,
    Option.bind_some]
  generalize C2SType.ofCode? code.toNat = type
  by_cases hsingle : room.isSingle = true
  · rw [if_pos hsingle]
    split
    · exact iff_of_true (inside_one _ trivial) trivial
    · rw [handleCommon_iff]
      split
      · simp [hsingle]
      · simp
      · rename_i hnot
        exact iff_of_true (fun h => absurd h hnot) trivial
  · rw [if_neg hsingle]
    split
    · exact iff_of_true (inside_one _ trivial) trivial
    · refine (inside_last readInt_iff fun playerId => inside_one (.kick playerId) trivial).trans ?_
      simp [hsingle]
    · rw [handleCommon_iff]
      split
      · rename_i _ hkick
        exact absurd rfl hkick
      · simp
      · rename_i hnot
        exact iff_of_true (fun h => absurd h hnot) trivial

theorem processPacket_iff (c : PacketContext) (p : FramedPacket) :
    Inside (processPacket c p.bytes) ↔ LobbyCovers c p.bytes := by
  obtain ⟨code, hcode, htype⟩ := type_of_framed p.header_le
  simp only [processPacket, hcode, LobbyCovers, htype, Option.bind_eq_bind, Option.bind_some]
  cases C2SType.ofCode? code.toNat with
  | none => exact iff_of_true (inside_some nofun) trivial
  | some type =>
      cases type with
      | login =>
          refine (inside_guard fun _ => processLogin_iff c p.bytes).trans ?_
          rw [Bool.not_eq_true]
      | testLogin => exact inside_when (processTestLogin_iff c p.bytes)
      | message =>
          refine (inside_guard fun _ => iff_true_intro (relayMessage_inside p c)).trans ?_
          exact iff_of_true (fun _ => trivial) trivial
      | test => exact iff_of_false (fun ⟨_, h, _⟩ => by rw [relayTest_outside] at h; cases h) id
      | addPublicRoom => exact inside_when (createRoom_iff p)
      | addPrivateRoom => exact inside_when (createRoom_iff p)
      | joinPublicRoom =>
          exact inside_last readRoomKey_iff fun roomKey =>
            inside_one (.tryJoinRoom roomKey []) trivial
      | joinPrivateRoom =>
          exact inside_bind readRoomKey_iff fun roomKey _ =>
            inside_last (charBufToString_iff (by decide))
            fun password => inside_one (.tryJoinRoom roomKey password) trivial
      | requestRoomList => exact iff_true_intro (sendRoomList_inside c)
      | requestLobbyPlayerList => exact iff_true_intro (sendLobbyPlayerList_inside c)
      | requestFriendList => exact iff_true_intro (sendFriendList_inside c)
      | requestRankings => exact iff_true_intro (sendRankings_inside c)
      | fastMatching =>
          exact inside_last readChar_iff fun count => inside_one (.findMatch count) trivial
      | addFriendRequest => exact processFriend_iff c .addFriendRequest p.bytes
      | acceptFriend => exact processFriend_iff c .acceptFriend p.bytes
      | deleteFriend => exact processFriend_iff c .deleteFriend p.bytes
      | _ => exact iff_of_true (inside_some nofun) trivial

/--
**A handler stays inside the packet, and inside its buffers, exactly for the packets that
hold the members it reads.** For a text member that is all of it, or a zero that ends it.
The relayed message declares what was written; a relayed test packet is never inside.
-/
theorem routePacket_inside_iff (c : PacketContext) (p : FramedPacket) :
    Inside (routePacket c p.bytes) ↔ Covers c p.bytes := by
  unfold routePacket Covers
  cases c.modeState with
  | none => exact iff_of_true (inside_some nofun) trivial
  | login => exact processPacket_iff c p
  | lobby => exact processPacket_iff c p
  | room =>
      cases c.room with
      | none => exact iff_of_true (inside_some (by simp [HandlerEffect.Inside])) nofun
      | some room =>
          rw [handlePacket_iff]
          exact ⟨fun h room' heq => Option.some.inj heq ▸ h, fun h => h room rfl⟩

/-- A session that has just been accepted. -/
def acceptedContext : PacketContext where
  modeState := .login
  isTestMode := false
  playerId := -1
  nickname := []
  beginsTransition := false
  room := none
  activeRooms := []
  activeSessions := []
  friends := []
  rankings := []

/-- A `C2S_LOGIN` that is a header only. -/
def bareLogin : FramedPacket := ⟨[3, 0, 2], rfl, by decide, by decide⟩

/-- The login id is read behind its end. -/
theorem bareLogin_outside :
    ¬ ∀ (c : PacketContext) (p : FramedPacket), Inside (routePacket c p.bytes) := by
  intro hall
  obtain ⟨effects, h, _⟩ := hall acceptedContext bareLogin
  have hnone : routePacket acceptedContext bareLogin.bytes = none := by decide
  rw [hnone] at h
  cases h

end ProjectTetris

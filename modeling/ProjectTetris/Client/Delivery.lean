import ProjectTetris.Client.PacketManager
import ProjectTetris.Net.Receiving

/-!
# What the server sends is what the client reads

`S2CStruct.read` is the object a packet should arrive as: each member under the client's
name for it, with the value sent. The client's loop is a cutting of what has been received,
so that how the bytes arrive does not matter, and the frames it cuts off are the packets sent.
-/

namespace ProjectTetris

open Bytes Framing Client

/-! ## One packet -/

namespace FieldValue

/-- The client's value for a member's. -/
def read : FieldValue → PyValue
  | char v => .int v.toInt
  | bool v => .bool v
  | int v => .int v.toInt
  | roomKey v => .int v.toNat
  | charBuf _ v => .str v.str

/-- What unpacking makes of a member, a string still with its zeros. -/
def raw : FieldValue → PyValue
  | charBuf n v => .bytes (stringToCharBuf (utf8 v.str) n)
  | v => v.read

theorem value_bytes (v : FieldValue) : (formatOf v.type).value v.bytes = v.raw := by
  cases v with
  | char v => exact congrArg PyValue.int (signedOfLeBytes_int8 v)
  | bool v => cases v <;> rfl
  | int v => exact congrArg PyValue.int (signedOfLeBytes_int32 v)
  | roomKey v => exact congrArg (fun n : Nat => PyValue.int n) (ofLeBytes_uint64 v)
  | charBuf n v => rfl

theorem takeWhile_zeros {l : List UInt8} (h : 0 ∉ l) (n : Nat) :
    (l ++ List.replicate n 0).takeWhile (· ≠ 0) = l := by
  have hall : ∀ b ∈ l, decide (b ≠ 0) = true := fun b hb => decide_eq_true fun hz => h (hz ▸ hb)
  rw [List.takeWhile_append_of_pos hall, List.takeWhile_replicate]
  exact List.append_nil l

/-- **The zeros behind a string are not taken for text**, nor is anything of it lost. -/
theorem fill_raw (v : FieldValue) : (annotationOf v.type).fill v.raw = v.read := by
  cases v with
  | charBuf n v =>
      show PyValue.str _ = PyValue.str v.str
      rw [stringToCharBuf_of_le v.size_le, takeWhile_zeros v.noNul, decodeIgnore_utf8]
  | _ => rfl

theorem size_formatOf (type : FieldType) : (formatOf type).size = type.size := by
  cases type <;> rfl

theorem calcsize_formatOf (types : List FieldType) :
    calcsize (types.map formatOf) = (types.map FieldType.size).sum := by
  rw [calcsize, List.map_map]
  exact congrArg (fun f => (types.map f).sum) (funext size_formatOf)

end FieldValue

theorem unpackValues_append {c : FormatCode} {l : List UInt8} (fmt : List FormatCode)
    (rest : List UInt8) (h : l.length = c.size) :
    unpackValues (c :: fmt) (l ++ rest) = c.value l :: unpackValues fmt rest := by
  rw [unpackValues, ← h, List.take_left, List.drop_left]

theorem unpackValues_members_append (fmt : List FormatCode) :
    ∀ (values : List FieldValue) (rest : List UInt8),
    unpackValues ((values.map FieldValue.type).map formatOf ++ fmt)
      (values.flatMap FieldValue.bytes ++ rest) =
      values.map FieldValue.raw ++ unpackValues fmt rest
  | [], _ => rfl
  | v :: values, rest => by
      rw [List.map_cons, List.map_cons, List.flatMap_cons, List.append_assoc, List.cons_append,
        unpackValues_append _ _ (by rw [v.length_bytes, FieldValue.size_formatOf]), v.value_bytes,
        unpackValues_members_append fmt values rest]
      rfl

theorem unpackValues_members (values : List FieldValue) (rest : List UInt8) :
    unpackValues ((values.map FieldValue.type).map formatOf)
      (values.flatMap FieldValue.bytes ++ rest) =
      values.map FieldValue.raw := by
  have h := unpackValues_members_append [] values rest
  rwa [List.append_nil, unpackValues, List.append_nil] at h

/-- The class `PACKET_REGISTRY` has for a type. -/
def classOf (type : S2CType) : PacketStruct :=
  (packetRegistry type.code).get (by cases type <;> rfl)

theorem classOf_spec (type : S2CType) : packetRegistry type.code = some (classOf type) ∧
    (classOf type).fmt = headerFmt ++ type.fields.map formatOf ∧
    (classOf type).fields =
      (type.members.map (attributeOf type)).zip (type.fields.map annotationOf) ++
      bodyFields type := by
  obtain ⟨cls, hcls, hfmt, hfields⟩ := packetRegistry_code type
  have hsome : packetRegistry type.code = some (classOf type) := (Option.some_get _).symm
  rw [hcls] at hsome
  injection hsome with hsame
  exact ⟨by rw [hcls, hsame], hsame ▸ hfmt, hsame ▸ hfields⟩

/-- `calcsize` of a class is `sizeof` of the struct. -/
theorem calcsize_classOf (type : S2CType) : calcsize (classOf type).fmt = type.size := by
  rw [(classOf_spec type).2.1, calcsize, List.map_append, List.sum_append]
  show _ + calcsize _ = _
  rw [FieldValue.calcsize_formatOf]
  rfl

namespace S2CStruct

/-- **The object a packet should arrive as.** -/
def read (p : S2CStruct) : RecvPacket where
  cls := classOf p.type
  size := p.size
  type := p.type.code
  attributes := (p.type.members.map (attributeOf p.type)).zip (p.values.map FieldValue.read) ++
    if p.type = .message then [("message", .str p.body)] else []

theorem unpackValues_header (p : S2CStruct) (fmt : List FormatCode) (rest : List UInt8) :
    unpackValues (headerFmt ++ fmt) (p.headerBytes ++ rest) =
      .int p.size :: .int p.type.code :: unpackValues fmt rest := by
  have hsize : ofLeBytes (leBytes 2 p.size) = p.size := ofLeBytes_leBytes p.size_lt
  have hcode : ofLeBytes (leBytes 1 p.type.code) = p.type.code := ofLeBytes_leBytes p.type.code_lt
  have h₁ := unpackValues_append (c := .H) (.B :: fmt) (leBytes 1 p.type.code ++ rest)
    (length_leBytes 2 p.size)
  have h₂ := unpackValues_append (c := .B) fmt rest (length_leBytes 1 p.type.code)
  rw [headerBytes, List.append_assoc]
  show unpackValues (.H :: .B :: fmt) _ = _
  rw [h₁, h₂, FormatCode.value, FormatCode.value, hsize, hcode]

theorem length_members_values (p : S2CStruct) : p.type.members.length = p.values.length := by
  rw [p.type.length_members, ← p.typed, List.length_map]

/-- Every value goes into the field that is named after its member. -/
theorem zipWith_fill :
    ∀ {names : List String} {values : List FieldValue}, names.length = values.length →
    List.zipWith (fun f v => (f.1, Annotation.fill f.2 v))
      (names.zip ((values.map FieldValue.type).map annotationOf)) (values.map FieldValue.raw) =
    names.zip (values.map FieldValue.read)
  | [], [], _ => rfl
  | name :: names, v :: values, h => by
      have ih := zipWith_fill (Nat.succ.inj h)
      simp only [List.map_cons, List.zip_cons_cons, List.zipWith_cons_cons, v.fill_raw, ih]

/-- `fill_data`, when the values are those of the struct and, for a message, its text. -/
theorem fillData_ok (p : S2CStruct) {extra : List PyValue}
    (hextra : extra = if p.type = .message then [.bytes (utf8 p.body)] else []) :
    (classOf p.type).fillData (.int p.size :: .int p.type.code ::
      (p.values.map FieldValue.raw ++ extra)) =
      .ok p.read := by
  obtain ⟨_, _, hfields⟩ := classOf_spec p.type
  rw [← p.typed] at hfields
  have hlen : ((p.type.members.map (attributeOf p.type)).zip
      ((p.values.map FieldValue.type).map annotationOf)).length =
        (p.values.map FieldValue.raw).length := by
    simp only [List.length_zip, List.length_map, p.length_members_values, Nat.min_self]
  have hbody : (bodyFields p.type).length = extra.length := by
    rw [hextra, bodyFields]
    split <;> rfl
  have hcount :
      (.int p.size :: .int p.type.code :: (p.values.map FieldValue.raw ++ extra)).length =
      (classOf p.type).fields.length + 2 := by
    rw [hfields, @List.length_append _ _ (bodyFields p.type), hlen, hbody, List.length_cons,
      List.length_cons, List.length_append]
  rw [PacketStruct.fillData, if_neg (not_not_intro hcount)]
  show Except.ok (RecvPacket.mk _ _ _ (List.zipWith _ _ (p.values.map FieldValue.raw ++ extra))) =
    _
  rw [hfields, List.zipWith_append hlen,
    zipWith_fill (by rw [List.length_map, p.length_members_values]), read, hextra, bodyFields]
  congr 3
  split
  · have htext : (utf8 p.body).takeWhile (· ≠ 0) = utf8 p.body := by
      have h := FieldValue.takeWhile_zeros p.body_noNul 0
      rwa [List.replicate_zero, List.append_nil] at h
    show [("message", PyValue.str (decodeIgnore ((utf8 p.body).takeWhile (· ≠ 0))))] = _
    rw [htext, decodeIgnore_utf8]
  · rfl

/-- **One packet round trip.** -/
theorem bytesToStruct_bytes (p : S2CStruct) :
    PacketManager.bytesToStruct p.bytes = .ok p.read := by
  obtain ⟨hcls, hfmt, _⟩ := classOf_spec p.type
  have hlen : p.bytes.length = p.size := p.length_bytes
  have hmin := p.packetHeaderSize_le_size
  have hcalc := calcsize_classOf p.type
  have hbytes : p.bytes = p.headerBytes ++ (p.values.flatMap FieldValue.bytes ++ utf8 p.body) :=
    List.append_assoc _ _ _
  have hheader : unpackFrom headerFmt p.bytes 0 = .ok [.int p.size, .int p.type.code] := by
    rw [unpackFrom, if_pos (by rw [hlen, Nat.zero_add]; exact hmin), List.drop_zero, hbytes]
    have h := p.unpackValues_header [] (p.values.flatMap FieldValue.bytes ++ utf8 p.body)
    rw [List.append_nil] at h
    rw [h]
    rfl
  have hstruct : unpackValues (classOf p.type).fmt p.bytes =
      .int p.size :: .int p.type.code :: p.values.map FieldValue.raw := by
    rw [hfmt, hbytes, p.unpackValues_header, ← p.typed, unpackValues_members]
  rw [PacketManager.bytesToStruct, hheader]
  simp only [bind, Except.bind, Int.toNat_natCast, hcls, code_eq_s2cMessage]
  by_cases hmessage : p.type = .message
  · have hfront : unpackFrom (classOf p.type).fmt p.bytes 0 =
        .ok (.int p.size :: .int p.type.code :: p.values.map FieldValue.raw) := by
      rw [unpackFrom, if_pos (by rw [hlen, hcalc, Nat.zero_add]; exact Nat.le_add_right _ _),
        List.drop_zero, hstruct]
    have hbody : unpackFrom [.s (p.size - p.type.size)] p.bytes p.type.size =
        .ok [.bytes (utf8 p.body)] := by
      have hsize : p.size - p.type.size = (utf8 p.body).length := Nat.add_sub_cancel_left _ _
      have hdrop : p.bytes.drop p.type.size = utf8 p.body := by
        rw [bytes, ← p.length_struct, List.drop_left]
      have hfits : p.type.size + calcsize [.s (p.size - p.type.size)] ≤ p.bytes.length := by
        rw [hlen, hsize]
        exact Nat.le_refl _
      rw [unpackFrom, if_pos hfits, hdrop, hsize]
      show Except.ok [PyValue.bytes ((utf8 p.body).take (utf8 p.body).length)] = _
      rw [List.take_length]
    rw [if_pos hmessage, hfront, hcalc, hbody]
    exact p.fillData_ok (by rw [if_pos hmessage])
  · have hall : unpack (classOf p.type).fmt p.bytes =
        .ok (.int p.size :: .int p.type.code :: p.values.map FieldValue.raw) := by
      rw [unpack, if_pos (by rw [hlen, hcalc, size_of_body_empty hmessage]), hstruct]
    rw [if_neg hmessage, hall]
    have hok := @fillData_ok p [] (by rw [if_neg hmessage])
    rwa [List.append_nil] at hok

end S2CStruct

/-! ## The stream -/

/-- The framing of the server-to-client stream. No size a `uint16_t` can hold is too long. -/
def s2cFramer : Framer UInt8 := packetHeader.framer (2 ^ 16 - 1)

namespace S2CStruct

theorem headerSize_bytes (p : S2CStruct) : headerSize p.bytes = some p.size := by
  have hsize := ofLeBytes_leBytes (n := 2) p.size_lt
  simp only [leBytes, ofLeBytes] at hsize
  show some _ = some p.size
  congr 1

theorem front_bytes (p : S2CStruct) : s2cFramer.front p.bytes = .frame p.bytes.length := by
  have hlt := p.size_lt
  have hlen := p.length_bytes
  rw [hlen]
  exact packetHeader.front_of_announced p.headerSize_bytes p.packetHeaderSize_le_size
    (show p.type.size + _ ≤ _ by omega) (Nat.le_of_eq hlen.symm)

/-- A packet that has not all arrived cannot be told from more to come. -/
theorem front_of_prefix {p : S2CStruct} {suffix : List UInt8} (h : suffix <+: p.bytes)
    (hne : suffix ≠ p.bytes) :
    s2cFramer.front suffix = .incomplete := by
  obtain ⟨more, hmore⟩ := h
  have hmin := p.packetHeaderSize_le_size
  have hlt : suffix.length < p.size := by
    rw [← p.length_bytes, ← hmore, List.length_append]
    have hpos : 0 < more.length :=
      List.length_pos_iff.mpr fun hnil => hne (by rw [← hmore, hnil, List.append_nil])
    omega
  rcases @packetFront_cases (2 ^ 16 - 1) suffix with
    ⟨hfront, _⟩ | ⟨_, hlen, size, hheader, hbad⟩ | ⟨size, _, hheader, _, _, hle⟩
  · exact hfront
  · have hsame := headerSize_append more hheader
    have hsize := p.size_lt
    rw [hmore, p.headerSize_bytes] at hsame
    injection hsame with hsame
    have : p.size < 2 ^ 16 := hsize
    omega
  · have hsame := headerSize_append more hheader
    rw [hmore, p.headerSize_bytes] at hsame
    injection hsame with hsame
    omega

/-- **Packets and the beginning of another are cut into these.** -/
theorem cut_bytes {packets : List S2CStruct} {suffix : List UInt8}
    (h : s2cFramer.front suffix = .incomplete) :
    s2cFramer.cut (packets.flatMap bytes ++ suffix) = ⟨packets.map bytes, suffix, false⟩ := by
  have hframes : ∀ frame ∈ packets.map bytes, s2cFramer.front frame = .frame frame.length := by
    intro frame hframe
    obtain ⟨p, _, rfl⟩ := List.mem_map.mp hframe
    exact p.front_bytes
  have hcut := Framer.cut_frames suffix hframes
  rw [Framer.cut_of_incomplete h, List.append_nil, ← List.flatMap_def] at hcut
  exact hcut

end S2CStruct

namespace Client.PacketManager

/-- **The loop cuts what it finds**, and puts what becomes of the frames into the queue. -/
theorem processLoop_ok {buf : List UInt8} : ∀ {fuel offset : Nat} {queue datas : List RecvPacket},
    offset ≤ buf.length → buf.length - offset < fuel →
    (s2cFramer.cut (buf.drop offset)).corrupt = false →
    (s2cFramer.cut (buf.drop offset)).frames.map bytesToStruct = datas.map .ok →
    processLoop buf fuel offset queue =
      (queue ++ datas, .ok (buf.length - (s2cFramer.cut (buf.drop offset)).rest.length))
  | fuel + 1, offset, queue, datas, hoffset, hfuel, hcorrupt, hdatas => by
      have hlen : (buf.drop offset).length = buf.length - offset := List.length_drop
      have hback : buf.length - (buf.drop offset).length = offset := by omega
      rw [processLoop]
      rcases @packetFront_cases (2 ^ 16 - 1) (buf.drop offset) with
        ⟨hfront, hwhy⟩ | ⟨hfront, _⟩ | ⟨size, hfront, hheader, hmin, _, hle⟩
      · have hcut := Framer.cut_of_incomplete (F := s2cFramer) hfront
        rw [hcut] at hdatas ⊢
        have hnil : datas = [] := List.map_eq_nil_iff.mp hdatas.symm
        dsimp only
        rw [hnil, List.append_nil, hback]
        rcases hwhy with hshort | ⟨size, hheader, hmin, _, hshort⟩
        · rw [if_pos (by omega)]
        · by_cases hhead : buf.length - offset < packetHeaderSize
          · rw [if_pos hhead]
          · rw [if_neg hhead, hheader]
            dsimp only
            rw [if_neg (by omega), if_pos (by omega)]
      · rw [Framer.cut_of_corrupt (F := s2cFramer) hfront] at hcorrupt
        exact Bool.noConfusion hcorrupt
      · have hcut := Framer.cut_of_frame (F := s2cFramer) hfront
        rw [hcut, List.drop_drop] at hcorrupt hdatas
        rw [hcut, List.drop_drop, if_neg (by omega), hheader]
        match datas, hdatas with
        | data :: datas, hdatas =>
            rw [List.map_cons, List.map_cons] at hdatas
            injection hdatas with hdata hdatas
            have hpos : 0 < size := Nat.lt_of_lt_of_le (by decide) hmin
            have ih := @processLoop_ok buf fuel (offset + size) (queue ++ [data]) datas
              (by omega) (by omega) hcorrupt hdatas
            dsimp only
            rw [if_neg (by omega), if_neg (by omega), hdata]
            dsimp only
            rw [ih, List.append_assoc, List.singleton_append]

/-- `process_packet` takes the frames off and leaves the rest. -/
theorem processPacket_ok {m : PacketManager} {datas : List RecvPacket}
    (hcorrupt : (s2cFramer.cut m.recvBuffer).corrupt = false)
    (hdatas : (s2cFramer.cut m.recvBuffer).frames.map bytesToStruct = datas.map .ok) :
    m.processPacket = (⟨(s2cFramer.cut m.recvBuffer).rest, m.queue ++ datas⟩, .ok ()) := by
  have hloop := @processLoop_ok m.recvBuffer (m.recvBuffer.length + 1) 0 m.queue datas
    (Nat.zero_le _) (Nat.lt_succ_self _) hcorrupt hdatas
  have hsplit := Framer.cut_flatten (F := s2cFramer) m.recvBuffer
  have hdrop : m.recvBuffer.drop (m.recvBuffer.length - (s2cFramer.cut m.recvBuffer).rest.length) =
      (s2cFramer.cut m.recvBuffer).rest := by
    have hlen := congrArg List.length hsplit
    rw [List.length_append] at hlen
    rw [show m.recvBuffer.length - _ = (s2cFramer.cut m.recvBuffer).frames.flatten.length by omega]
    exact (congrArg (List.drop _) hsplit.symm).trans List.drop_left
  rw [processPacket, hloop]
  dsimp only
  rw [List.drop_zero, hdrop]

/-- **Chunks do not matter**: in the end the whole stream has been cut. -/
theorem recvLoop_ok : ∀ {chunks : List (List UInt8)} {m : PacketManager} {datas : List RecvPacket},
    s2cFramer.front m.recvBuffer = .incomplete →
    (s2cFramer.cut (m.recvBuffer ++ chunks.flatten)).corrupt = false →
    (s2cFramer.cut (m.recvBuffer ++ chunks.flatten)).frames.map bytesToStruct = datas.map .ok →
    m.recvLoop chunks = (⟨(s2cFramer.cut (m.recvBuffer ++ chunks.flatten)).rest, m.queue ++ datas⟩,
      .ok ())
  | [], m, datas, hfront, _, hdatas => by
      rw [List.flatten_nil, List.append_nil, Framer.cut_of_incomplete hfront] at hdatas ⊢
      rw [List.map_eq_nil_iff.mp hdatas.symm, List.append_nil]
      rfl
  | chunk :: chunks, m, datas, hfront, hcorrupt, hdatas => by
      rw [List.flatten_cons, ← List.append_assoc] at hcorrupt hdatas ⊢
      -- what this chunk completes is not corrupt, or nothing after it could be cut
      have hnow : (s2cFramer.cut (m.recvBuffer ++ chunk)).corrupt = false := by
        cases hc : (s2cFramer.cut (m.recvBuffer ++ chunk)).corrupt with
        | false => rfl
        | true =>
            rw [Framer.cut_append_of_corrupt _ hc] at hcorrupt
            exact hc.symm.trans hcorrupt
      rw [Framer.cut_append _ hnow] at hcorrupt hdatas ⊢
      rw [List.map_append] at hdatas
      obtain ⟨first, later, rfl, hfirst, hlater⟩ := List.map_eq_append_iff.mp hdatas.symm
      have hfront' := Framer.front_rest (F := s2cFramer) (m.recvBuffer ++ chunk)
      rw [hnow] at hfront'
      have hstep := @processPacket_ok (m.mergePacket chunk) first hnow hfirst.symm
      have ih := @recvLoop_ok chunks ⟨(s2cFramer.cut (m.recvBuffer ++ chunk)).rest,
        m.queue ++ first⟩ later hfront' hcorrupt hlater.symm
      rw [recvLoop, hstep]
      dsimp only [mergePacket]
      rw [ih, List.append_assoc]

end Client.PacketManager

/-! ## The packets sent -/

/-- How much of the packets a stream has brought: those that are whole, and what there is
of the next one. -/
structure Arrived (packets : List S2CStruct) (stream : List UInt8) (whole : List S2CStruct)
    (suffix : List UInt8) : Prop where
  sent : whole <+: packets
  stream_eq : stream = whole.flatMap S2CStruct.bytes ++ suffix
  incomplete : suffix = [] ∨
    ∃ next, whole ++ [next] <+: packets ∧ suffix <+: next.bytes ∧ suffix ≠ next.bytes

namespace Arrived

/-- Every beginning of a stream of packets is so many packets and part of one. -/
theorem of_prefix : ∀ {packets : List S2CStruct} {stream : List UInt8},
    stream <+: packets.flatMap S2CStruct.bytes →
    ∃ whole suffix, Arrived packets stream whole suffix
  | [], stream, h => ⟨[], [], List.prefix_refl _, List.prefix_nil.mp h, .inl rfl⟩
  | p :: packets, stream, h => by
      rw [List.flatMap_cons] at h
      by_cases hlen : p.bytes.length ≤ stream.length
      · obtain ⟨rest, hrest⟩ := List.prefix_of_prefix_length_le (List.prefix_append _ _) h hlen
        rw [← hrest, List.prefix_append_right_inj] at h
        obtain ⟨whole, suffix, ha⟩ := of_prefix h
        refine ⟨p :: whole, suffix, List.cons_prefix_cons.mpr ⟨rfl, ha.sent⟩, ?_, ?_⟩
        · rw [← hrest, ha.stream_eq, List.flatMap_cons, List.append_assoc]
        · rcases ha.incomplete with hnil | ⟨next, hnext, hsuffix⟩
          · exact .inl hnil
          · exact .inr ⟨next, List.cons_prefix_cons.mpr ⟨rfl, hnext⟩, hsuffix⟩
      · have hpre : stream <+: p.bytes :=
          List.prefix_of_prefix_length_le h (List.prefix_append _ _) (Nat.le_of_not_le hlen)
        exact ⟨[], stream, List.nil_prefix, rfl,
          .inr ⟨p, List.cons_prefix_cons.mpr ⟨rfl, List.nil_prefix⟩,
          hpre, fun heq => hlen (Nat.le_of_eq (congrArg List.length heq).symm)⟩⟩

theorem front_suffix {packets whole : List S2CStruct} {stream suffix : List UInt8}
    (h : Arrived packets stream whole suffix) : s2cFramer.front suffix = .incomplete := by
  rcases h.incomplete with rfl | ⟨next, _, hbegun, hne⟩
  · rfl
  · exact S2CStruct.front_of_prefix hbegun hne

/-- Nothing is incomplete at the end of the stream. -/
theorem eq_of_all {packets whole : List S2CStruct} {suffix : List UInt8}
    (h : Arrived packets (packets.flatMap S2CStruct.bytes) whole suffix) :
    whole = packets ∧ suffix = [] := by
  obtain ⟨rest, rfl⟩ := h.sent
  have hsuffix : suffix = rest.flatMap S2CStruct.bytes := by
    have hstream := h.stream_eq
    rw [List.flatMap_append] at hstream
    exact (List.append_cancel_left hstream).symm
  cases rest with
  | nil => exact ⟨(List.append_nil _).symm, hsuffix⟩
  | cons p rest =>
      rw [List.flatMap_cons] at hsuffix
      have hpos : 0 < p.bytes.length := by
        rw [p.length_bytes]
        exact Nat.lt_of_lt_of_le (by decide) p.packetHeaderSize_le_size
      have hlong : p.bytes.length ≤ suffix.length := by
        rw [hsuffix, List.length_append]
        exact Nat.le_add_right _ _
      rcases h.incomplete with rfl | ⟨next, hnext, hbegun, hne⟩
      · exact absurd hlong (Nat.not_le_of_lt hpos)
      · rw [List.prefix_append_right_inj] at hnext
        obtain rfl := (List.cons_prefix_cons.mp hnext).1
        exact absurd (hbegun.eq_of_length_le hlong) hne

end Arrived

/--
**Server-to-client wire round trip.**

The bytes of any packets, in any chunks, of which any number have been received: in the
queue is one object for each packet that has arrived whole, in order and as it should be,
and in the buffer is what has arrived of the next.
-/
theorem Client.PacketManager.recvLoop_sent (packets : List S2CStruct)
    (chunks later : List (List UInt8))
    (h : (chunks ++ later).flatten = packets.flatMap S2CStruct.bytes) :
    ∃ whole suffix, Arrived packets chunks.flatten whole suffix ∧
      init.recvLoop chunks = (⟨suffix, whole.map S2CStruct.read⟩, .ok ()) ∧
      (later.flatten = [] → whole = packets ∧ suffix = []) := by
  rw [List.flatten_append] at h
  obtain ⟨whole, suffix, harrived⟩ := Arrived.of_prefix ⟨later.flatten, h⟩
  have hcut := @S2CStruct.cut_bytes whole _ harrived.front_suffix
  rw [← harrived.stream_eq] at hcut
  have hdatas : (whole.map S2CStruct.bytes).map bytesToStruct =
      (whole.map S2CStruct.read).map .ok := by
    rw [List.map_map, List.map_map]
    exact List.map_congr_left fun p _ => p.bytesToStruct_bytes
  have hloop := @recvLoop_ok chunks init (whole.map S2CStruct.read) rfl
    (by show (s2cFramer.cut ([] ++ chunks.flatten)).corrupt = false; rw [List.nil_append, hcut])
    (by show (s2cFramer.cut ([] ++ chunks.flatten)).frames.map _ =
      _; rw [List.nil_append, hcut, hdatas])
  refine ⟨whole, suffix, harrived, ?_, fun hlater => ?_⟩
  · rw [hloop]
    show (PacketManager.mk (s2cFramer.cut ([] ++ chunks.flatten)).rest ([] ++ _), _) = _
    rw [List.nil_append, hcut, List.nil_append]
  · rw [hlater, List.append_nil] at h
    rw [h] at harrived
    exact harrived.eq_of_all

/-! ### Two packets in three chunks -/

namespace S2CStruct

def readyOf (playerId : Int32) (isReady : Bool) : S2CStruct where
  type := .ready
  values := [.int playerId, .bool isReady]
  body := ""
  typed := rfl
  body_noNul := by decide +kernel
  body_empty := fun _ => rfl
  size_lt := by decide +kernel

/-- A message whose text has a character of three bytes. -/
def greeting : S2CStruct where
  type := .message
  values := [.int 7, .charBuf 48 ⟨"kim", by decide +kernel, by decide +kernel⟩]
  body := "hi 안"
  typed := rfl
  body_noNul := by decide +kernel
  body_empty := fun h => absurd rfl h
  size_lt := by decide +kernel

end S2CStruct

/-- The first chunk ends inside the first header, the second inside the second packet. -/
theorem Client.PacketManager.recvLoop_sent_two :
    let packets := [S2CStruct.readyOf 7 true, S2CStruct.greeting]
    let stream := packets.flatMap S2CStruct.bytes
    ∃ whole suffix, Arrived packets [stream.take 2, (stream.drop 2).take 20].flatten whole suffix ∧
      init.recvLoop [stream.take 2, (stream.drop 2).take 20] =
        (⟨suffix, whole.map S2CStruct.read⟩, .ok ()) ∧
      ([(stream.drop 2).drop 20].flatten = [] → whole = packets ∧ suffix = []) :=
  recvLoop_sent [S2CStruct.readyOf 7 true, S2CStruct.greeting] _ [_] (by
    simp only [List.cons_append, List.nil_append, List.flatten_cons, List.flatten_nil,
      List.append_nil, List.take_append_drop])

end ProjectTetris

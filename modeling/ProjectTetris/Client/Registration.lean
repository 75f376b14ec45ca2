import Mathlib.Data.List.TakeWhile
import ProjectTetris.Client.Delivery
import ProjectTetris.Client.PacketBuilder

/-!
# From the sign-up page into the game

`api_register` of `app.py`, the input boxes of the login screen, the login packet and the
two packets that show a player his name. Each has limits of its own: the sign-up page counts
up to twenty characters, an input box stops after sixteen, and a field has 48 bytes.

Which characters outside ASCII are letters, digits or printable is an argument. The database
between sign-up and login gives back what it has been given.
-/

namespace ProjectTetris.Client

open Bytes

/-- What Python knows of a character beyond ASCII: `\w`, `\d` and `isprintable`. -/
structure UnicodeData where
  isWord : Char → Bool
  isDigit : Char → Bool
  isPrintable : Char → Bool

def isAscii (c : Char) : Bool := c.toNat < 128

def isAsciiAlpha (c : Char) : Bool := ('A' ≤ c && c ≤ 'Z') || ('a' ≤ c && c ≤ 'z')

def isAsciiDigit (c : Char) : Bool := '0' ≤ c && c ≤ '9'

/-- The characters of ASCII that are not control characters. -/
def isAsciiPrintable (c : Char) : Bool := 32 ≤ c.toNat && c.toNat < 127

namespace UnicodeData

variable (u : UnicodeData)

/-- `\w`. -/
def word (c : Char) : Bool :=
  if isAscii c then isAsciiAlpha c || isAsciiDigit c || c = '_' else u.isWord c

/-- `\d`. -/
def digit (c : Char) : Bool := if isAscii c then isAsciiDigit c else u.isDigit c

/-- `ch.isprintable()`, of one character. -/
def printable (c : Char) : Bool := if isAscii c then isAsciiPrintable c else u.isPrintable c

end UnicodeData

/-! ## `api_register` -/

/-- `str.isspace`, of one character. -/
def isSpace (c : Char) : Bool :=
  let n := c.toNat
  (9 ≤ n && n ≤ 13) || (28 ≤ n && n ≤ 32) || n = 0x85 || n = 0xa0 || n = 0x1680 ||
    (0x2000 ≤ n && n ≤ 0x200a) ||
    n = 0x2028 || n = 0x2029 || n = 0x202f || n = 0x205f || n = 0x3000

/-- `str.strip`. -/
def strip (s : String) : String :=
  String.ofList ((s.toList.dropWhile isSpace).reverse.dropWhile isSpace).reverse

structure RegisterRequest where
  loginId : String
  nickname : String
  password : String
  password2 : String
  email : String

/-- `session["email_verify"]`. -/
structure EmailVerify where
  email : String
  verified : Bool
  expireAt : Int

structure Account where
  loginId : String
  nickname : String
  password : String
  deriving DecidableEq

/-- What a registration depends on besides the request. -/
structure RegisterContext where
  emailVerify : Option EmailVerify
  nowTs : Int
  loginIds : List String
  nicknames : List String
  emails : List String
  /-- The database takes the row. -/
  commits : Bool

inductive RegisterResult where
  | refused (msg : String) (status : Nat)
  /-- An exception of the database. -/
  | raised
  | registered (account : Account)
  deriving DecidableEq

/-- Eight to twenty characters, of two kinds at least. -/
def validatePassword (u : UnicodeData) (pw : String) : Bool :=
  if !(8 ≤ pw.length && pw.length ≤ 20) then false
  else
    let hasAlpha := pw.toList.any isAsciiAlpha
    let hasDigit := pw.toList.any u.digit
    let hasSpec := pw.toList.any fun c => !u.word c
    decide (hasAlpha.toNat + hasDigit.toNat + hasSpec.toNat ≥ 2)

/-- `^[A-Za-z0-9_]+$`, which a newline at the end does not spoil. -/
def isLoginId (s : String) : Bool :=
  let ok (c : Char) : Bool := isAsciiAlpha c || isAsciiDigit c || c = '_'
  let l := if s.toList.getLast? = some '\n' then s.toList.dropLast else s.toList
  !l.isEmpty && l.all ok

def apiRegister (u : UnicodeData) (c : RegisterContext) (data : RegisterRequest) :
    RegisterResult :=
  let loginId := strip data.loginId
  let nickname := strip data.nickname
  let email := strip data.email
  if !(6 ≤ loginId.length && loginId.length ≤ 20) || !isLoginId loginId then
    .refused "아이디 형식이 올바르지 않습니다." 400
  else if data.password ≠ data.password2 then .refused "비밀번호가 일치하지 않습니다." 400
  else if !validatePassword u data.password then .refused "비밀번호 규칙을 만족하지 않습니다." 400
  else
    match c.emailVerify with
    | none => .refused "이메일 인증을 먼저 완료하세요." 400
    | some st =>
        if st.email ≠ email ∨ st.verified = false then .refused "이메일 인증을 먼저 완료하세요." 400
        else if c.nowTs > st.expireAt then .refused "이메일 인증이 만료되었습니다. 다시 인증하세요." 400
        else if loginId ∈ c.loginIds then .refused "이미 사용 중인 아이디입니다." 200
        else if nickname ∈ c.nicknames then .refused "이미 사용 중인 닉네임입니다." 200
        else if email ∈ c.emails then .refused "이미 가입된 이메일입니다." 200
        else if c.commits then .registered ⟨loginId, nickname, data.password⟩
        else .raised

/-! ## The login screen -/

/-- `MAX_INPUT`. -/
def maxInput : Nat := 16

/-- What `InputBox` keeps of its text. -/
structure InputBox where
  text : List Char
  editingText : List Char
  active : Bool
  maxInputLen : Nat
  allowKorean : Bool

namespace InputBox

/-- One of the two boxes of `LoginState`, clicked on. -/
def login : InputBox := ⟨[], [], true, maxInput, false⟩

/-- `add_char`, which a text event with one character leads to. -/
def addChar (u : UnicodeData) (b : InputBox) (ch : Char) : InputBox :=
  if !b.active then b
  else if !u.printable ch then b
  else if !b.allowKorean && !isAscii ch then b
  else if b.text.length ≥ b.maxInputLen then b
  else { b with text := b.text ++ [ch] }

def getTotalText (b : InputBox) : String :=
  String.ofList (if b.text.length < b.maxInputLen then b.text ++ b.editingText else b.text)

/-- What has been typed, after one text event for each character. -/
def typed (u : UnicodeData) (s : String) : String :=
  (s.toList.foldl (addChar u) login).getTotalText

end InputBox

/-! ## The two packets with the player's name -/

/-- `S2C_LOGIN_PACKET` as `HandleLoginDBResult` fills it. -/
def loginPacket (playerId maxScore winCount loseCount : Int32)
    (nickname : List UInt8) : List UInt8 :=
  packetOf .login ((FieldValue.int playerId).bytes ++ (FieldValue.int maxScore).bytes ++
    (FieldValue.int winCount).bytes ++
    (FieldValue.int loseCount).bytes ++ stringToCharBuf nickname maxPlayerNameSize)

/-- `S2C_ADD_PLAYER_PACKET`. -/
def addPlayerPacket (playerId : Int32) (nickname : List UInt8) : List UInt8 :=
  packetOf .addPlayer ((FieldValue.int playerId).bytes ++ stringToCharBuf nickname
    maxPlayerNameSize)

/-- The string the client reads under this name. -/
def shownName (name : String) (packet : List UInt8) : Option PyValue :=
  match PacketManager.bytesToStruct packet with
  | .ok data => (data.attributes.find? (·.1 = name)).map (·.2)
  | .error _ => none

/--
**The account can be used.** Typed into the login screen, its id and password reach the
database as they are, and the client shows its nickname.
-/
def Usable (u : UnicodeData) (a : Account) : Prop :=
  (∀ c : PacketContext, c.modeState = .login →
    ((PacketBuilder.buildLoginPkt (InputBox.typed u a.loginId) (InputBox.typed u a.password)).bind
      (processLogin c)) = some [.login (utf8 a.loginId) (utf8 a.password)]) ∧
  (∀ playerId maxScore winCount loseCount,
    shownName "user_name" (loginPacket playerId maxScore winCount loseCount (utf8 a.nickname)) =
      some (.str a.nickname)) ∧
  ∀ playerId, shownName "name" (addPlayerPacket playerId (utf8 a.nickname)) =
    some (.str a.nickname)

/-- Short enough for an input box and for a field, and nothing in them that cannot be typed or
sent. -/
structure WithinLimits (a : Account) : Prop where
  loginId : a.loginId.length ≤ maxInput
  password : a.password.length ≤ maxInput
  printable : ∀ c ∈ a.password.toList, isAsciiPrintable c = true
  nickname : (utf8 a.nickname).length ≤ maxPlayerNameSize
  noNul : 0 ∉ utf8 a.nickname

/-! ## Typing -/

variable {u : UnicodeData}

theorem printable_and_ascii (c : Char) :
    (u.printable c = true ∧ isAscii c = true) ↔ isAsciiPrintable c = true := by
  unfold UnicodeData.printable isAscii isAsciiPrintable
  by_cases hascii : c.toNat < 128
  · simp [hascii]
  · simp [hascii]
    omega

/-- What a box takes of the characters typed. -/
theorem foldl_addChar : ∀ (l : List Char) {b : InputBox}, b.active = true → b.allowKorean = false →
    b.text.length ≤ b.maxInputLen →
    l.foldl (InputBox.addChar u) b =
      { b with text := (b.text ++ l.filter isAsciiPrintable).take b.maxInputLen }
  | [], b, _, _, hle => by
      rw [List.foldl_nil, List.filter_nil, List.append_nil, List.take_of_length_le hle]
  | c :: l, b, hactive, hkorean, hle => by
      rw [List.foldl_cons]
      cases hc : isAsciiPrintable c with
      | false =>
          have hsame : b.addChar u c = b := by
            unfold InputBox.addChar
            by_cases hprintable : u.printable c = true
            · have hascii : isAscii c = false := by
                rw [Bool.eq_false_iff]
                exact fun h =>
                  Bool.false_ne_true (hc.symm.trans ((printable_and_ascii c).mp ⟨hprintable, h⟩))
              simp [hactive, hkorean, hprintable, hascii]
            · simp [hactive, hprintable]
          rw [hsame, foldl_addChar l hactive hkorean hle,
            List.filter_cons_of_neg (by rw [hc]; exact Bool.false_ne_true)]
      | true =>
          obtain ⟨hprintable, hascii⟩ := (printable_and_ascii (u := u) c).mpr hc
          rw [List.filter_cons_of_pos hc]
          rcases Nat.lt_or_eq_of_le hle with hlt | heq
          · have hadd : b.addChar u c = { b with text := b.text ++ [c] } := by
              unfold InputBox.addChar
              simp [hactive, hkorean, hprintable, hascii, Nat.not_le_of_lt hlt]
            rw [hadd, foldl_addChar l (b := { b with text := b.text ++ [c] }) hactive hkorean
              (by rw [List.length_append]; exact hlt)]
            simp
          · have hsame : b.addChar u c = b := by
              unfold InputBox.addChar
              simp [hactive, hkorean, hprintable, hascii, heq]
            rw [hsame, foldl_addChar l hactive hkorean hle, ← heq, List.take_left, List.take_left]

/-- **What a box of the login screen holds**: the first sixteen printable characters of ASCII. -/
theorem typed_eq (s : String) :
    InputBox.typed u s = String.ofList ((s.toList.filter isAsciiPrintable).take maxInput) := by
  rw [InputBox.typed, foldl_addChar s.toList rfl rfl (Nat.zero_le _), InputBox.getTotalText]
  show String.ofList (if _ then _ ++ [] else _) = _
  rw [List.append_nil, ite_self]
  rfl

theorem typed_eq_self_iff (s : String) :
    InputBox.typed u s = s ↔ s.length ≤ maxInput ∧ ∀ c ∈ s.toList, isAsciiPrintable c = true := by
  rw [typed_eq]
  constructor
  · intro h
    have hlist : (s.toList.filter isAsciiPrintable).take maxInput = s.toList := by
      rw [← String.toList_ofList (l := (s.toList.filter isAsciiPrintable).take maxInput), h]
    refine ⟨?_, fun c hc => ?_⟩
    · rw [← String.length_toList, ← hlist]
      exact List.length_take_le ..
    · rw [← hlist] at hc
      exact (List.mem_filter.mp (List.mem_of_mem_take hc)).2
  · rintro ⟨hle, hall⟩
    rw [List.filter_eq_self.mpr hall,
      List.take_of_length_le (by rw [String.length_toList]; exact hle), String.ofList_toList]

/-! ## Text on the wire -/

/-- A printable character of ASCII is one byte, and not zero. -/
theorem utf8EncodeChar_printable {c : Char} (h : isAsciiPrintable c = true) :
    ∃ b : UInt8, b ≠ 0 ∧ String.utf8EncodeChar c = [b] := by
  simp only [isAsciiPrintable, Bool.and_eq_true, decide_eq_true_eq] at h
  obtain ⟨hlow, hhigh⟩ := h
  have hval : c.val.toNat = c.toNat := rfl
  have hsize : c.utf8Size = 1 :=
    Char.utf8Size_eq_one_iff.mpr (UInt32.le_iff_toNat_le.mpr (by rw [hval]; show _ ≤ 127; omega))
  refine ⟨c.val.toUInt8, fun hzero => ?_, String.utf8EncodeChar_eq_singleton hsize⟩
  have hnat := congrArg UInt8.toNat hzero
  rw [UInt32.toNat_toUInt8, hval] at hnat
  have hrest : (0 : UInt8).toNat = 0 := rfl
  omega

theorem utf8_printable {l : List Char} (h : ∀ c ∈ l, isAsciiPrintable c = true) :
    (l.flatMap String.utf8EncodeChar).length = l.length ∧ 0 ∉ l.flatMap String.utf8EncodeChar := by
  induction l with
  | nil => exact ⟨rfl, List.not_mem_nil⟩
  | cons c l ih =>
      obtain ⟨b, hb, hc⟩ := utf8EncodeChar_printable (h c (List.mem_cons_self ..))
      obtain ⟨hlength, hzero⟩ := ih fun c' hc' => h c' (List.mem_cons_of_mem _ hc')
      rw [List.flatMap_cons, hc]
      refine ⟨by rw [List.length_append, hlength, List.length_singleton, List.length_cons]; omega,
        fun hmem => ?_⟩
      rcases List.mem_append.mp hmem with hmem | hmem
      · exact hb (List.mem_singleton.mp hmem).symm
      · exact hzero hmem

theorem utf8_inj {s t : String} (h : utf8 s = utf8 t) : s = t := by
  rw [← decodeIgnore_utf8 s, h, decodeIgnore_utf8]

/-- A text that a field has room for and that has no zero is read back whole. -/
theorem takeWhile_take_utf8 {l : List UInt8} {n : Nat} (hle : l.length ≤ n) (hzero : 0 ∉ l) :
    (l.takeWhile (· ≠ 0)).take n = l := by
  have hself : l.takeWhile (· ≠ 0) = l :=
    List.takeWhile_eq_self_iff.mpr fun b hb => decide_eq_true fun h => hzero (h ▸ hb)
  rw [hself, List.take_of_length_le hle]

/-- What is decoded was there. -/
theorem utf8_decodeFrom_sublist : ∀ (fuel : Nat) (l : List UInt8),
    List.Sublist ((decodeFrom fuel l).flatMap String.utf8EncodeChar) l
  | 0, _ => List.nil_sublist _
  | _ + 1, [] => List.nil_sublist _
  | fuel + 1, b :: rest => by
      rw [decodeFrom]
      split
      · rename_i c hdecode
        obtain ⟨l, hl⟩ := ByteArray.exists_of_utf8DecodeChar?_eq_some hdecode
        have hbytes : b :: rest = String.utf8EncodeChar c ++ l.data.toList := by
          have hdata := congrArg (fun a => a.data.toList) hl
          simpa using hdata
        have hdrop : (b :: rest).drop c.utf8Size = l.data.toList := by
          rw [hbytes, ← String.length_utf8EncodeChar c, List.drop_left]
        rw [hdrop, List.flatMap_cons, hbytes]
        exact List.Sublist.append_left (utf8_decodeFrom_sublist fuel l.data.toList) _
      · exact (utf8_decodeFrom_sublist fuel rest).cons b

theorem utf8_decodeIgnore_sublist (l : List UInt8) : List.Sublist (utf8 (decodeIgnore l)) l := by
  rw [utf8, decodeIgnore, String.toList_ofList]
  exact utf8_decodeFrom_sublist ..

/-- **A name is shown as it is** exactly when its field has room for it and it has no zero. -/
theorem decodeIgnore_field_iff (s : String) (n : Nat) :
    decodeIgnore ((stringToCharBuf (utf8 s) n).takeWhile (· ≠ 0)) = s ↔
    (utf8 s).length ≤ n ∧ 0 ∉ utf8 s := by
  have hbuf : (stringToCharBuf (utf8 s) n).takeWhile (· ≠ 0) =
      ((utf8 s).takeWhile (· ≠ 0)).take n := by
    simp only [stringToCharBuf, List.drop_replicate]
    rw [takeWhile_padded, Nat.min_comm, ← List.take_eq_take_min, takeWhile_take]
  rw [hbuf]
  constructor
  · intro h
    have hsub := utf8_decodeIgnore_sublist (((utf8 s).takeWhile (· ≠ 0)).take n)
    rw [h] at hsub
    refine ⟨Nat.le_trans hsub.length_le (List.length_take_le ..), fun hzero => ?_⟩
    have hmem := List.mem_of_mem_take (hsub.subset hzero)
    exact absurd (List.mem_takeWhile_imp hmem) (by decide)
  · rintro ⟨hle, hzero⟩
    rw [takeWhile_take_utf8 hle hzero, decodeIgnore_utf8]

/-! ## The packets with the name -/

/-- A packet whose last member is a string, unpacked. -/
theorem bytesToStruct_packetOf {type : S2CType} {values : List FieldValue} {n : Nat}
    {buf : List UInt8} (hfields : type.fields = values.map FieldValue.type ++ [.charBuf n])
    (hbuf : buf.length = n) (hne : type ≠ .message) :
    PacketManager.bytesToStruct (packetOf type (values.flatMap FieldValue.bytes ++ buf)) =
      (classOf type).fillData
      (.int type.size :: .int type.code :: (values.map FieldValue.raw ++ [.bytes buf])) := by
  obtain ⟨hcls, hfmt, _⟩ := classOf_spec type
  have hlen : (packetOf type (values.flatMap FieldValue.bytes ++ buf)).length = type.size := by
    refine length_packetOf ?_
    rw [List.length_append, FieldValue.length_flatMap_bytes, hfields, List.map_append,
      List.sum_append, hbuf]
    rfl
  have hsize : type.size < 256 ^ 2 := by cases type <;> decide
  have hcode : type.code < 256 ^ 1 := by rw [Nat.pow_one]; exact type.code_lt
  have hunpack : ∀ fmt rest,
      unpackValues (headerFmt ++ fmt) (leBytes 2 type.size ++ leBytes 1 type.code ++ rest) =
      .int type.size :: .int type.code :: unpackValues fmt rest := by
    intro fmt rest
    have h₁ := @unpackValues_append .H _ (.B :: fmt) (leBytes 1 type.code ++ rest)
      (length_leBytes 2 type.size)
    have h₂ := @unpackValues_append .B _ fmt rest (length_leBytes 1 type.code)
    rw [List.append_assoc]
    show unpackValues (.H :: .B :: fmt) _ = _
    rw [h₁, h₂]
    simp only [FormatCode.value, ofLeBytes_leBytes hsize, ofLeBytes_leBytes hcode]
  have hheader : unpackFrom headerFmt (packetOf type (values.flatMap FieldValue.bytes ++ buf)) 0 =
      .ok [.int type.size, .int type.code] := by
    rw [unpackFrom, if_pos (by rw [hlen, Nat.zero_add]; exact type.packetHeaderSize_le_size),
      List.drop_zero, packetOf]
    have h := hunpack [] (values.flatMap FieldValue.bytes ++ buf)
    rw [List.append_nil] at h
    rw [h]
    rfl
  have hall : unpack (classOf type).fmt (packetOf type (values.flatMap FieldValue.bytes ++ buf)) =
      .ok (.int type.size :: .int type.code :: (values.map FieldValue.raw ++ [.bytes buf])) := by
    rw [unpack, if_pos (by rw [hlen, calcsize_classOf]), hfmt, hfields, List.map_append,
      packetOf, hunpack, unpackValues_members_append]
    show Except.ok (_ :: _ :: (_ ++ [PyValue.bytes (buf.take n)])) = _
    rw [← hbuf, List.take_length]
  rw [PacketManager.bytesToStruct, hheader]
  simp only [bind, Except.bind, Int.toNat_natCast, hcls, code_eq_s2cMessage]
  rw [if_neg hne, hall]

theorem shownName_login (playerId maxScore winCount loseCount : Int32) (nickname : String) :
    shownName "user_name" (loginPacket playerId maxScore winCount loseCount (utf8 nickname)) =
      some (.str (decodeIgnore
        ((stringToCharBuf (utf8 nickname) maxPlayerNameSize).takeWhile (· ≠ 0)))) := by
  have h := @bytesToStruct_packetOf .login [.int playerId, .int maxScore, .int winCount,
    .int loseCount] _ _ rfl (length_stringToCharBuf (utf8 nickname) maxPlayerNameSize) nofun
  simp only [List.flatMap_cons, List.flatMap_nil, List.append_nil, ← List.append_assoc] at h
  rw [shownName, loginPacket, h]
  rfl

theorem shownName_addPlayer (playerId : Int32) (nickname : String) :
    shownName "name" (addPlayerPacket playerId (utf8 nickname)) =
      some (.str (decodeIgnore
        ((stringToCharBuf (utf8 nickname) maxPlayerNameSize).takeWhile (· ≠ 0)))) := by
  have h := @bytesToStruct_packetOf .addPlayer [.int playerId] _ _ rfl
    (length_stringToCharBuf (utf8 nickname) maxPlayerNameSize) nofun
  simp only [List.flatMap_cons, List.flatMap_nil, List.append_nil] at h
  rw [shownName, addPlayerPacket, h]
  rfl

/-! ## The login -/

/-- What `ProcessLogin` reads of the login packet. -/
theorem processLogin_built {id pw : String} {c : PacketContext} (hc : c.modeState = .login) :
    (PacketBuilder.buildLoginPkt id pw).bind (processLogin c) =
      some [.login (((utf8 id).takeWhile (· ≠ 0)).take maxPlayerIdSize)
        (((utf8 pw).takeWhile (· ≠ 0)).take maxPlayerPasswordSize)] := by
  obtain ⟨bytes, hbuild, hdecodes⟩ := PacketBuilder.buildLoginPkt_decodes id pw
  have hmembers : readMembers bytes packetHeaderSize [.charBuf maxPlayerIdSize,
      .charBuf maxPlayerPasswordSize] =
      some [fieldText id maxPlayerIdSize, fieldText pw maxPlayerPasswordSize] := hdecodes.members
  obtain ⟨v₁, h₁, hrest⟩ := Option.bind_eq_some_iff.mp hmembers
  obtain ⟨vs, hvs, hsame⟩ := Option.bind_eq_some_iff.mp hrest
  obtain ⟨v₂, h₂, hnil⟩ := Option.bind_eq_some_iff.mp hvs
  cases hnil
  cases hsame
  obtain ⟨loginId, hloginId, hv₁⟩ := Option.map_eq_some_iff.mp h₁
  obtain ⟨password, hpassword, hv₂⟩ := Option.map_eq_some_iff.mp h₂
  cases hv₁
  cases hv₂
  have hoffset : packetHeaderSize + maxPlayerIdSize =
      packetHeaderSize + (FieldType.charBuf maxPlayerIdSize).size := rfl
  rw [hbuild, Option.bind_some, processLogin, if_neg (not_not_intro hc), hoffset,
    hloginId, hpassword]
  rfl

/-- What has been typed fits the fields of the packet. -/
theorem typed_sent (s : String) {n : Nat} (hn : maxInput ≤ n) :
    ((utf8 (InputBox.typed u s)).takeWhile (· ≠ 0)).take n = utf8 (InputBox.typed u s) := by
  rw [typed_eq, utf8, String.toList_ofList]
  obtain ⟨hlength, hzero⟩ := utf8_printable (l := (s.toList.filter isAsciiPrintable).take maxInput)
    fun c hc => (List.mem_filter.mp (List.mem_of_mem_take hc)).2
  exact takeWhile_take_utf8 (by rw [hlength]; exact Nat.le_trans (List.length_take_le ..) hn) hzero

theorem login_iff (a : Account) : (∀ c : PacketContext, c.modeState = .login →
    (PacketBuilder.buildLoginPkt (InputBox.typed u a.loginId) (InputBox.typed u a.password)).bind
      (processLogin c) =
      some [.login (utf8 a.loginId) (utf8 a.password)]) ↔
    InputBox.typed u a.loginId = a.loginId ∧ InputBox.typed u a.password = a.password := by
  have hsent : ∀ c : PacketContext, c.modeState = .login →
      (PacketBuilder.buildLoginPkt (InputBox.typed u a.loginId) (InputBox.typed u a.password)).bind
        (processLogin c) =
        some [.login (utf8 (InputBox.typed u a.loginId))
          (utf8 (InputBox.typed u a.password))] := by
    intro c hc
    rw [processLogin_built hc, typed_sent a.loginId (by decide), typed_sent a.password (by decide)]
  constructor
  · intro h
    have hboth := (hsent acceptedContext rfl).symm.trans (h acceptedContext rfl)
    simp only [Option.some.injEq, List.cons.injEq, HandlerEffect.login.injEq, and_true] at hboth
    exact ⟨utf8_inj hboth.1, utf8_inj hboth.2⟩
  · rintro ⟨hid, hpw⟩ c hc
    rw [hsent c hc, hid, hpw]

/-! ## What the sign-up page accepts -/

/-- The last character of a stripped string is no space. -/
theorem getLast?_strip {s : String} {c : Char} (h : (strip s).toList.getLast? = some c) :
    isSpace c = false := by
  rw [strip, String.toList_ofList, List.getLast?_reverse] at h
  cases hrest : (s.toList.dropWhile isSpace).reverse.dropWhile isSpace with
  | nil =>
      rw [hrest] at h
      cases h
  | cons c' l =>
      rw [hrest] at h
      cases h
      have hhead := List.head?_dropWhile_not isSpace (s.toList.dropWhile isSpace).reverse
      rw [hrest] at hhead
      simpa using hhead

theorem printable_of_loginId {c : Char}
    (h : (isAsciiAlpha c || isAsciiDigit c || c = '_') = true) :
    isAsciiPrintable c = true := by
  simp only [isAsciiAlpha, isAsciiDigit, Bool.or_eq_true, Bool.and_eq_true, decide_eq_true_eq,
    Char.le_def, UInt32.le_iff_toNat_le] at h
  have hval : c.val.toNat = c.toNat := rfl
  rw [hval] at h
  have hbounds : 32 ≤ c.toNat ∧ c.toNat < 127 := by
    rcases h with ((⟨hlow, hhigh⟩ | ⟨hlow, hhigh⟩) | ⟨hlow, hhigh⟩) | rfl
    · exact ⟨Nat.le_trans (by decide) hlow, Nat.lt_of_le_of_lt hhigh (by decide)⟩
    · exact ⟨Nat.le_trans (by decide) hlow, Nat.lt_of_le_of_lt hhigh (by decide)⟩
    · exact ⟨Nat.le_trans (by decide) hlow, Nat.lt_of_le_of_lt hhigh (by decide)⟩
    · decide
  rw [isAsciiPrintable, Bool.and_eq_true, decide_eq_true_eq, decide_eq_true_eq]
  exact hbounds

/-- An id is letters, digits and underscores. -/
theorem registered_printable {c : RegisterContext} {data : RegisterRequest} {a : Account}
    (h : apiRegister u c data = .registered a) :
    ∀ ch ∈ a.loginId.toList, isAsciiPrintable ch = true := by
  unfold apiRegister at h
  dsimp only at h
  split at h
  · cases h
  · rename_i hid
    have hid' : isLoginId (strip data.loginId) = true := by
      simp only [Bool.or_eq_true, not_or, Bool.not_eq_true'] at hid
      exact Bool.of_not_eq_false hid.2
    have hloginId : a.loginId = strip data.loginId := by
      repeat' split at h
      all_goals cases h
      rfl
    intro ch hch
    have hnewline : (strip data.loginId).toList.getLast? ≠ some '\n' := fun hlast =>
      absurd (getLast?_strip hlast) (by decide)
    rw [isLoginId, if_neg hnewline, Bool.and_eq_true, List.all_eq_true] at hid'
    exact printable_of_loginId (hid'.2 ch (hloginId ▸ hch))

/--
**Which accounts can be used**: those whose id and password have at most sixteen characters,
the password printable ones of ASCII, and whose nickname has at most 48 bytes and no NUL.
-/
theorem account_usable_iff {c : RegisterContext} {data : RegisterRequest} {a : Account}
    (h : apiRegister u c data = .registered a) : Usable u a ↔ WithinLimits a := by
  have hprintable := registered_printable h
  unfold Usable
  simp only [login_iff, typed_eq_self_iff, shownName_login, shownName_addPlayer, Option.some.injEq,
    PyValue.str.injEq, decodeIgnore_field_iff, forall_const]
  constructor
  · rintro ⟨⟨⟨hid, _⟩, hpw, hall⟩, ⟨hle, hzero⟩, _⟩
    exact ⟨hid, hpw, hall, hle, hzero⟩
  · rintro ⟨hid, hpw, hall, hle, hzero⟩
    exact ⟨⟨⟨hid, hprintable⟩, hpw, hall⟩, ⟨hle, hzero⟩, hle, hzero⟩

/-! ## Two players who sign up -/

/-- Python's tables, as far as a player needs who writes in ASCII. -/
def asciiOnly : UnicodeData := ⟨fun _ => true, fun _ => false, fun _ => true⟩

/-- The mail address has been verified, and nobody else has signed up. -/
def firstComer : RegisterContext := ⟨some ⟨"kim@example.com", true, 600⟩, 0, [], [], [], true⟩

theorem account_usable_kim : Usable asciiOnly ⟨"kim_01", "김", "tetris99"⟩ ↔
    WithinLimits ⟨"kim_01", "김", "tetris99"⟩ :=
  account_usable_iff (show apiRegister asciiOnly firstComer
    ⟨" kim_01", "김", "tetris99", "tetris99", "kim@example.com"⟩ =
      .registered ⟨"kim_01", "김", "tetris99"⟩ by decide)

/-- **An id of seventeen characters is accepted, and cannot be typed.** -/
theorem long_id_locked_out : ∃ (c : RegisterContext) (data : RegisterRequest) (a : Account),
    apiRegister asciiOnly c data = .registered a ∧ ¬ Usable asciiOnly a := by
  refine ⟨firstComer, ⟨"kim_kim_kim_kim_k", "kim", "tetris99", "tetris99", "kim@example.com"⟩,
    ⟨"kim_kim_kim_kim_k", "kim", "tetris99"⟩, by decide, fun husable => ?_⟩
  obtain ⟨hid, _⟩ := (login_iff _).mp husable.1
  exact absurd ((typed_eq_self_iff _).mp hid).1 (by decide)

end ProjectTetris.Client

import ProjectTetris.Client.Registration
import ProjectTetris.Lib.Transition

/-!
# Signing up

The requests of `app.py` in any order, several at a time. What the server remembers between
two requests of a browser is in the session cookie: the browser cannot change what is in it,
but it can keep an old cookie and send that one again, also after it has signed up.

A registration looks the names up first and inserts its row later; in between others may
register, and what then decides is that the columns of `users` are unique.
-/

namespace ProjectTetris.Client

open Transition

/-- `bcrypt`, of which the sign-up page uses two functions. Only the hashes of codes are ever
checked. -/
structure Bcrypt (Salt Hash : Type) where
  hashpw : String → Salt → Hash
  checkpw : String → Hash → Bool

/-- `f"{n:06d}"`. -/
def codeText (n : Nat) : String := String.ofList ((toString n).toList.leftpad 6 '0')

/-- No other text passes for a code. -/
def Bcrypt.ChecksCodes {Salt Hash : Type} (bcrypt : Bcrypt Salt Hash) : Prop :=
  ∀ text n salt, n < 1000000 → bcrypt.checkpw text (bcrypt.hashpw (codeText n) salt) = true →
    text = codeText n

/-- `^[^@]+@[^@]+\.[^@]+$`, of a text without spaces around it. -/
def isEmail (s : String) : Bool :=
  match s.toList.dropWhile (· ≠ '@') with
  | [] => false
  | _ :: domain =>
      s.toList.head? ≠ some '@' && !domain.contains '@' && (domain.drop 1).dropLast.contains '.'

/-- `session["email_verify"]`, as it stands in a cookie. -/
structure VerifyCookie (Hash : Type) extends EmailVerify where
  codeHash : Hash

/-- A row of `users`. -/
structure UserRow (Hash : Type) where
  loginId : String
  nickname : String
  passwordHash : Hash
  email : String
  /-- `now_ts()` of its registration. -/
  registeredAt : Int

/-- A code that has been drawn for an address. -/
structure DrawnCode (Salt : Type) where
  email : String
  number : Nat
  salt : Salt
  time : Int

/-- A code that has been entered for an address, and was right. -/
structure EnteredCode where
  email : String
  code : String
  time : Int

structure SignUp (Salt Hash : Type) where
  now : Int
  users : List (UserRow Hash) := []
  /-- All the cookies that any browser has ever got. -/
  cookies : List (VerifyCookie Hash) := []
  /-- The addresses for which `api_send_code` has found no user. -/
  free : List String := []
  /-- The rows which `api_register` is about to insert. -/
  inserting : List (UserRow Hash) := []
  drawn : List (DrawnCode Salt) := []
  entered : List EnteredCode := []

namespace SignUp

variable {Salt Hash : Type}

/-- What a registration with this cookie finds. -/
def context (s : SignUp Salt Hash) (cookie : Option (VerifyCookie Hash)) : RegisterContext where
  emailVerify := cookie.map (·.toEmailVerify)
  nowTs := s.now
  loginIds := s.users.map (·.loginId)
  nicknames := s.users.map (·.nickname)
  emails := s.users.map (·.email)
  commits := true

/-- The unique columns of two rows differ. -/
structure Apart (row row' : UserRow Hash) : Prop where
  loginId : row.loginId ≠ row'.loginId
  nickname : row.nickname ≠ row'.nickname
  email : row.email ≠ row'.email

variable (u : UnicodeData) (bcrypt : Bcrypt Salt Hash) (emailCodeTtl : Int)

inductive Next : SignUp Salt Hash → SignUp Salt Hash → Prop
  | passes (s : SignUp Salt Hash) {time : Int} (h : s.now ≤ time) : Next s { s with now := time }
  -- `api_send_code`
  | findsFree (s : SignUp Salt Hash) (email : String) (hemail : isEmail (strip email) = true)
      (hnone : strip email ∉ s.users.map (·.email)) :
      Next s { s with free := strip email :: s.free }
  /-- The cookie is sent whether or not the mail with the code could be. -/
  | sendsCode (s : SignUp Salt Hash) {email : String} {n : Nat} (salt : Salt)
      (hfree : email ∈ s.free)
      (hn : n < 1000000) :
      Next s { s with
        cookies := ⟨⟨email, false, s.now + emailCodeTtl⟩,
          bcrypt.hashpw (codeText n) salt⟩ :: s.cookies
        drawn := ⟨email, n, salt, s.now⟩ :: s.drawn }
  /-- `api_verify_code`, with a code that is right. -/
  | verifies (s : SignUp Salt Hash) {cookie : VerifyCookie Hash} {email code : String}
      (hcookie : cookie ∈ s.cookies)
      (hemail : cookie.email = strip email) (hintime : ¬ s.now > cookie.expireAt)
      (hcode : bcrypt.checkpw (strip code) cookie.codeHash = true) :
      Next s { s with
        cookies := { cookie with verified := true } :: s.cookies
        entered := ⟨cookie.email, strip code, s.now⟩ :: s.entered }
  -- `api_register`
  | looksUp (s : SignUp Salt Hash) {cookie : Option (VerifyCookie Hash)} {data : RegisterRequest}
      {account : Account}
      (salt : Salt) (hcookie : ∀ c ∈ cookie, c ∈ s.cookies)
      (haccount : apiRegister u (s.context cookie) data = .registered account) :
      Next s { s with
        inserting := ⟨account.loginId, account.nickname, bcrypt.hashpw account.password salt,
          strip data.email, s.now⟩ ::
          s.inserting }
  | inserts (s : SignUp Salt Hash) {row : UserRow Hash} (hrow : row ∈ s.inserting)
      (hunique : ∀ row' ∈ s.users, Apart row row') : Next s { s with users := row :: s.users }

def system : System (SignUp Salt Hash) := ⟨fun s => ∃ now, s = { now }, Next u bcrypt emailCodeTtl⟩

variable {u bcrypt emailCodeTtl} {s s' : SignUp Salt Hash} {row : UserRow Hash}

/-- The address of the cookie got a code, and the cookie says so if it has been entered. -/
structure FromCode (bcrypt : Bcrypt Salt Hash) (emailCodeTtl : Int) (s : SignUp Salt Hash)
    (cookie : VerifyCookie Hash) (d : DrawnCode Salt) : Prop where
  mem : d ∈ s.drawn
  email : d.email = cookie.email
  isEmail : isEmail d.email = true
  number : d.number < 1000000
  codeHash : cookie.codeHash = bcrypt.hashpw (codeText d.number) d.salt
  past : d.time ≤ s.now
  expireAt : cookie.expireAt = d.time + emailCodeTtl
  verified : cookie.verified = true → ∃ e ∈ s.entered, e.email = d.email ∧
    e.code = codeText d.number ∧
    d.time ≤ e.time ∧ e.time ≤ s.now

/-- What a row of `users` stands for: somebody had the code that was drawn for its address, and in
time. -/
structure Verified (u : UnicodeData) (bcrypt : Bcrypt Salt Hash) (emailCodeTtl : Int)
    (s : SignUp Salt Hash) (row : UserRow Hash) : Prop where
  loginId : isLoginId row.loginId = true ∧ 6 ≤ row.loginId.length ∧ row.loginId.length ≤ 20
  password : ∃ password salt, validatePassword u password = true ∧
    row.passwordHash = bcrypt.hashpw password salt
  isEmail : isEmail row.email = true
  code : ∃ d ∈ s.drawn, ∃ e ∈ s.entered, d.email = row.email ∧ e.email = row.email ∧
    e.code = codeText d.number ∧
    d.time ≤ e.time ∧ e.time ≤ row.registeredAt ∧ row.registeredAt ≤ d.time + emailCodeTtl

structure Sound (u : UnicodeData) (bcrypt : Bcrypt Salt Hash) (emailCodeTtl : Int)
    (s : SignUp Salt Hash) : Prop where
  free : ∀ email ∈ s.free, isEmail email = true
  cookies : ∀ cookie ∈ s.cookies, ∃ d, FromCode bcrypt emailCodeTtl s cookie d
  inserting : ∀ row ∈ s.inserting, Verified u bcrypt emailCodeTtl s row
  users : ∀ row ∈ s.users, Verified u bcrypt emailCodeTtl s row
  apart : s.users.Pairwise Apart

/-- Nothing that has been drawn or entered is forgotten. -/
structure Grows (s s' : SignUp Salt Hash) : Prop where
  now : s.now ≤ s'.now
  drawn : s.drawn ⊆ s'.drawn
  entered : s.entered ⊆ s'.entered

theorem grows_of_same (hnow : s'.now = s.now) (hdrawn : s'.drawn = s.drawn)
    (hentered : s'.entered = s.entered) :
    Grows s s' := ⟨Int.le_of_eq hnow.symm, fun _ hd => hdrawn ▸ hd, fun _ he => hentered ▸ he⟩

theorem FromCode.grow {cookie : VerifyCookie Hash} {d : DrawnCode Salt}
    (h : FromCode bcrypt emailCodeTtl s cookie d) (hgrows : Grows s s') :
    FromCode bcrypt emailCodeTtl s' cookie d where
  mem := hgrows.drawn h.mem
  email := h.email
  isEmail := h.isEmail
  number := h.number
  codeHash := h.codeHash
  past := Int.le_trans h.past hgrows.now
  expireAt := h.expireAt
  verified := by
    intro hverified
    obtain ⟨e, he, hemail, hcode, hsince, hpast⟩ := h.verified hverified
    exact ⟨e, hgrows.entered he, hemail, hcode, hsince, Int.le_trans hpast hgrows.now⟩

theorem Verified.grow (h : Verified u bcrypt emailCodeTtl s row) (hgrows : Grows s s') :
    Verified u bcrypt emailCodeTtl s' row := by
  obtain ⟨d, hd, e, he, hcode⟩ := h.code
  exact ⟨h.loginId, h.password, h.isEmail, d, hgrows.drawn hd, e, hgrows.entered he, hcode⟩

/-- What a step that adds no row leaves of the invariant. -/
theorem Sound.grow (h : Sound u bcrypt emailCodeTtl s) (hgrows : Grows s s')
    (hfree : ∀ email ∈ s'.free, email ∈ s.free ∨ isEmail email = true)
    (hcookies : ∀ cookie ∈ s'.cookies, cookie ∈ s.cookies ∨ ∃ d,
      FromCode bcrypt emailCodeTtl s' cookie d)
    (hinserting : ∀ row ∈ s'.inserting, row ∈ s.inserting ∨ Verified u bcrypt emailCodeTtl s' row)
    (husers : s'.users = s.users) : Sound u bcrypt emailCodeTtl s' where
  free := fun email hemail => (hfree email hemail).elim (h.free email) id
  cookies := by
    intro cookie hcookie
    obtain hold | hnew := hcookies cookie hcookie
    · obtain ⟨d, hd⟩ := h.cookies cookie hold
      exact ⟨d, hd.grow hgrows⟩
    · exact hnew
  inserting := by
    intro row hrow
    obtain hold | hnew := hinserting row hrow
    · exact (h.inserting row hold).grow hgrows
    · exact hnew
  users := by
    rw [husers]
    exact fun row hrow => (h.users row hrow).grow hgrows
  apart := husers ▸ h.apart

/-- What `api_register` has checked. -/
theorem registered_checked {c : RegisterContext} {data : RegisterRequest} {a : Account}
    (h : apiRegister u c data = .registered a) :
    (isLoginId a.loginId = true ∧ 6 ≤ a.loginId.length ∧ a.loginId.length ≤ 20) ∧
    validatePassword u a.password = true ∧
    ∃ st, c.emailVerify = some st ∧ st.email = strip data.email ∧ st.verified = true ∧
    c.nowTs ≤ st.expireAt := by
  unfold apiRegister at h
  dsimp only at h
  split at h
  · cases h
  rename_i hloginId
  split at h
  · cases h
  split at h
  · cases h
  rename_i hpassword
  split at h
  · cases h
  rename_i st hst
  split at h
  · cases h
  rename_i hverify
  split at h
  · cases h
  rename_i hexpired
  repeat' split at h
  all_goals cases h
  simp only [Bool.or_eq_true, Bool.not_eq_true', not_or, Bool.not_eq_false, Bool.and_eq_true,
    decide_eq_true_eq] at hloginId hpassword
  rw [not_or, not_not, Bool.not_eq_false] at hverify
  exact ⟨⟨hloginId.2, hloginId.1⟩, hpassword, st, hst, hverify.1, hverify.2,
    Int.not_lt.mp hexpired⟩

theorem Sound.sendsCode {email : String} {n : Nat} (salt : Salt)
    (h : Sound u bcrypt emailCodeTtl s) (hfree : email ∈ s.free) (hn : n < 1000000) :
    Sound u bcrypt emailCodeTtl { s with
      cookies := ⟨⟨email, false, s.now + emailCodeTtl⟩,
        bcrypt.hashpw (codeText n) salt⟩ :: s.cookies
      drawn := ⟨email, n, salt, s.now⟩ :: s.drawn } := by
  have hgrows : Grows s { s with
      cookies := ⟨⟨email, false, s.now + emailCodeTtl⟩,
        bcrypt.hashpw (codeText n) salt⟩ :: s.cookies
      drawn := ⟨email, n, salt, s.now⟩ :: s.drawn } :=
    ⟨Int.le_refl _, fun _ hd => List.mem_cons_of_mem _ hd, fun _ he => he⟩
  refine h.grow hgrows (fun _ => .inl) ?_ (fun _ => .inl) rfl
  intro cookie hcookie
  obtain rfl | hold := List.mem_cons.mp hcookie
  · right
    exact ⟨⟨email, n, salt, s.now⟩, List.mem_cons_self .., rfl, h.free email hfree, hn, rfl,
      Int.le_refl _, rfl, nofun⟩
  · exact .inl hold

/-- A right code is the one that was drawn for the address of the cookie. -/
theorem Sound.verifies (hcodes : bcrypt.ChecksCodes) {cookie : VerifyCookie Hash} {code : String}
    (h : Sound u bcrypt emailCodeTtl s) (hcookie : cookie ∈ s.cookies)
    (hcode : bcrypt.checkpw code cookie.codeHash = true) :
    Sound u bcrypt emailCodeTtl { s with
      cookies := { cookie with verified := true } :: s.cookies
      entered := ⟨cookie.email, code, s.now⟩ :: s.entered } := by
  have hgrows : Grows s { s with
      cookies := { cookie with verified := true } :: s.cookies
      entered := ⟨cookie.email, code, s.now⟩ :: s.entered } :=
    ⟨Int.le_refl _, fun _ hd => hd, fun _ he => List.mem_cons_of_mem _ he⟩
  refine h.grow hgrows (fun _ => .inl) ?_ (fun _ => .inl) rfl
  intro cookie' hcookie'
  obtain rfl | hold := List.mem_cons.mp hcookie'
  · right
    obtain ⟨d, hd⟩ := h.cookies cookie hcookie
    rw [hd.codeHash] at hcode
    have hright : code = codeText d.number := hcodes code d.number d.salt hd.number hcode
    exact ⟨d, hd.mem, hd.email, hd.isEmail, hd.number, hd.codeHash, hd.past, hd.expireAt,
      fun _ => ⟨_, List.mem_cons_self .., hd.email.symm, hright, hd.past, Int.le_refl _⟩⟩
  · exact .inl hold

/-- A registration that has passed its checks came with a cookie whose code had been entered. -/
theorem Sound.looksUp {cookie : Option (VerifyCookie Hash)} {data : RegisterRequest}
    {account : Account} (salt : Salt) (h : Sound u bcrypt emailCodeTtl s)
    (hcookie : ∀ c ∈ cookie, c ∈ s.cookies)
    (haccount : apiRegister u (s.context cookie) data = .registered account) :
    Verified u bcrypt emailCodeTtl s
      ⟨account.loginId, account.nickname, bcrypt.hashpw account.password salt,
        strip data.email, s.now⟩ := by
  obtain ⟨hloginId, hpassword, st, hst, hemail, hverified, hintime⟩ := registered_checked haccount
  obtain ⟨c, hc, rfl⟩ := Option.map_eq_some_iff.mp hst
  obtain ⟨d, hd⟩ := h.cookies c (hcookie c hc)
  obtain ⟨e, he, heemail, hecode, hsince, hpast⟩ := hd.verified hverified
  have hdemail : d.email = strip data.email := hd.email.trans hemail
  refine ⟨hloginId, ⟨account.password, salt, hpassword, rfl⟩, hdemail ▸ hd.isEmail, ?_⟩
  exact ⟨d, hd.mem, e, he, hdemail, heemail.trans hdemail, hecode, hsince, hpast,
    hd.expireAt ▸ hintime⟩

theorem Sound.inserts (h : Sound u bcrypt emailCodeTtl s) (hrow : row ∈ s.inserting)
    (hunique : ∀ row' ∈ s.users, Apart row row') :
    Sound u bcrypt emailCodeTtl { s with users := row :: s.users } := by
  have hgrows : Grows s { s with users := row :: s.users } := grows_of_same rfl rfl rfl
  constructor
  case free => exact h.free
  case cookies =>
    exact fun cookie hcookie => (h.cookies cookie hcookie).imp fun _ hd => hd.grow hgrows
  case inserting => exact fun row' hrow' => (h.inserting row' hrow').grow hgrows
  case users =>
    intro row' hrow'
    obtain rfl | hold := List.mem_cons.mp hrow'
    · exact (h.inserting row' hrow).grow hgrows
    · exact (h.users row' hold).grow hgrows
  case apart => exact List.pairwise_cons.mpr ⟨hunique, h.apart⟩

theorem sound_next (hcodes : bcrypt.ChecksCodes) (h : Sound u bcrypt emailCodeTtl s)
    (hnext : Next u bcrypt emailCodeTtl s s') : Sound u bcrypt emailCodeTtl s' := by
  cases hnext with
  | passes hle =>
      exact h.grow ⟨hle, fun _ => id, fun _ => id⟩ (fun _ => .inl) (fun _ => .inl)
        (fun _ => .inl) rfl
  | findsFree email hemail hnone =>
      refine h.grow (grows_of_same rfl rfl rfl) ?_ (fun _ => .inl) (fun _ => .inl) rfl
      intro email' hmem
      obtain rfl | hold := List.mem_cons.mp hmem
      · exact .inr hemail
      · exact .inl hold
  | sendsCode salt hfree hn => exact h.sendsCode salt hfree hn
  | verifies hcookie hemail hintime hcode => exact h.verifies hcodes hcookie hcode
  | looksUp salt hcookie haccount =>
      refine h.grow (grows_of_same rfl rfl rfl) (fun _ => .inl) (fun _ => .inl) ?_ rfl
      intro row hrow
      obtain rfl | hold := List.mem_cons.mp hrow
      · exact .inr ((h.looksUp salt hcookie haccount).grow (grows_of_same rfl rfl rfl))
      · exact .inl hold
  | inserts hrow hunique => exact h.inserts hrow hunique

theorem sound_reachable (hcodes : bcrypt.ChecksCodes)
    (h : (system u bcrypt emailCodeTtl).Reachable s) :
    Sound u bcrypt emailCodeTtl s := by
  refine invariant (I := Sound u bcrypt emailCodeTtl) ?_ (fun _ _ => sound_next hcodes) h
  rintro _ ⟨now, rfl⟩
  exact ⟨nofun, nofun, nofun, nofun, .nil⟩

/--
**No account without its mail address**, whatever cookies are sent again and however the requests
of several browsers interleave. For the address of every user a code was drawn, the right one was
entered after that, and the registration followed before the code expired; and no two users share a
login id, a nickname or an address.
-/
theorem accounts_verified (hcodes : bcrypt.ChecksCodes)
    (h : (system u bcrypt emailCodeTtl).Reachable s) :
    (∀ row ∈ s.users, Verified u bcrypt emailCodeTtl s row) ∧ s.users.Pairwise Apart :=
  ⟨(sound_reachable hcodes h).users, (sound_reachable hcodes h).apart⟩

/-- A hash that hides nothing. -/
def plain : Bcrypt Unit String := ⟨fun pw _ => pw, fun pw hash => pw = hash⟩

def kimCookie (verified : Bool) : VerifyCookie String :=
  ⟨⟨"kim@example.com", verified, 300⟩, codeText 42⟩

def kimRow : UserRow String := ⟨"kim_01", "김", "tetris99", "kim@example.com", 150⟩

/-- A browser that gets its code, enters it two minutes later and has its registration looked up.
-/
def kimSignsUp (users inserting : List (UserRow String)) : SignUp Unit String where
  now := 150
  users := users
  cookies := [kimCookie true, kimCookie false]
  free := ["kim@example.com"]
  inserting := inserting
  drawn := [⟨"kim@example.com", 42, (), 0⟩]
  entered := [⟨"kim@example.com", codeText 42, 120⟩]

theorem strip_kim : strip "kim@example.com" = "kim@example.com" := by decide

theorem strip_code : strip (codeText 42) = codeText 42 := by decide

theorem kim_verifies : (system asciiOnly plain 300).Reachable (kimSignsUp [] []) := by
  have h₀ : (system asciiOnly plain 300).Reachable { now := 0 } := .start ⟨0, rfl⟩
  have h₁ := h₀.next (Next.findsFree _ "kim@example.com" (by decide) (by decide))
  rw [strip_kim] at h₁
  have h₂ := h₁.next (Next.sendsCode _ () (.head _) (show 42 < 1000000 by decide))
  have h₃ := h₂.next (Next.passes _ (show 0 ≤ 120 by decide))
  have hcode : plain.checkpw (strip (codeText 42)) (codeText 42) = true := by decide
  have h₄ :=
    h₃.next (Next.verifies _ (.head _) strip_kim.symm (show ¬ (120 : Int) > 300 by decide) hcode)
  rw [strip_code] at h₄
  exact h₄.next (Next.passes _ (show 120 ≤ 150 by decide))

/-- What the browser sends. -/
def kimRequest : RegisterRequest := ⟨" kim_01", "김", "tetris99", "tetris99", "kim@example.com"⟩

theorem kim_registered :
    apiRegister asciiOnly ((kimSignsUp [] []).context (some (kimCookie true))) kimRequest =
    .registered ⟨"kim_01", "김", "tetris99"⟩ := by
  decide

theorem kim_looksUp : (system asciiOnly plain 300).Reachable (kimSignsUp [] [kimRow]) := by
  have hcookie : ∀ c ∈ some (kimCookie true), c ∈ (kimSignsUp [] []).cookies := by
    intro c hc
    obtain rfl := Option.some.inj hc
    exact .head _
  have hnext : Next asciiOnly plain 300 (kimSignsUp [] []) _ :=
    Next.looksUp _ () hcookie kim_registered
  rw [show kimRequest.email = "kim@example.com" from rfl, strip_kim] at hnext
  exact kim_verifies.next hnext

theorem accounts_verified_kim :
    (system asciiOnly plain 300).Reachable (kimSignsUp [kimRow] [kimRow]) ∧
    Verified asciiOnly plain 300 (kimSignsUp [kimRow] [kimRow]) kimRow := by
  have hrow : kimRow ∈ (kimSignsUp [] [kimRow]).inserting := List.mem_singleton_self kimRow
  have hunique : ∀ row ∈ (kimSignsUp [] [kimRow]).users, Apart kimRow row :=
    fun _ h => absurd h List.not_mem_nil
  have h : (system asciiOnly plain 300).Reachable (kimSignsUp [kimRow] [kimRow]) :=
    kim_looksUp.next (Next.inserts _ hrow hunique)
  have hcodes : plain.ChecksCodes := by
    intro text n salt hn hcheck
    simpa [plain] using hcheck
  exact ⟨h, (accounts_verified hcodes h).1 kimRow (List.mem_singleton_self kimRow)⟩

end SignUp

end ProjectTetris.Client

import IdpSaas.Auth.Accounts

/-!
How much of a password counts. The DTO admits up to 128 characters, bcrypt looks at the
first 72 bytes: an account cannot be opened with another password exactly when the two
differ within these.
-/

namespace IdpSaas
open AuthService

/-- As much of a password as bcrypt looks at. -/
def firstBytes (password : String) : List UInt8 := password.toByteArray.data.toList.take 72

/-- Hashes tell passwords apart within those bytes, and not beyond. -/
def Bcrypt.Truncates (bcrypt : Bcrypt) : Prop :=
  ∀ p q salt, bcrypt.compare p (bcrypt.hash q salt) = decide (firstBytes p = firstBytes q)

/-- Passwords whose encodings fit into the bytes are told apart in full. -/
theorem firstBytes_inj {p q : String} (hp : p.utf8ByteSize ≤ 72) (hq : q.utf8ByteSize ≤ 72)
    (same : firstBytes p = firstBytes q) : p = q := by
  rw [firstBytes, firstBytes, List.take_of_length_le hp, List.take_of_length_le hq] at same
  exact String.toByteArray_inj.mp (ByteArray.ext (Array.toList_inj.mp same))

/-- `MinLength(8)` and `MaxLength(128)` on `RegisterDto.password`, over the length that the
validator counts. -/
def RegisterDto.admitsPassword (length : String → Nat) (password : String) : Prop :=
  8 ≤ length password ∧ length password ≤ 128

namespace Auth

section Barred
variable {τ : Type} (env : AuthEnv τ)

/-- In no run is an account registered with `p` logged into with `q`. -/
def Barred (p q : String) : Prop :=
  ∀ now es g dto response,
    (.register g dto, .session response) ∈ Machine.answers (step env) (State.empty now) es →
      dto.password = p → ∀ slug email user tokens,
        let s := Machine.run (step env) (State.empty now) es
        (login env s.now ⟨slug, email, q⟩ s.db).1 = .ok ⟨user, tokens⟩ →
          ¬(user.id = response.user.id ∧ user.tenantId = response.user.tenantId)

/-- Any two different passwords that are admitted bar each other. -/
def FullySignificant (length : String → Nat) : Prop :=
  ∀ p q, RegisterDto.admitsPassword length p → RegisterDto.admitsPassword length q → p ≠ q →
    Barred env p q

variable {env}

theorem signs_of_respond {now : Time} {user : User} {tenant : Tenant}
    {response : AuthResponseDto τ} (h : respond env now user tenant = .ok response) :
    env.Signs := by
  by_contra silent
  rw [respond_error silent] at h
  cases h

/-- A registration is answered with a session only where tokens can be signed. -/
theorem signs_of_register {s : State} {g : RegisterGenerated} {dto : RegisterDto}
    {response : AuthResponseDto τ}
    (h : (step env s (.register g dto)).2 = some (.session response)) : env.Signs := by
  by_cases free : KeysFree env g dto s.db
  · rw [step, register_free free, State.respond] at h
    cases answered : respond env s.now (newOwner env s.now g dto) (newTenant s.now g dto) with
    | error e =>
        simp only [answered] at h
        cases h
    | ok given => exact signs_of_respond answered
  · obtain ⟨e, refused⟩ := register_refused s.now free
    rw [step, refused] at h
    cases h

theorem signs_of_registered {s : State} {es : List (Event τ)} {g : RegisterGenerated}
    {dto : RegisterDto} {response : AuthResponseDto τ}
    (h : (.register g dto, .session response) ∈ Machine.answers (step env) s es) : env.Signs := by
  induction es generalizing s with
  | nil => exact absurd h List.not_mem_nil
  | cons e es ih =>
      rcases List.mem_append.mp h with here | later
      · obtain ⟨answer, answered, entry⟩ := Option.map_eq_some_iff.mp (Option.mem_toList.mp here)
        obtain ⟨rfl, rfl⟩ := Prod.mk.inj entry
        exact signs_of_register answered
      · exact ih later

/-- A login into an account has been made with a password that matches. -/
theorem Ledger.matched {s : State} {given : List (Event τ × Answer τ)}
    (ledger : Ledger env s given) {g : RegisterGenerated} {dto : RegisterDto}
    {response : AuthResponseDto τ} (mem : (.register g dto, .session response) ∈ given)
    {dto' : LoginDto} {user : AuthUser} {tokens : AuthTokenDto τ}
    (entered : (login env s.now dto' s.db).1 = .ok ⟨user, tokens⟩)
    (same : user.tenantId = response.user.tenantId) :
    env.bcrypt.compare dto'.password (env.bcrypt.hash dto.password g.salt) = true := by
  cases checked : authenticate env dto' s.db with
  | error e =>
      rw [login, checked] at entered
      cases entered
  | ok found =>
      obtain ⟨u, t⟩ := found
      obtain ⟨a, ha, -, tenant, -, -, matched⟩ := ledger.held.opened checked
      rw [login_of_authenticate checked] at entered
      obtain ⟨tokens', ok⟩ := respond_ok (signs_of_respond entered) s.now u t
      rw [ok] at entered
      cases entered
      have account : (⟨g, dto⟩ : Account) ∈ accounts given := mem_accounts.mpr ⟨response, mem⟩
      rw [ledger.answered g dto response mem] at same
      have ids : a.generated.tenantUuid = t.id := congrArg Tenant.id tenant
      cases ledger.held.account_unique account ha (same.symm.trans ids.symm)
      exact matched

theorem step_first_session (signs : env.Signs) (g : RegisterGenerated) (dto : RegisterDto) :
    ∃ s tokens, step env (State.empty 0) (.register g dto) =
        (s, some (.session ⟨Account.user env ⟨g, dto⟩, tokens⟩)) ∧
      s.db = firstRows env g dto := by
  obtain ⟨tokens, ok⟩ := respond_ok signs 0 (newOwner env 0 g dto) (newTenant 0 g dto)
  have answered : register env 0 g dto (State.empty 0).db =
      (.ok ⟨Account.user env ⟨g, dto⟩, tokens⟩, firstRows env g dto) := by
    rw [register_free (keysFree_empty g dto), ok]
    rfl
  rw [step, show (State.empty 0).now = 0 from rfl, answered]
  exact ⟨_, tokens, rfl, issue_db _ _⟩

/-- An account opens with whatever matches its password. -/
theorem not_barred (signs : env.Signs) {g : RegisterGenerated} {dto : RegisterDto} {q : String}
    (matched : env.bcrypt.compare q (env.bcrypt.hash dto.password g.salt) = true) :
    ¬Barred env dto.password q := by
  intro barred
  obtain ⟨s, tokens, registered, rows⟩ := step_first_session signs g dto
  have run : Machine.run (step env) (State.empty 0) [.register g dto] = s := by
    rw [Machine.run, registered, Machine.run]
  have given : (.register g dto, .session ⟨Account.user env ⟨g, dto⟩, tokens⟩) ∈
      Machine.answers (step env) (State.empty 0) [.register g dto] := by
    rw [Machine.answers, registered]
    exact List.mem_cons_self
  obtain ⟨tokens', ok⟩ := respond_ok signs s.now (newOwner env 0 g dto) (newTenant 0 g dto)
  have entered : (login env s.now ⟨dto.tenantSlug, dto.email, q⟩ s.db).1 =
      .ok ⟨Account.user env ⟨g, dto⟩, tokens'⟩ := by
    have opened := authenticate_first matched
    rw [← rows] at opened
    rw [login_of_authenticate opened, ok]
    rfl
  have apart := barred 0 _ g dto _ given rfl dto.tenantSlug dto.email (Account.user env ⟨g, dto⟩)
    tokens'
  rw [run] at apart
  exact apart entered ⟨rfl, rfl⟩

theorem passwords_confused (truncates : env.bcrypt.Truncates) (signs : env.Signs) {p q : String}
    (same : firstBytes p = firstBytes q) : ¬Barred env p q := by
  let g : RegisterGenerated := ⟨"", "", ""⟩
  let dto : RegisterDto := ⟨"", "", "", p, none⟩
  have matched : env.bcrypt.compare q (env.bcrypt.hash dto.password g.salt) = true := by
    rw [truncates, same, decide_eq_true rfl]
  exact not_barred signs matched

/-- Where bcrypt truncates, one password bars another exactly when they differ within the
bytes that count, or no registration succeeds. -/
theorem barred_iff (env : AuthEnv τ) (truncates : env.bcrypt.Truncates) (p q : String) :
    Barred env p q ↔ firstBytes p ≠ firstBytes q ∨ ¬env.Signs := by
  constructor
  · intro barred
    by_contra neither
    rw [not_or, not_not, not_not] at neither
    exact passwords_confused truncates neither.2 neither.1 barred
  · intro differ now es g dto response mem registered slug email user tokens s entered same
    have signs := signs_of_registered mem
    have matched := (Ledger.reached signs now es).matched mem entered same.2
    rw [truncates, registered, decide_eq_true_eq] at matched
    rcases differ with differ | silent
    · exact differ matched.symm
    · exact silent signs

/-- So a password of at most 72 bytes counts in full against any other such. -/
theorem barred_of_short (env : AuthEnv τ) (truncates : env.bcrypt.Truncates) {p q : String}
    (hp : p.utf8ByteSize ≤ 72) (hq : q.utf8ByteSize ≤ 72) (differ : p ≠ q) : Barred env p q :=
  (barred_iff env truncates p q).mpr (Or.inl fun same => differ (firstBytes_inj hp hq same))

end Barred

namespace Sample

def truncating : AuthEnv (String × JwtClaims) :=
  { env with
    bcrypt := ⟨fun password _ => password, fun p hash => decide (firstBytes p = firstBytes hash)⟩ }

theorem truncating_truncates : truncating.bcrypt.Truncates := fun _ _ _ => rfl

theorem truncating_signs : truncating.Signs :=
  ⟨900, 604800, by decide +kernel, by decide +kernel⟩

/-- A passphrase of 81 characters. -/
def passphrase : String :=
  "CorrectHorseBatteryStaple1!CorrectHorseBatteryStaple1!CorrectHorseBatteryStaple1!"

end Sample

/-- Two admitted passwords that differ in their last character only, past 72 bytes. -/
theorem long_passwords_confused :
    ¬FullySignificant Sample.truncating String.length ∧
      ¬Barred Sample.truncating (Sample.passphrase ++ "1") (Sample.passphrase ++ "2") := by
  have opens : ¬Barred Sample.truncating (Sample.passphrase ++ "1") (Sample.passphrase ++ "2") :=
    passwords_confused Sample.truncating_truncates Sample.truncating_signs (by decide +kernel)
  refine ⟨fun significant => opens (significant _ _ ?_ ?_ ?_), opens⟩
  · exact ⟨by decide +kernel, by decide +kernel⟩
  · exact ⟨by decide +kernel, by decide +kernel⟩
  · decide +kernel

theorem barred_iff_sample :
    Barred Sample.truncating "CorrectHorseBatteryStaple1!" "CorrectHorseBatteryStaple2!" :=
  (barred_iff Sample.truncating Sample.truncating_truncates _ _).mpr
    (Or.inl (by decide +kernel))

end Auth
end IdpSaas

import IdpSaas.Errors
import IdpSaas.Schema

/-!
`AuthService` and the check of `JwtStrategy`. The JWT and bcrypt libraries are
parameters: of the first, that a token verifies under the secret it was signed with
until it expires. Calls run on the unscoped client, a call at a time.
-/

namespace IdpSaas
open Owned

structure JwtPayload where
  sub : String
  tenantId : String
  role : UserRole
  deriving DecidableEq, Repr

structure JwtClaims extends JwtPayload where
  iat : Nat
  exp : Nat
  deriving DecidableEq, Repr

/-- The JWT library over its token strings. `seconds` reads an `expiresIn`. -/
structure Jwt (τ : Type) where
  seconds : String → Option Nat
  sign : String → JwtClaims → τ
  verify : String → Nat → τ → Option JwtClaims
  verify_sign : ∀ secret signedWith now claims,
    verify secret now (sign signedWith claims) =
      if secret = signedWith ∧ now < claims.exp then some claims else none

structure Bcrypt where
  hash : String → String → String
  compare : String → String → Bool

/-- Configuration and libraries of the service. -/
structure AuthEnv (τ : Type) where
  jwt : Jwt τ
  bcrypt : Bcrypt
  accessSecret : String
  refreshSecret : String
  accessExpiresIn : String
  refreshExpiresIn : String
  toLowerCase : String → String
  uniqueConstraint : JsError
  missingRelation : JsError
  invalidExpiresIn : JsError

structure RegisterDto where
  tenantName : String
  tenantSlug : String
  email : String
  password : String
  fullName : Option String
  deriving DecidableEq, Repr

structure LoginDto where
  tenantSlug : String
  email : String
  password : String
  deriving DecidableEq, Repr

structure AuthTokenDto (τ : Type) where
  accessToken : τ
  refreshToken : τ
  expiresIn : Nat
  tokenType : String
  deriving DecidableEq, Repr

structure AuthUser where
  id : String
  email : String
  fullName : Option String
  role : UserRole
  tenantId : String
  tenantSlug : String
  deriving DecidableEq, Repr

structure AuthResponseDto (τ : Type) where
  user : AuthUser
  tokens : AuthTokenDto τ
  deriving DecidableEq, Repr

structure AuthContext where
  userId : String
  tenantId : String
  email : String
  role : UserRole
  authMethod : String
  deriving DecidableEq, Repr

/-- What is generated for a registration. -/
structure RegisterGenerated where
  tenantUuid : String
  userUuid : String
  salt : String
  deriving DecidableEq, Repr

/-- Digits and one unit of `s`, `m`, `h`, `d`; anything else counts as 15 minutes. -/
def parseExpiresInToSeconds (input : String) : Nat :=
  let digits := input.toList.takeWhile Char.isDigit
  let n := digits.foldl (fun n c => 10 * n + (c.toNat - 48)) 0
  match digits, input.toList.dropWhile Char.isDigit with
  | [], _ => 900
  | _, ['s'] => n
  | _, ['m'] => n * 60
  | _, ['h'] => n * 3600
  | _, ['d'] => n * 86400
  | _, _ => 900

namespace AuthService
variable {τ : Type}

/-- `signAsync` stamps the payload; times of a token are in seconds. -/
def stamp (now : Time) (payload : JwtPayload) (seconds : Nat) : JwtClaims :=
  { payload with iat := now / 1000, exp := now / 1000 + seconds }

/-- The two tokens to be signed: the secret of each, and its claims. -/
def claimsFor (env : AuthEnv τ) (now : Time) (payload : JwtPayload) :
    Option ((String × JwtClaims) × (String × JwtClaims)) :=
  match env.jwt.seconds env.accessExpiresIn, env.jwt.seconds env.refreshExpiresIn with
  | some access, some refresh =>
      some ((env.accessSecret, stamp now payload access),
        (env.refreshSecret, stamp now payload refresh))
  | _, _ => none

def issueTokens (env : AuthEnv τ) (now : Time) (payload : JwtPayload) :
    Except JsError (AuthTokenDto τ) :=
  match claimsFor env now payload with
  | none => .error env.invalidExpiresIn
  | some (access, refresh) =>
      .ok {
        accessToken := env.jwt.sign access.1 access.2
        refreshToken := env.jwt.sign refresh.1 refresh.2
        expiresIn := parseExpiresInToSeconds env.accessExpiresIn
        tokenType := "Bearer" }

/-- The response to a registration or a login. -/
def respond (env : AuthEnv τ) (now : Time) (user : User) (tenant : Tenant) :
    Except HttpError (AuthResponseDto τ) :=
  match issueTokens env now ⟨user.id, tenant.id, user.role⟩ with
  | .error err => .error (.internal err)
  | .ok tokens =>
      .ok ⟨⟨user.id, user.email, user.fullName, user.role, tenant.id, tenant.slug⟩, tokens⟩

def tenantBySlug (db : Database) (slug : String) : Option Tenant :=
  db.tenants.find? fun t => t.slug == slug

/-- The unique key `tenantId_email`. -/
def userByEmail (db : Database) (tenantId email : String) : Option User :=
  db.users.find? fun u => u.tenantId == tenantId && u.email == email

/-- The tenant and its owner, created in one transaction. -/
def createTenantAndOwner (env : AuthEnv τ) (now : Time) (g : RegisterGenerated) (dto : RegisterDto)
    (db : Database) : Except JsError (Tenant × User × Database) :=
  let tenant : Tenant := ⟨g.tenantUuid, dto.tenantName, dto.tenantSlug, .active, now, now⟩
  let user : User :=
    { id := g.userUuid
      email := env.toLowerCase dto.email
      passwordHash := env.bcrypt.hash dto.password g.salt
      fullName := dto.fullName
      role := .owner
      status := .active
      tenantId := tenant.id
      lastLoginAt := none
      createdAt := now
      updatedAt := now }
  if db.tenants.any fun t => t.id == tenant.id || t.slug == tenant.slug then
    .error env.uniqueConstraint
  else if db.users.any fun u => u.id == user.id || u.tenantId == user.tenantId && u.email == user.email
  then .error env.uniqueConstraint
  else
    .ok (tenant, user, { db with tenants := db.tenants ++ [tenant], users := db.users ++ [user] })

def register (env : AuthEnv τ) (now : Time) (g : RegisterGenerated) (dto : RegisterDto)
    (db : Database) : Except HttpError (AuthResponseDto τ) × Database :=
  match tenantBySlug db dto.tenantSlug with
  | some _ => (.error (.conflict "Tenant slug already taken"), db)
  | none =>
      match createTenantAndOwner env now g dto db with
      | .error err => (.error (.internal err), db)
      | .ok (tenant, user, db') => (respond env now user tenant, db')

section Registering
variable (env : AuthEnv τ)

/-- The rows that a registration creates. -/
def newTenant (now : Time) (g : RegisterGenerated) (dto : RegisterDto) : Tenant :=
  ⟨g.tenantUuid, dto.tenantName, dto.tenantSlug, .active, now, now⟩

def newOwner (now : Time) (g : RegisterGenerated) (dto : RegisterDto) : User where
  id := g.userUuid
  email := env.toLowerCase dto.email
  passwordHash := env.bcrypt.hash dto.password g.salt
  fullName := dto.fullName
  role := .owner
  status := .active
  tenantId := g.tenantUuid
  lastLoginAt := none
  createdAt := now
  updatedAt := now

/-- The unique keys of the new rows are free: ids, the slug, and the email in the tenant. -/
def KeysFree (g : RegisterGenerated) (dto : RegisterDto) (db : Database) : Prop :=
  (∀ t ∈ db.tenants, t.id ≠ g.tenantUuid ∧ t.slug ≠ dto.tenantSlug) ∧
    ∀ u ∈ db.users, u.id ≠ g.userUuid ∧
      ¬(u.tenantId = g.tenantUuid ∧ u.email = env.toLowerCase dto.email)

instance (g : RegisterGenerated) (dto : RegisterDto) (db : Database) :
    Decidable (KeysFree env g dto db) := inferInstanceAs (Decidable (_ ∧ _))

/-- The transaction creates both rows when their keys are free, and else none. -/
theorem createTenantAndOwner_eq (now : Time) (g : RegisterGenerated) (dto : RegisterDto)
    (db : Database) :
    createTenantAndOwner env now g dto db =
      if KeysFree env g dto db then
        .ok (newTenant now g dto, newOwner env now g dto,
          { db with
            tenants := db.tenants ++ [newTenant now g dto]
            users := db.users ++ [newOwner env now g dto] })
      else .error env.uniqueConstraint := by
  have tenants : (db.tenants.any fun t => t.id == g.tenantUuid || t.slug == dto.tenantSlug) = false ↔
      ∀ t ∈ db.tenants, t.id ≠ g.tenantUuid ∧ t.slug ≠ dto.tenantSlug := by
    simp [List.any_eq_false]
  have users : (db.users.any fun u => u.id == g.userUuid ||
      u.tenantId == g.tenantUuid && u.email == env.toLowerCase dto.email) = false ↔
      ∀ u ∈ db.users, u.id ≠ g.userUuid ∧
        ¬(u.tenantId = g.tenantUuid ∧ u.email = env.toLowerCase dto.email) := by
    simp [List.any_eq_false]
  rw [createTenantAndOwner]
  dsimp only
  cases ht : db.tenants.any fun t => t.id == g.tenantUuid || t.slug == dto.tenantSlug with
  | true =>
      rw [if_pos rfl, if_neg]
      intro free
      exact Bool.true_eq_false.mp (ht.symm.trans (tenants.mpr free.1))
  | false =>
      rw [if_neg Bool.false_ne_true]
      cases hu : db.users.any fun u => u.id == g.userUuid ||
          u.tenantId == g.tenantUuid && u.email == env.toLowerCase dto.email with
      | true =>
          rw [if_pos rfl, if_neg]
          intro free
          exact Bool.true_eq_false.mp (hu.symm.trans (users.mpr free.2))
      | false =>
          rw [if_neg Bool.false_ne_true, if_pos ⟨tenants.mp ht, users.mp hu⟩]
          rfl

variable {env}

/-- With free keys the slug is free. -/
theorem KeysFree.slug {g : RegisterGenerated} {dto : RegisterDto} {db : Database}
    (free : KeysFree env g dto db) : tenantBySlug db dto.tenantSlug = none := by
  rw [tenantBySlug, List.find?_eq_none]
  intro t ht
  rw [beq_iff_eq]
  exact (free.1 t ht).2

/-- A registration with free keys creates its rows. -/
theorem register_free {now : Time} {g : RegisterGenerated} {dto : RegisterDto} {db : Database}
    (free : KeysFree env g dto db) :
    register env now g dto db =
      (respond env now (newOwner env now g dto) (newTenant now g dto),
        { db with
          tenants := db.tenants ++ [newTenant now g dto]
          users := db.users ++ [newOwner env now g dto] }) := by
  rw [register, free.slug, createTenantAndOwner_eq, if_pos free]

theorem register_taken {now : Time} {g : RegisterGenerated} {dto : RegisterDto} {db : Database}
    {t : Tenant} (taken : tenantBySlug db dto.tenantSlug = some t) :
    register env now g dto db = (.error (.conflict "Tenant slug already taken"), db) := by
  rw [register, taken]

/-- With a key taken a registration fails and changes nothing. -/
theorem register_refused (now : Time) {g : RegisterGenerated} {dto : RegisterDto} {db : Database}
    (clash : ¬KeysFree env g dto db) : ∃ e, register env now g dto db = (.error e, db) := by
  rw [register]
  cases tenantBySlug db dto.tenantSlug with
  | some taken => exact ⟨_, rfl⟩
  | none =>
      rw [createTenantAndOwner_eq, if_neg clash]
      exact ⟨_, rfl⟩

end Registering

def invalid : HttpError := .unauthorized "Invalid credentials"

/-- The user that a login is for, past its checks. -/
def authenticate (env : AuthEnv τ) (dto : LoginDto) (db : Database) :
    Except HttpError (User × Tenant) :=
  match tenantBySlug db dto.tenantSlug with
  | none => .error invalid
  | some tenant =>
      if tenant.status ≠ .active then .error invalid
      else
        match userByEmail db tenant.id (env.toLowerCase dto.email) with
        | none => .error invalid
        | some user =>
            if user.status ≠ .active then .error invalid
            else if env.bcrypt.compare dto.password user.passwordHash then .ok (user, tenant)
            else .error invalid

def login (env : AuthEnv τ) (now : Time) (dto : LoginDto) (db : Database) :
    Except HttpError (AuthResponseDto τ) × Database :=
  match authenticate env dto db with
  | .error e => (.error e, db)
  | .ok (user, tenant) =>
      (respond env now user tenant,
        { db with
          users := modify (fun u => u.id == user.id)
            (fun u => { u with lastLoginAt := some now, updatedAt := now }) db.users })

theorem login_of_authenticate {env : AuthEnv τ} {dto : LoginDto} {db : Database} {user : User}
    {tenant : Tenant} (h : authenticate env dto db = .ok (user, tenant)) (now : Time) :
    login env now dto db =
      (respond env now user tenant,
        { db with
          users := modify (fun u => u.id == user.id)
            (fun u => { u with lastLoginAt := some now, updatedAt := now }) db.users }) := by
  rw [login, h]

theorem authenticate_ok_iff {env : AuthEnv τ} {dto : LoginDto} {db : Database} {user : User}
    {tenant : Tenant} :
    authenticate env dto db = .ok (user, tenant) ↔
      tenantBySlug db dto.tenantSlug = some tenant ∧ tenant.status = .active ∧
        userByEmail db tenant.id (env.toLowerCase dto.email) = some user ∧
        user.status = .active ∧ env.bcrypt.compare dto.password user.passwordHash = true := by
  rw [authenticate]
  cases bySlug : tenantBySlug db dto.tenantSlug with
  | none => simp
  | some t =>
      dsimp only
      by_cases tenantActive : t.status = .active
      · rw [if_neg (not_not.mpr tenantActive)]
        cases byEmail : userByEmail db t.id (env.toLowerCase dto.email) with
        | none =>
            constructor
            · exact fun h => by cases h
            · rintro ⟨same, -, found, -⟩
              rw [← Option.some.inj same, byEmail] at found
              cases found
        | some u =>
            dsimp only
            constructor
            · intro h
              split at h
              · cases h
              · next userActive =>
                  split at h
                  · next matched =>
                      cases h
                      exact ⟨rfl, tenantActive, byEmail, not_not.mp userActive, matched⟩
                  · cases h
            · rintro ⟨same, -, found, userActive, matched⟩
              cases same
              rw [byEmail] at found
              cases found
              rw [if_neg (not_not.mpr userActive), if_pos matched]
      · rw [if_pos tenantActive]
        constructor
        · exact fun h => by cases h
        · rintro ⟨same, active, -⟩
          exact absurd (Option.some.inj same ▸ active) tenantActive

/-- Whatever the cause, a login is refused with the same error. -/
theorem authenticate_error {env : AuthEnv τ} {dto : LoginDto} {db : Database} {e : HttpError}
    (h : authenticate env dto db = .error e) : e = invalid := by
  rw [authenticate] at h
  repeat' split at h
  all_goals cases h
  all_goals rfl

def refresh (env : AuthEnv τ) (now : Time) (refreshToken : τ) : Except HttpError (AuthTokenDto τ) :=
  match env.jwt.verify env.refreshSecret (now / 1000) refreshToken with
  | none => .error (.unauthorized "Invalid refresh token")
  | some payload =>
      match issueTokens env now payload.toJwtPayload with
      | .error err => .error (.internal err)
      | .ok tokens => .ok tokens

end AuthService

namespace JwtStrategy
variable {τ : Type}

def validate (env : AuthEnv τ) (db : Database) (payload : JwtPayload) :
    Except HttpError AuthContext :=
  match db.users.find? fun u => u.id == payload.sub with
  | none => .error (.unauthorized "User no longer active")
  | some user =>
      if user.status ≠ .active then .error (.unauthorized "User no longer active")
      else if user.tenantId ≠ payload.tenantId then .error (.unauthorized "Token tenant mismatch")
      else
        match db.tenants.find? fun t => t.id == user.tenantId with
        | none => .error (.internal env.missingRelation)
        | some tenant =>
            if tenant.status ≠ .active then .error (.unauthorized "Tenant is not active")
            else .ok ⟨user.id, user.tenantId, user.email, user.role, "jwt"⟩

/-- A validated payload is that of an active user of an active tenant, the one the
payload names; what the handler sees of them is read from their rows. -/
theorem validate_ok {env : AuthEnv τ} {db : Database} {payload : JwtPayload} {user : AuthContext}
    (h : validate env db payload = .ok user) :
    ∃ u t, (db.users.find? fun u => u.id == payload.sub) = some u ∧ u.status = .active ∧
      (db.tenants.find? fun t => t.id == u.tenantId) = some t ∧ t.status = .active ∧
      u.tenantId = payload.tenantId ∧
      user = ⟨u.id, u.tenantId, u.email, u.role, "jwt"⟩ := by
  rw [validate] at h
  cases found : db.users.find? fun u => u.id == payload.sub with
  | none => simp [found] at h
  | some u =>
      simp only [found] at h
      by_cases active : u.status = .active
      · by_cases own : u.tenantId = payload.tenantId
        · cases ofUser : db.tenants.find? fun t => t.id == u.tenantId with
          | none => simp [active, own, own ▸ ofUser] at h
          | some t =>
              by_cases tenantActive : t.status = .active
              · simp only [active, own, own ▸ ofUser, tenantActive, ne_eq, not_true_eq_false,
                  if_false, Except.ok.injEq] at h
                exact ⟨u, t, rfl, active, ofUser, tenantActive, own, by rw [← h, own]⟩
              · simp [active, own, own ▸ ofUser, tenantActive] at h
        · simp [active, own] at h
      · simp [active] at h

end JwtStrategy
end IdpSaas

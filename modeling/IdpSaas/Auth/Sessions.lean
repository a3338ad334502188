import IdpSaas.Auth.Service
import IdpSaas.Lib.Machine

/-!
Runs of registrations, logins and refreshes, with the status of users and tenants
changed and users deleted in between. The state remembers what has been signed; a
token that nobody has signed does not verify.
-/

namespace IdpSaas
open Owned AuthService

def Database.setUserStatus (db : Database) (id : String) (status : UserStatus) : Database :=
  { db with users := modify (fun u => u.id == id) (fun u => { u with status := status }) db.users }

def Database.setTenantStatus (db : Database) (id : String) (status : TenantStatus) : Database :=
  { db with
    tenants := modify (fun t => t.id == id) (fun t => { t with status := status }) db.tenants }

def Database.deleteUser (db : Database) (id : String) : Database :=
  { db with users := db.users.filter fun u => u.id != id }

namespace Auth

/-- `issued` are the secrets and claims of the tokens given out so far. -/
structure State where
  db : Database
  now : Time
  issued : List (String × JwtClaims)

inductive Call (τ : Type)
  | login (dto : LoginDto)
  | refresh (refreshToken : τ)

inductive Event (τ : Type)
  | register (g : RegisterGenerated) (dto : RegisterDto)
  | call (c : Call τ)
  | setUserStatus (id : String) (status : UserStatus)
  | setTenantStatus (id : String) (status : TenantStatus)
  | deleteUser (id : String)
  | elapse (duration : Time)

inductive Answer (τ : Type)
  | session (response : AuthResponseDto τ)
  | tokens (tokens : AuthTokenDto τ)
  | error (e : HttpError)

def Answer.granted {τ : Type} : Answer τ → Bool
  | .session _ | .tokens _ => true
  | .error _ => false

section Machine
variable {τ : Type} (env : AuthEnv τ)

/-- What a presented refresh token verifies to. -/
def State.presented (s : State) (refreshToken : τ) : Option JwtClaims :=
  env.jwt.verify env.refreshSecret (s.now / 1000) refreshToken

/-- Two tokens for the payload have been given out. -/
def State.issue (s : State) (payload : JwtPayload) : State :=
  match claimsFor env s.now payload with
  | none => s
  | some (access, refresh) => { s with issued := s.issued ++ [access, refresh] }

def State.respond (s : State) (r : Except HttpError (AuthResponseDto τ) × Database) :
    State × Option (Answer τ) :=
  match r.1 with
  | .error e => ({ s with db := r.2 }, some (.error e))
  | .ok response =>
      (State.issue env { s with db := r.2 }
        ⟨response.user.id, response.user.tenantId, response.user.role⟩, some (.session response))

def State.refresh (s : State) (refreshToken : τ) : State × Option (Answer τ) :=
  match AuthService.refresh env s.now refreshToken with
  | .error e => (s, some (.error e))
  | .ok tokens =>
      ((s.presented env refreshToken).elim s fun claims => s.issue env claims.toJwtPayload,
        some (.tokens tokens))

def step (s : State) : Event τ → State × Option (Answer τ)
  | .register g dto => s.respond env (register env s.now g dto s.db)
  | .call (.login dto) => s.respond env (login env s.now dto s.db)
  | .call (.refresh refreshToken) => s.refresh env refreshToken
  | .setUserStatus id status => ({ s with db := s.db.setUserStatus id status }, none)
  | .setTenantStatus id status => ({ s with db := s.db.setTenantStatus id status }, none)
  | .deleteUser id => ({ s with db := s.db.deleteUser id }, none)
  | .elapse duration => ({ s with now := s.now + duration }, none)

/-- The user that a login or a refresh is for. -/
def Call.user (s : State) : Call τ → Option String
  | .login dto =>
      match authenticate env dto s.db with
      | .error _ => none
      | .ok (user, _) => some user.id
  | .refresh refreshToken => (s.presented env refreshToken).map fun claims => claims.sub

/-- A presented token that verifies has been given out before. -/
def Unforged (s : State) : Event τ → Prop
  | .call (.refresh refreshToken) =>
      ∀ claims, s.presented env refreshToken = some claims →
        ∃ p ∈ s.issued, refreshToken = env.jwt.sign p.1 p.2
  | _ => True

end Machine

/-- The user is there and active, and so is its tenant. -/
def Active (db : Database) (userId : String) : Prop :=
  ∃ u ∈ db.users, u.id = userId ∧ u.status = .active ∧
    ∃ t ∈ db.tenants, t.id = u.tenantId ∧ t.status = .active

/-- It is what `validate` asks of the user that a token names. -/
theorem active_iff_validate {τ : Type} (env : AuthEnv τ) (db : Database) (userId : String)
    (users : (db.users.map User.id).Nodup) (tenants : (db.tenants.map Tenant.id).Nodup) :
    Active db userId ↔ ∃ tenantId role context,
      JwtStrategy.validate env db ⟨userId, tenantId, role⟩ = .ok context := by
  constructor
  · rintro ⟨u, mem, rfl, active, t, tenant, owner, tenantActive⟩
    have user : (db.users.find? fun x => x.id == u.id) = some u :=
      find?_unique User.id users mem
    have ofUser : (db.tenants.find? fun x => x.id == u.tenantId) = some t := by
      rw [← owner]
      exact find?_unique Tenant.id tenants tenant
    refine ⟨u.tenantId, .member, ⟨u.id, u.tenantId, u.email, u.role, "jwt"⟩, ?_⟩
    simp [JwtStrategy.validate, user, ofUser, active, tenantActive]
  · rintro ⟨tenantId, role, context, valid⟩
    obtain ⟨u, t, user, active, ofUser, tenantActive, -, -⟩ := JwtStrategy.validate_ok valid
    have same := List.find?_some user
    have owner := List.find?_some ofUser
    exact ⟨u, List.mem_of_find?_eq_some user, beq_iff_eq.mp same, active, t,
      List.mem_of_find?_eq_some ofUser, beq_iff_eq.mp owner, tenantActive⟩

namespace Sample

/-- Tokens that carry their secret and claims in the clear. -/
def env : AuthEnv (String × JwtClaims) where
  jwt :=
    { seconds := fun expiresIn => some (parseExpiresInToSeconds expiresIn)
      sign := Prod.mk
      verify := fun secret now token =>
        if secret = token.1 ∧ now < token.2.exp then some token.2 else none
      verify_sign := fun _ _ _ _ => rfl }
  bcrypt := ⟨fun password _ => password, fun password hash => password == hash⟩
  accessSecret := "access-secret"
  refreshSecret := "refresh-secret"
  accessExpiresIn := "15m"
  refreshExpiresIn := "7d"
  toLowerCase s := s
  uniqueConstraint := ⟨some "Unique constraint failed"⟩
  missingRelation := ⟨some "Inconsistent query result"⟩
  invalidExpiresIn := ⟨some "\"expiresIn\" should be a number of seconds or a timespan"⟩

def start : State := ⟨⟨[], [], [], []⟩, 0, []⟩

def registered : Event (String × JwtClaims) :=
  .register ⟨"tenant", "user", "salt"⟩
    ⟨"Acme Corporation", "acme", "jane@acme.com", "CorrectHorseBatteryStaple1!", none⟩

/-- The refresh token of the registration. -/
def token : String × JwtClaims := (env.refreshSecret, stamp 0 ⟨"user", "tenant", .owner⟩ 604800)

/-- A refresh, and a suspension a week later. -/
def expired : List (Event (String × JwtClaims)) :=
  [registered, .call (.refresh token), .elapse 604800000, .setUserStatus "user" .suspended]

end Sample

end Auth
end IdpSaas

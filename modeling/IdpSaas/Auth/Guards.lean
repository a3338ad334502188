import IdpSaas.Auth.Service

/-!
The global guards in the order they run: `JwtAuthGuard` with the strategy behind it,
then `RolesGuard`. A route is given by the metadata its handler and its class carry,
a request by its route and the bearer token it presents. The third guard, which
limits rates, looks at neither.
-/

namespace IdpSaas

/-- What a guard refuses a request with. -/
inductive GuardError
  | thrown (e : HttpError)
  | forbidden (message : String)
  deriving DecidableEq, Repr

/-- `getAllAndOverride`: the metadata of the first target that has any. -/
def getAllAndOverride {α : Type} (targets : List (Option α)) : Option α := targets.findSome? id

/-- What `@Public()` and `@Roles(...)` have put on the handler and on its class. -/
structure Route where
  handlerPublic : Option Bool
  classPublic : Option Bool
  handlerRoles : Option (List UserRole)
  classRoles : Option (List UserRole)

structure Request (τ : Type) where
  route : Route
  bearer : Option τ

def Route.isPublic (r : Route) : Bool :=
  (getAllAndOverride [r.handlerPublic, r.classPublic]).getD false

def Route.requiredRoles (r : Route) : Option (List UserRole) :=
  getAllAndOverride [r.handlerRoles, r.classRoles]

/-- The message of a token that does not verify depends on its signature and expiry. -/
structure Passport {τ : Type} (jwt : Jwt τ) where
  failure : String → Nat → τ → String
  failure_sign : ∀ secret signedWith now claims claims', claims.exp = claims'.exp →
    failure secret now (jwt.sign signedWith claims) =
      failure secret now (jwt.sign signedWith claims')

/-- How the strategy settles. -/
inductive Authentication
  | success (user : AuthContext)
  | fail (message : String)
  | error (e : HttpError)

namespace JwtStrategy
variable {τ : Type} (env : AuthEnv τ) (passport : Passport env.jwt)

/-- `fromAuthHeaderAsBearerToken`, signature and expiry, then `validate`. -/
def authenticate (db : Database) (now : Time) (bearer : Option τ) : Authentication :=
  match bearer with
  | none => .fail "No auth token"
  | some token =>
      match env.jwt.verify env.accessSecret (now / 1000) token with
      | none => .fail (passport.failure env.accessSecret (now / 1000) token)
      | some payload =>
          match validate env db payload.toJwtPayload with
          | .error e => .error e
          | .ok user => .success user

end JwtStrategy

namespace JwtAuthGuard
variable {τ : Type} (env : AuthEnv τ) (passport : Passport env.jwt)

def handleRequest : Authentication → Except GuardError AuthContext
  | .success user => .ok user
  | .fail message =>
      .error (.thrown (.unauthorized (if message = "" then "Unauthorized" else message)))
  | .error e => .error (.thrown e)

/-- The user that the request gets, none on a public route. -/
def canActivate (db : Database) (now : Time) (r : Request τ) :
    Except GuardError (Option AuthContext) :=
  if r.route.isPublic then .ok none
  else (handleRequest (JwtStrategy.authenticate env passport db now r.bearer)).map some

end JwtAuthGuard

def UserRole.name : UserRole → String
  | .owner => "OWNER"
  | .admin => "ADMIN"
  | .member => "MEMBER"

namespace RolesGuard

def canActivate (route : Route) (user : Option AuthContext) : Except GuardError Unit :=
  match route.requiredRoles with
  | none | some [] => .ok ()
  | some requiredRoles =>
      match user with
      | none => .error (.forbidden "Role information missing")
      | some user =>
          if user.role ∈ requiredRoles then .ok ()
          else
            .error (.forbidden ("Requires one of roles: " ++
              ", ".intercalate (requiredRoles.map UserRole.name)))

end RolesGuard

section Guards
variable {τ : Type} (env : AuthEnv τ) (passport : Passport env.jwt)

/-- Whether the handler runs, and with which user. -/
def guards (db : Database) (now : Time) (r : Request τ) :
    Except GuardError (Option AuthContext) :=
  match JwtAuthGuard.canActivate env passport db now r with
  | .error e => .error e
  | .ok user =>
      match RolesGuard.canActivate r.route user with
      | .error e => .error e
      | .ok () => .ok user

end Guards

/-- The role and the times of a token do not enter its validation. -/
theorem JwtStrategy.validate_role {τ : Type} (env : AuthEnv τ) (db : Database)
    {payload payload' : JwtPayload} (sub : payload.sub = payload'.sub)
    (tenantId : payload.tenantId = payload'.tenantId) :
    validate env db payload = validate env db payload' := by
  rw [validate, validate, sub, tenantId]

theorem RolesGuard.canActivate_ok {route : Route} {user : AuthContext}
    (h : canActivate route (some user) = .ok ()) {roles : List UserRole}
    (required : route.requiredRoles = some roles) (listed : roles ≠ []) :
    user.role ∈ roles := by
  obtain ⟨r, rest, rfl⟩ := List.exists_cons_of_ne_nil listed
  rw [canActivate, required] at h
  by_contra other
  simp only [if_neg other] at h
  cases h

theorem RolesGuard.canActivate_error {route : Route} {user : Option AuthContext} {e : GuardError}
    (h : canActivate route user = .error e) : ∃ message, e = .forbidden message := by
  rw [canActivate] at h
  repeat' split at h
  all_goals cases h
  all_goals exact ⟨_, rfl⟩

/-- The strategy fails only with what `validate` throws. -/
theorem JwtStrategy.authenticate_error {τ : Type} {env : AuthEnv τ} {passport : Passport env.jwt}
    {db : Database} {now : Time} {bearer : Option τ} {e : HttpError}
    (h : authenticate env passport db now bearer = .error e) :
    ∃ payload, validate env db payload = .error e := by
  cases bearer with
  | none => cases h
  | some token =>
      rw [authenticate] at h
      cases verified : env.jwt.verify env.accessSecret (now / 1000) token with
      | none =>
          rw [verified] at h
          cases h
      | some claims =>
          simp only [verified] at h
          cases valid : validate env db claims.toJwtPayload with
          | ok user =>
              rw [valid] at h
              cases h
          | error e' =>
              rw [valid] at h
              cases h
              exact ⟨_, valid⟩

end IdpSaas

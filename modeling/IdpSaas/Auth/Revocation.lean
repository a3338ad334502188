import IdpSaas.Auth.Tokens

/-!
Requests behind the guards, in runs in which users and tenants change at any time. What
a token says is as old as the login it goes back to, for a refresh copies its payload;
the guards read who may do what from the rows as they are when the request comes in.
-/

namespace IdpSaas
open Owned AuthService

def Database.setUserRole (db : Database) (id : String) (role : UserRole) : Database :=
  { db with users := modify (fun u => u.id == id) (fun u => { u with role := role }) db.users }

def Database.setUserTenant (db : Database) (id tenantId : String) : Database :=
  { db with
    users := modify (fun u => u.id == id) (fun u => { u with tenantId := tenantId }) db.users }

namespace Access

/-- Calls of the token service and changes of status, changes of role and tenant, and
requests to guarded routes. -/
inductive Event (τ : Type)
  | auth (e : Auth.Event τ)
  | setUserRole (id : String) (role : UserRole)
  | setUserTenant (id tenantId : String)
  | request (r : Request τ)

inductive Answer (τ : Type)
  | auth (a : Auth.Answer τ)
  | handled (user : Option AuthContext)
  | refused (e : GuardError)

section Machine
variable {τ : Type} (env : AuthEnv τ) (passport : Passport env.jwt)

def request (s : Auth.State) (r : Request τ) : Answer τ :=
  match guards env passport s.db s.now r with
  | .ok user => .handled user
  | .error e => .refused e

def step (s : Auth.State) : Event τ → Auth.State × Option (Answer τ)
  | .auth e => ((Auth.step env s e).1, (Auth.step env s e).2.map .auth)
  | .setUserRole id role => ({ s with db := s.db.setUserRole id role }, none)
  | .setUserTenant id tenantId => ({ s with db := s.db.setUserTenant id tenantId }, none)
  | .request r => (s, some (request env passport s r))

end Machine

section Requests
variable {τ : Type} {env : AuthEnv τ} {passport : Passport env.jwt} {s : Auth.State}

/-- In this state the presented token is that of an active user of the active tenant it
names, whose role is among those the route lists; the handler sees that user's row. -/
def Standing (env : AuthEnv τ) (s : Auth.State) (r : Request τ) (user : AuthContext) : Prop :=
  ∃ token claims u t, r.bearer = some token ∧
    env.jwt.verify env.accessSecret (s.now / 1000) token = some claims ∧
    (s.db.users.find? fun u => u.id == claims.sub) = some u ∧ u.status = .active ∧
    (s.db.tenants.find? fun t => t.id == claims.tenantId) = some t ∧ t.status = .active ∧
    u.tenantId = claims.tenantId ∧
    (∀ roles, r.route.requiredRoles = some roles → roles ≠ [] → u.role ∈ roles) ∧
    user.userId = u.id ∧ user.tenantId = u.tenantId ∧ user.role = u.role

/-- What the strategy lets in has a token that verifies and a payload that validates. -/
theorem authenticate_success {db : Database} {now : Time} {bearer : Option τ} {user : AuthContext}
    (h : JwtStrategy.authenticate env passport db now bearer = .success user) :
    ∃ token claims, bearer = some token ∧
      env.jwt.verify env.accessSecret (now / 1000) token = some claims ∧
      JwtStrategy.validate env db claims.toJwtPayload = .ok user := by
  cases bearer with
  | none => cases h
  | some token =>
      rw [JwtStrategy.authenticate] at h
      cases verified : env.jwt.verify env.accessSecret (now / 1000) token with
      | none => simp [verified] at h
      | some claims =>
          simp only [verified] at h
          cases valid : JwtStrategy.validate env db claims.toJwtPayload with
          | error e => simp [valid] at h
          | ok context =>
              simp only [valid, Authentication.success.injEq] at h
              exact ⟨token, claims, rfl, verified, h ▸ valid⟩

/-- A request to a guarded route is handled for an authenticated user whom its roles admit. -/
theorem guards_ok {r : Request τ} (guarded : r.route.isPublic = false)
    {user : Option AuthContext} (h : guards env passport s.db s.now r = .ok user) :
    ∃ context, user = some context ∧
      JwtStrategy.authenticate env passport s.db s.now r.bearer = .success context ∧
      RolesGuard.canActivate r.route (some context) = .ok () := by
  rw [guards, JwtAuthGuard.canActivate, guarded, if_neg Bool.false_ne_true] at h
  cases authenticated : JwtStrategy.authenticate env passport s.db s.now r.bearer with
  | fail message => simp [authenticated, JwtAuthGuard.handleRequest, Except.map] at h
  | error e => simp [authenticated, JwtAuthGuard.handleRequest, Except.map] at h
  | success context =>
      simp only [authenticated, JwtAuthGuard.handleRequest, Except.map] at h
      cases roles : RolesGuard.canActivate r.route (some context) with
      | error e => simp [roles] at h
      | ok _ =>
          simp only [roles, Except.ok.injEq] at h
          exact ⟨context, h.symm, rfl, roles⟩

theorem standing_of_handled {r : Request τ} (guarded : r.route.isPublic = false)
    {user : Option AuthContext} (h : request env passport s r = .handled user) :
    ∃ context, user = some context ∧ Standing env s r context := by
  have passed : guards env passport s.db s.now r = .ok user := by
    rw [request] at h
    cases decided : guards env passport s.db s.now r with
    | error e => simp [decided] at h
    | ok user' => simpa [decided] using h
  obtain ⟨context, rfl, authenticated, roles⟩ := guards_ok guarded passed
  obtain ⟨token, claims, presented, verified, valid⟩ := authenticate_success authenticated
  obtain ⟨u, t, user, active, tenant, tenantActive, own, rfl⟩ := JwtStrategy.validate_ok valid
  refine ⟨_, rfl, token, claims, u, t, presented, verified, user, active, ?_, tenantActive, own,
    fun _ => RolesGuard.canActivate_ok roles, rfl, rfl, rfl⟩
  rw [← show u.tenantId = claims.tenantId from own]
  exact tenant

/-- No guard looks at the role that a token claims. -/
theorem authenticate_role (env : AuthEnv τ) (passport : Passport env.jwt) (db : Database)
    (now : Time) (secret : String) (claims : JwtClaims) (role : UserRole) :
    JwtStrategy.authenticate env passport db now (some (env.jwt.sign secret claims)) =
      JwtStrategy.authenticate env passport db now
        (some (env.jwt.sign secret { claims with role := role })) := by
  have same : JwtStrategy.validate env db claims.toJwtPayload =
      JwtStrategy.validate env db ({ claims with role := role } : JwtClaims).toJwtPayload :=
    JwtStrategy.validate_role env db rfl rfl
  simp only [JwtStrategy.authenticate, env.jwt.verify_sign]
  by_cases verifies : env.accessSecret = secret ∧ now / 1000 < claims.exp
  · simp only [if_pos verifies, same]
  · simp only [if_neg verifies]
    rw [passport.failure_sign env.accessSecret secret (now / 1000) claims
      { claims with role := role } rfl]

/-- In every state reached, a guarded route is handled only for a user in good standing
there, whatever the tokens say; tokens that differ in their role claim are decided
alike; and a refresh signs the payload it is given. -/
theorem revocation_at_once (env : AuthEnv τ) (passport : Passport env.jwt) (db : Database)
    (now : Time) (es : List (Event τ)) :
    let s := Machine.run (step env passport) ⟨db, now, []⟩ es
    (∀ (r : Request τ) user, r.route.isPublic = false →
      (step env passport s (.request r)).2 = some (.handled user) →
        ∃ context, user = some context ∧ Standing env s r context) ∧
    (∀ route secret claims role,
      (step env passport s (.request ⟨route, some (env.jwt.sign secret claims)⟩)).2 =
        (step env passport s
          (.request ⟨route, some (env.jwt.sign secret { claims with role := role })⟩)).2) ∧
    ∀ refreshToken claims tokens, s.presented env refreshToken = some claims →
      AuthService.refresh env s.now refreshToken = .ok tokens →
        ∃ access refresh,
          tokens.accessToken =
            env.jwt.sign env.accessSecret (stamp s.now claims.toJwtPayload access) ∧
          tokens.refreshToken =
            env.jwt.sign env.refreshSecret (stamp s.now claims.toJwtPayload refresh) := by
  intro s
  refine ⟨fun r user guarded handled => ?_, fun route secret claims role => ?_,
    fun refreshToken claims tokens presented refreshed => ?_⟩
  · exact standing_of_handled guarded (Option.some.inj handled)
  · simp only [step, request, guards, JwtAuthGuard.canActivate,
      authenticate_role env passport s.db s.now secret claims role]
  · obtain ⟨verified, same, issued⟩ := issued_of_refresh refreshed
    cases same.symm.trans presented
    obtain ⟨access, refresh, -, -, accessToken, refreshToken⟩ := of_issueTokens issued
    exact ⟨access, refresh, accessToken, refreshToken⟩

end Requests

namespace Sample
open Auth.Sample

/-- A registration whose owner is made a member afterwards. -/
def demoted : List (Event (String × JwtClaims)) := [.auth registered, .setUserRole "user" .member]

/-- A request to a route for members, with the token that says OWNER. -/
def upload : Request (String × JwtClaims) where
  route := ⟨none, none, none, some [.member]⟩
  bearer := some (env.accessSecret, stamp 0 ⟨"user", "tenant", .owner⟩ 900)

def member : AuthContext := ⟨"user", "tenant", "jane@acme.com", .member, "jwt"⟩

end Sample

theorem revocation_at_once_demoted :
    ∃ context, some Sample.member = some context ∧
      Standing Auth.Sample.env
        (Machine.run (step Auth.Sample.env Auth.Sample.passport) ⟨⟨[], [], [], []⟩, 0, []⟩
          Sample.demoted) Sample.upload context := by
  have passed : guards Auth.Sample.env Auth.Sample.passport
      (Machine.run (step Auth.Sample.env Auth.Sample.passport) ⟨⟨[], [], [], []⟩, 0, []⟩
        Sample.demoted).db 0 Sample.upload = .ok (some Sample.member) := by decide +kernel
  refine (revocation_at_once Auth.Sample.env Auth.Sample.passport ⟨[], [], [], []⟩ 0
    Sample.demoted).1 Sample.upload (some Sample.member) rfl ?_
  rw [step, request, show (Machine.run (step Auth.Sample.env Auth.Sample.passport)
    ⟨⟨[], [], [], []⟩, 0, []⟩ Sample.demoted).now = 0 from rfl, passed]

end Access
end IdpSaas

import IdpSaas.Auth.Guards
import IdpSaas.Auth.Sessions
import IdpSaas.Config

/-!
The two tokens that `issueTokens` signs. They carry the same payload, so only the
secrets tell an access token from a refresh token; the environment schema asks for both
secrets and compares neither with the other.
-/

namespace IdpSaas
open AuthService

section Issue
variable {τ : Type} {env : AuthEnv τ} {now : Time} {payload : JwtPayload}

/-- The configured lifetimes are ones that the JWT library can read. -/
def AuthEnv.Signs (env : AuthEnv τ) : Prop :=
  ∃ access refresh, env.jwt.seconds env.accessExpiresIn = some access ∧
    env.jwt.seconds env.refreshExpiresIn = some refresh

theorem issueTokens_ok {access refresh : Nat}
    (ha : env.jwt.seconds env.accessExpiresIn = some access)
    (hr : env.jwt.seconds env.refreshExpiresIn = some refresh) (now : Time)
    (payload : JwtPayload) :
    issueTokens env now payload = .ok {
      accessToken := env.jwt.sign env.accessSecret (stamp now payload access)
      refreshToken := env.jwt.sign env.refreshSecret (stamp now payload refresh)
      expiresIn := parseExpiresInToSeconds env.accessExpiresIn
      tokenType := "Bearer" } := by
  simp only [issueTokens, claimsFor, ha, hr]

/-- What has been issued is a pair signed over one payload. -/
theorem of_issueTokens {tokens : AuthTokenDto τ} (h : issueTokens env now payload = .ok tokens) :
    ∃ access refresh, env.jwt.seconds env.accessExpiresIn = some access ∧
      env.jwt.seconds env.refreshExpiresIn = some refresh ∧
      tokens.accessToken = env.jwt.sign env.accessSecret (stamp now payload access) ∧
      tokens.refreshToken = env.jwt.sign env.refreshSecret (stamp now payload refresh) := by
  cases ha : env.jwt.seconds env.accessExpiresIn with
  | none => simp [issueTokens, claimsFor, ha] at h
  | some access =>
      cases hr : env.jwt.seconds env.refreshExpiresIn with
      | none => simp [issueTokens, claimsFor, ha, hr] at h
      | some refresh =>
          rw [issueTokens_ok ha hr] at h
          cases h
          exact ⟨access, refresh, rfl, rfl, rfl, rfl⟩

theorem issued_expiresIn {tokens : AuthTokenDto τ} (h : issueTokens env now payload = .ok tokens) :
    tokens.expiresIn = parseExpiresInToSeconds env.accessExpiresIn := by
  obtain ⟨access, refresh, ha, hr, -⟩ := of_issueTokens h
  rw [issueTokens_ok ha hr] at h
  rw [← Except.ok.inj h]

/-- A refresh hands out a new pair for the payload that it has verified. -/
theorem issued_of_refresh {refreshToken : τ} {tokens : AuthTokenDto τ}
    (h : AuthService.refresh env now refreshToken = .ok tokens) :
    ∃ claims, env.jwt.verify env.refreshSecret (now / 1000) refreshToken = some claims ∧
      issueTokens env now claims.toJwtPayload = .ok tokens := by
  rw [AuthService.refresh] at h
  cases verified : env.jwt.verify env.refreshSecret (now / 1000) refreshToken with
  | none => simp only [verified, reduceCtorEq] at h
  | some claims =>
      refine ⟨claims, rfl, ?_⟩
      cases issued : issueTokens env now claims.toJwtPayload with
      | error err => simp only [verified, issued, reduceCtorEq] at h
      | ok pair =>
          simp only [verified, issued, Except.ok.injEq] at h
          rw [h]

/-- A registration or a login that comes so far is answered, and names its user. -/
theorem respond_ok (signs : env.Signs) (now : Time) (user : User) (tenant : Tenant) :
    ∃ tokens, respond env now user tenant =
      .ok ⟨⟨user.id, user.email, user.fullName, user.role, tenant.id, tenant.slug⟩, tokens⟩ := by
  obtain ⟨access, refresh, ha, hr⟩ := signs
  rw [respond, issueTokens_ok ha hr]
  exact ⟨_, rfl⟩

theorem respond_error (silent : ¬env.Signs) (now : Time) (user : User) (tenant : Tenant) :
    respond env now user tenant = .error (.internal env.invalidExpiresIn) := by
  have unread : claimsFor env now ⟨user.id, tenant.id, user.role⟩ = none := by
    cases ha : env.jwt.seconds env.accessExpiresIn with
    | none => simp only [claimsFor, ha]
    | some access =>
        cases hr : env.jwt.seconds env.refreshExpiresIn with
        | none => simp only [claimsFor, ha, hr]
        | some refresh => exact absurd ⟨access, refresh, ha, hr⟩ silent
  rw [respond, issueTokens, unread]

end Issue

section Classes
variable {τ : Type} {env : AuthEnv τ}

/-- Tokens are issued, and at least one of the two outlives the second it is issued in. -/
def AuthEnv.IssuesLive (env : AuthEnv τ) : Prop :=
  ∃ access refresh, env.jwt.seconds env.accessExpiresIn = some access ∧
    env.jwt.seconds env.refreshExpiresIn = some refresh ∧ (0 < access ∨ 0 < refresh)

/-- The service with the settings of the environment it has booted with. -/
def AuthEnv.configure {joi : Joi} (env : AuthEnv τ) (e : ValidEnv joi) : AuthEnv τ :=
  { env with
    accessSecret := e.configuration.accessSecret.get e.accessSecret_isSome
    refreshSecret := e.configuration.refreshSecret.get e.refreshSecret_isSome
    accessExpiresIn := e.configuration.accessExpiresIn
    refreshExpiresIn := e.configuration.refreshExpiresIn }

theorem AuthEnv.secrets_eq_iff {joi : Joi} (env : AuthEnv τ) (e : ValidEnv joi) :
    (env.configure e).accessSecret = (env.configure e).refreshSecret ↔
      e.vars "JWT_ACCESS_SECRET" = e.vars "JWT_REFRESH_SECRET" := by
  rw [← e.accessSecret_eq, ← e.refreshSecret_eq]
  exact Option.get_inj

/-- No issued refresh token ever passes as a bearer token, and no issued access token is
ever refreshed. -/
def ClassesSeparate (env : AuthEnv τ) (passport : Passport env.jwt) : Prop :=
  ∀ now payload tokens, issueTokens env now payload = .ok tokens → ∀ later, now ≤ later →
    (∀ db user,
      JwtStrategy.authenticate env passport db later (some tokens.refreshToken) ≠ .success user) ∧
    ∀ refreshed, AuthService.refresh env later tokens.accessToken ≠ .ok refreshed

/-- A token that does not verify is no bearer token. -/
theorem authenticate_unverified (passport : Passport env.jwt) {now : Time} {token : τ}
    (h : env.jwt.verify env.accessSecret (now / 1000) token = none) (db : Database)
    (user : AuthContext) :
    JwtStrategy.authenticate env passport db now (some token) ≠ .success user := by
  rw [JwtStrategy.authenticate]
  simp only [h]
  exact fun accepted => by cases accepted

theorem refresh_unverified {now : Time} {token : τ}
    (h : env.jwt.verify env.refreshSecret (now / 1000) token = none) (refreshed : AuthTokenDto τ) :
    AuthService.refresh env now token ≠ .ok refreshed := by
  rw [AuthService.refresh, h]
  exact fun accepted => by cases accepted

/-- Neither under another secret nor past its time does a token verify. -/
theorem verify_sign_eq_none {secret signedWith : String} {now issued : Time}
    {payload : JwtPayload} {seconds : Nat}
    (h : secret ≠ signedWith ∨ seconds = 0 ∧ issued ≤ now) :
    env.jwt.verify secret (now / 1000) (env.jwt.sign signedWith (stamp issued payload seconds)) =
      none := by
  rw [env.jwt.verify_sign, if_neg]
  rintro ⟨same, alive⟩
  rcases h with other | ⟨rfl, later⟩
  · exact other same
  · exact Nat.not_lt_of_le (Nat.div_le_div_right later) alive

/-- A database in which the payload is that of an active user. -/
def activeFor (payload : JwtPayload) : Database where
  tenants := [⟨payload.tenantId, "", "", .active, 0, 0⟩]
  users := [⟨payload.sub, "", "", none, payload.role, .active, payload.tenantId, none, 0, 0⟩]
  apiKeys := []
  documents := []

theorem validate_activeFor (env : AuthEnv τ) (payload : JwtPayload) :
    JwtStrategy.validate env (activeFor payload) payload =
      .ok ⟨payload.sub, payload.tenantId, "", payload.role, "jwt"⟩ := by
  simp [JwtStrategy.validate, activeFor]

/-- Under one secret for both, a token that lives passes as either. -/
theorem shared_secret_mixes (passport : Passport env.jwt)
    (same : env.accessSecret = env.refreshSecret) (live : env.IssuesLive) :
    ¬ClassesSeparate env passport := by
  obtain ⟨access, refresh, ha, hr, lives⟩ := live
  intro separate
  let payload : JwtPayload := ⟨"", "", .member⟩
  obtain ⟨bearer, refreshes⟩ :=
    separate 0 payload _ (issueTokens_ok ha hr 0 payload) 0 (Nat.le_refl 0)
  rcases lives with accessLives | refreshLives
  · have verified : env.jwt.verify env.refreshSecret (0 / 1000)
        (env.jwt.sign env.accessSecret (stamp 0 payload access)) =
          some (stamp 0 payload access) := by
      rw [env.jwt.verify_sign, if_pos ⟨same.symm, by simpa [stamp] using accessLives⟩]
    apply refreshes
    rw [AuthService.refresh]
    simp only [verified, issueTokens_ok ha hr]
    rfl
  · have verified : env.jwt.verify env.accessSecret (0 / 1000)
        (env.jwt.sign env.refreshSecret (stamp 0 payload refresh)) =
          some (stamp 0 payload refresh) := by
      rw [env.jwt.verify_sign, if_pos ⟨same, by simpa [stamp] using refreshLives⟩]
    apply bearer (activeFor payload)
    rw [JwtStrategy.authenticate]
    simp only [verified]
    rw [show (stamp 0 payload refresh).toJwtPayload = payload from rfl, validate_activeFor]

/-- In a configuration that the schema accepts the token classes keep apart exactly when
the two secrets differ, or no token lives that could be mistaken. -/
theorem token_classes_separate_iff {joi : Joi} (env : AuthEnv τ) (e : ValidEnv joi)
    (passport : Passport (env.configure e).jwt) :
    ClassesSeparate (env.configure e) passport ↔
      e.vars "JWT_ACCESS_SECRET" ≠ e.vars "JWT_REFRESH_SECRET" ∨
        ¬(env.configure e).IssuesLive := by
  rw [ne_eq, ← env.secrets_eq_iff e, ← not_and_or]
  constructor
  · rintro separate ⟨equal, live⟩
    exact shared_secret_mixes passport equal live separate
  · intro apart now payload tokens issued later after
    obtain ⟨access, refresh, ha, hr, accessToken, refreshToken⟩ := of_issueTokens issued
    rw [accessToken, refreshToken]
    have dead : ∀ seconds, seconds = access ∨ seconds = refresh →
        (env.configure e).accessSecret = (env.configure e).refreshSecret →
          seconds = 0 ∧ now ≤ later := by
      intro seconds which equal
      have lives : ¬(0 < access ∨ 0 < refresh) := fun lives =>
        apart ⟨equal, access, refresh, ha, hr, lives⟩
      exact ⟨by omega, after⟩
    constructor
    · exact authenticate_unverified passport (verify_sign_eq_none
        ((Decidable.not_or_of_imp (dead refresh (Or.inr rfl)))))
    · exact refresh_unverified (verify_sign_eq_none
        (Decidable.not_or_of_imp fun equal => dead access (Or.inl rfl) equal.symm))

end Classes

namespace Auth.Sample

/-- Both secrets set to one text of 35 characters. -/
def sharedSecret : ProcessEnv := fun name =>
  if name = "DATABASE_URL" then some "postgresql://idp@localhost:5432/idp"
  else if name = "JWT_ACCESS_SECRET" ∨ name = "JWT_REFRESH_SECRET" then
    some "change-me-to-a-strong-random-string"
  else none

def booted : ValidEnv ⟨fun _ => true, fun _ => some 0⟩ := ⟨sharedSecret, by decide +kernel⟩

def passport : Passport env.jwt := ⟨fun _ _ _ => "invalid signature", fun _ _ _ _ _ _ => rfl⟩

end Auth.Sample

/-- The schema accepts one text for both secrets, and the token classes mix. -/
theorem shared_secret_accepted :
    ¬ClassesSeparate (Auth.Sample.env.configure Auth.Sample.booted) Auth.Sample.passport := by
  refine shared_secret_mixes _ ?_ ⟨900, 604800, ?_, ?_, Or.inl (by decide)⟩
  · exact (AuthEnv.secrets_eq_iff _ _).mpr rfl
  · decide +kernel
  · decide +kernel

end IdpSaas

import IdpSaas.Auth.Passwords
import IdpSaas.Client.Session
import IdpSaas.System.Backend

/-!
Signing in to what has been registered. Whatever is requested in between, the rows of a
registration stay what they are, and their keys stay theirs; so the sign-in form with the
registered slug, email and password brings the page the user that registering brought it.
-/

namespace IdpSaas
open Owned DocumentsService Machine AuthService

/-- The unique keys of tenants and users. -/
structure Database.Keyed (db : Database) : Prop where
  tenantIds : (db.tenants.map Tenant.id).Nodup
  slugs : (db.tenants.map Tenant.slug).Nodup
  userIds : (db.users.map User.id).Nodup
  emails : (db.users.map fun u => (u.tenantId, u.email)).Nodup

/-- Rows are only added, and keep what is fixed in them. -/
structure Database.Extends (db db' : Database) : Prop where
  tenants : db.tenants.map Tenant.fixed <+: db'.tenants.map Tenant.fixed
  users : db.users.map User.fixed <+: db'.users.map User.fixed

/-- What an event does to tenants and users. -/
inductive AccountChange {τ : Type} (env : AuthEnv τ) (db : Database) : Database → Prop
  | kept (db' : Database) (tenants : db'.tenants.map Tenant.fixed = db.tenants.map Tenant.fixed)
      (users : db'.users.map User.fixed = db.users.map User.fixed) : AccountChange env db db'
  | registered (now : Time) (g : RegisterGenerated) (dto : RegisterDto)
      (free : KeysFree env g dto db) :
      AccountChange env db
        { db with
          tenants := db.tenants ++ [newTenant now g dto]
          users := db.users ++ [newOwner env now g dto] }

section Changes
variable {τ : Type} {env : AuthEnv τ} {db db' : Database}

theorem Database.Extends.refl (db : Database) : db.Extends db :=
  ⟨List.prefix_refl _, List.prefix_refl _⟩

theorem AccountChange.extends (change : AccountChange env db db') : db.Extends db' := by
  cases change with
  | kept _ tenants users => exact ⟨tenants ▸ List.prefix_refl _, users ▸ List.prefix_refl _⟩
  | registered now g dto free =>
      exact ⟨List.map_append ▸ List.prefix_append _ _, List.map_append ▸ List.prefix_append _ _⟩

theorem Database.Keyed.of_fixed (h : db.Keyed)
    (tenants : db'.tenants.map Tenant.fixed = db.tenants.map Tenant.fixed)
    (users : db'.users.map User.fixed = db.users.map User.fixed) : db'.Keyed := by
  have ids := congrArg (List.map Tenant.id) tenants
  have slugs := congrArg (List.map Tenant.slug) tenants
  have userIds := congrArg (List.map User.id) users
  have emails := congrArg (List.map fun u : User => (u.tenantId, u.email)) users
  rw [List.map_map, List.map_map] at ids slugs userIds emails
  exact ⟨ids ▸ h.tenantIds, slugs ▸ h.slugs, userIds ▸ h.userIds, emails ▸ h.emails⟩

theorem nodup_map_concat {α β : Type} {key : α → β} {l : List α} {a : α} (h : (l.map key).Nodup)
    (new : ∀ b ∈ l, key b ≠ key a) : ((l ++ [a]).map key).Nodup := by
  rw [List.map_append, List.nodup_append_comm]
  refine List.nodup_cons.mpr ⟨fun taken => ?_, h⟩
  obtain ⟨b, mem, same⟩ := List.mem_map.mp taken
  exact new b mem same

theorem AccountChange.keyed (change : AccountChange env db db') (h : db.Keyed) : db'.Keyed := by
  cases change with
  | kept _ tenants users => exact h.of_fixed tenants users
  | registered now g dto free =>
      exact ⟨nodup_map_concat h.tenantIds fun t mem => (free.1 t mem).1,
        nodup_map_concat h.slugs fun t mem => (free.1 t mem).2,
        nodup_map_concat h.userIds fun u mem => (free.2 u mem).1,
        nodup_map_concat h.emails fun u mem same => (free.2 u mem).2 (Prod.mk.inj same)⟩

/-- An upload has nothing to do with accounts. -/
theorem UploadOutcome.accounts {env : Env} {t : Uuid} {userId : String} {g : UploadGenerated}
    {s : Stores} {r : Except HttpError Document × Stores}
    (h : UploadOutcome env t userId g s r) :
    r.2.db.tenants = s.db.tenants ∧ r.2.db.users = s.db.users := by
  cases h with
  | refused | written | created | queued => exact ⟨rfl, rfl⟩

end Changes

namespace Backend
variable {api : Api}

theorem served_accounts {m : Moment} {s s' : Stores} (served : Served api m s s') :
    AccountChange api.auth s.db s'.db := by
  cases served with
  | same => exact .kept _ rfl rfl
  | registered text dto taken =>
      by_cases free : KeysFree api.auth m.registering (RegisterDto.of dto) s.db
      · rw [register_free free]
        exact .registered _ _ _ free
      · obtain ⟨e, refused⟩ := register_refused m.now free
        rw [refused]
        exact .kept _ rfl rfl
  | noted userId => exact .kept _ rfl (map_modify User.fixed _ fun _ _ => rfl)
  | uploaded payload user t file =>
      obtain ⟨tenants, users⟩ :=
        (upload_outcome api.storage t user.userId file m.uploading m.faults s).accounts
      exact .kept _ (congrArg _ tenants) (congrArg _ users)

theorem step_accounts (b : Backend) (e : Event) :
    AccountChange api.auth b.stores.db (step api b e).1.stores.db := by
  cases e with
  | request request m => exact served_accounts serve_served
  | worker t a =>
      have tr := step_transition api.storage b.system ⟨t, a.action⟩
      exact .kept _ (congrArg _ tr.tenants) (congrArg _ tr.users)
  | setUserStatus id status => exact .kept _ rfl (map_modify User.fixed _ fun _ _ => rfl)
  | setTenantStatus id status => exact .kept _ (map_modify Tenant.fixed _ fun _ _ => rfl) rfl

theorem run_keyed {b : Backend} (h : b.stores.db.Keyed) (es : List Event) :
    (run (step api) b es).stores.db.Keyed :=
  run_invariant (step api) (fun b e h _ => (step_accounts b e).keyed h) h (along_true _ _ _)

theorem run_extends (api : Api) (b : Backend) (es : List Event) :
    b.stores.db.Extends (run (step api) b es).stores.db := by
  induction es generalizing b with
  | nil => exact .refl _
  | cons e es ih =>
      have change : AccountChange api.auth b.stores.db (step api b e).1.stores.db :=
        step_accounts b e
      have first := change.extends
      exact ⟨first.tenants.trans (ih _).tenants, first.users.trans (ih _).users⟩

end Backend

namespace Fetch

/-- What `handleSubmit` of the login page sends. -/
def LoginForm.call (form : LoginForm) : ApiCall :=
  .login (trim form.tenantSlug) (trim form.email) form.password

end Fetch

/-- The request is one of the call: it goes to its route with its body. -/
structure Sends (api : Api) (call : ApiCall) (request : Fetch.Request MulterFile) : Prop where
  routed : api.endpoint request = some call.endpoint
  body : request.body = some (call.body api)

section Answers
variable {api : Api} {m : Moment} {request : Fetch.Request MulterFile} {s : Stores}

/-- A handler with a body gets what the pipe has made of it. -/
theorem withBody_passed {e : Endpoint} {properties : List Property}
    {handler : JsonValue → Stores → Except Exception JsonValue × Stores} {text : String}
    {dto : JsonValue} {user : Option AuthContext} (sent : request.body = some (.text text))
    (taken : ValidationPipe.receive api.lib api.format properties text = some (.ok dto))
    (entered : api.enter m e request s.db = .ok user) :
    api.withBody m e properties handler request s = handler dto s := by
  rw [Api.withBody, Api.received, sent]
  simp only [taken, entered]

/-- The guards let everybody in to a public route. -/
theorem enter_public {e : Endpoint} (public_ : e.route.isPublic = true) (free : m.limited = false)
    (db : Database) : api.enter m e request db = .ok none := by
  have roles : e.route.requiredRoles = none := by cases e <;> rfl
  simp only [Api.enter, guards, JwtAuthGuard.canActivate, public_, if_true, RolesGuard.canActivate,
    roles, free, Bool.false_eq_true, if_false]

/-- A registration that succeeds has made its rows, and brings a session for their user. -/
theorem registered_of_ok (routed : api.endpoint request = some .register)
    (ok : (api.serve m request s).1.ok = true) :
    ∃ text dto response, request.body = some (.text text) ∧
      ValidationPipe.receive api.lib api.format RegisterDto.properties text = some (.ok dto) ∧
      KeysFree api.auth m.registering (RegisterDto.of dto) s.db ∧
      respond api.auth m.now (newOwner api.auth m.now m.registering (RegisterDto.of dto))
        (newTenant m.now m.registering (RegisterDto.of dto)) = .ok response ∧
      api.serve m request s =
        (⟨201, api.reason 201, some ((Api.sessionJson response).stringify api.format)⟩,
          { s with db :=
            { s.db with
              tenants := s.db.tenants ++ [newTenant m.now m.registering (RegisterDto.of dto)]
              users := s.db.users ++
                [newOwner api.auth m.now m.registering (RegisterDto.of dto)] } }) := by
  simp only [Api.serve, routed] at ok ⊢
  obtain ⟨v, handled⟩ := (respond_ok_iff Endpoint.register.success _).mp ok
  simp only [Api.handle] at handled ⊢
  cases withBody_cases api m .register RegisterDto.properties (api.register m) request s with
  | inl refused =>
      obtain ⟨exception, refused⟩ := refused
      rw [refused] at handled
      cases handled
  | inr passed =>
      obtain ⟨text, dto, sent, taken, served⟩ := passed
      rw [served, Api.register] at handled
      by_cases free : KeysFree api.auth m.registering (RegisterDto.of dto) s.db
      · rw [register_free free] at handled
        obtain ⟨response, responded, -⟩ := outcome_ok handled
        refine ⟨text, dto, response, sent, taken, free, responded, ?_⟩
        change respond _ _ _ _ = _ at responded
        rw [served, Api.register, register_free free, responded]
        rfl
      · obtain ⟨e, refused⟩ := register_refused m.now free
        rw [refused] at handled
        cases handled

theorem serve_register (routed : api.endpoint request = some .register) (free : m.limited = false)
    {text : String} {dto : JsonValue} (sent : request.body = some (.text text))
    (taken : ValidationPipe.receive api.lib api.format RegisterDto.properties text = some (.ok dto))
    (keysFree : KeysFree api.auth m.registering (RegisterDto.of dto) s.db)
    {response : AuthResponseDto String}
    (responded : respond api.auth m.now (newOwner api.auth m.now m.registering (RegisterDto.of dto))
      (newTenant m.now m.registering (RegisterDto.of dto)) = .ok response) :
    api.serve m request s =
      (⟨201, api.reason 201, some ((Api.sessionJson response).stringify api.format)⟩,
        { s with db :=
          { s.db with
            tenants := s.db.tenants ++ [newTenant m.now m.registering (RegisterDto.of dto)]
            users := s.db.users ++
              [newOwner api.auth m.now m.registering (RegisterDto.of dto)] } }) := by
  simp only [Api.serve, routed, Api.handle]
  rw [withBody_passed sent taken (enter_public rfl free s.db), Api.register, register_free keysFree,
    responded]
  rfl

/-- A login past its checks brings a session for its user. -/
theorem serve_login (routed : api.endpoint request = some .login) (free : m.limited = false)
    {text : String} {v : JsonValue} (sent : request.body = some (.text text))
    (taken : ValidationPipe.receive api.lib api.format LoginDto.properties text = some (.ok v))
    {user : User} {tenant : Tenant}
    (passed : authenticate api.auth (LoginDto.of v) s.db = .ok (user, tenant))
    {response : AuthResponseDto String}
    (responded : respond api.auth m.now user tenant = .ok response) :
    (api.serve m request s).1 =
      ⟨200, api.reason 200, some ((Api.sessionJson response).stringify api.format)⟩ := by
  simp only [Api.serve, routed, Api.handle]
  rw [withBody_passed sent taken (enter_public rfl free s.db), Api.login,
    login_of_authenticate passed, responded]
  rfl

end Answers

section Forms
variable {lib : Validator} {format : JsonValue.Format}

/-- What the registration form brings to the handler. -/
theorem RegisterForm.dto_eq {form : RegisterForm} {env : AuthEnv String} {v : JsonValue}
    (taken : ValidationPipe.receive lib format RegisterDto.properties
      (form.body format env.toLowerCase) = some (.ok v)) :
    RegisterDto.of v = ⟨trim form.tenantName, env.toLowerCase (trim form.tenantSlug),
      trim form.email, form.password, some (trim form.fullName)⟩ := by
  by_cases blank : trim form.fullName = ""
  · have field : ⟨"fullName", [.isString, .maxLength 100]⟩ ∈ RegisterDto.properties := by
      simp [RegisterDto.properties]
    have missing : ∀ m ∈ members env form, m.1 ≠ "fullName" := by simp [members]
    obtain ⟨e, refused⟩ :=
      ValidationPipe.refused_of_missing lib format field (List.cons_ne_nil _ _) missing
    rw [receive_body (input_blank blank), refused] at taken
    cases taken
  · rw [receive_body (input_named blank)] at taken
    obtain ⟨ms, converted, -, rfl⟩ := ValidationPipe.transform_ok (Option.some.inj taken)
    rw [convertMembers_named] at converted
    cases converted
    simp [RegisterDto.of, textField, members, JsonValue.field]

/-- What the login page brings to the handler. -/
theorem login_taken (format : JsonValue.Format) {tenantSlug email : String}
    (slug : slugPattern.test tenantSlug.toList = true)
    (isEmail : lib.isEmail email.toList = true) (password : String) :
    ∃ v, ValidationPipe.receive lib format LoginDto.properties
        ((JsonValue.object [("tenantSlug", .string tenantSlug), ("email", .string email),
          ("password", .string password)]).stringify format) = some (.ok v) ∧
      LoginDto.of v = ⟨tenantSlug, email, password⟩ := by
  refine ⟨.object [("tenantSlug", .string tenantSlug), ("email", .string email),
    ("password", .string password)], ?_, ?_⟩
  · rw [ValidationPipe.receive, JsonValue.parse_stringify (by simp)]
    refine congrArg some (ValidationPipe.transform_of_errors
      (ValidationPipe.convertMembers_texts ?_ ?_ ?_) ?_)
    · simp [ValidationPipe.dropped]
    · simp
    · simp
    · rw [ValidationPipe.errors_eq_nil_iff]
      simp [LoginDto.properties, JsonValue.field, Constraint.accepts, slug, isEmail]
  · simp [LoginDto.of, textField, JsonValue.field]

end Forms

section Rows
variable {env : AuthEnv String} {db db' : Database}

/-- The rows of a registration are found later on, and a login comes to them with a password
that matches, while both are active. -/
theorem Database.Keyed.opens (keyed : db'.Keyed) {now : Time} {g : RegisterGenerated}
    {dto : RegisterDto}
    (made : Database.Extends { db with
      tenants := db.tenants ++ [newTenant now g dto]
      users := db.users ++ [newOwner env now g dto] } db')
    (sign : LoginDto) (slug : sign.tenantSlug = dto.tenantSlug)
    (email : env.toLowerCase sign.email = env.toLowerCase dto.email)
    (matched : env.bcrypt.compare sign.password (env.bcrypt.hash dto.password g.salt) = true)
    (active : Auth.Active db' g.userUuid) :
    ∃ u t, authenticate env sign db' = .ok (u, t) ∧
      u.fixed = (newOwner env now g dto).fixed ∧ t.fixed = (newTenant now g dto).fixed := by
  obtain ⟨u, hu, userId, userActive, t, ht, tenantId, tenantActive⟩ := active
  have owner : (newOwner env now g dto).fixed ∈ db'.users.map User.fixed := by
    refine made.users.subset ?_
    simp
  have tenant : (newTenant now g dto).fixed ∈ db'.tenants.map Tenant.fixed := by
    refine made.tenants.subset ?_
    simp
  obtain ⟨u', hu', ownerFixed⟩ := List.mem_map.mp owner
  obtain ⟨t', ht', tenantFixed⟩ := List.mem_map.mp tenant
  have userId' : u'.id = g.userUuid := congrArg User.id ownerFixed
  cases List.inj_on_of_nodup_map keyed.userIds hu hu' (userId.trans userId'.symm)
  have ofTenant : u.tenantId = g.tenantUuid := congrArg User.tenantId ownerFixed
  have tenantId' : t'.id = g.tenantUuid := congrArg Tenant.id tenantFixed
  cases List.inj_on_of_nodup_map keyed.tenantIds ht ht'
    ((tenantId.trans ofTenant).trans tenantId'.symm)
  have emailOf : u.email = env.toLowerCase dto.email := congrArg User.email ownerFixed
  have slugOf : t.slug = dto.tenantSlug := congrArg Tenant.slug tenantFixed
  have hash : u.passwordHash = env.bcrypt.hash dto.password g.salt :=
    congrArg User.passwordHash ownerFixed
  have bySlug : tenantBySlug db' sign.tenantSlug = some t := by
    rw [tenantBySlug, slug, ← slugOf]
    exact find?_unique Tenant.slug keyed.slugs ht
  have byEmail : userByEmail db' t.id (env.toLowerCase sign.email) = some u := by
    refine find?_of_unique hu ?_ fun v hv found => ?_
    · simp [tenantId, email, emailOf]
    · rw [Bool.and_eq_true, beq_iff_eq, beq_iff_eq, tenantId, email, ← emailOf] at found
      exact List.inj_on_of_nodup_map keyed.emails hv hu (Prod.ext found.1 found.2)
  refine ⟨u, t, authenticate_ok_iff.mpr ?_, ownerFixed, tenantFixed⟩
  exact ⟨bySlug, tenantActive, byEmail, userActive, hash ▸ matched⟩

end Rows

def userJson (user : AuthUser) : JsonValue :=
  .object
    [ ("id", .string user.id),
      ("email", .string user.email),
      ("fullName", (user.fullName.map .string).getD .null),
      ("role", .string user.role.name),
      ("tenantId", .string user.tenantId),
      ("tenantSlug", .string user.tenantSlug) ]

theorem plain_userJson (user : AuthUser) : (userJson user).Plain := by
  have fullName : ((user.fullName.map JsonValue.string).getD .null).Plain := by
    cases user.fullName with
    | none => exact .null
    | some name => exact .string name
  simp [userJson, fullName]

theorem plain_sessionJson {response : AuthResponseDto String}
    (small : response.tokens.expiresIn < 2 ^ 53) : (Api.sessionJson response).Plain := by
  have tokens : (Api.tokensJson response.tokens).Plain := by
    simp [Api.tokensJson, JsonValue.Plain.number small]
  have session : Api.sessionJson response =
      .object [("user", userJson response.user), ("tokens", Api.tokensJson response.tokens)] := rfl
  simp [session, tokens, plain_userJson]

/-- The response brings the page a session, with this user signed in. -/
def SignsIn (format : JsonValue.Format) (response : Fetch.Response) (user : JsonValue) : Prop :=
  ∃ body storage, Fetch.settle response = .ok body ∧ Fetch.setSession format body = some storage ∧
    Fetch.getCurrentUser storage = some user

theorem signsIn_session {api : Api} {response : AuthResponseDto String} {status : Nat}
    (success : 200 ≤ status ∧ status ≤ 299) (small : response.tokens.expiresIn < 2 ^ 53) :
    SignsIn api.format
      ⟨status, api.reason status, some ((Api.sessionJson response).stringify api.format)⟩
      (userJson response.user) := by
  have user : (Api.sessionJson response).field "user" = some (userJson response.user) := rfl
  exact ⟨_, _, Fetch.settle_stringify (decide_eq_true success) (plain_sessionJson small) rfl, rfl,
    Fetch.getCurrentUser_setSession rfl user (plain_userJson _)⟩

/-- The user of a session is what is fixed in the rows. -/
theorem user_of_fixed {u u' : User} {t t' : Tenant} (users : u.fixed = u'.fixed)
    (tenants : t.fixed = t'.fixed) :
    (⟨u.id, u.email, u.fullName, u.role, t.id, t.slug⟩ : AuthUser) =
      ⟨u'.id, u'.email, u'.fullName, u'.role, t'.id, t'.slug⟩ := by
  have same := congrArg₂ (fun (u : User) (t : Tenant) =>
    (⟨u.id, u.email, u.fullName, u.role, t.id, t.slug⟩ : AuthUser)) users tenants
  exact same

theorem respond_user {env : AuthEnv String} {now : Time} {user : User} {tenant : Tenant}
    {response : AuthResponseDto String} (h : respond env now user tenant = .ok response) :
    response.user =
        ⟨user.id, user.email, user.fullName, user.role, tenant.id, tenant.slug⟩ ∧
      response.tokens.expiresIn = parseExpiresInToSeconds env.accessExpiresIn := by
  rw [respond] at h
  cases issued : issueTokens env now ⟨user.id, tenant.id, user.role⟩ with
  | error err =>
      rw [issued] at h
      cases h
  | ok tokens =>
      rw [issued] at h
      cases h
      exact ⟨rfl, issued_expiresIn issued⟩

namespace Backend
variable {api : Api}

/-- Once a registration has succeeded, the login page brings its user in again, with the
slug, an email that is the same in lower case and the password, whatever has been requested
in between, as long as the user and the tenant are active. -/
theorem signs_in_again (api : Api) (same : ∀ p salt, api.auth.bcrypt.compare p
      (api.auth.bcrypt.hash p salt) = true)
    (lifetime : parseExpiresInToSeconds api.auth.accessExpiresIn < 2 ^ 53)
    (tenants : List Tenant) (users : List User) (apiKeys : List ApiKey)
    (keyed : Database.Keyed ⟨tenants, users, apiKeys, []⟩) (before : List Event)
    (form : RegisterForm) (request : Fetch.Request MulterFile) (m : Moment)
    (registers : Sends api (.register form) request) (response : Fetch.Response)
    (registered : (step api (run (step api) (init tenants users apiKeys) before)
      (.request request m)).2 = some response) (created : response.ok = true)
    (between : List Event) (sign : Fetch.LoginForm)
    (slug : trim sign.tenantSlug = api.auth.toLowerCase (trim form.tenantSlug))
    (email : api.auth.toLowerCase (trim sign.email) = api.auth.toLowerCase (trim form.email))
    (isEmail : api.lib.isEmail (trim sign.email).toList = true)
    (password : sign.password = form.password) (again : Fetch.Request MulterFile) (m' : Moment)
    (logsIn : Sends api sign.call again) (free : m'.limited = false) :
    let b := run (step api) (init tenants users apiKeys)
      (before ++ .request request m :: between)
    Auth.Active b.stores.db m.registering.userUuid →
      ∃ response' user, (step api b (.request again m')).2 = some response' ∧
        SignsIn api.format response user ∧ SignsIn api.format response' user := by
  intro b active
  let s := (run (step api) (init tenants users apiKeys) before).stores
  have answered : response = (api.serve m request s).1 := (Option.some.inj registered).symm
  obtain ⟨text, dto, session, sent, taken, keysFree, responded, served⟩ :=
    registered_of_ok registers.routed (answered ▸ created)
  obtain rfl : form.body api.format api.auth.toLowerCase = text := by
    cases registers.body.symm.trans sent
    rfl
  have filled := RegisterForm.dto_eq taken
  have admitted := RegisterDto.admitted taken
  have reached : b = run (step api) (step api (run (step api) (init tenants users apiKeys) before)
      (.request request m)).1 between := run_append _ _ _ _
  have made := run_extends api (step api
    (run (step api) (init tenants users apiKeys) before) (.request request m)).1 between
  rw [← reached, step, served] at made
  have bKeyed : b.stores.db.Keyed := run_keyed keyed _
  have pattern : slugPattern.test (trim sign.tenantSlug).toList = true := by
    have passed := admitted.tenantSlug.1
    rwa [filled, ← slug] at passed
  obtain ⟨v, taken', signed⟩ := login_taken api.format pattern isEmail sign.password
  obtain ⟨u, t, passed, owner, tenant⟩ := bKeyed.opens made (LoginDto.of v)
    (by rw [signed, filled]; exact slug) (by rw [signed, filled]; exact email)
    (by rw [signed, filled, password]; exact same _ _) active
  obtain ⟨tokens, responded'⟩ := respond_ok (Auth.signs_of_respond responded) m'.now u t
  have login := serve_login logsIn.routed free logsIn.body taken' passed responded'
  refine ⟨_, userJson session.user, congrArg some login, ?_, ?_⟩
  · rw [answered, served]
    exact signsIn_session (by decide) ((respond_user responded).2 ▸ lifetime)
  · rw [(respond_user responded).1, ← user_of_fixed owner tenant]
    exact signsIn_session (by decide) ((respond_user responded').2 ▸ lifetime)

namespace Sample
open Api.Sample IdpSaas.Sample

/-- The registration of the morning, and the login page filled in with its data. -/
def registers : Fetch.Request MulterFile :=
  request (.register RegisterForm.Sample.named) ⟨none, none, none⟩

def sign : Fetch.LoginForm := ⟨"acme ", "jane@acme.com", "CorrectHorseBatteryStaple1!"⟩

theorem sent_registers : Sends Api.Sample.api (.register RegisterForm.Sample.named) registers :=
  ⟨endpoint_of_url rfl rfl, rfl⟩

def dawn : Moment := moment file1 doc1

theorem api_signs : auth.Signs := ⟨900, 604800, by decide +kernel, by decide +kernel⟩

/-- It is answered with a session, and leaves its rows. -/
theorem registers_session :
    ∃ session : AuthResponseDto String, session.user.id = "user" ∧ session.tokens.expiresIn = 900 ∧
      Api.Sample.api.serve dawn registers (init [] [] []).stores =
        (⟨201, "", some ((Api.sessionJson session).stringify .digits)⟩,
          { (init [] [] []).stores with db :=
            ⟨[newTenant 0 ⟨acme.val, "user", "salt"⟩ (RegisterDto.of Api.Sample.body)],
              [newOwner auth 0 ⟨acme.val, "user", "salt"⟩ (RegisterDto.of Api.Sample.body)],
              [], []⟩ }) := by
  obtain ⟨tokens, responded⟩ := respond_ok api_signs 0 (newOwner auth 0 ⟨acme.val, "user", "salt"⟩
    (RegisterDto.of Api.Sample.body)) (newTenant 0 ⟨acme.val, "user", "salt"⟩
      (RegisterDto.of Api.Sample.body))
  have keysFree : KeysFree auth ⟨acme.val, "user", "salt"⟩ (RegisterDto.of Api.Sample.body)
      (init [] [] []).stores.db :=
    ⟨fun _ ht => absurd ht List.not_mem_nil, fun _ hu => absurd hu List.not_mem_nil⟩
  have minutes : parseExpiresInToSeconds auth.accessExpiresIn = 900 := by decide +kernel
  refine ⟨_, rfl, (respond_user responded).2.trans minutes, ?_⟩
  exact serve_register (m := dawn) sent_registers.routed rfl sent_registers.body body_taken keysFree
    responded

theorem registers_ok :
    (Api.Sample.api.serve dawn registers (init [] [] []).stores).1.ok = true ∧
      Auth.Active (Api.Sample.api.serve dawn registers (init [] [] []).stores).2.db
        dawn.registering.userUuid := by
  obtain ⟨session, -, -, served⟩ := registers_session
  rw [served]
  exact ⟨rfl, _, List.mem_singleton.mpr rfl, rfl, rfl, _, List.mem_singleton.mpr rfl, rfl, rfl⟩

end Sample

theorem signs_in_again_acme :
    ∃ response user, SignsIn Api.Sample.api.format response user ∧
      SignsIn Api.Sample.api.format
        (Api.Sample.api.serve Sample.dawn Sample.registers (init [] [] []).stores).1 user := by
  have keyed : Database.Keyed ⟨[], [], [], []⟩ :=
    ⟨List.nodup_nil, List.nodup_nil, List.nodup_nil, List.nodup_nil⟩
  have active : Auth.Active (run (step Api.Sample.api) (init [] [] [])
      ([] ++ [.request Sample.registers Sample.dawn])).stores.db
      Sample.dawn.registering.userUuid := by
    simp only [List.nil_append, run, step]
    exact Sample.registers_ok.2
  obtain ⟨response, user, -, first, again⟩ := signs_in_again Api.Sample.api
    (fun p _ => beq_self_eq_true p) (by decide +kernel) [] [] [] keyed [] RegisterForm.Sample.named
    Sample.registers Sample.dawn Sample.sent_registers _ rfl Sample.registers_ok.1 [] Sample.sign
    (by decide +kernel) (by decide +kernel) (by decide +kernel) rfl
    (Sample.request Sample.sign.call ⟨none, none, none⟩) Sample.dawn
    ⟨endpoint_of_url rfl rfl, rfl⟩ rfl active
  exact ⟨response, user, again, first⟩

end Backend
end IdpSaas

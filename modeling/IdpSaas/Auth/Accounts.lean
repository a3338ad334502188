import IdpSaas.Auth.Registration

/-!
The accounts that logins open. A registration that was answered with a session makes
one; after any run the tenants and users in the database are those of the accounts, up
to their status and times, less the users deleted. Logins agree with the accounts in
every run exactly when the configured lifetimes can be read: otherwise a login notes its
time and then fails over its tokens, as a registration fails with its rows created.
-/

namespace IdpSaas
open Owned AuthService

/-- What no event changes in a row. -/
def Tenant.fixed (t : Tenant) : Tenant :=
  { t with status := .active, createdAt := 0, updatedAt := 0 }

def User.fixed (u : User) : User :=
  { u with status := .active, lastLoginAt := none, createdAt := 0, updatedAt := 0 }

/-- Rows are only removed from the users, and otherwise keep what is fixed in them. -/
structure Database.Keeps (db db' : Database) : Prop where
  tenants : db'.tenants.map Tenant.fixed = db.tenants.map Tenant.fixed
  users : (db'.users.map User.fixed).Sublist (db.users.map User.fixed)

/-- Of all rows only those of the user change, in the time of the login. -/
structure Database.LoginNoted (userId : String) (now : Time) (db db' : Database) : Prop where
  tenants : db'.tenants = db.tenants
  users : List.Forall₂
    (fun u u' => u' = if u.id = userId then { u with lastLoginAt := some now, updatedAt := now } else u)
    db.users db'.users
  apiKeys : db'.apiKeys = db.apiKeys
  documents : db'.documents = db.documents

/-- `compare` depends on the two passwords only, and a password matches itself. -/
structure Bcrypt.Lawful (bcrypt : Bcrypt) : Prop where
  saltless : ∀ p q salt salt',
    bcrypt.compare p (bcrypt.hash q salt) = bcrypt.compare p (bcrypt.hash q salt')
  same : ∀ p salt, bcrypt.compare p (bcrypt.hash p salt) = true

/-- The login password `p` opens an account registered with `q`. -/
def Bcrypt.matches (bcrypt : Bcrypt) (p q : String) : Bool := bcrypt.compare p (bcrypt.hash q "")

namespace Auth

structure Account where
  generated : RegisterGenerated
  dto : RegisterDto
  deriving DecidableEq

/-- The rows of the account, as far as they are fixed. -/
def Account.tenant (a : Account) : Tenant := newTenant 0 a.generated a.dto

section Accounts
variable {τ : Type} (env : AuthEnv τ)

def Account.owner (a : Account) : User := newOwner env 0 a.generated a.dto

/-- The user that its registration returns. -/
def Account.user (a : Account) : AuthUser :=
  ⟨(a.owner env).id, (a.owner env).email, (a.owner env).fullName, (a.owner env).role,
    a.tenant.id, a.tenant.slug⟩

/-- The registrations that were answered with a session. -/
def accounts (given : List (Event τ × Answer τ)) : List Account :=
  given.filterMap fun
    | (.register g dto, .session _) => some ⟨g, dto⟩
    | _ => none

/-- The database holds what the accounts made. -/
structure Held (accounts : List Account) (db : Database) : Prop where
  tenants : db.tenants.map Tenant.fixed = accounts.map Account.tenant
  users : (db.users.map User.fixed).Sublist (accounts.map (Account.owner env))
  ids : (db.tenants.map Tenant.id).Nodup
  slugs : (db.tenants.map Tenant.slug).Nodup

structure Ledger (s : State) (given : List (Event τ × Answer τ)) : Prop where
  held : Held env (accounts given) s.db
  answered : ∀ g dto response, (.register g dto, .session response) ∈ given →
    response.user = Account.user env ⟨g, dto⟩

end Accounts

section Held
variable {τ : Type} {env : AuthEnv τ} {accounts : List Account} {db : Database}

theorem Account.user_eq {a : Account} {u : User} {t : Tenant} (owner : a.owner env = u.fixed)
    (tenant : a.tenant = t.fixed) :
    a.user env = ⟨u.id, u.email, u.fullName, u.role, t.id, t.slug⟩ := by
  rw [Account.user, owner, tenant]
  rfl

theorem map_id_fixed (ts : List Tenant) :
    (ts.map Tenant.fixed).map Tenant.id = ts.map Tenant.id := List.map_map

theorem map_slug_fixed (ts : List Tenant) :
    (ts.map Tenant.fixed).map Tenant.slug = ts.map Tenant.slug := List.map_map

theorem Held.init : Held env [] ⟨[], [], [], []⟩ :=
  ⟨rfl, List.Sublist.slnil, List.nodup_nil, List.nodup_nil⟩

theorem Held.change (held : Held env accounts db) {db' : Database} (keeps : db.Keeps db') :
    Held env accounts db' where
  tenants := keeps.tenants.trans held.tenants
  users := keeps.users.trans held.users
  ids := by
    rw [← map_id_fixed, keeps.tenants, map_id_fixed]
    exact held.ids
  slugs := by
    rw [← map_slug_fixed, keeps.tenants, map_slug_fixed]
    exact held.slugs

theorem Held.insert (held : Held env accounts db) {now : Time} {g : RegisterGenerated}
    {dto : RegisterDto} (free : KeysFree env g dto db) :
    Held env (accounts ++ [⟨g, dto⟩]) { db with
      tenants := db.tenants ++ [newTenant now g dto]
      users := db.users ++ [newOwner env now g dto] } where
  tenants := by
    rw [List.map_append, List.map_append, held.tenants]
    rfl
  users := by
    rw [List.map_append, List.map_append]
    exact held.users.append (List.Sublist.refl _)
  ids := by
    rw [List.map_append, List.nodup_append_comm]
    refine List.nodup_cons.mpr ⟨fun taken => ?_, held.ids⟩
    obtain ⟨t, mem, same⟩ := List.mem_map.mp taken
    exact (free.1 t mem).1 same
  slugs := by
    rw [List.map_append, List.nodup_append_comm]
    refine List.nodup_cons.mpr ⟨fun taken => ?_, held.slugs⟩
    obtain ⟨t, mem, same⟩ := List.mem_map.mp taken
    exact (free.1 t mem).2 same

/-- The ids of the tenants tell the accounts apart. -/
theorem Held.account_unique (held : Held env accounts db) {a b : Account} (ha : a ∈ accounts)
    (hb : b ∈ accounts) (same : a.generated.tenantUuid = b.generated.tenantUuid) : a = b := by
  have ids : (accounts.map fun a => a.generated.tenantUuid).Nodup := by
    have keys : accounts.map (fun a => a.generated.tenantUuid) = db.tenants.map Tenant.id := by
      rw [← map_id_fixed, held.tenants, List.map_map]
      rfl
    rw [keys]
    exact held.ids
  exact List.inj_on_of_nodup_map ids ha hb same

theorem Held.of_tenant (held : Held env accounts db) {t : Tenant} (mem : t ∈ db.tenants) :
    ∃ a ∈ accounts, a.tenant = t.fixed := by
  have fixed := List.mem_map_of_mem (f := Tenant.fixed) mem
  rw [held.tenants] at fixed
  exact List.mem_map.mp fixed

theorem Held.of_user (held : Held env accounts db) {u : User} (mem : u ∈ db.users) :
    ∃ a ∈ accounts, a.owner env = u.fixed :=
  List.mem_map.mp (held.users.subset (List.mem_map_of_mem mem))

/-- The row of a tenant that has the id of an account is that of the account. -/
theorem Held.tenant_eq (held : Held env accounts db) {a : Account} (ha : a ∈ accounts)
    {t : Tenant} (mem : t ∈ db.tenants) (same : t.id = a.generated.tenantUuid) :
    a.tenant = t.fixed := by
  obtain ⟨b, hb, tenant⟩ := held.of_tenant mem
  have ids : b.generated.tenantUuid = t.id := congrArg Tenant.id tenant
  rw [held.account_unique ha hb (same.symm.trans ids.symm)]
  exact tenant

theorem Held.owner_eq (held : Held env accounts db) {a : Account} (ha : a ∈ accounts)
    {u : User} (mem : u ∈ db.users) (same : u.tenantId = a.generated.tenantUuid) :
    a.owner env = u.fixed := by
  obtain ⟨b, hb, owner⟩ := held.of_user mem
  have ids : b.generated.tenantUuid = u.tenantId := congrArg User.tenantId owner
  rw [held.account_unique ha hb (same.symm.trans ids.symm)]
  exact owner

/-- A tenant has one user, its owner. -/
theorem Held.user_unique (held : Held env accounts db) {u v : User} (hu : u ∈ db.users)
    (hv : v ∈ db.users) (same : u.tenantId = v.tenantId) : u = v := by
  have keys : (accounts.map (Account.owner env)).map User.tenantId = db.tenants.map Tenant.id := by
    rw [← map_id_fixed, held.tenants, List.map_map, List.map_map]
    rfl
  have ids : (db.users.map User.tenantId).Nodup := by
    have part := held.users.map User.tenantId
    rw [keys, List.map_map] at part
    exact held.ids.sublist part
  exact List.inj_on_of_nodup_map ids hu hv same

/-- With the slug, the email and a matching password of an account a login comes to its
user, while tenant and user are active. -/
theorem Held.opens (held : Held env accounts db) {dto : LoginDto} {a : Account}
    (ha : a ∈ accounts) (slug : a.dto.tenantSlug = dto.tenantSlug)
    (email : env.toLowerCase a.dto.email = env.toLowerCase dto.email)
    (matched : env.bcrypt.compare dto.password
      (env.bcrypt.hash a.dto.password a.generated.salt) = true)
    {t : Tenant} (ht : t ∈ db.tenants) (tenantId : t.id = a.generated.tenantUuid)
    (tenantActive : t.status = .active)
    {u : User} (hu : u ∈ db.users) (ofTenant : u.tenantId = a.generated.tenantUuid)
    (userActive : u.status = .active) : authenticate env dto db = .ok (u, t) := by
  have tenant := held.tenant_eq ha ht tenantId
  have owner := held.owner_eq ha hu ofTenant
  have bySlug : tenantBySlug db dto.tenantSlug = some t := by
    have same : t.slug = dto.tenantSlug := (congrArg Tenant.slug tenant).symm.trans slug
    rw [tenantBySlug, ← same]
    exact find?_unique Tenant.slug held.slugs ht
  have byEmail : userByEmail db t.id (env.toLowerCase dto.email) = some u := by
    have same : u.email = env.toLowerCase dto.email := (congrArg User.email owner).symm.trans email
    refine find?_of_unique hu (by simp [same, ofTenant, tenantId]) fun v hv found => ?_
    rw [Bool.and_eq_true, beq_iff_eq, beq_iff_eq, tenantId, ← ofTenant] at found
    exact held.user_unique hv hu found.1
  have hash : u.passwordHash = env.bcrypt.hash a.dto.password a.generated.salt :=
    (congrArg User.passwordHash owner).symm
  exact authenticate_ok_iff.mpr ⟨bySlug, tenantActive, byEmail, userActive, by rw [hash, matched]⟩

/-- A login comes only to the user of an account that it names. -/
theorem Held.opened (held : Held env accounts db) {dto : LoginDto} {u : User} {t : Tenant}
    (h : authenticate env dto db = .ok (u, t)) :
    ∃ a ∈ accounts, a.owner env = u.fixed ∧ a.tenant = t.fixed ∧
      a.dto.tenantSlug = dto.tenantSlug ∧
      env.toLowerCase a.dto.email = env.toLowerCase dto.email ∧
      env.bcrypt.compare dto.password (env.bcrypt.hash a.dto.password a.generated.salt) = true := by
  obtain ⟨bySlug, -, byEmail, -, matched⟩ := authenticate_ok_iff.mp h
  have found := List.find?_some byEmail
  rw [Bool.and_eq_true, beq_iff_eq, beq_iff_eq] at found
  have named := List.find?_some bySlug
  rw [beq_iff_eq] at named
  have ht := List.mem_of_find?_eq_some bySlug
  obtain ⟨a, ha, tenant⟩ := held.of_tenant ht
  have tenantId : a.generated.tenantUuid = t.id := congrArg Tenant.id tenant
  have owner := held.owner_eq ha (List.mem_of_find?_eq_some byEmail)
    (found.1.trans tenantId.symm)
  have slug : a.dto.tenantSlug = t.slug := congrArg Tenant.slug tenant
  have email : env.toLowerCase a.dto.email = u.email := congrArg User.email owner
  have hash : env.bcrypt.hash a.dto.password a.generated.salt = u.passwordHash :=
    congrArg User.passwordHash owner
  exact ⟨a, ha, owner, tenant, slug.trans named,
    email.trans found.2, by rw [hash, matched]⟩

end Held

section Runs
variable {τ : Type} {env : AuthEnv τ} {s : State} {given : List (Event τ × Answer τ)}

theorem issue_db (s : State) (payload : JwtPayload) : (s.issue env payload).db = s.db := by
  rw [State.issue]
  cases claimsFor env s.now payload <;> rfl

theorem respond_db (s : State) (r : Except HttpError (AuthResponseDto τ) × Database) :
    (s.respond env r).1.db = r.2 := by
  rw [State.respond]
  cases r.1 with
  | error e => rfl
  | ok response => exact issue_db _ _

theorem refresh_db (s : State) (refreshToken : τ) : (s.refresh env refreshToken).1.db = s.db := by
  rw [State.refresh]
  cases AuthService.refresh env s.now refreshToken with
  | error e => rfl
  | ok tokens =>
      cases s.presented env refreshToken with
      | none => rfl
      | some claims => exact issue_db s claims.toJwtPayload

theorem keeps_refl (db : Database) : db.Keeps db := ⟨rfl, List.Sublist.refl _⟩

theorem keeps_modify_users (db : Database) {p : User → Bool} {f : User → User}
    (fixed : ∀ u, (f u).fixed = u.fixed) : db.Keeps { db with users := modify p f db.users } :=
  ⟨rfl, by rw [map_modify User.fixed db.users fun u _ => fixed u]⟩

/-- No event but a registration makes rows, or changes what is fixed in them. -/
theorem step_keeps (s : State) {e : Event τ} (other : ∀ g dto, e ≠ .register g dto) :
    s.db.Keeps (step env s e).1.db := by
  cases e with
  | register g dto => exact absurd rfl (other g dto)
  | call c =>
      cases c with
      | login dto =>
          rw [step, respond_db, login]
          cases authenticate env dto s.db with
          | error e => exact keeps_refl s.db
          | ok found => exact keeps_modify_users s.db fun u => rfl
      | refresh refreshToken =>
          rw [step, refresh_db]
          exact keeps_refl s.db
  | setUserStatus id status => exact keeps_modify_users s.db fun u => rfl
  | setTenantStatus id status =>
      exact ⟨map_modify Tenant.fixed s.db.tenants fun t _ => rfl, List.Sublist.refl _⟩
  | deleteUser id => exact ⟨rfl, List.filter_sublist.map User.fixed⟩
  | elapse duration => exact keeps_refl s.db

theorem mem_accounts {a : Account} :
    a ∈ accounts given ↔
      ∃ response, (.register a.generated a.dto, .session response) ∈ given := by
  rw [accounts, List.mem_filterMap]
  constructor
  · rintro ⟨x, mem, made⟩
    split at made
    · next g dto response =>
        cases made
        exact ⟨response, mem⟩
    · cases made
  · rintro ⟨response, mem⟩
    exact ⟨_, mem, rfl⟩

theorem accounts_append (entries : List (Event τ × Answer τ)) :
    accounts (given ++ entries) = accounts given ++ accounts entries := List.filterMap_append

/-- An answer that makes no account leaves the ledger as it is. -/
theorem Ledger.other (ledger : Ledger env s given) {s' : State} (keeps : s.db.Keeps s'.db)
    {entries : List (Event τ × Answer τ)}
    (none : ∀ g dto response, (.register g dto, .session response) ∉ entries) :
    Ledger env s' (given ++ entries) := by
  have same : accounts (given ++ entries) = accounts given := by
    rw [accounts_append, List.append_right_eq_self, List.eq_nil_iff_forall_not_mem]
    intro a made
    obtain ⟨response, mem⟩ := mem_accounts.mp made
    exact none _ _ response mem
  refine ⟨same ▸ ledger.held.change keeps, fun g dto response mem => ?_⟩
  rcases List.mem_append.mp mem with old | new
  · exact ledger.answered g dto response old
  · exact absurd new (none g dto response)

theorem Ledger.preserved (signs : env.Signs) (s : State) (e : Event τ)
    (given : List (Event τ × Answer τ)) (ledger : Ledger env s given) :
    Ledger env (step env s e).1 (given ++ ((step env s e).2.map (Prod.mk e)).toList) := by
  by_cases registers : ∃ g dto, e = .register g dto
  · obtain ⟨g, dto, rfl⟩ := registers
    by_cases free : KeysFree env g dto s.db
    · obtain ⟨tokens, ok⟩ := respond_ok signs s.now (newOwner env s.now g dto)
        (newTenant s.now g dto)
      rw [step, register_free free, ok]
      have more : accounts (given ++ [(.register g dto, .session ⟨Account.user env ⟨g, dto⟩, tokens⟩)]) =
          accounts given ++ [⟨g, dto⟩] := accounts_append _
      refine ⟨?_, fun g' dto' response mem => ?_⟩
      · rw [respond_db]
        exact more ▸ ledger.held.insert free
      · rcases List.mem_append.mp mem with old | new
        · exact ledger.answered g' dto' response old
        · cases List.mem_singleton.mp new
          rfl
    · obtain ⟨e, refused⟩ := register_refused s.now free
      rw [step, refused]
      refine ledger.other (keeps_refl s.db) fun g' dto' response mem => ?_
      cases List.mem_singleton.mp mem
  · have other : ∀ g dto, e ≠ .register g dto := fun g dto same => registers ⟨g, dto, same⟩
    refine ledger.other (step_keeps s other) fun g dto response mem => ?_
    obtain ⟨answer, -, entry⟩ := Option.map_eq_some_iff.mp (Option.mem_toList.mp mem)
    exact other g dto (Prod.mk.inj entry).1

/-- The empty database. -/
def State.empty (now : Time) : State := ⟨⟨[], [], [], []⟩, now, []⟩

theorem Ledger.reached (signs : env.Signs) (now : Time) (es : List (Event τ)) :
    Ledger env (Machine.run (step env) (State.empty now) es)
      (Machine.answers (step env) (State.empty now) es) :=
  Machine.run_answers (step env) (Ledger.preserved signs)
    ⟨Held.init, fun _ _ _ mem => absurd mem List.not_mem_nil⟩ es

end Runs

section Agreement
variable {τ : Type} (env : AuthEnv τ)

/-- An earlier registration returned the user, for the slug, the email and a matching
password of the login, and tenant and user are active now. -/
structure Entitled (given : List (Event τ × Answer τ)) (db : Database) (dto : LoginDto)
    (user : AuthUser) : Prop where
  registered : ∃ g dto' tokens, (.register g dto', .session ⟨user, tokens⟩) ∈ given ∧
    dto'.tenantSlug = dto.tenantSlug ∧
    env.toLowerCase dto'.email = env.toLowerCase dto.email ∧
    env.bcrypt.matches dto.password dto'.password = true
  tenant : ∃ t ∈ db.tenants, t.id = user.tenantId ∧ t.status = .active
  user : ∃ u ∈ db.users, u.id = user.id ∧ u.tenantId = user.tenantId ∧ u.status = .active

/-- The login is let in exactly as an entitled user, and notes its time on that user;
else it is refused and nothing changes. -/
structure LoginAgrees (s : State) (given : List (Event τ × Answer τ)) (dto : LoginDto) :
    Prop where
  opens : ∀ user, Entitled env given s.db dto user → ∃ tokens db',
    login env s.now dto s.db = (.ok ⟨user, tokens⟩, db') ∧ s.db.LoginNoted user.id s.now db'
  refuses : (∀ user, ¬Entitled env given s.db dto user) →
    login env s.now dto s.db = (.error invalid, s.db)

variable {env}

theorem loginNoted_modify (db : Database) (userId : String) (now : Time) :
    db.LoginNoted userId now { db with
      users := modify (fun u => u.id == userId)
        (fun u => { u with lastLoginAt := some now, updatedAt := now }) db.users } where
  tenants := rfl
  users := by
    refine List.forall₂_map_right_iff.mpr (List.forall₂_same.mpr fun u _ => ?_)
    simp only [beq_iff_eq]
  apiKeys := rfl
  documents := rfl

theorem Ledger.agrees {s : State} {given : List (Event τ × Answer τ)} (ledger : Ledger env s given)
    (lawful : env.bcrypt.Lawful) (signs : env.Signs) (dto : LoginDto) :
    LoginAgrees env s given dto where
  opens := by
    rintro user ⟨⟨g, dto', tokens, mem, slug, email, matched⟩, ⟨t, ht, tenantId, tenantActive⟩,
      u, hu, -, ofTenant, userActive⟩
    obtain rfl : user = Account.user env ⟨g, dto'⟩ := ledger.answered g dto' _ mem
    have ha : ⟨g, dto'⟩ ∈ accounts given := mem_accounts.mpr ⟨_, mem⟩
    have opened := ledger.held.opens ha slug email
      ((lawful.saltless _ _ _ _).trans matched) ht tenantId tenantActive hu ofTenant userActive
    rw [Account.user_eq (ledger.held.owner_eq ha hu ofTenant)
      (ledger.held.tenant_eq ha ht tenantId)]
    obtain ⟨tokens, ok⟩ := respond_ok signs s.now u t
    refine ⟨tokens, _, ?_, loginNoted_modify s.db u.id s.now⟩
    rw [login_of_authenticate opened, ok]
  refuses := by
    intro stranger
    rw [login]
    cases checked : authenticate env dto s.db with
    | error e => rw [authenticate_error checked]
    | ok found =>
        obtain ⟨u, t⟩ := found
        obtain ⟨bySlug, tenantActive, byEmail, userActive, -⟩ := authenticate_ok_iff.mp checked
        obtain ⟨a, ha, owner, tenant, slug, email, matched⟩ := ledger.held.opened checked
        obtain ⟨response, mem⟩ := mem_accounts.mp ha
        have user := ledger.answered _ _ response mem
        rw [Account.user_eq owner tenant] at user
        have ofTenant := List.find?_some byEmail
        rw [Bool.and_eq_true, beq_iff_eq] at ofTenant
        refine absurd ?_ (stranger response.user)
        refine ⟨⟨_, _, response.tokens, mem, slug, email, ?_⟩,
          ⟨t, List.mem_of_find?_eq_some bySlug, by rw [user], tenantActive⟩,
          ⟨u, List.mem_of_find?_eq_some byEmail, by rw [user], by rw [user]; exact ofTenant.1,
            userActive⟩⟩
        exact (lawful.saltless _ _ _ _).trans matched

/-- The rows of a first registration. -/
def firstRows (env : AuthEnv τ) (g : RegisterGenerated) (dto : RegisterDto) : Database :=
  ⟨[newTenant 0 g dto], [newOwner env 0 g dto], [], []⟩

theorem authenticate_first {g : RegisterGenerated} {dto : RegisterDto} {password : String}
    (matched : env.bcrypt.compare password (env.bcrypt.hash dto.password g.salt) = true) :
    authenticate env ⟨dto.tenantSlug, dto.email, password⟩ (firstRows env g dto) =
      .ok (newOwner env 0 g dto, newTenant 0 g dto) := by
  refine authenticate_ok_iff.mpr ⟨?_, rfl, ?_, rfl, matched⟩
  · exact List.find?_cons_of_pos (beq_self_eq_true dto.tenantSlug)
  · exact List.find?_cons_of_pos (by simp [newOwner, newTenant])

theorem keysFree_empty (g : RegisterGenerated) (dto : RegisterDto) :
    KeysFree env g dto (State.empty 0).db :=
  ⟨fun _ ht => absurd ht List.not_mem_nil, fun _ hu => absurd hu List.not_mem_nil⟩

/-- Where no tokens can be signed, a registration fails with its rows created. -/
theorem step_first (silent : ¬env.Signs) (g : RegisterGenerated) (dto : RegisterDto) :
    step env (State.empty 0) (.register g dto) =
      (⟨firstRows env g dto, 0, []⟩, some (.error (.internal env.invalidExpiresIn))) := by
  rw [step, register_free (keysFree_empty g dto), respond_error silent]
  rfl

/-- So nobody is entitled, but the login with its data comes as far as its tokens. -/
theorem silent_disagrees (lawful : env.bcrypt.Lawful) (silent : ¬env.Signs)
    (g : RegisterGenerated) (dto : RegisterDto) :
    ¬LoginAgrees env (Machine.run (step env) (State.empty 0) [.register g dto])
      (Machine.answers (step env) (State.empty 0) [.register g dto])
      ⟨dto.tenantSlug, dto.email, dto.password⟩ := by
  simp only [Machine.run, Machine.answers, step_first silent]
  intro agrees
  have refused := agrees.refuses fun user entitled => by
    obtain ⟨g', dto', tokens, mem, -⟩ := entitled.registered
    cases List.mem_singleton.mp mem
  rw [login_of_authenticate (authenticate_first (lawful.same _ _)), respond_error silent] at refused
  cases (Prod.mk.inj refused).1

/-- Logins agree with the registrations in every run exactly when the configured
lifetimes can be read. -/
theorem login_agrees_iff (env : AuthEnv τ) (lawful : env.bcrypt.Lawful) :
    (∀ now es dto, LoginAgrees env (Machine.run (step env) (State.empty now) es)
      (Machine.answers (step env) (State.empty now) es) dto) ↔ env.Signs := by
  constructor
  · intro agrees
    by_contra silent
    exact silent_disagrees lawful silent ⟨"", "", ""⟩ ⟨"", "", "", "", none⟩ (agrees 0 _ _)
  · exact fun signs now es dto => (Ledger.reached signs now es).agrees lawful signs dto

end Agreement

namespace Sample

theorem lawful : env.bcrypt.Lawful :=
  ⟨fun _ _ _ _ => rfl, fun p _ => beq_self_eq_true p⟩

/-- Digits and a unit; the library throws on a text that denotes no timespan. -/
def timespan (text : String) : Option Nat :=
  match text.toList.takeWhile Char.isDigit, text.toList.dropWhile Char.isDigit with
  | _ :: _, [unit] =>
      if unit ∈ ['s', 'm', 'h', 'd'] then some (parseExpiresInToSeconds text) else none
  | _, _ => none

def strict : AuthEnv (String × JwtClaims) :=
  { env with jwt := { env.jwt with seconds := timespan } }

/-- A lifetime written out in words. -/
def writtenOut : ProcessEnv := fun name =>
  if name = "DATABASE_URL" then some "postgresql://idp@localhost:5432/idp"
  else if name = "JWT_ACCESS_SECRET" then some "change-me-to-a-strong-random-string"
  else if name = "JWT_REFRESH_SECRET" then some "change-me-to-another-strong-random-string"
  else if name = "JWT_ACCESS_EXPIRES_IN" then some "fifteen minutes"
  else none

def bootedWrittenOut : ValidEnv ⟨fun _ => true, fun _ => some 0⟩ :=
  ⟨writtenOut, by decide +kernel⟩

def misconfigured : AuthEnv (String × JwtClaims) := strict.configure bootedWrittenOut

theorem misconfigured_lawful : misconfigured.bcrypt.Lawful := lawful

theorem misconfigured_silent : ¬misconfigured.Signs := by
  rintro ⟨access, -, read, -⟩
  have unread : misconfigured.jwt.seconds misconfigured.accessExpiresIn = none := by
    decide +kernel
  rw [unread] at read
  cases read

end Sample

/-- The schema accepts such a lifetime, and the login of a registered user fails with an
error of the JWT library after it has written to the database. -/
theorem unreadable_lifetime_disagrees :
    ¬LoginAgrees Sample.misconfigured
      (Machine.run (step Sample.misconfigured) (State.empty 0) [Sample.registered])
      (Machine.answers (step Sample.misconfigured) (State.empty 0) [Sample.registered])
      ⟨"acme", "jane@acme.com", "CorrectHorseBatteryStaple1!"⟩ :=
  silent_disagrees Sample.misconfigured_lawful Sample.misconfigured_silent _ _

theorem login_agrees_sample :
    LoginAgrees Sample.env
      (Machine.run (step Sample.env) (State.empty 0) [Sample.registered])
      (Machine.answers (step Sample.env) (State.empty 0) [Sample.registered])
      ⟨"acme", "jane@acme.com", "CorrectHorseBatteryStaple1!"⟩ :=
  (login_agrees_iff Sample.env Sample.lawful).mpr
    ⟨900, 604800, by decide +kernel, by decide +kernel⟩ 0 _ _

end Auth
end IdpSaas

import IdpSaas.Auth.Accounts
import IdpSaas.Auth.Guards
import IdpSaas.Lib.Unwinding

/-!
The accounts as they are for everybody but one tenant: its rows are blanked up to what is
fixed in them. Registrations, and whatever is done with the accounts of others, come to
the same in databases that are alike so; what is done with accounts of the tenant cannot
be told.
-/

namespace IdpSaas
open Owned AuthService

/-- From outside the tenant its tenants and users are the same. -/
structure Database.AlikeOutside (a : String) (db db' : Database) : Prop where
  tenants : conceal Tenant.id Tenant.fixed a db.tenants =
    conceal Tenant.id Tenant.fixed a db'.tenants
  users : conceal User.tenantId User.fixed a db.users =
    conceal User.tenantId User.fixed a db'.users

/-- Whether the id is that of a user of the tenant. -/
def Database.hasUser (db : Database) (a userId : String) : Bool :=
  (db.users.find? fun u => u.id == userId).any fun u => u.tenantId == a

/-- Whether a login is one into the tenant. -/
def Database.admitsTo (db : Database) (a : String) (dto : LoginDto) : Bool :=
  (tenantBySlug db dto.tenantSlug).any fun t => t.id == a

section Alike
variable {τ : Type} {env : AuthEnv τ} {a : String} {db db' : Database}

theorem any_of_eq_some {α : Type} {o : Option α} {x : α} {p : α → Bool} (h : o = some x) :
    o.any p = p x := by rw [h, Option.any_some]

namespace Database.AlikeOutside

theorem refl (a : String) (db : Database) : AlikeOutside a db db := ⟨rfl, rfl⟩

theorem symm (h : AlikeOutside a db db') : AlikeOutside a db' db := ⟨h.tenants.symm, h.users.symm⟩

theorem trans {db'' : Database} (h : AlikeOutside a db db') (k : AlikeOutside a db' db'') :
    AlikeOutside a db db'' := ⟨h.tenants.trans k.tenants, h.users.trans k.users⟩

theorem tenant_none (h : AlikeOutside a db db') {p : Tenant → Bool} (spared : Spares Tenant.fixed p)
    (absent : db.tenants.find? p = none) : db'.tenants.find? p = none :=
  find?_concealed_none h.tenants spared absent

theorem tenant_some (h : AlikeOutside a db db') {p : Tenant → Bool} (spared : Spares Tenant.fixed p)
    {t : Tenant} (found : db.tenants.find? p = some t) (other : t.id ≠ a) :
    db'.tenants.find? p = some t :=
  find?_concealed_some h.tenants spared (fun _ => rfl) found other

theorem user_none (h : AlikeOutside a db db') {p : User → Bool} (spared : Spares User.fixed p)
    (absent : db.users.find? p = none) : db'.users.find? p = none :=
  find?_concealed_none h.users spared absent

theorem user_some (h : AlikeOutside a db db') {p : User → Bool} (spared : Spares User.fixed p)
    {u : User} (found : db.users.find? p = some u) (other : u.tenantId ≠ a) :
    db'.users.find? p = some u :=
  find?_concealed_some h.users spared (fun _ => rfl) found other

theorem keysFree (h : AlikeOutside a db db') (g : RegisterGenerated) (dto : RegisterDto) :
    KeysFree env g dto db ↔ KeysFree env g dto db' :=
  and_congr (forall_concealed h.tenants fun _ => rfl) (forall_concealed h.users fun _ => rfl)

/-- A registration comes to the same. -/
theorem register (h : AlikeOutside a db db') (env : AuthEnv τ) (now : Time) (g : RegisterGenerated)
    (dto : RegisterDto) :
    (register env now g dto db).1 = (register env now g dto db').1 ∧
      AlikeOutside a (register env now g dto db).2 (register env now g dto db').2 := by
  by_cases free : KeysFree env g dto db
  · rw [register_free free, register_free ((h.keysFree g dto).mp free)]
    refine ⟨rfl, ?_, ?_⟩
    · rw [conceal_append, conceal_append, h.tenants]
    · rw [conceal_append, conceal_append, h.users]
  · have taken := mt (h.keysFree g dto).mpr free
    rw [AuthService.register, AuthService.register]
    cases bySlug : tenantBySlug db dto.tenantSlug with
    | none =>
        have bySlug' : tenantBySlug db' dto.tenantSlug = none := h.tenant_none (fun _ => rfl) bySlug
        rw [bySlug', createTenantAndOwner_eq, createTenantAndOwner_eq, if_neg free, if_neg taken]
        exact ⟨rfl, h⟩
    | some t =>
        cases bySlug' : tenantBySlug db' dto.tenantSlug with
        | none =>
            have absent : tenantBySlug db dto.tenantSlug = none :=
              h.symm.tenant_none (fun _ => rfl) bySlug'
            rw [absent] at bySlug
            cases bySlug
        | some t' => exact ⟨rfl, h⟩

theorem authenticate (h : AlikeOutside a db db') (env : AuthEnv τ) {dto : LoginDto}
    (other : db.admitsTo a dto = false) :
    authenticate env dto db = authenticate env dto db' := by
  rw [AuthService.authenticate, AuthService.authenticate]
  cases bySlug : tenantBySlug db dto.tenantSlug with
  | none =>
      have bySlug' : tenantBySlug db' dto.tenantSlug = none := h.tenant_none (fun _ => rfl) bySlug
      rw [bySlug']
  | some t =>
      rw [admitsTo, any_of_eq_some bySlug, beq_eq_false_iff_ne] at other
      have bySlug' : tenantBySlug db' dto.tenantSlug = some t :=
        h.tenant_some (fun _ => rfl) bySlug other
      rw [bySlug']
      dsimp only
      cases byEmail : userByEmail db t.id (env.toLowerCase dto.email) with
      | none =>
          have byEmail' : userByEmail db' t.id (env.toLowerCase dto.email) = none :=
            h.user_none (fun _ => rfl) byEmail
          rw [byEmail']
      | some u =>
          have named := List.find?_some byEmail
          rw [Bool.and_eq_true, beq_iff_eq] at named
          have byEmail' : userByEmail db' t.id (env.toLowerCase dto.email) = some u :=
            h.user_some (fun _ => rfl) byEmail (named.1 ▸ other)
          rw [byEmail']

theorem modifyUsers (h : AlikeOutside a db db') (p : User → Bool) {f : User → User}
    (fixed : ∀ u, (f u).fixed = u.fixed) :
    AlikeOutside a { db with users := modify p f db.users }
      { db' with users := modify p f db'.users } where
  tenants := h.tenants
  users := modify_concealed h.users (fun _ => rfl) fixed

theorem modifyTenants (h : AlikeOutside a db db') (p : Tenant → Bool) {f : Tenant → Tenant}
    (fixed : ∀ t, (f t).fixed = t.fixed) :
    AlikeOutside a { db with tenants := modify p f db.tenants }
      { db' with tenants := modify p f db'.tenants } where
  tenants := modify_concealed h.tenants (fun _ => rfl) fixed
  users := h.users

/-- A login of another tenant comes to the same. -/
theorem login (h : AlikeOutside a db db') (env : AuthEnv τ) (now : Time) {dto : LoginDto}
    (other : db.admitsTo a dto = false) :
    (login env now dto db).1 = (login env now dto db').1 ∧
      AlikeOutside a (login env now dto db).2 (login env now dto db').2 := by
  rw [AuthService.login, AuthService.login, ← h.authenticate env other]
  cases AuthService.authenticate env dto db with
  | error e => exact ⟨rfl, h⟩
  | ok found => exact ⟨rfl, h.modifyUsers _ fun _ => rfl⟩

/-- So does the validation of a user of another tenant. -/
theorem validate (h : AlikeOutside a db db') (env : AuthEnv τ) {payload : JwtPayload}
    (other : db.hasUser a payload.sub = false) :
    JwtStrategy.validate env db payload = JwtStrategy.validate env db' payload := by
  rw [JwtStrategy.validate, JwtStrategy.validate]
  cases byId : db.users.find? fun u => u.id == payload.sub with
  | none => rw [h.user_none (fun _ => rfl) byId]
  | some u =>
      rw [hasUser, any_of_eq_some byId, beq_eq_false_iff_ne] at other
      rw [h.user_some (fun _ => rfl) byId other]
      dsimp only
      cases ofUser : db.tenants.find? fun t => t.id == u.tenantId with
      | none => rw [h.tenant_none (fun _ => rfl) ofUser]
      | some t =>
          have named := List.find?_some ofUser
          rw [beq_iff_eq] at named
          rw [h.tenant_some (fun _ => rfl) ofUser (named ▸ other)]

end Database.AlikeOutside

/-- Where ids are unique, what is done to a user of the tenant cannot be told. -/
theorem Database.alike_modifyUser (ids : (db.users.map User.id).Nodup) {userId : String}
    (own : db.hasUser a userId = true) {f : User → User} (fixed : ∀ u, (f u).fixed = u.fixed) :
    AlikeOutside a { db with users := modify (fun u => u.id == userId) f db.users } db where
  tenants := rfl
  users := by
    refine conceal_modify_own (fun _ => rfl) fixed fun u mem hit => ?_
    have found := find?_unique User.id ids mem
    rw [beq_iff_eq.mp hit] at found
    rwa [hasUser, any_of_eq_some found, beq_iff_eq] at own

theorem Database.alike_setTenantStatus (db : Database) (a : String) (status : TenantStatus) :
    AlikeOutside a (db.setTenantStatus a status) db where
  tenants := conceal_modify_own (fun _ => rfl) (fun _ => rfl) fun _ _ hit => beq_iff_eq.mp hit
  users := rfl

/-- A login into the tenant cannot be told either. -/
theorem Database.alike_login (ids : (db.users.map User.id).Nodup) (env : AuthEnv τ) (now : Time)
    {dto : LoginDto} (own : db.admitsTo a dto = true) :
    AlikeOutside a (login env now dto db).2 db := by
  rw [login]
  cases passed : authenticate env dto db with
  | error e => exact .refl a db
  | ok found =>
      obtain ⟨user, tenant⟩ := found
      obtain ⟨bySlug, -, byEmail, -, -⟩ := authenticate_ok_iff.mp passed
      rw [admitsTo, any_of_eq_some bySlug, beq_iff_eq] at own
      have mem := List.mem_of_find?_eq_some byEmail
      have named := List.find?_some byEmail
      rw [Bool.and_eq_true, beq_iff_eq, own] at named
      refine alike_modifyUser ids ?_ fun _ => rfl
      rw [hasUser, any_of_eq_some (find?_unique User.id ids mem), beq_iff_eq, named.1]

theorem login_documents (env : AuthEnv τ) (now : Time) (dto : LoginDto) (db : Database) :
    (login env now dto db).2.documents = db.documents := by
  rw [login]
  cases authenticate env dto db <;> rfl

theorem register_documents (env : AuthEnv τ) (now : Time) (g : RegisterGenerated)
    (dto : RegisterDto) (db : Database) : (register env now g dto db).2.documents = db.documents := by
  by_cases free : KeysFree env g dto db
  · rw [register_free free]
  · obtain ⟨e, refused⟩ := register_refused now free
    rw [refused]

end Alike
end IdpSaas

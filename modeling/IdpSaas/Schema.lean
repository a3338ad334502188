import IdpSaas.Lib.Owned

/-!
The relational schema: four tables, of which users, API keys and documents carry
a `tenantId`. Rows are the records the generated client returns, timestamps are
milliseconds.
-/

namespace IdpSaas

abbrev Time := Nat

/-- The text of a JSON value that is not null: a result, whose fields can be looked at. -/
abbrev Json := { text : String // text ≠ "null" }

inductive TenantStatus
  | active | suspended | deleted
  deriving DecidableEq, Repr

inductive UserRole
  | owner | admin | member
  deriving DecidableEq, Repr

inductive UserStatus
  | active | invited | suspended
  deriving DecidableEq, Repr

inductive DocumentStatus
  | pending | processing | completed | failed
  deriving DecidableEq, Repr

structure Tenant where
  id : String
  name : String
  slug : String
  status : TenantStatus
  createdAt : Time
  updatedAt : Time
  deriving DecidableEq, Repr

structure User where
  id : String
  email : String
  passwordHash : String
  fullName : Option String
  role : UserRole
  status : UserStatus
  tenantId : String
  lastLoginAt : Option Time
  createdAt : Time
  updatedAt : Time
  deriving DecidableEq, Repr

structure ApiKey where
  id : String
  name : String
  keyHash : String
  keyPrefix : String
  scopes : List String
  tenantId : String
  createdById : String
  lastUsedAt : Option Time
  expiresAt : Option Time
  revokedAt : Option Time
  createdAt : Time
  deriving DecidableEq, Repr

structure Document where
  id : String
  originalName : String
  storagePath : String
  mimeType : String
  sizeBytes : Nat
  checksumSha256 : Option String
  status : DocumentStatus
  errorMessage : Option String
  retryCount : Nat
  extractedData : Option Json
  tenantId : String
  uploadedById : String
  createdAt : Time
  processingStartedAt : Option Time
  processedAt : Option Time
  deriving DecidableEq, Repr

structure Database where
  tenants : List Tenant
  users : List User
  apiKeys : List ApiKey
  documents : List Document
  deriving DecidableEq, Repr

/-- The sub-database of one tenant's rows. -/
def Database.only (t : String) (db : Database) : Database :=
  { db with
    users := Owned.ownedBy User.tenantId t db.users
    apiKeys := Owned.ownedBy ApiKey.tenantId t db.apiKeys
    documents := Owned.ownedBy Document.tenantId t db.documents }

/-- Between the two states nothing happened to rows outside tenant `t`: none was
changed or removed, and none was created or moved to another tenant. -/
structure TenantIsolated (t : String) (before after : Database) : Prop where
  users : Owned.foreign User.tenantId t after.users = Owned.foreign User.tenantId t before.users
  apiKeys : Owned.foreign ApiKey.tenantId t after.apiKeys =
    Owned.foreign ApiKey.tenantId t before.apiKeys
  documents : Owned.foreign Document.tenantId t after.documents =
    Owned.foreign Document.tenantId t before.documents

theorem TenantIsolated.refl (t : String) (db : Database) : TenantIsolated t db db :=
  ⟨rfl, rfl, rfl⟩

theorem TenantIsolated.symm {t : String} {a b : Database} (h : TenantIsolated t a b) :
    TenantIsolated t b a :=
  ⟨h.users.symm, h.apiKeys.symm, h.documents.symm⟩

theorem TenantIsolated.trans {t : String} {a b c : Database} (h : TenantIsolated t a b)
    (k : TenantIsolated t b c) : TenantIsolated t a c :=
  ⟨k.users.trans h.users, k.apiKeys.trans h.apiKeys, k.documents.trans h.documents⟩

end IdpSaas

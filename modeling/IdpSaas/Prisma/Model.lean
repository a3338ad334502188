import IdpSaas.Schema

/-!
What the generated client knows about its models: the columns that a payload sets,
the rows of the four tables as one type, with the foreign keys they hold, and for
each tenant-scoped model its columns, its compound unique key and the table its
rows live in. `tenantId` is kept apart from the other columns because it is the one
key the tenant extension writes. The three instances are the three scoped models.
-/

namespace IdpSaas

inductive ModelName
  | tenant | user | apiKey | document
  deriving DecidableEq, Repr

/-- Models that have a tenantId column. -/
def tenantScopedModels : List ModelName := [.user, .apiKey, .document]

/-- What the database or the client fills in when a row is created. -/
structure Generated where
  uuid : String
  now : Time
  deriving DecidableEq, Repr

/-- The columns that an update of a tenant sets. -/
structure Tenant.Columns where
  id : Option String := none
  name : Option String := none
  slug : Option String := none
  status : Option TenantStatus := none
  createdAt : Option Time := none
  updatedAt : Option Time := none

def Tenant.assign (c : Tenant.Columns) (t : Tenant) : Tenant where
  id := c.id.getD t.id
  name := c.name.getD t.name
  slug := c.slug.getD t.slug
  status := c.status.getD t.status
  createdAt := c.createdAt.getD t.createdAt
  updatedAt := c.updatedAt.getD t.updatedAt

structure Tenant.PlainFields where
  id : Option String := none
  name : String
  slug : String
  status : Option TenantStatus := none
  createdAt : Option Time := none
  updatedAt : Option Time := none

def Tenant.build (g : Generated) (f : Tenant.PlainFields) : Tenant where
  id := f.id.getD g.uuid
  name := f.name
  slug := f.slug
  status := f.status.getD .active
  createdAt := f.createdAt.getD g.now
  updatedAt := f.updatedAt.getD g.now

inductive User.Column
  | id | email | passwordHash | fullName | role | status | lastLoginAt | createdAt | updatedAt
  deriving DecidableEq

@[reducible] def User.Column.type : User.Column → Type
  | .id | .email | .passwordHash => String
  | .fullName => Option String
  | .role => UserRole
  | .status => UserStatus
  | .lastLoginAt => Option Time
  | .createdAt | .updatedAt => Time

def User.get (u : User) : (c : User.Column) → c.type
  | .id => u.id
  | .email => u.email
  | .passwordHash => u.passwordHash
  | .fullName => u.fullName
  | .role => u.role
  | .status => u.status
  | .lastLoginAt => u.lastLoginAt
  | .createdAt => u.createdAt
  | .updatedAt => u.updatedAt

def User.set (u : User) : (c : User.Column) → c.type → User
  | .id, v => { u with id := v }
  | .email, v => { u with email := v }
  | .passwordHash, v => { u with passwordHash := v }
  | .fullName, v => { u with fullName := v }
  | .role, v => { u with role := v }
  | .status, v => { u with status := v }
  | .lastLoginAt, v => { u with lastLoginAt := v }
  | .createdAt, v => { u with createdAt := v }
  | .updatedAt, v => { u with updatedAt := v }

/-- The columns of a create payload that are no foreign keys. -/
structure User.PlainFields where
  id : Option String := none
  email : String
  passwordHash : String
  fullName : Option String := none
  role : Option UserRole := none
  status : Option UserStatus := none
  lastLoginAt : Option Time := none
  createdAt : Option Time := none
  updatedAt : Option Time := none

def User.build (g : Generated) (f : User.PlainFields) (tenantId : String) : User where
  id := f.id.getD g.uuid
  email := f.email
  passwordHash := f.passwordHash
  fullName := f.fullName
  role := f.role.getD .member
  status := f.status.getD .active
  tenantId := tenantId
  lastLoginAt := f.lastLoginAt
  createdAt := f.createdAt.getD g.now
  updatedAt := f.updatedAt.getD g.now

inductive ApiKey.Column
  | id | name | keyHash | keyPrefix | scopes | createdById | lastUsedAt | expiresAt | revokedAt
  | createdAt
  deriving DecidableEq

@[reducible] def ApiKey.Column.type : ApiKey.Column → Type
  | .id | .name | .keyHash | .keyPrefix | .createdById => String
  | .scopes => List String
  | .lastUsedAt | .expiresAt | .revokedAt => Option Time
  | .createdAt => Time

def ApiKey.get (k : ApiKey) : (c : ApiKey.Column) → c.type
  | .id => k.id
  | .name => k.name
  | .keyHash => k.keyHash
  | .keyPrefix => k.keyPrefix
  | .scopes => k.scopes
  | .createdById => k.createdById
  | .lastUsedAt => k.lastUsedAt
  | .expiresAt => k.expiresAt
  | .revokedAt => k.revokedAt
  | .createdAt => k.createdAt

def ApiKey.set (k : ApiKey) : (c : ApiKey.Column) → c.type → ApiKey
  | .id, v => { k with id := v }
  | .name, v => { k with name := v }
  | .keyHash, v => { k with keyHash := v }
  | .keyPrefix, v => { k with keyPrefix := v }
  | .scopes, v => { k with scopes := v }
  | .createdById, v => { k with createdById := v }
  | .lastUsedAt, v => { k with lastUsedAt := v }
  | .expiresAt, v => { k with expiresAt := v }
  | .revokedAt, v => { k with revokedAt := v }
  | .createdAt, v => { k with createdAt := v }

structure ApiKey.PlainFields where
  id : Option String := none
  name : String
  keyHash : String
  keyPrefix : String
  scopes : List String := []
  lastUsedAt : Option Time := none
  expiresAt : Option Time := none
  revokedAt : Option Time := none
  createdAt : Option Time := none

structure ApiKey.CreateFields extends ApiKey.PlainFields where
  createdById : String

def ApiKey.build (g : Generated) (f : ApiKey.CreateFields) (tenantId : String) : ApiKey where
  id := f.id.getD g.uuid
  name := f.name
  keyHash := f.keyHash
  keyPrefix := f.keyPrefix
  scopes := f.scopes
  tenantId := tenantId
  createdById := f.createdById
  lastUsedAt := f.lastUsedAt
  expiresAt := f.expiresAt
  revokedAt := f.revokedAt
  createdAt := f.createdAt.getD g.now

inductive Document.Column
  | id | originalName | storagePath | mimeType | sizeBytes | checksumSha256 | status
  | errorMessage | retryCount | extractedData | uploadedById | createdAt | processingStartedAt
  | processedAt
  deriving DecidableEq

@[reducible] def Document.Column.type : Document.Column → Type
  | .id | .originalName | .storagePath | .mimeType | .uploadedById => String
  | .sizeBytes | .retryCount => Nat
  | .checksumSha256 | .errorMessage => Option String
  | .status => DocumentStatus
  | .extractedData => Option Json
  | .createdAt => Time
  | .processingStartedAt | .processedAt => Option Time

def Document.get (d : Document) : (c : Document.Column) → c.type
  | .id => d.id
  | .originalName => d.originalName
  | .storagePath => d.storagePath
  | .mimeType => d.mimeType
  | .sizeBytes => d.sizeBytes
  | .checksumSha256 => d.checksumSha256
  | .status => d.status
  | .errorMessage => d.errorMessage
  | .retryCount => d.retryCount
  | .extractedData => d.extractedData
  | .uploadedById => d.uploadedById
  | .createdAt => d.createdAt
  | .processingStartedAt => d.processingStartedAt
  | .processedAt => d.processedAt

def Document.set (d : Document) : (c : Document.Column) → c.type → Document
  | .id, v => { d with id := v }
  | .originalName, v => { d with originalName := v }
  | .storagePath, v => { d with storagePath := v }
  | .mimeType, v => { d with mimeType := v }
  | .sizeBytes, v => { d with sizeBytes := v }
  | .checksumSha256, v => { d with checksumSha256 := v }
  | .status, v => { d with status := v }
  | .errorMessage, v => { d with errorMessage := v }
  | .retryCount, v => { d with retryCount := v }
  | .extractedData, v => { d with extractedData := v }
  | .uploadedById, v => { d with uploadedById := v }
  | .createdAt, v => { d with createdAt := v }
  | .processingStartedAt, v => { d with processingStartedAt := v }
  | .processedAt, v => { d with processedAt := v }

structure Document.PlainFields where
  id : Option String := none
  originalName : String
  storagePath : String
  mimeType : String
  sizeBytes : Nat
  checksumSha256 : Option String := none
  status : Option DocumentStatus := none
  errorMessage : Option String := none
  retryCount : Option Nat := none
  extractedData : Option Json := none
  createdAt : Option Time := none
  processingStartedAt : Option Time := none
  processedAt : Option Time := none

structure Document.CreateFields extends Document.PlainFields where
  uploadedById : String

def Document.build (g : Generated) (f : Document.CreateFields) (tenantId : String) :
    Document where
  id := f.id.getD g.uuid
  originalName := f.originalName
  storagePath := f.storagePath
  mimeType := f.mimeType
  sizeBytes := f.sizeBytes
  checksumSha256 := f.checksumSha256
  status := f.status.getD .pending
  errorMessage := f.errorMessage
  retryCount := f.retryCount.getD 0
  extractedData := f.extractedData
  tenantId := tenantId
  uploadedById := f.uploadedById
  createdAt := f.createdAt.getD g.now
  processingStartedAt := f.processingStartedAt
  processedAt := f.processedAt

/-- A row of any of the four tables. -/
inductive Row
  | tenant (r : Tenant)
  | user (r : User)
  | apiKey (r : ApiKey)
  | document (r : Document)
  deriving DecidableEq

namespace Row

def model : Row → ModelName
  | .tenant _ => .tenant
  | .user _ => .user
  | .apiKey _ => .apiKey
  | .document _ => .document

def id : Row → String
  | .tenant r => r.id
  | .user r => r.id
  | .apiKey r => r.id
  | .document r => r.id

/-- The tenant a row belongs to. A tenant belongs to none. -/
def owner : Row → Option String
  | .tenant _ => none
  | .user r => some r.tenantId
  | .apiKey r => some r.tenantId
  | .document r => some r.tenantId

/-- The foreign key to a model: `tenantId`, or `createdById` and `uploadedById`. -/
def reference : ModelName → Row → Option String
  | .tenant, r => r.owner
  | .user, .apiKey r => some r.createdById
  | .user, .document r => some r.uploadedById
  | _, _ => none

/-- Two rows that may not both be in their table, by `@id` or a unique key. -/
def sameKey : Row → Row → Bool
  | .tenant a, .tenant b => a.id == b.id || a.slug == b.slug
  | .user a, .user b => a.id == b.id || (a.tenantId == b.tenantId && a.email == b.email)
  | .apiKey a, .apiKey b => a.id == b.id
  | .document a, .document b => a.id == b.id
  | _, _ => false

def tenant? : Row → Option Tenant
  | .tenant r => some r
  | _ => none

def user? : Row → Option User
  | .user r => some r
  | _ => none

def apiKey? : Row → Option ApiKey
  | .apiKey r => some r
  | _ => none

def document? : Row → Option Document
  | .document r => some r
  | _ => none

end Row

/-- A tenant-scoped model. -/
class Model (ρ : Type) where
  name : ModelName
  /-- The columns other than `tenantId`. -/
  Column : Type
  type : Column → Type
  get : ρ → (c : Column) → type c
  set : ρ → (c : Column) → type c → ρ
  /-- Compound unique selectors, such as `tenantId_email`. -/
  Key : Type
  hasKey : ρ → Key → Bool
  tenantId : ρ → String
  rows : Database → List ρ
  ofRow : Row → Option ρ
  listed : name ∈ tenantScopedModels
  rows_only : ∀ t db, rows (db.only t) = Owned.ownedBy tenantId t (rows db)
  tenantId_set : ∀ r c v, tenantId (set r c v) = tenantId r
  ofRow_model : ∀ {row r}, ofRow row = some r → row.model = name
  ofRow_owner : ∀ {row r}, ofRow row = some r → row.owner = some (tenantId r)

attribute [simp] Model.rows_only Model.tenantId_set

instance : Model User where
  name := .user
  Column := User.Column
  type := User.Column.type
  get := User.get
  set := User.set
  Key := String × String
  hasKey u k := u.tenantId == k.1 && u.email == k.2
  tenantId := User.tenantId
  rows := Database.users
  ofRow := Row.user?
  listed := by decide
  rows_only _ _ := rfl
  tenantId_set _ c _ := by cases c <;> rfl
  ofRow_model {row _} h := by cases row <;> simp_all [Row.user?, Row.model]
  ofRow_owner {row _} h := by cases row <;> simp_all [Row.user?, Row.owner]

instance : Model ApiKey where
  name := .apiKey
  Column := ApiKey.Column
  type := ApiKey.Column.type
  get := ApiKey.get
  set := ApiKey.set
  Key := Empty
  hasKey _ k := k.elim
  tenantId := ApiKey.tenantId
  rows := Database.apiKeys
  ofRow := Row.apiKey?
  listed := by decide
  rows_only _ _ := rfl
  tenantId_set _ c _ := by cases c <;> rfl
  ofRow_model {row _} h := by cases row <;> simp_all [Row.apiKey?, Row.model]
  ofRow_owner {row _} h := by cases row <;> simp_all [Row.apiKey?, Row.owner]

instance : Model Document where
  name := .document
  Column := Document.Column
  type := Document.Column.type
  get := Document.get
  set := Document.set
  Key := Empty
  hasKey _ k := k.elim
  tenantId := Document.tenantId
  rows := Database.documents
  ofRow := Row.document?
  listed := by decide
  rows_only _ _ := rfl
  tenantId_set _ c _ := by cases c <;> rfl
  ofRow_model {row _} h := by cases row <;> simp_all [Row.document?, Row.model]
  ofRow_owner {row _} h := by cases row <;> simp_all [Row.document?, Row.owner]

end IdpSaas

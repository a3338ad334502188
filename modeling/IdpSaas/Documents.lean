import IdpSaas.Prisma.ForTenant
import IdpSaas.Storage

/-!
`DocumentsService`: the content check of an upload, the row an upload creates, the
two queries of a list and the lookup of a single document. All database access goes
through a client bound to the caller's tenant. The lemmas say what those scoped
calls amount to on the table of documents.
-/

namespace IdpSaas

structure MulterFile where
  originalname : String
  mimetype : String
  buffer : Bytes
  deriving DecidableEq, Repr

def hexDigit (n : Nat) : Char :=
  if n < 10 then Char.ofNat (48 + n) else Char.ofNat (87 + n)

/-- `toString('hex')`. -/
def hexString (b : Bytes) : List Char :=
  b.flatMap fun x => [hexDigit (x.toNat / 16), hexDigit (x.toNat % 16)]

/-- `toString() === text` for an ASCII text. -/
def isText (b : Bytes) (text : String) : Bool :=
  b.map UInt8.toNat == text.toList.map Char.toNat

structure ListDocumentsQueryDto where
  status : Option DocumentStatus
  page : Option Nat
  pageSize : Option Nat
  page_min : ∀ n ∈ page, 1 ≤ n
  pageSize_min : ∀ n ∈ pageSize, 1 ≤ n
  pageSize_max : ∀ n ∈ pageSize, n ≤ 100

structure DocumentPage where
  items : List Document
  page : Nat
  pageSize : Nat
  total : Nat
  totalPages : Nat
  deriving DecidableEq, Repr

/-- The order a database may return rows in: any one that satisfies `orderBy`. -/
structure RowOrder where
  arrange : List Document → List Document
  perm : ∀ l, (arrange l).Perm l
  newestFirst : ∀ l, (arrange l).Pairwise fun a b => decide (b.createdAt ≤ a.createdAt) = true

namespace DocumentsService
open Ternary

def magicBytesMatchMime (buffer : Bytes) (mime : String) : Bool :=
  if buffer.length < 4 then false
  else
    let head := buffer.take 8
    let hex := hexString head
    if mime = "application/pdf" then isText (head.take 4) "%PDF"
    else if mime = "image/jpeg" then "ffd8ff".toList.isPrefixOf hex
    else if mime = "image/png" then "89504e470d0a1a0a".toList.isPrefixOf hex
    else if mime = "image/webp" then
      isText (head.take 4) "RIFF" && decide (12 ≤ (head.take 12).length)
    else false

/-- What `upload` checks before it stores anything. -/
def checkFile : Option MulterFile → Except HttpError MulterFile
  | none => .error (.badRequest "File is required")
  | some file =>
      if magicBytesMatchMime file.buffer file.mimetype then .ok file
      else .error (.badRequest "File content does not match declared type")

def createFields (userId : String) (file : MulterFile) (stored : StoredFile) :
    Document.CreateFields where
  originalName := file.originalname
  storagePath := stored.storagePath
  mimeType := file.mimetype
  sizeBytes := stored.sizeBytes
  checksumSha256 := some stored.checksumSha256
  status := some .pending
  uploadedById := userId

/-- `tenantDb.document.create`; an id that is taken violates the primary key. -/
def create (env : Env) (scope : TenantScope) (generated : Generated)
    (fields : Document.CreateFields) (db : Database) : Except JsError (Document × Database) :=
  if db.documents.any fun d => d.id == generated.uuid then .error env.uniqueConstraint
  else
    match (scope.write (.create (ρ := Document)
        { fields := .document fields.toPlainFields
          references := { userId := some fields.uploadedById } })).run
        (fun _ => generated) db with
    | some db' => .ok (Document.build generated fields scope.tenantId, db')
    | none => .error env.recordNotFound

def byId (id : String) : Where Document :=
  .column Document.Column.id fun x : String => some (x == id)

def findUnique (scope : TenantScope) (db : Database) (id : String) : Option Document :=
  match (scope.read (.findUnique (α := Unit) (byId id))).execute (fun rows => rows) db.documents with
  | .row r => r
  | _ => none

def findOne (scope : TenantScope) (db : Database) (id : String) : Except HttpError Document :=
  match findUnique scope db id with
  | some doc => .ok doc
  | none => .error (.notFound "Document not found")

def listWhere (query : ListDocumentsQueryDto) : Where Document :=
  match query.status with
  | some status => .column Document.Column.status fun x : DocumentStatus => some (x == status)
  | none => .empty

def page (query : ListDocumentsQueryDto) : Nat := query.page.getD 1

def pageSize (query : ListDocumentsQueryDto) : Nat := query.pageSize.getD 20

def listItems (scope : TenantScope) (db : Database) (query : ListDocumentsQueryDto)
    (order : RowOrder) : List Document :=
  match (scope.read (.findMany (α := Unit)
      { whereInput := some (listWhere query)
        orderBy := fun a b => decide (b.createdAt ≤ a.createdAt)
        skip := (page query - 1) * pageSize query
        take := some (pageSize query) })).execute order.arrange db.documents with
  | .rows items => items
  | _ => []

def listTotal (scope : TenantScope) (db : Database) (query : ListDocumentsQueryDto) : Nat :=
  match (scope.read (.count (α := Unit)
      { whereInput := some (listWhere query) })).execute (fun rows => rows) db.documents with
  | .number total => total
  | _ => 0

def listResponse (query : ListDocumentsQueryDto) (items : List Document) (total : Nat) :
    DocumentPage where
  items := items
  page := page query
  pageSize := pageSize query
  total := total
  totalPages := (total + pageSize query - 1) / pageSize query

/-- The test that a scoped selector by id stands for. -/
def selects (t id : String) (d : Document) : Bool := d.tenantId == t && d.id == id

theorem selects_iff {t id : String} {d : Document} :
    selects t id d = true ↔ d.tenantId = t ∧ d.id = id := by
  simp [selects]

theorem selects_owner {t id : String} (d : Document) (h : selects t id d = true) :
    d.tenantId = t := (selects_iff.mp h).1

theorem holds_byId (id : String) (d : Document) : (byId id).holds d = (d.id == id) :=
  @Where.holds_column Document _ Document.Column.id (fun x : String => x == id) d

/-- A scoped selector by id admits the tenant's own row of that id. -/
theorem holds_scoped_byId (t id : String) :
    ((byId id).withTenantId t).holds = selects t id := by
  funext d
  rw [Where.holds_withTenantId]
  exact congrArg _ (holds_byId id d)

theorem findUnique_eq (scope : TenantScope) (db : Database) (id : String) :
    findUnique scope db id = db.documents.find? (selects scope.tenantId id) := by
  rw [findUnique, TenantScope.read_eq]
  change (db.documents.filter ((byId id).withTenantId scope.tenantId).holds).head? = _
  rw [holds_scoped_byId, List.head?_filter]

theorem listItems_eq (scope : TenantScope) (db : Database) (query : ListDocumentsQueryDto)
    (order : RowOrder) :
    listItems scope db query order =
      ((order.arrange (db.documents.filter
        ((listWhere query).withTenantId scope.tenantId).holds)).drop
          ((page query - 1) * pageSize query)).take (pageSize query) := by
  rw [listItems, TenantScope.read_eq]
  rfl

theorem listTotal_eq (scope : TenantScope) (db : Database) (query : ListDocumentsQueryDto) :
    listTotal scope db query =
      (db.documents.filter ((listWhere query).withTenantId scope.tenantId).holds).length := by
  rw [listTotal, TenantScope.read_eq]
  rfl

/-- A scoped create appends a row of the tenant when its id is free. -/
theorem create_eq (env : Env) (scope : TenantScope) (generated : Generated)
    (fields : Document.CreateFields) (db : Database) :
    create env scope generated fields db =
      if db.documents.any fun d => d.id == generated.uuid then .error env.uniqueConstraint
      else .ok (Document.build generated fields scope.tenantId,
        { db with documents :=
            db.documents ++ [Document.build generated fields scope.tenantId] }) := by
  have inserted : (scopeWrite scope.tenantId (.create (ρ := Document)
      { fields := .document fields.toPlainFields
        references := { userId := some fields.uploadedById } })).run (fun _ => generated) db =
      some ((Statement.insert
        [.document (Document.build generated fields scope.tenantId)] false).run db) := rfl
  rw [create, TenantScope.write_eq, inserted, Statement.run_insert_document]

end DocumentsService
end IdpSaas

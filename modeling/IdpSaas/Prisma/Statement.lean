import IdpSaas.Prisma.Model

/-!
The statements that the writes of the client come down to: rows are inserted, updated
or deleted. Foreign keys follow a row whose id is changed (`ON UPDATE CASCADE`). Each
statement finds the database that those before it have left.
-/

namespace IdpSaas
open Owned

/-- Foreign keys that a payload names: `tenantId`, and the user in `createdById` or
`uploadedById`. -/
structure References where
  tenantId : Option String := none
  userId : Option String := none
  deriving DecidableEq

namespace References

/-- The key to a row of a model. -/
def of : ModelName → String → References
  | .tenant, id => { tenantId := some id }
  | .user, id => { userId := some id }
  | _, _ => {}

/-- A key may be named once only. -/
def join (a b : References) : Option References :=
  if (a.tenantId.isSome && b.tenantId.isSome) || (a.userId.isSome && b.userId.isSome) then none
  else some ⟨a.tenantId.or b.tenantId, a.userId.or b.userId⟩

end References

/-- The columns of a create payload other than the foreign keys. -/
inductive Fields
  | tenant (fields : Tenant.PlainFields)
  | user (fields : User.PlainFields)
  | apiKey (fields : ApiKey.PlainFields)
  | document (fields : Document.PlainFields)

namespace Fields

def model : Fields → ModelName
  | .tenant _ => .tenant
  | .user _ => .user
  | .apiKey _ => .apiKey
  | .document _ => .document

/-- The new row, unless a foreign key is missing. -/
def build (g : Generated) (k : References) : Fields → Option Row
  | .tenant f => some (.tenant (Tenant.build g f))
  | .user f => k.tenantId.map fun t => .user (User.build g f t)
  | .apiKey f =>
      match k.tenantId, k.userId with
      | some t, some u =>
          some (.apiKey (ApiKey.build g { toPlainFields := f, createdById := u } t))
      | _, _ => none
  | .document f =>
      match k.tenantId, k.userId with
      | some t, some u =>
          some (.document (Document.build g { toPlainFields := f, uploadedById := u } t))
      | _, _ => none

end Fields

/-- The columns that an update sets, for the kind of row it is about, each with what it
makes of the old value (`set`, `increment`). What the client adds by itself, an
`@updatedAt`, is among them. -/
structure Columns where
  tenant : Tenant.Columns := {}
  user : List ((c : User.Column) × (c.type → c.type)) := []
  apiKey : List ((c : ApiKey.Column) × (c.type → c.type)) := []
  document : List ((c : Document.Column) × (c.type → c.type)) := []

def assign {ρ : Type} [Model ρ]
    (columns : List ((c : Model.Column ρ) × (Model.type c → Model.type c))) (r : ρ) : ρ :=
  columns.foldl (fun r a => Model.set r a.1 (a.2 (Model.get r a.1))) r

namespace Row

def assign (columns : Columns) : Row → Row
  | .tenant r => .tenant (Tenant.assign columns.tenant r)
  | .user r => .user (IdpSaas.assign columns.user r)
  | .apiKey r => .apiKey (IdpSaas.assign columns.apiKey r)
  | .document r => .document (IdpSaas.assign columns.document r)

def refer (k : References) : Row → Row
  | .tenant r => .tenant r
  | .user r => .user { r with tenantId := k.tenantId.getD r.tenantId }
  | .apiKey r =>
      .apiKey { r with
        tenantId := k.tenantId.getD r.tenantId
        createdById := k.userId.getD r.createdById }
  | .document r =>
      .document { r with
        tenantId := k.tenantId.getD r.tenantId
        uploadedById := k.userId.getD r.uploadedById }

/-- The updated row. -/
def write (columns : Columns) (k : References) (r : Row) : Row := (r.assign columns).refer k

/-- The row with its key to a model changed as the id it refers to. -/
def follow (m : ModelName) (rename : String → String) (r : Row) : Row :=
  match r.reference m with
  | some id => r.refer (.of m (rename id))
  | none => r

@[simp] theorem model_assign (columns : Columns) (r : Row) :
    (r.assign columns).model = r.model := by cases r <;> rfl

@[simp] theorem model_refer (k : References) (r : Row) : (r.refer k).model = r.model := by
  cases r <;> rfl

@[simp] theorem model_write (columns : Columns) (k : References) (r : Row) :
    (r.write columns k).model = r.model := by simp [write]

@[simp] theorem model_follow (m : ModelName) (rename : String → String) (r : Row) :
    (r.follow m rename).model = r.model := by
  unfold follow
  split
  · exact model_refer _ r
  · rfl

end Row

namespace Database

def rows (db : Database) : List Row :=
  db.tenants.map Row.tenant ++ db.users.map Row.user ++ db.apiKeys.map Row.apiKey ++
    db.documents.map Row.document

def ofRows (l : List Row) : Database where
  tenants := l.filterMap Row.tenant?
  users := l.filterMap Row.user?
  apiKeys := l.filterMap Row.apiKey?
  documents := l.filterMap Row.document?

/-- The rows of each table, rewritten kind by kind. -/
theorem ofRows_filterMap (db : Database) (g : Row → Option Row)
    (ts : Tenant → Option Tenant) (us : User → Option User) (ks : ApiKey → Option ApiKey)
    (ds : Document → Option Document)
    (tenants : ∀ r, g (.tenant r) = (ts r).map Row.tenant)
    (users : ∀ r, g (.user r) = (us r).map Row.user)
    (apiKeys : ∀ r, g (.apiKey r) = (ks r).map Row.apiKey)
    (documents : ∀ r, g (.document r) = (ds r).map Row.document) :
    ofRows (db.rows.filterMap g) =
      ⟨db.tenants.filterMap ts, db.users.filterMap us, db.apiKeys.filterMap ks,
        db.documents.filterMap ds⟩ := by
  have pass : ∀ {α β γ : Type} (f : α → Row) (k : Row → Option γ) (p : α → Option β)
      (q : β → Row), (∀ r, g (f r) = (p r).map q) → ∀ l : List α,
      ((l.map f).filterMap g).filterMap k = (l.filterMap p).filterMap fun b => k (q b) := by
    intro α β γ f k p q h l
    simp only [List.filterMap_map, List.filterMap_filterMap, Function.comp_def, h]
    congr 1
    funext a
    cases p a <;> rfl
  simp only [ofRows, rows, List.filterMap_append, pass _ _ _ _ tenants, pass _ _ _ _ users,
    pass _ _ _ _ apiKeys, pass _ _ _ _ documents]
  simp [Row.tenant?, Row.user?, Row.apiKey?, Row.document?, List.filterMap_some]

theorem ofRows_append (l m : List Row) :
    ofRows (l ++ m) =
      ⟨(ofRows l).tenants ++ (ofRows m).tenants, (ofRows l).users ++ (ofRows m).users,
        (ofRows l).apiKeys ++ (ofRows m).apiKeys,
        (ofRows l).documents ++ (ofRows m).documents⟩ := by
  simp only [ofRows, List.filterMap_append]

@[simp] theorem ofRows_rows (db : Database) : ofRows db.rows = db := by
  have all := ofRows_filterMap db some some some some some (fun _ => rfl) (fun _ => rfl)
    (fun _ => rfl) (fun _ => rfl)
  simpa only [List.filterMap_some] using all

end Database

inductive Statement
  /-- With `skipDuplicates`, `ON CONFLICT DO NOTHING`. -/
  | insert (rows : List Row) (skipDuplicates : Bool)
  | update (model : ModelName) (select : Row → Bool) (columns : Columns) (references : References)
  | delete (model : ModelName) (select : Row → Bool)

/-- The rows that conflict neither with the table nor with those before them. -/
def withoutDuplicates : List Row → List Row → List Row
  | _, [] => []
  | table, r :: rest =>
      if table.any r.sameKey then withoutDuplicates table rest
      else r :: withoutDuplicates (r :: table) rest

namespace Statement

def inserted (table : List Row) : Statement → List Row
  | .insert rows skipDuplicates => if skipDuplicates then withoutDuplicates table rows else rows
  | .update _ _ _ _ | .delete _ _ => []

/-- The rows that an update or a deletion is about. -/
def selects : Statement → Row → Bool
  | .insert _ _, _ => false
  | .update m select _ _, r | .delete m select, r => r.model == m && select r

/-- A selected row afterwards. -/
def result : Statement → Row → Option Row
  | .insert _ _, r => some r
  | .update _ _ columns k, r => some (r.write columns k)
  | .delete _ _, _ => none

/-- The tenant that selected rows are handed to. -/
def target : Statement → Option String
  | .insert _ _ | .delete _ _ => none
  | .update _ _ _ k => k.tenantId

/-- The model of the selected rows. -/
def model? : Statement → Option ModelName
  | .insert _ _ => none
  | .update m _ _ _ | .delete m _ => some m

/-- The id that rows of an updated table have afterwards. -/
def renamed (table : List Row) (s : Statement) (id : String) : String :=
  match table.find? fun r => s.selects r && r.id == id with
  | some r => ((s.result r).map Row.id).getD id
  | none => id

/-- What becomes of a row: it is rewritten or deleted, or its keys follow. -/
def effect (table : List Row) (s : Statement) (r : Row) : Option Row :=
  if s.selects r then s.result r
  else some (s.model?.elim r fun m => r.follow m (s.renamed table))

def run (db : Database) (s : Statement) : Database :=
  .ofRows (db.rows.filterMap (s.effect db.rows) ++ s.inserted db.rows)

theorem run_insert (db : Database) (rows : List Row) (skipDuplicates : Bool) :
    (Statement.insert rows skipDuplicates).run db =
      .ofRows (db.rows ++ (Statement.insert rows skipDuplicates).inserted db.rows) := by
  rw [run, show (Statement.insert rows skipDuplicates).effect db.rows = some from rfl,
    List.filterMap_some]

@[simp] theorem run_insert_document (db : Database) (d : Document) :
    (Statement.insert [.document d] false).run db =
      { db with documents := db.documents ++ [d] } := by
  rw [run_insert, Database.ofRows_append, Database.ofRows_rows]
  simp [inserted, Database.ofRows, Row.tenant?, Row.user?, Row.apiKey?, Row.document?]

/-- No key refers to a document, so nothing follows an update of documents. -/
@[simp] theorem run_update_document (db : Database) (select : Row → Bool) (columns : Columns) :
    (Statement.update .document select columns {}).run db =
      { db with
        documents := Owned.modify (fun d => select (.document d))
          (IdpSaas.assign columns.document) db.documents } := by
  have documents : ∀ d, (Statement.update .document select columns {}).effect db.rows
      (.document d) = (some (if select (.document d) then IdpSaas.assign columns.document d
        else d)).map Row.document := by
    intro d
    cases chosen : select (.document d) with
    | false =>
        rw [effect, if_neg (by simp [selects, chosen])]
        rfl
    | true =>
        rw [effect, if_pos (by simp [selects, Row.model, chosen])]
        rfl
  have tables := Database.ofRows_filterMap db
    ((Statement.update .document select columns {}).effect db.rows) some some some
    (fun d => some (if select (.document d) then IdpSaas.assign columns.document d else d))
    (fun _ => rfl) (fun _ => rfl) (fun _ => rfl) documents
  rw [run, inserted, List.append_nil, tables]
  simp only [List.filterMap_some, List.filterMap_eq_map']
  rfl

end Statement

/-- The databases a list of statements goes through. -/
def Database.stages (db : Database) : List Statement → List Database
  | [] => [db]
  | s :: rest => db :: Database.stages (s.run db) rest

def Database.runAll (db : Database) (statements : List Statement) : Database :=
  statements.foldl Statement.run db

end IdpSaas

import IdpSaas.Prisma.Statement

/-!
Relation writes nested in a payload, to any depth, and the statements they come down
to. A to-one relation gives the row its key, so it is written before the row; what is
nested in a to-many relation is written after it, and so are updates of a row that is
linked already. Each write reads the database as the statements before it leave it.
All relations of the schema are required: a link can be moved but not cut.
-/

namespace IdpSaas

/-- The relation fields of the schema. -/
inductive RelationField
  | tenant | createdBy | uploadedBy
  | users | apiKeys | documents | createdApiKeys | uploadedDocuments
  deriving DecidableEq, Repr

namespace RelationField

/-- The models that have the field. -/
def models : RelationField → List ModelName
  | .tenant => [.user, .apiKey, .document]
  | .createdBy => [.apiKey]
  | .uploadedBy => [.document]
  | .users | .apiKeys | .documents => [.tenant]
  | .createdApiKeys | .uploadedDocuments => [.user]

/-- The model at the other end. -/
def target : RelationField → ModelName
  | .tenant => .tenant
  | .createdBy | .uploadedBy | .users => .user
  | .apiKeys | .createdApiKeys => .apiKey
  | .documents | .uploadedDocuments => .document

/-- The model that the foreign key of the relation refers to. -/
def key : RelationField → ModelName
  | .tenant | .users | .apiKeys | .documents => .tenant
  | .createdBy | .uploadedBy | .createdApiKeys | .uploadedDocuments => .user

def toMany : RelationField → Bool
  | .tenant | .createdBy | .uploadedBy => false
  | .users | .apiKeys | .documents | .createdApiKeys | .uploadedDocuments => true

/-- Whether a row is at the other end of the field in the given row. -/
def linked (field : RelationField) (row other : Row) : Bool :=
  other.model == field.target &&
    if field.toMany then other.reference field.key == some row.id
    else row.reference field.key == some other.id

end RelationField

/-- The columns of a create payload, keys by name among them. -/
structure CreateRow where
  fields : Fields
  references : References := {}

structure UpdateManyData where
  columns : Columns := {}
  references : References := {}

/-- One write in a relation field. A `where` is the test it stands for. -/
inductive Nested
  | create (field : RelationField) (row : CreateRow) (nested : List Nested)
  | createMany (field : RelationField) (rows : List CreateRow) (skipDuplicates : Bool)
  | connect (field : RelationField) (select : Row → Bool)
  | connectOrCreate (field : RelationField) (select : Row → Bool) (row : CreateRow)
      (nested : List Nested)
  | set (field : RelationField) (selects : List (Row → Bool))
  | disconnect (field : RelationField) (select : Row → Bool)
  | update (field : RelationField) (select : Row → Bool) (data : UpdateManyData)
      (nested : List Nested)
  | updateMany (field : RelationField) (select : Row → Bool) (data : UpdateManyData)
  | upsert (field : RelationField) (select : Row → Bool) (row : CreateRow)
      (onCreate : List Nested) (data : UpdateManyData) (onUpdate : List Nested)
  | delete (field : RelationField) (select : Row → Bool)
  | deleteMany (field : RelationField) (select : Row → Bool)

namespace Nested

def field : Nested → RelationField
  | .create f _ _ | .createMany f _ _ | .connect f _ | .connectOrCreate f _ _ _ | .set f _
  | .disconnect f _ | .update f _ _ _ | .updateMany f _ _ | .upsert f _ _ _ _ _ | .delete f _
  | .deleteMany f _ => f

/-- What a create payload offers for a relation. -/
def offeredInCreate : Nested → Bool
  | .create _ _ _ | .createMany _ _ _ | .connect _ _ | .connectOrCreate _ _ _ _ => true
  | _ => false

/-- Whether a payload of the model may contain the write. -/
def fits (model : ModelName) (inCreate : Bool) (n : Nested) : Bool :=
  n.field.models.contains model && (n.offeredInCreate || !inCreate)

end Nested

/-- The statements of one payload: those that give the row its keys, the row's own, and
those that need the row. -/
structure Plan where
  before : List Statement := []
  own : Statement
  after : List Statement := []

def Plan.statements (p : Plan) : List Statement := p.before ++ p.own :: p.after

/-- Keys named by column exclude relations that give keys. -/
def References.named (columns relations : References) : Option References :=
  if columns ≠ {} ∧ relations ≠ {} then none else columns.join relations

def Statement.size : Statement → Nat
  | .insert rows _ => rows.length
  | .update _ _ _ _ | .delete _ _ => 0

section Planning
variable (gen : Nat → Generated) (db : Database)

/-- How many rows have been generated. -/
def generatedIn (past : List Statement) : Nat := past.foldl (fun n s => n + s.size) 0

/-- The rows of a bulk create, of one model each. -/
def buildRows (model : ModelName) (inherited : References) :
    Nat → List CreateRow → Option (List Row)
  | _, [] => some []
  | n, row :: rest => do
      guard (row.fields.model = model)
      let keys ← row.references.join inherited
      let built ← row.fields.build (gen n) keys
      let tail ← buildRows model inherited (n + 1) rest
      return built :: tail

/-- A create payload, with the key its parent gives it. -/
def insertion (model : ModelName) (row : CreateRow) (inherited : References)
    (nested : List Nested) (links : List Statement → Option (References × List Statement))
    (rest : Row → List Statement → Option (List Statement)) (past : List Statement) :
    Option (Row × Plan) := do
  guard (row.fields.model = model ∧ nested.all (Nested.fits model true) = true)
  let (relations, before) ← links past
  let named ← row.references.named relations
  let keys ← named.join inherited
  let built ← row.fields.build (gen (generatedIn (past ++ before))) keys
  let own := Statement.insert [built] false
  let after ← rest built (past ++ before ++ [own])
  return (built, { before, own, after })

/-- An update payload, for the row it has found. -/
def rewriting (model : ModelName) (select : Row → Bool) (found : Row) (data : UpdateManyData)
    (nested : List Nested) (links : List Statement → Option (References × List Statement))
    (rest : Row → List Statement → Option (List Statement)) (past : List Statement) :
    Option Plan := do
  guard (nested.all (Nested.fits model false) = true)
  let (relations, before) ← links past
  let keys ← data.references.named relations
  let own := Statement.update model select data.columns keys
  let after ← rest (found.write data.columns keys) (past ++ before ++ [own])
  return { before, own, after }

/-- The first row of a model that the test admits, after what has been done. -/
def findRow (model : ModelName) (select : Row → Bool) (past : List Statement) : Option Row :=
  (db.runAll past).rows.find? fun r => r.model == model && select r

theorem findRow_document (select : Row → Bool) :
    (findRow db .document select []).isSome = db.documents.any fun d => select (.document d) := by
  have other : ∀ {α : Type} (f : α → Row), (∀ a, (f a).model ≠ .document) → ∀ l : List α,
      (l.map f).any (fun r => r.model == .document && select r) = false := by
    intro α f kind l
    rw [List.any_eq_false]
    intro r hr
    obtain ⟨a, _, rfl⟩ := List.mem_map.mp hr
    simp [kind a]
  rw [findRow, List.isSome_find?, Database.runAll, List.foldl_nil, Database.rows, List.any_append,
    List.any_append, List.any_append, other Row.tenant (by simp [Row.model]), other Row.user (by simp [Row.model]),
    other Row.apiKey (by simp [Row.model]), List.any_map]
  rfl

mutual
/-- The key that a to-one relation gives the row it is nested in. -/
def Nested.link : Nested → List Statement → Option (References × List Statement)
  | .create field row nested, past =>
      if field.toMany then some ({}, [])
      else do
        let (built, plan) ← insertion gen field.target row {} nested (Nested.linkAll nested)
          (Nested.writeAll nested) past
        return (.of field.key built.id, plan.statements)
  | .connect field select, past =>
      if field.toMany then some ({}, [])
      else do
        let found ← findRow db field.target select past
        return (.of field.key found.id, [])
  | .connectOrCreate field select row nested, past =>
      if field.toMany then some ({}, [])
      else
        match findRow db field.target select past with
        | some found => some (.of field.key found.id, [])
        | none => do
            let (built, plan) ← insertion gen field.target row {} nested (Nested.linkAll nested)
              (Nested.writeAll nested) past
            return (.of field.key built.id, plan.statements)
  | .createMany _ _ _, _ | .set _ _, _ | .disconnect _ _, _ | .update _ _ _ _, _
  | .updateMany _ _ _, _ | .upsert _ _ _ _ _ _, _ | .delete _ _, _ | .deleteMany _ _, _ =>
      some ({}, [])

def Nested.linkAll : List Nested → List Statement → Option (References × List Statement)
  | [], _ => some ({}, [])
  | n :: rest, past => do
      let (k, statements) ← Nested.link n past
      let (k', statements') ← Nested.linkAll rest (past ++ statements)
      let keys ← k.join k'
      return (keys, statements ++ statements')

/-- What is written once the row is there. -/
def Nested.write : Nested → Row → List Statement → Option (List Statement)
  | .create field row nested, parent, past =>
      if field.toMany then do
        let (_, plan) ← insertion gen field.target row (.of field.key parent.id) nested
          (Nested.linkAll nested) (Nested.writeAll nested) past
        return plan.statements
      else some []
  | .createMany field rows skipDuplicates, parent, past => do
      guard (field.toMany = true)
      let built ← buildRows gen field.target (.of field.key parent.id)
        (generatedIn past) rows
      return [.insert built skipDuplicates]
  | .connect field select, parent, past =>
      if field.toMany then do
        let _ ← findRow db field.target select past
        return [.update field.target select {} (.of field.key parent.id)]
      else some []
  | .connectOrCreate field select row nested, parent, past =>
      if field.toMany then
        match findRow db field.target select past with
        | some _ => some [.update field.target select {} (.of field.key parent.id)]
        | none => do
            let (_, plan) ← insertion gen field.target row (.of field.key parent.id) nested
              (Nested.linkAll nested) (Nested.writeAll nested) past
            return plan.statements
      else some []
  | .set field selects, parent, past => do
      let chosen := fun r => selects.any fun select => select r
      guard (field.toMany = true ∧
        findRow db field.target (fun r => field.linked parent r && !chosen r) past = none)
      return [.update field.target chosen {} (.of field.key parent.id)]
  | .disconnect _ _, _, _ => none
  | .update field select data nested, parent, past => do
      let chosen := fun r => field.linked parent r && select r
      let found ← findRow db field.target chosen past
      let plan ← rewriting field.target chosen found data nested (Nested.linkAll nested)
        (Nested.writeAll nested) past
      return plan.statements
  | .updateMany field select data, parent, _ => do
      guard (field.toMany = true)
      return [.update field.target (fun r => field.linked parent r && select r) data.columns
        data.references]
  | .upsert field select row onCreate data onUpdate, parent, past =>
      let chosen := fun r => field.linked parent r && select r
      match findRow db field.target chosen past with
      | some found => do
          let plan ← rewriting field.target chosen found data onUpdate (Nested.linkAll onUpdate)
            (Nested.writeAll onUpdate) past
          return plan.statements
      | none => do
          -- a required to-one relation always leads to a row
          guard (field.toMany = true)
          let (_, plan) ← insertion gen field.target row (.of field.key parent.id) onCreate
            (Nested.linkAll onCreate) (Nested.writeAll onCreate) past
          return plan.statements
  | .delete field select, parent, past => do
      let chosen := fun r => field.linked parent r && select r
      guard (field.toMany = true)
      let _ ← findRow db field.target chosen past
      return [.delete field.target chosen]
  | .deleteMany field select, parent, _ => do
      guard (field.toMany = true)
      return [.delete field.target fun r => field.linked parent r && select r]

def Nested.writeAll : List Nested → Row → List Statement → Option (List Statement)
  | [], _, _ => some []
  | n :: rest, parent, past => do
      let statements ← Nested.write n parent past
      let statements' ← Nested.writeAll rest parent (past ++ statements)
      return statements ++ statements'
end

end Planning
end IdpSaas

import IdpSaas.Prisma.Where
import IdpSaas.Prisma.Nested
import Mathlib.Data.List.Perm.Basic
import Mathlib.Data.List.Sort

/-!
The operations of the client of one model. A read may be answered in any row order
its orderBy allows, so it has a relation of allowed answers. A write comes down to
statements: its own, with those of the relation writes nested in its payload before
and after it. They run in one transaction, so a call that the client or the database
refuses has no effect.
-/

namespace IdpSaas

/-- The arguments of a flat read; `orderBy` says which row may stand first. -/
structure ReadArgs (ρ : Type) [Model ρ] where
  whereInput : Option (Where ρ) := none
  orderBy : ρ → ρ → Bool := fun _ _ => true
  skip : Nat := 0
  take : Option Int := none

/-- The eight reads; `α` is what an aggregation computes from the rows it is given. -/
inductive Read (ρ : Type) [Model ρ] (α : Type) : Type
  | findUnique (whereInput : Where ρ)
  | findUniqueOrThrow (whereInput : Where ρ)
  | findFirst (args : ReadArgs ρ)
  | findFirstOrThrow (args : ReadArgs ρ)
  | findMany (args : ReadArgs ρ)
  | count (args : ReadArgs ρ)
  | aggregate (args : ReadArgs ρ) (select : List ρ → α)
  | groupBy (args : ReadArgs ρ) (sameGroup : ρ → ρ → Bool) (having : List ρ → Bool)
      (groupOrder : List ρ → List ρ → Bool) (select : List ρ → α)

inductive Answer (ρ α : Type) : Type
  | row (r : Option ρ)
  | notFound
  | rows (rs : List ρ)
  | number (n : Nat)
  | summary (a : α)
  | groups (as : List α)

/-- A negative `take` counts from the end. -/
def paginate {β : Type} (skip : Nat) (take : Option Int) (l : List β) : List β :=
  match take with
  | none => l.drop skip
  | some (.ofNat n) => (l.drop skip).take n
  | some (.negSucc n) => ((l.reverse.drop skip).take (n + 1)).reverse

/-- `findFirst` answers with the first row of its page, which is one row long unless
`take` says otherwise. -/
def firstOf {β : Type} (skip : Nat) (take : Option Int) (l : List β) : Option β :=
  (paginate skip (some (take.getD 1)) l).head?

def insertGroup {ρ : Type} (same : ρ → ρ → Bool) (r : ρ) : List (List ρ) → List (List ρ)
  | [] => [[r]]
  | g :: gs => if g.any (same r) then (g ++ [r]) :: gs else g :: insertGroup same r gs

def groupsOf {ρ : Type} (same : ρ → ρ → Bool) (l : List ρ) : List (List ρ) :=
  l.foldl (fun gs r => insertGroup same r gs) []

namespace Read
variable {ρ α : Type} [Model ρ]

/-- `a.where ?? {}`. -/
def whereInput : Read ρ α → Where ρ
  | .findUnique w | .findUniqueOrThrow w => w
  | .findFirst a | .findFirstOrThrow a | .findMany a | .count a | .aggregate a _
  | .groupBy a _ _ _ _ => a.whereInput.getD .empty

def mapWhere (f : Where ρ → Where ρ) : Read ρ α → Read ρ α
  | .findUnique w => .findUnique (f w)
  | .findUniqueOrThrow w => .findUniqueOrThrow (f w)
  | .findFirst a => .findFirst { a with whereInput := some (f (a.whereInput.getD .empty)) }
  | .findFirstOrThrow a =>
      .findFirstOrThrow { a with whereInput := some (f (a.whereInput.getD .empty)) }
  | .findMany a => .findMany { a with whereInput := some (f (a.whereInput.getD .empty)) }
  | .count a => .count { a with whereInput := some (f (a.whereInput.getD .empty)) }
  | .aggregate a s =>
      .aggregate { a with whereInput := some (f (a.whereInput.getD .empty)) } s
  | .groupBy a g h o s =>
      .groupBy { a with whereInput := some (f (a.whereInput.getD .empty)) } g h o s

def orderBy : Read ρ α → ρ → ρ → Bool
  | .findFirst a | .findFirstOrThrow a | .findMany a | .count a | .aggregate a _ => a.orderBy
  | .findUnique _ | .findUniqueOrThrow _ | .groupBy _ _ _ _ _ => fun _ _ => true

/-- The answer once the selected rows stand in some order. -/
def answer : Read ρ α → List ρ → Answer ρ α
  | .findUnique _, l => .row l.head?
  | .findUniqueOrThrow _, l => match l.head? with | some r => .row (some r) | none => .notFound
  | .findFirst a, l => .row (firstOf a.skip a.take l)
  | .findFirstOrThrow a, l =>
      match firstOf a.skip a.take l with | some r => .row (some r) | none => .notFound
  | .findMany a, l => .rows (paginate a.skip a.take l)
  | .count a, l => .number (paginate a.skip a.take l).length
  | .aggregate a select, l => .summary (select (paginate a.skip a.take l))
  | .groupBy a same having order select, l =>
      .groups ((paginate a.skip a.take
        (((groupsOf same l).filter having).mergeSort order)).map select)

/-- An answer the database may give: the selected rows in some order that satisfies
`orderBy`, then paginated and summarised. -/
def Answers (op : Read ρ α) (table : List ρ) (ans : Answer ρ α) : Prop :=
  ∃ l : List ρ, l.Perm (table.filter op.whereInput.holds) ∧
    l.Pairwise (fun a b => op.orderBy a b = true) ∧ ans = op.answer l

/-- The answer of a database that arranges the selected rows as given. -/
def execute (arrange : List ρ → List ρ) (op : Read ρ α) (table : List ρ) : Answer ρ α :=
  op.answer (arrange (table.filter op.whereInput.holds))

@[simp] theorem whereInput_mapWhere (f : Where ρ → Where ρ) (op : Read ρ α) :
    (op.mapWhere f).whereInput = f op.whereInput := by cases op <;> rfl

@[simp] theorem orderBy_mapWhere (f : Where ρ → Where ρ) (op : Read ρ α) :
    (op.mapWhere f).orderBy = op.orderBy := by cases op <;> rfl

@[simp] theorem answer_mapWhere (f : Where ρ → Where ρ) (op : Read ρ α) (l : List ρ) :
    (op.mapWhere f).answer l = op.answer l := by cases op <;> rfl

end Read

structure CreateData extends CreateRow where
  relations : List Nested := []

structure UpdateData extends UpdateManyData where
  relations : List Nested := []

inductive CreateManyData
  | one (row : CreateRow)
  | many (rows : List CreateRow)

def CreateManyData.toRows : CreateManyData → List CreateRow
  | .one row => [row]
  | .many rows => rows

inductive Write (ρ : Type) [Model ρ]
  | create (data : CreateData)
  | createMany (data : CreateManyData) (skipDuplicates : Bool)
  | createManyAndReturn (data : CreateManyData) (skipDuplicates : Bool)
  | update (whereInput : Where ρ) (data : UpdateData)
  | updateMany (whereInput : Option (Where ρ)) (data : UpdateManyData)
  | upsert (whereInput : Where ρ) (create : CreateData) (update : UpdateData)
  | delete (whereInput : Where ρ)
  | deleteMany (whereInput : Option (Where ρ))

section Execution
variable {ρ : Type} [Model ρ]

/-- The rows of all tables that a where clause of the model selects. -/
def Where.selects (w : Where ρ) (r : Row) : Bool := (Model.ofRow r).any w.holds

def CreateData.plan (gen : Nat → Generated) (db : Database) (model : ModelName)
    (data : CreateData) : Option Plan :=
  (insertion gen model data.toCreateRow {} data.relations (Nested.linkAll gen db data.relations)
    (Nested.writeAll gen db data.relations) []).map Prod.snd

def UpdateData.plan (gen : Nat → Generated) (db : Database) (model : ModelName)
    (select : Row → Bool) (found : Row) (data : UpdateData) : Option Plan :=
  rewriting model select found data.toUpdateManyData data.relations
    (Nested.linkAll gen db data.relations) (Nested.writeAll gen db data.relations) []

/-- What the client makes of its arguments; `none` when it refuses them. The where of
`update`, `upsert` and `delete` names a unique row, and none of them but `upsert` may
miss it. -/
def Write.plan (gen : Nat → Generated) (db : Database) : Write ρ → Option Plan
  | .create data => data.plan gen db (Model.name ρ)
  | .createMany data skipDuplicates | .createManyAndReturn data skipDuplicates =>
      (buildRows gen (Model.name ρ) {} 0 data.toRows).map fun rows =>
        { own := .insert rows skipDuplicates }
  | .update w data =>
      (findRow db (Model.name ρ) w.selects []).bind fun found =>
        data.plan gen db (Model.name ρ) w.selects found
  | .updateMany w data =>
      some { own := .update (Model.name ρ) (w.getD .empty).selects data.columns data.references }
  | .upsert w onCreate onUpdate =>
      match findRow db (Model.name ρ) w.selects [] with
      | some found => onUpdate.plan gen db (Model.name ρ) w.selects found
      | none => onCreate.plan gen db (Model.name ρ)
  | .delete w =>
      (findRow db (Model.name ρ) w.selects []).map fun _ =>
        { own := .delete (Model.name ρ) w.selects }
  | .deleteMany w => some { own := .delete (Model.name ρ) (w.getD .empty).selects }

/-- The database after a call that is carried out. -/
def Write.run (gen : Nat → Generated) (db : Database) (op : Write ρ) : Option Database :=
  (op.plan gen db).map fun plan => db.runAll plan.statements

/-- The databases that a call goes through. Besides the client, `accepts` decides about
it: the validation of the values and the constraints of the database. -/
def Write.stages (accepts : Write ρ → Database → Bool) (gen : Nat → Generated) (db : Database)
    (op : Write ρ) : List Database :=
  match op.plan gen db with
  | some plan => if accepts op db then db.stages plan.statements else [db]
  | none => [db]

end Execution
end IdpSaas

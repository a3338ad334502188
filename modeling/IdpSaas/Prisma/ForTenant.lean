import IdpSaas.Prisma.Operations

/-!
`PrismaService.forTenant`: the client extension that rewrites the arguments of
every operation before it is executed. The branches follow the lists of operation
names in the source; an operation that no list names is passed on as it came.
-/

namespace IdpSaas

/-- What `forTenant` returns: a client bound to one tenant. -/
structure TenantScope where
  tenantId : String
  nonempty : tenantId ≠ ""

def forTenant (tenantId : String) : Except String TenantScope :=
  if h : tenantId = "" then .error "forTenant() requires a non-empty tenantId"
  else .ok ⟨tenantId, h⟩

theorem forTenant_eq_ok {tenantId : String} {scope : TenantScope} :
    forTenant tenantId = .ok scope ↔ scope.tenantId = tenantId := by
  unfold forTenant
  split
  · rename_i h
    simp only [reduceCtorEq, false_iff]
    rw [h]
    exact scope.nonempty
  · obtain ⟨t, ht⟩ := scope
    simp [eq_comm]

variable {ρ α : Type} [Model ρ]

/-- Read operations get `tenantId` put into the where clause. -/
def scopeRead (tenantId : String) (op : Read ρ α) : Read ρ α :=
  op.mapWhere (Where.withTenantId tenantId)

/-- `{ ...data, tenantId }`. -/
def CreateRow.withTenantId (tenantId : String) (row : CreateRow) : CreateRow :=
  { row with references := { row.references with tenantId := some tenantId } }

def CreateData.withTenantId (tenantId : String) (data : CreateData) : CreateData :=
  { data with toCreateRow := data.toCreateRow.withTenantId tenantId }

def CreateManyData.withTenantId (tenantId : String) (data : CreateManyData) : CreateManyData :=
  .many (data.toRows.map (CreateRow.withTenantId tenantId))

/-- `delete data.tenantId`. -/
def UpdateManyData.withoutTenantId (data : UpdateManyData) : UpdateManyData :=
  { data with references := { data.references with tenantId := none } }

/-- Writes: `createManyAndReturn` is in none of the lists, and of an upsert only
`where` and `create` are rewritten. -/
def scopeWrite (tenantId : String) : Write ρ → Write ρ
  | .create data => .create (data.withTenantId tenantId)
  | .upsert w onCreate onUpdate =>
      .upsert (w.withTenantId tenantId) (onCreate.withTenantId tenantId) onUpdate
  | .createMany data skipDuplicates => .createMany (data.withTenantId tenantId) skipDuplicates
  | .update w data =>
      .update (w.withTenantId tenantId)
        { data with toUpdateManyData := data.toUpdateManyData.withoutTenantId }
  | .updateMany w data =>
      .updateMany (some ((w.getD .empty).withTenantId tenantId)) data.withoutTenantId
  | .delete w => .delete (w.withTenantId tenantId)
  | .deleteMany w => .deleteMany (some ((w.getD .empty).withTenantId tenantId))
  | .createManyAndReturn data skipDuplicates => .createManyAndReturn data skipDuplicates

/-- `$allOperations`: models without a tenantId column are left alone. -/
def TenantScope.read (scope : TenantScope) (op : Read ρ α) : Read ρ α :=
  if Model.name ρ ∈ tenantScopedModels then scopeRead scope.tenantId op else op

def TenantScope.write (scope : TenantScope) (op : Write ρ) : Write ρ :=
  if Model.name ρ ∈ tenantScopedModels then scopeWrite scope.tenantId op else op

@[simp] theorem TenantScope.read_eq (scope : TenantScope) (op : Read ρ α) :
    scope.read op = scopeRead scope.tenantId op := if_pos Model.listed

@[simp] theorem TenantScope.write_eq (scope : TenantScope) (op : Write ρ) :
    scope.write op = scopeWrite scope.tenantId op := if_pos Model.listed

end IdpSaas

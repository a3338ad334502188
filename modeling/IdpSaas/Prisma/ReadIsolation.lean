import IdpSaas.Prisma.ForTenant

/-!
Reads through a scoped client are reads of the tenant's own rows. The injected
key is a conjunct of the outermost object, so it commutes with every nested
filter, selector, order and page.
-/

namespace IdpSaas
open Owned

variable {ρ α : Type} [Model ρ]

theorem scopeRead_answers_iff (t : String) (op : Read ρ α) (table : List ρ)
    (ans : Answer ρ α) :
    (scopeRead t op).Answers table ans ↔
      (op.mapWhere Where.dropTenantId).Answers (ownedBy Model.tenantId t table) ans := by
  simp only [Read.Answers, scopeRead, Read.whereInput_mapWhere, Read.orderBy_mapWhere,
    Read.answer_mapWhere, Where.filter_withTenantId]

/-- Only the set of the tenant's rows matters, not where they stand in the table. -/
theorem answers_of_perm (op : Read ρ α) {table table' : List ρ} (h : table.Perm table')
    (ans : Answer ρ α) : op.Answers table ans ↔ op.Answers table' ans := by
  have same : (table.filter op.whereInput.holds).Perm (table'.filter op.whereInput.holds) :=
    h.filter _
  constructor
  · rintro ⟨l, hl, sorted, rfl⟩
    exact ⟨l, hl.trans same, sorted, rfl⟩
  · rintro ⟨l, hl, sorted, rfl⟩
    exact ⟨l, hl.trans same.symm, sorted, rfl⟩

/-- A scoped read has exactly the answers of the plain read, without the caller's own
`tenantId` key, on the sub-database of the tenant's rows; so databases that agree
there answer alike. -/
theorem forTenant_read_isolated (scope : TenantScope) (op : Read ρ α) (db : Database)
    (ans : Answer ρ α) :
    ((scope.read op).Answers (Model.rows db) ans ↔
      (op.mapWhere Where.dropTenantId).Answers (Model.rows (db.only scope.tenantId)) ans) ∧
    ∀ db' : Database,
      (Model.rows (db.only scope.tenantId) : List ρ).Perm
        (Model.rows (db'.only scope.tenantId)) →
      ((scope.read op).Answers (Model.rows db) ans ↔
        (scope.read op).Answers (Model.rows db') ans) := by
  rw [TenantScope.read_eq, Model.rows_only]
  refine ⟨scopeRead_answers_iff scope.tenantId op _ ans, ?_⟩
  intro db' agree
  rw [scopeRead_answers_iff, scopeRead_answers_iff]
  rw [Model.rows_only] at agree
  exact answers_of_perm _ agree ans

end IdpSaas

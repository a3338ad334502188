import IdpSaas.Prisma.ForTenant
import IdpSaas.Prisma.StatementIsolation

/-!
Writes through a scoped client. The rows of a create or a bulk create and every where
clause are confined to the tenant. Left open are the rows of `createManyAndReturn`, the
tenant that the payload of an update or upsert hands the row to, ids that other
tenants' rows refer to, and everything nested in a payload. The main theorem says
exactly which calls stay inside the tenant.
-/

namespace IdpSaas
open Owned

variable {ρ : Type} [Model ρ]

namespace Statement
variable {t : String} {db : Database}

end Statement

/-- The primary, unique and foreign keys of the schema hold. -/
def Database.consistent (db : Database) : Bool :=
  (withoutDuplicates [] db.rows).length == db.rows.length &&
    db.rows.all fun r => [ModelName.tenant, .user].all fun m =>
      (r.reference m).all fun id => db.rows.any fun q => q.model == m && q.id == id

namespace Escapes

def acme : TenantScope := ⟨"acme", by decide⟩

def clock (n : Nat) : Generated := ⟨String.ofList ('n' :: List.replicate n 'x'), n⟩

/-- A database refuses what would break its keys. -/
def accepts {ρ : Type} [Model ρ] (op : Write ρ) (db : Database) : Bool :=
  (op.run clock db).any Database.consistent

def ann : User := User.build (clock 0) { id := some "ann", email := "a@x", passwordHash := "h" } "acme"

def scan : Document.PlainFields :=
  { originalName := "invoice.png", storagePath := "acme/x.png", mimeType := "image/png",
    sizeBytes := 3 }

def scanned (id tenantId : String) : Document :=
  Document.build (clock 0) { scan with id := some id, uploadedById := "ann" } tenantId

/-- A document of each of two tenants, both uploaded by a user of the first. -/
def invoices : Database :=
  ⟨[⟨"acme", "Acme", "acme", .active, 0, 0⟩, ⟨"globex", "Globex", "globex", .active, 0, 0⟩],
    [ann], [], [scanned "a" "acme", scanned "g" "globex"]⟩

def owner : Where User := .column User.Column.id fun x : String => some (x == "ann")

def retried : UpdateData where
  columns := { document := [⟨.retryCount, fun n : Nat => n + 1⟩] }
  references := { tenantId := some "globex" }

/-- The states of the invoices in a write of tenant `acme`. -/
def stages {ρ : Type} [Model ρ] (w : Write ρ) : List Database :=
  (acme.write w).stages accepts clock invoices

end Escapes

end IdpSaas

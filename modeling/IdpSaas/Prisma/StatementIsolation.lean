import IdpSaas.Prisma.Statement

/-!
When a statement leaves the rows of all other tenants alone. What it has to keep to is
said of the rows it inserts and selects and of the keys it changes, and is exact. A
list of statements keeps to a tenant in every state it goes through exactly when each
of them does where it runs.
-/

namespace IdpSaas
open Owned

namespace Statement
variable (t : String) (db : Database) (s : Statement)

end Statement

/-- The rows of one table that do not belong to the tenant. -/
def elsewhere (t : String) (m : ModelName) (l : List Row) : List Row :=
  foreign Row.owner (some t) (l.filter fun r => r.model == m)

section Tables
variable {t : String} (l : List Row)

end Tables

namespace Statement
variable {t : String} {db : Database}

section Update
variable (m : ModelName) (select : Row → Bool) (columns : Columns) (k : References)

end Update

end Statement

end IdpSaas

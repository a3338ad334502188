import IdpSaas.Prisma.Model
import IdpSaas.Lib.Ternary

/-!
The where argument. An object of conditions is a conjunction of its keys:
conditions on columns, a compound unique selector, and AND/OR/NOT over nested
objects to any depth. A condition on a column is the three-valued test it stands
for. `tenantId` is a field of its own, so that spreading an object and overriding
that key is a record update.
-/

namespace IdpSaas
open Ternary

inductive Where (ρ : Type) [Model ρ] : Type
  | mk (tenantId : Option (String → Option Bool)) (key : Option (Model.Key ρ))
      (columns : List ((c : Model.Column ρ) × (Model.type c → Option Bool)))
      (AND OR NOT : Option (List (Where ρ)))

/-- The filter an object or one of its keys is turned into, at some row. The empty
filter is `none`. -/
abbrev Filter : Type := Option (Option Bool)

namespace Filter

/-- The empty filter leaves no condition. -/
def value (f : Filter) : Option Bool := f.getD (some true)

/-- The conjunction of an object's keys. An object without keys is the empty filter
and one with a single key is the filter of that key. -/
def object : List Filter → Filter
  | [] => none
  | [f] => f
  | fs => some (all3 (fs.map value))

/-- AND, OR or NOT over the filters of its objects, which loses the empty ones. When
none is left, a nested group is itself the empty filter. -/
def group (depth : Nat) (combine : List (Option Bool) → Option Bool) (fs : List Filter) :
    Filter :=
  match depth, fs.filterMap id with
  | _ + 1, [] => none
  | _, kept => some (combine kept)

theorem value_object (fs : List Filter) : (object fs).value = all3 (fs.map value) := by
  match fs with
  | [] => rfl
  | [f] => exact (and3_true_right f.value).symm
  | _ :: _ :: _ => rfl

end Filter

namespace Where
variable {ρ : Type} [Model ρ]

/-- The empty object `{}`. -/
def empty : Where ρ := .mk none none [] none none none

/-- An object with a condition on one column. -/
def column (c : Model.Column ρ) (test : Model.type c → Option Bool) : Where ρ :=
  .mk none none [⟨c, test⟩] none none none

mutual
/-- All keys of the object. At the top an empty OR selects nothing, an empty AND or
NOT everything. -/
def filter : Where ρ → Nat → ρ → Filter
  | .mk tenantId key columns AND OR NOT, depth, r =>
      .object ((tenantId.map fun test => some (test (Model.tenantId r))).toList ++
        (key.map fun k => some (some (Model.hasKey r k))).toList ++
        columns.map (fun c => some (c.2 (Model.get r c.1))) ++
        filterGroup AND depth all3 r ++ filterGroup OR depth any3 r ++
        filterGroup NOT depth (fun fs => all3 (fs.map not3)) r)

def filterGroup : Option (List (Where ρ)) → Nat → (List (Option Bool) → Option Bool) → ρ →
    List Filter
  | none, _, _, _ => []
  | some ws, depth, combine, r => [.group depth combine (filters ws (depth + 1) r)]

def filters : List (Where ρ) → Nat → ρ → List Filter
  | [], _, _ => []
  | w :: ws, depth, r => filter w depth r :: filters ws depth r
end

/-- A row is selected when its condition is TRUE, not when it is UNKNOWN. -/
def holds (w : Where ρ) (r : ρ) : Bool := (filter w 0 r).value == some true

/-- `{ ...where, tenantId }`. -/
def withTenantId (t : String) : Where ρ → Where ρ
  | .mk _ key columns AND OR NOT => .mk (some fun x => some (x == t)) key columns AND OR NOT

/-- The object without its own top-level `tenantId` key. -/
def dropTenantId : Where ρ → Where ρ
  | .mk _ key columns AND OR NOT => .mk none key columns AND OR NOT

/-- An object with a condition on one column that is never unknown. -/
theorem holds_column (c : Model.Column ρ) (test : Model.type c → Bool) (r : ρ) :
    holds (column c fun x => some (test x)) r = test (Model.get r c) := by
  change (Filter.value (.object [some (some (test (Model.get r c)))]) == some true) = _
  rw [Filter.value_object]
  cases test (Model.get r c) <;> rfl

/-- The injected key is one more conjunct at the top; nothing nested changes. -/
theorem holds_withTenantId (t : String) (w : Where ρ) (r : ρ) :
    holds (withTenantId t w) r = (Model.tenantId r == t && holds (dropTenantId w) r) := by
  obtain ⟨x, key, columns, AND, OR, NOT⟩ := w
  simp only [holds, withTenantId, dropTenantId, filter, Filter.value_object, Option.map_some,
    Option.map_none, Option.toList_some, Option.toList_none, List.cons_append, List.nil_append,
    List.map_cons, all3_cons]
  rw [Bool.eq_iff_iff, beq_iff_eq, and3_eq_true]
  simp [Filter.value]

theorem withTenantId_owner {t : String} {w : Where ρ} {r : ρ}
    (h : holds (withTenantId t w) r = true) : Model.tenantId r = t := by
  rw [holds_withTenantId, Bool.and_eq_true, beq_iff_eq] at h
  exact h.1

/-- Filtering with the injected key is filtering the tenant's own rows. -/
theorem filter_withTenantId (t : String) (w : Where ρ) (l : List ρ) :
    l.filter (withTenantId t w).holds =
      (Owned.ownedBy Model.tenantId t l).filter (dropTenantId w).holds := by
  rw [Owned.ownedBy, List.filter_filter]
  apply List.filter_congr
  intro r _
  rw [holds_withTenantId, Bool.and_comm]
  rfl

end Where
end IdpSaas

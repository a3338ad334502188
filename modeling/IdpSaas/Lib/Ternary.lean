/-!
Three-valued logic of SQL conditions: `some true`, `some false` and `none` for
UNKNOWN, which is what a comparison with NULL yields.
-/

namespace Ternary

def and3 : Option Bool → Option Bool → Option Bool
  | some false, _ | _, some false => some false
  | some true, some true => some true
  | _, _ => none

def or3 : Option Bool → Option Bool → Option Bool
  | some true, _ | _, some true => some true
  | some false, some false => some false
  | _, _ => none

def not3 : Option Bool → Option Bool
  | some b => some !b
  | none => none

/-- A conjunction selects a row exactly when both sides do. -/
theorem and3_eq_true {a b : Option Bool} :
    and3 a b = some true ↔ a = some true ∧ b = some true := by
  rcases a with _ | _ | _ <;> rcases b with _ | _ | _ <;> simp [and3]

@[simp] theorem and3_true_left (a : Option Bool) : and3 (some true) a = a := by
  rcases a with _ | _ | _ <;> rfl

@[simp] theorem and3_true_right (a : Option Bool) : and3 a (some true) = a := by
  rcases a with _ | _ | _ <;> rfl

def all3 (as : List (Option Bool)) : Option Bool := as.foldr and3 (some true)

def any3 (as : List (Option Bool)) : Option Bool := as.foldr or3 (some false)

@[simp] theorem all3_cons (a : Option Bool) (as : List (Option Bool)) :
    all3 (a :: as) = and3 a (all3 as) := rfl

end Ternary

import Mathlib.Data.List.Basic
import Mathlib.Data.List.Nodup

/-!
Tables shared by several owners. Every row says who owns it; the part of a
table that belongs to one owner, and the part that does not, are filters of it.
Updates are keyed: they rewrite the rows a test selects. The lemmas say how such
reads and updates commute with cutting a table down to one owner.
-/

namespace Owned

universe u v w
variable {α : Type u} {τ : Type v}

/-- Rewrite the rows that pass the test, in place. -/
def modify (p : α → Bool) (f : α → α) (l : List α) : List α :=
  l.map fun a => if p a then f a else a

@[simp] theorem modify_nil (p : α → Bool) (f : α → α) : modify p f [] = [] := rfl

@[simp] theorem modify_cons (p : α → Bool) (f : α → α) (a : α) (l : List α) :
    modify p f (a :: l) = (if p a then f a else a) :: modify p f l := rfl

theorem modify_append (p : α → Bool) (f : α → α) (l m : List α) :
    modify p f (l ++ m) = modify p f l ++ modify p f m := List.map_append

theorem mem_modify {p : α → Bool} {f : α → α} {l : List α} {b : α} :
    b ∈ modify p f l ↔ ∃ a ∈ l, (if p a then f a else a) = b := List.mem_map

theorem modify_eq_self {p : α → Bool} {f : α → α} {l : List α}
    (h : ∀ a ∈ l, p a = false) : modify p f l = l := by
  induction l with
  | nil => rfl
  | cons a l ih =>
      rw [modify_cons, h a (by simp), ih fun b hb => h b (by simp [hb])]
      rfl

theorem map_modify {β : Type w} (g : α → β) {p : α → Bool} {f : α → α} (l : List α)
    (h : ∀ a, p a = true → g (f a) = g a) : (modify p f l).map g = l.map g := by
  simp only [modify, List.map_map]
  apply List.map_congr_left
  intro a _
  by_cases hp : p a = true
  · simp [hp, h a hp]
  · simp [hp]

/-- A test that only one row of the table passes finds it. -/
theorem find?_of_unique {p : α → Bool} {l : List α} {a : α} (mem : a ∈ l) (passes : p a = true)
    (unique : ∀ b ∈ l, p b = true → b = a) : l.find? p = some a := by
  cases found : l.find? p with
  | none => exact absurd passes (List.find?_eq_none.mp found a mem)
  | some b => rw [unique b (List.mem_of_find?_eq_some found) (List.find?_some found)]

/-- A key that tells rows apart finds each of them. -/
theorem find?_unique {β : Type w} [DecidableEq β] (key : α → β) {l : List α}
    (nodup : (l.map key).Nodup) {a : α} (mem : a ∈ l) :
    (l.find? fun b => key b == key a) = some a := by
  refine find?_of_unique mem (beq_self_eq_true _) fun b hb same => ?_
  exact List.inj_on_of_nodup_map nodup hb mem (beq_iff_eq.mp same)

section Owners
variable [DecidableEq τ] (owner : α → τ)

def ownedBy (t : τ) (l : List α) : List α := l.filter fun a => owner a = t

/-- What the table holds for everybody but `t`. -/
def foreign (t : τ) (l : List α) : List α := l.filter fun a => owner a ≠ t

variable {owner}

@[simp] theorem mem_ownedBy {t : τ} {l : List α} {a : α} :
    a ∈ ownedBy owner t l ↔ a ∈ l ∧ owner a = t := by simp [ownedBy]

theorem ownedBy_append (t : τ) (l m : List α) :
    ownedBy owner t (l ++ m) = ownedBy owner t l ++ ownedBy owner t m :=
  List.filter_append l m

theorem ownedBy_singleton_own {t : τ} {a : α} (h : owner a = t) :
    ownedBy owner t [a] = [a] := by simp [ownedBy, h]

theorem ownedBy_singleton_other {t : τ} {a : α} (h : owner a ≠ t) :
    ownedBy owner t [a] = [] := by simp [ownedBy, h]

theorem ownedBy_concat_own {t : τ} {a : α} (h : owner a = t) (l : List α) :
    ownedBy owner t (l ++ [a]) = ownedBy owner t l ++ [a] := by
  rw [ownedBy_append, ownedBy_singleton_own h]

theorem ownedBy_concat_other {t : τ} {a : α} (h : owner a ≠ t) (l : List α) :
    ownedBy owner t (l ++ [a]) = ownedBy owner t l := by
  rw [ownedBy_append, ownedBy_singleton_other h, List.append_nil]

theorem ownedBy_append_own {t : τ} {m : List α} (h : ∀ a ∈ m, owner a = t) (l : List α) :
    ownedBy owner t (l ++ m) = ownedBy owner t l ++ m := by
  have all : ownedBy owner t m = m :=
    List.filter_eq_self.mpr fun a ha => decide_eq_true (h a ha)
  rw [ownedBy_append, all]

theorem ownedBy_append_other {t : τ} {m : List α} (h : ∀ a ∈ m, owner a ≠ t) (l : List α) :
    ownedBy owner t (l ++ m) = ownedBy owner t l := by
  have none : ownedBy owner t m = [] :=
    List.filter_eq_nil_iff.mpr fun a ha same => h a ha (of_decide_eq_true same)
  rw [ownedBy_append, none, List.append_nil]

/-- A test that only `t`'s rows can pass selects the same rows of `t`'s part. -/
theorem filter_ownedBy {t : τ} {p : α → Bool} (hp : ∀ a, p a = true → owner a = t)
    (l : List α) : (ownedBy owner t l).filter p = l.filter p := by
  rw [ownedBy, List.filter_filter]
  apply List.filter_congr
  intro a _
  cases h : p a with
  | false => simp
  | true => simp [hp a h]

theorem find?_ownedBy {t : τ} {p : α → Bool} (hp : ∀ a, p a = true → owner a = t)
    (l : List α) : (ownedBy owner t l).find? p = l.find? p := by
  rw [← List.head?_filter, filter_ownedBy hp, List.head?_filter]

theorem any_ownedBy {t : τ} {p : α → Bool} (hp : ∀ a, p a = true → owner a = t)
    (l : List α) : (ownedBy owner t l).any p = l.any p := by
  induction l with
  | nil => rfl
  | cons a l ih =>
      by_cases ha : owner a = t
      · simpa [ownedBy, ha] using congrArg (p a || ·) ih
      · have hf : p a = false := by
          cases h : p a with
          | false => rfl
          | true => exact absurd (hp a h) ha
        simpa [ownedBy, ha, hf] using ih

theorem ownedBy_modify_own {t : τ} {p : α → Bool} {f : α → α}
    (hf : ∀ a, p a = true → owner (f a) = owner a) (l : List α) :
    ownedBy owner t (modify p f l) = modify p f (ownedBy owner t l) := by
  induction l with
  | nil => rfl
  | cons a l ih =>
      have keep : owner (if p a then f a else a) = owner a := by
        split
        · exact hf a ‹_›
        · rfl
      rw [modify_cons, ownedBy, ownedBy, List.filter_cons, List.filter_cons, keep]
      by_cases ha : owner a = t
      · simp only [ha, decide_true, if_true, modify_cons]
        exact congrArg _ ih
      · simp only [ha, decide_false, Bool.false_eq_true, if_false]
        exact ih

theorem ownedBy_modify_other {t : τ} {p : α → Bool} {f : α → α}
    (hf : ∀ a, p a = true → owner (f a) = owner a)
    (hp : ∀ a, p a = true → owner a ≠ t) (l : List α) :
    ownedBy owner t (modify p f l) = ownedBy owner t l := by
  rw [ownedBy_modify_own hf]
  apply modify_eq_self
  intro a ha
  cases h : p a with
  | false => rfl
  | true => exact absurd (mem_ownedBy.mp ha).2 (hp a h)

theorem foreign_cons_own {t : τ} {a : α} (h : owner a = t) (l : List α) :
    foreign owner t (a :: l) = foreign owner t l := by simp [foreign, h]

theorem foreign_cons_other {t : τ} {a : α} (h : owner a ≠ t) (l : List α) :
    foreign owner t (a :: l) = a :: foreign owner t l := by simp [foreign, h]

end Owners
end Owned

import IdpSaas.Lib.Owned
import Mathlib.Data.List.Nodup

/-!
Tables of records addressed by an owner and a key, at most one record to an address.
A record is inserted at a free address and replaced at its own. The lemmas say what
is in a table after such a change, how many records pass a test, and what one owner
sees of it.
-/

namespace Owned

universe u v
variable {α : Type u} {τ : Type v}

class Addressed (α : Type u) (τ : outParam (Type v)) where
  owner : α → τ
  key : α → Nat

section Address
variable [Addressed α τ]

def address (a : α) : τ × Nat := (Addressed.owner a, Addressed.key a)

theorem address_eq {a : α} {t : τ} {k : Nat} :
    address a = (t, k) ↔ Addressed.owner a = t ∧ Addressed.key a = k := Prod.mk.injEq .. ▸ Iff.rfl

end Address

structure Table (α : Type u) {τ : Type v} [Addressed α τ] where
  entries : List α
  nodup : (entries.map address).Nodup

namespace Table
variable [Addressed α τ]

instance : Membership α (Table α) := ⟨fun T a => a ∈ T.entries⟩

theorem mem_entries {T : Table α} {a : α} : a ∈ T.entries ↔ a ∈ T := Iff.rfl

@[ext] theorem ext {T U : Table α} (h : T.entries = U.entries) : T = U := by
  cases T
  cases U
  cases h
  rfl

def empty : Table α := ⟨[], List.nodup_nil⟩

theorem not_mem_empty (a : α) : a ∉ (empty : Table α) := List.not_mem_nil

/-- An address names at most one record. -/
theorem unique (T : Table α) {a b : α} (ha : a ∈ T) (hb : b ∈ T) (h : address a = address b) :
    a = b := List.inj_on_of_nodup_map T.nodup ha hb h

def count (p : α → Bool) (T : Table α) : Nat := T.entries.countP p

theorem exists_bound (l : List α) : ∃ n, ∀ a ∈ l, Addressed.key a < n := by
  induction l with
  | nil => exact ⟨0, fun a ha => absurd ha List.not_mem_nil⟩
  | cons a l ih =>
      obtain ⟨n, below⟩ := ih
      refine ⟨max n (Addressed.key a + 1), List.forall_mem_cons.mpr ⟨by omega, fun b hb => ?_⟩⟩
      have := below b hb
      omega

variable [DecidableEq τ]

def find? (T : Table α) (t : τ) (k : Nat) : Option α :=
  T.entries.find? fun a => decide (address a = (t, k))

def insert (T : Table α) (a : α) : Table α :=
  if h : address a ∈ T.entries.map address then T
  else ⟨T.entries ++ [a], by
    rw [List.map_append, List.map_singleton]
    exact List.nodup_append_comm.mp (List.nodup_cons.mpr ⟨h, T.nodup⟩)⟩

def put (T : Table α) (a : α) : Table α :=
  ⟨modify (fun b => decide (address b = address a)) (fun _ => a) T.entries, by
    rw [map_modify address _ fun b hb => (of_decide_eq_true hb).symm]
    exact T.nodup⟩

/-- The records of one owner. -/
def only (t : τ) (T : Table α) : Table α :=
  ⟨ownedBy Addressed.owner t T.entries, T.nodup.sublist (List.filter_sublist.map address)⟩

theorem find?_eq_some {T : Table α} {t : τ} {k : Nat} {a : α} :
    T.find? t k = some a ↔ a ∈ T ∧ address a = (t, k) := by
  have found : ∀ b, T.find? t k = some b → b ∈ T ∧ address b = (t, k) := by
    intro b hb
    rw [find?] at hb
    have passed := List.find?_some hb
    exact ⟨List.mem_of_find?_eq_some hb, of_decide_eq_true passed⟩
  constructor
  · exact found a
  · intro h
    cases hb : T.find? t k with
    | none =>
        rw [find?, List.find?_eq_none] at hb
        exact absurd (decide_eq_true h.2) (hb a h.1)
    | some b =>
        have at_b := found b hb
        rw [T.unique at_b.1 h.1 (at_b.2.trans h.2.symm)]

theorem find?_eq_none {T : Table α} {t : τ} {k : Nat} :
    T.find? t k = none ↔ ∀ a ∈ T, address a ≠ (t, k) := by
  rw [find?, List.find?_eq_none]
  simp [mem_entries]

/-- There is always an address that no record has. -/
theorem exists_free (T : Table α) (t : τ) : ∃ k, T.find? t k = none := by
  obtain ⟨n, below⟩ := exists_bound T.entries
  refine ⟨n, find?_eq_none.mpr fun a ha same => ?_⟩
  exact absurd (address_eq.mp same).2 (Nat.ne_of_lt (below a ha))

theorem only_entries (t : τ) (T : Table α) :
    (T.only t).entries = ownedBy Addressed.owner t T.entries := rfl

theorem find?_only (T : Table α) (t : τ) (k : Nat) : (T.only t).find? t k = T.find? t k := by
  apply find?_ownedBy
  intro a h
  exact (address_eq.mp (of_decide_eq_true h)).1

/-- What an owner looks up, he finds in his part of the table as well. -/
theorem lookup_only (T : Table α) (t : τ) (k : Nat) :
    (T.find? t k = none ∧ (T.only t).find? t k = none) ∨
      ∃ a, T.find? t k = some a ∧ (T.only t).find? t k = some a ∧ Addressed.owner a = t := by
  rw [find?_only]
  cases found : T.find? t k with
  | none => exact Or.inl ⟨rfl, rfl⟩
  | some a => exact Or.inr ⟨a, rfl, rfl, (address_eq.mp (find?_eq_some.mp found).2).1⟩

theorem insert_free {T : Table α} {a : α}
    (free : T.find? (Addressed.owner a) (Addressed.key a) = none) :
    (T.insert a).entries = T.entries ++ [a] := by
  have h : address a ∉ T.entries.map address := by
    intro taken
    obtain ⟨b, hb, same⟩ := List.mem_map.mp taken
    exact find?_eq_none.mp free b hb same
  rw [insert, dif_neg h]

theorem of_mem_insert {T : Table α} {a b : α} (h : b ∈ T.insert a) : b ∈ T ∨ b = a := by
  rw [← mem_entries, insert] at h
  split at h
  · exact Or.inl h
  · simpa [mem_entries] using h

theorem mem_insert_of_mem {T : Table α} {a b : α} (h : b ∈ T) : b ∈ T.insert a := by
  rw [← mem_entries, insert]
  split
  · exact h
  · exact List.mem_append_left _ h

/-- What holds of all records and of a new one holds of all records afterwards. -/
theorem forall_insert {P : α → Prop} {T : Table α} {a : α} (old : ∀ b ∈ T, P b) (new : P a) :
    ∀ b ∈ T.insert a, P b := by
  intro b hb
  cases of_mem_insert hb with
  | inl there => exact old b there
  | inr here => exact here ▸ new

theorem count_insert (p : α → Bool) {T : Table α} {a : α}
    (free : T.find? (Addressed.owner a) (Addressed.key a) = none) :
    (T.insert a).count p = T.count p + (if p a then 1 else 0) := by
  rw [count, insert_free free, List.countP_append, List.countP_singleton]
  rfl

theorem put_entries (T : Table α) (a : α) :
    (T.put a).entries = modify (fun b => decide (address b = address a)) (fun _ => a) T.entries :=
  rfl

theorem of_mem_put {T : Table α} {a b : α} (h : b ∈ T.put a) :
    b = a ∨ (b ∈ T ∧ address b ≠ address a) := by
  rw [← mem_entries, put, mem_modify] at h
  obtain ⟨c, hc, rfl⟩ := h
  by_cases hac : address c = address a
  · exact Or.inl (if_pos (decide_eq_true hac))
  · rw [if_neg (by simpa using hac)]
    exact Or.inr ⟨hc, hac⟩

theorem forall_put {P : α → Prop} {T : Table α} {a : α} (old : ∀ b ∈ T, P b) (new : P a) :
    ∀ b ∈ T.put a, P b := by
  intro b hb
  cases of_mem_put hb with
  | inl here => exact here ▸ new
  | inr there => exact old b there.1

/-- Replacing a record replaces the one at its address and no other. -/
theorem mem_put {T : Table α} {old a b : α} (h : old ∈ T) (same : address old = address a) :
    b ∈ T.put a ↔ b = a ∨ (b ∈ T ∧ address b ≠ address a) := by
  refine ⟨of_mem_put, ?_⟩
  intro hb
  rw [← mem_entries, put, mem_modify]
  cases hb with
  | inl hb => exact ⟨old, h, by rw [if_pos (decide_eq_true same), hb]⟩
  | inr hb => exact ⟨b, hb.1, if_neg (by simpa using hb.2)⟩

theorem mem_put_self {T : Table α} {old a : α} (h : old ∈ T) (same : address old = address a) :
    a ∈ T.put a := (mem_put h same).mpr (Or.inl rfl)

/-- A property of some record survives when the replacement inherits it. -/
theorem exists_put {P : α → Prop} {T : Table α} {old a : α} (h : old ∈ T)
    (same : address old = address a) (inherits : P old → P a) (some : ∃ b ∈ T, P b) :
    ∃ b ∈ T.put a, P b := by
  obtain ⟨b, hb, holds⟩ := some
  by_cases here : address b = address a
  · have replaced : b = old := T.unique hb h (here.trans same.symm)
    exact ⟨a, mem_put_self h same, inherits (replaced ▸ holds)⟩
  · exact ⟨b, (mem_put h same).mpr (Or.inr ⟨hb, here⟩), holds⟩

theorem find?_insert_self {T : Table α} {a : α}
    (free : T.find? (Addressed.owner a) (Addressed.key a) = none) :
    (T.insert a).find? (Addressed.owner a) (Addressed.key a) = some a := by
  refine find?_eq_some.mpr ⟨?_, rfl⟩
  rw [← mem_entries, insert_free free]
  exact List.mem_append_right _ (List.mem_singleton.mpr rfl)

theorem find?_put_same {T : Table α} {t : τ} {k : Nat} {old a : α}
    (found : T.find? t k = some old) (same : address a = address old) :
    (T.put a).find? t k = some a := by
  obtain ⟨mem, at_key⟩ := find?_eq_some.mp found
  exact find?_eq_some.mpr ⟨mem_put_self mem same.symm, same.trans at_key⟩

/-- Replacing a record exchanges it for the new one, up to order. -/
theorem put_perm {T : Table α} {old a : α} (h : old ∈ T) (same : address old = address a) :
    ∃ rest, T.entries.Perm (old :: rest) ∧ (T.put a).entries.Perm (a :: rest) := by
  obtain ⟨before, after, split⟩ := List.append_of_mem (mem_entries.mpr h)
  have others : ∀ b ∈ before ++ after, decide (address b = address a) = false := by
    intro b hb
    apply decide_eq_false
    intro taken
    have nodup := T.nodup
    rw [split, List.map_append, List.map_cons, List.nodup_middle, ← List.map_append] at nodup
    exact (List.nodup_cons.mp nodup).1 (same.trans taken.symm ▸ List.mem_map_of_mem hb)
  have replaced : (T.put a).entries = before ++ a :: after := by
    rw [put_entries, split, modify_append, modify_cons, if_pos (decide_eq_true same),
      modify_eq_self fun b hb => others b (List.mem_append_left _ hb),
      modify_eq_self fun b hb => others b (List.mem_append_right _ hb)]
  refine ⟨before ++ after, ?_, ?_⟩
  · rw [split]
    exact List.perm_middle
  · rw [replaced]
    exact List.perm_middle

theorem count_put (p : α → Bool) {T : Table α} {old a : α} (h : old ∈ T)
    (same : address old = address a) :
    (T.put a).count p + (if p old then 1 else 0) = T.count p + (if p a then 1 else 0) := by
  obtain ⟨rest, was, is⟩ := put_perm h same
  rw [count, count, was.countP_eq, is.countP_eq, List.countP_cons, List.countP_cons]
  omega

theorem only_put_own {t : τ} (T : Table α) {a : α} :
    (T.put a).only t = (T.only t).put a := by
  apply ext
  apply ownedBy_modify_own
  intro b hb
  exact (congrArg Prod.fst (of_decide_eq_true hb)).symm

theorem only_put_other {t : τ} (T : Table α) {a : α} (h : Addressed.owner a ≠ t) :
    (T.put a).only t = T.only t := by
  apply ext
  apply ownedBy_modify_other
  · intro b hb
    exact (congrArg Prod.fst (of_decide_eq_true hb)).symm
  · intro b hb
    have same : Addressed.owner b = Addressed.owner a := congrArg Prod.fst (of_decide_eq_true hb)
    rwa [same]

theorem only_insert_own {t : τ} {T : Table α} {a : α} (own : Addressed.owner a = t)
    (free : T.find? (Addressed.owner a) (Addressed.key a) = none) :
    (T.insert a).only t = (T.only t).insert a := by
  have free' : (T.only t).find? (Addressed.owner a) (Addressed.key a) = none := by
    rw [own, find?_only, ← own, free]
  apply ext
  rw [insert_free free', only_entries, insert_free free, ownedBy_append,
    ownedBy_singleton_own own, only_entries]

theorem only_insert_other {t : τ} {T : Table α} {a : α} (other : Addressed.owner a ≠ t)
    (free : T.find? (Addressed.owner a) (Addressed.key a) = none) :
    (T.insert a).only t = T.only t := by
  apply ext
  rw [only_entries, insert_free free, ownedBy_append, ownedBy_singleton_other other,
    List.append_nil, only_entries]

end Table
end Owned

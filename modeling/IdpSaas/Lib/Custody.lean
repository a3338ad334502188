import IdpSaas.Lib.Table
import Mathlib.Data.List.Nodup
import Mathlib.Data.List.Perm.Basic

/-!
Tokens that the records of a table hold and hand over to a store. A record takes only
tokens that are nowhere yet, and a token it hands over is no longer in its hands, so
every token stays in one place.
-/

namespace Owned

universe u v w
variable {α : Type u} {τ : Type v} {β : Type w} [Addressed α τ]

namespace Table

/-- The tokens in the hands of the records, in the order of the table. -/
def held (holds : α → Option β) (T : Table α) : List β := T.entries.filterMap holds

theorem mem_held {holds : α → Option β} {T : Table α} {b : β} :
    b ∈ T.held holds ↔ ∃ a ∈ T, holds a = some b := List.mem_filterMap

variable [DecidableEq τ]

/-- Replacing a record exchanges its token, if any, for that of the new one. -/
theorem held_put (holds : α → Option β) {T : Table α} {old a : α} (mem : old ∈ T)
    (same : address old = address a) :
    ∃ rest, (T.held holds).Perm ((holds old).toList ++ rest) ∧
      ((T.put a).held holds).Perm ((holds a).toList ++ rest) := by
  have head : ∀ (c : α) (rest : List α),
      (c :: rest).filterMap holds = (holds c).toList ++ rest.filterMap holds := by
    intro c rest
    cases found : holds c with
    | none => exact List.filterMap_cons_none found
    | some b => exact List.filterMap_cons_some found
  obtain ⟨rest, was, is⟩ := put_perm mem same
  refine ⟨rest.filterMap holds, ?_, ?_⟩
  · rw [← head]
    exact was.filterMap holds
  · rw [← head]
    exact is.filterMap holds

end Table

/-- No token is held twice, stored twice, or both held and stored. -/
def Custody (holds : α → Option β) (T : Table α) (store : List β) : Prop :=
  (T.held holds ++ store).Nodup

namespace Custody
variable {holds : α → Option β} {T : Table α} {store : List β}

theorem empty (holds : α → Option β) : Custody holds (.empty : Table α) [] := List.nodup_nil

theorem stored (h : Custody holds T store) : store.Nodup := (List.nodup_append.mp h).2.1

variable [DecidableEq τ] {old a : α} {b : β}

/-- A new record without a token. -/
theorem insert (h : Custody holds T store) (idle : holds a = none) :
    Custody holds (T.insert a) store := by
  have same : (T.insert a).held holds = T.held holds := by
    rw [Table.held, Table.insert]
    split
    · rfl
    · rw [List.filterMap_append, List.filterMap_cons_none idle, List.filterMap_nil,
        List.append_nil]
      rfl
  rw [Custody, same]
  exact h

/-- A record lets go of its token. -/
theorem drop (h : Custody holds T store) (mem : old ∈ T) (same : address old = address a)
    (idle : holds a = none) : Custody holds (T.put a) store := by
  obtain ⟨rest, was, is⟩ := Table.held_put holds mem same
  rw [idle] at is
  have before := (was.append_right store).nodup_iff.mp h
  rw [List.append_assoc] at before
  exact (is.append_right store).nodup_iff.mpr (List.nodup_append.mp before).2.1

/-- A record without a token takes one that is nowhere yet. -/
theorem take (h : Custody holds T store) (mem : old ∈ T) (same : address old = address a)
    (takes : holds a = some b) (unheld : b ∉ T.held holds) (unstored : b ∉ store) :
    Custody holds (T.put a) store := by
  obtain ⟨rest, was, is⟩ := Table.held_put holds mem same
  rw [takes] at is
  have before := (was.append_right store).nodup_iff.mp h
  rw [List.append_assoc] at before
  refine (is.append_right store).nodup_iff.mpr (List.nodup_cons.mpr ⟨?_, ?_⟩)
  · intro there
    cases List.mem_append.mp there with
    | inl held => exact unheld (was.mem_iff.mpr (List.mem_append_right _ held))
    | inr stored => exact unstored stored
  · exact (List.nodup_append.mp before).2.1

/-- A record hands its token over to the store. -/
theorem give (h : Custody holds T store) (mem : old ∈ T) (same : address old = address a)
    (gives : holds old = some b) (idle : holds a = none) :
    Custody holds (T.put a) (store ++ [b]) := by
  obtain ⟨rest, was, is⟩ := Table.held_put holds mem same
  rw [idle] at is
  rw [gives] at was
  have moved : (rest ++ (store ++ [b])).Perm (b :: rest ++ store) := by
    rw [← List.append_assoc]
    exact List.perm_append_singleton b (rest ++ store)
  have before : (b :: rest ++ store).Nodup := (was.append_right store).nodup_iff.mp h
  exact (is.append_right _).nodup_iff.mpr (moved.nodup_iff.mpr before)

end Custody
end Owned

import IdpSaas.Lib.Machine
import IdpSaas.Lib.Owned

/-!
Noninterference where it depends on the state which events are secret. A secret event
leads to a state that is alike for the others; an event that is not secret is answered the
same in states that are alike, and they stay so. Then a run is observed as the run without
its secret events is answered. Tables are alike when they are the same once the rows of
one owner are blanked.
-/

namespace Machine

universe u v w
variable {σ : Type u} {ε : Type v} {ρ : Type w}

section Purge
variable (step : σ → ε → σ × Option ρ) (secret : σ → ε → Bool)

/-- The events of a run without those that are secret in the state they meet. -/
def purge : σ → List ε → List ε
  | _, [] => []
  | s, e :: es => if secret s e then purge (step s e).1 es else e :: purge (step s e).1 es

/-- The answers that the events get which are not secret. -/
def observed : σ → List ε → List (ε × ρ)
  | _, [] => []
  | s, e :: es =>
      if secret s e then observed (step s e).1 es
      else ((step s e).2.map (Prod.mk e)).toList ++ observed (step s e).1 es

theorem purge_sublist (s : σ) (es : List ε) : (purge step secret s es).Sublist es := by
  induction es generalizing s with
  | nil => exact List.Sublist.slnil
  | cons e es ih =>
      rw [purge]
      split
      · exact (ih _).cons e
      · exact (ih _).cons_cons e

/-- The obligations, of events that are admissible in states where the invariant holds. -/
structure Unwinds (alike : σ → σ → Prop) (Inv : σ → Prop) (ok : σ → ε → Prop) : Prop where
  keeps : ∀ s e, Inv s → ok s e → Inv (step s e).1
  quiet : ∀ s s' e, Inv s → alike s s' → secret s e = true → ok s e → alike (step s e).1 s'
  stays : ∀ s s' e, Inv s → Inv s' → alike s s' → secret s e = false → ok s e → ok s' e →
    alike (step s e).1 (step s' e).1
  answer : ∀ s s' e, Inv s → Inv s' → alike s s' → secret s e = false → ok s e → ok s' e →
    (step s e).2 = (step s' e).2

variable {step secret} {alike : σ → σ → Prop} {Inv : σ → Prop} {ok : σ → ε → Prop}

theorem Unwinds.purged (h : Unwinds step secret alike Inv ok) {s s' : σ} {es : List ε}
    (hs : Inv s) (hs' : Inv s') (same : alike s s') (along : Along step ok s es)
    (along' : Along step ok s' (purge step secret s es)) :
    alike (run step s es) (run step s' (purge step secret s es)) ∧
      observed step secret s es = answers step s' (purge step secret s es) := by
  induction es generalizing s s' with
  | nil => exact ⟨same, rfl⟩
  | cons e es ih =>
      have next := h.keeps s e hs along.1
      cases hidden : secret s e with
      | true =>
          have skipped : purge step secret s (e :: es) = purge step secret (step s e).1 es :=
            if_pos hidden
          have unseen : observed step secret s (e :: es) = observed step secret (step s e).1 es :=
            if_pos hidden
          rw [skipped] at along' ⊢
          rw [unseen]
          exact ih next hs' (h.quiet s s' e hs same hidden along.1) along.2 along'
      | false =>
          have shown : ¬secret s e = true := Bool.not_eq_true _ ▸ hidden
          have kept : purge step secret s (e :: es) = e :: purge step secret (step s e).1 es :=
            if_neg shown
          have seen : observed step secret s (e :: es) =
              ((step s e).2.map (Prod.mk e)).toList ++ observed step secret (step s e).1 es :=
            if_neg shown
          rw [kept] at along' ⊢
          obtain ⟨alike, rest⟩ := ih next (h.keeps s' e hs' along'.1)
            (h.stays s s' e hs hs' same hidden along.1 along'.1) along.2 along'.2
          refine ⟨alike, ?_⟩
          rw [seen, answers, rest, h.answer s s' e hs hs' same hidden along.1 along'.1]

end Purge
end Machine

namespace Owned

universe u v
variable {α : Type u} {τ : Type v} [DecidableEq τ] (owner : α → τ) (blank : α → α)

/-- The table with the rows of one owner blanked. -/
def conceal (t : τ) (l : List α) : List α := modify (fun a => decide (owner a = t)) blank l

/-- Blanking a row leaves the column as it is. -/
def Spares {β : Type*} (blank : α → α) (column : α → β) : Prop := ∀ a, column (blank a) = column a

variable {owner blank} {t : τ} {l l' : List α} {p : α → Bool} {f : α → α}

theorem Spares.eq {β : Type*} {column : α → β} (spared : Spares blank column) {a b : α}
    (same : blank a = blank b) : column a = column b := by
  rw [← spared a, same, spared b]

theorem conceal_append (l m : List α) :
    conceal owner blank t (l ++ m) = conceal owner blank t l ++ conceal owner blank t m :=
  modify_append _ _ l m

theorem find?_conceal (spared : Spares blank p) (l : List α) :
    (conceal owner blank t l).find? p =
      (l.find? p).map fun a => if decide (owner a = t) then blank a else a := by
  rw [conceal, modify, List.find?_map]
  have same : (p ∘ fun a => if decide (owner a = t) then blank a else a) = p := by
    funext a
    rw [Function.comp_apply]
    split
    · exact spared a
    · rfl
  rw [same]

/-- Where nothing is found in one table, nothing is found in one that is alike. -/
theorem find?_concealed_none (same : conceal owner blank t l = conceal owner blank t l')
    (spared : Spares blank p) (absent : l.find? p = none) : l'.find? p = none := by
  have both := congrArg (List.find? p) same
  rwa [find?_conceal spared, find?_conceal spared, absent, Option.map_none, eq_comm,
    Option.map_eq_none_iff] at both

/-- And a row of another owner is found in both. -/
theorem find?_concealed_some (same : conceal owner blank t l = conceal owner blank t l')
    (spared : Spares blank p) (owned : Spares blank owner) {a : α} (found : l.find? p = some a)
    (other : owner a ≠ t) : l'.find? p = some a := by
  have both := congrArg (List.find? p) same
  rw [find?_conceal spared, find?_conceal spared, found, Option.map_some, eq_comm,
    Option.map_eq_some_iff] at both
  obtain ⟨b, found', shown⟩ := both
  have here : ¬decide (owner a = t) = true := by rwa [decide_eq_true_eq]
  rw [if_neg here] at shown
  split at shown
  · next own =>
      refine absurd ?_ other
      rw [← shown, owned]
      exact of_decide_eq_true own
  · rw [found', shown]

theorem forall_conceal {P : α → Prop} (spared : Spares blank P) (l : List α) :
    (∀ a ∈ conceal owner blank t l, P a) ↔ ∀ a ∈ l, P a := by
  have shown : ∀ a, P (if decide (owner a = t) then blank a else a) ↔ P a := by
    intro a
    split
    · rw [spared]
    · rfl
  constructor
  · intro all a mem
    exact (shown a).mp (all _ (mem_modify.mpr ⟨a, mem, rfl⟩))
  · intro all b mem
    obtain ⟨a, here, rfl⟩ := mem_modify.mp mem
    exact (shown a).mpr (all a here)

/-- The rows of the others are as they were. -/
theorem foreign_conceal (spared : Spares blank owner) (l : List α) :
    foreign owner t (conceal owner blank t l) = foreign owner t l := by
  induction l with
  | nil => rfl
  | cons a l ih =>
      rw [conceal, modify_cons]
      by_cases own : owner a = t
      · rw [if_pos (decide_eq_true own), foreign_cons_own ((spared a).trans own),
          foreign_cons_own own]
        exact ih
      · rw [if_neg (by rwa [decide_eq_true_eq]), foreign_cons_other own, foreign_cons_other own]
        exact congrArg _ ih

theorem foreign_concealed (same : conceal owner blank t l = conceal owner blank t l')
    (spared : Spares blank owner) : foreign owner t l = foreign owner t l' := by
  have shown : ∀ m : List α, foreign owner t (conceal owner blank t m) = foreign owner t m :=
    foreign_conceal spared
  rw [← shown l, same, shown l']

/-- What holds of all rows, as far as it can be read, holds of all rows of a table that is
alike. -/
theorem forall_concealed {P : α → Prop} (same : conceal owner blank t l = conceal owner blank t l')
    (spared : Spares blank P) : (∀ a ∈ l, P a) ↔ ∀ a ∈ l', P a := by
  have read : ∀ m : List α, (∀ a ∈ conceal owner blank t m, P a) ↔ ∀ a ∈ m, P a :=
    forall_conceal spared
  rw [← read l, same, read l']

/-- A change of the owner's rows in what is blanked cannot be seen. -/
theorem conceal_modify_own (spared : Spares blank owner) (blanked : ∀ a, blank (f a) = blank a)
    (own : ∀ a ∈ l, p a = true → owner a = t) :
    conceal owner blank t (modify p f l) = conceal owner blank t l := by
  rw [conceal, conceal, modify, modify, modify, List.map_map]
  refine List.map_congr_left fun a mem => ?_
  rw [Function.comp_apply]
  by_cases hit : p a = true
  · have here : decide (owner a = t) = true := decide_eq_true (own a mem hit)
    rw [if_pos hit, spared.eq (blanked a), blanked, if_pos here, if_pos here]
  · rw [if_neg hit]

/-- A change in what is blanked is the same change of what can be seen. -/
theorem conceal_modify (spared : Spares blank owner) (blanked : ∀ a, blank (f a) = blank a) :
    conceal owner blank t (modify p f l) =
      modify (fun a => p a && decide (owner a ≠ t)) f (conceal owner blank t l) := by
  rw [conceal, conceal, modify, modify, modify, modify, List.map_map, List.map_map]
  refine List.map_congr_left fun a _ => ?_
  rw [Function.comp_apply, Function.comp_apply]
  have owned : owner (f a) = owner a := spared.eq (blanked a)
  by_cases own : owner a = t
  · by_cases hit : p a = true <;> simp [own, hit, owned, blanked, spared a]
  · by_cases hit : p a = true <;> simp [own, hit, owned]

theorem modify_concealed (same : conceal owner blank t l = conceal owner blank t l')
    (spared : Spares blank owner) (blanked : ∀ a, blank (f a) = blank a) :
    conceal owner blank t (modify p f l) = conceal owner blank t (modify p f l') := by
  rw [conceal_modify spared blanked, conceal_modify spared blanked, same]

end Owned

import Mathlib.Data.List.Basic

/-!
Work that is retried a bounded number of times. A task makes numbered attempts, each
on the state the one before left; another attempt follows exactly when one has failed
and the bound leaves another. What an attempt may rely on when it starts is proved
for one retry at a time and lifted here to the whole series.
-/

namespace Retry

universe u v

structure Task (σ : Type u) (α : Type v) where
  attempt : Nat → σ → α
  after : α → σ
  failed : α → Bool

variable {σ : Type u} {α : Type v} (τ : Task σ α) (bound : Nat)

/-- The attempts of a task of which `made` have been made before. -/
def attempts : Nat → Nat → σ → List α
  | 0, _, _ => []
  | fuel + 1, made, s =>
      let a := τ.attempt made s
      if τ.failed a = true ∧ made + 1 < bound then
        a :: attempts fuel (made + 1) (τ.after a)
      else [a]

/-- An attempt after which another follows, started where `P` holds. -/
def Retried (P : Nat → σ → Prop) (a : α) : Prop :=
  ∃ k s, P k s ∧ k + 1 < bound ∧ τ.failed (τ.attempt k s) = true ∧ a = τ.attempt k s

/-- How a series ends that starts every attempt where `P` holds: in a last attempt
that succeeds or is the last one allowed, after attempts that were all retried. -/
def Ends (P : Nat → σ → Prop) (made : Nat) (series : List α) : Prop :=
  ∃ last s early, series = early ++ [τ.attempt last s] ∧ made + early.length = last ∧
    last < bound ∧ P last s ∧ (τ.failed (τ.attempt last s) = true → last + 1 = bound) ∧
    ∀ a ∈ early, Retried τ bound P a

variable {τ bound}

/-- The rule for a series: `P` survives a failed attempt that is retried. -/
theorem attempts_rule {P : Nat → σ → Prop}
    (retried : ∀ k s, P k s → τ.failed (τ.attempt k s) = true → k + 1 < bound →
      P (k + 1) (τ.after (τ.attempt k s))) {fuel made : Nat} {s : σ} (start : P made s)
    (left : made < bound) (enough : bound ≤ made + fuel) :
    Ends τ bound P made (attempts τ bound fuel made s) := by
  induction fuel generalizing made s with
  | zero => omega
  | succ fuel ih =>
      rw [attempts]
      by_cases again : τ.failed (τ.attempt made s) = true ∧ made + 1 < bound
      · rw [if_pos again]
        obtain ⟨last, s', early, series, count, inside, holds, final, before⟩ :=
          ih (retried made s start again.1 again.2) again.2 (by omega)
        refine ⟨last, s', τ.attempt made s :: early, by rw [series]; rfl, ?_, inside, holds, final,
          ?_⟩
        · rw [List.length_cons]
          omega
        · intro a mem
          rcases List.mem_cons.mp mem with rfl | mem
          · exact ⟨made, s, start, again.2, again.1, rfl⟩
          · exact before a mem
      · rw [if_neg again]
        refine ⟨made, s, [], rfl, rfl, left, start, ?_, fun _ mem => (nomatch mem)⟩
        intro failed
        have lastOne : ¬ made + 1 < bound := fun more => again ⟨failed, more⟩
        omega

end Retry

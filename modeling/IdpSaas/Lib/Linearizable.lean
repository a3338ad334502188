import IdpSaas.Lib.Machine

/-!
Linearizability of machines that answer calls on a shared object. A history lists the
calls that were answered, each with its answer; it is linearizable when the calls, made
one after another on the object in some order, get the same answers and leave the
object in the same state. Calls still in progress are not part of a history. If every
event that answers a call acts on the object as that call, and every other event leaves
the object alone, the order of the answers is such an order.
-/

namespace Linear

universe u v w x y
variable {β : Type u} {ω : Type v} {α : Type w}

section Object
variable (apply : β → ω → α × β)

/-- The calls of the list, made in its order, get the answers of the list. -/
def Replays : β → List (ω × α) → β → Prop
  | b, [], b' => b = b'
  | b, (call, a) :: rest, b' => (apply b call).1 = a ∧ Replays (apply b call).2 rest b'

def Linearizable (b : β) (history : List (ω × α)) (b' : β) : Prop :=
  ∃ order : List (ω × α), order.Perm history ∧ Replays apply b order b'

theorem replays_cons {b b' : β} {call : ω} {a : α} {rest : List (ω × α)} :
    Replays apply b ((call, a) :: rest) b' ↔
      ∃ next, apply b call = (a, next) ∧ Replays apply next rest b' := by
  rw [Replays]
  constructor
  · rintro ⟨rfl, replayed⟩
    exact ⟨_, rfl, replayed⟩
  · rintro ⟨next, acts, replayed⟩
    rw [acts]
    exact ⟨rfl, replayed⟩

/-- Two calls linearize only in one of the two orders. -/
theorem linearizable_pair {b b' : β} {p q : ω × α} (h : Linearizable apply b [p, q] b') :
    Replays apply b [p, q] b' ∨ Replays apply b [q, p] b' := by
  obtain ⟨order, perm, replayed⟩ := h
  obtain ⟨x, y, rfl⟩ := List.length_eq_two.mp perm.length_eq
  have first : x = p ∨ x = q := by simpa using perm.mem_iff.mp (List.mem_cons_self (a := x))
  rcases first with rfl | rfl
  · have rest := List.singleton_perm.mp ((List.perm_cons x).mp perm)
    obtain rfl := List.singleton_inj.mp rest
    exact Or.inl replayed
  · have rest := List.singleton_perm.mp ((List.perm_cons x).mp (perm.trans (List.Perm.swap x p [])))
    obtain rfl := List.singleton_inj.mp rest
    exact Or.inr replayed

end Object

section Machine
open Machine
variable {σ : Type x} {ε : Type y} (step : σ → ε → σ × Option (ω × α)) (view : σ → β)
  (apply : β → ω → α × β)

/-- The event answers a call by making it, or leaves the object alone. -/
def Acts (s : σ) (e : ε) : Prop :=
  match (step s e).2 with
  | none => view (step s e).1 = view s
  | some (call, a) => apply (view s) call = (a, view (step s e).1)

/-- The calls answered along a run. -/
def history (s : σ) (es : List ε) : List (ω × α) := (answers step s es).map Prod.snd

theorem history_cons (s : σ) (e : ε) (es : List ε) :
    history step s (e :: es) = (step s e).2.toList ++ history step (step s e).1 es := by
  rw [history, history, answers, List.map_append]
  cases (step s e).2 <;> rfl

/-- Where every event acts so, the history replays in the order of the answers. -/
theorem replays_run {s : σ} {es : List ε} (h : Along step (Acts step view apply) s es) :
    Replays apply (view s) (history step s es) (view (run step s es)) := by
  induction es generalizing s with
  | nil => rfl
  | cons e es ih =>
      have rest := ih h.2
      have here := h.1
      rw [history_cons, run]
      unfold Acts at here
      cases answered : (step s e).2 with
      | none =>
          rw [answered] at here
          rw [← show view (step s e).1 = view s from here]
          exact rest
      | some p =>
          rw [answered] at here
          exact (replays_cons apply).mpr ⟨_, here, rest⟩

theorem linearizable_run {s : σ} {es : List ε} (h : Along step (Acts step view apply) s es) :
    Linearizable apply (view s) (history step s es) (view (run step s es)) :=
  ⟨_, List.Perm.refl _, replays_run step view apply h⟩

end Machine
end Linear

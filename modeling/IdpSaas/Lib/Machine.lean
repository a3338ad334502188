import Mathlib.Data.List.Basic
import Mathlib.Data.List.Induction

/-!
Deterministic machines that answer some of their events, and their runs.
A run is a list of events; the choices the environment makes (identifiers,
clock readings, failures) are part of each event. Safety is proved once for a
single event and lifted here to runs. The second half is separation: a machine
whose state splits into one view for each owner, and what deleting all events of
one owner does to the others.
-/

namespace Machine

universe u v w x
variable {σ : Type u} {ε : Type v} {ρ : Type w}

section Runs
variable (step : σ → ε → σ × Option ρ)

def run : σ → List ε → σ
  | s, [] => s
  | s, e :: es => run (step s e).1 es

/-- The answers given along a run, each with the event that got it. -/
def answers : σ → List ε → List (ε × ρ)
  | _, [] => []
  | s, e :: es => ((step s e).2.map (Prod.mk e)).toList ++ answers (step s e).1 es

/-- Every event of the run satisfies `ok` in the state it meets. -/
def Along (ok : σ → ε → Prop) : σ → List ε → Prop
  | _, [] => True
  | s, e :: es => ok s e ∧ Along ok (step s e).1 es

instance Along.decidable (ok : σ → ε → Prop) [∀ s e, Decidable (ok s e)] :
    ∀ s es, Decidable (Along step ok s es)
  | _, [] => isTrue trivial
  | s, e :: es =>
      have := Along.decidable ok (step s e).1 es
      inferInstanceAs (Decidable (ok s e ∧ Along step ok (step s e).1 es))

theorem run_append (s : σ) (xs ys : List ε) :
    run step s (xs ++ ys) = run step (run step s xs) ys := by
  induction xs generalizing s with
  | nil => rfl
  | cons e es ih => exact ih (step s e).1

theorem answers_append (s : σ) (xs ys : List ε) :
    answers step s (xs ++ ys) = answers step s xs ++ answers step (run step s xs) ys := by
  induction xs generalizing s with
  | nil => rfl
  | cons e es ih => rw [List.cons_append, answers, answers, run, ih, List.append_assoc]

theorem along_append (ok : σ → ε → Prop) (s : σ) (xs ys : List ε) :
    Along step ok s (xs ++ ys) ↔
      Along step ok s xs ∧ Along step ok (run step s xs) ys := by
  induction xs generalizing s with
  | nil => simp only [List.nil_append, Along, run, true_and]
  | cons e es ih => simp only [List.cons_append, Along, run, ih, and_assoc]

/-- The invariant rule: what one admissible event preserves, a run preserves. -/
theorem run_invariant {Inv : σ → Prop} {ok : σ → ε → Prop}
    (preserved : ∀ s e, Inv s → ok s e → Inv (step s e).1)
    {s : σ} {es : List ε} (hs : Inv s) (h : Along step ok s es) :
    Inv (run step s es) := by
  induction es generalizing s with
  | nil => exact hs
  | cons e es ih => exact ih (preserved s e hs h.1) h.2

/-- The same for an invariant of the state and the answers given so far. -/
theorem run_answers {Inv : σ → List (ε × ρ) → Prop}
    (preserved : ∀ s e given, Inv s given →
      Inv (step s e).1 (given ++ ((step s e).2.map (Prod.mk e)).toList))
    {s : σ} (hs : Inv s []) (es : List ε) : Inv (run step s es) (answers step s es) := by
  have from_given : ∀ (es : List ε) (s : σ) (given : List (ε × ρ)), Inv s given →
      Inv (run step s es) (given ++ answers step s es) := by
    intro es
    induction es with
    | nil => exact fun s given h => by rwa [answers, List.append_nil]
    | cons e es ih =>
        intro s given h
        rw [answers, ← List.append_assoc]
        exact ih _ _ (preserved s e given h)
  exact from_given es s [] hs

/-- And for an invariant of the events so far and the state they lead to. -/
theorem run_history {Inv : List ε → σ → Prop} {s : σ} (init : Inv [] s)
    (preserved : ∀ xs e, Inv xs (run step s xs) → Inv (xs ++ [e]) (step (run step s xs) e).1)
    (es : List ε) : Inv es (run step s es) := by
  induction es using List.reverseRecOn with
  | nil => exact init
  | append_singleton xs e ih =>
      rw [run_append]
      exact preserved xs e ih

/-- Where each event is matched by a run of another machine, so is each run. -/
theorem run_simulated {σ' : Type u} {ε' : Type v} {ρ' : Type w} {step' : σ' → ε' → σ' × Option ρ'}
    {R : σ → σ' → Prop} {Q : List ε → List ε' → Prop} (nil : Q [] [])
    (append : ∀ es e ps qs, Q es ps → Q [e] qs → Q (es ++ [e]) (ps ++ qs))
    (matched : ∀ s s' e, R s s' → ∃ qs, Q [e] qs ∧ R (step s e).1 (run step' s' qs))
    {s : σ} {s' : σ'} (h : R s s') (es : List ε) :
    ∃ ps, Q es ps ∧ R (run step s es) (run step' s' ps) := by
  induction es using List.reverseRecOn with
  | nil => exact ⟨[], nil, h⟩
  | append_singleton es e ih =>
      obtain ⟨ps, listed, related⟩ := ih
      obtain ⟨qs, listed', related'⟩ := matched _ _ e related
      refine ⟨ps ++ qs, append es e ps qs listed listed', ?_⟩
      rw [run_append, run_append]
      exact related'

theorem along_true (s : σ) (es : List ε) : Along step (fun _ _ => True) s es := by
  induction es generalizing s with
  | nil => trivial
  | cons e es ih => exact ⟨trivial, ih _⟩

theorem Along.mono {ok good : σ → ε → Prop} (h : ∀ s e, ok s e → good s e) {s : σ} {es : List ε}
    (along : Along step ok s es) : Along step good s es := by
  induction es generalizing s with
  | nil => trivial
  | cons e es ih => exact ⟨h s e along.1, ih along.2⟩

/-- Names that the events of a run generate, each only once, are unused when generated. -/
theorem along_fresh {ν : Type x} {generated : ε → Option ν} {used : σ → ν → Prop}
    (grows : ∀ s e n, used (step s e).1 n → used s n ∨ generated e = some n)
    {s : σ} {es : List ε} (nodup : (es.filterMap generated).Nodup)
    (unused : ∀ n, used s n → n ∉ es.filterMap generated) :
    Along step (fun s e => ∀ n, generated e = some n → ¬used s n) s es := by
  induction es generalizing s with
  | nil => trivial
  | cons e es ih =>
      have head : ∀ n, generated e = some n → n ∈ (e :: es).filterMap generated ∧
          n ∉ es.filterMap generated := by
        intro n hn
        rw [List.filterMap_cons_some hn] at nodup ⊢
        exact ⟨List.mem_cons_self, (List.nodup_cons.mp nodup).1⟩
      have tail : (es.filterMap generated).Sublist ((e :: es).filterMap generated) :=
        (List.sublist_cons_self e es).filterMap generated
      refine ⟨fun n hn taken => unused n taken (head n hn).1, ih (nodup.sublist tail) ?_⟩
      intro n taken
      cases grows s e n taken with
      | inl old => exact fun hn => unused n old (tail.subset hn)
      | inr new => exact (head n new).2

theorem Along.and {ok good : σ → ε → Prop} {s : σ} {es : List ε} (h : Along step ok s es)
    (k : Along step good s es) : Along step (fun s e => ok s e ∧ good s e) s es := by
  induction es generalizing s with
  | nil => trivial
  | cons e es ih => exact ⟨⟨h.1, k.1⟩, ih h.2 k.2⟩

theorem along_of_mem {P : ε → Prop} (s : σ) {es : List ε} (h : ∀ e ∈ es, P e) :
    Along step (fun _ e => P e) s es := by
  induction es generalizing s with
  | nil => trivial
  | cons e es ih => exact ⟨h e List.mem_cons_self, ih _ fun e he => h e (List.mem_cons_of_mem _ he)⟩

/-- Two conditions on events that agree where the invariant holds agree along runs. -/
theorem along_iff {Inv : σ → Prop} {ok good : σ → ε → Prop}
    (preserved : ∀ s e, Inv s → ok s e → Inv (step s e).1)
    (same : ∀ s e, Inv s → (ok s e ↔ good s e)) {s : σ} {es : List ε} (hs : Inv s) :
    Along step ok s es ↔ Along step good s es := by
  induction es generalizing s with
  | nil => exact Iff.rfl
  | cons e es ih =>
      constructor
      · intro h
        exact ⟨(same s e hs).mp h.1, (ih (preserved s e hs h.1)).mp h.2⟩
      · intro h
        have head := (same s e hs).mpr h.1
        exact ⟨head, (ih (preserved s e hs head)).mpr h.2⟩

/-- Where a condition on events decides whether the next state has a property, it
decides along a run whether all states reached have it. -/
theorem along_iff_reached {Inv P : σ → Prop} {given ok : σ → ε → Prop}
    (preserved : ∀ s e, Inv s → given s e → ok s e → Inv (step s e).1)
    (decides : ∀ s e, Inv s → given s e → (ok s e ↔ P (step s e).1))
    (holds : ∀ s, Inv s → P s) {s : σ} {es : List ε} (hs : Inv s) (h : Along step given s es) :
    Along step ok s es ↔ ∀ xs, xs <+: es → P (run step s xs) := by
  induction es generalizing s with
  | nil =>
      refine ⟨fun _ xs begins => ?_, fun _ => trivial⟩
      rw [List.prefix_nil.mp begins]
      exact holds s hs
  | cons e es ih =>
      constructor
      · intro along xs begins
        cases xs with
        | nil => exact holds s hs
        | cons x xs =>
            obtain ⟨rfl, rest⟩ := List.cons_prefix_cons.mp begins
            exact (ih (preserved s x hs h.1 along.1) h.2).mp along.2 xs rest
      · intro reached
        have head : ok s e := (decides s e hs h.1).mpr
          (reached [e] (List.cons_prefix_cons.mpr ⟨rfl, List.nil_prefix⟩))
        refine ⟨head, (ih (preserved s e hs h.1 head) h.2).mpr fun xs begins => ?_⟩
        exact reached (e :: xs) (List.cons_prefix_cons.mpr ⟨rfl, begins⟩)

end Runs

section Separation
variable {τ : Type x} [DecidableEq τ]

/-- The obligations under which the events of one owner and the views of the
others have nothing to do with each other: an event acts on its owner's view as
on the whole state, answers from that view alone, and leaves every other view. -/
structure Separates (step : σ → ε → σ × Option ρ) (owner : ε → τ)
    (view : τ → σ → σ) (Inv : σ → Prop) (ok : σ → ε → Prop) : Prop where
  keeps : ∀ s e, Inv s → ok s e → Inv (step s e).1
  own : ∀ s e, Inv s → ok s e →
    view (owner e) (step s e).1 = (step (view (owner e) s) e).1
  answer : ∀ s e, Inv s → ok s e → (step s e).2 = (step (view (owner e) s) e).2
  other : ∀ s e t, Inv s → ok s e → owner e ≠ t → view t (step s e).1 = view t s

variable {step : σ → ε → σ × Option ρ} {owner : ε → τ} {view : τ → σ → σ}
  {Inv : σ → Prop} {ok : σ → ε → Prop}

/-- A view of the whole run is the run of that owner's events from the view. -/
theorem Separates.view_run (sep : Separates step owner view Inv ok) (t : τ)
    {s : σ} {es : List ε} (hs : Inv s) (h : Along step ok s es) :
    view t (run step s es) =
      run step (view t s) (es.filter (fun e => owner e = t)) := by
  induction es generalizing s with
  | nil => rfl
  | cons e es ih =>
      have rest := ih (sep.keeps s e hs h.1) h.2
      by_cases he : owner e = t
      · subst he
        simp only [List.filter_cons, decide_true, if_true, run]
        rw [rest, sep.own s e hs h.1]
      · simp only [List.filter_cons, he, decide_false, Bool.false_eq_true, if_false, run]
        rw [rest, sep.other s e t hs h.1 he]

theorem Separates.view_answers (sep : Separates step owner view Inv ok) (t : τ)
    {s : σ} {es : List ε} (hs : Inv s) (h : Along step ok s es) :
    (answers step s es).filter (fun a => owner a.1 = t) =
      answers step (view t s) (es.filter (fun e => owner e = t)) := by
  induction es generalizing s with
  | nil => rfl
  | cons e es ih =>
      have rest := ih (sep.keeps s e hs h.1) h.2
      by_cases he : owner e = t
      · subst he
        simp only [List.filter_cons, decide_true, if_true, answers, List.filter_append]
        rw [rest, sep.own s e hs h.1, ← sep.answer s e hs h.1]
        cases (step s e).2 <;> simp
      · simp only [List.filter_cons, he, decide_false, Bool.false_eq_true, if_false,
          answers, List.filter_append]
        rw [rest, sep.other s e t hs h.1 he]
        cases (step s e).2 <;> simp [he]

/-- Deleting every event of `a` changes neither the view nor the answers of
any other owner. -/
theorem Separates.purge (sep : Separates step owner view Inv ok) {a t : τ} (hat : a ≠ t)
    {s : σ} {es : List ε} (hs : Inv s) (h : Along step ok s es)
    (hp : Along step ok s (es.filter (fun e => owner e ≠ a))) :
    view t (run step s es) = view t (run step s (es.filter (fun e => owner e ≠ a))) ∧
    (answers step s es).filter (fun r => owner r.1 = t) =
      (answers step s (es.filter (fun e => owner e ≠ a))).filter (fun r => owner r.1 = t) := by
  have same : (es.filter (fun e => owner e ≠ a)).filter (fun e => owner e = t) =
      es.filter (fun e => owner e = t) := by
    rw [List.filter_filter]
    apply List.filter_congr
    intro e _
    by_cases he : owner e = t
    · simp [he, hat.symm]
    · simp [he]
  constructor
  · rw [sep.view_run t hs h, sep.view_run t hs hp, same]
  · rw [sep.view_answers t hs h, sep.view_answers t hs hp, same]

end Separation
end Machine

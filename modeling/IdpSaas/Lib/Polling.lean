import IdpSaas.Lib.Machine

/-!
A client that polls a value. It asks once when it opens, and on each tick of a timer that
is set while the value it shows is not final. Requests are served and arrive in any
order, so an answer may be older than what is shown, and the timer is set or cleared only
when the effects of a change are run.
-/

namespace Polling
open Machine

universe u v
variable {α : Type u} {ε : Type v}

/-- `source` is what the server would answer now. A request in flight has its answer once it
has been served. `dirty` says that effects are still to be run, `redirected` that the client
has been sent elsewhere, and `sent` counts the requests. -/
structure Poller (α : Type u) (ε : Type v) where
  source : Except ε α
  shown : Option α
  error : Option ε
  timer : Bool
  dirty : Bool
  redirected : Bool
  closed : Bool
  requests : List (Option (Except ε α))
  sent : Nat

inductive Event (α : Type u) (ε : Type v)
  | source (value : Except ε α)
  | serve (i : Nat)
  | fail (i : Nat) (err : ε)
  | arrive (i : Nat)
  | tick
  | effects
  | close

/-- The client and the network go on by themselves: nothing fails or is closed, and the
value does not change. -/
def Event.goesOn : Event α ε → Prop
  | .serve _ | .arrive _ | .tick | .effects => True
  | .source _ | .fail _ _ | .close => False

/-- Which values are polled on, and which errors send the client elsewhere. -/
structure Policy (α : Type u) (ε : Type v) where
  polls : α → Bool
  redirects : ε → Bool

namespace Poller

/-- A client that opens and asks. -/
def opened (source : Except ε α) : Poller α ε :=
  ⟨source, none, none, false, false, false, false, [none], 1⟩

def ask (s : Poller α ε) : Poller α ε :=
  { s with requests := s.requests ++ [none], sent := s.sent + 1 }

/-- A request that waits is answered. -/
def answer (s : Poller α ε) (i : Nat) (value : Except ε α) : Poller α ε :=
  match s.requests[i]? with
  | some none => { s with requests := s.requests.set i (some value) }
  | _ => s

/-- A closed client takes no value any more, but it is still sent elsewhere. -/
def receive (policy : Policy α ε) (s : Poller α ε) : Except ε α → Poller α ε × Option ε
  | .ok a => (if s.closed then s else { s with shown := some a, dirty := true }, none)
  | .error err =>
      if policy.redirects err then ({ s with redirected := true }, some err)
      else (if s.closed then s else { s with error := some err }, none)

def step (policy : Policy α ε) (s : Poller α ε) : Event α ε → Poller α ε × Option ε
  | .source value => ({ s with source := value }, none)
  | .serve i => (s.answer i s.source, none)
  | .fail i err => (s.answer i (.error err), none)
  | .arrive i =>
      match s.requests[i]? with
      | some (some value) => receive policy { s with requests := s.requests.eraseIdx i } value
      | _ => (s, none)
  | .tick => (if s.timer then s.ask else s, none)
  | .effects =>
      (if s.closed then s else { s with timer := s.shown.any policy.polls, dirty := false }, none)
  | .close => ({ s with closed := true, timer := false }, none)

/-- What one event does to the client. -/
inductive Change (policy : Policy α ε) (s : Poller α ε) : Event α ε → Poller α ε → Prop
  | idle (e : Event α ε) (kept : ∀ value, e ≠ .source value) : Change policy s e s
  | moved (value : Except ε α) : Change policy s (.source value) { s with source := value }
  | served (i : Nat) :
      Change policy s (.serve i) { s with requests := s.requests.set i (some s.source) }
  | failed (i : Nat) (err : ε) :
      Change policy s (.fail i err) { s with requests := s.requests.set i (some (.error err)) }
  | took (i : Nat) (a : α) (arrived : some (.ok a) ∈ s.requests) (opened : s.closed = false) :
      Change policy s (.arrive i)
        { s with requests := s.requests.eraseIdx i, shown := some a, dirty := true }
  | dropped (i : Nat) (value : Except ε α) (arrived : some value ∈ s.requests)
      (closed : s.closed = true) :
      Change policy s (.arrive i) { s with requests := s.requests.eraseIdx i }
  | sentAway (i : Nat) (err : ε) (arrived : some (.error err) ∈ s.requests) :
      Change policy s (.arrive i)
        { s with requests := s.requests.eraseIdx i, redirected := true }
  | refused (i : Nat) (err : ε) (arrived : some (.error err) ∈ s.requests)
      (opened : s.closed = false) :
      Change policy s (.arrive i)
        { s with requests := s.requests.eraseIdx i, error := some err }
  | asked (due : s.timer = true) : Change policy s .tick s.ask
  | ran (opened : s.closed = false) :
      Change policy s .effects { s with timer := s.shown.any policy.polls, dirty := false }
  | closed : Change policy s .close { s with closed := true, timer := false }

section Steps
variable {policy : Policy α ε} {s : Poller α ε}

theorem answer_cases (i : Nat) (value : Except ε α) :
    s.answer i value = s ∨ s.answer i value = { s with requests := s.requests.set i (some value) } := by
  rw [answer]
  split
  · exact Or.inr rfl
  · exact Or.inl rfl

theorem step_change (policy : Policy α ε) (s : Poller α ε) (e : Event α ε) :
    Change policy s e (step policy s e).1 := by
  cases e with
  | source value => exact .moved value
  | serve i =>
      rw [step]
      cases answer_cases i s.source with
      | inl same => rw [same]; exact .idle _ fun _ h => by cases h
      | inr set => rw [set]; exact .served i
  | fail i err =>
      rw [step]
      cases answer_cases i (.error err) with
      | inl same => rw [same]; exact .idle _ fun _ h => by cases h
      | inr set => rw [set]; exact .failed i err
  | arrive i =>
      rw [step]
      split
      · next value found =>
          have arrived : some value ∈ s.requests := List.mem_of_getElem? found
          cases value with
          | ok a =>
              simp only [receive]
              split
              · next closed => exact .dropped i _ arrived closed
              · next closed => exact .took i a arrived (eq_false_of_ne_true closed)
          | error err =>
              simp only [receive]
              split
              · exact .sentAway i err arrived
              · split
                · next closed => exact .dropped i _ arrived closed
                · next closed => exact .refused i err arrived (eq_false_of_ne_true closed)
      · exact .idle _ fun _ h => by cases h
  | tick =>
      simp only [step]
      split
      · next due => exact .asked due
      · exact .idle _ fun _ h => by cases h
  | effects =>
      simp only [step]
      split
      · exact .idle _ fun _ h => by cases h
      · next closed => exact .ran (eq_false_of_ne_true closed)
  | close => exact .closed

end Steps

/-- A final value of the source does not change any more. -/
def Settles (policy : Policy α ε) (s : Poller α ε) : Event α ε → Prop
  | .source value => ∀ a, s.source = .ok a → policy.polls a = false → value = .ok a
  | _ => True

/-- The value is shown or on its way. -/
def Known (s : Poller α ε) (a : α) : Prop := s.shown = some a ∨ some (.ok a) ∈ s.requests

/-- The timer is as the value shown asks for, once effects have run; a client that shows
nothing is waiting for an answer; and a final value that is known is the current one. -/
structure Sound (policy : Policy α ε) (s : Poller α ε) : Prop where
  timer : s.dirty = false → s.closed = false → s.timer = s.shown.any policy.polls
  waits : s.shown = none → s.closed = false →
    s.redirected = true ∨ s.error.isSome = true ∨ s.requests ≠ []
  final : ∀ a, s.Known a → policy.polls a = false → s.source = .ok a

section Invariant
variable {policy : Policy α ε} {s s' : Poller α ε} {e : Event α ε}

/-- A value becomes known only when a request is served. -/
theorem Change.known (change : Change policy s e s') {a : α} (h : s'.Known a) :
    s.Known a ∨ s.source = .ok a := by
  have erased : ∀ {i}, some (.ok a) ∈ s.requests.eraseIdx i → s.Known a :=
    fun there => Or.inr (List.mem_of_mem_eraseIdx there)
  cases change with
  | idle | moved | ran | closed => exact Or.inl h
  | served i =>
      cases h with
      | inl shown => exact Or.inl (Or.inl shown)
      | inr there =>
          cases List.mem_or_eq_of_mem_set there with
          | inl old => exact Or.inl (Or.inr old)
          | inr new => exact Or.inr (Option.some.inj new).symm
  | failed i err =>
      cases h with
      | inl shown => exact Or.inl (Or.inl shown)
      | inr there =>
          cases List.mem_or_eq_of_mem_set there with
          | inl old => exact Or.inl (Or.inr old)
          | inr new => cases new
  | took i b arrived opened =>
      cases h with
      | inl shown => exact Or.inl (Or.inr (Option.some.inj shown ▸ arrived))
      | inr there => exact Or.inl (erased there)
  | dropped | sentAway | refused => exact Or.inl (h.elim Or.inl erased)
  | asked due =>
      refine Or.inl (h.imp id fun there => ?_)
      cases List.mem_append.mp there with
      | inl old => exact old
      | inr new => cases List.mem_singleton.mp new

theorem Sound.opened (policy : Policy α ε) (source : Except ε α) :
    Sound policy (opened source) where
  timer _ _ := rfl
  waits _ _ := Or.inr (Or.inr (List.cons_ne_nil _ _))
  final a known _ := by
    cases known with
    | inl shown => cases shown
    | inr there => cases List.mem_singleton.mp there

theorem Sound.preserved (sound : Sound policy s) (change : Change policy s e s')
    (settles : Settles policy s e) : Sound policy s' := by
  have final : s'.source = s.source → ∀ a, s'.Known a → policy.polls a = false →
      s'.source = .ok a := by
    intro same a known ends
    rw [same]
    exact (change.known known).elim (fun old => sound.final a old ends) id
  cases change with
  | idle e kept => exact sound
  | moved value =>
      exact ⟨sound.timer, sound.waits, fun a known ends =>
        settles a (sound.final a known ends) ends⟩
  | served i | failed i err =>
      refine ⟨sound.timer, fun nothing opened => ?_, final rfl⟩
      refine (sound.waits nothing opened).imp_right (Or.imp_right fun some none => some ?_)
      exact List.eq_nil_of_length_eq_zero (List.length_set.symm.trans (congrArg List.length none))
  | took i b arrived opened =>
      exact ⟨fun clean => (by cases clean), fun nothing => (by cases nothing), final rfl⟩
  | dropped i value arrived closed =>
      have never : ∀ {p : Prop}, s.closed = false → p := fun opened => by
        rw [closed] at opened
        cases opened
      exact ⟨fun _ => never, fun _ => never, final rfl⟩
  | sentAway i err arrived => exact ⟨sound.timer, fun _ _ => Or.inl rfl, final rfl⟩
  | refused i err arrived opened =>
      exact ⟨sound.timer, fun _ _ => Or.inr (Or.inl rfl), final rfl⟩
  | asked due =>
      exact ⟨sound.timer, fun _ _ => Or.inr (Or.inr (by simp [ask])), final rfl⟩
  | ran opened => exact ⟨fun _ _ => rfl, sound.waits, final rfl⟩
  | closed =>
      exact ⟨fun _ h => (by cases h), fun _ h => (by cases h), final rfl⟩

/-- Nothing is under way, and nothing will be by itself. -/
structure Quiet (s : Poller α ε) : Prop where
  requests : s.requests = []
  timer : s.timer = false
  dirty : s.dirty = false
  opened : s.closed = false

/-- A client that has come to rest shows the current value, and that is final, unless it was
sent elsewhere or has never got a value. -/
theorem Sound.quiet (sound : Sound policy s) (quiet : s.Quiet) :
    (s.redirected = true ∨ s.error.isSome = true) ∧ s.shown = none ∨
      ∃ a, s.shown = some a ∧ policy.polls a = false ∧ s.source = .ok a := by
  cases shown : s.shown with
  | none =>
      refine Or.inl ⟨?_, rfl⟩
      rcases sound.waits shown quiet.opened with away | error | waiting
      · exact Or.inl away
      · exact Or.inr error
      · exact absurd quiet.requests waiting
  | some a =>
      have stopped : policy.polls a = false := by
        have timer := sound.timer quiet.dirty quiet.opened
        rw [shown, quiet.timer] at timer
        exact timer.symm
      exact Or.inr ⟨a, rfl, stopped, sound.final a (Or.inl shown) stopped⟩

end Invariant

section Rest
variable {policy : Policy α ε} {s s' : Poller α ε} {e : Event α ε} {a : α}

/-- The final value is shown, without an error; nothing is under way, and the timer is off. -/
structure Done (policy : Policy α ε) (a : α) (s : Poller α ε) : Prop where
  source : s.source = .ok a
  final : policy.polls a = false
  shown : s.shown = some a
  error : s.error = none
  idle : s.requests = []
  timer : s.timer = false

/-- Whatever happens then, the value stays shown and nothing more is asked. -/
theorem Done.preserved (done : Done policy a s) (change : Change policy s e s')
    (settles : Settles policy s e) : Done policy a s' ∧ s'.sent = s.sent := by
  -- Without a request nothing can arrive.
  have never : ∀ value, some value ∉ s.requests := fun value arrived => by
    rw [done.idle] at arrived
    cases arrived
  cases change with
  | idle e kept => exact ⟨done, rfl⟩
  | moved value => exact ⟨{ done with source := settles a done.source done.final }, rfl⟩
  | served i | failed i err =>
      refine ⟨{ done with idle := ?_ }, rfl⟩
      rw [done.idle]
      rfl
  | asked due =>
      rw [done.timer] at due
      cases due
  | ran opened =>
      refine ⟨{ done with timer := ?_ }, rfl⟩
      rw [done.shown]
      exact done.final
  | closed => exact ⟨{ done with timer := rfl }, rfl⟩
  | took i b arrived | dropped i value arrived | sentAway i err arrived | refused i err arrived =>
      exact absurd arrived (never _)

/-- Neither closed nor sent away, with no error shown or on its way. -/
structure Live (policy : Policy α ε) (a : α) (s : Poller α ε) : Prop where
  sound : Sound policy s
  source : s.source = .ok a
  opened : s.closed = false
  stays : s.redirected = false
  error : s.error = none
  answers : ∀ err, some (.error err) ∉ s.requests

/-- The first request in flight arrives. -/
theorem Live.arrive (live : Live policy a s) {request : Option (Except ε α)}
    {rest : List (Option (Except ε α))} (first : s.requests = request :: rest) :
    ∃ es, (∀ e ∈ es, Event.goesOn e) ∧ Live policy a (Machine.run (step policy) s es) ∧
      (Machine.run (step policy) s es).requests = rest := by
  have arrives : ∀ s : Poller α ε, ∀ b, Live policy a s → s.requests = some (.ok b) :: rest →
      Live policy a (step policy s (.arrive 0)).1 ∧ (step policy s (.arrive 0)).1.requests = rest := by
    intro s b live first
    have sound := live.sound.preserved (step_change policy s (.arrive 0)) trivial
    have taken : (step policy s (.arrive 0)).1 =
        { s with requests := rest, shown := some b, dirty := true } := by
      simp [step, first, receive, live.opened]
    rw [taken] at sound ⊢
    refine ⟨⟨sound, live.source, live.opened, live.stays, live.error, fun err there => ?_⟩, rfl⟩
    exact live.answers err (first ▸ List.mem_cons_of_mem _ there)
  cases request with
  | none =>
      have sound := live.sound.preserved (step_change policy s (.serve 0)) trivial
      have served : (step policy s (.serve 0)).1 =
          { s with requests := some (.ok a) :: rest } := by
        simp [step, answer, first, live.source]
      rw [served] at sound
      have next : Live policy a { s with requests := some (.ok a) :: rest } :=
        ⟨sound, live.source, live.opened, live.stays, live.error, fun err there => by
          cases List.mem_cons.mp there with
          | inl same => cases same
          | inr later => exact live.answers err (first ▸ List.mem_cons_of_mem _ later)⟩
      refine ⟨[.serve 0, .arrive 0], by simp [Event.goesOn], ?_⟩
      rw [Machine.run, served]
      exact arrives _ a next rfl
  | some answer =>
      cases answer with
      | error err => exact absurd (first ▸ List.mem_cons_self) (live.answers err)
      | ok b => exact ⟨[.arrive 0], by simp [Event.goesOn], arrives s b live first⟩

/-- All requests in flight arrive. -/
theorem Live.drain (live : Live policy a s) :
    ∃ es, (∀ e ∈ es, Event.goesOn e) ∧ Live policy a (Machine.run (step policy) s es) ∧
      (Machine.run (step policy) s es).requests = [] := by
  generalize waiting : s.requests = requests
  induction requests generalizing s with
  | nil => exact ⟨[], by simp, live, waiting⟩
  | cons request rest ih =>
      obtain ⟨es, plain, next, left⟩ := live.arrive waiting
      obtain ⟨later, plain', last, none⟩ := ih next left
      refine ⟨es ++ later, fun e mem => ?_, ?_⟩
      · exact (List.mem_append.mp mem).elim (plain e) (plain' e)
      · rw [run_append]
        exact ⟨last, none⟩

/-- Once the value is final, the client can always come to rest on it. -/
theorem Live.comes_to_rest (live : Live policy a s) (final : policy.polls a = false) :
    ∃ es, (∀ e ∈ es, Event.goesOn e) ∧ Done policy a (Machine.run (step policy) s es) ∧
      Quiet (Machine.run (step policy) s es) := by
  obtain ⟨es, plain, next, idle⟩ := live.drain
  obtain ⟨b, shown⟩ : ∃ b, (Machine.run (step policy) s es).shown = some b := by
    refine Option.ne_none_iff_exists'.mp fun nothing => ?_
    rcases next.sound.waits nothing next.opened with away | error | waiting
    · rw [next.stays] at away
      cases away
    · rw [next.error] at error
      cases error
    · exact waiting idle
  have extend : ∀ later : List (Event α ε), (∀ e ∈ later, e.goesOn) → Done policy a
      (Machine.run (step policy) (Machine.run (step policy) s es) later) →
      Quiet (Machine.run (step policy) (Machine.run (step policy) s es) later) →
      ∃ es, (∀ e ∈ es, Event.goesOn e) ∧ Done policy a (Machine.run (step policy) s es) ∧
        Quiet (Machine.run (step policy) s es) := by
    intro later plain' done quiet
    rw [← run_append] at done quiet
    exact ⟨es ++ later, fun e mem => (List.mem_append.mp mem).elim (plain e) (plain' e), done, quiet⟩
  generalize Machine.run (step policy) s es = t at next idle shown extend
  cases polls : policy.polls b with
  | false =>
      -- What it shows is final, so it is the value; only the effects are left to run.
      obtain rfl : b = a :=
        Except.ok.inj ((next.sound.final b (Or.inl shown) polls).symm.trans next.source)
      have rests : Machine.run (step policy) t [.effects] = { t with timer := false, dirty := false } := by
        simp [Machine.run, step, next.opened, shown, polls]
      refine extend [.effects] (by simp [Event.goesOn]) ?_ ?_ <;> rw [rests]
      · exact ⟨next.source, final, shown, next.error, idle, rfl⟩
      · exact ⟨idle, rfl, rfl, next.opened⟩
  | true =>
      -- It shows an older value, so its timer runs and brings the final one.
      have rests : Machine.run (step policy) t [.effects, .tick, .serve 0, .arrive 0, .effects] =
          { t with shown := some a, timer := false, dirty := false, sent := t.sent + 1 } := by
        simp [Machine.run, step, next.opened, shown, idle, polls, ask, answer, receive, next.source,
          final]
      refine extend [.effects, .tick, .serve 0, .arrive 0, .effects] (by simp [Event.goesOn]) ?_ ?_ <;>
        rw [rests]
      · exact ⟨next.source, final, rfl, next.error, idle, rfl⟩
      · exact ⟨idle, rfl, rfl, next.opened⟩

end Rest
end Poller
end Polling

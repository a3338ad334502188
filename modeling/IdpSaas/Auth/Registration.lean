import IdpSaas.Auth.Tokens
import IdpSaas.Lib.Linearizable
import IdpSaas.Lib.Table

/-!
Concurrent registrations. A call looks its slug up, hashes the password, and then
creates tenant and owner in one transaction; other calls may run in between. The calls
are linearizable, and each new slug goes to one of them, as long as no transaction finds
its slug taken since the lookup. A transaction that does fails with the error of the
database, which no sequential order gives.
-/

namespace IdpSaas
open Owned AuthService

namespace Registration

/-- A call of `register`, with what is generated for it when its transaction runs. -/
structure Call where
  key : Nat
  now : Time
  generated : RegisterGenerated
  dto : RegisterDto
  deriving DecidableEq

inductive Pc
  | lookup
  | transaction
  | ended
  deriving DecidableEq

structure Progress extends Call where
  pc : Pc
  deriving DecidableEq

instance : Addressed Progress Unit := ⟨fun _ => (), fun p => p.key⟩

structure State where
  db : Database
  calls : Table Progress

inductive Event
  | start (call : Call)
  | lookup (key : Nat)
  | transaction (key : Nat)

section Machine
variable {τ : Type} (env : AuthEnv τ)

abbrev Outcome (τ : Type) := Except HttpError (AuthResponseDto τ)

def lookup (s : State) (key : Nat) : State × Option (Call × Outcome τ) :=
  match s.calls.find? () key with
  | some ⟨call, .lookup⟩ =>
      match tenantBySlug s.db call.dto.tenantSlug with
      | some _ =>
          ({ s with calls := s.calls.put ⟨call, .ended⟩ },
            some (call, .error (.conflict "Tenant slug already taken")))
      | none => ({ s with calls := s.calls.put ⟨call, .transaction⟩ }, none)
  | _ => (s, none)

def transaction (s : State) (key : Nat) : State × Option (Call × Outcome τ) :=
  match s.calls.find? () key with
  | some ⟨call, .transaction⟩ =>
      match createTenantAndOwner env call.now call.generated call.dto s.db with
      | .error err =>
          ({ s with calls := s.calls.put ⟨call, .ended⟩ }, some (call, .error (.internal err)))
      | .ok (tenant, user, db) =>
          (⟨db, s.calls.put ⟨call, .ended⟩⟩, some (call, respond env call.now user tenant))
  | _ => (s, none)

def step (s : State) : Event → State × Option (Call × Outcome τ)
  | .start call => ({ s with calls := s.calls.insert ⟨call, .lookup⟩ }, none)
  | .lookup key => lookup s key
  | .transaction key => transaction env s key

/-- What an event does: a call begins, goes on, or creates its rows. -/
inductive Move (s : State) : Event → State → Prop
  | idle (e : Event) : Move s e s
  | started (call : Call) : Move s (.start call) { s with calls := s.calls.insert ⟨call, .lookup⟩ }
  | moved (e : Event) (p : Progress) (mem : p ∈ s.calls) (pc : Pc) :
      Move s e { s with calls := s.calls.put { p with pc := pc } }
  | created (e : Event) (p : Progress) (mem : p ∈ s.calls)
      (free : KeysFree env p.generated p.dto s.db) :
      Move s e
        { db :=
            { s.db with
              tenants := s.db.tenants ++ [newTenant p.now p.generated p.dto]
              users := s.db.users ++ [newOwner env p.now p.generated p.dto] }
          calls := s.calls.put { p with pc := .ended } }

theorem step_move (s : State) (e : Event) : Move env s e (step env s e).1 := by
  cases e with
  | start call => exact .started call
  | lookup key =>
      rw [step, lookup]
      cases found : s.calls.find? () key with
      | none => exact .idle _
      | some p =>
          obtain ⟨mem, -⟩ := Table.find?_eq_some.mp found
          obtain ⟨call, pc⟩ := p
          cases pc with
          | transaction | ended => exact .idle _
          | lookup =>
              cases bySlug : tenantBySlug s.db call.dto.tenantSlug with
              | none => simpa only [bySlug] using Move.moved _ ⟨call, .lookup⟩ mem .transaction
              | some t => simpa only [bySlug] using Move.moved _ ⟨call, .lookup⟩ mem .ended
  | transaction key =>
      rw [step, transaction]
      cases found : s.calls.find? () key with
      | none => exact .idle _
      | some p =>
          obtain ⟨mem, -⟩ := Table.find?_eq_some.mp found
          obtain ⟨call, pc⟩ := p
          cases pc with
          | lookup | ended => exact .idle _
          | transaction =>
              simp only [createTenantAndOwner_eq]
              by_cases free : KeysFree env call.generated call.dto s.db
              · simpa only [if_pos free] using Move.created _ ⟨call, .transaction⟩ mem free
              · simpa only [if_neg free] using Move.moved _ ⟨call, .transaction⟩ mem .ended

/-- The call, made by itself. -/
def sequential (db : Database) (call : Call) : Outcome τ × Database :=
  register env call.now call.generated call.dto db

/-- When the transaction of a call runs, its unique keys are still free. -/
def Unraced (s : State) : Event → Prop
  | .transaction key =>
      ∀ p ∈ s.calls.find? () key, p.pc = .transaction → KeysFree env p.generated p.dto s.db
  | _ => True

instance (s : State) (e : Event) : Decidable (Unraced env s e) :=
  match e with
  | .transaction key =>
      inferInstanceAs (Decidable (∀ p ∈ s.calls.find? () key, p.pc = .transaction →
        KeysFree env p.generated p.dto s.db))
  | .start _ | .lookup _ => isTrue trivial

end Machine

section Sequential
variable {τ : Type} {env : AuthEnv τ}

def conflict : HttpError := .conflict "Tenant slug already taken"

def Call.tenant (c : Call) : Tenant := newTenant c.now c.generated c.dto

def Call.owner (env : AuthEnv τ) (c : Call) : User := newOwner env c.now c.generated c.dto

/-- What a call made by itself does: its slug is taken, its keys are free, or its slug is
free and another of its keys is not. -/
inductive Made (env : AuthEnv τ) (db : Database) (c : Call) : Outcome τ → Database → Prop
  | taken (t : Tenant) (found : tenantBySlug db c.dto.tenantSlug = some t) :
      Made env db c (.error conflict) db
  | created (a : Outcome τ) (free : KeysFree env c.generated c.dto db)
      (responded : a = respond env c.now (c.owner env) c.tenant) :
      Made env db c a
        { db with tenants := db.tenants ++ [c.tenant], users := db.users ++ [c.owner env] }
  | refused (free : tenantBySlug db c.dto.tenantSlug = none)
      (clash : ¬KeysFree env c.generated c.dto db) :
      Made env db c (.error (.internal env.uniqueConstraint)) db

theorem sequential_made (env : AuthEnv τ) (db : Database) (c : Call) :
    Made env db c (sequential env db c).1 (sequential env db c).2 := by
  cases found : tenantBySlug db c.dto.tenantSlug with
  | some t =>
      rw [sequential, register_taken found]
      exact .taken t found
  | none =>
      by_cases free : KeysFree env c.generated c.dto db
      · rw [sequential, register_free free]
        exact .created _ free rfl
      · rw [sequential, register, found]
        simp only [createTenantAndOwner_eq, if_neg free]
        exact .refused found free

theorem sequential_taken {db : Database} {c : Call} {t : Tenant}
    (found : tenantBySlug db c.dto.tenantSlug = some t) :
    sequential env db c = (.error conflict, db) := register_taken found

theorem sequential_free {db : Database} {c : Call} (free : KeysFree env c.generated c.dto db) :
    sequential env db c = (respond env c.now (c.owner env) c.tenant,
      { db with tenants := db.tenants ++ [c.tenant], users := db.users ++ [c.owner env] }) :=
  register_free free

/-- The steps of a call with nothing in between do what the call does by itself. -/
theorem run_call (s : State) (call : Call) (free : s.calls.find? () call.key = none) :
    (Machine.run (step env) s [.start call, .lookup call.key, .transaction call.key]).db =
      (sequential env s.db call).2 := by
  have started : (s.calls.insert ⟨call, .lookup⟩).find? () call.key = some ⟨call, .lookup⟩ :=
    Table.find?_insert_self free
  have next : ∀ pc, ((s.calls.insert ⟨call, .lookup⟩).put ⟨call, pc⟩).find? () call.key =
      some ⟨call, pc⟩ := fun pc => Table.find?_put_same started rfl
  simp only [Machine.run, step, lookup, started]
  cases bySlug : tenantBySlug s.db call.dto.tenantSlug with
  | some t =>
      simp only [transaction, next, sequential, register, bySlug]
  | none =>
      simp only [transaction, next, sequential, register, bySlug]
      cases createTenantAndOwner env call.now call.generated call.dto s.db <;> rfl

/-- Unraced events act as the calls they answer. -/
theorem acts_of_unraced (s : State) (e : Event) (unraced : Unraced env s e) :
    Linear.Acts (step env) State.db (sequential env) s e := by
  unfold Linear.Acts
  cases e with
  | start call => rfl
  | lookup key =>
      simp only [step, lookup]
      cases found : s.calls.find? () key with
      | none => rfl
      | some p =>
          obtain ⟨call, pc⟩ := p
          cases pc with
          | transaction | ended => rfl
          | lookup =>
              cases bySlug : tenantBySlug s.db call.dto.tenantSlug with
              | none => simp [bySlug]
              | some t =>
                  simp only [bySlug]
                  exact sequential_taken bySlug
  | transaction key =>
      simp only [step, transaction]
      cases found : s.calls.find? () key with
      | none => rfl
      | some p =>
          obtain ⟨call, pc⟩ := p
          cases pc with
          | lookup | ended => rfl
          | transaction =>
              have free : KeysFree env call.generated call.dto s.db := unraced _ found rfl
              simp only [createTenantAndOwner_eq, if_pos free]
              exact sequential_free free

/-- The call has created its rows, or found its slug taken. -/
def Settled (x : Call × Outcome τ) : Prop := x.2 = .error conflict ∨ ∃ response, x.2 = .ok response

theorem settled_of_unraced (signs : env.Signs) (s : State) (e : Event)
    (unraced : Unraced env s e) (x : Call × Outcome τ) (answered : (step env s e).2 = some x) :
    Settled x := by
  cases e with
  | start call => cases answered
  | lookup key =>
      simp only [step, lookup] at answered
      cases found : s.calls.find? () key with
      | none => simp [found] at answered
      | some p =>
          obtain ⟨call, pc⟩ := p
          cases pc with
          | transaction | ended => simp [found] at answered
          | lookup =>
              cases bySlug : tenantBySlug s.db call.dto.tenantSlug with
              | none => simp [found, bySlug] at answered
              | some t =>
                  simp only [found, bySlug, Option.some.injEq] at answered
                  exact Or.inl (answered ▸ rfl)
  | transaction key =>
      simp only [step, transaction] at answered
      cases found : s.calls.find? () key with
      | none => simp [found] at answered
      | some p =>
          obtain ⟨call, pc⟩ := p
          cases pc with
          | lookup | ended => simp [found] at answered
          | transaction =>
              have free : KeysFree env call.generated call.dto s.db := unraced _ found rfl
              simp only [found, createTenantAndOwner_eq, if_pos free, Option.some.injEq] at answered
              obtain ⟨tokens, ok⟩ := respond_ok signs call.now
                (newOwner env call.now call.generated call.dto)
                (newTenant call.now call.generated call.dto)
              exact Or.inr ⟨_, by rw [← answered]; exact ok⟩

/-- The calls that were answered with a session. -/
def winners (history : List (Call × Outcome τ)) : List Call :=
  history.filterMap fun x => match x.2 with
    | .ok _ => some x.1
    | .error _ => none

def forSlug (slug : String) (history : List (Call × Outcome τ)) : List (Call × Outcome τ) :=
  history.filter fun x => x.1.dto.tenantSlug == slug

/-- Settled calls that replay have added the rows of the winners, and no others. -/
theorem replays_rows (signs : env.Signs) {history : List (Call × Outcome τ)} {db db' : Database}
    (replayed : Linear.Replays (sequential env) db history db')
    (settled : ∀ x ∈ history, Settled x) :
    db' = { db with
      tenants := db.tenants ++ (winners history).map Call.tenant
      users := db.users ++ (winners history).map (Call.owner env) } := by
  induction history generalizing db with
  | nil => rw [← show db = db' from replayed]; simp [winners]
  | cons x rest ih =>
      obtain ⟨c, a⟩ := x
      obtain ⟨next, acts, replayed⟩ := (Linear.replays_cons _).mp replayed
      have later := ih replayed fun y hy => settled y (List.mem_cons_of_mem _ hy)
      have made := sequential_made env db c
      rw [acts] at made
      have first := settled _ List.mem_cons_self
      cases made with
      | taken t found => exact later
      | created _ free responded =>
          obtain ⟨tokens, ok⟩ := respond_ok signs c.now (c.owner env) c.tenant
          rw [later, show a = _ from responded.trans ok]
          simp [winners]
      | refused free clash => rcases first with same | ⟨_, same⟩ <;> cases same

/-- Once its slug is taken, every call conflicts. -/
theorem replays_taken {slug : String} {history : List (Call × Outcome τ)} {db db' : Database}
    (replayed : Linear.Replays (sequential env) db history db')
    (taken : ∃ t ∈ db.tenants, t.slug = slug) :
    ∀ x ∈ forSlug slug history, x.2 = .error conflict := by
  induction history generalizing db with
  | nil => exact fun x hx => absurd hx List.not_mem_nil
  | cons x rest ih =>
      obtain ⟨c, a⟩ := x
      obtain ⟨next, acts, replayed⟩ := (Linear.replays_cons _).mp replayed
      obtain ⟨t, mem, slugOf⟩ := taken
      have made := sequential_made env db c
      rw [acts] at made
      have kept : ∃ t ∈ next.tenants, t.slug = slug := by
        cases made with
        | taken _ found => exact ⟨t, mem, slugOf⟩
        | created _ free responded => exact ⟨t, List.mem_append_left _ mem, slugOf⟩
        | refused free clash => exact ⟨t, mem, slugOf⟩
      intro y hy
      obtain ⟨hy, named⟩ := List.mem_filter.mp hy
      rcases List.mem_cons.mp hy with rfl | hy
      · cases found : tenantBySlug db c.dto.tenantSlug with
        | none =>
            rw [tenantBySlug, List.find?_eq_none] at found
            exact absurd (slugOf.trans (beq_iff_eq.mp named).symm) (by simpa using found t mem)
        | some t =>
            rw [sequential_taken found] at acts
            exact (Prod.mk.inj acts).1.symm
      · exact ih replayed kept y (List.mem_filter.mpr ⟨hy, named⟩)

/-- The first call for a new slug wins it, and every later one conflicts. -/
theorem replays_new (signs : env.Signs) {slug : String} {history : List (Call × Outcome τ)}
    {db db' : Database} (replayed : Linear.Replays (sequential env) db history db')
    (settled : ∀ x ∈ history, Settled x) (new : ∀ t ∈ db.tenants, t.slug ≠ slug)
    (called : forSlug slug history ≠ []) :
    ∃ winner response losers, forSlug slug history = (winner, .ok response) :: losers ∧
      ∀ x ∈ losers, x.2 = .error conflict := by
  induction history generalizing db with
  | nil => exact absurd rfl called
  | cons x rest ih =>
      obtain ⟨c, a⟩ := x
      obtain ⟨next, acts, replayed⟩ := (Linear.replays_cons _).mp replayed
      have made := sequential_made env db c
      rw [acts] at made
      by_cases named : c.dto.tenantSlug = slug
      · have head : forSlug slug ((c, a) :: rest) = (c, a) :: forSlug slug rest :=
          List.filter_cons_of_pos (beq_iff_eq.mpr named)
        rw [head]
        cases made with
        | taken t found =>
            have slugOf := List.find?_some found
            simp only [beq_iff_eq] at slugOf
            exact absurd (slugOf.trans named) (new t (List.mem_of_find?_eq_some found))
        | created _ free responded =>
            obtain ⟨tokens, ok⟩ := respond_ok signs c.now (c.owner env) c.tenant
            rw [show a = _ from responded.trans ok]
            refine ⟨c, _, forSlug slug rest, rfl, replays_taken replayed ?_⟩
            exact ⟨c.tenant, List.mem_append_right _ (List.mem_singleton.mpr rfl), named⟩
        | refused free clash =>
            rcases settled _ List.mem_cons_self with same | ⟨_, same⟩ <;> cases same
      · have tail : forSlug slug ((c, a) :: rest) = forSlug slug rest :=
          List.filter_cons_of_neg (by rwa [beq_iff_eq])
        rw [tail] at called ⊢
        refine ih replayed (fun y hy => settled y (List.mem_cons_of_mem _ hy)) ?_ called
        cases made with
        | taken _ found => exact new
        | refused free clash => exact new
        | created _ free responded =>
            intro t ht
            rcases List.mem_append.mp ht with old | added
            · exact new t old
            · rw [List.mem_singleton.mp added]
              exact named

theorem mem_history {s : State} {es : List Event} (signs : env.Signs)
    (unraced : Machine.Along (step env) (Unraced env) s es) :
    ∀ x ∈ Linear.history (step env) s es, Settled x := by
  induction es generalizing s with
  | nil => exact fun x hx => absurd hx List.not_mem_nil
  | cons e es ih =>
      intro x hx
      rw [Linear.history_cons] at hx
      rcases List.mem_append.mp hx with here | later
      · exact settled_of_unraced signs s e unraced.1 x (Option.mem_toList.mp here)
      · exact ih unraced.2 x later

/-- Registrations none of whose transactions is raced are linearizable: each new slug
goes to one call, the others conflict, and the rows added are those of the winners. -/
theorem registrations_linearizable (env : AuthEnv τ) (signs : env.Signs) (db : Database)
    (es : List Event) (unraced : Machine.Along (step env) (Unraced env) ⟨db, .empty⟩ es) :
    let history := Linear.history (step env) ⟨db, .empty⟩ es
    let db' := (Machine.run (step env) ⟨db, .empty⟩ es).db
    Linear.Linearizable (sequential env) db history db' ∧
      db' = { db with
        tenants := db.tenants ++ (winners history).map Call.tenant
        users := db.users ++ (winners history).map (Call.owner env) } ∧
      ∀ slug, (∀ t ∈ db.tenants, t.slug ≠ slug) → forSlug slug history ≠ [] →
        ∃ winner response losers, forSlug slug history = (winner, .ok response) :: losers ∧
          ∀ x ∈ losers, x.2 = .error conflict := by
  intro history db'
  have acts : Machine.Along (step env) (Linear.Acts (step env) State.db (sequential env))
      ⟨db, .empty⟩ es := unraced.mono (step env) acts_of_unraced
  have replayed : Linear.Replays (sequential env) db history db' :=
    Linear.replays_run (step env) State.db (sequential env) acts
  have settled : ∀ x ∈ history, Settled x := mem_history signs unraced
  exact ⟨Linear.linearizable_run (step env) State.db (sequential env) acts,
    replays_rows signs replayed settled,
    fun slug new called => replays_new signs replayed settled new called⟩

end Sequential

namespace Sample
open Auth.Sample

def start : State := ⟨⟨[], [], [], []⟩, .empty⟩

/-- Two companies that ask for one slug. -/
def first : Call where
  key := 0
  now := 0
  generated := ⟨"tenant1", "user1", "salt1"⟩
  dto := ⟨"Acme Corporation", "acme", "jane@acme.com", "CorrectHorseBatteryStaple1!", none⟩

def second : Call where
  key := 1
  now := 5
  generated := ⟨"tenant2", "user2", "salt2"⟩
  dto := ⟨"Acme Limited", "acme", "john@acme.org", "BatteryStapleCorrectHorse2!", none⟩

/-- Both look the slug up before either creates its rows. -/
def race : List Event :=
  [.start first, .start second, .lookup 0, .lookup 1, .transaction 0, .transaction 1]

def inTurn : List Event :=
  [.start first, .start second, .lookup 0, .transaction 0, .lookup 1]

end Sample

/-- The loser of a race gets the error of the database, as in no sequential order. -/
theorem raced_registration_fails :
    (Linear.history (step Auth.Sample.env) Sample.start Sample.race)[1]? =
        some (Sample.second, .error (.internal ⟨some "Unique constraint failed"⟩)) ∧
      ¬Linear.Linearizable (sequential Auth.Sample.env) Sample.start.db
        (Linear.history (step Auth.Sample.env) Sample.start Sample.race)
        (Machine.run (step Auth.Sample.env) Sample.start Sample.race).db := by
  have history : Linear.history (step Auth.Sample.env) Sample.start Sample.race =
      [(Sample.first, (sequential Auth.Sample.env Sample.start.db Sample.first).1),
        (Sample.second, .error (.internal ⟨some "Unique constraint failed"⟩))] := by
    decide +kernel
  rw [history]
  refine ⟨rfl, fun linearizes => ?_⟩
  rcases Linear.linearizable_pair _ linearizes with ⟨-, loses, -⟩ | ⟨wins, -⟩
  · exact absurd loses (by decide +kernel)
  · exact absurd wins (by decide +kernel)

theorem registrations_linearizable_in_turn :
    Linear.Linearizable (sequential Auth.Sample.env) Sample.start.db
      (Linear.history (step Auth.Sample.env) Sample.start Sample.inTurn)
      (Machine.run (step Auth.Sample.env) Sample.start Sample.inTurn).db :=
  (registrations_linearizable Auth.Sample.env
    ⟨900, 604800, by decide +kernel, by decide +kernel⟩ Sample.start.db Sample.inTurn
    (by decide +kernel)).1

end Registration
end IdpSaas

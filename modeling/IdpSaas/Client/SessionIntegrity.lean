import IdpSaas.Client.Api

/-!
When local storage holds one session. A call that settles may write the tokens of a
refresh, set a session or clear it; these writes are unconditional, so they are right
exactly when the session they belong to is still the one stored.
-/

namespace IdpSaas
open Owned

namespace Client

/-- The sessions of the stored access token, refresh token and user. -/
def Storage.sessions (storage : Storage) : Option Nat × Option Nat × Option Nat :=
  (storage.access.map Item.session, storage.refresh.map Item.session,
    storage.user.map Item.session)

/-- The call was started under an earlier session than the one stored. -/
def Call.displaced (c : Call) (s : Browser) : Prop :=
  ∃ a b, c.under = some a ∧ s.current = some b ∧ a < b

/-- Whether the call writes to local storage when it settles. -/
def Call.writes (c : Call) (settled : Settled) : Bool :=
  match c.pc with
  | .refreshBody _ => settled.tokens.isSome
  | .returned auth => auth.isSome && c.page.signsIn
  | .threw statusCode => decide (statusCode = some 401) && c.page.signsOut
  | _ => false

/-- The session that the call writes for is still the one stored: that of the token it
refreshed, or the one it was started under. -/
def Call.Timely (c : Call) (s : Browser) : Prop :=
  match c.pc with
  | .refreshBody refreshToken => s.current = some refreshToken.session
  | _ => ¬c.displaced s

def Event.call (s : Browser) : Event → Option Call
  | .settle tab key _ => s.calls.find? tab key
  | _ => none

/-- Calls write to local storage only in time. -/
def TimelyWrites (s : Browser) : Event → Prop
  | .settle tab key settled =>
      ∀ c, s.calls.find? tab key = some c → c.writes settled = true → c.Timely s
  | _ => True

/-- After the event all that is stored belongs to one session, nothing is stored when the
session was cleared last, and a call started under an earlier session than the stored one
has left that in place. -/
structure SessionKept (s : Browser) (e : Event) : Prop where
  one : ∃ o, (step s e).1.storage.sessions = (o, o, o)
  cleared : (step s e).1.current = none → (step s e).1.storage = clearSession
  later : ∀ c a b, e.call s = some c → c.under = some a → s.current = some b → a < b →
    (step s e).1.storage.sessions = s.storage.sessions

/-- What is stored belongs to the session set last, and no call was started under a later one. -/
structure Sound (s : Browser) : Prop where
  stored : s.storage.sessions = (s.current, s.current, s.current)
  current : ∀ b, s.current = some b → b + 1 = s.logins
  under : ∀ c ∈ s.calls, ∀ a, c.under = some a → a < s.logins

/-- Only the body of a refresh makes `apiFetch` write to local storage. -/
theorem apiFetch_storage (accessToken : Option Item) (settled : Settled) (storage : Storage)
    {pc : ApiPc} (other : ∀ refreshToken, pc ≠ .refreshBody refreshToken) :
    (apiFetch accessToken settled storage pc).1 = storage := by
  cases pc with
  | fetching =>
      rw [apiFetch]
      cases settled.fetch with
      | none => rfl
      | some status =>
          simp only
          split <;> rfl
  | refreshing refreshToken =>
      rw [apiFetch]
      cases settled.fetch with
      | none => rfl
      | some status =>
          simp only
          split <;> rfl
  | refreshBody refreshToken => exact absurd rfl (other refreshToken)
  | refreshed ok => cases ok <;> rfl
  | retrying newAccess =>
      rw [apiFetch]
      cases settled.fetch <;> rfl
  | text status =>
      rw [apiFetch]
      cases settled.body with
      | none => rfl
      | some body =>
          simp only
          split <;> rfl
  | returned auth => rfl
  | threw statusCode => rfl
  | ended => rfl

/-- What a call can do when it settles. -/
inductive Effect (s : Browser) (c : Call) (settled : Settled) : Browser → Prop
  | silent (c' : Call) (quiet : c.writes settled = false)
      (under : c'.under = c.under ∨ c'.under = s.current) :
      Effect s c settled { s with calls := s.calls.put c' }
  | refreshed (refreshToken : Item) (access : String) (refresh : Option String) (next : ApiPc)
      (pc : c.pc = .refreshBody refreshToken) (tokens : settled.tokens = some (access, refresh)) :
      Effect s c settled { s with
        storage := { s.storage with
          access := some ⟨refreshToken.session, access⟩
          refresh := (refresh.map (Item.mk refreshToken.session)).or s.storage.refresh }
        calls := s.calls.put { c with pc := next } }
  | signedIn (auth : AuthResponse) (pc : c.pc = .returned (some auth))
      (page : c.page.signsIn = true) : Effect s c settled ((s.finish c).signIn auth)
  | signedOut (pc : c.pc = .threw (some 401)) (page : c.page.signsOut = true) :
      Effect s c settled (s.finish c).signOut

theorem apiFetch_effect {s : Browser} {c : Call} {settled : Settled}
    (other : ∀ refreshToken, c.pc ≠ .refreshBody refreshToken) (quiet : c.writes settled = false) :
    Effect s c settled { s with
      storage := (apiFetch c.accessToken settled s.storage c.pc).1
      calls := s.calls.put
        { c with pc := (apiFetch c.accessToken settled s.storage c.pc).2 } } := by
  rw [apiFetch_storage _ _ _ other]
  exact Effect.silent _ quiet (Or.inl rfl)

theorem settle_effect {s : Browser} {tab key : Nat} {c : Call} (settled : Settled)
    (found : s.calls.find? tab key = some c) :
    Effect s c settled (s.settle tab key settled).1 := by
  rw [Browser.settle, found]
  obtain ⟨tab', key', page, accessToken, pc, under⟩ := c
  cases pc with
  | returned auth =>
      cases page with
      | dashboard => exact Effect.silent _ (Bool.and_false _) (Or.inl rfl)
      | document => exact Effect.silent _ (Bool.and_false _) (Or.inl rfl)
      | upload => exact Effect.silent _ (Bool.and_false _) (Or.inr rfl)
      | login =>
          cases auth with
          | none => exact Effect.silent _ rfl (Or.inl rfl)
          | some auth => exact Effect.signedIn auth rfl rfl
      | register =>
          cases auth with
          | none => exact Effect.silent _ rfl (Or.inl rfl)
          | some auth => exact Effect.signedIn auth rfl rfl
  | threw statusCode =>
      simp only [Browser.threw]
      by_cases out : page.signsOut = true ∧ statusCode = some 401
      · rw [if_pos out]
        obtain ⟨out, rfl⟩ := out
        exact Effect.signedOut rfl out
      · rw [if_neg out]
        refine Effect.silent _ ?_ (Or.inl rfl)
        simpa [Call.writes, and_comm] using out
  | refreshBody refreshToken =>
      simp only [apiFetch]
      cases tokens : settled.tokens with
      | none => exact Effect.silent _ (by simp [Call.writes, tokens]) (Or.inl rfl)
      | some pair => exact Effect.refreshed refreshToken pair.1 pair.2 _ rfl tokens
  | fetching | refreshing _ | refreshed _ | retrying _ | text _ | ended =>
      exact apiFetch_effect nofun rfl

theorem sessions_eq_none {storage : Storage} (h : storage.sessions = (none, none, none)) :
    storage = clearSession := by
  obtain ⟨access, refresh, user⟩ := storage
  simp only [Storage.sessions, Prod.mk.injEq, Option.map_eq_none_iff] at h
  obtain ⟨rfl, rfl, rfl⟩ := h
  rfl

theorem Sound.init : Sound .init := ⟨rfl, fun _ h => (nomatch h), fun _ h => (nomatch h)⟩

/-- A call that is started or replaced is under the session stored then, or as before. -/
theorem Sound.under_put {s : Browser} (sound : Sound s) {c c' x : Call} (h : x ∈ s.calls.put c')
    (mem : c ∈ s.calls) (under : c'.under = c.under ∨ c'.under = s.current) {a : Nat}
    (hx : x.under = some a) : a < s.logins := by
  rcases Table.of_mem_put h with rfl | ⟨old, -⟩
  · rcases under with same | now
    · exact sound.under c mem a (same ▸ hx)
    · have last := sound.current a (now ▸ hx)
      omega
  · exact sound.under x old a hx

theorem session_or {session : Nat} {item : Option Item}
    (same : item.map Item.session = some session) (refresh : Option String) :
    ((refresh.map (Item.mk session)).or item).map Item.session = some session := by
  cases refresh with
  | none => exact same
  | some text => rfl

/-- A write made in time keeps one session stored. -/
theorem Effect.sound {s s' : Browser} {c : Call} {settled : Settled} (effect : Effect s c settled s')
    (sound : Sound s) (mem : c ∈ s.calls) (timely : c.writes settled = true → c.Timely s) :
    Sound s' := by
  cases effect with
  | silent c' quiet under =>
      exact ⟨sound.stored, sound.current, fun x h a hx => sound.under_put h mem under hx⟩
  | refreshed refreshToken access refresh next pc tokens =>
      have current : s.current = some refreshToken.session := by
        have now := timely (by rw [Call.writes, pc, tokens]; rfl)
        rwa [Call.Timely, pc] at now
      have user : s.storage.user.map Item.session = s.current := congrArg (·.2.2) sound.stored
      have refreshed : s.storage.refresh.map Item.session = s.current :=
        congrArg (·.2.1) sound.stored
      refine ⟨?_, sound.current, fun x h a hx => sound.under_put h mem (Or.inl rfl) hx⟩
      simp only [Storage.sessions, user, current, session_or (refreshed.trans current)]
      rfl
  | signedIn auth pc page =>
      refine ⟨rfl, fun b h => ?_, fun x h a hx => ?_⟩
      · exact congrArg (· + 1) (Option.some.inj h).symm
      · have before := sound.under_put h mem (Or.inl rfl) hx
        exact Nat.lt_succ_of_lt before
  | signedOut pc page =>
      exact ⟨rfl, fun b h => (nomatch h), fun x h a hx => sound.under_put h mem (Or.inl rfl) hx⟩

theorem Sound.preserved (s : Browser) (e : Event) (sound : Sound s) (timely : TimelyWrites s e) :
    Sound (step s e).1 := by
  cases e with
  | start tab key page =>
      rw [step, Browser.start]
      cases s.calls.find? tab key with
      | some c => exact sound
      | none =>
          refine ⟨sound.stored, sound.current, fun x h a hx => ?_⟩
          rcases Table.of_mem_insert h with old | rfl
          · exact sound.under x old a hx
          · have last := sound.current a hx
            exact last ▸ Nat.lt_succ_self a
  | settle tab key settled =>
      cases found : s.calls.find? tab key with
      | none =>
          rw [step, Browser.settle, found]
          exact sound
      | some c =>
          exact (settle_effect settled found).sound sound (Table.find?_eq_some.mp found).1
            (timely c found)
  | signOut => exact ⟨rfl, fun b h => (nomatch h), sound.under⟩

/-- An effect that leaves an earlier call's successor in place was in time. -/
theorem Effect.timely {s s' : Browser} {c : Call} {settled : Settled} (effect : Effect s c settled s')
    (sound : Sound s) (one : ∃ o, s'.storage.sessions = (o, o, o))
    (later : ∀ a b, c.under = some a → s.current = some b → a < b →
      s'.storage.sessions = s.storage.sessions) :
    c.writes settled = true → c.Timely s := by
  intro writes
  cases effect with
  | silent c' quiet under =>
      rw [quiet] at writes
      exact absurd writes Bool.false_ne_true
  | refreshed refreshToken access refresh next pc tokens =>
      obtain ⟨o, one⟩ := one
      have token : some refreshToken.session = o := congrArg (·.1) one
      have user : s.storage.user.map Item.session = o := congrArg (·.2.2) one
      have stored : s.storage.user.map Item.session = s.current := congrArg (·.2.2) sound.stored
      rw [Call.Timely, pc]
      exact stored.symm.trans (user.trans token.symm)
  | signedIn auth pc page =>
      rw [Call.Timely, pc]
      rintro ⟨a, b, under, current, older⟩
      have kept := (later a b under current older).trans sound.stored
      have same : some s.logins = s.current := congrArg (·.1) kept
      have last := sound.current s.logins same.symm
      omega
  | signedOut pc page =>
      rw [Call.Timely, pc]
      rintro ⟨a, b, under, current, older⟩
      have kept := (later a b under current older).trans sound.stored
      have same : none = s.current := congrArg (·.1) kept
      rw [current] at same
      cases same

/-- An effect in time leaves the session of a later login in place. -/
theorem Effect.later {s s' : Browser} {c : Call} {settled : Settled} (effect : Effect s c settled s')
    (sound : Sound s) (timely : c.writes settled = true → c.Timely s) (displaced : c.displaced s) :
    s'.storage.sessions = s.storage.sessions := by
  cases effect with
  | silent c' quiet under => rfl
  | refreshed refreshToken access refresh next pc tokens =>
      have now := timely (by rw [Call.writes, pc, tokens]; rfl)
      rw [Call.Timely, pc] at now
      have user : s.storage.user.map Item.session = s.current := congrArg (·.2.2) sound.stored
      have refreshed : s.storage.refresh.map Item.session = s.current :=
        congrArg (·.2.1) sound.stored
      rw [sound.stored, now]
      simp only [Storage.sessions, user, now, session_or (refreshed.trans now)]
      rfl
  | signedIn auth pc page =>
      have now := timely (by rw [Call.writes, pc, page]; rfl)
      rw [Call.Timely, pc] at now
      exact absurd displaced now
  | signedOut pc page =>
      have now := timely (by rw [Call.writes, pc, page]; rfl)
      rw [Call.Timely, pc] at now
      exact absurd displaced now

/-- Where one session is stored, an event keeps it exactly when it writes in time. -/
theorem timely_iff_kept (s : Browser) (e : Event) (sound : Sound s) :
    TimelyWrites s e ↔ SessionKept s e := by
  constructor
  · intro timely
    have after := sound.preserved s e timely
    refine ⟨⟨_, after.stored⟩, fun cleared => sessions_eq_none (cleared ▸ after.stored),
      fun c a b call under current older => ?_⟩
    cases e with
    | start tab key page => cases call
    | signOut => cases call
    | settle tab key settled =>
        exact (settle_effect settled call).later sound (timely c call) ⟨a, b, under, current, older⟩
  · intro kept
    cases e with
    | start tab key page => trivial
    | signOut => trivial
    | settle tab key settled =>
        intro c found
        exact (settle_effect settled found).timely sound kept.one
          fun a b under current older => kept.later c a b found under current older

/-- In a run of any calls, the browser keeps to one session exactly when each refreshed
token is stored while its session is, and no call started under an earlier session than
the stored one sets or clears it. -/
theorem session_integrity_iff (es : List Event) :
    Machine.Along step TimelyWrites .init es ↔ Machine.Along step SessionKept .init es :=
  Machine.along_iff step Sound.preserved timely_iff_kept Sound.init

namespace Sample

def replies (fetch : Nat) (tokens : Option (String × Option String)) (auth : Option AuthResponse) : Settled :=
  ⟨some fetch, tokens, some (some ⟨none, auth⟩)⟩

/-- A sign-in that goes through. -/
def signedIn (key : Nat) (user : String) : List Event :=
  .start 0 key .login ::
    List.replicate 3 (.settle 0 key (replies 200 none (some ⟨"access", "refresh", user⟩)))

/-- A refresh that is still in flight when another user signs in. -/
def slowRefresh : List Event :=
  signedIn 0 "first" ++ [.start 0 1 .dashboard, .settle 0 1 (replies 401 none none), .signOut] ++
    signedIn 2 "second" ++ List.replicate 2 (.settle 0 1 (replies 200 (some ("access'", some "refresh'")) none))

end Sample

/-- The tokens of the first session end up beside the user of the second. -/
theorem slow_refresh_mixes_sessions :
    (Machine.run step .init Sample.slowRefresh).storage.sessions = (some 0, some 0, some 1) := by
  decide +kernel

end Client
end IdpSaas

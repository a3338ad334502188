import IdpSaas.Auth.Sessions
import Mathlib.Data.List.Nodup

/-!
When the paths that give out tokens respect suspension. A login checks user and
tenant, a refresh neither, so a user who may still refresh has to be active; a change
of status keeps that true exactly when it hits nobody with a token left to refresh.
-/

namespace IdpSaas
open Owned AuthService

namespace Auth
variable {τ : Type} (env : AuthEnv τ)

/-- The user holds a token that a refresh accepts and that has not expired. -/
def Outstanding (s : State) (userId : String) : Prop :=
  ∃ p ∈ s.issued, p.1 = env.refreshSecret ∧ s.now / 1000 < p.2.exp ∧ p.2.sub = userId

/-- Users lose their standing only when they hold no such token. -/
def Careful (s : State) : Event τ → Prop
  | .setUserStatus id status => status ≠ .active → ¬Outstanding env s id
  | .setTenantStatus id status =>
      status ≠ .active → ∀ u ∈ s.db.users, u.tenantId = id → ¬Outstanding env s u.id
  | .deleteUser id => ¬Outstanding env s id
  | _ => True

instance (s : State) (userId : String) : Decidable (Outstanding env s userId) :=
  inferInstanceAs (Decidable (∃ p ∈ s.issued, p.1 = env.refreshSecret ∧
    s.now / 1000 < p.2.exp ∧ p.2.sub = userId))

instance (s : State) (e : Event τ) : Decidable (Careful env s e) :=
  match e with
  | .setUserStatus id status =>
      inferInstanceAs (Decidable (status ≠ .active → ¬Outstanding env s id))
  | .setTenantStatus id status =>
      inferInstanceAs (Decidable
        (status ≠ .active → ∀ u ∈ s.db.users, u.tenantId = id → ¬Outstanding env s u.id))
  | .deleteUser id => inferInstanceAs (Decidable (¬Outstanding env s id))
  | .register _ _ | .call _ | .elapse _ => isTrue trivial

/-- A login or refresh that would be made now gives out tokens only for an active user of
an active tenant. -/
def Respects (s : State) : Prop :=
  ∀ (c : Call τ) answer, Unforged env s (.call c) → (step env s (.call c)).2 = some answer →
    answer.granted = true → ∃ userId, c.user env s = some userId ∧ Active s.db userId

/-- Whoever may still refresh is active. -/
def Covered (s : State) : Prop := ∀ userId, Outstanding env s userId → Active s.db userId

/-- Ids are unique, and tokens have been given out only if their lifetimes can be read. -/
structure Regular (s : State) : Prop where
  ids : (s.db.users.map User.id).Nodup
  lifetimes : s.issued ≠ [] → ∀ now payload, (claimsFor env now payload).isSome = true

variable {env}

section Calls
variable {s : State} {db : Database}

/-- A login that is let in is for an active user of an active tenant. -/
theorem authenticate_active {dto : LoginDto} {user : User} {tenant : Tenant}
    (h : authenticate env dto db = .ok (user, tenant)) : Active db user.id := by
  obtain ⟨bySlug, tenantActive, byEmail, userActive, -⟩ := authenticate_ok_iff.mp h
  have owner := List.find?_some byEmail
  rw [Bool.and_eq_true, beq_iff_eq] at owner
  exact ⟨user, List.mem_of_find?_eq_some byEmail, rfl, userActive, tenant,
    List.mem_of_find?_eq_some bySlug, owner.1.symm, tenantActive⟩

/-- A presented token that verifies is an outstanding one. -/
theorem presented_outstanding {refreshToken : τ} {claims : JwtClaims}
    (unforged : Unforged env s (.call (.refresh refreshToken)))
    (h : s.presented env refreshToken = some claims) : Outstanding env s claims.sub := by
  obtain ⟨p, mem, rfl⟩ := unforged claims h
  rw [State.presented, env.jwt.verify_sign] at h
  split at h
  · next valid =>
      cases h
      exact ⟨p, mem, valid.1.symm, valid.2, rfl⟩
  · cases h

theorem Covered.respects (covered : Covered env s) : Respects env s := by
  intro c answer unforged answered granted
  cases c with
  | login dto =>
      simp only [step, State.respond, login] at answered
      cases checked : authenticate env dto s.db with
      | error e =>
          rw [checked] at answered
          cases answered
          cases granted
      | ok found =>
          exact ⟨found.1.id, by rw [Call.user, checked], authenticate_active checked⟩
  | refresh refreshToken =>
      cases verified : s.presented env refreshToken with
      | none =>
          rw [State.presented] at verified
          simp only [step, State.refresh, AuthService.refresh, verified] at answered
          cases answered
          cases granted
      | some claims =>
          exact ⟨claims.sub, by rw [Call.user, verified]; rfl,
            covered claims.sub (presented_outstanding unforged verified)⟩

theorem Respects.covered (respects : Respects env s) (regular : Regular env s) :
    Covered env s := by
  rintro userId ⟨p, mem, signed, alive, rfl⟩
  have verified : env.jwt.verify env.refreshSecret (s.now / 1000) (env.jwt.sign p.1 p.2) =
      some p.2 := by rw [env.jwt.verify_sign, if_pos ⟨signed.symm, alive⟩]
  have unforged : Unforged env s (.call (.refresh (env.jwt.sign p.1 p.2))) :=
    fun _ _ => ⟨p, mem, rfl⟩
  have issued := regular.lifetimes (List.ne_nil_of_mem mem) s.now p.2.toJwtPayload
  obtain ⟨pair, issued⟩ := Option.isSome_iff_exists.mp issued
  have answered : ∃ tokens,
      (step env s (.call (.refresh (env.jwt.sign p.1 p.2)))).2 = some (.tokens tokens) := by
    simp only [step, State.refresh, AuthService.refresh, verified, issueTokens, issued]
    exact ⟨_, rfl⟩
  obtain ⟨tokens, answered⟩ := answered
  obtain ⟨userId, user, active⟩ := respects _ _ unforged answered rfl
  rw [Call.user, State.presented, verified] at user
  cases user
  exact active

end Calls

section Standing
variable {db : Database} {userId : String}

theorem Active.append (h : Active db userId) (tenants : List Tenant) (users : List User) :
    Active { db with tenants := db.tenants ++ tenants, users := db.users ++ users } userId := by
  obtain ⟨u, mem, same, active, t, tenant, owner, tenantActive⟩ := h
  exact ⟨u, List.mem_append_left _ mem, same, active, t, List.mem_append_left _ tenant, owner,
    tenantActive⟩

/-- An update of users that leaves the active rows of one user active. -/
theorem Active.modify_users (h : Active db userId) {p : User → Bool} {f : User → User}
    (keeps : ∀ u, u.id = userId → u.status = .active → p u = true →
      (f u).id = u.id ∧ (f u).tenantId = u.tenantId ∧ (f u).status = .active) :
    Active { db with users := modify p f db.users } userId := by
  obtain ⟨u, mem, same, active, t, tenant, owner, tenantActive⟩ := h
  refine ⟨_, mem_modify.mpr ⟨u, mem, rfl⟩, ?_⟩
  by_cases hit : p u = true
  · obtain ⟨id, tenantId, status⟩ := keeps u same active hit
    rw [if_pos hit]
    exact ⟨id.trans same, status, t, tenant, owner.trans tenantId.symm, tenantActive⟩
  · rw [if_neg hit]
    exact ⟨same, active, t, tenant, owner, tenantActive⟩

theorem Active.setTenantStatus (h : Active db userId) {id : String} {status : TenantStatus}
    (keeps : status ≠ .active → ∀ u ∈ db.users, u.id = userId → u.tenantId ≠ id) :
    Active (db.setTenantStatus id status) userId := by
  obtain ⟨u, mem, same, active, t, tenant, owner, tenantActive⟩ := h
  refine ⟨u, mem, same, active, _, mem_modify.mpr ⟨t, tenant, rfl⟩, ?_⟩
  by_cases hit : t.id = id
  · rw [if_pos (beq_iff_eq.mpr hit)]
    refine ⟨owner, ?_⟩
    by_contra inactive
    exact keeps inactive u mem same (owner.symm.trans hit)
  · rw [if_neg (by rwa [beq_iff_eq])]
    exact ⟨owner, tenantActive⟩

theorem Active.deleteUser (h : Active db userId) {id : String} (other : userId ≠ id) :
    Active (db.deleteUser id) userId := by
  obtain ⟨u, mem, same, active, tenant⟩ := h
  exact ⟨u, List.mem_filter.mpr ⟨mem, bne_iff_ne.mpr (same ▸ other)⟩, same, active, tenant⟩

end Standing

section Issue
variable {s : State} {payload : JwtPayload} {userId : String}

theorem claimsFor_isSome (now now' : Time) (payload payload' : JwtPayload) :
    (claimsFor env now payload).isSome = (claimsFor env now' payload').isSome := by
  rw [claimsFor, claimsFor]
  cases env.jwt.seconds env.accessExpiresIn <;> cases env.jwt.seconds env.refreshExpiresIn <;> rfl

theorem claimsFor_sub {now : Time} {access refresh : String × JwtClaims}
    (h : claimsFor env now payload = some (access, refresh)) :
    access.2.sub = payload.sub ∧ refresh.2.sub = payload.sub := by
  rw [claimsFor] at h
  cases accessSeconds : env.jwt.seconds env.accessExpiresIn with
  | none => simp [accessSeconds] at h
  | some a =>
      cases refreshSeconds : env.jwt.seconds env.refreshExpiresIn with
      | none => simp [accessSeconds, refreshSeconds] at h
      | some r =>
          simp only [accessSeconds, refreshSeconds, Option.some.injEq, Prod.mk.injEq] at h
          obtain ⟨rfl, rfl⟩ := h
          exact ⟨rfl, rfl⟩

theorem Regular.issue (regular : Regular env s) : Regular env (s.issue env payload) := by
  rw [State.issue]
  cases issued : claimsFor env s.now payload with
  | none => exact regular
  | some pair =>
      refine ⟨regular.ids, fun _ now payload' => ?_⟩
      rw [claimsFor_isSome now s.now payload' payload, issued]
      rfl

theorem Covered.issue (covered : Covered env s) (active : Active s.db payload.sub) :
    Covered env (s.issue env payload) := by
  rw [State.issue]
  cases issued : claimsFor env s.now payload with
  | none => exact covered
  | some pair =>
      rintro userId ⟨p, mem, signed, alive, rfl⟩
      obtain ⟨access, refresh⟩ := claimsFor_sub issued
      rcases List.mem_append.mp mem with old | new
      · exact covered _ ⟨p, old, signed, alive, rfl⟩
      · simp only [List.mem_cons, List.not_mem_nil, or_false] at new
        rcases new with rfl | rfl
        · rw [access]
          exact active
        · rw [refresh]
          exact active

theorem respond_user {now : Time} {user : User} {tenant : Tenant} {response : AuthResponseDto τ}
    (h : respond env now user tenant = .ok response) : response.user.id = user.id := by
  rw [respond] at h
  cases issued : issueTokens env now ⟨user.id, tenant.id, user.role⟩ with
  | error err => simp [issued] at h
  | ok tokens =>
      simp only [issued, Except.ok.injEq] at h
      rw [← h]

theorem Regular.respond {r : Except HttpError (AuthResponseDto τ) × Database}
    (regular : Regular env { s with db := r.2 }) : Regular env (s.respond env r).1 := by
  rw [State.respond]
  cases r.1 with
  | error e => exact regular
  | ok response => exact regular.issue

theorem Covered.respond {now : Time} {user : User} {tenant : Tenant} {db : Database}
    (covered : Covered env { s with db := db }) (active : Active db user.id) :
    Covered env (s.respond env (AuthService.respond env now user tenant, db)).1 := by
  rw [State.respond]
  cases answered : AuthService.respond env now user tenant with
  | error e => exact covered
  | ok response =>
      refine covered.issue ?_
      rw [← respond_user answered] at active
      exact active

end Issue

/-- A login changes nothing, or notes its time on the row of a user it lets in. -/
theorem login_cases (env : AuthEnv τ) (now : Time) (db : Database) (dto : LoginDto) :
    (∃ e, login env now dto db = (.error e, db)) ∨
      ∃ user tenant, Active db user.id ∧ login env now dto db = (respond env now user tenant,
        { db with
          users := modify (fun u => u.id == user.id)
            (fun u => { u with lastLoginAt := some now, updatedAt := now }) db.users }) := by
  cases checked : authenticate env dto db with
  | error e => exact Or.inl ⟨e, by rw [login, checked]⟩
  | ok found =>
      exact Or.inr ⟨found.1, found.2, authenticate_active checked, login_of_authenticate checked now⟩

section Steps
variable {s : State}

theorem Covered.change (covered : Covered env s) {db : Database}
    (keeps : ∀ userId, Outstanding env s userId → Active s.db userId → Active db userId) :
    Covered env { s with db := db } :=
  fun userId outstanding => keeps userId outstanding (covered userId outstanding)

theorem Regular.change (regular : Regular env s) {db : Database}
    (ids : (db.users.map User.id).Nodup) : Regular env { s with db := db } :=
  ⟨ids, regular.lifetimes⟩

theorem nodup_modify {p : User → Bool} {f : User → User} (keeps : ∀ u, (f u).id = u.id)
    {users : List User} (ids : (users.map User.id).Nodup) :
    ((modify p f users).map User.id).Nodup := by
  rwa [map_modify User.id users fun u _ => keeps u]

theorem Regular.preserved (regular : Regular env s) (e : Event τ) :
    Regular env (step env s e).1 := by
  cases e with
  | register g dto =>
      refine Regular.respond (regular.change ?_)
      by_cases free : KeysFree env g dto s.db
      · have new : g.userUuid ∉ s.db.users.map User.id := by
          intro taken
          obtain ⟨u, mem, same⟩ := List.mem_map.mp taken
          exact (free.2 u mem).1 same
        rw [register_free free, List.map_append]
        exact List.nodup_append_comm.mp (List.nodup_cons.mpr ⟨new, regular.ids⟩)
      · obtain ⟨e, refused⟩ := register_refused s.now free
        rw [refused]
        exact regular.ids
  | call c =>
      cases c with
      | login dto =>
          refine Regular.respond (regular.change ?_)
          rcases login_cases env s.now s.db dto with ⟨e, same⟩ | entered
          · rw [same]
            exact regular.ids
          · obtain ⟨user, tenant, -, entered⟩ := entered
            rw [entered]
            exact nodup_modify (by exact fun _ => rfl) regular.ids
      | refresh refreshToken =>
          rw [step, State.refresh]
          cases AuthService.refresh env s.now refreshToken with
          | error e => exact regular
          | ok tokens =>
              cases s.presented env refreshToken with
              | none => exact regular
              | some claims => exact regular.issue
  | setUserStatus id status => exact regular.change (nodup_modify (by exact fun _ => rfl) regular.ids)
  | setTenantStatus id status => exact regular.change regular.ids
  | deleteUser id => exact regular.change (regular.ids.sublist (List.filter_sublist.map User.id))
  | elapse duration => exact ⟨regular.ids, regular.lifetimes⟩

/-- A careful change keeps whoever may still refresh active. -/
theorem Covered.preserved (covered : Covered env s) (e : Event τ) (unforged : Unforged env s e)
    (careful : Careful env s e) : Covered env (step env s e).1 := by
  cases e with
  | register g dto =>
      rw [step]
      by_cases free : KeysFree env g dto s.db
      · rw [register_free free]
        refine Covered.respond (covered.change fun _ _ h => h.append _ _) ?_
        exact ⟨_, List.mem_append_right _ (List.mem_singleton_self _), rfl, rfl, _,
          List.mem_append_right _ (List.mem_singleton_self _), rfl, rfl⟩
      · obtain ⟨e, refused⟩ := register_refused s.now free
        rw [refused]
        exact covered
  | call c =>
      cases c with
      | login dto =>
          rw [step]
          rcases login_cases env s.now s.db dto with ⟨e, same⟩ | entered
          · rw [same]
            exact covered
          · obtain ⟨user, tenant, active, entered⟩ := entered
            rw [entered]
            refine Covered.respond (covered.change fun _ _ h => ?_) ?_
            · exact h.modify_users fun u _ stays _ => ⟨rfl, rfl, stays⟩
            · exact active.modify_users fun u _ stays _ => ⟨rfl, rfl, stays⟩
      | refresh refreshToken =>
          rw [step, State.refresh]
          cases AuthService.refresh env s.now refreshToken with
          | error e => exact covered
          | ok tokens =>
              cases verified : s.presented env refreshToken with
              | none => exact covered
              | some claims =>
                  exact covered.issue (covered _ (presented_outstanding unforged verified))
  | setUserStatus id status =>
      refine covered.change fun userId outstanding h => h.modify_users fun u same _ hit => ?_
      refine ⟨rfl, rfl, ?_⟩
      by_contra inactive
      rw [← same, beq_iff_eq.mp hit] at outstanding
      exact careful inactive outstanding
  | setTenantStatus id status =>
      refine covered.change fun userId outstanding h => h.setTenantStatus fun inactive u mem same => ?_
      intro hit
      exact careful inactive u mem hit (same ▸ outstanding)
  | deleteUser id =>
      refine covered.change fun userId outstanding h => h.deleteUser ?_
      rintro rfl
      exact careful outstanding
  | elapse duration =>
      rintro userId ⟨p, mem, signed, alive, same⟩
      have earlier : s.now / 1000 ≤ (s.now + duration) / 1000 :=
        Nat.div_le_div_right (Nat.le_add_right s.now duration)
      exact covered userId ⟨p, mem, signed, Nat.lt_of_le_of_lt earlier alive, same⟩

/-- After a careless change somebody may still refresh who is no longer active. -/
theorem careful_of_covered (regular : Regular env s) (e : Event τ)
    (after : Covered env (step env s e).1) : Careful env s e := by
  cases e with
  | setUserStatus id status =>
      intro inactive outstanding
      obtain ⟨u, mem, same, active, -⟩ := after id outstanding
      obtain ⟨old, -, rfl⟩ := mem_modify.mp mem
      by_cases hit : old.id = id
      · rw [if_pos (beq_iff_eq.mpr hit)] at active
        exact inactive active
      · rw [if_neg (by rwa [beq_iff_eq])] at same
        exact hit same
  | setTenantStatus id status =>
      intro inactive u mem owner outstanding
      obtain ⟨u', mem', same, -, t, tenant, owner', active⟩ := after u.id outstanding
      have row : u' = u := List.inj_on_of_nodup_map regular.ids mem' mem same
      obtain ⟨old, -, rfl⟩ := mem_modify.mp tenant
      by_cases hit : old.id = id
      · rw [if_pos (beq_iff_eq.mpr hit)] at active
        exact inactive active
      · rw [if_neg (by rwa [beq_iff_eq])] at owner'
        exact hit (owner'.trans (row ▸ owner))
  | deleteUser id =>
      intro outstanding
      obtain ⟨u, mem, same, -⟩ := after id outstanding
      exact bne_iff_ne.mp (List.mem_filter.mp mem).2 same
  | register g dto => trivial
  | call c => trivial
  | elapse duration => trivial

/-- In every run, logins and refreshes respect suspension in all states reached exactly
when users and tenants are suspended, and users deleted, only while none of those users
holds a token that a refresh still accepts. -/
theorem tokens_respect_suspension_iff (env : AuthEnv τ) (db : Database) (now : Time)
    (ids : (db.users.map User.id).Nodup) (es : List (Event τ))
    (unforged : Machine.Along (step env) (Unforged env) ⟨db, now, []⟩ es) :
    Machine.Along (step env) (Careful env) ⟨db, now, []⟩ es ↔
      ∀ xs, xs <+: es → Respects env (Machine.run (step env) ⟨db, now, []⟩ xs) := by
  have start : Regular env ⟨db, now, []⟩ ∧ Covered env ⟨db, now, []⟩ :=
    ⟨⟨ids, fun issued => absurd rfl issued⟩, fun _ ⟨_, mem, _⟩ => (nomatch mem)⟩
  refine Machine.along_iff_reached (step env) (fun s e kept unforged careful => ?_)
    (fun s e kept unforged => ⟨fun careful => ?_, fun respects => ?_⟩)
    (fun s (kept : Regular env s ∧ Covered env s) => kept.2.respects) start unforged
  · exact ⟨kept.1.preserved e, kept.2.preserved e unforged careful⟩
  · exact (kept.2.preserved e unforged careful).respects
  · exact careful_of_covered kept.1 e (respects.covered (kept.1.preserved e))

end Steps

/-- A suspended user gets new tokens for the refresh token it was given before. -/
theorem suspended_user_refreshes :
    let s := Machine.run (step Sample.env) Sample.start
      [Sample.registered, .setUserStatus "user" .suspended]
    Unforged Sample.env s (.call (.refresh Sample.token)) ∧
      Call.user Sample.env s (.refresh Sample.token) = some "user" ∧
      (step Sample.env s (.call (.refresh Sample.token))).2.any Answer.granted = true ∧
      s.db.users.map (fun u => (u.id, u.status)) = [("user", .suspended)] :=
  ⟨fun _ _ => ⟨Sample.token, by decide +kernel, rfl⟩, by decide +kernel, by decide +kernel,
    by decide +kernel⟩

theorem tokens_respect_suspension_expired :
    Respects Sample.env (Machine.run (step Sample.env) Sample.start Sample.expired) :=
  (tokens_respect_suspension_iff Sample.env ⟨[], [], [], []⟩ 0 List.nodup_nil Sample.expired
    ⟨trivial, fun _ _ => ⟨Sample.token, by decide +kernel, rfl⟩, trivial, trivial, trivial⟩).mp
    (by decide +kernel) Sample.expired (List.prefix_refl _)

end Auth
end IdpSaas

import IdpSaas.Lib.Unwinding
import IdpSaas.System.SignIn

/-!
What a session is good for. The access token that a registration or a login has brought
goes into the storage, from there into the header of each request, and lets it past the
guards, until it expires or the account is no longer active.
-/

namespace IdpSaas
open Owned DocumentsService Machine AuthService

/-- The tokens that the API signs are not empty, and are found in the header that the client
puts them in. -/
structure Api.Bears (api : Api) : Prop where
  nonempty : ∀ secret claims, api.auth.jwt.sign secret claims ≠ ""
  found : ∀ secret claims, api.bearerToken ("Bearer " ++ api.auth.jwt.sign secret claims) =
    some (api.auth.jwt.sign secret claims)

namespace Fetch

/-- Setting a header of one name finds those of another as before. -/
theorem find?_replace {name other value : String} (headers : List (String × String)) :
    ((headers.map fun h => if h.1 == other then (other, value) else h).find? fun h =>
        h.1 == name) =
      (headers.find? fun h => h.1 == name).map fun h =>
        if h.1 == other then (other, value) else h := by
  rw [List.find?_map]
  have same : ((fun h : String × String => h.1 == name) ∘ fun h =>
      if h.1 == other then (other, value) else h) = fun h => h.1 == name := by
    funext h
    rw [Function.comp_apply]
    split
    · next here => rw [beq_iff_eq.mp here]
    · rfl
  rw [same]

theorem getHeader_setHeader (name value : String) (headers : List (String × String)) :
    getHeader name (setHeader name value headers) = some value := by
  rw [getHeader, setHeader]
  split
  · next there =>
      obtain ⟨h, found⟩ := Option.isSome_iff_exists.mp (List.find?_isSome.mpr
        (List.any_eq_true.mp there))
      rw [find?_replace, found, Option.map_some, if_pos (List.find?_some found), Option.map_some]
  · next absent =>
      rw [Bool.not_eq_true, List.any_eq_false] at absent
      rw [List.find?_append, List.find?_eq_none.mpr absent]
      simp

theorem getHeader_setHeader_other {name other : String} (apart : other ≠ name) (value : String)
    (headers : List (String × String)) :
    getHeader name (setHeader other value headers) = getHeader name headers := by
  rw [getHeader, getHeader, setHeader]
  split
  · rw [find?_replace]
    cases found : headers.find? fun h => h.1 == name with
    | none => rfl
    | some h =>
        have named := List.find?_some found
        have kept : ¬(h.1 == other) = true := fun same =>
          apart ((beq_iff_eq.mp same).symm.trans (beq_iff_eq.mp named))
        rw [Option.map_some, if_neg kept]
  · simp [List.find?_append, apart]

/-- A request carries the access token of the session. -/
theorem firstRequest_bearer {φ ω : Type} (web : Web φ ω) (path : String) (init : RequestInit φ)
    {storage : Storage} {token : String} (access : storage.access = some token)
    (nonempty : token ≠ "") :
    getHeader "Authorization" (firstRequest web path init storage).headers =
      some ("Bearer " ++ token) := by
  have there : truthy storage.access = some token := by
    rw [access]
    exact Option.filter_some_pos (decide_eq_true nonempty)
  have other : "Content-Type" ≠ "Authorization" := by decide
  rw [firstRequest]
  simp only [there]
  split
  · exact getHeader_setHeader _ _ _
  · split
    · rw [getHeader_setHeader_other other, getHeader_setHeader]
    · exact getHeader_setHeader _ _ _

end Fetch
section Guards
variable {api : Api} {m : Moment} {request : Fetch.Request MulterFile} {db : Database}

/-- A token that verifies and names an account that validates gets its request in. -/
theorem enter_bearer {header token : String} {claims : JwtClaims} {user : AuthContext}
    (sent : Fetch.getHeader "Authorization" request.headers = some header)
    (bearer : api.bearerToken header = some token)
    (verified : api.auth.jwt.verify api.auth.accessSecret (m.now / 1000) token = some claims)
    (valid : JwtStrategy.validate api.auth db claims.toJwtPayload = .ok user)
    (free : m.limited = false) : api.enter m .upload request db = .ok (some user) := by
  have passed : guards api.auth api.passport db m.now
      ⟨Endpoint.upload.route, some token⟩ = .ok (some user) := by
    have authenticated : JwtStrategy.authenticate api.auth api.passport db m.now (some token) =
        .success user := by
      rw [JwtStrategy.authenticate, verified]
      simp only [valid]
    simp only [guards, JwtAuthGuard.canActivate, authenticated]
    rfl
  simp only [Api.enter, sent, Option.bind_some, bearer, passed, free, Bool.false_eq_true, if_false]

/-- Where the keys are unique, the row of an active user validates its tokens. -/
theorem Database.Keyed.validates (keyed : db.Keyed) (env : AuthEnv String) {u : User}
    (row : u.fixed ∈ db.users.map User.fixed) (active : Auth.Active db u.id) :
    JwtStrategy.validate env db ⟨u.id, u.tenantId, u.role⟩ =
      .ok ⟨u.id, u.tenantId, u.email, u.role, "jwt"⟩ := by
  obtain ⟨v, hv, fixed⟩ := List.mem_map.mp row
  obtain ⟨w, hw, id, userActive, t, ht, owner, tenantActive⟩ := active
  have sameId : v.id = u.id := (show Spares User.fixed User.id from fun _ => rfl).eq fixed
  cases List.inj_on_of_nodup_map keyed.userIds hw hv (id.trans sameId.symm)
  have found : (db.users.find? fun x => x.id == u.id) = some v := by
    rw [← sameId]
    exact find?_unique User.id keyed.userIds hv
  have tenantId : v.tenantId = u.tenantId :=
    (show Spares User.fixed User.tenantId from fun _ => rfl).eq fixed
  have email : v.email = u.email := (show Spares User.fixed User.email from fun _ => rfl).eq fixed
  have role : v.role = u.role := (show Spares User.fixed User.role from fun _ => rfl).eq fixed
  have ofUser : (db.tenants.find? fun x => x.id == u.tenantId) = some t := by
    rw [← tenantId, ← owner]
    exact find?_unique Tenant.id keyed.tenantIds ht
  simp [JwtStrategy.validate, found, userActive, tenantId, ofUser, tenantActive, sameId, email, role]

end Guards

section Sessions
variable {api : Api} {m : Moment} {request : Fetch.Request MulterFile} {s : Stores}

/-- A registration or a login that succeeds is answered with a session of a user whose row
is there afterwards. -/
theorem session_of_ok {e : Endpoint} (sign : e = .register ∨ e = .login)
    (routed : api.endpoint request = some e) (ok : (api.serve m request s).1.ok = true) :
    ∃ u t session, u.fixed ∈ (api.serve m request s).2.db.users.map User.fixed ∧
      t.id = u.tenantId ∧ respond api.auth m.now u t = .ok session ∧
      (api.serve m request s).1 =
        ⟨e.status, api.reason e.status, some ((Api.sessionJson session).stringify api.format)⟩ := by
  cases sign with
  | inl register =>
      subst register
      obtain ⟨text, dto, session, -, -, -, responded, served⟩ := registered_of_ok routed ok
      rw [served]
      refine ⟨_, _, session, ?_, rfl, responded, rfl⟩
      simp
  | inr login =>
      subst login
      simp only [Api.serve, routed] at ok ⊢
      obtain ⟨v, handled⟩ := (respond_ok_iff Endpoint.login.success _).mp ok
      simp only [Api.handle] at handled ⊢
      cases withBody_cases api m .login LoginDto.properties (api.login m) request s with
      | inl refused =>
          obtain ⟨exception, refused⟩ := refused
          rw [refused] at handled
          cases handled
      | inr passed =>
          obtain ⟨text, dto, -, -, served⟩ := passed
          rw [served, Api.login] at handled
          cases found : authenticate api.auth (LoginDto.of dto) s.db with
          | error e =>
              rw [AuthService.login, found] at handled
              cases handled
          | ok account =>
              obtain ⟨u, t⟩ := account
              rw [login_of_authenticate found] at handled
              obtain ⟨session, responded, -⟩ := outcome_ok handled
              obtain ⟨-, -, byEmail, -⟩ := authenticate_ok_iff.mp found
              have own := List.find?_some byEmail
              rw [Bool.and_eq_true, beq_iff_eq, beq_iff_eq] at own
              change respond _ _ _ _ = _ at responded
              rw [served, Api.login, login_of_authenticate found, responded]
              refine ⟨u, t, session, ?_, own.1.symm, responded, rfl⟩
              have kept : (modify (fun v => v.id == u.id)
                  (fun v => { v with lastLoginAt := some m.now, updatedAt := m.now })
                  s.db.users).map User.fixed = s.db.users.map User.fixed :=
                map_modify User.fixed _ fun _ _ => rfl
              exact kept ▸ List.mem_map_of_mem (List.mem_of_find?_eq_some byEmail)

/-- The session that a page gets, and the token that is in it. -/
theorem session_stored {u : User} {t : Tenant} {session : AuthResponseDto String}
    {status : Nat} (responded : respond api.auth m.now u t = .ok session)
    (success : 200 ≤ status ∧ status ≤ 299)
    (lifetime : parseExpiresInToSeconds api.auth.accessExpiresIn < 2 ^ 53) :
    ∃ storage seconds,
      Fetch.settle ⟨status, api.reason status,
          some ((Api.sessionJson session).stringify api.format)⟩ = .ok (Api.sessionJson session) ∧
      Fetch.setSession api.format (Api.sessionJson session) = some storage ∧
      Fetch.getCurrentUser storage = some (userJson session.user) ∧
      api.auth.jwt.seconds api.auth.accessExpiresIn = some seconds ∧
      storage.access = some (api.auth.jwt.sign api.auth.accessSecret
        (stamp m.now ⟨u.id, t.id, u.role⟩ seconds)) := by
  have small := (respond_user responded).2.trans_lt lifetime
  rw [respond] at responded
  cases issued : issueTokens api.auth m.now ⟨u.id, t.id, u.role⟩ with
  | error err =>
      rw [issued] at responded
      cases responded
  | ok tokens =>
      rw [issued] at responded
      cases responded
      obtain ⟨seconds, refresh, read, -, signed, -⟩ := of_issueTokens issued
      let session : AuthResponseDto String :=
        ⟨⟨u.id, u.email, u.fullName, u.role, t.id, t.slug⟩, tokens⟩
      have user : (Api.sessionJson session).field "user" = some (userJson session.user) := rfl
      refine ⟨_, seconds, ?_, rfl, ?_, read, congrArg some signed⟩
      · exact Fetch.settle_stringify (decide_eq_true success) (plain_sessionJson small) rfl
      · exact Fetch.getCurrentUser_setSession rfl user (plain_userJson _)

end Sessions

namespace Backend

/-- With the session that a registration or a login has brought, each request gets past the
guards as the user that is signed in, until the token expires, as long as the account is
active. -/
theorem session_admits (api : Api) (bears : api.Bears)
    (lifetime : parseExpiresInToSeconds api.auth.accessExpiresIn < 2 ^ 53)
    (tenants : List Tenant) (users : List User) (apiKeys : List ApiKey)
    (keyed : Database.Keyed ⟨tenants, users, apiKeys, []⟩) (before : List Event)
    (request : Fetch.Request MulterFile) (m : Moment) (e : Endpoint)
    (sign : e = .register ∨ e = .login) (routed : api.endpoint request = some e)
    (response : Fetch.Response)
    (answered : (step api (run (step api) (init tenants users apiKeys) before)
      (.request request m)).2 = some response) (ok : response.ok = true) :
    ∃ (user : AuthUser) (body : JsonValue) (storage : Fetch.Storage) (seconds : Nat),
      Fetch.settle response = .ok body ∧ Fetch.setSession api.format body = some storage ∧
      Fetch.getCurrentUser storage = some (userJson user) ∧
      api.auth.jwt.seconds api.auth.accessExpiresIn = some seconds ∧
      ∀ (between : List Event) (path : String) (init : Fetch.RequestInit MulterFile) (m' : Moment),
        let b := run (step api) (.init tenants users apiKeys)
          (before ++ .request request m :: between)
        Auth.Active b.stores.db user.id → m'.limited = false →
        m'.now / 1000 < m.now / 1000 + seconds →
        api.enter m' .upload (Fetch.firstRequest api.web path init storage) b.stores.db =
          .ok (some ⟨user.id, user.tenantId, user.email, user.role, "jwt"⟩) := by
  let s := (run (step api) (init tenants users apiKeys) before).stores
  have served : response = (api.serve m request s).1 := (Option.some.inj answered).symm
  obtain ⟨u, t, session, row, own, responded, body⟩ := session_of_ok sign routed (served ▸ ok)
  obtain ⟨storage, seconds, settled, set, signedIn, read, access⟩ :=
    session_stored responded e.success lifetime
  refine ⟨session.user, _, storage, seconds, (served.trans body) ▸ settled, set, signedIn, read, ?_⟩
  intro between path init m' b active free fresh
  have same : session.user =
      ⟨u.id, u.email, u.fullName, u.role, u.tenantId, t.slug⟩ := by
    rw [(respond_user responded).1, own]
  rw [same] at active ⊢
  have reached : b = run (step api) (step api (run (step api) (.init tenants users apiKeys) before)
      (.request request m)).1 between := run_append _ _ _ _
  have later := run_extends api (step api
    (run (step api) (.init tenants users apiKeys) before) (.request request m)).1 between
  rw [← reached] at later
  have keyed' : b.stores.db.Keyed := run_keyed keyed _
  have valid := keyed'.validates api.auth (later.users.subset row) active
  have verified : api.auth.jwt.verify api.auth.accessSecret (m'.now / 1000)
      (api.auth.jwt.sign api.auth.accessSecret (stamp m.now ⟨u.id, t.id, u.role⟩ seconds)) =
        some (stamp m.now ⟨u.id, t.id, u.role⟩ seconds) := by
    rw [api.auth.jwt.verify_sign, if_pos ⟨rfl, fresh⟩]
  have header := Fetch.firstRequest_bearer api.web path init access (bears.nonempty _ _)
  rw [own] at header verified
  exact enter_bearer header (bears.found _ _) verified valid free

namespace Sample
open Api.Sample

theorem bears : Api.Sample.api.Bears where
  nonempty secret claims := Fetch.stringify_ne_empty (by simp [written])
  found secret claims := by
    have prefixed : ∀ token : String, bearerToken ("Bearer " ++ token) = some token := by
      intro token
      rw [bearerToken, String.toList_append, if_pos (List.prefix_append _ _)]
      simp
    exact prefixed _

end Sample

theorem userJson_id {u v : AuthUser} (same : userJson u = userJson v) : u.id = v.id := by
  have read : ∀ w : AuthUser, textField (userJson w) "id" = some w.id := by
    simp [textField, userJson, JsonValue.field]
  exact Option.some.inj ((read u).symm.trans ((congrArg (textField · "id") same).trans (read v)))

theorem session_admits_acme :
    ∃ user storage, Api.Sample.api.enter Sample.dawn .upload
      (Fetch.firstRequest Api.Sample.api.web "/auth/me" ⟨none, [], none⟩ storage)
      (Api.Sample.api.serve Sample.dawn Sample.registers (init [] [] []).stores).2.db =
        .ok (some user) := by
  have keyed : Database.Keyed ⟨[], [], [], []⟩ :=
    ⟨List.nodup_nil, List.nodup_nil, List.nodup_nil, List.nodup_nil⟩
  obtain ⟨user, body, storage, seconds, settled, set, signedIn, read, admits⟩ :=
    session_admits Api.Sample.api Sample.bears (by decide +kernel) [] [] [] keyed []
      Sample.registers Sample.dawn .register (Or.inl rfl) Sample.sent_registers.routed _ rfl
      Sample.registers_ok.1
  have admitted := admits [] "/auth/me" ⟨none, [], none⟩ Sample.dawn
  simp only [List.nil_append, run, step] at admitted settled
  have minutes : seconds = 900 := Option.some.inj (read.symm.trans (by decide +kernel))
  obtain ⟨session, id, expiresIn, served⟩ := Sample.registers_session
  rw [served] at settled
  have small : session.tokens.expiresIn < 2 ^ 53 := by
    rw [expiresIn]
    decide
  have text : Fetch.settle ⟨201, "", some ((Api.sessionJson session).stringify .digits)⟩ =
      .ok (Api.sessionJson session) := Fetch.settle_stringify rfl (plain_sessionJson small) rfl
  obtain rfl : Api.sessionJson session = body := Except.ok.inj (text.symm.trans settled)
  have user' := Fetch.getCurrentUser_setSession set (show (Api.sessionJson session).field "user" =
    some (userJson session.user) from rfl) (plain_userJson _)
  have same : user.id = "user" :=
    (userJson_id (Option.some.inj (signedIn.symm.trans user'))).trans id
  refine ⟨_, storage, admitted ?_ rfl ?_⟩
  · rw [same]
    exact Sample.registers_ok.2
  · rw [minutes]
    decide

end Backend
end IdpSaas

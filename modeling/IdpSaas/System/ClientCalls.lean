import IdpSaas.Auth.Tokens
import IdpSaas.Client.Failures
import IdpSaas.Client.Register
import IdpSaas.System.Http

/-!
The client's calls against the API. Others may change anything between two requests of a
call, tokens expire meanwhile, and requests and responses get lost; a call still changes
the stores at most once, because whatever is answered 401 has changed nothing.
-/

namespace IdpSaas
open Fetch

/-- What happens around a request: what others do before it, and whether it arrives and
its response does. -/
structure Turn where
  moment : Moment
  others : Stores → Stores
  arrives : Bool
  returns : Bool

/-- The stores, the turns to come, and what each served request has made of the stores. -/
structure World where
  stores : Stores
  turns : Nat → Turn
  sent : Nat
  served : List (Stores × Stores)

namespace Api
variable (api : Api)

def send (request : Fetch.Request MulterFile) (w : World) : Option Fetch.Response × World :=
  let turn := w.turns w.sent
  let before := turn.others w.stores
  if turn.arrives then
    let r := api.serve turn.moment request before
    (if turn.returns then some r.1 else none,
      { w with stores := r.2, sent := w.sent + 1, served := w.served ++ [(before, r.2)] })
  else (none, { w with stores := before, sent := w.sent + 1 })

def web : Web MulterFile World := ⟨api.base, api.format, api.send⟩

end Api

/-- The calls of the client that are not for reading. -/
inductive ApiCall
  | login (tenantSlug email password : String)
  | register (form : RegisterForm)
  | uploadDocument (file : MulterFile)

namespace ApiCall

def endpoint : ApiCall → Endpoint
  | .login _ _ _ => .login
  | .register _ => .register
  | .uploadDocument _ => .upload

def body (api : Api) : ApiCall → RequestBody MulterFile
  | .login tenantSlug email password =>
      .text ((JsonValue.object
        [ ("tenantSlug", .string tenantSlug), ("email", .string email),
          ("password", .string password) ]).stringify api.format)
  | .register form => .text (form.body api.format api.auth.toLowerCase)
  | .uploadDocument file => .formData file

def init (api : Api) (call : ApiCall) : RequestInit MulterFile := ⟨some "POST", [], call.body api⟩

def run (api : Api) (call : ApiCall) (w : World) (storage : Fetch.Storage) :
    Except Thrown JsonValue × Run MulterFile World :=
  apiFetch api.web call.endpoint.path (call.init api) ⟨w, storage, []⟩

end ApiCall

open Classical in
noncomputable def World.effects (w : World) : Nat := w.served.countP fun x => x.1 ≠ x.2

section Composition
variable {api : Api}

theorem endpoint_of_url {request : Fetch.Request MulterFile} {e : Endpoint}
    (method : request.method = some "POST") (url : request.url = api.base ++ e.path) :
    api.endpoint request = some e := by
  rw [Api.endpoint, if_neg (not_not.mpr method), url]
  cases e <;> simp [Endpoint.path, String.append_right_inj]

theorem effects_of_same {w w' : World} (same : w'.served = w.served) : w'.effects = w.effects := by
  rw [World.effects, World.effects, same]

theorem effects_of_served {w w' : World} {before after : Stores}
    (served : w'.served = w.served ++ [(before, after)]) :
    w'.effects ≤ w.effects + 1 ∧ (after = before → w'.effects = w.effects) := by
  rw [World.effects, World.effects, served, List.countP_append]
  constructor
  · exact Nat.add_le_add_left List.countP_le_length _
  · rintro rfl
    rw [List.countP_singleton]
    simp

section Turns
variable {request : Fetch.Request MulterFile} {w : World}

theorem send_lost (lost : (w.turns w.sent).arrives = false) :
    (api.send request w).1 = none ∧ (api.send request w).2.served = w.served := by
  rw [Api.send, lost, if_neg Bool.false_ne_true]
  exact ⟨rfl, rfl⟩

/-- A request that arrives is served in the stores that others have left. -/
theorem send_served (api : Api) (request : Fetch.Request MulterFile) {w : World}
    (arrives : (w.turns w.sent).arrives = true) :
    (∀ response, (api.send request w).1 = some response →
        response = (api.serve (w.turns w.sent).moment request
          ((w.turns w.sent).others w.stores)).1) ∧
      (api.send request w).2.served =
        w.served ++ [((w.turns w.sent).others w.stores,
          (api.serve (w.turns w.sent).moment request ((w.turns w.sent).others w.stores)).2)] := by
  simp only [Api.send, arrives, if_true, and_true]
  intro response returned
  split at returned
  · exact (Option.some.inj returned).symm
  · cases returned

/-- A response is what the API answers at some moment, in some stores. -/
theorem served_of_reply {response : Fetch.Response}
    (reply : (api.send request w).1 = some response) :
    ∃ m s, response = (api.serve m request s).1 := by
  cases arrives : (w.turns w.sent).arrives with
  | false =>
      rw [(send_lost arrives).1] at reply
      cases reply
  | true => exact ⟨_, _, (send_served api request arrives).1 response reply⟩

end Turns

theorem countsEffects (api : Api) : CountsEffects api.web World.effects where
  once request w := by
    cases arrives : (w.turns w.sent).arrives with
    | false => exact (effects_of_same (send_lost arrives).2).le.trans (Nat.le_succ _)
    | true => exact (effects_of_served (send_served api request arrives).2).1
  refused request w response replied unauthorized := by
    cases arrives : (w.turns w.sent).arrives with
    | false => exact effects_of_same (send_lost arrives).2
    | true =>
        have served := send_served api request arrives
        refine (effects_of_served served.2).2 (serve_unauthorized ?_)
        rw [← served.1 response replied]
        exact unauthorized
  refresh token w := by
    cases arrives : (w.turns w.sent).arrives with
    | false => exact effects_of_same (send_lost arrives).2
    | true =>
        have routed : api.endpoint (refreshRequest api.web token) = some .refresh :=
          endpoint_of_url rfl rfl
        exact (effects_of_served (send_served api _ arrives).2).2 (serve_refresh routed)

theorem ApiCall.routed (call : ApiCall) (storage : Fetch.Storage) :
    api.endpoint (firstRequest api.web call.endpoint.path (call.init api) storage) =
        some call.endpoint ∧
      ∀ access, api.endpoint (retryRequest
        (firstRequest api.web call.endpoint.path (call.init api) storage) access) =
          some call.endpoint :=
  ⟨endpoint_of_url rfl rfl, fun _ => endpoint_of_url rfl rfl⟩

section Answers
variable {m : Moment} {request : Fetch.Request MulterFile}

theorem describe_message (production : Bool) (e : Exception) :
    (AllExceptionsFilter.describe production e).2.2.Plain ∧
      isMessage (AllExceptionsFilter.describe production e).2.2 = true := by
  cases e with
  | guard e =>
      cases e with
      | forbidden message => exact ⟨.string _, rfl⟩
      | thrown e => cases e <;> exact ⟨.string _, rfl⟩
  | invalid messages => simp [AllExceptionsFilter.describe, isMessage]
  | malformed | tooManyRequests => exact ⟨.string _, rfl⟩

/-- What the filter answers is an API error to the client. -/
theorem respond_isApiError (url : String) (status : Nat) (e : Exception) :
    ∃ text, (api.respond m url status (.error e)).text = some text ∧
      isApiError (api.respond m url status (.error e)).status text = true := by
  refine ⟨_, rfl, ?_⟩
  have small : (AllExceptionsFilter.describe api.production e).1 < 2 ^ 53 :=
    (describe_status api.production e).2.trans_lt (by decide)
  have message := describe_message api.production e
  refine isApiError_of_parse (JsonValue.parse_stringify ?_) ?_ ?_
  · simp [JsonValue.Plain.number small, message.1]
  · simp [JsonValue.field, hasStatus, Api.respond]
  · simp [JsonValue.field, message.2]

theorem respond_ok_iff {url : String} {status : Nat} (success : 200 ≤ status ∧ status ≤ 299)
    (outcome : Except Exception JsonValue) :
    (api.respond m url status outcome).ok = true ↔ ∃ v, outcome = .ok v := by
  cases outcome with
  | ok v => exact iff_of_true (decide_eq_true success) ⟨v, rfl⟩
  | error e =>
      refine iff_of_false (fun ok => ?_) nofun
      have range := (describe_status api.production e).1
      have low := (of_decide_eq_true ok).2
      exact absurd (range.trans low) (by decide)

theorem Endpoint.success (e : Endpoint) : 200 ≤ e.status ∧ e.status ≤ 299 := by
  cases e <;> decide

/-- What a handler that is not for reading fails with is an API error to the client. -/
theorem serve_isApiError {s : Stores} {e : Endpoint} (routed : api.endpoint request = some e)
    (failed : (api.serve m request s).1.ok = false) :
    ∃ text, (api.serve m request s).1.text = some text ∧
      isApiError (api.serve m request s).1.status text = true := by
  simp only [Api.serve, routed] at failed ⊢
  cases handled : (api.handle m e request s).1 with
  | error exception => exact respond_isApiError _ e.status exception
  | ok v =>
      rw [(respond_ok_iff e.success _).mpr ⟨v, handled⟩] at failed
      cases failed

theorem withBody_ok {e : Endpoint} {properties : List Property}
    {handler : JsonValue → Stores → Except Exception JsonValue × Stores} {s : Stores}
    {v : JsonValue} (h : (api.withBody m e properties handler request s).1 = .ok v) :
    ∃ dto, (handler dto s).1 = .ok v := by
  rw [Api.withBody] at h
  split at h
  · cases h
  · split at h
    · cases h
    · split at h
      · cases h
      · exact ⟨_, h⟩

theorem outcome_ok {α : Type} {json : α → JsonValue} {r : Except HttpError α} {v : JsonValue}
    (h : Api.outcome json r = .ok v) : ∃ a, r = .ok a ∧ v = json a := by
  cases r with
  | error e => cases h
  | ok a =>
      cases h
      exact ⟨a, rfl, rfl⟩

/-- The tokens that the API issues can be sent in a header, and their lifetime is written
in digits. -/
structure Api.Issues (api : Api) : Prop where
  carried : ∀ secret claims,
    isHeaderValue ("Bearer " ++ api.auth.jwt.sign secret claims) = true
  lifetime : parseExpiresInToSeconds api.auth.accessExpiresIn < 2 ^ 53

theorem newTokens_written {tokens : AuthTokenDto String} (small : tokens.expiresIn < 2 ^ 53)
    {res : Fetch.Response}
    (written : res.text = some ((Api.tokensJson tokens).stringify api.format)) :
    newTokens api.web res = .ok (tokens.accessToken, tokens.refreshToken) := by
  have plain : (Api.tokensJson tokens).Plain := by
    simp [Api.tokensJson, JsonValue.Plain.number small]
  rw [newTokens, written]
  dsimp only
  rw [JsonValue.parse_stringify plain]
  rfl

/-- A refresh that the API answers with success brings tokens. -/
theorem refresh_bringsTokens (issues : api.Issues) {s : Stores}
    (routed : api.endpoint request = some .refresh)
    (ok : (api.serve m request s).1.ok = true) :
    BringsTokens api.web (api.serve m request s).1 := by
  simp only [Api.serve, routed] at ok ⊢
  obtain ⟨v, handled⟩ := (respond_ok_iff Endpoint.refresh.success _).mp ok
  obtain ⟨dto, answered⟩ := withBody_ok handled
  obtain ⟨tokens, refreshed, rfl⟩ := outcome_ok answered
  obtain ⟨claims, -, issued⟩ := issued_of_refresh refreshed
  obtain ⟨access, refresh, -, -, signed, -⟩ := of_issueTokens issued
  rw [handled]
  refine ⟨(tokens.accessToken, tokens.refreshToken), newTokens_written ?_ rfl, ?_⟩
  · exact (issued_expiresIn issued).trans_lt issues.lifetime
  · rw [signed]
    exact issues.carried _ _

end Answers

/-- Against the API itself every call keeps to the contract. -/
theorem api_keeps_contract (issues : api.Issues) (path : String) (init : RequestInit MulterFile)
    (s : Run MulterFile World) :
    RetryContract api.web path s (apiFetch api.web path init s).1
      (apiFetch api.web path init s).2 := by
  refine (retryContract_iff api.web path init s).mpr fun _ token res _ reply ok _ => ?_
  obtain ⟨m, stores, rfl⟩ := served_of_reply reply
  exact refresh_bringsTokens issues (endpoint_of_url rfl rfl) ok

/-- What the API itself refuses reaches the page, when it arrives. -/
theorem api_failures_reach (issues : api.Issues) (call : ApiCall) (w : World)
    (storage : Fetch.Storage) (response : Fetch.Response)
    (delivered : ∀ e ∈ (call.run api w storage).2.log, e.Delivered)
    (last : (responses (call.run api w storage).2.log).getLast? = some response)
    (failed : response.ok = false) : ReachesCaller response (call.run api w storage).1 := by
  have course := apiFetch_course api.web call.endpoint.path (call.init api) ⟨w, storage, []⟩
  have contract :=
    api_keeps_contract issues call.endpoint.path (call.init api) ⟨w, storage, []⟩
  obtain ⟨e, sent, reply⟩ := List.mem_filterMap.mp (List.mem_of_getLast? last)
  obtain ⟨sent, purpose⟩ := List.mem_filter.mp sent
  obtain ⟨w', sentBack, -, request⟩ := course.sent sent
  have routed : api.endpoint e.request = some call.endpoint := by
    rcases request (of_decide_eq_true purpose) with same | ⟨access, same⟩
    · exact same ▸ (call.routed storage).1
    · exact same ▸ (call.routed storage).2 access
  obtain ⟨m, stores, rfl⟩ := served_of_reply (sentBack ▸ reply)
  obtain ⟨text, read, apiError⟩ := serve_isApiError routed failed
  exact contract.settles delivered _ last ▸ (settle_reaches_iff failed read).mpr apiError

/-- For every answer to its requests a call keeps to the contract exactly when a refresh
that succeeds brings tokens; and against the API it changes the stores at most once. -/
theorem retry_takes_effect_once {φ ω : Type} (web : Web φ ω) (path : String)
    (init : RequestInit φ) (s : Run φ ω) (api : Api) (call : ApiCall) (w : World)
    (storage : Fetch.Storage) :
    (RetryContract web path s (apiFetch web path init s).1 (apiFetch web path init s).2 ↔
      RefreshUsable web path init s) ∧
      (call.run api w storage).2.world.effects ≤ w.effects + 1 :=
  ⟨retryContract_iff web path init s,
    (apiFetch_course api.web _ _ _).effects_le (countsEffects api)⟩

end Composition

namespace Fetch.Sample

/-- What a network asks for before it lets requests through. -/
def signInPage : Response :=
  ⟨200, "OK", some "<html><body>Sign in to this network</body></html>"⟩

def diverted : Except Thrown JsonValue × Run Unit (List (Option Response)) :=
  apiFetch scripted "/documents" get ⟨[some expired, some signInPage], signedIn, []⟩

end Fetch.Sample

/-- A refresh that is answered with a page makes the call throw an error of its own. -/
theorem diverted_refresh_breaks_contract :
    (∀ e ∈ Sample.diverted.2.log, e.Delivered) ∧
      responses Sample.diverted.2.log = [Sample.expired] ∧
      Sample.diverted.1 = .error (.error .refresh .notJson) ∧
      ¬RetryContract Sample.scripted "/documents"
        ⟨[some Sample.expired, some Sample.signInPage], Sample.signedIn, []⟩
        Sample.diverted.1 Sample.diverted.2 := by
  have replies : ∀ e ∈ Sample.diverted.2.log,
      e.reply = some Sample.expired ∨ e.reply = some Sample.signInPage := by decide +kernel
  have delivered : ∀ e ∈ Sample.diverted.2.log, e.Delivered := by
    intro e sent
    rcases replies e sent with reply | reply
    · exact ⟨_, reply, fun _ _ => nofun⟩
    · exact ⟨_, reply, fun _ _ => nofun⟩
  have received : responses Sample.diverted.2.log = [Sample.expired] := by decide +kernel
  have thrown : Sample.diverted.1 = .error (.error .refresh .notJson) := by rfl
  refine ⟨delivered, received, thrown, fun contract => ?_⟩
  have settled := contract.settles delivered _ (congrArg List.getLast? received)
  exact settle_ne_refresh Sample.expired .notJson (settled.symm.trans thrown)

end IdpSaas

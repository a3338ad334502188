import IdpSaas.Auth.Guards
import IdpSaas.Auth.Validation
import IdpSaas.Client.Fetch
import IdpSaas.System.Upload

/-!
The API as it answers HTTP requests: guards, pipes and handlers, and the filter that turns
what they throw into responses. What the framework's own parts say is a parameter. A
request that is answered 401 has changed nothing.
-/

namespace IdpSaas
open Owned

/-- What a request is refused with on its way to the handler, or by it. -/
inductive Exception
  | guard (e : GuardError)
  | invalid (messages : List String)
  | malformed (message : String)
  | tooManyRequests

def Exception.ofPipe : PipeError → Exception
  | .invalid messages => .invalid messages
  | .thrown err => .guard (.thrown (.internal err))

namespace AllExceptionsFilter

/-- `r.message || message`. -/
def orInternal (message : String) : JsonValue :=
  .string (if message = "" then "Internal server error" else message)

/-- The message of an error that is no HTTP exception is kept back in production. -/
def internalMessage (production : Bool) (err : JsError) : String :=
  if production then "Internal server error" else err.message.getD "Internal server error"

/-- Status, error and message. An exception with a bare text does not name its error. -/
def describe (production : Bool) : Exception → Nat × String × JsonValue
  | .guard (.thrown (.badRequest message)) => (400, "Bad Request", orInternal message)
  | .guard (.thrown (.unauthorized message)) => (401, "Unauthorized", orInternal message)
  | .guard (.thrown (.notFound message)) => (404, "Not Found", orInternal message)
  | .guard (.thrown (.conflict message)) => (409, "Conflict", orInternal message)
  | .guard (.thrown (.internal err)) =>
      (500, "Internal Server Error", .string (internalMessage production err))
  | .guard (.forbidden message) => (403, "Forbidden", orInternal message)
  | .invalid messages => (400, "Bad Request", .array (messages.map .string))
  | .malformed message => (400, "Bad Request", orInternal message)
  | .tooManyRequests =>
      (429, "Internal Server Error", .string "ThrottlerException: Too Many Requests")

end AllExceptionsFilter

/-- The deployment, and the libraries behind the handlers. -/
structure Api where
  origin : String
  apiPrefix : String
  auth : AuthEnv String
  passport : Passport auth.jwt
  storage : Env
  lib : Validator
  format : JsonValue.Format
  production : Bool
  reason : Nat → String
  bearerToken : String → Option String
  parseFile : MulterFile → Option String
  documentJson : Document → JsonValue

/-- What is generated for a request, and what happens to it. `read` is what a route that
only reads answers. -/
structure Moment where
  now : Time
  limited : Bool
  requestId : String
  timestamp : String
  bodyError : String
  registering : RegisterGenerated
  uploading : UploadGenerated
  faults : UploadFaults
  read : Fetch.Response

inductive Endpoint
  | register | login | refresh | upload
  deriving DecidableEq, Repr

namespace Endpoint

def path : Endpoint → String
  | .register => "/auth/register"
  | .login => "/auth/login"
  | .refresh => "/auth/refresh"
  | .upload => "/documents/upload"

def route : Endpoint → Route
  | .register | .login | .refresh => ⟨some true, none, none, none⟩
  | .upload => ⟨none, none, none, none⟩

/-- `@HttpCode`. -/
def status : Endpoint → Nat
  | .register => 201
  | .login | .refresh => 200
  | .upload => 202

end Endpoint

namespace Api
variable (api : Api) (m : Moment)

def base : String := api.origin ++ api.apiPrefix

/-- The handler that a request is routed to, none for a route that only reads. -/
def endpoint (request : Fetch.Request MulterFile) : Option Endpoint :=
  if request.method ≠ some "POST" then none
  else
    [.register, .login, .refresh, .upload].find? fun e =>
      decide (request.url = api.base ++ Endpoint.path e)

def respond (url : String) (status : Nat) :
    Except Exception JsonValue → Fetch.Response
  | .ok v => ⟨status, api.reason status, some (v.stringify api.format)⟩
  | .error e =>
      let described := AllExceptionsFilter.describe api.production e
      ⟨described.1, api.reason described.1,
        some ((JsonValue.object
          [ ("statusCode", .number (.finite described.1)),
            ("error", .string described.2.1),
            ("message", described.2.2),
            ("requestId", .string m.requestId),
            ("timestamp", .string m.timestamp),
            ("path", .string url) ]).stringify api.format)⟩

/-- The guards, in the order they run. -/
def enter (e : Endpoint) (request : Fetch.Request MulterFile) (db : Database) :
    Except Exception (Option AuthContext) :=
  let bearer := (Fetch.getHeader "Authorization" request.headers).bind api.bearerToken
  match guards api.auth api.passport db m.now ⟨e.route, bearer⟩ with
  | .error e => .error (.guard e)
  | .ok user => if m.limited then .error .tooManyRequests else .ok user

/-- What the pipe makes of the body, when that can be parsed. -/
def received (properties : List Property) (request : Fetch.Request MulterFile) :
    Option (Except PipeError JsonValue) :=
  match request.body with
  | some (.text s) => ValidationPipe.receive api.lib api.format properties s
  | _ => none

def tokensJson (tokens : AuthTokenDto String) : JsonValue :=
  .object
    [ ("accessToken", .string tokens.accessToken),
      ("refreshToken", .string tokens.refreshToken),
      ("expiresIn", .number (.finite tokens.expiresIn)),
      ("tokenType", .string tokens.tokenType) ]

def sessionJson (response : AuthResponseDto String) : JsonValue :=
  .object
    [ ("user", .object
        [ ("id", .string response.user.id),
          ("email", .string response.user.email),
          ("fullName", (response.user.fullName.map .string).getD .null),
          ("role", .string response.user.role.name),
          ("tenantId", .string response.user.tenantId),
          ("tenantSlug", .string response.user.tenantSlug) ]),
      ("tokens", tokensJson response.tokens) ]

/-- What a service throws reaches the filter as it is. -/
def outcome {α : Type} (json : α → JsonValue) : Except HttpError α → Except Exception JsonValue
  | .ok a => .ok (json a)
  | .error e => .error (.guard (.thrown e))

def register (dto : JsonValue) (s : Stores) : Except Exception JsonValue × Stores :=
  let r := AuthService.register api.auth m.now m.registering (RegisterDto.of dto) s.db
  (outcome sessionJson r.1, { s with db := r.2 })

def login (dto : JsonValue) (s : Stores) : Except Exception JsonValue × Stores :=
  let r := AuthService.login api.auth m.now (LoginDto.of dto) s.db
  (outcome sessionJson r.1, { s with db := r.2 })

def refresh (dto : JsonValue) (s : Stores) : Except Exception JsonValue × Stores :=
  (outcome tokensJson
    (AuthService.refresh api.auth m.now ((textField dto "refreshToken").getD "")), s)

/-- The id of a tenant is one that `uuid()` has generated. -/
def tenantUuid (tenantId : String) : Option Uuid :=
  if h : isUuid tenantId = true then some ⟨tenantId, h⟩ else none

def upload (user : Option AuthContext) (request : Fetch.Request MulterFile) (s : Stores) :
    Except Exception JsonValue × Stores :=
  let file :=
    match request.body with
    | some (.formData file) => some file
    | _ => none
  match user.bind fun u => (tenantUuid u.tenantId).map fun t => (u, t) with
  | none => (.error (.guard (.thrown (.internal ⟨none⟩))), s)
  | some (u, t) =>
      match file.bind api.parseFile with
      | some message => (.error (.guard (.thrown (.badRequest message))), s)
      | none =>
          let r := DocumentsService.upload api.storage t u.userId file m.uploading m.faults s
          (outcome api.documentJson r.1, r.2)

/-- A handler with a body, behind the parser, the guards and the pipe. -/
def withBody (e : Endpoint) (properties : List Property)
    (handler : JsonValue → Stores → Except Exception JsonValue × Stores)
    (request : Fetch.Request MulterFile) (s : Stores) : Except Exception JsonValue × Stores :=
  match api.received properties request with
  | none => (.error (.malformed m.bodyError), s)
  | some body =>
      match api.enter m e request s.db with
      | .error e => (.error e, s)
      | .ok _ =>
          match body with
          | .error e => (.error (.ofPipe e), s)
          | .ok dto => handler dto s

def handle (e : Endpoint) (request : Fetch.Request MulterFile) (s : Stores) :
    Except Exception JsonValue × Stores :=
  match e with
  | .register => api.withBody m e RegisterDto.properties (api.register m) request s
  | .login => api.withBody m e LoginDto.properties (api.login m) request s
  | .refresh => api.withBody m e RefreshDto.properties (api.refresh m) request s
  | .upload =>
      match api.enter m e request s.db with
      | .error e => (.error e, s)
      | .ok user => api.upload m user request s

def serve (request : Fetch.Request MulterFile) (s : Stores) : Fetch.Response × Stores :=
  match api.endpoint request with
  | none => (m.read, s)
  | some e =>
      let r := api.handle m e request s
      (api.respond m (api.apiPrefix ++ e.path) e.status r.1, r.2)

end Api

section Refusals
variable {api : Api} {m : Moment} {request : Fetch.Request MulterFile} {s : Stores}

/-- Thrown before anything is written, if it is to be answered 401. -/
def Silent (s : Stores) (r : Except Exception JsonValue × Stores) : Prop :=
  ∀ message, r.1 = .error (.guard (.thrown (.unauthorized message))) → r.2 = s

theorem describe_status (production : Bool) (e : Exception) :
    400 ≤ (AllExceptionsFilter.describe production e).1 ∧
      (AllExceptionsFilter.describe production e).1 ≤ 500 := by
  cases e with
  | guard e =>
      cases e with
      | forbidden message => simp [AllExceptionsFilter.describe]
      | thrown e => cases e <;> simp [AllExceptionsFilter.describe]
  | invalid | malformed | tooManyRequests => simp [AllExceptionsFilter.describe]

theorem status_unauthorized {production : Bool} {e : Exception}
    (h : (AllExceptionsFilter.describe production e).1 = 401) :
    ∃ message, e = .guard (.thrown (.unauthorized message)) := by
  cases e with
  | guard e =>
      cases e with
      | forbidden message => cases h
      | thrown e =>
          cases e with
          | unauthorized message => exact ⟨message, rfl⟩
          | badRequest | notFound | conflict | internal => cases h
  | invalid | malformed | tooManyRequests => cases h

theorem respond_unauthorized {url : String} {e : Endpoint}
    {outcome : Except Exception JsonValue} (h : (api.respond m url e.status outcome).status = 401) :
    ∃ message, outcome = .error (.guard (.thrown (.unauthorized message))) := by
  cases outcome with
  | ok v => cases e <;> cases h
  | error exception =>
      obtain ⟨message, rfl⟩ := status_unauthorized h
      exact ⟨message, rfl⟩

theorem outcome_unauthorized {α : Type} {json : α → JsonValue} {r : Except HttpError α}
    {message : String} (h : Api.outcome json r = .error (.guard (.thrown (.unauthorized message)))) :
    r = .error (.unauthorized message) := by
  cases r with
  | ok a => cases h
  | error e => cases h; rfl

/-- A response with tokens fails only inside the library. -/
theorem internal_of_respond {env : AuthEnv String} {now : Time} {user : User} {tenant : Tenant}
    {e : HttpError} (h : AuthService.respond env now user tenant = .error e) :
    ∃ err, e = .internal err := by
  rw [AuthService.respond] at h
  split at h
  · cases h
    exact ⟨_, rfl⟩
  · cases h

theorem register_silent (dto : JsonValue) : Silent s (api.register m dto s) := by
  intro message thrown
  have refused := outcome_unauthorized thrown
  by_cases free : AuthService.KeysFree api.auth m.registering (RegisterDto.of dto) s.db
  · rw [AuthService.register_free free] at refused
    obtain ⟨err, same⟩ := internal_of_respond refused
    cases same
  · obtain ⟨e, same⟩ := AuthService.register_refused m.now free
    rw [Api.register, same]

theorem login_silent (dto : JsonValue) : Silent s (api.login m dto s) := by
  intro message thrown
  have refused := outcome_unauthorized thrown
  rw [Api.login]
  cases passed : AuthService.authenticate api.auth (LoginDto.of dto) s.db with
  | error e =>
      rw [AuthService.login, passed]
  | ok found =>
      obtain ⟨user, tenant⟩ := found
      rw [AuthService.login_of_authenticate passed] at refused
      obtain ⟨err, same⟩ := internal_of_respond refused
      cases same

theorem checkFile_error {file : Option MulterFile} {e : HttpError}
    (h : DocumentsService.checkFile file = .error e) : ∃ message, e = .badRequest message := by
  cases file with
  | none => cases h; exact ⟨_, rfl⟩
  | some f =>
      rw [DocumentsService.checkFile] at h
      split at h
      · cases h
      · cases h
        exact ⟨_, rfl⟩

theorem upload_error {t : Uuid} {userId : String} {file : Option MulterFile} {e : HttpError}
    (h : (DocumentsService.upload api.storage t userId file m.uploading m.faults s).1 = .error e) :
    (∃ message, e = .badRequest message) ∨ ∃ err, e = .internal err := by
  rw [DocumentsService.upload] at h
  cases checked : DocumentsService.checkFile file with
  | error refused =>
      rw [checked] at h
      cases h
      exact Or.inl (checkFile_error checked)
  | ok f =>
      rw [checked] at h
      dsimp only at h
      repeat' split at h
      all_goals cases h
      all_goals exact Or.inr ⟨_, rfl⟩

theorem upload_silent (user : Option AuthContext) : Silent s (api.upload m user request s) := by
  intro message thrown
  rw [Api.upload] at thrown ⊢
  dsimp only at thrown ⊢
  split at thrown
  · rfl
  · split at thrown
    · rfl
    · rcases upload_error (outcome_unauthorized thrown) with ⟨_, same⟩ | ⟨_, same⟩ <;> cases same

theorem withBody_silent {e : Endpoint} {properties : List Property}
    {handler : JsonValue → Stores → Except Exception JsonValue × Stores}
    (silent : ∀ dto, Silent s (handler dto s)) :
    Silent s (api.withBody m e properties handler request s) := by
  rw [Api.withBody]
  split
  · exact fun _ _ => rfl
  · split
    · exact fun _ _ => rfl
    · split
      · exact fun _ _ => rfl
      · exact silent _

theorem handle_silent (e : Endpoint) : Silent s (api.handle m e request s) := by
  cases e with
  | register => exact withBody_silent register_silent
  | login => exact withBody_silent login_silent
  | refresh => exact withBody_silent fun _ _ _ => rfl
  | upload =>
      rw [Api.handle]
      split
      · exact fun _ _ => rfl
      · exact upload_silent _

theorem handle_refresh : (api.handle m .refresh request s).2 = s := by
  rw [Api.handle, Api.withBody]
  repeat' split
  all_goals rfl

theorem serve_refresh (routed : api.endpoint request = some .refresh) :
    (api.serve m request s).2 = s := by
  rw [Api.serve, routed]
  exact handle_refresh

/-- A request that is answered 401 has changed nothing. -/
theorem serve_unauthorized (h : (api.serve m request s).1.status = 401) :
    (api.serve m request s).2 = s := by
  rw [Api.serve] at h ⊢
  cases routed : api.endpoint request with
  | none => rfl
  | some e =>
      rw [routed] at h
      obtain ⟨message, thrown⟩ := respond_unauthorized h
      exact handle_silent e message thrown

end Refusals
end IdpSaas

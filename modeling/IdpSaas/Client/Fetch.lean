import IdpSaas.Lib.Json
import Mathlib.Data.List.DropRight

/-!
`apiFetch` with the requests that it sends and the responses that it gets: one call by
itself, with nothing else going on in the browser. What answers the requests is a
parameter with a state of its own. `apiFetch_course` lists what a call can come to.
-/

namespace IdpSaas
namespace Fetch

inductive RequestBody (φ : Type)
  | text (s : String)
  | formData (form : φ)
  deriving DecidableEq, Repr

/-- What a caller passes to `fetch`. Each name is in the record of headers once. -/
structure RequestInit (φ : Type) where
  method : Option String
  headers : List (String × String)
  body : Option (RequestBody φ)
  deriving DecidableEq, Repr

structure Request (φ : Type) extends RequestInit φ where
  url : String
  deriving DecidableEq, Repr

/-- A response; its text is none when the connection breaks before the end. -/
structure Response where
  status : Nat
  statusText : String
  text : Option String
  deriving DecidableEq, Repr

def Response.ok (r : Response) : Bool := decide (200 ≤ r.status ∧ r.status ≤ 299)

def getHeader (name : String) (headers : List (String × String)) : Option String :=
  (headers.find? fun h => h.1 == name).map Prod.snd

def setHeader (name value : String) (headers : List (String × String)) : List (String × String) :=
  if headers.any fun h => h.1 == name then
    headers.map fun h => if h.1 == name then (name, value) else h
  else headers ++ [(name, value)]

/-- A name is a token, a value a byte string without line ends, once it is trimmed. -/
def isHeaderName (s : String) : Bool :=
  !s.isEmpty && s.toList.all fun c => c.isAlphanum || "!#$%&'*+-.^_`|~".toList.contains c

def isHeaderValue (s : String) : Bool :=
  let blank := fun c : Char => ['\t', '\n', '\r', ' '].contains c
  ((s.toList.dropWhile blank).rdropWhile blank).all fun c =>
    decide (c.toNat ≤ 0xFF) && !(['\x00', '\n', '\r'].contains c)

/-- `fetch` throws before it sends a request with other headers. -/
def Request.allowed {φ : Type} (r : Request φ) : Bool :=
  r.headers.all fun h => isHeaderName h.1 && isHeaderValue h.2

structure Storage where
  access : Option String
  refresh : Option String
  user : Option String
  deriving DecidableEq, Repr

def truthy (item : Option String) : Option String := item.filter fun s => s ≠ ""

/-- The browser, and what answers its requests; a request may get no response. -/
structure Web (φ ω : Type) where
  apiBase : String
  format : JsonValue.Format
  send : Request φ → ω → Option Response × ω

/-- What a request is sent for: the call itself, or new tokens. -/
inductive Purpose
  | call | refresh
  deriving DecidableEq, Repr

structure Exchange (φ : Type) where
  purpose : Purpose
  request : Request φ
  reply : Option Response
  deriving DecidableEq, Repr

/-- The state that a call works on, with what has been sent so far. -/
structure Run (φ ω : Type) where
  world : ω
  storage : Storage
  log : List (Exchange φ)

/-- Errors of the runtime: a rejected `fetch`, a body that cannot be read, one that is not
JSON, one that is null where an object is used, and a value that has no text. -/
inductive Failure
  | rejected | unread | notJson | nullBody | noText
  deriving DecidableEq, Repr

inductive Thrown
  | error (purpose : Purpose) (failure : Failure)
  | value (v : JsonValue)

section Client
variable {φ ω : Type} (web : Web φ ω)

def Run.exchange (s : Run φ ω) (purpose : Purpose) (request : Request φ) : Run φ ω :=
  { s with
    world := (web.send request s.world).2
    log := s.log ++ [⟨purpose, request, (web.send request s.world).1⟩] }

def Run.store (s : Run φ ω) (tokens : String × String) : Run φ ω :=
  { s with storage := { s.storage with access := some tokens.1, refresh := some tokens.2 } }

def fetch (purpose : Purpose) (request : Request φ) (s : Run φ ω) : Option Response × Run φ ω :=
  if request.allowed then ((web.send request s.world).1, s.exchange web purpose request)
  else (none, s)

/-- What is stored for a field of the refreshed tokens. -/
def storedText (data : JsonValue) (field : String) : Option String :=
  match data.field field with
  | none => some "undefined"
  | some v => v.toText web.format

def newTokens (res : Response) : Except Failure (String × String) :=
  match res.text with
  | none => .error .unread
  | some text =>
      match JsonValue.parse text with
      | none => .error .notJson
      | some .null => .error .nullBody
      | some data =>
          match storedText web data "accessToken", storedText web data "refreshToken" with
          | some access, some refresh => .ok (access, refresh)
          | _, _ => .error .noText

/-- The access token, which is stored before the refresh token is looked at. -/
def newAccess (res : Response) : Option String :=
  match res.text.bind JsonValue.parse with
  | none | some .null => none
  | some data => storedText web data "accessToken"

/-- What a refresh without tokens leaves. -/
def Run.keep (s : Run φ ω) (access : Option String) : Run φ ω :=
  { s with storage := { s.storage with access := access.or s.storage.access } }

def refreshRequest (refreshToken : String) : Request φ where
  url := web.apiBase ++ "/auth/refresh"
  method := some "POST"
  headers := [("Content-Type", "application/json")]
  body := some (.text ((JsonValue.object [("refreshToken", .string refreshToken)]).stringify
    web.format))

def tryRefresh (s : Run φ ω) : Except Thrown Bool × Run φ ω :=
  match truthy s.storage.refresh with
  | none => (.ok false, s)
  | some refreshToken =>
      match fetch web .refresh (refreshRequest web refreshToken) s with
      | (none, s) => (.error (.error .refresh .rejected), s)
      | (some res, s) =>
          if !res.ok then (.ok false, s)
          else
            match newTokens web res with
            | .error failure => (.error (.error .refresh failure), s.keep (newAccess web res))
            | .ok tokens => (.ok true, s.store tokens)

def firstRequest (path : String) (init : RequestInit φ) (storage : Storage) : Request φ :=
  let headers :=
    match truthy storage.access with
    | some accessToken => setHeader "Authorization" ("Bearer " ++ accessToken) init.headers
    | none => init.headers
  { init with
    url := web.apiBase ++ path
    headers :=
      match init.body with
      | some (.formData _) => headers
      | _ =>
          if (truthy (getHeader "Content-Type" headers)).isNone then
            setHeader "Content-Type" "application/json" headers
          else headers }

def retryRequest (request : Request φ) (newAccess : Option String) : Request φ :=
  { request with
    headers := setHeader "Authorization" ("Bearer " ++ newAccess.getD "null") request.headers }

/-- The body that a text is read as; an empty one is null. -/
def parseBody (text : String) : Option JsonValue :=
  if text = "" then some .null else JsonValue.parse text

/-- `body ?? fallback`. -/
def orFallback (response : Response) : JsonValue → JsonValue
  | .null =>
      .object
        [ ("statusCode", .number (.finite response.status)),
          ("error", .string response.statusText),
          ("message", .string "Request failed") ]
  | body => body

/-- How a call settles by its last response. -/
def settle (response : Response) : Except Thrown JsonValue :=
  match response.text with
  | none => .error (.error .call .unread)
  | some text =>
      match parseBody text with
      | none => .error (.error .call .notJson)
      | some body =>
          if !response.ok then .error (.value (orFallback response body)) else .ok body

/-- The rest of a call, once its last `fetch` has settled. -/
def finish : Option Response × Run φ ω → Except Thrown JsonValue × Run φ ω
  | (none, s) => (.error (.error .call .rejected), s)
  | (some response, s) => (settle response, s)

def apiFetch (path : String) (init : RequestInit φ) (s : Run φ ω) :
    Except Thrown JsonValue × Run φ ω :=
  let accessToken := truthy s.storage.access
  let request := firstRequest web path init s.storage
  match fetch web .call request s with
  | (none, s) => (.error (.error .call .rejected), s)
  | (some response, s) =>
      if response.status = 401 ∧ accessToken.isSome then
        match tryRefresh web s with
        | (.error thrown, s) => (.error thrown, s)
        | (.ok false, s) => (settle response, s)
        | (.ok true, s) => finish (fetch web .call (retryRequest request s.storage.access) s)
      else (settle response, s)

/-- The call has been answered 401, and there are tokens to refresh. -/
structure Refused (path : String) (init : RequestInit φ) (s : Run φ ω) (response : Response)
    (refreshToken : String) : Prop where
  allowed : (firstRequest web path init s.storage).allowed = true
  reply : (web.send (firstRequest web path init s.storage) s.world).1 = some response
  status : response.status = 401
  signedIn : (truthy s.storage.access).isSome = true
  refreshToken : truthy s.storage.refresh = some refreshToken

/-- The state after the first request, and after the refresh. -/
def Run.called (path : String) (init : RequestInit φ) (s : Run φ ω) : Run φ ω :=
  s.exchange web .call (firstRequest web path init s.storage)

def Run.refreshed (path : String) (init : RequestInit φ) (s : Run φ ω) (refreshToken : String) :
    Run φ ω :=
  (s.called web path init).exchange web .refresh (refreshRequest web refreshToken)

/-- What a call can come to: how it settles, and the state that it leaves. -/
inductive Course (path : String) (init : RequestInit φ) (s : Run φ ω) :
    Except Thrown JsonValue → Run φ ω → Prop
  | unsent (barred : (firstRequest web path init s.storage).allowed = false) :
      Course path init s (.error (.error .call .rejected)) s
  | lost (reply : (web.send (firstRequest web path init s.storage) s.world).1 = none) :
      Course path init s (.error (.error .call .rejected)) (s.called web path init)
  | settled (response : Response)
      (reply : (web.send (firstRequest web path init s.storage) s.world).1 = some response)
      (done : response.status = 401 → (truthy s.storage.access).isSome = true →
        truthy s.storage.refresh = none) :
      Course path init s (settle response) (s.called web path init)
  | refreshLost (response : Response) (token : String)
      (refused : Refused web path init s response token)
      (reply : (web.send (refreshRequest web token) (s.called web path init).world).1 = none) :
      Course path init s (.error (.error .refresh .rejected)) (s.refreshed web path init token)
  | refreshRefused (response : Response) (token : String) (res : Response)
      (refused : Refused web path init s response token)
      (reply : (web.send (refreshRequest web token) (s.called web path init).world).1 = some res)
      (failed : res.ok = false) :
      Course path init s (settle response) (s.refreshed web path init token)
  | refreshUnusable (response : Response) (token : String) (res : Response) (failure : Failure)
      (refused : Refused web path init s response token)
      (reply : (web.send (refreshRequest web token) (s.called web path init).world).1 = some res)
      (ok : res.ok = true) (none : newTokens web res = .error failure) :
      Course path init s (.error (.error .refresh failure))
        ((s.refreshed web path init token).keep (newAccess web res))
  | retryUnsent (response : Response) (token : String) (res : Response) (tokens : String × String)
      (refused : Refused web path init s response token)
      (reply : (web.send (refreshRequest web token) (s.called web path init).world).1 = some res)
      (ok : res.ok = true) (new : newTokens web res = .ok tokens)
      (barred : (retryRequest (firstRequest web path init s.storage) (some tokens.1)).allowed =
        false) :
      Course path init s (.error (.error .call .rejected))
        ((s.refreshed web path init token).store tokens)
  | retried (response : Response) (token : String) (res : Response) (tokens : String × String)
      (refused : Refused web path init s response token)
      (reply : (web.send (refreshRequest web token) (s.called web path init).world).1 = some res)
      (ok : res.ok = true) (new : newTokens web res = .ok tokens)
      (allowed : (retryRequest (firstRequest web path init s.storage) (some tokens.1)).allowed =
        true) (retry : Option Response)
      (answer : (web.send (retryRequest (firstRequest web path init s.storage) (some tokens.1))
        (s.refreshed web path init token).world).1 = retry) :
      Course path init s (retry.elim (.error (.error .call .rejected)) settle)
        (((s.refreshed web path init token).store tokens).exchange web .call
          (retryRequest (firstRequest web path init s.storage) (some tokens.1)))

theorem refreshRequest_allowed (token : String) :
    (refreshRequest web token : Request φ).allowed = true := by
  change ([("Content-Type", "application/json")].all fun h =>
    isHeaderName h.1 && isHeaderValue h.2) = true
  decide +kernel

theorem fetch_allowed {request : Request φ} (allowed : request.allowed = true) (purpose : Purpose)
    (s : Run φ ω) :
    fetch web purpose request s =
      ((web.send request s.world).1, s.exchange web purpose request) := if_pos allowed

theorem fetch_barred {request : Request φ} (barred : request.allowed = false) (purpose : Purpose)
    (s : Run φ ω) : fetch web purpose request s = (none, s) := by
  rw [fetch, barred, if_neg Bool.false_ne_true]

theorem finish_eq (reply : Option Response) (s : Run φ ω) :
    finish (reply, s) = (reply.elim (.error (.error .call .rejected)) settle, s) := by
  cases reply <;> rfl

section Refresh
variable {web} {s : Run φ ω} {token : String} {res : Response}

theorem tryRefresh_signedOut (none : truthy s.storage.refresh = none) :
    tryRefresh web s = (.ok false, s) := by
  rw [tryRefresh, none]

theorem tryRefresh_lost (there : truthy s.storage.refresh = some token)
    (reply : (web.send (refreshRequest web token) s.world).1 = none) :
    tryRefresh web s =
      (.error (.error .refresh .rejected), s.exchange web .refresh (refreshRequest web token)) := by
  simp only [tryRefresh, there, fetch_allowed web (refreshRequest_allowed web token), reply]

theorem tryRefresh_refused (there : truthy s.storage.refresh = some token)
    (reply : (web.send (refreshRequest web token) s.world).1 = some res) (failed : res.ok = false) :
    tryRefresh web s = (.ok false, s.exchange web .refresh (refreshRequest web token)) := by
  simp only [tryRefresh, there, fetch_allowed web (refreshRequest_allowed web token), reply, failed,
    Bool.not_false, if_true]

theorem tryRefresh_unusable (there : truthy s.storage.refresh = some token)
    (reply : (web.send (refreshRequest web token) s.world).1 = some res) (ok : res.ok = true)
    {failure : Failure} (none : newTokens web res = .error failure) :
    tryRefresh web s =
      (.error (.error .refresh failure),
        (s.exchange web .refresh (refreshRequest web token)).keep (newAccess web res)) := by
  simp only [tryRefresh, there, fetch_allowed web (refreshRequest_allowed web token), reply, ok,
    Bool.not_true, if_neg Bool.false_ne_true, none]

theorem tryRefresh_new (there : truthy s.storage.refresh = some token)
    (reply : (web.send (refreshRequest web token) s.world).1 = some res) (ok : res.ok = true)
    {tokens : String × String} (new : newTokens web res = .ok tokens) :
    tryRefresh web s =
      (.ok true, (s.exchange web .refresh (refreshRequest web token)).store tokens) := by
  simp only [tryRefresh, there, fetch_allowed web (refreshRequest_allowed web token), reply, ok,
    Bool.not_true, if_neg Bool.false_ne_true, new]

end Refresh

theorem apiFetch_refused {path : String} {init : RequestInit φ} {s : Run φ ω} {response : Response}
    (allowed : (firstRequest web path init s.storage).allowed = true)
    (reply : (web.send (firstRequest web path init s.storage) s.world).1 = some response)
    (refused : response.status = 401 ∧ (truthy s.storage.access).isSome = true) :
    apiFetch web path init s =
      match tryRefresh web (s.called web path init) with
      | (.error thrown, s) => (.error thrown, s)
      | (.ok false, s) => (settle response, s)
      | (.ok true, r) =>
          finish (fetch web .call
            (retryRequest (firstRequest web path init s.storage) r.storage.access) r) := by
  rw [apiFetch, fetch_allowed web allowed, reply]
  dsimp only
  rw [if_pos refused]
  rfl

theorem apiFetch_again {path : String} {init : RequestInit φ} {s : Run φ ω} {response : Response}
    {token : String} {res : Response} {tokens : String × String}
    (refused : Refused web path init s response token)
    (reply : (web.send (refreshRequest web token) (s.called web path init).world).1 = some res)
    (ok : res.ok = true) (new : newTokens web res = .ok tokens) :
    apiFetch web path init s =
      finish (fetch web .call
        (retryRequest (firstRequest web path init s.storage) (some tokens.1))
        ((s.refreshed web path init token).store tokens)) := by
  rw [apiFetch_refused web refused.allowed refused.reply ⟨refused.status, refused.signedIn⟩,
    tryRefresh_new (s := s.called web path init) refused.refreshToken reply ok new]
  rfl

theorem course_of_refused {path : String} {init : RequestInit φ} {s : Run φ ω}
    {response : Response} {token : String} (refused : Refused web path init s response token) :
    Course web path init s (apiFetch web path init s).1 (apiFetch web path init s).2 := by
  have goes := apiFetch_refused web refused.allowed refused.reply ⟨refused.status, refused.signedIn⟩
  have there : truthy (s.called web path init).storage.refresh = some token := refused.refreshToken
  cases reply : (web.send (refreshRequest web token) (s.called web path init).world).1 with
  | none =>
      rw [tryRefresh_lost there reply] at goes
      rw [goes]
      exact .refreshLost response token refused reply
  | some res =>
      cases ok : res.ok with
      | false =>
          rw [tryRefresh_refused there reply ok] at goes
          rw [goes]
          exact .refreshRefused response token res refused reply ok
      | true =>
          cases new : newTokens web res with
          | error failure =>
              rw [tryRefresh_unusable there reply ok new] at goes
              rw [goes]
              exact .refreshUnusable response token res failure refused reply ok new
          | ok tokens =>
              have goes := apiFetch_again web refused reply ok new
              cases again : (retryRequest (firstRequest web path init s.storage)
                  (some tokens.1)).allowed with
              | false =>
                  rw [fetch_barred web again] at goes
                  rw [goes]
                  exact .retryUnsent response token res tokens refused reply ok new again
              | true =>
                  rw [fetch_allowed web again, finish_eq] at goes
                  rw [goes]
                  exact .retried response token res tokens refused reply ok new again _ rfl

theorem apiFetch_course (path : String) (init : RequestInit φ) (s : Run φ ω) :
    Course web path init s (apiFetch web path init s).1 (apiFetch web path init s).2 := by
  cases allowed : (firstRequest web path init s.storage).allowed with
  | false =>
      rw [apiFetch, fetch_barred web allowed]
      exact .unsent allowed
  | true =>
      cases reply : (web.send (firstRequest web path init s.storage) s.world).1 with
      | none =>
          rw [apiFetch, fetch_allowed web allowed, reply]
          exact .lost reply
      | some response =>
          by_cases refused : response.status = 401 ∧ (truthy s.storage.access).isSome = true
          · cases there : truthy s.storage.refresh with
            | none =>
                rw [apiFetch_refused web allowed reply refused,
                  tryRefresh_signedOut (s := s.called web path init) there]
                exact .settled response reply fun _ _ => there
            | some token =>
                exact course_of_refused web ⟨allowed, reply, refused.1, refused.2, there⟩
          · rw [apiFetch, fetch_allowed web allowed, reply]
            dsimp only
            rw [if_neg refused]
            exact .settled response reply fun status signedIn => absurd ⟨status, signedIn⟩ refused

end Client

section Headers

theorem any_setHeader (name value : String) (headers : List (String × String)) :
    ((setHeader name value headers).any fun h => h.1 == name) = true := by
  rw [setHeader]
  split
  · next there =>
      obtain ⟨h, mem, same⟩ := List.any_eq_true.mp there
      refine List.any_eq_true.mpr ⟨(name, value), ?_, beq_self_eq_true name⟩
      exact List.mem_map.mpr ⟨h, mem, by rw [if_pos same]⟩
  · rw [List.any_append]
    simp

theorem any_setHeader_of_any {name : String} {headers : List (String × String)}
    (there : (headers.any fun h => h.1 == name) = true) (other value : String) :
    ((setHeader other value headers).any fun h => h.1 == name) = true := by
  obtain ⟨h, mem, same⟩ := List.any_eq_true.mp there
  rw [setHeader]
  split
  · by_cases here : h.1 == other
    · refine List.any_eq_true.mpr ⟨(other, value), ?_, ?_⟩
      · exact List.mem_map.mpr ⟨h, mem, by rw [if_pos here]⟩
      · rwa [← beq_iff_eq.mp here]
    · exact List.any_eq_true.mpr ⟨h, List.mem_map.mpr ⟨h, mem, by rw [if_neg here]⟩, same⟩
  · rw [List.any_append, there, Bool.true_or]

/-- With the other headers as they were, all depends on the value that replaces one. -/
theorem all_setHeader {name : String} {headers : List (String × String)}
    (allowed : (headers.all fun h => isHeaderName h.1 && isHeaderValue h.2) = true)
    (there : (headers.any fun h => h.1 == name) = true) (value : String) :
    ((setHeader name value headers).all fun h => isHeaderName h.1 && isHeaderValue h.2) =
      isHeaderValue value := by
  obtain ⟨h, mem, same⟩ := List.any_eq_true.mp there
  rw [List.all_eq_true] at allowed
  have named : isHeaderName name = true :=
    beq_iff_eq.mp same ▸ (Bool.and_eq_true _ _ ▸ allowed h mem).1
  rw [setHeader, if_pos there, List.all_map]
  cases carried : isHeaderValue value with
  | false =>
      rw [List.all_eq_false]
      refine ⟨h, mem, ?_⟩
      simp only [Function.comp, if_pos same, carried, Bool.and_false]
      exact Bool.false_ne_true
  | true =>
      rw [List.all_eq_true]
      intro g hg
      by_cases here : g.1 == name
      · simp only [Function.comp, if_pos here, named, carried, Bool.and_true]
      · simp only [Function.comp, if_neg here]
        exact allowed g hg

variable {φ ω : Type} {web : Web φ ω}

theorem any_authorization {path : String} {init : RequestInit φ} {storage : Storage}
    (signedIn : (truthy storage.access).isSome = true) :
    ((firstRequest web path init storage).headers.any fun h => h.1 == "Authorization") = true := by
  obtain ⟨accessToken, there⟩ := Option.isSome_iff_exists.mp signedIn
  simp only [firstRequest, there]
  have set := any_setHeader "Authorization" ("Bearer " ++ accessToken) init.headers
  split
  · exact set
  · split
    · exact any_setHeader_of_any set _ _
    · exact set

/-- The request can be sent again when its new token can be carried in a header. -/
theorem retryRequest_allowed {path : String} {init : RequestInit φ} {s : Run φ ω}
    {response : Response} {token : String} (refused : Refused web path init s response token)
    (access : String) :
    (retryRequest (firstRequest web path init s.storage) (some access)).allowed =
      isHeaderValue ("Bearer " ++ access) :=
  all_setHeader refused.allowed (any_authorization refused.signedIn) _

end Headers

section Exchanges
variable {φ ω : Type}

def Run.since (s s' : Run φ ω) : List (Exchange φ) := s'.log.drop s.log.length

def calls (exchanges : List (Exchange φ)) : List (Exchange φ) :=
  exchanges.filter fun e => e.purpose = .call

def refreshes (exchanges : List (Exchange φ)) : List (Exchange φ) :=
  exchanges.filter fun e => e.purpose = .refresh

def responses (exchanges : List (Exchange φ)) : List Response :=
  (calls exchanges).filterMap Exchange.reply

/-- Nothing has failed on the way: there is a response, and new tokens arrive whole. -/
def Exchange.Delivered (e : Exchange φ) : Prop :=
  ∃ response, e.reply = some response ∧
    (e.purpose = .refresh → response.ok = true → response.text ≠ none)

/-- The response has a body with new tokens, of which the access token can be sent. -/
def BringsTokens (web : Web φ ω) (res : Response) : Prop :=
  ∃ tokens, newTokens web res = .ok tokens ∧ isHeaderValue ("Bearer " ++ tokens.1) = true

variable {web : Web φ ω} {path : String} {init : RequestInit φ} {s : Run φ ω}

@[simp] theorem since_self (s : Run φ ω) : s.since s = [] := List.drop_length

theorem since_of_log {s' : Run φ ω} {exchanges : List (Exchange φ)}
    (log : s'.log = s.log ++ exchanges) : s.since s' = exchanges := by
  rw [Run.since, log, List.drop_left]

@[simp] theorem since_called :
    s.since (s.called web path init) =
      [⟨.call, firstRequest web path init s.storage,
        (web.send (firstRequest web path init s.storage) s.world).1⟩] := since_of_log rfl

@[simp] theorem since_refreshed (token : String) :
    s.since (s.refreshed web path init token) =
      [⟨.call, firstRequest web path init s.storage,
          (web.send (firstRequest web path init s.storage) s.world).1⟩,
        ⟨.refresh, refreshRequest web token,
          (web.send (refreshRequest web token) (s.called web path init).world).1⟩] :=
  since_of_log (List.append_assoc _ _ _)

@[simp] theorem since_kept (token : String) (access : Option String) :
    s.since ((s.refreshed web path init token).keep access) =
      s.since (s.refreshed web path init token) := rfl

@[simp] theorem since_stored (token : String) (tokens : String × String) :
    s.since ((s.refreshed web path init token).store tokens) =
      s.since (s.refreshed web path init token) := rfl

@[simp] theorem since_retried (token : String) (tokens : String × String) (request : Request φ) :
    s.since (((s.refreshed web path init token).store tokens).exchange web .call request) =
      s.since (s.refreshed web path init token) ++
        [⟨.call, request, (web.send request (s.refreshed web path init token).world).1⟩] := by
  rw [since_refreshed]
  refine since_of_log ?_
  change s.log ++ _ ++ _ ++ _ = _
  rw [List.append_assoc, List.append_assoc]
  rfl

/-- Each exchange is one of the requests of the call, with what was sent back. -/
theorem Course.sent {s' : Run φ ω} {outcome : Except Thrown JsonValue}
    (course : Course web path init s outcome s') {e : Exchange φ} (there : e ∈ s.since s') :
    ∃ w, e.reply = (web.send e.request w).1 ∧
      (e.purpose = .refresh → ∃ token, e.request = refreshRequest web token) ∧
      (e.purpose = .call → e.request = firstRequest web path init s.storage ∨
        ∃ access, e.request = retryRequest (firstRequest web path init s.storage) access) := by
  cases course with
  | unsent => simp at there
  | lost | settled =>
      simp only [since_called, List.mem_singleton] at there
      subst there
      exact ⟨s.world, rfl, nofun, fun _ => Or.inl rfl⟩
  | refreshLost _ token | refreshRefused _ token | refreshUnusable _ token | retryUnsent _ token =>
      simp only [since_kept, since_stored, since_refreshed, List.mem_cons, List.not_mem_nil,
        or_false] at there
      rcases there with rfl | rfl
      · exact ⟨s.world, rfl, nofun, fun _ => Or.inl rfl⟩
      · exact ⟨(s.called web path init).world, rfl, fun _ => ⟨token, rfl⟩, nofun⟩
  | retried _ token =>
      simp only [since_retried, since_refreshed, List.cons_append, List.nil_append, List.mem_cons,
        List.not_mem_nil, or_false] at there
      rcases there with rfl | rfl | rfl
      · exact ⟨s.world, rfl, nofun, fun _ => Or.inl rfl⟩
      · exact ⟨(s.called web path init).world, rfl, fun _ => ⟨token, rfl⟩, nofun⟩
      · exact ⟨(s.refreshed web path init token).world, rfl, nofun, fun _ => Or.inr ⟨_, rfl⟩⟩

theorem newTokens_text {res : Response} {tokens : String × String}
    (new : newTokens web res = .ok tokens) : res.text ≠ none := by
  intro unread
  rw [newTokens, unread] at new
  cases new

theorem bringsTokens_iff {res : Response} {tokens : String × String}
    (new : newTokens web res = .ok tokens) :
    BringsTokens web res ↔ isHeaderValue ("Bearer " ++ tokens.1) = true := by
  constructor
  · rintro ⟨tokens', new', carried⟩
    rw [new] at new'
    cases new'
    exact carried
  · exact fun carried => ⟨tokens, new, carried⟩

theorem not_bringsTokens {res : Response} {failure : Failure}
    (none : newTokens web res = .error failure) : ¬BringsTokens web res := by
  rintro ⟨tokens, new, -⟩
  rw [none] at new
  cases new

/-- A call that settles by a response does not throw what a refresh or `fetch` throws. -/
theorem settle_ne_refresh (response : Response) (failure : Failure) :
    settle response ≠ .error (.error .refresh failure) := by
  rw [settle]
  intro same
  repeat' split at same
  all_goals cases same

theorem settle_ne_rejected (response : Response) :
    settle response ≠ .error (.error .call .rejected) := by
  rw [settle]
  intro same
  repeat' split at same
  all_goals cases same

end Exchanges
end Fetch
end IdpSaas

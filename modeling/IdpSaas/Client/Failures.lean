import IdpSaas.Client.Retry

/-!
What the pages get to see of a failed call. The body of a failed response is thrown as it
was parsed, so its status and a message reach the page exactly when the body has them, or
is empty or null, and nothing else has made the call throw first.
-/

namespace IdpSaas
namespace Fetch

/-- `x === status`. -/
def hasStatus (status : Nat) : Option JsonValue → Bool
  | some (.number (.finite q)) => decide (q = status)
  | _ => false

/-- A text, or a list of texts. -/
def isMessage : JsonValue → Bool
  | .string _ => true
  | .array items => items.all fun v => match v with
      | .string _ => true
      | _ => false
  | _ => false

namespace Thrown

def statusCode : Thrown → Option JsonValue
  | .value v => v.field "statusCode"
  | .error _ _ => none

def hasMessage : Thrown → Bool
  | .value v => (v.field "message").any isMessage
  | .error _ _ => true

/-- The test by which a page ends the session. -/
def isUnauthorized (thrown : Thrown) : Bool := hasStatus 401 thrown.statusCode

end Thrown

/-- The call throws the status of the response with a message, and a page that tests for
401 ends the session exactly if that is the status. -/
def ReachesCaller (response : Response) (outcome : Except Thrown JsonValue) : Prop :=
  ∃ thrown, outcome = .error thrown ∧ hasStatus response.status thrown.statusCode = true ∧
    thrown.hasMessage = true ∧ (thrown.isUnauthorized = true ↔ response.status = 401)

/-- The body is empty or null, or has the status and a message. -/
def isApiError (status : Nat) (text : String) : Bool :=
  match parseBody text with
  | none => false
  | some .null => true
  | some body => hasStatus status (body.field "statusCode") && (body.field "message").any isMessage

/-- If a refused call has a refresh token, the refresh is answered; and if with success, it
brings tokens, and the second request is answered as well. -/
def Undisturbed {φ ω : Type} (web : Web φ ω) (path : String) (init : RequestInit φ)
    (s : Run φ ω) : Prop :=
  ∀ response token, Refused web path init s response token →
    ∃ res, (web.send (refreshRequest web token) (s.called web path init).world).1 = some res ∧
      (res.ok = true → BringsTokens web res ∧
        ∀ tokens, newTokens web res = .ok tokens → (web.send
          (retryRequest (firstRequest web path init s.storage) (some tokens.1))
            (s.refreshed web path init token).world).1 ≠ none)

section Failures
variable {φ ω : Type} {web : Web φ ω} {path : String} {init : RequestInit φ} {s s' : Run φ ω}
  {outcome : Except Thrown JsonValue} {response : Response} {text : String}

theorem hasStatus_unique {status status' : Nat} {v : Option JsonValue}
    (h : hasStatus status v = true) : hasStatus status' v = true ↔ status = status' := by
  match v, h with
  | some (.number (.finite q)), h =>
      have same : q = status := of_decide_eq_true h
      rw [same, hasStatus, decide_eq_true_eq, Nat.cast_inj]

theorem not_reachesCaller_error (purpose : Purpose) (failure : Failure) :
    ¬ReachesCaller response (.error (.error purpose failure)) := by
  rintro ⟨thrown, same, status, -⟩
  cases same
  cases status

theorem reachesCaller_value (v : JsonValue) :
    ReachesCaller response (.error (.value v)) ↔
      hasStatus response.status (v.field "statusCode") = true ∧
        (v.field "message").any isMessage = true := by
  constructor
  · rintro ⟨thrown, same, status, message, -⟩
    cases same
    exact ⟨status, message⟩
  · rintro ⟨status, message⟩
    exact ⟨.value v, rfl, status, message, hasStatus_unique status⟩

theorem settle_reaches_iff (failed : response.ok = false) (read : response.text = some text) :
    ReachesCaller response (settle response) ↔ isApiError response.status text = true := by
  rw [settle, read, isApiError]
  dsimp only
  cases parseBody text with
  | none => exact iff_of_false (not_reachesCaller_error _ _) Bool.false_ne_true
  | some body =>
      simp only [failed, Bool.not_false, if_true]
      rw [reachesCaller_value]
      cases body with
      | null => simp [orFallback, JsonValue.field, hasStatus, isMessage]
      | bool | number | string | array | object =>
          simp only [orFallback, Bool.and_eq_true]

theorem isApiError_of_parse {status : Nat} {body : JsonValue}
    (parsed : JsonValue.parse text = some body)
    (hasStatus : hasStatus status (body.field "statusCode") = true)
    (message : (body.field "message").any isMessage = true) :
    isApiError status text = true := by
  rw [isApiError, parseBody]
  by_cases empty : text = ""
  · rw [if_pos empty]
  · rw [if_neg empty, parsed]
    cases body with
    | null => rfl
    | bool | number | string | array | object =>
        dsimp only
        rw [hasStatus, message]
        rfl

theorem undisturbed_of_reply {token : String} (refused : Refused web path init s response token)
    {reply : Option Response}
    (replied : (web.send (refreshRequest web token) (s.called web path init).world).1 = reply) :
    Undisturbed web path init s ↔
      ∃ res, reply = some res ∧ (res.ok = true → BringsTokens web res ∧
        ∀ tokens, newTokens web res = .ok tokens → (web.send
          (retryRequest (firstRequest web path init s.storage) (some tokens.1))
            (s.refreshed web path init token).world).1 ≠ none) := by
  rw [← replied]
  constructor
  · exact fun undisturbed => undisturbed response token refused
  · intro undisturbed response' token' refused'
    obtain rfl : token = token' :=
      Option.some.inj (refused.refreshToken.symm.trans refused'.refreshToken)
    exact undisturbed

/-- A call that has a response settles by it, or an error of the runtime is thrown. -/
theorem Course.settled_or_thrown (course : Course web path init s outcome s')
    (last : (responses (s.since s')).getLast? = some response) :
    Undisturbed web path init s ∧ outcome = settle response ∨
      ¬Undisturbed web path init s ∧
        ∃ purpose failure, outcome = .error (.error purpose failure) := by
  cases course with
  | unsent => simp [responses, calls] at last
  | lost reply => simp [responses, calls, reply] at last
  | settled only reply done =>
      obtain rfl : only = response := by simpa [responses, calls, reply] using last
      exact Or.inl ⟨fun _ _ refused => absurd refused (not_refused_of_done reply done), rfl⟩
  | refreshLost only token refused reply =>
      refine Or.inr ⟨?_, _, _, rfl⟩
      rw [undisturbed_of_reply refused reply]
      simp
  | refreshRefused only token res refused reply failed =>
      obtain rfl : only = response := by simpa [responses, calls, refused.reply] using last
      refine Or.inl ⟨?_, rfl⟩
      rw [undisturbed_of_reply refused reply]
      exact ⟨res, rfl, fun ok => absurd (failed.symm.trans ok) Bool.false_ne_true⟩
  | refreshUnusable only token res failure refused reply ok none =>
      refine Or.inr ⟨?_, _, _, rfl⟩
      rw [undisturbed_of_reply refused reply]
      simp [ok, not_bringsTokens none]
  | retryUnsent only token res tokens refused reply ok new barred =>
      refine Or.inr ⟨?_, _, _, rfl⟩
      rw [retryRequest_allowed refused] at barred
      rw [undisturbed_of_reply refused reply]
      simp [ok, bringsTokens_iff new, barred]
  | retried only token res tokens refused reply ok new allowed retry answer =>
      rw [retryRequest_allowed refused] at allowed
      rw [undisturbed_of_reply refused reply]
      cases retry with
      | none =>
          refine Or.inr ⟨fun undisturbed => ?_, _, _, rfl⟩
          obtain ⟨same, sent, brought⟩ := undisturbed
          cases sent
          exact (brought ok).2 tokens new answer
      | some answered =>
          obtain rfl : answered = response := by
            simpa [responses, calls, refused.reply, answer] using last
          refine Or.inl ⟨⟨res, rfl, fun _ => ⟨(bringsTokens_iff new).mpr allowed, ?_⟩⟩, rfl⟩
          intro tokens' new'
          cases new.symm.trans new'
          rw [answer]
          exact Option.some_ne_none answered

/-- A failed response reaches the caller as an API error exactly when nothing has come
between and the body is as it should be. -/
theorem failures_reach_iff (web : Web φ ω) (path : String) (init : RequestInit φ) (s : Run φ ω)
    (response : Response) (text : String)
    (last : (responses (s.since (apiFetch web path init s).2)).getLast? = some response)
    (failed : response.ok = false) (read : response.text = some text) :
    ReachesCaller response (apiFetch web path init s).1 ↔
      Undisturbed web path init s ∧ isApiError response.status text = true := by
  cases (apiFetch_course web path init s).settled_or_thrown last with
  | inl settled => rw [settled.2, settle_reaches_iff failed read, and_iff_right settled.1]
  | inr thrown =>
      obtain ⟨disturbed, purpose, failure, thrown⟩ := thrown
      rw [thrown]
      exact iff_of_false (not_reachesCaller_error _ _) fun h => disturbed h.1

end Failures

namespace Sample

/-- Answers that are fixed in advance, one for each request. -/
def scripted : Web Unit (List (Option Response)) where
  apiBase := "http://localhost:3001/api/v1"
  format := .digits
  send _ replies := (replies.head?.join, replies.tail)

def signedIn : Storage := ⟨some "access", some "refresh", none⟩

def get : RequestInit Unit := ⟨none, [], none⟩

/-- A page of the proxy in front of the API. -/
def badGateway : Response :=
  ⟨502, "Bad Gateway", some "<html><body><h1>502 Bad Gateway</h1></body></html>"⟩

def expired : Response :=
  ⟨401, "Unauthorized",
    some "\x7b\"statusCode\":401,\"error\":\"Unauthorized\",\"message\":\"jwt expired\"\x7d"⟩

/-- A call that is answered by the proxy, and one that is refused for good. -/
def proxied : Except Thrown JsonValue × Run Unit (List (Option Response)) :=
  apiFetch scripted "/documents" get ⟨[some badGateway], signedIn, []⟩

def refused : Except Thrown JsonValue × Run Unit (List (Option Response)) :=
  apiFetch scripted "/documents" get ⟨[some expired, some expired], signedIn, []⟩

end Sample

/-- The page of a proxy is no JSON, and the call throws an error without a status. -/
theorem proxy_page_loses_status :
    responses Sample.proxied.2.log = [Sample.badGateway] ∧
      Sample.proxied.1 = .error (.error .call .notJson) ∧
      ¬ReachesCaller Sample.badGateway Sample.proxied.1 := by
  have thrown : Sample.proxied.1 = .error (.error .call .notJson) := by rfl
  refine ⟨by decide +kernel, thrown, ?_⟩
  rw [thrown]
  exact not_reachesCaller_error _ _

/-- A session whose tokens have both expired ends. -/
theorem failures_reach_refused : ReachesCaller Sample.expired Sample.refused.1 :=
  (failures_reach_iff Sample.scripted "/documents" Sample.get
    ⟨[some Sample.expired, some Sample.expired], Sample.signedIn, []⟩ Sample.expired _
    (by decide +kernel) (by decide) rfl).mpr
      ⟨fun _ _ _ => ⟨Sample.expired, rfl, fun ok => nomatch (ok : false = true)⟩,
        by decide +kernel⟩

end Fetch
end IdpSaas

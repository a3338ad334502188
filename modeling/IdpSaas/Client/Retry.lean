import IdpSaas.Client.Fetch

/-!
What `apiFetch` promises about its retry. A call that settles by its last response does so
because a refresh either fails with a status or brings usable tokens: the promise holds
exactly when no refresh is answered with success and without tokens.
-/

namespace IdpSaas
namespace Fetch
section Contract
variable {φ ω : Type}

/-- One call between two states: where and how often it sends, what it sends again and when,
what it stores, and by what it settles. -/
structure RetryContract (web : Web φ ω) (path : String) (s : Run φ ω)
    (outcome : Except Thrown JsonValue) (s' : Run φ ω) : Prop where
  addressed : ∀ e ∈ s.since s', e.request.url =
    web.apiBase ++ match e.purpose with
      | .call => path
      | .refresh => "/auth/refresh"
  twice : (calls (s.since s')).length ≤ 2
  refreshedOnce : (refreshes (s.since s')).length ≤ 1
  /-- A second request follows a 401 and a successful refresh, and carries the new token. -/
  retry : ∀ first second, calls (s.since s') = [first, second] →
    ∃ refresh refused res tokens, s.since s' = [first, refresh, second] ∧
      refresh.purpose = .refresh ∧ first.reply = some refused ∧ refused.status = 401 ∧
      refresh.reply = some res ∧ res.ok = true ∧ newTokens web res = .ok tokens ∧
      s'.storage.access = some tokens.1 ∧
      second.request = { first.request with
        headers := setHeader "Authorization" ("Bearer " ++ tokens.1) first.request.headers }
  failed : (∀ e ∈ refreshes (s.since s'), ∀ res, e.reply = some res → res.ok = true →
    ∀ tokens, newTokens web res ≠ .ok tokens) → s'.storage = s.storage
  settles : (∀ e ∈ s.since s', e.Delivered) →
    ∀ response, (responses (s.since s')).getLast? = some response → outcome = settle response

/-- The refresh that a refused call sends, if it is answered with success and can be read,
brings tokens. -/
def RefreshUsable (web : Web φ ω) (path : String) (init : RequestInit φ) (s : Run φ ω) : Prop :=
  ∀ response token res, Refused web path init s response token →
    (web.send (refreshRequest web token) (s.called web path init).world).1 = some res →
      res.ok = true → res.text ≠ none → BringsTokens web res

variable {web : Web φ ω} {path : String} {init : RequestInit φ} {s s' : Run φ ω}
  {outcome : Except Thrown JsonValue}

theorem refreshUsable_of_reply {response : Response} {token : String}
    (refused : Refused web path init s response token) {reply : Option Response}
    (replied : (web.send (refreshRequest web token) (s.called web path init).world).1 = reply) :
    RefreshUsable web path init s ↔
      ∀ res, reply = some res → res.ok = true → res.text ≠ none → BringsTokens web res := by
  constructor
  · exact fun usable res there => usable response token res refused (replied.trans there)
  · intro usable response' token' res refused' there
    obtain rfl : token = token' :=
      Option.some.inj (refused.refreshToken.symm.trans refused'.refreshToken)
    exact usable res (replied.symm.trans there)

theorem not_refused_of_done {response response' : Response} {token : String}
    (reply : (web.send (firstRequest web path init s.storage) s.world).1 = some response)
    (done : response.status = 401 → (truthy s.storage.access).isSome = true →
      truthy s.storage.refresh = none) : ¬Refused web path init s response' token := by
  intro refused
  obtain rfl : response = response' := Option.some.inj (reply.symm.trans refused.reply)
  have none := done refused.status refused.signedIn
  exact nomatch none.symm.trans refused.refreshToken

theorem refreshUsable_of_not_refused
    (open_ : ∀ response token, ¬Refused web path init s response token) :
    RefreshUsable web path init s :=
  fun response token _ refused => absurd refused (open_ response token)

theorem Course.addressed (course : Course web path init s outcome s') {e : Exchange φ}
    (sent : e ∈ s.since s') : e.request.url =
      web.apiBase ++ match e.purpose with
        | .call => path
        | .refresh => "/auth/refresh" := by
  obtain ⟨w, reply, refresh, call⟩ := course.sent sent
  cases purpose : e.purpose with
  | call =>
      rcases call purpose with request | ⟨access, request⟩
      · rw [request]
        rfl
      · rw [request]
        rfl
  | refresh =>
      obtain ⟨token, request⟩ := refresh purpose
      rw [request]
      rfl

theorem Course.twice (course : Course web path init s outcome s') :
    (calls (s.since s')).length ≤ 2 := by
  cases course <;> simp [calls]

theorem Course.refreshedOnce (course : Course web path init s outcome s') :
    (refreshes (s.since s')).length ≤ 1 := by
  cases course <;> simp [refreshes]

theorem Course.retry (course : Course web path init s outcome s') {first second : Exchange φ}
    (two : calls (s.since s') = [first, second]) :
    ∃ refresh refused res tokens, s.since s' = [first, refresh, second] ∧
      refresh.purpose = .refresh ∧ first.reply = some refused ∧ refused.status = 401 ∧
      refresh.reply = some res ∧ res.ok = true ∧ newTokens web res = .ok tokens ∧
      s'.storage.access = some tokens.1 ∧
      second.request = { first.request with
        headers := setHeader "Authorization" ("Bearer " ++ tokens.1) first.request.headers } := by
  cases course with
  | unsent | lost | settled | refreshLost | refreshRefused | refreshUnusable | retryUnsent =>
      simp [calls] at two
  | retried response token res tokens refused reply ok new allowed retry answer =>
      simp only [since_retried, since_refreshed, calls] at two ⊢
      obtain ⟨rfl, rfl⟩ : _ ∧ _ := by simpa using two
      exact ⟨_, response, res, tokens, rfl, rfl, refused.reply, refused.status, reply, ok, new, rfl,
        rfl⟩

theorem newAccess_unread {res : Response} (unread : res.text = none) :
    newAccess web res = none := by
  rw [newAccess, unread]
  rfl

theorem Course.failed (usable : RefreshUsable web path init s)
    (course : Course web path init s outcome s')
    (failed : ∀ e ∈ refreshes (s.since s'), ∀ res, e.reply = some res → res.ok = true →
      ∀ tokens, newTokens web res ≠ .ok tokens) : s'.storage = s.storage := by
  cases course with
  | unsent | lost | settled | refreshLost | refreshRefused => rfl
  | refreshUnusable response token res failure refused reply ok none =>
      have unread : res.text = .none := by
        by_contra read
        exact not_bringsTokens none (usable response token res refused reply ok read)
      rw [newAccess_unread unread]
      rfl
  | retryUnsent response token res tokens refused reply ok new barred =>
      refine absurd new (failed ⟨.refresh, refreshRequest web token, some res⟩ ?_ res rfl ok tokens)
      simp [refreshes, reply]
  | retried response token res tokens refused reply ok new allowed retry answer =>
      refine absurd new (failed ⟨.refresh, refreshRequest web token, some res⟩ ?_ res rfl ok tokens)
      simp [refreshes, reply]

/-- A call settles by its last response exactly when its refresh brought usable tokens, if
it brought any. -/
theorem Course.settles_iff (course : Course web path init s outcome s') :
    ((∀ e ∈ s.since s', e.Delivered) →
        ∀ response, (responses (s.since s')).getLast? = some response →
          outcome = settle response) ↔
      RefreshUsable web path init s := by
  cases course with
  | unsent barred =>
      refine iff_of_true (by simp [responses, calls]) (refreshUsable_of_not_refused ?_)
      exact fun response token refused => by simp [refused.allowed] at barred
  | lost reply =>
      refine iff_of_true (by simp [Exchange.Delivered, reply]) (refreshUsable_of_not_refused ?_)
      exact fun response token refused => by simp [refused.reply] at reply
  | settled response reply done =>
      refine iff_of_true (by simp [responses, calls, reply]) (refreshUsable_of_not_refused ?_)
      exact fun _ _ => not_refused_of_done reply done
  | refreshLost response token refused reply =>
      rw [refreshUsable_of_reply refused reply]
      simp [Exchange.Delivered, refused.reply, reply]
  | refreshRefused response token res refused reply failed =>
      rw [refreshUsable_of_reply refused reply]
      simp [responses, calls, refused.reply, reply, failed]
  | refreshUnusable response token res failure refused reply ok none =>
      have other := (settle_ne_refresh response failure).symm
      rw [refreshUsable_of_reply refused reply]
      simp [Exchange.Delivered, responses, calls, refused.reply, reply, ok, not_bringsTokens none,
        other]
  | retryUnsent response token res tokens refused reply ok new barred =>
      have other := (settle_ne_rejected response).symm
      rw [retryRequest_allowed refused] at barred
      rw [refreshUsable_of_reply refused reply]
      simp [Exchange.Delivered, responses, calls, refused.reply, reply, ok, newTokens_text new,
        bringsTokens_iff new, barred, other]
  | retried response token res tokens refused reply ok new allowed retry answer =>
      rw [retryRequest_allowed refused] at allowed
      rw [refreshUsable_of_reply refused reply]
      cases retry with
      | none =>
          simp [Exchange.Delivered, refused.reply, reply, answer, bringsTokens_iff new, allowed]
      | some last =>
          simp [Exchange.Delivered, responses, calls, refused.reply, reply, answer,
            bringsTokens_iff new, allowed]

theorem retryContract_iff (web : Web φ ω) (path : String) (init : RequestInit φ) (s : Run φ ω) :
    RetryContract web path s (apiFetch web path init s).1 (apiFetch web path init s).2 ↔
      RefreshUsable web path init s := by
  have course := apiFetch_course web path init s
  constructor
  · exact fun contract => course.settles_iff.mp contract.settles
  · exact fun usable =>
      ⟨fun _ => course.addressed, course.twice, course.refreshedOnce, fun _ _ => course.retry,
        course.failed usable, course.settles_iff.mpr usable⟩

/-- A refresh whose answer names no tokens counts as one that succeeded: the call is sent
again with the text of an undefined value, which is what is stored for both. -/
theorem apiFetch_undefined {response : Response} {token : String} {res : Response}
    (refused : Refused web path init s response token)
    (reply : (web.send (refreshRequest web token) (s.called web path init).world).1 = some res)
    (ok : res.ok = true) {text : String} {data : JsonValue} (read : res.text = some text)
    (parsed : JsonValue.parse text = some data) (there : data ≠ .null)
    (access : data.field "accessToken" = none) (refresh : data.field "refreshToken" = none) :
    apiFetch web path init s =
      finish (fetch web .call
        (retryRequest (firstRequest web path init s.storage) (some "undefined"))
        ((s.refreshed web path init token).store ("undefined", "undefined"))) := by
  have new : newTokens web res = .ok ("undefined", "undefined") := by
    rw [newTokens, read]
    simp only [parsed, storedText, access, refresh]
  rw [apiFetch_again web refused reply ok new]

/-- So with an empty object. -/
example : (JsonValue.parse "\x7b\x7d").bind (JsonValue.field "accessToken") = none := by rfl

end Contract

section Effects
variable {φ ω : Type}

/-- A count of the requests that have changed something: each one at most once, none that
is answered 401, and none that asks for new tokens. -/
structure CountsEffects (web : Web φ ω) (effects : ω → Nat) : Prop where
  once : ∀ request w, effects (web.send request w).2 ≤ effects w + 1
  refused : ∀ request w response, (web.send request w).1 = some response →
    response.status = 401 → effects (web.send request w).2 = effects w
  refresh : ∀ token w, effects (web.send (refreshRequest web token) w).2 = effects w

variable {web : Web φ ω} {effects : ω → Nat} {path : String} {init : RequestInit φ}
  {s s' : Run φ ω} {outcome : Except Thrown JsonValue}

/-- Up to the refresh a call that is refused has changed nothing. -/
theorem CountsEffects.refreshed (counts : CountsEffects web effects) {response : Response}
    {token : String} (refused : Refused web path init s response token) :
    effects (s.refreshed web path init token).world = effects s.world :=
  (counts.refresh _ _).trans (counts.refused _ _ response refused.reply refused.status)

theorem Course.effects_le (counts : CountsEffects web effects)
    (course : Course web path init s outcome s') :
    effects s'.world ≤ effects s.world + 1 := by
  cases course with
  | unsent => exact Nat.le_succ _
  | lost | settled => exact counts.once _ _
  | refreshLost response token refused | refreshRefused response token _ refused
  | refreshUnusable response token _ _ refused | retryUnsent response token _ _ refused =>
      exact (counts.refreshed refused).le.trans (Nat.le_succ _)
  | retried response token res tokens refused =>
      exact (counts.once _ _).trans (Nat.succ_le_succ (counts.refreshed refused).le)

end Effects
end Fetch
end IdpSaas

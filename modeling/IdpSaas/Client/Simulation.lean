import IdpSaas.Client.Api
import IdpSaas.Client.Fetch
import Mathlib.Logic.Relation

/-!
A call by itself is one of the runs that `apiFetch` takes from await to await: the same
storage is left, and the page gets the same.
-/

namespace IdpSaas
namespace Fetch
open Relation

/-- Local storage without the sessions that its values belong to. -/
def texts (storage : Client.Storage) : Storage where
  access := storage.access.map Client.Item.text
  refresh := storage.refresh.map Client.Item.text
  user := storage.user.map Client.Item.text

/-- The status that a value holds, if it is one. -/
def statusOf (v : JsonValue) : Option Nat :=
  match v.field "statusCode" with
  | some (.number (.finite q)) => if q.den = 1 ∧ 0 ≤ q.num then some q.num.toNat else none
  | _ => none

section Bodies
variable (session : JsonValue → Option Client.AuthResponse)

def bodyOf : JsonValue → Option Client.Body
  | .null => none
  | body => some ⟨statusOf body, session body⟩

def bodySettled (response : Response) : Client.Settled where
  fetch := none
  tokens := none
  body := (response.text.bind parseBody).map (bodyOf session)

def pcOf : Except Thrown JsonValue → Client.ApiPc
  | .ok body => .returned ((bodyOf session body).bind Client.Body.auth)
  | .error (.value v) => .threw (statusOf v)
  | .error (.error _ _) => .threw none

end Bodies

def Awaited (accessToken : Option Client.Item) (r r' : Client.Storage × Client.ApiPc) : Prop :=
  ∃ settled, Client.apiFetch accessToken settled r.1 r.2 = r'

section Simulation
variable {session : JsonValue → Option Client.AuthResponse} {accessToken : Option Client.Item}
  {storage : Client.Storage}

theorem truthy_text (item : Option Client.Item) :
    truthy (item.map Client.Item.text) = (Client.truthy item).map Client.Item.text := by
  rw [truthy, Client.truthy, Option.filter_map]
  rfl

theorem statusOf_orFallback (response : Response) {body : JsonValue} :
    statusOf (orFallback response body) =
      ((bodyOf session body).map Client.Body.statusCode).getD (some response.status) := by
  cases body with
  | null => simp [orFallback, bodyOf, statusOf, JsonValue.field]
  | bool | number | string | array | object => rfl

/-- The last await of a call that has its last response. -/
theorem body_settles (response : Response) :
    Client.apiFetch accessToken (bodySettled session response) storage (.text response.status) =
      (storage, pcOf session (settle response)) := by
  rw [Client.apiFetch, bodySettled, settle]
  cases response.text with
  | none => rfl
  | some text =>
      dsimp only [Option.bind_some]
      cases parseBody text with
      | none => rfl
      | some body =>
          have same : Client.ok response.status = response.ok := rfl
          dsimp only [Option.map_some]
          rw [same]
          cases response.ok with
          | true => rfl
          | false =>
              rw [← statusOf_orFallback]
              rfl

theorem awaits (settled : Client.Settled) {pc : Client.ApiPc}
    {r : Client.Storage × Client.ApiPc}
    (h : Client.apiFetch accessToken settled storage pc = r) :
    ReflTransGen (Awaited accessToken) (storage, pc) r := .single ⟨settled, h⟩

theorem awaits_body (response : Response) {pc : Client.ApiPc} (settled : Client.Settled)
    (h : Client.apiFetch accessToken settled storage pc = (storage, .text response.status)) :
    ReflTransGen (Awaited accessToken) (storage, pc)
      (storage, pcOf session (settle response)) :=
  (awaits settled h).trans (awaits (bodySettled session response) (body_settles response))

theorem awaits_failed {response : Response} (refused : response.status = 401) :
    ReflTransGen (Awaited accessToken) (storage, .refreshed false)
      (storage, pcOf session (settle response)) := by
  refine awaits_body response ⟨none, none, none⟩ ?_
  rw [refused]
  rfl

variable {φ ω : Type} {web : Web φ ω} {path : String} {init : RequestInit φ} {s s' : Run φ ω}
  {outcome : Except Thrown JsonValue}

theorem signedIn_iff (same : texts storage = s.storage) :
    (truthy s.storage.access).isSome = (Client.getAccessToken storage).isSome := by
  rw [← same]
  change (truthy (storage.access.map Client.Item.text)).isSome = _
  rw [truthy_text, Option.isSome_map]
  rfl

theorem refreshToken_eq (same : texts storage = s.storage) :
    truthy s.storage.refresh = (Client.getRefreshToken storage).map Client.Item.text := by
  rw [← same]
  exact truthy_text storage.refresh

/-- A call that is refused comes to its refresh. -/
theorem Refused.awaits (same : texts storage = s.storage) {response : Response} {token : String}
    (refused : Refused web path init s response token) :
    ∃ refreshToken, ReflTransGen (Awaited (Client.getAccessToken storage)) (storage, .fetching)
      (storage, .refreshing refreshToken) := by
  obtain ⟨refreshToken, there, -⟩ :=
    Option.map_eq_some_iff.mp ((refreshToken_eq same).symm.trans refused.refreshToken)
  have signedIn := (signedIn_iff same).symm.trans refused.signedIn
  refine ⟨refreshToken, Fetch.awaits ⟨some 401, none, none⟩ ?_⟩
  simp only [Client.apiFetch, signedIn, and_self, if_true, Client.tryRefresh, there]

/-- A refresh that brings tokens comes to the second request. -/
theorem awaits_tokens {res : Response} (ok : res.ok = true) (tokens : String × String)
    (refreshToken : Client.Item) :
    ∃ storage' newAccess,
      texts storage' = { texts storage with
        access := some tokens.1
        refresh := some tokens.2 } ∧
      ReflTransGen (Awaited accessToken) (storage, .refreshing refreshToken)
        (storage', .retrying newAccess) := by
  let stored : Client.Storage := { storage with
    access := some ⟨refreshToken.session, tokens.1⟩
    refresh := some ⟨refreshToken.session, tokens.2⟩ }
  have body : Client.apiFetch accessToken ⟨some res.status, none, none⟩ storage
      (.refreshing refreshToken) = (storage, .refreshBody refreshToken) := if_pos ok
  have done : Client.apiFetch accessToken ⟨none, some (tokens.1, some tokens.2), none⟩ storage
      (.refreshBody refreshToken) = (stored, .refreshed true) := rfl
  exact ⟨stored, Client.getAccessToken stored, rfl,
    ((awaits _ body).trans (awaits _ done)).trans (awaits ⟨none, none, none⟩ rfl)⟩

/-- Each course of a call is one that `apiFetch` takes from await to await. -/
theorem Course.awaits (course : Course web path init s outcome s')
    (same : texts storage = s.storage) :
    ∃ storage', texts storage' = s'.storage ∧
      ReflTransGen (Awaited (Client.getAccessToken storage)) (storage, .fetching)
        (storage', pcOf session outcome) := by
  cases course with
  | unsent | lost => exact ⟨storage, same, Fetch.awaits ⟨none, none, none⟩ rfl⟩
  | settled response reply done =>
      refine ⟨storage, same, ?_⟩
      by_cases refused : response.status = 401 ∧ (Client.getAccessToken storage).isSome
      · have absent := done refused.1 ((signedIn_iff same).trans refused.2)
        rw [refreshToken_eq same, Option.map_eq_none_iff] at absent
        have tried : Client.apiFetch (Client.getAccessToken storage)
            ⟨some response.status, none, none⟩ storage .fetching =
              (storage, .refreshed false) := by
          simp only [Client.apiFetch, refused, and_self, if_true, Client.tryRefresh, absent]
        exact (Fetch.awaits _ tried).trans (awaits_failed refused.1)
      · refine awaits_body response ⟨some response.status, none, none⟩ ?_
        exact if_neg refused
  | refreshLost response token refused reply =>
      obtain ⟨refreshToken, reached⟩ := refused.awaits same
      exact ⟨storage, same, reached.trans (Fetch.awaits ⟨none, none, none⟩ rfl)⟩
  | refreshRefused response token res refused reply failed =>
      obtain ⟨refreshToken, reached⟩ := refused.awaits same
      have tried : Client.apiFetch (Client.getAccessToken storage) ⟨some res.status, none, none⟩
          storage (.refreshing refreshToken) = (storage, .refreshed false) :=
        if_neg (Bool.eq_false_iff.mp failed)
      exact ⟨storage, same,
        (reached.trans (Fetch.awaits _ tried)).trans (awaits_failed refused.status)⟩
  | refreshUnusable response token res failure refused reply ok =>
      obtain ⟨refreshToken, reached⟩ := refused.awaits same
      have body : Client.apiFetch (Client.getAccessToken storage) ⟨some res.status, none, none⟩
          storage (.refreshing refreshToken) = (storage, .refreshBody refreshToken) := if_pos ok
      cases newAccess web res with
      | none =>
          exact ⟨storage, same,
            (reached.trans (Fetch.awaits _ body)).trans (Fetch.awaits ⟨none, none, none⟩ rfl)⟩
      | some access =>
          let stored : Client.Storage :=
            { storage with access := some ⟨refreshToken.session, access⟩ }
          have half : Client.apiFetch (Client.getAccessToken storage)
              ⟨none, some (access, none), none⟩ storage (.refreshBody refreshToken) =
                (stored, .threw none) := rfl
          refine ⟨stored, ?_, (reached.trans (Fetch.awaits _ body)).trans (Fetch.awaits _ half)⟩
          change { texts storage with access := some access } = _
          rw [same]
          rfl
  | retryUnsent response token res tokens refused reply ok =>
      obtain ⟨refreshToken, reached⟩ := refused.awaits same
      obtain ⟨storage', newAccess, stored, again⟩ := awaits_tokens ok tokens refreshToken
      refine ⟨storage', ?_, (reached.trans again).trans (Fetch.awaits ⟨none, none, none⟩ rfl)⟩
      rw [stored, same]
      rfl
  | retried response token res tokens refused reply ok new allowed retry =>
      obtain ⟨refreshToken, reached⟩ := refused.awaits same
      obtain ⟨storage', newAccess, stored, again⟩ := awaits_tokens ok tokens refreshToken
      refine ⟨storage', ?_, (reached.trans again).trans ?_⟩
      · rw [stored, same]
        rfl
      · cases retry with
        | none => exact Fetch.awaits ⟨none, none, none⟩ rfl
        | some last => exact awaits_body last ⟨some last.status, none, none⟩ rfl

/-- A call by itself is a run of the awaits, whatever the pages read of its body. -/
theorem apiFetch_awaits (web : Web φ ω) (path : String) (init : RequestInit φ) (s : Run φ ω)
    (session : JsonValue → Option Client.AuthResponse) (storage : Client.Storage)
    (same : texts storage = s.storage) :
    ∃ storage', texts storage' = (apiFetch web path init s).2.storage ∧
      ReflTransGen (Awaited (Client.getAccessToken storage)) (storage, .fetching)
        (storage', pcOf session (apiFetch web path init s).1) :=
  (apiFetch_course web path init s).awaits same

end Simulation
end Fetch
end IdpSaas

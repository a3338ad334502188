import IdpSaas.Client.Fetch
import IdpSaas.Client.Register

/-!
The session that the pages keep. `setSession` writes the fields of a response to the
storage as texts, and `getCurrentUser` reads the user back from its text.
-/

namespace IdpSaas
namespace Fetch

/-- It throws where there are no tokens, or where a token has no text. -/
def setSession (format : JsonValue.Format) (auth : JsonValue) : Option Storage :=
  let item (v : JsonValue) (name : String) : Option String :=
    match v.field name with
    | none => some "undefined"
    | some v => v.toText format
  match auth.field "tokens" with
  | none | some .null => none
  | some tokens =>
      (item tokens "accessToken").bind fun access =>
        (item tokens "refreshToken").map fun refresh =>
          { access := some access
            refresh := some refresh
            user := some (((auth.field "user").map (JsonValue.stringify format)).getD "undefined") }

/-- The user that is signed in, null if nobody is; none where the text is no JSON. -/
def getCurrentUser (storage : Storage) : Option JsonValue :=
  match truthy storage.user with
  | none => some .null
  | some raw => JsonValue.parse raw

/-- The form of the login page. -/
structure LoginForm where
  tenantSlug : String
  email : String
  password : String
  deriving DecidableEq, Repr

theorem stringify_ne_empty {format : JsonValue.Format} {v : JsonValue} (plain : v.Plain) :
    v.stringify format ≠ "" := by
  intro empty
  have read : JsonValue.parse (v.stringify format) = some v := JsonValue.parse_stringify plain
  rw [empty, show JsonValue.parse "" = none by decide] at read
  cases read

/-- The user of the response is the one that is signed in. -/
theorem getCurrentUser_setSession {format : JsonValue.Format} {auth user : JsonValue}
    {storage : Storage} (set : setSession format auth = some storage)
    (field : auth.field "user" = some user) (plain : user.Plain) :
    getCurrentUser storage = some user := by
  rw [setSession] at set
  split at set
  · cases set
  · cases set
  · obtain ⟨access, -, set⟩ := Option.bind_eq_some_iff.mp set
    obtain ⟨refresh, -, rfl⟩ := Option.map_eq_some_iff.mp set
    have text : truthy (some (user.stringify format)) = some (user.stringify format) :=
      Option.filter_some_pos (decide_eq_true (stringify_ne_empty plain))
    rw [getCurrentUser, field, Option.map_some, Option.getD_some, text]
    exact JsonValue.parse_stringify plain

/-- What has been written is what a call settles with. -/
theorem settle_stringify {format : JsonValue.Format} {response : Response} {v : JsonValue}
    (ok : response.ok = true) (plain : v.Plain)
    (written : response.text = some (v.stringify format)) : settle response = .ok v := by
  rw [settle, written]
  simp only [parseBody, if_neg (stringify_ne_empty plain), JsonValue.parse_stringify plain, ok,
    Bool.not_true, Bool.false_eq_true, if_false]

end Fetch
end IdpSaas

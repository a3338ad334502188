import IdpSaas.Lib.Machine
import IdpSaas.Lib.Table

/-!
The browser side: local storage, `apiFetch` with the refresh inside it, and what the
pages do with its results. A call is suspended at its awaits; an event lets one of
them settle the way the network chooses. All tabs of the browser share the storage.
A stored value carries the login session it was issued for, and the server answers a
refresh with tokens for the session of the token it was sent.
-/

namespace IdpSaas
open Owned

namespace Client

/-- A value in local storage. -/
structure Item where
  session : Nat
  text : String
  deriving DecidableEq, Repr

structure Storage where
  access : Option Item
  refresh : Option Item
  user : Option Item
  deriving DecidableEq, Repr

structure AuthResponse where
  accessToken : String
  refreshToken : String
  user : String
  deriving DecidableEq, Repr

/-- An empty string counts as absent. -/
def truthy (item : Option Item) : Option Item := item.filter fun i => i.text ≠ ""

def getAccessToken (storage : Storage) : Option Item := truthy storage.access

def getRefreshToken (storage : Storage) : Option Item := truthy storage.refresh

/-- The storage with a session's tokens and user. -/
def setSession (session : Nat) (auth : AuthResponse) : Storage where
  access := some ⟨session, auth.accessToken⟩
  refresh := some ⟨session, auth.refreshToken⟩
  user := some ⟨session, auth.user⟩

def clearSession : Storage := ⟨none, none, none⟩

/-- The pages' uses of `apiFetch`. -/
inductive Page
  | dashboard | document | upload | login | register
  deriving DecidableEq, Repr

/-- Pages whose handler signs out on a 401. -/
def Page.signsOut : Page → Bool
  | .dashboard | .document => true
  | .upload | .login | .register => false

/-- Pages that set the session they receive. -/
def Page.signsIn : Page → Bool
  | .login | .register => true
  | .dashboard | .document | .upload => false

/-- Where a call is suspended. A retry carries the access token it sends. `returned` and
`threw` are back in the page: with the session when the body is one, or with the
`statusCode` of what was thrown. -/
inductive ApiPc
  | fetching
  | refreshing (refreshToken : Item)
  | refreshBody (refreshToken : Item)
  | refreshed (ok : Bool)
  | retrying (newAccess : Option Item)
  | text (status : Nat)
  | returned (auth : Option AuthResponse)
  | threw (statusCode : Option Nat)
  | ended
  deriving DecidableEq, Repr

/-- A body that is not null: its `statusCode` field, and the session if it is one. -/
structure Body where
  statusCode : Option Nat
  auth : Option AuthResponse

/-- How the awaited call settles, for each kind of call: the status of a response, the
tokens of a refresh, the parsed body; `none` when it is rejected. A refresh token that has
no text is met when the access token has been stored. -/
structure Settled where
  fetch : Option Nat
  tokens : Option (String × Option String)
  body : Option (Option Body)

def ok (status : Nat) : Bool := decide (200 ≤ status ∧ status ≤ 299)

/-- `tryRefresh` up to its first await. -/
def tryRefresh (storage : Storage) : ApiPc :=
  match getRefreshToken storage with
  | none => .refreshed false
  | some refreshToken => .refreshing refreshToken

/-- `apiFetch` from one await to the next. -/
def apiFetch (accessToken : Option Item) (settled : Settled) (storage : Storage) (pc : ApiPc) :
    Storage × ApiPc :=
  match pc with
  | .fetching =>
      match settled.fetch with
      | none => (storage, .threw none)
      | some status =>
          if status = 401 ∧ accessToken.isSome then (storage, tryRefresh storage)
          else (storage, .text status)
  | .refreshing refreshToken =>
      match settled.fetch with
      | none => (storage, .threw none)
      | some status =>
          if ok status then (storage, .refreshBody refreshToken) else (storage, .refreshed false)
  | .refreshBody refreshToken =>
      match settled.tokens with
      | none => (storage, .threw none)
      | some (access, refresh) =>
          ({ storage with
              access := some ⟨refreshToken.session, access⟩
              refresh := (refresh.map (Item.mk refreshToken.session)).or storage.refresh },
            if refresh.isSome then .refreshed true else .threw none)
  | .refreshed true => (storage, .retrying (getAccessToken storage))
  | .refreshed false => (storage, .text 401)
  | .retrying _ =>
      match settled.fetch with
      | none => (storage, .threw none)
      | some status => (storage, .text status)
  | .text status =>
      match settled.body with
      | none => (storage, .threw none)
      | some body =>
          if ok status then (storage, .returned (body.bind Body.auth))
          else (storage, .threw ((body.map Body.statusCode).getD (some status)))
  | .returned auth => (storage, .returned auth)
  | .threw statusCode => (storage, .threw statusCode)
  | .ended => (storage, .ended)

/-- A call of `apiFetch` by a page. `under` is the session stored when it was started. -/
structure Call where
  tab : Nat
  key : Nat
  page : Page
  accessToken : Option Item
  pc : ApiPc
  under : Option Nat
  deriving DecidableEq, Repr

instance : Addressed Call Nat := ⟨Call.tab, Call.key⟩

/-- `current` is the session that was set last, none since it was cleared, and `logins`
counts the sessions set so far. -/
structure Browser where
  storage : Storage
  calls : Table Call
  current : Option Nat
  logins : Nat

/-- A browser in which nobody has signed in yet. -/
def Browser.init : Browser := ⟨clearSession, .empty, none, 0⟩

inductive Event
  | start (tab key : Nat) (page : Page)
  | settle (tab key : Nat) (settled : Settled)
  | signOut

/-- Where the page goes. -/
inductive Route
  | login | dashboard
  deriving DecidableEq, Repr

namespace Browser

/-- The call of a page: it reads the access token and sends its request. -/
def call (s : Browser) (tab key : Nat) (page : Page) : Call :=
  ⟨tab, key, page, getAccessToken s.storage, .fetching, s.current⟩

def start (s : Browser) (tab key : Nat) (page : Page) : Browser × Option Route :=
  match s.calls.find? tab key with
  | some _ => (s, none)
  | none => ({ s with calls := s.calls.insert (s.call tab key page) }, none)

def finish (s : Browser) (c : Call) : Browser :=
  { s with calls := s.calls.put { c with pc := .ended } }

def signIn (s : Browser) (auth : AuthResponse) : Browser :=
  { s with
    storage := setSession s.logins auth
    current := some s.logins
    logins := s.logins + 1 }

def signOut (s : Browser) : Browser := { s with storage := clearSession, current := none }

/-- The page once its request has succeeded. After an upload it lists the documents. -/
def returned (s : Browser) (c : Call) (auth : Option AuthResponse) : Browser × Option Route :=
  match c.page, auth with
  | .dashboard, _ | .document, _ => (s.finish c, none)
  | .upload, _ => ({ s with calls := s.calls.put (s.call c.tab c.key .dashboard) }, none)
  | .login, some auth | .register, some auth => ((s.finish c).signIn auth, some .dashboard)
  | .login, none | .register, none => (s.finish c, none)

/-- The page's `catch`. -/
def threw (s : Browser) (c : Call) (statusCode : Option Nat) : Browser × Option Route :=
  if c.page.signsOut ∧ statusCode = some 401 then ((s.finish c).signOut, some .login)
  else (s.finish c, none)

def settle (s : Browser) (tab key : Nat) (settled : Settled) : Browser × Option Route :=
  match s.calls.find? tab key with
  | none => (s, none)
  | some c =>
      match c.pc with
      | .returned auth => s.returned c auth
      | .threw statusCode => s.threw c statusCode
      | pc =>
          let r := apiFetch c.accessToken settled s.storage pc
          ({ s with storage := r.1, calls := s.calls.put { c with pc := r.2 } }, none)

end Browser

def step (s : Browser) : Event → Browser × Option Route
  | .start tab key page => s.start tab key page
  | .settle tab key settled => s.settle tab key settled
  | .signOut => (s.signOut, some .login)

end Client
end IdpSaas

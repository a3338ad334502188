import IdpSaas.Auth.Revocation
import IdpSaas.System.Admission
import IdpSaas.System.ClientCalls

/-!
The backend as it is seen from outside: requests are answered, workers go on with their
deliveries, and the status of accounts changes. A request does what some steps of the
platform do, so what holds in every state of the platform holds in every state here.
-/

namespace IdpSaas
open Owned DocumentsService LocalStorageService Machine

structure Backend where
  stores : Stores
  deliveries : Table Delivery

namespace Backend

def of (s : State) : Backend := ⟨s.stores, s.deliveries⟩

/-- The document system with no request under way. -/
def system (b : Backend) : State where
  db := b.stores.db
  files := b.stores.files
  queue := b.stores.queue
  uploads := .empty
  lists := .empty
  deliveries := b.deliveries

def init (tenants : List Tenant) (users : List User) (apiKeys : List ApiKey) : Backend :=
  of (.init tenants users apiKeys)

/-- What the queue and its workers do. -/
inductive WorkerAction
  | deliver (key : Nat) (documentId : String) (attemptsMade : Nat)
  | work (key : Nat) (fate : Fate)
  | crash (key : Nat)

def WorkerAction.action : WorkerAction → Action
  | .deliver key documentId attemptsMade => .deliver key documentId attemptsMade
  | .work key fate => .work key fate
  | .crash key => .crash key

inductive Event
  | request (request : Fetch.Request MulterFile) (m : Moment)
  | worker (t : Uuid) (a : WorkerAction)
  | setUserStatus (id : String) (status : UserStatus)
  | setTenantStatus (id : String) (status : TenantStatus)

def withDb (b : Backend) (db : Database) : Backend :=
  { b with stores := { b.stores with db := db } }

def step (api : Api) (b : Backend) : Event → Backend × Option Fetch.Response
  | .request request m =>
      let r := api.serve m request b.stores
      ({ b with stores := r.2 }, some r.1)
  | .worker t a => (of (IdpSaas.step api.storage b.system ⟨t, a.action⟩).1, none)
  | .setUserStatus id status => (b.withDb (b.stores.db.setUserStatus id status), none)
  | .setTenantStatus id status => (b.withDb (b.stores.db.setTenantStatus id status), none)

/-- The id generated for the file of a request, should it be an upload. -/
def Event.fileUuid : Event → Option Uuid
  | .request _ m => some m.uploading.fileUuid
  | _ => none

end Backend

theorem User.fixed_id (u : User) : u.fixed.id = u.id := rfl

theorem User.fixed_tenantId (u : User) : u.fixed.tenantId = u.tenantId := rfl

/-- An edit of one user that leaves what is fixed. -/
def UserEdit.on (userId : String) (f : User → User) (fixed : ∀ u, (f u).fixed = u.fixed) :
    UserEdit where
  apply u := if u.id == userId then f u else u
  id u := by
    split
    · rw [← User.fixed_id, fixed, User.fixed_id]
    · rfl
  tenantId u := by
    split
    · rw [← User.fixed_tenantId, fixed, User.fixed_tenantId]
    · rfl

theorem UserEdit.on_fixed (userId : String) {f : User → User} (fixed : ∀ u, (f u).fixed = u.fixed)
    (u : User) : ((UserEdit.on userId f fixed).apply u).fixed = u.fixed := by
  rw [UserEdit.on]
  dsimp only
  split
  · exact fixed u
  · rfl

/-- A login of the user. -/
def Database.noteLogin (db : Database) (userId : String) (now : Time) : Database :=
  { db with
    users := modify (fun u => u.id == userId)
      (fun u => { u with lastLoginAt := some now, updatedAt := now }) db.users }

/-- What an upload comes to: it is refused, it fails once its file is written or once its
row is created, or its job is queued. -/
inductive UploadOutcome (env : Env) (t : Uuid) (userId : String) (g : UploadGenerated)
    (s : Stores) : Except HttpError Document × Stores → Prop
  | refused (e : HttpError) : UploadOutcome env t userId g s (.error e, s)
  | written (f : MulterFile) (b : Bytes) (e : HttpError) :
      UploadOutcome env t userId g s (.error e,
        { s with files := s.files.write (savedPlace env t.val g.fileUuid f.originalname) b })
  | created (f : MulterFile) (new : ∀ d ∈ s.db.documents, d.id ≠ g.documentUuid.val)
      (e : HttpError) :
      UploadOutcome env t userId g s (.error e,
        { s with
          db := { s.db with documents := s.db.documents ++ [newDocument env t userId f g] }
          files := s.files.write (savedPlace env t.val g.fileUuid f.originalname) f.buffer })
  | queued (f : MulterFile) (new : ∀ d ∈ s.db.documents, d.id ≠ g.documentUuid.val) :
      UploadOutcome env t userId g s (.ok (newDocument env t userId f g),
        ⟨{ s.db with documents := s.db.documents ++ [newDocument env t userId f g] },
          s.files.write (savedPlace env t.val g.fileUuid f.originalname) f.buffer,
          s.queue ++ [processDocumentJob (newDocument env t userId f g) t.val]⟩)

theorem upload_outcome (env : Env) (t : Uuid) (userId : String) (file : Option MulterFile)
    (g : UploadGenerated) (faults : UploadFaults) (s : Stores) :
    UploadOutcome env t userId g s (upload env t userId file g faults s) := by
  rw [upload]
  cases checkFile file with
  | error e => exact .refused e
  | ok f =>
      cases save : faults.save with
      | some fault =>
          obtain ⟨err, leaves⟩ := fault
          cases leaves with
          | none => exact .refused _
          | some b =>
              simp only [saveOr, locate_fullPath]
              exact .written f b _
      | none =>
          simp only [saveOr, LocalStorageService.save, locate_fullPath]
          by_cases creates : Creates g faults s.db
          · rw [createOr_ok creates]
            cases faults.add with
            | some err => exact .created f creates.2 _
            | none => exact .queued f creates.2
          · obtain ⟨err, refused⟩ := createOr_error env t creates
            rw [refused]
            exact .written f f.buffer _

/-- What serving a request does to the stores. -/
inductive Served (api : Api) (m : Moment) (s : Stores) : Stores → Prop
  | same : Served api m s s
  | registered (text : String) (dto : JsonValue)
      (taken : ValidationPipe.receive api.lib api.format RegisterDto.properties text =
        some (.ok dto)) :
      Served api m s
        { s with db :=
            (AuthService.register api.auth m.now m.registering (RegisterDto.of dto) s.db).2 }
  | noted (userId : String) : Served api m s { s with db := s.db.noteLogin userId m.now }
  | uploaded (payload : JwtPayload) (user : AuthContext) (t : Uuid) (file : Option MulterFile)
      (valid : JwtStrategy.validate api.auth s.db payload = .ok user)
      (own : t.val = user.tenantId) (piped : ∀ f, file = some f → api.parseFile f = none) :
      Served api m s (upload api.storage t user.userId file m.uploading m.faults s).2

section Serving
variable {api : Api} {m : Moment} {request : Fetch.Request MulterFile} {s : Stores}

/-- A request is refused on its way to a handler with a body, or the handler gets what the
pipe has made of it. -/
theorem withBody_cases (api : Api) (m : Moment) (e : Endpoint) (properties : List Property)
    (handler : JsonValue → Stores → Except Exception JsonValue × Stores)
    (request : Fetch.Request MulterFile) (s : Stores) :
    (∃ exception, api.withBody m e properties handler request s = (.error exception, s)) ∨
      ∃ text dto, request.body = some (.text text) ∧
        ValidationPipe.receive api.lib api.format properties text = some (.ok dto) ∧
        api.withBody m e properties handler request s = handler dto s := by
  rw [Api.withBody]
  cases received : api.received properties request with
  | none => exact Or.inl ⟨_, rfl⟩
  | some body =>
      cases api.enter m e request s.db with
      | error e => exact Or.inl ⟨_, rfl⟩
      | ok user =>
          cases body with
          | error messages => exact Or.inl ⟨_, rfl⟩
          | ok dto =>
              rw [Api.received] at received
              split at received
              · next text sent => exact Or.inr ⟨text, dto, sent, received, rfl⟩
              · cases received

theorem tenantUuid_some {tenantId : String} {t : Uuid} (h : Api.tenantUuid tenantId = some t) :
    t.val = tenantId := by
  rw [Api.tenantUuid] at h
  split at h
  · rw [← Option.some.inj h]
  · cases h

/-- Who gets past the guards of an upload has been validated. -/
theorem enter_upload {user : Option AuthContext}
    (h : api.enter m .upload request s.db = .ok user) :
    ∃ payload context, user = some context ∧
      JwtStrategy.validate api.auth s.db payload = .ok context := by
  simp only [Api.enter] at h
  split at h
  · cases h
  · next passed =>
      obtain ⟨context, rfl, authenticated, -⟩ :=
        Access.guards_ok (s := ⟨s.db, m.now, []⟩) rfl passed
      obtain ⟨token, claims, -, -, valid⟩ := Access.authenticate_success authenticated
      split at h
      · cases h
      · cases h
        exact ⟨_, context, rfl, valid⟩

theorem handle_served (e : Endpoint) : Served api m s (api.handle m e request s).2 := by
  cases e with
  | register =>
      rw [Api.handle]
      cases withBody_cases api m .register RegisterDto.properties (api.register m) request s with
      | inl refused =>
          obtain ⟨exception, refused⟩ := refused
          exact refused ▸ .same
      | inr passed =>
          obtain ⟨text, dto, -, taken, served⟩ := passed
          exact served ▸ .registered text dto taken
  | login =>
      rw [Api.handle]
      cases withBody_cases api m .login LoginDto.properties (api.login m) request s with
      | inl refused =>
          obtain ⟨exception, refused⟩ := refused
          exact refused ▸ .same
      | inr passed =>
          obtain ⟨text, dto, -, -, served⟩ := passed
          rw [served, Api.login, AuthService.login]
          cases AuthService.authenticate api.auth (LoginDto.of dto) s.db with
          | error e => exact .same
          | ok found => exact .noted found.1.id
  | refresh => exact handle_refresh ▸ .same
  | upload =>
      rw [Api.handle]
      cases entered : api.enter m .upload request s.db with
      | error e => exact .same
      | ok user =>
          obtain ⟨payload, context, rfl, valid⟩ := enter_upload entered
          simp only [Api.upload, Option.bind_some]
          cases uuid : Api.tenantUuid context.tenantId with
          | none => exact .same
          | some t =>
              simp only [Option.map_some]
              split
              · exact .same
              · next piped =>
                  refine .uploaded payload context t _ valid (tenantUuid_some uuid) ?_
                  intro f there
                  rwa [there] at piped

theorem serve_served : Served api m s (api.serve m request s).2 := by
  rw [Api.serve]
  cases api.endpoint request with
  | none => exact .same
  | some e => exact handle_served e

end Serving

section Steps
variable {env : Env}

/-- What workers do depends on nothing else, and leaves the rest alone. -/
theorem Backend.of_worker (s : State) (t : Uuid) (a : WorkerAction) :
    of (IdpSaas.step env s ⟨t, a.action⟩).1 =
      of (IdpSaas.step env (of s).system ⟨t, a.action⟩).1 := by
  cases a with
  | deliver key documentId attemptsMade =>
      simp only [IdpSaas.step, WorkerAction.action, State.deliver, system, of, State.stores]
      split <;> rfl
  | work key fate =>
      simp only [IdpSaas.step, WorkerAction.action, State.work, system, of, State.stores]
      split <;> rfl
  | crash key =>
      simp only [IdpSaas.step, WorkerAction.action, State.crash, system, of, State.stores]
      split
      · split <;> rfl
      · rfl

def Action.uploads : Action → Bool
  | .upload _ _ _ | .storageSave _ _ _ | .documentCreate _ _ _ _ | .queueAdd _ _ => true
  | _ => false

theorem Transition.deliveries {s s' : State} {e : Event} (tr : Transition env s e s')
    (h : e.action.uploads = true) : s'.deliveries = s.deliveries := by
  cases tr with
  | idle | listed | received | refused | saved | created | enqueued => rfl
  | delivered | worked | crashed => cases h

theorem upload_deliveries (env : Env) (s : State) {es : List Event} (h : ∀ e ∈ es, e.action.uploads = true) :
    (run (IdpSaas.step env) s es).deliveries = s.deliveries := by
  induction es generalizing s with
  | nil => rfl
  | cons e es ih =>
      obtain ⟨first, rest⟩ := List.forall_mem_cons.mp h
      exact (ih _ rest).trans ((step_transition env s e).deliveries first)

namespace Platform
variable {τ : Type} {auth : AuthEnv τ}

theorem run_register (p : State) (es : List Registration.Event) :
    run (step env auth) p (es.map .register) =
      { p.withDb (run (Registration.step auth) ⟨p.system.db, p.registrations⟩ es).db with
        registrations := (run (Registration.step auth) ⟨p.system.db, p.registrations⟩ es).calls } := by
  induction es generalizing p with
  | nil => rfl
  | cons e es ih => exact ih _

/-- Events that are admitted are those of the document system. -/
theorem run_system {p : State} {es : List IdpSaas.Event} (h : ∀ e ∈ es, admits p.contexts e = true) :
    run (step env auth) p (es.map .system) =
      { p with system := run (IdpSaas.step env) p.system es } := by
  induction es generalizing p with
  | nil => rfl
  | cons e es ih =>
      obtain ⟨first, rest⟩ := List.forall_mem_cons.mp h
      have stepped : (step env auth p (.system e)).1 =
          { p with system := (IdpSaas.step env p.system e).1 } := by rw [step, if_pos first]
      rw [List.map_cons, run, stepped]
      exact ih rest

end Platform

/-- A failed write that leaves something does what the upload does by itself. -/
theorem upload_spilled (s : State) (t : Uuid) (key : Nat) (userId : String)
    (file : Option MulterFile) (g : UploadGenerated) (faults : UploadFaults)
    (free : s.uploads.find? t.val key = none) {err : JsError} {left : Bytes}
    (fails : faults.save = some ⟨err, some left⟩) :
    Backend.of ((IdpSaas.step env s ⟨t, .upload key userId file⟩).1.writeFileFails env t key
        g.fileUuid left err).1 =
      { stores := (upload env t userId file g faults s.stores).2, deliveries := s.deliveries } := by
  simp only [IdpSaas.step, State.upload, upload, free]
  cases checked : checkFile file with
  | error e =>
      simp only [State.writeFileFails, free]
      rfl
  | ok f =>
      have next : (s.uploads.insert ⟨t.val, key, userId, f, .save, none⟩).find? t.val key =
          some ⟨t.val, key, userId, f, .save, none⟩ := Table.find?_insert_self free
      simp only [State.writeFileFails, next, saveOr, fails]
      rfl

/-- What is done step by step with nothing in between is what the upload does by itself. -/
theorem upload_alone (s : State) (t : Uuid) (key : Nat) (userId : String)
    (file : Option MulterFile) (g : UploadGenerated) (faults : UploadFaults)
    (free : s.uploads.find? t.val key = none)
    (clear : ∀ fault ∈ faults.save, fault.leaves = none) :
    Backend.of (run (IdpSaas.step env) s [⟨t, .upload key userId file⟩, saveEvent t key g faults,
        createEvent t key g faults, addEvent t key faults]) =
      { stores := (upload env t userId file g faults s.stores).2, deliveries := s.deliveries } := by
  let es : List Event := [⟨t, .upload key userId file⟩, saveEvent t key g faults,
    createEvent t key g faults, addEvent t key faults]
  have stores : (run (IdpSaas.step env) s es).stores =
      (upload env t userId file g faults s.stores).2 :=
    congrArg Prod.snd (alone_upload userId file free clear)
  have deliveries : (run (IdpSaas.step env) s es).deliveries = s.deliveries :=
    upload_deliveries env s (by simp [es, Action.uploads, saveEvent, createEvent, addEvent])
  rw [Backend.of, deliveries, stores]

end Steps

namespace Backend

/-- What a list of platform events has to do with one of requests: no other files are made,
and all that comes in has passed the pipes. -/
structure Matches (api : Api) (es : List Event) (ps : List Platform.Event) : Prop where
  files : (ps.filterMap Platform.Event.fileUuid).Sublist (es.filterMap Event.fileUuid)
  piped : ∀ p ∈ ps, Platform.Piped api p

section Refinement
variable {api : Api}

theorem Matches.append (es : List Event) (e : Event) (ps qs : List Platform.Event)
    (h : Matches api es ps) (k : Matches api [e] qs) : Matches api (es ++ [e]) (ps ++ qs) := by
  refine ⟨?_, List.forall_mem_append.mpr ⟨h.piped, k.piped⟩⟩
  rw [List.filterMap_append, List.filterMap_append]
  exact h.files.append k.files

/-- The platform is in a state that looks like this from outside. -/
def Shows (b : Backend) (p : Platform.State) : Prop := of p.system = b

/-- An upload is that of the context that its guards have just given out. -/
theorem upload_simulated {m : Moment} {request : Fetch.Request MulterFile} {p : Platform.State}
    {payload : JwtPayload} {user : AuthContext} {t : Uuid} {file : Option MulterFile} {key : Nat}
    (valid : JwtStrategy.validate api.auth p.system.db payload = .ok user)
    (own : t.val = user.tenantId) (piped : ∀ f, file = some f → api.parseFile f = none)
    (free : p.system.uploads.find? t.val key = none) :
    ∃ ps, Matches api [.request request m] ps ∧
      Shows ⟨(upload api.storage t user.userId file m.uploading m.faults p.system.stores).2,
          p.system.deliveries⟩
        (run (Platform.step api.storage api.auth) p ps) := by
  let entered : Platform.State := { p with contexts := p.contexts ++ [user] }
  let started : IdpSaas.Event := ⟨t, .upload key user.userId file⟩
  have enter : (Platform.step api.storage api.auth p (.validate payload)).1 = entered := by
    simp only [Platform.step, valid]
    rfl
  have admitted : Platform.admits entered.contexts started = true := by
    simp [Platform.admits, started, entered, own]
  by_cases clear : ∀ fault ∈ m.faults.save, fault.leaves = none
  · let es := [started, saveEvent t key m.uploading m.faults,
      createEvent t key m.uploading m.faults, addEvent t key m.faults]
    have all : ∀ e ∈ es, Platform.admits entered.contexts e = true := by
      simp only [es, List.forall_mem_cons, admitted, true_and]
      simp [Platform.admits, saveEvent, createEvent, addEvent]
    refine ⟨.validate payload :: es.map .system, ⟨?_, ?_⟩, ?_⟩
    · exact List.Sublist.refl _
    · simp only [es, started, saveEvent, createEvent, addEvent, List.map_cons, List.map_nil,
        List.forall_mem_cons, Platform.Piped, List.not_mem_nil, false_imp_iff, implies_true,
        and_true, true_and]
      exact piped
    · rw [Shows, run, enter, Platform.run_system all]
      exact upload_alone p.system t key user.userId file m.uploading m.faults free clear
  · simp only [not_forall] at clear
    obtain ⟨⟨err, leaves⟩, fails, leaves_some⟩ := clear
    obtain ⟨left, rfl⟩ := Option.ne_none_iff_exists'.mp leaves_some
    refine ⟨[.validate payload, .system started,
      .writeFileFails t key m.uploading.fileUuid left err], ⟨List.Sublist.refl _, ?_⟩, ?_⟩
    · simp only [started, List.forall_mem_cons, Platform.Piped, List.not_mem_nil, false_imp_iff,
        implies_true, and_true, true_and]
      exact piped
    · rw [Shows, run, enter, run, Platform.step, if_pos admitted]
      exact upload_spilled p.system t key user.userId file m.uploading m.faults free fails

/-- What serving a request does, some steps of the platform do. -/
theorem served_simulated {m : Moment} {request : Fetch.Request MulterFile} {p : Platform.State}
    {stores : Stores} (served : Served api m p.system.stores stores) :
    ∃ ps, Matches api [.request request m] ps ∧
      Shows ⟨stores, p.system.deliveries⟩
        (run (Platform.step api.storage api.auth) p ps) := by
  cases served with
  | same => exact ⟨[], ⟨List.nil_sublist _, fun _ h => by cases h⟩, rfl⟩
  | noted userId =>
      have fixed : ∀ u : User,
          { u with lastLoginAt := some m.now, updatedAt := m.now : User }.fixed = u.fixed :=
        fun _ => rfl
      refine ⟨[.editUsers (.on userId _ fixed)], ⟨List.nil_sublist _, fun p hp => ?_⟩, rfl⟩
      rw [List.mem_singleton.mp hp]
      exact UserEdit.on_fixed userId fixed
  | registered text dto taken =>
      obtain ⟨key, free⟩ := p.registrations.exists_free ()
      let call : Registration.Call := ⟨key, m.now, m.registering, RegisterDto.of dto⟩
      refine ⟨[.start call, .lookup key, .transaction key].map .register,
        ⟨List.nil_sublist _, ?_⟩, ?_⟩
      · simp only [List.map_cons, List.map_nil, List.forall_mem_cons, Platform.Piped,
          List.not_mem_nil, false_imp_iff, implies_true, and_true]
        exact ⟨text, dto, taken, rfl⟩
      · have made : (run (Registration.step api.auth) ⟨p.system.db, p.registrations⟩
            [.start call, .lookup key, .transaction key]).db =
              (AuthService.register api.auth m.now m.registering (RegisterDto.of dto)
                p.system.db).2 := Registration.run_call _ call free
        rw [Shows, Platform.run_register]
        simp only [of, Platform.State.withDb, State.stores, made]
  | uploaded payload user t file valid own piped =>
      obtain ⟨key, free⟩ := p.system.uploads.exists_free t.val
      exact upload_simulated valid own piped free

theorem matched (b : Backend) (p : Platform.State) (e : Event) (shows : Shows b p) :
    ∃ ps, Matches api [e] ps ∧
      Shows (step api b e).1 (run (Platform.step api.storage api.auth) p ps) := by
  cases e with
  | request request m =>
      rw [← shows]
      exact served_simulated serve_served
  | worker t a =>
      have admitted : Platform.admits p.contexts ⟨t, a.action⟩ = true := by cases a <;> rfl
      refine ⟨[.system ⟨t, a.action⟩], ⟨?_, fun p hp => ?_⟩, ?_⟩
      · cases a <;> exact List.nil_sublist _
      · rw [List.mem_singleton.mp hp]
        cases a <;> trivial
      · rw [← shows, Shows, run, run, Platform.step, if_pos admitted]
        exact of_worker p.system t a
  | setUserStatus id status =>
      have fixed : ∀ u : User, { u with status := status : User }.fixed = u.fixed := fun _ => rfl
      refine ⟨[.editUsers (.on id _ fixed)], ⟨List.nil_sublist _, fun p hp => ?_⟩, ?_⟩
      · rw [List.mem_singleton.mp hp]
        exact UserEdit.on_fixed id fixed
      · rw [← shows]
        rfl
  | setTenantStatus id status =>
      refine ⟨[.setTenantStatus id status], ⟨List.nil_sublist _, fun p hp => ?_⟩, ?_⟩
      · rw [List.mem_singleton.mp hp]
        trivial
      · rw [← shows]
        rfl

/-- Each run of requests is, in its stores and deliveries, a run of the platform. -/
theorem refines_platform (api : Api) (tenants : List Tenant) (users : List User)
    (apiKeys : List ApiKey) (es : List Event) :
    ∃ ps, Matches api es ps ∧
      of (run (Platform.step api.storage api.auth) (.init tenants users apiKeys) ps).system =
        run (step api) (init tenants users apiKeys) es :=
  have start : Shows (init tenants users apiKeys) (.init tenants users apiKeys) := rfl
  run_simulated _ ⟨List.Sublist.refl _, fun _ h => by cases h⟩ Matches.append matched start es

theorem crossStore_of {env : Env} {s : State} (h : CrossStore env s) :
    CrossStore env (of s).system :=
  ⟨h.uploader, h.path, h.apart, h.stored, h.queued, h.once, h.found⟩

/-- However requests and workers take turns, the stores agree, the accounts are made of what
the pipes take, each document is a JPEG or a PNG that its row describes, and none is
rejected. -/
theorem requests_keep_stores (api : Api) (checks : api.ChecksFiles) (tenants : List Tenant)
    (users : List User) (apiKeys : List ApiKey)
    (accounts : Database.AccountsSound api ⟨tenants, users, apiKeys, []⟩) (es : List Event)
    (fresh : (es.filterMap Event.fileUuid).Nodup) :
    let b := run (step api) (init tenants users apiKeys) es
    CrossStore api.storage b.system ∧ b.stores.db.AccountsSound api ∧
      (∀ d ∈ b.stores.db.documents, d.Imaged api.storage b.stores.files) ∧
      ∀ dl ∈ b.deliveries, dl.Unrejected := by
  intro b
  obtain ⟨ps, listed, shown⟩ := refines_platform api tenants users apiKeys es
  obtain ⟨sound, admitted⟩ :=
    Platform.Admitted.reached checks accounts (fresh.sublist listed.files) listed.piped
  rw [show b = _ from shown.symm]
  exact ⟨crossStore_of sound.crossStore, admitted.accounts,
    fun d hd => admitted.imaged sound checks hd, admitted.deliveries⟩

end Refinement

namespace Sample
open Api.Sample IdpSaas.Sample

def moment (file document : Uuid) : Moment where
  now := 0
  limited := false
  requestId := "5e1d"
  timestamp := "1970-01-01T00:00:00.000Z"
  bodyError := "Unexpected end of JSON input"
  registering := ⟨acme.val, "user", "salt"⟩
  uploading := ⟨file, document, 0⟩
  faults := ⟨none, none, none⟩
  read := ⟨200, "OK", none⟩

/-- The access token of the registration. -/
def token : String := jwt.sign auth.accessSecret ⟨⟨"user", acme.val, .owner⟩, 0, 900⟩

def request (call : ApiCall) (storage : Fetch.Storage) : Fetch.Request MulterFile :=
  Fetch.firstRequest api.web call.endpoint.path (call.init api) storage

/-- A registration, an upload with its token, and the first step of a worker. -/
def morning : List Event :=
  [.request (request (.register RegisterForm.Sample.named) ⟨none, none, none⟩) (moment file1 doc1),
    .request (request (.uploadDocument scan) ⟨some token, none, none⟩) (moment file2 doc2),
    .worker acme (.deliver 0 doc2.val 0)]

end Sample

theorem requests_keep_stores_morning :
    let b := run (step Api.Sample.api) (init [] [] []) Sample.morning
    CrossStore IdpSaas.Sample.env b.system ∧ ∀ dl ∈ b.deliveries, dl.Unrejected := by
  have kept := requests_keep_stores Api.Sample.api Api.Sample.checksFiles [] [] [] (.empty [])
    Sample.morning (by decide +kernel)
  exact ⟨kept.1, kept.2.2.2⟩

end Backend
end IdpSaas

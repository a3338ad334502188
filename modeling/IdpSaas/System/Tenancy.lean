import IdpSaas.Auth.Outside
import IdpSaas.System.Isolation
import IdpSaas.System.Reading

/-!
Tenants do not interfere over HTTP either. An event concerns a tenant when a user of it
sends it or logs in, when a worker processes its jobs, or when the status of its accounts
changes. Without the events that concern one tenant, all others are answered the same.
-/

namespace IdpSaas
open Owned Posix DocumentsService LocalStorageService ProcessingProcessor Machine AuthService

/-- The claims of the token that a request bears, if it verifies. -/
def Api.claims (api : Api) (m : Moment) (request : Fetch.Request MulterFile) : Option JwtClaims :=
  ((Fetch.getHeader "Authorization" request.headers).bind api.bearerToken).bind fun token =>
    api.auth.jwt.verify api.auth.accessSecret (m.now / 1000) token

/-- Registrations and refreshes concern nobody's accounts. -/
def Api.concerns (api : Api) (a : Uuid) (m : Moment) (request : Fetch.Request MulterFile)
    (db : Database) : Bool :=
  match api.endpoint request with
  | some .register | some .refresh => false
  | some .login =>
      match api.received LoginDto.properties request with
      | some (.ok dto) => db.admitsTo a.val (LoginDto.of dto)
      | _ => false
  | some .upload | none => (api.claims m request).any fun claims => db.hasUser a.val claims.sub

namespace Backend

def concerns (api : Api) (a : Uuid) (b : Backend) : Event → Bool
  | .request request m => api.concerns a m request b.stores.db
  | .worker t _ => decide (t.val = a.val)
  | .setUserStatus id _ => b.stores.db.hasUser a.val id
  | .setTenantStatus id _ => decide (id = a.val)

/-- The document system without the accounts. -/
def documents (b : Backend) : State :=
  { b.system with db := ⟨[], [], [], b.stores.db.documents⟩ }

/-- From outside the tenant the accounts are the same, and all others see the same of the
document system. -/
structure Alike (env : Env) (a : Uuid) (b b' : Backend) : Prop where
  accounts : b.stores.db.AlikeOutside a.val b'.stores.db
  views : ∀ t, t ≠ a → b.documents.view env t = b'.documents.view env t

/-- Keys are unique, and stored paths stay within the directory of their tenant. -/
structure Separated (env : Env) (b : Backend) : Prop where
  keyed : b.stores.db.Keyed
  contained : Contained env b.documents

/-- The id generated for the document of a request, should it be an upload. -/
def Event.documentUuid : Event → Option Uuid
  | .request _ m => some m.uploading.documentUuid
  | _ => none

/-- That id is new. -/
def Fresh (b : Backend) (e : Event) : Prop :=
  ∀ u, e.documentUuid = some u → ∀ d ∈ b.stores.db.documents, d.id ≠ u.val

end Backend

/-- What an upload adds, whatever is there already. -/
structure Deposit where
  written : Option (String × Bytes)
  rows : List Document
  jobs : List Job

/-- It is all for one tenant. -/
structure Deposit.For (env : Env) (t : Uuid) (x : Deposit) : Prop where
  rows : ∀ d ∈ x.rows, d.tenantId = t.val
  paths : ∀ d ∈ x.rows, InOwnDir env t.val d.storagePath
  jobs : ∀ j ∈ x.jobs, j.tenantId = t.val

def Deposit.on (env : Env) (t : Uuid) (g : UploadGenerated) (x : Deposit) (s : Stores) : Stores where
  db := { s.db with documents := s.db.documents ++ x.rows }
  files :=
    match x.written with
    | none => s.files
    | some (name, b) => s.files.write (savedPlace env t.val g.fileUuid name) b
  queue := s.queue ++ x.jobs

section Deposits
variable {env : Env} {t : Uuid} {x : Deposit}

theorem Deposit.For.noRows (written : Option (String × Bytes)) :
    Deposit.For env t ⟨written, [], []⟩ :=
  ⟨fun _ h => absurd h List.not_mem_nil, fun _ h => absurd h List.not_mem_nil,
    fun _ h => absurd h List.not_mem_nil⟩

theorem newDocument_for (env : Env) (t : Uuid) (userId : String) (f : MulterFile)
    (g : UploadGenerated) :
    (newDocument env t userId f g).tenantId = t.val ∧
      InOwnDir env t.val (newDocument env t userId f g).storagePath :=
  ⟨rfl, g.fileUuid, f.originalname, rfl⟩

/-- An upload with a new id does the same everywhere. -/
theorem upload_deposit (env : Env) (t : Uuid) (userId : String) (file : Option MulterFile)
    (g : UploadGenerated) (faults : UploadFaults) :
    ∃ r x, Deposit.For env t x ∧ ∀ s : Stores, (∀ d ∈ s.db.documents, d.id ≠ g.documentUuid.val) →
      upload env t userId file g faults s = (r, x.on env t g s) := by
  have unchanged : ∀ s : Stores, s = Deposit.on env t g ⟨none, [], []⟩ s := fun s => by
    simp only [Deposit.on, List.append_nil]
  cases checked : checkFile file with
  | error e =>
      refine ⟨.error e, ⟨none, [], []⟩, .noRows _, fun s _ => ?_⟩
      rw [upload, checked, ← unchanged s]
  | ok f =>
      cases save : faults.save with
      | some fault =>
          obtain ⟨err, leaves⟩ := fault
          refine ⟨.error (.internal err), ⟨leaves.map fun b => (f.originalname, b), [], []⟩, .noRows _,
            fun s _ => ?_⟩
          rw [upload, checked]
          cases leaves with
          | none =>
              simp only [save, saveOr]
              rw [Option.map_none, ← unchanged s]
          | some b => simp only [save, saveOr, locate_fullPath, Deposit.on, Option.map_some, List.append_nil]
      | none =>
          cases create : faults.create with
          | some err =>
              refine ⟨.error (.internal err), ⟨some (f.originalname, f.buffer), [], []⟩, .noRows _,
                fun s _ => ?_⟩
              rw [upload, checked]
              simp only [save, saveOr, LocalStorageService.save, locate_fullPath, create, createOr,
                Deposit.on, List.append_nil]
          | none =>
              let d := newDocument env t userId f g
              have own := newDocument_for env t userId f g
              have rows : ∀ d' ∈ [d], d'.tenantId = t.val := fun d' mem =>
                List.mem_singleton.mp mem ▸ own.1
              have paths : ∀ d' ∈ [d], InOwnDir env t.val d'.storagePath := fun d' mem =>
                List.mem_singleton.mp mem ▸ own.2
              cases add : faults.add with
              | some err =>
                  refine ⟨.error (.internal err), ⟨some (f.originalname, f.buffer), [d], []⟩,
                    ⟨rows, paths, fun _ h => absurd h List.not_mem_nil⟩, fun s new => ?_⟩
                  rw [upload, checked]
                  simp only [save, saveOr, LocalStorageService.save, locate_fullPath,
                    createOr_ok (show Creates g faults s.db from ⟨create, new⟩), add, Deposit.on, List.append_nil]
                  rfl
              | none =>
                  refine ⟨.ok d, ⟨some (f.originalname, f.buffer), [d], [processDocumentJob d t.val]⟩,
                    ⟨rows, paths, fun j mem => List.mem_singleton.mp mem ▸ rfl⟩, fun s new => ?_⟩
                  rw [upload, checked]
                  simp only [save, saveOr, LocalStorageService.save, locate_fullPath,
                    createOr_ok (show Creates g faults s.db from ⟨create, new⟩), add, Deposit.on]
                  rfl

/-- What an upload adds for one tenant, the others do not see. -/
theorem Deposit.For.view_other (h : Deposit.For env t x) {t' : Uuid} (other : t' ≠ t)
    (g : UploadGenerated) (b : Backend) :
    ({ b with stores := x.on env t g b.stores } : Backend).documents.view env t' =
      b.documents.view env t' := by
  have apart : t.val ≠ t'.val := fun same => other (Uuid.val_inj.mp same.symm)
  have rows : ownedBy Document.tenantId t'.val (b.stores.db.documents ++ x.rows) =
      ownedBy Document.tenantId t'.val b.stores.db.documents :=
    ownedBy_append_other (fun d mem => h.rows d mem ▸ apart) _
  have jobs : ownedBy Job.tenantId t'.val (b.stores.queue ++ x.jobs) =
      ownedBy Job.tenantId t'.val b.stores.queue :=
    ownedBy_append_other (fun j mem => h.jobs j mem ▸ apart) _
  have files : (x.on env t g b.stores).files.under (tenantDir env t'.val) =
      b.stores.files.under (tenantDir env t'.val) := by
    rw [Deposit.on]
    cases x.written with
    | none => rfl
    | some w =>
        refine under_write_other _ ?_ _
        rw [savedPlace, Place.parent_child, ne_eq, tenantDir_inj]
        exact apart
  simp only [State.view, Backend.documents, Backend.system, Database.only, files]
  simp only [Deposit.on, rows, jobs]

/-- The tenant sees it added to what it has seen before. -/
theorem Deposit.For.view_own (h : Deposit.For env t x) (g : UploadGenerated) {b b' : Backend}
    (same : b.documents.view env t = b'.documents.view env t) :
    ({ b with stores := x.on env t g b.stores } : Backend).documents.view env t =
      ({ b' with stores := x.on env t g b'.stores } : Backend).documents.view env t := by
  have added : ∀ b : Backend,
      ({ b with stores := x.on env t g b.stores } : Backend).documents.view env t =
        { b.documents.view env t with
          db := ⟨[], [], [], (b.documents.view env t).db.documents ++ x.rows⟩
          files :=
            match x.written with
            | none => (b.documents.view env t).files
            | some (name, bytes) =>
                (b.documents.view env t).files.write (savedPlace env t.val g.fileUuid name) bytes
          queue := (b.documents.view env t).queue ++ x.jobs } := by
    intro b
    have files : (x.on env t g b.stores).files.under (tenantDir env t.val) =
        match x.written with
        | none => b.stores.files.under (tenantDir env t.val)
        | some (name, bytes) =>
            (b.stores.files.under (tenantDir env t.val)).write
              (savedPlace env t.val g.fileUuid name) bytes := by
      rw [Deposit.on]
      cases x.written with
      | none => rfl
      | some w => exact under_write_own _ (Place.parent_child _ _) _
    simp only [State.view, Backend.documents, Backend.system, Database.only, files]
    simp only [Deposit.on, ownedBy_append_own h.rows, ownedBy_append_own h.jobs]
    rfl
  rw [added b, added b', same]

end Deposits

section Workers
variable {env : Env}

/-- The handler has nothing to do with accounts. -/
theorem handleProcess_documents (env : Env) (fate : Fate) (job : Job) (n : Nat) (db : Database)
    (files : Files) (pc : HandlerPc) :
    handleProcess env fate job n ⟨[], [], [], db.documents⟩ files pc =
      { handleProcess env fate job n db files pc with
        db := ⟨[], [], [], (handleProcess env fate job n db files pc).db.documents⟩ } := by
  have step : ∀ (scope : TenantScope) id w next caught,
      updateStep env scope fate ⟨[], [], [], db.documents⟩ id w next caught =
        { updateStep env scope fate db id w next caught with
          db := ⟨[], [], [], (updateStep env scope fate db id w next caught).db.documents⟩ } := by
    intro scope id w next caught
    rw [updateStep, updateStep, update_eq, update_eq]
    cases fate.fails with
    | some err => rfl
    | none => cases db.documents.any (selects scope.tenantId id) <;> rfl
  rw [handleProcess, handleProcess]
  cases forTenant job.tenantId with
  | error err => cases pc <;> rfl
  | ok scope =>
      cases pc with
      | findUnique =>
          cases fate.fails with
          | some err => rfl
          | none =>
              simp only [findUnique_eq]
              cases db.documents.find? (selects scope.tenantId job.documentId) <;> rfl
      | readFile d =>
          cases fate.fails with
          | some err => rfl
          | none =>
              dsimp only
              cases LocalStorageService.read env files d.storagePath <;> rfl
      | runOcr d b =>
          dsimp only
          cases ocrResult env (fate.fetch ⟨b, d.originalName, d.mimeType⟩) <;> rfl
      | updateProcessing | updateRejected | updateCompleted | incrementRetry | updateFailed =>
          exact step _ _ _ _ _
      | returned | threw | crashed => rfl

theorem worker_documents (api : Api) (b : Backend) (t : Uuid) (a : Backend.WorkerAction) :
    (Backend.step api b (.worker t a)).1.documents =
      (IdpSaas.step api.storage b.documents ⟨t, a.action⟩).1 := by
  cases a with
  | deliver key documentId attemptsMade =>
      simp only [Backend.step, IdpSaas.step, Backend.WorkerAction.action, State.deliver,
        Backend.documents, Backend.system, Backend.of, State.stores]
      split <;> rfl
  | work key fate =>
      simp only [Backend.step, IdpSaas.step, Backend.WorkerAction.action, State.work,
        Backend.documents, Backend.system, Backend.of, State.stores]
      cases b.deliveries.find? t.val key with
      | none => rfl
      | some dl =>
          dsimp only
          rw [handleProcess_documents api.storage fate dl.job dl.attemptsMade b.stores.db]
  | crash key =>
      simp only [Backend.step, IdpSaas.step, Backend.WorkerAction.action, State.crash,
        Backend.documents, Backend.system, Backend.of, State.stores]
      split
      · split <;> rfl
      · rfl

end Workers

section Guards
variable {api : Api} {m : Moment} {request : Fetch.Request MulterFile} {a : String}
  {db db' : Database}

theorem enter_unguarded {e : Endpoint} (isPublic : e ≠ .upload) (db db' : Database) :
    api.enter m e request db = api.enter m e request db' := by
  cases e with
  | register | login | refresh => rfl
  | upload => exact absurd rfl isPublic

theorem hasUser_of_validate {env : AuthEnv String} {payload : JwtPayload} {user : AuthContext}
    (valid : JwtStrategy.validate env db payload = .ok user) (a : String) :
    db.hasUser a payload.sub = (user.tenantId == a) := by
  obtain ⟨u, t, found, -, -, -, -, rfl⟩ := JwtStrategy.validate_ok valid
  rw [Database.hasUser, any_of_eq_some found]

/-- Who gets past the guards of a route that is not public bears a token that verifies. -/
theorem enter_claims {user : Option AuthContext}
    (entered : api.enter m .upload request db = .ok user) :
    ∃ claims context, user = some context ∧ api.claims m request = some claims ∧
      JwtStrategy.validate api.auth db claims.toJwtPayload = .ok context := by
  simp only [Api.enter] at entered
  split at entered
  · cases entered
  · next passed =>
      obtain ⟨context, rfl, authenticated, -⟩ := Access.guards_ok (s := ⟨db, m.now, []⟩) rfl passed
      obtain ⟨token, claims, bearer, verified, valid⟩ := Access.authenticate_success authenticated
      split at entered
      · cases entered
      · cases entered
        refine ⟨claims, context, rfl, ?_, valid⟩
        rw [Api.claims, show (_ : Option String).bind api.bearerToken = some token from bearer,
          Option.bind_some, verified]

/-- For whom the tenant does not employ, the guards decide the same. -/
theorem enter_alike (h : Database.AlikeOutside a db db')
    (other : (api.claims m request).any (fun claims => db.hasUser a claims.sub) = false) :
    api.enter m .upload request db = api.enter m .upload request db' := by
  have authenticated : ∀ bearer : Option String,
      (bearer.bind fun token =>
        api.auth.jwt.verify api.auth.accessSecret (m.now / 1000) token).any
          (fun claims => db.hasUser a claims.sub) = false →
      JwtStrategy.authenticate api.auth api.passport db m.now bearer =
        JwtStrategy.authenticate api.auth api.passport db' m.now bearer := by
    intro bearer other
    cases bearer with
    | none => rfl
    | some token =>
        rw [JwtStrategy.authenticate, JwtStrategy.authenticate]
        rw [Option.bind_some] at other
        cases verified : api.auth.jwt.verify api.auth.accessSecret (m.now / 1000) token with
        | none => rfl
        | some claims =>
            rw [any_of_eq_some verified] at other
            simp only [h.validate api.auth other]
  simp only [Api.enter, guards, JwtAuthGuard.canActivate, authenticated _ other]

end Guards

section Handlers
variable {api : Api} {m : Moment} {request : Fetch.Request MulterFile} {a : Uuid}
  {b b' : Backend}

namespace Backend.Alike
variable {env : Env}

theorem trans {b'' : Backend} (h : Alike env a b b') (k : Alike env a b' b'') : Alike env a b b'' :=
  ⟨h.accounts.trans k.accounts, fun t other => (h.views t other).trans (k.views t other)⟩

/-- Of the documents the others see the same. -/
theorem rows (h : Alike env a b b') {t : Uuid} (other : t ≠ a) :
    ownedBy Document.tenantId t.val b.stores.db.documents =
      ownedBy Document.tenantId t.val b'.stores.db.documents :=
  congrArg (fun s : State => s.db.documents) (h.views t other)

theorem files (h : Alike env a b b') {t : Uuid} (other : t ≠ a) {p : Place}
    (own : p.parent = tenantDir env t.val) : b.stores.files p = b'.stores.files p := by
  have same := congrFun (congrArg State.files (h.views t other)) p
  simp only [State.view, Files.under, own, if_true] at same
  exact same

/-- A change of the accounts leaves the document system. -/
theorem withDb (h : Alike env a b b') {db db' : Database} (accounts : db.AlikeOutside a.val db')
    (kept : db.documents = b.stores.db.documents) (kept' : db'.documents = b'.stores.db.documents) :
    Alike env a (b.withDb db) (b'.withDb db') where
  accounts := accounts
  views t other := by
    have system : (b.withDb db).documents = b.documents := by
      rw [documents, documents, ← kept]
      rfl
    have system' : (b'.withDb db').documents = b'.documents := by
      rw [documents, documents, ← kept']
      rfl
    rw [system, system']
    exact h.views t other

/-- An upload of another tenant that is new to both adds the same to both. -/
theorem deposit (h : Alike env a b b') {t : Uuid} {x : Deposit} (own : x.For env t) (other : t ≠ a)
    (g : UploadGenerated) :
    Alike env a { b with stores := x.on env t g b.stores }
      { b' with stores := x.on env t g b'.stores } where
  accounts := ⟨h.accounts.tenants, h.accounts.users⟩
  views t' other' := by
    by_cases same : t' = t
    · subst same
      exact own.view_own g (h.views t' other')
    · rw [own.view_other same, own.view_other same]
      exact h.views t' other'

end Backend.Alike

/-- An upload of the tenant adds nothing that the others see. -/
theorem Deposit.For.alike {env : Env} {x : Deposit} (own : x.For env a) (g : UploadGenerated)
    (b : Backend) : Backend.Alike env a { b with stores := x.on env a g b.stores } b where
  accounts := ⟨rfl, rfl⟩
  views _ other := own.view_other other g b

/-- A handler with a body comes to the same where its guards and its service do. -/
theorem withBody_alike {e : Endpoint} {properties : List Property}
    {handler : JsonValue → Stores → Except Exception JsonValue × Stores} {R : Stores → Stores → Prop}
    {s s' : Stores} (same : R s s') (entered : api.enter m e request s.db = api.enter m e request s'.db)
    (handled : ∀ dto, api.received properties request = some (.ok dto) →
      (handler dto s).1 = (handler dto s').1 ∧ R (handler dto s).2 (handler dto s').2) :
    (api.withBody m e properties handler request s).1 =
        (api.withBody m e properties handler request s').1 ∧
      R (api.withBody m e properties handler request s).2
        (api.withBody m e properties handler request s').2 := by
  rw [Api.withBody, Api.withBody, entered]
  cases received : api.received properties request with
  | none => exact ⟨rfl, same⟩
  | some body =>
      cases api.enter m e request s'.db with
      | error e => exact ⟨rfl, same⟩
      | ok user =>
          cases body with
          | error messages => exact ⟨rfl, same⟩
          | ok dto => exact handled dto received

/-- The stores of two backends, alike with them. -/
def Backend.AlikeStores (env : Env) (a : Uuid) (b b' : Backend) (s s' : Stores) : Prop :=
  Alike env a { b with stores := s } { b' with stores := s' }

/-- Who is no user of the tenant uploads the same. -/
theorem upload_alike (h : b.Alike api.storage a b') {user : Option AuthContext}
    (other : ∀ u, user = some u → u.tenantId ≠ a.val)
    (new : ∀ d ∈ b.stores.db.documents, d.id ≠ m.uploading.documentUuid.val)
    (new' : ∀ d ∈ b'.stores.db.documents, d.id ≠ m.uploading.documentUuid.val) :
    (api.upload m user request b.stores).1 = (api.upload m user request b'.stores).1 ∧
      Backend.AlikeStores api.storage a b b' (api.upload m user request b.stores).2
        (api.upload m user request b'.stores).2 := by
  cases user with
  | none => exact ⟨rfl, h⟩
  | some u =>
      simp only [Api.upload, Option.bind_some]
      cases uuid : Api.tenantUuid u.tenantId with
      | none => exact ⟨rfl, h⟩
      | some t =>
          have apart : t ≠ a := by
            intro same
            exact other u rfl (same ▸ (tenantUuid_some uuid).symm)
          simp only [Option.map_some]
          split
          · exact ⟨rfl, h⟩
          · obtain ⟨r, x, own, deposits⟩ :=
              upload_deposit api.storage t u.userId _ m.uploading m.faults
            rw [deposits b.stores new, deposits b'.stores new']
            exact ⟨rfl, h.deposit own apart m.uploading⟩

/-- A request that does not concern the tenant is served the same. -/
theorem serve_alike (h : b.Alike api.storage a b') (apart : api.concerns a m request b.stores.db = false)
    (new : ∀ d ∈ b.stores.db.documents, d.id ≠ m.uploading.documentUuid.val)
    (new' : ∀ d ∈ b'.stores.db.documents, d.id ≠ m.uploading.documentUuid.val) :
    (api.serve m request b.stores).1 = (api.serve m request b'.stores).1 ∧
      Backend.AlikeStores api.storage a b b' (api.serve m request b.stores).2
        (api.serve m request b'.stores).2 := by
  rw [Api.serve, Api.serve]
  rw [Api.concerns] at apart
  cases routed : api.endpoint request with
  | none => exact ⟨rfl, h⟩
  | some e =>
      rw [routed] at apart
      suffices handled : (api.handle m e request b.stores).1 = (api.handle m e request b'.stores).1 ∧
          Backend.AlikeStores api.storage a b b' (api.handle m e request b.stores).2
            (api.handle m e request b'.stores).2 from
        ⟨congrArg (api.respond m (api.apiPrefix ++ e.path) e.status) handled.1, handled.2⟩
      cases e with
      | register =>
          refine withBody_alike h (enter_unguarded (by decide) _ _) fun dto _ => ?_
          obtain ⟨answered, accounts⟩ :=
            h.accounts.register api.auth m.now m.registering (RegisterDto.of dto)
          exact ⟨congrArg (Api.outcome Api.sessionJson) answered,
            h.withDb accounts (register_documents _ _ _ _ _) (register_documents _ _ _ _ _)⟩
      | login =>
          refine withBody_alike h (enter_unguarded (by decide) _ _) fun dto received => ?_
          simp only [received] at apart
          obtain ⟨answered, accounts⟩ := h.accounts.login api.auth m.now apart
          exact ⟨congrArg (Api.outcome Api.sessionJson) answered,
            h.withDb accounts (login_documents _ _ _ _) (login_documents _ _ _ _)⟩
      | refresh => exact withBody_alike h (enter_unguarded (by decide) _ _) fun dto _ => ⟨rfl, h⟩
      | upload =>
          simp only [Api.handle, ← enter_alike h.accounts apart]
          cases entered : api.enter m .upload request b.stores.db with
          | error e => exact ⟨rfl, h⟩
          | ok user =>
              obtain ⟨claims, context, rfl, sent, valid⟩ := enter_claims entered
              dsimp only at apart
              rw [any_of_eq_some sent, hasUser_of_validate valid, beq_eq_false_iff_ne] at apart
              refine upload_alike h (fun u same => ?_) new new'
              rw [← Option.some.inj same]
              exact apart

/-- One that concerns it leaves nothing for the others to see. -/
theorem serve_quiet (keyed : b.stores.db.Keyed)
    (own : api.concerns a m request b.stores.db = true)
    (new : ∀ d ∈ b.stores.db.documents, d.id ≠ m.uploading.documentUuid.val) :
    Backend.AlikeStores api.storage a b b (api.serve m request b.stores).2 b.stores := by
  have same : Backend.AlikeStores api.storage a b b b.stores b.stores :=
    ⟨⟨rfl, rfl⟩, fun _ _ => rfl⟩
  rw [Api.serve]
  rw [Api.concerns] at own
  cases routed : api.endpoint request with
  | none => exact same
  | some e =>
      rw [routed] at own
      cases e with
      | register | refresh => cases own
      | login =>
          simp only [Api.handle, Api.withBody]
          cases received : api.received LoginDto.properties request with
          | none => exact same
          | some body =>
              dsimp only
              cases api.enter m .login request b.stores.db with
              | error e => exact same
              | ok user =>
                  cases body with
                  | error messages => exact same
                  | ok dto =>
                      simp only [received] at own
                      exact same.withDb (Database.alike_login keyed.userIds api.auth m.now own)
                        (login_documents _ _ _ _) rfl
      | upload =>
          simp only [Api.handle]
          cases entered : api.enter m .upload request b.stores.db with
          | error e => exact same
          | ok user =>
              obtain ⟨claims, context, rfl, sent, valid⟩ := enter_claims entered
              dsimp only at own
              rw [any_of_eq_some sent, hasUser_of_validate valid, beq_iff_eq] at own
              simp only [Api.upload, Option.bind_some]
              cases uuid : Api.tenantUuid context.tenantId with
              | none => exact same
              | some t =>
                  cases Uuid.val_inj.mp ((tenantUuid_some uuid).trans own)
                  simp only [Option.map_some]
                  split
                  · exact same
                  · obtain ⟨r, x, mine, deposits⟩ :=
                      upload_deposit api.storage a context.userId _ m.uploading m.faults
                    rw [deposits b.stores new]
                    exact mine.alike m.uploading b

end Handlers

/-- Serving a request keeps stored paths in the directories of their tenants. -/
theorem Served.paths {api : Api} {m : Moment} {s s' : Stores} (served : Served api m s s')
    (rows : ∀ d ∈ s.db.documents, InOwnDir api.storage d.tenantId d.storagePath)
    (new : ∀ d ∈ s.db.documents, d.id ≠ m.uploading.documentUuid.val) :
    ∀ d ∈ s'.db.documents, InOwnDir api.storage d.tenantId d.storagePath := by
  cases served with
  | same | noted => exact rows
  | registered text dto taken =>
      intro d hd
      exact rows d (register_documents api.auth m.now m.registering (RegisterDto.of dto) s.db ▸ hd)
  | uploaded payload user t file =>
      obtain ⟨r, x, mine, deposits⟩ :=
        upload_deposit api.storage t user.userId file m.uploading m.faults
      rw [deposits s new]
      intro d hd
      cases List.mem_append.mp hd with
      | inl old => exact rows d old
      | inr added => exact mine.rows d added ▸ mine.paths d added

namespace Backend
section Steps
variable {api : Api} {a : Uuid} {b b' : Backend} {e : Event}

theorem freshDocument_worker (s : State) (t : Uuid) (act : WorkerAction) :
    FreshDocument s ⟨t, act.action⟩ := by
  cases act <;> trivial

theorem Separated.step (h : Separated api.storage b) (fresh : b.Fresh e) :
    Separated api.storage (step api b e).1 where
  keyed := (step_accounts b e).keyed h.keyed
  contained := by
    cases e with
    | request request m =>
        have served : Served api m b.stores (step api b (.request request m)).1.stores := serve_served
        exact ⟨served.paths h.contained.rows (fresh _ rfl), h.contained.creating, h.contained.loaded⟩
    | worker t act =>
        rw [worker_documents]
        exact h.contained.preserved (step_transition api.storage _ _)
    | setUserStatus | setTenantStatus => exact h.contained

theorem step_quiet (h : Separated api.storage b) (own : b.concerns api a e = true)
    (fresh : b.Fresh e) : Alike api.storage a (step api b e).1 b := by
  cases e with
  | request request m => exact serve_quiet h.keyed own (fresh _ rfl)
  | worker t act =>
      have tr := step_transition api.storage b.system ⟨t, act.action⟩
      refine ⟨⟨congrArg _ tr.tenants, congrArg _ tr.users⟩, fun t' other => ?_⟩
      rw [worker_documents]
      have here : t = a := Uuid.val_inj.mp (of_decide_eq_true own)
      exact (step_local api.storage b.documents ⟨t, act.action⟩ h.contained
        (freshDocument_worker _ _ _)).other t' (here ▸ other)
  | setUserStatus id status =>
      exact ⟨Database.alike_modifyUser h.keyed.userIds own fun _ => rfl, fun _ _ => rfl⟩
  | setTenantStatus id status =>
      have here : id = a.val := of_decide_eq_true own
      exact ⟨here ▸ Database.alike_setTenantStatus _ _ _, fun _ _ => rfl⟩

theorem step_alike (h : Separated api.storage b) (h' : Separated api.storage b')
    (same : Alike api.storage a b b') (apart : b.concerns api a e = false) (fresh : b.Fresh e)
    (fresh' : b'.Fresh e) : Alike api.storage a (step api b e).1 (step api b' e).1 := by
  cases e with
  | request request m => exact (serve_alike same apart (fresh _ rfl) (fresh' _ rfl)).2
  | worker t act =>
      have tr := step_transition api.storage b.system ⟨t, act.action⟩
      have tr' := step_transition api.storage b'.system ⟨t, act.action⟩
      have locally := step_local api.storage b.documents ⟨t, act.action⟩ h.contained
        (freshDocument_worker _ _ _)
      have locally' := step_local api.storage b'.documents ⟨t, act.action⟩ h'.contained
        (freshDocument_worker _ _ _)
      have elsewhere : t ≠ a := fun here => of_decide_eq_false apart (congrArg _ here)
      refine ⟨⟨?_, ?_⟩, fun t' other => ?_⟩
      · exact (congrArg _ tr.tenants).trans (same.accounts.tenants.trans (congrArg _ tr'.tenants.symm))
      · exact (congrArg _ tr.users).trans (same.accounts.users.trans (congrArg _ tr'.users.symm))
      · rw [worker_documents, worker_documents]
        by_cases here : t' = t
        · subst here
          rw [locally.own, locally'.own, same.views t' other]
        · rw [locally.other t' here, locally'.other t' here, same.views t' other]
  | setUserStatus id status =>
      exact ⟨same.accounts.modifyUsers _ fun _ => rfl, same.views⟩
  | setTenantStatus id status =>
      exact ⟨same.accounts.modifyTenants _ fun _ => rfl, same.views⟩

end Steps
end Backend

section Reads
variable {site : Site} {m : Moment} {request : Fetch.Request MulterFile} {a : Uuid}
  {b b' : Backend}

theorem Site.step_unserved (routed : site.endpoint request = none) :
    (site.step b (.request request m)).2 = some (site.read m request b.stores.db) := by
  simp only [Site.step, Backend.step, Api.serve, routed]
  rfl

/-- Lists and documents are read from the rows of the user's tenant. -/
theorem handleRead_alike {db db' : Database} {user : AuthContext}
    (rows : ∀ t : Uuid, user.tenantId = t.val →
      ownedBy Document.tenantId t.val db.documents = ownedBy Document.tenantId t.val db'.documents)
    (route : ReadRoute) : site.handleRead user db route = site.handleRead user db' route := by
  cases route with
  | me => rfl
  | list suffix =>
      rw [Site.handleRead, Site.handleRead]
      cases ListDocumentsQueryDto.receive site.lossy (suffix.drop 1) with
      | error messages => rfl
      | ok query =>
          simp only [Site.withTenant]
          cases uuid : Api.tenantUuid user.tenantId with
          | none => rfl
          | some t =>
              have filtered : ∀ d : Database, d.documents.filter
                  ((listWhere query).withTenantId t.scope.tenantId).holds =
                    (ownedBy Document.tenantId t.val d.documents).filter
                      ((listWhere query).withTenantId t.scope.tenantId).holds := fun d =>
                (filter_ownedBy (fun _ => Where.withTenantId_owner) _).symm
              simp only [listItems_eq, listTotal_eq, filtered, rows t (tenantUuid_some uuid).symm]
  | document id =>
      rw [Site.handleRead, Site.handleRead]
      split
      · simp only [Site.withTenant]
        cases uuid : Api.tenantUuid user.tenantId with
        | none => rfl
        | some t =>
            have found : ∀ d : Database, findUnique t.scope d id =
                (ownedBy Document.tenantId t.val d.documents).find? (selects t.val id) := fun d =>
              (findUnique_eq t.scope d id).trans (find?_ownedBy selects_owner _).symm
            simp only [findOne, found, rows t (tenantUuid_some uuid).symm]
      · rfl

theorem read_alike (h : b.Alike site.storage a b') (routed : site.endpoint request = none)
    (apart : site.concerns a m request b.stores.db = false) :
    site.read m request b.stores.db = site.read m request b'.stores.db := by
  rw [Api.concerns, routed] at apart
  rw [Site.read, Site.read]
  cases site.readRoute request with
  | none => rfl
  | some route =>
      simp only [Site.readOutcome, ← enter_alike h.accounts apart]
      cases entered : site.enter m .upload request b.stores.db with
      | error e => rfl
      | ok user =>
          obtain ⟨claims, context, rfl, sent, valid⟩ := enter_claims entered
          dsimp only at apart
          rw [any_of_eq_some sent, hasUser_of_validate valid, beq_eq_false_iff_ne] at apart
          dsimp only
          rw [handleRead_alike fun t own => h.rows fun same => apart (own.trans (congrArg _ same))]

theorem answer_alike {e : Backend.Event} (h : b.Alike site.storage a b')
    (apart : b.concerns site.toApi a e = false) (fresh : b.Fresh e) (fresh' : b'.Fresh e) :
    (site.step b e).2 = (site.step b' e).2 := by
  cases e with
  | request request m =>
      cases routed : site.endpoint request with
      | none => rw [Site.step_unserved routed, Site.step_unserved routed, read_alike h routed apart]
      | some e =>
          rw [Site.step_served routed, Site.step_served routed,
            (serve_alike h apart (fresh _ rfl) (fresh' _ rfl)).1]
  | worker | setUserStatus | setTenantStatus => rfl

/-- What concerns a tenant unwinds. -/
theorem Site.unwinds (site : Site) (a : Uuid) :
    Unwinds site.step (fun b e => b.concerns site.toApi a e) (Backend.Alike site.storage a)
      (Backend.Separated site.storage) Backend.Fresh where
  keeps b e h fresh := site.step_stores b e ▸ h.step fresh
  quiet b b' e h same own fresh := by
    rw [site.step_stores]
    exact (Backend.step_quiet h own fresh).trans same
  stays b b' e h h' same apart fresh fresh' := by
    rw [site.step_stores, site.step_stores]
    exact Backend.step_alike h h' same apart fresh fresh'
  answer b b' e _ _ same apart fresh fresh' := answer_alike same apart fresh fresh'

end Reads

section Ids
variable {api : Api} {m : Moment}

/-- Serving a request gives no id but the one generated for it. -/
theorem Served.ids {s s' : Stores} (served : Served api m s s') {d : Document}
    (hd : d ∈ s'.db.documents) : d ∈ s.db.documents ∨ d.id = m.uploading.documentUuid.val := by
  cases served with
  | same | noted => exact Or.inl hd
  | registered text dto taken =>
      exact Or.inl (register_documents api.auth m.now m.registering (RegisterDto.of dto) s.db ▸ hd)
  | uploaded payload user t file =>
      cases (upload_outcome api.storage t user.userId file m.uploading m.faults s).documents with
      | inl same => exact Or.inl (same ▸ hd)
      | inr added =>
          obtain ⟨f, -, added⟩ := added
          rw [added] at hd
          cases List.mem_append.mp hd with
          | inl old => exact Or.inl old
          | inr new => exact Or.inr (congrArg Document.id (List.mem_singleton.mp new))

theorem Backend.step_ids {b : Backend} {e : Event} {u : Uuid}
    (used : DocumentUsed (Backend.step api b e).1.system u) :
    DocumentUsed b.system u ∨ e.documentUuid = some u := by
  cases e with
  | request request m =>
      have served : Served api m b.stores (Backend.step api b (.request request m)).1.stores :=
        serve_served
      obtain ⟨r, hr, id⟩ := used
      obtain ⟨d, hd, rfl⟩ := mem_submissions.mp hr
      cases served.ids hd with
      | inl old => exact Or.inl ⟨d.submission, mem_submissions.mpr ⟨d, old, rfl⟩, id⟩
      | inr new => exact Or.inr (congrArg some (Uuid.val_inj.mp (new.symm.trans id)))
  | worker t act =>
      rw [DocumentUsed, worker_submissions] at used
      exact Or.inl used
  | setUserStatus | setTenantStatus => exact Or.inl used

theorem Site.along_fresh (site : Site) (tenants : List Tenant) (users : List User)
    (apiKeys : List ApiKey) {es : List Backend.Event}
    (nodup : (es.filterMap Backend.Event.documentUuid).Nodup) :
    Along site.step Backend.Fresh (.init tenants users apiKeys) es := by
  let used : Backend → Uuid → Prop := fun b u => DocumentUsed b.system u
  have unused : ∀ u, used (.init tenants users apiKeys) u →
      u ∉ es.filterMap Backend.Event.documentUuid := by
    rintro u ⟨r, hr, -⟩
    exact absurd hr List.not_mem_nil
  have grows : ∀ b e u, used (site.step b e).1 u → used b u ∨ e.documentUuid = some u := by
    intro b e u used
    change DocumentUsed _ u at used
    rw [site.step_stores] at used
    exact Backend.step_ids used
  refine (Machine.along_fresh site.step grows nodup unused).mono _ fun b e unused u gen d hd same => ?_
  exact unused u gen ⟨d.submission, mem_submissions.mpr ⟨d, hd, rfl⟩, same⟩

end Ids

/-- Outside the tenant the two have the same accounts, documents and files. -/
structure Backend.SameOutside (env : Env) (a : Uuid) (b b' : Backend) : Prop where
  tenants : foreign Tenant.id a.val b.stores.db.tenants = foreign Tenant.id a.val b'.stores.db.tenants
  users : foreign User.tenantId a.val b.stores.db.users =
    foreign User.tenantId a.val b'.stores.db.users
  documents : ∀ t : Uuid, t ≠ a → ownedBy Document.tenantId t.val b.stores.db.documents =
    ownedBy Document.tenantId t.val b'.stores.db.documents
  files : ∀ t : Uuid, t ≠ a → ∀ p : Place, p.parent = tenantDir env t.val →
    b.stores.files p = b'.stores.files p

theorem Backend.Alike.sameOutside {env : Env} {a : Uuid} {b b' : Backend} (h : b.Alike env a b') :
    b.SameOutside env a b' where
  tenants := foreign_concealed h.accounts.tenants fun _ => rfl
  users := foreign_concealed h.accounts.users fun _ => rfl
  documents _ other := h.rows other
  files _ other _ own := h.files other own

/-- Whatever the users and workers of one tenant do, and whatever becomes of its accounts:
all requests that do not concern it are answered as if none of that had happened, and the
others have the same accounts, documents and files. -/
theorem tenant_unobserved (site : Site) (tenants : List Tenant) (users : List User)
    (apiKeys : List ApiKey) (keyed : Database.Keyed ⟨tenants, users, apiKeys, []⟩)
    (es : List Backend.Event) (fresh : (es.filterMap Backend.Event.documentUuid).Nodup) (a : Uuid) :
    let concerns := fun b e => Backend.concerns site.toApi a b e
    let rest := purge site.step concerns (.init tenants users apiKeys) es
    observed site.step concerns (.init tenants users apiKeys) es =
        answers site.step (.init tenants users apiKeys) rest ∧
      Backend.SameOutside site.storage a (run site.step (.init tenants users apiKeys) es)
        (run site.step (.init tenants users apiKeys) rest) := by
  intro concerns rest
  have start : Backend.Separated site.storage (.init tenants users apiKeys) :=
    ⟨keyed, Contained.init [] [] []⟩
  have purged : (rest.filterMap Backend.Event.documentUuid).Nodup :=
    fresh.sublist ((purge_sublist _ _ _ _).filterMap _)
  obtain ⟨alike, same⟩ := (site.unwinds a).purged start start ⟨⟨rfl, rfl⟩, fun _ _ => rfl⟩
    (site.along_fresh tenants users apiKeys fresh) (site.along_fresh tenants users apiKeys purged)
  exact ⟨same, alike.sameOutside⟩

theorem tenant_unobserved_morning :
    let concerns := fun b e => Backend.concerns Site.Sample.site.toApi IdpSaas.Sample.acme b e
    let rest := purge Site.Sample.site.step concerns (.init [] [] []) Backend.Sample.morning
    observed Site.Sample.site.step concerns (.init [] [] []) Backend.Sample.morning =
      answers Site.Sample.site.step (.init [] [] []) rest :=
  (tenant_unobserved Site.Sample.site [] [] []
    ⟨List.nodup_nil, List.nodup_nil, List.nodup_nil, List.nodup_nil⟩ Backend.Sample.morning
    (by decide +kernel) IdpSaas.Sample.acme).1

end IdpSaas

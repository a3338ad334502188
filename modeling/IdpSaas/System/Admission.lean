import IdpSaas.Auth.Accounts
import IdpSaas.Client.Register
import IdpSaas.System.ContentCheck
import IdpSaas.System.CrossStore
import IdpSaas.System.Http

/-!
What gets past the pipes. Registrations bring bodies that the validation pipe has taken,
uploads bring files that the file pipe has; in every state the rows are made of such
values, whatever runs in between, and no document is one that the worker would reject.
-/

namespace IdpSaas
open Owned DocumentsService LocalStorageService ProcessingProcessor Machine

/-- The decorators of `RegisterDto`. -/
structure RegisterDto.Admitted (lib : Validator) (dto : RegisterDto) : Prop where
  tenantName : 2 ≤ lib.length dto.tenantName.toList ∧ lib.length dto.tenantName.toList ≤ 100
  tenantSlug : slugPattern.test dto.tenantSlug.toList = true ∧
    2 ≤ lib.length dto.tenantSlug.toList ∧ lib.length dto.tenantSlug.toList ≤ 40
  email : lib.isEmail dto.email.toList = true
  password : 8 ≤ lib.length dto.password.toList ∧ lib.length dto.password.toList ≤ 128
  fullName : ∃ name, dto.fullName = some name ∧ lib.length name.toList ≤ 100

structure Tenant.WellFormed (lib : Validator) (t : Tenant) : Prop where
  name : 2 ≤ lib.length t.name.toList ∧ lib.length t.name.toList ≤ 100
  slug : slugPattern.test t.slug.toList = true ∧
    2 ≤ lib.length t.slug.toList ∧ lib.length t.slug.toList ≤ 40

/-- The email and the hash are made of values that the pipe takes. -/
structure User.WellFormed (api : Api) (u : User) : Prop where
  email : ∃ given : String, api.lib.isEmail given.toList = true ∧
    u.email = api.auth.toLowerCase given
  password : ∃ given salt : String,
    (8 ≤ api.lib.length given.toList ∧ api.lib.length given.toList ≤ 128) ∧
      u.passwordHash = api.auth.bcrypt.hash given salt
  fullName : ∃ name, u.fullName = some name ∧ api.lib.length name.toList ≤ 100

/-- Users and tenants, and that each user has a tenant. -/
structure Database.AccountsSound (api : Api) (db : Database) : Prop where
  tenants : ∀ t ∈ db.tenants, t.WellFormed api.lib
  users : ∀ u ∈ db.users, u.WellFormed api
  ofTenant : ∀ u ∈ db.users, ∃ t ∈ db.tenants, t.id = u.tenantId

/-- The file pipe of the upload route: the size stays under its maximum, and content that
begins as a PDF is not recognised as an image. -/
structure Api.ChecksFiles (api : Api) : Prop where
  small : ∀ f, api.parseFile f = none → f.buffer.length < 10 * 1024 * 1024
  noPdf : ∀ f, api.parseFile f = none → ¬Carries "application/pdf" f.buffer

/-- An image of one of two types: what is in its row is true of what is in its file. -/
structure Document.Imaged (env : Env) (files : Files) (d : Document) : Prop where
  type : d.mimeType = "image/jpeg" ∨ d.mimeType = "image/png"
  small : d.sizeBytes < 10 * 1024 * 1024
  content : ∃ b, read env files d.storagePath = .ok b ∧ b.length = d.sizeBytes ∧
    d.checksumSha256 = some (env.sha256 b) ∧ Carries d.mimeType b

/-- The worker neither rejects a document as a PDF nor is about to. -/
structure Delivery.Unrejected (dl : Delivery) : Prop where
  wrote : .rejected ∉ dl.writes
  next : ∀ d, dl.pc ≠ .updateRejected d

section Pipes
variable {api : Api}

theorem RegisterDto.admitted {lib : Validator} {format : JsonValue.Format} {text : String}
    {v : JsonValue} (taken : ValidationPipe.receive lib format properties text = some (.ok v)) :
    (RegisterDto.of v).Admitted lib := by
  have field : ∀ p ∈ properties, ∃ s, textField v p.name = some s ∧
      ∀ c ∈ p.decorators, c.accepts lib (some (.string s)) = true := by
    have decorated : ∀ p ∈ properties, p.decorators ≠ [] := by simp [properties]
    exact fun p hp => ValidationPipe.receive_ok taken hp (decorated p hp)
  simp only [properties, List.forall_mem_cons, List.not_mem_nil, false_imp_iff, implies_true,
    and_true, Constraint.accepts, decide_eq_true_eq, true_and] at field
  obtain ⟨⟨name, hname, nameOk⟩, ⟨slug, hslug, slugOk⟩, ⟨email, hemail, emailOk⟩,
    ⟨password, hpassword, passwordOk⟩, ⟨fullName, hfullName, fullNameOk⟩⟩ := field
  constructor
  · rw [RegisterDto.of, hname]
    exact nameOk
  · rw [RegisterDto.of, hslug]
    exact ⟨slugOk.2.2, slugOk.1, slugOk.2.1⟩
  · rw [RegisterDto.of, hemail]
    exact emailOk
  · rw [RegisterDto.of, hpassword]
    exact passwordOk
  · exact ⟨fullName, hfullName, fullNameOk⟩

/-- A file that passes both checks is a JPEG or a PNG. -/
theorem Api.ChecksFiles.passed (checks : api.ChecksFiles) {f : MulterFile}
    (piped : api.parseFile f = none)
    (matched : magicBytesMatchMime f.buffer f.mimetype = true) :
    (f.mimetype = "image/jpeg" ∨ f.mimetype = "image/png") ∧ Carries f.mimetype f.buffer := by
  obtain ⟨-, carries, notWebp⟩ := (magicBytesMatchMime_iff _ _).mp matched
  refine ⟨?_, carries⟩
  by_contra neither
  rw [not_or] at neither
  by_cases pdf : f.mimetype = "application/pdf"
  · exact checks.noPdf f piped (pdf ▸ carries)
  · exact carries_other pdf neither.1 neither.2 notWebp carries

end Pipes

section Rows
variable {api : Api} {db : Database}

theorem User.wellFormed_fixed {u : User} : u.fixed.WellFormed api ↔ u.WellFormed api :=
  ⟨fun h => ⟨h.email, h.password, h.fullName⟩, fun h => ⟨h.email, h.password, h.fullName⟩⟩

/-- The rows that a registration creates are made of what the pipe has taken. -/
theorem Database.AccountsSound.register (h : db.AccountsSound api) {dto : RegisterDto}
    (admitted : dto.Admitted api.lib) (now : Time) (g : RegisterGenerated) :
    Database.AccountsSound api { db with
      tenants := db.tenants ++ [AuthService.newTenant now g dto]
      users := db.users ++ [AuthService.newOwner api.auth now g dto] } where
  tenants t ht := by
    cases List.mem_append.mp ht with
    | inl old => exact h.tenants t old
    | inr new =>
        rw [List.mem_singleton.mp new]
        exact ⟨admitted.tenantName, admitted.tenantSlug⟩
  users u hu := by
    cases List.mem_append.mp hu with
    | inl old => exact h.users u old
    | inr new =>
        rw [List.mem_singleton.mp new]
        exact ⟨⟨_, admitted.email, rfl⟩, ⟨_, _, admitted.password, rfl⟩, admitted.fullName⟩
  ofTenant u hu := by
    cases List.mem_append.mp hu with
    | inl old =>
        obtain ⟨t, ht, own⟩ := h.ofTenant u old
        exact ⟨t, List.mem_append_left _ ht, own⟩
    | inr new =>
        rw [List.mem_singleton.mp new]
        exact ⟨_, List.mem_append_right _ (List.mem_singleton.mpr rfl), rfl⟩

theorem Database.AccountsSound.empty (apiKeys : List ApiKey) :
    Database.AccountsSound api ⟨[], [], apiKeys, []⟩ :=
  ⟨fun _ ht => absurd ht List.not_mem_nil, fun _ hu => absurd hu List.not_mem_nil,
    fun _ hu => absurd hu List.not_mem_nil⟩

theorem Database.AccountsSound.editUsers (h : db.AccountsSound api) {edit : UserEdit}
    (fixed : ∀ u, (edit.apply u).fixed = u.fixed) : (db.editUsers edit).AccountsSound api where
  tenants := h.tenants
  users u hu := by
    obtain ⟨v, hv, rfl⟩ := List.mem_map.mp hu
    rw [← User.wellFormed_fixed, fixed, User.wellFormed_fixed]
    exact h.users v hv
  ofTenant u hu := by
    obtain ⟨v, hv, rfl⟩ := List.mem_map.mp hu
    rw [edit.tenantId]
    exact h.ofTenant v hv

theorem Database.AccountsSound.setTenantStatus (h : db.AccountsSound api) (id : String)
    (status : TenantStatus) : (db.setTenantStatus id status).AccountsSound api where
  tenants t ht := by
    obtain ⟨t', ht', rfl⟩ := mem_modify.mp ht
    have was := h.tenants t' ht'
    split
    · exact ⟨was.name, was.slug⟩
    · exact was
  users := h.users
  ofTenant u hu := by
    obtain ⟨t, ht, own⟩ := h.ofTenant u hu
    refine ⟨_, mem_modify.mpr ⟨t, ht, rfl⟩, ?_⟩
    split
    · exact own
    · exact own

/-- Where each user has a tenant, a token is never answered with an error of the database. -/
theorem Database.AccountsSound.validates (h : db.AccountsSound api) (payload : JwtPayload)
    (err : JsError) : JwtStrategy.validate api.auth db payload ≠ .error (.internal err) := by
  rw [JwtStrategy.validate]
  intro thrown
  cases found : db.users.find? fun u => u.id == payload.sub with
  | none =>
      simp only [found] at thrown
      cases thrown
  | some u =>
      obtain ⟨t, ht, own⟩ := h.ofTenant u (List.mem_of_find?_eq_some found)
      cases ofUser : db.tenants.find? fun t => t.id == u.tenantId with
      | none => exact List.find?_eq_none.mp ofUser t ht (beq_iff_eq.mpr own)
      | some t =>
          simp only [found, ofUser] at thrown
          repeat' split at thrown
          all_goals cases thrown

/-- So what the guards refuse a request with is their own. -/
theorem Database.AccountsSound.guards (h : db.AccountsSound api) (now : Time)
    (request : Request String) (err : JsError) :
    IdpSaas.guards api.auth api.passport db now request ≠ .error (.thrown (.internal err)) := by
  intro thrown
  rw [IdpSaas.guards] at thrown
  cases entered : JwtAuthGuard.canActivate api.auth api.passport db now request with
  | error e =>
      simp only [entered, Except.error.injEq] at thrown
      rw [JwtAuthGuard.canActivate, thrown] at entered
      split at entered
      · cases entered
      · cases settled : JwtStrategy.authenticate api.auth api.passport db now request.bearer with
        | success user | fail message =>
            rw [settled] at entered
            cases entered
        | error e =>
            rw [settled] at entered
            cases entered
            obtain ⟨payload, refused⟩ := JwtStrategy.authenticate_error settled
            exact h.validates payload err refused
  | ok user =>
      simp only [entered] at thrown
      cases allowed : RolesGuard.canActivate request.route user with
      | ok _ =>
          rw [allowed] at thrown
          cases thrown
      | error e =>
          obtain ⟨message, rfl⟩ := RolesGuard.canActivate_error allowed
          rw [allowed] at thrown
          cases thrown

end Rows

theorem Transition.tenants {env : Env} {s s' : State} {e : Event} (tr : Transition env s e s') :
    s'.db.tenants = s.db.tenants := by
  cases tr with
  | idle | listed | received | refused | saved | created | enqueued | delivered | crashed => rfl
  | worked t fate dl wrote exchange pc mem own move => cases wrote <;> rfl

/-- The handler rejects only a document that it has loaded as a PDF. -/
theorem Delivery.Unrejected.move {env : Env} {dl : Delivery} {db : Database} {files : Files}
    {wrote : Option DocumentWrite} {exchange : Option (OcrRequest × OcrReply)} {pc : HandlerPc}
    (h : dl.Unrejected) (image : ∀ d, dl.pc.document? = some d → d.mimeType ≠ "application/pdf")
    (move : Move env dl.job dl.attemptsMade db files dl.pc wrote exchange pc) :
    (dl.after pc wrote exchange).Unrejected := by
  obtain ⟨key, job, attemptsMade, pc₀, writes, exchanges⟩ := dl
  have next := h.next
  constructor
  · cases move with
    | found | read | answered | unanswered | unread | uncompleted | threw | idle =>
        simpa [Delivery.after] using h.wrote
    | claimed | claimedPdf | completed | countedFinal | counted | failed =>
        simpa [Delivery.after] using h.wrote
    | rejected d => exact absurd rfl (next d)
  · intro d rejecting
    cases move with
    | claimedPdf d' now pdf => exact image d' rfl pdf
    | idle pc done => exact next d rejecting
    | found | claimed | rejected | read | answered | unanswered | unread | uncompleted | completed |
      countedFinal | counted | failed | threw => cases rejecting

namespace Platform

/-- What an event brings in has passed the pipes, and a user is edited in status and times
only. -/
def Piped (api : Api) : Event → Prop
  | .register (.start call) => ∃ text v,
      ValidationPipe.receive api.lib api.format RegisterDto.properties text = some (.ok v) ∧
        call.dto = RegisterDto.of v
  | .editUsers edit => ∀ u, (edit.apply u).fixed = u.fixed
  | .system ⟨_, .upload _ _ file⟩ => ∀ f, file = some f → api.parseFile f = none
  | _ => True

/-- The rows, and what is under way, is made of what has passed. -/
structure Admitted (api : Api) (p : State) : Prop where
  accounts : p.system.db.AccountsSound api
  calls : ∀ r ∈ p.registrations, r.dto.Admitted api.lib
  files : ∀ c ∈ p.system.uploads, api.parseFile c.file = none ∧
    magicBytesMatchMime c.file.buffer c.file.mimetype = true
  deliveries : ∀ dl ∈ p.system.deliveries, dl.Unrejected

section Preservation
variable {api : Api} {p : State}

theorem Admitted.registered (h : Admitted api p) {e : Registration.Event} {s : Registration.State}
    (move : Registration.Move api.auth ⟨p.system.db, p.registrations⟩ e s)
    (piped : Piped api (.register e)) :
    Admitted api { p.withDb s.db with registrations := s.calls } := by
  cases move with
  | idle => exact h
  | started call =>
      obtain ⟨text, v, taken, same⟩ := piped
      refine ⟨h.accounts, Table.forall_insert h.calls ?_, h.files, h.deliveries⟩
      exact same ▸ RegisterDto.admitted taken
  | moved _ r mem pc =>
      exact ⟨h.accounts, Table.forall_put h.calls (h.calls r mem), h.files, h.deliveries⟩
  | created _ r mem free =>
      exact ⟨h.accounts.register (h.calls r mem) r.now r.generated,
        Table.forall_put h.calls (h.calls r mem), h.files, h.deliveries⟩

/-- What a document's row says of its type is what passed when it was uploaded. -/
theorem Admitted.image (h : Admitted api p) (sound : Sound api.storage p)
    (checks : api.ChecksFiles) {r : Submission} (hr : r ∈ p.system.submissions) :
    ∃ file, Submitted api.storage p.system r file ∧ file.buffer.length < 10 * 1024 * 1024 ∧
      (r.mimeType = "image/jpeg" ∨ r.mimeType = "image/png") ∧ Carries r.mimeType file.buffer := by
  obtain ⟨file, sub⟩ := sound.integrity.submitted r hr
  obtain ⟨c, hc, rfl, -⟩ := sub.call
  obtain ⟨piped, matched⟩ := h.files c hc
  rw [sub.mimeType]
  exact ⟨c.file, sub, checks.small _ piped, checks.passed piped matched⟩

theorem Admitted.moved (h : Admitted api p) (sound : Sound api.storage p)
    (checks : api.ChecksFiles) {e : IdpSaas.Event} {s : IdpSaas.State}
    (tr : Transition api.storage p.system e s) (piped : Piped api (.system e)) :
    Admitted api { p with system := s } := by
  have accounts : s.db.AccountsSound api := by
    have was := h.accounts
    exact ⟨tr.tenants ▸ was.tenants, tr.users ▸ was.users, tr.users ▸ tr.tenants ▸ was.ofTenant⟩
  refine ⟨accounts, h.calls, ?_, ?_⟩
  · cases tr with
    | idle | listed | delivered | worked | crashed => exact h.files
    | received t key userId file free checked =>
        exact Table.forall_insert h.files ⟨piped file rfl, checked⟩
    | refused _ c mem | saved t uuid c mem | created t uuid now c stored mem | enqueued t c _ mem =>
        exact Table.forall_put h.files (h.files c mem)
  · cases tr with
    | idle | listed | received | refused | saved | created | enqueued => exact h.deliveries
    | delivered t key job attemptsMade mem own free =>
        exact Table.forall_insert h.deliveries ⟨List.not_mem_nil, fun _ h => by cases h⟩
    | crashed t dl mem live =>
        exact Table.forall_put h.deliveries ⟨(h.deliveries dl mem).wrote, fun _ h => by cases h⟩
    | worked t fate dl wrote exchange pc mem own move =>
        refine Table.forall_put h.deliveries ((h.deliveries dl mem).move (fun d loaded => ?_) move)
        obtain ⟨hd, -⟩ := (sound.integrity.deliveries dl mem).loaded d loaded
        obtain ⟨file, -, -, type, -⟩ := h.image sound checks hd
        change d.mimeType = _ ∨ d.mimeType = _ at type
        cases type with
        | inl jpeg => rw [jpeg]; decide
        | inr png => rw [png]; decide

theorem Admitted.preserved (checks : api.ChecksFiles) (h : Admitted api p)
    (sound : Sound api.storage p) {e : Event} (piped : Piped api e) :
    Admitted api (step api.storage api.auth p e).1 := by
  cases e with
  | register e => exact h.registered (Registration.step_move api.auth _ e) piped
  | validate payload =>
      rw [step]
      cases JwtStrategy.validate api.auth p.system.db payload with
      | error e => exact h
      | ok context => exact ⟨h.accounts, h.calls, h.files, h.deliveries⟩
  | editUsers edit => exact ⟨h.accounts.editUsers piped, h.calls, h.files, h.deliveries⟩
  | setTenantStatus id status =>
      exact ⟨h.accounts.setTenantStatus id status, h.calls, h.files, h.deliveries⟩
  | system e =>
      rw [step]
      cases admits p.contexts e with
      | false => exact h
      | true => exact h.moved sound checks (step_transition api.storage p.system e) piped
  | writeFileFails t key uuid written err =>
      rw [step, State.writeFileFails]
      cases found : p.system.uploads.find? t.val key with
      | none => exact ⟨h.accounts, h.calls, h.files, h.deliveries⟩
      | some c =>
          have mem := (Table.find?_eq_some.mp found).1
          dsimp only
          cases c.pc with
          | save =>
              exact ⟨h.accounts, h.calls, Table.forall_put h.files (h.files c mem), h.deliveries⟩
          | create _ | add _ | ended => exact ⟨h.accounts, h.calls, h.files, h.deliveries⟩

theorem Admitted.init {tenants : List Tenant} {users : List User} {apiKeys : List ApiKey}
    (accounts : Database.AccountsSound api ⟨tenants, users, apiKeys, []⟩) :
    Admitted api (State.init tenants users apiKeys) where
  accounts := accounts
  calls r hr := absurd hr (Table.not_mem_empty r)
  files c hc := absurd hc (Table.not_mem_empty c)
  deliveries dl hdl := absurd hdl (Table.not_mem_empty dl)

/-- If what runs bring in has passed the pipes, it is so in every state they reach. -/
theorem Admitted.reached (checks : api.ChecksFiles) {tenants : List Tenant} {users : List User}
    {apiKeys : List ApiKey} (accounts : Database.AccountsSound api ⟨tenants, users, apiKeys, []⟩)
    {es : List Event} (fresh : (es.filterMap Event.fileUuid).Nodup)
    (piped : ∀ e ∈ es, Piped api e) :
    Sound api.storage (run (step api.storage api.auth) (State.init tenants users apiKeys) es) ∧
      Admitted api (run (step api.storage api.auth) (State.init tenants users apiKeys) es) := by
  have unused : Along (step api.storage api.auth)
      (fun p e => ∀ u, e.fileUuid = some u → ¬FileUsed api.storage p.system u)
      (State.init tenants users apiKeys) es := by
    refine along_fresh _ (fun p e u => (step_change _ _ p e).file_used) fresh fun u used => ?_
    obtain ⟨t, n, used⟩ := used
    exact absurd rfl used
  have preserved : ∀ p e, Sound api.storage p ∧ Admitted api p →
      (∀ u, e.fileUuid = some u → ¬FileUsed api.storage p.system u) ∧ Piped api e →
        Sound api.storage (step api.storage api.auth p e).1 ∧
          Admitted api (step api.storage api.auth p e).1 := by
    intro p e both ok
    exact ⟨both.1.preserved (step_change _ _ p e) ok.1, both.2.preserved checks both.1 ok.2⟩
  exact run_invariant (step api.storage api.auth) preserved
    ⟨.init _ tenants users apiKeys, .init accounts⟩ (unused.and _ (along_of_mem _ _ piped))

theorem Admitted.imaged (h : Admitted api p) (sound : Sound api.storage p)
    (checks : api.ChecksFiles) {d : Document} (hd : d ∈ p.system.db.documents) :
    d.Imaged api.storage p.system.files := by
  obtain ⟨file, sub, small, type, carries⟩ :=
    h.image sound checks (mem_submissions.mpr ⟨d, hd, rfl⟩)
  obtain ⟨tenant, uuid, -, path, content⟩ := sub.kept
  change d.storagePath = _ at path
  have size : d.sizeBytes = file.buffer.length := sub.sizeBytes
  exact ⟨type, size ▸ small, file.buffer, path ▸ read_saved api.storage content, size.symm,
    sub.checksumSha256, carries⟩

end Preservation

/-- In every state of every run the accounts are made of what the pipes take, and each
document is a JPEG or a PNG that its row describes. -/
theorem rows_well_formed (api : Api) (checks : api.ChecksFiles) (tenants : List Tenant)
    (users : List User) (apiKeys : List ApiKey)
    (accounts : Database.AccountsSound api ⟨tenants, users, apiKeys, []⟩) (es : List Event)
    (fresh : (es.filterMap Event.fileUuid).Nodup) (piped : ∀ e ∈ es, Piped api e) :
    let s := (run (step api.storage api.auth) (State.init tenants users apiKeys) es).system
    s.db.AccountsSound api ∧ ∀ d ∈ s.db.documents, d.Imaged api.storage s.files := by
  obtain ⟨sound, admitted⟩ := Admitted.reached checks accounts fresh piped
  exact ⟨admitted.accounts, fun d hd => admitted.imaged sound checks hd⟩

/-- In no state do the guards fail a request with an error of the database. -/
theorem guards_never_fail (api : Api) (checks : api.ChecksFiles) (tenants : List Tenant)
    (users : List User) (apiKeys : List ApiKey)
    (accounts : Database.AccountsSound api ⟨tenants, users, apiKeys, []⟩) (es : List Event)
    (fresh : (es.filterMap Event.fileUuid).Nodup) (piped : ∀ e ∈ es, Piped api e) (now : Time)
    (request : Request String) (err : JsError) :
    let s := (run (step api.storage api.auth) (State.init tenants users apiKeys) es).system
    guards api.auth api.passport s.db now request ≠ .error (.thrown (.internal err)) :=
  (Admitted.reached checks accounts fresh piped).2.accounts.guards now request err

/-- The worker never rejects a document as a PDF. -/
theorem no_document_rejected (api : Api) (checks : api.ChecksFiles) (tenants : List Tenant)
    (users : List User) (apiKeys : List ApiKey)
    (accounts : Database.AccountsSound api ⟨tenants, users, apiKeys, []⟩) (es : List Event)
    (fresh : (es.filterMap Event.fileUuid).Nodup) (piped : ∀ e ∈ es, Piped api e) :
    let s := (run (step api.storage api.auth) (State.init tenants users apiKeys) es).system
    ∀ dl ∈ s.deliveries, dl.Unrejected :=
  (Admitted.reached checks accounts fresh piped).2.deliveries

end Platform

namespace Api.Sample

def role (name : String) : UserRole :=
  if name = "OWNER" then .owner else if name = "ADMIN" then .admin else .member

/-- A time, with a character for each second. -/
def seconds (n : Nat) : String := String.ofList (List.replicate n '|')

def written (secret : String) (claims : JwtClaims) : JsonValue :=
  .array ([secret, claims.sub, claims.tenantId, claims.role.name, seconds claims.iat,
    seconds claims.exp].map .string)

def readToken (secret : String) (now : Nat) : Option JsonValue → Option JwtClaims
  | some (.array [.string signedWith, .string sub, .string tenantId, .string name, .string iat,
      .string exp]) =>
      if secret = signedWith ∧ now < exp.length then
        some ⟨⟨sub, tenantId, role name⟩, iat.length, exp.length⟩
      else none
  | _ => none

/-- Tokens that are the texts of their claims. -/
def jwt : Jwt String where
  seconds := Auth.Sample.env.jwt.seconds
  sign secret claims := (written secret claims).stringify .digits
  verify secret now token := readToken secret now (JsonValue.parse token)
  verify_sign secret signedWith now claims := by
    obtain ⟨⟨sub, tenantId, role'⟩, iat, exp⟩ := claims
    rw [JsonValue.parse_stringify (by simp [written])]
    have kept : role role'.name = role' := by cases role' <;> rfl
    simp [written, readToken, kept, seconds]

def auth : AuthEnv String where
  jwt := jwt
  bcrypt := Auth.Sample.env.bcrypt
  accessSecret := "access-secret"
  refreshSecret := "refresh-secret"
  accessExpiresIn := "15m"
  refreshExpiresIn := "7d"
  toLowerCase s := s
  uniqueConstraint := ⟨some "Unique constraint failed"⟩
  missingRelation := ⟨some "Inconsistent query result"⟩
  invalidExpiresIn := ⟨some "\"expiresIn\" should be a number of seconds or a timespan"⟩

/-- A type is recognised by its first bytes, and only this one is. -/
def parseFile (f : MulterFile) : Option String :=
  if f.buffer.length < 10 * 1024 * 1024 ∧ [0xff, 0xd8, 0xff] <+: f.buffer then none
  else some "Validation failed"

def bearerToken (header : String) : Option String :=
  if "Bearer ".toList <+: header.toList then some (String.ofList (header.toList.drop 7)) else none

def documentJson (d : Document) : JsonValue :=
  .object [("id", .string d.id), ("originalName", .string d.originalName)]

def api : Api where
  origin := "http://localhost:3001"
  apiPrefix := "/api/v1"
  auth := auth
  passport := ⟨fun _ _ _ => "invalid signature", fun _ _ _ _ _ _ => rfl⟩
  storage := IdpSaas.Sample.env
  lib := RegisterForm.Sample.lib
  format := .digits
  production := true
  reason _ := ""
  bearerToken := bearerToken
  parseFile := parseFile
  documentJson := documentJson

theorem checksFiles : api.ChecksFiles := by
  have passed : ∀ f, api.parseFile f = none →
      f.buffer.length < 10 * 1024 * 1024 ∧ [0xff, 0xd8, 0xff] <+: f.buffer := by
    intro f none
    by_contra refused
    rw [show api.parseFile f = _ from if_neg refused] at none
    cases none
  refine ⟨fun f none => (passed f none).1, fun f none pdf => ?_⟩
  obtain ⟨rest, buffer⟩ := (passed f none).2
  rw [carries_pdf, ← buffer] at pdf
  cases (List.cons_prefix_cons.mp pdf).1

/-- The body of a filled form. -/
def body : JsonValue :=
  .object (RegisterForm.members auth RegisterForm.Sample.named ++
    [("fullName", .string (trim RegisterForm.Sample.named.fullName))])

theorem body_taken :
    ValidationPipe.receive api.lib api.format RegisterDto.properties
      (RegisterForm.Sample.named.body api.format auth.toLowerCase) = some (.ok body) :=
  RegisterForm.body_received (fun _ _ => rfl) RegisterForm.Sample.named_filled (by decide +kernel)

open IdpSaas.Sample

def registration : Registration.Call where
  key := 0
  now := 0
  generated := ⟨acme.val, "user", "salt"⟩
  dto := RegisterDto.of body

/-- A registration, and an upload that is processed. -/
def day : List Platform.Event :=
  [.register (.start registration), .register (.lookup 0), .register (.transaction 0),
    .validate ⟨"user", acme.val, .owner⟩] ++
  (uploaded acme file1 doc1 ++ processed acme doc1).map .system

theorem day_fresh : (day.filterMap Platform.Event.fileUuid).Nodup := by decide +kernel

theorem day_piped : ∀ e ∈ day, Platform.Piped api e := by
  have scanned : ∀ f, some scan = some f → api.parseFile f = none := by
    intro f same
    cases same
    decide +kernel
  simp only [day, uploaded, processed, List.replicate, List.map, List.cons_append,
    List.nil_append, List.forall_mem_cons, List.not_mem_nil, false_imp_iff, implies_true, and_true,
    true_and, Platform.Piped]
  exact ⟨⟨_, _, body_taken, rfl⟩, scanned⟩

end Api.Sample

open Platform in
theorem rows_well_formed_day :
    let p := run (Platform.step Api.Sample.api.storage Api.Sample.api.auth)
      (Platform.State.init [] [] []) Api.Sample.day
    (p.system.db.AccountsSound Api.Sample.api ∧
      ∀ d ∈ p.system.db.documents, d.Imaged Api.Sample.api.storage p.system.files) ∧
      p.system.db.documents.map Document.status = [.completed] :=
  ⟨rows_well_formed Api.Sample.api Api.Sample.checksFiles [] [] [] (.empty []) Api.Sample.day
    Api.Sample.day_fresh Api.Sample.day_piped, by decide +kernel⟩

open Platform in
theorem guards_never_fail_day :
    let p := run (Platform.step Api.Sample.api.storage Api.Sample.api.auth)
      (Platform.State.init [] [] []) Api.Sample.day
    ∀ err, guards Api.Sample.api.auth Api.Sample.api.passport p.system.db 0
      ⟨⟨none, none, none, none⟩, none⟩ ≠ .error (.thrown (.internal err)) :=
  guards_never_fail Api.Sample.api Api.Sample.checksFiles [] [] [] (.empty []) Api.Sample.day
    Api.Sample.day_fresh Api.Sample.day_piped 0 ⟨⟨none, none, none, none⟩, none⟩

open Platform in
theorem no_document_rejected_day :
    let p := run (Platform.step Api.Sample.api.storage Api.Sample.api.auth)
      (Platform.State.init [] [] []) Api.Sample.day
    ∀ dl ∈ p.system.deliveries, dl.Unrejected :=
  no_document_rejected Api.Sample.api Api.Sample.checksFiles [] [] [] (.empty []) Api.Sample.day
    Api.Sample.day_fresh Api.Sample.day_piped

end IdpSaas

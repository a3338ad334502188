import IdpSaas.Auth.Registration
import IdpSaas.Auth.Sessions
import IdpSaas.System.Custody

/-!
The whole backend. Registrations and the document system share one database, and
`JwtStrategy.validate` stands between them: a request acts with a context that it has
given out at some time before. Users and tenants change meanwhile, but no user changes
tenant.
-/

namespace IdpSaas
open Owned DocumentsService LocalStorageService Machine

/-- A `writeFile` that fails has written some bytes. -/
def State.writeFileFails (env : Env) (s : State) (t : Uuid) (key : Nat) (uuid : Uuid)
    (written : Bytes) (err : JsError) : State × Option Response :=
  match s.uploads.find? t.val key with
  | some c =>
      match c.pc with
      | .save =>
          let place := Posix.locate (fullPath env t.val uuid c.file.originalname)
          State.refuse { s with files := s.files.write place written } c err
      | _ => (s, none)
  | none => (s, none)

/-- A change of a user's columns, such as a login or a suspension makes. -/
structure UserEdit where
  apply : User → User
  id : ∀ u, (apply u).id = u.id
  tenantId : ∀ u, (apply u).tenantId = u.tenantId

def Database.editUsers (db : Database) (edit : UserEdit) : Database :=
  { db with users := db.users.map edit.apply }

namespace Platform

structure State where
  system : IdpSaas.State
  registrations : Table Registration.Progress
  contexts : List AuthContext

def State.init (tenants : List Tenant) (users : List User) (apiKeys : List ApiKey) : State :=
  ⟨.init tenants users apiKeys, .empty, []⟩

inductive Event
  | register (e : Registration.Event)
  | validate (payload : JwtPayload)
  | editUsers (edit : UserEdit)
  | setTenantStatus (id : String) (status : TenantStatus)
  | system (e : IdpSaas.Event)
  | writeFileFails (t : Uuid) (key : Nat) (uuid : Uuid) (written : Bytes) (err : JsError)

inductive Answer (τ : Type)
  | registered (call : Registration.Call) (outcome : Registration.Outcome τ)
  | validated (result : Except HttpError AuthContext)
  | response (r : Response)

/-- A request is let in with a context for its tenant, and an upload is made for the
user of the context. -/
def admits (contexts : List AuthContext) (e : IdpSaas.Event) : Bool :=
  match e.action with
  | .upload _ userId _ =>
      contexts.any fun c => c.tenantId == e.tenant.val && c.userId == userId
  | .list _ _ | .findOne _ _ => contexts.any fun c => c.tenantId == e.tenant.val
  | _ => true

def State.withDb (p : State) (db : Database) : State :=
  { p with system := { p.system with db := db } }

section Machine
variable {τ : Type} (env : Env) (auth : AuthEnv τ)

def step (p : State) : Event → State × Option (Answer τ)
  | .register e =>
      let r := Registration.step auth ⟨p.system.db, p.registrations⟩ e
      ({ p.withDb r.1.db with registrations := r.1.calls }, r.2.map fun x => .registered x.1 x.2)
  | .validate payload =>
      match JwtStrategy.validate auth p.system.db payload with
      | .ok context =>
          ({ p with contexts := p.contexts ++ [context] }, some (.validated (.ok context)))
      | .error e => (p, some (.validated (.error e)))
  | .editUsers edit => (p.withDb (p.system.db.editUsers edit), none)
  | .setTenantStatus id status => (p.withDb (p.system.db.setTenantStatus id status), none)
  | .system e =>
      if admits p.contexts e then
        let r := IdpSaas.step env p.system e
        ({ p with system := r.1 }, r.2.map .response)
      else (p, none)
  | .writeFileFails t key uuid written err =>
      let r := p.system.writeFileFails env t key uuid written err
      ({ p with system := r.1 }, r.2.map .response)

end Machine
end Platform

/-- The database finds the user, in this tenant. -/
def Database.Employs (db : Database) (tenantId userId : String) : Prop :=
  ∃ u, (db.users.find? fun u => u.id == userId) = some u ∧ u.tenantId = tenantId

section Employs
variable {db : Database} {tenantId userId : String}

theorem Database.Employs.append (h : db.Employs tenantId userId) (tenants : List Tenant)
    (users : List User) :
    Database.Employs { db with tenants := tenants, users := db.users ++ users } tenantId
      userId := by
  obtain ⟨u, found, own⟩ := h
  exact ⟨u, by rw [List.find?_append, found]; rfl, own⟩

theorem Database.Employs.edit (h : db.Employs tenantId userId) (edit : UserEdit) :
    (db.editUsers edit).Employs tenantId userId := by
  obtain ⟨u, found, own⟩ := h
  refine ⟨edit.apply u, ?_, (edit.tenantId u).trans own⟩
  have same : (fun u : User => u.id == userId) ∘ edit.apply = fun u => u.id == userId :=
    funext fun u => congrArg (· == userId) (edit.id u)
  rw [Database.editUsers, List.find?_map, same, found]
  rfl

/-- A context is given out for a user of its tenant. -/
theorem employs_of_validate {τ : Type} {auth : AuthEnv τ} {payload : JwtPayload}
    {context : AuthContext} (h : JwtStrategy.validate auth db payload = .ok context) :
    db.Employs context.tenantId context.userId := by
  obtain ⟨u, t, found, -, -, -, -, rfl⟩ := JwtStrategy.validate_ok h
  have id := List.find?_some found
  rw [beq_iff_eq] at id
  exact ⟨u, by rw [id]; exact found, rfl⟩

/-- A registration adds rows, and nothing else. -/
theorem registration_step_db {τ : Type} (auth : AuthEnv τ) (s : Registration.State)
    (e : Registration.Event) :
    ∃ tenants users, (Registration.step auth s e).1.db =
      { s.db with tenants := tenants, users := s.db.users ++ users } := by
  have same : ∃ tenants users, s.db =
      { s.db with tenants := tenants, users := s.db.users ++ users } :=
    ⟨s.db.tenants, [], by rw [List.append_nil]⟩
  cases e with
  | start call => exact same
  | lookup key =>
      rw [Registration.step, Registration.lookup]
      repeat' split
      all_goals exact same
  | transaction key =>
      rw [Registration.step, Registration.transaction]
      split
      · next call _ =>
          rw [AuthService.createTenantAndOwner_eq]
          split
          · next err failed => exact same
          · next tenant user db created =>
              split at created
              · cases created
                exact ⟨_, [_], rfl⟩
              · cases created
      · exact same

end Employs

/-- No event of the document system touches users. -/
theorem Transition.users {env : Env} {s s' : State} {e : Event} (tr : Transition env s e s') :
    s'.db.users = s.db.users := by
  cases tr with
  | idle | listed | received | refused | saved | created | enqueued | delivered | crashed => rfl
  | worked t fate dl wrote exchange pc mem own move => cases wrote <;> rfl

theorem State.MadeFor.mono {s s' : State} {employs employs' : String → String → Prop}
    (h : s.MadeFor employs) (uploads : s'.uploads = s.uploads)
    (submissions : s'.submissions = s.submissions)
    (keeps : ∀ t u, employs t u → employs' t u) : s'.MadeFor employs' where
  uploads c hc := keeps _ _ (h.uploads c (uploads ▸ hc))
  documents r hr := keeps _ _ (h.documents r (submissions ▸ hr))

namespace Platform

/-- What one event does to the platform: it changes accounts only, gives out a context, or
moves the document system. -/
inductive Change (env : Env) (p : State) : Event → State → Prop
  | idle (e : Event) : Change env p e p
  | accounts (e : Event) (db : Database) (registrations : Table Registration.Progress)
      (documents : db.documents = p.system.db.documents)
      (keeps : ∀ t u, p.system.db.Employs t u → db.Employs t u) :
      Change env p e { p.withDb db with registrations := registrations }
  | granted (payload : JwtPayload) (context : AuthContext)
      (employs : p.system.db.Employs context.tenantId context.userId) :
      Change env p (.validate payload) { p with contexts := p.contexts ++ [context] }
  | moved (e : IdpSaas.Event) (s : IdpSaas.State) (admitted : admits p.contexts e = true)
      (tr : Transition env p.system e s) : Change env p (.system e) { p with system := s }
  | spilled (t : Uuid) (uuid : Uuid) (written : Bytes) (err : JsError) (c : UploadCall)
      (mem : c ∈ p.system.uploads) :
      Change env p (.writeFileFails t c.key uuid written err)
        { p with system :=
            { p.system with
              files := p.system.files.write
                (Posix.locate (fullPath env t.val uuid c.file.originalname)) written
              uploads := p.system.uploads.put { c with pc := .ended } } }

theorem step_change {τ : Type} (env : Env) (auth : AuthEnv τ) (p : State) (e : Event) :
    Change env p e (step env auth p e).1 := by
  cases e with
  | register e =>
      obtain ⟨tenants, users, added⟩ :=
        registration_step_db auth ⟨p.system.db, p.registrations⟩ e
      refine .accounts _ _ _ ?_ fun t u employs => ?_
      · rw [added]
      · rw [added]
        exact employs.append tenants users
  | validate payload =>
      rw [step]
      cases valid : JwtStrategy.validate auth p.system.db payload with
      | error e => exact .idle _
      | ok context => exact .granted payload context (employs_of_validate valid)
  | editUsers edit => exact .accounts _ _ p.registrations rfl fun t u employs => employs.edit edit
  | setTenantStatus id status => exact .accounts _ _ p.registrations rfl fun t u employs => employs
  | system e =>
      rw [step]
      cases admitted : admits p.contexts e with
      | false => exact .idle _
      | true => exact .moved e _ admitted (step_transition env p.system e)
  | writeFileFails t key uuid written err =>
      rw [step, State.writeFileFails]
      cases found : p.system.uploads.find? t.val key with
      | none => exact .idle _
      | some c =>
          obtain ⟨mem, addr⟩ := Table.find?_eq_some.mp found
          obtain ⟨own, rfl⟩ := address_eq.mp addr
          dsimp only
          cases c.pc with
          | save => exact .spilled t uuid written err c mem
          | create _ | add _ | ended => exact .idle _

/-- The id generated for a file to be written. -/
def Event.fileUuid : Event → Option Uuid
  | .system e => e.fileUuid
  | .writeFileFails _ _ uuid _ _ => some uuid
  | _ => none

theorem Change.file_used {env : Env} {p p' : State} {e : Event} (ch : Change env p e p')
    {u : Uuid} (h : FileUsed env p'.system u) :
    FileUsed env p.system u ∨ e.fileUuid = some u := by
  cases ch with
  | idle | accounts | granted => exact Or.inl h
  | moved e s admitted tr => exact tr.file_used h
  | spilled t uuid written err c mem =>
      have used := fileUsed_write (s := p.system) (n := c.file.originalname) (b := written) h
      exact used.imp_right (congrArg some)

end Platform
end IdpSaas

import IdpSaas.System.State

/-!
`upload` as one call, with the failures of its three awaited calls as inputs. It writes
to the upload directory, the table of documents and the queue one after the other and
undoes nothing, so it is atomic exactly when no call fails after one that has written.
-/

namespace IdpSaas
open Owned DocumentsService LocalStorageService Posix

/-- The three stores that an upload writes to. -/
structure Stores where
  db : Database
  files : Files
  queue : List Job

def State.stores (s : State) : Stores := ⟨s.db, s.files, s.queue⟩

/-- A write that fails may leave content in the place of the file. -/
structure SaveFault where
  error : JsError
  leaves : Option Bytes

structure UploadFaults where
  save : Option SaveFault
  create : Option JsError
  add : Option JsError

structure UploadGenerated where
  fileUuid : Uuid
  documentUuid : Uuid
  now : Time

namespace DocumentsService
variable (env : Env) (t : Uuid)

/-- `storage.save` or its failure. -/
def saveOr (fault : Option SaveFault) (uuid : Uuid) (file : MulterFile) (files : Files) :
    Except JsError StoredFile × Files :=
  match fault with
  | none =>
      let saved := LocalStorageService.save env t.val uuid file.buffer file.originalname files
      (.ok saved.1, saved.2)
  | some fault =>
      (.error fault.error,
        match fault.leaves with
        | none => files
        | some b => files.write (locate (fullPath env t.val uuid file.originalname)) b)

/-- `document.create` or its failure. -/
def createOr (fault : Option JsError) (g : UploadGenerated) (fields : Document.CreateFields)
    (db : Database) : Except JsError (Document × Database) :=
  match fault with
  | none => create env t.scope ⟨g.documentUuid.val, g.now⟩ fields db
  | some err => .error err

def upload (userId : String) (file : Option MulterFile) (g : UploadGenerated)
    (faults : UploadFaults) (s : Stores) : Except HttpError Document × Stores :=
  match checkFile file with
  | .error e => (.error e, s)
  | .ok file =>
      match saveOr env t faults.save g.fileUuid file s.files with
      | (.error err, files) => (.error (.internal err), { s with files := files })
      | (.ok stored, files) =>
          match createOr env t faults.create g (createFields userId file stored) s.db with
          | .error err => (.error (.internal err), { s with files := files })
          | .ok (document, db) =>
              match faults.add with
              | some err => (.error (.internal err), { s with db := db, files := files })
              | none =>
                  (.ok document, ⟨db, files, s.queue ++ [processDocumentJob document t.val]⟩)

end DocumentsService

/-- One document, one file and one job have been added for the upload. -/
structure Added (env : Env) (t : Uuid) (file : Option MulterFile) (document : Document)
    (before after : Stores) : Prop where
  pending : document.status = .pending
  owner : document.tenantId = t.val
  new : ∀ d ∈ before.db.documents, d.id ≠ document.id
  db : after.db = { before.db with documents := before.db.documents ++ [document] }
  files : ∃ f, file = some f ∧
    let place := locate (join [env.uploadDir.toList, document.storagePath.toList])
    before.files place = none ∧ after.files = before.files.write place f.buffer
  queue : after.queue = before.queue ++ [processDocumentJob document t.val]

/-- Nothing has changed when the upload throws, and all three are there when it returns. -/
structure UploadAtomic (env : Env) (t : Uuid) (file : Option MulterFile) (before : Stores)
    (outcome : Except HttpError Document × Stores) : Prop where
  throws : ∀ e, outcome.1 = .error e → outcome.2 = before
  returns : ∀ document, outcome.1 = .ok document → Added env t file document before outcome.2

/-- The row is created when the call does not fail and its id is free. -/
def Creates (g : UploadGenerated) (faults : UploadFaults) (db : Database) : Prop :=
  faults.create = none ∧ ∀ d ∈ db.documents, d.id ≠ g.documentUuid.val

instance (g : UploadGenerated) (faults : UploadFaults) (db : Database) :
    Decidable (Creates g faults db) := inferInstanceAs (Decidable (_ ∧ _))

/-- A file past the check: either nothing has been written when a call fails, or all
calls succeed and the place of the file was unused. -/
def Clean (env : Env) (t : Uuid) (f : MulterFile) (g : UploadGenerated) (faults : UploadFaults)
    (s : Stores) : Prop :=
  let place := savedPlace env t.val g.fileUuid f.originalname
  match faults.save with
  | some fault => ∀ b ∈ fault.leaves, s.files place = some b
  | none =>
      if Creates g faults s.db then faults.add = none ∧ s.files place = none
      else s.files place = some f.buffer

/-- The file is refused, or its upload is clean. -/
def Undamaged (env : Env) (t : Uuid) (file : Option MulterFile) (g : UploadGenerated)
    (faults : UploadFaults) (s : Stores) : Prop :=
  ∀ f, checkFile file = .ok f → Clean env t f g faults s

section Atomic
variable {env : Env} {t : Uuid} {file : Option MulterFile} {s s' : Stores}

theorem Files.write_eq_self {files : Files} {p : Place} {b : Bytes} :
    files.write p b = files ↔ files p = some b := by
  constructor
  · intro same
    rw [← same]
    exact if_pos rfl
  · intro there
    funext q
    rw [Files.write]
    split
    · next at_place => rw [at_place, there]
    · rfl

theorem checkFile_ok {f : MulterFile} (h : checkFile file = .ok f) : file = some f := by
  cases file with
  | none => cases h
  | some f' =>
      rw [checkFile] at h
      split at h
      · cases h
        rfl
      · cases h

/-- An upload that throws is atomic when it has changed nothing. -/
theorem atomic_error {e : HttpError} : UploadAtomic env t file s (.error e, s') ↔ s' = s := by
  constructor
  · exact fun atomic => atomic.throws e rfl
  · exact fun same => ⟨fun _ _ => same, fun _ returned => by cases returned⟩

theorem atomic_ok {document : Document} :
    UploadAtomic env t file s (.ok document, s') ↔ Added env t file document s s' := by
  constructor
  · exact fun atomic => atomic.returns document rfl
  · refine fun added => ⟨fun _ thrown => ?_, fun _ returned => ?_⟩
    · cases thrown
    · cases returned
      exact added

theorem createOr_ok {g : UploadGenerated} {faults : UploadFaults} {db : Database}
    (creates : Creates g faults db) (fields : Document.CreateFields) :
    createOr env t faults.create g fields db =
      .ok (Document.build ⟨g.documentUuid.val, g.now⟩ fields t.val,
        { db with documents :=
            db.documents ++ [Document.build ⟨g.documentUuid.val, g.now⟩ fields t.val] }) := by
  have free : ¬(db.documents.any fun d => d.id == g.documentUuid.val) = true := by
    rw [List.any_eq_true]
    rintro ⟨d, mem, same⟩
    exact creates.2 d mem (beq_iff_eq.mp same)
  rw [creates.1, createOr, create_eq, if_neg free]
  rfl

theorem createOr_error (env : Env) (t : Uuid) {g : UploadGenerated} {faults : UploadFaults}
    {db : Database} (refused : ¬Creates g faults db) :
    ∃ err, ∀ fields, createOr env t faults.create g fields db = .error err := by
  cases fails : faults.create with
  | some err => exact ⟨err, fun _ => rfl⟩
  | none =>
      have taken : (db.documents.any fun d => d.id == g.documentUuid.val) = true := by
        rw [List.any_eq_true]
        by_contra free
        refine refused ⟨fails, fun d mem same => free ⟨d, mem, ?_⟩⟩
        exact beq_iff_eq.mpr same
      exact ⟨_, fun fields => by rw [createOr, create_eq, if_pos taken]⟩

/-- The row that an upload creates. -/
def newDocument (env : Env) (t : Uuid) (userId : String) (f : MulterFile) (g : UploadGenerated) :
    Document :=
  Document.build ⟨g.documentUuid.val, g.now⟩
    (createFields userId f
      (LocalStorageService.save env t.val g.fileUuid f.buffer f.originalname fun _ => none).1) t.val

/-- What a whole upload adds is one of each when the place of its file was unused. -/
theorem added_iff {userId : String} {f : MulterFile} {g : UploadGenerated}
    (new : ∀ d ∈ s.db.documents, d.id ≠ g.documentUuid.val) :
    Added env t (some f) (newDocument env t userId f g) s
        ⟨{ s.db with documents := s.db.documents ++ [newDocument env t userId f g] },
          s.files.write (savedPlace env t.val g.fileUuid f.originalname) f.buffer,
          s.queue ++ [processDocumentJob (newDocument env t userId f g) t.val]⟩ ↔
      s.files (savedPlace env t.val g.fileUuid f.originalname) = none := by
  have place : locate (join [env.uploadDir.toList,
      (newDocument env t userId f g).storagePath.toList]) =
        savedPlace env t.val g.fileUuid f.originalname := locate_storagePath env t _ _
  constructor
  · intro added
    obtain ⟨f', same, unused, -⟩ := added.files
    rwa [place] at unused
  · intro unused
    exact ⟨rfl, rfl, new, rfl, ⟨f, rfl, by rw [place]; exact ⟨unused, rfl⟩⟩, rfl⟩

theorem files_eq_iff {files : Files} : ({ s with files := files } : Stores) = s ↔ files = s.files := by
  constructor
  · exact fun same => congrArg Stores.files same
  · rintro rfl
    rfl

/-- The place written to is the one that `Clean` speaks of. -/
theorem save_files (f : MulterFile) (uuid : Uuid) (files : Files) :
    (LocalStorageService.save env t.val uuid f.buffer f.originalname files).2 =
      files.write (savedPlace env t.val uuid f.originalname) f.buffer := by
  rw [LocalStorageService.save, locate_fullPath]

theorem failed_save_files (fault : SaveFault) (f : MulterFile) (uuid : Uuid) (files : Files) :
    (saveOr env t (some fault) uuid f files).2 = files ↔
      ∀ b ∈ fault.leaves, files (savedPlace env t.val uuid f.originalname) = some b := by
  rw [saveOr]
  cases fault.leaves with
  | none => simp
  | some left =>
      dsimp only
      rw [locate_fullPath, Files.write_eq_self]
      simp

/-- An upload is atomic exactly when it is refused or fails before anything is written,
or all three calls succeed and the place of the file was unused. -/
theorem upload_atomic_iff (env : Env) (t : Uuid) (userId : String) (file : Option MulterFile)
    (g : UploadGenerated) (faults : UploadFaults) (s : Stores) :
    UploadAtomic env t file s (upload env t userId file g faults s) ↔
      Undamaged env t file g faults s := by
  rw [Undamaged]
  cases checked : checkFile file with
  | error e =>
      rw [upload, checked]
      refine ⟨fun _ f accepted => ?_, fun _ => atomic_error.mpr rfl⟩
      cases accepted
  | ok f =>
      obtain rfl := checkFile_ok checked
      simp only [Except.ok.injEq, forall_eq', upload, checked, Clean]
      cases saves : faults.save with
      | some fault => exact atomic_error.trans (files_eq_iff.trans (failed_save_files fault f _ _))
      | none =>
          by_cases creates : Creates g faults s.db
          · simp only [saveOr, createOr_ok creates, if_pos creates]
            cases adds : faults.add with
            | some err =>
                simp only [atomic_error, reduceCtorEq, false_and, iff_false]
                intro same
                have longer := congrArg (fun s => s.db.documents.length) same
                simp at longer
            | none =>
                simp only [atomic_ok, save_files, true_and]
                exact added_iff creates.2
          · obtain ⟨err, refused⟩ := createOr_error env t creates
            simp only [saveOr, refused, if_neg creates]
            rw [atomic_error, files_eq_iff, save_files, Files.write_eq_self]

end Atomic

namespace Sample

def generated : UploadGenerated := ⟨file1, doc1, 5⟩

def redisDown : UploadFaults where
  save := none
  create := none
  add := some ⟨some "connect ECONNREFUSED 127.0.0.1:6379"⟩

def noUploads : Stores := (State.init [] [] []).stores

end Sample

/-- A job that cannot be queued leaves its document, which stays pending, and its file. -/
theorem unqueued_upload_remains :
    ¬UploadAtomic Sample.env Sample.acme (some Sample.scan) Sample.noUploads
      (upload Sample.env Sample.acme "user" (some Sample.scan) Sample.generated Sample.redisDown
        Sample.noUploads) := by
  intro atomic
  have same := congrArg (fun s => s.db.documents.length) (atomic.throws
    (.internal ⟨some "connect ECONNREFUSED 127.0.0.1:6379"⟩) (by decide +kernel))
  exact absurd same (by decide +kernel)

section Alone
variable (env : Env)

def answer : Except HttpError Document → Response
  | .ok document => .document document
  | .error e => .error e

/-- The answers and the stores of a run. -/
def alone (s : State) (es : List Event) : List Response × Stores :=
  ((Machine.answers (step env) s es).map Prod.snd, (Machine.run (step env) s es).stores)

def saveEvent (t : Uuid) (key : Nat) (g : UploadGenerated) (faults : UploadFaults) : Event :=
  ⟨t, .storageSave key g.fileUuid (faults.save.map SaveFault.error)⟩

def createEvent (t : Uuid) (key : Nat) (g : UploadGenerated) (faults : UploadFaults) : Event :=
  ⟨t, .documentCreate key g.documentUuid g.now faults.create⟩

def addEvent (t : Uuid) (key : Nat) (faults : UploadFaults) : Event := ⟨t, .queueAdd key faults.add⟩

variable {env} {s : State} {t : Uuid} {key : Nat} {g : UploadGenerated} {faults : UploadFaults}

theorem alone_cons (e : Event) (es : List Event) :
    alone env s (e :: es) =
      ((step env s e).2.toList ++ (alone env (step env s e).1 es).1,
        (alone env (step env s e).1 es).2) := by
  rw [alone, Machine.answers, Machine.run, List.map_append]
  cases (step env s e).2 <;> rfl

/-- No upload is under way at the address. -/
def Idle (s : State) (t : Uuid) (key : Nat) : Prop :=
  ∀ c, s.uploads.find? t.val key = some c → c.pc = .ended

/-- The awaited calls of an upload settle only while one is under way. -/
theorem Idle.still (env : Env) (idle : Idle s t key) (faults : UploadFaults) :
    (∀ g, step env s (saveEvent t key g faults) = (s, none) ∧
      step env s (createEvent t key g faults) = (s, none)) ∧
      step env s (addEvent t key faults) = (s, none) := by
  simp only [step, saveEvent, createEvent, addEvent, State.storageSave, State.documentCreate,
    State.queueAdd]
  cases found : s.uploads.find? t.val key with
  | none => exact ⟨fun _ => ⟨rfl, rfl⟩, rfl⟩
  | some c => simp only [idle c found, and_self, implies_true]

theorem idle_add (idle : Idle s t key) : alone env s [addEvent t key faults] = ([], s.stores) := by
  rw [alone_cons, (idle.still env faults).2]
  rfl

theorem idle_create (idle : Idle s t key) :
    alone env s [createEvent t key g faults, addEvent t key faults] = ([], s.stores) := by
  rw [alone_cons, ((idle.still env faults).1 g).2, idle_add idle]
  rfl

theorem idle_save (idle : Idle s t key) :
    alone env s [saveEvent t key g faults, createEvent t key g faults, addEvent t key faults] =
      ([], s.stores) := by
  rw [alone_cons, ((idle.still env faults).1 g).1, idle_create idle]
  rfl

/-- A call that has failed is no longer under way. -/
theorem idle_refuse {c : UploadCall} (found : s.uploads.find? t.val key = some c) (err : JsError) :
    Idle (s.refuse c err).1 t key := by
  intro c' found'
  have next : (s.uploads.put { c with pc := .ended }).find? t.val key =
      some { c with pc := .ended } := Table.find?_put_same found rfl
  cases next.symm.trans found'
  rfl

theorem alone_add {c : UploadCall} {document : Document}
    (found : s.uploads.find? t.val key = some c) (pc : c.pc = .add document) :
    alone env s [addEvent t key faults] =
      match faults.add with
      | some err => ([.error (.internal err)], s.stores)
      | none => ([.document document],
          { s.stores with queue := s.queue ++ [processDocumentJob document t.val] }) := by
  rw [alone_cons, show step env s (addEvent t key faults) = s.queueAdd t key faults.add from rfl,
    State.queueAdd, found]
  simp only [pc]
  cases faults.add <;> rfl

theorem alone_create {c : UploadCall} {stored : StoredFile}
    (found : s.uploads.find? t.val key = some c) (pc : c.pc = .create stored) :
    alone env s [createEvent t key g faults, addEvent t key faults] =
      match createOr env t faults.create g (createFields c.userId c.file stored) s.db with
      | .error err => ([.error (.internal err)], s.stores)
      | .ok (document, db) =>
          match faults.add with
          | some err => ([.error (.internal err)], { s.stores with db := db })
          | none => ([.document document],
              { s.stores with
                db := db
                queue := s.queue ++ [processDocumentJob document t.val] }) := by
  rw [alone_cons, show step env s (createEvent t key g faults) =
      s.documentCreate env t key g.documentUuid g.now faults.create from rfl,
    State.documentCreate, found]
  simp only [pc]
  cases fails : faults.create with
  | some err =>
      simp only [createOr]
      rw [idle_add (idle_refuse found err)]
      rfl
  | none =>
      simp only [createOr]
      cases made : create env t.scope ⟨g.documentUuid.val, g.now⟩
          (createFields c.userId c.file stored) s.db with
      | error err =>
          simp only
          rw [idle_add (idle_refuse found err)]
          rfl
      | ok row =>
          have next : (s.uploads.put { c with pc := .add row.1, created := some row.1 }).find?
              t.val key = some { c with pc := .add row.1, created := some row.1 } :=
            Table.find?_put_same found rfl
          simp only
          rw [alone_add next rfl]
          cases faults.add <;> rfl

/-- A failed write leaves nothing here. -/
theorem alone_save {c : UploadCall} (found : s.uploads.find? t.val key = some c)
    (pc : c.pc = .save) (clear : ∀ fault ∈ faults.save, fault.leaves = none) :
    alone env s [saveEvent t key g faults, createEvent t key g faults, addEvent t key faults] =
      match saveOr env t faults.save g.fileUuid c.file s.files with
      | (.error err, files) => ([.error (.internal err)], { s.stores with files := files })
      | (.ok stored, files) =>
          match createOr env t faults.create g (createFields c.userId c.file stored) s.db with
          | .error err => ([.error (.internal err)], { s.stores with files := files })
          | .ok (document, db) =>
              match faults.add with
              | some err => ([.error (.internal err)], { s.stores with db := db, files := files })
              | none => ([.document document],
                  ⟨db, files, s.queue ++ [processDocumentJob document t.val]⟩) := by
  rw [alone_cons, show step env s (saveEvent t key g faults) =
      s.storageSave env t key g.fileUuid (faults.save.map SaveFault.error) from rfl,
    State.storageSave, found]
  simp only [pc]
  cases fails : faults.save with
  | some fault =>
      simp only [Option.map_some, saveOr, clear fault fails]
      rw [idle_create (idle_refuse found fault.error)]
      rfl
  | none =>
      let saved :=
        LocalStorageService.save env t.val g.fileUuid c.file.buffer c.file.originalname s.files
      have next : (s.uploads.put { c with pc := .create saved.1 }).find? t.val key =
          some { c with pc := .create saved.1 } := Table.find?_put_same found rfl
      simp only [Option.map_none, saveOr]
      rw [alone_create next rfl]
      simp only [Option.toList_none, List.nil_append]
      cases createOr env t faults.create g (createFields c.userId c.file saved.1) s.db with
      | error err => rfl
      | ok row =>
          cases faults.add <;> rfl

/-- The steps of an upload with nothing in between do what the whole call does. -/
theorem alone_upload (userId : String) (file : Option MulterFile)
    (free : s.uploads.find? t.val key = none)
    (clear : ∀ fault ∈ faults.save, fault.leaves = none) :
    alone env s [⟨t, .upload key userId file⟩, saveEvent t key g faults, createEvent t key g faults,
        addEvent t key faults] =
      ([answer (upload env t userId file g faults s.stores).1],
        (upload env t userId file g faults s.stores).2) := by
  rw [alone_cons, show step env s ⟨t, .upload key userId file⟩ = s.upload t key userId file from rfl,
    State.upload, free]
  simp only [upload]
  cases checked : checkFile file with
  | error e =>
      have idle : Idle s t key := fun c found => by
        rw [free] at found
        cases found
      simp only
      rw [idle_save idle]
      rfl
  | ok f =>
      have next : (s.uploads.insert ⟨t.val, key, userId, f, .save, none⟩).find? t.val key =
          some ⟨t.val, key, userId, f, .save, none⟩ := Table.find?_insert_self free
      simp only
      rw [alone_save next rfl clear]
      simp only [Option.toList_none, List.nil_append, State.stores]
      obtain ⟨saved, files⟩ := saveOr env t faults.save g.fileUuid f s.files
      cases saved with
      | error err => rfl
      | ok stored =>
          simp only
          cases createOr env t faults.create g (createFields userId f stored) s.db with
          | error err => rfl
          | ok row => cases faults.add <;> rfl

end Alone
end IdpSaas

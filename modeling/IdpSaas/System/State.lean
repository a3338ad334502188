import IdpSaas.Processing.Processor
import IdpSaas.Lib.Machine
import IdpSaas.Lib.Table

/-!
The running system: one database, one upload directory and one queue, shared by the
requests and deliveries of all tenants. A request or a delivery is suspended at its
awaits; an event starts one, lets one of its awaited calls settle, or crashes a
worker. The queue delivers at least once: a job may be delivered any number of
times, with any count of earlier attempts. Calls are addressed by their tenant and a
key; an event that addresses nothing has no effect.
-/

namespace IdpSaas
open Owned DocumentsService

inductive UploadPc
  | save
  | create (stored : StoredFile)
  | add (document : Document)
  | ended
  deriving DecidableEq, Repr

/-- A call of `upload` past its checks. `created` is the row it has created. -/
structure UploadCall where
  tenantId : String
  key : Nat
  userId : String
  file : MulterFile
  pc : UploadPc
  created : Option Document
  deriving DecidableEq, Repr

/-- A call of `list`: the results of its two queries as far as they have come in. -/
structure ListCall where
  tenantId : String
  key : Nat
  query : ListDocumentsQueryDto
  items : Option (List Document)
  total : Option Nat
  ended : Bool

/-- A delivery of a job to the handler. `writes` and `exchanges` record what it has
written to its row and what it has asked the OCR service, with the replies. -/
structure Delivery where
  key : Nat
  job : Job
  attemptsMade : Nat
  pc : HandlerPc
  writes : List DocumentWrite
  exchanges : List (OcrRequest × OcrReply)

/-- The delivery after a step: where it is next, and what the step adds to its record. -/
def Delivery.after (d : Delivery) (pc : HandlerPc) (wrote : Option DocumentWrite)
    (exchange : Option (OcrRequest × OcrReply)) : Delivery :=
  { d with
    pc := pc
    writes := d.writes ++ wrote.toList
    exchanges := d.exchanges ++ exchange.toList }

theorem Delivery.after_none (d : Delivery) (pc : HandlerPc) :
    { d with pc := pc } = d.after pc none none := by simp [Delivery.after]

instance : Addressed UploadCall String := ⟨UploadCall.tenantId, UploadCall.key⟩

instance : Addressed ListCall String := ⟨ListCall.tenantId, ListCall.key⟩

instance : Addressed Delivery String := ⟨fun d => d.job.tenantId, Delivery.key⟩

structure State where
  db : Database
  files : Files
  queue : List Job
  uploads : Table UploadCall
  lists : Table ListCall
  deliveries : Table Delivery

/-- Users and tenants may be there; nothing has been uploaded yet. -/
def State.init (tenants : List Tenant) (users : List User) (apiKeys : List ApiKey) : State where
  db := ⟨tenants, users, apiKeys, []⟩
  files := fun _ => none
  queue := []
  uploads := .empty
  lists := .empty
  deliveries := .empty

inductive Action
  | upload (key : Nat) (userId : String) (file : Option MulterFile)
  | storageSave (key : Nat) (uuid : Uuid) (fails : Option JsError)
  | documentCreate (key : Nat) (uuid : Uuid) (now : Time) (fails : Option JsError)
  | queueAdd (key : Nat) (fails : Option JsError)
  | list (key : Nat) (query : ListDocumentsQueryDto)
  | findMany (key : Nat) (order : RowOrder) (fails : Option JsError)
  | count (key : Nat) (fails : Option JsError)
  | findOne (id : String) (fails : Option JsError)
  | deliver (key : Nat) (documentId : String) (attemptsMade : Nat)
  | work (key : Nat) (fate : Fate)
  | crash (key : Nat)

/-- A step of a request of the tenant, or of a delivery of one of its jobs. -/
structure Event where
  tenant : Uuid
  action : Action

inductive Response
  | document (d : Document)
  | page (p : DocumentPage)
  | error (e : HttpError)
  deriving DecidableEq, Repr

/-- A tenant id is not empty, so `forTenant` never refuses it. -/
def Uuid.scope (t : Uuid) : TenantScope := ⟨t.val, t.ne_empty⟩

theorem forTenant_uuid (t : Uuid) : forTenant t.val = .ok t.scope := forTenant_eq_ok.mpr rfl

def Job.isFor (t documentId : String) (j : Job) : Bool :=
  j.tenantId == t && j.documentId == documentId

/-- The job that `upload` queues for a new document. -/
def processDocumentJob (document : Document) (tenantId : String) : Job where
  documentId := document.id
  tenantId := tenantId
  attempts := some 3

namespace State

/-- `upload` up to its first await. -/
def upload (s : State) (t : Uuid) (key : Nat) (userId : String) (file : Option MulterFile) :
    State × Option Response :=
  match s.uploads.find? t.val key with
  | some _ => (s, none)
  | none =>
      match checkFile file with
      | .error e => (s, some (.error e))
      | .ok file =>
          ({ s with uploads := s.uploads.insert ⟨t.val, key, userId, file, .save, none⟩ }, none)

/-- An awaited call of an upload failed: the request fails, what was done stays done. -/
def refuse (s : State) (c : UploadCall) (err : JsError) : State × Option Response :=
  ({ s with uploads := s.uploads.put { c with pc := .ended } }, some (.error (.internal err)))

def storageSave (env : Env) (s : State) (t : Uuid) (key : Nat) (uuid : Uuid)
    (fails : Option JsError) : State × Option Response :=
  match s.uploads.find? t.val key with
  | some c =>
      match c.pc, fails with
      | .save, some err => s.refuse c err
      | .save, none =>
          let saved :=
            LocalStorageService.save env t.val uuid c.file.buffer c.file.originalname s.files
          ({ s with
              files := saved.2
              uploads := s.uploads.put { c with pc := .create saved.1 } }, none)
      | _, _ => (s, none)
  | none => (s, none)

def documentCreate (env : Env) (s : State) (t : Uuid) (key : Nat) (uuid : Uuid) (now : Time)
    (fails : Option JsError) : State × Option Response :=
  match s.uploads.find? t.val key with
  | some c =>
      match c.pc, fails with
      | .create _, some err => s.refuse c err
      | .create stored, none =>
          match create env t.scope ⟨uuid.val, now⟩ (createFields c.userId c.file stored) s.db with
          | .error err => s.refuse c err
          | .ok (document, db) =>
              ({ s with
                  db := db
                  uploads := s.uploads.put
                    { c with pc := .add document, created := some document } }, none)
      | _, _ => (s, none)
  | none => (s, none)

def queueAdd (s : State) (t : Uuid) (key : Nat) (fails : Option JsError) :
    State × Option Response :=
  match s.uploads.find? t.val key with
  | some c =>
      match c.pc, fails with
      | .add _, some err => s.refuse c err
      | .add document, none =>
          ({ s with
              queue := s.queue ++ [processDocumentJob document t.val]
              uploads := s.uploads.put { c with pc := .ended } }, some (.document document))
      | _, _ => (s, none)
  | none => (s, none)

def list (s : State) (t : Uuid) (key : Nat) (query : ListDocumentsQueryDto) :
    State × Option Response :=
  match s.lists.find? t.val key with
  | some _ => (s, none)
  | none => ({ s with lists := s.lists.insert ⟨t.val, key, query, none, none, false⟩ }, none)

/-- `Promise.all` of the two queries settles with the first failure or the second result. -/
def findMany (s : State) (t : Uuid) (key : Nat) (order : RowOrder) (fails : Option JsError) :
    State × Option Response :=
  match s.lists.find? t.val key with
  | some c =>
      match c.ended, c.items, fails with
      | false, none, some err =>
          ({ s with lists := s.lists.put { c with ended := true } },
            some (.error (.internal err)))
      | false, none, none =>
          let items := listItems t.scope s.db c.query order
          ({ s with lists := s.lists.put { c with items := some items, ended := c.total.isSome } },
            c.total.map fun total => .page (listResponse c.query items total))
      | _, _, _ => (s, none)
  | none => (s, none)

def count (s : State) (t : Uuid) (key : Nat) (fails : Option JsError) :
    State × Option Response :=
  match s.lists.find? t.val key with
  | some c =>
      match c.ended, c.total, fails with
      | false, none, some err =>
          ({ s with lists := s.lists.put { c with ended := true } },
            some (.error (.internal err)))
      | false, none, none =>
          let total := listTotal t.scope s.db c.query
          ({ s with lists := s.lists.put { c with total := some total, ended := c.items.isSome } },
            c.items.map fun items => .page (listResponse c.query items total))
      | _, _, _ => (s, none)
  | none => (s, none)

def findOne (s : State) (t : Uuid) (id : String) (fails : Option JsError) :
    State × Option Response :=
  match fails with
  | some err => (s, some (.error (.internal err)))
  | none =>
      match DocumentsService.findOne t.scope s.db id with
      | .error e => (s, some (.error e))
      | .ok doc => (s, some (.document doc))

def deliver (s : State) (t : Uuid) (key : Nat) (documentId : String) (attemptsMade : Nat) :
    State × Option Response :=
  match s.deliveries.find? t.val key, s.queue.find? (Job.isFor t.val documentId) with
  | none, some job =>
      ({ s with deliveries :=
          s.deliveries.insert ⟨key, job, attemptsMade, .findUnique, [], []⟩ }, none)
  | _, _ => (s, none)

def work (env : Env) (s : State) (t : Uuid) (key : Nat) (fate : Fate) :
    State × Option Response :=
  match s.deliveries.find? t.val key with
  | some d =>
      let r := ProcessingProcessor.handleProcess env fate d.job d.attemptsMade s.db s.files d.pc
      ({ s with
          db := r.db
          deliveries := s.deliveries.put (d.after r.pc r.wrote r.exchange) }, none)
  | none => (s, none)

/-- A worker that dies leaves what it has written; its delivery never goes on. -/
def crash (s : State) (t : Uuid) (key : Nat) : State × Option Response :=
  match s.deliveries.find? t.val key with
  | some d =>
      if d.pc.ended then (s, none)
      else ({ s with deliveries := s.deliveries.put { d with pc := .crashed } }, none)
  | none => (s, none)

end State

def step (env : Env) (s : State) (e : Event) : State × Option Response :=
  match e.action with
  | .upload key userId file => s.upload e.tenant key userId file
  | .storageSave key uuid fails => s.storageSave env e.tenant key uuid fails
  | .documentCreate key uuid now fails => s.documentCreate env e.tenant key uuid now fails
  | .queueAdd key fails => s.queueAdd e.tenant key fails
  | .list key query => s.list e.tenant key query
  | .findMany key order fails => s.findMany e.tenant key order fails
  | .count key fails => s.count e.tenant key fails
  | .findOne id fails => s.findOne e.tenant id fails
  | .deliver key documentId attemptsMade => s.deliver e.tenant key documentId attemptsMade
  | .work key fate => s.work env e.tenant key fate
  | .crash key => s.crash e.tenant key

namespace Sample

/-- Concrete values for runs that can be computed. -/
def env : Env where
  uploadDir := "uploads"
  ocrTimeoutMs := 120000
  sha256 _ := "ba4f25bf16ba4be6bc7d3276fafeb67f9eb3c5df042bc3a405e1af15b921eed7"
  toLowerCase s := s
  recordNotFound := ⟨some "Record to update not found."⟩
  uniqueConstraint := ⟨some "Unique constraint failed on the fields: (id)"⟩
  uploadDir_ne := by decide
  toLowerCase_slash _ h := h
  toLowerCase_dot _ := rfl
  toLowerCase_no_dot _ h := h

def acme : Uuid := ⟨"aaaaaaaa-aaaa-4aaa-8aaa-aaaaaaaaaaaa", by decide⟩

def globex : Uuid := ⟨"bbbbbbbb-bbbb-4bbb-8bbb-bbbbbbbbbbbb", by decide⟩

def file1 : Uuid := ⟨"11111111-1111-4111-8111-111111111111", by decide⟩

def file2 : Uuid := ⟨"22222222-2222-4222-8222-222222222222", by decide⟩

def doc1 : Uuid := ⟨"33333333-3333-4333-8333-333333333333", by decide⟩

def doc2 : Uuid := ⟨"44444444-4444-4444-8444-444444444444", by decide⟩

def scan : MulterFile := ⟨"scan.jpg", "image/jpeg", [0xff, 0xd8, 0xff, 0xe0]⟩

/-- The stored file of an upload, and its row. -/
def saved : StoredFile × Files :=
  LocalStorageService.save env acme.val file1 scan.buffer scan.originalname fun _ => none

def row : Document := Document.build ⟨doc1.val, 5⟩ (createFields "user" scan saved.1) acme.val

def result : Json := ⟨"\x7b\"text\":\"12\"\x7d", by decide⟩

/-- The OCR service finds some text, whatever it is sent. -/
def reads : Fate := ⟨none, 7, fun _ => .response 200 "OK" none (.ok result)⟩

/-- An upload that goes through. -/
def uploaded (t file doc : Uuid) : List Event :=
  [⟨t, .upload 0 "user" (some scan)⟩, ⟨t, .storageSave 0 file none⟩,
    ⟨t, .documentCreate 0 doc 5 none⟩, ⟨t, .queueAdd 0 none⟩]

/-- A first delivery of the job that reads the document. -/
def processed (t doc : Uuid) : List Event :=
  ⟨t, .deliver 0 doc.val 0⟩ :: List.replicate 5 ⟨t, .work 0 reads⟩

/-- The row once the first delivery has read the document. -/
def readRow : Document :=
  (DocumentWrite.completed 7 result).apply ((DocumentWrite.processing 7).apply row)

end Sample
end IdpSaas

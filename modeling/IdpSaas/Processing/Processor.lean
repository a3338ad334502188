import IdpSaas.Documents

/-!
`ProcessingProcessor.handleProcess` as a machine that is suspended at each of its
awaits. A step lets the awaited call settle, by success or by failure, and runs the
handler up to its next await. The environment chooses failures, clock readings and
what the OCR service answers to a given request. The relation `Move` says once what
a step can do.
-/

namespace IdpSaas
open Owned DocumentsService

/-- A queued job: its data and `opts.attempts`. -/
structure Job where
  documentId : String
  tenantId : String
  attempts : Option Nat
  deriving DecidableEq, Repr

structure OcrRequest where
  file : Bytes
  fileName : String
  mimeType : String
  deriving DecidableEq, Repr

inductive FetchError
  | abort
  | other (err : JsError)
  deriving DecidableEq, Repr

/-- How the call to the OCR service settles. Reading the body as text or as JSON may
fail by itself. -/
inductive OcrReply
  | rejected (err : FetchError)
  | response (status : Nat) (statusText : String) (text : Option String)
      (json : Except FetchError Json)

/-- What the environment chooses for one step. -/
structure Fate where
  fails : Option JsError
  now : Time
  fetch : OcrRequest → OcrReply

/-- The five updates of the handler. -/
inductive DocumentWrite
  | processing (now : Time)
  | rejected
  | completed (now : Time) (extractedData : Json)
  | increment
  | failed (errorMessage : String)
  deriving DecidableEq, Repr

/-- Where the handler is suspended, with the local variables it still needs. -/
inductive HandlerPc
  | findUnique
  | updateProcessing (document : Document)
  | updateRejected (document : Document)
  | readFile (document : Document)
  | runOcr (document : Document) (fileBuffer : Bytes)
  | updateCompleted (extractedData : Json)
  | incrementRetry (err : JsError)
  | updateFailed (err : JsError)
  | returned (result : Option Json)
  | threw (err : JsError)
  | crashed
  deriving DecidableEq, Repr

def HandlerPc.ended : HandlerPc → Bool
  | .returned _ | .threw _ | .crashed => true
  | _ => false

namespace ProcessingProcessor

def pdfMessage : String :=
  "PDF OCR is not supported. Please upload an image (JPEG, PNG, or WebP)."

/-- `err?.message ?? 'Processing failed'`. -/
def failureMessage (err : JsError) : String := err.message.getD "Processing failed"

def isFinalAttempt (job : Job) (attemptsMade : Nat) : Bool :=
  decide (job.attempts.getD 1 ≤ attemptsMade + 1)

def rethrow (env : Env) : FetchError → JsError
  | .abort => ⟨some ("OCR service timed out after " ++ toString env.ocrTimeoutMs ++ "ms")⟩
  | .other err => err

/-- What `runOcr` makes of the reply. -/
def ocrResult (env : Env) : OcrReply → Except JsError Json
  | .rejected err => .error (rethrow env err)
  | .response status statusText text json =>
      if 200 ≤ status ∧ status ≤ 299 then
        match json with
        | .ok extractedData => .ok extractedData
        | .error err => .error (rethrow env err)
      else
        let body := text.getD ""
        .error ⟨some ("OCR service returned HTTP " ++ toString status ++ ": " ++
          (if body = "" then statusText else body))⟩

end ProcessingProcessor

namespace DocumentWrite

/-- The payload of the update. -/
def columns : DocumentWrite → List ((c : Document.Column) × (c.type → c.type))
  | .processing now =>
      [⟨.status, fun _ => DocumentStatus.processing⟩, ⟨.processingStartedAt, fun _ => some now⟩]
  | .rejected =>
      [⟨.status, fun _ => DocumentStatus.failed⟩,
        ⟨.errorMessage, fun _ => some ProcessingProcessor.pdfMessage⟩]
  | .completed now extractedData =>
      [⟨.status, fun _ => DocumentStatus.completed⟩, ⟨.processedAt, fun _ => some now⟩,
        ⟨.extractedData, fun _ => some extractedData⟩, ⟨.errorMessage, fun _ => none⟩]
  | .increment => [⟨.retryCount, fun n : Nat => n + 1⟩]
  | .failed errorMessage =>
      [⟨.status, fun _ => DocumentStatus.failed⟩, ⟨.errorMessage, fun _ => some errorMessage⟩]

/-- The row after the update. -/
def apply : DocumentWrite → Document → Document
  | .processing now, d => { d with status := .processing, processingStartedAt := some now }
  | .rejected, d =>
      { d with status := .failed, errorMessage := some ProcessingProcessor.pdfMessage }
  | .completed now extractedData, d =>
      { d with
        status := .completed
        processedAt := some now
        extractedData := some extractedData
        errorMessage := none }
  | .increment, d => { d with retryCount := d.retryCount + 1 }
  | .failed errorMessage, d => { d with status := .failed, errorMessage := some errorMessage }

theorem assign_columns (w : DocumentWrite) (d : Document) : assign w.columns d = w.apply d := by
  cases w <;> rfl

@[simp] theorem apply_id (w : DocumentWrite) (d : Document) : (w.apply d).id = d.id := by
  cases w <;> rfl

@[simp] theorem apply_tenantId (w : DocumentWrite) (d : Document) :
    (w.apply d).tenantId = d.tenantId := by cases w <;> rfl

@[simp] theorem selects_apply (w : DocumentWrite) (d : Document) (t id : String) :
    selects t id (w.apply d) = selects t id d := by
  rw [selects, selects, apply_id, apply_tenantId]

end DocumentWrite

/-- The database after one of the handler's updates of the tenant's row. -/
def Database.write (db : Database) (t id : String) (w : DocumentWrite) : Database :=
  { db with documents := modify (selects t id) w.apply db.documents }

namespace ProcessingProcessor

/-- `tenantDb.document.update`, or the failure of that call. -/
def update (env : Env) (scope : TenantScope) (fate : Fate) (db : Database) (id : String)
    (w : DocumentWrite) : Except JsError Database :=
  match fate.fails with
  | some err => .error err
  | none =>
      match (scope.write (.update (byId id) { columns := { document := w.columns } })).run
          (fun _ => ⟨"", fate.now⟩) db with
      | some db' => .ok db'
      | none => .error env.recordNotFound

theorem update_eq (env : Env) (scope : TenantScope) (fate : Fate) (db : Database) (id : String)
    (w : DocumentWrite) :
    update env scope fate db id w =
      match fate.fails with
      | some err => .error err
      | none =>
          if db.documents.any (selects scope.tenantId id) then
            .ok (db.write scope.tenantId id w)
          else .error env.recordNotFound := by
  have rewritten : assign (ρ := Document) w.columns = w.apply :=
    funext fun d => DocumentWrite.assign_columns w d
  have chosen : (fun d => ((byId id).withTenantId scope.tenantId).selects (.document d)) =
      selects scope.tenantId id := holds_scoped_byId scope.tenantId id
  have found : (findRow db .document ((byId id).withTenantId scope.tenantId).selects []).isSome =
      db.documents.any (selects scope.tenantId id) := by
    rw [findRow_document, chosen]
  unfold update
  cases fate.fails with
  | some err => rfl
  | none =>
      rw [TenantScope.write_eq, ← found]
      unfold Write.run
      simp only [scopeWrite, Write.plan]
      cases findRow db .document ((byId id).withTenantId scope.tenantId).selects [] with
      | none => rfl
      | some row =>
          have written := Statement.run_update_document db
            ((byId id).withTenantId scope.tenantId).selects { document := w.columns }
          rw [chosen, rewritten] at written
          exact congrArg Except.ok written

/-- The database, the next await, and what a step did: the row write it made and its
exchange with the OCR service. -/
structure Stepped where
  db : Database
  pc : HandlerPc
  wrote : Option DocumentWrite := none
  exchange : Option (OcrRequest × OcrReply) := none

/-- One update of the handler: on success it goes on to `next`, on failure to `caught`. -/
def updateStep (env : Env) (scope : TenantScope) (fate : Fate) (db : Database) (id : String)
    (w : DocumentWrite) (next : HandlerPc) (caught : JsError → HandlerPc) : Stepped :=
  match update env scope fate db id w with
  | .ok db' => { db := db', pc := next, wrote := some w }
  | .error err => { db := db, pc := caught err }

def handleProcess (env : Env) (fate : Fate) (job : Job) (attemptsMade : Nat) (db : Database)
    (files : Files) (pc : HandlerPc) : Stepped :=
  match forTenant job.tenantId with
  | .error message => { db := db, pc := if pc.ended then pc else .threw ⟨some message⟩ }
  | .ok scope =>
      match pc with
      | .findUnique =>
          match fate.fails with
          | some err => { db := db, pc := .threw err }
          | none =>
              match findUnique scope db job.documentId with
              | none =>
                  { db := db
                    pc := .threw ⟨some ("Document " ++ job.documentId ++
                      " not found for tenant " ++ job.tenantId)⟩ }
              | some document => { db := db, pc := .updateProcessing document }
      | .updateProcessing document =>
          updateStep env scope fate db job.documentId (.processing fate.now)
            (if document.mimeType = "application/pdf" then .updateRejected document
              else .readFile document) .threw
      | .updateRejected _ =>
          updateStep env scope fate db job.documentId .rejected (.returned none) .threw
      | .readFile document =>
          match fate.fails with
          | some err => { db := db, pc := .incrementRetry err }
          | none =>
              match LocalStorageService.read env files document.storagePath with
              | .error err => { db := db, pc := .incrementRetry err }
              | .ok fileBuffer => { db := db, pc := .runOcr document fileBuffer }
      | .runOcr document fileBuffer =>
          let request := ⟨fileBuffer, document.originalName, document.mimeType⟩
          match ocrResult env (fate.fetch request) with
          | .error err =>
              { db := db, pc := .incrementRetry err, exchange := some (request, fate.fetch request) }
          | .ok extractedData =>
              { db := db
                pc := .updateCompleted extractedData
                exchange := some (request, fate.fetch request) }
      | .updateCompleted extractedData =>
          updateStep env scope fate db job.documentId (.completed fate.now extractedData)
            (.returned (some extractedData)) .incrementRetry
      | .incrementRetry err =>
          updateStep env scope fate db job.documentId .increment
            (if isFinalAttempt job attemptsMade then .updateFailed err else .threw err) .threw
      | .updateFailed err =>
          updateStep env scope fate db job.documentId (.failed (failureMessage err))
            (.threw err) .threw
      | .returned result => { db := db, pc := .returned result }
      | .threw err => { db := db, pc := .threw err }
      | .crashed => { db := db, pc := .crashed }

/-- What a step of the handler can do: where it was, the row it wrote if any, its
exchange with the OCR service if any, and where it is next. -/
inductive Move (env : Env) (job : Job) (attemptsMade : Nat) (db : Database) (files : Files) :
    HandlerPc → Option DocumentWrite → Option (OcrRequest × OcrReply) → HandlerPc → Prop
  | found (d : Document) (row : db.documents.find? (selects job.tenantId job.documentId) = some d) :
      Move env job attemptsMade db files .findUnique none none (.updateProcessing d)
  | claimed (d : Document) (now : Time) (image : d.mimeType ≠ "application/pdf") :
      Move env job attemptsMade db files (.updateProcessing d) (some (.processing now)) none
        (.readFile d)
  | claimedPdf (d : Document) (now : Time) (pdf : d.mimeType = "application/pdf") :
      Move env job attemptsMade db files (.updateProcessing d) (some (.processing now)) none
        (.updateRejected d)
  | rejected (d : Document) :
      Move env job attemptsMade db files (.updateRejected d) (some .rejected) none (.returned none)
  | read (d : Document) (b : Bytes) (content : LocalStorageService.read env files d.storagePath = .ok b) :
      Move env job attemptsMade db files (.readFile d) none none (.runOcr d b)
  | answered (d : Document) (b : Bytes) (reply : OcrReply) (data : Json)
      (result : ocrResult env reply = .ok data) :
      Move env job attemptsMade db files (.runOcr d b) none
        (some (⟨b, d.originalName, d.mimeType⟩, reply)) (.updateCompleted data)
  | unanswered (d : Document) (b : Bytes) (reply : OcrReply) (err : JsError)
      (result : ocrResult env reply = .error err) :
      Move env job attemptsMade db files (.runOcr d b) none
        (some (⟨b, d.originalName, d.mimeType⟩, reply)) (.incrementRetry err)
  | completed (data : Json) (now : Time) :
      Move env job attemptsMade db files (.updateCompleted data) (some (.completed now data)) none
        (.returned (some data))
  | unread (d : Document) (err : JsError) :
      Move env job attemptsMade db files (.readFile d) none none (.incrementRetry err)
  | uncompleted (data : Json) (err : JsError) :
      Move env job attemptsMade db files (.updateCompleted data) none none (.incrementRetry err)
  | countedFinal (err : JsError) (final : isFinalAttempt job attemptsMade = true) :
      Move env job attemptsMade db files (.incrementRetry err) (some .increment) none
        (.updateFailed err)
  | counted (err : JsError) (more : isFinalAttempt job attemptsMade = false) :
      Move env job attemptsMade db files (.incrementRetry err) (some .increment) none (.threw err)
  | failed (err : JsError) :
      Move env job attemptsMade db files (.updateFailed err) (some (.failed (failureMessage err)))
        none (.threw err)
  | threw (pc : HandlerPc) (err : JsError) (live : pc.ended = false) :
      Move env job attemptsMade db files pc none none (.threw err)
  | idle (pc : HandlerPc) (done : pc.ended = true) :
      Move env job attemptsMade db files pc none none pc

theorem updateStep_cases (env : Env) (scope : TenantScope) (fate : Fate) (db : Database)
    (id : String) (w : DocumentWrite) (next : HandlerPc) (caught : JsError → HandlerPc) :
    updateStep env scope fate db id w next caught =
        { db := db.write scope.tenantId id w, pc := next, wrote := some w } ∨
      ∃ err, updateStep env scope fate db id w next caught = { db := db, pc := caught err } := by
  rw [updateStep, update_eq]
  cases fate.fails with
  | some err => exact Or.inr ⟨err, rfl⟩
  | none =>
      cases db.documents.any (selects scope.tenantId id) with
      | true => exact Or.inl rfl
      | false => exact Or.inr ⟨env.recordNotFound, rfl⟩

/-- A step that makes an update moves as the update's success or its failure does. -/
theorem updateStep_move {env : Env} {scope : TenantScope} {fate : Fate} {job : Job}
    {attemptsMade : Nat} {db : Database} {files : Files} {pc next : HandlerPc} {w : DocumentWrite}
    {caught : JsError → HandlerPc} (own : scope.tenantId = job.tenantId)
    (made : Move env job attemptsMade db files pc (some w) none next)
    (refused : ∀ err, Move env job attemptsMade db files pc none none (caught err)) :
    Move env job attemptsMade db files pc
        (updateStep env scope fate db job.documentId w next caught).wrote
        (updateStep env scope fate db job.documentId w next caught).exchange
        (updateStep env scope fate db job.documentId w next caught).pc ∧
      (updateStep env scope fate db job.documentId w next caught).db =
        (updateStep env scope fate db job.documentId w next caught).wrote.elim db
          (db.write job.tenantId job.documentId) := by
  rcases updateStep_cases env scope fate db job.documentId w next caught with ok | ⟨err, failed⟩
  · rw [ok, own]
    exact ⟨made, rfl⟩
  · rw [failed]
    exact ⟨refused err, rfl⟩

/-- Every step is one of the moves, and it changes the database by the write it reports. -/
theorem handleProcess_move (env : Env) (fate : Fate) (job : Job) (attemptsMade : Nat)
    (db : Database) (files : Files) (pc : HandlerPc) :
    Move env job attemptsMade db files pc
        (handleProcess env fate job attemptsMade db files pc).wrote
        (handleProcess env fate job attemptsMade db files pc).exchange
        (handleProcess env fate job attemptsMade db files pc).pc ∧
      (handleProcess env fate job attemptsMade db files pc).db =
        (handleProcess env fate job attemptsMade db files pc).wrote.elim db
          (db.write job.tenantId job.documentId) := by
  unfold handleProcess
  cases hscope : forTenant job.tenantId with
  | error message =>
      cases hover : pc.ended with
      | true => exact ⟨by simpa only [hover, if_true] using Move.idle pc hover, rfl⟩
      | false =>
          exact ⟨by simpa only [hover, Bool.false_eq_true, if_false] using Move.threw pc _ hover,
            rfl⟩
  | ok scope =>
      have own : scope.tenantId = job.tenantId := forTenant_eq_ok.mp hscope
      cases pc with
      | findUnique =>
          cases fate.fails with
          | some err => exact ⟨Move.threw _ err rfl, rfl⟩
          | none =>
              simp only [findUnique_eq, own]
              cases row : db.documents.find? (selects job.tenantId job.documentId) with
              | none => exact ⟨Move.threw _ _ rfl, rfl⟩
              | some d => exact ⟨Move.found d row, rfl⟩
      | updateProcessing d =>
          refine updateStep_move own ?_ fun err => Move.threw _ err rfl
          by_cases pdf : d.mimeType = "application/pdf"
          · simpa only [pdf, if_true] using Move.claimedPdf d fate.now pdf
          · simpa only [pdf, if_false] using Move.claimed d fate.now pdf
      | updateRejected d =>
          exact updateStep_move own (Move.rejected d) fun err => Move.threw _ err rfl
      | readFile d =>
          cases fate.fails with
          | some err => exact ⟨Move.unread d err, rfl⟩
          | none =>
              simp only
              cases content : LocalStorageService.read env files d.storagePath with
              | error err => exact ⟨Move.unread d err, rfl⟩
              | ok b => exact ⟨Move.read d b content, rfl⟩
      | runOcr d b =>
          simp only
          cases result : ocrResult env (fate.fetch ⟨b, d.originalName, d.mimeType⟩) with
          | error err => exact ⟨Move.unanswered d b _ err result, rfl⟩
          | ok data => exact ⟨Move.answered d b _ data result, rfl⟩
      | updateCompleted data =>
          exact updateStep_move own (Move.completed data fate.now) fun err =>
            Move.uncompleted data err
      | incrementRetry err =>
          refine updateStep_move own ?_ fun err' => Move.threw _ err' rfl
          cases final : isFinalAttempt job attemptsMade with
          | true => exact Move.countedFinal err final
          | false => exact Move.counted err final
      | updateFailed err =>
          exact updateStep_move own (Move.failed err) fun err' => Move.threw _ err' rfl
      | returned result => exact ⟨Move.idle _ rfl, rfl⟩
      | threw err => exact ⟨Move.idle _ rfl, rfl⟩
      | crashed => exact ⟨Move.idle _ rfl, rfl⟩

end ProcessingProcessor
end IdpSaas

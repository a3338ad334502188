import IdpSaas.Lib.Retry
import IdpSaas.System.State

/-!
Whole attempts of a job, one after another. An attempt runs the handler from its
first await until it returns or throws; the queue starts another one exactly when
the handler threw and the bound leaves an attempt. The handler's steps are summed up
as the list of writes an attempt makes, which is what the accounting of retries and
failures is proved from.
-/

namespace IdpSaas
open Owned DocumentsService ProcessingProcessor

/-- The awaited calls of the handler; an attempt makes each at most once. -/
inductive Call
  | findUnique | processing | rejected | read | ocr | completed | increment | failed
  deriving DecidableEq, Repr

def HandlerPc.call : HandlerPc → Option Call
  | .findUnique => some .findUnique
  | .updateProcessing _ => some .processing
  | .updateRejected _ => some .rejected
  | .readFile _ => some .read
  | .runOcr _ _ => some .ocr
  | .updateCompleted _ => some .completed
  | .incrementRetry _ => some .increment
  | .updateFailed _ => some .failed
  | .returned _ | .threw _ | .crashed => none

/-- What the environment chooses for the calls of one attempt, and the files it finds. -/
structure Fates where
  call : Call → Fate
  files : Files

/-- An attempt so far: the database, where the handler is, and the calls it has made. -/
structure Attempt where
  db : Database
  pc : HandlerPc
  calls : List Call

/-- Let the next awaited call settle. -/
def Attempt.next (env : Env) (fates : Fates) (job : Job) (attemptsMade : Nat) (a : Attempt) :
    Attempt :=
  match a.pc.call with
  | none => a
  | some c =>
      let r := handleProcess env (fates.call c) job attemptsMade a.db fates.files a.pc
      ⟨r.db, r.pc, a.calls ++ [c]⟩

def Attempt.drive (env : Env) (fates : Fates) (job : Job) (attemptsMade : Nat) :
    Nat → Attempt → Attempt
  | 0, a => a
  | fuel + 1, a => drive env fates job attemptsMade fuel (a.next env fates job attemptsMade)

/-- One attempt. The handler makes at most seven calls. -/
def runAttempt (env : Env) (fates : Fates) (job : Job) (attemptsMade : Nat) (db : Database) :
    Attempt :=
  Attempt.drive env fates job attemptsMade 7 ⟨db, .findUnique, []⟩

def HandlerPc.hasThrown : HandlerPc → Bool
  | .threw _ => true
  | _ => false

/-- The attempts at a job. The queue makes another one when the handler threw. -/
def processing (env : Env) (fates : Nat → Fates) (job : Job) : Retry.Task Database Attempt where
  attempt attemptsMade db := runAttempt env (fates attemptsMade) job attemptsMade db
  after := Attempt.db
  failed a := a.pc.hasThrown

/-- All attempts at a new job, one at a time. -/
def runQueue (env : Env) (fates : Nat → Fates) (job : Job) (db : Database) : List Attempt :=
  Retry.attempts (processing env fates job) (job.attempts.getD 1) (job.attempts.getD 1) 0 db

/-- Reading the stored file and asking the OCR service for it. -/
def ocrOutcome (env : Env) (fates : Fates) (d : Document) : Except JsError Json :=
  match (fates.call .read).fails with
  | some err => .error err
  | none =>
      match LocalStorageService.read env fates.files d.storagePath with
      | .error err => .error err
      | .ok b => ocrResult env ((fates.call .ocr).fetch ⟨b, d.originalName, d.mimeType⟩)

/-- The body of the handler's `try`. -/
def tryOutcome (env : Env) (fates : Fates) (d : Document) : Except JsError Json :=
  match ocrOutcome env fates d with
  | .error err => .error err
  | .ok data =>
      match (fates.call .completed).fails with
      | some err => .error err
      | none => .ok data

/-- The `catch` block: what it writes after a failure, and how the attempt ends. -/
def catchOutcome (fates : Fates) (final : Bool) (err : JsError) :
    List DocumentWrite × HandlerPc :=
  match (fates.call .increment).fails with
  | some err' => ([], .threw err')
  | none =>
      if final then
        match (fates.call .failed).fails with
        | some err' => ([.increment], .threw err')
        | none => ([.increment, .failed (failureMessage err)], .threw err)
      else ([.increment], .threw err)

/-- The writes of an attempt on the row it loads, and how it ends. -/
def attemptOutcome (env : Env) (fates : Fates) (final : Bool) (d : Document) :
    List DocumentWrite × HandlerPc :=
  match (fates.call .findUnique).fails.or (fates.call .processing).fails with
  | some err => ([], .threw err)
  | none =>
      let claim := .processing (fates.call .processing).now
      if d.mimeType = "application/pdf" then
        match (fates.call .rejected).fails with
        | some err => ([claim], .threw err)
        | none => ([claim, .rejected], .returned none)
      else
        match tryOutcome env fates d with
        | .ok data => ([claim, .completed (fates.call .completed).now data], .returned (some data))
        | .error err => (claim :: (catchOutcome fates final err).1, (catchOutcome fates final err).2)

def Database.writeAll (db : Database) (t id : String) (ws : List DocumentWrite) : Database :=
  ws.foldl (fun db w => db.write t id w) db

section Rows
variable {t id : String} {db : Database}

theorem find?_write (w : DocumentWrite) :
    (db.write t id w).documents.find? (selects t id) =
      (db.documents.find? (selects t id)).map w.apply := by
  rw [Database.write]
  induction db.documents with
  | nil => rfl
  | cons d rest ih =>
      rw [modify_cons, List.find?_cons, List.find?_cons]
      cases h : selects t id d with
      | true => rw [if_pos rfl, w.selects_apply, h]; rfl
      | false =>
          rw [if_neg Bool.false_ne_true, h]
          exact ih

theorem find?_writeAll (ws : List DocumentWrite) :
    (db.writeAll t id ws).documents.find? (selects t id) =
      (db.documents.find? (selects t id)).map fun d => ws.foldl (fun d w => w.apply d) d := by
  induction ws generalizing db with
  | nil => simp [Database.writeAll]
  | cons w ws ih =>
      rw [Database.writeAll, List.foldl_cons]
      change ((db.write t id w).writeAll t id ws).documents.find? _ = _
      rw [ih, find?_write, Option.map_map]
      rfl

end Rows

section Attempts
variable {env : Env} {fates : Fates} {job : Job} {n : Nat} {t : Uuid} {db : Database}
  {d : Document}

/-- With the row there, an update fails only when the call fails. -/
theorem updateStep_row {fate : Fate} {id : String} {w : DocumentWrite} {next : HandlerPc}
    {caught : JsError → HandlerPc}
    (row : db.documents.find? (selects t.val id) = some d) :
    updateStep env t.scope fate db id w next caught =
      match fate.fails with
      | none => { db := db.write t.val id w, pc := next, wrote := some w }
      | some err => { db := db, pc := caught err } := by
  have found : db.documents.any (selects t.val id) = true :=
    List.any_eq_true.mpr ⟨d, List.mem_of_find?_eq_some row, List.find?_some row⟩
  have scope : t.scope.tenantId = t.val := rfl
  rw [updateStep, update_eq, scope, found]
  cases fate.fails <;> rfl

/-- An await of an update, with the row there. -/
theorem next_update {a : Attempt} {c : Call} {w : DocumentWrite} {next : HandlerPc}
    {caught : JsError → HandlerPc} (call : a.pc.call = some c)
    (row : a.db.documents.find? (selects t.val job.documentId) = some d)
    (step : handleProcess env (fates.call c) job n a.db fates.files a.pc =
      updateStep env t.scope (fates.call c) a.db job.documentId w next caught) :
    a.next env fates job n =
      match (fates.call c).fails with
      | none => ⟨a.db.write t.val job.documentId w, next, a.calls ++ [c]⟩
      | some err => ⟨a.db, caught err, a.calls ++ [c]⟩ := by
  rw [Attempt.next, call]
  simp only [step, updateStep_row row]
  cases (fates.call c).fails <;> rfl

theorem drive_ended {a : Attempt} (ended : a.pc.call = none) (fuel : Nat) :
    Attempt.drive env fates job n fuel a = a := by
  induction fuel with
  | zero => rfl
  | succ fuel ih =>
      have stays : a.next env fates job n = a := by rw [Attempt.next, ended]
      rw [Attempt.drive, stays, ih]

section Steps
variable (own : job.tenantId = t.val) {calls : List Call}
include own

theorem next_readFile (loaded : Document) :
    Attempt.next env fates job n ⟨db, .readFile loaded, calls⟩ =
      match (fates.call .read).fails with
      | some err => ⟨db, .incrementRetry err, calls ++ [.read]⟩
      | none =>
          match LocalStorageService.read env fates.files loaded.storagePath with
          | .error err => ⟨db, .incrementRetry err, calls ++ [.read]⟩
          | .ok b => ⟨db, .runOcr loaded b, calls ++ [.read]⟩ := by
  simp only [Attempt.next, HandlerPc.call, handleProcess, own, forTenant_uuid]
  cases (fates.call .read).fails with
  | some err => rfl
  | none => cases LocalStorageService.read env fates.files loaded.storagePath <;> rfl

theorem next_runOcr (loaded : Document) (b : Bytes) :
    Attempt.next env fates job n ⟨db, .runOcr loaded b, calls⟩ =
      match ocrResult env ((fates.call .ocr).fetch ⟨b, loaded.originalName, loaded.mimeType⟩) with
      | .error err => ⟨db, .incrementRetry err, calls ++ [.ocr]⟩
      | .ok data => ⟨db, .updateCompleted data, calls ++ [.ocr]⟩ := by
  simp only [Attempt.next, HandlerPc.call, handleProcess, own, forTenant_uuid]
  cases ocrResult env ((fates.call .ocr).fetch ⟨b, loaded.originalName, loaded.mimeType⟩) <;> rfl

variable (row : db.documents.find? (selects t.val job.documentId) = some d)
include row

theorem next_findUnique :
    Attempt.next env fates job n ⟨db, .findUnique, calls⟩ =
      match (fates.call .findUnique).fails with
      | none => ⟨db, .updateProcessing d, calls ++ [.findUnique]⟩
      | some err => ⟨db, .threw err, calls ++ [.findUnique]⟩ := by
  have found : findUnique t.scope db job.documentId = some d := by
    rw [findUnique_eq]
    exact row
  simp only [Attempt.next, HandlerPc.call, handleProcess, own, forTenant_uuid, found]
  cases (fates.call .findUnique).fails <;> rfl

theorem next_updateProcessing (loaded : Document) :
    Attempt.next env fates job n ⟨db, .updateProcessing loaded, calls⟩ =
      match (fates.call .processing).fails with
      | none => ⟨db.write t.val job.documentId (.processing (fates.call .processing).now),
          if loaded.mimeType = "application/pdf" then .updateRejected loaded else .readFile loaded,
          calls ++ [.processing]⟩
      | some err => ⟨db, .threw err, calls ++ [.processing]⟩ :=
  next_update rfl row (by simp only [handleProcess, own, forTenant_uuid])

theorem next_updateRejected (loaded : Document) :
    Attempt.next env fates job n ⟨db, .updateRejected loaded, calls⟩ =
      match (fates.call .rejected).fails with
      | none => ⟨db.write t.val job.documentId .rejected, .returned none, calls ++ [.rejected]⟩
      | some err => ⟨db, .threw err, calls ++ [.rejected]⟩ :=
  next_update rfl row (by simp only [handleProcess, own, forTenant_uuid])

theorem next_updateCompleted (data : Json) :
    Attempt.next env fates job n ⟨db, .updateCompleted data, calls⟩ =
      match (fates.call .completed).fails with
      | none => ⟨db.write t.val job.documentId (.completed (fates.call .completed).now data),
          .returned (some data), calls ++ [.completed]⟩
      | some err => ⟨db, .incrementRetry err, calls ++ [.completed]⟩ :=
  next_update rfl row (by simp only [handleProcess, own, forTenant_uuid])

theorem next_incrementRetry (err : JsError) :
    Attempt.next env fates job n ⟨db, .incrementRetry err, calls⟩ =
      match (fates.call .increment).fails with
      | none => ⟨db.write t.val job.documentId .increment,
          if isFinalAttempt job n then .updateFailed err else .threw err, calls ++ [.increment]⟩
      | some err' => ⟨db, .threw err', calls ++ [.increment]⟩ :=
  next_update rfl row (by simp only [handleProcess, own, forTenant_uuid])

theorem next_updateFailed (err : JsError) :
    Attempt.next env fates job n ⟨db, .updateFailed err, calls⟩ =
      match (fates.call .failed).fails with
      | none => ⟨db.write t.val job.documentId (.failed (failureMessage err)), .threw err,
          calls ++ [.failed]⟩
      | some err' => ⟨db, .threw err', calls ++ [.failed]⟩ :=
  next_update rfl row (by simp only [handleProcess, own, forTenant_uuid])

/-- From a failure on, the handler does what its `catch` block says. -/
theorem drive_incrementRetry (fuel : Nat) (err : JsError) :
    (Attempt.drive env fates job n (fuel + 2) ⟨db, .incrementRetry err, calls⟩).db =
        db.writeAll t.val job.documentId (catchOutcome fates (isFinalAttempt job n) err).1 ∧
      (Attempt.drive env fates job n (fuel + 2) ⟨db, .incrementRetry err, calls⟩).pc =
        (catchOutcome fates (isFinalAttempt job n) err).2 := by
  rw [Attempt.drive, next_incrementRetry own row, catchOutcome]
  cases (fates.call .increment).fails with
  | some err' =>
      rw [drive_ended rfl]
      exact ⟨rfl, rfl⟩
  | none =>
      cases isFinalAttempt job n with
      | false =>
          rw [if_neg Bool.false_ne_true, drive_ended rfl]
          exact ⟨rfl, rfl⟩
      | true =>
          have row' : (db.write t.val job.documentId .increment).documents.find?
              (selects t.val job.documentId) = some (DocumentWrite.increment.apply d) := by
            rw [find?_write, row]
            rfl
          rw [if_pos rfl, Attempt.drive, next_updateFailed own row']
          cases (fates.call .failed).fails with
          | some err' =>
              rw [drive_ended rfl]
              exact ⟨rfl, rfl⟩
          | none =>
              rw [drive_ended rfl]
              exact ⟨rfl, rfl⟩

/-- From the read on, an attempt does what its `try` and `catch` blocks say. -/
theorem drive_readFile (fuel : Nat) (loaded : Document) :
    (Attempt.drive env fates job n (fuel + 5) ⟨db, .readFile loaded, calls⟩).db =
        db.writeAll t.val job.documentId (match tryOutcome env fates loaded with
          | .ok data => [.completed (fates.call .completed).now data]
          | .error err => (catchOutcome fates (isFinalAttempt job n) err).1) ∧
      (Attempt.drive env fates job n (fuel + 5) ⟨db, .readFile loaded, calls⟩).pc =
        (match tryOutcome env fates loaded with
          | .ok data => .returned (some data)
          | .error err => (catchOutcome fates (isFinalAttempt job n) err).2) := by
  rw [Attempt.drive, next_readFile own, tryOutcome, ocrOutcome]
  cases (fates.call .read).fails with
  | some err => exact drive_incrementRetry own row (fuel + 2) err
  | none =>
      simp only
      cases LocalStorageService.read env fates.files loaded.storagePath with
      | error err => exact drive_incrementRetry own row (fuel + 2) err
      | ok b =>
          simp only
          rw [Attempt.drive, next_runOcr own]
          cases ocrResult env
              ((fates.call .ocr).fetch ⟨b, loaded.originalName, loaded.mimeType⟩) with
          | error err => exact drive_incrementRetry own row (fuel + 1) err
          | ok data =>
              simp only
              rw [Attempt.drive, next_updateCompleted own row]
              cases (fates.call .completed).fails with
              | some err => exact drive_incrementRetry own row fuel err
              | none =>
                  simp only
                  rw [drive_ended rfl]
                  exact ⟨rfl, rfl⟩

/-- An attempt makes the writes and ends the way `attemptOutcome` says. -/
theorem runAttempt_eq :
    (runAttempt env fates job n db).db =
        db.writeAll t.val job.documentId (attemptOutcome env fates (isFinalAttempt job n) d).1 ∧
      (runAttempt env fates job n db).pc =
        (attemptOutcome env fates (isFinalAttempt job n) d).2 := by
  rw [runAttempt, Attempt.drive, next_findUnique own row, attemptOutcome]
  cases (fates.call .findUnique).fails with
  | some err =>
      rw [drive_ended rfl]
      exact ⟨rfl, rfl⟩
  | none =>
      simp only [Option.none_or]
      rw [Attempt.drive, next_updateProcessing own row]
      cases (fates.call .processing).fails with
      | some err =>
          rw [drive_ended rfl]
          exact ⟨rfl, rfl⟩
      | none =>
          have row' : (db.write t.val job.documentId
              (.processing (fates.call .processing).now)).documents.find?
                (selects t.val job.documentId) =
              some ((DocumentWrite.processing (fates.call .processing).now).apply d) := by
            rw [find?_write, row]
            rfl
          simp only
          by_cases pdf : d.mimeType = "application/pdf"
          · rw [if_pos pdf, if_pos pdf, Attempt.drive, next_updateRejected own row']
            cases (fates.call .rejected).fails with
            | some err =>
                rw [drive_ended rfl]
                exact ⟨rfl, rfl⟩
            | none =>
                rw [drive_ended rfl]
                exact ⟨rfl, rfl⟩
          · rw [if_neg pdf, if_neg pdf]
            obtain ⟨wrote, ended⟩ := drive_readFile own row' 0 d
            refine ⟨wrote.trans ?_, ended.trans ?_⟩
            · cases tryOutcome env fates d <;> rfl
            · cases tryOutcome env fates d <;> rfl

theorem runAttempt_row :
    (runAttempt env fates job n db).db.documents.find? (selects t.val job.documentId) =
      some ((attemptOutcome env fates (isFinalAttempt job n) d).1.foldl (fun d w => w.apply d) d) := by
  rw [(runAttempt_eq own row).1, find?_writeAll, row]
  rfl

theorem runAttempt_thrown :
    (runAttempt env fates job n db).pc.hasThrown =
      (attemptOutcome env fates (isFinalAttempt job n) d).2.hasThrown :=
  congrArg HandlerPc.hasThrown (runAttempt_eq own row).2

end Steps

/-- Only a final attempt comes to the update that gives up. -/
theorem Move.unfailed {files : Files} {pc pc' : HandlerPc} {wrote : Option DocumentWrite}
    {exchange : Option (OcrRequest × OcrReply)} (more : isFinalAttempt job n = false)
    (before : pc.call ≠ some .failed) (move : Move env job n db files pc wrote exchange pc') :
    pc'.call ≠ some .failed := by
  cases move with
  | countedFinal err final =>
      rw [more] at final
      exact absurd final Bool.false_ne_true
  | idle _ done => exact before
  | _ => exact fun h => (nomatch h)

end Attempts
end IdpSaas

import IdpSaas.System.Attempts

/-!
What a series of attempts makes of a document: how retries are counted and when a
document is given up. Both are proved from the writes of a single attempt and the
rule for retried work.
-/

namespace IdpSaas
open Owned DocumentsService ProcessingProcessor

/-- The row when a series of attempts is over. -/
def finalRow (t id : String) (attempts : List Attempt) : Option Document :=
  attempts.getLast?.bind fun a => a.db.documents.find? (selects t id)

/-- The row of an uploaded document after `k` attempts that were all retried. -/
structure Retried (d : Document) (k : Nat) (row : Document) : Prop where
  storagePath : row.storagePath = d.storagePath
  originalName : row.originalName = d.originalName
  mimeType : row.mimeType = d.mimeType
  retryCount : row.retryCount = k
  extractedData : row.extractedData = none
  errorMessage : row.errorMessage = none
  status : 0 < k → row.status = .processing

namespace Sample

def stored : Database := ⟨[], [], [], [row]⟩

/-- Its job, with some number of attempts. -/
def job (n : Nat) : Job := ⟨doc1.val, acme.val, some n⟩

def unanswered : Fate := ⟨some ⟨some "connect ETIMEDOUT"⟩, 7, reads.fetch⟩

/-- Attempts in which one call fails each. -/
def failing (calls : List Call) (k : Nat) : Fates :=
  ⟨fun c => if calls[k]? = some c then unanswered else reads, saved.2⟩

end Sample

section Queue
variable {env : Env} {fates : Nat → Fates} {t : Uuid} {db : Database} {d row : Document} {n k : Nat}

/-- An attempt at an image in which nothing but the read and the OCR can fail. -/
def imageOutcome (env : Env) (fates : Fates) (final : Bool) (d : Document) :
    List DocumentWrite × HandlerPc :=
  let claim := .processing (fates.call .processing).now
  match ocrOutcome env fates d with
  | .ok data => ([claim, .completed (fates.call .completed).now data], .returned (some data))
  | .error err =>
      (if final then [claim, .increment, .failed (failureMessage err)] else [claim, .increment],
        .threw err)

theorem Retried.imageOutcome_eq {d row : Document} (h : Retried d k row) (fates : Fates)
    (final : Bool) : imageOutcome env fates final row = imageOutcome env fates final d := by
  rw [imageOutcome, imageOutcome, ocrOutcome, ocrOutcome, h.storagePath, h.originalName, h.mimeType]

theorem attemptOutcome_image {fates : Fates} (image : row.mimeType ≠ "application/pdf")
    (available : ∀ c, c ≠ .read → (fates.call c).fails = none) (final : Bool) :
    attemptOutcome env fates final row = imageOutcome env fates final row := by
  rw [attemptOutcome, available .findUnique (by decide), available .processing (by decide), imageOutcome]
  simp only [Option.or, if_neg image, tryOutcome, catchOutcome]
  cases ocrOutcome env fates row with
  | ok data => simp only [available .completed (by decide)]
  | error err =>
      simp only [available .increment (by decide), available .failed (by decide)]
      cases final <;> rfl

/-- What an attempt at an image may rely on: every earlier one failed in reading the file
or in the OCR, and was counted. -/
def Awaiting (env : Env) (fates : Nat → Fates) (t : String) (d : Document) (k : Nat)
    (db : Database) : Prop :=
  (∀ j < k, ∃ err, ocrOutcome env (fates j) d = .error err) ∧
    ∃ row, db.documents.find? (selects t d.id) = some row ∧ Retried d k row

/-- The job of the document, allowed `n` attempts. -/
def Document.job (d : Document) (t : Uuid) (n : Nat) : Job := ⟨d.id, t.val, some n⟩

section Image
variable (image : d.mimeType ≠ "application/pdf")
  (available : ∀ k c, c ≠ .read → ((fates k).call c).fails = none)
  (awaiting : Awaiting env fates t.val d k db)
include image available awaiting

theorem Awaiting.attempt :
    ∃ row, Retried d k row ∧
      (runAttempt env (fates k) (d.job t n) k db).pc =
        (imageOutcome env (fates k) (isFinalAttempt (d.job t n) k) d).2 ∧
      (runAttempt env (fates k) (d.job t n) k db).db.documents.find? (selects t.val d.id) =
        some ((imageOutcome env (fates k) (isFinalAttempt (d.job t n) k) d).1.foldl
          (fun d w => w.apply d) row) := by
  obtain ⟨-, row, found, state⟩ := awaiting
  have own : (d.job t n).tenantId = t.val := rfl
  have image' : row.mimeType ≠ "application/pdf" := by rwa [state.mimeType]
  rw [← state.imageOutcome_eq, ← attemptOutcome_image image' (available k)]
  exact ⟨row, state, (runAttempt_eq own found).2, runAttempt_row own found⟩

theorem Awaiting.succeeds {data : Json} (outcome : ocrOutcome env (fates k) d = .ok data) :
    ((processing env fates (d.job t n)).attempt k db).pc.hasThrown = false ∧
      ∃ row, ((processing env fates (d.job t n)).attempt k db).db.documents.find?
          (selects t.val d.id) = some row ∧
        row.status = .completed ∧ row.extractedData = some data ∧ row.retryCount = k ∧
        row.errorMessage = none := by
  obtain ⟨row, state, ended, found⟩ := awaiting.attempt (n := n) image available
  rw [imageOutcome, outcome] at ended found
  exact ⟨congrArg HandlerPc.hasThrown ended, _, found, rfl, rfl, state.retryCount, rfl⟩

theorem Awaiting.throws {err : JsError} (outcome : ocrOutcome env (fates k) d = .error err) :
    ((processing env fates (d.job t n)).attempt k db).pc.hasThrown = true := by
  obtain ⟨row, state, ended, found⟩ := awaiting.attempt (n := n) image available
  rw [imageOutcome, outcome] at ended
  exact congrArg HandlerPc.hasThrown ended

theorem Awaiting.retried {err : JsError} (outcome : ocrOutcome env (fates k) d = .error err)
    (more : k + 1 < n) :
    Awaiting env fates t.val d (k + 1) ((processing env fates (d.job t n)).attempt k db).db := by
  obtain ⟨row, state, ended, found⟩ := awaiting.attempt (n := n) image available
  have notFinal : isFinalAttempt (d.job t n) k = false := decide_eq_false (by
    change ¬ n ≤ k + 1
    omega)
  rw [imageOutcome, outcome] at found
  simp only [notFinal, Bool.false_eq_true, if_false] at found
  refine ⟨fun j below => ?_, _, found, ?_⟩
  · rcases Nat.lt_succ_iff_lt_or_eq.mp below with below | rfl
    · exact awaiting.1 j below
    · exact ⟨err, outcome⟩
  · exact ⟨state.storagePath, state.originalName, state.mimeType, congrArg (· + 1) state.retryCount,
      state.extractedData, state.errorMessage, fun _ => rfl⟩

end Image

theorem finalRow_concat {early : List Attempt} {a : Attempt} (t id : String) :
    finalRow t id (early ++ [a]) = a.db.documents.find? (selects t id) := by
  rw [finalRow, List.getLast?_concat]
  rfl

/-- The row before a final attempt: the attempts so far were retried. -/
def Unfailed (t id : String) (db : Database) : Prop :=
  ∃ row, db.documents.find? (selects t id) = some row ∧ row.status ≠ .failed

theorem processing_ne_failed : DocumentStatus.processing ≠ .failed := by decide

/-- An attempt that throws gives a document up only when it is final. -/
theorem attemptOutcome_unfailed {fates : Fates} (unfailed : row.status ≠ .failed)
    (thrown : (attemptOutcome env fates false row).2.hasThrown = true) :
    ((attemptOutcome env fates false row).1.foldl (fun d w => w.apply d) row).status ≠ .failed := by
  rw [attemptOutcome] at thrown ⊢
  cases lookup : (fates.call .findUnique).fails.or (fates.call .processing).fails with
  | some err => exact unfailed
  | none =>
      rw [lookup] at thrown
      by_cases pdf : row.mimeType = "application/pdf"
      · simp only [if_pos pdf] at thrown ⊢
        cases refused : (fates.call .rejected).fails with
        | some err => exact processing_ne_failed
        | none =>
            rw [refused] at thrown
            exact absurd thrown Bool.false_ne_true
      · simp only [if_neg pdf] at thrown ⊢
        cases outcome : tryOutcome env fates row with
        | ok data =>
            rw [outcome] at thrown
            exact absurd thrown Bool.false_ne_true
        | error err =>
            simp only [catchOutcome, Bool.false_eq_true, if_false]
            cases (fates.call .increment).fails with
            | some err' => exact processing_ne_failed
            | none => exact processing_ne_failed

/-- A final attempt that throws gives the document up exactly when it comes to the
update that does so. -/
theorem attemptOutcome_failed_iff {fates : Fates} (unfailed : row.status ≠ .failed)
    (thrown : (attemptOutcome env fates true row).2.hasThrown = true)
    (failed : (fates.call .failed).fails = none) (rejected : (fates.call .rejected).fails = none) :
    (((attemptOutcome env fates true row).1.foldl (fun d w => w.apply d) row).status = .failed ∧
      ((attemptOutcome env fates true row).1.foldl (fun d w => w.apply d) row).errorMessage ≠
        none) ↔
      ∀ c ∈ [Call.findUnique, .processing, .increment], (fates.call c).fails = none := by
  simp only [List.forall_mem_cons, List.not_mem_nil, false_imp_iff, implies_true, and_true]
  rw [attemptOutcome] at thrown ⊢
  cases found : (fates.call .findUnique).fails with
  | some err => exact iff_of_false (fun h => unfailed h.1) (fun h => Option.some_ne_none err h.1)
  | none =>
      simp only [found, Option.none_or] at thrown ⊢
      cases claimed : (fates.call .processing).fails with
      | some err =>
          exact iff_of_false (fun h => unfailed h.1) (fun h => Option.some_ne_none err h.2.1)
      | none =>
          simp only [claimed] at thrown ⊢
          by_cases pdf : row.mimeType = "application/pdf"
          · simp only [if_pos pdf, rejected] at thrown
            exact absurd thrown Bool.false_ne_true
          · simp only [if_neg pdf] at thrown ⊢
            cases outcome : tryOutcome env fates row with
            | ok data =>
                rw [outcome] at thrown
                exact absurd thrown Bool.false_ne_true
            | error err =>
                simp only [catchOutcome, failed, if_true]
                cases counted : (fates.call .increment).fails with
                | some err' =>
                    exact iff_of_false (fun h => processing_ne_failed h.1)
                      (fun h => Option.some_ne_none err' h.2.2)
                | none => exact iff_of_true ⟨rfl, Option.some_ne_none _⟩ ⟨trivial, trivial, rfl⟩

/-- When every attempt throws, the document is given up exactly when in the last attempt
neither the lookup nor the updates on the way to that write fail. -/
theorem exhausted_failed_iff (env : Env) (fates : Nat → Fates) (job : Job) (t : Uuid)
    (own : job.tenantId = t.val) (pos : 0 < job.attempts.getD 1) (db : Database) (d : Document)
    (row : db.documents.find? (selects t.val job.documentId) = some d) (fresh : d.status ≠ .failed)
    (thrown : ∀ a ∈ runQueue env fates job db, a.pc.hasThrown = true)
    (writable : ∀ k < job.attempts.getD 1, ((fates k).call .failed).fails = none ∧
      ((fates k).call .rejected).fails = none) :
    (runQueue env fates job db).length = job.attempts.getD 1 ∧
      ((∃ row, finalRow t.val job.documentId (runQueue env fates job db) = some row ∧
          row.status = .failed ∧ row.errorMessage ≠ none) ↔
        ∀ c ∈ [Call.findUnique, .processing, .increment],
          ((fates (job.attempts.getD 1 - 1)).call c).fails = none) := by
  have rule : Retry.Ends (processing env fates job) (job.attempts.getD 1)
      (fun _ => Unfailed t.val job.documentId) 0 (runQueue env fates job db) := by
    refine Retry.attempts_rule (fun k s start thrown more => ?_) ⟨d, row, fresh⟩ pos
      (Nat.le_add_left ..)
    obtain ⟨row, found, unfailed⟩ := start
    have notFinal : isFinalAttempt job k = false := decide_eq_false (by omega)
    have ended : (runAttempt env (fates k) job k s).pc.hasThrown = true := thrown
    rw [runAttempt_thrown own found, notFinal] at ended
    refine ⟨_, runAttempt_row own found, ?_⟩
    rw [notFinal]
    exact attemptOutcome_unfailed unfailed ended
  obtain ⟨last, s, early, series, count, inside, ⟨row, found, unfailed⟩, final, -⟩ := rule
  have ended : (runAttempt env (fates last) job last s).pc.hasThrown = true :=
    thrown _ (by rw [series]; exact List.mem_append_right _ (List.mem_singleton_self _))
  have lastOne := final ended
  have isLast : isFinalAttempt job last = true := decide_eq_true (by omega)
  have here : job.attempts.getD 1 - 1 = last := by omega
  rw [runAttempt_thrown own found, isLast] at ended
  rw [series, List.length_append, here, finalRow_concat]
  refine ⟨by rw [← lastOne, ← count, Nat.zero_add]; rfl, ?_⟩
  rw [← attemptOutcome_failed_iff unfailed ended (writable last inside).1
    (writable last inside).2]
  have after : (runAttempt env (fates last) job last s).db.documents.find? _ = _ :=
    runAttempt_row own found
  rw [isLast] at after
  constructor
  · rintro ⟨row', found', failed⟩
    cases found'.symm.trans after
    exact failed
  · intro failed
    exact ⟨_, after, failed⟩

/-- The lookup fails in the last of the three attempts: the document stays in processing. -/
theorem exhausted_left_processing :
    let attempts := runQueue Sample.env (Sample.failing [.read, .completed, .findUnique])
      (Sample.job 3) Sample.stored
    attempts.length = 3 ∧ (∀ a ∈ attempts, a.pc.hasThrown = true) ∧
      (∀ k < 3, ((Sample.failing [.read, .completed, .findUnique] k).call .failed).fails = none) ∧
      (finalRow Sample.acme.val Sample.doc1.val attempts).map
        (fun row => (row.status, row.errorMessage)) = some (.processing, none) := by
  decide +kernel

theorem exhausted_failed_third_attempt :
    ∃ row, finalRow Sample.acme.val Sample.doc1.val (runQueue Sample.env
        (Sample.failing [.read, .completed, .read]) (Sample.job 3) Sample.stored) = some row ∧
      row.status = .failed ∧ row.errorMessage ≠ none :=
  (exhausted_failed_iff Sample.env (Sample.failing [.read, .completed, .read]) (Sample.job 3)
    Sample.acme rfl (by decide) Sample.stored Sample.row (by decide +kernel) (by decide)
    (by decide +kernel) (by decide +kernel)).2.mpr (by decide +kernel)

end Queue

end IdpSaas

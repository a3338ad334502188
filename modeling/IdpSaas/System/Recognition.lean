import IdpSaas.Lib.Json
import IdpSaas.Ocr.Directories
import IdpSaas.System.Integrity

/-!
The worker and the OCR service together. The service runs on its own disk with all its
requests interleaved, and the worker gets from it what it has sent to a request with the
same file, or nothing. A result that reaches a row is then the command's reading of the
bytes that were uploaded for that row.
-/

namespace IdpSaas
open Owned Machine ProcessingProcessor

namespace Ocr

def OcrResult.json (r : OcrResult) : JsonValue :=
  .object
    [ ("text", .string r.text),
      ("language", .string r.language),
      ("confidence", .number r.confidence),
      ("pageCount", .number (.finite r.pageCount)),
      ("wordCount", .number (.finite r.wordCount)),
      ("durationMs", .number (.finite r.durationMs)) ]

def Body.json : Body → JsonValue
  | .error message => .object [("error", .string message)]
  | .result r => r.json

theorem Body.json_text (b : Body) (format : JsonValue.Format) :
    b.json.stringify format ≠ "null" := by
  intro null
  have text : JsonValue.write format b.json = "null".toList := by
    rw [← null, JsonValue.stringify, String.toList_ofList]
  obtain ⟨rest, opened⟩ : ∃ rest, JsonValue.write format b.json = '\x7b' :: rest := by
    cases b <;> exact ⟨_, rfl⟩
  rw [opened] at text
  cases text

/-- What a response is sent with: the names of its status, and how numbers are written. -/
structure Wire where
  reason : Nat → String
  format : JsonValue.Format

/-- A response as the worker's `fetch` sees it. -/
def Wire.reply (wire : Wire) (r : Response) : OcrReply :=
  .response r.status (wire.reason r.status) (some (r.body.json.stringify wire.format))
    (.ok ⟨r.body.json.stringify wire.format, r.body.json_text wire.format⟩)

/-- A run of the service. -/
structure Service where
  host : Host
  disk : Disk
  scans : List Work

/-- The reply is what the service has sent to a request with this file. -/
def Service.Gave (service : Service) (wire : Wire) (file : List UInt8) (reply : OcrReply) : Prop :=
  ∃ id response, Workspace.arrived id service.scans = some (.file file) ∧
    response ∈ Workspace.responsesTo id
      (answers (Workspace.step service.host) (.init service.disk) service.scans) ∧
    reply = wire.reply response

/-- A successful reply of the service is a reading of the file. -/
theorem Service.Gave.reads {service : Service} {wire : Wire} {file : List UInt8}
    {reply : OcrReply} {env : Env} {data : Json} (gave : service.Gave wire file reply)
    (ok : ocrResult env reply = .ok data) :
    ∃ response, Reads service.host file response ∧
      data.val = response.body.json.stringify wire.format := by
  obtain ⟨id, response, arrived, sent, rfl⟩ := gave
  have served := Workspace.served_run service.host service.disk service.scans
  have ended : (run (Workspace.step service.host) (.init service.disk)
      service.scans).process.handlers id = some .ended := by
    by_contra running
    rw [served.silent id running] at sent
    cases sent
  obtain ⟨upload, response', arrived', answered, fits⟩ := served.answered id ended
  obtain rfl : upload = .file file := Option.some.inj (arrived'.symm.trans arrived)
  rw [answered] at sent
  obtain rfl := List.mem_singleton.mp sent
  obtain ⟨status, statusText, text, success, same⟩ := ocrResult_eq_ok ok
  cases fits with
  | inl reads =>
      cases same
      exact ⟨response, reads, rfl⟩
  | inr failed =>
      obtain ⟨message, rfl⟩ := failed
      cases same
      exact absurd success.2 (by simp [ocrFailed])

end Ocr

/-- The worker's calls get replies of the service, or are rejected on the way. -/
def Event.AsksService (service : Ocr.Service) (wire : Ocr.Wire) (e : Event) : Prop :=
  ∀ key fate, e.action = .work key fate → ∀ request, (∃ err, fate.fetch request = .rejected err) ∨
    service.Gave wire request.file (fate.fetch request)

section Exchanges
variable {env : Env} {P : OcrRequest → OcrReply → Prop}

theorem updateStep_exchange (scope : TenantScope) (fate : Fate) (db : Database) (id : String)
    (w : DocumentWrite) (next : HandlerPc) (caught : JsError → HandlerPc) :
    (updateStep env scope fate db id w next caught).exchange = none := by
  rw [updateStep]
  cases update env scope fate db id w <;> rfl

/-- The reply in an exchange is the one that the call was given. -/
theorem handleProcess_exchange {fate : Fate} {job : Job} {attemptsMade : Nat} {db : Database}
    {files : Files} {pc : HandlerPc} {x : OcrRequest × OcrReply}
    (asked : (handleProcess env fate job attemptsMade db files pc).exchange = some x) :
    x.2 = fate.fetch x.1 := by
  unfold handleProcess at asked
  cases found : forTenant job.tenantId with
  | error message =>
      rw [found] at asked
      cases asked
  | ok scope =>
      rw [found] at asked
      cases pc with
      | findUnique | readFile =>
          dsimp only at asked
          repeat' split at asked
          all_goals cases asked
      | updateProcessing | updateRejected | updateCompleted | incrementRetry | updateFailed =>
          dsimp only at asked
          rw [updateStep_exchange] at asked
          cases asked
      | runOcr d b =>
          dsimp only at asked
          split at asked
          all_goals cases asked
          all_goals rfl
      | returned | threw | crashed => cases asked

/-- What holds of all replies that the events bring holds of all exchanges. -/
theorem exchanges_step {s : State} {e : Event}
    (brings : ∀ key fate, e.action = .work key fate → ∀ request, P request (fate.fetch request))
    (h : ∀ dl ∈ s.deliveries, ∀ x ∈ dl.exchanges, P x.1 x.2) :
    ∀ dl ∈ (step env s e).1.deliveries, ∀ x ∈ dl.exchanges, P x.1 x.2 := by
  by_cases work : ∃ key fate, e.action = .work key fate
  · obtain ⟨key, fate, action⟩ := work
    rw [step, action]
    dsimp only
    rw [State.work]
    cases found : s.deliveries.find? e.tenant.val key with
    | none => exact h
    | some dl =>
        refine Table.forall_put h fun x mem => ?_
        cases List.mem_append.mp mem with
        | inl old => exact h dl (Table.find?_eq_some.mp found).1 x old
        | inr new =>
            rw [handleProcess_exchange (Option.mem_toList.mp new)]
            exact brings key fate action x.1
  · have tr := step_transition env s e
    revert tr
    generalize (step env s e).1 = s'
    intro tr
    cases tr with
    | idle | listed | received | refused | saved | created | enqueued => exact h
    | delivered t key job attemptsMade mem own free =>
        exact Table.forall_insert h fun x mem => by cases mem
    | worked t fate d wrote exchange pc mem own move => exact absurd ⟨_, _, rfl⟩ work
    | crashed t d mem live => exact Table.forall_put h fun x there => h d mem x there

theorem exchanges_run (tenants : List Tenant) (users : List User) (apiKeys : List ApiKey)
    {es : List Event}
    (brings : ∀ e ∈ es, ∀ key fate, e.action = .work key fate →
      ∀ request, P request (fate.fetch request)) :
    ∀ dl ∈ (run (step env) (State.init tenants users apiKeys) es).deliveries,
      ∀ x ∈ dl.exchanges, P x.1 x.2 :=
  run_invariant (step env)
    (fun s e (h : ∀ dl ∈ s.deliveries, ∀ x ∈ dl.exchanges, P x.1 x.2) he =>
      exchanges_step (brings e he) h)
    (fun dl hdl => absurd hdl (Table.not_mem_empty dl)) (along_of_mem (step env) _ fun _ he => he)

end Exchanges

/-- The answer that a row's result is from was given to the file submitted for the row. -/
theorem result_of_submitted (env : Env) (tenants : List Tenant) (users : List User)
    (apiKeys : List ApiKey) {es : List Event} (fresh : (es.filterMap Event.fileUuid).Nodup)
    {d : Document} (hd : d ∈ (run (step env) (State.init tenants users apiKeys) es).db.documents)
    {data : Json} (result : d.extractedData = some data) :
    ∃ file, Submitted env (run (step env) (State.init tenants users apiKeys) es) d.submission file ∧
      ∃ dl ∈ (run (step env) (State.init tenants users apiKeys) es).deliveries,
        ∃ reply, (OcrRequest.ofFile file, reply) ∈ dl.exchanges ∧ ocrResult env reply = .ok data := by
  have ok := run_invariant (step env)
    (fun s e (h : Integrity env s) fresh => h.preserved (step_transition env s e) fresh)
    (Integrity.init env tenants users apiKeys)
    (along_freshFile env fresh fun _ => rfl)
  obtain ⟨dl, hdl, hid, x, hx, answer⟩ := ok.results d hd data result
  obtain ⟨r, hr, hrid, file, sub, asked⟩ := (ok.deliveries dl hdl).asked x hx
  have here : d.submission = r :=
    List.inj_on_of_nodup_map ok.coherent.ids (mem_submissions.mpr ⟨d, hd, rfl⟩) hr
      (hid.symm.trans hrid.symm)
  have same : x = (OcrRequest.ofFile file, x.2) := Prod.ext asked rfl
  exact ⟨file, here ▸ sub, dl, hdl, x.2, same ▸ hx, answer⟩

/-- The text of the result is what the command reads in the bytes that were uploaded for
this very row, however the uploads, the workers' calls and the service's requests interleave. -/
theorem result_reads_upload (env : Env) (tenants : List Tenant) (users : List User)
    (apiKeys : List ApiKey) (service : Ocr.Service) (wire : Ocr.Wire) (es : List Event)
    (fresh : (es.filterMap Event.fileUuid).Nodup)
    (asks : ∀ e ∈ es, e.AsksService service wire) :
    ∀ d ∈ (run (step env) (State.init tenants users apiKeys) es).db.documents,
      ∀ data, d.extractedData = some data →
        ∃ c ∈ (run (step env) (State.init tenants users apiKeys) es).uploads,
          (∃ e ∈ es, c.StartedBy e) ∧ (∃ row, c.created = some row ∧ row.id = d.id) ∧
            ∃ response, Ocr.Reads service.host c.file.buffer response ∧
              data.val = response.body.json.stringify wire.format := by
  intro d hd data result
  obtain ⟨file, sub, dl, hdl, reply, asked, answer⟩ :=
    result_of_submitted env tenants users apiKeys fresh hd result
  obtain ⟨c, hc, rfl, created⟩ := sub.call
  refine ⟨c, hc, uploads_started env tenants users apiKeys es c hc, created, ?_⟩
  have given := exchanges_run tenants users apiKeys
    (P := fun request reply => (∃ err, reply = .rejected err) ∨ service.Gave wire request.file reply)
    asks dl hdl _ asked
  cases given with
  | inl rejected =>
      obtain ⟨err, rfl⟩ := rejected
      cases answer
  | inr gave => exact gave.reads answer

namespace Scanned
open Sample

/-- A service that has read one scan. -/
def service : Ocr.Service where
  host :=
    { language := "eng"
      tmpPrefix := "/tmp/ocr-"
      tesseract := fun _ => ⟨some [0x31, 0x32, 0x0a], none⟩
      utf8 := fun bytes => String.ofList (bytes.map fun b => Char.ofNat b.toNat)
      cannotOpen := ⟨"Command failed", "Image file cannot be read!"⟩ }
  disk := fun _ => none
  scans :=
    .request 0 (.file scan.buffer) ::
      List.replicate 5 (.settle 0 3 (.done "Ab3xYz" "0d1f6f6e-8d0c-4f4e-9d3e-1a2b3c4d5e6f"))

def wire : Ocr.Wire := ⟨fun _ => "OK", .digits⟩

def response : Ocr.Response := Ocr.recognised "eng" 3 3 ['1', '2'] (.finite 0)

/-- The worker reaches the service with the scan, and with nothing else. -/
def fate : Fate where
  fails := none
  now := 7
  fetch request :=
    if request.file = scan.buffer then wire.reply response else .rejected .abort

def events : List Event :=
  uploaded acme file1 doc1 ++ ⟨acme, .deliver 0 doc1.val 0⟩ :: List.replicate 5 ⟨acme, .work 0 fate⟩

theorem events_ask : ∀ e ∈ events, e.AsksService service wire := by
  intro e he key f action request
  have same : f = fate := by
    simp only [events, uploaded, List.cons_append, List.nil_append, List.mem_cons,
      List.mem_replicate] at he
    rcases he with rfl | rfl | rfl | rfl | rfl | ⟨-, rfl⟩ <;> cases action
    rfl
  subst same
  by_cases here : request.file = scan.buffer
  · refine Or.inr ⟨0, response, ?_, ?_, if_pos here⟩
    · rw [here]
      rfl
    · decide +kernel
  · exact Or.inl ⟨.abort, if_neg here⟩

end Scanned

theorem result_reads_upload_scan :
    ∃ d ∈ (run (step Sample.env) (State.init [] [] []) Scanned.events).db.documents,
      ∃ data, d.extractedData = some data ∧
        ∃ c ∈ (run (step Sample.env) (State.init [] [] []) Scanned.events).uploads,
          (∃ e ∈ Scanned.events, c.StartedBy e) ∧ (∃ row, c.created = some row ∧ row.id = d.id) ∧
            ∃ response, Ocr.Reads Scanned.service.host c.file.buffer response ∧
              data.val = response.body.json.stringify Scanned.wire.format := by
  have results : (run (step Sample.env) (State.init [] [] []) Scanned.events).db.documents.map
      (fun d => d.extractedData.isSome) = [true] := by decide +kernel
  obtain ⟨d, hd, some⟩ := List.mem_map.mp (results ▸ List.mem_cons_self)
  obtain ⟨data, result⟩ := Option.isSome_iff_exists.mp some
  exact ⟨d, hd, data, result, result_reads_upload Sample.env [] [] [] Scanned.service Scanned.wire
    Scanned.events (by decide +kernel) Scanned.events_ask d hd data result⟩

end IdpSaas

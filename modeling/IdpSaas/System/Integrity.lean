import IdpSaas.System.Lifecycle

/-!
Where the result of a document comes from. The bytes of an upload pass through the
upload directory, the path in the row, the queue, a scoped lookup, a read and the
request to the OCR service. Each stage is tied to the file that was submitted, so an
answer that reaches a row was given to that row's own bytes, name and type.
-/

namespace IdpSaas
open Owned Posix DocumentsService LocalStorageService ProcessingProcessor Machine

/-- The path names a place of the tenant that holds the content of the file. -/
def Kept (env : Env) (files : Files) (tenantId : String) (file : MulterFile)
    (path : String) : Prop :=
  ∃ tenant uuid : Uuid, tenantId = tenant.val ∧
    path = storagePath env tenant.val uuid file.originalname ∧
    files (savedPlace env tenant.val uuid file.originalname) = some file.buffer

/-- The document was created by an upload of this file, and its columns describe it. -/
structure Submitted (env : Env) (s : State) (r : Submission) (file : MulterFile) : Prop where
  call : ∃ c ∈ s.uploads, c.file = file ∧ ∃ row, c.created = some row ∧ row.id = r.id
  originalName : r.originalName = file.originalname
  mimeType : r.mimeType = file.mimetype
  sizeBytes : r.sizeBytes = file.buffer.length
  checksumSha256 : r.checksumSha256 = some (env.sha256 file.buffer)
  kept : Kept env s.files r.tenantId file r.storagePath

def OcrRequest.ofFile (file : MulterFile) : OcrRequest :=
  ⟨file.buffer, file.originalname, file.mimetype⟩

/-- The row that the handler has loaded. -/
def HandlerPc.document? : HandlerPc → Option Document
  | .updateProcessing d | .updateRejected d | .readFile d | .runOcr d _ => some d
  | _ => none

/-- What an upload call has done so far. -/
structure UploadCall.Sound (env : Env) (files : Files) (c : UploadCall) : Prop where
  saving : c.pc = .save → c.created = none
  creating : ∀ stored, c.pc = .create stored → c.created = none ∧
    stored.sizeBytes = c.file.buffer.length ∧
    stored.checksumSha256 = env.sha256 c.file.buffer ∧
    Kept env files c.tenantId c.file stored.storagePath

/-- What a delivery works on is what was submitted for its document. -/
structure Delivery.Faithful (env : Env) (s : State) (dl : Delivery) : Prop where
  loaded : ∀ d, dl.pc.document? = some d →
    d.submission ∈ s.submissions ∧ d.id = dl.job.documentId
  content : ∀ d b, dl.pc = .runOcr d b →
    ∃ file, Submitted env s d.submission file ∧ file.buffer = b
  asked : ∀ x ∈ dl.exchanges, ∃ r ∈ s.submissions, r.id = dl.job.documentId ∧
    ∃ file, Submitted env s r file ∧ x.1 = .ofFile file
  answered : ∀ data, dl.pc = .updateCompleted data →
    ∃ x ∈ dl.exchanges, ocrResult env x.2 = .ok data

/-- A delivery of the document has been given this answer. -/
def Answered (env : Env) (s : State) (id : String) (data : Json) : Prop :=
  ∃ dl ∈ s.deliveries, dl.job.documentId = id ∧
    ∃ x ∈ dl.exchanges, ocrResult env x.2 = .ok data

structure Integrity (env : Env) (s : State) : Prop where
  coherent : Coherent s
  uploads : ∀ c ∈ s.uploads, c.Sound env s.files
  submitted : ∀ r ∈ s.submissions, ∃ file, Submitted env s r file
  deliveries : ∀ dl ∈ s.deliveries, dl.Faithful env s
  results : ∀ d ∈ s.db.documents, ∀ data, d.extractedData = some data → Answered env s d.id data

/-- No file has been written under the id that an event is about to use. -/
def FreshFile (env : Env) (s : State) (e : Event) : Prop :=
  match e.action with
  | .storageSave _ uuid _ => ∀ t n, s.files (savedPlace env t uuid n) = none
  | _ => True

/-- What has been stored and submitted in the one state is there in the other. -/
structure Retains (env : Env) (s s' : State) : Prop where
  kept : ∀ {tenantId path : String} {file : MulterFile},
    Kept env s.files tenantId file path → Kept env s'.files tenantId file path
  calls : ∀ c ∈ s.uploads, ∀ row, c.created = some row →
    ∃ c' ∈ s'.uploads, c'.file = c.file ∧ c'.created = some row
  submissions : ∀ r ∈ s.submissions, r ∈ s'.submissions

section Retained
variable {env : Env} {s s' : State}

theorem Submitted.retained {r : Submission} {file : MulterFile} (h : Submitted env s r file)
    (retains : Retains env s s') : Submitted env s' r file := by
  obtain ⟨c, hc, hfile, row, created, hid⟩ := h.call
  obtain ⟨c', hc', hfile', created'⟩ := retains.calls c hc row created
  exact ⟨⟨c', hc', hfile'.trans hfile, row, created', hid⟩, h.originalName, h.mimeType,
    h.sizeBytes, h.checksumSha256, retains.kept h.kept⟩

theorem Delivery.Faithful.retained {dl : Delivery} (h : dl.Faithful env s)
    (retains : Retains env s s') : dl.Faithful env s' where
  loaded d hd := ⟨retains.submissions _ (h.loaded d hd).1, (h.loaded d hd).2⟩
  content d b hpc := by
    obtain ⟨file, sub, hb⟩ := h.content d b hpc
    exact ⟨file, sub.retained retains, hb⟩
  asked x hx := by
    obtain ⟨r, hr, hid, file, sub, hreq⟩ := h.asked x hx
    exact ⟨r, retains.submissions r hr, hid, file, sub.retained retains, hreq⟩
  answered := h.answered

theorem UploadCall.Sound.retained {c : UploadCall} (h : c.Sound env s.files)
    (retains : Retains env s s') : c.Sound env s'.files where
  saving := h.saving
  creating stored hpc := by
    obtain ⟨new, size, checksum, content⟩ := h.creating stored hpc
    exact ⟨new, size, checksum, retains.kept content⟩

/-- Writing under an unused id leaves what is kept. -/
theorem Kept.write {files : Files} {tenantId path : String} {file : MulterFile}
    (h : Kept env files tenantId file path) {uuid : Uuid}
    (unused : ∀ t n, files (savedPlace env t uuid n) = none) (t : Uuid) (n : String) (b : Bytes) :
    Kept env (files.write (locate (fullPath env t.val uuid n)) b) tenantId file path := by
  obtain ⟨tenant, uuid', rfl, rfl, content⟩ := h
  refine ⟨tenant, uuid', rfl, rfl, ?_⟩
  have elsewhere : savedPlace env tenant.val uuid' file.originalname ≠
      locate (fullPath env t.val uuid n) := by
    intro same
    rw [locate_fullPath] at same
    rw [same, unused] at content
    cases content
  exact (if_neg elsewhere).trans content

/-- The account tables play no part in it, nor files under ids of their own. -/
theorem Integrity.rebase (h : Integrity env s) {db : Database} {files : Files}
    (documents : db.documents = s.db.documents)
    (kept : ∀ {tenantId path : String} {file : MulterFile},
      Kept env s.files tenantId file path → Kept env files tenantId file path) :
    Integrity env { s with db := db, files := files } := by
  have submissions : ({ s with db := db, files := files } : State).submissions = s.submissions :=
    congrArg (List.map Document.submission) documents
  have names : ∀ {id t}, s.Names id t →
      ({ s with db := db, files := files } : State).Names id t := by
    intro id t named
    rwa [State.Names, submissions]
  have retains : Retains env s { s with db := db, files := files } :=
    ⟨kept, fun c hc row created => ⟨c, hc, rfl, created⟩, fun r hr => submissions.symm ▸ hr⟩
  refine ⟨⟨submissions.symm ▸ h.coherent.ids, fun c hc d pc => names (h.coherent.adding c hc d pc),
    fun j hj => names (h.coherent.queued j hj), h.coherent.delivered⟩,
    fun c hc => (h.uploads c hc).retained retains, fun r hr => ?_,
    fun dl hdl => (h.deliveries dl hdl).retained retains, fun d hd => ?_⟩
  · obtain ⟨file, sub⟩ := h.submitted r (submissions ▸ hr)
    exact ⟨file, sub.retained retains⟩
  · rw [documents] at hd
    exact h.results d hd

end Retained

section Preservation
variable {env : Env} {s s' : State} {e : Event}

/-- Upload calls go on: they keep their file, and the row they have created. -/
theorem Transition.call_kept (tr : Transition env s e s')
    (sound : ∀ c ∈ s.uploads, c.Sound env s.files) {file : MulterFile} {row : Document}
    (h : ∃ c ∈ s.uploads, c.file = file ∧ c.created = some row) :
    ∃ c ∈ s'.uploads, c.file = file ∧ c.created = some row := by
  cases tr with
  | idle | listed | delivered | worked | crashed => exact h
  | received t key userId file free checked =>
      obtain ⟨c, hc, kept⟩ := h
      exact ⟨c, Table.mem_insert_of_mem hc, kept⟩
  | refused _ c mem => exact Table.exists_put mem rfl id h
  | saved t uuid c mem own pc => exact Table.exists_put mem rfl id h
  | enqueued t c document mem own pc => exact Table.exists_put mem rfl id h
  | created t uuid now c stored mem own pc free =>
      refine Table.exists_put mem rfl (fun done => ?_) h
      rw [((sound c mem).creating stored pc).1] at done
      cases done.2

theorem Transition.retains (tr : Transition env s e s') (fresh : FreshFile env s e)
    (sound : ∀ c ∈ s.uploads, c.Sound env s.files) : Retains env s s' where
  kept content := by
    cases tr with
    | idle | listed | received | refused | created | enqueued | delivered | worked | crashed =>
        exact content
    | saved t uuid c mem own pc => exact content.write fresh t c.file.originalname c.file.buffer
  calls c hc _ created := tr.call_kept sound ⟨c, hc, rfl, created⟩
  submissions := tr.submissions_grow

theorem kept_save (env : Env) (files : Files) (tenant uuid : Uuid) (file : MulterFile) :
    Kept env (save env tenant.val uuid file.buffer file.originalname files).2 tenant.val file
      (save env tenant.val uuid file.buffer file.originalname files).1.storagePath := by
  refine ⟨tenant, uuid, rfl, rfl, ?_⟩
  rw [← locate_fullPath]
  exact if_pos rfl

theorem Integrity.uploads_step (h : Integrity env s) (tr : Transition env s e s')
    (fresh : FreshFile env s e) : ∀ c ∈ s'.uploads, c.Sound env s'.files := by
  have old : ∀ c ∈ s.uploads, c.Sound env s'.files :=
    fun c hc => (h.uploads c hc).retained (tr.retains fresh h.uploads)
  cases tr with
  | idle | listed | delivered | worked | crashed => exact old
  | received t key userId file free checked =>
      exact Table.forall_insert old ⟨fun _ => rfl, nofun⟩
  | refused | created | enqueued => exact Table.forall_put old ⟨nofun, nofun⟩
  | saved t uuid c mem own pc =>
      refine Table.forall_put old ⟨nofun, fun stored hpc => ?_⟩
      cases hpc
      have content := kept_save env s.files t uuid c.file
      rw [← own] at content ⊢
      exact ⟨(h.uploads c mem).saving pc, rfl, rfl, content⟩

theorem Integrity.submitted_step (h : Integrity env s) (tr : Transition env s e s')
    (fresh : FreshFile env s e) : ∀ r ∈ s'.submissions, ∃ file, Submitted env s' r file := by
  intro r hr
  have old : r ∈ s.submissions → ∃ file, Submitted env s' r file := by
    intro hr
    obtain ⟨file, sub⟩ := h.submitted r hr
    exact ⟨file, sub.retained (tr.retains fresh h.uploads)⟩
  cases tr with
  | idle | listed | received | refused | saved | enqueued | delivered | crashed => exact old hr
  | worked t fate dl wrote exchange pc mem own move =>
      rw [State.submissions, written_submissions] at hr
      exact old hr
  | created t uuid now c stored mem own pc free =>
      rw [State.submissions, List.map_append] at hr
      cases List.mem_append.mp hr with
      | inl hr => exact old hr
      | inr hr =>
          rw [List.mem_singleton.mp hr]
          obtain ⟨_, size, checksum, content⟩ := (h.uploads c mem).creating stored pc
          exact ⟨c.file, ⟨_, Table.mem_put_self mem rfl, rfl, _, rfl, rfl⟩, rfl, rfl, size,
            congrArg some checksum, content⟩

/-- A step that asks the OCR service nothing. -/
theorem Delivery.Faithful.silent {dl : Delivery} (h : dl.Faithful env s)
    (wrote : Option DocumentWrite) {pc : HandlerPc}
    (loaded : ∀ d, pc.document? = some d →
      d.submission ∈ s.submissions ∧ d.id = dl.job.documentId)
    (content : ∀ d b, pc = .runOcr d b → ∃ file, Submitted env s d.submission file ∧ file.buffer = b)
    (answered : ∀ data, pc ≠ .updateCompleted data) :
    (dl.after pc wrote none).Faithful env s where
  loaded := loaded
  content := content
  asked := by
    simp only [Delivery.after, Option.toList_none, List.append_nil]
    exact h.asked
  answered data hpc := absurd hpc (answered data)

/-- Where the handler holds neither a row nor a result. -/
def HandlerPc.plain : HandlerPc → Bool
  | .findUnique | .incrementRetry _ | .updateFailed _ | .returned _ | .threw _ | .crashed => true
  | _ => false

theorem Delivery.Faithful.plain {dl : Delivery} (h : dl.Faithful env s)
    (wrote : Option DocumentWrite) {pc : HandlerPc} (plain : pc.plain = true) :
    (dl.after pc wrote none).Faithful env s := by
  refine h.silent wrote ?_ ?_ ?_
  · intro d hd
    have empty : pc.document? = none := by cases pc <;> first | rfl | cases plain
    rw [empty] at hd
    cases hd
  · rintro d b rfl
    cases plain
  · rintro data rfl
    cases plain

theorem HandlerPc.plain_of_ended {pc : HandlerPc} (h : pc.ended = true) : pc.plain = true := by
  cases pc <;> first | rfl | cases h

/-- The request a delivery sends carries the file submitted for its document. -/
theorem Delivery.Faithful.request {dl : Delivery} (h : dl.Faithful env s) {d : Document}
    {b : Bytes} (hpc : dl.pc = .runOcr d b) (reply : OcrReply)
    (x : OcrRequest × OcrReply)
    (hx : x ∈ dl.exchanges ++ [(⟨b, d.originalName, d.mimeType⟩, reply)]) :
    ∃ r ∈ s.submissions, r.id = dl.job.documentId ∧
      ∃ file, Submitted env s r file ∧ x.1 = .ofFile file := by
  cases List.mem_append.mp hx with
  | inl old => exact h.asked x old
  | inr new =>
      rw [List.mem_singleton.mp new]
      obtain ⟨mem, id⟩ := h.loaded d (by rw [hpc]; rfl)
      obtain ⟨file, sub, rfl⟩ := h.content d b hpc
      refine ⟨d.submission, mem, id, file, sub, ?_⟩
      have name : d.originalName = file.originalname := sub.originalName
      have type : d.mimeType = file.mimetype := sub.mimeType
      rw [OcrRequest.ofFile, name, type]

/-- A step of the handler keeps to what was submitted. -/
theorem Integrity.faithful_after (h : Integrity env s) {dl : Delivery} (mem : dl ∈ s.deliveries)
    {wrote : Option DocumentWrite} {exchange : Option (OcrRequest × OcrReply)} {pc : HandlerPc}
    (move : Move env dl.job dl.attemptsMade s.db s.files dl.pc wrote exchange pc) :
    (dl.after pc wrote exchange).Faithful env s := by
  have was := h.deliveries dl mem
  clear mem
  obtain ⟨key, job, n, pc₀, writes, exchanges⟩ := dl
  cases move with
  | found d row =>
      refine was.silent none (fun d' hd' => ?_) (fun _ _ h => nomatch h) (fun _ h => nomatch h)
      cases hd'
      have hd := List.mem_of_find?_eq_some row
      exact ⟨mem_submissions.mpr ⟨d, hd, rfl⟩, (selects_iff.mp (List.find?_some row)).2⟩
  | claimed d now image | claimedPdf d now pdf =>
      exact was.silent _ (fun d' hd' => was.loaded d' hd') (fun _ _ h => nomatch h)
        (fun _ h => nomatch h)
  | read d b found =>
      refine was.silent none (fun d' hd' => was.loaded d' hd') (fun d' b' hpc => ?_)
        (fun _ h => nomatch h)
      cases hpc
      obtain ⟨file, sub⟩ := h.submitted _ (was.loaded d rfl).1
      obtain ⟨tenant, uuid, -, path, content⟩ := sub.kept
      change d.storagePath = _ at path
      rw [path] at found
      rw [read_eq_ok env found] at content
      exact ⟨file, sub, (Option.some.inj content).symm⟩
  | answered d b reply data result =>
      refine ⟨fun _ h => (nomatch h), fun _ _ h => (nomatch h), was.request rfl reply,
        fun data' hpc => ?_⟩
      cases hpc
      exact ⟨_, List.mem_append_right _ (List.mem_singleton.mpr rfl), result⟩
  | unanswered d b reply err result =>
      exact ⟨fun _ h => (nomatch h), fun _ _ h => (nomatch h), was.request rfl reply,
        fun _ h => nomatch h⟩
  | unread | uncompleted | countedFinal | rejected | completed | counted | failed | threw =>
      exact was.plain _ rfl
  | idle pc done => exact was.plain none (HandlerPc.plain_of_ended done)

theorem Integrity.deliveries_step (h : Integrity env s) (tr : Transition env s e s')
    (fresh : FreshFile env s e) : ∀ dl ∈ s'.deliveries, dl.Faithful env s' := by
  have retains := tr.retains fresh h.uploads
  have old : ∀ dl ∈ s.deliveries, dl.Faithful env s' :=
    fun dl hdl => (h.deliveries dl hdl).retained retains
  cases tr with
  | idle | listed | received | refused | saved | created | enqueued => exact old
  | delivered t key job attemptsMade mem own free =>
      exact Table.forall_insert old ⟨fun _ h => (nomatch h), fun _ _ h => (nomatch h),
        fun _ hx => (nomatch hx), fun _ h => nomatch h⟩
  | worked t fate dl wrote exchange pc mem own move =>
      exact Table.forall_put old ((h.faithful_after mem move).retained retains)
  | crashed t dl mem live =>
      exact Table.forall_put old ⟨fun _ h => (nomatch h), fun _ _ h => (nomatch h),
        (old dl mem).asked, fun _ h => nomatch h⟩

theorem Transition.answered_kept (tr : Transition env s e s') {id : String} {data : Json}
    (h : Answered env s id data) : Answered env s' id data := by
  cases tr with
  | idle | listed | received | refused | saved | created | enqueued => exact h
  | delivered t key job attemptsMade mem own free =>
      obtain ⟨dl, hdl, answered⟩ := h
      exact ⟨dl, Table.mem_insert_of_mem hdl, answered⟩
  | worked t fate dl wrote exchange pc mem own move =>
      refine Table.exists_put mem rfl (fun answered => ?_) h
      obtain ⟨hid, x, hx, result⟩ := answered
      exact ⟨hid, x, List.mem_append_left _ hx, result⟩
  | crashed t dl mem live => exact Table.exists_put mem rfl (fun answered => answered) h

theorem Move.completes {dl : Delivery} {now : Time} {data : Json}
    {exchange : Option (OcrRequest × OcrReply)} {pc : HandlerPc}
    (move : Move env dl.job dl.attemptsMade s.db s.files dl.pc (some (.completed now data))
      exchange pc) : dl.pc = .updateCompleted data := by
  generalize dl.pc = pc₀ at move
  cases move
  rfl

/-- Only a COMPLETED write brings a result into a row, and it brings an answer. -/
theorem Integrity.results_written (h : Integrity env s) {dl : Delivery} (mem : dl ∈ s.deliveries)
    {w : DocumentWrite} {exchange : Option (OcrRequest × OcrReply)} {pc : HandlerPc}
    (move : Move env dl.job dl.attemptsMade s.db s.files dl.pc (some w) exchange pc)
    {d' : Document} (hd' : d' ∈ (s.db.write dl.job.tenantId dl.job.documentId w).documents)
    {data : Json} (hdata : d'.extractedData = some data) : Answered env s d'.id data := by
  obtain ⟨d, hd, same, change⟩ := h.coherent.mem_written mem hd'
  have carried : d.extractedData = some data → Answered env s d'.id data :=
    fun hdata => same ▸ h.results d hd data hdata
  cases change with
  | inr other => exact carried (other.2 ▸ hdata)
  | inl own =>
      obtain ⟨named, rfl⟩ := own
      cases w with
      | processing | rejected | increment | failed => exact carried hdata
      | completed now data' =>
          cases hdata
          obtain ⟨x, hx, result⟩ := (h.deliveries dl mem).answered data (Move.completes move)
          exact ⟨dl, mem, named.symm, x, hx, result⟩

theorem Integrity.results_step (h : Integrity env s) (tr : Transition env s e s') :
    ∀ d ∈ s'.db.documents, ∀ data, d.extractedData = some data → Answered env s' d.id data := by
  intro d' hd' data hdata
  apply tr.answered_kept
  cases tr with
  | idle | listed | received | refused | saved | enqueued | delivered | crashed =>
      exact h.results d' hd' data hdata
  | created t uuid now c stored mem own pc free =>
      cases List.mem_append.mp hd' with
      | inl hd => exact h.results d' hd data hdata
      | inr hd =>
          rw [List.mem_singleton.mp hd] at hdata
          cases hdata
  | worked t fate dl wrote exchange pc mem own move =>
      cases wrote with
      | none => exact h.results d' hd' data hdata
      | some w => exact h.results_written mem move hd' hdata

theorem Integrity.preserved (h : Integrity env s) (tr : Transition env s e s')
    (fresh : FreshFile env s e) : Integrity env s' :=
  ⟨h.coherent.preserved tr, h.uploads_step tr fresh, h.submitted_step tr fresh,
    h.deliveries_step tr fresh, h.results_step tr⟩

end Preservation

theorem Integrity.init (env : Env) (tenants : List Tenant) (users : List User)
    (apiKeys : List ApiKey) : Integrity env (State.init tenants users apiKeys) where
  coherent := Coherent.init tenants users apiKeys
  uploads c hc := absurd hc (Table.not_mem_empty c)
  submitted _ hr := nomatch hr
  deliveries dl hdl := absurd hdl (Table.not_mem_empty dl)
  results _ hd := nomatch hd

/-- The id generated for a file to be saved. -/
def Event.fileUuid (e : Event) : Option Uuid :=
  match e.action with
  | .storageSave _ uuid _ => some uuid
  | _ => none

/-- A file has been saved under the id. -/
def FileUsed (env : Env) (s : State) (u : Uuid) : Prop :=
  ∃ t n, s.files (savedPlace env t u n) ≠ none

theorem fileUsed_write {env : Env} {s : State} {t uuid u : Uuid} {n : String} {b : Bytes}
    (h : FileUsed env
      { s with files := s.files.write (locate (fullPath env t.val uuid n)) b } u) :
    FileUsed env s u ∨ uuid = u := by
  obtain ⟨t', n', used⟩ := h
  by_cases here : savedPlace env t' u n' = locate (fullPath env t.val uuid n)
  · rw [locate_fullPath] at here
    exact Or.inr (savedPlace_uuid env here).symm
  · exact Or.inl ⟨t', n', fun none => used ((if_neg here).trans none)⟩

theorem Transition.file_used {env : Env} {s s' : State} {e : Event} (tr : Transition env s e s')
    {u : Uuid} (h : FileUsed env s' u) : FileUsed env s u ∨ e.fileUuid = some u := by
  cases tr with
  | idle | listed | received | refused | created | enqueued | delivered | worked | crashed =>
      exact Or.inl h
  | saved t uuid c mem own pc =>
      have used := fileUsed_write (s := s) (n := c.file.originalname) (b := c.file.buffer) h
      exact used.imp_right (congrArg some)

theorem freshFile_of_unused {env : Env} {s : State} {e : Event}
    (unused : ∀ u, e.fileUuid = some u → ¬FileUsed env s u) : FreshFile env s e := by
  obtain ⟨t, action⟩ := e
  cases action with
  | storageSave key uuid fails =>
      intro t' n
      apply Classical.byContradiction
      intro taken
      exact unused uuid rfl ⟨t', n, taken⟩
  | upload | documentCreate | queueAdd | list | findMany | count | findOne | deliver | work
  | crash => trivial

/-- If no id is generated twice, no file is ever saved under an id in use. -/
theorem along_freshFile (env : Env) {s : State} {es : List Event}
    (nodup : (es.filterMap Event.fileUuid).Nodup) (empty : ∀ p, s.files p = none) :
    Along (step env) (FreshFile env) s es := by
  have unused : ∀ u, FileUsed env s u → u ∉ es.filterMap Event.fileUuid := by
    rintro u ⟨t, n, used⟩
    exact absurd (empty _) used
  have grows := fun s e u => (step_transition env s e).file_used (u := u)
  exact (along_fresh (step env) grows nodup unused).mono (step env)
    fun _ _ unused => freshFile_of_unused unused

/-- The call was started by this event. -/
def UploadCall.StartedBy (c : UploadCall) (e : Event) : Prop :=
  e.tenant.val = c.tenantId ∧ e.action = .upload c.key c.userId (some c.file)

theorem Transition.started {env : Env} {s s' : State} {e : Event} (tr : Transition env s e s')
    {P : Event → Prop} (he : P e) (h : ∀ c ∈ s.uploads, ∃ e, P e ∧ c.StartedBy e) :
    ∀ c ∈ s'.uploads, ∃ e, P e ∧ c.StartedBy e := by
  cases tr with
  | idle | listed | delivered | worked | crashed => exact h
  | received t key userId file free checked => exact Table.forall_insert h ⟨_, he, rfl, rfl⟩
  | refused _ c mem | saved t uuid c mem own pc | created t uuid now c stored mem own pc free
  | enqueued t c document mem own pc => exact Table.forall_put h (h c mem)

/-- Every upload call of a run was started by one of its events, with the file submitted there. -/
theorem uploads_started (env : Env) (tenants : List Tenant) (users : List User)
    (apiKeys : List ApiKey) (es : List Event) :
    ∀ c ∈ (run (step env) (State.init tenants users apiKeys) es).uploads,
      ∃ e ∈ es, c.StartedBy e :=
  run_invariant (step env)
    (fun s e (h : ∀ c ∈ s.uploads, ∃ e ∈ es, c.StartedBy e) he =>
      (step_transition env s e).started he h)
    (fun c hc => absurd hc (Table.not_mem_empty c)) (along_of_mem (step env) _ fun _ he => he)

theorem ocrResult_eq_ok {env : Env} {reply : OcrReply} {data : Json}
    (h : ocrResult env reply = .ok data) :
    ∃ status statusText text, (200 ≤ status ∧ status ≤ 299) ∧
      reply = .response status statusText text (.ok data) := by
  cases reply with
  | rejected err => cases h
  | response status statusText text json =>
      simp only [ocrResult] at h
      split at h
      · rename_i success
        cases json with
        | error err => cases h
        | ok data' => cases h; exact ⟨status, statusText, text, success, rfl⟩
      · cases h

/-- The document was created by an upload that an event of the run started; its columns
describe the file submitted there, and its result is an answer that a delivery of this
document got from the OCR service for a request with exactly that file. -/
def HasProvenance (env : Env) (es : List Event) (s : State) (d : Document) : Prop :=
  ∃ c ∈ s.uploads, (∃ e ∈ es, c.StartedBy e) ∧ (∃ row, c.created = some row ∧ row.id = d.id) ∧
    d.originalName = c.file.originalname ∧ d.mimeType = c.file.mimetype ∧
    d.sizeBytes = c.file.buffer.length ∧ d.checksumSha256 = some (env.sha256 c.file.buffer) ∧
    ∃ dl ∈ s.deliveries, dl.job.documentId = d.id ∧
      ∃ status statusText text data, (200 ≤ status ∧ status ≤ 299) ∧
        (⟨c.file.buffer, d.originalName, d.mimeType⟩,
          .response status statusText text (.ok data)) ∈ dl.exchanges ∧
        d.extractedData = some data

/-- Whenever a document is COMPLETED, its result comes from the bytes it was uploaded with. -/
theorem completed_has_provenance (env : Env) (tenants : List Tenant) (users : List User)
    (apiKeys : List ApiKey) (es : List Event)
    (fresh : (es.filterMap Event.fileUuid).Nodup) :
    ∀ d ∈ (run (step env) (State.init tenants users apiKeys) es).db.documents,
      d.status = .completed →
        HasProvenance env es (run (step env) (State.init tenants users apiKeys) es) d := by
  intro d hd completed
  have ok := run_invariant (step env)
    (fun s e (h : Integrity env s) fresh => h.preserved (step_transition env s e) fresh)
    (Integrity.init env tenants users apiKeys)
    (along_freshFile env fresh fun _ => rfl)
  have row := (Lifecycle.reachable env tenants users apiKeys es).rows d hd
  obtain ⟨data, hdata⟩ := Option.ne_none_iff_exists'.mp (row.completed completed).1
  obtain ⟨dl, hdl, hid, x, hx, result⟩ := ok.results d hd data hdata
  obtain ⟨r, hr, hrid, file, sub, asked⟩ := (ok.deliveries dl hdl).asked x hx
  have here : d.submission = r :=
    List.inj_on_of_nodup_map ok.coherent.ids (mem_submissions.mpr ⟨d, hd, rfl⟩) hr
      (hid.symm.trans hrid.symm)
  subst here
  obtain ⟨c, hc, rfl, created⟩ := sub.call
  have started := uploads_started env tenants users apiKeys es c hc
  obtain ⟨status, statusText, text, success, reply⟩ := ocrResult_eq_ok result
  have name : d.originalName = c.file.originalname := sub.originalName
  have type : d.mimeType = c.file.mimetype := sub.mimeType
  refine ⟨c, hc, started, created, name, type, sub.sizeBytes, sub.checksumSha256, dl, hdl, hid,
    status, statusText, text, data, success, ?_, hdata⟩
  rw [name, type, ← reply]
  have same : x = (OcrRequest.ofFile c.file, x.2) := Prod.ext asked rfl
  rw [same] at hx
  exact hx

section Example
open Sample

theorem completed_has_provenance_two_uploads :
    ∃ d ∈ (run (step env) (State.init [] [] [])
        (uploaded acme file1 doc1 ++ uploaded globex file2 doc2 ++
          processed acme doc1)).db.documents,
      d.status = .completed ∧
        HasProvenance env (uploaded acme file1 doc1 ++ uploaded globex file2 doc2 ++
            processed acme doc1)
          (run (step env) (State.init [] [] [])
            (uploaded acme file1 doc1 ++ uploaded globex file2 doc2 ++ processed acme doc1)) d := by
  have statuses : (run (step env) (State.init [] [] [])
      (uploaded acme file1 doc1 ++ uploaded globex file2 doc2 ++
        processed acme doc1)).db.documents.map Document.status = [.completed, .pending] := by
    decide +kernel
  obtain ⟨d, hd, completed⟩ := List.mem_map.mp (statuses ▸ List.mem_cons_self)
  exact ⟨d, hd, completed, completed_has_provenance env [] [] [] _ (by decide +kernel) d hd completed⟩

end Example
end IdpSaas

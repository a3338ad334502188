import IdpSaas.System.Platform

/-!
Documents, files, users and jobs agree. Nothing in the database ties a document's
uploader, its path or its job to its tenant, so the agreement is an invariant of the
whole backend, through every upload that fails half way.
-/

namespace IdpSaas
open Owned DocumentsService LocalStorageService Machine

/-- Uploaders and jobs are of the document's own tenant, and its path leads to its file;
no path is shared, no document has had two jobs, for `queue` is all jobs ever added, and
a worker's lookup finds its document. -/
structure CrossStore (env : Env) (s : State) : Prop where
  uploader : ∀ d ∈ s.db.documents, s.db.Employs d.tenantId d.uploadedById
  path : ∀ d ∈ s.db.documents, ∃ name, '/' ∉ name ∧ name ≠ [] ∧
    d.storagePath.toList = d.tenantId.toList ++ '/' :: name
  apart : (s.db.documents.map Document.storagePath).Nodup
  stored : ∀ d ∈ s.db.documents, ∃ b, read env s.files d.storagePath = .ok b ∧
    b.length = d.sizeBytes
  queued : ∀ j ∈ s.queue, ∃ d ∈ s.db.documents, d.id = j.documentId ∧ d.tenantId = j.tenantId
  once : (s.queue.map Job.documentId).Nodup
  found : ∀ dl ∈ s.deliveries, ∀ fate, fate.fails = none → ∃ d ∈ s.db.documents,
    ProcessingProcessor.handleProcess env fate dl.job dl.attemptsMade s.db s.files .findUnique =
      { db := s.db, pc := .updateProcessing d }

namespace Platform

structure Sound (env : Env) (p : State) : Prop where
  integrity : Integrity env p.system
  paths : p.system.PathsApart
  jobs : p.system.JobsApart
  contexts : ∀ c ∈ p.contexts, p.system.db.Employs c.tenantId c.userId
  madeFor : p.system.MadeFor p.system.db.Employs

section Preservation
variable {env : Env} {p p' : State} {e : Event}

theorem Sound.init (env : Env) (tenants : List Tenant) (users : List User)
    (apiKeys : List ApiKey) : Sound env (State.init tenants users apiKeys) where
  integrity := .init env tenants users apiKeys
  paths := Custody.empty _
  jobs := Custody.empty _
  contexts _ hc := nomatch hc
  madeFor := ⟨fun c hc => absurd hc (Table.not_mem_empty c), fun _ hr => nomatch hr⟩

/-- An upload that is let in is for a user of its tenant. -/
theorem Sound.admitted (h : Sound env p) {e : IdpSaas.Event}
    (admitted : admits p.contexts e = true) (key : Nat) (userId : String)
    (file : Option MulterFile) (upload : e.action = .upload key userId file) :
    p.system.db.Employs e.tenant.val userId := by
  rw [admits, upload, List.any_eq_true] at admitted
  obtain ⟨c, hc, same⟩ := admitted
  rw [Bool.and_eq_true, beq_iff_eq, beq_iff_eq] at same
  have employs := h.contexts c hc
  rwa [same.1, same.2] at employs

theorem Sound.moved (h : Sound env p) {e : IdpSaas.Event} {s : IdpSaas.State}
    (tr : Transition env p.system e s) (fresh : FreshFile env p.system e)
    (admitted : ∀ key userId file, e.action = .upload key userId file →
      p.system.db.Employs e.tenant.val userId) : Sound env { p with system := s } := by
  have employs : ∀ t u, p.system.db.Employs t u → s.db.Employs t u := by
    intro t u
    rw [Database.Employs, Database.Employs, tr.users]
    exact id
  exact ⟨h.integrity.preserved tr fresh, tr.pathsApart h.integrity fresh h.paths,
    tr.jobsApart h.integrity.coherent h.jobs, fun c hc => employs _ _ (h.contexts c hc),
    (tr.madeFor admitted h.madeFor).mono rfl rfl employs⟩

theorem Sound.accounts (h : Sound env p) {db : Database}
    (documents : db.documents = p.system.db.documents)
    (keeps : ∀ t u, p.system.db.Employs t u → db.Employs t u)
    (registrations : Table Registration.Progress) :
    Sound env { p.withDb db with registrations := registrations } := by
  have submissions : (p.withDb db).system.submissions = p.system.submissions :=
    congrArg (List.map Document.submission) documents
  refine ⟨h.integrity.rebase documents fun content => content, ?_, h.jobs,
    fun c hc => keeps _ _ (h.contexts c hc), h.madeFor.mono rfl submissions keeps⟩
  rw [State.PathsApart]
  exact submissions ▸ h.paths

/-- What a failed write leaves is in nobody's way. -/
theorem Sound.spilled (h : Sound env p) {uuid : Uuid} (unused : ¬FileUsed env p.system uuid)
    (t : Uuid) (name : String) (written : Bytes) {c : UploadCall} (mem : c ∈ p.system.uploads) :
    Sound env
      { p with system :=
          { p.system with
            files := p.system.files.write (Posix.locate (fullPath env t.val uuid name)) written
            uploads := p.system.uploads.put { c with pc := .ended } } } := by
  have empty : ∀ t n, p.system.files (savedPlace env t uuid n) = none := by
    intro t n
    by_contra used
    exact unused ⟨t, n, used⟩
  have kept : Integrity env { p.system with
      files := p.system.files.write (Posix.locate (fullPath env t.val uuid name)) written } :=
    h.integrity.rebase rfl fun content => content.write empty t name written
  have spilled : Sound env { p with system := { p.system with
      files := p.system.files.write (Posix.locate (fullPath env t.val uuid name)) written } } :=
    ⟨kept, h.paths, h.jobs, h.contexts, h.madeFor.mono rfl rfl fun _ _ => id⟩
  exact spilled.moved (.refused ⟨t, .crash c.key⟩ c mem) trivial fun _ _ _ upload => nomatch upload

theorem Sound.preserved (h : Sound env p) (ch : Change env p e p')
    (fresh : ∀ u, e.fileUuid = some u → ¬FileUsed env p.system u) : Sound env p' := by
  cases ch with
  | idle => exact h
  | accounts _ db registrations documents keeps => exact h.accounts documents keeps registrations
  | granted payload context employs =>
      refine ⟨h.integrity, h.paths, h.jobs, fun c hc => ?_, h.madeFor⟩
      cases List.mem_append.mp hc with
      | inl old => exact h.contexts c old
      | inr new =>
          rw [List.mem_singleton.mp new]
          exact employs
  | moved e s admitted tr => exact h.moved tr (freshFile_of_unused fresh) (h.admitted admitted)
  | spilled t uuid written err c mem =>
      exact h.spilled (fresh uuid rfl) t c.file.originalname written mem

end Preservation

/-- The stores agree where the invariant holds. -/
theorem Sound.crossStore {env : Env} {p : State} (h : Sound env p) : CrossStore env p.system where
  uploader d hd := h.madeFor.documents _ (mem_submissions.mpr ⟨d, hd, rfl⟩)
  path d hd := by
    obtain ⟨file, sub⟩ := h.integrity.submitted _ (mem_submissions.mpr ⟨d, hd, rfl⟩)
    obtain ⟨tenant, uuid, own, path, -⟩ := sub.kept
    change d.tenantId = tenant.val at own
    change d.storagePath = storagePath env tenant.val uuid file.originalname at path
    refine ⟨safeFilename env uuid file.originalname, safeFilename_no_slash env uuid _,
      (safeFilename_plain env uuid _).1, ?_⟩
    rw [path, own, storagePath, String.toList_ofList]
  apart := by
    have stored := h.paths.stored
    rwa [State.submissions, List.map_map] at stored
  stored d hd := by
    obtain ⟨file, sub⟩ := h.integrity.submitted _ (mem_submissions.mpr ⟨d, hd, rfl⟩)
    obtain ⟨tenant, uuid, -, path, content⟩ := sub.kept
    change d.storagePath = storagePath env tenant.val uuid file.originalname at path
    exact ⟨file.buffer, path ▸ read_saved env content, sub.sizeBytes.symm⟩
  queued j hj := by
    obtain ⟨r, hr, id, own⟩ := h.integrity.coherent.queued j hj
    obtain ⟨d, hd, rfl⟩ := mem_submissions.mp hr
    exact ⟨d, hd, id, own⟩
  once := h.jobs.stored
  found dl hdl fate succeeds := by
    obtain ⟨d, hd, own, row⟩ :=
      h.integrity.coherent.finds (h.integrity.coherent.delivered dl hdl)
    obtain ⟨file, sub⟩ := h.integrity.submitted _ (mem_submissions.mpr ⟨d, hd, rfl⟩)
    obtain ⟨tenant, uuid, ofTenant, -, -⟩ := sub.kept
    have scope : forTenant dl.job.tenantId = .ok tenant.scope := by
      rw [← own, show d.tenantId = tenant.val from ofTenant, forTenant_uuid]
    have lookup : findUnique tenant.scope p.system.db dl.job.documentId = some d := by
      rw [findUnique_eq, forTenant_eq_ok.mp scope]
      exact row
    refine ⟨d, hd, ?_⟩
    rw [ProcessingProcessor.handleProcess, scope]
    simp only [succeeds, lookup]

/-- If no id is generated twice for a file, the invariant holds along every run. -/
theorem Sound.reached {τ : Type} (env : Env) (auth : AuthEnv τ) (tenants : List Tenant)
    (users : List User) (apiKeys : List ApiKey) {es : List Event}
    (fresh : (es.filterMap Event.fileUuid).Nodup) :
    Sound env (run (step env auth) (State.init tenants users apiKeys) es) := by
  have unused : ∀ u, FileUsed env (State.init tenants users apiKeys).system u →
      u ∉ es.filterMap Event.fileUuid := by
    rintro u ⟨t, n, used⟩
    exact absurd rfl used
  have grows : ∀ p e u, FileUsed env (step env auth p e).1.system u →
      FileUsed env p.system u ∨ e.fileUuid = some u :=
    fun p e u => (step_change env auth p e).file_used
  have preserved : ∀ p e, Sound env p → (∀ u, e.fileUuid = some u → ¬FileUsed env p.system u) →
      Sound env (step env auth p e).1 :=
    fun p e h fresh => h.preserved (step_change env auth p e) fresh
  exact run_invariant (step env auth) preserved (.init env tenants users apiKeys)
    (along_fresh (step env auth) grows fresh unused)

/-- In every state of every run the stores agree. -/
theorem stores_agree {τ : Type} (env : Env) (auth : AuthEnv τ) (tenants : List Tenant)
    (users : List User) (apiKeys : List ApiKey) (es : List Event)
    (fresh : (es.filterMap Event.fileUuid).Nodup) :
    CrossStore env (run (step env auth) (State.init tenants users apiKeys) es).system :=
  (Sound.reached env auth tenants users apiKeys fresh).crossStore

namespace Sample
open IdpSaas.Sample

def jane : Registration.Call where
  key := 0
  now := 0
  generated := ⟨acme.val, "user", "salt"⟩
  dto := ⟨"Acme Corporation", "acme", "jane@acme.com", "CorrectHorseBatteryStaple1!", none⟩

/-- Jane registers and uploads two scans; the disk is full at the second, and the first
is processed. -/
def day : List Event :=
  [.register (.start jane), .register (.lookup 0), .register (.transaction 0),
    .validate ⟨"user", acme.val, .owner⟩] ++ (uploaded acme file1 doc1).map .system ++
  [.system ⟨acme, .upload 1 "user" (some scan)⟩,
    .writeFileFails acme 1 file2 [0xff] ⟨some "ENOSPC: no space left on device, write"⟩] ++
  (processed acme doc1).map .system

end Sample

theorem stores_agree_full_disk :
    let p := run (step IdpSaas.Sample.env Auth.Sample.env) (State.init [] [] []) Sample.day
    CrossStore IdpSaas.Sample.env p.system ∧
      p.system.db.documents.map Document.status = [.completed] := by
  refine ⟨stores_agree IdpSaas.Sample.env Auth.Sample.env [] [] [] Sample.day ?_, ?_⟩
  · decide +kernel
  · decide +kernel

end Platform
end IdpSaas

import IdpSaas.Lib.Custody
import IdpSaas.System.Integrity

/-!
What an upload hands on. The path of its file goes from the call to the row, the id of
its row from the call to the queue, and the user it is made for to the row; no path and
no id goes two ways.
-/

namespace IdpSaas
open Owned DocumentsService LocalStorageService

/-- The path of the call's file, which no row names yet. -/
def UploadCall.unfiled (c : UploadCall) : Option String :=
  match c.pc with
  | .create stored => some stored.storagePath
  | _ => none

/-- The id of the call's row, which no job names yet. -/
def UploadCall.unqueued (c : UploadCall) : Option String :=
  match c.pc with
  | .add document => some document.id
  | _ => none

theorem UploadCall.unfiled_eq_some {c : UploadCall} {path : String} :
    c.unfiled = some path ↔ ∃ stored, c.pc = .create stored ∧ stored.storagePath = path := by
  rw [unfiled]
  cases c.pc <;> simp

theorem UploadCall.unqueued_eq_some {c : UploadCall} {id : String} :
    c.unqueued = some id ↔ ∃ document, c.pc = .add document ∧ document.id = id := by
  rw [unqueued]
  cases c.pc <;> simp

/-- Each stored file is in the hands of one call or one row. -/
def State.PathsApart (s : State) : Prop :=
  Custody UploadCall.unfiled s.uploads (s.submissions.map Submission.storagePath)

/-- Each document is in the hands of one call or one job. -/
def State.JobsApart (s : State) : Prop :=
  Custody UploadCall.unqueued s.uploads (s.queue.map Job.documentId)

section Preservation
variable {env : Env} {s s' : State} {e : Event}

/-- Nothing is kept under a path with an unused id. -/
theorem Kept.used {files : Files} {tenantId : String} {file : MulterFile} {t uuid : Uuid}
    {n : String} (h : Kept env files tenantId file (storagePath env t.val uuid n)) :
    ¬∀ t n, files (savedPlace env t uuid n) = none := by
  obtain ⟨tenant, uuid', rfl, path, content⟩ := h
  intro unused
  have same : savedPlace env t.val uuid n =
      savedPlace env tenant.val uuid' file.originalname := by
    rw [← locate_storagePath, path, locate_storagePath]
  rw [← same, unused] at content
  cases content

theorem Transition.pathsApart (tr : Transition env s e s') (h : Integrity env s)
    (fresh : FreshFile env s e) (apart : s.PathsApart) : s'.PathsApart := by
  cases tr with
  | idle | listed | delivered | crashed => exact apart
  | received t key userId file free checked => exact apart.insert rfl
  | refused _ c mem => exact apart.drop mem rfl rfl
  | enqueued t c document mem own pc => exact apart.drop mem rfl rfl
  | worked t fate dl wrote exchange pc mem own move =>
      rw [State.PathsApart, State.submissions, written_submissions]
      exact apart
  | created t uuid now c stored mem own pc free =>
      have gives : c.unfiled = some stored.storagePath :=
        UploadCall.unfiled_eq_some.mpr ⟨stored, pc, rfl⟩
      rw [State.PathsApart, State.submissions, List.map_append, List.map_append]
      exact apart.give mem rfl gives rfl
  | saved t uuid c mem own pc =>
      refine apart.take mem rfl rfl (fun held => ?_) (fun stored => ?_)
      · obtain ⟨c', hc', holds⟩ := Table.mem_held.mp held
        obtain ⟨stored, pc', path⟩ := UploadCall.unfiled_eq_some.mp holds
        have kept := ((h.uploads c' hc').creating stored pc').2.2.2
        rw [path] at kept
        exact kept.used fresh
      · obtain ⟨r, hr, path⟩ := List.mem_map.mp stored
        obtain ⟨file, sub⟩ := h.submitted r hr
        have kept := sub.kept
        rw [path] at kept
        exact kept.used fresh

theorem Transition.jobsApart (tr : Transition env s e s') (co : Coherent s)
    (apart : s.JobsApart) : s'.JobsApart := by
  cases tr with
  | idle | listed | delivered | crashed | worked => exact apart
  | received t key userId file free checked => exact apart.insert rfl
  | refused _ c mem => exact apart.drop mem rfl rfl
  | saved t uuid c mem own pc => exact apart.drop mem rfl rfl
  | enqueued t c document mem own pc =>
      have gives : c.unqueued = some document.id :=
        UploadCall.unqueued_eq_some.mpr ⟨document, pc, rfl⟩
      rw [State.JobsApart, List.map_append]
      exact apart.give mem rfl gives rfl
  | created t uuid now c stored mem own pc free =>
      have unnamed : ∀ tenantId, ¬s.Names uuid.val tenantId := by
        rintro tenantId ⟨r, hr, id, -⟩
        obtain ⟨d, hd, rfl⟩ := mem_submissions.mp hr
        exact free d hd id
      refine apart.take mem rfl rfl (fun held => ?_) (fun queued => ?_)
      · obtain ⟨c', hc', holds⟩ := Table.mem_held.mp held
        obtain ⟨document, pc', id⟩ := UploadCall.unqueued_eq_some.mp holds
        have named := co.adding c' hc' document pc'
        rw [id] at named
        exact unnamed _ named
      · obtain ⟨j, hj, id⟩ := List.mem_map.mp queued
        have named := co.queued j hj
        rw [id] at named
        exact unnamed _ named

end Preservation

/-- Calls and documents are for users that stand in this relation to their tenant. -/
structure State.MadeFor (employs : String → String → Prop) (s : State) : Prop where
  uploads : ∀ c ∈ s.uploads, employs c.tenantId c.userId
  documents : ∀ r ∈ s.submissions, employs r.tenantId r.uploadedById

theorem Transition.madeFor {env : Env} {s s' : State} {e : Event} (tr : Transition env s e s')
    {employs : String → String → Prop}
    (admitted : ∀ key userId file, e.action = .upload key userId file → employs e.tenant.val userId)
    (h : s.MadeFor employs) : s'.MadeFor employs := by
  cases tr with
  | idle | listed | delivered | crashed => exact ⟨h.uploads, h.documents⟩
  | received t key userId file free checked =>
      exact ⟨Table.forall_insert h.uploads (admitted key userId file rfl), h.documents⟩
  | refused _ c mem => exact ⟨Table.forall_put h.uploads (h.uploads c mem), h.documents⟩
  | saved t uuid c mem own pc =>
      exact ⟨Table.forall_put h.uploads (h.uploads c mem), h.documents⟩
  | enqueued t c document mem own pc =>
      exact ⟨Table.forall_put h.uploads (h.uploads c mem), h.documents⟩
  | worked t fate dl wrote exchange pc mem own move =>
      refine ⟨h.uploads, fun r hr => ?_⟩
      rw [State.submissions, written_submissions] at hr
      exact h.documents r hr
  | created t uuid now c stored mem own pc free =>
      refine ⟨Table.forall_put h.uploads (h.uploads c mem), fun r hr => ?_⟩
      rw [State.submissions, List.map_append] at hr
      cases List.mem_append.mp hr with
      | inl old => exact h.documents r old
      | inr new =>
          rw [List.mem_singleton.mp new]
          exact h.uploads c mem

end IdpSaas

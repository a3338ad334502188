import IdpSaas.System.Transition

/-!
What holds together in every reachable state. The columns an upload sets are never
written again, ids stay unique, and every suspended upload, queued job and delivery
names a document of its own tenant.
-/

namespace IdpSaas
open Owned DocumentsService Machine

/-- The columns of a document that its upload sets for good. -/
structure Submission where
  id : String
  originalName : String
  storagePath : String
  mimeType : String
  sizeBytes : Nat
  checksumSha256 : Option String
  tenantId : String
  uploadedById : String
  createdAt : Time
  deriving DecidableEq, Repr

def Document.submission (d : Document) : Submission where
  id := d.id
  originalName := d.originalName
  storagePath := d.storagePath
  mimeType := d.mimeType
  sizeBytes := d.sizeBytes
  checksumSha256 := d.checksumSha256
  tenantId := d.tenantId
  uploadedById := d.uploadedById
  createdAt := d.createdAt

def State.submissions (s : State) : List Submission := s.db.documents.map Document.submission

@[simp] theorem DocumentWrite.apply_submission (w : DocumentWrite) (d : Document) :
    (w.apply d).submission = d.submission := by cases w <;> rfl

theorem Database.write_submissions (db : Database) (t id : String) (w : DocumentWrite) :
    (db.write t id w).documents.map Document.submission =
      db.documents.map Document.submission :=
  map_modify _ _ fun d _ => w.apply_submission d

theorem written_submissions (db : Database) (t id : String) (wrote : Option DocumentWrite) :
    (wrote.elim db (db.write t id)).documents.map Document.submission =
      db.documents.map Document.submission := by
  cases wrote with
  | none => rfl
  | some w => exact db.write_submissions t id w

theorem mem_submissions {s : State} {r : Submission} :
    r ∈ s.submissions ↔ ∃ d ∈ s.db.documents, d.submission = r := List.mem_map

/-- Submissions are only ever added. -/
theorem Transition.submissions_grow {env : Env} {s s' : State} {e : Event}
    (h : Transition env s e s') : ∀ r ∈ s.submissions, r ∈ s'.submissions := by
  intro r hr
  cases h with
  | idle | listed | received | refused | saved | enqueued | delivered | crashed => exact hr
  | created t uuid now c stored mem own pc free =>
      rw [State.submissions, List.map_append]
      exact List.mem_append_left _ hr
  | worked t fate d wrote exchange pc mem own move =>
      rw [State.submissions, written_submissions]
      exact hr

/-- The document named by an id exists and belongs to the tenant. -/
def State.Names (s : State) (id t : String) : Prop :=
  ∃ r ∈ s.submissions, r.id = id ∧ r.tenantId = t

structure Coherent (s : State) : Prop where
  ids : (s.submissions.map Submission.id).Nodup
  adding : ∀ c ∈ s.uploads, ∀ d, c.pc = .add d → s.Names d.id c.tenantId
  queued : ∀ j ∈ s.queue, s.Names j.documentId j.tenantId
  delivered : ∀ d ∈ s.deliveries, d.job ∈ s.queue

theorem Coherent.init (tenants : List Tenant) (users : List User) (apiKeys : List ApiKey) :
    Coherent (State.init tenants users apiKeys) where
  ids := List.nodup_nil
  adding c hc := absurd hc (Table.not_mem_empty c)
  queued _ hj := nomatch hj
  delivered d hd := absurd hd (Table.not_mem_empty d)

section Preservation
variable {env : Env} {s s' : State} {e : Event}

theorem Transition.names (h : Transition env s e s') {id t : String} (named : s.Names id t) :
    s'.Names id t := by
  obtain ⟨r, hr, same⟩ := named
  exact ⟨r, h.submissions_grow r hr, same⟩

theorem Transition.ids (h : Transition env s e s') (co : Coherent s) :
    (s'.submissions.map Submission.id).Nodup := by
  have nodup := co.ids
  cases h with
  | idle | listed | received | refused | saved | enqueued | delivered | crashed => exact nodup
  | worked t fate d wrote exchange pc mem own move =>
      rw [State.submissions, written_submissions]
      exact nodup
  | created t uuid now c stored mem own pc free =>
      have new : uuid.val ∉ s.submissions.map Submission.id := by
        intro taken
        obtain ⟨r, hr, same⟩ := List.mem_map.mp taken
        obtain ⟨d, hd, rfl⟩ := mem_submissions.mp hr
        exact free d hd same
      rw [State.submissions, List.map_append, List.map_append]
      exact List.nodup_append_comm.mp (List.nodup_cons.mpr ⟨new, nodup⟩)

theorem Transition.adding (h : Transition env s e s') (co : Coherent s) :
    ∀ c ∈ s'.uploads, ∀ d, c.pc = .add d → s'.Names d.id c.tenantId := by
  have old : ∀ c ∈ s.uploads, ∀ d, c.pc = .add d → s'.Names d.id c.tenantId :=
    fun c hc d pc => h.names (co.adding c hc d pc)
  cases h with
  | idle | listed | delivered | worked | crashed => exact old
  | received t key userId file free checked =>
      exact Table.forall_insert old fun _ pc => nomatch pc
  | refused | saved | enqueued => exact Table.forall_put old fun _ pc => nomatch pc
  | created t uuid now c stored mem own pc free =>
      refine Table.forall_put old fun d hd => ?_
      cases hd
      refine ⟨(c.newDocument stored uuid now).submission, ?_, rfl, rfl⟩
      exact mem_submissions.mpr ⟨_, List.mem_append_right _ (List.mem_singleton.mpr rfl), rfl⟩

theorem Transition.queued (h : Transition env s e s') (co : Coherent s) :
    ∀ j ∈ s'.queue, s'.Names j.documentId j.tenantId := by
  intro j hj
  have old : j ∈ s.queue → s'.Names j.documentId j.tenantId := fun hj => h.names (co.queued j hj)
  cases h with
  | idle | listed | received | refused | saved | created | delivered | worked | crashed =>
      exact old hj
  | enqueued t c document mem own pc =>
      cases List.mem_append.mp hj with
      | inl hj => exact old hj
      | inr hj =>
          rw [List.mem_singleton.mp hj]
          have named := co.adding c mem document pc
          rw [own] at named
          exact named

theorem Transition.delivered_queued (h : Transition env s e s') (co : Coherent s) :
    ∀ d ∈ s'.deliveries, d.job ∈ s'.queue := by
  cases h with
  | idle | listed | received | refused | saved | created => exact co.delivered
  | enqueued t c document mem own pc =>
      exact fun d hd => List.mem_append_left _ (co.delivered d hd)
  | delivered t key job attemptsMade mem own free => exact Table.forall_insert co.delivered mem
  | worked t fate d wrote exchange pc mem own move =>
      exact Table.forall_put co.delivered (co.delivered d mem)
  | crashed t d mem live => exact Table.forall_put co.delivered (co.delivered d mem)

theorem Coherent.preserved (co : Coherent s) (h : Transition env s e s') : Coherent s' :=
  ⟨h.ids co, h.adding co, h.queued co, h.delivered_queued co⟩

end Preservation

/-- A delivery and a row of the same id belong to one tenant, so the delivery's scoped
selector selects by id. -/
theorem Coherent.selects_eq {s : State} (co : Coherent s) {dl : Delivery} {d : Document}
    (hdl : dl ∈ s.deliveries) (hd : d ∈ s.db.documents) :
    selects dl.job.tenantId dl.job.documentId d = decide (d.id = dl.job.documentId) := by
  rw [Bool.eq_iff_iff, selects_iff, decide_eq_true_iff]
  refine ⟨fun h => h.2, fun same => ⟨?_, same⟩⟩
  obtain ⟨r, hr, hid, htenant⟩ := co.queued dl.job (co.delivered dl hdl)
  have hd' : d.submission ∈ s.submissions := mem_submissions.mpr ⟨d, hd, rfl⟩
  have equal : d.submission = r :=
    List.inj_on_of_nodup_map co.ids hd' hr (same.trans hid.symm)
  rw [← htenant, ← equal]
  rfl

theorem Coherent.row_unique {s : State} (co : Coherent s) {d d' : Document}
    (hd : d ∈ s.db.documents) (hd' : d' ∈ s.db.documents) (same : d.id = d'.id) : d = d' := by
  have nodup : (s.db.documents.map Document.id).Nodup := by
    have ids := co.ids
    rw [State.submissions, List.map_map] at ids
    exact ids
  exact List.inj_on_of_nodup_map nodup hd hd' same

/-- A scoped lookup by the ids of a queued job finds its document. -/
theorem Coherent.finds {s : State} (co : Coherent s) {j : Job} (hj : j ∈ s.queue) :
    ∃ d ∈ s.db.documents, d.tenantId = j.tenantId ∧
      s.db.documents.find? (selects j.tenantId j.documentId) = some d := by
  obtain ⟨r, hr, id, own⟩ := co.queued j hj
  obtain ⟨d, hd, rfl⟩ := mem_submissions.mp hr
  refine ⟨d, hd, own, find?_of_unique hd (selects_iff.mpr ⟨own, id⟩) fun d' hd' selected => ?_⟩
  exact co.row_unique hd' hd ((selects_iff.mp selected).2.trans id.symm)

/-- What the row of a working delivery's document becomes. -/
theorem Coherent.mem_written {s : State} (co : Coherent s) {dl : Delivery} (mem : dl ∈ s.deliveries)
    {w : DocumentWrite} {d' : Document}
    (h : d' ∈ (s.db.write dl.job.tenantId dl.job.documentId w).documents) :
    ∃ d ∈ s.db.documents, d'.id = d.id ∧
      ((d.id = dl.job.documentId ∧ d' = w.apply d) ∨ (d.id ≠ dl.job.documentId ∧ d' = d)) := by
  obtain ⟨d, hd, modified⟩ := mem_modify.mp h
  rw [co.selects_eq mem hd] at modified
  by_cases same : d.id = dl.job.documentId
  · rw [if_pos (decide_eq_true same)] at modified
    exact ⟨d, hd, by rw [← modified, w.apply_id], Or.inl ⟨same, modified.symm⟩⟩
  · rw [if_neg (by simpa using same)] at modified
    exact ⟨d, hd, by rw [modified], Or.inr ⟨same, modified.symm⟩⟩

end IdpSaas

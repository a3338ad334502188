import IdpSaas.System.State

/-!
What one event can do to the system, said once: the calls it may find, the guards
under which it acts, and the state it leaves. Invariants are proved by cases on this
relation.
-/

namespace IdpSaas
open Owned DocumentsService

/-- The row that an upload creates. -/
def UploadCall.newDocument (c : UploadCall) (stored : StoredFile) (uuid : Uuid) (now : Time) :
    Document :=
  Document.build ⟨uuid.val, now⟩ (createFields c.userId c.file stored) c.tenantId

inductive Transition (env : Env) (s : State) : Event → State → Prop
  | idle (e : Event) : Transition env s e s
  | listed (e : Event) (lists : Table ListCall) : Transition env s e { s with lists := lists }
  | received (t : Uuid) (key : Nat) (userId : String) (file : MulterFile)
      (free : s.uploads.find? t.val key = none)
      (checked : magicBytesMatchMime file.buffer file.mimetype = true) :
      Transition env s ⟨t, .upload key userId (some file)⟩
        { s with uploads := s.uploads.insert ⟨t.val, key, userId, file, .save, none⟩ }
  | refused (e : Event) (c : UploadCall) (mem : c ∈ s.uploads) :
      Transition env s e { s with uploads := s.uploads.put { c with pc := .ended } }
  | saved (t uuid : Uuid) (c : UploadCall) (mem : c ∈ s.uploads) (own : c.tenantId = t.val)
      (pc : c.pc = .save) :
      Transition env s ⟨t, .storageSave c.key uuid none⟩
        { s with
          files := (LocalStorageService.save env t.val uuid c.file.buffer c.file.originalname
            s.files).2
          uploads := s.uploads.put
            { c with
              pc := .create (LocalStorageService.save env t.val uuid c.file.buffer
                c.file.originalname s.files).1 } }
  | created (t uuid : Uuid) (now : Time) (c : UploadCall) (stored : StoredFile)
      (mem : c ∈ s.uploads) (own : c.tenantId = t.val) (pc : c.pc = .create stored)
      (free : ∀ d ∈ s.db.documents, d.id ≠ uuid.val) :
      Transition env s ⟨t, .documentCreate c.key uuid now none⟩
        { s with
          db := { s.db with documents := s.db.documents ++ [c.newDocument stored uuid now] }
          uploads := s.uploads.put
            { c with
              pc := .add (c.newDocument stored uuid now)
              created := some (c.newDocument stored uuid now) } }
  | enqueued (t : Uuid) (c : UploadCall) (document : Document) (mem : c ∈ s.uploads)
      (own : c.tenantId = t.val) (pc : c.pc = .add document) :
      Transition env s ⟨t, .queueAdd c.key none⟩
        { s with
          queue := s.queue ++ [processDocumentJob document t.val]
          uploads := s.uploads.put { c with pc := .ended } }
  | delivered (t : Uuid) (key : Nat) (job : Job) (attemptsMade : Nat) (mem : job ∈ s.queue)
      (own : job.tenantId = t.val) (free : s.deliveries.find? t.val key = none) :
      Transition env s ⟨t, .deliver key job.documentId attemptsMade⟩
        { s with deliveries :=
            s.deliveries.insert ⟨key, job, attemptsMade, .findUnique, [], []⟩ }
  | worked (t : Uuid) (fate : Fate) (d : Delivery) (wrote : Option DocumentWrite)
      (exchange : Option (OcrRequest × OcrReply)) (pc : HandlerPc) (mem : d ∈ s.deliveries)
      (own : d.job.tenantId = t.val)
      (move : ProcessingProcessor.Move env d.job d.attemptsMade s.db s.files d.pc wrote
        exchange pc) :
      Transition env s ⟨t, .work d.key fate⟩
        { s with
          db := wrote.elim s.db (s.db.write d.job.tenantId d.job.documentId)
          deliveries := s.deliveries.put (d.after pc wrote exchange) }
  | crashed (t : Uuid) (d : Delivery) (mem : d ∈ s.deliveries) (live : d.pc.ended = false) :
      Transition env s ⟨t, .crash d.key⟩
        { s with deliveries := s.deliveries.put { d with pc := .crashed } }

namespace State
variable (env : Env) (s : State) (t : Uuid)

theorem upload_transition (key : Nat) (userId : String) (file : Option MulterFile) :
    Transition env s ⟨t, .upload key userId file⟩ (s.upload t key userId file).1 := by
  rw [upload]
  cases free : s.uploads.find? t.val key with
  | some c => exact .idle _
  | none =>
      cases file with
      | none => exact .idle _
      | some file =>
          simp only [checkFile]
          cases checked : magicBytesMatchMime file.buffer file.mimetype with
          | false => exact .idle _
          | true => exact .received t key userId file free checked

theorem storageSave_transition (key : Nat) (uuid : Uuid) (fails : Option JsError) :
    Transition env s ⟨t, .storageSave key uuid fails⟩ (s.storageSave env t key uuid fails).1 := by
  rw [storageSave]
  cases found : s.uploads.find? t.val key with
  | none => exact .idle _
  | some c =>
      obtain ⟨mem, addr⟩ := Table.find?_eq_some.mp found
      obtain ⟨own, rfl⟩ := address_eq.mp addr
      dsimp only
      cases pc : c.pc with
      | save =>
          cases fails with
          | some err => exact .refused _ c mem
          | none => exact .saved t uuid c mem own pc
      | create _ | add _ | ended => exact .idle _

theorem documentCreate_transition (key : Nat) (uuid : Uuid) (now : Time)
    (fails : Option JsError) :
    Transition env s ⟨t, .documentCreate key uuid now fails⟩
      (s.documentCreate env t key uuid now fails).1 := by
  rw [documentCreate]
  cases found : s.uploads.find? t.val key with
  | none => exact .idle _
  | some c =>
      obtain ⟨mem, addr⟩ := Table.find?_eq_some.mp found
      obtain ⟨own, rfl⟩ := address_eq.mp addr
      dsimp only
      cases pc : c.pc with
      | create stored =>
          cases fails with
          | some err => exact .refused _ c mem
          | none =>
              have scope : t.scope.tenantId = c.tenantId := own.symm
              simp only [create_eq, scope]
              cases taken : s.db.documents.any fun d => d.id == uuid.val with
              | true => exact .refused _ c mem
              | false =>
                  have free : ∀ d ∈ s.db.documents, d.id ≠ uuid.val := by simpa using taken
                  exact .created t uuid now c stored mem own pc free
      | save | add _ | ended => exact .idle _

theorem queueAdd_transition (key : Nat) (fails : Option JsError) :
    Transition env s ⟨t, .queueAdd key fails⟩ (s.queueAdd t key fails).1 := by
  rw [queueAdd]
  cases found : s.uploads.find? t.val key with
  | none => exact .idle _
  | some c =>
      obtain ⟨mem, addr⟩ := Table.find?_eq_some.mp found
      obtain ⟨own, rfl⟩ := address_eq.mp addr
      dsimp only
      cases pc : c.pc with
      | add document =>
          cases fails with
          | some err => exact .refused _ c mem
          | none => exact .enqueued t c document mem own pc
      | save | create _ | ended => exact .idle _

theorem list_transition (key : Nat) (query : ListDocumentsQueryDto) :
    Transition env s ⟨t, .list key query⟩ (s.list t key query).1 := by
  rw [list]
  cases s.lists.find? t.val key with
  | some c => exact .idle _
  | none => exact .listed _ _

theorem findMany_transition (key : Nat) (order : RowOrder) (fails : Option JsError) :
    Transition env s ⟨t, .findMany key order fails⟩ (s.findMany t key order fails).1 := by
  rw [findMany]
  cases s.lists.find? t.val key with
  | none => exact .idle _
  | some c =>
      dsimp only
      cases c.ended <;> cases c.items <;> cases fails <;>
      first | exact .idle _ | exact .listed _ _

theorem count_transition (key : Nat) (fails : Option JsError) :
    Transition env s ⟨t, .count key fails⟩ (s.count t key fails).1 := by
  rw [count]
  cases s.lists.find? t.val key with
  | none => exact .idle _
  | some c =>
      dsimp only
      cases c.ended <;> cases c.total <;> cases fails <;>
      first | exact .idle _ | exact .listed _ _

theorem findOne_state (id : String) (fails : Option JsError) :
    (s.findOne t id fails).1 = s := by
  cases fails with
  | some err => rfl
  | none =>
      simp only [State.findOne]
      cases DocumentsService.findOne t.scope s.db id <;> rfl

theorem deliver_transition (key : Nat) (documentId : String) (attemptsMade : Nat) :
    Transition env s ⟨t, .deliver key documentId attemptsMade⟩
      (s.deliver t key documentId attemptsMade).1 := by
  rw [deliver]
  cases free : s.deliveries.find? t.val key with
  | some d => exact .idle _
  | none =>
      cases queued : s.queue.find? (Job.isFor t.val documentId) with
      | none => exact .idle _
      | some job =>
          have named := List.find?_some queued
          rw [Job.isFor, Bool.and_eq_true, beq_iff_eq, beq_iff_eq] at named
          obtain ⟨own, rfl⟩ := named
          exact .delivered t key job attemptsMade (List.mem_of_find?_eq_some queued) own free

theorem work_transition (key : Nat) (fate : Fate) :
    Transition env s ⟨t, .work key fate⟩ (s.work env t key fate).1 := by
  rw [work]
  cases found : s.deliveries.find? t.val key with
  | none => exact .idle _
  | some d =>
      obtain ⟨mem, addr⟩ := Table.find?_eq_some.mp found
      obtain ⟨own, rfl⟩ := address_eq.mp addr
      obtain ⟨move, written⟩ := ProcessingProcessor.handleProcess_move env fate d.job
        d.attemptsMade s.db s.files d.pc
      have worked := Transition.worked t fate d _ _ _ mem own move
      rw [← written] at worked
      exact worked

theorem crash_transition (key : Nat) :
    Transition env s ⟨t, .crash key⟩ (s.crash t key).1 := by
  rw [crash]
  cases found : s.deliveries.find? t.val key with
  | none => exact .idle _
  | some d =>
      obtain ⟨mem, addr⟩ := Table.find?_eq_some.mp found
      obtain ⟨own, rfl⟩ := address_eq.mp addr
      dsimp only
      cases live : d.pc.ended with
      | false =>
          rw [if_neg Bool.false_ne_true]
          exact .crashed t d mem live
      | true =>
          rw [if_pos rfl]
          exact .idle _

end State

/-- Every event is one of the transitions. -/
theorem step_transition (env : Env) (s : State) (e : Event) :
    Transition env s e (step env s e).1 := by
  obtain ⟨t, action⟩ := e
  cases action with
  | upload key userId file => exact s.upload_transition env t key userId file
  | storageSave key uuid fails => exact s.storageSave_transition env t key uuid fails
  | documentCreate key uuid now fails => exact s.documentCreate_transition env t key uuid now fails
  | queueAdd key fails => exact s.queueAdd_transition env t key fails
  | list key query => exact s.list_transition env t key query
  | findMany key order fails => exact s.findMany_transition env t key order fails
  | count key fails => exact s.count_transition env t key fails
  | findOne id fails =>
      rw [show (step env s ⟨t, .findOne id fails⟩).1 = s from s.findOne_state t id fails]
      exact .idle _
  | deliver key documentId attemptsMade =>
      exact s.deliver_transition env t key documentId attemptsMade
  | work key fate => exact s.work_transition env t key fate
  | crash key => exact s.crash_transition env t key

/-- What every transition preserves holds in every later state of a run. -/
theorem run_preserves {env : Env} {P : State → Prop}
    (preserved : ∀ s s' e, P s → Transition env s e s' → P s') {s : State} (hs : P s)
    (es : List Event) : P (Machine.run (step env) s es) :=
  Machine.run_invariant (step env) (fun s e h _ => preserved s _ e h (step_transition env s e)) hs
    (Machine.along_true (step env) s es)

end IdpSaas

import IdpSaas.System.Integrity

/-!
Tenants do not interfere. What a tenant can see of the system is its rows, its
directory, its jobs and its calls. An event of the tenant acts on this view as on the
whole system and answers from it alone; an event of another tenant leaves it as it
is. So deleting all events of one tenant changes nothing for the others.
-/

namespace IdpSaas
open Owned Posix DocumentsService LocalStorageService ProcessingProcessor Machine

/-- The part of the file tree directly under a directory. -/
def Files.under (dir : Place) (files : Files) : Files :=
  fun p => if p.parent = dir then files p else none

/-- What belongs to one tenant. -/
def State.view (env : Env) (t : Uuid) (s : State) : State where
  db := s.db.only t.val
  files := s.files.under (tenantDir env t.val)
  queue := ownedBy Job.tenantId t.val s.queue
  uploads := s.uploads.only t.val
  lists := s.lists.only t.val
  deliveries := s.deliveries.only t.val

/-- The path names a file directly in the tenant's directory. -/
def InOwnDir (env : Env) (tenantId path : String) : Prop :=
  ∃ (uuid : Uuid) (name : String), path = storagePath env tenantId uuid name

/-- Every stored path leads into the directory of the tenant it belongs to. -/
structure Contained (env : Env) (s : State) : Prop where
  rows : ∀ d ∈ s.db.documents, InOwnDir env d.tenantId d.storagePath
  creating : ∀ c ∈ s.uploads, ∀ stored, c.pc = .create stored →
    InOwnDir env c.tenantId stored.storagePath
  loaded : ∀ dl ∈ s.deliveries, ∀ d, dl.pc.document? = some d →
    InOwnDir env dl.job.tenantId d.storagePath

/-- The id an event is about to give to a document is new. -/
def FreshDocument (s : State) (e : Event) : Prop :=
  match e.action with
  | .documentCreate _ uuid _ _ => ∀ d ∈ s.db.documents, d.id ≠ uuid.val
  | _ => True

section Parts
variable {env : Env} {t t' : Uuid}

theorem only_write_own (db : Database) (t id : String) (w : DocumentWrite) :
    (db.write t id w).only t = (db.only t).write t id w := by
  simp only [Database.only, Database.write,
    ownedBy_modify_own fun d _ => DocumentWrite.apply_tenantId w d]

theorem only_write_other (db : Database) {t t' : String} (h : t' ≠ t) (id : String)
    (w : DocumentWrite) : (db.write t id w).only t' = db.only t' := by
  have kept : ownedBy Document.tenantId t' (modify (selects t id) w.apply db.documents) =
      ownedBy Document.tenantId t' db.documents := by
    apply ownedBy_modify_other fun d _ => DocumentWrite.apply_tenantId w d
    intro d hd own
    exact h (own.symm.trans (selects_owner d hd))
  simp only [Database.only, Database.write, kept]

theorem only_concat_own (db : Database) {t : String} {d : Document} (h : d.tenantId = t) :
    ({ db with documents := db.documents ++ [d] } : Database).only t =
      { db.only t with documents := (db.only t).documents ++ [d] } := by
  simp only [Database.only, ownedBy_concat_own h]

theorem only_concat_other (db : Database) {t : String} {d : Document} (h : d.tenantId ≠ t) :
    ({ db with documents := db.documents ++ [d] } : Database).only t = db.only t := by
  simp only [Database.only, ownedBy_concat_other h]

theorem under_write_own (files : Files) {dir p : Place} (h : p.parent = dir) (b : Bytes) :
    (files.write p b).under dir = (files.under dir).write p b := by
  funext q
  simp only [Files.under, Files.write]
  by_cases hq : q = p
  · simp [hq, h]
  · simp [hq]

theorem under_write_other (files : Files) {dir p : Place} (h : p.parent ≠ dir) (b : Bytes) :
    (files.write p b).under dir = files.under dir := by
  funext q
  simp only [Files.under, Files.write]
  by_cases hq : q = p
  · simp [hq, h]
  · simp [hq]

/-- A tenant reads its own files from its own directory. -/
theorem read_under (files : Files) {path : String} (h : InOwnDir env t.val path) :
    read env (files.under (tenantDir env t.val)) path = read env files path := by
  obtain ⟨uuid, name, rfl⟩ := h
  have here : files.under (tenantDir env t.val) (savedPlace env t.val uuid name) =
      files (savedPlace env t.val uuid name) := if_pos (Place.parent_child _ _)
  simp only [LocalStorageService.read, locate_storagePath, here]

theorem listItems_only (scope : TenantScope) (db : Database) (query : ListDocumentsQueryDto)
    (order : RowOrder) :
    listItems scope (db.only scope.tenantId) query order = listItems scope db query order := by
  have same : (db.only scope.tenantId).documents.filter
        ((listWhere query).withTenantId scope.tenantId).holds =
      db.documents.filter ((listWhere query).withTenantId scope.tenantId).holds :=
    filter_ownedBy (fun _ => Where.withTenantId_owner) _
  rw [listItems_eq, listItems_eq, same]

theorem listTotal_only (scope : TenantScope) (db : Database) (query : ListDocumentsQueryDto) :
    listTotal scope (db.only scope.tenantId) query = listTotal scope db query := by
  have same : (db.only scope.tenantId).documents.filter
        ((listWhere query).withTenantId scope.tenantId).holds =
      db.documents.filter ((listWhere query).withTenantId scope.tenantId).holds :=
    filter_ownedBy (fun _ => Where.withTenantId_owner) _
  rw [listTotal_eq, listTotal_eq, same]

theorem findUnique_only (scope : TenantScope) (db : Database) (id : String) :
    findUnique scope (db.only scope.tenantId) id = findUnique scope db id := by
  rw [findUnique_eq, findUnique_eq]
  exact find?_ownedBy selects_owner _

theorem updateStep_only (env : Env) (scope : TenantScope) (fate : Fate) (db : Database) (id : String)
    (w : DocumentWrite) (next : HandlerPc) (caught : JsError → HandlerPc) :
    updateStep env scope fate (db.only scope.tenantId) id w next caught =
      { updateStep env scope fate db id w next caught with
        db := (updateStep env scope fate db id w next caught).db.only scope.tenantId } := by
  rw [updateStep, updateStep, update_eq, update_eq]
  have same : (db.only scope.tenantId).documents.any (selects scope.tenantId id) =
      db.documents.any (selects scope.tenantId id) := any_ownedBy selects_owner _
  rw [same, ← only_write_own]
  cases fate.fails with
  | some err => rfl
  | none => cases db.documents.any (selects scope.tenantId id) <;> rfl

/-- A step of the handler sees nothing but its tenant's rows and files. -/
theorem handleProcess_view (env : Env) (fate : Fate) {job : Job} (own : job.tenantId = t.val) (n : Nat)
    (db : Database) (files : Files) {pc : HandlerPc}
    (loaded : ∀ d, pc.document? = some d → InOwnDir env t.val d.storagePath) :
    handleProcess env fate job n (db.only t.val) (files.under (tenantDir env t.val)) pc =
      { handleProcess env fate job n db files pc with
        db := (handleProcess env fate job n db files pc).db.only t.val } := by
  have granted := forTenant_uuid t
  have step := fun id w next caught =>
    updateStep_only env t.scope fate db id w next caught
  rw [handleProcess, handleProcess, own, granted]
  cases pc with
  | findUnique =>
      cases fate.fails with
      | some err => rfl
      | none =>
          have same := findUnique_only t.scope db job.documentId
          change findUnique t.scope (db.only t.val) job.documentId = _ at same
          simp only [same]
          cases findUnique t.scope db job.documentId <;> rfl
  | readFile d =>
      cases fate.fails with
      | some err => rfl
      | none =>
          simp only [read_under files (loaded d rfl)]
          cases LocalStorageService.read env files d.storagePath <;> rfl
  | runOcr d b =>
      simp only
      cases ocrResult env (fate.fetch ⟨b, d.originalName, d.mimeType⟩) <;> rfl
  | updateProcessing | updateRejected | updateCompleted | incrementRetry | updateFailed =>
      exact step _ _ _ _
  | returned | threw | crashed => rfl

end Parts

/-- An action of tenant `t` acts on its view as on the whole state, answers from the view
alone, and leaves the views of the others. -/
structure Local (env : Env) (t : Uuid) (s : State) (f : State → State × Option Response) :
    Prop where
  own : (f s).1.view env t = (f (s.view env t)).1
  answer : (f s).2 = (f (s.view env t)).2
  other : ∀ t', t' ≠ t → (f s).1.view env t' = s.view env t'

section Actions
variable {env : Env} {t : Uuid} {s : State} {f : State → State × Option Response}

/-- To show that an action is local, compare its effect on the state and on the view. -/
theorem Local.of {s' v' : State} {r : Option Response} (onState : f s = (s', r))
    (onView : f (s.view env t) = (v', r)) (own : s'.view env t = v')
    (other : ∀ t', t' ≠ t → s'.view env t' = s.view env t') : Local env t s f := by
  refine ⟨?_, ?_, ?_⟩ <;> rw [onState]
  · rw [onView]
    exact own
  · rw [onView]
  · exact other

theorem Local.unchanged {r : Option Response} (onState : f s = (s, r))
    (onView : f (s.view env t) = (s.view env t, r)) : Local env t s f :=
  Local.of onState onView rfl fun _ _ => rfl

theorem view_putUpload_own (c : UploadCall) :
    ({ s with uploads := s.uploads.put c } : State).view env t =
      { s.view env t with uploads := (s.view env t).uploads.put c } := by
  simp only [State.view, Table.only_put_own]

theorem view_putUpload_other {c : UploadCall} (own : c.tenantId = t.val) {t' : Uuid}
    (h : t' ≠ t) : ({ s with uploads := s.uploads.put c } : State).view env t' = s.view env t' := by
  have foreign : Addressed.owner c ≠ t'.val := fun same => h (Uuid.val_inj.mp (same.symm.trans own))
  simp only [State.view, Table.only_put_other _ foreign]

theorem refuse_local {c : UploadCall} (own : c.tenantId = t.val) (err : JsError)
    (onState : f s = s.refuse c err) (onView : f (s.view env t) = (s.view env t).refuse c err) :
    Local env t s f :=
  Local.of onState onView (view_putUpload_own _)
    fun _ h => view_putUpload_other (c := { c with pc := .ended }) own h

theorem view_putList_own (c : ListCall) :
    ({ s with lists := s.lists.put c } : State).view env t =
      { s.view env t with lists := (s.view env t).lists.put c } := by
  simp only [State.view, Table.only_put_own]

theorem view_putList_other {c : ListCall} (own : c.tenantId = t.val) {t' : Uuid}
    (h : t' ≠ t) : ({ s with lists := s.lists.put c } : State).view env t' = s.view env t' := by
  have foreign : Addressed.owner c ≠ t'.val := fun same => h (Uuid.val_inj.mp (same.symm.trans own))
  simp only [State.view, Table.only_put_other _ foreign]

/-- Calls and deliveries of the tenant are found in the view as in the state. -/
theorem uploads_lookup (env : Env) (t : Uuid) (s : State) (key : Nat) :
    (s.uploads.find? t.val key = none ∧ (s.view env t).uploads.find? t.val key = none) ∨
      ∃ c, s.uploads.find? t.val key = some c ∧
        (s.view env t).uploads.find? t.val key = some c ∧ c.tenantId = t.val :=
  Table.lookup_only s.uploads t.val key

theorem lists_lookup (env : Env) (t : Uuid) (s : State) (key : Nat) :
    (s.lists.find? t.val key = none ∧ (s.view env t).lists.find? t.val key = none) ∨
      ∃ c, s.lists.find? t.val key = some c ∧
        (s.view env t).lists.find? t.val key = some c ∧ c.tenantId = t.val :=
  Table.lookup_only s.lists t.val key

theorem deliveries_lookup (env : Env) (t : Uuid) (s : State) (key : Nat) :
    (s.deliveries.find? t.val key = none ∧ (s.view env t).deliveries.find? t.val key = none) ∨
      ∃ dl, s.deliveries.find? t.val key = some dl ∧
        (s.view env t).deliveries.find? t.val key = some dl ∧ dl.job.tenantId = t.val :=
  Table.lookup_only s.deliveries t.val key

theorem upload_local (key : Nat) (userId : String) (file : Option MulterFile) :
    Local env t s fun s => s.upload t key userId file := by
  rcases uploads_lookup env t s key with ⟨free, found⟩ | ⟨c, free, found, -⟩
  · cases checked : checkFile file with
    | error e =>
        exact Local.unchanged (r := some (.error e)) (by simp only [State.upload, free, checked])
          (by simp only [State.upload, found, checked])
    | ok file' =>
        refine Local.of (r := none) (by simp only [State.upload, free, checked]; rfl)
          (by simp only [State.upload, found, checked]; rfl) ?_ fun t' h => ?_
        · have mine := Table.only_insert_own (t := t.val) (T := s.uploads)
            (a := ⟨t.val, key, userId, file', .save, none⟩) rfl free
          simp only [State.view, mine]
        · have foreign : t.val ≠ t'.val := fun same => h (Uuid.val_inj.mp same.symm)
          have theirs := Table.only_insert_other (t := t'.val) (T := s.uploads)
            (a := ⟨t.val, key, userId, file', .save, none⟩) foreign free
          simp only [State.view, theirs]
  · exact Local.unchanged (r := none) (by simp only [State.upload, free])
      (by simp only [State.upload, found])

theorem storageSave_local (key : Nat) (uuid : Uuid) (fails : Option JsError) :
    Local env t s fun s => s.storageSave env t key uuid fails := by
  rcases uploads_lookup env t s key with ⟨here, found⟩ | ⟨c, here, found, own⟩
  · exact Local.unchanged (r := none) (by simp only [State.storageSave, here])
      (by simp only [State.storageSave, found])
  · cases pc : c.pc with
    | create | add | ended =>
        exact Local.unchanged (r := none) (by simp only [State.storageSave, here, pc])
          (by simp only [State.storageSave, found, pc])
    | save =>
        cases fails with
        | some err =>
            exact refuse_local own err (by simp only [State.storageSave, here, pc])
              (by simp only [State.storageSave, found, pc])
        | none =>
            have place : (locate (fullPath env t.val uuid c.file.originalname)).parent =
                tenantDir env t.val := by rw [locate_fullPath, savedPlace, Place.parent_child]
            refine Local.of (r := none) (by simp only [State.storageSave, here, pc]; rfl)
              (by simp only [State.storageSave, found, pc]; rfl) ?_ fun t' h => ?_
            · simp only [State.view, Table.only_put_own, LocalStorageService.save,
                under_write_own _ place]
            · have foreign : c.tenantId ≠ t'.val :=
                fun same => h (Uuid.val_inj.mp (same.symm.trans own))
              have elsewhere : (locate (fullPath env t.val uuid c.file.originalname)).parent ≠
                  tenantDir env t'.val := by
                rw [place, ne_eq, tenantDir_inj, Uuid.val_inj]
                exact fun same => h same.symm
              simp only [State.view, LocalStorageService.save, under_write_other _ elsewhere]
              rw [Table.only_put_other _ foreign]

theorem documentCreate_local (key : Nat) (uuid : Uuid) (now : Time) (fails : Option JsError)
    (fresh : ∀ d ∈ s.db.documents, d.id ≠ uuid.val) :
    Local env t s fun s => s.documentCreate env t key uuid now fails := by
  rcases uploads_lookup env t s key with ⟨here, found⟩ | ⟨c, here, found, own⟩
  · exact Local.unchanged (r := none) (by simp only [State.documentCreate, here])
      (by simp only [State.documentCreate, found])
  · cases pc : c.pc with
    | save | add | ended =>
        exact Local.unchanged (r := none) (by simp only [State.documentCreate, here, pc])
          (by simp only [State.documentCreate, found, pc])
    | create stored =>
        cases fails with
        | some err =>
            exact refuse_local own err (by simp only [State.documentCreate, here, pc])
              (by simp only [State.documentCreate, found, pc])
        | none =>
            have free : (s.db.documents.any fun d => d.id == uuid.val) = false := by
              simpa using fresh
            have free' : ((s.view env t).db.documents.any fun d => d.id == uuid.val) = false := by
              simp only [List.any_eq_false, beq_iff_eq]
              exact fun d hd => fresh d (mem_ownedBy.mp hd).1
            refine Local.of (r := none)
              (by
                simp only [State.documentCreate, here, pc, create_eq, free, Bool.false_eq_true,
                  if_false]
                rfl)
              (by
                simp only [State.documentCreate, found, pc, create_eq, free', Bool.false_eq_true,
                  if_false]
                rfl) ?_ fun t' h => ?_
            · have mine : (Document.build ⟨uuid.val, now⟩ (createFields c.userId c.file stored)
                  t.scope.tenantId).tenantId = t.val := rfl
              simp only [State.view, Table.only_put_own, only_concat_own _ mine]
            · have foreign : c.tenantId ≠ t'.val :=
                fun same => h (Uuid.val_inj.mp (same.symm.trans own))
              have foreign' : t.val ≠ t'.val := fun same => foreign (own.trans same)
              simp only [State.view]
              rw [Table.only_put_other _ foreign, only_concat_other _ foreign']

theorem queueAdd_local (key : Nat) (fails : Option JsError) :
    Local env t s fun s => s.queueAdd t key fails := by
  rcases uploads_lookup env t s key with ⟨here, found⟩ | ⟨c, here, found, own⟩
  · exact Local.unchanged (r := none) (by simp only [State.queueAdd, here])
      (by simp only [State.queueAdd, found])
  · cases pc : c.pc with
    | save | create | ended =>
        exact Local.unchanged (r := none) (by simp only [State.queueAdd, here, pc])
          (by simp only [State.queueAdd, found, pc])
    | add document =>
        cases fails with
        | some err =>
            exact refuse_local own err (by simp only [State.queueAdd, here, pc])
              (by simp only [State.queueAdd, found, pc])
        | none =>
            refine Local.of (r := some (.document document))
              (by simp only [State.queueAdd, here, pc]; rfl)
              (by simp only [State.queueAdd, found, pc]; rfl) ?_ fun t' h => ?_
            · have mine : (processDocumentJob document t.val).tenantId = t.val := rfl
              simp only [State.view, Table.only_put_own, ownedBy_concat_own mine]
            · have foreign : c.tenantId ≠ t'.val :=
                fun same => h (Uuid.val_inj.mp (same.symm.trans own))
              have theirs : (processDocumentJob document t.val).tenantId ≠ t'.val :=
                fun same => foreign (own.trans same)
              simp only [State.view, ownedBy_concat_other theirs]
              rw [Table.only_put_other _ foreign]

theorem list_local (key : Nat) (query : ListDocumentsQueryDto) :
    Local env t s fun s => s.list t key query := by
  rcases lists_lookup env t s key with ⟨free, found⟩ | ⟨c, free, found, -⟩
  · refine Local.of (r := none) (by simp only [State.list, free]; rfl)
      (by simp only [State.list, found]; rfl) ?_ fun t' h => ?_
    · have mine := Table.only_insert_own (t := t.val) (T := s.lists)
        (a := ⟨t.val, key, query, none, none, false⟩) rfl free
      simp only [State.view, mine]
    · have foreign : t.val ≠ t'.val := fun same => h (Uuid.val_inj.mp same.symm)
      have theirs := Table.only_insert_other (t := t'.val) (T := s.lists)
        (a := ⟨t.val, key, query, none, none, false⟩) foreign free
      simp only [State.view, theirs]
  · exact Local.unchanged (r := none) (by simp only [State.list, free])
      (by simp only [State.list, found])

/-- Replacing one of the tenant's list calls. -/
theorem putList_local {c : ListCall} (own : c.tenantId = t.val) {r : Option Response}
    (onState : f s = ({ s with lists := s.lists.put c }, r))
    (onView : f (s.view env t) =
      ({ s.view env t with lists := (s.view env t).lists.put c }, r)) : Local env t s f :=
  Local.of onState onView (view_putList_own c) fun _ h => view_putList_other own h

theorem findMany_local (key : Nat) (order : RowOrder) (fails : Option JsError) :
    Local env t s fun s => s.findMany t key order fails := by
  have items := fun query => listItems_only t.scope s.db query order
  change ∀ query, listItems t.scope (s.view env t).db query order = _ at items
  rcases lists_lookup env t s key with ⟨here, found⟩ | ⟨c, here, found, own⟩
  · exact Local.unchanged (r := none) (by simp only [State.findMany, here])
      (by simp only [State.findMany, found])
  · cases ended : c.ended with
    | true =>
        exact Local.unchanged (r := none) (by simp only [State.findMany, here, ended])
          (by simp only [State.findMany, found, ended])
    | false =>
        cases known : c.items with
        | some rows =>
            exact Local.unchanged (r := none) (by simp only [State.findMany, here, ended, known])
              (by simp only [State.findMany, found, ended, known])
        | none =>
            cases fails with
            | some err =>
                exact putList_local (c := { c with ended := true }) (r := some (.error (.internal err)))
                  own (by simp only [State.findMany, here, ended, known])
                  (by simp only [State.findMany, found, ended, known])
            | none =>
                refine putList_local
                  (c := { c with items := some (listItems t.scope s.db c.query order)
                                 ended := c.total.isSome })
                  (r := c.total.map fun total =>
                    .page (listResponse c.query (listItems t.scope s.db c.query order) total))
                  own ?_ ?_
                · simp only [State.findMany, here, ended, known]
                · simp only [State.findMany, found, ended, known, items]

theorem count_local (key : Nat) (fails : Option JsError) :
    Local env t s fun s => s.count t key fails := by
  have total := listTotal_only t.scope s.db
  change ∀ query, listTotal t.scope (s.view env t).db query = _ at total
  rcases lists_lookup env t s key with ⟨here, found⟩ | ⟨c, here, found, own⟩
  · exact Local.unchanged (r := none) (by simp only [State.count, here])
      (by simp only [State.count, found])
  · cases ended : c.ended with
    | true =>
        exact Local.unchanged (r := none) (by simp only [State.count, here, ended])
          (by simp only [State.count, found, ended])
    | false =>
        cases known : c.total with
        | some n =>
            exact Local.unchanged (r := none) (by simp only [State.count, here, ended, known])
              (by simp only [State.count, found, ended, known])
        | none =>
            cases fails with
            | some err =>
                exact putList_local (c := { c with ended := true }) (r := some (.error (.internal err)))
                  own (by simp only [State.count, here, ended, known])
                  (by simp only [State.count, found, ended, known])
            | none =>
                refine putList_local
                  (c := { c with total := some (listTotal t.scope s.db c.query)
                                 ended := c.items.isSome })
                  (r := c.items.map fun items =>
                    .page (listResponse c.query items (listTotal t.scope s.db c.query)))
                  own ?_ ?_
                · simp only [State.count, here, ended, known]
                · simp only [State.count, found, ended, known, total]

theorem findOne_local (id : String) (fails : Option JsError) :
    Local env t s fun s => s.findOne t id fails := by
  cases fails with
  | some err => exact Local.unchanged (r := some (.error (.internal err))) rfl rfl
  | none =>
      have same := findUnique_only t.scope s.db id
      change findUnique t.scope (s.view env t).db id = _ at same
      cases here : findUnique t.scope s.db id with
      | none =>
          rw [here] at same
          exact Local.unchanged (r := some (.error (.notFound "Document not found")))
            (by simp only [State.findOne, DocumentsService.findOne, here])
            (by simp only [State.findOne, DocumentsService.findOne, same])
      | some doc =>
          rw [here] at same
          exact Local.unchanged (r := some (.document doc))
            (by simp only [State.findOne, DocumentsService.findOne, here])
            (by simp only [State.findOne, DocumentsService.findOne, same])

theorem view_putDelivery_other {d : Delivery} (own : d.job.tenantId = t.val) {t' : Uuid}
    (h : t' ≠ t) :
    ({ s with deliveries := s.deliveries.put d } : State).view env t' = s.view env t' := by
  have foreign : Addressed.owner d ≠ t'.val :=
    fun same => h (Uuid.val_inj.mp (same.symm.trans own))
  simp only [State.view, Table.only_put_other _ foreign]

theorem deliver_local (key : Nat) (documentId : String) (attemptsMade : Nat) :
    Local env t s fun s => s.deliver t key documentId attemptsMade := by
  have jobOwner : ∀ j, Job.isFor t.val documentId j = true → j.tenantId = t.val := by
    intro j hj
    rw [Job.isFor, Bool.and_eq_true, beq_iff_eq] at hj
    exact hj.1
  have queued : (s.view env t).queue.find? (Job.isFor t.val documentId) =
      s.queue.find? (Job.isFor t.val documentId) := find?_ownedBy jobOwner _
  rcases deliveries_lookup env t s key with ⟨free, found⟩ | ⟨dl, free, found, -⟩
  · cases named : s.queue.find? (Job.isFor t.val documentId) with
    | none =>
        rw [named] at queued
        exact Local.unchanged (r := none) (by simp only [State.deliver, free, named])
          (by simp only [State.deliver, found, queued])
    | some job =>
        rw [named] at queued
        have own : job.tenantId = t.val := jobOwner job (List.find?_some named)
        have free' : s.deliveries.find? job.tenantId key = none := own ▸ free
        refine Local.of (r := none) (by simp only [State.deliver, free, named]; rfl)
          (by simp only [State.deliver, found, queued]; rfl) ?_ fun t' h => ?_
        · have mine := Table.only_insert_own (t := t.val) (T := s.deliveries)
            (a := ⟨key, job, attemptsMade, .findUnique, [], []⟩) own free'
          simp only [State.view, mine]
        · have foreign : job.tenantId ≠ t'.val :=
            fun same => h (Uuid.val_inj.mp (same.symm.trans own))
          have theirs := Table.only_insert_other (t := t'.val) (T := s.deliveries)
            (a := ⟨key, job, attemptsMade, .findUnique, [], []⟩) foreign free'
          simp only [State.view, theirs]
  · exact Local.unchanged (r := none) (by simp only [State.deliver, free])
      (by simp only [State.deliver, found])

theorem crash_local (key : Nat) : Local env t s fun s => s.crash t key := by
  rcases deliveries_lookup env t s key with ⟨here, found⟩ | ⟨dl, here, found, own⟩
  · exact Local.unchanged (r := none) (by simp only [State.crash, here])
      (by simp only [State.crash, found])
  · cases done : dl.pc.ended with
    | true =>
        exact Local.unchanged (r := none) (by simp only [State.crash, here, done, if_true])
          (by simp only [State.crash, found, done, if_true])
    | false =>
        refine Local.of (r := none)
          (by simp only [State.crash, here, done, Bool.false_eq_true, if_false]; rfl)
          (by simp only [State.crash, found, done, Bool.false_eq_true, if_false]; rfl) ?_
          fun t' h => ?_
        · simp only [State.view, Table.only_put_own]
        · exact view_putDelivery_other (d := { dl with pc := .crashed }) own h

theorem work_local (contained : Contained env s) (key : Nat) (fate : Fate) :
    Local env t s fun s => s.work env t key fate := by
  rcases deliveries_lookup env t s key with ⟨here, found⟩ | ⟨dl, here, found, own⟩
  · exact Local.unchanged (r := none) (by simp only [State.work, here])
      (by simp only [State.work, found])
  · obtain ⟨mem, addr⟩ := Table.find?_eq_some.mp here
    have own : dl.job.tenantId = t.val := (address_eq.mp addr).1
    have loaded : ∀ d, dl.pc.document? = some d → InOwnDir env t.val d.storagePath := by
      intro d hd
      rw [← own]
      exact contained.loaded dl mem d hd
    have step := handleProcess_view env fate own dl.attemptsMade s.db s.files loaded
    have written := (handleProcess_move env fate dl.job dl.attemptsMade s.db s.files dl.pc).2
    refine Local.of (r := none) (by simp only [State.work, here]; rfl)
      (by simp only [State.work, found]; rfl) ?_ fun t' h => ?_
    · simp only [State.view, Table.only_put_own, step]
    · have foreign : t'.val ≠ dl.job.tenantId := fun same => h (Uuid.val_inj.mp (same.trans own))
      have rows : (handleProcess env fate dl.job dl.attemptsMade s.db s.files dl.pc).db.only t'.val =
          s.db.only t'.val := by
        rw [written]
        cases (handleProcess env fate dl.job dl.attemptsMade s.db s.files dl.pc).wrote with
        | none => rfl
        | some w => exact only_write_other s.db foreign _ w
      simp only [State.view, rows]
      rw [Table.only_put_other _ (fun same => foreign same.symm)]

end Actions

section Invariant
variable {env : Env} {s s' : State} {e : Event}

theorem Contained.rows_step (h : Contained env s) (tr : Transition env s e s') :
    ∀ d ∈ s'.db.documents, InOwnDir env d.tenantId d.storagePath := by
  intro d' hd'
  cases tr with
  | idle | listed | received | refused | saved | enqueued | delivered | crashed =>
      exact h.rows d' hd'
  | created t uuid now c stored mem own pc free =>
      cases List.mem_append.mp hd' with
      | inl old => exact h.rows d' old
      | inr new =>
          rw [List.mem_singleton.mp new]
          exact h.creating c mem stored pc
  | worked t fate dl wrote exchange pc mem own move =>
      have same : d'.submission ∈ s.submissions := by
        rw [State.submissions, ← written_submissions s.db dl.job.tenantId dl.job.documentId wrote]
        exact List.mem_map_of_mem hd'
      obtain ⟨d, hd, equal⟩ := mem_submissions.mp same
      have tenant : d.tenantId = d'.tenantId := congrArg Submission.tenantId equal
      have path : d.storagePath = d'.storagePath := congrArg Submission.storagePath equal
      rw [← tenant, ← path]
      exact h.rows d hd

theorem Contained.creating_step (h : Contained env s) (tr : Transition env s e s') :
    ∀ c ∈ s'.uploads, ∀ stored, c.pc = .create stored →
      InOwnDir env c.tenantId stored.storagePath := by
  cases tr with
  | idle | listed | delivered | worked | crashed => exact h.creating
  | received t key userId file free checked =>
      exact Table.forall_insert h.creating fun _ pc => nomatch pc
  | refused | created | enqueued => exact Table.forall_put h.creating fun _ pc => nomatch pc
  | saved t uuid c mem own pc =>
      refine Table.forall_put h.creating fun stored hpc => ?_
      cases hpc
      exact ⟨uuid, c.file.originalname, by rw [own]; rfl⟩

/-- A row that the handler carries on was loaded before, or has just been found. -/
theorem Move.document_kept {job : Job} {n : Nat} {pc pc' : HandlerPc}
    {wrote : Option DocumentWrite} {exchange : Option (OcrRequest × OcrReply)}
    (move : Move env job n s.db s.files pc wrote exchange pc') {d : Document}
    (hd : pc'.document? = some d) :
    pc.document? = some d ∨ (d ∈ s.db.documents ∧ d.tenantId = job.tenantId) := by
  cases move with
  | found d' row =>
      cases hd
      exact Or.inr ⟨List.mem_of_find?_eq_some row, selects_owner _ (List.find?_some row)⟩
  | claimed | claimedPdf | read | idle => exact Or.inl hd
  | rejected | answered | unanswered | completed | unread | uncompleted | countedFinal | counted
  | failed | threw => cases hd

theorem Contained.loaded_step (h : Contained env s) (tr : Transition env s e s') :
    ∀ dl ∈ s'.deliveries, ∀ d, dl.pc.document? = some d →
      InOwnDir env dl.job.tenantId d.storagePath := by
  cases tr with
  | idle | listed | received | refused | saved | created | enqueued => exact h.loaded
  | delivered t key job attemptsMade mem own free =>
      exact Table.forall_insert h.loaded fun _ hd => nomatch hd
  | crashed t dl mem live => exact Table.forall_put h.loaded fun _ hd => nomatch hd
  | worked t fate dl wrote exchange pc mem own move =>
      refine Table.forall_put h.loaded fun d hd => ?_
      cases Move.document_kept move hd with
      | inl before => exact h.loaded dl mem d before
      | inr found =>
          have path := h.rows d found.1
          rw [found.2] at path
          exact path

theorem Contained.preserved (h : Contained env s) (tr : Transition env s e s') :
    Contained env s' := ⟨h.rows_step tr, h.creating_step tr, h.loaded_step tr⟩

theorem Contained.init (tenants : List Tenant) (users : List User) (apiKeys : List ApiKey) :
    Contained env (State.init tenants users apiKeys) where
  rows _ hd := nomatch hd
  creating c hc := absurd hc (Table.not_mem_empty c)
  loaded dl hdl := absurd hdl (Table.not_mem_empty dl)

end Invariant

theorem step_local (env : Env) (s : State) (e : Event) (contained : Contained env s)
    (fresh : FreshDocument s e) : Local env e.tenant s fun s => step env s e := by
  obtain ⟨t, action⟩ := e
  cases action with
  | upload key userId file => exact upload_local key userId file
  | storageSave key uuid fails => exact storageSave_local key uuid fails
  | documentCreate key uuid now fails => exact documentCreate_local key uuid now fails fresh
  | queueAdd key fails => exact queueAdd_local key fails
  | list key query => exact list_local key query
  | findMany key order fails => exact findMany_local key order fails
  | count key fails => exact count_local key fails
  | findOne id fails => exact findOne_local id fails
  | deliver key documentId attemptsMade => exact deliver_local key documentId attemptsMade
  | work key fate => exact work_local contained key fate
  | crash key => exact crash_local key

/-- The views of the tenants separate the system. -/
theorem tenants_separate (env : Env) :
    Separates (step env) Event.tenant (State.view env) (Contained env) FreshDocument where
  keeps s e h _ := h.preserved (step_transition env s e)
  own s e h fresh := (step_local env s e h fresh).own
  answer s e h fresh := (step_local env s e h fresh).answer
  other s e t h fresh ne := (step_local env s e h fresh).other t (Ne.symm ne)

/-- The id generated for a document to be created. -/
def Event.documentUuid (e : Event) : Option Uuid :=
  match e.action with
  | .documentCreate _ uuid _ _ => some uuid
  | _ => none

def DocumentUsed (s : State) (u : Uuid) : Prop := ∃ r ∈ s.submissions, r.id = u.val

theorem Transition.document_used {env : Env} {s s' : State} {e : Event}
    (tr : Transition env s e s') {u : Uuid} (h : DocumentUsed s' u) :
    DocumentUsed s u ∨ e.documentUuid = some u := by
  obtain ⟨r, hr, hid⟩ := h
  cases tr with
  | idle | listed | received | refused | saved | enqueued | delivered | crashed =>
      exact Or.inl ⟨r, hr, hid⟩
  | worked t fate dl wrote exchange pc mem own move =>
      rw [State.submissions, written_submissions] at hr
      exact Or.inl ⟨r, hr, hid⟩
  | created t uuid now c stored mem own pc free =>
      rw [State.submissions, List.map_append] at hr
      cases List.mem_append.mp hr with
      | inl old => exact Or.inl ⟨r, old, hid⟩
      | inr new =>
          rw [List.mem_singleton.mp new] at hid
          exact Or.inr (congrArg some (Uuid.val_inj.mp hid))

theorem along_freshDocument (env : Env) {s : State} {es : List Event}
    (nodup : (es.filterMap Event.documentUuid).Nodup) (empty : s.submissions = []) :
    Along (step env) FreshDocument s es := by
  have unused : ∀ u, DocumentUsed s u → u ∉ es.filterMap Event.documentUuid := by
    rintro u ⟨r, hr, _⟩
    rw [empty] at hr
    cases hr
  have grows := fun s e u => (step_transition env s e).document_used (u := u)
  refine (along_fresh (step env) grows nodup unused).mono (step env) fun s e unused => ?_
  obtain ⟨t, action⟩ := e
  cases action with
  | documentCreate key uuid now fails =>
      intro d hd same
      exact unused uuid rfl ⟨d.submission, mem_submissions.mpr ⟨d, hd, rfl⟩, same⟩
  | upload | storageSave | queueAdd | list | findMany | count | findOne | deliver | work
  | crash => trivial

/-- Two runs give the tenant the same responses, and leave it the same documents and
stored files. -/
structure SameFor (env : Env) (t : Uuid) (s : State) (es es' : List Event) : Prop where
  responses : (answers (step env) s es).filter (fun r => r.1.tenant = t) =
    (answers (step env) s es').filter (fun r => r.1.tenant = t)
  documents : ownedBy Document.tenantId t.val (run (step env) s es).db.documents =
    ownedBy Document.tenantId t.val (run (step env) s es').db.documents
  files : ∀ p : Place, p.parent = tenantDir env t.val →
    (run (step env) s es).files p = (run (step env) s es').files p

/-- For tenant `b`, documents of tenant `a` do not exist: `findOne` answers as for an id
that no document has. -/
def Hides (env : Env) (a b : Uuid) (s : State) : Prop :=
  ∀ d ∈ s.db.documents, d.tenantId = a.val → ∀ id, (∀ d' ∈ s.db.documents, d'.id ≠ id) →
    ∀ fails, (step env s ⟨b, .findOne d.id fails⟩).2 = (step env s ⟨b, .findOne id fails⟩).2

theorem Coherent.hides {s : State} (co : Coherent s) (env : Env) {a b : Uuid} (h : a ≠ b) :
    Hides env a b s := by
  intro d hd own id absent fails
  cases fails with
  | some err => rfl
  | none =>
      have missing : ∀ i, (∀ x ∈ s.db.documents, x.id = i → x.tenantId ≠ b.val) →
          (step env s ⟨b, .findOne i none⟩).2 =
            some (.error (.notFound "Document not found")) := by
        intro i foreign
        have unfound : findUnique b.scope s.db i = none := by
          rw [findUnique_eq, List.find?_eq_none]
          intro x hx hsel
          have sel := selects_iff.mp hsel
          exact foreign x hx sel.2 sel.1
        simp only [step, State.findOne, DocumentsService.findOne, unfound]
      rw [missing id fun x hx same => absurd same (absent x hx), missing d.id]
      intro x hx same
      rw [co.row_unique hx hd same, own]
      exact fun equal => h (Uuid.val_inj.mp equal)

/-- Deleting all requests and job steps of tenant `a` from a run changes nothing for
another tenant `b`, and `b` cannot tell a document of `a` from none. -/
theorem tenants_noninterference (env : Env) (tenants : List Tenant) (users : List User)
    (apiKeys : List ApiKey) (es : List Event) (fresh : (es.filterMap Event.documentUuid).Nodup)
    (a b : Uuid) (distinct : a ≠ b) :
    SameFor env b (State.init tenants users apiKeys) es (es.filter fun e => e.tenant ≠ a) ∧
      Hides env a b (run (step env) (State.init tenants users apiKeys) es) := by
  have purged : ((es.filter fun e => e.tenant ≠ a).filterMap Event.documentUuid).Nodup :=
    fresh.sublist (List.filter_sublist.filterMap _)
  have same := (tenants_separate env).purge distinct (Contained.init tenants users apiKeys)
    (along_freshDocument env fresh rfl) (along_freshDocument env purged rfl)
  refine ⟨⟨same.2, ?_, ?_⟩, ?_⟩
  · exact congrArg (fun s : State => s.db.documents) same.1
  · intro p hp
    have files := congrFun (congrArg State.files same.1) p
    simp only [State.view, Files.under, hp, if_true] at files
    exact files
  · exact (Lifecycle.reachable env tenants users apiKeys es).coherent.hides env distinct

section Example
open Sample

theorem tenants_noninterference_two_uploads :
    SameFor env globex (State.init [] [] [])
        (uploaded acme file1 doc1 ++ uploaded globex file2 doc2 ++ processed acme doc1 ++
          processed globex doc2)
        ((uploaded acme file1 doc1 ++ uploaded globex file2 doc2 ++ processed acme doc1 ++
          processed globex doc2).filter fun e => e.tenant ≠ acme) ∧
      Hides env acme globex (run (step env) (State.init [] [] [])
        (uploaded acme file1 doc1 ++ uploaded globex file2 doc2 ++ processed acme doc1 ++
          processed globex doc2)) :=
  tenants_noninterference env [] [] []
    (uploaded acme file1 doc1 ++ uploaded globex file2 doc2 ++ processed acme doc1 ++
      processed globex doc2) (by decide +kernel) acme globex (by decide +kernel)

end Example
end IdpSaas
